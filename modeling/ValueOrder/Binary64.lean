import ValueOrder.Outcome

/-!
# Doubles as bit patterns

A double is its 64 bits: a sign, eleven exponent bits and fifty-two fraction
bits. Every finite double is a whole number of units of `2 ^ -1074`, so the
exact value of its magnitude is a natural number, and no arithmetic here is
approximate.
-/

namespace ValueOrder

/-- An IEEE 754 binary64 bit pattern. Distinct patterns are distinct doubles. -/
structure Binary64 where
  bits : UInt64
  deriving DecidableEq, Repr, Inhabited

namespace Binary64

/-- The pattern of positive infinity, which is also its magnitude. -/
def infinityMagnitude : Nat := 0x7FF0000000000000

def signBit : Nat := 0x8000000000000000

/-- The bit above the fraction. A normal double has it without storing it. -/
def hiddenBit : Nat := 0x10000000000000

/-- The bits below the sign. Among doubles that are not NaN a larger magnitude
is a larger absolute value. -/
def magnitude (x : Binary64) : Nat := x.bits.toNat % signBit

def isNegative (x : Binary64) : Bool := signBit ≤ x.bits.toNat

/-- Whether the pattern is a NaN, of any sign and payload. -/
def isNaN (x : Binary64) : Bool := infinityMagnitude < x.magnitude

def isInfinite (x : Binary64) : Bool := x.magnitude = infinityMagnitude

def isZero (x : Binary64) : Bool := x.magnitude = 0

/-- The double of a magnitude, with the sign bit clear. -/
def ofMagnitude (m : Nat) : Binary64 := ⟨UInt64.ofNat m⟩

def neg (x : Binary64) : Binary64 := ⟨x.bits ^^^ 0x8000000000000000⟩

/-- The magnitude of a finite double counted in units of `2 ^ -1074`. -/
def units (x : Binary64) : Nat :=
  let exponent := x.magnitude / hiddenBit
  let fraction := x.magnitude % hiddenBit
  -- Exponent 0 counts the same unit as exponent 1, without the hidden bit.
  if exponent = 0 then fraction else (hiddenBit + fraction) * Nat.pow 2 (exponent - 1)

/-! ## Named doubles -/

/-- The quiet NaN with an empty payload. -/
def nan : Binary64 := ⟨0x7FF8000000000000⟩

def infinity : Binary64 := ⟨0x7FF0000000000000⟩
def negInfinity : Binary64 := ⟨0xFFF0000000000000⟩
def zero : Binary64 := ⟨0⟩
def negZero : Binary64 := ⟨0x8000000000000000⟩
def one : Binary64 := ⟨0x3FF0000000000000⟩

/-! ## Order -/

/-- The place of a double that is not a NaN on the line of all doubles: its
magnitude, counted downwards when the sign bit is set. Both zeros have place 0. -/
def rank (x : Binary64) : Int :=
  if x.isNegative then -(x.magnitude : Int) else x.magnitude

/-- Orders two doubles: a NaN on either side is unordered, and all others stand
as their ranks do. -/
def order (x y : Binary64) : Outcome :=
  if x.isNaN || y.isNaN then .unordered else .ofOrdering (compare x.rank y.rank)

end Binary64

end ValueOrder
