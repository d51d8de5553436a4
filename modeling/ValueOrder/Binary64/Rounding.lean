import ValueOrder.Binary64

/-!
# Rounding to a double

A non-negative quotient, counted in units of `2 ^ -1074`, is rounded once, to
the nearest double and on a tie to the even one. Integers, products, quotients
and powers of ten are all rounded by this one function.
-/

namespace ValueOrder

/-- The integer nearest to `n / d`, and the even one of two equally near. -/
def roundHalfEven (n d : Nat) : Nat :=
  let q := n / d
  let twice := 2 * (n % d)
  if twice < d then q
  else if d < twice then q + 1
  else if q % 2 = 0 then q else q + 1

namespace Binary64

/-- How many units make one. -/
def unit : Nat := Nat.pow 2 1074

/-- The binade of `t` units: how often the unit doubles before `t` counts fewer
than `2 ^ 53` of it. -/
def binade (t : Nat) : Nat := (t.log2 + 1) - 53

/-- The double nearest to `n / d` units, ties to even. A result beyond the
largest finite double is infinity. -/
def ofUnits (n d : Nat) : Binary64 :=
  let k := binade (n / d)
  -- The hidden bit is carried into the exponent, and so is one more if rounding fills the
  -- significand up.
  ofMagnitude (min infinityMagnitude (k * hiddenBit + roundHalfEven n (d * Nat.pow 2 k)))

def ofNat (n : Nat) : Binary64 := ofUnits (n * unit) 1

/-- The double nearest to an integer. Zero has a clear sign bit. -/
def ofInt : Int → Binary64
  | .ofNat n => ofNat n
  | .negSucc n => (ofNat (n + 1)).neg

/-- The product of two finite magnitudes, rounded once. -/
def mul (x y : Binary64) : Binary64 := ofUnits (x.units * y.units) unit

/-- The quotient of two finite magnitudes, rounded once. -/
def div (x y : Binary64) : Binary64 := ofUnits (x.units * unit) y.units

def tenTo (k : Nat) : Binary64 := ofNat (Nat.pow 10 k)

end Binary64

end ValueOrder
