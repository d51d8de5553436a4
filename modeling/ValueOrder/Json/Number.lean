import ValueOrder.Json
import ValueOrder.Json.Token

/-!
# Numbers as written

A number literal is its sign and three runs of digits. An integer that fits
64 bits is kept exactly. Any other literal becomes a double in steps: its first
digits are gathered into a 64-bit integer, that integer is rounded to a double,
and the double is multiplied or divided by a power of ten that is itself a
double. The steps round separately, so the result is not always the double
nearest to the literal.
-/

namespace ValueOrder.Json

/-- A number literal. Without a decimal point the fraction has no digits. -/
structure Literal where
  negative : Bool
  whole : List Nat
  fraction : List Nat
  /-- Whether the exponent is negative, and its digits. -/
  exponent : Option (Bool × List Nat)
  deriving DecidableEq, Repr

/-! ## Digits -/

def digitValue (c : Char) : Nat := c.toNat - '0'.toNat

def leadingDigits (s : List Char) : List Nat := (s.takeWhile Char.isDigit).map digitValue

def skipDigits (s : List Char) : List Char := s.dropWhile Char.isDigit

theorem length_skipDigits_le (s : List Char) : (skipDigits s).length ≤ s.length :=
  (List.dropWhile_sublist _).length_le

/-- Takes a run of at least one digit. `atEnd` says what it means that the text
ends instead. -/
def takeDigits (atEnd : Reason) : (s : List Char) → Step (Fault Reason) (List Nat) s
  | [] => .error (.before atEnd [])
  | c :: rest =>
    if c.isDigit then
      .ok ⟨digitValue c :: leadingDigits rest, skipDigits rest,
        Nat.lt_succ_of_le (length_skipDigits_le rest)⟩
    else .error (.counting .invalidNumber (c :: rest))

/-! ## Literals -/

/-- Takes a minus sign if there is one, and tells whether there was. -/
def takeMinus : (s : List Char) → Bool × Rest s
  | [] => (false, .all [])
  | c :: rest =>
    if c = '-' then (true, .tail c rest) else (false, .all (c :: rest))

/-- Takes a sign of either kind if there is one, and tells whether it is minus. -/
def takeSign : (s : List Char) → Bool × Rest s
  | [] => (false, .all [])
  | c :: rest =>
    if c = '-' then (true, .tail c rest)
    else if c = '+' then (false, .tail c rest)
    else (false, .all (c :: rest))

/-- Takes the digits before the decimal point. A zero stands alone. -/
def takeWhole (atEnd : Reason) (s : List Char) : Step (Fault Reason) (List Nat) s :=
  match s with
  | '0' :: d :: rest =>
    if d.isDigit then .error (.counting .invalidNumber (d :: rest))
    else .ok ⟨[0], d :: rest, Nat.lt_succ_self _⟩
  | s => takeDigits atEnd s

/-- Takes a decimal point and the digits after it, if there is one. -/
def takeFraction (atEnd : Reason) : (s : List Char) → Except (Fault Reason) (List Nat × Rest s)
  | [] => .ok ([], .all [])
  | c :: rest =>
    if c = '.' then
      (takeDigits atEnd rest).map fun r =>
        (r.value, ⟨r.rest, Nat.le_succ_of_le (Nat.le_of_lt r.shorter)⟩)
    else .ok ([], .all (c :: rest))

/-- Takes an exponent, if there is one. -/
def takeExponent (atEnd : Reason) :
    (s : List Char) → Except (Fault Reason) (Option (Bool × List Nat) × Rest s)
  | [] => .ok (none, .all [])
  | c :: rest =>
    if c = 'e' || c = 'E' then
      let (negative, ⟨digits, h⟩) := takeSign rest
      (takeDigits atEnd digits).map fun r =>
        (some (negative, r.value),
          ⟨r.rest, Nat.le_succ_of_le (Nat.le_trans (Nat.le_of_lt r.shorter) h)⟩)
    else .ok (none, .all (c :: rest))

/-- Takes a number literal. `atEnd` says what it means that the text ends where a
digit has to stand. -/
def takeLiteral (atEnd : Reason) (s : List Char) : Step (Fault Reason) Literal s := do
  let (negative, ⟨s₁, h₁⟩) := takeMinus s
  let whole ← takeWhole atEnd s₁
  let (fraction, ⟨s₂, h₂⟩) ← takeFraction atEnd whole.rest
  let (exponent, ⟨s₃, h₃⟩) ← takeExponent atEnd s₂
  .ok ⟨⟨negative, whole.value, fraction, exponent⟩, s₃,
    Nat.lt_of_le_of_lt (Nat.le_trans h₃ h₂) (Nat.lt_of_lt_of_le whole.shorter h₁)⟩

/-! ## The double of a literal -/

/-- Appends digits to an integer as long as it stays below `2 ^ 64`. The first
digit that does not fit and all after it are dropped; their number is returned
too. -/
def gather (s : Nat) : List Nat → Nat × Nat
  | [] => (s, 0)
  | d :: ds =>
    if s * 10 + d < 0x10000000000000000 then gather (s * 10 + d) ds else (s, ds.length + 1)

/-- The value of exponent digits. When it leaves the range of 32-bit integers, the
number of digits not looked at. -/
def exponentValue (e : Nat) : List Nat → Except Nat Nat
  | [] => .ok e
  | d :: ds =>
    if e * 10 + d < 0x80000000 then exponentValue (e * 10 + d) ds else .error ds.length

/-- Exponents stop at the ends of the range of 32-bit integers. -/
def saturated (e : Int) : Int := max (-0x80000000) (min e 0x7FFFFFFF)

/-- A double times a power of ten, by one product or, for a negative exponent, by
quotients in strides of 308. There is no result when it would be infinite. -/
def scaled? (f : Binary64) (e : Int) : Option Binary64 :=
  if 0 ≤ e then
    if e ≤ 308 then
      let g := f.mul (.tenTo e.toNat)
      if g.isInfinite then none else some g
    -- Only a zero stands any power.
    else if f.isZero then some f else none
  else if h : -308 ≤ e then some (f.div (.tenTo (-e).toNat))
  else if f.isZero then some f
  else scaled? (f.div (.tenTo 308)) (e + 308)
termination_by (-e).toNat
decreasing_by omega

namespace Literal

def signed (l : Literal) (x : Binary64) : Binary64 := if l.negative then x.neg else x

/-- The double of gathered digits and an exponent, or none if it is out of range. -/
def double? (l : Literal) (significand : Nat) (e : Int) : Except Nat JsonNumber :=
  match scaled? (.ofNat significand) e with
  | some x => .ok (.double (l.signed x))
  | none => .error 0

/-- The number that a literal without point and exponent denotes when its digits
fit 64 bits. A negative one beyond the 64-bit integers, or minus zero, is a
double. -/
def integer (l : Literal) (n : Nat) : JsonNumber :=
  if !l.negative then .integer n
  else if n = 0 || 0x8000000000000000 < n then .double (Binary64.ofNat n).neg
  else .integer (-n)

/-- The number that a literal denotes. A literal out of range is an error with the
number of its digits that need not be looked at to know. -/
def number (l : Literal) : Except Nat JsonNumber :=
  let (leading, dropped) := gather 0 l.whole
  if l.fraction = [] ∧ l.exponent = none ∧ dropped = 0 then .ok (l.integer leading)
  else
    let (significand, unused) := gather leading l.fraction
    -- Digits that were dropped before the point still count as places, and those that were
    -- kept behind it count as places downwards.
    let point : Int := (dropped : Int) - (l.fraction.length - unused)
    match l.exponent with
    | none => l.double? significand point
    | some (negative, digits) =>
      match exponentValue 0 digits with
      | .ok e => l.double? significand (saturated (if negative then point - e else point + e))
      | .error unread =>
        -- So large an exponent leads past all doubles, upwards or down to zero.
        if significand ≠ 0 ∧ !negative then .error unread
        else .ok (.double (l.signed .zero))

end Literal

def takeNumber (s : List Char) : Step (Fault Reason) JsonNumber s := do
  let l ← takeLiteral .endInValue s
  match l.value.number with
  | .ok n => .ok (l.map fun _ => n)
  | .error unread => .error ⟨.numberOutOfRange, byteLength l.rest + unread⟩

end ValueOrder.Json
