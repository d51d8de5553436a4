import ValueOrder.Decimal.Shortest

/-!
# Decimal layouts

How a decimal is laid out as text. The plain layout is positional at every
size. The document layout is positional for moderate sizes only, always shows
a fraction or an exponent, and always signs the exponent.
-/

namespace ValueOrder

/-- The choices that tell one layout of a number from another. -/
structure Layout where
  /-- Which of two equally near shortest decimals is shown. -/
  tie : Tie
  /-- The decimal exponents shown positionally, from the first up to but not
  including the second; no bounds mean all. -/
  positional : Option (Int × Int)
  /-- What follows a whole number that is shown positionally. -/
  wholeSuffix : String
  deriving Repr

namespace Layout

/-- Plain numbers: `-0`, `0.1`, `100000000000000000000000`. -/
def plain : Layout := ⟨.up, none, ""⟩

/-- Numbers in documents: `-0.0`, `0.00001`, `1e-6`, `1e+16`. -/
def document : Layout := ⟨.even, some (-5, 16), ".0"⟩

def zeros (n : Nat) : List Char := List.replicate n '0'

/-- Digits with the decimal point after the first `point` places, zeros filled
in where the digits do not reach. -/
def pointed (suffix : String) (digits : List Char) (point : Int) : List Char :=
  if point ≤ 0 then '0' :: '.' :: (zeros (-point).toNat ++ digits)
  else if (digits.length : Int) ≤ point then
    digits ++ zeros (point - digits.length).toNat ++ suffix.toList
  else digits.take point.toNat ++ '.' :: digits.drop point.toNat

/-- One digit, the point and the others if there are any, and the exponent with
its sign. -/
def scientific (digits : List Char) (exponent : Int) : List Char :=
  let mantissa := match digits with
    | first :: second :: others => first :: '.' :: second :: others
    | short => short
  let sign := if exponent < 0 then '-' else '+'
  mantissa ++ 'e' :: sign :: Nat.toDigits 10 exponent.natAbs

/-- The text of a decimal that has no sign. -/
def magnitudeText (l : Layout) (d : Decimal) : List Char :=
  let digits := Nat.toDigits 10 d.coefficient
  let point := digits.length + d.exponent
  let isPositional := match l.positional with
    | none => true
    | some (first, last) => first < point && point ≤ last
  if isPositional then pointed l.wholeSuffix digits point else scientific digits (point - 1)

/-- The text of a double: `nan` for every NaN, `inf` for infinities, else its
shortest decimal. The sign bit shows on all but a NaN. -/
def text (l : Layout) (x : Binary64) : String :=
  if x.isNaN then "nan"
  else
    let body := if x.isInfinite then "inf".toList
      else l.magnitudeText (Decimal.shortest l.tie x)
    .ofList (if x.isNegative then '-' :: body else body)

end Layout

end ValueOrder
