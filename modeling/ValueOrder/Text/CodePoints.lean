/-!
# Ranges of code points

A property of characters is stored as the ranges of code points that have it.
-/

namespace ValueOrder.Text

/-- The code points from the first to the second, both included. -/
abbrev CodePoints := Nat × Nat

/-- Whether a code point lies in one of the ranges, which ascend. -/
def CodePoints.anyHolds (n : Nat) : List CodePoints → Bool
  | [] => false
  | (first, last) :: rest => first ≤ n && (n ≤ last || anyHolds n rest)

end ValueOrder.Text
