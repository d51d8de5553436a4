/-!
# Outcomes of ordering two values

Four answers are possible. Three are those of a total order, and the fourth is
what a NaN leaves behind.
-/

namespace ValueOrder

/-- How the left value stands to the right one. -/
inductive Outcome where
  | less
  | equal
  | greater
  /-- Neither below, nor equal, nor above: a NaN decided. -/
  | unordered
  deriving DecidableEq, Repr, Inhabited

namespace Outcome

/-- The outcome that a total order gives. -/
def ofOrdering : Ordering → Outcome
  | .lt => .less
  | .eq => .equal
  | .gt => .greater

/-- The total order's answer, when there is one. -/
def toOrdering? : Outcome → Option Ordering
  | .less => some .lt
  | .equal => some .eq
  | .greater => some .gt
  | .unordered => none

/-- The outcome seen with the two values exchanged. -/
def reverse : Outcome → Outcome
  | .less => .greater
  | .greater => .less
  | o => o

def name : Outcome → String
  | .less => "Less"
  | .equal => "Equal"
  | .greater => "Greater"
  | .unordered => "Unordered"

@[simp] theorem toOrdering?_ofOrdering (o : Ordering) : (ofOrdering o).toOrdering? = some o := by
  cases o <;> rfl

@[simp] theorem reverse_reverse (o : Outcome) : o.reverse.reverse = o := by
  cases o <;> rfl

@[simp] theorem reverse_ofOrdering (o : Ordering) : (ofOrdering o).reverse = ofOrdering o.swap := by
  cases o <;> rfl

end Outcome

end ValueOrder
