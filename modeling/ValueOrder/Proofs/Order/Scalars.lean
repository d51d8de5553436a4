import ValueOrder.Binary64
import ValueOrder.Text.Order

/-!
# The order of doubles and of texts

Doubles other than NaN are compared by rank, and texts by their bytes. Both are
transitive comparisons, so exchange, succession of steps and replacement of equals
are proved once for all such comparisons.
-/

namespace ValueOrder

namespace Outcome

/-- The outcome of a step that goes up or stays level. -/
def Rising (o : Outcome) : Prop := o = .less ∨ o = .equal

/-- The outcome over two steps: the first that is not equal counts. -/
def followedBy : Outcome → Outcome → Outcome
  | .equal, o => o
  | o, _ => o

@[simp] theorem equal_followedBy (o : Outcome) : equal.followedBy o = o := rfl

@[simp] theorem less_followedBy (o : Outcome) : less.followedBy o = .less := rfl

theorem followedBy_less {o : Outcome} (rising : o.Rising) : o.followedBy .less = .less := by
  rcases rising with rfl | rfl <;> rfl

theorem rising_followedBy {o p : Outcome} (first : o.Rising) (second : p.Rising) :
    (o.followedBy p).Rising := by
  rcases first with rfl | rfl
  · exact .inl rfl
  · exact second

/-- Over two rising steps the outcome is less if one of the steps is. -/
theorem followedBy_eq_less_iff {o p : Outcome} (first : o.Rising) :
    o.followedBy p = .less ↔ o = .less ∨ p = .less := by
  rcases first with rfl | rfl <;> simp

theorem reverse_eq_iff {o p : Outcome} : o.reverse = p ↔ o = p.reverse := by
  constructor
  · rintro rfl
    exact (reverse_reverse o).symm
  · rintro rfl
    exact reverse_reverse p

section Comparisons
variable {α : Type} {cmp : α → α → Ordering} [Std.TransCmp cmp] {a b c : α}

theorem ofOrdering_exchange : ofOrdering (cmp b a) = (ofOrdering (cmp a b)).reverse := by
  have swapped : cmp b a = (cmp a b).swap := Std.OrientedCmp.eq_swap
  rw [reverse_ofOrdering, swapped]

theorem ofOrdering_succession (first : (ofOrdering (cmp a b)).Rising)
    (second : (ofOrdering (cmp b c)).Rising) :
    ofOrdering (cmp a c) = (ofOrdering (cmp a b)).followedBy (ofOrdering (cmp b c)) := by
  cases step : cmp a b with
  | lt =>
    cases next : cmp b c with
    | lt => rw [Std.TransCmp.lt_trans step next]; rfl
    | eq => rw [Std.TransCmp.lt_of_lt_of_eq step next]; rfl
    | gt => simp [next, ofOrdering, Rising] at second
  | eq => rw [Std.TransCmp.congr_left step]; rfl
  | gt => simp [step, ofOrdering, Rising] at first

theorem ofOrdering_replacement (equal : ofOrdering (cmp a b) = .equal) :
    ofOrdering (cmp a c) = ofOrdering (cmp b c) := by
  cases step : cmp a b with
  | eq => rw [Std.TransCmp.congr_left step]
  | lt | gt => simp [step, ofOrdering] at equal

end Comparisons

end Outcome

/-! ## Doubles -/

namespace Binary64

theorem order_of_nan {x y : Binary64} (nan : x.isNaN ∨ y.isNaN) : order x y = .unordered := by
  simp [order, nan]

theorem order_of_not_nan {x y : Binary64} (left : ¬ x.isNaN) (right : ¬ y.isNaN) :
    order x y = .ofOrdering (compare x.rank y.rank) := by
  simp [order, left, right]

/-- Doubles are unordered exactly if one of them is a NaN. -/
theorem order_eq_unordered_iff {x y : Binary64} : order x y = .unordered ↔ x.isNaN ∨ y.isNaN := by
  by_cases nan : x.isNaN ∨ y.isNaN
  · simp only [order_of_nan nan, nan]
  · have ⟨left, right⟩ := not_or.mp nan
    rw [order_of_not_nan left right]
    cases compare x.rank y.rank <;> simp [Outcome.ofOrdering, left, right]

theorem not_nan_of_rising {x y : Binary64} (rising : (order x y).Rising) : ¬ x.isNaN ∧ ¬ y.isNaN := by
  rw [← not_or]
  intro nan
  rw [order_of_nan nan] at rising
  simp [Outcome.Rising] at rising

theorem order_exchange (x y : Binary64) : order y x = (order x y).reverse := by
  by_cases nan : x.isNaN ∨ y.isNaN
  · rw [order_of_nan nan, order_of_nan nan.symm]
    rfl
  · rw [not_or] at nan
    rw [order_of_not_nan nan.1 nan.2, order_of_not_nan nan.2 nan.1]
    exact Outcome.ofOrdering_exchange

theorem order_succession {x y z : Binary64} (first : (order x y).Rising)
    (second : (order y z).Rising) : order x z = (order x y).followedBy (order y z) := by
  obtain ⟨left, middle⟩ := not_nan_of_rising first
  obtain ⟨_, right⟩ := not_nan_of_rising second
  rw [order_of_not_nan left middle] at first ⊢
  rw [order_of_not_nan middle right] at second ⊢
  rw [order_of_not_nan left right]
  exact Outcome.ofOrdering_succession first second

theorem order_replacement {x y : Binary64} (equal : order x y = .equal) (z : Binary64) :
    order x z = order y z := by
  obtain ⟨left, middle⟩ := not_nan_of_rising (.inr equal)
  by_cases right : z.isNaN
  · rw [order_of_nan (.inr right), order_of_nan (.inr right)]
  · rw [order_of_not_nan left middle] at equal
    rw [order_of_not_nan left right, order_of_not_nan middle right]
    exact Outcome.ofOrdering_replacement equal

end Binary64

/-! ## Texts -/

namespace Text

/-- Comparing bytes is the lexicographic comparison of lists. -/
theorem compareBytes_eq_compareLex (s t : List UInt8) :
    compareBytes s t = List.compareLex compare s t := by
  induction s generalizing t with
  | nil => cases t <;> rfl
  | cons a s ih =>
    cases t with
    | nil => rfl
    | cons b t => rw [compareBytes, ih, List.compareLex_cons_cons]

theorem order_eq_compareLex (s t : String) :
    order s t = .ofOrdering (List.compareLex compare (bytes s) (bytes t)) := by
  rw [order, compareBytes_eq_compareLex]

theorem order_ne_unordered (s t : String) : order s t ≠ .unordered := by
  rw [order]
  cases compareBytes (bytes s) (bytes t) <;> simp [Outcome.ofOrdering]

theorem order_exchange (s t : String) : order t s = (order s t).reverse := by
  rw [order_eq_compareLex, order_eq_compareLex]
  exact Outcome.ofOrdering_exchange

theorem order_succession {s t u : String} (first : (order s t).Rising)
    (second : (order t u).Rising) : order s u = (order s t).followedBy (order t u) := by
  rw [order_eq_compareLex] at first second
  rw [order_eq_compareLex, order_eq_compareLex, order_eq_compareLex]
  exact Outcome.ofOrdering_succession first second

theorem order_replacement {s t : String} (equal : order s t = .equal) (u : String) :
    order s u = order t u := by
  rw [order_eq_compareLex] at equal
  rw [order_eq_compareLex, order_eq_compareLex]
  exact Outcome.ofOrdering_replacement equal

end Text

end ValueOrder
