import Mathlib.Data.List.Forall2
import ValueOrder.Proofs.Order.CodePoints
import ValueOrder.Proofs.Order.Shapes
import ValueOrder.Proofs.Rounding.Exact

/-!
# Equality as sameness

Two values order equal exactly if they are the same value without a NaN, once booleans are
written as numbers and minus zero as zero. The same value with a NaN in it is unordered. So
comparing a value with itself never fails, and only a NaN at some depth keeps it from being
equal.
-/

namespace ValueOrder

namespace Binary64

/-- The double with both zeros written as one and all NaNs as one. -/
def unified (x : Binary64) : Binary64 :=
  if x.isNaN then .nan else if x.isZero then .zero else x

theorem unified_of_isNaN {x : Binary64} (nan : x.isNaN) : x.unified = .nan := by
  simp [unified, nan]

theorem isNaN_unified (x : Binary64) : x.unified.isNaN = x.isNaN := by
  by_cases nan : x.isNaN
  · rw [unified_of_isNaN nan, nan]
    decide
  · by_cases zero : x.isZero
    · simp [unified, nan, zero]
      decide
    · simp [unified, nan, zero]

theorem rank_eq_zero_iff {x : Binary64} : x.rank = 0 ↔ x.isZero := by
  by_cases negative : x.isNegative
  · simp [rank, isZero, negative]
  · simp [rank, isZero, negative]

theorem rank_unified {x : Binary64} (notNaN : ¬ x.isNaN) : x.unified.rank = x.rank := by
  by_cases zero : x.isZero
  · rw [rank_eq_zero_iff.mpr zero]
    simp [unified, notNaN, zero]
    decide
  · simp [unified, notNaN, zero]

/-- A rank other than 0 belongs to one double only. -/
theorem eq_of_rank_eq {x y : Binary64} (same : x.rank = y.rank) (nonzero : ¬ x.isZero) : x = y := by
  have left : x.magnitude ≠ 0 := by simpa [isZero] using nonzero
  have right : y.magnitude ≠ 0 := by
    rw [← rank_eq_zero_iff, same, rank_eq_zero_iff] at nonzero
    simpa [isZero] using nonzero
  unfold rank at same
  by_cases negative : x.isNegative <;> by_cases negative' : y.isNegative
  all_goals
    simp only [negative, negative', if_true, if_false, Bool.false_eq_true] at same
  · exact eq_of_magnitude (by rw [negative, negative']) (by omega)
  · omega
  · omega
  · exact eq_of_magnitude (by simp [negative, negative']) (by omega)

theorem rank_eq_iff {x y : Binary64} (left : ¬ x.isNaN) (right : ¬ y.isNaN) :
    x.rank = y.rank ↔ x.unified = y.unified := by
  constructor
  · intro same
    by_cases zero : x.isZero
    · have zero' : y.isZero := by rwa [← rank_eq_zero_iff, ← same, rank_eq_zero_iff]
      simp [unified, left, right, zero, zero']
    · rw [eq_of_rank_eq same zero]
  · intro same
    rw [← rank_unified left, ← rank_unified right, same]

theorem order_eq_equal_iff {x y : Binary64} :
    order x y = .equal ↔ x.unified = y.unified ∧ ¬ x.isNaN := by
  by_cases nan : x.isNaN ∨ y.isNaN
  · rw [order_of_nan nan]
    simp only [reduceCtorEq, false_iff, not_and_not_right]
    intro same
    rcases nan with left | right
    · exact left
    · rwa [← isNaN_unified, same, isNaN_unified]
  · rw [not_or] at nan
    have compared : compare x.rank y.rank = .eq ↔ x.rank = y.rank := Int.compare_eq_eq
    rw [order_of_not_nan nan.1 nan.2, ← rank_eq_iff nan.1 nan.2, ← compared]
    cases compare x.rank y.rank <;> simp [Outcome.ofOrdering, nan.1]

end Binary64

namespace Value

mutual

/-- The value with booleans written as the numbers that they count as, and with one zero and
one NaN at every depth. -/
def unified : Value → Value
  | .number x => .number x.unified
  | .boolean false => .number .zero
  | .boolean true => .number .one
  | .text s => .text s
  | .list items => .list (unifiedItems items)

/-- The elements of a list, each unified. -/
def unifiedItems : List Value → List Value
  | [] => []
  | v :: rest => unified v :: unifiedItems rest

end

theorem unifiedItems_eq_map (items : List Value) : unifiedItems items = items.map unified := by
  induction items with
  | nil => rfl
  | cons v rest ih => rw [unifiedItems, ih, List.map_cons]

theorem unified_of_asNumber? {v : Value} {x : Binary64} (number : v.asNumber? = some x) :
    v.unified = .number x.unified := by
  cases v with
  | number y =>
    cases number
    rw [unified]
  | boolean b =>
    cases b
    all_goals
      cases number
      exact congrArg Value.number (by decide)
  | text s => cases number
  | list items => cases number

theorem family_unified (v : Value) : v.unified.family = v.family := by
  cases v with
  | number x => simp [unified]
  | boolean b => cases b <;> simp [unified]
  | text s => simp [unified]
  | list items => simp [unified]

/-- Two lists are unified to the same exactly if their elements are, one by one. -/
theorem unified_list_eq_iff {xs ys : List Value} :
    (list xs).unified = (list ys).unified ↔
      List.Forall₂ (fun x y => x.unified = y.unified) xs ys := by
  rw [unified, unified, list.injEq, unifiedItems_eq_map, unifiedItems_eq_map,
    ← List.forall₂_eq_eq_eq, List.forall₂_map_left_iff, List.forall₂_map_right_iff]

/-- Induction along the depth of a value. A statement about a list may rely on the statement
about each of its elements. -/
@[elab_as_elim]
theorem depth_induction {P : Value → Prop} (number : ∀ x, P (.number x))
    (boolean : ∀ b, P (.boolean b)) (text : ∀ s, P (.text s))
    (list : ∀ items, (∀ v ∈ items, P v) → P (.list items)) (v : Value) : P v :=
  match v with
  | .number x => number x
  | .boolean b => boolean b
  | .text s => text s
  | .list items => list items fun v _ => depth_induction number boolean text list v
termination_by v

theorem containsNaN_unified_iff {v : Value} : v.unified.ContainsNaN ↔ v.ContainsNaN := by
  induction v using depth_induction with
  | number x => simp [unified, Binary64.isNaN_unified]
  | boolean b =>
    cases b
    all_goals
      simp [unified]
      decide
  | text s => simp [unified]
  | list items ih =>
    rw [unified, unifiedItems_eq_map, containsNaN_list_iff, containsNaN_list_iff]
    simp only [List.mem_map, exists_exists_and_eq_and]
    exact exists_congr fun v => and_congr_right (ih v)

theorem containsNaN_iff_of_asNumber? {v : Value} {x : Binary64} (number : v.asNumber? = some x) :
    v.ContainsNaN ↔ x.isNaN := by
  rw [← containsNaN_unified_iff, unified_of_asNumber? number, containsNaN_number_iff,
    Binary64.isNaN_unified]

/-! ## Equal values -/

theorem forall₂_congr_of_mem {R S : Value → Value → Prop} {xs ys : List Value}
    (elements : ∀ x ∈ xs, ∀ y ∈ ys, (R x y ↔ S x y)) :
    List.Forall₂ R xs ys ↔ List.Forall₂ S xs ys := by
  induction xs generalizing ys with
  | nil => rw [List.forall₂_nil_left_iff, List.forall₂_nil_left_iff]
  | cons x xs ih =>
    cases ys with
    | nil => rw [List.forall₂_nil_right_iff, List.forall₂_nil_right_iff]
    | cons y ys =>
      obtain ⟨heads, tails⟩ := elements_cons elements
      rw [List.forall₂_cons, List.forall₂_cons, heads, ih tails]

/-- Values order equal exactly if they are the same once unified, and without a NaN. -/
theorem order_eq_equal_iff {a b : Value} :
    order a b = .ok .equal ↔ a.unified = b.unified ∧ ¬ a.ContainsNaN := by
  induction a, b using meeting_induction with
  | numbers a b x y left right =>
    rw [order_numbers left right, Except.ok.injEq, Binary64.order_eq_equal_iff,
      unified_of_asNumber? left, unified_of_asNumber? right, number.injEq,
      containsNaN_iff_of_asNumber? left]
  | texts s t =>
    rw [order_texts, Except.ok.injEq, Text.order_eq_equal_iff, unified, unified, text.injEq]
    exact (and_iff_left nofun).symm
  | lists xs ys elements =>
    rw [order_lists, orderItems_eq_equal_iff, forall₂_congr_of_mem elements, unified_list_eq_iff,
      containsNaN_list_iff]
    simp only [and_comm, List.forall₂_and_left, not_exists, not_and]
  | apart a b differ =>
    rw [order_apart differ]
    refine ⟨nofun, ?_⟩
    rintro ⟨same, _⟩
    exact absurd (by rw [← family_unified, same, family_unified]) differ

/-- A walk along two lists that are the same once unified stops at the first NaN. -/
theorem orderItems_of_nan {xs ys : List Value}
    (elements : ∀ x ∈ xs, ∀ y ∈ ys, x.unified = y.unified → x.ContainsNaN →
      order x y = .ok .unordered)
    (same : List.Forall₂ (fun x y => x.unified = y.unified) xs ys)
    (nan : ∃ x ∈ xs, x.ContainsNaN) : orderItems xs ys = .ok .unordered := by
  induction same with
  | nil =>
    obtain ⟨x, member, _⟩ := nan
    cases member
  | @cons x y xs ys first _ ih =>
    obtain ⟨heads, tails⟩ := elements_cons elements
    by_cases here : x.ContainsNaN
    · have unordered := heads first here
      rw [orderItems_cons_of_ne (by simp [unordered]), unordered]
    · rw [orderItems_cons_of_equal (order_eq_equal_iff.mpr ⟨first, here⟩)]
      have later : ∃ x ∈ xs, x.ContainsNaN := by simpa [here] using nan
      exact ih tails later

/-- Values that are the same once unified are unordered if there is a NaN in them. -/
theorem order_of_nan {a b : Value} (same : a.unified = b.unified) (nan : a.ContainsNaN) :
    order a b = .ok .unordered := by
  induction a, b using meeting_induction with
  | numbers a b x y left right =>
    rw [containsNaN_iff_of_asNumber? left] at nan
    rw [order_numbers left right, Binary64.order_of_nan (.inl nan)]
  | texts s t => cases nan
  | lists xs ys elements =>
    rw [order_lists]
    exact orderItems_of_nan elements (unified_list_eq_iff.mp same) (containsNaN_list_iff.mp nan)
  | apart a b differ => exact absurd (by rw [← family_unified, same, family_unified]) differ

end Value

namespace Comparison

/-- Values order equal exactly if they are the same once unified and there is no NaN in them.
If they are the same and there is a NaN in them, they are unordered. So the questions
whether a value is at most and at least itself always have an answer, and it is yes exactly
if the value contains no NaN. -/
theorem equality_is_sameness (a b : Value) :
    ((order a b).result = .ok .equal ↔
      a.unified = b.unified ∧ ¬ a.unified.ContainsNaN ∧ ¬ b.unified.ContainsNaN) ∧
    (a.unified = b.unified → a.unified.ContainsNaN → (order a b).result = .ok .unordered) ∧
    ∃ holds, (answer a a .le).result = .ok holds ∧ (answer a a .ge).result = .ok holds ∧
      (holds = true ↔ ¬ a.ContainsNaN) := by
  refine ⟨?_, ?_, ?_⟩
  · rw [result_order_eq_ok_iff, Value.order_eq_equal_iff, ← Value.containsNaN_unified_iff (v := a)]
    constructor
    · rintro ⟨same, clean⟩
      exact ⟨same, clean, same ▸ clean⟩
    · rintro ⟨same, clean, _⟩
      exact ⟨same, clean⟩
  · intro same nan
    exact result_order_eq_ok_iff.mpr
      (Value.order_of_nan same (Value.containsNaN_unified_iff.mp nan))
  · by_cases nan : a.ContainsNaN
    · have unordered := Value.order_of_nan rfl nan
      refine ⟨false, result_answer_of_ok unordered .le, result_answer_of_ok unordered .ge, ?_⟩
      simp [nan]
    · have equal := Value.order_eq_equal_iff.mpr ⟨rfl, nan⟩
      refine ⟨true, result_answer_of_ok equal .le, result_answer_of_ok equal .ge, ?_⟩
      simp [nan]

/-- `[True, [nan], "a"]` and `[1, [nan], "a"]`, with NaNs of other signs, are the same and
unordered. -/
theorem same_values_unordered :
    (Value.list [.boolean true, .list [.number .nan], .text "a"]).unified =
      (Value.list [.number .one, .list [.number ⟨0xFFF0000000000001⟩], .text "a"]).unified ∧
    (order (.list [.boolean true, .list [.number .nan], .text "a"])
      (.list [.number .one, .list [.number ⟨0xFFF0000000000001⟩], .text "a"])).result =
      .ok .unordered := by
  have same : (Value.list [.boolean true, .list [.number .nan], .text "a"]).unified =
      (Value.list [.number .one, .list [.number ⟨0xFFF0000000000001⟩], .text "a"]).unified := by
    have one : Binary64.one.unified = .one := by decide
    have nan : Binary64.nan.unified = .nan := by decide
    have nan' : Binary64.unified ⟨0xFFF0000000000001⟩ = .nan := by decide
    simp [Value.unified, Value.unifiedItems, one, nan, nan']
  have inside : (Value.list [.boolean true, .list [.number .nan], .text "a"]).ContainsNaN :=
    .inside (.tail _ (.head _)) (.inside (.head []) (.here (by decide)))
  exact ⟨same, (equality_is_sameness _ _).2.1 same (Value.containsNaN_unified_iff.mpr inside)⟩

end Comparison

end ValueOrder
