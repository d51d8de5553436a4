import ValueOrder.Proofs.Order.Exchange

/-!
# Equal values are interchangeable

Values that order equal stand alike to every third value, on either side. Only the
kinds that a mismatch names may differ, and then as a number and a boolean do.
-/

namespace ValueOrder

/-- Two answers that differ at most in whether a mismatch names a number or a
boolean. -/
inductive Alike : Except Mismatch Outcome → Except Mismatch Outcome → Prop where
  | outcome (o : Outcome) : Alike (.ok o) (.ok o)
  | mismatch {m n : Mismatch} (left : m.left.family = n.left.family)
      (right : m.right.family = n.right.family) : Alike (.error m) (.error n)

theorem alike_refl (r : Except Mismatch Outcome) : Alike r r := by
  cases r with
  | ok o => exact .outcome o
  | error m => exact .mismatch rfl rfl

theorem alike_equal_iff {r s : Except Mismatch Outcome} (alike : Alike r s) :
    r = .ok .equal ↔ s = .ok .equal := by
  cases alike <;> simp

theorem alike_exchanged {r s : Except Mismatch Outcome} (alike : Alike r s) :
    Alike (exchanged r) (exchanged s) := by
  cases alike with
  | outcome o => exact .outcome o.reverse
  | mismatch left right => exact .mismatch right left

namespace Value

/-- Lists that are equal element by element stand alike to a third, if their
elements do. -/
theorem orderItems_replacement {xs ys : List Value}
    (elements : ∀ x ∈ xs, ∀ y ∈ ys, order x y = .ok .equal → ∀ z, Alike (order x z) (order y z))
    (equal : List.Forall₂ (fun x y => order x y = .ok .equal) xs ys) (zs : List Value) :
    Alike (orderItems xs zs) (orderItems ys zs) := by
  induction equal generalizing zs with
  | nil => exact alike_refl _
  | @cons x y xs ys level rest ih =>
    cases zs with
    | nil => exact .outcome .greater
    | cons z zs =>
      obtain ⟨replaced, tails⟩ := elements_cons elements
      have heads : Alike (order x z) (order y z) := replaced level z
      by_cases equal : order x z = .ok .equal
      · rw [orderItems_cons_of_equal equal, orderItems_cons_of_equal ((alike_equal_iff heads).mp equal)]
        exact ih tails zs
      · have differ : order y z ≠ .ok .equal := fun level => equal ((alike_equal_iff heads).mpr level)
        rw [orderItems_cons_of_ne equal, orderItems_cons_of_ne differ]
        exact heads

/-- Values of one family stand alike to every value of another family. -/
theorem alike_of_family {a b c : Value} (same : a.family = b.family)
    (met : b.family = c.family → Alike (order a c) (order b c)) : Alike (order a c) (order b c) := by
  by_cases family : b.family = c.family
  · exact met family
  · rw [order_apart family, order_apart (same ▸ family)]
    exact .mismatch same rfl

/-- A value may be replaced by an equal one on the left. -/
theorem order_replacement {a b : Value} (equal : order a b = .ok .equal) (c : Value) :
    Alike (order a c) (order b c) := by
  induction a, b using meeting_induction generalizing c with
  | numbers a b x y left middle =>
    refine alike_of_family (family_eq_of_order_eq_ok equal) fun family => ?_
    obtain ⟨z, right⟩ := exists_number_of_family_eq family middle
    rw [order_numbers left middle, Except.ok.injEq] at equal
    rw [order_numbers left right, order_numbers middle right, Binary64.order_replacement equal]
    exact .outcome _
  | texts s t =>
    refine alike_of_family rfl fun family => ?_
    obtain ⟨u, rfl⟩ := family_eq_text_iff.mp family.symm
    rw [order_texts, Except.ok.injEq] at equal
    rw [order_texts, order_texts, Text.order_replacement equal]
    exact .outcome _
  | lists xs ys elements =>
    refine alike_of_family rfl fun family => ?_
    obtain ⟨zs, rfl⟩ := family_eq_list_iff.mp family.symm
    rw [order_lists] at equal
    rw [order_lists, order_lists]
    exact orderItems_replacement elements (orderItems_eq_equal_iff.mp equal) zs
  | apart a b differ =>
    rw [order_apart differ] at equal
    cases equal

/-- A value may be replaced by an equal one on the right. -/
theorem order_replacement_right {a b : Value} (equal : order a b = .ok .equal) (c : Value) :
    Alike (order c a) (order c b) := by
  rw [order_exchange a c, order_exchange b c]
  exact alike_exchanged (order_replacement equal c)

end Value

namespace Comparison

/-- Two results of ordering with the same outcomes and failures, where a failure
names the same kinds but for a number in place of a boolean and the reverse. -/
def SameResult (r s : Except ComparisonError Outcome) : Prop :=
  (∀ o, r = .ok o ↔ s = .ok o) ∧
  ((∃ e, r = .error e) ↔ ∃ e, s = .error e) ∧
  ∀ e f, r = .error e → s = .error f → ∃ m n : Mismatch, e = .unsupported none m ∧
    f = .unsupported none n ∧ m.left.family = n.left.family ∧ m.right.family = n.right.family

theorem sameResult_of_alike {a b c d : Value} (alike : Alike (a.order b) (c.order d)) :
    SameResult (order a b).result (order c d).result := by
  unfold SameResult
  simp only [result_order_eq_ok_iff, result_order_eq_error_iff]
  generalize a.order b = r at alike ⊢
  generalize c.order d = s at alike ⊢
  cases alike with
  | outcome o => simp
  | mismatch left right => simp [left, right]

/-- Values that order equal give the same result against every third value, on
either side of it. -/
theorem equal_values_interchangeable (a b : Value) (equal : (order a b).result = .ok .equal)
    (c : Value) : SameResult (order a c).result (order b c).result ∧
      SameResult (order c a).result (order c b).result := by
  rw [result_order_eq_ok_iff] at equal
  exact ⟨sameResult_of_alike (Value.order_replacement equal c),
    sameResult_of_alike (Value.order_replacement_right equal c)⟩

/-- `[[True], 0]` and `[[1], -0]` order equal. Against `[["x"]]` both fail, one over
a boolean and one over a number. -/
theorem equal_values_fail_alike :
    (order (.list [.list [.boolean true], .number .zero])
      (.list [.list [.number .one], .number .negZero])).result = .ok .equal ∧
    (order (.list [.list [.boolean true], .number .zero]) (.list [.list [.text "x"]])).result =
      .error (.unsupported none ⟨.boolean, .text⟩) ∧
    (order (.list [.list [.number .one], .number .negZero]) (.list [.list [.text "x"]])).result =
      .error (.unsupported none ⟨.number, .text⟩) ∧
    SameResult
      (order (.list [.list [.boolean true], .number .zero]) (.list [.list [.text "x"]])).result
      (order (.list [.list [.number .one], .number .negZero]) (.list [.list [.text "x"]])).result :=
  ⟨rfl, rfl, rfl, (equal_values_interchangeable _ _ rfl _).1⟩

end Comparison

end ValueOrder
