import ValueOrder.Comparison
import ValueOrder.Proofs.Order.Meeting
import ValueOrder.Proofs.Order.Scalars

/-!
# Exchanging the two values

With its operands exchanged the order gives the reversed outcome, and a mismatch
names the two kinds the other way round. A question is answered alike when its
operator is turned as well.
-/

namespace ValueOrder

/-- The answer of the order seen with the two values exchanged. -/
def exchanged : Except Mismatch Outcome → Except Mismatch Outcome
  | .ok outcome => .ok outcome.reverse
  | .error kinds => .error ⟨kinds.right, kinds.left⟩

theorem exchanged_eq_ok_iff {answer : Except Mismatch Outcome} {o : Outcome} :
    exchanged answer = .ok o ↔ answer = .ok o.reverse := by
  cases answer with
  | ok outcome => simp [exchanged, Outcome.reverse_eq_iff]
  | error kinds => simp [exchanged]

theorem exchanged_eq_error_iff {answer : Except Mismatch Outcome} {l r : Kind} :
    exchanged answer = .error ⟨l, r⟩ ↔ answer = .error ⟨r, l⟩ := by
  cases answer with
  | ok outcome => simp [exchanged]
  | error kinds =>
    obtain ⟨left, right⟩ := kinds
    simp [exchanged, and_comm]

theorem exchanged_eq_equal_iff {answer : Except Mismatch Outcome} :
    exchanged answer = .ok .equal ↔ answer = .ok .equal :=
  exchanged_eq_ok_iff

namespace Value

/-- Lists whose elements exchange also exchange. -/
theorem orderItems_exchange {xs ys : List Value}
    (elements : ∀ x ∈ xs, ∀ y ∈ ys, order y x = exchanged (order x y)) :
    orderItems ys xs = exchanged (orderItems xs ys) := by
  induction xs generalizing ys with
  | nil => cases ys <;> rfl
  | cons x xs ih =>
    cases ys with
    | nil => rfl
    | cons y ys =>
      obtain ⟨first, rest⟩ := elements_cons elements
      by_cases equal : order x y = .ok .equal
      · have equal' : order y x = .ok .equal := by rw [first, exchanged_eq_equal_iff, equal]
        rw [orderItems_cons_of_equal equal, orderItems_cons_of_equal equal']
        exact ih rest
      · have differ : order y x ≠ .ok .equal := by rwa [first, Ne, exchanged_eq_equal_iff]
        rw [orderItems_cons_of_ne equal, orderItems_cons_of_ne differ, first]

/-- The order of two values, exchanged, is the order of the exchanged values. -/
theorem order_exchange (a b : Value) : order b a = exchanged (order a b) := by
  induction a, b using meeting_induction with
  | numbers a b x y left right =>
    rw [order_numbers right left, order_numbers left right, Binary64.order_exchange]
    rfl
  | texts s t =>
    rw [order_texts, order_texts, Text.order_exchange]
    rfl
  | lists xs ys elements =>
    rw [order_lists, order_lists]
    exact orderItems_exchange elements
  | apart a b differ =>
    rw [order_apart differ, order_apart differ.symm]
    rfl

theorem order_eq_equal_comm {a b : Value} : order a b = .ok .equal ↔ order b a = .ok .equal := by
  rw [order_exchange a b, exchanged_eq_equal_iff]

end Value

namespace Comparison

/-- Exchanging two values reverses the outcome of their order, or exchanges the
kinds that the error names. Every question and the same question with its operator
turned and its values exchanged have one answer, or are both rejected, the second
with the turned operator and the exchanged kinds. -/
theorem exchange_duality (a b : Value) :
    (∀ outcome, (order a b).result = .ok outcome ↔ (order b a).result = .ok outcome.reverse) ∧
    (∀ l r, (order a b).result = .error (.unsupported none ⟨l, r⟩) ↔
      (order b a).result = .error (.unsupported none ⟨r, l⟩)) ∧
    ∀ op : Operator,
      (∃ holds, (answer a b op).result = .ok holds ∧ (answer b a op.flip).result = .ok holds) ∨
      ∃ l r, (answer a b op).result = .error (.unsupported (some op) ⟨l, r⟩) ∧
        (answer b a op.flip).result = .error (.unsupported (some op.flip) ⟨r, l⟩) := by
  have dual : b.order a = exchanged (a.order b) := Value.order_exchange a b
  refine ⟨?_, ?_, ?_⟩
  · intro outcome
    rw [result_order_eq_ok_iff, result_order_eq_ok_iff, dual, exchanged_eq_ok_iff,
      Outcome.reverse_reverse]
  · intro l r
    rw [result_order_eq_unsupported_iff, result_order_eq_unsupported_iff, dual,
      exchanged_eq_error_iff]
  · intro op
    cases ordered : a.order b with
    | ok outcome =>
      left
      have turned : b.order a = .ok outcome.reverse := dual.trans (congrArg exchanged ordered)
      refine ⟨outcome.satisfies op, result_answer_of_ok ordered op, ?_⟩
      rw [result_answer_of_ok turned, Outcome.satisfies_reverse]
    | error kinds =>
      right
      have turned : b.order a = .error ⟨kinds.right, kinds.left⟩ :=
        dual.trans (congrArg exchanged ordered)
      exact ⟨kinds.left, kinds.right, result_answer_of_error ordered op,
        result_answer_of_error turned op.flip⟩

end Comparison

end ValueOrder
