import ValueOrder.Proofs.Order.Chain
import ValueOrder.Proofs.Order.Exchange
import ValueOrder.Value.Relations

/-!
# One order behind every relation

The order, the questions and the plain relations between values are all read off one
outcome. So they agree wherever there is one, and where there is none the questions
fail alike and no relation holds but `≠`.
-/

namespace ValueOrder

namespace Value

/-- The plain relation that is written with the sign of an operator. -/
def isRelated : Operator → Value → Value → Bool
  | .lt => isLt
  | .le => isLe
  | .gt => isGt
  | .ge => isGe

section Ordered
variable {a b : Value} {o : Outcome}

theorem compare?_of_ok (ordered : order a b = .ok o) : compare? a b = o.toOrdering? := by
  simp [compare?, ordered]

theorem isEq_of_ok (ordered : order a b = .ok o) : isEq a b = decide (o = .equal) := by
  cases o <;> simp [isEq, ordered]

theorem isRelated_of_ok (ordered : order a b = .ok o) (op : Operator) :
    isRelated op a b = o.satisfies op := by
  have three := compare?_of_ok ordered
  cases op <;> cases o <;>
    simp [isRelated, isLt, isLe, isGt, isGe, three, Outcome.toOrdering?, Outcome.satisfies]

end Ordered

section Rejected
variable {a b : Value} {kinds : Mismatch}

theorem compare?_of_error (rejected : order a b = .error kinds) : compare? a b = none := by
  simp [compare?, rejected]

theorem isEq_of_error (rejected : order a b = .error kinds) : isEq a b = false := by
  simp [isEq, rejected]

theorem isRelated_of_error (rejected : order a b = .error kinds) (op : Operator) :
    isRelated op a b = false := by
  have three := compare?_of_error rejected
  cases op <;> simp [isRelated, isLt, isLe, isGt, isGe, three]

end Rejected

/-! ## Laws of the relations -/

theorem isEq_iff {a b : Value} : isEq a b = true ↔ order a b = .ok .equal := by
  cases ordered : order a b with
  | ok o => simp [isEq_of_ok ordered]
  | error kinds => simp [isEq_of_error ordered]

theorem isLt_iff {a b : Value} : isLt a b = true ↔ order a b = .ok .less := by
  unfold isLt
  cases ordered : order a b with
  | ok o => cases o <;> simp [compare?_of_ok ordered, Outcome.toOrdering?]
  | error kinds => simp [compare?_of_error ordered]

theorem isGt_iff {a b : Value} : isGt a b = true ↔ order a b = .ok .greater := by
  unfold isGt
  cases ordered : order a b with
  | ok o => cases o <;> simp [compare?_of_ok ordered, Outcome.toOrdering?]
  | error kinds => simp [compare?_of_error ordered]

theorem isEq_comm (a b : Value) : isEq a b = isEq b a := by
  rw [Bool.eq_iff_iff, isEq_iff, isEq_iff]
  exact order_eq_equal_comm

/-- Two equal steps make one. -/
theorem isEq_trans {a b c : Value} (first : isEq a b = true) (second : isEq b c = true) :
    isEq a c = true := by
  rw [isEq_iff] at first second ⊢
  exact (rises_succession ⟨first, .inr rfl⟩ ⟨second, .inr rfl⟩).1

theorem isLt_eq_isGt (a b : Value) : isLt a b = isGt b a := by
  rw [Bool.eq_iff_iff, isLt_iff, isGt_iff, order_exchange a b, exchanged_eq_ok_iff]
  rfl

end Value

namespace Comparison
open Value (compare? isEq isNe isLt isGt isRelated)

/-- Either two values have no order: then every question about them fails over the
same kinds, there is no three-way comparison, and of the plain relations `≠` alone
holds. Or they have an outcome: then each question, in either form, has the answer of
the plain relation of the same sign, equality is the outcome equal, and there is a
three-way comparison unless they are unordered. Equality is symmetric and transitive,
and less is greater with the values exchanged. -/
theorem surfaces_agree (a b : Value) :
    ((∃ kinds, (order a b).result = .error (.unsupported none kinds) ∧
        (∀ op : Operator, (answer a b op).result = .error (.unsupported (some op) kinds) ∧
          (op.apply a b).result = .error (.unsupported (some op) kinds) ∧
          isRelated op a b = false) ∧
        compare? a b = none ∧ isEq a b = false ∧ isNe a b = true) ∨
      ∃ outcome, (order a b).result = .ok outcome ∧
        (∀ op : Operator, ∃ holds, (answer a b op).result = .ok holds ∧
          (op.apply a b).result = .ok holds ∧ isRelated op a b = holds) ∧
        (isEq a b = true ↔ outcome = .equal) ∧ isNe a b = !isEq a b ∧
        ((compare? a b).isSome ↔ outcome ≠ .unordered)) ∧
    isEq a b = isEq b a ∧
    (∀ c, isEq a b = true → isEq b c = true → isEq a c = true) ∧
    isLt a b = isGt b a := by
  refine ⟨?_, Value.isEq_comm a b, fun c => Value.isEq_trans, Value.isLt_eq_isGt a b⟩
  cases ordered : a.order b with
  | error kinds =>
    refine .inl ⟨kinds, result_order_eq_unsupported_iff.mpr ordered, fun op => ?_,
      Value.compare?_of_error ordered, Value.isEq_of_error ordered, ?_⟩
    · exact ⟨result_answer_of_error ordered op, result_answer_of_error ordered op,
        Value.isRelated_of_error ordered op⟩
    · rw [isNe, Value.isEq_of_error ordered]
      rfl
  | ok outcome =>
    refine .inr ⟨outcome, result_order_eq_ok_iff.mpr ordered, fun op => ?_, ?_, rfl, ?_⟩
    · exact ⟨outcome.satisfies op, result_answer_of_ok ordered op, result_answer_of_ok ordered op,
        Value.isRelated_of_ok ordered op⟩
    · rw [Value.isEq_of_ok ordered, decide_eq_true_iff]
    · rw [Value.compare?_of_ok ordered]
      cases outcome <;> simp [Outcome.toOrdering?]

/-- `[True, -0]` equals `[1, False]`, which equals `[1, 0]`. -/
theorem equality_across_number_and_boolean :
    isEq (.list [.boolean true, .number .negZero]) (.list [.number .one, .boolean false]) = true ∧
    isEq (.list [.number .one, .boolean false]) (.list [.number .one, .number .zero]) = true ∧
    isEq (.list [.boolean true, .number .negZero]) (.list [.number .one, .number .zero]) = true :=
  ⟨by decide, by decide, (surfaces_agree _ _).2.2.1 (.list [.number .one, .number .zero])
    (by decide : isEq (.list [.boolean true, .number .negZero])
      (.list [.number .one, .boolean false]) = true) (by decide)⟩

end Comparison

end ValueOrder
