import ValueOrder.Log
import ValueOrder.Operator
import ValueOrder.Value.OfJson
import ValueOrder.Value.Order
import ValueOrder.Value.Render

/-!
# Asking a relational question

A comparison orders its two values and asks the operator of the outcome. Kinds
without an order are an error that names the operator, never a silent no.
-/

namespace ValueOrder

/-- The words for the answer to a question. -/
def answerWord : Bool → String
  | true => "true"
  | false => "false"

/-- Why a question about values has no answer. -/
inductive ComparisonError where
  /-- The kinds have no order. The operator is absent when none was asked. -/
  | unsupported (op : Option Operator) (kinds : Mismatch)
  | unknownOperator (text : String)
  | inconvertible (e : Inconvertible)
  deriving Repr

def ComparisonError.message : ComparisonError → String
  | .unsupported op kinds =>
    let subject := match op with
      | some op => "'" ++ op.symbol ++ "'"
      | none => "ordering"
    subject ++ " not supported between instances of '" ++ kinds.left.name ++ "' and '"
      ++ kinds.right.name ++ "'"
  | .unknownOperator text => "unknown comparison operator '" ++ text ++ "'"
  | .inconvertible e => e.message

def Operator.ofText (text : String) : Except ComparisonError Operator :=
  match ofText? text with
  | some op => .ok op
  | none => .error (.unknownOperator text)

namespace Comparison

/-- Orders two values and records the outcome. An error is not recorded. -/
def order (left right : Value) : Logged (Except ComparisonError Outcome) :=
  match left.order right with
  | .ok outcome => do
    .record .trace .comparison
      ("order " ++ left.render ++ " <=> " ++ right.render ++ ": " ++ outcome.name)
    return .ok outcome
  | .error kinds => return .error (.unsupported none kinds)

/-- Whether `left op right`. The answer or the rejection is recorded once, however
deep the values are. -/
def answer (left right : Value) (op : Operator) : Logged (Except ComparisonError Bool) :=
  let question := left.render ++ " " ++ op.symbol ++ " " ++ right.render ++ ": "
  match left.order right with
  | .ok outcome => do
    let holds := outcome.satisfies op
    .record .trace .comparison (question ++ outcome.name ++ " -> " ++ answerWord holds)
    return .ok holds
  | .error kinds => do
    let e := ComparisonError.unsupported (some op) kinds
    .record .debug .comparison ("rejected " ++ question ++ e.message)
    return .error e

theorem result_order (left right : Value) :
    (order left right).result = (left.order right).mapError (.unsupported none) := by
  unfold order
  cases left.order right <;> rfl

theorem result_order_eq_ok_iff {left right : Value} {outcome : Outcome} :
    (order left right).result = .ok outcome ↔ left.order right = .ok outcome := by
  rw [result_order]
  cases left.order right with
  | ok found => exact ⟨fun h => by cases h; rfl, fun h => by cases h; rfl⟩
  | error kinds => exact ⟨nofun, nofun⟩

theorem result_order_eq_error_iff {left right : Value} {e : ComparisonError} :
    (order left right).result = .error e ↔
      ∃ kinds, left.order right = .error kinds ∧ e = .unsupported none kinds := by
  rw [result_order]
  cases left.order right with
  | ok found => exact ⟨nofun, nofun⟩
  | error found =>
    constructor
    · intro h
      cases h
      exact ⟨found, rfl, rfl⟩
    · rintro ⟨kinds, h, rfl⟩
      cases h
      rfl

theorem result_order_eq_unsupported_iff {left right : Value} {kinds : Mismatch} :
    (order left right).result = .error (.unsupported none kinds) ↔
      left.order right = .error kinds := by
  simp [result_order_eq_error_iff]

theorem result_answer_of_ok {left right : Value} {outcome : Outcome}
    (ordered : left.order right = .ok outcome) (op : Operator) :
    (answer left right op).result = .ok (outcome.satisfies op) := by
  simp [answer, ordered]

theorem result_answer_of_error {left right : Value} {kinds : Mismatch}
    (rejected : left.order right = .error kinds) (op : Operator) :
    (answer left right op).result = .error (.unsupported (some op) kinds) := by
  simp [answer, rejected]

end Comparison

/-- The comparison as a method of its operator. -/
def Operator.apply (op : Operator) (left right : Value) : Logged (Except ComparisonError Bool) :=
  Comparison.answer left right op

end ValueOrder
