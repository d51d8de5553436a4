import ValueOrder.Comparison
import ValueOrder.Report

/-!
# Comparing one pair of texts

Both operands and the operator are given as text. The left operand is read
first, then the right one, then the operator.
-/

namespace ValueOrder

inductive Side where
  | left
  | right
  deriving DecidableEq, Repr

/-- Why a pair of texts has no answer. -/
inductive PairError where
  /-- An operand is no value. -/
  | operand (side : Side) (e : Inconvertible)
  /-- The operator is unknown, or the values have no order. -/
  | comparison (e : ComparisonError)
  deriving Repr

def PairError.report : PairError → Report
  | .operand .left e => ⟨"invalid left operand", [e.message]⟩
  | .operand .right e => ⟨"invalid right operand", [e.message]⟩
  | .comparison e => ⟨e.message, []⟩

namespace Pair

/-- Reads the operands and the operator. -/
def read (left op right : String) : Except PairError (Value × Operator × Value) := do
  let l ← (Value.ofJsonText left).mapError (.operand .left)
  let r ← (Value.ofJsonText right).mapError (.operand .right)
  let o ← (Operator.ofText op).mapError .comparison
  return (l, o, r)

/-- Whether `left op right`. The answer is recorded after the comparison's own
record. -/
def answer (left op right : String) : Logged (Except PairError Bool) :=
  match read left op right with
  | .error e => return .error e
  | .ok (l, o, r) => do
    match ← Comparison.answer l r o with
    | .error e => return .error (.comparison e)
    | .ok holds =>
      .record .info .pair
        (l.render ++ " " ++ o.symbol ++ " " ++ r.render ++ " -> " ++ answerWord holds)
      return .ok holds

end Pair

end ValueOrder
