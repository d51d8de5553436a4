import ValueOrder.Comparison
import ValueOrder.Text.Search

/-!
# Cases

A case states what a comparison must come to: an answer, or an error whose
message contains a fragment. The operator stays as written, so an unknown one is
an error that a case can expect.
-/

namespace ValueOrder

inductive Expectation where
  | answer (holds : Bool)
  /-- An error whose message contains the fragment. -/
  | failure (fragment : String)
  deriving DecidableEq, Repr

namespace Expectation

def render : Expectation → String
  | .answer holds => answerWord holds
  | .failure fragment => "error containing '" ++ fragment ++ "'"

/-- Whether a comparison came to what was expected. -/
def isMet : Expectation → Except ComparisonError Bool → Bool
  | .answer wanted, .ok got => wanted = got
  | .failure fragment, .error e => Text.contains e.message fragment
  | _, _ => false

end Expectation

structure Case where
  name? : Option String
  left : Value
  op : String
  right : Value
  expect : Expectation
  deriving Repr

namespace Case

/-- The comparison of the case. An unknown operator leaves no record. -/
def evaluate (c : Case) : Logged (Except ComparisonError Bool) :=
  match Operator.ofText c.op with
  | .error e => return .error e
  | .ok op => op.apply c.left c.right

/-- What the comparison came to, in words. -/
def outcomeText : Except ComparisonError Bool → String
  | .ok holds => answerWord holds
  | .error e => "error '" ++ e.message ++ "'"

def detail (c : Case) (got : Except ComparisonError Bool) : String :=
  c.left.render ++ " " ++ c.op ++ " " ++ c.right.render ++ ": expected " ++ c.expect.render
    ++ ", got " ++ outcomeText got

/-- Runs the case. There is a description if it failed. -/
def check (c : Case) : Logged (Option String) := do
  let got ← c.evaluate
  return if c.expect.isMet got then none else some (c.detail got)

end Case

end ValueOrder
