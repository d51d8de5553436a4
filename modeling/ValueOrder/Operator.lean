import ValueOrder.Outcome

/-!
# Relational operators

The four questions that can be asked of two values, how they are spelled, and
which outcomes answer each with yes.
-/

namespace ValueOrder

/-- A relational operator. -/
inductive Operator where
  | lt
  | le
  | gt
  | ge
  deriving DecidableEq, Repr, Inhabited

namespace Operator

/-- Every operator, in the order in which reports list them. -/
def all : List Operator := [.lt, .le, .gt, .ge]

def symbol : Operator → String
  | .lt => "<"
  | .le => "<="
  | .gt => ">"
  | .ge => ">="

/-- The two letters that stand for the sign where angle brackets need quoting. -/
def mnemonic : Operator → String
  | .lt => "lt"
  | .le => "le"
  | .gt => "gt"
  | .ge => "ge"

/-- The operator that gives the same answer with the two values exchanged. -/
def flip : Operator → Operator
  | .lt => .gt
  | .le => .ge
  | .gt => .lt
  | .ge => .le

/-- Reads a sign exactly, or a mnemonic in any mixture of ASCII cases. -/
def ofText? (text : String) : Option Operator :=
  all.find? fun op => text = op.symbol || text.toLower = op.mnemonic

@[simp] theorem flip_flip (op : Operator) : op.flip.flip = op := by
  cases op <;> rfl

theorem mem_all (op : Operator) : op ∈ all := by
  cases op <;> simp [all]

end Operator

/-- The outcomes for which the operator's answer is yes. -/
def Outcome.satisfies : Outcome → Operator → Bool
  | .less, op => op = .lt || op = .le
  | .equal, op => op = .le || op = .ge
  | .greater, op => op = .gt || op = .ge
  | .unordered, _ => false

theorem Outcome.satisfies_reverse (o : Outcome) (op : Operator) :
    o.reverse.satisfies op.flip = o.satisfies op := by
  cases o <;> cases op <;> rfl

end ValueOrder
