import ValueOrder.Value.Order

/-!
# Plain relations between values

The usual relations, which never fail: a pair of kinds without an order is
related by none of them but `≠`.
-/

namespace ValueOrder.Value

/-- The three-way comparison, where there is one. -/
def compare? (a b : Value) : Option Ordering :=
  match a.order b with
  | .ok outcome => outcome.toOrdering?
  | .error _ => none

/-- Whether the values order equal. -/
def isEq (a b : Value) : Bool :=
  match a.order b with
  | .ok .equal => true
  | _ => false

def isNe (a b : Value) : Bool := !isEq a b

def isLt (a b : Value) : Bool := compare? a b = some .lt

def isLe (a b : Value) : Bool := compare? a b = some .lt || compare? a b = some .eq

def isGt (a b : Value) : Bool := compare? a b = some .gt

def isGe (a b : Value) : Bool := compare? a b = some .gt || compare? a b = some .eq

end ValueOrder.Value
