import ValueOrder.Binary64.Rounding

/-!
# Runtime values

An evaluated value is a number, a boolean, a text or a list of values. Lists own
their elements, so no list contains itself.
-/

namespace ValueOrder

inductive Value where
  | number (x : Binary64)
  | boolean (b : Bool)
  | text (s : String)
  | list (items : List Value)
  deriving Repr, Inhabited

/-- The four kinds of values. -/
inductive Kind where
  | number
  | boolean
  | text
  | list
  deriving DecidableEq, Repr

def Kind.name : Kind → String
  | .number => "number"
  | .boolean => "bool"
  | .text => "str"
  | .list => "list"

namespace Value

def kind : Value → Kind
  | .number _ => .number
  | .boolean _ => .boolean
  | .text _ => .text
  | .list _ => .list

/-- The number that a value counts as in an ordering. False counts as 0 and true
as 1. -/
def asNumber? : Value → Option Binary64
  | .number x => some x
  | .boolean false => some .zero
  | .boolean true => some .one
  | _ => none

def isNaN : Value → Bool
  | .number x => x.isNaN
  | _ => false

/-- The number value of an integer, rounded to the nearest double. -/
def ofInt (n : Int) : Value := .number (.ofInt n)

end Value

end ValueOrder
