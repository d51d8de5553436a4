import ValueOrder.Binary64.Rounding

/-!
# JSON trees

A document as it was written: the members of an object keep their order and
their repetitions. An object stands for the map in which the last value of a key
counts, and `merged` gives that map's members sorted by key.
-/

namespace ValueOrder

/-- A number of a document. Integers that fit 64 bits stay exact. -/
inductive JsonNumber where
  | integer (n : Int)
  | double (x : Binary64)
  deriving DecidableEq, Repr, Inhabited

/-- The double nearest to the number. -/
def JsonNumber.toBinary64 : JsonNumber → Binary64
  | .integer n => .ofInt n
  | .double x => x

inductive Json where
  | null
  | boolean (b : Bool)
  | number (n : JsonNumber)
  | text (s : String)
  | array (items : List Json)
  | object (members : List (String × Json))
  deriving Repr, Inhabited

namespace Json

/-- Puts a member into a list of members sorted by key. A member of the same key
is replaced. Keys are ordered by code point, which is their order as UTF-8. -/
def insertMember {α : Type} (key : String) (value : α) : List (String × α) → List (String × α)
  | [] => [(key, value)]
  | (k, v) :: rest =>
    if key < k then (key, value) :: (k, v) :: rest
    else if key = k then (key, value) :: rest
    else (k, v) :: insertMember key value rest

/-- The members of the map that a list of members stands for: sorted by key, and
of a repeated key the last value. -/
def merged {α : Type} (members : List (String × α)) : List (String × α) :=
  members.foldl (fun sorted (k, v) => insertMember k v sorted) []

end Json

end ValueOrder
