import ValueOrder.Text.Quoted
import ValueOrder.Value.OfJson

/-!
# What can be wrong with a written case

Besides the faults of any document, a case may hold a value of the wrong type,
miss a field or repeat one, or hold a value that is none.
-/

namespace ValueOrder.Case

/-- The fields of a case, in the order in which an array lists them. -/
inductive Field where
  | name
  | left
  | op
  | right
  | expect
  deriving DecidableEq, Repr

namespace Field

def key : Field → String
  | .name => "name"
  | .left => "left"
  | .op => "op"
  | .right => "right"
  | .expect => "expect"

def all : List Field := [.name, .left, .op, .right, .expect]

def ofKey? (key : String) : Option Field := all.find? fun f => f.key = key

end Field

/-- What was found where something else had to stand. -/
inductive Found where
  | null
  | boolean (b : Bool)
  | number (n : JsonNumber)
  | text (s : String)
  | sequence
  | map
  deriving DecidableEq, Repr

def Found.render : Found → String
  | .null => "null"
  | .boolean b => "boolean `" ++ Json.boolWord b ++ "`"
  | .number (.integer n) => "integer `" ++ (JsonNumber.integer n).render ++ "`"
  | .number (.double x) => "floating point `" ++ (JsonNumber.double x).render ++ "`"
  | .text s => "string " ++ Text.quoted s
  | .sequence => "sequence"
  | .map => "map"

/-- What had to stand there. -/
inductive Wanted where
  | sequence
  | case
  | text
  deriving DecidableEq, Repr

def Wanted.render : Wanted → String
  | .sequence => "a sequence"
  | .case => "struct Case"
  | .text => "a string"

/-- Why a text is no case. -/
inductive Cause where
  | document (r : Json.Reason)
  | wrongType (found : Found) (wanted : Wanted)
  /-- An array that ends before all fields are read, and the length it is taken for. -/
  | wrongLength (n : Nat)
  | missing (f : Field)
  | repeated (f : Field)
  | inconvertible (e : Inconvertible)
  /-- The expectation is neither a boolean nor an error object. -/
  | noExpectation
  deriving Repr

namespace Cause

def message : Cause → String
  | document r => r.message
  | wrongType found wanted => "invalid type: " ++ found.render ++ ", expected " ++ wanted.render
  | wrongLength n =>
    "invalid length " ++ toString n ++ ", expected struct Case with 5 elements"
  | missing f => "missing field `" ++ f.key ++ "`"
  | repeated f => "duplicate field `" ++ f.key ++ "`"
  | inconvertible e => e.message
  | noExpectation => "data did not match any variant of untagged enum Expectation"

end Cause

/-- A fault inside a case. Some faults are not placed where they arise but only
when the reader has looked for the end of the case. -/
inductive MemberFault where
  | placed (fault : Fault Cause)
  | unplaced (cause : Cause) (rest : List Char)

/-- A fault of the document as one of the case. -/
def ofDocument (fault : Fault Json.Reason) : Fault Cause := fault.mapCause .document

/-- A fault of the document inside a case. -/
def placedDocument (fault : Fault Json.Reason) : MemberFault := .placed (ofDocument fault)

end ValueOrder.Case
