import ValueOrder.Json.Reader
import ValueOrder.Json.Printer
import ValueOrder.Value

/-!
# Values as documents

Booleans, texts, arrays and numbers of a document are values as they stand. The
numbers that a document cannot spell are written as an object whose only key is
`number`. Null and all other objects are no values.
-/

namespace ValueOrder

/-- Why a document is no value. -/
inductive Inconvertible where
  | malformed (text : String) (fault : Fault Json.Reason)
  | null
  /-- An object other than a number object, by its members as written. -/
  | object (members : List (String × Json))
  deriving Repr

/-- The message, which quotes the offending part. -/
def Inconvertible.message (e : Inconvertible) : String :=
  let subject := match e with
    | .malformed text fault => "'" ++ text ++ "' (" ++ fault.message Json.Reason.message text ++ ")"
    | .null => "null"
    | .object members => "object " ++ (Json.object members).compact
  "cannot convert " ++ subject ++ " to a runtime value"

namespace Value

/-- The number that the value under the key `number` denotes. -/
def namedNumber? : Json → Option Binary64
  | .text "nan" => some .nan
  | .text "NaN" => some .nan
  | .text "inf" => some .infinity
  | .text "-inf" => some .negInfinity
  | .text "-0" => some .negZero
  | .number n => some n.toBinary64
  | _ => none

/-- The number that an object denotes. Its map must have the key `number` and no
other. -/
def numberObject? (members : List (String × Json)) : Option Binary64 :=
  match Json.merged members with
  | [(key, v)] => if key = "number" then namedNumber? v else none
  | _ => none

mutual

/-- The value that a document denotes, or the first part of it that is none. -/
def ofJson : Json → Except Inconvertible Value
  | .null => .error .null
  | .boolean b => .ok (.boolean b)
  | .number n => .ok (.number n.toBinary64)
  | .text s => .ok (.text s)
  | .array items => (ofJsonItems items).map .list
  | .object members =>
    match numberObject? members with
    | some x => .ok (.number x)
    | none => .error (.object members)

/-- The values of an array's elements, from left to right. -/
def ofJsonItems : List Json → Except Inconvertible (List Value)
  | [] => .ok []
  | j :: rest => do
    let v ← ofJson j
    let vs ← ofJsonItems rest
    return v :: vs

end

theorem ofJsonItems_cons_eq_ok_iff {j : Json} {rest : List Json} {values : List Value} :
    ofJsonItems (j :: rest) = .ok values ↔
      ∃ v vs, ofJson j = .ok v ∧ ofJsonItems rest = .ok vs ∧ values = v :: vs := by
  rw [ofJsonItems]
  cases ofJson j with
  | error e => simp [bind, Except.bind]
  | ok v =>
    cases ofJsonItems rest with
    | error e => simp [bind, Except.bind]
    | ok vs => simp [bind, Except.bind, pure, Except.pure, eq_comm]

/-- The value that a text denotes. -/
def ofJsonText (text : String) : Except Inconvertible Value :=
  match Json.ofText text with
  | .error fault => .error (.malformed text fault)
  | .ok j => ofJson j

end Value

end ValueOrder
