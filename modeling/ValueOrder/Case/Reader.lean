import ValueOrder.Case
import ValueOrder.Case.Fault
import ValueOrder.Json.Skip

/-!
# Reading cases

A case is an object with its fields by name in any order, or an array with its
fields in order. Other members of the object are skipped. A file is an array of
cases.
-/

namespace ValueOrder.Case

open Json

/-! ## Values of the wrong type -/

/-- The fault of finding a value that is not wanted. A scalar is read first, and
its own faults come before. -/
def wrongType (wanted : Wanted) (s : List Char) : Fault Cause :=
  let fault (found : Found) (rest : List Char) : Fault Cause :=
    .before (.wrongType found wanted) rest
  let keyword (word : String) (found : Found) (rest : List Char) : Fault Cause :=
    match takeKeyword word.toList rest with
    | .ok r => fault found r
    | .error e => ofDocument e
  match s with
  | [] => .before (.document .endInValue) []
  | c :: rest =>
    if c = 'n' then keyword "ull" .null rest
    else if c = 't' then keyword "rue" (.boolean true) rest
    else if c = 'f' then keyword "alse" (.boolean false) rest
    else if c = '-' || c.isDigit then
      match takeNumber (c :: rest) with
      | .ok r => fault (.number r.value) r.rest
      | .error e => ofDocument e
    else if c = '"' then
      match takeText rest with
      | .ok r => fault (.text r.value) r.rest
      | .error e => ofDocument e
    else if c = '[' then fault .sequence (c :: rest)
    else if c = '\x7b' then fault .map (c :: rest)
    else .counting (.document .expectedValue) (c :: rest)

/-! ## Fields -/

def takeString (s : List Char) : Step MemberFault String s :=
  match h : skipBlanks s with
  | c :: rest =>
    if c = '"' then
      match takeText rest with
      | .ok r => .ok (r.from (length_tail_le_of_skipBlanks h))
      | .error e => .error (placedDocument e)
    else .error (.placed (wrongType .text (c :: rest)))
  | [] => .error (.placed (wrongType .text []))

def takeName (s : List Char) : Step MemberFault (Option String) s :=
  match h : skipBlanks s with
  -- What begins like null has to be null: no text begins so.
  | 'n' :: rest =>
    match takeKeyword "ull".toList rest with
    | .ok r => .ok ⟨none, r.1, Nat.lt_of_le_of_lt r.2 (length_lt_of_skipBlanks h)⟩
    | .error e => .error (placedDocument e)
  | _ => (takeString s).map (·.map some)

def takeOperand (levels : Nat) (s : List Char) : Step MemberFault Value s :=
  match takeValue levels s with
  | .error e => .error (placedDocument e)
  | .ok r =>
    match Value.ofJson r.value with
    | .ok v => .ok (r.map fun _ => v)
    | .error e => .error (.unplaced (.inconvertible e) r.rest)

/-- The expectation that a document denotes: a boolean, or an object with exactly
one member `error`, which is a text. -/
def expectation? : Json → Option Expectation
  | .boolean b => some (.answer b)
  | .object members =>
    match members.filter fun m => m.1 = "error" with
    | [(_, .text fragment)] => some (.failure fragment)
    | _ => none
  | _ => none

def takeExpectation (levels : Nat) (s : List Char) : Step MemberFault Expectation s :=
  match takeValue levels s with
  | .error e => .error (placedDocument e)
  | .ok r =>
    match expectation? r.value with
    | some e => .ok (r.map fun _ => e)
    | none => .error (.unplaced .noExpectation r.rest)

/-! ## The object form -/

/-- The fields of a case that were read so far. A name may have been read as null. -/
structure Draft where
  name? : Option (Option String) := none
  left? : Option Value := none
  op? : Option String := none
  right? : Option Value := none
  expect? : Option Expectation := none

namespace Draft

def has (d : Draft) : Field → Bool
  | .name => d.name?.isSome
  | .left => d.left?.isSome
  | .op => d.op?.isSome
  | .right => d.right?.isSome
  | .expect => d.expect?.isSome

/-- The case, or the first field that is missing. The name may be. -/
def finish (d : Draft) : Except Field Case :=
  match d.left?, d.op?, d.right?, d.expect? with
  | some left, some op, some right, some expect => .ok ⟨d.name?.join, left, op, right, expect⟩
  | none, _, _, _ => .error .left
  | _, none, _, _ => .error .op
  | _, _, none, _ => .error .right
  | _, _, _, none => .error .expect

end Draft

def takeField (levels : Nat) (d : Draft) (f : Field) (s : List Char) : Step MemberFault Draft s :=
  match f with
  | .name => (takeName s).map (·.map fun v => { d with name? := some v })
  | .left => (takeOperand levels s).map (·.map fun v => { d with left? := some v })
  | .op => (takeString s).map (·.map fun v => { d with op? := some v })
  | .right => (takeOperand levels s).map (·.map fun v => { d with right? := some v })
  | .expect => (takeExpectation levels s).map (·.map fun v => { d with expect? := some v })

/-- Takes a member from behind the opening quote of its key. A repeated field is
found out before the colon, and members of other keys are skipped. -/
def takeCaseMember (levels : Nat) (d : Draft) (s : List Char) : Step MemberFault Draft s := do
  let key ← (takeText s).mapError placedDocument
  let field? := Field.ofKey? key.value
  -- A name that was null counts as read.
  if let some f := field? then
    if d.has f then throw (.unplaced (.repeated f) key.rest)
  let colon ← (takeColon key.rest).mapError placedDocument
  have h : colon.rest.length ≤ s.length := Nat.le_of_lt (Nat.lt_trans colon.shorter key.shorter)
  match field? with
  | some f => (takeField levels d f colon.rest).map (·.from h)
  | none =>
    match skipValue colon.rest with
    | .ok r => .ok ((r.map fun _ => d).from h)
    | .error e => .error (placedDocument e)

/-- Takes the members of a case behind its brace. -/
def takeObjectForm (levels : Nat) (s : List Char) : Step MemberFault Case s :=
  match takeMembers placedDocument (takeCaseMember levels) true {} s with
  | .error e => .error e
  | .ok r =>
    match r.value.finish with
    | .ok c => .ok (r.map fun _ => c)
    | .error f => .error (.placed (.before (.missing f) r.rest))

/-- Places a fault behind the closing brace if that comes next. -/
def placeInObject : MemberFault → Fault Cause
  | .placed fault => fault
  | .unplaced cause rest =>
    match skipBlanks rest with
    | '\x7d' :: after => .before cause after
    | after => .before cause after

/-! ## The array form -/

/-- Takes the next element, given how many were read. An array that ends here is
taken for one with at least one element. -/
def takeEntry {α : Type} (count : Nat) (item : (t : List Char) → Step MemberFault α t)
    (s : List Char) : Step MemberFault α s :=
  match nextElement (count = 0) s with
  | .error e => .error (placedDocument e)
  | .ok (.close r) => .error (.placed (.before (.wrongLength (max 1 count)) r.rest))
  | .ok (.entry ⟨t, h⟩) => (item t).map (·.from h)

/-- Takes the closing bracket behind the last element. -/
def takeClosing (s : List Char) : Step (Fault Reason) Unit s :=
  match h : skipBlanks s with
  | [] => .error (.before .endInList [])
  | c :: rest =>
    if c = ']' then .ok ⟨(), rest, length_lt_of_skipBlanks h⟩
    else if c = ',' then
      -- Behind a comma an element has to follow, and here it would be one too many.
      match skipBlanks rest with
      | ']' :: after => .error (.counting .trailingComma (']' :: after))
      | after => .error (.counting .trailingCharacters after)
    else .error (.counting .trailingCharacters (c :: rest))

/-- Takes the elements of a case behind its bracket. -/
def takeArrayForm (levels : Nat) (s : List Char) : Step MemberFault Case s := do
  let name ← takeEntry 0 takeName s
  let left ← takeEntry 1 (takeOperand levels) name.rest
  let op ← takeEntry 2 takeString left.rest
  let right ← takeEntry 3 (takeOperand levels) op.rest
  let expect ← takeEntry 4 (takeExpectation levels) right.rest
  let closing ← (takeClosing expect.rest).mapError placedDocument
  .ok ⟨⟨name.value, left.value, op.value, right.value, expect.value⟩, closing.rest, by
    have := name.shorter; have := left.shorter; have := op.shorter
    have := right.shorter; have := expect.shorter; have := closing.shorter
    omega⟩

/-- Places a fault behind the closing bracket if that comes next, or behind a
comma and its blanks. -/
def placeInArray : MemberFault → Fault Cause
  | .placed fault => fault
  | .unplaced cause rest =>
    match skipBlanks rest with
    | ']' :: after => .before cause after
    | ',' :: after => .before cause (skipBlanks after)
    | after => .before cause after

/-! ## Cases and files of cases -/

/-- Takes a case in which so many levels may be opened, its own included. -/
def takeCase (levels : Nat) (s : List Char) : Step (Fault Cause) Case s :=
  match h : skipBlanks s with
  | [] => .error (wrongType .case [])
  | c :: rest =>
    if c = '[' || c = '\x7b' then
      match levels with
      | 0 => .error (.counting (.document .tooDeep) (c :: rest))
      | inner + 1 =>
        let form := if c = '[' then (takeArrayForm inner rest).mapError placeInArray
          else (takeObjectForm inner rest).mapError placeInObject
        form.map (·.from (length_tail_le_of_skipBlanks h))
    else .error (wrongType .case (c :: rest))

/-- Takes an array of cases. -/
def takeCases (levels : Nat) (s : List Char) : Step (Fault Cause) (List Case) s :=
  match h : skipBlanks s with
  | [] => .error (wrongType .sequence [])
  | c :: rest =>
    if c = '[' then
      match levels with
      | 0 => .error (.counting (.document .tooDeep) (c :: rest))
      | inner + 1 =>
        (takeElements ofDocument (takeCase inner) true rest).map
          (·.from (length_tail_le_of_skipBlanks h))
    else .error (wrongType .sequence (c :: rest))

def ofText (text : String) : Except (Fault Cause) Case :=
  whole ofDocument (takeCase maxLevels) text.toList

/-- The cases that the text of a file spells. -/
def listOfText (text : String) : Except (Fault Cause) (List Case) :=
  whole ofDocument (takeCases maxLevels) text.toList

end ValueOrder.Case
