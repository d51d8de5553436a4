import ValueOrder.Json.Delimiters
import ValueOrder.Json.Number

/-!
# Reading a document

A value begins with the character that tells its kind. Arrays and objects may
lie inside each other down to a fixed number of levels, and the reader recurses
on the levels that may still be opened.
-/

namespace ValueOrder.Json

/-- How many arrays and objects may lie inside each other. -/
def maxLevels : Nat := 127

/-- Takes a member of an object with the given reader for its value. Members are
kept latest first. -/
def takeMember (item : (t : List Char) → Step (Fault Reason) Json t) (members : List (String × Json))
    (s : List Char) : Step (Fault Reason) (List (String × Json)) s := do
  let key ← takeText s
  let colon ← takeColon key.rest
  let v ← item colon.rest
  .ok ⟨(key.value, v.value) :: members, v.rest,
    Nat.lt_trans v.shorter (Nat.lt_trans colon.shorter key.shorter)⟩

/-- Takes a keyword behind its first letter. -/
def takeWord (word : String) (v : Json) (s : List Char) : Except (Fault Reason) (Json × Rest s) :=
  (takeKeyword word.toList s).map fun r => (v, r)

def takeArray (item : (t : List Char) → Step (Fault Reason) Json t) (s : List Char) : Step (Fault Reason) Json s :=
  (takeElements id item true s).map (·.map .array)

def takeObject (item : (t : List Char) → Step (Fault Reason) Json t) (s : List Char) : Step (Fault Reason) Json s :=
  (takeMembers id (takeMember item) true [] s).map (·.map fun members => .object members.reverse)

/-- Takes a value. `nested` reads the values inside an array or object, and it is
absent where no level may be opened any more. -/
def takeValueWith (nested : Option ((t : List Char) → Step (Fault Reason) Json t)) (s : List Char) :
    Step (Fault Reason) Json s :=
  match h : skipBlanks s with
  | [] => .error (.before .endInValue [])
  | c :: rest =>
    have shorter : rest.length < s.length := length_lt_of_skipBlanks h
    let keyword (word : String) (v : Json) : Step (Fault Reason) Json s :=
      (takeWord word v rest).map fun (v, ⟨r, hr⟩) => ⟨v, r, length_lt_of_le_of_lt hr shorter⟩
    if c = 'n' then keyword "ull" .null
    else if c = 't' then keyword "rue" (.boolean true)
    else if c = 'f' then keyword "alse" (.boolean false)
    else if c = '-' || c.isDigit then
      (takeNumber (c :: rest)).map fun r => (r.map .number).from (length_cons_le_of_skipBlanks h)
    else if c = '"' then
      (takeText rest).map fun r => (r.map .text).from (length_tail_le_of_skipBlanks h)
    else if c = '[' || c = '\x7b' then
      match nested with
      | none => .error (.counting .tooDeep (c :: rest))
      | some item =>
        (if c = '[' then takeArray item rest else takeObject item rest).map
          (·.from (length_tail_le_of_skipBlanks h))
    else .error (.counting .expectedValue (c :: rest))

/-- Takes a value in which so many levels may be opened. -/
def takeValue : (levels : Nat) → (s : List Char) → Step (Fault Reason) Json s
  | 0 => takeValueWith none
  | levels + 1 => takeValueWith (some (takeValue levels))

/-- The value that a step takes from a whole text, with nothing but blanks after it. -/
def whole {ε α : Type} (lift : Fault Reason → ε) (item : (t : List Char) → Step ε α t)
    (s : List Char) : Except ε α :=
  match item s with
  | .error fault => .error fault
  | .ok r =>
    match skipBlanks r.rest with
    | [] => .ok r.value
    | c :: rest => .error (lift (.counting .trailingCharacters (c :: rest)))

/-- The document that a text spells. -/
def ofText (text : String) : Except (Fault Reason) Json :=
  whole id (takeValue maxLevels) text.toList

end ValueOrder.Json
