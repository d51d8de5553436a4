import ValueOrder.Json.Delimiters
import ValueOrder.Json.Number

/-!
# Skipping a value

A member that nobody asks for is skipped without being kept. Only its form is
checked, and less of it: numbers may be out of range, surrogates may stand alone,
and values may lie inside each other at any depth. The brackets that are open
stand on a stack.
-/

namespace ValueOrder.Json

inductive Bracket where
  | array
  | object
  deriving DecidableEq, Repr

namespace Bracket

def closer : Bracket → Char
  | .array => ']'
  | .object => '\x7d'

/-- What it means that the text ends inside the bracket. -/
def atEnd : Bracket → Reason
  | .array => .endInList
  | .object => .endInObject

/-- What a character means that is neither a comma nor the closer. -/
def atOther : Bracket → Reason
  | .array => .expectedListEnd
  | .object => .expectedObjectEnd

end Bracket

/-- Skips what follows the backslash of an escape. -/
def skipEscape : (s : List Char) → Step (Fault Reason) Unit s
  | [] => .error (.before .endInText [])
  | c :: rest =>
    if (shortEscape? c).isSome then .ok ⟨(), rest, length_lt_cons c rest⟩
    -- Any unit will do: whether halves come in pairs is not asked.
    else if c = 'u' then
      (takeUnit rest).map fun r => (r.map fun _ => ()).from (length_le_cons c rest)
    else .error (.counting .invalidEscape (c :: rest))

/-- Skips the characters of a text and its closing quote. -/
def skipText : (s : List Char) → Step (Fault Reason) Unit s
  | [] => .error (.before .endInText [])
  | c :: rest =>
    if c = '"' then .ok ⟨(), rest, length_lt_cons c rest⟩
    else if c = '\\' then
      match skipEscape rest with
      | .error fault => .error fault
      | .ok d => (skipText d.rest).map (·.from (Nat.le_succ_of_le (Nat.le_of_lt d.shorter)))
    else if c < ' ' then .error (.before .controlCharacter (c :: rest))
    else (skipText rest).map (·.from (length_le_cons c rest))
termination_by s => s.length
decreasing_by
  · exact Nat.lt_succ_of_lt d.shorter
  · exact Nat.lt_succ_self _

/-- Skips a key from its opening quote to the colon after it. -/
def skipKey (s : List Char) : Step (Fault Reason) Unit s :=
  match h : skipBlanks s with
  | [] => .error (.before .endInObject [])
  | c :: rest =>
    if c = '"' then do
      let key ← skipText rest
      let colon ← takeColon key.rest
      .ok (colon.from (Nat.le_trans (Nat.le_of_lt key.shorter) (length_tail_le_of_skipBlanks h)))
    else .error (.counting .keyNotText (c :: rest))

/-- What a value begins with: a whole scalar, or the bracket that it opens. -/
def skipToken (s : List Char) : Step (Fault Reason) (Option Bracket) s :=
  match h : skipBlanks s with
  | [] => .error (.before .endInValue [])
  | c :: rest =>
    have shorter : rest.length < s.length := length_lt_of_skipBlanks h
    let keyword (word : String) : Step (Fault Reason) (Option Bracket) s :=
      (takeKeyword word.toList rest).map fun ⟨r, hr⟩ => ⟨none, r, length_lt_of_le_of_lt hr shorter⟩
    if c = 'n' then keyword "ull"
    else if c = 't' then keyword "rue"
    else if c = 'f' then keyword "alse"
    -- The literal is not converted, so it cannot be out of range.
    else if c = '-' || c.isDigit then
      (takeLiteral .invalidNumber (c :: rest)).map fun r =>
        (r.map fun _ => none).from (length_cons_le_of_skipBlanks h)
    else if c = '"' then
      (skipText rest).map fun r => (r.map fun _ => none).from (length_tail_le_of_skipBlanks h)
    else if c = '[' then .ok ⟨some .array, rest, shorter⟩
    else if c = '\x7b' then .ok ⟨some .object, rest, shorter⟩
    else .error (.counting .expectedValue (c :: rest))

/-- Skips an entry of a bracket as far as it begins: the key of a member, and a
scalar or the bracket that is opened. -/
def skipEntry (b : Bracket) (s : List Char) : Step (Fault Reason) (Option Bracket) s :=
  match b with
  | .array => skipToken s
  | .object => do
    let key ← skipKey s
    let token ← skipToken key.rest
    .ok (token.from (Nat.le_of_lt key.shorter))

/-- What a turn inside a bracket comes to. -/
inductive Turn where
  /-- The bracket was closed. -/
  | close
  /-- A scalar entry was skipped. -/
  | scalar
  /-- An entry opened a bracket of its own. -/
  | opens (b : Bracket)

/-- Skips as far as the closer, the next scalar or the next bracket inside `b`. -/
def skipTurn (isFirst : Bool) (b : Bracket) (s : List Char) : Step (Fault Reason) Turn s :=
  let turn : Option Bracket → Turn
    | none => .scalar
    | some inner => .opens inner
  match h : skipBlanks s with
  | [] => .error (.before b.atEnd [])
  | c :: rest =>
    have shorter : rest.length < s.length := length_lt_of_skipBlanks h
    if c = b.closer then .ok ⟨.close, rest, shorter⟩
    else if isFirst then (skipEntry b s).map (·.map turn)
    else if c = ',' then
      (skipEntry b rest).map fun r => (r.map turn).from (length_tail_le_of_skipBlanks h)
    else .error (.counting b.atOther (c :: rest))

/-- Skips until all open brackets are closed. The innermost one stands first, and
`isFirst` tells whether it was only just opened. -/
def skipNested (isFirst : Bool) (stack : List Bracket) (s : List Char) :
    Except (Fault Reason) (Rest s) :=
  match stack with
  | [] => .ok (.all s)
  | b :: outer =>
    match skipTurn isFirst b s with
    | .error fault => .error fault
    | .ok turn =>
      have shorter := turn.shorter
      let after : Except (Fault Reason) (Rest turn.rest) :=
        match turn.value with
        | .close => skipNested false outer turn.rest
        | .scalar => skipNested false (b :: outer) turn.rest
        | .opens inner => skipNested true (inner :: b :: outer) turn.rest
      after.map fun r => ⟨r.1, Nat.le_trans r.2 (Nat.le_of_lt shorter)⟩
termination_by s.length

def skipValue (s : List Char) : Step (Fault Reason) Unit s :=
  match skipToken s with
  | .error fault => .error fault
  | .ok token =>
    (skipNested true token.value.toList token.rest).map fun r =>
      ⟨(), r.1, Nat.lt_of_le_of_lt r.2 token.shorter⟩

end ValueOrder.Json
