import ValueOrder.Json.Fault
import ValueOrder.Text.Reading

/-!
# Blanks, keywords and reasons

Why a text is no JSON document, and the smallest steps of reading one.
-/

namespace ValueOrder.Json

inductive Reason where
  | endInList
  | endInObject
  | endInText
  | endInValue
  | expectedColon
  | expectedListEnd
  | expectedObjectEnd
  | expectedKeyword
  | expectedValue
  | invalidEscape
  | invalidNumber
  | numberOutOfRange
  | loneSurrogate
  | unpairedSurrogate
  | controlCharacter
  | keyNotText
  | trailingComma
  | trailingCharacters
  | tooDeep
  deriving DecidableEq, Repr

namespace Reason

def message : Reason → String
  | endInList => "EOF while parsing a list"
  | endInObject => "EOF while parsing an object"
  | endInText => "EOF while parsing a string"
  | endInValue => "EOF while parsing a value"
  | expectedColon => "expected `:`"
  | expectedListEnd => "expected `,` or `]`"
  | expectedObjectEnd => "expected `,` or `\x7d`"
  | expectedKeyword => "expected ident"
  | expectedValue => "expected value"
  | invalidEscape => "invalid escape"
  | invalidNumber => "invalid number"
  | numberOutOfRange => "number out of range"
  | loneSurrogate => "lone leading surrogate in hex escape"
  | unpairedSurrogate => "unexpected end of hex escape"
  | controlCharacter => "control character (\\u0000-\\u001F) found while parsing a string"
  | keyNotText => "key must be a string"
  | trailingComma => "trailing comma"
  | trailingCharacters => "trailing characters"
  | tooDeep => "recursion limit exceeded"

/-- Whether the text broke off where something had to follow. -/
def isEnd : Reason → Bool
  | endInList | endInObject | endInText | endInValue => true
  | _ => false

end Reason

/-! ## Blanks and keywords -/

/-- Space, tab, newline and carriage return may stand between tokens. -/
def isBlank (c : Char) : Bool := c = ' ' || c = '\t' || c = '\n' || c = '\r'

/-- The text after its leading blanks. -/
def skipBlanks (s : List Char) : List Char := s.dropWhile isBlank

theorem length_skipBlanks_le (s : List Char) : (skipBlanks s).length ≤ s.length :=
  (List.dropWhile_sublist _).length_le

/-- Takes the letters of a keyword one by one. -/
def takeKeyword : (word s : List Char) → Except (Fault Reason) (Rest s)
  | [], s => .ok (.all s)
  | _ :: _, [] => .error (.before .endInValue [])
  | k :: word, c :: s =>
    if c = k then
      match takeKeyword word s with
      | .ok ⟨r, h⟩ => .ok ⟨r, length_le_cons_of_le c h⟩
      | .error e => .error e
    else .error (.counting .expectedKeyword (c :: s))

end ValueOrder.Json
