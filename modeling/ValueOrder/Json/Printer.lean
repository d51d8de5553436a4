import ValueOrder.Decimal.Layout
import ValueOrder.Json

/-!
# Compact documents

The shortest way to write a tree: no blanks, objects as the map they stand for
with keys in order, and no escape that is not required.
-/

namespace ValueOrder

def JsonNumber.render : JsonNumber → String
  | .integer n => toString n
  | .double x => Layout.document.text x

namespace Json

def boolWord : Bool → String
  | true => "true"
  | false => "false"

def hexChar (n : Nat) : Char := Nat.digitChar n

/-- How one character is written in a text. Quotes, backslashes and controls below
the space need an escape. -/
def escapedChar (c : Char) : List Char :=
  match c with
  | '"' => ['\\', '"']
  | '\\' => ['\\', '\\']
  | '\x08' => ['\\', 'b']
  | '\t' => ['\\', 't']
  | '\n' => ['\\', 'n']
  | '\x0c' => ['\\', 'f']
  | '\r' => ['\\', 'r']
  | c =>
    if c < ' ' then ['\\', 'u', '0', '0', hexChar (c.toNat / 16), hexChar (c.toNat % 16)] else [c]

/-- A text between quotes. -/
def textChars (s : String) : List Char := '"' :: (s.toList.flatMap escapedChar ++ ['"'])

/-- Entries with commas between them. -/
def commaSeparated : List (List Char) → List Char
  | [] => []
  | [entry] => entry
  | entry :: next :: rest => entry ++ ',' :: commaSeparated (next :: rest)

/-- A key, a colon and the characters of the value. -/
def memberChars : String × List Char → List Char
  | (key, v) => textChars key ++ ':' :: v

mutual

def compactChars : Json → List Char
  | .null => "null".toList
  | .boolean b => (boolWord b).toList
  | .number n => n.render.toList
  | .text s => textChars s
  | .array items => '[' :: (commaSeparated (compactItems items) ++ [']'])
  | .object members =>
    '\x7b' :: (commaSeparated ((merged (compactMembers members)).map memberChars) ++ ['\x7d'])

/-- The characters of each element. -/
def compactItems : List Json → List (List Char)
  | [] => []
  | v :: rest => compactChars v :: compactItems rest

/-- The characters of each member's value, by its key. -/
def compactMembers : List (String × Json) → List (String × List Char)
  | [] => []
  | (key, v) :: rest => (key, compactChars v) :: compactMembers rest

end

def compact (j : Json) : String := .ofList j.compactChars

end Json

end ValueOrder
