/-!
# Text from bytes

Bytes that need not be UTF-8 are shown as text. What cannot be decoded is replaced, and of
bytes with which a character begins but does not go on the longest such run is replaced by one
character.
-/

namespace ValueOrder.Text

/-- Stands where bytes could not be decoded. -/
def replacement : Char := '\uFFFD'

/-- The character at the front of bytes, if they begin with the whole of one. -/
def firstChar? (bytes : List UInt8) : Option Char :=
  (bytes.take 4).toByteArray.utf8DecodeChar? 0

/-- Whether a byte can stand second in a character of three or four bytes. -/
def isSecond (first second : UInt8) : Bool :=
  let low := if first = 0xE0 then 0xA0 else if first = 0xF0 then 0x90 else 0x80
  let high := if first = 0xED then 0x9F else if first = 0xF4 then 0x8F else 0xBF
  0xE0 ≤ first && first ≤ 0xF4 && low ≤ second && second ≤ high

/-- How many bytes behind the first go on with a character that breaks off. -/
def begun (first : UInt8) : List UInt8 → Nat
  | second :: third :: _ =>
    if isSecond first second then if 0xF0 ≤ first ∧ 0x80 ≤ third ∧ third ≤ 0xBF then 2 else 1 else 0
  | [second] => if isSecond first second then 1 else 0
  | [] => 0

/-- The characters of bytes, of which the first so many belong to a character in front of them. -/
def decodeLossy : (passed : Nat) → List UInt8 → List Char
  | _, [] => []
  | passed + 1, _ :: rest => decodeLossy passed rest
  | 0, first :: rest =>
    match firstChar? (first :: rest) with
    | some c => c :: decodeLossy (c.utf8Size - 1) rest
    | none => replacement :: decodeLossy (begun first rest) rest

end ValueOrder.Text
