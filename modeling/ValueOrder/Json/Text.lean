import ValueOrder.Json.Token

/-!
# Texts inside quotes

What stands between the quotes of a JSON text: characters as they are, two-letter
escapes, and escapes by UTF-16 unit, of which a character beyond `U+FFFF` needs a
pair.
-/

namespace ValueOrder.Json

/-- The value of a hexadecimal digit of either case. -/
def hexDigit? (c : Char) : Option Nat :=
  if '0' ≤ c ∧ c ≤ '9' then some (c.toNat - '0'.toNat)
  else if 'a' ≤ c ∧ c ≤ 'f' then some (c.toNat - 'a'.toNat + 10)
  else if 'A' ≤ c ∧ c ≤ 'F' then some (c.toNat - 'A'.toNat + 10)
  else none

/-- The unit that four hexadecimal digits spell. -/
def unitOf? (a b c d : Char) : Option Nat := do
  return (((← hexDigit? a) * 16 + (← hexDigit? b)) * 16 + (← hexDigit? c)) * 16 + (← hexDigit? d)

/-- Four bytes that are not four digits are taken; a text with fewer bytes ends
too early. -/
def badUnit (s : List Char) : Fault Reason :=
  if byteLength s < 4 then ⟨.endInText, 0⟩ else ⟨.invalidEscape, byteLength s - 4⟩

def takeUnit (s : List Char) : Step (Fault Reason) Nat s :=
  match s with
  | a :: b :: c :: d :: rest =>
    match unitOf? a b c d with
    | some n => .ok ⟨n, rest, by simp +arith⟩
    | none => .error (badUnit (a :: b :: c :: d :: rest))
  | s => .error (badUnit s)

/-- The units that begin a pair. -/
def isLeading (n : Nat) : Bool := 0xD800 ≤ n && n ≤ 0xDBFF

/-- The units that end a pair. -/
def isTrailing (n : Nat) : Bool := 0xDC00 ≤ n && n ≤ 0xDFFF

/-- The character beyond `U+FFFF` that a pair of units stands for. -/
def pairChar (leading trailing : Nat) : Char :=
  .ofNat (0x10000 + (leading - 0xD800) * 0x400 + (trailing - 0xDC00))

/-- Takes a character that the second half of a pair has to begin with. -/
def takePairMark (mark : Char) : (s : List Char) → Step (Fault Reason) Unit s
  | [] => .error (.before .endInText [])
  | c :: rest =>
    if c = mark then .ok ⟨(), rest, length_lt_cons c rest⟩
    else .error (.counting .unpairedSurrogate (c :: rest))

/-- Takes the second half of a pair. -/
def takeTrailingHalf (s : List Char) : Step (Fault Reason) Nat s := do
  let slash ← takePairMark '\\' s
  let letter ← takePairMark 'u' slash.rest
  let unit ← takeUnit letter.rest
  if isTrailing unit.value then
    .ok ⟨unit.value, unit.rest,
      Nat.lt_trans unit.shorter (Nat.lt_trans letter.shorter slash.shorter)⟩
  else .error (.before .loneSurrogate unit.rest)

/-- Takes what follows the letter of an escape by unit. -/
def takeUnitEscape (s : List Char) : Step (Fault Reason) Char s := do
  let unit ← takeUnit s
  if isTrailing unit.value then .error (.before .loneSurrogate unit.rest)
  else if isLeading unit.value then
    let second ← takeTrailingHalf unit.rest
    .ok ⟨pairChar unit.value second.value, second.rest, Nat.lt_trans second.shorter unit.shorter⟩
  else .ok (unit.map Char.ofNat)

/-- The character that a two-letter escape stands for. -/
def shortEscape? (c : Char) : Option Char :=
  match c with
  | '"' => some '"'
  | '\\' => some '\\'
  | '/' => some '/'
  | 'b' => some '\x08'
  | 'f' => some '\x0c'
  | 'n' => some '\n'
  | 'r' => some '\r'
  | 't' => some '\t'
  | _ => none

/-- Takes what follows the backslash of an escape. -/
def takeEscape : (s : List Char) → Step (Fault Reason) Char s
  | [] => .error (.before .endInText [])
  | c :: rest =>
    match shortEscape? c with
    | some d => .ok ⟨d, rest, length_lt_cons c rest⟩
    | none =>
      if c = 'u' then (takeUnitEscape rest).map (·.from (length_le_cons c rest))
      else .error (.counting .invalidEscape (c :: rest))

/-- Takes the characters of a text and its closing quote. A control character
stands in a text only as an escape. -/
def takeTextBody : (s : List Char) → Step (Fault Reason) (List Char) s
  | [] => .error (.before .endInText [])
  | c :: rest =>
    if c = '"' then .ok ⟨[], rest, length_lt_cons c rest⟩
    else if c = '\\' then
      match takeEscape rest with
      | .error fault => .error fault
      | .ok d =>
        (takeTextBody d.rest).map fun r =>
          (r.map (d.value :: ·)).from (Nat.le_succ_of_le (Nat.le_of_lt d.shorter))
    else if c < ' ' then .error (.counting .controlCharacter (c :: rest))
    else (takeTextBody rest).map fun r => (r.map (c :: ·)).from (length_le_cons c rest)
termination_by s => s.length
decreasing_by
  · exact Nat.lt_succ_of_lt d.shorter
  · exact Nat.lt_succ_self _

/-- Takes the characters of a text and its closing quote, as a string. -/
def takeText (s : List Char) : Step (Fault Reason) String s :=
  (takeTextBody s).map (·.map String.ofList)

end ValueOrder.Json
