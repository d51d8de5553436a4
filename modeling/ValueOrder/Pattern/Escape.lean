import ValueOrder.Pattern.Token

/-!
# Escapes in a pattern

What may stand behind a backslash: a character that would otherwise mean
something, a character by its number, a class, or a condition.
-/

namespace ValueOrder.Pattern

/-- What one escape or one plain character stands for. -/
inductive Atom where
  | literal (l : Literal)
  | assertion (a : Assertion) (place : Span)
  | short (k : ShortClass) (negated : Bool) (place : Span)
  | property (name : String) (negated : Bool) (place : Span)
  deriving Repr

def Atom.place : Atom → Span
  | literal l => l.place
  | assertion _ p => p
  | short _ _ p => p
  | property _ _ p => p

def Atom.expression : Atom → Expression
  | literal l => .literal l
  | assertion a p => .assertion a p
  | short k negated p => .short k negated p
  | property name negated p => .property name negated p

/-! ## Characters by number -/

def isHexDigit (c : Char) : Bool :=
  c.isDigit || ('a' ≤ c && c ≤ 'f') || ('A' ≤ c && c ≤ 'F')

def hexValue (digits : List Char) : Nat :=
  digits.foldl (fun n c =>
    n * 16 + (if c.isDigit then c.toNat - '0'.toNat else c.toLower.toNat - 'a'.toNat + 10)) 0

/-- The character of a number, if there is one. -/
def charOf? (n : Nat) : Option Char := if n.isValidChar then some (.ofNat n) else none

def takeHexDigits (spaced : Bool) : Nat → (s : List Char) → Except Defect (List Char × Rest s)
  | 0, s => .ok ([], .all s)
  | _ + 1, [] => .error ⟨.escapeAtEnd, .before [], none⟩
  | n + 1, c :: rest =>
    if isHexDigit c then
      (takeHexDigits spaced n (onward spaced rest)).map fun (digits, ⟨r, h⟩) =>
        (c :: digits, ⟨r, length_le_cons_of_onward c h⟩)
    else .error ⟨.hexBadDigit, .next (c :: rest), none⟩

/-- Takes hexadecimal digits between braces, behind the opening one. -/
def takeBracedHex (spaced : Bool) (start : Nat) (s : List Char) : Step Defect Literal s :=
  let first := onward spaced s
  have h : first.length ≤ s.length := length_onward_le spaced s
  let (digits, ⟨r, hr⟩) := takeRun spaced isHexDigit first
  match r with
  | [] => .error ⟨.escapeAtEnd, ⟨s.length + 1, 0⟩, none⟩
  | c :: rest =>
    if c = '\x7d' then
      let after := onward spaced rest
      if digits = [] then .error ⟨.hexEmpty, ⟨s.length + 1, after.length⟩, none⟩
      else
        match charOf? (hexValue digits) with
        | none => .error ⟨.hexNoCharacter, ⟨s.length, (c :: rest).length⟩, none⟩
        | some char =>
          .ok ⟨⟨char, false, ⟨start, after.length⟩⟩, after,
            Nat.lt_of_lt_of_le (Nat.lt_succ_of_le (length_onward_le spaced rest))
              (Nat.le_trans hr h)⟩
    else .error ⟨.hexBadDigit, .next (c :: rest), none⟩

/-- Takes the number of a character behind its letter: so many digits, or any between
braces. Two digits may mean a byte. -/
def takeHex (spaced : Bool) (start size : Nat) (s : List Char) : Except Defect (Literal × Rest s) :=
  let first := onward spaced s
  have h : first.length ≤ s.length := length_onward_le spaced s
  match first with
  | [] => .error ⟨.escapeAtEnd, .before [], none⟩
  | c :: rest =>
    if c = '\x7b' then
      (takeBracedHex spaced start rest).map fun r =>
        (r.value, ⟨r.rest, Nat.le_trans (Nat.le_of_lt r.shorter) (Nat.le_of_succ_le h)⟩)
    else do
      let (digits, ⟨r, hr⟩) ← takeHexDigits spaced size (c :: rest)
      match charOf? (hexValue digits) with
      | none => .error ⟨.hexNoCharacter, ⟨(c :: rest).length, r.length⟩, none⟩
      | some char => .ok (⟨char, size = 2, ⟨start, r.length⟩⟩, ⟨r, Nat.le_trans hr h⟩)

/-! ## Properties -/

/-- Takes the name of a property behind its letter: one character, or any between
braces. -/
def takeProperty (spaced : Bool) (s : List Char) : Except Defect (String × Rest s) :=
  let first := onward spaced s
  have h : first.length ≤ s.length := length_onward_le spaced s
  match hs : first with
  | [] => .error ⟨.escapeAtEnd, .before [], none⟩
  | c :: rest =>
    if c = '\x7b' then
      let (name, ⟨r, hr⟩) := takeRun spaced (· ≠ '\x7d') (onward spaced rest)
      match r with
      | [] => .error ⟨.escapeAtEnd, .before [], none⟩
      | _ :: after => .ok (.ofList name, ⟨after, by
          have := length_onward_le spaced rest
          simp only [List.length_cons] at hr h
          omega⟩)
    else if c = '\\' then .error ⟨.propertyInvalid, .next (c :: rest), none⟩
    else .ok (c.toString, ⟨onward spaced rest, length_onward_le_of_cons h⟩)

/-! ## Conditions -/

def Assertion.ofName? (name : String) : Option Assertion :=
  [("start", wordStart), ("end", wordEnd), ("start-half", wordStartHalf),
    ("end-half", wordEndHalf)].lookup name

/-- Whether the character may stand in the name of a condition. -/
def isEdgeLetter (c : Char) : Bool := ('a' ≤ c && c ≤ 'z') || ('A' ≤ c && c ≤ 'Z') || c = '-'

/-- Takes the name of a condition behind its opening brace. There is none if the brace
begins a count. -/
def takeEdge? (spaced : Bool) (start : Nat) (s : List Char) :
    Except Defect (Option (Assertion × Rest s)) :=
  let first := onward spaced s
  have h : first.length ≤ s.length := length_onward_le spaced s
  match first.head? with
  | none => .error ⟨.edgeAtEnd, ⟨start, 0⟩, none⟩
  | some c =>
    if isEdgeLetter c then
      let (name, ⟨r, hr⟩) := takeRun spaced isEdgeLetter first
      match r with
      | '\x7d' :: rest =>
        match Assertion.ofName? (.ofList name) with
        | some a => .ok (some (a, ⟨rest, Nat.le_trans (Nat.le_of_succ_le hr) h⟩))
        | none => .error ⟨.edgeUnknown, ⟨first.length, rest.length + 1⟩, none⟩
      | r => .error ⟨.edgeUnclosed, ⟨s.length + 1, r.length⟩, none⟩
    else .ok none

/-- Takes the name between braces that may follow the letter of a condition on words. -/
def takeWord (spaced : Bool) (start : Nat) (s : List Char) : Except Defect (Assertion × Rest s) :=
  match s with
  | [] => .ok (.word, .all [])
  | c :: inner =>
    let plain : Except Defect (Assertion × Rest (c :: inner)) :=
      .ok (.word, .all (c :: inner))
    if c = '\x7b' then do
      match ← takeEdge? spaced start inner with
      | some (a, ⟨r, h⟩) => .ok (a, ⟨r, length_le_cons_of_le c h⟩)
      | none => plain
    else plain

/-! ## Escapes -/

/-- The classes of one letter. A capital means all other characters. -/
def shortClass? : Char → Option (ShortClass × Bool)
  | 'd' => some (.digit, false)
  | 'D' => some (.digit, true)
  | 's' => some (.space, false)
  | 'S' => some (.space, true)
  | 'w' => some (.word, false)
  | 'W' => some (.word, true)
  | _ => none

def edge? : Char → Option Assertion
  | 'A' => some .textStart
  | 'z' => some .textEnd
  | 'b' => some .word
  | 'B' => some .noWord
  | '<' => some .wordStart
  | '>' => some .wordEnd
  | _ => none

/-- The characters that an escape of one character stands for. Each ASCII character
that is neither a letter nor a digit stands for itself. -/
def escapedChar? (c : Char) : Option Char :=
  match c with
  | 'a' => some '\x07'
  | 'f' => some '\x0c'
  | 't' => some '\t'
  | 'n' => some '\n'
  | 'r' => some '\r'
  | 'v' => some '\x0b'
  | c => if c.toNat < 128 && !c.isAlphanum then some c else none

/-- How many digits the number of a character has behind its letter. -/
def hexSize? : Char → Option Nat
  | 'x' => some 2
  | 'u' => some 4
  | 'U' => some 8
  | _ => none

/-- Takes what follows a backslash. -/
def takeEscape (spaced : Bool) (s : List Char) : Step Defect Atom s :=
  let start := s.length + 1
  match s with
  | [] => .error ⟨.escapeAtEnd, ⟨start, 0⟩, none⟩
  | c :: rest =>
    let place : Span := ⟨start, rest.length⟩
    let one (a : Atom) : Step Defect Atom (c :: rest) := .ok ⟨a, rest, length_lt_cons c rest⟩
    if c.isDigit then .error ⟨.backreference, place, none⟩
    else if c = 'p' || c = 'P' then
      (takeProperty spaced rest).map fun (name, ⟨r, h⟩) =>
        ⟨.property name (c = 'P') ⟨start, r.length⟩, r, length_lt_cons_of_le c h⟩
    else
      match hexSize? c, shortClass? c, edge? c, escapedChar? c with
      | some size, _, _, _ =>
        (takeHex spaced start size rest).map fun (l, ⟨r, h⟩) =>
          ⟨.literal l, r, length_lt_cons_of_le c h⟩
      | _, some (k, negated), _, _ => one (.short k negated place)
      | _, _, some .word, _ =>
        (takeWord spaced start rest).map fun (a, ⟨r, h⟩) =>
          ⟨.assertion a ⟨start, r.length⟩, r, length_lt_cons_of_le c h⟩
      | _, _, some a, _ => one (.assertion a place)
      | _, _, _, some d => one (.literal ⟨d, false, place⟩)
      | _, _, _, none => .error ⟨.escapeUnknown, place, none⟩

def takeAtom (spaced : Bool) : (s : List Char) → Option (Step Defect Atom s)
  | [] => none
  | c :: rest =>
    if c = '\\' then some ((takeEscape spaced rest).map (·.from (length_le_cons c rest)))
    else some (.ok ⟨.literal ⟨c, false, .next (c :: rest)⟩, rest, length_lt_cons c rest⟩)

end ValueOrder.Pattern
