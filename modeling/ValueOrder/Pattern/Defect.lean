import ValueOrder.Text.Search

/-!
# What can be wrong with a pattern

A defect is a cause and the stretch of the pattern that shows it. The message
writes the pattern out and underlines the stretch. A pattern of several lines is
written with line numbers.
-/

namespace ValueOrder.Pattern

/-- A stretch of a pattern, by how many characters of the pattern are left at its
start and at its end. -/
structure Span where
  start : Nat
  stop : Nat
  deriving DecidableEq, Repr

namespace Span

/-- The stretch from where `s` is left to where `t` is left. -/
def between (s t : List Char) : Span := ⟨s.length, t.length⟩

/-- The empty stretch before what is left. -/
def before (s : List Char) : Span := ⟨s.length, s.length⟩

def next (s : List Char) : Span := ⟨s.length, s.length - 1⟩

end Span

/-- How deep brackets, groups, repetitions and their like may lie inside each other. -/
def maxDepth : Nat := 250

inductive Cause where
  | badEscapeInClass
  | emptyRange
  | rangeBound
  | classUnclosed
  | decimalInvalid
  | hexEmpty
  | hexNoCharacter
  | hexBadDigit
  | escapeAtEnd
  | escapeUnknown
  | flagMissing
  | flagRepeated
  | negationRepeated
  | flagAtEnd
  | flagUnknown
  | nameRepeated
  | nameEmpty
  | nameBadCharacter
  | nameUnclosed
  | groupUnclosed
  | groupUnopened
  | tooDeep
  | countInvalid
  | countMissing
  | countUnclosed
  | nothingToRepeat
  | edgeUnclosed
  | edgeUnknown
  | edgeAtEnd
  | propertyInvalid
  | backreference
  | lookAround
  | unicodeForbidden
  | notText
  | propertyUnknown
  deriving DecidableEq, Repr

namespace Cause

def message : Cause → String
  | badEscapeInClass => "invalid escape sequence found in character class"
  | emptyRange => "invalid character class range, the start must be <= the end"
  | rangeBound => "invalid range boundary, must be a literal"
  | classUnclosed => "unclosed character class"
  | decimalInvalid => "decimal literal invalid"
  | hexEmpty => "hexadecimal literal empty"
  | hexNoCharacter => "hexadecimal literal is not a Unicode scalar value"
  | hexBadDigit => "invalid hexadecimal digit"
  | escapeAtEnd => "incomplete escape sequence, reached end of pattern prematurely"
  | escapeUnknown => "unrecognized escape sequence"
  | flagMissing => "dangling flag negation operator"
  | flagRepeated => "duplicate flag"
  | negationRepeated => "flag negation operator repeated"
  | flagAtEnd => "expected flag but got end of regex"
  | flagUnknown => "unrecognized flag"
  | nameRepeated => "duplicate capture group name"
  | nameEmpty => "empty capture group name"
  | nameBadCharacter => "invalid capture group character"
  | nameUnclosed => "unclosed capture group name"
  | groupUnclosed => "unclosed group"
  | groupUnopened => "unopened group"
  | tooDeep =>
    "exceed the maximum number of nested parentheses/brackets (" ++ toString maxDepth ++ ")"
  | countInvalid => "invalid repetition count range, the start must be <= the end"
  | countMissing => "repetition quantifier expects a valid decimal"
  | countUnclosed => "unclosed counted repetition"
  | nothingToRepeat => "repetition operator missing expression"
  | edgeUnclosed =>
    "special word boundary assertion is either unclosed or contains an invalid character"
  | edgeUnknown =>
    "unrecognized special word boundary assertion, valid choices are: " ++
      "start, end, start-half or end-half"
  | edgeAtEnd =>
    "found either the beginning of a special word boundary or a bounded repetition " ++
      "on a \\b with an opening brace, but no closing brace"
  | propertyInvalid => "invalid Unicode character class"
  | backreference => "backreferences are not supported"
  | lookAround => "look-around, including look-ahead and look-behind, is not supported"
  | unicodeForbidden => "Unicode not allowed here"
  | notText => "pattern can match invalid UTF-8"
  | propertyUnknown => "Unicode property not found"

end Cause

/-- What is wrong, where it shows, and the place of what it repeats if that is what
is wrong. -/
structure Defect where
  cause : Cause
  place : Span
  earlier? : Option Span := none
  deriving DecidableEq, Repr

namespace Defect

/-! ## Lines and columns -/

/-- A line without the return at its end, if there is one. -/
def withoutReturn (line : List Char) : List Char :=
  if line.getLast? = some '\r' then line.dropLast else line

/-- The lines of a text. A line feed ends a line, with a return before it if there is
one, and at the end of the text it begins no other. -/
def lines (s : List Char) : List (List Char) :=
  let pieces := Text.piecesOf '\n' s
  pieces.dropLast.map withoutReturn ++ (pieces.getLast?.filter (· ≠ [])).toList

/-- The line, counted from 0, and the column before which so many characters precede. -/
def position : Nat → List Char → Nat × Nat
  | 0, _ => (0, 0)
  | _, [] => (0, 0)
  | n + 1, c :: rest =>
    let (line, column) := position n rest
    if c = '\n' then (line + 1, column) else if line = 0 then (0, column + 1) else (line, column)

/-! ## The message -/

/-- A stretch by the lines and columns of its two ends. -/
structure Extent where
  start : Nat × Nat
  stop : Nat × Nat
  deriving DecidableEq, Repr

/-- Where a stretch of a pattern lies. -/
def extent (pattern : List Char) (s : Span) : Extent :=
  ⟨position (pattern.length - s.start) pattern, position (pattern.length - s.stop) pattern⟩

/-- The stretches that the message shows, in the order of the pattern. -/
def extents (pattern : List Char) (d : Defect) : List Extent :=
  (d.earlier?.toList ++ [d.place]).map (extent pattern)

/-- Carets under the stretches of one line, given how many columns are filled. An empty
stretch has a caret too. -/
def underline (filled : Nat) : List Extent → List Char
  | [] => []
  | e :: rest =>
    let carets := max 1 (e.stop.2 - e.start.2)
    List.replicate (e.start.2 - filled) ' ' ++ List.replicate carets '^'
      ++ underline (max filled e.start.2 + carets) rest

/-- A number filled up with spaces on the left. -/
def numbered (width n : Nat) : List Char :=
  let digits := Nat.toDigits 10 n
  List.replicate (width - digits.length) ' ' ++ digits

/-- The lines of the pattern, each with what is before it and with the carets below it.
The width of line numbers is 0 where there are none. -/
def notated (width : Nat) (marks : List Extent) (index : Nat) : List (List Char) → List Char
  | [] => []
  | line :: rest =>
    let label := if width = 0 then "    ".toList else numbered width (index + 1) ++ ": ".toList
    let here := marks.filter fun e => e.start.1 = index && e.stop.1 = index
    let below :=
      if here = [] then [] else List.replicate label.length ' ' ++ underline 0 here ++ ['\n']
    label ++ line ++ '\n' :: (below ++ notated width marks (index + 1) rest)

/-- The line that tells of a stretch over several lines. -/
def crossing (e : Extent) : String :=
  "on line " ++ toString (e.start.1 + 1) ++ " (column " ++ toString (e.start.2 + 1)
    ++ ") through line " ++ toString (e.stop.1 + 1) ++ " (column " ++ toString e.stop.2 ++ ")"

def message (pattern : String) (d : Defect) : String :=
  let chars := pattern.toList
  let all := lines chars
  let marks := extents chars d
  -- A line feed at the end widens the numbers though it begins no line that is shown.
  let count := all.length + (if chars.getLast? = some '\n' then 1 else 0)
  let width := if count ≤ 1 then 0 else (Nat.toDigits 10 count).length
  let text := String.ofList (notated width marks 0 all)
  let divider := "".pushn '~' 79 ++ "\n"
  let crossings := (marks.filter fun e => e.start.1 ≠ e.stop.1).map (crossing · ++ "\n")
  "regex parse error:\n" ++
    (if '\n' ∈ chars then divider ++ text ++ divider ++ String.join crossings else text)
    ++ "error: " ++ d.cause.message

end Defect

end ValueOrder.Pattern
