import ValueOrder.Pattern.Expression
import ValueOrder.Text.Blank
import ValueOrder.Text.Reading

/-!
# Blanks and counts in a pattern

In a spaced pattern, white space and comments stand between the characters that
count. The readers below are told whether the pattern is spaced at their place.
-/

namespace ValueOrder.Pattern

/-! ## Going on -/

mutual

/-- The text after leading white space and comments. -/
def skipSpaced : List Char → List Char
  | [] => []
  | c :: rest =>
    if Text.isWhiteSpace c then skipSpaced rest
    else if c = '#' then skipComment rest
    else c :: rest

/-- The text after a comment, which ends with its line, and what may follow it. -/
def skipComment : List Char → List Char
  | [] => []
  | c :: rest => if c = '\n' then skipSpaced rest else skipComment rest

end

mutual

theorem length_skipSpaced_le (s : List Char) : (skipSpaced s).length ≤ s.length := by
  cases s with
  | nil => simp [skipSpaced]
  | cons c rest =>
    have h := length_skipSpaced_le rest
    have h' := length_skipComment_le rest
    unfold skipSpaced
    split
    · exact Nat.le_succ_of_le h
    · split
      · exact Nat.le_succ_of_le h'
      · exact Nat.le_refl _

theorem length_skipComment_le (s : List Char) : (skipComment s).length ≤ s.length := by
  cases s with
  | nil => simp [skipComment]
  | cons c rest =>
    have h := length_skipSpaced_le rest
    have h' := length_skipComment_le rest
    unfold skipComment
    split
    · exact Nat.le_succ_of_le h
    · exact Nat.le_succ_of_le h'

end

/-- The text from the next character that counts. -/
def onward (spaced : Bool) (s : List Char) : List Char := if spaced then skipSpaced s else s

theorem length_onward_le (spaced : Bool) (s : List Char) : (onward spaced s).length ≤ s.length := by
  cases spaced
  · exact Nat.le_refl _
  · exact length_skipSpaced_le s

theorem length_lt_of_onward {spaced : Bool} {s t : List Char} {c : Char}
    (h : onward spaced s = c :: t) : t.length < s.length := by
  have := length_onward_le spaced s
  rw [h] at this
  exact this

theorem length_le_cons_of_onward {spaced : Bool} {r s : List Char} (c : Char)
    (h : r.length ≤ (onward spaced s).length) : r.length ≤ (c :: s).length :=
  Nat.le_succ_of_le (Nat.le_trans h (length_onward_le spaced s))

theorem length_onward_le_of_cons {spaced : Bool} {s t : List Char} {c : Char}
    (h : (c :: t).length ≤ s.length) : (onward spaced t).length ≤ s.length :=
  Nat.le_trans (length_onward_le spaced t) (Nat.le_of_succ_le h)

/-- The characters that a text begins with as long as they are wanted. -/
def takeRun (spaced : Bool) (wanted : Char → Bool) : (s : List Char) → List Char × Rest s
  | [] => ([], .all [])
  | c :: rest =>
    if wanted c then
      let (run, ⟨r, h⟩) := takeRun spaced wanted (onward spaced rest)
      (c :: run, ⟨r, length_le_cons_of_onward c h⟩)
    else ([], .all (c :: rest))
termination_by s => s.length
decreasing_by exact Nat.lt_succ_of_le (length_onward_le spaced rest)

/-! ## Counts -/

def decimalValue (digits : List Char) : Nat :=
  digits.foldl (fun n c => n * 10 + (c.toNat - '0'.toNat)) 0

/-- Takes a number with white space around it. It has digits and is below `2 ^ 32`, or
else it is known where it is wrong. -/
def takeCount (spaced : Bool) (s : List Char) : Except Defect Nat × Rest s :=
  let start := s.dropWhile Text.isWhiteSpace
  have h : start.length ≤ s.length := (List.dropWhile_sublist _).length_le
  let (digits, ⟨r, hr⟩) := takeRun spaced Char.isDigit start
  let place := Span.between start r
  let n := decimalValue digits
  let count : Except Defect Nat :=
    if digits = [] then .error ⟨.countMissing, place, none⟩
    else if 0x100000000 ≤ n then .error ⟨.decimalInvalid, place, none⟩
    else .ok n
  (count, ⟨r.dropWhile Text.isWhiteSpace,
    Nat.le_trans (List.dropWhile_sublist _).length_le (Nat.le_trans hr h)⟩)

/-- Takes the brace behind the counts of a repetition, and the mark of a lazy one. -/
def closeCounts (spaced : Bool) (start : Nat) (least : Nat) (most? : Option Nat) :
    (s : List Char) → Step Defect (Nat × Option Nat) s
  | '\x7d' :: rest =>
    let after := onward spaced rest
    have h : after.length ≤ rest.length := length_onward_le spaced rest
    let ⟨r, hr⟩ : Rest after := match after with
      | '?' :: r => .tail '?' r
      | r => .all r
    if most?.any (· < least) then .error ⟨.countInvalid, ⟨start, r.length⟩, none⟩
    else .ok ⟨(least, most?), r, Nat.lt_succ_of_le (Nat.le_trans hr h)⟩
  | s => .error ⟨.countUnclosed, ⟨start, s.length⟩, none⟩

/-- Takes the second count of a repetition, if there is one, and its closing brace. -/
def takeMost (spaced : Bool) (start : Nat) (low : Except Defect Nat) (s : List Char) :
    Step Defect (Nat × Option Nat) s :=
  if s = [] then .error ⟨.countUnclosed, ⟨start, 0⟩, none⟩
  else if s.head? = some '\x7d' then do closeCounts spaced start (← low) none s
  else do
    let least ← low
    let (high, ⟨r, h⟩) := takeCount spaced s
    let most ← high
    return (← closeCounts spaced start least (some most) r).from h

/-- Takes the counts of a repetition behind its opening brace, which stands where
`start` characters are left. -/
def takeCounts (spaced : Bool) (start : Nat) (s : List Char) : Step Defect (Nat × Option Nat) s :=
  let first := onward spaced s
  have h : first.length ≤ s.length := length_onward_le spaced s
  if first = [] then .error ⟨.countUnclosed, ⟨start, 0⟩, none⟩
  else
    let (low, ⟨r, hr⟩) := takeCount spaced first
    match r with
    | [] => .error ⟨.countUnclosed, ⟨start, 0⟩, none⟩
    | c :: after =>
      if c = ',' then
        (takeMost spaced start low (onward spaced after)).map fun read => read.from (by
          have := length_onward_le spaced after
          simp only [List.length_cons] at hr
          omega)
      else do
        let least ← low
        return (← closeCounts spaced start least (some least) (c :: after)).from
          (Nat.le_trans hr h)

end ValueOrder.Pattern
