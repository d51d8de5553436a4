import ValueOrder.Pattern.Bracket
import ValueOrder.Text.Word

/-!
# Reading a pattern

A pattern is read from left to right. The groups that are open stand on a stack,
each with what was read before it.
-/

namespace ValueOrder.Pattern

/-! ## What has been read -/

/-- What has been read of a group. -/
structure Branches where
  /-- How many characters are left where the group begins. -/
  start : Nat
  /-- The branches before the latest bar, latest first. -/
  earlier : List Expression
  /-- How many characters are left where the current branch begins. -/
  branchStart : Nat
  /-- The items of the current branch, latest first. -/
  items : List Expression
  deriving Repr

namespace Branches

def startingAt (left : Nat) : Branches := ⟨left, [], left, []⟩

def add (b : Branches) (e : Expression) : Branches := { b with items := e :: b.items }

/-- The current branch, which ends where so many characters are left. -/
def branch (b : Branches) (left : Nat) : Expression :=
  match b.items with
  | [] => .empty ⟨b.branchStart, left⟩
  | [e] => e
  | items => .sequence items.reverse ⟨b.branchStart, left⟩

/-- A bar, given how many characters are left before and behind it. -/
def bar (b : Branches) (before behind : Nat) : Branches :=
  ⟨b.start, b.branch before :: b.earlier, behind, []⟩

/-- All of the group, which ends where so many characters are left. -/
def close (b : Branches) (left : Nat) : Expression :=
  match b.earlier with
  | [] => b.branch left
  | earlier => .either (earlier.reverse ++ [b.branch left]) ⟨b.start, left⟩

end Branches

/-- A group that is open. -/
structure OpenGroup where
  /-- Its opening parenthesis. -/
  opening : Span
  changes : List (Flag × Bool)
  /-- What was read before it, and whether the pattern is spaced there. -/
  outer : Branches
  outerSpaced : Bool
  deriving Repr

/-- What has been read of a pattern. -/
structure Progress where
  current : Branches
  groups : List OpenGroup
  spaced : Bool
  /-- The names of groups and where they stand. -/
  names : List (String × Span)
  deriving Repr

/-! ## Flags -/

/-- What the flag is changed to, if it is changed. -/
def changeOf (flag : Flag) (changes : List (Flag × Bool)) : Option Bool := changes.lookup flag

/-- What has been read of a list of flags. -/
structure FlagList where
  /-- The flags so far, latest first, and where they stand. -/
  flags : List (Flag × Bool × Span) := []
  /-- Where the sign stands behind which flags are switched off. -/
  negation? : Option Span := none
  /-- Whether the sign came last. -/
  dangling : Bool := false

namespace FlagList

def take (l : FlagList) (s : List Char) (c : Char) : Except Defect FlagList :=
  let here := Span.next s
  if c = '-' then
    match l.negation? with
    | some earlier => .error ⟨.negationRepeated, here, some earlier⟩
    | none => .ok { l with negation? := some here, dangling := true }
  else
    match Flag.ofLetter? c with
    | none => .error ⟨.flagUnknown, here, none⟩
    | some flag =>
      match l.flags.lookup flag with
      | some (_, earlier) => .error ⟨.flagRepeated, here, some earlier⟩
      | none =>
        .ok { l with flags := (flag, l.negation?.isNone, here) :: l.flags, dangling := false }

/-- The changes of the flags in order. A sign changes something. -/
def finish (l : FlagList) : Except Defect (List (Flag × Bool)) :=
  match l.negation?, l.dangling with
  | some sign, true => .error ⟨.flagMissing, sign, none⟩
  | _, _ => .ok (l.flags.reverse.map fun (flag, isOn, _) => (flag, isOn))

end FlagList

/-- Takes flags up to the colon or parenthesis behind them, and that character. -/
def takeFlags (l : FlagList) : (s : List Char) → Step Defect (List (Flag × Bool) × Char) s
  | [] => .error ⟨.flagAtEnd, .before [], none⟩
  | c :: rest =>
    if c = ':' || c = ')' then
      l.finish.map fun changes => ⟨(changes, c), rest, length_lt_cons c rest⟩
    else do return (← takeFlags (← l.take (c :: rest) c) rest).from (length_le_cons c rest)

/-! ## Names -/

/-- Whether the character may stand in the name of a group. -/
def isNameChar (isFirst : Bool) (c : Char) : Bool :=
  c = '_' || (if isFirst then Text.isAlphabetic c
    else c = '.' || c = '[' || c = ']' || Text.isAlphanumeric c)

/-- Takes the characters of a name and the angle bracket behind them. -/
def takeNameChars (isFirst : Bool) : (s : List Char) → Step Defect (List Char) s
  | [] => .error ⟨.nameUnclosed, .before [], none⟩
  | c :: rest =>
    if c = '>' then .ok ⟨[], rest, length_lt_cons c rest⟩
    else if isNameChar isFirst c then
      (takeNameChars false rest).map fun r => (r.map (c :: ·)).from (length_le_cons c rest)
    else .error ⟨.nameBadCharacter, .next (c :: rest), none⟩

/-- Takes a name that no group has so far. -/
def takeName (names : List (String × Span)) (s : List Char) : Step Defect (String × Span) s := do
  let chars ← takeNameChars true s
  let name := String.ofList chars.value
  let place : Span := ⟨s.length, chars.rest.length + 1⟩
  if chars.value = [] then throw ⟨.nameEmpty, .before s, none⟩
  match names.lookup name with
  | some earlier => throw ⟨.nameRepeated, place, some earlier⟩
  | none => return chars.map fun _ => (name, place)

/-! ## Groups -/

/-- The text behind a beginning, if it begins so. -/
def afterPrefix? (beginning : List Char) (s : List Char) : Option (List Char) :=
  if beginning.isPrefixOf s then some (s.drop beginning.length) else none

/-- The text behind the mark of a condition on what is around it. -/
def afterLookAround? (s : List Char) : Option (List Char) :=
  ["?=", "?!", "?<=", "?<!"].findSome? fun mark => afterPrefix? mark.toList s

theorem length_le_of_afterPrefix? {beginning s t : List Char} (h : afterPrefix? beginning s = some t) :
    t.length ≤ s.length := by
  unfold afterPrefix? at h
  split at h
  · cases h
    simp
  · cases h

/-- The progress with one more group open. -/
def Progress.enter (p : Progress) (opening : Span) (changes : List (Flag × Bool)) (left : Nat) :
    Progress :=
  { p with
    current := .startingAt left
    groups := ⟨opening, changes, p.current, p.spaced⟩ :: p.groups
    spaced := (changeOf .spaced changes).getD p.spaced }

/-- Takes what follows a parenthesis: the beginning of a group, or flags for the rest of
the group around it. -/
def openGroup (p : Progress) (s : List Char) : Except Defect (Progress × Rest s) := do
  let opening : Span := ⟨s.length + 1, s.length⟩
  let inside := onward p.spaced s
  have h : inside.length ≤ s.length := length_onward_le p.spaced s
  if let some behind := afterLookAround? inside then
    throw ⟨.lookAround, ⟨opening.start, behind.length⟩, none⟩
  match hn : (afterPrefix? "?P<".toList inside).or (afterPrefix? "?<".toList inside) with
  | some text =>
    have bound : text.length ≤ s.length := by
      rcases Option.or_eq_some_iff.1 hn with hn | ⟨_, hn⟩ <;>
        exact Nat.le_trans (length_le_of_afterPrefix? hn) h
    let name ← takeName p.names text
    return ({ p.enter opening [] name.rest.length with names := name.value :: p.names },
      ⟨name.rest, Nat.le_trans (Nat.le_of_lt name.shorter) bound⟩)
  | none =>
    match hf : afterPrefix? ['?'] inside with
    | none => return (p.enter opening [] inside.length, ⟨inside, h⟩)
    | some text =>
      have bound : text.length ≤ s.length := Nat.le_trans (length_le_of_afterPrefix? hf) h
      if text = [] then throw ⟨.groupUnclosed, opening, none⟩
      let flags ← takeFlags {} text
      have shorter : flags.rest.length ≤ s.length :=
        Nat.le_trans (Nat.le_of_lt flags.shorter) bound
      let (changes, closer) := flags.value
      if closer = ':' then
        return (p.enter opening changes flags.rest.length, ⟨flags.rest, shorter⟩)
      else if changes = [] then throw ⟨.nothingToRepeat, .before inside, none⟩
      else
        let e := Expression.flags changes ⟨opening.start, flags.rest.length⟩
        return ({ p with
            current := p.current.add e
            spaced := (changeOf .spaced changes).getD p.spaced }, ⟨flags.rest, shorter⟩)

/-- The progress with the innermost group closed, given what is left with its
parenthesis and without. -/
def Progress.leave (p : Progress) (s rest : List Char) : Except Defect Progress :=
  match p.groups with
  | [] => .error ⟨.groupUnopened, .between s rest, none⟩
  | g :: groups =>
    let e := Expression.group g.changes (p.current.close s.length) ⟨g.opening.start, rest.length⟩
    .ok { p with current := g.outer.add e, groups := groups, spaced := g.outerSpaced }

/-! ## Repetitions -/

/-- What a repetition repeats, and what was read before it. -/
def Progress.operand (p : Progress) (s : List Char) : Except Defect (Expression × Branches) :=
  match p.current.items with
  | e :: items =>
    if e.isRepeatable then .ok (e, { p.current with items := items })
    else .error ⟨.nothingToRepeat, .before s, none⟩
  | [] => .error ⟨.nothingToRepeat, .before s, none⟩

/-- The counts of an operator of one character. -/
def counts? : Char → Option (Nat × Option Nat)
  | '?' => some (0, some 1)
  | '*' => some (0, none)
  | '+' => some (1, none)
  | _ => none

/-- Takes the mark of a lazy repetition, if there is one. -/
def takeLazyMark : (s : List Char) → Rest s
  | [] => .all []
  | c :: rest => if c = '?' then .tail c rest else .all (c :: rest)

/-- The progress with its latest item repeated. -/
def Progress.repeated (p : Progress) (e : Expression) (before : Branches)
    (counts : Nat × Option Nat) (left : Nat) : Progress :=
  { p with current := before.add (.repeated e counts.1 counts.2 ⟨e.place.start, left⟩) }

/-! ## The whole pattern -/

/-- Takes the next item, operator or parenthesis, which begins with `c`. -/
def takePart (p : Progress) (c : Char) (rest : List Char) : Step Defect Progress (c :: rest) := do
  let s := c :: rest
  if let some counts := counts? c then
    let (e, before) ← p.operand s
    let ⟨r, h⟩ := takeLazyMark rest
    return ⟨p.repeated e before counts r.length, r, length_lt_cons_of_le c h⟩
  if c = '\x7b' then
    let (e, before) ← p.operand s
    let counts ← takeCounts p.spaced s.length rest
    let repeated := counts.map fun n => p.repeated e before n counts.rest.length
    return repeated.from (length_le_cons c rest)
  if c = '(' then
    let (q, ⟨r, h⟩) ← openGroup p rest
    return ⟨q, r, length_lt_cons_of_le c h⟩
  if c = ')' then return ⟨← p.leave s rest, rest, length_lt_cons c rest⟩
  let add (e : Expression) : Progress := { p with current := p.current.add e }
  if c = '|' then
    let barred := p.current.bar s.length rest.length
    return ⟨{ p with current := barred }, rest, length_lt_cons c rest⟩
  if c = '[' then
    let set ← takeClass p.spaced rest
    return (set.map fun set => add (.bracketed set)).from (length_le_cons c rest)
  if c = '\\' then
    let atom ← takeEscape p.spaced rest
    return (atom.map fun a => add a.expression).from (length_le_cons c rest)
  let plain :=
    if c = '.' then Expression.dot (.next s)
    else if c = '^' then Expression.assertion .caret (.next s)
    else if c = '$' then Expression.assertion .dollar (.next s)
    else Expression.literal ⟨c, false, .next s⟩
  return ⟨add plain, rest, length_lt_cons c rest⟩

def takeParts (p : Progress) (s : List Char) : Except Defect Progress :=
  match _h : onward p.spaced s with
  | [] => .ok p
  | c :: rest =>
    match takePart p c rest with
    | .error d => .error d
    | .ok r => takeParts r.value r.rest
termination_by s.length
decreasing_by exact Nat.lt_of_lt_of_le r.shorter (length_lt_of_onward _h)

def Expression.ofText (text : String) : Except Defect Expression := do
  let s := text.toList
  let p ← takeParts ⟨.startingAt s.length, [], false, []⟩ s
  if let g :: _ := p.groups then throw ⟨.groupUnclosed, g.opening, none⟩
  -- Depth is judged last, so every other defect comes before it.
  let e := p.current.close 0
  match e.tooDeep? 0 with
  | some place => throw ⟨.tooDeep, place, none⟩
  | none => return e

end ValueOrder.Pattern
