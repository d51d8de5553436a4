import ValueOrder.Pattern.Escape

/-!
# Classes between brackets

A class lists characters, ranges and other classes. Brackets may lie inside each
other, and operators may stand between the sets of one bracket. Operators have the
same rank and are taken from left to right.
-/

namespace ValueOrder.Pattern

/-- A bracket that is open. -/
structure OpenBracket where
  /-- The bracket as far as it opens. -/
  opening : Span
  negated : Bool
  /-- The latest operator and all that is before it. -/
  pending? : Option (SetOperator × ClassSet)
  /-- The items since the latest operator, latest first. -/
  items : List ClassSet
  /-- Where the items begin. -/
  start : Span
  deriving Repr

namespace OpenBracket

def add (b : OpenBracket) (item : ClassSet) : OpenBracket := { b with items := item :: b.items }

/-- The set of the items since the latest operator. -/
def latest (b : OpenBracket) : ClassSet :=
  match b.items with
  | [] => .nothing b.start
  | [item] => item
  | last :: others =>
    let first := others.getLastD last
    .union b.items.reverse ⟨first.place.start, last.place.stop⟩

/-- The set of all that is in the bracket. -/
def whole (b : OpenBracket) : ClassSet :=
  match b.pending? with
  | none => b.latest
  | some (op, left) => .operation op left b.latest ⟨left.place.start, b.latest.place.stop⟩

/-- The bracket with an operator behind what it holds. -/
def operate (b : OpenBracket) (op : SetOperator) (after : Span) : OpenBracket :=
  { b with pending? := some (op, b.whole), items := [], start := after }

/-- The class, given how many characters are left behind the closing bracket. -/
def close (b : OpenBracket) (left : Nat) : ClassSet :=
  .bracketed b.negated b.whole ⟨b.opening.start, left⟩

end OpenBracket

/-- A hyphen at the place of the next character. -/
def hyphen (s : List Char) : ClassSet := .single ⟨'-', false, .next s⟩

/-- Takes the hyphens that a class begins with. They stand for themselves. -/
def takeHyphens (spaced : Bool) (start : Nat) :
    (s : List Char) → Except Defect (List ClassSet × Rest s)
  | [] => .ok ([], .all [])
  | c :: rest =>
    if c = '-' then
      if onward spaced rest = [] then .error ⟨.classUnclosed, ⟨start, start⟩, none⟩
      else
        (takeHyphens spaced start (onward spaced rest)).map fun (items, ⟨r, h⟩) =>
          (items ++ [hyphen (c :: rest)],
            ⟨r, length_le_cons_of_onward c h⟩)
    else .ok ([], .all (c :: rest))
termination_by s => s.length
decreasing_by exact Nat.lt_succ_of_le (length_onward_le spaced rest)

def takeNegation (spaced : Bool) : (s : List Char) → Bool × Rest s
  | [] => (false, .all [])
  | c :: rest =>
    if c = '^' then (true, ⟨onward spaced rest, Nat.le_succ_of_le (length_onward_le spaced rest)⟩)
    else (false, .all (c :: rest))

/-- Opens a class behind its bracket. A closing bracket that comes first stands for
itself. -/
def openBracket (spaced : Bool) (s : List Char) : Except Defect (OpenBracket × Rest s) := do
  let start := s.length + 1
  let unclosed : Defect := ⟨.classUnclosed, ⟨start, 0⟩, none⟩
  let inside := onward spaced s
  have h : inside.length ≤ s.length := length_onward_le spaced s
  if inside = [] then throw unclosed
  let (negated, ⟨s₁, h₁⟩) := takeNegation spaced inside
  if s₁ = [] then throw unclosed
  let (hyphens, ⟨s₂, h₂⟩) ← takeHyphens spaced start s₁
  let opened (items : List ClassSet) (left : List Char) : OpenBracket :=
    ⟨⟨start, left.length⟩, negated, none, items, .before s₁⟩
  match hs : s₂ with
  | [] => throw unclosed
  | c :: rest =>
    have bound : (c :: rest).length ≤ s.length := hs ▸ Nat.le_trans h₂ (Nat.le_trans h₁ h)
    if c = ']' ∧ hyphens = [] then
      let after := onward spaced rest
      if after = [] then throw unclosed
      return (opened [.single ⟨c, false, .next (c :: rest)⟩] after,
        ⟨after, length_onward_le_of_cons bound⟩)
    else return (opened hyphens (c :: rest), ⟨c :: rest, bound⟩)

/-- Takes a class with a name behind its opening bracket, if there is one. -/
def takeAsciiClass? (s : List Char) : Option (Read ClassSet s) :=
  match s with
  | ':' :: c :: rest =>
    let negated : Bool := c = '^'
    let name := if c = '^' then rest else c :: rest
    have h : name.length ≤ rest.length + 1 := by
      dsimp only [name]
      split <;> simp
    match hr : name.dropWhile (· ≠ ':') with
    | ':' :: ']' :: after =>
      match AsciiClass.ofName? (.ofList (name.takeWhile (· ≠ ':'))) with
      | some k =>
        some ⟨.ascii k negated ⟨s.length + 1, after.length⟩, after, by
          have := (List.dropWhile_sublist (l := name) (· ≠ ':')).length_le
          rw [hr] at this
          simp only [List.length_cons] at this ⊢
          omega⟩
      | none => none
    | _ => none
  | _ => none

/-- The item that an atom is. A condition is no item. -/
def Atom.item : Atom → Except Defect ClassSet
  | literal l => .ok (.single l)
  | short k negated p => .ok (.short k negated p)
  | property name negated p => .ok (.property name negated p)
  | assertion _ p => .error ⟨.badEscapeInClass, p, none⟩

/-- The bound of a range that an atom is. Only a character is one. -/
def Atom.bound : Atom → Except Defect Literal
  | literal l => .ok l
  | a => .error ⟨.rangeBound, a.place, none⟩

/-- Takes an escape or a plain character of a class. -/
def takeClassAtom (spaced : Bool) (unclosed : Defect) (s : List Char) : Step Defect Atom s :=
  (takeAtom spaced s).getD (.error unclosed)

/-- Takes a character, a class by escape, or a range. -/
def takeItem (spaced : Bool) (unclosed : Defect) (s : List Char) : Step Defect ClassSet s := do
  let first ← takeClassAtom spaced unclosed s
  let after := onward spaced first.rest
  have h : after.length < s.length :=
    Nat.lt_of_le_of_lt (length_onward_le spaced first.rest) first.shorter
  match ha : after with
  | [] => throw unclosed
  | c :: rest =>
    have shorter : (c :: rest).length < s.length := ha ▸ h
    let beyond := onward spaced rest
    -- A hyphen before the closing bracket, or before another, makes no range.
    if c = '-' ∧ beyond.head? ≠ some ']' ∧ beyond.head? ≠ some '-' then
      let second ← takeClassAtom spaced unclosed beyond
      let low ← first.value.bound
      let high ← second.value.bound
      let place : Span := ⟨low.place.start, high.place.stop⟩
      if high.char < low.char then throw ⟨.emptyRange, place, none⟩
      return ⟨.range low high place, second.rest,
        Nat.lt_of_lt_of_le second.shorter
          (Nat.le_trans (length_onward_le spaced rest) (Nat.le_of_lt (Nat.lt_of_succ_lt shorter)))⟩
    else return ⟨← first.value.item, c :: rest, shorter⟩

/-- The operator that the next two characters are. -/
def operator? : List Char → Option (SetOperator × List Char)
  | '&' :: '&' :: rest => some (.intersection, rest)
  | '-' :: '-' :: rest => some (.difference, rest)
  | '~' :: '~' :: rest => some (.symmetricDifference, rest)
  | _ => none

theorem length_lt_of_operator? {s rest : List Char} {op : SetOperator}
    (h : operator? s = some (op, rest)) : rest.length < s.length := by
  unfold operator? at h
  split at h <;> simp_all +arith

/-- Takes the rest of a class that lies in open brackets, the innermost first. -/
def takeBrackets (spaced : Bool) (b : OpenBracket) (outer : List OpenBracket) (s : List Char) :
    Step Defect ClassSet s :=
  let unclosed : Defect := ⟨.classUnclosed, b.opening, none⟩
  match hs : onward spaced s with
  | [] => .error unclosed
  | c :: rest =>
    have shorter : rest.length < s.length := length_lt_of_onward hs
    if c = ']' then
      match outer with
      | [] => .ok ⟨b.close rest.length, rest, shorter⟩
      | parent :: outer =>
        (takeBrackets spaced (parent.add (b.close rest.length)) outer rest).map
          (·.from (Nat.le_of_lt shorter))
    else if c = '[' then
      match takeAsciiClass? rest with
      | some named =>
        have : named.rest.length < s.length := Nat.lt_trans named.shorter shorter
        (takeBrackets spaced (b.add named.value) outer named.rest).map
          (·.from (Nat.le_of_lt this))
      | none =>
        match openBracket spaced rest with
        | .error d => .error d
        | .ok (inner, ⟨r, h⟩) =>
          have : r.length < s.length := Nat.lt_of_le_of_lt h shorter
          (takeBrackets spaced inner (b :: outer) r).map (·.from (Nat.le_of_lt this))
    else
      match ho : operator? (c :: rest) with
      | some (op, after) =>
        have : after.length < s.length :=
          Nat.lt_of_lt_of_le (length_lt_of_operator? ho) shorter
        (takeBrackets spaced (b.operate op (.before after)) outer after).map
          (·.from (Nat.le_of_lt this))
      | none =>
        match takeItem spaced unclosed (c :: rest) with
        | .error d => .error d
        | .ok item =>
          have : item.rest.length < s.length := Nat.lt_of_lt_of_le item.shorter shorter
          (takeBrackets spaced (b.add item.value) outer item.rest).map
            (·.from (Nat.le_of_lt this))
termination_by s.length

/-- Takes a class behind its opening bracket. -/
def takeClass (spaced : Bool) (s : List Char) : Step Defect ClassSet s :=
  match openBracket spaced s with
  | .error d => .error d
  | .ok (b, ⟨r, h⟩) => (takeBrackets spaced b [] r).map (·.from h)

end ValueOrder.Pattern
