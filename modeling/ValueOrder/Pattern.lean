import ValueOrder.Text.Word

/-!
# Patterns

A pattern matches stretches of a text. It is followed from all places of the text
at once: each part of it moves the places where a match has come to so far on to
those where it can go on. A text holds a match when a place is left at the end.
-/

namespace ValueOrder

/-! ## Places -/

/-- A place in a text: the character before it, if there is one, and all
characters after it. -/
structure Place where
  before? : Option Char
  rest : List Char
  deriving DecidableEq, Repr

namespace Place

/-- The places of a text from the first to the last, given what stands before it. -/
def ofText (before? : Option Char) : List Char → List Place
  | [] => [⟨before?, []⟩]
  | c :: rest => ⟨before?, c :: rest⟩ :: ofText (some c) rest

/-- The place behind the next character, if there is one that is wanted. -/
def next? (wanted : Char → Bool) (p : Place) : Option Place :=
  match p.rest with
  | [] => none
  | c :: rest => if wanted c then some ⟨some c, rest⟩ else none

/-- The places of two lists. Each list runs from front to back, and so does the result,
with no place twice. -/
def merge : List Place → List Place → List Place
  | [], qs => qs
  | ps, [] => ps
  | p :: ps, q :: qs =>
    if q.rest.length < p.rest.length then p :: merge ps (q :: qs)
    else if p.rest.length < q.rest.length then q :: merge (p :: ps) qs
    else p :: merge ps qs
termination_by ps qs => ps.length + qs.length

end Place

/-! ## Conditions on a place -/

/-- How a place stands to the words around it. -/
inductive WordEdge where
  | boundary
  | noBoundary
  | first
  | last
  /-- No word before the place. -/
  | firstHalf
  /-- No word after the place. -/
  | lastHalf
  deriving DecidableEq, Repr

/-- A condition on a place that takes no character. -/
inductive Look where
  | textStart
  | textEnd
  | lineStart
  | lineEnd
  /-- As `lineStart`, where a carriage return ends a line too. -/
  | lineStartAfterReturn
  /-- As `lineEnd`, where a carriage return ends a line too. -/
  | lineEndBeforeReturn
  | word (edge : WordEdge) (inWord : Char → Bool)

/-- Whether a place meets the condition. A return and the line feed after it are not
parted. -/
def Look.holdsAt (p : Place) : Look → Bool
  | textStart => p.before?.isNone
  | textEnd => p.rest.isEmpty
  | lineStart => p.before?.isNone || p.before? = some '\n'
  | lineEnd => p.rest.isEmpty || p.rest.head? = some '\n'
  | lineStartAfterReturn =>
    p.before?.isNone || p.before? = some '\n'
      || (p.before? = some '\r' && p.rest.head? ≠ some '\n')
  | lineEndBeforeReturn =>
    p.rest.isEmpty || p.rest.head? = some '\r'
      || (p.rest.head? = some '\n' && p.before? ≠ some '\r')
  | word edge inWord =>
    let before := p.before?.any inWord
    let after := p.rest.head?.any inWord
    match edge with
    | .boundary => before ≠ after
    | .noBoundary => before = after
    | .first => !before && after
    | .last => before && !after
    | .firstHalf => !before
    | .lastHalf => !after

/-! ## Matching -/

/-- A pattern for stretches of a text. -/
inductive Pattern where
  | empty
  /-- One character that is wanted. -/
  | oneOf (wanted : Char → Bool)
  | look (l : Look)
  | sequence (p q : Pattern)
  | either (p q : Pattern)
  /-- The pattern so often in a row, without an upper bound if there is none. -/
  | repeated (p : Pattern) (least : Nat) (most? : Option Nat)

namespace Pattern

/-- After so many rounds a repetition from these places comes to no new place: each
round but one has to take a character. -/
def enoughRounds (ps : List Place) : Nat :=
  match ps with
  | [] => 0
  | p :: _ => p.rest.length + 2

/-- The places where a match that begins at one of these places can end. -/
def advance : Pattern → List Place → List Place
  | .empty, ps => ps
  | .oneOf wanted, ps => ps.filterMap (Place.next? wanted)
  | .look l, ps => ps.filter fun p => l.holdsAt p
  | .sequence p q, ps => advance q (advance p ps)
  | .either p q, ps => Place.merge (advance p ps) (advance q ps)
  | .repeated p least most?, ps =>
    -- More rounds than these change nothing, so an open repetition is a bounded one.
    let enough := enoughRounds ps
    let start := (min least enough).repeat (advance p) ps
    let more := match most? with
      | some most => min (most - least) enough
      | none => enough
    more.repeat (fun reached => Place.merge start (advance p reached)) start

def occursIn (p : Pattern) (text : String) : Bool :=
  !(p.advance (Place.ofText none text.toList)).isEmpty

end Pattern

end ValueOrder
