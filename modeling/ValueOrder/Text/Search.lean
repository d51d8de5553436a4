/-!
# Searching and splitting text

Whether a text occurs in another, and the pieces of a text between separators.
-/

namespace ValueOrder.Text

/-- Whether the first characters occur in the second, one after the other. -/
def occurs (part : List Char) : List Char → Bool
  | [] => part.isEmpty
  | c :: rest => part.isPrefixOf (c :: rest) || occurs part rest

def contains (s part : String) : Bool := occurs part.toList s.toList

theorem occurs_iff {part s : List Char} : occurs part s ↔ part <:+: s := by
  induction s with
  | nil => simp [occurs]
  | cons c rest ih => simp [occurs, List.infix_cons_iff, ih]

theorem contains_iff {s part : String} : contains s part ↔ part.toList <:+: s.toList :=
  occurs_iff

/-- The pieces between separators. There is one piece more than separators. -/
def piecesOf {α : Type} [DecidableEq α] (separator : α) : List α → List (List α)
  | [] => [[]]
  | c :: rest =>
    if c = separator then [] :: piecesOf separator rest
    else
      match piecesOf separator rest with
      | [] => [[c]]
      | piece :: others => (c :: piece) :: others

def split (separator : Char) (s : String) : List String :=
  (piecesOf separator s.toList).map String.ofList

theorem piecesOf_ne_nil {α : Type} [DecidableEq α] (separator : α) (s : List α) :
    piecesOf separator s ≠ [] := by
  induction s with
  | nil => simp [piecesOf]
  | cons c rest ih =>
    unfold piecesOf
    split
    · simp
    · split <;> simp

end ValueOrder.Text
