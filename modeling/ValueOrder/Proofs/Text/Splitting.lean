import Mathlib.Tactic.SplitIfs
import ValueOrder.Text.Search

/-!
# Splitting at separators

The pieces of a text hold no separator, and pieces without separators come back out of the text
that joins them.
-/

namespace ValueOrder.Text

section Pieces
variable {α : Type} [DecidableEq α] {separator : α} {s : List α}

theorem piecesOf_of_notMem (absent : separator ∉ s) :
    piecesOf separator s = [s] := by
  induction s with
  | nil => rfl
  | cons c rest ih =>
    rw [List.mem_cons, not_or] at absent
    rw [piecesOf, if_neg (Ne.symm absent.1), ih absent.2]

theorem piecesOf_append (separator : α) (s t : List α) :
    piecesOf separator (s ++ separator :: t) = piecesOf separator s ++ piecesOf separator t := by
  induction s with
  | nil => simp [piecesOf]
  | cons c rest ih =>
    rw [List.cons_append, piecesOf, piecesOf]
    by_cases mark : c = separator
    · rw [if_pos mark, if_pos mark, ih, List.cons_append]
    · rw [if_neg mark, if_neg mark, ih]
      obtain ⟨piece, others, front⟩ :=
        List.exists_cons_of_ne_nil (piecesOf_ne_nil separator rest)
      rw [front]
      rfl

theorem notMem_of_mem_piecesOf {piece : List α}
    (here : piece ∈ piecesOf separator s) : separator ∉ piece := by
  induction s generalizing piece with
  | nil =>
    rw [List.mem_singleton.mp here]
    exact List.not_mem_nil
  | cons c rest ih =>
    obtain ⟨first, others, front⟩ := List.exists_cons_of_ne_nil (piecesOf_ne_nil separator rest)
    rw [piecesOf, front] at here
    split_ifs at here with mark
    · rcases List.mem_cons.mp here with rfl | behind
      · exact List.not_mem_nil
      · exact ih (front ▸ behind)
    · rcases List.mem_cons.mp here with rfl | behind
      · have absent := ih (front ▸ List.mem_cons_self : first ∈ piecesOf separator rest)
        rw [List.mem_cons, not_or]
        exact ⟨Ne.symm mark, absent⟩
      · exact ih (front ▸ List.mem_cons_of_mem first behind)

theorem length_piecesOf (separator : α) (s : List α) :
    (piecesOf separator s).length = s.count separator + 1 := by
  induction s with
  | nil => rfl
  | cons c rest ih =>
    obtain ⟨first, others, front⟩ := List.exists_cons_of_ne_nil (piecesOf_ne_nil separator rest)
    rw [piecesOf, List.count_cons]
    rw [front] at ih ⊢
    split_ifs with mark <;> simp_all

end Pieces

theorem notMem_of_mem_split {separator : Char} {s piece : String}
    (here : piece ∈ split separator s) : separator ∉ piece.toList := by
  obtain ⟨chars, ofChars, rfl⟩ := List.mem_map.mp here
  rw [String.toList_ofList]
  exact notMem_of_mem_piecesOf ofChars

theorem split_of_notMem {separator : Char} {s : String} (absent : separator ∉ s.toList) :
    split separator s = [s] := by
  simp [split, piecesOf_of_notMem absent]

theorem eq_of_split_eq_singleton {separator : Char} {s t : String}
    (single : split separator s = [t]) : t = s := by
  have pieces := congrArg List.length single
  rw [split, List.length_map, length_piecesOf, List.length_singleton, Nat.add_eq_right] at pieces
  rw [split_of_notMem (List.count_eq_zero.mp pieces)] at single
  exact (List.singleton_inj.mp single).symm

theorem split_append {separator : Char} {mark : String} (single : mark.toList = [separator])
    (s t : String) : split separator (s ++ mark ++ t) = split separator s ++ split separator t := by
  simp [split, single, piecesOf_append]

/-- Names without separators come back out of the text that joins them. -/
theorem split_intercalate {separator : Char} {mark : String} (single : mark.toList = [separator])
    {name : String} {names : List String} (absent : ∀ n ∈ name :: names, separator ∉ n.toList) :
    split separator (mark.intercalate (name :: names)) = name :: names := by
  induction names generalizing name with
  | nil => simpa using split_of_notMem (absent name (.head []))
  | cons next names ih =>
    obtain ⟨first, others⟩ := List.forall_mem_cons.mp absent
    rw [String.intercalate_cons_cons, split_append single, split_of_notMem first, ih others]
    rfl

end ValueOrder.Text
