/-!
# Reading from the front of a text

A reading step takes characters off the front of a text. What it returns carries
the proof that fewer characters are left, so a loop of steps always ends.
-/

namespace ValueOrder

/-- What a step read off the front of `s`, and the characters that are left. -/
structure Read (α : Type) (s : List Char) where
  value : α
  rest : List Char
  shorter : rest.length < s.length

/-- The same reading seen from a longer text that ends in the one it was made on. -/
def Read.from {α : Type} {s t : List Char} (r : Read α s) (h : s.length ≤ t.length) : Read α t :=
  ⟨r.value, r.rest, Nat.lt_of_lt_of_le r.shorter h⟩

/-- Another value for the same characters. -/
def Read.map {α β : Type} {s : List Char} (f : α → β) (r : Read α s) : Read β s :=
  ⟨f r.value, r.rest, r.shorter⟩

/-- Characters that are left of `s`, possibly all of them. -/
abbrev Rest (s : List Char) := { r : List Char // r.length ≤ s.length }

/-- All of a text, when nothing was taken. -/
def Rest.all (s : List Char) : Rest s := ⟨s, Nat.le_refl _⟩

/-- A text without its first character. -/
def Rest.tail (c : Char) (s : List Char) : Rest (c :: s) := ⟨s, Nat.le_succ _⟩

/-- A step on `s` that reads at least one character, or why it could not. -/
abbrev Step (ε α : Type) (s : List Char) := Except ε (Read α s)

/-! ## Lengths -/

theorem length_le_cons (c : Char) (s : List Char) : s.length ≤ (c :: s).length :=
  Nat.le_succ _

theorem length_lt_cons (c : Char) (s : List Char) : s.length < (c :: s).length :=
  Nat.lt_succ_self _

theorem length_le_cons_of_le {r s : List Char} (c : Char) (h : r.length ≤ s.length) :
    r.length ≤ (c :: s).length :=
  Nat.le_succ_of_le h

theorem length_lt_cons_of_le {r s : List Char} (c : Char) (h : r.length ≤ s.length) :
    r.length < (c :: s).length :=
  Nat.lt_succ_of_le h

theorem length_lt_of_le_of_lt {r s t : List Char} (h : r.length ≤ s.length)
    (shorter : s.length < t.length) : r.length < t.length :=
  Nat.lt_of_le_of_lt h shorter

end ValueOrder
