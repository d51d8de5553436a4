import ValueOrder.Proofs.Reading.Accepted
import ValueOrder.Proofs.Reading.Conversion

/-!
# How deep a document can be

The grammar opens only so many levels, so no tree that is read is deeper, and neither is any part
of the tree.
-/

namespace ValueOrder.Json

/-- So many levels are enough for the arrays and objects of the tree. -/
inductive Fits : Json → Nat → Prop where
  | null {n : Nat} : Fits .null n
  | boolean {n : Nat} (b : Bool) : Fits (.boolean b) n
  | number {n : Nat} (x : JsonNumber) : Fits (.number x) n
  | text {n : Nat} (s : String) : Fits (.text s) n
  | array {n : Nat} {items : List Json} (elements : ∀ j ∈ items, Fits j n) :
      Fits (.array items) (n + 1)
  | object {n : Nat} {members : List (String × Json)} (values : ∀ m ∈ members, Fits m.2 n) :
      Fits (.object members) (n + 1)

theorem Fits.succ {j : Json} {n : Nat} (fits : Fits j n) : Fits j (n + 1) := by
  induction fits with
  | null => exact .null
  | boolean b => exact .boolean b
  | number x => exact .number x
  | text s => exact .text s
  | array _ ih => exact .array ih
  | object _ ih => exact .object ih

/-! ## Reading -/

/-- So many levels are enough for what the part of a document stands for. -/
def Phrase.FitsIn (n : Nat) : Phrase → Prop
  | .value outcome => ∀ j ∈ outcome, Fits j n
  | .element outcome => ∀ j ∈ outcome, Fits j n
  | .elements outcome => ∀ items ∈ outcome, ∀ j ∈ items, Fits j n
  | .member outcome => ∀ m ∈ outcome, Fits m.2 n
  | .members outcome => ∀ members ∈ outcome, ∀ m ∈ members, Fits m.2 n

/-- What a text stands for is no deeper than the text. -/
theorem Spells.fitsIn {part : Phrase} {n : Nat} {t : List Char} (spelled : Spells part n t) :
    part.FitsIn n := by
  induction spelled with
  | keyword known =>
    rintro _ ⟨⟩
    simp only [keywords, List.mem_cons, Prod.mk.injEq, List.not_mem_nil, or_false] at known
    rcases known with ⟨rfl, _⟩ | ⟨rfl, _⟩ | ⟨rfl, _⟩
    · exact .null
    · exact .boolean true
    · exact .boolean false
  | number _ =>
    intro j stands
    obtain ⟨x, _, rfl⟩ := Option.map_eq_some_iff.mp stands
    exact .number x
  | text _ =>
    intro j stands
    obtain ⟨cs, _, rfl⟩ := Option.map_eq_some_iff.mp stands
    exact .text _
  | emptyArray _ =>
    rintro _ ⟨⟩
    exact .array (List.forall_mem_nil _)
  | array _ ih =>
    intro j stands
    obtain ⟨items, inside, rfl⟩ := Option.map_eq_some_iff.mp stands
    exact .array (ih items inside)
  | emptyObject _ =>
    rintro _ ⟨⟩
    exact .object (List.forall_mem_nil _)
  | object _ ih =>
    intro j stands
    obtain ⟨members, inside, rfl⟩ := Option.map_eq_some_iff.mp stands
    exact .object (ih members inside)
  | element _ _ _ ih => exact ih
  | lastElement _ ih =>
    intro items stands
    obtain ⟨j, last, rfl⟩ := Option.map_eq_some_iff.mp stands
    exact List.forall_mem_singleton.mpr (ih j last)
  | nextElement _ _ first rest =>
    intro items stands
    obtain ⟨j, here, stands⟩ := Option.bind_eq_some_iff.mp stands
    obtain ⟨others, behind, rfl⟩ := Option.map_eq_some_iff.mp stands
    exact List.forall_mem_cons.mpr ⟨first j here, rest others behind⟩
  | member _ _ _ _ ih =>
    intro m stands
    obtain ⟨cs, _, stands⟩ := Option.bind_eq_some_iff.mp stands
    obtain ⟨j, inside, rfl⟩ := Option.map_eq_some_iff.mp stands
    exact ih j inside
  | lastMember _ ih =>
    intro members stands
    obtain ⟨m, last, rfl⟩ := Option.map_eq_some_iff.mp stands
    exact List.forall_mem_singleton.mpr (ih m last)
  | nextMember _ _ first rest =>
    intro members stands
    obtain ⟨m, here, stands⟩ := Option.bind_eq_some_iff.mp stands
    obtain ⟨others, behind, rfl⟩ := Option.map_eq_some_iff.mp stands
    exact List.forall_mem_cons.mpr ⟨first m here, rest others behind⟩

theorem fits_of_ofText {text : String} {j : Json} (read : ofText text = .ok j) : Fits j maxLevels :=
  (ofText_eq_ok_iff.mp read).fitsIn j rfl

/-! ## Parts -/

theorem mem_partsOfItems_iff {part : Json} {items : List Json} :
    part ∈ partsOfItems items ↔ ∃ j ∈ items, part ∈ j.parts := by
  induction items with
  | nil => simp [partsOfItems]
  | cons first rest ih => simp [partsOfItems, ih]

/-- A part is no deeper than the document. -/
theorem fits_of_mem_parts {j part : Json} {n : Nat} (fits : Fits j n) (mem : part ∈ j.parts) :
    Fits part n := by
  induction j using tree_induction generalizing n with
  | null =>
    rw [List.mem_singleton.mp mem]
    exact fits
  | boolean b =>
    rw [List.mem_singleton.mp mem]
    exact fits
  | number x =>
    rw [List.mem_singleton.mp mem]
    exact fits
  | text s =>
    rw [List.mem_singleton.mp mem]
    exact fits
  | array items ih =>
    rcases List.mem_cons.mp mem with rfl | inside
    · exact fits
    · obtain ⟨item, member, part⟩ := mem_partsOfItems_iff.mp inside
      cases fits with
      | array elements => exact (ih item member (elements item member) part).succ
  | object members _ =>
    rw [List.mem_singleton.mp mem]
    exact fits

end ValueOrder.Json
