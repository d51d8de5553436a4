import ValueOrder.Proofs.Printing.Layout

/-!
# The first offender

A document that denotes no value is reported by the first part of it that denotes none. A null is
reported by its name and an object by its compact text, with everything in it.
-/

namespace ValueOrder

namespace Value

open Json

/-- The part denotes no value, and a report quotes it in this way. -/
inductive Offends : Json → String → Prop where
  | null : Offends .null "null"
  | object {members : List (String × Json)} {text : String} (other : ¬ ∃ x, IsNumberObject members x)
      (written : CompactText (.object members) text.toList) :
      Offends (.object members) ("object " ++ text)

/-- An object that is no number object is quoted as it is printed. -/
theorem Offends.printed {members : List (String × Json)} (other : numberObject? members = none) :
    Offends (.object members) ("object " ++ (Json.object members).compact) := by
  refine .object (numberObject?_eq_none_iff.mp other) ?_
  rw [compact, String.toList_ofList]
  exact compactText_compactChars _

theorem Offends.message_ne_number {part : Json} {quoted : String} (offends : Offends part quoted)
    (rest : String) :
    "cannot convert " ++ quoted ++ " to a runtime value" ≠ "cannot convert number " ++ rest := by
  intro same
  have characters := congrArg String.toList same
  cases offends with
  | null => simp at characters
  | object other written => simp at characters

theorem blame?_eq_none_iff {part : Json} :
    blame? part = none ↔ ∀ quoted, ¬ Offends part quoted := by
  constructor
  · intro harmless quoted offends
    cases offends with
    | null => cases harmless
    | object other written => simp [blame?, numberObject?_eq_none_iff.mpr other] at harmless
  · intro harmless
    unfold blame?
    split
    · exact absurd .null (harmless _)
    · rw [if_neg]
      intro other
      exact harmless _ (.printed other)
    · rfl

theorem message_of_blame? {part : Json} {e : Inconvertible} (blamed : blame? part = some e) :
    ∃ quoted, Offends part quoted ∧
      e.message = "cannot convert " ++ quoted ++ " to a runtime value" := by
  unfold blame? at blamed
  split at blamed
  · cases blamed
    exact ⟨_, .null, rfl⟩
  · split_ifs at blamed with other
    cases blamed
    exact ⟨_, .printed other, rfl⟩
  · cases blamed

theorem harmless_iff {found : List Json} : (∀ part ∈ found, blame? part = none) ↔
    .null ∉ found ∧ ∀ members, .object members ∈ found → ∃ x, IsNumberObject members x := by
  constructor
  · intro harmless
    refine ⟨?_, ?_⟩
    · intro null
      exact blame?_eq_none_iff.mp (harmless _ null) _ .null
    · intro members member
      by_contra other
      exact blame?_eq_none_iff.mp (harmless _ member) _ (.printed (numberObject?_eq_none_iff.mpr other))
  · rintro ⟨noNull, objects⟩ part member
    rw [blame?_eq_none_iff]
    intro quoted offends
    cases offends with
    | null => exact noNull member
    | object other written => exact other (objects _ member)

/-- The message of an error quotes the first part that offends. -/
theorem exists_first_offender {j : Json} {e : Inconvertible} (failed : ofJson j = .error e) :
    ∃ before part after quoted, j.parts = before ++ part :: after ∧
      (∀ p ∈ before, ∀ q, ¬ Offends p q) ∧ Offends part quoted ∧
      e.message = "cannot convert " ++ quoted ++ " to a runtime value" := by
  rw [ofJson_eq_error_iff, List.findSome?_eq_some_iff] at failed
  obtain ⟨before, part, after, split, blamed, harmless⟩ := failed
  obtain ⟨quoted, offends, message⟩ := message_of_blame? blamed
  refine ⟨before, part, after, quoted, split, ?_, offends, message⟩
  intro p member
  exact blame?_eq_none_iff.mp (harmless p member)

/-- The conversion accepts the documents without a null outside of objects in which all
objects outside of others are number objects, and it gives what they denote. A number object
with a literal is converted to the same double as the literal. Of any other document the
first part that denotes no value is reported, by the word `null` or by the compact text of
the object with everything in it. -/
theorem conversion_exact (j : Json) :
    ((∃ v, ofJson j = .ok v) ↔
      .null ∉ j.parts ∧ ∀ members, .object members ∈ j.parts → ∃ x, IsNumberObject members x) ∧
    (∀ v, ofJson j = .ok v ↔ Denotes j v) ∧
    (∀ members n, OnlyMember members "number" (.number n) →
      ofJson (.object members) = ofJson (.number n)) ∧
    ∀ e, ofJson j = .error e →
      (∃ before part after quoted, j.parts = before ++ part :: after ∧
        (∀ p ∈ before, ∀ q, ¬ Offends p q) ∧ Offends part quoted ∧
        e.message = "cannot convert " ++ quoted ++ " to a runtime value") ∧
      ∀ rest, e.message ≠ "cannot convert number " ++ rest := by
  refine ⟨?_, ofJson_eq_ok_iff j, ?_, ?_⟩
  · rw [exists_ofJson_eq_ok_iff, harmless_iff]
  · intro members n alone
    have number := numberObject?_eq_some_iff.mpr ⟨_, alone, .literal n⟩
    rw [ofJson, ofJson, number]
  · intro e failed
    have reported := exists_first_offender failed
    refine ⟨reported, ?_⟩
    obtain ⟨_, _, _, quoted, _, _, offends, message⟩ := reported
    intro rest
    rw [message]
    exact offends.message_ne_number rest

/-- In `[true, [{"number": null}], null]` the object is reported and the null after it is not. -/
theorem first_object_reported :
    ofJson (.array [.boolean true, .array [.object [("number", .null)]], .null]) =
      .error (.object [("number", .null)]) ∧
    ∃ before part after quoted,
      (Json.array [.boolean true, .array [.object [("number", .null)]], .null]).parts =
        before ++ part :: after ∧
      (∀ p ∈ before, ∀ q, ¬ Offends p q) ∧ Offends part quoted ∧
      (Inconvertible.object [("number", .null)]).message =
        "cannot convert " ++ quoted ++ " to a runtime value" := by
  have failed : ofJson (.array [.boolean true, .array [.object [("number", .null)]], .null]) =
      .error (.object [("number", .null)]) := rfl
  exact ⟨failed, ((conversion_exact _).2.2.2 _ failed).1⟩

end Value

end ValueOrder
