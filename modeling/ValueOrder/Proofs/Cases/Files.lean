import ValueOrder.Proofs.Cases.Decoding
import ValueOrder.Proofs.Reading.Skipped
import ValueOrder.Suite

/-!
# The texts of case files

Which texts are files of cases, and which cases each of them holds. The reader gives the cases
of every such text, and of no other text any cases at all.
-/

namespace ValueOrder.Case

open Json

/-! ## Spelling -/

/-- The elements of an array that lists the fields of the case in their order. -/
inductive IsRow (c : Case) : List Json → Prop where
  | mk {name left right expect : Json}
      (named : name = .null ∧ c.name? = none ∨ ∃ s, name = .text s ∧ c.name? = some s)
      (leftValue : Value.ofJson left = .ok c.left) (rightValue : Value.ofJson right = .ok c.right)
      (expected : IsExpectation expect c.expect) :
      IsRow c [name, left, .text c.op, right, expect]

/-- The ways to write a case. So many levels may be opened in its fields. -/
inductive CaseText (n : Nat) : Case → List Char → Prop where
  | object {c : Case} {ms : List Member} {t : List Char} (written : ObjectText n ms t)
      (made : c.IsMadeOf ms) : CaseText n c t
  | array {c : Case} {items : List Json} {t : List Char}
      (written : Spells (.element (some (.array items))) (n + 1) t) (row : c.IsRow items) :
      CaseText n c t

/-- The ways to write a file of cases. -/
inductive CaseFileText (n : Nat) : List Case → List Char → Prop where
  | empty {w v w' : List Char} (before : Blank w) (inside : Blank v) (after : Blank w') :
      CaseFileText n [] (w ++ '[' :: (v ++ ']' :: w'))
  | cases {cs : List Case} {w t w' : List Char} (before : Blank w) (inside : Listed (CaseText n) cs t)
      (after : Blank w') : CaseFileText n cs (w ++ '[' :: (t ++ ']' :: w'))

/-! ## Fields that were taken -/

section Fields
variable {n : Nat} {d d' : Draft} {s rest : List Char}

theorem text_of_takeString {v : String} (n : Nat) (read : takes takeString s = some (v, rest)) :
    ∃ t, s = t ++ rest ∧ Spells (.element (some (.text v))) n t := by
  obtain ⟨w, blank, before⟩ := exists_blank_skipBlanks s
  cases found : skipBlanks s with
  | nil =>
    unfold takes takeString at read
    split at read
    · next found' =>
      rw [found] at found'
      cases found'
    · cases read
  | cons c u =>
    by_cases quote : c = '"'
    · rw [quote] at found
      rw [takes_takeString found] at read
      obtain ⟨t, rfl, written⟩ := quoted_of_takeText read
      refine ⟨w ++ (('"' :: (t ++ ['"'])) ++ []), ?_, .element blank (.quoted (.mk written)) blank_nil⟩
      rw [before, found]
      simp
    · rw [takes_takeString_of_ne found quote] at read
      cases read

theorem name_of_takeName {v : Option String} (n : Nat) (read : takes takeName s = some (v, rest)) :
    ∃ j t, s = t ++ rest ∧ Spells (.element (some j)) n t ∧ asName? j = some v := by
  have string (read : taken ((takeString s).map (·.map some)) = some (v, rest)) :
      ∃ j t, s = t ++ rest ∧ Spells (.element (some j)) n t ∧ asName? j = some v := by
    rw [taken_map some fun _ => by exact ⟨rfl, rfl⟩] at read
    obtain ⟨⟨name, _⟩, text, same⟩ := Option.map_eq_some_iff.mp read
    cases same
    obtain ⟨t, same, spelled⟩ := text_of_takeString n text
    exact ⟨.text name, t, same, spelled, rfl⟩
  obtain ⟨w, blank, before⟩ := exists_blank_skipBlanks s
  unfold takes takeName at read
  split at read
  · next u found =>
    cases null : takeKeyword "ull".toList u with
    | error fault =>
      rw [null] at read
      cases read
    | ok r =>
      rw [null] at read
      cases read
      have same : w ++ 'n' :: u = w ++ ("null".toList ++ []) ++ r.1 :=
        (congrArg (w ++ 'n' :: ·) (word_of_takeKeyword null)).trans (by simp)
      rw [found, same] at before
      exact ⟨.null, w ++ ("null".toList ++ []), before,
        .element blank (.keyword (by simp [keywords])) blank_nil, rfl⟩
  · exact string read

theorem document_of_takeOperand {v : Value} (read : takes (takeOperand n) s = some (v, rest)) :
    ∃ j t, s = t ++ rest ∧ Spells (.element (some j)) n t ∧ Value.ofJson j = .ok v := by
  rw [takes_takeOperand] at read
  obtain ⟨⟨j, u⟩, document, read⟩ := Option.bind_eq_some_iff.mp read
  obtain ⟨_, converted, same⟩ := Option.map_eq_some_iff.mp read
  cases same
  obtain ⟨t, same, spelled⟩ := spells_of_takeValue document
  exact ⟨j, t, same, spelled, toOption_eq_some_iff.mp converted⟩

theorem document_of_takeExpectation {e : Expectation}
    (read : takes (takeExpectation n) s = some (e, rest)) :
    ∃ j t, s = t ++ rest ∧ Spells (.element (some j)) n t ∧ expectation? j = some e := by
  rw [takes_takeExpectation] at read
  obtain ⟨⟨j, u⟩, document, read⟩ := Option.bind_eq_some_iff.mp read
  obtain ⟨_, expected, same⟩ := Option.map_eq_some_iff.mp read
  cases same
  obtain ⟨t, same, spelled⟩ := spells_of_takeValue document
  exact ⟨j, t, same, spelled, expected⟩

/-- A field that was filled was filled from what stands there. -/
theorem document_of_takeField {f : Field} (read : takes (takeField n d f) s = some (d', rest)) :
    ∃ j t, s = t ++ rest ∧ Spells (.element (some j)) n t ∧ fill d j f = some d' := by
  cases f with
  | name =>
    rw [takes_takeField_name] at read
    obtain ⟨⟨v, _⟩, name, same⟩ := Option.map_eq_some_iff.mp read
    cases same
    obtain ⟨j, t, same, spelled, denotes⟩ := name_of_takeName n name
    exact ⟨j, t, same, spelled, by simp [fill, denotes]⟩
  | left =>
    rw [takes_takeField_left] at read
    obtain ⟨⟨v, _⟩, operand, same⟩ := Option.map_eq_some_iff.mp read
    cases same
    obtain ⟨j, t, same, spelled, denotes⟩ := document_of_takeOperand operand
    exact ⟨j, t, same, spelled, by simp [fill, denotes, Except.toOption]⟩
  | op =>
    rw [takes_takeField_op] at read
    obtain ⟨⟨v, _⟩, text, same⟩ := Option.map_eq_some_iff.mp read
    cases same
    obtain ⟨t, same, spelled⟩ := text_of_takeString n text
    exact ⟨.text v, t, same, spelled, rfl⟩
  | right =>
    rw [takes_takeField_right] at read
    obtain ⟨⟨v, _⟩, operand, same⟩ := Option.map_eq_some_iff.mp read
    cases same
    obtain ⟨j, t, same, spelled, denotes⟩ := document_of_takeOperand operand
    exact ⟨j, t, same, spelled, by simp [fill, denotes, Except.toOption]⟩
  | expect =>
    rw [takes_takeField_expect] at read
    obtain ⟨⟨v, _⟩, expectation, same⟩ := Option.map_eq_some_iff.mp read
    cases same
    obtain ⟨j, t, same, spelled, denotes⟩ := document_of_takeExpectation expectation
    exact ⟨j, t, same, spelled, by simp [fill, denotes]⟩

end Fields

/-! ## Objects that were taken -/

section Objects
variable {n : Nat} {d d' : Draft} {c : Case} {s t rest : List Char}

theorem memberWithBlanks {m : Member} {w w' : List Char} (before : Blank w)
    (member : MemberText n m t) (after : Blank w') : MemberText n m (w ++ (t ++ w')) := by
  cases member with
  | @mk key o levels v k u t first keyed behind inside fits =>
    have padded : w ++ (v ++ (k ++ (u ++ ':' :: t)) ++ w') =
        w ++ v ++ (k ++ (u ++ ':' :: ([] ++ (t ++ w')))) := by simp
    rw [padded]
    exact .mk (List.forall_mem_append.mpr ⟨before, first⟩) keyed behind
      (inside.elementWithBlanks blank_nil after) fits

theorem membersText_of_listed {ms : List Member} (listed : Listed (MemberText n) ms t) :
    MembersText n ms t := by
  induction listed with
  | last last => exact .last last
  | next first _ ih => exact .next first ih

/-- A key and a colon stand before the value of a member. -/
theorem key_of_takeCaseMember (read : takes (takeCaseMember n d) s = some (d', rest)) :
    ∃ (key : String) (k w u : List Char), CharsText key.toList k ∧ Blank w ∧
      s = k ++ '"' :: (w ++ ':' :: u) := by
  unfold takes takeCaseMember at read
  cases text : takeText s with
  | error fault => simp [text, Except.mapError, bind, Except.bind] at read
  | ok key =>
    cases colon : takeColon key.rest with
    | error fault =>
      simp only [text, colon, Except.mapError, bind, Except.bind] at read
      split at read
      · split_ifs at read <;> cases read
      · cases read
    | ok behind =>
      obtain ⟨k, same, written⟩ := quoted_of_takeText (taken_eq_some_iff.mpr ⟨key, text, rfl, rfl⟩)
      obtain ⟨w, blank, after⟩ := colon_of_takeColon (taken_eq_some_iff.mpr ⟨behind, colon, rfl, rfl⟩)
      exact ⟨key.value, k, w, behind.rest, written, blank, by rw [← after, ← same]⟩

/-- A member that was taken was written, and it was placed in the draft. -/
theorem member_of_takeCaseMember (read : takes (takeCaseMember n d) s = some (d', rest)) :
    ∃ m t, '"' :: s = t ++ rest ∧ MemberText n m t ∧ place d m = some d' := by
  obtain ⟨key, k, w, u, written, blank, rfl⟩ := key_of_takeCaseMember read
  rw [takes_takeCaseMember_of_key written blank] at read
  cases field : Field.ofKey? key with
  | none =>
    rw [field] at read
    obtain ⟨⟨_, _⟩, skipped, same⟩ := Option.map_eq_some_iff.mp read
    cases same
    obtain ⟨t, o, m, rfl, spelled⟩ := spells_of_skipValue skipped
    exact ⟨(key, o), [] ++ ('"' :: (k ++ ['"']) ++ (w ++ ':' :: t)), by simp,
      .mk blank_nil (.mk written) blank spelled (.inr field), by simp [place, field]⟩
  | some f =>
    rw [field] at read
    dsimp only at read
    split_ifs at read with has
    obtain ⟨j, t, rfl, spelled, filled⟩ := document_of_takeField read
    exact ⟨(key, some j), [] ++ ('"' :: (k ++ ['"']) ++ (w ++ ':' :: t)), by simp,
      .mk blank_nil (.mk written) blank spelled (.inl (Nat.le_refl n)),
      by simp [place, field, has, filled]⟩

/-- An object that was taken as a case was written, and the case is made of its members. -/
theorem object_of_takeObjectForm (read : takes (takeObjectForm n) s = some (c, rest)) :
    ∃ t, '\x7b' :: s = t ++ rest ∧ CaseText n c t := by
  rw [takes_takeObjectForm] at read
  obtain ⟨⟨d, u⟩, members, read⟩ := Option.bind_eq_some_iff.mp read
  obtain ⟨_, finished, same⟩ := Option.map_eq_some_iff.mp read
  cases same
  obtain ⟨ms, t, rfl, finishes, placed⟩ := finishes_of_takeMembers member_of_takeCaseMember members
  have made : c.IsMadeOf ms :=
    isMadeOf_of_fills (placeAll_eq_some_iff.mp placed) (toOption_eq_some_iff.mp finished)
  obtain ⟨v, rfl, ⟨rfl, blank⟩ | listed⟩ := finishes.closed memberWithBlanks
  · exact ⟨[] ++ '\x7b' :: (v ++ '\x7d' :: []), by simp,
      .object (.empty blank_nil blank blank_nil) made⟩
  · exact ⟨[] ++ '\x7b' :: (v ++ '\x7d' :: []), by simp,
      .object (.members blank_nil (membersText_of_listed listed) blank_nil) made⟩

end Objects

/-! ## Arrays that were taken -/

section Arrays
variable {α : Type} {n count : Nat} {item : (t : List Char) → Step MemberFault α t} {x : α} {c : Case}
  {s t u rest : List Char}

theorem takes_takeEntry (count : Nat) (s : List Char) :
    takes (takeEntry count item) s = (onward (nextElement (count = 0) s)).bind fun
      | .close _ => none
      | .entry entry => takes item entry := by
  unfold takes takeEntry
  cases nextElement (count = 0) s with
  | error fault => rfl
  | ok next =>
    cases next with
    | close r => rfl
    | entry entry => exact taken_map_from _ _

theorem lead_of_takeEntry (read : takes (takeEntry count item) s = some (x, rest)) :
    ∃ v u, Lead (count = 0) v ∧ s = v ++ u ∧ takes item u = some (x, rest) := by
  rw [takes_takeEntry] at read
  obtain ⟨next, goes, read⟩ := Option.bind_eq_some_iff.mp read
  cases next with
  | close r => cases read
  | entry u =>
    obtain ⟨v, lead, same⟩ := lead_of_nextElement goes
    exact ⟨v, u, lead, same, read⟩

theorem close_of_takeClosing {x : Unit} (read : takes takeClosing s = some (x, rest)) :
    ∃ w, Blank w ∧ s = w ++ ']' :: rest := by
  obtain ⟨w, blank, before⟩ := exists_blank_skipBlanks s
  unfold takes takeClosing at read
  split at read
  · cases read
  · next c u found =>
    split_ifs at read with close comma
    · cases read
      rw [found, close] at before
      exact ⟨w, blank, before⟩
    · split at read <;> cases read
    · cases read

theorem takes_takeArrayForm (s : List Char) :
    takes (takeArrayForm n) s = (takes (takeEntry 0 takeName) s).bind fun (name, s) =>
      (takes (takeEntry 1 (takeOperand n)) s).bind fun (left, s) =>
        (takes (takeEntry 2 takeString) s).bind fun (op, s) =>
          (takes (takeEntry 3 (takeOperand n)) s).bind fun (right, s) =>
            (takes (takeEntry 4 (takeExpectation n)) s).bind fun (expect, s) =>
              (takes takeClosing s).bind fun (_, s) => some (⟨name, left, op, right, expect⟩, s) := by
  refine taken_bind fun name => taken_bind fun left => taken_bind fun op => taken_bind fun right =>
    taken_bind fun expect => ?_
  show _ = (takes takeClosing expect.rest).bind _
  rw [takes, ← taken_mapError placedDocument]
  exact taken_bind fun closing => rfl

/-- An array that was taken as a case was written, and its elements make up the case. -/
theorem array_of_takeArrayForm (read : takes (takeArrayForm n) s = some (c, rest)) :
    ∃ t, '[' :: s = t ++ rest ∧ CaseText n c t := by
  rw [takes_takeArrayForm] at read
  obtain ⟨⟨name, s₁⟩, first, read⟩ := Option.bind_eq_some_iff.mp read
  obtain ⟨⟨left, s₂⟩, second, read⟩ := Option.bind_eq_some_iff.mp read
  obtain ⟨⟨op, s₃⟩, third, read⟩ := Option.bind_eq_some_iff.mp read
  obtain ⟨⟨right, s₄⟩, fourth, read⟩ := Option.bind_eq_some_iff.mp read
  obtain ⟨⟨expect, s₅⟩, fifth, read⟩ := Option.bind_eq_some_iff.mp read
  obtain ⟨⟨_, s₆⟩, closing, read⟩ := Option.bind_eq_some_iff.mp read
  cases read
  obtain ⟨v₁, u₁, lead₁, rfl, takenName⟩ := lead_of_takeEntry first
  obtain ⟨v₂, u₂, lead₂, rfl, takenLeft⟩ := lead_of_takeEntry second
  obtain ⟨v₃, u₃, lead₃, rfl, takenOp⟩ := lead_of_takeEntry third
  obtain ⟨v₄, u₄, lead₄, rfl, takenRight⟩ := lead_of_takeEntry fourth
  obtain ⟨v₅, u₅, lead₅, rfl, takenExpect⟩ := lead_of_takeEntry fifth
  obtain ⟨w, blank, rfl⟩ := close_of_takeClosing closing
  obtain ⟨jName, t₁, rfl, spelled₁, denotesName⟩ := name_of_takeName n takenName
  obtain ⟨jLeft, t₂, rfl, spelled₂, denotesLeft⟩ := document_of_takeOperand takenLeft
  obtain ⟨t₃, rfl, spelled₃⟩ := text_of_takeString n takenOp
  obtain ⟨jRight, t₄, rfl, spelled₄, denotesRight⟩ := document_of_takeOperand takenRight
  obtain ⟨jExpect, t₅, rfl, spelled₅, denotesExpect⟩ := document_of_takeExpectation takenExpect
  have finishes : Finishes (fun (j : Json) t => Spells (.element (some j)) n t) ']' true
      [jName, jLeft, .text op, jRight, jExpect] _ :=
    .entry lead₁ spelled₁ (.entry lead₂ spelled₂ (.entry lead₃ spelled₃ (.entry lead₄ spelled₄
      (.entry lead₅ spelled₅ (.close blank)))))
  obtain ⟨u, same, ⟨nothing, _⟩ | listed⟩ := finishes.closed Spells.elementWithBlanks
  · cases nothing
  · refine ⟨'[' :: (u ++ [']']), ?_, .array (Spells.array (spells_elements_of_listed listed)).bare
      (.mk (asName?_eq_some_iff.mp denotesName) denotesLeft denotesRight
        (expectation?_eq_some_iff.mp denotesExpect))⟩
    rw [← same]
    simp

end Arrays

/-! ## Cases that were taken -/

section Cases
variable {n : Nat} {c : Case} {cs : List Case} {s t u rest : List Char}

theorem caseWithBlanks {w w' : List Char} (before : Blank w) (written : CaseText n c t)
    (after : Blank w') : CaseText n c (w ++ (t ++ w')) := by
  cases written with
  | array written row => exact .array (written.elementWithBlanks before after) row
  | object written made =>
    refine .object ?_ made
    cases written with
    | @empty v inside v' first blank last =>
      have padded : w ++ (v ++ '\x7b' :: (inside ++ '\x7d' :: v') ++ w') =
          w ++ v ++ '\x7b' :: (inside ++ '\x7d' :: (v' ++ w')) := by simp
      rw [padded]
      exact .empty (List.forall_mem_append.mpr ⟨before, first⟩) blank
        (List.forall_mem_append.mpr ⟨last, after⟩)
    | @members _ v inside v' first members last =>
      have padded : w ++ (v ++ '\x7b' :: (inside ++ '\x7d' :: v') ++ w') =
          w ++ v ++ '\x7b' :: (inside ++ '\x7d' :: (v' ++ w')) := by simp
      rw [padded]
      exact .members (List.forall_mem_append.mpr ⟨before, first⟩) members
        (List.forall_mem_append.mpr ⟨last, after⟩)

theorem takes_takeCase_array (found : skipBlanks s = '[' :: u) :
    takes (takeCase (n + 1)) s = takes (takeArrayForm n) u := by
  rw [takes]
  unfold takeCase
  split
  · simp_all
  · next c rest found' =>
    obtain ⟨rfl, rfl⟩ := List.cons.inj (found'.symm.trans found)
    simp [taken_map_from, taken_mapError, takes]

theorem takes_takeCase_of_ne {c : Char} (found : skipBlanks s = c :: u) (array : c ≠ '[')
    (object : c ≠ '\x7b') : takes (takeCase n) s = none := by
  rw [takes]
  unfold takeCase
  split
  · rfl
  · next c' u' found' =>
    obtain ⟨rfl, rfl⟩ := List.cons.inj (found'.symm.trans found)
    simp [array, object]

theorem takes_takeCase_blank (absent : skipBlanks s = []) : takes (takeCase n) s = none := by
  rw [takes]
  unfold takeCase
  split
  · rfl
  · next found' =>
    rw [absent] at found'
    cases found'

theorem case_of_takeCase (read : takes (takeCase (n + 1)) s = some (c, rest)) :
    ∃ t, s = t ++ rest ∧ CaseText n c t := by
  obtain ⟨w, blank, before⟩ := exists_blank_skipBlanks s
  have behind (found : ∃ t, skipBlanks s = t ++ rest ∧ CaseText n c t) :
      ∃ t, s = t ++ rest ∧ CaseText n c t := by
    obtain ⟨t, same, written⟩ := found
    refine ⟨w ++ (t ++ []), ?_, caseWithBlanks blank written blank_nil⟩
    rw [before, same]
    simp
  cases found : skipBlanks s with
  | nil =>
    rw [takes_takeCase_blank found] at read
    cases read
  | cons d u =>
    rw [found] at behind
    by_cases array : d = '['
    · rw [array] at found behind
      rw [takes_takeCase_array found] at read
      exact behind (array_of_takeArrayForm read)
    · by_cases object : d = '\x7b'
      · rw [object] at found behind
        rw [takes_takeCase_object found] at read
        exact behind (object_of_takeObjectForm read)
      · rw [takes_takeCase_of_ne found array object] at read
        cases read

theorem opener_of_takeCases (read : takes (takeCases n) s = some (cs, rest)) :
    ∃ u, skipBlanks s = '[' :: u := by
  unfold takes takeCases at read
  split at read
  · cases read
  · next c u found =>
    split_ifs at read with array
    · exact ⟨u, by rw [found, array]⟩
    · cases read

/-- Cases that were taken up to the end of the file were written there. -/
theorem cases_of_takeCases (read : takes (takeCases (n + 2)) s = some (cs, rest)) (blank : Blank rest) :
    CaseFileText n cs s := by
  obtain ⟨u, found⟩ := opener_of_takeCases read
  obtain ⟨w, before, same⟩ := exists_blank_skipBlanks s
  rw [takes_takeCases found] at read
  obtain ⟨t, rfl, finishes⟩ := finishes_of_takeElements case_of_takeCase read
  obtain ⟨v, rfl, ⟨rfl, inside⟩ | listed⟩ := finishes.closed caseWithBlanks
  · rw [same, found]
    simpa using CaseFileText.empty before inside blank
  · rw [same, found]
    simpa using CaseFileText.cases before listed blank

end Cases

/-! ## Cases that were written -/

section Written
variable {ε α : Type} {lift : Fault Reason → ε} {P : α → List Char → Prop} {n : Nat} {c : Case}
  {cs : List Case} {s t u rest : List Char}

/-- An element may stand without the blanks before it, and begins with what closes nothing. -/
theorem element_fronted {o : Option Json} (spelled : Spells (.element o) n t) :
    ∃ d u, d ≠ ']' ∧ Spells (.element o) n (d :: u) ∧
      ∀ rest, skipBlanks (t ++ rest) = d :: (u ++ rest) := by
  cases spelled with
  | @element _ _ w t w' before inside after =>
    obtain ⟨d, u, rfl, visible, notClose⟩ := value_front inside
    refine ⟨d, u ++ w', notClose, ?_, fun rest => ?_⟩
    · simpa using Spells.element blank_nil inside after
    · rw [List.append_assoc]
      exact skipBlanks_before before visible _

/-- Elements that are listed are taken one by one, if each of them is. -/
theorem takes_takeElements_listed {item : (t : List Char) → Step ε α t} {xs : List α}
    (fronted : ∀ {x t}, P x t → ∃ d u, d ≠ ']' ∧ P x (d :: u) ∧
      ∀ rest, skipBlanks (t ++ rest) = d :: (u ++ rest))
    (taken : ∀ {x t}, P x t → IsTakenAs item t (some x)) (listed : Listed P xs t) (rest : List Char) :
    takes (takeElements lift item true) (t ++ ']' :: rest) = some (xs, rest) := by
  have first {x : α} {t : List Char} (entry : P x t) : ∃ w, Blank w ∧ ∀ rest, NumberEnds rest →
      takes (takeElements lift item true) (t ++ rest) =
        (takes (takeElements lift item false) (w ++ rest)).map (Prod.map (x :: ·) id) := by
    obtain ⟨d, u, notClose, entry, found⟩ := fronted entry
    obtain ⟨w, blank, taken⟩ := taken entry
    refine ⟨w, blank, fun rest ends => ?_⟩
    have read : takes item (d :: (u ++ rest)) = some (x, w ++ rest) := taken rest ends
    rw [takes_takeElements_first ⟨d, _, found rest, notClose⟩, found rest, read]
    rfl
  have opens {xs : List α} {t : List Char} (listed : Listed P xs t) (rest : List Char) :
      OpensElement (t ++ rest) := by
    cases listed with
    | last last =>
      obtain ⟨d, u, notClose, _, found⟩ := fronted last
      exact ⟨d, _, found rest, notClose⟩
    | next next =>
      obtain ⟨d, u, notClose, _, found⟩ := fronted next
      rw [List.append_assoc]
      exact ⟨d, _, found _, notClose⟩
  induction listed with
  | last last =>
    obtain ⟨w, blank, onward⟩ := first last
    rw [onward _ (numberEnds_cons (by decide) rest),
      takes_takeElements_close false (skipBlanks_before blank rfl rest)]
    rfl
  | next next others ih =>
    obtain ⟨w, blank, onward⟩ := first next
    rw [List.append_assoc, List.cons_append, onward _ (numberEnds_cons (by decide) _),
      takes_takeElements_comma (skipBlanks_before blank rfl _) (opens others _), ih]
    rfl

/-- An element of a case is taken at the front, and behind a comma. -/
theorem takes_takeEntry_element {item : (t : List Char) → Step MemberFault α t} {o : Option Json}
    {x : α} (taken : ∀ {t}, Spells (.element o) n t → IsTakenAs item t (some x))
    (spelled : Spells (.element o) n t) : ∃ w, Blank w ∧ ∀ rest, NumberEnds rest →
      takes (takeEntry 0 item) (t ++ rest) = some (x, w ++ rest) ∧
      ∀ {count v}, Blank v →
        takes (takeEntry (count + 1) item) (v ++ ',' :: (t ++ rest)) = some (x, w ++ rest) := by
  obtain ⟨d, u, notClose, spelled, found⟩ := element_fronted spelled
  obtain ⟨w, blank, taken⟩ := taken spelled
  refine ⟨w, blank, fun rest ends => ⟨?_, fun {count v} before => ?_⟩⟩
  · rw [takes_takeEntry, onward_nextElement _ (found rest), if_neg notClose]
    exact taken rest ends
  · have comma : skipBlanks (v ++ ',' :: (t ++ rest)) = ',' :: (t ++ rest) :=
      skipBlanks_before before rfl _
    rw [takes_takeEntry, onward_nextElement _ comma]
    simp only [Char.reduceEq, if_false, Nat.succ_ne_zero, decide_false, Bool.false_eq_true, if_true,
      found rest, onwardElement, if_neg notClose]
    exact taken rest ends

theorem takes_takeClosing {w : List Char} (blank : Blank w) (rest : List Char) :
    takes takeClosing (w ++ ']' :: rest) = some ((), rest) := by
  have found := skipBlanks_before blank (c := ']') rfl rest
  unfold takes takeClosing
  split
  · simp_all
  · next c u found' =>
    obtain ⟨rfl, rfl⟩ := List.cons.inj (found'.symm.trans found)
    rfl

theorem listed_of_elements {items : List Json} (spelled : Spells (.elements (some items)) n t) :
    Listed (fun (j : Json) t => Spells (.element (some j)) n t) items t := by
  generalize part : Phrase.elements (some items) = phrase at spelled
  induction spelled generalizing items with
  | @lastElement _ value _ last _ =>
    cases value with
    | none => cases part
    | some j =>
      cases part
      exact .last last
  | @nextElement _ value others _ _ first _ _ ih =>
    cases value with
    | none => cases part
    | some j =>
      cases others with
      | none => cases part
      | some js =>
        cases part
        exact .next first (ih rfl)
  | _ => cases part

/-- The text of an array is a bracket, its elements and a bracket. -/
theorem exists_elements_of_array {items : List Json} (nonempty : items ≠ [])
    (spelled : Spells (.element (some (.array items))) (n + 1) t) :
    ∃ w u w', Blank w ∧ Blank w' ∧ t = w ++ '[' :: (u ++ ']' :: w') ∧
      Listed (fun (j : Json) t => Spells (.element (some j)) n t) items u := by
  generalize array : some (Json.array items) = o at spelled
  cases spelled with
  | @element _ _ w t w' before inside after =>
    cases inside with
    | keyword known =>
      cases array
      simp [keywords] at known
    | @number _ l => cases number : l.number.toOption <;> simp [number] at array
    | @text _ ps => cases decoded : decode ps <;> simp [decoded] at array
    | emptyArray =>
      cases array
      exact absurd rfl nonempty
    | @array _ found u inside =>
      cases found with
      | none => cases array
      | some found =>
        cases array
        exact ⟨w, u, w', before, after, by simp, listed_of_elements inside⟩
    | emptyObject => cases array
    | @object _ members => cases members <;> cases array

/-- An array is taken as the case that its elements make up. -/
theorem takes_takeArrayForm_of_isRow {items : List Json} (row : c.IsRow items)
    (listed : Listed (fun (j : Json) t => Spells (.element (some j)) n t) items u) (rest : List Char) :
    takes (takeArrayForm n) (u ++ ']' :: rest) = some (c, rest) := by
  cases row with
  | @mk name left right expect named leftValue rightValue expected =>
    cases listed with | @next _ _ t₁ _ spelled₁ listed =>
    cases listed with | @next _ _ t₂ _ spelled₂ listed =>
    cases listed with | @next _ _ t₃ _ spelled₃ listed =>
    cases listed with | @next _ _ t₄ _ spelled₄ listed =>
    cases listed with
    | next _ others => cases others
    | @last _ t₅ spelled₅ =>
      have denotes : asName? name = some c.name? := asName?_eq_some_iff.mpr named
      have isName {t : List Char} (spelled : Spells (.element (some name)) n t) :
          IsTakenAs takeName t (some c.name?) := by
        simpa [denotes] using isTakenAs_takeName spelled
      have isOperand {j : Json} {v : Value} (converts : Value.ofJson j = .ok v) {t : List Char}
          (spelled : Spells (.element (some j)) n t) : IsTakenAs (takeOperand n) t (some v) := by
        simpa [converts, Except.toOption] using isTakenAs_takeOperand spelled
      have isOp {t : List Char} (spelled : Spells (.element (some (.text c.op))) n t) :
          IsTakenAs takeString t (some c.op) :=
        isTakenAs_takeString spelled
      have isExpect {t : List Char} (spelled : Spells (.element (some expect)) n t) :
          IsTakenAs (takeExpectation n) t (some c.expect) := by
        simpa [expectation?_eq_some_iff.mpr expected] using isTakenAs_takeExpectation spelled
      obtain ⟨w₁, blank₁, first⟩ := takes_takeEntry_element isName spelled₁
      obtain ⟨w₂, blank₂, second⟩ := takes_takeEntry_element (isOperand leftValue) spelled₂
      obtain ⟨w₃, blank₃, third⟩ := takes_takeEntry_element isOp spelled₃
      obtain ⟨w₄, blank₄, fourth⟩ := takes_takeEntry_element (isOperand rightValue) spelled₄
      obtain ⟨w₅, blank₅, fifth⟩ := takes_takeEntry_element isExpect spelled₅
      have comma (s : List Char) : NumberEnds (',' :: s) := numberEnds_cons (by decide) s
      have close : NumberEnds (']' :: rest) := numberEnds_cons (by decide) rest
      rw [takes_takeArrayForm]
      simp only [List.append_assoc, List.cons_append, (first _ (comma _)).1,
        (second _ (comma _)).2 blank₁, (third _ (comma _)).2 blank₂, (fourth _ (comma _)).2 blank₃,
        (fifth _ close).2 blank₄, takes_takeClosing blank₅, Option.bind_some]

/-- A case that is written is taken. -/
theorem isTakenAs_case (written : CaseText n c t) : IsTakenAs (takeCase (n + 1)) t (some c) := by
  cases written with
  | object written made =>
    obtain ⟨d, fills, finished⟩ := exists_fills_of_isMadeOf made
    have taken := isTakenAs_takeCase written
    rw [placeAll_eq_some_iff.mpr fills, Option.bind_some, finished] at taken
    exact taken
  | @array items _ written row =>
    have nonempty : items ≠ [] := by cases row; exact nofun
    obtain ⟨w, u, w', before, after, rfl, listed⟩ := exists_elements_of_array nonempty written
    refine ⟨w', after, fun rest _ => ?_⟩
    have found : skipBlanks (w ++ '[' :: (u ++ ']' :: w') ++ rest) =
        '[' :: (u ++ ']' :: (w' ++ rest)) := by
      simpa using skipBlanks_before before (c := '[') rfl (u ++ ']' :: (w' ++ rest))
    rw [takes_takeCase_array found, takes_takeArrayForm_of_isRow row listed]
    rfl

theorem case_fronted (written : CaseText n c t) :
    ∃ d u, d ≠ ']' ∧ CaseText n c (d :: u) ∧ ∀ rest, skipBlanks (t ++ rest) = d :: (u ++ rest) := by
  cases written with
  | array written row =>
    obtain ⟨d, u, notClose, written, found⟩ := element_fronted written
    exact ⟨d, u, notClose, .array written row, found⟩
  | object written made =>
    cases written with
    | @empty w v w' before inside after =>
      refine ⟨'\x7b', v ++ '\x7d' :: w', by decide, .object (.empty blank_nil inside after) made,
        fun rest => ?_⟩
      rw [List.append_assoc]
      exact skipBlanks_before before rfl _
    | @members _ w v w' before inside after =>
      refine ⟨'\x7b', v ++ '\x7d' :: w', by decide, .object (.members blank_nil inside after) made,
        fun rest => ?_⟩
      rw [List.append_assoc]
      exact skipBlanks_before before rfl _

/-- The cases of a file that is written are taken. -/
theorem takes_caseFile (written : CaseFileText n cs t) :
    ∃ w, Blank w ∧ takes (takeCases (n + 2)) t = some (cs, w) := by
  cases written with
  | @empty w v w' before inside after =>
    refine ⟨w', after, ?_⟩
    rw [takes_takeCases (skipBlanks_before before rfl _)]
    exact takes_takeElements_close true (skipBlanks_before inside rfl w')
  | @cases _ w v w' before inside after =>
    refine ⟨w', after, ?_⟩
    rw [takes_takeCases (skipBlanks_before before rfl _)]
    exact takes_takeElements_listed case_fronted isTakenAs_case inside w'

end Written

/-- A text is read as cases exactly if it is a file of these cases. -/
theorem listOfText_eq_ok_iff {text : String} {cs : List Case} :
    listOfText text = .ok cs ↔ CaseFileText 125 cs text.toList := by
  rw [listOfText, whole_eq_ok_iff]
  constructor
  · rintro ⟨rest, read, blank⟩
    exact cases_of_takeCases read blank
  · intro written
    obtain ⟨w, blank, read⟩ := takes_caseFile written
    exact ⟨w, read, blank⟩

end ValueOrder.Case

namespace ValueOrder.Suite

open Json

section Loading
variable {t : FileTree} {path : Path}

/-- A file is loaded exactly if it can be read and its text is a file of the cases. -/
theorem load_eq_ok_iff {cs : List Case} :
    load t path = .ok cs ↔ ∃ text, t.readText path = .ok text ∧ Case.CaseFileText 125 cs text.toList := by
  unfold load
  cases t.readText path with
  | error e => simp
  | ok text =>
    simp only [Except.ok.injEq, exists_eq_left', ← Case.listOfText_eq_ok_iff]
    cases Case.listOfText text <;> simp [Except.mapError]

end Loading

end ValueOrder.Suite
