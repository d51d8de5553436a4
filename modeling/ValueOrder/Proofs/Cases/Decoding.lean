import Mathlib.Data.List.Induction
import ValueOrder.Proofs.Cases.Members

/-!
# Cases by the names of their members

The draft behind the members of an object holds each field that one member names. So which
case an object is depends on its members with the names of fields, in any order and among any
others.
-/

namespace ValueOrder.Case

open Json

/-! ## Drafts -/

theorem ofKey?_eq_some_iff {key : String} {f : Field} : Field.ofKey? key = some f ↔ f.key = key := by
  constructor
  · intro found
    simpa using List.find?_some found
  · rintro rfl
    exact ofKey?_key f

theorem key_inj {f g : Field} : f.key = g.key ↔ f = g := by
  constructor
  · intro same
    have found := ofKey?_key f
    rw [same, ofKey?_key] at found
    exact (Option.some.inj found).symm
  · rintro rfl
    rfl

/-- The members that have the key of a field. -/
def named (f : Field) (ms : List Member) : List Member := ms.filter fun m => f.key = m.1

namespace Draft

/-- The field was filled from the document. -/
def Holds (d : Draft) (j : Json) : Field → Prop
  | .name => ∃ v, asName? j = some v ∧ d.name? = some v
  | .left => ∃ v, Value.ofJson j = .ok v ∧ d.left? = some v
  | .op => ∃ v, asText? j = some v ∧ d.op? = some v
  | .right => ∃ v, Value.ofJson j = .ok v ∧ d.right? = some v
  | .expect => ∃ v, expectation? j = some v ∧ d.expect? = some v

/-- Both drafts are alike in the field. -/
def Agrees (d d' : Draft) : Field → Prop
  | .name => d.name? = d'.name?
  | .left => d.left? = d'.left?
  | .op => d.op? = d'.op?
  | .right => d.right? = d'.right?
  | .expect => d.expect? = d'.expect?

/-- The draft with a field not yet read. -/
def without (d : Draft) : Field → Draft
  | .name => { d with name? := none }
  | .left => { d with left? := none }
  | .op => { d with op? := none }
  | .right => { d with right? := none }
  | .expect => { d with expect? := none }

/-- Each field is absent from the members and from the draft, or it was filled from the only
member with its key. -/
def Fills (d : Draft) (ms : List Member) : Prop :=
  ∀ f, (named f ms = [] ∧ d.has f = false) ∨
    ∃ j, named f ms = [(f.key, some j)] ∧ d.Holds j f

variable {d d' : Draft} {f g : Field} {j : Json}

theorem has_of_holds (holds : d.Holds j f) : d.has f = true := by
  cases f
  all_goals
    obtain ⟨v, _, filled⟩ := holds
    simp [has, filled]

theorem Agrees.has_eq (agrees : d.Agrees d' f) : d.has f = d'.has f := by
  cases f <;> exact congrArg Option.isSome agrees

theorem Agrees.holds_iff (agrees : d.Agrees d' f) : d.Holds j f ↔ d'.Holds j f := by
  cases f
  all_goals
    simp only [Agrees] at agrees
    simp only [Holds, agrees]

theorem has_without (d : Draft) (f : Field) : (d.without f).has f = false := by
  cases f <;> rfl

theorem agrees_without (d : Draft) (other : g ≠ f) : (d.without f).Agrees d g := by
  cases f <;> cases g <;> first | rfl | exact absurd rfl other

/-- Filling a field changes no other field. -/
theorem fill_eq_some_iff : fill d j f = some d' ↔ d'.Holds j f ∧ ∀ g, g ≠ f → d.Agrees d' g := by
  constructor
  · intro filled
    cases f
    all_goals
      obtain ⟨v, read, rfl⟩ := Option.map_eq_some_iff.mp filled
      refine ⟨⟨v, ?_, rfl⟩, fun g other => ?_⟩
      · first | exact read | exact toOption_eq_some_iff.mp read
      · cases g <;> first | rfl | exact absurd rfl other
  · rintro ⟨holds, agrees⟩
    obtain ⟨name?, left?, op?, right?, expect?⟩ := d'
    have name := agrees .name
    have left := agrees .left
    have op := agrees .op
    have right := agrees .right
    have expect := agrees .expect
    cases f
    all_goals
      obtain ⟨v, read, filled⟩ := holds
      simp_all [fill, Agrees, Except.toOption]

end Draft

section Placing
variable {d d' : Draft} {f : Field} {m : Member} {ms : List Member}

theorem named_append (f : Field) (ms : List Member) (m : Member) :
    named f (ms ++ [m]) = if f.key = m.1 then named f ms ++ [m] else named f ms := by
  rw [named, List.filter_append]
  split_ifs with key
  · simp [named, key]
  · simp [named, key]

/-- A member that is no field fills nothing. -/
theorem fills_append_of_other (field : Field.ofKey? m.1 = none) :
    d.Fills (ms ++ [m]) ↔ d.Fills ms := by
  have same (f : Field) : named f (ms ++ [m]) = named f ms := by
    rw [named_append, if_neg]
    intro key
    rw [ofKey?_eq_some_iff.mpr key] at field
    cases field
  simp only [Draft.Fills, same]

theorem named_append_self (field : Field.ofKey? m.1 = some f) :
    named f (ms ++ [m]) = named f ms ++ [m] := by
  rw [named_append, if_pos (ofKey?_eq_some_iff.mp field)]

theorem named_append_of_ne {g : Field} (field : Field.ofKey? m.1 = some f) (differs : g ≠ f) :
    named g (ms ++ [m]) = named g ms := by
  rw [named_append, if_neg]
  rw [← ofKey?_eq_some_iff.mp field]
  exact fun same => differs (key_inj.mp same)

/-- The draft before the last field is the one without it. -/
theorem exists_fills_of_append (field : Field.ofKey? m.1 = some f) (fills : d'.Fills (ms ++ [m])) :
    ∃ d : Draft, d.Fills ms ∧ place d m = some d' := by
  have filled : ∃ j, named f ms = [] ∧ m = (f.key, some j) ∧ d'.Holds j f := by
    rcases fills f with ⟨absent, _⟩ | ⟨j, only, holds⟩
    · rw [named_append_self field] at absent
      simp at absent
    · rw [named_append_self field, List.append_eq_singleton_iff] at only
      rcases only with ⟨absent, single⟩ | ⟨_, nothing⟩
      · exact ⟨j, absent, (List.cons.inj single).1, holds⟩
      · cases nothing
  obtain ⟨j, absent, rfl, holds⟩ := filled
  refine ⟨d'.without f, fun g => ?_, ?_⟩
  · by_cases same : g = f
    · rw [same]
      exact .inl ⟨absent, d'.has_without f⟩
    · have agrees := d'.agrees_without same
      rw [agrees.has_eq, ← named_append_of_ne field same]
      simpa only [agrees.holds_iff] using fills g
  · simp only [place, field, d'.has_without f]
    exact Draft.fill_eq_some_iff.mpr ⟨holds, fun g differs => d'.agrees_without differs⟩

/-- One more field is filled from the member that was placed. -/
theorem fills_append_of_place (field : Field.ofKey? m.1 = some f) (fills : d.Fills ms)
    (placed : place d m = some d') : d'.Fills (ms ++ [m]) := by
  have filled : d.has f = false ∧ ∃ j, m.2 = some j ∧ fill d j f = some d' := by
    simp only [place, field] at placed
    split_ifs at placed with has
    exact ⟨Bool.eq_false_iff.mpr has, Option.bind_eq_some_iff.mp placed⟩
  obtain ⟨empty, j, value, filled⟩ := filled
  obtain ⟨holds, agrees⟩ := Draft.fill_eq_some_iff.mp filled
  intro g
  by_cases same : g = f
  · rw [same, named_append_self field]
    rcases fills f with ⟨absent, _⟩ | ⟨_, _, before⟩
    · exact .inr ⟨j, by rw [absent, ofKey?_eq_some_iff.mp field, ← value]; rfl, holds⟩
    · rw [Draft.has_of_holds before] at empty
      cases empty
  · have agrees := agrees g same
    rw [named_append_of_ne field same, ← agrees.has_eq]
    simpa only [← agrees.holds_iff] using fills g

/-- One more member: no field, or a field that was not yet filled. -/
theorem fills_append_iff : d'.Fills (ms ++ [m]) ↔ ∃ d : Draft, d.Fills ms ∧ place d m = some d' := by
  cases field : Field.ofKey? m.1 with
  | none => simp [fills_append_of_other field, place, field]
  | some f =>
    constructor
    · exact exists_fills_of_append field
    · rintro ⟨d, fills, placed⟩
      exact fills_append_of_place field fills placed

theorem fills_nil_iff : d.Fills [] ↔ d = {} := by
  constructor
  · intro fills
    have empty (f : Field) : d.has f = false := by
      rcases fills f with ⟨_, empty⟩ | ⟨_, only, _⟩
      · exact empty
      · cases only
    obtain ⟨name?, left?, op?, right?, expect?⟩ := d
    have name := empty .name
    have left := empty .left
    have op := empty .op
    have right := empty .right
    have expect := empty .expect
    simp_all [Draft.has]
  · rintro rfl f
    cases f <;> exact .inl ⟨rfl, rfl⟩

/-- The draft behind all members is the one that they fill. -/
theorem placeAll_eq_some_iff : placeAll {} ms = some d ↔ d.Fills ms := by
  induction ms using List.reverseRecOn generalizing d with
  | nil =>
    rw [fills_nil_iff]
    exact ⟨fun same => (Option.some.inj same).symm, fun same => congrArg some same.symm⟩
  | append_singleton ms m ih =>
    rw [fills_append_iff, placeAll, List.foldlM_append]
    show ((placeAll {} ms).bind fun d => (place d m).bind some) = some d ↔ _
    simp only [Option.bind_eq_some_iff, ih, Option.some.injEq, exists_eq_right]

end Placing

/-! ## Cases -/

/-- The ways to state an expectation: a boolean, or an object whose only member `error` is a
text. -/
inductive IsExpectation : Json → Expectation → Prop where
  | answer (holds : Bool) : IsExpectation (.boolean holds) (.answer holds)
  | failure {members : List (String × Json)} {fragment : String}
      (only : members.filter (fun m => m.1 = "error") = [("error", .text fragment)]) :
      IsExpectation (.object members) (.failure fragment)

/-- What an object has to hold to be the case: no field twice, operands that convert, an operator,
an expectation, and a name unless it is absent or null. -/
structure IsMadeOf (c : Case) (ms : List Member) : Prop where
  once : ∀ f : Field, ms.countP (fun m => f.key = m.1) ≤ 1
  name : (∀ o, ("name", o) ∉ ms) ∧ c.name? = none ∨ ("name", some .null) ∈ ms ∧ c.name? = none ∨
    ∃ s, ("name", some (.text s)) ∈ ms ∧ c.name? = some s
  left : ∃ j, ("left", some j) ∈ ms ∧ Value.ofJson j = .ok c.left
  op : ("op", some (.text c.op)) ∈ ms
  right : ∃ j, ("right", some j) ∈ ms ∧ Value.ofJson j = .ok c.right
  expect : ∃ j, ("expect", some j) ∈ ms ∧ IsExpectation j c.expect

section Made
variable {ms ms' : List Member} {c : Case} {d : Draft} {f : Field} {o : Option Json}

theorem expectation?_eq_some_iff {j : Json} {e : Expectation} :
    expectation? j = some e ↔ IsExpectation j e := by
  constructor
  · intro read
    unfold expectation? at read
    split at read
    · cases read
      exact .answer _
    · split at read
      · next members _ key fragment only =>
        have member : (key, Json.text fragment) ∈ members.filter fun m => m.1 = "error" := by
          rw [only]
          exact .head []
        have error : key = "error" := by simpa using (List.mem_filter.mp member).2
        cases read
        rw [error] at only
        exact .failure only
      · cases read
    · cases read
  · intro expected
    cases expected with
    | answer holds => rfl
    | failure only => simp [expectation?, only]

theorem mem_named : (f.key, o) ∈ named f ms ↔ (f.key, o) ∈ ms := by
  simp [named]

theorem named_eq_nil_iff : named f ms = [] ↔ ∀ o, (f.key, o) ∉ ms := by
  simp only [named, List.filter_eq_nil_iff, decide_eq_true_eq, Prod.forall]
  constructor
  · intro absent o member
    exact absent _ _ member rfl
  · rintro absent _ o member rfl
    exact absent o member

/-- The only member of a field is the one that is there, if the field is not repeated. -/
theorem named_eq_singleton_iff :
    named f ms = [(f.key, o)] ↔ ms.countP (fun m => f.key = m.1) ≤ 1 ∧ (f.key, o) ∈ ms := by
  rw [← mem_named, List.countP_eq_length_filter]
  show _ ↔ (named f ms).length ≤ 1 ∧ _
  constructor
  · intro only
    simp [only]
  · rintro ⟨once, member⟩
    obtain ⟨m, only⟩ := List.length_eq_one_iff.mp
      (Nat.le_antisymm once (List.length_pos_of_mem member))
    rw [only, List.mem_singleton] at member
    rw [only, member]

theorem finish_eq_ok_iff : d.finish = .ok c ↔ d.name?.join = c.name? ∧ d.left? = some c.left ∧
    d.op? = some c.op ∧ d.right? = some c.right ∧ d.expect? = some c.expect := by
  obtain ⟨name?, left?, op?, right?, expect?⟩ := d
  obtain ⟨name, left, op, right, expect⟩ := c
  rcases left? with _ | left' <;> rcases op? with _ | op' <;> rcases right? with _ | right' <;>
    rcases expect? with _ | expect' <;> simp [Draft.finish]

/-- A field that the draft has was filled from a member. -/
theorem exists_member_of_has (fills : d.Fills ms) (has : d.has f = true) :
    ∃ j, (f.key, some j) ∈ ms ∧ d.Holds j f := by
  rcases fills f with ⟨_, empty⟩ | ⟨j, only, holds⟩
  · rw [has] at empty
    cases empty
  · exact ⟨j, (named_eq_singleton_iff.mp only).2, holds⟩

theorem once_of_fills (fills : d.Fills ms) (f : Field) : ms.countP (fun m => f.key = m.1) ≤ 1 := by
  rcases fills f with ⟨absent, _⟩ | ⟨j, only, _⟩
  · rw [List.countP_eq_length_filter]
    show (named f ms).length ≤ 1
    simp [absent]
  · exact (named_eq_singleton_iff.mp only).1

/-- A draft without a name comes from members without one, or the name is null. -/
theorem name_of_fills (fills : d.Fills ms) (name : d.name?.join = c.name?) :
    (∀ o, ("name", o) ∉ ms) ∧ c.name? = none ∨ ("name", some .null) ∈ ms ∧ c.name? = none ∨
      ∃ s, ("name", some (.text s)) ∈ ms ∧ c.name? = some s := by
  rcases fills .name with ⟨absent, empty⟩ | ⟨j, only, v, read, filled⟩
  · have nothing : d.name? = none := by simpa [Draft.has] using empty
    rw [nothing] at name
    exact .inl ⟨named_eq_nil_iff.mp absent, name.symm⟩
  · have member : ("name", some j) ∈ ms := (named_eq_singleton_iff.mp only).2
    rw [filled] at name
    rcases asName?_eq_some_iff.mp read with ⟨rfl, rfl⟩ | ⟨s, rfl, rfl⟩
    · exact .inr (.inl ⟨member, name.symm⟩)
    · exact .inr (.inr ⟨s, member, name.symm⟩)

theorem isMadeOf_of_fills (fills : d.Fills ms) (finished : d.finish = .ok c) : c.IsMadeOf ms := by
  obtain ⟨name, left, op, right, expect⟩ := finish_eq_ok_iff.mp finished
  refine ⟨once_of_fills fills, name_of_fills fills name, ?_, ?_, ?_, ?_⟩
  · obtain ⟨j, member, v, read, filled⟩ := exists_member_of_has (f := .left) fills
      (by simp [Draft.has, left])
    rw [left] at filled
    exact ⟨j, member, Option.some.inj filled ▸ read⟩
  · obtain ⟨j, member, v, read, filled⟩ := exists_member_of_has (f := .op) fills
      (by simp [Draft.has, op])
    rw [op] at filled
    rw [asText?_eq_some_iff.mp read, ← Option.some.inj filled] at member
    exact member
  · obtain ⟨j, member, v, read, filled⟩ := exists_member_of_has (f := .right) fills
      (by simp [Draft.has, right])
    rw [right] at filled
    exact ⟨j, member, Option.some.inj filled ▸ read⟩
  · obtain ⟨j, member, v, read, filled⟩ := exists_member_of_has (f := .expect) fills
      (by simp [Draft.has, expect])
    rw [expect] at filled
    cases filled
    exact ⟨j, member, expectation?_eq_some_iff.mp read⟩

theorem exists_fills_of_isMadeOf (made : c.IsMadeOf ms) :
    ∃ d : Draft, d.Fills ms ∧ d.finish = .ok c := by
  obtain ⟨once, name, ⟨l, left, readLeft⟩, op, ⟨r, right, readRight⟩, e, expect, readExpect⟩ := made
  have named : ∃ name?, name?.join = c.name? ∧ ((named .name ms = [] ∧ name?.isSome = false) ∨
      ∃ j, named .name ms = [("name", some j)] ∧ ∃ v, asName? j = some v ∧ name? = some v) := by
    rcases name with ⟨absent, anonymous⟩ | ⟨member, anonymous⟩ | ⟨s, member, named⟩
    · exact ⟨none, anonymous.symm, .inl ⟨named_eq_nil_iff.mpr absent, rfl⟩⟩
    · exact ⟨some none, anonymous.symm,
        .inr ⟨.null, named_eq_singleton_iff.mpr ⟨once .name, member⟩, none, rfl, rfl⟩⟩
    · exact ⟨some (some s), named.symm,
        .inr ⟨.text s, named_eq_singleton_iff.mpr ⟨once .name, member⟩, some s, rfl, rfl⟩⟩
  obtain ⟨name?, joined, filled⟩ := named
  refine ⟨⟨name?, some c.left, some c.op, some c.right, some c.expect⟩, fun f => ?_,
    finish_eq_ok_iff.mpr ⟨joined, rfl, rfl, rfl, rfl⟩⟩
  cases f with
  | name => exact filled
  | left => exact .inr ⟨l, named_eq_singleton_iff.mpr ⟨once .left, left⟩, _, readLeft, rfl⟩
  | op => exact .inr ⟨.text c.op, named_eq_singleton_iff.mpr ⟨once .op, op⟩, _, rfl, rfl⟩
  | right => exact .inr ⟨r, named_eq_singleton_iff.mpr ⟨once .right, right⟩, _, readRight, rfl⟩
  | expect =>
    exact .inr ⟨e, named_eq_singleton_iff.mpr ⟨once .expect, expect⟩, _,
      expectation?_eq_some_iff.mpr readExpect, rfl⟩

/-- The text of an object is read as a case exactly if the case is made of its members. -/
theorem ofText_eq_ok_iff {text : String} (written : ObjectText 126 ms text.toList) :
    ofText text = .ok c ↔ c.IsMadeOf ms := by
  rw [← toOption_eq_some_iff, toOption_ofText written, Option.bind_eq_some_iff]
  simp only [placeAll_eq_some_iff, toOption_eq_some_iff]
  exact ⟨fun ⟨d, fills, finished⟩ => isMadeOf_of_fills fills finished, exists_fills_of_isMadeOf⟩

/-- The members with the key of a field. -/
def fieldMembers (ms : List Member) : List Member := ms.filter fun m => (Field.ofKey? m.1).isSome

theorem named_fieldMembers (f : Field) (ms : List Member) : named f (fieldMembers ms) = named f ms := by
  rw [named, fieldMembers, List.filter_filter, named]
  refine List.filter_congr fun m _ => ?_
  by_cases key : f.key = m.1
  · simp [← key, ofKey?_key]
  · simp [key]

/-- The case depends on the members of its fields only, and not on their order. -/
theorem IsMadeOf.congr (same : (fieldMembers ms).Perm (fieldMembers ms')) (made : c.IsMadeOf ms) :
    c.IsMadeOf ms' := by
  have perm (f : Field) : (named f ms).Perm (named f ms') := by
    rw [← named_fieldMembers, ← named_fieldMembers f ms']
    exact same.filter _
  have mem (f : Field) (o : Option Json) : (f.key, o) ∈ ms ↔ (f.key, o) ∈ ms' := by
    rw [← mem_named, (perm f).mem_iff, mem_named]
  have count (f : Field) : ms.countP (fun m => f.key = m.1) = ms'.countP (fun m => f.key = m.1) := by
    rw [List.countP_eq_length_filter, List.countP_eq_length_filter]
    exact (perm f).length_eq
  obtain ⟨once, name, ⟨l, left, readLeft⟩, op, ⟨r, right, readRight⟩, e, expect, readExpect⟩ := made
  refine ⟨fun f => count f ▸ once f, ?_, ⟨l, (mem .left _).mp left, readLeft⟩, (mem .op _).mp op,
    ⟨r, (mem .right _).mp right, readRight⟩, e, (mem .expect _).mp expect, readExpect⟩
  rcases name with ⟨absent, anonymous⟩ | ⟨member, anonymous⟩ | ⟨s, member, named⟩
  · exact .inl ⟨fun o member => absent o ((mem .name o).mpr member), anonymous⟩
  · exact .inr (.inl ⟨(mem .name _).mp member, anonymous⟩)
  · exact .inr (.inr ⟨s, (mem .name _).mp member, named⟩)

/-- A field that is not repeated has one value. -/
theorem eq_of_mem {o' : Option Json} (once : ms.countP (fun m => f.key = m.1) ≤ 1)
    (here : (f.key, o) ∈ ms) (there : (f.key, o') ∈ ms) : o' = o := by
  have only : named f ms = [(f.key, o)] := named_eq_singleton_iff.mpr ⟨once, here⟩
  rw [← mem_named, only, List.mem_singleton] at there
  exact congrArg Prod.snd there

/-- Members make up a case if each field has what it needs by itself. -/
theorem exists_isMadeOf_iff : (∃ c : Case, c.IsMadeOf ms) ↔
    (∀ f : Field, ms.countP (fun m => f.key = m.1) ≤ 1) ∧
    (∃ j v, ("left", some j) ∈ ms ∧ Value.ofJson j = .ok v) ∧
    (∃ j v, ("right", some j) ∈ ms ∧ Value.ofJson j = .ok v) ∧
    (∃ s, ("op", some (.text s)) ∈ ms) ∧
    (∀ o, ("name", o) ∈ ms → o = some .null ∨ ∃ s, o = some (.text s)) ∧
    ∃ j e, ("expect", some j) ∈ ms ∧ IsExpectation j e := by
  constructor
  · rintro ⟨c, once, name, ⟨l, left, readLeft⟩, op, ⟨r, right, readRight⟩, e, expect, readExpect⟩
    refine ⟨once, ⟨l, _, left, readLeft⟩, ⟨r, _, right, readRight⟩, ⟨_, op⟩, fun o member => ?_,
      e, _, expect, readExpect⟩
    rcases name with ⟨absent, _⟩ | ⟨null, _⟩ | ⟨s, text, _⟩
    · exact absurd member (absent o)
    · exact .inl (eq_of_mem (once .name) null member)
    · exact .inr ⟨s, eq_of_mem (once .name) text member⟩
  · rintro ⟨once, ⟨l, left, readLeft⟩, ⟨r, right, readRight⟩, ⟨op, operator⟩, name, e, expect,
      readExpect⟩
    have named : ∃ name?, (∀ o, ("name", o) ∉ ms) ∧ name? = none ∨
        ("name", some .null) ∈ ms ∧ name? = none ∨
        ∃ s, ("name", some (.text s)) ∈ ms ∧ name? = some s := by
      by_cases present : ∃ o, ("name", o) ∈ ms
      · obtain ⟨o, member⟩ := present
        rcases name o member with rfl | ⟨s, rfl⟩
        · exact ⟨none, .inr (.inl ⟨member, rfl⟩)⟩
        · exact ⟨some s, .inr (.inr ⟨s, member, rfl⟩)⟩
      · exact ⟨none, .inl ⟨not_exists.mp present, rfl⟩⟩
    obtain ⟨name?, named⟩ := named
    exact ⟨⟨name?, left, op, right, expect⟩, once, named, ⟨l, readLeft⟩, operator, ⟨r, readRight⟩, e,
      readExpect⟩

/-- An object is read as a case by the names of its members: exactly if no field is repeated, the
operands are there and convert, the operator is there and a text, the name is absent, null or a
text, and the expectation is there and is one. The case is made of these members, so another
object whose members with these names are the same, in any order and among any others, is read
as the same case or is none either. -/
theorem case_depends_on_named_members {text : String} (written : ObjectText 126 ms text.toList) :
    ((∃ c, ofText text = .ok c) ↔
      (∀ f : Field, ms.countP (fun m => f.key = m.1) ≤ 1) ∧
      (∃ j v, ("left", some j) ∈ ms ∧ Value.ofJson j = .ok v) ∧
      (∃ j v, ("right", some j) ∈ ms ∧ Value.ofJson j = .ok v) ∧
      (∃ s, ("op", some (.text s)) ∈ ms) ∧
      (∀ o, ("name", o) ∈ ms → o = some .null ∨ ∃ s, o = some (.text s)) ∧
      ∃ j e, ("expect", some j) ∈ ms ∧ IsExpectation j e) ∧
    (∀ c, ofText text = .ok c ↔ c.IsMadeOf ms) ∧
    ∀ (ms' : List Member) (text' : String), ObjectText 126 ms' text'.toList →
      (fieldMembers ms).Perm (fieldMembers ms') → (ofText text').toOption = (ofText text).toOption := by
  refine ⟨?_, fun c => ofText_eq_ok_iff written, fun ms' text' written' same => ?_⟩
  · simp only [ofText_eq_ok_iff written]
    exact exists_isMadeOf_iff
  · ext c
    rw [toOption_eq_some_iff, toOption_eq_some_iff, ofText_eq_ok_iff written,
      ofText_eq_ok_iff written']
    exact ⟨IsMadeOf.congr same.symm, IsMadeOf.congr same⟩

/-- A member without blanks. -/
theorem memberText_of_value {n m : Nat} {key : String} {t : List Char}
    (plain : key.toList.all fun c => IsPlain c) (spelled : Spells (.value o) m t)
    (fits : m ≤ n ∨ Field.ofKey? key = none) :
    MemberText n (key, o) ('"' :: (key.toList ++ '"' :: ':' :: t)) := by
  simpa using MemberText.mk blank_nil (.ofPlain plain) blank_nil spelled.bare fits

/-- An object with its operands behind the operator and a member that is no field. -/
def mixedText : String :=
  "\x7b\"note\":[[]],\"expect\":false,\"right\":false,\"op\":\"<\",\"left\":true\x7d"

def mixedMembers : List Member :=
  [("note", some (.array [.array []])), ("expect", some (.boolean false)),
    ("right", some (.boolean false)), ("op", some (.text "<")), ("left", some (.boolean true))]

theorem objectText_mixed : ObjectText 126 mixedMembers mixedText.toList := by
  have boolean (b : Bool) : Spells (.value (some (.boolean b))) 126 (Json.boolWord b).toList :=
    .keyword (Value.boolean_mem_keywords b)
  have nested : Spells (.value (some (.array [.array []]))) 2 ['[', '[', ']', ']'] :=
    .array (.lastElement (.element blank_nil (.emptyArray blank_nil) blank_nil))
  have operator : Spells (.value (some (.text "<"))) 126 ['"', '<', '"'] :=
    .quoted (.ofPlain (by decide))
  have members : MembersText 126 mixedMembers _ :=
    .next (memberText_of_value (by decide) nested (.inr (by decide)))
      (.next (memberText_of_value (by decide) (boolean false) (.inl (Nat.le_refl _)))
        (.next (memberText_of_value (by decide) (boolean false) (.inl (Nat.le_refl _)))
          (.next (memberText_of_value (by decide) operator (.inl (Nat.le_refl _)))
            (.last (memberText_of_value (by decide) (boolean true) (.inl (Nat.le_refl _)))))))
  simpa [mixedText, Json.boolWord] using ObjectText.members blank_nil members blank_nil

theorem members_in_any_order : ∃ c, ofText mixedText = .ok c := by
  refine (case_depends_on_named_members objectText_mixed).1.mpr ⟨?_, ?_, ?_, ?_, ?_, ?_⟩
  · intro f
    cases f <;> decide
  · exact ⟨.boolean true, .boolean true, by simp [mixedMembers], rfl⟩
  · exact ⟨.boolean false, .boolean false, by simp [mixedMembers], rfl⟩
  · exact ⟨"<", by simp [mixedMembers]⟩
  · intro o member
    simp [mixedMembers] at member
  · exact ⟨.boolean false, .answer false, by simp [mixedMembers], .answer false⟩

end Made

end ValueOrder.Case
