import Mathlib.Data.List.Forall2
import Mathlib.Data.List.Induction
import ValueOrder.Value.OfJson

/-!
# Documents that denote values

A document denotes a value if no null stands in it outside of objects and if each object
outside of others is a number object, with the key `number` alone. Of the parts for which
this fails the first one in the document is reported, an object as a whole.
-/

namespace ValueOrder

namespace Json

/-! ## Induction on documents -/

/-- Induction with the hypothesis for every element and for the value of every member. -/
@[elab_as_elim]
theorem tree_induction {P : Json → Prop} (null : P .null) (boolean : ∀ b, P (.boolean b))
    (number : ∀ n, P (.number n)) (text : ∀ s, P (.text s))
    (array : ∀ items, (∀ j ∈ items, P j) → P (.array items))
    (object : ∀ members, (∀ m ∈ members, P m.2) → P (.object members)) (j : Json) : P j := by
  refine @Json.rec P (fun items => ∀ j ∈ items, P j) (fun members => ∀ m ∈ members, P m.2)
    (fun m => P m.2) null boolean number text array object ?_ ?_ ?_ ?_ ?_ j
  · exact nofun
  · exact fun _ _ first rest => List.forall_mem_cons.mpr ⟨first, rest⟩
  · exact nofun
  · exact fun _ _ first rest => List.forall_mem_cons.mpr ⟨first, rest⟩
  · exact fun _ _ value => value

/-! ## The parts of a document -/

mutual

/-- The parts of a document that lie outside of its objects, in the order in which they
begin. An object is a part, but nothing inside it is. -/
def parts : Json → List Json
  | .array items => .array items :: partsOfItems items
  | .null => [.null]
  | .boolean b => [.boolean b]
  | .number n => [.number n]
  | .text s => [.text s]
  | .object members => [.object members]

/-- The parts of the elements of an array. -/
def partsOfItems : List Json → List Json
  | [] => []
  | j :: rest => parts j ++ partsOfItems rest

end

/-! ## Objects with one key -/

section Members
variable {α : Type} {key k : String} {value v : α}

/-- The members have one key and this value counts under it. If the key is repeated, it is
the last value. -/
def OnlyMember (members : List (String × α)) (key : String) (value : α) : Prop :=
  (∀ m ∈ members, m.1 = key) ∧ members.getLast? = some (key, value)

theorem merged_concat (members : List (String × α)) (key : String) (value : α) :
    merged (members ++ [(key, value)]) = insertMember key value (merged members) := by
  simp [merged]

theorem insertMember_ne_nil (key : String) (value : α) (sorted : List (String × α)) :
    insertMember key value sorted ≠ [] := by
  cases sorted with
  | nil => simp [insertMember]
  | cons entry rest =>
    unfold insertMember
    split_ifs
    all_goals simp

theorem insertMember_eq_singleton_iff {sorted : List (String × α)} :
    insertMember key value sorted = [(k, v)] ↔
      key = k ∧ value = v ∧ (sorted = [] ∨ ∃ u, sorted = [(k, u)]) := by
  cases sorted with
  | nil => simp [insertMember]
  | cons entry rest =>
    obtain ⟨first, u⟩ := entry
    unfold insertMember
    split_ifs with less same
    · have other : first ≠ key := fun same => String.lt_irrefl _ (same ▸ less)
      simp only [List.cons.injEq, reduceCtorEq, and_false, false_or, Prod.mk.injEq, false_iff,
        not_and, not_exists]
      rintro rfl _ u' ⟨same, _⟩ _
      exact other same
    · subst same
      simp only [List.cons.injEq, Prod.mk.injEq, false_or]
      constructor
      · rintro ⟨⟨sameKey, sameValue⟩, alone⟩
        exact ⟨sameKey, sameValue, u, ⟨sameKey, rfl⟩, alone⟩
      · rintro ⟨sameKey, sameValue, _, _, alone⟩
        exact ⟨⟨sameKey, sameValue⟩, alone⟩
    · simp only [List.cons.injEq, insertMember_ne_nil, and_false, false_or, Prod.mk.injEq,
        false_iff, not_and, not_exists]
      rintro rfl _ u' ⟨rfl, _⟩ _
      exact same rfl

theorem merged_eq_nil_iff {members : List (String × α)} : merged members = [] ↔ members = [] := by
  induction members using List.reverseRecOn with
  | nil => simp [merged]
  | append_singleton before last =>
    rw [merged_concat]
    simp [insertMember_ne_nil]

theorem exists_onlyMember_iff {members : List (String × α)} :
    (∃ u, OnlyMember members key u) ↔ members ≠ [] ∧ ∀ m ∈ members, m.1 = key := by
  constructor
  · rintro ⟨u, keys, last⟩
    refine ⟨?_, keys⟩
    rintro rfl
    cases last
  · rintro ⟨present, keys⟩
    have lastKey := keys _ (List.getLast_mem present)
    refine ⟨(members.getLast present).2, keys, ?_⟩
    rw [List.getLast?_eq_some_getLast present, ← lastKey]

theorem merged_eq_singleton_iff {members : List (String × α)} :
    merged members = [(key, value)] ↔ OnlyMember members key value := by
  induction members using List.reverseRecOn generalizing value with
  | nil => simp [merged, OnlyMember]
  | append_singleton before last ih =>
    obtain ⟨k, v⟩ := last
    have oneKey : (before = [] ∨ ∃ u, merged before = [(key, u)]) ↔ ∀ m ∈ before, m.1 = key := by
      simp only [ih, exists_onlyMember_iff]
      by_cases empty : before = []
      · simp [empty]
      · simp [empty]
    rw [merged_concat, insertMember_eq_singleton_iff, merged_eq_nil_iff, oneKey, OnlyMember,
      List.forall_mem_append, List.forall_mem_singleton, List.getLast?_concat, Option.some_inj,
      Prod.mk.injEq]
    tauto

end Members

end Json

namespace Value

open Json

/-! ## Number objects -/

/-- The numbers that have a name, each with the names that stand for it. -/
def specialNumbers : List (String × Binary64) :=
  [("nan", .nan), ("NaN", .nan), ("inf", .infinity), ("-inf", .negInfinity), ("-0", .negZero)]

/-- The document names a number, by a literal or by a special name. -/
inductive NamesNumber : Json → Binary64 → Prop where
  | literal (n : JsonNumber) : NamesNumber (.number n) n.toBinary64
  | special {name : String} {x : Binary64} (listed : (name, x) ∈ specialNumbers) :
      NamesNumber (.text name) x

theorem namedNumber?_eq_some_iff {j : Json} {x : Binary64} :
    namedNumber? j = some x ↔ NamesNumber j x := by
  constructor
  · intro named
    unfold namedNumber? at named
    split at named
    all_goals cases named
    · exact .special (by decide)
    · exact .special (by decide)
    · exact .special (by decide)
    · exact .special (by decide)
    · exact .special (by decide)
    · exact .literal _
  · intro names
    cases names with
    | literal n => rfl
    | special listed =>
      simp only [specialNumbers, List.mem_cons, List.not_mem_nil, Prod.mk.injEq, or_false] at listed
      rcases listed with ⟨rfl, rfl⟩ | ⟨rfl, rfl⟩ | ⟨rfl, rfl⟩ | ⟨rfl, rfl⟩ | ⟨rfl, rfl⟩
      all_goals rfl

/-- The object stands for the number. Its only key is `number`, and the value under it names
the number. -/
def IsNumberObject (members : List (String × Json)) (x : Binary64) : Prop :=
  ∃ v, OnlyMember members "number" v ∧ NamesNumber v x

theorem numberObject?_eq_some_iff {members : List (String × Json)} {x : Binary64} :
    numberObject? members = some x ↔ IsNumberObject members x := by
  simp only [IsNumberObject, ← merged_eq_singleton_iff, ← namedNumber?_eq_some_iff]
  unfold numberObject?
  split
  case h_1 key v single =>
    rw [single]
    by_cases number : key = "number"
    · simp [number]
    · simp [number]
  case h_2 several =>
    constructor
    · intro none
      cases none
    · rintro ⟨v, single, _⟩
      exact absurd single (several "number" v)

theorem numberObject?_eq_none_iff {members : List (String × Json)} :
    numberObject? members = none ↔ ¬ ∃ x, IsNumberObject members x := by
  simp only [Option.eq_none_iff_forall_ne_some, ne_eq, numberObject?_eq_some_iff, not_exists]

/-! ## What a document denotes -/

/-- The document denotes the value. Booleans and texts stand for themselves, arrays for lists
of what their elements denote. -/
@[mk_iff]
inductive Denotes : Json → Value → Prop where
  | boolean (b : Bool) : Denotes (.boolean b) (.boolean b)
  | number (n : JsonNumber) : Denotes (.number n) (.number n.toBinary64)
  | text (s : String) : Denotes (.text s) (.text s)
  | array {items : List Json} {values : List Value} (elements : List.Forall₂ Denotes items values) :
      Denotes (.array items) (.list values)
  | object {members : List (String × Json)} {x : Binary64} (number : IsNumberObject members x) :
      Denotes (.object members) (.number x)

mutual

/-- A document is converted to what it denotes. -/
theorem ofJson_eq_ok_iff (j : Json) (v : Value) : ofJson j = .ok v ↔ Denotes j v := by
  rw [denotes_iff]
  cases j with
  | null => simp [ofJson]
  | boolean b => simp [ofJson, eq_comm]
  | number n => simp [ofJson, eq_comm]
  | text s => simp [ofJson, eq_comm]
  | array items =>
    have elements := ofJsonItems_eq_ok_iff items
    rw [ofJson]
    cases converted : ofJsonItems items with
    | error e => simp [Except.map, ← elements, converted]
    | ok values => simp [Except.map, ← elements, converted, eq_comm]
  | object members =>
    rw [ofJson]
    cases named : numberObject? members with
    | none => simp [← numberObject?_eq_some_iff, named]
    | some x => simp [← numberObject?_eq_some_iff, named, eq_comm]

theorem ofJsonItems_eq_ok_iff (js : List Json) (vs : List Value) :
    ofJsonItems js = .ok vs ↔ List.Forall₂ Denotes js vs := by
  cases js with
  | nil => simp [ofJsonItems, eq_comm, List.forall₂_nil_left_iff]
  | cons j rest =>
    simp only [ofJsonItems_cons_eq_ok_iff, List.forall₂_cons_left_iff, ofJson_eq_ok_iff j,
      ofJsonItems_eq_ok_iff rest]

end

/-! ## The first part that denotes none -/

/-- What a report says about a part, if it denotes no value. -/
def blame? : Json → Option Inconvertible
  | .null => some .null
  | .object members => if numberObject? members = none then some (.object members) else none
  | _ => none

mutual

/-- The first part that denotes no value is the one reported. -/
theorem ofJson_eq_error_iff (j : Json) (e : Inconvertible) :
    ofJson j = .error e ↔ j.parts.findSome? blame? = some e := by
  cases j with
  | null => simp [ofJson, parts, blame?]
  | boolean b => simp [ofJson, parts, blame?]
  | number n => simp [ofJson, parts, blame?]
  | text s => simp [ofJson, parts, blame?]
  | array items =>
    have inside := ofJsonItems_eq_error_iff items e
    rw [ofJson, parts, List.findSome?_cons_of_isNone rfl, ← inside]
    cases ofJsonItems items with
    | error e => simp [Except.map]
    | ok values => simp [Except.map]
  | object members =>
    rw [ofJson, parts]
    cases named : numberObject? members with
    | none => simp [blame?, named]
    | some x => simp [blame?, named]

theorem ofJsonItems_eq_error_iff (js : List Json) (e : Inconvertible) :
    ofJsonItems js = .error e ↔ (partsOfItems js).findSome? blame? = some e := by
  cases js with
  | nil => simp [ofJsonItems, partsOfItems]
  | cons j rest =>
    rw [ofJsonItems, partsOfItems, List.findSome?_append]
    cases converted : ofJson j with
    | error e' =>
      rw [(ofJson_eq_error_iff j e').mp converted, Option.some_or]
      simp [bind, Except.bind]
    | ok v =>
      have harmless : j.parts.findSome? blame? = none := by
        rw [Option.eq_none_iff_forall_ne_some]
        intro e' found
        rw [(ofJson_eq_error_iff j e').mpr found] at converted
        cases converted
      rw [harmless, Option.none_or, ← ofJsonItems_eq_error_iff rest e]
      cases ofJsonItems rest with
      | error e => simp [bind, Except.bind]
      | ok vs => simp [bind, Except.bind, pure, Except.pure]

end

theorem exists_ofJson_eq_ok_iff {j : Json} :
    (∃ v, ofJson j = .ok v) ↔ ∀ part ∈ j.parts, blame? part = none := by
  rw [← List.findSome?_eq_none_iff, Option.eq_none_iff_forall_ne_some]
  simp only [ne_eq, ← ofJson_eq_error_iff]
  cases ofJson j with
  | error e => simp
  | ok v => simp

end Value

end ValueOrder
