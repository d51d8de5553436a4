import ValueOrder.Proofs.Order.CodePoints
import ValueOrder.Proofs.Reading.Conversion

/-!
# The map that members stand for

Members of an object stand for a map in which the last value of a key counts. The sorted
members of that map have each key once, in the order of the bytes of the keys, and they stand
for the same map.
-/

namespace ValueOrder

namespace Text

theorem lt_iff_compare {s t : List Char} :
    s < t ↔ compare (s.map Char.toNat) (t.map Char.toNat) = .lt := by
  induction s generalizing t with
  | nil =>
    cases t with
    | nil => simp
    | cons d t => simp
  | cons c s ih =>
    cases t with
    | nil => simp
    | cons d t =>
      rw [List.cons_lt_cons_iff, List.map_cons, List.map_cons, List.compare_eq_compareLex,
        List.compareLex_cons_cons, Ordering.then_eq_lt, Nat.compare_eq_lt, Nat.compare_eq_eq,
        Char.toNat_inj, ← List.compare_eq_compareLex, ← ih]
      rfl

/-- Keys are sorted as texts are compared, by their bytes. -/
theorem lt_iff_order_eq_less {s t : String} : s < t ↔ order s t = .less := by
  have characters : s < t ↔ s.toList < t.toList := Iff.rfl
  rw [characters, lt_iff_compare, order_eq_compare_codePoints]
  show compare (codePoints s) (codePoints t) = .lt ↔ _
  cases compare (codePoints s) (codePoints t) <;> simp [Outcome.ofOrdering]

end Text

namespace Json

/-- The value that counts under a key: the last one. -/
def lastValue? {α : Type} (members : List (String × α)) (key : String) : Option α :=
  members.reverse.lookup key

/-- Members in the order of their keys, without repetitions. -/
def Ascending {α : Type} (members : List (String × α)) : Prop := members.Pairwise (·.1 < ·.1)

section Members
variable {α β : Type} {members sorted : List (String × α)} {key k : String} {value : α}
  {m : String × α}

theorem lastValue?_concat (members : List (String × α)) (k : String) (v : α) (key : String) :
    lastValue? (members ++ [(k, v)]) key = if key = k then some v else lastValue? members key := by
  rw [lastValue?, List.reverse_append, List.reverse_singleton, List.singleton_append,
    List.lookup_cons]
  by_cases same : key = k
  · simp [same]
  · have differs : (key == k) = false := by simpa using same
    rw [differs, if_neg same]
    rfl

theorem lookup_insertMember (key k : String) (value : α) (sorted : List (String × α)) :
    (insertMember k value sorted).lookup key =
      if key = k then some value else sorted.lookup key := by
  induction sorted with
  | nil =>
    by_cases same : key = k
    · simp [insertMember, same]
    · have differs : (key == k) = false := by simpa using same
      simp [insertMember, List.lookup_cons, differs, same]
  | cons entry rest ih =>
    obtain ⟨first, v⟩ := entry
    unfold insertMember
    by_cases same : key = k
    · subst same
      rw [if_pos rfl]
      split_ifs with less equal
      · exact List.lookup_cons_self
      · exact List.lookup_cons_self
      · have differs : (key == first) = false := by simpa using equal
        rw [List.lookup_cons, differs, ih, if_pos rfl]
    · have differs : (key == k) = false := by simpa using same
      split_ifs with less equal
      · simp [List.lookup_cons, differs]
      · subst equal
        simp [List.lookup_cons, differs]
      · simp [List.lookup_cons, ih, same]

/-- In the map of the members a key has its last value. -/
theorem lookup_merged (members : List (String × α)) (key : String) :
    (merged members).lookup key = lastValue? members key := by
  induction members using List.reverseRecOn with
  | nil => rfl
  | append_singleton before last ih =>
    obtain ⟨k, v⟩ := last
    rw [merged_concat, lookup_insertMember, lastValue?_concat, ih]

theorem mem_insertMember (mem : m ∈ insertMember key value sorted) :
    m = (key, value) ∨ m ∈ sorted := by
  induction sorted with
  | nil => exact .inl (List.mem_singleton.mp mem)
  | cons entry rest ih =>
    obtain ⟨first, v⟩ := entry
    unfold insertMember at mem
    split_ifs at mem
    · exact List.mem_cons.mp mem
    · rcases List.mem_cons.mp mem with here | later
      · exact .inl here
      · exact .inr (.tail _ later)
    · rcases List.mem_cons.mp mem with here | later
      · exact .inr (here ▸ .head rest)
      · exact (ih later).imp_right (.tail _)

/-- Every member of the map was written. -/
theorem mem_of_mem_merged (mem : m ∈ merged members) : m ∈ members := by
  induction members using List.reverseRecOn with
  | nil => cases mem
  | append_singleton before last ih =>
    obtain ⟨k, v⟩ := last
    rw [merged_concat] at mem
    rcases mem_insertMember mem with rfl | earlier
    · exact List.mem_append_right _ (.head [])
    · exact List.mem_append_left _ (ih earlier)

theorem ascending_insertMember (key : String) (value : α) (ascending : Ascending sorted) :
    Ascending (insertMember key value sorted) := by
  induction sorted with
  | nil => exact List.pairwise_singleton _ _
  | cons entry rest ih =>
    obtain ⟨first, v⟩ := entry
    obtain ⟨above, sorted_rest⟩ := List.pairwise_cons.mp ascending
    unfold insertMember
    split_ifs with less equal
    · refine List.pairwise_cons.mpr ⟨fun m mem => ?_, ascending⟩
      rcases List.mem_cons.mp mem with rfl | later
      · exact less
      · exact String.lt_trans less (above m later)
    · subst equal
      exact List.pairwise_cons.mpr ⟨above, sorted_rest⟩
    · refine List.pairwise_cons.mpr ⟨fun m mem => ?_, ih sorted_rest⟩
      rcases mem_insertMember mem with rfl | later
      · have le : first ≤ key := String.not_lt.mp less
        by_contra notLess
        exact equal (String.le_antisymm (String.not_lt.mp notLess) le)
      · exact above m later

theorem ascending_merged (members : List (String × α)) : Ascending (merged members) := by
  induction members using List.reverseRecOn with
  | nil => exact .nil
  | append_singleton before last ih =>
    obtain ⟨k, v⟩ := last
    rw [merged_concat]
    exact ascending_insertMember k v ih

theorem insertMember_of_above (above : ∀ m ∈ sorted, m.1 < key) :
    insertMember key value sorted = sorted ++ [(key, value)] := by
  induction sorted with
  | nil => rfl
  | cons entry rest ih =>
    obtain ⟨first, v⟩ := entry
    obtain ⟨here, later⟩ := List.forall_mem_cons.mp above
    have other : key ≠ first := fun same => String.lt_irrefl first (same ▸ here)
    rw [insertMember, if_neg (String.lt_asymm here), if_neg other, ih later, List.cons_append]

/-- Members that are sorted stay as they are. -/
theorem merged_of_ascending (ascending : Ascending members) : merged members = members := by
  induction members using List.reverseRecOn with
  | nil => rfl
  | append_singleton before last ih =>
    obtain ⟨k, v⟩ := last
    obtain ⟨front, _, below⟩ := List.pairwise_append.mp ascending
    rw [merged_concat, ih front, insertMember_of_above fun m mem => below m mem _ (.head [])]

theorem merged_merged (members : List (String × α)) : merged (merged members) = merged members :=
  merged_of_ascending (ascending_merged members)

/-- The sorted members stand for the same map. -/
theorem lastValue?_merged (members : List (String × α)) (key : String) :
    lastValue? (merged members) key = lastValue? members key := by
  rw [← lookup_merged, merged_merged, lookup_merged]

theorem insertMember_map (f : α → β) (key : String) (value : α) (sorted : List (String × α)) :
    insertMember key (f value) (sorted.map (Prod.map id f)) =
      (insertMember key value sorted).map (Prod.map id f) := by
  induction sorted with
  | nil => rfl
  | cons entry rest ih =>
    obtain ⟨first, v⟩ := entry
    unfold insertMember
    simp only [List.map_cons, Prod.map, id]
    split_ifs
    · rfl
    · rfl
    · rw [List.map_cons, ← ih]
      rfl

/-- Values may be mapped before or after the members are merged. -/
theorem merged_map (f : α → β) (members : List (String × α)) :
    merged (members.map (Prod.map id f)) = (merged members).map (Prod.map id f) := by
  induction members using List.reverseRecOn with
  | nil => rfl
  | append_singleton before last ih =>
    obtain ⟨k, v⟩ := last
    rw [List.map_append, merged_concat, ← insertMember_map, ← ih]
    exact merged_concat _ _ _

theorem lastValue?_map (f : α → β) (members : List (String × α)) (key : String) :
    lastValue? (members.map (Prod.map id f)) key = (lastValue? members key).map f := by
  induction members using List.reverseRecOn with
  | nil => rfl
  | append_singleton before last ih =>
    obtain ⟨k, v⟩ := last
    rw [List.map_append]
    show lastValue? (_ ++ [(k, f v)]) key = _
    rw [lastValue?_concat, lastValue?_concat, ih]
    split_ifs <;> rfl

end Members

end Json

end ValueOrder
