import ValueOrder.Proofs.Printing.Merged

/-!
# The tree that a compact document spells

Compact documents write an object as the map that it stands for. So they spell the tree in
which every object is replaced by the sorted members of its map, and that tree is the same
document: only members that do not count and the order of the others are lost.
-/

namespace ValueOrder

namespace Json

/-! ## The tree without what does not count -/

mutual

/-- The tree in which each object is replaced by the sorted members of its map. -/
def canonical : Json → Json
  | .null => .null
  | .boolean b => .boolean b
  | .number n => .number n
  | .text s => .text s
  | .array items => .array (canonicalItems items)
  | .object members => .object (merged (canonicalMembers members))

def canonicalItems : List Json → List Json
  | [] => []
  | v :: rest => canonical v :: canonicalItems rest

def canonicalMembers : List (String × Json) → List (String × Json)
  | [] => []
  | (key, v) :: rest => (key, canonical v) :: canonicalMembers rest

end

theorem canonicalItems_eq_map (items : List Json) : canonicalItems items = items.map canonical := by
  induction items with
  | nil => rfl
  | cons v rest ih => rw [canonicalItems, ih, List.map_cons]

theorem canonicalMembers_eq_map (members : List (String × Json)) :
    canonicalMembers members = members.map (Prod.map id canonical) := by
  induction members with
  | nil => rfl
  | cons m rest ih => rw [canonicalMembers, ih, List.map_cons, Prod.map, id]

theorem canonical_object (members : List (String × Json)) :
    canonical (.object members) = .object ((merged members).map (Prod.map id canonical)) := by
  rw [canonical, canonicalMembers_eq_map, merged_map]

/-! ## The same document -/

/-- Two trees are the same document. Arrays agree element by element, and objects agree in the
value that counts under each key. -/
inductive Same : Json → Json → Prop where
  | null : Same .null .null
  | boolean (b : Bool) : Same (.boolean b) (.boolean b)
  | number (n : JsonNumber) : Same (.number n) (.number n)
  | text (s : String) : Same (.text s) (.text s)
  | array {items items' : List Json} (elements : List.Forall₂ Same items items') :
      Same (.array items) (.array items')
  | object {members members' : List (String × Json)}
      (values : ∀ key, Option.Rel Same (lastValue? members key) (lastValue? members' key)) :
      Same (.object members) (.object members')

theorem mem_of_lastValue? {α : Type} {members : List (String × α)} {key : String} {v : α}
    (found : lastValue? members key = some v) : (key, v) ∈ members := by
  obtain ⟨before, after, split, _⟩ := List.lookup_eq_some_iff.mp found
  rw [← List.mem_reverse, split]
  exact List.mem_append_right before (.head after)

/-- Nothing that counts is lost. -/
theorem same_canonical (j : Json) : Same j j.canonical := by
  induction j using tree_induction with
  | null => exact .null
  | boolean b => exact .boolean b
  | number n => exact .number n
  | text s => exact .text s
  | array items ih =>
    rw [canonical, canonicalItems_eq_map]
    refine .array ?_
    rw [List.forall₂_map_right_iff, List.forall₂_same]
    exact ih
  | object members ih =>
    rw [canonical, canonicalMembers_eq_map]
    refine .object fun key => ?_
    rw [lastValue?_merged, lastValue?_map]
    cases found : lastValue? members key with
    | none => exact .none
    | some v => exact .some (ih _ (mem_of_lastValue? found))

/-! ## Sorted keys -/

/-- The keys of every object in the tree stand in the order of their bytes, each once. -/
inductive SortedKeys : Json → Prop where
  | null : SortedKeys .null
  | boolean (b : Bool) : SortedKeys (.boolean b)
  | number (n : JsonNumber) : SortedKeys (.number n)
  | text (s : String) : SortedKeys (.text s)
  | array {items : List Json} (elements : ∀ j ∈ items, SortedKeys j) : SortedKeys (.array items)
  | object {members : List (String × Json)}
      (keys : members.Pairwise fun m m' => Text.order m.1 m'.1 = .less)
      (values : ∀ m ∈ members, SortedKeys m.2) : SortedKeys (.object members)

theorem sortedKeys_canonical (j : Json) : SortedKeys j.canonical := by
  induction j using tree_induction with
  | null => exact .null
  | boolean b => exact .boolean b
  | number n => exact .number n
  | text s => exact .text s
  | array items ih =>
    rw [canonical, canonicalItems_eq_map]
    exact .array (List.forall_mem_map.mpr ih)
  | object members ih =>
    rw [canonical_object]
    refine .object ?_ (List.forall_mem_map.mpr fun m mem => ih m (mem_of_mem_merged mem))
    rw [List.pairwise_map]
    exact (ascending_merged members).imp Text.lt_iff_order_eq_less.mp

/-! ## What is written -/

theorem compactItems_eq_map (items : List Json) : compactItems items = items.map compactChars := by
  induction items with
  | nil => rfl
  | cons v rest ih => rw [compactItems, ih, List.map_cons]

theorem compactMembers_eq_map (members : List (String × Json)) :
    compactMembers members = members.map (Prod.map id compactChars) := by
  induction members with
  | nil => rfl
  | cons m rest ih => rw [compactMembers, ih, List.map_cons, Prod.map, id]

/-- An object is written as the members of its map. -/
theorem compactChars_object (members : List (String × Json)) :
    compactChars (.object members) = '\x7b' :: (commaSeparated
      (((merged members).map (Prod.map id compactChars)).map memberChars) ++ ['\x7d']) := by
  rw [compactChars, compactMembers_eq_map, merged_map]

/-- What does not count is not written. -/
theorem compactChars_canonical (j : Json) : j.canonical.compactChars = j.compactChars := by
  induction j using tree_induction with
  | null => rfl
  | boolean b => rfl
  | number n => rfl
  | text s => rfl
  | array items ih =>
    have elements : (items.map canonical).map compactChars = items.map compactChars := by
      rw [List.map_map]
      exact List.map_congr_left ih
    rw [canonical, compactChars, compactChars, canonicalItems_eq_map, compactItems_eq_map,
      compactItems_eq_map, elements]
  | object members ih =>
    have values : (merged (canonicalMembers members)).map (Prod.map id compactChars) =
        (merged members).map (Prod.map id compactChars) := by
      rw [canonicalMembers_eq_map, merged_map, List.map_map]
      refine List.map_congr_left fun m mem => ?_
      simp only [Function.comp_apply, Prod.map, id, ih m (mem_of_mem_merged mem)]
    rw [canonical, compactChars_object, compactChars_object, merged_merged, values]

end Json

namespace Value

open Json

theorem namedNumber?_canonical (j : Json) : namedNumber? j.canonical = namedNumber? j := by
  cases j with
  | array items => rfl
  | object members => rfl
  | _ => rfl

/-- An object is a number object by what counts in it. -/
theorem numberObject?_canonical (members : List (String × Json)) :
    numberObject? (merged (canonicalMembers members)) = numberObject? members := by
  unfold numberObject?
  rw [merged_merged, canonicalMembers_eq_map, merged_map]
  rcases merged members with - | ⟨⟨key, v⟩, - | ⟨second, rest⟩⟩
  · rfl
  · simp only [List.map_cons, List.map_nil, Prod.map, id, namedNumber?_canonical]
  · rfl

end Value

end ValueOrder
