import ValueOrder.Proofs.Arguments.Flags
import ValueOrder.Proofs.Text.Splitting

/-!
# Groups of paths

Case paths may be given in groups of any size, each by a `--cases` of its own in either spelling,
with flags in between. The request is for all the paths in order, however they are grouped.
-/

namespace ValueOrder.CommandLine

/-! ## Items -/

/-- What is written in one go when case files are asked for. -/
inductive Item where
  /-- Some paths, in the argument after `--cases` or behind `--cases=`. -/
  | group (attached : Bool) (first : String) (others : List String)
  | failFast
  /-- A flag for verbosity, as a letter or as a word. -/
  | verbose (short : Bool)
  deriving DecidableEq

namespace Item

def paths : Item → List String
  | .group _ first others => first :: others
  | .failFast | .verbose _ => []

/-- How the item is written. -/
def args : Item → List String
  | .group true first others => ["--cases=" ++ ",".intercalate (first :: others)]
  | .group false first others => ["--cases", ",".intercalate (first :: others)]
  | .failFast => ["--fail-fast"]
  | .verbose true => ["-v"]
  | .verbose false => ["--verbose"]

def part : Item → Part
  | .group _ first others => .cases (some (",".intercalate (first :: others)))
  | .failFast => .failFast
  | .verbose _ => .verbose

def isVerbose : Item → Bool
  | .verbose _ => true
  | .group .. | .failFast => false

end Item

/-- A path that can be written among others: it is not empty, has no comma and does not look
like an option. -/
structure Listable (path : String) : Prop where
  nonempty : path ≠ ""
  noComma : ',' ∉ path.toList
  noDash : path.toList.head? ≠ some '-'

instance (path : String) : Decidable (Listable path) :=
  decidable_of_iff (path ≠ "" ∧ ',' ∉ path.toList ∧ path.toList.head? ≠ some '-')
    ⟨fun ⟨nonempty, noComma, noDash⟩ => ⟨nonempty, noComma, noDash⟩,
      fun ⟨nonempty, noComma, noDash⟩ => ⟨nonempty, noComma, noDash⟩⟩

section Items
variable {item : Item} {items : List Item} {first : String} {others : List String}

/-- A group begins like its first path, and that is no option. -/
theorem ofText_group (listable : Listable first) :
    Token.ofText (",".intercalate (first :: others)) =
      .plain (",".intercalate (first :: others)) := by
  apply Token.ofText_of_head?_ne
  have begins : first.toList ≠ [] := mt String.toList_eq_nil_iff.mp listable.nonempty
  cases others with
  | nil => simpa using listable.noDash
  | cons next behind =>
    rw [String.intercalate_cons_cons, String.append_assoc, String.toList_append,
      List.head?_append_of_ne_nil _ begins]
    exact listable.noDash

theorem split_group (listable : ∀ path ∈ first :: others, Listable path) :
    Text.split ',' (",".intercalate (first :: others)) = first :: others :=
  Text.split_intercalate rfl fun path here => (listable path here).noComma

/-- An item is read as one part, whatever stands behind it. -/
theorem parts_item (listable : ∀ path ∈ item.paths, Listable path) (rest : List String) :
    parts (item.args ++ rest) = item.part :: parts rest := by
  cases item with
  | group attached first others =>
    cases attached with
    | true => exact parts_of_long (Token.ofText_cases_attached _) (by simp)
    | false =>
      refine parts_of_value ?_
      rw [ofText_group (listable first (.head others))]
      rfl
  | failFast => exact parts_failFast rest
  | verbose short =>
    cases short with
    | true => exact parts_v rest
    | false => exact parts_verbose rest

theorem parts_items (listable : ∀ path ∈ items.flatMap Item.paths, Listable path) :
    parts (items.flatMap Item.args) = items.map Item.part := by
  induction items with
  | nil => rfl
  | cons item rest ih =>
    rw [List.flatMap_cons] at listable
    obtain ⟨here, behind⟩ := List.forall_mem_append.mp listable
    rw [List.flatMap_cons, parts_item here, ih behind, List.map_cons]

/-! ## What the parts of items hold -/

theorem operandsOf_items (items : List Item) : operandsOf (items.map Item.part) = [] := by
  induction items with
  | nil => rfl
  | cons item rest ih =>
    rw [List.map_cons, operandsOf_cons, ih]
    cases item <;> rfl

/-- The paths come back out of the groups that they are written in. -/
theorem groupsOf_items (listable : ∀ path ∈ items.flatMap Item.paths, Listable path) :
    (groupsOf (items.map Item.part)).flatten = items.flatMap Item.paths := by
  induction items with
  | nil => rfl
  | cons item rest ih =>
    rw [List.flatMap_cons] at listable
    obtain ⟨here, behind⟩ := List.forall_mem_append.mp listable
    rw [List.map_cons, groupsOf_cons, List.flatten_append, ih behind, List.flatMap_cons]
    congr 1
    cases item with
    | group attached first others => simpa [Item.part, Item.paths] using split_group here
    | failFast => rfl
    | verbose short => rfl

/-- Parts of a kind are counted as the items that are read as them. -/
theorem count_items {p : Part} {counted : Item → Bool}
    (same : ∀ item : Item, item.part = p ↔ counted item) (items : List Item) :
    (items.map Item.part).count p = items.countP counted := by
  rw [List.count_eq_countP, List.countP_map]
  exact List.countP_congr fun item _ => by simpa using same item

theorem count_failFast_items (items : List Item) :
    (items.map Item.part).count .failFast = items.count .failFast :=
  count_items (fun item => by cases item <;> simp [Item.part]) items

theorem count_verbose_items (items : List Item) :
    (items.map Item.part).count .verbose = items.countP Item.isVerbose :=
  count_items (fun item => by cases item <;> simp [Item.part, Item.isVerbose]) items

theorem readable_items (listable : ∀ path ∈ items.flatMap Item.paths, Listable path) :
    Readable (items.map Item.part) where
  known e here := by
    obtain ⟨item, _, refused⟩ := List.mem_map.mp here
    cases item <;> cases refused
  named group here empty := by
    have path : "" ∈ items.flatMap Item.paths := by
      rw [← groupsOf_items listable]
      exact List.mem_flatten_of_mem here empty
    exact (listable "" path).nonempty rfl
  few := by
    rw [operandsOf_items]
    exact Nat.zero_le 3

end Items

/-! ## Requests for case files -/

section Requests
variable {items : List Item} {paths : List String}

/-- Any grouping of case paths is the same request: it is for exactly the paths in order, stops
at the first failure if that is asked for, and has the level that the number of flags for
verbosity gives. -/
theorem grouping_is_immaterial (cut : items.flatMap Item.paths = paths) (nonempty : paths ≠ [])
    (listable : ∀ path ∈ paths, Listable path) (once : items.count .failFast ≤ 1) :
    parse (items.flatMap Item.args) = .ok {
      mode := .cases paths
      failFast := decide (.failFast ∈ items)
      level := .ofFlags (items.countP Item.isVerbose) } := by
  subst cut
  rw [parse_eq_ok_iff, parts_items listable]
  have held := groupsOf_items listable
  rw [flatten_groupsOf] at held
  have asked : .failFast ∈ items.map Item.part ↔ .failFast ∈ items := by
    rw [← List.count_pos_iff, count_failFast_items, List.count_pos_iff]
  refine ⟨readable_items listable, ?_, ?_, ?_, ?_⟩
  · rw [← held] at nonempty ⊢
    exact .cases (mt flatMap_split_eq_nil_iff.mpr nonempty) (operandsOf_items items)
  · rw [count_failFast_items]
    exact once
  · exact decide_eq_decide.mpr asked.symm
  · rw [count_verbose_items]

/-- Three paths in two groups with flags around them. -/
theorem two_groups_and_flags :
    parse ["-v", "--cases=a,b", "--fail-fast", "--cases", "c", "--verbose"] =
      .ok ⟨.cases ["a", "b", "c"], true, .debug⟩ := by
  have cut : [Item.verbose true, .group true "a" ["b"], .failFast, .group false "c" [],
      .verbose false].flatMap Item.paths = ["a", "b", "c"] := rfl
  exact grouping_is_immaterial cut (by decide) (by decide) (by decide)

end Requests

end ValueOrder.CommandLine
