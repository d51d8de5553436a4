import ValueOrder.Proofs.Files.Collection

/-!
# Files that lie deep

Names have no bound on how many of them lie behind each other, but paths have one on their
length. So a file can lie so deep that it has no canonical name to be had, though a short path
over a link leads to it, and a directory can lie so deep that a walk cannot list it.
-/

namespace ValueOrder

/-! ## Lengths -/

namespace Path

variable {p : Path} {names : List FileName}

theorem length_push_bounds (p : Path) (name : FileName) :
    p.bytes.length + name.bytes.length ≤ (p.push name).bytes.length ∧
      (p.push name).bytes.length ≤ p.bytes.length + 1 + name.bytes.length := by
  obtain ⟨gap, gapped, joined⟩ := bytes_push p name
  have short : gap.length ≤ 1 := by rcases gapped with rfl | rfl <;> simp
  rw [joined]
  simp only [List.length_append]
  omega

/-- The length of a path with names behind it, up to the separators. -/
theorem length_join_bounds (p : Path) (names : List FileName) :
    p.bytes.length + CanonicalName.pathLength names ≤ (p.join names).bytes.length + names.length ∧
      (p.join names).bytes.length ≤ p.bytes.length + CanonicalName.pathLength names := by
  induction names generalizing p with
  | nil => simp [join]
  | cons name rest ih =>
    have pushed := length_push_bounds p name
    have joined := ih (p.push name)
    have same : p.join (name :: rest) = (p.push name).join rest := rfl
    simp only [same, CanonicalName.pathLength_cons, List.length_cons]
    omega

end Path

theorem CanonicalName.pathLength_append (name other : CanonicalName) :
    pathLength (name ++ other) = pathLength name + pathLength other := by
  rw [pathLength, List.flatMap_append, List.length_append]
  rfl

theorem CanonicalName.pathLength_replicate (n : Nat) (name : FileName) :
    pathLength (.replicate n name) = n * (name.bytes.length + 1) := by
  induction n with
  | zero => simp
  | succ n ih =>
    rw [List.replicate_succ, pathLength_cons, ih, Nat.succ_mul]
    omega

namespace FileTree

section Bounds
variable {t : FileTree} {path : Path} {links left : Nat} {place target : CanonicalName}
  {pieces : List FileName}

theorem pathLength_of_leads (leads : Leads t.root t.lookingUpFromRoot links place pieces left target)
    (short : CanonicalName.pathLength place ≤ maxPathBytes) :
    CanonicalName.pathLength target ≤ maxPathBytes := by
  -- Names are only added where the longer name is looked up from the root.
  induction leads with
  | done => exact short
  | empty _ _ ih => exact ih short
  | here _ _ _ ih => exact ih short
  | @up _ _ place _ _ _ _ _ _ ih =>
    obtain ⟨last, split⟩ := List.dropLast_prefix place
    rw [← split, CanonicalName.pathLength_append] at short
    exact ih (Nat.le_of_add_right_le short)
  | link _ _ _ _ ih =>
    refine ih ?_
    split_ifs
    · exact Nat.zero_le _
    · exact short
  | entry _ looked _ _ _ ih =>
    have free := looked.free
    rw [lookingUpFromRoot, if_neg (not_or.mpr ⟨looked.notHere, looked.notUp⟩)] at free
    split_ifs at free with long
    exact ih (Nat.le_of_not_lt long)

/-- A canonical name that is to be had is not too long. -/
theorem pathLength_of_realPath (real : t.realPath path = .ok target)
    (short : CanonicalName.pathLength t.workDir ≤ maxPathBytes) :
    CanonicalName.pathLength target ≤ maxPathBytes := by
  obtain ⟨_, _, _, leads⟩ := followPath_eq_ok_iff.mp real
  refine pathLength_of_leads leads ?_
  split_ifs
  · exact Nat.zero_le _
  · exact short

/-- What lies too deep is told apart by the path that leads to it. -/
theorem key_of_deep (led : t.followPath path unobstructed = .ok target)
    (short : CanonicalName.pathLength t.workDir ≤ maxPathBytes)
    (deep : maxPathBytes < CanonicalName.pathLength target) : t.key path = .spelled path := by
  unfold key
  split
  · next name real =>
    have same := Except.ok.inj ((followPath_unobstructed real).symm.trans led)
    exact absurd (same ▸ pathLength_of_realPath real short) (Nat.not_le_of_lt deep)
  · rfl

end Bounds

end FileTree

/-! ## Nested directories -/

/-- A node behind directories that lie in each other, each the only entry of the one around it. -/
def Node.nested : List FileName → Node → Node
  | [], node => node
  | name :: rest, node => .directory [(name, nested rest node)]

namespace Node

section Nested
variable {names : List FileName} {node : Node} {entries : List (FileName × Node)}

theorem at?_nested (names : List FileName) (node : Node) : (nested names node).at? names = some node := by
  induction names with
  | nil => rfl
  | cons name rest ih => simp [nested, at?, child?, ih]

theorem wellNamed_nested (wellNamed : node.WellNamed) (names_ : ∀ name ∈ names, IsName name) :
    (nested names node).WellNamed := by
  induction names with
  | nil => exact wellNamed
  | cons name rest ih =>
    obtain ⟨first, others⟩ := List.forall_mem_cons.mp names_
    exact .directory (List.forall_mem_singleton.mpr first) (List.nodup_singleton name)
      (List.forall_mem_singleton.mpr (ih others))

theorem nested_append (names more : List FileName) (node : Node) :
    nested (names ++ more) node = nested names (nested more node) := by
  induction names with
  | nil => rfl
  | cons name rest ih => rw [List.cons_append, nested, nested, ih]

theorem exists_nested_eq (names : List FileName) (entries : List (FileName × Node)) :
    ∃ inside, nested names (.directory entries) = .directory inside := by
  cases names with
  | nil => exact ⟨entries, rfl⟩
  | cons name rest => exact ⟨_, rfl⟩

theorem hasDirectory_nested (names : List FileName) (entries : List (FileName × Node)) :
    (nested names (.directory entries)).HasDirectory names := by
  induction names with
  | nil => exact .here
  | cons name rest ih =>
    obtain ⟨inside, same⟩ := exists_nested_eq rest entries
    rw [same] at ih
    exact .inside (by simp [same]) ih

/-- Directories without files have no case files. -/
theorem not_hasCaseFile_nested (names found : List FileName) :
    ¬ (nested names (.directory [])).HasCaseFile found := by
  induction names generalizing found with
  | nil => rintro (⟨⟨⟩⟩ | ⟨⟨⟩⟩)
  | cons name rest ih =>
    obtain ⟨inside, same⟩ := exists_nested_eq rest []
    rw [nested, same]
    intro has
    cases has with
    | here entry _ => simp at entry
    | inside entry below =>
      obtain ⟨-, rfl⟩ : _ ∧ _ = inside := by simpa using entry
      exact ih _ (same ▸ below)

end Nested

end Node

namespace Suite

/-- A directory below which some path is too long cannot be walked. -/
theorem not_isWalkable_of_deep {t : FileTree} {path : Path} {place : CanonicalName} {node : Node}
    {names : List FileName} (resolved : t.resolve path = .ok place) (at_ : t.root.at? place = some node)
    (has : node.HasDirectory names)
    (deep : FileTree.maxPathBytes + names.length < path.bytes.length + CanonicalName.pathLength names) :
    ¬ IsWalkable t path := by
  intro walkable
  obtain ⟨listed, listing⟩ := walkable place node names resolved at_ has
  have long : FileTree.maxPathBytes < (path.join names).bytes.length := by
    have := (Path.length_join_bounds path names).1
    omega
  have unresolved : t.resolve (path.join names) = .error .nameTooLong := if_pos long
  rw [FileTree.listing, unresolved] at listing
  cases listing

/-! ## A link into the deep -/

/-- A name of which no more than twenty fit into a path. -/
def longName (byte : UInt8) : FileName := ⟨.replicate 200 byte⟩

/-- A tree with a node behind twenty-one directories, too deep for a path from the root, and with
a link to the eleventh of them. -/
def deepTree (node : Node) : FileTree :=
  { root := .directory
      [(longName 0x61,
          .nested (.replicate 10 (longName 0x61)) (.nested (.replicate 10 (longName 0x62)) node)),
        ("l", .link ((longName 0x61).join (.replicate 10 (longName 0x61))))] }

section Deep
variable {node : Node}

theorem length_longName (byte : UInt8) : (longName byte).bytes.length = 200 :=
  List.length_replicate

theorem isName_longName {byte : UInt8} (plain : byte ≠ Path.slash ∧ byte ≠ 0) :
    IsName (longName byte) := by
  have length := length_longName byte
  refine ⟨?_, ?_, ?_, ?_, ?_, ?_⟩
  · exact fun same => absurd (congrArg (·.bytes.length) same) (by simp [length, Path.empty])
  · exact fun same => absurd (congrArg (·.bytes.length) same) (by simp [length, Path.here])
  · exact fun same => absurd (congrArg (·.bytes.length) same) (by simp [length, Path.up])
  · exact fun mem => plain.1 (List.eq_of_mem_replicate mem).symm
  · exact fun mem => plain.2 (List.eq_of_mem_replicate mem).symm
  · rw [length]
    decide

theorem isName_a : IsName (longName 0x61) := isName_longName (by decide)

theorem isName_b : IsName (longName 0x62) := isName_longName (by decide)

theorem isName_l : IsName "l" := by constructor <;> decide

theorem wellNamed_deepTree (wellNamed : node.WellNamed) : (deepTree node).root.WellNamed := by
  have inside : (Node.nested (.replicate 10 (longName 0x62)) node).WellNamed :=
    Node.wellNamed_nested wellNamed fun name mem => List.eq_of_mem_replicate mem ▸ isName_b
  have outside : (Node.nested (.replicate 10 (longName 0x61)) _).WellNamed :=
    Node.wellNamed_nested inside fun name mem => List.eq_of_mem_replicate mem ▸ isName_a
  refine .directory ?_ ?_ ?_
  · simp [isName_a, isName_l]
  · have differ : longName 0x61 ≠ "l" := by decide
    simp [differ]
  · exact List.forall_mem_cons.mpr ⟨outside, List.forall_mem_singleton.mpr (.link _)⟩

theorem at?_deepTree (node : Node) : (deepTree node).root.at? (.replicate 11 (longName 0x61)) =
    some (.nested (.replicate 10 (longName 0x62)) node) := by
  rw [List.replicate_succ]
  simp [deepTree, Node.at?, Node.child?, Node.at?_nested]

/-- The link leads to the eleventh directory, with or without a dot in front. -/
theorem followPath_link (wellNamed : node.WellNamed) {path : Path} (spelled : path = "l" ∨ path = "./l") :
    (deepTree node).followPath path FileTree.unobstructed = .ok (.replicate 11 (longName 0x61)) := by
  have looked : FileTree.IsLookedUp FileTree.unobstructed [] "l" :=
    ⟨isName_l.nonempty, rfl, isName_l.notHere, isName_l.notUp, isName_l.short⟩
  have opened : (longName 0x61).pieces.getLast? ≠ some .empty := by
    rw [isName_a.pieces]
    exact fun same => isName_a.nonempty (Option.some.inj same)
  have leads : FileTree.Leads (deepTree node).root FileTree.unobstructed FileTree.maxLinks [] ["l"] 39
      (.replicate 11 (longName 0x61)) := by
    have target : FileTree.Leads (deepTree node).root FileTree.unobstructed 39 []
        (.replicate 11 (longName 0x61)) 39 ([] ++ .replicate 11 (longName 0x61)) :=
      FileTree.leads_names (wellNamed_deepTree wellNamed) (Node.at?_root _) (at?_deepTree node)
        (by simp [Node.nested, List.replicate])
    refine @FileTree.Leads.link _ _ 39 39 _ _ _ _ _ _ rfl looked rfl ?_
    rw [Path.pieces_join_of_open opened fun name mem => List.eq_of_mem_replicate mem ▸ isName_a,
      isName_a.pieces, List.append_nil]
    exact target
  rcases spelled with rfl | rfl
  · exact FileTree.followPath_eq_ok_iff.mpr ⟨by decide, by decide, 39, leads⟩
  · exact FileTree.followPath_eq_ok_iff.mpr ⟨by decide, by decide, 39, .here rfl rfl leads⟩

/-! ### Directories that cannot all be listed -/

theorem resolve_deepTree (node : Node) : (deepTree node).resolve (longName 0x61) = .ok [longName 0x61] := by
  have entry : List.lookup (longName 0x61) [(longName 0x61,
      Node.nested (.replicate 10 (longName 0x61)) (.nested (.replicate 10 (longName 0x62)) node)),
      (("l" : Path), .link ((longName 0x61).join (.replicate 10 (longName 0x61))))] = some _ :=
    List.lookup_cons_self
  exact FileTree.resolve_entry isName_a rfl rfl entry (by simp [Node.nested, List.replicate])

/-- The first of the directories by itself, if nothing lies in the last one. -/
theorem at?_deepDirectories : (deepTree (.directory [])).root.at? [longName 0x61] =
    some (.nested (.replicate 10 (longName 0x61) ++ .replicate 10 (longName 0x62)) (.directory [])) := by
  rw [Node.nested_append]
  simp [deepTree, Node.at?, Node.child?]

theorem not_isWalkable_deepDirectories : ¬ IsWalkable (deepTree (.directory [])) (longName 0x61) := by
  refine not_isWalkable_of_deep (resolve_deepTree _) at?_deepDirectories (Node.hasDirectory_nested _ []) ?_
  rw [CanonicalName.pathLength_append, CanonicalName.pathLength_replicate,
    CanonicalName.pathLength_replicate, length_longName, length_longName]
  decide

theorem isCasePath_deepDirectories : IsCasePath (deepTree (.directory [])) (longName 0x61) := by
  obtain ⟨entries, directory⟩ := Node.exists_nested_eq
    (.replicate 10 (longName 0x61) ++ .replicate 10 (longName 0x62)) []
  exact ⟨_, resolve_deepTree _, .inl ⟨entries, at?_deepDirectories.trans (congrArg some directory)⟩⟩

theorem not_contributes_deepDirectories (spelling : Path) (name : CanonicalName) :
    ¬ Contributes (deepTree (.directory [])) (longName 0x61) spelling name := by
  obtain ⟨entries, directory⟩ := Node.exists_nested_eq
    (.replicate 10 (longName 0x61) ++ .replicate 10 (longName 0x62)) []
  have at_ := at?_deepDirectories
  intro contributes
  cases contributes with
  | file resolved at_' =>
    cases (resolve_deepTree _).symm.trans resolved
    rw [at_, directory] at at_'
    cases at_'
  | walked resolved at_' has =>
    cases (resolve_deepTree _).symm.trans resolved
    rw [at_] at at_'
    exact Node.not_hasCaseFile_nested _ _ (Option.some.inj at_' ▸ has)

/-! ### A file behind the link -/

/-- The deep tree whose only file `a.json` has this text. -/
def deepFileTree (text : String) : FileTree :=
  deepTree (.directory [("a.json", .file text.toByteArray)])

/-- The names behind the link that lead to the file. -/
def deepNames : List FileName := List.replicate 10 (longName 0x62) ++ [("a.json" : Path)]

variable {text : String} {path : Path}

theorem isName_of_mem_deepNames {name : FileName} (mem : name ∈ deepNames) : IsName name := by
  unfold deepNames at mem
  rcases List.mem_append.mp mem with directory | file
  · exact List.eq_of_mem_replicate directory ▸ isName_b
  · rw [List.mem_singleton.mp file]
    constructor <;> decide

theorem pathLength_deepNames : CanonicalName.pathLength deepNames = 2017 := by
  rw [deepNames, CanonicalName.pathLength_append, CanonicalName.pathLength_replicate, length_longName]
  decide

theorem at?_deepFile (text : String) :
    (deepFileTree text).root.at? (.replicate 11 (longName 0x61) ++ deepNames) =
      some (.file text.toByteArray) := by
  rw [Node.at?_append, deepFileTree, at?_deepTree, Option.bind_some, deepNames, Node.at?_append,
    Node.at?_nested]
  rfl

theorem followPath_deepFile (text : String) (spelled : path = "l" ∨ path = "./l") :
    (deepFileTree text).followPath (path.join deepNames) FileTree.unobstructed =
      .ok (.replicate 11 (longName 0x61) ++ deepNames) := by
  have file : IsName "a.json" := by constructor <;> decide
  have wellNamed : Node.WellNamed (.directory [("a.json", .file text.toByteArray)]) :=
    .directory (List.forall_mem_singleton.mpr file) (List.nodup_singleton _)
      (List.forall_mem_singleton.mpr (.file _))
  have named : (Node.nested (.replicate 10 (longName 0x62))
      (.directory [("a.json", .file text.toByteArray)])).at? deepNames =
        some (.file text.toByteArray) := by
    rw [deepNames, Node.at?_append, Node.at?_nested]
    rfl
  exact FileTree.followPath_join (wellNamed_deepTree wellNamed) (followPath_link wellNamed spelled)
    (at?_deepTree _) named (by simp) fun _ => isName_of_mem_deepNames

theorem resolve_deepFile (text : String) (spelled : path = "l" ∨ path = "./l") :
    (deepFileTree text).resolve (path.join deepNames) =
      .ok (.replicate 11 (longName 0x61) ++ deepNames) := by
  have short : path.bytes.length + CanonicalName.pathLength deepNames ≤ FileTree.maxPathBytes := by
    rw [pathLength_deepNames]
    rcases spelled with rfl | rfl <;> decide
  exact FileTree.resolve_of_unobstructed (fun _ => rfl)
    (Nat.le_trans (Path.length_join_bounds path deepNames).2 short) (followPath_deepFile text spelled)

theorem readText_deepFile (text : String) (spelled : path = "l" ∨ path = "./l") :
    (deepFileTree text).readText (path.join deepNames) = .ok text :=
  FileTree.readText_of_resolve (resolve_deepFile text spelled) rfl (at?_deepFile text)

/-- The file has no canonical name to be had, so each path to it is a file of its own. -/
theorem collectFiles_deepFile (text : String) :
    collectFiles (deepFileTree text) [Path.join "l" deepNames, Path.join "./l" deepNames] =
      .ok [⟨Path.join "l" deepNames, .spelled (Path.join "l" deepNames)⟩,
        ⟨Path.join "./l" deepNames, .spelled (Path.join "./l" deepNames)⟩] := by
  have deep : FileTree.maxPathBytes <
      CanonicalName.pathLength (.replicate 11 (longName 0x61) ++ deepNames) := by
    rw [CanonicalName.pathLength_append, pathLength_deepNames, CanonicalName.pathLength_replicate,
      length_longName]
    decide
  have expanded {path : Path} (spelled : path = "l" ∨ path = "./l") :
      expand (deepFileTree text) (path.join deepNames) =
        .ok [⟨path.join deepNames, .spelled (path.join deepNames)⟩] := by
    rw [expand_of_file (resolve_deepFile text spelled) (at?_deepFile text), caseFile,
      FileTree.key_of_deep (followPath_deepFile text spelled) (Nat.zero_le _) deep]
  have differ : FileKey.spelled (Path.join "./l" deepNames) ≠ .spelled (Path.join "l" deepNames) := by
    have pieces {path : Path} (opened : path.pieces.getLast? ≠ some .empty) :=
      Path.pieces_join_of_open opened fun _ => isName_of_mem_deepNames
    have first : Path.pieces "./l" = [Path.here, ("l" : Path)] := by decide
    have second : Path.pieces "l" = [("l" : Path)] := by decide
    intro same
    have heads := congrArg (·.pieces.head?) same
    simp [FileKey.spelled, pieces, first, second, isName_l.notHere, isName_l.nonempty] at heads
    exact isName_l.notHere heads.symm
  rw [collectFiles, collect, expandAll, List.map_cons, List.map_singleton, expanded (.inl rfl),
    expanded (.inr rfl)]
  simp [gather, Except.map, Except.mapError, firstSpellings, differ]

end Deep

end Suite

end ValueOrder
