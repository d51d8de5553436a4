import Mathlib.Data.List.Basic
import ValueOrder.Proofs.Files.Paths
import ValueOrder.Suite.Collection

/-!
# Walking directories

A directory contributes exactly the case files that its real subdirectories lead to, and the
walk fails exactly if one of these directories cannot be listed. In a well-named tree the path
that names such a file leads to that file, and so it is told apart by the names from the root.
-/

namespace ValueOrder

namespace Node

/-- Induction with the hypothesis for every entry of a directory. -/
@[elab_as_elim]
theorem tree_induction {P : Node → Prop} (file : ∀ content, P (.file content))
    (directory : ∀ entries, (∀ e ∈ entries, P e.2) → P (.directory entries))
    (link : ∀ target, P (.link target)) (node : Node) : P node := by
  refine @Node.rec P (fun entries => ∀ e ∈ entries, P e.2) (fun e => P e.2) file directory link
    ?_ ?_ ?_ node
  · exact nofun
  · exact fun _ _ first rest => List.forall_mem_cons.mpr ⟨first, rest⟩
  · exact fun _ _ inside => inside

/-- A case file below a directory, by the names that lead to it. Only directories are
entered, and links are neither files nor directories. -/
inductive HasCaseFile : Node → List FileName → Prop where
  | here {entries : List (FileName × Node)} {name : FileName} {content : ByteArray}
      (entry : (name, .file content) ∈ entries) (extension : Suite.hasCaseExtension name) :
      HasCaseFile (.directory entries) [name]
  | inside {entries inner : List (FileName × Node)} {name : FileName} {names : List FileName}
      (entry : (name, .directory inner) ∈ entries) (below : HasCaseFile (.directory inner) names) :
      HasCaseFile (.directory entries) (name :: names)

/-- A directory itself or one below it, by the names that lead to it. -/
inductive HasDirectory : Node → List FileName → Prop where
  | here {entries : List (FileName × Node)} : HasDirectory (.directory entries) []
  | inside {entries inner : List (FileName × Node)} {name : FileName} {names : List FileName}
      (entry : (name, .directory inner) ∈ entries) (below : HasDirectory (.directory inner) names) :
      HasDirectory (.directory entries) (name :: names)

end Node

namespace Suite

/-! ## Gathering -/

section Gathering
variable {ε α : Type} {results : List (Except ε (List α))} {xs : List α} {e : ε}

theorem gather_eq_ok_iff :
    gather results = .ok xs ↔ ∃ parts : List (List α), results = parts.map .ok ∧ xs = parts.flatten := by
  induction results generalizing xs with
  | nil =>
    constructor
    · rintro ⟨⟩
      exact ⟨[], rfl, rfl⟩
    · rintro ⟨parts, same, rfl⟩
      rw [List.map_eq_nil_iff.mp same.symm]
      rfl
  | cons first rest ih =>
    cases first with
    | error e =>
      constructor
      · rintro ⟨⟩
      · rintro ⟨parts, same, _⟩
        cases parts <;> cases same
    | ok part =>
      have split : gather (.ok part :: rest) = .ok xs ↔
          ∃ others, gather rest = .ok others ∧ xs = part ++ others := by
        rw [gather]
        cases gather rest <;> simp [Except.map, eq_comm]
      rw [split]
      constructor
      · rintro ⟨others, gathered, rfl⟩
        obtain ⟨parts, rfl, rfl⟩ := ih.mp gathered
        exact ⟨part :: parts, rfl, rfl⟩
      · rintro ⟨parts, same, rfl⟩
        cases parts with
        | nil => cases same
        | cons first others =>
          cases same
          exact ⟨others.flatten, ih.mpr ⟨others, rfl, rfl⟩, rfl⟩

/-- The first error is the one that counts. -/
theorem gather_eq_error_iff : gather results = .error e ↔
    ∃ (before : List (List α)) (after : List (Except ε (List α))),
      results = before.map .ok ++ .error e :: after := by
  induction results with
  | nil => simp [gather]
  | cons first rest ih =>
    cases first with
    | error d =>
      rw [gather]
      constructor
      · rintro ⟨⟩
        exact ⟨[], rest, rfl⟩
      · rintro ⟨before, after, same⟩
        cases before with
        | nil =>
          cases same
          rfl
        | cons part before => cases same
    | ok part =>
      have onward : gather (.ok part :: rest) = .error e ↔ gather rest = .error e := by
        rw [gather]
        cases gather rest <;> simp [Except.map]
      rw [onward, ih]
      constructor
      · rintro ⟨before, after, rfl⟩
        exact ⟨part :: before, after, rfl⟩
      · rintro ⟨before, after, same⟩
        cases before with
        | nil => cases same
        | cons other before =>
          obtain ⟨_, rest⟩ := List.cons.inj same
          exact ⟨before, after, rest⟩

theorem mem_gather_iff {x : α} (gathered : gather results = .ok xs) :
    x ∈ xs ↔ ∃ part, .ok part ∈ results ∧ x ∈ part := by
  obtain ⟨parts, rfl, rfl⟩ := gather_eq_ok_iff.mp gathered
  simp [List.mem_flatten]

theorem exists_of_mem_of_gather (gathered : gather results = .ok xs) {result : Except ε (List α)}
    (mem : result ∈ results) : ∃ part, result = .ok part := by
  obtain ⟨parts, rfl, _⟩ := gather_eq_ok_iff.mp gathered
  obtain ⟨part, _, rfl⟩ := List.mem_map.mp mem
  exact ⟨part, rfl⟩

theorem gather_append {others : List (Except ε (List α))} {ys : List α}
    (first : gather results = .ok xs) (second : gather others = .ok ys) :
    gather (results ++ others) = .ok (xs ++ ys) := by
  obtain ⟨parts, rfl, rfl⟩ := gather_eq_ok_iff.mp first
  obtain ⟨more, rfl, rfl⟩ := gather_eq_ok_iff.mp second
  exact gather_eq_ok_iff.mpr ⟨parts ++ more, List.map_append.symm, List.flatten_append.symm⟩

theorem error_mem_of_gather (failed : gather results = .error e) : .error e ∈ results := by
  obtain ⟨before, after, rfl⟩ := gather_eq_error_iff.mp failed
  exact List.mem_append_right _ (.head after)

end Gathering

/-! ## The walk -/

section Walking
variable {t : FileTree} {path p : Path} {node : Node} {entries : List (FileName × Node)}
  {files : List Path} {fault : WalkFault}

/-- What an entry of a directory contributes. -/
def entryFile (t : FileTree) (path : Path) (e : FileName × Node) : Except WalkFault (List Path) :=
  match e.2 with
  | .file _ => .ok (if hasCaseExtension e.1 then [path.push e.1] else [])
  | node => caseFiles t (path.push e.1) node

theorem entryFiles_eq_map (t : FileTree) (path : Path) (entries : List (FileName × Node)) :
    entryFiles t path entries = entries.map fun e => (e.1, entryFile t path e) := by
  induction entries with
  | nil => rfl
  | cons e rest ih =>
    obtain ⟨name, node⟩ := e
    cases node <;> simp [entryFiles, entryFile, ih]

/-- A directory that can be listed contributes what its entries do. Sorting them loses none and
adds none. -/
theorem caseFiles_directory {listed : List (FileName × Node)} (listing : t.listing path = .ok listed)
    (entries : List (FileName × Node)) : ∃ results, caseFiles t path (.directory entries) = gather results ∧
      ∀ result, result ∈ results ↔ ∃ e ∈ entries, result = entryFile t path e := by
  rw [caseFiles, listing]
  refine ⟨_, rfl, fun result => ?_⟩
  simp only [List.mem_map, List.mem_mergeSort, entryFiles_eq_map]
  constructor
  · rintro ⟨_, ⟨e, mem, rfl⟩, rfl⟩
    exact ⟨e, mem, rfl⟩
  · rintro ⟨e, mem, rfl⟩
    exact ⟨_, ⟨e, mem, rfl⟩, rfl⟩

theorem caseFiles_of_not_listed {e : FileError} (failed : t.listing path = .error e)
    (entries : List (FileName × Node)) :
    caseFiles t path (.directory entries) = .error ⟨path, e⟩ := by
  rw [caseFiles, failed]

theorem listed_of_caseFiles (found : caseFiles t path (.directory entries) = .ok files) :
    ∃ listed, t.listing path = .ok listed := by
  cases listing : t.listing path with
  | ok listed => exact ⟨listed, rfl⟩
  | error e =>
    rw [caseFiles_of_not_listed listing] at found
    cases found

/-- The walk stops at a directory that cannot be listed. -/
theorem exists_of_walkFault (failed : caseFiles t path node = .error fault) :
    ∃ names, node.HasDirectory names ∧ fault.directory = path.join names ∧
      t.listing fault.directory = .error fault.error := by
  induction node using Node.tree_induction generalizing path with
  | file content => simp [caseFiles] at failed
  | link target => simp [caseFiles] at failed
  | directory entries ih =>
    cases listing : t.listing path with
    | error e =>
      rw [caseFiles_of_not_listed listing] at failed
      cases failed
      exact ⟨[], .here, rfl, listing⟩
    | ok listed =>
      obtain ⟨results, same, contributed⟩ := caseFiles_directory listing entries
      rw [same] at failed
      obtain ⟨⟨name, child⟩, entry, inside⟩ := (contributed _).mp (error_mem_of_gather failed)
      cases child with
      | file content => cases inside
      | link target => simp [entryFile, caseFiles] at inside
      | directory inner =>
        obtain ⟨names, has, directory, unlisted⟩ := ih _ entry inside.symm
        exact ⟨name :: names, .inside entry has, directory, unlisted⟩

/-- All directories below one that was walked could be listed. -/
theorem listed_of_hasDirectory {names : List FileName} (has : node.HasDirectory names)
    (found : caseFiles t path node = .ok files) :
    ∃ listed, t.listing (path.join names) = .ok listed := by
  induction has generalizing path files with
  | here => exact listed_of_caseFiles found
  | @inside entries inner name names entry below ih =>
    obtain ⟨listed, listing⟩ := listed_of_caseFiles found
    obtain ⟨results, same, contributed⟩ := caseFiles_directory listing entries
    rw [same] at found
    obtain ⟨part, walked⟩ :=
      exists_of_mem_of_gather found ((contributed _).mpr ⟨_, entry, rfl⟩)
    exact ih walked

/-- A directory is walked exactly if it and all directories below it can be listed. -/
theorem exists_caseFiles_iff : (∃ files, caseFiles t path node = .ok files) ↔
    ∀ names, node.HasDirectory names → ∃ listed, t.listing (path.join names) = .ok listed := by
  constructor
  · rintro ⟨files, found⟩ names has
    exact listed_of_hasDirectory has found
  · intro listed
    cases found : caseFiles t path node with
    | ok files => exact ⟨files, rfl⟩
    | error fault =>
      obtain ⟨names, has, directory, unlisted⟩ := exists_of_walkFault found
      obtain ⟨entries, listing⟩ := listed names has
      rw [directory, listing] at unlisted
      cases unlisted

/-- The walk finds exactly the case files below a directory. -/
theorem mem_caseFiles_iff (found : caseFiles t path node = .ok files) :
    p ∈ files ↔ ∃ names, node.HasCaseFile names ∧ p = path.join names := by
  induction node using Node.tree_induction generalizing path files with
  | file content =>
    cases found
    simp only [List.not_mem_nil, false_iff, not_exists, not_and]
    rintro _ ⟨⟩
  | link target =>
    cases found
    simp only [List.not_mem_nil, false_iff, not_exists, not_and]
    rintro _ ⟨⟩
  | directory entries ih =>
    obtain ⟨listed, listing⟩ := listed_of_caseFiles found
    obtain ⟨results, same, contributed⟩ := caseFiles_directory listing entries
    rw [same] at found
    rw [mem_gather_iff found]
    simp only [contributed]
    constructor
    · rintro ⟨part, ⟨⟨name, child⟩, entry, inside⟩, mem⟩
      cases child with
      | file content =>
        cases inside
        by_cases extension : hasCaseExtension name
        · simp only [extension, if_true, List.mem_singleton] at mem
          exact ⟨[name], .here entry extension, mem⟩
        · simp [extension] at mem
      | link target =>
        cases inside
        cases mem
      | directory inner =>
        obtain ⟨names, has, rfl⟩ := (ih _ entry inside.symm).mp mem
        exact ⟨name :: names, .inside entry has, rfl⟩
    · rintro ⟨names, has, rfl⟩
      cases has with
      | @here _ name content entry extension =>
        refine ⟨_, ⟨_, entry, rfl⟩, ?_⟩
        simp [extension, Path.join]
      | @inside _ inner name names entry below =>
        obtain ⟨part, walked⟩ :=
          exists_of_mem_of_gather found ((contributed _).mpr ⟨_, entry, rfl⟩)
        exact ⟨part, ⟨_, entry, walked.symm⟩, (ih _ entry walked).mpr ⟨names, below, rfl⟩⟩

end Walking

end Suite

/-! ## The paths of case files -/

namespace Node

section Below
variable {root node : Node} {names : List FileName}

theorem HasCaseFile.isName (has : node.HasCaseFile names) (wellNamed : node.WellNamed) :
    ∀ name ∈ names, IsName name := by
  induction has with
  | here entry extension =>
    cases wellNamed with
    | directory allNames _ _ => exact List.forall_mem_singleton.mpr (allNames _ entry)
  | inside entry _ ih =>
    cases wellNamed with
    | directory allNames _ inside =>
      exact List.forall_mem_cons.mpr ⟨allNames _ entry, ih (inside _ entry)⟩

theorem HasDirectory.isName (has : node.HasDirectory names) (wellNamed : node.WellNamed) :
    ∀ name ∈ names, IsName name := by
  induction has with
  | here => exact nofun
  | inside entry _ ih =>
    cases wellNamed with
    | directory allNames _ inside =>
      exact List.forall_mem_cons.mpr ⟨allNames _ entry, ih (inside _ entry)⟩

/-- The names of a case file lead from its directory to it. -/
theorem HasCaseFile.at? (has : node.HasCaseFile names) (wellNamed : node.WellNamed) :
    ∃ content, node.at? names = some (.file content) := by
  induction has with
  | @here entries name content entry extension =>
    cases wellNamed with
    | directory _ distinct _ =>
      exact ⟨content, by simp [Node.at?, child?, lookup_of_mem distinct entry]⟩
  | @inside entries inner name names entry below ih =>
    cases wellNamed with
    | directory _ distinct inside =>
      obtain ⟨content, found⟩ := ih (inside _ entry)
      exact ⟨content, by simp [Node.at?, child?, lookup_of_mem distinct entry, found]⟩

theorem HasDirectory.at? (has : node.HasDirectory names) (wellNamed : node.WellNamed) :
    ∃ entries, node.at? names = some (.directory entries) := by
  induction has with
  | @here entries => exact ⟨entries, rfl⟩
  | @inside entries inner name names entry below ih =>
    cases wellNamed with
    | directory _ distinct inside =>
      obtain ⟨found, at_⟩ := ih (inside _ entry)
      exact ⟨found, by simp [Node.at?, child?, lookup_of_mem distinct entry, at_]⟩

end Below

end Node

namespace FileTree

section Joined
variable {t : FileTree} {path : Path} {obstacle : Obstacle} {place : CanonicalName}
  {node found : Node} {names : List FileName}

theorem clean_join (clean : 0 ∉ path.bytes) (nonempty : path ≠ .empty)
    (names_ : ∀ name ∈ names, IsName name) :
    0 ∉ (path.join names).bytes ∧ path.join names ≠ .empty ∧
      (path.join names).isRooted = path.isRooted := by
  induction names generalizing path with
  | nil => exact ⟨clean, nonempty, rfl⟩
  | cons name rest ih =>
    obtain ⟨first, others⟩ := List.forall_mem_cons.mp names_
    obtain ⟨clean, nonempty', rooted⟩ := ih (Path.zero_notMem_push clean first.noNul)
      (Path.push_ne_empty nonempty) others
    exact ⟨clean, nonempty', rooted.trans (Path.isRooted_push nonempty)⟩

/-- In a well-named tree the path of what lies below a directory leads to it, if nothing is in
the way. -/
theorem followPath_join (wellNamed : t.root.WellNamed) (led : t.followPath path unobstructed = .ok place)
    (at_ : t.root.at? place = some node) (named : node.at? names = some found)
    (notLink : ∀ aim, found ≠ .link aim) (names_ : ∀ name ∈ names, IsName name) :
    t.followPath (path.join names) unobstructed = .ok (place ++ names) := by
  obtain ⟨clean, nonempty, left, leads⟩ := followPath_eq_ok_iff.mp led
  have joined := clean_join clean nonempty names_
  refine followPath_eq_ok_iff.mpr ⟨joined.1, joined.2.1, ?_⟩
  rw [joined.2.2]
  cases names with
  | nil => exact ⟨left, by simpa [Path.join] using leads⟩
  | cons name rest =>
    obtain ⟨front, ends, pieces⟩ := Path.pieces_join path (names_ name (.head rest)).nonempty names_
    rw [pieces]
    rcases ends with same | closed
    · rw [same] at leads
      exact ⟨left, leads.append (leads_names wellNamed at_ named notLink)⟩
    · rw [closed] at leads
      obtain ⟨middle, between, first, last⟩ := exists_leads_of_append leads
      -- A separator at the end of the path leads nowhere else.
      have stays : place = middle := by
        cases last with
        | empty _ rest =>
          cases rest
          rfl
        | link _ looked => exact absurd rfl looked.nonempty
        | entry _ looked => exact absurd rfl looked.nonempty
      rw [← stays] at first
      exact ⟨between, first.append (leads_names wellNamed at_ named notLink)⟩

end Joined

end FileTree

end ValueOrder
