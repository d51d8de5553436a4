import ValueOrder.Proofs.Files.FirstSpellings
import ValueOrder.Proofs.Runs.Trials

/-!
# Collecting case files

The case files of path arguments are the files among the arguments and those below the
directories among them, each once. More arguments add files at the end and change nothing
before. An argument that leads nowhere is reported before anything is run.
-/

namespace ValueOrder.Suite

/-! ## What arguments stand for -/

/-- The path leads to a directory or to a regular file, links followed. -/
def IsCasePath (t : FileTree) (path : Path) : Prop :=
  ∃ place, t.resolve path = .ok place ∧
    ((∃ entries, t.root.at? place = some (.directory entries)) ∨
      ∃ content, t.root.at? place = some (.file content))

/-- If the path leads to a directory, it and all directories below it can be listed. -/
def IsWalkable (t : FileTree) (path : Path) : Prop :=
  ∀ place node names, t.resolve path = .ok place → t.root.at? place = some node →
    node.HasDirectory names → ∃ listed, t.listing (path.join names) = .ok listed

/-- The spellings and canonical names of the case files that an argument stands for: the path
itself if it leads to a file, or else what is below its directory. -/
inductive Contributes (t : FileTree) (path : Path) : Path → CanonicalName → Prop where
  | file {name : CanonicalName} {content : ByteArray} (resolved : t.resolve path = .ok name)
      (at_ : t.root.at? name = some (.file content)) : Contributes t path path name
  | walked {place : CanonicalName} {entries : List (FileName × Node)} {names : List FileName}
      (resolved : t.resolve path = .ok place) (at_ : t.root.at? place = some (.directory entries))
      (has : Node.HasCaseFile (.directory entries) names) :
      Contributes t path (path.join names) (place ++ names)

/-- The argument stands for the case file with this canonical name. -/
def StandsFor (t : FileTree) (path : Path) (name : CanonicalName) : Prop :=
  ∃ spelling, Contributes t path spelling name

/-- Nothing below the arguments is out of reach: names are names, all directories can be listed,
and every case file has a canonical name to be had. -/
structure Readable (t : FileTree) (paths : List Path) : Prop where
  wellNamed : t.root.WellNamed
  walkable : ∀ path ∈ paths, IsWalkable t path
  named : ∀ path ∈ paths, ∀ spelling name, Contributes t path spelling name →
    ∃ real, t.realPath spelling = .ok real

theorem Readable.of_subset {t : FileTree} {paths others : List Path} (readable : Readable t paths)
    (subset : others ⊆ paths) : Readable t others :=
  ⟨readable.wellNamed, fun path mem => readable.walkable path (subset mem),
    fun path mem => readable.named path (subset mem)⟩

section Collection
variable {t : FileTree} {path : Path} {paths others : List Path} {files added : List CaseFile}
  {f : CaseFile} {name : CanonicalName}

theorem expand_of_file {place : CanonicalName} {content : ByteArray}
    (resolved : t.resolve path = .ok place) (at_ : t.root.at? place = some (.file content)) :
    expand t path = .ok [caseFile t path] := by
  simp [expand, resolved, at_]

theorem expand_of_directory {place : CanonicalName} {entries : List (FileName × Node)}
    (resolved : t.resolve path = .ok place) (at_ : t.root.at? place = some (.directory entries)) :
    expand t path = match caseFiles t path (.directory entries) with
      | .error fault => .error (.notWalked path fault)
      | .ok walked => .ok (walked.map (caseFile t)) := by
  cases walked : caseFiles t path (.directory entries) with
  | error fault => simp [expand, resolved, at_, walked]
  | ok files => simp [expand, resolved, at_, walked]

theorem expand_of_not_isCasePath (absent : ¬ IsCasePath t path) :
    expand t path = .error (.missing path) := by
  unfold expand
  split
  · rfl
  · next place resolved =>
    split
    · next entries at_ => exact absurd ⟨place, resolved, .inl ⟨entries, at_⟩⟩ absent
    · next content at_ => exact absurd ⟨place, resolved, .inr ⟨content, at_⟩⟩ absent
    · rfl

theorem isWalkable_iff {place : CanonicalName} {entries : List (FileName × Node)}
    (resolved : t.resolve path = .ok place) (at_ : t.root.at? place = some (.directory entries)) :
    IsWalkable t path ↔ ∃ walked, caseFiles t path (.directory entries) = .ok walked := by
  rw [exists_caseFiles_iff]
  constructor
  · intro walkable names has
    exact walkable place _ names resolved at_ has
  · intro listed place' node names resolved' at_' has
    cases resolved.symm.trans resolved'
    cases at_.symm.trans at_'
    exact listed names has

/-- The files of an argument are found exactly if it leads somewhere and can be walked. -/
theorem exists_expand_iff :
    (∃ files, expand t path = .ok files) ↔ IsCasePath t path ∧ IsWalkable t path := by
  by_cases present : IsCasePath t path
  · rw [and_iff_right present]
    obtain ⟨place, resolved, ⟨entries, at_⟩ | ⟨content, at_⟩⟩ := present
    · rw [isWalkable_iff resolved at_, expand_of_directory resolved at_]
      cases caseFiles t path (.directory entries) <;> simp
    · rw [expand_of_file resolved at_]
      refine iff_of_true ⟨_, rfl⟩ fun place' node names resolved' at_' has => ?_
      cases resolved.symm.trans resolved'
      cases at_.symm.trans at_'
      cases has
  · rw [expand_of_not_isCasePath present]
    simp [present]

/-- An argument that leads somewhere fails at a directory that cannot be listed. -/
theorem expand_eq_error_of_present {e : CollectError} (present : IsCasePath t path)
    (failed : expand t path = .error e) : ¬ IsWalkable t path ∧
      ∃ fault, e = .notWalked path fault ∧ t.listing fault.directory = .error fault.error := by
  refine ⟨fun walkable => ?_, ?_⟩
  · obtain ⟨files, expanded⟩ := exists_expand_iff.mpr ⟨present, walkable⟩
    rw [expanded] at failed
    cases failed
  obtain ⟨place, resolved, ⟨entries, at_⟩ | ⟨content, at_⟩⟩ := present
  · rw [expand_of_directory resolved at_] at failed
    cases walked : caseFiles t path (.directory entries) with
    | ok files =>
      rw [walked] at failed
      cases failed
    | error fault =>
      rw [walked] at failed
      cases failed
      obtain ⟨_, _, _, unlisted⟩ := exists_of_walkFault walked
      exact ⟨fault, rfl, unlisted⟩
  · rw [expand_of_file resolved at_] at failed
    cases failed

/-- The files of an argument are those that it contributes. -/
theorem mem_expand_iff (expanded : expand t path = .ok files) :
    f ∈ files ↔ ∃ spelling name, Contributes t path spelling name ∧ f = caseFile t spelling := by
  obtain ⟨place, resolved, ⟨entries, at_⟩ | ⟨content, at_⟩⟩ := (exists_expand_iff.mp ⟨files, expanded⟩).1
  · rw [expand_of_directory resolved at_] at expanded
    cases walked : caseFiles t path (.directory entries) with
    | error fault =>
      rw [walked] at expanded
      cases expanded
    | ok found =>
      rw [walked] at expanded
      cases expanded
      rw [List.mem_map]
      constructor
      · rintro ⟨_, mem, rfl⟩
        obtain ⟨names, has, rfl⟩ := (mem_caseFiles_iff walked).mp mem
        exact ⟨_, _, .walked resolved at_ has, rfl⟩
      · rintro ⟨_, _, contributes, rfl⟩
        cases contributes with
        | file resolved' at_' =>
          cases resolved.symm.trans resolved'
          cases at_.symm.trans at_'
        | walked resolved' at_' has =>
          cases resolved.symm.trans resolved'
          cases at_.symm.trans at_'
          exact ⟨_, (mem_caseFiles_iff walked).mpr ⟨_, has, rfl⟩, rfl⟩
  · rw [expand_of_file resolved at_] at expanded
    cases expanded
    rw [List.mem_singleton]
    constructor
    · rintro rfl
      exact ⟨path, place, .file resolved at_, rfl⟩
    · rintro ⟨_, _, contributes, rfl⟩
      cases contributes with
      | file => rfl
      | walked resolved' at_' has =>
        cases resolved.symm.trans resolved'
        cases at_.symm.trans at_'

/-- In a well-named tree the path of a contributed file leads to it, if nothing is in the way. -/
theorem followPath_of_contributes {spelling : Path} (wellNamed : t.root.WellNamed)
    (contributes : Contributes t path spelling name) :
    t.followPath spelling FileTree.unobstructed = .ok name := by
  cases contributes with
  | file resolved at_ =>
    exact FileTree.followPath_unobstructed (FileTree.resolve_eq_ok_iff.mp resolved).2
  | @walked place entries names resolved at_ has =>
    have below := wellNamed.at? at_
    obtain ⟨content, named⟩ := has.at? below
    have led := FileTree.followPath_unobstructed (FileTree.resolve_eq_ok_iff.mp resolved).2
    exact FileTree.followPath_join wellNamed led at_ named (by simp) (has.isName below)

/-- The canonical name of a contributed file can only be its own. -/
theorem eq_of_contributes {spelling : Path} {real : CanonicalName} (wellNamed : t.root.WellNamed)
    (contributes : Contributes t path spelling name) (found : t.realPath spelling = .ok real) :
    real = name := by
  have led := followPath_of_contributes wellNamed contributes
  exact Except.ok.inj ((FileTree.followPath_unobstructed found).symm.trans led)

/-! ## Several arguments -/

theorem collectFiles_ok_iff_expandAll : collectFiles t paths = .ok files ↔
    ∃ all, expandAll t paths = .ok all ∧ firstSpellings [] all = files :=
  collectFiles_eq_ok_iff.trans collect_eq_ok_iff

/-- The collection succeeds exactly if each argument leads somewhere and can be walked. -/
theorem exists_collectFiles_iff : (∃ files, collectFiles t paths = .ok files) ↔
    ∀ path ∈ paths, IsCasePath t path ∧ IsWalkable t path := by
  have expanded : (∃ files, collectFiles t paths = .ok files) ↔ ∃ all, expandAll t paths = .ok all := by
    simp [collectFiles_ok_iff_expandAll]
  rw [expanded]
  constructor
  · rintro ⟨all, found⟩ path argument
    have result : expand t path ∈ paths.map (expand t) := List.mem_map_of_mem argument
    exact exists_expand_iff.mp (exists_of_mem_of_gather found result)
  · intro present
    cases found : expandAll t paths with
    | ok all => exact ⟨all, rfl⟩
    | error e =>
      obtain ⟨path, argument, failed⟩ := List.mem_map.mp (error_mem_of_gather found)
      obtain ⟨files, expanded⟩ := exists_expand_iff.mpr (present path argument)
      rw [expanded] at failed
      cases failed

/-- The collection fails for the first argument that leads nowhere or cannot be walked. -/
theorem exists_of_collectFiles_error {e : SuiteError} (refused : collectFiles t paths = .error e) :
    ∃ before path after, paths = before ++ path :: after ∧
      (∀ p ∈ before, IsCasePath t p ∧ IsWalkable t p) ∧
      (¬ IsCasePath t path ∧ e = .notCollected (.missing path) ∨
        IsCasePath t path ∧ ¬ IsWalkable t path ∧ ∃ fault,
          e = .notCollected (.notWalked path fault) ∧
            t.listing fault.directory = .error fault.error) := by
  have failed : ∃ d, expandAll t paths = .error d ∧ e = .notCollected d := by
    unfold collectFiles collect at refused
    cases found : expandAll t paths with
    | ok all =>
      rw [found] at refused
      cases refused
    | error d =>
      rw [found] at refused
      cases refused
      exact ⟨d, rfl, rfl⟩
  obtain ⟨d, failed, rfl⟩ := failed
  obtain ⟨parts, results, split⟩ := gather_eq_error_iff.mp failed
  obtain ⟨before, others, rfl, expandedAll, rest⟩ := List.map_eq_append_iff.mp split
  obtain ⟨path, after, rfl, here, _⟩ := List.map_eq_cons_iff.mp rest
  refine ⟨before, path, after, rfl, fun p mem => ?_, ?_⟩
  · have result : expand t p ∈ parts.map Except.ok := expandedAll ▸ List.mem_map_of_mem mem
    obtain ⟨files, _, expanded⟩ := List.mem_map.mp result
    exact exists_expand_iff.mp ⟨files, expanded.symm⟩
  · by_cases present : IsCasePath t path
    · obtain ⟨stuck, fault, rfl, unlisted⟩ := expand_eq_error_of_present present here
      exact .inr ⟨present, stuck, fault, rfl, unlisted⟩
    · rw [expand_of_not_isCasePath present] at here
      cases here
      exact .inl ⟨present, rfl⟩

/-! ## Readable trees -/

/-- A tree is readable if one has all rights and no path is too long, neither from the root nor
from an argument. -/
theorem readable_of_rights (wellNamed : t.root.WellNamed)
    (rights : ∀ name, t.mayRead name ∧ t.maySearch name)
    (named : ∀ name node, t.root.at? name = some node →
      CanonicalName.pathLength name ≤ FileTree.maxPathBytes)
    (listed : ∀ path ∈ paths, ∀ place node names, t.resolve path = .ok place →
      t.root.at? place = some node → node.HasDirectory names →
      (path.join names).bytes.length ≤ FileTree.maxPathBytes) : Readable t paths := by
  refine ⟨wellNamed, fun path argument place node names resolved at_ has => ?_,
    fun path argument spelling name contributes => ?_⟩
  · have below := wellNamed.at? at_
    obtain ⟨entries, found⟩ := has.at? below
    have led := FileTree.followPath_join wellNamed
      (FileTree.followPath_unobstructed (FileTree.resolve_eq_ok_iff.mp resolved).2) at_ found (by simp)
      (has.isName below)
    have joined : t.resolve (path.join names) = .ok (place ++ names) :=
      FileTree.resolve_of_unobstructed (fun name => (rights name).2)
        (listed path argument place node names resolved at_ has) led
    have there : t.root.at? (place ++ names) = some (.directory entries) := by
      rw [Node.at?_append, at_, Option.bind_some, found]
    refine ⟨entries, ?_⟩
    simp [FileTree.listing, joined, there, (rights _).1, bind, Except.bind]
  · refine ⟨name, FileTree.followPath_of_unobstructed (fun _ => ⟨rfl, rfl⟩) ?_
      (followPath_of_contributes wellNamed contributes)⟩
    rintro place piece _ _ ⟨node, at_⟩
    have short := Nat.not_lt_of_le (named _ node at_)
    simp [FileTree.lookingUpFromRoot, short, rights]

theorem Readable.exists_collectFiles (readable : Readable t paths)
    (present : ∀ path ∈ paths, IsCasePath t path) : ∃ files, collectFiles t paths = .ok files :=
  exists_collectFiles_iff.mpr fun path argument =>
    ⟨present path argument, readable.walkable path argument⟩

theorem Readable.collectFiles_fails_iff (readable : Readable t paths) :
    (∃ e, collectFiles t paths = .error e) ↔ ∃ path ∈ paths, ¬ IsCasePath t path := by
  constructor
  · rintro ⟨e, refused⟩
    by_contra all
    obtain ⟨files, collected⟩ := readable.exists_collectFiles fun path argument =>
      not_not.mp fun absent => all ⟨path, argument, absent⟩
    rw [collected] at refused
    cases refused
  · rintro ⟨path, argument, absent⟩
    cases collected : collectFiles t paths with
    | error e => exact ⟨e, rfl⟩
    | ok files => exact absurd (exists_collectFiles_iff.mp ⟨files, collected⟩ path argument).1 absent

/-- In a readable tree the collection fails for the first argument that leads nowhere. -/
theorem Readable.exists_missing (readable : Readable t paths) {e : SuiteError}
    (refused : collectFiles t paths = .error e) :
    ∃ before path after, paths = before ++ path :: after ∧ (∀ p ∈ before, IsCasePath t p) ∧
      ¬ IsCasePath t path ∧ e = .notCollected (.missing path) := by
  obtain ⟨before, path, after, rfl, earlier, reason⟩ := exists_of_collectFiles_error refused
  rcases reason with ⟨absent, rfl⟩ | ⟨_, stuck, _⟩
  · exact ⟨before, path, after, rfl, fun p mem => (earlier p mem).1, absent, rfl⟩
  · exact absurd (readable.walkable path (List.mem_append_right before (.head after))) stuck

/-- In a readable tree every collected file has a canonical name, by which it is told apart,
and some argument stands for it. -/
theorem Readable.exists_name_of_mem (readable : Readable t paths)
    (collected : collectFiles t paths = .ok files) (mem : f ∈ files) :
    ∃ name, t.realPath f.spelling = .ok name ∧ f.key = .canonical name ∧
      ∃ path ∈ paths, StandsFor t path name := by
  obtain ⟨all, expanded, rfl⟩ := collectFiles_ok_iff_expandAll.mp collected
  have among := (firstSpellings_sublist [] all).subset mem
  obtain ⟨path, argument, here, found, memHere⟩ := (mem_expandAll_iff expanded).mp among
  obtain ⟨spelling, name, contributes, rfl⟩ := (mem_expand_iff found).mp memHere
  obtain ⟨real, leads⟩ := readable.named path argument spelling name contributes
  cases eq_of_contributes readable.wellNamed contributes leads
  refine ⟨name, leads, ?_, path, argument, spelling, contributes⟩
  rw [caseFile, FileTree.key, leads]

/-- Every file that an argument contributes is collected under its key, possibly as spelled
otherwise. -/
theorem exists_mem_of_contributes {spelling : Path} (collected : collectFiles t paths = .ok files)
    (argument : path ∈ paths) (contributes : Contributes t path spelling name) :
    ∃ f ∈ files, f.key = t.key spelling := by
  obtain ⟨all, expanded, rfl⟩ := collectFiles_ok_iff_expandAll.mp collected
  obtain ⟨here, found⟩ := exists_expand_iff.mpr
    (exists_collectFiles_iff.mp ⟨_, collected⟩ path argument)
  have among : caseFile t spelling ∈ all := (mem_expandAll_iff expanded).mpr
    ⟨path, argument, here, found, (mem_expand_iff found).mpr ⟨spelling, name, contributes, rfl⟩⟩
  have kept := (mem_keys_firstSpellings (t.key spelling) [] all).mpr
    ⟨List.mem_map_of_mem among, nofun⟩
  exact List.mem_map.mp kept

/-- Every file that an argument stands for is collected, under some path. -/
theorem Readable.exists_mem_of_standsFor (readable : Readable t paths)
    (collected : collectFiles t paths = .ok files) (argument : path ∈ paths)
    (stands : StandsFor t path name) : ∃ f ∈ files, t.realPath f.spelling = .ok name := by
  obtain ⟨spelling, contributes⟩ := stands
  obtain ⟨f, member, same⟩ := exists_mem_of_contributes collected argument contributes
  obtain ⟨real, leads⟩ := readable.named path argument spelling name contributes
  cases eq_of_contributes readable.wellNamed contributes leads
  obtain ⟨other, leadsToo, named, _⟩ := readable.exists_name_of_mem collected member
  rw [named, FileTree.key, leads] at same
  exact ⟨f, member, FileKey.canonical_inj.mp same ▸ leadsToo⟩

/-- The canonical names of collected files are distinct, and they are those that arguments
stand for. -/
theorem Readable.exists_names (readable : Readable t paths)
    (collected : collectFiles t paths = .ok files) :
    ∃ names : List CanonicalName, (files.map fun f => t.realPath f.spelling) = names.map .ok ∧
      names.Nodup ∧ ∀ name, name ∈ names ↔ ∃ path ∈ paths, StandsFor t path name := by
  have pointed : ∀ f ∈ files, t.realPath f.spelling = .ok f.key.pieces := by
    intro f mem
    obtain ⟨name, leads, key, _⟩ := readable.exists_name_of_mem collected mem
    rw [leads, key]
    rfl
  refine ⟨files.map (·.key.pieces), ?_, ?_, fun name => ⟨?_, ?_⟩⟩
  · rw [List.map_map]
    exact List.map_congr_left pointed
  · refine List.Nodup.of_map FileKey.canonical ?_
    have keys : (files.map (·.key.pieces)).map FileKey.canonical = files.map (·.key) := by
      rw [List.map_map]
      refine List.map_congr_left fun f mem => ?_
      obtain ⟨name, _, key, _⟩ := readable.exists_name_of_mem collected mem
      rw [Function.comp_apply, key]
      rfl
    rw [keys]
    exact nodup_keys_collect (collectFiles_eq_ok_iff.mp collected)
  · intro mem
    obtain ⟨f, member, rfl⟩ := List.mem_map.mp mem
    obtain ⟨name, _, key, stands⟩ := readable.exists_name_of_mem collected member
    rw [key]
    exact stands
  · rintro ⟨path, argument, stands⟩
    obtain ⟨f, member, leads⟩ := readable.exists_mem_of_standsFor collected argument stands
    have same := (pointed f member).symm.trans leads
    cases same
    exact List.mem_map_of_mem member

/-- More arguments add the files that were not there, behind those that were. -/
theorem Readable.collectFiles_append (readable : Readable t (paths ++ others))
    (collected : collectFiles t paths = .ok files) (further : collectFiles t others = .ok added) :
    collectFiles t (paths ++ others) = .ok (files ++ added.filter fun f =>
      t.realPath f.spelling ∉ files.map fun g => t.realPath g.spelling) := by
  have left := readable.of_subset (List.subset_append_left paths others)
  have right := readable.of_subset (List.subset_append_right paths others)
  obtain ⟨all, expanded, kept⟩ := collectFiles_ok_iff_expandAll.mp collected
  obtain ⟨more, wider, keptMore⟩ := collectFiles_ok_iff_expandAll.mp further
  refine collectFiles_ok_iff_expandAll.mpr ⟨all ++ more, expandAll_append expanded wider, ?_⟩
  rw [firstSpellings_append, kept, keptMore]
  refine congrArg (files ++ ·) (List.filter_congr fun f member => decide_eq_decide.mpr ?_)
  obtain ⟨name, resolved, key, _⟩ := right.exists_name_of_mem further member
  -- Keys and resolved paths are both canonical names here, so either tells the files apart.
  have same : f.key ∈ all.map (·.key) ↔
      t.realPath f.spelling ∈ files.map fun g => t.realPath g.spelling := by
    have keys := mem_keys_firstSpellings f.key [] all
    rw [kept] at keys
    rw [← and_iff_left (a := f.key ∈ all.map (·.key)) (b := f.key ∉ []) nofun, ← keys,
      List.mem_map, List.mem_map]
    refine exists_congr fun g => and_congr_right fun memFiles => ?_
    obtain ⟨other, leads, named, _⟩ := left.exists_name_of_mem collected memFiles
    rw [named, key, leads, resolved, FileKey.canonical_inj, Except.ok.injEq]
  rw [same]
  exact ⟨fun both => both.2, fun absent => ⟨nofun, absent⟩⟩

/-- In a readable tree collection fails exactly for an argument that leads to neither a directory
nor a file, for the first such, and then nothing is run. Else the canonical names of the collected
files are distinct and are those that the arguments stand for, and arguments behind the others add
their files that are not yet there, in their order and under their paths. -/
theorem collection_complete_and_stable (t : FileTree) (paths others : List Path)
    (readable : Readable t (paths ++ others)) :
    ((∃ e, collectFiles t paths = .error e) ↔ ∃ path ∈ paths, ¬ IsCasePath t path) ∧
    (∀ e, collectFiles t paths = .error e →
      (∃ before path after, paths = before ++ path :: after ∧ (∀ p ∈ before, IsCasePath t p) ∧
        ¬ IsCasePath t path ∧ e = .notCollected (.missing path)) ∧
      ∀ failFast, run t paths failFast = ⟨[], .error e⟩) ∧
    ((∀ path ∈ paths, IsCasePath t path) →
      ∃ (files : List CaseFile) (names : List CanonicalName), collectFiles t paths = .ok files ∧
      (files.map fun f => t.realPath f.spelling) = names.map .ok ∧ names.Nodup ∧
      (∀ name, name ∈ names ↔ ∃ path ∈ paths, StandsFor t path name) ∧
      ((∀ path ∈ others, IsCasePath t path) → ∃ added, collectFiles t others = .ok added ∧
        collectFiles t (paths ++ others) = .ok (files ++ added.filter fun f =>
          t.realPath f.spelling ∉ files.map fun g => t.realPath g.spelling))) := by
  have left := readable.of_subset (List.subset_append_left paths others)
  refine ⟨left.collectFiles_fails_iff, fun e refused => ?_, fun present => ?_⟩
  · exact ⟨left.exists_missing refused, run_of_not_collected refused⟩
  · obtain ⟨files, collected⟩ := left.exists_collectFiles present
    obtain ⟨names, leads, distinct, complete⟩ := left.exists_names collected
    refine ⟨files, names, collected, leads, distinct, complete, fun further => ?_⟩
    have right := readable.of_subset (List.subset_append_right paths others)
    obtain ⟨added, collectedToo⟩ := right.exists_collectFiles further
    exact ⟨added, collectedToo, readable.collectFiles_append collected collectedToo⟩

end Collection

/-! ## Files in the working directory -/

section Entries
variable {entries : List (FileName × Node)} {name : FileName}

theorem readText_entry {text : String} (isName : IsName name)
    (entry : entries.lookup name = some (.file text.toByteArray)) :
    FileTree.readText { root := .directory entries } name = .ok text := by
  refine FileTree.readText_of_resolve (FileTree.resolve_entry isName rfl rfl entry (by simp)) rfl ?_
  exact (Node.at?_child (Node.at?_root _) name).trans entry

/-- A file in the working directory is told apart by its name. -/
theorem expand_entry {content : ByteArray} (isName : IsName name)
    (entry : entries.lookup name = some (.file content)) :
    expand { root := .directory entries } name = .ok [⟨name, .canonical [name]⟩] := by
  have short : CanonicalName.pathLength [name] ≤ FileTree.maxPathBytes := by
    have := isName.short
    simp only [CanonicalName.pathLength_cons, CanonicalName.pathLength_nil, FileTree.maxPathBytes,
      FileTree.maxNameBytes] at this ⊢
    omega
  have real : FileTree.realPath { root := .directory entries } name = .ok [name] :=
    FileTree.realPath_entry isName rfl (fun _ _ => rfl) short entry (by simp)
  rw [expand_of_file (FileTree.resolve_entry isName rfl rfl entry (by simp))
    ((Node.at?_child (Node.at?_root _) name).trans entry), caseFile, FileTree.key, real]

end Entries

/-- The tree whose only file `cases.json` has this text. -/
def oneFileTree (text : String) : FileTree :=
  { root := .directory [("cases.json", .file text.toByteArray)] }

theorem isName_cases : IsName "cases.json" := by constructor <;> decide

theorem readText_oneFileTree (text : String) : (oneFileTree text).readText "cases.json" = .ok text :=
  readText_entry isName_cases rfl

theorem collectFiles_oneFileTree (text : String) :
    collectFiles (oneFileTree text) ["cases.json"] =
      .ok [⟨"cases.json", .canonical ["cases.json"]⟩] := by
  rw [collectFiles, collect, expandAll, List.map_singleton, oneFileTree, expand_entry isName_cases rfl]
  rfl

def linkedTree : FileTree :=
  { root := .directory [("d", .directory [("a.json", .file .empty)]), ("l", .link "d")] }

theorem wellNamed_linkedTree : linkedTree.root.WellNamed := by
  have file : IsName "a.json" := by constructor <;> decide
  have directory : IsName "d" := by constructor <;> decide
  have link : IsName "l" := by constructor <;> decide
  refine .directory ?_ (by decide) ?_
  · simp [directory, link]
  · have inner : Node.WellNamed (.directory [("a.json", .file .empty)]) :=
      .directory (by simp [file]) (by decide) (by simp [Node.WellNamed.file])
    simp [inner, Node.WellNamed.link]

theorem pathLength_linkedTree {name : CanonicalName} {node : Node}
    (at_ : linkedTree.root.at? name = some node) :
    CanonicalName.pathLength name ≤ FileTree.maxPathBytes := by
  cases name with
  | nil => decide
  | cons first rest =>
    obtain ⟨_, _, ⟨⟩, entry, below⟩ := Node.exists_entry_of_at? at_
    simp only [List.mem_cons, Prod.mk.injEq, List.not_mem_nil, or_false] at entry
    rcases entry with ⟨rfl, rfl⟩ | ⟨rfl, rfl⟩
    · cases rest with
      | nil => decide
      | cons second rest =>
        obtain ⟨_, _, ⟨⟩, entry, below⟩ := Node.exists_entry_of_at? below
        simp only [List.mem_cons, Prod.mk.injEq, List.not_mem_nil, or_false] at entry
        obtain ⟨rfl, rfl⟩ := entry
        cases rest with
        | nil => decide
        | cons third rest => cases below
    · cases rest with
      | nil => decide
      | cons second rest => cases below

theorem resolve_linkedTree {path : Path} (named : path = "l" ∨ path = "d") :
    linkedTree.resolve path = .ok [("d" : Path)] := by
  have directory : IsName "d" := by constructor <;> decide
  have link : IsName "l" := by constructor <;> decide
  rcases named with rfl | rfl
  · exact FileTree.resolve_link link directory rfl rfl rfl rfl (by simp)
  · exact FileTree.resolve_entry directory rfl rfl rfl (by simp)

theorem hasDirectory_linkedTree {names : List FileName}
    (has : Node.HasDirectory (.directory [("a.json", .file .empty)]) names) : names = [] := by
  cases has with
  | here => rfl
  | inside entry _ => simp at entry

theorem readable_linkedTree : Readable linkedTree (["l"] ++ ["d"]) := by
  refine readable_of_rights wellNamed_linkedTree (fun _ => ⟨rfl, rfl⟩)
    (fun _ _ => pathLength_linkedTree) ?_
  intro path argument place node names resolved at_ has
  have named : path = "l" ∨ path = "d" := by simpa using argument
  rw [resolve_linkedTree named] at resolved
  cases resolved
  cases at_
  rw [hasDirectory_linkedTree has]
  rcases named with rfl | rfl <;> decide

theorem standsFor_linkedTree {path : Path} (named : path = "l" ∨ path = "d") (name : CanonicalName) :
    StandsFor linkedTree path name ↔ name = [("d" : Path), ("a.json" : Path)] := by
  constructor
  · rintro ⟨spelling, contributes⟩
    cases contributes with
    | file resolved at_ =>
      rw [resolve_linkedTree named] at resolved
      cases resolved
      cases at_
    | walked resolved at_ has =>
      rw [resolve_linkedTree named] at resolved
      cases resolved
      cases at_
      cases has with
      | here entry _ =>
        simp at entry
        simp [entry]
      | inside entry _ => simp at entry
  · rintro rfl
    exact ⟨_, .walked (resolve_linkedTree named) rfl (.here (.head []) (by decide))⟩

/-- A directory that is given once more under its own name adds nothing. -/
theorem linked_directory_collected_once : Readable linkedTree (["l"] ++ ["d"]) ∧
    ∃ files, collectFiles linkedTree (["l"] ++ ["d"]) = .ok files ∧
      (files.map fun f => linkedTree.realPath f.spelling) = [.ok ["d", "a.json"]] := by
  refine ⟨readable_linkedTree, ?_⟩
  have leads (path : Path) (argument : path ∈ (["l"] ++ ["d"] : List Path)) :
      path = "l" ∨ path = "d" := by simpa using argument
  obtain ⟨_, _, kept⟩ :=
    collection_complete_and_stable linkedTree (["l"] ++ ["d"]) [] readable_linkedTree
  obtain ⟨files, names, collected, real, distinct, complete, _⟩ := kept fun path argument =>
    ⟨_, resolve_linkedTree (leads path argument), .inl ⟨_, rfl⟩⟩
  have only : ∀ name, name ∈ names ↔ name = [("d" : Path), ("a.json" : Path)] := by
    intro name
    rw [complete]
    constructor
    · rintro ⟨path, argument, stands⟩
      exact (standsFor_linkedTree (leads path argument) name).mp stands
    · rintro rfl
      exact ⟨"d", by decide, (standsFor_linkedTree (.inr rfl) _).mpr rfl⟩
  have single : names = [([("d" : Path), ("a.json" : Path)] : CanonicalName)] :=
    List.perm_singleton.mp ((List.perm_ext_iff_of_nodup distinct (by simp)).mpr (by simpa using only))
  exact ⟨files, collected, by rw [real, single]; rfl⟩

end ValueOrder.Suite
