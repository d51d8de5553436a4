import ValueOrder.Proofs.Cases.Agreement
import ValueOrder.Proofs.Files.Depth
import ValueOrder.Proofs.Text.Lossy

/-!
# Accounting for every case

A run that does not stop at failures fails for the first file that does not load. Else its
summary has each case of each file once, as passed or as a failure at the place of the
case. No two cases have the same place, and places look different where paths are text.
-/

namespace ValueOrder.Suite

/-! ## Places -/

theorem toList_location (path : Path) (index : Nat) :
    (location path index).toList = path.display.toList ++ '#' :: Nat.toDigits 10 index := by
  simp [location, Nat.repr]

theorem mark_notMem_toDigits (index : Nat) : '#' ∉ Nat.toDigits 10 index := fun mem =>
  absurd (Nat.isDigit_of_mem_toDigits (by decide) (by decide) mem) (by decide)

/-- The last mark in a list splits it in one way only, whatever stands before it. -/
theorem eq_of_append_mark {α : Type} {a : α} {s t u v : List α} (left : a ∉ u) (right : a ∉ v)
    (equal : s ++ a :: u = t ++ a :: v) : s = t ∧ u = v := by
  rcases List.append_eq_append_iff.mp equal with ⟨c, rfl, split⟩ | ⟨c, rfl, split⟩
  · cases c with
    | nil => exact ⟨(List.append_nil s).symm, (List.cons.inj split).2⟩
    | cons b c =>
      obtain ⟨_, rest⟩ := List.cons.inj split
      exact absurd (rest ▸ List.mem_append_right c (.head v)) left
  · cases c with
    | nil => exact ⟨List.append_nil t, (List.cons.inj split).2.symm⟩
    | cons b c =>
      obtain ⟨_, rest⟩ := List.cons.inj split
      exact absurd (rest ▸ List.mem_append_right c (.head u)) right

/-- A location shows the path and the index, whatever characters the path has. -/
theorem location_inj {path other : Path} {index i : Nat}
    (same : location path index = location other i) : path.display = other.display ∧ index = i := by
  have chars := congrArg String.toList same
  rw [toList_location, toList_location] at chars
  obtain ⟨paths, digits⟩ :=
    eq_of_append_mark (mark_notMem_toDigits index) (mark_notMem_toDigits i) chars
  refine ⟨String.toList_inj.mp paths, ?_⟩
  rw [← Nat.ofDigitChars_ten_toDigits (n := index), digits, Nat.ofDigitChars_ten_toDigits]

/-- Where a case stands. -/
def Trial.place (r : Trial) : Path × Nat := (r.path, r.index)

/-- The place as it is shown. -/
def Trial.shownPlace (r : Trial) : String := location r.path r.index

theorem Trial.place_eq_of_shownPlace {r q : Trial} (left : r.path.IsText) (right : q.path.IsText)
    (same : r.shownPlace = q.shownPlace) : r.place = q.place := by
  obtain ⟨paths, indices⟩ := location_inj same
  exact Prod.ext (Path.display_inj left right paths) indices

theorem path_of_mem_trialsFrom {path : Path} {index : Nat} {cases : List Case} {r : Trial}
    (mem : r ∈ trialsFrom path index cases) : r.path = path ∧ index ≤ r.index := by
  induction cases generalizing index with
  | nil => cases mem
  | cons c rest ih =>
    rw [trialsFrom_cons, List.mem_cons] at mem
    rcases mem with rfl | later
    · exact ⟨rfl, Nat.le_refl _⟩
    · obtain ⟨same, above⟩ := ih later
      exact ⟨same, Nat.le_of_succ_le above⟩

theorem nodup_places_trialsFrom (path : Path) (index : Nat) (cases : List Case) :
    ((trialsFrom path index cases).map Trial.place).Nodup := by
  induction cases generalizing index with
  | nil => exact List.nodup_nil
  | cons c rest ih =>
    rw [trialsFrom_cons, List.map_cons, List.nodup_cons]
    refine ⟨fun again => ?_, ih _⟩
    obtain ⟨r, mem, same⟩ := List.mem_map.mp again
    have above := (path_of_mem_trialsFrom mem).2
    have equal : r.index = index := congrArg Prod.snd same
    omega

theorem path_of_mem_trials {files : List CaseFile} {batches : List (List Case)} {r : Trial}
    (mem : r ∈ trials files batches) : ∃ file ∈ files, r.path = file.spelling := by
  induction files generalizing batches with
  | nil => simp [trials] at mem
  | cons file rest ih =>
    cases batches with
    | nil => simp [trials] at mem
    | cons cases batches =>
      rw [trials_cons] at mem
      rcases List.mem_append.mp mem with here | later
      · exact ⟨file, .head rest, (path_of_mem_trialsFrom here).1⟩
      · obtain ⟨g, member, same⟩ := ih later
        exact ⟨g, .tail file member, same⟩

/-- No two cases have the same place if no two files have the same path. -/
theorem nodup_places_trials {files : List CaseFile} (batches : List (List Case))
    (distinct : (files.map (·.spelling)).Nodup) :
    ((trials files batches).map Trial.place).Nodup := by
  induction files generalizing batches with
  | nil => exact List.nodup_nil
  | cons file rest ih =>
    cases batches with
    | nil => exact List.nodup_nil
    | cons cases batches =>
      obtain ⟨fresh, others⟩ := List.nodup_cons.mp distinct
      rw [trials_cons, List.map_append, List.nodup_append]
      refine ⟨nodup_places_trialsFrom _ _ _, ih batches others, ?_⟩
      rintro _ here _ later rfl
      obtain ⟨q, memHere, rfl⟩ := List.mem_map.mp here
      obtain ⟨r, memLater, same⟩ := List.mem_map.mp later
      obtain ⟨g, member, named⟩ := path_of_mem_trials memLater
      have equal : r.path = q.path := congrArg Prod.fst same
      rw [(path_of_mem_trialsFrom memHere).1, named] at equal
      exact fresh (List.mem_map.mpr ⟨g, member, equal⟩)

/-- Distinct places look different if the paths of the files are text. -/
theorem nodup_shownPlaces_trials {files : List CaseFile} {batches : List (List Case)}
    (distinct : ((trials files batches).map Trial.place).Nodup)
    (text : ∀ file ∈ files, file.spelling.IsText) :
    ((trials files batches).map Trial.shownPlace).Nodup := by
  have isText : ∀ r ∈ trials files batches, r.path.IsText := by
    intro r mem
    obtain ⟨file, member, named⟩ := path_of_mem_trials mem
    exact named ▸ text file member
  refine List.pairwise_map.mpr ((List.pairwise_map.mp distinct).imp_of_mem ?_)
  intro r q memLeft memRight apart same
  exact apart (Trial.place_eq_of_shownPlace (isText r memLeft) (isText q memRight) same)

/-- The failures that are reported are shown at the places of the trials, in their order. -/
theorem locations_sublist (rs : List Trial) :
    ((rs.filterMap Trial.failure?).map (·.location)).Sublist (rs.map Trial.shownPlace) := by
  induction rs with
  | nil => exact .slnil
  | cons r rest ih =>
    rw [List.filterMap_cons, List.map_cons]
    cases found : r.failure? with
    | none => exact ih.cons _
    | some f =>
      have here : f.location = r.shownPlace := (Trial.failure?_eq_some_iff.mp found).1
      rw [List.map_cons, here]
      exact ih.cons_cons _

/-! ## Counts -/

theorem countP_passes_add (rs : List Trial) :
    rs.countP Trial.passes + (rs.filterMap Trial.failure?).length = rs.length := by
  induction rs with
  | nil => rfl
  | cons r rest ih =>
    cases found : r.failure? with
    | none =>
      have passes : r.passes := Trial.failure?_eq_none_iff.mp found
      rw [List.countP_cons_of_pos passes, List.filterMap_cons_none found, List.length_cons]
      omega
    | some f =>
      have fails : ¬ r.passes := Trial.not_passes_iff.mpr ⟨f, found⟩
      rw [List.countP_cons_of_neg fails, List.filterMap_cons_some found, List.length_cons,
        List.length_cons]
      omega

theorem failures_eq_nil_iff (rs : List Trial) :
    rs.filterMap Trial.failure? = [] ↔ ∀ r ∈ rs, r.passes := by
  rw [List.filterMap_eq_nil_iff]
  exact forall₂_congr fun r _ => Trial.failure?_eq_none_iff

/-! ## The summary -/

theorem after_empty (rs : List Trial) :
    ({} : Summary).after rs = ⟨rs.countP Trial.passes, rs.filterMap Trial.failure?⟩ := by
  simp [Summary.after]

theorem result_run_of_loaded {t : FileTree} {paths : List Path} {files : List CaseFile}
    {batches : List (List Case)} (collected : collectFiles t paths = .ok files)
    (loaded : Loaded t files batches) :
    (run t paths false).result = .ok (({} : Summary).after (trials files batches)) := by
  have goesOn := result_runFiles_of_goesOn false [] loaded nofun {}
  rw [List.append_nil] at goesOn
  rw [run_of_collected collected, goesOn]
  rfl

theorem result_run_of_fault {t : FileTree} {paths : List Path} {file : CaseFile}
    {before after : List CaseFile} {batches : List (List Case)} {e : SuiteError}
    (collected : collectFiles t paths = .ok (before ++ file :: after))
    (loaded : Loaded t before batches) (fault : load t file.spelling = .error e) :
    (run t paths false).result = .error e := by
  rw [run_of_collected collected, result_runFiles_of_goesOn false _ loaded nofun,
    result_runFiles_of_fault false fault]

/-- A run that does not stop at failures fails for the collection, or for the first file
that does not load, or has tried all cases of all files. -/
theorem run_outcomes (t : FileTree) (paths : List Path) :
    (∃ e, collectFiles t paths = .error e ∧ (run t paths false).result = .error e) ∨
    (∃ before file after batches e, collectFiles t paths = .ok (before ++ file :: after) ∧
      Loaded t before batches ∧ load t file.spelling = .error e ∧
      (run t paths false).result = .error e) ∨
    ∃ files batches, collectFiles t paths = .ok files ∧ Loaded t files batches ∧
      (run t paths false).result = .ok (({} : Summary).after (trials files batches)) := by
  cases collected : collectFiles t paths with
  | error e => exact .inl ⟨e, rfl, by rw [run_of_not_collected collected]⟩
  | ok files =>
    rcases loaded_or_fault t files with
      ⟨batches, loaded⟩ | ⟨before, batches, file, after, e, rfl, loaded, fault⟩
    · exact .inr (.inr ⟨files, batches, rfl, loaded, result_run_of_loaded collected loaded⟩)
    · exact .inr (.inl ⟨before, file, after, batches, e, rfl, loaded, fault,
        result_run_of_fault collected loaded fault⟩)

theorem result_run_eq_error_iff {t : FileTree} {paths : List Path} {e : SuiteError} :
    (run t paths false).result = .error e ↔ collectFiles t paths = .error e ∨
      ∃ before file after batches, collectFiles t paths = .ok (before ++ file :: after) ∧
        Loaded t before batches ∧ load t file.spelling = .error e := by
  constructor
  · intro failed
    rcases run_outcomes t paths with
      ⟨d, refused, result⟩ | ⟨before, file, after, batches, d, collected, loaded, fault, result⟩ |
      ⟨files, batches, _, _, result⟩
    all_goals rw [result] at failed; cases failed
    · exact .inl refused
    · exact .inr ⟨before, file, after, batches, collected, loaded, fault⟩
  · rintro (refused | ⟨before, file, after, batches, collected, loaded, fault⟩)
    · rw [run_of_not_collected refused]
    · exact result_run_of_fault collected loaded fault

theorem result_run_eq_ok_iff {t : FileTree} {paths : List Path} {s : Summary} :
    (run t paths false).result = .ok s ↔ ∃ files batches, collectFiles t paths = .ok files ∧
      Loaded t files batches ∧
      s = ⟨(trials files batches).countP Trial.passes,
        (trials files batches).filterMap Trial.failure?⟩ := by
  constructor
  · intro ran
    rcases run_outcomes t paths with
      ⟨d, _, result⟩ | ⟨_, _, _, _, d, _, _, _, result⟩ | ⟨files, batches, collected, loaded, result⟩
    all_goals rw [result] at ran; cases ran
    exact ⟨files, batches, collected, loaded, after_empty _⟩
  · rintro ⟨files, batches, collected, loaded, rfl⟩
    rw [result_run_of_loaded collected loaded, after_empty]

/-- A run that does not stop at failures fails exactly for the collection or for the first
collected file that does not load. Else it counts the cases that pass, and it reports the
others in the order of files and then of indices. No two cases have the same path and index, and
if all paths are text, no two failures are shown at the same location. -/
theorem every_case_accounted_for (t : FileTree) (paths : List Path) :
    (∀ e, (run t paths false).result = .error e ↔
      collectFiles t paths = .error e ∨
      ∃ before file after batches, collectFiles t paths = .ok (before ++ file :: after) ∧
        Loaded t before batches ∧ load t file.spelling = .error e) ∧
    (∀ s, (run t paths false).result = .ok s →
      ∃ files batches, collectFiles t paths = .ok files ∧ Loaded t files batches ∧
        s.passed = (trials files batches).countP Trial.passes ∧
        s.failures = (trials files batches).filterMap Trial.failure? ∧
        s.passed + s.failed = (trials files batches).length ∧
        (s.success ↔ ∀ r ∈ trials files batches, r.passes) ∧
        ((trials files batches).map fun r => (r.path, r.index)).Nodup ∧
        ((∀ file ∈ files, file.spelling.IsText) → (s.failures.map (·.location)).Nodup)) := by
  refine ⟨fun e => result_run_eq_error_iff, fun s ran => ?_⟩
  obtain ⟨files, batches, collected, loaded, rfl⟩ := result_run_eq_ok_iff.mp ran
  have distinct := nodup_places_trials batches
    (nodup_spellings_collect (collectFiles_eq_ok_iff.mp collected))
  refine ⟨files, batches, collected, loaded, rfl, rfl, countP_passes_add _, ?_, distinct, ?_⟩
  · rw [Summary.success, List.isEmpty_iff, failures_eq_nil_iff]
  · exact fun text => (nodup_shownPlaces_trials distinct text).sublist (locations_sublist _)

/-! ## Files that are taken for two and files that look alike -/

theorem load_deepFile (expected : Bool) (path : Path) (spelled : path = "l" ∨ path = "./l") :
    load (deepFileTree (askingText expected)) (path.join deepNames) = .ok [askingCase expected] :=
  load_asking (readText_deepFile _ spelled)

/-- A name that is no text and is shown like the other names of this kind. -/
def strayName (byte : UInt8) : FileName := ⟨byte :: Text.bytes ".json"⟩

/-- Two files of such names, each with a case that fails. -/
def strayTree : FileTree :=
  { root := .directory [(strayName 0xFE, .file (askingText true).toByteArray),
      (strayName 0xFF, .file (askingText true).toByteArray)] }

theorem isName_strayName {byte : UInt8} (stray : 0x80 ≤ byte) : IsName (strayName byte) := by
  have apart : byte ≠ Path.slash ∧ byte ≠ 0 ∧ byte ≠ Path.dot := by
    refine ⟨?_, ?_, ?_⟩
    all_goals
      rintro rfl
      exact absurd stray (by decide)
  refine ⟨by simp [strayName, Path.empty], ?_, ?_, ?_, ?_, ?_⟩
  · simp [strayName, Path.here, apart]
  · simp [strayName, Path.up, apart]
  · have rest : Path.slash ∉ Text.bytes ".json" := by decide
    simp [strayName, rest, apart.1.symm]
  · have rest : 0 ∉ Text.bytes ".json" := by decide
    simp [strayName, rest, apart.2.1.symm]
  · have rest : (Text.bytes ".json").length = 5 := by decide
    simp [strayName, rest, FileTree.maxNameBytes]

theorem collectFiles_strayTree : collectFiles strayTree [strayName 0xFE, strayName 0xFF] =
    .ok [⟨strayName 0xFE, .canonical [strayName 0xFE]⟩,
      ⟨strayName 0xFF, .canonical [strayName 0xFF]⟩] := by
  rw [collectFiles, collect, expandAll, List.map_cons, List.map_singleton, strayTree,
    expand_entry (isName_strayName (by decide)) rfl, expand_entry (isName_strayName (by decide)) rfl]
  rfl

theorem load_stray {byte : UInt8} (stray : byte = 0xFE ∨ byte = 0xFF) :
    load strayTree (strayName byte) = .ok [askingCase true] := by
  rcases stray with rfl | rfl
  · exact load_asking (readText_entry (isName_strayName (by decide)) rfl)
  · exact load_asking (readText_entry (isName_strayName (by decide)) rfl)

/-- The only case of a tree counts twice if its file has no canonical name and is reached by two
paths, and cases of two files can fail at what looks like one location. -/
theorem one_case_counted_twice_and_one_location_shown_twice :
    ((deepFileTree (askingText false)).resolve (Path.join "l" deepNames) =
        (deepFileTree (askingText false)).resolve (Path.join "./l" deepNames) ∧
      (run (deepFileTree (askingText false)) [Path.join "l" deepNames, Path.join "./l" deepNames]
        false).result = .ok ⟨2, []⟩) ∧
    ∃ s, (run strayTree [strayName 0xFE, strayName 0xFF] false).result = .ok s ∧
      ¬ (s.failures.map (·.location)).Nodup := by
  have passes (path : Path) : Trial.passes ⟨path, 0, askingCase false⟩ = true := rfl
  refine ⟨⟨?_, ?_⟩, ?_⟩
  · rw [resolve_deepFile _ (.inl rfl), resolve_deepFile _ (.inr rfl)]
  · have loaded : Loaded (deepFileTree (askingText false))
        [⟨Path.join "l" deepNames, .spelled (Path.join "l" deepNames)⟩,
          ⟨Path.join "./l" deepNames, .spelled (Path.join "./l" deepNames)⟩]
        [[askingCase false], [askingCase false]] :=
      .cons (load_deepFile false "l" (.inl rfl)) (.cons (load_deepFile false "./l" (.inr rfl)) .nil)
    rw [result_run_of_loaded (collectFiles_deepFile _) loaded, after_empty]
    simp [trials, passes, Trial.failure?_eq_none_iff.mpr]
  · have loaded : Loaded strayTree
        [⟨strayName 0xFE, .canonical [strayName 0xFE]⟩, ⟨strayName 0xFF, .canonical [strayName 0xFF]⟩]
        [[askingCase true], [askingCase true]] :=
      .cons (load_stray (.inl rfl)) (.cons (load_stray (.inr rfl)) .nil)
    refine ⟨_, result_run_of_loaded collectFiles_strayTree loaded, ?_⟩
    have alike : location (strayName 0xFE) 0 = location (strayName 0xFF) 0 := rfl
    rw [after_empty]
    intro distinct
    exact (List.nodup_cons.mp distinct).1 (List.mem_singleton.mpr alike)

end ValueOrder.Suite
