import Mathlib.Data.List.Nodup
import ValueOrder.Proofs.Files.Walk
import ValueOrder.Suite

/-!
# First spellings

Of the files that path arguments lead to, each key is kept once, under the first path that
has it. What is kept of two lists in a row is what is kept of the first, and of the second
what has no key of the first.
-/

namespace ValueOrder.Suite

section Spellings
variable {seen known : List FileKey} {files : List CaseFile} {f : CaseFile}

theorem firstSpellings_cons_of_mem (mem : f.key ∈ seen) (files : List CaseFile) :
    firstSpellings seen (f :: files) = firstSpellings seen files := by
  simp [firstSpellings, mem]

theorem firstSpellings_cons_of_notMem (unseen : f.key ∉ seen) (files : List CaseFile) :
    firstSpellings seen (f :: files) = f :: firstSpellings (f.key :: seen) files := by
  simp [firstSpellings, unseen]

theorem mem_keys_firstSpellings (k : FileKey) (seen : List FileKey) (files : List CaseFile) :
    k ∈ (firstSpellings seen files).map (·.key) ↔ k ∈ files.map (·.key) ∧ k ∉ seen := by
  induction files generalizing seen with
  | nil => simp [firstSpellings]
  | cons f rest ih =>
    by_cases mem : f.key ∈ seen
    · rw [firstSpellings_cons_of_mem mem, ih, List.map_cons, List.mem_cons]
      constructor
      · rintro ⟨later, unseen⟩
        exact ⟨.inr later, unseen⟩
      · rintro ⟨rfl | later, unseen⟩
        · exact absurd mem unseen
        · exact ⟨later, unseen⟩
    · rw [firstSpellings_cons_of_notMem mem, List.map_cons, List.mem_cons, ih, List.map_cons,
        List.mem_cons, List.mem_cons]
      by_cases first : k = f.key
      · simp [first, mem]
      · simp [first]

theorem nodup_keys_firstSpellings (seen : List FileKey) (files : List CaseFile) :
    ((firstSpellings seen files).map (·.key)).Nodup := by
  induction files generalizing seen with
  | nil => exact List.nodup_nil
  | cons f rest ih =>
    by_cases mem : f.key ∈ seen
    · rw [firstSpellings_cons_of_mem mem]
      exact ih seen
    · rw [firstSpellings_cons_of_notMem mem, List.map_cons, List.nodup_cons]
      refine ⟨fun again => ?_, ih _⟩
      exact ((mem_keys_firstSpellings _ _ _).mp again).2 (.head seen)

theorem firstSpellings_sublist (seen : List FileKey) (files : List CaseFile) :
    (firstSpellings seen files).Sublist files := by
  induction files generalizing seen with
  | nil => exact .slnil
  | cons f rest ih =>
    by_cases mem : f.key ∈ seen
    · rw [firstSpellings_cons_of_mem mem]
      exact (ih seen).cons f
    · rw [firstSpellings_cons_of_notMem mem]
      exact (ih _).cons_cons f

/-- Keys that were seen, beside those known anyway, are filtered out of what is kept. -/
theorem firstSpellings_eq_filter {all : List FileKey}
    (split : ∀ k, k ∈ all ↔ k ∈ seen ∨ k ∈ known) :
    firstSpellings all files = (firstSpellings known files).filter fun f => f.key ∉ seen := by
  induction files generalizing all known with
  | nil => rfl
  | cons f rest ih =>
    by_cases isKnown : f.key ∈ known
    · have mem : f.key ∈ all := (split _).mpr (.inr isKnown)
      rw [firstSpellings_cons_of_mem isKnown, firstSpellings_cons_of_mem mem, ih split]
    · rw [firstSpellings_cons_of_notMem isKnown]
      by_cases isSeen : f.key ∈ seen
      · have mem : f.key ∈ all := (split _).mpr (.inl isSeen)
        rw [firstSpellings_cons_of_mem mem, List.filter_cons_of_neg (by simpa using isSeen)]
        -- From here on the key is known on the right, and it was in `all` before.
        refine ih fun k => ?_
        rw [split k, List.mem_cons]
        constructor
        · rintro (found | found)
          · exact .inl found
          · exact .inr (.inr found)
        · rintro (found | rfl | found)
          · exact .inl found
          · exact .inl isSeen
          · exact .inr found
      · have unseen : f.key ∉ all := by
          rw [split]
          exact not_or.mpr ⟨isSeen, isKnown⟩
        rw [firstSpellings_cons_of_notMem unseen, List.filter_cons_of_pos (by simpa using isSeen)]
        refine congrArg (f :: ·) (ih fun k => ?_)
        rw [List.mem_cons, split, List.mem_cons, or_left_comm]

theorem firstSpellings_append (seen : List FileKey) (files others : List CaseFile) :
    firstSpellings seen (files ++ others) = firstSpellings seen files ++
      (firstSpellings [] others).filter fun f => f.key ∉ seen ∧ f.key ∉ files.map (·.key) := by
  induction files generalizing seen with
  | nil =>
    have fresh : firstSpellings seen others =
        (firstSpellings [] others).filter fun f => f.key ∉ seen :=
      firstSpellings_eq_filter fun k => by simp
    rw [List.nil_append, fresh]
    simp [firstSpellings]
  | cons f rest ih =>
    by_cases mem : f.key ∈ seen
    · rw [List.cons_append, firstSpellings_cons_of_mem mem, firstSpellings_cons_of_mem mem, ih]
      refine congrArg (_ ++ ·) (List.filter_congr fun g _ => decide_eq_decide.mpr ?_)
      rw [List.map_cons, List.mem_cons]
      constructor
      · rintro ⟨unseen, later⟩
        exact ⟨unseen, not_or.mpr ⟨fun same => unseen (same ▸ mem), later⟩⟩
      · rintro ⟨unseen, others⟩
        exact ⟨unseen, (not_or.mp others).2⟩
    · rw [List.cons_append, firstSpellings_cons_of_notMem mem, firstSpellings_cons_of_notMem mem, ih,
        List.cons_append]
      refine congrArg (f :: firstSpellings _ rest ++ ·)
        (List.filter_congr fun g _ => decide_eq_decide.mpr ?_)
      rw [List.map_cons, List.mem_cons, List.mem_cons, not_or, not_or, and_assoc, and_left_comm]

end Spellings

/-! ## Collected files -/

section Collected
variable {t : FileTree} {path : Path} {paths others : List Path} {files added : List CaseFile}
  {f : CaseFile}

/-- A file is told apart by what its own path leads to. -/
theorem key_of_mem_expand (expanded : expand t path = .ok files) (mem : f ∈ files) :
    f.key = t.key f.spelling := by
  unfold expand at expanded
  split at expanded
  · cases expanded
  · split at expanded
    · split at expanded
      · cases expanded
      · cases expanded
        obtain ⟨spelling, _, rfl⟩ := List.mem_map.mp mem
        rfl
    · cases expanded
      rw [List.mem_singleton.mp mem]
      rfl
    · cases expanded

/-- Every file comes from an argument. -/
theorem mem_expandAll_iff (expanded : expandAll t paths = .ok files) :
    f ∈ files ↔ ∃ path ∈ paths, ∃ here, expand t path = .ok here ∧ f ∈ here := by
  rw [mem_gather_iff expanded]
  constructor
  · rintro ⟨here, found, mem⟩
    obtain ⟨path, argument, expanded⟩ := List.mem_map.mp found
    exact ⟨path, argument, here, expanded, mem⟩
  · rintro ⟨path, argument, here, expanded, mem⟩
    exact ⟨here, List.mem_map.mpr ⟨path, argument, expanded⟩, mem⟩

theorem key_of_mem_expandAll (expanded : expandAll t paths = .ok files) (mem : f ∈ files) :
    f.key = t.key f.spelling := by
  obtain ⟨path, _, here, expanded, mem⟩ := (mem_expandAll_iff expanded).mp mem
  exact key_of_mem_expand expanded mem

theorem expandAll_append (first : expandAll t paths = .ok files)
    (second : expandAll t others = .ok added) :
    expandAll t (paths ++ others) = .ok (files ++ added) := by
  rw [expandAll, List.map_append]
  exact gather_append first second

theorem collect_eq_ok_iff : collect t paths = .ok files ↔
    ∃ all, expandAll t paths = .ok all ∧ firstSpellings [] all = files := by
  unfold collect
  cases expandAll t paths with
  | error e => simp [Except.map]
  | ok all => simp [Except.map]

theorem collectFiles_eq_ok_iff : collectFiles t paths = .ok files ↔ collect t paths = .ok files := by
  unfold collectFiles
  cases collect t paths with
  | error e => simp [Except.mapError]
  | ok all => simp [Except.mapError]

theorem nodup_keys_collect (collected : collect t paths = .ok files) :
    (files.map (·.key)).Nodup := by
  obtain ⟨all, _, rfl⟩ := collect_eq_ok_iff.mp collected
  exact nodup_keys_firstSpellings [] all

/-- No path is listed twice. -/
theorem nodup_spellings_collect (collected : collect t paths = .ok files) :
    (files.map (·.spelling)).Nodup := by
  have keys := nodup_keys_collect collected
  obtain ⟨all, expanded, rfl⟩ := collect_eq_ok_iff.mp collected
  have same : (firstSpellings [] all).map (·.key) =
      ((firstSpellings [] all).map (·.spelling)).map t.key := by
    rw [List.map_map]
    refine List.map_congr_left fun f mem => ?_
    exact key_of_mem_expandAll expanded ((firstSpellings_sublist [] all).subset mem)
  rw [same] at keys
  exact keys.of_map _

end Collected

end ValueOrder.Suite
