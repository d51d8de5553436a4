import Mathlib.Data.List.Forall2
import ValueOrder.Suite

/-!
# Trials

A run over files seen as one list of trials: each case with its file and its index there,
in the order of files and then of indices. A run tries them all, or all up to the first
that fails, and what it logs and counts is what those trials log and come to.
-/

namespace ValueOrder.Suite

/-- Either all elements have a property, or there is a first without it. -/
theorem forall_or_first {α : Type} (p : α → Prop) (l : List α) :
    (∀ x ∈ l, p x) ∨
    ∃ before x after, l = before ++ x :: after ∧ (∀ y ∈ before, p y) ∧ ¬ p x := by
  induction l with
  | nil => exact .inl nofun
  | cons x rest ih =>
    by_cases holds : p x
    · rcases ih with all | ⟨before, y, after, rfl, earlier, fails⟩
      · exact .inl (List.forall_mem_cons.mpr ⟨holds, all⟩)
      · exact .inr ⟨x :: before, y, after, rfl, List.forall_mem_cons.mpr ⟨holds, earlier⟩, fails⟩
    · exact .inr ⟨[], x, rest, rfl, nofun, holds⟩

/-! ## Single trials -/

/-- A case with its place: its file and its index there. -/
structure Trial where
  path : Path
  index : Nat
  case : Case

namespace Trial

/-- The description of a mismatch, if the case fails. -/
def verdict? (r : Trial) : Option String := r.case.check.result

def passes (r : Trial) : Bool := r.verdict?.isNone

/-- The failure that is reported, if the case fails. -/
def failure? (r : Trial) : Option Failure :=
  r.verdict?.map fun detail => ⟨location r.path r.index, r.case.name?, detail⟩

/-- What is logged last: that the case passed, or its failure. -/
def closing (r : Trial) : Record :=
  ⟨.debug, .cases, match r.failure? with
    | none => location r.path r.index ++ " passed"
    | some f => f.render⟩

def records (r : Trial) : List Record := r.case.check.records ++ [r.closing]

theorem passes_iff {r : Trial} : r.passes ↔ r.verdict? = none := by
  simp [passes]

theorem failure?_eq_none_iff {r : Trial} : r.failure? = none ↔ r.passes := by
  simp [failure?, passes]

theorem not_passes_iff {r : Trial} : ¬ r.passes ↔ ∃ f, r.failure? = some f := by
  rw [← failure?_eq_none_iff, ← ne_eq, Option.ne_none_iff_exists']

theorem failure?_eq_some_iff {r : Trial} {f : Failure} : r.failure? = some f ↔
    f.location = location r.path r.index ∧ f.name? = r.case.name? ∧
      r.verdict? = some f.detail := by
  cases f with
  | mk place name? detail =>
    constructor
    · intro found
      obtain ⟨_, described, equal⟩ := Option.map_eq_some_iff.mp found
      cases equal
      exact ⟨rfl, rfl, described⟩
    · rintro ⟨rfl, rfl, described⟩
      simp only at described
      simp [failure?, described]

end Trial

/-! ## Lists of trials -/

/-- The cases of a file from an index on. -/
def trialsFrom (path : Path) (index : Nat) (cases : List Case) : List Trial :=
  (cases.zipIdx index).map fun (c, i) => ⟨path, i, c⟩

/-- The cases of files, file by file. -/
def trials (files : List CaseFile) (batches : List (List Case)) : List Trial :=
  (List.zipWith (fun file cases => trialsFrom file.spelling 0 cases) files batches).flatten

def Loaded (t : FileTree) : List CaseFile → List (List Case) → Prop :=
  List.Forall₂ fun file cases => load t file.spelling = .ok cases

/-- The trials up to the first that fails, that one included. -/
def upToFailure : List Trial → List Trial
  | [] => []
  | r :: rest => if r.passes then r :: upToFailure rest else [r]

/-- The trials that a run makes of those it is given. -/
def tried (failFast : Bool) (rs : List Trial) : List Trial :=
  if failFast then upToFailure rs else rs

end Suite

namespace Summary

/-- A summary that counts trials beside what it has. -/
def after (s : Summary) (rs : List Suite.Trial) : Summary :=
  ⟨s.passed + rs.countP Suite.Trial.passes, s.failures ++ rs.filterMap Suite.Trial.failure?⟩

@[simp] theorem after_nil (s : Summary) : s.after [] = s := by
  simp [after]

theorem after_append (s : Summary) (rs qs : List Suite.Trial) :
    s.after (rs ++ qs) = (s.after rs).after qs := by
  simp [after, Nat.add_assoc]

theorem after_cons_of_passes (s : Summary) {r : Suite.Trial} (passes : r.passes)
    (rs : List Suite.Trial) : s.after (r :: rs) = s.pass.after rs := by
  have silent : r.failure? = none := Suite.Trial.failure?_eq_none_iff.mpr passes
  simp [after, pass, passes, silent, Nat.add_assoc, Nat.add_comm 1]

theorem after_cons_of_fails (s : Summary) {r : Suite.Trial} {f : Failure}
    (fails : r.failure? = some f) (rs : List Suite.Trial) :
    s.after (r :: rs) = (s.fail f).after rs := by
  have notPasses : ¬ r.passes := Suite.Trial.not_passes_iff.mpr ⟨f, fails⟩
  simp [after, fail, notPasses, fails]

end Summary

namespace Suite

/-! ## The trials of one file -/

@[simp] theorem trialsFrom_nil (path : Path) (index : Nat) : trialsFrom path index [] = [] := rfl

@[simp] theorem trialsFrom_cons (path : Path) (index : Nat) (c : Case) (rest : List Case) :
    trialsFrom path index (c :: rest) = ⟨path, index, c⟩ :: trialsFrom path (index + 1) rest := rfl

@[simp] theorem tried_false (rs : List Trial) : tried false rs = rs := rfl

@[simp] theorem tried_true (rs : List Trial) : tried true rs = upToFailure rs := rfl

@[simp] theorem upToFailure_nil : upToFailure [] = [] := rfl

theorem upToFailure_cons_of_passes {r : Trial} (passes : r.passes) (rest : List Trial) :
    upToFailure (r :: rest) = r :: upToFailure rest := by
  simp [upToFailure, passes]

theorem upToFailure_cons_of_fails {r : Trial} (fails : ¬ r.passes) (rest : List Trial) :
    upToFailure (r :: rest) = [r] := by
  simp [upToFailure, fails]

theorem upToFailure_append_of_all_pass {rs : List Trial} (passes : ∀ r ∈ rs, r.passes)
    (qs : List Trial) : upToFailure (rs ++ qs) = rs ++ upToFailure qs := by
  induction rs with
  | nil => rfl
  | cons r rest ih =>
    obtain ⟨first, others⟩ := List.forall_mem_cons.mp passes
    rw [List.cons_append, upToFailure_cons_of_passes first, ih others, List.cons_append]

theorem upToFailure_of_all_pass {rs : List Trial} (passes : ∀ r ∈ rs, r.passes) :
    upToFailure rs = rs := by
  simpa using upToFailure_append_of_all_pass passes []

theorem upToFailure_of_first {before : List Trial} {r : Trial} (passes : ∀ q ∈ before, q.passes)
    (fails : ¬ r.passes) (after : List Trial) :
    upToFailure (before ++ r :: after) = before ++ [r] := by
  rw [upToFailure_append_of_all_pass passes, upToFailure_cons_of_fails fails]

/-- Trials behind one that fails are not made. -/
theorem upToFailure_append_of_fails {rs : List Trial} (fails : ¬ ∀ r ∈ rs, r.passes)
    (qs : List Trial) : upToFailure (rs ++ qs) = upToFailure rs := by
  induction rs with
  | nil => exact absurd nofun fails
  | cons r rest ih =>
    by_cases passes : r.passes
    · have later : ¬ ∀ r ∈ rest, r.passes := fun all => fails (List.forall_mem_cons.mpr ⟨passes, all⟩)
      rw [List.cons_append, upToFailure_cons_of_passes passes, upToFailure_cons_of_passes passes,
        ih later]
    · rw [List.cons_append, upToFailure_cons_of_fails passes, upToFailure_cons_of_fails passes]

theorem upToFailure_prefix (rs : List Trial) : upToFailure rs <+: rs := by
  induction rs with
  | nil => exact List.prefix_rfl
  | cons r rest ih =>
    by_cases passes : r.passes
    · rw [upToFailure_cons_of_passes passes]
      exact (List.prefix_cons_inj r).mpr ih
    · rw [upToFailure_cons_of_fails passes]
      exact ⟨rest, rfl⟩

theorem runCases_cons_of_passes {failFast : Bool} {path : Path} {index : Nat} {c : Case}
    (passes : Trial.passes ⟨path, index, c⟩) (rest : List Case) (s : Summary) :
    runCases failFast path index (c :: rest) s =
      ⟨Trial.records ⟨path, index, c⟩ ++ (runCases failFast path (index + 1) rest s.pass).records,
        (runCases failFast path (index + 1) rest s.pass).result⟩ := by
  have silent : c.check.result = none := Trial.passes_iff.mp passes
  have unreported : Trial.failure? ⟨path, index, c⟩ = none := Trial.failure?_eq_none_iff.mpr passes
  rw [runCases, Trial.records, Trial.closing, unreported]
  show Logged.mk (_ ++ _) _ = _
  rw [silent]
  simp

theorem runCases_cons_of_fails {failFast : Bool} {path : Path} {index : Nat} {c : Case}
    {f : Failure} (fails : Trial.failure? ⟨path, index, c⟩ = some f) (rest : List Case)
    (s : Summary) :
    runCases failFast path index (c :: rest) s =
      if failFast then ⟨Trial.records ⟨path, index, c⟩, (s.fail f, true)⟩
      else
        ⟨Trial.records ⟨path, index, c⟩ ++
            (runCases failFast path (index + 1) rest (s.fail f)).records,
          (runCases failFast path (index + 1) rest (s.fail f)).result⟩ := by
  obtain ⟨detail, described, rfl⟩ := Option.map_eq_some_iff.mp fails
  have described : c.check.result = some detail := described
  rw [runCases, Trial.records, Trial.closing, fails]
  show Logged.mk (_ ++ _) _ = _
  rw [described]
  cases failFast <;> simp

/-- A run over the cases of a file logs and counts what it tries, and it ends here if it
stops at failures and there is one. -/
theorem runCases_eq (failFast : Bool) (path : Path) (index : Nat) (cases : List Case)
    (s : Summary) :
    runCases failFast path index cases s =
      ⟨(tried failFast (trialsFrom path index cases)).flatMap Trial.records,
        s.after (tried failFast (trialsFrom path index cases)),
        failFast && (trialsFrom path index cases).any fun r => !r.passes⟩ := by
  -- The index and the summary change from case to case, so both are left open.
  induction cases generalizing index s with
  | nil => cases failFast <;> simp [runCases] <;> rfl
  | cons c rest ih =>
    rw [trialsFrom_cons]
    by_cases passes : Trial.passes ⟨path, index, c⟩
    · rw [runCases_cons_of_passes passes, ih, List.any_cons, passes]
      cases failFast with
      | false => simp [Summary.after_cons_of_passes s passes]
      | true => simp [upToFailure_cons_of_passes passes, Summary.after_cons_of_passes s passes]
    · obtain ⟨f, fails⟩ := Trial.not_passes_iff.mp passes
      rw [runCases_cons_of_fails fails, List.any_cons]
      cases failFast with
      | false => simp [ih, Summary.after_cons_of_fails s fails]
      | true =>
        simp [passes, upToFailure_cons_of_fails passes, Summary.after_cons_of_fails s fails]

/-! ## The trials of several files -/

@[simp] theorem trials_cons (file : CaseFile) (files : List CaseFile) (cases : List Case)
    (batches : List (List Case)) :
    trials (file :: files) (cases :: batches) = trialsFrom file.spelling 0 cases ++ trials files batches :=
  rfl

/-- What is logged first about a file. -/
def announcement (file : CaseFile) (cases : List Case) : Record :=
  ⟨.info, .cases, "running " ++ toString cases.length ++ " cases from " ++ file.path⟩

section Files
variable {t : FileTree} {file : CaseFile} {rest before files : List CaseFile}
  {batches : List (List Case)} {cases : List Case} {s : Summary}

theorem runFiles_cons_of_goesOn (failFast : Bool) (loaded : load t file.spelling = .ok cases)
    (goesOn : failFast → ∀ r ∈ trialsFrom file.spelling 0 cases, r.passes) (s : Summary) :
    runFiles t failFast (file :: rest) s =
      ⟨announcement file cases :: ((trialsFrom file.spelling 0 cases).flatMap Trial.records ++
          (runFiles t failFast rest (s.after (trialsFrom file.spelling 0 cases))).records),
        (runFiles t failFast rest (s.after (trialsFrom file.spelling 0 cases))).result⟩ := by
  have all : tried failFast (trialsFrom file.spelling 0 cases) = trialsFrom file.spelling 0 cases := by
    cases failFast with
    | false => rfl
    | true => exact upToFailure_of_all_pass (goesOn rfl)
  have stops : (failFast && (trialsFrom file.spelling 0 cases).any fun r => !r.passes) = false := by
    cases failFast with
    | false => rfl
    | true => simpa using goesOn rfl
  rw [runFiles, loaded]
  show Logged.mk (_ :: (_ ++ _)) _ = _
  rw [runCases_eq, all, stops]
  rfl

theorem runFiles_cons_of_stops (loaded : load t file.spelling = .ok cases)
    (fails : ¬ ∀ r ∈ trialsFrom file.spelling 0 cases, r.passes) (s : Summary) :
    runFiles t true (file :: rest) s =
      ⟨announcement file cases :: (upToFailure (trialsFrom file.spelling 0 cases)).flatMap Trial.records,
        .ok (s.after (upToFailure (trialsFrom file.spelling 0 cases)))⟩ := by
  have stops : (true && (trialsFrom file.spelling 0 cases).any fun r => !r.passes) = true := by
    simpa using fails
  rw [runFiles, loaded]
  show Logged.mk (_ :: (_ ++ _)) _ = _
  rw [runCases_eq, stops, tried_true]
  simp [announcement]

/-- What comes of files behind some that load and do not end the run. -/
theorem result_runFiles_of_goesOn (failFast : Bool) (rest : List CaseFile)
    (loaded : Loaded t before batches)
    (goesOn : failFast → ∀ r ∈ trials before batches, r.passes) (s : Summary) :
    (runFiles t failFast (before ++ rest) s).result =
      (runFiles t failFast rest (s.after (trials before batches))).result := by
  induction loaded generalizing s with
  | nil => simp [trials]
  | @cons file cases before batches first _ ih =>
    rw [trials_cons] at goesOn
    rw [List.cons_append, runFiles_cons_of_goesOn failFast first fun stops r member =>
      goesOn stops r (List.mem_append_left _ member)]
    rw [ih (fun stops r member => goesOn stops r (List.mem_append_right _ member)), trials_cons,
      Summary.after_append]

/-- Files that load, if the run ends at the first failure in them. -/
theorem result_runFiles_of_stops (loaded : Loaded t before batches)
    (fails : ¬ ∀ r ∈ trials before batches, r.passes) (s : Summary) :
    (runFiles t true (before ++ rest) s).result =
      .ok (s.after (upToFailure (trials before batches))) := by
  induction loaded generalizing s with
  | nil => exact absurd nofun fails
  | @cons file cases before batches first _ ih =>
    rw [trials_cons] at fails ⊢
    by_cases passes : ∀ r ∈ trialsFrom file.spelling 0 cases, r.passes
    · have later : ¬ ∀ r ∈ trials before batches, r.passes :=
        fun all => fails (List.forall_mem_append.mpr ⟨passes, all⟩)
      rw [List.cons_append, runFiles_cons_of_goesOn true first fun _ => passes, ih later,
        upToFailure_append_of_all_pass passes, Summary.after_append]
    · rw [List.cons_append, runFiles_cons_of_stops first passes, upToFailure_append_of_fails passes]

theorem loaded_or_fault (t : FileTree) (files : List CaseFile) :
    (∃ batches, Loaded t files batches) ∨
    ∃ before batches file after e, files = before ++ file :: after ∧ Loaded t before batches ∧
      load t file.spelling = .error e := by
  induction files with
  | nil => exact .inl ⟨[], .nil⟩
  | cons file rest ih =>
    cases first : load t file.spelling with
    | error e => exact .inr ⟨[], [], file, rest, e, rfl, .nil, first⟩
    | ok cases =>
      rcases ih with ⟨batches, loaded⟩ | ⟨before, batches, g, after, e, rfl, loaded, fault⟩
      · exact .inl ⟨cases :: batches, .cons first loaded⟩
      · exact .inr ⟨file :: before, cases :: batches, g, after, e, rfl, .cons first loaded, fault⟩

theorem result_runFiles_of_fault (failFast : Bool) {e : SuiteError}
    (fault : load t file.spelling = .error e) (s : Summary) :
    (runFiles t failFast (file :: rest) s).result = .error e := by
  rw [runFiles, fault]
  rfl

/-- A run that stops at failures logs the beginning of what a run to the end logs. -/
theorem records_runFiles_prefix (t : FileTree) (files : List CaseFile) (s : Summary) :
    (runFiles t true files s).records <+: (runFiles t false files s).records := by
  induction files generalizing s with
  | nil => exact List.prefix_rfl
  | cons file rest ih =>
    cases first : load t file.spelling with
    | error e => simp [runFiles, first]
    | ok cases =>
      rw [runFiles_cons_of_goesOn false first nofun]
      by_cases passes : ∀ r ∈ trialsFrom file.spelling 0 cases, r.passes
      · rw [runFiles_cons_of_goesOn true first fun _ => passes]
        exact (List.prefix_cons_inj _).mpr ((List.prefix_append_right_inj _).mpr (ih _))
      · rw [runFiles_cons_of_stops first passes]
        obtain ⟨untried, split⟩ := upToFailure_prefix (trialsFrom file.spelling 0 cases)
        rw [← split, List.flatMap_append, List.append_assoc]
        refine (List.prefix_cons_inj _).mpr ?_
        rw [split]
        exact List.prefix_append _ _

end Files

/-! ## Runs and their collection -/

theorem run_of_collected {t : FileTree} {paths : List Path} {files : List CaseFile}
    (collected : collectFiles t paths = .ok files) (failFast : Bool) :
    run t paths failFast = runFiles t failFast files {} := by
  rw [run, collected]

/-- Where the collection fails, nothing is read or logged. -/
theorem run_of_not_collected {t : FileTree} {paths : List Path} {e : SuiteError}
    (refused : collectFiles t paths = .error e) (failFast : Bool) :
    run t paths failFast = ⟨[], .error e⟩ := by
  rw [run, refused]
  rfl

end Suite

end ValueOrder
