import ValueOrder.Program
import ValueOrder.Proofs.Runs.Accounting

/-!
# Stopping at the first failure

A run that stops at the first failure is the beginning of the run that does not. It never
changes whether a run succeeds, and so not the exit code either.
-/

namespace ValueOrder.Suite

section Runs
variable {t : FileTree} {paths : List Path} {files before after : List CaseFile}
  {batches : List (List Case)}

/-! ## The first failure -/

theorem all_pass_or_first (rs : List Trial) :
    (∀ r ∈ rs, r.passes) ∨
    ∃ before r after f, rs = before ++ r :: after ∧ (∀ q ∈ before, q.passes) ∧
      r.failure? = some f := by
  rcases forall_or_first (·.passes) rs with all | ⟨before, r, after, split, earlier, fails⟩
  · exact .inl all
  · obtain ⟨f, reported⟩ := Trial.not_passes_iff.mp fails
    exact .inr ⟨before, r, after, f, split, earlier, reported⟩

/-- The cases before the first that fails, and its failure, make up the summary. -/
theorem after_upToFailure {passing others : List Trial} {r : Trial} {f : Failure}
    (passes : ∀ q ∈ passing, q.passes) (fails : r.failure? = some f) :
    ({} : Summary).after (upToFailure (passing ++ r :: others)) = ⟨passing.length, [f]⟩ := by
  have notPasses : ¬ r.passes := Trial.not_passes_iff.mpr ⟨f, fails⟩
  have counted : passing.countP Trial.passes = passing.length := List.countP_eq_length.mpr passes
  have silent : passing.filterMap Trial.failure? = [] := (failures_eq_nil_iff passing).mpr passes
  rw [upToFailure_of_first passes notPasses, after_empty, List.countP_append, counted,
    List.countP_cons_of_neg notPasses, List.filterMap_append, silent,
    List.filterMap_cons_some fails]
  rfl

/-! ## Runs that stop at the first failure -/

theorem result_run_of_stops {passing others : List Trial} {r : Trial} {f : Failure}
    (collected : collectFiles t paths = .ok (before ++ after)) (loaded : Loaded t before batches)
    (split : trials before batches = passing ++ r :: others) (passes : ∀ q ∈ passing, q.passes)
    (fails : r.failure? = some f) :
    (run t paths true).result = .ok ⟨passing.length, [f]⟩ := by
  have notAll : ¬ ∀ q ∈ trials before batches, q.passes := fun all =>
    Trial.not_passes_iff.mpr ⟨f, fails⟩
      (all r (split ▸ List.mem_append_right passing (.head others)))
  rw [run_of_collected collected, result_runFiles_of_stops loaded notAll, split,
    after_upToFailure passes fails]

theorem result_run_of_all_pass (collected : collectFiles t paths = .ok (before ++ after))
    (loaded : Loaded t before batches) (passes : ∀ r ∈ trials before batches, r.passes)
    (failFast : Bool) :
    (run t paths failFast).result =
      (runFiles t failFast after (({} : Summary).after (trials before batches))).result := by
  rw [run_of_collected collected]
  exact result_runFiles_of_goesOn failFast after loaded (fun _ => passes) {}

/-- A run without failures is the same if it would have stopped at one. -/
theorem fast_of_success {s : Summary} (full : (run t paths false).result = .ok s)
    (clean : s.failures = []) : (run t paths true).result = .ok s := by
  obtain ⟨files, batches, collected, loaded, rfl⟩ := result_run_eq_ok_iff.mp full
  have passes := (failures_eq_nil_iff _).mp clean
  rw [← List.append_nil files] at collected
  rw [result_run_of_all_pass collected loaded passes true, after_empty]
  rfl

/-- Of a run with failures the first is left, with the cases that passed before it. -/
theorem fast_of_failures {s : Summary} {f : Failure} {later : List Failure}
    (full : (run t paths false).result = .ok s) (failing : s.failures = f :: later) :
    ∃ files batches passing r others, collectFiles t paths = .ok files ∧ Loaded t files batches ∧
      trials files batches = passing ++ r :: others ∧ (∀ q ∈ passing, q.passes) ∧
      r.failure? = some f ∧ (run t paths true).result = .ok ⟨passing.length, [f]⟩ := by
  obtain ⟨files, batches, collected, loaded, rfl⟩ := result_run_eq_ok_iff.mp full
  dsimp only at failing
  rcases all_pass_or_first (trials files batches) with all | ⟨passing, r, others, g, split, passes, fails⟩
  · rw [(failures_eq_nil_iff _).mpr all] at failing
    cases failing
  · have silent : passing.filterMap Trial.failure? = [] := (failures_eq_nil_iff passing).mpr passes
    rw [split, List.filterMap_append, silent, List.filterMap_cons_some fails] at failing
    cases failing
    refine ⟨files, batches, passing, r, others, collected, loaded, split, passes, fails, ?_⟩
    rw [← List.append_nil files] at collected
    exact result_run_of_stops collected loaded split passes fails

/-- A run that fails does so too if it stops at failures, unless it stops before. -/
theorem fast_of_error {e : SuiteError} (full : (run t paths false).result = .error e) :
    (run t paths true).result = .error e ∨
    ∃ before file after batches n f, collectFiles t paths = .ok (before ++ file :: after) ∧
      Loaded t before batches ∧ load t file.spelling = .error e ∧
      (∃ r ∈ trials before batches, r.failure? = some f) ∧
      (run t paths true).result = .ok ⟨n, [f]⟩ := by
  rcases result_run_eq_error_iff.mp full with
    refused | ⟨before, file, after, batches, collected, loaded, fault⟩
  · exact .inl (by rw [run_of_not_collected refused])
  · rcases all_pass_or_first (trials before batches) with all | ⟨passing, r, others, f, split, passes, fails⟩
    · left
      rw [result_run_of_all_pass collected loaded all true, result_runFiles_of_fault true fault]
    · right
      refine ⟨before, file, after, batches, passing.length, f, collected, loaded, fault, ?_, ?_⟩
      · exact ⟨r, split ▸ List.mem_append_right passing (.head others), fails⟩
      · exact result_run_of_stops collected loaded split passes fails

/-- Whether a run succeeds does not depend on where it stops. -/
theorem success_fast_iff (t : FileTree) (paths : List Path) :
    (∃ s, (run t paths true).result = .ok s ∧ s.success) ↔
      ∃ s, (run t paths false).result = .ok s ∧ s.success := by
  cases full : (run t paths false).result with
  | error e =>
    rcases fast_of_error full with fast | ⟨_, _, _, _, n, f, _, _, _, _, fast⟩
    · simp [fast]
    · simp [fast, Summary.success]
  | ok s =>
    cases failing : s.failures with
    | nil => simp [fast_of_success full failing]
    | cons f later =>
      obtain ⟨_, _, passing, _, _, _, _, _, _, _, fast⟩ := fast_of_failures full failing
      simp [fast, Summary.success, failing]

theorem records_run_prefix (t : FileTree) (paths : List Path) :
    (run t paths true).records <+: (run t paths false).records := by
  cases collected : collectFiles t paths with
  | error e =>
    have same : run t paths true = run t paths false := by
      rw [run_of_not_collected collected, run_of_not_collected collected]
    exact same ▸ List.prefix_rfl
  | ok files =>
    rw [run_of_collected collected, run_of_collected collected]
    exact records_runFiles_prefix t files {}

/-! ## The exit code -/

section ExitCodes
variable {arguments : List String}

/-- A run over files leaves its summary and its failures behind, or its error. -/
theorem outcome_of_cases {config : Config} (mode : config.mode = .cases arguments) (t : FileTree) :
    Program.outcome t config = ⟨(run t (arguments.map .ofString) config.failFast).records,
      match (run t (arguments.map .ofString) config.failFast).result with
      | .ok s => ⟨if s.success then 0 else 1, s.render ++ "\n",
          String.join (s.failures.map fun f => f.render ++ "\n")⟩
      | .error e => ⟨1, "", e.report.render⟩⟩ := by
  unfold Program.outcome
  rw [mode]
  show Logged.mk _ _ = _
  cases (run t (arguments.map .ofString) config.failFast).result with
  | ok s => simp
  | error e => simp

/-- The exit code of a run over files is that of its summary, and 1 if it has none. -/
theorem exitCode_execute {config : Config} (mode : config.mode = .cases arguments)
    (t : FileTree) (spec? : Option String) :
    (Program.execute t spec? config).exitCode =
      match (run t (arguments.map .ofString) config.failFast).result with
      | .ok s => if s.success then 0 else 1
      | .error _ => 1 := by
  rw [Program.execute, outcome_of_cases mode]
  cases (run t (arguments.map .ofString) config.failFast).result with
  | ok s => rfl
  | error e => rfl

theorem exitCode_execute_eq_zero_iff (config : Config) (mode : config.mode = .cases arguments)
    (t : FileTree) (spec? : Option String) :
    (Program.execute t spec? config).exitCode = 0 ↔
      ∃ s, (run t (arguments.map .ofString) config.failFast).result = .ok s ∧ s.success := by
  rw [exitCode_execute mode]
  cases (run t (arguments.map .ofString) config.failFast).result with
  | error e => simp
  | ok s => cases success : s.success <;> simp [success]

theorem exitCode_execute_le_one (config : Config) (mode : config.mode = .cases arguments)
    (t : FileTree) (spec? : Option String) : (Program.execute t spec? config).exitCode ≤ 1 := by
  rw [exitCode_execute mode]
  split
  · split <;> decide
  · decide

theorem exitCode_failFast {config : Config} (mode : config.mode = .cases arguments) (t : FileTree)
    (spec? : Option String) :
    (Program.execute t spec? { config with failFast := true }).exitCode =
      (Program.execute t spec? { config with failFast := false }).exitCode := by
  have fast := exitCode_execute_eq_zero_iff { config with failFast := true } mode t spec?
  have full := exitCode_execute_eq_zero_iff { config with failFast := false } mode t spec?
  have same := fast.trans ((success_fast_iff t (arguments.map .ofString)).trans full.symm)
  have fastBound := exitCode_execute_le_one { config with failFast := true } mode t spec?
  have fullBound := exitCode_execute_le_one { config with failFast := false } mode t spec?
  omega

end ExitCodes

/-- Stopping at the first failure cuts a run short and changes nothing else: a run without
failures stays as it is, of others the first failure is left with the cases that passed
before it, and an error is the same unless a failure in an earlier file came first. Success,
exit code and the beginning of the log are the same. -/
theorem fail_fast_truncates (t : FileTree) (paths : List Path) :
    (∀ s, (run t paths false).result = .ok s → s.failures = [] →
      (run t paths true).result = .ok s) ∧
    (∀ s f later, (run t paths false).result = .ok s → s.failures = f :: later →
      ∃ files batches passing r others, collectFiles t paths = .ok files ∧
        Loaded t files batches ∧ trials files batches = passing ++ r :: others ∧
        (∀ q ∈ passing, q.passes) ∧ r.failure? = some f ∧
        (run t paths true).result = .ok ⟨passing.length, [f]⟩) ∧
    (∀ e, (run t paths false).result = .error e →
      (run t paths true).result = .error e ∨
      ∃ before file after batches n f, collectFiles t paths = .ok (before ++ file :: after) ∧
        Loaded t before batches ∧ load t file.spelling = .error e ∧
        (∃ r ∈ trials before batches, r.failure? = some f) ∧
        (run t paths true).result = .ok ⟨n, [f]⟩) ∧
    ((∃ s, (run t paths true).result = .ok s ∧ s.success) ↔
      ∃ s, (run t paths false).result = .ok s ∧ s.success) ∧
    (∀ (config : Config) (arguments : List String) (spec? : Option String),
      config.mode = .cases arguments →
      (Program.execute t spec? { config with failFast := true }).exitCode =
        (Program.execute t spec? { config with failFast := false }).exitCode) ∧
    (run t paths true).records <+: (run t paths false).records :=
  ⟨fun _ full clean => fast_of_success full clean,
    fun _ _ _ full failing => fast_of_failures full failing,
    fun _ full => fast_of_error full,
    success_fast_iff t paths,
    fun _ _ spec? mode => exitCode_failFast mode t spec?,
    records_run_prefix t paths⟩

end Runs

end ValueOrder.Suite
