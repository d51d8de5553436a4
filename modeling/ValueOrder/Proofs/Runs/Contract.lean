import ValueOrder.Proofs.Arguments.Requests
import ValueOrder.Proofs.Cases.Files
import ValueOrder.Proofs.Files.Depth
import ValueOrder.Proofs.Runs.FailFast
import ValueOrder.Proofs.Runs.Records

/-!
# What a run leaves behind

A run exits with 0 only if all that was asked of it came out well: the pair has an answer, or
each path leads somewhere that can be searched and the text of each file found there spells
cases that all come to what they expect. It prints its answer or its counts and nothing else,
and behind the log it reports each failure, or the error for which it has no answer.
-/

namespace ValueOrder

/-! ## Pairs -/

namespace Pair

section Answers
variable {left op right : String}

/-- The texts denote two values and an operator, and the comparison of the values has this
answer. -/
def Answers (left op right : String) (holds : Bool) : Prop :=
  ∃ l r o, Value.ofJsonText left = .ok l ∧ Value.ofJsonText right = .ok r ∧
    Operator.ofText op = .ok o ∧ (Comparison.answer l r o).result = .ok holds

theorem result_answer_eq_ok_iff {holds : Bool} :
    (answer left op right).result = .ok holds ↔ Answers left op right holds := by
  by_cases readable : Value.IsReadable left ∧ Value.IsReadable right
  · obtain ⟨⟨l, readLeft⟩, r, readRight⟩ := readable
    -- What the case expects plays no part.
    rw [result_answer readLeft readRight none (.answer holds), Case.evaluate]
    simp only [Answers, readLeft, readRight, Except.ok.injEq, exists_and_left, exists_eq_left']
    cases Operator.ofText op with
    | error e => simp [Except.mapError]
    | ok o =>
      simp only [Operator.apply, Except.ok.injEq, exists_eq_left']
      cases (Comparison.answer l r o).result with
      | error e => simp [Except.mapError]
      | ok found => simp [Except.mapError]
  · obtain ⟨e, failed, _⟩ := @result_answer_of_not_readable left op right readable
    rw [failed]
    constructor
    · intro answered
      cases answered
    · rintro ⟨l, r, o, readLeft, readRight, _⟩
      exact absurd ⟨⟨l, readLeft⟩, r, readRight⟩ readable

end Answers

end Pair

/-! ## Case files -/

/-- The case comes to what it expects: the answer to its question, or an error whose message
contains its fragment, since the operator is unknown or the operands have no order. -/
inductive Case.ComesOut (c : Case) : Prop where
  | answer {holds : Bool} {o : Operator} (expects : c.expect = .answer holds)
      (known : Operator.ofText c.op = .ok o)
      (compared : (Comparison.answer c.left c.right o).result = .ok holds)
  | unknown {fragment : String} {e : ComparisonError} (expects : c.expect = .failure fragment)
      (unknown : Operator.ofText c.op = .error e) (contained : fragment.toList <:+: e.message.toList)
  | unsupported {fragment : String} {o : Operator} {e : ComparisonError}
      (expects : c.expect = .failure fragment) (known : Operator.ofText c.op = .ok o)
      (compared : (Comparison.answer c.left c.right o).result = .error e)
      (contained : fragment.toList <:+: e.message.toList)

theorem Case.result_check_eq_none_iff_comesOut (c : Case) : c.check.result = none ↔ c.ComesOut := by
  rw [result_check_eq_none_iff, evaluate]
  constructor
  · intro met
    cases operator : Operator.ofText c.op with
    | error e =>
      rw [operator] at met
      obtain ⟨fragment, expects, contained⟩ := isMet_error_iff.mp met
      exact .unknown expects operator contained
    | ok o =>
      rw [operator] at met
      dsimp only [Operator.apply] at met
      cases compared : (Comparison.answer c.left c.right o).result with
      | ok holds =>
        rw [compared] at met
        exact .answer (isMet_ok_iff.mp met) operator compared
      | error e =>
        rw [compared] at met
        obtain ⟨fragment, expects, contained⟩ := isMet_error_iff.mp met
        exact .unsupported expects operator compared contained
  · intro comes
    cases comes with
    | answer expects known compared =>
      rw [known]
      dsimp only [Operator.apply]
      rw [compared]
      exact isMet_ok_iff.mpr expects
    | unknown expects unknown contained =>
      rw [unknown]
      exact isMet_error_iff.mpr ⟨_, expects, contained⟩
    | unsupported expects known compared contained =>
      rw [known]
      dsimp only [Operator.apply]
      rw [compared]
      exact isMet_error_iff.mpr ⟨_, expects, contained⟩

namespace Suite

section Runs
variable {t : FileTree} {path : Path} {paths : List Path} {files : List CaseFile}
  {batches : List (List Case)}

/-- The file can be read, its text spells cases, and each of them comes to what it expects. -/
def FilePasses (t : FileTree) (path : Path) : Prop :=
  ∃ text cases, t.readText path = .ok text ∧ Case.CaseFileText 125 cases text.toList ∧
    ∀ c ∈ cases, c.ComesOut

theorem filePasses_iff : FilePasses t path ↔
    ∃ cases, load t path = .ok cases ∧ ∀ c ∈ cases, c.ComesOut := by
  simp only [load_eq_ok_iff]
  constructor
  · rintro ⟨text, cases, read, written, come⟩
    exact ⟨cases, ⟨text, read, written⟩, come⟩
  · rintro ⟨cases, ⟨text, read, written⟩, come⟩
    exact ⟨text, cases, read, written, come⟩

theorem passes_trialsFrom_iff {index : Nat} {cases : List Case} :
    (∀ r ∈ trialsFrom path index cases, r.passes) ↔ ∀ c ∈ cases, c.ComesOut := by
  induction cases generalizing index with
  | nil => simp
  | cons c rest ih =>
    rw [trialsFrom_cons, List.forall_mem_cons, List.forall_mem_cons, ih, Trial.passes_iff,
      Trial.verdict?, Case.result_check_eq_none_iff_comesOut]

/-- Files that load pass exactly if all trials made of them do. -/
theorem passes_trials_iff (loaded : Loaded t files batches) :
    (∀ r ∈ trials files batches, r.passes) ↔ ∀ file ∈ files, FilePasses t file.spelling := by
  induction loaded with
  | nil => simp [trials]
  | @cons file cases files batches first _ ih =>
    have here : FilePasses t file.spelling ↔ ∀ c ∈ cases, c.ComesOut := by
      simp [filePasses_iff, first]
    rw [trials_cons, List.forall_mem_append, List.forall_mem_cons, ih, passes_trialsFrom_iff, here]

theorem exists_loaded (loads : ∀ file ∈ files, ∃ cases, load t file.spelling = .ok cases) :
    ∃ batches, Loaded t files batches := by
  rcases loaded_or_fault t files with all | ⟨before, _, file, after, e, rfl, _, fault⟩
  · exact all
  · obtain ⟨cases, loaded⟩ := loads file (List.mem_append_right before (.head after))
    rw [fault] at loaded
    cases loaded

/-- Each path leads to a file or to a directory in which everything can be listed, and the case
files there are collected, each under its key, and pass. -/
structure AllFilesPass (t : FileTree) (paths : List Path) : Prop where
  found : ∀ path ∈ paths, IsCasePath t path ∧ IsWalkable t path
  pass : ∃ files, collectFiles t paths = .ok files ∧
    (∀ path ∈ paths, ∀ spelling name, Contributes t path spelling name →
      ∃ file ∈ files, file.key = t.key spelling) ∧
    ∀ file ∈ files, FilePasses t file.spelling

theorem success_iff_allFilesPass (t : FileTree) (paths : List Path) (failFast : Bool) :
    (∃ s, (run t paths failFast).result = .ok s ∧ s.success) ↔ AllFilesPass t paths := by
  have full : (∃ s, (run t paths false).result = .ok s ∧ s.success) ↔ AllFilesPass t paths := by
    constructor
    · rintro ⟨s, ran, success⟩
      obtain ⟨files, batches, collected, loaded, rfl⟩ := result_run_eq_ok_iff.mp ran
      have passes := (failures_eq_nil_iff _).mp (List.isEmpty_iff.mp success)
      exact ⟨exists_collectFiles_iff.mp ⟨files, collected⟩, files, collected,
        fun _ argument _ _ => exists_mem_of_contributes collected argument,
        (passes_trials_iff loaded).mp passes⟩
    · rintro ⟨_, files, collected, _, passes⟩
      obtain ⟨batches, loaded⟩ := exists_loaded fun file mem =>
        (filePasses_iff.mp (passes file mem)).imp fun _ => And.left
      refine ⟨_, result_run_of_loaded collected loaded, ?_⟩
      rw [after_empty, Summary.success, List.isEmpty_iff, failures_eq_nil_iff]
      exact (passes_trials_iff loaded).mpr passes
  cases failFast with
  | false => exact full
  | true => exact (success_fast_iff t paths).trans full

/-! ### Failures as they are reported -/

/-- The line of a failure: the file, the index of the case, its name if it has one, and what it
expected and came to. -/
inductive FailureLine : Failure → String → Prop where
  | named {path : Path} {index : Nat} {name detail : String} :
      FailureLine ⟨location path index, some name, detail⟩
        ("FAIL " ++ path.display ++ "#" ++ toString index ++ " (" ++ name ++ "): " ++ detail ++ "\n")
  | unnamed {path : Path} {index : Nat} {detail : String} :
      FailureLine ⟨location path index, none, detail⟩
        ("FAIL " ++ path.display ++ "#" ++ toString index ++ ": " ++ detail ++ "\n")

theorem failureLine_of_failure? {r : Trial} {f : Failure} (fails : r.failure? = some f) :
    FailureLine f (f.render ++ "\n") := by
  obtain ⟨place, name?, detail⟩ := f
  obtain ⟨rfl, _, _⟩ := Trial.failure?_eq_some_iff.mp fails
  cases name? with
  | some name =>
    have line : FailureLine ⟨location r.path r.index, some name, detail⟩ _ := .named
    simpa [Failure.render, location, String.append_assoc] using line
  | none =>
    have line : FailureLine ⟨location r.path r.index, none, detail⟩ _ := .unnamed
    simpa [Failure.render, location, String.append_assoc] using line

/-- Every failure of a run is that of a trial. -/
theorem exists_trial_of_failure {failFast : Bool} {s : Summary} {f : Failure}
    (ran : (run t paths failFast).result = .ok s) (mem : f ∈ s.failures) :
    ∃ r : Trial, r.failure? = some f := by
  cases collected : collectFiles t paths with
  | error e =>
    rw [run_of_not_collected collected] at ran
    cases ran
  | ok files =>
    rw [run_of_collected collected] at ran
    obtain ⟨read, reads⟩ := exists_reads ran
    rw [runFiles_of_reads reads, after_empty] at ran
    cases ran
    obtain ⟨r, _, fails⟩ := List.mem_filterMap.mp mem
    exact ⟨r, fails⟩

end Runs

end Suite

/-! ## Runs -/

namespace Program

section Pairs
variable {config : Config} {left op right : String}

/-- The output is the answer to the question that the texts make up. If they make up none, or
one without an answer, nothing is said and the run fails. -/
structure AnswersPair (left op right : String) (out : Output) : Prop where
  exits : out.exitCode = 0 ↔ ∃ holds, Pair.Answers left op right holds
  answer : ∀ holds, Pair.Answers left op right holds →
    out.stdout = if holds then "true\n" else "false\n"
  refusal : out.exitCode ≠ 0 → out.exitCode = 1 ∧ out.stdout = ""

theorem result_outcome_of_pair (mode : config.mode = .pair left op right) (t : FileTree) :
    (outcome t config).result = match (Pair.answer left op right).result with
      | .ok holds => ⟨0, answerWord holds ++ "\n", ""⟩
      | .error e => ⟨1, "", e.report.render⟩ := by
  unfold outcome
  rw [mode]
  simp only [Logged.result_bind]
  cases (Pair.answer left op right).result <;> rfl

theorem answersPair_execute (mode : config.mode = .pair left op right) (t : FileTree)
    (spec? : Option String) : AnswersPair left op right (execute t spec? config) := by
  have came := result_outcome_of_pair mode t
  cases answered : (Pair.answer left op right).result with
  | ok holds =>
    rw [answered] at came
    have exits : (execute t spec? config).exitCode = 0 := congrArg Output.exitCode came
    have prints : (execute t spec? config).stdout = answerWord holds ++ "\n" :=
      congrArg Output.stdout came
    constructor
    case exits =>
      exact ⟨fun _ => ⟨holds, Pair.result_answer_eq_ok_iff.mp answered⟩, fun _ => exits⟩
    case answer =>
      intro other same
      rw [Pair.result_answer_eq_ok_iff.mpr same] at answered
      cases answered
      rw [prints]
      cases holds <;> decide
    case refusal =>
      intro fails
      exact absurd exits fails
  | error e =>
    rw [answered] at came
    have exits : (execute t spec? config).exitCode = 1 := congrArg Output.exitCode came
    have silent : ∀ holds, ¬ Pair.Answers left op right holds := by
      intro holds answers
      rw [Pair.result_answer_eq_ok_iff.mpr answers] at answered
      cases answered
    constructor
    case exits =>
      rw [exits]
      simpa using silent
    case answer =>
      intro holds answers
      exact absurd answers (silent holds)
    case refusal =>
      intro _
      exact ⟨exits, congrArg Output.stdout came⟩

end Pairs

section Cases
variable {config : Config} {arguments : List String}

/-- The output accounts for the run over the files of the paths. It has the counts and, behind
the log, a line for each failure in turn, or the error if the run came to no summary. -/
structure AccountsFor (t : FileTree) (paths : List Path) (failFast : Bool) (log : String)
    (out : Output) : Prop where
  exits : out.exitCode = 0 ↔ Suite.AllFilesPass t paths
  refusal : out.exitCode ≠ 0 → out.exitCode = 1
  summary : ∀ s, (Suite.run t paths failFast).result = .ok s →
    out.stdout = toString s.passed ++ " passed, " ++ toString s.failed ++ " failed\n" ∧
    ∃ lines, out.stderr = log ++ String.join lines ∧
      List.Forall₂ Suite.FailureLine s.failures lines
  error : ∀ e, (Suite.run t paths failFast).result = .error e →
    out.exitCode = 1 ∧ out.stdout = "" ∧ out.stderr = log ++ e.report.render

theorem accountsFor_execute (mode : config.mode = .cases arguments) (t : FileTree)
    (spec? : Option String) :
    AccountsFor t (arguments.map .ofString) config.failFast
      (logText config.level spec? (Suite.run t (arguments.map .ofString) config.failFast).records)
      (execute t spec? config) := by
  constructor
  case exits =>
    rw [Suite.exitCode_execute_eq_zero_iff config mode, Suite.success_iff_allFilesPass]
  case refusal =>
    have bound := Suite.exitCode_execute_le_one config mode t spec?
    omega
  case summary =>
    intro s ran
    have line : " failed" ++ "\n" = " failed\n" := by decide
    rw [execute, Suite.outcome_of_cases mode, ran, ← line, ← String.append_assoc]
    refine ⟨rfl, _, rfl, List.forall₂_map_right_iff.mpr (List.forall₂_same.mpr fun f mem => ?_)⟩
    obtain ⟨r, fails⟩ := Suite.exists_trial_of_failure ran mem
    exact Suite.failureLine_of_failure? fails
  case error =>
    intro e failed
    rw [execute, Suite.outcome_of_cases mode, failed]
    exact ⟨rfl, rfl, rfl⟩

end Cases

/-- The contract of the program. A run for a pair exits with 0 exactly if both operands are
values, the operator is one and the values have an order, and then it prints the answer and
nothing else; otherwise it exits with 1 and prints nothing. A run for case files exits with 0
exactly if each path leads somewhere that can be searched, each file loads and each case comes
to what it expects, also if it stops at the first failure. It prints its counts and reports each
failure, in this order, and nothing but the error if it comes to no counts. -/
theorem run_keeps_contract {args : List String} {config : Config}
    (accepted : CommandLine.parse args = .ok config) (t : FileTree) (spec? : Option String) :
    (∀ left op right, config.mode = .pair left op right →
      AnswersPair left op right (run args t spec?)) ∧
    ∀ arguments, config.mode = .cases arguments →
      AccountsFor t (arguments.map .ofString) config.failFast
        (logText config.level spec? (Suite.run t (arguments.map .ofString) config.failFast).records)
        (run args t spec?) := by
  have carriedOut : run args t spec? = execute t spec? config := by
    rw [run, accepted]
  rw [carriedOut]
  refine ⟨?_, ?_⟩
  · intro left op right mode
    exact answersPair_execute mode t spec?
  · intro arguments mode
    exact accountsFor_execute mode t spec?

/-- The only case of a file fails if the opposite of the answer is expected, and passes else. -/
theorem result_run_oneFileTree (failFast expected : Bool) :
    (Suite.run (Suite.oneFileTree (Suite.askingText expected)) ["cases.json"] failFast).result =
      .ok (if expected then
        ⟨0, [⟨"cases.json#0", none, "True < False: expected true, got false"⟩]⟩ else ⟨1, []⟩) := by
  have loaded := Suite.load_asking (Suite.readText_oneFileTree (Suite.askingText expected))
  rw [Suite.run_of_collected (Suite.collectFiles_oneFileTree _), Suite.runFiles, loaded]
  cases expected <;> cases failFast <;> rfl

/-- A pair that has an answer, a file with a case that passes, one with a case that fails, and a
path that leads nowhere. -/
theorem pair_answered_and_files_run :
    ((run ["true", "<", "false"] .empty none).exitCode = 0 ∧
      (run ["true", "<", "false"] .empty none).stdout = "false\n") ∧
    ((run ["--cases", "cases.json"] (Suite.oneFileTree (Suite.askingText false)) none).exitCode = 0 ∧
      (run ["--cases", "cases.json"] (Suite.oneFileTree (Suite.askingText false)) none).stdout =
        "1 passed, 0 failed\n") ∧
    ((run ["--cases", "cases.json"] (Suite.oneFileTree (Suite.askingText true)) none).exitCode = 1 ∧
      (run ["--cases", "cases.json"] (Suite.oneFileTree (Suite.askingText true)) none).stdout =
        "0 passed, 1 failed\n") ∧
    (run ["--fail-fast", "--cases", "a.json"] .empty none).exitCode = 1 ∧
      (run ["--fail-fast", "--cases", "a.json"] .empty none).stdout = "" := by
  have asksPair : CommandLine.parse ["true", "<", "false"] =
      .ok ⟨.pair "true" "<" "false", false, .warn⟩ := rfl
  have asksFile := @CommandLine.parse_casePath "cases.json" (by decide) (by decide) (by decide)
  have asksAbsent : CommandLine.parse ["--fail-fast", "--cases", "a.json"] =
      .ok ⟨.cases ["a.json"], true, .warn⟩ := rfl
  refine ⟨?_, ?_, ?_, ?_⟩
  · have answers : Pair.Answers "true" "<" "false" false :=
      ⟨.boolean true, .boolean false, .lt, rfl, rfl, rfl, rfl⟩
    have pair := (run_keeps_contract asksPair .empty none).1 _ _ _ rfl
    exact ⟨pair.exits.mpr ⟨false, answers⟩, pair.answer false answers⟩
  · have ran := result_run_oneFileTree false false
    have files := (run_keeps_contract asksFile (Suite.oneFileTree (Suite.askingText false)) none).2 _ rfl
    have passes := (Suite.success_iff_allFilesPass _ _ false).mp ⟨_, ran, rfl⟩
    exact ⟨files.exits.mpr passes, (files.summary _ ran).1⟩
  · have ran := result_run_oneFileTree false true
    have files := (run_keeps_contract asksFile (Suite.oneFileTree (Suite.askingText true)) none).2 _ rfl
    refine ⟨files.refusal fun exits => ?_, (files.summary _ ran).1⟩
    obtain ⟨s, same, success⟩ := (Suite.success_iff_allFilesPass _ _ false).mpr (files.exits.mp exits)
    cases ran.symm.trans same
    cases success
  · have isName : IsName "a.json" := by constructor <;> decide
    have unresolved : FileTree.empty.resolve "a.json" = .error .notFound :=
      FileTree.resolve_absent isName rfl rfl rfl
    have missing : Suite.collectFiles .empty ["a.json"] = .error (.notCollected (.missing "a.json")) := by
      simp [Suite.collectFiles, Suite.collect, Suite.expandAll, Suite.gather, Suite.expand, unresolved,
        Except.map, Except.mapError]
    have failed : (Suite.run .empty ["a.json"] true).result =
        .error (.notCollected (.missing "a.json")) := by
      rw [Suite.run_of_not_collected missing]
    have files := (run_keeps_contract asksAbsent .empty none).2 _ rfl
    obtain ⟨exits, silent, _⟩ := files.error _ failed
    exact ⟨exits, silent⟩

/-! ## Directories that cannot be listed -/

/-- An argument of two hundred letters. -/
def longArgument : String := .ofList (.replicate 200 'a')

theorem toList_longArgument : longArgument.toList = .replicate 200 'a' := String.toList_ofList

theorem ofString_longArgument : Path.ofString longArgument = Suite.longName 0x61 := by
  have letter : String.utf8EncodeChar 'a' = [0x61] := by decide
  rw [Path.ofString, Text.bytes, toList_longArgument, List.flatMap_replicate, letter,
    List.flatten_replicate_singleton, Suite.longName]

theorem parse_longArgument :
    CommandLine.parse ["--cases", longArgument] = .ok ⟨.cases [longArgument], false, .warn⟩ := by
  have begins : longArgument.toList.head? = some 'a' := by
    rw [toList_longArgument]
    exact List.head?_replicate
  refine CommandLine.parse_casePath (by rw [begins]; decide) ?_ ?_
  · rw [toList_longArgument]
    intro comma
    cases List.eq_of_mem_replicate comma
  · intro empty
    rw [empty] at begins
    cases begins

/-- A run fails although its only path exists and leads to no case file, since a directory far
below it has no path by which it can be listed. -/
theorem unlistable_directory_fails :
    Suite.IsCasePath (Suite.deepTree (.directory [])) (.ofString longArgument) ∧
    (∀ spelling name,
      ¬ Suite.Contributes (Suite.deepTree (.directory [])) (.ofString longArgument) spelling name) ∧
    (run ["--cases", longArgument] (Suite.deepTree (.directory [])) none).exitCode = 1 := by
  rw [ofString_longArgument]
  refine ⟨Suite.isCasePath_deepDirectories, Suite.not_contributes_deepDirectories, ?_⟩
  rw [run, parse_longArgument]
  have accounts := @accountsFor_execute ⟨.cases [longArgument], false, .warn⟩ _ rfl
    (Suite.deepTree (.directory [])) none
  refine accounts.refusal fun exits => Suite.not_isWalkable_deepDirectories ?_
  rw [← ofString_longArgument]
  exact ((accounts.exits.mp exits).found _ (.head [])).2

end Program

end ValueOrder
