import ValueOrder.Proofs.Runs.Accounting

/-!
# The log of a run

A run logs what its trials log, file by file. Each case ends in one record of its own, which
tells whether it passed, so the summary can be told from the log alone.
-/

namespace ValueOrder

open Json (QuotedText Spells blank_nil blank_space)

namespace Comparison

/-- A comparison leaves one record, at the level of its outcome, however deep the values are. -/
theorem records_answer (left right : Value) (op : Operator) :
    (∃ holds message, (answer left right op).result = .ok holds ∧
      (answer left right op).records = [⟨.trace, .comparison, message⟩]) ∨
    ∃ e message, (answer left right op).result = .error e ∧
      (answer left right op).records = [⟨.debug, .comparison, message⟩] := by
  unfold answer
  cases left.order right with
  | ok outcome => exact .inl ⟨_, _, rfl, rfl⟩
  | error kinds => exact .inr ⟨_, _, rfl, rfl⟩

theorem records_answer_singleton (left right : Value) (op : Operator) :
    ∃ record, (answer left right op).records = [record] ∧ record.target = .comparison := by
  rcases records_answer left right op with ⟨_, _, _, logged⟩ | ⟨_, _, _, logged⟩
  all_goals exact ⟨_, logged, rfl⟩

end Comparison

/-- Whether the record says that a case passed. -/
def Record.tellsPass (r : Record) : Bool :=
  r.level = .debug && r.target = .cases && " passed".toList.isSuffixOf r.message.toList

/-- Whether the record reports the failure of a case. -/
def Record.tellsFailure (r : Record) : Bool :=
  r.level = .debug && r.target = .cases && !" passed".toList.isSuffixOf r.message.toList

namespace Suite

/-! ## Records of one case -/

/-- What a case logs: one record of its comparison if its operator is one, and what it came to. -/
inductive Trial.Logs (r : Trial) : List Record → Prop where
  | unknownOperator (unknown : Operator.ofText? r.case.op = none) : r.Logs [r.closing]
  | answered {op : Operator} {holds : Bool} {message : String}
      (parsed : Operator.ofText? r.case.op = some op) (got : r.case.evaluate.result = .ok holds) :
      r.Logs [⟨.trace, .comparison, message⟩, r.closing]
  | rejected {op : Operator} {e : ComparisonError} {message : String}
      (parsed : Operator.ofText? r.case.op = some op) (got : r.case.evaluate.result = .error e) :
      r.Logs [⟨.debug, .comparison, message⟩, r.closing]

namespace Trial

theorem records_eq (r : Trial) : r.records = r.case.evaluate.records ++ [r.closing] := by
  rw [records, Case.check]
  simp

theorem evaluate_of_unknown {c : Case} (unknown : Operator.ofText? c.op = none) :
    c.evaluate.records = [] := by
  simp [Case.evaluate, Operator.ofText, unknown]

theorem evaluate_of_parsed {c : Case} {op : Operator} (parsed : Operator.ofText? c.op = some op) :
    c.evaluate = Comparison.answer c.left c.right op := by
  simp [Case.evaluate, Operator.ofText, parsed, Operator.apply]

theorem logs (r : Trial) : r.Logs r.records := by
  rw [records_eq]
  cases parsed : Operator.ofText? r.case.op with
  | none =>
    rw [evaluate_of_unknown parsed]
    exact .unknownOperator parsed
  | some op =>
    have asked := evaluate_of_parsed parsed
    rcases Comparison.records_answer r.case.left r.case.right op with
      ⟨holds, message, got, logged⟩ | ⟨e, message, got, logged⟩
    · rw [asked, logged]
      exact .answered parsed (asked ▸ got)
    · rw [asked, logged]
      exact .rejected parsed (asked ▸ got)

/-! ## Closing records -/

theorem closing_of_passes {r : Trial} (passes : r.passes) :
    r.closing = ⟨.debug, .cases, location r.path r.index ++ " passed"⟩ := by
  rw [closing, failure?_eq_none_iff.mpr passes]

theorem closing_of_fails {r : Trial} {f : Failure} (fails : r.failure? = some f) :
    r.closing = ⟨.debug, .cases, f.render⟩ := by
  rw [closing, fails]

theorem suffix_append {s t : String} {w : List Char} (ends : w <:+ t.toList) :
    w <:+ (s ++ t).toList := by
  rw [String.toList_append]
  exact ends.trans (List.suffix_append _ _)

/-- The description of a mismatch ends with an answer or a quote. -/
theorem detail_ends (c : Case) (got : Except ComparisonError Bool) :
    ∃ last, last ∈ ['e', '\''] ∧ [last] <:+ (c.detail got).toList := by
  cases got with
  | ok holds =>
    have answer : ['e'] <:+ (answerWord holds).toList := by cases holds <;> decide
    exact ⟨'e', by decide, suffix_append answer⟩
  | error e =>
    have quote : ['\''] <:+ "'".toList := List.suffix_rfl
    exact ⟨'\'', by decide, suffix_append (suffix_append quote)⟩

/-- No failure is reported with the words for a pass. -/
theorem not_suffix_of_fails {r : Trial} {f : Failure} (fails : r.failure? = some f) :
    ¬ " passed".toList <:+ f.render.toList := by
  intro suffix
  obtain ⟨_, _, verdict⟩ := failure?_eq_some_iff.mp fails
  have described : f.detail = r.case.detail r.case.evaluate.result := by
    simp only [verdict?, Case.check, Logged.result_bind, Logged.result_pure] at verdict
    split_ifs at verdict
    exact (Option.some.inj verdict).symm
  obtain ⟨last, known, ends⟩ := detail_ends r.case r.case.evaluate.result
  rw [← described] at ends
  have d : ['d'] <:+ f.render.toList := .trans (by decide) suffix
  have same : [last] = ['d'] :=
    (List.suffix_of_suffix_length_le (suffix_append ends) d (Nat.le_refl 1)).eq_of_length rfl
  rw [List.cons.inj same |>.1] at known
  exact absurd known (by decide)

theorem tells_closing (r : Trial) :
    r.closing.tellsPass = r.passes ∧ r.closing.tellsFailure = !r.passes := by
  by_cases passes : r.passes
  · have suffix : " passed".toList.isSuffixOf (location r.path r.index ++ " passed").toList = true :=
      List.isSuffixOf_iff_suffix.mpr (suffix_append List.suffix_rfl)
    rw [closing_of_passes passes, Record.tellsPass, Record.tellsFailure, suffix, passes]
    exact ⟨rfl, rfl⟩
  · obtain ⟨f, fails⟩ := not_passes_iff.mp passes
    have other : " passed".toList.isSuffixOf f.render.toList = false := by
      rw [← Bool.not_eq_true, List.isSuffixOf_iff_suffix]
      exact not_suffix_of_fails fails
    rw [closing_of_fails fails, Record.tellsPass, Record.tellsFailure, other,
      (Bool.not_eq_true _).mp passes]
    exact ⟨rfl, rfl⟩

/-- Of the records of a case only the last tells what it came to. -/
theorem filter_records (r : Trial) {p : Record → Bool}
    (silent : ∀ level message, p ⟨level, .comparison, message⟩ = false) :
    r.records.filter p = [r.closing].filter p := by
  generalize logged : r.records = log
  have shape := r.logs
  rw [logged] at shape
  cases shape with
  | unknownOperator _ => rfl
  | answered _ _ => rw [List.filter_cons_of_neg (by simp [silent])]
  | rejected _ _ => rw [List.filter_cons_of_neg (by simp [silent])]

theorem filter_tellsPass_records (r : Trial) :
    r.records.filter Record.tellsPass = if r.passes then [r.closing] else [] := by
  rw [filter_records r (by simp [Record.tellsPass])]
  by_cases passes : r.passes <;> simp [r.tells_closing, passes]

theorem filter_tellsFailure_records (r : Trial) :
    r.records.filter Record.tellsFailure = if r.passes then [] else [r.closing] := by
  rw [filter_records r (by simp [Record.tellsFailure])]
  by_cases passes : r.passes <;> simp [r.tells_closing, passes]

end Trial

/-! ## Records of several cases -/

theorem countP_tellsPass (rs : List Trial) :
    (rs.flatMap Trial.records).countP Record.tellsPass = rs.countP Trial.passes := by
  induction rs with
  | nil => rfl
  | cons r rest ih =>
    rw [List.flatMap_cons, List.countP_append, ih, List.countP_eq_length_filter,
      r.filter_tellsPass_records, List.countP_cons, Nat.add_comm]
    cases r.passes <;> rfl

theorem messages_tellsFailure (rs : List Trial) :
    ((rs.flatMap Trial.records).filter Record.tellsFailure).map (·.message) =
      (rs.filterMap Trial.failure?).map Failure.render := by
  induction rs with
  | nil => rfl
  | cons r rest ih =>
    rw [List.flatMap_cons, List.filter_append, List.map_append, ih, r.filter_tellsFailure_records]
    by_cases passes : r.passes
    · rw [if_pos passes, List.filterMap_cons_none (Trial.failure?_eq_none_iff.mpr passes)]
      rfl
    · obtain ⟨f, fails⟩ := Trial.not_passes_iff.mp passes
      rw [if_neg passes, List.filterMap_cons_some fails, Trial.closing_of_fails fails]
      rfl

/-! ## Files that are read -/

/-- The files that a run reads with their cases: all of them, or if it stops at failures those
up to the first in which a case fails. -/
inductive Reads (t : FileTree) (failFast : Bool) :
    List CaseFile → List (CaseFile × List Case) → Prop where
  | nil : Reads t failFast [] []
  | next {file : CaseFile} {files : List CaseFile} {cases : List Case}
      {read : List (CaseFile × List Case)} (loaded : load t file.spelling = .ok cases)
      (goesOn : failFast → ∀ r ∈ trialsFrom file.spelling 0 cases, r.passes)
      (rest : Reads t failFast files read) : Reads t failFast (file :: files) ((file, cases) :: read)
  | last {file : CaseFile} {files : List CaseFile} {cases : List Case}
      (loaded : load t file.spelling = .ok cases) (stops : failFast)
      (fails : ∃ r ∈ trialsFrom file.spelling 0 cases, ¬ r.passes) :
      Reads t failFast (file :: files) [(file, cases)]

/-- The trials of a file that are made. -/
def made (failFast : Bool) (read : CaseFile × List Case) : List Trial :=
  tried failFast (trialsFrom read.1.spelling 0 read.2)

/-- What is logged for a file: its announcement, and then its cases in order. -/
def fileRecords (failFast : Bool) (read : CaseFile × List Case) : List Record :=
  announcement read.1 read.2 :: (made failFast read).flatMap Trial.records

section Files
variable {t : FileTree} {failFast : Bool} {files : List CaseFile}
  {read : List (CaseFile × List Case)}

/-- The files are read in the order of the collection. -/
theorem Reads.files_prefix (reads : Reads t failFast files read) : read.map (·.1) <+: files := by
  induction reads with
  | nil => exact List.prefix_rfl
  | next _ _ _ ih => exact (List.prefix_cons_inj _).mpr ih
  | last _ _ _ => exact (List.prefix_cons_inj _).mpr List.nil_prefix

theorem Reads.files_eq (reads : Reads t failFast files read) (goesOn : failFast = false) :
    read.map (·.1) = files := by
  induction reads with
  | nil => rfl
  | next _ _ _ ih => rw [List.map_cons, ih]
  | last _ stops _ => rw [goesOn] at stops; cases stops

theorem made_of_goesOn {file : CaseFile} {cases : List Case}
    (goesOn : failFast → ∀ r ∈ trialsFrom file.spelling 0 cases, r.passes) :
    made failFast (file, cases) = trialsFrom file.spelling 0 cases := by
  cases failFast with
  | false => rfl
  | true => exact upToFailure_of_all_pass (goesOn rfl)

/-- The records and the summary of a run are those of the trials that it makes. -/
theorem runFiles_of_reads (reads : Reads t failFast files read) (s : Summary) :
    runFiles t failFast files s =
      ⟨read.flatMap (fileRecords failFast), .ok (s.after (read.flatMap (made failFast)))⟩ := by
  induction reads generalizing s with
  | nil =>
    rw [List.flatMap_nil, List.flatMap_nil, Summary.after_nil]
    rfl
  | next loaded goesOn _ ih =>
    rw [runFiles_cons_of_goesOn failFast loaded goesOn, ih, List.flatMap_cons, List.flatMap_cons,
      fileRecords, made_of_goesOn goesOn, Summary.after_append]
    rfl
  | last loaded stops fails =>
    rw [stops, runFiles_cons_of_stops loaded (by simpa using fails), List.flatMap_singleton,
      List.flatMap_singleton]
    rfl

theorem exists_reads {s s' : Summary} (ran : (runFiles t failFast files s).result = .ok s') :
    ∃ read, Reads t failFast files read := by
  induction files generalizing s with
  | nil => exact ⟨[], .nil⟩
  | cons file rest ih =>
    cases loaded : load t file.spelling with
    | error e =>
      rw [result_runFiles_of_fault failFast loaded] at ran
      cases ran
    | ok cases =>
      by_cases goesOn : failFast → ∀ r ∈ trialsFrom file.spelling 0 cases, r.passes
      · rw [runFiles_cons_of_goesOn failFast loaded goesOn] at ran
        obtain ⟨read, reads⟩ := ih ran
        exact ⟨(file, cases) :: read, .next loaded goesOn reads⟩
      · obtain ⟨stops, notAll⟩ := Classical.not_imp.mp goesOn
        have fails : ∃ r ∈ trialsFrom file.spelling 0 cases, ¬ r.passes := by simpa using notAll
        exact ⟨[(file, cases)], .last loaded stops fails⟩

theorem tells_fileRecords (read : List (CaseFile × List Case)) :
    (read.flatMap (fileRecords failFast)).countP Record.tellsPass =
        (read.flatMap (made failFast)).countP Trial.passes ∧
      ((read.flatMap (fileRecords failFast)).filter Record.tellsFailure).map (·.message) =
        ((read.flatMap (made failFast)).filterMap Trial.failure?).map Failure.render := by
  induction read with
  | nil => exact ⟨rfl, rfl⟩
  | cons first rest ih =>
    have announced : (announcement first.1 first.2).tellsPass = false ∧
        (announcement first.1 first.2).tellsFailure = false := ⟨rfl, rfl⟩
    refine ⟨?_, ?_⟩
    · rw [List.flatMap_cons, List.flatMap_cons, List.countP_append, List.countP_append, ih.1,
        fileRecords, List.countP_cons_of_neg (by simp [announced]), countP_tellsPass]
    · rw [List.flatMap_cons, List.flatMap_cons, List.filter_append, List.map_append, ih.2,
        List.filterMap_append, List.map_append, fileRecords,
        List.filter_cons_of_neg (by simp [announced]), messages_tellsFailure]

end Files

/-! ## The log of a run -/

end Suite

end ValueOrder
