import ValueOrder.Proofs.Arguments.Flags
import ValueOrder.Proofs.Log.Thresholds

/-!
# The log and the flags for verbosity

What a run makes of its arguments depends on the flags for verbosity in its level only, and the
level only decides which records are shown. One more flag never hides a record. Where the
specification sets a level itself, flags change nothing about the log.
-/

namespace ValueOrder

/-! ## Lines -/

/-- The line shows the record. It has the name of the level, filled up to five places, the target,
filled up with any number of spaces, and the message. -/
def Record.ShownBy (r : Record) (line : String) : Prop :=
  ∃ behindLevel behindTarget, r.level.name.length + behindLevel = 5 ∧
    line = r.level.name ++ "".pushn ' ' behindLevel ++ " " ++ r.target.name ++
      "".pushn ' ' behindTarget ++ " > " ++ r.message ++ "\n"

theorem Record.shownBy_line (r : Record) (width : Nat) : r.ShownBy (r.line width) := by
  refine ⟨5 - r.level.name.length, width - r.target.name.length, ?_, ?_⟩
  · cases r.level <;> rfl
  · simp only [line, padded, String.append_assoc]

theorem Record.shownBy_lines (width : Nat) (records : List Record) :
    List.Forall₂ Record.ShownBy records (Record.lines width records) := by
  induction records generalizing width with
  | nil => exact .nil
  | cons r rest ih => exact .cons (r.shownBy_line _) (ih _)

/-! ## Command lines -/

namespace CommandLine

/-- How many flags for verbosity there are among arguments. -/
def verbosity (args : List String) : Nat := (parts args).count .verbose

/-- The arguments are the same, flags for verbosity aside. -/
def SameBesidesVerbosity (args other : List String) : Prop :=
  (parts args).filter (· ≠ .verbose) = (parts other).filter (· ≠ .verbose)

section Verbosity
variable {args other before after : List String} {config : Config}

theorem SameBesidesVerbosity.symm (same : SameBesidesVerbosity args other) :
    SameBesidesVerbosity other args :=
  Eq.symm same

/-- A flag for verbosity wherever an option may stand. -/
theorem sameBesidesVerbosity_insert (place : OptionPlace before after) :
    SameBesidesVerbosity (before ++ after) (before ++ "-v" :: after) ∧
      verbosity (before ++ "-v" :: after) = verbosity (before ++ after) + 1 := by
  have here : OptionPlace before ("-v" :: after) :=
    ⟨place.unmarked, fun _ => by simp [ofText_v, Token.isPlain]⟩
  constructor
  · rw [SameBesidesVerbosity, parts_append place, parts_append here, parts_v]
    simp
  · rw [verbosity, verbosity, parts_append place, parts_append here, parts_v]
    simp only [List.count_append, List.count_cons_self]
    omega

section Same
variable (same : SameBesidesVerbosity args other)
include same

theorem SameBesidesVerbosity.sameBesidesFlags : SameBesidesFlags (parts args) (parts other) := by
  have fewer (ps : List Part) :
      ps.filter (fun p => ¬ p.IsFlag) = (ps.filter (· ≠ .verbose)).filter fun p => ¬ p.IsFlag := by
    rw [List.filter_filter]
    refine List.filter_congr fun p _ => ?_
    by_cases verbose : p = .verbose <;> simp [verbose, Part.IsFlag]
  rw [SameBesidesFlags, fewer, same, ← fewer]

theorem SameBesidesVerbosity.count_failFast :
    (parts args).count .failFast = (parts other).count .failFast := by
  have fewer (ps : List Part) : ps.count .failFast = (ps.filter (· ≠ .verbose)).count .failFast :=
    (List.count_filter (by decide)).symm
  rw [fewer, same, ← fewer]

theorem SameBesidesVerbosity.failFast_iff : .failFast ∈ parts args ↔ .failFast ∈ parts other := by
  rw [← List.count_pos_iff, same.count_failFast, List.count_pos_iff]

/-- The same request, at the level that the other arguments ask for. -/
theorem parse_same (parsed : parse args = .ok config) :
    parse other = .ok { config with level := .ofFlags (verbosity other) } := by
  have requests := parse_eq_ok_iff.mp parsed
  refine parse_eq_ok_iff.mpr ⟨?_, ?_, ?_, ?_, rfl⟩
  · exact requests.toReadable.of_sameBesidesFlags same.sameBesidesFlags
  · exact requests.asks.of_sameBesidesFlags same.sameBesidesFlags
  · rw [← same.count_failFast]
    exact requests.once
  · rw [requests.failFast, decide_eq_decide]
    exact same.failFast_iff

/-- Flags for verbosity neither make nor break a request. -/
theorem SameBesidesVerbosity.requests :
    (∃ e e', parse args = .error e ∧ parse other = .error e') ∨
    ∃ config : Config, parse args = .ok { config with level := .ofFlags (verbosity args) } ∧
      parse other = .ok { config with level := .ofFlags (verbosity other) } := by
  cases parsed : parse args with
  | ok config => exact .inr ⟨config, parsed ▸ parse_same rfl parsed, parse_same same parsed⟩
  | error e =>
    cases parsed' : parse other with
    | error e' => exact .inl ⟨e, e', rfl, rfl⟩
    | ok config =>
      have both := parse_same same.symm parsed'
      rw [parsed] at both
      cases both

end Same

end Verbosity

end CommandLine

/-! ## Runs -/

namespace Program

open CommandLine (parse verbosity OptionPlace SameBesidesVerbosity sameBesidesVerbosity_insert)

/-- The records that a run makes. Arguments that are not carried out make none. -/
def emitted (args : List String) (t : FileTree) : List Record :=
  match parse args with
  | .error _ => []
  | .ok config => (outcome t config).records

/-- The records that a run shows. -/
def shown (args : List String) (t : FileTree) (spec? : Option String) : List Record :=
  match parse args with
  | .error _ => []
  | .ok config =>
    let spec := Specification.ofText (spec?.getD "")
    (outcome t config).records.filter (Filter.ofSpecification config.level spec).admits

def logLines (args : List String) (t : FileTree) (spec? : Option String) : List String :=
  Record.lines 0 (shown args t spec?)

/-- What a run says about the specification of its log. -/
def preface (args : List String) (spec? : Option String) : String :=
  match parse args with
  | .error _ => ""
  | .ok _ =>
    String.join ((Specification.ofText (spec?.getD "")).complaints.map (·.message ++ "\n"))

/-- What the program itself reports, behind its log. -/
def reported (args : List String) (t : FileTree) : String :=
  match parse args with
  | .error e => (refusal e).stderr
  | .ok config => (outcome t config).result.stderr

section Runs
variable {args other : List String} (t : FileTree) (spec? : Option String)

theorem stderr_run (args : List String) : (run args t spec?).stderr =
    preface args spec? ++ String.join (logLines args t spec?) ++ reported args t := by
  unfold run logLines shown preface reported
  cases parse args with
  | error e => simp [Record.lines]
  | ok config =>
    show logText _ _ _ ++ _ = _
    simp [logText]

theorem shown_sublist_emitted (args : List String) :
    (shown args t spec?).Sublist (emitted args t) := by
  unfold shown emitted
  cases parse args with
  | error e => exact .slnil
  | ok config => exact List.filter_sublist

section Same
variable (same : SameBesidesVerbosity args other)
include same

theorem emitted_of_same : emitted other t = emitted args t := by
  unfold emitted
  rcases same.requests with ⟨e, e', refused, refused'⟩ | ⟨config, parsed, parsed'⟩
  · rw [refused, refused']
  · rw [parsed, parsed']
    rfl

theorem shown_sublist_of_same (le : verbosity args ≤ verbosity other) :
    (shown args t spec?).Sublist (shown other t spec?) := by
  unfold shown
  rcases same.requests with ⟨e, e', refused, refused'⟩ | ⟨config, parsed, parsed'⟩
  · rw [refused, refused']
  · rw [parsed, parsed']
    exact (Filter.ofSpecification_within (Level.verbosity_ofFlags_le le)).filter_sublist _

theorem shown_eq_of_setsLevel (sets : Specification.SetsLevel (spec?.getD "")) :
    shown other t spec? = shown args t spec? := by
  have plain := Specification.exists_plain_iff.mpr sets
  unfold shown
  rcases same.requests with ⟨e, e', refused, refused'⟩ | ⟨config, parsed, parsed'⟩
  · rw [refused, refused']
  · rw [parsed, parsed']
    exact congrArg (fun f : Filter => (outcome t config).records.filter f.admits)
      (Filter.ofSpecification_of_plain plain)

end Same

/-- Behind complaints about its specification a run writes one line for each record that it shows,
in the order of all records that it makes. The same arguments with more flags for verbosity make
the same records and show all that was shown and perhaps more of them. If the specification sets a
level, flags for verbosity change no line. -/
theorem verbosity_only_adds_lines (args : List String) (t : FileTree) (spec? : Option String) :
    (run args t spec?).stderr =
      preface args spec? ++ String.join (logLines args t spec?) ++ reported args t ∧
    List.Forall₂ Record.ShownBy (shown args t spec?) (logLines args t spec?) ∧
    (shown args t spec?).Sublist (emitted args t) ∧
    ∀ other, SameBesidesVerbosity args other →
      emitted other t = emitted args t ∧
      (verbosity args ≤ verbosity other → (shown args t spec?).Sublist (shown other t spec?)) ∧
      (Specification.SetsLevel (spec?.getD "") →
        logLines other t spec? = logLines args t spec?) := by
  refine ⟨stderr_run t spec? args, Record.shownBy_lines 0 _, shown_sublist_emitted t spec? args,
    fun other same => ⟨emitted_of_same t same, shown_sublist_of_same t spec? same, fun sets => ?_⟩⟩
  rw [logLines, logLines, shown_eq_of_setsLevel t spec? same sets]

/-- One flag before the right operand, without a specification and with one that sets a level
behind a target and before a pattern. -/
theorem flag_before_right_operand :
    (shown ["1", "<", "2"] .empty none).Sublist (shown ["1", "<", "-v", "2"] .empty none) ∧
    logLines ["1", "<", "-v", "2"] .empty (some "ordcheck=off, Debug/-> true") =
      logLines ["1", "<", "2"] .empty (some "ordcheck=off, Debug/-> true") := by
  have place : OptionPlace ["1", "<"] ["2"] := ⟨by decide, by decide⟩
  obtain ⟨same, more⟩ := sameBesidesVerbosity_insert place
  have sets : Specification.SetsLevel "ordcheck=off, Debug/-> true" :=
    ⟨"ordcheck=off, Debug", ["-> true"], by decide +kernel, by decide, " Debug",
      by decide +kernel, by decide +kernel⟩
  obtain ⟨_, _, _, free⟩ := verbosity_only_adds_lines ["1", "<", "2"] .empty none
  obtain ⟨_, _, _, fixed⟩ := verbosity_only_adds_lines ["1", "<", "2"] .empty
    (some "ordcheck=off, Debug/-> true")
  exact ⟨(free _ same).2.1 (more ▸ Nat.le_succ _), (fixed _ same).2.2 sets⟩

end Runs

end Program

end ValueOrder
