import Mathlib.Logic.Function.Iterate
import ValueOrder.Program
import ValueOrder.Proofs.Arguments.Acceptance

/-!
# Flags among arguments

Flags only count, wherever they stand among the arguments. One for verbosity raises the level by
a step and changes nothing else. The one for stopping at the first failure is accepted beside
operands too, where a run has no failures to stop at.
-/

namespace ValueOrder

/-! ## Levels -/

namespace Level

/-- One step further towards the most verbose level, which is the last. -/
def raised : Level → Level
  | .error => .warn
  | .warn => .info
  | .info => .debug
  | .debug | .trace => .trace

theorem ofFlags_succ (n : Nat) : ofFlags (n + 1) = (ofFlags n).raised := by
  match n with
  | 0 | 1 | 2 | _ + 3 => rfl

theorem ofFlags_add (n k : Nat) : ofFlags (n + k) = raised^[k] (ofFlags n) := by
  induction k with
  | zero => rfl
  | succ k ih => rw [← Nat.add_assoc, ofFlags_succ, ih, Function.iterate_succ_apply']

end Level

/-! ## Pairs -/

/-- A comparison has no failures to stop at. -/
theorem Program.execute_failFast_of_pair {config : Config} {left op right : String}
    (mode : config.mode = .pair left op right) (t : FileTree) (spec? : Option String)
    (failFast : Bool) :
    execute t spec? { config with failFast := failFast } = execute t spec? config := by
  have same : outcome t { config with failFast := failFast } = outcome t config := by
    unfold outcome
    rw [mode]
  unfold execute
  rw [same]

namespace CommandLine

/-! ## Flags as parts -/

/-- A part that only counts. -/
def Part.IsFlag (p : Part) : Prop := p = .failFast ∨ p = .verbose

instance : DecidablePred Part.IsFlag := fun _ => instDecidableOr

/-- The parts are the same, flags aside. -/
def SameBesidesFlags (ps qs : List Part) : Prop :=
  ps.filter (fun p => ¬ p.IsFlag) = qs.filter (fun p => ¬ p.IsFlag)

section Flags
variable {ps qs : List Part} {mode : Mode} (same : SameBesidesFlags ps qs)
include same

/-- What neither flag shows is not changed by flags. -/
theorem SameBesidesFlags.filterMap_eq {α : Type} {observe : Part → Option α}
    (failFast : observe .failFast = none) (verbose : observe .verbose = none) :
    ps.filterMap observe = qs.filterMap observe := by
  have aside (rs : List Part) :
      (rs.filter fun p => ¬ p.IsFlag).filterMap observe = rs.filterMap observe := by
    rw [List.filterMap_filter]
    congr 1
    funext p
    by_cases flag : p.IsFlag
    · rcases flag with rfl | rfl
      · simpa [Part.IsFlag] using failFast.symm
      · simpa [Part.IsFlag] using verbose.symm
    · simp [flag]
  rw [← aside ps, same, aside qs]

theorem SameBesidesFlags.operandsOf_eq : operandsOf ps = operandsOf qs := same.filterMap_eq rfl rfl

theorem SameBesidesFlags.valuesOf_eq : valuesOf ps = valuesOf qs := same.filterMap_eq rfl rfl

theorem SameBesidesFlags.groupsOf_eq : groupsOf ps = groupsOf qs := same.filterMap_eq rfl rfl

theorem SameBesidesFlags.mem_iff {p : Part} (noFlag : ¬ p.IsFlag) : p ∈ ps ↔ p ∈ qs := by
  have aside (rs : List Part) : p ∈ rs ↔ p ∈ rs.filter fun p => ¬ p.IsFlag := by simp [noFlag]
  rw [aside ps, same, ← aside qs]

theorem Asks.of_sameBesidesFlags (asks : Asks ps mode) : Asks qs mode := by
  cases asks with
  | pair noCases operands =>
    rw [same.groupsOf_eq] at noCases
    rw [same.operandsOf_eq] at operands
    exact .pair noCases operands
  | cases given alone =>
    rw [same.valuesOf_eq] at given ⊢
    rw [same.operandsOf_eq] at alone
    exact .cases given alone

theorem Readable.of_sameBesidesFlags (readable : Readable ps) : Readable qs where
  known e here := readable.known e ((same.mem_iff (by simp [Part.IsFlag])).mpr here)
  named := by
    rw [← same.groupsOf_eq]
    exact readable.named
  few := by
    rw [← same.operandsOf_eq]
    exact readable.few

end Flags

section Parts
variable {ps qs flags : List Part} {config : Config} (areFlags : ∀ p ∈ flags, p.IsFlag)
include areFlags

theorem sameBesidesFlags_insert : SameBesidesFlags (ps ++ qs) (ps ++ (flags ++ qs)) := by
  have none : flags.filter (fun p => ¬ p.IsFlag) = [] := by
    simpa [List.filter_eq_nil_iff] using areFlags
  rw [SameBesidesFlags, List.filter_append, List.filter_append, List.filter_append, none,
    List.nil_append]

/-- Flags between parts add their counts to the request. -/
theorem Requests.withFlags (requests : Requests (ps ++ qs) config)
    (once : (ps ++ qs).count .failFast + flags.count .failFast ≤ 1) :
    Requests (ps ++ (flags ++ qs)) { config with
      failFast := config.failFast || decide (.failFast ∈ flags)
      level := Level.raised^[flags.count .verbose] config.level } where
  toReadable := requests.toReadable.of_sameBesidesFlags (sameBesidesFlags_insert areFlags)
  asks := requests.asks.of_sameBesidesFlags (sameBesidesFlags_insert areFlags)
  once := by
    simp only [List.count_append] at once ⊢
    omega
  failFast := by
    rw [requests.failFast]
    simp only [List.mem_append, ← Bool.decide_or, or_assoc, or_comm]
  level := by
    rw [requests.level, ← Level.ofFlags_add]
    simp only [List.count_append]
    congr 1
    omega

end Parts

/-! ## Flags as arguments -/

section Arguments
variable {before after : List String} {config : Config}

/-- Arguments that are read as flags may be inserted at any place for an option. -/
theorem parse_withFlags (inserted : List String) (flags : List Part)
    (accepted : parse (before ++ after) = .ok config) (place : OptionPlace before after)
    (option : ∀ next ∈ (inserted ++ after).head?, ¬ (Token.ofText next).isPlain)
    (reads : parts (inserted ++ after) = flags ++ parts after) (areFlags : ∀ p ∈ flags, p.IsFlag)
    (once : (parts (before ++ after)).count .failFast + flags.count .failFast ≤ 1) :
    parse (before ++ (inserted ++ after)) = .ok { config with
      failFast := config.failFast || decide (.failFast ∈ flags)
      level := Level.raised^[flags.count .verbose] config.level } := by
  have requests := parse_eq_ok_iff.mp accepted
  have here : OptionPlace before (inserted ++ after) := ⟨place.unmarked, fun _ => option⟩
  rw [parts_append place] at requests once
  rw [parse_eq_ok_iff, parts_append here, reads]
  exact requests.withFlags areFlags once

/-! ## Verbosity -/

/-- A cluster of short flags for verbosity. -/
def verbosityCluster (k : Nat) : String := .ofList ('-' :: List.replicate k 'v')

/-- A word that begins with the letter of the flag for verbosity is no number. -/
theorem isNumber_v (rest : List Char) : isNumber ('v' :: rest) = false := by
  have lower : (String.ofList ('v' :: rest)).toLower.toList = 'v' :: rest.map Char.toLower := by
    show ((String.ofList ('v' :: rest)).map Char.toLower).toList = _
    rw [String.toList_map, String.toList_ofList]
    rfl
  have notNamed : (String.ofList ('v' :: rest)).toLower ∉ ["inf", "infinity", "nan"] := by
    intro named
    have first : 'v' ∈ ["inf", "infinity", "nan"].filterMap (·.toList.head?) :=
      List.mem_filterMap.mpr ⟨_, named, by rw [lower]; rfl⟩
    revert first
    decide
  have notDecimal : isDecimal ('v' :: rest) = false := by simp [isDecimal]
  have unsigned : isNumber ('v' :: rest) = (isDecimal ('v' :: rest) ||
      ["inf", "infinity", "nan"].contains (String.ofList ('v' :: rest)).toLower) := rfl
  rw [unsigned, notDecimal, Bool.false_or, List.contains_eq_mem, decide_eq_false notNamed]

theorem ofText_verbosityCluster (k : Nat) :
    Token.ofText (verbosityCluster (k + 1)) = .short (List.replicate (k + 1) 'v') := by
  unfold Token.ofText verbosityCluster
  rw [String.toList_ofList, List.replicate_succ]
  show (if isNumber ('v' :: List.replicate k 'v') then _ else _) = _
  rw [isNumber_v]
  rfl

theorem ofText_v : Token.ofText "-v" = .short ['v'] := ofText_verbosityCluster 0

theorem ofText_verbose : Token.ofText "--verbose" = .long "verbose" none := rfl

theorem parts_cluster (k : Nat) (rest : List String) :
    parts (verbosityCluster (k + 1) :: rest) = List.replicate (k + 1) .verbose ++ parts rest := by
  rw [parts_of_short (ofText_verbosityCluster k), List.map_replicate]
  rfl

theorem parts_v (rest : List String) : parts ("-v" :: rest) = .verbose :: parts rest :=
  parts_of_short ofText_v

theorem parts_verbose (rest : List String) : parts ("--verbose" :: rest) = .verbose :: parts rest :=
  parts_of_long ofText_verbose (by decide)

theorem parts_replicate_v (k : Nat) (rest : List String) :
    parts (List.replicate k "-v" ++ rest) = List.replicate k .verbose ++ parts rest := by
  induction k with
  | zero => rfl
  | succ k ih =>
    rw [List.replicate_succ, List.cons_append, parts_v, ih]
    rfl

theorem parse_withVerbosity (inserted : List String) (k : Nat)
    (accepted : parse (before ++ after) = .ok config) (place : OptionPlace before after)
    (option : ∀ next ∈ (inserted ++ after).head?, ¬ (Token.ofText next).isPlain)
    (reads : parts (inserted ++ after) = List.replicate k .verbose ++ parts after) :
    parse (before ++ (inserted ++ after)) =
      .ok { config with level := Level.raised^[k] config.level } := by
  have noFailFast : .failFast ∉ List.replicate k Part.verbose := by simp
  have once : (parts (before ++ after)).count .failFast +
      (List.replicate k Part.verbose).count .failFast ≤ 1 := by
    rw [List.count_eq_zero.mpr noFailFast]
    exact (parse_eq_ok_iff.mp accepted).once
  have areFlags : ∀ p ∈ List.replicate k Part.verbose, p.IsFlag := fun _ here =>
    .inr (List.eq_of_mem_replicate here)
  rw [parse_withFlags inserted _ accepted place option reads areFlags once,
    decide_eq_false noFailFast, Bool.or_false, List.count_replicate_self]

/-- Flags for verbosity may stand anywhere before `--`, except between a `--cases` and its value.
They leave the mode and the stopping at failures as they are, and each letter of a cluster
counts as a flag of its own. -/
theorem verbosity_anywhere (accepted : parse (before ++ after) = .ok config)
    (place : OptionPlace before after) :
    (∀ flag ∈ ["-v", "--verbose"],
      parse (before ++ flag :: after) = .ok { config with level := config.level.raised }) ∧
    ∀ k,
      parse (before ++ verbosityCluster (k + 1) :: after) =
        .ok { config with level := Level.raised^[k + 1] config.level } ∧
      parse (before ++ verbosityCluster (k + 1) :: after) =
        parse (before ++ (List.replicate (k + 1) "-v" ++ after)) := by
  have v : parse (before ++ "-v" :: after) = .ok { config with level := config.level.raised } :=
    parse_withVerbosity ["-v"] 1 accepted place (by simp [ofText_v, Token.isPlain]) (parts_v after)
  have verbose : parse (before ++ "--verbose" :: after) =
      .ok { config with level := config.level.raised } :=
    parse_withVerbosity ["--verbose"] 1 accepted place (by simp [ofText_verbose, Token.isPlain])
      (parts_verbose after)
  refine ⟨by simp [v, verbose], fun k => ?_⟩
  have clustered := parse_withVerbosity [verbosityCluster (k + 1)] (k + 1) accepted place
    (by simp [ofText_verbosityCluster, Token.isPlain]) (parts_cluster k after)
  have separate := parse_withVerbosity (List.replicate (k + 1) "-v") (k + 1) accepted place
    (by simp [List.replicate_succ, ofText_v, Token.isPlain]) (parts_replicate_v (k + 1) after)
  exact ⟨clustered, clustered.trans separate.symm⟩

/-- A flag and a cluster before an operand that begins with a dash itself. -/
theorem verbosity_between_operands :
    parse ["1", "<", "--verbose", "-2"] = .ok ⟨.pair "1" "<" "-2", false, .info⟩ ∧
    parse ["1", "<", "-vv", "-2"] = .ok ⟨.pair "1" "<" "-2", false, .debug⟩ := by
  have accepted : parse (["1", "<"] ++ ["-2"]) = .ok ⟨.pair "1" "<" "-2", false, .warn⟩ := rfl
  have place : OptionPlace ["1", "<"] ["-2"] := ⟨by decide, by decide⟩
  obtain ⟨spelled, clusters⟩ := verbosity_anywhere accepted place
  exact ⟨spelled "--verbose" (by decide), (clusters 1).1⟩

/-! ## Stopping at the first failure -/

theorem ofText_failFast : Token.ofText "--fail-fast" = .long "fail-fast" none := rfl

theorem parts_failFast (rest : List String) :
    parts ("--fail-fast" :: rest) = .failFast :: parts rest :=
  parts_of_long ofText_failFast (by decide)

/-- The flag for stopping at the first failure may stand once wherever an option may, whatever is
asked for. Beside operands it is accepted and does nothing. -/
theorem fail_fast_anywhere (accepted : parse (before ++ after) = .ok config)
    (place : OptionPlace before after) (absent : config.failFast = false) :
    parse (before ++ "--fail-fast" :: after) = .ok { config with failFast := true } ∧
    ∀ left op right, config.mode = .pair left op right → ∀ t spec?,
      Program.run (before ++ "--fail-fast" :: after) t spec? =
        Program.run (before ++ after) t spec? := by
  have once : (parts (before ++ after)).count .failFast + [Part.failFast].count .failFast ≤ 1 := by
    have unread := (parse_eq_ok_iff.mp accepted).failFast
    rw [absent] at unread
    rw [List.count_eq_zero.mpr (of_decide_eq_false unread.symm)]
    decide
  have withFlag : parse (before ++ "--fail-fast" :: after) =
      .ok { config with failFast := true } := by
    have parsed := parse_withFlags ["--fail-fast"] [.failFast] accepted place
      (by simp [ofText_failFast, Token.isPlain]) (parts_failFast after) (by simp [Part.IsFlag]) once
    simpa using parsed
  refine ⟨withFlag, ?_⟩
  intro left op right mode t spec?
  rw [Program.run, Program.run, withFlag, accepted]
  exact Program.execute_failFast_of_pair mode t spec? true

theorem fail_fast_before_operator :
    parse ["1", "--fail-fast", "<", "2"] = .ok ⟨.pair "1" "<" "2", true, .warn⟩ ∧
    Program.run ["1", "--fail-fast", "<", "2"] .empty none =
      Program.run ["1", "<", "2"] .empty none := by
  have accepted : parse (["1"] ++ ["<", "2"]) = .ok ⟨.pair "1" "<" "2", false, .warn⟩ := rfl
  obtain ⟨parsed, same⟩ := fail_fast_anywhere accepted ⟨by decide, by decide⟩ rfl
  exact ⟨parsed, same _ _ _ rfl .empty none⟩

/-- The flag is not kept to case files. -/
theorem fail_fast_without_cases : ¬ ∀ args config, parse args = .ok config →
    config.failFast = true → ∃ paths, config.mode = .cases paths := by
  intro always
  have accepted : parse ["1", "<", "2", "--fail-fast"] = .ok ⟨.pair "1" "<" "2", true, .warn⟩ := rfl
  obtain ⟨paths, mode⟩ := always _ _ accepted rfl
  cases mode

end Arguments

end CommandLine

end ValueOrder
