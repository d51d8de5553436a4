import Mathlib.Data.List.Basic
import ValueOrder.Proofs.Arguments.Parts

/-!
# Accepted arguments

The scan keeps of the parts that it has read what the checks at the end need, and before the
end it fails only at parts that make up no request. So arguments are accepted exactly if their
parts make up a request, and the parts tell which.
-/

namespace ValueOrder.CommandLine

/-! ## Requests -/

/-- Parts that reading does not stop at. -/
structure Readable (ps : List Part) : Prop where
  known : ∀ e, .refused e ∉ ps
  named : ∀ group ∈ groupsOf ps, "" ∉ group
  few : (operandsOf ps).length ≤ 3

/-- What parts ask for: a pair by three operands alone, or case files by options alone. -/
inductive Asks (ps : List Part) : Mode → Prop where
  | pair {left op right : String} (noCases : groupsOf ps = [])
      (operands : operandsOf ps = [left, op, right]) : Asks ps (.pair left op right)
  | cases (given : valuesOf ps ≠ []) (alone : operandsOf ps = []) :
      Asks ps (.cases ((valuesOf ps).flatMap (Text.split ',')))

/-- The request that parts make. -/
structure Requests (ps : List Part) (config : Config) : Prop extends Readable ps where
  asks : Asks ps config.mode
  once : ps.count .failFast ≤ 1
  failFast : config.failFast = decide (.failFast ∈ ps)
  level : config.level = .ofFlags (ps.count .verbose)

/-- What parts hold. -/
def held (ps : List Part) : Matches where
  paths? := if groupsOf ps = [] then none else some ((valuesOf ps).flatMap (Text.split ','))
  left? := (operandsOf ps)[0]?
  op? := (operandsOf ps)[1]?
  right? := (operandsOf ps)[2]?
  failFast := .failFast ∈ ps
  verbosity := ps.count .verbose

section Parts
variable {ps qs : List Part} {mode : Mode}

theorem Readable.of_append (readable : Readable (ps ++ qs)) : Readable ps where
  known e here := readable.known e (List.mem_append_left qs here)
  named group here := readable.named group (by
    rw [groupsOf_append]
    exact List.mem_append_left _ here)
  few := by
    have few := readable.few
    rw [operandsOf_append, List.length_append] at few
    omega

theorem not_readable_refused (ps : List Part) (e : UsageError) : ¬ Readable (ps ++ [.refused e]) :=
  fun readable => readable.known e (List.mem_append_right ps (.head []))

theorem exists_asks_iff : (∃ mode, Asks ps mode) ↔
    groupsOf ps = [] ∧ (operandsOf ps).length = 3 ∨ valuesOf ps ≠ [] ∧ operandsOf ps = [] := by
  constructor
  · rintro ⟨_, asks⟩
    cases asks with
    | pair noCases operands => exact .inl ⟨noCases, by rw [operands]; rfl⟩
    | cases given alone => exact .inr ⟨given, alone⟩
  · rintro (⟨noCases, three⟩ | ⟨given, alone⟩)
    · obtain ⟨left, op, right, operands⟩ := List.length_eq_three.mp three
      exact ⟨_, .pair noCases operands⟩
    · exact ⟨_, .cases given alone⟩

theorem Asks.ofMatches_held (asks : Asks ps mode) : Config.ofMatches (held ps) =
    .ok ⟨mode, decide (.failFast ∈ ps), .ofFlags (ps.count .verbose)⟩ := by
  cases asks with
  | pair noCases operands =>
    rw [held, if_pos noCases, operands]
    rfl
  | cases given alone =>
    rw [held, if_neg (mt valuesOf_eq_nil given)]
    rfl

end Parts

/-! ## The order of checks -/

namespace Checked

variable {o p : Checked} {order : List Checked}

theorem mem_met : p ∈ o.met order ↔ p = o ∨ p ∈ order := by
  unfold met
  split_ifs with known
  · simp only [iff_or_self]
    rintro rfl
    exact known
  · simp [or_comm]

/-- An option that moves to the end hides no other. -/
theorem mem_counted : p ∈ o.counted order ↔ p = o ∨ p ∈ order := by
  unfold counted
  split
  · next empty => simp [List.getLast?_eq_none_iff.mp empty]
  · next last found =>
    obtain ⟨front, rfl⟩ := List.getLast?_eq_some_iff.mp found
    split_ifs with known
    · rw [List.dropLast_concat, List.mem_append, List.mem_map, List.mem_singleton]
      grind
    · grind

end Checked

namespace Scan

/-! ## What the scan keeps -/

/-- The scan has read the parts. -/
structure Shows (s : Scan) (ps : List Part) : Prop where
  known : ∀ e, .refused e ∉ ps
  operands : s.operands = operandsOf ps
  few : (operandsOf ps).length ≤ 3
  groups : s.groups ++ s.pending?.toList = groupsOf ps
  named : ∀ group ∈ s.groups, "" ∉ group
  failFasts : s.failFasts = ps.count .failFast
  verbosity : s.verbosity = ps.count .verbose
  checksCases : .cases ∈ s.order ↔ groupsOf ps ≠ []
  checksFailFast : .failFast ∈ s.order ↔ .failFast ∈ ps
  escaped : s.escaped = true ↔ .mark ∈ ps
  waits : s.awaiting → .mark ∉ ps → ps.getLast? = some (.cases none)
  waitsForPaths : s.awaiting → groupsOf ps ≠ []

/-- The outcome of reading parts: the scan has them all, or nobody can read them. -/
def Agrees (ps : List Part) : Except UsageError Scan → Prop
  | .ok s => s.Shows ps
  | .error _ => ¬ Readable ps

section Steps
variable {s s' : Scan} {ps qs : List Part}

theorem shows_nil : ({} : Scan).Shows [] := by
  constructor <;> simp

theorem Agrees.bind {r : Except UsageError Scan} {next : Scan → Except UsageError Scan}
    (read : Agrees ps r) (goesOn : ∀ s, r = .ok s → s.Shows ps → Agrees (ps ++ qs) (next s)) :
    Agrees (ps ++ qs) (r >>= next) := by
  cases r with
  | ok s => exact goesOn s rfl read
  | error e => exact fun readable => read readable.of_append

theorem pending?_of_settle (settled : s.settle = .ok s') : s'.pending? = none := by
  unfold settle at settled
  split at settled
  · cases settled
    assumption
  · split_ifs at settled
    cases settled
    rfl

section Finish
variable {e : UsageError}

theorem finish_of_error (failed : s.settle = .error e) : s.finish = .error e := by
  rw [finish, failed]
  rfl

theorem finish_of_fault (settled : s.settle = .ok s') (fault : s'.fault? = some e) :
    s.finish = .error e := by
  rw [finish, settled]
  simp only [bind, Except.bind, fault]
  rfl

theorem finish_of_no_fault (settled : s.settle = .ok s') (fault : s'.fault? = none) :
    s.finish = .ok s'.found := by
  rw [finish, settled]
  simp only [bind, Except.bind, fault]
  rfl

end Finish

namespace Shows

theorem settle (shows : s.Shows ps) : Agrees ps s.settle := by
  unfold Scan.settle
  split
  · exact shows
  · next paths pending =>
    have groups := shows.groups
    rw [pending, Option.toList_some] at groups
    split_ifs with empty
    · intro readable
      exact readable.named paths (groups ▸ List.mem_append_right _ (.head [])) empty
    · refine { shows with groups := ?_, named := ?_ }
      · rw [← groups, Option.toList_none, List.append_nil]
      · intro group here
        rcases List.mem_append.mp here with earlier | this
        · exact shows.named group earlier
        · rw [List.mem_singleton.mp this]
          exact empty

/-! ## Steps

What the scan keeps of a part is told by the fields that the step changes, and of the parts
before by all fields. -/

theorem operand (shows : s.Shows ps) (text : String) :
    Agrees (ps ++ [.operand text]) (s.operand text) := by
  unfold Scan.operand
  rw [shows.operands]
  split_ifs with room
  · have few : (operandsOf ps).length ≤ 2 := Nat.le_of_lt_succ room
    refine shows.settle.bind fun s' _ shows' => ?_
    cases shows'
    constructor <;> simp_all
  · intro readable
    have few := readable.few
    rw [operandsOf_append, List.length_append] at few
    exact room (Nat.lt_of_succ_le few)

theorem verbose (shows : s.Shows ps) : Agrees (ps ++ [.verbose]) s.verbose := by
  refine shows.settle.bind fun s' _ shows' => ?_
  cases shows'
  constructor <;> simp_all [Checked.mem_counted]

theorem failFast (shows : s.Shows ps) : Agrees (ps ++ [.failFast]) s.failFast := by
  refine shows.settle.bind fun s' _ shows' => ?_
  cases shows'
  constructor <;> simp_all [Checked.mem_met]

theorem informed (shows : s.Shows ps) (e answer : UsageError) :
    Agrees (ps ++ [.refused e]) (s.informed answer) :=
  shows.settle.bind fun _ _ _ => not_readable_refused ps e

theorem cases (shows : s.Shows ps) (value? : Option String) :
    Agrees (ps ++ [.cases value?]) (s.cases value?) := by
  refine shows.settle.bind fun s' settled shows' => ?_
  have idle := pending?_of_settle settled
  cases value? with
  | none =>
    cases shows'
    constructor <;> simp_all [Checked.mem_met]
  | some value =>
    apply Shows.settle
    cases shows'
    constructor <;> simp_all [Checked.mem_met]

/-- A `--cases`, and its value in the next argument. -/
theorem casesThenPlain (shows : s.Shows ps) (value : String) :
    Agrees (ps ++ [.cases (some value)]) (s.cases none >>= (·.plain value)) := by
  have steps : s.cases none >>= (·.plain value) = s.settle >>= fun s => .ok { s with
      order := Checked.cases.met s.order
      pending? := some (Text.split ',' value)
      awaiting := false } := by
    unfold Scan.cases
    cases s.settle <;> rfl
  rw [steps]
  refine shows.settle.bind fun s' settled shows' => ?_
  have idle := pending?_of_settle settled
  cases shows'
  constructor <;> simp_all [Checked.mem_met]

theorem short (shows : s.Shows ps) (letters : List Char) :
    Agrees (ps ++ letters.map .ofLetter) (s.short letters) := by
  induction letters generalizing s ps with
  | nil =>
    rw [List.map_nil, List.append_nil]
    exact shows
  | cons c rest ih =>
    rw [List.map_cons, List.append_cons, Scan.short]
    unfold Part.ofLetter
    split_ifs
    · exact shows.verbose.bind fun s' _ shows' => ih shows'
    · exact (shows.informed _ _).bind fun s' _ shows' => ih shows'
    · exact (shows.informed _ _).bind fun s' _ shows' => ih shows'
    · exact fun readable => not_readable_refused ps _ readable.of_append

theorem long (shows : s.Shows ps) (name : String) (value? : Option String) :
    Agrees (ps ++ [.ofLong name value?]) (s.long name value?) := by
  unfold Part.ofLong Scan.long
  cases value?.isSome with
  | true =>
    simp only [if_true]
    split_ifs
    · exact shows.cases value?
    all_goals exact not_readable_refused ps _
  | false =>
    simp only [Bool.false_eq_true, if_false]
    split_ifs
    · exact shows.cases value?
    · exact shows.failFast
    · exact shows.verbose
    · exact shows.informed _ _
    · exact shows.informed _ _
    · exact not_readable_refused ps _

theorem escape (shows : s.Shows ps) : Shows { s with escaped := true } (ps ++ [.mark]) := by
  cases shows
  constructor <;> simp_all

/-! ## Runs -/

/-- Behind the mark all is operands. -/
theorem foldlM_read_marked (shows : s.Shows ps) (marked : .mark ∈ ps) (args : List String) :
    Agrees (ps ++ args.map .operand) (args.foldlM read s) := by
  induction args generalizing s ps with
  | nil =>
    rw [List.map_nil, List.append_nil]
    exact shows
  | cons arg rest ih =>
    have step : s.read arg = s.operand arg := by rw [read, if_pos (shows.escaped.mpr marked)]
    rw [List.map_cons, List.append_cons, List.foldlM_cons, step]
    exact (shows.operand arg).bind fun s' _ shows' => ih shows' (List.mem_append_left _ marked)

section Unmarked
variable {arg : String} (shows : s.Shows ps) (unmarked : .mark ∉ ps)
include shows unmarked

theorem read_escape (looks : Token.ofText arg = .escape) :
    s.read arg = .ok { s with escaped := true } := by
  rw [read, if_neg (mt shows.escaped.mp unmarked), looks]

theorem read_plain (looks : (Token.ofText arg).isPlain) : s.read arg = s.plain arg := by
  rw [read, if_neg (mt shows.escaped.mp unmarked)]
  cases shape : Token.ofText arg with
  | plain text => rw [Token.eq_of_ofText_plain shape]
  | _ =>
    rw [shape] at looks
    cases looks

theorem read_short {letters : List Char} (looks : Token.ofText arg = .short letters) :
    s.read arg = s.short letters := by
  rw [read, if_neg (mt shows.escaped.mp unmarked), looks]

theorem read_long {name : String} {value? : Option String}
    (looks : Token.ofText arg = .long name value?) : s.read arg = s.long name value? := by
  rw [read, if_neg (mt shows.escaped.mp unmarked), looks]

theorem read_cases : s.read "--cases" = s.cases none :=
  shows.read_long unmarked Token.ofText_cases

theorem read_cases_value (looks : (Token.ofText arg).isPlain) :
    Agrees (ps ++ [.cases (some arg)]) (s.read "--cases" >>= (·.read arg)) := by
  have steps : s.cases none >>= (·.read arg) = s.cases none >>= (·.plain arg) := by
    have opened := shows.cases none
    cases result : s.cases none with
    | error e => rfl
    | ok s' =>
      rw [result] at opened
      exact opened.read_plain (by simpa using unmarked) looks
  rw [shows.read_cases unmarked, steps]
  exact shows.casesThenPlain arg

end Unmarked

/-- The scan reads arguments as their parts. A `--cases` before them has its value, or the
first of them is none. -/
theorem foldlM_read (shows : s.Shows ps) (unmarked : .mark ∉ ps) (args : List String)
    (apart : ps.getLast? = some (.cases none) →
      ∀ next ∈ args.head?, ¬ (Token.ofText next).isPlain) :
    Agrees (ps ++ parts args) (args.foldlM read s) := by
  induction args using arguments_induction generalizing s ps with
  | nil =>
    rw [parts, List.append_nil]
    exact shows
  | mark rest =>
    have looks : Token.ofText "--" = .escape := rfl
    rw [parts_of_escape looks, List.append_cons, List.foldlM_cons, shows.read_escape unmarked looks]
    exact shows.escape.foldlM_read_marked (List.mem_append_right _ (.head [])) rest
  | plain arg rest looks ih =>
    have idle : ¬ s.awaiting := fun awaiting =>
      apart (shows.waits awaiting unmarked) arg rfl looks
    rw [parts_of_plain looks, List.append_cons, List.foldlM_cons,
      shows.read_plain unmarked looks, Scan.plain, if_neg idle]
    refine (shows.operand arg).bind fun s' _ shows' => ih shows' ?_ ?_
    · simpa using unmarked
    · simp
  | cluster arg letters rest looks ih =>
    rw [parts_of_short looks, ← List.append_assoc, List.foldlM_cons,
      shows.read_short unmarked looks]
    refine (shows.short letters).bind fun s' _ shows' => ih shows' ?_ ?_
    · intro marked
      rcases List.mem_append.mp marked with earlier | here
      · exact unmarked earlier
      · simpa using Part.mem_map_ofLetter here
    · have nonempty : letters.map Part.ofLetter ≠ [] := by
        simpa using Token.ne_nil_of_ofText_short looks
      intro last
      rw [List.getLast?_append, List.getLast?_eq_some_getLast nonempty, Option.some_or] at last
      simpa [Option.some.inj last] using Part.mem_map_ofLetter (List.getLast_mem nonempty)
  | value next behind looks ih =>
    rw [parts_of_value looks, List.append_cons]
    simp only [List.foldlM_cons, ← bind_assoc]
    refine (shows.read_cases_value unmarked looks).bind fun s' _ shows' => ih shows' ?_ ?_
    · simpa using unmarked
    · simp
  | noValue rest looks ih =>
    rw [parts_of_no_value looks, List.append_cons, List.foldlM_cons, shows.read_cases unmarked]
    refine (shows.cases none).bind fun s' _ shows' => ih shows' ?_ fun _ => looks
    simpa using unmarked
  | option arg name value? rest looks whole ih =>
    rw [parts_of_long looks whole, List.append_cons, List.foldlM_cons,
      shows.read_long unmarked looks]
    refine (shows.long name value?).bind fun s' _ shows' => ih shows' ?_ ?_
    · simpa [(Part.ofLong_ne_mark name value?).symm] using unmarked
    · intro last
      simp only [List.getLast?_append, List.getLast?_singleton, Option.some_or, Option.some.injEq,
        Part.ofLong_eq_cases_iff] at last
      exact absurd last whole

/-! ## Checks at the end -/

section Settled
variable (shows : s.Shows ps) (settled : s.pending? = none)
include shows settled

theorem groups_eq : s.groups = groupsOf ps := by
  have groups := shows.groups
  rwa [settled, Option.toList_none, List.append_nil] at groups

theorem readable : Readable ps where
  known := shows.known
  named := shows.groups_eq settled ▸ shows.named
  few := shows.few

theorem pathless_iff : s.pathless = true ↔ valuesOf ps = [] := by
  rw [← flatMap_split_eq_nil_iff, ← flatten_groupsOf, ← shows.groups_eq settled, pathless,
    List.all_eq_true, List.flatten_eq_nil_iff]
  simp only [List.isEmpty_iff]

theorem failedCheck?_eq_none_iff : s.failedCheck? = none ↔
    (groupsOf ps ≠ [] → valuesOf ps ≠ []) ∧ ps.count .failFast ≤ 1 := by
  have each : s.failedCheck? = none ↔
      (.cases ∈ s.order → ¬ s.pathless = true) ∧ (.failFast ∈ s.order → s.failFasts ≤ 1) := by
    rw [failedCheck?, List.findSome?_eq_none_iff]
    constructor
    · intro passes
      exact ⟨fun here => by simpa using passes _ here, fun here => by simpa using passes _ here⟩
    · rintro ⟨named, once⟩ o here
      cases o with
      | cases => simp [named here]
      | failFast => simpa using once here
      | verbose => rfl
  rw [each, shows.checksCases, shows.checksFailFast, shows.failFasts, shows.pathless_iff settled]
  refine and_congr_right fun _ => ⟨fun once => ?_, fun once _ => once⟩
  by_cases here : .failFast ∈ ps
  · exact once here
  · rw [List.count_eq_zero.mpr here]
    exact Nat.zero_le 1

theorem fault?_eq_none_iff :
    s.fault? = none ↔ (∃ mode, Asks ps mode) ∧ ps.count .failFast ≤ 1 := by
  have noValues : groupsOf ps = [] → valuesOf ps = [] := valuesOf_eq_nil
  have waitsForPaths := shows.waitsForPaths
  have few := shows.few
  unfold fault?
  rw [exists_asks_iff, shows.groups_eq settled, shows.operands]
  split_ifs with early conflict missing
  · rw [Bool.and_eq_true, shows.pathless_iff settled] at early
    grind
  · simp only [Bool.and_eq_true, Bool.not_eq_true', List.isEmpty_eq_false_iff] at conflict
    grind
  · simp only [Bool.and_eq_true, List.isEmpty_iff, decide_eq_true_eq] at missing
    grind
  · rw [shows.failedCheck?_eq_none_iff settled]
    simp only [Bool.and_eq_true, shows.pathless_iff settled] at early
    simp at conflict missing
    grind

theorem found_eq : s.found = held ps := by
  rw [found, held, shows.groups_eq settled, shows.operands, shows.failFasts, shows.verbosity,
    flatten_groupsOf]
  simp [List.count_eq_zero]

end Settled

theorem finish_eq_ok_iff (shows : s.Shows ps) {m : Matches} : s.finish = .ok m ↔
    Readable ps ∧ (∃ mode, Asks ps mode) ∧ ps.count .failFast ≤ 1 ∧ m = held ps := by
  have agrees := shows.settle
  cases result : s.settle with
  | error e =>
    rw [result] at agrees
    rw [finish_of_error result]
    exact ⟨nofun, fun accepted => absurd accepted.1 agrees⟩
  | ok s' =>
    rw [result] at agrees
    have settled := pending?_of_settle result
    have checks := agrees.fault?_eq_none_iff settled
    cases fault : s'.fault? with
    | some e =>
      rw [fault] at checks
      rw [finish_of_fault result fault]
      exact ⟨nofun, fun accepted => nomatch checks.mpr ⟨accepted.2.1, accepted.2.2.1⟩⟩
    | none =>
      obtain ⟨asks, once⟩ := checks.mp fault
      rw [finish_of_no_fault result fault, agrees.found_eq settled]
      exact ⟨fun same => ⟨agrees.readable settled, asks, once, (Except.ok.inj same).symm⟩,
        fun accepted => congrArg Except.ok accepted.2.2.2.symm⟩

end Shows

end Steps

end Scan

/-! ## Acceptance -/

section Acceptance
variable {args : List String}

/-- Arguments are accepted exactly if their parts make up a request, and hold what the parts
hold. -/
theorem accept_eq_ok_iff {m : Matches} : accept args = .ok m ↔
    Readable (parts args) ∧ (∃ mode, Asks (parts args) mode) ∧ (parts args).count .failFast ≤ 1 ∧
      m = held (parts args) := by
  have agrees := Scan.shows_nil.foldlM_read List.not_mem_nil args (by simp)
  rw [List.nil_append] at agrees
  rw [accept]
  cases result : args.foldlM Scan.read {} with
  | error e =>
    rw [result] at agrees
    exact ⟨nofun, fun accepted => absurd accepted.1 agrees⟩
  | ok s =>
    rw [result] at agrees
    exact agrees.finish_eq_ok_iff

theorem parse_eq_ok_iff {config : Config} :
    parse args = .ok config ↔ Requests (parts args) config := by
  constructor
  · intro parsed
    rw [parse] at parsed
    cases accepted : accept args with
    | error e =>
      rw [accepted] at parsed
      cases parsed
    | ok m =>
      obtain ⟨readable, ⟨mode, asks⟩, once, rfl⟩ := accept_eq_ok_iff.mp accepted
      rw [accepted] at parsed
      have made := asks.ofMatches_held
      change (Config.ofMatches _).mapError _ = _ at parsed
      rw [made] at parsed
      cases parsed
      exact ⟨readable, asks, once, rfl, rfl⟩
  · intro requests
    have accepted := accept_eq_ok_iff.mpr
      ⟨requests.toReadable, ⟨_, requests.asks⟩, requests.once, rfl⟩
    have made := requests.asks.ofMatches_held
    rw [← requests.failFast, ← requests.level] at made
    rw [parse, accepted]
    show (Config.ofMatches _).mapError _ = _
    rw [made]
    rfl

end Acceptance

end ValueOrder.CommandLine
