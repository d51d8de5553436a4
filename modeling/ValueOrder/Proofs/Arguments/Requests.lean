import ValueOrder.Proofs.Arguments.Acceptance
import ValueOrder.Proofs.Text.Splitting

/-!
# Requests as they are written

Accepted arguments are three operands without `--cases`, or paths without an operand, and the
request is for exactly these. No default is ever filled in.
-/

namespace ValueOrder.CommandLine

section Parts
variable {ps : List Part}

theorem groupsOf_eq_nil_iff : groupsOf ps = [] ↔ ∀ value?, .cases value? ∉ ps := by
  rw [groupsOf, List.filterMap_eq_nil_iff]
  constructor
  · intro silent value? here
    cases silent _ here
  · intro absent p here
    cases p with
    | cases value? => exact absurd here (absent value?)
    | _ => rfl

theorem operandsOf_map_ofLetter (letters : List Char) :
    operandsOf (letters.map .ofLetter) = [] := by
  rw [operandsOf, List.filterMap_eq_nil_iff]
  intro p here
  rcases Part.mem_map_ofLetter here with rfl | ⟨e, rfl⟩ <;> rfl

theorem operandsOf_map_operand (texts : List String) : operandsOf (texts.map .operand) = texts := by
  induction texts with
  | nil => rfl
  | cons text rest ih =>
    rw [List.map_cons, operandsOf_cons, ih]
    rfl

/-- Operands are verbatim and in order. -/
theorem operandsOf_parts_sublist (args : List String) : (operandsOf (parts args)).Sublist args := by
  induction args using arguments_induction with
  | nil => exact .slnil
  | mark rest =>
    have looks : Token.ofText "--" = .escape := rfl
    rw [parts_of_escape looks, operandsOf_cons, operandsOf_map_operand]
    exact List.sublist_cons_self "--" rest
  | plain arg rest looks ih =>
    rw [parts_of_plain looks, operandsOf_cons]
    exact ih.cons_cons arg
  | cluster arg letters rest looks ih =>
    rw [parts_of_short looks, operandsOf_append, operandsOf_map_ofLetter]
    exact ih.cons arg
  | value next behind looks ih =>
    rw [parts_of_value looks, operandsOf_cons]
    exact (ih.cons next).cons "--cases"
  | noValue rest looks ih =>
    rw [parts_of_no_value looks, operandsOf_cons]
    exact ih.cons "--cases"
  | option arg name value? rest looks whole ih =>
    rw [parts_of_long looks whole, operandsOf_cons, Part.operand?_ofLong]
    exact ih.cons arg

end Parts

/-- The mode is the one that is written, with nothing left out and nothing added. -/
inductive Written (args : List String) : Mode → Prop where
  /-- There is no `--cases`, and the operands are three, each of them verbatim. -/
  | pair {left op right : String} (noCases : ∀ value?, .cases value? ∉ parts args)
      (operands : operandsOf (parts args) = [left, op, right])
      (verbatim : [left, op, right].Sublist args) : Written args (.pair left op right)
  /-- There is a `--cases` and no operand, and the paths are the pieces of the values of all
  `--cases`. -/
  | cases {paths : List String} (given : ∃ value?, .cases value? ∈ parts args)
      (noOperands : operandsOf (parts args) = [])
      (pieces : paths = (valuesOf (parts args)).flatMap (Text.split ','))
      (nonempty : paths ≠ []) (named : ∀ path ∈ paths, path ≠ "" ∧ ',' ∉ path.toList) :
      Written args (.cases paths)

section Requests
variable {args : List String} {mode : Mode}

/-- Pieces of values are named, because reading stops at an empty one. -/
theorem named_of_mem_pieces {ps : List Part} (readable : Readable ps) {path : String}
    (here : path ∈ (valuesOf ps).flatMap (Text.split ',')) : path ≠ "" ∧ ',' ∉ path.toList := by
  constructor
  · rintro rfl
    rw [← flatten_groupsOf] at here
    obtain ⟨group, given, empty⟩ := List.mem_flatten.mp here
    exact readable.named group given empty
  · obtain ⟨value, _, piece⟩ := List.mem_flatMap.mp here
    exact Text.notMem_of_mem_split piece

theorem written_of_asks (readable : Readable (parts args)) (asks : Asks (parts args) mode) :
    Written args mode := by
  cases asks with
  | pair noCases operands =>
    exact .pair (groupsOf_eq_nil_iff.mp noCases) operands
      (operands ▸ operandsOf_parts_sublist args)
  | cases given alone =>
    have group : ∃ value?, .cases value? ∈ parts args := by
      by_contra absent
      exact given (valuesOf_eq_nil (groupsOf_eq_nil_iff.mpr (not_exists.mp absent)))
    refine .cases group alone rfl ?_ fun _ => named_of_mem_pieces readable
    rwa [Ne, flatMap_split_eq_nil_iff]

theorem paths?_or_left?_of_held {ps : List Part} (asks : Asks ps mode) :
    (held ps).paths? ≠ none ∨ (held ps).left? ≠ none := by
  cases asks with
  | pair noCases operands => exact .inr (by simp [held, operands])
  | cases given alone => exact .inl (by simp [held, mt valuesOf_eq_nil given])

/-- A single path asks for the case files that it leads to. -/
theorem parse_casePath {path : String} (begins : path.toList.head? ≠ some '-')
    (noComma : ',' ∉ path.toList) (nonempty : path ≠ "") :
    parse ["--cases", path] = .ok ⟨.cases [path], false, .warn⟩ := by
  have plain := Token.ofText_of_head?_ne begins
  have single := Text.split_of_notMem noComma
  have read : parts ["--cases", path] = [.cases (some path)] := parts_of_value (by rw [plain]; rfl)
  have groups : groupsOf [.cases (some path)] = [[path]] := by
    simp [Part.group?, single]
  have asks : Asks [.cases (some path)] (.cases [path]) := by
    have given : valuesOf [.cases (some path)] ≠ [] := List.cons_ne_nil _ _
    simpa [valuesOf, Part.value?, single] using Asks.cases given rfl
  rw [parse_eq_ok_iff, read]
  refine ⟨⟨by simp, ?_, Nat.zero_le 3⟩, asks, by simp, by simp, by simp; rfl⟩
  rw [groups]
  simpa using nonempty.symm

/-- Accepted arguments are carried out as they are written: the request can be made of them
without an error and without the mode that stands in where neither a path nor a left operand
is given, and its mode is the one that is written. -/
theorem accepted_as_written {m : Matches} (accepted : accept args = .ok m) :
    ∃ config, Config.ofMatches m = .ok config ∧ parse args = .ok config ∧
      (m.paths? ≠ none ∨ m.left? ≠ none) ∧ Written args config.mode := by
  obtain ⟨readable, ⟨mode, asks⟩, once, rfl⟩ := accept_eq_ok_iff.mp accepted
  refine ⟨_, asks.ofMatches_held, ?_, paths?_or_left?_of_held asks, written_of_asks readable asks⟩
  exact parse_eq_ok_iff.mpr ⟨readable, asks, once, rfl, rfl⟩

/-- Two groups of paths, the first of them behind `=`. -/
theorem groups_as_written :
    Written ["--verbose", "--cases=a.json,b", "--cases", "c"] (.cases ["a.json", "b", "c"]) := by
  have accepted : accept ["--verbose", "--cases=a.json,b", "--cases", "c"] =
      .ok ⟨some ["a.json", "b", "c"], none, none, none, false, 1⟩ := rfl
  obtain ⟨config, made, _, _, written⟩ := accepted_as_written accepted
  cases made
  exact written

-- A number is an operand in spite of its sign, and so is everything behind `--`.
example : parse ["-1", "-v", "<", "--", "--cases"] =
    .ok ⟨.pair "-1" "<" "--cases", false, .info⟩ := by
  cbv

end Requests

end ValueOrder.CommandLine
