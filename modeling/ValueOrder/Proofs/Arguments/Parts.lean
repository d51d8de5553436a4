import Mathlib.Data.List.TakeWhile
import Mathlib.Tactic.SplitIfs
import ValueOrder.CommandLine

/-!
# The parts of a command line

By its looks an argument is an operand or an option, as long as `--` does not stand before it.
Only a `--cases` without a value looks further: it takes the next argument, unless that is an
option. This cuts arguments into parts, whatever comes of them afterwards.
-/

namespace ValueOrder.CommandLine

/-! ## Tokens -/

namespace Token

/-- Whether an argument of these looks can be an operand or a value. -/
def isPlain : Token → Bool
  | .plain _ => true
  | _ => false

section Looks
variable {text t : String} {letters : List Char}

theorem ofText_eq_escape_iff : ofText text = .escape ↔ text = "--" := by
  constructor
  · intro looks
    unfold ofText at looks
    split at looks
    · next chars => exact String.toList_inj.mp chars
    · unfold ofLong at looks
      split at looks <;> cases looks
    · split at looks <;> cases looks
    · cases looks
  · rintro rfl
    rfl

/-- Operands and values are verbatim. -/
theorem eq_of_ofText_plain (looks : ofText text = .plain t) : t = text := by
  unfold ofText at looks
  split at looks
  · cases looks
  · unfold ofLong at looks
    split at looks <;> cases looks
  · split at looks <;> cases looks
    rfl
  · cases looks
    rfl

theorem ne_nil_of_ofText_short (looks : ofText text = .short letters) : letters ≠ [] := by
  unfold ofText at looks
  split at looks
  · cases looks
  · unfold ofLong at looks
    split at looks <;> cases looks
  · split at looks <;> cases looks
    exact List.cons_ne_nil _ _
  · cases looks

theorem eq_of_ofText_cases (looks : ofText text = .long "cases" none) : text = "--cases" := by
  unfold ofText at looks
  split at looks
  · cases looks
  · next body _ chars =>
    unfold ofLong at looks
    split at looks
    · next whole =>
      rw [List.takeWhile_eq_self_iff.mpr (List.dropWhile_eq_nil_iff.mp whole)] at looks
      have name := congrArg String.toList (Token.long.inj looks).1
      rw [String.toList_ofList] at name
      rw [← String.toList_inj, chars, name]
      rfl
    · exact absurd (Token.long.inj looks).2 (Option.some_ne_none _)
  · split at looks <;> cases looks
  · cases looks

theorem ofText_of_head?_ne (begins : text.toList.head? ≠ some '-') :
    ofText text = .plain text := by
  unfold ofText
  split <;> simp_all

theorem ofText_cases : ofText "--cases" = .long "cases" none := rfl

theorem ofText_cases_attached (value : String) :
    ofText ("--cases=" ++ value) = .long "cases" (some value) := by
  have chars : ("--cases=" ++ value).toList =
      '-' :: '-' :: ("cases".toList ++ '=' :: value.toList) := by
    rw [String.toList_append]
    rfl
  unfold ofText
  rw [chars]
  show ofLong ("cases".toList ++ '=' :: value.toList) = _
  unfold ofLong
  simp

end Looks

end Token

/-! ## Parts -/

/-- What one argument comes to, or a `--cases` together with its value. -/
inductive Part where
  /-- The first `--`. -/
  | mark
  | operand (text : String)
  /-- A `--cases` with its value, if it gets one. -/
  | cases (value? : Option String)
  | failFast
  | verbose
  /-- An option at which the reading ends. -/
  | refused (e : UsageError)
  deriving DecidableEq, Repr

namespace Part

def ofLetter (c : Char) : Part :=
  if c = 'v' then .verbose
  else if c = 'h' then .refused .help
  else if c = 'V' then .refused .version
  else .refused .unknownArgument

def ofLong (name : String) (value? : Option String) : Part :=
  let flag (part : Part) : Part := if value?.isSome then .refused .unexpectedValue else part
  if name = "cases" then .cases value?
  else if name = "fail-fast" then flag .failFast
  else if name = "verbose" then flag .verbose
  else if name = "help" then flag (.refused .help)
  else if name = "version" then flag (.refused .version)
  else .refused .unknownArgument

theorem mem_map_ofLetter {p : Part} {letters : List Char} (here : p ∈ letters.map ofLetter) :
    p = .verbose ∨ ∃ e, p = .refused e := by
  obtain ⟨c, _, rfl⟩ := List.mem_map.mp here
  unfold ofLetter
  split_ifs <;> simp

theorem ofLong_ne_mark (name : String) (value? : Option String) : ofLong name value? ≠ .mark := by
  unfold ofLong
  split_ifs <;> simp

theorem ofLong_eq_cases_iff {name : String} {value? v? : Option String} :
    ofLong name value? = .cases v? ↔ name = "cases" ∧ value? = v? := by
  unfold ofLong
  split_ifs <;> simp_all

@[simp] def operand? : Part → Option String
  | .operand text => some text
  | .mark | .cases _ | .failFast | .verbose | .refused _ => none

@[simp] def value? : Part → Option String
  | .cases value? => value?
  | .mark | .operand _ | .failFast | .verbose | .refused _ => none

/-- The paths of a `--cases`, none if it has no value. -/
@[simp] def group? : Part → Option (List String)
  | .cases value? => some ((value?.map (Text.split ',')).getD [])
  | .mark | .operand _ | .failFast | .verbose | .refused _ => none

theorem operand?_ofLong (name : String) (value? : Option String) :
    (ofLong name value?).operand? = none := by
  unfold ofLong
  split_ifs <;> rfl

end Part

/-- The parts of arguments. -/
def parts : List String → List Part
  | [] => []
  | arg :: rest =>
    match Token.ofText arg with
    | .escape => .mark :: rest.map .operand
    | .plain _ => .operand arg :: parts rest
    | .short letters => letters.map .ofLetter ++ parts rest
    | .long name value? =>
      if name = "cases" ∧ value? = none then
        match rest with
        | [] => [.cases none]
        | next :: behind =>
          if (Token.ofText next).isPlain then .cases (some next) :: parts behind
          else .cases none :: parts (next :: behind)
      else .ofLong name value? :: parts rest

section Arguments
variable {arg next : String} {rest behind : List String}

theorem parts_of_escape (looks : Token.ofText arg = .escape) :
    parts (arg :: rest) = .mark :: rest.map .operand := by
  rw [parts.eq_def]
  simp only [looks]

theorem parts_of_plain (looks : (Token.ofText arg).isPlain) :
    parts (arg :: rest) = .operand arg :: parts rest := by
  rw [parts.eq_def]
  cases shape : Token.ofText arg <;> simp_all [Token.isPlain]

theorem parts_of_short {letters : List Char} (looks : Token.ofText arg = .short letters) :
    parts (arg :: rest) = letters.map .ofLetter ++ parts rest := by
  rw [parts.eq_def]
  simp only [looks]

theorem parts_of_long {name : String} {value? : Option String}
    (looks : Token.ofText arg = .long name value?) (whole : ¬ (name = "cases" ∧ value? = none)) :
    parts (arg :: rest) = .ofLong name value? :: parts rest := by
  rw [parts.eq_def]
  simp only [looks, if_neg whole]

theorem parts_of_value (looks : (Token.ofText next).isPlain) :
    parts ("--cases" :: next :: behind) = .cases (some next) :: parts behind := by
  rw [parts, Token.ofText_cases]
  simp [looks]

theorem parts_of_no_value (looks : ∀ next ∈ rest.head?, ¬ (Token.ofText next).isPlain) :
    parts ("--cases" :: rest) = .cases none :: parts rest := by
  cases rest with
  | nil => simp [parts, Token.ofText_cases]
  | cons next behind =>
    rw [parts, Token.ofText_cases]
    simp [looks next rfl]

end Arguments

/-- Arguments are cut into parts from the left, each part by its own case. -/
@[elab_as_elim]
theorem arguments_induction {motive : List String → Prop} (nil : motive [])
    (mark : ∀ rest, motive ("--" :: rest))
    (plain : ∀ arg rest, (Token.ofText arg).isPlain → motive rest → motive (arg :: rest))
    (cluster : ∀ arg letters rest, Token.ofText arg = .short letters → motive rest →
      motive (arg :: rest))
    (value : ∀ next behind, (Token.ofText next).isPlain → motive behind →
      motive ("--cases" :: next :: behind))
    (noValue : ∀ rest, (∀ next ∈ rest.head?, ¬ (Token.ofText next).isPlain) → motive rest →
      motive ("--cases" :: rest))
    (option : ∀ arg name value? rest, Token.ofText arg = .long name value? →
      ¬ (name = "cases" ∧ value? = none) → motive rest → motive (arg :: rest))
    (args : List String) : motive args := by
  induction args using parts.induct with
  | case1 => exact nil
  | case2 arg rest looks =>
    obtain rfl := Token.ofText_eq_escape_iff.mp looks
    exact mark rest
  | case3 arg rest text looks ih => exact plain arg rest (by rw [looks]; rfl) ih
  | case4 arg rest letters looks ih => exact cluster arg letters rest looks ih
  | case5 arg name value? looks waits =>
    obtain ⟨rfl, rfl⟩ := waits
    obtain rfl := Token.eq_of_ofText_cases looks
    exact noValue [] (by simp) nil
  | case6 arg name value? looks waits next behind isPlain ih =>
    obtain ⟨rfl, rfl⟩ := waits
    obtain rfl := Token.eq_of_ofText_cases looks
    exact value next behind isPlain ih
  | case7 arg name value? looks waits next behind notPlain ih =>
    obtain ⟨rfl, rfl⟩ := waits
    obtain rfl := Token.eq_of_ofText_cases looks
    exact noValue (next :: behind) (by simpa using notPlain) ih
  | case8 arg rest name value? looks whole ih => exact option arg name value? rest looks whole ih

/-! ## Places between arguments -/

/-- An option may stand between the arguments: no `--` is before it, and it does not part a
`--cases` from its value. -/
structure OptionPlace (before after : List String) : Prop where
  unmarked : "--" ∉ before
  apart : before.getLast? = some "--cases" → ∀ next ∈ after.head?, ¬ (Token.ofText next).isPlain

theorem OptionPlace.tail {arg : String} {before after : List String}
    (place : OptionPlace (arg :: before) after) : OptionPlace before after where
  unmarked := List.not_mem_of_not_mem_cons place.unmarked
  apart last := place.apart (by rw [List.getLast?_cons, last]; rfl)

/-- At a place for an option arguments are cut. -/
theorem parts_append {before after : List String} (place : OptionPlace before after) :
    parts (before ++ after) = parts before ++ parts after := by
  induction before using arguments_induction with
  | nil => rfl
  | mark rest => exact absurd (.head rest) place.unmarked
  | plain arg rest looks ih =>
    rw [List.cons_append, parts_of_plain looks, parts_of_plain looks, ih place.tail]
    rfl
  | cluster arg letters rest looks ih =>
    rw [List.cons_append, parts_of_short looks, parts_of_short looks, ih place.tail,
      List.append_assoc]
  | value next behind looks ih =>
    rw [List.cons_append, List.cons_append, parts_of_value looks, parts_of_value looks,
      ih place.tail.tail]
    rfl
  | noValue rest looks ih =>
    have looks' : ∀ next ∈ (rest ++ after).head?, ¬ (Token.ofText next).isPlain := by
      cases rest with
      | nil => exact place.apart rfl
      | cons next behind => exact looks
    rw [List.cons_append, parts_of_no_value looks', parts_of_no_value looks, ih place.tail]
    rfl
  | option arg name value? rest looks whole ih =>
    rw [List.cons_append, parts_of_long looks whole, parts_of_long looks whole, ih place.tail]
    rfl

/-! ## What parts hold -/

def operandsOf (ps : List Part) : List String := ps.filterMap Part.operand?

/-- The values of all `--cases` in order. -/
def valuesOf (ps : List Part) : List String := ps.filterMap Part.value?

/-- The paths of each `--cases` in order. -/
def groupsOf (ps : List Part) : List (List String) := ps.filterMap Part.group?

section Observations
variable (p : Part) (ps qs : List Part)

@[simp] theorem operandsOf_append : operandsOf (ps ++ qs) = operandsOf ps ++ operandsOf qs :=
  List.filterMap_append

@[simp] theorem groupsOf_append : groupsOf (ps ++ qs) = groupsOf ps ++ groupsOf qs :=
  List.filterMap_append

@[simp] theorem operandsOf_cons : operandsOf (p :: ps) = p.operand?.toList ++ operandsOf ps := by
  rw [operandsOf, List.filterMap_cons]
  cases p.operand? <;> rfl

@[simp] theorem valuesOf_cons : valuesOf (p :: ps) = p.value?.toList ++ valuesOf ps := by
  rw [valuesOf, List.filterMap_cons]
  cases p.value? <;> rfl

@[simp] theorem groupsOf_cons : groupsOf (p :: ps) = p.group?.toList ++ groupsOf ps := by
  rw [groupsOf, List.filterMap_cons]
  cases p.group? <;> rfl

@[simp] theorem operandsOf_nil : operandsOf [] = [] := rfl

@[simp] theorem groupsOf_nil : groupsOf [] = [] := rfl

theorem flatten_groupsOf : (groupsOf ps).flatten = (valuesOf ps).flatMap (Text.split ',') := by
  induction ps with
  | nil => rfl
  | cons p rest ih =>
    rw [groupsOf_cons, valuesOf_cons, List.flatten_append, List.flatMap_append, ih]
    cases p with
    | cases value? => cases value? <;> simp
    | _ => rfl

theorem flatMap_split_eq_nil_iff {values : List String} :
    values.flatMap (Text.split ',') = [] ↔ values = [] := by
  have nonempty (value : String) : Text.split ',' value ≠ [] := by
    simpa [Text.split] using Text.piecesOf_ne_nil ',' value.toList
  cases values with
  | nil => simp
  | cons value rest => simp [nonempty value]

variable {ps} in
theorem valuesOf_eq_nil (noCases : groupsOf ps = []) : valuesOf ps = [] := by
  rw [← flatMap_split_eq_nil_iff, ← flatten_groupsOf, noCases]
  rfl

end Observations

end ValueOrder.CommandLine
