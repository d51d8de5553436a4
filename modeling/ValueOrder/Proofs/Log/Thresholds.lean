import Mathlib.Data.List.Basic
import ValueOrder.CommandLine
import ValueOrder.Log.Filter
import ValueOrder.Proofs.Text.Splitting

/-!
# The level that a filter begins with

A filter takes its general threshold from a level and keeps it until a directive sets another.
Nothing else in it depends on the level. So of two filters that begin with different levels and
are changed by the same directives one stays within the other, and at a directive that is a level
alone they become the same filter.
-/

namespace ValueOrder

/-! ## Levels -/

theorem Level.verbosity_ofFlags (n : Nat) : (ofFlags n).verbosity = min (n + 2) 5 := by
  match n with
  | 0 | 1 | 2 => rfl
  | n + 3 =>
    show 5 = _
    omega

theorem Level.verbosity_ofFlags_le {n k : Nat} (le : n ≤ k) :
    (ofFlags n).verbosity ≤ (ofFlags k).verbosity := by
  rw [verbosity_ofFlags, verbosity_ofFlags]
  omega

/-- What the first threshold shows, the other one shows too. -/
def Threshold.Within (s t : Threshold) : Prop := ∀ level, s.admits level → t.admits level

theorem Threshold.within_of_le {a b : Level} (le : a.verbosity ≤ b.verbosity) :
    Within (some a) (some b) := by
  intro level shown
  have fits : level.verbosity ≤ a.verbosity := of_decide_eq_true shown
  exact decide_eq_true (Nat.le_trans fits le)

/-- The directive is a level alone. -/
def Directive.IsPlain (d : Directive) : Prop := d.target? = none

/-! ## Filters -/

namespace Filter

/-- The longest name that a target begins with, and its threshold. -/
def longest? (target : String) (named : List (String × Threshold)) : Option (String × Threshold) :=
  named.foldl
    (fun best entry =>
      if entry.1.isPrefixOf target then
        match best with
        | some b => if b.1.length ≤ entry.1.length then some entry else best
        | none => some entry
      else best)
    none

theorem thresholdFor_eq (f : Filter) (target : String) :
    f.thresholdFor target = ((longest? target f.named).map Prod.snd).getD f.general := by
  show (match longest? target f.named with | some entry => entry.2 | none => f.general) = _
  cases longest? target f.named <;> rfl

/-- The filters differ in their general thresholds only, and what the first one shows, the other
one shows too. -/
structure Within (f g : Filter) : Prop where
  named : f.named = g.named
  pattern? : f.pattern? = g.pattern?
  general : f.general.Within g.general

section Within
variable {f g : Filter} (within : f.Within g)
include within

/-- A name decides alike in both filters. Where there is none the general thresholds decide. -/
theorem Within.thresholdFor (target : String) :
    (f.thresholdFor target).Within (g.thresholdFor target) := by
  rw [thresholdFor_eq, thresholdFor_eq, ← within.named]
  cases longest? target f.named with
  | none => exact within.general
  | some entry => exact fun _ shown => shown

theorem Within.admits {r : Record} (shown : f.admits r) : g.admits r := by
  obtain ⟨weighty, wanted⟩ := Bool.and_eq_true_iff.mp shown
  refine Bool.and_eq_true_iff.mpr ⟨within.thresholdFor _ _ weighty, ?_⟩
  rwa [wants, ← within.pattern?]

theorem Within.filter_sublist (records : List Record) :
    (records.filter f.admits).Sublist (records.filter g.admits) :=
  List.monotone_filter_right records fun _ => within.admits

theorem Within.apply (d : Directive) : (f.apply d).Within (g.apply d) := by
  obtain ⟨target?, threshold⟩ := d
  cases target? with
  | none => exact ⟨within.named, within.pattern?, fun _ shown => shown⟩
  | some name =>
    exact ⟨congrArg (setNamed name threshold) within.named, within.pattern?, within.general⟩

theorem Within.foldl_apply (ds : List Directive) :
    (ds.foldl Filter.apply f).Within (ds.foldl Filter.apply g) := by
  induction ds generalizing f g with
  | nil => exact within
  | cons d rest ih => exact ih (within.apply d)

theorem Within.apply_of_isPlain {d : Directive} (plain : d.IsPlain) : f.apply d = g.apply d := by
  obtain ⟨target?, threshold⟩ := d
  obtain rfl : target? = none := plain
  show Filter.mk threshold f.named f.pattern? = Filter.mk threshold g.named g.pattern?
  rw [within.named, within.pattern?]

/-- After a level alone there is no difference left. -/
theorem Within.foldl_apply_of_plain {ds : List Directive} (plain : ∃ d ∈ ds, d.IsPlain) :
    ds.foldl Filter.apply f = ds.foldl Filter.apply g := by
  induction ds generalizing f g with
  | nil => simp at plain
  | cons d rest ih =>
    rcases List.or_exists_of_exists_mem_cons plain with here | behind
    · exact congrArg (rest.foldl Filter.apply) (within.apply_of_isPlain here)
    · exact ih (within.apply d) behind

end Within

section Specifications
variable {level other : Level} {spec : Specification}

theorem within_of_le (le : level.verbosity ≤ other.verbosity) (p? : Option Pattern) :
    Within { general := some level, pattern? := p? } { general := some other, pattern? := p? } :=
  ⟨rfl, rfl, Threshold.within_of_le le⟩

theorem ofSpecification_within (le : level.verbosity ≤ other.verbosity) :
    (ofSpecification level spec).Within (ofSpecification other spec) :=
  (within_of_le le spec.pattern?).foldl_apply spec.directives

theorem ofSpecification_of_plain (plain : ∃ d ∈ spec.directives, d.IsPlain) :
    ofSpecification level spec = ofSpecification other spec := by
  rcases Nat.le_total level.verbosity other.verbosity with le | le
  · exact (within_of_le le spec.pattern?).foldl_apply_of_plain plain
  · exact ((within_of_le le spec.pattern?).foldl_apply_of_plain plain).symm

end Specifications

end Filter

/-! ## Levels in specifications -/

/-- A level is written in the specification: there is at most one slash, and among the parts
before it is the word for a threshold alone. -/
def Specification.SetsLevel (text : String) : Prop :=
  ∃ directives behind, Text.split '/' text = directives :: behind ∧ behind.length ≤ 1 ∧
    ∃ part ∈ Text.split ',' directives, (Threshold.ofText? (Text.trimmed part)).isSome

section Reading
variable {part text : String}

/-- The words for thresholds have no equals sign. -/
theorem Threshold.notMem_of_isSome (word : (ofText? part).isSome) : '=' ∉ part.toList := by
  obtain ⟨entry, known, same⟩ := List.lookup_isSome_iff.mp word
  intro here
  have lower : '=' ∈ (part.map Char.toLower).toList := by
    rw [String.toList_map]
    exact List.mem_map.mpr ⟨'=', here, rfl⟩
  have spelled : part.map Char.toLower = entry.1 := eq_of_beq same
  rw [spelled] at lower
  clear word same here spelled
  revert entry
  decide

theorem Directive.ofText_of_word {t : Threshold} (word : Threshold.ofText? part = some t) :
    ofText part = .ok ⟨none, t⟩ := by
  have absent := Threshold.notMem_of_isSome (Option.isSome_of_eq_some word)
  rw [ofText, Text.split_of_notMem absent]
  simp only [word]

theorem Directive.isSome_of_isPlain {d : Directive} (read : ofText part = .ok d)
    (plain : d.IsPlain) : (Threshold.ofText? part).isSome := by
  unfold ofText at read
  split at read
  · next single pieces =>
    obtain rfl := Text.eq_of_split_eq_singleton pieces
    split at read
    · next t word => exact Option.isSome_of_eq_some word
    · cases read
      cases plain
  · dsimp only at read
    split at read
    · cases read
      cases plain
    · split at read <;> cases read
      cases plain
  · cases read

theorem Directive.exists_plain_ofText_iff :
    (∃ d, ofText part = .ok d ∧ d.IsPlain) ↔ (Threshold.ofText? part).isSome := by
  constructor
  · rintro ⟨d, read, plain⟩
    exact isSome_of_isPlain read plain
  · intro word
    obtain ⟨t, word⟩ := Option.isSome_iff_exists.mp word
    exact ⟨_, ofText_of_word word, rfl⟩

/-- The directives of a list are what its parts are read as, as far as they can be read. -/
theorem Directive.mem_listOfText_iff {d : Directive} :
    d ∈ (listOfText text).filterMap Except.toOption ↔
      ∃ part ∈ Text.split ',' text,
        Text.trimmed part ≠ "" ∧ ofText (Text.trimmed part) = .ok d := by
  have toOption (r : Except Complaint Directive) : r.toOption = some d ↔ r = .ok d := by
    cases r <;> simp [Except.toOption]
  simp only [listOfText, List.mem_filterMap, List.mem_map, List.mem_filter, decide_eq_true_eq,
    toOption]
  constructor
  · rintro ⟨_, ⟨_, ⟨⟨part, here, rfl⟩, nonempty⟩, rfl⟩, read⟩
    exact ⟨part, here, nonempty, read⟩
  · rintro ⟨part, here, nonempty, read⟩
    exact ⟨_, ⟨_, ⟨⟨part, here, rfl⟩, nonempty⟩, rfl⟩, read⟩

theorem Directive.exists_plain_listOfText_iff :
    (∃ d ∈ (listOfText text).filterMap Except.toOption, d.IsPlain) ↔
      ∃ part ∈ Text.split ',' text, (Threshold.ofText? (Text.trimmed part)).isSome := by
  simp only [mem_listOfText_iff, ← exists_plain_ofText_iff]
  constructor
  · rintro ⟨d, ⟨part, here, _, read⟩, plain⟩
    exact ⟨part, here, d, read, plain⟩
  · rintro ⟨part, here, d, read, plain⟩
    have nonempty : Text.trimmed part ≠ "" := by
      intro empty
      have word := isSome_of_isPlain read plain
      rw [empty] at word
      exact absurd word (by decide +kernel)
    exact ⟨d, ⟨part, here, nonempty, read⟩, plain⟩

theorem Specification.exists_plain_iff :
    (∃ d ∈ (ofText text).directives, d.IsPlain) ↔ SetsLevel text := by
  unfold ofText SetsLevel
  split
  · next directives pieces =>
    rw [pieces]
    simpa [ofParts] using Directive.exists_plain_listOfText_iff
  · next directives pattern pieces =>
    rw [pieces]
    simpa [ofParts] using Directive.exists_plain_listOfText_iff
  · next single pair =>
    refine ⟨fun ⟨d, here, _⟩ => absurd here List.not_mem_nil, ?_⟩
    rintro ⟨directives, behind, pieces, short, _⟩
    match behind with
    | [] => exact absurd pieces (single directives)
    | [pattern] => exact absurd pieces (pair directives pattern)
    | _ :: _ :: _ => simp at short

end Reading

end ValueOrder
