import ValueOrder.Proofs.Printing.Layout
import ValueOrder.Proofs.Reading.Levels
import ValueOrder.Proofs.Reading.Literals
import ValueOrder.Proofs.Reading.Values

/-!
# Compact documents are read back

A compact document follows the grammar, so it is read as the tree that it spells. Numbers are
followed as far as they are whole.
-/

namespace ValueOrder

/-! ## Whole numbers -/

theorem Binary64.neg_zero : Binary64.zero.neg = .negZero := rfl

namespace Json.Literal

/-- A literal without a point and an exponent, from `-2 ^ 63` to `2 ^ 64 - 1`. -/
structure IsWhole (l : Literal) : Prop where
  noFraction : l.fraction = []
  noExponent : l.exponent = none
  low : -2 ^ 63 ≤ l.value
  high : l.value ≤ 2 ^ 64 - 1

section Whole
variable {l : Literal} {x : JsonNumber}

theorem IsWhole.value_eq (whole : l.IsWhole) :
    l.value = if l.negative then -(l.digits : ℚ) else l.digits := by
  have size : l.size = l.digits := by
    rw [Literal.size, shift, whole.noExponent, whole.noFraction]
    simp
  rw [value, size]

theorem IsWhole.digits_le (whole : l.IsWhole) :
    l.digits < 2 ^ 64 ∧ (l.negative → l.digits ≤ 2 ^ 63) := by
  have low := whole.low
  have high := whole.high
  rw [whole.value_eq] at low high
  cases negative : l.negative with
  | false =>
    rw [negative, if_neg Bool.false_ne_true] at high
    have bound : (l.digits : ℚ) < (2 ^ 64 : Nat) := by
      push_cast
      linarith
    exact ⟨mod_cast bound, nofun⟩
  | true =>
    rw [negative, if_pos rfl] at low
    have bound : (l.digits : ℚ) ≤ (2 ^ 63 : Nat) := by
      push_cast
      linarith
    have bound : l.digits ≤ 2 ^ 63 := mod_cast bound
    exact ⟨by omega, fun _ => bound⟩

/-- All digits of the literal are kept. -/
theorem IsWhole.number_eq (whole : l.IsWhole) : l.number = .ok (l.integer l.digits) := by
  obtain ⟨kept, power⟩ := kept_of_lt whole.digits_le.1
  have nothingDropped : (gather 0 l.whole).2 = 0 := by
    rw [Literal.power, point, shift, whole.noExponent, whole.noFraction] at power
    simpa [gather] using power
  have front := (plain_kept whole.noFraction nothingDropped).1
  unfold number
  dsimp only
  rw [if_pos ⟨whole.noFraction, whole.noExponent, nothingDropped⟩, ← front, kept]

/-- What a whole literal is read as is an integer of 64 bits or minus zero. -/
theorem IsWhole.integer_or_negZero (whole : l.IsWhole) (read : l.number = .ok x) :
    (∃ k : Int, -0x8000000000000000 ≤ k ∧ k < 0x10000000000000000 ∧ x = .integer k) ∨
      x = .double .negZero := by
  obtain ⟨small, most⟩ := whole.digits_le
  rw [whole.number_eq] at read
  cases read
  unfold integer
  cases negative : l.negative with
  | false =>
    refine .inl ⟨l.digits, by omega, by omega, rfl⟩
  | true =>
    have most := most negative
    by_cases zero : l.digits = 0
    · exact .inr (by simp [zero, Binary64.ofNat_zero, Binary64.neg_zero])
    · have inside : ¬ 0x8000000000000000 < l.digits := by omega
      refine .inl ⟨-l.digits, by omega, by omega, ?_⟩
      simp [zero, inside]

end Whole

end Json.Literal

namespace JsonNumber

open Json

/-- A whole literal is read as this number. -/
def IsWhole (x : JsonNumber) : Prop :=
  ∃ l t, LiteralText l t ∧ l.IsWhole ∧ l.number = .ok x

theorem shortest_negZero : Decimal.shortest .even .negZero = ⟨0, 0⟩ := by
  have nothing : Decimal.places .negZero = 0 := by
    rw [Decimal.places, show Binary64.negZero.units = 0 from rfl, Nat.zero_mul]
  have oneDigit : Decimal.digitCount 0 = 1 := by
    rw [Decimal.digitCount]
    rfl
  rw [Decimal.shortest, nothing, oneDigit, Decimal.search, Decimal.ofSteps, Decimal.trim]
  rfl

/-- Minus zero is no integer, so it is written with a point. -/
theorem render_negZero : (JsonNumber.double .negZero).render = "-0.0" := by
  have notNaN : Binary64.negZero.isNaN = false := rfl
  have finite : Binary64.negZero.isInfinite = false := rfl
  have negative : Binary64.negZero.isNegative = true := rfl
  have digits : Layout.document.magnitudeText ⟨0, 0⟩ = "0.0".toList := by decide
  rw [render, Layout.text, notNaN, finite, negative, show Layout.document.tie = .even from rfl,
    shortest_negZero, digits]
  rfl

theorem exists_literal_negZero :
    ∃ l, LiteralText l "-0.0".toList ∧ l.number = .ok (.double .negZero) := by
  have zero : IsDigits ['0'] := isDigits_of_all (by decide) (by decide)
  have read : (⟨true, [0], [0], none⟩ : Literal).number =
      (⟨true, [0], [0], none⟩ : Literal).double? 0 (-1) := rfl
  refine ⟨_, .mk .minus zero (fun _ => rfl) (.point zero) .none, read.trans ?_⟩
  rw [Literal.double?, Binary64.ofNat_zero, scaled?_zero]
  rfl

/-- A whole number is written as a literal that is read as the number. -/
theorem IsWhole.exists_literal {x : JsonNumber} (whole : x.IsWhole) :
    ∃ l, LiteralText l x.render.toList ∧ l.number = .ok x := by
  obtain ⟨l, t, written, whole, read⟩ := whole
  rcases whole.integer_or_negZero read with ⟨k, low, high, rfl⟩ | rfl
  · exact exists_literal_of_int low high
  · rw [render_negZero]
    exact exists_literal_negZero

end JsonNumber

namespace Json

/-- All numbers in the tree are whole, in members that do not count as well. -/
inductive OnlyWhole : Json → Prop where
  | null : OnlyWhole .null
  | boolean (b : Bool) : OnlyWhole (.boolean b)
  | number {x : JsonNumber} (whole : x.IsWhole) : OnlyWhole (.number x)
  | text (s : String) : OnlyWhole (.text s)
  | array {items : List Json} (elements : ∀ j ∈ items, OnlyWhole j) : OnlyWhole (.array items)
  | object {members : List (String × Json)} (values : ∀ m ∈ members, OnlyWhole m.2) :
      OnlyWhole (.object members)

theorem quotedText_textChars (s : String) : QuotedText s (textChars s) :=
  (leastQuoted_textChars s).quotedText

/-! ## Trees -/

section Trees
variable {n : Nat}

theorem spells_elements {f : Json → Json} {g : Json → List Char} {items : List Json}
    (nonempty : items ≠ [])
    (each : ∀ j ∈ items, Spells (.value (some (f j))) n (g j)) :
    Spells (.elements (some (items.map f))) n (commaSeparated (items.map g)) := by
  induction items with
  | nil => exact absurd rfl nonempty
  | cons j rest ih =>
    obtain ⟨first, others⟩ := List.forall_mem_cons.mp each
    cases rest with
    | nil => exact .lastElement first.bare
    | cons next rest => exact .nextElement first.bare (ih (List.cons_ne_nil _ _) others)

theorem spells_member {key : String} {j : Json} {t : List Char}
    (written : Spells (.value (some j)) n t) :
    Spells (.member (some (key, j))) n (memberChars (key, t)) :=
  .memberOfKey blank_nil (quotedText_textChars key) blank_nil written.bare

theorem spells_members {f : Json → Json} {g : Json → List Char} {members : List (String × Json)}
    (nonempty : members ≠ [])
    (each : ∀ m ∈ members, Spells (.value (some (f m.2))) n (g m.2)) :
    Spells (.members (some (members.map (Prod.map id f)))) n
      (commaSeparated ((members.map (Prod.map id g)).map memberChars)) := by
  induction members with
  | nil => exact absurd rfl nonempty
  | cons m rest ih =>
    obtain ⟨first, others⟩ := List.forall_mem_cons.mp each
    cases rest with
    | nil => exact .lastMember (spells_member first)
    | cons next rest => exact .nextMember (spells_member first) (ih (List.cons_ne_nil _ _) others)

/-- A compact document spells the tree without what does not count. -/
theorem spells_compactChars {j : Json} (fits : Fits j n) (whole : OnlyWhole j) :
    Spells (.value (some j.canonical)) n j.compactChars := by
  induction j using tree_induction generalizing n with
  | null =>
    have known : (Json.null, "null") ∈ keywords := .head _
    exact .keyword known
  | boolean b => exact .keyword (Value.boolean_mem_keywords b)
  | number x =>
    cases whole with
    | number whole =>
      obtain ⟨l, written, read⟩ := whole.exists_literal
      rw [canonical, compactChars]
      simpa [read, Except.toOption] using Spells.number (n := n) written
  | text s => exact .quoted (quotedText_textChars s)
  | array items ih =>
    cases fits with
    | array deep =>
      cases whole with
      | array elements =>
        rw [canonical, canonicalItems_eq_map, compactChars, compactItems_eq_map]
        by_cases empty : items = []
        · subst empty
          exact .emptyArray blank_nil
        · exact .array (spells_elements empty fun j mem => ih j mem (deep j mem) (elements j mem))
  | object members ih =>
    cases fits with
    | object deep =>
      cases whole with
      | object values =>
        rw [canonical_object, compactChars_object]
        by_cases empty : merged members = []
        · rw [empty]
          exact .emptyObject blank_nil
        · refine .object (spells_members empty fun m mem => ?_)
          have written := mem_of_mem_merged mem
          exact ih m written (deep m written) (values m written)

/-- A compact document is read as the tree without what does not count. -/
theorem ofText_compact {j : Json} (fits : Fits j maxLevels) (whole : OnlyWhole j) :
    ofText j.compact = .ok j.canonical := by
  rw [← toOption_eq_some_iff]
  refine toOption_ofText (Nat.le_refl maxLevels) (Spells.bare ?_)
  rw [compact, String.toList_ofList]
  exact spells_compactChars fits whole

end Trees

end Json

end ValueOrder
