import Mathlib.Algebra.Order.Monoid.WithTop
import ValueOrder.Comparison
import ValueOrder.Proofs.Order.Meeting
import ValueOrder.Proofs.Order.Ranks

/-!
# The numeric scale

Numbers and booleans are ordered as exact numbers. A bit pattern is read by its three fields: it
is a rational number, an infinity beyond all of these, or no number at all. Operands are unordered
exactly if one of them is no number.
-/

namespace ValueOrder

/-- The rational numbers between two infinities. -/
abbrev ExtendedRat := WithBot (WithTop ℚ)

namespace Binary64

/-! ## Fields -/

/-- The eleven bits behind the sign. -/
def exponentField (x : Binary64) : Nat := x.bits.toNat / 2 ^ 52 % 2 ^ 11

/-- The last fifty-two bits. -/
def fractionField (x : Binary64) : Nat := x.bits.toNat % 2 ^ 52

/-- The absolute value that a pattern spells out, with a leading one unless the exponent field is
zero. -/
def spelledSize (x : Binary64) : ℚ :=
  if x.exponentField = 0 then x.fractionField / 2 ^ 52 * 2 ^ (-1022 : ℤ)
  else (1 + x.fractionField / 2 ^ 52) * 2 ^ (x.exponentField - 1023 : ℤ)

/-- The place of a pattern among the numbers. The highest exponent is left for the infinities,
and for patterns that are no number. -/
def place? (x : Binary64) : Option ExtendedRat :=
  if x.exponentField < 2047 then
    some ((if x.isNegative then -x.spelledSize else x.spelledSize : ℚ) : WithTop ℚ)
  else if x.fractionField = 0 then some (if x.isNegative then ⊥ else (⊤ : WithTop ℚ))
  else none

section Fields
variable {x y : Binary64}

theorem magnitude_eq_fields (x : Binary64) :
    x.magnitude = x.exponentField * hiddenBit + x.fractionField := by
  unfold magnitude exponentField fractionField signBit hiddenBit
  omega

theorem exponentField_le (x : Binary64) : x.exponentField ≤ 2047 :=
  Nat.le_of_lt_succ (Nat.mod_lt _ (by decide))

theorem fractionField_lt (x : Binary64) : x.fractionField < hiddenBit := Nat.mod_lt _ (by decide)

theorem units_eq_fields (x : Binary64) : x.units =
    if x.exponentField = 0 then x.fractionField
    else (hiddenBit + x.fractionField) * 2 ^ (x.exponentField - 1) := by
  have exponent : x.magnitude / hiddenBit = x.exponentField := by
    unfold magnitude exponentField signBit hiddenBit
    omega
  have fraction : x.magnitude % hiddenBit = x.fractionField := by
    unfold magnitude fractionField signBit hiddenBit
    omega
  rw [units, exponent, fraction]
  rfl

theorem cast_unit : (unit : ℚ) = 2 ^ 1074 := by
  have exact : unit = 2 ^ 1074 := by decide +kernel
  rw [exact, Nat.cast_pow, Nat.cast_ofNat]

theorem spelledSize_eq_absValue (x : Binary64) : x.spelledSize = x.absValue := by
  have hidden : (hiddenBit : ℚ) = 2 ^ 52 := by norm_num [hiddenBit]
  have scale : (2 : ℚ) ^ 1074 = 2 ^ 52 * 2 ^ 1022 := pow_add 2 52 1022
  have lowest : (2 : ℚ) ^ (-1022 : ℤ) = 1 / 2 ^ 1022 := by rw [zpow_neg, zpow_ofNat, one_div]
  rw [absValue, cast_unit, units_eq_fields, spelledSize, scale]
  generalize (2 : ℚ) ^ 1022 = s at *
  split
  · rw [lowest, div_mul_div_comm, mul_one]
  · next above =>
    obtain ⟨k, exponent⟩ := Nat.exists_eq_succ_of_ne_zero above
    have power : (2 : ℚ) ^ (x.exponentField - 1023 : ℤ) = 2 ^ k * 2 ^ (-1022 : ℤ) := by
      rw [← zpow_natCast, ← zpow_add₀ two_ne_zero, exponent]
      congr 1
      push_cast
      ring
    have leading : 1 + (x.fractionField : ℚ) / 2 ^ 52 = (2 ^ 52 + x.fractionField) / 2 ^ 52 := by
      rw [add_div, div_self (by norm_num)]
    rw [power, lowest, leading, exponent, Nat.succ_sub_one]
    push_cast
    rw [hidden, mul_one_div, div_mul_div_comm]

theorem isNaN_iff : x.isNaN ↔ x.exponentField = 2047 ∧ x.fractionField ≠ 0 := by
  have bound := exponentField_le x
  have bound' := fractionField_lt x
  rw [isNaN, decide_eq_true_iff, magnitude_eq_fields]
  unfold infinityMagnitude hiddenBit at *
  omega

theorem place?_of_nan (nan : x.isNaN) : x.place? = none := by
  obtain ⟨exponent, fraction⟩ := isNaN_iff.mp nan
  rw [place?, if_neg (by omega), if_neg fraction]

/-- Where a pattern that is a number stands, and what its rank is there. -/
inductive StandsAt (x : Binary64) : ExtendedRat → Prop where
  | bottom (least : x.rank = -infinityMagnitude) : x.StandsAt ⊥
  | finite (inside : x.magnitude < infinityMagnitude) : x.StandsAt (x.value : WithTop ℚ)
  | top (greatest : x.rank = infinityMagnitude) : x.StandsAt (⊤ : WithTop ℚ)

theorem exists_standsAt (number : ¬ x.isNaN) : ∃ r, x.place? = some r ∧ x.StandsAt r := by
  have fields := magnitude_eq_fields x
  have fraction := fractionField_lt x
  have exponent := exponentField_le x
  rw [isNaN_iff, not_and_not_right] at number
  rw [place?, spelledSize_eq_absValue]
  by_cases finite : x.exponentField < 2047
  · rw [if_pos finite]
    refine ⟨_, rfl, .finite ?_⟩
    unfold infinityMagnitude hiddenBit at *
    omega
  · have highest : x.exponentField = 2047 := by omega
    have infinite : x.magnitude = infinityMagnitude := by
      rw [fields, highest, number highest]
      rfl
    rw [if_neg finite, if_pos (number highest)]
    cases negative : x.isNegative with
    | true => exact ⟨⊥, rfl, .bottom (by simp [rank, negative, infinite])⟩
    | false => exact ⟨_, rfl, .top (by simp [rank, negative, infinite])⟩

theorem place?_eq_none_iff : x.place? = none ↔ x.isNaN := by
  constructor
  · intro none
    by_contra number
    obtain ⟨r, found, _⟩ := exists_standsAt number
    rw [none] at found
    cases found
  · exact place?_of_nan

theorem not_nan_of_place? {r : ExtendedRat} (found : x.place? = some r) : ¬ x.isNaN := by
  rw [← place?_eq_none_iff, found]
  nofun

theorem standsAt_of_place? {r : ExtendedRat} (found : x.place? = some r) : x.StandsAt r := by
  obtain ⟨s, found', stands⟩ := exists_standsAt (not_nan_of_place? found)
  rw [found] at found'
  cases found'
  exact stands

theorem rank_bounds (x : Binary64) : -x.magnitude ≤ x.rank ∧ x.rank ≤ x.magnitude := by
  unfold rank
  split <;> omega

/-- Patterns stand to each other as their ranks do. -/
theorem StandsAt.lt_iff {r s : ExtendedRat} (left : x.StandsAt r) (right : y.StandsAt s) :
    r < s ↔ x.rank < y.rank := by
  have bounds := rank_bounds x
  have bounds' := rank_bounds y
  have positive : 0 < infinityMagnitude := by decide
  cases left with
  | bottom least =>
    cases right with
    | bottom least' => exact iff_of_false (lt_irrefl _) (by omega)
    | finite inside' => exact iff_of_true (WithBot.bot_lt_coe _) (by omega)
    | top greatest' => exact iff_of_true (WithBot.bot_lt_coe _) (by omega)
  | finite inside =>
    cases right with
    | bottom least' => exact iff_of_false not_lt_bot (by omega)
    | finite inside' =>
      rw [WithBot.coe_lt_coe, WithTop.coe_lt_coe, rank_lt_iff inside.le inside'.le]
    | top greatest' =>
      exact iff_of_true (WithBot.coe_lt_coe.mpr (WithTop.coe_lt_top x.value)) (by omega)
  | top greatest =>
    cases right with
    | bottom least' => exact iff_of_false not_lt_bot (by omega)
    | finite inside' => exact iff_of_false (mt WithBot.coe_lt_coe.mp not_top_lt) (by omega)
    | top greatest' => exact iff_of_false (lt_irrefl _) (by omega)

end Fields

end Binary64

namespace Outcome

/-- The outcome says how the left number stands to the right one. -/
def Tells (o : Outcome) (r s : ExtendedRat) : Prop :=
  (o = .less ↔ r < s) ∧ (o = .equal ↔ r = s) ∧ (o = .greater ↔ s < r)

theorem tells_of_lt_iff {a b : Int} {r s : ExtendedRat} (less : r < s ↔ a < b)
    (greater : s < r ↔ b < a) : (ofOrdering (compare a b)).Tells r s := by
  rcases lt_trichotomy a b with below | same | above
  · have first := less.mpr below
    rw [compare_lt_iff_lt.mpr below]
    simp [Tells, ofOrdering, first, first.ne, first.le]
  · have first : r = s := by
      apply le_antisymm
      · rw [← not_lt, greater]
        omega
      · rw [← not_lt, less]
        omega
    rw [compare_eq_iff_eq.mpr same]
    simp [Tells, ofOrdering, first]
  · have last := greater.mpr above
    rw [compare_gt_iff_gt.mpr above]
    simp [Tells, ofOrdering, last, last.ne', last.le]

end Outcome

namespace Value

/-- The place of an operand on the numeric scale, none for a NaN. -/
inductive HasPlace : Value → Option ExtendedRat → Prop where
  | number (x : Binary64) : HasPlace (.number x) x.place?
  | boolean (b : Bool) : HasPlace (.boolean b) (some ((if b then 1 else 0 : ℚ) : WithTop ℚ))

theorem place?_zero : Binary64.zero.place? = some ((0 : ℚ) : WithTop ℚ) := by
  have exponent : Binary64.zero.exponentField = 0 := by decide
  have fraction : Binary64.zero.fractionField = 0 := by decide
  simp [Binary64.place?, Binary64.spelledSize, exponent, fraction]

theorem place?_one : Binary64.one.place? = some ((1 : ℚ) : WithTop ℚ) := by
  have exponent : Binary64.one.exponentField = 1023 := by decide
  have fraction : Binary64.one.fractionField = 0 := by decide
  have sign : Binary64.one.isNegative = false := by decide
  simp [Binary64.place?, Binary64.spelledSize, exponent, fraction, sign]

theorem HasPlace.exists_number {v : Value} {p : Option ExtendedRat} (place : v.HasPlace p) :
    ∃ x, v.asNumber? = some x ∧ x.place? = p := by
  cases place with
  | number x => exact ⟨x, rfl, rfl⟩
  | boolean b =>
    cases b with
    | false => exact ⟨.zero, rfl, place?_zero⟩
    | true => exact ⟨.one, rfl, place?_one⟩

end Value

namespace Comparison

/-- On the numeric scale the order is that of exact numbers. Two operands always have an outcome.
It is unordered exactly if one of them is a NaN, and otherwise it tells how the exact numbers
stand to each other. -/
theorem numeric_scale_exact {v w : Value} {p q : Option ExtendedRat} (left : v.HasPlace p)
    (right : w.HasPlace q) :
    ∃ o, (order v w).result = .ok o ∧ (o = .unordered ↔ p = none ∨ q = none) ∧
      ∀ r s, p = some r → q = some s → o.Tells r s := by
  obtain ⟨x, number, rfl⟩ := left.exists_number
  obtain ⟨y, number', rfl⟩ := right.exists_number
  refine ⟨Binary64.order x y, ?_, ?_, ?_⟩
  · exact result_order_eq_ok_iff.mpr (Value.order_numbers number number')
  · rw [Binary64.order_eq_unordered_iff, Binary64.place?_eq_none_iff, Binary64.place?_eq_none_iff]
  · intro r s found found'
    have stands := Binary64.standsAt_of_place? found
    have stands' := Binary64.standsAt_of_place? found'
    rw [Binary64.order_of_not_nan (Binary64.not_nan_of_place? found)
      (Binary64.not_nan_of_place? found')]
    exact Outcome.tells_of_lt_iff (stands.lt_iff stands') (stands'.lt_iff stands)

/-- The negative number next to zero is less than false, and a NaN with a payload is unordered. -/
theorem least_subnormal_below_false :
    (order (.number ⟨0x8000000000000001⟩) (.boolean false)).result = .ok .less ∧
    (order (.number ⟨0xFFF0000000000001⟩) (.boolean true)).result = .ok .unordered := by
  have least : (⟨0x8000000000000001⟩ : Binary64).place? =
      some ((-(1 / 2 ^ 52 * 2 ^ (-1022 : ℤ)) : ℚ) : WithTop ℚ) := by
    have exponent : (⟨0x8000000000000001⟩ : Binary64).exponentField = 0 := by decide
    have fraction : (⟨0x8000000000000001⟩ : Binary64).fractionField = 1 := by decide
    have sign : (⟨0x8000000000000001⟩ : Binary64).isNegative = true := by decide
    simp [Binary64.place?, Binary64.spelledSize, exponent, fraction, sign]
  have nan : (⟨0xFFF0000000000001⟩ : Binary64).place? = none := Binary64.place?_of_nan (by decide)
  obtain ⟨o, ordered, _, tells⟩ :=
    numeric_scale_exact (.number ⟨0x8000000000000001⟩) (.boolean false)
  obtain ⟨o', ordered', unordered, _⟩ :=
    numeric_scale_exact (.number ⟨0xFFF0000000000001⟩) (.boolean true)
  have below : ((-(1 / 2 ^ 52 * 2 ^ (-1022 : ℤ)) : ℚ) : WithTop ℚ) < ((0 : ℚ) : WithTop ℚ) := by
    rw [WithTop.coe_lt_coe, neg_lt_zero]
    exact mul_pos (by norm_num) (zpow_pos two_pos _)
  rw [(tells _ _ least rfl).1.mpr (WithBot.coe_lt_coe.mpr below)] at ordered
  rw [unordered.mpr (.inl nan)] at ordered'
  exact ⟨ordered, ordered'⟩

end Comparison

end ValueOrder
