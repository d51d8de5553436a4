import ValueOrder.Comparison
import ValueOrder.Proofs.Reading.Values
import ValueOrder.Proofs.Rounding.Nearest

/-!
# The order of integers

An integer of 64 bits is the same double whether it is handed over or read from its decimal
notation: the nearest one. Neighbouring integers may be rounded to one double, but never past each
other, and up to `2 ^ 53` each is a double of its own.
-/

namespace ValueOrder

namespace Binary64

section Integers
variable {k l : Int}

theorem magnitude_ofInt (k : Int) : (ofInt k).magnitude = (ofNat k.natAbs).magnitude := by
  cases k with
  | ofNat n => rfl
  | negSucc n => exact magnitude_neg (ofNat (n + 1))

/-- Zero has a clear sign bit. -/
theorem isNegative_ofInt (k : Int) : (ofInt k).isNegative = decide (k < 0) := by
  cases k with
  | ofNat n => exact isNegative_ofUnits _ _
  | negSucc n =>
    rw [decide_eq_true (Int.negSucc_lt_zero n)]
    exact (isNegative_neg (ofNat (n + 1))).trans (by rw [ofNat, isNegative_ofUnits]; rfl)

theorem magnitude_ofInt_le (k : Int) : (ofInt k).magnitude ≤ infinityMagnitude := by
  rw [magnitude_ofInt]
  exact magnitude_ofUnits_le_infinity _ _

theorem absValue_ofInt (k : Int) : (ofInt k).absValue = (ofNat k.natAbs).absValue := by
  rw [absValue, absValue, units_eq_of_magnitude_eq (magnitude_ofInt k)]

theorem rank_ofInt (k : Int) : (ofInt k).rank =
    if k < 0 then -((ofNat k.natAbs).magnitude : Int) else (ofNat k.natAbs).magnitude := by
  rw [rank, isNegative_ofInt, magnitude_ofInt]
  simp

/-- A larger integer is not rounded to a smaller double. -/
theorem rank_ofInt_le (le : k ≤ l) : (ofInt k).rank ≤ (ofInt l).rank := by
  rw [rank_ofInt, rank_ofInt]
  split_ifs with negative negative'
  · have back := magnitude_ofNat_le (n := l.natAbs) (k := k.natAbs) (by omega)
    omega
  · omega
  · omega
  · have along := magnitude_ofNat_le (n := k.natAbs) (k := l.natAbs) (by omega)
    omega

/-- The doubles of integers are the integers as long as all of these are doubles. -/
theorem value_ofInt (small : k.natAbs ≤ 2 ^ 53) : (ofInt k).value = k := by
  have size : (ofInt k).absValue = |(k : ℚ)| := by
    rw [absValue_ofInt, absValue, units_ofNat small, Nat.cast_mul,
      mul_div_cancel_right₀ _ cast_unit_pos.ne', Nat.cast_natAbs, Int.cast_abs]
  rw [value, isNegative_ofInt, size]
  split_ifs with negative
  · rw [abs_of_neg (Int.cast_lt_zero.mpr (of_decide_eq_true negative)), neg_neg]
  · exact abs_of_nonneg (Int.cast_nonneg (Int.not_lt.mp (by simpa using negative)))

theorem isNearest_ofInt (small : k.natAbs ≤ 10 ^ 308) : (ofInt k).IsNearest k := by
  have finite := magnitude_ofNat_lt small
  have exact : ((k.natAbs * unit : Nat) : ℚ) / ((1 : Nat) * unit) = k.natAbs := by
    rw [Nat.cast_mul, Nat.cast_one, one_mul, mul_div_cancel_right₀ _ cast_unit_pos.ne']
  have near (y : Binary64) := absValue_nearest Nat.one_pos finite y
  simp only [exact] at near
  refine isNearest_of_absValue (s := k.natAbs) ?_ ?_ ?_ ?_ ?_
  · rw [Nat.cast_natAbs, Int.cast_abs]
  · rw [isNegative_ofInt]
    split_ifs with negative
    · exact Int.cast_nonpos.mpr (of_decide_eq_true negative).le
    · exact Int.cast_nonneg (Int.not_lt.mp (by simpa using negative))
  · rwa [magnitude_ofInt]
  · rw [absValue_ofInt]
    exact fun y => (near y).1
  · rw [absValue_ofInt, magnitude_ofInt]
    exact fun y => (near y).2

end Integers

end Binary64

/-- However the integer comes in, it is one number value: the double nearest to it, where zero has
a clear sign bit. -/
structure Value.HasOneForm (k : Int) : Prop where
  read : ofJsonText (toString k) = .ok (ofInt k)
  nearest : ∃ x, ofInt k = .number x ∧ x.IsNearest k ∧ (x.isNegative ↔ k < 0)

theorem Value.hasOneForm {k : Int} (low : -2 ^ 63 ≤ k) (high : k < 2 ^ 63) : HasOneForm k := by
  obtain ⟨l, written, number⟩ := Json.exists_literal_of_int low (high.trans (by decide))
  constructor
  case read => exact (read_literal_iff written).mpr ⟨_, number, rfl⟩
  case nearest =>
    have bound : 2 ^ 63 ≤ 10 ^ 308 := by decide +kernel
    refine ⟨_, rfl, Binary64.isNearest_ofInt ?_, ?_⟩
    · exact Nat.le_trans (by omega) bound
    · rw [Binary64.isNegative_ofInt, decide_eq_true_iff]

namespace Comparison

section Integers
variable {k l : Int}

theorem result_order_ofInt (k l : Int) : (order (.ofInt k) (.ofInt l)).result =
    .ok (.ofOrdering (compare (Binary64.ofInt k).rank (Binary64.ofInt l).rank)) := by
  rw [← Binary64.order_of_finite (Binary64.magnitude_ofInt_le k) (Binary64.magnitude_ofInt_le l)]
  exact result_order_eq_ok_iff.mpr rfl

theorem rising_of_le (le : k ≤ l) :
    (Outcome.ofOrdering (compare (Binary64.ofInt k).rank (Binary64.ofInt l).rank)).Rising := by
  rcases (Binary64.rank_ofInt_le le).lt_or_eq with less | same
  · exact .inl (Binary64.outcome_of_lt less)
  · exact .inr (Binary64.outcome_of_eq same)

/-- Integers that are doubles are ordered as integers. -/
theorem result_order_ofInt_of_small (small : k.natAbs ≤ 2 ^ 53) (small' : l.natAbs ≤ 2 ^ 53) :
    (order (.ofInt k) (.ofInt l)).result = .ok (.ofOrdering (compare k l)) := by
  have less {a b : Int} (small : a.natAbs ≤ 2 ^ 53) (small' : b.natAbs ≤ 2 ^ 53) (below : a < b) :
      (Binary64.ofInt a).rank < (Binary64.ofInt b).rank := by
    rw [Binary64.rank_lt_iff (Binary64.magnitude_ofInt_le a) (Binary64.magnitude_ofInt_le b),
      Binary64.value_ofInt small, Binary64.value_ofInt small']
    exact Int.cast_lt.mpr below
  rw [result_order_ofInt]
  rcases lt_trichotomy k l with below | rfl | above
  · rw [compare_lt_iff_lt.mpr below, compare_lt_iff_lt.mpr (less small small' below)]
  · rw [compare_eq_iff_eq.mpr rfl, compare_eq_iff_eq.mpr rfl]
  · rw [compare_gt_iff_gt.mpr above, compare_gt_iff_gt.mpr (less small' small above)]

/-- Integers of 64 bits, and those of 32 bits, come in as one value each, and never past each
other: the order of a smaller integer and a larger one is less, or it is equal, which takes an
integer beyond `2 ^ 53`. Up to there, and for all integers of 32 bits, it is the order of
integers. -/
theorem integers_keep_order :
    (∀ i : Int64, Value.HasOneForm i.toInt) ∧ (∀ i : Int32, Value.HasOneForm i.toInt) ∧
    (∀ i j : Int64, i ≤ j → ∃ o, (order (.ofInt i.toInt) (.ofInt j.toInt)).result = .ok o ∧
      o.Rising ∧ (o = .equal → i = j ∨ 2 ^ 53 < i.toInt.natAbs ∨ 2 ^ 53 < j.toInt.natAbs)) ∧
    (∀ i j : Int64, i.toInt.natAbs ≤ 2 ^ 53 → j.toInt.natAbs ≤ 2 ^ 53 →
      (order (.ofInt i.toInt) (.ofInt j.toInt)).result =
        .ok (.ofOrdering (compare i.toInt j.toInt))) ∧
    ∀ i j : Int32, (order (.ofInt i.toInt) (.ofInt j.toInt)).result =
      .ok (.ofOrdering (compare i.toInt j.toInt)) := by
  have small (i : Int32) : i.toInt.natAbs ≤ 2 ^ 31 := by
    have low := i.le_toInt
    have high := i.toInt_lt
    omega
  refine ⟨fun i => Value.hasOneForm i.le_toInt i.toInt_lt, fun i => ?_, fun i j le => ?_, ?_, ?_⟩
  · have bound := small i
    exact Value.hasOneForm (by omega) (by omega)
  · refine ⟨_, result_order_ofInt _ _, rising_of_le (Int64.le_iff_toInt_le.mp le), fun equal => ?_⟩
    by_contra! apart
    obtain ⟨other, small, small'⟩ := apart
    have ordered := result_order_ofInt_of_small small small'
    rw [result_order_ofInt, equal] at ordered
    have same := Binary64.outcome_eq_equal_iff.mp (Except.ok.inj ordered).symm
    exact other (Int64.toInt_inj.mp same)
  · exact fun i j => result_order_ofInt_of_small
  · exact fun i j => result_order_ofInt_of_small ((small i).trans (by decide))
      ((small j).trans (by decide))

/-- The least integer is read as a power of two, and the greatest two keep their order though they
are one double. -/
theorem integers_at_the_ends :
    Value.ofJsonText "-9223372036854775808" = .ok (.number ⟨0xC3E0000000000000⟩) ∧
    (∃ o, (order (.ofInt 9223372036854775806) (.ofInt 9223372036854775807)).result = .ok o ∧
      o.Rising) ∧
    (order (.ofInt (-9007199254740992)) (.ofInt 9007199254740991)).result = .ok .less := by
  obtain ⟨oneForm, _, rising, small, _⟩ := integers_keep_order
  have read := (oneForm (-9223372036854775808)).read
  have least : Value.ofInt (-9223372036854775808) = .number ⟨0xC3E0000000000000⟩ :=
    congrArg Value.number (by decide +kernel)
  obtain ⟨o, ordered, rises, _⟩ := rising 9223372036854775806 9223372036854775807 (by decide)
  have below := small (-9007199254740992) 9007199254740991 (by decide) (by decide)
  refine ⟨?_, ⟨o, ordered, rises⟩, below⟩
  rw [← least]
  exact read

end Integers

end Comparison

end ValueOrder
