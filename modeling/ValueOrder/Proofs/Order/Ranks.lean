import ValueOrder.Proofs.Order.Scalars
import ValueOrder.Proofs.Rounding.Error

/-!
# Ranks and exact values

Doubles are ordered by rank, which is read off their bits. Below the NaNs ranks stand to each
other as the numbers do that the doubles are, so the order of doubles is that of exact values.
-/

namespace ValueOrder.Binary64

/-- The number that a finite double is. -/
def value (x : Binary64) : ℚ := if x.isNegative then -x.absValue else x.absValue

section Values
variable {x y : Binary64}

theorem absValue_nonneg (x : Binary64) : 0 ≤ x.absValue :=
  div_nonneg (Nat.cast_nonneg _) cast_unit_pos.le

theorem abs_value (x : Binary64) : |x.value| = x.absValue := by
  unfold value
  split
  · rw [abs_neg, abs_of_nonneg (absValue_nonneg x)]
  · exact abs_of_nonneg (absValue_nonneg x)

theorem absValue_eq_zero (none : x.magnitude = 0) : x.absValue = 0 := by
  have units : x.units = 0 := by simp [Binary64.units, none]
  rw [absValue, units, Nat.cast_zero, zero_div]

/-- The number in units, with its sign. -/
def signedUnits (x : Binary64) : Int := if x.isNegative then -(x.units : Int) else x.units

theorem value_eq_signedUnits (x : Binary64) : x.value = x.signedUnits / unit := by
  unfold value signedUnits absValue
  split
  · rw [Int.cast_neg, Int.cast_natCast, neg_div]
  · rw [Int.cast_natCast]

end Values

section Ranks
variable {x y : Binary64} (finite : x.magnitude ≤ infinityMagnitude)
  (finite' : y.magnitude ≤ infinityMagnitude)
include finite finite'

theorem magnitude_lt_iff : x.magnitude < y.magnitude ↔ x.units < y.units := by
  constructor
  · intro less
    by_contra more
    have back := magnitude_le_of_units_le finite' finite (Nat.le_of_not_lt more)
    omega
  · exact magnitude_lt_of_units_lt finite finite'

theorem rank_lt_iff : x.rank < y.rank ↔ x.value < y.value := by
  have along := magnitude_lt_iff finite finite'
  have back := magnitude_lt_iff finite' finite
  -- Where the signs differ, only zeros have the same rank.
  have small : zero.magnitude < x.magnitude ↔ zero.units < x.units :=
    magnitude_lt_iff (by decide) finite
  have small' : zero.magnitude < y.magnitude ↔ zero.units < y.units :=
    magnitude_lt_iff (by decide) finite'
  have none : zero.magnitude = 0 := by decide
  rw [units_zero, none] at small small'
  rw [value_eq_signedUnits, value_eq_signedUnits, div_lt_div_iff_of_pos_right cast_unit_pos,
    Int.cast_lt]
  unfold rank signedUnits
  split_ifs <;> omega

theorem order_of_finite : order x y = .ofOrdering (compare x.rank y.rank) :=
  order_of_not_nan (by simpa [isNaN] using finite) (by simpa [isNaN] using finite')

end Ranks

/-! ## Outcomes -/

theorem outcome_of_lt {a b : Int} (less : a < b) : Outcome.ofOrdering (compare a b) = .less := by
  rw [compare_lt_iff_lt.mpr less]
  rfl

theorem outcome_eq_equal_iff {a b : Int} : Outcome.ofOrdering (compare a b) = .equal ↔ a = b := by
  have compared : compare a b = .eq ↔ a = b := compare_eq_iff_eq
  rw [← compared]
  cases compare a b <;> simp [Outcome.ofOrdering]

theorem outcome_of_eq {a b : Int} (same : a = b) : Outcome.ofOrdering (compare a b) = .equal :=
  outcome_eq_equal_iff.mpr same

end ValueOrder.Binary64
