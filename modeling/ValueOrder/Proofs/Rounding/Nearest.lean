import Mathlib.Data.Nat.Dist
import ValueOrder.Proofs.Order.Ranks

/-!
# Nearest doubles

A rounding gives the double that is nearest to the number, and on a tie the one whose last bit is
clear. This holds among all finite doubles of either sign, whatever their binades are.
-/

namespace ValueOrder

/-! ## Nearest multiples -/

section Multiples
variable {n d k : Nat}

theorem mul_add_le_of_ne {j k : Nat} (other : j ≠ k) (d : Nat) :
    j * d + d ≤ k * d ∨ k * d + d ≤ j * d := by
  rw [← Nat.succ_mul, ← Nat.succ_mul]
  rcases Nat.lt_or_gt_of_ne other with below | above
  · exact .inl (Nat.mul_le_mul_right d below)
  · exact .inr (Nat.mul_le_mul_right d above)

/-- An integer is rounded to the nearest multiple. -/
theorem roundHalfEven_nearest (n : Nat) (positive : 0 < d) (k : Nat) :
    (roundHalfEven n d * d).dist n ≤ (k * d).dist n := by
  rcases eq_or_ne k (roundHalfEven n d) with rfl | other
  · exact le_rfl
  · have apart := mul_add_le_of_ne other d
    obtain ⟨below, above⟩ := roundHalfEven_near n positive
    unfold Nat.dist
    omega

/-- Of two nearest multiples the even one is taken. -/
theorem roundHalfEven_even (positive : 0 < d) (other : k ≠ roundHalfEven n d)
    (tie : (k * d).dist n = (roundHalfEven n d * d).dist n) : roundHalfEven n d % 2 = 0 := by
  have apart := mul_add_le_of_ne other d
  have parts : n / d * d + n % d = n := Nat.div_add_mod' n d
  have rest : n % d < d := Nat.mod_lt n positive
  have next : (n / d + 1) * d = n / d * d + d := Nat.succ_mul _ _
  unfold Nat.dist at tie
  unfold roundHalfEven at *
  dsimp only at *
  split_ifs at * <;> omega

end Multiples

theorem cast_dist (a b : Nat) : ((a.dist b : Nat) : ℚ) = |(a : ℚ) - b| := by
  rcases Nat.le_total a b with le | le
  · rw [Nat.dist_eq_sub_of_le le, Nat.cast_sub le, abs_sub_comm]
    exact (abs_of_nonneg (sub_nonneg.mpr (Nat.cast_le.mpr le))).symm
  · rw [Nat.dist_eq_sub_of_le_right le, Nat.cast_sub le]
    exact (abs_of_nonneg (sub_nonneg.mpr (Nat.cast_le.mpr le))).symm

namespace Binary64

/-! ## Nearest magnitudes -/

/-- Doubles are multiples of the step of any binade, but for those of lower binades. -/
theorem exists_multiple_or_lt (y : Binary64) (k : Nat) :
    (∃ j, y.units = j * 2 ^ k) ∨ 0 < k ∧ y.units < hiddenBit * 2 ^ k := by
  obtain ⟨scale, q, binade, units, _⟩ := exists_significand y
  rcases Nat.lt_or_ge scale k with lower | reached
  · right
    have below := lt_of_binade y.units
    have step : 2 ^ (scale + 1) ≤ 2 ^ k := Nat.pow_le_pow_right (by decide) lower
    refine ⟨by omega, below.trans_le ?_⟩
    rw [binade]
    calc 2 * hiddenBit * 2 ^ scale = hiddenBit * 2 ^ (scale + 1) := by ring
      _ ≤ hiddenBit * 2 ^ k := Nat.mul_le_mul_left _ step
  · left
    refine ⟨q * 2 ^ (scale - k), ?_⟩
    rw [mul_assoc, ← pow_add, Nat.sub_add_cancel reached]
    exact units

section Rounded
variable {n d : Nat} (positive : 0 < d) (finite : (ofUnits n d).magnitude < infinityMagnitude)
include positive finite

/-- Measured in units a rounding is nearest, and even on a tie. -/
theorem units_nearest (y : Binary64) :
    ((ofUnits n d).units * d).dist n ≤ (y.units * d).dist n ∧
    (y.units ≠ (ofUnits n d).units →
      (y.units * d).dist n = ((ofUnits n d).units * d).dist n → (ofUnits n d).magnitude % 2 = 0) := by
  have room : 0 < d * 2 ^ binade (n / d) := Nat.mul_pos positive (Nat.two_pow_pos _)
  have scaled (j : Nat) : j * 2 ^ binade (n / d) * d = j * (d * 2 ^ binade (n / d)) := by ring
  have magnitude : (ofUnits n d).magnitude % 2 = significand n d % 2 := by
    rw [magnitude_ofUnits] at finite ⊢
    have whole : binade (n / d) * hiddenBit % 2 = 0 := by
      rw [Nat.mul_mod]
      simp [hiddenBit]
    omega
  rw [units_ofUnits positive finite, magnitude, scaled]
  rcases exists_multiple_or_lt y (binade (n / d)) with ⟨j, multiple⟩ | ⟨above, lower⟩
  · rw [multiple, scaled]
    refine ⟨roundHalfEven_nearest n room j, fun other tie => roundHalfEven_even room ?_ tie⟩
    rintro rfl
    exact other rfl
  · -- A double of a lower binade is further away than the least double of this one.
    have least : hiddenBit * 2 ^ binade (n / d) * d ≤ n :=
      (Nat.le_div_iff_mul_le positive).mp (le_of_binade above)
    have farther : y.units * d < hiddenBit * 2 ^ binade (n / d) * d :=
      Nat.mul_lt_mul_of_pos_right lower positive
    have near : (significand n d * (d * 2 ^ binade (n / d))).dist n ≤ _ :=
      roundHalfEven_nearest n room hiddenBit
    rw [← scaled hiddenBit] at near
    unfold Nat.dist at near ⊢
    omega

theorem absValue_nearest (y : Binary64) :
    |(ofUnits n d).absValue - n / (d * unit)| ≤ |y.absValue - n / (d * unit)| ∧
    (y.absValue ≠ (ofUnits n d).absValue →
      |y.absValue - n / (d * unit)| = |(ofUnits n d).absValue - n / (d * unit)| →
      (ofUnits n d).magnitude % 2 = 0) := by
  have exact : (0 : ℚ) < d := Nat.cast_pos.mpr positive
  have scale : (0 : ℚ) < d * unit := mul_pos exact cast_unit_pos
  have measured (z : Binary64) :
      |z.absValue - n / (d * unit)| = ((z.units * d).dist n : Nat) / (d * unit) := by
    rw [cast_dist, Nat.cast_mul, absValue, ← mul_div_mul_left _ _ exact.ne', ← sub_div, abs_div,
      abs_of_pos scale, mul_comm (d : ℚ)]
  obtain ⟨nearest, even⟩ := units_nearest positive finite y
  rw [measured, measured]
  refine ⟨div_le_div_of_nonneg_right (Nat.cast_le.mpr nearest) scale.le, fun other tie => ?_⟩
  refine even ?_ ?_
  · intro same
    exact other (by rw [absValue, absValue, same])
  · exact Nat.cast_injective ((div_left_inj' scale.ne').mp tie)

end Rounded

/-! ## Nearest doubles -/

/-- The double is nearest to the number among all finite ones, and its last bit is clear if
another number is as near. -/
structure IsNearest (x : Binary64) (t : ℚ) : Prop where
  finite : x.magnitude < infinityMagnitude
  nearest : ∀ y : Binary64, y.magnitude < infinityMagnitude → |x.value - t| ≤ |y.value - t|
  even : ∀ y : Binary64, y.magnitude < infinityMagnitude → y.value ≠ x.value →
    |y.value - t| = |x.value - t| → x.bits.toNat % 2 = 0

/-- A double of the right sign is nearest if its absolute value is nearest to that of the
number. -/
theorem isNearest_of_absValue {x : Binary64} {s t : ℚ} (size : |t| = s)
    (sign : if x.isNegative then t ≤ 0 else 0 ≤ t) (finite : x.magnitude < infinityMagnitude)
    (nearest : ∀ y : Binary64, |x.absValue - s| ≤ |y.absValue - s|)
    (even : ∀ y : Binary64, y.absValue ≠ x.absValue → |y.absValue - s| = |x.absValue - s| →
      x.magnitude % 2 = 0) : x.IsNearest t := by
  have aligned : |x.value - t| = |x.absValue - s| := by
    rw [← size, value]
    split_ifs at sign ⊢
    · rw [abs_of_nonpos sign, ← abs_neg]
      ring_nf
    · rw [abs_of_nonneg sign]
  have apart (y : Binary64) : |y.absValue - s| ≤ |y.value - t| := by
    rw [← abs_value y, ← size]
    exact abs_abs_sub_abs_le y.value t
  have lastBit : x.bits.toNat % 2 = x.magnitude % 2 := by
    unfold magnitude signBit
    omega
  refine ⟨finite, fun y _ => ?_, fun y _ other tie => ?_⟩
  · rw [aligned]
    exact (nearest y).trans (apart y)
  · rw [lastBit]
    have back := (apart y).trans_eq (tie.trans aligned)
    refine even y (fun same => ?_) (le_antisymm back (nearest y))
    -- Doubles of one absolute value are opposite numbers, which are as near only to zero.
    rw [← abs_value, ← abs_value, abs_eq_abs] at same
    have opposite := same.resolve_left other
    have centred : t = 0 := by
      rcases abs_eq_abs.mp (opposite ▸ tie) with level | mirrored
      · exact absurd (by linarith) other
      · linarith
    have nothing : x.absValue ≤ 0 := by
      have least : zero.absValue = 0 := absValue_eq_zero (by decide)
      have near := nearest zero
      rw [← size, centred, least, abs_zero, sub_zero, sub_zero, abs_zero] at near
      exact (le_abs_self _).trans near
    have none : x.value = 0 := abs_nonpos_iff.mp (abs_value x ▸ nothing)
    exact other (by rw [opposite, none, neg_zero])

end Binary64

end ValueOrder
