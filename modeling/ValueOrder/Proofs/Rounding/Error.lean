import Mathlib.Algebra.Order.Field.Basic
import Mathlib.Data.Rat.Cast.Order
import Mathlib.Tactic.FieldSimp
import Mathlib.Tactic.Linarith
import Mathlib.Tactic.NormNum
import Mathlib.Tactic.Positivity
import Mathlib.Tactic.Ring
import ValueOrder.Proofs.Rounding.Monotone

/-!
# Rounding errors

A rounding moves a quotient by at most one part in `2 ^ 53`, and by at most half a unit
where doubles are as dense as they get. Relative errors add up over products and quotients,
but for a rest that a hundredth of a rounding covers.
-/

namespace ValueOrder

/-- The integer is at most a half away from the quotient. -/
theorem roundHalfEven_near (n : Nat) {d : Nat} (positive : 0 < d) :
    2 * (roundHalfEven n d * d) ≤ 2 * n + d ∧ 2 * n ≤ 2 * (roundHalfEven n d * d) + d := by
  have parts : n / d * d + n % d = n := Nat.div_add_mod' n d
  have rest : n % d < d := Nat.mod_lt n positive
  have next : (n / d + 1) * d = n / d * d + d := Nat.succ_mul _ _
  unfold roundHalfEven
  dsimp only
  split_ifs <;> omega

/-! ## Relative errors -/

/-- The largest relative error of a rounding. -/
def roundoff : ℚ := 1 / 2 ^ 53

/-- `r` is `t` up to the relative error of `c` roundings. -/
def Close (c r t : ℚ) : Prop := ∃ ε, |ε| ≤ c * roundoff ∧ r = t * (1 + ε)

section Close
variable {a b c r s t : ℚ}

theorem Close.mul_left (near : Close c r s) (t : ℚ) : Close c (t * r) (t * s) := by
  obtain ⟨ε, small, rfl⟩ := near
  exact ⟨ε, small, by ring⟩

theorem Close.mono (near : Close a r t) (le : a ≤ b) : Close b r t := by
  obtain ⟨ε, small, rfl⟩ := near
  refine ⟨ε, small.trans (mul_le_mul_of_nonneg_right le ?_), rfl⟩
  norm_num [roundoff]

/-- Errors one after the other add up, but for a small rest. -/
theorem Close.trans (first : Close a s t) (second : Close b r s) (fewA : a ≤ 100)
    (fewB : b ≤ 100) : Close (a + b + 1 / 100) r t := by
  obtain ⟨α, smallA, rfl⟩ := first
  obtain ⟨β, smallB, rfl⟩ := second
  refine ⟨α + β + α * β, ?_, by ring⟩
  have tinyB : |β| ≤ 1 / 20000 := by
    refine smallB.trans ?_
    rw [roundoff]
    linarith
  have tinyA : |α| ≤ 200 * roundoff := smallA.trans (by
    rw [roundoff]
    linarith)
  have product : |α * β| ≤ 1 / 100 * roundoff := by
    rw [abs_mul]
    calc |α| * |β| ≤ 200 * roundoff * (1 / 20000) :=
          mul_le_mul tinyA tinyB (abs_nonneg β) ((abs_nonneg α).trans tinyA)
      _ = 1 / 100 * roundoff := by ring
  calc |α + β + α * β| ≤ |α| + |β| + |α * β| := abs_add_three α β (α * β)
    _ ≤ a * roundoff + b * roundoff + 1 / 100 * roundoff := by linarith
    _ = (a + b + 1 / 100) * roundoff := by ring

theorem Close.mul {p q : ℚ} (left : Close a r t) (right : Close b p q) (fewA : a ≤ 100)
    (fewB : b ≤ 100) : Close (a + b + 1 / 100) (r * p) (t * q) := by
  have first : Close a (r * q) (t * q) := by
    simpa only [mul_comm _ q] using left.mul_left q
  exact first.trans (right.mul_left r) fewA fewB

theorem Close.inv (near : Close a r t) (few : a ≤ 100) : Close (a + 1 / 100) r⁻¹ t⁻¹ := by
  obtain ⟨ε, small, rfl⟩ := near
  have tiny : |ε| ≤ 1 / 20001 := by
    refine small.trans ?_
    rw [roundoff]
    linarith
  obtain ⟨low, high⟩ := abs_le.mp tiny
  have positive : 0 < 1 + ε := by linarith
  refine ⟨-ε / (1 + ε), ?_, ?_⟩
  · have share : |ε| * (1 + ε)⁻¹ ≤ |ε| + |ε| * (1 / 20000) := by
      have bound : (1 + ε)⁻¹ ≤ 1 + 1 / 20000 := by
        rw [inv_le_comm₀ positive (by norm_num)]
        linarith
      calc |ε| * (1 + ε)⁻¹ ≤ |ε| * (1 + 1 / 20000) :=
            mul_le_mul_of_nonneg_left bound (abs_nonneg ε)
        _ = |ε| + |ε| * (1 / 20000) := by ring
    have rest : |ε| * (1 / 20000) ≤ 1 / 100 * roundoff := by
      have wide : |ε| ≤ 200 * roundoff := small.trans (by
        rw [roundoff]
        linarith)
      linarith
    rw [abs_div, abs_neg, abs_of_pos positive, div_eq_mul_inv]
    linarith
  · have split : 1 + -ε / (1 + ε) = (1 + ε)⁻¹ := by
      field_simp
      ring
    rw [split, mul_inv]

theorem Close.refl (nonneg : 0 ≤ c) (t : ℚ) : Close c t t := by
  refine ⟨0, ?_, by ring⟩
  rw [abs_zero, roundoff]
  positivity

theorem close_of_abs_le (positive : 0 < t) (near : |r - t| ≤ c * roundoff * t) : Close c r t := by
  refine ⟨(r - t) / t, ?_, ?_⟩
  · rw [abs_div, abs_of_pos positive, div_le_iff₀ positive]
    exact near
  · field_simp
    ring

end Close

/-! ## Doubles as numbers -/

namespace Binary64

theorem cast_unit_pos : (0 : ℚ) < unit := Nat.cast_pos.mpr unit_pos

/-- The absolute value of a finite double. -/
def absValue (x : Binary64) : ℚ := x.units / unit

/-- Half the distance between doubles next to zero. -/
def halfUnit : ℚ := 1 / (2 * unit)

theorem halfUnit_pos : 0 < halfUnit := one_div_pos.mpr (mul_pos two_pos cast_unit_pos)

theorem two_mul_halfUnit : 2 * halfUnit = 1 / unit := by
  rw [halfUnit, one_div, mul_inv, mul_inv_cancel_left₀ two_ne_zero, one_div]

/-- Half a unit is small beside the least power of ten that is scaled by. -/
theorem halfUnit_le : halfUnit ≤ 9 / 4 * roundoff * (1 / 10 ^ 308) := by
  have bound : 4 * 2 ^ 53 * 10 ^ 308 ≤ 9 * (2 * unit) := by decide +kernel
  have bound' : (4 * 2 ^ 53 * 10 ^ 308 : ℚ) ≤ 9 * (2 * unit) := mod_cast bound
  have scale : (0 : ℚ) < 2 * unit := mul_pos two_pos cast_unit_pos
  have split : (9 / 4 * (1 / 2 ^ 53) * (1 / 10 ^ 308) * (2 * unit) : ℚ) =
      9 * (2 * unit) / (4 * 2 ^ 53 * 10 ^ 308) := by
    generalize (unit : ℚ) = u
    field_simp
  rw [halfUnit, roundoff, div_le_iff₀ scale, split, le_div_iff₀ (by positivity), one_mul]
  exact bound'

/-- Sixteen times the largest gathered integer vanishes beside half a unit when it is scaled
down twice. -/
theorem scaled_down_le_halfUnit : (16 * 2 ^ 64 / 10 ^ 616 : ℚ) ≤ halfUnit := by
  have bound : 16 * 2 ^ 64 * (2 * unit) ≤ 10 ^ 616 := by decide +kernel
  have bound' : (16 * 2 ^ 64 * (2 * unit) : ℚ) ≤ 10 ^ 616 := mod_cast bound
  have scale : (0 : ℚ) < 2 * unit := mul_pos two_pos cast_unit_pos
  rw [halfUnit, div_le_div_iff₀ (by positivity) scale, one_mul]
  exact bound'

/-- `r` is `t` up to the relative error of `c` roundings and half a unit. -/
def Near (c r t : ℚ) : Prop := ∃ s, Close c s t ∧ |r - s| ≤ halfUnit

section Near
variable {a b c e r s t : ℚ}

/-- Half a unit is a relative error where it is small. -/
theorem Near.close (near : Near c r t) (positive : 0 < t) (small : halfUnit ≤ e * roundoff * t) :
    Close (c + e) r t := by
  obtain ⟨s, ⟨ε, relative, rfl⟩, apart⟩ := near
  refine ⟨ε + (r - t * (1 + ε)) / t, ?_, ?_⟩
  · have share : |(r - t * (1 + ε)) / t| ≤ e * roundoff := by
      rw [abs_div, abs_of_pos positive, div_le_iff₀ positive]
      exact apart.trans small
    calc |ε + (r - t * (1 + ε)) / t| ≤ |ε| + |(r - t * (1 + ε)) / t| := abs_add_le _ _
      _ ≤ (c + e) * roundoff := by linarith
  · field_simp
    ring

theorem Near.after (first : Close a s t) (second : Near b r s) (fewA : a ≤ 100) (fewB : b ≤ 100) :
    Near (a + b + 1 / 100) r t := by
  obtain ⟨m, near, apart⟩ := second
  exact ⟨m, first.trans near fewA fewB, apart⟩

theorem Near.of_close (near : Close c r t) : Near c r t := by
  refine ⟨r, near, ?_⟩
  rw [sub_self, abs_zero]
  exact halfUnit_pos.le

theorem Near.mono (near : Near a r t) (le : a ≤ b) : Near b r t := by
  obtain ⟨m, close, apart⟩ := near
  exact ⟨m, close.mono le, apart⟩

end Near

theorem units_of_magnitude {x : Binary64} {k q : Nat} (magnitude : x.magnitude = k * hiddenBit + q)
    (high : q ≤ 2 * hiddenBit) (low : k = 0 ∨ hiddenBit ≤ q) : x.units = q * 2 ^ k := by
  have positive : 0 < hiddenBit := by decide
  rw [units, magnitude]
  rcases Nat.lt_or_ge q hiddenBit with small | large
  · have lowest : k = 0 := low.resolve_right (Nat.not_le_of_lt small)
    subst lowest
    simp [Nat.div_eq_of_lt small, Nat.mod_eq_of_lt small]
  · rcases Nat.lt_or_eq_of_le high with inside | top
    · have shifted : k * hiddenBit + q = (q - hiddenBit) + hiddenBit * (k + 1) := by
        rw [Nat.mul_succ, Nat.mul_comm]
        omega
      have fraction : q - hiddenBit < hiddenBit := by omega
      rw [shifted, Nat.add_mul_div_left _ _ positive, Nat.add_mul_mod_self_left,
        Nat.div_eq_of_lt fraction, Nat.mod_eq_of_lt fraction]
      simp [Nat.add_sub_cancel' large]
    · have shifted : k * hiddenBit + q = hiddenBit * (k + 2) := by
        rw [top, Nat.mul_add, Nat.mul_comm, Nat.mul_comm 2]
      rw [shifted, Nat.mul_div_cancel_left _ positive, Nat.mul_mod_right, top]
      simp [Nat.pow_succ]
      ring

section Rounded
variable {n d : Nat}

/-- The units to which a quotient is rounded. -/
theorem units_ofUnits (positive : 0 < d) (finite : (ofUnits n d).magnitude < infinityMagnitude) :
    (ofUnits n d).units = significand n d * 2 ^ binade (n / d) := by
  refine units_of_magnitude ?_ (significand_le positive) ?_
  · rw [magnitude_ofUnits] at finite ⊢
    omega
  · rcases Nat.eq_zero_or_pos (binade (n / d)) with lowest | above
    · exact .inl lowest
    · exact .inr (le_significand positive above)

theorem abs_units_sub_le (positive : 0 < d)
    (finite : (ofUnits n d).magnitude < infinityMagnitude) :
    |((ofUnits n d).units : ℚ) - n / d| ≤ 2 ^ binade (n / d) / 2 := by
  have room : 0 < d * 2 ^ binade (n / d) := Nat.mul_pos positive (Nat.two_pow_pos _)
  have exact : (0 : ℚ) < d := Nat.cast_pos.mpr positive
  obtain ⟨below, above⟩ := roundHalfEven_near n room
  have below' : (2 * (significand n d * (d * 2 ^ binade (n / d))) : ℚ) ≤
      2 * n + d * 2 ^ binade (n / d) := mod_cast below
  have above' : (2 * n : ℚ) ≤
      2 * (significand n d * (d * 2 ^ binade (n / d))) + d * 2 ^ binade (n / d) := mod_cast above
  have quotient : (n : ℚ) / d * d = n := div_mul_cancel₀ _ exact.ne'
  rw [units_ofUnits positive finite, abs_le]
  push_cast
  constructor
  · refine le_of_mul_le_mul_right ?_ exact
    linarith
  · refine le_of_mul_le_mul_right ?_ exact
    linarith

/-- The step of a binade is one unit, or small beside the quotient. -/
theorem binade_step (positive : 0 < d) :
    binade (n / d) = 0 ∨ (2 : ℚ) ^ binade (n / d) / 2 ≤ roundoff * (n / d) := by
  rcases Nat.eq_zero_or_pos (binade (n / d)) with lowest | above
  · exact .inl lowest
  · right
    have exact : (0 : ℚ) < d := Nat.cast_pos.mpr positive
    have least : hiddenBit * 2 ^ binade (n / d) * d ≤ n :=
      (Nat.le_div_iff_mul_le positive).mp (le_of_binade above)
    have least' : (2 : ℚ) ^ 52 * 2 ^ binade (n / d) ≤ n / d := by
      rw [le_div_iff₀ exact]
      have cast : (hiddenBit : ℚ) = 2 ^ 52 := by norm_num [hiddenBit]
      rw [← cast]
      exact_mod_cast least
    rw [roundoff]
    linarith

theorem close_of_step (positive : 0 < d) (finite : (ofUnits n d).magnitude < infinityMagnitude)
    (small : (2 : ℚ) ^ binade (n / d) / 2 ≤ roundoff * (n / d)) :
    Close 1 (ofUnits n d).absValue (n / (d * unit)) := by
  have scale := cast_unit_pos
  have quotient : (0 : ℚ) < n / d := by
    have step : (0 : ℚ) < 2 ^ binade (n / d) / 2 := by positivity
    refine pos_of_mul_pos_right (step.trans_le small) ?_
    norm_num [roundoff]
  have near := (abs_units_sub_le positive finite).trans small
  rw [← div_div]
  refine close_of_abs_le (div_pos quotient scale) ?_
  rw [absValue, ← sub_div, abs_div, abs_of_pos scale, one_mul, mul_div_assoc']
  exact div_le_div_of_nonneg_right near scale.le

/-- A rounding has a relative error, or one of half a unit. -/
theorem near_ofUnits (positive : 0 < d)
    (finite : (ofUnits n d).magnitude < infinityMagnitude) :
    Near 1 (ofUnits n d).absValue (n / (d * unit)) := by
  rcases binade_step (n := n) positive with lowest | small
  · have scale : (0 : ℚ) < unit := Nat.cast_pos.mpr unit_pos
    have near := abs_units_sub_le positive finite
    rw [lowest, pow_zero] at near
    refine ⟨n / (d * unit), .refl zero_le_one _, ?_⟩
    rw [← div_div, absValue, ← sub_div, abs_div, abs_of_pos scale, halfUnit, ← div_div]
    exact div_le_div_of_nonneg_right near scale.le
  · exact .of_close (close_of_step positive finite small)

/-- A rounding has only a relative error where doubles are normal. -/
theorem close_ofUnits (positive : 0 < d) (normal : hiddenBit * d ≤ n)
    (finite : (ofUnits n d).magnitude < infinityMagnitude) :
    Close 1 (ofUnits n d).absValue (n / (d * unit)) := by
  refine close_of_step positive finite ?_
  rcases binade_step (n := n) positive with lowest | small
  · have exact : (0 : ℚ) < d := Nat.cast_pos.mpr positive
    have large : (2 : ℚ) ^ 52 ≤ n / d := by
      rw [le_div_iff₀ exact]
      have cast : (hiddenBit : ℚ) = 2 ^ 52 := by norm_num [hiddenBit]
      rw [← cast]
      exact_mod_cast normal
    rw [lowest, roundoff]
    linarith
  · exact small

end Rounded

/-! ## Doubles nearest to numbers -/

/-- The double is what the number is rounded to. -/
def Rounds (t : ℚ) (x : Binary64) : Prop :=
  ∃ n d : Nat, 0 < d ∧ (n / (d * unit) : ℚ) = t ∧ x = ofUnits n d

theorem rounds_ofNat (n : Nat) : Rounds n (ofNat n) := by
  refine ⟨n * unit, 1, Nat.one_pos, ?_, rfl⟩
  rw [Nat.cast_mul, Nat.cast_one, one_mul, mul_div_cancel_right₀ _ cast_unit_pos.ne']

/-- Larger numbers are not rounded to smaller doubles. -/
theorem Rounds.magnitude_le {s t : ℚ} {x y : Binary64} (left : Rounds s x) (right : Rounds t y)
    (le : s ≤ t) : x.magnitude ≤ y.magnitude := by
  obtain ⟨n, d, positive, rfl, rfl⟩ := left
  obtain ⟨m, e, positive', rfl, rfl⟩ := right
  refine magnitude_ofUnits_le positive positive' ?_
  have scale := cast_unit_pos
  have exact : (0 : ℚ) < d := Nat.cast_pos.mpr positive
  have exact' : (0 : ℚ) < e := Nat.cast_pos.mpr positive'
  rw [← div_div, ← div_div, div_le_div_iff_of_pos_right scale, div_le_div_iff₀ exact exact'] at le
  exact_mod_cast le

theorem units_ofUnits_of_dvd {t : Nat} (finite : (ofUnits t 1).magnitude < infinityMagnitude)
    (divides : 2 ^ binade t ∣ t) : (ofUnits t 1).units = t := by
  obtain ⟨q, exact⟩ := divides
  have power : 0 < 2 ^ binade t := Nat.two_pow_pos _
  have rounded : significand t 1 = q := by
    rw [significand, Nat.div_one, Nat.one_mul]
    nth_rewrite 1 [exact]
    rw [Nat.mul_comm]
    exact roundHalfEven_mul q power
  rw [units_ofUnits Nat.one_pos finite, rounded, Nat.div_one, Nat.mul_comm]
  exact exact.symm

/-! ## Integers, products and quotients -/

section Operations
variable {x y : Binary64} {n : Nat}

theorem magnitude_ofNat_lt (small : n ≤ 10 ^ 308) : (ofNat n).magnitude < infinityMagnitude := by
  have largest : (ofNat (10 ^ 308)).magnitude < infinityMagnitude := by decide +kernel
  exact Nat.lt_of_le_of_lt (magnitude_ofNat_le small) largest

theorem units_one : (ofNat 1).units = unit := by decide +kernel

theorem unit_le_units_ofNat (positive : 0 < n) : unit ≤ (ofNat n).units := by
  rw [← units_one]
  exact units_le_of_magnitude_le (magnitude_ofUnits_le_infinity _ _)
    (magnitude_ofUnits_le_infinity _ _) (magnitude_ofNat_le positive)

theorem unit_le_units_tenTo (k : Nat) : unit ≤ (tenTo k).units :=
  unit_le_units_ofNat (Nat.pow_pos (by decide))

theorem units_tenTo_pos (k : Nat) : 0 < (tenTo k).units :=
  Nat.lt_of_lt_of_le unit_pos (unit_le_units_tenTo k)

/-- A double below one unit is zero. -/
theorem ofUnits_eq_zero {n d : Nat} (tiny : (ofUnits n d).absValue < 2 * halfUnit) :
    ofUnits n d = zero := by
  rw [two_mul_halfUnit] at tiny
  have less : ((ofUnits n d).units : ℚ) < 1 := (div_lt_div_iff_of_pos_right cast_unit_pos).mp tiny
  have none : (ofUnits n d).units = 0 := Nat.lt_one_iff.mp (mod_cast less)
  refine eq_of_magnitude (by rw [isNegative_ofUnits]; decide) (Nat.le_zero.mp ?_)
  have finite : zero.magnitude ≤ infinityMagnitude := by decide
  refine magnitude_le_of_units_le (magnitude_ofUnits_le_infinity n d) finite ?_
  rw [none]
  exact Nat.zero_le _

theorem units_ofNat (small : n ≤ 2 ^ 53) : (ofNat n).units = n * unit := by
  rcases Nat.lt_or_eq_of_le small with less | rfl
  · have bound : 2 ^ 53 ≤ 10 ^ 308 := by decide +kernel
    refine units_ofUnits_of_dvd (magnitude_ofNat_lt (small.trans bound)) ?_
    obtain ⟨m, power⟩ : ∃ m, unit = 2 ^ m := ⟨1074, by decide +kernel⟩
    have bounded : binade (n * unit) ≤ m := by
      -- A higher binade would begin above the units of `n`.
      by_contra above
      have least := le_of_binade (t := n * unit) (by omega)
      have step : 2 ^ (m + 1) ≤ 2 ^ binade (n * unit) := Nat.pow_le_pow_right (by decide) (by omega)
      rw [Nat.pow_succ, ← power] at step
      have more : 2 * hiddenBit * unit ≤ n * unit :=
        calc 2 * hiddenBit * unit = hiddenBit * (unit * 2) := by ring
          _ ≤ hiddenBit * 2 ^ binade (n * unit) := Nat.mul_le_mul_left _ step
          _ ≤ n * unit := least
      exact absurd (Nat.le_of_mul_le_mul_right more unit_pos) (Nat.not_le_of_lt less)
    rw [power] at bounded ⊢
    exact Dvd.dvd.mul_left (Nat.pow_dvd_pow 2 bounded) n
  · decide +kernel

theorem magnitude_div_lt (finite : x.magnitude < infinityMagnitude) (large : unit ≤ y.units) :
    (x.div y).magnitude < infinityMagnitude := by
  have exact : (ofUnits x.units 1).magnitude = x.magnitude := by
    rw [ofUnits_units finite.le]
    exact magnitude_ofMagnitude (finite.trans infinityMagnitude_lt_signBit)
  refine Nat.lt_of_le_of_lt ?_ (exact.trans_lt finite)
  refine magnitude_ofUnits_le (Nat.lt_of_lt_of_le unit_pos large) Nat.one_pos ?_
  rw [Nat.mul_one]
  exact Nat.mul_le_mul_left x.units large

theorem close_ofNat (positive : 0 < n) (small : n ≤ 10 ^ 308) : Close 1 (ofNat n).absValue n := by
  have normal : hiddenBit * 1 ≤ n * unit := by
    have wide : hiddenBit ≤ unit := by decide +kernel
    rw [Nat.mul_one]
    exact wide.trans (Nat.le_mul_of_pos_left unit positive)
  have near := close_ofUnits Nat.one_pos normal (magnitude_ofNat_lt small)
  rwa [Nat.cast_mul, Nat.cast_one, one_mul, mul_div_cancel_right₀ _ cast_unit_pos.ne'] at near

theorem close_mul (normal : hiddenBit * unit ≤ x.units * y.units)
    (finite : (x.mul y).magnitude < infinityMagnitude) :
    Close 1 (x.mul y).absValue (x.absValue * y.absValue) := by
  have near := close_ofUnits unit_pos normal finite
  rwa [Nat.cast_mul, ← div_mul_div_comm] at near

theorem near_div (large : unit ≤ y.units) (finite : x.magnitude < infinityMagnitude) :
    Near 1 (x.div y).absValue (x.absValue / y.absValue) := by
  have near := near_ofUnits (Nat.lt_of_lt_of_le unit_pos large) (magnitude_div_lt finite large)
  have quotient : ((x.units * unit : Nat) : ℚ) / (y.units * unit) = x.absValue / y.absValue := by
    rw [absValue, absValue, div_div_div_cancel_right₀ cast_unit_pos.ne', Nat.cast_mul,
      mul_div_mul_right _ _ cast_unit_pos.ne']
  rwa [quotient] at near

end Operations

end Binary64

end ValueOrder
