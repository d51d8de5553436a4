import Mathlib.Algebra.Order.Field.Power
import ValueOrder.Json.Number
import ValueOrder.Proofs.Rounding.Error

/-!
# Scaling by powers of ten

What a gathered integer becomes when it is scaled by a power of ten. A larger one becomes
no smaller double under the same power, and the double is near the exact product: fewer
than eight roundings and half a unit away, whichever route the power takes.
-/

namespace ValueOrder.Json

section Scaling
variable {f x y z w : Binary64} {n k : Nat} {e : Int}

/-! ## Routes -/

theorem scaled?_natCast (f : Binary64) (few : k ≤ 308) : scaled? f k =
    if (f.mul (.tenTo k)).isInfinite then none else some (f.mul (.tenTo k)) := by
  rw [scaled?, if_pos (by omega), if_pos (by omega), Int.toNat_natCast]

/-- A product that is a result is finite. -/
theorem eq_mul_of_scaled? (few : k ≤ 308) (scaled : scaled? f k = some z) :
    z = f.mul (.tenTo k) ∧ z.magnitude < Binary64.infinityMagnitude := by
  rw [scaled?_natCast f few] at scaled
  by_cases infinite : (f.mul (.tenTo k)).isInfinite
  · rw [if_pos infinite] at scaled
    exact absurd scaled nofun
  · rw [if_neg infinite] at scaled
    have same := Option.some.inj scaled
    refine ⟨same.symm, ?_⟩
    rw [← same]
    exact Nat.lt_of_le_of_ne (Binary64.magnitude_ofUnits_le_infinity _ _)
      (mt decide_eq_true infinite)

theorem scaled?_of_far (f : Binary64) (far : 308 < e) :
    scaled? f e = if f.isZero then some f else none := by
  rw [scaled?, if_pos (by omega), if_neg (by omega)]

theorem scaled?_neg (f : Binary64) (below : 0 < k) (few : k ≤ 308) :
    scaled? f (-k) = some (f.div (.tenTo k)) := by
  rw [scaled?, if_neg (by omega), dif_pos (by omega), Int.neg_neg, Int.toNat_natCast]

theorem scaled?_stride (low : e < -308) (nonzero : ¬ f.isZero) :
    scaled? f e = scaled? (f.div (.tenTo 308)) (e + 308) := by
  rw [scaled?, if_neg (by omega), dif_neg (by omega), if_neg nonzero]

theorem ofUnits_of_isZero {m d : Nat} (isZero : (Binary64.ofUnits m d).isZero) :
    Binary64.ofUnits m d = .zero := by
  refine Binary64.eq_of_magnitude ?_ (of_decide_eq_true isZero)
  rw [Binary64.isNegative_ofUnits]
  decide

theorem scaled?_of_isZero (low : e < -308) (isZero : f.isZero) : scaled? f e = some f := by
  rw [scaled?, if_neg (by omega), dif_neg (by omega), if_pos isZero]

/-- The routes that a power can take. -/
theorem power_cases (e : Int) : (∃ k : Nat, k ≤ 308 ∧ e = k) ∨ 308 < e ∨
    (∃ k : Nat, 0 < k ∧ k ≤ 308 ∧ e = -k) ∨ e < -308 := by
  rcases Int.lt_or_le e 0 with negative | nonneg
  · rcases Int.lt_or_le e (-308) with low | high
    · exact .inr (.inr (.inr low))
    · exact .inr (.inr (.inl ⟨(-e).toNat, by omega, by omega, by omega⟩))
  · rcases Int.lt_or_le 308 e with far | near
    · exact .inr (.inl far)
    · exact .inl ⟨e.toNat, by omega, by omega⟩

/-! ## Zeros -/

theorem mul_of_zero (p : Binary64) : Binary64.zero.mul p = .zero := by
  have exact : Binary64.ofUnits 0 Binary64.unit = .zero := by decide +kernel
  rw [Binary64.mul, Binary64.units_zero, Nat.zero_mul, exact]

theorem div_of_zero {p : Binary64} (positive : 0 < p.units) : Binary64.zero.div p = .zero := by
  rw [Binary64.div, Binary64.units_zero, Nat.zero_mul, ← Binary64.ofNat_zero, Binary64.ofNat,
    Nat.zero_mul]
  exact Binary64.ofUnits_congr positive Nat.one_pos (by simp)

theorem scaled?_zero (e : Int) : scaled? .zero e = some .zero := by
  have isZero : Binary64.zero.isZero := by decide
  rcases power_cases e with ⟨k, few, rfl⟩ | far | ⟨k, below, few, rfl⟩ | low
  · have finite : Binary64.zero.isInfinite = false := by decide
    rw [scaled?_natCast .zero few, mul_of_zero, finite]
    rfl
  · rw [scaled?_of_far .zero far, if_pos isZero]
  · rw [scaled?_neg .zero below few, div_of_zero (Binary64.units_tenTo_pos k)]
  · exact scaled?_of_isZero low isZero

/-- A stride down is taken by zeros too, which it does not change. -/
theorem scaled?_ofUnits_stride {m d : Nat} (low : e < -308) :
    scaled? (.ofUnits m d) e = scaled? ((Binary64.ofUnits m d).div (.tenTo 308)) (e + 308) := by
  by_cases isZero : (Binary64.ofUnits m d).isZero
  · rw [ofUnits_of_isZero isZero, div_of_zero (Binary64.units_tenTo_pos 308), scaled?_zero,
      scaled?_zero]
  · exact scaled?_stride low isZero

/-! ## Order -/

/-- Under one power larger doubles do not become smaller than others. -/
theorem magnitude_scaled?_le {e : Int} {x y : Binary64}
    (finite : x.magnitude ≤ Binary64.infinityMagnitude)
    (finite' : y.magnitude ≤ Binary64.infinityMagnitude) (le : x.magnitude ≤ y.magnitude)
    (left : scaled? x e = some z) (right : scaled? y e = some w) : z.magnitude ≤ w.magnitude := by
  -- Where others are refused or take strides, a zero is kept as it is, sign and all.
  by_cases isZero : x.isZero ∧ (308 < e ∨ e < -308)
  · have same : z = x := by
      rcases isZero.2 with far | low
      · rw [scaled?_of_far x far, if_pos isZero.1] at left
        exact (Option.some.inj left).symm
      · rw [scaled?_of_isZero low isZero.1] at left
        exact (Option.some.inj left).symm
    rw [same, of_decide_eq_true isZero.1]
    exact Nat.zero_le _
  · rcases power_cases e with ⟨k, few, rfl⟩ | far | ⟨k, below, few, rfl⟩ | low
    · rw [(eq_mul_of_scaled? few left).1, (eq_mul_of_scaled? few right).1]
      exact Binary64.magnitude_mul_le finite finite' le _
    · rw [scaled?_of_far x far, if_neg fun zero => isZero ⟨zero, .inl far⟩] at left
      exact absurd left nofun
    · rw [scaled?_neg x below few] at left
      rw [scaled?_neg y below few] at right
      rw [← Option.some.inj left, ← Option.some.inj right]
      exact Binary64.magnitude_div_le finite finite' le (Binary64.units_tenTo_pos k)
    · have nonzero : ¬ x.isZero := fun zero => isZero ⟨zero, .inr low⟩
      have nonzero' : ¬ y.isZero := by
        intro zero
        refine nonzero (decide_eq_true ?_)
        have none := of_decide_eq_true zero
        omega
      rw [scaled?_stride low nonzero] at left
      rw [scaled?_stride low nonzero'] at right
      exact magnitude_scaled?_le (Binary64.magnitude_ofUnits_le_infinity _ _)
        (Binary64.magnitude_ofUnits_le_infinity _ _)
        (Binary64.magnitude_div_le finite finite' le (Binary64.units_tenTo_pos 308)) left right
termination_by (-e).toNat

/-! ## Errors -/

/-- Gathered integers are far from the largest double. -/
theorem le_tenTo_of_lt (small : n < 2 ^ 64) : n ≤ 10 ^ 308 := by
  have bound : (2 : Nat) ^ 64 ≤ 10 ^ 308 := by decide +kernel
  exact Nat.le_of_lt (small.trans_le bound)

theorem close_tenTo (few : k ≤ 308) : Close 1 (Binary64.tenTo k).absValue (10 ^ k) := by
  have bound : 10 ^ k ≤ 10 ^ 308 := by
    gcongr
    norm_num
  have near := Binary64.close_ofNat (Nat.pow_pos (n := k) (by decide : 0 < 10)) bound
  rwa [Nat.cast_pow, Nat.cast_ofNat] at near

theorem near_div_tenTo {a t : ℚ} (few : k ≤ 308)
    (finite : x.magnitude < Binary64.infinityMagnitude) (near : Close a x.absValue t)
    (fewA : a ≤ 50) :
    Binary64.Near (a + 203 / 100) (x.div (.tenTo k)).absValue (t / 10 ^ k) := by
  have divisor := (close_tenTo few).inv (by norm_num)
  have quotient := near.mul divisor (by linarith) (by norm_num)
  rw [← div_eq_mul_inv, ← div_eq_mul_inv] at quotient
  have rounded := Binary64.near_div (Binary64.unit_le_units_tenTo k) finite
  exact (rounded.after quotient (by linarith) (by norm_num)).mono (by linarith)

/-- A product with a power of ten is off by a few roundings. -/
theorem close_mul_tenTo (positive : 0 < n) (small : n < 2 ^ 64) (few : k ≤ 308)
    (finite : ((Binary64.ofNat n).mul (.tenTo k)).magnitude < Binary64.infinityMagnitude) :
    Close (303 / 100) ((Binary64.ofNat n).mul (.tenTo k)).absValue (n * 10 ^ k) := by
  have factor := Binary64.close_ofNat positive (le_tenTo_of_lt small)
  have product := factor.mul (close_tenTo few) (by norm_num) (by norm_num)
  have normal : Binary64.hiddenBit * Binary64.unit ≤
      (Binary64.ofNat n).units * (Binary64.tenTo k).units := by
    have wide : Binary64.hiddenBit ≤ Binary64.unit := by decide +kernel
    exact Nat.mul_le_mul (wide.trans (Binary64.unit_le_units_ofNat positive))
      (Binary64.unit_le_units_tenTo k)
  exact (product.trans (Binary64.close_mul normal finite) (by norm_num) (by norm_num)).mono
    (by norm_num)

/-- The first stride down leaves a double that is off by a few roundings, though it need not
be normal. -/
theorem close_stride (positive : 0 < n) (small : n < 2 ^ 64) :
    Close (528 / 100) ((Binary64.ofNat n).div (.tenTo 308)).absValue (n / 10 ^ 308) := by
  have within := le_tenTo_of_lt small
  have near := near_div_tenTo (Nat.le_refl 308) (Binary64.magnitude_ofNat_lt within)
    (Binary64.close_ofNat positive within) (by norm_num)
  have scale : (0 : ℚ) < 10 ^ 308 := by positivity
  have atLeast : (1 / 10 ^ 308 : ℚ) ≤ n / 10 ^ 308 :=
    div_le_div_of_nonneg_right (mod_cast positive) scale.le
  have quotient : (0 : ℚ) < n / 10 ^ 308 := (by positivity : (0 : ℚ) < 1 / 10 ^ 308).trans_le atLeast
  refine (near.close (e := 9 / 4) quotient ?_).mono (by norm_num)
  refine Binary64.halfUnit_le.trans (mul_le_mul_of_nonneg_left atLeast ?_)
  norm_num [roundoff]

theorem magnitude_stride_lt (small : n < 2 ^ 64) :
    ((Binary64.ofNat n).div (.tenTo 308)).magnitude < Binary64.infinityMagnitude :=
  Binary64.magnitude_div_lt (Binary64.magnitude_ofNat_lt (le_tenTo_of_lt small))
    (Binary64.unit_le_units_tenTo 308)

/-- Two strides down nothing is left. -/
theorem two_strides (small : n < 2 ^ 64) :
    ((Binary64.ofNat n).div (.tenTo 308)).div (.tenTo 308) = .zero := by
  rcases Nat.eq_zero_or_pos n with rfl | positive
  · have nothing := div_of_zero (Binary64.units_tenTo_pos 308)
    rw [Binary64.ofNat_zero, nothing, nothing]
  · obtain ⟨s, ⟨ε, relative, rfl⟩, apart⟩ := near_div_tenTo (Nat.le_refl 308)
      (magnitude_stride_lt small) (close_stride positive small) (by norm_num)
    have few : ε ≤ 1 := (le_abs_self ε).trans (relative.trans (by norm_num [roundoff]))
    have bound : (n : ℚ) ≤ 2 ^ 64 := mod_cast Nat.le_of_lt small
    have twice : (n / 10 ^ 308 / 10 ^ 308 : ℚ) = n / 10 ^ 616 := by
      have strides : 616 = 308 + 308 := rfl
      rw [strides, pow_add, div_div]
    have exact : (n / 10 ^ 616 : ℚ) ≤ 2 ^ 64 / 10 ^ 616 :=
      div_le_div_of_nonneg_right bound (by positivity)
    have share : (n / 10 ^ 616 : ℚ) * (1 + ε) ≤ 2 ^ 64 / 10 ^ 616 * 2 :=
      calc (n / 10 ^ 616 : ℚ) * (1 + ε) ≤ n / 10 ^ 616 * 2 :=
            mul_le_mul_of_nonneg_left (by linarith) (by positivity)
        _ ≤ 2 ^ 64 / 10 ^ 616 * 2 := mul_le_mul_of_nonneg_right exact (by norm_num)
    -- Next to nothing and half a unit do not make a whole one.
    have tiny := Binary64.scaled_down_le_halfUnit
    have scale := Binary64.halfUnit_pos
    have above := (abs_le.mp apart).2
    rw [mul_div_assoc] at tiny
    rw [twice] at above
    have bounded := (sub_le_iff_le_add.mp above).trans (add_le_add_right share _)
    generalize (2 ^ 64 / 10 ^ 616 : ℚ) = rest at bounded tiny
    exact Binary64.ofUnits_eq_zero (bounded.trans_lt (by linarith only [tiny, scale]))

theorem scaled?_of_low (small : n < 2 ^ 64) (low : e < -616) :
    scaled? (.ofNat n) e = some .zero :=
  calc scaled? (.ofNat n) e = scaled? ((Binary64.ofNat n).div (.tenTo 308)) (e + 308) :=
        scaled?_ofUnits_stride (by omega)
    _ = scaled? (((Binary64.ofNat n).div (.tenTo 308)).div (.tenTo 308)) (e + 308 + 308) :=
        scaled?_ofUnits_stride (by omega)
    _ = some .zero := by rw [two_strides small, scaled?_zero]

theorem zpow_le_of_low (low : e < -(k : Int)) : (10 : ℚ) ^ e ≤ (10 ^ k)⁻¹ := by
  rw [← zpow_natCast, ← zpow_neg]
  exact zpow_le_zpow_right₀ (by norm_num) low.le

theorem near_zero_of_low (small : n < 2 ^ 64) (low : e < -616) :
    Binary64.Near (37 / 5) Binary64.zero.absValue (n * 10 ^ e) := by
  have nothing : Binary64.zero.absValue = 0 := by
    rw [Binary64.absValue, Binary64.units_zero, Nat.cast_zero, zero_div]
  have scale : (10 : ℚ) ^ e ≤ (10 ^ 616)⁻¹ := zpow_le_of_low (by omega)
  have bound : (n : ℚ) ≤ 2 ^ 64 := mod_cast Nat.le_of_lt small
  have nonneg : (0 : ℚ) ≤ n * 10 ^ e := by positivity
  have product : (n * 10 ^ e : ℚ) ≤ 2 ^ 64 / 10 ^ 616 := by
    rw [div_eq_mul_inv]
    exact mul_le_mul bound scale (by positivity) (by positivity)
  have tiny := Binary64.scaled_down_le_halfUnit
  rw [mul_div_assoc] at tiny
  refine ⟨_, .refl (by norm_num) _, ?_⟩
  rw [nothing, zero_sub, abs_neg, abs_of_nonneg nonneg]
  generalize (2 ^ 64 / 10 ^ 616 : ℚ) = rest at product tiny
  linarith

theorem not_isZero_ofNat (positive : 0 < n) : ¬ (Binary64.ofNat n).isZero := by
  intro isZero
  have units := Binary64.unit_le_units_ofNat positive
  have zero : Binary64.ofNat n = .zero := ofUnits_of_isZero isZero
  rw [zero, Binary64.units_zero] at units
  exact absurd Binary64.unit_pos (Nat.not_lt_of_le units)

/-- What a gathered integer is scaled to is near the exact product. -/
theorem near_scaled? (positive : 0 < n) (small : n < 2 ^ 64)
    (scaled : scaled? (.ofNat n) e = some z) :
    Binary64.Near (37 / 5) z.absValue (n * 10 ^ e) := by
  have within := le_tenTo_of_lt small
  rcases power_cases e with ⟨k, few, rfl⟩ | far | ⟨k, below, few, rfl⟩ | low
  · obtain ⟨rfl, finite⟩ := eq_mul_of_scaled? few scaled
    rw [zpow_natCast]
    exact (Binary64.Near.of_close (close_mul_tenTo positive small few finite)).mono (by norm_num)
  · rw [scaled?_of_far _ far, if_neg (not_isZero_ofNat positive)] at scaled
    exact absurd scaled nofun
  · rw [scaled?_neg _ below few] at scaled
    rw [← Option.some.inj scaled, zpow_neg, zpow_natCast, ← div_eq_mul_inv]
    exact (near_div_tenTo few (Binary64.magnitude_ofNat_lt within)
      (Binary64.close_ofNat positive within) (by norm_num)).mono (by norm_num)
  · rcases Int.lt_or_le e (-616) with lower | higher
    · rw [scaled?_of_low small lower] at scaled
      rw [← Option.some.inj scaled]
      exact near_zero_of_low small lower
    -- One stride and a quotient: the double between them need not be normal.
    · obtain ⟨k, below, few, rfl⟩ : ∃ k : Nat, 0 < k ∧ k ≤ 308 ∧ e = -(308 + k : Nat) :=
        ⟨(-(e + 308)).toNat, by omega, by omega, by omega⟩
      have stride : scaled? (.ofNat n) (-(308 + k : Nat)) =
          scaled? ((Binary64.ofNat n).div (.tenTo 308)) (-(308 + k : Nat) + 308) :=
        scaled?_ofUnits_stride low
      have rest : (-(308 + k : Nat) + 308 : Int) = -k := by omega
      rw [stride, rest, scaled?_neg _ below few] at scaled
      rw [← Option.some.inj scaled, zpow_neg, zpow_natCast, ← div_eq_mul_inv, pow_add, ← div_div]
      exact (near_div_tenTo few (magnitude_stride_lt small) (close_stride positive small)
        (by norm_num)).mono (by norm_num)

/-! ## Exact routes -/

theorem exists_ofUnits_of_scaled? {e : Int} {m d : Nat} (scaled : scaled? (.ofUnits m d) e = some z) :
    ∃ m d, z = .ofUnits m d := by
  rcases power_cases e with ⟨k, few, rfl⟩ | far | ⟨k, below, few, rfl⟩ | low
  · exact ⟨_, _, (eq_mul_of_scaled? few scaled).1⟩
  · rw [scaled?_of_far _ far] at scaled
    split at scaled
    · exact ⟨m, d, (Option.some.inj scaled).symm⟩
    · exact absurd scaled nofun
  · rw [scaled?_neg _ below few] at scaled
    exact ⟨_, _, (Option.some.inj scaled).symm⟩
  · rw [scaled?_ofUnits_stride low] at scaled
    exact exists_ofUnits_of_scaled? scaled
termination_by (-e).toNat

theorem mul_tenTo_zero (n d : Nat) : (Binary64.ofUnits n d).mul (.tenTo 0) = .ofUnits n d :=
  calc (Binary64.ofUnits n d).mul (.tenTo 0)
      = .ofUnits ((Binary64.ofUnits n d).units * Binary64.unit) Binary64.unit := by
        rw [Binary64.mul, Binary64.tenTo, Nat.pow_eq, Nat.pow_zero, Binary64.units_one]
    _ = .ofUnits (Binary64.ofUnits n d).units 1 :=
        Binary64.ofUnits_congr Binary64.unit_pos Nat.one_pos (Nat.mul_one _)
    _ = .ofMagnitude (Binary64.ofUnits n d).magnitude :=
        Binary64.ofUnits_units (Binary64.magnitude_ofUnits_le_infinity n d)
    _ = .ofUnits n d := Binary64.ofMagnitude_magnitude_ofUnits n d

theorem scaled?_ofNat_zero (small : n < 2 ^ 64) : scaled? (.ofNat n) 0 = some (.ofNat n) := by
  have finite := Binary64.magnitude_ofNat_lt (le_tenTo_of_lt small)
  have same : (Binary64.ofNat n).mul (.tenTo 0) = .ofNat n := mul_tenTo_zero _ _
  have fits : ¬ (Binary64.ofNat n).isInfinite :=
    fun infinite => finite.ne (of_decide_eq_true infinite)
  have route := scaled?_natCast (.ofNat n) (Nat.zero_le 308)
  rw [same, if_neg fits] at route
  exact route

/-- The powers of ten that are doubles. -/
theorem units_tenTo : ∀ k ≤ 22, (Binary64.tenTo k).units = 10 ^ k * Binary64.unit := by
  decide +kernel

/-- A short integer under a short power is rounded once. -/
theorem rounds_of_scaled?_short (small : n ≤ 2 ^ 53) (few : e.natAbs ≤ 22)
    (scaled : scaled? (.ofNat n) e = some z) : Binary64.Rounds (n * 10 ^ e) z := by
  have scale := Binary64.cast_unit_pos.ne'
  rcases power_cases e with ⟨k, _, rfl⟩ | far | ⟨k, below, _, rfl⟩ | low
  · refine ⟨n * Binary64.unit * (10 ^ k * Binary64.unit), Binary64.unit, Binary64.unit_pos, ?_, ?_⟩
    · push_cast
      generalize (Binary64.unit : ℚ) = u at scale
      rw [zpow_natCast]
      field_simp
    · rw [(eq_mul_of_scaled? (by omega) scaled).1, Binary64.mul, Binary64.units_ofNat small,
        units_tenTo k (by omega)]
  · omega
  · refine ⟨n * Binary64.unit * Binary64.unit, 10 ^ k * Binary64.unit,
      Nat.mul_pos (Nat.pow_pos (by decide)) Binary64.unit_pos, ?_, ?_⟩
    · push_cast
      generalize (Binary64.unit : ℚ) = u at scale
      rw [zpow_neg, zpow_natCast]
      field_simp
    · rw [scaled?_neg _ below (by omega)] at scaled
      rw [← Option.some.inj scaled, Binary64.div, Binary64.units_ofNat small,
        units_tenTo k (by omega)]
  · omega

end Scaling

end ValueOrder.Json
