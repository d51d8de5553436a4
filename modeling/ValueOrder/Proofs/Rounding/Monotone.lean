import Mathlib.Data.Nat.Log
import Mathlib.Tactic.Linarith
import Mathlib.Tactic.Ring
import ValueOrder.Proofs.Rounding.Exact

/-!
# Rounding keeps order

A larger quotient is never rounded to a smaller double, across ties and across binades.
Magnitudes and units of finite doubles therefore grow together, and products and quotients
grow with their operands.
-/

namespace ValueOrder

/-! ## Integers -/

theorem roundHalfEven_eq_or (n d : Nat) :
    roundHalfEven n d = n / d ∨ roundHalfEven n d = n / d + 1 := by
  unfold roundHalfEven
  dsimp only
  split
  · exact .inl rfl
  · split
    · exact .inr rfl
    · split
      · exact .inl rfl
      · exact .inr rfl

theorem div_le_div_of_mul_le {n d m e : Nat} (positive : 0 < d) (positive' : 0 < e)
    (le : n * e ≤ m * d) : n / d ≤ m / e := by
  rw [Nat.le_div_iff_mul_le positive']
  refine Nat.le_of_mul_le_mul_right (Nat.le_trans ?_ le) positive
  calc n / d * e * d = n / d * d * e := by ring
    _ ≤ n * e := Nat.mul_le_mul_right e (Nat.div_mul_le_self n d)

/-- A larger quotient is not rounded to a smaller integer. -/
theorem roundHalfEven_le {n d m e : Nat} (positive : 0 < d) (positive' : 0 < e)
    (le : n * e ≤ m * d) : roundHalfEven n d ≤ roundHalfEven m e := by
  have partsN : d * (n / d) + n % d = n := Nat.div_add_mod n d
  have partsM : e * (m / e) + m % e = m := Nat.div_add_mod m e
  rcases Nat.lt_or_eq_of_le (div_le_div_of_mul_le positive positive' le) with less | same
  · rcases roundHalfEven_eq_or n d with down | up
    all_goals rcases roundHalfEven_eq_or m e with down' | up'
    all_goals omega
  · -- The integer parts agree, so the remainders decide, and a tie is broken alike.
    have remainders : n % d * e ≤ m % e * d := by
      have left : n * e = d * (n / d) * e + n % d * e := by rw [← Nat.add_mul, partsN]
      have right : m * d = e * (n / d) * d + m % e * d := by rw [same, ← Nat.add_mul, partsM]
      have swap : d * (n / d) * e = e * (n / d) * d := by ring
      omega
    have above : d < 2 * (n % d) → e < 2 * (m % e) := by
      intro more
      refine Nat.lt_of_mul_lt_mul_right (a := d) ?_
      nlinarith
    have level : d ≤ 2 * (n % d) → e ≤ 2 * (m % e) := by
      intro more
      refine Nat.le_of_mul_le_mul_right (c := d) ?_ positive
      nlinarith
    unfold roundHalfEven
    dsimp only
    rw [← same]
    split_ifs <;> omega

namespace Binary64

theorem unit_pos : 0 < unit := by decide +kernel

theorem units_zero : zero.units = 0 := by decide

theorem ofNat_zero : ofNat 0 = zero := by decide +kernel

/-! ## Binades -/

theorem binade_le {t u : Nat} (le : t ≤ u) : binade t ≤ binade u := by
  have logs : t.log2 ≤ u.log2 := by
    rw [Nat.log2_eq_log_two, Nat.log2_eq_log_two]
    exact Nat.log_mono_right le
  rw [binade, binade]
  omega

/-- In its binade a number of units counts fewer than `2 ^ 53`. -/
theorem lt_of_binade (t : Nat) : t < 2 * hiddenBit * 2 ^ binade t := by
  have log : t < 2 ^ (t.log2 + 1) := Nat.lt_log2_self
  have split : 2 * hiddenBit * 2 ^ binade t = 2 ^ (53 + binade t) := by
    rw [Nat.pow_add]
    rfl
  rw [split]
  refine Nat.lt_of_lt_of_le log (Nat.pow_le_pow_right (by omega) ?_)
  rw [binade]
  omega

/-- Above the lowest binade a number of units counts at least `2 ^ 52`. -/
theorem le_of_binade {t : Nat} (above : 0 < binade t) : hiddenBit * 2 ^ binade t ≤ t := by
  have nonzero : t ≠ 0 := by
    rintro rfl
    exact absurd above (by decide)
  have split : hiddenBit * 2 ^ binade t = 2 ^ (52 + binade t) := by
    rw [Nat.pow_add]
    rfl
  have exponent : 52 + binade t = t.log2 := by
    rw [binade] at above ⊢
    omega
  rw [split, exponent]
  exact Nat.log2_self_le nonzero

section Rounding
variable {n d m e : Nat}

/-- The significand to which a quotient is rounded in its binade. -/
def significand (n d : Nat) : Nat := roundHalfEven n (d * 2 ^ binade (n / d))

theorem significand_le (positive : 0 < d) : significand n d ≤ 2 * hiddenBit := by
  have room : 0 < d * 2 ^ binade (n / d) := Nat.mul_pos positive (Nat.two_pow_pos _)
  have below : n < 2 * hiddenBit * 2 ^ binade (n / d) * d :=
    (Nat.div_lt_iff_lt_mul positive).mp (lt_of_binade (n / d))
  rw [significand, ← roundHalfEven_mul (2 * hiddenBit) room]
  refine roundHalfEven_le room room (Nat.mul_le_mul_right _ ?_)
  calc n ≤ 2 * hiddenBit * 2 ^ binade (n / d) * d := Nat.le_of_lt below
    _ = 2 * hiddenBit * (d * 2 ^ binade (n / d)) := by ring

theorem le_significand (positive : 0 < d) (above : 0 < binade (n / d)) :
    hiddenBit ≤ significand n d := by
  have room : 0 < d * 2 ^ binade (n / d) := Nat.mul_pos positive (Nat.two_pow_pos _)
  have least : hiddenBit * 2 ^ binade (n / d) * d ≤ n :=
    (Nat.le_div_iff_mul_le positive).mp (le_of_binade above)
  rw [significand, ← roundHalfEven_mul hiddenBit room]
  refine roundHalfEven_le room room (Nat.mul_le_mul_right _ ?_)
  calc hiddenBit * (d * 2 ^ binade (n / d)) = hiddenBit * 2 ^ binade (n / d) * d := by ring
    _ ≤ n := least

theorem infinityMagnitude_lt_signBit : infinityMagnitude < signBit := by decide

theorem magnitude_ofUnits (n d : Nat) : (ofUnits n d).magnitude =
    min infinityMagnitude (binade (n / d) * hiddenBit + significand n d) :=
  magnitude_ofMagnitude (Nat.lt_of_le_of_lt (Nat.min_le_left _ _) infinityMagnitude_lt_signBit)

@[simp] theorem isNegative_ofUnits (n d : Nat) : (ofUnits n d).isNegative = false :=
  isNegative_ofMagnitude (Nat.lt_of_le_of_lt (Nat.min_le_left _ _) infinityMagnitude_lt_signBit)

theorem magnitude_ofUnits_le_infinity (n d : Nat) :
    (ofUnits n d).magnitude ≤ infinityMagnitude := by
  rw [magnitude_ofUnits]
  exact Nat.min_le_left _ _

theorem ofMagnitude_magnitude_ofUnits (n d : Nat) :
    ofMagnitude (ofUnits n d).magnitude = ofUnits n d := by
  rw [magnitude_ofUnits]
  rfl

/-- A larger quotient is not rounded to a smaller double. -/
theorem magnitude_ofUnits_le (positive : 0 < d) (positive' : 0 < e) (le : n * e ≤ m * d) :
    (ofUnits n d).magnitude ≤ (ofUnits m e).magnitude := by
  have quotients := div_le_div_of_mul_le positive positive' le
  rw [magnitude_ofUnits, magnitude_ofUnits]
  refine min_le_min_left _ ?_
  rcases Nat.lt_or_eq_of_le (binade_le quotients) with less | same
  · -- The largest significand of a binade is the least of the next one.
    have small := significand_le (n := n) positive
    have large := le_significand (n := m) positive' (by omega)
    have next : (binade (n / d) + 1) * hiddenBit ≤ binade (m / e) * hiddenBit :=
      Nat.mul_le_mul_right _ less
    rw [Nat.add_mul] at next
    omega
  · rw [same, significand, significand, same]
    refine Nat.add_le_add_left (roundHalfEven_le ?_ ?_ ?_) _
    · exact Nat.mul_pos positive (Nat.two_pow_pos _)
    · exact Nat.mul_pos positive' (Nat.two_pow_pos _)
    · calc n * (e * 2 ^ binade (m / e)) = n * e * 2 ^ binade (m / e) := by ring
        _ ≤ m * d * 2 ^ binade (m / e) := Nat.mul_le_mul_right _ le
        _ = m * (d * 2 ^ binade (m / e)) := by ring

theorem magnitude_ofNat_le {n k : Nat} (le : n ≤ k) : (ofNat n).magnitude ≤ (ofNat k).magnitude :=
  magnitude_ofUnits_le Nat.one_pos Nat.one_pos (Nat.mul_le_mul_right 1 (Nat.mul_le_mul_right unit le))

theorem ofUnits_congr (positive : 0 < d) (positive' : 0 < e) (same : n * e = m * d) :
    ofUnits n d = ofUnits m e := by
  refine eq_of_magnitude (by simp) (Nat.le_antisymm ?_ ?_)
  · exact magnitude_ofUnits_le positive positive' (Nat.le_of_eq same)
  · exact magnitude_ofUnits_le positive' positive (Nat.le_of_eq same.symm)

end Rounding

/-! ## Magnitudes and units -/

section Finite
variable {x y : Binary64}

theorem magnitude_le_of_units_le (finite : x.magnitude ≤ infinityMagnitude)
    (finite' : y.magnitude ≤ infinityMagnitude) (le : x.units ≤ y.units) :
    x.magnitude ≤ y.magnitude := by
  have small := Nat.lt_of_le_of_lt finite infinityMagnitude_lt_signBit
  have small' := Nat.lt_of_le_of_lt finite' infinityMagnitude_lt_signBit
  rw [← magnitude_ofMagnitude small, ← magnitude_ofMagnitude small', ← ofUnits_units finite,
    ← ofUnits_units finite']
  exact magnitude_ofUnits_le Nat.one_pos Nat.one_pos (by simpa using le)

theorem units_eq_of_magnitude_eq (same : x.magnitude = y.magnitude) : x.units = y.units := by
  rw [units, units, same]

theorem units_le_of_magnitude_le (finite : x.magnitude ≤ infinityMagnitude)
    (finite' : y.magnitude ≤ infinityMagnitude) (le : x.magnitude ≤ y.magnitude) :
    x.units ≤ y.units := by
  by_contra more
  have back := magnitude_le_of_units_le finite' finite (Nat.le_of_not_le more)
  have same := units_eq_of_magnitude_eq (Nat.le_antisymm le back)
  omega

theorem magnitude_lt_of_units_lt (finite : x.magnitude ≤ infinityMagnitude)
    (finite' : y.magnitude ≤ infinityMagnitude) (less : x.units < y.units) :
    x.magnitude < y.magnitude := by
  by_contra more
  have back := units_le_of_magnitude_le finite' finite (Nat.le_of_not_lt more)
  omega

theorem magnitude_mul_le (finite : x.magnitude ≤ infinityMagnitude)
    (finite' : y.magnitude ≤ infinityMagnitude) (le : x.magnitude ≤ y.magnitude) (p : Binary64) :
    (x.mul p).magnitude ≤ (y.mul p).magnitude :=
  magnitude_ofUnits_le unit_pos unit_pos (Nat.mul_le_mul_right _
    (Nat.mul_le_mul_right _ (units_le_of_magnitude_le finite finite' le)))

theorem magnitude_div_le (finite : x.magnitude ≤ infinityMagnitude)
    (finite' : y.magnitude ≤ infinityMagnitude) (le : x.magnitude ≤ y.magnitude) {p : Binary64}
    (positive : 0 < p.units) : (x.div p).magnitude ≤ (y.div p).magnitude :=
  magnitude_ofUnits_le positive positive (Nat.mul_le_mul_right _
    (Nat.mul_le_mul_right _ (units_le_of_magnitude_le finite finite' le)))

end Finite

end Binary64

end ValueOrder
