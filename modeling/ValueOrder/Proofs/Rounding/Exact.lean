import ValueOrder.Binary64.Rounding

/-!
# Numbers that are doubles

The units of a double show its magnitude, so rounding the exact value of a double gives
that double back. An integer that a double is equal to is rounded to it.
-/

namespace ValueOrder

theorem roundHalfEven_mul (q : Nat) {d : Nat} (positive : 0 < d) : roundHalfEven (q * d) d = q := by
  simp [roundHalfEven, Nat.mul_div_cancel q positive, positive]

namespace Binary64

/-! ## Sign and magnitude -/

theorem isNegative_iff (x : Binary64) : x.isNegative ↔ signBit ≤ x.bits.toNat :=
  decide_eq_true_iff

/-- A double is its sign and its magnitude. -/
theorem eq_of_magnitude {x y : Binary64} (sign : x.isNegative = y.isNegative)
    (magnitude : x.magnitude = y.magnitude) : x = y := by
  have boundX : x.bits.toNat < 2 ^ 64 := x.bits.toNat_lt
  have boundY : y.bits.toNat < 2 ^ 64 := y.bits.toNat_lt
  rw [Bool.eq_iff_iff, isNegative_iff, isNegative_iff, signBit] at sign
  rw [Binary64.magnitude, Binary64.magnitude, signBit] at magnitude
  have bits : x.bits.toNat = y.bits.toNat := by omega
  cases x
  cases y
  exact congrArg mk (UInt64.toNat_inj.mp bits)

theorem isNegative_eq_testBit (x : Binary64) : x.isNegative = x.bits.toNat.testBit 63 := by
  have bound : x.bits.toNat < 2 ^ 64 := x.bits.toNat_lt
  rw [Bool.eq_iff_iff, isNegative_iff, Nat.testBit_eq_decide_div_mod_eq, decide_eq_true_iff, signBit]
  omega

@[simp] theorem magnitude_neg (x : Binary64) : x.neg.magnitude = x.magnitude := by
  have half : signBit = 2 ^ 63 := rfl
  rw [magnitude, neg, UInt64.toNat_xor, half, Nat.xor_mod_two_pow]
  exact Nat.xor_zero _

@[simp] theorem isNegative_neg (x : Binary64) : x.neg.isNegative = !x.isNegative := by
  rw [isNegative_eq_testBit, isNegative_eq_testBit, neg, UInt64.toNat_xor, Nat.testBit_xor]
  exact Bool.xor_true _

theorem toNat_bits_ofMagnitude {m : Nat} (small : m < signBit) : (ofMagnitude m).bits.toNat = m := by
  have bound : signBit < 2 ^ 64 := by decide
  rw [ofMagnitude, UInt64.toNat_ofNat', Nat.mod_eq_of_lt (by omega)]

theorem magnitude_ofMagnitude {m : Nat} (small : m < signBit) : (ofMagnitude m).magnitude = m := by
  rw [magnitude, toNat_bits_ofMagnitude small, Nat.mod_eq_of_lt small]

theorem isNegative_ofMagnitude {m : Nat} (small : m < signBit) :
    (ofMagnitude m).isNegative = false := by
  rw [isNegative, toNat_bits_ofMagnitude small]
  simpa using small

/-! ## Exact values -/

theorem binade_of_lt {t : Nat} (small : t < 2 * hiddenBit) : binade t = 0 := by
  have twice : 2 * hiddenBit = 2 ^ 53 := rfl
  have : t.log2 ≤ 52 := by
    by_cases zero : t = 0
    · simp [zero]
    · have := (Nat.log2_lt zero).mpr (twice ▸ small)
      omega
  rw [binade]
  omega

theorem binade_of_significand {q : Nat} (k : Nat) (low : hiddenBit ≤ q) (high : q < 2 * hiddenBit) :
    binade (q * Nat.pow 2 k) = k := by
  have hidden : hiddenBit = 2 ^ 52 := rfl
  have power : 0 < 2 ^ k := Nat.two_pow_pos k
  have log : (q * 2 ^ k).log2 = 52 + k := by
    rw [Nat.log2_eq_iff (Nat.mul_ne_zero (by omega) (by omega)), Nat.add_right_comm, Nat.pow_add,
      Nat.pow_add]
    exact ⟨Nat.mul_le_mul_right _ low, Nat.mul_lt_mul_of_pos_right high power⟩
  rw [binade]
  have : (q * Nat.pow 2 k).log2 = 52 + k := log
  omega

/-- The units of a double are a multiple of a power of two, and its magnitude shows both
factors. -/
theorem exists_significand (x : Binary64) :
    ∃ k q, binade x.units = k ∧ x.units = q * Nat.pow 2 k ∧ x.magnitude = k * hiddenBit + q := by
  have fraction : x.magnitude % hiddenBit < hiddenBit := Nat.mod_lt _ (by decide)
  have parts : hiddenBit * (x.magnitude / hiddenBit) + x.magnitude % hiddenBit = x.magnitude :=
    Nat.div_add_mod _ _
  cases exponent : x.magnitude / hiddenBit with
  | zero =>
    have units : x.units = x.magnitude % hiddenBit := by simp [Binary64.units, exponent]
    rw [exponent] at parts
    refine ⟨0, x.units, binade_of_lt (by omega), (Nat.mul_one _).symm, ?_⟩
    omega
  | succ k =>
    have units : x.units = (hiddenBit + x.magnitude % hiddenBit) * Nat.pow 2 k := by
      simp [Binary64.units, exponent]
    rw [exponent, Nat.mul_comm, Nat.add_one_mul, Nat.add_assoc] at parts
    refine ⟨k, hiddenBit + x.magnitude % hiddenBit, ?_, units, parts.symm⟩
    rw [units]
    exact binade_of_significand k (by omega) (by omega)

/-- The exact value of a double is rounded to that double. -/
theorem ofUnits_units {x : Binary64} (finite : x.magnitude ≤ infinityMagnitude) :
    ofUnits x.units 1 = ofMagnitude x.magnitude := by
  obtain ⟨k, q, scale, units, magnitude⟩ := exists_significand x
  have power : 0 < Nat.pow 2 k := Nat.two_pow_pos k
  simp only [ofUnits, Nat.div_one, Nat.one_mul, scale]
  rw [units, roundHalfEven_mul q power, ← magnitude, Nat.min_eq_right finite]

/-- The double is the integer. Zero with the sign bit set is none. -/
structure IsInteger (x : Binary64) (k : Int) : Prop where
  finite : x.magnitude < infinityMagnitude
  units : x.units = k.natAbs * unit
  sign : x.isNegative ↔ k < 0

theorem ofNat_of_units {x : Binary64} {n : Nat} (finite : x.magnitude < infinityMagnitude)
    (units : x.units = n * unit) : ofNat n = ofMagnitude x.magnitude := by
  rw [ofNat, ← units, ofUnits_units (Nat.le_of_lt finite)]

/-- An integer that is a double is rounded to it. -/
theorem ofInt_of_isInteger {x : Binary64} {k : Int} (equal : x.IsInteger k) : ofInt k = x := by
  have bound : infinityMagnitude < signBit := by decide
  obtain ⟨finite, units, sign⟩ := equal
  have small : x.magnitude < signBit := Nat.lt_trans finite bound
  cases k with
  | ofNat n =>
    have positive : x.isNegative = false := by
      rw [← Bool.not_eq_true, sign]
      exact Int.not_lt.mpr (Int.natCast_nonneg n)
    have rounded : ofInt (.ofNat n) = ofMagnitude x.magnitude := ofNat_of_units finite units
    rw [rounded]
    refine eq_of_magnitude ?_ (magnitude_ofMagnitude small)
    rw [isNegative_ofMagnitude small, positive]
  | negSucc n =>
    have negative : x.isNegative = true := sign.mpr (Int.negSucc_lt_zero n)
    have rounded : ofInt (.negSucc n) = (ofMagnitude x.magnitude).neg :=
      congrArg neg (ofNat_of_units finite units)
    rw [rounded]
    refine eq_of_magnitude ?_ ?_
    · rw [isNegative_neg, isNegative_ofMagnitude small, negative]
      rfl
    · rw [magnitude_neg, magnitude_ofMagnitude small]

end Binary64

end ValueOrder
