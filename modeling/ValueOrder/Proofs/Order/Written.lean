import ValueOrder.Comparison
import ValueOrder.Proofs.Order.Ranks
import ValueOrder.Proofs.Reading.Literals
import ValueOrder.Proofs.Reading.Values

/-!
# The order of numbers as written

Literals are read in steps that round separately, so two spellings of one number need not be
read as one double. The order of the doubles follows the numbers where both literals go the
same way: where their last kept places are the same, or where each is rounded only once. It
also follows the numbers wherever these are further apart than the steps can move them.
-/

namespace ValueOrder

namespace Json.Literal

/-! ## Single literals -/

/-- The literal is rounded once: all its digits are kept, and either there is nothing to scale
or both the digits and the power of ten are doubles. -/
def IsShort (l : Literal) : Prop :=
  l.digits < 2 ^ 64 ∧ l.shift = l.fraction.length ∨
    l.digits ≤ 2 ^ 53 ∧ (l.shift - l.fraction.length).natAbs ≤ 22

section Single
variable {l : Literal} {z : Binary64}

theorem size_nonneg (l : Literal) : 0 ≤ l.size := by
  unfold size
  positivity

theorem abs_value (l : Literal) : |l.value| = l.size := by
  unfold value
  split
  · rw [abs_neg, abs_of_nonneg (size_nonneg l)]
  · exact abs_of_nonneg (size_nonneg l)

theorem magnitude_scaled (scaled : scaled? (.ofNat l.significand) l.power = some z) :
    z.isNegative = false ∧ z.magnitude ≤ Binary64.infinityMagnitude := by
  obtain ⟨n, d, rfl⟩ := exists_ofUnits_of_scaled? scaled
  exact ⟨Binary64.isNegative_ofUnits n d, Binary64.magnitude_ofUnits_le_infinity n d⟩

theorem magnitude_signed (l : Literal) (z : Binary64) : (l.signed z).magnitude = z.magnitude := by
  unfold signed
  split
  · exact Binary64.magnitude_neg z
  · rfl

theorem isNegative_signed (positive : z.isNegative = false) : (l.signed z).isNegative = l.negative := by
  unfold signed
  cases l.negative <;> simp [positive]

theorem rank_signed (positive : z.isNegative = false) :
    (l.signed z).rank = if l.negative then -(z.magnitude : Int) else z.magnitude := by
  rw [Binary64.rank, isNegative_signed positive, magnitude_signed]

theorem value_signed (positive : z.isNegative = false) :
    (l.signed z).value = if l.negative then -z.absValue else z.absValue := by
  rw [Binary64.value, isNegative_signed positive]
  unfold Binary64.absValue Binary64.units
  rw [magnitude_signed]

/-- A short literal is rounded to the nearest double. -/
theorem rounds_size (short : l.IsShort)
    (scaled : scaled? (.ofNat l.significand) l.power = some z) : Binary64.Rounds l.size z := by
  rcases short with ⟨few, level⟩ | ⟨few, near⟩
  · obtain ⟨kept, power⟩ := kept_of_lt few
    rw [level, Int.sub_self] at power
    rw [power, kept, scaled?_ofNat_zero few] at scaled
    rw [size, level, Int.sub_self, zpow_zero, mul_one, ← Option.some.inj scaled]
    exact Binary64.rounds_ofNat l.digits
  · obtain ⟨kept, power⟩ := kept_of_lt (few.trans_lt (by decide))
    rw [power, kept] at scaled
    exact rounds_of_scaled?_short few near scaled

theorem eq_zero_of_size (decimal : l.IsDecimal) (nothing : l.size = 0)
    (scaled : scaled? (.ofNat l.significand) l.power = some z) : z = .zero := by
  obtain ⟨δ, rest⟩ := exists_rest decimal
  have scale : (10 : ℚ) ^ l.power ≠ 0 := zpow_ne_zero _ (by norm_num)
  have front : (0 : ℚ) ≤ l.significand := Nat.cast_nonneg _
  have back := rest.nonneg
  have both : (l.significand : ℚ) + δ = 0 :=
    (mul_eq_zero.mp (rest.size.symm.trans nothing)).resolve_right scale
  have kept : l.significand = 0 := by
    have exact : (l.significand : ℚ) = 0 := by linarith
    exact_mod_cast exact
  rw [kept, Binary64.ofNat_zero, scaled?_zero] at scaled
  exact (Option.some.inj scaled).symm

/-- The double that is read is near the number. -/
theorem abs_absValue_sub_size_le (decimal : l.IsDecimal)
    (scaled : scaled? (.ofNat l.significand) l.power = some z) :
    |z.absValue - l.size| ≤ 8 * roundoff * l.size + Binary64.halfUnit := by
  obtain ⟨δ, rest⟩ := exists_rest decimal
  have scale : (0 : ℚ) < 10 ^ l.power := zpow_pos (by norm_num) _
  have half := Binary64.halfUnit_pos
  rcases Nat.eq_zero_or_pos l.significand with nothing | positive
  · have none : δ ≤ 0 := by simpa [nothing] using rest.small
    have size : l.size = 0 := by rw [rest.size, nothing, le_antisymm none rest.nonneg]; simp
    rw [eq_zero_of_size decimal size scaled, size, Binary64.absValue_eq_zero (by decide)]
    simpa using half.le
  · obtain ⟨s, ⟨ε, relative, rfl⟩, apart⟩ := near_scaled? positive (significand_lt l) scaled
    have kept : (0 : ℚ) ≤ l.significand * 10 ^ l.power := by positivity
    have lacking : δ * 10 ^ l.power ≤ roundoff / 100 * (l.significand * 10 ^ l.power) := by
      rw [← mul_assoc]
      exact mul_le_mul_of_nonneg_right rest.small scale.le
    have nonneg : 0 ≤ δ * 10 ^ l.power := mul_nonneg rest.nonneg scale.le
    have size : l.size = l.significand * 10 ^ l.power + δ * 10 ^ l.power := by
      rw [rest.size, add_mul]
    have moved : |l.significand * 10 ^ l.power * ε| ≤
        37 / 5 * roundoff * (l.significand * 10 ^ l.power) := by
      rw [abs_mul, abs_of_nonneg kept, mul_comm]
      exact mul_le_mul_of_nonneg_right relative kept
    have few : (0 : ℚ) ≤ roundoff := by norm_num [roundoff]
    have more : roundoff * (l.significand * 10 ^ l.power) ≤ roundoff * l.size :=
      mul_le_mul_of_nonneg_left (by linarith) few
    rw [abs_le] at moved apart ⊢
    constructor <;> linarith [moved.1, moved.2, apart.1, apart.2]

end Single

/-! ## Two literals -/

section Pair
variable {l m : Literal} {z w : Binary64}

/-- Literals whose last kept places are the same are read in the order of their sizes. -/
theorem magnitude_le_of_power_eq (decimal : l.IsDecimal) (decimal' : m.IsDecimal)
    (same : l.power = m.power) (le : l.size ≤ m.size)
    (left : scaled? (.ofNat l.significand) l.power = some z)
    (right : scaled? (.ofNat m.significand) m.power = some w) : z.magnitude ≤ w.magnitude := by
  have kept : (Binary64.ofNat l.significand).magnitude ≤ (Binary64.ofNat m.significand).magnitude := by
    obtain ⟨δ, rest⟩ := exists_rest decimal
    obtain ⟨η, rest'⟩ := exists_rest decimal'
    rcases rest'.bound with ⟨less, _⟩ | ⟨_, twenty⟩
    · have scale : (0 : ℚ) < 10 ^ m.power := zpow_pos (by norm_num) _
      rw [rest.size, rest'.size, same] at le
      have sums := le_of_mul_le_mul_right le scale
      have below : (l.significand : ℚ) < m.significand + 1 := by linarith [rest.nonneg]
      have below' : l.significand < m.significand + 1 := mod_cast below
      exact Binary64.magnitude_ofNat_le (Nat.le_of_lt_succ below')
    · -- All integers from here to `2 ^ 64` are rounded to `2 ^ 64`.
      have top : (Binary64.ofNat (2 ^ 64)).magnitude =
          (Binary64.ofNat 18446744073709551610).magnitude := by decide +kernel
      calc (Binary64.ofNat l.significand).magnitude
          ≤ (Binary64.ofNat (2 ^ 64)).magnitude :=
            Binary64.magnitude_ofNat_le (Nat.le_of_lt (significand_lt l))
        _ = (Binary64.ofNat 18446744073709551610).magnitude := top
        _ ≤ (Binary64.ofNat m.significand).magnitude := Binary64.magnitude_ofNat_le twenty
  rw [same] at left
  exact magnitude_scaled?_le (Binary64.magnitude_ofUnits_le_infinity _ _)
    (Binary64.magnitude_ofUnits_le_infinity _ _) kept left right

/-- The literals go the same way: their last kept places are the same, or each is rounded
once. -/
def Aligned (l m : Literal) : Prop := l.power = m.power ∨ l.IsShort ∧ m.IsShort

theorem Aligned.symm (aligned : Aligned l m) : Aligned m l :=
  aligned.imp Eq.symm And.symm

theorem magnitude_le_of_aligned (decimal : l.IsDecimal) (decimal' : m.IsDecimal)
    (aligned : Aligned l m) (le : l.size ≤ m.size)
    (left : scaled? (.ofNat l.significand) l.power = some z)
    (right : scaled? (.ofNat m.significand) m.power = some w) : z.magnitude ≤ w.magnitude := by
  rcases aligned with same | ⟨short, short'⟩
  · exact magnitude_le_of_power_eq decimal decimal' same le left right
  · exact (rounds_size short left).magnitude_le (rounds_size short' right) le

theorem rank_nonpos (decimal : l.IsDecimal) (nonpos : l.value ≤ 0)
    (scaled : scaled? (.ofNat l.significand) l.power = some z) : (l.signed z).rank ≤ 0 := by
  rw [rank_signed (magnitude_scaled scaled).1]
  unfold value at nonpos
  split
  · omega
  · next positive =>
    rw [if_neg positive] at nonpos
    rw [eq_zero_of_size decimal (le_antisymm nonpos (size_nonneg l)) scaled]
    decide

theorem rank_nonneg (decimal : l.IsDecimal) (nonneg : 0 ≤ l.value)
    (scaled : scaled? (.ofNat l.significand) l.power = some z) : 0 ≤ (l.signed z).rank := by
  rw [rank_signed (magnitude_scaled scaled).1]
  unfold value at nonneg
  split
  · next negative =>
    rw [if_pos negative] at nonneg
    rw [eq_zero_of_size decimal (le_antisymm (by linarith) (size_nonneg l)) scaled]
    decide
  · omega

/-- Literals that go the same way, or have zero between them, are read in their order. -/
theorem rank_le_of_aligned (decimal : l.IsDecimal) (decimal' : m.IsDecimal)
    (aligned : Aligned l m ∨ l.value ≤ 0 ∧ 0 ≤ m.value) (le : l.value ≤ m.value)
    (left : scaled? (.ofNat l.significand) l.power = some z)
    (right : scaled? (.ofNat m.significand) m.power = some w) :
    (l.signed z).rank ≤ (m.signed w).rank := by
  by_cases across : l.value ≤ 0 ∧ 0 ≤ m.value
  · exact (rank_nonpos decimal across.1 left).trans (rank_nonneg decimal' across.2 right)
  · have routes := aligned.resolve_right across
    have sizes := size_nonneg l
    have sizes' := size_nonneg m
    rw [rank_signed (magnitude_scaled left).1, rank_signed (magnitude_scaled right).1]
    unfold value at across le
    by_cases negative : l.negative
    all_goals by_cases negative' : m.negative
    all_goals simp only [negative, negative', if_true, if_false, Bool.false_eq_true] at across le ⊢
    · have back := magnitude_le_of_aligned decimal' decimal routes.symm (neg_le_neg_iff.mp le) right left
      omega
    · omega
    · exact absurd ⟨by linarith, by linarith⟩ across
    · have along := magnitude_le_of_aligned decimal decimal' routes le left right
      omega

theorem abs_value_signed_sub_le (decimal : l.IsDecimal)
    (scaled : scaled? (.ofNat l.significand) l.power = some z) :
    |(l.signed z).value - l.value| ≤ 8 * roundoff * |l.value| + Binary64.halfUnit := by
  have near := abs_absValue_sub_size_le decimal scaled
  rw [abs_value, value_signed (magnitude_scaled scaled).1, value]
  split
  · rw [neg_sub_neg, abs_sub_comm]
    exact near
  · exact near

/-- Literals that are further apart than reading can move them are read in their order. -/
theorem rank_lt_of_gap (decimal : l.IsDecimal) (decimal' : m.IsDecimal)
    (gap : max |l.value| |m.value| / 2 ^ 49 + 1 / Binary64.unit < m.value - l.value)
    (left : scaled? (.ofNat l.significand) l.power = some z)
    (right : scaled? (.ofNat m.significand) m.power = some w) :
    (l.signed z).rank < (m.signed w).rank := by
  have finite := (magnitude_scaled left).2
  have finite' := (magnitude_scaled right).2
  rw [← magnitude_signed l] at finite
  rw [← magnitude_signed m] at finite'
  refine (Binary64.rank_lt_iff finite finite').mpr ?_
  have moved := (abs_le.mp (abs_value_signed_sub_le decimal left)).2
  have moved' := (abs_le.mp (abs_value_signed_sub_le decimal' right)).1
  have most := le_max_left |l.value| |m.value|
  have most' := le_max_right |l.value| |m.value|
  rw [← Binary64.two_mul_halfUnit] at gap
  rw [roundoff] at moved moved'
  linarith

end Pair

end Json.Literal

namespace Comparison

open Json
open Value (read_literal_iff)

/-- Two number literals that are read have an order, and they are never unordered. It follows
the numbers as written where the literals go the same way or have zero between them, so that
spellings of one number are then equal. It also follows them where they are further apart
than eight roundings and half a unit on either side. -/
theorem order_of_written_numbers {s t : String} {l m : Literal} {v w : Value}
    (left : LiteralText l s.toList) (right : LiteralText m t.toList) (modest : l.IsModest)
    (modest' : m.IsModest) (read : Value.ofJsonText s = .ok v) (read' : Value.ofJsonText t = .ok w)
    (le : l.value ≤ m.value) :
    ∃ o, (order v w).result = .ok o ∧ o ≠ .unordered ∧
      (l.Aligned m ∨ l.value ≤ 0 ∧ 0 ≤ m.value →
        o.Rising ∧ (l.value = m.value → o = .equal)) ∧
      (max |l.value| |m.value| / 2 ^ 49 + 1 / Binary64.unit < m.value - l.value → o = .less) := by
  obtain ⟨j, number, rfl⟩ := (read_literal_iff left).mp read
  obtain ⟨k, number', rfl⟩ := (read_literal_iff right).mp read'
  obtain ⟨z, scaled, double⟩ := Literal.scaled?_of_number modest number
  obtain ⟨w, scaled', double'⟩ := Literal.scaled?_of_number modest' number'
  have decimal := Literal.isDecimal_of_text left
  have decimal' := Literal.isDecimal_of_text right
  have finite := (Literal.magnitude_scaled scaled).2
  have finite' := (Literal.magnitude_scaled scaled').2
  rw [← Literal.magnitude_signed l] at finite
  rw [← Literal.magnitude_signed m] at finite'
  rw [double, double']
  refine ⟨Binary64.order (l.signed z) (m.signed w), result_order_eq_ok_iff.mpr rfl, ?_, ?_, ?_⟩
  · rw [Binary64.order_of_finite finite finite']
    cases compare (l.signed z).rank (m.signed w).rank <;> nofun
  · intro aligned
    have along := Literal.rank_le_of_aligned decimal decimal' aligned le scaled scaled'
    rw [Binary64.order_of_finite finite finite']
    constructor
    · rcases along.lt_or_eq with less | same
      · exact .inl (Binary64.outcome_of_lt less)
      · exact .inr (Binary64.outcome_of_eq same)
    · intro same
      have turned : m.Aligned l ∨ m.value ≤ 0 ∧ 0 ≤ l.value :=
        aligned.imp Literal.Aligned.symm fun across => ⟨same ▸ across.1, same ▸ across.2⟩
      have back := Literal.rank_le_of_aligned decimal' decimal turned same.ge scaled' scaled
      exact Binary64.outcome_of_eq (le_antisymm along back)
  · intro gap
    rw [Binary64.order_of_finite finite finite']
    exact Binary64.outcome_of_lt (Literal.rank_lt_of_gap decimal decimal' gap scaled scaled')

/-- Two spellings of one number, with a fraction and with an exponent. -/
theorem spellings_equal : ∃ v w, Value.ofJsonText "1.10" = .ok v ∧
    Value.ofJsonText "11e-1" = .ok w ∧ (order v w).result = .ok .equal := by
  have one : IsDigits ['1'] := isDigits_of_all (by decide) (by decide)
  have ten : IsDigits ['1', '0'] := isDigits_of_all (by decide) (by decide)
  have eleven : IsDigits ['1', '1'] := isDigits_of_all (by decide) (by decide)
  have left : LiteralText ⟨false, [1], [1, 0], none⟩ "1.10".toList :=
    .mk .none one (by decide) (.point ten) .none
  have right : LiteralText ⟨false, [1, 1], [], some (true, [1])⟩ "11e-1".toList :=
    .mk .none eleven (by decide) .none (.mark (.inl rfl) .minus one)
  have read := (read_literal_iff left).mpr
    ⟨_, Literal.number_of_down (n := 110) (k := 2) (by decide) (by decide) rfl, rfl⟩
  have read' := (read_literal_iff right).mpr
    ⟨_, Literal.number_of_down (n := 11) (k := 1) (by decide) (by decide) rfl, rfl⟩
  have same : (⟨false, [1], [1, 0], none⟩ : Literal).value =
      (⟨false, [1, 1], [], some (true, [1])⟩ : Literal).value := by
    norm_num [Literal.value, Literal.size, Literal.digits, Literal.shift, numeral]
  have short : (⟨false, [1], [1, 0], none⟩ : Literal).IsShort := .inr (by decide)
  have short' : (⟨false, [1, 1], [], some (true, [1])⟩ : Literal).IsShort := .inr (by decide)
  obtain ⟨o, ordered, _, along, _⟩ := order_of_written_numbers left right (.inl (by decide))
    (.inl (by decide)) read read' same.le
  rw [(along (.inl (.inr ⟨short, short'⟩))).2 same] at ordered
  exact ⟨_, _, read, read', ordered⟩

/-- Spellings of one number need not be equal, and a smaller number may be read as a larger
double. -/
theorem spellings_out_of_order : ∃ (l m n : Literal) (v w u : Value),
    LiteralText l "0.9999999999999999".toList ∧ LiteralText m "0.99999999999999990".toList ∧
    LiteralText n "0.99999999999999991".toList ∧ Value.ofJsonText "0.9999999999999999" = .ok v ∧
    Value.ofJsonText "0.99999999999999990" = .ok w ∧
    Value.ofJsonText "0.99999999999999991" = .ok u ∧ l.value = m.value ∧ l.value < n.value ∧
    (order v w).result = .ok .greater ∧ (order v u).result = .ok .greater := by
  have zero : IsDigits ['0'] := isDigits_of_all (by decide) (by decide)
  have nines : IsDigits (List.replicate 16 '9') := isDigits_of_all (by decide) (by decide)
  have ninesZero : IsDigits (List.replicate 16 '9' ++ ['0']) :=
    isDigits_of_all (by decide) (by decide)
  have ninesOne : IsDigits (List.replicate 16 '9' ++ ['1']) :=
    isDigits_of_all (by decide) (by decide)
  have first : LiteralText ⟨false, [0], List.replicate 16 9, none⟩ "0.9999999999999999".toList :=
    .mk .none zero (by decide) (.point nines) .none
  have second : LiteralText ⟨false, [0], List.replicate 16 9 ++ [0], none⟩
      "0.99999999999999990".toList :=
    .mk .none zero (by decide) (.point ninesZero) .none
  have third : LiteralText ⟨false, [0], List.replicate 16 9 ++ [1], none⟩
      "0.99999999999999991".toList :=
    .mk .none zero (by decide) (.point ninesOne) .none
  have read := (read_literal_iff first).mpr
    ⟨_, Literal.number_of_down (n := 9999999999999999) (k := 16) (by decide) (by decide) rfl, rfl⟩
  have read' := (read_literal_iff second).mpr
    ⟨_, Literal.number_of_down (n := 99999999999999990) (k := 17) (by decide) (by decide) rfl, rfl⟩
  have read'' := (read_literal_iff third).mpr
    ⟨_, Literal.number_of_down (n := 99999999999999991) (k := 17) (by decide) (by decide) rfl, rfl⟩
  refine ⟨_, _, _, _, _, _, first, second, third, read, read', read'', ?_, ?_, ?_, ?_⟩
  · norm_num [Literal.value, Literal.size, Literal.digits, Literal.shift, numeral, List.replicate]
  · norm_num [Literal.value, Literal.size, Literal.digits, Literal.shift, numeral, List.replicate]
  · refine result_order_eq_ok_iff.mpr (congrArg Except.ok ?_)
    decide +kernel
  · refine result_order_eq_ok_iff.mpr (congrArg Except.ok ?_)
    decide +kernel

end Comparison

end ValueOrder
