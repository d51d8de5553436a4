import ValueOrder.Decimal.Layout
import ValueOrder.Proofs.Rendering.Shortest

/-!
# The plain text of a double

The shortest decimal of a finite double is read as that double, and a positional text
shows the exact value of its decimal. So two doubles other than NaNs with the same plain text
are the same double.
-/

namespace ValueOrder

open Binary64 (infinityMagnitude)

/-- Finite doubles with shortest decimals of one value have the same magnitude. -/
theorem Decimal.magnitude_eq_of_value_eq {x y : Binary64} (tie : Tie)
    (finite : x.magnitude < infinityMagnitude) (finite' : y.magnitude < infinityMagnitude)
    (same : (shortest tie x).value = (shortest tie y).value) : x.magnitude = y.magnitude := by
  obtain ⟨z, rounds, there⟩ := reads_shortest tie finite'
  have here := reads_shortest tie finite
  rw [same] at here
  exact (here.magnitude_eq rounds).symm.trans there

namespace Layout

/-! ## Positional texts -/

/-- How many digits stand behind the decimal point. -/
def placesBehind (s : List Char) : Nat := (s.dropWhile (· ≠ '.')).length - 1

/-- The number that a text of digits with at most one decimal point stands for. -/
def positionalValue (s : List Char) : ℚ :=
  Nat.ofDigitChars 10 (s.filter (· ≠ '.')) 0 / 10 ^ placesBehind s

theorem isPlace_of_notMem {ds : List Char} (noPoint : '.' ∉ ds) :
    ∀ c ∈ ds, decide (c ≠ '.') = true := by
  intro c member
  simpa using ne_of_mem_of_not_mem member noPoint

theorem positionalValue_whole {ds : List Char} (noPoint : '.' ∉ ds) :
    positionalValue ds = Nat.ofDigitChars 10 ds 0 := by
  have digits := isPlace_of_notMem noPoint
  have nothing : ds.dropWhile (· ≠ '.') = [] := by
    have behind : (ds ++ []).dropWhile (· ≠ '.') = [] := List.dropWhile_append_of_pos digits
    simpa using behind
  rw [positionalValue, placesBehind, List.filter_eq_self.mpr digits, nothing]
  simp

theorem positionalValue_point {ds fs : List Char} (noPoint : '.' ∉ ds) (noPoint' : '.' ∉ fs) :
    positionalValue (ds ++ '.' :: fs) = Nat.ofDigitChars 10 (ds ++ fs) 0 / 10 ^ fs.length := by
  have digits := isPlace_of_notMem noPoint
  have digits' := isPlace_of_notMem noPoint'
  rw [positionalValue, placesBehind, List.dropWhile_append_of_pos digits, List.filter_append,
    List.filter_eq_self.mpr digits, List.filter_cons_of_neg (by simp),
    List.filter_eq_self.mpr digits', List.dropWhile_cons_of_neg (by simp)]
  rfl

theorem point_notMem_toDigits (n : Nat) : '.' ∉ Nat.toDigits 10 n := by
  intro member
  exact absurd (Nat.isDigit_of_mem_toDigits (by decide) (by decide) member) (by decide)

theorem point_notMem_zeros (n : Nat) : '.' ∉ zeros n := by
  intro member
  cases List.eq_of_mem_replicate member

theorem magnitudeText_plain (d : Decimal) : plain.magnitudeText d =
    pointed "" (Nat.toDigits 10 d.coefficient) ((Nat.toDigits 10 d.coefficient).length + d.exponent) :=
  rfl

/-- Wherever the point is put, the text shows the digits scaled by their last place. -/
theorem positionalValue_pointed {digits : List Char} (noPoint : '.' ∉ digits) (e : ℤ) :
    positionalValue (pointed "" digits (digits.length + e)) =
      Nat.ofDigitChars 10 digits 0 * 10 ^ e := by
  unfold pointed
  split_ifs with before behind
  · -- Zeros are filled in between the point and the digits.
    obtain ⟨k, below⟩ := Int.eq_ofNat_of_zero_le (Int.neg_nonneg_of_nonpos before)
    have places : (digits.length : ℤ) + k = -e := by omega
    have noPoint' : '.' ∉ zeros k ++ digits := by simp [point_notMem_zeros, noPoint]
    have value : positionalValue (['0'] ++ '.' :: (zeros k ++ digits)) = _ :=
      positionalValue_point (by decide) noPoint'
    have number : Nat.ofDigitChars 10 (['0'] ++ (zeros k ++ digits)) 0 =
        Nat.ofDigitChars 10 digits 0 := by
      rw [Nat.ofDigitChars_append, Nat.ofDigitChars_append, zeros, Nat.ofDigitChars_replicate_zero]
      rfl
    have length : ((zeros k ++ digits).length : ℤ) = -e := by simp [zeros, ← places, add_comm]
    rw [below, Int.toNat_natCast, ← List.singleton_append, value, number, div_eq_mul_inv,
      ← zpow_natCast, ← zpow_neg, length, neg_neg]
  · -- Zeros are filled in behind the digits.
    obtain ⟨k, rfl⟩ := Int.eq_ofNat_of_zero_le (a := e) (by omega)
    have noPoint' : '.' ∉ digits ++ zeros k := by simp [point_notMem_zeros, noPoint]
    have missing : ((digits.length : ℤ) + k - digits.length).toNat = k := by omega
    rw [missing, String.toList_empty, List.append_nil, positionalValue_whole noPoint',
      Nat.ofDigitChars_append, zeros, Nat.ofDigitChars_replicate_zero, zpow_natCast]
    push_cast
    ring
  · -- The point stands between the digits.
    obtain ⟨k, within⟩ := Int.eq_ofNat_of_zero_le (a := digits.length + e) (by omega)
    have length : ((digits.drop k).length : ℤ) = -e := by
      rw [List.length_drop]
      omega
    have noPoint' : '.' ∉ digits.take k := fun member => noPoint (List.mem_of_mem_take member)
    have noPoint'' : '.' ∉ digits.drop k := fun member => noPoint (List.mem_of_mem_drop member)
    rw [within, Int.toNat_natCast, positionalValue_point noPoint' noPoint'', List.take_append_drop,
      div_eq_mul_inv, ← zpow_natCast, ← zpow_neg, length, neg_neg]

/-- The plain text of a decimal shows its value. -/
theorem positionalValue_plain (d : Decimal) : positionalValue (plain.magnitudeText d) = d.value := by
  rw [magnitudeText_plain, positionalValue_pointed (point_notMem_toDigits d.coefficient),
    Nat.ofDigitChars_ten_toDigits, Decimal.value]

/-! ## Characters -/

/-- The characters that plain numbers are written with. -/
def IsNumeralChar (c : Char) : Prop := c.isDigit ∨ c ∈ ['.', '-', 'i', 'n', 'f', 'a']

theorem mem_pointed {suffix : String} {digits : List Char} {point : Int} {c : Char}
    (member : c ∈ pointed suffix digits point) :
    c = '0' ∨ c = '.' ∨ c ∈ digits ∨ c ∈ suffix.toList := by
  unfold pointed at member
  split_ifs at member
  · simp only [List.mem_cons, List.mem_append] at member
    rcases member with zero | point | filled | digit
    · exact .inl zero
    · exact .inr (.inl point)
    · exact .inl (List.eq_of_mem_replicate filled)
    · exact .inr (.inr (.inl digit))
  · simp only [List.mem_append] at member
    rcases member with (digit | filled) | behind
    · exact .inr (.inr (.inl digit))
    · exact .inl (List.eq_of_mem_replicate filled)
    · exact .inr (.inr (.inr behind))
  · simp only [List.mem_cons, List.mem_append] at member
    rcases member with digit | point | digit
    · exact .inr (.inr (.inl (List.mem_of_mem_take digit)))
    · exact .inr (.inl point)
    · exact .inr (.inr (.inl (List.mem_of_mem_drop digit)))

/-- A positional text begins with a digit. -/
theorem pointed_front (suffix : String) {digits : List Char} (point : Int)
    (nonempty : digits ≠ []) (all : ∀ c ∈ digits, c.isDigit) :
    ∃ c rest, pointed suffix digits point = c :: rest ∧ c.isDigit := by
  obtain ⟨d, ds, rfl⟩ := List.exists_cons_of_ne_nil nonempty
  have first : d.isDigit := all d (.head ds)
  unfold pointed
  split_ifs with before behind
  · exact ⟨'0', _, rfl, rfl⟩
  · exact ⟨d, _, rfl, first⟩
  · obtain ⟨k, within⟩ := Int.eq_succ_of_zero_lt (not_le.mp before)
    rw [within]
    exact ⟨d, _, rfl, first⟩

/-- The plain text of a double that is not a NaN, without its sign. -/
def unsigned (x : Binary64) : List Char :=
  if x.isInfinite then "inf".toList else plain.magnitudeText (Decimal.shortest plain.tie x)

theorem toList_plain_text {x : Binary64} (notNaN : ¬ x.isNaN) :
    (plain.text x).toList = if x.isNegative then '-' :: unsigned x else unsigned x := by
  rw [text, if_neg notNaN, String.toList_ofList, unsigned]

theorem plain_text_of_isNaN {x : Binary64} (nan : x.isNaN) : plain.text x = "nan" := by
  rw [text, if_pos nan]

/-- Without its sign a number begins with a digit, or it is `inf`. -/
theorem unsigned_front (x : Binary64) :
    (x.isInfinite ∧ unsigned x = "inf".toList) ∨
      ¬ x.isInfinite ∧ ∃ c rest, unsigned x = c :: rest ∧ c.isDigit := by
  unfold unsigned
  by_cases infinite : x.isInfinite
  · exact .inl ⟨infinite, by rw [if_pos infinite]⟩
  · refine .inr ⟨infinite, ?_⟩
    rw [if_neg infinite, magnitudeText_plain]
    exact pointed_front _ _ Nat.toDigits_ne_nil fun c member =>
      Nat.isDigit_of_mem_toDigits (by decide) (by decide) member

theorem isNumeralChar_of_mem_unsigned {x : Binary64} {c : Char} (member : c ∈ unsigned x) :
    IsNumeralChar c := by
  unfold unsigned at member
  split_ifs at member
  · right
    simp at member ⊢
    tauto
  · rw [magnitudeText_plain] at member
    rcases mem_pointed member with rfl | rfl | digit | nothing
    · exact .inl rfl
    · exact .inr (by simp)
    · exact .inl (Nat.isDigit_of_mem_toDigits (by decide) (by decide) digit)
    · cases nothing

theorem isNumeralChar_of_mem_text {x : Binary64} {c : Char} (member : c ∈ (plain.text x).toList) :
    IsNumeralChar c := by
  by_cases nan : x.isNaN
  · rw [plain_text_of_isNaN nan] at member
    right
    simp at member ⊢
    tauto
  · rw [toList_plain_text nan] at member
    split_ifs at member
    · rcases List.mem_cons.mp member with rfl | inside
      · exact .inr (by simp)
      · exact isNumeralChar_of_mem_unsigned inside
    · exact isNumeralChar_of_mem_unsigned member

/-- A plain number begins with a character that plain numbers are written with. -/
theorem plain_text_front (x : Binary64) :
    ∃ c rest, (plain.text x).toList = c :: rest ∧ IsNumeralChar c := by
  cases written : (plain.text x).toList with
  | nil =>
    by_cases nan : x.isNaN
    · rw [plain_text_of_isNaN nan] at written
      cases written
    · rw [toList_plain_text nan] at written
      rcases unsigned_front x with ⟨_, inf⟩ | ⟨_, c, rest, front, _⟩
      · rw [inf] at written
        split_ifs at written
        cases written
      · rw [front] at written
        split_ifs at written
  | cons c rest =>
    have member : c ∈ (plain.text x).toList := by
      rw [written]
      exact List.mem_cons_self
    exact ⟨c, rest, rfl, isNumeralChar_of_mem_text member⟩

/-! ## Distinct numbers have distinct texts -/

section Distinct
variable {x y : Binary64}

theorem finite_of_not (notNaN : ¬ x.isNaN) (notInfinite : ¬ x.isInfinite) :
    x.magnitude < infinityMagnitude := by
  simp only [Binary64.isNaN, Binary64.isInfinite, decide_eq_true_eq] at notNaN notInfinite
  omega

/-- Behind the sign the text shows the magnitude. -/
theorem magnitude_eq_of_unsigned_eq (notNaN : ¬ x.isNaN) (notNaN' : ¬ y.isNaN)
    (same : unsigned x = unsigned y) : x.magnitude = y.magnitude := by
  rcases unsigned_front x with ⟨infinite, inf⟩ | ⟨finite, c, rest, front, digit⟩
  · rcases unsigned_front y with ⟨infinite', _⟩ | ⟨_, c', rest', front', digit'⟩
    · simp only [Binary64.isInfinite, decide_eq_true_eq] at infinite infinite'
      rw [infinite, infinite']
    · rw [inf, front'] at same
      cases same
      exact absurd digit' (by decide)
  · rcases unsigned_front y with ⟨_, inf'⟩ | ⟨finite', _⟩
    · rw [front, inf'] at same
      cases same
      exact absurd digit (by decide)
    · unfold unsigned at same
      rw [if_neg finite, if_neg finite'] at same
      refine Decimal.magnitude_eq_of_value_eq plain.tie (finite_of_not notNaN finite)
        (finite_of_not notNaN' finite') ?_
      rw [← positionalValue_plain, same, positionalValue_plain]

theorem unsigned_ne_minus (x : Binary64) (s : List Char) : unsigned x ≠ '-' :: s := by
  intro same
  rcases unsigned_front x with ⟨_, inf⟩ | ⟨_, c, rest, front, digit⟩
  · rw [inf] at same
    cases same
  · rw [front] at same
    cases same
    exact absurd digit (by decide)

theorem plain_text_ne_nan (notNaN : ¬ x.isNaN) : plain.text x ≠ "nan" := by
  intro same
  have characters := congrArg String.toList same
  rw [toList_plain_text notNaN] at characters
  split_ifs at characters
  · cases characters
  · rcases unsigned_front x with ⟨_, inf⟩ | ⟨_, c, rest, front, digit⟩
    · rw [inf] at characters
      cases characters
    · rw [front] at characters
      cases characters
      exact absurd digit (by decide)

/-- Two doubles other than NaNs with the same plain text are the same double. -/
theorem eq_of_plain_text_eq (notNaN : ¬ x.isNaN) (notNaN' : ¬ y.isNaN)
    (same : plain.text x = plain.text y) : x = y := by
  have characters := congrArg String.toList same
  rw [toList_plain_text notNaN, toList_plain_text notNaN'] at characters
  by_cases negative : x.isNegative <;> by_cases negative' : y.isNegative
  · rw [if_pos negative, if_pos negative'] at characters
    exact Binary64.eq_of_magnitude (by rw [negative, negative'])
      (magnitude_eq_of_unsigned_eq notNaN notNaN' (List.cons.inj characters).2)
  · rw [if_pos negative, if_neg negative'] at characters
    exact absurd characters.symm (unsigned_ne_minus y _)
  · rw [if_neg negative, if_pos negative'] at characters
    exact absurd characters (unsigned_ne_minus x _)
  · rw [if_neg negative, if_neg negative'] at characters
    exact Binary64.eq_of_magnitude (by simp [negative, negative'])
      (magnitude_eq_of_unsigned_eq notNaN notNaN' characters)

/-- The plain text tells all doubles apart but NaNs, which it writes alike. -/
theorem plain_text_eq_iff : plain.text x = plain.text y ↔ x = y ∨ (x.isNaN ∧ y.isNaN) := by
  constructor
  · intro same
    by_cases nan : x.isNaN <;> by_cases nan' : y.isNaN
    · exact .inr ⟨nan, nan'⟩
    · rw [plain_text_of_isNaN nan] at same
      exact absurd same.symm (plain_text_ne_nan nan')
    · rw [plain_text_of_isNaN nan'] at same
      exact absurd same (plain_text_ne_nan nan)
    · exact .inl (eq_of_plain_text_eq nan nan' same)
  · rintro (rfl | ⟨nan, nan'⟩)
    · rfl
    · rw [plain_text_of_isNaN nan, plain_text_of_isNaN nan']

end Distinct

end Layout

end ValueOrder
