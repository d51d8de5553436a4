import ValueOrder.Proofs.Reading.Numbers
import ValueOrder.Proofs.Reading.Scaling

/-!
# What literals denote and what is kept of them

A literal denotes a rational number. Of its digits those are kept that are gathered, and the
kept integer under the power of its last place is at most the number, and hardly less. The
double that the literal is read as is that integer, scaled by that power.
-/

namespace ValueOrder.Json

/-! ## Numerals -/

/-- The integer with the digits of `n` and then the others. -/
def numeral (n : Nat) (ds : List Nat) : Nat := ds.foldl (fun n d => n * 10 + d) n

section Numerals
variable {n : Nat} {ds : List Nat}

@[simp] theorem numeral_nil (n : Nat) : numeral n [] = n := rfl

@[simp] theorem numeral_cons (n d : Nat) (ds : List Nat) :
    numeral n (d :: ds) = numeral (n * 10 + d) ds := rfl

theorem numeral_append (n : Nat) (ds rest : List Nat) :
    numeral n (ds ++ rest) = numeral (numeral n ds) rest :=
  List.foldl_append

theorem numeral_eq (n : Nat) (ds : List Nat) :
    numeral n ds = n * 10 ^ ds.length + numeral 0 ds := by
  induction ds generalizing n with
  | nil => simp
  | cons d ds ih =>
    rw [numeral_cons, numeral_cons, ih, ih (0 * 10 + d), List.length_cons, Nat.pow_succ]
    ring

theorem numeral_zero_lt (digits : ∀ d ∈ ds, d < 10) : numeral 0 ds < 10 ^ ds.length := by
  induction ds with
  | nil => simp
  | cons d ds ih =>
    obtain ⟨first, later⟩ := List.forall_mem_cons.mp digits
    have rest := ih later
    rw [numeral_cons, numeral_eq, List.length_cons, Nat.pow_succ]
    nlinarith

theorem le_numeral (n : Nat) (ds : List Nat) : n ≤ numeral n ds := by
  rw [numeral_eq]
  exact Nat.le_trans (Nat.le_mul_of_pos_right n (Nat.pow_pos (by decide))) (Nat.le_add_right _ _)

end Numerals

theorem isDigits_of_all {ds : List Char} (nonempty : ds ≠ []) (all : ds.all Char.isDigit) :
    IsDigits ds :=
  ⟨nonempty, List.all_eq_true.mp all⟩

theorem digitValue_lt {c : Char} (digit : c.isDigit) : digitValue c < 10 := by
  obtain ⟨_, high⟩ := Char.isDigit_iff_toNat.mp digit
  have nine : '9'.toNat = '0'.toNat + 9 := rfl
  rw [digitValue]
  omega

/-! ## Gathered digits -/

/-- The digits that are gathered stand in front, and the first of the others does not fit. -/
theorem gather_eq (n : Nat) (ds : List Nat) : ∃ kept rest, ds = kept ++ rest ∧
    gather n ds = (numeral n kept, rest.length) ∧ (n < 2 ^ 64 → numeral n kept < 2 ^ 64) ∧
    ∀ d ∈ rest.head?, 2 ^ 64 ≤ numeral n kept * 10 + d := by
  induction ds generalizing n with
  | nil => exact ⟨[], [], rfl, rfl, id, nofun⟩
  | cons d ds ih =>
    by_cases fits : n * 10 + d < 0x10000000000000000
    · obtain ⟨kept, rest, rfl, gathered, small, large⟩ := ih (n * 10 + d)
      refine ⟨d :: kept, rest, rfl, ?_, fun _ => small fits, large⟩
      rw [gather, if_pos fits, gathered]
      rfl
    · refine ⟨[], d :: ds, rfl, ?_, id, ?_⟩
      · rw [gather, if_neg fits]
        rfl
      · rintro _ ⟨⟩
        exact Nat.le_of_not_lt fits

/-- Exponent digits are read as their number, unless it leaves the range. -/
theorem exponentValue_eq {e : Nat} (small : e < 2 ^ 31) (ds : List Nat) :
    exponentValue e ds = .ok (numeral e ds) ∧ numeral e ds < 2 ^ 31 ∨
      (∃ unread, exponentValue e ds = .error unread) ∧ 2 ^ 31 ≤ numeral e ds := by
  induction ds generalizing e with
  | nil => exact .inl ⟨rfl, small⟩
  | cons d ds ih =>
    by_cases fits : e * 10 + d < 0x80000000
    · rw [exponentValue, if_pos fits]
      exact ih fits
    · rw [exponentValue, if_neg fits]
      exact .inr ⟨⟨_, rfl⟩, Nat.le_trans (Nat.le_of_not_lt fits) (le_numeral _ ds)⟩

/-! ## Literals -/

namespace Literal

/-- The integer that all digits make. -/
def digits (l : Literal) : Nat := numeral 0 (l.whole ++ l.fraction)

/-- The exponent as written. -/
def shift (l : Literal) : Int :=
  match l.exponent with
  | none => 0
  | some (true, ds) => -(numeral 0 ds : Int)
  | some (false, ds) => numeral 0 ds

/-- The absolute value that a literal denotes. -/
def size (l : Literal) : ℚ := l.digits * 10 ^ (l.shift - l.fraction.length)

/-- The number that a literal denotes. -/
def value (l : Literal) : ℚ := if l.negative then -l.size else l.size

/-- The integer that the kept digits make. -/
def significand (l : Literal) : Nat := (gather (gather 0 l.whole).1 l.fraction).1

/-- The power of ten of the last place that is kept, before the exponent is applied. -/
def point (l : Literal) : Int :=
  (gather 0 l.whole).2 - (l.fraction.length - (gather (gather 0 l.whole).1 l.fraction).2)

/-- The power of ten of the last place that is kept. -/
def power (l : Literal) : Int := l.point + l.shift

def IsDecimal (l : Literal) : Prop := ∀ d ∈ l.whole ++ l.fraction, d < 10

/-- The exponent does not leave the range of 32-bit integers, unless few digits stand before
the point. -/
def IsModest (l : Literal) : Prop := l.shift.natAbs < 2 ^ 31 ∨ l.whole.length ≤ 2000000000

/-- Without the bound on their digits literals can be read as zero though they are not: a one
with more than `2 ^ 31` zeros, which the exponent takes away again. -/
theorem number_of_long {ds : List Nat} (large : 2 ^ 31 ≤ numeral 0 ds) :
    (⟨false, 1 :: List.replicate (numeral 0 ds) 0, [], some (true, ds)⟩ : Literal).value = 1 ∧
      (⟨false, 1 :: List.replicate (numeral 0 ds) 0, [], some (true, ds)⟩ : Literal).number =
        .ok (.double .zero) := by
  have zeros (k n : Nat) : numeral n (List.replicate k 0) = n * 10 ^ k := by
    induction k generalizing n with
    | zero => simp
    | succ k ih =>
      rw [List.replicate_succ, numeral_cons, ih, Nat.pow_succ]
      ring
  constructor
  · simp [value, size, digits, shift, zeros]
  · rcases exponentValue_eq (by decide : 0 < 2 ^ 31) ds with ⟨_, small⟩ | ⟨⟨unread, outside⟩, _⟩
    · omega
    · simp [number, outside, signed]

/-- What the kept digits lack of the number, counted in their last place. It is less than one,
and nothing unless nineteen digits are kept. Where digits were dropped before the point, one
behind it may be kept in their place. It is then the twentieth, and less than ten is lacking. -/
structure IsRest (l : Literal) (δ : ℚ) : Prop where
  nonneg : 0 ≤ δ
  size : l.size = (l.significand + δ) * 10 ^ l.power
  bound : δ < 1 ∧ (δ = 0 ∨ 1844674407370955161 ≤ l.significand) ∨
    δ < 10 ∧ 18446744073709551610 ≤ l.significand

section Kept
variable {l : Literal}

/-- How the digits of a literal part: before the point `w` is kept and `dropped` is not, and
behind it `f` is kept and `unused` is not. The first digit that is not kept does not fit. -/
structure Parting (l : Literal) (w dropped f unused : List Nat) : Prop where
  whole : l.whole = w ++ dropped
  fraction : l.fraction = f ++ unused
  significand : l.significand = numeral (numeral 0 w) f
  point : l.point = dropped.length - f.length
  fits : numeral (numeral 0 w) f < 2 ^ 64
  exceeds : ∀ d ∈ dropped.head?, 2 ^ 64 ≤ numeral 0 w * 10 + d
  exceeds' : ∀ d ∈ unused.head?, 2 ^ 64 ≤ numeral (numeral 0 w) f * 10 + d

theorem exists_parting (l : Literal) : ∃ w dropped f unused, l.Parting w dropped f unused := by
  obtain ⟨w, dropped, split, gathered, small, large⟩ := gather_eq 0 l.whole
  obtain ⟨f, unused, split', gathered', small', large'⟩ := gather_eq (numeral 0 w) l.fraction
  refine ⟨w, dropped, f, unused, split, split', ?_, ?_, small' (small (by decide)), large, large'⟩
  · rw [significand, gathered, gathered']
  · rw [point, gathered, gathered', split', List.length_append]
    dsimp only
    omega

theorem significand_lt (l : Literal) : l.significand < 2 ^ 64 := by
  obtain ⟨_, _, _, _, parts⟩ := exists_parting l
  rw [parts.significand]
  exact parts.fits

theorem point_le (l : Literal) : l.point ≤ l.whole.length := by
  obtain ⟨w, dropped, f, unused, parts⟩ := exists_parting l
  rw [parts.point, parts.whole, List.length_append]
  omega

theorem Parting.digits {w dropped f unused : List Nat} (parts : l.Parting w dropped f unused) :
    l.digits = numeral (numeral 0 w) (dropped ++ (f ++ unused)) := by
  rw [Literal.digits, parts.whole, parts.fraction, List.append_assoc, numeral_append]

theorem isDecimal_of_text {t : List Char} (written : LiteralText l t) : l.IsDecimal := by
  have run {ds : List Char} (digits : IsDigits ds) : ∀ d ∈ ds.map digitValue, d < 10 := by
    intro d mem
    obtain ⟨c, member, rfl⟩ := List.mem_map.mp mem
    exact digitValue_lt (digits.digits c member)
  cases written with
  | mk signed digits zeroAlone point mark =>
    refine List.forall_mem_append.mpr ⟨run digits, ?_⟩
    cases point with
    | none => exact nofun
    | point fraction => exact run fraction

/-- Digits that are dropped behind the others make up less than one in the last place. -/
theorem size_of_tail {tail : List Nat} {sig : Nat} (power : Int) (decimal : ∀ d ∈ tail, d < 10)
    (whole : l.digits = numeral sig tail) (place : power = l.shift - l.fraction.length + tail.length) :
    ∃ δ : ℚ, 0 ≤ δ ∧ δ < 1 ∧ (tail = [] → δ = 0) ∧ l.size = (sig + δ) * 10 ^ power := by
  have scale : (0 : ℚ) < 10 ^ tail.length := by positivity
  refine ⟨numeral 0 tail / 10 ^ tail.length, by positivity, ?_, ?_, ?_⟩
  · rw [div_lt_one scale]
    exact_mod_cast numeral_zero_lt decimal
  · rintro rfl
    simp
  · have split : (numeral sig tail : ℚ) = sig * 10 ^ tail.length + numeral 0 tail :=
      mod_cast numeral_eq sig tail
    rw [size, whole, split, place, zpow_add₀ (by norm_num), zpow_natCast]
    field_simp

/-- Where a digit was dropped before the point, at most one behind it can take its place. -/
theorem kept_after_dropped {lead d f : Nat} {kept : List Nat} (digit : d < 10)
    (dropped : 2 ^ 64 ≤ lead * 10 + d) (fits : numeral lead (f :: kept) < 2 ^ 64) :
    kept = [] ∧ f < d ∧ 18446744073709551610 ≤ lead * 10 + f := by
  cases kept with
  | nil =>
    rw [numeral_cons, numeral_nil] at fits
    refine ⟨rfl, ?_, ?_⟩ <;> omega
  | cons g kept =>
    have more := le_numeral ((lead * 10 + f) * 10 + g) kept
    rw [numeral_cons, numeral_cons] at fits
    omega

/-- What is lacking is small beside what is kept. -/
theorem IsRest.small {δ : ℚ} (rest : l.IsRest δ) : δ ≤ roundoff / 100 * l.significand := by
  rcases rest.bound with ⟨less, rfl | nineteen⟩ | ⟨less, twenty⟩
  · rw [roundoff]
    positivity
  · have large : (1844674407370955161 : ℚ) ≤ l.significand := mod_cast nineteen
    rw [roundoff]
    linarith
  · have large : (18446744073709551610 : ℚ) ≤ l.significand := mod_cast twenty
    rw [roundoff]
    linarith

theorem isRest_of_tail {tail : List Nat} (decimal : ∀ d ∈ tail, d < 10)
    (whole : l.digits = numeral l.significand tail)
    (place : l.power = l.shift - l.fraction.length + tail.length)
    (exceeds : ∀ d ∈ tail.head?, 2 ^ 64 ≤ l.significand * 10 + d) : ∃ δ, l.IsRest δ := by
  obtain ⟨δ, nonneg, less, exact, size⟩ := size_of_tail l.power decimal whole place
  refine ⟨δ, nonneg, size, .inl ⟨less, ?_⟩⟩
  cases tail with
  | nil => exact .inl (exact rfl)
  | cons d tail =>
    have digit := decimal d (.head tail)
    have twentieth := exceeds d rfl
    right
    omega

/-- Where all digits before the point are kept, the others are dropped behind the kept ones. -/
theorem exists_rest_of_whole_kept {w f unused : List Nat} (parts : l.Parting w [] f unused)
    (decimal : ∀ d ∈ unused, d < 10) : ∃ δ, l.IsRest δ := by
  refine isRest_of_tail decimal ?_ ?_ ?_
  · rw [parts.digits, parts.significand, List.nil_append, numeral_append]
  · rw [power, parts.point, parts.fraction, List.length_append, List.length_nil]
    omega
  · rw [parts.significand]
    exact parts.exceeds'

/-- Where digits before the point are dropped, one behind it may be kept out of turn. -/
theorem exists_rest_of_whole_dropped {w f unused dropped : List Nat} {d : Nat}
    (parts : l.Parting w (d :: dropped) f unused)
    (decimal : ∀ c ∈ d :: dropped ++ (f ++ unused), c < 10) : ∃ δ, l.IsRest δ := by
  have twentieth : 2 ^ 64 ≤ numeral 0 w * 10 + d := parts.exceeds d rfl
  cases f with
  | nil =>
    refine isRest_of_tail decimal ?_ ?_ ?_
    · rw [parts.digits, parts.significand, numeral_nil]
    · rw [power, parts.point, parts.fraction]
      simp only [List.length_cons, List.length_append, List.length_nil]
      omega
    · rw [parts.significand, numeral_nil]
      rintro _ ⟨⟩
      exact twentieth
  | cons g kept =>
    have digit : d < 10 := decimal d (.head _)
    obtain ⟨rfl, less, least⟩ := kept_after_dropped digit twentieth parts.fits
    have tail : ∀ c ∈ dropped ++ ([g] ++ unused), c < 10 := fun c mem => decimal c (.tail d mem)
    obtain ⟨δ, nonneg, below, _, size⟩ := size_of_tail l.power tail parts.digits (by
      rw [power, parts.point, parts.fraction]
      simp only [List.length_cons, List.length_append, List.length_nil]
      omega)
    have significand := parts.significand
    rw [numeral_cons, numeral_nil] at significand
    have gap : (g : ℚ) + 1 ≤ d := mod_cast less
    have gap' : (d : ℚ) ≤ 9 := mod_cast Nat.le_of_lt_succ digit
    have front : (0 : ℚ) ≤ g := Nat.cast_nonneg g
    -- Counted in the last kept place, `d` is missing and `g` stands in its place.
    refine ⟨d - g + δ, by linarith, ?_, .inr ⟨by linarith, significand ▸ least⟩⟩
    rw [size, significand]
    push_cast
    ring

/-- The kept digits make up the number, but for a small rest. -/
theorem exists_rest (decimal : l.IsDecimal) : ∃ δ, l.IsRest δ := by
  obtain ⟨w, dropped, f, unused, parts⟩ := exists_parting l
  rw [IsDecimal, parts.whole, parts.fraction, List.append_assoc] at decimal
  have later : ∀ d ∈ dropped ++ (f ++ unused), d < 10 := fun d mem =>
    decimal d (List.mem_append_right w mem)
  cases dropped with
  | nil => exact exists_rest_of_whole_kept parts fun d mem => later d (List.mem_append_right f mem)
  | cons d dropped => exact exists_rest_of_whole_dropped parts later

/-- Where all digits fit they are kept. -/
theorem kept_of_lt (short : l.digits < 2 ^ 64) :
    l.significand = l.digits ∧ l.power = l.shift - l.fraction.length := by
  obtain ⟨w, dropped, f, unused, parts⟩ := exists_parting l
  rw [power, parts.significand, parts.point, parts.fraction]
  rw [parts.digits, numeral_append] at short ⊢
  cases dropped with
  | cons d rest =>
    have exceeds := parts.exceeds d rfl
    have front := le_numeral (numeral 0 w * 10 + d) rest
    have back := le_numeral (numeral (numeral 0 w) (d :: rest)) (f ++ unused)
    rw [numeral_cons] at back short
    omega
  | nil =>
    rw [numeral_nil, numeral_append] at short ⊢
    cases unused with
    | cons d rest =>
      have exceeds := parts.exceeds' d rfl
      have back := le_numeral (numeral (numeral 0 w) f * 10 + d) rest
      rw [numeral_cons] at short
      omega
    | nil =>
      refine ⟨rfl, ?_⟩
      simp only [List.length_nil, List.append_nil]
      omega

end Kept

/-! ## Reading -/

section Number
variable {l : Literal} {j : JsonNumber}

theorem toBinary64_integer (l : Literal) (n : Nat) :
    (l.integer n).toBinary64 = l.signed (.ofNat n) := by
  unfold Literal.integer signed
  cases l.negative with
  | false => rfl
  | true =>
    by_cases edge : (n = 0 || 0x8000000000000000 < n) = true
    · simp [edge, JsonNumber.toBinary64]
    · cases n with
      | zero => simp at edge
      | succ n =>
        simp only [edge, Bool.not_true, Bool.false_eq_true, if_false, if_true]
        rfl

/-- Exponents beyond the ends of the range scale like the ends. -/
theorem scaled?_saturated {n : Nat} (small : n < 2 ^ 64) (e : Int) :
    scaled? (.ofNat n) (saturated e) = scaled? (.ofNat n) e := by
  by_cases low : e < -0x80000000
  · rw [scaled?_of_low small (by rw [saturated]; omega), scaled?_of_low small (by omega)]
  · by_cases high : 0x7FFFFFFF < e
    · rw [scaled?_of_far _ (by rw [saturated]; omega), scaled?_of_far _ (by omega)]
    · have same : saturated e = e := by
        rw [saturated]
        omega
      rw [same]

theorem scaled?_of_double? {n : Nat} {e : Int} (read : l.double? n e = .ok j) :
    ∃ z, scaled? (.ofNat n) e = some z ∧ j.toBinary64 = l.signed z := by
  unfold double? at read
  split at read
  · next z scaled =>
    cases read
    exact ⟨z, scaled, rfl⟩
  · cases read

/-- Without a point and an exponent, and with nothing dropped, the integer itself is kept. -/
theorem plain_kept (noFraction : l.fraction = []) (nothingDropped : (gather 0 l.whole).2 = 0) :
    l.significand = (gather 0 l.whole).1 ∧ l.point = 0 := by
  rw [significand, point, noFraction, nothingDropped]
  exact ⟨rfl, rfl⟩

/-- An exponent that leaves the range leads far down, or there is nothing to scale. -/
theorem scaled?_of_outside {ds : List Nat} {negative : Bool} (modest : l.IsModest)
    (exponent : l.exponent = some (negative, ds)) (large : 2 ^ 31 ≤ numeral 0 ds)
    (vanishes : ¬ (l.significand ≠ 0 ∧ !negative)) :
    scaled? (.ofNat l.significand) l.power = some .zero := by
  by_cases nothing : l.significand = 0
  · rw [nothing, Binary64.ofNat_zero, scaled?_zero]
  · have down : negative = true := by simpa [nothing] using vanishes
    subst down
    have shift : l.shift = -(numeral 0 ds : Int) := by rw [Literal.shift, exponent]
    have few : l.whole.length ≤ 2000000000 := modest.resolve_left (by omega)
    have point := point_le l
    refine scaled?_of_low (significand_lt l) ?_
    rw [power, shift]
    omega

/-- A literal is read as its kept digits, scaled by the power of their last place. -/
theorem scaled?_of_number (modest : l.IsModest) (read : l.number = .ok j) :
    ∃ z, scaled? (.ofNat l.significand) l.power = some z ∧ j.toBinary64 = l.signed z := by
  have small := significand_lt l
  unfold number at read
  dsimp only at read
  rw [← significand, ← point] at read
  split at read
  · next plain =>
    obtain ⟨noFraction, noExponent, nothingDropped⟩ := plain
    obtain ⟨significand, point⟩ := plain_kept noFraction nothingDropped
    have power : l.power = 0 := by
      rw [Literal.power, point, shift, noExponent]
      rfl
    rw [← significand] at read
    -- The integer itself is kept, and as a double it is the same under the power zero.
    rw [power, scaled?_ofNat_zero small]
    cases read
    exact ⟨_, rfl, toBinary64_integer l _⟩
  · split at read
    · next noExponent =>
      have power : l.power = l.point := by rw [Literal.power, shift, noExponent, Int.add_zero]
      rw [power]
      exact scaled?_of_double? read
    · next negative ds exponent =>
      rcases exponentValue_eq (by decide : 0 < 2 ^ 31) ds with ⟨value, _⟩ | ⟨⟨unread, value⟩, large⟩
      · rw [value] at read
        obtain ⟨z, scaled, double⟩ := scaled?_of_double? read
        have power : l.power = if negative then l.point - (numeral 0 ds : Nat)
            else l.point + (numeral 0 ds : Nat) := by
          rw [Literal.power, shift, exponent]
          cases negative <;> rfl
        rw [scaled?_saturated small, ← power] at scaled
        exact ⟨z, scaled, double⟩
      · rw [value] at read
        dsimp only at read
        split at read
        · cases read
        · next vanishes =>
          cases read
          exact ⟨.zero, scaled?_of_outside modest exponent large vanishes, rfl⟩

theorem number_of_down {n k : Nat} (below : 0 < k) (few : k ≤ 308)
    (number : l.number = l.double? n (-k)) :
    l.number = .ok (.double (l.signed ((Binary64.ofNat n).div (.tenTo k)))) := by
  rw [number, double?, scaled?_neg _ below few]

end Number

end Literal

end ValueOrder.Json
