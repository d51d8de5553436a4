import Mathlib.Algebra.Order.Field.Power
import Mathlib.Tactic.SplitIfs
import ValueOrder.Decimal.Shortest
import ValueOrder.Proofs.Rounding.Nearest

/-!
# Shortest decimals

The shortest decimal of a finite double is read as that double. No decimal with fewer digits
is, and of those with as many none is nearer. What lies between a number that is read as the
double and the double itself is read as the double too, so the search finds a multiple on a grid
wherever there is one.
-/

namespace ValueOrder.Decimal

open Binary64 (infinityMagnitude Rounds unit)

/-- The number that a decimal stands for. -/
def value (d : Decimal) : ℚ := d.coefficient * 10 ^ d.exponent

theorem value_trim (c : Nat) (e : Int) : (trim c e).value = c * 10 ^ e := by
  fun_induction trim c e with
  | case1 => simp [value]
  | case2 c e _ zero ih =>
    have whole : c = c / 10 * 10 := by omega
    rw [ih, zpow_add_one₀ (by norm_num)]
    conv_rhs => rw [whole]
    push_cast
    ring
  | case3 => rfl

theorem value_ofSteps (c j : Nat) : (ofSteps (c, j)).value = c * 10 ^ ((j : ℤ) - finest) :=
  value_trim c _

/-! ## Widths -/

/-- How many digits a coefficient is written with. -/
def width (n : Nat) : Nat := (Nat.toDigits 10 n).length

section Widths
variable {n m k : Nat}

theorem width_pos (n : Nat) : 0 < width n := Nat.length_toDigits_pos

theorem width_le_iff (positive : 0 < k) : width n ≤ k ↔ n < 10 ^ k :=
  Nat.length_toDigits_le_iff (by decide) positive

theorem lt_ten_pow_width (n : Nat) : n < 10 ^ width n := (width_le_iff (width_pos n)).mp le_rfl

theorem width_mono (le : n ≤ m) : width n ≤ width m :=
  (width_le_iff (width_pos m)).mpr (le.trans_lt (lt_ten_pow_width m))

theorem lt_width (le : 10 ^ k ≤ n) : k < width n := by
  by_contra less
  have small : n < 10 ^ k := (lt_ten_pow_width n).trans_le (Nat.pow_le_pow_right (by decide) (by omega))
  omega

theorem ten_pow_le (positive : 0 < n) : 10 ^ (width n - 1) ≤ n := by
  by_contra less
  rcases Nat.eq_zero_or_pos (width n - 1) with one | more
  · rw [one] at less
    omega
  · have := (width_le_iff more).mpr (not_le.mp less)
    omega

/-- Digits are counted. -/
theorem digitCount_eq_width (n : Nat) : digitCount n = width n := by
  fun_induction digitCount n with
  | case1 n small => rfl
  | case2 n large ih =>
    have room : 0 < 10 ^ 64 := by decide
    have front : 0 < n / 10 ^ 64 := Nat.div_pos (not_lt.mp large) room
    have low : 10 ^ (width (n / 10 ^ 64) - 1 + 64) ≤ n := by
      rw [pow_add]
      exact (Nat.mul_le_mul_right _ (ten_pow_le front)).trans (Nat.div_mul_le_self _ _)
    have high : n < 10 ^ (width (n / 10 ^ 64) + 64) := by
      rw [pow_add]
      exact (Nat.div_lt_iff_lt_mul room).mp (lt_ten_pow_width _)
    have below := lt_width low
    have above := (width_le_iff (by omega)).mpr high
    have counted : digitCount (n / Nat.pow 10 64) = width (n / 10 ^ 64) := ih
    have := width_pos (n / 10 ^ 64)
    omega

theorem coefficient_trim_le (c : Nat) (e : Int) : (trim c e).coefficient ≤ c := by
  fun_induction trim c e with
  | case1 => rfl
  | case2 c e _ _ ih => omega
  | case3 => rfl

theorem coefficient_trim_ten_pow (k : Nat) (e : Int) : (trim (10 ^ k) e).coefficient = 1 := by
  induction k generalizing e with
  | zero =>
    rw [trim]
    rfl
  | succ k ih =>
    have nonzero : 10 ^ (k + 1) ≠ 0 := (Nat.pow_pos (by decide)).ne'
    have whole : 10 ^ (k + 1) % 10 = 0 := by
      rw [pow_succ]
      exact Nat.mul_mod_left _ _
    have tenth : 10 ^ (k + 1) / 10 = 10 ^ k := by
      rw [pow_succ]
      exact Nat.mul_div_cancel _ (by decide)
    rw [trim, dif_neg nonzero, if_pos whole, tenth]
    exact ih _

/-- Without its zeros at the end a coefficient up to a power of ten has at most so many digits. -/
theorem width_trim_le {c : Nat} (positive : 0 < k) (le : c ≤ 10 ^ k) (e : Int) :
    width (trim c e).coefficient ≤ k := by
  rcases Nat.lt_or_eq_of_le le with less | rfl
  · exact (width_mono (coefficient_trim_le c e)).trans ((width_le_iff positive).mpr less)
  · rw [coefficient_trim_ten_pow]
    exact positive

end Widths

/-! ## Reading -/

/-- The number is read as the magnitude of the double. -/
def Reads (t : ℚ) (x : Binary64) : Prop := ∃ y, Rounds t y ∧ y.magnitude = x.magnitude

section Reading
variable {x : Binary64} {s t u : ℚ}

theorem Reads.magnitude_eq {y : Binary64} (reads : Reads t x) (rounds : Rounds t y) :
    y.magnitude = x.magnitude := by
  obtain ⟨z, rounds', same⟩ := reads
  rw [← same]
  exact Nat.le_antisymm (rounds.magnitude_le rounds' le_rfl) (rounds'.magnitude_le rounds le_rfl)

theorem exists_rounds (nonneg : 0 ≤ t) : ∃ y, Rounds t y := by
  refine ⟨_, t.num.toNat * unit, t.den, t.den_pos, ?_, rfl⟩
  have scale := Binary64.cast_unit_pos.ne'
  have numerator : ((t.num.toNat : ℤ) : ℚ) = t.num := by
    rw [Int.toNat_of_nonneg (Rat.num_nonneg.mpr nonneg)]
  rw [Nat.cast_mul, mul_div_mul_right _ _ scale, ← Int.cast_natCast, numerator]
  exact t.num_div_den

/-- What lies between two numbers that are read as a double is read as it too. -/
theorem Reads.between (low : Reads s x) (high : Reads u x) (nonneg : 0 ≤ s) (above : s ≤ t)
    (below : t ≤ u) : Reads t x := by
  obtain ⟨y, rounds⟩ := exists_rounds (nonneg.trans above)
  obtain ⟨v, roundsLow, sameLow⟩ := low
  obtain ⟨w, roundsHigh, sameHigh⟩ := high
  refine ⟨y, rounds, Nat.le_antisymm ?_ ?_⟩
  · rw [← sameHigh]
    exact rounds.magnitude_le roundsHigh below
  · rw [← sameLow]
    exact roundsLow.magnitude_le rounds above

end Reading

/-! ## Grids -/

section Grids
variable {x : Binary64} {n c j : Nat}

theorem five_pow_pos (k : Nat) : 0 < Nat.pow 5 k := Nat.pow_pos (by decide)

theorem five_pow_mul_unit : ((Nat.pow 5 finest * unit : Nat) : ℚ) = 10 ^ finest := by
  have powers (k : Nat) : ((Nat.pow 5 k * Nat.pow 2 k : Nat) : ℚ) = 10 ^ k := by
    rw [show Nat.pow 5 k * Nat.pow 2 k = 10 ^ k from (Nat.mul_pow 5 2 k).symm, Nat.cast_pow]
    rfl
  have places : unit = Nat.pow 2 finest := by decide +kernel
  rw [places]
  exact powers finest

theorem rounds_read (n : Nat) : Rounds (n / 10 ^ finest) (read n) := by
  refine ⟨n, Nat.pow 5 finest, five_pow_pos finest, ?_, rfl⟩
  rw [← five_pow_mul_unit, Nat.cast_mul]

/-- The number of `c` steps of `10 ^ j` on the finest grid. -/
def steps (c j : Nat) : ℚ := (c * 10 ^ j : Nat) / 10 ^ finest

theorem steps_eq (c j : Nat) : steps c j = c * 10 ^ ((j : ℤ) - finest) := by
  rw [steps, zpow_sub₀ (by norm_num), ← mul_div_assoc, zpow_natCast, zpow_natCast]
  push_cast
  rfl

theorem readsBack_iff : readsBack x.magnitude c j ↔ Reads (steps c j) x := by
  rw [readsBack, decide_eq_true_iff]
  constructor
  · intro back
    exact ⟨_, rounds_read _, back⟩
  · intro reads
    exact reads.magnitude_eq (rounds_read _)

/-- A finite double is the number of places that it has on the finest grid. -/
theorem steps_places (x : Binary64) : steps (places x) 0 = x.absValue := by
  have five : ((Nat.pow 5 finest : Nat) : ℚ) ≠ 0 := Nat.cast_ne_zero.mpr (five_pow_pos finest).ne'
  rw [steps, pow_zero, mul_one, places, ← five_pow_mul_unit, Nat.cast_mul, Nat.cast_mul,
    mul_comm (Nat.cast (Nat.pow 5 finest)), mul_div_mul_right _ _ five]
  rfl

theorem reads_absValue (finite : x.magnitude < infinityMagnitude) : Reads x.absValue x := by
  refine ⟨_, ⟨x.units, 1, Nat.one_pos, ?_, rfl⟩, ?_⟩
  · rw [Nat.cast_one, one_mul]
    rfl
  · have small := finite.trans Binary64.infinityMagnitude_lt_signBit
    rw [Binary64.ofUnits_units finite.le, Binary64.magnitude_ofMagnitude small]

theorem steps_le_iff {c' j' : Nat} : steps c j ≤ steps c' j' ↔ c * 10 ^ j ≤ c' * 10 ^ j' := by
  rw [steps, steps, div_le_div_iff_of_pos_right (by positivity), Nat.cast_le]

theorem readsBack_between {a b i k : Nat} (low : readsBack x.magnitude a i)
    (high : readsBack x.magnitude b k) (above : a * 10 ^ i ≤ c * 10 ^ j)
    (below : c * 10 ^ j ≤ b * 10 ^ k) : readsBack x.magnitude c j := by
  rw [readsBack_iff] at low high ⊢
  exact low.between high (by rw [steps]; positivity) (steps_le_iff.mpr above) (steps_le_iff.mpr below)

theorem readsBack_places (finite : x.magnitude < infinityMagnitude) :
    readsBack x.magnitude (places x) 0 := by
  rw [readsBack_iff, steps_places]
  exact reads_absValue finite

end Grids

/-! ### The two multiples around a number -/

section Neighbours
variable {tie : Tie} {n c step : Nat}

/-- The nearer one of the two multiples comes first. If both are as near, it may be the even one. -/
theorem neighbours_cases (tie : Tie) (n step : Nat) :
    (neighbours tie n step = (n / step, n / step + 1) ∧ 2 * (n % step) ≤ step ∧
      (tie = .even → 2 * (n % step) = step → n / step % 2 = 0)) ∨
    neighbours tie n step = (n / step + 1, n / step) ∧ step ≤ 2 * (n % step) ∧
      (tie = .even → 2 * (n % step) = step → (n / step + 1) % 2 = 0) := by
  unfold neighbours
  dsimp only
  split_ifs with below
  · left
    simp only [Bool.or_eq_true, Bool.and_eq_true, decide_eq_true_eq] at below
    refine ⟨rfl, by omega, fun _ level => ?_⟩
    omega
  · right
    simp only [Bool.or_eq_true, Bool.and_eq_true, decide_eq_true_eq, not_or, not_and] at below
    refine ⟨rfl, by omega, fun even level => ?_⟩
    have := below.2 ⟨level, even⟩
    omega

/-- How far away a multiple is, by its place among the two around the number. -/
theorem dist_multiple (positive : 0 < step) (n c : Nat) :
    (c < n / step ∧ n % step + step ≤ (c * step).dist n) ∨
    (c = n / step ∧ (c * step).dist n = n % step) ∨
    (c = n / step + 1 ∧ (c * step).dist n = step - n % step) ∨
    n / step + 1 < c ∧ step - n % step + step ≤ (c * step).dist n := by
  have parts : n / step * step + n % step = n := Nat.div_add_mod' n step
  have rest : n % step < step := Nat.mod_lt n positive
  have next : (n / step + 1) * step = n / step * step + step := Nat.succ_mul _ _
  unfold Nat.dist
  rcases Nat.lt_trichotomy c (n / step) with less | same | more
  · have below : (c + 1) * step ≤ n / step * step := Nat.mul_le_mul_right step less
    rw [Nat.succ_mul] at below
    omega
  · rw [same]
    omega
  · rcases Nat.lt_or_eq_of_le (Nat.succ_le_of_lt more) with beyond | same
    · have above : (n / step + 1 + 1) * step ≤ c * step := Nat.mul_le_mul_right step beyond
      rw [Nat.succ_mul] at above
      omega
    · rw [← same, Nat.succ_eq_add_one]
      omega

/-- Of the multiples below the number, or of all if it is in the first half, the one next to it
is nearest. -/
theorem floor_nearest (positive : 0 < step) (near : c ≤ n / step ∨ 2 * (n % step) ≤ step) :
    (n / step * step).dist n ≤ (c * step).dist n ∧
    ((c * step).dist n = (n / step * step).dist n →
      c = n / step ∨ c = n / step + 1 ∧ 2 * (n % step) = step) := by
  have rest : n % step < step := Nat.mod_lt n positive
  have here := dist_multiple positive n (n / step)
  have there := dist_multiple positive n c
  omega

/-- Of the multiples above the number, or of all if it is in the second half, the one next to it
is nearest. -/
theorem ceiling_nearest (positive : 0 < step) (near : n / step < c ∨ step ≤ 2 * (n % step)) :
    ((n / step + 1) * step).dist n ≤ (c * step).dist n ∧
    ((c * step).dist n = ((n / step + 1) * step).dist n →
      c = n / step + 1 ∨ c = n / step ∧ 2 * (n % step) = step) := by
  have rest : n % step < step := Nat.mod_lt n positive
  have here := dist_multiple positive n (n / step + 1)
  have there := dist_multiple positive n c
  omega

end Neighbours

section Hits
variable {x : Binary64} {tie : Tie} {n c j : Nat}

/-- A grid with a multiple that reads back has a hit, and the hit is nearest. If another multiple
is as near, the hit may be the even one. -/
theorem exists_hit (tie : Tie) (itself : readsBack x.magnitude n 0) (back : readsBack x.magnitude c j) :
    ∃ hit, onGrid? tie x.magnitude n j = some hit ∧
      (hit * 10 ^ j).dist n ≤ (c * 10 ^ j).dist n ∧
      (tie = .even → c ≠ hit → (c * 10 ^ j).dist n = (hit * 10 ^ j).dist n → hit % 2 = 0) := by
  have room : 0 < 10 ^ j := Nat.pow_pos (by decide)
  have floor (le : c ≤ n / 10 ^ j) : readsBack x.magnitude (n / 10 ^ j) j := by
    refine readsBack_between back itself (Nat.mul_le_mul_right _ le) ?_
    rw [pow_zero, mul_one]
    exact Nat.div_mul_le_self _ _
  have ceiling (less : n / 10 ^ j < c) : readsBack x.magnitude (n / 10 ^ j + 1) j := by
    refine readsBack_between itself back ?_ (Nat.mul_le_mul_right _ less)
    rw [pow_zero, mul_one]
    exact (Nat.lt_mul_of_div_lt (Nat.lt_succ_self _) room).le
  have step : Nat.pow 10 j = 10 ^ j := rfl
  have side : c ≤ n / 10 ^ j ∨ n / 10 ^ j < c := Nat.lt_or_ge _ _ |>.symm
  unfold onGrid?
  rw [step]
  rcases neighbours_cases tie n (10 ^ j) with ⟨around, half, level⟩ | ⟨around, half, level⟩
  all_goals
    rw [around]
    dsimp only
  · by_cases near : readsBack x.magnitude (n / 10 ^ j) j
    · obtain ⟨nearest, equal⟩ := floor_nearest room (c := c) (.inr half)
      rw [if_pos near]
      refine ⟨_, rfl, nearest, fun even other same => ?_⟩
      exact level even ((equal same).resolve_left other).2
    · have above := side.resolve_left fun le => near (floor le)
      obtain ⟨nearest, equal⟩ := ceiling_nearest room (.inl above)
      rw [if_neg near, if_pos (ceiling above)]
      refine ⟨_, rfl, nearest, fun _ other same => ?_⟩
      have := ((equal same).resolve_left other).1
      omega
  · by_cases near : readsBack x.magnitude (n / 10 ^ j + 1) j
    · obtain ⟨nearest, equal⟩ := ceiling_nearest room (c := c) (.inr half)
      rw [if_pos near]
      refine ⟨_, rfl, nearest, fun even other same => ?_⟩
      exact level even ((equal same).resolve_left other).2
    · have below := side.resolve_right fun less => near (ceiling less)
      obtain ⟨nearest, equal⟩ := floor_nearest room (.inl below)
      rw [if_neg near, if_pos (floor below)]
      refine ⟨_, rfl, nearest, fun _ other same => ?_⟩
      have := ((equal same).resolve_left other).1
      omega

theorem readsBack_of_onGrid? {magnitude : Nat} (found : onGrid? tie magnitude n j = some c) :
    readsBack magnitude c j := by
  simp only [onGrid?] at found
  split_ifs at found with near far
  · cases found
    exact near
  · cases found
    exact far

/-- A hit lies next to the number. -/
theorem le_of_onGrid? {magnitude : Nat} (found : onGrid? tie magnitude n j = some c) :
    c ≤ n / 10 ^ j + 1 := by
  have step : Nat.pow 10 j = 10 ^ j := rfl
  unfold onGrid? at found
  rw [step] at found
  rcases neighbours_cases tie n (10 ^ j) with ⟨around, _, _⟩ | ⟨around, _, _⟩
  all_goals
    rw [around] at found
    dsimp only at found
    split_ifs at found
    all_goals
      cases found
      omega

/-- The search gives a hit, and there is none on a coarser grid. -/
theorem search_spec {hit? : Nat → Option Nat} (last : hit? 0 = some n) (top : Nat) :
    ∃ c j, search hit? n top = (c, j) ∧ j ≤ top ∧ hit? j = some c ∧
      ∀ i, j < i → i ≤ top → hit? i = none := by
  induction top with
  | zero => exact ⟨n, 0, rfl, le_rfl, last, fun i above below => by omega⟩
  | succ top ih =>
    rw [search]
    cases found : hit? (top + 1) with
    | some c => exact ⟨c, top + 1, rfl, le_rfl, found, fun i above below => by omega⟩
    | none =>
      obtain ⟨c, j, ended, bound, hit, coarser⟩ := ih
      refine ⟨c, j, ended, by omega, hit, fun i above below => ?_⟩
      rcases Nat.lt_or_eq_of_le below with less | rfl
      · exact coarser i above (by omega)
      · exact found

theorem onGrid?_zero (tie : Tie) (itself : readsBack x.magnitude n 0) :
    onGrid? tie x.magnitude n 0 = some n := by
  have around : neighbours tie n (Nat.pow 10 0) = (n, n + 1) := by
    simp [neighbours, Nat.mod_one]
  rw [onGrid?, around]
  exact if_pos itself

end Hits

/-! ## The coarsest grid -/

/-- The search for a decimal of `n` places that is read as the double ends with `c` steps of
`10 ^ j`. No coarser grid has a multiple that reads back. -/
structure IsCoarsest (tie : Tie) (x : Binary64) (n c j : Nat) : Prop where
  hit : onGrid? tie x.magnitude n j = some c
  bound : j < width n
  coarser : ∀ i, j < i → i < width n → ∀ k, ¬ readsBack x.magnitude k i

section Coarsest
variable {x : Binary64} {tie : Tie} {n c j : Nat}

theorem exists_coarsest (tie : Tie) (itself : readsBack x.magnitude n 0) :
    ∃ c j, search (onGrid? tie x.magnitude n) n (digitCount n - 1) = (c, j) ∧
      IsCoarsest tie x n c j := by
  have room := width_pos n
  obtain ⟨c, j, ended, bound, hit, coarser⟩ :=
    search_spec (onGrid?_zero tie itself) (width n - 1)
  rw [digitCount_eq_width]
  refine ⟨c, j, ended, hit, by omega, fun i above below k back => ?_⟩
  obtain ⟨other, found, _⟩ := exists_hit tie itself back
  rw [coarser i above (by omega)] at found
  cases found

theorem readsBack_congr {magnitude a b i k : Nat} (same : a * 10 ^ i = b * 10 ^ k)
    (back : readsBack magnitude a i) : readsBack magnitude b k := by
  have moved : a * Nat.pow 10 i = b * Nat.pow 10 k := same
  unfold readsBack at back ⊢
  rw [← moved]
  exact back

theorem mul_ten_pow_sub (k : Nat) {i l : Nat} (le : l ≤ i) : k * 10 ^ i = k * 10 ^ (i - l) * 10 ^ l := by
  rw [mul_assoc, ← pow_add, Nat.sub_add_cancel le]

/-- The least number of as many digits lies between a smaller one and the double. -/
theorem readsBack_least {k i : Nat} (positive : 0 < n) (itself : readsBack x.magnitude n 0)
    (back : readsBack x.magnitude k i) (less : k * 10 ^ i < 10 ^ (width n - 1)) :
    readsBack x.magnitude 1 (width n - 1) := by
  refine readsBack_between back itself (by omega) ?_
  rw [one_mul, pow_zero, mul_one]
  exact ten_pow_le positive

namespace IsCoarsest
variable (coarsest : IsCoarsest tie x n c j)
include coarsest

theorem quotient_lt : n / 10 ^ j < 10 ^ (width n - j) := by
  rw [Nat.div_lt_iff_lt_mul (Nat.pow_pos (by decide)), ← pow_add,
    Nat.sub_add_cancel coarsest.bound.le]
  exact lt_ten_pow_width n

theorem width_le (e : Int) : width (trim c e).coefficient ≤ width n - j := by
  have bound := coarsest.bound
  have next := le_of_onGrid? coarsest.hit
  have quotient := coarsest.quotient_lt
  exact width_trim_le (by omega) (by omega) e

/-- No multiple on a coarser grid reads back, other than those on the grid of one digit. -/
theorem le_of_readsBack {k i : Nat} (back : readsBack x.magnitude k i) :
    i ≤ j ∨ j = width n - 1 := by
  by_contra finer
  have bound := coarsest.bound
  refine coarsest.coarser (min i (width n - 1)) (by omega) (by omega)
    (k * 10 ^ (i - min i (width n - 1))) (readsBack_congr ?_ back)
  exact mul_ten_pow_sub k (Nat.min_le_left _ _)

/-- Even steps leave an even coefficient or a power of ten. -/
theorem even_coefficient (even : c % 2 = 0) (e : Int) :
    (trim c e).coefficient % 2 = 0 ∨ (trim c e).coefficient = 1 := by
  by_cases zero : c % 10 = 0
  · have back := readsBack_of_onGrid? coarsest.hit
    have tenth : c * 10 ^ j = c / 10 * 10 ^ (j + 1) := by
      rw [pow_succ, mul_comm (10 ^ j), ← mul_assoc, Nat.div_mul_cancel (Nat.dvd_of_mod_eq_zero zero)]
    have oneDigit := (coarsest.le_of_readsBack (readsBack_congr tenth back)).resolve_left (by omega)
    have quotient := coarsest.quotient_lt
    have next := le_of_onGrid? coarsest.hit
    have bound := coarsest.bound
    have single : width n - j = 1 := by omega
    rw [single] at quotient
    have few : c = 0 ∨ c = 10 ^ 1 := by omega
    rcases few with rfl | rfl
    · left
      rw [trim]
      rfl
    · exact .inr (coefficient_trim_ten_pow 1 e)
  · left
    have nonzero : c ≠ 0 := fun none => zero (by rw [none])
    rw [trim, dif_neg nonzero, if_neg zero]
    exact even

variable (positive : 0 < n) (itself : readsBack x.magnitude n 0)
include positive itself

/-- No number with fewer digits is read as the double. -/
theorem fewest {k i : Nat} (back : readsBack x.magnitude k i) (e : Int) :
    width (trim c e).coefficient ≤ width k := by
  have bound := coarsest.bound
  have few := coarsest.width_le e
  have some := width_pos k
  by_cases less : k * 10 ^ i < 10 ^ (width n - 1)
  · have least := readsBack_least positive itself back less
    have := coarsest.le_of_readsBack least
    omega
  · have wide : 10 ^ (width n - 1) < 10 ^ (width k + i) := by
      rw [pow_add]
      exact (not_lt.mp less).trans_lt
        (Nat.mul_lt_mul_of_pos_right (lt_ten_pow_width k) (Nat.pow_pos (by decide)))
    have := (Nat.pow_lt_pow_iff_right (by decide)).mp wide
    have := coarsest.le_of_readsBack back
    omega

/-- No number with as many digits that is read as the double is nearer, and if another one is as
near, the steps may be even. -/
theorem nearest {k i : Nat} (back : readsBack x.magnitude k i) {e : Int}
    (few : width k ≤ width (trim c e).coefficient) :
    (c * 10 ^ j).dist n ≤ (k * 10 ^ i).dist n ∧
    (tie = .even → k * 10 ^ i ≠ c * 10 ^ j → (k * 10 ^ i).dist n = (c * 10 ^ j).dist n →
      c % 2 = 0) := by
  have bound := coarsest.bound
  have hits {l : Nat} (back : readsBack x.magnitude l j) := exists_hit tie itself back
  simp only [coarsest.hit, Option.some.injEq, exists_eq_left'] at hits
  rcases Nat.lt_or_ge i j with finer | coarser
  · -- On a finer grid so few digits reach only below the least number of the digits of `n`.
    have below : k * 10 ^ i < 10 ^ (width n - 1) := by
      refine (Nat.mul_lt_mul_of_pos_right (lt_ten_pow_width k) (Nat.pow_pos (by decide))).trans_le ?_
      rw [← pow_add]
      have := coarsest.width_le e
      exact Nat.pow_le_pow_right (by decide) (by omega)
    have least := readsBack_least positive itself back below
    have same : 1 * 10 ^ (width n - 1) = 1 * 10 ^ (width n - 1 - j) * 10 ^ j :=
      mul_ten_pow_sub 1 (by omega)
    obtain ⟨near, _⟩ := hits (readsBack_congr same least)
    rw [← same, one_mul] at near
    have reached := ten_pow_le positive
    unfold Nat.dist at near ⊢
    refine ⟨by omega, fun _ _ level => ?_⟩
    omega
  · have same := mul_ten_pow_sub k coarser
    obtain ⟨near, even⟩ := hits (readsBack_congr same back)
    rw [same]
    refine ⟨near, fun breaks other level => even breaks ?_ level⟩
    exact fun equal => other (congrArg (· * 10 ^ j) equal)

end IsCoarsest

end Coarsest

/-! ## The shortest decimal -/

/-- The decimal is read as the magnitude of the double, and none with fewer digits is. Of those
with as many it is nearest to the double, and if another one is as near, its last digit is even,
where a power of ten may have had a zero for its last digit. -/
structure IsShortest (d : Decimal) (x : Binary64) : Prop where
  back : Reads d.value x
  fewest : ∀ e : Decimal, Reads e.value x → width d.coefficient ≤ width e.coefficient
  nearest : ∀ e : Decimal, Reads e.value x → width e.coefficient = width d.coefficient →
    |d.value - x.absValue| ≤ |e.value - x.absValue|
  even : ∀ e : Decimal, Reads e.value x → width e.coefficient = width d.coefficient →
    e.value ≠ d.value → |e.value - x.absValue| = |d.value - x.absValue| →
      d.coefficient % 2 = 0 ∨ d.coefficient = 1
  zero : d.coefficient = 0 → d.exponent = 0

theorem exponent_trim_of_zero {c : Nat} {e : Int} (zero : (trim c e).coefficient = 0) :
    (trim c e).exponent = 0 := by
  fun_induction trim c e with
  | case1 => rfl
  | case2 c e _ _ ih => exact ih zero
  | case3 c e nonzero => exact absurd zero nonzero

section Finite
variable {x : Binary64}

/-- Between a decimal and a number of places lies a number of steps with no more digits than the
decimal, if it is not the decimal itself. -/
theorem exists_steps_between (e : Decimal) (n : Nat) : ∃ k i, width k ≤ width e.coefficient ∧
    (e.value ≤ steps k i ∧ steps k i ≤ steps n 0 ∨ steps n 0 ≤ steps k i ∧ steps k i ≤ e.value) := by
  rcases lt_or_ge (e.exponent + finest) 0 with finer | onGrid
  · obtain ⟨s, behind⟩ := Int.eq_ofNat_of_zero_le (Int.neg_nonneg_of_nonpos finer.le)
    have scale : (0 : ℚ) < 10 ^ finest := by positivity
    have value : e.value = (e.coefficient / 10 ^ s : ℚ) / 10 ^ finest := by
      have exponent : e.exponent = -(s : ℤ) - finest := by omega
      rw [Decimal.value, exponent, zpow_sub₀ (by norm_num), zpow_neg, zpow_natCast, zpow_natCast,
        ← mul_div_assoc, div_eq_mul_inv (e.coefficient : ℚ)]
    have room : 0 < 10 ^ s := Nat.pow_pos (by decide)
    have cast : (0 : ℚ) < 10 ^ s := by positivity
    rcases Nat.lt_or_ge (e.coefficient / 10 ^ s) n with below | above
    · refine ⟨e.coefficient / 10 ^ s + 1, 0, ?_, .inl ⟨?_, ?_⟩⟩
      · have ten : 10 ≤ 10 ^ s := Nat.le_self_pow (by omega) 10
        have part : e.coefficient / 10 ^ s * 10 ≤ e.coefficient :=
          (Nat.mul_le_mul_left _ ten).trans (Nat.div_mul_le_self _ _)
        rcases Nat.eq_zero_or_pos (e.coefficient / 10 ^ s) with none | some
        · rw [none]
          exact width_pos _
        · exact width_mono (by omega)
      · rw [value, steps, pow_zero, mul_one, div_le_div_iff_of_pos_right scale, div_le_iff₀ cast]
        exact_mod_cast (Nat.lt_mul_of_div_lt (Nat.lt_succ_self _) room).le
      · exact steps_le_iff.mpr (by simpa using Nat.succ_le_of_lt below)
    · refine ⟨e.coefficient / 10 ^ s, 0, width_mono (Nat.div_le_self _ _), .inr ⟨?_, ?_⟩⟩
      · exact steps_le_iff.mpr (by simpa using above)
      · rw [value, steps, pow_zero, mul_one, div_le_div_iff_of_pos_right scale, le_div_iff₀ cast]
        exact_mod_cast Nat.div_mul_le_self _ _
  · obtain ⟨i, place⟩ := Int.eq_ofNat_of_zero_le onGrid
    have exponent : (i : ℤ) - finest = e.exponent := by omega
    have same : steps e.coefficient i = e.value := by rw [steps_eq, exponent, Decimal.value]
    refine ⟨e.coefficient, i, le_rfl, ?_⟩
    rw [same]
    simpa using le_total e.value (steps n 0)

/-- What is nearer to a double is fewer places away. -/
theorem near_iff (x : Binary64) {a i b k : Nat} :
    |steps a i - x.absValue| ≤ |steps b k - x.absValue| ↔
      (a * 10 ^ i).dist (places x) ≤ (b * 10 ^ k).dist (places x) := by
  have scale : (0 : ℚ) < 10 ^ finest := by positivity
  have away (c j : Nat) :
      |steps c j - x.absValue| = ((c * 10 ^ j).dist (places x) : Nat) / 10 ^ finest := by
    rw [← steps_places, cast_dist, steps, steps, pow_zero, mul_one, ← sub_div, abs_div,
      abs_of_pos scale]
  rw [away, away, div_le_div_iff_of_pos_right scale, Nat.cast_le]

theorem value_nonneg (d : Decimal) : 0 ≤ d.value := by
  rw [value]
  positivity

theorem shortest_of_zero (tie : Tie) (zero : places x = 0) : shortest tie x = ⟨0, 0⟩ := by
  have oneDigit : width 0 = 1 := rfl
  rw [shortest, zero, digitCount_eq_width, oneDigit, search, ofSteps, trim]
  rfl

theorem exists_shortest_eq_ofSteps (tie : Tie) (finite : x.magnitude < infinityMagnitude) :
    ∃ c j, shortest tie x = ofSteps (c, j) ∧ IsCoarsest tie x (places x) c j := by
  obtain ⟨c, j, ended, coarsest⟩ := exists_coarsest tie (readsBack_places finite)
  exact ⟨c, j, congrArg ofSteps ended, coarsest⟩

/-- A decimal that is read as the double is a number of steps, or such a number with no more digits
is nearer. -/
theorem exists_steps_as_near (finite : x.magnitude < infinityMagnitude) {e : Decimal}
    (reads : Reads e.value x) : ∃ k i, readsBack x.magnitude k i ∧ width k ≤ width e.coefficient ∧
      (steps k i = e.value ∨ |steps k i - x.absValue| < |e.value - x.absValue|) := by
  obtain ⟨k, i, few, between⟩ := exists_steps_between e (places x)
  rw [steps_places] at between
  have itself := reads_absValue finite
  refine ⟨k, i, ?_, few, ?_⟩
  · rw [readsBack_iff]
    rcases between with ⟨above, below⟩ | ⟨above, below⟩
    · exact reads.between itself (value_nonneg e) above below
    · exact itself.between reads (div_nonneg (Nat.cast_nonneg _) (Nat.cast_nonneg _)) above below
  · rcases between with ⟨above, below⟩ | ⟨above, below⟩
    · rcases above.eq_or_lt with same | less
      · exact .inl same.symm
      · right
        rw [abs_of_nonpos (by linarith), abs_of_nonpos (by linarith)]
        linarith
    · rcases below.eq_or_lt with same | less
      · exact .inl same
      · right
        rw [abs_of_nonneg (by linarith), abs_of_nonneg (by linarith)]
        linarith

/-- The shortest decimal of a finite double is read as the double. -/
theorem reads_shortest (tie : Tie) (finite : x.magnitude < infinityMagnitude) :
    Reads (shortest tie x).value x := by
  obtain ⟨c, j, found, coarsest⟩ := exists_shortest_eq_ofSteps tie finite
  rw [found, value_ofSteps, ← steps_eq]
  exact readsBack_iff.mp (readsBack_of_onGrid? coarsest.hit)

theorem isShortest_of_zero (finite : x.magnitude < infinityMagnitude) (zero : places x = 0) :
    IsShortest (shortest .even x) x := by
  have nothing : x.absValue = 0 := by
    rw [← steps_places, zero, steps]
    simp
  have value : Decimal.value ⟨0, 0⟩ = 0 := by simp [Decimal.value]
  rw [shortest_of_zero .even zero]
  constructor
  case back =>
    rw [value, ← nothing]
    exact reads_absValue finite
  case fewest => exact fun e _ => width_mono (Nat.zero_le _)
  case nearest =>
    intro e _ _
    rw [value, nothing, sub_zero, abs_zero]
    exact abs_nonneg _
  case even => exact fun _ _ _ _ _ => .inl rfl
  case zero => exact fun _ => rfl

/-- The shortest decimal of a finite double is shortest. -/
theorem isShortest_shortest (finite : x.magnitude < infinityMagnitude) :
    IsShortest (shortest .even x) x := by
  rcases Nat.eq_zero_or_pos (places x) with zero | positive
  · exact isShortest_of_zero finite zero
  · have itself := readsBack_places finite
    obtain ⟨c, j, found, coarsest⟩ := exists_shortest_eq_ofSteps .even finite
    have counted : (shortest .even x).value = steps c j := by rw [found, value_ofSteps, steps_eq]
    constructor
    case back => exact reads_shortest .even finite
    case fewest =>
      intro e reads
      obtain ⟨k, i, back, few, _⟩ := exists_steps_as_near finite reads
      rw [found]
      exact (coarsest.fewest positive itself back _).trans few
    case nearest =>
      intro e reads same
      obtain ⟨k, i, back, few, closer⟩ := exists_steps_as_near finite reads
      rw [found] at same
      have nearest := (near_iff x).mpr (coarsest.nearest positive itself back (few.trans same.le)).1
      rw [counted]
      rcases closer with equal | less
      · rwa [← equal]
      · exact nearest.trans less.le
    case even =>
      intro e reads same other level
      obtain ⟨k, i, back, few, closer⟩ := exists_steps_as_near finite reads
      rw [found] at same
      rw [counted] at other level
      obtain ⟨nearest, even⟩ := coarsest.nearest positive itself back (few.trans same.le)
      rcases closer with equal | less
      · rw [found]
        rw [← equal] at other level
        refine coarsest.even_coefficient (even rfl (fun moved => other ?_) ?_) _
        · rw [steps, steps, moved]
        · exact Nat.le_antisymm ((near_iff x).mp level.le) nearest
      · exact absurd level (less.trans_le' ((near_iff x).mpr nearest)).ne'
    case zero =>
      rw [found]
      exact exponent_trim_of_zero

end Finite

end ValueOrder.Decimal
