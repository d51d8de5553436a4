import Mathlib.Algebra.Group.Nat.Defs
import Mathlib.Tactic.SplitIfs
import ValueOrder.Comparison
import ValueOrder.Proofs.Order.Meeting
import ValueOrder.Proofs.Order.Scalars

/-!
# Texts by code point

Texts are compared by their bytes, and this is the order of their code points. A character
is encoded as a leading byte, which tells how many bytes follow, and as the last digits of
its code point to base 64. So the smaller of two characters has the smaller byte at the
first place where their bytes differ, and neither encoding is the beginning of the other.
-/

namespace ValueOrder

namespace Text

/-! ## The first difference of two lists of bytes -/

/-- At the first place where two lists of bytes differ both have a byte, and the first list
has the smaller one. -/
inductive Undercuts : List UInt8 → List UInt8 → Prop where
  | here {a b : UInt8} (below : a < b) (s t : List UInt8) : Undercuts (a :: s) (b :: t)
  | later (a : UInt8) {s t : List UInt8} (rest : Undercuts s t) : Undercuts (a :: s) (a :: t)

theorem Undercuts.append {s t : List UInt8} (undercuts : Undercuts s t) (u v : List UInt8) :
    Undercuts (s ++ u) (t ++ v) := by
  induction undercuts with
  | here below s t => exact .here below (s ++ u) (t ++ v)
  | later a _ ih => exact .later a ih

theorem Undercuts.after {s t : List UInt8} (undercuts : Undercuts s t) (common : List UInt8) :
    Undercuts (common ++ s) (common ++ t) := by
  induction common with
  | nil => exact undercuts
  | cons a common ih => exact .later a ih

theorem compareBytes_of_undercuts {s t : List UInt8} (undercuts : Undercuts s t) :
    compareBytes s t = .lt := by
  induction undercuts with
  | here below s t => simp [compareBytes, Std.compare_eq_lt.mpr below]
  | later a _ ih => simp [compareBytes, ih]

theorem compareBytes_append_left (common s t : List UInt8) :
    compareBytes (common ++ s) (common ++ t) = compareBytes s t := by
  induction common with
  | nil => rfl
  | cons a common ih => simp [compareBytes, ih]

theorem compareBytes_swap (s t : List UInt8) : compareBytes t s = (compareBytes s t).swap := by
  rw [compareBytes_eq_compareLex, compareBytes_eq_compareLex]
  exact Std.OrientedCmp.eq_swap

/-! ## The bytes of a character -/

/-- How many bytes follow the leading byte of a code point. -/
def followers (n : Nat) : Nat :=
  if n ≤ 0x7F then 0 else if n ≤ 0x7FF then 1 else if n ≤ 0xFFFF then 2 else 3

/-- The bits by which a leading byte tells how many bytes follow. -/
def mark : Nat → Nat
  | 0 => 0
  | 1 => 0xC0
  | 2 => 0xE0
  | _ => 0xF0

def leading (n : Nat) : Nat := mark (followers n) + n / 64 ^ followers n

/-- The last digits of a number to base 64, as bytes that follow a leading one. -/
def lastDigits : (count : Nat) → Nat → List UInt8
  | 0, _ => []
  | count + 1, n => lastDigits count (n / 64) ++ [.ofNat (0x80 + n % 64)]

theorem toNat_le_last (c : Char) : c.toNat ≤ 0x10FFFF := by
  have below : c.toNat < 0xD800 ∨ 0xDFFF < c.toNat ∧ c.toNat < 0x110000 := c.valid
  omega

theorem utf8EncodeChar_eq (c : Char) : String.utf8EncodeChar c =
    .ofNat (leading c.toNat) :: lastDigits (followers c.toNat) c.toNat := by
  have last := toNat_le_last c
  have value : c.val.toNat = c.toNat := rfl
  rw [String.utf8EncodeChar, value, leading, followers]
  split_ifs
  · simp [mark, lastDigits]
  · have high : c.toNat / 64 % 32 + 0xC0 = 0xC0 + c.toNat / 64 := by omega
    simp [mark, lastDigits, high, Nat.add_comm]
  · have high : c.toNat / 4096 % 16 + 0xE0 = 0xE0 + c.toNat / 4096 := by omega
    simp [mark, lastDigits, high, Nat.add_comm]
  · have high : c.toNat / 262144 % 8 + 0xF0 = 0xF0 + c.toNat / 262144 := by omega
    simp [mark, lastDigits, high, Nat.add_comm, Nat.div_div_eq_div_mul]

theorem ofNat_lt_ofNat {m n : Nat} (below : m < n) (byte : n < 256) :
    UInt8.ofNat m < UInt8.ofNat n := by
  rw [UInt8.lt_iff_toNat_lt, UInt8.toNat_ofNat', UInt8.toNat_ofNat']
  omega

theorem leading_lt_byte {n : Nat} (last : n ≤ 0x10FFFF) : leading n < 256 := by
  rw [leading, followers]
  split_ifs
  all_goals
    simp only [mark]
    omega

theorem followers_le {m n : Nat} (below : m < n) : followers m ≤ followers n := by
  simp only [followers]
  split_ifs
  all_goals omega

/-- A leading byte is less than every one in front of more bytes. -/
theorem leading_lt_of_followers_lt {m n : Nat} (fewer : followers m < followers n) :
    leading m < leading n := by
  simp only [leading, followers] at fewer ⊢
  split_ifs at fewer ⊢
  all_goals
    simp only [mark]
    omega

/-- Of numbers that agree before their last digits the smaller has the smaller digits. -/
theorem undercuts_lastDigits {count m n : Nat} (below : m < n)
    (agree : m / 64 ^ count = n / 64 ^ count) :
    Undercuts (lastDigits count m) (lastDigits count n) := by
  induction count generalizing m n with
  | zero =>
    simp only [Nat.pow_zero, Nat.div_one] at agree
    omega
  | succ count ih =>
    rw [lastDigits, lastDigits]
    by_cases same : m / 64 = n / 64
    · rw [same]
      have digit : UInt8.ofNat (0x80 + m % 64) < .ofNat (0x80 + n % 64) :=
        ofNat_lt_ofNat (by omega) (by omega)
      exact Undercuts.after (.here digit [] []) _
    · rw [Nat.pow_succ', ← Nat.div_div_eq_div_mul, ← Nat.div_div_eq_div_mul] at agree
      exact (ih (by omega) agree).append _ _

theorem undercuts_utf8EncodeChar {c d : Char} (below : c.toNat < d.toNat) :
    Undercuts (String.utf8EncodeChar c) (String.utf8EncodeChar d) := by
  have byte := leading_lt_byte (toNat_le_last d)
  rw [utf8EncodeChar_eq, utf8EncodeChar_eq]
  by_cases fewer : followers c.toNat < followers d.toNat
  · exact .here (ofNat_lt_ofNat (leading_lt_of_followers_lt fewer) byte) _ _
  · have same : followers c.toNat = followers d.toNat := by
      have := followers_le below
      omega
    rw [leading, leading, same]
    rw [leading] at byte
    -- The characters are equally long, so either the leading digit or a later one differs.
    by_cases agree : c.toNat / 64 ^ followers d.toNat = d.toNat / 64 ^ followers d.toNat
    · rw [agree]
      exact .later _ (undercuts_lastDigits below agree)
    · have atMost := Nat.div_le_div_right (c := 64 ^ followers d.toNat) (Nat.le_of_lt below)
      exact .here (ofNat_lt_ofNat (by omega) byte) _ _

/-- Characters decide by their code points, and equal ones leave it to what follows. -/
theorem compareBytes_utf8EncodeChar_append (c d : Char) (s t : List UInt8) :
    compareBytes (String.utf8EncodeChar c ++ s) (String.utf8EncodeChar d ++ t) =
      (compare c.toNat d.toNat).then (compareBytes s t) := by
  rcases Nat.lt_trichotomy c.toNat d.toNat with below | same | above
  · rw [compareBytes_of_undercuts ((undercuts_utf8EncodeChar below).append s t),
      Nat.compare_eq_lt.mpr below]
    rfl
  · rw [Char.toNat_inj.mp same, compareBytes_append_left, Std.compare_self]
    rfl
  · rw [compareBytes_swap, compareBytes_of_undercuts ((undercuts_utf8EncodeChar above).append t s),
      Nat.compare_eq_gt.mpr above]
    rfl

/-! ## Whole texts -/

/-- The code points of a text. -/
def codePoints (s : String) : List Nat := s.toList.map Char.toNat

theorem codePoints_inj {s t : String} : codePoints s = codePoints t ↔ s = t := by
  rw [codePoints, codePoints, ← String.toList_inj]
  exact (List.map_injective_iff.mpr fun _ _ => Char.toNat_inj.mp).eq_iff

theorem compareBytes_flatMap (s t : List Char) :
    compareBytes (s.flatMap String.utf8EncodeChar) (t.flatMap String.utf8EncodeChar) =
      compare (s.map Char.toNat) (t.map Char.toNat) := by
  induction s generalizing t with
  | nil =>
    cases t with
    | nil => rfl
    | cons d t =>
      rw [List.flatMap_cons, utf8EncodeChar_eq]
      rfl
  | cons c s ih =>
    cases t with
    | nil =>
      rw [List.flatMap_cons, utf8EncodeChar_eq]
      rfl
    | cons d t =>
      rw [List.flatMap_cons, List.flatMap_cons, compareBytes_utf8EncodeChar_append, ih,
        List.compare_eq_compareLex]
      exact List.compareLex_cons_cons.symm

theorem order_eq_compare_codePoints (s t : String) :
    order s t = .ofOrdering (compare (codePoints s) (codePoints t)) := by
  rw [order, bytes, bytes, compareBytes_flatMap]
  rfl

/-- The bytes of a text are its UTF-8 encoding. -/
theorem bytes_eq_toUTF8 (s : String) : bytes s = s.toUTF8.data.toList := by
  rw [String.toUTF8_eq_toByteArray, ← String.utf8Encode_toList, bytes, List.utf8Encode]
  simp

/-! ## The spelled-out order of lists -/

/-- The first list comes before the second: it is a proper beginning of it, or it has the
smaller number at the first place where they differ. -/
def Precedes (xs ys : List Nat) : Prop :=
  (xs <+: ys ∧ xs ≠ ys) ∨
    ∃ common x y u v, xs = common ++ x :: u ∧ ys = common ++ y :: v ∧ x < y

theorem precedes_cons {xs ys : List Nat} (x : Nat) (precedes : Precedes xs ys) :
    Precedes (x :: xs) (x :: ys) := by
  rcases precedes with ⟨beginning, proper⟩ | ⟨common, a, b, u, v, rfl, rfl, below⟩
  · refine .inl ⟨(List.prefix_cons_inj x).mpr beginning, ?_⟩
    simpa using proper
  · exact .inr ⟨x :: common, a, b, u, v, rfl, rfl, below⟩

theorem compare_append_left (common xs ys : List Nat) :
    compare (common ++ xs) (common ++ ys) = compare xs ys := by
  induction common with
  | nil => rfl
  | cons a common ih => simpa [List.compare_eq_compareLex, List.compareLex_cons_cons] using ih

theorem compare_eq_lt_iff_precedes {xs ys : List Nat} : compare xs ys = .lt ↔ Precedes xs ys := by
  constructor
  · intro less
    induction xs generalizing ys with
    | nil =>
      cases ys with
      | nil => cases less
      | cons y ys => exact .inl ⟨List.nil_prefix, nofun⟩
    | cons x xs ih =>
      cases ys with
      | nil => cases less
      | cons y ys =>
        rw [List.compare_eq_compareLex, List.compareLex_cons_cons, Ordering.then_eq_lt] at less
        rcases less with below | ⟨same, rest⟩
        · exact .inr ⟨[], x, y, xs, ys, rfl, rfl, Nat.compare_eq_lt.mp below⟩
        · rw [Nat.compare_eq_eq.mp same]
          exact precedes_cons y (ih rest)
  · rintro (⟨⟨rest, rfl⟩, proper⟩ | ⟨common, x, y, u, v, rfl, rfl, below⟩)
    · cases rest with
      | nil => simp at proper
      | cons y rest =>
        have longer := compare_append_left xs [] (y :: rest)
        rw [List.append_nil] at longer
        rw [longer]
        rfl
    · rw [compare_append_left, List.compare_eq_compareLex, List.compareLex_cons_cons,
        Nat.compare_eq_lt.mpr below]
      rfl

theorem order_eq_equal_iff {s t : String} : order s t = .equal ↔ s = t := by
  have same : compare (codePoints s) (codePoints t) = .eq ↔ codePoints s = codePoints t :=
    Std.compare_eq_iff_eq
  rw [order_eq_compare_codePoints, ← codePoints_inj, ← same]
  cases compare (codePoints s) (codePoints t) <;> simp [Outcome.ofOrdering]

end Text

namespace Comparison
open Text (codePoints Precedes)

/-- Two texts always have an outcome, and it is that of their UTF-8 bytes and that of their
code points, each compared from the first to the last. The first text is less exactly if its
code points are a proper beginning of those of the second, or if it has the smaller code
point at the first place where they differ. -/
theorem texts_order_by_code_point (s t : String) :
    ∃ outcome, (order (.text s) (.text t)).result = .ok outcome ∧ outcome ≠ .unordered ∧
      outcome = .ofOrdering (compare s.toUTF8.data.toList t.toUTF8.data.toList) ∧
      outcome = .ofOrdering (compare (codePoints s) (codePoints t)) ∧
      (outcome = .less ↔ Precedes (codePoints s) (codePoints t)) ∧
      (outcome = .equal ↔ codePoints s = codePoints t) ∧
      (outcome = .greater ↔
        ¬ Precedes (codePoints s) (codePoints t) ∧ codePoints s ≠ codePoints t) := by
  have ordered : (order (.text s) (.text t)).result = .ok (Text.order s t) :=
    result_order_eq_ok_iff.mpr (Value.order_texts s t)
  have bytewise : Text.order s t =
      .ofOrdering (compare s.toUTF8.data.toList t.toUTF8.data.toList) := by
    rw [← Text.bytes_eq_toUTF8, ← Text.bytes_eq_toUTF8]
    exact Text.order_eq_compareLex s t
  refine ⟨Text.order s t, ordered, Text.order_ne_unordered s t, bytewise,
    Text.order_eq_compare_codePoints s t, ?_⟩
  have same : codePoints s = codePoints t ↔ compare (codePoints s) (codePoints t) = .eq :=
    Std.compare_eq_iff_eq.symm
  rw [← Text.compare_eq_lt_iff_precedes, ne_eq, same, Text.order_eq_compare_codePoints]
  cases compare (codePoints s) (codePoints t) <;> simp [Outcome.ofOrdering]

-- The first character has the smaller code point, though its first UTF-16 unit is the greater.
example : Text.order "\uffff" "😀" = .less := by decide

end Comparison

end ValueOrder
