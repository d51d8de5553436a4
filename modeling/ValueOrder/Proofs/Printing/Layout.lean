import ValueOrder.Proofs.Printing.Canonical
import ValueOrder.Proofs.Reading.Documents
import ValueOrder.Proofs.Rendering.Shortest

/-!
# The form of compact documents

A compact document has no blanks and no escape that is not needed. Its doubles are shortest
decimals with a fraction or an exponent, and its objects have the value that counts under each
key, in the order of the keys. This is said of a text and a tree here, apart from the printer.
-/

namespace ValueOrder

/-! ## Doubles -/

namespace Layout

open Decimal (width)

/-- The ways to lay out a decimal. The point stands before the digits with up to four zeros in
between, or among the digits, or behind them with a zero as the fraction, as long as no more than
sixteen digits stand before it. Any other decimal has an exponent with its sign. -/
inductive DecimalText (d : Decimal) : List Char → Prop where
  | before {zeros : Nat} (few : zeros < 5) (place : width d.coefficient + d.exponent = -zeros) :
      DecimalText d ('0' :: '.' :: (List.replicate zeros '0' ++ Nat.toDigits 10 d.coefficient))
  | among {whole fraction : List Char} (digits : Nat.toDigits 10 d.coefficient = whole ++ fraction)
      (apart : whole ≠ [] ∧ fraction ≠ []) (place : d.exponent = -fraction.length)
      (few : whole.length ≤ 16) : DecimalText d (whole ++ '.' :: fraction)
  | behind {zeros : Nat} (place : d.exponent = zeros) (few : width d.coefficient + zeros ≤ 16) :
      DecimalText d (Nat.toDigits 10 d.coefficient ++ List.replicate zeros '0' ++ ['.', '0'])
  | scientific {first : Char} {others : List Char} {exponent : Int}
      (digits : Nat.toDigits 10 d.coefficient = first :: others)
      (place : exponent = others.length + d.exponent) (far : exponent < -5 ∨ 16 ≤ exponent) :
      DecimalText d (first :: ((if others = [] then [] else '.' :: others) ++
        'e' :: (if exponent < 0 then '-' else '+') :: Nat.toDigits 10 exponent.natAbs))

theorem decimalText_pointed (d : Decimal) (low : -5 < width d.coefficient + d.exponent)
    (high : width d.coefficient + d.exponent ≤ 16) :
    DecimalText d (pointed ".0" (Nat.toDigits 10 d.coefficient) (width d.coefficient + d.exponent)) := by
  unfold pointed
  split_ifs with before behind
  · obtain ⟨zeros, filled⟩ := Int.eq_ofNat_of_zero_le (Int.neg_nonneg_of_nonpos before)
    rw [filled]
    exact .before (by omega) (by omega)
  · have whole : (width d.coefficient : ℤ) ≤ width d.coefficient + d.exponent := behind
    obtain ⟨zeros, filled⟩ := Int.eq_ofNat_of_zero_le (a := d.exponent) (by omega)
    have missing : (width d.coefficient + d.exponent - (Nat.toDigits 10 d.coefficient).length).toNat =
        zeros := by
      change (width d.coefficient + d.exponent - (width d.coefficient : ℤ)).toNat = zeros
      omega
    rw [missing]
    exact .behind filled (by omega)
  · have inside : ¬ (width d.coefficient : ℤ) ≤ width d.coefficient + d.exponent := behind
    obtain ⟨point, place⟩ := Int.eq_ofNat_of_zero_le (a := width d.coefficient + d.exponent) (by omega)
    have length : (Nat.toDigits 10 d.coefficient).length = width d.coefficient := rfl
    rw [place]
    refine .among (List.take_append_drop point _).symm ⟨?_, ?_⟩ ?_ ?_
    · exact List.ne_nil_of_length_pos (by rw [List.length_take]; omega)
    · exact List.ne_nil_of_length_pos (by rw [List.length_drop]; omega)
    · rw [List.length_drop]
      omega
    · rw [List.length_take]
      omega

theorem decimalText_scientific (d : Decimal)
    (far : width d.coefficient + d.exponent ≤ -5 ∨ 16 < width d.coefficient + d.exponent) :
    DecimalText d
      (scientific (Nat.toDigits 10 d.coefficient) (width d.coefficient + d.exponent - 1)) := by
  cases digits : Nat.toDigits 10 d.coefficient with
  | nil => exact absurd digits Nat.toDigits_ne_nil
  | cons first others =>
    have length : width d.coefficient = others.length + 1 := congrArg List.length digits
    have laidOut : DecimalText d _ :=
      @DecimalText.scientific _ _ _ (width d.coefficient + d.exponent - 1) digits (by omega) (by omega)
    unfold scientific
    cases others with
    | nil => exact laidOut
    | cons second others => exact laidOut

/-- A decimal is laid out in one of these ways. -/
theorem decimalText_magnitudeText (d : Decimal) : DecimalText d (document.magnitudeText d) := by
  have length : ((Nat.toDigits 10 d.coefficient).length : ℤ) = width d.coefficient := rfl
  unfold magnitudeText
  dsimp only [document]
  rw [length]
  split_ifs with moderate
  · simp only [Bool.and_eq_true, decide_eq_true_eq] at moderate
    exact decimalText_pointed d moderate.1 moderate.2
  · simp only [Bool.and_eq_true, decide_eq_true_eq, not_and_or, not_lt, not_le] at moderate
    exact decimalText_scientific d moderate

end Layout

namespace Json

/-- The text of a double: the shortest decimal that is read as it, behind its sign. -/
inductive DoubleText (x : Binary64) : List Char → Prop where
  | mk {d : Decimal} {t : List Char} (shortest : d.IsShortest x) (laidOut : Layout.DecimalText d t) :
      DoubleText x (if x.isNegative then '-' :: t else t)

theorem doubleText_text {x : Binary64} (finite : x.magnitude < Binary64.infinityMagnitude) :
    DoubleText x (Layout.document.text x).toList := by
  have number : ¬ x.isNaN ∧ ¬ x.isInfinite := by
    simp only [Binary64.isNaN, Binary64.isInfinite, decide_eq_true_eq]
    omega
  rw [Layout.text, if_neg number.1, if_neg number.2, String.toList_ofList]
  exact .mk (Decimal.isShortest_shortest finite) (Layout.decimalText_magnitudeText _)

/-! ## Texts -/

/-- The least way to write one character between quotes. It stands for itself if it may, else it
is escaped by a letter if it has one, and else by its unit. -/
inductive LeastText : Char → List Char → Prop where
  | plain {c : Char} (plain : IsPlain c) : LeastText c [c]
  | short {letter c : Char} (other : ¬ IsPlain c) (escape : (letter, c) ∈ shortEscapes) :
      LeastText c ['\\', letter]
  | unit {c high low : Char} {h l : Nat} (other : ¬ IsPlain c)
      (noLetter : ∀ letter, (letter, c) ∉ shortEscapes) (unit : c.toNat = h * 16 + l)
      (digits : lowerHexDigits[h]? = some high ∧ lowerHexDigits[l]? = some low) :
      LeastText c ['\\', 'u', '0', '0', high, low]

/-- The least way to write a text, with its quotes. -/
inductive LeastQuoted : String → List Char → Prop where
  | mk {s : String} {ts : List (List Char)} (body : List.Forall₂ LeastText s.toList ts) :
      LeastQuoted s ('"' :: (ts.flatten ++ ['"']))

/-- The least way to write a character is a way to write it. -/
theorem LeastText.charText {c : Char} {t : List Char} (least : LeastText c t) : CharText c t := by
  cases least with
  | plain plain => exact .plain plain
  | short _ escape => exact .short escape
  | @unit _ _ _ h l _ _ unit digits =>
    have zero : IsHexDigit 0 '0' := .inl rfl
    have written := UnitText.mk zero zero (.inl digits.1) (.inl digits.2)
    have same : c.toNat = ((0 * 16 + 0) * 16 + h) * 16 + l := by omega
    rw [← same] at written
    exact .unit written

theorem charsText_of_leastTexts {cs : List Char} {ts : List (List Char)}
    (least : List.Forall₂ LeastText cs ts) : CharsText cs ts.flatten := by
  induction least with
  | nil => exact .nil
  | cons first _ ih => exact .cons first.charText ih

theorem LeastQuoted.quotedText {s : String} {t : List Char} (least : LeastQuoted s t) :
    QuotedText s t := by
  cases least with
  | mk body => exact .mk (charsText_of_leastTexts body)

theorem lowerHexDigits_hexChar {n : Nat} (digit : n < 16) :
    lowerHexDigits[n]? = some (hexChar n) := by
  have all : ∀ i : Fin 16, lowerHexDigits[i.val]? = some (hexChar i) := by decide
  exact all ⟨n, digit⟩

theorem leastText_escapedChar (c : Char) : LeastText c (escapedChar c) := by
  unfold escapedChar
  split
  · exact .short (by decide) (by decide)
  · exact .short (by decide) (by decide)
  · exact .short (by decide) (by decide)
  · exact .short (by decide) (by decide)
  · exact .short (by decide) (by decide)
  · exact .short (by decide) (by decide)
  · exact .short (by decide) (by decide)
  · next notQuote notSlash notBackspace notTab notLine notForm notReturn =>
    split_ifs with control
    · have small : c.toNat < 32 := Char.lt_def.mp control
      refine .unit (fun plain => by have := plain.1; omega) ?_ (h := c.toNat / 16) (by omega)
        ⟨lowerHexDigits_hexChar (by omega), lowerHexDigits_hexChar (by omega)⟩
      intro letter escape
      simp only [shortEscapes, List.mem_cons, Prod.mk.injEq, List.not_mem_nil, or_false] at escape
      rcases escape with ⟨_, rfl⟩ | ⟨_, rfl⟩ | ⟨_, rfl⟩ | ⟨_, rfl⟩ | ⟨_, rfl⟩ | ⟨_, rfl⟩ |
        ⟨_, rfl⟩ | ⟨_, rfl⟩
      all_goals simp_all
    · exact .plain ⟨Nat.le_of_not_lt fun low => control (Char.lt_def.mpr low), notQuote, notSlash⟩

theorem leastQuoted_textChars (s : String) : LeastQuoted s (textChars s) := by
  rw [textChars, List.flatMap_def]
  refine .mk ?_
  rw [List.forall₂_map_right_iff, List.forall₂_same]
  exact fun c _ => leastText_escapedChar c

/-! ## Documents -/

/-- A member without blanks, given the text of its value. -/
inductive MemberText : String × List Char → List Char → Prop where
  | mk {key : String} {k v : List Char} (quoted : LeastQuoted key k) :
      MemberText (key, v) (k ++ ':' :: v)

/-- The text of a tree without blanks. An object has a member for each of its keys, with the value
that counts, and the keys stand in the order of their bytes. Of doubles that are no numbers
nothing is said, for no document holds any. -/
inductive CompactText : Json → List Char → Prop where
  | keyword {j : Json} {word : String} (known : (j, word) ∈ keywords) : CompactText j word.toList
  | integer (n : Int) : CompactText (.number (.integer n)) (toString n).toList
  | double {x : Binary64} {t : List Char}
      (written : x.magnitude < Binary64.infinityMagnitude → DoubleText x t) :
      CompactText (.number (.double x)) t
  | text {s : String} {t : List Char} (quoted : LeastQuoted s t) : CompactText (.text s) t
  | array {items : List Json} {texts : List (List Char)}
      (elements : List.Forall₂ CompactText items texts) :
      CompactText (.array items) ('[' :: ([','].intercalate texts ++ [']']))
  | object {members : List (String × Json)} {values : List (String × List Char)}
      {texts : List (List Char)}
      (counts : ∀ key, Option.Rel CompactText (lastValue? members key) (values.lookup key))
      (sorted : values.Pairwise fun m m' => Text.order m.1 m'.1 = .less)
      (written : List.Forall₂ MemberText values texts) :
      CompactText (.object members) ('\x7b' :: ([','].intercalate texts ++ ['\x7d']))

theorem commaSeparated_eq_intercalate (entries : List (List Char)) :
    commaSeparated entries = [','].intercalate entries := by
  fun_induction commaSeparated entries with
  | case1 => rfl
  | case2 entry => simp
  | case3 entry next rest ih =>
    rw [ih]
    simp [List.intercalate]

/-- What the printer writes is the text of the tree. -/
theorem compactText_compactChars (j : Json) : CompactText j j.compactChars := by
  induction j using tree_induction with
  | null => exact .keyword (by simp [keywords])
  | boolean b => cases b <;> exact .keyword (by simp [keywords, boolWord])
  | number n =>
    cases n with
    | integer n => exact .integer n
    | double x => exact .double doubleText_text
  | text s => exact .text (leastQuoted_textChars s)
  | array items ih =>
    rw [compactChars, commaSeparated_eq_intercalate, compactItems_eq_map]
    refine .array ?_
    rw [List.forall₂_map_right_iff, List.forall₂_same]
    exact ih
  | object members ih =>
    rw [compactChars, commaSeparated_eq_intercalate, compactMembers_eq_map]
    have sorted := ascending_merged (members.map (Prod.map id compactChars))
    refine .object (fun key => ?_) (sorted.imp Text.lt_iff_order_eq_less.mp) ?_
    · rw [lookup_merged, lastValue?_map]
      cases found : lastValue? members key with
      | none => exact .none
      | some v => exact .some (ih _ (mem_of_lastValue? found))
    · rw [List.forall₂_map_right_iff, List.forall₂_same]
      exact fun m _ => .mk (leastQuoted_textChars m.1)

end Json

end ValueOrder
