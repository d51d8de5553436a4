import ValueOrder.Proofs.Reading.Documents
import ValueOrder.Proofs.Rounding.Exact
import ValueOrder.Value.OfJson

/-!
# Values as texts

A value whose numbers are integers of at most `2 ^ 53`, infinities, NaNs or minus zero
can be written in many ways: texts may escape any of their characters, and blanks may
stand between tokens. All of them are read back as the value. Only NaNs lose something,
since there is one way to write them all.
-/

namespace ValueOrder.Value

open Json

/-! ## Spelling -/

/-- The names of the numbers that have no literal. -/
inductive IsNamed : Binary64 → String → Prop where
  | nan {x : Binary64} (nan : x.isNaN) : IsNamed x "nan"
  | infinity : IsNamed .infinity "inf"
  | negInfinity : IsNamed .negInfinity "-inf"
  | negZero : IsNamed .negZero "-0"

/-- A part of a written value. -/
inductive Portion where
  | value (v : Value)
  /-- A value with blanks around it. -/
  | element (v : Value)
  /-- The elements of a list that is not empty. -/
  | elements (items : List Value)

/-- The ways to write a part of a value in which so many levels may be opened. -/
inductive Writes : Portion → Nat → List Char → Prop where
  | boolean {n : Nat} (b : Bool) : Writes (.value (.boolean b)) n (Json.boolWord b).toList
  | integer {n : Nat} {x : Binary64} {k : Int} (equal : x.IsInteger k) (bound : k.natAbs ≤ Nat.pow 2 53) :
      Writes (.value (.number x)) n (toString k).toList
  | named {n : Nat} {x : Binary64} {name : String} {w₁ key w₂ w₃ text w₄ : List Char}
      (named : IsNamed x name) (keyed : QuotedText "number" key) (written : QuotedText name text)
      (blank₁ : Blank w₁) (blank₂ : Blank w₂) (blank₃ : Blank w₃) (blank₄ : Blank w₄) :
      Writes (.value (.number x)) (n + 1)
        ('\x7b' :: (w₁ ++ (key ++ (w₂ ++ ':' :: (w₃ ++ (text ++ w₄)))) ++ ['\x7d']))
  | text {n : Nat} {s : String} {t : List Char} (written : QuotedText s t) :
      Writes (.value (.text s)) n t
  | emptyList {n : Nat} {w : List Char} (blank : Blank w) :
      Writes (.value (.list [])) (n + 1) ('[' :: (w ++ [']']))
  | list {n : Nat} {items : List Value} {t : List Char} (inside : Writes (.elements items) n t) :
      Writes (.value (.list items)) (n + 1) ('[' :: (t ++ [']']))
  | element {n : Nat} {v : Value} {w t w' : List Char} (before : Blank w)
      (inside : Writes (.value v) n t) (after : Blank w') : Writes (.element v) n (w ++ (t ++ w'))
  | lastElement {n : Nat} {v : Value} {t : List Char} (last : Writes (.element v) n t) :
      Writes (.elements [v]) n t
  | nextElement {n : Nat} {v : Value} {items : List Value} {t u : List Char}
      (first : Writes (.element v) n t) (rest : Writes (.elements items) n u) :
      Writes (.elements (v :: items)) n (t ++ ',' :: u)

/-! ## Reading -/

mutual

/-- The value with every NaN in it replaced by the same one. -/
def oneNaN : Value → Value
  | .number x => .number (if x.isNaN then .nan else x)
  | .boolean b => .boolean b
  | .text s => .text s
  | .list items => .list (oneNaNItems items)

/-- The values of a list with every NaN in them replaced by the same one. -/
def oneNaNItems : List Value → List Value
  | [] => []
  | v :: rest => oneNaN v :: oneNaNItems rest

end

theorem oneNaN_number_of_finite {x : Binary64} (finite : x.magnitude < Binary64.infinityMagnitude) :
    oneNaN (.number x) = .number x := by
  have notNaN : x.isNaN = false := decide_eq_false (Nat.not_lt_of_lt finite)
  simp [oneNaN, notNaN]

/-- An object with a named number under its only key is that number. -/
theorem ofJson_named {x : Binary64} {name : String} (named : IsNamed x name) :
    ofJson (.object [("number", .text name)]) = .ok (oneNaN (.number x)) := by
  cases named with
  | nan nan => simp [ofJson, numberObject?, namedNumber?, merged, insertMember, oneNaN, nan]
  | infinity => rfl
  | negInfinity => rfl
  | negZero => rfl

/-- A part of a written value is a part of a document that converts to the value. -/
def Portion.IsSpelled : Portion → Nat → List Char → Prop
  | .value v, n, t => ∃ j, Spells (.value (some j)) n t ∧ ofJson j = .ok v.oneNaN
  | .element v, n, t => ∃ j, Spells (.element (some j)) n t ∧ ofJson j = .ok v.oneNaN
  | .elements items, n, t =>
    ∃ js, Spells (.elements (some js)) n t ∧ ofJsonItems js = .ok (oneNaNItems items)

theorem boolean_mem_keywords (b : Bool) : (Json.boolean b, Json.boolWord b) ∈ keywords := by
  cases b <;> simp [keywords, Json.boolWord]

theorem integer_isSpelled {x : Binary64} {k : Int} (equal : x.IsInteger k)
    (bound : k.natAbs ≤ Nat.pow 2 53) (n : Nat) :
    Portion.IsSpelled (.value (.number x)) n (toString k).toList := by
  have small : k.natAbs ≤ 0x20000000000000 := bound
  obtain ⟨l, literal, number⟩ := exists_literal_of_int (k := k) (by omega) (by omega)
  refine ⟨.number (.integer k), ?_, ?_⟩
  · simpa [number, Except.toOption] using Spells.number (n := n) literal
  · rw [oneNaN_number_of_finite equal.finite, ofJson, JsonNumber.toBinary64,
      Binary64.ofInt_of_isInteger equal]

theorem named_isSpelled {x : Binary64} {name : String} {w₁ key w₂ w₃ text w₄ : List Char}
    (named : IsNamed x name) (keyed : QuotedText "number" key) (written : QuotedText name text)
    (blank₁ : Blank w₁) (blank₂ : Blank w₂) (blank₃ : Blank w₃) (blank₄ : Blank w₄) (n : Nat) :
    Portion.IsSpelled (.value (.number x)) (n + 1)
      ('\x7b' :: (w₁ ++ (key ++ (w₂ ++ ':' :: (w₃ ++ (text ++ w₄)))) ++ ['\x7d'])) := by
  have element : Spells (.element (some (.text name))) n (w₃ ++ (text ++ w₄)) :=
    .element blank₃ (.quoted written) blank₄
  exact ⟨.object [("number", .text name)],
    .object (.lastMember (.memberOfKey blank₁ keyed blank₂ element)), ofJson_named named⟩

/-- Every part of a written value is a part of a document that converts to the value. -/
theorem Writes.isSpelled {part : Portion} {n : Nat} {t : List Char} (written : Writes part n t) :
    part.IsSpelled n t := by
  induction written with
  | boolean b => exact ⟨.boolean b, .keyword (boolean_mem_keywords b), rfl⟩
  | integer equal bound => exact integer_isSpelled equal bound _
  | named named keyed written blank₁ blank₂ blank₃ blank₄ =>
    exact named_isSpelled named keyed written blank₁ blank₂ blank₃ blank₄ _
  | text written => exact ⟨_, .quoted written, rfl⟩
  | emptyList blank => exact ⟨.array [], .emptyArray blank, rfl⟩
  | list _ ih =>
    obtain ⟨js, spelled, converted⟩ := ih
    exact ⟨.array js, .array spelled, by simp [ofJson, converted, oneNaN, Except.map]⟩
  | element before _ after ih =>
    obtain ⟨j, spelled, converted⟩ := ih
    exact ⟨j, .element before spelled after, converted⟩
  | lastElement _ ih =>
    obtain ⟨j, spelled, converted⟩ := ih
    exact ⟨[j], .lastElement spelled,
      ofJsonItems_cons_eq_ok_iff.mpr ⟨_, _, converted, rfl, rfl⟩⟩
  | nextElement _ _ first rest =>
    obtain ⟨j, spelled, converted⟩ := first
    obtain ⟨js, spelledRest, convertedRest⟩ := rest
    exact ⟨j :: js, .nextElement spelled spelledRest,
      ofJsonItems_cons_eq_ok_iff.mpr ⟨_, _, converted, convertedRest, rfl⟩⟩

/-- A text that follows the grammar is the value that its document converts to. -/
theorem toOption_ofJsonText {text : String} {o : Option Json} {n : Nat} (fits : n ≤ maxLevels)
    (spelled : Spells (.element o) n text.toList) :
    (ofJsonText text).toOption = o.bind fun j => (ofJson j).toOption := by
  rw [← toOption_ofText fits spelled, ofJsonText]
  cases ofText text <;> rfl

theorem read_literal_iff {s : String} {l : Literal} {v : Value} (written : LiteralText l s.toList) :
    ofJsonText s = .ok v ↔ ∃ j, l.number = .ok j ∧ v = .number j.toBinary64 := by
  have spelled : Spells (.element (l.number.toOption.map .number)) maxLevels s.toList :=
    (Spells.number written).bare
  rw [← toOption_eq_some_iff, toOption_ofJsonText (Nat.le_refl maxLevels) spelled]
  cases l.number with
  | error unread => simp [Except.toOption]
  | ok j => simp [Except.toOption, ofJson, eq_comm]

/-- However a value is written, with at most 127 lists and number objects inside each
other and blanks wherever they are allowed, the text is read as the value. -/
theorem every_spelling_is_read {v : Value} {text : String}
    (written : Writes (.element v) 127 text.toList) : ofJsonText text = .ok v.oneNaN := by
  obtain ⟨j, spelled, converted⟩ := written.isSpelled
  rw [← toOption_eq_some_iff, toOption_ofJsonText (Nat.le_refl maxLevels) spelled]
  exact toOption_eq_some_iff.mpr converted

/-- An integer before a blank, a named number with an escape in its name, and a character
beyond `U+FFFF` written as a pair. -/
theorem spelled_list_is_read :
    ofJsonText "[-2 ,\x7b\"number\":\"-\\u0030\"\x7d,\"\\uD83D\\uDE00\"]" =
      .ok (.list [.number ⟨0xC000000000000000⟩, .number .negZero, .text "😀"]) := by
  have integer : Binary64.IsInteger ⟨0xC000000000000000⟩ (-2) :=
    ⟨by decide, by decide +kernel, by decide⟩
  have first : Writes (.element (.number ⟨0xC000000000000000⟩)) 126 "-2 ".toList :=
    .element blank_nil (.integer integer (by decide)) blank_space
  have key : QuotedText "number" "\"number\"".toList := .ofPlain (by decide)
  have zero : UnitText '0'.toNat ['0', '0', '3', '0'] :=
    .mk (p := 0) (q := 0) (r := 3) (s := 0) (.inl rfl) (.inl rfl) (.inl rfl) (.inl rfl)
  have escaped : CharsText ['-', '0'] ['-', '\\', 'u', '0', '0', '3', '0'] :=
    .cons (.plain (by decide)) (.cons (.unit zero) .nil)
  have name : QuotedText "-0" "\"-\\u0030\"".toList := .mk (s := "-0") escaped
  have second : Writes (.element (.number .negZero)) 126
      "\x7b\"number\":\"-\\u0030\"\x7d".toList :=
    .element blank_nil (.named .negZero key name blank_nil blank_nil blank_nil blank_nil) blank_nil
  have leading : UnitText 0xD83D ['D', '8', '3', 'D'] :=
    .mk (p := 13) (q := 8) (r := 3) (s := 13) (.inr rfl) (.inl rfl) (.inl rfl) (.inr rfl)
  have trailing : UnitText 0xDE00 ['D', 'E', '0', '0'] :=
    .mk (p := 13) (q := 14) (r := 0) (s := 0) (.inr rfl) (.inr rfl) (.inl rfl) (.inl rfl)
  have pair : CharsText ['😀'] ['\\', 'u', 'D', '8', '3', 'D', '\\', 'u', 'D', 'E', '0', '0'] :=
    .cons (.pair leading trailing (by decide) (by decide) (by decide)) .nil
  have astral : QuotedText "😀" "\"\\uD83D\\uDE00\"".toList := .mk (s := "😀") pair
  have third : Writes (.element (.text "😀")) 126 "\"\\uD83D\\uDE00\"".toList :=
    .element blank_nil (.text astral) blank_nil
  have written : Writes
      (.element (.list [.number ⟨0xC000000000000000⟩, .number .negZero, .text "😀"])) 127
      "[-2 ,\x7b\"number\":\"-\\u0030\"\x7d,\"\\uD83D\\uDE00\"]".toList :=
    .element blank_nil (.list (.nextElement first (.nextElement second (.lastElement third))))
      blank_nil
  exact every_spelling_is_read written

end ValueOrder.Value
