import ValueOrder.Proofs.Reading.Steps

/-!
# Texts between quotes

A text is written as a row of pieces, each a character or a UTF-16 unit. The reader
takes any such row up to the closing quote and fails only where half of a surrogate
pair stands without the other.
-/

namespace ValueOrder.Json

/-! ## Spelling -/

/-- The digits of hexadecimal notation in lower case. -/
def lowerHexDigits : List Char :=
  ['0', '1', '2', '3', '4', '5', '6', '7', '8', '9', 'a', 'b', 'c', 'd', 'e', 'f']

/-- The digits of hexadecimal notation in upper case. -/
def upperHexDigits : List Char :=
  ['0', '1', '2', '3', '4', '5', '6', '7', '8', '9', 'A', 'B', 'C', 'D', 'E', 'F']

/-- The character is the hexadecimal digit of the number, in either case. -/
def IsHexDigit (n : Nat) (c : Char) : Prop :=
  lowerHexDigits[n]? = some c ∨ upperHexDigits[n]? = some c

/-- The four digits of a UTF-16 unit. -/
inductive UnitText : Nat → List Char → Prop where
  | mk {p q r s : Nat} {a b c d : Char} (first : IsHexDigit p a) (second : IsHexDigit q b)
      (third : IsHexDigit r c) (fourth : IsHexDigit s d) :
      UnitText (((p * 16 + q) * 16 + r) * 16 + s) [a, b, c, d]

/-- The letters that follow a backslash, each with the character that both stand for. -/
def shortEscapes : List (Char × Char) :=
  [('"', '"'), ('\\', '\\'), ('/', '/'), ('b', '\x08'), ('f', '\x0c'), ('n', '\n'), ('r', '\r'),
    ('t', '\t')]

/-- The character stands for itself between quotes. -/
def IsPlain (c : Char) : Prop := 0x20 ≤ c.toNat ∧ c ≠ '"' ∧ c ≠ '\\'

instance : DecidablePred IsPlain := fun c =>
  inferInstanceAs (Decidable (0x20 ≤ c.toNat ∧ c ≠ '"' ∧ c ≠ '\\'))

/-- The ways to write one character between quotes. -/
inductive CharText : Char → List Char → Prop where
  | plain {c : Char} (plain : IsPlain c) : CharText c [c]
  | short {letter c : Char} (escape : (letter, c) ∈ shortEscapes) : CharText c ['\\', letter]
  | unit {c : Char} {digits : List Char} (unit : UnitText c.toNat digits) :
      CharText c ('\\' :: 'u' :: digits)
  | pair {c : Char} {h l : Nat} {high low : List Char} (leading : UnitText h high)
      (trailing : UnitText l low) (isLeading : 0xD800 ≤ h ∧ h < 0xDC00)
      (isTrailing : 0xDC00 ≤ l ∧ l < 0xE000)
      (astral : c.toNat = 0x10000 + (h - 0xD800) * 0x400 + (l - 0xDC00)) :
      CharText c ('\\' :: 'u' :: (high ++ '\\' :: 'u' :: low))

/-- The ways to write the characters of a text between quotes. -/
inductive CharsText : List Char → List Char → Prop where
  | nil : CharsText [] []
  | cons {c : Char} {cs t ts : List Char} (first : CharText c t) (rest : CharsText cs ts) :
      CharsText (c :: cs) (t ++ ts)

/-- The ways to write a text, with its quotes. -/
inductive QuotedText : String → List Char → Prop where
  | mk {s : String} {t : List Char} (body : CharsText s.toList t) :
      QuotedText s ('"' :: (t ++ ['"']))

theorem CharsText.ofPlain {cs : List Char} (plain : cs.all fun c => IsPlain c) : CharsText cs cs := by
  induction cs with
  | nil => exact .nil
  | cons c cs ih =>
    simp only [List.all_cons, Bool.and_eq_true, decide_eq_true_eq] at plain
    exact .cons (.plain plain.1) (ih plain.2)

/-- A text of plain characters may stand as it is. -/
theorem QuotedText.ofPlain {s : String} (plain : s.toList.all fun c => IsPlain c) :
    QuotedText s ('"' :: (s.toList ++ ['"'])) :=
  .mk (.ofPlain plain)

/-! ## Rows of pieces -/

/-- What stands at one place between quotes. -/
inductive Piece where
  | char (c : Char)
  /-- An escape by unit, which may be half of a character. -/
  | unit (n : Nat)
  deriving DecidableEq, Repr

/-- The ways to write one piece. -/
inductive PieceText : Piece → List Char → Prop where
  | plain {c : Char} (plain : IsPlain c) : PieceText (.char c) [c]
  | short {letter c : Char} (escape : (letter, c) ∈ shortEscapes) :
      PieceText (.char c) ['\\', letter]
  | unit {n : Nat} {digits : List Char} (unit : UnitText n digits) :
      PieceText (.unit n) ('\\' :: 'u' :: digits)

/-- The ways to write a row of pieces. -/
inductive PiecesText : List Piece → List Char → Prop where
  | nil : PiecesText [] []
  | cons {p : Piece} {ps : List Piece} {t ts : List Char} (first : PieceText p t)
      (rest : PiecesText ps ts) : PiecesText (p :: ps) (t ++ ts)

/-- The characters that pieces stand for. Units of a surrogate pair have to stand side
by side. -/
def decode : List Piece → Option (List Char)
  | [] => some []
  | .char c :: ps => (decode ps).map (c :: ·)
  | .unit n :: ps =>
    if isTrailing n then none
    else if isLeading n then
      match ps with
      | .unit m :: ps => if isTrailing m then (decode ps).map (pairChar n m :: ·) else none
      | _ => none
    else (decode ps).map (.ofNat n :: ·)

/-- No character lies in the range that surrogate pairs use. -/
theorem toNat_not_surrogate (c : Char) : c.toNat < 0xD800 ∨ 0xDFFF < c.toNat := by
  rcases c.valid with below | ⟨above, _⟩
  · exact .inl below
  · exact .inr above

theorem decode_unit_of_char (c : Char) (ps : List Piece) :
    decode (.unit c.toNat :: ps) = (decode ps).map (c :: ·) := by
  have single : isTrailing c.toNat = false ∧ isLeading c.toNat = false := by
    have := toNat_not_surrogate c
    simp only [isTrailing, isLeading, Bool.and_eq_false_iff, decide_eq_false_iff_not]
    omega
  rw [decode.eq_def]
  simp [single, Char.ofNat_toNat]

theorem decode_pair {h l : Nat} (leading : 0xD800 ≤ h ∧ h < 0xDC00)
    (trailing : 0xDC00 ≤ l ∧ l < 0xE000) (ps : List Piece) :
    decode (.unit h :: .unit l :: ps) = (decode ps).map (pairChar h l :: ·) := by
  have first : isTrailing h = false ∧ isLeading h = true := by
    simp only [isTrailing, isLeading, Bool.and_eq_false_iff, Bool.and_eq_true,
      decide_eq_false_iff_not, decide_eq_true_eq]
    omega
  have second : isTrailing l = true := by
    simp only [isTrailing, Bool.and_eq_true, decide_eq_true_eq]
    omega
  simp [decode, first, second]

/-- However a text is written, it is written as pieces that stand for its characters. -/
theorem exists_pieces {cs t : List Char} (written : CharsText cs t) :
    ∃ ps, PiecesText ps t ∧ decode ps = some cs := by
  induction written with
  | nil => exact ⟨[], .nil, rfl⟩
  | @cons c cs t ts first _ ih =>
    obtain ⟨ps, pieces, decoded⟩ := ih
    cases first with
    | plain plain => exact ⟨.char c :: ps, .cons (.plain plain) pieces, by simp [decode, decoded]⟩
    | short escape => exact ⟨.char c :: ps, .cons (.short escape) pieces, by simp [decode, decoded]⟩
    | unit unit =>
      exact ⟨.unit c.toNat :: ps, .cons (.unit unit) pieces, by simp [decode_unit_of_char, decoded]⟩
    | @pair _ h l high low leading trailing isLeading isTrailing astral =>
      refine ⟨.unit h :: .unit l :: ps, ?_, ?_⟩
      · have both := PiecesText.cons (.unit leading) (.cons (.unit trailing) pieces)
        simpa using both
      · rw [decode_pair isLeading isTrailing, decoded, pairChar, ← astral, Char.ofNat_toNat]
        rfl

/-! ## Reading -/

theorem hexDigit?_of_isHexDigit {n : Nat} {c : Char} (digit : IsHexDigit n c) :
    hexDigit? c = some n := by
  have lower : ∀ i : Fin 16, hexDigit? lowerHexDigits[i] = some i.val := by decide
  have upper : ∀ i : Fin 16, hexDigit? upperHexDigits[i] = some i.val := by decide
  rcases digit with found | found
  · obtain ⟨inside, rfl⟩ := List.getElem?_eq_some_iff.mp found
    exact lower ⟨n, inside⟩
  · obtain ⟨inside, rfl⟩ := List.getElem?_eq_some_iff.mp found
    exact upper ⟨n, inside⟩

theorem takes_takeUnit {n : Nat} {digits : List Char} (unit : UnitText n digits) (s : List Char) :
    takes takeUnit (digits ++ s) = some (n, s) := by
  cases unit with
  | mk first second third fourth =>
    simp [takes, takeUnit, unitOf?, hexDigit?_of_isHexDigit first, hexDigit?_of_isHexDigit second,
      hexDigit?_of_isHexDigit third, hexDigit?_of_isHexDigit fourth]

theorem takes_takePairMark (mark : Char) (s : List Char) :
    takes (takePairMark mark) (mark :: s) = some ((), s) := by
  simp [takes, takePairMark]

theorem takes_takePairMark_of_ne {mark c : Char} (differ : c ≠ mark) (s : List Char) :
    takes (takePairMark mark) (c :: s) = none := by
  simp [takes, takePairMark, differ]

/-- The second half of a pair is read from its backslash on. -/
theorem takes_takeTrailingHalf (s : List Char) :
    takes takeTrailingHalf s = (takes (takePairMark '\\') s).bind fun (_, s) =>
      (takes (takePairMark 'u') s).bind fun (_, s) =>
        (takes takeUnit s).bind fun (m, s) => if isTrailing m then some (m, s) else none := by
  refine taken_bind fun slash => taken_bind fun letter => taken_bind fun unit => ?_
  split
  · next trailing => simp [trailing]
  · next other => simp [other]

theorem takes_takeTrailingHalf_unit {m : Nat} {digits : List Char} (unit : UnitText m digits)
    (s : List Char) : takes takeTrailingHalf ('\\' :: 'u' :: (digits ++ s)) =
      if isTrailing m then some (m, s) else none := by
  simp [takes_takeTrailingHalf, takes_takePairMark, takes_takeUnit unit]

/-- What a unit stands for depends on it and, if it begins a pair, on what follows. -/
theorem takes_takeUnitEscape (s : List Char) :
    takes takeUnitEscape s = (takes takeUnit s).bind fun (n, s) =>
      if isTrailing n then none
      else if isLeading n then (takes takeTrailingHalf s).bind fun (m, s) => some (pairChar n m, s)
      else some (.ofNat n, s) := by
  refine taken_bind fun unit => ?_
  split
  · next trailing => simp [trailing]
  · next other =>
    split
    · next leading =>
      simp only [other, leading, if_true]
      exact taken_bind fun second => by simp
    · next single =>
      simp only [other, single]
      rfl

theorem shortEscape?_of_mem {letter c : Char} (escape : (letter, c) ∈ shortEscapes) :
    shortEscape? letter = some c := by
  have all : ∀ e ∈ shortEscapes, shortEscape? e.1 = some e.2 := by
    simp [shortEscapes, shortEscape?]
  exact all _ escape

theorem takes_takeEscape_short {letter c : Char} (escape : (letter, c) ∈ shortEscapes)
    (s : List Char) : takes takeEscape (letter :: s) = some (c, s) := by
  unfold takes takeEscape
  simp [shortEscape?_of_mem escape]

theorem takes_takeEscape_unit (s : List Char) :
    takes takeEscape ('u' :: s) = takes takeUnitEscape s := by
  simp [takes, takeEscape, shortEscape?, taken_map_from]

theorem takes_takeTextBody_quote (s : List Char) : takes takeTextBody ('"' :: s) = some ([], s) := by
  simp [takes, takeTextBody]

theorem takes_takeTextBody_plain {c : Char} (plain : IsPlain c) (s : List Char) :
    takes takeTextBody (c :: s) = (takes takeTextBody s).map (Prod.map (c :: ·) id) := by
  obtain ⟨high, notQuote, notSlash⟩ := plain
  have visible : ¬ c < ' ' := fun low => Nat.not_lt_of_le high (Char.lt_def.mp low)
  rw [takes, takeTextBody, if_neg notQuote, if_neg notSlash, if_neg visible]
  exact taken_map (c :: ·) fun _ => ⟨rfl, rfl⟩

theorem takes_takeTextBody_escape (s : List Char) :
    takes takeTextBody ('\\' :: s) = (takes takeEscape s).bind fun (c, s) =>
      (takes takeTextBody s).map (Prod.map (c :: ·) id) := by
  rw [takes, takeTextBody]
  simp only [Char.reduceEq, if_false, if_true, takes]
  cases takeEscape s with
  | error fault => rfl
  | ok d => exact taken_map (d.value :: ·) fun _ => ⟨rfl, rfl⟩

theorem takes_takeTextBody_unit {n : Nat} {digits : List Char} (unit : UnitText n digits)
    (s : List Char) : takes takeTextBody ('\\' :: 'u' :: (digits ++ s)) =
      (if isTrailing n then none
      else if isLeading n then (takes takeTrailingHalf s).bind fun (m, s) => some (pairChar n m, s)
      else some (.ofNat n, s)).bind fun (c, s) =>
        (takes takeTextBody s).map (Prod.map (c :: ·) id) := by
  rw [takes_takeTextBody_escape, takes_takeEscape_unit, takes_takeUnitEscape, takes_takeUnit unit]
  rfl

/-- A leading unit fails unless a trailing one stands right behind it. -/
theorem takes_takeTrailingHalf_pieces {ps : List Piece} {t : List Char} (written : PiecesText ps t)
    (alone : ∀ m qs, ps = .unit m :: qs → isTrailing m = false) (s : List Char) :
    takes takeTrailingHalf (t ++ '"' :: s) = none := by
  cases written with
  | nil => simp [takes_takeTrailingHalf, takes_takePairMark_of_ne]
  | @cons p ps t ts first rest =>
    cases first with
    | plain plain => simp [takes_takeTrailingHalf, takes_takePairMark_of_ne plain.2.2]
    | @short letter c escape =>
      have notUnit : letter ≠ 'u' := by
        rintro rfl
        simp [shortEscapes] at escape
      simp [takes_takeTrailingHalf, takes_takePairMark, takes_takePairMark_of_ne notUnit]
    | @unit m digits unit =>
      have single : isTrailing m = false := alone m ps rfl
      simp [takes_takeTrailingHalf_unit unit, single]

/-- A row of pieces is read up to the closing quote as the characters it stands for, or
fails if it stands for none. -/
theorem takes_takeTextBody {ps : List Piece} {t : List Char} (written : PiecesText ps t)
    (s : List Char) : takes takeTextBody (t ++ '"' :: s) = leaving (decode ps) s := by
  -- A unit that begins a pair is judged with the piece behind it, as `decode` does.
  induction ps using decode.induct generalizing t with
  | case1 =>
    cases written
    exact takes_takeTextBody_quote s
  | case2 c ps ih =>
    cases written with
    | cons first rest =>
      cases first with
      | plain plain => simp [takes_takeTextBody_plain plain, ih rest, leaving_map, decode]
      | short escape =>
        simp [takes_takeTextBody_escape, takes_takeEscape_short escape, ih rest, leaving_map, decode]
  | case3 n ps trailing =>
    cases written with
    | cons first rest =>
      cases first with
      | unit unit =>
        rw [decode.eq_def]
        simp [takes_takeTextBody_unit unit, trailing]
  | case4 n single leading m ps trailing ih =>
    cases written with
    | cons first rest =>
      cases first with
      | unit high =>
        cases rest with
        | cons second rest =>
          cases second with
          | unit low =>
            simp [takes_takeTextBody_unit high, takes_takeTrailingHalf_unit low, single, leading,
              trailing, ih rest, leaving_map, decode]
  | case5 n single leading m ps other =>
    cases written with
    | cons first rest =>
      cases first with
      | unit high =>
        have alone : ∀ k qs, Piece.unit m :: ps = .unit k :: qs → isTrailing k = false := by
          rintro _ _ ⟨rfl, rfl⟩
          simpa using other
        simp [takes_takeTextBody_unit high, takes_takeTrailingHalf_pieces rest alone, single,
          leading, other, decode]
  | case6 n ps single leading follows =>
    cases written with
    | cons first rest =>
      cases first with
      | unit high =>
        have alone : ∀ k qs, ps = .unit k :: qs → isTrailing k = false :=
          fun k qs same => (follows k qs same).elim
        rw [decode.eq_def]
        simp [takes_takeTextBody_unit high, takes_takeTrailingHalf_pieces rest alone, single,
          leading]
  | case7 n ps single bmp ih =>
    cases written with
    | cons first rest =>
      cases first with
      | unit unit =>
        rw [decode.eq_def]
        simp [takes_takeTextBody_unit unit, single, bmp, ih rest, leaving_map]

theorem takes_takeText {ps : List Piece} {t : List Char} (written : PiecesText ps t)
    (s : List Char) :
    takes takeText (t ++ '"' :: s) = leaving ((decode ps).map String.ofList) s := by
  rw [← leaving_map, ← takes_takeTextBody written]
  exact taken_map String.ofList fun _ => ⟨rfl, rfl⟩

/-- However a text is written, it is read up to the closing quote. -/
theorem takes_takeText_chars {s : String} {t : List Char} (written : CharsText s.toList t)
    (rest : List Char) : takes takeText (t ++ '"' :: rest) = some (s, rest) := by
  obtain ⟨ps, pieces, decoded⟩ := exists_pieces written
  simp [takes_takeText pieces, decoded]

end ValueOrder.Json
