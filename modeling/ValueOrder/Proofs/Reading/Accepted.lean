import ValueOrder.Proofs.Reading.Documents

/-!
# What is taken was written

Whatever a reader takes off a text was written as the grammar allows. So a text has a document
only if it spells the document, and the grammar says exactly which texts those are.
-/

namespace ValueOrder.Json

theorem exists_blank_skipBlanks (s : List Char) : ∃ w, Blank w ∧ s = w ++ skipBlanks s :=
  ⟨s.takeWhile isBlank, List.all_eq_true.mp List.all_takeWhile,
    List.takeWhile_append_dropWhile.symm⟩

/-! ## Numbers -/

section Numbers
variable {atEnd : Reason} {s rest : List Char}

theorem digits_of_takeDigits {v : List Nat} (read : takes (takeDigits atEnd) s = some (v, rest)) :
    ∃ ds, s = ds ++ rest ∧ IsDigits ds ∧ v = ds.map digitValue := by
  cases s with
  | nil => cases read
  | cons c u =>
    by_cases digit : c.isDigit
    · rw [takes, takeDigits, if_pos digit] at read
      cases read
      refine ⟨c :: u.takeWhile Char.isDigit, ?_, ⟨List.cons_ne_nil _ _, ?_⟩, rfl⟩
      · exact congrArg (c :: ·) List.takeWhile_append_dropWhile.symm
      · exact List.forall_mem_cons.mpr ⟨digit, List.all_eq_true.mp List.all_takeWhile⟩
    · rw [takes, takeDigits, if_neg digit] at read
      cases read

theorem digits_of_takeWhole {v : List Nat} (read : takes (takeWhole atEnd) s = some (v, rest)) :
    ∃ ds, s = ds ++ rest ∧ IsDigits ds ∧ (ds.head? = some '0' → ds = ['0']) ∧
      v = ds.map digitValue := by
  unfold takes takeWhole at read
  split at read
  · next d u =>
    split at read
    · cases read
    · cases read
      exact ⟨['0'], rfl, ⟨nofun, List.forall_mem_singleton.mpr rfl⟩, fun _ => rfl, rfl⟩
  · next other =>
    obtain ⟨ds, rfl, digits, rfl⟩ := digits_of_takeDigits read
    refine ⟨ds, rfl, digits, fun zero => ?_, rfl⟩
    -- A zero with more behind it is not left to the digits.
    obtain ⟨ds, rfl⟩ := List.head?_eq_some_iff.mp zero
    cases ds with
    | nil => rfl
    | cons d ds => exact absurd rfl (other d (ds ++ rest))

theorem fraction_of_takeFraction {v : List Nat}
    (read : takesIfAny (takeFraction atEnd) s = some (v, rest)) :
    ∃ f, s = f ++ rest ∧ FractionText v f := by
  obtain ⟨h, read⟩ := takesIfAny_eq_some_iff.mp read
  cases s with
  | nil =>
    cases read
    exact ⟨[], rfl, .none⟩
  | cons c u =>
    by_cases point : c = '.'
    · rw [takeFraction, if_pos point] at read
      cases digits : takeDigits atEnd u with
      | error fault =>
        rw [digits] at read
        cases read
      | ok r =>
        rw [digits] at read
        cases read
        obtain ⟨ds, same, digits, value⟩ :=
          digits_of_takeDigits (taken_eq_some_iff.mpr ⟨r, digits, rfl, rfl⟩)
        refine ⟨'.' :: ds, ?_, ?_⟩
        · rw [point]
          exact congrArg ('.' :: ·) same
        · rw [value]
          exact .point digits
    · rw [takeFraction, if_neg point] at read
      cases read
      exact ⟨[], rfl, .none⟩

theorem sign_of_takeSign (s : List Char) :
    ∃ sign, s = sign ++ (takeSign s).2.1 ∧ ExponentSignText (takeSign s).1 sign := by
  cases s with
  | nil => exact ⟨[], rfl, .none⟩
  | cons c u =>
    rw [takeSign]
    split_ifs with minus plus
    · exact ⟨['-'], congrArg (· :: u) minus, .minus⟩
    · exact ⟨['+'], congrArg (· :: u) plus, .plus⟩
    · exact ⟨[], rfl, .none⟩

theorem exponent_of_takeExponent {v : Option (Bool × List Nat)}
    (read : takesIfAny (takeExponent atEnd) s = some (v, rest)) :
    ∃ e, s = e ++ rest ∧ ExponentText v e := by
  obtain ⟨h, read⟩ := takesIfAny_eq_some_iff.mp read
  cases s with
  | nil =>
    cases read
    exact ⟨[], rfl, .none⟩
  | cons c u =>
    by_cases mark : (c = 'e' || c = 'E') = true
    · obtain ⟨sign, behind, signed⟩ := sign_of_takeSign u
      rw [takeExponent, if_pos mark] at read
      cases digits : takeDigits atEnd (takeSign u).2.1 with
      | error fault => simp [digits, Except.map] at read
      | ok r =>
        simp only [digits, Except.map, Except.ok.injEq, Prod.mk.injEq, Subtype.mk.injEq] at read
        obtain ⟨rfl, rfl⟩ := read
        obtain ⟨ds, same, digits, value⟩ :=
          digits_of_takeDigits (taken_eq_some_iff.mpr ⟨r, digits, rfl, rfl⟩)
        refine ⟨c :: (sign ++ ds), ?_, ?_⟩
        · rw [List.cons_append, List.append_assoc, ← same, ← behind]
        · rw [value]
          exact .mark (by simpa using mark) signed digits
    · rw [takeExponent, if_neg mark] at read
      cases read
      exact ⟨[], rfl, .none⟩

theorem minus_of_takeMinus (s : List Char) :
    ∃ sign, s = sign ++ (takeMinus s).2.1 ∧ SignText (takeMinus s).1 sign := by
  cases s with
  | nil => exact ⟨[], rfl, .none⟩
  | cons c u =>
    rw [takeMinus]
    split_ifs with minus
    · exact ⟨['-'], congrArg (· :: u) minus, .minus⟩
    · exact ⟨[], rfl, .none⟩

theorem parts_of_takeLiteral {l : Literal} (read : takes (takeLiteral atEnd) s = some (l, rest)) :
    ∃ whole fraction exponent s₁ s₂,
      takes (takeWhole atEnd) (takeMinus s).2.1 = some (whole, s₁) ∧
      takesIfAny (takeFraction atEnd) s₁ = some (fraction, s₂) ∧
      takesIfAny (takeExponent atEnd) s₂ = some (exponent, rest) ∧
      l = ⟨(takeMinus s).1, whole, fraction, exponent⟩ := by
  unfold takes takeLiteral at read
  cases first : takeWhole atEnd (takeMinus s).2.1 with
  | error fault => simp [first, bind, Except.bind] at read
  | ok whole =>
    cases second : takeFraction atEnd whole.rest with
    | error fault => simp [first, second, bind, Except.bind] at read
    | ok f =>
      obtain ⟨fraction, s₂, h₂⟩ := f
      cases third : takeExponent atEnd s₂ with
      | error fault => simp [first, second, third, bind, Except.bind] at read
      | ok e =>
        obtain ⟨exponent, s₃, h₃⟩ := e
        simp only [first, second, third, bind, Except.bind, taken_ok, Option.some.injEq,
          Prod.mk.injEq] at read
        obtain ⟨rfl, rfl⟩ := read
        exact ⟨whole.value, fraction, exponent, whole.rest, s₂, by rw [takes, first, taken_ok],
          takesIfAny_eq_some_iff.mpr ⟨h₂, second⟩, takesIfAny_eq_some_iff.mpr ⟨h₃, third⟩, rfl⟩

/-- A literal that was taken was written. -/
theorem literal_of_takeLiteral {l : Literal} (read : takes (takeLiteral atEnd) s = some (l, rest)) :
    ∃ t, s = t ++ rest ∧ LiteralText l t := by
  obtain ⟨whole, fraction, exponent, s₁, s₂, first, second, third, rfl⟩ := parts_of_takeLiteral read
  obtain ⟨sign, before, signed⟩ := minus_of_takeMinus s
  obtain ⟨ds, behind, digits, zeroAlone, rfl⟩ := digits_of_takeWhole first
  obtain ⟨f, rfl, point⟩ := fraction_of_takeFraction second
  obtain ⟨e, rfl, mark⟩ := exponent_of_takeExponent third
  refine ⟨sign ++ (ds ++ (f ++ e)), ?_, .mk signed digits zeroAlone point mark⟩
  calc s = sign ++ (takeMinus s).2.1 := before
    _ = sign ++ (ds ++ (f ++ e)) ++ rest := by simp [behind]

theorem literal_of_takeNumber {x : JsonNumber} (read : takes takeNumber s = some (x, rest)) :
    ∃ l t, s = t ++ rest ∧ LiteralText l t ∧ l.number = .ok x := by
  have step : takes takeNumber s = (takes (takeLiteral .endInValue) s).bind
      fun (l, s) => leaving l.number.toOption s := by
    refine taken_bind fun read => ?_
    show _ = leaving read.value.number.toOption read.rest
    cases read.value.number <;> rfl
  rw [step] at read
  obtain ⟨⟨l, u⟩, literal, read⟩ := Option.bind_eq_some_iff.mp read
  obtain ⟨y, number, same⟩ := Option.map_eq_some_iff.mp read
  cases same
  obtain ⟨t, same, written⟩ := literal_of_takeLiteral literal
  exact ⟨l, t, same, written, toOption_eq_some_iff.mp number⟩

end Numbers

/-! ## Texts -/

section Texts
variable {s rest : List Char} {c : Char}

theorem isHexDigit_of_hexDigit? {n : Nat} (digit : hexDigit? c = some n) : IsHexDigit n c := by
  have decimal : ∀ i : Fin 10, lowerHexDigits[i.val]? = some (.ofNat (48 + i)) := by decide
  have lower : ∀ i : Fin 6, lowerHexDigits[i.val + 10]? = some (.ofNat (97 + i)) := by decide
  have upper : ∀ i : Fin 6, upperHexDigits[i.val + 10]? = some (.ofNat (65 + i)) := by decide
  have code {base k : Nat} (place : c.toNat = base + k) : c = .ofNat (base + k) := by
    rw [← place, Char.ofNat_toNat]
  unfold hexDigit? at digit
  split_ifs at digit with isDecimal isLower isUpper
  · cases digit
    have low : 48 ≤ c.toNat := isDecimal.1
    have high : c.toNat ≤ 57 := isDecimal.2
    have place : c.toNat = 48 + (c.toNat - 48) := by omega
    exact .inl ((decimal ⟨c.toNat - 48, by omega⟩).trans (congrArg some (code place).symm))
  · cases digit
    have low : 97 ≤ c.toNat := isLower.1
    have high : c.toNat ≤ 102 := isLower.2
    have place : c.toNat = 97 + (c.toNat - 97) := by omega
    exact .inl ((lower ⟨c.toNat - 97, by omega⟩).trans (congrArg some (code place).symm))
  · cases digit
    have low : 65 ≤ c.toNat := isUpper.1
    have high : c.toNat ≤ 70 := isUpper.2
    have place : c.toNat = 65 + (c.toNat - 65) := by omega
    exact .inr ((upper ⟨c.toNat - 65, by omega⟩).trans (congrArg some (code place).symm))

theorem lt_of_isHexDigit {n : Nat} (digit : IsHexDigit n c) : n < 16 := by
  rcases digit with found | found
  · exact (List.getElem?_eq_some_iff.mp found).1
  · exact (List.getElem?_eq_some_iff.mp found).1

theorem lt_of_unitText {n : Nat} {digits : List Char} (unit : UnitText n digits) : n < 0x10000 := by
  cases unit with
  | mk first second third fourth =>
    have := lt_of_isHexDigit first
    have := lt_of_isHexDigit second
    have := lt_of_isHexDigit third
    have := lt_of_isHexDigit fourth
    omega

theorem unit_of_takeUnit {n : Nat} (read : takes takeUnit s = some (n, rest)) :
    ∃ digits, s = digits ++ rest ∧ UnitText n digits := by
  unfold takes takeUnit at read
  split at read
  · next a b c d u =>
    split at read
    · next m unit =>
      cases read
      simp only [unitOf?, bind, Option.bind_eq_some_iff, pure, Option.some.injEq] at unit
      obtain ⟨p, first, q, second, r, third, s, fourth, rfl⟩ := unit
      exact ⟨[a, b, c, d], rfl, .mk (isHexDigit_of_hexDigit? first) (isHexDigit_of_hexDigit? second)
        (isHexDigit_of_hexDigit? third) (isHexDigit_of_hexDigit? fourth)⟩
    · cases read
  · cases read

theorem mark_of_takePairMark {mark : Char} {x : Unit}
    (read : takes (takePairMark mark) s = some (x, rest)) : s = mark :: rest := by
  cases s with
  | nil => cases read
  | cons c u =>
    by_cases same : c = mark
    · rw [same, takes_takePairMark] at read
      cases read
      rw [same]
    · rw [takes_takePairMark_of_ne same] at read
      cases read

theorem unit_of_takeTrailingHalf {m : Nat} (read : takes takeTrailingHalf s = some (m, rest)) :
    ∃ digits, s = '\\' :: 'u' :: (digits ++ rest) ∧ UnitText m digits ∧ isTrailing m := by
  rw [takes_takeTrailingHalf] at read
  obtain ⟨⟨_, u⟩, slash, read⟩ := Option.bind_eq_some_iff.mp read
  obtain ⟨⟨_, v⟩, letter, read⟩ := Option.bind_eq_some_iff.mp read
  obtain ⟨⟨k, w⟩, unit, read⟩ := Option.bind_eq_some_iff.mp read
  obtain ⟨digits, same, written⟩ := unit_of_takeUnit unit
  dsimp only at read
  split_ifs at read with trailing
  cases read
  refine ⟨digits, ?_, written, trailing⟩
  rw [mark_of_takePairMark slash, mark_of_takePairMark letter, same]

/-- A unit that is half of no pair is the code of the character that it is read as. -/
theorem toNat_ofNat_of_single {n : Nat} (small : n < 0x10000) (other : isTrailing n = false)
    (single : isLeading n = false) : (Char.ofNat n).toNat = n := by
  have valid : n.isValidChar := by
    simp only [isTrailing, isLeading, Bool.and_eq_false_iff, decide_eq_false_iff_not] at other single
    rw [Nat.isValidChar]
    omega
  rw [Char.ofNat, dif_pos valid]
  rfl

theorem toNat_pairChar {h l : Nat} (leading : isLeading h = true) (trailing : isTrailing l = true) :
    (pairChar h l).toNat = 0x10000 + (h - 0xD800) * 0x400 + (l - 0xDC00) := by
  simp only [isTrailing, isLeading, Bool.and_eq_true, decide_eq_true_eq] at leading trailing
  have valid : (0x10000 + (h - 0xD800) * 0x400 + (l - 0xDC00)).isValidChar := by
    rw [Nat.isValidChar]
    omega
  rw [pairChar, Char.ofNat, dif_pos valid]
  rfl

theorem char_of_takeUnitEscape (read : takes takeUnitEscape s = some (c, rest)) :
    ∃ t, s = t ++ rest ∧ CharText c ('\\' :: 'u' :: t) := by
  rw [takes_takeUnitEscape] at read
  obtain ⟨⟨n, u⟩, unit, read⟩ := Option.bind_eq_some_iff.mp read
  obtain ⟨digits, same, written⟩ := unit_of_takeUnit unit
  dsimp only at read
  split_ifs at read with trailing leading
  · obtain ⟨⟨m, v⟩, half, read⟩ := Option.bind_eq_some_iff.mp read
    obtain ⟨rfl, rfl⟩ := Prod.mk.inj (Option.some.inj read)
    obtain ⟨low, behind, writtenLow, second⟩ := unit_of_takeTrailingHalf half
    refine ⟨digits ++ '\\' :: 'u' :: low, by simp [same, behind], .pair written writtenLow ?_ ?_ ?_⟩
    · simp only [isLeading, Bool.and_eq_true, decide_eq_true_eq] at leading
      omega
    · simp only [isTrailing, Bool.and_eq_true, decide_eq_true_eq] at second
      omega
    · exact toNat_pairChar leading second
  · cases read
    refine ⟨digits, same, .unit ?_⟩
    rw [toNat_ofNat_of_single (lt_of_unitText written) (by simpa using trailing)
      (by simpa using leading)]
    exact written

theorem mem_shortEscapes_of_shortEscape? {letter : Char} (escape : shortEscape? letter = some c) :
    (letter, c) ∈ shortEscapes := by
  unfold shortEscape? at escape
  split at escape
  all_goals first
    | cases escape; simp [shortEscapes]
    | cases escape

theorem char_of_takeEscape (read : takes takeEscape s = some (c, rest)) :
    ∃ t, s = t ++ rest ∧ CharText c ('\\' :: t) := by
  cases s with
  | nil => cases read
  | cons letter u =>
    cases short : shortEscape? letter with
    | some d =>
      have escape := mem_shortEscapes_of_shortEscape? short
      rw [takes_takeEscape_short escape] at read
      cases read
      exact ⟨[letter], rfl, .short escape⟩
    | none =>
      by_cases unit : letter = 'u'
      · rw [unit, takes_takeEscape_unit] at read
        obtain ⟨t, rfl, written⟩ := char_of_takeUnitEscape read
        exact ⟨'u' :: t, by rw [unit]; rfl, written⟩
      · simp [takes, takeEscape, short, unit] at read

/-- Characters that were taken up to a quote were written. -/
theorem chars_of_takeTextBody {cs : List Char} (read : takes takeTextBody s = some (cs, rest)) :
    ∃ t, s = t ++ '"' :: rest ∧ CharsText cs t := by
  -- On the length of the text: behind an escape it goes on further down.
  induction length : s.length using Nat.strongRecOn generalizing s cs with
  | ind n ih =>
    cases s with
    | nil => simp [takes, takeTextBody] at read
    | cons c u =>
      by_cases quote : c = '"'
      · rw [quote, takes_takeTextBody_quote] at read
        cases read
        exact ⟨[], by rw [quote]; rfl, .nil⟩
      · by_cases slash : c = '\\'
        · rw [slash, takes_takeTextBody_escape] at read
          obtain ⟨⟨d, v⟩, escape, read⟩ := Option.bind_eq_some_iff.mp read
          obtain ⟨⟨ds, w⟩, body, same⟩ := Option.map_eq_some_iff.mp read
          cases same
          obtain ⟨t, rfl, first⟩ := char_of_takeEscape escape
          have shorter : v.length < n := by
            rw [← length, List.length_cons, List.length_append]
            omega
          obtain ⟨ts, rfl, others⟩ := ih v.length shorter body rfl
          exact ⟨'\\' :: (t ++ ts), by rw [slash]; simp, .cons first others⟩
        · by_cases control : c < ' '
          · simp [takes, takeTextBody, quote, slash, control] at read
          · have plain : IsPlain c :=
              ⟨Nat.le_of_not_lt fun low => control (Char.lt_def.mpr low), quote, slash⟩
            rw [takes_takeTextBody_plain plain] at read
            obtain ⟨⟨ds, w⟩, body, same⟩ := Option.map_eq_some_iff.mp read
            cases same
            obtain ⟨ts, rfl, others⟩ := ih u.length (by simp [← length]) body rfl
            exact ⟨c :: ts, rfl, .cons (.plain plain) others⟩

theorem quoted_of_takeText {v : String} (read : takes takeText s = some (v, rest)) :
    ∃ t, s = t ++ '"' :: rest ∧ CharsText v.toList t := by
  have step : takes takeText s = (takes takeTextBody s).map (Prod.map String.ofList id) :=
    taken_map String.ofList fun _ => ⟨rfl, rfl⟩
  rw [step] at read
  obtain ⟨⟨cs, u⟩, body, same⟩ := Option.map_eq_some_iff.mp read
  cases same
  obtain ⟨t, same, written⟩ := chars_of_takeTextBody body
  exact ⟨t, same, by simpa using written⟩

end Texts

/-! ## Entries -/

/-- Entries behind each other, with commas between them. -/
inductive Listed {α : Type} (P : α → List Char → Prop) : List α → List Char → Prop where
  | last {x : α} {t : List Char} (last : P x t) : Listed P [x] t
  | next {x : α} {xs : List α} {t u : List Char} (first : P x t) (rest : Listed P xs u) :
      Listed P (x :: xs) (t ++ ',' :: u)

/-- What leads to an entry: blanks, and a comma among them unless the entry is the first. -/
inductive Lead : Bool → List Char → Prop where
  | first {w : List Char} (blank : Blank w) : Lead true w
  | comma {w w' : List Char} (before : Blank w) (after : Blank w') : Lead false (w ++ ',' :: w')

/-- The entries that a bracket still has, and its closer. -/
inductive Finishes {α : Type} (P : α → List Char → Prop) (closer : Char) :
    Bool → List α → List Char → Prop where
  | close {isFirst : Bool} {w : List Char} (blank : Blank w) :
      Finishes P closer isFirst [] (w ++ [closer])
  | entry {isFirst : Bool} {x : α} {xs : List α} {v t u : List Char} (lead : Lead isFirst v)
      (first : P x t) (rest : Finishes P closer false xs u) :
      Finishes P closer isFirst (x :: xs) (v ++ (t ++ u))

/-- Blanks around an entry belong to it. -/
def TakesBlanks {α : Type} (P : α → List Char → Prop) : Prop :=
  ∀ {x w t w'}, Blank w → P x t → Blank w' → P x (w ++ (t ++ w'))

section Entries
variable {ε α β σ : Type} {lift : Fault Reason → ε} {P : α → List Char → Prop}
  {Q : β → List Char → Prop}
  {closer : Char} {isFirst : Bool} {xs : List α} {x : α} {s t u rest : List Char}

theorem Spells.elementWithBlanks {n : Nat} {o : Option Json} {w w' : List Char} (before : Blank w)
    (spelled : Spells (.element o) n t) (after : Blank w') :
    Spells (.element o) n (w ++ (t ++ w')) := by
  cases spelled with
  | @element _ _ v t v' first inside last =>
    have padded : w ++ (v ++ (t ++ v') ++ w') = w ++ v ++ (t ++ (v' ++ w')) := by simp
    rw [padded]
    exact .element (List.forall_mem_append.mpr ⟨before, first⟩) inside
      (List.forall_mem_append.mpr ⟨last, after⟩)

theorem Spells.memberWithBlanks {n : Nat} {o : Option (String × Json)} {w w' : List Char}
    (before : Blank w) (spelled : Spells (.member o) n t) (after : Blank w') :
    Spells (.member o) n (w ++ (t ++ w')) := by
  cases spelled with
  | @member _ ps value v k u t first key behind inside =>
    have padded : w ++ (v ++ '"' :: (k ++ '"' :: (u ++ ':' :: t)) ++ w') =
        w ++ v ++ '"' :: (k ++ '"' :: (u ++ ':' :: ([] ++ (t ++ w')))) := by simp
    rw [padded]
    exact .member (List.forall_mem_append.mpr ⟨before, first⟩) key behind
      (inside.elementWithBlanks blank_nil after)

/-- An entry and those that are left behind it are listed up to the closer. -/
theorem Finishes.listed (padded : TakesBlanks P) (finishes : Finishes P closer isFirst xs u)
    (later : isFirst = false) (first : P x t) :
    ∃ v, t ++ u = v ++ [closer] ∧ Listed P (x :: xs) v := by
  induction finishes generalizing x t with
  | @close _ w blank => exact ⟨[] ++ (t ++ w), by simp, .last (padded blank_nil first blank)⟩
  | @entry _ y ys v e u lead next _ ih =>
    subst later
    cases lead with
    | @comma w w' before after =>
      obtain ⟨v, same, listed⟩ := ih rfl (padded after next blank_nil)
      refine ⟨[] ++ (t ++ w) ++ ',' :: v, ?_, .next (padded blank_nil first before) listed⟩
      simp only [List.append_assoc, List.cons_append, List.nil_append] at same ⊢
      rw [same]

/-- A bracket that was only just opened is empty, or it lists its entries. -/
theorem Finishes.closed (padded : TakesBlanks P) (finishes : Finishes P closer true xs t) :
    ∃ u, t = u ++ [closer] ∧ (xs = [] ∧ Blank u ∨ Listed P xs u) := by
  cases finishes with
  | close blank => exact ⟨_, rfl, .inl ⟨rfl, blank⟩⟩
  | @entry _ y ys v e u lead first rest =>
    cases lead with
    | first blank =>
      obtain ⟨w, same, listed⟩ := rest.listed padded rfl (padded blank first blank_nil)
      refine ⟨w, ?_, .inr listed⟩
      rw [← same]
      simp

theorem skipBlanks_ne_nil_of_nextElement {next : Onward}
    (goes : onward (nextElement isFirst s) = some next) : ∃ c u, skipBlanks s = c :: u := by
  cases found : skipBlanks s with
  | cons c u => exact ⟨c, u, rfl⟩
  | nil =>
    unfold nextElement at goes
    split at goes
    · cases goes
    · simp_all

theorem blank_of_nextElement (goes : onward (nextElement isFirst s) = some (.close u)) :
    ∃ w, Blank w ∧ s = w ++ ']' :: u := by
  obtain ⟨c, v, found⟩ := skipBlanks_ne_nil_of_nextElement goes
  obtain ⟨w, blank, before⟩ := exists_blank_skipBlanks s
  rw [onward_nextElement isFirst found] at goes
  split_ifs at goes with close first comma
  · cases goes
    exact ⟨w, blank, by rw [before, found, close]⟩
  · cases goes
  · unfold onwardElement at goes
    split at goes
    · cases goes
    · split at goes <;> cases goes

theorem lead_of_nextElement (goes : onward (nextElement isFirst s) = some (.entry u)) :
    ∃ v, Lead isFirst v ∧ s = v ++ u := by
  obtain ⟨c, v, found⟩ := skipBlanks_ne_nil_of_nextElement goes
  obtain ⟨w, blank, before⟩ := exists_blank_skipBlanks s
  rw [onward_nextElement isFirst found] at goes
  split_ifs at goes with close first comma
  · cases goes
  · cases goes
    rw [first]
    exact ⟨w, .first blank, by rw [← found, ← before]⟩
  · obtain ⟨w', blank', after⟩ := exists_blank_skipBlanks v
    have later : isFirst = false := by simpa using first
    have same : skipBlanks v = u := by
      cases behind : skipBlanks v with
      | nil =>
        rw [behind] at goes
        cases goes
      | cons d r =>
        rw [behind, onwardElement] at goes
        split_ifs at goes
        cases goes
        rfl
    rw [later]
    refine ⟨w ++ ',' :: w', .comma blank blank', ?_⟩
    rw [List.append_assoc, List.cons_append, ← same, ← after, ← comma, ← found, ← before]

/-- Elements that were taken up to the closing bracket were written. -/
theorem finishes_of_takeElements {item : (t : List Char) → Step ε α t}
    (written : ∀ {s x rest}, takes item s = some (x, rest) → ∃ t, s = t ++ rest ∧ P x t)
    (read : takes (takeElements lift item isFirst) s = some (xs, rest)) :
    ∃ t, s = t ++ rest ∧ Finishes P ']' isFirst xs t := by
  unfold takes at read
  fun_induction takeElements lift item isFirst s generalizing xs rest with
  | case1 => cases read
  | case2 isFirst s r next =>
    cases read
    have goes : onward (nextElement isFirst s) = some (.close r.rest) := by rw [next]; rfl
    obtain ⟨w, blank, same⟩ := blank_of_nextElement goes
    exact ⟨w ++ [']'], same.trans (by simp [Read.map]), .close blank⟩
  | case3 => cases read
  | case4 isFirst s entry _ next first taken_first ih =>
    obtain ⟨⟨others, _⟩, readOthers, same⟩ := Option.map_eq_some_iff.mp
      ((taken_map (first.value :: ·) fun _ => by exact ⟨rfl, rfl⟩).symm.trans read)
    cases same
    have goes : onward (nextElement isFirst s) = some (.entry entry) := by rw [next]; rfl
    obtain ⟨v, lead, before⟩ := lead_of_nextElement goes
    obtain ⟨t, here, element⟩ := written (taken_eq_some_iff.mpr ⟨first, taken_first, rfl, rfl⟩)
    obtain ⟨u, behind, finishes⟩ := ih readOthers
    refine ⟨v ++ (t ++ u), ?_, .entry lead element finishes⟩
    rw [before, here, behind]
    simp

theorem skipBlanks_ne_nil_of_nextMember {next : Onward}
    (goes : onward (nextMember isFirst s) = some next) : ∃ c u, skipBlanks s = c :: u := by
  cases found : skipBlanks s with
  | cons c u => exact ⟨c, u, rfl⟩
  | nil =>
    unfold nextMember at goes
    split at goes
    · cases goes
    · simp_all

theorem quote_of_onwardMember {next : Onward} (goes : onwardMember s = some next) :
    ∃ u, s = '"' :: u ∧ next = .entry u := by
  unfold onwardMember at goes
  split at goes
  · cases goes
  · split_ifs at goes with quote
    cases goes
    exact ⟨_, congrArg (· :: _) quote, rfl⟩

theorem blank_of_nextMember (goes : onward (nextMember isFirst s) = some (.close u)) :
    ∃ w, Blank w ∧ s = w ++ '\x7d' :: u := by
  obtain ⟨c, v, found⟩ := skipBlanks_ne_nil_of_nextMember goes
  obtain ⟨w, blank, before⟩ := exists_blank_skipBlanks s
  rw [onward_nextMember isFirst found] at goes
  split_ifs at goes with close first comma
  · cases goes
    exact ⟨w, blank, by rw [before, found, close]⟩
  · obtain ⟨_, _, same⟩ := quote_of_onwardMember goes
    cases same
  · obtain ⟨_, _, same⟩ := quote_of_onwardMember goes
    cases same

theorem lead_of_nextMember (goes : onward (nextMember isFirst s) = some (.entry u)) :
    ∃ v, Lead isFirst v ∧ s = v ++ '"' :: u := by
  obtain ⟨c, v, found⟩ := skipBlanks_ne_nil_of_nextMember goes
  obtain ⟨w, blank, before⟩ := exists_blank_skipBlanks s
  rw [onward_nextMember isFirst found] at goes
  split_ifs at goes with close first comma
  · cases goes
  · obtain ⟨_, quote, same⟩ := quote_of_onwardMember goes
    cases same
    rw [first]
    exact ⟨w, .first blank, by rw [← quote, ← found, ← before]⟩
  · obtain ⟨w', blank', after⟩ := exists_blank_skipBlanks v
    have later : isFirst = false := by simpa using first
    obtain ⟨_, quote, same⟩ := quote_of_onwardMember goes
    cases same
    rw [later]
    refine ⟨w ++ ',' :: w', .comma blank blank', ?_⟩
    rw [List.append_assoc, List.cons_append, ← quote, ← after, ← comma, ← found, ← before]

/-- Members that were taken up to the closing brace were written, and each made its step from
the state before it. -/
theorem finishes_of_takeMembers {member : σ → (t : List Char) → Step ε σ t} {place : σ → α → Option σ}
    {state last : σ}
    (written : ∀ {state next s rest}, takes (member state) s = some (next, rest) →
      ∃ x t, '"' :: s = t ++ rest ∧ P x t ∧ place state x = some next)
    (read : takes (takeMembers lift member isFirst state) s = some (last, rest)) :
    ∃ xs t, s = t ++ rest ∧ Finishes P '\x7d' isFirst xs t ∧ xs.foldlM place state = some last := by
  unfold takes at read
  fun_induction takeMembers lift member isFirst state s generalizing rest with
  | case1 => cases read
  | case2 isFirst state s r next =>
    cases read
    have goes : onward (nextMember isFirst s) = some (.close r.rest) := by rw [next]; rfl
    obtain ⟨w, blank, same⟩ := blank_of_nextMember goes
    exact ⟨[], w ++ ['\x7d'], same.trans (by simp [Read.map]), .close blank, rfl⟩
  | case3 => cases read
  | case4 isFirst state s entry _ next first taken_first ih =>
    rw [taken_map_from] at read
    have goes : onward (nextMember isFirst s) = some (.entry entry) := by rw [next]; rfl
    obtain ⟨v, lead, before⟩ := lead_of_nextMember goes
    obtain ⟨x, t, here, entry, placed⟩ :=
      written (taken_eq_some_iff.mpr ⟨first, taken_first, rfl, rfl⟩)
    obtain ⟨xs, u, behind, finishes, others⟩ := ih read
    refine ⟨x :: xs, v ++ (t ++ u), ?_, .entry lead entry finishes, ?_⟩
    · rw [before, here, behind]
      simp
    · rw [List.foldlM_cons, placed]
      exact others

end Entries

/-! ## Values -/

section Values
variable {n : Nat} {s rest : List Char} {j : Json}

theorem spells_elements_of_listed {items : List Json} {t : List Char}
    (listed : Listed (fun (j : Json) t => Spells (.element (some j)) n t) items t) :
    Spells (.elements (some items)) n t := by
  induction listed with
  | last last => exact .lastElement last
  | next first _ ih => exact .nextElement first ih

theorem spells_members_of_listed {members : List (String × Json)} {t : List Char}
    (listed : Listed (fun (m : String × Json) t => Spells (.member (some m)) n t) members t) :
    Spells (.members (some members)) n t := by
  induction listed with
  | last last => exact .lastMember last
  | next first _ ih => exact .nextMember first ih

theorem word_of_takeKeyword {word : List Char} {r : Rest s} (read : takeKeyword word s = .ok r) :
    s = word ++ r.1 := by
  induction word generalizing s with
  | nil =>
    cases read
    rfl
  | cons k word ih =>
    cases s with
    | nil => cases read
    | cons c s =>
      rw [takeKeyword] at read
      split_ifs at read with same
      cases step : takeKeyword word s with
      | error fault =>
        rw [step] at read
        cases read
      | ok r =>
        rw [step] at read
        cases read
        rw [same]
        exact congrArg (k :: ·) (ih step)

theorem word_of_takeWord {word : String} {v : Json}
    (read : takesIfAny (takeWord word v) s = some (j, rest)) : j = v ∧ s = word.toList ++ rest := by
  obtain ⟨h, read⟩ := takesIfAny_eq_some_iff.mp read
  unfold takeWord at read
  cases step : takeKeyword word.toList s with
  | error fault => simp [step, Except.map] at read
  | ok r =>
    simp only [step, Except.map, Except.ok.injEq, Prod.mk.injEq] at read
    obtain ⟨rfl, rfl⟩ := read
    exact ⟨rfl, word_of_takeKeyword step⟩

variable {item : (t : List Char) → Step (Fault Reason) Json t}

theorem colon_of_takeColon {x : Unit} (read : takes takeColon s = some (x, rest)) :
    ∃ w, Blank w ∧ s = w ++ ':' :: rest := by
  obtain ⟨w, blank, before⟩ := exists_blank_skipBlanks s
  unfold takes takeColon at read
  split at read
  · cases read
  · next c u found =>
    split_ifs at read with colon
    · cases read
      exact ⟨w, blank, by rw [← colon, ← found, ← before]⟩
    · cases read

theorem member_of_takeMember {before after : List (String × Json)}
    (written : ∀ {s j rest}, takes item s = some (j, rest) →
      ∃ t, s = t ++ rest ∧ Spells (.element (some j)) n t)
    (read : takes (takeMember item before) s = some (after, rest)) :
    ∃ m t, '"' :: s = t ++ rest ∧ Spells (.member (some m)) n t ∧ m :: before = after := by
  rw [takes_takeMember] at read
  obtain ⟨⟨key, u⟩, text, read⟩ := Option.bind_eq_some_iff.mp read
  obtain ⟨⟨_, v⟩, colon, read⟩ := Option.bind_eq_some_iff.mp read
  obtain ⟨⟨j, w⟩, value, read⟩ := Option.bind_eq_some_iff.mp read
  cases read
  obtain ⟨k, rfl, keyed⟩ := quoted_of_takeText text
  obtain ⟨b, blank, rfl⟩ := colon_of_takeColon colon
  obtain ⟨t, rfl, inside⟩ := written value
  exact ⟨(key, j), '"' :: (k ++ ['"']) ++ (b ++ ':' :: t), by simp,
    .memberOfKey blank_nil (.mk keyed) blank inside, rfl⟩

/-- What is taken without opening a bracket was written, and so was what a bracket holds. -/
theorem spells_of_takeValueWith {nested : Option ((t : List Char) → Step (Fault Reason) Json t)}
    (arrays : ∀ item ∈ nested, ∀ {u}, takes (takeArray item) u = some (j, rest) →
      ∃ t, '[' :: u = t ++ rest ∧ Spells (.value (some j)) n t)
    (objects : ∀ item ∈ nested, ∀ {u}, takes (takeObject item) u = some (j, rest) →
      ∃ t, '\x7b' :: u = t ++ rest ∧ Spells (.value (some j)) n t)
    (read : takes (takeValueWith nested) s = some (j, rest)) :
    ∃ t, s = t ++ rest ∧ Spells (.element (some j)) n t := by
  obtain ⟨w, blank, before⟩ := exists_blank_skipBlanks s
  -- It is enough to find the value behind the blanks.
  suffices found : ∃ t, skipBlanks s = t ++ rest ∧ Spells (.value (some j)) n t by
    obtain ⟨t, same, spelled⟩ := found
    refine ⟨w ++ (t ++ []), ?_, .element blank spelled blank_nil⟩
    rw [before, same]
    simp
  cases found : skipBlanks s with
  | nil =>
    rw [takes_takeValueWith_blank found] at read
    cases read
  | cons c u =>
    rw [takes_takeValueWith found] at read
    split_ifs at read with isNull isTrue isFalse isNumber isText isBracket isArray
    · obtain ⟨rfl, rfl⟩ := word_of_takeWord read
      exact ⟨"null".toList, by rw [isNull]; rfl, .keyword (by simp [keywords])⟩
    · obtain ⟨rfl, rfl⟩ := word_of_takeWord read
      exact ⟨"true".toList, by rw [isTrue]; rfl, .keyword (by simp [keywords])⟩
    · obtain ⟨rfl, rfl⟩ := word_of_takeWord read
      exact ⟨"false".toList, by rw [isFalse]; rfl, .keyword (by simp [keywords])⟩
    · obtain ⟨⟨x, _⟩, number, same⟩ := Option.map_eq_some_iff.mp read
      cases same
      obtain ⟨l, t, same, written, denotes⟩ := literal_of_takeNumber number
      refine ⟨t, same, ?_⟩
      simpa [denotes, Except.toOption] using Spells.number (n := n) written
    · obtain ⟨⟨v, _⟩, text, same⟩ := Option.map_eq_some_iff.mp read
      cases same
      obtain ⟨t, same, written⟩ := quoted_of_takeText text
      exact ⟨'"' :: (t ++ ['"']), by rw [isText, same]; simp, .quoted (.mk written)⟩
    · obtain ⟨item, present, read⟩ := Option.bind_eq_some_iff.mp read
      rw [isArray]
      exact arrays item present read
    · obtain ⟨item, present, read⟩ := Option.bind_eq_some_iff.mp read
      have isObject : c = '\x7b' := by simpa [isArray] using isBracket
      rw [isObject]
      exact objects item present read

theorem array_of_takeArray
    (written : ∀ {s j rest}, takes item s = some (j, rest) →
      ∃ t, s = t ++ rest ∧ Spells (.element (some j)) n t)
    (read : takes (takeArray item) s = some (j, rest)) :
    ∃ t, '[' :: s = t ++ rest ∧ Spells (.value (some j)) (n + 1) t := by
  rw [takes_takeArray] at read
  obtain ⟨⟨items, _⟩, elements, same⟩ := Option.map_eq_some_iff.mp read
  cases same
  obtain ⟨t, rfl, finishes⟩ := finishes_of_takeElements written elements
  obtain ⟨u, rfl, ⟨rfl, blank⟩ | listed⟩ := finishes.closed Spells.elementWithBlanks
  · exact ⟨'[' :: (u ++ [']']), by simp, .emptyArray blank⟩
  · exact ⟨'[' :: (u ++ [']']), by simp, .array (spells_elements_of_listed listed)⟩

theorem foldlM_push (ms before : List (String × Json)) :
    ms.foldlM (fun before m => some (m :: before)) before = some (ms.reverse ++ before) := by
  induction ms generalizing before with
  | nil => rfl
  | cons m ms ih =>
    rw [List.foldlM_cons, List.reverse_cons, List.append_assoc]
    exact ih (m :: before)

theorem object_of_takeObject
    (written : ∀ {s j rest}, takes item s = some (j, rest) →
      ∃ t, s = t ++ rest ∧ Spells (.element (some j)) n t)
    (read : takes (takeObject item) s = some (j, rest)) :
    ∃ t, '\x7b' :: s = t ++ rest ∧ Spells (.value (some j)) (n + 1) t := by
  rw [takes_takeObject] at read
  obtain ⟨⟨taken, _⟩, members, same⟩ := Option.map_eq_some_iff.mp read
  cases same
  have placing : ∀ {before grown : List (String × Json)} {s rest : List Char},
      takes (takeMember item before) s = some (grown, rest) →
        ∃ m t, '"' :: s = t ++ rest ∧ Spells (.member (some m)) n t ∧
          some (m :: before) = some grown := by
    intro before grown s rest read
    obtain ⟨m, t, same, spelled, placed⟩ := member_of_takeMember written read
    exact ⟨m, t, same, spelled, congrArg some placed⟩
  obtain ⟨ms, t, rfl, finishes, placed⟩ := finishes_of_takeMembers placing members
  rw [foldlM_push, List.append_nil, Option.some.injEq] at placed
  obtain ⟨u, rfl, ⟨rfl, blank⟩ | listed⟩ := finishes.closed Spells.memberWithBlanks
  · refine ⟨'\x7b' :: (u ++ ['\x7d']), by simp, ?_⟩
    rw [← placed]
    exact .emptyObject blank
  · refine ⟨'\x7b' :: (u ++ ['\x7d']), by simp, ?_⟩
    subst placed
    dsimp only
    rw [List.reverse_reverse]
    exact .object (spells_members_of_listed listed)

/-- A value that was taken was written. -/
theorem spells_of_takeValue (read : takes (takeValue n) s = some (j, rest)) :
    ∃ t, s = t ++ rest ∧ Spells (.element (some j)) n t := by
  induction n generalizing s j rest with
  | zero =>
    rw [takeValue] at read
    refine spells_of_takeValueWith ?_ ?_ read
    · rintro _ ⟨⟩
    · rintro _ ⟨⟩
  | succ n ih =>
    rw [takeValue] at read
    refine spells_of_takeValueWith ?_ ?_ read
    · rintro _ ⟨⟩ u read
      exact array_of_takeArray ih read
    · rintro _ ⟨⟩ u read
      exact object_of_takeObject ih read

theorem whole_eq_ok_iff {ε α : Type} {lift : Fault Reason → ε} {item : (t : List Char) → Step ε α t}
    {x : α} : whole lift item s = .ok x ↔ ∃ rest, takes item s = some (x, rest) ∧ Blank rest := by
  unfold whole takes
  cases item s with
  | error fault => simp
  | ok r =>
    obtain ⟨w, blank, same⟩ := exists_blank_skipBlanks r.rest
    cases behind : skipBlanks r.rest with
    | nil =>
      rw [behind, List.append_nil] at same
      rw [← same] at blank
      simp only [behind, taken_ok, Option.some.injEq, Prod.mk.injEq, Except.ok.injEq]
      constructor
      · rintro rfl
        exact ⟨_, ⟨rfl, rfl⟩, blank⟩
      · rintro ⟨_, ⟨value, _⟩, _⟩
        exact value
    | cons c u =>
      have other : ¬ Blank r.rest := fun blank => by simp [skipBlanks_blank blank] at behind
      simp only [behind, taken_ok, Option.some.injEq, Prod.mk.injEq, reduceCtorEq, false_iff]
      rintro ⟨_, ⟨_, rfl⟩, blank⟩
      exact other blank

/-- A text has a document exactly if it spells it. -/
theorem ofText_eq_ok_iff {text : String} :
    ofText text = .ok j ↔ Spells (.element (some j)) maxLevels text.toList := by
  constructor
  · intro read
    obtain ⟨rest, read, blank⟩ := whole_eq_ok_iff.mp read
    obtain ⟨t, same, spelled⟩ := spells_of_takeValue read
    rw [same]
    exact spelled.elementWithBlanks blank_nil blank
  · intro spelled
    exact toOption_eq_some_iff.mp (toOption_ofText (Nat.le_refl _) spelled)

end Values

end ValueOrder.Json
