import ValueOrder.Proofs.Reading.Steps

/-!
# Number literals

A literal is a sign, digits, a fraction and an exponent, the last two only if they are
written. The reader takes all of it, if what follows cannot belong to a number, and
digits of an integer below `2 ^ 64` are gathered into that integer.
-/

namespace ValueOrder.Json

/-! ## Spelling -/

/-- A run of decimal digits. -/
structure IsDigits (ds : List Char) : Prop where
  nonempty : ds ≠ []
  digits : ∀ c ∈ ds, c.isDigit

/-- The sign before a number. -/
inductive SignText : Bool → List Char → Prop where
  | minus : SignText true ['-']
  | none : SignText false []

/-- The fraction of a number by its digits. -/
inductive FractionText : List Nat → List Char → Prop where
  | none : FractionText [] []
  | point {ds : List Char} (digits : IsDigits ds) : FractionText (ds.map digitValue) ('.' :: ds)

/-- The sign of an exponent, which may also be a plus. -/
inductive ExponentSignText : Bool → List Char → Prop where
  | minus : ExponentSignText true ['-']
  | plus : ExponentSignText false ['+']
  | none : ExponentSignText false []

/-- The exponent of a number. -/
inductive ExponentText : Option (Bool × List Nat) → List Char → Prop where
  | none : ExponentText none []
  | mark {mark : Char} {negative : Bool} {sign ds : List Char} (letter : mark = 'e' ∨ mark = 'E')
      (signed : ExponentSignText negative sign) (digits : IsDigits ds) :
      ExponentText (some (negative, ds.map digitValue)) (mark :: (sign ++ ds))

/-- The ways to write a number literal. Before the point a zero stands alone. -/
inductive LiteralText : Literal → List Char → Prop where
  | mk {negative : Bool} {fraction : List Nat} {exponent : Option (Bool × List Nat)}
      {sign ds f e : List Char} (signed : SignText negative sign) (digits : IsDigits ds)
      (zeroAlone : ds.head? = some '0' → ds = ['0']) (point : FractionText fraction f)
      (mark : ExponentText exponent e) :
      LiteralText ⟨negative, ds.map digitValue, fraction, exponent⟩ (sign ++ (ds ++ (f ++ e)))

/-- The text does not go on with a digit. -/
def NoDigit (s : List Char) : Prop := ∀ c ∈ s.head?, c.isDigit = false

/-- The text does not go on with anything that could belong to a number. -/
def NumberEnds (s : List Char) : Prop :=
  ∀ c ∈ s.head?, c.isDigit = false ∧ c ≠ '.' ∧ c ≠ 'e' ∧ c ≠ 'E'

theorem numberEnds_nil : NumberEnds [] := nofun

theorem ne_of_isDigit {c d : Char} (digit : c.isDigit) (other : d.isDigit = false) : c ≠ d := by
  rintro rfl
  rw [digit] at other
  cases other

theorem noDigit_of_numberEnds {s : List Char} (ends : NumberEnds s) : NoDigit s :=
  fun c first => (ends c first).1

/-- No blank could belong to a number. -/
theorem endsNumber_of_isBlank {c : Char} (blank : isBlank c) :
    c.isDigit = false ∧ c ≠ '.' ∧ c ≠ 'e' ∧ c ≠ 'E' := by
  simp only [isBlank, Bool.or_eq_true, decide_eq_true_eq] at blank
  rcases blank with ((rfl | rfl) | rfl) | rfl <;> decide

theorem numberEnds_cons {c : Char} (other : c.isDigit = false ∧ c ≠ '.' ∧ c ≠ 'e' ∧ c ≠ 'E')
    (s : List Char) : NumberEnds (c :: s) := by
  rintro _ ⟨⟩
  exact other

/-- A number ends before blanks if it would end behind them. -/
theorem numberEnds_append {w s : List Char} (blank : Blank w) (ends : NumberEnds s) :
    NumberEnds (w ++ s) := by
  cases w with
  | nil => exact ends
  | cons c w => exact numberEnds_cons (endsNumber_of_isBlank (blank c (.head w))) _

/-! ## Reading -/

/-- What a reader that may take nothing takes and leaves. -/
def takesIfAny {ε α : Type} (reader : (s : List Char) → Except ε (α × Rest s)) (s : List Char) :
    Option (α × List Char) :=
  match reader s with
  | .ok (x, rest) => some (x, rest.1)
  | .error _ => none

theorem takesIfAny_eq_some_iff {ε α : Type} {reader : (s : List Char) → Except ε (α × Rest s)}
    {s rest : List Char} {x : α} :
    takesIfAny reader s = some (x, rest) ↔ ∃ h, reader s = .ok (x, ⟨rest, h⟩) := by
  unfold takesIfAny
  cases reader s with
  | error e => simp
  | ok p =>
    obtain ⟨y, r, h⟩ := p
    constructor
    · rintro ⟨⟩
      exact ⟨h, rfl⟩
    · rintro ⟨_, ⟨⟩⟩
      rfl

theorem skipDigits_append {ds s : List Char} (digits : ∀ c ∈ ds, c.isDigit) (ends : NoDigit s) :
    leadingDigits (ds ++ s) = ds.map digitValue ∧ skipDigits (ds ++ s) = s := by
  unfold leadingDigits skipDigits
  rw [List.takeWhile_append_of_pos digits, List.dropWhile_append_of_pos digits]
  cases s with
  | nil => simp
  | cons c s =>
    have stop : c.isDigit = false := ends c rfl
    simp [stop]

theorem takes_takeDigits (atEnd : Reason) {ds s : List Char} (digits : IsDigits ds)
    (ends : NoDigit s) : takes (takeDigits atEnd) (ds ++ s) = some (ds.map digitValue, s) := by
  obtain ⟨nonempty, all⟩ := digits
  cases ds with
  | nil => exact absurd rfl nonempty
  | cons c ds =>
    obtain ⟨first, others⟩ := List.forall_mem_cons.mp all
    obtain ⟨leading, rest⟩ := skipDigits_append others ends
    simp [takes, takeDigits, first, leading, rest]

theorem takes_takeWhole_zero (atEnd : Reason) {s : List Char} (ends : NoDigit s) :
    takes (takeWhole atEnd) ('0' :: s) = some ([0], s) := by
  cases s with
  | nil => rfl
  | cons d s =>
    have stop : d.isDigit = false := ends d rfl
    simp [takes, takeWhole, stop]

theorem takes_takeWhole_of_ne (atEnd : Reason) {c : Char} (nonzero : c ≠ '0') (s : List Char) :
    takes (takeWhole atEnd) (c :: s) = takes (takeDigits atEnd) (c :: s) := by
  rw [takes, takeWhole]
  · rfl
  · rintro d rest ⟨⟩
    exact nonzero rfl

theorem takes_takeWhole (atEnd : Reason) {ds s : List Char} (digits : IsDigits ds)
    (zeroAlone : ds.head? = some '0' → ds = ['0']) (ends : NoDigit s) :
    takes (takeWhole atEnd) (ds ++ s) = some (ds.map digitValue, s) := by
  by_cases zero : ds.head? = some '0'
  · rw [zeroAlone zero]
    exact takes_takeWhole_zero atEnd ends
  · rw [← takes_takeDigits atEnd digits ends]
    obtain ⟨c, ds, rfl⟩ := List.exists_cons_of_ne_nil digits.nonempty
    exact takes_takeWhole_of_ne atEnd (by simpa using zero) (ds ++ s)

theorem takes_takeFraction (atEnd : Reason) {fraction : List Nat} {f s : List Char}
    (written : FractionText fraction f) (ends : NoDigit s) (noPoint : '.' ∉ s.head?) :
    takesIfAny (takeFraction atEnd) (f ++ s) = some (fraction, s) := by
  cases written with
  | none =>
    cases s with
    | nil => rfl
    | cons c s =>
      have other : c ≠ '.' := by simpa [eq_comm] using noPoint
      simp [takesIfAny, takeFraction, other, Rest.all]
  | @point ds digits =>
    obtain ⟨r, ran, value, rest⟩ := taken_eq_some_iff.mp (takes_takeDigits atEnd digits ends)
    simp [takesIfAny, takeFraction, ran, Except.map, value, rest]

theorem takes_takeExponent (atEnd : Reason) {exponent : Option (Bool × List Nat)} {e s : List Char}
    (written : ExponentText exponent e) (ends : NumberEnds s) :
    takesIfAny (takeExponent atEnd) (e ++ s) = some (exponent, s) := by
  cases written with
  | none =>
    cases s with
    | nil => rfl
    | cons c s =>
      obtain ⟨_, _, lower, upper⟩ := ends c rfl
      simp [takesIfAny, takeExponent, lower, upper, Rest.all]
  | @mark mark negative sign ds letter signed digits =>
    have signRead : ∃ h, takeSign (sign ++ (ds ++ s)) = (negative, ⟨ds ++ s, h⟩) := by
      obtain ⟨nonempty, all⟩ := digits
      cases signed with
      | minus => exact ⟨_, rfl⟩
      | plus => exact ⟨_, rfl⟩
      | none =>
        obtain ⟨c, ds, rfl⟩ := List.exists_cons_of_ne_nil nonempty
        have digit : c.isDigit := all c (.head ds)
        have notMinus : c ≠ '-' := ne_of_isDigit digit rfl
        have notPlus : c ≠ '+' := ne_of_isDigit digit rfl
        exact ⟨Nat.le_refl _, by simp [takeSign, notMinus, notPlus, Rest.all]⟩
    obtain ⟨h, signRead⟩ := signRead
    obtain ⟨r, ran, value, rest⟩ :=
      taken_eq_some_iff.mp (takes_takeDigits atEnd digits (noDigit_of_numberEnds ends))
    have isMark : (mark = 'e' || mark = 'E') = true := by simpa using letter
    rw [List.cons_append, List.append_assoc, takesIfAny, takeExponent, if_pos isMark, signRead]
    simp only [ran, Except.map, value, rest]

/-- A literal is taken part by part. -/
theorem takes_takeLiteral_of_parts {atEnd : Reason} {s s₁ s₂ s₃ : List Char} {whole fraction : List Nat}
    {exponent : Option (Bool × List Nat)}
    (first : takes (takeWhole atEnd) (takeMinus s).2.1 = some (whole, s₁))
    (second : takesIfAny (takeFraction atEnd) s₁ = some (fraction, s₂))
    (third : takesIfAny (takeExponent atEnd) s₂ = some (exponent, s₃)) :
    takes (takeLiteral atEnd) s = some (⟨(takeMinus s).1, whole, fraction, exponent⟩, s₃) := by
  obtain ⟨r, ran, rfl, rfl⟩ := taken_eq_some_iff.mp first
  obtain ⟨h₂, ranFraction⟩ := takesIfAny_eq_some_iff.mp second
  obtain ⟨h₃, ranExponent⟩ := takesIfAny_eq_some_iff.mp third
  unfold takes takeLiteral
  simp only [ran, ranFraction, ranExponent, bind, Except.bind, taken_ok]

theorem takeMinus_append {negative : Bool} {sign ds : List Char} (written : SignText negative sign)
    (digits : IsDigits ds) (s : List Char) :
    (takeMinus (sign ++ (ds ++ s))).1 = negative ∧ (takeMinus (sign ++ (ds ++ s))).2.1 = ds ++ s := by
  cases written with
  | minus => exact ⟨rfl, rfl⟩
  | none =>
    obtain ⟨nonempty, all⟩ := digits
    obtain ⟨c, ds, rfl⟩ := List.exists_cons_of_ne_nil nonempty
    have digit : c.isDigit := all c (.head ds)
    have notMinus : c ≠ '-' := ne_of_isDigit digit rfl
    simp [takeMinus, notMinus, Rest.all]

theorem noDigit_fraction {fraction : List Nat} {f s : List Char} (written : FractionText fraction f)
    (ends : NoDigit s) : NoDigit (f ++ s) := by
  cases written with
  | none => exact ends
  | point digits =>
    rintro _ ⟨⟩
    rfl

theorem noDigit_exponent {exponent : Option (Bool × List Nat)} {e s : List Char}
    (written : ExponentText exponent e) (ends : NumberEnds s) :
    NoDigit (e ++ s) ∧ '.' ∉ (e ++ s).head? := by
  cases written with
  | none => exact ⟨noDigit_of_numberEnds ends, fun first => (ends '.' first).2.1 rfl⟩
  | mark letter signed digits =>
    rcases letter with rfl | rfl
    all_goals exact ⟨by rintro _ ⟨⟩; rfl, by simp⟩

/-- A literal is taken whole if nothing behind it could belong to it. -/
theorem takes_takeLiteral (atEnd : Reason) {l : Literal} {t s : List Char}
    (written : LiteralText l t) (ends : NumberEnds s) :
    takes (takeLiteral atEnd) (t ++ s) = some (l, s) := by
  cases written with
  | @mk negative fraction exponent sign ds f e signed digits zeroAlone point mark =>
    obtain ⟨noDigit, noPoint⟩ := noDigit_exponent mark ends
    obtain ⟨minus, behind⟩ := takeMinus_append signed digits (f ++ (e ++ s))
    have whole := takes_takeWhole atEnd digits zeroAlone (noDigit_fraction point noDigit)
    rw [← behind] at whole
    have read := takes_takeLiteral_of_parts whole (takes_takeFraction atEnd point noDigit noPoint)
      (takes_takeExponent atEnd mark ends)
    simpa only [List.append_assoc, minus] using read

/-- A literal is taken as the number that it denotes, unless that is out of range. -/
theorem takes_takeNumber {l : Literal} {t s : List Char} (written : LiteralText l t)
    (ends : NumberEnds s) : takes takeNumber (t ++ s) = leaving l.number.toOption s := by
  have step : takes takeNumber (t ++ s) = (takes (takeLiteral .endInValue) (t ++ s)).bind
      fun (l, s) => leaving l.number.toOption s := by
    refine taken_bind fun read => ?_
    show _ = leaving read.value.number.toOption read.rest
    cases read.value.number <;> rfl
  rw [step, takes_takeLiteral .endInValue written ends]
  rfl

/-! ## Integers -/

theorem le_ofDigitChars (ds : List Char) (n : Nat) : n ≤ Nat.ofDigitChars 10 ds n := by
  induction ds generalizing n with
  | nil => exact Nat.le_refl n
  | cons c ds ih =>
    rw [Nat.ofDigitChars_cons]
    have := ih (10 * n + (c.toNat - '0'.toNat))
    omega

/-- Digits of a number below `2 ^ 64` are gathered to that number, and none is dropped. -/
theorem gather_digits {ds : List Char} {n : Nat}
    (small : Nat.ofDigitChars 10 ds n < 0x10000000000000000) :
    gather n (ds.map digitValue) = (Nat.ofDigitChars 10 ds n, 0) := by
  induction ds generalizing n with
  | nil => rfl
  | cons c ds ih =>
    rw [Nat.ofDigitChars_cons, Nat.mul_comm] at small ⊢
    have fits := Nat.lt_of_le_of_lt (le_ofDigitChars ds _) small
    rw [List.map_cons, gather, digitValue, if_pos fits]
    exact ih small

theorem isDigits_toDigits (n : Nat) : IsDigits (Nat.toDigits 10 n) :=
  ⟨Nat.toDigits_ne_nil, fun _ member => Nat.isDigit_of_mem_toDigits (by decide) (by decide) member⟩

/-- Only the number zero begins with the digit zero. -/
theorem toDigits_zeroAlone (n : Nat) (zero : (Nat.toDigits 10 n).head? = some '0') :
    Nat.toDigits 10 n = ['0'] := by
  induction n using Nat.strongRecOn with
  | ind n ih =>
    rw [Nat.toDigits_eq_if (by decide)] at zero ⊢
    split
    · next small =>
      rw [if_pos small] at zero
      simpa using zero
    · next large =>
      have leading : (Nat.toDigits 10 (n / 10)).head? = some '0' := by
        obtain ⟨c, ds, front⟩ := List.exists_cons_of_ne_nil (Nat.toDigits_ne_nil (n := n / 10) (b := 10))
        rw [if_neg large, front] at zero
        rw [front]
        exact zero
      have front := ih (n / 10) (by omega) leading
      have value : n / 10 = 0 := by
        rw [← Nat.ofDigitChars_ten_toDigits (n := n / 10), front]
        rfl
      omega

theorem gather_toDigits {n : Nat} (small : n < 0x10000000000000000) :
    gather 0 ((Nat.toDigits 10 n).map digitValue) = (n, 0) := by
  rw [← Nat.ofDigitChars_ten_toDigits (n := n)] at small
  rw [gather_digits small, Nat.ofDigitChars_ten_toDigits]

/-- The decimal notation of an integer of 64 bits is a literal that denotes it. -/
theorem exists_literal_of_int {k : Int} (low : -0x8000000000000000 ≤ k)
    (high : k < 0x10000000000000000) :
    ∃ l, LiteralText l (toString k).toList ∧ l.number = .ok (.integer k) := by
  cases k with
  | ofNat n =>
    refine ⟨⟨false, (Nat.toDigits 10 n).map digitValue, [], none⟩, ?_, ?_⟩
    · have written := LiteralText.mk .none (isDigits_toDigits n) (toDigits_zeroAlone n) .none .none
      simpa [Int.repr] using written
    · have small : n < 0x10000000000000000 := by
        rw [Int.ofNat_eq_natCast] at high
        omega
      simp [Literal.number, Literal.integer, gather_toDigits small]
  | negSucc n =>
    refine ⟨⟨true, (Nat.toDigits 10 (n + 1)).map digitValue, [], none⟩, ?_, ?_⟩
    · have written := LiteralText.mk .minus (isDigits_toDigits (n + 1)) (toDigits_zeroAlone (n + 1))
        .none .none
      simpa [Int.repr] using written
    · have small : n + 1 ≤ 0x8000000000000000 := by omega
      have gathered := gather_toDigits (n := n + 1) (by omega)
      have fits : ¬ 0x8000000000000000 < n + 1 := by omega
      simp [Literal.number, Literal.integer, gathered, fits, Int.negSucc_eq]

end ValueOrder.Json
