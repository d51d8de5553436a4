import ValueOrder.Proofs.Order.Sameness
import ValueOrder.Proofs.Reading.Values
import ValueOrder.Proofs.Rendering.Numbers
import ValueOrder.Value.Render

/-!
# The rendering of a value tells what it is

Whatever stands behind a rendered value, its text ends in one place only: a word ends where a
comma, a closing bracket or nothing follows, a quoted text at its own quote, and a list at its
own bracket. So values with the same text are the same tree.
-/

namespace ValueOrder

namespace Text

/-- Two texts that go on as long as their characters pass a test part where the test fails. -/
theorem stretch_append {p : Char → Bool} {s t r r' : List Char} (inside : ∀ c ∈ s, p c)
    (inside' : ∀ c ∈ t, p c) (ends : ∀ c ∈ r.head?, ¬ p c) (ends' : ∀ c ∈ r'.head?, ¬ p c)
    (same : s ++ r = t ++ r') : s = t ∧ r = r' := by
  have taken : ∀ {w r : List Char}, (∀ c ∈ w, p c) → (∀ c ∈ r.head?, ¬ p c) →
      (w ++ r).takeWhile p = w := by
    intro w r inside ends
    rw [List.takeWhile_append_of_pos inside]
    cases r with
    | nil => exact List.append_nil w
    | cons c r => rw [List.takeWhile_cons_of_neg (ends c rfl), List.append_nil]
  have words : s = t := by rw [← taken inside ends, same, taken inside' ends']
  rw [words] at same
  exact ⟨words, List.append_cancel_left same⟩

/-! ## Escapes -/

theorem mem_toDigits {c : Char} (n : Nat) (member : c ∈ Nat.toDigits 16 n) :
    ∃ k < 16, c = Nat.digitChar k := by
  induction n using Nat.strong_induction_on with
  | _ n ih =>
    by_cases small : n < 16
    · rw [Nat.toDigits_of_lt_base small, List.mem_singleton] at member
      exact ⟨n, small, member⟩
    · rw [Nat.toDigits_of_base_le (by decide) (by omega), List.mem_append,
        List.mem_singleton] at member
      rcases member with before | last
      · exact ih (n / 16) (by omega) before
      · exact ⟨n % 16, Nat.mod_lt n (by decide), last⟩

/-- Hexadecimal digits determine the number. -/
theorem eq_of_toDigits_eq {n m : Nat} (same : Nat.toDigits 16 n = Nat.toDigits 16 m) : n = m := by
  have digit : ∀ i < 16, ∀ k < 16, Nat.digitChar i = Nat.digitChar k → i = k := by decide
  -- A number of several digits never shares its digits with a number of one digit.
  have several : ∀ {i k : Nat}, i < 16 → ¬ k < 16 → Nat.toDigits 16 i ≠ Nat.toDigits 16 k := by
    intro i k small large equal
    rw [Nat.toDigits_of_lt_base small, Nat.toDigits_of_base_le (by decide) (by omega)] at equal
    have before : (Nat.toDigits 16 (k / 16)).length = 0 := by
      have length := congrArg List.length equal
      rw [List.length_append, List.length_singleton, List.length_singleton] at length
      omega
    exact Nat.toDigits_ne_nil (List.eq_nil_of_length_eq_zero before)
  induction n using Nat.strong_induction_on generalizing m with
  | _ n ih =>
    by_cases small : n < 16 <;> by_cases small' : m < 16
    · rw [Nat.toDigits_of_lt_base small, Nat.toDigits_of_lt_base small', List.cons.injEq] at same
      exact digit n small m small' same.1
    · exact absurd same (several small small')
    · exact absurd same.symm (several small' small)
    · rw [Nat.toDigits_of_base_le (by decide) (by omega),
        Nat.toDigits_of_base_le (b := 16) (n := m) (by decide) (by omega)] at same
      obtain ⟨before, last⟩ := List.append_inj' same rfl
      have high := ih (n / 16) (by omega) before
      have low := digit (n % 16) (Nat.mod_lt n (by decide)) (m % 16) (Nat.mod_lt m (by decide))
        (List.cons.inj last).1
      omega

/-- The letters behind the backslash of a short escape, with the characters that they are for. -/
def shortEscapes : List (Char × Char) :=
  [('0', '\x00'), ('t', '\t'), ('n', '\n'), ('r', '\r'), ('"', '"'), ('\\', '\\')]

/-- A character stands for itself, or it is written as a short escape or by its code point. -/
theorem escaped_cases (c : Char) : (escaped c = [c] ∧ c ≠ '"' ∧ c ≠ '\\') ∨
    (∃ letter, escaped c = ['\\', letter] ∧ (letter, c) ∈ shortEscapes) ∨
    escaped c = codePointEscape c := by
  unfold escaped
  split
  · exact .inr (.inl ⟨'0', rfl, by decide⟩)
  · exact .inr (.inl ⟨'t', rfl, by decide⟩)
  · exact .inr (.inl ⟨'n', rfl, by decide⟩)
  · exact .inr (.inl ⟨'r', rfl, by decide⟩)
  · exact .inr (.inl ⟨'"', rfl, by decide⟩)
  · exact .inr (.inl ⟨'\\', rfl, by decide⟩)
  · rename_i notQuote notBackslash
    by_cases shown : isShown c
    · rw [if_pos shown]
      exact .inl ⟨rfl, notQuote, notBackslash⟩
    · rw [if_neg shown]
      exact .inr (.inr rfl)

theorem eq_of_mem_shortEscapes {letter c d : Char} (left : (letter, c) ∈ shortEscapes)
    (right : (letter, d) ∈ shortEscapes) : c = d := by
  have once : ∀ p ∈ shortEscapes, ∀ q ∈ shortEscapes, p.1 = q.1 → p.2 = q.2 := by decide
  exact once _ left _ right rfl

theorem u_notMem_shortEscapes (c : Char) : ('u', c) ∉ shortEscapes := by
  intro member
  have other : ∀ p ∈ shortEscapes, p.1 ≠ 'u' := by decide
  exact other _ member rfl

theorem codePointEscape_append {c d : Char} {u v : List Char}
    (same : codePointEscape c ++ u = codePointEscape d ++ v) : c = d ∧ u = v := by
  have inside : ∀ n, ∀ e ∈ Nat.toDigits 16 n, decide (e ≠ '\x7d') := by
    intro n e member
    obtain ⟨k, small, rfl⟩ := mem_toDigits n member
    have other : ∀ k < 16, decide (Nat.digitChar k ≠ '\x7d') := by decide
    exact other k small
  have ends : ∀ {r : List Char}, ∀ e ∈ ('\x7d' :: r).head?, ¬ decide (e ≠ '\x7d') := by simp
  simp only [codePointEscape, List.cons_append, List.append_assoc, List.nil_append,
    List.cons.injEq, true_and] at same
  obtain ⟨digits, behind⟩ := stretch_append (inside _) (inside _) ends ends same
  exact ⟨Char.toNat_inj.mp (eq_of_toDigits_eq digits), (List.cons.inj behind).2⟩

/-- The character and what stands behind it can be told from a text that begins with its escape. -/
theorem escaped_append {c d : Char} {u v : List Char} (same : escaped c ++ u = escaped d ++ v) :
    c = d ∧ u = v := by
  rcases escaped_cases c with ⟨plain, _, noEscape⟩ | ⟨letter, short, member⟩ | long
  · rw [plain, List.singleton_append] at same
    rcases escaped_cases d with ⟨plain', _⟩ | ⟨letter', short', _⟩ | long'
    · rw [plain', List.singleton_append] at same
      exact List.cons.inj same
    · rw [short', List.cons_append] at same
      exact absurd (List.cons.inj same).1 noEscape
    · rw [long', codePointEscape, List.cons_append] at same
      exact absurd (List.cons.inj same).1 noEscape
  · rw [short, List.cons_append, List.singleton_append] at same
    rcases escaped_cases d with ⟨plain', _, noEscape'⟩ | ⟨letter', short', member'⟩ | long'
    · rw [plain', List.singleton_append] at same
      exact absurd (List.cons.inj same).1.symm noEscape'
    · rw [short', List.cons_append, List.singleton_append] at same
      obtain ⟨letters, behind⟩ := List.cons.inj (List.cons.inj same).2
      rw [letters] at member
      exact ⟨eq_of_mem_shortEscapes member member', behind⟩
    · simp only [long', codePointEscape, List.cons_append, List.cons.injEq] at same
      rw [same.2.1] at member
      exact absurd member (u_notMem_shortEscapes c)
  · rcases escaped_cases d with ⟨plain', _, noEscape'⟩ | ⟨letter', short', member'⟩ | long'
    · rw [long, plain', codePointEscape, List.cons_append, List.singleton_append] at same
      exact absurd (List.cons.inj same).1.symm noEscape'
    · simp only [long, short', codePointEscape, List.cons_append, List.cons.injEq] at same
      rw [← same.2.1] at member'
      exact absurd member' (u_notMem_shortEscapes d)
    · rw [long, long'] at same
      exact codePointEscape_append same

theorem escaped_front (c : Char) : ∃ first rest, escaped c = first :: rest ∧ first ≠ '"' := by
  rcases escaped_cases c with ⟨plain, notQuote, _⟩ | ⟨letter, short, _⟩ | long
  · exact ⟨c, [], plain, notQuote⟩
  · exact ⟨'\\', [letter], short, by decide⟩
  · exact ⟨'\\', _, long, by decide⟩

/-- Escaped characters go on until the quote that ends the text. -/
theorem flatMap_escaped_append {s t r r' : List Char}
    (same : s.flatMap escaped ++ '"' :: r = t.flatMap escaped ++ '"' :: r') : s = t ∧ r = r' := by
  induction s generalizing t with
  | nil =>
    cases t with
    | nil => exact ⟨rfl, (List.cons.inj same).2⟩
    | cons d t =>
      obtain ⟨first, rest, front, notQuote⟩ := escaped_front d
      rw [List.flatMap_cons, front] at same
      exact absurd (List.cons.inj same).1.symm notQuote
  | cons c s ih =>
    cases t with
    | nil =>
      obtain ⟨first, rest, front, notQuote⟩ := escaped_front c
      rw [List.flatMap_cons, front] at same
      exact absurd (List.cons.inj same).1 notQuote
    | cons d t =>
      rw [List.flatMap_cons, List.flatMap_cons, List.append_assoc, List.append_assoc] at same
      obtain ⟨rfl, behind⟩ := escaped_append same
      obtain ⟨rfl, after⟩ := ih behind
      exact ⟨rfl, after⟩

theorem quotedChars_append {s t r r' : List Char}
    (same : quotedChars s ++ r = quotedChars t ++ r') : s = t ∧ r = r' := by
  simp only [quotedChars, List.cons_append, List.append_assoc, List.nil_append] at same
  exact flatMap_escaped_append (List.cons.inj same).2

end Text

namespace Value

/-! ## The first character -/

/-- The kind of the values whose texts begin with the character. -/
def kindOfFront (c : Char) : Kind :=
  if c = '"' then .text else if c = '[' then .list else if c = 'T' ∨ c = 'F' then .boolean
  else .number

/-- What may stand behind a value: nothing, a comma or a closing bracket. -/
def Ends (r : List Char) : Prop := ∀ c ∈ r.head?, c = ',' ∨ c = ']'

theorem kindOfFront_of_isNumeralChar {c : Char} (numeral : Layout.IsNumeralChar c) :
    kindOfFront c = .number ∧ c ≠ ',' ∧ c ≠ ']' := by
  have other : ∀ d ∈ ['"', '[', 'T', 'F', ',', ']'], c ≠ d := by
    have strangers : ['"', '[', 'T', 'F', ',', ']'].all fun d =>
        !d.isDigit && d ∉ ['.', '-', 'i', 'n', 'f', 'a'] := by decide
    rintro d member rfl
    have stranger := List.all_eq_true.mp strangers c member
    simp only [Bool.and_eq_true, Bool.not_eq_true', decide_eq_true_eq] at stranger
    rcases numeral with digit | letter
    · exact Bool.false_ne_true (stranger.1.symm.trans digit)
    · exact stranger.2 letter
  simp only [List.mem_cons, List.not_mem_nil, or_false, forall_eq_or_imp, forall_eq] at other
  obtain ⟨quote, bracket, t, f, comma, closing⟩ := other
  exact ⟨by simp [kindOfFront, quote, bracket, t, f], comma, closing⟩

/-- The first character of a rendered value tells the kind, and no value begins as what may stand
behind a value. -/
theorem renderChars_front (v : Value) :
    ∃ c rest, v.renderChars = c :: rest ∧ kindOfFront c = v.kind ∧ c ≠ ',' ∧ c ≠ ']' := by
  cases v with
  | number x =>
    obtain ⟨c, rest, front, numeral⟩ := Layout.plain_text_front x
    exact ⟨c, rest, by rw [renderChars, front], kindOfFront_of_isNumeralChar numeral⟩
  | boolean b =>
    cases b with
    | true => exact ⟨'T', ['r', 'u', 'e'], rfl, by decide⟩
    | false => exact ⟨'F', ['a', 'l', 's', 'e'], rfl, by decide⟩
  | text s => exact ⟨'"', _, by rw [renderChars, Text.quotedChars], rfl, by decide⟩
  | list items => exact ⟨'[', _, by rw [renderChars], rfl, by decide⟩

theorem kind_eq_of_append {v w : Value} {r r' : List Char}
    (same : v.renderChars ++ r = w.renderChars ++ r') : v.kind = w.kind := by
  obtain ⟨c, rest, front, kind, _⟩ := renderChars_front v
  obtain ⟨c', rest', front', kind', _⟩ := renderChars_front w
  rw [front, front'] at same
  rw [← kind, ← kind', (List.cons.inj same).1]

/-! ## Words -/

/-- Words without commas and closing brackets go on until one of them follows. -/
theorem word_append {s t r r' : List Char} (inside : ∀ c ∈ s, c ≠ ',' ∧ c ≠ ']')
    (inside' : ∀ c ∈ t, c ≠ ',' ∧ c ≠ ']') (ends : Ends r) (ends' : Ends r')
    (same : s ++ r = t ++ r') : s = t ∧ r = r' := by
  have stops : ∀ {r : List Char}, Ends r → ∀ c ∈ r.head?, ¬ decide (c ≠ ',' ∧ c ≠ ']') := by
    intro r ends c first
    rcases ends c first with rfl | rfl <;> decide
  refine Text.stretch_append ?_ ?_ (stops ends) (stops ends') same
  · simpa using inside
  · simpa using inside'

theorem inside_of_number (x : Binary64) :
    ∀ c ∈ (Layout.plain.text x).toList, c ≠ ',' ∧ c ≠ ']' := by
  intro c member
  exact (kindOfFront_of_isNumeralChar (Layout.isNumeralChar_of_mem_text member)).2

theorem inside_of_boolean (b : Bool) : ∀ c ∈ (boolWord b).toList, c ≠ ',' ∧ c ≠ ']' := by
  cases b <;> simp [boolWord]

theorem oneNaN_number_eq_iff {x y : Binary64} :
    oneNaN (.number x) = oneNaN (.number y) ↔ x = y ∨ (x.isNaN ∧ y.isNaN) := by
  have one : Binary64.nan.isNaN := by decide
  rw [oneNaN, oneNaN, number.injEq]
  by_cases nan : x.isNaN <;> by_cases nan' : y.isNaN
  · simp [nan, nan']
  · rw [if_pos nan, if_neg nan']
    refine ⟨?_, ?_⟩
    · rintro rfl
      exact absurd one nan'
    · rintro (rfl | ⟨_, both⟩)
      · exact absurd nan nan'
      · exact absurd both nan'
  · rw [if_neg nan, if_pos nan']
    refine ⟨?_, ?_⟩
    · rintro rfl
      exact absurd one nan
    · rintro (rfl | ⟨both, _⟩)
      · exact absurd nan' nan
      · exact absurd both nan
  · simp [nan, nan']

/-! ## Values and lists -/

/-- Whether the value and what stands behind it can be told from a text that begins with the
value. -/
def IsLegible (v : Value) : Prop :=
  ∀ (w : Value) (r r' : List Char), Ends r → Ends r' → v.renderChars ++ r = w.renderChars ++ r' →
    v.oneNaN = w.oneNaN ∧ r = r'

/-- What follows the first element of a list up to the end of the text. -/
def behindFirst (r : List Char) : List Value → List Char
  | [] => ']' :: r
  | v :: rest => ',' :: ' ' :: (renderItems (v :: rest) ++ ']' :: r)

theorem ends_behindFirst (r : List Char) (rest : List Value) : Ends (behindFirst r rest) := by
  cases rest with
  | nil => simp [behindFirst, Ends]
  | cons v rest => simp [behindFirst, Ends]

theorem renderItems_cons (v : Value) (rest : List Value) (r : List Char) :
    renderItems (v :: rest) ++ ']' :: r = v.renderChars ++ behindFirst r rest := by
  cases rest with
  | nil => rw [renderItems, behindFirst]
  | cons w rest => simp only [renderItems, behindFirst, List.append_assoc, List.cons_append]

/-- A list of elements begins with an element, so it does not begin with the closing bracket. -/
theorem renderItems_cons_ne (v : Value) (rest : List Value) (r r' : List Char) :
    renderItems (v :: rest) ++ ']' :: r ≠ ']' :: r' := by
  intro same
  obtain ⟨c, more, front, _, _, notClosing⟩ := renderChars_front v
  rw [renderItems_cons, front] at same
  exact notClosing (List.cons.inj same).1

theorem renderItems_append {xs ys : List Value} {r r' : List Char} (each : ∀ v ∈ xs, IsLegible v)
    (same : renderItems xs ++ ']' :: r = renderItems ys ++ ']' :: r') :
    oneNaNItems xs = oneNaNItems ys ∧ r = r' := by
  induction xs generalizing ys with
  | nil =>
    cases ys with
    | nil => exact ⟨rfl, (List.cons.inj same).2⟩
    | cons w ys => exact absurd same.symm (renderItems_cons_ne w ys r' r)
  | cons v xs ih =>
    cases ys with
    | nil => exact absurd same (renderItems_cons_ne v xs r r')
    | cons w ys =>
      rw [renderItems_cons, renderItems_cons] at same
      obtain ⟨first, behind⟩ := each v (.head xs) w _ _ (ends_behindFirst r xs)
        (ends_behindFirst r' ys) same
      have rest : oneNaNItems xs = oneNaNItems ys ∧ r = r' := by
        cases xs with
        | nil =>
          cases ys with
          | nil => exact ⟨rfl, (List.cons.inj behind).2⟩
          | cons y ys => exact absurd (List.cons.inj behind).1 (by decide)
        | cons x xs =>
          cases ys with
          | nil => exact absurd (List.cons.inj behind).1 (by decide)
          | cons y ys =>
            exact ih (fun u member => each u (.tail v member))
              (List.cons.inj (List.cons.inj behind).2).2
      rw [oneNaNItems, oneNaNItems, first, rest.1]
      exact ⟨rfl, rest.2⟩

/-- Every value can be told from its text, whatever may stand behind it. -/
theorem isLegible (v : Value) : IsLegible v := by
  induction v using depth_induction with
  | number x =>
    intro w r r' ends ends' same
    cases w with
    | number y =>
      rw [renderChars, renderChars] at same
      obtain ⟨words, behind⟩ :=
        word_append (inside_of_number x) (inside_of_number y) ends ends' same
      have numbers := Layout.plain_text_eq_iff.mp (String.toList_inj.mp words)
      exact ⟨oneNaN_number_eq_iff.mpr numbers, behind⟩
    | boolean b => cases kind_eq_of_append same
    | text s => cases kind_eq_of_append same
    | list items => cases kind_eq_of_append same
  | boolean b =>
    intro w r r' ends ends' same
    cases w with
    | number y => cases kind_eq_of_append same
    | boolean b' =>
      rw [renderChars, renderChars] at same
      obtain ⟨words, behind⟩ :=
        word_append (inside_of_boolean b) (inside_of_boolean b') ends ends' same
      have booleans : b = b' := by
        cases b <;> cases b' <;> first | rfl | exact absurd words (by decide)
      rw [booleans]
      exact ⟨rfl, behind⟩
    | text s => cases kind_eq_of_append same
    | list items => cases kind_eq_of_append same
  | text s =>
    intro w r r' ends ends' same
    cases w with
    | number y => cases kind_eq_of_append same
    | boolean b => cases kind_eq_of_append same
    | text t =>
      rw [renderChars, renderChars] at same
      obtain ⟨characters, behind⟩ := Text.quotedChars_append same
      rw [String.toList_inj.mp characters]
      exact ⟨rfl, behind⟩
    | list items => cases kind_eq_of_append same
  | list items ih =>
    intro w r r' ends ends' same
    cases w with
    | number y => cases kind_eq_of_append same
    | boolean b => cases kind_eq_of_append same
    | text s => cases kind_eq_of_append same
    | list items' =>
      simp only [renderChars, List.cons_append, List.append_assoc, List.nil_append] at same
      obtain ⟨elements, behind⟩ := renderItems_append ih (List.cons.inj same).2
      rw [oneNaN, oneNaN, elements]
      exact ⟨rfl, behind⟩

/-! ## Rendered values -/

mutual

theorem renderChars_oneNaN (v : Value) : renderChars v.oneNaN = renderChars v := by
  cases v with
  | number x =>
    have same : Layout.plain.text (if x.isNaN then .nan else x) = Layout.plain.text x := by
      split_ifs with nan
      · exact Layout.plain_text_eq_iff.mpr (.inr ⟨by decide, nan⟩)
      · rfl
    rw [oneNaN, renderChars, renderChars, same]
  | boolean b => rfl
  | text s => rfl
  | list items => rw [oneNaN, renderChars, renderChars, renderItems_oneNaNItems items]

theorem renderItems_oneNaNItems (items : List Value) :
    renderItems (oneNaNItems items) = renderItems items := by
  match items with
  | [] => rfl
  | [v] => rw [oneNaNItems, oneNaNItems, renderItems, renderItems, renderChars_oneNaN v]
  | v :: w :: rest =>
    have behind := renderItems_oneNaNItems (w :: rest)
    rw [oneNaNItems] at behind
    rw [oneNaNItems, oneNaNItems, renderItems, renderItems, renderChars_oneNaN v, behind]

end

/-- Two values have the same text exactly if they are the same tree: alike in kinds, in every
character of their texts, in their booleans, in the lengths and the order of their lists, and
in every bit of their numbers, where all NaNs count as one. -/
theorem render_eq_iff (v w : Value) : v.render = w.render ↔ v.oneNaN = w.oneNaN := by
  constructor
  · intro same
    have nothing : Ends [] := nofun
    have characters : v.renderChars ++ [] = w.renderChars ++ [] := by
      rw [String.ofList_inj.mp same]
    exact (isLegible v w [] [] nothing nothing characters).1
  · intro same
    rw [render, render, ← renderChars_oneNaN v, same, renderChars_oneNaN w]

end Value

end ValueOrder
