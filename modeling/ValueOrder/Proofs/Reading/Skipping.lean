import ValueOrder.Json.Skip
import ValueOrder.Proofs.Reading.Documents

/-!
# Skipping documents

Whatever follows the grammar of documents is skipped to its end. The depth does not matter,
nor does it matter whether a number is out of range or half of a surrogate pair stands alone.
-/

namespace ValueOrder.Json

/-! ## Texts -/

theorem takes_skipEscape_short {letter c : Char} (escape : (letter, c) ∈ shortEscapes)
    (s : List Char) : takes skipEscape (letter :: s) = some ((), s) := by
  unfold takes skipEscape
  simp [shortEscape?_of_mem escape]

theorem takes_skipEscape_unit {n : Nat} {digits : List Char} (unit : UnitText n digits)
    (s : List Char) : takes skipEscape ('u' :: (digits ++ s)) = some ((), s) := by
  have step : takes skipEscape ('u' :: (digits ++ s)) =
      (takes takeUnit (digits ++ s)).map (Prod.map (fun _ => ()) id) := by
    unfold takes skipEscape
    simp only [shortEscape?]
    exact taken_map (fun _ => ()) fun _ => ⟨rfl, rfl⟩
  rw [step, takes_takeUnit unit]
  rfl

theorem takes_skipText_quote (s : List Char) : takes skipText ('"' :: s) = some ((), s) := by
  simp [takes, skipText]

theorem takes_skipText_plain {c : Char} (plain : IsPlain c) (s : List Char) :
    takes skipText (c :: s) = takes skipText s := by
  obtain ⟨high, notQuote, notSlash⟩ := plain
  have visible : ¬ c < ' ' := fun low => Nat.not_lt_of_le high (Char.lt_def.mp low)
  rw [takes, skipText, if_neg notQuote, if_neg notSlash, if_neg visible]
  exact taken_map_from _ _

theorem takes_skipText_escape (s : List Char) :
    takes skipText ('\\' :: s) = (takes skipEscape s).bind fun (_, s) => takes skipText s := by
  rw [takes, skipText]
  simp only [Char.reduceEq, if_false, if_true, takes]
  cases skipEscape s with
  | error fault => rfl
  | ok d => exact taken_map_from _ _

/-- Whatever its pieces are, a text is skipped up to the closing quote. -/
theorem takes_skipText {ps : List Piece} {t : List Char} (written : PiecesText ps t)
    (s : List Char) : takes skipText (t ++ '"' :: s) = some ((), s) := by
  induction written with
  | nil => exact takes_skipText_quote s
  | cons first _ ih =>
    cases first with
    | plain plain => rw [List.singleton_append, List.cons_append, takes_skipText_plain plain, ih]
    | short escape =>
      simp only [List.cons_append, List.nil_append]
      rw [takes_skipText_escape, takes_skipEscape_short escape]
      exact ih
    | unit unit =>
      simp only [List.cons_append, List.append_assoc]
      rw [takes_skipText_escape, takes_skipEscape_unit unit]
      exact ih

/-! ## Beginnings of values -/

/-- Something was skipped that opened no bracket. -/
def scalar {α : Type} (skipped : Option (α × List Char)) : Option (Option Bracket × List Char) :=
  skipped.map (Prod.map (fun _ => none) id)

section FirstCharacter
variable {s u : List Char} {c : Char}

/-- What stands at the front, behind blanks, decides how a value is skipped. -/
theorem takes_skipToken (found : skipBlanks s = c :: u) :
    takes skipToken s =
      if c = 'n' then scalar (takesIfAny (takeWord "ull" .null) u)
      else if c = 't' then scalar (takesIfAny (takeWord "rue" .null) u)
      else if c = 'f' then scalar (takesIfAny (takeWord "alse" .null) u)
      else if c = '-' || c.isDigit then scalar (takes (takeLiteral .invalidNumber) (c :: u))
      else if c = '"' then scalar (takes skipText u)
      else if c = '[' then some (some .array, u)
      else if c = '\x7b' then some (some .object, u)
      else none := by
  have keyword (word : String) {g : Rest u → Read (Option Bracket) s}
      (keeps : ∀ r, (g r).value = none ∧ (g r).rest = r.1) :
      taken ((takeKeyword word.toList u).map g) = scalar (takesIfAny (takeWord word .null) u) := by
    unfold takesIfAny takeWord
    cases takeKeyword word.toList u with
    | error fault => rfl
    | ok r => simp [Except.map, scalar, keeps r]
  rw [takes]
  unfold skipToken
  split
  · simp_all
  · next c' u' found' =>
    obtain ⟨rfl, rfl⟩ := List.cons.inj (found'.symm.trans found)
    split_ifs
    · exact keyword "ull" fun _ => ⟨rfl, rfl⟩
    · exact keyword "rue" fun _ => ⟨rfl, rfl⟩
    · exact keyword "alse" fun _ => ⟨rfl, rfl⟩
    · exact taken_map (fun _ => none) fun _ => ⟨rfl, rfl⟩
    · exact taken_map (fun _ => none) fun _ => ⟨rfl, rfl⟩
    · rfl
    · rfl
    · rfl

theorem takes_skipToken_keyword {j : Json} {word : String} (known : (j, word) ∈ keywords)
    (found : skipBlanks s = word.toList ++ u) : takes skipToken s = some (none, u) := by
  have letters (word : String) (u : List Char) :
      scalar (takesIfAny (takeWord word .null) (word.toList ++ u)) = some (none, u) := by
    rw [takesIfAny_takeWord]
    rfl
  simp only [keywords, List.mem_cons, Prod.mk.injEq, List.not_mem_nil, or_false] at known
  rcases known with ⟨rfl, rfl⟩ | ⟨rfl, rfl⟩ | ⟨rfl, rfl⟩
  · rw [takes_skipToken found]
    exact letters "ull" u
  · rw [takes_skipToken found]
    exact letters "rue" u
  · rw [takes_skipToken found]
    exact letters "alse" u

theorem takes_skipToken_number (found : skipBlanks s = c :: u) (begins : c = '-' ∨ c.isDigit) :
    takes skipToken s = scalar (takes (takeLiteral .invalidNumber) (c :: u)) := by
  have isNumber : (c = '-' || c.isDigit) = true := by simpa using begins
  obtain ⟨notN, notT, notF⟩ := not_letter_of_begins begins
  rw [takes_skipToken found, if_neg notN, if_neg notT, if_neg notF, if_pos isNumber]

theorem takes_skipToken_blank (absent : skipBlanks s = []) : takes skipToken s = none := by
  unfold takes skipToken
  split
  · rfl
  · simp_all

/-- Blanks before a value are passed over. -/
theorem takes_skipToken_skipBlanks (s : List Char) :
    takes skipToken (skipBlanks s) = takes skipToken s := by
  cases found : skipBlanks s with
  | nil => rw [takes_skipToken_blank found, takes_skipToken_blank rfl]
  | cons c u =>
    rw [takes_skipToken found, takes_skipToken (skipBlanks_cons (skipBlanks_eq_cons found) u)]

end FirstCharacter

/-! ## Open brackets -/

/-- What is left when all open brackets are closed. -/
def leftBehind (isFirst : Bool) (stack : List Bracket) (s : List Char) : Option (List Char) :=
  (skipNested isFirst stack s).toOption.map (·.1)

/-- Goes on behind an entry that began so: inside the bracket that it opened, or behind it. -/
def resume (stack : List Bracket) : Option Bracket × List Char → Option (List Char)
  | (none, s) => leftBehind false stack s
  | (some b, s) => leftBehind true (b :: stack) s

section Stacks
variable {b : Bracket} {stack : List Bracket} {s t u : List Char} {c : Char}

theorem leftBehind_nil (isFirst : Bool) (s : List Char) : leftBehind isFirst [] s = some s := by
  rw [leftBehind, skipNested]
  rfl

/-- One turn inside the innermost bracket, and then what it leads to. -/
theorem leftBehind_cons (isFirst : Bool) (b : Bracket) (stack : List Bracket) (s : List Char) :
    leftBehind isFirst (b :: stack) s = (takes (skipTurn isFirst b) s).bind fun
      | (.close, s) => leftBehind false stack s
      | (.scalar, s) => leftBehind false (b :: stack) s
      | (.opens inner, s) => leftBehind true (inner :: b :: stack) s := by
  have onward {s t : List Char} {left : Except (Fault Reason) (Rest s)} {g : Rest s → Rest t}
      (keeps : ∀ r, (g r).1 = r.1) : (left.map g).toOption.map (·.1) = left.toOption.map (·.1) := by
    cases left with
    | error fault => rfl
    | ok r => simp [Except.map, Except.toOption, keeps]
  rw [leftBehind, skipNested, takes]
  cases skipTurn isFirst b s with
  | error fault => rfl
  | ok turn =>
    obtain ⟨value, rest, shorter⟩ := turn
    cases value with
    | close => exact onward fun _ => rfl
    | scalar => exact onward fun _ => rfl
    | opens inner => exact onward fun _ => rfl

theorem leftBehind_close (isFirst : Bool) (found : skipBlanks s = b.closer :: u) :
    leftBehind isFirst (b :: stack) s = leftBehind false stack u := by
  have turn : takes (skipTurn isFirst b) s = some (.close, u) := by
    rw [takes]
    unfold skipTurn
    split
    · simp_all
    · next c' u' found' =>
      obtain ⟨rfl, rfl⟩ := List.cons.inj (found'.symm.trans found)
      rw [if_pos rfl]
      rfl
  rw [leftBehind_cons, turn]
  rfl

/-- A turn at an entry skips the beginning of the entry. -/
theorem leftBehind_of_turn {isFirst : Bool}
    (turn : takes (skipTurn isFirst b) s = (takes (skipEntry b) t).map (Prod.map (fun
      | none => .scalar
      | some inner => .opens inner) id)) :
    leftBehind isFirst (b :: stack) s = (takes (skipEntry b) t).bind (resume (b :: stack)) := by
  rw [leftBehind_cons, turn]
  cases takes (skipEntry b) t with
  | none => rfl
  | some skipped =>
    obtain ⟨opened, rest⟩ := skipped
    cases opened <;> rfl

theorem leftBehind_first (found : skipBlanks s = c :: u) (notClose : c ≠ b.closer) :
    leftBehind true (b :: stack) s = (takes (skipEntry b) s).bind (resume (b :: stack)) := by
  refine leftBehind_of_turn ?_
  rw [takes]
  unfold skipTurn
  split
  · simp_all
  · next c' u' found' =>
    obtain ⟨rfl, rfl⟩ := List.cons.inj (found'.symm.trans found)
    rw [if_neg notClose, if_pos rfl]
    refine taken_map _ fun r => ?_
    obtain ⟨value, _, _⟩ := r
    cases value <;> exact ⟨rfl, rfl⟩

theorem leftBehind_comma (found : skipBlanks s = ',' :: u) :
    leftBehind false (b :: stack) s = (takes (skipEntry b) u).bind (resume (b :: stack)) := by
  have notClose : ',' ≠ b.closer := by cases b <;> decide
  refine leftBehind_of_turn ?_
  rw [takes]
  unfold skipTurn
  split
  · simp_all
  · next c' u' found' =>
    obtain ⟨rfl, rfl⟩ := List.cons.inj (found'.symm.trans found)
    rw [if_neg notClose, if_neg (by decide), if_pos rfl]
    refine taken_map _ fun r => ?_
    obtain ⟨value, _, _⟩ := r
    cases value <;> exact ⟨rfl, rfl⟩

end Stacks

/-! ## Entries -/

/-- An entry is skipped, from what it begins with, up to the blanks that it ends with. -/
def EntrySkipped (b : Bracket) (t : List Char) : Prop :=
  ∃ w, Blank w ∧ ∀ stack rest, NumberEnds rest →
    (takes (skipEntry b) (t ++ rest)).bind (resume stack) = leftBehind false stack (w ++ rest)

/-- Entries are skipped together with the bracket that closes them. -/
def EntriesSkipped (b : Bracket) (t : List Char) : Prop :=
  ∀ stack rest, (takes (skipEntry b) (t ++ b.closer :: rest)).bind (resume (b :: stack)) =
    leftBehind false stack rest

/-- How a part of a document is skipped. -/
def Phrase.IsSkipped : Phrase → List Char → Prop
  | .value _, t =>
    ∀ stack rest, NumberEnds rest →
      (takes skipToken (t ++ rest)).bind (resume stack) = leftBehind false stack rest
  | .element _, t => EntrySkipped .array t
  | .elements _, t => EntriesSkipped .array t
  | .member _, t => EntrySkipped .object t
  | .members _, t => EntriesSkipped .object t

section Values
variable {o : Option Json} {t w : List Char}

theorem keyword_isSkipped {j : Json} {word : String} (known : (j, word) ∈ keywords) :
    Phrase.IsSkipped (.value o) word.toList := by
  intro stack rest _
  rw [takes_skipToken_keyword known (skipBlanks_value (Spells.keyword (n := 0) known) rest)]
  rfl

theorem number_isSkipped {l : Literal} (written : LiteralText l t) :
    Phrase.IsSkipped (.value o) t := by
  intro stack rest ends
  have found := skipBlanks_value (Spells.number (n := 0) written) rest
  have read := takes_takeLiteral .invalidNumber written ends
  obtain ⟨c, u, rfl, begins⟩ := literal_front written
  rw [List.cons_append] at found read ⊢
  rw [takes_skipToken_number found begins, read]
  rfl

theorem text_isSkipped {ps : List Piece} (written : PiecesText ps t) :
    Phrase.IsSkipped (.value o) ('"' :: (t ++ ['"'])) := by
  intro stack rest _
  have token : takes skipToken ('"' :: (t ++ ['"']) ++ rest) =
      scalar (takes skipText (t ++ '"' :: rest)) :=
    takes_skipToken (skipBlanks_enclosed rfl t rest)
  rw [token, takes_skipText written]
  rfl

end Values

section Brackets
variable {b : Bracket} {o : Option Json} {t u w : List Char}

def Bracket.opener : Bracket → Char
  | .array => '['
  | .object => '\x7b'

theorem takes_skipToken_opener (b : Bracket) (t rest : List Char) :
    takes skipToken (b.opener :: (t ++ [b.closer]) ++ rest) = some (some b, t ++ b.closer :: rest) := by
  cases b with
  | array => exact takes_skipToken (skipBlanks_enclosed rfl t rest)
  | object => exact takes_skipToken (skipBlanks_enclosed rfl t rest)

theorem isBlank_closer (b : Bracket) : isBlank b.closer = false := by
  cases b <;> decide

theorem numberEnds_closer (b : Bracket) (s : List Char) : NumberEnds (b.closer :: s) := by
  cases b with
  | array => exact numberEnds_cons (by decide) s
  | object => exact numberEnds_cons (by decide) s

theorem empty_isSkipped (b : Bracket) (blank : Blank w) :
    Phrase.IsSkipped (.value o) (b.opener :: (w ++ [b.closer])) := by
  intro stack rest _
  rw [takes_skipToken_opener]
  exact leftBehind_close true (skipBlanks_before blank (isBlank_closer b) rest)

theorem nested_isSkipped (inside : EntriesSkipped b t)
    (front : ∀ rest, ∃ c u, skipBlanks (t ++ rest) = c :: u ∧ c ≠ b.closer) :
    Phrase.IsSkipped (.value o) (b.opener :: (t ++ [b.closer])) := by
  intro stack rest _
  obtain ⟨c, u, found, notClose⟩ := front (b.closer :: rest)
  rw [takes_skipToken_opener, Option.bind_some, resume, leftBehind_first found notClose]
  exact inside stack rest

theorem element_isSkipped {w' : List Char} (before : Blank w) (inside : Phrase.IsSkipped (.value o) t)
    (after : Blank w') : EntrySkipped .array (w ++ (t ++ w')) := by
  refine ⟨w', after, fun stack rest ends => ?_⟩
  have skipped := inside stack (w' ++ rest) (numberEnds_append after ends)
  rw [← takes_skipToken_skipBlanks] at skipped
  show (takes skipToken _).bind _ = _
  rw [List.append_assoc, List.append_assoc, ← takes_skipToken_skipBlanks, skipBlanks_append before]
  exact skipped

theorem lastEntry_isSkipped (last : EntrySkipped b t) : EntriesSkipped b t := by
  obtain ⟨w, blank, skipped⟩ := last
  intro stack rest
  rw [skipped _ _ (numberEnds_closer b rest)]
  exact leftBehind_close false (skipBlanks_before blank (isBlank_closer b) rest)

/-- The first of some entries is skipped, and behind the comma the others are. -/
theorem nextEntry_isSkipped (first : EntrySkipped b t) (others : EntriesSkipped b u) :
    EntriesSkipped b (t ++ ',' :: u) := by
  obtain ⟨w, blank, skipped⟩ := first
  intro stack rest
  rw [List.append_assoc, List.cons_append, skipped _ _ (numberEnds_cons (by decide) _),
    leftBehind_comma (skipBlanks_before blank rfl _)]
  exact others stack rest

theorem takes_skipKey {ps : List Piece} {w' k : List Char} (before : Blank w) (key : PiecesText ps k)
    (after : Blank w') (s : List Char) :
    takes skipKey (w ++ '"' :: (k ++ '"' :: (w' ++ ':' :: s))) = some ((), s) := by
  have found := skipBlanks_before before (c := '"') rfl (k ++ '"' :: (w' ++ ':' :: s))
  have step : takes skipKey (w ++ '"' :: (k ++ '"' :: (w' ++ ':' :: s))) =
      (takes skipText (k ++ '"' :: (w' ++ ':' :: s))).bind fun (_, s) => takes takeColon s := by
    rw [takes]
    unfold skipKey
    split
    · simp_all
    · next c' u' found' =>
      obtain ⟨rfl, rfl⟩ := List.cons.inj (found'.symm.trans found)
      rw [if_pos rfl]
      refine taken_bind fun key => ?_
      show _ = taken (takeColon key.rest)
      cases takeColon key.rest <;> rfl
  rw [step, takes_skipText key]
  exact takes_takeColon (skipBlanks_before after rfl s)

theorem member_isSkipped {ps : List Piece} {w' k : List Char} (before : Blank w)
    (key : PiecesText ps k) (after : Blank w') (inside : EntrySkipped .array t) :
    EntrySkipped .object (w ++ '"' :: (k ++ '"' :: (w' ++ ':' :: t))) := by
  obtain ⟨v, blank, skipped⟩ := inside
  refine ⟨v, blank, fun stack rest ends => ?_⟩
  have text : w ++ '"' :: (k ++ '"' :: (w' ++ ':' :: t)) ++ rest =
      w ++ '"' :: (k ++ '"' :: (w' ++ ':' :: (t ++ rest))) := by simp
  have step (s : List Char) : takes (skipEntry .object) s =
      (takes skipKey s).bind fun (_, s) => takes skipToken s := by
    refine taken_bind fun key => ?_
    show _ = taken (skipToken key.rest)
    cases skipToken key.rest <;> rfl
  rw [text, step, takes_skipKey before key after]
  exact skipped stack rest ends

end Brackets

/-- Every part of a document is skipped to its end. -/
theorem Spells.isSkipped {part : Phrase} {n : Nat} {t : List Char} (spelled : Spells part n t) :
    part.IsSkipped t := by
  induction spelled with
  | keyword known => exact keyword_isSkipped known
  | number written => exact number_isSkipped written
  | text written => exact text_isSkipped written
  | emptyArray blank => exact empty_isSkipped .array blank
  | array inside ih => exact nested_isSkipped (b := .array) ih (opensElement_of_elements inside)
  | emptyObject blank => exact empty_isSkipped .object blank
  | object inside ih =>
    obtain ⟨⟨u, front⟩, _⟩ := inside.isRead
    exact nested_isSkipped (b := .object) ih fun rest => ⟨'"', u ++ rest, front rest, by decide⟩
  | element before _ after ih => exact element_isSkipped before ih after
  | lastElement _ ih => exact lastEntry_isSkipped ih
  | nextElement _ _ ih ihRest => exact nextEntry_isSkipped ih ihRest
  | member before key after _ ih => exact member_isSkipped before key after ih
  | lastMember _ ih => exact lastEntry_isSkipped ih
  | nextMember _ _ ih ihRest => exact nextEntry_isSkipped ih ihRest

theorem takes_skipValue (s : List Char) :
    takes skipValue s = ((takes skipToken s).bind (resume [])).map fun rest => ((), rest) := by
  unfold takes skipValue
  cases skipToken s with
  | error fault => rfl
  | ok token =>
    obtain ⟨opened, rest, shorter⟩ := token
    have onward : resume [] (opened, rest) = leftBehind true opened.toList rest := by
      cases opened with
      | none => rw [resume, Option.toList_none, leftBehind_nil, leftBehind_nil]
      | some b => rfl
    show _ = (resume [] (opened, rest)).map _
    rw [onward, leftBehind]
    dsimp only
    cases skipNested true opened.toList rest <;> rfl

/-- However deep it is and whatever it stands for, a value is skipped to its end. -/
theorem isTakenAs_skipValue {o : Option Json} {n : Nat} {t : List Char}
    (spelled : Spells (.element o) n t) : IsTakenAs skipValue t (some ()) := by
  obtain ⟨w, blank, skipped⟩ := spelled.isSkipped
  refine ⟨w, blank, fun rest ends => ?_⟩
  have skipped : (takes skipToken (t ++ rest)).bind (resume []) = _ := skipped [] rest ends
  rw [takes_skipValue, skipped, leftBehind_nil]
  rfl

end ValueOrder.Json
