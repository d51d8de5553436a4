import ValueOrder.Proofs.Reading.Accepted
import ValueOrder.Proofs.Reading.Skipping

/-!
# What is skipped was written

What is skipped follows the grammar of documents too, though it need not stand for anything.
Skipping keeps the open brackets on a stack, and the entries that are left in the innermost one
are written out before those around it go on.
-/

namespace ValueOrder.Json

/-! ## Texts -/

section Texts
variable {s rest : List Char} {x : Unit}

theorem piece_of_skipEscape (read : takes skipEscape s = some (x, rest)) :
    ∃ p t, s = t ++ rest ∧ PieceText p ('\\' :: t) := by
  cases s with
  | nil => cases read
  | cons letter u =>
    cases short : shortEscape? letter with
    | some c =>
      have escape := mem_shortEscapes_of_shortEscape? short
      rw [takes_skipEscape_short escape] at read
      cases read
      exact ⟨.char c, [letter], rfl, .short escape⟩
    | none =>
      by_cases isUnit : letter = 'u'
      · have step : takes skipEscape (letter :: u) = (takes takeUnit u).map (Prod.map (fun _ => ()) id) := by
          unfold takes skipEscape
          simp only [isUnit]
          exact taken_map (fun _ => ()) fun _ => ⟨rfl, rfl⟩
        rw [step] at read
        obtain ⟨⟨n, _⟩, unit, same⟩ := Option.map_eq_some_iff.mp read
        cases same
        obtain ⟨digits, rfl, written⟩ := unit_of_takeUnit unit
        exact ⟨.unit n, 'u' :: digits, by rw [isUnit]; rfl, .unit written⟩
      · simp [takes, skipEscape, short, isUnit] at read

theorem pieces_of_skipText (read : takes skipText s = some (x, rest)) :
    ∃ ps t, s = t ++ '"' :: rest ∧ PiecesText ps t := by
  induction length : s.length using Nat.strongRecOn generalizing s with
  | ind n ih =>
    cases s with
    | nil => simp [takes, skipText] at read
    | cons c u =>
      by_cases quote : c = '"'
      · rw [quote, takes_skipText_quote] at read
        cases read
        exact ⟨[], [], by rw [quote]; rfl, .nil⟩
      · by_cases slash : c = '\\'
        · rw [slash, takes_skipText_escape] at read
          obtain ⟨⟨_, v⟩, escape, body⟩ := Option.bind_eq_some_iff.mp read
          obtain ⟨p, t, rfl, first⟩ := piece_of_skipEscape escape
          have shorter : v.length < n := by
            rw [← length, List.length_cons, List.length_append]
            omega
          obtain ⟨ps, ts, rfl, others⟩ := ih v.length shorter body rfl
          exact ⟨p :: ps, '\\' :: (t ++ ts), by rw [slash]; simp, .cons first others⟩
        · by_cases control : c < ' '
          · simp [takes, skipText, quote, slash, control] at read
          · have plain : IsPlain c :=
              ⟨Nat.le_of_not_lt fun low => control (Char.lt_def.mpr low), quote, slash⟩
            rw [takes_skipText_plain plain] at read
            obtain ⟨ps, ts, rfl, others⟩ := ih u.length (by simp [← length]) read rfl
            exact ⟨.char c :: ps, c :: ts, rfl, .cons (.plain plain) others⟩

end Texts

/-! ## Entries -/

/-- An entry of a bracket is written so, whatever it stands for. -/
def EntryWritten : Bracket → List Char → Prop
  | .array, t => ∃ o n, Spells (.element o) n t
  | .object, t => ∃ o n, Spells (.member o) n t

/-- What stands behind the opening bracket makes up a value with it. -/
def ClosesBracket (b : Bracket) (t : List Char) : Prop :=
  ∃ o n, Spells (.value o) n (b.opener :: t)

/-- What was skipped is written as `P` says, or will be when the bracket that it opens is closed. -/
def Begins (P : List Char → Prop) : Option Bracket → List Char → Prop
  | none, v => P v
  | some b, v => ∀ t, ClosesBracket b t → P (v ++ t)

section Entries
variable {b : Bracket} {isFirst : Bool} {opened : Option Bracket} {stack : List Bracket}
  {xs : List Unit} {s t u rest : List Char}

theorem entryWithBlanks {w w' : List Char} (before : Blank w) (entry : EntryWritten b t)
    (after : Blank w') : EntryWritten b (w ++ (t ++ w')) := by
  cases b with
  | array =>
    obtain ⟨o, n, spelled⟩ := entry
    exact ⟨o, n, spelled.elementWithBlanks before after⟩
  | object =>
    obtain ⟨o, n, spelled⟩ := entry
    exact ⟨o, n, spelled.memberWithBlanks before after⟩

theorem exists_elements (listed : Listed (fun (_ : Unit) t => EntryWritten .array t) xs t) :
    ∃ o n, Spells (.elements o) n t := by
  induction listed with
  | last last =>
    obtain ⟨o, n, spelled⟩ := last
    exact ⟨_, n, .lastElement spelled⟩
  | next first _ ih =>
    obtain ⟨o, n, spelled⟩ := first
    obtain ⟨os, m, others⟩ := ih
    exact ⟨_, max n m, .nextElement (spelled.mono (Nat.le_max_left n m))
      (others.mono (Nat.le_max_right n m))⟩

theorem exists_members (listed : Listed (fun (_ : Unit) t => EntryWritten .object t) xs t) :
    ∃ o n, Spells (.members o) n t := by
  induction listed with
  | last last =>
    obtain ⟨o, n, spelled⟩ := last
    exact ⟨_, n, .lastMember spelled⟩
  | next first _ ih =>
    obtain ⟨o, n, spelled⟩ := first
    obtain ⟨os, m, others⟩ := ih
    exact ⟨_, max n m, .nextMember (spelled.mono (Nat.le_max_left n m))
      (others.mono (Nat.le_max_right n m))⟩

/-- Entries and a closer make up a value with the opening bracket. -/
theorem Finishes.closesBracket
    (finishes : Finishes (fun (_ : Unit) t => EntryWritten b t) b.closer true xs t) :
    ClosesBracket b t := by
  obtain ⟨u, rfl, ⟨_, blank⟩ | listed⟩ := finishes.closed entryWithBlanks
  · cases b with
    | array => exact ⟨_, 1, .emptyArray blank⟩
    | object => exact ⟨_, 1, .emptyObject blank⟩
  · cases b with
    | array =>
      obtain ⟨o, n, spelled⟩ := exists_elements listed
      exact ⟨_, n + 1, .array spelled⟩
    | object =>
      obtain ⟨o, n, spelled⟩ := exists_members listed
      exact ⟨_, n + 1, .object spelled⟩

theorem eq_none_of_scalar {α : Type} {skipped : Option (α × List Char)}
    (read : scalar skipped = some (opened, rest)) : opened = none ∧ ∃ x, skipped = some (x, rest) := by
  obtain ⟨⟨x, u⟩, found, same⟩ := Option.map_eq_some_iff.mp read
  cases same
  exact ⟨rfl, x, found⟩

theorem begins_of_skipToken (read : takes skipToken s = some (opened, rest)) :
    ∃ v, s = v ++ rest ∧ Begins (EntryWritten .array) opened v := by
  obtain ⟨w, blank, before⟩ := exists_blank_skipBlanks s
  have value (o : Option Json) {t : List Char} (same : skipBlanks s = t ++ rest)
      (spelled : Spells (.value o) 0 t) :
      ∃ v, s = v ++ rest ∧ Begins (EntryWritten .array) none v := by
    refine ⟨w ++ (t ++ []), ?_, o, 0, .element blank spelled blank_nil⟩
    rw [before, same]
    simp
  have bracket (b : Bracket) (same : skipBlanks s = b.opener :: rest) :
      ∃ v, s = v ++ rest ∧ Begins (EntryWritten .array) (some b) v := by
    refine ⟨w ++ [b.opener], by rw [before, same]; simp, fun t closes => ?_⟩
    obtain ⟨o, n, spelled⟩ := closes
    refine ⟨o, n, ?_⟩
    simpa using spelled.bare.elementWithBlanks blank blank_nil
  cases found : skipBlanks s with
  | nil =>
    rw [takes_skipToken_blank found] at read
    cases read
  | cons c u =>
    rw [found] at value bracket
    rw [takes_skipToken found] at read
    split_ifs at read with isNull isTrue isFalse isNumber isText isArray isObject
    · obtain ⟨rfl, _, word⟩ := eq_none_of_scalar read
      obtain ⟨rfl, rfl⟩ := word_of_takeWord word
      exact value (some .null) (t := "null".toList) (by rw [isNull]; rfl) (.keyword (by simp [keywords]))
    · obtain ⟨rfl, _, word⟩ := eq_none_of_scalar read
      obtain ⟨rfl, rfl⟩ := word_of_takeWord word
      exact value (some (.boolean true)) (t := "true".toList) (by rw [isTrue]; rfl)
        (.keyword (by simp [keywords]))
    · obtain ⟨rfl, _, word⟩ := eq_none_of_scalar read
      obtain ⟨rfl, rfl⟩ := word_of_takeWord word
      exact value (some (.boolean false)) (t := "false".toList) (by rw [isFalse]; rfl)
        (.keyword (by simp [keywords]))
    · obtain ⟨rfl, l, literal⟩ := eq_none_of_scalar read
      obtain ⟨t, same, written⟩ := literal_of_takeLiteral literal
      exact value _ same (.number written)
    · obtain ⟨rfl, _, text⟩ := eq_none_of_scalar read
      obtain ⟨ps, t, same, written⟩ := pieces_of_skipText text
      refine value _ (t := '"' :: (t ++ ['"'])) ?_ (.text written)
      rw [isText, same]
      simp
    · cases read
      exact bracket .array (by rw [isArray]; rfl)
    · cases read
      exact bracket .object (by rw [isObject]; rfl)

theorem key_of_skipKey {x : Unit} (read : takes skipKey s = some (x, rest)) :
    ∃ w ps k w', Blank w ∧ PiecesText ps k ∧ Blank w' ∧
      s = w ++ '"' :: (k ++ '"' :: (w' ++ ':' :: rest)) := by
  obtain ⟨w, blank, before⟩ := exists_blank_skipBlanks s
  unfold takes skipKey at read
  split at read
  · cases read
  · next c u found =>
    split_ifs at read with quote
    · have step : (takes skipText u).bind (fun key => takes takeColon key.2) = some (x, rest) := by
        rw [← read]
        refine (taken_bind fun key => ?_).symm
        show _ = taken (takeColon key.rest)
        cases takeColon key.rest <;> rfl
      obtain ⟨⟨_, v⟩, text, colon⟩ := Option.bind_eq_some_iff.mp step
      obtain ⟨ps, k, rfl, key⟩ := pieces_of_skipText text
      obtain ⟨w', blank', rfl⟩ := colon_of_takeColon colon
      exact ⟨w, ps, k, w', blank, key, blank', by rw [before, found, quote]⟩
    · cases read

theorem begins_of_skipEntry (read : takes (skipEntry b) s = some (opened, rest)) :
    ∃ v, s = v ++ rest ∧ Begins (EntryWritten b) opened v := by
  cases b with
  | array => exact begins_of_skipToken read
  | object =>
    have step : takes (skipEntry .object) s = (takes skipKey s).bind fun key => takes skipToken key.2 := by
      refine taken_bind fun key => ?_
      show _ = taken (skipToken key.rest)
      cases skipToken key.rest <;> rfl
    rw [step] at read
    obtain ⟨⟨_, u⟩, key, token⟩ := Option.bind_eq_some_iff.mp read
    obtain ⟨w, ps, k, w', before, written, after, rfl⟩ := key_of_skipKey key
    obtain ⟨v, rfl, begins⟩ := begins_of_skipToken token
    refine ⟨w ++ '"' :: (k ++ '"' :: (w' ++ ':' :: v)), by simp, ?_⟩
    cases opened with
    | none =>
      obtain ⟨o, n, spelled⟩ := begins
      exact ⟨_, n, .member before written after spelled⟩
    | some inner =>
      intro t closes
      obtain ⟨o, n, spelled⟩ := begins t closes
      have member := Spells.member before written after spelled
      exact ⟨_, n, by simpa using member⟩

/-! ## Open brackets -/

/-- Inside a bracket stands its closer, or an entry after what leads to it. -/
theorem close_or_entry_of_leftBehind (left : leftBehind isFirst (b :: stack) s = some rest) :
    (∃ w u, Blank w ∧ s = w ++ b.closer :: u ∧ leftBehind false stack u = some rest) ∨
      ∃ v u, Lead isFirst v ∧ s = v ++ u ∧
        (takes (skipEntry b) u).bind (resume (b :: stack)) = some rest := by
  obtain ⟨w, blank, before⟩ := exists_blank_skipBlanks s
  cases found : skipBlanks s with
  | nil =>
    have nothing : takes (skipTurn isFirst b) s = none := by
      unfold takes skipTurn
      split
      · rfl
      · next found' =>
        rw [found] at found'
        cases found'
    rw [leftBehind_cons, nothing] at left
    cases left
  | cons c u =>
    rw [found] at before
    by_cases close : c = b.closer
    · rw [close] at found before
      rw [leftBehind_close isFirst found] at left
      exact .inl ⟨w, u, blank, before, left⟩
    · cases isFirst with
      | true =>
        rw [leftBehind_first found close] at left
        exact .inr ⟨[], s, .first blank_nil, rfl, left⟩
      | false =>
        by_cases comma : c = ','
        · rw [comma] at found before
          rw [leftBehind_comma found] at left
          exact .inr ⟨w ++ ',' :: [], u, .comma blank blank_nil, by rw [before]; simp, left⟩
        · have nothing : takes (skipTurn false b) s = none := by
            unfold takes skipTurn
            split
            · rfl
            · next c' u' found' =>
              obtain ⟨rfl, rfl⟩ := List.cons.inj (found'.symm.trans found)
              simp [close, comma]
          rw [leftBehind_cons, nothing] at left
          cases left

theorem length_lt_of_takes {ε α : Type} {reader : (s : List Char) → Step ε α s} {x : α}
    (read : takes reader s = some (x, rest)) : rest.length < s.length := by
  obtain ⟨r, _, _, rfl⟩ := taken_eq_some_iff.mp read
  exact r.shorter

/-- What the innermost bracket still holds was written, and then the brackets around it go on. -/
theorem finishes_of_leftBehind (left : leftBehind isFirst (b :: stack) s = some rest) :
    ∃ xs t u, s = t ++ u ∧
      Finishes (fun (_ : Unit) t => EntryWritten b t) b.closer isFirst xs t ∧
      leftBehind false stack u = some rest := by
  -- On the length of the text: an entry may open a bracket, and both go on further down.
  induction length : s.length using Nat.strongRecOn generalizing s b isFirst stack with
  | ind n ih =>
    rcases close_or_entry_of_leftBehind left with
      ⟨w, u, blank, rfl, outside⟩ | ⟨v, u, lead, rfl, entry⟩
    · exact ⟨[], w ++ [b.closer], u, by simp, .close blank, outside⟩
    · obtain ⟨⟨opened, after⟩, skipped, resumed⟩ := Option.bind_eq_some_iff.mp entry
      have shorter := length_lt_of_takes skipped
      obtain ⟨e, rfl, begins⟩ := begins_of_skipEntry skipped
      rw [List.length_append] at length
      cases opened with
      | none =>
        obtain ⟨xs, t, u, rfl, finishes, left⟩ := ih after.length (by omega) resumed rfl
        exact ⟨() :: xs, v ++ (e ++ t), u, by simp, .entry lead begins finishes, left⟩
      | some inner =>
        obtain ⟨ys, t, between, rfl, closes, resumed⟩ := ih after.length (by omega) resumed rfl
        rw [List.length_append] at shorter
        obtain ⟨xs, t', u, rfl, finishes, left⟩ := ih between.length (by omega) resumed rfl
        exact ⟨() :: xs, v ++ (e ++ t ++ t'), u, by simp,
          .entry lead (begins t closes.closesBracket) finishes, left⟩

/-- A value that was skipped was written. -/
theorem spells_of_skipValue {x : Unit} (read : takes skipValue s = some (x, rest)) :
    ∃ t o n, s = t ++ rest ∧ Spells (.element o) n t := by
  rw [takes_skipValue] at read
  obtain ⟨_, read, same⟩ := Option.map_eq_some_iff.mp read
  cases same
  obtain ⟨⟨opened, u⟩, token, resumed⟩ := Option.bind_eq_some_iff.mp read
  obtain ⟨v, rfl, begins⟩ := begins_of_skipToken token
  cases opened with
  | none =>
    rw [resume, leftBehind_nil] at resumed
    cases resumed
    obtain ⟨o, n, spelled⟩ := begins
    exact ⟨v, o, n, rfl, spelled⟩
  | some b =>
    obtain ⟨xs, t, u', rfl, finishes, left⟩ := finishes_of_leftBehind resumed
    rw [leftBehind_nil] at left
    cases left
    obtain ⟨o, n, spelled⟩ := begins t finishes.closesBracket
    exact ⟨v ++ t, o, n, by simp, spelled⟩

end Entries

end ValueOrder.Json
