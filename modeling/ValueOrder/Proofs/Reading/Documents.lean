import Mathlib.Tactic.SplitIfs
import ValueOrder.Proofs.Reading.Numbers
import ValueOrder.Proofs.Reading.Texts

/-!
# Documents

The grammar of documents, with blanks between tokens and a bound on how deep brackets
lie inside each other. A text that follows the grammar is read to its end, and it gives
no document only if a number in it is out of range or half of a surrogate pair stands
alone.
-/

namespace ValueOrder.Json

/-! ## Spelling -/

/-- The words that are values. -/
def keywords : List (Json × String) :=
  [(.null, "null"), (.boolean true, "true"), (.boolean false, "false")]

/-- A part of a document, with what it stands for. It stands for nothing if a number in
it is out of range or half of a surrogate pair stands alone. -/
inductive Phrase where
  | value (outcome : Option Json)
  /-- A value with blanks around it. -/
  | element (outcome : Option Json)
  | elements (outcome : Option (List Json))
  | member (outcome : Option (String × Json))
  | members (outcome : Option (List (String × Json)))

/-- The ways to write a part of a document in which so many levels may be opened. -/
inductive Spells : Phrase → Nat → List Char → Prop where
  | keyword {n : Nat} {j : Json} {word : String} (known : (j, word) ∈ keywords) :
      Spells (.value (some j)) n word.toList
  | number {n : Nat} {l : Literal} {t : List Char} (written : LiteralText l t) :
      Spells (.value (l.number.toOption.map .number)) n t
  | text {n : Nat} {ps : List Piece} {t : List Char} (written : PiecesText ps t) :
      Spells (.value ((decode ps).map fun cs => .text (.ofList cs))) n ('"' :: (t ++ ['"']))
  | emptyArray {n : Nat} {w : List Char} (blank : Blank w) :
      Spells (.value (some (.array []))) (n + 1) ('[' :: (w ++ [']']))
  | array {n : Nat} {items : Option (List Json)} {t : List Char} (inside : Spells (.elements items) n t) :
      Spells (.value (items.map .array)) (n + 1) ('[' :: (t ++ [']']))
  | emptyObject {n : Nat} {w : List Char} (blank : Blank w) :
      Spells (.value (some (.object []))) (n + 1) ('\x7b' :: (w ++ ['\x7d']))
  | object {n : Nat} {members : Option (List (String × Json))} {t : List Char}
      (inside : Spells (.members members) n t) :
      Spells (.value (members.map .object)) (n + 1) ('\x7b' :: (t ++ ['\x7d']))
  | element {n : Nat} {value : Option Json} {w t w' : List Char} (before : Blank w)
      (inside : Spells (.value value) n t) (after : Blank w') :
      Spells (.element value) n (w ++ (t ++ w'))
  | lastElement {n : Nat} {value : Option Json} {t : List Char} (last : Spells (.element value) n t) :
      Spells (.elements (value.map ([·]))) n t
  | nextElement {n : Nat} {value : Option Json} {items : Option (List Json)} {t u : List Char}
      (first : Spells (.element value) n t) (rest : Spells (.elements items) n u) :
      Spells (.elements (value.bind fun j => items.map (j :: ·))) n (t ++ ',' :: u)
  | member {n : Nat} {ps : List Piece} {value : Option Json} {w k w' t : List Char} (before : Blank w)
      (key : PiecesText ps k) (after : Blank w') (inside : Spells (.element value) n t) :
      Spells (.member ((decode ps).bind fun cs => value.map fun j => (.ofList cs, j))) n
        (w ++ '"' :: (k ++ '"' :: (w' ++ ':' :: t)))
  | lastMember {n : Nat} {member : Option (String × Json)} {t : List Char}
      (last : Spells (.member member) n t) : Spells (.members (member.map ([·]))) n t
  | nextMember {n : Nat} {member : Option (String × Json)} {members : Option (List (String × Json))}
      {t u : List Char} (first : Spells (.member member) n t) (rest : Spells (.members members) n u) :
      Spells (.members (member.bind fun m => members.map (m :: ·))) n (t ++ ',' :: u)

/-- The text follows the grammar of documents, and so many levels are enough for it. -/
def IsGrammatical (text : String) (levels : Nat) : Prop :=
  ∃ outcome, Spells (.element outcome) levels text.toList

/-- What fits into so many levels fits into more. -/
theorem Spells.mono {part : Phrase} {n m : Nat} {t : List Char} (spelled : Spells part n t)
    (more : n ≤ m) : Spells part m t := by
  induction spelled generalizing m with
  | keyword known => exact .keyword known
  | number written => exact .number written
  | text written => exact .text written
  | emptyArray blank =>
    obtain ⟨m, rfl⟩ := Nat.exists_eq_add_one_of_ne_zero (Nat.ne_zero_of_lt more)
    exact .emptyArray blank
  | array _ ih =>
    obtain ⟨m, rfl⟩ := Nat.exists_eq_add_one_of_ne_zero (Nat.ne_zero_of_lt more)
    exact .array (ih (Nat.le_of_succ_le_succ more))
  | emptyObject blank =>
    obtain ⟨m, rfl⟩ := Nat.exists_eq_add_one_of_ne_zero (Nat.ne_zero_of_lt more)
    exact .emptyObject blank
  | object _ ih =>
    obtain ⟨m, rfl⟩ := Nat.exists_eq_add_one_of_ne_zero (Nat.ne_zero_of_lt more)
    exact .object (ih (Nat.le_of_succ_le_succ more))
  | element before _ after ih => exact .element before (ih more) after
  | lastElement _ ih => exact .lastElement (ih more)
  | nextElement _ _ first rest => exact .nextElement (first more) (rest more)
  | member before key after _ ih => exact .member before key after (ih more)
  | lastMember _ ih => exact .lastMember (ih more)
  | nextMember _ _ first rest => exact .nextMember (first more) (rest more)

/-- However a text is written between quotes, it is a value. -/
theorem Spells.quoted {n : Nat} {s : String} {t : List Char} (written : QuotedText s t) :
    Spells (.value (some (.text s))) n t := by
  cases written with
  | mk body =>
    obtain ⟨ps, pieces, decoded⟩ := exists_pieces body
    have spelled : Spells (.value ((decode ps).map fun cs => .text (.ofList cs))) n _ := .text pieces
    simpa [decoded] using spelled

/-- However a key is written between quotes, it is the key of a member. -/
theorem Spells.memberOfKey {n : Nat} {key : String} {value : Option Json} {w k w' t : List Char}
    (before : Blank w) (written : QuotedText key k) (after : Blank w')
    (inside : Spells (.element value) n t) :
    Spells (.member (value.map fun j => (key, j))) n (w ++ (k ++ (w' ++ ':' :: t))) := by
  cases written with
  | mk body =>
    obtain ⟨ps, pieces, decoded⟩ := exists_pieces body
    simpa [decoded] using Spells.member before pieces after inside

/-- A value may stand without blanks around it. -/
theorem Spells.bare {n : Nat} {value : Option Json} {t : List Char}
    (spelled : Spells (.value value) n t) : Spells (.element value) n t := by
  simpa using Spells.element blank_nil spelled blank_nil

theorem Spells.blankBefore {n : Nat} {value : Option Json} {w t : List Char} (blank : Blank w)
    (spelled : Spells (.element value) n t) : Spells (.element value) n (w ++ t) := by
  cases spelled with
  | element before inside after =>
    rw [← List.append_assoc]
    exact .element (List.forall_mem_append.mpr ⟨blank, before⟩) inside after

/-! ## Values by their first character -/

section FirstCharacter
variable {nested : Option ((t : List Char) → Step (Fault Reason) Json t)} {s u : List Char} {c : Char}
  {item : (t : List Char) → Step (Fault Reason) Json t}

/-- What a value begins with, behind blanks, decides how it is read. -/
theorem takes_takeValueWith (found : skipBlanks s = c :: u) :
    takes (takeValueWith nested) s =
      if c = 'n' then takesIfAny (takeWord "ull" .null) u
      else if c = 't' then takesIfAny (takeWord "rue" (.boolean true)) u
      else if c = 'f' then takesIfAny (takeWord "alse" (.boolean false)) u
      else if c = '-' || c.isDigit then (takes takeNumber (c :: u)).map (Prod.map .number id)
      else if c = '"' then (takes takeText u).map (Prod.map .text id)
      else if c = '[' || c = '\x7b' then
        nested.bind fun item => if c = '[' then takes (takeArray item) u else takes (takeObject item) u
      else none := by
  have keyword (word : String) (v : Json) {g : Json × Rest u → Read Json s}
      (keeps : ∀ p, (g p).value = p.1 ∧ (g p).rest = p.2.1) :
      taken ((takeWord word v u).map g) = takesIfAny (takeWord word v) u := by
    unfold takesIfAny
    cases takeWord word v u with
    | error fault => rfl
    | ok p => simp [Except.map, keeps p]
  rw [takes]
  unfold takeValueWith
  split
  · simp_all
  · next c' u' found' =>
    obtain ⟨rfl, rfl⟩ := List.cons.inj (found'.symm.trans found)
    split_ifs with isNull isTrue isFalse isNumber isText isBracket isArray
    · exact keyword "ull" .null fun _ => ⟨rfl, rfl⟩
    · exact keyword "rue" (.boolean true) fun _ => ⟨rfl, rfl⟩
    · exact keyword "alse" (.boolean false) fun _ => ⟨rfl, rfl⟩
    · exact taken_map Json.number fun _ => ⟨rfl, rfl⟩
    · exact taken_map Json.text fun _ => ⟨rfl, rfl⟩
    · cases nested with
      | none => rfl
      | some item => exact taken_map_from _ _
    · cases nested with
      | none => rfl
      | some item => exact taken_map_from _ _
    · rfl

theorem takesIfAny_takeWord (word : String) (v : Json) (s : List Char) :
    takesIfAny (takeWord word v) (word.toList ++ s) = some (v, s) := by
  have letters (word : List Char) : ∃ h, takeKeyword word (word ++ s) = .ok ⟨s, h⟩ := by
    induction word with
    | nil => exact ⟨_, rfl⟩
    | cons k word ih =>
      obtain ⟨h, read⟩ := ih
      exact ⟨length_le_cons_of_le k h, by simp [takeKeyword, read]⟩
  obtain ⟨h, read⟩ := letters word.toList
  simp [takesIfAny, takeWord, read, Except.map]

theorem takes_takeValueWith_keyword {j : Json} {word : String} (known : (j, word) ∈ keywords)
    (found : skipBlanks s = word.toList ++ u) : takes (takeValueWith nested) s = some (j, u) := by
  simp only [keywords, List.mem_cons, Prod.mk.injEq, List.not_mem_nil, or_false] at known
  rcases known with ⟨rfl, rfl⟩ | ⟨rfl, rfl⟩ | ⟨rfl, rfl⟩
  · rw [takes_takeValueWith found]
    exact takesIfAny_takeWord "ull" .null u
  · rw [takes_takeValueWith found]
    exact takesIfAny_takeWord "rue" (.boolean true) u
  · rw [takes_takeValueWith found]
    exact takesIfAny_takeWord "alse" (.boolean false) u

/-- No keyword begins as a number does. -/
theorem not_letter_of_begins (begins : c = '-' ∨ c.isDigit) : c ≠ 'n' ∧ c ≠ 't' ∧ c ≠ 'f' := by
  rcases begins with rfl | digit
  · decide
  · exact ⟨ne_of_isDigit digit rfl, ne_of_isDigit digit rfl, ne_of_isDigit digit rfl⟩

theorem takes_takeValueWith_number (found : skipBlanks s = c :: u) (begins : c = '-' ∨ c.isDigit) :
    takes (takeValueWith nested) s = (takes takeNumber (c :: u)).map (Prod.map .number id) := by
  have isNumber : (c = '-' || c.isDigit) = true := by simpa using begins
  obtain ⟨notN, notT, notF⟩ := not_letter_of_begins begins
  rw [takes_takeValueWith found, if_neg notN, if_neg notT, if_neg notF, if_pos isNumber]

theorem takes_takeValueWith_text (found : skipBlanks s = '"' :: u) :
    takes (takeValueWith nested) s = (takes takeText u).map (Prod.map .text id) :=
  takes_takeValueWith found

theorem takes_takeValueWith_array (found : skipBlanks s = '[' :: u) :
    takes (takeValueWith (some item)) s = takes (takeArray item) u :=
  takes_takeValueWith found

theorem takes_takeValueWith_object (found : skipBlanks s = '\x7b' :: u) :
    takes (takeValueWith (some item)) s = takes (takeObject item) u :=
  takes_takeValueWith found

theorem takes_takeValueWith_blank (absent : skipBlanks s = []) :
    takes (takeValueWith nested) s = none := by
  unfold takes takeValueWith
  split
  · rfl
  · simp_all

/-- Blanks before a value are passed over. -/
theorem takes_takeValueWith_skipBlanks (s : List Char) :
    takes (takeValueWith nested) (skipBlanks s) = takes (takeValueWith nested) s := by
  cases found : skipBlanks s with
  | nil => rw [takes_takeValueWith_blank found, takes_takeValueWith_blank rfl]
  | cons c u =>
    rw [takes_takeValueWith found, takes_takeValueWith (skipBlanks_cons (skipBlanks_eq_cons found) u)]

end FirstCharacter

/-! ## Arrays and objects -/

section Sequences
variable {item : (t : List Char) → Step (Fault Reason) Json t}

theorem takes_takeArray (s : List Char) :
    takes (takeArray item) s = (takes (takeElements id item true) s).map (Prod.map .array id) :=
  taken_map Json.array fun _ => ⟨rfl, rfl⟩

theorem takes_takeObject (s : List Char) :
    takes (takeObject item) s =
      (takes (takeMembers id (takeMember item) true []) s).map
        (Prod.map (fun members => .object members.reverse) id) :=
  taken_map (fun members : List (String × Json) => Json.object members.reverse) fun _ => ⟨rfl, rfl⟩

theorem takes_takeMember (members : List (String × Json)) (s : List Char) :
    takes (takeMember item members) s = (takes takeText s).bind fun (key, s) =>
      (takes takeColon s).bind fun (_, s) =>
        (takes item s).bind fun (v, s) => some ((key, v) :: members, s) :=
  taken_bind fun _ => taken_bind fun _ => taken_bind fun _ => rfl

end Sequences

/-! ## Fronts -/

theorem literal_front {l : Literal} {t : List Char} (written : LiteralText l t) :
    ∃ c u, t = c :: u ∧ (c = '-' ∨ c.isDigit) := by
  cases written with
  | mk signed digits =>
    cases signed with
    | minus => exact ⟨_, _, rfl, .inl rfl⟩
    | none =>
      obtain ⟨nonempty, all⟩ := digits
      obtain ⟨c, ds, rfl⟩ := List.exists_cons_of_ne_nil nonempty
      exact ⟨_, _, rfl, .inr (all c (.head ds))⟩

/-- A value begins with a character that is no blank and closes nothing. -/
theorem value_front {o : Option Json} {n : Nat} {t : List Char} (spelled : Spells (.value o) n t) :
    ∃ c u, t = c :: u ∧ isBlank c = false ∧ c ≠ ']' := by
  cases spelled with
  | keyword known =>
    simp only [keywords, List.mem_cons, Prod.mk.injEq, List.not_mem_nil, or_false] at known
    rcases known with ⟨rfl, rfl⟩ | ⟨rfl, rfl⟩ | ⟨rfl, rfl⟩
    all_goals exact ⟨_, _, rfl, by decide⟩
  | number written =>
    obtain ⟨c, u, rfl, begins⟩ := literal_front written
    refine ⟨c, u, rfl, ?_⟩
    rcases begins with rfl | digit
    · decide
    · refine ⟨Bool.eq_false_iff.mpr fun blank => ?_, ne_of_isDigit digit rfl⟩
      exact absurd digit (by simp [endsNumber_of_isBlank blank])
  | text => exact ⟨_, _, rfl, by decide⟩
  | emptyArray => exact ⟨_, _, rfl, by decide⟩
  | array => exact ⟨_, _, rfl, by decide⟩
  | emptyObject => exact ⟨_, _, rfl, by decide⟩
  | object => exact ⟨_, _, rfl, by decide⟩

theorem skipBlanks_value {o : Option Json} {n : Nat} {t : List Char} (spelled : Spells (.value o) n t)
    (rest : List Char) : skipBlanks (t ++ rest) = t ++ rest := by
  obtain ⟨c, u, rfl, visible, _⟩ := value_front spelled
  exact skipBlanks_cons visible _

theorem opensElement_of_element {o : Option Json} {n : Nat} {t : List Char}
    (spelled : Spells (.element o) n t) (rest : List Char) : OpensElement (t ++ rest) := by
  cases spelled with
  | @element _ _ w _ w' before inside after =>
    obtain ⟨c, u, rfl, visible, notClose⟩ := value_front inside
    refine ⟨c, u ++ w' ++ rest, ?_, notClose⟩
    rw [List.append_assoc]
    exact skipBlanks_before before visible _

theorem opensElement_of_elements {o : Option (List Json)} {n : Nat} {t : List Char}
    (spelled : Spells (.elements o) n t) (rest : List Char) : OpensElement (t ++ rest) := by
  cases spelled with
  | lastElement last => exact opensElement_of_element last rest
  | nextElement first =>
    rw [List.append_assoc]
    exact opensElement_of_element first _

/-! ## Reading -/

/-- The reader takes the text and leaves only blanks of it, whatever follows that could not
belong to a number. -/
def IsTakenAs {ε α : Type} (reader : (s : List Char) → Step ε α s) (t : List Char)
    (outcome : Option α) : Prop :=
  ∃ w, Blank w ∧ ∀ rest, NumberEnds rest → takes reader (t ++ rest) = leaving outcome (w ++ rest)

section Derived
variable {ε δ α β : Type} {reader : (s : List Char) → Step ε α s} {t : List Char} {o : Option α}
  {derived : (s : List Char) → Step δ β s}

theorem IsTakenAs.convert {f : α → Option β} (taken : IsTakenAs reader t o)
    (converts : ∀ s, takes derived s = (takes reader s).bind fun (x, rest) => leaving (f x) rest) :
    IsTakenAs derived t (o.bind f) := by
  obtain ⟨w, blank, taken⟩ := taken
  refine ⟨w, blank, fun rest ends => ?_⟩
  rw [converts, taken rest ends, leaving_bind]
  cases o <;> rfl

theorem IsTakenAs.map {f : α → β} (taken : IsTakenAs reader t o)
    (maps : ∀ s, takes derived s = (takes reader s).map (Prod.map f id)) :
    IsTakenAs derived t (o.map f) := by
  obtain ⟨w, blank, taken⟩ := taken
  refine ⟨w, blank, fun rest ends => ?_⟩
  rw [maps, taken rest ends, leaving_map]

end Derived

/-- How a part of a document is read. Elements and members are read with the bracket
that closes them, and members onto those that were read before. -/
def Phrase.IsRead : Phrase → Nat → List Char → Prop
  | .value o, n, t =>
    ∀ rest, NumberEnds rest → takes (takeValue n) (t ++ rest) = leaving o rest
  | .element o, n, t => IsTakenAs (takeValue n) t o
  | .elements o, n, t =>
    ∀ rest, takes (takeElements id (takeValue n) true) (t ++ ']' :: rest) = leaving o rest
  | .member o, n, t =>
    ∃ u w, Blank w ∧ (∀ rest, skipBlanks (t ++ rest) = '"' :: (u ++ rest)) ∧
      ∀ before rest, NumberEnds rest →
        takes (takeMember (takeValue n) before) (u ++ rest) =
          leaving (o.map (· :: before)) (w ++ rest)
  | .members o, n, t =>
    (∃ u, ∀ rest, skipBlanks (t ++ rest) = '"' :: (u ++ rest)) ∧
      ∀ before rest,
        takes (takeMembers id (takeMember (takeValue n)) true before) (t ++ '\x7d' :: rest) =
          leaving (o.map (·.reverse ++ before)) rest

theorem exists_takeValueWith (n : Nat) : ∃ nested, takeValue n = takeValueWith nested := by
  cases n with
  | zero => exact ⟨none, rfl⟩
  | succ n => exact ⟨some (takeValue n), rfl⟩

section Values
variable {n : Nat} {w : List Char}

theorem keyword_isRead {j : Json} {word : String} (known : (j, word) ∈ keywords) :
    Phrase.IsRead (.value (some j)) n word.toList := by
  intro rest _
  obtain ⟨nested, same⟩ := exists_takeValueWith n
  rw [same, takes_takeValueWith_keyword known (skipBlanks_value (Spells.keyword (n := n) known) rest)]
  rfl

theorem number_isRead {l : Literal} {t : List Char} (written : LiteralText l t) :
    Phrase.IsRead (.value (l.number.toOption.map .number)) n t := by
  intro rest ends
  obtain ⟨nested, same⟩ := exists_takeValueWith n
  have found := skipBlanks_value (Spells.number (n := n) written) rest
  have read := takes_takeNumber written ends
  obtain ⟨c, u, rfl, begins⟩ := literal_front written
  rw [List.cons_append] at found read ⊢
  rw [same, takes_takeValueWith_number found begins, read, leaving_map]

theorem text_isRead {ps : List Piece} {t : List Char} (written : PiecesText ps t) :
    Phrase.IsRead (.value ((decode ps).map fun cs => .text (.ofList cs))) n ('"' :: (t ++ ['"'])) := by
  intro rest _
  obtain ⟨nested, same⟩ := exists_takeValueWith n
  have found := skipBlanks_enclosed (c := '"') (d := '"') rfl t rest
  rw [same, takes_takeValueWith_text found, takes_takeText written, leaving_map, Option.map_map]
  rfl

theorem emptyArray_isRead (blank : Blank w) :
    Phrase.IsRead (.value (some (.array []))) (n + 1) ('[' :: (w ++ [']'])) := by
  intro rest _
  have found := skipBlanks_enclosed (c := '[') (d := ']') rfl w rest
  rw [takeValue, takes_takeValueWith_array found, takes_takeArray,
    takes_takeElements_close true (skipBlanks_before blank rfl rest)]
  rfl

theorem array_isRead {o : Option (List Json)} {t : List Char}
    (inside : Phrase.IsRead (.elements o) n t) :
    Phrase.IsRead (.value (o.map .array)) (n + 1) ('[' :: (t ++ [']'])) := by
  intro rest _
  have found := skipBlanks_enclosed (c := '[') (d := ']') rfl t rest
  rw [takeValue, takes_takeValueWith_array found, takes_takeArray, inside rest, leaving_map]

theorem emptyObject_isRead (blank : Blank w) :
    Phrase.IsRead (.value (some (.object []))) (n + 1) ('\x7b' :: (w ++ ['\x7d'])) := by
  intro rest _
  have found := skipBlanks_enclosed (c := '\x7b') (d := '\x7d') rfl w rest
  rw [takeValue, takes_takeValueWith_object found, takes_takeObject,
    takes_takeMembers_close true [] (skipBlanks_before blank rfl rest)]
  rfl

theorem object_isRead {o : Option (List (String × Json))} {t : List Char}
    (inside : Phrase.IsRead (.members o) n t) :
    Phrase.IsRead (.value (o.map .object)) (n + 1) ('\x7b' :: (t ++ ['\x7d'])) := by
  intro rest _
  have found := skipBlanks_enclosed (c := '\x7b') (d := '\x7d') rfl t rest
  rw [takeValue, takes_takeValueWith_object found, takes_takeObject, inside.2 [] rest, leaving_map,
    Option.map_map]
  simp [Function.comp_def]

theorem element_isRead {o : Option Json} {t w' : List Char} (before : Blank w)
    (inside : Phrase.IsRead (.value o) n t) (after : Blank w') :
    Phrase.IsRead (.element o) n (w ++ (t ++ w')) := by
  refine ⟨w', after, fun rest ends => ?_⟩
  obtain ⟨nested, same⟩ := exists_takeValueWith n
  have read := inside (w' ++ rest) (numberEnds_append after ends)
  rw [same] at read ⊢
  rw [List.append_assoc, List.append_assoc, ← takes_takeValueWith_skipBlanks,
    skipBlanks_append before, takes_takeValueWith_skipBlanks]
  exact read

end Values

section Sequences
variable {n : Nat} {t u : List Char} {o : Option Json} {m : Option (String × Json)}

/-- The first of some elements is read, and the others come from what follows it. -/
theorem takes_takeElements_element (spelled : Spells (.element o) n t)
    (read : Phrase.IsRead (.element o) n t) :
    ∃ w, Blank w ∧ ∀ rest, NumberEnds rest →
      takes (takeElements id (takeValue n) true) (t ++ rest) = o.bind fun j =>
        (takes (takeElements id (takeValue n) false) (w ++ rest)).map (Prod.map (j :: ·) id) := by
  obtain ⟨w, blank, read⟩ := read
  refine ⟨w, blank, fun rest ends => ?_⟩
  obtain ⟨nested, same⟩ := exists_takeValueWith n
  -- The loop passes the blanks before an element, and the element was written with them.
  have step := read rest ends
  rw [same, ← takes_takeValueWith_skipBlanks, ← same] at step
  rw [takes_takeElements_first (opensElement_of_element spelled rest), step, leaving_bind]

theorem lastElement_isRead (spelled : Spells (.element o) n t)
    (read : Phrase.IsRead (.element o) n t) : Phrase.IsRead (.elements (o.map ([·]))) n t := by
  intro rest
  obtain ⟨w, blank, first⟩ := takes_takeElements_element spelled read
  rw [first _ (numberEnds_cons (by decide) rest),
    takes_takeElements_close false (skipBlanks_before blank rfl rest)]
  cases o <;> rfl

theorem nextElement_isRead {items : Option (List Json)} (spelled : Spells (.element o) n t)
    (read : Phrase.IsRead (.element o) n t) (others : Spells (.elements items) n u)
    (readOthers : Phrase.IsRead (.elements items) n u) :
    Phrase.IsRead (.elements (o.bind fun j => items.map (j :: ·))) n (t ++ ',' :: u) := by
  intro rest
  obtain ⟨w, blank, first⟩ := takes_takeElements_element spelled read
  rw [List.append_assoc, List.cons_append, first _ (numberEnds_cons (by decide) _),
    takes_takeElements_comma (skipBlanks_before blank rfl _) (opensElement_of_elements others _),
    readOthers rest]
  cases o with
  | none => rfl
  | some j => exact leaving_map items rest (j :: ·)

theorem member_isRead {ps : List Piece} {w k w' : List Char} (before : Blank w)
    (key : PiecesText ps k) (after : Blank w') (inside : Phrase.IsRead (.element o) n t) :
    Phrase.IsRead (.member ((decode ps).bind fun cs => o.map fun j => (.ofList cs, j))) n
      (w ++ '"' :: (k ++ '"' :: (w' ++ ':' :: t))) := by
  obtain ⟨v, blank, inside⟩ := inside
  refine ⟨k ++ '"' :: (w' ++ ':' :: t), v, blank, fun rest => ?_, fun members rest ends => ?_⟩
  · rw [List.append_assoc]
    exact skipBlanks_before before rfl _
  · have text : k ++ '"' :: (w' ++ ':' :: t) ++ rest = k ++ '"' :: (w' ++ ':' :: (t ++ rest)) := by
      simp
    rw [text, takes_takeMember, takes_takeText key, leaving_bind]
    cases decode ps with
    | none => rfl
    | some cs =>
      simp only [Option.map_some, Option.bind_some,
        takes_takeColon (skipBlanks_before after rfl (t ++ rest)), inside rest ends]
      cases o <;> rfl

/-- The first of some members is read, and the others come from what follows it. -/
theorem takes_takeMembers_member (read : Phrase.IsRead (.member m) n t) :
    ∃ w, Blank w ∧ ∀ before rest, NumberEnds rest →
      takes (takeMembers id (takeMember (takeValue n)) true before) (t ++ rest) = m.bind fun m =>
        takes (takeMembers id (takeMember (takeValue n)) false (m :: before)) (w ++ rest) := by
  obtain ⟨u, w, blank, front, read⟩ := read
  refine ⟨w, blank, fun before rest ends => ?_⟩
  rw [takes_takeMembers_first before (front rest), read before rest ends, leaving_bind]
  cases m <;> rfl

theorem lastMember_isRead (read : Phrase.IsRead (.member m) n t) :
    Phrase.IsRead (.members (m.map ([·]))) n t := by
  obtain ⟨w, blank, first⟩ := takes_takeMembers_member read
  obtain ⟨u, _, _, front, _⟩ := read
  refine ⟨⟨u, front⟩, fun before rest => ?_⟩
  rw [first before _ (numberEnds_cons (by decide) rest)]
  cases m with
  | none => rfl
  | some m => exact takes_takeMembers_close false _ (skipBlanks_before blank rfl rest)

theorem nextMember_isRead {members : Option (List (String × Json))}
    (read : Phrase.IsRead (.member m) n t) (readOthers : Phrase.IsRead (.members members) n u) :
    Phrase.IsRead (.members (m.bind fun m => members.map (m :: ·))) n (t ++ ',' :: u) := by
  obtain ⟨w, blank, first⟩ := takes_takeMembers_member read
  obtain ⟨v, _, _, front, _⟩ := read
  obtain ⟨⟨v', behind⟩, readOthers⟩ := readOthers
  refine ⟨⟨v ++ ',' :: u, fun rest => ?_⟩, fun before rest => ?_⟩
  · rw [List.append_assoc, front, List.append_assoc]
  · rw [List.append_assoc, List.cons_append, first before _ (numberEnds_cons (by decide) _)]
    cases m with
    | none => rfl
    | some m =>
      simp only [Option.bind_some]
      rw [takes_takeMembers_comma _ (skipBlanks_before blank rfl _) (behind ('\x7d' :: rest)),
        readOthers (m :: before) rest]
      simp [Function.comp_def]

end Sequences

/-- Every part of a document is read as what it stands for. -/
theorem Spells.isRead {part : Phrase} {n : Nat} {t : List Char} (spelled : Spells part n t) :
    part.IsRead n t := by
  -- By the way the part is written: what encloses a part knows what follows it.
  induction spelled with
  | keyword known => exact keyword_isRead known
  | number written => exact number_isRead written
  | text written => exact text_isRead written
  | emptyArray blank => exact emptyArray_isRead blank
  | array _ ih => exact array_isRead ih
  | emptyObject blank => exact emptyObject_isRead blank
  | object _ ih => exact object_isRead ih
  | element before _ after ih => exact element_isRead before ih after
  | lastElement last ih => exact lastElement_isRead last ih
  | nextElement first rest ih ihRest => exact nextElement_isRead first ih rest ihRest
  | member before key after _ ih => exact member_isRead before key after ih
  | lastMember _ ih => exact lastMember_isRead ih
  | nextMember _ _ ih ihRest => exact nextMember_isRead ih ihRest

/-- A value that a step takes from a text, leaving blanks, is the value of the text. -/
theorem toOption_whole {ε α : Type} {lift : Fault Reason → ε} {item : (t : List Char) → Step ε α t}
    {s w : List Char} {o : Option α} (blank : Blank w) (read : takes item s = leaving o w) :
    (whole lift item s).toOption = o := by
  unfold takes at read
  unfold whole
  cases step : item s with
  | error e =>
    rw [step] at read
    cases o with
    | none => rfl
    | some x => cases read
  | ok r =>
    rw [step] at read
    cases o with
    | none => cases read
    | some x =>
      obtain ⟨value, rest⟩ := Prod.mk.inj (Option.some.inj read)
      rw [← rest] at blank
      simp [skipBlanks_blank blank, value, Except.toOption]

/-- A text that follows the grammar down to the allowed number of levels is read as the
document that it spells. -/
theorem toOption_ofText {text : String} {o : Option Json} {n : Nat} (fits : n ≤ maxLevels)
    (spelled : Spells (.element o) n text.toList) : (ofText text).toOption = o := by
  obtain ⟨w, blank, read⟩ := (spelled.mono fits).isRead
  have read := read [] numberEnds_nil
  rw [List.append_nil, List.append_nil] at read
  exact toOption_whole blank read

end ValueOrder.Json
