import ValueOrder.Proofs.Cases.Reading
import ValueOrder.Proofs.Reading.Skipping

/-!
# Members of cases

The members of a case object are placed one after the other in a draft, each in the field that
its key names. Members with other keys are passed over, whatever they hold.
-/

namespace ValueOrder.Case

open Json

/-! ## Spelling -/

/-- A member of a written object: its key, and what its value stands for. -/
abbrev Member := String × Option Json

/-- The ways to write a member with blanks around it. The value of a field fits into so many
levels, and the value of another key may be deeper. -/
inductive MemberText (n : Nat) : Member → List Char → Prop where
  | mk {key : String} {o : Option Json} {m : Nat} {w k w' t : List Char} (before : Blank w)
      (keyed : QuotedText key k) (after : Blank w') (inside : Spells (.element o) m t)
      (fits : m ≤ n ∨ Field.ofKey? key = none) :
      MemberText n (key, o) (w ++ (k ++ (w' ++ ':' :: t)))

/-- The ways to write members behind each other. -/
inductive MembersText (n : Nat) : List Member → List Char → Prop where
  | last {m : Member} {t : List Char} (last : MemberText n m t) : MembersText n [m] t
  | next {m : Member} {ms : List Member} {t u : List Char} (first : MemberText n m t)
      (rest : MembersText n ms u) : MembersText n (m :: ms) (t ++ ',' :: u)

/-- The ways to write an object with blanks around it. -/
inductive ObjectText (n : Nat) : List Member → List Char → Prop where
  | empty {w v w' : List Char} (before : Blank w) (inside : Blank v) (after : Blank w') :
      ObjectText n [] (w ++ '\x7b' :: (v ++ '\x7d' :: w'))
  | members {ms : List Member} {w t w' : List Char} (before : Blank w) (inside : MembersText n ms t)
      (after : Blank w') : ObjectText n ms (w ++ '\x7b' :: (t ++ '\x7d' :: w'))

/-! ## Fields -/

def asText? : Json → Option String
  | .text s => some s
  | _ => none

/-- The name that a document stands for: a text, or no name if it is null. -/
def asName? : Json → Option (Option String)
  | .null => some none
  | .text s => some (some s)
  | _ => none

theorem asText?_eq_some_iff {j : Json} {s : String} : asText? j = some s ↔ j = .text s := by
  cases j <;> simp [asText?]

theorem asName?_eq_some_iff {j : Json} {v : Option String} :
    asName? j = some v ↔ j = .null ∧ v = none ∨ ∃ s, j = .text s ∧ v = some s := by
  cases j <;> simp [asName?, eq_comm]

/-- The draft with a field filled from a document, if the document is right for the field. -/
def fill (d : Draft) (j : Json) : Field → Option Draft
  | .name => (asName? j).map fun v => { d with name? := some v }
  | .left => (Value.ofJson j).toOption.map fun v => { d with left? := some v }
  | .op => (asText? j).map fun v => { d with op? := some v }
  | .right => (Value.ofJson j).toOption.map fun v => { d with right? := some v }
  | .expect => (expectation? j).map fun v => { d with expect? := some v }

/-- The draft behind a member. -/
def place (d : Draft) (m : Member) : Option Draft :=
  match Field.ofKey? m.1 with
  | none => some d
  | some f => if d.has f then none else m.2.bind fun j => fill d j f

section Fields
variable {n : Nat} {d : Draft} {o : Option Json} {s t u : List Char} {c : Char}

/-- A value is a text in quotes, or null, or it begins with another character and is no name. -/
theorem value_text_or_null_or_other (spelled : Spells (.value o) n t) :
    (∃ ps u, t = '"' :: (u ++ ['"']) ∧ PiecesText ps u ∧
      o = (decode ps).map fun cs => .text (.ofList cs)) ∨
    (t = ['n', 'u', 'l', 'l'] ∧ o = some .null) ∨
    (∃ c u, t = c :: u ∧ c ≠ '"' ∧ c ≠ 'n') ∧ o.bind asName? = none := by
  cases spelled with
  | keyword known =>
    simp only [keywords, List.mem_cons, Prod.mk.injEq, List.not_mem_nil, or_false] at known
    rcases known with ⟨rfl, rfl⟩ | ⟨rfl, rfl⟩ | ⟨rfl, rfl⟩
    · exact .inr (.inl ⟨rfl, rfl⟩)
    · exact .inr (.inr ⟨⟨'t', _, rfl, by decide⟩, rfl⟩)
    · exact .inr (.inr ⟨⟨'f', _, rfl, by decide⟩, rfl⟩)
  | @number _ l _ written =>
    obtain ⟨c, u, rfl, begins⟩ := literal_front written
    refine .inr (.inr ⟨⟨c, u, rfl, ?_⟩, ?_⟩)
    · rcases begins with rfl | digit
      · decide
      · exact ⟨ne_of_isDigit digit rfl, ne_of_isDigit digit rfl⟩
    · cases l.number.toOption <;> rfl
  | text written => exact .inl ⟨_, _, rfl, written, rfl⟩
  | emptyArray => exact .inr (.inr ⟨⟨'[', _, rfl, by decide⟩, rfl⟩)
  | @array _ items => exact .inr (.inr ⟨⟨'[', _, rfl, by decide⟩, by cases items <;> rfl⟩)
  | emptyObject => exact .inr (.inr ⟨⟨'\x7b', _, rfl, by decide⟩, rfl⟩)
  | @object _ members => exact .inr (.inr ⟨⟨'\x7b', _, rfl, by decide⟩, by cases members <;> rfl⟩)

theorem takes_takeString_of_ne (found : skipBlanks s = c :: u) (notQuote : c ≠ '"') :
    takes takeString s = none := by
  rw [takes]
  unfold takeString
  split
  · next c' u' found' =>
    obtain ⟨rfl, rfl⟩ := List.cons.inj (found'.symm.trans found)
    rw [if_neg notQuote]
    rfl
  · simp_all

theorem takes_takeName_null (found : skipBlanks s = 'n' :: 'u' :: 'l' :: 'l' :: u) :
    takes takeName s = some (none, u) := by
  rw [takes]
  unfold takeName
  split
  · next u' found' =>
    obtain ⟨-, rfl⟩ := List.cons.inj (found'.symm.trans found)
    rfl
  · next other => exact absurd found (other _)

theorem takes_takeName_of_ne (found : skipBlanks s = c :: u) (notNull : c ≠ 'n') :
    takes takeName s = (takes takeString s).map (Prod.map some id) := by
  rw [takes]
  unfold takeName
  split
  · next u' found' => exact absurd (List.cons.inj (found'.symm.trans found)).1.symm notNull
  · exact taken_map some fun _ => ⟨rfl, rfl⟩

/-- A text is taken from a value that is one. -/
theorem isTakenAs_takeString (spelled : Spells (.element o) n t) :
    IsTakenAs takeString t (o.bind asText?) := by
  cases spelled with
  | @element _ _ w t w' before inside after =>
    refine ⟨w', after, fun rest _ => ?_⟩
    have found : skipBlanks (w ++ (t ++ w') ++ rest) = t ++ (w' ++ rest) := by
      rw [List.append_assoc, List.append_assoc, skipBlanks_append before, skipBlanks_value inside]
    rcases value_text_or_null_or_other inside with
      ⟨ps, u, rfl, written, rfl⟩ | ⟨rfl, rfl⟩ | ⟨⟨c, u, rfl, notQuote, _⟩, noName⟩
    · have behind : '"' :: (u ++ ['"']) ++ (w' ++ rest) = '"' :: (u ++ '"' :: (w' ++ rest)) := by simp
      rw [behind] at found
      rw [takes_takeString found, takes_takeText written]
      cases decode ps <;> rfl
    · exact takes_takeString_of_ne found (by decide)
    · rw [takes_takeString_of_ne found notQuote]
      rcases o with _ | j
      · rfl
      · cases j <;> first | rfl | cases noName

/-- A name is taken from a value that is one, or from null. -/
theorem isTakenAs_takeName (spelled : Spells (.element o) n t) :
    IsTakenAs takeName t (o.bind asName?) := by
  obtain ⟨v, blank, string⟩ := isTakenAs_takeString spelled
  cases spelled with
  | @element _ _ w t w' before inside after =>
    have found (rest : List Char) : skipBlanks (w ++ (t ++ w') ++ rest) = t ++ (w' ++ rest) := by
      rw [List.append_assoc, List.append_assoc, skipBlanks_append before, skipBlanks_value inside]
    rcases value_text_or_null_or_other inside with
      ⟨ps, u, rfl, written, rfl⟩ | ⟨rfl, rfl⟩ | ⟨⟨c, u, rfl, _, notNull⟩, noName⟩
    · refine ⟨v, blank, fun rest ends => ?_⟩
      rw [takes_takeName_of_ne (found rest) (by decide), string rest ends, leaving_map]
      cases decode ps <;> rfl
    · exact ⟨w', after, fun rest _ => takes_takeName_null (found rest)⟩
    · refine ⟨v, blank, fun rest ends => ?_⟩
      rw [takes_takeName_of_ne (found rest) notNull, string rest ends, leaving_map]
      rcases o with _ | j
      · rfl
      · cases j <;> first | rfl | cases noName

theorem takes_takeField_name (s : List Char) : takes (takeField n d .name) s =
    (takes takeName s).map (Prod.map (fun v => { d with name? := some v }) id) :=
  taken_map (fun v => ({ d with name? := some v } : Draft)) fun _ => ⟨rfl, rfl⟩

/-- A field is filled from its value. -/
theorem isTakenAs_takeField (d : Draft) (f : Field) (spelled : Spells (.element o) n t) :
    IsTakenAs (takeField n d f) t (o.bind fun j => fill d j f) := by
  cases f with
  | name =>
    have name := (isTakenAs_takeName spelled).map (takes_takeField_name (n := n) (d := d))
    rw [Option.map_bind] at name
    exact name
  | left =>
    have left := (isTakenAs_takeOperand spelled).map (takes_takeField_left (d := d))
    rw [Option.map_bind] at left
    exact left
  | op =>
    have op := (isTakenAs_takeString spelled).map (takes_takeField_op (n := n) (d := d))
    rw [Option.map_bind] at op
    exact op
  | right =>
    have right := (isTakenAs_takeOperand spelled).map (takes_takeField_right (d := d))
    rw [Option.map_bind] at right
    exact right
  | expect =>
    have expect := (isTakenAs_takeExpectation spelled).map (takes_takeField_expect (d := d))
    rw [Option.map_bind] at expect
    exact expect

end Fields

/-! ## Members -/

section Members
variable {n : Nat} {ms : List Member} {m : Member} {t : List Char}

/-- A key decides how the value behind its colon is taken. -/
theorem takes_takeCaseMember_of_key {key : String} {k w : List Char} (written : CharsText key.toList k)
    (blank : Blank w) (d : Draft) (s : List Char) :
    takes (takeCaseMember n d) (k ++ '"' :: (w ++ ':' :: s)) =
      match Field.ofKey? key with
      | none => (takes skipValue s).map (Prod.map (fun _ => d) id)
      | some f => if d.has f then none else takes (takeField n d f) s := by
  obtain ⟨⟨key', rest, _⟩, readKey, same, behind⟩ :=
    taken_eq_some_iff.mp (takes_takeText_chars written (w ++ ':' :: s))
  dsimp only at same behind
  subst same behind
  obtain ⟨⟨_, rest, _⟩, readColon, _, same⟩ :=
    taken_eq_some_iff.mp (takes_takeColon (skipBlanks_before blank (c := ':') rfl s))
  dsimp only at same
  subst same
  unfold takes takeCaseMember
  cases field : Field.ofKey? key' with
  | none =>
    simp only [readKey, readColon, Except.mapError, bind, Except.bind, field]
    cases skipValue rest <;> rfl
  | some f =>
    cases has : d.has f with
    | false => simp [readKey, readColon, Except.mapError, bind, Except.bind, field, has, taken_map_from]
    | true => simp [readKey, Except.mapError, bind, Except.bind, field, has, throw, throwThe, MonadExceptOf.throw]

/-- A member is taken from behind its opening quote, and the draft behind it is the one with
the member placed. -/
theorem takes_member (written : MemberText n m t) :
    ∃ u, (∀ rest, skipBlanks (t ++ rest) = '"' :: (u ++ rest)) ∧
      ∀ d, ∃ w, Blank w ∧ ∀ rest, NumberEnds rest →
        takes (takeCaseMember n d) (u ++ rest) = leaving (place d m) (w ++ rest) := by
  cases written with
  | @mk key o levels w k w' t before keyed after inside fits =>
    cases keyed with
    | @mk k body =>
      refine ⟨k ++ '"' :: (w' ++ ':' :: t), fun rest => ?_, fun d => ?_⟩
      · have text : w ++ ('"' :: (k ++ ['"']) ++ (w' ++ ':' :: t)) ++ rest =
            w ++ '"' :: (k ++ '"' :: (w' ++ ':' :: t) ++ rest) := by simp
        rw [text]
        exact skipBlanks_before before rfl _
      · have text (rest : List Char) : k ++ '"' :: (w' ++ ':' :: t) ++ rest =
            k ++ '"' :: (w' ++ ':' :: (t ++ rest)) := by simp
        simp only [text, takes_takeCaseMember_of_key body after, place]
        cases field : Field.ofKey? key with
        | none =>
          obtain ⟨v, blank, skipped⟩ := isTakenAs_skipValue inside
          refine ⟨v, blank, fun rest ends => ?_⟩
          rw [skipped rest ends]
          rfl
        | some f =>
          rw [field] at fits
          have inside := inside.mono (fits.resolve_right nofun)
          obtain ⟨v, blank, taken⟩ := isTakenAs_takeField d f inside
          refine ⟨v, blank, fun rest ends => ?_⟩
          by_cases has : d.has f
          · simp [has]
          · simpa [has] using taken rest ends

/-- The draft behind some members. -/
def placeAll (d : Draft) (ms : List Member) : Option Draft := ms.foldlM place d

theorem membersText_front (written : MembersText n ms t) :
    ∃ u, ∀ rest, skipBlanks (t ++ rest) = '"' :: (u ++ rest) := by
  cases written with
  | last last =>
    obtain ⟨u, front, _⟩ := takes_member last
    exact ⟨u, front⟩
  | @next _ _ _ v first _ =>
    obtain ⟨u, front, _⟩ := takes_member first
    refine ⟨u ++ ',' :: v, fun rest => ?_⟩
    rw [List.append_assoc, front, List.append_assoc]

/-- Members are placed one after the other. -/
theorem takes_takeMembers_members (written : MembersText n ms t) (d : Draft) (rest : List Char) :
    takes (takeMembers placedDocument (takeCaseMember n) true d) (t ++ '\x7d' :: rest) =
      leaving (placeAll d ms) rest := by
  induction written generalizing d with
  | last last =>
    obtain ⟨u, front, taken⟩ := takes_member last
    obtain ⟨w, blank, taken⟩ := taken d
    rw [takes_takeMembers_first d (front _), taken _ (numberEnds_cons (by decide) rest), leaving_bind,
      placeAll, List.foldlM_cons]
    cases place d _ with
    | none => rfl
    | some d => exact takes_takeMembers_close false d (skipBlanks_before blank rfl rest)
  | @next m ms t v first others ih =>
    obtain ⟨u, front, taken⟩ := takes_member first
    obtain ⟨w, blank, taken⟩ := taken d
    obtain ⟨u', behind⟩ := membersText_front others
    rw [List.append_assoc, List.cons_append, takes_takeMembers_first d (front _),
      taken _ (numberEnds_cons (by decide) _), leaving_bind, placeAll, List.foldlM_cons]
    cases place d m with
    | none => rfl
    | some d =>
      rw [Option.bind_some]
      exact (takes_takeMembers_comma d (skipBlanks_before blank rfl _) (behind _)).trans (ih d)

theorem takes_takeCase_members {w s u : List Char} (before : Blank w) {d? : Option Draft}
    (members : takes (takeMembers placedDocument (takeCaseMember n) true {}) s = leaving d? u) :
    takes (takeCase (n + 1)) (w ++ '\x7b' :: s) = leaving (d?.bind fun d => d.finish.toOption) u := by
  rw [takes_takeCase_object (skipBlanks_before before rfl s), takes_takeObjectForm, members,
    leaving_bind]
  cases d? <;> rfl

/-- An object is taken as the case that its members make up. -/
theorem isTakenAs_takeCase (written : ObjectText n ms t) :
    IsTakenAs (takeCase (n + 1)) t ((placeAll {} ms).bind fun d => d.finish.toOption) := by
  cases written with
  | @empty w v w' before inside after =>
    refine ⟨w', after, fun rest _ => ?_⟩
    rw [List.append_assoc, List.cons_append, List.append_assoc, List.cons_append]
    exact takes_takeCase_members before
      (takes_takeMembers_close true ({} : Draft) (skipBlanks_before inside rfl (w' ++ rest)))
  | @members _ w t w' before inside after =>
    refine ⟨w', after, fun rest _ => ?_⟩
    rw [List.append_assoc, List.cons_append, List.append_assoc, List.cons_append]
    exact takes_takeCase_members before (takes_takeMembers_members inside {} (w' ++ rest))

theorem toOption_ofText {text : String} (written : ObjectText 126 ms text.toList) :
    (ofText text).toOption = (placeAll {} ms).bind fun d => d.finish.toOption := by
  obtain ⟨w, blank, taken⟩ := isTakenAs_takeCase written
  have taken := taken [] numberEnds_nil
  rw [List.append_nil, List.append_nil] at taken
  exact toOption_whole blank taken

end Members

end ValueOrder.Case
