import ValueOrder.Case.Reader
import ValueOrder.Proofs.Reading.Values

/-!
# Reading cases

What the readers of a case and of its fields take off a text.
-/

namespace ValueOrder.Case

open Json

section Fields
variable {n : Nat} {d : Draft} {s u : List Char}

theorem takes_takeString (found : skipBlanks s = '"' :: u) : takes takeString s = takes takeText u := by
  rw [takes]
  unfold takeString
  split
  · next c rest found' =>
    obtain ⟨rfl, rfl⟩ := List.cons.inj (found'.symm.trans found)
    rw [if_pos rfl, takes]
    cases takeText rest <;> rfl
  · simp_all

theorem takes_takeOperand (s : List Char) :
    takes (takeOperand n) s = (takes (takeValue n) s).bind fun (j, rest) =>
      leaving (Value.ofJson j).toOption rest := by
  unfold takes takeOperand
  cases takeValue n s with
  | error fault => rfl
  | ok r =>
    show _ = leaving (Value.ofJson r.value).toOption r.rest
    cases converted : Value.ofJson r.value <;> simp [converted, Except.toOption, Read.map]

theorem takes_takeExpectation (s : List Char) :
    takes (takeExpectation n) s = (takes (takeValue n) s).bind fun (j, rest) =>
      leaving (expectation? j) rest := by
  unfold takes takeExpectation
  cases takeValue n s with
  | error fault => rfl
  | ok r =>
    show _ = leaving (expectation? r.value) r.rest
    cases converted : expectation? r.value <;> simp [converted, Read.map]

theorem takes_takeField_left (s : List Char) : takes (takeField n d .left) s =
    (takes (takeOperand n) s).map (Prod.map (fun v => { d with left? := some v }) id) :=
  taken_map (fun v => ({ d with left? := some v } : Draft)) fun _ => ⟨rfl, rfl⟩

theorem takes_takeField_op (s : List Char) : takes (takeField n d .op) s =
    (takes takeString s).map (Prod.map (fun v => { d with op? := some v }) id) :=
  taken_map (fun v => ({ d with op? := some v } : Draft)) fun _ => ⟨rfl, rfl⟩

theorem takes_takeField_right (s : List Char) : takes (takeField n d .right) s =
    (takes (takeOperand n) s).map (Prod.map (fun v => { d with right? := some v }) id) :=
  taken_map (fun v => ({ d with right? := some v } : Draft)) fun _ => ⟨rfl, rfl⟩

theorem takes_takeField_expect (s : List Char) : takes (takeField n d .expect) s =
    (takes (takeExpectation n) s).map (Prod.map (fun v => { d with expect? := some v }) id) :=
  taken_map (fun v => ({ d with expect? := some v } : Draft)) fun _ => ⟨rfl, rfl⟩

theorem ofKey?_key (f : Field) : Field.ofKey? f.key = some f := by
  cases f <;> rfl

theorem isPlain_key (f : Field) : f.key.toList.all fun c => IsPlain c := by
  cases f <;> decide

/-- A key is taken up to the colon behind it, and then the value of its field. -/
theorem takes_takeCaseMember {f : Field} (absent : d.has f = false) (u : List Char) :
    takes (takeCaseMember n d) (f.key.toList ++ '"' :: ':' :: u) = takes (takeField n d f) u := by
  obtain ⟨⟨key, rest, _⟩, readKey, rfl, rfl⟩ :=
    taken_eq_some_iff.mp (takes_takeText_chars (.ofPlain (isPlain_key f)) (':' :: u))
  obtain ⟨⟨_, _, _⟩, readColon, _, same⟩ :=
    taken_eq_some_iff.mp (takes_takeColon (skipBlanks_cons (c := ':') rfl u))
  dsimp only at same
  subst same
  unfold takes takeCaseMember
  simp [readKey, readColon, Except.mapError, bind, Except.bind, ofKey?_key, absent, taken_map_from]

/-! ## Values of fields -/

/-- An operand is taken from a document that denotes a value. -/
theorem isTakenAs_takeOperand {o : Option Json} {t : List Char} (spelled : Spells (.element o) n t) :
    IsTakenAs (takeOperand n) t (o.bind fun j => (Value.ofJson j).toOption) :=
  spelled.isRead.convert takes_takeOperand

/-- An expectation is taken from a document that is one. -/
theorem isTakenAs_takeExpectation {o : Option Json} {t : List Char}
    (spelled : Spells (.element o) n t) :
    IsTakenAs (takeExpectation n) t (o.bind expectation?) :=
  spelled.isRead.convert takes_takeExpectation

theorem isTakenAs_string {value : String} {w t : List Char} (blank : Blank w)
    (written : QuotedText value t) : IsTakenAs takeString (w ++ t) (some value) := by
  refine ⟨[], blank_nil, fun rest _ => ?_⟩
  cases written with
  | @mk t body =>
    have found : skipBlanks (w ++ '"' :: (t ++ ['"']) ++ rest) = '"' :: (t ++ '"' :: rest) := by
      rw [List.append_assoc, skipBlanks_append blank]
      exact skipBlanks_enclosed rfl t rest
    rw [takes_takeString found, takes_takeText_chars body]
    rfl

theorem isTakenAs_operand {text : String} {w : List Char} (fits : n ≤ maxLevels)
    (grammatical : IsGrammatical text n) (blank : Blank w) :
    IsTakenAs (takeOperand n) (w ++ text.toList) (Value.ofJsonText text).toOption := by
  obtain ⟨o, spelled⟩ := grammatical
  rw [Value.toOption_ofJsonText fits spelled]
  exact isTakenAs_takeOperand (spelled.blankBefore blank)

theorem isTakenAs_expectation {j : Json} {w t : List Char} (blank : Blank w)
    (spelled : Spells (.element (some j)) n t) :
    IsTakenAs (takeExpectation n) (w ++ t) (expectation? j) :=
  isTakenAs_takeExpectation (spelled.blankBefore blank)

end Fields

/-! ## Members -/

/-- A member of a case as it is written, with what stands behind its colon. -/
def memberChars (f : Field) (t : List Char) : List Char := '"' :: (f.key.toList ++ '"' :: ':' :: t)

section Members
variable {n : Nat} {d : Draft} {f : Field} {s t u v : List Char} {next : Option Draft}

/-- A member is taken with its value, and the others come from what follows it. -/
theorem takes_takeMembers_member (absent : d.has f = false)
    (taken : IsTakenAs (takeField n d f) t next) :
    ∃ w, Blank w ∧ ∀ s rest, NumberEnds rest → skipBlanks s = memberChars f t ++ rest →
      takes (takeMembers placedDocument (takeCaseMember n) true d) s = next.bind fun d =>
        takes (takeMembers placedDocument (takeCaseMember n) false d) (w ++ rest) := by
  obtain ⟨w, blank, taken⟩ := taken
  refine ⟨w, blank, fun s rest ends found => ?_⟩
  have behindQuote : skipBlanks s = '"' :: (f.key.toList ++ '"' :: ':' :: (t ++ rest)) := by
    simpa [memberChars] using found
  rw [takes_takeMembers_first d behindQuote, takes_takeCaseMember absent, taken rest ends, leaving_bind]

/-- A member that goes on behind a comma. -/
theorem takes_takeMembers_next (absent : d.has f = false)
    (taken : IsTakenAs (takeField n d f) t next) (found : skipBlanks s = memberChars f t ++ ',' :: u)
    (behind : skipBlanks u = '"' :: v) :
    takes (takeMembers placedDocument (takeCaseMember n) true d) s = next.bind fun d =>
      takes (takeMembers placedDocument (takeCaseMember n) true d) u := by
  obtain ⟨w, blank, first⟩ := takes_takeMembers_member absent taken
  rw [first s _ (numberEnds_cons (by decide) u) found]
  cases next with
  | none => rfl
  | some d => exact takes_takeMembers_comma d (skipBlanks_before blank rfl u) behind

/-- The last member, with the closing brace behind it. -/
theorem takes_takeMembers_last (absent : d.has f = false)
    (taken : IsTakenAs (takeField n d f) t next)
    (found : skipBlanks s = memberChars f t ++ '\x7d' :: u) :
    takes (takeMembers placedDocument (takeCaseMember n) true d) s = leaving next u := by
  obtain ⟨w, blank, first⟩ := takes_takeMembers_member absent taken
  rw [first s _ (numberEnds_cons (by decide) u) found]
  cases next with
  | none => rfl
  | some d => exact takes_takeMembers_close false d (skipBlanks_before blank rfl u)

end Members

/-! ## Cases -/

section Cases
variable {n : Nat} {s u : List Char}

theorem takes_takeObjectForm (s : List Char) :
    takes (takeObjectForm n) s =
      (takes (takeMembers placedDocument (takeCaseMember n) true {}) s).bind fun (d, rest) =>
        leaving d.finish.toOption rest := by
  unfold takes takeObjectForm
  cases takeMembers placedDocument (takeCaseMember n) true {} s with
  | error fault => rfl
  | ok r =>
    show _ = leaving r.value.finish.toOption r.rest
    cases finished : r.value.finish <;> simp [finished, Except.toOption, Read.map]

theorem takes_takeCase_object (found : skipBlanks s = '\x7b' :: u) :
    takes (takeCase (n + 1)) s = takes (takeObjectForm n) u := by
  rw [takes]
  unfold takeCase
  split
  · simp_all
  · next c rest found' =>
    obtain ⟨rfl, rfl⟩ := List.cons.inj (found'.symm.trans found)
    simp [taken_map_from, taken_mapError, takes]

theorem takes_takeCases (found : skipBlanks s = '[' :: u) :
    takes (takeCases (n + 1)) s = takes (takeElements ofDocument (takeCase n) true) u := by
  rw [takes]
  unfold takeCases
  split
  · simp_all
  · next c rest found' =>
    obtain ⟨rfl, rfl⟩ := List.cons.inj (found'.symm.trans found)
    simp [taken_map_from, takes]

end Cases

end ValueOrder.Case
