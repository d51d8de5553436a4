import ValueOrder.Pair
import ValueOrder.Proofs.Cases.Reading
import ValueOrder.Proofs.Files.Collection

/-!
# Cases and pairs

A question can be asked of a pair of texts, or written into a file as a case. Both read
the operands alike and come to the same answer or the same error, so a case passes
exactly if it expects what the pair comes to.
-/

namespace ValueOrder

open Json

/-! ## A file with one case -/

/-- The text of a file with one case, by the texts of its members. -/
def oneCaseFile (left op right expect : String) : String :=
  "[\x7b\"left\": " ++ left ++ ", \"op\": " ++ op ++ ", \"right\": " ++ right ++
    ", \"expect\": " ++ expect ++ "\x7d]"

/-- The ways to write an expectation. -/
inductive ExpectationText : Expectation → String → Prop where
  | answer (holds : Bool) : ExpectationText (.answer holds) (Json.boolWord holds)
  | failure {fragment quoted : String} (written : QuotedText fragment quoted.toList) :
      ExpectationText (.failure fragment) ("\x7b\"error\": " ++ quoted ++ "\x7d")

/-- An expectation is written as a document from which it is read. -/
theorem exists_document_of_expectation {e : Expectation} {text : String}
    (written : ExpectationText e text) :
    ∃ j, Spells (.element (some j)) 1 text.toList ∧ Case.expectation? j = some e := by
  cases written with
  | answer holds =>
    have spelled : Spells (.value (some (.boolean holds))) 1 (Json.boolWord holds).toList :=
      .keyword (Value.boolean_mem_keywords holds)
    refine ⟨.boolean holds, ?_, rfl⟩
    exact spelled.bare
  | @failure fragment quoted written =>
    have key : QuotedText "error" ['"', 'e', 'r', 'r', 'o', 'r', '"'] := .ofPlain (by decide)
    have inside : Spells (.element (some (.text fragment))) 0 ([' '] ++ (quoted.toList ++ [])) :=
      .element blank_space (.quoted written) blank_nil
    have object := Spells.object (.lastMember (.memberOfKey blank_nil key blank_nil inside))
    refine ⟨.object [("error", .text fragment)], ?_, rfl⟩
    simpa using object.bare

namespace Case

section Reading
variable {left op written right expect : String} {e : Expectation}

/-- The last member of the case and what closes the file. -/
def expectChars (expect : String) : List Char :=
  memberChars .expect (' ' :: expect.toList) ++ ['\x7d', ']']

/-- The file from the right operand on. -/
def rightChars (right expect : String) : List Char :=
  memberChars .right (' ' :: right.toList) ++ ',' :: ' ' :: expectChars expect

/-- The file from the operator on. -/
def opChars (op right expect : String) : List Char :=
  memberChars .op (' ' :: op.toList) ++ ',' :: ' ' :: rightChars right expect

/-- The file from the left operand on. -/
def leftChars (left op right expect : String) : List Char :=
  memberChars .left (' ' :: left.toList) ++ ',' :: ' ' :: opChars op right expect

theorem toList_oneCaseFile (left op right expect : String) :
    (oneCaseFile left op right expect).toList = '[' :: '\x7b' :: leftChars left op right expect := by
  unfold oneCaseFile
  simp [leftChars, opChars, rightChars, expectChars, memberChars, Field.key]

theorem takes_expectChars {d : Draft} (absent : d.has .expect = false)
    (expected : ExpectationText e expect) :
    takes (takeMembers placedDocument (takeCaseMember 125) true d) (' ' :: expectChars expect) =
      some ({ d with expect? := some e }, [']']) := by
  obtain ⟨j, spelled, denoted⟩ := exists_document_of_expectation expected
  have taken := (isTakenAs_expectation blank_space (spelled.mono (m := 125) (by decide))).map
    (takes_takeField_expect (d := d))
  have found : skipBlanks (' ' :: expectChars expect) =
      memberChars .expect (' ' :: expect.toList) ++ '\x7d' :: [']'] :=
    skipBlanks_before blank_space rfl _
  rw [takes_takeMembers_last absent taken found, denoted]
  rfl

theorem takes_rightChars {d : Draft} (absent : d.has .right = false ∧ d.has .expect = false)
    (grammatical : IsGrammatical right 125) (expected : ExpectationText e expect) :
    takes (takeMembers placedDocument (takeCaseMember 125) true d) (' ' :: rightChars right expect) =
      leaving ((Value.ofJsonText right).toOption.map fun r =>
        { d with right? := some r, expect? := some e }) [']'] := by
  have taken := (isTakenAs_operand (by decide) grammatical blank_space).map
    (takes_takeField_right (d := d))
  have found : skipBlanks (' ' :: rightChars right expect) =
      memberChars .right (' ' :: right.toList) ++ ',' :: ' ' :: expectChars expect :=
    skipBlanks_before blank_space rfl _
  rw [takes_takeMembers_next absent.1 taken found (skipBlanks_before blank_space rfl _)]
  cases (Value.ofJsonText right).toOption with
  | none => rfl
  | some r => exact takes_expectChars absent.2 expected

theorem takes_opChars {d : Draft}
    (absent : d.has .op = false ∧ d.has .right = false ∧ d.has .expect = false)
    (quoted : QuotedText op written.toList) (grammatical : IsGrammatical right 125)
    (expected : ExpectationText e expect) :
    takes (takeMembers placedDocument (takeCaseMember 125) true d)
        (' ' :: opChars written right expect) =
      leaving ((Value.ofJsonText right).toOption.map fun r =>
        { d with op? := some op, right? := some r, expect? := some e }) [']'] := by
  have taken := (isTakenAs_string blank_space quoted).map (takes_takeField_op (n := 125) (d := d))
  have found : skipBlanks (' ' :: opChars written right expect) =
      memberChars .op (' ' :: written.toList) ++ ',' :: ' ' :: rightChars right expect :=
    skipBlanks_before blank_space rfl _
  rw [takes_takeMembers_next absent.1 taken found (skipBlanks_before blank_space rfl _)]
  exact takes_rightChars absent.2 grammatical expected

theorem takes_leftChars (grammaticalLeft : IsGrammatical left 125)
    (grammaticalRight : IsGrammatical right 125) (quoted : QuotedText op written.toList)
    (expected : ExpectationText e expect) :
    takes (takeMembers placedDocument (takeCaseMember 125) true {})
        (leftChars left written right expect) =
      leaving ((Value.ofJsonText left).toOption.bind fun l => (Value.ofJsonText right).toOption.map fun r =>
        ⟨none, some l, some op, some r, some e⟩) [']'] := by
  have taken := (isTakenAs_operand (by decide) grammaticalLeft blank_space).map
    (takes_takeField_left (d := {}))
  have found : skipBlanks (leftChars left written right expect) =
      memberChars .left (' ' :: left.toList) ++ ',' :: ' ' :: opChars written right expect :=
    skipBlanks_before blank_nil rfl _
  rw [takes_takeMembers_next rfl taken found (skipBlanks_before blank_space rfl _)]
  -- If the left operand is no value, the reader stops before it looks at the right one.
  cases (Value.ofJsonText left).toOption with
  | none => rfl
  | some l => exact takes_opChars ⟨rfl, rfl, rfl⟩ quoted grammaticalRight expected

/-- The file gives its case exactly when both operands are read. -/
theorem toOption_listOfText (grammaticalLeft : IsGrammatical left 125)
    (grammaticalRight : IsGrammatical right 125) (quoted : QuotedText op written.toList)
    (expected : ExpectationText e expect) :
    (listOfText (oneCaseFile left written right expect)).toOption =
      (Value.ofJsonText left).toOption.bind fun l => (Value.ofJsonText right).toOption.map fun r =>
        [⟨none, l, op, r, e⟩] := by
  have members := takes_leftChars grammaticalLeft grammaticalRight quoted expected
  have opens : OpensElement ('\x7b' :: leftChars left written right expect) :=
    ⟨'\x7b', _, skipBlanks_cons rfl _, by decide⟩
  have taken : takes (takeCases 127) (oneCaseFile left written right expect).toList = leaving
      ((Value.ofJsonText left).toOption.bind fun l => (Value.ofJsonText right).toOption.map fun r =>
        [⟨none, l, op, r, e⟩]) [] := by
    rw [toList_oneCaseFile, takes_takeCases (skipBlanks_cons rfl _), takes_takeElements_first opens,
      skipBlanks_cons rfl, takes_takeCase_object (skipBlanks_cons rfl _), takes_takeObjectForm,
      members, leaving_bind]
    cases (Value.ofJsonText left).toOption with
    | none => rfl
    | some l =>
      cases (Value.ofJsonText right).toOption with
      | none => rfl
      | some r =>
        have closing : takes (takeElements ofDocument (takeCase 126) false) [']'] = some ([], []) :=
          takes_takeElements_close false (skipBlanks_cons rfl [])
        simp [Draft.finish, Except.toOption, closing]
  exact toOption_whole blank_nil taken

end Reading

theorem isMet_ok_iff {e : Expectation} {v : Bool} : e.isMet (.ok v) ↔ e = .answer v := by
  cases e <;> simp [Expectation.isMet]

theorem isMet_error_iff {e : Expectation} {err : ComparisonError} :
    e.isMet (.error err) ↔ ∃ f, e = .failure f ∧ f.toList <:+: err.message.toList := by
  cases e <;> simp [Expectation.isMet, Text.contains_iff]

/-- A case passes if what the comparison comes to is what it expects. -/
theorem result_check_eq_none_iff (c : Case) :
    c.check.result = none ↔ c.expect.isMet c.evaluate.result := by
  simp [check]

end Case

/-! ## Agreement -/

/-- The text denotes a value. -/
def Value.IsReadable (text : String) : Prop := ∃ v, Value.ofJsonText text = .ok v

namespace Pair

/-- A pair whose operands are read comes to what a case with these operands comes to. -/
theorem result_answer {left op right : String} {l r : Value}
    (readLeft : Value.ofJsonText left = .ok l) (readRight : Value.ofJsonText right = .ok r)
    (name? : Option String) (e : Expectation) :
    (answer left op right).result =
      (Case.evaluate ⟨name?, l, op, r, e⟩).result.mapError .comparison := by
  unfold answer read Case.evaluate
  rw [readLeft, readRight]
  cases Operator.ofText op with
  | error err => rfl
  | ok o =>
    simp only [Except.mapError, bind, Except.bind, pure, Except.pure]
    show _ = Except.mapError _ (Comparison.answer l r o).result
    cases (Comparison.answer l r o).result with
    | error err => rfl
    | ok holds => rfl

/-- A pair with an operand that is no value fails, and the report names the side. -/
theorem result_answer_of_not_readable {left op right : String}
    (unreadable : ¬ (Value.IsReadable left ∧ Value.IsReadable right)) :
    ∃ err, (answer left op right).result = .error err ∧
      (err.report.message = "invalid left operand" ∨
        err.report.message = "invalid right operand") := by
  unfold answer read
  cases readLeft : Value.ofJsonText left with
  | error e => exact ⟨_, rfl, .inl rfl⟩
  | ok l =>
    cases readRight : Value.ofJsonText right with
    | error e => exact ⟨_, rfl, .inr rfl⟩
    | ok r => exact absurd ⟨⟨l, readLeft⟩, r, readRight⟩ unreadable

end Pair

namespace Suite

section Loading
variable {t : FileTree} {path : Path} {left op written right expect : String} {e : Expectation}

theorem toOption_load {text : String} (file : t.readText path = .ok text) :
    (load t path).toOption = (Case.listOfText text).toOption := by
  simp only [load, file]
  cases Case.listOfText text <;> rfl

/-- A case and a pair with the same operands agree. -/
theorem check_agrees {l r : Value} (readLeft : Value.ofJsonText left = .ok l)
    (readRight : Value.ofJsonText right = .ok r) (name? : Option String) (e : Expectation) :
    (∀ v, (Pair.answer left op right).result = .ok v →
      ((Case.check ⟨name?, l, op, r, e⟩).result = none ↔ e = .answer v)) ∧
    (∀ err, (Pair.answer left op right).result = .error err →
      ((Case.check ⟨name?, l, op, r, e⟩).result = none ↔
        ∃ f, e = .failure f ∧ f.toList <:+: err.report.message.toList)) := by
  rw [Pair.result_answer readLeft readRight name? e, Case.result_check_eq_none_iff]
  cases (Case.evaluate ⟨name?, l, op, r, e⟩).result with
  | ok got =>
    refine ⟨?_, nofun⟩
    rintro _ ⟨⟩
    exact Case.isMet_ok_iff
  | error err =>
    refine ⟨nofun, ?_⟩
    rintro _ ⟨⟩
    exact Case.isMet_error_iff

/-- A question asked of a pair of texts and the same question in a file with one case come
to the same. The file is loaded exactly when both operands denote values, and otherwise the
pair fails for one of them. The case passes exactly when it expects the pair's answer, or a
fragment of the message with which the pair fails. -/
theorem pair_and_case_agree (grammaticalLeft : IsGrammatical left 125)
    (grammaticalRight : IsGrammatical right 125) (quoted : QuotedText op written.toList)
    (expected : ExpectationText e expect)
    (file : t.readText path = .ok (oneCaseFile left written right expect)) :
    ((∃ cases, load t path = .ok cases) ↔ Value.IsReadable left ∧ Value.IsReadable right) ∧
    (¬ (Value.IsReadable left ∧ Value.IsReadable right) →
      ∃ err, (Pair.answer left op right).result = .error err ∧
        (err.report.message = "invalid left operand" ∨
          err.report.message = "invalid right operand")) ∧
    (Value.IsReadable left ∧ Value.IsReadable right → ∃ c, load t path = .ok [c] ∧
      (∀ v, (Pair.answer left op right).result = .ok v →
        (c.check.result = none ↔ e = .answer v)) ∧
      (∀ err, (Pair.answer left op right).result = .error err →
        (c.check.result = none ↔
          ∃ f, e = .failure f ∧ f.toList <:+: err.report.message.toList))) := by
  have loaded := toOption_load file
  rw [Case.toOption_listOfText grammaticalLeft grammaticalRight quoted expected] at loaded
  refine ⟨?_, Pair.result_answer_of_not_readable, ?_⟩
  · simp only [Value.IsReadable, ← toOption_eq_some_iff, loaded]
    cases (Value.ofJsonText left).toOption <;> cases (Value.ofJsonText right).toOption <;> simp
  · rintro ⟨⟨l, readLeft⟩, r, readRight⟩
    refine ⟨⟨none, l, op, r, e⟩, ?_, check_agrees readLeft readRight none e⟩
    rw [← toOption_eq_some_iff, loaded, readLeft, readRight]
    rfl

end Loading

/-- A file in which true is not less than false. -/
theorem one_case_file_passes :
    ∃ c, load (oneFileTree (oneCaseFile "true" "\"<\"" " false" "false")) "cases.json" = .ok [c] ∧
      c.check.result = none := by
  have left : Spells (.element (some (.boolean true))) 125 "true".toList :=
    .element blank_nil (.keyword (Value.boolean_mem_keywords true)) blank_nil
  have right : Spells (.element (some (.boolean false))) 125 " false".toList :=
    .element blank_space (.keyword (Value.boolean_mem_keywords false)) blank_nil
  have quoted : QuotedText "<" "\"<\"".toList := .ofPlain (by decide)
  have file := readText_oneFileTree (oneCaseFile "true" "\"<\"" " false" "false")
  have readLeft : Value.ofJsonText "true" = .ok (.boolean true) :=
    toOption_eq_some_iff.mp (Value.toOption_ofJsonText (by decide) left)
  have readRight : Value.ofJsonText " false" = .ok (.boolean false) :=
    toOption_eq_some_iff.mp (Value.toOption_ofJsonText (by decide) right)
  have answer : (Pair.answer "true" "<" " false").result = .ok false := by
    rw [Pair.result_answer readLeft readRight none (.answer false)]
    rfl
  obtain ⟨_, _, agrees⟩ := pair_and_case_agree ⟨_, left⟩ ⟨_, right⟩ quoted (.answer false) file
  obtain ⟨c, loaded, passes, _⟩ := agrees ⟨⟨_, readLeft⟩, _, readRight⟩
  exact ⟨c, loaded, (passes false answer).mpr rfl⟩

/-- The text of a file that asks whether true is less than false. -/
def askingText (expected : Bool) : String :=
  oneCaseFile "true" "\"<\"" " false" (Json.boolWord expected)

def askingCase (expected : Bool) : Case :=
  ⟨none, .boolean true, "<", .boolean false, .answer expected⟩

theorem load_asking {t : FileTree} {path : Path} {expected : Bool}
    (file : t.readText path = .ok (askingText expected)) :
    load t path = .ok [askingCase expected] := by
  have left : Spells (.element (some (.boolean true))) 125 "true".toList :=
    .element blank_nil (.keyword (Value.boolean_mem_keywords true)) blank_nil
  have right : Spells (.element (some (.boolean false))) 125 " false".toList :=
    .element blank_space (.keyword (Value.boolean_mem_keywords false)) blank_nil
  have readLeft := Value.toOption_ofJsonText (by decide) left
  have readRight := Value.toOption_ofJsonText (by decide) right
  have quoted : QuotedText "<" "\"<\"".toList := .ofPlain (by decide)
  rw [← toOption_eq_some_iff, toOption_load file, askingText,
    Case.toOption_listOfText ⟨_, left⟩ ⟨_, right⟩ quoted (.answer expected), readLeft, readRight]
  rfl

end Suite

end ValueOrder
