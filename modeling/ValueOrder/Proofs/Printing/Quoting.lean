import ValueOrder.Proofs.Printing.Compact

/-!
# Objects that errors quote

An object that is no value is quoted in the error as a compact document. The document can be
put in its place: it is no value for the same reason, and it is quoted in the same words.
-/

namespace ValueOrder

namespace Value

open Json

section Errors
variable {text s : String} {e : Inconvertible} {members : List (String × Json)}

theorem message_malformed (text : String) (fault : Fault Reason) :
    (Inconvertible.malformed text fault).message =
      "cannot convert " ++ ("'" ++ text ++ "' (" ++ fault.message Reason.message text ++ ")") ++
        " to a runtime value" :=
  rfl

theorem message_null : Inconvertible.null.message = "cannot convert null to a runtime value" := rfl

theorem message_object (members : List (String × Json)) :
    (Inconvertible.object members).message =
      "cannot convert " ++ ("object " ++ (Json.object members).compact) ++ " to a runtime value" :=
  rfl

/-- Only an object is quoted as one. -/
theorem object_of_message
    (quoted : e.message = "cannot convert " ++ ("object " ++ s) ++ " to a runtime value") :
    ∃ members, e = .object members ∧ (Json.object members).compact = s := by
  cases e with
  | malformed text fault =>
    rw [message_malformed] at quoted
    have characters := congrArg String.toList quoted
    simp at characters
  | null =>
    rw [message_null] at quoted
    have characters := congrArg String.toList quoted
    simp at characters
  | object members =>
    rw [message_object] at quoted
    have characters := congrArg String.toList quoted
    refine ⟨members, rfl, String.toList_inj.mp ?_⟩
    simpa using characters

/-- An object that is reported is a part of the document, and no number object. -/
theorem reported_of_ofJsonText (failed : ofJsonText text = .error (.object members)) :
    ∃ j, ofText text = .ok j ∧ .object members ∈ j.parts ∧ numberObject? members = none := by
  unfold ofJsonText at failed
  split at failed
  · cases failed
  · next j read =>
    obtain ⟨part, member, blamed⟩ := List.exists_of_findSome?_eq_some
      ((ofJson_eq_error_iff j _).mp failed)
    refine ⟨j, read, ?_⟩
    unfold blame? at blamed
    split at blamed
    · cases blamed
    · split_ifs at blamed with other
      cases blamed
      exact ⟨member, other⟩
    · cases blamed

theorem ofJsonText_compact (fits : Fits (.object members) maxLevels)
    (whole : OnlyWhole (.object members)) (other : numberObject? members = none) :
    ofText (Json.object members).compact = .ok (.object (merged (canonicalMembers members))) ∧
      ofJsonText (Json.object members).compact =
        .error (.object (merged (canonicalMembers members))) := by
  have read := ofText_compact fits whole
  rw [canonical] at read
  refine ⟨read, ?_⟩
  rw [ofJsonText, read]
  dsimp only
  rw [ofJson, numberObject?_canonical, other]

/-- The object that an error quotes reproduces the error. Where all numbers in it are whole,
the quoted text is a document and gives the same error. It stands for the object that was
reported, with the keys of each object sorted and without repetitions. -/
theorem quoted_object_reproduces_error (failed : ofJsonText text = .error e)
    (quoted : e.message = "cannot convert " ++ ("object " ++ s) ++ " to a runtime value")
    (whole : ∀ members, e = .object members → OnlyWhole (.object members)) :
    ∃ j members members', ofText text = .ok j ∧ .object members ∈ j.parts ∧ e = .object members ∧
      ofText s = .ok (.object members') ∧ ofJsonText s = .error (.object members') ∧
      (Inconvertible.object members').message = e.message ∧
      Same (.object members) (.object members') ∧ SortedKeys (.object members') := by
  obtain ⟨members, rfl, rfl⟩ := object_of_message quoted
  obtain ⟨j, read, member, other⟩ := reported_of_ofJsonText failed
  have fits := fits_of_mem_parts (fits_of_ofText read) member
  obtain ⟨document, reproduced⟩ := ofJsonText_compact fits (whole members rfl) other
  have sameText : (Json.object (merged (canonicalMembers members))).compact =
      (Json.object members).compact := by
    rw [compact, compact, ← canonical, compactChars_canonical]
  refine ⟨j, members, _, read, member, rfl, document, reproduced, ?_, ?_, ?_⟩
  · rw [message_object, message_object, sameText]
  · rw [← canonical]
    exact same_canonical _
  · rw [← canonical]
    exact sortedKeys_canonical _

end Errors

/-- An object in which a key is repeated, a zero has a sign and a text has to be escaped. -/
def repeatedKey : List (String × Json) :=
  [("b", .array [.number (.double .negZero)]), ("a", .text "x"), ("a", .text "\t")]

theorem literal_minusZero : LiteralText ⟨true, [0], [], none⟩ ['-', '0'] ∧
    (⟨true, [0], [], none⟩ : Literal).number = .ok (.double .negZero) := by
  have digits : IsDigits ['0'] := isDigits_of_all (by decide) (by decide)
  have read : (⟨true, [0], [], none⟩ : Literal).number = .ok (.double (Binary64.ofNat 0).neg) := rfl
  refine ⟨.mk .minus digits (fun _ => rfl) .none .none, ?_⟩
  rw [read, Binary64.ofNat_zero, Binary64.neg_zero]

theorem onlyWhole_repeatedKey : OnlyWhole (.object repeatedKey) := by
  have zero : (⟨true, [0], [], none⟩ : Literal).value = 0 := by
    simp [Literal.value, Literal.size, Literal.digits]
  have whole : (⟨true, [0], [], none⟩ : Literal).IsWhole := by
    refine ⟨rfl, rfl, ?_, ?_⟩
    · norm_num [zero]
    · norm_num [zero]
  have minusZero : JsonNumber.IsWhole (.double .negZero) :=
    ⟨_, _, literal_minusZero.1, whole, literal_minusZero.2⟩
  refine .object ?_
  simp only [repeatedKey, List.forall_mem_cons]
  refine ⟨.array ?_, .text _, .text _, List.forall_mem_nil _⟩
  exact List.forall_mem_singleton.mpr (.number minusZero)

theorem ofText_repeatedKey :
    ofText "[true,\x7b\"b\":[-0],\"a\":\"x\",\"a\":\"\\t\"\x7d]" =
      .ok (.array [.boolean true, .object repeatedKey]) := by
  have first : Spells (.element (some (.boolean true))) 2 "true".toList :=
    Spells.bare (.keyword (boolean_mem_keywords true))
  have number : Spells (.value (some (.number (.double .negZero)))) 0 "-0".toList := by
    have written := Spells.number (n := 0) literal_minusZero.1
    rwa [literal_minusZero.2] at written
  have b : Spells (.member (some ("b", .array [.number (.double .negZero)]))) 1
      "\"b\":[-0]".toList :=
    spells_member (.array (.lastElement number.bare))
  have x : Spells (.member (some ("a", .text "x"))) 1 "\"a\":\"x\"".toList :=
    spells_member (.quoted (quotedText_textChars "x"))
  have tab : Spells (.member (some ("a", .text "\t"))) 1 "\"a\":\"\\t\"".toList :=
    spells_member (.quoted (quotedText_textChars "\t"))
  have second : Spells (.value (some (.object repeatedKey))) 2
      "\x7b\"b\":[-0],\"a\":\"x\",\"a\":\"\\t\"\x7d".toList :=
    .object (.nextMember b (.nextMember x (.lastMember tab)))
  have document : Spells (.value (some (.array [.boolean true, .object repeatedKey]))) 3
      "[true,\x7b\"b\":[-0],\"a\":\"x\",\"a\":\"\\t\"\x7d]".toList :=
    .array (.nextElement first (.lastElement second.bare))
  exact toOption_eq_some_iff.mp (toOption_ofText (by decide) document.bare)

theorem compact_repeatedKey :
    (Json.object repeatedKey).compact = "\x7b\"a\":\"\\t\",\"b\":[-0.0]\x7d" := by
  have sorted : merged repeatedKey =
      [("a", .text "\t"), ("b", .array [.number (.double .negZero)])] := rfl
  rw [compact, compactChars_object, sorted]
  simp only [List.map_cons, List.map_nil, Prod.map, id, compactChars, compactItems,
    JsonNumber.render_negZero]
  rfl

/-- The object in `[true,{"b":[-0],"a":"x","a":"\t"}]` is quoted with its keys sorted, one `a`
and the zero as `-0.0`, and is reported again. -/
theorem repeated_key_reproduced :
    ofJsonText "[true,\x7b\"b\":[-0],\"a\":\"x\",\"a\":\"\\t\"\x7d]" =
      .error (.object repeatedKey) ∧
    ∃ members', ofText "\x7b\"a\":\"\\t\",\"b\":[-0.0]\x7d" = .ok (.object members') ∧
      ofJsonText "\x7b\"a\":\"\\t\",\"b\":[-0.0]\x7d" = .error (.object members') ∧
      (Inconvertible.object members').message = (Inconvertible.object repeatedKey).message ∧
      Same (.object repeatedKey) (.object members') ∧ SortedKeys (.object members') := by
  have failed : ofJsonText "[true,\x7b\"b\":[-0],\"a\":\"x\",\"a\":\"\\t\"\x7d]" =
      .error (.object repeatedKey) := by
    rw [ofJsonText, ofText_repeatedKey]
    rfl
  have quoted : (Inconvertible.object repeatedKey).message = "cannot convert " ++
      ("object " ++ "\x7b\"a\":\"\\t\",\"b\":[-0.0]\x7d") ++ " to a runtime value" := by
    rw [message_object, compact_repeatedKey]
  have whole : ∀ members, Inconvertible.object repeatedKey = .object members →
      OnlyWhole (.object members) := by
    rintro _ ⟨⟩
    exact onlyWhole_repeatedKey
  obtain ⟨_, _, members', _, _, ⟨⟩, reproduced⟩ :=
    quoted_object_reproduces_error failed quoted whole
  exact ⟨failed, members', reproduced⟩

end Value

end ValueOrder
