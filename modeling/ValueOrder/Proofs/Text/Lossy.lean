import ValueOrder.Path

/-!
# Text from bytes and back

The bytes of a text are decoded to that text, so no two texts are shown alike.
-/

namespace ValueOrder

namespace Text

theorem decodeLossy_append (passed rest : List UInt8) :
    decodeLossy passed.length (passed ++ rest) = decodeLossy 0 rest := by
  induction passed with
  | nil => rfl
  | cons byte passed ih => exact ih

theorem firstChar?_utf8EncodeChar (c : Char) (rest : List UInt8) :
    firstChar? (String.utf8EncodeChar c ++ rest) = some c := by
  have short : (String.utf8EncodeChar c).length ≤ 4 := by
    rw [String.length_utf8EncodeChar]
    exact c.utf8Size_le_four
  rw [firstChar?, List.take_append, List.take_of_length_le short, List.toByteArray_append]
  exact ByteArray.utf8DecodeChar?_utf8EncodeChar_append

/-- The bytes of a character are decoded to it, whatever stands behind them. -/
theorem decodeLossy_utf8EncodeChar (c : Char) (rest : List UInt8) :
    decodeLossy 0 (String.utf8EncodeChar c ++ rest) = c :: decodeLossy 0 rest := by
  have whole := firstChar?_utf8EncodeChar c rest
  have size := String.length_utf8EncodeChar c
  cases bytes : String.utf8EncodeChar c with
  | nil =>
    rw [bytes, List.length_nil] at size
    exact absurd size.symm (Nat.ne_of_gt c.utf8Size_pos)
  | cons first others =>
    rw [bytes, List.cons_append] at whole
    have passed : c.utf8Size - 1 = others.length := by
      rw [← size, bytes, List.length_cons, Nat.add_sub_cancel]
    rw [List.cons_append, decodeLossy, whole]
    dsimp only
    rw [passed, decodeLossy_append]

theorem decodeLossy_bytes (s : String) : decodeLossy 0 (bytes s) = s.toList := by
  rw [bytes]
  induction s.toList with
  | nil => rfl
  | cons c rest ih => rw [List.flatMap_cons, decodeLossy_utf8EncodeChar, ih]

end Text

namespace Path

/-- The path is UTF-8. -/
def IsText (p : Path) : Prop := ∃ s : String, p = ofString s

/-- A path that is text is shown as that text. -/
@[simp] theorem display_ofString (s : String) : (ofString s).display = s := by
  rw [display, ofString, Text.decodeLossy_bytes, String.ofList_toList]

theorem display_inj {p q : Path} (left : p.IsText) (right : q.IsText) (same : p.display = q.display) :
    p = q := by
  obtain ⟨s, rfl⟩ := left
  obtain ⟨s', rfl⟩ := right
  rw [display_ofString, display_ofString] at same
  rw [same]

/-- Names with other bytes that are no text can be shown alike. -/
example : Path.display ⟨[0xFE]⟩ = Path.display ⟨[0xFF]⟩ := rfl

end Path

end ValueOrder
