import ValueOrder.Outcome

/-!
# The order of texts

Texts are compared by their UTF-8 bytes, first difference first, and a proper
beginning comes before what it begins.
-/

namespace ValueOrder.Text

/-- The UTF-8 bytes of a text. -/
def bytes (s : String) : List UInt8 := s.toList.flatMap String.utf8EncodeChar

/-- Lexicographic comparison of byte sequences. -/
def compareBytes : List UInt8 → List UInt8 → Ordering
  | [], [] => .eq
  | [], _ :: _ => .lt
  | _ :: _, [] => .gt
  | a :: s, b :: t => (compare a b).then (compareBytes s t)

/-- How one text stands to another. -/
def order (s t : String) : Outcome := .ofOrdering (compareBytes (bytes s) (bytes t))

end ValueOrder.Text
