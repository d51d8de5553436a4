/-!
# White space

The property `White_Space`, and texts without it at their ends.
-/

namespace ValueOrder.Text

/-- Whether the character has the property `White_Space`. -/
def isWhiteSpace (c : Char) : Bool :=
  let n := c.toNat
  (9 ≤ n && n ≤ 13) || n = 0x20 || n = 0x85 || n = 0xA0 || n = 0x1680
    || (0x2000 ≤ n && n ≤ 0x200A) || n = 0x2028 || n = 0x2029 || n = 0x202F || n = 0x205F
    || n = 0x3000

/-- The characters from the first to the last that is no white space. -/
def trimmedChars (s : List Char) : List Char :=
  ((s.dropWhile isWhiteSpace).reverse.dropWhile isWhiteSpace).reverse

/-- The text without the white space at its ends. -/
def trimmed (s : String) : String := .ofList (trimmedChars s.toList)

end ValueOrder.Text
