import ValueOrder.Text.GraphemeExtend
import ValueOrder.Text.NotGraphic

/-!
# Quoted text

Text is shown between double quotes. A character stands for itself unless it
would not be seen as itself: quotes, backslashes, controls, marks that would
attach to a neighbour, and characters without a picture are written as escapes
that begin with a backslash.
-/

namespace ValueOrder.Text

/-- The escape by code point: hexadecimal digits between braces. -/
def codePointEscape (c : Char) : List Char :=
  '\\' :: 'u' :: '\x7b' :: (Nat.toDigits 16 c.toNat ++ ['\x7d'])

/-- Whether the character is shown as itself, short escapes aside. The space is
the one separator that is. -/
def isShown (c : Char) : Bool :=
  c = ' ' || !(isNotGraphic c || isGraphemeExtend c)

/-- How one character is written between quotes. -/
def escaped (c : Char) : List Char :=
  match c with
  | '\x00' => ['\\', '0']
  | '\t' => ['\\', 't']
  | '\n' => ['\\', 'n']
  | '\r' => ['\\', 'r']
  | '"' => ['\\', '"']
  | '\\' => ['\\', '\\']
  | c => if isShown c then [c] else codePointEscape c

/-- The characters of a text between quotes. -/
def quotedChars (s : List Char) : List Char := '"' :: (s.flatMap escaped ++ ['"'])

def quoted (s : String) : String := .ofList (quotedChars s.toList)

end ValueOrder.Text
