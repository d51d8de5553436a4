import ValueOrder.Decimal.Layout
import ValueOrder.Text.Quoted
import ValueOrder.Value

/-!
# The text of a value

Values are rendered for reports and log records: numbers in the plain layout,
booleans as words, texts quoted, and lists between brackets.
-/

namespace ValueOrder

def boolWord : Bool → String
  | true => "True"
  | false => "False"

namespace Value

mutual

/-- The characters of a rendered value. -/
def renderChars : Value → List Char
  | .number x => (Layout.plain.text x).toList
  | .boolean b => (boolWord b).toList
  | .text s => Text.quotedChars s.toList
  | .list items => '[' :: (renderItems items ++ [']'])

/-- The characters of list elements with a comma and a space between them. -/
def renderItems : List Value → List Char
  | [] => []
  | [v] => renderChars v
  | v :: w :: rest => renderChars v ++ ',' :: ' ' :: renderItems (w :: rest)

end

def render (v : Value) : String := .ofList v.renderChars

end Value

end ValueOrder
