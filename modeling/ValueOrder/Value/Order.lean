import ValueOrder.Text.Order
import ValueOrder.Value

/-!
# The order of values

Numbers and booleans share one numeric scale. Texts are ordered among
themselves, and so are lists, by the first pair of elements that is not equal
and then by length. All other pairs of kinds have no order.
-/

namespace ValueOrder

/-- Two kinds that have no order between them, as they stood left and right. -/
structure Mismatch where
  left : Kind
  right : Kind
  deriving DecidableEq, Repr

namespace Value

mutual

/-- Orders two values, or names the kinds of the first pair met that have no order. -/
def order : Value → Value → Except Mismatch Outcome
  | .text s, .text t => .ok (Text.order s t)
  | .list xs, .list ys => orderItems xs ys
  | a, b =>
    match a.asNumber?, b.asNumber? with
    | some x, some y => .ok (Binary64.order x y)
    | _, _ => .error ⟨a.kind, b.kind⟩

/-- Orders two lists of elements: the first pair that is not equal decides, and a
proper beginning is less than what it begins. -/
def orderItems : List Value → List Value → Except Mismatch Outcome
  | [], [] => .ok .equal
  | [], _ :: _ => .ok .less
  | _ :: _, [] => .ok .greater
  | x :: xs, y :: ys =>
    match order x y with
    | .ok .equal => orderItems xs ys
    | decided => decided

end

end Value

end ValueOrder
