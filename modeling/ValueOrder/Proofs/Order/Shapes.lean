import ValueOrder.Proofs.Order.Chain
import ValueOrder.Proofs.Order.Exchange

/-!
# Values of one shape

Values that are built alike, from numbers throughout or from texts throughout, always
have an order. Without a NaN inside them they are totally preordered, and a question
and its opposite have opposite answers.
-/

namespace ValueOrder

/-- How a value is built: lists may lie inside each other, and at the bottom stand
numbers or texts. Booleans count as numbers. -/
inductive Shape where
  | number
  | text
  | list (element : Shape)
  deriving DecidableEq, Repr

/-- The family of the values of a shape. -/
def Shape.family : Shape → Family
  | .number => .numeric
  | .text => .text
  | .list _ => .list

namespace Value

/-- The value is built as the shape says. The empty list has every shape of lists. -/
inductive HasShape : Value → Shape → Prop where
  | number (x : Binary64) : HasShape (.number x) .number
  | boolean (b : Bool) : HasShape (.boolean b) .number
  | text (s : String) : HasShape (.text s) .text
  | list {items : List Value} {element : Shape} (all : ∀ v ∈ items, HasShape v element) :
      HasShape (.list items) (.list element)

/-- The value is a NaN, or there is one inside it at some depth. -/
inductive ContainsNaN : Value → Prop where
  | here {x : Binary64} (nan : x.isNaN) : ContainsNaN (.number x)
  | inside {v : Value} {items : List Value} (member : v ∈ items) (deeper : ContainsNaN v) :
      ContainsNaN (.list items)

@[simp] theorem hasShape_number (x : Binary64) : (number x).HasShape .number := .number x

@[simp] theorem hasShape_boolean (b : Bool) : (boolean b).HasShape .number := .boolean b

@[simp] theorem hasShape_list_iff {items : List Value} {element : Shape} :
    (list items).HasShape (.list element) ↔ ∀ v ∈ items, v.HasShape element :=
  ⟨fun | .list all => all, .list⟩

@[simp] theorem containsNaN_number_iff {x : Binary64} : (number x).ContainsNaN ↔ x.isNaN :=
  ⟨fun | .here nan => nan, .here⟩

@[simp] theorem not_containsNaN_boolean (b : Bool) : ¬ (boolean b).ContainsNaN := nofun

@[simp] theorem containsNaN_list_iff {items : List Value} :
    (list items).ContainsNaN ↔ ∃ v ∈ items, v.ContainsNaN :=
  ⟨fun | .inside member deeper => ⟨_, member, deeper⟩, fun ⟨_, member, deeper⟩ => .inside member deeper⟩

/-! ## Values of one shape have an order -/

theorem family_of_hasShape {v : Value} {s : Shape} (shape : v.HasShape s) : v.family = s.family := by
  cases shape <;> rfl

/-- A walk along two lists whose elements all have an order comes to an outcome. -/
theorem exists_orderItems {xs ys : List Value}
    (elements : ∀ x ∈ xs, ∀ y ∈ ys, ∃ o, order x y = .ok o) : ∃ o, orderItems xs ys = .ok o := by
  induction xs generalizing ys with
  | nil => cases ys <;> exact ⟨_, rfl⟩
  | cons x xs ih =>
    cases ys with
    | nil => exact ⟨_, rfl⟩
    | cons y ys =>
      obtain ⟨head, tails⟩ := elements_cons elements
      by_cases equal : order x y = .ok .equal
      · rw [orderItems_cons_of_equal equal]
        exact ih tails
      · rw [orderItems_cons_of_ne equal]
        exact head

theorem exists_order_of_hasShape {a b : Value} {s : Shape} (left : a.HasShape s)
    (right : b.HasShape s) : ∃ o, order a b = .ok o := by
  induction a, b using meeting_induction generalizing s with
  | numbers a b x y number number' => exact ⟨_, order_numbers number number'⟩
  | texts t u => exact ⟨_, order_texts t u⟩
  | lists xs ys elements =>
    cases left with
    | list all =>
      cases right with
      | list all' =>
        rw [order_lists]
        exact exists_orderItems fun x mem y mem' => elements x mem y mem' (all x mem) (all' y mem')
  | apart a b differ =>
    exact absurd ((family_of_hasShape left).trans (family_of_hasShape right).symm) differ

/-! ## Only a NaN is unordered -/

/-- What counts as a NaN is the number NaN, since booleans count as 0 and 1. -/
theorem containsNaN_of_asNumber? {v : Value} {x : Binary64} (number : v.asNumber? = some x)
    (nan : x.isNaN) : v.ContainsNaN := by
  match v, number with
  | .number _, rfl => exact .here nan
  | .boolean false, rfl => exact absurd nan (by decide)
  | .boolean true, rfl => exact absurd nan (by decide)

/-- A walk along two lists is unordered only through a pair of elements that is. -/
theorem exists_unordered_of_orderItems {xs ys : List Value}
    (walk : orderItems xs ys = .ok .unordered) :
    ∃ x ∈ xs, ∃ y ∈ ys, order x y = .ok .unordered := by
  induction xs generalizing ys with
  | nil => cases ys <;> cases walk
  | cons x xs ih =>
    cases ys with
    | nil => cases walk
    | cons y ys =>
      by_cases equal : order x y = .ok .equal
      · rw [orderItems_cons_of_equal equal] at walk
        obtain ⟨u, left, v, right, unordered⟩ := ih walk
        exact ⟨u, .tail x left, v, .tail y right, unordered⟩
      · rw [orderItems_cons_of_ne equal] at walk
        exact ⟨x, .head xs, y, .head ys, walk⟩

/-- Of two values that are unordered one contains a NaN. -/
theorem containsNaN_of_unordered {a b : Value} (unordered : order a b = .ok .unordered) :
    a.ContainsNaN ∨ b.ContainsNaN := by
  induction a, b using meeting_induction with
  | numbers a b x y left right =>
    rw [order_numbers left right, Except.ok.injEq, Binary64.order_eq_unordered_iff] at unordered
    exact unordered.imp (containsNaN_of_asNumber? left) (containsNaN_of_asNumber? right)
  | texts s t =>
    rw [order_texts, Except.ok.injEq] at unordered
    exact absurd unordered (Text.order_ne_unordered s t)
  | lists xs ys elements =>
    rw [order_lists] at unordered
    obtain ⟨x, left, y, right, pair⟩ := exists_unordered_of_orderItems unordered
    exact (elements x left y right pair).imp (.inside left) (.inside right)
  | apart a b differ =>
    rw [order_apart differ] at unordered
    cases unordered

/-! ## Total preorder -/

/-- Without a NaN the order of two values of one shape is that of a total order. -/
theorem exists_ordering_of_hasShape {a b : Value} {s : Shape} (left : a.HasShape s)
    (right : b.HasShape s) (noNaN : ¬ a.ContainsNaN) (noNaN' : ¬ b.ContainsNaN) :
    ∃ o, order a b = .ok (.ofOrdering o) := by
  obtain ⟨outcome, ordered⟩ := exists_order_of_hasShape left right
  cases outcome with
  | less => exact ⟨.lt, ordered⟩
  | equal => exact ⟨.eq, ordered⟩
  | greater => exact ⟨.gt, ordered⟩
  | unordered => exact ((containsNaN_of_unordered ordered).elim noNaN noNaN').elim

/-- A value that has a place in a total order is equal to itself, as no other outcome
is its own reverse. -/
theorem order_self_of_ordering {a : Value} {o : Ordering} (ordered : order a a = .ok (.ofOrdering o)) :
    order a a = .ok .equal := by
  have turned := order_exchange a a
  rw [ordered] at turned
  cases o with
  | eq => exact ordered
  | lt | gt => cases turned

end Value

/-- One of three statements holds and the other two do not. -/
def ExactlyOne (p q r : Prop) : Prop :=
  (p ∧ ¬ q ∧ ¬ r) ∨ (¬ p ∧ q ∧ ¬ r) ∨ (¬ p ∧ ¬ q ∧ r)

namespace Comparison

/-- Whether the left value is less or equal is a question about a rising outcome. -/
theorem result_answer_le_eq_true_iff {a b : Value} :
    (answer a b .le).result = .ok true ↔ ∃ o, Value.Rises a b o := by
  unfold Value.Rises
  cases ordered : a.order b with
  | ok o =>
    rw [result_answer_of_ok ordered]
    cases o <;> simp [Outcome.satisfies, Outcome.Rising]
  | error kinds => simp [result_answer_of_error ordered]

/-- Values of one shape always have an order. Without a NaN they are never unordered:
a question and its opposite have opposite answers, exactly one of less, equal and
greater holds, every value is equal to itself, and less or equal is transitive. -/
theorem same_shape_total_preorder (s : Shape) (a b : Value) (left : a.HasShape s)
    (right : b.HasShape s) :
    (∃ outcome, (order a b).result = .ok outcome) ∧
    (¬ a.ContainsNaN → ¬ b.ContainsNaN →
      (order a b).result ≠ .ok .unordered ∧
      (∃ holds, (answer a b .lt).result = .ok holds ∧ (answer a b .ge).result = .ok (!holds)) ∧
      (∃ holds, (answer a b .gt).result = .ok holds ∧ (answer a b .le).result = .ok (!holds)) ∧
      ExactlyOne ((answer a b .lt).result = .ok true) ((order a b).result = .ok .equal)
        ((answer a b .gt).result = .ok true) ∧
      (order a a).result = .ok .equal ∧
      ∀ c, c.HasShape s → ¬ c.ContainsNaN → (answer a b .le).result = .ok true →
        (answer b c .le).result = .ok true → (answer a c .le).result = .ok true) := by
  constructor
  · obtain ⟨outcome, ordered⟩ := Value.exists_order_of_hasShape left right
    exact ⟨outcome, result_order_eq_ok_iff.mpr ordered⟩
  · intro noNaN noNaN'
    obtain ⟨o, ordered⟩ := Value.exists_ordering_of_hasShape left right noNaN noNaN'
    obtain ⟨self, itself⟩ := Value.exists_ordering_of_hasShape left left noNaN noNaN
    simp only [result_order_eq_ok_iff, result_answer_of_ok ordered, ne_eq, ordered]
    refine ⟨?_, ?_, ?_, ?_, Value.order_self_of_ordering itself, ?_⟩
    · cases o <;> simp [Outcome.ofOrdering]
    · cases o <;> simp [Outcome.ofOrdering, Outcome.satisfies]
    · cases o <;> simp [Outcome.ofOrdering, Outcome.satisfies]
    · cases o <;> simp [Outcome.ofOrdering, Outcome.satisfies, ExactlyOne]
    · intro c _ _ first second
      rw [← result_answer_of_ok ordered, result_answer_le_eq_true_iff] at first
      rw [result_answer_le_eq_true_iff] at second ⊢
      obtain ⟨p, rise⟩ := first
      obtain ⟨q, next⟩ := second
      exact ⟨_, Value.rises_succession rise next⟩

/-- `[[], [True]]` and `[[], [-1, 0], []]` are lists of lists of numbers. The first is
the greater one and nothing else. -/
theorem nested_lists_total_preorder :
    (Value.list [.list [], .list [.boolean true]]).HasShape (.list (.list .number)) ∧
    (Value.list [.list [], .list [.number ⟨0xBFF0000000000000⟩, .number .zero], .list []]).HasShape
      (.list (.list .number)) ∧
    ExactlyOne
      ((answer (.list [.list [], .list [.boolean true]])
        (.list [.list [], .list [.number ⟨0xBFF0000000000000⟩, .number .zero], .list []])
        .lt).result = .ok true)
      ((order (.list [.list [], .list [.boolean true]])
        (.list [.list [], .list [.number ⟨0xBFF0000000000000⟩, .number .zero], .list []])).result =
        .ok .equal)
      ((answer (.list [.list [], .list [.boolean true]])
        (.list [.list [], .list [.number ⟨0xBFF0000000000000⟩, .number .zero], .list []])
        .gt).result = .ok true) := by
  have left : (Value.list [.list [], .list [.boolean true]]).HasShape (.list (.list .number)) := by
    simp
  have right : (Value.list [.list [], .list [.number ⟨0xBFF0000000000000⟩, .number .zero],
      .list []]).HasShape (.list (.list .number)) := by
    simp
  have noNaN : ¬ (Value.list [.list [], .list [.boolean true]]).ContainsNaN := by simp
  have noNaN' : ¬ (Value.list [.list [], .list [.number ⟨0xBFF0000000000000⟩, .number .zero],
      .list []]).ContainsNaN := by
    have finite : Binary64.isNaN ⟨0xBFF0000000000000⟩ = false := by decide
    have finite' : Binary64.zero.isNaN = false := by decide
    simp [finite, finite']
  exact ⟨left, right,
    ((same_shape_total_preorder _ _ _ left right).2 noNaN noNaN').2.2.2.1⟩

end Comparison

end ValueOrder
