import Mathlib.Data.List.Forall2
import ValueOrder.Value.Order

/-!
# How two values meet

Two values meet as numbers, as texts, as lists, or they are of different families
and have no order. Every proof about the order follows these four ways, and the
walk along two lists is described by the first pair that is not equal.
-/

namespace ValueOrder

/-- The families of kinds: values have an order within one family only. -/
inductive Family where
  | numeric
  | text
  | list
  deriving DecidableEq, Repr

/-- The family of a kind. Booleans count as numbers. -/
def Kind.family : Kind → Family
  | .number => .numeric
  | .boolean => .numeric
  | .text => .text
  | .list => .list

namespace Value

/-- The family of a value. -/
def family (v : Value) : Family := v.kind.family

@[simp] theorem family_number (x : Binary64) : (number x).family = .numeric := rfl

@[simp] theorem family_boolean (b : Bool) : (boolean b).family = .numeric := rfl

@[simp] theorem family_text (s : String) : (text s).family = .text := rfl

@[simp] theorem family_list (items : List Value) : (list items).family = .list := rfl

/-- The numeric values are those that count as a number. -/
theorem family_eq_numeric_iff {v : Value} : v.family = .numeric ↔ ∃ x, v.asNumber? = some x := by
  cases v with
  | number x => simp [asNumber?]
  | boolean b => cases b <;> simp [asNumber?]
  | text s => simp [asNumber?]
  | list items => simp [asNumber?]

theorem family_eq_text_iff {v : Value} : v.family = .text ↔ ∃ s, v = .text s := by
  cases v <;> simp

theorem family_eq_list_iff {v : Value} : v.family = .list ↔ ∃ items, v = .list items := by
  cases v <;> simp

/-- What has the family of a numeric value counts as a number too. -/
theorem exists_number_of_family_eq {a b : Value} {x : Binary64} (same : a.family = b.family)
    (number : a.asNumber? = some x) : ∃ y, b.asNumber? = some y := by
  rw [← family_eq_numeric_iff, ← same, family_eq_numeric_iff]
  exact ⟨x, number⟩

/-! ## The four ways -/

/-- The ways in which a left and a right value meet. -/
inductive Meeting : Value → Value → Prop where
  | numbers {a b : Value} {x y : Binary64} (left : a.asNumber? = some x)
      (right : b.asNumber? = some y) : Meeting a b
  | texts (s t : String) : Meeting (.text s) (.text t)
  | lists (xs ys : List Value) : Meeting (.list xs) (.list ys)
  | apart {a b : Value} (differ : a.family ≠ b.family) : Meeting a b

/-- Two values always meet in one of the four ways. -/
theorem meeting (a b : Value) : Meeting a b := by
  by_cases same : a.family = b.family
  · cases family : b.family with
    | numeric =>
      obtain ⟨x, left⟩ := family_eq_numeric_iff.mp (same.trans family)
      obtain ⟨y, right⟩ := family_eq_numeric_iff.mp family
      exact .numbers left right
    | text =>
      obtain ⟨s, rfl⟩ := family_eq_text_iff.mp (same.trans family)
      obtain ⟨t, rfl⟩ := family_eq_text_iff.mp family
      exact .texts s t
    | list =>
      obtain ⟨xs, rfl⟩ := family_eq_list_iff.mp (same.trans family)
      obtain ⟨ys, rfl⟩ := family_eq_list_iff.mp family
      exact .lists xs ys
  · exact .apart same

/-- Induction along the walk of the order. A statement about two lists may rely on
the statement about any two of their elements. -/
@[elab_as_elim]
theorem meeting_induction {P : Value → Value → Prop}
    (numbers : ∀ a b x y, a.asNumber? = some x → b.asNumber? = some y → P a b)
    (texts : ∀ s t, P (.text s) (.text t))
    (lists : ∀ xs ys, (∀ x ∈ xs, ∀ y ∈ ys, P x y) → P (.list xs) (.list ys))
    (apart : ∀ a b, a.family ≠ b.family → P a b) (a b : Value) : P a b :=
  match a, b, meeting a b with
  | a, b, .numbers left right => numbers a b _ _ left right
  | _, _, .texts s t => texts s t
  | _, _, .lists xs ys => lists xs ys fun x _ y _ => meeting_induction numbers texts lists apart x y
  | a, b, .apart differ => apart a b differ
termination_by a

/-- What holds between the elements of two lists holds between their heads and
between the elements of their tails. -/
theorem elements_cons {P : Value → Value → Prop} {x y : Value} {xs ys : List Value}
    (elements : ∀ u ∈ x :: xs, ∀ v ∈ y :: ys, P u v) : P x y ∧ ∀ u ∈ xs, ∀ v ∈ ys, P u v := by
  refine ⟨elements x List.mem_cons_self y List.mem_cons_self, ?_⟩
  intro u left v right
  exact elements u (List.mem_cons_of_mem x left) v (List.mem_cons_of_mem y right)

/-! ## What the order answers in each -/

theorem order_numbers {a b : Value} {x y : Binary64} (left : a.asNumber? = some x)
    (right : b.asNumber? = some y) : order a b = .ok (Binary64.order x y) := by
  cases a <;> cases b <;> simp_all [order, asNumber?]

@[simp] theorem order_texts (s t : String) :
    order (.text s) (.text t) = .ok (Text.order s t) := by
  simp [order]

@[simp] theorem order_lists (xs ys : List Value) :
    order (.list xs) (.list ys) = orderItems xs ys := by
  simp [order]

theorem order_apart {a b : Value} (differ : a.family ≠ b.family) :
    order a b = .error ⟨a.kind, b.kind⟩ := by
  cases a <;> cases b <;> simp_all [order, asNumber?, kind]

/-- Values that have an order are of one family. -/
theorem family_eq_of_order_eq_ok {a b : Value} {o : Outcome} (ordered : order a b = .ok o) :
    a.family = b.family := by
  by_cases same : a.family = b.family
  · exact same
  · rw [order_apart same] at ordered
    cases ordered

/-! ## Along two lists -/

theorem orderItems_cons_of_equal {x y : Value} {xs ys : List Value} (equal : order x y = .ok .equal) :
    orderItems (x :: xs) (y :: ys) = orderItems xs ys := by
  rw [orderItems, equal]

theorem orderItems_cons_of_ne {x y : Value} {xs ys : List Value} (differ : order x y ≠ .ok .equal) :
    orderItems (x :: xs) (y :: ys) = order x y := by
  rw [orderItems]
  split
  · next equal => exact absurd equal differ
  · rfl

/-- Every pair of elements before the place `n` orders equal. -/
def EqualBefore (n : Nat) (xs ys : List Value) : Prop :=
  ∀ k < n, ∀ x y, xs[k]? = some x → ys[k]? = some y → order x y = .ok .equal

theorem equalBefore_zero (xs ys : List Value) : EqualBefore 0 xs ys :=
  fun _ below => absurd below (Nat.not_lt_zero _)

theorem equalBefore_succ_cons {n : Nat} {x y : Value} {xs ys : List Value} :
    EqualBefore (n + 1) (x :: xs) (y :: ys) ↔ order x y = .ok .equal ∧ EqualBefore n xs ys := by
  constructor
  · intro equal
    refine ⟨equal 0 (Nat.succ_pos n) x y rfl rfl, ?_⟩
    intro k below u v left right
    exact equal (k + 1) (Nat.succ_lt_succ below) u v left right
  · rintro ⟨first, rest⟩ k below u v left right
    cases k with
    | zero =>
      cases left
      cases right
      exact first
    | succ k => exact rest k (Nat.lt_of_succ_lt_succ below) u v left right

/-- Two lists whose common part orders equal stand as their lengths do. -/
theorem orderItems_of_equalBefore {xs ys : List Value}
    (equal : EqualBefore (min xs.length ys.length) xs ys) :
    orderItems xs ys = .ok (.ofOrdering (compare xs.length ys.length)) := by
  induction xs generalizing ys with
  | nil =>
    cases ys with
    | nil => rfl
    | cons y ys => simp [orderItems, Nat.compare_eq_lt.mpr, Outcome.ofOrdering]
  | cons x xs ih =>
    cases ys with
    | nil => simp [orderItems, Nat.compare_eq_gt.mpr, Outcome.ofOrdering]
    | cons y ys =>
      rw [List.length_cons, List.length_cons, Nat.succ_min_succ, equalBefore_succ_cons] at equal
      obtain ⟨first, rest⟩ := equal
      rw [orderItems_cons_of_equal first, ih rest]
      simp only [List.length_cons, Nat.compare_eq_ite_lt, Nat.add_lt_add_iff_right]

/-- The first pair that does not order equal gives the answer for the lists. -/
theorem orderItems_of_first {i : Nat} {x y : Value} {xs ys : List Value} (left : xs[i]? = some x)
    (right : ys[i]? = some y) (before : EqualBefore i xs ys) (differ : order x y ≠ .ok .equal) :
    orderItems xs ys = order x y := by
  induction i generalizing xs ys with
  | zero =>
    obtain ⟨xs, rfl⟩ := List.head?_eq_some_iff.mp (List.head?_eq_getElem?.trans left)
    obtain ⟨ys, rfl⟩ := List.head?_eq_some_iff.mp (List.head?_eq_getElem?.trans right)
    exact orderItems_cons_of_ne differ
  | succ i ih =>
    cases xs with
    | nil => simp at left
    | cons u xs =>
      cases ys with
      | nil => simp at right
      | cons v ys =>
        obtain ⟨first, rest⟩ := equalBefore_succ_cons.mp before
        rw [orderItems_cons_of_equal first]
        exact ih left right rest

/-- Along two lists either the whole common part orders equal, or some pair is the
first that does not. -/
theorem equalBefore_or_first (xs ys : List Value) :
    EqualBefore (min xs.length ys.length) xs ys ∨
      ∃ i x y, xs[i]? = some x ∧ ys[i]? = some y ∧ EqualBefore i xs ys ∧ order x y ≠ .ok .equal := by
  induction xs generalizing ys with
  | nil => exact .inl (by simpa using equalBefore_zero [] ys)
  | cons x xs ih =>
    cases ys with
    | nil => exact .inl (by simpa using equalBefore_zero (x :: xs) [])
    | cons y ys =>
      by_cases first : order x y = .ok .equal
      · rcases ih ys with equal | ⟨i, u, v, left, right, before, differ⟩
        · left
          rw [List.length_cons, List.length_cons, Nat.succ_min_succ, equalBefore_succ_cons]
          exact ⟨first, equal⟩
        · right
          exact ⟨i + 1, u, v, left, right, equalBefore_succ_cons.mpr ⟨first, before⟩, differ⟩
      · exact .inr ⟨0, x, y, rfl, rfl, equalBefore_zero _ _, first⟩

/-- Two lists order equal exactly if they have the same length and order equal
element by element. -/
theorem orderItems_eq_equal_iff {xs ys : List Value} :
    orderItems xs ys = .ok .equal ↔ List.Forall₂ (fun x y => order x y = .ok .equal) xs ys := by
  induction xs generalizing ys with
  | nil => cases ys <;> simp [orderItems]
  | cons x xs ih =>
    cases ys with
    | nil => simp [orderItems]
    | cons y ys =>
      rw [List.forall₂_cons, ← ih]
      by_cases first : order x y = .ok .equal
      · rw [orderItems_cons_of_equal first]
        simp only [first, true_and]
      · rw [orderItems_cons_of_ne first]
        simp only [first, false_and]

end Value

end ValueOrder
