import ValueOrder.Comparison
import ValueOrder.Proofs.Order.Meeting
import ValueOrder.Proofs.Order.Scalars

/-!
# The pair that decides

The order of two values is settled at one place: a path of indices leads through
lists on both sides, past pairs that order equal, to the first pair that does not.
Two values are equal if there is no such path, and the pair at the end of the path
gives the answer in every other case.
-/

namespace ValueOrder

namespace Value

/-- The pairs of values that decide, each with the answer that it gives. -/
inductive Decision : Value → Value → Except Mismatch Outcome → Prop where
  /-- Values of different families have no order. -/
  | apart {x y : Value} (differ : x.family ≠ y.family) : Decision x y (.error ⟨x.kind, y.kind⟩)
  /-- A NaN is unordered with every number. -/
  | nan {x y : Value} {m n : Binary64} (left : x.asNumber? = some m) (right : y.asNumber? = some n)
      (nan : m.isNaN ∨ n.isNaN) : Decision x y (.ok .unordered)
  /-- Different numbers stand as they do. -/
  | numbers {x y : Value} {m n : Binary64} (left : x.asNumber? = some m)
      (right : y.asNumber? = some n)
      (strict : Binary64.order m n = .less ∨ Binary64.order m n = .greater) :
      Decision x y (.ok (Binary64.order m n))
  /-- Different texts stand as they do. -/
  | texts {s t : String} (strict : Text.order s t = .less ∨ Text.order s t = .greater) :
      Decision (.text s) (.text t) (.ok (Text.order s t))
  /-- A list is less than a longer one that begins with equal elements. -/
  | shorter {xs ys : List Value} (lengths : xs.length < ys.length)
      (common : EqualBefore xs.length xs ys) : Decision (.list xs) (.list ys) (.ok .less)
  /-- A list is greater than a shorter one whose elements equal its first ones. -/
  | longer {xs ys : List Value} (lengths : ys.length < xs.length)
      (common : EqualBefore ys.length xs ys) : Decision (.list xs) (.list ys) (.ok .greater)

/-- A path of indices leads from two values down to a pair inside them. Each index
is within both lists, and every pair of elements before it orders equal. -/
inductive Leads : List Nat → Value → Value → Value → Value → Prop where
  | here (x y : Value) : Leads [] x y x y
  | into {i : Nat} {path : List Nat} {xs ys : List Value} {x y u v : Value} (left : xs[i]? = some x)
      (right : ys[i]? = some y) (before : EqualBefore i xs ys) (rest : Leads path x y u v) :
      Leads (i :: path) (.list xs) (.list ys) u v

/-- The path leads to a pair that decides. -/
def DecidingPath (path : List Nat) (a b : Value) : Prop :=
  ∃ x y answer, Leads path a b x y ∧ Decision x y answer

/-- Two values are the same up to and including the place that a path leads to.
After it, at every level, they may differ. -/
inductive SameUpTo : List Nat → Value → Value → Prop where
  | here (v : Value) : SameUpTo [] v v
  | into {i : Nat} {path : List Nat} {xs ys : List Value} {x y : Value}
      (before : ∀ k < i, xs[k]? = ys[k]?) (left : xs[i]? = some x) (right : ys[i]? = some y)
      (rest : SameUpTo path x y) : SameUpTo (i :: path) (.list xs) (.list ys)

/-! ## The answer at the end of a path -/

theorem order_of_decision {x y : Value} {answer : Except Mismatch Outcome}
    (decision : Decision x y answer) : order x y = answer := by
  cases decision with
  | apart differ => exact order_apart differ
  | nan left right nan => rw [order_numbers left right, Binary64.order_of_nan nan]
  | numbers left right => exact order_numbers left right
  | @texts s t => exact order_texts s t
  | @shorter xs ys lengths common =>
    rw [← Nat.min_eq_left (Nat.le_of_lt lengths)] at common
    rw [order_lists, orderItems_of_equalBefore common, Nat.compare_eq_lt.mpr lengths]
    rfl
  | @longer xs ys lengths common =>
    rw [← Nat.min_eq_right (Nat.le_of_lt lengths)] at common
    rw [order_lists, orderItems_of_equalBefore common, Nat.compare_eq_gt.mpr lengths]
    rfl

theorem decision_ne_equal {x y : Value} {answer : Except Mismatch Outcome}
    (decision : Decision x y answer) : answer ≠ .ok .equal := by
  cases decision with
  | apart | nan | shorter | longer => simp
  | numbers _ _ strict => rcases strict with less | greater <;> simp [*]
  | texts strict => rcases strict with less | greater <;> simp [*]

/-- The answer of the pair at the end of a path is the answer for the whole. -/
theorem order_of_leads {path : List Nat} {a b x y : Value} {answer : Except Mismatch Outcome}
    (leads : Leads path a b x y) (decision : Decision x y answer) : order a b = answer := by
  induction leads with
  | here => exact order_of_decision decision
  | into left right before _ ih =>
    have inner := ih decision
    have differ := inner ▸ decision_ne_equal decision
    rw [order_lists, orderItems_of_first left right before differ, inner]

theorem order_ne_equal_of_decidingPath {path : List Nat} {a b : Value}
    (decides : DecidingPath path a b) : order a b ≠ .ok .equal := by
  obtain ⟨x, y, answer, leads, decision⟩ := decides
  rw [order_of_leads leads decision]
  exact decision_ne_equal decision

/-! ## There is one such path -/

/-- Values that do not order equal have a deciding path. -/
theorem exists_decidingPath {a b : Value} (differ : order a b ≠ .ok .equal) :
    ∃ path, DecidingPath path a b := by
  induction a, b using meeting_induction with
  | numbers a b x y left right =>
    refine ⟨[], a, b, ?_⟩
    cases outcome : Binary64.order x y with
    | less => exact ⟨_, .here a b, .numbers left right (.inl outcome)⟩
    | greater => exact ⟨_, .here a b, .numbers left right (.inr outcome)⟩
    | unordered =>
      exact ⟨_, .here a b, .nan left right (Binary64.order_eq_unordered_iff.mp outcome)⟩
    | equal =>
      rw [order_numbers left right, outcome] at differ
      exact absurd rfl differ
  | texts s t =>
    refine ⟨[], .text s, .text t, ?_⟩
    cases outcome : Text.order s t with
    | less => exact ⟨_, .here _ _, .texts (.inl outcome)⟩
    | greater => exact ⟨_, .here _ _, .texts (.inr outcome)⟩
    | unordered => exact absurd outcome (Text.order_ne_unordered s t)
    | equal =>
      rw [order_texts, outcome] at differ
      exact absurd rfl differ
  | lists xs ys elements =>
    rcases equalBefore_or_first xs ys with common | ⟨i, x, y, left, right, before, first⟩
    · rcases Nat.lt_trichotomy xs.length ys.length with shorter | same | longer
      · rw [Nat.min_eq_left (Nat.le_of_lt shorter)] at common
        exact ⟨[], _, _, _, .here _ _, .shorter shorter common⟩
      · rw [order_lists, orderItems_of_equalBefore common, Nat.compare_eq_eq.mpr same] at differ
        exact absurd rfl differ
      · rw [Nat.min_eq_right (Nat.le_of_lt longer)] at common
        exact ⟨[], _, _, _, .here _ _, .longer longer common⟩
    · obtain ⟨path, u, v, answer, leads, decision⟩ := elements x (List.mem_of_getElem? left) y
        (List.mem_of_getElem? right) first
      exact ⟨i :: path, u, v, answer, .into left right before leads, decision⟩
  | apart a b families => exact ⟨[], a, b, _, .here a b, .apart families⟩

/-- Lists with a first pair that is not equal do not decide themselves. -/
theorem not_decision_of_first {i : Nat} {x y : Value} {xs ys : List Value}
    {answer : Except Mismatch Outcome} (left : xs[i]? = some x) (right : ys[i]? = some y)
    (differ : order x y ≠ .ok .equal) : ¬ Decision (.list xs) (.list ys) answer := by
  intro decision
  have leftInside : i < xs.length := (List.getElem?_eq_some_iff.mp left).1
  have rightInside : i < ys.length := (List.getElem?_eq_some_iff.mp right).1
  cases decision with
  | apart families => exact families rfl
  | nan number => simp [asNumber?] at number
  | numbers number => simp [asNumber?] at number
  | shorter _ common => exact differ (common i leftInside x y left right)
  | longer _ common => exact differ (common i rightInside x y left right)

theorem decidingPath_nil_iff {a b : Value} :
    DecidingPath [] a b ↔ ∃ answer, Decision a b answer := by
  constructor
  · rintro ⟨x, y, answer, leads, decision⟩
    cases leads
    exact ⟨answer, decision⟩
  · rintro ⟨answer, decision⟩
    exact ⟨a, b, answer, .here a b, decision⟩

theorem decidingPath_cons_iff {i : Nat} {path : List Nat} {a b : Value} :
    DecidingPath (i :: path) a b ↔ ∃ xs ys x y, a = .list xs ∧ b = .list ys ∧ xs[i]? = some x ∧
      ys[i]? = some y ∧ EqualBefore i xs ys ∧ DecidingPath path x y := by
  constructor
  · rintro ⟨u, v, answer, leads, decision⟩
    cases leads with
    | into left right before rest =>
      exact ⟨_, _, _, _, rfl, rfl, left, right, before, u, v, answer, rest, decision⟩
  · rintro ⟨xs, ys, x, y, rfl, rfl, left, right, before, u, v, answer, rest, decision⟩
    exact ⟨u, v, answer, .into left right before rest, decision⟩

/-- Two paths that decide the same values are one path. -/
theorem decidingPath_unique {p q : List Nat} {a b : Value} (first : DecidingPath p a b)
    (second : DecidingPath q a b) : p = q := by
  induction p generalizing q a b with
  | nil =>
    cases q with
    | nil => rfl
    | cons j q =>
      obtain ⟨xs, ys, x, y, rfl, rfl, left, right, _, rest⟩ := decidingPath_cons_iff.mp second
      obtain ⟨answer, decision⟩ := decidingPath_nil_iff.mp first
      exact absurd decision (not_decision_of_first left right (order_ne_equal_of_decidingPath rest))
  | cons i p ih =>
    obtain ⟨xs, ys, x, y, rfl, rfl, left, right, before, rest⟩ := decidingPath_cons_iff.mp first
    have differ := order_ne_equal_of_decidingPath rest
    cases q with
    | nil =>
      obtain ⟨answer, decision⟩ := decidingPath_nil_iff.mp second
      exact absurd decision (not_decision_of_first left right differ)
    | cons j q =>
      obtain ⟨_, _, u, v, same, same', left', right', before', rest'⟩ :=
        decidingPath_cons_iff.mp second
      cases same
      cases same'
      -- The pair at the lower index is equal for one path and not for the other.
      rcases Nat.lt_trichotomy i j with lower | same | higher
      · exact absurd (before' i lower x y left right) differ
      · subst same
        obtain rfl : x = u := Option.some.inj (left.symm.trans left')
        obtain rfl : y = v := Option.some.inj (right.symm.trans right')
        rw [ih rest rest']
      · exact absurd (before j higher u v left' right') (order_ne_equal_of_decidingPath rest')

/-! ## What lies behind the place -/

/-- A path leads to the same pair in values that are the same up to its end. -/
theorem leads_of_sameUpTo {path : List Nat} {a b c d x y : Value} (leads : Leads path a b x y)
    (sameLeft : SameUpTo path a c) (sameRight : SameUpTo path b d) : Leads path c d x y := by
  induction leads generalizing c d with
  | here =>
    cases sameLeft
    cases sameRight
    exact .here _ _
  | @into i path xs ys x y u v left right before rest ih =>
    obtain _ | ⟨beforeLeft, left', leftEnd, deeperLeft⟩ := sameLeft
    obtain _ | ⟨beforeRight, right', rightEnd, deeperRight⟩ := sameRight
    obtain rfl := Option.some.inj (left.symm.trans left')
    obtain rfl := Option.some.inj (right.symm.trans right')
    refine .into leftEnd rightEnd ?_ (ih deeperLeft deeperRight)
    intro k below s t leftHere rightHere
    rw [← beforeLeft k below] at leftHere
    rw [← beforeRight k below] at rightHere
    exact before k below s t leftHere rightHere

end Value

namespace Comparison
open Value (Decision Leads DecidingPath SameUpTo)

/-- Two values have at most one deciding path. They are equal if they have none, and
otherwise the pair at its end gives the answer, whatever follows that place on
either side. -/
theorem first_decision_decides (a b : Value) :
    (∀ p q, DecidingPath p a b → DecidingPath q a b → p = q) ∧
    ((order a b).result = .ok .equal ↔ ¬ ∃ path, DecidingPath path a b) ∧
    (∀ path x y answer, Leads path a b x y → Decision x y answer →
      (order a b).result = answer.mapError (.unsupported none)) ∧
    ∀ path c d, DecidingPath path a b → SameUpTo path a c → SameUpTo path b d →
      (order c d).result = (order a b).result := by
  refine ⟨fun p q => Value.decidingPath_unique, ?_, ?_, ?_⟩
  · rw [result_order_eq_ok_iff]
    constructor
    · rintro equal ⟨path, decides⟩
      exact Value.order_ne_equal_of_decidingPath decides equal
    · intro none
      by_contra differ
      exact none (Value.exists_decidingPath differ)
  · intro path x y answer leads decision
    rw [result_order, Value.order_of_leads leads decision]
  · rintro path c d ⟨x, y, answer, leads, decision⟩ sameLeft sameRight
    have moved := Value.leads_of_sameUpTo leads sameLeft sameRight
    rw [result_order, result_order, Value.order_of_leads moved decision,
      Value.order_of_leads leads decision]

/-- `[[True, nan], "a"]` and `[[1, 0], ["b"]]` are decided by the NaN at the path
`[0, 1]`. The text against the list behind it is never met. -/
theorem first_decision_before_mismatch :
    DecidingPath [0, 1] (.list [.list [.boolean true, .number .nan], .text "a"])
      (.list [.list [.number .one, .number .zero], .list [.text "b"]]) ∧
    (order (.list [.list [.boolean true, .number .nan], .text "a"])
      (.list [.list [.number .one, .number .zero], .list [.text "b"]])).result =
        .ok .unordered := by
  have nan : Decision (.number .nan) (.number .zero) (.ok .unordered) :=
    .nan rfl rfl (.inl (by decide))
  have leads : Leads [0, 1] (.list [.list [.boolean true, .number .nan], .text "a"])
      (.list [.list [.number .one, .number .zero], .list [.text "b"]]) (.number .nan)
      (.number .zero) := by
    refine .into rfl rfl (Value.equalBefore_zero _ _) (.into rfl rfl ?_ (.here _ _))
    exact Value.equalBefore_succ_cons.mpr ⟨rfl, Value.equalBefore_zero _ _⟩
  exact ⟨⟨_, _, _, leads, nan⟩, (first_decision_decides _ _).2.2.1 _ _ _ _ leads nan⟩

end Comparison

end ValueOrder
