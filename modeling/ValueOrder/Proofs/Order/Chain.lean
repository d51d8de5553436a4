import ValueOrder.Comparison
import ValueOrder.Proofs.Order.Meeting
import ValueOrder.Proofs.Order.Scalars

/-!
# Chains of values that rise

Where each value of a sequence is less than or equal to the next, every value has
an order to every later one. Pairs that an earlier difference hid from the
neighbours, such as a NaN or two kinds without an order, stay hidden.
-/

namespace ValueOrder

namespace Value

/-- The left value is less than or equal to the right one, with the outcome told. -/
def Rises (a b : Value) (o : Outcome) : Prop := order a b = .ok o ∧ o.Rising

/-- How a list rises to another: it ends first, or its first element that is not
equal is less, or both are equal throughout. -/
inductive ItemsRise : List Value → List Value → Outcome → Prop where
  | level : ItemsRise [] [] .equal
  | ends (y : Value) (ys : List Value) : ItemsRise [] (y :: ys) .less
  | less {x y : Value} (step : Rises x y .less) (xs ys : List Value) :
      ItemsRise (x :: xs) (y :: ys) .less
  | onward {x y : Value} {xs ys : List Value} {o : Outcome} (step : Rises x y .equal)
      (rest : ItemsRise xs ys o) : ItemsRise (x :: xs) (y :: ys) o

theorem itemsRise_rising {xs ys : List Value} {o : Outcome} (rise : ItemsRise xs ys o) : o.Rising := by
  induction rise with
  | level => exact .inr rfl
  | ends | less => exact .inl rfl
  | onward _ _ ih => exact ih

/-- The walk along two lists rises exactly in the ways of `ItemsRise`. -/
theorem itemsRise_iff {xs ys : List Value} {o : Outcome} :
    ItemsRise xs ys o ↔ orderItems xs ys = .ok o ∧ o.Rising := by
  constructor
  · intro rise
    refine ⟨?_, itemsRise_rising rise⟩
    induction rise with
    | level | ends => rfl
    | less step => rw [orderItems_cons_of_ne (by simp [step.1]), step.1]
    | onward step _ ih => rw [orderItems_cons_of_equal step.1, ih]
  · rintro ⟨walk, rising⟩
    induction xs generalizing ys with
    | nil =>
      cases ys with
      | nil => cases walk; exact .level
      | cons y ys => cases walk; exact .ends y ys
    | cons x xs ih =>
      cases ys with
      | nil =>
        cases walk
        simp [Outcome.Rising] at rising
      | cons y ys =>
        by_cases equal : order x y = .ok .equal
        · rw [orderItems_cons_of_equal equal] at walk
          exact .onward ⟨equal, .inr rfl⟩ (ih walk)
        · rw [orderItems_cons_of_ne equal] at walk
          rcases rising with rfl | rfl
          · exact .less ⟨walk, .inl rfl⟩ xs ys
          · exact absurd walk equal

/-- Two rises of lists make one, if those of their elements do. -/
theorem itemsRise_succession {xs ys zs : List Value} {o p : Outcome}
    (elements : ∀ x ∈ xs, ∀ y ∈ ys, ∀ z q r, Rises x y q → Rises y z r → Rises x z (q.followedBy r))
    (first : ItemsRise xs ys o) (second : ItemsRise ys zs p) :
    ItemsRise xs zs (o.followedBy p) := by
  induction first generalizing zs p with
  | level => exact second
  | ends y ys =>
    cases second with
    | less _ _ zs => exact .ends _ zs
    | onward => exact .ends _ _
  | @less x y step xs ys =>
    obtain ⟨heads, _⟩ := elements_cons elements
    cases second with
    | less next _ zs => exact .less (heads _ _ _ step next) xs zs
    | onward next => exact .less (heads _ _ _ step next) xs _
  | @onward x y xs ys o step rest ih =>
    obtain ⟨heads, tails⟩ := elements_cons elements
    cases second with
    | less next _ zs =>
      -- The second rise ends here, so what the first one found later no longer counts.
      rw [Outcome.followedBy_less (itemsRise_rising rest)]
      exact .less (heads _ _ _ step next) xs zs
    | onward next later => exact .onward (heads _ _ _ step next) (ih tails later)

/-- Two rising steps make one, which is less if one of them is. -/
theorem rises_succession {a b c : Value} {o p : Outcome} (first : Rises a b o)
    (second : Rises b c p) : Rises a c (o.followedBy p) := by
  have family : b.family = c.family := family_eq_of_order_eq_ok second.1
  refine ⟨?_, Outcome.rising_followedBy first.2 second.2⟩
  obtain ⟨step, up⟩ := first
  obtain ⟨next, upAgain⟩ := second
  induction a, b using meeting_induction generalizing c o p with
  | numbers a b x y left middle =>
    obtain ⟨z, right⟩ := exists_number_of_family_eq family middle
    rw [order_numbers left middle] at step
    rw [order_numbers middle right] at next
    cases step
    cases next
    rw [order_numbers left right, Binary64.order_succession up upAgain]
  | texts s t =>
    obtain ⟨u, rfl⟩ := family_eq_text_iff.mp family.symm
    rw [order_texts] at step next
    cases step
    cases next
    rw [order_texts, Text.order_succession up upAgain]
  | lists xs ys elements =>
    obtain ⟨zs, rfl⟩ := family_eq_list_iff.mp family.symm
    rw [order_lists] at step next ⊢
    refine (itemsRise_iff.mp (itemsRise_succession ?_ (itemsRise_iff.mpr ⟨step, up⟩)
      (itemsRise_iff.mpr ⟨next, upAgain⟩))).1
    intro x left y middle z q r one other
    refine ⟨?_, Outcome.rising_followedBy one.2 other.2⟩
    exact elements x left y middle (family_eq_of_order_eq_ok other.1) one.1 one.2 other.1 other.2
  | apart a b differ =>
    rw [order_apart differ] at step
    cases step

/-- Over any number of rising steps there is one rise, which is less exactly if one
of the steps is. -/
theorem rises_along {vs : List Value}
    (steps : ∀ k (_ : k + 1 < vs.length), ∃ o, Rises vs[k] vs[k + 1] o) {i j : Nat} (before : i < j)
    (inside : j < vs.length) :
    ∃ o, Rises vs[i] vs[j] o ∧
      (o = .less ↔ ∃ k, ∃ (_ : i ≤ k) (_ : k < j), order vs[k] vs[k + 1] = .ok .less) := by
  induction before with
  | refl =>
    obtain ⟨o, step⟩ := steps i inside
    refine ⟨o, step, ?_⟩
    constructor
    · rintro rfl
      exact ⟨i, Nat.le_refl i, Nat.lt_succ_self i, step.1⟩
    · rintro ⟨k, low, high, less⟩
      obtain rfl : k = i := by omega
      simpa [step.1] using less
  | @step j before ih =>
    obtain ⟨o, soFar, lessSoFar⟩ := ih (by omega)
    obtain ⟨p, step⟩ := steps j inside
    refine ⟨o.followedBy p, rises_succession soFar step, ?_⟩
    rw [Outcome.followedBy_eq_less_iff soFar.2, lessSoFar]
    constructor
    · rintro (⟨k, low, high, less⟩ | rfl)
      · exact ⟨k, low, by omega, less⟩
      · exact ⟨j, Nat.le_of_succ_le before, Nat.lt_succ_self j, step.1⟩
    · rintro ⟨k, low, high, less⟩
      by_cases last : k = j
      · subst last
        right
        simpa [step.1] using less
      · exact .inl ⟨k, low, by omega, less⟩

end Value

namespace Comparison

/-- In a sequence of values of which each is less than or equal to the next, any
value is less than a later one if some step between them is less, and equal to it
otherwise. -/
theorem order_along_rising_chain (vs : List Value)
    (rising : ∀ k (_ : k + 1 < vs.length), (order vs[k] vs[k + 1]).result = .ok .less ∨
      (order vs[k] vs[k + 1]).result = .ok .equal)
    (i j : Nat) (before : i < j) (inside : j < vs.length) :
    ((∃ k, ∃ (_ : i ≤ k) (_ : k < j), (order vs[k] vs[k + 1]).result = .ok .less) →
      (order vs[i] vs[j]).result = .ok .less) ∧
    ((¬ ∃ k, ∃ (_ : i ≤ k) (_ : k < j), (order vs[k] vs[k + 1]).result = .ok .less) →
      (order vs[i] vs[j]).result = .ok .equal) := by
  simp only [result_order_eq_ok_iff] at rising ⊢
  have steps : ∀ k (_ : k + 1 < vs.length), ∃ o, Value.Rises vs[k] vs[k + 1] o := by
    intro k next
    rcases rising k next with less | equal
    · exact ⟨.less, less, .inl rfl⟩
    · exact ⟨.equal, equal, .inr rfl⟩
  obtain ⟨o, ⟨ordered, up⟩, less⟩ := Value.rises_along steps before inside
  constructor
  · intro some
    rw [ordered, less.mpr some]
  · intro none
    rcases up with rfl | rfl
    · exact absurd (less.mp rfl) none
    · exact ordered

/-- Along `[0], [False], [True, nan], [inf, "a"]` one step is equal and two are
less. The NaN and the text stand behind a difference in every pair. -/
theorem order_past_hidden_nan :
    (order (.list [.number .zero]) (.list [.boolean false])).result = .ok .equal ∧
    (order (.list [.boolean false]) (.list [.boolean true, .number .nan])).result = .ok .less ∧
    (order (.list [.boolean true, .number .nan]) (.list [.number .infinity, .text "a"])).result =
      .ok .less ∧
    (order (.list [.number .zero]) (.list [.number .infinity, .text "a"])).result = .ok .less := by
  refine ⟨rfl, rfl, rfl, ?_⟩
  have chain := order_along_rising_chain [.list [.number .zero], .list [.boolean false],
    .list [.boolean true, .number .nan], .list [.number .infinity, .text "a"]] ?_ 0 3 (by decide)
    (by decide)
  · exact chain.1 ⟨1, by decide, by decide, rfl⟩
  · intro k next
    match k, next with
    | 0, _ => exact .inr rfl
    | 1, _ => exact .inl rfl
    | 2, _ => exact .inl rfl

end Comparison

end ValueOrder
