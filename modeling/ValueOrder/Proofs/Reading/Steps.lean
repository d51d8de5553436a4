import Mathlib.Tactic.SplitIfs
import ValueOrder.Json.Reader

/-!
# What a reading step takes

A step is seen through what it takes and what it leaves, without the proof that its
rest is shorter. Through this view every reader is a composition of its parts, and the
loops over elements and members go from entry to entry.
-/

namespace ValueOrder

theorem toOption_eq_some_iff {ε α : Type} {result : Except ε α} {x : α} :
    result.toOption = some x ↔ result = .ok x := by
  cases result <;> simp [Except.toOption]

/-- What a step took and what it left, or nothing if it failed. -/
def taken {ε α : Type} {s : List Char} : Step ε α s → Option (α × List Char)
  | .ok r => some (r.value, r.rest)
  | .error _ => none

/-- What a reader takes off the front of a text and what it leaves. -/
def takes {ε α : Type} (reader : (s : List Char) → Step ε α s) (s : List Char) :
    Option (α × List Char) :=
  taken (reader s)

/-- An outcome, if there is one, with what is left behind it. -/
def leaving {α : Type} (outcome : Option α) (rest : List Char) : Option (α × List Char) :=
  outcome.map fun x => (x, rest)

section Views
variable {ε δ α β : Type} {s t : List Char}

@[simp] theorem taken_ok (r : Read α s) : taken (.ok r : Step ε α s) = some (r.value, r.rest) := rfl

@[simp] theorem taken_error (e : ε) : taken (.error e : Step ε α s) = none := rfl

theorem taken_eq_some_iff {step : Step ε α s} {x : α} {rest : List Char} :
    taken step = some (x, rest) ↔ ∃ r, step = .ok r ∧ r.value = x ∧ r.rest = rest := by
  cases step with
  | error e => simp
  | ok r => simp

@[simp] theorem leaving_some (x : α) (rest : List Char) : leaving (some x) rest = some (x, rest) :=
  rfl

@[simp] theorem leaving_none (rest : List Char) : leaving (none : Option α) rest = none := rfl

theorem leaving_map (outcome : Option α) (rest : List Char) (f : α → β) :
    (leaving outcome rest).map (Prod.map f id) = leaving (outcome.map f) rest := by
  cases outcome <;> rfl

theorem leaving_bind (outcome : Option α) (rest : List Char)
    (next : α × List Char → Option (β × List Char)) :
    (leaving outcome rest).bind next = outcome.bind fun x => next (x, rest) := by
  cases outcome <;> rfl

/-- A function of what was read that leaves the rest alone. -/
theorem taken_map (f : α → β) {step : Step ε α s} {g : Read α s → Read β t}
    (keeps : ∀ r, (g r).value = f r.value ∧ (g r).rest = r.rest) :
    taken (step.map g) = (taken step).map (Prod.map f id) := by
  cases step with
  | error e => rfl
  | ok r => simp [Except.map, keeps r]

/-- Seen from a longer text the same was taken. -/
theorem taken_map_from (step : Step ε α s) (h : s.length ≤ t.length) :
    taken (step.map (·.from h)) = taken step := by
  cases step <;> rfl

theorem taken_mapError (f : ε → δ) (step : Step ε α s) : taken (step.mapError f) = taken step := by
  cases step <;> rfl

/-- One step after the other. -/
theorem taken_bind {step : Step ε α s} {next : Read α s → Step ε β t}
    {onward : α × List Char → Option (β × List Char)}
    (follows : ∀ r, taken (next r) = onward (r.value, r.rest)) :
    taken (step >>= next) = (taken step).bind onward := by
  cases step with
  | error e => rfl
  | ok r => exact follows r

end Views

namespace Json

/-! ## Blanks -/

/-- Nothing but blanks. -/
def Blank (w : List Char) : Prop := ∀ c ∈ w, isBlank c

theorem blank_nil : Blank [] := nofun

theorem blank_space : Blank [' '] := by simp [Blank, isBlank]

theorem skipBlanks_append {w : List Char} (blank : Blank w) (s : List Char) :
    skipBlanks (w ++ s) = skipBlanks s := by
  induction w with
  | nil => rfl
  | cons c w ih =>
    obtain ⟨here, rest⟩ := List.forall_mem_cons.mp blank
    rw [List.cons_append, skipBlanks, List.dropWhile_cons_of_pos here]
    exact ih rest

theorem skipBlanks_blank {w : List Char} (blank : Blank w) : skipBlanks w = [] := by
  simpa [skipBlanks] using skipBlanks_append blank []

theorem skipBlanks_cons {c : Char} (visible : isBlank c = false) (s : List Char) :
    skipBlanks (c :: s) = c :: s :=
  List.dropWhile_cons_of_neg (by simp [visible])

/-- Behind the blanks stands no blank. -/
theorem skipBlanks_eq_cons {s u : List Char} {c : Char} (found : skipBlanks s = c :: u) :
    isBlank c = false := by
  have first := List.head?_dropWhile_not isBlank s
  rw [skipBlanks] at found
  simpa [found] using first

theorem skipBlanks_before {w : List Char} (blank : Blank w) {c : Char} (visible : isBlank c = false)
    (s : List Char) : skipBlanks (w ++ c :: s) = c :: s := by
  rw [skipBlanks_append blank, skipBlanks_cons visible]

/-- A text between two brackets or quotes starts with the first of them. -/
theorem skipBlanks_enclosed {c d : Char} (visible : isBlank c = false) (t rest : List Char) :
    skipBlanks (c :: (t ++ [d]) ++ rest) = c :: (t ++ d :: rest) := by
  simpa using skipBlanks_cons visible (t ++ d :: rest)

/-! ## Elements and members -/

/-- Where a sequence goes on: behind its closing bracket or at an entry. -/
inductive Onward where
  | close (rest : List Char)
  | entry (rest : List Char)
  deriving DecidableEq, Repr

/-- Where a sequence goes on, without the proof that fewer characters are left. -/
def onward {s : List Char} : Except (Fault Reason) (Next s) → Option Onward
  | .ok (.close r) => some (.close r.rest)
  | .ok (.entry r) => some (.entry r.1)
  | .error _ => none

section Sequences
variable {ε α σ : Type} {lift : Fault Reason → ε} {s u v : List Char} {c : Char}

theorem takes_takeColon (found : skipBlanks s = ':' :: u) : takes takeColon s = some ((), u) := by
  unfold takes takeColon
  split
  · simp_all
  · next c' u' found' =>
    obtain ⟨rfl, rfl⟩ := List.cons.inj (found'.symm.trans found)
    rfl

/-- Where an array goes on behind a comma. -/
def onwardElement : List Char → Option Onward
  | [] => none
  | c :: u => if c = ']' then none else some (.entry (c :: u))

/-- Where an object goes on behind a comma. -/
def onwardMember : List Char → Option Onward
  | [] => none
  | c :: u => if c = '"' then some (.entry u) else none

/-- The next visible character decides how an array goes on. -/
theorem onward_nextElement (isFirst : Bool) (found : skipBlanks s = c :: u) :
    onward (nextElement isFirst s) =
      if c = ']' then some (.close u)
      else if isFirst then some (.entry (c :: u))
      else if c = ',' then onwardElement (skipBlanks u)
      else none := by
  unfold nextElement
  split
  · simp_all
  · next c' u' found' =>
    obtain ⟨rfl, rfl⟩ := List.cons.inj (found'.symm.trans found)
    split_ifs with isClose first isComma
    · rfl
    · rfl
    · split
      · next behind => rw [behind]; rfl
      · next d v behind =>
        have entry : onwardElement (skipBlanks u') = if d = ']' then none else some (.entry (d :: v)) := by
          rw [behind, onwardElement]
        rw [entry]
        split <;> rfl
    · rfl

/-- The next visible character decides how an object goes on. -/
theorem onward_nextMember (isFirst : Bool) (found : skipBlanks s = c :: u) :
    onward (nextMember isFirst s) =
      if c = '\x7d' then some (.close u)
      else if isFirst then onwardMember (c :: u)
      else if c = ',' then onwardMember (skipBlanks u)
      else none := by
  unfold nextMember
  split
  · simp_all
  · next c' u' found' =>
    obtain ⟨rfl, rfl⟩ := List.cons.inj (found'.symm.trans found)
    split_ifs with isClose first isKey isComma
    · rfl
    · simp [onwardMember, isKey, onward]
    · simp [onwardMember, isKey, onward]
    · split
      · next behind => rw [behind]; rfl
      · next d v behind =>
        have entry : onwardMember (skipBlanks u') = if d = '"' then some (.entry v) else none := by
          rw [behind, onwardMember]
        rw [entry]
        split_ifs <;> simp_all [onward]
    · rfl

/-- Elements are taken one by one up to the closing bracket. -/
theorem takes_takeElements (item : (t : List Char) → Step ε α t) (isFirst : Bool) (s : List Char) :
    takes (takeElements lift item isFirst) s =
      (onward (nextElement isFirst s)).bind fun
        | .close rest => some ([], rest)
        | .entry entry => (takes item entry).bind fun (x, rest) =>
          (takes (takeElements lift item false) rest).map (Prod.map (x :: ·) id) := by
  unfold takes
  rw [takeElements]
  cases nextElement isFirst s with
  | error fault => rfl
  | ok next =>
    cases next with
    | close r => rfl
    | entry entry =>
      simp only [onward, Option.bind_some]
      cases item entry.1 with
      | error e => rfl
      | ok x => exact taken_map (x.value :: ·) fun _ => ⟨rfl, rfl⟩

/-- Members are taken one by one up to the closing brace. -/
theorem takes_takeMembers (member : σ → (t : List Char) → Step ε σ t) (isFirst : Bool) (state : σ)
    (s : List Char) :
    takes (takeMembers lift member isFirst state) s =
      (onward (nextMember isFirst s)).bind fun
        | .close rest => some (state, rest)
        | .entry entry => (takes (member state) entry).bind fun (state, rest) =>
          takes (takeMembers lift member false state) rest := by
  unfold takes
  rw [takeMembers]
  cases nextMember isFirst s with
  | error fault => rfl
  | ok next =>
    cases next with
    | close r => rfl
    | entry entry =>
      simp only [onward, Option.bind_some]
      cases member state entry.1 with
      | error e => rfl
      | ok x => exact taken_map_from _ _

/-! Where the entries of an array stand: at the front, behind a comma, or nowhere. -/

variable {item : (t : List Char) → Step ε α t} {member : σ → (t : List Char) → Step ε σ t}

/-- The text goes on, behind blanks, with something that may be an element. -/
def OpensElement (s : List Char) : Prop := ∃ c u, skipBlanks s = c :: u ∧ c ≠ ']'

theorem takes_takeElements_close (isFirst : Bool) (found : skipBlanks s = ']' :: u) :
    takes (takeElements lift item isFirst) s = some ([], u) := by
  rw [takes_takeElements, onward_nextElement isFirst found]
  rfl

theorem takes_takeElements_first (opens : OpensElement s) :
    takes (takeElements lift item true) s = (takes item (skipBlanks s)).bind fun (x, rest) =>
      (takes (takeElements lift item false) rest).map (Prod.map (x :: ·) id) := by
  obtain ⟨c, u, found, notClose⟩ := opens
  rw [takes_takeElements, onward_nextElement true found, if_neg notClose, found]
  rfl

/-- Behind a comma an element stands as at the front. -/
theorem takes_takeElements_comma (found : skipBlanks s = ',' :: u) (opens : OpensElement u) :
    takes (takeElements lift item false) s = takes (takeElements lift item true) u := by
  obtain ⟨c, v, behind, notClose⟩ := opens
  rw [takes_takeElements, takes_takeElements, onward_nextElement false found,
    onward_nextElement true behind, behind, onwardElement, if_neg notClose, if_neg notClose]
  rfl

theorem takes_takeMembers_close (isFirst : Bool) (state : σ) (found : skipBlanks s = '\x7d' :: u) :
    takes (takeMembers lift member isFirst state) s = some (state, u) := by
  rw [takes_takeMembers, onward_nextMember isFirst found]
  rfl

theorem takes_takeMembers_first (state : σ) (found : skipBlanks s = '"' :: u) :
    takes (takeMembers lift member true state) s = (takes (member state) u).bind fun (state, rest) =>
      takes (takeMembers lift member false state) rest := by
  rw [takes_takeMembers, onward_nextMember true found]
  rfl

/-- Behind a comma a member stands as at the front. -/
theorem takes_takeMembers_comma (state : σ) (found : skipBlanks s = ',' :: u)
    (behind : skipBlanks u = '"' :: v) :
    takes (takeMembers lift member false state) s =
      takes (takeMembers lift member true state) u := by
  rw [takes_takeMembers, takes_takeMembers, onward_nextMember false found,
    onward_nextMember true behind, behind]
  rfl

end Sequences

end Json

end ValueOrder
