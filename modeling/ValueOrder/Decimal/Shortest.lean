import ValueOrder.Binary64.Rounding

/-!
# The shortest decimal of a double

A finite double is written with the fewest significant digits that read back as
the same double. Among decimals of that many digits the nearest is taken, and
the caller says which of two equally near ones. The search runs over coarser and
finer decimal grids in exact arithmetic. The grid of `10 ^ -1074` holds every
finite double itself, so the search always ends with a decimal that reads back.
-/

namespace ValueOrder

/-- The number `coefficient * 10 ^ exponent`. -/
structure Decimal where
  coefficient : Nat
  exponent : Int
  deriving DecidableEq, Repr, Inhabited

/-- Which of two equally near decimals stands for a double. -/
inductive Tie where
  | up
  | even
  deriving DecidableEq, Repr

namespace Decimal

/-- The scale of the finest grid: every finite double is a whole number of
`10 ^ -1074`. -/
def finest : Nat := 1074

/-- The magnitude of a finite double counted in units of `10 ^ -1074`. -/
def places (x : Binary64) : Nat := x.units * Nat.pow 5 finest

/-- The double nearest to `n` units of `10 ^ -1074`. -/
def read (n : Nat) : Binary64 := Binary64.ofUnits n (Nat.pow 5 finest)

/-- Whether `c` steps of `10 ^ j` on the finest grid read back as a magnitude. -/
def readsBack (magnitude c j : Nat) : Bool := (read (c * Nat.pow 10 j)).magnitude = magnitude

/-- The two multiples of `step` around `n`, the nearer one first. -/
def neighbours (tie : Tie) (n step : Nat) : Nat × Nat :=
  let q := n / step
  let twice := 2 * (n % step)
  let below := twice < step || (twice = step && tie = .even && q % 2 = 0)
  if below then (q, q + 1) else (q + 1, q)

/-- The multiple of `10 ^ j` next to `n` that reads back, the nearer of two. -/
def onGrid? (tie : Tie) (magnitude n j : Nat) : Option Nat :=
  let (near, far) := neighbours tie n (Nat.pow 10 j)
  if readsBack magnitude near j then some near
  else if readsBack magnitude far j then some far
  else none

/-- The first hit on the grids `10 ^ j`, `10 ^ (j - 1)`, … down to the finest,
where the double itself lies. `hit?` looks for a number of steps on one grid, and
the answer is such a number and its `j`. -/
def search (hit? : Nat → Option Nat) (n : Nat) : Nat → Nat × Nat
  | 0 => (n, 0)
  | j + 1 =>
    -- A coarse grid has the fewer digits, so the first hit is the shortest.
    match hit? (j + 1) with
    | some c => (c, j + 1)
    | none => search hit? n j

/-- The same number with no zero at the end of its coefficient. Zero itself gets
the exponent 0. -/
def trim (c : Nat) (e : Int) : Decimal :=
  if h : c = 0 then ⟨0, 0⟩ else if c % 10 = 0 then trim (c / 10) (e + 1) else ⟨c, e⟩
termination_by c
decreasing_by exact Nat.div_lt_self (Nat.pos_of_ne_zero h) (by decide)

/-- How many decimal digits a natural number has, counted by sixty-four from the
low end while so many are left. -/
def digitCount (n : Nat) : Nat :=
  if h : n < Nat.pow 10 64 then (Nat.toDigits 10 n).length
  else 64 + digitCount (n / Nat.pow 10 64)
termination_by n
decreasing_by
  exact Nat.div_lt_self (Nat.lt_of_lt_of_le (by decide) (Nat.le_of_not_lt h)) (by decide)

/-- The decimal of so many steps of `10 ^ j` on the finest grid, given both. -/
def ofSteps (steps : Nat × Nat) : Decimal := trim steps.1 ((steps.2 : Int) - finest)

/-- The shortest decimal of a finite magnitude. The first grid holds decimals of
one digit. -/
def shortest (tie : Tie) (x : Binary64) : Decimal :=
  let n := places x
  ofSteps (search (onGrid? tie x.magnitude n) n (digitCount n - 1))

end Decimal

end ValueOrder
