import TypedSql.Number.Binary64

/-!
# The fewest digits that read back

The reals nearer to a finite number than to its neighbours form an interval; its
ends belong to it when the significand is even.  `shortest` walks the decimal
grids from the coarse to the fine and takes the first one with a point in the
interval: the point next to the number, below or above, whichever is nearer.
-/

namespace TypedSql

/-- A positive decimal `digits · 10 ^ exponent`. -/
structure Decimal where
  digits : Nat
  exponent : Int
deriving DecidableEq

/-- Which of two equally near decimals is taken. -/
inductive Tie where
  | up
  | toEven
deriving DecidableEq

/-- The interval of a number in quarters of its last binary place: `low`,
`value` and `high` stand for their product with `up / down`. -/
structure Interval where
  low : Nat
  value : Nat
  high : Nat
  closed : Bool
  up : Nat
  down : Nat

/-- Below a power of two the neighbour is only half as far. -/
def Binary64.interval (x : Binary64) : Interval :=
  let m := x.significand
  let q := x.exponent - 2
  { low := 4 * m - (if m = hiddenBit ∧ 1 < x.exponentField then 1 else 2)
    value := 4 * m
    high := 4 * m + 2
    closed := m % 2 == 0
    up := 1 <<< q.toNat
    down := 1 <<< (-q).toNat }

namespace Interval

/-- The same interval with `10 ^ k` as the unit. -/
def scaled (i : Interval) (k : Int) : Interval :=
  { i with up := i.up * Nat.pow 10 (-k).toNat, down := i.down * Nat.pow 10 k.toNat }

def contains (i : Interval) (d : Nat) : Bool :=
  if i.closed then i.low * i.up ≤ d * i.down && d * i.down ≤ i.high * i.up
  else i.low * i.up < d * i.down && d * i.down < i.high * i.up

/-- The integer of the interval that is nearest to the value. -/
def nearest? (tie : Tie) (i : Interval) : Option Nat :=
  let d := i.value * i.up / i.down
  let twice := 2 * (i.value * i.up)
  let middle := (2 * d + 1) * i.down
  match i.contains d, i.contains (d + 1) with
  | false, false => none
  | true, false => some d
  | false, true => some (d + 1)
  | true, true =>
    if twice < middle then some d
    else if middle < twice then some (d + 1)
    else match tie with
      | .up => some (d + 1)
      | .toEven => some (d + d % 2)

/-- A power of ten at or above the value, and within a factor of ten of it. -/
def magnitude (i : Interval) : Int :=
  let whole := i.value * i.up / i.down
  if 0 < whole then (Nat.toDigits 10 whole).length
  else 1 - ((Nat.toDigits 10 (i.down / (i.value * i.up))).length : Int)

/-- Searches the grids `10 ^ k`, `10 ^ (k - 1)`, … for `fuel` further steps. -/
def search (tie : Tie) (i : Interval) : Nat → Int → Decimal
  | 0, k => ⟨(i.scaled k).value * (i.scaled k).up / (i.scaled k).down, k⟩
  | fuel + 1, k =>
    match (i.scaled k).nearest? tie with
    | some d => ⟨d, k⟩
    | none => search tie i fuel (k - 1)

end Interval

/-- The shortest decimal that reads back as the number, for a finite number
other than zero.  Seventeen digits always do, so the search ends on a grid with
a point in the interval. -/
def Binary64.shortest (tie : Tie) (x : Binary64) : Decimal :=
  x.interval.search tie 18 x.interval.magnitude

/-! ## Lemmas -/

theorem Interval.contains_of_nearest? {tie : Tie} {i : Interval} {d : Nat}
    (h : i.nearest? tie = some d) : i.contains d = true := by
  unfold nearest? at h
  simp only at h
  split at h
  · cases h
  · simp_all
  · simp_all
  · next h1 h2 =>
    split at h
    · simp_all
    · split at h
      · simp_all
      · cases tie with
        | up => simp_all
        | toEven =>
          rcases Nat.mod_two_eq_zero_or_one (i.value * i.up / i.down) with hp | hp <;>
            simp_all

end TypedSql
