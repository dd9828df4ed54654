import SensorLog.Decimal.Binary64

/-!
# The shortest decimal that reads back

A decimal reads back as a binary64 number when it lies between the midpoints to the two
neighbouring numbers; a midpoint itself counts when the significand is even. `shortest` tests the
decimal grids of 1, 2, …, 17 digits. On each grid only the two points around the value can be the
nearest one that reads back, and the first grid with a hit gives the answer. Of two hits the nearer
is taken, and a `Tie` decides between two equally near ones.
-/

namespace SensorLog.Decimal

/-- Which of two equally near results is taken. -/
inductive Tie
  /-- The larger one. -/
  | up
  /-- The one whose last digit is even. -/
  | even
deriving DecidableEq, Repr

/-- The number `digits * 10 ^ exponent`. -/
structure Scientific where
  digits : Nat
  exponent : Int
deriving DecidableEq, Repr

/-- The open or closed interval `(low, high)` around `num`, all three over the denominator `den`. -/
structure Interval where
  low : Nat
  num : Nat
  high : Nat
  den : Nat
  closed : Bool

namespace Interval

/-- The reals that read back as `m`, in quarters of the last binary place. -/
def around (m : Magnitude) : Interval :=
  let unit := 1 <<< (m.exponent - 2).toNat
  { low := (4 * m.significand - if m.isLowBoundary then 1 else 2) * unit
    num := 4 * m.significand * unit
    high := (4 * m.significand + 2) * unit
    den := 1 <<< (2 - m.exponent).toNat
    closed := m.significand % 2 == 0 }

/-- Whether the fraction `n / d` lies in the interval. -/
def contains (i : Interval) (n d : Nat) : Bool :=
  if i.closed then decide (i.low * d ≤ n * i.den) && decide (n * i.den ≤ i.high * d)
  else decide (i.low * d < n * i.den) && decide (n * i.den < i.high * d)

end Interval

/-- Number of decimal digits of `n`, at least one. -/
def digitCount (n : Nat) : Nat :=
  (Nat.toDigits 10 n).length

/-- The exponent of the leading decimal digit of `num / den`, for a positive fraction. -/
def leadingExponent (num den : Nat) : Int :=
  if den ≤ num then (digitCount (num / den) : Int) - 1
  else -(digitCount ((den + num - 1) / num - 1) : Int)

/-- The grid point `10 ^ e` as a fraction, for a grid step `e` of either sign. -/
def gridStep (e : Int) : Nat × Nat :=
  (Nat.pow 10 e.toNat, Nat.pow 10 (-e).toNat)

/-- The hit on the grid of step `10 ^ e`, if there is one. -/
def onGrid? (tie : Tie) (i : Interval) (e : Int) : Option Scientific :=
  let (stepNum, stepDen) := gridStep e
  let below := i.num * stepDen / (i.den * stepNum)
  let above := below + 1
  let belowHits := i.contains (below * stepNum) stepDen
  let aboveHits := i.contains (above * stepNum) stepDen
  if belowHits && aboveHits then
    -- twice the value against the sum of the two grid points
    let twice := 2 * i.num * stepDen
    let middle := (below + above) * stepNum * i.den
    if twice < middle then some ⟨below, e⟩
    else if middle < twice then some ⟨above, e⟩
    else match tie with
      | .up => some ⟨above, e⟩
      | .even => some ⟨if below % 2 = 0 then below else above, e⟩
  else if belowHits then some ⟨below, e⟩
  else if aboveHits then some ⟨above, e⟩
  else none

/-- The first hit on the grids of `done + 1`, …, `done + left` digits. -/
def firstHit? (tie : Tie) (i : Interval) (lead : Int) (done : Nat) : Nat → Option Scientific
  | 0 => none
  | left + 1 =>
    match onGrid? tie i (lead - done) with
    | some s => some s
    | none => firstHit? tie i lead (done + 1) left

/-- The decimal with the fewest digits that reads back as `m`. Seventeen digits always suffice, so
    the last case is never taken. -/
def shortest (tie : Tie) (m : Magnitude) : Scientific :=
  if m.significand = 0 then ⟨0, 0⟩
  else
    let i := Interval.around m
    match firstHit? tie i (leadingExponent i.num i.den) 0 17 with
    | some s => s
    | none => ⟨m.num / m.den, 0⟩

example : shortest .up ⟨1, -1074⟩ = ⟨5, -324⟩ := by decide +kernel
example : shortest .even ⟨43, -1⟩ = ⟨215, -1⟩ := by decide +kernel

end SensorLog.Decimal
