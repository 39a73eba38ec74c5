import Flowgraph.Number.Double

/-!
# The shortest decimal that reads back

Around a double lies the interval of numbers that round to it. Its shortest decimal is the one on
the coarsest decimal grid that meets the interval, and of two such neighbours the nearer. The
search runs over at most twenty grids, from one that is surely too coarse.

## Main definitions

* `Decimal`: a natural number times a power of ten.
* `Double.shortest`: the shortest decimal of a positive finite value.
-/

namespace Flowgraph

/-- The number `digits * 10 ^ exponent`. -/
structure Decimal where
  /-- The digits, read as one number. -/
  digits : Nat
  /-- The power of ten of the last digit. -/
  exponent : Int
deriving DecidableEq, Repr

namespace Decimal

/-- The same number without trailing zeros among the first `fuel` digits from the right. -/
def trim : Nat → Decimal → Decimal
  | 0, d => d
  | fuel + 1, d =>
    if d.digits ≠ 0 ∧ d.digits % 10 = 0 then trim fuel ⟨d.digits / 10, d.exponent + 1⟩ else d

end Decimal

namespace Double

/-- A double as `significand * 2 ^ place`, with the reals that round to it: those between `low`
and `high` quarters of the last place, ends included when the significand is even. -/
structure Interval where
  /-- The significand in units of the last place. -/
  significand : Nat
  /-- The exponent of the last place. -/
  place : Int
deriving Repr

namespace Interval

/-- The lower end, in quarters of the last place. Below a power of two the doubles lie twice as
dense, so there the lower half is only a quarter. -/
def low (i : Interval) : Nat :=
  if i.significand = Nat.pow 2 52 ∧ i.place > -1074 then 4 * i.significand - 1
  else 4 * i.significand - 2

/-- The upper end, in quarters of the last place. -/
def high (i : Interval) : Nat :=
  4 * i.significand + 2

/-- Whether `num / den` quarters of the last place round to the double. -/
def contains (i : Interval) (num den : Nat) : Bool :=
  if i.significand % 2 = 0 then decide (i.low * den ≤ num ∧ num ≤ i.high * den)
  else decide (i.low * den < num ∧ num < i.high * den)

/-- The decimal on the grid of step `10 ^ grid` that rounds to the double, if there is one: the
nearer of the double's two neighbours, an exact tie going to the even one. -/
def onGrid (i : Interval) (grid : Int) : Option Decimal :=
  -- one step of the grid is `stepNum / stepDen` quarters of the last place
  let quarter := i.place - 2
  let stepNum := Nat.pow 10 grid.toNat * Nat.pow 2 (-quarter).toNat
  let stepDen := Nat.pow 10 (-grid).toNat * Nat.pow 2 quarter.toNat
  let value := 4 * i.significand * stepDen
  let below := value / stepNum
  let above := below + 1
  let lowFits := i.contains (below * stepNum) stepDen
  let highFits := i.contains (above * stepNum) stepDen
  let lowGap := value - below * stepNum
  let highGap := above * stepNum - value
  if lowFits && (!highFits || lowGap < highGap || (lowGap == highGap && below % 2 == 0)) then
    some ⟨below, grid⟩
  else if highFits then some ⟨above, grid⟩
  else none

/-- The first hit on the grids from `10 ^ grid` downwards. -/
def search (i : Interval) : Nat → Int → Decimal
  | 0, _ => ⟨i.significand, 0⟩
  | fuel + 1, grid =>
    match i.onGrid grid with
    | some d => d
    | none => search i fuel (grid - 1)

end Interval

/-- The interval of the double `num / den`. -/
def intervalOf (num den : Nat) : Interval :=
  let place := lastPlace num den
  ⟨num * Nat.pow 2 (-place).toNat / (den * Nat.pow 2 place.toNat), place⟩

/-- A power of ten above `num / den`, by at most two. -/
def decimalBound (num den : Nat) : Int :=
  Int.fdiv (floorLog2 num den * 30103) 100000 + 2

/-- The shortest decimal that reads back as the double `num / den`, and of those the nearest. -/
def shortest (num den : Nat) : Decimal :=
  ((intervalOf num den).search 22 (decimalBound num den)).trim 20

end Double
end Flowgraph
