import Flowgraph.Number.Double

/-!
# Numbers of extended precision

An intermediate result may be kept to sixty-four significant bits where a double has fifty-three.
Only numbers that are not negative are needed, and their exponents have no bounds. As for doubles
every operation is exact arithmetic followed by one rounding.

## Main definitions

* `Extended`: the numbers themselves.
* `Extended.ofRatio`: the nearest one to a quotient, halves going to the even neighbour.
* `Extended.add`, `Extended.mul`, `Extended.div`, `Extended.fraction`: the arithmetic.
-/

namespace Flowgraph

/-- The number `significand * 2 ^ place`. -/
structure Extended where
  /-- The significant bits, read as one number. -/
  significand : Nat
  /-- The exponent of the last bit. -/
  place : Int
deriving DecidableEq, Repr, Inhabited

namespace Extended

/-- The number nearest to `num / den`. -/
def ofRatio (num den : Nat) : Extended :=
  if num = 0 then ⟨0, 0⟩
  else
    let place := Double.floorLog2 num den - 63
    ⟨Double.roundQuotient (num * Nat.pow 2 (-place).toNat) (den * Nat.pow 2 place.toNat), place⟩

/-- The numerator of a number as a quotient. -/
def num (x : Extended) : Nat :=
  x.significand * Nat.pow 2 x.place.toNat

/-- The denominator of a number as a quotient. -/
def den (x : Extended) : Nat :=
  Nat.pow 2 (-x.place).toNat

/-- A natural number. -/
def ofNat (n : Nat) : Extended :=
  ofRatio n 1

/-- The value of a double without its sign. -/
def ofDouble (x : Double) : Extended :=
  match x.value? with
  | some (.ofOdd n k _) => ofRatio (n.natAbs * Nat.pow 2 (-k).toNat) (Nat.pow 2 k.toNat)
  | _ => ⟨0, 0⟩

/-- Whether a number is not above another. -/
def le (x y : Extended) : Bool :=
  decide (x.num * y.den ≤ y.num * x.den)

/-- The rounded sum. -/
def add (x y : Extended) : Extended :=
  ofRatio (x.num * y.den + y.num * x.den) (x.den * y.den)

/-- The rounded product. -/
def mul (x y : Extended) : Extended :=
  ofRatio (x.num * y.num) (x.den * y.den)

/-- The rounded quotient. -/
def div (x y : Extended) : Extended :=
  ofRatio (x.num * y.den) (x.den * y.num)

/-- The integer part. -/
def whole (x : Extended) : Nat :=
  x.num / x.den

/-- The part behind the point. -/
def fraction (x : Extended) : Extended :=
  ofRatio (x.num % x.den) x.den

end Extended
end Flowgraph
