/-!
# Numbers of double precision

A `Double` is held by its exact value: a finite number is a dyadic rational, beside it stand the
negative zero, the two infinities and the result that is not a number. Every operation is exact
arithmetic followed by one rounding, so that nothing here depends on the processor and all of it
can be computed in a proof.

## Main definitions

* `Double`: the numbers themselves.
* `Double.ofRatio`: the nearest double to a quotient, halves going to the even neighbour.
* `Double.ofDecimal`, `Double.ofInt?`: the nearest double to a decimal and to an integer.
* `Double.lt`, `Double.eq`: the comparisons of the arithmetic, where `nan` compares false.
-/

namespace Flowgraph

/-- A number of double precision. -/
inductive Double where
  /-- A finite number other than the negative zero, by its exact value. -/
  | finite (value : Dyadic)
  /-- The zero with a negative sign. -/
  | negZero
  /-- An infinity and whether it is the negative one. -/
  | infinite (negative : Bool)
  /-- The result that is not a number, with a number that tells where it comes from. -/
  | nan (origin : Nat)
deriving DecidableEq

namespace Double

instance : Inhabited Double := ⟨finite 0⟩

/-- The origin of a `nan` that is not read from data. -/
def computed : Nat := 1

/-! ### Rounding -/

/-- `num / den` rounded to the nearest integer, a half going to the even neighbour. -/
def roundQuotient (num den : Nat) : Nat :=
  let quotient := num / den
  let rest := num % den
  if 2 * rest < den then quotient
  else if den < 2 * rest then quotient + 1
  else quotient + quotient % 2

/-- The exponent `g` with `2 ^ g ≤ num / den < 2 ^ (g + 1)`, for positive `num` and `den`. -/
def floorLog2 (num den : Nat) : Int :=
  let guess : Int := (num.log2 : Int) - (den.log2 : Int)
  if den * Nat.pow 2 guess.toNat ≤ num * Nat.pow 2 (-guess).toNat then guess else guess - 1

/-- The exponent of the last place of the doubles around `num / den`. -/
def lastPlace (num den : Nat) : Int :=
  max (floorLog2 num den - 52) (-1074)

/-- The zero of a sign. -/
def zero (negative : Bool) : Double :=
  if negative then negZero else finite 0

/-- The double nearest to `± num / den`; beyond the largest finite one it is an infinity. -/
def ofRatio (negative : Bool) (num den : Nat) : Double :=
  if num = 0 then zero negative
  else
    let place := lastPlace num den
    let significand :=
      roundQuotient (num * Nat.pow 2 (-place).toNat) (den * Nat.pow 2 place.toNat)
    if significand = 0 then zero negative
    else if place > 971 ∨ (place = 971 ∧ significand = Nat.pow 2 53) then infinite negative
    else
      let signed : Int := if negative then -significand else significand
      finite (Dyadic.ofIntWithPrec signed (-place))

/-- The number of decimal digits of `n`, where zero has one. -/
def decimalWidth (n : Nat) : Nat :=
  (Nat.toDigits 10 n).length

/-- The double nearest to `± digits * 10 ^ exponent`. Exponents so large or small that the result
is an infinity or a zero are settled before any power is formed. -/
def ofDecimal (negative : Bool) (digits : Nat) (exponent : Int) : Double :=
  let magnitude := exponent + decimalWidth digits
  if digits = 0 ∨ magnitude < -330 then zero negative
  else if magnitude > 330 then infinite negative
  else ofRatio negative (digits * Nat.pow 10 exponent.toNat) (Nat.pow 10 (-exponent).toNat)

/-- The double nearest to a dyadic value. -/
def ofDyadic : Dyadic → Double
  | .zero => finite 0
  | .ofOdd n k _ => ofRatio (n < 0) (n.natAbs * Nat.pow 2 (-k).toNat) (Nat.pow 2 k.toNat)

/-- The double nearest to an integer, if it is not beyond the largest finite one. -/
def ofInt? (n : Int) : Option Double :=
  match ofRatio (n < 0) n.natAbs 1 with
  | infinite _ => none
  | x => some x

/-! ### Value and order -/

/-- The exact value of a finite number. -/
def value? : Double → Option Dyadic
  | finite v => some v
  | negZero => some 0
  | _ => none

/-- Whether a number is neither an infinity nor `nan`. -/
def isFinite (x : Double) : Bool :=
  x.value?.isSome

/-- Whether the number is `nan`. -/
def isNaN : Double → Bool
  | nan _ => true
  | _ => false

/-- Strictly below in the arithmetic; `nan` is below nothing and above nothing. -/
def lt : Double → Double → Bool
  | nan _, _ => false
  | _, nan _ => false
  | infinite s, infinite t => s && !t
  | infinite s, _ => s
  | _, infinite t => !t
  | x, y => decide (x.value?.getD 0 < y.value?.getD 0)

/-- Equal in the arithmetic: the two zeros are equal, `nan` equals nothing. -/
def eq : Double → Double → Bool
  | nan _, _ => false
  | _, nan _ => false
  | infinite s, infinite t => s == t
  | infinite _, _ => false
  | _, infinite _ => false
  | x, y => decide (x.value?.getD 0 = y.value?.getD 0)

/-- Below or equal in the arithmetic. -/
def le (x y : Double) : Bool :=
  lt x y || eq x y

/-- The finite value nearest to `x` in the interval from `low` to `high`, where `low` wins over
anything not above it. -/
def clamp (x low high : Double) : Double :=
  let capped := if lt x high then x else high
  if lt low capped then capped else low

/-! ### Integers -/

/-- The integer part of a dyadic value, cut off towards zero. -/
def truncateDyadic : Dyadic → Int
  | .zero => 0
  | .ofOdd n k _ => Int.tdiv (n * Int.pow 2 (-k).toNat) (Int.pow 2 k.toNat)

/-- The integer part of a finite number, cut off towards zero. -/
def truncate? (x : Double) : Option Int :=
  x.value?.map truncateDyadic

/-- Whether a dyadic value is an integer. -/
def isIntegralDyadic : Dyadic → Bool
  | .zero => true
  | .ofOdd _ k _ => k ≤ 0

/-- The integer that a number is, if it is one. -/
def toInt? (x : Double) : Option Int :=
  match x.value? with
  | some v => if isIntegralDyadic v then some (truncateDyadic v) else none
  | none => none

/-- Whether the number equals the integer exactly. -/
def eqInt (x : Double) (n : Int) : Bool :=
  match x.value? with
  | some v => decide (v = Dyadic.ofInt n)
  | none => false

/-! ### Sum -/

/-- The rounded sum. -/
def add : Double → Double → Double
  | nan origin, _ => nan origin
  | _, nan origin => nan origin
  | infinite s, infinite t => if s == t then infinite s else nan computed
  | infinite s, _ => infinite s
  | _, infinite t => infinite t
  | negZero, negZero => negZero
  | x, y => ofDyadic (x.value?.getD 0 + y.value?.getD 0)

end Double
end Flowgraph
