import Flowgraph.Number.Extended
import Flowgraph.Number.Written

/-!
# Fifteen significant digits

A double can be written by its first fifteen significant digits. They are found with extended
precision: the value is brought between one and ten, half of the last place is added, and the
digits are taken off one by one. Zeros at the end are left out, but one digit always stands behind
the point.

## Main definitions

* `Scaled.ofExtended`: a value between one and ten and the power of ten it was divided by.
* `Double.significant`: the text of a double by its significant digits.
-/

namespace Flowgraph

/-- A value and the power of ten that it stands for. -/
structure Scaled where
  /-- The value. -/
  value : Extended
  /-- The exponent of the power of ten. -/
  exponent : Int
deriving Repr

namespace Scaled

/-- The double nearest to a decimal, with extended precision. -/
def constant (digits : Nat) (exponent : Int) : Extended :=
  .ofDouble (.ofDecimal false digits exponent)

/-- A scale multiplied by a step of some powers of ten as long as it does not exceed a value, at
most `fuel` times. -/
def raise (v : Extended) (powers : Nat) : Nat → Scaled → Scaled
  | 0, scale => scale
  | fuel + 1, scale =>
    let next := scale.value.mul (constant 1 powers)
    if next.le v then raise v powers fuel ⟨next, scale.exponent + powers⟩ else scale

/-- A value multiplied by a step of some powers of ten as long as it is below a bound, at most
`fuel` times. -/
def lift (bound : Extended) (powers : Nat) : Nat → Scaled → Scaled
  | 0, s => s
  | fuel + 1, s =>
    if bound.le s.value then s
    else lift bound powers fuel ⟨s.value.mul (constant 1 powers), s.exponent - powers⟩

/-- A positive value between one and ten, with steps of a hundred powers, ten powers and one power
down, or of eight powers and one power up. -/
def ofExtended (v : Extended) : Scaled :=
  let scale := raise v 1 10 (raise v 10 10 (raise v 100 4 ⟨.ofNat 1, 0⟩))
  lift (.ofNat 1) 1 8 (lift (constant 1 (-8)) 8 48 ⟨v.div scale.value, scale.exponent⟩)

/-- A scaled value with something added. -/
def plus (s : Scaled) (x : Extended) : Scaled :=
  let sum := s.value.add x
  if (Extended.ofNat 10).le sum then ⟨sum.mul (constant 1 (-1)), s.exponent + 1⟩
  else ⟨sum, s.exponent⟩

/-- The first digits of a value below ten. -/
def digits : Nat → Extended → List Char
  | 0, _ => []
  | count + 1, v =>
    Char.ofNat (0x30 + v.whole) :: digits count (v.fraction.mul (.ofNat 10))

end Scaled

namespace Double

/-- How many digits are written. -/
def significantDigits : Nat := 15

/-- Half of the last place that is written. -/
def halfPlace : Extended :=
  (Scaled.constant 5 (-5)).mul (Scaled.constant 1 (-10))

/-- The text of a positive scaled value: with an exponent where the first digit stands more than
four places behind the point or the point behind more than fifteen digits. -/
def writeSignificant (s : Scaled) : List Char :=
  let all := Scaled.digits significantDigits s.value
  let kept := (all.reverse.dropWhile (· == '0')).reverse
  if -5 < s.exponent ∧ s.exponent < significantDigits then
    NumberFormat.positional kept (s.exponent + 1)
  else
    NumberFormat.positional kept 1
      ++ 'e' :: (if s.exponent < 0 then '-' else '+') :: NumberFormat.padded 2 s.exponent.natAbs

/-- The text of a double by its significant digits. -/
def significant (x : Double) : String :=
  match x with
  | .nan _ => "NaN"
  | .infinite negative => if negative then "-Inf" else "Inf"
  | .negZero => "0.0"
  | .finite .zero => "0.0"
  | .finite (.ofOdd n _ _) =>
    let text := writeSignificant ((Scaled.ofExtended (.ofDouble x)).plus halfPlace)
    String.ofList (if n < 0 then '-' :: text else text)

end Double
end Flowgraph
