import Flowgraph.Number.Double
import Flowgraph.Text.Integer

/-!
# Numerals

The texts that count as numbers: nothing at all is zero; then come decimals with or without a
point and an exponent, whole numbers in base sixteen, eight and two behind `0x`, `0o` and `0b`,
and the word `Infinity`. Blanks around a numeral do not matter, digits may be of any script.

## Main definitions

* `numeral?`: the number that a text writes, `none` if it writes none.
-/

namespace Flowgraph.Text

/-- The value of a digit in one of the bases up to sixteen, in ASCII only. -/
def baseDigit? (base : Nat) (c : Char) : Option Nat :=
  let value? : Option Nat :=
    if '0' ≤ c ∧ c ≤ '9' then some (c.toNat - 0x30)
    else if 'a' ≤ c ∧ c ≤ 'f' then some (c.toNat - 0x57)
    else if 'A' ≤ c ∧ c ≤ 'F' then some (c.toNat - 0x37)
    else none
  value?.filter (· < base)

/-- The number that digits of a base write, behind a number already read. -/
def baseValue? (base : Nat) : Nat → List Char → Option Nat
  | value, [] => some value
  | value, c :: cs => do
    let digit ← baseDigit? base c
    baseValue? base (base * value + digit) cs

/-- The base that a letter behind a zero announces. -/
def baseOf? : Char → Option Nat
  | 'x' => some 16
  | 'X' => some 16
  | 'o' => some 8
  | 'O' => some 8
  | 'b' => some 2
  | 'B' => some 2
  | _ => none

/-- The number that a text like `0x1f` writes. -/
def basedNatural? : List Char → Option Nat
  | '0' :: letter :: digit :: digits => do
    let base ← baseOf? letter
    baseValue? base 0 (digit :: digits)
  | _ => none

/-- The power of ten of an exponent, with nothing behind it; no exponent counts as zero. -/
def exponentOf? : List Char → Option Int
  | [] => some 0
  | e :: rest =>
    let (negative, digits) := splitSign rest
    if (e = 'e' ∨ e = 'E') ∧ isNatural digits = true then
      let magnitude : Int := digitsValue digits
      some (if negative then -magnitude else magnitude)
    else none

/-- The number that a decimal writes, with nothing around it. -/
def decimal? (cs : List Char) : Option Double :=
  let (negative, unsigned) := splitSign cs
  let whole := unsigned.takeWhile isDigit
  let afterWhole := unsigned.dropWhile isDigit
  let (fraction, afterFraction) := match afterWhole with
    | '.' :: rest => (rest.takeWhile isDigit, rest.dropWhile isDigit)
    | rest => ([], rest)
  if whole.isEmpty ∧ fraction.isEmpty then none
  else
    (exponentOf? afterFraction).map fun power =>
      Double.ofDecimal negative (digitsValue (whole ++ fraction)) (power - fraction.length)

/-- The number that a text writes; `none` if it is no numeral. -/
def numeral? (cs : List Char) : Except DataError (Option Double) :=
  let text := strip cs
  if text.isEmpty then .ok (some (.finite 0))
  else if text = "Infinity".toList ∨ text = "+Infinity".toList then .ok (some (.infinite false))
  else if text = "-Infinity".toList then .ok (some (.infinite true))
  else
    match basedNatural? text with
    | some n =>
      match Double.ofInt? n with
      | some x => .ok (some x)
      | none => .error .tooLarge
    | none => .ok (decimal? text)

end Flowgraph.Text
