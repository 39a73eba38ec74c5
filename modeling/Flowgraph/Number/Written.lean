import Flowgraph.Number.Shortest

/-!
# How a number is written

A double is written by its shortest decimal. The decisions of a format — from which magnitude on
an exponent is used, and the words for the values that have no digits — are fields of one record.

## Main definitions

* `NumberFormat`: the decisions.
* `NumberFormat.write`: the text of a double.
-/

namespace Flowgraph

/-- The decisions of a number format. -/
structure NumberFormat where
  /-- A number below `10 ^ leastPoint` in magnitude is written with an exponent. -/
  leastPoint : Int
  /-- A number of at least `10 ^ greatestPoint` in magnitude is written with an exponent. -/
  greatestPoint : Int
  /-- Exponents have at least this many digits. -/
  exponentWidth : Nat
  /-- The word for the positive infinity. -/
  infinity : String
  /-- The word for the number that is none. -/
  notANumber : String

namespace NumberFormat

/-- The digits of `n`, filled up with zeros on the left to `width`. -/
def padded (width n : Nat) : List Char :=
  let digits := Nat.toDigits 10 n
  List.replicate (width - digits.length) '0' ++ digits

/-- A decimal with a point: at least one digit stands on either side of it. -/
def positional (digits : List Char) (point : Int) : List Char :=
  if point ≤ 0 then
    '0' :: '.' :: List.replicate (-point).toNat '0' ++ digits
  else
    let whole := digits.take point.toNat
    let zeros := List.replicate (point.toNat - whole.length) '0'
    let fraction := digits.drop point.toNat
    whole ++ zeros ++ '.' :: (if fraction.isEmpty then ['0'] else fraction)

/-- A decimal with an exponent: one digit stands before the point, and the point is left out when
no digit follows it. -/
def scientific (format : NumberFormat) (digits : List Char) (point : Int) : List Char :=
  let exponent := point - 1
  let lead := match digits with
    | [] => ['0']
    | [d] => [d]
    | d :: rest => d :: '.' :: rest
  lead ++ 'e' :: (if exponent < 0 then '-' else '+') :: padded format.exponentWidth exponent.natAbs

/-- The text of a positive decimal. -/
def writeDecimal (format : NumberFormat) (d : Decimal) : List Char :=
  let digits := Nat.toDigits 10 d.digits
  let point := digits.length + d.exponent
  if format.leastPoint < point ∧ point ≤ format.greatestPoint then positional digits point
  else scientific format digits point

/-- The text of a double. -/
def write (format : NumberFormat) : Double → String
  | .nan _ => format.notANumber
  | .infinite negative => if negative then "-" ++ format.infinity else format.infinity
  | .negZero => "-0.0"
  | .finite .zero => "0.0"
  | .finite (.ofOdd n k _) =>
    let text := format.writeDecimal
      (Double.shortest (n.natAbs * Nat.pow 2 (-k).toNat) (Nat.pow 2 k.toNat))
    String.ofList (if n < 0 then '-' :: text else text)

/-- Plain numbers: positional from a ten-thousandth up to below `10 ^ 16`, else an exponent of two
digits or more; the words of the values without digits are in lower case. -/
def plain : NumberFormat where
  leastPoint := -4
  greatestPoint := 16
  exponentWidth := 2
  infinity := "inf"
  notANumber := "nan"

/-- Numbers in data text: as `plain`, with the words `Infinity` and `NaN`. -/
def data : NumberFormat :=
  { plain with infinity := "Infinity", notANumber := "NaN" }

end NumberFormat
end Flowgraph
