import Flowgraph.DataError
import Flowgraph.Text.Blank
import Flowgraph.Text.Digit

/-!
# Integer texts

Rows of decimal digits of any script, with or without a sign. A row of more than 4300 digits is
not read, however many of them are zeros.

## Main definitions

* `readNatural`: the number that a row of digits writes.
* `readInteger`: the number that a signed row of digits writes.
-/

namespace Flowgraph.Text

/-- An integer text may not have more digits than this. -/
def maxDigits : Nat := 4300

/-- The number that a row of digits writes. -/
def readNatural (digits : List Char) : Except DataError Nat :=
  if digits.length > maxDigits then .error (.tooManyDigits digits.length)
  else .ok (digitsValue digits)

/-- Whether a text is a row of digits and nothing else. -/
def isNatural (cs : List Char) : Bool :=
  !cs.isEmpty && cs.all isDigit

/-- A text without its sign, and whether the sign is negative. -/
def splitSign : List Char → Bool × List Char
  | '-' :: rest => (true, rest)
  | '+' :: rest => (false, rest)
  | cs => (false, cs)

/-- Whether a text is a row of digits behind an optional sign. -/
def isInteger (cs : List Char) : Bool :=
  isNatural (splitSign cs).2

/-- The number that a signed row of digits writes. -/
def readInteger (cs : List Char) : Except DataError Int := do
  let (negative, digits) := splitSign cs
  let magnitude ← readNatural digits
  pure (if negative then -(magnitude : Int) else magnitude)

end Flowgraph.Text
