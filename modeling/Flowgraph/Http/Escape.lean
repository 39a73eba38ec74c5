import Flowgraph.Text.Letter
import Flowgraph.Text.Utf8

/-!
# Escapes

A character that an address cannot hold stands in it as a percent sign and two hexadecimal digits
for each of its bytes.

## Main definitions

* `Escape.write`: a text in which only some characters stand for themselves.
* `Escape.read`: a text without percent signs before two hexadecimal digits.
-/

namespace Flowgraph.Escape

/-! ### Writing -/

/-- A character as its bytes, each behind a percent sign. -/
def writeChar (c : Char) : List Char :=
  (String.singleton c).toUTF8.data.toList.flatMap fun b =>
    ['%', (Nat.digitChar (b.toNat / 16)).toUpper, (Nat.digitChar (b.toNat % 16)).toUpper]

/-- A text in which only the characters of a class stand for themselves. -/
def write (isSafe : Char → Bool) (cs : List Char) : List Char :=
  cs.flatMap fun c => if isSafe c then [c] else writeChar c

/-- Whether a character is a visible ASCII character. -/
def isVisible (c : Char) : Bool :=
  decide (0x20 < c.toNat) && decide (c.toNat < 0x7F)

/-- Whether a character is a letter or digit in ASCII or one of the four signs that stand for
themselves everywhere. -/
def isUnreserved (c : Char) : Bool :=
  c.isAlphanum || ['-', '.', '_', '~'].contains c

/-! ### Reading -/

/-- The value of a hexadecimal digit, given as a byte. -/
def hexValue? (b : UInt8) : Option UInt8 :=
  if 48 ≤ b ∧ b ≤ 57 then some (b - 48)
  else if 65 ≤ b ∧ b ≤ 70 then some (b - 55)
  else if 97 ≤ b ∧ b ≤ 102 then some (b - 87)
  else none

/-- The byte that two hexadecimal digits write. -/
def byte? (high low : UInt8) : Option UInt8 := do
  let h ← hexValue? high
  let l ← hexValue? low
  pure (16 * h + l)

/-- Bytes without percent signs before two hexadecimal digits. -/
def readBytes : List UInt8 → List UInt8
  | 37 :: high :: low :: rest =>
    match byte? high low with
    | some b => b :: readBytes rest
    | none => 37 :: readBytes (high :: low :: rest)
  | b :: rest => b :: readBytes rest
  | [] => []

/-- A text without percent signs before two hexadecimal digits. -/
def read (cs : List Char) : String :=
  Text.ofCharacters (Utf8.decodeLenient (readBytes (String.ofList cs).toUTF8.data.toList))

end Flowgraph.Escape
