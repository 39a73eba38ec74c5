/-!
# Lenient reading of UTF-8

Bytes are read as characters whatever they are: where the bytes so far cannot become a character,
one replacement character stands for them, and reading goes on with the byte that does not fit.

## Main definitions

* `Utf8.step`: what one more byte gives.
* `Utf8.decodeLenient`: the characters of some bytes.
-/

namespace Flowgraph.Utf8

/-- Where reading stands between two bytes. -/
inductive Stage where
  /-- Between two characters. -/
  | start
  /-- Inside a character that begins with `value`, where so many bytes are owed, the next of them
  between two bounds. -/
  | inside (value owed low high : Nat)
deriving DecidableEq, Repr

/-- The replacement character. -/
def replacement : Char := '\uFFFD'

/-- What the first byte of a character gives. -/
def first (b : Nat) : List Char × Stage :=
  if b < 0x80 then ([Char.ofNat b], .start)
  else if 0xC2 ≤ b ∧ b ≤ 0xDF then ([], .inside (b - 0xC0) 1 0x80 0xBF)
  else if b = 0xE0 then ([], .inside 0 2 0xA0 0xBF)
  else if b = 0xED then ([], .inside 0xD 2 0x80 0x9F)
  else if 0xE1 ≤ b ∧ b ≤ 0xEF then ([], .inside (b - 0xE0) 2 0x80 0xBF)
  else if b = 0xF0 then ([], .inside 0 3 0x90 0xBF)
  else if 0xF1 ≤ b ∧ b ≤ 0xF3 then ([], .inside (b - 0xF0) 3 0x80 0xBF)
  else if b = 0xF4 then ([], .inside 4 3 0x80 0x8F)
  else ([replacement], .start)

/-- What one more byte gives. -/
def step (stage : Stage) (b : Nat) : List Char × Stage :=
  match stage with
  | .start => first b
  | .inside value owed low high =>
    if low ≤ b ∧ b ≤ high then
      let value := value * 64 + (b - 0x80)
      if owed = 1 then ([Char.ofNat value], .start) else ([], .inside value (owed - 1) 0x80 0xBF)
    else
      let (chars, next) := first b
      (replacement :: chars, next)

/-- The characters of some bytes, from a stage on. -/
def decodeFrom : Stage → List UInt8 → List Char
  | .start, [] => []
  | .inside _ _ _ _, [] => [replacement]
  | stage, b :: bytes =>
    let (chars, next) := step stage b.toNat
    chars ++ decodeFrom next bytes

/-- The characters of some bytes. -/
def decodeLenient (bytes : List UInt8) : List Char :=
  decodeFrom .start bytes

end Flowgraph.Utf8
