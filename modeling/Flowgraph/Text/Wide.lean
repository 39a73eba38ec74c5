import Flowgraph.Text.Letter

/-!
# Wide encodings

Data text may come in units of sixteen or thirty-two bits. Since it begins with two ASCII
characters, the zeros among its first bytes tell the width and the order of the bytes. Half of a
pair of units may stand alone.

## Main definitions

* `Encoding.detect`: the encoding of some bytes.
* `Encoding.decode?`: the letters of bytes in a wide encoding.
-/

namespace Flowgraph.Text

/-- How characters are given by bytes. -/
inductive Encoding where
  /-- In one to four bytes each. -/
  | utf8
  /-- In units of two bytes, the one of greater weight first or last. -/
  | utf16 (greatFirst : Bool)
  /-- In units of four bytes. -/
  | utf32 (greatFirst : Bool)
deriving DecidableEq, Repr

/-- The number that bytes write, the one of greater weight first or last. -/
def unitOf (greatFirst : Bool) (bytes : List UInt8) : Nat :=
  let ordered := if greatFirst then bytes else bytes.reverse
  ordered.foldl (fun value b => 256 * value + b.toNat) 0

/-- The units of two bytes in a row of them, which must not break off. -/
def units16? (greatFirst : Bool) : List UInt8 → Option (List Nat)
  | [] => some []
  | a :: b :: rest => (units16? greatFirst rest).map (unitOf greatFirst [a, b] :: ·)
  | [_] => none

/-- The units of four bytes in a row of them, which must not break off. -/
def units32? (greatFirst : Bool) : List UInt8 → Option (List Nat)
  | [] => some []
  | a :: b :: c :: d :: rest =>
    (units32? greatFirst rest).map (unitOf greatFirst [a, b, c, d] :: ·)
  | _ => none

/-- The letters of units of two bytes, where pairs are one letter. -/
def joinPairs : List Nat → List Letter
  | [] => []
  | [unit] => [.ofCode unit]
  | high :: low :: rest =>
    if 0xD800 ≤ high ∧ high < 0xDC00 ∧ 0xDC00 ≤ low ∧ low < 0xE000 then
      .ofCode (0x10000 + (high - 0xD800) * 1024 + (low - 0xDC00)) :: joinPairs rest
    else .ofCode high :: joinPairs (low :: rest)

namespace Encoding

/-- The encoding that the zeros among the first bytes tell. -/
def detect : List UInt8 → Encoding
  | a :: b :: c :: d :: _ =>
    if a = 0 then if b = 0 then utf32 true else utf16 true
    else if b = 0 then if c = 0 ∧ d = 0 then utf32 false else utf16 false
    else utf8
  | [a, b] => if a = 0 then utf16 true else if b = 0 then utf16 false else utf8
  | _ => utf8

/-- The letters of bytes in a wide encoding. -/
def decode? (encoding : Encoding) (bytes : List UInt8) : Option (List Letter) :=
  match encoding with
  | utf8 => none
  | utf16 greatFirst => (units16? greatFirst bytes).map joinPairs
  | utf32 greatFirst => do
    let units ← units32? greatFirst bytes
    if units.all fun unit => unit < 0x110000 then some (units.map .ofCode) else none

end Encoding
end Flowgraph.Text
