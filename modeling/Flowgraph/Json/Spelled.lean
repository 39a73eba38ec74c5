import Flowgraph.Json.Writer
import Flowgraph.Text.Printable

/-!
# Values spelled as text

Where a configuration expects a text and finds another value, the value is spelled out: `True`,
`False` and `None` for the constants, brackets and braces for lists and objects, and texts inside
them in single quotes, or in double quotes when they hold a single one and no double one.

## Main definitions

* `Json.spell`: the text that stands for a value.
-/

namespace Flowgraph.Json

/-- The last `width` hexadecimal digits of a number. -/
def hexDigits (width n : Nat) : List Char :=
  (List.range width).map fun i => Nat.digitChar (n / Nat.pow 16 (width - 1 - i) % 16)

/-- A letter inside a text quoted by `quotation`. -/
def spellLetter (quotation : Char) (l : Text.Letter) : List Char :=
  match l with
  | .half h => Text.unitEscape h.val
  | .char c =>
    if c = quotation ∨ c = '\\' then ['\\', c]
    else if c = '\n' then ['\\', 'n']
    else if c = '\r' then ['\\', 'r']
    else if c = '\t' then ['\\', 't']
    else if Text.isPrintable c then [c]
    else if c.toNat < 0x100 then '\\' :: 'x' :: hexDigits 2 c.toNat
    else if c.toNat < 0x10000 then '\\' :: 'u' :: hexDigits 4 c.toNat
    else '\\' :: 'U' :: hexDigits 8 c.toNat

/-- A text in quotes. -/
def spellText (s : String) : List Char :=
  let cs := s.toList
  let quotation := if cs.contains '\'' && !cs.contains '"' then '"' else '\''
  quotation :: (Text.letters cs).flatMap (spellLetter quotation) ++ [quotation]

mutual

/-- The spelling of a value that stands inside another. -/
def spellPart : Json → List Char
  | null => "None".toList
  | bool b => (if b then "True" else "False").toList
  | int n => (toString n).toList
  | float x => (NumberFormat.plain.write x).toList
  | str s => spellText s
  | arr items => '[' :: (", ".toList).intercalate (spellItems items) ++ [']']
  | obj fields => '\x7b' :: (", ".toList).intercalate (spellFields fields) ++ ['\x7d']

/-- The spellings of the items of a list. -/
def spellItems : List Json → List (List Char)
  | [] => []
  | item :: items => spellPart item :: spellItems items

/-- The spellings of the fields of an object. -/
def spellFields : List (String × Json) → List (List Char)
  | [] => []
  | (name, value) :: fields =>
    (spellText name ++ ':' :: ' ' :: spellPart value) :: spellFields fields

end

/-- The spelling of a value: a text stands for itself. -/
def spell : Json → String
  | str s => s
  | v => String.ofList (spellPart v)

/-- The spelling of a value, if it does not count as false. -/
def spell? (v : Json) : Option String :=
  if v.isTruthy then some v.spell else none

/-- The name of the kind of a value. -/
def kindName : Json → String
  | null => "NoneType"
  | bool _ => "bool"
  | int _ => "int"
  | float _ => "float"
  | str _ => "str"
  | arr _ => "list"
  | obj _ => "dict"

end Flowgraph.Json
