import Flowgraph.Json.Basic
import Flowgraph.Text.Integer

/-!
# Reading data values

A reader for the text form of data values. Beside the standard it takes the words `NaN`,
`Infinity` and `-Infinity`, and every `NaN` is of one origin. When a name occurs twice in an object
the last value counts, in the place of the first. An integer may have at most 4300 digits, lists
and objects may be nested at most 990 deep, and half of a pair of units may stand alone in a quoted
text.

Every function takes what is left of the text and returns what is left behind the thing it read; a
fault carries what was left where it arose, so that its position is a difference of lengths.

## Main definitions

* `Json.Problem`, `Json.ReadError`: why a text cannot be read, and where.
* `Json.read`, `Json.readChars`: the value that a text writes.
-/

namespace Flowgraph

namespace Json

/-- What is wrong with a text. -/
inductive Problem where
  /-- The text begins with a byte order mark. -/
  | byteOrderMark
  /-- No value begins here. -/
  | expectedValue
  /-- No quoted name begins here. -/
  | expectedName
  /-- The colon behind a name is missing. -/
  | expectedColon
  /-- The comma or bracket behind an item is missing. -/
  | expectedComma
  /-- A quoted text that begins here has no end. -/
  | unterminatedText
  /-- A control character inside a quoted text. -/
  | controlCharacter
  /-- A backslash before a character that needs none. -/
  | invalidEscape
  /-- A numeric escape without four hexadecimal digits. -/
  | invalidUnicodeEscape
  /-- Something follows the value. -/
  | extraData
deriving DecidableEq, Repr

/-- The wording of a problem. -/
def Problem.message : Problem → String
  | byteOrderMark => "Unexpected UTF-8 BOM (decode using utf-8-sig)"
  | expectedValue => "Expecting value"
  | expectedName => "Expecting property name enclosed in double quotes"
  | expectedColon => "Expecting ':' delimiter"
  | expectedComma => "Expecting ',' delimiter"
  | unterminatedText => "Unterminated string starting at"
  | controlCharacter => "Invalid control character at"
  | invalidEscape => "Invalid \\escape"
  | invalidUnicodeEscape => "Invalid \\uXXXX escape"
  | extraData => "Extra data"

/-- Why a text cannot be read. -/
inductive ReadError where
  /-- The text is malformed at a position, counted in letters. -/
  | malformed (problem : Problem) (position : Nat)
  /-- A fault of the data by itself. -/
  | unfit (error : DataError)
deriving DecidableEq, Repr

namespace Reader

/-- Why reading stopped. -/
inductive Fault where
  /-- A problem, and what was left of the text where it arose. -/
  | at (problem : Problem) (rest : List Char)
  /-- A fault of the data by itself. -/
  | unfit (error : DataError)

/-- The blanks of the format. -/
def isSpace (c : Char) : Bool :=
  c == ' ' || c == '\t' || c == '\n' || c == '\r'

/-- What is left behind blanks. -/
def skip (cs : List Char) : List Char :=
  cs.dropWhile isSpace

/-- The value of a hexadecimal digit. -/
def hexValue? (c : Char) : Option Nat :=
  if '0' ≤ c ∧ c ≤ '9' then some (c.toNat - 0x30)
  else if 'a' ≤ c ∧ c ≤ 'f' then some (c.toNat - 0x57)
  else if 'A' ≤ c ∧ c ≤ 'F' then some (c.toNat - 0x37)
  else none

/-- The unit that four hexadecimal digits write. -/
def unit? (a b c d : Char) : Option Nat := do
  let a ← hexValue? a
  let b ← hexValue? b
  let c ← hexValue? c
  let d ← hexValue? d
  pure (((a * 16 + b) * 16 + c) * 16 + d)

/-- The character of a one-letter escape. -/
def simpleEscape? : Char → Option Char
  | '"' => some '"'
  | '\\' => some '\\'
  | '/' => some '/'
  | 'b' => some '\x08'
  | 'f' => some '\x0c'
  | 'n' => some '\n'
  | 'r' => some '\r'
  | 't' => some '\t'
  | _ => none

/-- The letter of a pair of units, if they are one. -/
def pairLetter? (high low : Nat) : Option Text.Letter :=
  if 0xD800 ≤ high ∧ high < 0xDC00 ∧ 0xDC00 ≤ low ∧ low < 0xE000 then
    some (.ofCode (0x10000 + (high - 0xD800) * 1024 + (low - 0xDC00)))
  else none

/-- The pair that a unit and the escape behind it form. The escape takes part only if the text
goes on behind it. -/
def pair? (high : Nat) :
    List Char → Except (List Char) (Option (Text.Letter × List Char))
  | e :: 'u' :: a :: b :: c :: d :: next :: rest =>
    if e = '\\' ∧ 0xD800 ≤ high ∧ high < 0xDC00 then
      match unit? a b c d with
      | none => .error ('u' :: a :: b :: c :: d :: next :: rest)
      | some low => .ok ((pairLetter? high low).map fun l => (l, next :: rest))
    else .ok none
  | _ => .ok none

/-- Characters read, last one first, with those of one more letter. -/
def push (l : Text.Letter) (acc : List Char) : List Char :=
  l.chars.reverse ++ acc

/-- The characters of a quoted text up to its closing quote, where `opening` is what was left at
its opening quote and `acc` holds what was read, last character first. The fuel is at least the
length of the text. -/
def readText (opening : List Char) : Nat → List Char → List Char → Except Fault (String × List Char)
  | 0, _, _ => .error (.at .unterminatedText opening)
  | fuel + 1, acc, cs =>
    match cs with
    | [] => .error (.at .unterminatedText opening)
    | '"' :: rest => .ok (String.ofList acc.reverse, rest)
    | '\\' :: 'u' :: a :: b :: c :: d :: next :: rest =>
      match unit? a b c d with
      | none => .error (.at .invalidUnicodeEscape ('u' :: a :: b :: c :: d :: next :: rest))
      | some n =>
        match pair? n (next :: rest) with
        | .error left => .error (.at .invalidUnicodeEscape left)
        | .ok (some (l, left)) => readText opening fuel (push l acc) left
        | .ok none => readText opening fuel (push (.ofCode n) acc) (next :: rest)
    | '\\' :: 'u' :: rest => .error (.at .invalidUnicodeEscape ('u' :: rest))
    | '\\' :: e :: rest =>
      match simpleEscape? e with
      | some ch => readText opening fuel (ch :: acc) rest
      | none => .error (.at .invalidEscape cs)
    | ['\\'] => .error (.at .unterminatedText opening)
    | ch :: rest =>
      if ch.toNat < 0x20 then .error (.at .controlCharacter cs)
      else readText opening fuel (ch :: acc) rest

/-- Whether a character is a digit of the format. -/
def isDigit (c : Char) : Bool :=
  '0' ≤ c && c ≤ '9'

/-- The digits of an integer part: a zero, or digits that begin with another one. -/
def wholePart? : List Char → Option (List Char × List Char)
  | [] => none
  | c :: rest =>
    if c = '0' then some ([c], rest)
    else if isDigit c then some (c :: rest.takeWhile isDigit, rest.dropWhile isDigit)
    else none

/-- The digits of a fraction, if one follows. -/
def fraction? : List Char → Option (List Char × List Char)
  | '.' :: rest =>
    let digits := rest.takeWhile isDigit
    if digits.isEmpty then none else some (digits, rest.dropWhile isDigit)
  | _ => none

/-- The sign and digits of an exponent, if one follows. -/
def exponent? : List Char → Option (Int × List Char)
  | e :: rest =>
    if e = 'e' ∨ e = 'E' then
      let (negative, unsigned) := match rest with
        | '-' :: more => (true, more)
        | '+' :: more => (false, more)
        | more => (false, more)
      let digits := unsigned.takeWhile isDigit
      if digits.isEmpty then none
      else
        let magnitude : Int := Text.digitsValue digits
        some (if negative then -magnitude else magnitude, unsigned.dropWhile isDigit)
    else none
  | [] => none

/-- A number, where `start` is what was left at its sign. -/
def readNumber (start : List Char) (negative : Bool) (cs : List Char) :
    Except Fault (Json × List Char) :=
  match wholePart? cs with
  | none => .error (.at .expectedValue start)
  | some (whole, afterWhole) =>
    let fraction := fraction? afterWhole
    let (fractionDigits, afterFraction) := fraction.getD ([], afterWhole)
    let exponent := exponent? afterFraction
    let (power, rest) := exponent.getD (0, afterFraction)
    if fraction.isNone ∧ exponent.isNone then
      if whole.length > Text.maxDigits then .error (.unfit (.tooManyDigits whole.length))
      else
        let magnitude : Int := Text.digitsValue whole
        .ok (.int (if negative then -magnitude else magnitude), rest)
    else
      .ok (.float (.ofDecimal negative (Text.digitsValue (whole ++ fractionDigits))
        (power - fractionDigits.length)), rest)

/-- What is left behind a word, if the text begins with it. -/
def dropWord? (word : String) (cs : List Char) : Option (List Char) :=
  if word.toList.isPrefixOf cs then some (cs.drop word.length) else none

/-- A value that is neither a list, nor an object, nor a text. -/
def readAtom (cs : List Char) : Except Fault (Json × List Char) :=
  match dropWord? "null" cs with
  | some rest => .ok (.null, rest)
  | none =>
  match dropWord? "true" cs with
  | some rest => .ok (.bool true, rest)
  | none =>
  match dropWord? "false" cs with
  | some rest => .ok (.bool false, rest)
  | none =>
  match dropWord? "NaN" cs with
  | some rest => .ok (.float (.nan 0), rest)
  | none =>
  match dropWord? "Infinity" cs with
  | some rest => .ok (.float (.infinite false), rest)
  | none =>
  match dropWord? "-Infinity" cs with
  | some rest => .ok (.float (.infinite true), rest)
  | none =>
  match cs with
  | '-' :: rest => readNumber cs true rest
  | _ => readNumber cs false cs

/-- A quoted name with its colon, and what is left at its value. -/
def readName (fuel : Nat) (cs : List Char) : Except Fault (String × List Char) :=
  match cs with
  | '"' :: rest => do
    let (name, afterName) ← readText cs fuel [] rest
    match skip afterName with
    | ':' :: afterColon => .ok (name, skip afterColon)
    | left => .error (.at .expectedColon left)
  | _ => .error (.at .expectedName cs)

/-- Lists and objects may be nested this deep. -/
def maxDepth : Nat := 990

mutual

/-- A value inside `depth` lists and objects. The fuel is at least twice the length of the text. -/
def readValue : Nat → Nat → List Char → Except Fault (Json × List Char)
  | 0, _, cs => .error (.at .expectedValue cs)
  | fuel + 1, depth, cs =>
    match cs with
    | '"' :: rest => do
      let (text, left) ← readText cs fuel [] rest
      .ok (.str text, left)
    | '[' :: rest =>
      if depth ≥ maxDepth then .error (.unfit (.textTooDeep "array"))
      else
        match skip rest with
        | ']' :: left => .ok (.arr [], left)
        | first => do
          let (items, left) ← readItems fuel (depth + 1) first
          .ok (.arr items, left)
    | '\x7b' :: rest =>
      if depth ≥ maxDepth then .error (.unfit (.textTooDeep "object"))
      else
        match skip rest with
        | '\x7d' :: left => .ok (.obj [], left)
        | first => do
          let (fields, left) ← readFields fuel (depth + 1) [] first
          .ok (.obj fields, left)
    | _ => readAtom cs

/-- The items of a list up to its closing bracket. -/
def readItems : Nat → Nat → List Char → Except Fault (List Json × List Char)
  | 0, _, cs => .error (.at .expectedValue cs)
  | fuel + 1, depth, cs => do
    let (item, afterItem) ← readValue fuel depth cs
    match skip afterItem with
    | ']' :: left => .ok ([item], left)
    | ',' :: next => do
      let (items, left) ← readItems fuel depth (skip next)
      .ok (item :: items, left)
    | left => .error (.at .expectedComma left)

/-- The fields of an object up to its closing brace, behind those already read. -/
def readFields : Nat → Nat → Fields → List Char → Except Fault (Fields × List Char)
  | 0, _, _, cs => .error (.at .expectedName cs)
  | fuel + 1, depth, before, cs => do
    let (name, atValue) ← readName fuel cs
    let (value, afterValue) ← readValue fuel depth atValue
    let fields := Fields.set before name value
    match skip afterValue with
    | '\x7d' :: left => .ok (fields, left)
    | ',' :: next => readFields fuel depth fields (skip next)
    | left => .error (.at .expectedComma left)

end

/-- The value that a whole text writes. -/
def readAll (cs : List Char) : Except Fault Json := do
  let (value, rest) ← readValue (2 * cs.length + 2) 0 (skip cs)
  match skip rest with
  | [] => .ok value
  | left => .error (.at .extraData left)

end Reader

/-- The value that characters write. -/
def readChars (cs : List Char) : Except ReadError Json :=
  match Reader.readAll cs with
  | .ok value => .ok value
  | .error (.at problem rest) =>
    .error (.malformed problem (Text.letters (cs.take (cs.length - rest.length))).length)
  | .error (.unfit error) => .error (.unfit error)

/-- The value that a text writes, which must not begin with a byte order mark. -/
def read (text : String) : Except ReadError Json :=
  let cs := text.toList
  if cs.head? = some '\uFEFF' then .error (.malformed .byteOrderMark 0) else readChars cs

end Json
end Flowgraph
