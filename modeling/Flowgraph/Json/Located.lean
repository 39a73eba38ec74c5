import Flowgraph.Json.Reader

/-!
# Reading a document text

A whole document handed over as one text is read by this reader, which tells the line and column
of a fault. Columns count bytes of UTF-8. Lists and objects may be nested two hundred deep around
a further one that is not empty. Every `NaN` has an origin of its own.

As in the plain reader every function takes and returns what is left of the text, and a fault
carries what was left where it arose.

## Main definitions

* `Located.Problem`, `Located.Fault`: why a text cannot be read, and where.
* `Json.readLocated`: the value that a text writes, or the wording of its fault.
-/

namespace Flowgraph.Json

namespace Located

/-- What is wrong with a text. -/
inductive Problem where
  /-- The text ends inside a list. -/
  | endInList
  /-- The text ends inside an object. -/
  | endInObject
  /-- The text ends inside a quoted text. -/
  | endInText
  /-- The text ends where a value is due. -/
  | endInValue
  /-- The colon behind a name is missing. -/
  | expectedColon
  /-- The comma or bracket behind an item is missing. -/
  | expectedListComma
  /-- The comma or brace behind a field is missing. -/
  | expectedObjectComma
  /-- A word begins like a constant and goes on differently. -/
  | expectedWord
  /-- No value begins here. -/
  | expectedValue
  /-- A backslash before a character that needs none, or an escape without hexadecimal digits. -/
  | invalidEscape
  /-- The digits of a number are malformed. -/
  | invalidNumber
  /-- An integer has too many digits. -/
  | numberOutOfRange
  /-- A control character inside a quoted text. -/
  | controlCharacter
  /-- A name without quotes. -/
  | nameNotText
  /-- Half of a pair of units stands alone. -/
  | loneSurrogate
  /-- The escape of a second unit breaks off. -/
  | brokenPair
  /-- A comma before a closing bracket or brace. -/
  | trailingComma
  /-- Something follows the value. -/
  | trailingCharacters
  /-- Lists and objects are nested too deep. -/
  | tooDeep
deriving DecidableEq, Repr

/-- The wording of a problem. -/
def Problem.message : Problem → String
  | endInList => "EOF while parsing a list"
  | endInObject => "EOF while parsing an object"
  | endInText => "EOF while parsing a string"
  | endInValue => "EOF while parsing a value"
  | expectedColon => "expected `:`"
  | expectedListComma => "expected `,` or `]`"
  | expectedObjectComma => "expected `,` or `\x7d`"
  | expectedWord => "expected ident"
  | expectedValue => "expected value"
  | invalidEscape => "invalid escape"
  | invalidNumber => "invalid number"
  | numberOutOfRange => "number out of range"
  | controlCharacter => "control character (\\u0000-\\u001F) found while parsing a string"
  | nameNotText => "key must be a string"
  | loneSurrogate => "lone leading surrogate in hex escape"
  | brokenPair => "unexpected end of hex escape"
  | trailingComma => "trailing comma"
  | trailingCharacters => "trailing characters"
  | tooDeep => "recursion limit exceeded"

/-- A problem, and what was left of the text where it arose. -/
structure Fault where
  /-- What is wrong. -/
  problem : Problem
  /-- What was left of the text. -/
  rest : List Char

/-- Lists and objects may be nested this deep around a further one that is not empty. -/
def maxDepth : Nat := 200

open Reader (isSpace skip isDigit hexValue? simpleEscape?)

/-! ### Words -/

/-- What is left behind the rest of a word whose first character was taken. -/
def finishWord : List Char → List Char → Except Fault (List Char)
  | [], cs => .ok cs
  | _ :: _, [] => .error ⟨.endInValue, []⟩
  | w :: word, c :: cs =>
    if w = c then finishWord word cs else .error ⟨.expectedWord, c :: cs⟩

/-- A constant, whose word's first character is the first of what is left. -/
def readWord (word : String) (value : Json) (cs : List Char) : Except Fault (Json × List Char) := do
  let rest ← finishWord (word.toList.drop 1) (cs.drop 1)
  .ok (value, rest)

/-! ### Quoted texts -/

/-- The number of bytes of a text in UTF-8, counted no further than needed to tell four. -/
def hasFourBytes (cs : List Char) : Bool :=
  decide (4 ≤ (cs.take 4).foldl (fun count c => count + c.utf8Size) 0)

/-- The value of up to `count` hexadecimal digits, continuing from `value`. -/
def readHex : Nat → Nat → List Char → Except Fault (Nat × List Char)
  | 0, value, cs => .ok (value, cs)
  | _ + 1, _, [] => .error ⟨.endInText, []⟩
  | count + 1, value, c :: cs =>
    match hexValue? c with
    | some digit => readHex count (16 * value + digit) cs
    | none => .error ⟨.invalidEscape, c :: cs⟩

/-- The unit written by four hexadecimal digits. -/
def readUnit (cs : List Char) : Except Fault (Nat × List Char) :=
  if hasFourBytes cs then readHex 4 0 cs else .error ⟨.endInText, []⟩

/-- The letter of a numeric escape, where `lastDigit` is what is left at the last digit. -/
def readEscapedUnit (cs : List Char) : Except Fault (Text.Letter × List Char) := do
  let (high, rest) ← readUnit cs
  let lastDigit := cs.drop 3
  if 0xDC00 ≤ high ∧ high < 0xE000 then .error ⟨.loneSurrogate, lastDigit⟩
  else if 0xD800 ≤ high ∧ high < 0xDC00 then
    match rest with
    | '\\' :: 'u' :: digits =>
      let (low, left) ← readUnit digits
      match Reader.pairLetter? high low with
      | some l => .ok (l, left)
      | none => .error ⟨.loneSurrogate, digits.drop 3⟩
    | '\\' :: other :: more => .error ⟨.brokenPair, other :: more⟩
    | ['\\'] => .error ⟨.endInText, []⟩
    | [] => .error ⟨.endInText, []⟩
    | other => .error ⟨.brokenPair, other⟩
  else .ok (.ofCode high, rest)

/-- The characters of a quoted text up to its closing quote, behind those in `acc`, last character
first. The fuel is at least the length of the text. -/
def readText : Nat → List Char → List Char → Except Fault (String × List Char)
  | 0, _, cs => .error ⟨.endInText, cs⟩
  | fuel + 1, acc, cs =>
    match cs with
    | [] => .error ⟨.endInText, []⟩
    | '"' :: rest => .ok (String.ofList acc.reverse, rest)
    | '\\' :: 'u' :: digits => do
      let (l, rest) ← readEscapedUnit digits
      readText fuel (Reader.push l acc) rest
    | '\\' :: e :: rest =>
      match simpleEscape? e with
      | some c => readText fuel (c :: acc) rest
      | none => .error ⟨.invalidEscape, e :: rest⟩
    | ['\\'] => .error ⟨.endInText, []⟩
    | c :: rest =>
      if c.toNat < 0x20 then .error ⟨.controlCharacter, cs⟩ else readText fuel (c :: acc) rest

/-! ### Numbers -/

/-- The digits that must stand at the head of a text, with what is left behind them. -/
def readDigits (cs : List Char) : Except Fault (List Char × List Char) :=
  match cs with
  | [] => .error ⟨.endInValue, []⟩
  | c :: _ =>
    if isDigit c then .ok (cs.takeWhile isDigit, cs.dropWhile isDigit)
    else .error ⟨.invalidNumber, cs⟩

/-- The power of ten of an exponent, behind its letter. -/
def readExponent (cs : List Char) : Except Fault (Int × List Char) := do
  let (negative, unsigned) := match cs with
    | '-' :: more => (true, more)
    | '+' :: more => (false, more)
    | more => (false, more)
  let (digits, rest) ← readDigits unsigned
  let magnitude : Int := Text.digitsValue digits
  .ok (if negative then -magnitude else magnitude, rest)

/-- The number with an integer part, and what is left behind it. -/
def finishNumber (negative : Bool) (whole rest : List Char) : Except Fault (Json × List Char) :=
  let double (digits : List Char) (places : Nat) (power : Int) : Json :=
    .float (.ofDecimal negative (Text.digitsValue digits) (power - places))
  match rest with
  | '.' :: afterPoint => do
    let (fraction, afterFraction) ← readDigits afterPoint
    match afterFraction with
    | c :: afterLetter =>
      if c = 'e' ∨ c = 'E' then
        let (power, left) ← readExponent afterLetter
        .ok (double (whole ++ fraction) fraction.length power, left)
      else .ok (double (whole ++ fraction) fraction.length 0, afterFraction)
    | [] => .ok (double (whole ++ fraction) fraction.length 0, [])
  | c :: afterLetter =>
    if c = 'e' ∨ c = 'E' then do
      let (power, left) ← readExponent afterLetter
      .ok (double whole 0 power, left)
    else
      let magnitude : Int := Text.digitsValue whole
      .ok (.int (if negative then -magnitude else magnitude), rest)
  | [] =>
    let magnitude : Int := Text.digitsValue whole
    .ok (.int (if negative then -magnitude else magnitude), rest)

/-- A number behind its sign. A row of too many digits is given up behind the first digit that is
one too many. -/
def readNumber (negative : Bool) (cs : List Char) : Except Fault (Json × List Char) :=
  match cs with
  | [] => .error ⟨.endInValue, []⟩
  | '0' :: rest =>
    match rest with
    | c :: _ =>
      if isDigit c then .error ⟨.invalidNumber, rest⟩ else finishNumber negative ['0'] rest
    | [] => finishNumber negative ['0'] []
  | 'I' :: _ => readWord "Infinity" (.float (.infinite negative)) cs
  | c :: _ =>
    if isDigit c then
      let digits := cs.takeWhile isDigit
      if digits.length > Text.maxDigits then
        .error ⟨.numberOutOfRange, cs.drop (Text.maxDigits + 1)⟩
      else finishNumber negative digits (cs.dropWhile isDigit)
    else if negative then .error ⟨.invalidNumber, cs⟩
    else .error ⟨.expectedValue, cs⟩

/-- A value that is neither a list, nor an object, nor a text. -/
def readAtom (cs : List Char) : Except Fault (Json × List Char) :=
  match cs with
  | 't' :: _ => readWord "true" (.bool true) cs
  | 'f' :: _ => readWord "false" (.bool false) cs
  | 'n' :: _ => readWord "null" .null cs
  | 'N' :: rest => readWord "NaN" (.float (.nan (rest.length + 2))) cs
  | '-' :: rest => readNumber true rest
  | _ => readNumber false cs

/-! ### Lists and objects -/

/-- What is left at a value that is due. -/
def atValue (cs : List Char) : Except Fault (List Char) :=
  match skip cs with
  | [] => .error ⟨.endInValue, []⟩
  | left => .ok left

/-- A quoted name with its colon, behind its opening quote. -/
def readName (fuel : Nat) (cs : List Char) : Except Fault (String × List Char) := do
  let (name, afterName) ← readText fuel [] cs
  match skip afterName with
  | ':' :: left => .ok (name, left)
  | [] => .error ⟨.endInObject, []⟩
  | left => .error ⟨.expectedColon, left⟩

mutual

/-- A value inside `depth` lists and objects. The fuel is at least twice the length of the text. -/
def readValue : Nat → Nat → List Char → Except Fault (Json × List Char)
  | 0, _, cs => .error ⟨.expectedValue, cs⟩
  | fuel + 1, depth, cs =>
    match cs with
    | '"' :: rest => do
      let (text, left) ← readText fuel [] rest
      .ok (.str text, left)
    | '[' :: rest =>
      match skip rest with
      | [] => .error ⟨.endInList, []⟩
      | ']' :: left => .ok (.arr [], left)
      | first =>
        if depth ≥ maxDepth then .error ⟨.tooDeep, first⟩
        else do
          let (items, left) ← readItems fuel depth first
          .ok (.arr items, left)
    | '\x7b' :: rest =>
      match skip rest with
      | [] => .error ⟨.endInObject, []⟩
      | '\x7d' :: left => .ok (.obj [], left)
      | '"' :: first => do
        let (fields, left) ← readFields fuel depth [] first
        .ok (.obj fields, left)
      | first => .error ⟨.nameNotText, first⟩
    | _ => readAtom cs

/-- The items of a list up to its closing bracket. -/
def readItems : Nat → Nat → List Char → Except Fault (List Json × List Char)
  | 0, _, cs => .error ⟨.expectedValue, cs⟩
  | fuel + 1, depth, cs => do
    let (item, afterItem) ← readValue fuel (depth + 1) cs
    match skip afterItem with
    | [] => .error ⟨.endInList, []⟩
    | ']' :: left => .ok ([item], left)
    | ',' :: next =>
      match skip next with
      | [] => .error ⟨.endInValue, []⟩
      | ']' :: left => .error ⟨.trailingComma, ']' :: left⟩
      | following => do
        let (items, left) ← readItems fuel depth following
        .ok (item :: items, left)
    | left => .error ⟨.expectedListComma, left⟩

/-- The fields of an object from behind the opening quote of a name up to the closing brace, behind
those already read. -/
def readFields : Nat → Nat → Fields → List Char → Except Fault (Fields × List Char)
  | 0, _, _, cs => .error ⟨.expectedValue, cs⟩
  | fuel + 1, depth, before, cs => do
    let (name, afterColon) ← readName fuel cs
    let valueStart ← atValue afterColon
    if depth ≥ maxDepth then .error ⟨.tooDeep, valueStart⟩
    let (value, afterValue) ← readValue fuel (depth + 1) valueStart
    let fields := Fields.set before name value
    match skip afterValue with
    | [] => .error ⟨.endInObject, []⟩
    | '\x7d' :: left => .ok (fields, left)
    | ',' :: next =>
      match skip next with
      | [] => .error ⟨.endInValue, []⟩
      | '"' :: following => readFields fuel depth fields following
      | '\x7d' :: left => .error ⟨.trailingComma, '\x7d' :: left⟩
      | left => .error ⟨.nameNotText, left⟩
    | left => .error ⟨.expectedObjectComma, left⟩

end

/-- The value that a whole text writes. -/
def readAll (cs : List Char) : Except Fault Json := do
  let start ← atValue cs
  let (value, rest) ← readValue (2 * cs.length + 2) 0 start
  match skip rest with
  | [] => .ok value
  | left => .error ⟨.trailingCharacters, left⟩

/-! ### Positions -/

/-- The line and column reached behind letters, starting from `line` and `column`. -/
def advance (line column : Nat) : List Text.Letter → Nat × Nat
  | [] => (line, column)
  | l :: ls =>
    if l = .char '\n' then advance (line + 1) 0 ls else advance line (column + l.plain.utf8Size) ls

/-- The line and column of a fault in a text. A fault at a line feed belongs to the line it opens;
a fault at the end has the column of the last byte. -/
def Fault.position (fault : Fault) (text : List Char) : Nat × Nat :=
  let passed := Text.letters (text.take (text.length - fault.rest.length))
  let (line, column) := advance 1 0 passed
  match fault.rest with
  | [] => (line, column)
  | c :: _ => if c = '\n' then (line + 1, 0) else (line, column + 1)

/-- The wording of a fault in a text. -/
def Fault.message (fault : Fault) (text : List Char) : String :=
  let (line, column) := fault.position text
  s!"{fault.problem.message} at line {line} column {column}"

end Located

/-- The value that a text writes, or the wording of its fault. -/
def readLocated (text : String) : Except String Json :=
  match Located.readAll text.toList with
  | .ok value => .ok value
  | .error fault => .error (fault.message text.toList)

end Flowgraph.Json
