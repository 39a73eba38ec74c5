import Flowgraph.Json.Basic
import Flowgraph.Text.Blank
import Flowgraph.Text.Integer

/-!
# Lax readings

A configuration may hold a value of another kind than the one expected, as long as it clearly
stands for one: texts and numbers for truth values, texts for numbers. Only ASCII digits count.

## Main definitions

* `Lax.Problem`: why a value stands for nothing of the kind.
* `Lax.flag`, `Lax.integer`, `Lax.real`: the truth value, integer or double that a value stands for.
* `Lax.number?`: the integer or double that a value stands for, whichever it is.
-/

namespace Flowgraph.Lax

/-- Why a value stands for nothing of the kind expected. -/
inductive Problem where
  /-- It is of a kind that never stands for a truth value. -/
  | notFlag
  /-- It might have stood for a truth value. -/
  | unclearFlag
  /-- It is of a kind that never stands for an integer. -/
  | notInteger
  /-- It is a text that writes no integer. -/
  | unclearInteger
  /-- It is a number between two integers. -/
  | fractional
  /-- It is an infinity or `nan`. -/
  | notFinite
  /-- It is an integer beyond what is read. -/
  | tooLarge
  /-- It is of a kind that never stands for a double. -/
  | notNumber
  /-- It is a text that writes no double. -/
  | unclearNumber
deriving DecidableEq, Repr

/-- The wording of a problem. -/
def Problem.message : Problem → String
  | notFlag => "Input should be a valid boolean"
  | unclearFlag => "Input should be a valid boolean, unable to interpret input"
  | notInteger => "Input should be a valid integer"
  | unclearInteger => "Input should be a valid integer, unable to parse string as an integer"
  | fractional => "Input should be a valid integer, got a number with a fractional part"
  | notFinite => "Input should be a finite number"
  | tooLarge => "Unable to parse input string as an integer, exceeded maximum size"
  | notNumber => "Input should be a valid number"
  | unclearNumber => "Input should be a valid number, unable to parse string as a number"

/-! ### Truth values -/

/-- The words for true. -/
def trueWords : List String := ["1", "on", "t", "true", "y", "yes"]

/-- The words for false. -/
def falseWords : List String := ["0", "off", "f", "false", "n", "no"]

/-- The truth value that a number stands for. -/
def boolOfInt? (n : Int) : Option Bool :=
  if n = 1 then some true else if n = 0 then some false else none

/-- Whether an integer has less than sixty-four bits. -/
def isShort (n : Int) : Bool :=
  decide (-Int.pow 2 63 < n) && decide (n < Int.pow 2 63)

/-- The truth value that a value stands for. -/
def flag : Json → Except Problem Bool
  | .bool b => .ok b
  | .int n =>
    match boolOfInt? n with
    | some b => .ok b
    | none => .error (if isShort n || n == -Int.pow 2 63 then .unclearFlag else .notFlag)
  | .float x =>
    match x.toInt? with
    | some n =>
      match boolOfInt? n with
      | some b => .ok b
      | none => .error (if isShort n then .unclearFlag else .notFlag)
    | none => .error .notFlag
  | .str s =>
    let word := s.toLower
    if trueWords.contains word then .ok true
    else if falseWords.contains word then .ok false
    else .error .unclearFlag
  | _ => .error .notFlag

/-! ### Integers -/

/-- Whether a character is an ASCII digit. -/
def isDigit (c : Char) : Bool :=
  '0' ≤ c && c ≤ '9'

/-- A text without the zeros and underscores at its head: one zero stays if a point follows, and
the last character stays if nothing follows at all. -/
def dropLeadingZeros : List Char → Option (List Char)
  | [] => none
  | c :: rest =>
    let begins (d : Char) : Bool := d == '-' || (isDigit d && d != '0')
    let filler (d : Char) : Bool := d == '0' || d == '_'
    if begins c then some (c :: rest)
    else if c ≠ '0' then none
    else
      let last := ((c :: rest.takeWhile filler).getLast?).toList
      match rest.dropWhile filler with
      | [] => some last
      | '.' :: more => some (last ++ '.' :: more)
      | d :: more => if begins d then some (d :: more) else none

/-- A text without a point and the zeros behind it at its end; a point alone stays. -/
def dropZeroFraction (cs : List Char) : List Char :=
  match cs.dropWhile (· != '.') with
  | '.' :: zeros =>
    if !zeros.isEmpty && zeros.all (· == '0') then cs.takeWhile (· != '.') else cs
  | _ => cs

/-- A text without its underscores, each of which must stand between other characters. -/
def dropUnderscores (cs : List Char) : Option (List Char) :=
  let doubled := (cs.zip (cs.drop 1)).any fun (a, b) => a == '_' && b == '_'
  if cs.head? = some '_' ∨ cs.getLast? = some '_' ∨ doubled = true then none
  else some (cs.filter (· != '_'))

/-- A text without a minus, and whether there was one. -/
def splitMinus : List Char → Bool × List Char
  | '-' :: rest => (true, rest)
  | rest => (false, rest)

/-- Whether a text, as it is given, begins with more digits than an integer may have. -/
def isOverlong (s : String) : Bool :=
  let digits := (splitMinus s.toList).2.takeWhile isDigit
  digits.head? != some '0' && decide (Text.maxDigits < digits.length)

/-- The integer that plain digits write, behind an optional minus; no digits stand behind a
leading zero. -/
def plainInteger? (cs : List Char) : Option Int :=
  let (negative, digits) := splitMinus cs
  if digits.isEmpty ∨ !digits.all isDigit ∨ (digits.head? = some '0' ∧ digits.length > 1)
      ∨ digits.length > Text.maxDigits then
    none
  else
    let magnitude : Int := Text.digitsValue digits
    some (if negative then -magnitude else magnitude)

/-- The sign before a text as an integer keeps it: a plus is dropped, where no minus may follow
it, and a minus stays apart from what it stands before. -/
def signOfInteger? : List Char → Option (List Char × List Char)
  | '+' :: '-' :: _ => none
  | '+' :: rest => some ([], rest)
  | '-' :: rest => some (['-'], rest)
  | rest => some ([], rest)

/-- A text in the plain form of an integer: blanks around it, a plus, leading zeros, a fraction of
zeros and single underscores do not matter. -/
def plainForm? (s : String) : Option (List Char) := do
  let (sign, unsigned) ← signOfInteger? (Text.trimWhiteSpace s.toList)
  let digits ← dropLeadingZeros unsigned
  let plain ← dropUnderscores (dropZeroFraction digits)
  pure (sign ++ plain)

/-- The integer that a text stands for. That it is too long is told only of digits that stand in
front of everything else; in any other form it is unclear. -/
def integerOfText (s : String) : Except Problem Int :=
  if isOverlong s then .error .tooLarge
  else
    match (plainForm? s).bind plainInteger? with
    | some n => .ok n
    | none => .error .unclearInteger

/-- The integer that a value stands for. -/
def integer : Json → Except Problem Int
  | .bool b => .ok (if b then 1 else 0)
  | .int n => .ok n
  | .float x =>
    if !x.isFinite then .error .notFinite
    else
      match x.toInt? with
      | some n => if isShort n then .ok n else .error .tooLarge
      | none => .error .fractional
  | .str s => integerOfText s
  | _ => .error .notInteger

/-! ### Doubles -/

/-- The double that digits with an optional point and exponent write. -/
def decimal? (negative : Bool) (cs : List Char) : Option Double :=
  let whole := cs.takeWhile isDigit
  let afterWhole := cs.dropWhile isDigit
  let (fraction, rest) := match afterWhole with
    | '.' :: more => (more.takeWhile isDigit, more.dropWhile isDigit)
    | more => ([], more)
  let number (power : Int) : Double :=
    .ofDecimal negative (Text.digitsValue (whole ++ fraction)) (power - fraction.length)
  if whole.isEmpty ∧ fraction.isEmpty then none
  else
    match rest with
    | [] => some (number 0)
    | e :: more =>
      let (below, digits) := Text.splitSign more
      if (e = 'e' ∨ e = 'E') ∧ !digits.isEmpty ∧ digits.all isDigit then
        let magnitude : Int := Text.digitsValue digits
        some (number (if below then -magnitude else magnitude))
      else none

/-- The double that a text writes, with nothing around it. -/
def plainDouble? (cs : List Char) : Option Double :=
  let (negative, unsigned) := Text.splitSign cs
  let word := String.ofList (unsigned.map Char.toLower)
  if word = "inf" ∨ word = "infinity" then some (.infinite negative)
  else if word = "nan" then some (.nan Double.computed)
  else decimal? negative unsigned

/-- The double that a text stands for: blanks around it do not matter, or else single underscores
in it. -/
def doubleOfText? (s : String) : Option Double :=
  match plainDouble? (Text.trimWhiteSpace s.toList) with
  | some x => some x
  | none => (dropUnderscores s.toList).bind plainDouble?

/-- The double that a value stands for. -/
def real : Json → Except Problem Double
  | .bool b => .ok (.finite (Dyadic.ofInt (if b then 1 else 0)))
  | .int n =>
    match Double.ofInt? n with
    | some x => .ok x
    | none => .error .notNumber
  | .float x => .ok x
  | .str s =>
    match doubleOfText? s with
    | some x => .ok x
    | none => .error .unclearNumber
  | _ => .error .notNumber

/-! ### Numbers of either kind -/

/-- The number that a value stands for, as a value: an integer where it is one, else a double. -/
def number? : Json → Option Json
  | .bool b => some (.int (if b then 1 else 0))
  | .int n => some (.int n)
  | .float x => some (.float x)
  | .str s =>
    match integerOfText s with
    | .ok n => some (.int n)
    | .error _ => (doubleOfText? s).map .float
  | _ => none

end Flowgraph.Lax
