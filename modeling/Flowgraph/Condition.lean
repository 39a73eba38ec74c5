import Flowgraph.Json.Equality
import Flowgraph.Json.Numeric
import Flowgraph.Path

/-!
# Conditions

A condition compares two operands, as in `$.score > 0.8`. It is cut at the first operator behind
which a right operand can stand; an operand that begins with `$` is a path into the context, any
other is a literal. A text that cannot be cut is no condition and does not hold.

## Main definitions

* `Condition.Operator`: the six comparisons.
* `Condition.split?`: the cut of a text into left operand, operator and right operand.
* `Condition.literal`: the value of a literal.
* `Condition.holds`: whether a condition holds in a context.
-/

namespace Flowgraph.Condition

/-- A comparison. -/
inductive Operator where
  /-- The operands are equal. -/
  | equal
  /-- The operands differ. -/
  | different
  /-- The left number is not below the right one. -/
  | atLeast
  /-- The left number is not above the right one. -/
  | atMost
  /-- The left number is above the right one. -/
  | above
  /-- The left number is below the right one. -/
  | below
deriving DecidableEq, Repr

/-- How an operator is written. -/
def Operator.sign : Operator → String
  | equal => "=="
  | different => "!="
  | atLeast => ">="
  | atMost => "<="
  | above => ">"
  | below => "<"

/-- The operators in the order in which they are tried: the long ones first. -/
def Operator.all : List Operator :=
  [equal, different, atLeast, atMost, above, below]

/-! ### Cutting a text -/

/-- The right operand that the text behind an operator holds. It lies on one line, with nothing but
blanks behind it. Blanks alone are an empty operand unless they are all line feeds. -/
def rightOperand? (cs : List Char) : Option (List Char) :=
  match cs.dropWhile Text.isBlank with
  | [] => if cs.all (· == '\n') then none else some []
  | body =>
    if (body.dropWhile (· != '\n')).all Text.isBlank then
      some (Text.strip (body.takeWhile (· != '\n')))
    else none

/-- The operator at the head of a text, with the right operand behind it. -/
def operatorAt? (cs : List Char) : Option (Operator × List Char) :=
  Operator.all.findSome? fun op =>
    if op.sign.toList.isPrefixOf cs then
      (rightOperand? (cs.drop op.sign.length)).map fun right => (op, right)
    else none

/-- The first cut of a text behind at least one of its characters, on its first line. The
characters passed already are in `before`, last one first. -/
def splitAfter? (before : List Char) : List Char → Option (List Char × Operator × List Char)
  | [] => none
  | c :: rest =>
    if c = '\n' then none
    else
      match operatorAt? (rest.dropWhile Text.isBlank) with
      | some (op, right) => some (Text.strip (c :: before).reverse, op, right)
      | none => splitAfter? (c :: before) rest

/-- The left operand, the operator and the right operand of a text, the operands without blanks
around them. Where no operator stands behind a character of the left operand, an operator behind
leading blanks is taken, and the left operand is empty. -/
def split? (text : String) : Option (List Char × Operator × List Char) :=
  let cs := text.toList
  let body := cs.dropWhile Text.isBlank
  match splitAfter? [] body with
  | some cut => some cut
  | none =>
    if (cs.takeWhile Text.isBlank).any (· != '\n') then
      (operatorAt? body).map fun (op, right) => ([], op, right)
    else none

/-! ### Operands -/

/-- The inside of a text in quotes. -/
def unquoted? (cs : List Char) : Option (List Char) :=
  match cs with
  | mark :: rest =>
    if (mark = '"' ∨ mark = '\'') ∧ rest.getLast? = some mark then some rest.dropLast else none
  | [] => none

/-- The value of a literal: a quoted text, a constant, a number, or else the text itself. -/
def literal (raw : String) : Except DataError Json :=
  let cs := Text.strip raw.toList
  match unquoted? cs with
  | some inside => .ok (.str (String.ofList inside))
  | none =>
    if cs = "true".toList then .ok (.bool true)
    else if cs = "false".toList then .ok (.bool false)
    else if cs = "null".toList then .ok .null
    else do
      match ← Text.numeral? cs with
      | none => pure (.str (String.ofList cs))
      | some x =>
        if Text.isInteger cs then
          let n ← Text.readInteger cs
          pure (.int n)
        else pure (.float x)

/-- The value of an operand in a context, `none` for a path that leads nowhere. -/
def operand (context : Json) (raw : List Char) : Except DataError (Option Json) :=
  let cs := Text.strip raw
  if cs.head? = some '$' then Path.resolve context (String.ofList cs)
  else do
    let v ← literal (String.ofList cs)
    pure (some v)

/-- The number that an operand stands for; a missing value stands for none. -/
def operandNumber : Option Json → Except DataError Double
  | some v => v.toDouble
  | none => .ok (.nan Double.computed)

/-- Equality of operands: a missing value equals a missing value only. -/
def operandsEqual : Option Json → Option Json → Bool
  | some a, some b => a.strictEquals b
  | none, none => true
  | _, _ => false

/-! ### Truth -/

/-- Whether a comparison of two numbers holds. -/
def Operator.compare (op : Operator) (x y : Double) : Bool :=
  match op with
  | equal => x.eq y
  | different => !x.eq y
  | atLeast => y.le x
  | atMost => x.le y
  | above => y.lt x
  | below => x.lt y

/-- Whether an operator holds between two operands. -/
def Operator.apply (op : Operator) (left right : Option Json) : Except DataError Bool :=
  match op with
  | equal => .ok (operandsEqual left right)
  | different => .ok (!operandsEqual left right)
  | op => do
    let x ← operandNumber left
    let y ← operandNumber right
    pure (op.compare x y)

/-- Whether a condition holds in a context. -/
def holds (context : Json) (text : String) : Except DataError Bool :=
  match split? text with
  | none => .ok false
  | some (left, op, right) => do
    let l ← operand context left
    let r ← operand context right
    op.apply l r

end Flowgraph.Condition
