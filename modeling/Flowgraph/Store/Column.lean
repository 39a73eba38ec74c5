import Flowgraph.Json.Basic
import Flowgraph.Number.Significant
import Flowgraph.Text.Half
import Flowgraph.Text.Integer

/-!
# Columns

A text column takes texts and, written out, numbers and truth values. `null` leaves it empty, and
so does a number that is none. A data column takes any value, as the text that it is written as; and
an integer is written only if it has not too many digits.

## Main definitions

* `ColumnError`: why a value cannot stand in a column.
* `Column.text?`: what stands in a text column for a value.
* `Json.isWritable`: the integers of a value can be written.
* `Column.data?`: what stands in a data column.
-/

namespace Flowgraph

/-- Why a value cannot stand in a column. -/
inductive ColumnError where
  /-- A list or an object cannot. -/
  | notScalar
  /-- An integer has more than sixty-four bits. -/
  | tooLarge
  /-- A text holds half of a pair. -/
  | loneHalf (half : Text.LoneHalf)
  /-- A value that must be there is missing. -/
  | missing
  /-- An integer has too many digits to be written. -/
  | tooManyDigits
deriving DecidableEq, Repr

/-- The wording of a reason. -/
def ColumnError.message : ColumnError → String
  | notScalar => "type is not supported"
  | tooLarge => "Python int too large to convert to SQLite INTEGER"
  | loneHalf half => half.message
  | missing => "NOT NULL constraint failed"
  | tooManyDigits =>
    "Exceeds the limit (4300 digits) for integer string conversion; "
      ++ "use sys.set_int_max_str_digits() to increase the limit"

/-- The name of the kind of a reason. -/
def ColumnError.kind : ColumnError → String
  | notScalar => "ProgrammingError"
  | tooLarge => "OverflowError"
  | loneHalf _ => "UnicodeEncodeError"
  | missing => "IntegrityError"
  | tooManyDigits => "StatementError"

namespace Column

/-- Whether an integer has at most sixty-four bits. -/
def fits (n : Int) : Bool :=
  decide (-Int.pow 2 63 ≤ n) && decide (n < Int.pow 2 63)

/-- What stands in a text column for a value, `none` if it is left empty. -/
def text? : Json → Except ColumnError (Option String)
  | .null => .ok none
  | .bool b => .ok (some (if b then "1" else "0"))
  | .int n => if fits n then .ok (some (toString n)) else .error .tooLarge
  | .float x => .ok (if x.isNaN then none else some x.significant)
  | .str s =>
    match Text.loneHalf? s with
    | some half => .error (.loneHalf half)
    | none => .ok (some s)
  | .arr _ => .error .notScalar
  | .obj _ => .error .notScalar

end Column

namespace Json

mutual

/-- Whether no integer of a value has too many digits to be written. -/
def isWritable : Json → Bool
  | int n => decide (n.natAbs < Nat.pow 10 Text.maxDigits)
  | arr items => areWritable items
  | obj fields => areFieldsWritable fields
  | _ => true

/-- Whether none of some items has such an integer. -/
def areWritable : List Json → Bool
  | [] => true
  | item :: items => isWritable item && areWritable items

/-- Whether none of some fields has such an integer. -/
def areFieldsWritable : List (String × Json) → Bool
  | [] => true
  | (_, value) :: fields => isWritable value && areFieldsWritable fields

end

end Json

/-- What stands in a data column for a value. -/
def Column.data? (v : Json) : Except ColumnError Json :=
  if v.isWritable then .ok v else .error .tooManyDigits

end Flowgraph
