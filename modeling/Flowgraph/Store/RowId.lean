/-!
# Names of rows

Runs and stored rows take their names from one counter, written with thirty-two hexadecimal
digits.
-/

namespace Flowgraph.RowId

/-- The digits of a name. -/
def width : Nat := 32

/-- The name that stands for a count. -/
def write (count : Nat) : String :=
  let digits := Nat.toDigits 16 count
  String.ofList (List.replicate (width - digits.length) '0' ++ digits)

end Flowgraph.RowId
