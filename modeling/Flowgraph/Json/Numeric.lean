import Flowgraph.Json.Basic
import Flowgraph.Text.Numeral

/-!
# Values as numbers

The number that a value stands for in a comparison of magnitudes. `null` is zero, a truth value is
zero or one, a text is read as a numeral; a value that stands for no number becomes `nan`, which
is neither below nor above anything.
-/

namespace Flowgraph.Json

/-- The number that a value stands for. -/
def toDouble : Json → Except DataError Double
  | null => .ok (.finite 0)
  | bool b => .ok (.finite (if b then 1 else 0))
  | int n =>
    match Double.ofInt? n with
    | some x => .ok x
    | none => .error .tooLarge
  | float x => .ok x
  | str s => do
    let x? ← Text.numeral? s.toList
    pure (x?.getD (.nan Double.computed))
  | _ => .ok (.nan Double.computed)

end Flowgraph.Json
