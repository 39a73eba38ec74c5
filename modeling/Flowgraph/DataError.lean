import Flowgraph.Text.Half

/-!
# Faults of data

What can go wrong with a value or its text by itself: a number is too large or has too many digits,
values are nested too deep, or a text holds half of a pair of units, which no encoding has a place
for.  A computation that meets such a fault stops.
-/

/-- A computation that goes on with a value gives one only if the first part of it does. -/
theorem Except.bind_eq_ok_iff {ε α β : Type} {m : Except ε α} {f : α → Except ε β} {b : β} :
    m >>= f = .ok b ↔ ∃ a, m = .ok a ∧ f a = .ok b := by
  cases m <;> simp [bind, Except.bind]

/-- A computation that only goes on gives a value if the first part of it is no error. -/
theorem Except.bind_unit_eq_ok_iff {ε β : Type} {m : Except ε Unit} {n : Except ε β} {b : β} :
    (m >>= fun _ => n) = .ok b ↔ m = .ok () ∧ n = .ok b := by
  cases m <;> simp [bind, Except.bind]

/-- Two computations in a row fail exactly if the first one does, or the second one on its value. -/
theorem Except.bind_eq_error_iff {ε α β : Type} {m : Except ε α} {f : α → Except ε β} {e : ε} :
    (m >>= f) = .error e ↔ m = .error e ∨ ∃ a, m = .ok a ∧ f a = .error e := by
  cases m <;> simp [bind, Except.bind]

namespace Flowgraph

/-- Why data cannot be read, converted or handed out. -/
inductive DataError where
  /-- An integer beyond the largest double. -/
  | tooLarge
  /-- An integer text of too many digits. -/
  | tooManyDigits (count : Nat)
  /-- A text in which lists or objects are nested too deep to be read; the kind of the one too
  many. -/
  | textTooDeep (kind : String)
  /-- A value in which lists and objects are nested too deep to be handed out. -/
  | valueTooDeep
  /-- A value in which lists and objects are nested too deep to be copied. -/
  | copyTooDeep
  /-- A text that holds half of a pair. -/
  | loneHalf (half : Text.LoneHalf)
deriving DecidableEq, Repr

/-- The name of the kind of a fault. -/
def DataError.kind : DataError → String
  | tooLarge => "OverflowError"
  | tooManyDigits _ => "ValueError"
  | textTooDeep _ => "RecursionError"
  | valueTooDeep => "ValueError"
  | copyTooDeep => "RecursionError"
  | loneHalf _ => "UnicodeEncodeError"

/-- The wording of a fault. -/
def DataError.message : DataError → String
  | tooLarge => "int too large to convert to float"
  | tooManyDigits count =>
    s!"Exceeds the limit (4300 digits) for integer string conversion: value has {count} digits; "
      ++ "use sys.set_int_max_str_digits() to increase the limit"
  | textTooDeep kind =>
    s!"maximum recursion depth exceeded while decoding a JSON {kind} from a unicode string"
  | valueTooDeep => "Maximum serialization depth exceeded"
  | copyTooDeep => "maximum recursion depth exceeded while calling a Python object"
  | loneHalf half => half.message

end Flowgraph
