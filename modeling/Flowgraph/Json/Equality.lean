import Flowgraph.Json.Basic

/-!
# Equality of data values

Numbers are compared by exact value whatever their kind, objects as maps. At the top of a value a
truth value equals truth values only; inside lists and objects it counts as zero or one.

## Main definitions

* `Json.same`: equality of parts, with truth values as numbers.
* `Json.strictEquals`: equality of whole values.
-/

namespace Flowgraph.Json

/-- Equality of an integer and a double, by exact value. -/
def sameNumbers : Json → Json → Option Bool
  | int a, int b => some (a == b)
  | int a, float b => some (b.eqInt a)
  | float a, int b => some (a.eqInt b)
  | float a, float b => some (a.eq b)
  | _, _ => none

/-- A truth value as the number zero or one; any other value as it is. -/
def boolAsInt : Json → Json
  | bool b => int (if b then 1 else 0)
  | v => v

/-- Equality of values that have no parts. -/
def sameAtoms (a b : Json) : Bool :=
  match boolAsInt a, boolAsInt b with
  | null, null => true
  | str s, str t => s == t
  | float (.nan p), float (.nan q) => p == q
  | x, y => (sameNumbers x y).getD false

mutual

/-- Equality of parts: truth values count as numbers, and a `nan` equals those of the
same origin. -/
def same : Json → Json → Bool
  | arr xs, arr ys => sameItems xs ys
  | obj fs, obj gs => fs.length == gs.length && sameFields fs gs
  | a, b => sameAtoms a b

/-- Equality of lists, item by item. -/
def sameItems : List Json → List Json → Bool
  | [], [] => true
  | x :: xs, y :: ys => same x y && sameItems xs ys
  | _, _ => false

/-- Whether every field of the first object is in the second with the same value. -/
def sameFields : List (String × Json) → List (String × Json) → Bool
  | [], _ => true
  | (name, x) :: fs, gs =>
    (match Fields.get? gs name with
      | some y => same x y
      | none => false) && sameFields fs gs

end

/-- Equality of whole values: a truth value equals truth values only, `nan` equals nothing. -/
def strictEquals : Json → Json → Bool
  | bool a, bool b => a == b
  | bool _, _ => false
  | _, bool _ => false
  | float a, float b => a.eq b
  | a, b => same a b

end Flowgraph.Json
