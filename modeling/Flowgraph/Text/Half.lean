import Flowgraph.Text.Letter

/-!
# Halves of pairs

A text that holds half of a pair of units by itself cannot be encoded in UTF-8.

## Main definitions

* `hasHalf`: whether a text holds a half.
* `loneHalf?`: the first halves in a text, and where they stand.
-/

namespace Flowgraph.Text

/-- The half that a letter is. -/
def Letter.half? : Letter → Option Nat
  | char _ => none
  | half h => some h.val

/-- Whether a text holds half of a pair. -/
def hasHalf (s : String) : Bool :=
  (letters s.toList).any fun l => l.half?.isSome

/-- Halves that stand side by side in a text. -/
structure LoneHalf where
  /-- The first of them. -/
  unit : Nat
  /-- How many letters stand before it. -/
  position : Nat
  /-- How many halves there are. -/
  count : Nat
deriving DecidableEq, Repr

/-- The first halves among letters that stand behind `position` others. -/
def loneHalfFrom? (position : Nat) : List Letter → Option LoneHalf
  | [] => none
  | l :: rest =>
    match l.half? with
    | some unit => some ⟨unit, position, 1 + (rest.takeWhile fun l => l.half?.isSome).length⟩
    | none => loneHalfFrom? (position + 1) rest

/-- The first halves in a text. -/
def loneHalf? (s : String) : Option LoneHalf :=
  loneHalfFrom? 0 (letters s.toList)

/-- The last four hexadecimal digits of a number. -/
def hex4 (n : Nat) : List Char :=
  [n / 4096 % 16, n / 256 % 16, n / 16 % 16, n % 16].map Nat.digitChar

/-- The escape of a unit of sixteen bits. -/
def unitEscape (unit : Nat) : List Char :=
  '\\' :: 'u' :: hex4 unit

/-- The wording for halves that cannot be encoded. -/
def LoneHalf.message (h : LoneHalf) : String :=
  let place :=
    if h.count = 1 then s!" '{String.ofList (unitEscape h.unit)}' in position {h.position}"
    else s!"s in position {h.position}-{h.position + h.count - 1}"
  s!"'utf-8' codec can't encode character{place}: surrogates not allowed"

end Flowgraph.Text
