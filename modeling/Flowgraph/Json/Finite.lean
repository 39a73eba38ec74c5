import Flowgraph.Json.Basic

/-!
# Finite values

Free data is kept and sent with finite numbers only: an infinity or `nan` has no form in it, and
`null` stands in its place.

## Main definitions

* `Json.IsFinite`: every number of a value is finite.
* `Json.finite`: the value with `null` for every number that is not.
-/

namespace Flowgraph.Json

mutual

/-- Whether every number of the value is finite. -/
def IsFinite : Json → Prop
  | float x => x.isFinite = true
  | arr items => AllFinite items
  | obj fields => AllFieldsFinite fields
  | _ => True

/-- Whether every number of every item is finite. -/
def AllFinite : List Json → Prop
  | [] => True
  | item :: items => IsFinite item ∧ AllFinite items

/-- Whether every number of every field is finite. -/
def AllFieldsFinite : List (String × Json) → Prop
  | [] => True
  | (_, value) :: fields => IsFinite value ∧ AllFieldsFinite fields

end

mutual

/-- Whether every number of the value is finite, as a test. -/
def isFinite : Json → Bool
  | float x => x.isFinite
  | arr items => areFinite items
  | obj fields => areFieldsFinite fields
  | _ => true

/-- Whether every number of every item is finite, as a test. -/
def areFinite : List Json → Bool
  | [] => true
  | item :: items => item.isFinite && areFinite items

/-- Whether every number of every field is finite, as a test. -/
def areFieldsFinite : List (String × Json) → Bool
  | [] => true
  | (_, value) :: fields => value.isFinite && areFieldsFinite fields

end

mutual

/-- The value with `null` for every number that is not finite. -/
def finite : Json → Json
  | float x => if x.isFinite then float x else null
  | arr items => arr (finiteItems items)
  | obj fields => obj (finiteFields fields)
  | v => v

/-- The items with `null` for every number that is not finite. -/
def finiteItems : List Json → List Json
  | [] => []
  | item :: items => finite item :: finiteItems items

/-- The fields with `null` for every number that is not finite. -/
def finiteFields : List (String × Json) → List (String × Json)
  | [] => []
  | (name, value) :: fields => (name, finite value) :: finiteFields fields

end

mutual

/-- A finite value stays as it is. -/
theorem finite_eq_self : ∀ v : Json, v.IsFinite → v.finite = v
  | null, _ => rfl
  | bool _, _ => rfl
  | int _, _ => rfl
  | float x, h => by
    have hx : x.isFinite = true := h
    simp [finite, hx]
  | str _, _ => rfl
  | arr items, h => by
    rw [finite, finiteItems_eq_self items h]
  | obj fields, h => by
    rw [finite, finiteFields_eq_self fields h]

/-- Finite items stay as they are. -/
theorem finiteItems_eq_self : ∀ items : List Json, AllFinite items → finiteItems items = items
  | [], _ => rfl
  | item :: items, h => by
    rw [finiteItems, finite_eq_self item h.1, finiteItems_eq_self items h.2]

/-- Finite fields stay as they are. -/
theorem finiteFields_eq_self :
    ∀ fields : List (String × Json), AllFieldsFinite fields → finiteFields fields = fields
  | [], _ => rfl
  | (name, value) :: fields, h => by
    rw [finiteFields, finite_eq_self value h.1, finiteFields_eq_self fields h.2]

end

end Flowgraph.Json
