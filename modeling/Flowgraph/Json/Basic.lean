import Flowgraph.Number.Double

/-!
# Data values

The values that documents, contexts and messages are made of. Integers of any size stand beside
numbers of double precision, and the fields of an object keep their order.

## Main definitions

* `Json`: a data value.
* `Fields`: the fields of an object, in order; `Fields.get?` reads one, `Fields.set` writes one.
* `Json.WellFormed`: no object of the value has two fields of one name.
* `Json.height`: how deeply a value is nested.
-/

namespace Flowgraph

/-- A data value. -/
inductive Json where
  /-- The absent value. -/
  | null
  /-- A truth value. -/
  | bool (value : Bool)
  /-- An integer of any size. -/
  | int (value : Int)
  /-- A number of double precision. -/
  | float (value : Double)
  /-- A text. -/
  | str (value : String)
  /-- A list. -/
  | arr (items : List Json)
  /-- An object: names and values, in order. -/
  | obj (fields : List (String × Json))
deriving Inhabited

/-- The fields of an object, in order. -/
abbrev Fields := List (String × Json)

namespace Fields

/-- The value of a field. -/
def get? (fields : Fields) (name : String) : Option Json :=
  match fields with
  | [] => none
  | (key, value) :: rest => if key = name then some value else get? rest name

/-- The value of a field, where an absent field counts as `null`. -/
def getD (fields : Fields) (name : String) : Json :=
  (get? fields name).getD .null

/-- Whether there is a field of this name. -/
def has (fields : Fields) (name : String) : Bool :=
  (get? fields name).isSome

/-- The fields with one of them set: in its place if it is there already, else at the end. -/
def set (fields : Fields) (name : String) (value : Json) : Fields :=
  match fields with
  | [] => [(name, value)]
  | (key, old) :: rest =>
    if key = name then (key, value) :: rest else (key, old) :: set rest name value

/-- The fields with others set one after another. -/
def setAll (fields others : Fields) : Fields :=
  others.foldl (fun all field => set all field.1 field.2) fields

/-- The names of the fields, in order. -/
def names (fields : Fields) : List String :=
  fields.map Prod.fst

@[simp] theorem get?_nil (name : String) : get? [] name = none := rfl

@[simp] theorem get?_cons (key name : String) (value : Json) (rest : Fields) :
    get? ((key, value) :: rest) name = if key = name then some value else get? rest name := rfl

/-- Writing a field changes that field and no other. -/
theorem get?_set (fields : Fields) (name other : String) (value : Json) :
    get? (set fields name value) other =
      if name = other then some value else get? fields other := by
  induction fields with
  | nil => rfl
  | cons field rest ih =>
    obtain ⟨key, old⟩ := field
    by_cases h : key = name
    · subst h
      by_cases h' : key = other <;> simp [set, h']
    · by_cases h' : key = other
      · subst h'
        simp [set, h, Ne.symm h]
      · simp [set, h, h', ih]

end Fields

namespace Json

/-- The text of a text value. -/
def str? : Json → Option String
  | str s => some s
  | _ => none

/-- The items of a list value. -/
def arr? : Json → Option (List Json)
  | arr xs => some xs
  | _ => none

/-- The fields of an object value. -/
def obj? : Json → Option Fields
  | obj fields => some fields
  | _ => none

/-- A field of a value; a value that is no object has none. -/
def field? (v : Json) (name : String) : Option Json :=
  v.obj?.bind (Fields.get? · name)

/-- A list of texts. -/
def strs (texts : List String) : Json :=
  arr (texts.map str)

/-- A text or `null`. -/
def ofOption : Option String → Json
  | some s => str s
  | none => null

/-- Whether a value counts as true: `null`, `false`, zero and everything empty do not. -/
def isTruthy : Json → Bool
  | null => false
  | bool b => b
  | int n => n != 0
  | float x => !x.eqInt 0
  | str s => !s.isEmpty
  | arr items => !items.isEmpty
  | obj fields => !fields.isEmpty

mutual

/-- Whether no object of the value has two fields of one name. -/
def WellFormed : Json → Prop
  | arr items => WellFormedItems items
  | obj fields => (fields.map Prod.fst).Nodup ∧ WellFormedFields fields
  | _ => True

/-- `WellFormed` for the items of a list. -/
def WellFormedItems : List Json → Prop
  | [] => True
  | item :: items => WellFormed item ∧ WellFormedItems items

/-- `WellFormed` for the values of the fields of an object. -/
def WellFormedFields : List (String × Json) → Prop
  | [] => True
  | (_, value) :: fields => WellFormed value ∧ WellFormedFields fields

end

mutual

/-- How many lists and objects are around what is innermost in a value, which counts as well. -/
def height : Json → Nat
  | arr items => heightItems items + 1
  | obj fields => heightFields fields + 1
  | _ => 1

/-- The height of the highest item. -/
def heightItems : List Json → Nat
  | [] => 0
  | item :: items => max item.height (heightItems items)

/-- The height of the highest field. -/
def heightFields : List (String × Json) → Nat
  | [] => 0
  | (_, value) :: fields => max value.height (heightFields fields)

end

/-- Whether a value is nested within a number of levels. -/
def isWithin (levels : Nat) (v : Json) : Bool :=
  decide (v.height ≤ levels)

end Json
end Flowgraph
