import Flowgraph.Json.Equality
import Flowgraph.Json.Spelled

/-!
# Raw values

A raw value is used without a look at its kind: its members are read, its items gone through, its
texts put together. What stands in the way is told with the kind of value that was found instead.

## Main definitions

* `RawError`: why a raw value cannot be used.
* `Json.member`: the member of a name.
* `Json.first`, `Json.last`: the members at the ends.
* `Json.parts`: what there is to go through.
* `Json.key`: a value that others can be told apart by.
* `Json.textFor`, `Json.searched`: the text that a value must be for an operation.
* `Json.joined`: the texts of a list put together.
* `Json.isBelow`, `Json.cut`: a limit that any value may be.
-/

namespace Flowgraph

/-- Why a raw value cannot be used. -/
inductive RawError where
  /-- An object has no field of this name. -/
  | absent (name : String)
  /-- An object has no field for a place. -/
  | absentPlace (place : Int)
  /-- A list or a text is too short. -/
  | outOfRange (kind : String)
  /-- A value of this kind has no members. -/
  | noMembers (kind : String)
  /-- A text has members by place only. -/
  | textPlacesOnly
  /-- A list has members by place only. -/
  | listPlacesOnly
  /-- A value of this kind cannot be gone through. -/
  | noParts (kind : String)
  /-- A value of this kind cannot be told apart from others. -/
  | noKey (kind : String)
  /-- A value of this kind does not understand an operation. -/
  | noOperation (kind operation : String)
  /-- A value of this kind cannot be searched like a text. -/
  | notSearchable (kind : String)
  /-- Nothing can be put behind a value of this kind but its like. -/
  | notJoinable (kind : String)
  /-- Nothing can be added to a value of this kind. -/
  | notAddable (kind : String)
  /-- A number cannot be compared with a value of this kind. -/
  | notComparable (kind : String)
  /-- A list cannot be cut at a number that is not counted. -/
  | notCounted
  /-- The item at a place is of this kind where texts are put together. -/
  | notText (place : Nat) (kind : String)
  /-- A value of this kind has no fields. -/
  | noFields (kind : String)
  /-- The item at a place is no pair, as it cannot be gone through. -/
  | notPair (place : Nat)
  /-- The item at a place has another number of parts than a pair. -/
  | badPair (place length : Nat)
deriving DecidableEq, Repr

namespace RawError

/-- The name of the kind of a reason. -/
def kind : RawError → String
  | absent _ => "KeyError"
  | absentPlace _ => "KeyError"
  | outOfRange _ => "IndexError"
  | noOperation _ _ => "AttributeError"
  | badPair _ _ => "ValueError"
  | _ => "TypeError"

/-- The wording of a reason. -/
def message : RawError → String
  | absent name => String.ofList (Json.spellText name)
  | absentPlace place => toString place
  | outOfRange kind => (if kind = "str" then "string" else kind) ++ " index out of range"
  | noMembers kind => s!"'{kind}' object is not subscriptable"
  | textPlacesOnly => "string indices must be integers, not 'str'"
  | listPlacesOnly => "list indices must be integers or slices, not str"
  | noParts kind => s!"'{kind}' object is not iterable"
  | noKey kind => s!"unhashable type: '{kind}'"
  | noOperation kind operation => s!"'{kind}' object has no attribute '{operation}'"
  | notSearchable kind => s!"expected string or bytes-like object, got '{kind}'"
  | notJoinable kind => s!"can only concatenate {kind} (not \"int\") to {kind}"
  | notAddable kind => s!"unsupported operand type(s) for +: '{kind}' and 'int'"
  | notComparable kind => s!"'>' not supported between instances of 'int' and '{kind}'"
  | notCounted =>
    "slice indices must be integers or None or have an __index__ method"
  | notText place kind => s!"sequence item {place}: expected str instance, {kind} found"
  | noFields kind => s!"'{kind}' object is not a mapping"
  | notPair place =>
    s!"cannot convert dictionary update sequence element #{place} to a sequence"
  | badPair place length =>
    s!"dictionary update sequence element #{place} has length {length}; 2 is required"

end RawError

namespace Json

/-- The member of a name. -/
def member (v : Json) (name : String) : Except RawError Json :=
  match v with
  | obj fields =>
    match Fields.get? fields name with
    | some value => .ok value
    | none => .error (.absent name)
  | str _ => .error .textPlacesOnly
  | arr _ => .error .listPlacesOnly
  | v => .error (.noMembers v.kindName)

/-- The items of a list or the letters of a text, each as a value. -/
def inOrder? : Json → Option (List Json)
  | arr items => some items
  | str s => some ((Text.letters s.toList).map fun l => str (Text.ofLetters [l]))
  | _ => none

/-- The item of a list or text that `pick` finds; an object has no field for its place. -/
def memberAt (place : Int) (pick : List Json → Option Json) (v : Json) : Except RawError Json :=
  match v.inOrder? with
  | some items =>
    match pick items with
    | some item => .ok item
    | none => .error (.outOfRange v.kindName)
  | none => .error (if v matches obj _ then .absentPlace place else .noMembers v.kindName)

/-- The first item. -/
def first : Json → Except RawError Json :=
  memberAt 0 List.head?

/-- The last item. -/
def last : Json → Except RawError Json :=
  memberAt (-1) List.getLast?

/-- What there is to go through: the items of a list, the letters of a text or the names in an
object. -/
def parts (v : Json) : Except RawError (List Json) :=
  match v with
  | obj fields => .ok ((Fields.names fields).map str)
  | v =>
    match v.inOrder? with
    | some items => .ok items
    | none => .error (.noParts v.kindName)

/-- A value that others can be told apart by, which lists and objects are not. -/
def key (v : Json) : Except RawError Json :=
  match v with
  | arr _ => .error (.noKey v.kindName)
  | obj _ => .error (.noKey v.kindName)
  | v => .ok v

/-- A text, on which an operation is to be done. -/
def textFor (operation : String) : Json → Except RawError String
  | str s => .ok s
  | v => .error (.noOperation v.kindName operation)

/-- The texts that there are to go through, on each of which an operation is to be done. -/
def textsFor (operation : String) (v : Json) : Except RawError (List String) := do
  (← v.parts).mapM (textFor operation)

/-- A text that is to be searched. -/
def searched : Json → Except RawError String
  | str s => .ok s
  | v => .error (.notSearchable v.kindName)

/-- A text that is to be searched, empty for a value that counts as false. -/
def searchedOrEmpty (v : Json) : Except RawError String :=
  if v.isTruthy then v.searched else .ok ""

/-- The texts from a place on. -/
def textsFrom (place : Nat) : List Json → Except RawError (List String)
  | [] => .ok []
  | str s :: rest => do
    let texts ← textsFrom (place + 1) rest
    pure (s :: texts)
  | v :: _ => .error (.notText place v.kindName)

/-- The texts of a list put together with a text between them. -/
def joined (between : String) (items : List Json) : Except RawError String := do
  let texts ← textsFrom 0 items
  pure (between.intercalate texts)

/-- Whether a value is a number below a count. -/
def isBelow (count : Nat) : Json → Except RawError Bool
  | bool b => .ok (decide ((if b then 1 else 0) < count))
  | int n => .ok (decide (n < (count : Int)))
  | float x => .ok (x.lt (.finite (Dyadic.ofInt count)))
  | v => .error (.notComparable v.kindName)

/-- The place at which a value cuts a list. -/
def cut : Json → Except RawError Int
  | bool b => .ok (if b then 1 else 0)
  | int n => .ok n
  | _ => .error .notCounted

/-- Entries with one more: where a key is there already it stays as it is and takes the value. -/
def enter (key value : Json) : List (Json × Json) → List (Json × Json)
  | [] => [(key, value)]
  | (known, old) :: rest =>
    if known.same key then (known, value) :: rest else (known, old) :: enter key value rest

/-- The entries that pairs of a key and a value give, from a place on, behind those before. -/
def entriesOfPairs (place : Nat) (entries : List (Json × Json)) :
    List Json → Except RawError (List (Json × Json))
  | [] => .ok entries
  | pair :: rest =>
    match pair.parts with
    | .error _ => .error (.notPair place)
    | .ok [key, value] => do
      let key ← key.key
      entriesOfPairs (place + 1) (enter key value entries) rest
    | .ok parts => .error (.badPair place parts.length)

/-- The fields of an object, or those that pairs give, where a key is spelled out as a name. -/
def toFields (v : Json) : Except RawError Fields :=
  match v with
  | obj fields => .ok fields
  | v => do
    let entries ← entriesOfPairs 0 [] (← v.parts)
    pure (Fields.setAll [] (entries.map fun (key, value) => (key.spell, value)))

end Json
end Flowgraph
