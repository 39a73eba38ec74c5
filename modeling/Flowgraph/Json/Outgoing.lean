import Flowgraph.DataError
import Flowgraph.Json.Basic

/-!
# Outgoing data

Free data that leaves the library keeps two limits. Its lists and objects may not be nested too
deep, and its names must be characters all through. Where it leaves as encoded text, its texts must
be so too.

## Main definitions

* `Json.checkFree`: whether a value keeps the limits, and if not the first fault.
* `Json.checkFreeFields`: the same for the fields of an object.
* `Outgoing.checkReply`: whether a reply to a request can leave.
-/

namespace Flowgraph

namespace Json

/-- The levels that a value in free data may have: one for the value itself, and one for every list
or object around what is innermost. -/
def maxLevels : Nat := 255

/-- The fault of a text that holds half of a pair. -/
def checkText (s : String) : Except DataError Unit :=
  match Text.loneHalf? s with
  | some half => .error (.loneHalf half)
  | none => .ok ()

mutual

/-- Whether a value keeps the limits where `levels` are left, and if not the first fault. -/
def checkFree (encoded : Bool) (levels : Nat) : Json → Except DataError Unit
  | arr items =>
    if levels = 0 then .error .valueTooDeep else checkFreeItems encoded (levels - 1) items
  | obj fields =>
    if levels = 0 then .error .valueTooDeep else checkFreeFields encoded (levels - 1) fields
  | str s =>
    if levels = 0 then .error .valueTooDeep else if encoded then checkText s else .ok ()
  | _ => if levels = 0 then .error .valueTooDeep else .ok ()

/-- The same for the items of a list. -/
def checkFreeItems (encoded : Bool) (levels : Nat) : List Json → Except DataError Unit
  | [] => .ok ()
  | item :: items => do
    checkFree encoded levels item
    checkFreeItems encoded levels items

/-- The same for the fields of an object: a name comes before its value. -/
def checkFreeFields (encoded : Bool) (levels : Nat) : List (String × Json) → Except DataError Unit
  | [] => .ok ()
  | (name, value) :: fields => do
    checkText name
    checkFree encoded levels value
    checkFreeFields encoded levels fields

end

end Json

namespace Outgoing

/-- The parts of a reply that are objects of free data. -/
def freeObjects : List String := ["document", "input_json", "output_json"]

/-- The parts of a reply that are free data of any kind. -/
def freeValues : List String := ["input", "output"]

mutual

/-- Whether a reply can leave, and if not the first fault. Its texts are encoded, and the free data
in it keeps the limits. -/
def checkReply : Json → Except DataError Unit
  | .str s => Json.checkText s
  | .arr items => checkReplies items
  | .obj fields => checkReplyFields fields
  | _ => .ok ()

/-- The same for the items of a list. -/
def checkReplies : List Json → Except DataError Unit
  | [] => .ok ()
  | item :: items => do
    checkReply item
    checkReplies items

/-- The same for the parts of a reply. -/
def checkReplyFields : List (String × Json) → Except DataError Unit
  | [] => .ok ()
  | (name, value) :: fields => do
    if freeObjects.contains name then Json.checkFreeFields true Json.maxLevels (value.obj?.getD [])
    else if freeValues.contains name then Json.checkFree true Json.maxLevels value
    else checkReply value
    checkReplyFields fields

end

end Outgoing
end Flowgraph
