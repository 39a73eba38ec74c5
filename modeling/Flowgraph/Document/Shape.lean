import Flowgraph.Document.Basic
import Flowgraph.Json.Located

/-!
# The shape of documents

Data is a document if its parts have the right kinds. Reading goes on behind a part of the wrong
kind, so that all violations are found at once, each with the path to its place.

## Main definitions

* `Violation`: what is wrong, and where.
* `Checked`: a value or violations; `<*>` collects those of both sides.
* `Document.ofJson`, `Document.ofText`: the document that data or a text holds.
-/

namespace Flowgraph

/-- What is wrong with a part of a document. -/
inductive Cause where
  /-- A required field is absent. -/
  | missing
  /-- A text was expected. -/
  | notText
  /-- A text is not made of characters all through. -/
  | halfText
  /-- A text must not be empty. -/
  | emptyText
  /-- A workflow id has a form of its own. -/
  | badWorkflowId
  /-- An object with the fields of a part was expected. -/
  | notPart (part : String)
  /-- An object was expected. -/
  | notObject
  /-- A list was expected. -/
  | notList
  /-- A list must not be empty. -/
  | emptyList
  /-- An integer was expected. -/
  | notInteger
  /-- A number was expected. -/
  | notNumber
  /-- One of these texts was expected. -/
  | notOneOf (choices : List String)
  /-- The text cannot be read as data. -/
  | unreadable (problem : String)
deriving DecidableEq, Repr

/-- Whether a document is handed over as data or as a text; violations are worded differently. -/
inductive Source where
  /-- The document is data. -/
  | data
  /-- The document is a text. -/
  | text
deriving DecidableEq, Repr

/-- Choices in single quotes, the last one behind the word "or". -/
def choiceText (choices : List String) : String :=
  let quoted := choices.map fun choice => "'" ++ choice ++ "'"
  match quoted.getLast? with
  | none => ""
  | some last =>
    if quoted.length = 1 then last else ", ".intercalate quoted.dropLast ++ " or " ++ last

/-- The wording of a cause. -/
def Cause.message (source : Source) : Cause → String
  | missing => "Field required"
  | notText => "Input should be a valid string"
  | halfText => "Input should be a valid string, unable to parse raw data as a unicode string"
  | emptyText => "String should have at least 1 character"
  | badWorkflowId => "String should match pattern '^wf_[A-Za-z0-9_-]+$'"
  | notPart part =>
    match source with
    | .data => "Input should be a valid dictionary or instance of " ++ part
    | .text => "Input should be an object"
  | notObject =>
    match source with
    | .data => "Input should be a valid dictionary"
    | .text => "Input should be an object"
  | notList =>
    match source with
    | .data => "Input should be a valid list"
    | .text => "Input should be a valid array"
  | emptyList => "List should have at least 1 item after validation, not 0"
  | notInteger => "Input should be a valid integer"
  | notNumber => "Input should be a valid number"
  | notOneOf choices => "Input should be " ++ choiceText choices
  | unreadable problem => "Invalid JSON: " ++ problem

/-- A violation: the path to its place and what is wrong there. -/
structure Violation where
  /-- The names and indices that lead to the place. -/
  path : List String
  /-- What is wrong. -/
  cause : Cause
deriving DecidableEq, Repr

/-- The wording of a violation. -/
def Violation.message (source : Source) (v : Violation) : String :=
  let place := if v.path.isEmpty then "document" else ".".intercalate v.path
  place ++ ": " ++ v.cause.message source

/-! ### Checked values -/

/-- A value, or the violations that stand in its way. -/
inductive Checked (α : Type) where
  /-- The value. -/
  | ok (value : α)
  /-- The violations. -/
  | bad (violations : List Violation)

namespace Checked

variable {α β : Type}

/-- The value under a function. -/
def map (f : α → β) : Checked α → Checked β
  | ok a => ok (f a)
  | bad vs => bad vs

/-- A function applied to a value; violations of both sides are collected. -/
def apply : Checked (α → β) → Checked α → Checked β
  | ok f, ok a => ok (f a)
  | ok _, bad vs => bad vs
  | bad vs, ok _ => bad vs
  | bad vs, bad us => bad (vs ++ us)

instance : Functor Checked where
  map := map

instance : Seq Checked where
  seq f x := apply f (x ())

/-- The same with every violation moved below a name. -/
def under (segment : String) : Checked α → Checked α
  | ok a => ok a
  | bad vs => bad (vs.map fun v => { v with path := segment :: v.path })

/-- A single violation at the place itself. -/
def fail (cause : Cause) : Checked α :=
  bad [⟨[], cause⟩]

/-- The value if it fits, else a single violation at the place itself. -/
def fitting (fits : α → Bool) (cause : Cause) : Checked α → Checked α
  | ok a => if fits a then ok a else fail cause
  | bad vs => bad vs

/-- The value, or the wordings of the violations. -/
def report (source : Source) : Checked α → Except (List String) α
  | ok a => .ok a
  | bad vs => .error (vs.map (Violation.message source))

/-- The values of a list, the violations of all its items collected. -/
def all (check : α → Checked β) (index : Nat) : List α → Checked (List β)
  | [] => ok []
  | a :: rest => List.cons <$> under (toString index) (check a) <*> all check (index + 1) rest

end Checked

/-! ### Parts of documents -/

namespace Shape

/-- A text. -/
def text : Json → Checked String
  | .str s => .ok s
  | _ => .fail .notText

/-- A text of characters all through, under a further check. -/
def plainText {α : Type} (check : String → Checked α) (cause : Cause) : Json → Checked α
  | .str s => if Text.hasHalf s then .fail .halfText else check s
  | _ => .fail cause

/-- A text that is not empty. -/
def nonEmptyText : Json → Checked String :=
  plainText (fun s => if s.isEmpty then .fail .emptyText else .ok s) .notText

/-- A text or nothing. -/
def optionalText : Json → Checked (Option String)
  | .null => .ok none
  | .str s => .ok (some s)
  | _ => .fail .notText

/-- Whether a character may stand in a workflow id. -/
def isIdChar (c : Char) : Bool :=
  c.isAlphanum || c == '_' || c == '-'

/-- Whether a text has the form of a workflow id. -/
def isWorkflowId (s : String) : Bool :=
  match s.toList with
  | 'w' :: 'f' :: '_' :: c :: rest => (c :: rest).all isIdChar
  | _ => false

/-- A workflow id. -/
def workflowId : Json → Checked String :=
  plainText (fun s => if isWorkflowId s then .ok s else .fail .badWorkflowId) .notText

/-- A list. -/
def list {α : Type} (item : Json → Checked α) : Json → Checked (List α)
  | .arr items => Checked.all item 0 items
  | _ => .fail .notList

/-- A list that is not empty. -/
def nonEmptyList {α : Type} (item : Json → Checked α) (v : Json) : Checked (List α) :=
  match list item v with
  | .ok [] => .fail .emptyList
  | checked => checked

/-- An object. -/
def object : Json → Checked Fields
  | .obj fields => .ok fields
  | _ => .fail .notObject

/-- One of a list of texts. -/
def oneOf (choices : List String) : Json → Checked String :=
  let other := Cause.notOneOf choices
  plainText (fun s => if choices.contains s then .ok s else .fail other) other

/-- A part with fields of its own. -/
def part {α : Type} (name : String) (ofFields : Fields → Checked α) : Json → Checked α
  | .obj fields => ofFields fields
  | _ => .fail (.notPart name)

/-- A required field. -/
def field {α : Type} (fields : Fields) (name : String) (check : Json → Checked α) : Checked α :=
  match fields.get? name with
  | some v => (check v).under name
  | none => (Checked.fail .missing).under name

/-- A field that may be absent. -/
def fieldOr {α : Type} (fields : Fields) (name : String) (absent : α) (check : Json → Checked α) :
    Checked α :=
  match fields.get? name with
  | some v => (check v).under name
  | none => .ok absent

/-- A required field with a second name that counts where the first is absent. -/
def fieldNamed {α : Type} (fields : Fields) (name second : String) (check : Json → Checked α) :
    Checked α :=
  match fields.get? name, fields.get? second with
  | none, some v => (check v).under second
  | _, _ => field fields name check

/-- A coordinate: an integer or a number, and one violation for each where it is neither. -/
def coordinate : Json → Checked Coordinate
  | .int n => .ok (.whole n)
  | .float x => .ok (.real x)
  | _ => .bad [⟨["int"], .notInteger⟩, ⟨["float"], .notNumber⟩]

/-- A port. -/
def port : Json → Checked Port :=
  part "Port" fun fields =>
    Port.mk <$> field fields "id" nonEmptyText
      <*> field fields "label" nonEmptyText
      <*> fieldNamed fields "schema" "schema_" nonEmptyText

/-- A place. -/
def position : Json → Checked Position :=
  part "Position" fun fields =>
    Position.mk <$> field fields "x" coordinate <*> field fields "y" coordinate

/-- A drawing. -/
def appearance : Json → Checked Appearance :=
  part "NodeUI" fun fields =>
    Appearance.mk <$> field fields "icon" nonEmptyText <*> field fields "color" nonEmptyText

/-- A kind of node. -/
def nodeType : Json → Checked NodeType :=
  let other := Cause.notOneOf (NodeType.all.map NodeType.name)
  plainText (fun s => (NodeType.ofName? s).elim (.fail other) .ok) other

/-- Whether the names of fields are characters all through. -/
def hasPlainNames (fields : Fields) : Bool :=
  !fields.names.any Text.hasHalf

/-- A node. The names in its configuration are looked at when all else is in order. -/
def node : Json → Checked Node :=
  part "Node" fun fields =>
    Checked.fitting (fun n => hasPlainNames n.config) .halfText <|
    Node.mk <$> field fields "id" nonEmptyText
      <*> field fields "type" nodeType
      <*> field fields "name" nonEmptyText
      <*> field fields "position" position
      <*> field fields "inputs" (list port)
      <*> field fields "outputs" (nonEmptyList port)
      <*> field fields "config" object
      <*> field fields "ui" appearance

/-- An end of an edge. -/
def endpoint : Json → Checked Endpoint :=
  part "EdgeEndpoint" fun fields =>
    Endpoint.mk <$> field fields "node_id" nonEmptyText <*> field fields "port_id" nonEmptyText

/-- An edge. -/
def edge : Json → Checked Edge :=
  part "Edge" fun fields =>
    Edge.mk <$> field fields "id" nonEmptyText
      <*> field fields "source" endpoint
      <*> field fields "target" endpoint
      <*> fieldOr fields "label" none optionalText
      <*> fieldOr fields "condition" none optionalText

/-- A workflow. -/
def workflow : Json → Checked Workflow :=
  part "Workflow" fun fields =>
    Workflow.mk <$> field fields "id" workflowId
      <*> field fields "name" nonEmptyText
      <*> field fields "description" nonEmptyText
      <*> fieldOr fields "tags" [] (list text)
      <*> field fields "entry_node_id" nonEmptyText
      <*> fieldOr fields "variables" [] object
      <*> field fields "nodes" (nonEmptyList node)
      <*> field fields "edges" (list edge)

/-- A document. -/
def document : Json → Checked Document :=
  part "WorkflowDocument" fun fields =>
    (fun _ w => Document.mk w) <$> field fields "schema_version" (oneOf [schemaVersion])
      <*> field fields "workflow" workflow

end Shape

/-! ### Documents -/

/-- The document that data holds, or the wordings of its violations. -/
def Document.ofJson (v : Json) : Except (List String) Document :=
  (Shape.document v).report .data

/-- The document that a text holds, or the wordings of its violations. -/
def Document.ofText (text : String) : Except (List String) Document :=
  let checked : Checked Document :=
    if Text.hasHalf text then .fail .halfText
    else
      match Json.readLocated text with
      | .error problem => .fail (.unreadable problem)
      | .ok v => Shape.document v
  checked.report .text

/-- The node that data holds, or the wordings of its violations. -/
def Node.ofJson (v : Json) : Except (List String) Node :=
  (Shape.node v).report .data

end Flowgraph
