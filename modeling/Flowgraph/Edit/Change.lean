import Flowgraph.Catalog
import Flowgraph.Document.Rules
import Flowgraph.Edit.Command
import Flowgraph.Json.Numeric

/-!
# Changing a workflow

What the commands do. A new node comes behind the first node without outgoing edges and is joined
to it; new ids go on from the largest number that stands in an id. A changed document counts only
if it keeps all rules.

## Main definitions

* `idAbove`, `nextId`: an id for a new node or edge.
* `Workflow.rename`, `Workflow.delete?`, `Workflow.connect?`, `Workflow.append`: the changes.
* `Document.edit`: the outcome of a command.
-/

namespace Flowgraph

/-! ### Ids -/

/-- The part of an id that may be a number: what stands behind the mark, if the id begins with it,
else the whole id. -/
def idNumeral (mark id : String) : List Char :=
  if mark.toList.isPrefixOf id.toList then id.toList.drop mark.length else id.toList

/-- The number in an id; an id without one counts as `nan`. -/
def idNumber (mark id : String) : Except DataError Double :=
  (Json.str (String.ofList (idNumeral mark id))).toDouble

/-- The largest of some numbers. -/
def largest? : List Double → Option Double
  | [] => none
  | x :: rest => some (rest.foldl (fun best y => if Double.lt best y then y else best) x)

/-- The mark followed by the number above the largest of those in ids, where neither `nan` nor an
infinity counts. -/
def idAbove (mark : String) (numbers : List Double) : String :=
  let highest := ((largest? (numbers.filter Double.isFinite)).bind Double.truncate?).getD 0
  mark ++ toString (highest + 1)

/-- The mark followed by the number above the largest in the ids. -/
def nextId (mark : String) (ids : List String) : Except DataError String := do
  let numbers ← ids.mapM (idNumber mark)
  pure (idAbove mark numbers)

/-! ### Changes -/

/-- How far a new node is placed to the right of the one before it. -/
def nodeSpacing : Int := 240

/-- A coordinate moved by an integer. -/
def Coordinate.shift (distance : Int) : Coordinate → Coordinate
  | whole n => whole (n + distance)
  | real x => real (x.add (.finite (Dyadic.ofInt distance)))

namespace Workflow

/-- The first node with this id or this name, case ignored. -/
def referred? (w : Workflow) (ref : String) : Option Node :=
  let wanted := Text.lower ref.toList
  w.nodes.find? fun node =>
    Text.lower node.id.toList == wanted || Text.lower node.name.toList == wanted

/-- The first node without outgoing edges, else the last node. -/
def terminal? (w : Workflow) : Option Node :=
  (w.nodes.find? fun node => !(w.edges.map fun e => e.source.nodeId).contains node.id).or
    w.nodes.getLast?

/-- The ids of the edges. -/
def edgeIds (w : Workflow) : List String :=
  w.edges.map Edge.id

/-- An edge from the first output of a node to the first input of another, if there are such. -/
def joining? (w : Workflow) (source target : Node) : Except DataError (Option Edge) :=
  match source.outputs, target.inputs with
  | output :: _, input :: _ => do
    let id ← nextId "e" w.edgeIds
    pure (some ⟨id, ⟨source.id, output.id⟩, ⟨target.id, input.id⟩, none, none⟩)
  | _, _ => .ok none

/-- The nodes with the name of the first one that fits changed. -/
def renameFirst (fits : Node → Bool) (name : String) : List Node → List Node
  | [] => []
  | node :: rest =>
    if fits node then { node with name := name } :: rest else node :: renameFirst fits name rest

/-- The workflow with another name for a node, if there is such a node. -/
def rename? (w : Workflow) (ref name : String) : Option Workflow :=
  let wanted := Text.lower ref.toList
  let fits (node : Node) : Bool :=
    Text.lower node.id.toList == wanted || Text.lower node.name.toList == wanted
  if w.nodes.any fits then some { w with nodes := renameFirst fits name w.nodes } else none

/-- The workflow without a node and the edges at it. The entry node stays. -/
def delete? (w : Workflow) (ref : String) : Option Workflow :=
  match w.referred? ref with
  | none => none
  | some target =>
    if target.id = w.entryNodeId then none
    else some { w with
      nodes := w.nodes.filter fun node => node.id != target.id
      edges := w.edges.filter fun e =>
        e.source.nodeId != target.id && e.target.nodeId != target.id }

/-- The workflow with an edge between two nodes, if they have the ports for it. -/
def connect? (w : Workflow) (source target : String) : Except DataError (Option Workflow) :=
  match w.referred? source, w.referred? target with
  | some s, some t => do
    let edge? ← w.joining? s t
    pure (edge?.map fun edge => { w with edges := w.edges ++ [edge] })
  | _, _ => .ok none

/-- A new node of a kind behind another one, and the edge that joins it. -/
def successor (w : Workflow) (source : Node) (type : NodeType) :
    Except DataError (Node × Option Edge) := do
  let id ← nextId "n" w.nodeIds
  let node := type.fresh id ⟨source.position.x.shift nodeSpacing, source.position.y⟩
  let edge? ← w.joining? source node
  pure (node, edge?)

/-- The workflow with a new node at the end, changed by `adjust`. A workflow without nodes stays
as it is. -/
def append (w : Workflow) (type : NodeType) (adjust : Node → Node) :
    Except DataError Workflow :=
  match w.terminal? with
  | none => .ok w
  | some source => do
    let (node, edge?) ← w.successor source type
    pure { w with nodes := w.nodes ++ [adjust node], edges := w.edges ++ edge?.toList }

end Workflow

/-! ### Commands -/

/-- Why a command is refused. -/
inductive EditRefusal where
  /-- The text gives no command. -/
  | notUnderstood (problem : CommandProblem)
  /-- The node to rename is not there. -/
  | nothingToRename
  /-- The node to delete is not there, or the run begins at it. -/
  | notDeletable
  /-- A node to connect is not there or has no port to connect. -/
  | notConnectable
  /-- The changed document breaks rules. -/
  | invalid (errors : List String)
deriving DecidableEq, Repr

namespace EditRefusal

/-- The wording of a refusal. -/
def message : EditRefusal → String
  | notUnderstood problem => problem.message
  | nothingToRename => "Node to rename not found."
  | notDeletable => "Node could not be deleted (not found or is trigger)."
  | notConnectable => "Could not connect nodes."
  | invalid _ => "Edit rejected by workflow validator."

/-- The wordings of what is wrong with the changed document. -/
def errors : EditRefusal → List String
  | invalid errors => errors
  | _ => []

end EditRefusal

namespace EditCommand

/-- What is said when a command has been carried out. -/
def message : EditCommand → String
  | rename node name => s!"Renamed {node} to {name}."
  | delete node => s!"Deleted {node}."
  | connect source target => s!"Connected {source} to {target}."
  | addDelay seconds => s!"Added delay node ({seconds}s) at end."
  | add type => s!"Added {type.name} at the end of the flow."

/-- The workflow changed by a command, before any rule is looked at. -/
def apply (command : EditCommand) (w : Workflow) :
    Except DataError (Except EditRefusal Workflow) :=
  match command with
  | rename node name => .ok ((w.rename? node name).elim (.error .nothingToRename) .ok)
  | delete node => .ok ((w.delete? node).elim (.error .notDeletable) .ok)
  | connect source target => do
    let changed? ← w.connect? source target
    pure (changed?.elim (.error .notConnectable) .ok)
  | addDelay seconds => do
    let wait (node : Node) : Node :=
      { node with config := node.config.set "seconds" (.int seconds) }
    let changed ← w.append .delay wait
    pure (.ok changed)
  | add type => do
    let changed ← w.append type id
    pure (.ok changed)

end EditCommand

/-- A document that a command has changed. -/
structure Edited where
  /-- What is said about the change. -/
  message : String
  /-- The changed document. -/
  document : Document

namespace Document

/-- The outcome of a command: the changed document, or why it is refused. A command that is not
blank works on the document as it leaves, so that its limits come before the command. -/
def edit (d : Document) (text : String) : Except DataError (Except EditRefusal Edited) :=
  match EditCommand.read text with
  | .ok (.error .blank) => .ok (.error (.notUnderstood .blank))
  | read => do
    let _ ← d.serialize
    match ← read with
    | .error problem => pure (.error (.notUnderstood problem))
    | .ok command =>
      match ← command.apply d.workflow with
      | .error refusal => pure (.error refusal)
      | .ok changed =>
        match check (Document.mk changed).toJson with
        | .error errors => pure (.error (.invalid errors))
        | .ok document => pure (.ok ⟨command.message, document⟩)

end Document
end Flowgraph
