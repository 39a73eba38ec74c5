import Flowgraph.Edit.Change

/-!
# Drafts

A draft is data on its way to a document, and nothing in it has been checked. A node can be added
to a draft without reading it as a document: everything that is already there stays as it was
written, and only what the new node depends on has to be there.

## Main definitions

* `Draft.create`: a new node of a kind.
* `Draft.append`: the draft with a new node at the end.
-/

namespace Flowgraph.Draft

/-- A new node of a kind; the id may be any value, and the position any fields. -/
def fresh (type : NodeType) (id : Json) (position : Fields) : Json :=
  let fields := ((type.fresh "" default).toJson.obj?).getD []
  .obj ((fields.set "id" id).set "position" (.obj position))

/-- A new node of a kind that is given by its name. -/
def create (typeName id position : Json) : Except Fault Json := do
  let type ← NodeType.named typeName
  let fields ← position.toFields.mapError Fault.raw
  pure (fresh type id fields)

/-! ### The place of a new node -/

/-- The ids of the nodes that edges begin at. -/
def begun : List Json → Except RawError (List Json)
  | [] => .ok []
  | edge :: rest => do
    let source ← edge.member "source"
    let id ← (← source.member "node_id").key
    let others ← begun rest
    pure (id :: others)

/-- The nodes whose id is not among the given ones. -/
def without (ids : List Json) : List Json → Except RawError (List Json)
  | [] => .ok []
  | node :: rest => do
    let id ← (← node.member "id").key
    let others ← without ids rest
    pure (if ids.any id.same then others else node :: others)

/-- The first node without outgoing edges, else the last node. -/
def terminal (nodes edges : Json) : Except RawError Json := do
  let ids ← begun (← edges.parts)
  match ← without ids (← nodes.parts) with
  | node :: _ => pure node
  | [] => nodes.last

/-- A coordinate moved by an integer, where a truth value counts as zero or one. -/
def shift (distance : Int) (v : Json) : Except RawError Json :=
  match v with
  | .bool b => .ok (.int ((if b then 1 else 0) + distance))
  | .int n => .ok (Coordinate.whole n |>.shift distance |>.toJson)
  | .float x => .ok (Coordinate.real x |>.shift distance |>.toJson)
  | .str _ => .error (.notJoinable v.kindName)
  | .arr _ => .error (.notJoinable v.kindName)
  | v => .error (.notAddable v.kindName)

/-- The position to the right of a node. -/
def positionBehind (node : Json) : Except RawError Fields := do
  let x ← shift nodeSpacing (← (← node.member "position").member "x")
  let y ← (← node.member "position").member "y"
  pure [("x", x), ("y", y)]

/-! ### New parts -/

/-- The numbers in the ids of items. -/
def idNumbers (mark : String) : List Json → Except Fault (List Double)
  | [] => .ok []
  | item :: rest => do
    let id ← (item.member "id").mapError Fault.raw
    let text ← (id.textFor "startswith").mapError Fault.raw
    let number ← (idNumber mark text).mapError Fault.data
    let others ← idNumbers mark rest
    pure (number :: others)

/-- The mark followed by the number above the largest in the ids of items. -/
def nextId (mark : String) (items : List Json) : Except Fault String := do
  let numbers ← idNumbers mark items
  pure (idAbove mark numbers)

/-- The end of an edge. -/
def endpoint (nodeId portId : Json) : Json :=
  .obj [("node_id", nodeId), ("port_id", portId)]

/-- A list with an item put behind the others. -/
def extend (added : Json) (v : Json) : Except RawError Json :=
  match v with
  | .arr items => .ok (.arr (items ++ [added]))
  | v => .error (.noOperation v.kindName "append")

/-- The edges with one more from the first output of a node to an input of a new one. -/
def join (edges source outputs : Json) (newId : String) (input : Port) : Except Fault Json := do
  let _ ← (extend .null edges).mapError Fault.raw
  let id ← nextId "e" (edges.arr?.getD [])
  let sourceId ← (source.member "id").mapError Fault.raw
  let output ← outputs.first.mapError Fault.raw
  let portId ← (output.member "id").mapError Fault.raw
  let edge : Json := .obj [
    ("id", .str id),
    ("source", endpoint sourceId portId),
    ("target", endpoint (.str newId) (.str input.id)),
    ("label", .null),
    ("condition", .null)]
  (extend edge edges).mapError Fault.raw

/-- The edges with one more to a new node, if there is an output and an input to join. -/
def joinAll (edges source : Json) (newId : String) (inputs : List Port) : Except Fault Json := do
  let outputs ← (source.member "outputs").mapError Fault.raw
  match outputs.isTruthy, inputs with
  | true, input :: _ => join edges source outputs newId input
  | _, _ => pure edges

/-- The draft with a new node at the end, joined to the node before it. -/
def append (draft typeName : Json) : Except Fault Json := do
  let workflow ← (draft.member "workflow").mapError Fault.raw
  let nodes ← (workflow.member "nodes").mapError Fault.raw
  let edges ← (workflow.member "edges").mapError Fault.raw
  let source ← (terminal nodes edges).mapError Fault.raw
  let position ← (positionBehind source).mapError Fault.raw
  let id ← nextId "n" (nodes.arr?.getD [])
  let type ← NodeType.named typeName
  let extended ← (extend (fresh type (.str id) position) nodes).mapError Fault.raw
  let joined ← joinAll edges source id type.entry.inputs
  let fields := (Fields.set (workflow.obj?.getD []) "nodes" extended).set "edges" joined
  pure (.obj (Fields.set (draft.obj?.getD []) "workflow" (.obj fields)))

end Flowgraph.Draft
