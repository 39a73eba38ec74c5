import Flowgraph.Document.Shape
import Flowgraph.Schedule

/-!
# The rules of documents

A document of the right shape must also hang together: it has one trigger, where it begins; names
are unique; edges join ports that exist; the graph has no cycle. All breaches are found in one
pass over the nodes and one over the edges.

## Main definitions

* `Breach`: a rule that a document breaks, and where.
* `Workflow.breaches`: all breaches, in order.
* `Document.check`: the document that data holds, if it keeps all rules.
-/

namespace Flowgraph

/-- A rule that a document breaks. Nodes and edges are given by index and name. -/
inductive Breach where
  /-- There is not exactly one trigger. -/
  | triggerCount
  /-- The run does not begin at the trigger. -/
  | entryNode
  /-- A node has the name of an earlier one. -/
  | duplicateNode (index : Nat) (node : String)
  /-- A trigger has inputs. -/
  | triggerInputs (index : Nat) (node : String)
  /-- A node that is no trigger has no inputs. -/
  | noInputs (index : Nat) (node : String)
  /-- Two inputs of a node have one name. -/
  | duplicateInput (index : Nat) (node port : String)
  /-- Two outputs of a node have one name. -/
  | duplicateOutput (index : Nat) (node port : String)
  /-- A condition has fewer than two outputs. -/
  | fewOutputs (index : Nat) (node : String)
  /-- The default output of a condition is not one of its outputs. -/
  | defaultOutput (index : Nat) (node : String)
  /-- An edge has the name of an earlier one. -/
  | duplicateEdge (index : Nat) (edge : String)
  /-- An edge starts at no node. -/
  | sourceNode (index : Nat) (edge : String)
  /-- An edge starts at no output of its node. -/
  | sourcePort (index : Nat) (edge : String)
  /-- An edge ends at no node. -/
  | targetNode (index : Nat) (edge : String)
  /-- An edge ends at no input of its node. -/
  | targetPort (index : Nat) (edge : String)
  /-- The graph has a cycle. -/
  | cycle
deriving DecidableEq, Repr

/-- The wording of a breach, behind the path to its place. -/
def Breach.message : Breach → String
  | triggerCount => "workflow.nodes: Exactly one trigger node is required."
  | entryNode => "workflow.entry_node_id: entry_node_id must point to the trigger node."
  | duplicateNode i n => s!"workflow.nodes.{i}.id: Duplicate node id: {n}"
  | triggerInputs i n => s!"workflow.nodes.{i}.inputs: Trigger node {n} must have no inputs."
  | noInputs i n =>
    s!"workflow.nodes.{i}.inputs: Non-trigger node {n} must have at least one input."
  | duplicateInput i n p =>
    s!"workflow.nodes.{i}.inputs: Duplicate input port id on node {n}: {p}"
  | duplicateOutput i n p =>
    s!"workflow.nodes.{i}.outputs: Duplicate output port id on node {n}: {p}"
  | fewOutputs i n =>
    s!"workflow.nodes.{i}.outputs: Condition node {n} must have at least two outputs."
  | defaultOutput i n =>
    s!"workflow.nodes.{i}.config.default_output: "
      ++ s!"Condition node {n} default_output must match an output port id."
  | duplicateEdge i e => s!"workflow.edges.{i}.id: Duplicate edge id: {e}"
  | sourceNode i e => s!"workflow.edges.{i}.source.node_id: Edge {e} source node not found."
  | sourcePort i e =>
    s!"workflow.edges.{i}.source.port_id: Edge {e} source port must reference an output port."
  | targetNode i e => s!"workflow.edges.{i}.target.node_id: Edge {e} target node not found."
  | targetPort i e =>
    s!"workflow.edges.{i}.target.port_id: Edge {e} target port must reference an input port."
  | cycle => "workflow.edges: Workflow graph is not a DAG (cycle detected)."

/-! ### Repeated names -/

/-- The names that occur more than once, each once and in order. -/
def repeated (names : List String) : List String :=
  let twice := (Schedule.distinct names).filter fun name => 1 < names.count name
  twice.mergeSort fun a b => !Text.isBefore b a

/-! ### Nodes -/

namespace Node

/-- The output that a condition takes when it does not hold, as it is configured. -/
def defaultOutput? (node : Node) : Option String :=
  (node.config.get? "default_output").bind Json.str?

/-- Whether the configured default output is one of the outputs. -/
def hasDefaultOutput (node : Node) : Bool :=
  match node.defaultOutput? with
  | some port => node.outputIds.contains port
  | none => false

/-- The breaches of a node, given the names of the nodes before it. -/
def breaches (index : Nat) (earlier : List String) (node : Node) : List Breach :=
  (if earlier.contains node.id then [.duplicateNode index node.id] else [])
    ++ (if node.isTrigger then
        if node.inputs.isEmpty then [] else [.triggerInputs index node.id]
      else if node.inputs.isEmpty then [.noInputs index node.id] else [])
    ++ (repeated node.inputIds).map (Breach.duplicateInput index node.id)
    ++ (repeated node.outputIds).map (Breach.duplicateOutput index node.id)
    ++ (if node.type = .condition then
        (if node.outputs.length < 2 then [.fewOutputs index node.id] else [])
          ++ (if node.hasDefaultOutput then [] else [.defaultOutput index node.id])
      else [])

end Node

/-- The breaches of nodes, from an index on and behind nodes of the names `earlier`. -/
def nodeBreaches : Nat → List String → List Node → List Breach
  | _, _, [] => []
  | index, earlier, node :: rest =>
    node.breaches index earlier ++ nodeBreaches (index + 1) (node.id :: earlier) rest

/-! ### Edges -/

namespace Edge

/-- The breaches of an edge, given the names of the edges before it. -/
def breaches (w : Workflow) (index : Nat) (earlier : List String) (edge : Edge) : List Breach :=
  (if earlier.contains edge.id then [.duplicateEdge index edge.id] else [])
    ++ (match w.lastNode? edge.source.nodeId with
      | none => [.sourceNode index edge.id]
      | some node =>
        if node.outputIds.contains edge.source.portId then [] else [.sourcePort index edge.id])
    ++ (match w.lastNode? edge.target.nodeId with
      | none => [.targetNode index edge.id]
      | some node =>
        if node.inputIds.contains edge.target.portId then [] else [.targetPort index edge.id])

end Edge

/-- The breaches of edges, from an index on and behind edges of the names `earlier`. -/
def edgeBreaches (w : Workflow) : Nat → List String → List Edge → List Breach
  | _, _, [] => []
  | index, earlier, edge :: rest =>
    edge.breaches w index earlier ++ edgeBreaches w (index + 1) (edge.id :: earlier) rest

/-! ### Workflows -/

namespace Workflow

/-- The triggers. -/
def triggers (w : Workflow) : List Node :=
  w.nodes.filter Node.isTrigger

/-- The breaches that concern the trigger. -/
def triggerBreaches (w : Workflow) : List Breach :=
  (if w.triggers.length = 1 then [] else [.triggerCount])
    ++ (match w.triggers with
      | [] => []
      | trigger :: _ => if w.entryNodeId = trigger.id then [] else [.entryNode])

/-- All breaches. A cycle is looked for only if no two nodes have one name. -/
def breaches (w : Workflow) : List Breach :=
  w.triggerBreaches
    ++ nodeBreaches 0 [] w.nodes
    ++ edgeBreaches w 0 [] w.edges
    ++ (if (repeated w.nodeIds).isEmpty && !Schedule.isAcyclic w then [.cycle] else [])

end Workflow

/-! ### Documents -/

namespace Document

/-- The document, if it keeps all rules, or the wordings of its breaches. -/
def obeying (d : Document) : Except (List String) Document :=
  match d.workflow.breaches with
  | [] => .ok d
  | breaches => .error (breaches.map Breach.message)

/-- The document that data holds, if it keeps all rules; data that is a text is read first. -/
def check (v : Json) : Except (List String) Document :=
  match v with
  | .str text => (ofText text).bind obeying
  | v => (ofJson v).bind obeying

end Document
end Flowgraph
