import Flowgraph.Activity.Branch
import Flowgraph.Activity.Classification
import Flowgraph.Activity.Extraction
import Flowgraph.Activity.Record
import Flowgraph.Activity.Report
import Flowgraph.Activity.Summary

/-!
# The activity of a node

Which activity a node has is decided by its settings. A registry lists the kinds of nodes that may
act at all.
-/

namespace Flowgraph.Node

variable {σ : Type}

/-- The activity of a node. -/
def act (node : Node) (backend : Backend σ) (context : Fields) : Effect σ Outcome :=
  match node.settings with
  | .trigger _ => pure { context := context }
  | .summarize s => Activity.Summary.run backend s context
  | .classify s => Activity.Classification.run backend s context
  | .extract s => Activity.Extraction.run backend s context
  | .report s => Activity.Report.run backend s context
  | .condition s => Activity.Branch.run node.outputIds s context
  | .delay s => Activity.Delay.run s context
  | .save s => Activity.Save.run backend node.id s context
  | .exporter s => Activity.Export.run backend node.id s context
  | .unknown => Effect.fail (.unknownType (.str node.type.name))

/-- The activity of a node, if its kind is registered. -/
def execute (node : Node) (registry : List NodeType) (backend : Backend σ) (context : Fields) :
    Effect σ Outcome :=
  if registry.contains node.type then node.act backend context
  else Effect.fail (.unknownType (.str node.type.name))

end Flowgraph.Node
