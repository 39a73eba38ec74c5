/-!
# Kinds of nodes

The twelve kinds of nodes a workflow is built from: four triggers, four that ask a language model,
two that direct the run and two that put something out.
-/

namespace Flowgraph

/-- A kind of node. -/
inductive NodeType where
  /-- A run started by hand. -/
  | manual
  /-- A run started by an inbound request. -/
  | webhook
  /-- A run started by the clock. -/
  | timer
  /-- A run started by an upload. -/
  | upload
  /-- Condenses the input into a short text. -/
  | summarize
  /-- Picks one of a list of labels. -/
  | classify
  /-- Pulls named fields out of the input. -/
  | extract
  /-- Writes a report on the input. -/
  | report
  /-- Takes one of several branches. -/
  | condition
  /-- Marks a delay. -/
  | delay
  /-- Saves a record. -/
  | save
  /-- Writes data out as a file. -/
  | exporter
deriving DecidableEq, Repr, Inhabited

namespace NodeType

/-- The name of a kind in documents. -/
def name : NodeType → String
  | manual => "trigger.manual"
  | webhook => "trigger.webhook"
  | timer => "trigger.schedule"
  | upload => "trigger.file_upload"
  | summarize => "ai.summarize"
  | classify => "ai.classify"
  | extract => "ai.extract_fields"
  | report => "ai.generate_report"
  | condition => "logic.condition"
  | delay => "logic.delay"
  | save => "output.db_save"
  | exporter => "output.export"

/-- All kinds, in the order of the catalog. -/
def all : List NodeType :=
  [manual, webhook, timer, upload, summarize, classify, extract, report, condition, delay, save,
    exporter]

/-- The kind of a name. -/
def ofName? (s : String) : Option NodeType :=
  all.find? fun type => type.name == s

/-- Whether nodes of this kind start a run. -/
def isTrigger : NodeType → Bool
  | manual => true
  | webhook => true
  | timer => true
  | upload => true
  | _ => false

theorem mem_all (type : NodeType) : type ∈ all := by
  cases type <;> decide

@[simp] theorem ofName?_name (type : NodeType) : ofName? type.name = some type := by
  cases type <;> rfl

end NodeType
end Flowgraph
