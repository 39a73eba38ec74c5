import Flowgraph.Document.Basic
import Flowgraph.Effect

/-!
# The catalog

What people are told about each kind of node, and what a new node of the kind looks like.

## Main definitions

* `CatalogEntry`: the entry of a kind.
* `NodeType.entry`: the entries themselves.
* `NodeType.fresh`: a new node of a kind.
-/

namespace Flowgraph

/-- What is known of a kind of node. -/
structure CatalogEntry where
  /-- The kind. -/
  type : NodeType
  /-- The name for people. -/
  displayName : String
  /-- What nodes of the kind do. -/
  description : String
  /-- The group of the kind. -/
  category : String
  /-- The icon of a new node. -/
  icon : String
  /-- The input ports of a new node. -/
  inputs : List Port
  /-- The output ports of a new node. -/
  outputs : List Port
  /-- The configuration of a new node. -/
  defaultConfig : Fields
deriving Inhabited

namespace CatalogEntry

/-- The entry as data. -/
def toJson (entry : CatalogEntry) : Json :=
  .obj [
    ("type", .str entry.type.name),
    ("display_name", .str entry.displayName),
    ("description", .str entry.description),
    ("category", .str entry.category),
    ("icon", .str entry.icon),
    ("inputs", .arr (entry.inputs.map Port.toJson)),
    ("outputs", .arr (entry.outputs.map Port.toJson)),
    ("default_config", .obj entry.defaultConfig)]

/-- A port that carries any data. -/
def port (id label : String) : Port :=
  ⟨id, label, "JSON"⟩

/-- The ports of a node with one way in. -/
def oneInput : List Port := [port "in" "In"]

/-- The ports of a node with one way out. -/
def oneOutput : List Port := [port "out" "Out"]

/-- The entry of a trigger. -/
def trigger (type : NodeType) (displayName description icon : String) (config : Fields) :
    CatalogEntry :=
  ⟨type, displayName, description, "trigger", icon, [], oneOutput, config⟩

/-- The entry of a kind with one way in and one way out. -/
def plain (type : NodeType) (displayName description category icon : String) (config : Fields) :
    CatalogEntry :=
  ⟨type, displayName, description, category, icon, oneInput, oneOutput, config⟩

end CatalogEntry

namespace NodeType

open CatalogEntry

/-- The entry of a kind. -/
def entry : NodeType → CatalogEntry
  | manual =>
    trigger manual "Manual Trigger" "Start a run by hand with a sample input" "play"
      [("sample_input", .obj [])]
  | webhook =>
    trigger webhook "Webhook Trigger" "Start a run from an inbound HTTP request" "webhook" [
      ("path", .str "/inbound"),
      ("method", .str "POST"),
      ("secret_required", .bool true),
      ("sample_payload", .obj [])]
  | timer =>
    trigger timer "Schedule Trigger" "Start a run on a cron schedule (modelled, not scheduled)"
      "clock" [
      ("timezone", .str "UTC"),
      ("cron", .str "0 9 * * *"),
      ("payload", .obj [])]
  | upload =>
    trigger upload "File Upload Trigger" "Start a run when a file is uploaded" "upload" [
      ("accepted_types", .strs ["application/pdf", "text/plain"]),
      ("max_size_mb", .int 10),
      ("purpose", .str "automation-input")]
  | summarize =>
    plain summarize "Summarize" "Summarize the input text or record" "ai" "file-text" [
      ("input_path", .str "$.input"),
      ("style", .str "concise"),
      ("bullets", .bool true),
      ("output_key", .str "summary"),
      ("instructions", .str "Summarize the input.")]
  | classify =>
    plain classify "Classify" "Classify the input into one of the configured labels" "ai" "tags" [
      ("input_path", .str "$.input"),
      ("labels", .strs ["high", "medium", "low"]),
      ("output_key", .str "label"),
      ("confidence_key", .str "confidence"),
      ("instructions", .str "Classify the input.")]
  | extract =>
    plain extract "Extract Fields" "Extract structured fields from the input" "ai" "list-checks" [
      ("input_path", .str "$.input"),
      ("fields", .arr [.obj [
        ("key", .str "field_1"), ("type", .str "string"), ("required", .bool false)]]),
      ("output_key", .str "extracted"),
      ("instructions", .str "Extract structured fields.")]
  | report =>
    plain report "Generate Report" "Generate a report, checklist or SOP from the input" "ai"
      "file-bar-chart" [
      ("template", .str "Checklist"),
      ("input_path", .str "$.input"),
      ("format", .str "markdown"),
      ("output_key", .str "report"),
      ("instructions", .str "Generate a concise checklist.")]
  | condition => {
      type := condition
      displayName := "Condition"
      description := "Branch on a comparison expression (true/false outputs)"
      category := "logic"
      icon := "git-branch"
      inputs := oneInput
      outputs := [port "true" "True", port "false" "False"]
      defaultConfig := [("expression", .str "$.score > 0.8"), ("default_output", .str "false")] }
  | delay =>
    plain delay "Delay" "Mark a delay between steps" "logic" "hourglass" [
      ("seconds", .int 30),
      ("reason", .str "Rate limiting")]
  | save =>
    plain save "Save to DB" "Save a record built from the run context" "output" "database" [
      ("table", .str "va_items"),
      ("mode", .str "insert"),
      ("mapping", .obj [("payload", .str "$.input")])]
  | exporter =>
    plain exporter "Export" "Export data as JSON or CSV" "output" "download" [
      ("format", .str "json"),
      ("input_path", .str "$.input"),
      ("filename", .str "export.json")]

/-- A new node of a kind. -/
def fresh (type : NodeType) (id : String) (position : Position) : Node where
  id := id
  type := type
  name := type.entry.displayName
  position := position
  inputs := type.entry.inputs
  outputs := type.entry.outputs
  config := type.entry.defaultConfig
  ui := ⟨type.entry.icon, "neutral"⟩

@[simp] theorem entry_type (type : NodeType) : type.entry.type = type := by
  cases type <;> rfl

/-- New triggers have no way in, and all other new nodes have one. -/
theorem entry_inputs_isEmpty (type : NodeType) : type.entry.inputs.isEmpty = type.isTrigger := by
  cases type <;> rfl

end NodeType

/-- The kind of a name that is given as data; it must stand in the catalog. -/
def NodeType.named (name : Json) : Except Fault NodeType := do
  let key ← name.key.mapError Fault.raw
  match key.str?.bind NodeType.ofName? with
  | some type => pure type
  | none => throw (.unknownType name)

/-- All entries, in the order of the catalog. -/
def catalog : List CatalogEntry :=
  NodeType.all.map NodeType.entry

end Flowgraph
