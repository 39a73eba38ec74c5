import Flowgraph.Document.NodeType
import Flowgraph.Json.Basic

/-!
# Configurations

What a node of each kind is told. A configuration is complete and of the right kinds: where a
document leaves a field out or holds something unusable, the default stands. Fields that a kind
does not know are kept beside.

## Main definitions

* `Settings`: the settings of a node, by kind.
* `Config`: settings and the fields beside them.
* `Config.toFields`: the configuration as data.
-/

namespace Flowgraph

/-- A trigger: the samples from which a run may begin. -/
structure TriggerSettings where
  /-- The sample of a run started by hand. -/
  sampleInput : Json := .null
  /-- The sample of an inbound request. -/
  samplePayload : Json := .null
  /-- The payload of the clock. -/
  payload : Json := .null
deriving Inhabited

/-- How to summarize. -/
structure SummarizeSettings where
  /-- Where the input is found. -/
  inputPath : String := "$.input"
  /-- Where the summary goes. -/
  outputKey : String := "summary"
  /-- The style of the text. -/
  style : String := "concise"
  /-- Whether bullets are asked for. -/
  bullets : Bool := false
  /-- The task. -/
  instructions : String := "Summarize the input."
deriving DecidableEq, Repr

/-- How to classify. -/
structure ClassifySettings where
  /-- Where the input is found. -/
  inputPath : String := "$.input"
  /-- The labels to choose from. -/
  labels : List String := []
  /-- Where the label goes. -/
  outputKey : String := "label"
  /-- Where the confidence goes. -/
  confidenceKey : String := "confidence"
  /-- The task. -/
  instructions : String := "Classify the input into one label."
deriving DecidableEq, Repr

/-- A field to extract. -/
structure FieldSpec where
  /-- The name of the field. -/
  key : String := "field"
  /-- The name of its type. -/
  type : String := "string"
  /-- Whether the field is required; this is told to the model only. -/
  required : Bool := false
deriving DecidableEq, Repr

/-- What to extract. -/
structure ExtractSettings where
  /-- Where the input is found. -/
  inputPath : String := "$.input"
  /-- The fields. -/
  fields : List FieldSpec := []
  /-- Where the record goes. -/
  outputKey : String := "extracted"
  /-- The task. -/
  instructions : String := "Extract structured fields from the input."
deriving DecidableEq, Repr

/-- How to report. -/
structure ReportSettings where
  /-- Where the input is found. -/
  inputPath : String := "$.input"
  /-- Where the report goes. -/
  outputKey : String := "report"
  /-- The kind of report. -/
  template : String := "Report"
  /-- The format of the text. -/
  format : String := "markdown"
  /-- The task. -/
  instructions : String := "Generate a concise report from the input."
deriving DecidableEq, Repr

/-- How to branch. -/
structure ConditionSettings where
  /-- The condition. -/
  expression : String := ""
  /-- The output taken when the condition does not hold. -/
  defaultOutput : Option String := none
deriving DecidableEq, Repr

/-- How long to wait. -/
structure DelaySettings where
  /-- The seconds, an integer or a double. -/
  seconds : Json := .int 0
  /-- The reason for people. -/
  reason : Option String := none
deriving Inhabited

/-- What to save. -/
structure SaveSettings where
  /-- The table. -/
  table : String := "va_items"
  /-- How to save. -/
  mode : String := "insert"
  /-- The fields of the record: paths into the context, or values. -/
  mapping : Fields := []
deriving Inhabited

/-- The format of a file. -/
inductive FileFormat where
  /-- Data text. -/
  | json
  /-- A table with commas. -/
  | csv
deriving DecidableEq, Repr

/-- The name of a format, which is also the ending of a file's name. -/
def FileFormat.name : FileFormat → String
  | json => "json"
  | csv => "csv"

/-- What to write out. -/
structure ExportSettings where
  /-- Where the data is found. -/
  inputPath : String := "$.input"
  /-- The format of the file. -/
  format : FileFormat := .json
  /-- The name of the file. -/
  filename : Option String := none
deriving DecidableEq, Repr

/-- The settings of a node, by kind. -/
inductive Settings where
  /-- A trigger. -/
  | trigger (s : TriggerSettings)
  /-- A summary. -/
  | summarize (s : SummarizeSettings)
  /-- A classification. -/
  | classify (s : ClassifySettings)
  /-- An extraction. -/
  | extract (s : ExtractSettings)
  /-- A report. -/
  | report (s : ReportSettings)
  /-- A branch. -/
  | condition (s : ConditionSettings)
  /-- A delay. -/
  | delay (s : DelaySettings)
  /-- A record to save. -/
  | save (s : SaveSettings)
  /-- A file to write. -/
  | exporter (s : ExportSettings)
  /-- A node of an unknown kind. -/
  | unknown
deriving Inhabited

/-- Settings and the fields beside them. -/
structure Config where
  /-- The settings. -/
  settings : Settings
  /-- The fields that the kind does not know, in order. -/
  extras : Fields
deriving Inhabited

/-! ### Derived values -/

/-- The first sample that is there, else an empty object. -/
def TriggerSettings.initialPayload (s : TriggerSettings) : Json :=
  match s.sampleInput, s.samplePayload, s.payload with
  | .null, .null, .null => .obj []
  | .null, .null, p => p
  | .null, p, _ => p
  | p, _, _ => p

/-- The name of the file, by default one with the ending of the format. -/
def ExportSettings.resolvedFilename (s : ExportSettings) : String :=
  s.filename.getD ("export." ++ s.format.name)

/-! ### Configurations as data -/

/-- A field to extract as data. -/
def FieldSpec.toJson (spec : FieldSpec) : Json :=
  .obj [("key", .str spec.key), ("type", .str spec.type), ("required", .bool spec.required)]

/-- The settings as data. -/
def Settings.toFields : Settings → Fields
  | trigger s => [
    ("sample_input", s.sampleInput), ("sample_payload", s.samplePayload), ("payload", s.payload)]
  | summarize s => [
    ("input_path", .str s.inputPath), ("output_key", .str s.outputKey), ("style", .str s.style),
    ("bullets", .bool s.bullets), ("instructions", .str s.instructions)]
  | classify s => [
    ("input_path", .str s.inputPath), ("labels", .strs s.labels), ("output_key", .str s.outputKey),
    ("confidence_key", .str s.confidenceKey), ("instructions", .str s.instructions)]
  | extract s => [
    ("input_path", .str s.inputPath), ("fields", .arr (s.fields.map FieldSpec.toJson)),
    ("output_key", .str s.outputKey), ("instructions", .str s.instructions)]
  | report s => [
    ("input_path", .str s.inputPath), ("output_key", .str s.outputKey),
    ("template", .str s.template), ("format", .str s.format), ("instructions", .str s.instructions)]
  | condition s => [
    ("expression", .str s.expression), ("default_output", .ofOption s.defaultOutput)]
  | delay s => [("seconds", s.seconds), ("reason", .ofOption s.reason)]
  | save s => [("table", .str s.table), ("mode", .str s.mode), ("mapping", .obj s.mapping)]
  | exporter s => [
    ("input_path", .str s.inputPath), ("format", .str s.format.name),
    ("filename", .ofOption s.filename)]
  | unknown => []

/-- The configuration as data. -/
def Config.toFields (c : Config) : Fields :=
  c.settings.toFields ++ c.extras

end Flowgraph
