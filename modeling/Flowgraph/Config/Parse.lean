import Flowgraph.Config.Basic
import Flowgraph.Config.Lax
import Flowgraph.Document.Shape
import Flowgraph.Json.Spelled
import Flowgraph.Text.Lower

/-!
# Reading configurations

The configuration that the fields of a node hold. Reading fields never fails: every field is read
by itself, and where its value cannot be used the default stands.

## Main definitions

* `Settings.ofFields`: the settings of a kind.
* `Config.ofFields`: the configuration of a kind.
* `Config.ofJson`: the same for data that may be no object.
-/

namespace Flowgraph

namespace Settings

/-- A text field. -/
def text (fields : Fields) (name default : String) : String :=
  ((fields.get? name).bind Json.str?).getD default

/-- A text field that may be absent. -/
def optionalText (fields : Fields) (name : String) : Option String :=
  (fields.get? name).bind Json.str?

/-- A truth value. -/
def flag (fields : Fields) (name : String) (default : Bool) : Bool :=
  ((fields.get? name).bind fun v => (Lax.flag v).toOption).getD default

/-! ### Fields to extract -/

/-- A text of a field to extract: any value is spelled out, `null` counts as absent. -/
def spelled (fields : Fields) (name default : String) : String :=
  match fields.get? name with
  | none => default
  | some .null => default
  | some v => v.spell

/-- A field to extract; a value that is no object is a field of defaults. -/
def fieldSpec (v : Json) : FieldSpec :=
  match v with
  | .obj fields => {
      key := spelled fields "key" "field"
      type := spelled fields "type" "string"
      required := ((Fields.get? fields "required").map Json.isTruthy).getD false }
  | _ => {}

/-! ### Single settings -/

/-- The labels: the texts of a list. -/
def labels (fields : Fields) : List String :=
  (((fields.get? "labels").bind Json.arr?).getD []).filterMap Json.str?

/-- The condition: any value is spelled out, `null` counts as absent. -/
def expression (fields : Fields) : String :=
  spelled fields "expression" ""

/-- The table: its name without blanks around it, if anything is left. -/
def table (fields : Fields) (default : String) : String :=
  match (fields.get? "table").bind Json.str? with
  | none => default
  | some s =>
    let name := Text.strip s.toList
    if name.isEmpty then default else String.ofList name

/-- The format of a file: a table if the word says so, case and blanks aside, else data text. -/
def fileFormat (fields : Fields) : FileFormat :=
  match (fields.get? "format").bind Json.str? with
  | some s => if Text.lower (Text.strip s.toList) = "csv".toList then .csv else .json
  | none => .json

/-! ### Settings by kind -/

/-- The names of the fields that a kind knows. -/
def knownNames (type : Option NodeType) : List String :=
  match type with
  | some .manual => ["sample_input", "sample_payload", "payload"]
  | some .webhook => ["sample_input", "sample_payload", "payload"]
  | some .timer => ["sample_input", "sample_payload", "payload"]
  | some .upload => ["sample_input", "sample_payload", "payload"]
  | some .summarize => ["input_path", "output_key", "style", "bullets", "instructions"]
  | some .classify => ["input_path", "labels", "output_key", "confidence_key", "instructions"]
  | some .extract => ["input_path", "fields", "output_key", "instructions"]
  | some .report => ["input_path", "output_key", "template", "format", "instructions"]
  | some .condition => ["expression", "default_output"]
  | some .delay => ["seconds", "reason"]
  | some .save => ["table", "mode", "mapping"]
  | some .exporter => ["input_path", "format", "filename"]
  | none => []

/-- The settings of a trigger. -/
def triggerOf (fields : Fields) : TriggerSettings where
  sampleInput := fields.getD "sample_input"
  samplePayload := fields.getD "sample_payload"
  payload := fields.getD "payload"

/-- The settings of a summary. -/
def summarizeOf (fields : Fields) : SummarizeSettings :=
  let default : SummarizeSettings := {}
  { inputPath := text fields "input_path" default.inputPath
    outputKey := text fields "output_key" default.outputKey
    style := text fields "style" default.style
    bullets := flag fields "bullets" default.bullets
    instructions := text fields "instructions" default.instructions }

/-- The settings of a classification. -/
def classifyOf (fields : Fields) : ClassifySettings :=
  let default : ClassifySettings := {}
  { inputPath := text fields "input_path" default.inputPath
    labels := labels fields
    outputKey := text fields "output_key" default.outputKey
    confidenceKey := text fields "confidence_key" default.confidenceKey
    instructions := text fields "instructions" default.instructions }

/-- The settings of an extraction. -/
def extractOf (fields : Fields) : ExtractSettings :=
  let default : ExtractSettings := {}
  { inputPath := text fields "input_path" default.inputPath
    fields := (((fields.get? "fields").bind Json.arr?).getD []).map fieldSpec
    outputKey := text fields "output_key" default.outputKey
    instructions := text fields "instructions" default.instructions }

/-- The settings of a report. -/
def reportOf (fields : Fields) : ReportSettings :=
  let default : ReportSettings := {}
  { inputPath := text fields "input_path" default.inputPath
    outputKey := text fields "output_key" default.outputKey
    template := text fields "template" default.template
    format := text fields "format" default.format
    instructions := text fields "instructions" default.instructions }

/-- The settings of a branch. -/
def conditionOf (fields : Fields) : ConditionSettings where
  expression := expression fields
  defaultOutput := optionalText fields "default_output"

/-- The settings of a delay. -/
def delayOf (fields : Fields) : DelaySettings where
  seconds := ((fields.get? "seconds").bind Lax.number?).getD (.int 0)
  reason := optionalText fields "reason"

/-- The settings of a record to save. -/
def saveOf (fields : Fields) : SaveSettings :=
  let default : SaveSettings := {}
  { table := table fields default.table
    mode := text fields "mode" default.mode
    mapping := ((fields.get? "mapping").bind Json.obj?).getD [] }

/-- The settings of a file to write. -/
def exporterOf (fields : Fields) : ExportSettings :=
  let default : ExportSettings := {}
  { inputPath := text fields "input_path" default.inputPath
    format := fileFormat fields
    filename := optionalText fields "filename" }

/-- The settings of a kind. -/
def ofFields (type : Option NodeType) (fields : Fields) : Settings :=
  match type with
  | some .manual => trigger (triggerOf fields)
  | some .webhook => trigger (triggerOf fields)
  | some .timer => trigger (triggerOf fields)
  | some .upload => trigger (triggerOf fields)
  | some .summarize => summarize (summarizeOf fields)
  | some .classify => classify (classifyOf fields)
  | some .extract => extract (extractOf fields)
  | some .report => report (reportOf fields)
  | some .condition => condition (conditionOf fields)
  | some .delay => delay (delayOf fields)
  | some .save => save (saveOf fields)
  | some .exporter => exporter (exporterOf fields)
  | none => unknown

/-- The name of the settings of a kind. -/
def title (type : Option NodeType) : String :=
  match type with
  | some .manual => "TriggerConfig"
  | some .webhook => "TriggerConfig"
  | some .timer => "TriggerConfig"
  | some .upload => "TriggerConfig"
  | some .summarize => "SummarizeConfig"
  | some .classify => "ClassifyConfig"
  | some .extract => "ExtractFieldsConfig"
  | some .report => "GenerateReportConfig"
  | some .condition => "ConditionConfig"
  | some .delay => "DelayConfig"
  | some .save => "DbSaveConfig"
  | some .exporter => "ExportConfig"
  | none => "NodeConfig"

end Settings

namespace Config

/-- The configuration of a kind. -/
def ofFields (type : Option NodeType) (fields : Fields) : Config where
  settings := Settings.ofFields type fields
  extras := fields.filter fun field => !(Settings.knownNames type).contains field.1

/-- The configuration of a kind that data holds; anything but an object is a violation. -/
def ofJson (type : Option NodeType) (v : Json) : Except (List String) Config :=
  let checked := Checked.fitting Shape.hasPlainNames .halfText
    (Shape.part (Settings.title type) .ok v)
  (checked.map (ofFields type)).report .data

end Config

end Flowgraph
