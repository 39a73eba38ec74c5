import Flowgraph.Activity.Basic
import Flowgraph.Csv

/-!
# Records and files

Two kinds of nodes put something out. One builds a record from the context and saves it as a row of
the one table that may be written to; the other writes part of the context as text. Both leave a
description of what they did in the context, and store a row when effects are real.
-/

namespace Flowgraph.Activity

variable {σ : Type}

namespace Save

/-- The value of a field: a text that begins with the sign of the root is a path, and may lead
nowhere; any other value stands for itself. -/
def fieldValue (context : Fields) (value : Json) : Except DataError (Option Json) :=
  match value with
  | .str s =>
    if s.toList.head? = some '$' then Path.resolve (.obj context) s else .ok (some (.str s))
  | v => .ok (some v)

/-- The fields of a record, without those whose path leads nowhere. -/
def payload (context : Fields) : Fields → Except DataError Fields
  | [] => .ok []
  | (key, value) :: rest => do
    let value? ← fieldValue context value
    let others ← payload context rest
    pure (match value? with
      | some v => (key, v) :: others
      | none => others)

/-- The fault of a node whose row could not be stored. -/
def storeFault (activity nodeId : String) (fault : Fault) : Fault :=
  .node (activity ++ " failed: " ++ fault.text) (some nodeId)

/-- The description of a saved record. -/
def record (s : SaveSettings) (values : Fields) (id : Option String) : Fields :=
  [("would_save", .bool true), ("table", .str s.table), ("mode", .str s.mode),
    ("payload", .obj values)]
    ++ (match id with
      | some i => [("inserted_id", .str i)]
      | none => [])

/-- Saves the record and writes its description. -/
def run (backend : Backend σ) (nodeId : String) (s : SaveSettings) (context : Fields) :
    Effect σ Outcome := do
  if backend.isLive ∧ s.table ≠ backend.saveTable then
    Effect.fail (.node ("db_save unsupported table: " ++ s.table) (some nodeId))
  else do
    let values ← Effect.ofData (payload context s.mapping)
    let row : Fields := [("source_node_id", .str nodeId), ("data_json", .obj values)]
    let id ← (backend.insert s.table row).mapFault (storeFault "db_save" nodeId)
    pure { context := context.set "db_save" (.obj (record s values id)) }

end Save

namespace Export

/-- The table of written files. -/
def filesTable : String := "workflow_exports"

/-- The text of the data in a format. -/
def content (format : FileFormat) (data : Json) : String :=
  match format with
  | .csv => Csv.write data
  | .json => data.write Json.pretty

/-- The description of a written file. -/
def record (s : ExportSettings) (text : String) (id : Option String) : Fields :=
  [("format", .str s.format.name), ("filename", .str s.resolvedFilename), ("content", .str text)]
    ++ (match id with
      | some i => [("export_id", .str i)]
      | none => [])

/-- Writes the data as text, with its description. -/
def run (backend : Backend σ) (nodeId : String) (s : ExportSettings) (context : Fields) :
    Effect σ Outcome := do
  let data ← resolve context s.inputPath
  let text := content s.format data
  let row : Fields := [
    ("source_node_id", .str nodeId),
    ("format", .str s.format.name),
    ("filename", .str s.resolvedFilename),
    ("content_text", .str text),
    ("payload_json", data)]
  let id ← (backend.insert filesTable row).mapFault (Save.storeFault "export" nodeId)
  pure { context := context.set "export" (.obj (record s text id)) }

end Export
end Flowgraph.Activity
