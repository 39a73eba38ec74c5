import Flowgraph.Json.Basic
import Flowgraph.Moment
import Flowgraph.Run.Basic

/-!
# The database

Four tables: workflows, finished runs, and the two that nodes write to. A table keeps its rows in
the order in which they were put in.

## Main definitions

* `WorkflowRow`, `RunRow`, `ItemRow`, `ExportRow`: the rows.
* `Database`: the tables.
-/

namespace Flowgraph

/-- A stored workflow. -/
structure WorkflowRow where
  /-- The name of the row. -/
  id : String
  /-- The name for people. -/
  name : String
  /-- What the workflow is for. -/
  description : String
  /-- The request that the workflow was generated for. -/
  prompt : Option String
  /-- Tags for people. -/
  tags : List String
  /-- The document as data. -/
  definition : Json
  /-- When the row was put in. -/
  createdAt : Moment
  /-- When the row was last changed. -/
  updatedAt : Moment
deriving Inhabited

/-- A finished run. -/
structure RunRow where
  /-- The run. -/
  run : Run
  /-- What started the run. -/
  source : String
  /-- When the run was over. -/
  createdAt : Moment
deriving Inhabited

/-- A record that a node saved. -/
structure ItemRow where
  /-- The name of the row. -/
  id : String
  /-- The workflow. -/
  workflowId : String
  /-- The node. -/
  nodeId : String
  /-- The record. -/
  data : Json
deriving Inhabited

/-- A file that a node wrote. -/
structure ExportRow where
  /-- The name of the row. -/
  id : String
  /-- The workflow. -/
  workflowId : String
  /-- The node. -/
  nodeId : String
  /-- The format of the file. -/
  format : String
  /-- The name of the file. -/
  filename : String
  /-- The text of the file. -/
  content : String
  /-- The data that the file was written from. -/
  payload : Json
deriving Inhabited

/-- The tables. -/
structure Database where
  /-- The workflows. -/
  workflows : List WorkflowRow := []
  /-- The finished runs. -/
  runs : List RunRow := []
  /-- The saved records. -/
  items : List ItemRow := []
  /-- The written files. -/
  exports : List ExportRow := []
  /-- Whether a change has failed that has not been taken back. Until it is, nothing is read and
  nothing is changed. -/
  isBlocked : Bool := false
  /-- The workflows without changes that have not been made lasting, if there are such changes. -/
  lasting : Option (List WorkflowRow) := none
deriving Inhabited

namespace Database

/-- The database with all changes made lasting. -/
def keepChanges (db : Database) : Database :=
  { db with lasting := none }

/-- The database without the changes that have not been made lasting. -/
def takeBack (db : Database) : Database :=
  { db with workflows := db.lasting.getD db.workflows, lasting := none }

/-- The database after a change that has failed, until that is taken back. -/
def block (db : Database) : Database :=
  { db.takeBack with isBlocked := true }

/-- The database in which what has failed is taken back. -/
def recover (db : Database) : Database :=
  { db.takeBack with isBlocked := false }

end Database

/-! ### Rows as data -/

/-- A saved record as data. -/
def ItemRow.toJson (row : ItemRow) : Json :=
  .obj [
    ("id", .str row.id),
    ("workflow_id", .str row.workflowId),
    ("source_node_id", .str row.nodeId),
    ("data_json", row.data)]

/-- A written file as data. -/
def ExportRow.toJson (row : ExportRow) : Json :=
  .obj [
    ("id", .str row.id),
    ("workflow_id", .str row.workflowId),
    ("source_node_id", .str row.nodeId),
    ("format", .str row.format),
    ("filename", .str row.filename),
    ("content_text", .str row.content),
    ("payload_json", row.payload)]

/-- Rows from the latest to the earliest; rows of one moment stay in their order. -/
def latestFirst {α : Type} (moment : α → Moment) (rows : List α) : List α :=
  rows.mergeSort fun a b => decide (moment b ≤ moment a)

end Flowgraph
