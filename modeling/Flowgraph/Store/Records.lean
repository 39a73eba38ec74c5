import Flowgraph.Store.Column
import Flowgraph.Store.Database
import Flowgraph.Store.RowId

/-!
# The tables that nodes write to

A row is given as data. It must be complete: only the content of a record and the data of a file
may be left out. A row does not bring its own name, and the moment at which it is stored is not
for it to say.

## Main definitions

* `Database.insertRecord`: the database with one more row.
* `Database.listRecords`: the rows of a table.
-/

namespace Flowgraph

/-- Why a row cannot be stored. -/
inductive RecordError where
  /-- Nodes do not write to a table of this name. -/
  | unknownTable (table : String)
  /-- The row brings a name of its own. -/
  | ownName (model : String)
  /-- The row names the row itself. -/
  | ownSelf
  /-- The row is no object. -/
  | notObject (model kind : String)
  /-- The row says when it is stored. -/
  | ownMoment
  /-- A value cannot stand in its column. -/
  | column (error : ColumnError)
  /-- An earlier change has failed and has not been taken back. -/
  | blocked
deriving DecidableEq, Repr

/-- The name of a row within its own making. -/
def selfName : String := "__pydantic_self__"

/-- The wording of a reason. -/
def RecordError.message : RecordError → String
  | unknownTable table => "Unknown table: " ++ table
  | ownName model => s!"vyntra.db.models.{model}() got multiple values for keyword argument 'id'"
  | ownSelf => s!"__init__() got multiple values for argument '{selfName}'"
  | notObject model kind =>
    s!"vyntra.db.models.{model}() argument after ** must be a mapping, not {kind}"
  | ownMoment => "SQLite DateTime type only accepts Python datetime and date objects as input."
  | column error => error.message
  | blocked => "This Session's transaction has been rolled back due to a previous exception."

namespace Record

/-- The table of saved records. -/
def itemTable : String := "va_items"

/-- The table of written files. -/
def exportTable : String := "workflow_exports"

/-- The model of a table. -/
def modelOf? (table : String) : Option String :=
  if table = itemTable then some "ItemModel"
  else if table = exportTable then some "ExportModel"
  else none

/-- What stands in text columns, in order. -/
def texts? (values : Fields) : List String → Except ColumnError (List (Option String))
  | [] => .ok []
  | name :: names => do
    let text? ← Column.text? (values.getD name)
    let others ← texts? values names
    pure (text? :: others)

/-- What stands in text columns that must not be left empty. -/
def textColumns (values : Fields) (names : List String) : Except RecordError (List String) := do
  let texts ← (texts? values names).mapError .column
  if texts.all Option.isSome then pure texts.reduceOption else throw (.column .missing)

/-- A saved record from its columns. -/
def item (id : String) (values : Fields) : Except RecordError ItemRow := do
  let data ← (Column.data? ((values.get? "data_json").getD (.obj []))).mapError .column
  match ← textColumns values ["workflow_id", "source_node_id"] with
  | [workflowId, nodeId] => pure ⟨id, workflowId, nodeId, data⟩
  | _ => throw (.column .missing)

/-- A written file from its columns. -/
def file (id : String) (values : Fields) : Except RecordError ExportRow := do
  let payload ← (Column.data? (values.getD "payload_json")).mapError .column
  let names := ["workflow_id", "source_node_id", "format", "filename", "content_text"]
  match ← textColumns values names with
  | [workflowId, nodeId, format, filename, content] =>
    pure ⟨id, workflowId, nodeId, format, filename, content, payload⟩
  | _ => throw (.column .missing)

/-- Whether nodes write to a table. -/
def isTable (table : String) : Bool :=
  (modelOf? table).isSome

end Record

namespace Database

/-- The database with one more row of a name in a table, where nothing stands in the way but the
row itself. -/
def addRecord (db : Database) (table id : String) (values : Fields) :
    Except RecordError Database :=
  if values.getD "created_at" matches .null then
    if table = Record.itemTable then do
      let row ← Record.item id values
      pure { db with items := db.items ++ [row] }
    else do
      let row ← Record.file id values
      pure { db with exports := db.exports ++ [row] }
  else .error .ownMoment

/-- One more row of a name in a table, and the database as it is afterwards. An attempt that fails
at the database takes back what has failed before. -/
def insertRecord (db : Database) (table id : String) (values : Fields) :
    Except RecordError Unit × Database :=
  match Record.modelOf? table with
  | none => (.error (.unknownTable table), db)
  | some model =>
    if values.has "id" then (.error (.ownName model), db)
    else if values.has selfName then (.error .ownSelf, db)
    else if db.isBlocked then (.error .blocked, db.recover)
    else
      match db.addRecord table id values with
      | .ok db => (.ok (), db.keepChanges)
      | .error e => (.error e, db.recover)

/-- The rows of a table, in the order of their names. -/
def listRecords (db : Database) (table : String) : List Json :=
  if table = Record.itemTable then db.items.map ItemRow.toJson
  else if table = Record.exportTable then db.exports.map ExportRow.toJson
  else []

end Database
end Flowgraph
