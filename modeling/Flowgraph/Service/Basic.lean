import Flowgraph.Edit.Change
import Flowgraph.Moment.Stamp
import Flowgraph.Store.Records
import Flowgraph.Store.Runs
import Flowgraph.Store.Workflows

/-!
# Services

What users of the library ask for: to keep workflows, to change them and to run them. A service
works on a world, which is the database, the count of names given out and whatever state the
language model has.

## Main definitions

* `World`: what services work on.
* `ServiceError`: why a service refuses.
* `StoredWorkflow`: a row of the database with its document.
-/

namespace Flowgraph

/-- What services work on. -/
structure World (τ : Type) where
  /-- The database. -/
  database : Database := {}
  /-- How many names have been given out. -/
  issued : Nat := 0
  /-- The state of the language model. -/
  model : τ

namespace World

variable {τ : Type}

/-- The world with another database. -/
def withDatabase (w : World τ) (db : Database) : World τ :=
  { w with database := db }

/-- A new name. -/
def issue (w : World τ) : String × World τ :=
  (RowId.write (w.issued + 1), { w with issued := w.issued + 1 })

end World

/-- Why a service refuses. -/
inductive ServiceError where
  /-- The document breaks rules. -/
  | invalid (errors : List String)
  /-- There is no such workflow. -/
  | unknownWorkflow (id : String)
  /-- There is no such run. -/
  | unknownRun (id : String)
  /-- There is a row of this name already. -/
  | nameTaken (id : String)
  /-- A value cannot stand in its column. -/
  | column (error : ColumnError)
  /-- An earlier change has failed and has not been taken back. -/
  | blocked
  /-- A stored definition does not have the shape of a document. -/
  | unreadable (errors : List String)
  /-- The workflow has been run as often in this month as it may be. -/
  | limitReached (limit : Int) (since : Stamp)
  /-- The command cannot be carried out. -/
  | refused (refusal : EditRefusal)
  /-- The run cannot begin. -/
  | unstartable (error : RunError)
  /-- No document could be generated. -/
  | ungenerated (errors : List String)
  /-- A fault of a number or a collaborator. -/
  | fault (fault : Fault)

/-- The wording of a refusal. -/
def ServiceError.message : ServiceError → String
  | invalid _ => "Workflow document failed validation"
  | unknownWorkflow id => "Workflow not found: " ++ id
  | unknownRun id => "Run not found: " ++ id
  | nameTaken id => "Name taken: " ++ id
  | column error => error.message
  | blocked => RecordError.blocked.message
  | unreadable errors => "\n".intercalate errors
  | limitReached _ _ => "Monthly run limit reached"
  | refused refusal => refusal.message
  | unstartable error => error.message
  | ungenerated _ => "Failed to generate valid workflow JSON"
  | fault f => f.text

/-- A row of the database with its document. -/
structure StoredWorkflow where
  /-- The row. -/
  row : WorkflowRow
  /-- The document. -/
  document : Document
deriving Inhabited

namespace StoredWorkflow

/-- The workflow of a row. -/
def ofRow (row : WorkflowRow) : Except ServiceError StoredWorkflow :=
  match row.document with
  | .ok document => .ok ⟨row, document⟩
  | .error errors => .error (.unreadable errors)

/-- The workflows of some rows. -/
def ofRows : List WorkflowRow → Except ServiceError (List StoredWorkflow)
  | [] => .ok []
  | row :: rest => do
    let first ← ofRow row
    let others ← ofRows rest
    pure (first :: others)

/-- All that is known of a stored workflow, as data. -/
def detail (s : StoredWorkflow) : Json :=
  .obj [
    ("id", .str s.row.id),
    ("name", .str s.row.name),
    ("description", .str s.row.description),
    ("tags", .strs s.row.tags),
    ("prompt", .ofOption s.row.prompt),
    ("document", s.document.toJson),
    ("created_at", .str s.row.createdAt.write),
    ("updated_at", .str s.row.updatedAt.write)]

/-- What a list tells of a stored workflow, as data. -/
def summary (s : StoredWorkflow) : Json :=
  .obj [
    ("id", .str s.row.id),
    ("name", .str s.row.name),
    ("description", .str s.row.description),
    ("tags", .strs s.row.tags),
    ("node_count", .int s.document.workflow.nodes.length),
    ("created_at", .str s.row.createdAt.write),
    ("updated_at", .str s.row.updatedAt.write)]

end StoredWorkflow
end Flowgraph
