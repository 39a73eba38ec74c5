import Flowgraph.Service.Basic

/-!
# Keeping workflows

A document is checked before it is stored, and it is stored under the id of its workflow. Every
service gives its result, or the reason why there is none, and the database as it is afterwards.

## Main definitions

* `Database.createWorkflow`, `updateWorkflow`, `deleteWorkflow`: storing and removing.
* `Database.editWorkflow`: carrying out a command on a stored workflow.
* `Database.stored`, `Database.storedAll`: reading.
-/

namespace Flowgraph.Database

/-! ### Reading -/

/-- Whether the database can be read and changed. -/
def reach (db : Database) : Except ServiceError Unit :=
  if db.isBlocked then .error .blocked else .ok ()

/-- The row of a name, if the database can be read. -/
def reachWorkflow? (db : Database) (id : String) : Except ServiceError (Option WorkflowRow) := do
  db.reach
  pure (db.workflow? id)

/-- The stored workflow of a name. -/
def stored (db : Database) (id : String) : Except ServiceError StoredWorkflow := do
  match ← db.reachWorkflow? id with
  | none => .error (.unknownWorkflow id)
  | some row => StoredWorkflow.ofRow row

/-- All stored workflows, the one changed last in front. -/
def storedAll (db : Database) : Except ServiceError (List StoredWorkflow) := do
  db.reach
  StoredWorkflow.ofRows db.listWorkflows

/-! ### Single rows -/

/-- The row for a document. -/
def newRow (d : Document) (prompt : Json) (now : Moment) : Except ServiceError WorkflowRow := do
  let definition ← d.serialize.mapError fun e => .fault (.data e)
  let _ ← (Column.data? definition).mapError .column
  let request? ← (Column.text? prompt).mapError .column
  pure (WorkflowRow.ofDocument d request? now)

/-- Puts a document in without checking its rules. A row that cannot be written, or whose name is
taken, blocks the database. -/
def putDocument (db : Database) (d : Document) (prompt : Json) (now : Moment) :
    Except ServiceError StoredWorkflow × Database :=
  match newRow d prompt now, db.reach with
  | .error (.fault f), _ => (.error (.fault f), db)
  | _, .error e => (.error e, db)
  | .error e, _ => (.error e, db.block)
  | .ok row, .ok () =>
    if (db.workflow? row.id).isSome then
      (.error (.nameTaken row.id), db.block)
    else (StoredWorkflow.ofRow row, db.insertWorkflow row)

/-- Puts a document in the place of another without checking its rules, and gives nothing if there
is none of the name. Of a document that cannot leave only the names and tags are taken over, and one
that cannot be written blocks the database. -/
def exchangeDocument (db : Database) (id : String) (d : Document) (now : Moment) :
    Except ServiceError (Option StoredWorkflow) × Database :=
  match db.reachWorkflow? id with
  | .error e => (.error e, db)
  | .ok none => (.ok none, db)
  | .ok (some row) =>
    match d.serialize with
    | .error e => (.error (.fault (.data e)), db.retitleWorkflow id d)
    | .ok definition =>
      match Column.data? definition with
      | .error e => (.error (.column e), db.block)
      | .ok _ =>
        ((StoredWorkflow.ofRow (row.withDocument d now)).map some, db.replaceWorkflow id d now)

/-! ### Services -/

/-- Stores a document that keeps all rules under its own id. -/
def createWorkflow (db : Database) (data prompt : Json) (now : Moment) :
    Except ServiceError StoredWorkflow × Database :=
  match Document.check data with
  | .error errors => (.error (.invalid errors), db)
  | .ok d =>
    match db.reachWorkflow? d.workflow.id with
    | .error e => (.error e, db)
    | .ok (some _) =>
      (.error (.invalid [s!"workflow.id: Workflow {d.workflow.id} already exists."]), db)
    | .ok none => db.putDocument d prompt now

/-- The stored workflow, or the refusal where there was none to exchange. -/
def foundOr (id : String) :
    Except ServiceError (Option StoredWorkflow) × Database →
      Except ServiceError StoredWorkflow × Database
  | (.ok (some s), db) => (.ok s, db)
  | (.ok none, db) => (.error (.unknownWorkflow id), db)
  | (.error e, db) => (.error e, db)

/-- Stores a document that keeps all rules in the place of another of the same id. -/
def updateWorkflow (db : Database) (id : String) (data : Json) (now : Moment) :
    Except ServiceError StoredWorkflow × Database :=
  match db.stored id with
  | .error e => (.error e, db)
  | .ok _ =>
    match Document.check data with
    | .error errors => (.error (.invalid errors), db)
    | .ok d =>
      if d.workflow.id = id then foundOr id (db.exchangeDocument id d now)
      else
        let mismatch := s!"workflow.id: Document id {d.workflow.id} does not match {id}."
        (.error (.invalid [mismatch]), db)

/-- Removes a workflow. -/
def deleteWorkflow (db : Database) (id : String) : Except ServiceError Unit × Database :=
  match db.reachWorkflow? id with
  | .error e => (.error e, db)
  | .ok none => (.error (.unknownWorkflow id), db)
  | .ok (some _) => (.ok (), db.removeWorkflow id)

/-- What an edit gives once its outcome is stored. -/
def settleEdit (edited : Edited) :
    Except ServiceError (Option StoredWorkflow) × Database → Except ServiceError Edited × Database
  | (.ok _, db) => (.ok edited, db)
  | (.error e, db) => (.error e, db)

/-- What a command makes of a document, where the command must be a text. -/
def carryOut (d : Document) (command : Json) : Except ServiceError Edited := do
  let text ← (command.textFor "strip").mapError fun e => .fault (.raw e)
  let outcome ← (d.edit text).mapError fun e => .fault (.data e)
  outcome.mapError .refused

/-- Carries out a command on a stored workflow and stores the outcome. -/
def editWorkflow (db : Database) (id : String) (command : Json) (now : Moment) :
    Except ServiceError Edited × Database :=
  match db.stored id with
  | .error e => (.error e, db)
  | .ok s =>
    match carryOut s.document command with
    | .error e => (.error e, db)
    | .ok edited => settleEdit edited (db.exchangeDocument id edited.document now)

end Flowgraph.Database

namespace Flowgraph

/-- The answer to an edit, as data. -/
def Edited.toJson (e : Edited) : Json :=
  .obj [
    ("ok", .bool true),
    ("message", .str e.message),
    ("document", e.document.toJson),
    ("errors", .arr [])]

end Flowgraph
