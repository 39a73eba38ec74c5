import Flowgraph.Run.Walk
import Flowgraph.Service.Workflows

/-!
# Running stored workflows

A stored workflow may be run so many times a month. Every run that comes to an end is recorded,
also one in which a node failed. A document that is not stored can be run as well, without effects
and without a record.

## Main definitions

* `RunPolicy`: how often and in which mode workflows are run, how many runs are kept, and how
  deeply nested values may be.
* `World.runWorkflow`: runs a stored workflow.
* `World.simulate`: runs a document that is not stored.
-/

namespace Flowgraph

/-- How workflows are run. -/
structure RunPolicy where
  /-- The mode where none is asked for. -/
  mode : String := "simulate"
  /-- How many runs of a workflow there may be in a month. -/
  monthlyLimit : Int := 500
  /-- How many runs are kept. -/
  maxRecords : Json := .int 500
  /-- The table in which nodes save records. -/
  saveTable : String := "va_items"
  /-- How many levels of a value a run can copy. Each takes two calls, and those below the run
  count as well; a value that stands in several places counts as if it were written out. -/
  copyLevels : Nat := 490

/-! ### Effects on the world -/

namespace World

variable {τ : Type}

/-- The name of the kind of a reason why a row cannot be stored. -/
def recordErrorKind : RecordError → String
  | .unknownTable _ => "NodeExecutionError"
  | .ownName _ => "TypeError"
  | .ownSelf => "TypeError"
  | .notObject _ _ => "TypeError"
  | .ownMoment => "StatementError"
  | .column e => e.kind
  | .blocked => "PendingRollbackError"

/-- A row that cannot be stored, as the fault of a collaborator. -/
def recordFault : RecordError → Fault
  | .unknownTable table => .node (RecordError.unknownTable table).message none
  | e => .foreign (recordErrorKind e) e.message

/-- Stores a row under a new name. No name is given out for a table that is not there, but one is
for a row that cannot be stored. -/
def insertRecord (table : String) (values : Fields) (w : World τ) :
    Except RecordError String × World τ :=
  let (id, w') := if Record.isTable table then w.issue else ("", w)
  let (result, db) := w'.database.insertRecord table id values
  (result.map fun _ => id, w'.withDatabase db)

/-- Stores a row that is given as data under a new name; it must be an object. -/
def insertData (table : String) (row : Json) (w : World τ) : Except RecordError String × World τ :=
  match row with
  | .obj values => insertRecord table values w
  | v =>
    match Record.modelOf? table with
    | none => (.error (.unknownTable table), w)
    | some model => (.error (.notObject model v.kindName), w.issue.2)

/-- A language model and the tables of the world as collaborators. -/
def collaborators (policy : RunPolicy) (complete : Prompt → Effect τ String) :
    Collaborators (World τ) where
  saveTable := policy.saveTable
  complete := fun p w =>
    match complete p w.model with
    | (answer, model) => (answer, { w with model := model })
  insert := fun table values w =>
    match insertRecord table values w with
    | (.ok id, w') => (.ok id, w')
    | (.error e, w') => (.error (recordFault e), w')

/-- The effects of a mode. -/
def backend (policy : RunPolicy) (complete : Prompt → Effect τ String) (mode workflowId : String) :
    Backend (World τ) :=
  if mode = "live" then .live (collaborators policy complete) workflowId else .simulated

/-! ### Runs -/

/-- The mode of a run: the one asked for, unless that is empty. -/
def chosenMode (policy : RunPolicy) : Option String → String
  | none => policy.mode
  | some mode => if mode.isEmpty then policy.mode else mode

/-- Whether a workflow may be run once more in the month of a moment. -/
def mayRun (db : Database) (policy : RunPolicy) (id : String) (now : Moment) : Bool :=
  decide ((db.countRuns id now.monthStart : Int) < policy.monthlyLimit)

/-- A reason why there is no finished run, as that of a service. -/
def runFailure : RunError → ServiceError
  | .uncopied => .fault (.data .copyTooDeep)
  | e => .unstartable e

/-- A run under a new name, with the effects of a mode. -/
def runDocument (policy : RunPolicy) (complete : Prompt → Effect τ String)
    (mode workflowId : String) (d : Document) (input : Json) (w : World τ) :
    Except ServiceError Run × World τ :=
  let (name, w') := w.issue
  let (result, w'') :=
    d.workflow.run NodeType.all (backend policy complete mode workflowId) Listener.silent
      (Json.isWithin policy.copyLevels) name input w'
  (result.mapError runFailure, w'')

/-- Whether a run can be written into its row, which holds all that a run keeps. -/
def isWritable (run : Run) : Bool :=
  run.isCopied Json.isWritable

/-- A run recorded, if the number of runs that are kept can be compared and counted. One that cannot
be written blocks the database. -/
def record (policy : RunPolicy) (mode : String) (now : Moment) (run : Run) (w : World τ) :
    Except ServiceError Run × World τ :=
  if isWritable run then
    let (kept, db) := w.database.recordRun policy.maxRecords ⟨run, "run-" ++ mode, now⟩
    (match kept with
      | .ok () => .ok run
      | .error e => .error (.fault (.raw e)), w.withDatabase db)
  else
    (.error (.fault (recordFault (.column .tooManyDigits))), w.withDatabase w.database.block)

/-- Runs a stored workflow and records the run. -/
def runWorkflow (policy : RunPolicy) (complete : Prompt → Effect τ String) (now : Stamp)
    (id : String) (input : Json) (asked : Option String) (w : World τ) :
    Except ServiceError Run × World τ :=
  match w.database.stored id with
  | .error e => (.error e, w)
  | .ok s =>
    if mayRun w.database policy id now.moment then
      let mode := chosenMode policy asked
      match runDocument policy complete mode id s.document input w with
      | (.error e, w') => (.error e, w')
      | (.ok run, w') => record policy mode now.moment run w'
    else (.error (.limitReached policy.monthlyLimit now.monthStart), w)

/-- Runs a document that is not stored, without effects and without a record. -/
def simulate (policy : RunPolicy) (complete : Prompt → Effect τ String) (data input : Json)
    (w : World τ) : Except ServiceError Run × World τ :=
  match Document.check data with
  | .error errors => (.error (.invalid errors), w)
  | .ok d => runDocument policy complete "simulate" d.workflow.id d input w

end World

/-! ### Runs as data -/

namespace Step

/-- A step as data, with the moment at which it was made. -/
def report (step : Step) (moment : Moment) : Json :=
  let time : Json := .str moment.writeUniversal
  .obj [
    ("node_id", .str step.node.id),
    ("node_name", .str step.node.name),
    ("node_type", .str step.node.type.name),
    ("status", .str (statusName step.isFailed)),
    ("started_at", time),
    ("finished_at", time),
    ("duration_ms", .int 0),
    ("selected_output_port", .ofOption step.selectedPort),
    ("next_node_ids", .strs step.next),
    ("input", .obj step.input),
    ("output", .obj step.output),
    ("error", .ofOption step.error?),
    ("fallback_used", .bool step.fallbackUsed)]

end Step

namespace Run

/-- The answer to whoever started a run, as data. -/
def reply (run : Run) : Json :=
  match run.error? with
  | some error => .obj [
      ("ok", .bool false),
      ("run_id", .str run.id),
      ("output_json", .null),
      ("steps_count", .null),
      ("error", .str "Run failed"),
      ("details", .str error)]
  | none => .obj [
      ("ok", .bool true),
      ("run_id", .str run.id),
      ("output_json", .obj run.output),
      ("steps_count", .int run.steps.length),
      ("error", .null),
      ("details", .null)]

/-- Everything about a run that is not recorded, as data. -/
def trace (run : Run) (moment : Moment) : Json :=
  .obj [
    ("run_id", .str run.id),
    ("status", .str run.status),
    ("mode", .str run.mode),
    ("output_json", .obj run.output),
    ("steps", .arr (run.steps.map fun step => step.report moment)),
    ("error", .ofOption run.error?)]

end Run

namespace RunRow

/-- What a list tells of a recorded run, as data. -/
def summary (row : RunRow) : Json :=
  .obj [
    ("id", .str row.run.id),
    ("workflow_id", .str row.run.workflowId),
    ("status", .str row.run.status),
    ("mode", .str row.run.mode),
    ("created_at", .str row.createdAt.write),
    ("steps_count", .int row.run.steps.length),
    ("error", .ofOption row.run.error?)]

/-- What the run was started by and with, as data. -/
def input (row : RunRow) : Json :=
  .obj [("source", .str row.source), ("payload", row.run.initialInput)]

/-- Everything about a recorded run, as data. -/
def detail (row : RunRow) : Json :=
  .obj [
    ("id", .str row.run.id),
    ("workflow_id", .str row.run.workflowId),
    ("status", .str row.run.status),
    ("mode", .str row.run.mode),
    ("input_json", row.input),
    ("output_json", .obj row.run.output),
    ("steps", .arr (row.run.steps.map fun step => step.report row.createdAt)),
    ("error", .ofOption row.run.error?),
    ("created_at", .str row.createdAt.write),
    ("finished_at", .str row.createdAt.write)]

end RunRow

namespace Database

/-- The recorded run of a name. -/
def recordedRun (db : Database) (id : String) : Except ServiceError RunRow := do
  db.reach
  match db.run? id with
  | some row => .ok row
  | none => .error (.unknownRun id)

/-- The recorded runs of a workflow or, if none is named, all of them. -/
def recordedRuns (db : Database) (workflowId : String) : Except ServiceError (List RunRow) := do
  db.reach
  pure (db.listRuns workflowId)

/-- How many runs of a workflow have been recorded since a moment. -/
def recordedCount (db : Database) (workflowId : String) (since : Moment) :
    Except ServiceError Nat := do
  db.reach
  pure (db.countRuns workflowId since)

/-- The rows of a table that nodes write to. -/
def storedRecords (db : Database) (table : String) : Except ServiceError (List Json) := do
  db.reach
  pure (db.listRecords table)

end Database

end Flowgraph
