import Flowgraph.Json.Raw
import Flowgraph.Store.Database

/-!
# The table of runs

Finished runs are kept up to a number of them, and the earliest give way to later ones.

## Main definitions

* `Database.run?`: the run of a name.
* `Database.recordRun`: one more run, and the earliest ones gone.
* `Database.listRuns`, `Database.countRuns`: the runs, latest first, and how many there are.
-/

namespace Flowgraph

/-- The first rows, as many as are to be kept. With a negative number that many are dropped at
the end. -/
def keepFirst {α : Type} (count : Int) (rows : List α) : List α :=
  if 0 ≤ count then rows.take count.toNat else rows.take (rows.length - (-count).toNat)

namespace Database

/-- The run of a name. -/
def run? (db : Database) (id : String) : Option RunRow :=
  db.runs.find? fun row => row.run.id == id

/-- All runs, the latest in front; of one moment those that were put in last. -/
def allRuns (db : Database) : List RunRow :=
  latestFirst RunRow.createdAt db.runs.reverse

/-- The runs of a workflow, the latest in front; of one moment those that were put in first. -/
def runsOf (db : Database) (workflowId : String) : List RunRow :=
  latestFirst RunRow.createdAt (db.runs.filter fun row => row.run.workflowId == workflowId)

/-- The runs of a workflow or, if none is named, of all. -/
def listRuns (db : Database) (workflowId : String) : List RunRow :=
  if workflowId.isEmpty then db.allRuns else db.runsOf workflowId

/-- How many runs of a workflow there have been since a moment. -/
def countRuns (db : Database) (workflowId : String) (since : Moment) : Nat :=
  db.runs.countP fun row => row.run.workflowId == workflowId && decide (since ≤ row.createdAt)

/-- The database with only the latest runs, as many as are to be kept. -/
def keepRuns (db : Database) (max : Int) : Database :=
  let kept := (keepFirst max db.allRuns).map fun row => row.run.id
  { db with runs := db.runs.filter fun row => kept.contains row.run.id }

/-- The database with only the latest runs, if there are more than are to be kept. -/
def retainRuns (db : Database) (max : Json) : Except RawError Database := do
  if ← max.isBelow db.runs.length then
    let count ← max.cut
    pure (db.keepRuns count)
  else pure db

/-- One more run and, where the number of those to be kept can be used, only the latest ones; the
new one is there in any case. -/
def recordRun (db : Database) (max : Json) (row : RunRow) : Except RawError Unit × Database :=
  let recorded := keepChanges { db with runs := db.runs ++ [row] }
  match recorded.retainRuns max with
  | .ok retained => (.ok (), retained)
  | .error e => (.error e, recorded)

end Database
end Flowgraph
