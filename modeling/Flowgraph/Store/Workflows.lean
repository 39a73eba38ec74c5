import Flowgraph.Document.Shape
import Flowgraph.Store.Database

/-!
# The table of workflows

A row is found by its name. What a row tells beside its definition is taken from the document when
the row is written, and the name of a row never changes.

## Main definitions

* `Database.workflow?`: the row of a name.
* `Database.insertWorkflow`, `replaceWorkflow`, `removeWorkflow`: the changes.
* `WorkflowRow.document`: the document of a row.
-/

namespace Flowgraph

/-- The row of a new workflow. -/
def WorkflowRow.ofDocument (d : Document) (prompt : Option String) (now : Moment) :
    WorkflowRow where
  id := d.workflow.id
  name := d.workflow.name
  description := d.workflow.description
  prompt := prompt
  tags := d.workflow.tags
  definition := d.toJson
  createdAt := now
  updatedAt := now

/-- The row with another document. -/
def WorkflowRow.withDocument (row : WorkflowRow) (d : Document) (now : Moment) : WorkflowRow :=
  { row with
    name := d.workflow.name
    description := d.workflow.description
    tags := d.workflow.tags
    definition := d.toJson
    updatedAt := now }

/-- The row with the names and tags of another document, whose definition it does not take. -/
def WorkflowRow.withTitles (row : WorkflowRow) (d : Document) : WorkflowRow :=
  { row with
    name := d.workflow.name
    description := d.workflow.description
    tags := d.workflow.tags }

/-- The document of a row, or the wordings of what is wrong with its shape. -/
def WorkflowRow.document (row : WorkflowRow) : Except (List String) Document :=
  Document.ofJson row.definition

namespace Database

/-- The row of a name. -/
def workflow? (db : Database) (id : String) : Option WorkflowRow :=
  db.workflows.find? fun row => row.id == id

/-- The database with one more workflow. -/
def insertWorkflow (db : Database) (row : WorkflowRow) : Database :=
  keepChanges { db with workflows := db.workflows ++ [row] }

/-- The database with another document for a workflow. -/
def replaceWorkflow (db : Database) (id : String) (d : Document) (now : Moment) : Database :=
  keepChanges { db with
    workflows := db.workflows.map fun row => if row.id = id then row.withDocument d now else row }

/-- The database with the names and tags of another document for a workflow, a change that is not
lasting by itself. -/
def retitleWorkflow (db : Database) (id : String) (d : Document) : Database :=
  { db with
    workflows := db.workflows.map fun row => if row.id = id then row.withTitles d else row
    lasting := some (db.lasting.getD db.workflows) }

/-- The database without a workflow. -/
def removeWorkflow (db : Database) (id : String) : Database :=
  keepChanges { db with workflows := db.workflows.filter fun row => row.id != id }

/-- The workflows, the one changed last in front. -/
def listWorkflows (db : Database) : List WorkflowRow :=
  latestFirst WorkflowRow.updatedAt db.workflows

end Database
end Flowgraph
