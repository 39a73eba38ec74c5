import Flowgraph.Json.Embedded
import Flowgraph.Json.Raw

/-!
# Effects

Nodes reach the outside world through a backend only. The simulated backend has nothing to offer,
so that nodes fall back on answers of their own; the live one asks a language model and stores
rows. What model and store do is left open: they are functions on a state of any type, and so are
the parts of any other backend.

## Main definitions

* `Fault`: why a node or a call fails.
* `Effect`: a computation that may change the state of the collaborators and may fail.
* `Collaborators`: a language model and a store of rows.
* `Backend`: what nodes can ask for.
* `Backend.simulated`, `Backend.live`: the two ways to run a workflow.
-/

namespace Flowgraph

/-- Why a node or a call fails. -/
inductive Fault where
  /-- Data cannot be read, converted or handed out. -/
  | data (error : DataError)
  /-- Data is of another kind than what is done with it needs. -/
  | raw (error : RawError)
  /-- No activity is registered for a kind of node. -/
  | unknownType (type : Json)
  /-- A node cannot do its work. -/
  | node (message : String) (nodeId : Option String)
  /-- The language model gives no answer. -/
  | completion (message : String) (model : Option String)
  /-- A failure of a collaborator's own kind. -/
  | foreign (kind message : String)
deriving Inhabited

namespace Fault

/-- The wording of a fault. -/
def text : Fault → String
  | data e => e.message
  | raw e => e.message
  | unknownType type => "Node type not found: " ++ type.spell
  | node message _ => message
  | completion message _ => message
  | foreign _ message => message

/-- The wording of a fault in a report, where a foreign failure without words is named by its
kind. -/
def report : Fault → String
  | foreign kind message => if message.isEmpty then kind else message
  | fault => fault.text

end Fault

/-- A computation on a state that may fail; a failure keeps the changes made before it. -/
def Effect (σ α : Type) : Type := σ → Except Fault α × σ

namespace Effect

variable {σ α β : Type}

instance : Monad (Effect σ) where
  pure a := fun s => (.ok a, s)
  bind m f := fun s =>
    match m s with
    | (.ok a, s') => f a s'
    | (.error e, s') => (.error e, s')

/-- The computation that fails. -/
def fail (fault : Fault) : Effect σ α :=
  fun s => (.error fault, s)

/-- A value, or the computation that fails. -/
def ofData (r : Except DataError α) : Effect σ α :=
  match r with
  | .ok a => pure a
  | .error e => fail (.data e)

/-- A value that raw data gives, or the computation that fails. -/
def ofRaw (r : Except RawError α) : Effect σ α :=
  match r with
  | .ok a => pure a
  | .error e => fail (.raw e)

/-- The same computation with another fault in the place of its own. -/
def mapFault (f : Fault → Fault) (m : Effect σ α) : Effect σ α :=
  fun s =>
    match m s with
    | (.ok a, s') => (.ok a, s')
    | (.error e, s') => (.error (f e), s')

@[simp] theorem pure_apply (a : α) (s : σ) : (pure a : Effect σ α) s = (.ok a, s) := rfl

@[simp] theorem fail_apply (fault : Fault) (s : σ) :
    (fail fault : Effect σ α) s = (.error fault, s) := rfl

theorem bind_apply (m : Effect σ α) (f : α → Effect σ β) (s : σ) :
    (m >>= f) s =
      match m s with
      | (.ok a, s') => f a s'
      | (.error e, s') => (.error e, s') := rfl

end Effect

/-- A question to a language model. -/
structure Prompt where
  /-- The question. -/
  text : String
  /-- What the model is told about its part. -/
  system : Option String := none
  /-- Whether the answer shall be an object. -/
  wantsObject : Bool := false
deriving DecidableEq, Repr

/-- A language model and a store of rows. -/
structure Collaborators (σ : Type) where
  /-- The one table that records may be saved to. -/
  saveTable : String
  /-- The answer to a question. -/
  complete : Prompt → Effect σ String
  /-- Stores a row in a table and gives its id. -/
  insert : String → Fields → Effect σ String

/-- The effects that nodes may have. -/
structure Backend (σ : Type) where
  /-- Whether effects are real. -/
  isLive : Bool
  /-- The one table that records may be saved to when effects are real. -/
  saveTable : String
  /-- A text from a model, if there is one. -/
  complete : String → Option String → Effect σ (Option String)
  /-- An object from a model, if there is a model and its answer holds one. -/
  completeObject : String → Option String → Effect σ (Option Fields)
  /-- Stores a row in a table, and gives its id if anything is stored. -/
  insert : String → Fields → Effect σ (Option String)

/-- What a model is told when an object is wanted and nothing else is said. -/
def strictObjectPrompt : String := "Return strict JSON object only."

namespace Backend

variable {σ : Type}

/-- The name of the mode. -/
def mode (b : Backend σ) : String :=
  if b.isLive then "live" else "simulate"

/-- Nothing happens, and there are no answers. -/
def simulated : Backend σ where
  isLive := false
  saveTable := ""
  complete _ _ := pure none
  completeObject _ _ := pure none
  insert _ _ := pure none

/-- A failed insertion as a fault of the node that asked for it. -/
def insertFault : Fault → Fault
  | .node message nodeId => .node message nodeId
  | fault => .node fault.text none

/-- Collaborators are called on behalf of a workflow, to which the rows stored belong. -/
def live (c : Collaborators σ) (workflowId : String) : Backend σ where
  isLive := true
  saveTable := c.saveTable
  complete text system := do
    let answer ← c.complete ⟨text, system, false⟩
    pure (some answer)
  completeObject text system := do
    let told := match system with
      | some s => if s.isEmpty then strictObjectPrompt else s
      | none => strictObjectPrompt
    let answer ← c.complete ⟨text, some told, true⟩
    Effect.ofData (Json.embeddedObject? answer)
  insert table row := do
    let owned := Fields.setAll [("workflow_id", .str workflowId)] row
    let id ← (c.insert table owned).mapFault insertFault
    pure (some id)

/-- Stores a row that is given as data; it must be an object. -/
def insertData (b : Backend σ) (table : String) (row : Json) : Effect σ (Option String) :=
  match row with
  | .obj fields => b.insert table fields
  | v =>
    if b.isLive then Effect.fail (insertFault (.raw (.noFields v.kindName))) else pure none

end Backend
end Flowgraph
