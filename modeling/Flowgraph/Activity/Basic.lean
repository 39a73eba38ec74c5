import Flowgraph.Config.Parse
import Flowgraph.Document.Basic
import Flowgraph.Effect
import Flowgraph.Path

/-!
# Activities

What a node does when its turn comes: it reads the context of the run, may have effects, and gives
a new context. The context it was given is never changed.

## Main definitions

* `Outcome`: what a node gives.
* `Activity.resolve`: the value at a path of the context.
-/

namespace Flowgraph

/-- What a node gives. -/
structure Outcome where
  /-- The new context. -/
  context : Fields
  /-- The output that a branch takes. -/
  selectedPort : Option String := none
  /-- Whether a live node had to fall back on an answer of its own. -/
  fallbackUsed : Bool := false
deriving Inhabited

namespace Node

/-- The settings of a node. -/
def settings (node : Node) : Settings :=
  Settings.ofFields (some node.type) node.config

end Node

namespace Activity

variable {σ : Type}

/-- The value at a path of the context, `null` where the path leads nowhere. -/
def resolve (context : Fields) (path : String) : Effect σ Json := do
  let value? ← Effect.ofData (Path.resolve (.obj context) path)
  pure (value?.getD .null)

/-- Paragraphs with an empty line between two of them. -/
def paragraphs (parts : List String) : String :=
  "\n\n".intercalate parts

/-- The first letters of a text. -/
def preview (count : Nat) (s : String) : String :=
  Text.ofLetters ((Text.letters s.toList).take count)

end Activity
end Flowgraph
