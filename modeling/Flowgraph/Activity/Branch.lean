import Flowgraph.Activity.Basic
import Flowgraph.Condition

/-!
# Branches and delays

A branch takes exactly one output: the first one that is not the default when its condition holds,
else the default. A delay only leaves a mark; a run is never held up.
-/

namespace Flowgraph.Activity

variable {σ : Type}

namespace Branch

/-- The first output that is not the default, else the first output of all. -/
def mainPort? (outputs : List String) (default : Option String) : Option String :=
  match outputs.find? fun port => some port != default with
  | some port => some port
  | none => outputs.head?

/-- The output to take. -/
def selectPort (outputs : List String) (s : ConditionSettings) (context : Fields) :
    Except DataError (Option String) := do
  let holds ← Condition.holds (.obj context) s.expression
  let main := mainPort? outputs s.defaultOutput
  pure (if holds then main else s.defaultOutput.or main)

/-- Selects the output and leaves the context as it is. -/
def run (outputs : List String) (s : ConditionSettings) (context : Fields) : Effect σ Outcome := do
  let port ← Effect.ofData (selectPort outputs s context)
  pure { context := context, selectedPort := port }

end Branch

namespace Delay

/-- Writes the seconds as a mark. -/
def run (s : DelaySettings) (context : Fields) : Effect σ Outcome :=
  pure { context := context.set "delay_applied" s.seconds }

end Delay
end Flowgraph.Activity
