import Flowgraph.Activity.Basic

/-!
# Summaries

The input as a short text. Without a model the beginning of the input stands for its summary.
-/

namespace Flowgraph.Activity.Summary

variable {σ : Type}

/-- The question to the model. -/
def prompt (s : SummarizeSettings) (source : Json) : String :=
  let hint := if s.bullets then "Use bullets." else "Return a short paragraph."
  paragraphs [
    "Task: " ++ s.instructions,
    "Style: " ++ s.style ++ ". " ++ hint,
    "Input:",
    source.sourceText]

/-- The summary that stands in where there is no model. -/
def standIn (source : Json) : String :=
  "Summary: " ++ preview 180 source.sourceText

/-- Writes the summary to the output key. -/
def run (backend : Backend σ) (s : SummarizeSettings) (context : Fields) : Effect σ Outcome := do
  let source ← resolve context s.inputPath
  let answer ← backend.complete (prompt s source) none
  pure { context := context.set s.outputKey (.str (answer.getD (standIn source))) }

end Flowgraph.Activity.Summary
