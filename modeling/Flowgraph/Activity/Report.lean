import Flowgraph.Activity.Basic

/-!
# Reports

A report on the input. Without a model a fixed report quotes the beginning of the input.
-/

namespace Flowgraph.Activity.Report

variable {σ : Type}

/-- The question to the model. -/
def prompt (s : ReportSettings) (source : Json) : String :=
  paragraphs [
    "Task: " ++ s.instructions,
    "Template: " ++ s.template,
    "Output format: " ++ s.format,
    "Return only the report content.",
    "Input:",
    source.sourceText]

/-- The report that stands in where there is no model. -/
def standIn (source : Json) : String :=
  "# Generated Report\n\n- Source: " ++ preview 120 (source.write Json.compact)
    ++ "\n- Step 1\n- Step 2"

/-- Writes the report to the output key. -/
def run (backend : Backend σ) (s : ReportSettings) (context : Fields) : Effect σ Outcome := do
  let source ← resolve context s.inputPath
  let answer ← backend.complete (prompt s source) none
  pure { context := context.set s.outputKey (.str (answer.getD (standIn source))) }

end Flowgraph.Activity.Report
