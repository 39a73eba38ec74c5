import Flowgraph.Activity.Basic
import Flowgraph.Json.Numeric

/-!
# Classifications

One of a list of labels for the input, with a confidence between zero and one. The answer of a
model counts only if its label is in the list and its confidence is a finite number; otherwise
labels are looked for in the text of the input, case ignored, and the best of them is taken.

## Main definitions

* `Classification.ranking`: the labels by their scores.
* `Classification.keyword`: the label found without a model.
* `Classification.accept?`: the answer of a model, if it counts.
* `Classification.run`: the activity.
-/

namespace Flowgraph.Activity.Classification

variable {σ : Type}

/-- A label and the confidence in it. -/
structure Verdict where
  /-- The label. -/
  label : String
  /-- The confidence. -/
  confidence : Double
deriving DecidableEq

/-- The confidence in a label that occurs in the input: 0.92. -/
def hitConfidence : Double := .ofDecimal false 92 (-2)

/-- The confidence in a label that does not: 0.67. -/
def missConfidence : Double := .ofDecimal false 67 (-2)

/-- The label where there are none to choose from. -/
def noLabel : String := "general"

/-- Whether a label occurs in a text in lower case, its own case ignored. -/
def occurs (text : List Char) (label : String) : Bool :=
  Text.occursIn (Text.letters (Text.lower label.toList)) (Text.letters text)

/-- A label and its score. -/
structure Scored where
  /-- The score. -/
  score : Nat
  /-- The label. -/
  label : String
deriving DecidableEq

/-- Whether a scored label comes before another: the higher score is in front, and of one score the
label that comes first by the codes of its letters. -/
def Scored.isBefore (a b : Scored) : Bool :=
  decide (b.score < a.score) || (a.score == b.score && Text.isBefore a.label b.label)

/-- A label scores two points if it occurs in the text, and else one. -/
def score (text : List Char) (label : String) : Scored :=
  ⟨if occurs text label then 2 else 1, label⟩

/-- Puts a scored label into a ranking, in front of the first that does not come before it. -/
def place (a : Scored) : List Scored → List Scored
  | [] => [a]
  | b :: rest => if b.isBefore a then b :: place a rest else a :: b :: rest

/-- The labels with their scores, the best in front; those that cannot be told apart stay in their
order. -/
def ranking (text : List Char) (labels : List String) : List Scored :=
  (labels.map (score text)).foldr place []

/-- The label in front, with a confidence that tells whether it occurs in the input. -/
def keyword (source : Json) (labels : List String) : Verdict :=
  match ranking (Text.lower source.sourceText.toList) labels with
  | [] => ⟨noLabel, missConfidence⟩
  | front :: _ => ⟨front.label, if front.score = 2 then hitConfidence else missConfidence⟩

/-- The answer of a model, if its label is in the list and its confidence is finite. -/
def accept? (labels : List String) (answer : Fields) : Except DataError (Option Verdict) :=
  let label := match answer.get? "label" with
    | some (.str s) => String.ofList (Text.strip s.toList)
    | _ => ""
  if labels.contains label then do
    let confidence ← match answer.get? "confidence" with
      | some v => v.toDouble
      | none => pure (.nan Double.computed)
    pure (if confidence.isFinite then
        some ⟨label, confidence.clamp (.finite 0) (.finite 1)⟩
      else none)
  else .ok none

/-- The question to the model. -/
def prompt (s : ClassifySettings) (source : Json) : String :=
  paragraphs [
    s.instructions,
    "Return JSON only in this shape:",
    "\x7b\"label\":\"<one label from provided list>\",\"confidence\":0.0\x7d",
    "Allowed labels:",
    "\n".intercalate (s.labels.map ("- " ++ ·)),
    "Input:",
    source.sourceText]

/-- The context with a verdict written to it. -/
def write (s : ClassifySettings) (context : Fields) (v : Verdict) : Fields :=
  (context.set s.outputKey (.str v.label)).set s.confidenceKey (.float v.confidence)

/-- Writes the label and the confidence to their keys. -/
def run (backend : Backend σ) (s : ClassifySettings) (context : Fields) : Effect σ Outcome := do
  let source ← resolve context s.inputPath
  let byKeyword := write s context (keyword source s.labels)
  if s.labels.isEmpty then pure { context := byKeyword }
  else
    match ← backend.completeObject (prompt s source) none with
    | none => pure { context := byKeyword, fallbackUsed := backend.isLive }
    | some answer =>
      match ← Effect.ofData (accept? s.labels answer) with
      | some verdict => pure { context := write s context verdict }
      | none => pure { context := byKeyword, fallbackUsed := backend.isLive }

end Flowgraph.Activity.Classification
