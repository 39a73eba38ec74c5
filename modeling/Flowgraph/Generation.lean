import Flowgraph.Document.Reply
import Flowgraph.Effect
import Flowgraph.Json.Writer

/-!
# Generating workflows

A language model is asked for a document in words. If its reply holds none that keeps all rules, it
is asked once more and told what was wrong.

## Main definitions

* `Brief`: what is said of the workflow beside the request.
* `Brief.instructions`: what the model is told about its part.
* `generate`: the document, or what is still wrong with it at the second attempt.
-/

namespace Flowgraph

/-- What is said of the workflow beside the request. -/
structure Brief where
  /-- The name. -/
  name : Option String := none
  /-- What the workflow is for. -/
  description : Option String := none
  /-- Tags for people. -/
  tags : List String := []
deriving DecidableEq, Repr

/-- The form of documents, up to the list of kinds of nodes. -/
def formBeforeTypes : List String := [
  "You generate workflow documents for Vyntra.",
  "Return ONLY one valid JSON object. No markdown. No prose. No code fences.",
  "",
  "STRICT REQUIRED TOP-LEVEL SHAPE:",
  "\x7b",
  "  \"schema_version\": \"1.0\",",
  "  \"workflow\": \x7b",
  "    \"id\": \"wf_<short>\",",
  "    \"name\": \"<string>\",",
  "    \"description\": \"<string>\",",
  "    \"tags\": [\"va\"],",
  "    \"entry_node_id\": \"n1\",",
  "    \"variables\": \x7b\x7d,",
  "    \"nodes\": [ ... ],",
  "    \"edges\": [ ... ]",
  "  \x7d",
  "\x7d",
  "",
  "STRICT NODE SHAPE (for EVERY node):",
  "\x7b",
  "  \"id\": \"n1\",",
  "  \"type\": \"<allowed-type>\",",
  "  \"name\": \"Human name\",",
  "  \"position\": \x7b \"x\": 80, \"y\": 120 \x7d,",
  "  \"inputs\": [ \x7b \"id\":\"in\",\"label\":\"In\",\"schema\":\"JSON\" \x7d ] "
    ++ "OR [] for trigger nodes only,",
  "  \"outputs\": [ \x7b \"id\":\"out\",\"label\":\"Out\",\"schema\":\"JSON\" \x7d ],",
  "  \"config\": \x7b ... \x7d,",
  "  \"ui\": \x7b \"icon\":\"...\", \"color\":\"neutral\" \x7d",
  "\x7d",
  "",
  "STRICT EDGE SHAPE (for EVERY edge):",
  "\x7b",
  "  \"id\": \"e1\",",
  "  \"source\": \x7b \"node_id\": \"n1\", \"port_id\": \"out\" \x7d,",
  "  \"target\": \x7b \"node_id\": \"n2\", \"port_id\": \"in\" \x7d,",
  "  \"label\": null,",
  "  \"condition\": null",
  "\x7d",
  "",
  "DO NOT use shorthand:",
  "- source/target must be objects, never strings",
  "- inputs/outputs must be arrays of objects, never strings",
  "- include all required fields on every node and edge",
  "",
  "Allowed node types only:"]

/-- The form of documents, behind the list of kinds of nodes. -/
def formBehindTypes : List String := [
  "",
  "Rules:",
  "- schema_version must be exactly \"1.0\"",
  "- exactly one trigger node",
  "- entry_node_id must equal trigger node id",
  "- trigger nodes must have inputs: []",
  "- non-trigger nodes must have >=1 input",
  "- logic.condition must have >=2 outputs and config.default_output matching one output id",
  "- all node ids and edge ids must be unique",
  "- edge source must reference an OUTPUT port",
  "- edge target must reference an INPUT port",
  "- the graph must not contain cycles",
  "",
  "Use practical config values for VA workflows."]

/-- The list of kinds of nodes, as a sentence. -/
def typeList : String :=
  ", ".intercalate (NodeType.all.map NodeType.name) ++ "."

/-- A text, or another where it is absent or empty. -/
def textOr (default : String) : Option String → String
  | none => default
  | some s => if s.isEmpty then default else s

namespace Brief

/-- The brief as data, complete with defaults. -/
def toJson (brief : Brief) : Json :=
  .obj [
    ("name", .str (textOr "Generated Workflow" brief.name)),
    ("description", .str (textOr "Generated via Vyntra" brief.description)),
    ("tags", .strs (if brief.tags.isEmpty then ["va"] else brief.tags))]

/-- What the model is told about its part, with what was wrong before. -/
def instructions (brief : Brief) (errors : List String) : String :=
  let form := "\n".intercalate (formBeforeTypes ++ [typeList] ++ formBehindTypes)
  let again :=
    if errors.isEmpty then ""
    else "Previous attempt failed validation. Fix these errors:\n" ++ "\n".intercalate errors
  form ++ "\nDefault metadata hints: " ++ brief.toJson.write Json.spaced ++ "\n" ++ again

end Brief

/-- How many errors the model is told of. -/
def maxErrorsTold : Nat := 12

/-- What is said when the second reply holds no document either. -/
def generationFailure : String := "Failed to generate valid workflow JSON"

/-- A reply of the model, read as a document. -/
def askForDocument {σ : Type} (complete : Prompt → Effect σ String) (request system : String) :
    Effect σ (Except (List String) Document) := do
  let reply ← complete ⟨request, some system, true⟩
  Effect.ofData (Document.ofReply reply)

/-- The document that a model gives for a request, or what is wrong with its second reply. -/
def generate {σ : Type} (complete : Prompt → Effect σ String) (brief : Brief) (request : String) :
    Effect σ (Except (List String) Document) := do
  match ← askForDocument complete request (brief.instructions []) with
  | .ok document => pure (.ok document)
  | .error errors =>
    askForDocument complete request (brief.instructions (errors.take maxErrorsTold))

end Flowgraph
