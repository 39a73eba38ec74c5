import Flowgraph.Generation
import Flowgraph.Json.Reader
import Flowgraph.Text.Wide

/-!
# Bodies of requests

What a request sends along is read as data and then by its parts. Everything that is wrong is
found at once, and each issue is told with its place and with what was found there.

## Main definitions

* `BodyIssue`: what is wrong with a body.
* `Body.read`: the data of a body.
* `Body.object`, `Body.command`, `Body.brief`, `Body.simulation`, `Body.runOptions`: its parts.
-/

namespace Flowgraph

/-- What is wrong with a body. -/
structure BodyIssue where
  /-- The name of the issue. -/
  type : String
  /-- The path to the place inside the body. -/
  place : List Json
  /-- The wording. -/
  message : String
  /-- What was found. -/
  found : Json
  /-- The bounds that were broken, by name. -/
  bounds : Fields := []
deriving Inhabited

/-- An issue as data. -/
def BodyIssue.toJson (issue : BodyIssue) : Json :=
  .obj ([
    ("type", .str issue.type),
    ("loc", .arr (.str "body" :: issue.place)),
    ("msg", .str issue.message),
    ("input", issue.found)]
    ++ (if issue.bounds.isEmpty then [] else [("ctx", .obj issue.bounds)]))

/-- Why there is no data in a body. -/
inductive BodyError where
  /-- There are issues. -/
  | issues (issues : List BodyIssue)
  /-- It is in no encoding, or what it writes is unfit to be read. -/
  | unparsable
deriving Inhabited

namespace Body

/-- A part of a body, or the issues with it. -/
abbrev Part (α : Type) := Except (List BodyIssue) α

/-- Two parts together, with the issues of both. -/
def both {α β : Type} : Part α → Part β → Part (α × β)
  | .ok a, .ok b => .ok (a, b)
  | .ok _, .error issues => .error issues
  | .error issues, .ok _ => .error issues
  | .error issues, .error others => .error (issues ++ others)

/-- A single issue. -/
def issue {α : Type} (type message : String) (place : List Json) (found : Json) : Part α :=
  .error [⟨type, place, message, found, []⟩]

/-- What is missing. -/
def missing {α : Type} (place : List Json) (found : Json) : Part α :=
  issue "missing" "Field required" place found

/-! ### Kinds of parts -/

/-- A text. -/
def text (place : List Json) : Json → Part String
  | .str s => .ok s
  | v => issue "string_type" "Input should be a valid string" place v

/-- The issue of a text that is not made of characters all through. -/
def halfText {α : Type} (place : List Json) (s : String) : Part α :=
  issue "string_unicode"
    "Input should be a valid string, unable to parse raw data as a unicode string" place (.str s)

/-- A text that is not empty. -/
def nonEmptyText (place : List Json) : Json → Part String
  | .str s =>
    if Text.hasHalf s then halfText place s
    else if s.isEmpty then
      .error [⟨"string_too_short", place, "String should have at least 1 character", .str s,
        [("min_length", .int 1)]⟩]
    else .ok s
  | v => text place v

/-- A text or nothing. -/
def optionalText (place : List Json) : Json → Part (Option String)
  | .null => .ok none
  | v => (text place v).map some

/-- The texts of a list, from an index on. -/
def textsFrom (place : List Json) (index : Nat) : List Json → Part (List String)
  | [] => .ok []
  | item :: rest =>
    (both (text (place ++ [.int index]) item) (textsFrom place (index + 1) rest)).map fun (s, ss) =>
      s :: ss

/-- A list of texts, or nothing, which counts as an empty list. -/
def optionalTexts (place : List Json) : Json → Part (List String)
  | .null => .ok []
  | .arr items => textsFrom place 0 items
  | v => issue "list_type" "Input should be a valid list" place v

/-- An object. -/
def objectAt (place : List Json) : Json → Part Fields
  | .obj fields => .ok fields
  | v => issue "dict_type" "Input should be a valid dictionary" place v

/-- The mode of a run, or nothing. -/
def modeAt (place : List Json) : Json → Part (Option String)
  | .null => .ok none
  | v =>
    let word := v.str?.getD ""
    if word = "simulate" ∨ word = "live" then .ok (some word)
    else if Text.hasHalf word then halfText place word
    else
      let expected := "'simulate' or 'live'"
      .error [⟨"literal_error", place, "Input should be " ++ expected, v,
        [("expected", .str expected)]⟩]

/-- The fields of a body with named parts. -/
def fields : Json → Part Fields
  | .obj fields => .ok fields
  | v =>
    issue "model_attributes_type"
      "Input should be a valid dictionary or object to extract fields from" [] v

/-- A named part that must be there. -/
def required {α : Type} (all : Fields) (name : String) (part : List Json → Json → Part α) :
    Part α :=
  match all.get? name with
  | some v => part [.str name] v
  | none => missing [.str name] (.obj all)

/-- A named part, where an absent one counts as `null`. -/
def optional {α : Type} (all : Fields) (name : String) (part : List Json → Json → Part α) :
    Part α :=
  part [.str name] (all.getD name)

/-! ### Whole bodies -/

/-- The letters of a body, whose encoding its first bytes tell. A byte order mark in front does not
count. -/
def letters? (body : String) : Option (List Text.Letter) :=
  let bytes := (String.ofList (Text.characters body)).toUTF8.data.toList
  match Text.Encoding.detect bytes with
  | .utf8 =>
    let letters := Text.letters body.toList
    some (if letters.head? = some (.char '\uFEFF') then letters.drop 1 else letters)
  | wide => wide.decode? bytes

/-- The data of a body, if there is anything in it. -/
def read (body : Option String) : Except BodyError (Option Json) :=
  let text := body.getD ""
  if text.isEmpty then .ok none
  else
    match (letters? text).map fun letters => Json.readChars (letters.flatMap Text.Letter.chars) with
    | some (.ok v) => .ok (some v)
    | some (.error (.malformed problem position)) =>
      .error (.issues [⟨"json_invalid", [.int position], "JSON decode error", .obj [],
        [("error", .str problem.message)]⟩])
    | some (.error (.unfit _)) => .error .unparsable
    | none => .error .unparsable

/-- A body that must be there. -/
def present : Option Json → Part Json
  | none => missing [] .null
  | some v => .ok v

/-- A body that is an object. -/
def object (body : Option Json) : Part Json := do
  let v ← present body
  (objectAt [] v).map .obj

/-- The fields of a body that must be there. -/
def requiredFields (body : Option Json) : Part Fields := do
  let v ← present body
  fields v

/-- The command of a body. -/
def command (body : Option Json) : Part String := do
  let all ← requiredFields body
  required all "command" text

/-- The document and the input of a body. -/
def simulation (body : Option Json) : Part (Json × Json) := do
  let all ← requiredFields body
  let document ← required all "document" objectAt
  pure (.obj document, all.getD "input_json")

/-- The request of a body and what else it says of the workflow. -/
def brief (body : Option Json) : Part (String × Brief) := do
  let all ← requiredFields body
  let ((request, name), (description, tags)) ← both
    (both (required all "prompt" nonEmptyText) (optional all "name" optionalText))
    (both (optional all "description" optionalText) (optional all "tags" optionalTexts))
  pure (request, ⟨name, description, tags⟩)

/-- The input and the mode of a body that may be absent or `null`. -/
def runOptions (body : Option Json) : Part (Json × Option String) :=
  match body.getD .null with
  | .null => .ok (.null, none)
  | v => do
    let all ← fields v
    let mode ← optional all "mode" modeAt
    pure (all.getD "input_json", mode)

end Body
end Flowgraph
