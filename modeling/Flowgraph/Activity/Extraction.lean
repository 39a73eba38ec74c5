import Flowgraph.Activity.Basic
import Flowgraph.Json.Numeric

/-!
# Extractions

A record with one value for every configured field, each of the field's type. Values that a model
gives are coerced to the types; without an object from a model every field has its zero value.

## Main definitions

* `Extraction.zeroValue`: the zero value of a type.
* `Extraction.coerce`: a value as one of a type.
* `Extraction.run`: the activity.
-/

namespace Flowgraph.Activity.Extraction

variable {σ : Type}

/-- The types that values are coerced to. -/
inductive FieldType where
  /-- Finite numbers. -/
  | number
  /-- Truth values. -/
  | boolean
  /-- Lists. -/
  | array
  /-- Texts. -/
  | text
deriving DecidableEq, Repr

/-- The type of a name; every other name is one of texts. -/
def FieldType.ofName (name : String) : FieldType :=
  if name = "number" then number
  else if name = "boolean" then boolean
  else if name = "array" then array
  else text

/-- The zero value of a type. -/
def zeroValue : FieldType → Json
  | .number => .int 0
  | .boolean => .bool false
  | .array => .arr []
  | .text => .str ""

/-- A double as a value: an integer where it is one, and zero where it is not finite. -/
def numberValue (x : Double) : Json :=
  match x.toInt? with
  | some n => .int n
  | none => if x.isFinite then .float x else .int 0

/-- A value as a number. An integer stays as it is, provided double precision can hold it. -/
def coerceNumber (v : Json) : Except DataError Json :=
  match v with
  | .int n =>
    match Double.ofInt? n with
    | some _ => .ok (.int n)
    | none => .error .tooLarge
  | .float x => .ok (if x.isFinite then .float x else .int 0)
  | v => do
    let x ← v.toDouble
    pure (numberValue x)

/-- Whether a value counts as true; lists and objects do, even empty ones. -/
def isTruthy : Json → Bool
  | .arr _ => true
  | .obj _ => true
  | .float x => !x.isNaN && !x.eqInt 0
  | v => v.isTruthy

/-- A value as one of a type. -/
def coerce (v : Json) (type : FieldType) : Except DataError Json :=
  match type with
  | .number => coerceNumber v
  | .boolean => .ok (.bool (isTruthy v))
  | .array =>
    .ok (match v with
      | .arr items => .arr items
      | .null => .arr []
      | v => .arr [v])
  | .text =>
    .ok (match v with
      | .str s => .str s
      | .null => .str "\"\""
      | v => .str (v.write Json.compact))

/-- The record of zero values. -/
def zeroRecord (specs : List FieldSpec) : Fields :=
  specs.foldl (fun record spec => record.set spec.key (zeroValue (.ofName spec.type))) []

/-- The record of the values that a model gave, behind those already in `record`. -/
def coerceAll (answer : Fields) : Fields → List FieldSpec → Except DataError Fields
  | record, [] => .ok record
  | record, spec :: rest => do
    let v ← coerce (answer.getD spec.key) (.ofName spec.type)
    coerceAll answer (record.set spec.key v) rest

/-- The question to the model. -/
def prompt (s : ExtractSettings) (source : Json) : String :=
  paragraphs [
    s.instructions,
    "Return JSON only as an object with the requested keys.",
    "Field spec:",
    (Json.arr (s.fields.map FieldSpec.toJson)).write Json.spaced,
    "Input:",
    source.sourceText]

/-- Writes the record to the output key. -/
def run (backend : Backend σ) (s : ExtractSettings) (context : Fields) : Effect σ Outcome := do
  let source ← resolve context s.inputPath
  if s.fields.isEmpty then pure { context := context.set s.outputKey (.obj []) }
  else
    match ← backend.completeObject (prompt s source) none with
    | none =>
      pure {
        context := context.set s.outputKey (.obj (zeroRecord s.fields))
        fallbackUsed := backend.isLive }
    | some answer =>
      let record ← Effect.ofData (coerceAll answer [] s.fields)
      pure { context := context.set s.outputKey (.obj record) }

end Flowgraph.Activity.Extraction
