import Flowgraph.Proofs.Equality
import Flowgraph.Proofs.Numbering
import Flowgraph.Proofs.Verdicts

/-!
# Records of an extraction

What an extraction writes is a record with one value for every field that is asked for, and what
comes behind it may rely on the types of these values, whatever a model answers.  Two fields may
have one key; then the last of them says of which type the value is.

The values are coerced one by one, and a value that is of a type already is left as it is, so that
to coerce twice is to coerce once.

## Main definitions

* `Extraction.HasType` — a value is one of a type.
* `Extraction.lastWith?` — the last field of a list with a key.
* `Extraction.Fits` — a record has a value for every field of a list, of the type of the last one
  with its key.

## Main results

* `Extraction.hasType_of_coerce` — a value is coerced to one of the type.
* `Extraction.coerce_of_hasType` — a value of the type is coerced to itself.
* `Extraction.fits_zeroRecord`, `Extraction.fits_of_coerceAll` — both ways to fill a record.
* `Node.execute_extract` — **what an extraction writes**, and that to coerce twice is to coerce
  once.
-/

namespace Flowgraph

/-! ### Names of fields -/

namespace Fields

variable {fields : Fields} {name key : String} {value : Json}

theorem mem_names_set : key ∈ (fields.set name value).names ↔ key ∈ fields.names ∨ key = name := by
  rw [names, ← has_iff, names, ← has_iff, has, has, get?_set]
  by_cases h : name = key
  · simp [h]
  · simp [h, Ne.symm h]

/-- A field is written in its place, so that no two fields have one name. -/
theorem nodup_names_set (h : fields.names.Nodup) : (fields.set name value).names.Nodup := by
  induction fields with
  | nil => simp [set, names]
  | cons field rest ih =>
    obtain ⟨first, old⟩ := field
    obtain ⟨hfirst, hrest⟩ := List.nodup_cons.mp h
    by_cases hname : first = name
    · rwa [set, if_pos hname]
    · rw [set, if_neg hname]
      refine List.nodup_cons.mpr ⟨?_, ih hrest⟩
      rw [← names, mem_names_set]
      exact not_or.mpr ⟨hfirst, hname⟩

end Fields

/-! ### Integers among doubles -/

/-- Where the number of a value is an integer, this has a double. -/
theorem Double.exists_ofInt?_of_toInt? {x : Double} {n : Int}
    (hx : ∀ v, x.value? = some v → Representable v) (h : x.toInt? = some n) :
    ∃ y, ofInt? n = some y := by
  unfold toInt? at h
  split at h
  · rename_i v hv
    split_ifs at h
    obtain rfl := Option.some.inj h
    have hsmall := natAbs_truncate_lt (hx v hv)
    refine Option.ne_none_iff_exists'.mp ?_
    rw [Ne, ofInt?_eq_none_iff]
    omega
  · cases h

namespace Activity.Extraction

variable {v w : Json} {type : FieldType}

/-! ### Values of a type -/

/-- A value is one of a type.  The numbers are the finite ones, among them the integers that double
precision can hold. -/
inductive HasType : Json → FieldType → Prop where
  /-- An integer is a number. -/
  | int (n : Int) (x : Double) (h : Double.ofInt? n = some x) : HasType (.int n) .number
  /-- So is a finite double. -/
  | float (x : Double) (h : x.isFinite = true) : HasType (.float x) .number
  /-- A truth value is one. -/
  | bool (b : Bool) : HasType (.bool b) .boolean
  /-- A list is one, whatever is in it. -/
  | arr (items : List Json) : HasType (.arr items) .array
  /-- A text is one. -/
  | str (s : String) : HasType (.str s) .text

theorem hasType_zero : HasType (.int 0) .number :=
  .int 0 _ rfl

theorem hasType_zeroValue (type : FieldType) : HasType (zeroValue type) type := by
  cases type with
  | number => exact hasType_zero
  | boolean => exact .bool false
  | array => exact .arr []
  | text => exact .str ""

theorem hasType_numberValue {x : Double} (hx : ∀ v, x.value? = some v → Double.Representable v) :
    HasType (numberValue x) .number := by
  unfold numberValue
  cases hn : x.toInt? with
  | some n =>
    obtain ⟨y, hy⟩ := Double.exists_ofInt?_of_toInt? hx hn
    exact .int n y hy
  | none =>
    simp only []
    split_ifs with hfinite
    · exact .float x hfinite
    · exact hasType_zero

theorem hasType_of_coerceNumber (h : coerceNumber v = .ok w) : HasType w .number := by
  have hother (hfloat : ∀ x, v ≠ .float x) (h : (v.toDouble.bind fun x => .ok (numberValue x)) =
      .ok w) : HasType w .number := by
    obtain ⟨x, hx, hvalue⟩ := Except.bind_eq_ok_iff.mp h
    obtain rfl := Except.ok.inj hvalue
    exact hasType_numberValue fun _ => Json.representable_of_toDouble hfloat hx
  cases v with
  | int n =>
    cases hn : Double.ofInt? n with
    | none => simp [coerceNumber, hn] at h
    | some x =>
      obtain rfl : .int n = w := by simpa [coerceNumber, hn] using h
      exact .int n x hn
  | float x =>
    obtain rfl := Except.ok.inj h
    split_ifs with hfinite
    · exact .float x hfinite
    · exact hasType_zero
  | _ => exact hother (by simp) h

/-- **A value is coerced to one of the type.** -/
theorem hasType_of_coerce (h : coerce v type = .ok w) : HasType w type := by
  cases type with
  | number => exact hasType_of_coerceNumber h
  | boolean =>
    obtain rfl := Except.ok.inj h
    exact .bool _
  | array =>
    obtain rfl := Except.ok.inj h
    cases v <;> exact .arr _
  | text =>
    obtain rfl := Except.ok.inj h
    cases v <;> exact .str _

/-- **A value of the type is coerced to itself.** -/
theorem coerce_of_hasType (h : HasType v type) : coerce v type = .ok v := by
  cases h with
  | int n x h => rw [coerce, coerceNumber, h]
  | float x h => rw [coerce, coerceNumber, if_pos h]
  | bool b => rfl
  | arr items => rfl
  | str s => rfl

/-! ### Records -/

variable {specs : List FieldSpec} {spec : FieldSpec} {record answer : Fields}

/-- The last field of a list with a key. -/
def lastWith? (specs : List FieldSpec) (key : String) : Option FieldSpec :=
  specs.reverse.find? fun spec => spec.key = key

theorem lastWith?_append_singleton (specs : List FieldSpec) (spec : FieldSpec) (key : String) :
    lastWith? (specs ++ [spec]) key =
      if spec.key = key then some spec else lastWith? specs key := by
  rw [lastWith?, List.reverse_append, List.reverse_singleton, List.singleton_append]
  split_ifs with hkey
  · exact List.find?_cons_of_pos (by simpa using hkey)
  · exact List.find?_cons_of_neg (by simpa using hkey)

/-- A record has a value for every field of a list and no other, and each is of the type of the last
field with its key. -/
structure Fits (specs : List FieldSpec) (record : Fields) : Prop where
  /-- No key has two values. -/
  nodup : record.names.Nodup
  /-- The keys are those of the fields. -/
  keys : ∀ key, key ∈ record.names ↔ ∃ spec ∈ specs, spec.key = key
  /-- The values are of the types. -/
  types : ∀ key value, record.get? key = some value →
    ∃ spec, lastWith? specs key = some spec ∧ HasType value (.ofName spec.type)

theorem fits_nil : Fits [] [] :=
  ⟨List.nodup_nil, by simp [Fields.names], by simp⟩

/-- A value of its type is written for one more field. -/
theorem Fits.set (h : Fits specs record) (hv : HasType v (.ofName spec.type)) :
    Fits (specs ++ [spec]) (record.set spec.key v) := by
  refine ⟨Fields.nodup_names_set h.nodup, fun key => ?_, fun key value hvalue => ?_⟩
  · rw [Fields.mem_names_set, h.keys]
    simp [or_and_right, exists_or, eq_comm]
  · rw [Fields.get?_set] at hvalue
    rw [lastWith?_append_singleton]
    split_ifs at hvalue ⊢ with hkey
    · obtain rfl := Option.some.inj hvalue
      exact ⟨spec, rfl, hv⟩
    · exact h.types key value hvalue

/-- The record of zero values is of the types. -/
theorem fits_zeroRecord (specs : List FieldSpec) : Fits specs (zeroRecord specs) := by
  induction specs using List.reverseRecOn with
  | nil => exact fits_nil
  | append_singleton specs spec ih =>
    rw [zeroRecord, List.foldl_append]
    exact ih.set (hasType_zeroValue _)

/-- So is the record of the values that a model gave, whatever these are. -/
theorem fits_of_coerceAll {done rest : List FieldSpec} {whole : Fields} (h : Fits done record)
    (hwhole : coerceAll answer record rest = .ok whole) : Fits (done ++ rest) whole := by
  induction rest generalizing done record with
  | nil =>
    obtain rfl := Except.ok.inj hwhole
    rwa [List.append_nil]
  | cons spec rest ih =>
    obtain ⟨value, hvalue, hwhole⟩ := Except.bind_eq_ok_iff.mp hwhole
    rw [List.append_cons]
    exact ih (h.set (hasType_of_coerce hvalue)) hwhole

/-- **An extraction writes a record of the types**, whatever the backend is. -/
theorem exists_record_of_run {σ : Type} {backend : Backend σ} {settings : ExtractSettings}
    {context : Fields} {s s' : σ} {outcome : Outcome}
    (hrun : run backend settings context s = (.ok outcome, s')) :
    ∃ record, outcome.context = context.set settings.outputKey (.obj record) ∧
      Fits settings.fields record := by
  obtain ⟨source, s₁, -, hrun⟩ := Effect.bind_eq_ok_iff.mp hrun
  split_ifs at hrun with hfields
  · obtain ⟨rfl, -⟩ := Effect.pure_eq_ok_iff.mp hrun
    rw [List.isEmpty_iff.mp hfields]
    exact ⟨[], rfl, fits_nil⟩
  · obtain ⟨answer?, s₂, -, hrun⟩ := Effect.bind_eq_ok_iff.mp hrun
    cases answer? with
    | none =>
      obtain ⟨rfl, -⟩ := Effect.pure_eq_ok_iff.mp hrun
      exact ⟨_, rfl, fits_zeroRecord _⟩
    | some answer =>
      obtain ⟨record, s₃, hrecord, hrun⟩ := Effect.bind_eq_ok_iff.mp hrun
      obtain ⟨hcoerced, -⟩ := Effect.ofData_eq_ok_iff.mp hrecord
      obtain ⟨rfl, -⟩ := Effect.pure_eq_ok_iff.mp hrun
      exact ⟨record, rfl, fits_of_coerceAll fits_nil hcoerced⟩

end Activity.Extraction

/-! ### Nodes -/

namespace Node

open Activity.Extraction

/-- **What an extraction writes, and that to coerce twice is to coerce once.**  Whenever it
succeeds, live or simulated, its context is the one it was given with a record written to it.  The
keys of the record are those of the fields, and each value is of the type of the last field with its
key.  A value that was coerced to the type of a name is coerced to itself. -/
theorem execute_extract {σ : Type} (c : Collaborators σ) (workflowId : String) (live : Bool)
    (node : Node) (registry : List NodeType) (context : Fields) (s s' : σ) (outcome : Outcome) :
    let settings := Settings.extractOf node.config
    (node.type = .extract →
      node.execute registry (if live then .live c workflowId else .simulated) context s =
        (.ok outcome, s') →
      ∃ record : Fields, outcome.context = context.set settings.outputKey (.obj record) ∧
        record.names.Nodup ∧
        (∀ key, key ∈ record.names ↔ ∃ spec ∈ settings.fields, spec.key = key) ∧
        ∀ key value, record.get? key = some value →
          ∃ spec, lastWith? settings.fields key = some spec ∧ HasType value (.ofName spec.type)) ∧
    ∀ v w type, coerce v (.ofName type) = .ok w → coerce w (.ofName type) = .ok w := by
  intro settings
  refine ⟨fun htype hrun => ?_, fun v w type h => coerce_of_hasType (hasType_of_coerce h)⟩
  have hact := act_of_execute hrun
  rw [act, settings_of_extract htype] at hact
  obtain ⟨record, hcontext, hnodup, hkeys, htypes⟩ := exists_record_of_run hact
  exact ⟨record, hcontext, hnodup, hkeys, htypes⟩

/-- An extraction of four fields, the first and the last of which have one key. -/
def invoice : Node :=
  { NodeType.extract.fresh "invoice" ⟨.whole 0, .whole 0⟩ with
    config := [("fields", .arr [
      .obj [("key", .str "total")],
      .obj [("key", .str "paid"), ("type", .str "boolean")],
      .obj [("key", .str "lines"), ("type", .str "array")],
      .obj [("key", .str "total"), ("type", .str "number")]])] }

/-- The total is a number, since the last field with this key is one of numbers, though the model
gives a text. -/
theorem execute_extract_invoice :
    let reply := "\x7b\"total\": \"1250e-1\", \"paid\": \"no\", \"lines\": 3, \"due\": null\x7d"
    ∃ outcome, invoice.execute NodeType.all (.live (answering reply) "wf") [] () =
        (.ok outcome, ()) ∧
      ∃ record total, outcome.context = [("extracted", .obj record)] ∧
        Fields.names record = ["total", "paid", "lines"] ∧
        Fields.get? record "total" = some total ∧ HasType total .number ∧ total.spell = "125" := by
  intro reply
  have hwritten : ((invoice.execute NodeType.all (.live (answering reply) "wf") [] ()).1.map
      fun outcome => ((outcome.context.get? "extracted").bind Json.obj?).map fun record =>
        (Fields.names record, (Fields.get? record "total").map Json.spell)).toOption =
          some (some (["total", "paid", "lines"], some "125")) := by decide +kernel
  rcases hrun : invoice.execute NodeType.all (.live (answering reply) "wf") [] () with
    ⟨fault | outcome, ⟨⟩⟩ <;> rw [hrun] at hwritten
  · cases hwritten
  · obtain ⟨record, hcontext, -, -, htypes⟩ := (execute_extract (answering reply) "wf" true
      invoice NodeType.all [] () () outcome).1 rfl hrun
    rw [Except.map, hcontext] at hwritten
    obtain ⟨hnames, htotal⟩ := Prod.mk.inj (Option.some.inj (Option.some.inj hwritten))
    obtain ⟨total, hvalue, hspell⟩ := Option.map_eq_some_iff.mp htotal
    obtain ⟨spec, hlast, htype⟩ := htypes "total" total hvalue
    obtain rfl := Option.some.inj hlast
    exact ⟨outcome, rfl, record, total, hcontext, hnames, hvalue, htype, hspell⟩

end Node
end Flowgraph
