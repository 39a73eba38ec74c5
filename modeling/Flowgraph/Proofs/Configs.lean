import Flowgraph.Proofs.Equality
import Flowgraph.Proofs.Refusals
import Mathlib.Data.List.Forall2

/-!
# Configurations that are read again

Any object is read as a configuration, unless one of its names holds half of a pair.  What is read is
complete: every setting of the kind is there and is of its kind of value, and all else is kept as it
is.  When the configuration is taken as data and read once more, nothing changes: the name of a table
has no blanks around it any more, the word for a format is in small letters, a default is a value that
can be used, and what was spelled out is a text.

## Main definitions

* `SettingKind`, `SettingKind.Admits` — the kinds of values that settings have.
* `Settings.declared` — the settings of a kind of node, with their kinds of values.

## Main results

* `Settings.toFields_declared` — the settings that are read are complete and of their kinds.
* `Settings.ofFields_toFields` — they are read again as they are.
* `Config.read_obj` — **any object is read, and what is read is read again as it is.**
* `Config.not_read_half` — an object that is not read, for one of its names.
-/

namespace Flowgraph

/-! ### Fields of objects -/

namespace Fields

variable {fields : Fields} {name : String}

theorem get?_append (fields others : Fields) (name : String) :
    get? (fields ++ others) name = (get? fields name).or (get? others name) := by
  induction fields with
  | nil => simp
  | cons field rest ih =>
    obtain ⟨key, value⟩ := field
    by_cases h : key = name <;> simp [h, ih]

theorem get?_eq_none (h : name ∉ fields.names) : get? fields name = none :=
  Option.not_isSome_iff_eq_none.mp fun hsome => h (has_iff.mp hsome)

/-- A field is still there where fields of other names are left out. -/
theorem get?_filter {p : String → Bool} (h : p name = true) :
    get? (fields.filter fun field => p field.1) name = get? fields name := by
  induction fields with
  | nil => rfl
  | cons field rest ih =>
    obtain ⟨key, value⟩ := field
    by_cases hkey : key = name
    · simp [hkey, h]
    · cases hp : p key <;> simp [hp, hkey, ih]

end Fields

/-! ### Kinds of values -/

/-- What kind of value a setting has. -/
inductive SettingKind where
  /-- Any value. -/
  | any
  /-- A text. -/
  | text
  /-- A text or `null`. -/
  | optionalText
  /-- A truth value. -/
  | flag
  /-- A number, an integer or a double. -/
  | number
  /-- A list of texts. -/
  | texts
  /-- A list of fields to extract. -/
  | specs
  /-- An object. -/
  | object
  /-- The format of a file. -/
  | format
deriving DecidableEq, Repr

/-- A value is one of a kind. -/
inductive SettingKind.Admits : SettingKind → Json → Prop where
  /-- Any value. -/
  | any (v : Json) : Admits any v
  /-- A text. -/
  | text (s : String) : Admits text (.str s)
  /-- A text or `null`. -/
  | optionalText (s? : Option String) : Admits optionalText (.ofOption s?)
  /-- A truth value. -/
  | flag (b : Bool) : Admits flag (.bool b)
  /-- An integer. -/
  | int (n : Int) : Admits number (.int n)
  /-- A double. -/
  | float (x : Double) : Admits number (.float x)
  /-- A list of texts. -/
  | texts (list : List String) : Admits texts (.strs list)
  /-- A list of fields to extract, each with a key, a type and whether it is required. -/
  | specs (list : List FieldSpec) : Admits specs (.arr (list.map FieldSpec.toJson))
  /-- An object. -/
  | object (fields : Fields) : Admits object (.obj fields)
  /-- The name of a format. -/
  | format (f : FileFormat) : Admits format (.str f.name)

namespace Settings

/-- The settings of a kind of node, each with the kind of its value. -/
def declared (type : Option NodeType) : List (String × SettingKind) :=
  match type with
  | some .summarize => [("input_path", .text), ("output_key", .text), ("style", .text),
      ("bullets", .flag), ("instructions", .text)]
  | some .classify => [("input_path", .text), ("labels", .texts), ("output_key", .text),
      ("confidence_key", .text), ("instructions", .text)]
  | some .extract => [("input_path", .text), ("fields", .specs), ("output_key", .text),
      ("instructions", .text)]
  | some .report => [("input_path", .text), ("output_key", .text), ("template", .text),
      ("format", .text), ("instructions", .text)]
  | some .condition => [("expression", .text), ("default_output", .optionalText)]
  | some .delay => [("seconds", .number), ("reason", .optionalText)]
  | some .save => [("table", .text), ("mode", .text), ("mapping", .object)]
  | some .exporter => [("input_path", .text), ("format", .format), ("filename", .optionalText)]
  | some _ => [("sample_input", .any), ("sample_payload", .any), ("payload", .any)]
  | none => []

theorem names_declared (type : Option NodeType) :
    (declared type).map Prod.fst = knownNames type := by
  rcases type with _ | _ | _ <;> rfl

theorem nodup_knownNames (type : Option NodeType) : (knownNames type).Nodup := by
  rcases type with _ | _ | _ <;> decide

/-! ### Settings that are read -/

theorem admits_seconds (fields : Fields) : SettingKind.Admits .number (delayOf fields).seconds := by
  have hnumber : ∀ v n, Lax.number? v = some n → SettingKind.Admits .number n := by
    intro v n h
    unfold Lax.number? at h
    split at h
    · exact Option.some.inj h ▸ .int _
    · exact Option.some.inj h ▸ .int _
    · exact Option.some.inj h ▸ .float _
    · split at h
      · exact Option.some.inj h ▸ .int _
      · obtain ⟨x, -, rfl⟩ := Option.map_eq_some_iff.mp h
        exact .float x
    · cases h
  cases hseconds : (fields.get? "seconds").bind Lax.number? with
  | none =>
    rw [delayOf, hseconds]
    exact .int 0
  | some n =>
    obtain ⟨v, -, hv⟩ := Option.bind_eq_some_iff.mp hseconds
    rw [delayOf, hseconds]
    exact hnumber v n hv

/-- **The settings that are read are complete**, and of their kinds of values. -/
theorem toFields_declared (type : Option NodeType) (raw : Fields) :
    List.Forall₂ (fun setting field => setting.1 = field.1 ∧ SettingKind.Admits setting.2 field.2)
      (declared type) (ofFields type raw).toFields := by
  rcases type with _ | _ | _
  all_goals
    repeat' first | exact List.Forall₂.nil | refine List.Forall₂.cons ⟨rfl, ?_⟩ ?_
  all_goals first | exact admits_seconds raw | constructor

/-! ### Settings that are read again -/

/-- The name of a table is not empty, and has no blanks around it. -/
theorem strip_table (fields : Fields) :
    Text.strip (saveOf fields).table.toList = (saveOf fields).table.toList ∧
      (saveOf fields).table ≠ "" := by
  have hdefault : Text.strip "va_items".toList = "va_items".toList ∧ "va_items" ≠ "" := by
    decide
  change Text.strip (table fields "va_items").toList = (table fields "va_items").toList ∧
    table fields "va_items" ≠ ""
  unfold table
  split
  · exact hdefault
  · rename_i s _
    simp only []
    split_ifs with hempty
    · exact hdefault
    · rw [String.toList_ofList, Text.strip_strip]
      refine ⟨rfl, fun hnil => hempty ?_⟩
      rw [← String.toList_ofList (l := Text.strip s.toList), hnil]
      rfl

/-! Each of the readers finds its settings in front of the other fields. -/

theorem triggerOf_toFields (s : TriggerSettings) (extras : Fields) :
    triggerOf ((trigger s).toFields ++ extras) = s :=
  rfl

theorem summarizeOf_toFields (s : SummarizeSettings) (extras : Fields) :
    summarizeOf ((summarize s).toFields ++ extras) = s :=
  rfl

theorem filterMap_str? (list : List String) : (list.map Json.str).filterMap Json.str? = list := by
  rw [List.filterMap_map]
  exact List.filterMap_some

theorem classifyOf_toFields (s : ClassifySettings) (extras : Fields) :
    classifyOf ((classify s).toFields ++ extras) = s := by
  change { s with labels := (s.labels.map Json.str).filterMap Json.str? } = s
  rw [filterMap_str?]

/-- What was spelled out is a text. -/
theorem map_fieldSpec (specs : List FieldSpec) :
    (specs.map FieldSpec.toJson).map fieldSpec = specs := by
  rw [List.map_map]
  exact List.map_id specs

theorem extractOf_toFields (s : ExtractSettings) (extras : Fields) :
    extractOf ((extract s).toFields ++ extras) = s := by
  change { s with fields := (s.fields.map FieldSpec.toJson).map fieldSpec } = s
  rw [map_fieldSpec]

theorem reportOf_toFields (s : ReportSettings) (extras : Fields) :
    reportOf ((report s).toFields ++ extras) = s :=
  rfl

theorem str?_ofOption (s? : Option String) : (Json.ofOption s?).str? = s? := by
  cases s? <;> rfl

theorem conditionOf_toFields (s : ConditionSettings) (extras : Fields) :
    conditionOf ((condition s).toFields ++ extras) = s := by
  change { s with defaultOutput := (Json.ofOption s.defaultOutput).str? } = s
  rw [str?_ofOption]

theorem number?_of_admits {v : Json} (h : SettingKind.Admits .number v) :
    Lax.number? v = some v := by
  cases h <;> rfl

theorem delayOf_toFields {s : DelaySettings} (h : SettingKind.Admits .number s.seconds)
    (extras : Fields) : delayOf ((delay s).toFields ++ extras) = s := by
  change { s with
    seconds := (Lax.number? s.seconds).getD (.int 0)
    reason := (Json.ofOption s.reason).str? } = s
  rw [number?_of_admits h, str?_ofOption, Option.getD_some]

theorem saveOf_toFields {s : SaveSettings} (hstrip : Text.strip s.table.toList = s.table.toList)
    (hne : s.table ≠ "") (extras : Fields) : saveOf ((save s).toFields ++ extras) = s := by
  have hempty : s.table.toList.isEmpty = false := by
    simpa using hne
  change { s with table :=
    if (Text.strip s.table.toList).isEmpty then "va_items"
    else String.ofList (Text.strip s.table.toList) } = s
  rw [hstrip, hempty, if_neg Bool.false_ne_true, String.ofList_toList]

/-- The format is read as a word in small letters, and it is written as one. -/
theorem exporterOf_toFields (s : ExportSettings) (extras : Fields) :
    exporterOf ((exporter s).toFields ++ extras) = s := by
  have hformat : (if Text.lower (Text.strip s.format.name.toList) = "csv".toList then
      FileFormat.csv else .json) = s.format := by
    cases s.format <;> decide
  change { s with
    format := if Text.lower (Text.strip s.format.name.toList) = "csv".toList then .csv else .json
    filename := (Json.ofOption s.filename).str? } = s
  rw [hformat, str?_ofOption]

/-- **The settings that are read are read again as they are**, whatever comes behind them. -/
theorem ofFields_toFields (type : Option NodeType) (raw extras : Fields) :
    ofFields type ((ofFields type raw).toFields ++ extras) = ofFields type raw := by
  rcases type with _ | _ | _
  case some.summarize => exact congrArg summarize (summarizeOf_toFields _ extras)
  case some.classify => exact congrArg classify (classifyOf_toFields _ extras)
  case some.extract => exact congrArg extract (extractOf_toFields _ extras)
  case some.report => exact congrArg report (reportOf_toFields _ extras)
  case some.condition => exact congrArg condition (conditionOf_toFields _ extras)
  case some.delay => exact congrArg delay (delayOf_toFields (admits_seconds raw) extras)
  case some.save =>
    obtain ⟨hstrip, hne⟩ := strip_table raw
    exact congrArg save (saveOf_toFields hstrip hne extras)
  case some.exporter => exact congrArg exporter (exporterOf_toFields _ extras)
  case none => rfl
  all_goals exact congrArg trigger (triggerOf_toFields _ extras)

/-- A setting is found in front of the other fields. -/
theorem exists_setting {settings : List (String × SettingKind)} {fields : Fields}
    (h : List.Forall₂ (fun setting field => setting.1 = field.1 ∧
      SettingKind.Admits setting.2 field.2) settings fields)
    (hnodup : (settings.map Prod.fst).Nodup) {setting : String × SettingKind}
    (hsetting : setting ∈ settings) :
    ∃ v, fields.get? setting.1 = some v ∧ SettingKind.Admits setting.2 v := by
  induction h with
  | nil => cases hsetting
  | @cons first field settings fields hfirst _ ih =>
    obtain ⟨name, v⟩ := field
    obtain ⟨rfl, hadmits⟩ := hfirst
    obtain ⟨hnew, hnodup⟩ := List.nodup_cons.mp hnodup
    rcases List.mem_cons.mp hsetting with rfl | hsetting
    · exact ⟨v, by simp, hadmits⟩
    · have hne : first.1 ≠ setting.1 := fun heq => hnew (heq ▸ List.mem_map_of_mem hsetting)
      obtain ⟨w, hw, hadmits⟩ := ih hnodup hsetting
      exact ⟨w, by rw [Fields.get?_cons, if_neg hne, hw], hadmits⟩

theorem names_toFields (type : Option NodeType) (raw : Fields) :
    (ofFields type raw).toFields.names = knownNames type := by
  rcases type with _ | _ | _ <;> rfl

end Settings

/-! ### Configurations -/

namespace Config

open Settings

variable {type : Option NodeType} {raw : Fields} {name : String} {c : Config}

/-- The names of objects are looked at, and nothing else. -/
theorem ofJson_eq_ok_iff : ofJson type (.obj raw) = .ok c ↔
    Shape.hasPlainNames raw = true ∧ ofFields type raw = c := by
  unfold ofJson
  simp only [Shape.part, Checked.fitting]
  split_ifs with h <;> simp [Checked.map, Checked.report, Checked.fail, h]

/-- The settings of a configuration stand in front, and what the kind does not know behind them. -/
theorem toFields_ofFields (type : Option NodeType) (raw : Fields) :
    (ofFields type raw).toFields = (Settings.ofFields type raw).toFields ++
      raw.filter fun field => !(knownNames type).contains field.1 :=
  rfl

theorem exists_get?_toFields {setting : String × SettingKind} (h : setting ∈ declared type) :
    ∃ v, (ofFields type raw).toFields.get? setting.1 = some v ∧ setting.2.Admits v := by
  have hnodup : ((declared type).map Prod.fst).Nodup := by
    rw [names_declared]
    exact nodup_knownNames type
  obtain ⟨v, hv, hadmits⟩ := exists_setting (toFields_declared type raw) hnodup h
  refine ⟨v, ?_, hadmits⟩
  rw [toFields_ofFields, Fields.get?_append, hv, Option.some_or]

theorem get?_toFields_of_unknown (h : name ∉ knownNames type) :
    (ofFields type raw).toFields.get? name = raw.get? name := by
  have hsettings : (Settings.ofFields type raw).toFields.get? name = none :=
    Fields.get?_eq_none (by rwa [names_toFields])
  rw [toFields_ofFields, Fields.get?_append, hsettings, Option.none_or]
  exact Fields.get?_filter (p := fun key => !(knownNames type).contains key) (by simpa using h)

/-- **A configuration is read again as it is.** -/
theorem ofFields_toFields (type : Option NodeType) (raw : Fields) :
    ofFields type (ofFields type raw).toFields = ofFields type raw := by
  have hsettings : Settings.ofFields type (ofFields type raw).toFields =
      Settings.ofFields type raw := Settings.ofFields_toFields type raw _
  have hknown : ((Settings.ofFields type raw).toFields.filter fun field =>
      !(knownNames type).contains field.1) = [] := by
    refine List.filter_eq_nil_iff.mpr fun field hfield => ?_
    have hname : field.1 ∈ knownNames type := by
      rw [← names_toFields type raw]
      exact List.mem_map_of_mem hfield
    simpa using hname
  have hextras : ((ofFields type raw).toFields.filter fun field =>
      !(knownNames type).contains field.1) = (ofFields type raw).extras := by
    rw [toFields_ofFields, List.filter_append, hknown, List.nil_append, List.filter_filter]
    simp only [Bool.and_self]
    rfl
  rw [ofFields, hsettings, hextras]
  rfl

/-- A name of a configuration is that of a setting, or of a field that was kept. -/
theorem mem_names_toFields (h : name ∈ (ofFields type raw).toFields.names) :
    name ∈ knownNames type ∨ name ∈ raw.names := by
  obtain ⟨field, hfield, rfl⟩ := List.mem_map.mp h
  rcases List.mem_append.mp hfield with hfield | hfield
  · rw [← names_toFields type raw]
    exact .inl (List.mem_map_of_mem hfield)
  · exact .inr (List.mem_map_of_mem (List.mem_of_mem_filter hfield))

theorem hasPlainNames_toFields (h : Shape.hasPlainNames raw = true) :
    Shape.hasPlainNames (ofFields type raw).toFields = true := by
  have hknown : ∀ name ∈ knownNames type, Text.hasHalf name = false := by
    rcases type with _ | _ | _ <;> decide
  simp only [Shape.hasPlainNames, Bool.not_eq_true', List.any_eq_false, Bool.not_eq_true] at h ⊢
  intro name hname
  rcases mem_names_toFields hname with hname | hname
  · exact hknown name hname
  · exact h name hname

/-- **Any object is read, and what is read is read again as it is.**  An object is read as a
configuration exactly if its names are characters all through.  Then every setting of the kind is
there with a value of its kind, and every other name has the value that it had.  A list of fields to
extract keeps its length, and a list of labels keeps its texts in order.  And the configuration,
taken as data, is read as the same configuration. -/
theorem read_obj (type : Option NodeType) (raw : Fields) :
    ((∃ c, ofJson type (.obj raw) = .ok c) ↔ Shape.hasPlainNames raw = true) ∧
    ∀ c, ofJson type (.obj raw) = .ok c →
      (∀ setting ∈ declared type,
        ∃ v, c.toFields.get? setting.1 = some v ∧ setting.2.Admits v) ∧
      (∀ name ∉ (declared type).map Prod.fst, c.toFields.get? name = raw.get? name) ∧
      (type = some .extract → ∀ items, raw.get? "fields" = some (.arr items) →
        ∃ specs, c.toFields.get? "fields" = some (.arr specs) ∧ specs.length = items.length) ∧
      (type = some .classify → ∀ items, raw.get? "labels" = some (.arr items) →
        c.toFields.get? "labels" = some (.strs (items.filterMap Json.str?))) ∧
      ofJson type (.obj c.toFields) = .ok c := by
  refine ⟨⟨fun ⟨c, hc⟩ => (ofJson_eq_ok_iff.mp hc).1,
    fun h => ⟨_, ofJson_eq_ok_iff.mpr ⟨h, rfl⟩⟩⟩, fun c hc => ?_⟩
  obtain ⟨hplain, rfl⟩ := ofJson_eq_ok_iff.mp hc
  refine ⟨fun setting hsetting => exists_get?_toFields hsetting, fun name hname => ?_, ?_, ?_,
    ofJson_eq_ok_iff.mpr ⟨hasPlainNames_toFields hplain, ofFields_toFields type raw⟩⟩
  · rw [names_declared] at hname
    exact get?_toFields_of_unknown hname
  · rintro rfl items hitems
    refine ⟨(extractOf raw).fields.map FieldSpec.toJson, rfl, ?_⟩
    simp [extractOf, hitems, Json.arr?]
  · rintro rfl items hitems
    change some (Json.strs (labels raw)) = _
    rw [labels, hitems, Option.bind_some, Json.arr?, Option.getD_some]

/-- Labels that are no texts are left out, a key that is no text gives way to the default, and a
name that is not known is kept. -/
theorem read_obj_labels :
    let raw : Fields := [("labels", .arr [.str "a", .int 1, .null, .str "b"]),
      ("confidence_key", .int 3), ("note", .bool true)]
    ∃ c, ofJson (some .classify) (.obj raw) = .ok c ∧
      c.toFields.get? "labels" = some (.strs ["a", "b"]) ∧
      c.toFields.get? "note" = some (.bool true) ∧
      (∃ s, c.toFields.get? "confidence_key" = some (.str s)) ∧
      ofJson (some .classify) (.obj c.toFields) = .ok c := by
  intro raw
  obtain ⟨hread, hkept⟩ := read_obj (some .classify) raw
  obtain ⟨c, hc⟩ := hread.mpr (by decide)
  obtain ⟨hsettings, hothers, -, hlabels, hagain⟩ := hkept c hc
  obtain ⟨v, hv, hadmits⟩ := hsettings ("confidence_key", .text) (by decide)
  cases hadmits with
  | text s => exact ⟨c, hc, hlabels rfl _ rfl, hothers "note" (by decide), ⟨s, hv⟩, hagain⟩

/-- **An object that is not read**: its only name is half of a pair. -/
theorem not_read_half :
    ofJson (some .delay) (.obj [(Document.loneHalf, .int 1)]) =
      .error ["document: Input should be a valid string, " ++
        "unable to parse raw data as a unicode string"] := by
  have hhalf : Shape.hasPlainNames [(Document.loneHalf, .int 1)] = false := by
    decide
  simp only [ofJson, Shape.part, Checked.fitting, hhalf]
  rfl

end Config
end Flowgraph
