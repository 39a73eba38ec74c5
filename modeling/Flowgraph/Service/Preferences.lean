import Flowgraph.LanguageModel.Basic
import Flowgraph.Service.Runs

/-!
# Preferences

What an operator may set: where the service listens, how workflows are run and kept, and which
language model is asked on whose account. Preferences come as data, in which every name must be
known and every value must stand for one of the right kind; all that is wrong is found at once.

## Main definitions

* `Preferences`: the preferences that the library makes use of.
* `PreferenceError`: why data gives no preferences.
* `Preferences.read`: the preferences that data gives.
-/

namespace Flowgraph

/-- The preferences that the library makes use of. -/
structure Preferences where
  /-- Which model is asked. -/
  model : ModelSettings := {}
  /-- How workflows are run. -/
  policy : RunPolicy := {}
deriving Inhabited

/-- Why data gives no preferences. -/
inductive PreferenceError where
  /-- All that is wrong with it. -/
  | problems (found : List String)
  /-- It names the preferences themselves. -/
  | ownSelf
deriving DecidableEq, Repr

/-- The wording of a reason, where it is not in the problems. -/
def PreferenceError.message : PreferenceError → String
  | problems found => "\n".intercalate found
  | ownSelf => s!"BaseSettings.__init__() got multiple values for argument '{selfName}'"

namespace Preferences

/-- What a preference must be. -/
inductive Kind where
  /-- A text. -/
  | text
  /-- A text or nothing. -/
  | optionalText
  /-- A list of texts. -/
  | texts
  /-- One of these texts. -/
  | oneOf (choices : List String)
  /-- A truth value. -/
  | flag
  /-- An integer. -/
  | integer
  /-- A number. -/
  | real
deriving DecidableEq, Repr

/-- The preferences by name, in the order in which they are looked at. -/
def kinds : List (String × Kind) := [
  ("host", .text),
  ("port", .integer),
  ("reload", .flag),
  ("log_level", .oneOf ["debug", "info", "warning", "error"]),
  ("app_name", .text),
  ("app_version", .text),
  ("debug", .flag),
  ("cors_origins", .texts),
  ("cors_allow_credentials", .flag),
  ("cors_allow_methods", .texts),
  ("cors_allow_headers", .texts),
  ("run_mode", .oneOf ["simulate", "live"]),
  ("db_save_table", .text),
  ("run_monthly_limit", .integer),
  ("database_url", .optionalText),
  ("max_run_records", .integer),
  ("llm_model", .text),
  ("llm_temperature", .real),
  ("llm_timeout_seconds", .real),
  ("openai_api_key", .optionalText),
  ("openai_base_url", .optionalText),
  ("anthropic_api_key", .optionalText)]

/-- What may be said of where preferences come from. It does not matter here, where all of them are
given. -/
def sourceOptions : List String := [
  "_case_sensitive", "_nested_model_default_partial_update", "_env_prefix",
  "_env_prefix_target", "_env_file", "_env_file_encoding", "_env_ignore_empty",
  "_env_nested_delimiter", "_env_nested_max_split", "_env_parse_none_str", "_env_parse_enums",
  "_cli_prog_name", "_cli_parse_args", "_cli_settings_source", "_cli_parse_none_str",
  "_cli_hide_none_type", "_cli_avoid_json", "_cli_enforce_required",
  "_cli_use_class_docs_for_groups", "_cli_exit_on_error", "_cli_prefix", "_cli_flag_prefix_char",
  "_cli_implicit_flags", "_cli_ignore_unknown_args", "_cli_kebab_case", "_cli_shortcuts",
  "_secrets_dir", "_build_sources"]

/-- The wording of a cause at a place. -/
def located (place : String) (cause : Cause) : String :=
  place ++ ": " ++ cause.message .data

/-- What is wrong with a value where a text is expected. -/
def textProblem (place : String) : Json → List String
  | .str s => if Text.hasHalf s then [located place .halfText] else []
  | _ => [located place .notText]

/-- What is wrong with the items of a list of texts, from an index on. -/
def textProblems (place : String) (index : Nat) : List Json → List String
  | [] => []
  | item :: items => textProblem s!"{place}.{index}" item ++ textProblems place (index + 1) items

/-- What is wrong with a value that is read in a lax way. -/
def laxProblem {α : Type} (place : String) (read : Json → Except Lax.Problem α) (v : Json) :
    List String :=
  if v.str?.any Text.hasHalf then [located place .halfText]
  else
    match read v with
    | .ok _ => []
    | .error problem => [place ++ ": " ++ problem.message]

/-- What is wrong with the value of a preference. -/
def Kind.problems (kind : Kind) (place : String) (v : Json) : List String :=
  match kind with
  | text => textProblem place v
  | optionalText => if v matches .null then [] else textProblem place v
  | texts =>
    match v with
    | .arr items => textProblems place 0 items
    | _ => [located place .notList]
  | oneOf choices =>
    if v.str?.any Text.hasHalf then [located place .halfText]
    else if v.str?.any choices.contains then []
    else [located place (.notOneOf choices)]
  | flag => laxProblem place Lax.flag v
  | integer => laxProblem place Lax.integer v
  | real => laxProblem place Lax.real v

/-- All that is wrong with preferences: first with those that are known, then every unknown name. -/
def problems (fields : Fields) : List String :=
  let ofKnown := kinds.flatMap fun (name, kind) =>
    match fields.get? name with
    | some v => kind.problems name v
    | none => []
  let unknown := fields.names.filter fun name =>
    (kinds.lookup name).isNone && !sourceOptions.contains name
  ofKnown ++ unknown.map (· ++ ": Extra inputs are not permitted")

/-- The value of a preference, or another where it is not set or stands for none. -/
def valueOr {α : Type} (fields : Fields) (name : String) (default : α)
    (read : Json → Except Lax.Problem α) : α :=
  match fields.get? name with
  | some v => (read v).toOption.getD default
  | none => default

/-- The preferences in data in which nothing is wrong. -/
def ofFields (fields : Fields) : Preferences :=
  let default : Preferences := {}
  let text? (name : String) : Option String := (fields.get? name).bind Json.str?
  { model := {
      model := (fields.get? "llm_model").getD default.model.model
      temperature := valueOr fields "llm_temperature" default.model.temperature
        fun v => (Lax.real v).map .float
      openaiKey := text? "openai_api_key"
      openaiUrl := text? "openai_base_url"
      anthropicKey := text? "anthropic_api_key" }
    policy := {
      mode := (text? "run_mode").getD default.policy.mode
      monthlyLimit := valueOr fields "run_monthly_limit" default.policy.monthlyLimit Lax.integer
      maxRecords := valueOr fields "max_run_records" default.policy.maxRecords
        fun v => (Lax.integer v).map .int } }

/-- The preferences that data gives, or why it gives none. -/
def read (fields : Fields) : Except PreferenceError Preferences :=
  if fields.has selfName then .error .ownSelf
  else
    let found := problems fields
    if found.isEmpty then .ok (ofFields fields) else .error (.problems found)

end Preferences
end Flowgraph
