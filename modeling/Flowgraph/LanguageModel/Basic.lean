import Flowgraph.Config.Lax
import Flowgraph.Effect

/-!
# Language models

A question goes to one of two providers, by the name of the model. Each provider wants a request of
its own form and gives a reply of its own form; a client sends the one and brings back the other.
Models, conversations and options come as data, and only what a request is made from is looked at.

## Main definitions

* `Provider.ofModel`: the provider of a model.
* `Request.make`: the request for a conversation, in the form of its provider.
* `converse`: the answer of a model to a conversation.
* `ModelSettings.ask`, `ModelSettings.complete`: the answer to a single question, never blank.
-/

namespace Flowgraph

/-- Who runs a model. -/
inductive Provider where
  /-- OpenAI, or a server that understands the same requests. -/
  | openai
  /-- Anthropic. -/
  | anthropic
deriving DecidableEq, Repr, Inhabited

/-- The provider of a model. -/
def Provider.ofModel (model : String) : Provider :=
  if "claude-".toList.isPrefixOf model.toList then anthropic else openai

/-- A contribution to a conversation. -/
def contribution (role : String) (content : Json) : Json :=
  .obj [("role", .str role), ("content", content)]

/-- What may be asked for beside an answer, as data that nothing is known of. -/
structure AnswerOptions where
  /-- The most tokens that an answer may have; what counts as false asks for nothing. -/
  maxTokens : Json := .null
  /-- The form of the answer; what counts as false asks for nothing. -/
  format : Json := .null
  /-- The names of all options that are given, in order. -/
  names : List String := []
deriving Inhabited

/-- Why options cannot be passed on: what they name is settled already. -/
inductive OptionError where
  /-- The settings, which come from elsewhere. -/
  | settings
  /-- A part of the question. -/
  | question (name : String)
  /-- The client, which belongs to the provider. -/
  | client (provider : Provider)
deriving DecidableEq, Repr

/-- The wording of a reason. -/
def OptionError.message : OptionError → String
  | settings =>
    "vyntra.engine.llm_provider.call_llm() got multiple values for keyword argument 'config'"
  | question name => s!"call_llm() got multiple values for argument '{name}'"
  | client .openai => "_call_openai_compat() got multiple values for argument 'client'"
  | client .anthropic => "_call_anthropic() got multiple values for argument 'client'"

namespace AnswerOptions

/-- The options in data. -/
def ofFields (fields : Fields) : AnswerOptions :=
  ⟨fields.getD "max_tokens", fields.getD "response_format", fields.names⟩

/-- Whether no option names what is settled before a provider is chosen. -/
def checkQuestion (o : AnswerOptions) : Except OptionError Unit :=
  if o.names.contains "config" then .error .settings
  else
    match o.names.find? ["model", "messages", "temperature"].contains with
    | some name => .error (.question name)
    | none => .ok ()

/-- Whether no option names the client of a provider. -/
def checkClient (o : AnswerOptions) (provider : Provider) : Except OptionError Unit :=
  if o.names.contains "client" then .error (.client provider) else .ok ()

/-- Whether a number of tokens is asked for. -/
def limitsTokens (o : AnswerOptions) : Bool :=
  o.maxTokens.isTruthy

/-- The form of an answer that is an object. -/
def objectFormat : Json := .obj [("type", .str "json_object")]

/-- Whether an answer of some form is wanted that is an object. -/
def wantsObject (o : AnswerOptions) : Except RawError Bool :=
  match o.format with
  | .obj fields => .ok ((Fields.getD fields "type").str? == some "json_object")
  | format =>
    if format.isTruthy then .error (.noOperation format.kindName "get") else .ok false

end AnswerOptions

/-! ### Requests -/

/-- A request to a provider: its arguments by name. -/
structure Request where
  /-- The provider. -/
  provider : Provider
  /-- The arguments. -/
  arguments : Fields
deriving Inhabited

/-- The most tokens an answer may have where nothing is said. -/
def defaultMaxTokens : Int := 2048

/-- What a model is told when an object is wanted and its provider has no option for that. -/
def objectDirective : String := "Respond with a single JSON object and nothing else."

namespace Request

/-- A conversation as it is, the system's contributions among the others. -/
def openai (model : String) (messages temperature : Json) (o : AnswerOptions) :
    Except RawError Fields := do
  let limit := if o.limitsTokens then [("max_tokens", o.maxTokens)] else []
  let format :=
    if ← o.wantsObject then [("response_format", AnswerOptions.objectFormat)] else []
  pure ([("model", .str model), ("messages", messages), ("temperature", temperature)]
    ++ limit ++ format)

/-- The contents of the system's contributions, and the other contributions. -/
def separate : List Json → Except RawError (List Json × List Json)
  | [] => .ok ([], [])
  | message :: rest => do
    let role ← message.member "role"
    if role.str? == some "system" then
      let content ← message.member "content"
      let (system, chat) ← separate rest
      pure (content :: system, chat)
    else
      let (system, chat) ← separate rest
      pure (system, message :: chat)

/-- A conversation without the system's contributions, which are put together apart. -/
def anthropic (model : String) (messages temperature : Json) (o : AnswerOptions) :
    Except RawError Fields := do
  let (system, chat) ← separate (← messages.parts)
  let directive := if ← o.wantsObject then [.str objectDirective] else []
  let told ← Json.joined "\n\n" (system ++ directive)
  pure [("model", .str model),
    ("system", .str told),
    ("messages", .arr chat),
    ("temperature", temperature),
    ("max_tokens", if o.limitsTokens then o.maxTokens else .int defaultMaxTokens)]

/-- The request for a conversation, in the form of the model's provider. -/
def make (model : String) (messages temperature : Json) (o : AnswerOptions) :
    Except RawError Request :=
  match Provider.ofModel model with
  | .openai => (openai model messages temperature o).map (Request.mk .openai)
  | .anthropic => (anthropic model messages temperature o).map (Request.mk .anthropic)

end Request

/-! ### Replies -/

/-- A part of a reply. -/
structure Block where
  /-- The kind of the part. -/
  kind : String
  /-- The text of the part, if it has one. -/
  text : Option Json
deriving Inhabited

/-- The text of a part that must have one. -/
def Block.needText (block : Block) : Except RawError Json :=
  match block.text with
  | some v => .ok v
  | none => .error (.noOperation "types.SimpleNamespace" "text")

/-- A reply of a provider. -/
inductive Reply where
  /-- Several answers to choose from, `null` for one without content. -/
  | choices (contents : List Json)
  /-- One answer in parts. -/
  | blocks (parts : List Block)
deriving Inhabited

/-- The answer in a reply, `null` if there is none: the content of the first choice, or the text
parts of the only answer. -/
def Reply.answer : Reply → Except RawError Json
  | choices contents => .ok (contents.head?.getD .null)
  | blocks parts => do
    let texts ← (parts.filter fun part => part.kind == "text").mapM Block.needText
    let text ← Json.joined "" texts
    pure (if text.isEmpty then .null else .str text)

/-! ### Conversations -/

variable {σ : Type}

/-- Sends a request and brings back the reply. -/
abbrev Client (σ : Type) := Request → Effect σ Reply

/-- The kinds of failures of a provider or of the way to it. -/
def providerFailures : List String := ["OpenAIError", "AnthropicError", "ConnectError"]

/-- A failure of a provider as one of the model that was asked; other faults stay as they are. -/
def providerFault (model : String) : Fault → Fault
  | .foreign kind message =>
    if providerFailures.contains kind then
      .completion ("LLM request failed: " ++ message) (some model)
    else .foreign kind message
  | fault => fault

/-- What options allow, or the fault of those that cannot be passed on. -/
def ofOptions : Except OptionError Unit → Effect σ Unit
  | .ok () => pure ()
  | .error e => Effect.fail (.foreign "TypeError" e.message)

/-- The answer of a model to a conversation, `null` if it gives none. -/
def converse (client : Provider → Effect σ (Client σ)) (model messages temperature : Json)
    (o : AnswerOptions) : Effect σ Json := do
  ofOptions o.checkQuestion
  let name ← Effect.ofRaw (model.textFor "startswith")
  let asked : Effect σ Json := do
    let send ← client (Provider.ofModel name)
    ofOptions (o.checkClient (Provider.ofModel name))
    let request ← Effect.ofRaw (Request.make name messages temperature o)
    let reply ← send request
    Effect.ofRaw reply.answer
  asked.mapFault (providerFault name)

/-! ### Questions -/

/-- What a model is told about its part where nothing else is said. -/
def defaultSystemPrompt : String := "You are a concise workflow execution assistant."

/-- Which model is asked, and on whose account. -/
structure ModelSettings where
  /-- The model. -/
  model : Json := .str "gpt-4.1-mini"
  /-- How freely the model answers. -/
  temperature : Json := .float (.ofDecimal false 2 (-1))
  /-- The key of the account with OpenAI. -/
  openaiKey : Option String := none
  /-- The address of another server in the place of OpenAI's. -/
  openaiUrl : Option String := none
  /-- The key of the account with Anthropic. -/
  anthropicKey : Option String := none
deriving Inhabited

/-- The fault of a model that gives no answer, or a blank one. -/
def blankAnswer (model : String) : Fault :=
  .completion "LLM response missing message content" (some model)

namespace ModelSettings

/-- The settings with another model and another temperature, where these are given. -/
def override (s : ModelSettings) (model temperature : Json) : ModelSettings :=
  { s with
    model := if model.isTruthy then model else s.model
    temperature := if temperature matches .null then s.temperature else temperature }

/-- The conversation that a question opens. -/
def conversation (told question : Json) : Json :=
  .arr [contribution "system" (if told.isTruthy then told else .str defaultSystemPrompt),
    contribution "user" question]

/-- The answer to a question that is given as data, without blanks around it and never blank. -/
def ask (s : ModelSettings) (client : Provider → Effect σ (Client σ)) (told question : Json)
    (wantsObject : Bool) : Effect σ String := do
  let format := if wantsObject then AnswerOptions.objectFormat else .null
  let answer ←
    converse client s.model (conversation told question) s.temperature { format := format }
  let given ← if answer.isTruthy then Effect.ofRaw (answer.textFor "strip") else pure ""
  let text := Text.strip given.toList
  if text.isEmpty then Effect.fail (blankAnswer (s.model.str?.getD ""))
  else pure (String.ofList text)

/-- The answer to a question. -/
def complete (s : ModelSettings) (client : Provider → Effect σ (Client σ)) (p : Prompt) :
    Effect σ String :=
  s.ask client (.ofOption p.system) (.str p.text) p.wantsObject

end ModelSettings
end Flowgraph
