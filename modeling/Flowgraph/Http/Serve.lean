import Flowgraph.Catalog
import Flowgraph.Http.Body
import Flowgraph.Http.Contact
import Flowgraph.Service.Runs
import Flowgraph.Text.Upper

/-!
# Answering requests

Every request is answered by a status and data. A refusal of a service becomes a status of its
own; only a fault that no answer is foreseen for is handed on.

## Main definitions

* `HttpRequest`, `HttpResponse`: what comes in and what goes out.
* `ServiceError.response?`: the answer to a refusal.
* `World.serve`: the answer to a request.
-/

namespace Flowgraph

/-- A request. -/
structure HttpRequest where
  /-- The name of the method. -/
  method : String
  /-- Where the request goes. -/
  target : Target
  /-- The body, if there is one. -/
  body : Option String := none

/-- Whether an answer gives what was asked for or says why there is none. -/
inductive Tone where
  /-- What was asked for. -/
  | reply
  /-- Why there is none, or that it failed. -/
  | notice
deriving DecidableEq, Repr, Inhabited

/-- An answer. -/
structure HttpResponse where
  /-- The status. -/
  status : Nat
  /-- The data. -/
  content : Json
  /-- Whether the data is what was asked for. -/
  tone : Tone
deriving Inhabited

/-- Why there is no answer that can be read. -/
inductive HttpError where
  /-- The request has no address to go to. -/
  | address (problem : AddressProblem)
  /-- The request has an address that leads nowhere. -/
  | contact (problem : ContactProblem)
  /-- A refusal or a fault for which no answer is foreseen. -/
  | unforeseen (error : ServiceError)
  /-- A number that is not finite, where it has no form. -/
  | notFinite
  /-- What was asked for cannot leave. -/
  | reply (error : DataError)
  /-- A notice cannot be encoded. -/
  | notice (error : DataError)
  /-- The answer has no data in it. -/
  | noData

/-- The wording of a reason. -/
def HttpError.message : HttpError → String
  | address problem => problem.message
  | contact problem => problem.message
  | unforeseen error => error.message
  | notFinite => "Out of range float values are not JSON compliant"
  | reply error => s!"Error serializing to JSON: {error.kind}: {error.message}"
  | notice error => error.message
  | noData => "Expecting value: line 1 column 1 (char 0)"

/-- The request for an address, with parameters in the place of those in the address and with data
or a text for a body. -/
def HttpRequest.make (method address : String) (parameters : Option Fields) (data : Json)
    (text : Option String) : Except HttpError HttpRequest := do
  let target ← (Target.read address parameters).mapError .address
  let method := String.ofList (Text.upper (Text.characters method))
  if !(data matches .null) ∧ !data.isFinite then throw .notFinite
  target.checkPlace.mapError .contact
  let body := if data matches .null then text else some (data.write Json.compact)
  pure ⟨method, target, body⟩

namespace HttpResponse

/-- What was asked for. -/
def reply (status : Nat) (content : Json) : HttpResponse :=
  ⟨status, content, .reply⟩

/-- A notice. -/
def notice (status : Nat) (content : Json) : HttpResponse :=
  ⟨status, content, .notice⟩

/-- A notice with a detail. -/
def detail (status : Nat) (content : Json) : HttpResponse :=
  .notice status (.obj [("detail", content)])

/-- The answer as it leaves: in what was asked for `null` stands for a number that is not finite,
while a notice cannot hold such a number. -/
def leave (r : HttpResponse) : Except HttpError HttpResponse :=
  match r.tone with
  | .reply => do
    (Outgoing.checkReply r.content).mapError .reply
    pure { r with content := r.content.finite }
  | .notice =>
    if r.content.isFinite then
      match Text.loneHalf? (r.content.write Json.compact) with
      | some half => .error (.notice (.loneHalf half))
      | none => .ok r
    else .error .notFinite

/-- An answer that says what is wrong with the body. -/
def issues (issues : List BodyIssue) : HttpResponse :=
  detail 422 (.arr (issues.map BodyIssue.toJson))

/-- An answer that says what is wrong with a document. -/
def invalid (message : String) (errors : List String) : HttpResponse :=
  detail 422 (.obj [("error", .str message), ("errors", .strs errors)])

end HttpResponse

/-- The answer to a refusal, if one is foreseen. -/
def ServiceError.response? (e : ServiceError) : Option HttpResponse :=
  match e with
  | .invalid errors => some (.invalid e.message errors)
  | .unknownWorkflow _ => some (.detail 404 (.str e.message))
  | .unknownRun _ => some (.detail 404 (.str e.message))
  | .limitReached limit since =>
    some (.detail 429 (.obj [
      ("error", .str e.message), ("limit", .int limit), ("period_start", .str since.write)]))
  | .refused refusal => some (.invalid e.message refusal.errors)
  | .ungenerated errors => some (.invalid e.message errors)
  | .unstartable (.cyclic _) => some (.detail 422 (.str e.message))
  | .fault (.completion message _) => some (.detail 502 (.str message))
  | _ => none

/-- The name of the service. -/
def serviceName : String := "Vyntra Workflow Engine"

/-- The version of the service. -/
def serviceVersion : String := "0.1.0"

/-! ### Routes -/

/-- The data of a body, or an answer that says what is wrong with it. -/
def HttpRequest.part {α : Type} (request : HttpRequest) (part : Option Json → Body.Part α) :
    Except HttpResponse α :=
  match Body.read request.body with
  | .error (.issues issues) => .error (.issues issues)
  | .error .unparsable => .error (.detail 400 (.str "There was an error parsing the body"))
  | .ok v => (part v).mapError HttpResponse.issues

namespace World

variable {τ : Type}

/-- The result of a service under a function that makes an answer of it. -/
def answer {α : Type} (respond : α → HttpResponse) :
    Except ServiceError α → Except ServiceError HttpResponse
  | .ok a => .ok (respond a)
  | .error e =>
    match e.response? with
    | some response => .ok response
    | none => .error e

/-- A service of the database as one of the world. What it has changed is taken back if there is no
answer. -/
def onDatabase {α : Type} (respond : α → HttpResponse)
    (service : Database → Except ServiceError α × Database) (w : World τ) :
    Except ServiceError HttpResponse × World τ :=
  let (result, db) := service w.database
  match answer respond result with
  | .ok response => (.ok response, w.withDatabase db)
  | .error e => (.error e, w)

/-- The outcome of a check as data. -/
def checkResult : Except (List String) Document → Json
  | .ok _ => .obj [("ok", .bool true), ("errors", .arr [])]
  | .error errors => .obj [("ok", .bool false), ("errors", .strs errors)]

/-- A new document from the language model, as data. -/
def generateDocument (complete : Prompt → Effect τ String) (request : String) (brief : Brief)
    (w : World τ) : Except ServiceError Json × World τ :=
  match generate complete brief request w.model with
  | (.ok (.ok d), model) =>
    (d.serialize.mapError fun e => .fault (.data e), { w with model := model })
  | (.ok (.error errors), model) => (.error (.ungenerated errors), { w with model := model })
  | (.error fault, model) => (.error (.fault fault), { w with model := model })

/-- The answer to a finished run: a run in which a node failed is told as an error of the server. -/
def runResponse (run : Run) : HttpResponse :=
  if run.fault.isSome then .notice 500 run.reply else .reply 200 run.reply

/-- The answer of a route to a request. -/
def respond (policy : RunPolicy) (complete : Prompt → Effect τ String) (now : Moment)
    (route : Route) (request : HttpRequest) (w : World τ) :
    Except ServiceError HttpResponse × World τ :=
  let plain (content : Json) : Except ServiceError HttpResponse × World τ :=
    (.ok (.reply 200 content), w)
  let reading (result : Except ServiceError Json) : Except ServiceError HttpResponse × World τ :=
    (answer (.reply 200) result, w)
  let withPart {α : Type} (part : Option Json → Body.Part α)
      (service : α → Except ServiceError HttpResponse × World τ) :
      Except ServiceError HttpResponse × World τ :=
    match request.part part with
    | .ok a => service a
    | .error response => (.ok response, w)
  match route with
  | .root =>
    plain (.obj [
      ("name", .str serviceName), ("version", .str serviceVersion), ("status", .str "running")])
  | .health => plain (.obj [("status", .str "healthy"), ("version", .str serviceVersion)])
  | .validate => withPart Body.object fun data => plain (checkResult (Document.check data))
  | .simulate => withPart Body.simulation fun (data, input) =>
    let (result, w') := simulate policy complete data input w
    (answer (fun run => .reply 200 (run.trace now)) result, w')
  | .generate => withPart Body.brief fun (prompt, brief) =>
    let (result, w') := generateDocument complete prompt brief w
    (answer (fun d => .reply 200 (.obj [("ok", .bool true), ("document", d)])) result, w')
  | .listWorkflows =>
    reading (w.database.storedAll.map fun all => .arr (all.map StoredWorkflow.summary))
  | .createWorkflow => withPart Body.object fun data =>
    onDatabase (fun s => .reply 201 s.detail) (fun db => db.createWorkflow data .null now) w
  | .getWorkflow id => reading ((w.database.stored id).map StoredWorkflow.detail)
  | .updateWorkflow id => withPart Body.object fun data =>
    onDatabase (fun s => .reply 200 s.detail) (fun db => db.updateWorkflow id data now) w
  | .deleteWorkflow id =>
    let removed : Json := .obj [("success", .bool true), ("message", .str "Workflow deleted")]
    onDatabase (fun _ => .reply 200 removed) (fun db => db.deleteWorkflow id) w
  | .editWorkflow id => withPart Body.command fun command =>
    onDatabase (fun e => .reply 200 e.toJson) (fun db => db.editWorkflow id (.str command) now) w
  | .runWorkflow id => withPart Body.runOptions fun (input, mode) =>
    let (result, w') := runWorkflow policy complete (.ofMoment now) id input mode w
    (answer runResponse result, w')
  | .listRuns =>
    let workflowId := ((request.target.parameters.reverse.lookup "workflow_id")).getD ""
    plain (.arr ((w.database.listRuns workflowId).map RunRow.summary))
  | .getRun id => reading ((w.database.recordedRun id).map RunRow.detail)
  | .listNodes => plain (.arr (catalog.map CatalogEntry.toJson))
  | .getNode type =>
    match NodeType.ofName? type with
    | some kind => plain kind.entry.toJson
    | none => (.ok (.detail 404 (.str ("Node type not found: " ++ type))), w)

/-- The answer to a request for a path. -/
def serve (policy : RunPolicy) (complete : Prompt → Effect τ String) (now : Moment)
    (request : HttpRequest) (w : World τ) : Except HttpError HttpResponse × World τ :=
  match Route.resolve (Method.ofName? request.method) request.target.path with
  | .notFound => (.ok (.detail 404 (.str "Not Found")), w)
  | .wrongMethod => (.ok (.detail 405 (.str "Method Not Allowed")), w)
  | .moved => (.error .noData, w)
  | .found route =>
    let (result, w') := respond policy complete now route request w
    (result.mapError .unforeseen >>= HttpResponse.leave, w')

/-- The answer to a request as it is received. Of a path that has moved there is only its address,
and the answer to a request for the mere head has no data. -/
def receive (request : HttpRequest) (answer : Except HttpError HttpResponse) :
    Except HttpError HttpResponse :=
  match answer with
  | .ok response => do
    request.target.checkBrackets.mapError .contact
    if request.method = "HEAD" then throw .noData else pure response
  | .error .noData => do
    request.target.checkBrackets.mapError .contact
    request.target.checkMoved.mapError .contact
    throw .noData
  | .error e => .error e

/-- A request and what is received for it. -/
def exchange (policy : RunPolicy) (complete : Prompt → Effect τ String) (now : Moment)
    (request : HttpRequest) (w : World τ) : Except HttpError HttpResponse × World τ :=
  match request.target.checkName with
  | .error problem => (.error (.contact problem), w)
  | .ok () =>
    let (answer, w') := serve policy complete now request w
    (receive request answer, w')

end World
end Flowgraph
