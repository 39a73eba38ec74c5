/-!
# Routes

The places that requests are sent to. A path offers one route for each method it understands,
and a path without routes is not there.

## Main definitions

* `Route`: what a request asks for.
* `Route.offered`: the routes of a path.
* `Route.resolve`: the route of a method and a path.
-/

namespace Flowgraph

/-- The methods that routes understand. -/
inductive Method where
  /-- Reading. -/
  | get
  /-- Creating, or asking for work to be done. -/
  | post
  /-- Replacing. -/
  | put
  /-- Removing. -/
  | delete
deriving DecidableEq, Repr

/-- The method of a name. -/
def Method.ofName? (name : String) : Option Method :=
  match name with
  | "GET" => some get
  | "POST" => some post
  | "PUT" => some put
  | "DELETE" => some delete
  | _ => none

/-- What a request asks for. -/
inductive Route where
  /-- What the service is. -/
  | root
  /-- Whether the service is well. -/
  | health
  /-- The rules that a document breaks. -/
  | validate
  /-- A run of a document that is not stored. -/
  | simulate
  /-- A new document. -/
  | generate
  /-- All workflows. -/
  | listWorkflows
  /-- A workflow to store. -/
  | createWorkflow
  /-- A workflow. -/
  | getWorkflow (id : String)
  /-- Another document for a workflow. -/
  | updateWorkflow (id : String)
  /-- A workflow to remove. -/
  | deleteWorkflow (id : String)
  /-- A command for a workflow. -/
  | editWorkflow (id : String)
  /-- A run of a workflow. -/
  | runWorkflow (id : String)
  /-- All runs. -/
  | listRuns
  /-- A run. -/
  | getRun (id : String)
  /-- The catalog. -/
  | listNodes
  /-- An entry of the catalog. -/
  | getNode (type : String)
deriving DecidableEq, Repr

/-- What a method and a path lead to. -/
inductive Resolved where
  /-- The route. -/
  | found (route : Route)
  /-- The path is there, but not for the method. -/
  | wrongMethod
  /-- The path is there without the slashes at its end. -/
  | moved
  /-- The path is not there. -/
  | notFound
deriving DecidableEq, Repr

namespace Route

/-- The route of a word that is no name of a workflow when something is sent to it. -/
def ofWord (word : String) : List (Method × Route) :=
  match word with
  | "validate" => [(.post, validate)]
  | "simulate" => [(.post, simulate)]
  | "generate" => [(.post, generate)]
  | _ => []

/-- The routes of a path that ends in a word, given by its segments; a name in a path is not
empty. -/
def offeredWords (segments : List String) : List (Method × Route) :=
  match segments with
  | [""] => [(.get, root)]
  | ["health"] => [(.get, health)]
  | ["workflows"] => [(.get, listWorkflows), (.post, createWorkflow)]
  | ["workflows", word] => ofWord word
  | ["workflows", "", _] => []
  | ["workflows", id, "edit"] => [(.post, editWorkflow id)]
  | ["workflows", id, "run"] => [(.post, runWorkflow id)]
  | ["runs"] => [(.get, listRuns)]
  | ["nodes"] => [(.get, listNodes)]
  | _ => []

/-- The routes of a path that ends in a name. -/
def offeredNames (segments : List String) : List (Method × Route) :=
  match segments with
  | [_, ""] => []
  | ["workflows", id] =>
    [(.get, getWorkflow id), (.put, updateWorkflow id), (.delete, deleteWorkflow id)]
  | ["runs", id] => [(.get, getRun id)]
  | ["nodes", type] => [(.get, getNode type)]
  | _ => []

/-- The segments of a path behind its first slash. -/
def segments (path : String) : List String :=
  match path.toList with
  | '/' :: rest => (rest.splitOn '/').map String.ofList
  | _ => []

/-- A path without the slashes at its end. -/
def trimmed (path : String) : String :=
  String.ofList (path.toList.reverse.dropWhile (· == '/')).reverse

/-- A path without a line feed at its end. -/
def withoutLineFeed (path : String) : String :=
  match path.toList.reverse with
  | '\n' :: rest => String.ofList rest.reverse
  | _ => path

/-- The routes of a path. Behind a word at its end a line feed does not count; in a name it does. -/
def offered (path : String) : List (Method × Route) :=
  offeredWords (segments (withoutLineFeed path)) ++ offeredNames (segments path)

/-- The route of a method and a path. -/
def resolve (method : Option Method) (path : String) : Resolved :=
  match offered path with
  | [] =>
    if path.endsWith "/" ∧ path ≠ "/" ∧ !(offered (trimmed path)).isEmpty then .moved else .notFound
  | routes =>
    match method.bind fun m => routes.lookup m with
    | some route => .found route
    | none => .wrongMethod

end Route
end Flowgraph
