import Flowgraph.Json.Basic
import Flowgraph.Text.Integer

/-!
# Paths into data

A path such as `$.items[0]["unit price"]` leads from a value to a part of it. It is cut into
tokens, and every token is one step: an index in a list, a name in an object. Data that is not
there is no fault, the path then leads nowhere.

## Main definitions

* `Path.tokens`: the tokens of a path.
* `Path.step`: one step.
* `Path.resolve`: the value a path leads to.
-/

namespace Flowgraph.Path

/-! ### Tokens -/

/-- Whether a character may stand in a bare token. -/
def isBare (c : Char) : Bool :=
  c != '[' && c != '.' && c != ']'

/-- The inside of a quoted token and what is left behind its closing quote. A backslash keeps the
character behind it from closing, and stays in the token; it cannot stand before a line feed. -/
def quoted? (mark : Char) : List Char → Option (List Char × List Char)
  | [] => none
  | '\\' :: c :: rest =>
    if c = '\n' then none
    else (quoted? mark rest).map fun (inside, left) => ('\\' :: c :: inside, left)
  | c :: rest =>
    if c = mark then some ([], rest)
    else if c = '\\' then none
    else (quoted? mark rest).map fun (inside, left) => (c :: inside, left)

/-- The token in brackets that begins behind an opening bracket, and what is left behind the
closing one. -/
def bracketed? (cs : List Char) : Option (List Char × List Char) :=
  let closed (token left : List Char) : Option (List Char × List Char) :=
    match left with
    | ']' :: rest => some (token, rest)
    | _ => none
  match cs with
  | [] => none
  | c :: rest =>
    if c = '"' ∨ c = '\'' then
      match quoted? c rest with
      | some (inside, left) => closed inside left
      | none => none
    else if Text.isDigit c then closed (cs.takeWhile Text.isDigit) (cs.dropWhile Text.isDigit)
    else none

/-- The tokens of a text; characters that begin no token are passed over. The fuel is at least the
length of the text. -/
def tokensOf : Nat → List Char → List (List Char)
  | 0, _ => []
  | _ + 1, [] => []
  | fuel + 1, c :: rest =>
    if isBare c then
      (c :: rest.takeWhile isBare) :: tokensOf fuel (rest.dropWhile isBare)
    else if c = '[' then
      match bracketed? rest with
      | some (token, left) => token :: tokensOf fuel left
      | none => tokensOf fuel rest
    else tokensOf fuel rest

/-- A path without the sign of the root and the point behind it. -/
def withoutRoot : List Char → List Char
  | '$' :: '.' :: rest => rest
  | '$' :: rest => rest
  | cs => cs

/-- The tokens of a path. -/
def tokens (path : String) : List String :=
  let body := withoutRoot path.toList
  (tokensOf body.length body).map String.ofList

/-! ### Steps -/

/-- The digits of a token that is an index; one line feed may follow them. -/
def indexDigits? (token : String) : Option (List Char) :=
  let cs := token.toList
  let digits := if cs.getLast? = some '\n' then cs.dropLast else cs
  if Text.isNatural digits then some digits else none

/-- One step: to an item of a list, or to a field of an object. -/
def step (current : Json) (token : String) : Except DataError (Option Json) :=
  match current with
  | .arr items =>
    match indexDigits? token with
    | some digits => do
      let index ← Text.readNatural digits
      pure items[index]?
    | none => .ok none
  | .obj fields => .ok (Fields.get? fields token)
  | _ => .ok none

/-- The steps of a row of tokens. -/
def walk : Json → List String → Except DataError (Option Json)
  | current, [] => .ok (some current)
  | current, token :: rest => do
    match ← step current token with
    | some next => walk next rest
    | none => .ok none

/-- The value a path leads to. The empty path leads to the whole, a path that does not begin with
the sign of the root leads nowhere. -/
def resolve (data : Json) (path : String) : Except DataError (Option Json) :=
  if path = "" ∨ path = "$" then .ok (some data)
  else if path.toList.head? = some '$' then walk data (tokens path)
  else .ok none

/-- Whether a value counts as no path at all. -/
def isBlankValue : Json → Bool
  | .null => true
  | .bool b => !b
  | .int n => n == 0
  | .float x => x.eqInt 0
  | .str s => s.isEmpty
  | .arr items => items.isEmpty
  | .obj fields => fields.isEmpty

/-- The value a path leads to, where the path may be any value: an empty one leads to the whole,
and of the others only a text leads anywhere. -/
def resolveValue (data path : Json) : Except DataError (Option Json) :=
  if isBlankValue path then .ok (some data)
  else
    match path with
    | .str s => resolve data s
    | _ => .ok none

end Flowgraph.Path
