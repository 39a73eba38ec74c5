import Flowgraph.Json.Reader
import Flowgraph.Text.Lower

/-!
# Objects in replies

A language model asked for an object may wrap it in prose or code fences. Four parts of the reply
are tried in turn, and the first one that reads as an object is taken: the whole, the inside of the
first pair of fences, the first region whose braces balance, and the span from the first opening
to the last closing brace.

## Main definitions

* `Embedded.balanced?`: the first region whose braces balance.
* `Json.embeddedObject?`: the object that a reply holds.
-/

namespace Flowgraph.Json

namespace Embedded

/-- What is left of a text from the first occurrence of a part on. -/
def from? (part : List Char) : List Char → Option (List Char)
  | [] => if part.isEmpty then some [] else none
  | c :: cs => if part.isPrefixOf (c :: cs) then some (c :: cs) else from? part cs

/-- What stands in a text before the first occurrence of a part. -/
def before? (part : List Char) : List Char → Option (List Char)
  | [] => if part.isEmpty then some [] else none
  | c :: cs => if part.isPrefixOf (c :: cs) then some [] else (before? part cs).map (c :: ·)

/-- The mark of a code fence. -/
def fence : List Char := "```".toList

/-- The inside of the first pair of code fences, if there is anything in it. -/
def fenced? (cs : List Char) : Option (List Char) := do
  let opening ← from? fence cs
  let rest := opening.drop 3
  let body := ((Text.dropWord? "json".toList rest).getD rest).dropWhile Text.isBlank
  let inside ← before? fence body
  let content := Text.strip inside
  if content.isEmpty then none else some content

/-- Where a scan for braces stands. -/
inductive Mode where
  /-- Outside of quoted texts. -/
  | plain
  /-- Inside a quoted text. -/
  | quoted
  /-- Behind a backslash in a quoted text. -/
  | escaped
deriving DecidableEq, Repr

/-- The text up to the brace that closes the outermost of `depth` open ones. -/
def region? (mode : Mode) (depth : Nat) : List Char → Option (List Char)
  | [] => none
  | c :: cs =>
    match mode with
    | .escaped => (region? .quoted depth cs).map (c :: ·)
    | .quoted =>
      if c = '\\' then (region? .escaped depth cs).map (c :: ·)
      else if c = '"' then (region? .plain depth cs).map (c :: ·)
      else (region? .quoted depth cs).map (c :: ·)
    | .plain =>
      if c = '"' then (region? .quoted depth cs).map (c :: ·)
      else if c = '\x7b' then (region? .plain (depth + 1) cs).map (c :: ·)
      else if c = '\x7d' then
        if depth = 1 then some [c] else (region? .plain (depth - 1) cs).map (c :: ·)
      else (region? .plain depth cs).map (c :: ·)

/-- The first region whose braces balance; braces in quoted texts do not count. -/
def balanced? (cs : List Char) : Option (List Char) :=
  region? .plain 0 (cs.dropWhile (· != '\x7b'))

/-- The span from the first opening brace to the last closing one behind it. -/
def span? (cs : List Char) : Option (List Char) :=
  let tail := cs.dropWhile (· != '\x7b')
  let span := Text.dropTrailing (· != '\x7d') tail
  if span.isEmpty then none else some span

/-- The parts of a reply that are tried, in order. -/
def candidates (cs : List Char) : List (List Char) :=
  cs :: (fenced? cs).toList ++ (balanced? cs).toList ++ (span? cs).toList

/-- The object that a text writes, if it writes one. Only nesting that is too deep is a fault. -/
def object? (cs : List Char) : Except DataError (Option Fields) :=
  match read (String.ofList cs) with
  | .ok (.obj fields) => .ok (some fields)
  | .error (.unfit (.textTooDeep kind)) => .error (.textTooDeep kind)
  | _ => .ok none

/-- The object that the first of some texts to write one writes. -/
def firstObject? : List (List Char) → Except DataError (Option Fields)
  | [] => .ok none
  | cs :: others => do
    match ← object? cs with
    | some fields => .ok (some fields)
    | none => firstObject? others

end Embedded

/-- The object that a reply holds. -/
def embeddedObject? (reply : String) : Except DataError (Option Fields) :=
  Embedded.firstObject? (Embedded.candidates (Text.strip reply.toList))

end Flowgraph.Json
