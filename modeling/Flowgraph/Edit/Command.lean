import Flowgraph.Document.NodeType
import Flowgraph.Text.Integer
import Flowgraph.Text.Lower

/-!
# Edit commands

Short sentences change a workflow: `rename n2 to Score Lead`, `delete n3`, `connect n2 to n4`,
`add delay 30 seconds`, `add classify at end`. Case does not matter in the words of a command, and
blanks between them may be any and many, but a name cannot run over the end of a line.

## Main definitions

* `EditCommand`: a command.
* `EditCommand.read`: the command that a text gives.
* `NodeType.mentioned?`: the kind of node that a text speaks of.
-/

namespace Flowgraph

/-- A command. Nodes are referred to by id or by name. -/
inductive EditCommand where
  /-- Gives a node another name. -/
  | rename (node name : String)
  /-- Removes a node and its edges. -/
  | delete (node : String)
  /-- Joins two nodes by an edge. -/
  | connect (source target : String)
  /-- Adds a delay of some seconds at the end. -/
  | addDelay (seconds : Nat)
  /-- Adds a node of a kind at the end. -/
  | add (type : NodeType)
deriving DecidableEq, Repr

/-- Why a text gives no command. -/
inductive CommandProblem where
  /-- There is nothing but blanks. -/
  | blank
  /-- No kind of node is spoken of. -/
  | unknownType
  /-- The text is none of the sentences. -/
  | unknownSentence
deriving DecidableEq, Repr

/-- The wording of a problem. -/
def CommandProblem.message : CommandProblem → String
  | blank => "Type a command first."
  | unknownType => "I couldn't map that request to a supported node type yet."
  | unknownSentence =>
    "Try commands like: 'add classify at end', 'add delay 30 seconds', "
      ++ "'rename n2 to Score Lead', 'connect n2 to n4'."

/-! ### Kinds of nodes in words -/

/-- The words for kinds of nodes. The first line of which a word occurs counts. -/
def typeWords : List (List String × NodeType) := [
  (["summarize", "summary"], .summarize),
  (["classify", "classification", "tag"], .classify),
  (["extract", "parse fields"], .extract),
  (["report", "checklist", "sop"], .report),
  (["condition", "branch", "if"], .condition),
  (["delay", "wait", "pause"], .delay),
  (["db save", "database", "save to db", "save"], .save),
  (["export", "csv", "json", "notify", "slack"], .exporter)]

/-- Whether a word in lower-case ASCII occurs in a text, case ignored. -/
def mentions (text word : List Char) : Bool :=
  (Text.dropWord? word text).isSome
    || (match text with
      | [] => false
      | _ :: rest => mentions rest word)

/-- The kind of node that a text speaks of. -/
def NodeType.mentioned? (text : List Char) : Option NodeType :=
  (typeWords.find? fun line => line.1.any fun word => mentions text word.toList).map Prod.snd

/-! ### Sentences -/

namespace EditCommand

/-- A name at the end of a sentence: it is not empty and stays on its line. -/
def lastName? (cs : List Char) : Option (List Char) :=
  if cs.isEmpty ∨ cs.contains '\n' then none else some cs

/-- The rest of a text behind at least one blank and all that follow it. -/
def dropBlanks? (cs : List Char) : Option (List Char) :=
  match cs with
  | [] => none
  | c :: rest => if Text.isBlank c then some (rest.dropWhile Text.isBlank) else none

/-- The name behind the word "to" between blanks. -/
def toName? (cs : List Char) : Option (List Char) := do
  let afterBlanks ← dropBlanks? cs
  let afterTo ← Text.dropWord? "to".toList afterBlanks
  let name ← dropBlanks? afterTo
  lastName? name

/-- Two names around the word "to", where the first is as short as can be. -/
def namesAroundTo? (seen : List Char) : List Char → Option (List Char × List Char)
  | [] => none
  | c :: rest =>
    if c = '\n' then none
    else
      let first := seen ++ [c]
      match toName? rest with
      | some second => some (first, second)
      | none => namesAroundTo? first rest

/-- The first result of a reader behind some blanks, where as many of them as can be are left out
but at least one. -/
def behindBlanks? {α : Type} (reader : List Char → Option α) : List Char → Option α
  | [] => none
  | c :: rest =>
    if Text.isBlank c then
      match behindBlanks? reader rest with
      | some result => some result
      | none => reader rest
    else none

/-- The text of a name, without blanks around it. -/
def nameOf (cs : List Char) : String :=
  String.ofList (Text.strip cs)

/-- The sentence `<word> <name> to <name>`. -/
def twoNames? (word : String) (cs : List Char) : Option (String × String) := do
  let rest ← Text.dropWord? word.toList cs
  let (first, second) ← behindBlanks? (namesAroundTo? []) rest
  pure (nameOf first, nameOf second)

/-- The sentence `delete <name>`. -/
def deleted? (cs : List Char) : Option String := do
  let rest ← Text.dropWord? "delete".toList cs
  let name ← behindBlanks? lastName? rest
  pure (nameOf name)

/-- The digits of the sentence `add delay <digits> seconds`. -/
def delayDigits? (cs : List Char) : Option (List Char) := do
  let afterAdd ← Text.dropWord? "add".toList cs
  let delay ← dropBlanks? afterAdd
  let afterDelay ← Text.dropWord? "delay".toList delay
  let count ← dropBlanks? afterDelay
  let digits := count.takeWhile Text.isDigit
  let unit := (count.dropWhile Text.isDigit).dropWhile Text.isBlank
  let afterUnit ← Text.dropWord? "second".toList unit
  let isPlural := (Text.dropWord? "s".toList afterUnit) == some []
  if digits.isEmpty ∨ !(afterUnit.isEmpty || isPlural) then none else some digits

/-- Whether a text begins with the word "add" and a space. -/
def beginsWithAdd (cs : List Char) : Bool :=
  "add ".toList.isPrefixOf (Text.lower cs)

/-- The command of a sentence without blanks around it. -/
def readSentence (cs : List Char) : Except DataError (Except CommandProblem EditCommand) :=
  match twoNames? "rename" cs, deleted? cs, twoNames? "connect" cs, delayDigits? cs with
  | some (node, name), _, _, _ => .ok (.ok (.rename node name))
  | none, some node, _, _ => .ok (.ok (.delete node))
  | none, none, some (source, target), _ => .ok (.ok (.connect source target))
  | none, none, none, some digits => (Text.readNatural digits).map fun n => .ok (.addDelay n)
  | none, none, none, none =>
    .ok (if beginsWithAdd cs then
        match NodeType.mentioned? cs with
        | some type => .ok (.add type)
        | none => .error .unknownType
      else .error .unknownSentence)

/-- The command that a text gives. -/
def read (text : String) : Except DataError (Except CommandProblem EditCommand) :=
  let cs := Text.strip text.toList
  if cs.isEmpty then .ok (.error .blank) else readSentence cs

end EditCommand
end Flowgraph
