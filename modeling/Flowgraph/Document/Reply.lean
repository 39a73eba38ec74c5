import Flowgraph.Document.Rules
import Flowgraph.Text.Lower

/-!
# Documents in replies

A language model may put a document between code fences. One fence at either end is taken off
before the text is read.

## Main definitions

* `Document.withoutFences`: a text without the fences around it.
* `Document.ofReply`: the document that a reply holds, if it keeps all rules.
-/

namespace Flowgraph.Document

/-- The mark of a code fence. -/
def fence : List Char := "```".toList

/-- A text without a fence at its head, the word behind the fence and the blanks behind that. -/
def withoutOpening (cs : List Char) : List Char :=
  if fence.isPrefixOf cs then
    let rest := cs.drop 3
    ((Text.dropWord? "json".toList rest).getD rest).dropWhile Text.isBlank
  else cs

/-- A text without a fence at its end. -/
def withoutClosing (cs : List Char) : List Char :=
  if fence.isSuffixOf cs then cs.take (cs.length - 3) else cs

/-- A text without the fences and blanks around it. -/
def withoutFences (text : String) : String :=
  String.ofList (Text.strip (withoutClosing (withoutOpening (Text.strip text.toList))))

/-- The wording for a reply that holds no data. -/
def unreadableReply : String := "$: response is not valid JSON"

/-- The document that a reply holds, if it keeps all rules. A reply that is well-formed but has an
integer of too many digits, or is nested too deep, is a fault of its own. -/
def ofReply (text : String) : Except DataError (Except (List String) Document) :=
  match Json.read (withoutFences text) with
  | .ok v => .ok (check v)
  | .error (.malformed _ _) => .ok (.error [unreadableReply])
  | .error (.unfit error) => .error error

end Flowgraph.Document
