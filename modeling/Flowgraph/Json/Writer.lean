import Flowgraph.Json.Basic
import Flowgraph.Number.Written
import Flowgraph.Text.Half

/-!
# Writing data values

A value is written in one of a few layouts, which differ in their separators, in whether lines are
broken and in whether characters outside ASCII are escaped.

## Main definitions

* `Json.Layout`: the decisions of a layout; `compact`, `ascii`, `spaced` and `pretty` are those in
  use.
* `Json.write`: the text of a value.
-/

namespace Flowgraph.Json

/-- The decisions of a layout. -/
structure Layout where
  /-- What stands between two items on one line. -/
  comma : String
  /-- What stands between a name and its value. -/
  colon : String
  /-- Whether characters outside ASCII are written as escapes. -/
  ascii : Bool
  /-- The indentation of one level, if items stand on lines of their own. -/
  indent : Option Nat

/-- No blanks at all. -/
def compact : Layout := ⟨",", ":", false, none⟩

/-- No blanks at all, and ASCII only. -/
def ascii : Layout := { compact with ascii := true }

/-- One line with a blank behind commas and colons, and ASCII only. -/
def spaced : Layout := ⟨", ", ": ", true, none⟩

/-- One item to a line, each level indented by two. -/
def pretty : Layout := ⟨",", ": ", false, some 2⟩

/-- The escape of a letter by one or two units. -/
def numericEscape (l : Text.Letter) : List Char :=
  if l.code < 0x10000 then Text.unitEscape l.code
  else
    let offset := l.code - 0x10000
    Text.unitEscape (0xD800 + offset / 1024) ++ Text.unitEscape (0xDC00 + offset % 1024)

/-- A letter inside a quoted text. -/
def escapeLetter (ascii : Bool) (l : Text.Letter) : List Char :=
  match l with
  | .char '"' => ['\\', '"']
  | .char '\\' => ['\\', '\\']
  | .char '\n' => ['\\', 'n']
  | .char '\r' => ['\\', 'r']
  | .char '\t' => ['\\', 't']
  | .char '\x08' => ['\\', 'b']
  | .char '\x0c' => ['\\', 'f']
  | l => if l.code < 0x20 ∨ (ascii = true ∧ 0x7E < l.code) then numericEscape l else l.chars

/-- A quoted text. -/
def quote (ascii : Bool) (s : String) : List Char :=
  '"' :: (Text.letters s.toList).flatMap (escapeLetter ascii) ++ ['"']

/-- A line break and the indentation of a level, or nothing where lines are not broken. -/
def Layout.newline (layout : Layout) (level : Nat) : List Char :=
  match layout.indent with
  | some width => '\n' :: List.replicate (width * level) ' '
  | none => []

/-- The pieces of a list or object between its brackets, one level below `level`. -/
def Layout.enclose (layout : Layout) (level : Nat) (opening closing : Char)
    (pieces : List (List Char)) : List Char :=
  if pieces.isEmpty then [opening, closing]
  else
    let between := layout.comma.toList ++ layout.newline (level + 1)
    opening :: layout.newline (level + 1) ++ between.intercalate pieces
      ++ layout.newline level ++ [closing]

mutual

/-- The text of a value at a level of nesting. -/
def writeAt (layout : Layout) (level : Nat) : Json → List Char
  | null => "null".toList
  | bool b => (if b then "true" else "false").toList
  | int n => (toString n).toList
  | float x => (NumberFormat.data.write x).toList
  | str s => quote layout.ascii s
  | arr items => layout.enclose level '[' ']' (writeItems layout (level + 1) items)
  | obj fields => layout.enclose level '\x7b' '\x7d' (writeFields layout (level + 1) fields)

/-- The texts of the items of a list. -/
def writeItems (layout : Layout) (level : Nat) : List Json → List (List Char)
  | [] => []
  | item :: items => writeAt layout level item :: writeItems layout level items

/-- The texts of the fields of an object. -/
def writeFields (layout : Layout) (level : Nat) : List (String × Json) → List (List Char)
  | [] => []
  | (name, value) :: fields =>
    (quote layout.ascii name ++ layout.colon.toList ++ writeAt layout level value)
      :: writeFields layout level fields

end

/-- The text of a value in a layout. -/
def write (layout : Layout) (v : Json) : String :=
  String.ofList (writeAt layout 0 v)

/-- The text that a value is for a reader: a text itself, any other value in the compact layout. -/
def sourceText : Json → String
  | str s => s
  | v => v.write compact

end Flowgraph.Json
