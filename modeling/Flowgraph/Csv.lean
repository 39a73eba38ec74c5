import Flowgraph.Json.Writer

/-!
# Tables with commas

A list of objects is written as a table: the names of the first object are the header, every other
line holds the cells of one object under these names. Cells are quoted, with quotes inside them
doubled; the header is not.

## Main definitions

* `Csv.table`: the table of a list of objects.
* `Csv.write`: the table of a value, or its data text where it is no list of objects.
-/

namespace Flowgraph.Csv

/-- The text of a cell before it is quoted. An absent value is a pair of quotes. -/
def cellText : Json → String
  | .null => "\"\""
  | .str s => s
  | v => v.write Json.compact

/-- A text in quotes, with the quotes inside it doubled. -/
def quote (s : String) : List Char :=
  '"' :: s.toList.flatMap (fun c => if c = '"' then ['"', '"'] else [c]) ++ ['"']

/-- The values of an object under the names of a header; a value that is no object has none. -/
def row (header : List String) (v : Json) : List Json :=
  header.map fun name => (v.field? name).getD .null

/-- The header as a line. -/
def headerLine (header : List String) : List Char :=
  [','].intercalate (header.map String.toList)

/-- The cells of a value as a line. -/
def line (header : List String) (v : Json) : List Char :=
  [','].intercalate ((row header v).map fun cell => quote (cellText cell))

/-- The table of a list whose first item has the names `header`. -/
def table (header : List String) (items : List Json) : String :=
  String.ofList (['\n'].intercalate (headerLine header :: items.map (line header)))

/-- The table of a value, or its data text where it is no list of objects. -/
def write : Json → String
  | .arr [] => ""
  | .arr (.obj fields :: rest) => table (Fields.names fields) (.obj fields :: rest)
  | v => v.write Json.pretty

end Flowgraph.Csv
