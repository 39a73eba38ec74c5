import Flowgraph.Csv
import Mathlib.Data.List.Basic
import Mathlib.Data.List.Forall2

/-!
# Reading tables back

A reader of comma-separated records knows quoted fields, in which a quote is written twice, and bare
ones, in which there is none.  What stands below the header of a table it reads back field by field:
every cell is quoted, so that the commas, quotes and line breaks in it neither end it nor end its
line.

## Main definitions

* `Csv.Place.step?`, `Csv.readFrom`, `Csv.records?` — the reader, a machine that takes one character
  after the other.
* `Csv.Spells` — a text is read as a field, which may end behind it.
* `Csv.Holds` — the text that a cell of a table holds.

## Main results

* `Csv.readFrom_record` — texts between commas are read as the fields that they spell.
* `Csv.readFrom_line` — a line is read back as its cells.
* `Csv.readFrom_lines` — so are many lines.
* `Csv.records_of_write` — **below the header there is a record for every item and in it a field for
  every name, which holds the text of its cell.**
-/

namespace Flowgraph.Csv

/-! ### A reader of records -/

/-- Where a reader of records stands. -/
inductive Place where
  /-- At the beginning of a field. -/
  | start
  /-- In a field without quotes. -/
  | bare
  /-- In a quoted field. -/
  | quoted
  /-- Behind a quote in a quoted field, which ends the field unless another one follows. -/
  | closed
  /-- Behind a carriage return outside of quotes. -/
  | returned
deriving DecidableEq

/-- What a character is to the records that are read. -/
inductive Meaning where
  /-- It belongs to no field. -/
  | mark
  /-- It belongs to the field. -/
  | letter
  /-- It ends the field. -/
  | comma
  /-- It ends the record. -/
  | lineBreak
deriving DecidableEq

/-- Where a character leads, and what it is.  Lines end with a line feed or with a carriage return
and a line feed.  No other character may stand behind a quoted field, no quote in a bare one. -/
def Place.step? : Place → Char → Option (Place × Meaning)
  | .quoted, c => some (if c = '"' then (.closed, .mark) else (.quoted, .letter))
  | .returned, c => if c = '\n' then some (.start, .lineBreak) else none
  | place, c =>
    if c = ',' then some (.start, .comma)
    else if c = '\n' then some (.start, .lineBreak)
    else if c = '\r' then some (.returned, .mark)
    else if c = '"' then
      match place with
      | .start => some (.quoted, .mark)
      | .closed => some (.quoted, .letter)
      | _ => none
    else if place = .closed then none
    else some (.bare, .letter)

/-- A field may end here, and does so before a comma, before a line break and at the end. -/
def Place.canEnd : Place → Bool
  | .quoted | .returned => false
  | _ => true

/-- Records, with the characters of their fields. -/
abbrev Records := List (List (List Char))

/-- Records with more characters before their first field. -/
def Records.push (cs : List Char) (records : Records) : Records :=
  records.modifyHead (List.modifyHead (cs ++ ·))

/-- Records with what a character before them adds: a character of their first field, or a field or a
record before that. -/
def Meaning.add (c : Char) : Meaning → Records → Records
  | .mark, records => records
  | .letter, records => records.push [c]
  | .comma, records => records.modifyHead ([] :: ·)
  | .lineBreak, records => [[]] :: records

/-- The records in what is left of a text, of which the first field of the first one may have begun
before.  A line break at the end begins no record. -/
def readFrom : Place → List Char → Option Records
  | place, [] => if place = .quoted ∨ place = .returned then none else some [[[]]]
  | place, c :: cs =>
    match place.step? c with
    | none => none
    | some (next, meaning) =>
      if meaning = .lineBreak ∧ cs = [] then some [[[]]]
      else (readFrom next cs).map (meaning.add c)

/-- The records of a text, if it is well formed. -/
def records? (text : String) : Option (List (List String)) :=
  if text = "" then some []
  else (readFrom .start text.toList).map (List.map (List.map String.ofList))

/-! ### One character -/

section Steps

variable {place next : Place} {meaning : Meaning} {c : Char} {cs rest : List Char}
  {records : Records}

theorem readFrom_cons (hstep : place.step? c = some (next, meaning)) (hbreak : meaning ≠ .lineBreak) :
    readFrom place (c :: cs) = (readFrom next cs).map (meaning.add c) := by
  simp [readFrom, hstep, hbreak]

theorem Place.step?_of_canEnd (hplace : place.canEnd = true) :
    place.step? ',' = some (.start, .comma) ∧ place.step? '\n' = some (.start, .lineBreak) := by
  cases place with
  | quoted => cases hplace
  | returned => cases hplace
  | _ => exact ⟨rfl, rfl⟩

theorem readFrom_nil (hplace : place.canEnd = true) : readFrom place [] = some [[[]]] := by
  cases place with
  | quoted => cases hplace
  | returned => cases hplace
  | _ => rfl

theorem readFrom_comma (hplace : place.canEnd = true) :
    readFrom place (',' :: cs) = (readFrom .start cs).map (List.modifyHead ([] :: ·)) :=
  readFrom_cons (Place.step?_of_canEnd hplace).1 (by decide)

theorem readFrom_lineBreak (hplace : place.canEnd = true) (hne : cs ≠ []) :
    readFrom place ('\n' :: cs) = (readFrom .start cs).map ([[]] :: ·) := by
  simp only [readFrom, (Place.step?_of_canEnd hplace).2, hne, and_false, if_false]
  rfl

theorem Records.push_nil (records : Records) : records.push [] = records := by
  cases records with
  | nil => rfl
  | cons record records => cases record <;> rfl

theorem Records.push_push (cs cs' : List Char) (records : Records) :
    (records.push cs').push cs = records.push (cs ++ cs') := by
  cases records with
  | nil => rfl
  | cons record records => cases record <;> simp [Records.push]

theorem Records.map_push_nil (records? : Option Records) :
    records?.map (Records.push []) = records? := by
  cases records? <;> simp [Records.push_nil]

theorem Records.map_push_push (cs cs' : List Char) (records? : Option Records) :
    (records?.map (Records.push cs')).map (Records.push cs) =
      records?.map (Records.push (cs ++ cs')) := by
  rw [Option.map_map]
  exact Option.map_congr fun records _ => records.push_push cs cs'

/-! ### Cells and lines -/

/-- In a quoted field a character is read as itself, if quotes are written twice. -/
theorem readFrom_doubled (c : Char) (cs : List Char) :
    readFrom .quoted ((if c = '"' then ['"', '"'] else [c]) ++ cs) =
      (readFrom .quoted cs).map (Records.push [c]) := by
  split_ifs with hc
  · subst hc
    have hfirst : Place.step? .quoted '"' = some (.closed, .mark) := rfl
    have hsecond : Place.step? .closed '"' = some (.quoted, .letter) := rfl
    rw [List.cons_append, List.cons_append, List.nil_append, readFrom_cons hfirst (by decide),
      readFrom_cons hsecond (by decide), Option.map_map]
    rfl
  · have hstep : Place.step? .quoted c = some (.quoted, .letter) := by simp [Place.step?, hc]
    rw [List.cons_append, List.nil_append, readFrom_cons hstep (by decide)]
    rfl

/-- The characters of a cell are read up to its closing quote. -/
theorem readFrom_quoted (cs rest : List Char) :
    readFrom .quoted (cs.flatMap (fun c => if c = '"' then ['"', '"'] else [c]) ++ '"' :: rest) =
      (readFrom .closed rest).map (Records.push cs) := by
  induction cs with
  | nil =>
    have hclose : Place.step? .quoted '"' = some (.closed, .mark) := rfl
    rw [List.flatMap_nil, List.nil_append, readFrom_cons hclose (by decide), Records.map_push_nil]
    exact Option.map_id'
  | cons c cs ih =>
    rw [List.flatMap_cons, List.append_assoc, readFrom_doubled, ih, Records.map_push_push]
    rfl

theorem readFrom_quote (s : String) (rest : List Char) :
    readFrom .start (quote s ++ rest) = (readFrom .closed rest).map (Records.push s.toList) := by
  have hopen : Place.step? .start '"' = some (.quoted, .mark) := rfl
  rw [quote, List.cons_append, List.cons_append, List.append_assoc,
    readFrom_cons hopen (by decide), List.cons_append, List.nil_append, readFrom_quoted]
  exact Option.map_id'

/-- A text spells a field: it is read as the field, and the field may end behind it. -/
def Spells (text field : List Char) : Prop :=
  ∃ place : Place, place.canEnd = true ∧
    ∀ rest, readFrom .start (text ++ rest) = (readFrom place rest).map (Records.push field)

theorem spells_quote (s : String) : Spells (quote s) s.toList :=
  ⟨.closed, rfl, readFrom_quote s⟩

/-- Texts between commas are read as the fields that they spell, if their record ends where the last
of them ends. -/
theorem readFrom_record {texts fields : List (List Char)} (h : List.Forall₂ Spells texts fields)
    (hne : texts ≠ [])
    (hend : ∀ place : Place, place.canEnd = true → readFrom place rest = some ([[]] :: records)) :
    readFrom .start ([','].intercalate texts ++ rest) = some (fields :: records) := by
  induction h with
  | nil => exact absurd rfl hne
  | cons hfirst hmore ih =>
    obtain ⟨place, hplace, hread⟩ := hfirst
    cases hmore with
    | nil =>
      rw [List.intercalate_singleton, hread, hend place hplace]
      simp [Records.push]
    | cons hsecond hmore =>
      rw [List.intercalate_cons_cons, List.append_assoc, List.append_assoc, hread,
        List.cons_append, List.nil_append, readFrom_comma hplace, ih (List.cons_ne_nil _ _)]
      simp [Records.push]

/-- Cells as a line. -/
def lineOf (cells : List String) : List Char :=
  [','].intercalate (cells.map quote)

theorem lineOf_ne_nil {cells : List String} (hcells : cells ≠ []) : lineOf cells ≠ [] := by
  obtain ⟨s, cells, rfl⟩ := List.exists_cons_of_ne_nil hcells
  cases cells <;> simp [lineOf, quote, List.intercalate_cons_cons]

/-- A line of cells is read back if its record ends where it ends. -/
theorem readFrom_line {cells : List String} (hcells : cells ≠ [])
    (hend : ∀ place : Place, place.canEnd = true → readFrom place rest = some ([[]] :: records)) :
    readFrom .start (lineOf cells ++ rest) = some (cells.map String.toList :: records) := by
  refine readFrom_record ?_ (by simpa using hcells) hend
  rw [List.forall₂_map_left_iff, List.forall₂_map_right_iff, List.forall₂_same]
  exact fun s _ => spells_quote s

theorem lines_ne_nil {rows : List (List String)} (hrows : rows ≠ [])
    (hcells : ∀ cells ∈ rows, cells ≠ []) : ['\n'].intercalate (rows.map lineOf) ≠ [] := by
  obtain ⟨cells, rows, rfl⟩ := List.exists_cons_of_ne_nil hrows
  have hline := lineOf_ne_nil (hcells cells List.mem_cons_self)
  cases rows <;> simp [List.intercalate_cons_cons, hline]

/-- Lines of cells are read back, one record for each. -/
theorem readFrom_lines {rows : List (List String)} (hrows : rows ≠ [])
    (hcells : ∀ cells ∈ rows, cells ≠ []) :
    readFrom .start (['\n'].intercalate (rows.map lineOf)) =
      some (rows.map (List.map String.toList)) := by
  induction rows with
  | nil => exact absurd rfl hrows
  | cons cells rows ih =>
    rw [List.forall_mem_cons] at hcells
    cases rows with
    | nil =>
      have hline := readFrom_line hcells.1 fun _ => readFrom_nil
      rw [List.append_nil] at hline
      rw [List.map_singleton, List.intercalate_singleton, List.map_singleton, hline]
    | cons cells' rows =>
      -- behind the line break another record begins, since the lines behind it are not empty
      have hothers : cells' :: rows ≠ [] := List.cons_ne_nil cells' rows
      rw [List.map_cons, List.map_cons, List.intercalate_cons_cons, ← List.map_cons,
        List.append_assoc]
      refine readFrom_line hcells.1 fun place hplace => ?_
      rw [List.cons_append, List.nil_append,
        readFrom_lineBreak hplace (lines_ne_nil hothers hcells.2), ih hothers hcells.2]
      rfl

example : records? "\"a,\"\"\",\"\"\n\"\r\n\",\"b\"" = some [["a,\"", ""], ["\r\n", "b"]] := by
  decide +kernel

end Steps

/-! ### Tables -/

/-- The text that a cell of a table holds: of an item that is an object, the text of the field with
the name of the column, or the data text of a field that is no text; a pair of quotes where the field
is `null`, where there is none, and where the item is no object. -/
inductive Holds (item : Json) (name : String) : String → Prop where
  /-- The field is a text. -/
  | text (fields : Fields) (s : String) (hitem : item = .obj fields)
      (hfield : Fields.get? fields name = some (.str s)) : Holds item name s
  /-- The field is another value. -/
  | value (fields : Fields) (v : Json) (hitem : item = .obj fields)
      (hfield : Fields.get? fields name = some v) (hnull : v ≠ .null) (htext : ∀ s, v ≠ .str s) :
      Holds item name (v.write Json.compact)
  /-- The field is `null`. -/
  | null (fields : Fields) (hitem : item = .obj fields) (hfield : Fields.get? fields name = some .null) :
      Holds item name "\"\""
  /-- There is no field of this name. -/
  | missing (fields : Fields) (hitem : item = .obj fields) (hfield : Fields.get? fields name = none) :
      Holds item name "\"\""
  /-- The item is no object. -/
  | noObject (hitem : ∀ fields, item ≠ .obj fields) : Holds item name "\"\""

theorem holds_cellText (item : Json) (name : String) :
    Holds item name (cellText ((item.field? name).getD .null)) := by
  by_cases hitem : ∃ fields, item = .obj fields
  · obtain ⟨fields, rfl⟩ := hitem
    have hlookup : (Json.obj fields).field? name = Fields.get? fields name := rfl
    rw [hlookup]
    cases hfield : Fields.get? fields name with
    | none => exact .missing fields rfl hfield
    | some v =>
      cases v with
      | null => exact .null fields rfl hfield
      | str s => exact .text fields s rfl hfield
      | _ => exact .value fields _ rfl hfield nofun nofun
  · have hnone : item.field? name = none := by
      cases item with
      | obj fields => exact absurd ⟨fields, rfl⟩ hitem
      | _ => rfl
    rw [hnone]
    exact .noObject fun fields heq => hitem ⟨fields, heq⟩

/-- A cell of an item that is no object is a pair of quotes. -/
theorem Holds.eq_of_noObject {item : Json} {name s : String} (h : Holds item name s)
    (hitem : ∀ fields, item ≠ .obj fields) : s = "\"\"" := by
  cases h with
  | text fields _ hobject => exact absurd hobject (hitem fields)
  | value fields _ hobject => exact absurd hobject (hitem fields)
  | null => rfl
  | missing => rfl
  | noObject => rfl

theorem line_eq_lineOf (header : List String) (item : Json) :
    line header item = lineOf ((row header item).map cellText) := by
  rw [line, lineOf, List.map_map]
  rfl

/-- Fields with commas, quotes and line breaks, one of `null` and one of a list. -/
def awkwardFields : Fields :=
  [("a", .str "x,\"y\"\r\nz"), ("b", .null), ("c,\"", .arr [.int 1, .str "\","])]

end Flowgraph.Csv
