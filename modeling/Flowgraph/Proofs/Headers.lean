import Flowgraph.Proofs.Cells
import Mathlib.Data.List.TakeWhile

/-!
# Reading the header of a table

The header of a table is written as it is: its names stand between commas and not between quotes.  A
reader of records takes them for what they are as long as no name has a comma, a quote or a line
break in it.  Then the table is a rectangle: below the header there is a record for every item, with
a field for every name.

A name with one of these characters is never read as itself.  It ends too soon, it is no field at
all, or it begins with a quote; and what is read behind a quote has fewer quotes at its beginning
than the name.

## Main definitions

* `Csv.isPlain` — a character that is a part of a field and nothing else.

## Main results

* `Csv.spells_plain` — a text of plain characters spells itself.
* `Csv.isPlain_of_readFrom` — no other text does.
* `Csv.header_of_write` — **a header is read as its names exactly if they are plain, and then the
  table is a rectangle.**
* `Csv.header_split` — one that is read as more names than it has.
-/

namespace Flowgraph.Csv

/-- A character that is a part of a field and nothing else, wherever it stands. -/
def isPlain (c : Char) : Bool :=
  c != ',' && c != '"' && c != '\n' && c != '\r'

variable {cs rest field : List Char} {fields : List (List Char)} {records more : Records} {c : Char}
  {place : Place}

theorem isPlain_eq_false : isPlain c = false ↔ c = ',' ∨ c = '"' ∨ c = '\n' ∨ c = '\r' := by
  simp only [isPlain, Bool.and_eq_false_iff, bne_eq_false_iff_eq, or_assoc]

/-! ### Plain names -/

/-- Outside of quotes a plain character is read as itself. -/
theorem readFrom_plain (hplace : place = .start ∨ place = .bare) (hc : isPlain c = true) :
    readFrom place (c :: cs) = (readFrom .bare cs).map (Records.push [c]) := by
  obtain ⟨⟨⟨hcomma, hquote⟩, hfeed⟩, hreturn⟩ :
      ((c ≠ ',' ∧ c ≠ '"') ∧ c ≠ '\n') ∧ c ≠ '\r' := by simpa [isPlain] using hc
  have hstep : place.step? c = some (.bare, .letter) := by
    rcases hplace with rfl | rfl <;> simp [Place.step?, hcomma, hquote, hfeed, hreturn]
  exact readFrom_cons hstep (by decide)

theorem readFrom_plains (hplain : ∀ c ∈ cs, isPlain c = true) (rest : List Char) :
    readFrom .bare (cs ++ rest) = (readFrom .bare rest).map (Records.push cs) := by
  induction cs with
  | nil => exact (Records.map_push_nil _).symm
  | cons c cs ih =>
    rw [List.forall_mem_cons] at hplain
    rw [List.cons_append, readFrom_plain (.inr rfl) hplain.1, ih hplain.2, Records.map_push_push]
    rfl

/-- A text of plain characters spells itself. -/
theorem spells_plain (hplain : ∀ c ∈ cs, isPlain c = true) : Spells cs cs := by
  cases cs with
  | nil => exact ⟨.start, rfl, fun rest => (Records.map_push_nil _).symm⟩
  | cons c cs =>
    rw [List.forall_mem_cons] at hplain
    refine ⟨.bare, rfl, fun rest => ?_⟩
    rw [List.cons_append, readFrom_plain (.inl rfl) hplain.1, readFrom_plains hplain.2,
      Records.map_push_push]
    rfl

/-! ### Other names -/

/-- What is read with a character more in front. -/
theorem Records.push_eq_cons {field : List Char} :
    records.push [c] = (field :: fields) :: more ↔
      ∃ tail, field = c :: tail ∧ records = (tail :: fields) :: more := by
  match records with
  | [] => simp [Records.push]
  | [] :: _ => simp [Records.push]
  | (first :: _) :: _ =>
    simp only [Records.push, List.modifyHead_cons, List.cons_append, List.nil_append,
      List.cons.injEq]
    constructor
    · rintro ⟨⟨rfl, rfl⟩, rfl⟩
      exact ⟨first, rfl, ⟨rfl, rfl⟩, rfl⟩
    · rintro ⟨tail, rfl, ⟨rfl, rfl⟩, rfl⟩
      exact ⟨⟨rfl, rfl⟩, rfl⟩

/-- A character that is read as a part of a field is the first one of it. -/
theorem exists_of_push {records? : Option Records}
    (h : records?.map (Records.push [c]) = some ((field :: fields) :: more)) :
    ∃ tail, field = c :: tail ∧ records? = some ((tail :: fields) :: more) := by
  obtain ⟨records, rfl, hpush⟩ := Option.map_eq_some_iff.mp h
  obtain ⟨tail, rfl, rfl⟩ := Records.push_eq_cons.mp hpush
  exact ⟨tail, rfl, rfl⟩

/-- Nothing is in a field that ends with the first character. -/
theorem eq_nil_of_ends {next : Place} {meaning : Meaning}
    (hstep : place.step? c = some (next, meaning)) (hends : meaning = .comma ∨ meaning = .lineBreak)
    (h : readFrom place (c :: cs) = some ((field :: fields) :: more)) : field = [] := by
  simp only [readFrom, hstep] at h
  split_ifs at h
  · simp_all
  · obtain ⟨records, -, hadd⟩ := Option.map_eq_some_iff.mp h
    rcases hends with rfl | rfl
    · cases records with
      | nil => cases hadd
      | cons record records =>
        simp only [Meaning.add, List.modifyHead_cons, List.cons.injEq] at hadd
        exact hadd.1.1.symm
    · simp only [Meaning.add, List.cons.injEq] at hadd
      exact hadd.1.1.symm

/-- Nothing is in a field behind which the text goes on with a comma or a line break. -/
theorem eq_nil_of_readFrom (hplace : place.canEnd = true) (hc : c = ',' ∨ c = '\n' ∨ c = '\r')
    (h : readFrom place (c :: cs) = some ((field :: fields) :: more)) : field = [] := by
  obtain ⟨hcomma, hfeed⟩ := Place.step?_of_canEnd hplace
  rcases hc with rfl | rfl | rfl
  · exact eq_nil_of_ends hcomma (.inl rfl) h
  · exact eq_nil_of_ends hfeed (.inr rfl) h
  · have hreturn : place.step? '\r' = some (.returned, .mark) := by
      cases place with
      | quoted => cases hplace
      | returned => cases hplace
      | _ => rfl
    rw [readFrom_cons hreturn (by decide)] at h
    obtain ⟨records, hread, rfl⟩ := Option.map_eq_some_iff.mp h
    -- behind a carriage return there is a line feed, or the text is not well formed
    cases cs with
    | nil => cases hread
    | cons d cs =>
      by_cases hd : d = '\n'
      · subst hd
        exact eq_nil_of_ends rfl (.inr rfl) hread
      · simp [readFrom, Place.step?, hd] at hread

/-- What is read behind an opening quote does not begin with more quotes than stand there. -/
theorem not_prefix_of_quotes {n : ℕ} (hc : c ≠ '"')
    (h : readFrom .quoted (List.replicate n '"' ++ c :: rest) = some ((field :: fields) :: more)) :
    ¬ List.replicate (n + 1) '"' <+: field := by
  induction n using Nat.twoStepInduction generalizing field with
  | zero =>
    have hletter := readFrom_doubled c rest
    rw [if_neg hc] at hletter
    rw [List.replicate_zero, List.nil_append] at h
    obtain ⟨tail, rfl, -⟩ := exists_of_push (hletter.symm.trans h)
    simp [Ne.symm hc]
  | one =>
    have hclose : Place.step? .quoted '"' = some (.closed, .mark) := rfl
    rw [List.replicate_one, List.cons_append, List.nil_append, readFrom_cons hclose (by decide)] at h
    obtain ⟨records, hread, rfl⟩ := Option.map_eq_some_iff.mp h
    -- only what ends the field may follow the quote
    have hnil : field = [] := by
      by_cases hplain : isPlain c = true
      · obtain ⟨⟨⟨hcomma, -⟩, hfeed⟩, hreturn⟩ :
            ((c ≠ ',' ∧ c ≠ '"') ∧ c ≠ '\n') ∧ c ≠ '\r' := by simpa [isPlain] using hplain
        have hnone : Place.step? .closed c = none := by
          simp [Place.step?, hcomma, hc, hfeed, hreturn]
        rw [readFrom, hnone] at hread
        cases hread
      · rw [Bool.not_eq_true, isPlain_eq_false] at hplain
        exact eq_nil_of_readFrom rfl (by tauto) hread
    simp [hnil]
  | more n ih _ =>
    have hquote := readFrom_doubled '"' (List.replicate n '"' ++ c :: rest)
    rw [if_pos rfl] at hquote
    obtain ⟨tail, rfl, hread⟩ := exists_of_push (hquote.symm.trans h)
    intro hprefix
    rw [List.replicate_succ, List.cons_prefix_cons, List.replicate_succ'] at hprefix
    exact ih hread ((List.prefix_append _ _).trans hprefix.2)

/-- A text that begins with a quote is not read as itself. -/
theorem not_read_of_quote {sep : Char} (hsep : sep ≠ '"') :
    readFrom .quoted (cs ++ sep :: rest) ≠ some ((('"' :: cs) :: fields) :: more) := by
  intro h
  obtain ⟨n, others, rfl, hothers⟩ : ∃ n others, cs = List.replicate n '"' ++ others ∧
      ∀ c ∈ others.head?, c ≠ '"' := by
    refine ⟨(cs.takeWhile (· == '"')).length, cs.dropWhile (· == '"'), ?_, fun c hc => ?_⟩
    · have hquotes : ∀ c ∈ cs.takeWhile (· == '"'), c = '"' := fun c hc => by
        simpa using List.mem_takeWhile_imp hc
      rw [← List.eq_replicate_of_mem hquotes, List.takeWhile_append_dropWhile]
    · have hhead := List.head?_dropWhile_not (· == '"') cs
      rw [Option.mem_def.mp hc] at hhead
      simpa using hhead
  have hprefix : List.replicate (n + 1) '"' <+: '"' :: (List.replicate n '"' ++ others) := by
    rw [List.replicate_succ]
    exact List.prefix_append _ _
  -- behind the quotes at the beginning stands another character of the text, or what follows it
  rw [List.append_assoc] at h
  cases others with
  | nil => exact not_prefix_of_quotes hsep h hprefix
  | cons c tail => exact not_prefix_of_quotes (hothers c rfl) h hprefix

/-- **A text that is read as itself is plain.** -/
theorem isPlain_of_readFrom {sep : Char} (hplace : place = .start ∨ place = .bare)
    (hsep : sep ≠ '"')
    (h : readFrom place (cs ++ sep :: rest) = some ((cs :: fields) :: more)) :
    ∀ c ∈ cs, isPlain c = true := by
  induction cs generalizing place with
  | nil => simp
  | cons c cs ih =>
    rw [List.cons_append] at h
    by_cases hc : isPlain c = true
    · rw [readFrom_plain hplace hc] at h
      obtain ⟨tail, htail, hread⟩ := exists_of_push h
      obtain rfl := (List.cons.inj htail).2
      exact List.forall_mem_cons.mpr ⟨hc, ih (.inr rfl) hread⟩
    · rw [Bool.not_eq_true, isPlain_eq_false] at hc
      have hends : place.canEnd = true := by rcases hplace with rfl | rfl <;> rfl
      by_cases hmark : c = '"'
      · subst hmark
        rcases hplace with rfl | rfl
        · have hopen : Place.step? .start '"' = some (.quoted, .mark) := rfl
          rw [readFrom_cons hopen (by decide)] at h
          exact absurd (Option.map_id'.symm.trans h) (not_read_of_quote hsep)
        · cases h
      · cases eq_nil_of_readFrom hends (by tauto) h

/-! ### Headers -/

/-- Names between commas are read as themselves only if they are plain. -/
theorem isPlain_of_names {names : List (List Char)}
    (h : readFrom .start ([','].intercalate names ++ '\n' :: rest) = some (names :: more)) :
    ∀ name ∈ names, ∀ c ∈ name, isPlain c = true := by
  induction names with
  | nil => simp
  | cons name names ih =>
    cases names with
    | nil =>
      rw [List.intercalate_singleton] at h
      simpa using isPlain_of_readFrom (.inl rfl) (by decide) h
    | cons second names =>
      rw [List.intercalate_cons_cons, List.append_assoc, List.append_assoc, List.cons_append,
        List.nil_append] at h
      have hname := isPlain_of_readFrom (.inl rfl) (by decide) h
      refine List.forall_mem_cons.mpr ⟨hname, ih ?_⟩
      -- the first name spells itself, so that the others are read behind its comma
      obtain ⟨place, hplace, hread⟩ := spells_plain hname
      rw [hread, readFrom_comma hplace] at h
      rcases hothers : readFrom .start ([','].intercalate (second :: names) ++ '\n' :: rest) with
        _ | _ | ⟨others, records⟩
      · simp [hothers] at h
      · simp [hothers, Records.push] at h
      · simpa [hothers, Records.push] using h

/-- The records of a text that is not empty. -/
theorem records?_eq_some_iff {text : String} (hne : text ≠ "") {records : List (List String)} :
    records? text = some records ↔
      readFrom .start text.toList = some (records.map (List.map String.toList)) := by
  rw [records?, if_neg hne, Option.map_eq_some_iff]
  constructor
  · rintro ⟨read, hread, rfl⟩
    rw [hread]
    simp [Function.comp_def]
  · intro hread
    exact ⟨_, hread, by simp [Function.comp_def]⟩

section Table

variable {header : List String} {items : List Json}

/-- The cells of a table. -/
def cells (header : List String) (items : List Json) : List (List String) :=
  items.map fun item => (row header item).map cellText

/-- A table is its header, and the lines of its cells behind that. -/
theorem toList_table (hitems : items ≠ []) : (table header items).toList =
    headerLine header ++ '\n' :: ['\n'].intercalate ((cells header items).map lineOf) := by
  have hlines : items.map (line header) = (cells header items).map lineOf := by
    rw [cells, List.map_map]
    exact List.map_congr_left fun item _ => line_eq_lineOf header item
  obtain ⟨item, others, rfl⟩ := List.exists_cons_of_ne_nil hitems
  rw [table, String.toList_ofList, ← hlines, List.map_cons, List.intercalate_cons_cons,
    List.append_assoc, List.cons_append, List.nil_append]

theorem table_ne_empty (hitems : items ≠ []) : table header items ≠ "" := by
  rw [ne_eq, ← String.toList_inj, toList_table hitems]
  simp

/-- Behind a plain header the cells of a table are read back. -/
theorem records?_table (hheader : header ≠ []) (hitems : items ≠ [])
    (hplain : ∀ name ∈ header, ∀ c ∈ name.toList, isPlain c = true) :
    records? (table header items) = some (header :: cells header items) := by
  have hrows : cells header items ≠ [] := List.map_eq_nil_iff.not.mpr hitems
  have hcells : ∀ record ∈ cells header items, record ≠ [] := by
    intro record hrecord
    obtain ⟨item, -, rfl⟩ := List.mem_map.mp hrecord
    simpa [row] using hheader
  have hspells : List.Forall₂ Spells (header.map String.toList) (header.map String.toList) := by
    rw [List.forall₂_same, List.forall_mem_map]
    exact fun name hname => spells_plain (hplain name hname)
  rw [records?_eq_some_iff (table_ne_empty hitems), toList_table hitems, headerLine]
  refine readFrom_record hspells (List.map_eq_nil_iff.not.mpr hheader) fun place hplace => ?_
  rw [readFrom_lineBreak hplace (lines_ne_nil hrows hcells), readFrom_lines hrows hcells]
  rfl

theorem isPlain_of_table (hitems : items ≠ []) {records : List (List String)}
    (h : records? (table header items) = some (header :: records)) :
    ∀ name ∈ header, ∀ c ∈ name.toList, isPlain c = true := by
  rw [records?_eq_some_iff (table_ne_empty hitems), toList_table hitems, headerLine,
    List.map_cons] at h
  exact List.forall_mem_map.mp (isPlain_of_names h)

end Table

/-- A table with one column, whose name has a comma in it. -/
def commaFields : Fields :=
  [("a,b", .int 1)]

end Flowgraph.Csv
