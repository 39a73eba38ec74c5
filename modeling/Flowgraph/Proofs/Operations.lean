import Flowgraph.Proofs.Edits
import Flowgraph.Proofs.Quota

/-!
# Operations on stored workflows

Four operations change the table of workflows.  What each of them can do is said once, as a relation
between the database, what the operation gives and the database behind it: it refuses and changes
nothing, or it changes the one row that it is for.  Two ways out are not so tidy.  A row that cannot
be written blocks the database, and a document that cannot leave is given up only when the names and
tags of its row have been taken over.

## Main definitions

* `WorkflowRow.Sound` — a row whose definition is an accepted document of its name.
* `WorkflowChange`, `Database.change` — the four operations, as one.
* `WorkflowChange.Storable` — a document that comes in the place of another can leave.
* `Database.Changed` — what they can do.

## Main results

* `WorkflowRow.document_of_accepted` — a row gives back the document that it was written from.
* `Database.change_changed` — **the operations can do nothing else.**
-/

namespace Flowgraph

/-! ### Rows -/

/-- A document is accepted, as some data that is handed over. -/
def Document.Accepted (d : Document) : Prop :=
  ∃ v, Document.check v = .ok d

/-- The definition of a row keeps all rules, and it is a document of the name of the row. -/
def WorkflowRow.Sound (row : WorkflowRow) : Prop :=
  ∃ d, row.document = .ok d ∧ Document.check row.definition = .ok d ∧ d.workflow.id = row.id

namespace WorkflowRow

variable {d : Document} {row : WorkflowRow}

/-- A row gives back the document that it was written from, with finite numbers. -/
theorem document_of_accepted (h : d.Accepted) (hrow : row.definition = d.toJson) :
    row.document = .ok d.finite ∧ Document.check row.definition = .ok d.finite := by
  obtain ⟨v, hcheck⟩ := h
  have hback := Document.check_toJson hcheck
  rw [document, hrow]
  exact ⟨(Document.check_eq_ok_iff.mp hback).1, hback⟩

theorem sound_of_accepted (h : d.Accepted) (hrow : row.definition = d.toJson)
    (hid : d.workflow.id = row.id) : row.Sound :=
  ⟨d.finite, (document_of_accepted h hrow).1, (document_of_accepted h hrow).2, hid⟩

/-- The document of a sound row is accepted, and it carries the name of the row. -/
theorem Sound.of_document (h : row.Sound) (hdocument : row.document = .ok d) :
    Document.check row.definition = .ok d ∧ d.workflow.id = row.id := by
  obtain ⟨d', hdocument', hcheck, hid⟩ := h
  obtain rfl := Except.ok.inj (hdocument'.symm.trans hdocument)
  exact ⟨hcheck, hid⟩

end WorkflowRow

theorem StoredWorkflow.ofRow_of_accepted {d : Document} (h : d.Accepted) {row : WorkflowRow}
    (hrow : row.definition = d.toJson) : ofRow row = .ok ⟨row, d.finite⟩ := by
  rw [ofRow, (WorkflowRow.document_of_accepted h hrow).1]

/-! ### Changes -/

/-- A change of the stored workflows. -/
inductive WorkflowChange where
  /-- Data is stored as a new workflow, with the request that it was made for. -/
  | create (data prompt : Json)
  /-- Data is stored in the place of a workflow. -/
  | update (id : String) (data : Json)
  /-- A command is carried out on a workflow. -/
  | edit (id : String) (command : Json)
  /-- A workflow is removed. -/
  | delete (id : String)

/-- A document that comes in the place of another can leave. -/
def WorkflowChange.Storable : WorkflowChange → Prop
  | update _ data => ∀ d, Document.check data = .ok d → d.CanLeave
  | _ => True

namespace Database

/-- The outcome of a change, with the document that it leaves of what it gives. -/
def leaving {α : Type} (left : α → Option Document) :
    Except ServiceError α × Database → Except ServiceError (Option Document) × Database
  | (.ok a, db) => (.ok (left a), db)
  | (.error e, db) => (.error e, db)

/-- A change, with the document that it leaves unless it removes one. -/
def change (db : Database) (now : Moment) :
    WorkflowChange → Except ServiceError (Option Document) × Database
  | .create data prompt => leaving (fun s => some s.document) (db.createWorkflow data prompt now)
  | .update id data => leaving (fun s => some s.document) (db.updateWorkflow id data now)
  | .edit id command => leaving (fun e => some e.document) (db.editWorkflow id command now)
  | .delete id => leaving (fun _ => none) (db.deleteWorkflow id)

/-- What a change can do. -/
inductive Changed (db : Database) (now : Moment) :
    WorkflowChange → Except ServiceError (Option Document) × Database → Prop where
  /-- It is refused. -/
  | refused (c : WorkflowChange) (e : ServiceError) : Changed db now c (.error e, db)
  /-- The document cannot be written, or the request that comes with a new one. -/
  | unwritten (c : WorkflowChange) (e : ColumnError) : Changed db now c (.error (.column e), db.block)
  /-- The document cannot leave, which is found too late. -/
  | spoiled (id : String) (data : Json) (d : Document) (f : Fault)
      (hcheck : Document.check data = .ok d) (hstays : ¬ d.CanLeave) :
      Changed db now (.update id data) (.error (.fault f), db.retitleWorkflow id d)
  /-- There is a row more. -/
  | created (data prompt : Json) (d : Document) (request? : Option String)
      (hcheck : Document.check data = .ok d) (hopen : db.isBlocked = false)
      (hnew : ∀ row ∈ db.workflows, row.id ≠ d.workflow.id) :
      Changed db now (.create data prompt)
        (.ok (some d.finite), db.insertWorkflow (.ofDocument d request? now))
  /-- A row is written anew. -/
  | updated (id : String) (data : Json) (d : Document) (old : WorkflowRow)
      (hcheck : Document.check data = .ok d) (hopen : db.isBlocked = false)
      (hold : db.workflow? id = some old) (hid : d.workflow.id = id) :
      Changed db now (.update id data) (.ok (some d.finite), db.replaceWorkflow id d now)
  /-- A row is written anew, and the document comes back as it is. -/
  | edited (id : String) (command : Json) (d : Document) (old : StoredWorkflow)
      (hcheck : Document.check d.toJson = .ok d) (hold : db.stored id = .ok old)
      (hid : d.workflow.id = old.document.workflow.id) :
      Changed db now (.edit id command) (.ok (some d), db.replaceWorkflow id d now)
  /-- There is a row less. -/
  | deleted (id : String) (old : WorkflowRow) (hold : db.workflow? id = some old) :
      Changed db now (.delete id) (.ok none, db.removeWorkflow id)

variable {db : Database} {id : String} {row : WorkflowRow}

theorem workflow?_eq_none : db.workflow? id = none ↔ ∀ row ∈ db.workflows, row.id ≠ id := by
  simp [workflow?]

/-! ### New rows -/

/-- What putting in a document comes to where there is no row of its name. -/
theorem create_changed (db : Database) (data prompt : Json) (now : Moment) :
    Changed db now (.create data prompt) (db.change now (.create data prompt)) := by
  rw [change, createWorkflow]
  cases hcheck : Document.check data with
  | error errors => exact .refused _ _
  | ok d =>
    cases hreach : db.reachWorkflow? d.workflow.id with
    | error e => simp only [hreach]; exact .refused _ e
    | ok row? =>
      obtain ⟨hopen, hfound⟩ := reachWorkflow?_eq_ok.mp hreach
      cases row? with
      | some row => simp only [hreach]; exact .refused _ _
      | none =>
        -- what is left to go wrong is the document, and the request that comes with it
        have hready : db.reach = .ok () := by simp [reach, hopen]
        cases hserialize : d.serialize with
        | error e =>
          simp only [hreach, putDocument, newRow, hserialize, hready, Except.mapError, bind,
            Except.bind]
          exact .refused _ _
        | ok j =>
          cases hwritten : Column.data? j with
          | error e =>
            simp only [hreach, putDocument, newRow, hserialize, hwritten, hready, Except.mapError,
              bind, Except.bind]
            exact .unwritten _ e
          | ok _ =>
            cases hrequest : Column.text? prompt with
            | error e =>
              simp only [hreach, putDocument, newRow, hserialize, hwritten, hrequest, hready,
                Except.mapError, bind, Except.bind]
              exact .unwritten _ e
            | ok request? =>
              have hrow : StoredWorkflow.ofRow (.ofDocument d request? now) =
                  .ok ⟨.ofDocument d request? now, d.finite⟩ :=
                StoredWorkflow.ofRow_of_accepted ⟨data, hcheck⟩ rfl
              have hfree : db.workflow? (WorkflowRow.ofDocument d request? now).id = none := hfound
              simp only [hreach, putDocument, newRow, hserialize, hwritten, hrequest, hready,
                Except.mapError, bind, Except.bind, pure, Except.pure, hfree, hrow,
                Option.isSome_none, Bool.false_eq_true, ↓reduceIte]
              exact .created data prompt d request? hcheck hopen (workflow?_eq_none.mp hfound)

/-! ### Changed rows -/

/-- What the exchange of a document comes to where there is a row to change. -/
inductive Exchanged (db : Database) (id : String) (row : WorkflowRow) (d : Document) (now : Moment) :
    Except ServiceError (Option StoredWorkflow) × Database → Prop where
  /-- The document is put in. -/
  | stored (hleave : d.CanLeave) (hwritable : d.toJson.isWritable = true) :
      Exchanged db id row d now
        (.ok (some ⟨row.withDocument d now, d.finite⟩), db.replaceWorkflow id d now)
  /-- It cannot be written. -/
  | unwritten (hleave : d.CanLeave) (hwritable : d.toJson.isWritable = false) :
      Exchanged db id row d now (.error (.column .tooManyDigits), db.block)
  /-- It cannot leave. -/
  | spoiled (hstays : ¬ d.CanLeave) (f : Fault) :
      Exchanged db id row d now (.error (.fault f), db.retitleWorkflow id d)

theorem exchangeDocument_exchanged {d : Document} (haccepted : d.Accepted)
    (hopen : db.isBlocked = false) (hold : db.workflow? id = some row) (now : Moment) :
    Exchanged db id row d now (db.exchangeDocument id d now) := by
  have hreach := reachWorkflow?_eq_ok.mpr ⟨hopen, hold⟩
  by_cases hleave : d.CanLeave
  · have hrow : StoredWorkflow.ofRow (row.withDocument d now) =
        .ok ⟨row.withDocument d now, d.finite⟩ :=
      StoredWorkflow.ofRow_of_accepted haccepted rfl
    cases hwritable : d.toJson.isWritable with
    | true =>
      simp only [exchangeDocument, hreach, hleave.serialize, Column.data?, hwritable, if_true, hrow,
        Except.map]
      exact .stored hleave hwritable
    | false =>
      simp only [exchangeDocument, hreach, hleave.serialize, Column.data?, hwritable,
        Bool.false_eq_true, if_false]
      exact .unwritten hleave hwritable
  · cases hserialize : d.serialize with
    | ok j => exact absurd (Document.serialize_eq_ok.mp hserialize).1 hleave
    | error e =>
      simp only [exchangeDocument, hreach, hserialize]
      exact .spoiled hleave _

theorem update_changed (db : Database) (id : String) (data : Json) (now : Moment) :
    Changed db now (.update id data) (db.change now (.update id data)) := by
  rw [change, updateWorkflow]
  cases hstored : db.stored id with
  | error e => exact .refused _ e
  | ok s =>
    obtain ⟨hopen, hold, -⟩ := stored_eq_ok_iff.mp hstored
    cases hcheck : Document.check data with
    | error errors => exact .refused _ _
    | ok d =>
      by_cases hid : d.workflow.id = id
      · simp only [hid, ↓reduceIte]
        have hexchanged := exchangeDocument_exchanged ⟨data, hcheck⟩ hopen hold now
        generalize db.exchangeDocument id d now = outcome at hexchanged
        cases hexchanged with
        | stored => exact .updated id data d s.row hcheck hopen hold hid
        | unwritten => exact .unwritten _ _
        | spoiled hstays f => exact .spoiled id data d f hcheck hstays
      · simp only [hid, ↓reduceIte]
        exact .refused _ _

theorem edit_of_carryOut {d : Document} {command : Json} {edited : Edited}
    (h : carryOut d command = .ok edited) : ∃ text, d.edit text = .ok (.ok edited) := by
  obtain ⟨text, -, h⟩ := Except.bind_eq_ok_iff.mp h
  obtain ⟨outcome, hedit, h⟩ := Except.bind_eq_ok_iff.mp h
  cases outcome with
  | error refusal => simp [Except.mapError] at h
  | ok e =>
    obtain rfl : e = edited := by simpa [Except.mapError] using h
    cases hresult : d.edit text with
    | error fault => simp [hresult, Except.mapError] at hedit
    | ok result =>
      obtain rfl : result = .ok e := by simpa [hresult, Except.mapError] using hedit
      exact ⟨text, hresult⟩

theorem edit_changed (db : Database) (id : String) (command : Json) (now : Moment) :
    Changed db now (.edit id command) (db.change now (.edit id command)) := by
  rw [change, editWorkflow]
  cases hstored : db.stored id with
  | error e => exact .refused _ e
  | ok s =>
    obtain ⟨hopen, hold, -⟩ := stored_eq_ok_iff.mp hstored
    simp only []
    cases hcarried : carryOut s.document command with
    | error e => exact .refused _ e
    | ok edited =>
      obtain ⟨text, hedit⟩ := edit_of_carryOut hcarried
      obtain ⟨hcheck, hleave, hid⟩ := Document.edit_eq_ok hedit
      have hexchanged := exchangeDocument_exchanged ⟨_, hcheck⟩ hopen hold now
      simp only []
      generalize db.exchangeDocument id edited.document now = outcome at hexchanged
      cases hexchanged with
      | stored => exact .edited id command edited.document s hcheck hstored hid
      | unwritten => exact .unwritten _ _
      | spoiled hstays => exact absurd hleave hstays -- the outcome of an edit can always leave

/-! ### Removed rows -/

theorem delete_changed (db : Database) (id : String) (now : Moment) :
    Changed db now (.delete id) (db.change now (.delete id)) := by
  rw [change, deleteWorkflow]
  cases hreach : db.reachWorkflow? id with
  | error e => exact .refused _ e
  | ok row? =>
    cases row? with
    | none => exact .refused _ _
    | some row => exact .deleted id row (reachWorkflow?_eq_ok.mp hreach).2

/-- **What a change can do.** -/
theorem change_changed (db : Database) (now : Moment) :
    ∀ c : WorkflowChange, Changed db now c (db.change now c)
  | .create data prompt => db.create_changed data prompt now
  | .update id data => db.update_changed id data now
  | .edit id command => db.edit_changed id command now
  | .delete id => db.delete_changed id now

end Database
end Flowgraph
