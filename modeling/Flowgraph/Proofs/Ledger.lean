import Flowgraph.Proofs.Footprint
import Flowgraph.Proofs.Threading
import Mathlib.Data.List.Forall2

/-!
# The rows of a run

A live run stores rows, one for each record that it saves and each file that it writes.  Here the
rows that a store takes are written down, whatever the store is, and compared with the steps of the
run: the rows are those of the steps that succeeded, in their order, and there are no others.

## Main definitions

* `Collaborators.recording` — the same collaborators, with a list of the rows stored.
* `StoredRow.Of` — a row is the one that the output of a node tells of.

## Main results

* `Backend.insert_recorded` — a row that is stored is written down, and belongs to the workflow.
* `Node.execute_recorded` — a node stores the one row that its outcome tells of, or none.
* `Workflow.rows_of_run` — **the rows of a run are those of its steps that save or write and
  succeed.**
-/

namespace Flowgraph

/-- A row that a store has taken. -/
structure StoredRow where
  /-- The id that the store gave to the row. -/
  id : String
  /-- The table. -/
  table : String
  /-- The values. -/
  values : Fields

/-! ### Writing down what is stored -/

namespace Effect

variable {σ α : Type}

/-- A computation that stores nothing. -/
def unrecorded (m : Effect σ α) : Effect (σ × List StoredRow) α :=
  fun s => ((m s.1).1, (m s.1).2, s.2)

theorem unrecorded_keeps (m : Effect σ α) (rows : List StoredRow) :
    m.unrecorded.Keeps fun s => s.2 = rows := by
  intro s hs
  unfold unrecorded
  rcases m s.1 with ⟨fault | a, s'⟩ <;> exact hs

end Effect

namespace Collaborators

variable {σ : Type}

/-- The same collaborators, with a list of the rows stored: a row comes to it when the store gives
an id for it. -/
def recording (c : Collaborators σ) : Collaborators (σ × List StoredRow) where
  saveTable := c.saveTable
  complete prompt := (c.complete prompt).unrecorded
  insert table values := fun s =>
    match c.insert table values s.1 with
    | (.ok id, s') => (.ok id, s', s.2 ++ [⟨id, table, values⟩])
    | (.error fault, s') => (.error fault, s', s.2)

theorem insert_recorded (c : Collaborators σ) (table : String) (values : Fields)
    (rows : List StoredRow) :
    (c.recording.insert table values).Triple (fun s => s.2 = rows)
      (fun id s => s.2 = rows ++ [⟨id, table, values⟩]) fun s => s.2 = rows := by
  rintro s rfl
  unfold recording
  rcases hrun : c.insert table values s.1 with ⟨fault | id, s'⟩ <;> simp only [hrun]

end Collaborators

/-- The listener that hears the same, where rows are written down. -/
def Listener.unrecorded {σ : Type} (listener : Listener σ) : Listener (σ × List StoredRow) :=
  fun event => (listener event).unrecorded

/-- A row that is stored is written down, and belongs to the workflow. -/
theorem Backend.insert_recorded {σ : Type} (c : Collaborators σ) (workflowId table : String)
    (row : Fields) (rows : List StoredRow) :
    ((live c.recording workflowId).insert table row).Triple (fun s => s.2 = rows)
      (fun id? s => ∃ id, id? = some id ∧ s.2 = rows ++
        [⟨id, table, Fields.setAll [("workflow_id", .str workflowId)] row⟩])
      fun s => s.2 = rows :=
  ((c.insert_recorded _ _ rows).mapFault _).bind fun id => Effect.triple_pure
    fun _ hs => ⟨id, rfl, hs⟩

/-! ### What a row tells of its step -/

/-- A row is the one that the output of a node of a workflow tells of: a record that was saved, or
a file that was written.  Records are saved in one table. -/
inductive StoredRow.Of (saveTable workflowId : String) (node : Node) (output : Fields)
    (row : StoredRow) : Prop where
  /-- A record is saved in its table, with the payload that the output shows. -/
  | saved (htype : node.type = .save) (record : Fields) (payload : Json)
      (hrecord : output.get? "db_save" = some (.obj record))
      (hpayload : record.get? "payload" = some payload)
      (hid : record.get? "inserted_id" = some (.str row.id))
      (htable : row.table = saveTable)
      (hvalues : row.values = [
        ("workflow_id", .str workflowId),
        ("source_node_id", .str node.id),
        ("data_json", payload)])
  /-- A file is written with the content that the output shows. -/
  | written (htype : node.type = .exporter) (record : Fields) (format filename content data : Json)
      (hrecord : output.get? "export" = some (.obj record))
      (hformat : record.get? "format" = some format)
      (hfilename : record.get? "filename" = some filename)
      (hcontent : record.get? "content" = some content)
      (hid : record.get? "export_id" = some (.str row.id))
      (htable : row.table = Activity.Export.filesTable)
      (hvalues : row.values = [
        ("workflow_id", .str workflowId),
        ("source_node_id", .str node.id),
        ("format", format),
        ("filename", filename),
        ("content_text", content),
        ("payload_json", data)])

/-- The rows that come when a node has given an outcome: its own one if it stores any. -/
def Outcome.Stored (saveTable workflowId : String) (node : Node) (output : Fields)
    (rows rows' : List StoredRow) : Prop :=
  if node.stores then
    ∃ row : StoredRow, row.Of saveTable workflowId node output ∧ rows' = rows ++ [row]
  else rows' = rows

namespace Activity

variable {σ : Type} (c : Collaborators σ) (workflowId : String) {node : Node} (context : Fields)
  (rows : List StoredRow)

theorem Save.run_recorded (htype : node.type = .save) (s : SaveSettings) :
    (Save.run (.live c.recording workflowId) node.id s context).Triple (fun s => s.2 = rows)
      (fun o s => ∃ row : StoredRow,
        row.Of c.saveTable workflowId node o.context ∧ s.2 = rows ++ [row])
      fun s => s.2 = rows := by
  unfold Save.run
  split
  · exact Effect.triple_fail fun _ h => h
  · rename_i htable
    have hpermitted : s.table = c.saveTable := by
      simpa [Backend.live, Collaborators.recording] using htable
    refine Effect.Triple.bind (Effect.keeps_ofData _) fun payload => ?_
    refine ((Backend.insert_recorded c workflowId s.table _ rows).mapFault _).bind
      fun id? => Effect.triple_pure ?_
    rintro s' ⟨id, rfl, hs'⟩
    refine ⟨_, ?_, hs'⟩
    refine .saved htype (record s payload (some id)) (.obj payload) ?_ rfl rfl hpermitted rfl
    rw [Fields.get?_set, if_pos rfl]

theorem Export.run_recorded (htype : node.type = .exporter) (s : ExportSettings) :
    (Export.run (.live c.recording workflowId) node.id s context).Triple (fun s => s.2 = rows)
      (fun o s => ∃ row : StoredRow,
        row.Of c.saveTable workflowId node o.context ∧ s.2 = rows ++ [row])
      fun s => s.2 = rows := by
  refine Effect.Triple.bind (resolve_keeps context _) fun data => ?_
  refine ((Backend.insert_recorded c workflowId filesTable _ rows).mapFault _).bind
    fun id? => Effect.triple_pure ?_
  rintro s' ⟨id, rfl, hs'⟩
  refine ⟨_, ?_, hs'⟩
  refine .written htype (record s (content s.format data) (some id)) (.str s.format.name)
    (.str s.resolvedFilename) (.str (content s.format data)) data ?_ rfl rfl rfl rfl rfl rfl
  rw [Fields.get?_set, if_pos rfl]

end Activity

namespace Node

variable {σ : Type} (c : Collaborators σ) (workflowId : String) {node : Node}

theorem settings_of_save (h : node.type = .save) :
    node.settings = .save (Settings.saveOf node.config) := by
  rw [settings, h]
  rfl

theorem settings_of_exporter (h : node.type = .exporter) :
    node.settings = .exporter (Settings.exporterOf node.config) := by
  rw [settings, h]
  rfl

theorem act_recorded (context : Fields) (rows : List StoredRow) :
    (node.act (.live c.recording workflowId) context).Triple (fun s => s.2 = rows)
      (fun o s => Outcome.Stored c.saveTable workflowId node o.context rows s.2)
      fun s => s.2 = rows := by
  unfold Outcome.Stored
  cases hstores : node.stores with
  | false =>
    -- a node that stores nothing only asks, and asking leaves the rows as they are
    exact act_keeps (Backend.askingKeeps_live (fun _ => Effect.unrecorded_keeps _ rows) _)
      (fun h => absurd (h.symm.trans hstores) Bool.noConfusion) context
  | true =>
    have htype : node.type = .save ∨ node.type = .exporter := by simpa [stores] using hstores
    unfold act
    rcases htype with htype | htype
    · rw [settings_of_save htype]
      exact Activity.Save.run_recorded c workflowId context rows htype _
    · rw [settings_of_exporter htype]
      exact Activity.Export.run_recorded c workflowId context rows htype _

/-- A node stores the one row that its outcome tells of, or none. -/
theorem execute_recorded (registry : List NodeType) (context : Fields) (rows : List StoredRow) :
    (node.execute registry (.live c.recording workflowId) context).Triple (fun s => s.2 = rows)
      (fun o s => Outcome.Stored c.saveTable workflowId node o.context rows s.2)
      fun s => s.2 = rows := by
  unfold execute
  split
  · exact act_recorded c workflowId context rows
  · exact Effect.triple_fail fun _ h => h

end Node

/-! ### Runs -/

namespace Step

/-- Whether a step is one of a node that stores a row, and succeeded. -/
def isCommitted (step : Step) : Bool :=
  step.node.stores && !step.isFailed

@[simp] theorem isCommitted_success (node : Node) (input : Fields) (outcome : Outcome)
    (next : List String) : isCommitted ⟨node, input, .success outcome next⟩ = node.stores :=
  Bool.and_true _

@[simp] theorem isCommitted_failed (node : Node) (input : Fields) (fault : Fault) :
    isCommitted ⟨node, input, .failed fault⟩ = false :=
  Bool.and_false _

end Step

namespace Walk

variable {σ : Type} {setting : Setting (σ × List StoredRow)} {c : Collaborators σ}
  {listener : Listener σ} {workflowId : String} {node : Node}
  {state state' : Progress × σ × List StoredRow}

/-- A turn adds a step, and the one row that the output of the step tells of if it stored any. -/
theorem Turn.records (h : Turn setting node state state')
    (hbackend : setting.backend = .live c.recording workflowId)
    (hlistener : setting.listener = listener.unrecorded) :
    ∃ step : Step, state'.1.steps = state.1.steps ++ [step] ∧
      if step.isCommitted then
        ∃ row : StoredRow, row.Of c.saveTable workflowId step.node step.output ∧
          state'.2.2 = state.2.2 ++ [row]
      else state'.2.2 = state.2.2 := by
  have hhear : ∀ event s, (setting.hear event s).2 = s.2 := by
    intro event s
    rw [Setting.hear, hlistener]
    rfl
  cases h with
  | succeeded p s s' outcome h =>
    rw [hbackend] at h
    refine ⟨⟨node, p.context, .success outcome _⟩, rfl, ?_⟩
    rw [Step.isCommitted_success, hhear]
    exact (Node.execute_recorded c workflowId _ _ s.2).of_ok (hhear _ _) h
  | failed p s s' fault h =>
    rw [hbackend] at h
    refine ⟨⟨node, p.context, .failed fault⟩, rfl, ?_⟩
    rw [Step.isCommitted_failed, if_neg Bool.false_ne_true, hhear]
    exact (Node.execute_recorded c workflowId _ _ s.2).of_error (hhear _ _) h

/-- The rows that came to a list are those of the steps that stored one, in their order. -/
def Booked (saveTable workflowId : String) (earlier : List StoredRow) (steps : List Step)
    (log : List StoredRow) : Prop :=
  ∃ rows, log = earlier ++ rows ∧
    List.Forall₂ (fun step row => row.Of saveTable workflowId step.node step.output)
      (steps.filter Step.isCommitted) rows

/-- **Every turn books its row.** -/
theorem Booked.turn {earlier : List StoredRow}
    (h : Booked c.saveTable workflowId earlier state.1.steps state.2.2)
    (hturn : Turn setting node state state')
    (hbackend : setting.backend = .live c.recording workflowId)
    (hlistener : setting.listener = listener.unrecorded) :
    Booked c.saveTable workflowId earlier state'.1.steps state'.2.2 := by
  obtain ⟨rows, hrows, hof⟩ := h
  obtain ⟨step, hsteps, hrow⟩ := hturn.records hbackend hlistener
  rw [hrows] at hrow
  rw [hsteps]
  cases hstored : step.isCommitted with
  | false =>
    rw [hstored, if_neg Bool.false_ne_true] at hrow
    refine ⟨rows, hrow, ?_⟩
    rwa [List.filter_append, List.filter_cons_of_neg (by simp [hstored]), List.filter_nil,
      List.append_nil]
  | true =>
    rw [hstored, if_pos rfl] at hrow
    obtain ⟨row, hrow, hlog⟩ := hrow
    refine ⟨rows ++ [row], by rw [hlog, List.append_assoc], ?_⟩
    rw [List.filter_append, List.filter_cons_of_pos hstored]
    exact List.rel_append hof (.cons hrow .nil)

end Walk

namespace Workflow

variable {σ : Type}

/-- **The rows that a live run stores are those of its steps that save or write and succeed**, one
for each and in their order, whatever the model and the store do.  A step that fails is the last
one, so that nothing is stored behind it. -/
theorem rows_of_run (w : Workflow) (registry : List NodeType) (c : Collaborators σ)
    (workflowId : String) (listener : Listener σ) (copies : Json → Bool) (id : String)
    (given : Json) (s s' : σ)
    (earlier log : List StoredRow) (r : Run)
    (h : w.run registry (.live c.recording workflowId) listener.unrecorded copies id given
      (s, earlier) = (.ok r, s', log)) :
    (∃ rows, log = earlier ++ rows ∧
      List.Forall₂ (fun step row => row.Of c.saveTable workflowId step.node step.output)
        (r.steps.filter Step.isCommitted) rows) ∧
      ∀ step ∈ r.steps.dropLast, step.isFailed = false := by
  obtain ⟨done, failed?, hhanded⟩ := handed_of_run (congrArg Prod.fst h)
  refine ⟨?_, hhanded.isFailed_of_mem_dropLast⟩
  obtain ⟨ended, hbooked, hr, hended⟩ := run_ended
    (fun _ state => Walk.Booked c.saveTable workflowId earlier state.1.steps state.2.2) h
    (fun _ => ⟨[], (List.append_nil earlier).symm, .nil⟩)
    (fun _ _ _ _ hinv _ hturn => hinv.turn hturn rfl rfl)
  have hlog : log = ended.2.2 := congrArg Prod.snd hended
  rw [hlog, hr]
  exact hbooked

/-- The archive stores its record and nothing else, since the store takes no files. -/
theorem rows_of_run_archive :
    ∃ r log, archive.run NodeType.all (.live recordsOnly.recording "wf_archive")
        (Listener.unrecorded .silent) (Json.isWithin 490) "run" .null ((), []) =
          (.ok r, (), log) ∧
      r.steps.length = 3 ∧ log.map StoredRow.table = [recordsOnly.saveTable] ∧
      (∃ rows, log = [] ++ rows ∧
        List.Forall₂
          (fun step row => row.Of recordsOnly.saveTable "wf_archive" step.node step.output)
          (r.steps.filter Step.isCommitted) rows) ∧
      ∀ step ∈ r.steps.dropLast, step.isFailed = false := by
  have hlength : (archive.run NodeType.all (.live recordsOnly.recording "wf_archive")
      (Listener.unrecorded .silent) (Json.isWithin 490) "run" .null ((), [])).1.toOption.map
        (fun r => r.steps.length) = some 3 := by decide +kernel
  have htable : (archive.run NodeType.all (.live recordsOnly.recording "wf_archive")
      (Listener.unrecorded .silent) (Json.isWithin 490) "run" .null ((), [])).2.2.map
        StoredRow.table = [recordsOnly.saveTable] := by decide +kernel
  obtain ⟨r, hr, hlength⟩ := Except.exists_ok_of_map hlength
  have hrows := rows_of_run archive NodeType.all recordsOnly "wf_archive" .silent
    (Json.isWithin 490) "run" .null () () [] _ r (Prod.ext hr rfl)
  exact ⟨r, _, Prod.ext hr rfl, hlength, htable, hrows⟩

end Workflow
end Flowgraph
