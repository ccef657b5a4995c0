import AgentGraphStudio.Lib.Race
import AgentGraphStudio.Storage.Graphs

/-!
# Two changes of one saved graph at the same time

`update_graph` of `backend/storage/graphs_store.py` reads the row, fills in the fields that it is
not given, and writes all of them with one statement. `set_active_state` and `set_is_active` are one
statement each, about fields of their own. `graph_race_iff` says for which schedules two changes of
different fields are both in the final row.
-/

namespace AgentGraphStudio

/-- The statements that a change consists of, on the row of one graph. -/
inductive GraphStep where
  | get
  | write (name specJson updatedAt sharing : String)
  | setActiveState (specJson : String) (isActive : Bool) (updatedAt : String)
  | setIsActive (isActive : Bool) (updatedAt : String)

/-- What a statement returns. -/
def GraphStep.Answer : GraphStep → Type
  | .get => Option StoredGraph
  | _ => Unit

/-- `UPDATE graphs SET name = ?, spec_json = ?, updated_at = ?, sharing = ? WHERE graph_id = ?`. -/
def GraphsTable.writeGraph (table : GraphsTable)
    (graphId name specJson updatedAt sharing : String) :
    GraphsTable :=
  match table.get? graphId with
  | none => table
  | some existing => table.set graphId { existing with name, specJson, updatedAt, sharing }

/-- The table answers a statement. -/
def graphStep (graphId : String) :
    (step : GraphStep) → GraphsTable → step.Answer × GraphsTable
  | .get, table => (table.get? graphId, table)
  | .write name specJson updatedAt sharing, table =>
    ((), table.writeGraph graphId name specJson updatedAt sharing)
  | .setActiveState specJson isActive updatedAt, table =>
    ((), table.setActiveState graphId specJson isActive updatedAt)
  | .setIsActive isActive updatedAt, table => ((), table.setIsActive graphId isActive updatedAt)

/-- A change of a graph: an update with the fields that are given, or what an activation and a
deactivation store. -/
inductive GraphWrite where
  | update (updatedAt : String) (name specJson sharing : Option String)
  | setActiveState (specJson : String) (isActive : Bool) (updatedAt : String)
  | setIsActive (isActive : Bool) (updatedAt : String)

/-- The row that an update makes of the one it has read. -/
def StoredGraph.updated (existing : StoredGraph) (updatedAt : String)
    (name specJson sharing : Option String) : StoredGraph :=
  { existing with
    name := name.getD existing.name
    specJson := specJson.getD existing.specJson
    updatedAt
    sharing := sharing.getD existing.sharing }

/-- How an update goes on when it has read the row. -/
def updateAfterGet (updatedAt : String) (name specJson sharing : Option String) :
    Option StoredGraph → Program GraphStep GraphStep.Answer (Option StoredGraph)
  | none => .done none
  | some existing =>
    let row := existing.updated updatedAt name specJson sharing
    .perform (.write row.name row.specJson row.updatedAt row.sharing) fun _ => .done (some row)

/-- A change as a program of its statements. -/
def GraphWrite.program :
    GraphWrite → Program GraphStep GraphStep.Answer (Option StoredGraph)
  | .update updatedAt name specJson sharing =>
    .perform .get (updateAfterGet updatedAt name specJson sharing)
  | .setActiveState specJson isActive updatedAt =>
    .perform (.setActiveState specJson isActive updatedAt) fun _ => .done none
  | .setIsActive isActive updatedAt =>
    .perform (.setIsActive isActive updatedAt) fun _ => .done none

/-! ## Which fields are changed -/

/-- The fields that a change gives. -/
structure GraphFields where
  name : Option String := none
  specJson : Option String := none
  sharing : Option String := none
  isActive : Option Bool := none

/-- The fields of a change. -/
def GraphWrite.fields : GraphWrite → GraphFields
  | .update _ name specJson sharing => { name, specJson, sharing }
  | .setActiveState specJson isActive _ => { specJson := some specJson, isActive := some isActive }
  | .setIsActive isActive _ => { isActive := some isActive }

namespace GraphFields

/-- No field is given by both. -/
structure Disjoint (first second : GraphFields) : Prop where
  name : first.name = none ∨ second.name = none
  specJson : first.specJson = none ∨ second.specJson = none
  sharing : first.sharing = none ∨ second.sharing = none
  isActive : first.isActive = none ∨ second.isActive = none

/-- The row has what the fields give. -/
structure PresentIn (fields : GraphFields) (row : StoredGraph) : Prop where
  name : ∀ name ∈ fields.name, row.name = name
  specJson : ∀ specJson ∈ fields.specJson, row.specJson = specJson
  sharing : ∀ sharing ∈ fields.sharing, row.sharing = sharing
  isActive : ∀ isActive ∈ fields.isActive, row.isActive = isActive

/-- The row already has what the fields give of a name, a spec and a sharing. -/
structure RedundantIn (fields : GraphFields) (row : StoredGraph) : Prop where
  name : ∀ name ∈ fields.name, row.name = name
  specJson : ∀ specJson ∈ fields.specJson, row.specJson = specJson
  sharing : ∀ sharing ∈ fields.sharing, row.sharing = sharing

end GraphFields

/-- The program whose change an update writes over, having read the row before it. -/
def staleWrite : List Bool → Option Bool
  | [reader, reader', writer, _] => if reader = reader' then none else some writer
  | [reader, writer, reader'] => if reader ≠ writer ∧ reader = reader' then some writer else none
  | _ => none

/-- No update writes over the other change, or that one gave only what the row had. -/
def HarmlessUpdates (first second : GraphWrite) (row : StoredGraph) (schedule : List Bool) : Prop :=
  ∀ writer ∈ staleWrite schedule, (if writer then first else second).fields.RedundantIn row

/-- Both changes are in the final row. -/
def BothPresent (graphId : String) (first second : GraphWrite) (final : GraphsTable) : Prop :=
  ∃ row, final.get? graphId = some row ∧ first.fields.PresentIn row ∧ second.fields.PresentIn row

/-! ## What the statements do to the row -/

/-- What a statement does to the row of the graph. -/
def GraphStep.onRow : GraphStep → StoredGraph → StoredGraph
  | .get, row => row
  | .write name specJson updatedAt sharing, row => { row with name, specJson, updatedAt, sharing }
  | .setActiveState specJson isActive updatedAt, row => { row with specJson, isActive, updatedAt }
  | .setIsActive isActive updatedAt, row => { row with isActive, updatedAt }

/-- The row with some fields overwritten. -/
def StoredGraph.withFields (row : StoredGraph) (fields : GraphFields) (updatedAt : String) :
    StoredGraph :=
  { row with
    name := fields.name.getD row.name
    specJson := fields.specJson.getD row.specJson
    isActive := fields.isActive.getD row.isActive
    updatedAt
    sharing := fields.sharing.getD row.sharing }

/-- The statement that an update ends with, when it has read the row. -/
def updateStep (updatedAt : String) (name specJson sharing : Option String)
    (found : Option StoredGraph) : GraphStep :=
  found.elim .get fun existing =>
    let row := existing.updated updatedAt name specJson sharing
    .write row.name row.specJson row.updatedAt row.sharing

section

variable {graphId : String} {table : GraphsTable} {row : StoredGraph}

/-- A statement changes the row that is there. -/
theorem get?_graph_step (hrow : table.get? graphId = some row) (step : GraphStep) :
    (Races.effect (graphStep graphId) step table).get? graphId = some (step.onRow row) := by
  cases step with
  | get => exact hrow
  | write name specJson updatedAt sharing =>
      show (table.writeGraph graphId name specJson updatedAt sharing).get? graphId = _
      rw [GraphsTable.writeGraph, hrow]
      exact Dict.get?_set_self _ _ _
  | setActiveState specJson isActive updatedAt =>
      show (table.setActiveState graphId specJson isActive updatedAt).get? graphId = _
      rw [GraphsTable.setActiveState, hrow]
      exact Dict.get?_set_self _ _ _
  | setIsActive isActive updatedAt =>
      show (table.setIsActive graphId isActive updatedAt).get? graphId = _
      rw [GraphsTable.setIsActive, hrow]
      exact Dict.get?_set_self _ _ _

/-- An update whose statements follow one another is the update of the table. -/
theorem update_graph_eq_steps (table : GraphsTable) (graphId updatedAt : String)
    (name specJson sharing : Option String) :
    (table.updateGraph graphId updatedAt name specJson sharing).map Prod.snd =
      (table.get? graphId).map fun _ => Races.effect (graphStep graphId)
        (updateStep updatedAt name specJson sharing (table.get? graphId)) table := by
  unfold GraphsTable.updateGraph
  cases hrow : table.get? graphId with
  | none => rfl
  | some existing =>
      show _ = some (table.writeGraph graphId _ _ _ _)
      rw [GraphsTable.writeGraph, hrow]
      rfl

/-- An update that ends with a row reads one, and writes. -/
theorem update_reads_then_writes (updatedAt : String) (name specJson sharing : Option String)
    (value : StoredGraph) :
    ReadsThenWrites (GraphWrite.update updatedAt name specJson sharing).program (some value)
      GraphStep.get (fun _ => True) (updateStep updatedAt name specJson sharing) := by
  refine ⟨_, rfl, ?_⟩
  intro (found : Option StoredGraph) hrun
  obtain ⟨events, hrun⟩ := hrun
  cases found with
  | none => cases (Program.run_done_iff.mp hrun).2
  | some existing =>
      obtain ⟨_, _, _, hdone⟩ := (Program.run_perform_iff.mp hrun).resolve_left
        fun hstopped => by cases hstopped.2
      cases (Program.run_done_iff.mp hdone).2
      exact ⟨trivial, rfl⟩

/-- While the row is there, an update ends with a row. -/
theorem update_yields (updatedAt : String) (name specJson sharing : Option String) :
    (GraphWrite.update updatedAt name specJson sharing).program.YieldsFrom
      (fun op response => ∃ table : GraphsTable, (table.get? graphId).isSome ∧
        response = (graphStep graphId op table).1) fun value => value.isSome := by
  intro (found : Option StoredGraph) hfound
  obtain ⟨table, hrow, heq⟩ := hfound
  replace heq : found = table.get? graphId := heq
  subst heq
  cases hget : table.get? graphId with
  | none =>
      rw [hget] at hrow
      cases hrow
  | some existing => exact fun _ _ => rfl

/-- No statement removes the row. -/
theorem graph_step_keeps_row (step : GraphStep) (table : GraphsTable)
    (h : (table.get? graphId).isSome) :
    ((Races.effect (graphStep graphId) step table).get? graphId).isSome := by
  obtain ⟨row, hrow⟩ := Option.isSome_iff_exists.mp h
  rw [get?_graph_step hrow]
  rfl

end

/-! ## Which fields are in the final row -/

section

variable {α : Type} {given given' : Option α} {old : α}

/-- A field that is given is what is written. -/
theorem getD_given : ∀ value ∈ given, given.getD old = value := by
  intro value hvalue
  rw [Option.mem_def.mp hvalue]
  rfl

/-- A field that only one change gives is what stays written. -/
theorem getD_given_once (h : given = none ∨ given' = none) :
    ∀ value ∈ given, given'.getD (given.getD old) = value := by
  intro value hvalue
  rcases h with hnone | hnone
  · cases hnone.symm.trans hvalue
  · rw [hnone, Option.getD_none]
    exact getD_given value hvalue

/-- A field that is written over with what was read stays only if it was read. -/
theorem getD_stale_iff (h : given = none ∨ given' = none) :
    (∀ value ∈ given, given'.getD old = value) ↔ ∀ value ∈ given, old = value := by
  refine forall₂_congr fun value hvalue => ?_
  rcases h with hnone | hnone
  · cases hnone.symm.trans hvalue
  · rw [hnone]
    exact Iff.rfl

end

section

variable {fields fields' : GraphFields} {row : StoredGraph} {updatedAt updatedAt' : String}

theorem GraphFields.Disjoint.symm (h : fields.Disjoint fields') : fields'.Disjoint fields :=
  ⟨h.name.symm, h.specJson.symm, h.sharing.symm, h.isActive.symm⟩

/-- Of two writes one after the other, the fields are all present. -/
theorem present_of_disjoint (h : fields.Disjoint fields') :
    fields.PresentIn ((row.withFields fields updatedAt).withFields fields' updatedAt') ∧
      fields'.PresentIn ((row.withFields fields updatedAt).withFields fields' updatedAt') :=
  ⟨⟨getD_given_once h.name, getD_given_once h.specJson, getD_given_once h.sharing,
      getD_given_once h.isActive⟩,
    ⟨getD_given, getD_given, getD_given, getD_given⟩⟩

/-- The row after an update has written over some fields with what it had read of the row before. -/
def StoredGraph.overwritten (row : StoredGraph) (fields fields' : GraphFields)
    (updatedAt : String) : StoredGraph :=
  { row.withFields fields' updatedAt with isActive := fields.isActive.getD row.isActive }

/-- Fields that are written over are present only if the row had them. -/
theorem present_of_overwritten_iff (h : fields.Disjoint fields')
    (hupdate : fields'.isActive = none) :
    (fields.PresentIn (row.overwritten fields fields' updatedAt) ∧
      fields'.PresentIn (row.overwritten fields fields' updatedAt)) ↔ fields.RedundantIn row := by
  constructor
  · intro hpresent
    obtain ⟨hname, hspec, hsharing, _⟩ := hpresent.1
    exact ⟨(getD_stale_iff h.name).mp hname, (getD_stale_iff h.specJson).mp hspec,
      (getD_stale_iff h.sharing).mp hsharing⟩
  · intro hredundant
    obtain ⟨hname, hspec, hsharing⟩ := hredundant
    refine ⟨⟨(getD_stale_iff h.name).mpr hname, (getD_stale_iff h.specJson).mpr hspec,
      (getD_stale_iff h.sharing).mpr hsharing, getD_given⟩,
        ⟨getD_given, getD_given, getD_given, ?_⟩⟩
    intro isActive hgiven
    cases hupdate.symm.trans hgiven

end

/-! ## Every schedule -/

/-- The time that a change stores. -/
def GraphWrite.updatedAt : GraphWrite → String
  | update updatedAt .. | setActiveState _ _ updatedAt | setIsActive _ updatedAt => updatedAt

section

variable {graphId : String} {table : GraphsTable} {row row' : StoredGraph}
  {updatedAt : String} {name specJson sharing : Option String}

/-- What an update writes from what it has read. -/
theorem update_on_row : (updateStep updatedAt name specJson sharing (some row)).onRow row' =
    { row.withFields (GraphWrite.update updatedAt name specJson sharing).fields updatedAt with
      isActive := row'.isActive, createdAt := row'.createdAt, createdBy := row'.createdBy } := rfl

/-- Two changes are present if they are in the row of the graph. -/
theorem both_present_iff {first second : GraphWrite} {final : GraphsTable}
    (h : final.get? graphId = some row) : BothPresent graphId first second final ↔
      first.fields.PresentIn row ∧ second.fields.PresentIn row := by
  constructor
  · intro hpresent
    obtain ⟨found, hfound, hboth⟩ := hpresent
    cases h.symm.trans hfound
    exact hboth
  · exact fun hboth => ⟨row, h, hboth⟩

/-- The order in which the changes are named does not matter. -/
theorem both_present_comm {first second : GraphWrite} {final : GraphsTable} :
    BothPresent graphId first second final ↔ BothPresent graphId second first final :=
  exists_congr fun _ => and_congr_right fun _ => and_comm

/-- A schedule with the programs changed about has the other stale write. -/
theorem stale_write_map_not (schedule : List Bool) :
    staleWrite (schedule.map not) = (staleWrite schedule).map not := by
  rcases schedule with _ | ⟨a, _ | ⟨b, _ | ⟨c, _ | ⟨d, _ | ⟨e, schedule⟩⟩⟩⟩⟩
  · rfl
  · rfl
  · rfl
  · revert a b c
    decide
  · revert a b c d
    decide
  · rfl

/-- A change of one statement, which writes its fields and leaves the others. -/
structure OneStatement (change : GraphWrite) (step : GraphStep) : Prop where
  program : change.program = .perform step fun _ => .done none
  onRow : ∀ row, step.onRow row = row.withFields change.fields change.updatedAt
  isActive : change.fields.isActive ≠ none

/-- Every change but an update is one statement. -/
theorem update_or_one_statement (change : GraphWrite) :
    (∃ updatedAt name specJson sharing, change = .update updatedAt name specJson sharing) ∨
      ∃ step, OneStatement change step := by
  cases change with
  | update updatedAt name specJson sharing => exact .inl ⟨_, _, _, _, rfl⟩
  | setActiveState specJson isActive updatedAt =>
      exact .inr ⟨_, rfl, fun _ => rfl, Option.some_ne_none _⟩
  | setIsActive isActive updatedAt =>
      exact .inr ⟨_, rfl, fun _ => rfl, Option.some_ne_none _⟩

end

/-- A race comes out well: nothing is written over and both changes are present, or the change that
is written over is present if the row had it. -/
def ComesOut (graphId : String) (first second : GraphWrite) (row : StoredGraph)
    (schedule : List Bool) (final : GraphsTable) : Prop :=
  (staleWrite schedule = none ∧ BothPresent graphId first second final) ∨
    ∃ writer, staleWrite schedule = some writer ∧
      (BothPresent graphId first second final ↔
        (if writer then first else second).fields.RedundantIn row)

section

variable {graphId : String} {table final : GraphsTable} {row : StoredGraph}
  {first second change : GraphWrite} {schedule : List Bool} {answer answer' : Option StoredGraph}
  {updatedAt updatedAt' : String} {name specJson sharing name' specJson' sharing' : Option String}

/-- How a race comes out does not depend on which program is named first. -/
theorem ComesOut.symm (h : ComesOut graphId second first row (schedule.map not) final) :
    ComesOut graphId first second row schedule final := by
  unfold ComesOut at h ⊢
  rw [stale_write_map_not, both_present_comm] at h
  cases hstale : staleWrite schedule with
  | none =>
      rw [hstale] at h
      rcases h with ⟨_, hpresent⟩ | ⟨_, hwriter, _⟩
      · exact .inl ⟨rfl, hpresent⟩
      · cases hwriter
  | some writer =>
      rw [hstale] at h
      rcases h with ⟨hnone, _⟩ | ⟨other, hwriter, hiff⟩
      · cases hnone
      · cases hwriter
        refine .inr ⟨writer, rfl, hiff.trans ?_⟩
        cases writer <;> rfl

/-- How an update races with a change of one statement. -/
theorem one_statement_race {step : GraphStep} (hrow : table.get? graphId = some row)
    (hone : OneStatement change step)
    (hdisjoint : change.fields.Disjoint (GraphWrite.update updatedAt name specJson sharing).fields)
    (hrace : Races (graphStep graphId) change.program
      (GraphWrite.update updatedAt name specJson sharing).program table schedule answer answer'
      final) :
    ComesOut graphId change (.update updatedAt name specJson sharing) row schedule final := by
  have hanswer : answer'.isSome :=
    hrace.symm.yields (fun value => value.isSome) graph_step_keeps_row
      (update_yields updatedAt name specJson sharing) (Option.isSome_of_eq_some hrow)
  obtain ⟨value, rfl⟩ := Option.isSome_iff_exists.mp hanswer
  rw [hone.program] at hrace
  cases hrace.value_of_write
  have hread : ∀ table, Races.effect (graphStep graphId) .get table = table := fun _ => rfl
  have hgot : ∀ table : GraphsTable, (graphStep graphId .get table).1 = table.get? graphId :=
    fun _ => rfl
  rcases Races.write_read (update_reads_then_writes updatedAt name specJson sharing value) hread
    hrace with ⟨rfl, _, rfl⟩ | ⟨rfl, _, rfl⟩ | ⟨rfl, _, rfl⟩
  · -- The update reads the row with the other change in it.
    have hfirst := get?_graph_step hrow step
    rw [hone.onRow] at hfirst
    refine .inl ⟨rfl, ?_⟩
    rw [hgot, hfirst, both_present_iff (get?_graph_step hfirst _), update_on_row]
    exact present_of_disjoint hdisjoint
  · -- The update has read the row before.
    have hfirst := get?_graph_step hrow step
    rw [hone.onRow] at hfirst
    refine .inr ⟨true, rfl, ?_⟩
    rw [hgot, hrow, both_present_iff (get?_graph_step hfirst _), update_on_row]
    exact present_of_overwritten_iff hdisjoint rfl
  · -- The other change comes last, and writes its own fields only.
    have hfirst := get?_graph_step hrow (updateStep updatedAt name specJson sharing (some row))
    rw [update_on_row] at hfirst
    refine .inl ⟨rfl, ?_⟩
    rw [hgot, hrow, both_present_iff (get?_graph_step hfirst _), hone.onRow]
    exact (present_of_disjoint hdisjoint.symm).symm

/-- How two updates race. -/
theorem updates_race (hrow : table.get? graphId = some row)
    (hdisjoint : (GraphWrite.update updatedAt name specJson sharing).fields.Disjoint
      (GraphWrite.update updatedAt' name' specJson' sharing').fields)
    (hrace : Races (graphStep graphId) (GraphWrite.update updatedAt name specJson sharing).program
      (GraphWrite.update updatedAt' name' specJson' sharing').program table schedule answer answer'
      final) :
    ComesOut graphId (.update updatedAt name specJson sharing)
      (.update updatedAt' name' specJson' sharing') row schedule final := by
  have hanswer : answer.isSome :=
    hrace.yields (fun value => value.isSome) graph_step_keeps_row
      (update_yields updatedAt name specJson sharing) (Option.isSome_of_eq_some hrow)
  have hanswer' : answer'.isSome :=
    hrace.symm.yields (fun value => value.isSome) graph_step_keeps_row
      (update_yields updatedAt' name' specJson' sharing') (Option.isSome_of_eq_some hrow)
  -- The row is never removed, so each update finds it.
  obtain ⟨value, rfl⟩ := Option.isSome_iff_exists.mp hanswer
  obtain ⟨value', rfl⟩ := Option.isSome_iff_exists.mp hanswer'
  have hread : ∀ table, Races.effect (graphStep graphId) .get table = table := fun _ => rfl
  have hgot : ∀ table : GraphsTable, (graphStep graphId .get table).1 = table.get? graphId :=
    fun _ => rfl
  have hfirst := get?_graph_step hrow (updateStep updatedAt name specJson sharing (some row))
  have hsecond := get?_graph_step hrow (updateStep updatedAt' name' specJson' sharing' (some row))
  rw [update_on_row] at hfirst hsecond
  rcases Races.read_write (update_reads_then_writes updatedAt name specJson sharing value)
    (update_reads_then_writes updatedAt' name' specJson' sharing' value') hread hread hrace with
    ⟨rfl, _, _, rfl⟩ | ⟨rfl, _, _, rfl⟩ | ⟨hschedule, _, _, rfl⟩ | ⟨hschedule, _, _, rfl⟩
  · refine .inl ⟨rfl, ?_⟩
    rw [hgot, hgot, hrow, hfirst, both_present_iff (get?_graph_step hfirst _), update_on_row]
    exact present_of_disjoint hdisjoint
  · refine .inl ⟨rfl, ?_⟩
    rw [hgot, hgot, hrow, hsecond, both_present_iff (get?_graph_step hsecond _), update_on_row]
    exact (present_of_disjoint hdisjoint.symm).symm
  · refine .inr ⟨true, by rcases hschedule with rfl | rfl <;> rfl, ?_⟩
    rw [hgot, hrow, both_present_iff (get?_graph_step hfirst _), update_on_row]
    exact present_of_overwritten_iff hdisjoint rfl
  · refine .inr ⟨false, by rcases hschedule with rfl | rfl <;> rfl, ?_⟩
    rw [hgot, hrow, both_present_iff (get?_graph_step hsecond _), update_on_row]
    exact and_comm.trans (present_of_overwritten_iff hdisjoint.symm rfl)

/-- How two changes of different fields race. -/
theorem changes_race (hrow : table.get? graphId = some row)
    (hdisjoint : first.fields.Disjoint second.fields)
    (hrace : Races (graphStep graphId) first.program second.program table schedule answer answer'
      final) : ComesOut graphId first second row schedule final := by
  rcases update_or_one_statement first with ⟨_, _, _, _, rfl⟩ | ⟨step, hone⟩
  · rcases update_or_one_statement second with ⟨_, _, _, _, rfl⟩ | ⟨step, hone⟩
    · exact updates_race hrow hdisjoint hrace
    · exact (one_statement_race hrow hone hdisjoint.symm hrace.symm).symm
  · rcases update_or_one_statement second with ⟨_, _, _, _, rfl⟩ | ⟨step', hone'⟩
    · exact one_statement_race hrow hone hdisjoint hrace
    · -- Both give the activation state.
      exact absurd hdisjoint.isActive (not_or.mpr ⟨hone.isActive, hone'.isActive⟩)

end

/-- Two changes of different fields of a saved graph are both in the final row exactly if no update
writes over the other change, having read the row before it, or that change gave only the name, the
spec and the sharing that the row had. -/
theorem graph_race_iff (graphId : String) (table : GraphsTable) (row : StoredGraph)
    (hrow : table.get? graphId = some row) (first second : GraphWrite)
    (hdisjoint : first.fields.Disjoint second.fields) (schedule : List Bool)
    (answer answer' : Option StoredGraph) (final : GraphsTable)
    (hrace : Races (graphStep graphId) first.program second.program table schedule answer answer'
      final) :
    BothPresent graphId first second final ↔ HarmlessUpdates first second row schedule := by
  unfold HarmlessUpdates
  rcases changes_race hrow hdisjoint hrace with ⟨hnone, hpresent⟩ | ⟨writer, hwriter, hiff⟩
  · rw [hnone]
    exact iff_of_true hpresent fun _ hmem => by cases hmem
  · rw [hwriter, hiff]
    simp

/-! ### A name and a spec -/

/-- A saved graph. -/
def mailRow : StoredGraph where
  name := "Untitled"
  specJson := "v1"
  isActive := false
  createdAt := "t0"
  updatedAt := "t0"

/-- One request renames the graph. -/
def renames : GraphWrite := .update "t1" (some "Mail") none none

/-- Another one activates it with a new spec. -/
def activates : GraphWrite := .setActiveState "v2" true "t2"

/-- The renaming reads the row, the activation is stored, and the renaming is written. -/
theorem rename_over_activation :
    Races (graphStep "g") renames.program activates.program (.ofList [("g", mailRow)])
      [true, false, true] (some { mailRow with name := "Mail", updatedAt := "t1" }) none
      (.ofList [("g", { mailRow with name := "Mail", isActive := true, updatedAt := "t1" })]) :=
  .first (.second (.first (.done _ _ _)))

/-- The graph is flagged active, and the spec that was activated is not stored. -/
theorem activated_spec_is_lost :
    ∃ answer answer' final,
      Races (graphStep "g") renames.program activates.program (.ofList [("g", mailRow)])
        [true, false, true] answer answer' final ∧
      renames.fields.Disjoint activates.fields ∧ ¬ BothPresent "g" renames activates final := by
  refine ⟨_, _, _, rename_over_activation, ⟨.inr rfl, .inl rfl, .inl rfl, .inl rfl⟩, ?_⟩
  intro hpresent
  have hspec := ((both_present_iff rfl).mp hpresent).2.specJson "v2" rfl
  exact absurd hspec (by decide)

/-- The race is settled by its schedule. -/
theorem rename_over_activation_harmful :
    BothPresent "g" renames activates
      (.ofList [("g", { mailRow with name := "Mail", isActive := true, updatedAt := "t1" })]) ↔
    HarmlessUpdates renames activates mailRow [true, false, true] :=
  graph_race_iff "g" (.ofList [("g", mailRow)]) mailRow (by decide) renames activates
    ⟨.inr rfl, .inl rfl, .inl rfl, .inl rfl⟩ [true, false, true] _ _ _ rename_over_activation

end AgentGraphStudio
