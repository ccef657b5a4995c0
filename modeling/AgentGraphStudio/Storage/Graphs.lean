import AgentGraphStudio.Lib.Dict

/-!
# Saved graphs

`backend/storage/graphs_store.py`: the table of the saved graphs and of their activation state. The
writes succeed, and what a write does is told by the row that is found afterwards. Times and ids are
arguments.
-/

namespace AgentGraphStudio

/-- A row of the table. -/
structure StoredGraph where
  name : String
  specJson : String
  isActive : Bool
  createdAt : String
  updatedAt : String
  createdBy : Option String := none
  sharing : String := "private"
  deriving DecidableEq

/-- The table `graphs`, whose primary key is `graph_id`. -/
abbrev GraphsTable := Dict String StoredGraph

namespace GraphsTable

/-- Insert a new graph. The table refuses a graph id that it has. -/
def createGraph (table : GraphsTable) (graphId name specJson createdAt : String)
    (createdBy : Option String) (sharing : String) : Except String (StoredGraph × GraphsTable) :=
  if (table.get? graphId).isSome then .error "UNIQUE constraint failed: graphs.graph_id"
  else
    let row : StoredGraph :=
      { name, specJson, isActive := false, createdAt, updatedAt := createdAt, createdBy, sharing }
    .ok (row, table.set graphId row)

/-- Overwrite the fields that are given. -/
def updateGraph (table : GraphsTable) (graphId updatedAt : String)
    (name specJson sharing : Option String) : Option (StoredGraph × GraphsTable) :=
  (table.get? graphId).map fun existing =>
    let row := { existing with
      name := name.getD existing.name
      specJson := specJson.getD existing.specJson
      updatedAt
      sharing := sharing.getD existing.sharing }
    (row, table.set graphId row)

/-- Remove a graph, and tell whether there was one. -/
def deleteGraph (table : GraphsTable) (graphId : String) : Bool × GraphsTable :=
  ((table.get? graphId).isSome, table.erase graphId)

/-- The graphs that are flagged active, which the startup goes through. -/
def listActiveGraphs (table : GraphsTable) : List (String × StoredGraph) :=
  table.entries.filter fun entry => entry.2.isActive

/-- Store a spec with its activation state, in a new row if there is none. -/
def setActiveState (table : GraphsTable) (graphId specJson : String) (isActive : Bool)
    (updatedAt : String) : GraphsTable :=
  table.set graphId <| match table.get? graphId with
    | none => { name := graphId, specJson, isActive, createdAt := updatedAt, updatedAt }
    | some existing => { existing with specJson, isActive, updatedAt }

/-- Store an activation state. -/
def setIsActive (table : GraphsTable) (graphId : String) (isActive : Bool) (updatedAt : String) :
    GraphsTable :=
  match table.get? graphId with
  | none => table
  | some existing => table.set graphId { existing with isActive, updatedAt }

/-- The stored row exists and is flagged active. -/
def Flagged (table : GraphsTable) (graphId : String) : Prop :=
  ∃ row, table.get? graphId = some row ∧ row.isActive = true

section

variable {table after : GraphsTable} {graphId specJson updatedAt : String} {row : StoredGraph}

/-- A graph that is created was not there before. -/
theorem create_graph_ok {name createdAt sharing : String} {createdBy : Option String}
    (h : table.createGraph graphId name specJson createdAt createdBy sharing = .ok (row, after)) :
    table.get? graphId = none ∧ row.isActive = false ∧ row.specJson = specJson ∧
      row.createdBy = createdBy ∧ after = table.set graphId row := by
  unfold createGraph at h
  split at h
  · cases h
  · rename_i hnew
    cases h
    exact ⟨Option.not_isSome_iff_eq_none.mp hnew, rfl, rfl, rfl, rfl⟩

/-- An update keeps the activation state and the creator. -/
theorem update_graph_eq_some {name newSpec sharing : Option String}
    (h : table.updateGraph graphId updatedAt name newSpec sharing = some (row, after)) :
    ∃ existing, table.get? graphId = some existing ∧ row.isActive = existing.isActive ∧
      row.specJson = newSpec.getD existing.specJson ∧ row.createdBy = existing.createdBy ∧
      after = table.set graphId row := by
  unfold updateGraph at h
  obtain ⟨existing, hexisting, hrow⟩ := Option.map_eq_some_iff.mp h
  cases hrow
  exact ⟨existing, hexisting, rfl, rfl, rfl, rfl⟩

/-- Storing an activation state keeps the creator, and a new row has none. -/
theorem set_active_state_eq (table : GraphsTable) (graphId specJson : String) (isActive : Bool)
    (updatedAt : String) :
    ∃ row, table.setActiveState graphId specJson isActive updatedAt = table.set graphId row ∧
      row.isActive = isActive ∧ row.specJson = specJson ∧
      row.createdBy = (table.get? graphId).bind StoredGraph.createdBy := by
  unfold setActiveState
  cases table.get? graphId with
  | none => exact ⟨_, rfl, rfl, rfl, rfl⟩
  | some existing => exact ⟨_, rfl, rfl, rfl, rfl⟩

/-- Storing an activation state leaves the other rows alone. -/
theorem get?_set_is_active_of_ne {isActive : Bool} {other : String} (h : other ≠ graphId) :
    (table.setIsActive graphId isActive updatedAt).get? other = table.get? other := by
  unfold setIsActive
  cases table.get? graphId with
  | none => rfl
  | some existing => exact Dict.get?_set_of_ne _ _ h

/-- An active graph is listed with its row. -/
theorem mem_list_active_graphs_iff :
    (graphId, row) ∈ table.listActiveGraphs ↔
      table.get? graphId = some row ∧ row.isActive = true := by
  unfold listActiveGraphs
  rw [List.mem_filter, Dict.mem_entries_iff]

end

/-! ## Flagged graphs -/

section

variable {table : GraphsTable} {graphId : String}

theorem flagged_set_iff {row : StoredGraph} {other : String} :
    Flagged (table.set graphId row) other ↔
      if other = graphId then row.isActive = true else Flagged table other := by
  unfold Flagged
  split
  · rename_i hsame
    rw [hsame, Dict.get?_set_self]
    constructor
    · intro h
      obtain ⟨found, hfound, hactive⟩ := h
      cases hfound
      exact hactive
    · exact fun h => ⟨row, rfl, h⟩
  · rename_i hother
    rw [Dict.get?_set_of_ne _ _ hother]

theorem flagged_delete_iff {other : String} :
    Flagged (table.deleteGraph graphId).2 other ↔ other ≠ graphId ∧ Flagged table other := by
  unfold Flagged
  show (∃ row, (table.erase graphId).get? other = some row ∧ _) ↔ _
  by_cases hsame : other = graphId
  · rw [hsame, Dict.get?_erase_self]
    exact ⟨fun h => (by obtain ⟨_, hrow, _⟩ := h; cases hrow), fun h => absurd rfl h.1⟩
  · rw [Dict.get?_erase_of_ne _ hsame]
    exact ⟨fun h => ⟨hsame, h⟩, fun h => h.2⟩

/-- Flagging a graph inactive leaves the others alone. -/
theorem flagged_set_is_active_iff {updatedAt other : String} :
    Flagged (table.setIsActive graphId false updatedAt) other ↔
      other ≠ graphId ∧ Flagged table other := by
  unfold setIsActive
  cases hrow : table.get? graphId with
  | none =>
      refine ⟨fun h => ⟨fun hsame => ?_, h⟩, fun h => h.2⟩
      obtain ⟨row, hother, _⟩ := h
      rw [hsame, hrow] at hother
      cases hother
  | some existing =>
      dsimp only
      rw [flagged_set_iff]
      split
      · rename_i hsame
        exact ⟨fun h => (by cases h), fun h => absurd hsame h.1⟩
      · rename_i hother
        exact ⟨fun h => ⟨hother, h⟩, fun h => h.2⟩

end

end GraphsTable

end AgentGraphStudio
