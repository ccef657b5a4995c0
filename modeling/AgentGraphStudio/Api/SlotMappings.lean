import AgentGraphStudio.Api.Activation
import AgentGraphStudio.Lib.History

/-!
# The mappings of the slots of shared graphs

`backend/storage/graph_sharing_store.py` keeps the slots that shared graphs declare and, in a table
of their own, the users' mappings of slots to connections. `slot_mappings_sound_iff` says for which
histories every mapping is that of a declared slot to a connection of its type: an update that
declares other slots leaves the mappings, and a mapping is stored whatever the type of its
connection.
-/

namespace AgentGraphStudio

/-! ## The tables -/

/-- The primary key of the table `user_slot_mappings`. -/
structure MappingKey where
  userId : String
  graphId : String
  slotName : String
  deriving DecidableEq

/-- The declared slots of the graphs, and the connections that users have mapped slots to. -/
structure SlotTables where
  slots : Dict String (List SlotRow)
  mappings : Dict MappingKey String

namespace SlotTables

/-- The declared slots of a graph. -/
def listSlots (tables : SlotTables) (graphId : String) : List SlotRow :=
  (tables.slots.get? graphId).getD []

/-- The mappings of a user for a graph. -/
def getMappingsForUser (tables : SlotTables) (userId graphId : String) : Dict String String :=
  .ofList <| (tables.mappings.entries.filter fun entry =>
    entry.1.userId = userId ∧ entry.1.graphId = graphId).map fun entry =>
      (entry.1.slotName, entry.2)

/-- Replace the declared slots of a graph. -/
def setSlots (tables : SlotTables) (graphId : String) (slots : List SlotRow) : SlotTables :=
  { tables with slots := tables.slots.set graphId slots }

/-- Remove the mappings of a graph. -/
def clearMappings (tables : SlotTables) (graphId : String) : SlotTables :=
  { tables with
    mappings := tables.mappings.eraseAll
      (tables.mappings.keys.filter fun key => key.graphId = graphId) }

/-- Remove the declared slots of a graph and its mappings. -/
def clearSlots (tables : SlotTables) (graphId : String) : SlotTables :=
  { tables with slots := tables.slots.erase graphId }.clearMappings graphId

/-- Map a slot. -/
def setMapping (tables : SlotTables) (key : MappingKey) (connectionName : String) : SlotTables :=
  { tables with mappings := tables.mappings.set key connectionName }

end SlotTables

/-! ## The endpoints -/

/-- The backend with the users' mappings. -/
structure SharingBackend where
  graphs : GraphBackend
  mappings : Dict MappingKey String

namespace SharingBackend

/-- The tables of slots and mappings. -/
def tables (backend : SharingBackend) : SlotTables := ⟨backend.graphs.slots, backend.mappings⟩

/-- The backend with other tables. -/
def setTables (backend : SharingBackend) (tables : SlotTables) : SharingBackend where
  graphs := { backend.graphs with slots := tables.slots }
  mappings := tables.mappings

/-- The stores that a submission reads. -/
def stores (backend : SharingBackend) : GraphStores where
  getGraph graphId :=
    (backend.graphs.rows.get? graphId).map fun row => ⟨row.createdBy, row.sharing⟩
  listSlots := backend.tables.listSlots
  getMappingsForUser := backend.tables.getMappingsForUser

end SharingBackend

/-- The handling of a request. What it has changed stays changed when it raises. -/
abbrev SharingRoute (α : Type) := EStateM HandlerError SharingBackend α

/-- The answers of the endpoints. -/
inductive SharingAnswer where
  | graph (answer : GraphAnswer)
  | mapped (slotName connectionName : String)

/-- A request that has nothing to do with mappings. -/
def onGraphs {α : Type} (act : GraphRoute α) : SharingRoute α := fun backend =>
  match act.run backend.graphs with
  | .ok value graphs => .ok value { backend with graphs }
  | .error e graphs => .error e { backend with graphs }

section

variable (surroundings : Surroundings)

/-- Store the slots that an update declares, or clear those of a private graph with their
mappings. -/
def updateSlotsAndMappings (graphId sharing : String) (declared : Option (List SlotRow)) :
    SharingRoute Unit :=
  let clear : SharingRoute Unit :=
    modify fun backend => backend.setTables (backend.tables.clearSlots graphId)
  match declared with
  | some slots =>
    if sharing = "shared" then onGraphs (setSlots graphId slots)
    else if sharing = "private" then clear
    else pure ()
  | none => if sharing = "private" then clear else pure ()

/-- Change a saved graph. -/
def updateSharedGraph (graphId : String) (request : UpdateGraphRequest) :
    SharingRoute GraphAnswer := do
  let specJson ← Stateful.ofExcept ((dumpGiven surroundings request.spec).mapError .exception)
  match (← get).graphs.rows.updateGraph graphId surroundings.now request.name specJson
      request.sharing with
  | none => throw (.http ⟨404, s!"Graph '{graphId}' not found"⟩)
  | some (row, rows) =>
    modify fun backend => { backend with graphs := { backend.graphs with rows } }
    updateSlotsAndMappings graphId row.sharing request.connectionSlots
    let spec ← Stateful.ofExcept ((surroundings.load row.specJson).mapError .exception)
    let stored := (← get).tables.listSlots graphId
    pure (.detail
      { graphId, name := row.name, spec, isActive := row.isActive, createdBy := row.createdBy
        sharing := row.sharing
        connectionSlots := if row.sharing = "shared" then stored else [] })

/-- Delete a graph, its slots and their mappings. -/
def deleteSharedGraph (graphId : String) : SharingRoute GraphAnswer := do
  let answer ← onGraphs (deleteGraph graphId)
  modify fun backend => backend.setTables (backend.tables.clearMappings graphId)
  pure answer

/-- Map a slot of a shared graph to a connection that the caller sees. -/
def setConnectionMapping (graphId slotName connectionName : String) (caller : Caller) :
    SharingRoute SharingAnswer := do
  match callerUserId caller with
  | none => throw (.http ⟨401, "Sign in to map a connection slot."⟩)
  | some userId =>
    match (← get).graphs.rows.get? graphId with
    | none => throw (.http ⟨404, s!"Graph '{graphId}' not found"⟩)
    | some row =>
      if row.sharing ≠ "shared" then
        throw (.http ⟨422, s!"Graph '{graphId}' is not shared -- it has no connection slots."⟩)
      else if slotName ∉ ((← get).tables.listSlots graphId).map SlotRow.slotName then
        throw (.http ⟨422, s!"'{slotName}' is not a declared slot on this graph."⟩)
      else
        let store ← Stateful.ofExcept (surroundings.store.mapError .exception)
        match resolveConnectionForUser store connectionName (some userId) with
        | none => throw (.http ⟨404, s!"Unknown connection: {reprStr connectionName}"⟩)
        | some _ =>
          modify fun backend =>
            backend.setTables (backend.tables.setMapping ⟨userId, graphId, slotName⟩ connectionName)
          pure (.mapped slotName connectionName)

end

/-! ## Histories -/

/-- A request about graphs or their slots. -/
inductive SharingRequest where
  | graph (request : GraphRequest)
  | mapSlot (graphId slotName connectionName : String) (caller : Caller)

section

variable (hashToken : String → String) (surroundings : Surroundings)

/-- The handling of a request about graphs. -/
def sharedGraphEndpoint : GraphRequest → SharingRoute GraphAnswer
  | .update graphId request => updateSharedGraph surroundings graphId request
  | .delete graphId => deleteSharedGraph graphId
  | request => onGraphs (graphEndpoint hashToken surroundings request)

/-- The handling of a request. -/
def sharingEndpoint : SharingRequest → SharingRoute SharingAnswer
  | .graph request => do
    let answer ← sharedGraphEndpoint hashToken surroundings request
    pure (.graph answer)
  | .mapSlot graphId slotName connectionName caller =>
    setConnectionMapping surroundings graphId slotName connectionName caller

/-- The backend after a request, whether it succeeds or fails. -/
def afterSharingRequest (request : SharingRequest) (backend : SharingBackend) : SharingBackend :=
  Stateful.stateOf ((sharingEndpoint hashToken surroundings request).run backend)

end

/-! ## What a request does to the tables -/

/-- A change of the tables. -/
inductive SlotChange where
  | nothing
  | setSlots (graphId : String) (slots : List SlotRow)
      (distinct : (slots.map SlotRow.slotName).Nodup)
  | clearSlots (graphId : String)
  | setMapping (key : MappingKey) (connectionName connectionType : String)

/-- The tables after a change. -/
def SlotChange.apply : SlotChange → SlotTables → SlotTables
  | .nothing, tables => tables
  | .setSlots graphId slots _, tables => tables.setSlots graphId slots
  | .clearSlots graphId, tables => tables.clearSlots graphId
  | .setMapping key connectionName _, tables => tables.setMapping key connectionName

/-- Slots whose names clash are refused. -/
def SlotChange.declaring (graphId : String) (slots : List SlotRow) : SlotChange :=
  if h : (slots.map SlotRow.slotName).Nodup then .setSlots graphId slots h else .nothing

/-- What an update does whose row has this sharing. -/
def SlotChange.updating (graphId sharing : String) (declared : Option (List SlotRow)) :
    SlotChange :=
  match declared with
  | some slots =>
    if sharing = "shared" then declaring graphId slots
    else if sharing = "private" then .clearSlots graphId
    else .nothing
  | none => if sharing = "private" then .clearSlots graphId else .nothing

section

variable (surroundings : Surroundings) (backend : SharingBackend)

/-- The key of a mapping that is accepted, and the type of its connection. -/
def acceptedMapping (graphId slotName connectionName : String) (caller : Caller) :
    Option (MappingKey × String) :=
  match callerUserId caller with
  | none => none
  | some userId =>
    match backend.graphs.rows.get? graphId with
    | none => none
    | some row =>
      if row.sharing ≠ "shared" then none
      else if slotName ∉ (backend.tables.listSlots graphId).map SlotRow.slotName then none
      else
        match surroundings.store with
        | .error _ => none
        | .ok store =>
          (resolveConnectionForUser store connectionName (some userId)).map fun profile =>
            (⟨userId, graphId, slotName⟩, profile.type)

/-- What saving a new graph does to the tables. -/
def SlotChange.saving (graphId : String) (request : CreateGraphRequest) : SlotChange :=
  match surroundings.dump request.spec with
  | .error _ => .nothing
  | .ok _ =>
    if (backend.graphs.rows.get? graphId).isSome then .nothing
    else if request.sharing = "shared" then .declaring graphId request.connectionSlots
    else .nothing

/-- What changing a graph does to the tables. -/
def SlotChange.changing (graphId : String) (request : UpdateGraphRequest) : SlotChange :=
  match dumpGiven surroundings request.spec with
  | .error _ => .nothing
  | .ok _ =>
    match backend.graphs.rows.get? graphId with
    | none => .nothing
    | some row => .updating graphId (request.sharing.getD row.sharing) request.connectionSlots

/-- What a request does to the tables. -/
def SharingRequest.change : SharingRequest → SlotChange
  | .graph (.save graphId request _) => .saving surroundings backend graphId request
  | .graph (.update graphId request) => .changing surroundings backend graphId request
  | .graph (.delete graphId) =>
    if (backend.graphs.rows.get? graphId).isSome then .clearSlots graphId else .nothing
  | .graph _ => .nothing
  | .mapSlot graphId slotName connectionName caller =>
    match acceptedMapping surroundings backend graphId slotName connectionName caller with
    | some (key, connectionType) => .setMapping key connectionName connectionType
    | none => .nothing

end

section

variable {hashToken : String → String} {surroundings : Surroundings} {backend : SharingBackend}

/-- A request that has nothing to do with mappings leaves them alone. -/
theorem state_of_on_graphs {α : Type} (act : GraphRoute α) :
    Stateful.stateOf ((onGraphs act).run backend) =
      { backend with graphs := Stateful.stateOf (act.run backend.graphs) } := by
  show Stateful.stateOf (match act.run backend.graphs with | .ok _ _ => _ | .error _ _ => _) = _
  cases act.run backend.graphs with
  | ok value graphs => rfl
  | error e graphs => rfl

/-- It returns what it returns on the graphs. -/
theorem on_graphs_ok {α : Type} {act : GraphRoute α} {value : α} {graphs : GraphBackend}
    (h : act.run backend.graphs = .ok value graphs) :
    (onGraphs act).run backend = .ok value { backend with graphs } := by
  show onGraphs act backend = _
  unfold onGraphs
  rw [h]

/-- It raises what it raises on the graphs. -/
theorem on_graphs_error {α : Type} {act : GraphRoute α} {e : HandlerError} {graphs : GraphBackend}
    (h : act.run backend.graphs = .error e graphs) :
    (onGraphs act).run backend = .error e { backend with graphs } := by
  show onGraphs act backend = _
  unfold onGraphs
  rw [h]

/-- Slots are declared with distinct names. -/
theorem set_slots_run (graphId : String) (slots : List SlotRow) (graphs : GraphBackend)
    (mappings : Dict MappingKey String) :
    (⟨(Stateful.stateOf ((setSlots graphId slots).run graphs)).slots, mappings⟩ : SlotTables) =
      (SlotChange.declaring graphId slots).apply ⟨graphs.slots, mappings⟩ := by
  unfold setSlots SlotChange.declaring
  by_cases hdistinct : (slots.map SlotRow.slotName).Nodup
  · rw [if_pos hdistinct, dif_pos hdistinct]
    rfl
  · rw [if_neg hdistinct, dif_neg hdistinct]
    rfl

/-- Saving a graph declares its slots, if it is shared. -/
theorem create_graph_tables (graphId : String) (request : CreateGraphRequest) (caller : Caller) :
    (⟨(Stateful.stateOf ((createGraph surroundings graphId request caller).run
        backend.graphs)).slots, backend.mappings⟩ : SlotTables) =
      (SlotChange.saving surroundings backend graphId request).apply backend.tables := by
  unfold createGraph SlotChange.saving
  cases surroundings.dump request.spec with
  | error e => rfl
  | ok specJson =>
      show (⟨(Stateful.stateOf (EStateM.run (Stateful.ofExcept ((backend.graphs.rows.createGraph
        graphId request.name specJson surroundings.now (callerUserId caller)
        request.sharing).mapError _) >>= _) backend.graphs)).slots, _⟩ : SlotTables) = _
      unfold GraphsTable.createGraph
      dsimp only
      by_cases hsaved : (backend.graphs.rows.get? graphId).isSome
      · rw [if_pos hsaved, if_pos hsaved]
        rfl
      · rw [if_neg hsaved, if_neg hsaved]
        show (⟨(Stateful.stateOf (EStateM.run (if request.sharing = "shared" then _ else _)
          (backend.graphs.setRows _))).slots, _⟩ : SlotTables) =
            SlotChange.apply (if request.sharing = "shared" then _ else _) _
        by_cases hshared : request.sharing = "shared"
        · simp only [if_pos hshared]
          rw [Stateful.view_bind GraphBackend.slots fun _ => Stateful.frame_pure _]
          exact set_slots_run graphId request.connectionSlots _ _
        · simp only [if_neg hshared]
          rfl

/-- A change of a saved graph declares the slots that are given, or clears those of a private
graph. -/
theorem update_slots_and_mappings_tables (graphId sharing : String)
    (declared : Option (List SlotRow)) :
    (Stateful.stateOf ((updateSlotsAndMappings graphId sharing declared).run backend)).tables =
      (SlotChange.updating graphId sharing declared).apply backend.tables := by
  unfold updateSlotsAndMappings SlotChange.updating
  cases declared with
  | none =>
      dsimp only
      split <;> rfl
  | some slots =>
      dsimp only
      split
      · rw [state_of_on_graphs]
        exact set_slots_run graphId slots _ _
      · split <;> rfl

/-- So does the request. -/
theorem update_shared_graph_tables (graphId : String) (request : UpdateGraphRequest) :
    (Stateful.stateOf ((updateSharedGraph surroundings graphId request).run backend)).tables =
      (SlotChange.changing surroundings backend graphId request).apply backend.tables := by
  unfold updateSharedGraph SlotChange.changing
  cases dumpGiven surroundings request.spec with
  | error e => rfl
  | ok specJson =>
      rw [show (Stateful.ofExcept ((Except.ok specJson).mapError HandlerError.exception) :
        SharingRoute _) = pure specJson from rfl, pure_bind, Stateful.run_get_bind]
      unfold GraphsTable.updateGraph
      cases backend.graphs.rows.get? graphId with
      | none => rfl
      | some row =>
          show SharingBackend.tables (Stateful.stateOf (EStateM.run
            (updateSlotsAndMappings graphId (request.sharing.getD row.sharing)
              request.connectionSlots >>= _) _)) = _
          rw [Stateful.view_bind SharingBackend.tables]
          · exact update_slots_and_mappings_tables graphId _ _
          · exact fun _ => Stateful.frame_bind (Stateful.frame_ofExcept _) fun _ =>
              Stateful.frame_bind Stateful.frame_get fun _ => Stateful.frame_pure _

/-- A deletion clears the slots and the mappings, if there is a row. -/
theorem delete_shared_graph_tables (graphId : String) :
    (Stateful.stateOf ((deleteSharedGraph graphId).run backend)).tables =
      (SharingRequest.change surroundings backend (.graph (.delete graphId))).apply
        backend.tables := by
  obtain ⟨jobs, routes, hvacate⟩ := vacate_eq backend.graphs graphId
  have hrun := delete_graph_run graphId backend.graphs
  rw [hvacate] at hrun
  unfold deleteSharedGraph SharingRequest.change
  rw [EStateM.run_bind]
  dsimp only
  by_cases hsaved : (backend.graphs.rows.get? graphId).isSome
  · rw [if_pos hsaved] at hrun ⊢
    rw [on_graphs_ok hrun]
    rfl
  · rw [if_neg hsaved] at hrun ⊢
    rw [on_graphs_error hrun]
    rfl

/-- A mapping is stored if it is accepted. -/
theorem set_connection_mapping_tables (graphId slotName connectionName : String) (caller : Caller) :
    (Stateful.stateOf ((setConnectionMapping surroundings graphId slotName connectionName
        caller).run backend)).tables =
      (SharingRequest.change surroundings backend
        (.mapSlot graphId slotName connectionName caller)).apply backend.tables := by
  unfold setConnectionMapping SharingRequest.change acceptedMapping
  dsimp only
  -- Both sides make the same checks in the same order.
  cases callerUserId caller with
  | none => rfl
  | some userId =>
      dsimp only
      rw [Stateful.run_get_bind]
      cases backend.graphs.rows.get? graphId with
      | none => rfl
      | some row =>
          dsimp only
          by_cases hshared : row.sharing ≠ "shared"
          · rw [if_pos hshared, if_pos hshared]
            rfl
          · rw [if_neg hshared, if_neg hshared, Stateful.run_get_bind]
            by_cases hslot : slotName ∉ (backend.tables.listSlots graphId).map SlotRow.slotName
            · rw [if_pos hslot, if_pos hslot]
              rfl
            · rw [if_neg hslot, if_neg hslot]
              cases surroundings.store with
              | error e => rfl
              | ok store =>
                  rw [show (Stateful.ofExcept ((Except.ok store).mapError HandlerError.exception) :
                    SharingRoute _) = pure store from rfl, pure_bind]
                  dsimp only
                  cases resolveConnectionForUser store connectionName (some userId) with
                  | none => rfl
                  | some profile => rfl

/-- A request does to the tables what it comes down to. -/
theorem after_sharing_request_tables (request : SharingRequest) :
    (afterSharingRequest hashToken surroundings request backend).tables =
      (request.change surroundings backend).apply backend.tables := by
  cases request with
  | mapSlot graphId slotName connectionName caller =>
      exact set_connection_mapping_tables graphId slotName connectionName caller
  | graph request =>
      unfold afterSharingRequest sharingEndpoint
      rw [Stateful.view_bind SharingBackend.tables fun _ => Stateful.frame_pure _]
      have hkept : ∀ {act : GraphRoute GraphAnswer}, Stateful.Frame GraphBackend.slots act →
          (Stateful.stateOf ((onGraphs act).run backend)).tables = backend.tables := by
        intro act hframe
        rw [state_of_on_graphs]
        exact congrArg (SlotTables.mk · backend.mappings) (hframe backend.graphs)
      cases request with
      | save graphId request caller =>
          show SharingBackend.tables (Stateful.stateOf ((onGraphs _).run backend)) = _
          rw [state_of_on_graphs]
          exact create_graph_tables graphId request caller
      | update graphId request => exact update_shared_graph_tables graphId request
      | delete graphId => exact delete_shared_graph_tables graphId
      | activate graphId graph caller =>
          exact hkept (activate_graph_frame (fun _ _ _ _ _ _ => rfl) graphId graph caller)
      | deactivate graphId caller =>
          exact hkept (deactivate_graph_frame (fun _ _ _ _ _ _ => rfl) graphId caller)
      | mintKey graphId label timeoutSeconds draw caller =>
          exact hkept (create_invoke_key_frame (fun _ _ => rfl) _ _ _ _ _ _)
      | revokeKey graphId keyId => exact hkept (delete_invoke_key_frame (fun _ _ => rfl) _ _)

/-- On the graphs, an update does with its slots what it does without the mappings. -/
theorem update_slots_and_mappings_graphs (graphId sharing : String)
    (declared : Option (List SlotRow)) :
    (Stateful.stateOf ((updateSlotsAndMappings graphId sharing declared).run backend)).graphs =
      Stateful.stateOf ((updateSlots graphId sharing declared).run backend.graphs) := by
  unfold updateSlotsAndMappings updateSlots
  cases declared with
  | none =>
      dsimp only
      split <;> rfl
  | some slots =>
      dsimp only
      split
      · rw [state_of_on_graphs]
      · split <;> rfl

/-- On the graphs, a request does what it does without the mappings. -/
theorem after_sharing_request_graphs (request : GraphRequest) :
    (afterSharingRequest hashToken surroundings (.graph request) backend).graphs =
      afterGraphRequest hashToken surroundings request backend.graphs := by
  unfold afterSharingRequest sharingEndpoint
  rw [Stateful.view_bind SharingBackend.graphs fun _ => Stateful.frame_pure _]
  cases request with
  | update graphId request =>
      show (Stateful.stateOf
        ((updateSharedGraph surroundings graphId request).run backend)).graphs =
        Stateful.stateOf ((updateGraph surroundings graphId request).run backend.graphs)
      unfold updateSharedGraph updateGraph
      cases dumpGiven surroundings request.spec with
      | error e => rfl
      | ok specJson =>
          rw [show (Stateful.ofExcept ((Except.ok specJson).mapError HandlerError.exception) :
              SharingRoute _) = pure specJson from rfl,
            show (Stateful.ofExcept ((Except.ok specJson).mapError HandlerError.exception) :
              GraphRoute _) = pure specJson from rfl,
            pure_bind, pure_bind, Stateful.run_get_bind, Stateful.run_get_bind]
          cases backend.graphs.rows.updateGraph graphId surroundings.now request.name specJson
            request.sharing with
          | none => rfl
          | some updated =>
              show SharingBackend.graphs (Stateful.stateOf (EStateM.run (updateSlotsAndMappings
                  graphId updated.1.sharing request.connectionSlots >>= _) _)) =
                Stateful.stateOf (EStateM.run (updateSlots graphId updated.1.sharing
                  request.connectionSlots >>= _) _)
              refine (Stateful.view_bind SharingBackend.graphs ?_ _).trans
                (Eq.trans ?_ (Stateful.view_bind id ?_ _).symm)
              · exact fun _ => Stateful.frame_bind (Stateful.frame_ofExcept _) fun _ =>
                  Stateful.frame_bind Stateful.frame_get fun _ => Stateful.frame_pure _
              · exact update_slots_and_mappings_graphs graphId _ _
              · exact fun _ => Stateful.frame_bind (Stateful.frame_ofExcept _) fun _ =>
                  Stateful.frame_bind Stateful.frame_get fun _ => Stateful.frame_pure _
  | delete graphId =>
      show (Stateful.stateOf ((onGraphs (deleteGraph graphId) >>= _).run backend)).graphs = _
      rw [Stateful.view_bind SharingBackend.graphs, state_of_on_graphs]
      · rfl
      · exact fun _ => Stateful.frame_bind (Stateful.frame_modify fun _ => rfl) fun _ =>
          Stateful.frame_pure _
  | save | activate | deactivate | mintKey | revokeKey =>
      show (Stateful.stateOf ((onGraphs _).run backend)).graphs = _
      rw [state_of_on_graphs]
      rfl

end

/-! ## Mappings of declared slots -/

/-- The type that the connection of a mapping had when it was mapped, after a change. -/
def SlotChange.note : SlotChange → Dict MappingKey String → Dict MappingKey String
  | .setMapping key _ connectionType, types => types.set key connectionType
  | _, types => types

/-- No slot that a user has mapped is dropped or gets another type, and a slot is mapped to
a connection of its type. -/
def SlotChange.Keeps (tables : SlotTables) : SlotChange → Prop
  | .setSlots graphId slots _ =>
    ∀ key, key.graphId = graphId → (tables.mappings.get? key).isSome →
      ∃ slot ∈ tables.listSlots graphId, slot.slotName = key.slotName ∧ slot ∈ slots
  | .setMapping key _ connectionType =>
    ⟨key.slotName, connectionType⟩ ∈ tables.listSlots key.graphId
  | _ => True

namespace SlotTables

/-- The declared slots of every graph have distinct names. -/
def SlotsDistinct (tables : SlotTables) : Prop :=
  ∀ graphId, ((tables.listSlots graphId).map SlotRow.slotName).Nodup

/-- Every mapping is one of a declared slot, and its connection had the type of the slot when it was
mapped. -/
def Typed (tables : SlotTables) (types : Dict MappingKey String) : Prop :=
  ∀ key connectionName, tables.mappings.get? key = some connectionName →
    ∃ connectionType, types.get? key = some connectionType ∧
      ⟨key.slotName, connectionType⟩ ∈ tables.listSlots key.graphId

variable {tables : SlotTables} {types : Dict MappingKey String} {graphId : String}

theorem list_slots_set_self (slots : List SlotRow) :
    (tables.setSlots graphId slots).listSlots graphId = slots := by
  unfold listSlots setSlots
  rw [Dict.get?_set_self]
  rfl

theorem list_slots_set_of_ne {other : String} (h : other ≠ graphId) (slots : List SlotRow) :
    (tables.setSlots graphId slots).listSlots other = tables.listSlots other := by
  unfold listSlots setSlots
  rw [Dict.get?_set_of_ne _ _ h]

theorem list_slots_clear_of_ne {other : String} (h : other ≠ graphId) :
    (tables.clearSlots graphId).listSlots other = tables.listSlots other := by
  show ((tables.slots.erase graphId).get? other).getD [] = _
  rw [Dict.get?_erase_of_ne _ h]
  rfl

/-- Clearing removes exactly the mappings of the graph. -/
theorem get?_clear_mappings (key : MappingKey) :
    (tables.clearMappings graphId).mappings.get? key =
      if key.graphId = graphId then none else tables.mappings.get? key := by
  unfold clearMappings
  rw [Dict.get?_eraseAll]
  by_cases hgraph : key.graphId = graphId
  · rw [if_pos hgraph]
    split
    · rfl
    · rename_i hkept
      refine Dict.get?_eq_none_iff.mpr fun hmem => hkept ?_
      exact List.mem_filter.mpr ⟨hmem, decide_eq_true hgraph⟩
  · rw [if_neg hgraph, if_neg]
    exact fun hmem => hgraph (of_decide_eq_true (List.mem_filter.mp hmem).2)

/-- The declared slots keep distinct names. -/
theorem SlotsDistinct.apply (h : tables.SlotsDistinct) (change : SlotChange) :
    (change.apply tables).SlotsDistinct := by
  intro other
  cases change with
  | nothing | setMapping => exact h other
  | setSlots graphId slots distinct =>
      show (((tables.setSlots graphId slots).listSlots other).map SlotRow.slotName).Nodup
      by_cases hgraph : other = graphId
      · rw [hgraph, list_slots_set_self]
        exact distinct
      · rw [list_slots_set_of_ne hgraph]
        exact h other
  | clearSlots graphId =>
      show (((tables.clearSlots graphId).listSlots other).map SlotRow.slotName).Nodup
      by_cases hgraph : other = graphId
      · rw [hgraph]
        show ((((tables.slots.erase graphId).get? graphId).getD []).map SlotRow.slotName).Nodup
        rw [Dict.get?_erase_self]
        exact List.nodup_nil
      · rw [list_slots_clear_of_ne hgraph]
        exact h other

/-- A graph declares one slot of a name. -/
theorem SlotsDistinct.unique (h : tables.SlotsDistinct) {slot slot' : SlotRow}
    (hslot : slot ∈ tables.listSlots graphId) (hslot' : slot' ∈ tables.listSlots graphId)
    (hname : slot.slotName = slot'.slotName) : slot = slot' :=
  List.inj_on_of_nodup_map (h graphId) hslot hslot' hname

/-- A change leaves the mappings typed exactly if it keeps them so. -/
theorem typed_apply_iff (hdistinct : tables.SlotsDistinct) (htyped : tables.Typed types)
    (change : SlotChange) :
    (change.apply tables).Typed (change.note types) ↔ change.Keeps tables := by
  -- Each change touches the slots of one graph or one mapping; the rest is typed as before.
  cases change with
  | nothing => exact iff_of_true htyped trivial
  | clearSlots graphId =>
      refine iff_of_true (fun key connectionName hmapped => ?_) trivial
      have hkept : (tables.clearMappings graphId).mappings.get? key = some connectionName := hmapped
      rw [get?_clear_mappings] at hkept
      split at hkept
      · cases hkept
      · rename_i hgraph
        obtain ⟨connectionType, htype, hdeclared⟩ := htyped key connectionName hkept
        refine ⟨connectionType, htype, ?_⟩
        show _ ∈ (tables.clearSlots graphId).listSlots key.graphId
        rwa [list_slots_clear_of_ne hgraph]
  | setSlots graphId slots distinct =>
      constructor
      · intro h key hgraph hmapped
        obtain ⟨connectionName, hname⟩ := Option.isSome_iff_exists.mp hmapped
        obtain ⟨connectionType, htype, hdeclared⟩ := htyped key connectionName hname
        obtain ⟨found, hfound, hkept⟩ := h key connectionName hname
        have hsame : found = connectionType := Option.some.inj (hfound.symm.trans htype)
        subst hsame hgraph
        refine ⟨_, hdeclared, rfl, ?_⟩
        have hlist : _ ∈ (tables.setSlots key.graphId slots).listSlots key.graphId := hkept
        rwa [list_slots_set_self] at hlist
      · intro h key connectionName hname
        obtain ⟨connectionType, htype, hdeclared⟩ := htyped key connectionName hname
        refine ⟨connectionType, htype, ?_⟩
        show _ ∈ (tables.setSlots graphId slots).listSlots key.graphId
        by_cases hgraph : key.graphId = graphId
        · obtain ⟨slot, hslot, hslotName, hkept⟩ := h key hgraph (Option.isSome_of_eq_some hname)
          rw [hgraph] at hdeclared ⊢
          rw [list_slots_set_self, ← hdistinct.unique hslot hdeclared hslotName]
          exact hkept
        · rwa [list_slots_set_of_ne hgraph]
  | setMapping key connectionName connectionType =>
      constructor
      · intro h
        obtain ⟨found, hfound, hdeclared⟩ := h key connectionName (Dict.get?_set_self _ _ _)
        have hset : (types.set key connectionType).get? key = some found := hfound
        rw [Dict.get?_set_self] at hset
        cases hset
        exact hdeclared
      · intro h other otherName hname
        have hmapped : (tables.mappings.set key connectionName).get? other = some otherName := hname
        show ∃ found, (types.set key connectionType).get? other = some found ∧
          _ ∈ tables.listSlots other.graphId
        by_cases hkey : other = key
        · rw [hkey, Dict.get?_set_self]
          exact ⟨connectionType, rfl, h⟩
        · rw [Dict.get?_set_of_ne _ _ hkey] at hmapped
          rw [Dict.get?_set_of_ne _ _ hkey]
          exact htyped other otherName hmapped

end SlotTables

/-! ## The mappings over a history -/

/-- The backend, with the types that the connections of the mappings had when they were mapped. -/
structure MappedBackend where
  backend : SharingBackend
  mappedTypes : Dict MappingKey String

namespace MappedBackend

/-- A backend on which nothing has happened. -/
def empty : MappedBackend := ⟨⟨.empty, .empty⟩, .empty⟩

/-- The backend after a request, in surroundings of its own. -/
def act (hashToken : String → String) (step : Surroundings × SharingRequest)
    (state : MappedBackend) : MappedBackend where
  backend := afterSharingRequest hashToken step.1 step.2 state.backend
  mappedTypes := (step.2.change step.1 state.backend).note state.mappedTypes

/-- The request drops or retypes no slot that is mapped, and maps a slot to its type only. -/
def KeepsMappings (state : MappedBackend) (step : Surroundings × SharingRequest) : Prop :=
  (step.2.change step.1 state.backend).Keeps state.backend.tables

/-- A run substitutes names of declared slots only, and every mapping is one of a declared slot to a
connection that had its type. -/
structure SlotIntegrity (state : MappedBackend) : Prop where
  substituted : ∀ graphId runBy mappings,
    slotMappingsFor state.backend.stores (some graphId) runBy = .ok mappings →
      ∀ name ∈ mappings.keys,
        name ∈ (state.backend.tables.listSlots graphId).map SlotRow.slotName
  mapped : state.backend.tables.Typed state.mappedTypes

end MappedBackend

section

variable {backend : SharingBackend} {userId graphId name : String}

/-- The names for which a user has a mapping. -/
theorem mem_mappings_for_user_iff :
    name ∈ (backend.tables.getMappingsForUser userId graphId).keys ↔
      (backend.mappings.get? ⟨userId, graphId, name⟩).isSome := by
  unfold SlotTables.getMappingsForUser
  rw [Dict.mem_keys_ofList, Option.isSome_iff_exists]
  constructor
  · intro hname
    obtain ⟨entry, hentry, rfl⟩ := List.mem_map.mp hname
    obtain ⟨row, hrow, rfl⟩ := List.mem_map.mp hentry
    obtain ⟨hmem, howner⟩ := List.mem_filter.mp hrow
    obtain ⟨⟨rowUser, rowGraph, rowSlot⟩, connectionName⟩ := row
    obtain ⟨rfl, rfl⟩ : rowUser = userId ∧ rowGraph = graphId := of_decide_eq_true howner
    exact ⟨connectionName, Dict.mem_entries_iff.mp hmem⟩
  · intro hmapped
    obtain ⟨connectionName, hmapped⟩ := hmapped
    refine List.mem_map.mpr ⟨(name, connectionName), List.mem_map.mpr
      ⟨(⟨userId, graphId, name⟩, connectionName), List.mem_filter.mpr ⟨?_, ?_⟩, rfl⟩, rfl⟩
    · exact Dict.mem_entries_iff.mpr hmapped
    · exact decide_eq_true ⟨rfl, rfl⟩

/-- A run substitutes names that the user has mapped. -/
theorem mapped_of_substituted {runBy : Option String} {mappings : Dict String String}
    (h : slotMappingsFor backend.stores (some graphId) runBy = .ok mappings)
    (hname : name ∈ mappings.keys) :
    ∃ userId, (backend.mappings.get? ⟨userId, graphId, name⟩).isSome := by
  unfold slotMappingsFor at h
  cases runBy with
  | none =>
      cases h
      cases hname
  | some userId =>
      dsimp only at h
      split at h
      · cases h
        cases hname
      · split at h
        · split at h
          · cases h
            exact ⟨userId, mem_mappings_for_user_iff.mp hname⟩
          · cases h
        · cases h
          cases hname

/-- If every mapping is one of a declared slot, a run substitutes names of declared slots only. -/
theorem slot_integrity_iff {state : MappedBackend} :
    state.SlotIntegrity ↔ state.backend.tables.Typed state.mappedTypes := by
  refine ⟨fun h => h.mapped, fun htyped => ⟨fun graphId runBy mappings h name hname => ?_, htyped⟩⟩
  obtain ⟨userId, hmapped⟩ := mapped_of_substituted h hname
  obtain ⟨connectionName, hget⟩ := Option.isSome_iff_exists.mp hmapped
  obtain ⟨connectionType, _, hdeclared⟩ := htyped _ connectionName hget
  exact List.mem_map.mpr ⟨_, hdeclared, rfl⟩

end

/-- In a history, a run substitutes names of declared slots only and every mapping is one of a
declared slot to a connection that had its type, at all times, exactly if no request drops or
retypes a slot that a user has mapped, and a slot is only mapped to a connection of its type. -/
theorem slot_mappings_sound_iff (hashToken : String → String)
    (history : List (Surroundings × SharingRequest)) :
    History.AllStates (MappedBackend.act hashToken) history .empty MappedBackend.SlotIntegrity ↔
      History.AllSteps
        (MappedBackend.act hashToken) history .empty MappedBackend.KeepsMappings := by
  have htables : ∀ (state : MappedBackend) step, (state.act hashToken step).backend.tables =
      (step.2.change step.1 state.backend).apply state.backend.tables :=
    fun state step => after_sharing_request_tables step.2
  have hdistinct : ∀ (state : MappedBackend) step, state.backend.tables.SlotsDistinct →
      (state.act hashToken step).backend.tables.SlotsDistinct := by
    intro state step h
    rw [htables]
    exact h.apply _
  have hstart : MappedBackend.empty.backend.tables.SlotsDistinct := fun _ => List.nodup_nil
  have hkeeps : ∀ (state : MappedBackend) step,
      state.backend.tables.SlotsDistinct ∧ state.SlotIntegrity →
      ((state.act hashToken step).backend.tables.SlotsDistinct ∧
        (state.act hashToken step).SlotIntegrity ↔ state.KeepsMappings step) := by
    intro state step h
    rw [and_iff_right (hdistinct state step h.1), slot_integrity_iff, htables]
    exact SlotTables.typed_apply_iff h.1 h.2.mapped _
  have hempty : MappedBackend.empty.SlotIntegrity :=
    slot_integrity_iff.mpr fun _ _ hmapped => by cases hmapped
  rw [← History.all_states_iff hkeeps ⟨hstart, hempty⟩]
  constructor
  · intro h earlier later hsplit
    exact ⟨History.after_of_step hdistinct hstart, h earlier later hsplit⟩
  · intro h earlier later hsplit
    exact (h earlier later hsplit).2

/-! ### A slot that is not declared any more -/

/-- A graph is shared with a slot. -/
def sharesBot : SharingRequest :=
  .graph (.save "g" ⟨"Bot", botGraph, "shared", [⟨"bot", "telegram"⟩]⟩ (some ⟨"author", "member"⟩))

/-- Another user maps the slot. -/
def mapsBot : SharingRequest := .mapSlot "g" "bot" "bot" (some ⟨"runner", "member"⟩)

/-- The author declares no slots any more. -/
def declaresNothing : SharingRequest := .graph (.update "g" { connectionSlots := some [] })

/-- These requests, in plain surroundings. -/
def droppedSlotHistory : List (Surroundings × SharingRequest) :=
  [(plainSurroundings, sharesBot), (plainSurroundings, mapsBot),
    (plainSurroundings, declaresNothing)]

set_option maxRecDepth 20000 in
/-- No slot is declared, and a run of the other user substitutes the name of the old one. -/
theorem dropped_slot_is_substituted :
    let state := History.after (MappedBackend.act id) droppedSlotHistory .empty
    (∃ mappings, slotMappingsFor state.backend.stores (some "g") (some "runner") = .ok mappings ∧
      "bot" ∈ mappings.keys) ∧
    state.backend.tables.listSlots "g" = [] ∧
    ¬ History.AllStates (MappedBackend.act id) droppedSlotHistory .empty
      MappedBackend.SlotIntegrity := by
  refine ⟨⟨.ofList [("bot", "bot")], rfl, by decide⟩, rfl, fun h => ?_⟩
  have hintegrity := h droppedSlotHistory [] (List.append_nil _).symm
  have hdeclared := hintegrity.substituted "g" (some "runner") (.ofList [("bot", "bot")]) rfl "bot"
    (by decide)
  exact absurd hdeclared List.not_mem_nil

end AgentGraphStudio
