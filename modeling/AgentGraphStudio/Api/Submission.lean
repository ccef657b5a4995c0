import AgentGraphStudio.Api.Runs
import AgentGraphStudio.Nodes.Builtin

/-!
# Submitting a run

`submit_run` of `backend/api/app.py`. A caller who runs a shared graph of somebody else needs
a mapping for every declared slot. The graph is validated with that mapping and every name it
references is resolved; the engine validates the graph again when the run starts, for the same
user but without the mapping. `revalidation_iff` says for which accepted graphs the two agree.
-/

namespace AgentGraphStudio

/-- A declared connection slot of a shared graph. -/
structure SlotRow where
  slotName : String
  connectionType : String

/-- What a submission reads of a saved graph. -/
structure GraphRow where
  createdBy : Option String
  sharing : String

/-- The stores of the saved graphs, of their declared slots and of the users' mappings. -/
structure GraphStores where
  getGraph : String → Option GraphRow
  listSlots : String → List SlotRow
  getMappingsForUser : (userId graphId : String) → Dict String String

/-- Why a submission is refused. -/
inductive SubmitError where
  | missingSlots (missing : List SlotRow)
  | invalid (issues : List ValidationIssue)
  | unresolved (error : ResolveError)

/-- The mapping that applies to a run: the caller's own, for a shared graph of somebody else. -/
def slotMappingsFor (stores : GraphStores) (graphId runBy : Option String) :
    Except SubmitError (Dict String String) :=
  match graphId, runBy with
  | some graphId, some user =>
    match stores.getGraph graphId with
    | none => .ok .empty
    | some row =>
      if row.sharing = "shared" ∧ some user ≠ row.createdBy then
        let mappings := stores.getMappingsForUser user graphId
        match (stores.listSlots graphId).filter fun slot =>
          (mappings.get? slot.slotName).isNone with
        | [] => .ok mappings
        | missing => .error (.missingSlots missing)
      else .ok .empty
  | _, _ => .ok .empty

/-- The resources that a run of the graph is given. -/
def submittedResources (connectionTypes : ConnectionRegistry) (store : ConnectionStore)
    (graph : GraphSpec) (runBy : Option String) (slotMappings : Dict String String) :
    Except ResolveError Resources := do
  let connections ← resolveConnections graph store connectionTypes runBy slotMappings
  let connectionProfiles ← resolveConnectionProfiles graph store runBy slotMappings
  pure { connections, connectionProfiles, runningUserId := runBy, slotMappings }

/-- Accept or refuse a run. -/
def submitRun (env : Environment) (stores : GraphStores) (store : ConnectionStore)
    (graph : GraphSpec) (graphId runBy : Option String) : Except SubmitError Resources := do
  let slotMappings ← slotMappingsFor stores graphId runBy
  (validateGraph graph env.registry store runBy slotMappings).mapError SubmitError.invalid
  (submittedResources env.connectionTypes store graph runBy slotMappings).mapError
    SubmitError.unresolved

/-- What is known of the resources of an accepted run. -/
theorem submitted_resources_eq_ok {connectionTypes : ConnectionRegistry}
    {store : ConnectionStore} {graph : GraphSpec} {runBy : Option String}
    {slotMappings : Dict String String} {resources : Resources}
    (h : submittedResources connectionTypes store graph runBy slotMappings = .ok resources) :
    resources.runningUserId = runBy ∧ resources.slotMappings = slotMappings ∧
      (∀ name, name ∈ resources.connections.keys ↔ name ∈ referencedConnectionNames graph) ∧
      ∀ name, name ∈ resources.connectionProfiles.keys ↔
        name ∈ referencedConnectionNames graph := by
  obtain ⟨connections, hconnections, h⟩ := except_bind_eq_ok.mp h
  obtain ⟨profiles, hprofiles, h⟩ := except_bind_eq_ok.mp h
  cases h
  exact ⟨rfl, rfl, resolve_connections_keys hconnections,
    resolve_connection_profiles_keys hprofiles⟩

/-- A run is accepted when its graph is valid for the caller and its mapping, and every
connection resolves. -/
theorem submit_run_eq_ok_iff {env : Environment} {stores : GraphStores} {store : ConnectionStore}
    {graph : GraphSpec} {graphId runBy : Option String} {resources : Resources} :
    submitRun env stores store graph graphId runBy = .ok resources ↔
      ∃ slotMappings, slotMappingsFor stores graphId runBy = .ok slotMappings ∧
        validateGraph graph env.registry store runBy slotMappings = .ok () ∧
        submittedResources env.connectionTypes store graph runBy slotMappings =
          .ok resources := by
  simp only [submitRun, except_bind_eq_ok, mapError_eq_ok]
  exact ⟨fun ⟨mappings, hmappings, _, hvalid, hresources⟩ =>
      ⟨mappings, hmappings, hvalid, hresources⟩,
    fun ⟨mappings, hmappings, hvalid, hresources⟩ =>
      ⟨mappings, hmappings, (), hvalid, hresources⟩⟩

/-! ## The second validation -/

section

variable {env : Environment} {store : ConnectionStore} {graph : GraphSpec}
  {runBy : Option String} {slotMappings : Dict String String} {resources : Resources}

/-- Every referenced name that the mapping redirects also names a connection of the caller's
or a global one. -/
def MappedNamesResolve (store : ConnectionStore) (graph : GraphSpec) (runBy : Option String)
    (slotMappings : Dict String String) : Prop :=
  ∀ name ∈ referencedConnectionNames graph, (slotMappings.get? name).isSome →
    (resolveConnectionForUser store name runBy).isSome

instance (store : ConnectionStore) (graph : GraphSpec) (runBy : Option String)
    (slotMappings : Dict String String) :
    Decidable (MappedNamesResolve store graph runBy slotMappings) :=
  inferInstanceAs (Decidable (∀ name ∈ referencedConnectionNames graph,
    (slotMappings.get? name).isSome → (resolveConnectionForUser store name runBy).isSome))

/-- The engine fails the run with the text of a validation error, before it does anything. -/
def FailsValidation (env : Environment) (store : ConnectionStore) (graph : GraphSpec)
    (resources : Resources) : Prop :=
  ∃ issues, ∀ depth runId, runGraphOf env depth runId graph resources store =
    .done (.error (.exception (graphValidationErrorText issues)))

/-- The engine's own validation decides whether the run gets going. -/
theorem fails_validation_iff : FailsValidation env store graph resources ↔
    revalidate graph env.registry store resources ≠ .ok () := by
  have hsame : ∀ runId, revalidate graph env.registry store (runResources resources runId) =
      revalidate graph env.registry store resources := fun _ => rfl
  constructor
  · rintro ⟨issues, hfails⟩ haccepted
    have hrun := hfails 0 ""
    rw [runGraphOf, runGraphWith, run_graph_of_ok ((hsame _).trans haccepted)] at hrun
    cases hrun
  · intro hrejected
    cases hverdict : revalidate graph env.registry store resources with
    | ok _ => exact absurd hverdict hrejected
    | error issues =>
        refine ⟨issues, fun depth runId => ?_⟩
        rw [runGraphOf, runGraphWith, run_graph_of_error ((hsame _).trans hverdict)]
        rfl

/-- Without a mapping, a graph that was accepted with one is accepted again if the names that
the mapping redirects resolve as well. -/
theorem revalidate_ok_iff
    (haccepted : validateGraph graph env.registry store runBy slotMappings = .ok ()) :
    validateGraph graph env.registry store runBy .empty = .ok () ↔
      MappedNamesResolve store graph runBy slotMappings := by
  rw [validate_graph_ok_iff] at haccepted ⊢
  rw [and_iff_right haccepted.1]
  constructor
  · exact fun h name hname _ => h name hname
  · intro h name hname
    cases hmapped : slotMappings.get? name with
    | some mapped => exact h name hname (by rw [hmapped]; rfl)
    | none =>
        have hresolved := haccepted.2 name hname
        rwa [resolveSlotAware, Dict.getD, hmapped] at hresolved

/-- The run of an accepted graph passes the engine's own validation exactly if every
referenced name that the mapping redirects also resolves by itself, and is failed by it
otherwise. -/
theorem revalidation_iff
    (haccepted : validateGraph graph env.registry store runBy slotMappings = .ok ())
    (hresources : submittedResources env.connectionTypes store graph runBy slotMappings =
      .ok resources) :
    (revalidate graph env.registry store resources = .ok () ↔
      MappedNamesResolve store graph runBy slotMappings) ∧
    (¬ FailsValidation env store graph resources ↔
      MappedNamesResolve store graph runBy slotMappings) := by
  rw [fails_validation_iff, not_not, revalidate, (submitted_resources_eq_ok hresources).1,
    revalidate_ok_iff haccepted]
  exact ⟨Iff.rfl, Iff.rfl⟩

end

/-! ### A shared graph -/

/-- A process with the built-in node types and one connection type. -/
def anthropicEnvironment : Environment where
  registry := processRegistry plainPython (fun _ _ => none) []
  connectionTypes := .ofList [("anthropic",
    { configModel := readable fun config => config.required "api_key" Json.str?
      supportsToolCalling := true })]
  python := plainPython

/-- An `anthropic` connection. -/
def anthropicProfile (name : String) (userId : Option String) : ConnectionProfile where
  name
  type := "anthropic"
  config := .ofList [("api_key", .str "sk")]
  userId

/-- One model call through the connection `my-anthropic`. -/
def askGraph : GraphSpec where
  version := "1.0"
  nodes := [
    { id := "ask", type := "llm_call"
      config := .ofList [("connection", .str "my-anthropic"), ("model", .str "claude")]
      inputValues := .ofList [("prompt", .str "hello")] }]
  edges := []
  nodupIds := by decide

/-- The author shared the graph, and the runner mapped its slot. -/
def sharedStores : GraphStores where
  getGraph _ := some ⟨some "author", "shared"⟩
  listSlots _ := [⟨"my-anthropic", "anthropic"⟩]
  getMappingsForUser _ _ := .ofList [("my-anthropic", "runner-anthropic")]

set_option maxRecDepth 20000 in
/-- With a global `my-anthropic` the run passes. -/
theorem global_slot_passes : ∃ resources,
    ¬ FailsValidation anthropicEnvironment
      [anthropicProfile "my-anthropic" none, anthropicProfile "runner-anthropic" (some "runner")]
      askGraph resources :=
  ⟨_, (@revalidation_iff anthropicEnvironment _ askGraph (some "runner")
    (.ofList [("my-anthropic", "runner-anthropic")]) _ rfl rfl).2.mpr (by decide)⟩

set_option maxRecDepth 20000 in
/-- The runner's submission is accepted and its run fails: the author's own `my-anthropic` is
not visible to the runner. -/
theorem mapped_slot_fails : ∃ resources,
    submitRun anthropicEnvironment sharedStores
      [anthropicProfile "my-anthropic" (some "author"),
        anthropicProfile "runner-anthropic" (some "runner")]
      askGraph (some "g") (some "runner") = .ok resources ∧
    FailsValidation anthropicEnvironment
      [anthropicProfile "my-anthropic" (some "author"),
        anthropicProfile "runner-anthropic" (some "runner")] askGraph resources :=
  ⟨_, rfl, fails_validation_iff.mpr nofun⟩

end AgentGraphStudio
