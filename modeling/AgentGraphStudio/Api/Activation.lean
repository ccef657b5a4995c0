import AgentGraphStudio.Triggers.WebhookSync

/-!
# The endpoints of saved graphs

`POST /graphs`, `PUT /graphs/{graph_id}`, `DELETE /graphs/{graph_id}`, activation, deactivation and
the invoke keys in `backend/api/app.py`, and the re-activation of the persisted graphs when the
backend starts. An activation is rolled back on an `HTTPException`; any other exception leaves
things as they are.
-/

namespace AgentGraphStudio

open Stateful (attempt)

/-! ## Requests and answers -/

/-- The body of `POST /graphs`. -/
structure CreateGraphRequest where
  name : String
  spec : GraphSpec
  sharing : String := "private"
  connectionSlots : List SlotRow := []

/-- The body of `PUT /graphs/{graph_id}`. -/
structure UpdateGraphRequest where
  name : Option String := none
  spec : Option GraphSpec := none
  sharing : Option String := none
  connectionSlots : Option (List SlotRow) := none

/-- What is told about a saved graph. -/
structure GraphDetail where
  graphId : String
  name : String
  spec : GraphSpec
  isActive : Bool
  createdBy : Option String
  sharing : String
  connectionSlots : List SlotRow

/-- The answers of the endpoints. -/
inductive GraphAnswer where
  | detail (detail : GraphDetail)
  | activated (triggers : List TriggerRecord)
  | deactivated
  | keyCreated (row : InvokeKeyRow) (token : String)
  | noContent

section

variable (surroundings : Surroundings)

/-! ## Activation -/

/-- Validate a graph for a user. The connections are read only if there are any. -/
def validateForActivation (graph : GraphSpec) (userId : Option String) :
    Except HandlerError Unit :=
  match surroundings.store with
  | .ok store =>
    (validateGraph graph surroundings.registry store userId .empty).mapError .invalidGraph
  | .error e =>
    if referencedConnectionNames graph = [] then
      (validateGraph graph surroundings.registry [] userId .empty).mapError .invalidGraph
    else .error (.exception e)

/-- Register the triggers of a graph and then its webhooks. -/
def registerGraph (graphId : String) (graph : GraphSpec) (userId : Option String) :
    GraphRoute (List TriggerRecord) := do
  let triggers ← registerTriggers surroundings graphId graph
  syncWebhooksOnActivate surroundings graph triggers userId
  pure triggers

/-- The registry with a graph (`set_active`). -/
def GraphBackend.setActive (backend : GraphBackend) (graphId : String) (active : ActiveGraph) :
    GraphBackend :=
  { backend with active := backend.active.set graphId active }

/-- Deactivate what is active under an id. -/
def deactivateIfActive (graphId : String) : GraphRoute Unit := do
  if ((← get).active.get? graphId).isSome then
    modify fun backend => backend.deactivate graphId

/-- End a failed activation. An `HTTPException` rolls it back. -/
def failActivation (graphId : String) (e : HandlerError) : GraphRoute GraphAnswer := do
  if e.isHttpException then modify fun backend => backend.deactivate graphId
  throw e

/-- End an activation: the graph is put into the registry, and its spec is stored. -/
def finishActivation (graphId : String) (active : ActiveGraph) : GraphRoute GraphAnswer := do
  modify fun backend => backend.setActive graphId active
  let specJson ← Stateful.ofExcept ((surroundings.dump active.graph).mapError .exception)
  modify fun backend =>
    { backend with rows := backend.rows.setActiveState graphId specJson true surroundings.now }
  pure (.activated active.triggers)

/-- Activate a graph in place of what was active under its id. -/
def activateGraph (graphId : String) (graph : GraphSpec) (caller : Caller) :
    GraphRoute GraphAnswer := do
  Stateful.ofExcept (validateForActivation surroundings graph (callerUserId caller))
  deactivateIfActive graphId
  match ← attempt (registerGraph surroundings graphId graph (callerUserId caller)) with
  | .error e => failActivation graphId e
  | .ok triggers =>
    finishActivation surroundings graphId ⟨graph, triggers, callerUserId caller⟩

/-- Deactivate a graph. -/
def deactivateGraph (graphId : String) (caller : Caller) : GraphRoute GraphAnswer := do
  match (← get).active.get? graphId with
  | none => throw (.http ⟨404, s!"Graph '{graphId}' is not active"⟩)
  | some active =>
    syncWebhooksOnDeactivate surroundings active.graph (callerUserId caller)
    modify fun backend => backend.deactivate graphId
    modify fun backend =>
      { backend with rows := backend.rows.setIsActive graphId false surroundings.now }
    pure .deactivated

/-- Re-activate one persisted graph. -/
def reactivateGraph (graphId : String) (row : StoredGraph) : GraphRoute Unit := do
  let graph ← Stateful.ofExcept ((surroundings.load row.specJson).mapError .exception)
  Stateful.ofExcept (validateForActivation surroundings graph row.createdBy)
  let triggers ← registerTriggers surroundings graphId graph
  modify fun backend => backend.setActive graphId ⟨graph, triggers, row.createdBy⟩

/-- Re-activate persisted graphs one after another. A failure is logged. -/
def reactivateRows : List (String × StoredGraph) → GraphRoute Unit
  | [] => pure ()
  | (graphId, row) :: rows => do
    discard (attempt (reactivateGraph surroundings graphId row) : GraphRoute _)
    reactivateRows rows

/-- Re-activate all graphs that are flagged active. -/
def reactivatePersistedGraphs : GraphRoute Unit := do
  reactivateRows surroundings (← get).rows.listActiveGraphs

/-! ## Saved graphs -/

/-- Replace the declared slots of a graph. Their names are distinct. -/
def setSlots (graphId : String) (slots : List SlotRow) : GraphRoute Unit :=
  if (slots.map SlotRow.slotName).Nodup then
    modify fun backend => { backend with slots := backend.slots.set graphId slots }
  else throw (.exception ("UNIQUE constraint failed: graph_connection_slots.graph_id, " ++
    "graph_connection_slots.slot_name"))

/-- Remove the declared slots of a graph. -/
def clearSlots (graphId : String) : GraphRoute Unit :=
  modify fun backend => { backend with slots := backend.slots.erase graphId }

/-- Save a new graph under a fresh id. -/
def createGraph (graphId : String) (request : CreateGraphRequest) (caller : Caller) :
    GraphRoute GraphAnswer := do
  let specJson ← Stateful.ofExcept ((surroundings.dump request.spec).mapError .exception)
  let backend ← get
  let (row, rows) ← Stateful.ofExcept
    ((backend.rows.createGraph graphId request.name specJson surroundings.now
      (callerUserId caller) request.sharing).mapError .exception)
  modify fun backend => { backend with rows }
  if request.sharing = "shared" then setSlots graphId request.connectionSlots
  pure (.detail
    { graphId, name := row.name, spec := request.spec, isActive := row.isActive
      createdBy := row.createdBy, sharing := row.sharing
      connectionSlots := if request.sharing = "shared" then request.connectionSlots else [] })

/-- Store the slots that an update declares, or clear those of a private graph. -/
def updateSlots (graphId sharing : String) (declared : Option (List SlotRow)) :
    GraphRoute Unit :=
  match declared with
  | some slots =>
    if sharing = "shared" then setSlots graphId slots
    else if sharing = "private" then clearSlots graphId
    else pure ()
  | none => if sharing = "private" then clearSlots graphId else pure ()

/-- The text of a spec, if there is one. -/
def dumpGiven : Option GraphSpec → Except String (Option String)
  | none => .ok none
  | some spec => (surroundings.dump spec).map some

/-- Change a saved graph. -/
def updateGraph (graphId : String) (request : UpdateGraphRequest) : GraphRoute GraphAnswer := do
  let specJson ← Stateful.ofExcept ((dumpGiven surroundings request.spec).mapError .exception)
  match (← get).rows.updateGraph graphId surroundings.now request.name specJson request.sharing with
  | none => throw (.http ⟨404, s!"Graph '{graphId}' not found"⟩)
  | some (row, rows) =>
    modify fun backend => { backend with rows }
    updateSlots graphId row.sharing request.connectionSlots
    let spec ← Stateful.ofExcept ((surroundings.load row.specJson).mapError .exception)
    let stored := ((← get).slots.get? graphId).getD []
    pure (.detail
      { graphId, name := row.name, spec, isActive := row.isActive, createdBy := row.createdBy
        sharing := row.sharing
        connectionSlots := if row.sharing = "shared" then stored else [] })

/-- Delete a graph, after it was deactivated. -/
def deleteGraph (graphId : String) : GraphRoute GraphAnswer := do
  deactivateIfActive graphId
  let deleted := (← get).rows.deleteGraph graphId
  modify fun backend => { backend with rows := deleted.2 }
  if deleted.1 then do
    clearSlots graphId
    pure .noContent
  else throw (.http ⟨404, s!"Graph '{graphId}' not found"⟩)

/-! ## Invoke keys -/

/-- The longest timeout of an invoke key, in seconds. -/
def MAX_INVOKE_TIMEOUT_SECONDS : Int := 300

/-- Insert a new invoke key and hand out its token. -/
def insertInvokeKey (hashToken : String → String) (graphId : String) (description : KeyDescription)
    (draw : KeyDraw) : GraphRoute GraphAnswer := do
  let backend ← get
  let ((row, token), keys) ← Stateful.ofExcept
    ((generateInvokeKey hashToken graphId description draw backend.keys).mapError .exception)
  modify fun backend => { backend with keys }
  pure (.keyCreated row token)

/-- Mint an invoke key for a saved graph. -/
def createInvokeKey (hashToken : String → String) (graphId label : String)
    (timeoutSeconds : Int) (draw : KeyDraw) (caller : Caller) : GraphRoute GraphAnswer := do
  if ((← get).rows.get? graphId).isNone then
    throw (.http ⟨404, s!"Graph '{graphId}' not found"⟩)
  else if ¬ (1 ≤ timeoutSeconds ∧ timeoutSeconds ≤ MAX_INVOKE_TIMEOUT_SECONDS) then
    throw (.http
      ⟨422, s!"timeout_seconds must be between 1 and {MAX_INVOKE_TIMEOUT_SECONDS}"⟩)
  else
    insertInvokeKey hashToken graphId
      { label, createdAt := surroundings.now, timeoutSeconds,
        createdBy := callerUserId caller } draw

/-- Revoke an invoke key. -/
def deleteInvokeKey (graphId keyId : String) : GraphRoute GraphAnswer := do
  let revoked := revokeInvokeKey graphId keyId (← get).keys
  modify fun backend => { backend with keys := revoked.2 }
  if revoked.1 then pure .noContent
  else throw (.http ⟨404, s!"Invoke key '{keyId}' not found"⟩)

end

/-! ## Histories -/

/-- A request about graphs. Fresh ids and tokens are drawn with the request. -/
inductive GraphRequest where
  | save (graphId : String) (request : CreateGraphRequest) (caller : Caller)
  | update (graphId : String) (request : UpdateGraphRequest)
  | activate (graphId : String) (graph : GraphSpec) (caller : Caller)
  | deactivate (graphId : String) (caller : Caller)
  | delete (graphId : String)
  | mintKey (graphId label : String) (timeoutSeconds : Int) (draw : KeyDraw) (caller : Caller)
  | revokeKey (graphId keyId : String)

/-- The graph that a request is about. -/
def GraphRequest.graphId : GraphRequest → String
  | .save graphId _ _ | .update graphId _ | .activate graphId _ _ | .deactivate graphId _
  | .delete graphId | .mintKey graphId _ _ _ _ | .revokeKey graphId _ => graphId

section

variable (hashToken : String → String) (surroundings : Surroundings)

/-- The handling of a request. -/
def graphEndpoint : GraphRequest → GraphRoute GraphAnswer
  | .save graphId request caller => createGraph surroundings graphId request caller
  | .update graphId request => updateGraph surroundings graphId request
  | .activate graphId graph caller => activateGraph surroundings graphId graph caller
  | .deactivate graphId caller => deactivateGraph surroundings graphId caller
  | .delete graphId => deleteGraph graphId
  | .mintKey graphId label timeoutSeconds draw caller =>
    createInvokeKey surroundings hashToken graphId label timeoutSeconds draw caller
  | .revokeKey graphId keyId => deleteInvokeKey graphId keyId

/-- The backend after a request, whether it succeeds or fails. -/
def afterGraphRequest (request : GraphRequest) (backend : GraphBackend) : GraphBackend :=
  Stateful.stateOf ((graphEndpoint hashToken surroundings request).run backend)

end

/-- A backend on which nothing has happened. -/
def GraphBackend.empty : GraphBackend where
  rows := .empty
  slots := .empty
  keys := .empty
  active := .empty
  jobs := []
  routes := []
  webhooks := .empty

/-- The backend after a history of requests, each in surroundings of its own. -/
def afterGraphRequests (hashToken : String → String)
    (history : List (Surroundings × GraphRequest)) (start : GraphBackend) : GraphBackend :=
  history.foldl (fun backend step => afterGraphRequest hashToken step.1 step.2 backend) start

section

variable (hashToken : String → String) (history : List (Surroundings × GraphRequest))
  (start : GraphBackend)

/-- The backend satisfies this at the start and after every request of the history. -/
def EveryState (P : GraphBackend → Prop) : Prop :=
  ∀ first rest, history = first ++ rest → P (afterGraphRequests hashToken first start)

/-- Every request of the history satisfies this in the backend that it finds. -/
def EveryStep (M : Surroundings → GraphBackend → GraphRequest → Prop) : Prop :=
  ∀ first step rest, history = first ++ step :: rest →
    M step.1 (afterGraphRequests hashToken first start) step.2

end

section

variable {hashToken : String → String} {P : GraphBackend → Prop}
  {M : Surroundings → GraphBackend → GraphRequest → Prop}

theorem after_graph_requests_snoc (hashToken : String → String)
    (history : List (Surroundings × GraphRequest)) (step : Surroundings × GraphRequest)
    (start : GraphBackend) :
    afterGraphRequests hashToken (history ++ [step]) start =
      afterGraphRequest hashToken step.1 step.2 (afterGraphRequests hashToken history start) :=
  List.foldl_concat _ _ _ _

theorem every_step_nil (start : GraphBackend) : EveryStep hashToken [] start M := by
  intro first step rest hsplit
  cases first <;> cases hsplit

theorem every_step_cons {step : Surroundings × GraphRequest}
    {history : List (Surroundings × GraphRequest)} {start : GraphBackend}
    (hfirst : M step.1 start step.2)
    (hrest : EveryStep hashToken history (afterGraphRequest hashToken step.1 step.2 start) M) :
    EveryStep hashToken (step :: history) start M := by
  intro first other rest hsplit
  cases first with
  | nil =>
      cases hsplit
      exact hfirst
  | cons head first =>
      obtain ⟨hhead, htail⟩ := List.cons_eq_cons.mp hsplit
      cases hhead
      exact hrest first other rest htail

section

variable {history : List (Surroundings × GraphRequest)} {start : GraphBackend}

theorem mem_of_split {first rest : List (Surroundings × GraphRequest)}
    {step : Surroundings × GraphRequest} (h : history = first ++ step :: rest) :
    step ∈ history := by
  rw [h]
  exact List.mem_append_right _ List.mem_cons_self

/-- What the steps of a history preserve holds after every request. -/
theorem every_state_of_steps
    (hstep : ∀ step ∈ history, ∀ backend, P backend → M step.1 backend step.2 →
      P (afterGraphRequest hashToken step.1 step.2 backend))
    (hstart : P start) (hsteps : EveryStep hashToken history start M) :
    EveryState hashToken history start P := by
  intro first
  induction first using List.reverseRecOn with
  | nil => exact fun _ _ => hstart
  | append_singleton first step ih =>
      intro rest hsplit
      rw [List.append_assoc] at hsplit
      rw [after_graph_requests_snoc]
      exact hstep step (mem_of_split hsplit) _ (ih _ hsplit) (hsteps first step rest hsplit)

/-- A step condition that decides whether a property is preserved by the steps of a history decides
whether it always holds. -/
theorem every_state_iff
    (hstep : ∀ step ∈ history, ∀ backend, P backend →
      (P (afterGraphRequest hashToken step.1 step.2 backend) ↔ M step.1 backend step.2))
    (hstart : P start) :
    EveryState hashToken history start P ↔ EveryStep hashToken history start M := by
  constructor
  · intro h first step rest hsplit
    refine (hstep step (mem_of_split hsplit) _ (h first (step :: rest) hsplit)).mp ?_
    rw [← after_graph_requests_snoc]
    refine h (first ++ [step]) rest ?_
    rw [hsplit, List.append_assoc]
    rfl
  · exact every_state_of_steps (fun step hmem _ hP hM => (hstep step hmem _ hP).mpr hM) hstart

end

end

/-! ## What the endpoints do -/

/-- The backend after what was active under an id is deactivated. -/
def GraphBackend.vacate (backend : GraphBackend) (graphId : String) : GraphBackend :=
  if (backend.active.get? graphId).isSome then backend.deactivate graphId else backend

/-- The backend with other saved graphs. -/
def GraphBackend.setRows (backend : GraphBackend) (rows : GraphsTable) : GraphBackend :=
  { backend with rows }

section

variable (surroundings : Surroundings) (graphId : String) (jobs : List ScheduleJob)
  (graph : GraphSpec) (userId : Option String)

/-- What is told about the triggers of a graph. -/
def graphTriggers : List TriggerRecord :=
  graph.nodes.flatMap (triggerRecords surroundings graphId)

/-- Why the triggers and the webhooks of a graph are not all registered while the scheduler has
these jobs. -/
def registrationFailure : Option HandlerError :=
  (graph.nodes.findSome? (triggerFailure surroundings graphId jobs)).or
    (syncFailure surroundings graph (graphTriggers surroundings graphId graph) userId)

/-- The webhooks of a graph that are registered. A trigger that fails leaves none. -/
def registeredWebhooks : List (String × String) :=
  match graph.nodes.findSome? (triggerFailure surroundings graphId jobs) with
  | some _ => []
  | none => syncedWebhooks surroundings graph (graphTriggers surroundings graphId graph) userId

/-- The backend after the registration of a graph, whether it succeeds or fails. -/
def GraphBackend.registerGraph (backend : GraphBackend) : GraphBackend :=
  (backend.register graphId
    (registeredNodes surroundings graphId backend.jobs graph.nodes)).setWebhooks
      (registeredWebhooks surroundings graphId backend.jobs graph userId)

end

section

variable {surroundings : Surroundings}

theorem deactivate_if_active_run (graphId : String) (backend : GraphBackend) :
    (deactivateIfActive graphId).run backend = .ok () (backend.vacate graphId) := by
  unfold deactivateIfActive GraphBackend.vacate
  show EStateM.run (if (backend.active.get? graphId).isSome then _ else _) backend = _
  split <;> rfl

theorem fail_activation_run (graphId : String) (e : HandlerError) (backend : GraphBackend) :
    (failActivation graphId e).run backend =
      .error e (if e.isHttpException then backend.deactivate graphId else backend) := by
  unfold failActivation
  cases e <;> rfl

/-- A graph is registered up to the first failure. -/
theorem register_graph_run (graphId : String) (graph : GraphSpec) (userId : Option String)
    (backend : GraphBackend) :
    (registerGraph surroundings graphId graph userId).run backend =
      Stateful.ended (registrationFailure surroundings graphId backend.jobs graph userId)
        (graphTriggers surroundings graphId graph)
        (backend.registerGraph surroundings graphId graph userId) := by
  unfold registerGraph registerTriggers registrationFailure GraphBackend.registerGraph
    registeredWebhooks
  rw [Stateful.run_bind_ended (register_nodes_run graph.nodupIds)]
  cases graph.nodes.findSome? (triggerFailure surroundings graphId backend.jobs) with
  | some e => rfl
  | none =>
      dsimp only
      rw [Stateful.run_bind_ended (sync_webhooks_on_activate_run _ _ _ _)]
      unfold graphTriggers
      rw [Option.none_or]
      cases syncFailure surroundings graph _ userId with
      | some e => rfl
      | none => rfl

/-- The graph is in the registry before its spec is stored. -/
theorem finish_activation_run (graphId : String) (active : ActiveGraph) (backend : GraphBackend) :
    (finishActivation surroundings graphId active).run backend =
      match surroundings.dump active.graph with
      | .error e => .error (.exception e) (backend.setActive graphId active)
      | .ok specJson => .ok (.activated active.triggers)
          ((backend.setActive graphId active).setRows
            (backend.rows.setActiveState graphId specJson true surroundings.now)) := by
  unfold finishActivation
  cases surroundings.dump active.graph with
  | error e => rfl
  | ok specJson => rfl

/-- How an activation goes. -/
theorem activate_graph_run (graphId : String) (graph : GraphSpec) (caller : Caller)
    (backend : GraphBackend) :
    (activateGraph surroundings graphId graph caller).run backend =
      match validateForActivation surroundings graph (callerUserId caller) with
      | .error e => .error e backend
      | .ok () =>
        let vacant := backend.vacate graphId
        let after := vacant.registerGraph surroundings graphId graph (callerUserId caller)
        match registrationFailure surroundings graphId vacant.jobs graph (callerUserId caller) with
        | some e => .error e (if e.isHttpException then after.deactivate graphId else after)
        | none => (finishActivation surroundings graphId
            ⟨graph, graphTriggers surroundings graphId graph, callerUserId caller⟩).run after := by
  unfold activateGraph
  rw [EStateM.run_bind]
  cases validateForActivation surroundings graph (callerUserId caller) with
  | error e => rfl
  | ok _ =>
      show EStateM.run (deactivateIfActive graphId >>= _) backend = _
      rw [EStateM.run_bind, deactivate_if_active_run]
      dsimp only
      rw [EStateM.run_bind, Stateful.run_attempt, register_graph_run]
      cases registrationFailure surroundings graphId (backend.vacate graphId).jobs graph
        (callerUserId caller) with
      | some e => exact fail_activation_run graphId e _
      | none => rfl

/-- A deactivation removes the graph, unless clearing its webhooks fails. -/
theorem deactivate_graph_run (graphId : String) (caller : Caller) (backend : GraphBackend) :
    (deactivateGraph surroundings graphId caller).run backend =
      match backend.active.get? graphId with
      | none => .error (.http ⟨404, s!"Graph '{graphId}' is not active"⟩) backend
      | some active =>
        let cleared := backend.clearWebhooks
          (removedWebhooks surroundings active.graph (callerUserId caller))
        Stateful.ended (removalFailure surroundings active.graph (callerUserId caller)) .deactivated
          (match removalFailure surroundings active.graph (callerUserId caller) with
            | some _ => cleared
            | none => (cleared.deactivate graphId).setRows
                (backend.rows.setIsActive graphId false surroundings.now)) := by
  unfold deactivateGraph
  show EStateM.run (match backend.active.get? graphId with | none => _ | some active => _) backend
    = _
  cases backend.active.get? graphId with
  | none => rfl
  | some active =>
      dsimp only
      rw [Stateful.run_bind_ended (sync_webhooks_on_deactivate_run _ _ _)]
      cases removalFailure surroundings active.graph (callerUserId caller) <;> rfl

/-- A deletion removes the graph and its row, also if there is no row. -/
theorem delete_graph_run (graphId : String) (backend : GraphBackend) :
    (deleteGraph graphId).run backend =
      let after := (backend.vacate graphId).setRows (backend.rows.erase graphId)
      if (backend.rows.get? graphId).isSome then
        .ok .noContent { after with slots := after.slots.erase graphId }
      else .error (.http ⟨404, s!"Graph '{graphId}' not found"⟩) after := by
  have hrows : (backend.vacate graphId).rows = backend.rows := by
    unfold GraphBackend.vacate
    split <;> rfl
  unfold deleteGraph
  rw [EStateM.run_bind, deactivate_if_active_run]
  show EStateM.run (if ((backend.vacate graphId).rows.get? graphId).isSome then _ else _)
    ((backend.vacate graphId).setRows ((backend.vacate graphId).rows.erase graphId)) = _
  rw [hrows]
  split <;> rfl

end

/-- How the re-activation of a persisted graph goes. -/
theorem reactivate_graph_run {surroundings : Surroundings} (graphId : String) (row : StoredGraph)
    (backend : GraphBackend) :
    (reactivateGraph surroundings graphId row).run backend =
      match surroundings.load row.specJson with
      | .error e => .error (.exception e) backend
      | .ok graph =>
        match validateForActivation surroundings graph row.createdBy with
        | .error e => .error e backend
        | .ok () =>
          let after := backend.register graphId
            (registeredNodes surroundings graphId backend.jobs graph.nodes)
          match graph.nodes.findSome? (triggerFailure surroundings graphId backend.jobs) with
          | some e => .error e after
          | none => .ok () (after.setActive graphId
              ⟨graph, graphTriggers surroundings graphId graph, row.createdBy⟩) := by
  unfold reactivateGraph
  rw [EStateM.run_bind]
  cases surroundings.load row.specJson with
  | error e => rfl
  | ok graph =>
      show EStateM.run (Stateful.ofExcept (validateForActivation surroundings graph row.createdBy)
        >>= _) backend = _
      rw [EStateM.run_bind]
      dsimp only
      cases validateForActivation surroundings graph row.createdBy with
      | error e => rfl
      | ok _ =>
          show EStateM.run (registerTriggers surroundings graphId graph >>= _) backend = _
          unfold registerTriggers
          rw [Stateful.run_bind_ended (register_nodes_run graph.nodupIds)]
          dsimp only
          cases graph.nodes.findSome? (triggerFailure surroundings graphId backend.jobs) <;> rfl

/-- A deactivation leaves the tables and the external webhooks alone. -/
theorem vacate_eq (backend : GraphBackend) (graphId : String) :
    ∃ jobs routes, backend.vacate graphId =
      { backend with jobs, routes, active := backend.active.erase graphId } := by
  unfold GraphBackend.vacate
  split
  · exact ⟨_, _, rfl⟩
  · rename_i hinactive
    refine ⟨backend.jobs, backend.routes, ?_⟩
    rw [Dict.erase_of_notMem]
    exact fun hmem => hinactive (Dict.get?_isSome_iff.mpr hmem)

/-- No other graph is deactivated. -/
theorem vacate_active (backend : GraphBackend) (graphId : String) :
    (backend.vacate graphId).active = backend.active.erase graphId := by
  obtain ⟨jobs, routes, hvacate⟩ := vacate_eq backend graphId
  rw [hvacate]

/-- A deactivation keeps the saved graphs. -/
theorem vacate_rows (backend : GraphBackend) (graphId : String) :
    (backend.vacate graphId).rows = backend.rows := by
  obtain ⟨jobs, routes, hvacate⟩ := vacate_eq backend graphId
  rw [hvacate]

/-- A deactivation of its triggers keeps the external webhooks of a graph. -/
theorem vacate_webhooks (backend : GraphBackend) (graphId : String) :
    (backend.vacate graphId).webhooks = backend.webhooks := by
  obtain ⟨jobs, routes, hvacate⟩ := vacate_eq backend graphId
  rw [hvacate]

/-- What an activation does to the registry, to the rows and to the external webhooks. -/
theorem activate_graph_tables {surroundings : Surroundings} {backend : GraphBackend}
    (graphId : String) (graph : GraphSpec) (caller : Caller) {after : GraphBackend}
    (hafter : Stateful.stateOf
      ((activateGraph surroundings graphId graph caller).run backend) = after) :
    ((∃ e, validateForActivation surroundings graph (callerUserId caller) = .error e) ∧
      after = backend) ∨
    validateForActivation surroundings graph (callerUserId caller) = .ok () ∧
      after.webhooks = backend.webhooks.update (registeredWebhooks surroundings graphId
        (backend.vacate graphId).jobs graph (callerUserId caller)) ∧
      let failure := registrationFailure surroundings graphId (backend.vacate graphId).jobs graph
        (callerUserId caller)
      let active : ActiveGraph :=
        ⟨graph, graphTriggers surroundings graphId graph, callerUserId caller⟩
      ((∃ e, failure = some e) ∧ after.active = backend.active.erase graphId ∧
        after.rows = backend.rows) ∨
      failure = none ∧ after.active = (backend.active.erase graphId).set graphId active ∧
        ((∃ e, surroundings.dump graph = .error e) ∧ after.rows = backend.rows ∨
          ∃ text, surroundings.dump graph = .ok text ∧
            after.rows = backend.rows.setActiveState graphId text true surroundings.now) := by
  have hregistered : ∀ active, ((backend.vacate graphId).registerGraph surroundings graphId
      graph (callerUserId caller)).active.set graphId active =
      (backend.active.erase graphId).set graphId active := by
    intro active
    show (backend.vacate graphId).active.set graphId active = _
    rw [vacate_active]
  have hrows : ((backend.vacate graphId).registerGraph surroundings graphId graph
      (callerUserId caller)).rows = backend.rows :=
    vacate_rows backend graphId
  have hwebhooks : ((backend.vacate graphId).registerGraph surroundings graphId graph
      (callerUserId caller)).webhooks = backend.webhooks.update (registeredWebhooks surroundings
        graphId (backend.vacate graphId).jobs graph (callerUserId caller)) := by
    show (backend.vacate graphId).webhooks.update _ = _
    rw [vacate_webhooks]
  rw [activate_graph_run] at hafter
  subst hafter
  cases validateForActivation surroundings graph (callerUserId caller) with
  | error e => exact .inl ⟨⟨e, rfl⟩, rfl⟩
  | ok _ =>
      refine .inr ⟨rfl, ?_⟩
      dsimp only
      -- A trigger that cannot be registered leaves the graph inactive and its row as it was.
      cases registrationFailure surroundings graphId (backend.vacate graphId).jobs graph
        (callerUserId caller) with
      | some e =>
          dsimp only
          split
          · refine ⟨hwebhooks, .inl ⟨⟨e, rfl⟩, ?_, hrows⟩⟩
            show (backend.vacate graphId).active.erase graphId = _
            rw [vacate_active, Dict.erase_of_notMem]
            exact Dict.get?_eq_none_iff.mp (Dict.get?_erase_self _ _)
          · exact ⟨hwebhooks, .inl ⟨⟨e, rfl⟩, vacate_active backend graphId, hrows⟩⟩
      | none =>
          dsimp only
          rw [finish_activation_run]
          cases surroundings.dump graph with
          | error e => exact ⟨hwebhooks, .inr ⟨rfl, hregistered _, .inl ⟨⟨e, rfl⟩, hrows⟩⟩⟩
          | ok text =>
              refine ⟨hwebhooks, .inr ⟨rfl, hregistered _, .inr ⟨text, rfl, ?_⟩⟩⟩
              show GraphsTable.setActiveState (GraphBackend.rows _) graphId text true _ = _
              rw [hrows]

/-! ## What requests leave alone -/

section

variable {τ : Type} {view : GraphBackend → τ} {surroundings : Surroundings}

/-- The view leaves out what activations and deactivations change. -/
def LeavesOutActivation (view : GraphBackend → τ) : Prop :=
  ∀ backend rows active jobs routes webhooks,
    view { backend with rows, active, jobs, routes, webhooks } = view backend

theorem register_graph_frame (hview : LeavesOutActivation view) (graphId : String)
    (graph : GraphSpec) (userId : Option String) :
    Stateful.Frame view (registerGraph surroundings graphId graph userId) := by
  have hjobs : ∀ backend jobs, view { backend with jobs } = view backend :=
    fun backend jobs => hview backend _ _ jobs _ _
  have hroutes : ∀ backend routes, view { backend with routes } = view backend :=
    fun backend routes => hview backend _ _ _ routes _
  have hwebhooks : ∀ backend webhooks, view { backend with webhooks } = view backend :=
    fun backend webhooks => hview backend _ _ _ _ webhooks
  exact Stateful.frame_bind (register_nodes_frame hjobs hroutes _ _) fun _ =>
    Stateful.frame_bind (sync_webhooks_on_activate_frame hwebhooks _ _ _) fun _ =>
      Stateful.frame_pure _

theorem deactivate_if_active_frame (hview : LeavesOutActivation view) (graphId : String) :
    Stateful.Frame view (deactivateIfActive graphId) := by
  intro backend
  obtain ⟨jobs, routes, hvacate⟩ := vacate_eq backend graphId
  rw [deactivate_if_active_run, hvacate]
  exact hview backend _ _ jobs routes _

/-- An activation only changes the saved graphs, the registry, the jobs, the routes and the
webhooks. -/
theorem activate_graph_frame (hview : LeavesOutActivation view) (graphId : String)
    (graph : GraphSpec) (caller : Caller) :
    Stateful.Frame view (activateGraph surroundings graphId graph caller) := by
  unfold activateGraph
  refine Stateful.frame_bind (Stateful.frame_ofExcept _) fun _ =>
    Stateful.frame_bind (deactivate_if_active_frame hview graphId) fun _ =>
    Stateful.frame_bind (Stateful.frame_attempt (register_graph_frame hview _ _ _))
      fun outcome => ?_
  cases outcome with
  | error e =>
      intro backend
      rw [fail_activation_run]
      show view (if _ then _ else _) = _
      split
      · exact hview backend _ _ _ _ _
      · rfl
  | ok triggers =>
      exact Stateful.frame_bind (Stateful.frame_modify fun backend => hview backend _ _ _ _ _)
        fun _ => Stateful.frame_bind (Stateful.frame_ofExcept _) fun _ =>
        Stateful.frame_bind (Stateful.frame_modify fun backend => hview backend _ _ _ _ _) fun _ =>
        Stateful.frame_pure _

/-- So does a deactivation. -/
theorem deactivate_graph_frame (hview : LeavesOutActivation view) (graphId : String)
    (caller : Caller) : Stateful.Frame view (deactivateGraph surroundings graphId caller) := by
  have hwebhooks : ∀ backend webhooks, view { backend with webhooks } = view backend :=
    fun backend webhooks => hview backend _ _ _ _ webhooks
  unfold deactivateGraph
  refine Stateful.frame_bind Stateful.frame_get fun backend => ?_
  split
  · exact Stateful.frame_throw _
  · exact Stateful.frame_bind (sync_webhooks_on_deactivate_frame hwebhooks _ _) fun _ =>
      Stateful.frame_bind (Stateful.frame_modify fun backend => hview backend _ _ _ _ _) fun _ =>
      Stateful.frame_bind (Stateful.frame_modify fun backend => hview backend _ _ _ _ _) fun _ =>
      Stateful.frame_pure _

/-- A deletion changes the slots, too. -/
theorem delete_graph_frame (hview : LeavesOutActivation view)
    (hslots : ∀ backend slots, view { backend with slots } = view backend) (graphId : String) :
    Stateful.Frame view (deleteGraph graphId) := by
  unfold deleteGraph
  refine Stateful.frame_bind (deactivate_if_active_frame hview graphId) fun _ =>
    Stateful.frame_bind Stateful.frame_get fun _ =>
    Stateful.frame_bind (Stateful.frame_modify fun backend => hview backend _ _ _ _ _) fun _ => ?_
  split
  · exact Stateful.frame_bind (Stateful.frame_modify fun _ => hslots _ _) fun _ =>
      Stateful.frame_pure _
  · exact Stateful.frame_throw _

theorem set_slots_frame (hslots : ∀ backend slots, view { backend with slots } = view backend)
    (graphId : String) (slots : List SlotRow) :
    Stateful.Frame view (setSlots graphId slots) := by
  unfold setSlots
  split
  · exact Stateful.frame_modify fun _ => hslots _ _
  · exact Stateful.frame_throw _

/-- Saving a graph only changes the saved graphs and their slots. -/
theorem create_graph_frame (hrows : ∀ backend rows, view { backend with rows } = view backend)
    (hslots : ∀ backend slots, view { backend with slots } = view backend) (graphId : String)
    (request : CreateGraphRequest) (caller : Caller) :
    Stateful.Frame view (createGraph surroundings graphId request caller) := by
  unfold createGraph
  refine Stateful.frame_bind (Stateful.frame_ofExcept _) fun _ =>
    Stateful.frame_bind Stateful.frame_get fun _ =>
    Stateful.frame_bind (Stateful.frame_ofExcept _) fun _ =>
    Stateful.frame_bind (Stateful.frame_modify fun _ => hrows _ _) fun _ => ?_
  split
  · exact Stateful.frame_bind (set_slots_frame hslots _ _) fun _ => Stateful.frame_pure _
  · exact Stateful.frame_pure _

theorem update_slots_frame (hslots : ∀ backend slots, view { backend with slots } = view backend)
    (graphId sharing : String) (declared : Option (List SlotRow)) :
    Stateful.Frame view (updateSlots graphId sharing declared) := by
  have hclear : Stateful.Frame view (clearSlots graphId) :=
    Stateful.frame_modify fun _ => hslots _ _
  unfold updateSlots
  split
  · split
    · exact set_slots_frame hslots _ _
    · split
      · exact hclear
      · exact Stateful.frame_pure _
  · split
    · exact hclear
    · exact Stateful.frame_pure _

/-- So does changing a graph. -/
theorem update_graph_frame (hrows : ∀ backend rows, view { backend with rows } = view backend)
    (hslots : ∀ backend slots, view { backend with slots } = view backend) (graphId : String)
    (request : UpdateGraphRequest) :
    Stateful.Frame view (updateGraph surroundings graphId request) := by
  unfold updateGraph
  refine Stateful.frame_bind (Stateful.frame_ofExcept _) fun _ =>
    Stateful.frame_bind Stateful.frame_get fun _ => ?_
  split
  · exact Stateful.frame_throw _
  · exact Stateful.frame_bind (Stateful.frame_modify fun _ => hrows _ _) fun _ =>
      Stateful.frame_bind (update_slots_frame hslots _ _ _) fun _ =>
      Stateful.frame_bind (Stateful.frame_ofExcept _) fun _ =>
      Stateful.frame_bind Stateful.frame_get fun _ => Stateful.frame_pure _

/-- Minting a key only changes the keys. -/
theorem create_invoke_key_frame
    (hkeys : ∀ backend keys, view { backend with keys } = view backend)
    (hashToken : String → String) (graphId label : String) (timeoutSeconds : Int)
    (draw : KeyDraw) (caller : Caller) :
    Stateful.Frame view
      (createInvokeKey surroundings hashToken graphId label timeoutSeconds draw caller) := by
  unfold createInvokeKey
  refine Stateful.frame_bind Stateful.frame_get fun _ => ?_
  split
  · exact Stateful.frame_throw _
  · split
    · exact Stateful.frame_throw _
    · exact Stateful.frame_bind Stateful.frame_get fun _ =>
        Stateful.frame_bind (Stateful.frame_ofExcept _) fun _ =>
        Stateful.frame_bind (Stateful.frame_modify fun _ => hkeys _ _) fun _ =>
        Stateful.frame_pure _

/-- So does revoking one. -/
theorem delete_invoke_key_frame
    (hkeys : ∀ backend keys, view { backend with keys } = view backend) (graphId keyId : String) :
    Stateful.Frame view (deleteInvokeKey graphId keyId) := by
  unfold deleteInvokeKey
  refine Stateful.frame_bind Stateful.frame_get fun _ =>
    Stateful.frame_bind (Stateful.frame_modify fun _ => hkeys _ _) fun _ => ?_
  split
  · exact Stateful.frame_pure _
  · exact Stateful.frame_throw _

end

/-! ## What saving writes -/

section

variable {surroundings : Surroundings} {backend : GraphBackend}

/-- A new graph is stored inactive, under an id that has no row. -/
theorem create_graph_rows (graphId : String) (request : CreateGraphRequest) (caller : Caller) :
    (Stateful.stateOf ((createGraph surroundings graphId request caller).run backend)).rows =
        backend.rows ∨
      ∃ row, backend.rows.get? graphId = none ∧ row.isActive = false ∧
        (Stateful.stateOf ((createGraph surroundings graphId request caller).run backend)).rows =
          backend.rows.set graphId row := by
  unfold createGraph
  cases surroundings.dump request.spec with
  | error e => exact .inl rfl
  | ok specJson =>
      cases hcreated : backend.rows.createGraph graphId request.name specJson surroundings.now
        (callerUserId caller) request.sharing with
      | error e =>
          left
          show (Stateful.stateOf (EStateM.run (Stateful.ofExcept
            ((backend.rows.createGraph graphId request.name specJson surroundings.now
              (callerUserId caller) request.sharing).mapError _) >>= _) backend)).rows = _
          rw [hcreated]
          rfl
      | ok created =>
          obtain ⟨row, rows⟩ := created
          obtain ⟨hnew, hinactive, _, _, rfl⟩ := GraphsTable.create_graph_ok hcreated
          refine .inr ⟨row, hnew, hinactive, ?_⟩
          show (Stateful.stateOf (EStateM.run (Stateful.ofExcept
            ((backend.rows.createGraph graphId request.name specJson surroundings.now
              (callerUserId caller) request.sharing).mapError _) >>= _) backend)).rows = _
          rw [hcreated]
          show (Stateful.stateOf (EStateM.run (if request.sharing = "shared" then _ else _)
            (backend.setRows (backend.rows.set graphId row)))).rows = _
          split
          · exact (show Stateful.Frame GraphBackend.rows _ from Stateful.frame_bind
              (set_slots_frame (fun _ _ => rfl) _ _) fun _ => Stateful.frame_pure _) _
          · rfl

/-- A change keeps the activation state and the creator of the row, and its spec unless there is a
new one. -/
theorem update_graph_rows (graphId : String) (request : UpdateGraphRequest) :
    (Stateful.stateOf ((updateGraph surroundings graphId request).run backend)).rows =
        backend.rows ∨
      ∃ existing row given, backend.rows.get? graphId = some existing ∧
        row.isActive = existing.isActive ∧ row.createdBy = existing.createdBy ∧
        dumpGiven surroundings request.spec = .ok given ∧
        row.specJson = given.getD existing.specJson ∧
        (Stateful.stateOf ((updateGraph surroundings graphId request).run backend)).rows =
          backend.rows.set graphId row := by
  unfold updateGraph
  cases dumpGiven surroundings request.spec with
  | error e => exact .inl rfl
  | ok specJson =>
      -- A row that is not found stays so, and the request is answered with 404.
      cases hupdated : backend.rows.updateGraph graphId surroundings.now request.name specJson
        request.sharing with
      | none =>
          left
          show (Stateful.stateOf (EStateM.run (match backend.rows.updateGraph graphId
            surroundings.now request.name specJson request.sharing with
            | none => _ | some (row, rows) => _) backend)).rows = _
          rw [hupdated]
          rfl
      | some updated =>
          obtain ⟨row, rows⟩ := updated
          obtain ⟨existing, hexisting, hactive, hspec, hcreator, rfl⟩ :=
            GraphsTable.update_graph_eq_some hupdated
          refine .inr ⟨existing, row, specJson, hexisting, hactive, hcreator, rfl, hspec, ?_⟩
          show (Stateful.stateOf (EStateM.run (match backend.rows.updateGraph graphId
            surroundings.now request.name specJson request.sharing with
            | none => _ | some (row, rows) => _) backend)).rows = _
          rw [hupdated]
          exact (show Stateful.Frame GraphBackend.rows _ from Stateful.frame_bind
            (update_slots_frame (fun _ _ => rfl) _ _ _) fun _ =>
              Stateful.frame_bind (Stateful.frame_ofExcept _) fun _ =>
              Stateful.frame_bind Stateful.frame_get fun _ => Stateful.frame_pure _)
            (backend.setRows (backend.rows.set graphId row))

end

/-! ## Plain surroundings -/

/-- The text of a node whose settings are texts. -/
def nodeText (node : NodeSpec) : String :=
  "\x7b\"id\":\"" ++ node.id ++ "\",\"type\":\"" ++ node.type ++ "\",\"config\":\x7b" ++
    ",".intercalate (node.config.entries.map fun entry =>
      "\"" ++ entry.1 ++ "\":" ++ plainPython.jsonDumps entry.2) ++
        "\x7d,\"input_values\":\x7b\x7d\x7d"

/-- The text of an edge. -/
def edgeText : EdgeSpec → String
  | .data edge =>
    "\x7b\"kind\":\"data\",\"from_\":\x7b\"node\":\"" ++ edge.fromNode ++ "\",\"slot\":\"" ++
      edge.fromSlot ++ "\"\x7d,\"to\":\x7b\"node\":\"" ++ edge.toNode ++ "\",\"slot\":\"" ++
      edge.toSlot ++ "\"\x7d,\"slot\":null\x7d"
  | .subNode edge =>
    "\x7b\"kind\":\"sub_node\",\"from_\":\x7b\"node\":\"" ++ edge.fromNode ++
      "\",\"slot\":null\x7d,\"to\":\x7b\"node\":\"" ++ edge.toNode ++
      "\",\"slot\":null\x7d,\"slot\":\"" ++ edge.slot ++ "\"\x7d"

/-- The text of a graph of such nodes. -/
def graphText (graph : GraphSpec) : String :=
  "\x7b\"version\":\"" ++ graph.version ++ "\",\"nodes\":[" ++
    ",".intercalate (graph.nodes.map nodeText) ++ "],\"edges\":[" ++
    ",".intercalate (graph.edges.map edgeText) ++ "]\x7d"

/-- A graph whose one node fires every minute, if its cron expression is `* * * * *`. -/
def cronGraph (nodeId cron : String) : GraphSpec where
  version := "1.0"
  nodes := [{ id := nodeId, type := "schedule_trigger", config := .ofList [("cron", .str cron)] }]
  edges := []
  nodupIds := List.nodup_singleton _

/-- A graph that Telegram calls through a bot. -/
def botGraph : GraphSpec where
  version := "1.0"
  nodes := [
    { id := "bot", type := "telegram_adapter"
      config := .ofList [("bot_token_connection", .str "bot")] },
    { id := "in", type := "webhook_trigger" }]
  edges := [.subNode ⟨"bot", "in", "trigger_adapter"⟩]
  nodupIds := by decide

/-- A process in which everything answers: the built-in node types, one connection to a bot, a
scheduler that knows one cron expression, and a store that reads back the graph above. -/
def plainSurroundings : Surroundings where
  registry := processRegistry plainPython (fun _ _ => none) []
  connectionTypes := .ofList [("telegram",
    { configModel := readable fun config => config.required "bot_token" Json.str? })]
  store := .ok [⟨"bot", "telegram", .ofList [("bot_token", .str "123:abc")], none⟩]
  resolutionStore := .ok [⟨"bot", "telegram", .ofList [("bot_token", .str "123:abc")], none⟩]
  cronError cron :=
    if cron = "* * * * *" then none else some "Wrong number of fields; got 1, expected 5"
  routeError _ := none
  apiKey := some "shared"
  publicBaseUrl := .ok (some "https://studio.example")
  telegram _ _ _ := .ok ()
  dump graph := .ok (graphText graph)
  load text :=
    if text = graphText botGraph then .ok botGraph
    else if text = graphText (cronGraph "tick" "* * * * *") then .ok (cronGraph "tick" "* * * * *")
    else .error "1 validation error for GraphSpec"
  repr := plainPython.repr
  now := "2026-01-01T00:00:00Z"

end AgentGraphStudio
