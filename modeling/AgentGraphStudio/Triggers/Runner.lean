import AgentGraphStudio.Api.ActivationAtomicity

/-!
# Firing a trigger

`fire` of `backend/triggers/runner.py`, which a job of the scheduler and the route of a webhook
call. It finds the graph in the registry when it is called, so a job or a route is of use only as
long as its graph is registered. `triggers_fire_activated` says when every job and every route is,
and what a run is that they start.
-/

namespace AgentGraphStudio

/-! ## The runner -/

/-- Why no run is started. -/
inductive FireError where
  | graphNotActive (graphId : String)
  | unreadable (message : String)
  | unresolved (error : ResolveError)

/-- A run that is started in a thread of its own. -/
structure FiredRun where
  runId : String
  graphId : String
  triggerSource : String
  graph : GraphSpec
  resources : Resources

section

variable (connectionTypes : ConnectionRegistry) (store : Except String ConnectionStore)
  (runId : String) (backend : GraphBackend)

/-- The resources of a run of an active graph. The connections are read only if there are any. -/
def firedResources (active : ActiveGraph) : Except FireError Resources :=
  match store with
  | .ok store =>
    (submittedResources connectionTypes store active.graph active.createdBy .empty).mapError
      .unresolved
  | .error e =>
    if referencedConnectionNames active.graph = [] then
      .ok { runningUserId := active.createdBy }
    else .error (.unreadable e)

/-- Start a run of the graph that is active under an id. -/
def fire (graphId nodeId : String) (payload : Option Json) (triggerSource : String) :
    Except FireError FiredRun :=
  match backend.active.get? graphId with
  | none => .error (.graphNotActive graphId)
  | some active => do
    let resources ← firedResources connectionTypes store active
    pure
      { runId, graphId, triggerSource, graph := active.graph
        resources := match payload with
          | none => resources
          | some payload =>
            { resources with triggerPayloads := Dict.empty.set nodeId payload } }

/-- A tick of a job. -/
def ScheduleJob.fire (job : ScheduleJob) : Except FireError FiredRun :=
  AgentGraphStudio.fire connectionTypes store runId backend job.graphId job.nodeId none "schedule"

/-- A call of a route. -/
def WebhookRoute.fire (route : WebhookRoute) (payload : Json) : Except FireError FiredRun :=
  AgentGraphStudio.fire connectionTypes store runId backend route.graphId route.nodeId
    (some payload) "webhook"

/-- The answer to a call of a route. Only an inactive graph is told to the caller. -/
def WebhookRoute.handle (route : WebhookRoute) (payload : Json) : Except HandlerError String :=
  match route.fire connectionTypes store runId backend payload with
  | .ok run => .ok run.runId
  | .error (.graphNotActive graphId) =>
    .error (.http ⟨404, s!"Graph '{graphId}' is not currently active"⟩)
  | .error (.unreadable e) => .error (.exception e)
  | .error (.unresolved e) => .error (.exception (match resolutionFailure e with
    | .connectionNotFound message | .other message => message))

end

/-! ## Jobs and routes of active graphs -/

/-- Every job and every route is that of a trigger node of the graph that is active under its id. -/
structure GraphBackend.Served (backend : GraphBackend) : Prop where
  jobs : ∀ job ∈ backend.jobs, ∃ active node, backend.active.get? job.graphId = some active ∧
    node ∈ active.graph.nodes ∧ job ∈ triggerJobs job.graphId node
  routes : ∀ route ∈ backend.routes, ∃ active node,
    backend.active.get? route.graphId = some active ∧ node ∈ active.graph.nodes ∧
      route ∈ triggerRoutes route.graphId node

/-- The request is an activation that fails after it registered a trigger, and not with an
`HTTPException`. -/
def LeavesTriggers (surroundings : Surroundings) (backend : GraphBackend) : GraphRequest → Prop
  | .activate graphId graph caller =>
    validateForActivation surroundings graph (callerUserId caller) = .ok () ∧
      ∃ e, registrationFailure surroundings graphId (backend.vacate graphId).jobs graph
          (callerUserId caller) = some e ∧ e.isHttpException = false ∧
        ∃ node ∈ registeredNodes surroundings graphId (backend.vacate graphId).jobs graph.nodes,
          node.IsTrigger
  | _ => False

section

variable {hashToken : String → String} {surroundings : Surroundings}
  {backend after : GraphBackend} {graphId : String}

theorem empty_served : GraphBackend.empty.Served :=
  ⟨fun _ hjob => (List.not_mem_nil hjob).elim, fun _ hroute => (List.not_mem_nil hroute).elim⟩

/-- Only the jobs, the routes and the registry count. -/
theorem served_congr (h : backend.Served) (hjobs : after.jobs = backend.jobs)
    (hroutes : after.routes = backend.routes) (hactive : after.active = backend.active) :
    after.Served := by
  constructor
  · rw [hjobs, hactive]
    exact h.jobs
  · rw [hroutes, hactive]
    exact h.routes

/-- Fewer jobs and routes are served when the graphs that are gone have none of them. -/
theorem served_of_subset (h : backend.Served) (hjobs : ∀ job ∈ after.jobs, job ∈ backend.jobs)
    (hroutes : ∀ route ∈ after.routes, route ∈ backend.routes)
    (hactive : after.active = backend.active.erase graphId)
    (hnothing : after.NothingRegistered graphId) : after.Served := by
  constructor
  · intro job hjob
    rw [hactive, Dict.get?_erase_of_ne _ (hnothing.jobs job hjob)]
    exact h.jobs job (hjobs job hjob)
  · intro route hroute
    rw [hactive, Dict.get?_erase_of_ne _ (hnothing.routes route hroute)]
    exact h.routes route (hroutes route hroute)

/-- A deactivation keeps the triggers of other graphs served. -/
theorem deactivate_served (h : backend.Served) (graphId : String) :
    (backend.deactivate graphId).Served :=
  served_of_subset h (fun _ hjob => (List.mem_filter.mp hjob).1)
    (fun _ hroute => (List.mem_filter.mp hroute).1) rfl (deactivate_nothing_registered _ _)

/-- A graph that is not active has no job and no route. -/
theorem nothing_registered_of_served (h : backend.Served)
    (hinactive : backend.active.get? graphId = none) : backend.NothingRegistered graphId := by
  refine ⟨fun job hjob hown => ?_, fun route hroute hown => ?_, hinactive⟩
  · obtain ⟨active, node, hactive, -⟩ := h.jobs job hjob
    rw [hown, hinactive] at hactive
    cases hactive
  · obtain ⟨active, node, hactive, -⟩ := h.routes route hroute
    rw [hown, hinactive] at hactive
    cases hactive

/-- Where a graph was deactivated if it was active, nothing of it is registered. -/
theorem vacate_served (h : backend.Served) (graphId : String) :
    (backend.vacate graphId).Served ∧ (backend.vacate graphId).NothingRegistered graphId := by
  unfold GraphBackend.vacate
  split
  · exact ⟨deactivate_served h graphId, deactivate_nothing_registered _ _⟩
  · rename_i hinactive
    exact ⟨h, nothing_registered_of_served h (Option.not_isSome_iff_eq_none.mp hinactive)⟩

theorem triggerJobs_own {job : ScheduleJob} {node : NodeSpec} (h : job ∈ triggerJobs graphId node) :
    job.graphId = graphId ∧ job.nodeId = node.id ∧ node.type = "schedule_trigger" := by
  unfold triggerJobs at h
  split at h
  · cases List.mem_singleton.mp h
    exact ⟨rfl, rfl, ‹_›⟩
  · cases h

theorem triggerRoutes_own {route : WebhookRoute} {node : NodeSpec}
    (h : route ∈ triggerRoutes graphId node) :
    route.graphId = graphId ∧ route.nodeId = node.id ∧ node.type = "webhook_trigger" := by
  unfold triggerRoutes at h
  split at h
  · cases List.mem_singleton.mp h
    exact ⟨rfl, rfl, ‹_›⟩
  · cases h

/-- The triggers of a graph are served once the graph is in the registry. -/
theorem register_served (h : backend.Served) {active : ActiveGraph} {nodes : List NodeSpec}
    (hnothing : backend.NothingRegistered graphId)
    (hnodes : ∀ node ∈ nodes, node ∈ active.graph.nodes) :
    ((backend.register graphId nodes).setActive graphId active).Served := by
  have hown : (backend.active.set graphId active).get? graphId = some active :=
    Dict.get?_set_self _ _ _
  constructor
  · intro job hjob
    show ∃ active' node, (backend.active.set graphId active).get? job.graphId = some active' ∧ _
    rcases List.mem_append.mp hjob with hjob | hjob
    · rw [Dict.get?_set_of_ne _ _ (hnothing.jobs job hjob)]
      exact h.jobs job hjob
    · obtain ⟨node, hnode, hjob⟩ := List.mem_flatMap.mp hjob
      rw [(triggerJobs_own hjob).1]
      exact ⟨active, node, hown, hnodes node hnode, hjob⟩
  · intro route hroute
    show ∃ active' node, (backend.active.set graphId active).get? route.graphId = some active' ∧ _
    rcases List.mem_append.mp hroute with hroute | hroute
    · rw [Dict.get?_set_of_ne _ _ (hnothing.routes route hroute)]
      exact h.routes route hroute
    · obtain ⟨node, hnode, hroute⟩ := List.mem_flatMap.mp hroute
      rw [(triggerRoutes_own hroute).1]
      exact ⟨active, node, hown, hnodes node hnode, hroute⟩

/-- A registration that is left half-way is served only if it reached no trigger. -/
theorem register_unserved_iff (h : backend.Served) (hnothing : backend.NothingRegistered graphId)
    (nodes : List NodeSpec) :
    (backend.register graphId nodes).Served ↔ ∀ node ∈ nodes, ¬ node.IsTrigger := by
  constructor
  · intro hafter
    have hregistered := nothing_registered_of_served hafter hnothing.active
    exact ((register_nothing_registered_iff nodes).mp hregistered).2
  · intro hnodes
    have hregistered := (register_nothing_registered_iff nodes).mpr ⟨hnothing, hnodes⟩
    refine served_of_subset h (fun job hjob => ?_) (fun route hroute => ?_)
      (Dict.erase_of_notMem (Dict.get?_eq_none_iff.mp hnothing.active)).symm hregistered
    · rcases List.mem_append.mp hjob with hold | hnew
      · exact hold
      · obtain ⟨node, -, hjob⟩ := List.mem_flatMap.mp hnew
        exact absurd (triggerJobs_own hjob).1 (hregistered.jobs job (List.mem_append_right _ hnew))
    · rcases List.mem_append.mp hroute with hold | hnew
      · exact hold
      · obtain ⟨node, -, hroute⟩ := List.mem_flatMap.mp hnew
        exact absurd (triggerRoutes_own hroute).1
          (hregistered.routes route (List.mem_append_right _ hnew))

/-- What an activation does to the jobs and routes. -/
theorem activate_graph_served_iff (h : backend.Served) (graph : GraphSpec) (caller : Caller) :
    (Stateful.stateOf ((activateGraph surroundings graphId graph caller).run backend)).Served ↔
      ¬ LeavesTriggers surroundings backend (.activate graphId graph caller) := by
  obtain ⟨hvacant, hnothing⟩ := vacate_served h graphId
  rw [activate_graph_run]
  simp only [LeavesTriggers]
  cases validateForActivation surroundings graph (callerUserId caller) with
  | error e => exact iff_of_true h fun hleaves => nomatch hleaves.1
  | ok _ =>
      simp only [true_and]
      cases hfailure : registrationFailure surroundings graphId (backend.vacate graphId).jobs graph
        (callerUserId caller) with
      | some e =>
          simp only [Option.some.injEq, exists_eq_left']
          cases hhttp : e.isHttpException with
          | true =>
              refine iff_of_true ?_ fun hleaves => nomatch hleaves.1
              -- The rollback removes whatever the registration added.
              have hrolled := deactivate_nothing_registered ((backend.vacate graphId).registerGraph
                surroundings graphId graph (callerUserId caller)) graphId
              refine served_of_subset hvacant (fun job hjob => ?_) (fun route hroute => ?_) rfl
                hrolled
              · rcases List.mem_append.mp (List.mem_filter.mp hjob).1 with hold | hnew
                · exact hold
                · obtain ⟨node, -, hown⟩ := List.mem_flatMap.mp hnew
                  exact absurd (triggerJobs_own hown).1 (hrolled.jobs job hjob)
              · rcases List.mem_append.mp (List.mem_filter.mp hroute).1 with hold | hnew
                · exact hold
                · obtain ⟨node, -, hown⟩ := List.mem_flatMap.mp hnew
                  exact absurd (triggerRoutes_own hown).1 (hrolled.routes route hroute)
          | false =>
              rw [if_neg Bool.false_ne_true]
              simp only [true_and, not_exists, not_and]
              rw [← register_unserved_iff hvacant hnothing]
              exact ⟨fun hafter => served_congr hafter rfl rfl rfl,
                fun hafter => served_congr hafter rfl rfl rfl⟩
      | none =>
          refine iff_of_true ?_ fun hleaves => ?_
          · have hserved : ((backend.vacate graphId).register graphId graph.nodes).setActive graphId
                ⟨graph, graphTriggers surroundings graphId graph, callerUserId caller⟩ |>.Served :=
              register_served hvacant hnothing fun _ hnode => hnode
            have hall : registeredNodes surroundings graphId (backend.vacate graphId).jobs
                graph.nodes = graph.nodes :=
              registered_nodes_eq_self (Option.or_eq_none_iff.mp hfailure).1
            have hsame : (((backend.vacate graphId).registerGraph surroundings graphId graph
                (callerUserId caller)).setActive graphId
                ⟨graph, graphTriggers surroundings graphId graph, callerUserId caller⟩).Served := by
              refine served_congr hserved ?_ ?_ rfl
              · show (backend.vacate graphId).jobs ++ _ = _
                rw [hall]
                rfl
              · show (backend.vacate graphId).routes ++ _ = _
                rw [hall]
                rfl
            dsimp only
            rw [finish_activation_run]
            cases surroundings.dump graph with
            | error e => exact hsame
            | ok specJson => exact served_congr hsame rfl rfl rfl
          · obtain ⟨e, hsome, -⟩ := hleaves
            cases hsome

/-- A deactivation, and what follows it, keep the jobs and routes served. -/
theorem deactivate_graph_served (h : backend.Served) (caller : Caller) :
    (Stateful.stateOf
      ((deactivateGraph surroundings graphId caller).run backend)).Served := by
  rw [deactivate_graph_run]
  cases backend.active.get? graphId with
  | none => exact h
  | some active =>
      dsimp only
      rw [Stateful.stateOf_ended]
      cases removalFailure surroundings active.graph (callerUserId caller) with
      | some e => exact served_congr h rfl rfl rfl
      | none => exact served_congr (deactivate_served h graphId) rfl rfl rfl

theorem delete_graph_served (h : backend.Served) :
    (Stateful.stateOf ((deleteGraph graphId).run backend)).Served := by
  have hvacant := (vacate_served h graphId).1
  rw [delete_graph_run]
  dsimp only
  split <;> exact served_congr hvacant rfl rfl rfl

/-- What changes no job, no route and no registry entry keeps them served. -/
theorem served_of_frame {α : Type} {act : GraphRoute α} (h : backend.Served)
    (hframe : Stateful.Frame (fun backend : GraphBackend =>
      (backend.jobs, backend.routes, backend.active)) act) :
    (Stateful.stateOf (act.run backend)).Served := by
  have hkept := hframe backend
  simp only [Prod.mk.injEq] at hkept
  exact served_congr h hkept.1 hkept.2.1 hkept.2.2

/-- A request keeps the jobs and routes served unless it leaves triggers behind. -/
theorem after_graph_request_served_iff (h : backend.Served) (request : GraphRequest) :
    (afterGraphRequest hashToken surroundings request backend).Served ↔
      ¬ LeavesTriggers surroundings backend request := by
  cases request with
  | activate graphId graph caller => exact activate_graph_served_iff h graph caller
  | deactivate graphId caller => exact iff_of_true (deactivate_graph_served h caller) id
  | delete graphId => exact iff_of_true (delete_graph_served h) id
  | save graphId request caller =>
      exact iff_of_true (served_of_frame h (create_graph_frame (fun _ _ => rfl) (fun _ _ => rfl)
        graphId request caller)) id
  | update graphId request =>
      exact iff_of_true (served_of_frame h (update_graph_frame (fun _ _ => rfl) (fun _ _ => rfl)
        graphId request)) id
  | mintKey graphId label timeoutSeconds draw caller =>
      exact iff_of_true (served_of_frame h (create_invoke_key_frame (fun _ _ => rfl) hashToken
        graphId label timeoutSeconds draw caller)) id
  | revokeKey graphId keyId =>
      exact iff_of_true (served_of_frame h (delete_invoke_key_frame (fun _ _ => rfl) graphId keyId))
        id

/-! ## What is started -/

/-- The request activates a graph under this id, which passes validation. -/
def Activates (graphId : String) (step : Surroundings × GraphRequest) : Prop :=
  ∃ graph caller, step.2 = .activate graphId graph caller ∧
    validateForActivation step.1 graph (callerUserId caller) = .ok ()

/-- The graph is the one that was last activated under its id, for the caller who did so. -/
def LastActivated (history : List (Surroundings × GraphRequest)) (graphId : String)
    (active : ActiveGraph) : Prop :=
  ∃ before surroundings caller later,
    history = before ++ (surroundings, .activate graphId active.graph caller) :: later ∧
    validateForActivation surroundings active.graph (callerUserId caller) = .ok () ∧
    active.createdBy = callerUserId caller ∧ ∀ step ∈ later, ¬ Activates graphId step

/-- A graph that is in the registry after a request was just activated, or was there before. -/
theorem active_after_request {request : GraphRequest} {active : ActiveGraph}
    (h : (afterGraphRequest hashToken surroundings request backend).active.get? graphId =
      some active) :
    (∃ caller, request = .activate graphId active.graph caller ∧
      validateForActivation surroundings active.graph (callerUserId caller) = .ok () ∧
      active.createdBy = callerUserId caller) ∨
    backend.active.get? graphId = some active ∧ ¬ Activates graphId (surroundings, request) := by
  have hframe : ∀ {act : GraphRoute GraphAnswer}, Stateful.Frame GraphBackend.active act →
      (Stateful.stateOf (act.run backend)).active.get? graphId = some active →
      backend.active.get? graphId = some active := by
    intro act hframe hafter
    rwa [hframe backend] at hafter
  have hother : ∀ {request : GraphRequest}, (∀ graph caller,
      request ≠ .activate graphId graph caller) → ¬ Activates graphId (surroundings, request) := by
    rintro request hne ⟨graph, caller, hrequest, -⟩
    exact hne graph caller hrequest
  have herased : ∀ {other}, (backend.active.erase other).get? graphId = some active →
      graphId ≠ other ∧ backend.active.get? graphId = some active := by
    intro other hafter
    have hne : graphId ≠ other := by
      rintro rfl
      rw [Dict.get?_erase_self] at hafter
      cases hafter
    rw [Dict.get?_erase_of_ne _ hne] at hafter
    exact ⟨hne, hafter⟩
  cases request with
  | activate other graph caller =>
      change (Stateful.stateOf ((activateGraph surroundings other graph caller).run
        backend)).active.get? graphId = some active at h
      generalize hafter : Stateful.stateOf ((activateGraph surroundings other graph caller).run
        backend) = after at h
      rcases activate_graph_tables other graph caller hafter with
        ⟨⟨e, hinvalid⟩, rfl⟩ | ⟨hvalid, -, ⟨-, hactive, -⟩ | ⟨-, hactive, -⟩⟩
      · refine .inr ⟨h, ?_⟩
        rintro ⟨_, _, heq, hvalid⟩
        cases heq
        cases hinvalid.symm.trans hvalid
      · rw [hactive] at h
        obtain ⟨hne, hold⟩ := herased h
        exact .inr ⟨hold, hother fun _ _ heq => hne (by cases heq; rfl)⟩
      · rw [hactive] at h
        by_cases hsame : graphId = other
        · subst hsame
          rw [Dict.get?_set_self] at h
          cases h
          exact .inl ⟨caller, rfl, hvalid, rfl⟩
        · rw [Dict.get?_set_of_ne _ _ hsame] at h
          exact .inr ⟨(herased h).2, hother fun _ _ heq => hsame (by cases heq; rfl)⟩
  | deactivate other caller =>
      refine .inr ⟨?_, hother nofun⟩
      unfold afterGraphRequest graphEndpoint at h
      rw [deactivate_graph_run] at h
      cases hactive : backend.active.get? other with
      | none =>
          rw [hactive] at h
          exact h
      | some removed =>
          rw [hactive] at h
          dsimp only at h
          rw [Stateful.stateOf_ended] at h
          cases hremoval : removalFailure surroundings removed.graph (callerUserId caller) with
          | some e =>
              rw [hremoval] at h
              exact h
          | none =>
              rw [hremoval] at h
              exact (herased h).2
  | delete other =>
      refine .inr ⟨?_, hother nofun⟩
      unfold afterGraphRequest graphEndpoint at h
      rw [delete_graph_run] at h
      have hvacant : (backend.vacate other).active.get? graphId = some active := by
        dsimp only at h
        split at h <;> exact h
      rw [vacate_active] at hvacant
      exact (herased hvacant).2
  | save other request caller =>
      exact .inr ⟨hframe (create_graph_frame (fun _ _ => rfl) (fun _ _ => rfl) other request caller)
        h, hother nofun⟩
  | update other request =>
      exact .inr ⟨hframe (update_graph_frame (fun _ _ => rfl) (fun _ _ => rfl) other request) h,
        hother nofun⟩
  | mintKey other label timeoutSeconds draw caller =>
      exact .inr ⟨hframe (create_invoke_key_frame (fun _ _ => rfl) hashToken other label
        timeoutSeconds draw caller) h, hother nofun⟩
  | revokeKey other keyId =>
      exact .inr ⟨hframe (delete_invoke_key_frame (fun _ _ => rfl) other keyId) h, hother nofun⟩

/-- In every state of a history, a registered graph is the last one activated, or was registered at
the start. -/
theorem active_last_activated {history : List (Surroundings × GraphRequest)} {start : GraphBackend}
    {active : ActiveGraph}
    (h : (afterGraphRequests hashToken history start).active.get? graphId = some active) :
    LastActivated history graphId active ∨
      start.active.get? graphId = some active ∧ ∀ step ∈ history, ¬ Activates graphId step := by
  induction history using List.reverseRecOn with
  | nil => exact .inr ⟨h, by simp⟩
  | append_singleton history step ih =>
      rw [after_graph_requests_snoc] at h
      rcases active_after_request h with ⟨caller, hrequest, hvalid, hcreator⟩ | ⟨hbefore, hnot⟩
      · refine .inl ⟨history, step.1, caller, [], ?_, hvalid, hcreator, by simp⟩
        rw [← hrequest]
      · rcases ih hbefore with
          ⟨before, surroundings, caller, later, rfl, hvalid, hcreator, hlater⟩ | ⟨hstart, hnone⟩
        · refine .inl ⟨before, surroundings, caller, later ++ [step], by simp, hvalid, hcreator, ?_⟩
          rw [List.forall_mem_append]
          exact ⟨hlater, by simpa using hnot⟩
        · refine .inr ⟨hstart, ?_⟩
          rw [List.forall_mem_append]
          exact ⟨hnone, by simpa using hnot⟩

/-- The connections of a run are those that the graph names, as its owner sees them. -/
structure ConnectedAsOwner (store : Except String ConnectionStore) (active : ActiveGraph)
    (resources : Resources) : Prop where
  named : ∀ name ∈ referencedConnectionNames active.graph, ∃ profiles profile,
    store = .ok profiles ∧
    resolveConnectionForUser profiles name active.createdBy = some profile ∧
    resources.connectionProfiles.get? name = some profile ∧
    resources.connections.get? name = some ⟨profile.type, profile.config⟩
  others : ∀ name, name ∉ referencedConnectionNames active.graph →
    resources.connectionProfiles.get? name = none ∧ resources.connections.get? name = none

/-- A connection that the graph names keeps its runs from starting: the store cannot be read, or it
has none of that name for the owner, or one of which no client can be built. -/
def ConnectionFails (connectionTypes : ConnectionRegistry)
    (store : Except String ConnectionStore) (active : ActiveGraph) : Prop :=
  ∃ name ∈ referencedConnectionNames active.graph, ∀ profiles profile, store = .ok profiles →
    resolveConnectionForUser profiles name active.createdBy = some profile →
      ∃ error, buildClient connectionTypes name profile = .error error

/-- What firing a node of an active graph leads to: a run of that graph for its owner and with the
owner's connections, in which only the node has a payload, unless one of the connections fails. -/
def Starts (connectionTypes : ConnectionRegistry) (store : Except String ConnectionStore)
    (active : ActiveGraph) (nodeId : String) (payload : Option Json) :
    Except FireError FiredRun → Prop
  | .ok run => run.graph = active.graph ∧ run.resources.runningUserId = active.createdBy ∧
      ConnectedAsOwner store active run.resources ∧
      ∀ id, run.resources.triggerPayloads.get? id = if id = nodeId then payload else none
  | .error e => firedResources connectionTypes store active = .error e ∧
      ConnectionFails connectionTypes store active

/-- The resources of a run before it is given a payload. -/
theorem fired_resources_ok {connectionTypes : ConnectionRegistry}
    {store : Except String ConnectionStore} {active : ActiveGraph} {resources : Resources}
    (h : firedResources connectionTypes store active = .ok resources) :
    resources.runningUserId = active.createdBy ∧ ConnectedAsOwner store active resources ∧
      resources.triggerPayloads = .empty := by
  unfold firedResources at h
  cases store with
  | ok store =>
      have hsubmitted := mapError_eq_ok.mp h
      obtain ⟨connections, hconnections, hrest⟩ := except_bind_eq_ok.mp hsubmitted
      obtain ⟨profiles, hprofiles, hresources⟩ := except_bind_eq_ok.mp hrest
      cases hresources
      refine ⟨rfl, ⟨fun name hname => ?_, fun name hname => ⟨?_, ?_⟩⟩, rfl⟩
      · obtain ⟨profile, hprofile, hgets⟩ :=
          resolved_as_referenced hconnections hprofiles hname
        have hown : resolveSlotAware store name active.createdBy .empty =
            resolveConnectionForUser store name active.createdBy := rfl
        exact ⟨store, profile, rfl, hown.symm.trans hprofile, hgets⟩
      · exact (resolve_names_get? hprofiles name).2 hname
      · exact (resolve_names_get? hconnections name).2 hname
  | error e =>
      dsimp only at h
      split at h
      · rename_i hnone
        cases h
        refine ⟨rfl, ⟨fun name hname => ?_, fun name _ => ⟨rfl, rfl⟩⟩, rfl⟩
        rw [hnone] at hname
        exact absurd hname List.not_mem_nil
      · cases h

/-- Without a connection that fails there are resources. -/
theorem fired_resources_error {connectionTypes : ConnectionRegistry}
    {store : Except String ConnectionStore} {active : ActiveGraph} {e : FireError}
    (h : firedResources connectionTypes store active = .error e) :
    ConnectionFails connectionTypes store active := by
  unfold firedResources at h
  cases store with
  | error failure =>
      dsimp only at h
      split at h
      · cases h
      · rename_i hnamed
        obtain ⟨name, hname⟩ := List.exists_mem_of_ne_nil _ hnamed
        exact ⟨name, hname, nofun⟩
  | ok profiles =>
      by_contra hnone
      have hlookup : ∀ name ∈ referencedConnectionNames active.graph, ∃ profile client,
          requireProfile profiles active.createdBy .empty name = .ok profile ∧
            buildClient connectionTypes name profile = .ok client := by
        intro name hname
        by_contra hfails
        refine hnone ⟨name, hname, fun _ profile hstore hprofile => ?_⟩
        cases hstore
        cases hclient : buildClient connectionTypes name profile with
        | error error => exact ⟨error, rfl⟩
        | ok client =>
            exact absurd ⟨profile, client, require_profile_eq_ok.mpr hprofile, hclient⟩ hfails
      obtain ⟨connections, hconnections⟩ :
          ∃ connections, resolveConnections active.graph profiles connectionTypes
            active.createdBy .empty = .ok connections := by
        refine resolve_names_total (fun name hname => ?_) _
        obtain ⟨profile, client, hprofile, hclient⟩ := hlookup name hname
        exact ⟨client, except_bind_eq_ok.mpr ⟨profile, hprofile, hclient⟩⟩
      obtain ⟨connectionProfiles, hprofiles⟩ :
          ∃ connectionProfiles, resolveConnectionProfiles active.graph profiles
            active.createdBy .empty = .ok connectionProfiles := by
        refine resolve_names_total (fun name hname => ?_) _
        obtain ⟨profile, _, hprofile, _⟩ := hlookup name hname
        exact ⟨profile, hprofile⟩
      have hresources : submittedResources connectionTypes profiles active.graph active.createdBy
          .empty = .ok _ := except_bind_eq_ok.mpr ⟨connections, hconnections,
        except_bind_eq_ok.mpr ⟨connectionProfiles, hprofiles, rfl⟩⟩
      dsimp only at h
      rw [mapError_eq_ok.mpr hresources] at h
      cases h

theorem fire_starts {active : ActiveGraph} (hactive : backend.active.get? graphId = some active)
    (connectionTypes : ConnectionRegistry) (store : Except String ConnectionStore)
    (runId nodeId : String) (payload : Option Json) (triggerSource : String) :
    Starts connectionTypes store active nodeId payload
      (fire connectionTypes store runId backend graphId nodeId payload triggerSource) := by
  unfold fire
  rw [hactive]
  dsimp only
  cases hresources : firedResources connectionTypes store active with
  | error e => exact ⟨hresources, fired_resources_error hresources⟩
  | ok resources =>
      obtain ⟨huser, hconnected, hpayloads⟩ := fired_resources_ok hresources
      cases payload with
      | none =>
          refine ⟨rfl, huser, hconnected, fun id => ?_⟩
          show resources.triggerPayloads.get? id = _
          rw [hpayloads, Dict.get?_empty, ite_self]
      | some payload =>
          refine ⟨rfl, huser, ⟨hconnected.named, hconnected.others⟩, fun id => ?_⟩
          show (Dict.empty.set nodeId payload).get? id = _
          rw [Dict.get?_set, Dict.get?_empty]

/-- The graph in the registry comes from the history or was there at the start. -/
def ActivatedBy (history : List (Surroundings × GraphRequest)) (start : GraphBackend)
    (graphId : String) (active : ActiveGraph) : Prop :=
  LastActivated history graphId active ∨
    start.active.get? graphId = some active ∧ ∀ step ∈ history, ¬ Activates graphId step

/-- In every history, the jobs and routes are served after every request if and only if no request
leaves triggers of a failed activation behind. Whatever is served then starts a trigger node of the
graph that was last activated under its id, for the caller who activated it and with this caller's
connections; only its own node sees the payload, and nothing but the connections can keep the run
from being started. -/
theorem triggers_fire_activated (hashToken : String → String)
    (history : List (Surroundings × GraphRequest)) {start : GraphBackend}
    (hstart : start.Served) :
    (EveryState hashToken history start GraphBackend.Served ↔
      EveryStep hashToken history start fun surroundings backend request =>
        ¬ LeavesTriggers surroundings backend request) ∧
    ((afterGraphRequests hashToken history start).Served →
      (∀ job ∈ (afterGraphRequests hashToken history start).jobs, ∃ active node,
        ActivatedBy history start job.graphId active ∧ node ∈ active.graph.nodes ∧
        job ∈ triggerJobs job.graphId node ∧
        ∀ connectionTypes store runId, Starts connectionTypes store active node.id none
          (job.fire connectionTypes store runId (afterGraphRequests hashToken history start))) ∧
      ∀ route ∈ (afterGraphRequests hashToken history start).routes, ∃ active node,
        ActivatedBy history start route.graphId active ∧ node ∈ active.graph.nodes ∧
        route ∈ triggerRoutes route.graphId node ∧
        ∀ connectionTypes store runId payload,
          Starts connectionTypes store active node.id (some payload)
            (route.fire connectionTypes store runId (afterGraphRequests hashToken history start)
              payload)) := by
  refine ⟨every_state_iff (fun step _ backend h => after_graph_request_served_iff h step.2) hstart,
    fun hserved => ⟨fun job hjob => ?_, fun route hroute => ?_⟩⟩
  · obtain ⟨active, node, hactive, hnode, hown⟩ := hserved.jobs job hjob
    refine ⟨active, node, active_last_activated hactive, hnode, hown, fun _ _ _ => ?_⟩
    rw [← (triggerJobs_own hown).2.1]
    exact fire_starts hactive _ _ _ _ _ _
  · obtain ⟨active, node, hactive, hnode, hown⟩ := hserved.routes route hroute
    refine ⟨active, node, active_last_activated hactive, hnode, hown, fun _ _ _ _ => ?_⟩
    rw [← (triggerRoutes_own hown).2.1]
    exact fire_starts hactive _ _ _ _ _ _

end

/-- One graph is activated. -/
def cronHistory : List (Surroundings × GraphRequest) :=
  [(plainSurroundings, .activate "g" (cronGraph "tick" "* * * * *") alice)]

set_option maxRecDepth 20000 in
/-- The job of a graph that was activated starts a run of it. -/
theorem cron_history_fires :
    ∃ active node, ActivatedBy cronHistory .empty "g" active ∧ node ∈ active.graph.nodes ∧
      (⟨"g", "tick", "* * * * *"⟩ : ScheduleJob) ∈ triggerJobs "g" node ∧
      ∀ connectionTypes store runId, Starts connectionTypes store active node.id none
        (ScheduleJob.fire connectionTypes store runId
          (afterGraphRequests plainAuth.hashToken cronHistory .empty)
          ⟨"g", "tick", "* * * * *"⟩) := by
  have hfires := triggers_fire_activated plainAuth.hashToken cronHistory empty_served
  have hsteps : EveryStep plainAuth.hashToken cronHistory .empty fun surroundings backend request =>
      ¬ LeavesTriggers surroundings backend request := by
    refine every_step_cons ?_ (every_step_nil _)
    rintro ⟨-, e, hfailure, -⟩
    cases hfailure
  exact (hfires.2 (hfires.1.mpr hsteps cronHistory [] (by simp))).1 ⟨"g", "tick", "* * * * *"⟩
    (by decide +kernel)

end AgentGraphStudio
