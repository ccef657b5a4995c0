import AgentGraphStudio.Api.Activation
import AgentGraphStudio.Api.Auth

/-!
# Activations that fail half-way

A failed activation is rolled back if it failed with an `HTTPException`, and a failed re-activation
at the start of the backend never is. `activation_atomic_iff` says when nothing is left behind.
-/

namespace AgentGraphStudio

/-! ## Atomicity -/

/-- Nothing of a graph is registered. -/
structure GraphBackend.NothingRegistered (backend : GraphBackend) (graphId : String) : Prop where
  jobs : ∀ job ∈ backend.jobs, job.graphId ≠ graphId
  routes : ∀ route ∈ backend.routes, route.graphId ≠ graphId
  active : backend.active.get? graphId = none

/-- The graph can be activated under an id, as far as jobs of this id do not stand in the way. -/
structure CorrectFor (surroundings : Surroundings) (backend : GraphBackend) (graphId : String)
    (graph : GraphSpec) (caller : Caller) : Prop where
  valid : validateForActivation surroundings graph (callerUserId caller) = .ok ()
  registers : registrationFailure surroundings graphId
    (backend.jobs.filter (·.graphId ≠ graphId)) graph (callerUserId caller) = none
  stored : ∃ text, surroundings.dump graph = .ok text

/-- The computation ended with a value. -/
def Succeeded {α : Type} (result : EStateM.Result HandlerError GraphBackend α) : Prop :=
  ∃ value after, result = .ok value after

/-- A later activation of a correct graph succeeds. -/
def GraphBackend.Activatable (backend : GraphBackend) (graphId : String) : Prop :=
  ∀ surroundings graph caller, CorrectFor surroundings backend graphId graph caller →
    Succeeded ((activateGraph surroundings graphId graph caller).run backend)

/-- An activation either succeeded or left nothing of its graph, which can be activated later. -/
def Atomic {α : Type} (graphId : String) (result : EStateM.Result HandlerError GraphBackend α) :
    Prop :=
  Succeeded result ∨ ((Stateful.stateOf result).NothingRegistered graphId ∧
    (Stateful.stateOf result).Activatable graphId)

/-! ## When nothing is left behind -/

/-- The node is a trigger. -/
def NodeSpec.IsTrigger (node : NodeSpec) : Prop :=
  node.type = "schedule_trigger" ∨ node.type = "webhook_trigger"

section

variable (surroundings : Surroundings) (backend : GraphBackend) (graphId : String)

/-- Nothing of the graph is registered, and no trigger of these nodes is before one fails. -/
def NothingReached (nodes : List NodeSpec) : Prop :=
  backend.NothingRegistered graphId ∧
    ∀ node ∈ registeredNodes surroundings graphId backend.jobs nodes, ¬ node.IsTrigger

/-- A graph that fails validation must not be registered, and one that passes must not fail, or fail
with an `HTTPException` or before anything is registered. -/
def ActivationClean (graph : GraphSpec) (caller : Caller) : Prop :=
  match validateForActivation surroundings graph (callerUserId caller) with
  | .error _ => backend.NothingRegistered graphId
  | .ok () =>
    match registrationFailure surroundings graphId (backend.vacate graphId).jobs graph
      (callerUserId caller) with
    | none => ∃ text, surroundings.dump graph = .ok text
    | some e => e.isHttpException ∨
        NothingReached surroundings (backend.vacate graphId) graphId graph.nodes

/-- At the start of the backend, no failure is rolled back. -/
def ReactivationClean (row : StoredGraph) : Prop :=
  match surroundings.load row.specJson with
  | .error _ => backend.NothingRegistered graphId
  | .ok graph =>
    match validateForActivation surroundings graph row.createdBy with
    | .error _ => backend.NothingRegistered graphId
    | .ok () =>
      graph.nodes.findSome? (triggerFailure surroundings graphId backend.jobs) = none ∨
        NothingReached surroundings backend graphId graph.nodes

end

section

variable {surroundings : Surroundings} {backend : GraphBackend} {graphId : String}

/-- A text begins with its first part. -/
theorem starts_with_append (start rest : String) : startsWith (start ++ rest) start = true := by
  unfold startsWith
  rw [List.isPrefixOf_iff_prefix, String.toList_append]
  exact List.prefix_append _ _

/-- A deactivation leaves nothing of its graph. -/
theorem deactivate_nothing_registered (backend : GraphBackend) (graphId : String) :
    (backend.deactivate graphId).NothingRegistered graphId := by
  refine ⟨fun job hjob hown => ?_, fun route hroute hown => ?_, Dict.get?_erase_self _ _⟩
  · obtain ⟨_, hkept⟩ := List.mem_filter.mp hjob
    have hstarts : startsWith job.id (graphId ++ ":") = true := by
      unfold ScheduleJob.id jobId
      rw [hown]
      exact starts_with_append _ _
    exact of_decide_eq_true hkept hstarts
  · obtain ⟨_, hkept⟩ := List.mem_filter.mp hroute
    have hstarts : startsWith route.path ("/webhooks/" ++ graphId ++ "/") = true := by
      unfold WebhookRoute.path webhookPath
      rw [hown]
      exact starts_with_append _ _
    exact of_decide_eq_true hkept hstarts

/-- Nothing is registered after a registration of nodes without a trigger only. -/
theorem register_nothing_registered_iff (nodes : List NodeSpec) :
    (backend.register graphId nodes).NothingRegistered graphId ↔
      backend.NothingRegistered graphId ∧ ∀ node ∈ nodes, ¬ node.IsTrigger := by
  constructor
  · intro h
    refine ⟨⟨fun job hjob => h.jobs job (List.mem_append_left _ hjob),
      fun route hroute => h.routes route (List.mem_append_left _ hroute), h.active⟩,
      fun node hnode htrigger => ?_⟩
    rcases htrigger with hschedule | hwebhook
    · refine h.jobs ⟨graphId, node.id, (cronOf node).getD ""⟩
        (List.mem_append_right _ (List.mem_flatMap.mpr ⟨node, hnode, ?_⟩)) rfl
      unfold triggerJobs
      rw [if_pos hschedule]
      exact List.mem_singleton_self _
    · refine h.routes ⟨graphId, node.id⟩
        (List.mem_append_right _ (List.mem_flatMap.mpr ⟨node, hnode, ?_⟩)) rfl
      unfold triggerRoutes
      rw [if_pos hwebhook]
      exact List.mem_singleton_self _
  · intro h
    obtain ⟨hnothing, hnodes⟩ := h
    have hjobs : nodes.flatMap (triggerJobs graphId) = [] := by
      refine List.flatMap_eq_nil_iff.mpr fun node hnode => if_neg fun hschedule => ?_
      exact hnodes node hnode (.inl hschedule)
    have hroutes : nodes.flatMap (triggerRoutes graphId) = [] := by
      refine List.flatMap_eq_nil_iff.mpr fun node hnode => if_neg fun hwebhook => ?_
      exact hnodes node hnode (.inr hwebhook)
    refine ⟨?_, ?_, hnothing.active⟩
    · show ∀ job ∈ backend.jobs ++ _, _
      rw [hjobs, List.append_nil]
      exact hnothing.jobs
    · show ∀ route ∈ backend.routes ++ _, _
      rw [hroutes, List.append_nil]
      exact hnothing.routes

/-- A registration leaves nothing behind if it reaches no trigger. -/
theorem registration_nothing_registered_iff (graph : GraphSpec) (userId : Option String) :
    (backend.registerGraph surroundings graphId graph userId).NothingRegistered graphId ↔
      NothingReached surroundings backend graphId graph.nodes := by
  unfold NothingReached
  rw [← register_nothing_registered_iff]
  exact ⟨fun h => ⟨h.jobs, h.routes, h.active⟩, fun h => ⟨h.jobs, h.routes, h.active⟩⟩

/-- Where nothing of a graph is registered, a correct one can be activated. -/
theorem activatable_of_nothing (h : backend.NothingRegistered graphId) :
    backend.Activatable graphId := by
  intro surroundings graph caller hcorrect
  obtain ⟨text, hstored⟩ := hcorrect.stored
  have hvacate : backend.vacate graphId = backend := by
    unfold GraphBackend.vacate
    rw [h.active]
    rfl
  have hjobs : backend.jobs.filter (·.graphId ≠ graphId) = backend.jobs :=
    List.filter_eq_self.mpr fun job hjob => decide_eq_true (h.jobs job hjob)
  have hregisters := hcorrect.registers
  rw [hjobs] at hregisters
  unfold Succeeded
  rw [activate_graph_run, hcorrect.valid, hvacate]
  dsimp only
  rw [hregisters]
  dsimp only
  rw [finish_activation_run, hstored]
  exact ⟨_, _, rfl⟩

/-- What failed is atomic exactly if it left nothing of the graph. -/
theorem atomic_error_iff {α : Type} {e : HandlerError} {after : GraphBackend} :
    Atomic graphId (.error e after : EStateM.Result HandlerError GraphBackend α) ↔
      after.NothingRegistered graphId := by
  constructor
  · intro h
    rcases h with hsucceeded | hnothing
    · obtain ⟨_, _, hok⟩ := hsucceeded
      cases hok
    · exact hnothing.1
  · exact fun h => .inr ⟨h, activatable_of_nothing h⟩

/-- An activation is atomic exactly if no failure is left half-way. -/
theorem activate_graph_atomic_iff (graph : GraphSpec) (caller : Caller) :
    Atomic graphId ((activateGraph surroundings graphId graph caller).run backend) ↔
      ActivationClean surroundings backend graphId graph caller := by
  unfold ActivationClean
  rw [activate_graph_run]
  -- Validation comes before anything is registered.
  cases validateForActivation surroundings graph (callerUserId caller) with
  | error e => exact atomic_error_iff
  | ok _ =>
      dsimp only
      cases registrationFailure surroundings graphId (backend.vacate graphId).jobs graph
        (callerUserId caller) with
      | some e =>
          dsimp only
          rw [atomic_error_iff]
          by_cases hhttp : e.isHttpException
          · rw [if_pos hhttp]
            exact iff_of_true (deactivate_nothing_registered _ _) (.inl hhttp)
          · rw [if_neg hhttp]
            refine (registration_nothing_registered_iff graph _).trans ?_
            exact ⟨.inr, fun h => h.resolve_left hhttp⟩
      | none =>
          dsimp only
          rw [finish_activation_run]
          cases surroundings.dump graph with
          | ok specJson => exact iff_of_true (.inl ⟨_, _, rfl⟩) ⟨specJson, rfl⟩
          | error e =>
              dsimp only
              rw [atomic_error_iff]
              refine iff_of_false (fun h => ?_) fun h => ?_
              · have hactive := h.active
                unfold GraphBackend.setActive at hactive
                rw [Dict.get?_set_self] at hactive
                cases hactive
              · obtain ⟨text, hdump⟩ := h
                cases hdump

/-- The re-activation of one graph at the start is atomic exactly if no failure is left half-way. -/
theorem reactivate_graph_atomic_iff (row : StoredGraph) :
    Atomic graphId ((reactivateGraph surroundings graphId row).run backend) ↔
      ReactivationClean surroundings backend graphId row := by
  unfold ReactivationClean
  rw [reactivate_graph_run]
  cases surroundings.load row.specJson with
  | error e => exact atomic_error_iff
  | ok graph =>
      dsimp only
      cases validateForActivation surroundings graph row.createdBy with
      | error e => exact atomic_error_iff
      | ok _ =>
          dsimp only
          cases graph.nodes.findSome? (triggerFailure surroundings graphId backend.jobs) with
          | none => exact iff_of_true (.inl ⟨_, _, rfl⟩) (.inl rfl)
          | some e =>
              dsimp only
              rw [atomic_error_iff, register_nothing_registered_iff]
              exact ⟨.inr, fun h => h.resolve_left nofun⟩

end

/-- For every state, an activation and the re-activation of a persisted graph either succeed or
leave nothing behind if and only if no failure is left half-way. -/
theorem activation_atomic_iff (surroundings : Surroundings) (backend : GraphBackend)
    (graphId : String) :
    (∀ graph caller,
      Atomic graphId ((activateGraph surroundings graphId graph caller).run backend) ↔
        ActivationClean surroundings backend graphId graph caller) ∧
    (∀ row, Atomic graphId ((reactivateGraph surroundings graphId row).run backend) ↔
      ReactivationClean surroundings backend graphId row) :=
  ⟨fun graph caller => activate_graph_atomic_iff graph caller,
    fun row => reactivate_graph_atomic_iff row⟩

/-- Two triggers, the second of which has the job id `a:b:c` in the graph `a`. -/
def clashingGraph : GraphSpec where
  version := "1.0"
  nodes := [
    { id := "x", type := "schedule_trigger", config := .ofList [("cron", .str "* * * * *")] },
    { id := "b:c", type := "schedule_trigger", config := .ofList [("cron", .str "* * * * *")] }]
  edges := []
  nodupIds := by decide

/-- The graph `a:b` is active, with the job id `a:b:c`. -/
def clashingBackend : GraphBackend :=
  afterGraphRequest plainAuth.hashToken plainSurroundings
    (.activate "a:b" (cronGraph "c" "* * * * *") alice) .empty

set_option maxRecDepth 20000 in
/-- The activation of `a` fails at its second trigger and leaves the job of the first. -/
theorem clashing_job_left :
    ¬ Atomic "a" ((activateGraph plainSurroundings "a" clashingGraph alice).run
      clashingBackend) := by
  intro h
  rcases h with hsucceeded | hnothing
  · obtain ⟨answer, after, hok⟩ := hsucceeded
    have hfailed : (match (activateGraph plainSurroundings "a" clashingGraph alice).run
        clashingBackend with | .ok _ _ => true | .error _ _ => false) = false := by
      decide +kernel
    rw [hok] at hfailed
    cases hfailed
  · have hleft : (⟨"a", "x", "* * * * *"⟩ : ScheduleJob) ∈
        (Stateful.stateOf ((activateGraph plainSurroundings "a" clashingGraph alice).run
          clashingBackend)).jobs := by
      decide +kernel
    exact hnothing.1.jobs _ hleft rfl

end AgentGraphStudio
