import AgentGraphStudio.Api.Submission
import AgentGraphStudio.Api.Connections
import AgentGraphStudio.Storage.Graphs
import AgentGraphStudio.Storage.InvokeKeys

/-!
# Registering the triggers of a graph

`backend/triggers/registry.py`, `backend/triggers/scheduler.py`, and `_register_triggers` and
`_deactivate` of `backend/api/app.py`. A `schedule_trigger` gets a job of the scheduler and a
`webhook_trigger` a route of the app. Jobs are told apart by an id that joins the graph and the
node, and both jobs and routes of a graph are removed by the beginning of their ids and paths.
`register_nodes_run` says what a registration leaves behind.
-/

namespace AgentGraphStudio

open Stateful (attempt)

/-! ## Active graphs, jobs and routes -/

/-- The kinds of triggers. -/
inductive TriggerType where
  | scheduleTrigger
  | webhookTrigger
  deriving DecidableEq

/-- What is told about a trigger. -/
structure TriggerRecord where
  nodeId : String
  type : TriggerType
  endpointOrSchedule : String
  deriving DecidableEq

/-- An active graph, as it is registered in memory. -/
structure ActiveGraph where
  graph : GraphSpec
  triggers : List TriggerRecord
  createdBy : Option String

/-- The id of a job. -/
def jobId (graphId nodeId : String) : String := graphId ++ ":" ++ nodeId

/-- Within a graph, jobs are told apart by their nodes. -/
theorem job_id_inj {graphId nodeId other : String}
    (h : jobId graphId nodeId = jobId graphId other) :
    nodeId = other := by
  unfold jobId at h
  exact String.append_right_inj _ |>.mp h

/-- A job of the scheduler, which fires a node of a graph. -/
structure ScheduleJob where
  graphId : String
  nodeId : String
  cron : String
  deriving DecidableEq

/-- The id under which the scheduler keeps a job. -/
def ScheduleJob.id (job : ScheduleJob) : String := jobId job.graphId job.nodeId

/-- The path of a webhook. -/
def webhookPath (graphId nodeId : String) : String :=
  "/webhooks/" ++ graphId ++ "/" ++ nodeId

/-- A route of the app that fires a node of a graph. -/
structure WebhookRoute where
  graphId : String
  nodeId : String
  deriving DecidableEq

/-- The path of a route. -/
def WebhookRoute.path (route : WebhookRoute) : String := webhookPath route.graphId route.nodeId

/-- The text starts in this way. -/
def startsWith (text start : String) : Bool := start.toList.isPrefixOf text.toList

/-! ## State and surroundings -/

/-- What the requests about graphs read and change: the tables of the graphs, of their declared
slots and of their invoke keys, the active graphs, the jobs and routes of the process, and the
webhooks that Telegram has registered by the tokens of the bots. -/
structure GraphBackend where
  rows : GraphsTable
  slots : Dict String (List SlotRow)
  keys : InvokeKeyTable
  active : Dict String ActiveGraph
  jobs : List ScheduleJob
  routes : List WebhookRoute
  webhooks : Dict String String

/-- How a request about graphs fails. -/
inductive HandlerError where
  | invalidGraph (issues : List ValidationIssue)
  | http (error : HttpError)
  | exception (message : String)

/-- The exception is an `HTTPException`. -/
def HandlerError.isHttpException : HandlerError → Bool
  | .invalidGraph _ | .http _ => true
  | .exception _ => false

/-- The handling of a request. What it has changed stays changed when it raises. -/
abbrev GraphRoute (α : Type) := EStateM HandlerError GraphBackend α

/-- How a call to Telegram fails. -/
inductive SyncFailure where
  | runtimeError (message : String)
  | other (message : String)

/-- What a request finds around it. `store` and `resolutionStore` are what reading the connections
gives when a graph is validated and when its connections are resolved; `cronError` and `routeError`
are what the scheduler and the app raise for a cron expression and for a path; `dump` and `load`
turn a graph into its JSON text and back. -/
structure Surroundings where
  registry : NodeRegistry Body
  connectionTypes : ConnectionRegistry
  store : Except String ConnectionStore
  resolutionStore : Except String ConnectionStore
  cronError : String → Option String
  routeError : String → Option String
  apiKey : Option String
  publicBaseUrl : Except String (Option String)
  telegram : (token method : String) → Dict String String → Except SyncFailure Unit
  dump : GraphSpec → Except String String
  load : String → Except String GraphSpec
  repr : Json → String
  now : String

/-! ## The scheduler and the routes -/

/-- How a job is refused. -/
inductive ScheduleFailure where
  | valueError (message : String)
  | other (message : String)

section

variable (surroundings : Surroundings)

/-- Add a job. Its cron expression is read first, and its id must be new. -/
def addScheduleJob (graphId nodeId cron : String) : EStateM ScheduleFailure GraphBackend Unit := do
  match surroundings.cronError cron with
  | some e => throw (.valueError e)
  | none =>
    if (← get).jobs.any (·.id = jobId graphId nodeId) then
      throw (.other s!"Job identifier ({jobId graphId nodeId}) conflicts with an existing job")
    else modify fun backend => { backend with jobs := backend.jobs ++ [⟨graphId, nodeId, cron⟩] }

/-- Add a route that fires a node. -/
def addWebhookRoute (graphId nodeId : String) : GraphRoute Unit :=
  match surroundings.routeError (webhookPath graphId nodeId) with
  | some e => throw (.exception e)
  | none => modify fun backend => { backend with routes := backend.routes ++ [⟨graphId, nodeId⟩] }

/-- The key that callers share. -/
def configuredApiKey : Except HandlerError String :=
  match surroundings.apiKey with
  | none | some "" =>
    .error (.exception ("AGENT_GRAPH_STUDIO_API_KEY is not set -- refusing to start without a " ++
      "real shared credential (see docs/DEPLOYMENT.md)."))
  | some key => .ok key

end

/-- The cron expression of a node, if it is a text. -/
def cronOf (node : NodeSpec) : Option String :=
  match node.config.get? "cron" with
  | none => some ""
  | some cron => cron.str?

/-- Remove the jobs and routes of a graph by the beginning of their ids and paths, and its entry
(`_deactivate`). -/
def GraphBackend.deactivate (backend : GraphBackend) (graphId : String) : GraphBackend :=
  { backend with
    jobs := backend.jobs.filter fun job => ¬ startsWith job.id (graphId ++ ":")
    routes := backend.routes.filter fun route =>
      ¬ startsWith route.path ("/webhooks/" ++ graphId ++ "/")
    active := backend.active.erase graphId }

/-! ## Registration -/

section

variable (surroundings : Surroundings) (graphId : String)

/-- Give a `schedule_trigger` its job. -/
def registerSchedule (node : NodeSpec) : GraphRoute (List TriggerRecord) :=
  match cronOf node with
  | none => throw (.exception "object has no attribute 'split'")
  | some cron => do
    match ← attempt (addScheduleJob surroundings graphId node.id cron) with
    | .error (.valueError e) =>
      throw (.http ⟨422, s!"Invalid cron expression for node '{node.id}': {e}"⟩)
    | .error (.other e) => throw (.exception e)
    | .ok () => pure [⟨node.id, .scheduleTrigger, cron⟩]

/-- Give a `webhook_trigger` its route. -/
def registerWebhook (node : NodeSpec) : GraphRoute (List TriggerRecord) := do
  addWebhookRoute surroundings graphId node.id
  let key ← Stateful.ofExcept (configuredApiKey surroundings)
  pure [⟨node.id, .webhookTrigger, webhookPath graphId node.id ++ "?key=" ++ key⟩]

/-- Register a node if it is a trigger, and tell about it. -/
def registerTrigger (node : NodeSpec) : GraphRoute (List TriggerRecord) :=
  if node.type = "schedule_trigger" then registerSchedule surroundings graphId node
  else if node.type = "webhook_trigger" then registerWebhook surroundings graphId node
  else pure []

/-- Register nodes one after another. -/
def registerNodes : List NodeSpec → GraphRoute (List TriggerRecord)
  | [] => pure []
  | node :: nodes => do
    let first ← registerTrigger surroundings graphId node
    let rest ← registerNodes nodes
    pure (first ++ rest)

/-- Register the triggers of a graph (`_register_triggers`). -/
def registerTriggers (graph : GraphSpec) : GraphRoute (List TriggerRecord) :=
  registerNodes surroundings graphId graph.nodes

end

/-! ## What a registration leaves behind -/

/-- The jobs of a node. -/
def triggerJobs (graphId : String) (node : NodeSpec) : List ScheduleJob :=
  if node.type = "schedule_trigger" then [⟨graphId, node.id, (cronOf node).getD ""⟩] else []

/-- The routes of a node. -/
def triggerRoutes (graphId : String) (node : NodeSpec) : List WebhookRoute :=
  if node.type = "webhook_trigger" then [⟨graphId, node.id⟩] else []

/-- The backend with the jobs and routes of these nodes. -/
def GraphBackend.register (backend : GraphBackend) (graphId : String) (nodes : List NodeSpec) :
    GraphBackend :=
  { backend with
    jobs := backend.jobs ++ nodes.flatMap (triggerJobs graphId)
    routes := backend.routes ++ nodes.flatMap (triggerRoutes graphId) }

@[simp] theorem register_nil (backend : GraphBackend) (graphId : String) :
    backend.register graphId [] = backend := by
  unfold GraphBackend.register
  rw [List.flatMap_nil, List.flatMap_nil, List.append_nil, List.append_nil]

theorem register_register (backend : GraphBackend) (graphId : String)
    (first rest : List NodeSpec) :
    (backend.register graphId first).register graphId rest =
      backend.register graphId (first ++ rest) := by
  unfold GraphBackend.register
  rw [List.flatMap_append, List.flatMap_append, List.append_assoc, List.append_assoc]

section

variable (surroundings : Surroundings) (graphId : String)

/-- What is told about a node. -/
def triggerRecords (node : NodeSpec) : List TriggerRecord :=
  if node.type = "schedule_trigger" then
    [⟨node.id, .scheduleTrigger, (cronOf node).getD ""⟩]
  else if node.type = "webhook_trigger" then
    [⟨node.id, .webhookTrigger,
      webhookPath graphId node.id ++ "?key=" ++ surroundings.apiKey.getD ""⟩]
  else []

/-- Why a `schedule_trigger` gets no job while the scheduler has these jobs. -/
def scheduleFailure (jobs : List ScheduleJob) (node : NodeSpec) : Option HandlerError :=
  match cronOf node with
  | none => some (.exception "object has no attribute 'split'")
  | some cron =>
    match surroundings.cronError cron with
    | some e => some (.http ⟨422, s!"Invalid cron expression for node '{node.id}': {e}"⟩)
    | none =>
      if jobs.any (·.id = jobId graphId node.id) then
        some (.exception
          s!"Job identifier ({jobId graphId node.id}) conflicts with an existing job")
      else none

/-- Why a `webhook_trigger` is not registered. -/
def webhookFailure (node : NodeSpec) : Option HandlerError :=
  match surroundings.routeError (webhookPath graphId node.id) with
  | some e => some (.exception e)
  | none =>
    match configuredApiKey surroundings with
    | .error e => some e
    | .ok _ => none

/-- Why a node cannot be registered while the scheduler has these jobs. -/
def triggerFailure (jobs : List ScheduleJob) (node : NodeSpec) : Option HandlerError :=
  if node.type = "schedule_trigger" then scheduleFailure surroundings graphId jobs node
  else if node.type = "webhook_trigger" then webhookFailure surroundings graphId node
  else none

/-- The node has its route before its registration fails. -/
def RoutedFirst (node : NodeSpec) : Prop :=
  node.type = "webhook_trigger" ∧ surroundings.routeError (webhookPath graphId node.id) = none

instance (node : NodeSpec) : Decidable (RoutedFirst surroundings graphId node) :=
  inferInstanceAs (Decidable (_ ∧ _))

/-- The nodes that a registration reaches while the scheduler has these jobs. The first one that
fails may have its route. -/
def registeredNodes (jobs : List ScheduleJob) : List NodeSpec → List NodeSpec
  | [] => []
  | node :: nodes =>
    match triggerFailure surroundings graphId jobs node with
    | none => node :: registeredNodes jobs nodes
    | some _ => if RoutedFirst surroundings graphId node then [node] else []

end

section

variable {surroundings : Surroundings} {graphId : String} {backend : GraphBackend}

theorem configured_api_key_ok {key : String} (h : configuredApiKey surroundings = .ok key) :
    surroundings.apiKey.getD "" = key := by
  unfold configuredApiKey at h
  split at h
  · cases h
  · cases h
  · rename_i hkey
    cases h
    rw [hkey]
    rfl

theorem add_schedule_job_run (nodeId cron : String) :
    (addScheduleJob surroundings graphId nodeId cron).run backend =
      match surroundings.cronError cron with
      | some e => .error (.valueError e) backend
      | none =>
        if backend.jobs.any (·.id = jobId graphId nodeId) then
          .error (.other s!"Job identifier ({jobId graphId nodeId}) conflicts with an existing job")
            backend
        else .ok () { backend with jobs := backend.jobs ++ [⟨graphId, nodeId, cron⟩] } := by
  unfold addScheduleJob
  cases surroundings.cronError cron with
  | some e => rfl
  | none =>
      show EStateM.run (if backend.jobs.any (·.id = jobId graphId nodeId) then _ else _) backend = _
      split <;> rfl

/-- A `schedule_trigger` gets its job, or changes nothing. -/
theorem register_schedule_run {node : NodeSpec} (htype : node.type = "schedule_trigger") :
    (registerSchedule surroundings graphId node).run backend =
      match scheduleFailure surroundings graphId backend.jobs node with
      | none => .ok (triggerRecords surroundings graphId node) (backend.register graphId [node])
      | some e => .error e backend := by
  have hregister : backend.register graphId [node] =
      { backend with jobs := backend.jobs ++ [⟨graphId, node.id, (cronOf node).getD ""⟩] } := by
    unfold GraphBackend.register triggerJobs triggerRoutes
    rw [List.flatMap_singleton, List.flatMap_singleton, if_pos htype,
      if_neg (by rw [htype]; decide),
      List.append_nil]
  unfold registerSchedule scheduleFailure triggerRecords
  rw [hregister, if_pos htype]
  cases cronOf node with
  | none => rfl
  | some cron =>
      dsimp only
      rw [EStateM.run_bind, Stateful.run_attempt, add_schedule_job_run]
      cases surroundings.cronError cron with
      | some e => rfl
      | none =>
          dsimp only
          by_cases htaken : backend.jobs.any (·.id = jobId graphId node.id)
          · rw [if_pos htaken, if_pos htaken]
            rfl
          · rw [if_neg htaken, if_neg htaken]
            rfl

/-- A `webhook_trigger` gets its route, and without a shared key it fails with the route. -/
theorem register_webhook_run {node : NodeSpec} (htype : node.type = "webhook_trigger") :
    (registerWebhook surroundings graphId node).run backend =
      match webhookFailure surroundings graphId node with
      | none => .ok (triggerRecords surroundings graphId node) (backend.register graphId [node])
      | some e => .error e (if RoutedFirst surroundings graphId node then
          backend.register graphId [node] else backend) := by
  have hschedule : ¬ node.type = "schedule_trigger" := by
    rw [htype]
    decide
  have hregister : backend.register graphId [node] =
      { backend with routes := backend.routes ++ [⟨graphId, node.id⟩] } := by
    unfold GraphBackend.register triggerJobs triggerRoutes
    rw [List.flatMap_singleton, List.flatMap_singleton, if_pos htype, if_neg hschedule,
      List.append_nil]
  unfold registerWebhook webhookFailure triggerRecords addWebhookRoute
  rw [hregister, if_neg hschedule, if_pos htype]
  cases hroute : surroundings.routeError (webhookPath graphId node.id) with
  | some e =>
      have hrouted : ¬ RoutedFirst surroundings graphId node := by
        intro h
        cases hroute.symm.trans h.2
      rw [if_neg hrouted]
      rfl
  | none =>
      rw [if_pos ⟨htype, hroute⟩]
      cases hkey : configuredApiKey surroundings with
      | error e => rfl
      | ok key =>
          rw [configured_api_key_ok hkey]
          rfl

/-- A node is registered, or it fails and has at most its route. -/
theorem register_trigger_run (node : NodeSpec) :
    (registerTrigger surroundings graphId node).run backend =
      match triggerFailure surroundings graphId backend.jobs node with
      | none => .ok (triggerRecords surroundings graphId node) (backend.register graphId [node])
      | some e => .error e (if RoutedFirst surroundings graphId node then
          backend.register graphId [node] else backend) := by
  unfold registerTrigger triggerFailure
  by_cases hschedule : node.type = "schedule_trigger"
  · have hrouted : ¬ RoutedFirst surroundings graphId node := by
      intro h
      exact absurd (hschedule.symm.trans h.1) (by decide)
    rw [if_pos hschedule, if_pos hschedule, if_neg hrouted, register_schedule_run hschedule]
  · rw [if_neg hschedule, if_neg hschedule]
    by_cases hwebhook : node.type = "webhook_trigger"
    · rw [if_pos hwebhook, if_pos hwebhook, register_webhook_run hwebhook]
    · rw [if_neg hwebhook, if_neg hwebhook]
      unfold triggerRecords GraphBackend.register triggerJobs triggerRoutes
      rw [if_neg hschedule, if_neg hwebhook, List.flatMap_singleton, List.flatMap_singleton,
        if_neg hschedule, if_neg hwebhook, List.append_nil, List.append_nil]
      rfl

/-- The jobs of one node take no id from another one. -/
theorem trigger_failure_register {first node : NodeSpec} (jobs : List ScheduleJob)
    (hne : node.id ≠ first.id) :
    triggerFailure surroundings graphId (jobs ++ triggerJobs graphId first) node =
      triggerFailure surroundings graphId jobs node := by
  have hfree : (triggerJobs graphId first).any (·.id = jobId graphId node.id) = false := by
    unfold triggerJobs
    split
    · rw [List.any_cons, List.any_nil, Bool.or_false, decide_eq_false_iff_not]
      exact fun hid => hne (job_id_inj hid).symm
    · rfl
  unfold triggerFailure scheduleFailure
  rw [List.any_append, hfree, Bool.or_false]

/-- The registration of one node makes no other one fail. -/
theorem registered_nodes_register {first : NodeSpec} {nodes : List NodeSpec}
    (jobs : List ScheduleJob) (h : first.id ∉ nodes.map NodeSpec.id) :
    registeredNodes surroundings graphId (jobs ++ triggerJobs graphId first) nodes =
        registeredNodes surroundings graphId jobs nodes ∧
      nodes.findSome? (triggerFailure surroundings graphId (jobs ++ triggerJobs graphId first)) =
        nodes.findSome? (triggerFailure surroundings graphId jobs) := by
  induction nodes with
  | nil => exact ⟨rfl, rfl⟩
  | cons node nodes ih =>
      rw [List.map_cons, List.mem_cons, not_or] at h
      obtain ⟨hnodes, hfailure⟩ := ih h.2
      unfold registeredNodes
      rw [List.findSome?_cons, List.findSome?_cons,
        trigger_failure_register jobs (Ne.symm h.1), hnodes, hfailure]
      exact ⟨rfl, rfl⟩

/-- Without a failure every node is registered. -/
theorem registered_nodes_eq_self {jobs : List ScheduleJob} {nodes : List NodeSpec}
    (h : nodes.findSome? (triggerFailure surroundings graphId jobs) = none) :
    registeredNodes surroundings graphId jobs nodes = nodes := by
  induction nodes with
  | nil => rfl
  | cons node nodes ih =>
      rw [List.findSome?_cons] at h
      unfold registeredNodes
      cases hfailure : triggerFailure surroundings graphId jobs node with
      | some e =>
          rw [hfailure] at h
          cases h
      | none =>
          rw [hfailure] at h
          dsimp only at h ⊢
          rw [ih h]

/-- Nodes are registered up to the first failure. -/
theorem register_nodes_run {nodes : List NodeSpec} (hnodup : (nodes.map NodeSpec.id).Nodup) :
    (registerNodes surroundings graphId nodes).run backend =
      Stateful.ended (nodes.findSome? (triggerFailure surroundings graphId backend.jobs))
        (nodes.flatMap (triggerRecords surroundings graphId))
        (backend.register graphId (registeredNodes surroundings graphId backend.jobs nodes)) := by
  induction nodes generalizing backend with
  | nil =>
      show _ = EStateM.Result.ok [] (backend.register graphId [])
      rw [register_nil]
      rfl
  | cons first nodes ih =>
      obtain ⟨hfirst, hrest⟩ := List.nodup_cons.mp hnodup
      unfold registerNodes registeredNodes
      rw [EStateM.run_bind, register_trigger_run, List.findSome?_cons]
      cases hfailure : triggerFailure surroundings graphId backend.jobs first with
      | some e =>
          dsimp only
          split
          · rfl
          · rw [register_nil]
            rfl
      | none =>
          have hjobs : (backend.register graphId [first]).jobs =
              backend.jobs ++ triggerJobs graphId first := by
            unfold GraphBackend.register
            rw [List.flatMap_singleton]
          obtain ⟨hnodes, hfailures⟩ :
              registeredNodes surroundings graphId
                (backend.jobs ++ triggerJobs graphId first) nodes =
                  registeredNodes surroundings graphId backend.jobs nodes ∧ _ :=
            registered_nodes_register backend.jobs hfirst
          dsimp only
          rw [EStateM.run_bind, ih hrest, hjobs, hnodes, hfailures, register_register]
          cases nodes.findSome? (triggerFailure surroundings graphId backend.jobs) with
          | some e => rfl
          | none => rfl

end

/-! ## What a registration leaves alone -/

section

variable {τ : Type} {view : GraphBackend → τ} {surroundings : Surroundings}

/-- A registration only changes the jobs and the routes. -/
theorem register_nodes_frame (hjobs : ∀ backend jobs, view { backend with jobs } = view backend)
    (hroutes : ∀ backend routes, view { backend with routes } = view backend) (graphId : String)
    (nodes : List NodeSpec) :
    Stateful.Frame view (registerNodes surroundings graphId nodes) := by
  have hregister : ∀ backend nodes,
      view (GraphBackend.register backend graphId nodes) = view backend :=
    fun backend nodes =>
      (hroutes { backend with jobs := backend.jobs ++ nodes.flatMap (triggerJobs graphId) }
        _).trans (hjobs backend _)
  induction nodes with
  | nil => exact Stateful.frame_pure _
  | cons node nodes ih =>
      unfold registerNodes
      refine Stateful.frame_bind (fun backend => ?_) fun _ =>
        Stateful.frame_bind ih fun _ => Stateful.frame_pure _
      rw [register_trigger_run]
      split
      · exact hregister _ _
      · show view (if _ then _ else _) = _
        split
        · exact hregister _ _
        · rfl

end

end AgentGraphStudio
