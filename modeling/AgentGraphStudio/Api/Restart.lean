import AgentGraphStudio.Api.ActivationAgreement

/-!
# The active graphs after a restart

A restarted process knows the active graphs from their rows only. `RestartInvariant` says that every
active graph can be registered again from its row, and `restart_preserves` that then a restart
brings back the same graphs with the same specs, triggers and users. An update of an active graph,
an activation by another user than the creator of the row, and what breaks the agreement of registry
and rows also break this.
-/

namespace AgentGraphStudio

/-! ## Restarting -/

/-- The process is restarted, and re-activates the persisted graphs. -/
def GraphBackend.restarted (backend : GraphBackend) (surroundings : Surroundings) : GraphBackend :=
  Stateful.stateOf ((reactivatePersistedGraphs surroundings).run
    { backend with active := .empty, jobs := [], routes := [] })

/-- A restart brings back the same active graphs. -/
def RestartPreserves (surroundings : Surroundings) (backend : GraphBackend) : Prop :=
  ∀ graphId, (backend.restarted surroundings).active.get? graphId = backend.active.get? graphId

/-- The environment and the stores are the same. What Telegram answers and the time may differ. -/
structure SameEnvironment (surroundings other : Surroundings) : Prop where
  registry : other.registry = surroundings.registry
  store : other.store = surroundings.store
  cronError : other.cronError = surroundings.cronError
  routeError : other.routeError = surroundings.routeError
  apiKey : other.apiKey = surroundings.apiKey
  dump : other.dump = surroundings.dump
  load : other.load = surroundings.load

/-- No job of one graph has the id of a job of the other. -/
def JobsApart (graphId : String) (graph : GraphSpec) (otherId : String)
    (other : GraphSpec) : Prop :=
  ∀ node ∈ graph.nodes, node.type = "schedule_trigger" →
  ∀ otherNode ∈ other.nodes, otherNode.type = "schedule_trigger" →
    jobId graphId node.id ≠ jobId otherId otherNode.id

/-- The request keeps what a restart needs. The row of an active graph keeps its spec; a graph is
activated by the user who created its row, with a spec that can be stored and read back and with
jobs of its own; and an activation only fails while its id is inactive. -/
def KeepsRestart (surroundings : Surroundings) (backend : GraphBackend) : GraphRequest → Prop
  | .update graphId request =>
    ∀ active spec text, backend.active.get? graphId = some active → request.spec = some spec →
      surroundings.dump spec = .ok text → surroundings.load text = .ok active.graph
  | .activate graphId graph caller =>
    validateForActivation surroundings graph (callerUserId caller) = .ok () →
      match registrationFailure surroundings graphId (backend.vacate graphId).jobs graph
        (callerUserId caller) with
      | some _ => backend.active.get? graphId = none
      | none =>
        (backend.rows.get? graphId).bind StoredGraph.createdBy = callerUserId caller ∧
          (∃ text, surroundings.dump graph = .ok text ∧ surroundings.load text = .ok graph) ∧
          ∀ otherId active, otherId ≠ graphId → backend.active.get? otherId = some active →
            JobsApart graphId graph otherId active.graph
  | _ => True

/-! ## What a restart needs -/

/-- The row of a graph has its spec and its user. -/
def StoredAs (surroundings : Surroundings) (rows : GraphsTable) (graphId : String)
    (active : ActiveGraph) : Prop :=
  ∃ row, rows.get? graphId = some row ∧ surroundings.load row.specJson = .ok active.graph ∧
    row.createdBy = active.createdBy

/-- The graph passes validation for its user, and its triggers can be registered. -/
structure Registrable (surroundings : Surroundings) (graphId : String) (active : ActiveGraph) :
    Prop where
  valid : validateForActivation surroundings active.graph active.createdBy = .ok ()
  triggers : active.triggers = graphTriggers surroundings graphId active.graph
  registers : ∀ node ∈ active.graph.nodes, triggerFailure surroundings graphId [] node = none

/-- Every active graph can be registered again from its row, next to the others. -/
structure RestartInvariant (surroundings : Surroundings) (backend : GraphBackend) : Prop where
  agrees : backend.ActivationAgrees
  stored : ∀ graphId active, backend.active.get? graphId = some active →
    StoredAs surroundings backend.rows graphId active
  registrable : ∀ graphId active, backend.active.get? graphId = some active →
    Registrable surroundings graphId active
  apart : ∀ graphId active otherId other, graphId ≠ otherId →
    backend.active.get? graphId = some active → backend.active.get? otherId = some other →
    JobsApart graphId active.graph otherId other.graph

/-! ## Restarting from the rows -/

section

variable {surroundings : Surroundings} {graphId : String}

/-- A node fails because of itself, or because its job id is taken. -/
theorem trigger_failure_eq_none_iff {jobs : List ScheduleJob} {node : NodeSpec} :
    triggerFailure surroundings graphId jobs node = none ↔
      triggerFailure surroundings graphId [] node = none ∧
        (node.type = "schedule_trigger" → ∀ job ∈ jobs, job.id ≠ jobId graphId node.id) := by
  unfold triggerFailure
  by_cases hschedule : node.type = "schedule_trigger"
  · rw [if_pos hschedule, if_pos hschedule]
    unfold scheduleFailure
    cases cronOf node with
    | none => exact ⟨nofun, fun h => nomatch h.1⟩
    | some cron =>
        dsimp only
        cases surroundings.cronError cron with
        | some e => exact ⟨nofun, fun h => nomatch h.1⟩
        | none =>
            dsimp only
            rw [List.any_nil]
            constructor
            · intro h
              refine ⟨rfl, fun _ job hjob hid => ?_⟩
              rw [if_pos (List.any_eq_true.mpr ⟨job, hjob, decide_eq_true hid⟩)] at h
              cases h
            · intro h
              refine if_neg fun htaken => ?_
              obtain ⟨job, hjob, hid⟩ := List.any_eq_true.mp htaken
              exact h.2 hschedule job hjob (of_decide_eq_true hid)
  · rw [if_neg hschedule, if_neg hschedule]
    exact ⟨fun h => ⟨h, fun hschedule' => absurd hschedule' hschedule⟩, fun h => h.1⟩

/-- Only the state of a re-activation counts for the next one. -/
theorem reactivate_rows_cons (row : StoredGraph) (rows : List (String × StoredGraph))
    (current : GraphBackend) :
    (reactivateRows surroundings ((graphId, row) :: rows)).run current =
      (reactivateRows surroundings rows).run
        (Stateful.stateOf ((reactivateGraph surroundings graphId row).run current)) := by
  show EStateM.run (Functor.map (fun _ => ()) (Stateful.attempt (reactivateGraph surroundings
    graphId row) : GraphRoute _) >>= fun _ => reactivateRows surroundings rows) current = _
  rw [map_eq_pure_bind, EStateM.run_bind, EStateM.run_bind, Stateful.run_attempt]
  cases (reactivateGraph surroundings graphId row).run current with
  | ok value after => rfl
  | error e after => rfl

/-- A graph that can be registered again is, where none of its job ids is taken. -/
theorem reactivate_graph_ok {active : ActiveGraph} {row : StoredGraph} {current : GraphBackend}
    (hload : surroundings.load row.specJson = .ok active.graph)
    (hcreator : row.createdBy = active.createdBy)
    (hregistrable : Registrable surroundings graphId active)
    (hfree : ∀ node ∈ active.graph.nodes, node.type = "schedule_trigger" →
      ∀ job ∈ current.jobs, job.id ≠ jobId graphId node.id) :
    Stateful.stateOf ((reactivateGraph surroundings graphId row).run current) =
      (current.register graphId active.graph.nodes).setActive graphId active := by
  have hfailures : active.graph.nodes.findSome?
      (triggerFailure surroundings graphId current.jobs) = none := by
    refine List.findSome?_eq_none_iff.mpr fun node hnode => ?_
    exact trigger_failure_eq_none_iff.mpr ⟨hregistrable.registers node hnode, hfree node hnode⟩
  rw [reactivate_graph_run, hload]
  dsimp only
  rw [hcreator, hregistrable.valid]
  dsimp only
  rw [hfailures, registered_nodes_eq_self hfailures, ← hregistrable.triggers]
  rfl

/-- The persisted graphs are registered one after another, and end up as they were. -/
theorem reactivate_rows_active {backend : GraphBackend}
    (hinvariant : RestartInvariant surroundings backend) {rows : List (String × StoredGraph)}
    {current : GraphBackend} (hnodup : (rows.map Prod.fst).Nodup)
    (hrows : ∀ entry ∈ rows, ∃ active, backend.active.get? entry.1 = some active ∧
      surroundings.load entry.2.specJson = .ok active.graph ∧
      entry.2.createdBy = active.createdBy)
    (hjobs : ∀ job ∈ current.jobs, ∃ graphId active node, graphId ∉ rows.map Prod.fst ∧
      backend.active.get? graphId = some active ∧ node ∈ active.graph.nodes ∧
      node.type = "schedule_trigger" ∧ job.id = jobId graphId node.id) (graphId : String) :
    (Stateful.stateOf ((reactivateRows surroundings rows).run current)).active.get? graphId =
      if graphId ∈ rows.map Prod.fst then backend.active.get? graphId
      else current.active.get? graphId := by
  -- By the rows: no job of those before can be one of this row, so it is registered.
  induction rows generalizing current with
  | nil => rfl
  | cons entry rows ih =>
      obtain ⟨rowId, row⟩ := entry
      obtain ⟨hfirst, hrest⟩ := List.nodup_cons.mp hnodup
      obtain ⟨active, hactive, hload, hcreator⟩ := hrows _ List.mem_cons_self
      have hstate := reactivate_graph_ok hload hcreator
        (hinvariant.registrable rowId active hactive)
        fun node hnode hschedule job hjob => by
          obtain ⟨otherId, other, otherNode, hother, hget, hmem, htype, hid⟩ := hjobs job hjob
          have hne : otherId ≠ rowId := fun hsame => hother (hsame ▸ List.mem_cons_self)
          rw [hid]
          exact hinvariant.apart otherId other rowId active hne hget hactive otherNode hmem htype
            node hnode hschedule
      rw [reactivate_rows_cons, hstate, ih hrest
        (fun entry hentry => hrows entry (List.mem_cons_of_mem _ hentry)) ?_]
      · show (if graphId ∈ rows.map Prod.fst then _ else
          (current.active.set rowId active).get? graphId) = _
        have hkeys : graphId ∈ ((rowId, row) :: rows).map Prod.fst ↔
            graphId = rowId ∨ graphId ∈ rows.map Prod.fst :=
          List.mem_cons
        rw [Dict.get?_set]
        by_cases hsame : graphId = rowId
        · rw [if_pos hsame, if_pos (hkeys.mpr (.inl hsame)), hsame, if_neg hfirst, hactive]
        · rw [if_neg hsame]
          by_cases hlater : graphId ∈ rows.map Prod.fst
          · rw [if_pos hlater, if_pos (hkeys.mpr (.inr hlater))]
          · rw [if_neg hlater, if_neg fun hmem => (hkeys.mp hmem).elim hsame hlater]
      · intro job hjob
        rcases List.mem_append.mp hjob with hold | hnew
        · obtain ⟨otherId, other, node, hother, hnode⟩ := hjobs job hold
          exact ⟨otherId, other, node, fun hmem => hother (List.mem_cons_of_mem _ hmem), hnode⟩
        · obtain ⟨node, hnode, hnew⟩ := List.mem_flatMap.mp hnew
          unfold triggerJobs at hnew
          split at hnew
          · rename_i hschedule
            cases List.mem_singleton.mp hnew
            exact ⟨rowId, active, node, hfirst, hactive, hnode, hschedule, rfl⟩
          · cases hnew

/-- Under the invariant, a restart brings back the same active graphs. -/
theorem restart_preserves_of_invariant {backend : GraphBackend}
    (h : RestartInvariant surroundings backend) : RestartPreserves surroundings backend := by
  have hlisted : ∀ entry ∈ backend.rows.listActiveGraphs, ∃ active,
      backend.active.get? entry.1 = some active ∧
        surroundings.load entry.2.specJson = .ok active.graph ∧
        entry.2.createdBy = active.createdBy := by
    intro entry hentry
    obtain ⟨hrow, hflag⟩ := GraphsTable.mem_list_active_graphs_iff.mp hentry
    obtain ⟨active, hactive⟩ := Option.isSome_iff_exists.mp
      ((h.agrees entry.1).mpr ⟨entry.2, hrow, hflag⟩)
    obtain ⟨stored, hstored, hload, hcreator⟩ := h.stored entry.1 active hactive
    cases hrow.symm.trans hstored
    exact ⟨active, hactive, hload, hcreator⟩
  have hnodup : (backend.rows.listActiveGraphs.map Prod.fst).Nodup :=
    (List.filter_sublist.map Prod.fst).nodup backend.rows.nodupKeys
  intro graphId
  refine (reactivate_rows_active h hnodup hlisted (fun _ hjob => absurd hjob List.not_mem_nil)
    graphId).trans ?_
  split
  · rfl
  · rename_i hunlisted
    refine (Option.not_isSome_iff_eq_none.mp fun hsome => hunlisted ?_).symm
    obtain ⟨row, hrow, hflag⟩ := (h.agrees graphId).mp hsome
    exact List.mem_map_of_mem
      (GraphsTable.mem_list_active_graphs_iff.mpr ⟨hrow, hflag⟩)

end

/-! ## What the requests keep -/

section

variable {surroundings other : Surroundings}

theorem validate_same_environment (h : SameEnvironment surroundings other) (graph : GraphSpec)
    (userId : Option String) :
    validateForActivation other graph userId = validateForActivation surroundings graph userId := by
  unfold validateForActivation
  rw [h.store, h.registry]

theorem trigger_failure_same_environment (h : SameEnvironment surroundings other)
    (graphId : String) (jobs : List ScheduleJob) (node : NodeSpec) :
    triggerFailure other graphId jobs node = triggerFailure surroundings graphId jobs node := by
  unfold triggerFailure scheduleFailure webhookFailure configuredApiKey
  rw [h.cronError, h.routeError, h.apiKey]

theorem graph_triggers_same_environment (h : SameEnvironment surroundings other)
    (graphId : String) (graph : GraphSpec) :
    graphTriggers other graphId graph = graphTriggers surroundings graphId graph := by
  unfold graphTriggers triggerRecords
  rw [h.apiKey]

/-- A graph that was registered can be registered again. -/
theorem registrable_of_registered (h : SameEnvironment surroundings other) {graphId : String}
    {jobs : List ScheduleJob} {graph : GraphSpec} {userId : Option String}
    (hvalid : validateForActivation other graph userId = .ok ())
    (hregistered : registrationFailure other graphId jobs graph userId = none) :
    Registrable surroundings graphId ⟨graph, graphTriggers other graphId graph, userId⟩ := by
  refine ⟨?_, graph_triggers_same_environment h graphId graph, fun node hnode => ?_⟩
  · rwa [validate_same_environment h] at hvalid
  · unfold registrationFailure at hregistered
    have hfailure :=
      List.findSome?_eq_none_iff.mp (Option.or_eq_none_iff.mp hregistered).1 node hnode
    rw [trigger_failure_same_environment h] at hfailure
    exact (trigger_failure_eq_none_iff.mp hfailure).1

end

section

variable {surroundings other : Surroundings} {hashToken : String → String}
  {backend after : GraphBackend} {graphId : String}

theorem StoredAs.of_get_eq {rows rows' : GraphsTable} {active : ActiveGraph}
    (h : StoredAs surroundings rows graphId active)
    (heq : rows'.get? graphId = rows.get? graphId) :
    StoredAs surroundings rows' graphId active := by
  unfold StoredAs
  rw [heq]
  exact h

theorem JobsApart.symm {otherId : String} {graph otherGraph : GraphSpec}
    (h : JobsApart graphId graph otherId otherGraph) : JobsApart otherId otherGraph graphId graph :=
  fun otherNode hother htype node hnode htype' hid =>
    h node hnode htype' otherNode hother htype hid.symm

/-- A request that activates nothing has to keep the rows of the graphs that stay active. -/
theorem RestartInvariant.of_kept (h : RestartInvariant surroundings backend)
    (hagrees : after.ActivationAgrees)
    (hkept : ∀ graphId active, after.active.get? graphId = some active →
      backend.active.get? graphId = some active ∧
        StoredAs surroundings after.rows graphId active) :
    RestartInvariant surroundings after where
  agrees := hagrees
  stored graphId active hactive := (hkept graphId active hactive).2
  registrable graphId active hactive :=
    h.registrable graphId active (hkept graphId active hactive).1
  apart graphId active otherId otherActive hne hactive hother :=
    h.apart graphId active otherId otherActive hne (hkept graphId active hactive).1
      (hkept otherId otherActive hother).1

/-- Only the registry and the rows count. -/
theorem RestartInvariant.of_eq (h : RestartInvariant surroundings backend)
    (hagrees : after.ActivationAgrees) (hactive : after.active = backend.active)
    (hrows : after.rows = backend.rows) : RestartInvariant surroundings after := by
  refine h.of_kept hagrees fun activeId active hget => ?_
  rw [hactive] at hget
  rw [hrows]
  exact ⟨hget, h.stored activeId active hget⟩

/-- A graph leaves the registry, and the rows of the others stay. -/
theorem RestartInvariant.of_erased (h : RestartInvariant surroundings backend)
    (hagrees : after.ActivationAgrees) (hactive : after.active = backend.active.erase graphId)
    (hrows : ∀ otherId, otherId ≠ graphId → after.rows.get? otherId = backend.rows.get? otherId) :
    RestartInvariant surroundings after := by
  refine h.of_kept hagrees fun otherId active hget => ?_
  rw [hactive, Dict.get?_erase] at hget
  split at hget
  · cases hget
  · rename_i hne
    exact ⟨hget, (h.stored otherId active hget).of_get_eq (hrows otherId hne)⟩

/-- What an activation needs is enough for the registry and the rows to agree. -/
theorem keeps_activation_of_restart {request : GraphRequest}
    (h : KeepsRestart other backend request) : KeepsActivation other backend request := by
  cases request with
  | activate graphId graph caller =>
      intro hvalid
      have hkept := h hvalid
      cases hfailure : registrationFailure other graphId (backend.vacate graphId).jobs graph
        (callerUserId caller) with
      | some e =>
          rw [hfailure] at hkept
          exact hkept
      | none =>
          rw [hfailure] at hkept
          obtain ⟨_, ⟨text, hdump, _⟩, _⟩ := hkept
          exact .inr ⟨text, hdump⟩
  | save | update | deactivate | delete | mintKey | revokeKey => trivial

/-- A new row is the row of no active graph. -/
theorem restart_invariant_create (h : RestartInvariant surroundings backend)
    (request : CreateGraphRequest) (caller : Caller) :
    RestartInvariant surroundings
      (Stateful.stateOf ((createGraph other graphId request caller).run backend)) := by
  have hactive : (Stateful.stateOf ((createGraph other graphId request caller).run
      backend)).active = backend.active :=
    create_graph_frame (fun _ _ => rfl) (fun _ _ => rfl) graphId request caller backend
  refine h.of_kept (agrees_after_create h.agrees request caller) fun activeId active hget => ?_
  rw [hactive] at hget
  refine ⟨hget, ?_⟩
  have hstored := h.stored activeId active hget
  rcases create_graph_rows graphId request caller with hrows | ⟨row, hnew, _, hrows⟩
  · rw [hrows]
    exact hstored
  · rw [hrows]
    refine hstored.of_get_eq (Dict.get?_set_of_ne _ _ fun hsame => ?_)
    obtain ⟨existing, hexisting, _⟩ := hstored
    rw [hsame, hnew] at hexisting
    cases hexisting

/-- An update leaves the spec of an active graph as it was. -/
theorem restart_invariant_update (h : RestartInvariant surroundings backend)
    (henv : SameEnvironment surroundings other) (request : UpdateGraphRequest)
    (hkept : KeepsRestart other backend (.update graphId request)) :
    RestartInvariant surroundings
      (Stateful.stateOf ((updateGraph other graphId request).run backend)) := by
  have hactive : (Stateful.stateOf ((updateGraph other graphId request).run
      backend)).active = backend.active :=
    update_graph_frame (fun _ _ => rfl) (fun _ _ => rfl) graphId request backend
  refine h.of_kept (agrees_after_update h.agrees request) fun activeId active hget => ?_
  rw [hactive] at hget
  refine ⟨hget, ?_⟩
  have hstored := h.stored activeId active hget
  rcases update_graph_rows graphId request with
    hrows | ⟨existing, row, given, hexisting, _, hcreator, hgiven, hspec, hrows⟩
  · rw [hrows]
    exact hstored
  · rw [hrows]
    by_cases hsame : activeId = graphId
    · obtain ⟨found, hfound, hload, howner⟩ := hstored
      rw [hsame] at hfound hget ⊢
      cases hexisting.symm.trans hfound
      refine ⟨row, Dict.get?_set_self _ _ _, ?_, hcreator.trans howner⟩
      unfold dumpGiven at hgiven
      split at hgiven
      · cases hgiven
        rwa [hspec]
      · rename_i spec hrequest
        cases hdump : other.dump spec with
        | error e =>
            rw [hdump] at hgiven
            cases hgiven
        | ok text =>
            rw [hdump] at hgiven
            cases hgiven
            rw [hspec, ← henv.load]
            exact hkept active spec text hget hrequest hdump
    · exact hstored.of_get_eq (Dict.get?_set_of_ne _ _ hsame)

/-- An activation by the creator of the row, with jobs of its own, can be repeated. -/
theorem restart_invariant_activate (h : RestartInvariant surroundings backend)
    (henv : SameEnvironment surroundings other) (graph : GraphSpec) (caller : Caller)
    (hkept : KeepsRestart other backend (.activate graphId graph caller)) :
    RestartInvariant surroundings
      (Stateful.stateOf ((activateGraph other graphId graph caller).run backend)) := by
  have hagrees := (agrees_after_activate_iff h.agrees graph caller).mpr
    (keeps_activation_of_restart hkept)
  generalize hafter : Stateful.stateOf
    ((activateGraph other graphId graph caller).run backend) = after at hagrees ⊢
  rcases activate_graph_tables graphId graph caller hafter with
    ⟨_, rfl⟩ | ⟨hvalid, _, ⟨_, hactive, hrows⟩ | ⟨hregistered, hactive, hrows⟩⟩
  · exact h
  · exact h.of_erased hagrees hactive fun otherId _ => by rw [hrows]
  · have hkept := hkept hvalid
    rw [hregistered] at hkept
    obtain ⟨hcreator, ⟨text, hdump, hload⟩, hapart⟩ := hkept
    rcases hrows with ⟨⟨e, hfailed⟩, _⟩ | ⟨stored, hstored, hrows⟩
    · cases hdump.symm.trans hfailed
    · cases hdump.symm.trans hstored
      obtain ⟨row, hrow, _, hspec, howner⟩ := GraphsTable.set_active_state_eq backend.rows graphId
        text true other.now
      rw [hrow] at hrows
      -- After the activation a graph is active as it was, or it is the one that is activated.
      have hget : ∀ activeId active, after.active.get? activeId = some active →
          (activeId = graphId ∧
            active = ⟨graph, graphTriggers other graphId graph, callerUserId caller⟩) ∨
          (activeId ≠ graphId ∧ backend.active.get? activeId = some active) := by
        intro activeId active hget
        rw [hactive, Dict.get?_set] at hget
        split at hget
        · rename_i hsame
          cases hget
          exact .inl ⟨hsame, rfl⟩
        · rename_i hne
          rw [Dict.get?_erase_of_ne _ hne] at hget
          exact .inr ⟨hne, hget⟩
      refine ⟨hagrees, fun activeId active hfound => ?_, fun activeId active hfound => ?_,
        fun firstId first secondId second hne hfirst hsecond => ?_⟩
      · rcases hget activeId active hfound with ⟨rfl, rfl⟩ | ⟨hne, hbefore⟩
        · refine ⟨row, by rw [hrows, Dict.get?_set_self], ?_, howner.trans hcreator⟩
          rw [hspec, ← henv.load]
          exact hload
        · rw [hrows]
          exact (h.stored activeId active hbefore).of_get_eq (Dict.get?_set_of_ne _ _ hne)
      · rcases hget activeId active hfound with ⟨rfl, rfl⟩ | ⟨_, hbefore⟩
        · exact registrable_of_registered henv hvalid hregistered
        · exact h.registrable activeId active hbefore
      · rcases hget firstId first hfirst with ⟨rfl, rfl⟩ | ⟨hfirst', hbefore⟩
        · rcases hget secondId second hsecond with ⟨rfl, rfl⟩ | ⟨hsecond', hbefore⟩
          · exact absurd rfl hne
          · exact hapart secondId second hsecond' hbefore
        · rcases hget secondId second hsecond with ⟨rfl, rfl⟩ | ⟨_, hbefore'⟩
          · exact (hapart firstId first hfirst' hbefore).symm
          · exact h.apart firstId first secondId second hne hbefore hbefore'

theorem restart_invariant_deactivate (h : RestartInvariant surroundings backend)
    (caller : Caller) :
    RestartInvariant surroundings
      (Stateful.stateOf ((deactivateGraph other graphId caller).run backend)) := by
  have hagrees : (Stateful.stateOf
      ((deactivateGraph other graphId caller).run backend)).ActivationAgrees :=
    agrees_after_deactivate h.agrees caller
  revert hagrees
  rw [deactivate_graph_run]
  cases backend.active.get? graphId with
  | none => exact fun _ => h
  | some active =>
      dsimp only
      rw [Stateful.stateOf_ended]
      cases removalFailure other active.graph (callerUserId caller) with
      | some e => exact fun hagrees => h.of_eq hagrees rfl rfl
      | none =>
          exact fun hagrees => h.of_erased hagrees rfl fun _ hne =>
            GraphsTable.get?_set_is_active_of_ne hne

theorem restart_invariant_delete (h : RestartInvariant surroundings backend) :
    RestartInvariant surroundings (Stateful.stateOf ((deleteGraph graphId).run backend)) := by
  have hagrees : (Stateful.stateOf ((deleteGraph graphId).run backend)).ActivationAgrees :=
    agrees_after_delete h.agrees
  revert hagrees
  rw [delete_graph_run]
  dsimp only
  split
  · exact fun hagrees => h.of_erased hagrees (vacate_active backend graphId) fun _ hne =>
      Dict.get?_erase_of_ne _ hne
  · exact fun hagrees => h.of_erased hagrees (vacate_active backend graphId) fun _ hne =>
      Dict.get?_erase_of_ne _ hne

/-- Every request that keeps what a restart needs preserves the invariant. -/
theorem restart_invariant_step (h : RestartInvariant surroundings backend)
    (henv : SameEnvironment surroundings other) (request : GraphRequest)
    (hkept : KeepsRestart other backend request) :
    RestartInvariant surroundings (afterGraphRequest hashToken other request backend) := by
  cases request with
  | save graphId request caller => exact restart_invariant_create h request caller
  | update graphId request => exact restart_invariant_update h henv request hkept
  | activate graphId graph caller => exact restart_invariant_activate h henv graph caller hkept
  | deactivate graphId caller => exact restart_invariant_deactivate h caller
  | delete graphId => exact restart_invariant_delete h
  | mintKey graphId label timeoutSeconds draw caller =>
      have hframe : Stateful.Frame (fun backend : GraphBackend => (backend.active, backend.rows))
          (createInvokeKey other hashToken graphId label timeoutSeconds draw caller) :=
        create_invoke_key_frame (fun _ _ => rfl) hashToken graphId label timeoutSeconds draw caller
      obtain ⟨hactive, hrows⟩ := Prod.mk.inj (hframe backend)
      exact h.of_eq (agrees_of_eq h.agrees hactive hrows) hactive hrows
  | revokeKey graphId keyId =>
      have hframe : Stateful.Frame (fun backend : GraphBackend => (backend.active, backend.rows))
          (deleteInvokeKey graphId keyId) :=
        delete_invoke_key_frame (fun _ _ => rfl) graphId keyId
      obtain ⟨hactive, hrows⟩ := Prod.mk.inj (hframe backend)
      exact h.of_eq (agrees_of_eq h.agrees hactive hrows) hactive hrows

end

/-- On an empty backend there is nothing to restart. -/
theorem empty_restart_invariant (surroundings : Surroundings) :
    RestartInvariant surroundings .empty :=
  ⟨empty_agrees, fun _ _ h => (by cases h), fun _ _ h => (by cases h),
    fun _ _ _ _ _ h => (by cases h)⟩

/-- In a history whose requests all keep what a restart needs, a restart in the same environment
brings back the same active graphs, with the same specs, triggers and users, after every request. -/
theorem restart_preserves (hashToken : String → String) (surroundings : Surroundings)
    (history : List (Surroundings × GraphRequest))
    (henv : ∀ step ∈ history, SameEnvironment surroundings step.1)
    (hsteps : EveryStep hashToken history .empty KeepsRestart) :
    EveryState hashToken history .empty (RestartPreserves surroundings) := by
  have hinvariant : EveryState hashToken history .empty (RestartInvariant surroundings) :=
    every_state_of_steps (fun step hmem _ h hkept =>
      restart_invariant_step h (henv step hmem) step.2 hkept)
      (empty_restart_invariant surroundings) hsteps
  exact fun first rest hsplit => restart_preserves_of_invariant (hinvariant first rest hsplit)

/-- The graph `mail` is activated by this caller. -/
def mailActivatedBy (caller : Caller) : List (Surroundings × GraphRequest) :=
  [(plainSurroundings, .activate "mail" (cronGraph "tick" "* * * * *") caller)]

set_option maxRecDepth 20000 in
/-- A graph that is activated with the shared key comes back after a restart. -/
theorem shared_mail_restarts :
    EveryState plainAuth.hashToken (mailActivatedBy none) .empty
      (RestartPreserves plainSurroundings) := by
  refine restart_preserves plainAuth.hashToken plainSurroundings (mailActivatedBy none)
    (fun step hstep => ?_) (every_step_cons (fun _ => ?_) (every_step_nil _))
  · cases List.mem_singleton.mp hstep
    exact ⟨rfl, rfl, rfl, rfl, rfl, rfl, rfl⟩
  · have hregistered : (registrationFailure plainSurroundings "mail" []
        (cronGraph "tick" "* * * * *") (callerUserId none)).isNone := by
      decide +kernel
    have hother : ¬ graphText (cronGraph "tick" "* * * * *") = graphText botGraph := by
      decide +kernel
    have hload : plainSurroundings.load (graphText (cronGraph "tick" "* * * * *")) =
        .ok (cronGraph "tick" "* * * * *") := by
      show (if graphText (cronGraph "tick" "* * * * *") = graphText botGraph then
          (.ok botGraph : Except String GraphSpec)
        else if graphText (cronGraph "tick" "* * * * *") =
            graphText (cronGraph "tick" "* * * * *") then .ok (cronGraph "tick" "* * * * *")
        else .error "1 validation error for GraphSpec") = _
      rw [if_neg hother, if_pos rfl]
    show match registrationFailure plainSurroundings "mail" [] (cronGraph "tick" "* * * * *")
        (callerUserId none) with
      | some _ => GraphBackend.empty.active.get? "mail" = none
      | none => (GraphBackend.empty.rows.get? "mail").bind StoredGraph.createdBy = none ∧
          (∃ text, plainSurroundings.dump (cronGraph "tick" "* * * * *") = .ok text ∧
            plainSurroundings.load text = .ok (cronGraph "tick" "* * * * *")) ∧
          ∀ otherId active, otherId ≠ "mail" →
            GraphBackend.empty.active.get? otherId = some active →
            JobsApart "mail" (cronGraph "tick" "* * * * *") otherId active.graph
    rw [Option.isNone_iff_eq_none.mp hregistered]
    exact ⟨rfl, ⟨_, rfl, hload⟩, fun _ _ _ hactive => (by cases hactive)⟩

set_option maxRecDepth 20000 in
/-- The row of an unsaved graph has no creator, so after a restart the graph that `alice` activated
has no user. -/
theorem unsaved_mail_loses_user :
    ¬ EveryState plainAuth.hashToken (mailActivatedBy alice) .empty
      (RestartPreserves plainSurroundings) := by
  intro h
  have hrestarted := h (mailActivatedBy alice) [] (List.append_nil _).symm "mail"
  have huser : (((afterGraphRequests plainAuth.hashToken (mailActivatedBy alice) .empty).restarted
      plainSurroundings).active.get? "mail").map ActiveGraph.createdBy = some none := by
    decide +kernel
  rw [hrestarted] at huser
  exact absurd huser (by decide +kernel)

end AgentGraphStudio
