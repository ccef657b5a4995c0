import AgentGraphStudio.Execution.Operations

/-!
# What a run may perform

A `Policy` says which operations are permitted after which history and which responses count
as allowed; routine operations are always permitted. `Act.Always policy` holds of a computation
that performs only permitted operations, and it passes through everything that bodies are
built with. `run_graph_always` carries it from the bodies of a graph to the run of the graph,
whatever the order in which the nodes of a round perform their operations.
-/

namespace AgentGraphStudio

/-- The operations that no policy restricts: those that neither look a connection up, nor read
a stored connection or credential, nor call a tool or continue a conversation about tools, nor
decide an approval, nor change a run's record other than by the activity of a sub-node. -/
def Op.Routine : Op → Prop
  | .lookup .. | .completeWithTools .. | .callStdioTool .. | .executeGenerated _
  | .getConnection .. | .getApiKey .. | .getValidAccessToken .. | .callTool .. => False
  | .updateRun _ update =>
    match update with
    | .subNodeActivity .. => True
    | _ => False
  | .approval op =>
    match op with
    | .setDecision .. | .remember .. | .setEvent _ | .clearRemembered _ => False
    | _ => True
  | _ => True

/-- Which operations are permitted, and which responses can be relied on. -/
structure Policy where
  permitted : History → Op → Prop
  allowed : History → (op : Op) → Res op → Prop
  routine : ∀ history op, op.Routine → permitted history op

/-- The operations by which a body reaches stored connections, credentials and tools, or a model
that may ask for tools. -/
def Op.ToolUse : Op → Prop
  | .completeWithTools .. | .callStdioTool .. | .executeGenerated _ | .getConnection ..
  | .getApiKey .. | .getValidAccessToken .. | .callTool .. => True
  | _ => False

/-- A policy that looks neither at the history nor at the responses. -/
def Policy.ofOps (permitted : Op → Prop) (h : ∀ op, op.Routine → permitted op) : Policy where
  permitted _ := permitted
  allowed _ _ _ := True
  routine _ := h

/-- Every operation of a run is permitted. -/
theorem Policy.ofOps_run {permitted : Op → Prop} {h : ∀ op, op.Routine → permitted op}
    {α : Type} {program rest : Program Op Res α} {events : History}
    (halways : Program.Always (Policy.ofOps permitted h).permitted
      (Policy.ofOps permitted h).allowed
      program) (hrun : Program.Run program events rest) : ∀ event ∈ events, permitted event.op := by
  intro event hevent
  obtain ⟨before, after, hevents⟩ := List.append_of_mem hevent
  exact halways.run hrun (fun _ _ _ _ => trivial) hevents

namespace Act

variable {policy : Policy} {α β : Type}

/-- The computation performs permitted operations only. -/
def Always (policy : Policy) (act : Act α) : Prop :=
  Program.Always policy.permitted policy.allowed act.run

theorem always_pure (value : α) : Always policy (pure value : Act α) := Program.Always.done _

theorem always_raise (message : String) : Always policy (raise message : Act α) :=
  Program.Always.done _

theorem always_ofExcept (value : Except Raised α) : Always policy (ofExcept value) :=
  Program.Always.done _

theorem always_perform {op : Op} (h : ∀ history, policy.permitted history op) :
    Always policy (perform op) :=
  Program.Always.bind (Program.Always.op h) fun _ => Program.Always.done _

theorem always_routine {op : Op} (h : op.Routine) : Always policy (perform op) :=
  always_perform fun history => policy.routine history op h

theorem always_lift {program : Program Op Res α}
    (h : Program.Always policy.permitted policy.allowed program) :
    Always policy (ExceptT.lift program : Act α) :=
  h.bind fun _ => Program.Always.done _

theorem always_ofProgram {program : Program Op Res (Except Raised α)}
    (h : Program.Always policy.permitted policy.allowed program) :
    Always policy (ofProgram program) := h

theorem always_bind {act : Act α} {f : α → Act β} (h : Always policy act)
    (hf : ∀ value, Always policy (f value)) : Always policy (act >>= f) := by
  refine Program.Always.bind h fun outcome => ?_
  cases outcome with
  | ok value => exact hf value
  | error raised => exact Program.Always.done _

/-- A check that passes lets the rest go on, from any history. -/
theorem certified_ofExcept_bind {value : Except Raised α} {f : α → Act β} {history : History}
    (hf : ∀ result, value = .ok result →
      Program.Certified policy.permitted policy.allowed history (f result).run fun _ _ => True) :
    Program.Certified policy.permitted policy.allowed history (ofExcept value >>= f).run
      fun _ _ => True := by
  cases value with
  | ok result => exact hf result rfl
  | error raised => exact Program.Always.done _ _

theorem always_catchException {act : Act α} {handler : Except Raised String → Act α}
    (h : Always policy act) (hhandler : ∀ text, Always policy (handler text)) :
    Always policy (catchException act handler) := by
  refine Program.Always.bind h fun outcome => ?_
  cases outcome with
  | ok value => exact Program.Always.done _
  | error raised =>
      cases raised with
      | exception message => exact hhandler _
      | baseException message => exact Program.Always.done _
      | unprintable raised => exact hhandler _

theorem always_exceptException {act : Act α} {handler : String → Act α} (h : Always policy act)
    (hhandler : ∀ message, Always policy (handler message)) :
    Always policy (exceptException act handler) :=
  always_catchException h fun text => always_bind (always_ofExcept text) hhandler

theorem always_finallyDo {act : Act α} {cleanup : Act Unit} (h : Always policy act)
    (hcleanup : Always policy cleanup) : Always policy (finallyDo act cleanup) := by
  refine Program.Always.bind h fun outcome => Program.Always.bind hcleanup fun cleaned => ?_
  cases cleaned with
  | ok _ => exact Program.Always.done _
  | error raised => exact Program.Always.done _

/-- The computation performs permitted operations only, and what it returns satisfies `post`. -/
def Ensures (policy : Policy) (act : Act α) (post : α → Prop) : Prop :=
  ∀ history, Program.Certified policy.permitted policy.allowed history act.run
    fun _ outcome => ∀ value, outcome = .ok value → post value

section

variable {act : Act α} {f : α → Act β} {post : α → Prop} {last : β → Prop}

theorem ensures_pure {value : α} (h : post value) : Ensures policy (pure value) post := by
  intro _ _ result hresult
  cases hresult
  exact h

theorem ensures_raise (message : String) : Ensures policy (raise message) post :=
  fun _ _ _ => nofun

theorem ensures_ofExcept {value : Except Raised α}
    (h : ∀ result, value = .ok result → post result) :
    Ensures policy (ofExcept value) post := fun _ _ => h

theorem ensures_bind (h : Ensures policy act post)
    (hf : ∀ value, post value → Ensures policy (f value) last) :
    Ensures policy (act >>= f) last := by
  intro history
  refine (h history).bind fun more outcome houtcome => ?_
  cases outcome with
  | ok value => exact hf value (houtcome [] value rfl) _
  | error raised => exact fun _ _ => nofun

theorem Always.ensures (h : Always policy act) : Ensures policy act fun _ => True :=
  fun history => (h history).mono fun _ _ _ _ _ => trivial

theorem Ensures.always (h : Ensures policy act post) : Always policy act :=
  fun history => (h history).mono fun _ _ _ => trivial

theorem always_bind_of (h : Ensures policy act post)
    (hf : ∀ value, post value → Always policy (f value)) : Always policy (act >>= f) :=
  (ensures_bind h fun value hvalue => (hf value hvalue).ensures).always

/-- Two continuations that agree on what a computation ensures are the same. -/
theorem bind_congr_of {permitted : Op → Prop} {hroutine : ∀ op, op.Routine → permitted op}
    {f g : α → Act β} (h : Ensures (.ofOps permitted hroutine) act post)
    (hfg : ∀ value, post value → f value = g value) : act >>= f = act >>= g := by
  refine Program.Certified.bind_congr (h []) fun _ outcome houtcome => ?_
  cases outcome with
  | ok value => exact hfg value (houtcome value rfl)
  | error raised => rfl

theorem ensures_finallyDo {cleanup : Act Unit} (h : Ensures policy act post)
    (hcleanup : Always policy cleanup) : Ensures policy (finallyDo act cleanup) post := by
  intro history
  refine (h history).bind fun more outcome houtcome => ?_
  refine (hcleanup _).bind fun _ cleaned _ => ?_
  cases cleaned with
  | ok _ => exact fun _ => houtcome []
  | error raised => exact fun _ _ => nofun

end

end Act

/-! ## Properties of computations -/

/-- The routine operations but for the activity of sub-nodes: those that leave no mark on the
run. -/
def Op.Silent : Op → Prop
  | .updateRun .. => False
  | op => op.Routine

theorem Op.Silent.routine {op : Op} (h : op.Silent) : op.Routine := by
  cases op with
  | updateRun runId update => cases h
  | _ => exact h

/-- A property of programs that silent operations have, and others that are permitted, and that
every construction keeps. -/
structure Rules (permits : Op → Prop) (P : ∀ α : Type, Program Op Res α → Prop) : Prop
    extends Program.Compositional permits P where
  silent : ∀ {op : Op}, op.Silent → permits op

/-- Keeping a policy is such a property. -/
theorem Policy.rules (policy : Policy) :
    Rules (fun op => ∀ history, policy.permitted history op)
      fun _ program => Program.Always policy.permitted policy.allowed program where
  toCompositional := Program.Always.compositional _ _
  silent h history := policy.routine history _ h.routine

namespace Rules

variable {permits : Op → Prop} {P : ∀ α : Type, Program Op Res α → Prop} {α β : Type}

theorem act_pure (rules : Rules permits P) (value : α) : P _ (pure value : Act α).run :=
  rules.done _

theorem act_raise (rules : Rules permits P) (message : String) :
    P _ (Act.raise message : Act α).run := rules.done _

theorem act_ofExcept (rules : Rules permits P) (value : Except Raised α) :
    P _ (Act.ofExcept value).run := rules.done _

theorem act_lift (rules : Rules permits P) {program : Program Op Res α} (h : P _ program) :
    P _ (ExceptT.lift program : Act α).run :=
  rules.bind h fun _ => rules.done _

theorem act_perform (rules : Rules permits P) {op : Op} (h : permits op) :
    P _ (Act.perform op).run := rules.act_lift (rules.op h)

theorem act_silent (rules : Rules permits P) {op : Op} (h : op.Silent) :
    P _ (Act.perform op).run := rules.act_perform (rules.silent h)

theorem act_bind (rules : Rules permits P) {act : Act α} {f : α → Act β} (h : P _ act.run)
    (hf : ∀ value, P _ (f value).run) : P _ (act >>= f).run := by
  refine rules.bind h fun outcome => ?_
  cases outcome with
  | ok value => exact hf value
  | error raised => exact rules.done _

/-- The value of an earlier check is known to the rest. -/
theorem act_ofExcept_bind (rules : Rules permits P) {value : Except Raised α} {f : α → Act β}
    (hf : ∀ result, value = .ok result → P _ (f result).run) :
    P _ (Act.ofExcept value >>= f).run := by
  cases value with
  | ok result => exact hf result rfl
  | error raised => exact rules.done _

theorem act_catchException (rules : Rules permits P) {act : Act α}
    {handler : Except Raised String → Act α} (h : P _ act.run)
    (hhandler : ∀ text, P _ (handler text).run) : P _ (Act.catchException act handler).run := by
  refine rules.bind h fun outcome => ?_
  cases outcome with
  | ok value => exact rules.done _
  | error raised =>
      cases raised with
      | exception message => exact hhandler _
      | baseException message => exact rules.done _
      | unprintable raised => exact hhandler _

theorem act_exceptException (rules : Rules permits P) {act : Act α} {handler : String → Act α}
    (h : P _ act.run) (hhandler : ∀ message, P _ (handler message).run) :
    P _ (Act.exceptException act handler).run :=
  rules.act_catchException h fun text => rules.act_bind (rules.act_ofExcept text) hhandler

theorem lookup_connection_keeps (rules : Rules permits P) {resources : Resources} {name : String}
    (h : permits (.lookup .connections name)) : P _ (lookupConnection resources name).run :=
  rules.act_bind (rules.act_perform h) fun _ => rules.act_pure _

theorem lookup_profile_keeps (rules : Rules permits P) {resources : Resources} {name : String}
    (h : permits (.lookup .connectionProfiles name)) : P _ (lookupProfile resources name).run :=
  rules.act_bind (rules.act_perform h) fun _ => rules.act_pure _

end Rules

/-- Every name that a configuration references may be looked up. -/
def MayLookUp (permits : Op → Prop) (config : Config) : Prop :=
  ∀ key, ∀ name ∈ connectionReferenceNames config, permits (.lookup key name)

/-- Every name that a configuration references may be looked up. -/
def Policy.LooksUp (policy : Policy) (config : Config) : Prop :=
  ∀ key, ∀ name ∈ connectionReferenceNames config, ∀ history,
    policy.permitted history (.lookup key name)

/-- A string read from a reference field is a referenced name. -/
theorem required_mem_references {config : Config} {field name : String}
    (hfield : isConnectionKey field = true) (h : config.required field Json.str? = .ok name) :
    name ∈ connectionReferenceNames config := by
  rw [Config.required] at h
  split at h
  · cases h
  · rename_i json hget
    cases json <;> cases h
    exact mem_connectionReferenceNames.mpr ⟨field, hfield, hget⟩

/-! ## Runs of a graph -/

section

variable {policy : Policy} {Body : Type} {observers : Observers (Program Op Res)}
  {execute : Body → ExecutionContext → Act NodeResult} {graph : GraphSpec}
  {registry : NodeRegistry Body} {resources : Resources} {runId : String}

/-- The observers perform permitted operations only, given records of this run of the
engine. -/
structure Observers.Always (policy : Policy) (runId : String)
    (observers : Observers (Program Op Res)) : Prop where
  onRoundStart : ∀ nodeIds,
    Program.Always policy.permitted policy.allowed (observers.onRoundStart nodeIds)
  onTraceRecord : ∀ record, record.runId = runId →
    Program.Always policy.permitted policy.allowed (observers.onTraceRecord record)

/-- Every node of the graph may be executed. -/
def NodesAlways (policy : Policy) (execute : Body → ExecutionContext → Act NodeResult)
    (graph : GraphSpec) (resources : Resources) (registry : NodeRegistry Body) : Prop :=
  ∀ node ∈ graph.nodes, ∀ definition inputs, registry.get node.type = some definition →
    (execute definition.execute ⟨node, .dict inputs, resources⟩).Always policy

/-- The record of an executed node carries the id of the engine's run. -/
theorem record_outcome_runId {node : NodeSpec} {inputs : Config} {startedAt finishedAt : String}
    {outcome : Except Raised NodeResult} {executed : Executed}
    (h : recordOutcome node inputs runId startedAt finishedAt outcome = .ok executed) :
    executed.record.runId = runId := by
  rcases outcome with ⟨_ | _ | _⟩ | _ <;> cases h <;> rfl

/-- Executing a ready node keeps the policy and builds a record of this run. -/
theorem execute_ready_certified (h : NodesAlways policy execute graph resources registry)
    (ready : Ready) (history : History) :
    Program.Certified policy.permitted policy.allowed history
      (executeReady programRuntime (fun body ctx => (execute body ctx).run) graph registry
        resources runId ready)
      fun _ outcome => ∀ executed, outcome = .ok executed → executed.record.runId = runId := by
  rw [executeReady]
  cases hnode : graph.node? ready.1 with
  | none => exact fun _ _ => nofun
  | some node =>
      dsimp only
      cases hdef : registry.get node.type with
      | none => exact fun _ _ => nofun
      | some definition =>
          have hnow : Program.Always policy.permitted policy.allowed
              (Program.op Op.utcnowIso : Program Op Res String) :=
            Program.Always.op fun history => policy.routine history _ trivial
          refine (hnow history).bind fun _ _ _ => ?_
          refine (h node (GraphSpec.mem_of_node? hnode).1 definition _ hdef _).bind fun _ _ _ => ?_
          refine (hnow _).bind fun _ _ _ => ?_
          exact fun _ executed hexecuted => record_outcome_runId hexecuted

theorem mem_of_collectOutcomes {outcomes : List (Except Raised Executed)}
    {executed : List Executed} (h : collectOutcomes outcomes = .ok executed) :
    ∀ one ∈ executed, .ok one ∈ outcomes := by
  induction outcomes generalizing executed with
  | nil =>
      cases h
      simp
  | cons outcome outcomes ih =>
      rw [collectOutcomes] at h
      obtain ⟨head, rfl, hhead⟩ := except_bind_eq_ok.mp h
      obtain ⟨rest, hrest, hcons⟩ := except_bind_eq_ok.mp hhead
      cases hcons
      rw [List.forall_mem_cons]
      exact ⟨List.mem_cons_self, fun one hone => List.mem_cons_of_mem _ (ih hrest one hone)⟩

theorem finish_round_always (hobservers : observers.Always policy runId)
    {executed : List Executed} (hexecuted : ∀ one ∈ executed, one.record.runId = runId)
    (state : SchedulerState) : Program.Always policy.permitted policy.allowed
      (finishRound observers graph registry executed state) := by
  induction executed generalizing state with
  | nil => exact Program.Always.done _
  | cons head rest ih =>
      rw [List.forall_mem_cons] at hexecuted
      refine Program.Always.bind (hobservers.onTraceRecord _ hexecuted.1) fun _ => ?_
      cases state.absorb graph registry head with
      | error raised => exact Program.Always.done _
      | ok state => exact ih hexecuted.2 state

/-- The main loop performs what its bodies and observers perform. -/
theorem schedule_always (hobservers : observers.Always policy runId)
    (h : NodesAlways policy execute graph resources registry) (fuel : Nat)
    (state : SchedulerState) : Program.Always policy.permitted policy.allowed
      (schedule programRuntime observers (fun body ctx => (execute body ctx).run) graph registry
        resources runId fuel state) := by
  -- By the rounds: observers, bodies and records each keep to the policy.
  induction fuel generalizing state with
  | zero => exact Program.Always.done _
  | succ fuel ih =>
      rw [schedule]
      split
      · exact Program.Always.done _
      · split
        · exact Program.Always.done _
        · exact Program.Always.done _
        · rename_i started ready _ _
          refine Program.Always.bind (hobservers.onRoundStart _) fun _ history => ?_
          have hgather : Program.Certified policy.permitted policy.allowed history
              (Program.gather (ready.map (executeReady programRuntime
                (fun body ctx => (execute body ctx).run) graph registry resources runId)))
              fun _ outcomes => ∀ outcome ∈ outcomes, ∀ executed, outcome = .ok executed →
                executed.record.runId = runId := by
            refine Program.Certified.gather fun program hprogram => ?_
            obtain ⟨node, _, rfl⟩ := List.mem_map.mp hprogram
            exact execute_ready_certified h node history
          refine hgather.bind fun more outcomes houtcomes => ?_
          cases hcollect : collectOutcomes outcomes with
          | error raised => exact Program.Always.done _ _
          | ok executed =>
              have hexecuted : ∀ one ∈ executed, one.record.runId = runId := fun one hone =>
                houtcomes [] _ (mem_of_collectOutcomes hcollect one hone) one rfl
              refine (finish_round_always hobservers hexecuted _ _).bind fun _ outcome _ => ?_
              cases outcome with
              | error raised => exact Program.Always.done _ _
              | ok state => exact ih state _

/-- The scheduler of a graph performs what its bodies and observers perform. -/
theorem run_graph_async_always (hobservers : observers.Always policy runId)
    (h : NodesAlways policy execute graph resources registry) :
    Program.Always policy.permitted policy.allowed
      (runGraphAsync programRuntime observers (fun body ctx => (execute body ctx).run) graph
        registry resources runId) := by
  refine Program.Always.bind (schedule_always hobservers h _ _) fun outcome => ?_
  cases outcome with
  | error raised => exact Program.Always.done _
  | ok state => exact Program.Always.done _

/-- A run of a graph performs permitted operations only, if its bodies and observers do. -/
theorem run_graph_always {store : ConnectionStore} {runId : Option String}
    (hobservers : ∀ runId, observers.Always policy runId)
    (h : NodesAlways policy execute graph (withGraph resources graph) registry) :
    Program.Always policy.permitted policy.allowed
      (runGraph programRuntime observers (fun body ctx => (execute body ctx).run) graph registry
        store resources runId) := by
  have huuid : Program.Always policy.permitted policy.allowed
      (Program.op Op.uuid4 : Program Op Res String) :=
    Program.Always.op fun history => policy.routine history _ trivial
  have hasync := fun runId => run_graph_async_always (hobservers runId) h
  rw [runGraph]
  split
  · exact Program.Always.done _
  · cases runId with
    | none => exact huuid.bind hasync
    | some runId =>
        dsimp only
        split
        · exact huuid.bind hasync
        · exact hasync runId

/-! ## Runs of a graph without observers -/

section

variable {permits : Op → Prop} {P : ∀ α : Type, Program Op Res α → Prop}

/-- Every node of the graph may be executed. -/
def NodesKeep (P : ∀ α : Type, Program Op Res α → Prop)
    (execute : Body → ExecutionContext → Act NodeResult) (graph : GraphSpec)
    (resources : Resources) (registry : NodeRegistry Body) : Prop :=
  ∀ node ∈ graph.nodes, ∀ definition inputs, registry.get node.type = some definition →
    P _ (execute definition.execute ⟨node, .dict inputs, resources⟩).run

theorem execute_ready_keeps (rules : Rules permits P)
    (h : NodesKeep P execute graph resources registry) (ready : Ready) :
    P _ (executeReady programRuntime (fun body ctx => (execute body ctx).run) graph registry
      resources runId ready) := by
  rw [executeReady]
  cases hnode : graph.node? ready.1 with
  | none => exact rules.done _
  | some node =>
      dsimp only
      cases hdef : registry.get node.type with
      | none => exact rules.done _
      | some definition =>
          have hnow : P _ (Program.op Op.utcnowIso : Program Op Res String) :=
            rules.op (rules.silent (show Op.utcnowIso.Silent from trivial))
          refine rules.bind hnow fun startedAt => ?_
          refine rules.bind (h node (GraphSpec.mem_of_node? hnode).1 definition _ hdef) fun _ => ?_
          exact rules.bind hnow fun finishedAt => rules.done _

theorem finish_round_keeps (rules : Rules permits P) (executed : List Executed)
    (state : SchedulerState) :
    P _ (finishRound (Observers.none (Program Op Res)) graph registry executed state) := by
  induction executed generalizing state with
  | nil => exact rules.done _
  | cons head rest ih =>
      refine rules.bind (rules.done ()) fun _ => ?_
      cases state.absorb graph registry head with
      | error raised => exact rules.done _
      | ok state => exact ih state

/-- The main loop keeps what its bodies keep. -/
theorem schedule_keeps (rules : Rules permits P)
    (h : NodesKeep P execute graph resources registry) (fuel : Nat) (state : SchedulerState) :
    P _ (schedule programRuntime (Observers.none (Program Op Res))
      (fun body ctx => (execute body ctx).run) graph registry resources runId fuel state) := by
  induction fuel generalizing state with
  | zero => exact rules.done _
  | succ fuel ih =>
      rw [schedule]
      split
      · exact rules.done _
      · split
        · exact rules.done _
        · exact rules.done _
        · rename_i started ready _ _
          refine rules.bind (rules.done ()) fun _ => ?_
          have hgather : P _ (Program.gather (ready.map (executeReady programRuntime
              (fun body ctx => (execute body ctx).run) graph registry resources runId))) := by
            refine rules.gather fun program hprogram => ?_
            obtain ⟨node, _, rfl⟩ := List.mem_map.mp hprogram
            exact execute_ready_keeps rules h node
          refine rules.bind hgather fun outcomes => ?_
          cases collectOutcomes outcomes with
          | error raised => exact rules.done _
          | ok executed =>
              refine rules.bind (finish_round_keeps rules executed _) fun outcome => ?_
              cases outcome with
              | error raised => exact rules.done _
              | ok state => exact ih state

/-- A run of a graph that nobody observes keeps what its bodies keep. -/
theorem run_graph_keeps (rules : Rules permits P) {store : ConnectionStore}
    (h : NodesKeep P execute graph (withGraph resources graph) registry) :
    P _ (runGraph programRuntime (Observers.none (Program Op Res))
      (fun body ctx => (execute body ctx).run) graph registry store resources none) := by
  have huuid : P _ (Program.op Op.uuid4 : Program Op Res String) :=
    rules.op (rules.silent (show Op.uuid4.Silent from trivial))
  rw [runGraph]
  split
  · exact rules.done _
  · refine rules.bind huuid fun runId => ?_
    refine rules.bind (schedule_keeps rules h _ _) fun outcome => ?_
    cases outcome with
    | error raised => exact rules.done _
    | ok state => exact rules.done _

end

end

end AgentGraphStudio
