import AgentGraphStudio.Execution.Types
import AgentGraphStudio.Validation.Validator

/-!
# The engine

`backend/execution/engine.py`, over any monad `m` of effects: the clock, the two observers
and the concurrent execution of a round come from a `Runtime`. The scheduling decisions are
pure functions of the scheduler's state. A pass (`startRound`) sorts the pending nodes, and
`SchedulerState.absorb` takes over one executed node.
-/

namespace AgentGraphStudio

/-- The effects the engine uses. `gather` runs a round's bodies concurrently and returns
their outcomes in submission order. -/
structure Runtime (m : Type → Type) where
  utcnowIso : m String
  uuid4 : m String
  gather : {α : Type} → List (m α) → m (List α)

/-- The optional observers of a run. -/
structure Observers (m : Type → Type) where
  onRoundStart : List String → m Unit
  onTraceRecord : TraceRecord → m Unit

/-- No observers. -/
def Observers.none (m : Type → Type) [Monad m] : Observers m where
  onRoundStart _ := pure ()
  onTraceRecord _ := pure ()

variable {Body : Type}

/-! ## Gathering inputs -/

/-- What a pass finds out about a pending node. -/
inductive Gathered where
  | ready (inputs : Config)
  | blocked
  | waiting

/-- The data edge of every fed slot. Of several edges into one slot the last one counts. -/
def incomingBySlot (graph : GraphSpec) : Dict (String × String) DataEdge :=
  .ofList (graph.dataEdges.map fun edge => ((edge.toNode, edge.toSlot), edge))

/-- The scheduler's variables. -/
structure SchedulerState where
  pending : List String
  finished : List String
  available : Dict (String × String) Json
  trace : List TraceRecord
  result : Config

/-- Gather the remaining slots of a node, given the values of the earlier ones. -/
def gatherSlots (incoming : Dict (String × String) DataEdge) (state : SchedulerState)
    (node : NodeSpec) : List InputSlotSpec → Config → Gathered
  | [], gathered => .ready gathered
  | slot :: slots, gathered =>
    match incoming.get? (node.id, slot.name) with
    | none =>
      match node.inputValues.get? slot.name with
      | some value => gatherSlots incoming state node slots (gathered.set slot.name value)
      | none =>
        if slot.required then .blocked else gatherSlots incoming state node slots gathered
    | some edge =>
      match state.available.get? (edge.fromNode, edge.fromSlot) with
      | some value => gatherSlots incoming state node slots (gathered.set slot.name value)
      | none =>
        if edge.fromNode ∈ state.finished then
          if slot.required then .blocked else gatherSlots incoming state node slots gathered
        else .waiting

/-- The slots the engine gathers for a node (`effective_inputs(definition, node) or []`). -/
def gatheredSlots (definition : NodeDefinition Body) (node : NodeSpec) : List InputSlotSpec :=
  (effectiveInputs definition node).getD []

/-- Gather a node's inputs. A type that is not registered has no slots to read. -/
def gatherInputs (graph : GraphSpec) (registry : NodeRegistry Body) (state : SchedulerState)
    (nodeId : String) : Except Raised Gathered :=
  match graph.node? nodeId with
  | none => .error (.exception (reprStr nodeId))
  | some node =>
    match registry.get node.type with
    | none => .error (.exception "'NoneType' object has no attribute 'resolve_slots'")
    | some definition =>
      .ok (gatherSlots (incomingBySlot graph) state node (gatheredSlots definition node) .empty)

/-- A node that is ready to run, with its inputs. -/
abbrev Ready := String × Config

/-- Sort the given pending nodes: a blocked node finishes at once, a ready node joins the
bucket and a waiting node stays. -/
def passNodes (graph : GraphSpec) (registry : NodeRegistry Body) :
    List String → SchedulerState → List Ready → Except Raised (SchedulerState × List Ready)
  | [], state, ready => .ok (state, ready)
  | nodeId :: nodeIds, state, ready =>
    match gatherInputs graph registry state nodeId with
    | .error raised => .error raised
    | .ok .blocked =>
      passNodes graph registry nodeIds
        { state with pending := state.pending.erase nodeId
                     finished := state.finished ++ [nodeId] } ready
    | .ok (.ready inputs) => passNodes graph registry nodeIds state (ready ++ [(nodeId, inputs)])
    | .ok .waiting => passNodes graph registry nodeIds state ready

/-- One pass over the pending nodes. -/
def startRound (graph : GraphSpec) (registry : NodeRegistry Body) (state : SchedulerState) :
    Except Raised (SchedulerState × List Ready) :=
  passNodes graph registry state.pending state []

/-! ## Executing nodes -/

/-- What the execution of one node hands back to the scheduler. -/
structure Executed where
  nodeId : String
  nodeResult : Option NodeResult
  record : TraceRecord

/-- The outcome of a body as the scheduler sees it: an `Exception` becomes a failed record with
its text, and what its `__str__` raises propagates, as does any other exception. -/
def recordOutcome (node : NodeSpec) (inputs : Config) (runId startedAt finishedAt : String) :
    Except Raised NodeResult → Except Raised Executed
  | .ok nodeResult =>
    .ok ⟨node.id, some nodeResult,
      { runId, nodeId := node.id, nodeType := node.type, startedAt, finishedAt, inputs
        outputs := nodeResult.outputs
        tokenCost := nodeResult.tokenCost
        sideEffect := nodeResult.sideEffect
        childTraces := nodeResult.childTraces }⟩
  | .error (.exception message) =>
    .ok ⟨node.id, none,
      { runId, nodeId := node.id, nodeType := node.type, startedAt, finishedAt, inputs
        outputs := .empty
        error := some message }⟩
  | .error (.baseException message) => .error (.baseException message)
  | .error (.unprintable raised) => .error raised

variable {m : Type → Type} [Monad m]

/-- Run one node's body and build its record. -/
def executeNode (runtime : Runtime m)
    (execute : Body → ExecutionContext → m (Except Raised NodeResult)) (node : NodeSpec)
    (definition : NodeDefinition Body) (gatheredInputs : Config) (resources : Resources)
    (runId : String) : m (Except Raised Executed) := do
  let startedAt ← runtime.utcnowIso
  let outcome ← execute definition.execute ⟨node, .dict gatheredInputs, resources⟩
  let finishedAt ← runtime.utcnowIso
  pure (recordOutcome node gatheredInputs runId startedAt finishedAt outcome)

/-- Run the body of a ready node. -/
def executeReady (runtime : Runtime m)
    (execute : Body → ExecutionContext → m (Except Raised NodeResult)) (graph : GraphSpec)
    (registry : NodeRegistry Body) (resources : Resources) (runId : String) (ready : Ready) :
    m (Except Raised Executed) :=
  match graph.node? ready.1 with
  | none => pure (.error (.exception (reprStr ready.1)))
  | some node =>
    match registry.get node.type with
    | none => pure (.error (.exception "'NoneType' object has no attribute 'execute'"))
    | some definition => executeNode runtime execute node definition ready.2 resources runId

/-- The result slot of a node's type. -/
def resultSlotOf (graph : GraphSpec) (registry : NodeRegistry Body) (nodeId : String) :
    Option String :=
  ((graph.node? nodeId).bind fun node => registry.get node.type).bind NodeDefinition.resultSlot

/-- Take over one executed node: its outputs become available, and a result slot of its type
is read back from its inputs. -/
def SchedulerState.absorb (graph : GraphSpec) (registry : NodeRegistry Body)
    (state : SchedulerState) (executed : Executed) : Except Raised SchedulerState :=
  let state := { state with
    pending := state.pending.erase executed.nodeId
    finished := state.finished ++ [executed.nodeId]
    trace := state.trace ++ [executed.record] }
  match executed.nodeResult with
  | none => .ok state
  | some nodeResult =>
    let state := { state with
      available := state.available.update
        (nodeResult.outputs.entries.map fun entry => ((executed.nodeId, entry.1), entry.2)) }
    match resultSlotOf graph registry executed.nodeId with
    | none => .ok state
    | some slot =>
      match executed.record.inputs.get? slot with
      | none => .error (.exception (reprStr slot))
      | some value => .ok { state with result := state.result.set executed.nodeId value }

/-- Take over a round's executed nodes in submission order. -/
def finishRound (observers : Observers m) (graph : GraphSpec) (registry : NodeRegistry Body) :
    List Executed → SchedulerState → m (Except Raised SchedulerState)
  | [], state => pure (.ok state)
  | executed :: rest, state => do
    observers.onTraceRecord executed.record
    match state.absorb graph registry executed with
    | .error raised => pure (.error raised)
    | .ok state => finishRound observers graph registry rest state

/-- The outcomes of a round, or the first exception that escaped a body. -/
def collectOutcomes : List (Except Raised Executed) → Except Raised (List Executed)
  | [] => .ok []
  | outcome :: outcomes => do
    let executed ← outcome
    let rest ← collectOutcomes outcomes
    pure (executed :: rest)

/-! ## The main loop -/

/-- The main loop, for at most this many rounds: the state in which it stops, or the
exception that ends it. -/
def schedule (runtime : Runtime m) (observers : Observers m)
    (execute : Body → ExecutionContext → m (Except Raised NodeResult)) (graph : GraphSpec)
    (registry : NodeRegistry Body) (resources : Resources) (runId : String) :
    Nat → SchedulerState → m (Except Raised SchedulerState)
  | 0, state => pure (.ok state)
  | fuel + 1, state =>
    if state.pending = [] then pure (.ok state)
    else
      match startRound graph registry state with
      | .error raised => pure (.error raised)
      | .ok (state, []) => pure (.ok state)
      | .ok (state, ready) => do
        observers.onRoundStart (ready.map Prod.fst)
        let outcomes ← runtime.gather
          (ready.map (executeReady runtime execute graph registry resources runId))
        match collectOutcomes outcomes with
        | .error raised => pure (.error raised)
        | .ok executed => do
          match ← finishRound observers graph registry executed state with
          | .error raised => pure (.error raised)
          | .ok state =>
            schedule runtime observers execute graph registry resources runId fuel state

/-- The nodes the scheduler runs: all but the sources of sub-node edges. -/
def scheduledIds (graph : GraphSpec) : List String :=
  (graph.nodes.map NodeSpec.id).filter fun id => id ∉ subNodeReferencedIds graph

/-- The scheduler's first state. -/
def initialState (graph : GraphSpec) : SchedulerState where
  pending := scheduledIds graph
  finished := []
  available := .empty
  trace := []
  result := .empty

/-- Schedule a graph. Every round finishes at least one pending node, so as many rounds as
there are scheduled nodes are enough. -/
def runGraphAsync (runtime : Runtime m) (observers : Observers m)
    (execute : Body → ExecutionContext → m (Except Raised NodeResult)) (graph : GraphSpec)
    (registry : NodeRegistry Body) (resources : Resources) (runId : String) :
    m (Except Raised RunResult) := do
  match ← schedule runtime observers execute graph registry resources runId
      (scheduledIds graph).length (initialState graph) with
  | .error raised => pure (.error raised)
  | .ok state => pure (.ok ⟨state.result, state.trace⟩)

/-- The sub-nodes wired into each slot of each root, in edge order. -/
def subNodesOf (graph : GraphSpec) : Dict (String × String) (List String) :=
  graph.subNodeEdges.foldl (fun subNodes edge =>
    subNodes.set (edge.toNode, edge.slot)
      (subNodes.getD (edge.toNode, edge.slot) [] ++ [edge.fromNode])) .empty

/-- The bag the bodies of a graph see. -/
def withGraph (resources : Resources) (graph : GraphSpec) : Resources :=
  { resources with
    nodesById := .ofList (graph.nodes.map fun node => (node.id, node))
    subNodes := subNodesOf graph }

/-- The validation with which `run_graph` begins: for the running user, without slot
mappings. -/
def revalidate (graph : GraphSpec) (registry : NodeRegistry Body) (store : ConnectionStore)
    (resources : Resources) : Except (List ValidationIssue) Unit :=
  validateGraph graph registry store resources.runningUserId .empty

/-- Validate a graph for the running user and run it. -/
def runGraph (runtime : Runtime m) (observers : Observers m)
    (execute : Body → ExecutionContext → m (Except Raised NodeResult)) (graph : GraphSpec)
    (registry : NodeRegistry Body) (store : ConnectionStore) (resources : Resources)
    (runId : Option String) : m (Except Raised RunResult) :=
  match revalidate graph registry store resources with
  | .error issues => pure (.error (.exception (graphValidationErrorText issues)))
  | .ok () => do
    let runId ← match runId with
      | some runId => if runId = "" then runtime.uuid4 else pure runId
      | none => runtime.uuid4
    runGraphAsync runtime observers execute graph registry (withGraph resources graph) runId

section

variable {runtime : Runtime m} {observers : Observers m}
  {execute : Body → ExecutionContext → m (Except Raised NodeResult)} {graph : GraphSpec}
  {registry : NodeRegistry Body} {store : ConnectionStore} {resources : Resources}

/-- An invalid graph is not run. -/
theorem run_graph_of_error {runId : Option String} {issues : List ValidationIssue}
    (h : revalidate graph registry store resources = .error issues) :
    runGraph runtime observers execute graph registry store resources runId =
      pure (.error (.exception (graphValidationErrorText issues))) := by
  rw [runGraph, h]

/-- A valid graph is run under a fresh id if the caller gives none. -/
theorem run_graph_of_ok (h : revalidate graph registry store resources = .ok ()) :
    runGraph runtime observers execute graph registry store resources none =
      runtime.uuid4 >>= fun runId =>
        runGraphAsync runtime observers execute graph registry
          (withGraph resources graph) runId := by
  rw [runGraph, h]

end

/-! ## The trace -/

section

variable {graph : GraphSpec} {registry : NodeRegistry Body}

/-- A pass over the pending nodes adds no records. -/
theorem pass_nodes_trace {ids : List String} {state later : SchedulerState}
    {ready ready' : List Ready}
    (h : passNodes graph registry ids state ready = .ok (later, ready')) :
    later.trace = state.trace := by
  induction ids generalizing state ready with
  | nil =>
      cases h
      rfl
  | cons id ids ih =>
      unfold passNodes at h
      split at h
      · cases h
      · have hlater := ih h
        exact hlater
      · exact ih h
      · exact ih h

/-- Taking over a node adds its record. -/
theorem absorb_trace {state later : SchedulerState} {executed : Executed}
    (h : state.absorb graph registry executed = .ok later) :
    later.trace = state.trace ++ [executed.record] := by
  unfold SchedulerState.absorb at h
  dsimp only at h
  split at h
  · cases h
    rfl
  · split at h
    · cases h
      rfl
    · split at h
      · cases h
      · cases h
        rfl

end

end AgentGraphStudio
