import AgentGraphStudio.Execution.Discipline
import AgentGraphStudio.Nodes.Core

/-!
# The `loop` node

`backend/nodes/loop.py`: a graph in the node's own configuration is run again and again, each
time with the previous result as the value of its one `text_input`. The body validates that
graph once before the first iteration, and every iteration validates it again when it runs.
-/

namespace AgentGraphStudio

variable {Body : Type}

/-- `LoopConfig`. -/
structure LoopConfig where
  subGraph : GraphSpec
  maxIterations : Int
  stopConditionSlot : Option String

def LoopConfig.parse (config : Config) : Except String LoopConfig := do
  let subGraph ←
    match config.get? "sub_graph" with
    | none => .error "sub_graph: Field required"
    | some json => GraphSpec.parse json
  let maxIterations ← config.positive "max_iterations" 10
  let stopConditionSlot ← config.optionalStr "stop_condition_slot"
  pure { subGraph, maxIterations, stopConditionSlot }

/-- The one `text_input` of a sub-graph. -/
def findEntryNodeId (subGraph : GraphSpec) : Except Raised String :=
  match subGraph.nodes.filter fun node => node.type = "text_input" with
  | [entry] => .ok entry.id
  | entries =>
    .error (.exception ("loop sub_graph must contain exactly one text_input node as its entry " ++
      s!"point, found {entries.length}"))

/-- A node of an iteration: the entry node carries the loop's value. -/
def seedNode (entryNodeId : String) (value : Json) (node : NodeSpec) : NodeSpec :=
  if node.id = entryNodeId then { node with config := node.config.set "value" value } else node

@[simp] theorem seedNode_id (entryNodeId : String) (value : Json) (node : NodeSpec) :
    (seedNode entryNodeId value node).id = node.id := by
  rw [seedNode]
  split <;> rfl

@[simp] theorem seedNode_type (entryNodeId : String) (value : Json) (node : NodeSpec) :
    (seedNode entryNodeId value node).type = node.type := by
  rw [seedNode]
  split <;> rfl

/-- The value of an entry node is no field of a loop. -/
theorem loop_config_parse_seed (config : Config) (value : Json) :
    LoopConfig.parse (config.set "value" value) = LoopConfig.parse config := by
  have hget : ∀ field, field ≠ "value" →
    (config.set "value" value).get? field = config.get? field :=
    fun field hfield => Dict.get?_set_of_ne _ _ hfield
  simp [LoopConfig.parse, Config.positive, Config.withDefault, Config.optionalStr, hget]

/-- The value of an entry node references no connection. -/
theorem reference_names_seed (config : Config) (value : Json) (name : String) :
    name ∈ connectionReferenceNames (config.set "value" value) ↔
      name ∈ connectionReferenceNames config := by
  simp only [mem_connectionReferenceNames]
  refine exists_congr fun key => and_congr_right fun hkey => ?_
  have hne : key ≠ "value" := by
    rintro rfl
    exact absurd hkey (by decide)
  rw [Dict.get?_set_of_ne _ _ hne]

/-- The graph of an iteration. -/
def iterationGraph (subGraph : GraphSpec) (entryNodeId : String) (value : Json) : GraphSpec where
  version := subGraph.version
  nodes := subGraph.nodes.map (seedNode entryNodeId value)
  edges := subGraph.edges
  nodupIds := by
    rw [List.map_map, show NodeSpec.id ∘ seedNode entryNodeId value = NodeSpec.id from
      funext fun node => seedNode_id entryNodeId value node]
    exact subGraph.nodupIds

/-- Did the stop slot fire in this trace? -/
def stopFired (stopConditionSlot : Option String) (trace : List TraceRecord) : Bool :=
  match stopConditionSlot with
  | none => false
  | some slot => trace.any fun record => (record.outputs.get? slot).isSome

section

variable (registry : NodeRegistry Body) (recurse : Body → ExecutionContext → Act NodeResult)

/-- Run a graph inside a body. -/
def runSubGraph (graph : GraphSpec) (resources : Resources) : Act RunResult := do
  let store ← Act.perform .readConnections
  Act.ofProgram (runGraph programRuntime (Observers.none _)
    (fun body ctx => (recurse body ctx).run) graph registry store resources none)

/-- The iterations of a loop, at most so many. -/
def loopIterations (config : LoopConfig) (entryNodeId : String) (resources : Resources) :
    Nat → Json → List (List TraceRecord) → Act NodeResult
  | 0, value, childTraces =>
    pure { outputs := .ofList [("value", value)], childTraces := some childTraces }
  | iterations + 1, value, childTraces => do
    let subResult ← Act.exceptException
      (runSubGraph registry recurse (iterationGraph config.subGraph entryNodeId value) resources)
      fun e => Act.raise s!"loop iteration failed: {e}"
    let childTraces := childTraces ++ [subResult.trace]
    match subResult.result.values with
    | [value] =>
      if stopFired config.stopConditionSlot subResult.trace then
        pure { outputs := .ofList [("value", value)], childTraces := some childTraces }
      else loopIterations config entryNodeId resources iterations value childTraces
    | values =>
      Act.raise s!"loop sub_graph must produce exactly one result value, got {values.length}"

/-- The validation with which the body begins, for no user in particular. -/
def preCheck (config : LoopConfig) (store : ConnectionStore) :
    Except (List ValidationIssue) Unit :=
  validateGraph config.subGraph registry store none .empty

def executeLoop (ctx : ExecutionContext) : Act NodeResult := do
  let config ← Act.ofExcept (validated (LoopConfig.parse ctx.node.config))
  let store ← Act.perform .readConnections
  match preCheck registry config store with
  | .error issues => Act.raise ("loop sub_graph is invalid: " ++ graphValidationErrorText issues)
  | .ok () =>
    let entryNodeId ← Act.ofExcept (findEntryNodeId config.subGraph)
    let value ← Act.ofExcept (ctx.inputs.get "value")
    loopIterations registry recurse config entryNodeId ctx.resources config.maxIterations.toNat
      value []

end

/-! ## What a loop performs -/

section

variable {permits : Op → Prop} {P : ∀ α : Type, Program Op Res α → Prop}
  {registry : NodeRegistry Body} {recurse : Body → ExecutionContext → Act NodeResult}
  {resources : Resources}

theorem run_sub_graph_keeps (rules : Rules permits P) {graph : GraphSpec}
    (h : NodesKeep P recurse graph (withGraph resources graph) registry) :
    P _ (runSubGraph registry recurse graph resources).run :=
  rules.act_bind (rules.act_silent trivial) fun _ => run_graph_keeps rules h

/-- The iterations keep what the runs of their graphs keep. -/
theorem loop_iterations_keeps (rules : Rules permits P) {config : LoopConfig}
    {entryNodeId : String}
    (h : ∀ value, NodesKeep P recurse (iterationGraph config.subGraph entryNodeId value)
      (withGraph resources (iterationGraph config.subGraph entryNodeId value)) registry)
    (iterations : Nat) (value : Json) (childTraces : List (List TraceRecord)) :
    P _ (loopIterations registry recurse config entryNodeId resources iterations value
      childTraces).run := by
  induction iterations generalizing value childTraces with
  | zero => exact rules.act_pure _
  | succ iterations ih =>
      refine rules.act_bind (rules.act_exceptException (run_sub_graph_keeps rules (h value))
        fun _ => rules.act_raise _) fun subResult => ?_
      dsimp only
      split
      · split
        · exact rules.act_pure _
        · exact ih _ _
      · exact rules.act_raise _

/-- A loop keeps what the runs of its iterations keep, if its check of the sub-graph lets it
come to them. -/
theorem execute_loop_keeps (rules : Rules permits P) {ctx : ExecutionContext}
    (h : ∀ config, LoopConfig.parse ctx.node.config = .ok config →
      WellFormed config.subGraph registry → ∀ entryNodeId value,
        NodesKeep P recurse (iterationGraph config.subGraph entryNodeId value)
          (withGraph ctx.resources (iterationGraph config.subGraph entryNodeId value)) registry) :
    P _ (executeLoop registry recurse ctx).run := by
  refine rules.act_ofExcept_bind fun config hconfig => ?_
  refine rules.act_bind (rules.act_silent trivial) fun store => ?_
  split
  · exact rules.act_raise _
  · rename_i haccepted
    have hformed := (validate_graph_ok_iff.mp haccepted).1
    refine rules.act_bind (rules.act_ofExcept _) fun entryNodeId => ?_
    refine rules.act_bind (rules.act_ofExcept _) fun value => ?_
    exact loop_iterations_keeps rules (h config (validated_eq_ok hconfig) hformed entryNodeId) _ _ _

end

end AgentGraphStudio
