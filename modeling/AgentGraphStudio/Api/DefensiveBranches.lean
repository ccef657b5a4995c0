import AgentGraphStudio.Api.Submission
import AgentGraphStudio.Nodes.SubNodeNesting

/-!
# Branches that no run takes

The bodies of `agent` and `webhook_trigger` check what the validation and the resolver already
guarantee: that as many sub-nodes are connected as a slot takes, that a tool is a node of the
graph, and that the connection of the model has a profile. Here what these branches raise is a
parameter, and `defensive_branches_unreachable` says that a run with the resources of its
submission does not depend on it.
-/

namespace AgentGraphStudio

namespace Defensive

/-! ## The branches -/

/-- A defensive branch, with what its message names. -/
inductive Branch where
  | modelNodes (agentId : String) (count : Nat)
  | toolGroups (agentId : String) (count : Nat)
  | toolNode (toolId : String)
  | connectionProfile (connection : String)
  | adapters (triggerId : String) (count : Nat)

/-- What the source raises in a branch. -/
def Branch.raised : Branch → Raised
  | .modelNodes agentId count =>
    .exception (s!"agent '{agentId}' has {count} connected 'model' sub-nodes, " ++
      "expected exactly 1")
  | .toolGroups agentId count =>
    .exception (s!"agent '{agentId}' has {count} connected 'tool_group' " ++
      "sub-nodes, expected at most 1")
  | .toolNode toolId =>
    .exception s!"agent tool reference '{toolId}' does not exist in the graph"
  | .connectionProfile connection =>
    .exception (s!"No resolved connection profile for '{connection}' -- " ++
      "it should have been resolved before this run started")
  | .adapters triggerId count =>
    .exception (s!"webhook_trigger '{triggerId}' has {count} connected " ++
      "'trigger_adapter' sub-nodes, expected exactly 1")

/-! ## Bodies whose branches raise anything -/

section

variable (taken : Branch → Raised)

/-- The tool definitions of the connected tools. -/
def toolDefinitionsOf (registry : NodeRegistry Body) (resources : Resources) :
    List String → Except Raised (List ToolDefinition)
  | [] => .ok []
  | toolId :: toolIds =>
    match resources.nodesById.get? toolId with
    | none => .error (taken (.toolNode toolId))
    | some toolNode => do
      let definition ← toolDefinition registry toolNode
      let definitions ← toolDefinitionsOf registry resources toolIds
      pure (definition :: definitions)

/-- The model's connection and whether it can call tools. -/
def agentProfile (connectionTypes : ConnectionRegistry) (resources : Resources)
    (connection : String) : Act ConnectionProfile := do
  match ← lookupProfile resources connection with
  | none => throw (taken (.connectionProfile connection))
  | some profile =>
    let unsupported := s!"Connection '{connection}' (type '{profile.type}') does not support " ++
      "tool-calling, required by the 'agent' node type"
    match connectionTypes.get? profile.type with
    | none => Act.raise unsupported
    | some definition =>
      if definition.supportsToolCalling then do
        Act.ofExcept (validated (definition.configModel profile.config))
        pure profile
      else Act.raise unsupported

/-- Find the connected sub-nodes, the model's connection and the tools. -/
def setUpAgent (registry : NodeRegistry Body) (connectionTypes : ConnectionRegistry)
    (ctx : ExecutionContext) : Act AgentSetup := do
  let resources := ctx.resources
  let maxIterations ← Act.ofExcept (validated (ctx.node.config.positive "max_iterations" 10))
  match resources.subNodes.getD (ctx.node.id, "model") [] with
  | [modelId] =>
    let modelNode ← Act.ofExcept (nodeById resources modelId)
    let modelConfig ← Act.ofExcept (validated (LLMCallConfig.parse modelNode.config))
    let memoryId := (resources.subNodes.getD (ctx.node.id, "memory") []).head?
    let maxMessages ← Act.ofExcept (memorySettings resources memoryId)
    let toolGroupIds := resources.subNodes.getD (ctx.node.id, "tools") []
    if 1 < toolGroupIds.length then throw (taken (.toolGroups ctx.node.id toolGroupIds.length))
    else
      let toolGroupId := toolGroupIds.head?
      let toolIds := match toolGroupId with
        | none => []
        | some toolGroupId => resources.subNodes.getD (toolGroupId, "tools") []
      let profile ← agentProfile taken connectionTypes resources modelConfig.connection
      let toolDefinitions ← Act.ofExcept (toolDefinitionsOf taken registry resources toolIds)
      pure { maxIterations, modelNode, profile, settings := modelConfig.settings, memoryId
             maxMessages, toolGroupId, toolIds, toolDefinitions }
  | modelIds => throw (taken (.modelNodes ctx.node.id modelIds.length))

def executeAgent (python : Python) (registry : NodeRegistry Body)
    (connectionTypes : ConnectionRegistry) (recurse : Body → ExecutionContext → Act NodeResult)
    (ctx : ExecutionContext) : Act NodeResult := do
  let setup ← setUpAgent taken registry connectionTypes ctx
  let task ← Act.ofExcept (ctx.inputs.get "task")
  agentLoop python registry recurse ctx.resources setup setup.maxIterations.toNat
    { messages := [.user task] }

/-- Execute the connected adapter on the payload that fired the trigger. -/
def executeWebhookTrigger (registry : NodeRegistry Body)
    (recurse : Body → ExecutionContext → Act NodeResult) (ctx : ExecutionContext) :
    Act NodeResult :=
  match ctx.resources.subNodes.getD (ctx.node.id, "trigger_adapter") [] with
  | [adapterId] => do
    let adapterNode ← Act.ofExcept (nodeById ctx.resources adapterId)
    match registry.get adapterNode.type with
    | none =>
      Act.raise s!"trigger_adapter '{adapterNode.id}' has unregistered type '{adapterNode.type}'"
    | some adapterDefinition =>
      let payload := ctx.resources.triggerPayloads.getD ctx.node.id (.obj [])
      recurse adapterDefinition.execute
        ⟨adapterNode, .dict (.ofList [("payload", payload)]), ctx.resources⟩
  | adapterIds => throw (taken (.adapters ctx.node.id adapterIds.length))

/-- Run a body of the graph of a run. A loop runs another graph, whose bodies are left as they
are. -/
def execute (env : Environment) : Nat → Body → ExecutionContext → Act NodeResult
  | 0 => fun _ _ => Act.raise "maximum recursion depth exceeded"
  | depth + 1 => fun body ctx =>
    match body with
    | .agent =>
      executeAgent taken env.python env.registry env.connectionTypes (execute env depth) ctx
    | .webhookTrigger => executeWebhookTrigger taken env.registry (execute env depth) ctx
    | body => executeWith env (AgentGraphStudio.execute env depth) body ctx

/-- Run a graph, as `execute_run` does it. -/
def runGraphOf (env : Environment) (depth : Nat) (runId : String) (graph : GraphSpec)
    (resources : Resources) (store : ConnectionStore) :
    Program Op Res (Except Raised RunResult) :=
  runGraph programRuntime (runObservers runId)
    (fun body ctx => (execute taken env depth body ctx).run) graph env.registry store
    (runResources resources runId) none

def executeRun (env : Environment) (depth : Nat)
    (modelDumpJson : RunResult → Except Raised String) (runId : String) (graph : GraphSpec)
    (resources : Resources) : Act Unit :=
  ExceptT.mk do
    let ending ← (Act.catchException
      (do
        let store ← Act.perform .readConnections
        let result ← Act.ofProgram (runGraphOf taken env depth runId graph resources store)
        completeRun modelDumpJson runId result)
      (failRun runId)).run
    (finishRun env runId ending).run

end

/-! ## With what the source raises, the bodies are those of the source -/

theorem tool_definitions_raised (registry : NodeRegistry Body) (resources : Resources)
    (toolIds : List String) :
    toolDefinitionsOf Branch.raised registry resources toolIds =
      AgentGraphStudio.toolDefinitionsOf registry resources toolIds := by
  induction toolIds with
  | nil => rfl
  | cons toolId toolIds ih =>
      rw [toolDefinitionsOf, AgentGraphStudio.toolDefinitionsOf, ih]
      cases resources.nodesById.get? toolId <;> rfl

theorem set_up_agent_raised (registry : NodeRegistry Body) (connectionTypes : ConnectionRegistry)
    (ctx : ExecutionContext) :
    setUpAgent Branch.raised registry connectionTypes ctx =
      AgentGraphStudio.setUpAgent registry connectionTypes ctx := by
  unfold setUpAgent AgentGraphStudio.setUpAgent
  simp only [tool_definitions_raised]
  rfl

/-- The run of this module is the run of the source, if its branches raise what they raise
there. -/
theorem execute_raised (env : Environment) (depth : Nat) :
    execute Branch.raised env depth = AgentGraphStudio.execute env depth := by
  induction depth with
  | zero => rfl
  | succ depth ih =>
      funext body ctx
      cases body with
      | agent =>
          show executeAgent Branch.raised env.python env.registry env.connectionTypes
            (execute Branch.raised env depth) ctx = _
          rw [ih, executeAgent, set_up_agent_raised]
          rfl
      | webhookTrigger =>
          show executeWebhookTrigger Branch.raised env.registry
            (execute Branch.raised env depth) ctx = _
          rw [ih]
          rfl
      | _ => rfl

theorem execute_run_raised (env : Environment) (depth : Nat)
    (modelDumpJson : RunResult → Except Raised String) (runId : String) (graph : GraphSpec)
    (resources : Resources) :
    executeRun Branch.raised env depth modelDumpJson runId graph resources =
      AgentGraphStudio.executeRun env depth modelDumpJson runId graph resources := by
  unfold executeRun runGraphOf
  rw [execute_raised]
  rfl

/-! ## What the validation guarantees of the sub-nodes -/

section

variable {graph : GraphSpec} {registry : NodeRegistry Body}

/-- Every sub-node edge of a well-formed graph counts for its slot. -/
theorem edge_counted (hformed : WellFormed graph registry) {edge : SubNodeEdge}
    (hedge : edge ∈ graph.subNodeEdges) : (checkSubNodeEdge graph registry [] edge).2 = true := by
  have hissues := List.flatMap_eq_nil_iff.mp (List.append_eq_nil_iff.mp hformed.subNodeEdges).1
    edge hedge
  have hnodes := hformed.edge_nodes (GraphSpec.mem_subNodeEdges.mp hedge)
  obtain ⟨subNode, hsub⟩ := GraphSpec.exists_node?_iff.mpr hnodes.1
  obtain ⟨rootNode, hroot⟩ := GraphSpec.exists_node?_iff.mpr hnodes.2
  obtain ⟨subDef, hsubDef⟩ := hformed.definition (GraphSpec.mem_of_node? hsub).1
  obtain ⟨rootDef, hrootDef⟩ := hformed.definition (GraphSpec.mem_of_node? hroot).1
  rw [checkSubNodeEdge, show graph.node? edge.toNode = some rootNode from hroot,
    show graph.node? edge.fromNode = some subNode from hsub] at hissues ⊢
  dsimp only at hissues ⊢
  rw [if_neg (by simp), hrootDef, hsubDef] at hissues ⊢
  dsimp only at hissues ⊢
  cases hslot : rootDef.subNodeSlotsOrEmpty.get? edge.slot with
  | none =>
      rw [hslot] at hissues
      cases hissues
  | some slotSpec =>
      rw [hslot] at hissues
      dsimp only at hissues ⊢
      split at hissues
      · cases hissues
      · rw [if_neg ‹_›]

/-- A slot of a well-formed graph has as many sub-nodes as it takes. -/
theorem cardinality_kept (hformed : WellFormed graph registry) {node : NodeSpec}
    (hnode : node ∈ graph.nodes) {definition : NodeDefinition Body}
    (hdef : registry.get node.type = some definition) {slot : String} {spec : SubNodeSlotSpec}
    (hslot : (slot, spec) ∈ definition.subNodeSlotsOrEmpty.entries) :
    cardinalityIssue node.id slot ((subNodesOf graph).getD (node.id, slot) []).length
      spec.cardinality = [] := by
  have hissues := List.flatMap_eq_nil_iff.mp (List.append_eq_nil_iff.mp hformed.subNodeEdges).2
    node hnode
  rw [if_neg List.not_mem_nil, hdef] at hissues
  have hcount := List.flatMap_eq_nil_iff.mp hissues _ hslot
  have hconnected : connectedSubNodes graph registry [] node.id slot =
      (subNodesOf graph).getD (node.id, slot) [] := by
    rw [connectedSubNodes, sub_nodes_of_eq]
    refine congrArg (List.map SubNodeEdge.fromNode) (List.filter_congr fun edge hedge => ?_)
    simp [edge_counted hformed hedge]
  rwa [hconnected] at hcount

theorem one_of_cardinality {nodeId slot : String} {count : Nat}
    (h : cardinalityIssue nodeId slot count .one = []) : count = 1 := by
  rw [cardinalityIssue] at h
  by_contra hcount
  rw [if_pos hcount] at h
  cases h

theorem le_one_of_cardinality {nodeId slot : String} {count : Nat}
    (h : cardinalityIssue nodeId slot count .zeroOrOne = []) : ¬ 1 < count := by
  intro hcount
  rw [cardinalityIssue, if_pos hcount] at h
  cases h

/-- Every sub-node that a body can find is a node of the graph. -/
theorem sub_node_found {resources : Resources} (hformed : WellFormed graph registry)
    {root slot child : String}
    (h : child ∈ (withGraph resources graph).subNodes.getD (root, slot) []) :
    ∃ node, (withGraph resources graph).nodesById.get? child = some node := by
  obtain ⟨edge, hedge, rfl, _⟩ := sub_node_of_mem h
  have hid := (hformed.edge_nodes (GraphSpec.mem_subNodeEdges.mp hedge)).1
  refine Dict.mem_keys_iff.mp (Dict.mem_keys_ofList.mpr ?_)
  rw [List.map_map]
  exact hid

end

/-! ## The branches are not taken -/

/-- The rest of a computation matters for the value of an earlier check only. -/
theorem ofExcept_bind_congr {α β : Type} {value : Except Raised α} {f g : α → Act β}
    (h : ∀ result, value = .ok result → f result = g result) :
    Act.ofExcept value >>= f = Act.ofExcept value >>= g := by
  cases value with
  | error raised => rfl
  | ok result => exact h result rfl

section

variable {taken : Branch → Raised} {registry : NodeRegistry Body}
  {connectionTypes : ConnectionRegistry} {resources : Resources}

theorem tool_definitions_eq {toolIds : List String}
    (h : ∀ toolId ∈ toolIds, ∃ node, resources.nodesById.get? toolId = some node) :
    toolDefinitionsOf taken registry resources toolIds =
      AgentGraphStudio.toolDefinitionsOf registry resources toolIds := by
  induction toolIds with
  | nil => rfl
  | cons toolId toolIds ih =>
      obtain ⟨node, hnode⟩ := h toolId List.mem_cons_self
      rw [toolDefinitionsOf, AgentGraphStudio.toolDefinitionsOf, hnode,
        ih fun other hother => h other (List.mem_cons_of_mem _ hother)]

theorem agent_profile_eq {connection : String}
    (h : connection ∈ resources.connectionProfiles.keys) :
    agentProfile taken connectionTypes resources connection =
      AgentGraphStudio.agentProfile connectionTypes resources connection := by
  obtain ⟨profile, hprofile⟩ := Dict.mem_keys_iff.mp h
  rw [agentProfile, AgentGraphStudio.agentProfile, lookupProfile, hprofile]
  rfl

/-- What the setup of an agent finds, if none of its branches is to be taken. -/
structure AgentConnected (ctx : ExecutionContext) : Prop where
  model : (ctx.resources.subNodes.getD (ctx.node.id, "model") []).length = 1
  toolGroup : ¬ 1 < (ctx.resources.subNodes.getD (ctx.node.id, "tools") []).length
  tools : ∀ toolGroupId toolId, toolId ∈ ctx.resources.subNodes.getD (toolGroupId, "tools") [] →
    ∃ node, ctx.resources.nodesById.get? toolId = some node
  profile : ∀ id node config, ctx.resources.nodesById.get? id = some node →
    LLMCallConfig.parse node.config = .ok config →
      config.connection ∈ ctx.resources.connectionProfiles.keys

theorem set_up_agent_eq {ctx : ExecutionContext} (h : AgentConnected ctx) :
    setUpAgent taken registry connectionTypes ctx =
      AgentGraphStudio.setUpAgent registry connectionTypes ctx := by
  obtain ⟨modelId, hmodel⟩ := List.length_eq_one_iff.mp h.model
  unfold setUpAgent AgentGraphStudio.setUpAgent
  refine ofExcept_bind_congr fun maxIterations _ => ?_
  rw [hmodel]
  refine ofExcept_bind_congr fun modelNode hnode => ?_
  refine ofExcept_bind_congr fun modelConfig hconfig => ?_
  refine ofExcept_bind_congr fun maxMessages _ => ?_
  dsimp only
  rw [if_neg h.toolGroup, if_neg h.toolGroup]
  have hfound : ctx.resources.nodesById.get? modelId = some modelNode := by
    rw [nodeById] at hnode
    split at hnode
    · cases hnode
      assumption
    · cases hnode
  rw [agent_profile_eq (h.profile _ _ _ hfound (validated_eq_ok hconfig))]
  refine congrArg _ (funext fun profile => ?_)
  refine congrArg (fun definitions => Act.ofExcept definitions >>= _)
    (tool_definitions_eq fun toolId htool => ?_)
  cases hgroup : ctx.resources.subNodes.getD (ctx.node.id, "tools") [] with
  | nil => simp [hgroup] at htool
  | cons toolGroupId rest =>
      rw [hgroup] at htool
      exact h.tools toolGroupId toolId htool

end

/-- A trigger with one adapter executes it. -/
theorem webhook_trigger_eq {taken : Branch → Raised} {registry : NodeRegistry Body}
    {recurse : Body → ExecutionContext → Act NodeResult} {ctx : ExecutionContext}
    (h : (ctx.resources.subNodes.getD (ctx.node.id, "trigger_adapter") []).length = 1) :
    executeWebhookTrigger taken registry recurse ctx =
      AgentGraphStudio.executeWebhookTrigger registry recurse ctx := by
  obtain ⟨adapterId, hadapter⟩ := List.length_eq_one_iff.mp h
  unfold executeWebhookTrigger AgentGraphStudio.executeWebhookTrigger
  generalize ctx.resources.subNodes.getD (ctx.node.id, "trigger_adapter") [] = adapterIds
    at hadapter
  subst hadapter
  rfl

/-- The bodies of roots belong to the built-in types. -/
structure BuiltinRoots (registry : NodeRegistry Body) : Prop where
  agent : ∀ name definition, registry.get name = some definition →
    definition.execute = .agent → definition = agentDefinition
  webhookTrigger : ∀ name definition, registry.get name = some definition →
    definition.execute = .webhookTrigger → definition = webhookTriggerDefinition

/-- No generated type has the body of a root. -/
theorem process_registry_roots {python : Python}
    {listedTools : String → List String → Option (List McpToolInfo)}
    {bindings : List GeneratedBinding} :
    BuiltinRoots (processRegistry python listedTools bindings) where
  agent name definition hget hbody := by
    obtain ⟨_, hbuiltin | ⟨_, _, rfl⟩⟩ := process_registry_cases hget
    · exact (builtin_bodies definition hbuiltin).1 hbody
    · cases hbody
  webhookTrigger name definition hget hbody := by
    obtain ⟨_, hbuiltin | ⟨_, _, rfl⟩⟩ := process_registry_cases hget
    · exact (builtin_bodies definition hbuiltin).2.1 hbody
    · cases hbody

section

variable {env : Environment} {taken : Branch → Raised} {graph : GraphSpec} {resources : Resources}

/-- An agent of a run finds its model, its tools and the profile of its connection. -/
theorem agent_connected (hroots : BuiltinRoots env.registry)
    (hformed : WellFormed graph env.registry)
    (hprofiles : ∀ name ∈ referencedConnectionNames graph,
      name ∈ resources.connectionProfiles.keys)
    {node : NodeSpec} (hnode : node ∈ graph.nodes) (hbody : env.BodyOf node .agent)
    (inputs : Inputs) : AgentConnected ⟨node, inputs, withGraph resources graph⟩ := by
  obtain ⟨definition, hdef, hexecute⟩ := hbody
  obtain rfl := hroots.agent _ _ hdef hexecute
  constructor
  · exact one_of_cardinality (cardinality_kept hformed hnode hdef
      (List.mem_cons_self : ("model", (⟨.one, some "model"⟩ : SubNodeSlotSpec)) ∈ _))
  · exact le_one_of_cardinality (cardinality_kept hformed hnode hdef
      (show ("tools", (⟨.zeroOrOne, some "tool_group"⟩ : SubNodeSlotSpec)) ∈ _ by decide))
  · exact fun toolGroupId toolId htool => sub_node_found hformed htool
  · intro id other config hother hconfig
    exact hprofiles _ (mem_referencedConnectionNames.mpr
      ⟨other, (node_of_nodesById hother).1, LLMCallConfig.connection_mem hconfig⟩)

/-- No execution within a run of the graph takes a branch. -/
theorem execute_eq (hroots : BuiltinRoots env.registry) (hformed : WellFormed graph env.registry)
    (hprofiles : ∀ name ∈ referencedConnectionNames graph,
      name ∈ resources.connectionProfiles.keys)
    (depth : Nat) {node : NodeSpec} (hnode : node ∈ graph.nodes)
    {definition : NodeDefinition Body} (hdef : env.registry.get node.type = some definition)
    (inputs : Inputs) :
    execute taken env depth definition.execute ⟨node, inputs, withGraph resources graph⟩ =
      AgentGraphStudio.execute env depth definition.execute
        ⟨node, inputs, withGraph resources graph⟩ := by
  induction depth generalizing node definition inputs with
  | zero => rfl
  | succ depth ih =>
      have halike : ∀ ids, ExecuteAlike env.registry (execute taken env depth)
          (AgentGraphStudio.execute env depth) (withGraph resources graph) ids :=
        fun _ _ _ child hchild _ inputs hchildDef =>
          ih (node_of_nodesById hchild).1 hchildDef inputs
      cases hbody : definition.execute with
      | agent =>
          have hconnected := agent_connected hroots hformed hprofiles hnode
            ⟨definition, hdef, hbody⟩ inputs
          show executeAgent taken env.python env.registry env.connectionTypes
            (execute taken env depth) _ = AgentGraphStudio.executeAgent env.python env.registry
              env.connectionTypes (AgentGraphStudio.execute env depth) _
          rw [← execute_agent_eq fun toolIds _ => halike toolIds, executeAgent,
            set_up_agent_eq hconnected]
          rfl
      | webhookTrigger =>
          obtain rfl := hroots.webhookTrigger _ _ hdef hbody
          have hcount := one_of_cardinality (cardinality_kept hformed hnode hdef
            (List.mem_cons_self :
              ("trigger_adapter", (⟨.one, some "trigger_adapter"⟩ : SubNodeSlotSpec)) ∈ _))
          show executeWebhookTrigger taken env.registry (execute taken env depth) _ =
            AgentGraphStudio.executeWebhookTrigger env.registry
              (AgentGraphStudio.execute env depth) _
          rw [← execute_webhook_trigger_eq (halike _)]
          exact webhook_trigger_eq hcount
      | _ => rfl

/-- Bodies that agree on the nodes of a graph make the same run of it. -/
theorem schedule_congr {runtime : Runtime (Program Op Res)} {observers : Observers (Program Op Res)}
    {first second : Body → ExecutionContext → Program Op Res (Except Raised NodeResult)}
    {registry : NodeRegistry Body} {runId : String}
    (h : ∀ node ∈ graph.nodes, ∀ definition inputs, registry.get node.type = some definition →
      first definition.execute ⟨node, inputs, resources⟩ =
        second definition.execute ⟨node, inputs, resources⟩) (fuel : Nat)
    (state : SchedulerState) :
    schedule runtime observers first graph registry resources runId fuel state =
      schedule runtime observers second graph registry resources runId fuel state := by
  have hready : executeReady runtime first graph registry resources runId =
      executeReady runtime second graph registry resources runId := by
    funext ready
    rw [executeReady, executeReady]
    cases hnode : graph.node? ready.1 with
    | none => rfl
    | some node =>
        dsimp only
        cases hdef : registry.get node.type with
        | none => rfl
        | some definition =>
            dsimp only
            rw [executeNode, executeNode, h node (GraphSpec.mem_of_node? hnode).1 definition _ hdef]
  induction fuel generalizing state with
  | zero => rfl
  | succ fuel ih =>
      unfold schedule
      simp only [hready, ih]

/-- No run of a well-formed graph whose profiles are resolved takes a branch. -/
theorem execute_run_taken (hroots : BuiltinRoots env.registry)
    (hformed : WellFormed graph env.registry)
    (hprofiles : ∀ name ∈ referencedConnectionNames graph,
      name ∈ resources.connectionProfiles.keys) (depth : Nat)
    (modelDumpJson : RunResult → Except Raised String) (runId : String) :
    executeRun taken env depth modelDumpJson runId graph resources =
      AgentGraphStudio.executeRun env depth modelDumpJson runId graph resources := by
  have hgraph : runGraphOf taken env depth runId graph resources =
      AgentGraphStudio.runGraphOf env depth runId graph resources := by
    funext store
    have hresolved : ∀ name ∈ referencedConnectionNames graph,
        name ∈ (runResources resources runId).connectionProfiles.keys := hprofiles
    rw [runGraphOf, AgentGraphStudio.runGraphOf, runGraphWith]
    cases hrevalidate : revalidate graph env.registry store (runResources resources runId) with
    | error issues => rw [run_graph_of_error hrevalidate, run_graph_of_error hrevalidate]
    | ok accepted =>
        rw [run_graph_of_ok hrevalidate, run_graph_of_ok hrevalidate]
        refine congrArg _ (funext fun engineRunId => ?_)
        have hschedule : ∀ fuel state, schedule programRuntime (runObservers runId)
            (fun body ctx => (execute taken env depth body ctx).run) graph env.registry
              (withGraph (runResources resources runId) graph) engineRunId fuel state =
            schedule programRuntime (runObservers runId)
              (fun body ctx => (AgentGraphStudio.execute env depth body ctx).run) graph
              env.registry (withGraph (runResources resources runId) graph) engineRunId fuel
              state :=
          schedule_congr fun node hnode definition inputs hdef =>
            congrArg ExceptT.run (execute_eq hroots hformed hresolved depth hnode hdef inputs)
        rw [runGraphAsync, runGraphAsync, hschedule]
  unfold executeRun AgentGraphStudio.executeRun
  rw [hgraph]

end

/-- A process with the default registry. -/
def processEnvironment (python : Python)
    (listedTools : String → List String → Option (List McpToolInfo))
    (bindings : List GeneratedBinding) (connectionTypes : ConnectionRegistry) : Environment where
  registry := processRegistry python listedTools bindings
  connectionTypes
  python

theorem process_environment_registry (python : Python)
    (listedTools : String → List String → Option (List McpToolInfo))
    (bindings : List GeneratedBinding) (connectionTypes : ConnectionRegistry) :
    (processEnvironment python listedTools bindings connectionTypes).registry =
      processRegistry python listedTools bindings := by
  rw [processEnvironment]

/-- The defensive branches are unreachable: whatever they raise, the run of a submitted graph
with the resources of its submission is the same, also if the connections changed in between. -/
theorem defensive_branches_unreachable (python : Python)
    (listedTools : String → List String → Option (List McpToolInfo))
    (bindings : List GeneratedBinding) (connectionTypes : ConnectionRegistry)
    {stores : GraphStores} {store : ConnectionStore} {graph : GraphSpec}
    {graphId runBy : Option String} {resources : Resources}
    (hsubmit : submitRun (processEnvironment python listedTools bindings connectionTypes) stores
      store graph graphId runBy = .ok resources) (taken : Branch → Raised) (depth : Nat)
    (modelDumpJson : RunResult → Except Raised String) (runId : String) :
    executeRun taken (processEnvironment python listedTools bindings connectionTypes) depth
        modelDumpJson runId graph resources =
      AgentGraphStudio.executeRun
        (processEnvironment python listedTools bindings connectionTypes) depth modelDumpJson
        runId graph resources := by
  obtain ⟨slotMappings, _, haccepted, hresources⟩ := submit_run_eq_ok_iff.mp hsubmit
  have hroots : BuiltinRoots
      (processEnvironment python listedTools bindings connectionTypes).registry :=
    process_environment_registry python listedTools bindings connectionTypes ▸
      process_registry_roots
  have hprofiles : ∀ name ∈ referencedConnectionNames graph,
      name ∈ resources.connectionProfiles.keys :=
    fun name => ((submitted_resources_eq_ok hresources).2.2.2 name).mpr
  exact execute_run_taken hroots (validate_graph_ok_iff.mp haccepted).1 hprofiles depth
    modelDumpJson runId

/-- A webhook passes its payload to an agent with one tool. -/
def hookedAgentGraph : GraphSpec where
  version := "1.0"
  nodes := [
    { id := "hook", type := "webhook_trigger" }, { id := "adapter", type := "generic_adapter" },
    { id := "agent", type := "agent" },
    { id := "model", type := "model"
      config := .ofList [("connection", .str "my-anthropic"), ("model", .str "claude")] },
    { id := "tools", type := "tool_group" }, { id := "upper", type := "uppercase_text" }]
  edges := [.subNode ⟨"adapter", "hook", "trigger_adapter"⟩,
    .data ⟨"hook", "payload", "agent", "task"⟩, .subNode ⟨"model", "agent", "model"⟩,
    .subNode ⟨"tools", "agent", "tools"⟩, .subNode ⟨"upper", "tools", "tools"⟩]
  nodupIds := show ["hook", "adapter", "agent", "model", "tools", "upper"].Nodup by decide

set_option maxRecDepth 20000 in
/-- The branches do not matter to the runs of this graph. -/
theorem hooked_agent_unreachable : ∃ resources,
    submitRun (processEnvironment plainPython (fun _ _ => none) []
      anthropicEnvironment.connectionTypes) sharedStores [anthropicProfile "my-anthropic" none]
      hookedAgentGraph none none = .ok resources ∧
    ∀ taken depth, executeRun taken (processEnvironment plainPython (fun _ _ => none) []
        anthropicEnvironment.connectionTypes) depth (fun _ => .ok "{}") "run"
        hookedAgentGraph resources =
      AgentGraphStudio.executeRun (processEnvironment plainPython (fun _ _ => none) []
        anthropicEnvironment.connectionTypes) depth (fun _ => .ok "{}") "run"
        hookedAgentGraph resources := by
  have haccepted : validateGraph hookedAgentGraph (processEnvironment plainPython (fun _ _ => none)
      [] anthropicEnvironment.connectionTypes).registry [anthropicProfile "my-anthropic" none] none
      .empty = .ok () := by
    decide +kernel
  have hmapped : slotMappingsFor sharedStores none none = .ok .empty := rfl
  have hsubmit := submit_run_eq_ok_iff.mpr ⟨.empty, hmapped, haccepted, rfl⟩
  exact ⟨_, hsubmit, fun taken depth => defensive_branches_unreachable plainPython
    (fun _ _ => none) [] anthropicEnvironment.connectionTypes hsubmit taken depth _ _⟩

end Defensive

end AgentGraphStudio
