import AgentGraphStudio.Mcp.GeneratedNodes
import AgentGraphStudio.Nodes.Agent
import AgentGraphStudio.Nodes.Code
import AgentGraphStudio.Nodes.Loop
import AgentGraphStudio.Nodes.McpCall

/-!
# Executing any node

The bodies of all node types, and `execute`, which runs one of them. Agents, loops and webhook
triggers execute other nodes in turn; `depth` bounds how deep such executions nest, as the
interpreter's recursion limit does. `execute_always` is the induction over that depth: a
`Discipline` names a policy and what it needs to know about a run, and every execution of the
run keeps the policy.
-/

namespace AgentGraphStudio

/-- The body of a node type. A plain body only reads its node and its inputs. -/
inductive Body where
  | plain (run : NodeSpec → Inputs → Except Raised NodeResult)
  | scheduleTrigger
  | webhookTrigger
  | llmCall
  | agent
  | loop
  | code
  | ingestDocument
  | vectorSearch
  | telegram (methods : List TelegramMethodSpec)
  | mcpCall
  | generated (binding : GeneratedBinding)

/-- The registries of the process and its interpreter. -/
structure Environment where
  registry : NodeRegistry Body
  connectionTypes : ConnectionRegistry
  python : Python

def executeScheduleTrigger : Act NodeResult := do
  let firedAt ← Act.perform .utcnowIso
  pure (.single "fired_at" (.str firedAt))

/-- Execute the connected adapter on the payload that fired the trigger. -/
def executeWebhookTrigger (registry : NodeRegistry Body)
    (recurse : Body → ExecutionContext → Act NodeResult) (ctx : ExecutionContext) :
    Act NodeResult :=
  match ctx.resources.subNodes.getD (ctx.node.id, "trigger_adapter") [] with
  | [adapterId] => do
    let adapterNode ← Act.ofExcept (nodeById ctx.resources adapterId)
    match registry.get adapterNode.type with
    | none =>
      Act.raise s!"trigger_adapter '{adapterNode.id}' has unregistered type '{adapterNode.type}'"
    | some adapterDefinition =>
      let payload := ctx.resources.triggerPayloads.getD ctx.node.id (.obj [])
      recurse adapterDefinition.execute
        ⟨adapterNode, .dict (.ofList [("payload", payload)]), ctx.resources⟩
  | adapterIds =>
    Act.raise (s!"webhook_trigger '{ctx.node.id}' has {adapterIds.length} connected " ++
      "'trigger_adapter' sub-nodes, expected exactly 1")

/-- Run a body, given how to run the bodies it executes itself. -/
def executeWith (env : Environment) (recurse : Body → ExecutionContext → Act NodeResult)
    (body : Body) (ctx : ExecutionContext) : Act NodeResult :=
  match body with
  | .plain run => Act.ofExcept (run ctx.node ctx.inputs)
  | .scheduleTrigger => executeScheduleTrigger
  | .webhookTrigger => executeWebhookTrigger env.registry recurse ctx
  | .llmCall => executeLlmCall ctx
  | .agent => executeAgent env.python env.registry env.connectionTypes recurse ctx
  | .loop => executeLoop env.registry recurse ctx
  | .code => executeCode env.python ctx
  | .ingestDocument => executeIngestDocument env.connectionTypes ctx
  | .vectorSearch => executeVectorSearch env.connectionTypes ctx
  | .telegram methods => executeTelegramAction env.python methods ctx
  | .mcpCall => executeMcpCall env.python ctx
  | .generated binding => executeGenerated env.python binding ctx

/-- Run a body, with executions nested at most this deep. -/
def execute (env : Environment) : Nat → Body → ExecutionContext → Act NodeResult
  | 0 => fun _ _ => Act.raise "maximum recursion depth exceeded"
  | depth + 1 => executeWith env (execute env depth)

/-- Run a graph with the bodies of all node types. -/
def runGraphWith (env : Environment) (depth : Nat) (observers : Observers (Program Op Res))
    (graph : GraphSpec) (store : ConnectionStore) (resources : Resources)
    (runId : Option String) : Program Op Res (Except Raised RunResult) :=
  runGraph programRuntime observers (fun body ctx => (execute env depth body ctx).run) graph
    env.registry store resources runId

/-! ## Keeping a policy throughout a run -/

/-- Does the registry give the node this body? -/
def Environment.BodyOf (env : Environment) (node : NodeSpec) (body : Body) : Prop :=
  ∃ definition, env.registry.get node.type = some definition ∧ definition.execute = body

/-- A policy, with what it has to know about the resources of a run, which stay fixed, and
about its nodes. -/
structure Discipline (env : Environment) where
  policy : Policy
  Fixed : Resources → Prop
  Good : NodeSpec → Prop
  fixed_withGraph : ∀ {resources}, Fixed resources → ∀ graph, Fixed (withGraph resources graph)
  looksUp : ∀ {node}, Good node → policy.LooksUp node.config
  converses : policy.Converses
  nested : ∀ {node config}, Good node → env.BodyOf node .loop →
    LoopConfig.parse node.config = .ok config → WellFormed config.subGraph env.registry →
      ∀ inner ∈ config.subGraph.nodes, ∀ entryNodeId value, Good (seedNode entryNodeId value inner)
  generated : ∀ binding ctx, Fixed ctx.resources →
    (executeGenerated env.python binding ctx).Always policy
  mcpCall : ∀ ctx, Fixed ctx.resources → (executeMcpCall env.python ctx).Always policy

/-- The discipline of a policy that only looks at operations and leaves the use of tools
alone. -/
def Discipline.ofOps (env : Environment) (permitted : Op → Prop)
    (hroutine : ∀ op, op.Routine → permitted op) (htool : ∀ op, op.ToolUse → permitted op)
    (Good : NodeSpec → Prop)
    (looksUp : ∀ {node}, Good node → (Policy.ofOps permitted hroutine).LooksUp node.config)
    (nested : ∀ {node config}, Good node → env.BodyOf node .loop →
      LoopConfig.parse node.config = .ok config → WellFormed config.subGraph env.registry →
        ∀ inner ∈ config.subGraph.nodes, ∀ entryNodeId value,
          Good (seedNode entryNodeId value inner)) : Discipline env where
  policy := .ofOps permitted hroutine
  Fixed _ := True
  Good
  fixed_withGraph _ _ := trivial
  looksUp
  converses _ _ _ _ _ _ _ _ _ _ := htool _ trivial
  nested
  generated _ _ _ :=
    execute_generated_always (fun _ => htool _ trivial) (fun _ _ _ => htool _ trivial)
    (fun _ _ _ => ⟨htool _ trivial, htool _ trivial⟩)
    fun _ _ _ _ _ => call_gated_certified fun _ => htool _ trivial
  mcpCall _ _ := execute_mcp_call_keeps (Policy.rules _) fun _ _ _ =>
    call_stdio_gated_keeps (Policy.rules _) fun _ => htool _ trivial

/-- The nodes that the bodies of a graph can look up are nodes of the graph, under their ids. -/
theorem node_of_nodesById {resources : Resources} {graph : GraphSpec} {id : String}
    {node : NodeSpec} (h : (withGraph resources graph).nodesById.get? id = some node) :
    node ∈ graph.nodes ∧ node.id = id := by
  rw [withGraph, Dict.get?_ofList] at h
  obtain ⟨entry, hentry, rfl⟩ := Option.map_eq_some_iff.mp h
  obtain ⟨hmem, hkey⟩ := List.mem_filter.mp (List.mem_of_getLast? hentry)
  obtain ⟨node, hnode, rfl⟩ := List.mem_map.mp hmem
  exact ⟨hnode, by simpa using hkey⟩

theorem execute_schedule_trigger_keeps {permits : Op → Prop}
    {P : ∀ α : Type, Program Op Res α → Prop} (rules : Rules permits P) :
    P _ executeScheduleTrigger.run :=
  rules.act_bind (rules.act_silent trivial) fun _ => rules.act_pure _

/-- A webhook trigger keeps what its adapter keeps. -/
theorem execute_webhook_trigger_keeps {permits : Op → Prop}
    {P : ∀ α : Type, Program Op Res α → Prop} (rules : Rules permits P)
    {registry : NodeRegistry Body} {recurse : Body → ExecutionContext → Act NodeResult}
    {ctx : ExecutionContext}
    (h : ∀ id node, ctx.resources.nodesById.get? id = some node → ∀ definition inputs,
      registry.get node.type = some definition →
        P _ (recurse definition.execute ⟨node, inputs, ctx.resources⟩).run) :
    P _ (executeWebhookTrigger registry recurse ctx).run := by
  rw [executeWebhookTrigger]
  split
  · rename_i adapterId _
    refine rules.act_ofExcept_bind fun adapterNode hadapter => ?_
    rw [nodeById] at hadapter
    split at hadapter
    · rename_i node hnode
      cases hadapter
      cases hdef : registry.get adapterNode.type with
      | none => exact rules.act_raise _
      | some definition => exact h _ _ hnode _ _ hdef
    · cases hadapter
  · exact rules.act_raise _

namespace Discipline

variable {env : Environment} (discipline : Discipline env)

/-- What the discipline knows about an execution. -/
structure Admits (body : Body) (ctx : ExecutionContext) : Prop where
  fixed : discipline.Fixed ctx.resources
  body : env.BodyOf ctx.node body
  node : discipline.Good ctx.node
  nodes : ∀ id node, ctx.resources.nodesById.get? id = some node → discipline.Good node

/-- The nodes of a graph may be executed, if they are good. -/
theorem admits_of_mem {graph : GraphSpec} {resources : Resources}
    (hfixed : discipline.Fixed resources) (hgood : ∀ node ∈ graph.nodes, discipline.Good node)
    {node : NodeSpec} (hnode : node ∈ graph.nodes) {definition : NodeDefinition Body}
    (hdef : env.registry.get node.type = some definition) (inputs : Inputs) :
    discipline.Admits definition.execute ⟨node, inputs, withGraph resources graph⟩ :=
  ⟨discipline.fixed_withGraph hfixed _, ⟨definition, hdef, rfl⟩, hgood node hnode,
    fun _ other hother => hgood other (node_of_nodesById hother).1⟩

/-- One body keeps the policy, if the executions it starts do. -/
theorem execute_with_always {recurse : Body → ExecutionContext → Act NodeResult}
    (hrecurse : ∀ body ctx, discipline.Admits body ctx →
      (recurse body ctx).Always discipline.policy)
    {body : Body} {ctx : ExecutionContext} (h : discipline.Admits body ctx) :
    (executeWith env recurse body ctx).Always discipline.policy := by
  have hlooks := discipline.looksUp h.node
  have htools : ToolsAlways discipline.policy env.registry recurse ctx.resources :=
    fun id node hnode definition inputs hdef =>
      hrecurse _ _ ⟨h.fixed, ⟨definition, hdef, rfl⟩, h.nodes id node hnode, h.nodes⟩
  cases body with
  | plain run => exact Act.always_ofExcept _
  | scheduleTrigger =>
      exact execute_schedule_trigger_keeps discipline.policy.rules
  | webhookTrigger => exact execute_webhook_trigger_keeps discipline.policy.rules htools
  | llmCall => exact execute_llm_call_keeps discipline.policy.rules hlooks
  | agent =>
      exact execute_agent_always discipline.converses
        (fun id node hnode => discipline.looksUp (h.nodes id node hnode))
        htools
  | loop =>
      refine execute_loop_keeps discipline.policy.rules
        fun config hconfig hformed entryNodeId value => ?_
      intro node hnode definition inputs hdef
      refine hrecurse _ _ (discipline.admits_of_mem h.fixed (fun inner hinner => ?_) hnode hdef _)
      obtain ⟨original, horiginal, rfl⟩ := List.mem_map.mp hinner
      exact discipline.nested h.node h.body hconfig hformed original horiginal entryNodeId value
  | code => exact execute_code_keeps discipline.policy.rules
  | ingestDocument => exact execute_ingest_document_keeps discipline.policy.rules hlooks
  | vectorSearch => exact execute_vector_search_keeps discipline.policy.rules hlooks
  | telegram methods => exact execute_telegram_action_keeps discipline.policy.rules hlooks
  | mcpCall => exact discipline.mcpCall ctx h.fixed
  | generated binding => exact discipline.generated binding ctx h.fixed

/-- Every execution keeps the policy, by induction on how deep executions may nest. -/
theorem execute_always (depth : Nat) {body : Body} {ctx : ExecutionContext}
    (h : discipline.Admits body ctx) : (execute env depth body ctx).Always discipline.policy := by
  induction depth generalizing body ctx with
  | zero => exact Act.always_raise _
  | succ depth ih => exact discipline.execute_with_always (fun _ _ => ih) h

/-- The nodes of a graph keep the policy, if they are good. -/
theorem nodes_always {depth : Nat} {graph : GraphSpec} {resources : Resources}
    (hfixed : discipline.Fixed resources) (hgood : ∀ node ∈ graph.nodes, discipline.Good node) :
    NodesAlways discipline.policy (execute env depth) graph (withGraph resources graph)
      env.registry :=
  fun _ hnode _ _ hdef =>
    discipline.execute_always depth (discipline.admits_of_mem hfixed hgood hnode hdef _)

/-- A run of a graph whose nodes are good keeps the policy. -/
theorem run_graph_with_always {depth : Nat} {observers : Observers (Program Op Res)}
    {graph : GraphSpec} {store : ConnectionStore} {resources : Resources} {runId : Option String}
    (hobservers : ∀ runId, observers.Always discipline.policy runId)
    (hfixed : discipline.Fixed resources) (hgood : ∀ node ∈ graph.nodes, discipline.Good node) :
    Program.Always discipline.policy.permitted discipline.policy.allowed
      (runGraphWith env depth observers graph store resources runId) :=
  run_graph_always hobservers (discipline.nodes_always hfixed hgood)

end Discipline

end AgentGraphStudio
