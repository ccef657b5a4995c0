import AgentGraphStudio.Nodes.AgentWindow

/-!
# How deep sub-nodes nest

An agent executes its tools itself, and a tool may be an agent with tools of its own. The rule
against cycles looks at data edges only, so nothing keeps an agent from being its own tool.
`sub_nodes_bounded_iff` says which accepted graphs bound the nesting: those whose sub-node edges
would pass the same rule. The proof follows a topological order of the sub-node edges, along
which every direct execution descends.
-/

namespace AgentGraphStudio

/-! ## The order of sub-nodes -/

/-- The sub-node edges of a graph, in the form in which the cycle rule reads edges. -/
def subNodeLinks (graph : GraphSpec) : List DataEdge :=
  graph.subNodeEdges.map fun edge => ⟨edge.fromNode, edge.slot, edge.toNode, edge.slot⟩

/-- The child is connected to the root by a sub-node edge. -/
def SubNodeOf (graph : GraphSpec) (child root : String) : Prop :=
  ∃ edge ∈ graph.subNodeEdges, edge.fromNode = child ∧ edge.toNode = root

/-- The position of a node in the order of the sub-node edges. -/
def subNodeRank (graph : GraphSpec) (id : String) : Nat :=
  (kahnOrder (graph.nodes.map NodeSpec.id) (subNodeLinks graph)).1.idxOf id

theorem sub_node_links_known {Body : Type} {graph : GraphSpec} {registry : NodeRegistry Body}
    (hformed : WellFormed graph registry) {child root : String} :
    SubNodeOf graph child root ↔
      ∃ link ∈ knownEdges (graph.nodes.map NodeSpec.id) (subNodeLinks graph),
        link.fromNode = child ∧ link.toNode = root := by
  constructor
  · intro h
    obtain ⟨edge, hedge, hends⟩ := h
    have hnodes := hformed.edge_nodes (GraphSpec.mem_subNodeEdges.mp hedge)
    exact ⟨_, mem_knownEdges.mpr ⟨List.mem_map_of_mem hedge, hnodes⟩, hends⟩
  · intro h
    obtain ⟨link, hlink, hends⟩ := h
    obtain ⟨edge, hedge, rfl⟩ := List.mem_map.mp (mem_knownEdges.mp hlink).1
    exact ⟨edge, hedge, hends⟩

section

variable {Body : Type} {graph : GraphSpec} {registry : NodeRegistry Body}

/-- Without a remainder, a sub-node comes before its root. -/
theorem sub_node_rank_lt (hformed : WellFormed graph registry)
    (hacyclic : (kahnOrder (graph.nodes.map NodeSpec.id) (subNodeLinks graph)).2 = [])
    {child root : String} (h : SubNodeOf graph child root) :
    subNodeRank graph child < subNodeRank graph root := by
  obtain ⟨link, hlink, rfl, rfl⟩ := (sub_node_links_known hformed).mp h
  exact acyclic_of_no_remaining graph.nodupIds hacyclic link hlink

/-- Without a remainder, every node has a position below the number of nodes. -/
theorem sub_node_rank_lt_length
    (hacyclic : (kahnOrder (graph.nodes.map NodeSpec.id) (subNodeLinks graph)).2 = [])
    {node : NodeSpec} (hnode : node ∈ graph.nodes) :
    subNodeRank graph node.id < graph.nodes.length := by
  have hspec := kahn_order_spec graph.nodupIds (subNodeLinks graph)
  have hmem : node.id ∈ (kahnOrder (graph.nodes.map NodeSpec.id) (subNodeLinks graph)).1 := by
    by_contra hout
    have := (hspec.remaining_iff node.id).mpr ⟨List.mem_map_of_mem hnode, hout⟩
    simp [hacyclic] at this
  have hlength := (List.subperm_of_subset hspec.nodup hspec.known).length_le
  rw [List.length_map] at hlength
  exact Nat.lt_of_lt_of_le (List.idxOf_lt_length_of_mem hmem) hlength

/-- The sub-node edges are well-founded exactly if the cycle rule would find no cycle in
them. -/
theorem sub_node_of_wellFounded_iff (hformed : WellFormed graph registry) :
    WellFounded (SubNodeOf graph) ↔
      (kahnOrder (graph.nodes.map NodeSpec.id) (subNodeLinks graph)).2 = [] := by
  have hspec := kahn_order_spec graph.nodupIds (subNodeLinks graph)
  constructor
  · intro h
    -- A remaining node would have a remaining sub-node.
    have habsent : ∀ id, id ∉ (kahnOrder (graph.nodes.map NodeSpec.id) (subNodeLinks graph)).2 := by
      intro id
      induction id using h.induction with
      | h id ih =>
          intro hid
          obtain ⟨link, hlink, hto, hfrom⟩ := hspec.stuck id hid
          exact ih _ ((sub_node_links_known hformed).mpr ⟨link, hlink, rfl, hto⟩) hfrom
    exact List.eq_nil_iff_forall_not_mem.mpr habsent
  · intro hacyclic
    exact Subrelation.wf (fun h => sub_node_rank_lt hformed hacyclic h)
      (InvImage.wf (subNodeRank graph) Nat.lt_wfRel.wf)

end

/-- A body finds in a slot of its node the sources of the edges to that slot. -/
theorem sub_nodes_of_eq {graph : GraphSpec} (root slot : String) :
    (subNodesOf graph).getD (root, slot) [] =
      (graph.subNodeEdges.filter fun edge => edge.toNode = root ∧ edge.slot = slot).map
        SubNodeEdge.fromNode := by
  have hfold : ∀ (edges : List SubNodeEdge) (subNodes : Dict (String × String) (List String)),
      (edges.foldl (fun subNodes edge =>
          subNodes.set (edge.toNode, edge.slot)
            (subNodes.getD (edge.toNode, edge.slot) [] ++ [edge.fromNode])) subNodes).getD
        (root, slot) [] =
      subNodes.getD (root, slot) [] ++
        (edges.filter fun edge => edge.toNode = root ∧ edge.slot = slot).map
          SubNodeEdge.fromNode := by
    intro edges
    induction edges with
    | nil => exact fun _ => (List.append_nil _).symm
    | cons edge edges ih =>
        intro subNodes
        rw [List.foldl_cons, ih, Dict.getD_set, List.filter_cons]
        by_cases hkey : edge.toNode = root ∧ edge.slot = slot
        · obtain ⟨rfl, rfl⟩ := hkey
          simp
        · have hother : (root, slot) ≠ (edge.toNode, edge.slot) := fun heq =>
            hkey ⟨(congrArg Prod.fst heq).symm, (congrArg Prod.snd heq).symm⟩
          simp [hkey, hother]
  exact hfold graph.subNodeEdges .empty

/-- The sub-nodes that a body finds in a slot of its node are connected to it. -/
theorem sub_node_of_mem {resources : Resources} {graph : GraphSpec} {root slot child : String}
    (h : child ∈ (withGraph resources graph).subNodes.getD (root, slot) []) :
    SubNodeOf graph child root := by
  rw [withGraph, sub_nodes_of_eq] at h
  obtain ⟨edge, hedge, hfrom⟩ := List.mem_map.mp h
  obtain ⟨hmem, hends⟩ := List.mem_filter.mp hedge
  exact ⟨edge, hmem, hfrom, (of_decide_eq_true hends).1⟩

/-! ## What a body executes directly -/

section

variable {python : Python} {connectionTypes : ConnectionRegistry} {registry : NodeRegistry Body}
  {recurse recurse' : Body → ExecutionContext → Act NodeResult} {resources : Resources}

/-- Two ways of executing bodies agree on a node. -/
def AgreeOn (recurse recurse' : Body → ExecutionContext → Act NodeResult) (resources : Resources)
    (node : NodeSpec) : Prop :=
  ∀ body inputs, recurse body ⟨node, inputs, resources⟩ = recurse' body ⟨node, inputs, resources⟩

/-- Two ways of executing bodies agree on the nodes with these ids. -/
def AgreeOnIds (recurse recurse' : Body → ExecutionContext → Act NodeResult)
    (resources : Resources) (ids : List String) : Prop :=
  ∀ id ∈ ids, ∀ node, resources.nodesById.get? id = some node →
    AgreeOn recurse recurse' resources node

/-- Two ways of executing bodies agree on the registered bodies of the nodes with these ids. -/
def ExecuteAlike (registry : NodeRegistry Body)
    (recurse recurse' : Body → ExecutionContext → Act NodeResult) (resources : Resources)
    (ids : List String) : Prop :=
  ∀ id ∈ ids, ∀ node, resources.nodesById.get? id = some node → ∀ definition inputs,
    registry.get node.type = some definition →
      recurse definition.execute ⟨node, inputs, resources⟩ =
        recurse' definition.execute ⟨node, inputs, resources⟩

theorem AgreeOnIds.executeAlike {ids : List String}
    (h : AgreeOnIds recurse recurse' resources ids) :
    ExecuteAlike registry recurse recurse' resources ids :=
  fun id hid node hnode _ inputs _ => h id hid node hnode _ inputs

theorem run_tool_eq {toolNode : NodeSpec}
    (h : ∀ definition inputs, registry.get toolNode.type = some definition →
      recurse definition.execute ⟨toolNode, inputs, resources⟩ =
        recurse' definition.execute ⟨toolNode, inputs, resources⟩) (callArguments : Json) :
    runTool python registry recurse resources toolNode callArguments =
      runTool python registry recurse' resources toolNode callArguments := by
  unfold runTool
  cases hdef : registry.get toolNode.type with
  | none => rfl
  | some definition => simp only [h definition _ hdef]

theorem dispatch_calls_eq {toolIds : List String}
    (h : ExecuteAlike registry recurse recurse' resources toolIds) (calls : List ToolCallRequest)
    (state : AgentState) :
    dispatchCalls python registry recurse resources toolIds calls state =
      dispatchCalls python registry recurse' resources toolIds calls state := by
  induction calls generalizing state with
  | nil => rfl
  | cons call calls ih =>
      have hcall : dispatchCall python registry recurse resources toolIds call state =
          dispatchCall python registry recurse' resources toolIds call state := by
        unfold dispatchCall
        split
        · rfl
        · rename_i toolNode hfound
          split at hfound
          · rename_i hmem
            rw [run_tool_eq (h call.name hmem toolNode hfound)]
          · cases hfound
      unfold dispatchCalls
      rw [hcall]
      exact congrArg _ (funext fun next => ih next)

/-- The turns of an agent execute its tools only. -/
theorem agent_loop_eq {setup : AgentSetup}
    (h : ExecuteAlike registry recurse recurse' resources setup.toolIds) (turns : Nat)
    (state : AgentState) :
    agentLoop python registry recurse resources setup turns state =
      agentLoop python registry recurse' resources setup turns state := by
  induction turns generalizing state with
  | zero => rfl
  | succ turns ih =>
      unfold agentLoop
      simp only [dispatch_calls_eq h, ih]

/-- Every operation is permitted. -/
def Policy.any : Policy := .ofOps (fun _ => True) fun _ _ => trivial

/-- An agent executes only what is connected to the tool groups that are connected to it. -/
theorem execute_agent_eq {ctx : ExecutionContext}
    (h : ∀ toolIds, ToolsOf ctx.resources ctx.node.id toolIds →
      ExecuteAlike registry recurse recurse' ctx.resources toolIds) :
    executeAgent python registry connectionTypes recurse ctx =
      executeAgent python registry connectionTypes recurse' ctx := by
  have hsetup : (setUpAgent registry connectionTypes ctx).Ensures Policy.any _ :=
    set_up_agent_ensures fun _ _ _ _ _ _ _ => trivial
  refine Act.bind_congr_of hsetup fun setup hfound => ?_
  simp only [agent_loop_eq (h setup.toolIds hfound.2)]

/-- A webhook trigger executes only its adapter. -/
theorem execute_webhook_trigger_eq {ctx : ExecutionContext}
    (h : ExecuteAlike registry recurse recurse' ctx.resources
      (ctx.resources.subNodes.getD (ctx.node.id, "trigger_adapter") [])) :
    executeWebhookTrigger registry recurse ctx = executeWebhookTrigger registry recurse' ctx := by
  unfold executeWebhookTrigger
  split
  · rename_i adapterId hadapter
    rw [hadapter] at h
    have hadapterNode : (Act.ofExcept (nodeById ctx.resources adapterId)).Ensures Policy.any
        fun adapterNode => nodeById ctx.resources adapterId = .ok adapterNode :=
      Act.ensures_ofExcept fun _ => id
    refine Act.bind_congr_of hadapterNode fun adapterNode hfound => ?_
    unfold nodeById at hfound
    split at hfound
    · rename_i node hnode
      cases hfound
      cases hdef : registry.get adapterNode.type with
      | none => rfl
      | some definition => exact h adapterId List.mem_cons_self adapterNode hnode _ _ hdef
    · cases hfound
  · rfl

end

/-! ## Bounded nesting -/

/-- The bodies that execute nodes of their own graph. -/
def Body.executesSubNodes : Body → Bool
  | .agent | .webhookTrigger => true
  | _ => false

/-- Run a body, with executions of sub-nodes nested at most so deep. `beyond` stands for any
execution below that depth, and `inner` for the executions inside a loop, which runs another
graph. -/
def executeNested (env : Environment) (inner : Nat → Body → ExecutionContext → Act NodeResult)
    (beyond : Body → ExecutionContext → Act NodeResult) :
    Nat → Body → ExecutionContext → Act NodeResult
  | 0 => beyond
  | limit + 1 => fun body ctx =>
    executeWith env
      (if body.executesSubNodes then executeNested env inner beyond limit else inner limit) body ctx

/-- The sub-node edges are well-founded, and no execution of a node of the graph reaches an
execution nested deeper than the number of nodes, whatever that one would do and whatever the
models answer. -/
structure SubNodesBounded (env : Environment) (graph : GraphSpec) : Prop where
  wellFounded : WellFounded (SubNodeOf graph)
  nesting : ∀ inner beyond beyond' resources, ∀ node ∈ graph.nodes, ∀ body inputs,
    executeNested env inner beyond graph.nodes.length body
        ⟨node, inputs, withGraph resources graph⟩ =
      executeNested env inner beyond' graph.nodes.length body
        ⟨node, inputs, withGraph resources graph⟩

section

variable {env : Environment}

/-- Executing with a bounded depth is a nested execution. -/
theorem execute_eq_nested (depth limit : Nat) :
    execute env (depth + limit) =
      executeNested env (fun level => execute env (depth + level)) (execute env depth) limit := by
  induction limit with
  | zero => rfl
  | succ limit ih =>
      funext body ctx
      show executeWith env (execute env (depth + limit)) body ctx = _
      unfold executeNested
      rw [← ih]
      split <;> rfl

/-- Every direct execution descends in the order of the sub-node edges. -/
theorem execute_nested_eq {graph : GraphSpec} (hformed : WellFormed graph env.registry)
    (hacyclic : (kahnOrder (graph.nodes.map NodeSpec.id) (subNodeLinks graph)).2 = [])
    {inner : Nat → Body → ExecutionContext → Act NodeResult}
    {beyond beyond' : Body → ExecutionContext → Act NodeResult} {resources : Resources}
    (limit : Nat) {node : NodeSpec} (hrank : subNodeRank graph node.id < limit) :
    AgreeOn (executeNested env inner beyond limit) (executeNested env inner beyond' limit)
      (withGraph resources graph) node := by
  induction limit generalizing node with
  | zero => exact absurd hrank (Nat.not_lt_zero _)
  | succ limit ih =>
      intro body inputs
      have hbelow : ∀ ids, (∀ id ∈ ids, subNodeRank graph id < subNodeRank graph node.id) →
          AgreeOnIds (executeNested env inner beyond limit) (executeNested env inner beyond' limit)
            (withGraph resources graph) ids := by
        intro ids hids id hid child hchild
        have hlt := hids id hid
        rw [← (node_of_nodesById hchild).2] at hlt
        exact ih (by omega)
      cases body with
      | agent =>
          refine execute_agent_eq fun toolIds htools =>
            (hbelow toolIds fun toolId htool => ?_).executeAlike
          obtain ⟨toolGroupId, hgroup, hmem⟩ := htools toolId htool
          exact Nat.lt_trans (sub_node_rank_lt hformed hacyclic (sub_node_of_mem hmem))
            (sub_node_rank_lt hformed hacyclic (sub_node_of_mem hgroup))
      | webhookTrigger =>
          refine execute_webhook_trigger_eq
            (hbelow _ fun adapterId hadapter => ?_).executeAlike
          exact sub_node_rank_lt hformed hacyclic (sub_node_of_mem hadapter)
      | _ => rfl

/-- Executing a node of an acyclic graph does not depend on what lies below as many levels as
the graph has nodes. -/
theorem execute_eq_beyond {graph : GraphSpec} (hformed : WellFormed graph env.registry)
    (hacyclic : (kahnOrder (graph.nodes.map NodeSpec.id) (subNodeLinks graph)).2 = [])
    (depth : Nat) (beyond : Body → ExecutionContext → Act NodeResult) (resources : Resources)
    {node : NodeSpec} (hnode : node ∈ graph.nodes) (body : Body) (inputs : Inputs) :
    execute env (depth + graph.nodes.length) body ⟨node, inputs, withGraph resources graph⟩ =
      executeNested env (fun level => execute env (depth + level)) beyond graph.nodes.length body
        ⟨node, inputs, withGraph resources graph⟩ := by
  rw [execute_eq_nested]
  exact execute_nested_eq hformed hacyclic _ (sub_node_rank_lt_length hacyclic hnode) body inputs

/-- An accepted graph bounds the nesting of its sub-nodes by the number of its nodes exactly if
its sub-node edges, too, pass the rule against cycles. -/
theorem sub_nodes_bounded_iff {graph : GraphSpec} {store : ConnectionStore}
    {userId : Option String} {slotMappings : Dict String String}
    (haccepted : validateGraph graph env.registry store userId slotMappings = .ok ()) :
    SubNodesBounded env graph ↔
      (kahnOrder (graph.nodes.map NodeSpec.id) (subNodeLinks graph)).2 = [] := by
  have hformed := (validate_graph_ok_iff.mp haccepted).1
  constructor
  · exact fun h => (sub_node_of_wellFounded_iff hformed).mp h.wellFounded
  · intro hacyclic
    refine ⟨(sub_node_of_wellFounded_iff hformed).mpr hacyclic, ?_⟩
    intro inner beyond beyond' resources node hnode
    exact execute_nested_eq hformed hacyclic _ (sub_node_rank_lt_length hacyclic hnode)

end

/-! ### An agent with an agent as its tool -/

/-- An agent whose tool is a helper, an agent with these tools. Both have a single turn. -/
def helperGraph (helperTools : List String) : GraphSpec where
  version := "1.0"
  nodes := [
    { id := "agent", type := "agent", config := .ofList [("max_iterations", .int 1)]
      inputValues := .ofList [("task", .str "shout hello")] },
    { id := "model", type := "model"
      config := .ofList [("connection", .str "my-anthropic"), ("model", .str "claude")] },
    { id := "tools", type := "tool_group" },
    { id := "helper", type := "agent", config := .ofList [("max_iterations", .int 1)] },
    { id := "helper_tools", type := "tool_group" }, { id := "upper", type := "uppercase_text" }]
  edges := [.subNode ⟨"model", "agent", "model"⟩, .subNode ⟨"tools", "agent", "tools"⟩,
    .subNode ⟨"helper", "tools", "tools"⟩, .subNode ⟨"model", "helper", "model"⟩,
    .subNode ⟨"helper_tools", "helper", "tools"⟩] ++
      helperTools.map fun tool => .subNode ⟨tool, "helper_tools", "tools"⟩
  nodupIds := show ["agent", "model", "tools", "helper", "helper_tools", "upper"].Nodup by decide

/-- The agent of the graph with its resources. -/
def helperContext (helperTools : List String) : ExecutionContext where
  node := { id := "agent", type := "agent", config := .ofList [("max_iterations", .int 1)]
            inputValues := .ofList [("task", .str "shout hello")] }
  inputs := .dict (.ofList [("task", .str "shout hello")])
  resources := withGraph
    { connectionProfiles := .ofList [("my-anthropic", anthropicProfile "my-anthropic" none)] }
    (helperGraph helperTools)

/-- A model that passes every task on to the helper. -/
def helperAnswers : (op : Op) → Res op
  | .completeWithTools .. =>
    .ok { text := none, toolCalls := [{ id := "call_1", name := "helper"
                                        arguments := .obj [("task", .str "shout hello")] }] }
  | op => helloAnswers [] op

set_option maxRecDepth 20000 in
/-- A helper with a plain tool bounds the nesting. -/
theorem plain_helper_bounded : SubNodesBounded anthropicEnvironment (helperGraph ["upper"]) :=
  (@sub_nodes_bounded_iff anthropicEnvironment (helperGraph ["upper"])
    [anthropicProfile "my-anthropic" none] none .empty rfl).mpr rfl

/-- A helper that is its own tool is executed deeper than there are nodes. -/
theorem own_tool_unbounded :
    validateGraph (helperGraph ["upper", "helper"]) anthropicEnvironment.registry
      [anthropicProfile "my-anthropic" none] none .empty = .ok () ∧
    ¬ WellFounded (SubNodeOf (helperGraph ["upper", "helper"])) ∧
    ∃ inner beyond beyond',
      executeNested anthropicEnvironment inner beyond
          (helperGraph ["upper", "helper"]).nodes.length .agent
          (helperContext ["upper", "helper"]) ≠
        executeNested anthropicEnvironment inner beyond'
          (helperGraph ["upper", "helper"]).nodes.length .agent
          (helperContext ["upper", "helper"]) := by
  have haccepted : validateGraph (helperGraph ["upper", "helper"]) anthropicEnvironment.registry
      [anthropicProfile "my-anthropic" none] none .empty = .ok () := by
    decide +kernel
  refine ⟨haccepted, fun h => ?_, fun _ _ _ => pure {}, fun _ _ => pure {},
    fun _ _ => executeScheduleTrigger, fun h => ?_⟩
  · have hremaining := (sub_node_of_wellFounded_iff (validate_graph_ok_iff.mp haccepted).1).mp h
    exact absurd hremaining (by decide +kernel)
  · -- The clock that the deepest execution reads shows in the events of the agent.
    have hlength := congrArg
      (fun act : Act NodeResult => (Program.play helperAnswers act.run).1.length) h
    exact absurd hlength (by decide +kernel)

end AgentGraphStudio
