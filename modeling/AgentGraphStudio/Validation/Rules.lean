import AgentGraphStudio.Connections.Resolver
import AgentGraphStudio.Registry.Base
import AgentGraphStudio.Schema.Topo

/-!
# Validation rules

`backend/validation/rules.py`. Every rule returns the issues it finds, in the order in which
the source reports them, and an accepted graph is one for which every rule returns no issue.
The lemmas after each rule say what an empty list of issues means for the graph.
-/

namespace AgentGraphStudio

/-- One problem of a graph. -/
structure ValidationIssue where
  rule : String
  nodeId : Option String
  message : String
  deriving DecidableEq, Repr

/-! ## Texts -/

/-- The escape of one character in a quoted string. -/
def reprChar (quote c : Char) : String :=
  if c = quote ∨ c = '\\' then String.ofList ['\\', c]
  else if c = '\n' then "\\n"
  else if c = '\r' then "\\r"
  else if c = '\t' then "\\t"
  else if c.toNat < 32 ∨ c.toNat = 127 then
    String.ofList ['\\', 'x', (c.toNat / 16).digitChar, (c.toNat % 16).digitChar]
  else String.ofList [c]

/-- A string as `repr` shows it: in single quotes, unless it has single quotes only. -/
def reprStr (text : String) : String :=
  let quote := if '\'' ∈ text.toList ∧ '"' ∉ text.toList then '"' else '\''
  String.ofList [quote] ++ String.join (text.toList.map (reprChar quote)) ++ String.ofList [quote]

/-- A list of strings as `repr` shows it. -/
def reprList (texts : List String) : String :=
  "[" ++ ", ".intercalate (texts.map reprStr) ++ "]"

/-- An optional string as `repr` shows it. -/
def reprOption : Option String → String
  | none => "None"
  | some text => reprStr text

variable {Body : Type}

/-! ## Structure -/

/-- The dangling references of one edge. -/
def edgeProblems (nodeIds : List String) (edge : EdgeSpec) : List String :=
  (if edge.fromNode ∉ nodeIds then
    [s!"edge references unknown source node '{edge.fromNode}'"] else []) ++
  (if edge.toNode ∉ nodeIds then
    [s!"edge references unknown destination node '{edge.toNode}'"] else [])

/-- Every edge references existing nodes. The second component lists the data edges that
do. -/
def checkStructural (graph : GraphSpec) : List ValidationIssue × List DataEdge :=
  let nodeIds := graph.nodes.map NodeSpec.id
  (graph.edges.flatMap fun edge =>
      (edgeProblems nodeIds edge).map (ValidationIssue.mk "structural" none),
    graph.edges.filterMap fun edge =>
      if edgeProblems nodeIds edge = [] then edge.data? else none)

theorem edge_problems_eq_nil_iff {nodeIds : List String} {edge : EdgeSpec} :
    edgeProblems nodeIds edge = [] ↔ edge.fromNode ∈ nodeIds ∧ edge.toNode ∈ nodeIds := by
  rw [edgeProblems]
  by_cases hfrom : edge.fromNode ∈ nodeIds <;> by_cases hto : edge.toNode ∈ nodeIds <;>
    simp [hfrom, hto]

/-- A graph without structural issues has no dangling edge. -/
theorem check_structural_eq_nil_iff {graph : GraphSpec} :
    (checkStructural graph).1 = [] ↔ ∀ edge ∈ graph.edges,
      edge.fromNode ∈ graph.nodes.map NodeSpec.id ∧
        edge.toNode ∈ graph.nodes.map NodeSpec.id := by
  simp only [checkStructural, List.flatMap_eq_nil_iff, List.map_eq_nil_iff,
    edge_problems_eq_nil_iff]

/-- Without structural issues every data edge is passed on to the other rules. -/
theorem valid_edges_eq {graph : GraphSpec} (h : (checkStructural graph).1 = []) :
    (checkStructural graph).2 = graph.dataEdges := by
  rw [checkStructural, GraphSpec.dataEdges]
  refine List.filterMap_congr fun edge hedge => ?_
  rw [if_pos (edge_problems_eq_nil_iff.mpr (check_structural_eq_nil_iff.mp h edge hedge))]

/-! ## Registered types -/

/-- Every node's type is registered. The second component lists the nodes whose type is
not. -/
def checkUnregisteredTypes (graph : GraphSpec) (registry : NodeRegistry Body) :
    List ValidationIssue × List String :=
  let unregistered := graph.nodes.filter fun node => (registry.get node.type).isNone
  (unregistered.map fun node =>
      ⟨"unregistered_type", some node.id, s!"node type '{node.type}' is not registered"⟩,
    unregistered.map NodeSpec.id)

/-- A graph without unregistered types finds a definition for every node. -/
theorem check_unregistered_types_eq_nil_iff {graph : GraphSpec} {registry : NodeRegistry Body} :
    (checkUnregisteredTypes graph registry).1 = [] ↔
      ∀ node ∈ graph.nodes, ∃ definition, registry.get node.type = some definition := by
  simp only [checkUnregisteredTypes, List.map_eq_nil_iff, List.filter_eq_nil_iff,
    Option.isNone_iff_eq_none, Option.ne_none_iff_exists']

theorem unregistered_ids_eq_nil {graph : GraphSpec} {registry : NodeRegistry Body}
    (h : (checkUnregisteredTypes graph registry).1 = []) :
    (checkUnregisteredTypes graph registry).2 = [] := by
  simpa [checkUnregisteredTypes] using h

/-! ## Required inputs -/

/-- The nodes that are the source of a sub-node edge. -/
def subNodeReferencedIds (graph : GraphSpec) : List String :=
  graph.subNodeEdges.map SubNodeEdge.fromNode

/-- Every required input slot of a node that is not a sub-node has an incoming edge or a
literal value. -/
def checkRequiredInputs (graph : GraphSpec) (registry : NodeRegistry Body)
    (validEdges : List DataEdge) (unregisteredIds subNodeIds : List String) :
    List ValidationIssue :=
  let covered := validEdges.map fun edge => (edge.toNode, edge.toSlot)
  graph.nodes.flatMap fun node =>
    if node.id ∈ unregisteredIds ∨ node.id ∈ subNodeIds then []
    else
      match (registry.get node.type).bind fun definition => effectiveInputs definition node with
      | none => []
      | some inputs =>
        (inputs.filter fun slot => slot.required ∧ (node.id, slot.name) ∉ covered ∧
          slot.name ∉ node.inputValues.keys).map fun slot =>
            ⟨"missing_required_input", some node.id,
              s!"required input slot '{slot.name}' has no incoming edge"⟩

/-! ## Slot types -/

/-- The output slots of a node. Those of a root that mirrors a sub-node are the slots of the
first sub-node connected to the mirrored slot. -/
def effectiveOutputsForRoot (definition : NodeDefinition Body) (node : NodeSpec)
    (graph : GraphSpec) (registry : NodeRegistry Body) : Option (List OutputSlotSpec) :=
  match definition.resolveSlotsFromSubNode with
  | none => effectiveOutputs definition node
  | some slot =>
    match graph.subNodeEdges.find? fun edge => edge.toNode = node.id ∧ edge.slot = slot with
    | none => some []
    | some subEdge =>
      match graph.node? subEdge.fromNode with
      | none => some []
      | some subNode =>
        match registry.get subNode.type with
        | none => some []
        | some subDefinition => effectiveOutputs subDefinition subNode

/-- The type mismatch of one data edge between registered nodes. -/
def edgeTypeMismatch (graph : GraphSpec) (registry : NodeRegistry Body)
    (edge : DataEdge) (srcNode dstNode : NodeSpec) (srcDef dstDef : NodeDefinition Body) :
    List ValidationIssue :=
  match effectiveOutputsForRoot srcDef srcNode graph registry, effectiveInputs dstDef dstNode with
  | some srcOutputs, some dstInputs =>
    match srcOutputs.find? fun slot => slot.name = edge.fromSlot,
        dstInputs.find? fun slot => slot.name = edge.toSlot with
    | none, _ =>
      [⟨"type_mismatch", some srcNode.id, s!"node has no output slot '{edge.fromSlot}'"⟩]
    | some _, none =>
      [⟨"type_mismatch", some dstNode.id, s!"node has no input slot '{edge.toSlot}'"⟩]
    | some srcSlot, some dstSlot =>
      if srcSlot.type.isCompatibleWith dstSlot.type then []
      else
        [⟨"type_mismatch", some dstNode.id,
          s!"edge {srcNode.id}.{edge.fromSlot} ({srcSlot.type.base.value}) -> " ++
            s!"{dstNode.id}.{edge.toSlot} ({dstSlot.type.base.value}) is a type mismatch"⟩]
  | _, _ => []

/-- Data edges connect existing slots of compatible types. -/
def checkTypeMismatches (graph : GraphSpec) (registry : NodeRegistry Body)
    (validEdges : List DataEdge) (unregisteredIds : List String) : List ValidationIssue :=
  validEdges.flatMap fun edge =>
    match graph.node? edge.fromNode, graph.node? edge.toNode with
    | some srcNode, some dstNode =>
      if srcNode.id ∈ unregisteredIds ∨ dstNode.id ∈ unregisteredIds then []
      else
        match registry.get srcNode.type, registry.get dstNode.type with
        | some srcDef, some dstDef => edgeTypeMismatch graph registry edge srcNode dstNode
            srcDef dstDef
        | _, _ => []
    | _, _ => []

/-! ## Cycles -/

/-- The data edges form no cycle. -/
def checkCycles (graph : GraphSpec) (validEdges : List DataEdge) : List ValidationIssue :=
  let remaining := (kahnOrder (graph.nodes.map NodeSpec.id) validEdges).2
  let sorted := remaining.mergeSort fun a b => decide (a ≤ b)
  if remaining = [] then []
  else [⟨"cycle", none, s!"cycle detected involving node(s): {reprList sorted}"⟩]

theorem check_cycles_eq_nil_iff {graph : GraphSpec} {validEdges : List DataEdge} :
    checkCycles graph validEdges = [] ↔
      (kahnOrder (graph.nodes.map NodeSpec.id) validEdges).2 = [] := by
  rw [checkCycles]
  split <;> simp_all

/-- Dropping the edges that name unknown nodes does not change which nodes are linked. -/
theorem linked_valid_edges (graph : GraphSpec) :
    Linked (graph.nodes.map NodeSpec.id) (checkStructural graph).2 =
      Linked (graph.nodes.map NodeSpec.id) graph.dataEdges := by
  have hvalid : ∀ edge, edge ∈ knownEdges (graph.nodes.map NodeSpec.id) (checkStructural graph).2 ↔
      edge ∈ knownEdges (graph.nodes.map NodeSpec.id) graph.dataEdges := by
    intro edge
    rw [mem_knownEdges, mem_knownEdges, GraphSpec.mem_dataEdges]
    constructor
    · rintro ⟨hedge, hnodes⟩
      obtain ⟨⟨⟩ | ⟨other⟩, hmem, hother⟩ := List.mem_filterMap.mp hedge
      all_goals
        split at hother
        · cases hother <;> exact ⟨hmem, hnodes⟩
        · cases hother
    · rintro ⟨hmem, hnodes⟩
      refine ⟨List.mem_filterMap.mpr ⟨.data edge, hmem, ?_⟩, hnodes⟩
      exact if_pos (edge_problems_eq_nil_iff.mpr hnodes)
  funext source target
  exact propext (exists_congr fun edge => and_congr_left' (hvalid edge))

/-- Kahn's algorithm sorts every list of distinct nodes along any edges, and the rule against cycles
accepts exactly the graphs without a cycle of data edges. -/
theorem kahn_order_correct :
    (∀ nodeIds edges, nodeIds.Nodup → TopologicallySorted nodeIds edges
      (kahnOrder nodeIds edges).1 (kahnOrder nodeIds edges).2) ∧
    ∀ graph : GraphSpec, checkCycles graph (checkStructural graph).2 = [] ↔
      ¬ HasCycle (graph.nodes.map NodeSpec.id) graph.dataEdges := by
  refine ⟨fun nodeIds edges hnodup => kahn_order_sorts hnodup edges, fun graph => ?_⟩
  rw [check_cycles_eq_nil_iff, remaining_eq_nil_iff graph.nodupIds, HasCycle, HasCycle,
    linked_valid_edges]

/-- Parallel edges, a loop and an edge to an unknown node. -/
theorem kahn_order_example :
    TopologicallySorted ["a", "b", "c"]
      [⟨"b", "x", "a", "y"⟩, ⟨"b", "x", "a", "z"⟩, ⟨"c", "x", "c", "y"⟩, ⟨"a", "x", "d", "y"⟩]
      ["b", "a"] ["c"] :=
  kahn_order_correct.1 ["a", "b", "c"] _ (by decide)

/-! ## Connections -/

/-- Every referenced connection resolves for this caller. -/
def checkMissingConnections (graph : GraphSpec) (store : ConnectionStore)
    (userId : Option String) (slotMappings : Dict String String) : List ValidationIssue :=
  graph.nodes.flatMap fun node =>
    ((connectionReferenceNames node.config).filter fun name =>
      (resolveSlotAware store name userId slotMappings).isNone).map fun name =>
        ⟨"missing_connection", some node.id,
          s!"references connection '{name}' which isn't configured on this machine"⟩

/-- Without issues, every referenced connection resolves. -/
theorem check_missing_connections_eq_nil_iff {graph : GraphSpec} {store : ConnectionStore}
    {userId : Option String} {slotMappings : Dict String String} :
    checkMissingConnections graph store userId slotMappings = [] ↔
      ∀ name ∈ referencedConnectionNames graph,
        (resolveSlotAware store name userId slotMappings).isSome := by
  simp only [checkMissingConnections, List.flatMap_eq_nil_iff, List.map_eq_nil_iff,
    List.filter_eq_nil_iff, Option.isNone_iff_eq_none, Option.ne_none_iff_isSome,
    mem_referencedConnectionNames]
  exact ⟨fun h name ⟨node, hnode, hname⟩ => h node hnode name hname,
    fun h node hnode name hname => h name ⟨node, hnode, hname⟩⟩

/-! ## Sub-nodes -/

/-- The issues of one sub-node edge, and whether it counts as a connection of its slot. -/
def checkSubNodeEdge (graph : GraphSpec) (registry : NodeRegistry Body)
    (unregisteredIds : List String) (edge : SubNodeEdge) : List ValidationIssue × Bool :=
  match graph.node? edge.toNode, graph.node? edge.fromNode with
  | some rootNode, some subNode =>
    if edge.toNode ∈ unregisteredIds ∨ edge.fromNode ∈ unregisteredIds then ([], false)
    else
      match registry.get rootNode.type, registry.get subNode.type with
      | some rootDef, some subDef =>
        match rootDef.subNodeSlotsOrEmpty.get? edge.slot with
        | none =>
          ([⟨"unknown_sub_node_slot", some rootNode.id,
            s!"node type '{rootNode.type}' has no sub-node slot '{edge.slot}'"⟩], false)
        | some slotSpec =>
          let accepted := slotSpec.acceptsRole.getD "None"
          if slotSpec.acceptsRole ≠ none ∧ subDef.subNodeRole ≠ slotSpec.acceptsRole then
            ([⟨"incompatible_sub_node_type", some rootNode.id,
              s!"slot '{edge.slot}' requires a node with role '{accepted}', but " ++
                s!"'{subNode.id}' (type '{subNode.type}') has role " ++
                reprOption subDef.subNodeRole⟩], false)
          else
            (if subNode.id ∈ graph.dataEdges.map DataEdge.toNode then
              [⟨"sub_node_has_conflicting_edges", some rootNode.id,
                s!"sub-node '{subNode.id}' has normal incoming data edges -- a sub-node's " ++
                  "inputs must come only from its root's direct invocation, not edges"⟩]
            else [], true)
      | _, _ => ([], false)
  | _, _ => ([], false)

/-- The sub-nodes that count for a slot of a root. -/
def connectedSubNodes (graph : GraphSpec) (registry : NodeRegistry Body)
    (unregisteredIds : List String) (root slot : String) : List String :=
  (graph.subNodeEdges.filter fun edge => edge.toNode = root ∧ edge.slot = slot ∧
    (checkSubNodeEdge graph registry unregisteredIds edge).2).map SubNodeEdge.fromNode

/-- Does this number of sub-nodes break the slot's cardinality, and how? -/
def cardinalityIssue (nodeId slotName : String) (count : Nat) :
    Cardinality → List ValidationIssue
  | .one =>
    if count ≠ 1 then
      [⟨"sub_node_cardinality", some nodeId,
        s!"slot '{slotName}' requires exactly one connected sub-node, found {count}"⟩]
    else []
  | .zeroOrOne =>
    if 1 < count then
      [⟨"sub_node_cardinality", some nodeId,
        s!"slot '{slotName}' accepts at most one connected sub-node, found {count}"⟩]
    else []
  | .many => []

/-- Every sub-node edge fits a declared slot of its root, and every slot has as many
sub-nodes as it takes. -/
def checkSubNodeEdges (graph : GraphSpec) (registry : NodeRegistry Body)
    (unregisteredIds : List String) : List ValidationIssue :=
  (graph.subNodeEdges.flatMap fun edge =>
    (checkSubNodeEdge graph registry unregisteredIds edge).1) ++
  graph.nodes.flatMap fun node =>
    if node.id ∈ unregisteredIds then []
    else
      match registry.get node.type with
      | none => []
      | some definition =>
        definition.subNodeSlotsOrEmpty.entries.flatMap fun entry =>
          cardinalityIssue node.id entry.1
            (connectedSubNodes graph registry unregisteredIds node.id entry.1).length
            entry.2.cardinality

/-! ## Configurations -/

/-- Every node's configuration validates against its type's model. -/
def checkConfigSchema (graph : GraphSpec) (registry : NodeRegistry Body)
    (unregisteredIds : List String) : List ValidationIssue :=
  graph.nodes.flatMap fun node =>
    if node.id ∈ unregisteredIds then []
    else
      match registry.get node.type with
      | none => []
      | some definition =>
        match definition.configModel node.config with
        | .ok () => []
        | .error message => [⟨"invalid_config", some node.id, message⟩]

/-- Without issues, every registered node has a valid configuration. -/
theorem check_config_schema_eq_nil_iff {graph : GraphSpec} {registry : NodeRegistry Body} :
    checkConfigSchema graph registry [] = [] ↔ ∀ node ∈ graph.nodes, ∀ definition,
      registry.get node.type = some definition → definition.configModel node.config = .ok () := by
  rw [checkConfigSchema, List.flatMap_eq_nil_iff]
  refine forall₂_congr fun node _ => ?_
  rw [if_neg List.not_mem_nil]
  cases registry.get node.type with
  | none => simp
  | some definition => cases hmodel : definition.configModel node.config <;> simp [hmodel]

end AgentGraphStudio
