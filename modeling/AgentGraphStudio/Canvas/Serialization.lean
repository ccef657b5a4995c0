import AgentGraphStudio.Canvas.NodeIds

/-!
# Serialising the canvas

`frontend/src/graph/serialize.ts` with the optional fields of its format: an edge may leave its kind
out, and an endpoint its slot. A field that is `null` is read like one that is absent.
`serialise_round_trip` says that a graph that is shown and sent again is the same graph, and
`parse_serialised` that the backend reads an edge that the canvas sends as the edge that was drawn.
-/

namespace AgentGraphStudio

/-- The kinds of edges. -/
inductive EdgeKind where
  | data | subNode
  deriving DecidableEq, Repr

/-- The value of the `kind` field. -/
def EdgeKind.value : EdgeKind → String
  | .data => "data"
  | .subNode => "sub_node"

/-- An end of an edge in a file. -/
structure EdgeEndpoint where
  node : String
  slot : Option String := none
  deriving DecidableEq

/-- An edge in a file. -/
structure GraphEdgeSpec where
  kind : Option EdgeKind := none
  fromEnd : EdgeEndpoint
  toEnd : EdgeEndpoint
  slot : Option String := none
  deriving DecidableEq

/-- A node in a file. -/
structure GraphNodeSpec where
  id : String
  type : String
  config : Config
  inputValues : Option Config := none

/-- A graph in a file. -/
structure GraphSpecFile where
  version : String
  nodes : List GraphNodeSpec
  edges : List GraphEdgeSpec

/-! ## Between files and the canvas -/

/-- A node of the canvas in a file. -/
def GenericFlowNode.toFile (node : GenericFlowNode) : GraphNodeSpec where
  id := node.id
  type := node.nodeType
  config := node.config
  inputValues := some node.inputValues

/-- An edge of the canvas in a file. -/
def FlowEdge.toFile (edge : FlowEdge) : GraphEdgeSpec :=
  if edge.sourceHandle = some subNodeHandleId then
    { kind := some .subNode
      slot := some (edge.targetHandle.getD "")
      fromEnd := { node := edge.source }
      toEnd := { node := edge.target } }
  else
    { fromEnd := { node := edge.source, slot := some (edge.sourceHandle.getD "") }
      toEnd := { node := edge.target, slot := some (edge.targetHandle.getD "") } }

/-- A node of a file on the canvas. -/
def GraphNodeSpec.toFlow (node : GraphNodeSpec) : GenericFlowNode where
  id := node.id
  nodeType := node.type
  config := node.config
  inputValues := node.inputValues.getD .empty

/-- An edge of a file on the canvas. -/
def GraphEdgeSpec.toFlow (edge : GraphEdgeSpec) : FlowEdge :=
  if edge.kind = some .subNode then
    { source := edge.fromEnd.node
      sourceHandle := some subNodeHandleId
      target := edge.toEnd.node
      targetHandle := edge.slot }
  else
    { source := edge.fromEnd.node
      sourceHandle := edge.fromEnd.slot
      target := edge.toEnd.node
      targetHandle := edge.toEnd.slot }

namespace Serialize

/-- The file of a canvas. -/
def nodesAndEdgesToGraphSpec (nodes : List GenericFlowNode) (edges : List FlowEdge) :
    GraphSpecFile :=
  ⟨"0.1", nodes.map GenericFlowNode.toFile, edges.map FlowEdge.toFile⟩

/-- The canvas of a file. A node of an unknown type ends the attempt. -/
def graphSpecToNodesAndEdges (graph : GraphSpecFile) (nodeTypesByName : List String) :
    Except String (List GenericFlowNode × List FlowEdge) := do
  let nodes ← graph.nodes.mapM fun node =>
    if node.type ∈ nodeTypesByName then .ok node.toFlow
    else .error s!"Unknown node type in loaded graph: '{node.type}'"
  pure (nodes, graph.edges.map GraphEdgeSpec.toFlow)

end Serialize

/-! ## What the backend reads -/

/-- The rule of the backend on which fields an edge of each kind has. -/
def GraphEdgeSpec.ShapeMatchesKind (edge : GraphEdgeSpec) : Prop :=
  match edge.kind.getD .data with
  | .data => edge.fromEnd.slot.isSome ∧ edge.toEnd.slot.isSome ∧ edge.slot = none
  | .subNode => edge.slot.isSome ∧ edge.fromEnd.slot = none ∧ edge.toEnd.slot = none

instance (edge : GraphEdgeSpec) : Decidable edge.ShapeMatchesKind := by
  unfold GraphEdgeSpec.ShapeMatchesKind
  cases edge.kind.getD .data <;> exact inferInstanceAs (Decidable (_ ∧ _))

/-- An end of an edge as JSON. -/
def EdgeEndpoint.toJson (endpoint : EdgeEndpoint) : Json :=
  .obj (("node", .str endpoint.node) ::
    endpoint.slot.toList.map fun slot => ("slot", .str slot))

/-- An edge as JSON. -/
def GraphEdgeSpec.toJson (edge : GraphEdgeSpec) : Json :=
  .obj ((edge.kind.toList.map fun kind => ("kind", .str kind.value)) ++
    (edge.slot.toList.map fun slot => ("slot", .str slot)) ++
    [("from", edge.fromEnd.toJson), ("to", edge.toEnd.toJson)])

/-- A node with its default, as the backend reads it. -/
def GraphNodeSpec.read (node : GraphNodeSpec) : NodeSpec where
  id := node.id
  type := node.type
  config := node.config
  inputValues := node.inputValues.getD .empty

/-- An edge with its default. -/
def GraphEdgeSpec.read (edge : GraphEdgeSpec) : GraphEdgeSpec :=
  { edge with kind := some (edge.kind.getD .data) }

/-! ## The round trip -/

/-- A node that is shown and sent again is the same node. -/
theorem read_node_round_trip (node : GraphNodeSpec) : node.toFlow.toFile.read = node.read := rfl

/-- An edge of a matching shape that is shown and sent again is the same edge, if it does not start
in the slot that stands for sub-nodes. -/
theorem read_edge_round_trip {edge : GraphEdgeSpec} (hshape : edge.ShapeMatchesKind)
    (hslot : edge.fromEnd.slot ≠ some subNodeHandleId) :
    edge.toFlow.toFile.read = edge.read := by
  obtain ⟨kind, ⟨fromNode, fromSlot⟩, ⟨toNode, toSlot⟩, slot⟩ := edge
  rcases kind with _ | _ | _
  · obtain ⟨hfrom, hto, rfl⟩ := hshape
    obtain ⟨fromSlot, rfl⟩ := Option.isSome_iff_exists.mp hfrom
    obtain ⟨toSlot, rfl⟩ := Option.isSome_iff_exists.mp hto
    show (FlowEdge.toFile ⟨fromNode, some fromSlot, toNode, some toSlot⟩).read = _
    rw [FlowEdge.toFile, if_neg hslot]
    rfl
  · obtain ⟨hfrom, hto, rfl⟩ := hshape
    obtain ⟨fromSlot, rfl⟩ := Option.isSome_iff_exists.mp hfrom
    obtain ⟨toSlot, rfl⟩ := Option.isSome_iff_exists.mp hto
    show (FlowEdge.toFile ⟨fromNode, some fromSlot, toNode, some toSlot⟩).read = _
    rw [FlowEdge.toFile, if_neg hslot]
    rfl
  · obtain ⟨hslot, rfl, rfl⟩ := hshape
    obtain ⟨slot, rfl⟩ := Option.isSome_iff_exists.mp hslot
    rfl

/-- Every edge that the canvas sends has the shape of its kind. -/
theorem to_file_shape (edge : FlowEdge) : edge.toFile.ShapeMatchesKind := by
  unfold FlowEdge.toFile
  split
  · exact ⟨rfl, rfl, rfl⟩
  · exact ⟨rfl, rfl, rfl⟩

/-- The backend reads an edge that the canvas sends as the edge that was drawn. -/
theorem parse_serialised (edge : FlowEdge) :
    EdgeSpec.parse edge.toFile.toJson = .ok edge.toSpec := by
  unfold FlowEdge.toFile FlowEdge.toSpec
  split
  · rfl
  · rfl

/-- The types of all nodes are known exactly if the nodes are shown. -/
theorem shown_of_known {graph : GraphSpecFile} {nodeTypesByName : List String}
    (htypes : ∀ node ∈ graph.nodes, node.type ∈ nodeTypesByName) :
    Serialize.graphSpecToNodesAndEdges graph nodeTypesByName =
      .ok (graph.nodes.map GraphNodeSpec.toFlow, graph.edges.map GraphEdgeSpec.toFlow) := by
  have hnodes : ∀ nodes : List GraphNodeSpec, (∀ node ∈ nodes, node.type ∈ nodeTypesByName) →
      (nodes.mapM fun node =>
        if node.type ∈ nodeTypesByName then Except.ok node.toFlow
        else .error s!"Unknown node type in loaded graph: '{node.type}'") =
        .ok (nodes.map GraphNodeSpec.toFlow) := by
    intro nodes hknown
    induction nodes with
    | nil => rfl
    | cons node nodes ih =>
        rw [List.forall_mem_cons] at hknown
        rw [List.mapM_cons, if_pos hknown.1, ih hknown.2]
        rfl
  rw [Serialize.graphSpecToNodesAndEdges, hnodes graph.nodes htypes]
  rfl

/-- A graph of known types without the reserved slot that is shown on the canvas and sent again has
the same nodes and the same edges in the same order, and every edge that is sent has the shape that
the backend demands. -/
theorem serialise_round_trip {graph : GraphSpecFile} {nodeTypesByName : List String}
    (hshape : ∀ edge ∈ graph.edges, edge.ShapeMatchesKind)
    (htypes : ∀ node ∈ graph.nodes, node.type ∈ nodeTypesByName)
    (hslots : ∀ edge ∈ graph.edges, some subNodeHandleId ∉
      [edge.fromEnd.slot, edge.toEnd.slot, edge.slot]) :
    ∃ nodes edges, Serialize.graphSpecToNodesAndEdges graph nodeTypesByName = .ok (nodes, edges) ∧
      let sent := Serialize.nodesAndEdgesToGraphSpec nodes edges
      sent.nodes.map GraphNodeSpec.read = graph.nodes.map GraphNodeSpec.read ∧
      sent.edges.map GraphEdgeSpec.read = graph.edges.map GraphEdgeSpec.read ∧
      ∀ edge ∈ sent.edges, edge.ShapeMatchesKind ∧
      ∃ spec, EdgeSpec.parse edge.toJson = .ok spec := by
  refine ⟨_, _, shown_of_known htypes, ?_, ?_, ?_⟩
  · show ((graph.nodes.map GraphNodeSpec.toFlow).map GenericFlowNode.toFile).map
      GraphNodeSpec.read = _
    rw [List.map_map, List.map_map]
    exact List.map_congr_left fun node _ => read_node_round_trip node
  · show ((graph.edges.map GraphEdgeSpec.toFlow).map FlowEdge.toFile).map GraphEdgeSpec.read = _
    rw [List.map_map, List.map_map]
    refine List.map_congr_left fun edge hedge => ?_
    refine read_edge_round_trip (hshape edge hedge) fun hfrom => hslots edge hedge ?_
    rw [hfrom]
    exact List.mem_cons_self
  · intro spec hspec
    obtain ⟨edge, _, rfl⟩ := List.mem_map.mp hspec
    exact ⟨to_file_shape edge, _, parse_serialised edge⟩

/-- A file with one edge of each kind, one of them without its kind. -/
def twoKindsFile : GraphSpecFile where
  version := "1.0"
  nodes := [
    { id := "agent", type := "agent", config := .ofList [("max_iterations", .int 3)]
      inputValues := some (.ofList [("task", .str "say hello")]) },
    { id := "model", type := "model", config := .empty },
    { id := "out", type := "text_output", config := .empty }]
  edges := [
    { kind := some .subNode, slot := some "model", fromEnd := ⟨"model", none⟩
      toEnd := ⟨"agent", none⟩ },
    { fromEnd := ⟨"agent", some "answer"⟩, toEnd := ⟨"out", some "text"⟩ }]

/-- The round trip of the file. -/
theorem two_kinds_round_trip : ∃ nodes edges,
    Serialize.graphSpecToNodesAndEdges twoKindsFile ["agent", "model", "text_output"] =
      .ok (nodes, edges) ∧
    (Serialize.nodesAndEdgesToGraphSpec nodes edges).edges.map GraphEdgeSpec.read =
      twoKindsFile.edges.map GraphEdgeSpec.read := by
  obtain ⟨nodes, edges, hshown, _, hedges, _⟩ :=
    @serialise_round_trip twoKindsFile ["agent", "model", "text_output"] (by decide) (by decide)
      (by decide)
  exact ⟨nodes, edges, hshown, hedges⟩

end AgentGraphStudio
