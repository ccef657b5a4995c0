import AgentGraphStudio.Canvas.NodeIds
import AgentGraphStudio.Validation.Rules

/-!
# Editing groups on the canvas

A tool that is contained in a group is not drawn (`visibleNodes` of
`frontend/src/canvas/Canvas.tsx`), and neither are its edges. React Flow is given what is drawn
only: when a node is deleted, it removes the edges of the node that it knows. The edge of a
contained tool to its group is none of these. `edges_connected_iff` says for which sequences of
edits every edge on the canvas keeps both of its ends.
-/

namespace AgentGraphStudio

/-- A node on the canvas with its ports and what makes it a root or a sub-node. -/
structure CanvasNode extends GenericFlowNode where
  inputs : List InputSlotSpec := []
  outputs : List OutputSlotSpec := []
  subNodeSlots : Dict String SubNodeSlotSpec := .empty
  subNodeRole : Option String := none

/-- A node type as the palette knows it. -/
structure NodeTypeInfo where
  type : String
  dynamicSchema : Bool := false
  inputs : List InputSlotSpec := []
  outputs : List OutputSlotSpec := []
  subNodeSlots : Dict String SubNodeSlotSpec := .empty
  subNodeRole : Option String := none
  resolveSlotsFromSubNode : Option String := none

/-- A hybrid node is a root and a sub-node at the same time. -/
def isHybridNode (node : CanvasNode) : Bool :=
  (match node.subNodeRole with
    | none | some "" => false
    | some _ => true) && ! node.subNodeSlots.keys.isEmpty

/-- The first slot of a group that takes a node of this role. -/
def slotFor (group : CanvasNode) (role : Option String) : Option String :=
  (group.subNodeSlots.entries.find? fun entry =>
    entry.2.acceptsRole = none ∨ entry.2.acceptsRole = role).map Prod.fst

/-- The keys that the operator `in` finds in every object. -/
def objectKeys : List String :=
  ["constructor", "__defineGetter__", "__defineSetter__", "hasOwnProperty", "__lookupGetter__",
    "__lookupSetter__", "isPrototypeOf", "propertyIsEnumerable", "toString", "valueOf",
    "__proto__", "toLocaleString"]

/-- The edge starts or ends in one of these nodes. -/
def FlowEdge.touches (edge : FlowEdge) (ids : List String) : Bool :=
  edge.source ∈ ids || edge.target ∈ ids

/-- The canvas with its groups. -/
structure GroupCanvas where
  idCounter : Nat
  nodes : List CanvasNode
  edges : List FlowEdge

/-- The page before anything is on it. -/
def GroupCanvas.empty : GroupCanvas := ⟨0, [], []⟩

/-- An edit. Where a node is dropped, `inBounds` tells whose card lies there. -/
inductive CanvasEdit where
  | add (nodeType : NodeTypeInfo) (inBounds : CanvasNode → Bool)
  | dragStop (id : String) (inBounds : CanvasNode → Bool)
  | connect (connection : FlowEdge) (nodeTypesByName : List NodeTypeInfo)
  | removeFromGroup (id : String)
  | deleteNodes (ids : List String)

namespace GroupCanvas

/-- The ids of the nodes. -/
def ids (canvas : GroupCanvas) : List String := canvas.nodes.map fun node => node.id

/-- The node with an id. -/
def find? (canvas : GroupCanvas) (id : String) : Option CanvasNode :=
  canvas.nodes.find? fun node => node.id = id

/-! ## What is drawn -/

/-- The nodes that are contained in a group (the keys of `containedBy`). -/
def containedIds (canvas : GroupCanvas) : List String :=
  canvas.edges.filterMap fun edge =>
    if edge.sourceHandle = some subNodeHandleId ∧ (canvas.find? edge.target).any isHybridNode
    then some edge.source else none

/-- Is the id taken for that of a contained node? -/
def hides (canvas : GroupCanvas) (id : String) : Bool :=
  id ∈ objectKeys || id ∈ canvas.containedIds

/-- The nodes that are drawn. -/
def visibleNodes (canvas : GroupCanvas) : List CanvasNode :=
  canvas.nodes.filter fun node => ! canvas.hides node.id

/-- The edges that are drawn. -/
def visibleEdges (canvas : GroupCanvas) : List FlowEdge :=
  canvas.edges.filter fun edge => ! canvas.hides edge.source && ! canvas.hides edge.target

/-! ## Edits -/

/-- The edges with one more, from a node to the slot of a group that takes it. -/
def contain (edges : List FlowEdge) (id : String) (role : Option String)
    (targetGroup : Option CanvasNode) : List FlowEdge :=
  match targetGroup with
  | none => edges
  | some targetGroup =>
    match slotFor targetGroup role with
    | none | some "" => edges
    | some slotName => addEdge ⟨id, some subNodeHandleId, targetGroup.id, some slotName⟩ edges

/-- Add a node (`addNodeAtPosition`). Dropped onto a group, it is contained in it. -/
def addNodeAtPosition (canvas : GroupCanvas) (nodeType : NodeTypeInfo)
    (inBounds : CanvasNode → Bool) : GroupCanvas :=
  let idCounter := min (canvas.idCounter + 1) counterEnd
  let id := s!"{nodeType.type}_{idCounter}"
  let newNode : CanvasNode :=
    { id
      nodeType := nodeType.type
      inputs := if nodeType.dynamicSchema then [] else nodeType.inputs
      outputs := if nodeType.dynamicSchema then [] else nodeType.outputs
      subNodeSlots := nodeType.subNodeSlots
      subNodeRole := nodeType.subNodeRole }
  let targetGroup := canvas.nodes.find? fun node => isHybridNode node && inBounds node
  { idCounter
    nodes := canvas.nodes ++ [newNode]
    edges := contain canvas.edges id nodeType.subNodeRole targetGroup }

/-- Drop a node that is drawn (`onNodeDragStop`). -/
def onNodeDragStop (canvas : GroupCanvas) (id : String) (inBounds : CanvasNode → Bool) :
    GroupCanvas :=
  match canvas.visibleNodes.find? fun node => node.id = id with
  | none => canvas
  | some draggedNode =>
    if isHybridNode draggedNode then canvas
    else if canvas.edges.any fun edge =>
        edge.source = draggedNode.id && edge.sourceHandle = some subNodeHandleId then canvas
    else
      let targetGroup := canvas.nodes.find? fun node =>
        decide (node.id ≠ draggedNode.id) && isHybridNode node && inBounds node
      { canvas with
        edges := contain canvas.edges draggedNode.id draggedNode.subNodeRole targetGroup }

/-- May these ports be connected? -/
def isValidConnection (canvas : GroupCanvas) (connection : FlowEdge) : Bool :=
  match canvas.find? connection.source, canvas.find? connection.target with
  | some sourceNode, some targetNode =>
    if connection.sourceHandle = some subNodeHandleId then
      match targetNode.subNodeSlots.get? (connection.targetHandle.getD "") with
      | none => false
      | some slot =>
        if slot.acceptsRole ≠ none ∧ sourceNode.subNodeRole ≠ slot.acceptsRole then false
        else if slot.cardinality ≠ .many then
          ! canvas.edges.any fun edge => edge.target = connection.target &&
            edge.targetHandle = connection.targetHandle && edge.sourceHandle = some subNodeHandleId
        else true
    else if canvas.edges.any fun edge => edge.target = connection.target &&
        edge.targetHandle = connection.targetHandle then false
    else
      match sourceNode.outputs.find? fun slot => some slot.name = connection.sourceHandle,
        targetNode.inputs.find? fun slot => some slot.name = connection.targetHandle with
      | some outputSlot, some inputSlot => outputSlot.type = inputSlot.type
      | _, _ => false
  | _, _ => false

/-- The nodes after a connection. A root whose outputs mirror the slot gets those of the
sub-node. -/
def mirrorOutputs (canvas : GroupCanvas) (connection : FlowEdge)
    (nodeTypesByName : List NodeTypeInfo) : List CanvasNode :=
  match canvas.find? connection.source, canvas.find? connection.target with
  | some sourceNode, some targetNode =>
    let typeInfo := nodeTypesByName.find? fun info => info.type = targetNode.nodeType
    if connection.sourceHandle = some subNodeHandleId ∧
        typeInfo.map NodeTypeInfo.resolveSlotsFromSubNode = some connection.targetHandle then
      canvas.nodes.map fun node =>
        if node.id = targetNode.id then { node with outputs := sourceNode.outputs } else node
    else canvas.nodes
  | _, _ => canvas.nodes

/-- Connect two ports. React Flow asks `isValidConnection` first. -/
def onConnect (canvas : GroupCanvas) (connection : FlowEdge)
    (nodeTypesByName : List NodeTypeInfo) : GroupCanvas :=
  if canvas.isValidConnection connection then
    { canvas with
      nodes := canvas.mirrorOutputs connection nodeTypesByName
      edges := addEdge connection canvas.edges }
  else canvas

/-- Take a tool out of its group. -/
def removeFromGroup (canvas : GroupCanvas) (nodeId : String) : GroupCanvas :=
  { canvas with
    edges := canvas.edges.filter fun edge =>
      ! (edge.source = nodeId && edge.sourceHandle = some subNodeHandleId) }

/-- The nodes that React Flow deletes when these are selected. -/
def deletedIds (canvas : GroupCanvas) (ids : List String) : List String :=
  (canvas.visibleNodes.map fun node => node.id).filter fun id => id ∈ ids

/-- Delete nodes that are drawn, with the edges that are drawn and touch them. -/
def deleteNodes (canvas : GroupCanvas) (ids : List String) : GroupCanvas :=
  let deleted := canvas.deletedIds ids
  { canvas with
    nodes := canvas.nodes.filter fun node => node.id ∉ deleted
    edges := canvas.edges.filter fun edge =>
      ! (decide (edge ∈ canvas.visibleEdges) && edge.touches deleted) }

/-- The canvas after an edit. -/
def edit (action : CanvasEdit) (canvas : GroupCanvas) : GroupCanvas :=
  match action with
  | .add nodeType inBounds => canvas.addNodeAtPosition nodeType inBounds
  | .dragStop id inBounds => canvas.onNodeDragStop id inBounds
  | .connect connection nodeTypesByName => canvas.onConnect connection nodeTypesByName
  | .removeFromGroup id => canvas.removeFromGroup id
  | .deleteNodes ids => canvas.deleteNodes ids

/-- The graph that is sent. -/
def toGraphSpec (canvas : GroupCanvas) : GraphFile :=
  nodesAndEdgesToGraphSpec (canvas.nodes.map CanvasNode.toGenericFlowNode) canvas.edges

/-- Every edge on the canvas has both of its ends there. -/
def EndsPresent (canvas : GroupCanvas) : Prop :=
  ∀ edge ∈ canvas.edges, edge.source ∈ canvas.ids ∧ edge.target ∈ canvas.ids

/-- Every edge has both of its ends on the canvas, so that no graph that is sent fails the
structural rule. -/
structure EdgesConnected (canvas : GroupCanvas) : Prop where
  onCanvas : canvas.EndsPresent
  serialised : ∀ graph : GraphSpec, graph.toFile = canvas.toGraphSpec →
    (checkStructural graph).1 = []

/-- Where nodes are deleted, every edge of them is drawn. -/
def DrawsDeleted (canvas : GroupCanvas) : CanvasEdit → Prop
  | .deleteNodes ids => ∀ edge ∈ canvas.edges,
    edge.touches (canvas.deletedIds ids) = true → edge ∈ canvas.visibleEdges
  | _ => True

variable {canvas : GroupCanvas}

/-- The ends of an edge do not change when it is sent. -/
theorem to_spec_ends (edge : FlowEdge) :
    edge.toSpec.fromNode = edge.source ∧ edge.toSpec.toNode = edge.target := by
  unfold FlowEdge.toSpec
  split
  · exact ⟨rfl, rfl⟩
  · exact ⟨rfl, rfl⟩

/-- The graph that is sent is as connected as the canvas. -/
theorem edges_connected_iff_ends : canvas.EdgesConnected ↔ canvas.EndsPresent := by
  refine ⟨EdgesConnected.onCanvas, fun h => ⟨h, fun graph hgraph => ?_⟩⟩
  have hids : graph.nodes.map NodeSpec.id = canvas.ids := by
    have hnodes : graph.nodes = canvas.toGraphSpec.nodes := congrArg GraphFile.nodes hgraph
    rw [hnodes]
    show ((canvas.nodes.map CanvasNode.toGenericFlowNode).map GenericFlowNode.toSpec).map
      NodeSpec.id = canvas.ids
    rw [List.map_map, List.map_map]
    rfl
  have hedges : graph.edges = canvas.edges.map FlowEdge.toSpec :=
    congrArg GraphFile.edges hgraph
  rw [check_structural_eq_nil_iff, hids, hedges]
  intro spec hspec
  obtain ⟨edge, hedge, rfl⟩ := List.mem_map.mp hspec
  rw [(to_spec_ends edge).1, (to_spec_ends edge).2]
  exact h edge hedge

/-! ## What each edit does to the ends -/

theorem mem_addEdge {edge other : FlowEdge} {edges : List FlowEdge}
    (h : other ∈ addEdge edge edges) : other = edge ∨ other ∈ edges := by
  unfold addEdge at h
  split at h
  · exact Or.inr h
  · rcases List.mem_append.mp h with hold | hnew
    · exact Or.inr hold
    · exact Or.inl (List.mem_singleton.mp hnew)

theorem mem_ids_of_find {id : String} {node : CanvasNode} (h : canvas.find? id = some node) :
    id ∈ canvas.ids := by
  have hid : node.id = id := by simpa using List.find?_some h
  exact hid ▸ List.mem_map_of_mem (List.mem_of_find?_eq_some h)

/-- Containing a node adds at most an edge from it to a group. -/
theorem mem_contain {edges : List FlowEdge} {id : String} {role : Option String}
    {targetGroup : Option CanvasNode} {edge : FlowEdge}
    (h : edge ∈ contain edges id role targetGroup) :
    edge ∈ edges ∨ edge.source = id ∧ ∃ group, targetGroup = some group ∧
    edge.target = group.id := by
  unfold contain at h
  cases targetGroup with
  | none => exact Or.inl h
  | some group =>
      dsimp only at h
      split at h
      · exact Or.inl h
      · exact Or.inl h
      · rcases mem_addEdge h with rfl | hold
        · exact Or.inr ⟨rfl, group, rfl, rfl⟩
        · exact Or.inl hold

/-- Containing a node of the canvas in a group of the canvas keeps the edges connected. -/
theorem contain_connected {nodes : List CanvasNode}
    (h : canvas.EndsPresent)
    (hnodes : canvas.nodes ⊆ nodes) {id : String} (hid : id ∈ nodes.map fun node => node.id)
    {role : Option String} {accepts : CanvasNode → Bool} :
    ∀ edge ∈ contain canvas.edges id role (canvas.nodes.find? accepts),
      (edge.source ∈ nodes.map fun node => node.id) ∧
        edge.target ∈ nodes.map fun node => node.id := by
  intro edge hedge
  rcases mem_contain hedge with hold | ⟨hsource, group, hgroup, htarget⟩
  · obtain ⟨hsource, htarget⟩ := h edge hold
    exact ⟨List.map_subset _ hnodes hsource, List.map_subset _ hnodes htarget⟩
  · rw [hsource, htarget]
    exact ⟨hid, List.mem_map_of_mem (hnodes (List.mem_of_find?_eq_some hgroup))⟩

/-- A connection that is allowed has its ends on the canvas. -/
theorem ends_of_valid {connection : FlowEdge} (h : canvas.isValidConnection connection = true) :
    connection.source ∈ canvas.ids ∧ connection.target ∈ canvas.ids := by
  unfold isValidConnection at h
  cases hsource : canvas.find? connection.source with
  | none => simp [hsource] at h
  | some sourceNode =>
      cases htarget : canvas.find? connection.target with
      | none => simp [hsource, htarget] at h
      | some targetNode => exact ⟨mem_ids_of_find hsource, mem_ids_of_find htarget⟩

/-- Mirroring outputs changes no id. -/
theorem mirror_outputs_ids (connection : FlowEdge) (nodeTypesByName : List NodeTypeInfo) :
    ((canvas.mirrorOutputs connection nodeTypesByName).map fun node => node.id) = canvas.ids := by
  unfold mirrorOutputs
  split
  · dsimp only
    split
    · rw [List.map_map]
      refine List.map_congr_left fun node _ => ?_
      show (if _ then _ else _ : CanvasNode).id = node.id
      split
      · rfl
      · rfl
    · rfl
  · rfl

theorem add_node_ends (h : canvas.EndsPresent) (nodeType : NodeTypeInfo)
    (inBounds : CanvasNode → Bool) : (canvas.addNodeAtPosition nodeType inBounds).EndsPresent := by
  refine contain_connected h (List.subset_append_left _ _) ?_
  rw [List.map_append]
  exact List.mem_append_right _ List.mem_cons_self

theorem drag_stop_ends (h : canvas.EndsPresent) (id : String) (inBounds : CanvasNode → Bool) :
    (canvas.onNodeDragStop id inBounds).EndsPresent := by
  unfold onNodeDragStop
  split
  · exact h
  · rename_i draggedNode hfound
    split
    · exact h
    · split
      · exact h
      · have hnode : draggedNode ∈ canvas.nodes :=
          List.mem_of_mem_filter (List.mem_of_find?_eq_some hfound)
        exact contain_connected h (List.Subset.refl _) (List.mem_map_of_mem hnode)

theorem on_connect_ends (h : canvas.EndsPresent) (connection : FlowEdge)
    (nodeTypesByName : List NodeTypeInfo) :
    (canvas.onConnect connection nodeTypesByName).EndsPresent := by
  unfold onConnect
  split
  · rename_i hvalid
    intro edge hedge
    have hids := @mirror_outputs_ids canvas connection nodeTypesByName
    show (_ ∈ List.map _ _) ∧ _ ∈ List.map _ _
    rw [hids]
    rcases mem_addEdge hedge with rfl | hold
    · exact ends_of_valid hvalid
    · exact h edge hold
  · exact h

/-- Deleting nodes leaves an edge without an end exactly if one of their edges is not drawn. -/
theorem delete_nodes_ends_iff (ids : List String) (h : canvas.EndsPresent) :
    (canvas.deleteNodes ids).EndsPresent ↔ ∀ edge ∈ canvas.edges,
      edge.touches (canvas.deletedIds ids) = true → edge ∈ canvas.visibleEdges := by
  -- What is left of the nodes and of the edges.
  have hids : ∀ id, id ∈ (canvas.deleteNodes ids).ids ↔
      id ∈ canvas.ids ∧ id ∉ canvas.deletedIds ids := by
    intro id
    simp only [deleteNodes, GroupCanvas.ids, List.mem_map, List.mem_filter, decide_eq_true_eq]
    constructor
    · rintro ⟨node, ⟨hnode, hkept⟩, rfl⟩
      exact ⟨⟨node, hnode, rfl⟩, hkept⟩
    · rintro ⟨⟨node, hnode, rfl⟩, hkept⟩
      exact ⟨node, ⟨hnode, hkept⟩, rfl⟩
  have hedges : ∀ edge, edge ∈ (canvas.deleteNodes ids).edges ↔ edge ∈ canvas.edges ∧
      ¬ (edge ∈ canvas.visibleEdges ∧ edge.touches (canvas.deletedIds ids) = true) := by
    intro edge
    simp only [deleteNodes, List.mem_filter, Bool.not_eq_true', ← Bool.not_eq_true,
      Bool.and_eq_true, decide_eq_true_eq]
  have htouches : ∀ edge : FlowEdge, edge.touches (canvas.deletedIds ids) = true ↔
      edge.source ∈ canvas.deletedIds ids ∨ edge.target ∈ canvas.deletedIds ids := by
    intro edge
    simp [FlowEdge.touches]
  constructor
  · intro hconnected edge hedge htouched
    by_contra hhidden
    have hkept := hconnected edge ((hedges edge).mpr ⟨hedge, fun hdrawn => hhidden hdrawn.1⟩)
    rw [hids, hids] at hkept
    exact ((htouches edge).mp htouched).elim hkept.1.2 hkept.2.2
  · intro hdrawn edge hkept
    obtain ⟨hedge, hnot⟩ := (hedges edge).mp hkept
    have huntouched : ¬ edge.touches (canvas.deletedIds ids) = true :=
      fun htouched => hnot ⟨hdrawn edge hedge htouched, htouched⟩
    rw [htouches, not_or] at huntouched
    rw [hids, hids]
    exact ⟨⟨(h edge hedge).1, huntouched.1⟩, (h edge hedge).2, huntouched.2⟩

/-- An edit keeps the edges connected exactly if it draws what it deletes. -/
theorem edit_connected_iff (canvas : GroupCanvas) (action : CanvasEdit)
    (hcanvas : canvas.EdgesConnected) :
    (edit action canvas).EdgesConnected ↔ canvas.DrawsDeleted action := by
  rw [edges_connected_iff_ends] at hcanvas ⊢
  cases action with
  | add nodeType inBounds => exact ⟨fun _ => trivial, fun _ => add_node_ends hcanvas _ _⟩
  | dragStop id inBounds => exact ⟨fun _ => trivial, fun _ => drag_stop_ends hcanvas _ _⟩
  | connect connection nodeTypesByName =>
      exact ⟨fun _ => trivial, fun _ => on_connect_ends hcanvas _ _⟩
  | removeFromGroup nodeId =>
      exact ⟨fun _ => trivial, fun _ edge hedge => hcanvas edge (List.mem_of_mem_filter hedge)⟩
  | deleteNodes ids => exact delete_nodes_ends_iff ids hcanvas

end GroupCanvas

/-- From any canvas whose edges are connected, the edges stay connected throughout a sequence of
edits exactly if no deletion meets an edge of a deleted node that is not drawn. -/
theorem edges_connected_iff {start : GroupCanvas} (hstart : start.EdgesConnected)
    (history : List CanvasEdit) :
    History.AllStates GroupCanvas.edit history start GroupCanvas.EdgesConnected ↔
      History.AllSteps GroupCanvas.edit history start GroupCanvas.DrawsDeleted :=
  History.all_states_iff GroupCanvas.edit_connected_iff hstart

/-! ### A group is deleted with a tool in it -/

/-- The palette's entry for tool groups. -/
def toolGroupInfo : NodeTypeInfo where
  type := "tool_group"
  subNodeSlots := .ofList [("tools", ⟨.many, none⟩)]
  subNodeRole := some "tool_group"

/-- The palette's entry for a tool. -/
def uppercaseInfo : NodeTypeInfo where
  type := "uppercase_text"
  inputs := [⟨"text", TEXT, true⟩]
  outputs := [⟨"text", TEXT⟩]

/-- A tool is dropped onto a group. -/
def containTool : List CanvasEdit :=
  [.add toolGroupInfo fun _ => false, .add uppercaseInfo fun _ => true]

/-- If the tool is taken out first, the group can be deleted. -/
theorem released_group_deleted :
    History.AllStates GroupCanvas.edit
      (containTool ++ [.removeFromGroup "uppercase_text_2", .deleteNodes ["tool_group_1"]]) .empty
      GroupCanvas.EdgesConnected := by
  have hstart : GroupCanvas.empty.EdgesConnected :=
    GroupCanvas.edges_connected_iff_ends.mpr fun edge hedge => absurd hedge List.not_mem_nil
  refine (edges_connected_iff hstart _).mpr ?_
  refine History.all_steps_cons.mpr ⟨trivial, History.all_steps_cons.mpr ⟨trivial, ?_⟩⟩
  refine History.all_steps_cons.mpr ⟨trivial, History.all_steps_cons.mpr ⟨?_, ?_⟩⟩
  · exact fun edge hedge => absurd hedge List.not_mem_nil
  · exact History.all_steps_nil

/-- If the group is deleted with the tool in it, the edge of the tool stays. -/
theorem deleted_group_leaves_edge :
    (History.after GroupCanvas.edit (containTool ++ [.deleteNodes ["tool_group_1"]]) .empty).edges =
      [⟨"uppercase_text_2", some subNodeHandleId, "tool_group_1", some "tools"⟩] ∧
    ¬ History.AllStates GroupCanvas.edit (containTool ++ [.deleteNodes ["tool_group_1"]]) .empty
      GroupCanvas.EdgesConnected := by
  have hedges : (History.after GroupCanvas.edit
      (containTool ++ [.deleteNodes ["tool_group_1"]]) .empty).edges =
      [⟨"uppercase_text_2", some subNodeHandleId, "tool_group_1", some "tools"⟩] := by decide
  refine ⟨hedges, fun h => ?_⟩
  have hends := (h _ [] (List.append_nil _).symm).onCanvas _ (hedges ▸ List.mem_cons_self)
  exact absurd hends.2 (by decide)

end AgentGraphStudio
