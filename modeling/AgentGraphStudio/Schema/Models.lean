import AgentGraphStudio.Schema.Json

/-!
# Graph specifications

The data model of `backend/schema/models.py` and `backend/schema/types.py`. A value of
`EdgeSpec` already has the shape its kind requires, and a `GraphSpec` carries the proof that
its node ids are distinct, so the two model validators hold by construction; they reappear
as the failing branches of `EdgeSpec.parse` and `GraphSpec.parse`, which read a graph from
JSON (`LoopConfig.sub_graph` is one).
-/

namespace AgentGraphStudio

/-! ## Slot types -/

/-- The base type of a slot. -/
inductive SlotType where
  | text | json | fileRef | embedding | image | boolean | list
  deriving DecidableEq, Repr

/-- The value of the enumeration member, as it appears in messages. -/
def SlotType.value : SlotType → String
  | .text => "text"
  | .json => "json"
  | .fileRef => "file_ref"
  | .embedding => "embedding"
  | .image => "image"
  | .boolean => "boolean"
  | .list => "list"

/-- The type of a slot: a base type with an optional element type. -/
inductive SlotTypeSpec where
  | plain (base : SlotType)
  | withElement (base : SlotType) (elementType : SlotTypeSpec)
  deriving DecidableEq, Repr

namespace SlotTypeSpec

/-- The base of a slot type. -/
def base : SlotTypeSpec → SlotType
  | .plain base | .withElement base _ => base

/-- Compatibility is exact equality. -/
def isCompatibleWith (self other : SlotTypeSpec) : Bool := self = other

end SlotTypeSpec

/-- The slot type every built-in node uses. -/
def TEXT : SlotTypeSpec := .plain .text

/-! ## Edges, nodes and graphs -/

/-- A data edge: it names both slots and no sub-node slot. -/
structure DataEdge where
  fromNode : String
  fromSlot : String
  toNode : String
  toSlot : String
  deriving DecidableEq, Repr

/-- A sub-node edge: it names the root's slot and no endpoint slot. -/
structure SubNodeEdge where
  fromNode : String
  toNode : String
  slot : String
  deriving DecidableEq, Repr

/-- An edge of either kind, with exactly the fields its kind requires. -/
inductive EdgeSpec where
  | data (edge : DataEdge)
  | subNode (edge : SubNodeEdge)
  deriving DecidableEq, Repr

namespace EdgeSpec

/-- The node an edge starts at. -/
def fromNode : EdgeSpec → String
  | .data edge => edge.fromNode
  | .subNode edge => edge.fromNode

/-- The node an edge ends at. -/
def toNode : EdgeSpec → String
  | .data edge => edge.toNode
  | .subNode edge => edge.toNode

/-- The edge as a data edge. -/
def data? : EdgeSpec → Option DataEdge
  | .data edge => some edge
  | .subNode _ => none

/-- The edge as a sub-node edge. -/
def subNode? : EdgeSpec → Option SubNodeEdge
  | .data _ => none
  | .subNode edge => some edge

end EdgeSpec

/-- One node of a graph: its settings and the literal values of its unwired slots. -/
structure NodeSpec where
  id : String
  type : String
  config : Config := .empty
  inputValues : Config := .empty

/-- A graph. Node ids are distinct. -/
structure GraphSpec where
  version : String
  nodes : List NodeSpec
  edges : List EdgeSpec
  nodupIds : (nodes.map NodeSpec.id).Nodup

namespace GraphSpec

/-- The data edges, in order. -/
def dataEdges (graph : GraphSpec) : List DataEdge := graph.edges.filterMap EdgeSpec.data?

/-- The sub-node edges, in order. -/
def subNodeEdges (graph : GraphSpec) : List SubNodeEdge :=
  graph.edges.filterMap EdgeSpec.subNode?

/-- The node with the given id (`nodes_by_id`). -/
def node? (graph : GraphSpec) (id : String) : Option NodeSpec :=
  graph.nodes.find? fun node => node.id = id

@[simp] theorem mem_dataEdges {graph : GraphSpec} {edge : DataEdge} :
    edge ∈ graph.dataEdges ↔ EdgeSpec.data edge ∈ graph.edges := by
  rw [dataEdges, List.mem_filterMap]
  constructor
  · rintro ⟨_ | _, hmem, hedge⟩ <;> cases hedge
    exact hmem
  · exact fun hmem => ⟨_, hmem, rfl⟩

@[simp] theorem mem_subNodeEdges {graph : GraphSpec} {edge : SubNodeEdge} :
    edge ∈ graph.subNodeEdges ↔ EdgeSpec.subNode edge ∈ graph.edges := by
  rw [subNodeEdges, List.mem_filterMap]
  constructor
  · rintro ⟨_ | _, hmem, hedge⟩ <;> cases hedge
    exact hmem
  · exact fun hmem => ⟨_, hmem, rfl⟩

/-- A node of the graph is the one found under its id. -/
theorem node?_of_mem {graph : GraphSpec} {node : NodeSpec} (h : node ∈ graph.nodes) :
    graph.node? node.id = some node := by
  obtain ⟨_, nodes, _, hnodup⟩ := graph
  simp only [node?] at h ⊢
  induction nodes with
  | nil => simp at h
  | cons head rest ih =>
      rw [List.map_cons, List.nodup_cons] at hnodup
      rcases List.mem_cons.mp h with rfl | hrest
      · simp
      · have hne : head.id ≠ node.id := fun hid =>
          hnodup.1 (hid ▸ List.mem_map_of_mem (f := NodeSpec.id) hrest)
        rw [List.find?_cons_of_neg (by simpa using hne)]
        exact ih hnodup.2 hrest

theorem mem_of_node? {graph : GraphSpec} {id : String} {node : NodeSpec}
    (h : graph.node? id = some node) : node ∈ graph.nodes ∧ node.id = id :=
  ⟨List.mem_of_find?_eq_some h, by simpa using List.find?_some h⟩

theorem exists_node?_iff {graph : GraphSpec} {id : String} :
    (∃ node, graph.node? id = some node) ↔ id ∈ graph.nodes.map NodeSpec.id := by
  constructor
  · rintro ⟨node, hnode⟩
    obtain ⟨hmem, rfl⟩ := mem_of_node? hnode
    exact List.mem_map_of_mem hmem
  · intro hid
    obtain ⟨node, hmem, rfl⟩ := List.mem_map.mp hid
    exact ⟨node, node?_of_mem hmem⟩

end GraphSpec

/-! ## Reading a graph from JSON -/

/-- The endpoint object of an edge: a node id and an optional slot name. -/
def parseEndpoint (json : Json) : Except String (String × Option String) :=
  match json.obj? with
  | none => .error "Input should be a valid dictionary"
  | some fields => do
      let node ← fields.required "node" Json.str?
      let slot ← fields.optionalStr "slot"
      pure (node, slot)

/-- Read an edge and check that its fields match its kind. -/
def EdgeSpec.parse (json : Json) : Except String EdgeSpec :=
  match json.obj? with
  | none => .error "Input should be a valid dictionary"
  | some fields => do
      let kind ← fields.withDefault "kind" Json.str? "data"
      let fromJson ← match (fields.get? "from").or (fields.get? "from_") with
        | none => .error "from: Field required"
        | some json => .ok json
      let toJson ← match fields.get? "to" with
        | none => .error "to: Field required"
        | some json => .ok json
      let (fromNode, fromSlot) ← parseEndpoint fromJson
      let (toNode, toSlot) ← parseEndpoint toJson
      let slot ← fields.optionalStr "slot"
      if kind = "data" then
        match fromSlot, toSlot, slot with
        | some fromSlot, some toSlot, none => .ok (.data ⟨fromNode, fromSlot, toNode, toSlot⟩)
        | some _, some _, some _ =>
            .error "a 'data' edge must not set the top-level 'slot' field"
        | _, _, _ => .error "a 'data' edge requires both from.slot and to.slot"
      else if kind = "sub_node" then
        match slot, fromSlot, toSlot with
        | some slot, none, none => .ok (.subNode ⟨fromNode, toNode, slot⟩)
        | none, _, _ =>
            .error "a 'sub_node' edge requires a top-level 'slot' naming the root's slot"
        | some _, _, _ => .error "a 'sub_node' edge must not set from.slot or to.slot"
      else .error "kind: Input should be 'data' or 'sub_node'"

/-- Read a node. -/
def NodeSpec.parse (json : Json) : Except String NodeSpec :=
  match json.obj? with
  | none => .error "Input should be a valid dictionary"
  | some fields => do
      let id ← fields.required "id" Json.str?
      let type ← fields.required "type" Json.str?
      let config ← fields.withDefault "config" Json.obj? .empty
      let inputValues ← fields.withDefault "input_values" Json.obj? .empty
      pure { id, type, config, inputValues }

/-- Read a graph and check that its node ids are distinct. -/
def GraphSpec.parse (json : Json) : Except String GraphSpec :=
  match json.obj? with
  | none => .error "Input should be a valid dictionary"
  | some fields => do
      let version ← fields.required "version" Json.str?
      let nodes ← (← fields.required "nodes" Json.arr?).mapM NodeSpec.parse
      let edges ← (← fields.withDefault "edges" Json.arr? []).mapM EdgeSpec.parse
      if h : (nodes.map NodeSpec.id).Nodup then
        .ok { version, nodes, edges, nodupIds := h }
      else .error "duplicate node id(s)"

end AgentGraphStudio
