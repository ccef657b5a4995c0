import AgentGraphStudio.Lib.History
import AgentGraphStudio.Schema.Models

/-!
# The ids of the nodes on the canvas

`frontend/src/canvas/Canvas.tsx` numbers the nodes that are added with a counter of the page, while
a graph that is loaded or imported brings ids of its own; `frontend/src/graph/serialize.ts` turns
graphs into nodes and edges and back. The backend refuses a graph with two nodes of one id.
`canvas_ids_distinct_iff` says for which histories of a page the ids on the canvas stay distinct.
-/

namespace AgentGraphStudio

/-- A node on the canvas, without what is only drawn. -/
structure GenericFlowNode where
  id : String
  nodeType : String
  config : Config := .empty
  inputValues : Config := .empty

/-- An edge on the canvas. -/
structure FlowEdge where
  source : String
  sourceHandle : Option String
  target : String
  targetHandle : Option String
  deriving DecidableEq

/-- The handle in which the edges of sub-nodes start. -/
def subNodeHandleId : String := "__sub_node__"

/-- A graph as a file or a request has it. Node ids need not be distinct. -/
structure GraphFile where
  version : String
  nodes : List NodeSpec
  edges : List EdgeSpec

/-- A graph that the backend has accepted, as it is sent. -/
def GraphSpec.toFile (graph : GraphSpec) : GraphFile := ⟨graph.version, graph.nodes, graph.edges⟩

/-! ## Between graphs and the canvas -/

/-- A node in a graph, of a node on the canvas. -/
def GenericFlowNode.toSpec (node : GenericFlowNode) : NodeSpec :=
  ⟨node.id, node.nodeType, node.config, node.inputValues⟩

/-- An edge in a graph, of an edge on the canvas. -/
def FlowEdge.toSpec (edge : FlowEdge) : EdgeSpec :=
  if edge.sourceHandle = some subNodeHandleId then
    .subNode ⟨edge.source, edge.target, edge.targetHandle.getD ""⟩
  else
    .data ⟨edge.source, edge.sourceHandle.getD "", edge.target, edge.targetHandle.getD ""⟩

/-- The graph that is sent or exported. -/
def nodesAndEdgesToGraphSpec (nodes : List GenericFlowNode) (edges : List FlowEdge) : GraphFile :=
  ⟨"0.1", nodes.map GenericFlowNode.toSpec, edges.map FlowEdge.toSpec⟩

/-- A node on the canvas, of a node in a graph. -/
def NodeSpec.toFlow (node : NodeSpec) : GenericFlowNode :=
  ⟨node.id, node.type, node.config, node.inputValues⟩

/-- An edge on the canvas, of an edge in a graph. -/
def EdgeSpec.toFlow : EdgeSpec → FlowEdge
  | .subNode edge => ⟨edge.fromNode, some subNodeHandleId, edge.toNode, some edge.slot⟩
  | .data edge => ⟨edge.fromNode, some edge.fromSlot, edge.toNode, some edge.toSlot⟩

/-- The nodes and edges of a graph, if the types of its nodes are known. -/
def graphSpecToNodesAndEdges (graph : GraphFile) (nodeTypesByName : List String) :
    Option (List GenericFlowNode × List FlowEdge) :=
  if ∀ node ∈ graph.nodes, node.type ∈ nodeTypesByName then
    some (graph.nodes.map NodeSpec.toFlow, graph.edges.map EdgeSpec.toFlow)
  else none

/-! ## The canvas -/

/-- The canvas of a page, with the counter of the page (`idCounter`). -/
structure Canvas where
  idCounter : Nat
  nodes : List GenericFlowNode
  edges : List FlowEdge

/-- Where a number of JavaScript stops when it is counted up, which is two to the 53. -/
def counterEnd : Nat := 9007199254740992

namespace Canvas

/-- The canvas after the page was loaded. -/
def empty : Canvas := ⟨0, [], []⟩

/-- The ids of the nodes. -/
def ids (canvas : Canvas) : List String := canvas.nodes.map GenericFlowNode.id

/-- The counter plus one. -/
def nextCounter (canvas : Canvas) : Nat := min (canvas.idCounter + 1) counterEnd

/-- The id of the next node of a type. -/
def nextNodeId (canvas : Canvas) (typeName : String) : String :=
  s!"{typeName}_{canvas.nextCounter}"

end Canvas

/-- Add an edge, unless there is one between the same handles (`addEdge`). -/
def addEdge (edge : FlowEdge) (edges : List FlowEdge) : List FlowEdge :=
  if edge ∈ edges then edges else edges ++ [edge]

/-- What is done on the page. A node may be dropped into a slot of a group. The loading actions
come with the types that the page knows at the time. -/
inductive CanvasAction where
  | add (type : String) (group : Option (String × String))
  | loadFromServer (spec : GraphSpec) (nodeTypesByName : List String)
  | importFile (file : GraphFile) (nodeTypesByName : List String)
  | remove (ids : List String)
  | setEdges (edges : List FlowEdge)

namespace Canvas

/-- Add a node (`addNodeAtPosition`). Dropped into a group, it is wired to it. -/
def addNode (canvas : Canvas) (type : String) (group : Option (String × String)) : Canvas :=
  let id := canvas.nextNodeId type
  { idCounter := canvas.nextCounter
    nodes := canvas.nodes ++ [{ id, nodeType := type }]
    edges := group.elim canvas.edges fun (target, slot) =>
      addEdge ⟨id, some subNodeHandleId, target, some slot⟩ canvas.edges }

/-- Show a graph in place of what is on the canvas. One with an unknown type is not shown. -/
def showGraph (canvas : Canvas) (graph : GraphFile) (nodeTypesByName : List String) : Canvas :=
  match graphSpecToNodesAndEdges graph nodeTypesByName with
  | some (nodes, edges) => { canvas with nodes, edges }
  | none => canvas

/-- Remove some nodes, and the edges that start or end in them. -/
def remove (canvas : Canvas) (ids : List String) : Canvas :=
  { canvas with
    nodes := canvas.nodes.filter fun node => node.id ∉ ids
    edges := canvas.edges.filter fun edge => edge.source ∉ ids ∧ edge.target ∉ ids }

/-- The canvas after an action. -/
def act (action : CanvasAction) (canvas : Canvas) : Canvas :=
  match action with
  | .add type group => canvas.addNode type group
  | .loadFromServer spec nodeTypesByName => canvas.showGraph spec.toFile nodeTypesByName
  | .importFile file nodeTypesByName => canvas.showGraph file nodeTypesByName
  | .remove ids => canvas.remove ids
  | .setEdges edges => { canvas with edges }

/-- The graph that is sent when the canvas is saved, run or exported. -/
def toGraphSpec (canvas : Canvas) : GraphFile := nodesAndEdgesToGraphSpec canvas.nodes canvas.edges

/-- The ids on the canvas are distinct, and so are those in the graph that is sent. -/
structure DistinctIds (canvas : Canvas) : Prop where
  onCanvas : canvas.ids.Nodup
  serialised : (canvas.toGraphSpec.nodes.map NodeSpec.id).Nodup

/-- A node that is added gets an id that no node has, and a file that is shown has distinct ids. -/
def StaysDistinct (canvas : Canvas) : CanvasAction → Prop
  | .add type _ => canvas.nextNodeId type ∉ canvas.ids
  | .importFile file nodeTypesByName =>
    (∀ node ∈ file.nodes, node.type ∈ nodeTypesByName) → (file.nodes.map NodeSpec.id).Nodup
  | _ => True

end Canvas

namespace Canvas

variable {canvas : Canvas} {graph : GraphFile} {nodeTypesByName : List String}

/-- The graph that is sent has the ids of the canvas. -/
theorem to_graph_spec_ids : canvas.toGraphSpec.nodes.map NodeSpec.id = canvas.ids := by
  show (canvas.nodes.map GenericFlowNode.toSpec).map NodeSpec.id = canvas.ids
  rw [List.map_map]
  rfl

/-- The ids in the graph that is sent are distinct if those on the canvas are. -/
theorem distinct_ids_iff : canvas.DistinctIds ↔ canvas.ids.Nodup :=
  ⟨DistinctIds.onCanvas, fun h => ⟨h, to_graph_spec_ids ▸ h⟩⟩

/-- The ids of a graph that is shown are those of the graph. -/
theorem show_graph_ids (htypes : ∀ node ∈ graph.nodes, node.type ∈ nodeTypesByName) :
    (canvas.showGraph graph nodeTypesByName).ids = graph.nodes.map NodeSpec.id := by
  rw [showGraph, graphSpecToNodesAndEdges, if_pos htypes]
  show (graph.nodes.map NodeSpec.toFlow).map GenericFlowNode.id = graph.nodes.map NodeSpec.id
  rw [List.map_map]
  rfl

/-- A graph with an unknown type is not shown. -/
theorem show_graph_of_unknown (htypes : ¬ ∀ node ∈ graph.nodes, node.type ∈ nodeTypesByName) :
    canvas.showGraph graph nodeTypesByName = canvas := by
  rw [showGraph, graphSpecToNodesAndEdges, if_neg htypes]

/-- Showing a graph keeps the ids distinct if those of the graph are, or it is not shown. -/
theorem show_graph_nodup_iff (hcanvas : canvas.ids.Nodup) :
    (canvas.showGraph graph nodeTypesByName).ids.Nodup ↔
      ((∀ node ∈ graph.nodes, node.type ∈ nodeTypesByName) →
        (graph.nodes.map NodeSpec.id).Nodup) := by
  by_cases htypes : ∀ node ∈ graph.nodes, node.type ∈ nodeTypesByName
  · rw [show_graph_ids htypes]
    exact ⟨fun h _ => h, fun h => h htypes⟩
  · rw [show_graph_of_unknown htypes]
    exact ⟨fun _ h => absurd h htypes, fun _ => hcanvas⟩

/-- A node that is added keeps the ids distinct if its own is new. -/
theorem add_node_nodup_iff (hcanvas : canvas.ids.Nodup) (type : String)
    (group : Option (String × String)) :
    (canvas.addNode type group).ids.Nodup ↔ canvas.nextNodeId type ∉ canvas.ids := by
  have hids : (canvas.addNode type group).ids = canvas.ids ++ [canvas.nextNodeId type] :=
    List.map_append
  rw [hids, List.nodup_append']
  simp [hcanvas]

/-- Removing nodes keeps the ids distinct. -/
theorem remove_nodup (hcanvas : canvas.ids.Nodup) (ids : List String) :
    (canvas.remove ids).ids.Nodup :=
  (List.filter_sublist.map GenericFlowNode.id).nodup hcanvas

/-- An action keeps the ids distinct exactly if it meets the condition. -/
theorem act_distinct_iff (canvas : Canvas) (action : CanvasAction) (hcanvas : canvas.DistinctIds) :
    (act action canvas).DistinctIds ↔ canvas.StaysDistinct action := by
  rw [distinct_ids_iff] at hcanvas ⊢
  cases action with
  | add type group => exact add_node_nodup_iff hcanvas type group
  | loadFromServer spec nodeTypesByName =>
      refine (show_graph_nodup_iff hcanvas).trans ⟨fun _ => trivial, fun _ _ => ?_⟩
      exact spec.nodupIds
  | importFile file nodeTypesByName => exact show_graph_nodup_iff hcanvas
  | remove ids => exact ⟨fun _ => trivial, fun _ => remove_nodup hcanvas ids⟩
  | setEdges edges => exact ⟨fun _ => trivial, fun _ => hcanvas⟩

end Canvas

/-! ## What a page has done -/

/-- The past of a page: how many nodes were added, the ids of the graph that was shown last without
those removed since, and the types of the nodes on the canvas that were added when the counter had
come to its end. -/
structure PagePast where
  additions : Nat := 0
  shown : List String := []
  late : List String := []

namespace PagePast

/-- A graph takes the place of what was there. One with an unknown type is not shown. -/
def shows (past : PagePast) (graph : GraphFile) (nodeTypesByName : List String) : PagePast :=
  if ∀ node ∈ graph.nodes, node.type ∈ nodeTypesByName then
    { past with shown := graph.nodes.map NodeSpec.id, late := [] }
  else past

/-- The past after one more action. -/
def act (action : CanvasAction) (past : PagePast) : PagePast :=
  match action with
  | .add type _ =>
    { past with
      additions := past.additions + 1
      late := if past.additions + 1 < counterEnd then past.late else type :: past.late }
  | .loadFromServer spec nodeTypesByName => past.shows spec.toFile nodeTypesByName
  | .importFile file nodeTypesByName => past.shows file nodeTypesByName
  | .remove ids =>
    { past with
      shown := past.shown.filter fun id => id ∉ ids
      late := past.late.filter fun type => s!"{type}_{counterEnd}" ∉ ids }
  | .setEdges _ => past

/-- The node that is added next is the first with its number, and no node of the graph shown last
has that number with its type. A file that is shown has distinct ids. -/
def KeepsDistinct (past : PagePast) : CanvasAction → Prop
  | .add type _ =>
    s!"{type}_{min (past.additions + 1) counterEnd}" ∉ past.shown ∧ type ∉ past.late
  | .importFile file nodeTypesByName =>
    (∀ node ∈ file.nodes, node.type ∈ nodeTypesByName) → (file.nodes.map NodeSpec.id).Nodup
  | _ => True

end PagePast

/-- What follows the last occurrence of a letter is determined. -/
theorem after_last_eq {α : Type} {letter : α} {before before' after after' : List α}
    (h : before ++ letter :: after = before' ++ letter :: after') (hafter : letter ∉ after)
    (hafter' : letter ∉ after') : after = after' := by
  rcases List.append_eq_append_iff.mp h with ⟨between, _, hrest⟩ | ⟨between, _, hrest⟩
  · cases between with
    | nil => exact (List.cons_eq_cons.mp hrest).2
    | cons head between =>
        refine absurd ?_ hafter
        rw [(List.cons_eq_cons.mp hrest).2]
        exact List.mem_append_right _ List.mem_cons_self
  · cases between with
    | nil => exact (List.cons_eq_cons.mp hrest).2.symm
    | cons head between =>
        refine absurd ?_ hafter'
        rw [(List.cons_eq_cons.mp hrest).2]
        exact List.mem_append_right _ List.mem_cons_self

/-- An id that the counter gave out tells its type and number. -/
theorem numbered_id_inj {type otherType : String} {number otherNumber : Nat}
    (h : s!"{type}_{number}" = s!"{otherType}_{otherNumber}") :
    type = otherType ∧ number = otherNumber := by
  have htext : type ++ "_" ++ number.repr = otherType ++ "_" ++ otherNumber.repr := h
  have hletters : type.toList ++ '_' :: Nat.toDigits 10 number =
      otherType.toList ++ '_' :: Nat.toDigits 10 otherNumber := by
    simpa using congrArg String.toList htext
  have hdigits : ∀ number, '_' ∉ Nat.toDigits 10 number := by
    intro number hmem
    have hdigit := Nat.isDigit_of_mem_toDigits (by decide) (by decide) hmem
    exact absurd hdigit (by decide)
  have hsame := after_last_eq hletters (hdigits number) (hdigits otherNumber)
  have hvalue := congrArg (Nat.ofDigitChars 10 · 0) hsame
  have hnumber : number = otherNumber := by
    simpa only [Nat.ofDigitChars_toDigits (by decide : 1 < 10) (by decide)] using hvalue
  rw [hsame] at hletters
  exact ⟨String.toList_inj.mp (List.append_cancel_right hletters), hnumber⟩

/-- What the past tells about the canvas. The counter has given out every id that no graph brought,
and each number below its end once. -/
structure PageTracks (canvas : Canvas) (past : PagePast) : Prop where
  counter : canvas.idCounter = min past.additions counterEnd
  ids : ∀ id ∈ canvas.ids, id ∈ past.shown ∨ ∃ (type : String) (number : Nat),
    id = s!"{type}_{number}" ∧ number ≤ canvas.idCounter ∧
      (number = counterEnd → type ∈ past.late)
  shown : ∀ id ∈ past.shown, id ∈ canvas.ids
  late : ∀ type ∈ past.late, counterEnd ≤ past.additions ∧ s!"{type}_{counterEnd}" ∈ canvas.ids

namespace PageTracks

variable {canvas : Canvas} {past : PagePast}

/-- The next id is on the canvas if a graph brought it, or if it is the last one of the counter and
was given out before. -/
theorem mem_ids_iff (h : PageTracks canvas past) (type : String) :
    canvas.nextNodeId type ∈ canvas.ids ↔
      s!"{type}_{min (past.additions + 1) counterEnd}" ∈ past.shown ∨ type ∈ past.late := by
  have hnext : canvas.nextCounter = min (past.additions + 1) counterEnd := by
    have hcounter := h.counter
    show min (canvas.idCounter + 1) counterEnd = _
    omega
  have hid : canvas.nextNodeId type = s!"{type}_{min (past.additions + 1) counterEnd}" := by
    rw [Canvas.nextNodeId, hnext]
  rw [hid]
  constructor
  · intro hmem
    refine (h.ids _ hmem).imp_right ?_
    rintro ⟨other, number, hsame, hnumber, hlate⟩
    obtain ⟨rfl, rfl⟩ := numbered_id_inj hsame
    have hcounter := h.counter
    exact hlate (by omega)
  · rintro (hshown | hlate)
    · exact h.shown _ hshown
    · obtain ⟨hend, hmem⟩ := h.late type hlate
      rwa [show min (past.additions + 1) counterEnd = counterEnd from by omega]

/-- An action keeps the ids distinct on the canvas exactly if the past says so. -/
theorem stays_distinct_iff (h : PageTracks canvas past) (action : CanvasAction) :
    canvas.StaysDistinct action ↔ past.KeepsDistinct action := by
  cases action with
  | add type group =>
      show canvas.nextNodeId type ∉ canvas.ids ↔ _ ∧ _
      rw [h.mem_ids_iff, not_or]
  | loadFromServer | importFile | remove | setEdges => exact Iff.rfl

/-- A graph that is shown. -/
theorem show_graph (h : PageTracks canvas past) (graph : GraphFile)
    (nodeTypesByName : List String) :
    PageTracks (canvas.showGraph graph nodeTypesByName) (past.shows graph nodeTypesByName) := by
  by_cases htypes : ∀ node ∈ graph.nodes, node.type ∈ nodeTypesByName
  · have hids := @Canvas.show_graph_ids canvas graph nodeTypesByName htypes
    have hcounter : (canvas.showGraph graph nodeTypesByName).idCounter = canvas.idCounter := by
      rw [Canvas.showGraph, graphSpecToNodesAndEdges, if_pos htypes]
    rw [PagePast.shows, if_pos htypes]
    refine ⟨hcounter.trans h.counter, fun id hid => .inl (hids ▸ hid), fun id hid => hids ▸ hid,
      fun type htype => ?_⟩
    cases htype
  · rw [Canvas.show_graph_of_unknown htypes, PagePast.shows, if_neg htypes]
    exact h

/-- A node that is added. -/
theorem add_node (h : PageTracks canvas past) (type : String) (group : Option (String × String)) :
    PageTracks (canvas.addNode type group) (past.act (.add type group)) := by
  have hids : (canvas.addNode type group).ids = canvas.ids ++ [canvas.nextNodeId type] :=
    List.map_append
  have hcounter : canvas.nextCounter = min (past.additions + 1) counterEnd := by
    have hbefore := h.counter
    show min (canvas.idCounter + 1) counterEnd = _
    omega
  -- The new node is late if it gets the last number of the counter.
  have hlate : ∀ other, other ∈ (past.act (.add type group)).late ↔
      other ∈ past.late ∨ other = type ∧ canvas.nextCounter = counterEnd := by
    intro other
    by_cases hend : past.additions + 1 < counterEnd
    · have hnext : canvas.nextCounter ≠ counterEnd := by omega
      simp [PagePast.act, hend, hnext]
    · have hnext : canvas.nextCounter = counterEnd := by omega
      simp [PagePast.act, hend, hnext, or_comm]
  refine ⟨hcounter, fun id hid => ?_, fun id hid => ?_, fun other hother => ?_⟩
  · rw [hids, List.mem_append, List.mem_singleton] at hid
    rcases hid with hold | rfl
    · refine (h.ids id hold).imp_right ?_
      rintro ⟨other, number, rfl, hnumber, hnumbered⟩
      refine ⟨other, number, rfl, ?_, fun hend => (hlate other).mpr (.inl (hnumbered hend))⟩
      show number ≤ canvas.nextCounter
      have hbefore := h.counter
      omega
    · exact .inr ⟨type, canvas.nextCounter, rfl, Nat.le_refl _, fun hend =>
        (hlate type).mpr (.inr ⟨rfl, hend⟩)⟩
  · rw [hids]
    exact List.mem_append_left _ (h.shown id hid)
  · rw [hids]
    rcases (hlate other).mp hother with hold | ⟨rfl, hend⟩
    · obtain ⟨hadditions, hmem⟩ := h.late other hold
      exact ⟨Nat.le_succ_of_le hadditions, List.mem_append_left _ hmem⟩
    · refine ⟨?_, List.mem_append_right _ (List.mem_singleton.mpr ?_)⟩
      · show counterEnd ≤ past.additions + 1
        omega
      · rw [Canvas.nextNodeId, hend]

/-- Nodes that are removed. -/
theorem remove (h : PageTracks canvas past) (removed : List String) :
    PageTracks (canvas.remove removed) (past.act (.remove removed)) := by
  have hids : ∀ id, id ∈ (canvas.remove removed).ids ↔ id ∈ canvas.ids ∧ id ∉ removed := by
    intro id
    rw [Canvas.remove, Canvas.ids, Canvas.ids, List.mem_map, List.mem_map]
    simp only [List.mem_filter, decide_eq_true_eq]
    constructor
    · rintro ⟨node, ⟨hnode, hkept⟩, rfl⟩
      exact ⟨⟨node, hnode, rfl⟩, hkept⟩
    · rintro ⟨⟨node, hnode, rfl⟩, hkept⟩
      exact ⟨node, ⟨hnode, hkept⟩, rfl⟩
  have hshown : ∀ id, id ∈ (past.act (.remove removed)).shown ↔ id ∈ past.shown ∧ id ∉ removed :=
    fun id => by simp [PagePast.act]
  have hlate : ∀ type, type ∈ (past.act (.remove removed)).late ↔
      type ∈ past.late ∧ s!"{type}_{counterEnd}" ∉ removed := fun type => by simp [PagePast.act]
  refine ⟨h.counter, fun id hid => ?_, fun id hid => ?_, fun type htype => ?_⟩
  · obtain ⟨hmem, hkept⟩ := (hids id).mp hid
    rcases h.ids id hmem with hold | ⟨type, number, rfl, hnumber, hnumbered⟩
    · exact .inl ((hshown id).mpr ⟨hold, hkept⟩)
    · refine .inr ⟨type, number, rfl, hnumber, fun hend => (hlate type).mpr ⟨hnumbered hend, ?_⟩⟩
      rw [← hend]
      exact hkept
  · obtain ⟨hold, hkept⟩ := (hshown id).mp hid
    exact (hids id).mpr ⟨h.shown id hold, hkept⟩
  · obtain ⟨hold, hkept⟩ := (hlate type).mp htype
    obtain ⟨hadditions, hmem⟩ := h.late type hold
    exact ⟨hadditions, (hids _).mpr ⟨hmem, hkept⟩⟩

/-- Every action is tracked. -/
theorem act (h : PageTracks canvas past) (action : CanvasAction) :
    PageTracks (Canvas.act action canvas) (PagePast.act action past) := by
  cases action with
  | add type group => exact h.add_node type group
  | loadFromServer spec nodeTypesByName => exact h.show_graph spec.toFile nodeTypesByName
  | importFile file nodeTypesByName => exact h.show_graph file nodeTypesByName
  | remove ids => exact h.remove ids
  | setEdges edges => exact ⟨h.counter, h.ids, h.shown, h.late⟩

end PageTracks

/-- The ids on the canvas are distinct after every action of a page exactly if, at every addition,
no node of the graph shown last that is still there has the new type with the number of the
addition, the counter has not come to its end with a node of the type, and every file that is shown
has distinct ids. -/
theorem canvas_ids_distinct_iff (history : List CanvasAction) :
    History.AllStates Canvas.act history .empty Canvas.DistinctIds ↔
      History.AllSteps PagePast.act history {} PagePast.KeepsDistinct := by
  have hstart : PageTracks .empty {} :=
    ⟨rfl, fun _ hid => (by cases hid), fun _ hid => (by cases hid),
      fun _ htype => (by cases htype)⟩
  have htracks : ∀ earlier : List CanvasAction, PageTracks
      (History.after Canvas.act earlier .empty) (History.after PagePast.act earlier {}) :=
    fun earlier => History.after_related (fun _ _ action h => h.act action) hstart
  have hempty : Canvas.empty.DistinctIds := Canvas.distinct_ids_iff.mpr List.nodup_nil
  rw [History.all_states_iff Canvas.act_distinct_iff hempty]
  refine forall_congr' fun earlier => forall_congr' fun action => forall_congr' fun later =>
    imp_congr_right fun _ => ?_
  exact (htracks earlier).stays_distinct_iff action

/-! ### A loaded graph has the id of the next node -/

/-- A saved graph with one text input, under the id that the first one on a page gets. -/
def oneInputGraph : GraphSpec where
  version := "0.1"
  nodes := [{ id := "text_input_1", type := "text_input" }]
  edges := []
  nodupIds := List.nodup_singleton _

/-- The graph is loaded, and a text input is added. -/
def loadThenAdd : List CanvasAction :=
  [.loadFromServer oneInputGraph ["text_input"], .add "text_input" none]

/-- The loaded node and the new one have the same id. -/
theorem load_then_add_clashes :
    (History.after Canvas.act loadThenAdd .empty).ids = ["text_input_1", "text_input_1"] ∧
    ¬ History.AllStates Canvas.act loadThenAdd .empty Canvas.DistinctIds := by
  have hids : (History.after Canvas.act loadThenAdd .empty).ids =
      ["text_input_1", "text_input_1"] := by decide
  refine ⟨hids, fun h => ?_⟩
  have hnodup := (h loadThenAdd [] (List.append_nil _).symm).onCanvas
  rw [hids] at hnodup
  exact absurd hnodup (by decide)

end AgentGraphStudio
