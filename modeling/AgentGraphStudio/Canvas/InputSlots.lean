import AgentGraphStudio.Api.ConnectionCoverage
import AgentGraphStudio.Execution.Gather

/-!
# One edge per input slot

`frontend/src/canvas/Canvas.tsx` refuses a connection into a slot that is already connected, and
the engine keeps one edge for every slot. No rule of the validator looks at this, so a graph that
was not drawn on the canvas can be accepted with two edges into one slot.
`one_edge_per_slot_iff`: every edge of an accepted graph counts, and its runs do not depend on the
order of the edges, exactly if the canvas would have let its data edges be drawn.
-/

namespace AgentGraphStudio

variable {Body : Type}

/-! ## Drawing edges -/

/-- The slot in which an edge ends. -/
def DataEdge.target (edge : DataEdge) : String × String := (edge.toNode, edge.toSlot)

/-- `alreadyConnected` of `isValidConnection`: one of the edges ends where the connection would. -/
def alreadyConnected (edges : List DataEdge) (connection : DataEdge) : Bool :=
  edges.any fun edge => edge.toNode = connection.toNode ∧ edge.toSlot = connection.toSlot

/-- Draw edges one after another on a canvas that has some, as long as they end in free
slots. -/
def drawEdges (edges : List DataEdge) : List DataEdge → Bool
  | [] => true
  | connection :: connections =>
    ! alreadyConnected edges connection && drawEdges (edges ++ [connection]) connections

theorem already_connected_iff {edges : List DataEdge} {connection : DataEdge} :
    alreadyConnected edges connection = true ↔
      connection.target ∈ edges.map DataEdge.target := by
  unfold alreadyConnected
  rw [List.any_eq_true, List.mem_map]
  refine exists_congr fun edge => and_congr_right fun _ => ?_
  simp [DataEdge.target]

/-- Edges can be drawn if they end in distinct slots that are free. -/
theorem draw_edges_iff (edges connections : List DataEdge) :
    drawEdges edges connections = true ↔
      (connections.map DataEdge.target).Nodup ∧
        ∀ connection ∈ connections, connection.target ∉ edges.map DataEdge.target := by
  induction connections generalizing edges with
  | nil => simp [drawEdges]
  | cons connection connections ih =>
      unfold drawEdges
      rw [Bool.and_eq_true, Bool.not_eq_true', ← Bool.not_eq_true, already_connected_iff, ih,
        List.map_cons, List.nodup_cons, List.forall_mem_cons, List.map_append]
      simp only [List.mem_append, List.map_cons, List.map_nil, List.mem_singleton, not_or]
      constructor
      · intro h
        obtain ⟨hfree, hnodup, hrest⟩ := h
        refine ⟨⟨fun hmem => ?_, hnodup⟩, hfree, fun other hother => (hrest other hother).1⟩
        obtain ⟨other, hother, hsame⟩ := List.mem_map.mp hmem
        exact (hrest other hother).2 hsame
      · intro h
        obtain ⟨⟨hnew, hnodup⟩, hfree, hrest⟩ := h
        refine ⟨hfree, hnodup, fun other hother => ⟨hrest other hother, fun hsame => ?_⟩⟩
        exact hnew (hsame ▸ List.mem_map_of_mem hother)

/-! ## The engine's table of edges -/

/-- The same nodes, and the same edges in any order. -/
structure Rewired (graph other : GraphSpec) : Prop where
  nodes : other.nodes = graph.nodes
  edges : other.edges.Perm graph.edges

section

variable {graph other : GraphSpec}

/-- With one edge per slot, the last edge into a slot is any edge into it. -/
theorem lastEdgeInto_eq_some_iff (hunique : (graph.dataEdges.map DataEdge.target).Nodup)
    {nodeId slot : String} {edge : DataEdge} :
    lastEdgeInto graph nodeId slot = some edge ↔
      edge ∈ graph.dataEdges ∧ edge.toNode = nodeId ∧ edge.toSlot = slot := by
  constructor
  · exact lastEdgeInto_some
  · intro h
    obtain ⟨hedge, rfl, rfl⟩ := h
    obtain ⟨last, hlast⟩ := lastEdgeInto_isSome hedge
    obtain ⟨hmem, hnode, hslot⟩ := lastEdgeInto_some hlast
    have htarget : last.target = edge.target := Prod.ext hnode hslot
    rw [hlast, List.inj_on_of_nodup_map hunique hmem hedge htarget]

theorem Rewired.dataEdges_perm (h : Rewired graph other) :
    other.dataEdges.Perm graph.dataEdges :=
  h.edges.filterMap _

/-- With one edge per slot, the table of fed slots does not depend on the order of the edges. -/
theorem Rewired.incoming_eq (h : Rewired graph other)
    (hunique : (graph.dataEdges.map DataEdge.target).Nodup) (key : String × String) :
    (incomingBySlot other).get? key = (incomingBySlot graph).get? key := by
  have hother : (other.dataEdges.map DataEdge.target).Nodup :=
    ((h.dataEdges_perm.map DataEdge.target).nodup_iff).mpr hunique
  rw [get?_incomingBySlot, get?_incomingBySlot]
  refine Option.ext fun edge => ?_
  rw [lastEdgeInto_eq_some_iff hother, lastEdgeInto_eq_some_iff hunique,
    h.dataEdges_perm.mem_iff]

end

/-! ## Runs of a rewired graph -/

section

variable {graph other : GraphSpec} {registry : NodeRegistry Body} {m : Type → Type} [Monad m]
  {runtime : Runtime m} {observers : Observers m}
  {execute : Body → ExecutionContext → m (Except Raised NodeResult)}
  {resources resources' : Resources}

/-- The bodies do the same with either bag. -/
def SameBehaviour (execute : Body → ExecutionContext → m (Except Raised NodeResult))
    (resources resources' : Resources) : Prop :=
  ∀ body node inputs, execute body ⟨node, inputs, resources⟩ =
    execute body ⟨node, inputs, resources'⟩

theorem gather_slots_eq {incoming incoming' : Dict (String × String) DataEdge}
    (h : ∀ key, incoming'.get? key = incoming.get? key) (state : SchedulerState) (node : NodeSpec)
    (slots : List InputSlotSpec) (gathered : Config) :
    gatherSlots incoming' state node slots gathered =
      gatherSlots incoming state node slots gathered := by
  induction slots generalizing gathered with
  | nil => rfl
  | cons slot slots ih =>
      unfold gatherSlots
      simp only [h, ih]

namespace Rewired

theorem node?_eq (h : Rewired graph other) (id : String) : other.node? id = graph.node? id := by
  rw [GraphSpec.node?, GraphSpec.node?, h.nodes]

theorem scheduledIds_eq (h : Rewired graph other) : scheduledIds other = scheduledIds graph := by
  have hsub : ∀ id, id ∈ subNodeReferencedIds other ↔ id ∈ subNodeReferencedIds graph :=
    fun id => ((h.edges.filterMap _).map SubNodeEdge.fromNode).mem_iff
  unfold scheduledIds
  simp only [h.nodes, hsub]

theorem startRound_eq (h : Rewired graph other)
    (hunique : (graph.dataEdges.map DataEdge.target).Nodup) (state : SchedulerState) :
    startRound other registry state = startRound graph registry state := by
  have hgather : ∀ state id, gatherInputs other registry state id =
      gatherInputs graph registry state id := by
    intro state id
    unfold gatherInputs
    simp only [h.node?_eq, gather_slots_eq (h.incoming_eq hunique)]
  have hpass : ∀ ids state ready, passNodes other registry ids state ready =
      passNodes graph registry ids state ready := by
    intro ids
    induction ids with
    | nil => exact fun _ _ => rfl
    | cons id ids ih =>
        intro state ready
        unfold passNodes
        simp only [hgather, ih]
  exact hpass state.pending state []

theorem executeReady_eq (h : Rewired graph other)
    (hsame : SameBehaviour execute resources resources') (runId : String) :
    executeReady runtime execute other registry resources' runId =
      executeReady runtime execute graph registry resources runId := by
  funext ready
  unfold executeReady executeNode
  simp only [h.node?_eq, hsame _ _ _]

theorem finishRound_eq (h : Rewired graph other) (executed : List Executed)
    (state : SchedulerState) : finishRound observers other registry executed state =
      finishRound observers graph registry executed state := by
  have hslot : ∀ id, resultSlotOf other registry id = resultSlotOf graph registry id := by
    intro id
    rw [resultSlotOf, resultSlotOf, h.node?_eq]
  induction executed generalizing state with
  | nil => rfl
  | cons head rest ih =>
      unfold finishRound SchedulerState.absorb
      simp only [hslot, ih]

/-- The main loop does the same on a rewired graph, if every slot has one edge. -/
theorem schedule_eq (h : Rewired graph other)
    (hunique : (graph.dataEdges.map DataEdge.target).Nodup)
    (hsame : SameBehaviour execute resources resources') (runId : String) (fuel : Nat)
    (state : SchedulerState) :
    schedule runtime observers execute other registry resources' runId fuel state =
      schedule runtime observers execute graph registry resources runId fuel state := by
  induction fuel generalizing state with
  | zero => rfl
  | succ fuel ih =>
      unfold schedule
      simp only [h.startRound_eq hunique, h.executeReady_eq hsame, h.finishRound_eq, ih]

/-- A run of a rewired graph is the same run, if every slot has one edge. -/
theorem runGraphAsync_eq (h : Rewired graph other)
    (hunique : (graph.dataEdges.map DataEdge.target).Nodup)
    (hsame : SameBehaviour execute resources resources') (runId : String) :
    runGraphAsync runtime observers execute other registry resources' runId =
      runGraphAsync runtime observers execute graph registry resources runId := by
  unfold runGraphAsync initialState
  simp only [h.scheduledIds_eq, h.schedule_eq hunique hsame]

end Rewired

/-- No two data edges end in the same slot, the table of fed slots holds every data edge, and
every order of the edges gives the same run, whatever the bodies do and whatever effects they
have. -/
structure OneEdgePerSlot (graph : GraphSpec) (registry : NodeRegistry Body) : Prop where
  unique : (graph.dataEdges.map DataEdge.target).Nodup
  kept : ∀ edge ∈ graph.dataEdges, (incomingBySlot graph).get? edge.target = some edge
  sameRun : ∀ other, Rewired graph other → ∀ (m : Type → Type) [Monad m] (runtime : Runtime m)
    (observers : Observers m) (execute : Body → ExecutionContext → m (Except Raised NodeResult))
    (resources resources' : Resources), SameBehaviour execute resources resources' → ∀ runId,
      runGraphAsync runtime observers execute other registry resources' runId =
        runGraphAsync runtime observers execute graph registry resources runId

/-- A graph has one edge per input slot exactly if its data edges can be drawn on the canvas in
their order. -/
theorem one_edge_per_slot_iff (graph : GraphSpec) (registry : NodeRegistry Body) :
    OneEdgePerSlot graph registry ↔ drawEdges [] graph.dataEdges = true := by
  rw [draw_edges_iff]
  constructor
  · exact fun h => ⟨h.unique, fun _ _ => List.not_mem_nil⟩
  · intro h
    refine ⟨h.1, fun edge hedge => ?_, ?_⟩
    · exact (get?_incomingBySlot _ _ _).trans ((lastEdgeInto_eq_some_iff h.1).mpr ⟨hedge, rfl, rfl⟩)
    · intro other hother m _ runtime observers execute resources resources' hsame runId
      exact hother.runGraphAsync_eq h.1 hsame runId

end

/-! ### Two edges into one slot -/

/-- Two texts that both go to the one input of an output node. -/
def twoTextsGraph (edges : List EdgeSpec) : GraphSpec where
  version := "1.0"
  nodes := [{ id := "first", type := "text_input", config := .ofList [("value", .str "one")] },
    { id := "second", type := "text_input", config := .ofList [("value", .str "two")] },
    { id := "out", type := "text_output" }]
  edges
  nodupIds := show ["first", "second", "out"].Nodup by decide

/-- The two edges. -/
def twoTextsEdges : List EdgeSpec :=
  [.data ⟨"first", "text", "out", "text"⟩, .data ⟨"second", "text", "out", "text"⟩]

/-- The result of a run of the graph. -/
def twoTextsResult (edges : List EdgeSpec) : Option Json :=
  match (Program.play (helloAnswers []) (runGraphAsync programRuntime (Observers.none _)
      (fun body ctx => (execute anthropicEnvironment 1 body ctx).run) (twoTextsGraph edges)
      anthropicEnvironment.registry (withGraph {} (twoTextsGraph edges)) "run")).2 with
  | .ok run => run.result.get? "out"
  | .error _ => none

/-- Either order of the edges is accepted, and each loses another text. -/
theorem two_texts_one_slot :
    validateGraph (twoTextsGraph twoTextsEdges) anthropicEnvironment.registry [] none .empty =
      .ok () ∧
    validateGraph (twoTextsGraph twoTextsEdges.reverse) anthropicEnvironment.registry [] none
      .empty = .ok () ∧
    Rewired (twoTextsGraph twoTextsEdges) (twoTextsGraph twoTextsEdges.reverse) ∧
    twoTextsResult twoTextsEdges = some (.str "two") ∧
    twoTextsResult twoTextsEdges.reverse = some (.str "one") ∧
    ¬ OneEdgePerSlot (twoTextsGraph twoTextsEdges) anthropicEnvironment.registry := by
  refine ⟨by decide +kernel, by decide +kernel, ⟨rfl, List.reverse_perm _⟩, by decide +kernel,
    by decide +kernel, fun h => ?_⟩
  exact absurd h.unique (by decide +kernel)

end AgentGraphStudio
