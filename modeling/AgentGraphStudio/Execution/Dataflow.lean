import AgentGraphStudio.Lib.Dataflow
import AgentGraphStudio.Execution.Scheduling

/-!
# The scheduler and the dataflow of a graph

What a graph computes can be said without rounds: run the scheduled nodes one at a time, each after
the sources of its data edges, and leave out a node with a required slot that has no value
(`evaluateGraph`). The rounds of the engine never leave this evaluation: whatever has finished did
there what it did in the run, and a run that stops has done all of it if and only if nothing was
left that could become ready (`scheduler_evaluates`).
-/

namespace AgentGraphStudio

open Dataflow (Decided ReadsOnly SourcesFirst runInOrder)

/-! ## Evaluation in sequence -/

/-- What a node did: its inputs, its outputs and its error. -/
structure NodeRun where
  inputs : Config
  outputs : Config
  error : Option String

/-- What a node did on its inputs, by the outcome of its body. -/
def NodeRun.of (inputs : Config) : Except Raised NodeResult → NodeRun
  | .ok nodeResult => ⟨inputs, nodeResult.outputs, none⟩
  | .error (.exception message) => ⟨inputs, .empty, some message⟩
  -- Any other exception leaves the engine, which ends the run.
  | .error _ => ⟨inputs, .empty, some ""⟩

section

variable (graph : GraphSpec) (registry : NodeRegistry PureBody) (resources : Resources)

/-- The value of a slot when the other nodes did this. -/
def readSlot (env : String → Option NodeRun) (node : NodeSpec) (slot : String) : Option Json :=
  match lastEdgeInto graph node.id slot with
  | some edge => (env edge.fromNode).bind fun run => run.outputs.get? edge.fromSlot
  | none => node.inputValues.get? slot

/-- What a node does when the other nodes did this: nothing, unless all its required slots have a
value. -/
def evaluateNode (id : String) (env : String → Option NodeRun) : Option NodeRun :=
  (graph.node? id).bind fun node => (registry.get node.type).bind fun definition =>
    let slots := gatheredSlots definition node
    if slots.all fun slot => !slot.required || (readSlot graph env node slot.name).isSome then
      let inputs := collectInputs (readSlot graph env node) slots .empty
      some (.of inputs (definition.execute ⟨node, .dict inputs, resources⟩))
    else none

/-- Run the nodes one at a time. -/
def evaluateGraph (order : List String) : String → Option NodeRun :=
  runInOrder (evaluateNode graph registry resources) order fun _ => none

/-- A data edge leads from the one node to the other. -/
def ReadsNode (id source : String) : Prop :=
  ∃ edge ∈ graph.dataEdges, edge.toNode = id ∧ edge.fromNode = source

instance (id source : String) : Decidable (ReadsNode graph id source) :=
  inferInstanceAs (Decidable (∃ edge ∈ graph.dataEdges, _))

/-- An order of the scheduled nodes in which each comes after the nodes it reads. -/
structure EvaluationOrder (order : List String) : Prop where
  scheduled : order.Perm (scheduledIds graph)
  first : order.Pairwise fun earlier later => ¬ ReadsNode graph earlier later

end

/-- What a node did in a run. -/
def runOf (trace : List TraceRecord) (id : String) : Option NodeRun :=
  (trace.find? fun record => record.nodeId = id).map fun record =>
    ⟨record.inputs, record.outputs, record.error⟩

/-- The result of a node that did this: the value of its result slot, unless it failed. -/
def denotedResult (graph : GraphSpec) (registry : NodeRegistry PureBody)
    (env : String → Option NodeRun) (id : String) : Option Json :=
  (env id).bind fun run =>
    if run.error.isSome then none else (resultSlotOf graph registry id).bind run.inputs.get?

/-- A node without a record did nothing. -/
theorem runOf_of_notMem {trace : List TraceRecord} {id : String}
    (h : id ∉ trace.map TraceRecord.nodeId) : runOf trace id = none := by
  have hfind : trace.find? (fun record => record.nodeId = id) = none := by
    rw [List.find?_eq_none]
    intro record hrecord hsame
    exact h (List.mem_map.mpr ⟨record, hrecord, by simpa using hsame⟩)
  rw [runOf, hfind]
  rfl

variable {graph : GraphSpec} {registry : NodeRegistry PureBody} {resources : Resources}

theorem readSlot_congr {env other : String → Option NodeRun} {node : NodeSpec} {slot : String}
    (h : ∀ edge, lastEdgeInto graph node.id slot = some edge →
      env edge.fromNode = other edge.fromNode) :
    readSlot graph env node slot = readSlot graph other node slot := by
  unfold readSlot
  cases hedge : lastEdgeInto graph node.id slot with
  | none => rfl
  | some edge => simp only [h edge hedge]

/-- A node that is defined runs when its required slots have values. -/
theorem evaluateNode_eq_some {id : String} {env : String → Option NodeRun} {node : NodeSpec}
    {definition : NodeDefinition PureBody} (hdefines : Defines graph registry id node definition)
    (h : ∀ slot ∈ gatheredSlots definition node, slot.required = true →
      (readSlot graph env node slot.name).isSome) :
    evaluateNode graph registry resources id env =
      some (.of (collectInputs (readSlot graph env node) (gatheredSlots definition node) .empty)
        (definition.execute ⟨node, .dict (collectInputs (readSlot graph env node)
          (gatheredSlots definition node) .empty), resources⟩)) := by
  have hall : ((gatheredSlots definition node).all fun slot =>
      !slot.required || (readSlot graph env node slot.name).isSome) = true := by
    rw [List.all_eq_true]
    intro slot hslot
    cases hreq : slot.required with
    | false => rfl
    | true => simpa using h slot hslot hreq
  unfold evaluateNode
  simp only [hdefines.found, hdefines.typed, Option.bind_some, hall, if_true]

/-- A node does nothing when a required slot has no value. -/
theorem evaluateNode_eq_none {id : String} {env : String → Option NodeRun} {node : NodeSpec}
    {definition : NodeDefinition PureBody} (hdefines : Defines graph registry id node definition)
    {slot : InputSlotSpec} (hslot : slot ∈ gatheredSlots definition node)
    (hreq : slot.required = true) (hnone : readSlot graph env node slot.name = none) :
    evaluateNode graph registry resources id env = none := by
  have hall : ((gatheredSlots definition node).all fun slot =>
      !slot.required || (readSlot graph env node slot.name).isSome) = false := by
    rw [List.all_eq_false]
    exact ⟨slot, hslot, by simp [hreq, hnone]⟩
  unfold evaluateNode
  simp only [hdefines.found, hdefines.typed, Option.bind_some, hall, Bool.false_eq_true, if_false]

/-- What a node does depends on the sources of its data edges only. -/
theorem evaluateNode_reads :
    ReadsOnly (ReadsNode graph) (evaluateNode graph registry resources) := by
  intro id env other h
  unfold evaluateNode
  cases hnode : graph.node? id with
  | none => rfl
  | some node =>
      obtain rfl := (GraphSpec.mem_of_node? hnode).2
      have hslots : readSlot graph env node = readSlot graph other node := by
        funext slot
        refine readSlot_congr fun edge hedge => ?_
        obtain ⟨hmem, hto, -⟩ := lastEdgeInto_some hedge
        exact h _ ⟨edge, hmem, hto, rfl⟩
      simp only [Option.bind_some, hslots]

/-! ## Runs of the engine -/

section

variable {state : SchedulerState}

namespace SchedulerInvariant

variable (h : SchedulerInvariant graph registry (behaves registry resources) state)
include h

/-- A record of the trace is what its node did. -/
theorem runOf_record {record : TraceRecord} (hrecord : record ∈ state.trace) :
    runOf state.trace record.nodeId = some ⟨record.inputs, record.outputs, record.error⟩ := by
  have hfind : state.trace.find? (fun other => other.nodeId = record.nodeId) = some record := by
    cases hfind : state.trace.find? fun other => other.nodeId = record.nodeId with
    | none => exact (List.find?_eq_none.mp hfind record hrecord (by simp)).elim
    | some other =>
        have hsame : other.nodeId = record.nodeId := by simpa using List.find?_some hfind
        rw [List.inj_on_of_nodup_map h.traceNodup (List.mem_of_find?_eq_some hfind) hrecord hsame]
  rw [runOf, hfind]
  rfl

/-- A slot has the value that the node its edge starts at gave it. -/
theorem slotValue_eq_readSlot {env : String → Option NodeRun} {node : NodeSpec} {slot : String}
    (hsource : ∀ edge, lastEdgeInto graph node.id slot = some edge →
      env edge.fromNode = runOf state.trace edge.fromNode) :
    slotValue graph state node slot = readSlot graph env node slot := by
  rw [slotValue, readSlot]
  cases hedge : lastEdgeInto graph node.id slot with
  | none => rfl
  | some edge =>
      simp only [hsource edge hedge, ← h.emitted_eq, emitted, runOf, Option.bind_map]
      rfl

/-- Finished nodes did what their finished sources decide. -/
theorem decided : Decided (ReadsNode graph) (evaluateNode graph registry resources)
    (· ∈ state.finished) (runOf state.trace) := by
  intro id hid env hsources
  have hread : ∀ {node definition}, Defines graph registry id node definition → ∀ {slot},
      Settled graph state node slot →
      slotValue graph state node slot = readSlot graph env node slot := by
    intro node definition hdefines slot hsettled
    refine h.slotValue_eq_readSlot fun edge hedge => ?_
    obtain ⟨hmem, hto, -⟩ := lastEdgeInto_some hedge
    exact hsources _ ⟨edge, hmem, by rw [hto, hdefines.id_eq], rfl⟩ (hsettled edge hedge)
  by_cases hmem : id ∈ state.trace.map TraceRecord.nodeId
  · obtain ⟨record, hrecord, rfl⟩ := List.mem_map.mp hmem
    obtain ⟨-, ⟨node, definition, hdefines, hpassed, hinputs⟩, houtcome⟩ :=
      h.recorded record hrecord
    obtain ⟨other, outcome, hother, ⟨otherDefinition, htyped, hexecuted⟩, houtcome⟩ := houtcome
    obtain ⟨rfl, rfl⟩ := hdefines.unique ⟨hother, htyped⟩
    have hcollected : record.inputs = collectInputs (readSlot graph env node)
        (gatheredSlots definition node) .empty := by
      simp only [] at hinputs
      rw [hinputs]
      exact collect_inputs_congr (fun slot hslot => hread hdefines (hpassed slot hslot).settled) _
    have hrequired : ∀ slot ∈ gatheredSlots definition node, slot.required = true →
        (readSlot graph env node slot.name).isSome := by
      intro slot hslot hreq
      rw [← hread hdefines (hpassed slot hslot).settled]
      exact (hpassed slot hslot).satisfied hreq
    rw [evaluateNode_eq_some hdefines hrequired, h.runOf_record hrecord, ← hcollected, hexecuted]
    cases outcome with
    | ok nodeResult => rw [NodeRun.of, houtcome.1, houtcome.2]
    | error raised =>
        obtain ⟨message, rfl, houtputs, herror⟩ := houtcome
        rw [NodeRun.of, houtputs, herror]
  · obtain ⟨node, definition, hdefines, slot, hslot, hreq, hsettled, hnone⟩ := h.skipped id hid hmem
    rw [hread hdefines hsettled] at hnone
    rw [evaluateNode_eq_none hdefines hslot hreq hnone, runOf_of_notMem hmem]

/-- A node that is not finished did nothing. -/
theorem runOf_eq_none {id : String} (hid : id ∉ state.finished) : runOf state.trace id = none := by
  refine runOf_of_notMem fun hmem => ?_
  obtain ⟨record, hrecord, rfl⟩ := List.mem_map.mp hmem
  exact hid (h.recorded record hrecord).1

/-- The results are those of the nodes that ran without an error. -/
theorem result_eq (id : String) :
    state.result.get? id = denotedResult graph registry (runOf state.trace) id := by
  refine Option.ext fun value => ?_
  rw [h.results, denotedResult, Option.bind_eq_some_iff]
  constructor
  · rintro ⟨record, hrecord, rfl, herror, slot, hslot, hvalue⟩
    exact ⟨_, h.runOf_record hrecord, by simp [herror, hslot, hvalue]⟩
  · rintro ⟨run, hrun, hvalue⟩
    obtain ⟨record, hfind, rfl⟩ := Option.map_eq_some_iff.mp hrun
    have hid : record.nodeId = id := by simpa using List.find?_some hfind
    cases herror : record.error with
    | some message => simp [herror] at hvalue
    | none =>
        simp only [herror, Option.isSome_none, Bool.false_eq_true, if_false,
          Option.bind_eq_some_iff] at hvalue
        obtain ⟨slot, hslot, hget⟩ := hvalue
        exact ⟨record, List.mem_of_find?_eq_some hfind, hid, herror, slot, hslot, hget⟩

end SchedulerInvariant

end

/-! ## Agreement -/

section

variable {state : SchedulerState} {order : List String}

/-- No node reads itself, so each node of an order has its sources before it. -/
theorem EvaluationOrder.sourcesFirst (hformed : WellFormed graph registry)
    (h : EvaluationOrder graph order) : SourcesFirst (ReadsNode graph) order where
  nodup := h.scheduled.nodup_iff.mpr (graph.nodupIds.filter _)
  apart := by
    rintro id - ⟨edge, hedge, hto, hfrom⟩
    have hlt := hformed.idxOf_lt hedge
    rw [hto, hfrom] at hlt
    exact absurd hlt (Nat.lt_irrefl _)
  first := h.first

/-- An accepted graph has an evaluation order: the topological one, less the sub-nodes. -/
theorem kahn_evaluation_order (hformed : WellFormed graph registry) :
    EvaluationOrder graph ((kahnOrder (graph.nodes.map NodeSpec.id) graph.dataEdges).1.filter
      fun id => id ∉ subNodeReferencedIds graph) := by
  have hspec := kahn_order_spec graph.nodupIds graph.dataEdges
  have hempty : (kahnOrder (graph.nodes.map NodeSpec.id) graph.dataEdges).2 = [] :=
    check_cycles_eq_nil_iff.mp hformed.cycles
  have hmem : ∀ id, id ∈ (kahnOrder (graph.nodes.map NodeSpec.id) graph.dataEdges).1 ↔
      id ∈ graph.nodes.map NodeSpec.id := by
    refine fun id => ⟨hspec.known id, fun hid => ?_⟩
    by_contra hout
    have hremaining := (hspec.remaining_iff id).mpr ⟨hid, hout⟩
    rw [hempty] at hremaining
    cases hremaining
  refine ⟨List.Perm.filter _
    ((List.perm_ext_iff_of_nodup hspec.nodup graph.nodupIds).mpr hmem), ?_⟩
  refine List.Pairwise.filter _ (List.pairwise_iff_getElem.mpr ?_)
  rintro i j hi hj hlt ⟨edge, hedge, hto, hfrom⟩
  have hindex := hformed.idxOf_lt hedge
  rw [hto, hfrom, hspec.nodup.idxOf_getElem i hi, hspec.nodup.idxOf_getElem j hj] at hindex
  omega

/-- Evaluation solves the equations of the scheduled nodes. -/
theorem evaluateGraph_eq (hformed : WellFormed graph registry) (h : EvaluationOrder graph order)
    {id : String} (hid : id ∈ scheduledIds graph) :
    evaluateGraph graph registry resources order id =
      evaluateNode graph registry resources id (evaluateGraph graph registry resources order) :=
  Dataflow.runInOrder_eq evaluateNode_reads (h.sourcesFirst hformed) _
    (h.scheduled.mem_iff.mpr hid)

/-- A node that is not scheduled does nothing. -/
theorem evaluateGraph_of_not_scheduled (h : EvaluationOrder graph order) {id : String}
    (hid : id ∉ scheduledIds graph) : evaluateGraph graph registry resources order id = none :=
  Dataflow.runInOrder_of_notMem (fun hmem => hid (h.scheduled.mem_iff.mp hmem)) _

/-- A finished node did what it does in the evaluation. -/
theorem SchedulerInvariant.finished_agree (hformed : WellFormed graph registry)
    (horder : EvaluationOrder graph order)
    (h : SchedulerInvariant graph registry (behaves registry resources) state) {id : String}
    (hid : id ∈ state.finished) :
    runOf state.trace id = evaluateGraph graph registry resources order id := by
  refine h.decided.agrees (kahnOrder (graph.nodes.map NodeSpec.id) graph.dataEdges).1.idxOf
    ?_ ?_ hid
  · rintro _ _ ⟨edge, hedge, rfl, rfl⟩
    exact hformed.idxOf_lt hedge
  · intro id hid
    exact evaluateGraph_eq hformed horder ((h.scheduled id).mpr (Or.inr hid))

/-- A run has done the whole evaluation if and only if nothing left can become ready. -/
theorem SchedulerInvariant.evaluated_iff_stuck (hformed : WellFormed graph registry)
    (horder : EvaluationOrder graph order)
    (h : SchedulerInvariant graph registry (behaves registry resources) state) :
    (∀ id, runOf state.trace id = evaluateGraph graph registry resources order id) ↔
      Stuck graph registry state := by
  have hunfinished : ∀ id ∈ state.pending, runOf state.trace id = none :=
    fun id hid => h.runOf_eq_none fun hfinished => h.disjoint id hfinished hid
  constructor
  · intro hall id hid node definition hdefines
    have hnone := (hall id).symm.trans (hunfinished id hid)
    rw [evaluateGraph_eq hformed horder ((h.scheduled id).mpr (Or.inl hid))] at hnone
    by_contra hready
    push Not at hready
    have hvalues : ∀ slot ∈ gatheredSlots definition node, slot.required = true →
        (readSlot graph (evaluateGraph graph registry resources order) node slot.name).isSome := by
      intro slot hslot hreq
      rw [← h.slotValue_eq_readSlot fun edge _ => (hall edge.fromNode).symm]
      exact Option.ne_none_iff_isSome.mp (hready slot hslot hreq)
    rw [evaluateNode_eq_some hdefines hvalues] at hnone
    cases hnone
  · intro hstuck id
    -- The sources of a node come before it in the topological order.
    induction hrank : (kahnOrder (graph.nodes.map NodeSpec.id) graph.dataEdges).1.idxOf id
      using Nat.strongRecOn generalizing id with
    | ind rank ih =>
        by_cases hfinished : id ∈ state.finished
        · exact h.finished_agree hformed horder hfinished
        · rw [h.runOf_eq_none hfinished]
          by_cases hid : id ∈ scheduledIds graph
          · have hpending := ((h.scheduled id).mp hid).resolve_right hfinished
            have hregistered : Registered graph registry :=
              check_unregistered_types_eq_nil_iff.mp hformed.registered
            obtain ⟨node, definition, hdefines⟩ := hregistered.defines hid
            obtain ⟨slot, hslot, hreq, hnone⟩ := hstuck id hpending node definition hdefines
            rw [h.slotValue_eq_readSlot fun edge hedge => ?_] at hnone
            · rw [evaluateGraph_eq hformed horder hid,
                evaluateNode_eq_none hdefines hslot hreq hnone]
            · obtain ⟨hmem, hto, -⟩ := lastEdgeInto_some hedge
              rw [hdefines.id_eq] at hto
              have hlt := hformed.idxOf_lt hmem
              rw [hto, hrank] at hlt
              exact (ih _ hlt _ rfl).symm
          · exact (evaluateGraph_of_not_scheduled horder hid).symm

/-- The rounds of the engine compute what running the nodes one at a time computes, in whatever
order with sources first. In every round of every run, what has finished did what it does there and
has the result it has there. A run that stops is the whole evaluation if and only if nothing left
can become ready. -/
theorem scheduler_evaluates {store : ConnectionStore} {userId : Option String}
    {slotMappings : Dict String String}
    (haccepted : validateGraph graph registry store userId slotMappings = .ok ())
    (horder : EvaluationOrder graph order) :
    (∀ count state, Rounds graph registry (behaves registry resources) count state →
      ∀ id ∈ state.finished,
        runOf state.trace id = evaluateGraph graph registry resources order id ∧
        state.result.get? id =
          denotedResult graph registry (evaluateGraph graph registry resources order) id) ∧
    ∀ now uuid runId final, finalState graph registry resources now uuid runId = .ok final →
      ((∀ id, runOf final.trace id = evaluateGraph graph registry resources order id ∧
          final.result.get? id =
            denotedResult graph registry (evaluateGraph graph registry resources order) id) ↔
        Stuck graph registry final) := by
  have hformed := (validate_graph_ok_iff.mp haccepted).1
  have hresult : ∀ state : SchedulerState, ∀ id,
      SchedulerInvariant graph registry (behaves registry resources) state →
      runOf state.trace id = evaluateGraph graph registry resources order id →
      state.result.get? id =
        denotedResult graph registry (evaluateGraph graph registry resources order) id := by
    intro state id h hrun
    rw [h.result_eq, denotedResult, denotedResult, hrun]
  refine ⟨fun count state hrounds id hid => ?_, fun now uuid runId final hfinal => ?_⟩
  · have hrun := hrounds.invariant.1.finished_agree hformed horder hid
    exact ⟨hrun, hresult state id hrounds.invariant.1 hrun⟩
  · have h := (final_state_stops hfinal).invariant
    rw [← h.evaluated_iff_stuck hformed horder]
    exact ⟨fun hall id => (hall id).1, fun hall id => ⟨hall id, hresult final id h (hall id)⟩⟩

/-- A graph that is listed upstream first, with no data edge from a sub-node, is evaluated as a
whole. -/
theorem upstream_first_evaluates (hformed : WellFormed graph registry)
    (hshared : NoSharedSource graph) (hupstream : UpstreamFirst graph)
    (horder : EvaluationOrder graph order) {now uuid runId : String} {final : SchedulerState}
    (hfinal : finalState graph registry resources now uuid runId = .ok final) (id : String) :
    runOf final.trace id = evaluateGraph graph registry resources order id := by
  have hstops := final_state_stops hfinal
  have h := hstops.invariant
  obtain ⟨_, last, hlast, hstart⟩ := hstops
  have hinorder := in_order_of_upstream_first hformed hupstream hlast.invariant.1
  have hempty := (empty_exit_iff (hshared.scheduled hformed) hlast.invariant.1 hstart).mpr hinorder
  refine (h.evaluated_iff_stuck hformed horder).mpr (fun id hid => ?_) id
  rw [hempty] at hid
  cases hid

/-- In either order of the nodes there is one evaluation order. -/
theorem optional_input_order :
    EvaluationOrder upstreamFirst ["silent", "relay", "greeter"] ∧
    EvaluationOrder downstreamFirst ["silent", "relay", "greeter"] :=
  ⟨⟨by decide, by decide⟩, ⟨by decide, by decide⟩⟩

/-- The loop that stops early has not done the whole evaluation. -/
theorem downstream_first_evaluates :
    ¬ ∀ id, runOf downstreamFirstFinal.trace id =
        evaluateGraph downstreamFirst optionalInputTypes {} ["silent", "relay", "greeter"] id ∧
      downstreamFirstFinal.result.get? id = denotedResult downstreamFirst optionalInputTypes
        (evaluateGraph downstreamFirst optionalInputTypes {} ["silent", "relay", "greeter"])
        id := by
  have haccepted : validateGraph downstreamFirst optionalInputTypes [] none .empty = .ok () := rfl
  have hfinal : finalState downstreamFirst optionalInputTypes {} "now" "uuid" "run" =
      .ok downstreamFirstFinal := rfl
  rw [(scheduler_evaluates haccepted optional_input_order.2).2 "now" "uuid" "run" _ hfinal]
  intro hstuck
  obtain ⟨slot, hslot, hreq, -⟩ := hstuck "greeter" (by simp [downstreamFirstFinal])
    { id := "greeter", type := "greeter" } _ ⟨rfl, rfl⟩
  obtain rfl := List.mem_singleton.mp hslot
  cases hreq

end

end AgentGraphStudio
