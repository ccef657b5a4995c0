import AgentGraphStudio.Execution.Gather

/-!
# Scheduler rounds

`SchedulerInvariant` says what the scheduler's variables mean: which nodes have run, on which
inputs, and why a finished node without a record was skipped. A pass keeps it
(`pass_nodes_spec`), taking over an executed node keeps it (`SchedulerInvariant.absorb`), and
so does every round. `Rounds` are the states at the start of a round, for any outcomes of
the bodies, and `schedule_stops` connects them to the main loop.
-/

namespace AgentGraphStudio

variable {Body : Type}

/-- The outcomes a run allows for a body, given its node and inputs. -/
abbrev Possible := NodeSpec → Config → Except Raised NodeResult → Prop

section

variable (graph : GraphSpec) (registry : NodeRegistry Body) (possible : Possible)

/-- A node of the graph with its definition. -/
structure Defines (id : String) (node : NodeSpec) (definition : NodeDefinition Body) : Prop where
  found : graph.node? id = some node
  typed : registry.get node.type = some definition

/-- The node can run on these inputs: all its slots are passed and the inputs are exactly
the slots with a value. -/
def ReadyAt (state : SchedulerState) (ready : Ready) : Prop :=
  ∃ node definition, Defines graph registry ready.1 node definition ∧
    (∀ slot ∈ gatheredSlots definition node, Passed graph state node slot) ∧
    ready.2 = collectInputs (slotValue graph state node) (gatheredSlots definition node) .empty

/-- The node can never run: a required slot will have no value. -/
def SkippedAt (state : SchedulerState) (id : String) : Prop :=
  ∃ node definition, Defines graph registry id node definition ∧
    ∃ slot ∈ gatheredSlots definition node, slot.required = true ∧
      Settled graph state node slot.name ∧ slotValue graph state node slot.name = none

/-- The record describes an allowed outcome of its node's body on the recorded inputs. -/
def RecordsOutcome (record : TraceRecord) : Prop :=
  ∃ node outcome, graph.node? record.nodeId = some node ∧
    possible node record.inputs outcome ∧
    match outcome with
    | .ok nodeResult => record.outputs = nodeResult.outputs ∧ record.error = none
    | .error raised => ∃ message, raised = .exception message ∧
        record.outputs = .empty ∧ record.error = some message

/-- What the scheduler's variables mean. -/
structure SchedulerInvariant (state : SchedulerState) : Prop where
  pendingSublist : state.pending.Sublist (scheduledIds graph)
  scheduled : ∀ id, id ∈ scheduledIds graph ↔ id ∈ state.pending ∨ id ∈ state.finished
  disjoint : ∀ id ∈ state.finished, id ∉ state.pending
  traceNodup : (state.trace.map TraceRecord.nodeId).Nodup
  available : ∀ source slot value, state.available.get? (source, slot) = some value ↔
    ∃ record ∈ state.trace, record.nodeId = source ∧ record.outputs.get? slot = some value
  recorded : ∀ record ∈ state.trace, record.nodeId ∈ state.finished ∧
    ReadyAt graph registry state (record.nodeId, record.inputs) ∧
    RecordsOutcome graph possible record
  skipped : ∀ id ∈ state.finished, id ∉ state.trace.map TraceRecord.nodeId →
    SkippedAt graph registry state id
  results : ∀ id value, state.result.get? id = some value ↔
    ∃ record ∈ state.trace, record.nodeId = id ∧ record.error = none ∧
      ∃ slot, resultSlotOf graph registry id = some slot ∧ record.inputs.get? slot = some value

end

variable {graph : GraphSpec} {registry : NodeRegistry Body} {possible : Possible}
  {state later : SchedulerState}

theorem ReadyAt.extends (h : Extends state later) {ready : Ready}
    (hready : ReadyAt graph registry state ready) : ReadyAt graph registry later ready := by
  obtain ⟨node, definition, hdefines, hpassed, hinputs⟩ := hready
  refine ⟨node, definition, hdefines, fun slot hslot => h.passed (hpassed slot hslot), ?_⟩
  rw [hinputs]
  exact collect_inputs_congr (fun slot hslot => (h.slot_value (hpassed slot hslot).settled).symm)
    _

theorem SkippedAt.extends (h : Extends state later) {id : String}
    (hskipped : SkippedAt graph registry state id) : SkippedAt graph registry later id := by
  obtain ⟨node, definition, hdefines, slot, hslot, hreq, hsettled, hmissing⟩ := hskipped
  exact ⟨node, definition, hdefines, slot, hslot, hreq, h.settled hsettled,
    by rw [h.slot_value hsettled, hmissing]⟩

namespace SchedulerInvariant

theorem pendingNodup (h : SchedulerInvariant graph registry possible state) :
    state.pending.Nodup :=
  h.pendingSublist.nodup (graph.nodupIds.filter _)

theorem available_finished (h : SchedulerInvariant graph registry possible state) :
    AvailableFinished state := by
  intro source slot value hvalue
  obtain ⟨record, hrecord, rfl, _⟩ := (h.available source slot value).mp hvalue
  exact (h.recorded record hrecord).1

/-- A pending node has no record. -/
theorem pending_not_recorded (h : SchedulerInvariant graph registry possible state)
    {id : String} (hid : id ∈ state.pending) : id ∉ state.trace.map TraceRecord.nodeId := by
  intro hmem
  obtain ⟨record, hrecord, rfl⟩ := List.mem_map.mp hmem
  exact h.disjoint _ (h.recorded record hrecord).1 hid

end SchedulerInvariant

/-- Before the first round nothing has finished. -/
theorem initial_invariant (graph : GraphSpec) (registry : NodeRegistry Body)
    (possible : Possible) :
    SchedulerInvariant graph registry possible (initialState graph) where
  pendingSublist := List.Sublist.refl _
  scheduled := by simp [initialState]
  disjoint := by simp [initialState]
  traceNodup := by simp [initialState]
  available := by simp [initialState]
  recorded := by simp [initialState]
  skipped := by simp [initialState]
  results := by simp [initialState]

/-! ## One pass -/

/-- Skipping a blocked node keeps the invariant. -/
theorem SchedulerInvariant.skip (h : SchedulerInvariant graph registry possible state)
    {id : String} (hid : id ∈ state.pending) (hskipped : SkippedAt graph registry state id) :
    let next := { state with
      pending := state.pending.erase id
      finished := state.finished ++ [id] }
    Extends state next ∧ SchedulerInvariant graph registry possible next := by
  intro next
  have hextends : Extends state next :=
    ⟨fun other hother => List.mem_append_left [id] hother, fun _ _ _ => rfl⟩
  refine ⟨hextends, ?_⟩
  constructor
  · exact List.erase_sublist.trans h.pendingSublist
  · intro other
    rw [h.scheduled other]
    simp only [next, h.pendingNodup.mem_erase_iff, List.mem_append, List.mem_singleton]
    by_cases hother : other = id <;> simp [hother, hid]
  · intro other hother
    rw [h.pendingNodup.mem_erase_iff]
    rcases List.mem_append.mp hother with hother | hother
    · exact fun hmem => h.disjoint other hother hmem.2
    · exact fun hmem => hmem.1 (List.mem_singleton.mp hother)
  · exact h.traceNodup
  · exact h.available
  · intro record hrecord
    obtain ⟨hfinished, hready, houtcome⟩ := h.recorded record hrecord
    exact ⟨hextends.finished _ hfinished, hready.extends hextends, houtcome⟩
  · intro other hother htrace
    rcases List.mem_append.mp hother with hother | hother
    · exact (h.skipped other hother htrace).extends hextends
    · rw [List.mem_singleton.mp hother]
      exact hskipped.extends hextends
  · exact h.results

/-- What a pass over the nodes `ids` has established when it reaches `later`. -/
structure PassSpec (graph : GraphSpec) (registry : NodeRegistry Body) (possible : Possible)
    (state later : SchedulerState) (ready : List Ready) : Prop where
  invariant : SchedulerInvariant graph registry possible later
  grows : Extends state later
  trace : later.trace = state.trace
  available : later.available = state.available
  result : later.result = state.result
  pending : ∀ id ∈ later.pending, id ∈ state.pending
  readyNodup : (ready.map Prod.fst).Nodup
  readyAt : ∀ entry ∈ ready, entry.1 ∈ later.pending ∧ ReadyAt graph registry later entry

/-- The verdict on a registered node of the graph. -/
theorem gather_inputs_spec (h : SchedulerInvariant graph registry possible state) {id : String}
    {verdict : Gathered} (hgather : gatherInputs graph registry state id = .ok verdict) :
    ∃ node definition, Defines graph registry id node definition ∧
      GatherSpec graph state node (gatheredSlots definition node) .empty verdict := by
  rw [gatherInputs] at hgather
  split at hgather
  · cases hgather
  · rename_i node hnode
    split at hgather
    · cases hgather
    · rename_i definition hdefinition
      cases hgather
      exact ⟨node, definition, ⟨hnode, hdefinition⟩,
        gather_slots_spec h.available_finished node _ _⟩

/-- A pass keeps the invariant and collects nodes that can run. -/
theorem pass_nodes_spec {start : SchedulerState} {ids : List String} {ready ready' : List Ready}
    (hspec : PassSpec graph registry possible start state ready) (hids : ids.Nodup)
    (hpending : ∀ id ∈ ids, id ∈ state.pending) (hfresh : ∀ id ∈ ids, id ∉ ready.map Prod.fst)
    (hpass : passNodes graph registry ids state ready = .ok (later, ready')) :
    PassSpec graph registry possible start later ready' := by
  induction ids generalizing state ready with
  | nil =>
      cases hpass
      exact hspec
  | cons id ids ih =>
      rw [List.nodup_cons] at hids
      rw [List.forall_mem_cons] at hpending hfresh
      rw [passNodes] at hpass
      cases hgather : gatherInputs graph registry state id with
      | error raised => simp [hgather] at hpass
      | ok verdict =>
          obtain ⟨node, definition, hdefines, hverdict⟩ :=
            gather_inputs_spec hspec.invariant hgather
          rw [hgather] at hpass
          -- A ready node stays pending until the round is over, and a blocked one leaves at once.
          cases hverdict with
          | ready passed =>
              refine ih ?_ hids.2 hpending.2 ?_ hpass
              · refine { hspec with readyNodup := ?_, readyAt := ?_ }
                · rw [List.map_append, List.nodup_append']
                  exact ⟨hspec.readyNodup, List.nodup_singleton _, by simpa using hfresh.1⟩
                · intro entry hentry
                  rcases List.mem_append.mp hentry with hentry | hentry
                  · exact hspec.readyAt entry hentry
                  · rw [List.mem_singleton.mp hentry]
                    exact ⟨hpending.1, node, definition, hdefines, passed, rfl⟩
              · intro other hother hmem
                rw [List.map_append, List.mem_append] at hmem
                rcases hmem with hmem | hmem
                · exact hfresh.2 other hother hmem
                · exact hids.1 ((show other = id from List.mem_singleton.mp hmem) ▸ hother)
          | blocked before slot after split passed settled required missing =>
              obtain ⟨hextends, hinvariant⟩ := hspec.invariant.skip hpending.1
                ⟨node, definition, hdefines, slot, by simp [split], required, settled, missing⟩
              refine ih ?_ hids.2 ?_ hfresh.2 hpass
              · refine { hspec with
                  invariant := hinvariant
                  grows := hspec.grows.trans hextends
                  pending := fun other hother => hspec.pending other (List.mem_of_mem_erase hother)
                  readyAt := fun entry hentry => ?_ }
                obtain ⟨hmem, hready⟩ := hspec.readyAt entry hentry
                have hne : entry.1 ≠ id := fun heq =>
                  hfresh.1 (heq ▸ List.mem_map_of_mem (f := Prod.fst) hentry)
                exact ⟨(List.mem_erase_of_ne hne).mpr hmem, hready.extends hextends⟩
              · intro other hother
                have hne : other ≠ id := fun heq => hids.1 (heq ▸ hother)
                exact (List.mem_erase_of_ne hne).mpr (hpending.2 other hother)
          | waiting => exact ih hspec hids.2 hpending.2 hfresh.2 hpass

/-- A round's pass from a state that satisfies the invariant. -/
theorem start_round_spec (h : SchedulerInvariant graph registry possible state)
    {ready : List Ready} (hstart : startRound graph registry state = .ok (later, ready)) :
    PassSpec graph registry possible state later ready := by
  have hspec : PassSpec graph registry possible state state [] :=
    ⟨h, .refl state, rfl, rfl, rfl, fun _ hid => hid, by simp, by simp⟩
  exact pass_nodes_spec hspec h.pendingNodup (fun _ hid => hid) (by simp) hstart

/-- A pass over registered nodes does not raise. -/
theorem pass_nodes_total
    (hregistered : ∀ id ∈ scheduledIds graph, ∃ node definition,
      Defines graph registry id node definition)
    {ids : List String} (hids : ∀ id ∈ ids, id ∈ scheduledIds graph) (state : SchedulerState)
    (ready : List Ready) : ∃ outcome, passNodes graph registry ids state ready = .ok outcome := by
  induction ids generalizing state ready with
  | nil => exact ⟨_, rfl⟩
  | cons id ids ih =>
      rw [List.forall_mem_cons] at hids
      obtain ⟨node, definition, hdefines⟩ := hregistered id hids.1
      rw [passNodes, gatherInputs, hdefines.found]
      simp only [hdefines.typed]
      cases gatherSlots (incomingBySlot graph) state node (gatheredSlots definition node)
          .empty with
      | ready inputs => exact ih hids.2 _ _
      | blocked => exact ih hids.2 _ _
      | waiting => exact ih hids.2 _ _

/-! ## One executed node -/

/-- `executed` is what running a ready node yields for an allowed outcome of its body. -/
def ExecutedAs (graph : GraphSpec) (possible : Possible) (ready : Ready) (executed : Executed) :
    Prop :=
  ∃ node runId startedAt finishedAt outcome, graph.node? ready.1 = some node ∧
    possible node ready.2 outcome ∧
    recordOutcome node ready.2 runId startedAt finishedAt outcome = .ok executed

/-- The record of an executed node. -/
theorem ExecutedAs.record {ready : Ready} {executed : Executed}
    (h : ExecutedAs graph possible ready executed) :
    executed.nodeId = ready.1 ∧ executed.record.nodeId = ready.1 ∧
      executed.record.inputs = ready.2 ∧ RecordsOutcome graph possible executed.record ∧
      (∀ nodeResult, executed.nodeResult = some nodeResult →
        executed.record.outputs = nodeResult.outputs ∧ executed.record.error = none) ∧
      (executed.nodeResult = none →
        executed.record.outputs = .empty ∧ executed.record.error ≠ none) := by
  obtain ⟨node, runId, startedAt, finishedAt, outcome, hnode, hpossible, hrecord⟩ := h
  obtain ⟨hmem, hid⟩ := GraphSpec.mem_of_node? hnode
  rcases outcome with (message | message | raised) | nodeResult
  · cases hrecord
    exact ⟨hid, hid, rfl, ⟨node, _, by simpa [hid] using hnode, hpossible, message, rfl, rfl, rfl⟩,
      by simp, by simp⟩
  · cases hrecord
  · cases hrecord
  · cases hrecord
    exact ⟨hid, hid, rfl, ⟨node, _, by simpa [hid] using hnode, hpossible, rfl, rfl⟩, by simp,
      by simp⟩

/-- What taking over an executed node changes. -/
structure AbsorbSpec (graph : GraphSpec) (registry : NodeRegistry Body) (state : SchedulerState)
    (record : TraceRecord) (later : SchedulerState) : Prop where
  pending : later.pending = state.pending.erase record.nodeId
  finished : later.finished = state.finished ++ [record.nodeId]
  trace : later.trace = state.trace ++ [record]
  own : ∀ slot, later.available.get? (record.nodeId, slot) =
    (record.outputs.get? slot).or (state.available.get? (record.nodeId, slot))
  others : ∀ source, source ≠ record.nodeId → ∀ slot,
    later.available.get? (source, slot) = state.available.get? (source, slot)
  result : ∀ id value, later.result.get? id = some value ↔
    (id = record.nodeId ∧ record.error = none ∧ ∃ slot,
      resultSlotOf graph registry id = some slot ∧ record.inputs.get? slot = some value) ∨
    ((id = record.nodeId → record.error = none → resultSlotOf graph registry id = none) ∧
      state.result.get? id = some value)

theorem absorb_spec {ready : Ready} {executed : Executed}
    (hexecuted : ExecutedAs graph possible ready executed)
    (habsorb : state.absorb graph registry executed = .ok later) :
    AbsorbSpec graph registry state executed.record later := by
  obtain ⟨hid, hrecordId, -, -, hsome, hnone⟩ := hexecuted.record
  have hsame : executed.nodeId = executed.record.nodeId := by rw [hid, hrecordId]
  cases hresult : executed.nodeResult with
  | none =>
      obtain ⟨houtputs, herror⟩ := hnone hresult
      simp only [SchedulerState.absorb, hsame, hresult] at habsorb
      cases habsorb
      refine ⟨rfl, rfl, rfl, by simp [houtputs], fun _ _ _ => rfl, ?_⟩
      simp [herror]
  | some nodeResult =>
      obtain ⟨houtputs, herror⟩ := hsome nodeResult hresult
      simp only [SchedulerState.absorb, hsame, hresult, ← houtputs] at habsorb
      have hown : ∀ slot, (state.available.update (executed.record.outputs.entries.map
          fun entry => ((executed.record.nodeId, entry.1), entry.2))).get?
            (executed.record.nodeId, slot) = (executed.record.outputs.get? slot).or
              (state.available.get? (executed.record.nodeId, slot)) := fun slot =>
        Dict.get?_update_map state.available executed.record.outputs
          (f := Prod.mk executed.record.nodeId) (fun _ _ h => (Prod.mk.inj h).2) slot
      have hothers : ∀ source, source ≠ executed.record.nodeId → ∀ slot,
          (state.available.update (executed.record.outputs.entries.map
            fun entry => ((executed.record.nodeId, entry.1), entry.2))).get? (source, slot) =
              state.available.get? (source, slot) := by
        intro source hsource slot
        refine Dict.get?_update_of_notMem _ fun hmem => ?_
        simp only [List.map_map, List.mem_map, Function.comp_apply] at hmem
        obtain ⟨_, _, heq⟩ := hmem
        exact hsource (Prod.mk.inj heq).1.symm
      cases hslot : resultSlotOf graph registry executed.record.nodeId with
      | none =>
          simp only [hslot] at habsorb
          cases habsorb
          refine ⟨rfl, rfl, rfl, hown, hothers, fun id value => ?_⟩
          by_cases heq : id = executed.record.nodeId <;> simp [heq, hslot]
      | some slot =>
          simp only [hslot] at habsorb
          cases hvalue : executed.record.inputs.get? slot with
          | none => simp [hvalue] at habsorb
          | some value =>
              simp only [hvalue] at habsorb
              cases habsorb
              refine ⟨rfl, rfl, rfl, hown, hothers, fun id other => ?_⟩
              rw [Dict.get?_set]
              by_cases heq : id = executed.record.nodeId <;>
                simp [heq, hslot, hvalue, herror]

/-- Taking over an executed node keeps the invariant. -/
theorem SchedulerInvariant.absorb (h : SchedulerInvariant graph registry possible state)
    {ready : Ready} {executed : Executed} (hpending : ready.1 ∈ state.pending)
    (hready : ReadyAt graph registry state ready)
    (hexecuted : ExecutedAs graph possible ready executed)
    (habsorb : state.absorb graph registry executed = .ok later) :
    Extends state later ∧ SchedulerInvariant graph registry possible later := by
  have hspec := absorb_spec hexecuted habsorb
  obtain ⟨-, hid, hinputs, houtcome, -, -⟩ := hexecuted.record
  have hfresh : executed.record.nodeId ∉ state.finished := fun hmem =>
    h.disjoint _ hmem (hid ▸ hpending)
  have hunrecorded := h.pending_not_recorded hpending
  have hsilent : ∀ slot, state.available.get? (executed.record.nodeId, slot) = none := by
    intro slot
    rw [Option.eq_none_iff_forall_ne_some]
    exact fun value hvalue => hfresh (h.available_finished _ _ _ hvalue)
  have hextends : Extends state later := by
    refine ⟨fun id hmem => by simp [hspec.finished, hmem], fun id hmem slot => ?_⟩
    exact hspec.others id (fun heq => hfresh (heq ▸ hmem)) slot
  refine ⟨hextends, ?_⟩
  constructor
  · rw [hspec.pending]
    exact List.erase_sublist.trans h.pendingSublist
  · intro id
    rw [h.scheduled id, hspec.pending, hspec.finished, h.pendingNodup.mem_erase_iff, hid,
      List.mem_append, List.mem_singleton]
    by_cases heq : id = ready.1 <;> simp [heq, hpending]
  · intro id hmem
    rw [hspec.pending, h.pendingNodup.mem_erase_iff]
    rw [hspec.finished, List.mem_append, List.mem_singleton] at hmem
    rcases hmem with hmem | hmem
    · exact fun hpend => h.disjoint id hmem hpend.2
    · exact fun hpend => hpend.1 hmem
  · rw [hspec.trace, List.map_append, List.nodup_append']
    exact ⟨h.traceNodup, List.nodup_singleton _, by simpa [hid] using hunrecorded⟩
  · intro source slot value
    rw [hspec.trace]
    simp only [List.mem_append, List.mem_singleton, or_and_right, exists_or, exists_eq_left]
    rw [← h.available source slot value]
    by_cases heq : source = executed.record.nodeId
    · rw [heq, hspec.own, hsilent]
      simp
    · rw [hspec.others source heq]
      simp [Ne.symm heq]
  · intro record hrecord
    rw [hspec.trace, List.mem_append, List.mem_singleton] at hrecord
    rcases hrecord with hrecord | rfl
    · obtain ⟨hfinished, hreadyAt, hrecords⟩ := h.recorded record hrecord
      exact ⟨hextends.finished _ hfinished, hreadyAt.extends hextends, hrecords⟩
    · refine ⟨by simp [hspec.finished], ?_, houtcome⟩
      rw [hid, hinputs]
      exact hready.extends hextends
  · intro id hmem htrace
    rw [hspec.trace, List.map_append, List.mem_append, not_or] at htrace
    rw [hspec.finished, List.mem_append] at hmem
    rcases hmem with hmem | hmem
    · exact (h.skipped id hmem htrace.1).extends hextends
    · exact absurd (by simpa using hmem) htrace.2
  · intro id value
    rw [hspec.result, hspec.trace]
    simp only [List.mem_append, List.mem_singleton, or_and_right, exists_or, exists_eq_left]
    rw [← h.results id value]
    by_cases heq : id = executed.record.nodeId
    · have hnone : state.result.get? id ≠ some value := by
        intro hvalue
        obtain ⟨record, hrecord, hrid, -⟩ := (h.results id value).mp hvalue
        exact hfresh (heq ▸ hrid ▸ (h.recorded record hrecord).1)
      simp only [hnone, and_false, or_false, false_or]
      constructor
      · rintro ⟨rfl, hrest⟩
        exact ⟨rfl, hrest⟩
      · rintro ⟨rfl, hrest⟩
        exact ⟨rfl, hrest⟩
    · simp only [heq, Ne.symm heq, false_and, false_or, or_false, false_implies, true_and]

/-! ## Rounds -/

/-- Take over a round's executed nodes. -/
def absorbAll (graph : GraphSpec) (registry : NodeRegistry Body) :
    List Executed → SchedulerState → Except Raised SchedulerState
  | [], state => .ok state
  | executed :: rest, state =>
    match state.absorb graph registry executed with
    | .error raised => .error raised
    | .ok state => absorbAll graph registry rest state

/-- One round that runs at least one node. -/
def Round (graph : GraphSpec) (registry : NodeRegistry Body) (possible : Possible)
    (state later : SchedulerState) : Prop :=
  ∃ passed ready executed, startRound graph registry state = .ok (passed, ready) ∧ ready ≠ [] ∧
    List.Forall₂ (ExecutedAs graph possible) ready executed ∧
    absorbAll graph registry executed passed = .ok later

/-- The states a run reaches after this many rounds. -/
inductive Rounds (graph : GraphSpec) (registry : NodeRegistry Body) (possible : Possible) :
    Nat → SchedulerState → Prop where
  | start : Rounds graph registry possible 0 (initialState graph)
  | next {count : Nat} {state later : SchedulerState}
      (before : Rounds graph registry possible count state)
      (round : Round graph registry possible state later) :
      Rounds graph registry possible (count + 1) later

/-- Taking over all executed nodes of a round keeps the invariant. -/
theorem SchedulerInvariant.absorb_all (h : SchedulerInvariant graph registry possible state)
    {ready : List Ready} {executed : List Executed} (hnodup : (ready.map Prod.fst).Nodup)
    (hready : ∀ entry ∈ ready, entry.1 ∈ state.pending ∧ ReadyAt graph registry state entry)
    (hexecuted : List.Forall₂ (ExecutedAs graph possible) ready executed)
    (habsorb : absorbAll graph registry executed state = .ok later) :
    Extends state later ∧ SchedulerInvariant graph registry possible later ∧
      later.trace = state.trace ++ executed.map Executed.record ∧
      later.pending.length + ready.length = state.pending.length := by
  induction hexecuted generalizing state with
  | nil =>
      cases habsorb
      exact ⟨.refl _, h, by simp, rfl⟩
  | @cons entry head ready rest hhead _ ih =>
      rw [List.map_cons, List.nodup_cons] at hnodup
      rw [List.forall_mem_cons] at hready
      rw [absorbAll] at habsorb
      cases hstep : state.absorb graph registry head with
      | error raised => simp [hstep] at habsorb
      | ok next =>
          rw [hstep] at habsorb
          obtain ⟨hextends, hinvariant⟩ := h.absorb hready.1.1 hready.1.2 hhead hstep
          have hspec := absorb_spec hhead hstep
          have hid := hhead.record.2.1
          have hrest : ∀ other ∈ ready, other.1 ∈ next.pending ∧
              ReadyAt graph registry next other := by
            intro other hother
            obtain ⟨hpending, hreadyAt⟩ := hready.2 other hother
            have hne : other.1 ≠ entry.1 := fun heq =>
              hnodup.1 (heq ▸ List.mem_map_of_mem (f := Prod.fst) hother)
            refine ⟨?_, hreadyAt.extends hextends⟩
            rw [hspec.pending, hid]
            exact (List.mem_erase_of_ne hne).mpr hpending
          obtain ⟨hgrows, hlater, htrace, hlength⟩ := ih hinvariant hnodup.2 hrest habsorb
          refine ⟨hextends.trans hgrows, hlater, ?_, ?_⟩
          · rw [htrace, hspec.trace, List.map_cons, List.append_assoc, List.singleton_append]
          · have hpos := List.length_pos_of_mem hready.1.1
            rw [hspec.pending, hid, List.length_erase_of_mem hready.1.1] at hlength
            rw [List.length_cons]
            omega

/-- A round keeps the invariant and finishes at least one pending node. -/
theorem SchedulerInvariant.round (h : SchedulerInvariant graph registry possible state)
    (hround : Round graph registry possible state later) :
    SchedulerInvariant graph registry possible later ∧
      later.pending.length < state.pending.length := by
  obtain ⟨passed, ready, executed, hstart, hne, hexecuted, habsorb⟩ := hround
  have hpass := start_round_spec h hstart
  obtain ⟨-, hlater, -, hlength⟩ := hpass.invariant.absorb_all hpass.readyNodup hpass.readyAt
    hexecuted habsorb
  refine ⟨hlater, ?_⟩
  have hpassed : passed.pending.length ≤ state.pending.length :=
    (List.subperm_of_subset hpass.invariant.pendingNodup hpass.pending).length_le
  have hpos := List.length_pos_of_ne_nil hne
  omega

/-- Every state of a run satisfies the invariant, and the rounds so far are at most as many
as the nodes that have finished. -/
theorem Rounds.invariant {count : Nat} (h : Rounds graph registry possible count state) :
    SchedulerInvariant graph registry possible state ∧
      count + state.pending.length ≤ (scheduledIds graph).length := by
  induction h with
  | start => exact ⟨initial_invariant graph registry possible, by simp [initialState]⟩
  | next before round ih =>
      obtain ⟨hlater, hlength⟩ := ih.1.round round
      exact ⟨hlater, by omega⟩

/-! ## The main loop over pure bodies -/

/-- A body without effects of its own: it returns or raises, depending on its context. -/
abbrev PureBody := ExecutionContext → Except Raised NodeResult

/-- A runtime without effects: the clock stands still and a round's bodies run one after
another. -/
def pureRuntime (now uuid : String) : Runtime Id where
  utcnowIso := now
  uuid4 := uuid
  gather actions := actions

/-- The outcomes the bodies of a registry have in a run with these resources. -/
def behaves (registry : NodeRegistry PureBody) (resources : Resources) : Possible :=
  fun node inputs outcome => ∃ definition, registry.get node.type = some definition ∧
    definition.execute ⟨node, .dict inputs, resources⟩ = outcome

section

variable {pureRegistry : NodeRegistry PureBody} {resources : Resources} {now uuid runId : String}

/-- The main loop over pure bodies. -/
def schedulePure (graph : GraphSpec) (registry : NodeRegistry PureBody) (resources : Resources)
    (now uuid runId : String) (fuel : Nat) (state : SchedulerState) :
    Except Raised SchedulerState :=
  schedule (pureRuntime now uuid) (Observers.none Id) (fun body ctx => body ctx) graph registry
    resources runId fuel state

theorem finish_round_pure (executed : List Executed) (state : SchedulerState) :
    finishRound (Observers.none Id) graph registry executed state =
      absorbAll graph registry executed state := by
  induction executed generalizing state with
  | nil => rfl
  | cons head rest ih =>
      rw [finishRound, absorbAll]
      cases hstep : state.absorb graph registry head with
      | error raised => rfl
      | ok next => exact ih next

/-- The collected outcomes of a round are those its bodies have. -/
theorem collect_outcomes_pure {ready : List Ready} {executed : List Executed}
    (h : collectOutcomes (ready.map (executeReady (m := Id) (pureRuntime now uuid)
      (fun body ctx => body ctx) graph pureRegistry resources runId)) = .ok executed) :
    List.Forall₂ (ExecutedAs graph (behaves pureRegistry resources)) ready executed := by
  induction ready generalizing executed with
  | nil =>
      cases h
      exact .nil
  | cons entry ready ih =>
      rw [List.map_cons, collectOutcomes] at h
      cases hhead : executeReady (m := Id) (pureRuntime now uuid) (fun body ctx => body ctx) graph
          pureRegistry resources runId entry with
      | error raised => simp [hhead, bind, Except.bind] at h
      | ok head =>
          rw [hhead] at h
          cases hrest : collectOutcomes (ready.map (executeReady (m := Id) (pureRuntime now uuid)
              (fun body ctx => body ctx) graph pureRegistry resources runId)) with
          | error raised => simp [hrest, bind, Except.bind] at h
          | ok rest =>
              simp only [hrest, bind, Except.bind, pure, Except.pure, Except.ok.injEq] at h
              subst h
              refine .cons ?_ (ih hrest)
              rw [executeReady] at hhead
              split at hhead
              · cases hhead
              · rename_i node hnode
                split at hhead
                · cases hhead
                · rename_i definition hdefinition
                  exact ⟨node, runId, now, now, _, hnode, ⟨definition, hdefinition, rfl⟩, hhead⟩

/-- The main loop stops in a state whose last pass found no ready node. -/
theorem schedule_stops {fuel count : Nat} {final : SchedulerState}
    (h : Rounds graph pureRegistry (behaves pureRegistry resources) count state)
    (hfuel : state.pending.length ≤ fuel)
    (hschedule : schedulePure graph pureRegistry resources now uuid runId fuel state =
      .ok final) :
    ∃ count last, Rounds graph pureRegistry (behaves pureRegistry resources) count last ∧
      startRound graph pureRegistry last = .ok (final, []) := by
  have hempty : ∀ {state : SchedulerState}, state.pending = [] →
      startRound graph pureRegistry state = .ok (state, []) := by
    intro state hpending
    rw [startRound, hpending, passNodes]
  induction fuel generalizing count state with
  | zero =>
      cases hschedule
      exact ⟨_, _, h, hempty (List.length_eq_zero_iff.mp (by omega))⟩
  | succ fuel ih =>
      rw [schedulePure, schedule] at hschedule
      split at hschedule
      · cases hschedule
        exact ⟨_, _, h, hempty ‹_›⟩
      · split at hschedule
        · cases hschedule
        · rename_i hstart
          cases hschedule
          exact ⟨_, _, h, hstart⟩
        · rename_i passed ready hne hstart
          simp only [bind, pure, pureRuntime] at hschedule
          split at hschedule
          · cases hschedule
          · rename_i executed hcollect
            rw [finish_round_pure] at hschedule
            split at hschedule
            · cases hschedule
            · rename_i next hnext
              have hround : Round graph pureRegistry (behaves pureRegistry resources) _ next :=
                ⟨passed, ready, executed, hstart, hne, collect_outcomes_pure hcollect, hnext⟩
              have hlength := (h.invariant.1.round hround).2
              exact ih (h.next hround) (by omega) hschedule

end

end AgentGraphStudio
