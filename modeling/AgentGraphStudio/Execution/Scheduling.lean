import AgentGraphStudio.Execution.Rounds

/-!
# What a run guarantees

Safety of every round (`scheduler_safety`), completeness of the runs (`complete_run_iff`) and the
condition under which no node is left waiting (`never_starves_iff`). The loop leaves by its
`if not ready: break` exit as soon as a pass finds no ready node, and a node blocked late in that
pass can release a node visited before it. What a pass decides is a matter of the order of the
pending nodes: a node does not have to wait if the pass has blocked those that feed it (`Judged`,
`start_round_judged`). A run is complete if every state lets a node run as long as some node has
its values (`Progresses`), and an empty exit needs that the pass meets the sources of a node before
the node (`InOrder`).
-/

namespace AgentGraphStudio

variable {Body : Type} {graph : GraphSpec} {registry : NodeRegistry Body} {possible : Possible}
  {state : SchedulerState}

/-- Every node of the graph has a registered type. -/
def Registered (graph : GraphSpec) (registry : NodeRegistry Body) : Prop :=
  ∀ node ∈ graph.nodes, ∃ definition, registry.get node.type = some definition

/-- Every result slot is a required input. -/
def ResultSlotsRequired (graph : GraphSpec) (registry : NodeRegistry Body) : Prop :=
  ∀ node ∈ graph.nodes, ∀ definition, registry.get node.type = some definition →
    ∀ slot, definition.resultSlot = some slot →
      ∃ input ∈ gatheredSlots definition node, input.name = slot ∧ input.required = true

theorem mem_scheduledIds {id : String} :
    id ∈ scheduledIds graph ↔
      id ∈ graph.nodes.map NodeSpec.id ∧ id ∉ subNodeReferencedIds graph := by
  simp [scheduledIds]

/-- A scheduled node of a registered graph is found with its definition. -/
theorem Registered.defines (h : Registered graph registry) {id : String}
    (hid : id ∈ scheduledIds graph) :
    ∃ node definition, Defines graph registry id node definition := by
  obtain ⟨node, hnode⟩ := GraphSpec.exists_node?_iff.mpr (mem_scheduledIds.mp hid).1
  obtain ⟨definition, hdefinition⟩ := h node (GraphSpec.mem_of_node? hnode).1
  exact ⟨node, definition, hnode, hdefinition⟩

/-- A pass over registered nodes does not raise. -/
theorem SchedulerInvariant.start_round_total
    (h : SchedulerInvariant graph registry possible state)
    (hregistered : Registered graph registry) :
    ∃ later ready, startRound graph registry state = .ok (later, ready) := by
  obtain ⟨⟨later, ready⟩, hstart⟩ := pass_nodes_total (fun id hid => hregistered.defines hid)
    (fun id hid => (h.scheduled id).mpr (Or.inl hid)) state []
  exact ⟨later, ready, hstart⟩

/-- A pending node is listed once. -/
theorem SchedulerInvariant.before_unique (h : SchedulerInvariant graph registry possible state)
    {before before' after after' : List String} {id : String}
    (hsplit : state.pending = before ++ id :: after)
    (hsplit' : state.pending = before' ++ id :: after') : before = before' := by
  have hnodup := h.pendingNodup
  rw [hsplit, List.nodup_append'] at hnodup
  obtain ⟨-, hafter, hdisjoint⟩ := hnodup
  rw [List.nodup_cons] at hafter
  have hbefore : id ∉ before := fun hmem => hdisjoint hmem List.mem_cons_self
  exact ((List.append_cons_inj_of_notMem hbefore hafter.1).mp (hsplit ▸ hsplit')).1

/-- A node has at most one definition. -/
theorem Defines.unique {id : String} {node other : NodeSpec}
    {definition otherDefinition : NodeDefinition Body}
    (h : Defines graph registry id node definition)
    (h' : Defines graph registry id other otherDefinition) :
    node = other ∧ definition = otherDefinition := by
  obtain rfl : node = other := by
    have := h.found
    rw [h'.found] at this
    exact (Option.some.inj this).symm
  have := h.typed
  rw [h'.typed] at this
  exact ⟨rfl, (Option.some.inj this).symm⟩

theorem Defines.id_eq {id : String} {node : NodeSpec} {definition : NodeDefinition Body}
    (h : Defines graph registry id node definition) : node.id = id :=
  (GraphSpec.mem_of_node? h.found).2

/-! ## Safety of a round -/

/-- The inputs on which a node is executed: a fed slot has what its source's own record
emitted, an unfed slot has its literal, every required slot is there and nothing else is. -/
structure ProperInputs (graph : GraphSpec) (definition : NodeDefinition Body) (node : NodeSpec)
    (state : SchedulerState) (inputs : Config) : Prop where
  fed : ∀ slot ∈ gatheredSlots definition node, ∀ edge,
    lastEdgeInto graph node.id slot.name = some edge →
      edge.fromNode ∈ state.finished ∧ ∀ value, inputs.get? slot.name = some value ↔
        ∃ record ∈ state.trace, record.nodeId = edge.fromNode ∧
          record.outputs.get? edge.fromSlot = some value
  unfed : ∀ slot ∈ gatheredSlots definition node, lastEdgeInto graph node.id slot.name = none →
    inputs.get? slot.name = node.inputValues.get? slot.name
  required : ∀ slot ∈ gatheredSlots definition node, slot.required = true →
    slot.name ∈ inputs.keys
  nothingElse : ∀ name ∈ inputs.keys,
    name ∈ (gatheredSlots definition node).map InputSlotSpec.name

/-- Ready nodes are executed on proper inputs. -/
theorem ReadyAt.properInputs (h : SchedulerInvariant graph registry possible state)
    {ready : Ready} (hready : ReadyAt graph registry state ready) :
    ∃ node definition, Defines graph registry ready.1 node definition ∧
      ProperInputs graph definition node state ready.2 := by
  obtain ⟨node, definition, hdefines, hpassed, hinputs⟩ := hready
  have hvalue : ∀ slot ∈ gatheredSlots definition node,
      ready.2.get? slot.name = slotValue graph state node slot.name := by
    intro slot hslot
    rw [hinputs, get?_collectInputs, if_pos (List.mem_map_of_mem hslot), Dict.get?_empty,
      Option.or_none]
  refine ⟨node, definition, hdefines, ?_, ?_, ?_, ?_⟩
  · intro slot hslot edge hedge
    refine ⟨(hpassed slot hslot).settled edge hedge, fun value => ?_⟩
    rw [hvalue slot hslot, slotValue, hedge]
    exact h.available edge.fromNode edge.fromSlot value
  · intro slot hslot hedge
    rw [hvalue slot hslot, slotValue, hedge]
  · intro slot hslot hreq
    rw [← Dict.get?_isSome_iff, hvalue slot hslot]
    exact (hpassed slot hslot).satisfied hreq
  · intro name hname
    rw [← Dict.get?_isSome_iff, hinputs, get?_collectInputs] at hname
    by_contra hnot
    rw [if_neg hnot] at hname
    simp at hname

/-- Taking over the nodes of a round does not raise when every result slot is required. -/
theorem absorb_all_total (hslots : ResultSlotsRequired graph registry)
    {ready : List Ready} {executed : List Executed}
    (hready : ∀ entry ∈ ready, ∃ node definition, Defines graph registry entry.1 node definition ∧
      ∀ slot ∈ gatheredSlots definition node, slot.required = true → slot.name ∈ entry.2.keys)
    (hexecuted : List.Forall₂ (ExecutedAs graph possible) ready executed)
    (state : SchedulerState) : ∃ later, absorbAll graph registry executed state = .ok later := by
  induction hexecuted generalizing state with
  | nil => exact ⟨state, rfl⟩
  | @cons entry head ready rest hhead _ ih =>
      rw [List.forall_mem_cons] at hready
      obtain ⟨node, definition, hdefines, hrequired⟩ := hready.1
      obtain ⟨hid, -, hinputs, -, -, -⟩ := hhead.record
      have hstep : ∃ next, state.absorb graph registry head = .ok next := by
        rw [SchedulerState.absorb]
        split
        · exact ⟨_, rfl⟩
        · split
          · exact ⟨_, rfl⟩
          · rename_i slot hslot
            have hresult : definition.resultSlot = some slot := by
              simpa [resultSlotOf, hid, hdefines.found, hdefines.typed] using hslot
            obtain ⟨input, hinput, rfl, hreq⟩ := hslots node
              (GraphSpec.mem_of_node? hdefines.found).1 definition hdefines.typed _ hresult
            obtain ⟨value, hvalue⟩ := Dict.mem_keys_iff.mp (hrequired input hinput hreq)
            rw [hinputs, hvalue]
            exact ⟨_, rfl⟩
      obtain ⟨next, hnext⟩ := hstep
      obtain ⟨later, hlater⟩ := ih hready.2 next
      exact ⟨later, by rw [absorbAll, hnext]; exact hlater⟩

/-- The number of a node's records. -/
theorem count_records (trace : List TraceRecord) (id : String) :
    (trace.map TraceRecord.nodeId).count id =
      (trace.filter fun record => record.nodeId = id).length := by
  rw [List.count_eq_countP, List.countP_map, List.countP_eq_length_filter]
  simp [Function.comp_def, beq_eq_decide]

/-- In every round of every run: a node has at most one record, a sub-node has none, the
nodes about to run have proper inputs, results come from successful executions of types with
a result slot, the round does not raise, and no run has more rounds than scheduled nodes. -/
theorem scheduler_safety (hregistered : Registered graph registry)
    (hslots : ResultSlotsRequired graph registry) {count : Nat}
    (h : Rounds graph registry possible count state) :
    (∀ id, (state.trace.filter fun record => record.nodeId = id).length ≤ 1) ∧
    (∀ record ∈ state.trace, record.nodeId ∉ subNodeReferencedIds graph) ∧
    (∀ id value, state.result.get? id = some value →
      ∃ record ∈ state.trace, record.nodeId = id ∧ record.error = none ∧
        ∃ slot, resultSlotOf graph registry id = some slot ∧
          record.inputs.get? slot = some value) ∧
    count + state.pending.length ≤ (scheduledIds graph).length ∧
    ∃ passed ready, startRound graph registry state = .ok (passed, ready) ∧
      passed.trace = state.trace ∧
      (∀ entry ∈ ready, entry.1 ∈ state.pending ∧
        ∃ node definition, Defines graph registry entry.1 node definition ∧
          ProperInputs graph definition node passed entry.2) ∧
      ∀ executed, List.Forall₂ (ExecutedAs graph possible) ready executed →
        ∃ later, absorbAll graph registry executed passed = .ok later ∧
          later.trace = state.trace ++ executed.map Executed.record := by
  obtain ⟨hinvariant, hcount⟩ := h.invariant
  obtain ⟨passed, ready, hstart⟩ := hinvariant.start_round_total hregistered
  -- The next round starts from the invariant, so its pass and its results keep it.
  have hpass := start_round_spec hinvariant hstart
  refine ⟨fun id => ?_, fun record hrecord => ?_, fun id value => ?_, hcount,
    passed, ready, hstart, hpass.trace, fun entry hentry => ?_, fun executed hexecuted => ?_⟩
  · rw [← count_records]
    exact List.nodup_iff_count_le_one.mp hinvariant.traceNodup id
  · exact (mem_scheduledIds.mp ((hinvariant.scheduled _).mpr
      (Or.inr (hinvariant.recorded record hrecord).1))).2
  · exact (hinvariant.results id value).mp
  · obtain ⟨hpending, hready⟩ := hpass.readyAt entry hentry
    exact ⟨hpass.pending _ hpending, hready.properInputs hpass.invariant⟩
  · have hrequired : ∀ entry ∈ ready, ∃ node definition,
        Defines graph registry entry.1 node definition ∧
        ∀ slot ∈ gatheredSlots definition node, slot.required = true →
          slot.name ∈ entry.2.keys := by
      intro entry hentry
      obtain ⟨node, definition, hdefines, hproper⟩ :=
        (hpass.readyAt entry hentry).2.properInputs hpass.invariant
      exact ⟨node, definition, hdefines, hproper.required⟩
    obtain ⟨later, hlater⟩ := absorb_all_total hslots hrequired hexecuted passed
    obtain ⟨-, -, htrace, -⟩ := hpass.invariant.absorb_all hpass.readyNodup hpass.readyAt
      hexecuted hlater
    exact ⟨later, hlater, by rw [htrace, hpass.trace]⟩

/-! ## What a pass decides -/

/-- A slot the gathering can reach: no required slot before it lacks a value. -/
def OpenSlot (graph : GraphSpec) (definition : NodeDefinition Body) (node : NodeSpec)
    (state : SchedulerState) (slot : InputSlotSpec) : Prop :=
  ∃ before after, gatheredSlots definition node = before ++ slot :: after ∧
    ∀ earlier ∈ before, Satisfied graph state node earlier

/-- Every pending node that feeds an open slot of this one is among the nodes `earlier`. -/
def FedBy (graph : GraphSpec) (registry : NodeRegistry Body) (state : SchedulerState)
    (earlier : List String) (id : String) : Prop :=
  ∀ node definition, Defines graph registry id node definition →
    ∀ slot, OpenSlot graph definition node state slot →
      ∀ edge, lastEdgeInto graph node.id slot.name = some edge →
        edge.fromNode ∈ state.pending → edge.fromNode ∈ earlier

/-- Every pending node comes after the pending nodes that feed its open slots. -/
def InOrder (graph : GraphSpec) (registry : NodeRegistry Body) (state : SchedulerState) : Prop :=
  ∀ before id after, state.pending = before ++ id :: after → FedBy graph registry state before id

/-- A pending node that feeds an open slot of a node. -/
def Feeds (graph : GraphSpec) (registry : NodeRegistry Body) (state : SchedulerState)
    (source id : String) : Prop :=
  source ∈ state.pending ∧ ∃ node definition slot edge, Defines graph registry id node definition ∧
    OpenSlot graph definition node state slot ∧
      lastEdgeInto graph node.id slot.name = some edge ∧ edge.fromNode = source

/-- A node has a value for each of its required slots. -/
def HasValues (graph : GraphSpec) (registry : NodeRegistry Body) (state : SchedulerState)
    (id : String) : Prop :=
  ∃ node definition, Defines graph registry id node definition ∧
    ∀ slot ∈ gatheredSlots definition node, Satisfied graph state node slot

/-- A pending node that does not have to wait when the pass comes to it: it comes after the pending
nodes that feed its open slots, and each of these lacks a required value and did not have to wait
either, so that the pass has blocked it. -/
inductive Judged (graph : GraphSpec) (registry : NodeRegistry Body) (state : SchedulerState) :
    String → Prop where
  | intro {before after : List String} {id : String}
      (split : state.pending = before ++ id :: after)
      (fed : FedBy graph registry state before id)
      (lacking : ∀ source, Feeds graph registry state source id →
        ¬ HasValues graph registry state source)
      (judged : ∀ source, Feeds graph registry state source id →
        Judged graph registry state source) :
      Judged graph registry state id

/-- If some pending node has all its required values, then one of those does not have to wait. -/
def Progresses (graph : GraphSpec) (registry : NodeRegistry Body) (state : SchedulerState) : Prop :=
  (∃ id ∈ state.pending, HasValues graph registry state id) →
    ∃ id, HasValues graph registry state id ∧ Judged graph registry state id

theorem fed_by_iff {id : String} {earlier : List String} :
    FedBy graph registry state earlier id ↔
      ∀ source, Feeds graph registry state source id → source ∈ earlier := by
  constructor
  · rintro h source ⟨hpending, node, definition, slot, edge, hdefines, hopen, hedge, rfl⟩
    exact h node definition hdefines slot hopen edge hedge hpending
  · intro h node definition hdefines slot hopen edge hedge hpending
    exact h _ ⟨hpending, node, definition, slot, edge, hdefines, hopen, hedge, rfl⟩

theorem HasValues.satisfied {id : String} {node : NodeSpec} {definition : NodeDefinition Body}
    (h : HasValues graph registry state id) (hdefines : Defines graph registry id node definition)
    {slot : InputSlotSpec} (hslot : slot ∈ gatheredSlots definition node) :
    Satisfied graph state node slot := by
  obtain ⟨_, _, hother, hvalues⟩ := h
  obtain ⟨rfl, rfl⟩ := hdefines.unique hother
  exact hvalues slot hslot

theorem OpenSlot.mem {definition : NodeDefinition Body} {node : NodeSpec} {slot : InputSlotSpec}
    (h : OpenSlot graph definition node state slot) : slot ∈ gatheredSlots definition node := by
  obtain ⟨before, after, hsplit, _⟩ := h
  simp [hsplit]

/-- The value of a slot depends on the available outputs only. -/
theorem slot_value_congr {later : SchedulerState} (h : later.available = state.available)
    (node : NodeSpec) (slot : String) :
    slotValue graph later node slot = slotValue graph state node slot := by
  rw [slotValue, slotValue, h]

/-- A node that is blocked has its open slots settled, for none comes after the slot that blocks
it. -/
theorem open_settled_of_blocked {turn : SchedulerState} {node : NodeSpec}
    {definition : NodeDefinition Body} {before after : List InputSlotSpec}
    {slot opened : InputSlotSpec} (havailable : turn.available = state.available)
    (hsplit : gatheredSlots definition node = before ++ slot :: after)
    (hpassed : ∀ earlier ∈ before, Passed graph turn node earlier)
    (hsettled : Settled graph turn node slot.name) (hrequired : slot.required = true)
    (hmissing : slotValue graph turn node slot.name = none)
    (hopen : OpenSlot graph definition node state opened) :
    Settled graph turn node opened.name := by
  obtain ⟨before', after', hsplit', hbefore'⟩ := hopen
  rw [hsplit] at hsplit'
  rcases List.append_eq_append_iff.mp hsplit' with
    ⟨middle, hmiddle, hrest⟩ | ⟨middle, hmiddle, hrest⟩
  · cases middle with
    | nil =>
        obtain ⟨rfl, -⟩ := List.cons.inj hrest
        exact hsettled
    | cons head middle =>
        obtain ⟨rfl, -⟩ := List.cons.inj hrest
        have hsome := hbefore' slot (by simp [hmiddle]) hrequired
        rw [← slot_value_congr havailable, hmissing] at hsome
        cases hsome
  · cases middle with
    | nil =>
        obtain ⟨rfl, -⟩ := List.cons.inj hrest
        exact hsettled
    | cons head middle =>
        obtain ⟨rfl, -⟩ := List.cons.inj hrest
        exact (hpassed opened (by simp [hmiddle])).settled

/-- The pass from a state when the nodes `done` have been visited: those that did not have to wait
and lack a value are blocked, and nothing has been emitted. -/
structure PassTurn (graph : GraphSpec) (registry : NodeRegistry Body) (possible : Possible)
    (state turn : SchedulerState) (done : List String) : Prop where
  invariant : SchedulerInvariant graph registry possible turn
  available : turn.available = state.available
  finished : ∀ id, id ∈ turn.finished ↔ id ∈ state.finished ∨
    id ∈ done ∧ ¬ HasValues graph registry state id ∧ Judged graph registry state id

/-- A node does not have to wait if its open slots are settled when the pass comes to it. -/
theorem PassTurn.judged_of_settled {turn : SchedulerState} {done after : List String} {id : String}
    (h : PassTurn graph registry possible state turn done)
    (hdisjoint : ∀ id ∈ state.finished, id ∉ state.pending)
    (hsplit : state.pending = done ++ id :: after)
    (hsettled : ∀ node definition, Defines graph registry id node definition →
      ∀ slot, OpenSlot graph definition node state slot → Settled graph turn node slot.name) :
    Judged graph registry state id := by
  have hfeeds : ∀ source, Feeds graph registry state source id → source ∈ done ∧
      ¬ HasValues graph registry state source ∧ Judged graph registry state source := by
    rintro source ⟨hpending, node, definition, slot, edge, hdefines, hopen, hedge, rfl⟩
    exact ((h.finished _).mp (hsettled node definition hdefines slot hopen edge hedge)).resolve_left
      fun hfinished => hdisjoint _ hfinished hpending
  exact .intro hsplit (fed_by_iff.mpr fun source hsource => (hfeeds source hsource).1)
    (fun source hsource => (hfeeds source hsource).2.1)
    fun source hsource => (hfeeds source hsource).2.2

/-- What a verdict of the pass says about a node. -/
def VerdictSays (graph : GraphSpec) (registry : NodeRegistry Body) (state : SchedulerState)
    (id : String) : Gathered → Prop
  | .ready _ => HasValues graph registry state id ∧ Judged graph registry state id
  | .blocked => ¬ HasValues graph registry state id ∧ Judged graph registry state id
  | .waiting => ¬ Judged graph registry state id

/-- A node is ready, is blocked or waits according to its values and the nodes that feed it. -/
theorem PassTurn.verdict {turn : SchedulerState} {done after : List String} {id : String}
    {verdict : Gathered} (hsources : ∀ edge ∈ graph.dataEdges, edge.fromNode ∈ scheduledIds graph)
    (hinvariant : SchedulerInvariant graph registry possible state)
    (h : PassTurn graph registry possible state turn done)
    (hsplit : state.pending = done ++ id :: after)
    (hgather : gatherInputs graph registry turn id = .ok verdict) :
    VerdictSays graph registry state id verdict := by
  obtain ⟨node, definition, hdefines, hverdict⟩ := gather_inputs_spec h.invariant hgather
  have hvalue : ∀ slot, slotValue graph turn node slot = slotValue graph state node slot :=
    slot_value_congr h.available node
  cases hverdict with
  | ready passed =>
      refine ⟨⟨node, definition, hdefines, fun slot hslot hrequired => ?_⟩,
        h.judged_of_settled hinvariant.disjoint hsplit
          fun other otherDefinition hother slot hopen => ?_⟩
      · rw [← hvalue]
        exact (passed slot hslot).satisfied hrequired
      · obtain ⟨rfl, rfl⟩ := hdefines.unique hother
        exact (passed slot hopen.mem).settled
  | blocked before slot rest split passed settled required missing =>
      refine ⟨fun hvalues => ?_,
        h.judged_of_settled hinvariant.disjoint hsplit
          fun other otherDefinition hother slot hopen => ?_⟩
      · have hslot : slot ∈ gatheredSlots definition node := by simp [split]
        have hsome := hvalues.satisfied hdefines hslot required
        rw [← hvalue, missing] at hsome
        cases hsome
      · obtain ⟨rfl, rfl⟩ := hdefines.unique hother
        exact open_settled_of_blocked h.available split passed settled required missing hopen
  | waiting before slot rest split passed edge fed missing unfinished =>
      rintro ⟨hsame, hfed, hlacking, hjudged⟩
      have hnot : edge.fromNode ∉ state.finished := fun hfinished =>
        unfinished ((h.finished _).mpr (.inl hfinished))
      have hpending := ((hinvariant.scheduled _).mp
        (hsources edge (lastEdgeInto_some fed).1)).resolve_right hnot
      have hfeeds : Feeds graph registry state edge.fromNode id := by
        refine ⟨hpending, node, definition, slot, edge, hdefines,
          ⟨before, rest, split, fun earlier hearlier hrequired => ?_⟩, fed, rfl⟩
        rw [← hvalue]
        exact (passed earlier hearlier).satisfied hrequired
      -- The node is listed once, so what the pass has met before it are the nodes `done`.
      have hdone := hinvariant.before_unique hsame hsplit ▸ fed_by_iff.mp hfed _ hfeeds
      exact unfinished ((h.finished _).mpr (.inr ⟨hdone, hlacking _ hfeeds, hjudged _ hfeeds⟩))

/-- A node that is blocked is skipped for a value that it lacks. -/
theorem skipped_of_blocked {turn : SchedulerState} {id : String}
    (h : SchedulerInvariant graph registry possible turn)
    (hgather : gatherInputs graph registry turn id = .ok .blocked) :
    SkippedAt graph registry turn id := by
  obtain ⟨node, definition, hdefines, hverdict⟩ := gather_inputs_spec h hgather
  cases hverdict with
  | blocked before slot after split passed settled required missing =>
      exact ⟨node, definition, hdefines, slot, by simp [split], required, settled, missing⟩

/-- The nodes that are pending in the pass are those it has not blocked. -/
theorem PassTurn.mem_pending_iff {turn : SchedulerState} {done : List String}
    (hinvariant : SchedulerInvariant graph registry possible state)
    (h : PassTurn graph registry possible state turn done) {id : String} :
    id ∈ turn.pending ↔ id ∈ state.pending ∧
      ¬ (id ∈ done ∧ ¬ HasValues graph registry state id ∧ Judged graph registry state id) := by
  constructor
  · intro hpending
    have hnot : id ∉ turn.finished := fun hfinished =>
      h.invariant.disjoint id hfinished hpending
    rw [h.finished, not_or] at hnot
    exact ⟨((hinvariant.scheduled id).mp ((h.invariant.scheduled id).mpr
      (.inl hpending))).resolve_right hnot.1, hnot.2⟩
  · rintro ⟨hpending, hnot⟩
    refine ((h.invariant.scheduled id).mp ((hinvariant.scheduled id).mpr
      (.inl hpending))).resolve_right fun hfinished => ?_
    exact ((h.finished id).mp hfinished).elim
      (fun hold => hinvariant.disjoint id hold hpending) hnot

/-- The pass goes on after a node that it does not block. -/
theorem PassTurn.keep {turn : SchedulerState} {done : List String} {id : String}
    (h : PassTurn graph registry possible state turn done)
    (hkeep : ¬ (¬ HasValues graph registry state id ∧ Judged graph registry state id)) :
    PassTurn graph registry possible state turn (done ++ [id]) := by
  refine ⟨h.invariant, h.available, fun other => ?_⟩
  rw [h.finished, List.mem_append, List.mem_singleton]
  refine or_congr_right ⟨fun ⟨hdone, hblocked⟩ => ⟨.inl hdone, hblocked⟩, ?_⟩
  rintro ⟨hdone | rfl, hblocked⟩
  · exact ⟨hdone, hblocked⟩
  · exact absurd hblocked hkeep

/-- The pass goes on after a node that it blocks. -/
theorem PassTurn.block {turn : SchedulerState} {done after : List String} {id : String}
    (hinvariant : SchedulerInvariant graph registry possible state)
    (h : PassTurn graph registry possible state turn done)
    (hsplit : state.pending = done ++ id :: after)
    (hskipped : SkippedAt graph registry turn id)
    (hblocked : ¬ HasValues graph registry state id ∧ Judged graph registry state id) :
    PassTurn graph registry possible state
      { turn with pending := turn.pending.erase id, finished := turn.finished ++ [id] }
      (done ++ [id]) := by
  have hnodup := hinvariant.pendingNodup
  rw [hsplit] at hnodup
  have hpending : id ∈ turn.pending :=
    (h.mem_pending_iff hinvariant).mpr ⟨by simp [hsplit], fun hdone =>
      (List.disjoint_of_nodup_append hnodup) hdone.1 List.mem_cons_self⟩
  refine ⟨(h.invariant.skip hpending hskipped).2, h.available, fun other => ?_⟩
  simp only [List.mem_append, List.mem_singleton, h.finished]
  constructor
  · rintro ((hold | ⟨hdone, hother⟩) | rfl)
    · exact .inl hold
    · exact .inr ⟨.inl hdone, hother⟩
    · exact .inr ⟨.inr rfl, hblocked⟩
  · rintro (hold | ⟨hdone | rfl, hother⟩)
    · exact .inl (.inl hold)
    · exact .inl (.inr ⟨hdone, hother⟩)
    · exact .inr rfl

/-- The rest of a pass blocks the nodes that do not have to wait and lack a value, and finds those
ready that have all their values. -/
theorem PassTurn.pass {ids done : List String} {turn later : SchedulerState}
    {ready ready' : List Ready}
    (hsources : ∀ edge ∈ graph.dataEdges, edge.fromNode ∈ scheduledIds graph)
    (hinvariant : SchedulerInvariant graph registry possible state)
    (h : PassTurn graph registry possible state turn done) (hsplit : state.pending = done ++ ids)
    (hpass : passNodes graph registry ids turn ready = .ok (later, ready')) :
    PassTurn graph registry possible state later state.pending ∧
      (ready' = [] ↔ ready = [] ∧ ∀ id ∈ ids,
        ¬ (HasValues graph registry state id ∧ Judged graph registry state id)) := by
  induction ids generalizing turn done ready with
  | nil =>
      cases hpass
      rw [List.append_nil] at hsplit
      exact ⟨hsplit ▸ h, by simp⟩
  | cons id ids ih =>
      have hnext : state.pending = done ++ [id] ++ ids := by simp [hsplit]
      rw [passNodes] at hpass
      rw [List.forall_mem_cons]
      cases hgather : gatherInputs graph registry turn id with
      | error raised => simp [hgather] at hpass
      | ok verdict =>
          have hverdict := h.verdict hsources hinvariant hsplit hgather
          rw [hgather] at hpass
          cases verdict with
          | ready inputs =>
              obtain ⟨hvalues, hjudged⟩ := hverdict
              obtain ⟨hlater, hready⟩ :=
                ih (h.keep fun hblocked => hblocked.1 hvalues) hnext hpass
              refine ⟨hlater, hready.trans ?_⟩
              simp [hvalues, hjudged]
          | blocked =>
              obtain ⟨hlacking, hjudged⟩ := hverdict
              obtain ⟨hlater, hready⟩ := ih (h.block hinvariant hsplit
                (skipped_of_blocked h.invariant hgather) ⟨hlacking, hjudged⟩) hnext hpass
              refine ⟨hlater, hready.trans ?_⟩
              simp [hlacking]
          | waiting =>
              obtain ⟨hlater, hready⟩ :=
                ih (h.keep fun hblocked => hverdict hblocked.2) hnext hpass
              refine ⟨hlater, hready.trans ?_⟩
              simp [show ¬ Judged graph registry state id from hverdict]

/-- What a pass decides: a node stays pending if it has its values or has to wait, and some node is
ready if it has its values and does not have to wait. -/
theorem start_round_judged {later : SchedulerState} {ready : List Ready}
    (hsources : ∀ edge ∈ graph.dataEdges, edge.fromNode ∈ scheduledIds graph)
    (h : SchedulerInvariant graph registry possible state)
    (hstart : startRound graph registry state = .ok (later, ready)) :
    (∀ id, id ∈ later.pending ↔ id ∈ state.pending ∧
      ¬ (¬ HasValues graph registry state id ∧ Judged graph registry state id)) ∧
    later.available = state.available ∧
    (ready = [] ↔ ∀ id ∈ state.pending,
      ¬ (HasValues graph registry state id ∧ Judged graph registry state id)) := by
  have hturn : PassTurn graph registry possible state state [] := ⟨h, rfl, by simp⟩
  obtain ⟨hlater, hready⟩ := hturn.pass hsources h (List.nil_append _).symm hstart
  refine ⟨fun id => ?_, hlater.available, by rw [hready]; simp⟩
  rw [hlater.mem_pending_iff h]
  exact and_congr_right fun hpending => by simp [hpending]

theorem Judged.mem_pending {id : String} (h : Judged graph registry state id) :
    id ∈ state.pending := by
  obtain ⟨hsplit, -, -, -⟩ := h
  simp [hsplit]

/-- If no pending node is ready, none has to wait when the pending nodes are in order. -/
theorem judged_of_in_order
    (hnone : ∀ id ∈ state.pending,
      ¬ (HasValues graph registry state id ∧ Judged graph registry state id))
    (horder : InOrder graph registry state) {before after : List String} {id : String}
    (hsplit : state.pending = before ++ id :: after) : Judged graph registry state id := by
  -- The nodes before it are fewer than those before any later one.
  induction hlength : before.length using Nat.strongRecOn generalizing before after id with
  | ind length ih =>
      have hfed := horder before id after hsplit
      have hsource : ∀ source, Feeds graph registry state source id →
          Judged graph registry state source := by
        intro source hfeeds
        obtain ⟨first, last, rfl⟩ := List.append_of_mem (fed_by_iff.mp hfed source hfeeds)
        refine ih first.length ?_ (by rw [hsplit, List.append_assoc, List.cons_append]) rfl
        rw [← hlength, List.length_append, List.length_cons]
        omega
      exact .intro hsplit hfed (fun source hfeeds hvalues =>
        hnone source hfeeds.1 ⟨hvalues, hsource source hfeeds⟩) hsource

/-- A pass that finds no ready node leaves no pending node if and only if it meets every
pending node after the nodes that feed it. -/
theorem empty_exit_iff {final : SchedulerState}
    (hsources : ∀ edge ∈ graph.dataEdges, edge.fromNode ∈ scheduledIds graph)
    (h : SchedulerInvariant graph registry possible state)
    (hstart : startRound graph registry state = .ok (final, [])) :
    final.pending = [] ↔ InOrder graph registry state := by
  obtain ⟨hpending, -, hready⟩ := start_round_judged hsources h hstart
  have hnone := hready.mp rfl
  rw [List.eq_nil_iff_forall_not_mem]
  constructor
  · intro hempty before id after hsplit
    have hblocked := mt (hpending id).mpr (hempty id)
    have hjudged : Judged graph registry state id := by
      by_contra hwaits
      exact hblocked ⟨by simp [hsplit], fun hboth => hwaits hboth.2⟩
    obtain ⟨hsame, hfed, -, -⟩ := hjudged
    exact h.before_unique hsame hsplit ▸ hfed
  · intro horder id hmem
    obtain ⟨hid, hkept⟩ := (hpending id).mp hmem
    obtain ⟨before, after, hsplit⟩ := List.append_of_mem hid
    have hjudged := judged_of_in_order hnone horder hsplit
    exact hkept ⟨fun hvalues => hnone id hid ⟨hvalues, hjudged⟩, hjudged⟩

/-- A state from which a pass finds a ready node, or in which the nodes are in order, progresses. -/
theorem progresses_of_in_order {later : SchedulerState} {ready : List Ready}
    (hsources : ∀ edge ∈ graph.dataEdges, edge.fromNode ∈ scheduledIds graph)
    (h : SchedulerInvariant graph registry possible state)
    (hstart : startRound graph registry state = .ok (later, ready))
    (horder : ready = [] → InOrder graph registry state) : Progresses graph registry state := by
  obtain ⟨-, -, hready⟩ := start_round_judged hsources h hstart
  rintro ⟨id, hid, hvalues⟩
  by_contra hnone
  push Not at hnone
  have hnobody : ∀ id ∈ state.pending,
      ¬ (HasValues graph registry state id ∧ Judged graph registry state id) :=
    fun other _ hother => hnone other hother.1 hother.2
  obtain ⟨before, after, hsplit⟩ := List.append_of_mem hid
  exact hnone id hvalues (judged_of_in_order hnobody (horder (hready.mpr hnobody)) hsplit)

/-- No data edge starts at the source of a sub-node edge. -/
def NoSharedSource (graph : GraphSpec) : Prop :=
  ∀ edge ∈ graph.dataEdges, edge.fromNode ∉ subNodeReferencedIds graph

/-- Then every data edge starts at a scheduled node. -/
theorem NoSharedSource.scheduled (h : NoSharedSource graph) (hformed : WellFormed graph registry) :
    ∀ edge ∈ graph.dataEdges, edge.fromNode ∈ scheduledIds graph :=
  fun edge hedge => mem_scheduledIds.mpr
    ⟨(hformed.edge_nodes (GraphSpec.mem_dataEdges.mp hedge)).1, h edge hedge⟩

/-- The nodes are listed so that no data edge leads from a node to one before it. -/
def UpstreamFirst (graph : GraphSpec) : Prop :=
  (graph.nodes.map NodeSpec.id).Pairwise fun earlier later =>
    ∀ edge ∈ graph.dataEdges, edge.fromNode = later → edge.toNode ≠ earlier

instance (graph : GraphSpec) : Decidable (UpstreamFirst graph) :=
  inferInstanceAs (Decidable (List.Pairwise _ _))

/-- A graph listed upstream first meets its pending nodes in order in every run. -/
theorem in_order_of_upstream_first (hformed : WellFormed graph registry)
    (hupstream : UpstreamFirst graph) (h : SchedulerInvariant graph registry possible state) :
    InOrder graph registry state := by
  intro before id after hsplit node definition hdefines slot _ edge hedge hmem
  obtain ⟨hdata, hto, -⟩ := lastEdgeInto_some hedge
  rw [hdefines.id_eq] at hto
  have hpairwise := hupstream.sublist
    (h.pendingSublist.trans (List.filter_sublist (l := graph.nodes.map NodeSpec.id)))
  rw [hsplit, List.pairwise_append, List.pairwise_cons] at hpairwise
  rw [hsplit, List.mem_append, List.mem_cons] at hmem
  rcases hmem with hmem | heq | hmem
  · exact hmem
  · have hlt := hformed.idxOf_lt hdata
    rw [hto, heq] at hlt
    exact absurd hlt (Nat.lt_irrefl _)
  · exact absurd hto (hpairwise.2.1.1 _ hmem edge hdata rfl)

/-! ## Completeness of a run -/

/-- The value a node's own record gives to an output slot. -/
def emitted (trace : List TraceRecord) (source slot : String) : Option Json :=
  (trace.find? fun record => record.nodeId = source).bind fun record => record.outputs.get? slot

/-- The value a slot has by the records of a run: what the source of its data edge emitted,
or the literal of an unfed slot. -/
def inputValue (graph : GraphSpec) (trace : List TraceRecord) (node : NodeSpec)
    (slot : String) : Option Json :=
  match lastEdgeInto graph node.id slot with
  | some edge => emitted trace edge.fromNode edge.fromSlot
  | none => node.inputValues.get? slot

/-- A run is complete when a scheduled node has exactly one record if and only if each of its
required slots has a value, and is executed on exactly the slots that have one. -/
structure CompleteRun (graph : GraphSpec) (registry : NodeRegistry Body)
    (trace : List TraceRecord) : Prop where
  executed : ∀ id ∈ scheduledIds graph, ∀ node definition,
    Defines graph registry id node definition →
    ((trace.filter fun record => record.nodeId = id).length = 1 ↔
      ∀ slot ∈ gatheredSlots definition node, slot.required = true →
        (inputValue graph trace node slot.name).isSome)
  inputs : ∀ record ∈ trace, ∀ node definition,
    Defines graph registry record.nodeId node definition → ∀ name,
      record.inputs.get? name =
        if name ∈ (gatheredSlots definition node).map InputSlotSpec.name then
          inputValue graph trace node name
        else none

/-- Nothing left can become ready: every pending node has a required slot without a value. -/
def Stuck (graph : GraphSpec) (registry : NodeRegistry Body) (state : SchedulerState) : Prop :=
  ∀ id ∈ state.pending, ∀ node definition, Defines graph registry id node definition →
    ∃ slot ∈ gatheredSlots definition node, slot.required = true ∧
      slotValue graph state node slot.name = none

namespace SchedulerInvariant

/-- The available outputs are those of the records. -/
theorem emitted_eq (h : SchedulerInvariant graph registry possible state)
    (source slot : String) :
    emitted state.trace source slot = state.available.get? (source, slot) := by
  refine Option.ext fun value => ?_
  rw [h.available, emitted, Option.bind_eq_some_iff]
  constructor
  · rintro ⟨record, hfind, hvalue⟩
    exact ⟨record, List.mem_of_find?_eq_some hfind, by simpa using List.find?_some hfind, hvalue⟩
  · rintro ⟨record, hrecord, hid, hvalue⟩
    refine ⟨record, ?_, hvalue⟩
    cases hfind : state.trace.find? fun record => record.nodeId = source with
    | none => exact absurd hid (by simpa using List.find?_eq_none.mp hfind record hrecord)
    | some other =>
        have hother := List.mem_of_find?_eq_some hfind
        have hsame : other.nodeId = record.nodeId := by
          rw [hid]
          simpa using List.find?_some hfind
        rw [List.inj_on_of_nodup_map h.traceNodup hother hrecord hsame]

/-- The values of a run's slots are those the scheduler has. -/
theorem inputValue_eq (h : SchedulerInvariant graph registry possible state) (node : NodeSpec)
    (slot : String) :
    inputValue graph state.trace node slot = slotValue graph state node slot := by
  rw [inputValue, slotValue]
  cases lastEdgeInto graph node.id slot with
  | none => rfl
  | some edge => exact h.emitted_eq _ _

/-- A node has exactly one record if and only if it has a record. -/
theorem one_record_iff (h : SchedulerInvariant graph registry possible state) (id : String) :
    (state.trace.filter fun record => record.nodeId = id).length = 1 ↔
      id ∈ state.trace.map TraceRecord.nodeId := by
  rw [← count_records]
  refine ⟨fun hone => ?_, List.count_eq_one_of_mem h.traceNodup⟩
  exact List.count_pos_iff.mp (by omega)

end SchedulerInvariant

/-- When nothing left can become ready, a scheduled node with all required values has a
record. -/
theorem SchedulerInvariant.recorded_of_values
    (h : SchedulerInvariant graph registry possible state) (hstuck : Stuck graph registry state)
    {id : String} (hid : id ∈ scheduledIds graph) {node : NodeSpec}
    {definition : NodeDefinition Body} (hdefines : Defines graph registry id node definition)
    (hvalues : ∀ slot ∈ gatheredSlots definition node, slot.required = true →
      (slotValue graph state node slot.name).isSome) :
    id ∈ state.trace.map TraceRecord.nodeId := by
  by_contra hmem
  -- A scheduled node without a record is pending or was skipped for a missing value.
  have hmissing : ∃ slot ∈ gatheredSlots definition node, slot.required = true ∧
      slotValue graph state node slot.name = none := by
    rcases (h.scheduled id).mp hid with hpending | hfinished
    · exact hstuck id hpending node definition hdefines
    · obtain ⟨other, otherDefinition, hother, slot, hslot, hreq, -, hnone⟩ :=
        h.skipped id hfinished hmem
      obtain ⟨rfl, rfl⟩ := hdefines.unique hother
      exact ⟨slot, hslot, hreq, hnone⟩
  obtain ⟨slot, hslot, hreq, hnone⟩ := hmissing
  have hsome := hvalues slot hslot hreq
  rw [hnone] at hsome
  cases hsome

/-- A run is complete if and only if nothing left can become ready. -/
theorem complete_iff_stuck (h : SchedulerInvariant graph registry possible state) :
    CompleteRun graph registry state.trace ↔ Stuck graph registry state := by
  constructor
  · intro hcomplete id hid node definition hdefines
    have hnone : id ∉ state.trace.map TraceRecord.nodeId := h.pending_not_recorded hid
    have hmissing := mt ((hcomplete.executed id ((h.scheduled id).mpr (Or.inl hid)) node
      definition hdefines).mpr) (mt (h.one_record_iff id).mp hnone)
    push Not at hmissing
    obtain ⟨slot, hslot, hreq, hvalue⟩ := hmissing
    rw [h.inputValue_eq] at hvalue
    exact ⟨slot, hslot, hreq, Option.not_isSome_iff_eq_none.mp hvalue⟩
  · intro hstuck
    refine ⟨fun id hid node definition hdefines => ?_, fun record hrecord node definition
      hdefines name => ?_⟩
    · rw [h.one_record_iff]
      simp only [h.inputValue_eq]
      constructor
      · intro hmem slot hslot hreq
        obtain ⟨record, hrecord, rfl⟩ := List.mem_map.mp hmem
        obtain ⟨-, ⟨other, otherDefinition, hother, hpassed, -⟩, -⟩ := h.recorded record hrecord
        obtain ⟨rfl, rfl⟩ := hdefines.unique hother
        exact (hpassed slot hslot).satisfied hreq
      · exact h.recorded_of_values hstuck hid hdefines
    · obtain ⟨-, ⟨other, otherDefinition, hother, -, hinputs⟩, -⟩ := h.recorded record hrecord
      obtain ⟨rfl, rfl⟩ := hdefines.unique hother
      have hget := get?_collectInputs (slotValue graph state node)
        (gatheredSlots definition node) .empty name
      rw [← hinputs, Dict.get?_empty, Option.or_none] at hget
      rw [hget, h.inputValue_eq]

/-- Every state before a pass progresses. -/
def AlwaysProgresses (graph : GraphSpec) (registry : NodeRegistry Body) (possible : Possible) :
    Prop :=
  ∀ count state, Rounds graph registry possible count state → Progresses graph registry state

/-- The loop stops in this state: the last pass found no ready node. -/
def Stops (graph : GraphSpec) (registry : NodeRegistry Body) (possible : Possible)
    (final : SchedulerState) : Prop :=
  ∃ count state, Rounds graph registry possible count state ∧
    startRound graph registry state = .ok (final, [])

/-- When a pass finds no ready node, nothing left can become ready if and only if the state before
the pass progresses. -/
theorem stuck_iff_progresses {final : SchedulerState}
    (hsources : ∀ edge ∈ graph.dataEdges, edge.fromNode ∈ scheduledIds graph)
    (h : SchedulerInvariant graph registry possible state)
    (hstart : startRound graph registry state = .ok (final, [])) :
    Stuck graph registry final ↔ Progresses graph registry state := by
  obtain ⟨hpending, havailable, hready⟩ := start_round_judged hsources h hstart
  have hnone := hready.mp rfl
  constructor
  · rintro hstuck ⟨id, hid, hvalues⟩
    obtain ⟨node, definition, hdefines, hsatisfied⟩ := hvalues
    obtain ⟨slot, hslot, hrequired, hmissing⟩ := hstuck id
      ((hpending id).mpr ⟨hid, fun hboth => hboth.1 ⟨node, definition, hdefines, hsatisfied⟩⟩)
      node definition hdefines
    have hsome := hsatisfied slot hslot hrequired
    rw [← slot_value_congr havailable, hmissing] at hsome
    cases hsome
  · intro hprogresses id hid node definition hdefines
    have hlacks : ¬ HasValues graph registry state id := by
      intro hvalues
      obtain ⟨other, hother, hjudged⟩ := hprogresses ⟨id, ((hpending id).mp hid).1, hvalues⟩
      exact hnone other hjudged.mem_pending ⟨hother, hjudged⟩
    by_contra hall
    push Not at hall
    refine hlacks ⟨node, definition, hdefines, fun slot hslot hrequired => ?_⟩
    rw [← slot_value_congr havailable]
    exact Option.isSome_iff_ne_none.mpr (hall slot hslot hrequired)

/-! ## Independence of the node order -/

/-- What a run tells about a node that ran: its inputs, outputs and error. -/
def Ran (trace : List TraceRecord) (id : String) (inputs outputs : Config)
    (error : Option String) : Prop :=
  ∃ record ∈ trace, record.nodeId = id ∧ record.inputs = inputs ∧ record.outputs = outputs ∧
    record.error = error

/-- Two runs agree: the same nodes ran with the same inputs and outcomes, and the result
maps have the same entries. -/
structure SameRun (run other : RunResult) : Prop where
  executed : ∀ id inputs outputs error,
    Ran run.trace id inputs outputs error ↔ Ran other.trace id inputs outputs error
  result : ∀ id, run.result.get? id = other.result.get? id

/-- A body's outcome is a function of its node and inputs. -/
def Functional (possible : Possible) : Prop :=
  ∀ node inputs outcome other, possible node inputs outcome → possible node inputs other →
    outcome = other

/-- A reordering of the nodes: the same nodes in any order, and the same edges. -/
structure Reordered (graph other : GraphSpec) : Prop where
  nodes : other.nodes.Perm graph.nodes
  edges : other.edges = graph.edges

namespace Reordered

variable {other : GraphSpec}

theorem symm (h : Reordered graph other) : Reordered other graph :=
  ⟨h.nodes.symm, h.edges.symm⟩

theorem dataEdges_eq (h : Reordered graph other) : other.dataEdges = graph.dataEdges := by
  rw [GraphSpec.dataEdges, GraphSpec.dataEdges, h.edges]

theorem node?_eq (h : Reordered graph other) (id : String) :
    other.node? id = graph.node? id := by
  refine Option.ext fun node => ?_
  constructor
  · intro hnode
    obtain ⟨hmem, rfl⟩ := GraphSpec.mem_of_node? hnode
    exact GraphSpec.node?_of_mem (h.nodes.mem_iff.mp hmem)
  · intro hnode
    obtain ⟨hmem, rfl⟩ := GraphSpec.mem_of_node? hnode
    exact GraphSpec.node?_of_mem (h.nodes.mem_iff.mpr hmem)

theorem lastEdgeInto_eq (h : Reordered graph other) (id slot : String) :
    lastEdgeInto other id slot = lastEdgeInto graph id slot := by
  rw [lastEdgeInto, lastEdgeInto, h.dataEdges_eq]

theorem mem_scheduledIds (h : Reordered graph other) (id : String) :
    id ∈ scheduledIds other ↔ id ∈ scheduledIds graph := by
  have hsub : subNodeReferencedIds other = subNodeReferencedIds graph := by
    rw [subNodeReferencedIds, subNodeReferencedIds, GraphSpec.subNodeEdges,
      GraphSpec.subNodeEdges, h.edges]
  rw [AgentGraphStudio.mem_scheduledIds, AgentGraphStudio.mem_scheduledIds, hsub,
    (h.nodes.map NodeSpec.id).mem_iff]

theorem defines (h : Reordered graph other) {id : String} {node : NodeSpec}
    {definition : NodeDefinition Body} (hdefines : Defines graph registry id node definition) :
    Defines other registry id node definition :=
  ⟨by rw [h.node?_eq, hdefines.found], hdefines.typed⟩

end Reordered

section

variable {other : GraphSpec} {final final' : SchedulerState}

/-- A record of a node is determined by its inputs. -/
theorem RecordsOutcome.functional (hfunctional : Functional possible)
    (hreordered : Reordered graph other) {record record' : TraceRecord}
    (h : RecordsOutcome graph possible record) (h' : RecordsOutcome other possible record')
    (hid : record.nodeId = record'.nodeId) (hinputs : record.inputs = record'.inputs) :
    record.outputs = record'.outputs ∧ record.error = record'.error := by
  obtain ⟨node, outcome, hnode, hpossible, houtcome⟩ := h
  obtain ⟨node', outcome', hnode', hpossible', houtcome'⟩ := h'
  rw [hreordered.node?_eq, ← hid, hnode] at hnode'
  cases hnode'
  rw [← hinputs] at hpossible'
  obtain rfl := hfunctional _ _ _ _ hpossible hpossible'
  cases outcome with
  | ok nodeResult => exact ⟨by rw [houtcome.1, houtcome'.1], by rw [houtcome.2, houtcome'.2]⟩
  | error raised =>
      obtain ⟨message, rfl, houtputs, herror⟩ := houtcome
      obtain ⟨_, hsame, houtputs', herror'⟩ := houtcome'
      cases hsame
      exact ⟨by rw [houtputs, houtputs'], by rw [herror, herror']⟩

/-- A node that ran in one run runs alike in a complete run of a reordered graph, when the
sources of its edges emitted the same values. -/
theorem ran_of_ran (h : SchedulerInvariant graph registry possible final)
    (h' : SchedulerInvariant other registry possible final')
    (hreordered : Reordered graph other) (hfunctional : Functional possible)
    (hstuck : Stuck other registry final') {id : String} {inputs outputs : Config}
    {error : Option String}
    (hsources : ∀ edge ∈ graph.dataEdges, edge.toNode = id → ∀ slot,
      final.available.get? (edge.fromNode, slot) = final'.available.get? (edge.fromNode, slot))
    (hran : Ran final.trace id inputs outputs error) :
    Ran final'.trace id inputs outputs error := by
  obtain ⟨record, hrecord, rfl, rfl, rfl, rfl⟩ := hran
  obtain ⟨hfinished, ⟨node, definition, hdefines, hpassed, hinputs⟩, houtcome⟩ :=
    h.recorded record hrecord
  -- The node is handed the same values, for its sources emitted the same.
  have hvalue : ∀ slot, slotValue graph final node slot = slotValue other final' node slot := by
    intro slot
    rw [slotValue, slotValue, hreordered.lastEdgeInto_eq]
    cases hedge : lastEdgeInto graph node.id slot with
    | none => rfl
    | some edge =>
        obtain ⟨hmem, hto, -⟩ := lastEdgeInto_some hedge
        exact hsources edge hmem (by rw [hto, hdefines.id_eq]) _
  have hscheduled : record.nodeId ∈ scheduledIds other :=
    (hreordered.mem_scheduledIds _).mpr ((h.scheduled _).mpr (Or.inr hfinished))
  have hmem : record.nodeId ∈ final'.trace.map TraceRecord.nodeId := by
    refine h'.recorded_of_values hstuck hscheduled (hreordered.defines hdefines)
      fun slot hslot hreq => ?_
    rw [← hvalue]
    exact (hpassed slot hslot).satisfied hreq
  obtain ⟨record', hrecord', hid⟩ := List.mem_map.mp hmem
  obtain ⟨-, ⟨node', definition', hdefines', -, hinputs'⟩, houtcome'⟩ :=
    h'.recorded record' hrecord'
  have hsame : record.inputs = record'.inputs := by
    obtain ⟨rfl, rfl⟩ := (hreordered.defines hdefines).unique (hid ▸ hdefines')
    simp only [] at hinputs hinputs'
    rw [hinputs, hinputs']
    exact collect_inputs_congr (fun slot _ => hvalue slot.name) _
  obtain ⟨houtputs, herror⟩ :=
    houtcome.functional hfunctional hreordered houtcome' hid.symm hsame
  exact ⟨record', hrecord', hid, hsame.symm, houtputs.symm, herror.symm⟩

/-- Runs of an accepted graph in two node orders agree when both are complete. -/
theorem runs_agree (hformed : WellFormed graph registry)
    (h : SchedulerInvariant graph registry possible final)
    (h' : SchedulerInvariant other registry possible final')
    (hreordered : Reordered graph other) (hfunctional : Functional possible)
    (hstuck : Stuck graph registry final) (hstuck' : Stuck other registry final') :
    SameRun ⟨final.result, final.trace⟩ ⟨final'.result, final'.trace⟩ := by
  have hexecuted : ∀ id inputs outputs error, Ran final.trace id inputs outputs error ↔
      Ran final'.trace id inputs outputs error := by
    intro id
    -- The sources of a node's edges come before it in the topological order.
    induction hrank : (kahnOrder (graph.nodes.map NodeSpec.id) graph.dataEdges).1.idxOf id
      using Nat.strongRecOn generalizing id with
    | ind rank ih =>
        have hsources : ∀ edge ∈ graph.dataEdges, edge.toNode = id → ∀ slot,
            final.available.get? (edge.fromNode, slot) =
              final'.available.get? (edge.fromNode, slot) := by
          rintro edge hedge rfl slot
          have hsource := ih _ (hrank ▸ hformed.idxOf_lt hedge) edge.fromNode rfl
          refine Option.ext fun value => ?_
          rw [h.available, h'.available]
          constructor
          · rintro ⟨record, hrecord, hid, hget⟩
            obtain ⟨record', hrecord', hid', -, houtputs, -⟩ :=
              (hsource _ _ _).mp ⟨record, hrecord, hid, rfl, rfl, rfl⟩
            exact ⟨record', hrecord', hid', by rw [houtputs, hget]⟩
          · rintro ⟨record, hrecord, hid, hget⟩
            obtain ⟨record', hrecord', hid', -, houtputs, -⟩ :=
              (hsource _ _ _).mpr ⟨record, hrecord, hid, rfl, rfl, rfl⟩
            exact ⟨record', hrecord', hid', by rw [houtputs, hget]⟩
        intro inputs outputs error
        refine ⟨ran_of_ran h h' hreordered hfunctional hstuck' hsources,
          ran_of_ran h' h hreordered.symm hfunctional hstuck ?_⟩
        intro edge hedge hto slot
        exact (hsources edge (hreordered.dataEdges_eq ▸ hedge) hto slot).symm
  refine ⟨hexecuted, fun id => Option.ext fun value => ?_⟩
  have hslot : ∀ id, resultSlotOf other registry id = resultSlotOf graph registry id := by
    intro id
    rw [resultSlotOf, resultSlotOf, hreordered.node?_eq]
  rw [h.results, h'.results]
  constructor
  · rintro ⟨record, hrecord, hid, herror, slot, hresult, hget⟩
    obtain ⟨record', hrecord', hid', hinputs, -, herror'⟩ :=
      (hexecuted _ _ _ _).mp ⟨record, hrecord, hid, rfl, rfl, rfl⟩
    exact ⟨record', hrecord', hid', by rw [herror', herror], slot, by rw [hslot, hresult],
      by rw [hinputs, hget]⟩
  · rintro ⟨record, hrecord, hid, herror, slot, hresult, hget⟩
    obtain ⟨record', hrecord', hid', hinputs, -, herror'⟩ :=
      (hexecuted _ _ _ _).mpr ⟨record, hrecord, hid, rfl, rfl, rfl⟩
    exact ⟨record', hrecord', hid', by rw [herror', herror], slot, by rw [← hslot, hresult],
      by rw [hinputs, hget]⟩

end

/-- The bodies of a registry are functions of their node and inputs. -/
theorem behaves_functional (registry : NodeRegistry PureBody) (resources : Resources) :
    Functional (behaves registry resources) := by
  rintro node inputs outcome other ⟨definition, hdefinition, rfl⟩ ⟨_, hother, rfl⟩
  rw [hdefinition] at hother
  cases hother
  rfl

/-- The state in which the main loop over pure bodies stops, from its first state. -/
def finalState (graph : GraphSpec) (registry : NodeRegistry PureBody) (resources : Resources)
    (now uuid runId : String) : Except Raised SchedulerState :=
  schedulePure graph registry resources now uuid runId (scheduledIds graph).length
    (initialState graph)

/-- The loop stops in a state that the relation between rounds describes. -/
theorem final_state_stops {registry : NodeRegistry PureBody} {resources : Resources}
    {now uuid runId : String} {final : SchedulerState}
    (hfinal : finalState graph registry resources now uuid runId = .ok final) :
    Stops graph registry (behaves registry resources) final := by
  obtain ⟨count, last, hlast, hstart⟩ := schedule_stops .start (Nat.le_refl _) hfinal
  exact ⟨count, last, hlast, hstart⟩

/-- The loop stops in a state that satisfies the invariant. -/
theorem Stops.invariant {final : SchedulerState} (h : Stops graph registry possible final) :
    SchedulerInvariant graph registry possible final := by
  obtain ⟨_, _, hlast, hstart⟩ := h
  exact (start_round_spec hlast.invariant.1 hstart).invariant

/-- Nothing is left to become ready where the loop stops, if every state progresses. -/
theorem Stops.stuck {final : SchedulerState}
    (hsources : ∀ edge ∈ graph.dataEdges, edge.fromNode ∈ scheduledIds graph)
    (hprogresses : AlwaysProgresses graph registry possible)
    (h : Stops graph registry possible final) : Stuck graph registry final := by
  obtain ⟨count, state, hrounds, hstart⟩ := h
  exact (stuck_iff_progresses hsources hrounds.invariant.1 hstart).mpr
    (hprogresses count state hrounds)

/-- For an accepted graph whose data edges start at scheduled nodes, every run is complete if and
only if every state before a pass progresses. The main loop is such a run, and it does not depend
on the order of the nodes if both orders progress. -/
theorem complete_run_iff {registry : NodeRegistry PureBody} {store : ConnectionStore}
    {userId : Option String} {slotMappings : Dict String String} {resources : Resources}
    (haccepted : validateGraph graph registry store userId slotMappings = .ok ())
    (hsources : NoSharedSource graph) :
    ((∀ final, Stops graph registry (behaves registry resources) final →
      CompleteRun graph registry final.trace) ↔
        AlwaysProgresses graph registry (behaves registry resources)) ∧
    ∀ now uuid runId final, finalState graph registry resources now uuid runId = .ok final →
      Stops graph registry (behaves registry resources) final ∧
      ∀ other final', Reordered graph other →
        finalState other registry resources now uuid runId = .ok final' →
        AlwaysProgresses graph registry (behaves registry resources) →
        AlwaysProgresses other registry (behaves registry resources) →
        SameRun ⟨final.result, final.trace⟩ ⟨final'.result, final'.trace⟩ := by
  have hformed := (validate_graph_ok_iff.mp haccepted).1
  have hscheduled := hsources.scheduled hformed
  refine ⟨⟨fun hcomplete count state hrounds => ?_, fun hprogresses final hstops =>
    (complete_iff_stuck hstops.invariant).mpr (hstops.stuck hscheduled hprogresses)⟩,
    fun now uuid runId final hfinal => ⟨final_state_stops hfinal,
      fun other final' hreordered hfinal' hprogresses hprogresses' => ?_⟩⟩
  · have hinvariant := hrounds.invariant.1
    obtain ⟨later, ready, hstart⟩ := hinvariant.start_round_total
      (check_unregistered_types_eq_nil_iff.mp hformed.registered)
    cases ready with
    | nil =>
        have hstops : Stops graph registry (behaves registry resources) later :=
          ⟨count, state, hrounds, hstart⟩
        exact (stuck_iff_progresses hscheduled hinvariant hstart).mp
          ((complete_iff_stuck hstops.invariant).mp (hcomplete later hstops))
    | cons entry ready => exact progresses_of_in_order hscheduled hinvariant hstart nofun
  · have hscheduled' : ∀ edge ∈ other.dataEdges, edge.fromNode ∈ scheduledIds other :=
      fun edge hedge => (hreordered.mem_scheduledIds _).mpr
        (hscheduled edge (hreordered.dataEdges_eq ▸ hedge))
    have hstops := final_state_stops hfinal
    have hstops' := final_state_stops hfinal'
    exact runs_agree hformed hstops.invariant hstops'.invariant hreordered
      (behaves_functional registry resources) (hstops.stuck hscheduled hprogresses)
      (hstops'.stuck hscheduled' hprogresses')

/-- Types of three nodes: one that emits nothing, one with a required input and one with an
optional input. -/
def optionalInputTypes : NodeRegistry PureBody :=
  .ofList
    [{ typeName := "root_no_output", inputs := [], outputs := [⟨"text", TEXT⟩]
       configModel := fun _ => .ok (), execute := fun _ => .ok {} },
     { typeName := "relay", inputs := [{ name := "text", type := TEXT }]
       outputs := [⟨"text", TEXT⟩], configModel := fun _ => .ok (), execute := fun _ => .ok {} },
     { typeName := "greeter", inputs := [{ name := "title", type := TEXT, required := false }]
       outputs := [⟨"greeting", TEXT⟩], configModel := fun _ => .ok ()
       execute := fun _ => .ok {} }]

/-- `silent` feeds `relay`, which feeds the optional input of `greeter`. -/
def optionalInputEdges : List EdgeSpec :=
  [.data ⟨"silent", "text", "relay", "text"⟩, .data ⟨"relay", "text", "greeter", "title"⟩]

/-- The graph with its nodes in the order of the edges. -/
def upstreamFirst : GraphSpec where
  version := "0.1"
  nodes := [{ id := "silent", type := "root_no_output" }, { id := "relay", type := "relay" },
    { id := "greeter", type := "greeter" }]
  edges := optionalInputEdges
  nodupIds := by decide

/-- The same graph with its nodes in the opposite order. -/
def downstreamFirst : GraphSpec where
  version := "0.1"
  nodes := [{ id := "greeter", type := "greeter" }, { id := "relay", type := "relay" },
    { id := "silent", type := "root_no_output" }]
  edges := optionalInputEdges
  nodupIds := by decide

/-- The record of a node of these types. -/
def quietRecord (nodeId nodeType : String) : TraceRecord :=
  { runId := "run", nodeId, nodeType, startedAt := "now", finishedAt := "now", inputs := .empty
    outputs := .empty }

/-- Where the loop stops when the nodes come in the order of the edges. -/
def upstreamFirstFinal : SchedulerState where
  pending := []
  finished := ["silent", "relay", "greeter"]
  available := .empty
  trace := [quietRecord "silent" "root_no_output", quietRecord "greeter" "greeter"]
  result := .empty

/-- Where the loop stops when they come in the opposite order: the second pass meets
`greeter` before it blocks `relay`, finds no ready node and ends the loop. -/
def downstreamFirstFinal : SchedulerState where
  pending := ["greeter"]
  finished := ["silent", "relay"]
  available := .empty
  trace := [quietRecord "silent" "root_no_output"]
  result := .empty

/-- The first round in the order of the edges. -/
theorem upstream_first_round :
    Round upstreamFirst optionalInputTypes (behaves optionalInputTypes {})
      (initialState upstreamFirst)
      { upstreamFirstFinal with
        pending := ["relay", "greeter"]
        finished := ["silent"]
        trace := [quietRecord "silent" "root_no_output"] } :=
  ⟨initialState upstreamFirst, [("silent", .empty)],
    [⟨"silent", some {}, quietRecord "silent" "root_no_output"⟩], rfl, by simp,
    .cons ⟨{ id := "silent", type := "root_no_output" }, "run", "now", "now", .ok {}, rfl,
      ⟨_, rfl, rfl⟩, rfl⟩ .nil, rfl⟩

/-- After the first round one node has run and two are left. -/
theorem upstream_first_safety :
    1 + ["relay", "greeter"].length ≤ (scheduledIds upstreamFirst).length :=
  (scheduler_safety
    (show Registered upstreamFirst optionalInputTypes from
      check_unregistered_types_eq_nil_iff.mp rfl)
    (by
      intro node hnode definition hdefinition slot hslot
      simp only [upstreamFirst, List.mem_cons, List.not_mem_nil, or_false] at hnode
      rcases hnode with rfl | rfl | rfl <;> cases hdefinition <;> cases hslot)
    (.next .start upstream_first_round)).2.2.2.1

/-- In the order of the edges every state progresses. -/
theorem upstream_first_progresses :
    AlwaysProgresses upstreamFirst optionalInputTypes (behaves optionalInputTypes {}) := by
  have haccepted : validateGraph upstreamFirst optionalInputTypes [] none .empty = .ok () := rfl
  have hformed := (validate_graph_ok_iff.mp haccepted).1
  have hsources : NoSharedSource upstreamFirst := by
    unfold NoSharedSource
    decide
  intro count state hrounds
  obtain ⟨later, ready, hstart⟩ := hrounds.invariant.1.start_round_total
    (check_unregistered_types_eq_nil_iff.mp hformed.registered)
  exact progresses_of_in_order (hsources.scheduled hformed) hrounds.invariant.1 hstart fun _ =>
    in_order_of_upstream_first hformed (by decide) hrounds.invariant.1

/-- In the order of the edges the run is complete. -/
theorem upstream_first_complete :
    CompleteRun upstreamFirst optionalInputTypes upstreamFirstFinal.trace :=
  (complete_run_iff
    (show validateGraph upstreamFirst optionalInputTypes [] none .empty = .ok () from rfl)
    (by unfold NoSharedSource; decide)).1.mpr upstream_first_progresses _
      (final_state_stops
        (show finalState upstreamFirst optionalInputTypes {} "now" "uuid" "run" =
          .ok upstreamFirstFinal from rfl))

/-- In the opposite order the accepted graph loses a node none of whose slots is required, so
the run is not complete and differs from the one in the order of the edges. -/
theorem downstream_first_incomplete :
    validateGraph downstreamFirst optionalInputTypes [] none .empty = .ok () ∧
    NoSharedSource downstreamFirst ∧
    finalState downstreamFirst optionalInputTypes {} "now" "uuid" "run" =
      .ok downstreamFirstFinal ∧
    ¬ CompleteRun downstreamFirst optionalInputTypes downstreamFirstFinal.trace ∧
    Reordered upstreamFirst downstreamFirst ∧
    finalState upstreamFirst optionalInputTypes {} "now" "uuid" "run" = .ok upstreamFirstFinal ∧
    ¬ SameRun ⟨upstreamFirstFinal.result, upstreamFirstFinal.trace⟩
      ⟨downstreamFirstFinal.result, downstreamFirstFinal.trace⟩ := by
  refine ⟨rfl, by unfold NoSharedSource; decide, rfl, fun hcomplete => ?_,
    ⟨(List.reverse_perm _).symm, rfl⟩, rfl, fun hsame => ?_⟩
  · have hone := (hcomplete.executed "greeter" (by decide) _ _ ⟨rfl, rfl⟩).mpr (by
      intro slot hslot hreq
      obtain rfl := List.mem_singleton.mp hslot
      cases hreq)
    exact absurd hone (by decide)
  · obtain ⟨record, hrecord, hid, -⟩ := (hsame.executed "greeter" .empty .empty none).mp
      ⟨quietRecord "greeter" "greeter", by simp [upstreamFirstFinal], rfl, rfl, rfl, rfl⟩
    obtain rfl := List.mem_singleton.mp hrecord
    exact absurd hid (by decide)

/-! ## Waiting nodes -/

/-- No node waits for a node that is never scheduled, and the loop is left through a pass
without ready nodes only when no node is pending. -/
structure NeverStarves (graph : GraphSpec) (registry : NodeRegistry Body) (possible : Possible) :
    Prop where
  sources : ∀ edge ∈ graph.dataEdges, edge.fromNode ∈ (initialState graph).pending
  awaited : ∀ count state, Rounds graph registry possible count state →
    ∀ edge ∈ graph.dataEdges, edge.fromNode ∉ state.finished → edge.fromNode ∈ state.pending
  exit : ∀ count state, Rounds graph registry possible count state →
    ∀ final, startRound graph registry state = .ok (final, []) → final.pending = []

/-- For an accepted graph, no node starves if and only if no data edge starts at a sub-node
and every pass that finds no ready node meets the pending nodes in order. -/
theorem never_starves_iff {store : ConnectionStore} {userId : Option String}
    {slotMappings : Dict String String}
    (haccepted : validateGraph graph registry store userId slotMappings = .ok ()) :
    NeverStarves graph registry possible ↔
      NoSharedSource graph ∧ ∀ count state, Rounds graph registry possible count state →
        ∀ final, startRound graph registry state = .ok (final, []) →
          InOrder graph registry state := by
  have hformed := (validate_graph_ok_iff.mp haccepted).1
  constructor
  · intro h
    refine ⟨fun edge hedge => (mem_scheduledIds.mp (h.sources edge hedge)).2,
      fun count state hrounds final hstart => ?_⟩
    exact (empty_exit_iff h.sources hrounds.invariant.1 hstart).mp
      (h.exit count state hrounds final hstart)
  · rintro ⟨hshared, horder⟩
    have hsources := hshared.scheduled hformed
    refine ⟨hsources, fun count state hrounds edge hedge hunfinished => ?_,
      fun count state hrounds final hstart => ?_⟩
    · exact ((hrounds.invariant.1.scheduled _).mp (hsources edge hedge)).resolve_right hunfinished
    · exact (empty_exit_iff hsources hrounds.invariant.1 hstart).mpr
        (horder count state hrounds final hstart)

/-- Types of a cluster: a root that takes tools, a tool and a sink. -/
def clusterTypes : NodeRegistry PureBody :=
  .ofList
    [{ typeName := "tool_group", inputs := [], outputs := [], configModel := fun _ => .ok ()
       execute := fun _ => .error (.exception "'tool_group' is a sub-node type")
       subNodeSlots := some (.ofList [("tools", { cardinality := .many })]) },
     { typeName := "uppercase_text", inputs := [{ name := "text", type := TEXT }]
       outputs := [⟨"text", TEXT⟩], configModel := fun _ => .ok (), execute := fun _ => .ok {} },
     { typeName := "text_output", inputs := [{ name := "text", type := TEXT }], outputs := []
       configModel := fun _ => .ok (), execute := fun _ => .ok {}, resultSlot := some "text" }]

/-- A tool of a group whose output also feeds a scheduled node. -/
def sharedToolGraph : GraphSpec where
  version := "0.1"
  nodes := [{ id := "tools", type := "tool_group" }, { id := "upper", type := "uppercase_text" },
    { id := "out", type := "text_output" }]
  edges := [.subNode ⟨"upper", "tools", "tools"⟩, .data ⟨"upper", "text", "out", "text"⟩]
  nodupIds := by decide

/-- In the order of the edges no node starves. -/
theorem upstream_first_never_starves :
    NeverStarves upstreamFirst optionalInputTypes (behaves optionalInputTypes {}) := by
  have haccepted : validateGraph upstreamFirst optionalInputTypes [] none .empty = .ok () := rfl
  refine (never_starves_iff haccepted).mpr ⟨by unfold NoSharedSource; decide, ?_⟩
  intro count state hrounds final _
  exact in_order_of_upstream_first (validate_graph_ok_iff.mp haccepted).1 (by decide)
    hrounds.invariant.1

/-- The validator accepts a graph in which a scheduled node waits for a tool, which is never
scheduled: the loop is left with the node pending. -/
theorem shared_tool_starves :
    validateGraph sharedToolGraph clusterTypes [] none .empty = .ok () ∧
    ¬ NeverStarves sharedToolGraph clusterTypes (behaves clusterTypes {}) ∧
    (finalState sharedToolGraph clusterTypes {} "now" "uuid" "run").map SchedulerState.pending =
      .ok ["out"] := by
  refine ⟨rfl, fun h => ?_, rfl⟩
  exact absurd (h.sources ⟨"upper", "text", "out", "text"⟩ (by simp [sharedToolGraph]))
    (by decide)

end AgentGraphStudio
