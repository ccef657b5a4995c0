import AgentGraphStudio.Execution.Engine

/-!
# Gathering inputs

What `gatherSlots` decides about a pending node, in terms of the values its slots have
(`slotValue`) and of the slots whose value is final (`Settled`): `gather_slots_spec`. A
later state of a run `Extends` an earlier one, which keeps final values and so keeps the
verdicts.
-/

namespace AgentGraphStudio

variable {Body : Type}

/-! ## Slots -/

/-- The last data edge into a slot. -/
def lastEdgeInto (graph : GraphSpec) (nodeId slot : String) : Option DataEdge :=
  (graph.dataEdges.filter fun edge => edge.toNode = nodeId ∧ edge.toSlot = slot).getLast?

/-- The table of fed slots holds the last edge into each slot. -/
theorem get?_incomingBySlot (graph : GraphSpec) (nodeId slot : String) :
    (incomingBySlot graph).get? (nodeId, slot) = lastEdgeInto graph nodeId slot := by
  rw [incomingBySlot, Dict.get?_ofList, lastEdgeInto, List.filter_map, List.getLast?_map,
    Option.map_map]
  simp only [Function.comp_def, Prod.mk.injEq, Option.map_id']

theorem lastEdgeInto_some {graph : GraphSpec} {nodeId slot : String} {edge : DataEdge}
    (h : lastEdgeInto graph nodeId slot = some edge) :
    edge ∈ graph.dataEdges ∧ edge.toNode = nodeId ∧ edge.toSlot = slot := by
  have hmem := List.mem_filter.mp (List.mem_of_getLast? h)
  exact ⟨hmem.1, by simpa using hmem.2⟩

theorem lastEdgeInto_isSome {graph : GraphSpec} {edge : DataEdge} (h : edge ∈ graph.dataEdges) :
    ∃ last, lastEdgeInto graph edge.toNode edge.toSlot = some last := by
  rw [lastEdgeInto, ← Option.isSome_iff_exists, List.getLast?_isSome]
  exact List.ne_nil_of_mem (List.mem_filter.mpr ⟨h, by simp⟩)

/-- The value a slot has: that of its data edge, or the literal of an unfed slot. -/
def slotValue (graph : GraphSpec) (state : SchedulerState) (node : NodeSpec) (slot : String) :
    Option Json :=
  match lastEdgeInto graph node.id slot with
  | some edge => state.available.get? (edge.fromNode, edge.fromSlot)
  | none => node.inputValues.get? slot

/-- The source of the slot's edge has finished, so its value is final. -/
def Settled (graph : GraphSpec) (state : SchedulerState) (node : NodeSpec) (slot : String) :
    Prop :=
  ∀ edge, lastEdgeInto graph node.id slot = some edge → edge.fromNode ∈ state.finished

/-- A slot that does not hold its node back: it has a value or is optional. -/
def Satisfied (graph : GraphSpec) (state : SchedulerState) (node : NodeSpec)
    (slot : InputSlotSpec) : Prop :=
  slot.required = true → (slotValue graph state node slot.name).isSome

/-- Every available value comes from a finished node. -/
def AvailableFinished (state : SchedulerState) : Prop :=
  ∀ source slot value, state.available.get? (source, slot) = some value →
    source ∈ state.finished

/-- A slot the gathering gets past. -/
structure Passed (graph : GraphSpec) (state : SchedulerState) (node : NodeSpec)
    (slot : InputSlotSpec) : Prop where
  settled : Settled graph state node slot.name
  satisfied : Satisfied graph state node slot

/-- The inputs made of the slots that have a value. -/
def collectInputs (value : String → Option Json) : List InputSlotSpec → Config → Config
  | [], gathered => gathered
  | slot :: slots, gathered =>
    collectInputs value slots
      (match value slot.name with
      | some json => gathered.set slot.name json
      | none => gathered)

/-- The collected inputs are exactly the values of the named slots. -/
theorem get?_collectInputs (value : String → Option Json) (slots : List InputSlotSpec)
    (gathered : Config) (name : String) :
    (collectInputs value slots gathered).get? name =
      if name ∈ slots.map InputSlotSpec.name then (value name).or (gathered.get? name)
      else gathered.get? name := by
  induction slots generalizing gathered with
  | nil => simp [collectInputs]
  | cons slot slots ih =>
      rw [collectInputs, ih]
      by_cases hname : name = slot.name
      · subst hname
        cases hvalue : value slot.name <;> simp
      · cases hvalue : value slot.name <;> simp [hname, Dict.get?_set_of_ne]

/-- The collected inputs depend on the values of the named slots only. -/
theorem collect_inputs_congr {value value' : String → Option Json} {slots : List InputSlotSpec}
    (h : ∀ slot ∈ slots, value slot.name = value' slot.name) (gathered : Config) :
    collectInputs value slots gathered = collectInputs value' slots gathered := by
  induction slots generalizing gathered with
  | nil => rfl
  | cons slot slots ih =>
      rw [collectInputs, collectInputs, h slot List.mem_cons_self]
      exact ih (fun other hother => h other (List.mem_cons_of_mem slot hother)) _

/-- What each verdict on a node's slots says. The first slot that is not passed decides:
the node is blocked when the slot is settled and waits otherwise. -/
inductive GatherSpec (graph : GraphSpec) (state : SchedulerState) (node : NodeSpec)
    (slots : List InputSlotSpec) (gathered : Config) : Gathered → Prop where
  | ready (passed : ∀ slot ∈ slots, Passed graph state node slot) :
      GatherSpec graph state node slots gathered
        (.ready (collectInputs (slotValue graph state node) slots gathered))
  | blocked (before : List InputSlotSpec) (slot : InputSlotSpec) (after : List InputSlotSpec)
      (split : slots = before ++ slot :: after)
      (passed : ∀ slot ∈ before, Passed graph state node slot)
      (settled : Settled graph state node slot.name) (required : slot.required = true)
      (missing : slotValue graph state node slot.name = none) :
      GatherSpec graph state node slots gathered .blocked
  | waiting (before : List InputSlotSpec) (slot : InputSlotSpec) (after : List InputSlotSpec)
      (split : slots = before ++ slot :: after)
      (passed : ∀ slot ∈ before, Passed graph state node slot) (edge : DataEdge)
      (fed : lastEdgeInto graph node.id slot.name = some edge)
      (missing : slotValue graph state node slot.name = none)
      (unfinished : edge.fromNode ∉ state.finished) :
      GatherSpec graph state node slots gathered .waiting

/-- A slot that is passed leaves the verdict to the remaining slots. -/
theorem GatherSpec.cons {graph : GraphSpec} {state : SchedulerState} {node : NodeSpec}
    {slot : InputSlotSpec} {slots : List InputSlotSpec} {gathered next : Config}
    {verdict : Gathered} (hslot : Passed graph state node slot)
    (hnext : next = match slotValue graph state node slot.name with
      | some json => gathered.set slot.name json
      | none => gathered)
    (h : GatherSpec graph state node slots next verdict) :
    GatherSpec graph state node (slot :: slots) gathered verdict := by
  cases h with
  | ready passed =>
      rw [hnext]
      exact .ready (List.forall_mem_cons.mpr ⟨hslot, passed⟩)
  | blocked before last after split passed settled required missing =>
      exact .blocked (slot :: before) last after (by rw [split, List.cons_append])
        (List.forall_mem_cons.mpr ⟨hslot, passed⟩) settled required missing
  | waiting before last after split passed edge fed missing unfinished =>
      exact .waiting (slot :: before) last after (by rw [split, List.cons_append])
        (List.forall_mem_cons.mpr ⟨hslot, passed⟩) edge fed missing unfinished

/-- Gathering the slots of a node gives the specified verdict. -/
theorem gather_slots_spec {graph : GraphSpec} {state : SchedulerState}
    (havailable : AvailableFinished state) (node : NodeSpec) (slots : List InputSlotSpec)
    (gathered : Config) :
    GatherSpec graph state node slots gathered
      (gatherSlots (incomingBySlot graph) state node slots gathered) := by
  induction slots generalizing gathered with
  | nil => exact .ready (by simp)
  | cons slot slots ih =>
      rw [gatherSlots, get?_incomingBySlot]
      -- A slot without an edge has its literal value or none, and waits for nothing.
      cases hedge : lastEdgeInto graph node.id slot.name with
      | none =>
          have hsettled : Settled graph state node slot.name := by simp [Settled, hedge]
          have hvalue : slotValue graph state node slot.name =
              node.inputValues.get? slot.name := by simp [slotValue, hedge]
          cases hliteral : node.inputValues.get? slot.name with
          | some value =>
              rw [hliteral] at hvalue
              exact .cons ⟨hsettled, fun _ => by rw [hvalue]; rfl⟩ (by rw [hvalue]) (ih _)
          | none =>
              rw [hliteral] at hvalue
              cases hreq : slot.required with
              | true => exact .blocked [] slot slots rfl (by simp) hsettled hreq hvalue
              | false =>
                  exact .cons ⟨hsettled, by simp [Satisfied, hreq]⟩ (by rw [hvalue]) (ih _)
      | some edge =>
          have hvalue : slotValue graph state node slot.name =
              state.available.get? (edge.fromNode, edge.fromSlot) := by
            simp [slotValue, hedge]
          have hsettled : edge.fromNode ∈ state.finished →
              Settled graph state node slot.name := by
            intro hfinished other hother
            obtain rfl : edge = other := by simpa [hedge] using hother
            exact hfinished
          dsimp only
          cases hfound : state.available.get? (edge.fromNode, edge.fromSlot) with
          | some value =>
              rw [hfound] at hvalue
              exact .cons ⟨hsettled (havailable _ _ _ hfound), fun _ => by rw [hvalue]; rfl⟩
                (by rw [hvalue]) (ih _)
          | none =>
              rw [hfound] at hvalue
              by_cases hfinished : edge.fromNode ∈ state.finished
              · cases hreq : slot.required with
                | true =>
                    simp only [hfinished, if_true]
                    exact .blocked [] slot slots rfl (by simp) (hsettled hfinished) hreq hvalue
                | false =>
                    simp only [hfinished, if_true]
                    exact .cons ⟨hsettled hfinished, by simp [Satisfied, hreq]⟩
                      (by rw [hvalue]) (ih _)
              · simp only [hfinished, if_false]
                exact .waiting [] slot slots rfl (by simp) edge hedge hvalue hfinished

/-! ## Growing states -/

/-- A later state: more nodes have finished, and those that had finished before emit no
further output. -/
structure Extends (state later : SchedulerState) : Prop where
  finished : ∀ id ∈ state.finished, id ∈ later.finished
  available : ∀ id ∈ state.finished, ∀ slot,
    later.available.get? (id, slot) = state.available.get? (id, slot)

namespace Extends

variable {graph : GraphSpec} {state later last : SchedulerState} {node : NodeSpec}

theorem refl (state : SchedulerState) : Extends state state := ⟨fun _ h => h, fun _ _ _ => rfl⟩

theorem trans (h : Extends state later) (h' : Extends later last) : Extends state last where
  finished id hid := h'.finished id (h.finished id hid)
  available id hid slot := by rw [h'.available id (h.finished id hid), h.available id hid]

theorem settled (h : Extends state later) {slot : String}
    (hsettled : Settled graph state node slot) : Settled graph later node slot :=
  fun edge hedge => h.finished _ (hsettled edge hedge)

/-- The value of a settled slot is final. -/
theorem slot_value (h : Extends state later) {slot : String}
    (hsettled : Settled graph state node slot) :
    slotValue graph later node slot = slotValue graph state node slot := by
  rw [slotValue, slotValue]
  split
  · exact h.available _ (hsettled _ ‹_›) _
  · rfl

theorem passed (h : Extends state later) {slot : InputSlotSpec}
    (hpassed : Passed graph state node slot) : Passed graph later node slot where
  settled := h.settled hpassed.settled
  satisfied hreq := by
    rw [h.slot_value hpassed.settled]
    exact hpassed.satisfied hreq

end Extends

end AgentGraphStudio
