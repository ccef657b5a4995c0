import AgentGraphStudio.Lib.Replay
import AgentGraphStudio.Schema.Json

/-!
# Pending and remembered approvals

`backend/execution/approvals.py`, split into the steps that other threads can fall between:
every block under `_lock` is one step, and so is every access to a pending object. An
`ApprovalOp` is one such step and `ApprovalOp.perform` what it does to the two module-level
maps and to the objects. The threads that perform them are programs of another module.

A decision or a clear of one run cannot be noticed by another run: `other_runs_unnoticed`.
-/

namespace AgentGraphStudio

/-- A pending approval object, without its two mutable parts. Objects are told apart by their
serial number, whatever approval ids `uuid4` gives them. -/
structure PendingApproval where
  serial : Nat
  approvalId : String
  runId : String
  toolName : String
  arguments : Config
  deriving DecidableEq

/-- The module's maps and the mutable parts of all objects: the number of objects created so
far, the decisions of the objects that have one, and the objects whose event is set. -/
structure Broker where
  created : Nat
  decisions : Dict PendingApproval Bool
  events : List PendingApproval
  pending : Dict String PendingApproval
  remembered : Dict (String × String) Bool

/-- Nothing is pending or remembered when the process starts. -/
def Broker.initial : Broker := ⟨0, .empty, [], .empty, .empty⟩

/-- One step of a requester, of a resolver, of a reader or of the end of a run. -/
inductive ApprovalOp where
  | checkRemembered (runId toolName : String)
  | addPending (approvalId runId toolName : String) (arguments : Config)
  | wait (pending : PendingApproval)
  | readDecision (pending : PendingApproval)
  | popPending (approvalId : String)
  | getPending (approvalId : String)
  | setDecision (pending : PendingApproval) (approved : Bool)
  | remember (pending : PendingApproval) (approved : Bool)
  | setEvent (pending : PendingApproval)
  | clearRemembered (runId : String)
  | listPending (runId : String)

namespace ApprovalOp

/-- What a step tells the thread that performs it. -/
abbrev Response : ApprovalOp → Type
  | checkRemembered .. => Option Bool
  | addPending .. => PendingApproval
  | readDecision .. => Bool
  | getPending .. => Option PendingApproval
  | listPending .. => List PendingApproval
  | _ => Unit

/-- Perform a step. Only waiting can block: until the event of the object is set. -/
def perform : (op : ApprovalOp) → Broker → Option (op.Response × Broker)
  | checkRemembered runId toolName, broker =>
    some (broker.remembered.get? (runId, toolName), broker)
  | addPending approvalId runId toolName arguments, broker =>
    let pending : PendingApproval := ⟨broker.created, approvalId, runId, toolName, arguments⟩
    some (pending, { broker with
      created := broker.created + 1
      pending := broker.pending.set approvalId pending })
  | wait pending, broker => if pending ∈ broker.events then some ((), broker) else none
  | readDecision pending, broker => some (broker.decisions.getD pending false, broker)
  | popPending approvalId, broker =>
    some ((), { broker with pending := broker.pending.erase approvalId })
  | getPending approvalId, broker => some (broker.pending.get? approvalId, broker)
  | setDecision pending approved, broker =>
    some ((), { broker with decisions := broker.decisions.set pending approved })
  | remember pending approved, broker =>
    some ((), { broker with
      remembered := broker.remembered.set (pending.runId, pending.toolName) approved })
  | setEvent pending, broker => some ((), { broker with events := pending :: broker.events })
  | clearRemembered runId, broker =>
    let keys := broker.remembered.keys.filter fun key => key.1 = runId
    some ((), { broker with remembered := keys.foldl Dict.erase broker.remembered })
  | listPending runId, broker =>
    some (broker.pending.values.filter fun pending => pending.runId = runId, broker)

end ApprovalOp

/-- What happened to the broker. -/
abbrev ApprovalEvent := Event ApprovalOp ApprovalOp.Response

/-! ## What a response says about the past -/

theorem Dict.get?_foldl_erase {K V : Type} [DecidableEq K] (dict : Dict K V) (keys : List K)
    (key : K) : (keys.foldl Dict.erase dict).get? key =
      if key ∈ keys then none else dict.get? key := by
  induction keys generalizing dict with
  | nil => simp
  | cons head keys ih =>
      rw [List.foldl_cons, ih, Dict.get?_erase]
      by_cases hkeys : key ∈ keys <;> by_cases hhead : key = head <;> simp [hkeys, hhead]

/-- A clear removes the entries of its run and no others. -/
theorem get?_clear_remembered (broker : Broker) (runId : String) (key : String × String) :
    (broker.remembered.keys.filter (fun key => key.1 = runId) |>.foldl Dict.erase
      broker.remembered).get? key =
      if key.1 = runId then none else broker.remembered.get? key := by
  rw [Dict.get?_foldl_erase]
  by_cases hrun : key.1 = runId
  · by_cases hmem : key ∈ broker.remembered.keys
    · simp [hrun, hmem]
    · simp [hrun, Dict.get?_eq_none_iff.mpr hmem]
  · simp [hrun]

/-- The broker's state is backed by its history: a decision was taken and stays taken, an object
whose event is set was woken, a remembered decision was remembered for an approval of the same run
and tool, and a pending approval is found under its own id. -/
structure Backed (history : List ApprovalEvent) (broker : Broker) : Prop where
  keyed : ∀ approvalId pending, broker.pending.get? approvalId = some pending →
    pending.approvalId = approvalId
  woken : ∀ pending ∈ broker.events, ⟨.setEvent pending, ()⟩ ∈ history
  decisions : ∀ pending decision, broker.decisions.get? pending = some decision →
    ⟨.setDecision pending decision, ()⟩ ∈ history
  decided : ∀ pending decision, ⟨.setDecision pending decision, ()⟩ ∈ history →
    (broker.decisions.get? pending).isSome
  remembered : ∀ runId toolName decision,
    broker.remembered.get? (runId, toolName) = some decision →
    ∃ pending, ⟨.remember pending decision, ()⟩ ∈ history ∧ pending.runId = runId ∧
      pending.toolName = toolName

theorem Backed.initial : Backed [] Broker.initial := by
  constructor <;> simp [Broker.initial]

/-- A step that is no decision keeps what it does not touch. -/
theorem Backed.mono {history : List ApprovalEvent} {broker broker' : Broker}
    (h : Backed history broker) {event : ApprovalEvent}
    (hevent : ∀ pending decision, event ≠ ⟨.setDecision pending decision, ()⟩)
    (hpending : ∀ approvalId pending, broker'.pending.get? approvalId = some pending →
      broker.pending.get? approvalId = some pending ∨ pending.approvalId = approvalId)
    (hevents : ∀ pending ∈ broker'.events,
      pending ∈ broker.events ∨ event = ⟨.setEvent pending, ()⟩)
    (hdecisions : broker'.decisions = broker.decisions)
    (hremembered : ∀ key decision, broker'.remembered.get? key = some decision →
      broker.remembered.get? key = some decision) : Backed (history ++ [event]) broker' := by
  refine ⟨fun approvalId pending hget => ?_, fun pending hmem => ?_,
    fun pending decision hget => ?_,
    fun pending decision hmem => ?_, fun runId toolName decision hkey => ?_⟩
  · exact (hpending approvalId pending hget).elim (h.keyed approvalId pending) id
  · rcases hevents pending hmem with hbefore | rfl
    · exact List.mem_append_left _ (h.woken pending hbefore)
    · simp
  · rw [hdecisions] at hget
    exact List.mem_append_left _ (h.decisions pending decision hget)
  · rw [hdecisions]
    rcases List.mem_append.mp hmem with hbefore | hnow
    · exact h.decided pending decision hbefore
    · exact absurd (List.mem_singleton.mp hnow).symm (hevent pending decision)
  · obtain ⟨pending, hmem, hmatch⟩ := h.remembered runId toolName decision (hremembered _ _ hkey)
    exact ⟨pending, List.mem_append_left _ hmem, hmatch⟩

/-- Every step records what backs it. -/
theorem Backed.perform {history : List ApprovalEvent} {broker next : Broker} {op : ApprovalOp}
    {response : op.Response} (h : Backed history broker)
    (hstep : op.perform broker = some (response, next)) :
    Backed (history ++ [⟨op, response⟩]) next := by
  cases op with
  | setDecision pending approved =>
      cases hstep
      -- The step is itself what backs the decision that it stores.
      refine ⟨h.keyed, fun other hother => List.mem_append_left _ (h.woken other hother),
        fun other decision hother => ?_, fun other decision hother => ?_,
        fun runId toolName decision hkey => ?_⟩
      · rw [Dict.get?_set] at hother
        split at hother
        · rename_i heq
          cases hother
          exact List.mem_append_right _ (by simp [heq])
        · exact List.mem_append_left _ (h.decisions other decision hother)
      · rw [Dict.get?_set]
        split
        · rfl
        · rename_i hne
          rcases List.mem_append.mp hother with hbefore | hnow
          · exact h.decided other decision hbefore
          · cases List.mem_singleton.mp hnow
            exact absurd rfl hne
      · obtain ⟨other, hmem, hmatch⟩ := h.remembered runId toolName decision hkey
        exact ⟨other, List.mem_append_left _ hmem, hmatch⟩
  | remember pending approved =>
      cases hstep
      -- Everything is as before but the remembered decision, which the pending approval backs.
      have hsame : Backed (history ++ [⟨.remember pending approved, ()⟩]) broker :=
        h.mono (fun _ _ hsame => by cases hsame) (fun _ _ => .inl) (fun _ => .inl) rfl fun _ _ => id
      refine ⟨hsame.keyed, hsame.woken, hsame.decisions, hsame.decided,
        fun runId toolName decision hkey => ?_⟩
      rw [Dict.get?_set] at hkey
      split at hkey
      · rename_i heq
        cases hkey
        cases heq
        exact ⟨pending, by simp, rfl, rfl⟩
      · obtain ⟨other, hmem, hmatch⟩ := h.remembered runId toolName decision hkey
        exact ⟨other, List.mem_append_left _ hmem, hmatch⟩
  | addPending approvalId runId toolName arguments =>
      cases hstep
      refine h.mono (fun _ _ hsame => by cases hsame) (fun other pending hget => ?_) (fun _ => .inl)
        rfl fun _ _ => id
      rw [Dict.get?_set] at hget
      split at hget
      · rename_i heq
        cases hget
        exact .inr heq.symm
      · exact .inl hget
  | popPending approvalId =>
      cases hstep
      refine h.mono (fun _ _ hsame => by cases hsame) (fun other pending hget => ?_) (fun _ => .inl)
        rfl fun _ _ => id
      rw [Dict.get?_erase] at hget
      split at hget
      · cases hget
      · exact .inl hget
  | setEvent pending =>
      cases hstep
      refine h.mono (fun _ _ hsame => by cases hsame) (fun _ _ => .inl) (fun other hother => ?_) rfl
        fun _ _ => id
      rcases List.mem_cons.mp hother with rfl | hbefore
      · exact .inr rfl
      · exact .inl hbefore
  | clearRemembered runId =>
      cases hstep
      refine h.mono (fun _ _ hsame => by cases hsame) (fun _ _ => .inl) (fun _ => .inl) rfl
        fun key decision hkey => ?_
      rw [get?_clear_remembered] at hkey
      split at hkey
      · cases hkey
      · exact hkey
  | wait pending =>
      rw [ApprovalOp.perform] at hstep
      split at hstep
      · cases hstep
        exact h.mono (fun _ _ hsame => by cases hsame) (fun _ _ => .inl) (fun _ => .inl) rfl
          fun _ _ => id
      · cases hstep
  | checkRemembered | readDecision | getPending | listPending =>
      cases hstep
      exact h.mono (fun _ _ hsame => by cases hsame) (fun _ _ => .inl) (fun _ => .inl) rfl
        fun _ _ => id

/-- Every state that the steps reach is backed by their history. -/
theorem Replays.backed {history : List ApprovalEvent} {broker : Broker}
    (h : Replays ApprovalOp.perform Broker.initial history broker) : Backed history broker :=
  h.invariant .initial fun _ _ _ _ _ hbacked hstep => hbacked.perform hstep

/-- Nothing is remembered for a run that has been cleared, until something is again. -/
theorem Replays.cleared {before after : List ApprovalEvent} {broker : Broker} {runId : String}
    (h : Replays ApprovalOp.perform Broker.initial
      (before ++ ⟨.clearRemembered runId, ()⟩ :: after) broker)
    (hafter : ∀ pending decision, (⟨.remember pending decision, ()⟩ : ApprovalEvent) ∈ after →
      pending.runId ≠ runId) (toolName : String) :
    broker.remembered.get? (runId, toolName) = none := by
  obtain ⟨here, there, _, hclear, hrest⟩ := h.at_event
  cases hclear
  refine @Replays.invariant _ _ _ ApprovalOp.perform _ _ _ (fun events broker =>
    (∀ event ∈ events, event ∈ after) → broker.remembered.get? (runId, toolName) = none) ?_ ?_ hrest
    fun _ => id
  · intro _
    rw [get?_clear_remembered, if_pos rfl]
  · intro events broker op response next hnone hstep hmem
    have hbefore := hnone fun event hevent => hmem event (List.mem_append_left _ hevent)
    have hnow := hmem ⟨op, response⟩ (by simp)
    cases op with
    | remember pending decision =>
        cases hstep
        rw [Dict.get?_set, if_neg, hbefore]
        intro heq
        exact hafter pending decision hnow (congrArg Prod.fst heq).symm
    | clearRemembered other =>
        cases hstep
        rw [get?_clear_remembered]
        split
        · rfl
        · exact hbefore
    | wait pending =>
        rw [ApprovalOp.perform] at hstep
        split at hstep <;> cases hstep
        exact hbefore
    | checkRemembered | addPending | readDecision | popPending | getPending | setDecision
    | setEvent | listPending =>
        cases hstep
        exact hbefore

/-- Waiting ends when the event is set, and changes nothing. -/
theorem ApprovalOp.wait_perform {pending : PendingApproval} {broker next : Broker}
    {response : (wait pending).Response}
    (h : (wait pending).perform broker = some (response, next)) :
    pending ∈ broker.events ∧ next = broker := by
  rw [perform] at h
  split at h
  · rename_i hset
    cases h
    exact ⟨hset, rfl⟩
  · cases h

/-- What is pending was added under its id. -/
theorem Replays.added {history : List ApprovalEvent} {broker : Broker}
    (h : Replays ApprovalOp.perform Broker.initial history broker) {approvalId : String}
    {pending : PendingApproval} (hget : broker.pending.get? approvalId = some pending) :
    ∃ runId toolName arguments,
      (⟨.addPending approvalId runId toolName arguments, pending⟩ : ApprovalEvent) ∈ history := by
  refine @Replays.invariant _ _ _ ApprovalOp.perform _ _ _ (fun events broker =>
    ∀ approvalId pending, broker.pending.get? approvalId = some pending →
      ∃ runId toolName arguments,
        (⟨.addPending approvalId runId toolName arguments, pending⟩ : ApprovalEvent) ∈ events)
    ?_ ?_ h approvalId pending hget
  · intro approvalId pending hnone
    cases hnone
  · intro events broker op response next hadded hstep approvalId pending hpending
    -- Whatever the step is, what was pending before it was added before it.
    have hbefore : broker.pending.get? approvalId = some pending →
        ∃ runId toolName arguments,
          (⟨.addPending approvalId runId toolName arguments, pending⟩ : ApprovalEvent) ∈
            events ++ [⟨op, response⟩] := by
      intro hbefore
      obtain ⟨runId, toolName, arguments, hmem⟩ := hadded approvalId pending hbefore
      exact ⟨runId, toolName, arguments, List.mem_append_left _ hmem⟩
    cases op with
    | addPending newId runId toolName arguments =>
        cases hstep
        rw [Dict.get?_set] at hpending
        split at hpending
        · rename_i heq
          cases heq
          cases hpending
          exact ⟨runId, toolName, arguments, by simp⟩
        · exact hbefore hpending
    | popPending poppedId =>
        cases hstep
        rw [Dict.get?_erase] at hpending
        split at hpending
        · cases hpending
        · exact hbefore hpending
    | wait waiting =>
        cases (ApprovalOp.wait_perform hstep).2
        exact hbefore hpending
    | checkRemembered | readDecision | getPending | setDecision | remember | setEvent
    | clearRemembered | listPending =>
        cases hstep
        exact hbefore hpending

/-- An approval that was removed is not pending, until its id is added again. -/
theorem Replays.popped {before after : List ApprovalEvent} {broker : Broker}
    {approvalId : String}
    (h : Replays ApprovalOp.perform Broker.initial
      (before ++ ⟨.popPending approvalId, ()⟩ :: after) broker)
    (hafter : ∀ runId toolName arguments pending,
      (⟨.addPending approvalId runId toolName arguments, pending⟩ : ApprovalEvent) ∉ after) :
    broker.pending.get? approvalId = none := by
  obtain ⟨here, there, _, hpop, hrest⟩ := h.at_event
  cases hpop
  refine @Replays.invariant _ _ _ ApprovalOp.perform _ _ _ (fun events broker =>
    (∀ event ∈ events, event ∈ after) → broker.pending.get? approvalId = none) ?_ ?_ hrest
    fun _ => id
  · intro _
    rw [Dict.get?_erase, if_pos rfl]
  · intro events broker op response next hnone hstep hmem
    have hbefore := hnone fun event hevent => hmem event (List.mem_append_left _ hevent)
    have hnow := hmem ⟨op, response⟩ (by simp)
    cases op with
    | addPending newId runId toolName arguments =>
        cases hstep
        rw [Dict.get?_set, if_neg, hbefore]
        intro heq
        subst heq
        exact hafter _ _ _ _ hnow
    | popPending poppedId =>
        cases hstep
        rw [Dict.get?_erase]
        split
        · rfl
        · exact hbefore
    | wait waiting =>
        cases (ApprovalOp.wait_perform hstep).2
        exact hbefore
    | checkRemembered | readDecision | getPending | setDecision | remember | setEvent
    | clearRemembered | listPending =>
        cases hstep
        exact hbefore

/-! ## Runs do not notice each other -/

/-- Is this step a decision or a clear of another run, or one by which another run asks what
was decided? -/
def ApprovalOp.foreign (runId : String) : ApprovalOp → Bool
  | checkRemembered other _ | clearRemembered other => other ≠ runId
  | wait pending | readDecision pending | setDecision pending _ | remember pending _
  | setEvent pending => pending.runId ≠ runId
  | addPending .. | popPending _ | getPending _ | listPending _ => false

/-- Two brokers look the same to a run. -/
structure SameView (runId : String) (first second : Broker) : Prop where
  created : first.created = second.created
  pending : first.pending = second.pending
  decisions : ∀ pending, pending.runId = runId →
    first.decisions.get? pending = second.decisions.get? pending
  events : ∀ pending, pending.runId = runId →
    (pending ∈ first.events ↔ pending ∈ second.events)
  remembered : ∀ toolName,
    first.remembered.get? (runId, toolName) = second.remembered.get? (runId, toolName)

/-- A run sees nothing of the decisions and clears of others, and its own steps answer by
what it sees. -/
theorem foreign_unwinding (runId : String) :
    Replays.Unwinding ApprovalOp.perform (ApprovalOp.foreign runId) (SameView runId) where
  respects := by
    intro op state response next other hforeign hstep hview
    cases op with
    | checkRemembered | readDecision =>
        cases hstep
        exact hview
    | wait pending =>
        rw [ApprovalOp.perform] at hstep
        split at hstep <;> cases hstep
        exact hview
    | setDecision pending approved =>
        have hrun : pending.runId ≠ runId := by simpa [ApprovalOp.foreign] using hforeign
        cases hstep
        refine { hview with decisions := fun seen hseen => ?_ }
        rw [← hview.decisions seen hseen]
        exact Dict.get?_set_of_ne _ _ fun heq => hrun (heq ▸ hseen)
    | remember pending approved =>
        have hrun : pending.runId ≠ runId := by simpa [ApprovalOp.foreign] using hforeign
        cases hstep
        refine { hview with remembered := fun toolName => ?_ }
        rw [← hview.remembered toolName]
        exact Dict.get?_set_of_ne _ _ fun heq => hrun (congrArg Prod.fst heq).symm
    | setEvent pending =>
        have hrun : pending.runId ≠ runId := by simpa [ApprovalOp.foreign] using hforeign
        cases hstep
        refine { hview with events := fun seen hseen => ?_ }
        rw [← hview.events seen hseen, List.mem_cons]
        exact or_iff_right fun heq => hrun (heq ▸ hseen)
    | clearRemembered cleared =>
        have hrun : cleared ≠ runId := by simpa [ApprovalOp.foreign] using hforeign
        cases hstep
        refine { hview with remembered := fun toolName => ?_ }
        rw [← hview.remembered toolName, get?_clear_remembered, if_neg hrun.symm]
    -- These steps change or read what every run sees, so they are foreign to none.
    | addPending | popPending | getPending | listPending => cases hforeign
  consistent := by
    intro op state response next other hforeign hstep hview
    cases op with
    | checkRemembered run toolName =>
        have hrun : run = runId := by simpa [ApprovalOp.foreign] using hforeign
        cases hstep
        subst hrun
        exact ⟨other, by rw [ApprovalOp.perform, hview.remembered], hview⟩
    | readDecision pending =>
        have hrun : pending.runId = runId := by simpa [ApprovalOp.foreign] using hforeign
        cases hstep
        refine ⟨other, ?_, hview⟩
        rw [ApprovalOp.perform, Dict.getD, Dict.getD, hview.decisions pending hrun]
    | wait pending =>
        have hrun : pending.runId = runId := by simpa [ApprovalOp.foreign] using hforeign
        rw [ApprovalOp.perform] at hstep
        split at hstep
        · rename_i hset
          cases hstep
          exact ⟨other, by rw [ApprovalOp.perform, if_pos ((hview.events pending hrun).mp hset)],
            hview⟩
        · cases hstep
    | setDecision pending approved =>
        cases hstep
        refine ⟨_, rfl, { hview with decisions := fun seen hseen => ?_ }⟩
        simp only [Dict.get?_set, hview.decisions seen hseen]
    | remember pending approved =>
        cases hstep
        refine ⟨_, rfl, { hview with remembered := fun toolName => ?_ }⟩
        simp only [Dict.get?_set, hview.remembered toolName]
    | setEvent pending =>
        cases hstep
        refine ⟨_, rfl, { hview with events := fun seen hseen => ?_ }⟩
        simp only [List.mem_cons, hview.events seen hseen]
    | clearRemembered cleared =>
        cases hstep
        refine ⟨_, rfl, { hview with remembered := fun toolName => ?_ }⟩
        simp only [get?_clear_remembered, hview.remembered toolName]
    | addPending approvalId run toolName arguments =>
        cases hstep
        -- The number of the approval is a part of what a run sees.
        refine ⟨{ other with
          created := other.created + 1
          pending := other.pending.set approvalId
            ⟨other.created, approvalId, run, toolName, arguments⟩ }, ?_, ?_⟩
        · rw [ApprovalOp.perform, hview.created]
        · exact { hview with
            created := congrArg (· + 1) hview.created
            pending := by rw [hview.created, hview.pending] }
    | popPending approvalId =>
        cases hstep
        exact ⟨_, rfl, { hview with pending := by rw [hview.pending] }⟩
    | getPending approvalId =>
        cases hstep
        exact ⟨other, by rw [ApprovalOp.perform, hview.pending], hview⟩
    | listPending run =>
        cases hstep
        exact ⟨other, by rw [ApprovalOp.perform, hview.pending], hview⟩

/-- Without the decisions and clears of other runs, every step of a run is answered as it
was. -/
theorem other_runs_unnoticed (runId : String) {history : List ApprovalEvent} {broker : Broker}
    (h : Replays ApprovalOp.perform Broker.initial history broker) :
    ∃ broker', Replays ApprovalOp.perform Broker.initial
      (history.filter fun event => !event.op.foreign runId) broker' := by
  have hsame : SameView runId Broker.initial Broker.initial :=
    ⟨rfl, rfl, fun _ _ => rfl, fun _ _ => Iff.rfl, fun _ => rfl⟩
  obtain ⟨broker', hreplays, _⟩ := h.purge (foreign_unwinding runId) hsame
  exact ⟨broker', hreplays⟩

end AgentGraphStudio
