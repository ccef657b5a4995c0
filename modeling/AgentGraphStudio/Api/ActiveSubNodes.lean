import AgentGraphStudio.Api.RunOutcome
import AgentGraphStudio.Nodes.ActivityBalance
import AgentGraphStudio.Nodes.AgentWindow

/-!
# The active sub-nodes of a run

Nodes that run at the same time share the counters behind `on_sub_node_activity`, and an agent may
use a sub-node that another one uses as well. `active_sub_nodes_counted` says that the list of
active sub-nodes is right at every moment of every interleaving: a sub-node is in it exactly if
some caller is between its two notifications, and it is empty when all of them have finished.
-/

namespace AgentGraphStudio

/-- The records of the run after an event of any thread. -/
def RunState.Moves (runId : String) (state : RunState) (event : Event Op Res)
    (state' : RunState) : Prop := state' = state.step runId event

/-- The caller has told that the sub-node is active, and has not taken it back since. -/
def BetweenNotifications (runId id : String) (events : History) : Prop :=
  ∃ before written after,
    events = before ++ ⟨.updateRun runId (.subNodeActivity id true), written⟩ :: after ∧
      ∀ start, start <+: after → 0 ≤ Program.total (Op.activity runId id) start

/-- Only a notification that the sub-node is active adds a caller. -/
theorem activity_eq_one {runId id : String} {op : Op} (h : op.activity runId id = 1) :
    op = .updateRun runId (.subNodeActivity id true) := by
  cases op with
  | updateRun run update =>
      cases update with
      | subNodeActivity subNodeId active =>
          rw [activity_update] at h
          split at h
          · rename_i hsame
            obtain ⟨rfl, rfl⟩ := hsame
            cases active with
            | true => rfl
            | false => exact absurd h (by decide)
          · exact absurd h (by decide)
      | _ => exact absurd (show (0 : ℤ) = 1 from h) (by decide)
  | _ => exact absurd (show (0 : ℤ) = 1 from h) (by decide)

theorem between_notifications_iff {runId id : String} {events : History} :
    BetweenNotifications runId id events ↔ Program.Open (Op.activity runId id) events := by
  constructor
  · intro h
    obtain ⟨before, written, after, hevents, hafter⟩ := h
    exact ⟨before, _, after, hevents, by simp [activity_update], hafter⟩
  · intro h
    obtain ⟨before, ⟨op, written⟩, after, hevents, hevent, hafter⟩ := h
    cases activity_eq_one hevent
    exact ⟨before, written, after, hevents, hafter⟩

/-! ## The counters -/

/-- The counters hold the number of callers of each sub-node that has one, and the list of active
sub-nodes names those. -/
structure CountsActivity (runId : String) (state : RunState) (events : History) : Prop where
  counts : ∀ id, state.counts.get? id =
    if 0 < Program.total (Op.activity runId id) events then
      some (Program.total (Op.activity runId id) events) else none
  active : state.record.activeSubNodeIds = state.counts.keys

section

variable {runId : String} {state : RunState} {events : History}

theorem CountsActivity.getD (h : CountsActivity runId state events) {id : String}
    (hnonneg : 0 ≤ Program.total (Op.activity runId id) events) :
    state.counts.getD id 0 = Program.total (Op.activity runId id) events := by
  rw [Dict.getD, h.counts]
  split
  · rfl
  · show (0 : ℤ) = _
    omega

/-- A sub-node is in the list exactly if it has a caller. -/
theorem CountsActivity.mem_iff (h : CountsActivity runId state events) (id : String) :
    id ∈ state.record.activeSubNodeIds ↔
      0 < Program.total (Op.activity runId id) events := by
  rw [h.active, Dict.mem_keys_iff, h.counts]
  split
  · rename_i hpos
    simp [hpos]
  · rename_i hnone
    simp [hnone]

/-- What a notification leaves in the counters. -/
theorem get?_countActivity (counts : Dict String Int) (subNodeId : String) (active : Bool)
    (id : String) : (countActivity counts subNodeId active).get? id =
      if id = subNodeId then
        if 0 < counts.getD subNodeId 0 + (if active then 1 else -1) then
          some (counts.getD subNodeId 0 + (if active then 1 else -1)) else none
      else counts.get? id := by
  unfold countActivity
  dsimp only
  generalize counts.getD subNodeId 0 + (if active then 1 else -1) = count
  by_cases hid : id = subNodeId
  · rw [if_pos hid, hid]
    by_cases hcount : 0 < count
    · rw [if_pos hcount, if_pos hcount, Dict.get?_set_self]
    · rw [if_neg hcount, if_neg hcount, Dict.get?_erase_self]
  · rw [if_neg hid]
    by_cases hcount : 0 < count
    · rw [if_pos hcount, Dict.get?_set_of_ne _ _ hid]
    · rw [if_neg hcount, Dict.get?_erase_of_ne _ hid]

/-- An operation that weighs nothing does not matter to the counters. -/
theorem CountsActivity.of_silent (h : CountsActivity runId state events) {event : Event Op Res}
    (hweight : ∀ id, event.op.activity runId id = 0) :
    CountsActivity runId state (events ++ [event]) := by
  refine ⟨fun id => ?_, h.active⟩
  rw [Program.total_append, Program.total_cons, Program.total_nil, hweight, add_zero, add_zero]
  exact h.counts id

/-- One event keeps the counters right. -/
theorem CountsActivity.step (h : CountsActivity runId state events) {event : Event Op Res}
    (hpermitted : event.op.LeavesRecord)
    (hnonneg : ∀ id, 0 ≤ Program.total (Op.activity runId id) events) :
    CountsActivity runId (state.step runId event) (events ++ [event]) := by
  obtain ⟨op, written⟩ := event
  cases op with
  | updateRun run update =>
      cases update with
      | subNodeActivity subNodeId active =>
          rw [step_update]
          by_cases hrun : run = runId
          · rw [if_pos hrun]
            refine ⟨fun id => ?_, rfl⟩
            show (countActivity state.counts subNodeId active).get? id = _
            rw [get?_countActivity, h.getD (hnonneg subNodeId), Program.total_append,
              Program.total_cons, Program.total_nil, activity_update, add_zero]
            by_cases hid : id = subNodeId
            · simp only [hid, hrun, and_self, if_true]
            · have hother : ¬ (run = runId ∧ subNodeId = id) := fun hsame => hid hsame.2.symm
              simp only [if_neg hid, if_neg hother, add_zero]
              exact h.counts id
          · rw [if_neg hrun]
            refine h.of_silent fun id => ?_
            rw [activity_update, if_neg fun hsame => hrun hsame.1]
      | _ => cases hpermitted
  | _ => exact h.of_silent fun _ => rfl

end

/-! ## Any interleaving -/

section

variable {ι : Type} [DecidableEq ι] {env : Environment} {runId : String} {depth : ι → Nat}
  {body : ι → Body} {ctx : ι → ExecutionContext} {graphId runBy : Option String}
  {triggerSource startedAt : String} {written : Bool}

/-- Nodes that are executed at the same time, from the start of a run. -/
def executionPool (env : Environment) (depth : ι → Nat) (body : ι → Body)
    (ctx : ι → ExecutionContext) (start : RunState) :
    Pool ι Op Res (Except Raised NodeResult) RunState where
  threads i := (execute env (depth i) (body i) (ctx i)).run
  state := start

/-- No thread has told more often that a sub-node became inactive than that it became active, and
a thread that has finished just as often. -/
theorem thread_activity {start : RunState}
    {pool : Pool ι Op Res (Except Raised NodeResult) RunState}
    (hreach : Pool.Reachable (RunState.Moves runId) (executionPool env depth body ctx start) pool)
    (id : String) (i : ι) :
    (∀ event ∈ pool.eventsOf i, event.op.LeavesRecord) ∧
    (∀ start, start <+: pool.eventsOf i → 0 ≤ Program.total (Op.activity runId id) start) ∧
    (∀ outcome, pool.threads i = .done outcome →
      Program.total (Op.activity runId id) (pool.eventsOf i) = 0) := by
  have hrun := hreach.thread_run rfl i
  have hbalanced := execute_balanced env runId id (depth i) (body i) (ctx i)
  refine ⟨(Program.Settles.run le_rfl hbalanced hrun).1, ?_, ?_⟩
  · intro start hstart
    obtain ⟨middle, hmiddle⟩ := hrun.earlier hstart
    have hlevel := (Program.Settles.run le_rfl hbalanced hmiddle).2.1
    rwa [zero_add] at hlevel
  · intro outcome hdone
    rw [hdone] at hrun
    exact Program.Settles.total_of_ends hbalanced hrun

/-- The counters are right at every moment. -/
theorem pool_counts {pool : Pool ι Op Res (Except Raised NodeResult) RunState}
    (hreach : Pool.Reachable (RunState.Moves runId)
      (executionPool env depth body ctx
        (createRun runId graphId triggerSource startedAt runBy written)) pool) :
    CountsActivity runId pool.state pool.events := by
  induction hreach with
  | refl => exact ⟨fun id => rfl, rfl⟩
  | @tail pool next hbefore hstep ih =>
      have hnonneg : ∀ id, 0 ≤ Program.total (Op.activity runId id) pool.events := fun id =>
        Pool.total_nonneg fun i => (thread_activity hbefore id i).2.1 _ List.prefix_rfl
      have hafter := fun id i => thread_activity (hbefore.tail hstep) id i
      cases hstep with
      | @perform thread op rest response state hthread heffect =>
          rw [Pool.events_perform]
          have hmem : (⟨op, response⟩ : Event Op Res) ∈
              (pool.perform thread ⟨op, response⟩ state (rest response)).eventsOf thread := by
            rw [Pool.eventsOf_perform, if_pos rfl]
            exact List.mem_append_right _ List.mem_cons_self
          have hstate : state = pool.state.step runId ⟨op, response⟩ := heffect
          show CountsActivity runId state _
          rw [hstate]
          exact ih.step ((hafter "" thread).1 _ hmem) hnonneg
      | choose hthread choice => exact ih

/-- For any number of nodes that are executed at the same time, agents among them, and any
interleaving of what they do, whatever the models and tools answer: at every moment, a sub-node is
in the run's list of active sub-nodes exactly if some execution is between its two notifications
for it, and the list is empty once all executions have finished. -/
theorem active_sub_nodes_counted {pool : Pool ι Op Res (Except Raised NodeResult) RunState}
    (hreach : Pool.Reachable (RunState.Moves runId)
      (executionPool env depth body ctx
        (createRun runId graphId triggerSource startedAt runBy written)) pool) :
    (∀ id, id ∈ pool.state.record.activeSubNodeIds ↔
      ∃ i, BetweenNotifications runId id (pool.eventsOf i)) ∧
    ((∀ i, ∃ outcome, pool.threads i = .done outcome) →
      pool.state.record.activeSubNodeIds = []) := by
  have hcounts := pool_counts hreach
  have hstarts : ∀ id i, ∀ start, start <+: pool.eventsOf i →
      0 ≤ Program.total (Op.activity runId id) start :=
    fun id i => (thread_activity hreach id i).2.1
  have hactive : ∀ id, id ∈ pool.state.record.activeSubNodeIds ↔
      ∃ i, 0 < Program.total (Op.activity runId id) (pool.eventsOf i) := by
    intro id
    rw [hcounts.mem_iff]
    exact Pool.total_pos_iff fun i => hstarts id i _ List.prefix_rfl
  refine ⟨fun id => ?_, fun hdone => ?_⟩
  · rw [hactive]
    refine exists_congr fun i => ?_
    rw [between_notifications_iff]
    exact (Program.open_iff (activity_le_one runId id) (hstarts id i)).symm
  · refine List.eq_nil_iff_forall_not_mem.mpr fun id hid => ?_
    obtain ⟨i, hpos⟩ := (hactive id).mp hid
    obtain ⟨outcome, houtcome⟩ := hdone i
    rw [(thread_activity hreach id i).2.2 outcome houtcome] at hpos
    exact absurd hpos (lt_irrefl 0)

end

/-! ### Two agents with one model -/

/-- The agent of a run. -/
def listeningContext : ExecutionContext :=
  { agentContext 2 with
    resources := { (agentContext 2).resources with onSubNodeActivity := some "run" } }

/-- A process whose models fail. -/
def failingRespond (state : RunState) (op : Op) : Option (Res op × RunState) :=
  match op with
  | .completeWithTools profile settings messages tools =>
    some (.error (.exception "overloaded"), state.step "run"
      ⟨.completeWithTools profile settings messages tools, .error (.exception "overloaded")⟩)
  | op => some (helloAnswers [] op, state.step "run" ⟨op, helloAnswers [] op⟩)

theorem failing_respond_moves {state : RunState} {op : Op} {response : Res op}
    {state' : RunState} (h : failingRespond state op = some (response, state')) :
    RunState.Moves "run" state ⟨op, response⟩ state' := by
  cases op <;> cases h <;> rfl

/-- Two agents with the same model. -/
def twoAgents : Pool Bool Op Res (Except Raised NodeResult) RunState :=
  executionPool anthropicEnvironment (fun _ => 3) (fun _ => .agent) (fun _ => listeningContext)
    (createRun "run" none "manual" "2026-01-01T00:00:00+00:00" none true)

set_option maxRecDepth 20000 in
theorem two_agents_follow : ∃ pool,
    twoAgents.follow failingRespond [true, true, false, false, true, true, true, true] =
      some pool ∧ pool.state.record.activeSubNodeIds = ["model"] ∧
    pool.threads true = .done (.error (.exception "agent model call failed: overloaded")) :=
  ⟨_, rfl, rfl, rfl⟩

/-- The model stays active for the second agent when the call of the first one has failed. -/
theorem shared_model_active : ∃ pool,
    Pool.Reachable (RunState.Moves "run") twoAgents pool ∧
    pool.threads true = .done (.error (.exception "agent model call failed: overloaded")) ∧
    ∃ i, BetweenNotifications "run" "model" (pool.eventsOf i) := by
  obtain ⟨pool, hfollow, hactive, hdone⟩ := two_agents_follow
  have hreach : Pool.Reachable (RunState.Moves "run") twoAgents pool :=
    Pool.reachable_of_follow (fun _ _ _ _ => failing_respond_moves) hfollow
  refine ⟨pool, hreach, hdone, ((active_sub_nodes_counted hreach).1 "model").mp ?_⟩
  rw [hactive]
  exact List.mem_cons_self

end AgentGraphStudio
