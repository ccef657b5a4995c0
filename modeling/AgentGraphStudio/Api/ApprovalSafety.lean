import AgentGraphStudio.Api.ApprovalPool
import AgentGraphStudio.Mcp.Ownership

/-!
# No gated call without an approval

Whatever the interleaving of requesters, resolvers, clears and runs, a request that returns
`True` stems from an approval of the same run and tool, and so does every gated call of a run:
`approval_safety`.
-/

namespace AgentGraphStudio

/-! ## Answers on record -/

section

variable {broker : Broker} {history : History}

/-- A decision that was read as `True` was taken. -/
theorem BrokerOf.decided (h : BrokerOf broker history) {pending : PendingApproval}
    (hmem : (⟨.approval (.readDecision pending), true⟩ : Event Op Res) ∈ history) :
    (⟨.approval (.setDecision pending true), ()⟩ : Event Op Res) ∈ history := by
  obtain ⟨before, here, there, hearlier, hreplays, hstep⟩ := h.at_event hmem
  have hread : here.decisions.getD pending false = true :=
    (Prod.mk.inj (Option.some.inj hstep)).1
  refine mem_approvalEvents.mp
    (hearlier.subset ((Replays.backed hreplays).decisions pending true ?_))
  unfold Dict.getD at hread
  cases hget : here.decisions.get? pending with
  | none =>
      rw [hget] at hread
      cases hread
  | some decision =>
      rw [hget] at hread
      exact congrArg some hread

/-- A remembered `True` was remembered for an approval of the same run and tool. -/
theorem BrokerOf.remembered (h : BrokerOf broker history) {runId toolName : String}
    (hmem : (⟨.approval (.checkRemembered runId toolName), some true⟩ : Event Op Res) ∈ history) :
    Remembered history runId toolName := by
  obtain ⟨before, here, there, hearlier, hreplays, hstep⟩ := h.at_event hmem
  have hread : here.remembered.get? (runId, toolName) = some true :=
    (Prod.mk.inj (Option.some.inj hstep)).1
  obtain ⟨pending, hremember, hrun, htool⟩ :=
    (Replays.backed hreplays).remembered runId toolName true hread
  exact ⟨pending, hrun, htool, mem_approvalEvents.mp (hearlier.subset hremember)⟩

end

/-! ## Safety -/

section

variable {ι : Type} [DecidableEq ι] {settings : RunSettings} {threads : ι → ApprovalThread}
  {pool : ApprovalPool ι}

/-- Every `True`, every gated call and every decision stems from where it should, and no run
notices the decisions and clears of another. -/
structure ApprovalSafe (threads : ι → ApprovalThread) (pool : ApprovalPool ι) : Prop where
  requested : ∀ thread runId toolName arguments,
    threads thread = .request runId toolName arguments →
    pool.threads thread = .done (.requested true) →
    Remembered pool.events runId toolName ∨ ∃ approvalId pending,
      (thread, (⟨.approval (.addPending approvalId runId toolName arguments), pending⟩ :
        Event Op Res)) ∈ pool.history ∧
      pending.runId = runId ∧ pending.toolName = toolName ∧ pending.arguments = arguments ∧
      (⟨.approval (.setDecision pending true), ()⟩ : Event Op Res) ∈ pool.events
  called : ∀ thread runId graph resources before config server toolName arguments response after,
    threads thread = .run runId graph resources →
    pool.history = before ++
      (thread, (⟨.callTool config server toolName arguments, response⟩ : Event Op Res)) :: after →
    config.trusted = false → Granted (before.map Prod.snd) runId toolName arguments
  calledStdio : ∀ thread runId graph resources before config arguments env response after,
    threads thread = .run runId graph resources →
    pool.history = before ++
      (thread, (⟨.callStdioTool config arguments env, response⟩ : Event Op Res)) :: after →
    config.requireApproval = true → Granted (before.map Prod.snd) runId config.toolName arguments
  decided : ∀ pending decision,
    (⟨.approval (.setDecision pending decision), ()⟩ : Event Op Res) ∈ pool.events →
    ∃ thread approvalId remember, threads thread = .resolve approvalId decision remember ∧
      (thread, (⟨.approval (.getPending approvalId), some pending⟩ : Event Op Res)) ∈ pool.history
  remembered : ∀ pending decision,
    (⟨.approval (.remember pending decision), ()⟩ : Event Op Res) ∈ pool.events →
    ∃ thread approvalId, threads thread = .resolve approvalId decision true ∧
      (thread, (⟨.approval (.getPending approvalId), some pending⟩ : Event Op Res)) ∈ pool.history
  unnoticed : ∀ runId, ∃ broker, Replays ApprovalOp.perform Broker.initial
    ((approvalEvents pool.events).filter fun event => !event.op.foreign runId) broker

/-- In every interleaving, approvals are safe. -/
theorem approval_safety
    (hreach : Pool.Reachable brokerEffect (startPool settings threads) pool) :
    ApprovalSafe threads pool := by
  have hsound := pool_sound hreach
  have hrun := pool_thread_run hreach
  have hbroker : BrokerOf pool.state pool.events := hsound.state
  refine ⟨?_, ?_, ?_, fun pending decision => pool_decided hreach,
    fun pending decision => pool_remembered hreach,
    fun runId => other_runs_unnoticed runId hbroker⟩
  · intro thread runId toolName arguments hthread hdone
    have hrequest := hrun thread
    rw [hthread, hdone] at hrequest
    -- What a thread did is a part of the history of all.
    have hown : ∀ event, event ∈ pool.eventsOf thread → event ∈ pool.events :=
      fun event hevent => mem_events.mpr ⟨thread, Pool.mem_eventsOf.mp hevent⟩
    rcases request_run_done hrequest with hevents | ⟨approvalId, pending, hevents⟩
    · refine .inl (hbroker.remembered (hown _ ?_))
      rw [hevents]
      exact List.mem_singleton_self _
    · have hadd : (⟨.approval (.addPending approvalId runId toolName arguments), pending⟩ :
          Event Op Res) ∈ pool.eventsOf thread := by
        rw [hevents]
        simp
      refine .inr ⟨approvalId, pending, Pool.mem_eventsOf.mp hadd, ?_⟩
      obtain ⟨before, here, there, _, _, hstep⟩ := hbroker.at_event (hown _ hadd)
      have hread : (⟨.approval (.readDecision pending), true⟩ : Event Op Res) ∈
          pool.eventsOf thread := by
        rw [hevents]
        simp
      have hdecided := hbroker.decided (hown _ hread)
      cases hstep
      exact ⟨rfl, rfl, rfl, hdecided⟩
  · intro thread runId graph resources before config server toolName arguments response
      after hthread
      hhistory htrusted
    obtain ⟨_, hrunId, hgranted⟩ := hsound.history before thread _ after hhistory htrusted
    rw [hthread] at hrunId
    cases hrunId
    exact hgranted
  · intro thread runId graph resources before config arguments env response after hthread hhistory
      hrequire
    obtain ⟨_, hrunId, hgranted⟩ := hsound.history before thread _ after hhistory hrequire
    rw [hthread] at hrunId
    cases hrunId
    exact hgranted

end

/-! ### A run that asks -/

/-- A Gmail connection that is not trusted. -/
def askingProfile : ConnectionProfile where
  name := "my-gmail"
  type := "mcp_server"
  config := .ofList [("transport", .str "remote"), ("url", .str "https://gmail")]

/-- The run of a graph that lists threads, and a resolver that approves of it. -/
def mailThreads : Bool → ApprovalThread
  | false => .run "run" (mailGraph none) { runningUserId := some "bob" }
  | true => .resolve "0" true false

def mailSettings : RunSettings := ⟨gmailEnvironment, 3, dumpNothing⟩

/-- The run waits after its tenth step until the resolver is done. -/
def mailSchedule : List Bool :=
  List.replicate 9 false ++ List.replicate 3 true ++ List.replicate 15 false

set_option maxRecDepth 20000 in
/-- The run lists the threads after the approval, and comes to its end. -/
theorem mail_approval_safe : ∃ pool,
    (startPool mailSettings mailThreads).follow (brokerRespond (mailAnswers [askingProfile]))
      mailSchedule = some pool ∧
    pool.threads false = .done (.ran (.ok ())) ∧ ApprovalSafe mailThreads pool :=
  ⟨_, rfl, rfl, approval_safety (Pool.reachable_of_follow
    (fun _ _ _ _ => broker_respond_effect) (show (startPool mailSettings mailThreads).follow
      (brokerRespond (mailAnswers [askingProfile])) mailSchedule = some _ from rfl))⟩

end AgentGraphStudio
