import AgentGraphStudio.Api.ApprovalPool

/-!
# Agreement about an approval

The lookup of a resolver, its decision and the requester's removal of the approval are separate
steps, so a second resolver may find an approval that has been answered, and a resolver may come
to remember a decision when the run is over. `approval_agreement` says that requesters, resolvers
and remembered decisions agree in every interleaving in which neither happens.
-/

namespace AgentGraphStudio

section

variable {ι : Type} [DecidableEq ι]

/-- Once a resolver has found an approval, its id is not looked up again before a requester has
removed it. -/
def RemovedBetween (pool : ApprovalPool ι) : Prop :=
  ∀ before first approvalId pending between second response after,
    pool.history = before ++
      (first, (⟨.approval (.getPending approvalId), some pending⟩ : Event Op Res)) :: between ++
      (second, (⟨.approval (.getPending approvalId), response⟩ : Event Op Res)) :: after →
    ∃ requester, (requester, (⟨.approval (.popPending approvalId), ()⟩ : Event Op Res)) ∈ between

/-- Every decision is remembered before the run is cleared. -/
def NoneLate (pool : ApprovalPool ι) : Prop :=
  ∀ before thread pending decision after,
    pool.history = before ++
      (thread, (⟨.approval (.remember pending decision), ()⟩ : Event Op Res)) :: after →
    ∀ other, (other, (⟨.approval (.clearRemembered pending.runId), ()⟩ : Event Op Res)) ∉ before

/-- The id under which a step adds an approval. -/
def addedId : Event Op Res → Option String
  | ⟨.approval (.addPending approvalId ..), _⟩ => some approvalId
  | _ => none

/-- `uuid4` has given every approval an id of its own. -/
def FreshIds (pool : ApprovalPool ι) : Prop := (pool.events.filterMap addedId).Nodup

/-- Requesters, resolvers and remembered decisions agree. -/
structure ApprovalAgreement (threads : ι → ApprovalThread) (pool : ApprovalPool ι) : Prop where
  oneAnswer : ∀ first second approvalId approved remember approved' remember',
    threads first = .resolve approvalId approved remember →
    threads second = .resolve approvalId approved' remember' →
    pool.threads first = .done (.resolved true) → pool.threads second = .done (.resolved true) →
    first = second
  sameDecision : ∀ thread runId toolName arguments decision,
    threads thread = .request runId toolName arguments →
    pool.threads thread = .done (.requested decision) →
    (thread, (⟨.approval (.checkRemembered runId toolName), some decision⟩ : Event Op Res)) ∈
        pool.history ∨
      ∃ approvalId pending resolver remember,
        (thread, (⟨.approval (.addPending approvalId runId toolName arguments), pending⟩ :
          Event Op Res)) ∈ pool.history ∧
        threads resolver = .resolve approvalId decision remember ∧
        pool.threads resolver = .done (.resolved true)
  remembered : ∀ runId toolName decision,
    pool.state.remembered.get? (runId, toolName) = some decision →
    ∃ resolver approvalId pending, threads resolver = .resolve approvalId decision true ∧
      (resolver, (⟨.approval (.getPending approvalId), some pending⟩ : Event Op Res)) ∈
        pool.history ∧
      pending.runId = runId ∧ pending.toolName = toolName
  cleared : ∀ thread runId,
    (thread, (⟨.approval (.clearRemembered runId), ()⟩ : Event Op Res)) ∈ pool.history →
    ∀ toolName, pool.state.remembered.get? (runId, toolName) = none

/-! ## An approval is found once -/

/-- Every approval that a resolver finds has not been found before. -/
def FoundOnce (pool : ApprovalPool ι) : Prop :=
  ∀ before thread approvalId pending after,
    pool.history = before ++
      (thread, (⟨.approval (.getPending approvalId), some pending⟩ : Event Op Res)) :: after →
    ∀ other earlier,
      (other, (⟨.approval (.getPending approvalId), some earlier⟩ : Event Op Res)) ∉ before

variable {settings : RunSettings} {threads : ι → ApprovalThread} {pool : ApprovalPool ι}

/-- The removed approval is not found again: its id is not added a second time. -/
theorem found_once (hreach : Pool.Reachable brokerEffect (startPool settings threads) pool)
    (hbetween : RemovedBetween pool) (hfresh : FreshIds pool) : FoundOnce pool := by
  intro before second approvalId pending after hhistory first earlier hfirst
  obtain ⟨start, between, rfl⟩ := List.append_of_mem hfirst
  obtain ⟨requester, hpop⟩ := hbetween start first approvalId earlier between second (some pending)
    after hhistory
  obtain ⟨here, _, _, hhere, hbefore, hstep, _⟩ := hreach.at_entry rfl hhistory
  have hbroker : BrokerOf here.state here.events := (pool_sound hhere).state
  have hevents : here.events = start.map Prod.snd ++
      ⟨.approval (.getPending approvalId), some earlier⟩ :: between.map Prod.snd := by
    rw [Pool.events, hbefore, List.map_append, List.map_cons]
  -- The approval that was found first had been added, so its id is not added again.
  have hadded : approvalId ∈ (start.map Prod.snd).filterMap addedId := by
    obtain ⟨there, _, hreplays, hfound, _⟩ := (show Replays ApprovalOp.perform Broker.initial
      (approvalEvents (start.map Prod.snd) ++ ⟨.getPending approvalId, some earlier⟩ ::
        approvalEvents (between.map Prod.snd)) here.state from by
          rw [← approvalEvents_approval, ← approvalEvents_append, ← hevents]
          exact hbroker).at_event
    obtain ⟨runId, toolName, arguments, hmem⟩ := Replays.added hreplays
      (Prod.mk.inj (Option.some.inj hfound)).1
    exact List.mem_filterMap.mpr ⟨_, mem_approvalEvents.mp hmem, rfl⟩
  have hnone : here.state.pending.get? approvalId = none := by
    have hpopped : (⟨.approval (.popPending approvalId), ()⟩ : Event Op Res) ∈
        between.map Prod.snd := List.mem_map.mpr ⟨_, hpop, rfl⟩
    obtain ⟨kept, rest, hsplit⟩ := List.append_of_mem hpopped
    refine @Replays.popped (approvalEvents (start.map Prod.snd ++
      ⟨.approval (.getPending approvalId), some earlier⟩ :: kept)) (approvalEvents rest) _ _ ?_ ?_
    · rw [← approvalEvents_approval, ← approvalEvents_append, List.append_assoc, List.cons_append,
        ← hsplit, ← hevents]
      exact hbroker
    · intro runId toolName arguments added hmem
      have hagain : approvalId ∈ (between.map Prod.snd).filterMap addedId := by
        rw [hsplit, List.filterMap_append]
        exact List.mem_append_right _ (List.mem_filterMap.mpr
          ⟨_, List.mem_cons_of_mem _ (mem_approvalEvents.mp hmem), rfl⟩)
      unfold FreshIds Pool.events at hfresh
      rw [hhistory] at hfresh
      simp only [List.map_append, List.map_cons, List.filterMap_append, List.append_assoc] at hfresh
      refine List.disjoint_of_nodup_append hfresh hadded ?_
      rw [List.filterMap_cons_none rfl]
      exact List.mem_append_left _ hagain
  have hsome : here.state.pending.get? approvalId = some pending :=
    (Prod.mk.inj (Option.some.inj hstep)).1
  rw [hnone] at hsome
  cases hsome

omit [DecidableEq ι] in
/-- The resolvers that have found an approval are the same. -/
theorem FoundOnce.unique (h : FoundOnce pool) {first second : ι} {approvalId : String}
    {pending other : PendingApproval}
    (hfirst : (first, (⟨.approval (.getPending approvalId), some pending⟩ : Event Op Res)) ∈
      pool.history)
    (hsecond : (second, (⟨.approval (.getPending approvalId), some other⟩ : Event Op Res)) ∈
      pool.history) : first = second := by
  obtain ⟨before, after, hhistory⟩ := List.append_of_mem hfirst
  rw [hhistory] at hsecond
  rcases List.mem_append.mp hsecond with hbefore | hrest
  · exact absurd hbefore (h before first approvalId pending after hhistory second other)
  · rcases List.mem_cons.mp hrest with heq | hafter
    · exact (congrArg Prod.fst heq).symm
    · obtain ⟨between, last, rfl⟩ := List.append_of_mem hafter
      have hlater : pool.history = (before ++
          (first, (⟨.approval (.getPending approvalId), some pending⟩ :
            Event Op Res)) :: between) ++
          (second, ⟨.approval (.getPending approvalId), some other⟩) :: last := by
        rw [hhistory]
        simp
      exact absurd (by simp) (h _ second approvalId other last hlater first pending)

/-- An approval that a resolver has found bears the id that the resolver was given. -/
theorem found_id (hreach : Pool.Reachable brokerEffect (startPool settings threads) pool)
    {approvalId : String} {pending : PendingApproval} {resolver : ι}
    (hmem : (resolver, (⟨.approval (.getPending approvalId), some pending⟩ : Event Op Res)) ∈
      pool.history) : pending.approvalId = approvalId := by
  have hbroker : BrokerOf pool.state pool.events := (pool_sound hreach).state
  obtain ⟨before, here, there, _, hreplays, hstep⟩ :=
    hbroker.at_event (mem_events.mpr ⟨resolver, hmem⟩)
  exact (Replays.backed hreplays).keyed approvalId pending (Prod.mk.inj (Option.some.inj hstep)).1

/-! ## What a requester reads -/

/-- A requester that has been woken reads a decision that was taken. -/
theorem read_decided (hreach : Pool.Reachable brokerEffect (startPool settings threads) pool)
    {pending : PendingApproval} {decision : Bool} {thread : ι}
    {before after : List (ι × Event Op Res)}
    (hread : pool.history = before ++
      (thread, (⟨.approval (.readDecision pending), decision⟩ : Event Op Res)) :: after)
    (hwait : (thread, (⟨.approval (.wait pending), ()⟩ : Event Op Res)) ∈ before) :
    (⟨.approval (.setDecision pending decision), ()⟩ : Event Op Res) ∈ pool.events ∧
      (⟨.approval (.setEvent pending), ()⟩ : Event Op Res) ∈ pool.events := by
  obtain ⟨here, state, rest, hhere, rfl, hstep, hafter⟩ := hreach.at_entry rfl hread
  have hbroker : BrokerOf here.state here.events := (pool_sound hhere).state
  have hbacked := Replays.backed hbroker
  -- Whoever set the event had set the decision before.
  have hwoken : (⟨.approval (.setEvent pending), ()⟩ : Event Op Res) ∈ here.events := by
    obtain ⟨earlier, there, next, hearlier, hreplays, hwaited⟩ :=
      hbroker.at_event (mem_events.mpr ⟨thread, hwait⟩)
    have hset := (ApprovalOp.wait_perform hwaited).1
    exact mem_approvalEvents.mp (hearlier.subset ((Replays.backed hreplays).woken pending hset))
  obtain ⟨resolver, _, approved, _, _, _, _, hdecided⟩ := pool_woken hhere hwoken
  have hsome := hbacked.decided pending approved
    (mem_approvalEvents.mpr (mem_events.mpr ⟨resolver, hdecided⟩))
  obtain ⟨taken, htaken⟩ := Option.isSome_iff_exists.mp hsome
  have hsame : here.state.decisions.getD pending false = decision :=
    (Prod.mk.inj (Option.some.inj hstep)).1
  unfold Dict.getD at hsame
  rw [htaken] at hsame
  have hmore : ∀ event ∈ here.events, event ∈ pool.events := by
    intro event hevent
    obtain ⟨mover, hmover⟩ := mem_events.mp hevent
    exact mem_events.mpr ⟨mover, by rw [hread]; exact List.mem_append_left _ hmover⟩
  subst hsame
  exact ⟨hmore _ (mem_approvalEvents.mp (hbacked.decisions pending taken htaken)), hmore _ hwoken⟩

/-- An approval bears the id it was added under. -/
theorem added_id (hreach : Pool.Reachable brokerEffect (startPool settings threads) pool)
    {approvalId runId toolName : String} {arguments : Config} {pending : PendingApproval}
    {requester : ι}
    (hmem : (requester, (⟨.approval (.addPending approvalId runId toolName arguments), pending⟩ :
      Event Op Res)) ∈ pool.history) : pending.approvalId = approvalId := by
  have hbroker : BrokerOf pool.state pool.events := (pool_sound hreach).state
  obtain ⟨_, here, _, _, _, hstep⟩ := hbroker.at_event (mem_events.mpr ⟨requester, hmem⟩)
  cases hstep
  rfl

/-- A requester that had to ask returns the decision of the resolver that answered it. -/
theorem request_agrees (hreach : Pool.Reachable brokerEffect (startPool settings threads) pool)
    (honce : FoundOnce pool) {thread : ι} {approvalId runId toolName : String}
    {arguments : Config} {decision : Bool} {pending : PendingApproval}
    (hevents : pool.eventsOf thread =
      [⟨.approval (.checkRemembered runId toolName), none⟩, ⟨.uuid4, approvalId⟩,
        ⟨.approval (.addPending approvalId runId toolName arguments), pending⟩,
        ⟨.approval (.wait pending), ()⟩, ⟨.approval (.readDecision pending), decision⟩,
        ⟨.approval (.popPending approvalId), ()⟩]) :
    ∃ resolver remember, threads resolver = .resolve approvalId decision remember ∧
      pool.threads resolver = .done (.resolved true) := by
  obtain ⟨before, after, hread, hbefore⟩ := Pool.eventsOf_split (show pool.eventsOf thread =
    [⟨.approval (.checkRemembered runId toolName), none⟩, ⟨.uuid4, approvalId⟩,
      ⟨.approval (.addPending approvalId runId toolName arguments), pending⟩,
      ⟨.approval (.wait pending), ()⟩] ++ ⟨.approval (.readDecision pending), decision⟩ ::
      [⟨.approval (.popPending approvalId), ()⟩] from hevents)
  have hadd : (thread, (⟨.approval (.addPending approvalId runId toolName arguments), pending⟩ :
      Event Op Res)) ∈ pool.history := by
    rw [hread]
    exact List.mem_append_left _ (hbefore _ (by simp))
  obtain ⟨hset, hwoken⟩ := read_decided hreach hread (hbefore _ (by simp))
  obtain ⟨decider, deciderId, remember, hdecider, hfound⟩ := pool_decided hreach hset
  obtain ⟨waker, wakerId, _, _, _, hdone, hwakes, _⟩ := pool_woken hreach hwoken
  -- Whoever decided and whoever woke the requester found the same approval.
  have hdeciderId : deciderId = approvalId :=
    (found_id hreach hfound).symm.trans (added_id hreach hadd)
  have hwakerId : wakerId = approvalId := (found_id hreach hwakes).symm.trans (added_id hreach hadd)
  subst hdeciderId hwakerId
  cases honce.unique hfound hwakes
  exact ⟨decider, remember, hdecider, hdone⟩

/-! ## Agreement -/

/-- In every interleaving in which the found approvals are removed before their ids are looked up
again and no decision is remembered late, everybody agrees. -/
theorem approval_agreement (hreach : Pool.Reachable brokerEffect (startPool settings threads) pool)
    (hbetween : RemovedBetween pool) (hfresh : FreshIds pool) (hlate : NoneLate pool) :
    ApprovalAgreement threads pool := by
  have honce := found_once hreach hbetween hfresh
  have hrun := pool_thread_run hreach
  have hbroker : BrokerOf pool.state pool.events := (pool_sound hreach).state
  refine ⟨?_, ?_, ?_, ?_⟩
  · intro first second approvalId approved remember approved' remember' hfirst hsecond hdone hdone'
    have hfirstRun := hrun first
    have hsecondRun := hrun second
    rw [hfirst, hdone] at hfirstRun
    rw [hsecond, hdone'] at hsecondRun
    obtain ⟨pending, hfound, _⟩ := resolve_returns_true hfirstRun
    obtain ⟨pending', hfound', _⟩ := resolve_returns_true hsecondRun
    exact honce.unique (Pool.mem_eventsOf.mp hfound) (Pool.mem_eventsOf.mp hfound')
  · intro thread runId toolName arguments decision hthread hdone
    have hrequest := hrun thread
    rw [hthread, hdone] at hrequest
    rcases request_run_done hrequest with hevents | ⟨approvalId, pending, hevents⟩
    · refine .inl (Pool.mem_eventsOf.mp ?_)
      rw [hevents]
      exact List.mem_singleton_self _
    · obtain ⟨resolver, remember, hresolver, hanswered⟩ := request_agrees hreach honce hevents
      refine .inr ⟨approvalId, pending, resolver, remember, Pool.mem_eventsOf.mp ?_, hresolver,
        hanswered⟩
      rw [hevents]
      simp
  · intro runId toolName decision hget
    obtain ⟨pending, hmem, hrunId, htool⟩ :=
      (Replays.backed hbroker).remembered runId toolName decision hget
    obtain ⟨resolver, approvalId, hresolver, hfound⟩ :=
      pool_remembered hreach (mem_approvalEvents.mp hmem)
    exact ⟨resolver, approvalId, pending, hresolver, hfound, hrunId, htool⟩
  · intro thread runId hclear toolName
    obtain ⟨before, after, hhistory⟩ := List.append_of_mem hclear
    refine @Replays.cleared (approvalEvents (before.map Prod.snd))
      (approvalEvents (after.map Prod.snd)) _ _ ?_ ?_ toolName
    · rw [← approvalEvents_approval, ← approvalEvents_append]
      unfold BrokerOf Pool.events at hbroker
      rw [hhistory, List.map_append, List.map_cons] at hbroker
      exact hbroker
    · intro pending decision hmem hsame
      subst hsame
      obtain ⟨⟨other, _⟩, hafter, rfl⟩ := List.mem_map.mp (mem_approvalEvents.mp hmem)
      obtain ⟨between, last, rfl⟩ := List.append_of_mem hafter
      refine hlate (before ++ (thread, ⟨.approval (.clearRemembered pending.runId), ()⟩) :: between)
        other pending decision last ?_ thread (by simp)
      rw [hhistory]
      simp

end

/-! ### Two resolvers -/

/-- A requester, two resolvers that disagree, and the end of the run. -/
def twoResolvers : Fin 4 → ApprovalThread
  | 0 => .request "run" "send_mail" .empty
  | 1 => .resolve "0" true true
  | 2 => .resolve "0" false false
  | 3 => .clear "run"

/-- The settings do not matter, as no run is among the threads. -/
def quietSettings : RunSettings := ⟨anthropicEnvironment, 0, dumpNothing⟩

/-- The second resolver comes when the requester is gone. -/
def inTurn : List (Fin 4) := [0, 0, 0, 1, 1, 1, 1, 0, 0, 0, 2, 3]

/-- The approval that the requester adds. -/
def sendMail : PendingApproval := ⟨0, "0", "run", "send_mail", .empty⟩

/-- What the threads do in turn. -/
def inTurnHistory : List (Fin 4 × Event Op Res) :=
  [(0, ⟨.approval (.checkRemembered "run" "send_mail"), none⟩), (0, ⟨.uuid4, "0"⟩),
    (0, ⟨.approval (.addPending "0" "run" "send_mail" .empty), sendMail⟩),
    (1, ⟨.approval (.getPending "0"), some sendMail⟩),
    (1, ⟨.approval (.setDecision sendMail true), ()⟩),
    (1, ⟨.approval (.remember sendMail true), ()⟩), (1, ⟨.approval (.setEvent sendMail), ()⟩),
    (0, ⟨.approval (.wait sendMail), ()⟩), (0, ⟨.approval (.readDecision sendMail), true⟩),
    (0, ⟨.approval (.popPending "0"), ()⟩), (2, ⟨.approval (.getPending "0"), none⟩),
    (3, ⟨.approval (.clearRemembered "run"), ()⟩)]

set_option maxRecDepth 20000 in
theorem in_turn_follow : ∃ pool,
    (startPool quietSettings twoResolvers).follow (brokerRespond (helloAnswers [])) inTurn =
      some pool ∧ pool.history = inTurnHistory ∧
    pool.threads 0 = .done (.requested true) ∧ pool.threads 1 = .done (.resolved true) ∧
    pool.threads 2 = .done (.resolved false) :=
  ⟨_, rfl, rfl, rfl, rfl, rfl⟩

/-- In turn, only the first resolver is told that it answered, and the requester heeds it. -/
theorem in_turn_agreement : ∃ pool,
    (startPool quietSettings twoResolvers).follow (brokerRespond (helloAnswers [])) inTurn =
      some pool ∧
    pool.threads 0 = .done (.requested true) ∧ pool.threads 1 = .done (.resolved true) ∧
    pool.threads 2 = .done (.resolved false) ∧ ApprovalAgreement twoResolvers pool := by
  obtain ⟨pool, hfollow, hhistory, hrequested, hfirst, hsecond⟩ := in_turn_follow
  have hreach := Pool.reachable_of_follow (fun _ _ _ _ => broker_respond_effect) hfollow
  refine ⟨pool, hfollow, hrequested, hfirst, hsecond, approval_agreement hreach ?_ ?_ ?_⟩
  · intro before first approvalId pending between second response after hsplit
    rw [hhistory, inTurnHistory] at hsplit
    simp [List.cons_eq_append_iff] at hsplit
    obtain ⟨rfl, ⟨rfl, rfl, rfl⟩, hrest⟩ := hsplit
    replace hrest := hrest.symm
    simp [List.cons_eq_append_iff] at hrest
    obtain ⟨rfl, _⟩ := hrest
    exact ⟨0, by simp⟩
  · unfold FreshIds Pool.events
    rw [hhistory]
    decide
  · intro before thread pending decision after hsplit other hmem
    rw [hhistory, inTurnHistory] at hsplit
    simp [List.cons_eq_append_iff] at hsplit
    obtain ⟨rfl, _⟩ := hsplit
    simp at hmem

/-- Both resolvers look the approval up before the requester is woken. -/
def bothFind : List (Fin 4) := [0, 0, 0, 1, 2, 1, 1, 1, 2, 2, 0, 0, 0]

set_option maxRecDepth 20000 in
/-- Both resolvers are told that they answered, and the requester heeds the second. -/
theorem two_resolvers_disagree : ∃ pool,
    Pool.Reachable brokerEffect (startPool quietSettings twoResolvers) pool ∧
    pool.threads 0 = .done (.requested false) ∧ ¬ ApprovalAgreement twoResolvers pool := by
  refine ⟨_, Pool.reachable_of_follow (fun _ _ _ _ => broker_respond_effect)
    (show (startPool quietSettings twoResolvers).follow (brokerRespond (helloAnswers [])) bothFind =
      some _ from rfl), rfl, fun h => ?_⟩
  exact absurd (h.oneAnswer 1 2 "0" true true false false rfl rfl rfl rfl) (by decide)

end AgentGraphStudio
