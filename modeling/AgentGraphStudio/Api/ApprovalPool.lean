import AgentGraphStudio.Api.ConnectionCoverage
import AgentGraphStudio.Lib.Pool

/-!
# Threads that share the approvals

Requesters, resolvers, clears, whole runs and single nodes as the threads of a pool over the broker
of `backend/execution/approvals.py`. Every other part of the outside world may answer as it likes.
`pool_sound` lifts what the threads are certified for to every interleaving of their steps.
-/

namespace AgentGraphStudio

/-- A thread that takes part in approvals. -/
inductive ApprovalThread where
  | request (runId toolName : String) (arguments : Config)
  | resolve (approvalId : String) (approved remember : Bool)
  | clear (runId : String)
  | run (runId : String) (graph : GraphSpec) (resources : Resources)
  | node (runId : String) (ctx : ExecutionContext)

/-- What such a thread ends with. -/
inductive ThreadValue where
  | requested (decision : Bool)
  | resolved (found : Bool)
  | cleared
  | ran (ended : Except Raised Unit)

/-- The process: its registries, how deep executions may nest and how results are serialised. -/
structure RunSettings where
  env : Environment
  depth : Nat
  modelDumpJson : RunResult → Except Raised String

/-- The execution of one node of a run, by the body that the registry gives it. -/
def executeNodeOf (env : Environment) (depth : Nat) (runId : String) (ctx : ExecutionContext) :
    Act NodeResult :=
  match env.registry.get ctx.node.type with
  | none => Act.raise s!"unknown node type '{ctx.node.type}'"
  | some definition =>
    execute env depth definition.execute
      { ctx with resources := { ctx.resources with approvalPrompt := some runId } }

/-- The program of a thread. -/
def ApprovalThread.program (settings : RunSettings) :
    ApprovalThread → Program Op Res ThreadValue
  | .request runId toolName arguments =>
    (requestApproval runId toolName arguments).bind fun decision => .done (.requested decision)
  | .resolve approvalId approved remember =>
    (resolveApproval approvalId approved remember).bind fun found => .done (.resolved found)
  | .clear runId => (clearRememberedForRun runId).bind fun _ => .done .cleared
  | .run runId graph resources =>
    (executeRun settings.env settings.depth settings.modelDumpJson runId graph resources).run.bind
      fun ended => .done (.ran ended)
  | .node runId ctx =>
    (executeNodeOf settings.env settings.depth runId ctx).run.bind
      fun outcome => .done (.ran (outcome.map fun _ => ()))

/-- The steps of the approval module answer by the broker, and nothing else changes it. -/
def brokerEffect (broker : Broker) : Event Op Res → Broker → Prop
  | ⟨.approval op, response⟩, next => op.perform broker = some (response, next)
  | _, next => next = broker

/-- The steps of the approval module among what has happened. -/
def approvalEvents (history : History) : List ApprovalEvent :=
  history.filterMap fun
    | ⟨.approval op, response⟩ => some ⟨op, response⟩
    | _ => none

theorem mem_approvalEvents {history : History} {op : ApprovalOp} {response : op.Response} :
    (⟨op, response⟩ : ApprovalEvent) ∈ approvalEvents history ↔
      (⟨.approval op, response⟩ : Event Op Res) ∈ history := by
  unfold approvalEvents
  rw [List.mem_filterMap]
  constructor
  · intro h
    obtain ⟨event, hevent, hsome⟩ := h
    split at hsome
    · cases hsome
      exact hevent
    · cases hsome
  · intro h
    exact ⟨_, h, rfl⟩

theorem approvalEvents_append (history more : History) :
    approvalEvents (history ++ more) = approvalEvents history ++ approvalEvents more :=
  List.filterMap_append

@[simp] theorem approvalEvents_approval (op : ApprovalOp) (response : op.Response)
    (more : History) : approvalEvents (⟨.approval op, response⟩ :: more) =
      ⟨op, response⟩ :: approvalEvents more := rfl

/-- The broker has come to its state by what has happened. -/
def BrokerOf (broker : Broker) (history : History) : Prop :=
  Replays ApprovalOp.perform Broker.initial (approvalEvents history) broker

theorem BrokerOf.initial : BrokerOf Broker.initial [] := .nil _

theorem BrokerOf.step {broker next : Broker} {history : History} {event : Event Op Res}
    (h : BrokerOf broker history) (hstep : brokerEffect broker event next) :
    BrokerOf next (history ++ [event]) := by
  unfold BrokerOf at h ⊢
  rw [approvalEvents_append]
  obtain ⟨op, response⟩ := event
  cases op with
  | approval op => exact h.snoc hstep
  | _ =>
      cases (show next = broker from hstep)
      rw [show approvalEvents [⟨_, response⟩] = [] from rfl, List.append_nil]
      exact h

/-- The broker answers as it promises. -/
theorem BrokerOf.answers {broker next : Broker} {history : History} {op : Op} {response : Res op}
    (h : BrokerOf broker history) (hstep : brokerEffect broker ⟨op, response⟩ next) :
    Answers history op response := by
  have hbacked := Replays.backed h
  cases op with
  | approval op =>
      cases op with
      | checkRemembered runId toolName =>
          cases hstep
          intro hremembered
          obtain ⟨pending, hmem, hrun, htool⟩ := hbacked.remembered runId toolName true hremembered
          exact ⟨pending, hrun, htool, mem_approvalEvents.mp hmem⟩
      | addPending approvalId runId toolName arguments =>
          cases hstep
          exact ⟨rfl, rfl, rfl⟩
      | readDecision pending =>
          cases hstep
          intro hdecision
          refine mem_approvalEvents.mp (hbacked.decisions pending true ?_)
          unfold Dict.getD at hdecision
          cases hget : broker.decisions.get? pending with
          | none =>
              rw [hget] at hdecision
              cases hdecision
          | some decision =>
              rw [hget] at hdecision
              exact congrArg some hdecision
      | _ => trivial
  | _ => trivial

section

variable {broker : Broker} {history : History}

/-- When a step of the approval module was answered, the broker stood in a state that the steps
before it had led to. -/
theorem BrokerOf.at_event (h : BrokerOf broker history) {op : ApprovalOp} {response : op.Response}
    (hmem : (⟨.approval op, response⟩ : Event Op Res) ∈ history) :
    ∃ before here there, before <+: approvalEvents history ∧
      Replays ApprovalOp.perform Broker.initial before here ∧
      op.perform here = some (response, there) := by
  obtain ⟨before, after, hsplit⟩ := List.append_of_mem (mem_approvalEvents.mpr hmem)
  unfold BrokerOf at h
  rw [hsplit] at h
  obtain ⟨here, there, hbefore, hstep, _⟩ := h.at_event
  exact ⟨before, here, there, ⟨_, hsplit.symm⟩, hbefore, hstep⟩

end

/-! ## What the threads are certified for -/

section

variable (thread : ApprovalThread)

/-- Does the thread answer an approval? -/
def ApprovalThread.Resolves : Prop :=
  ∃ approvalId approved remember, thread = .resolve approvalId approved remember

/-- The run in whose name the thread calls tools. -/
def ApprovalThread.callsFor : Option String :=
  match thread with
  | .run runId _ _ | .node runId _ => some runId
  | _ => none

/-- May the thread call a gated tool? A run and its nodes may if the tool is granted to the run. -/
def ApprovalThread.MayCall (history : History) (toolName : String) (arguments : Config) : Prop :=
  ∃ runId, thread.callsFor = some runId ∧ Granted history runId toolName arguments

/-- Only resolvers decide, and gated tools are called by runs to which they are granted. -/
def ApprovalThread.Permitted (history : History) : Op → Prop
  | .approval (.setDecision ..) | .approval (.remember ..) | .approval (.setEvent _) =>
    thread.Resolves
  | .callTool config _ toolName arguments =>
    config.trusted = false → thread.MayCall history toolName arguments
  | .callStdioTool config arguments _ =>
    config.requireApproval = true → thread.MayCall history config.toolName arguments
  | _ => True

def ApprovalThread.policy : Policy where
  permitted := thread.Permitted
  allowed := Answers
  routine _ op h := by
    cases op with
    | approval op => cases op <;> first | exact trivial | exact h.elim
    | _ => first | exact trivial | exact h.elim

theorem ApprovalThread.policy_answers : thread.policy.AnswersApprovals := fun _ _ _ => id

/-- A requester that ends with `True` has been granted its tool. -/
def ApprovalThread.Post (history : History) (value : ThreadValue) : Prop :=
  match thread, value with
  | .request runId toolName arguments, .requested decision =>
    decision = true → Granted history runId toolName arguments
  | _, _ => True

end

/-- The approvals of a run are asked for by the run, and its gated calls are granted. -/
def gated (env : Environment) {thread : ApprovalThread} {runId : String}
    (hrun : thread.callsFor = some runId) : Discipline env where
  policy := thread.policy
  Fixed resources := resources.approvalPrompt = some runId
  Good _ := True
  fixed_withGraph h _ := h
  looksUp _ _ _ _ _ := trivial
  converses _ _ _ _ _ _ _ _ _ _ := trivial
  nested _ _ _ _ _ _ _ _ := trivial
  generated _ _ h := execute_generated_always (fun _ => trivial) (fun _ _ _ => trivial)
    (fun _ _ _ => ⟨trivial, trivial⟩) fun _ _ _ _ =>
      call_gated_always h (fun history => request_approval_certified
        (ApprovalThread.policy_answers _) history _ _ _)
        fun _ hgranted huntrusted => ⟨runId, hrun, hgranted huntrusted⟩
  mcpCall _ h := execute_mcp_call_keeps (Policy.rules _) fun _ _ _ =>
    call_stdio_gated_always h (fun history => request_approval_certified
      (ApprovalThread.policy_answers _) history _ _ _)
      fun _ hgranted hrequire => ⟨runId, hrun, hgranted hrequire⟩

/-- The execution of a node keeps a policy that all bodies keep. -/
theorem Discipline.execute_node_of_always {env : Environment} (discipline : Discipline env)
    (hgood : ∀ node, discipline.Good node) {depth : Nat} {runId : String}
    {ctx : ExecutionContext}
    (hfixed : discipline.Fixed { ctx.resources with approvalPrompt := some runId }) :
    (executeNodeOf env depth runId ctx).Always discipline.policy := by
  rw [executeNodeOf]
  split
  · exact Act.always_raise _
  · rename_i definition hdef
    exact discipline.execute_always depth
      ⟨hfixed, ⟨definition, hdef, rfl⟩, hgood _, fun _ _ _ => hgood _⟩

/-- A resolver keeps the policy of resolvers. -/
theorem resolve_approval_always {policy : Policy} {approvalId : String}
    {approved remember : Bool}
    (hdecision : ∀ history pending,
      policy.permitted history (.approval (.setDecision pending approved)))
    (hremember : ∀ history pending,
      policy.permitted history (.approval (.remember pending approved)))
    (hevent : ∀ history pending, policy.permitted history (.approval (.setEvent pending))) :
    Program.Always policy.permitted policy.allowed
      (resolveApproval approvalId approved remember) := by
  have hget : Program.Always policy.permitted policy.allowed
      (approvalStep (.getPending approvalId)) :=
    Program.Always.op fun history => policy.routine history _ trivial
  refine hget.bind fun pending => ?_
  cases pending with
  | none => exact Program.Always.done _
  | some pending =>
      refine (Program.Always.op fun history => hdecision history pending).bind fun _ => ?_
      cases remember with
      | true =>
          refine (Program.Always.op fun history => hremember history pending).bind fun _ => ?_
          exact (Program.Always.op fun history => hevent history pending).bind fun _ =>
            Program.Always.done _
      | false =>
          exact (Program.Always.op fun history => hevent history pending).bind fun _ =>
            Program.Always.done _

/-- Every thread is certified for its part. -/
theorem ApprovalThread.certified (settings : RunSettings) (thread : ApprovalThread) :
    Program.Certified thread.Permitted Answers [] (thread.program settings) thread.Post := by
  cases thread with
  | request runId toolName arguments =>
      refine (request_approval_certified (ApprovalThread.policy_answers
        (.request runId toolName arguments)) [] runId toolName arguments).bind
        fun more decision hgranted others => hgranted others
  | resolve approvalId approved remember =>
      have halways := @resolve_approval_always (ApprovalThread.resolve approvalId approved
        remember).policy approvalId approved remember (fun _ _ => ⟨_, _, _, rfl⟩)
        (fun _ _ => ⟨_, _, _, rfl⟩) fun _ _ => ⟨_, _, _, rfl⟩
      exact (halways []).bind fun _ _ _ _ => trivial
  | clear runId =>
      have hclear : Program.Always (ApprovalThread.clear runId).Permitted Answers
          (clearRememberedForRun runId) := Program.Always.op fun _ => trivial
      exact (hclear []).bind fun _ _ _ _ => trivial
  | run runId graph resources =>
      have hrun : (executeRun settings.env settings.depth settings.modelDumpJson runId graph
          resources).Always (ApprovalThread.run runId graph resources).policy :=
        (@gated settings.env (.run runId graph resources) runId rfl).execute_run_always
          (fun _ _ => trivial) (fun _ => trivial) rfl fun _ _ => trivial
      exact Program.Certified.bind (hrun []) fun _ _ _ _ => trivial
  | node runId ctx =>
      have hnode : (executeNodeOf settings.env settings.depth runId ctx).Always
          (ApprovalThread.node runId ctx).policy :=
        (@gated settings.env (.node runId ctx) runId rfl).execute_node_of_always
          (fun _ => trivial) rfl
      exact Program.Certified.bind (hnode []) fun _ _ _ _ => trivial

/-! ## Pools -/

section

variable {ι : Type} [DecidableEq ι]

/-- A pool of threads over the broker. -/
abbrev ApprovalPool (ι : Type) := Pool ι Op Res ThreadValue Broker

/-- The threads when the process starts. -/
def startPool (settings : RunSettings) (threads : ι → ApprovalThread) : ApprovalPool ι where
  threads thread := (threads thread).program settings
  state := Broker.initial

variable {settings : RunSettings} {threads : ι → ApprovalThread} {pool : ApprovalPool ι}

/-- In every interleaving the threads keep their parts. -/
theorem pool_sound (hreach : Pool.Reachable brokerEffect (startPool settings threads) pool) :
    Pool.Sound (fun thread => (threads thread).Permitted) Answers BrokerOf
      (fun thread => (threads thread).Post) pool := by
  refine hreach.sound ?_ rfl BrokerOf.initial fun thread => (threads thread).certified settings
  intro thread broker history event next hbroker _ hstep
  exact ⟨hbroker.answers hstep, hbroker.step hstep⟩

/-- Each thread has made a run of its program. -/
theorem pool_thread_run (hreach : Pool.Reachable brokerEffect (startPool settings threads) pool)
    (thread : ι) :
    Program.Run ((threads thread).program settings) (pool.eventsOf thread) (pool.threads thread) :=
  hreach.thread_run rfl thread

end

/-! ## What a resolver has done -/

/-- All steps of a resolver that finds the approval. -/
def resolveEvents (approvalId : String) (approved remember : Bool) (pending : PendingApproval) :
    History :=
  [⟨.approval (.getPending approvalId), some pending⟩,
    ⟨.approval (.setDecision pending approved), ()⟩] ++
  (if remember then [⟨.approval (.remember pending approved), ()⟩] else []) ++
  [⟨.approval (.setEvent pending), ()⟩]

section

variable {settings : RunSettings} {approvalId : String} {approved remember : Bool}
  {events : History} {rest : Program Op Res ThreadValue}

/-- A resolver has not started, or has not found the approval, or has found it and performed
some of the steps that follow. -/
theorem resolve_run_cases
    (h : Program.Run ((ApprovalThread.resolve approvalId approved remember).program settings)
      events rest) :
    (events = [] ∧ ∀ value, rest ≠ .done value) ∨
      (events = [⟨.approval (.getPending approvalId), none⟩] ∧ rest = .done (.resolved false)) ∨
      ∃ pending, events ≠ [] ∧ events <+: resolveEvents approvalId approved remember pending ∧
        (events = resolveEvents approvalId approved remember pending ∧
          rest = .done (.resolved true) ∨
          ⟨.approval (.setEvent pending), ()⟩ ∉ events ∧ ∀ value, rest ≠ .done value) := by
  rcases Program.run_perform_iff.mp h with ⟨rfl, rfl⟩ | ⟨found, tail, rfl, hfound⟩
  · exact .inl ⟨rfl, fun _ => nofun⟩
  · cases found with
    | none =>
        obtain ⟨rfl, rfl⟩ := Program.run_done_iff.mp hfound
        exact .inr (.inl ⟨rfl, rfl⟩)
    | some pending =>
        refine .inr (.inr ⟨pending, List.cons_ne_nil _ _, ?_⟩)
        rcases Program.run_perform_iff.mp hfound with ⟨rfl, rfl⟩ | ⟨_, tail, rfl, hdecided⟩
        · exact ⟨⟨_, rfl⟩, .inr ⟨by simp, fun _ => nofun⟩⟩
        · cases remember with
          | true =>
              rcases Program.run_perform_iff.mp hdecided with ⟨rfl, rfl⟩
                | ⟨_, tail, rfl, hremembered⟩
              · exact ⟨⟨_, rfl⟩, .inr ⟨by simp, fun _ => nofun⟩⟩
              · rcases Program.run_perform_iff.mp hremembered with ⟨rfl, rfl⟩ | ⟨_, tail, rfl, hset⟩
                · exact ⟨⟨_, rfl⟩, .inr ⟨by simp, fun _ => nofun⟩⟩
                · obtain ⟨rfl, rfl⟩ := Program.run_done_iff.mp hset
                  exact ⟨List.prefix_rfl, .inl ⟨rfl, rfl⟩⟩
          | false =>
              rcases Program.run_perform_iff.mp hdecided with ⟨rfl, rfl⟩ | ⟨_, tail, rfl, hset⟩
              · exact ⟨⟨_, rfl⟩, .inr ⟨by simp, fun _ => nofun⟩⟩
              · obtain ⟨rfl, rfl⟩ := Program.run_done_iff.mp hset
                exact ⟨List.prefix_rfl, .inl ⟨rfl, rfl⟩⟩

/-- A resolver that has done more than look has found what it acts on. -/
theorem resolve_found
    (h : Program.Run ((ApprovalThread.resolve approvalId approved remember).program settings)
      events rest) {op : ApprovalOp} {response : op.Response}
    (hmem : (⟨.approval op, response⟩ : Event Op Res) ∈ events)
    (hop : op ≠ .getPending approvalId) :
    ∃ pending, (⟨.approval (.getPending approvalId), some pending⟩ : Event Op Res) ∈ events ∧
      (⟨.approval op, response⟩ : Event Op Res) ∈
        resolveEvents approvalId approved remember pending := by
  rcases resolve_run_cases h with ⟨rfl, _⟩ | ⟨rfl, _⟩ | ⟨pending, hstarted, hearlier, _⟩
  · cases hmem
  · cases List.mem_singleton.mp hmem
    exact absurd rfl hop
  · refine ⟨pending, ?_, hearlier.subset hmem⟩
    obtain ⟨tail, htail⟩ := hearlier
    cases events with
    | nil => exact absurd rfl hstarted
    | cons event events =>
        exact (List.cons.inj htail).1 ▸ List.mem_cons_self

/-- A resolver only takes the decision it was started with. -/
theorem resolve_decides
    (h : Program.Run ((ApprovalThread.resolve approvalId approved remember).program settings)
      events rest) {pending : PendingApproval} {decision : Bool}
    (hmem : (⟨.approval (.setDecision pending decision), ()⟩ : Event Op Res) ∈ events) :
    decision = approved ∧
      (⟨.approval (.getPending approvalId), some pending⟩ : Event Op Res) ∈ events := by
  obtain ⟨found, hfound, hall⟩ := resolve_found h hmem nofun
  unfold resolveEvents at hall
  cases remember <;> simp at hall <;> exact ⟨hall.2, hall.1 ▸ hfound⟩

/-- A resolver only remembers the decision it was started with, and if it was told to. -/
theorem resolve_remembers
    (h : Program.Run ((ApprovalThread.resolve approvalId approved remember).program settings)
      events rest) {pending : PendingApproval} {decision : Bool}
    (hmem : (⟨.approval (.remember pending decision), ()⟩ : Event Op Res) ∈ events) :
    decision = approved ∧ remember = true ∧
      (⟨.approval (.getPending approvalId), some pending⟩ : Event Op Res) ∈ events := by
  obtain ⟨found, hfound, hall⟩ := resolve_found h hmem nofun
  unfold resolveEvents at hall
  cases remember with
  | true =>
      simp at hall
      exact ⟨hall.2, rfl, hall.1 ▸ hfound⟩
  | false => simp at hall

/-- A resolver that has woken the requester has decided, and is done. -/
theorem resolve_wakes
    (h : Program.Run ((ApprovalThread.resolve approvalId approved remember).program settings)
      events rest) {pending : PendingApproval}
    (hmem : (⟨.approval (.setEvent pending), ()⟩ : Event Op Res) ∈ events) :
    rest = .done (.resolved true) ∧
      (⟨.approval (.getPending approvalId), some pending⟩ : Event Op Res) ∈ events ∧
      (⟨.approval (.setDecision pending approved), ()⟩ : Event Op Res) ∈ events := by
  rcases resolve_run_cases h with ⟨rfl, _⟩ | ⟨rfl, _⟩ | ⟨found, hstarted, hearlier, hend⟩
  · cases hmem
  · cases List.mem_singleton.mp hmem
  · have hall := hearlier.subset hmem
    have hsame : pending = found := by
      unfold resolveEvents at hall
      cases remember <;> simpa using hall
    subst hsame
    rcases hend with ⟨hevents, hrest⟩ | ⟨hasleep, _⟩
    · rw [hevents]
      exact ⟨hrest, by simp [resolveEvents], by simp [resolveEvents]⟩
    · exact absurd hmem hasleep

/-- A resolver that returns `True` has found its approval. -/
theorem resolve_returns_true
    (h : Program.Run ((ApprovalThread.resolve approvalId approved remember).program settings)
      events (.done (.resolved true))) :
    ∃ pending, (⟨.approval (.getPending approvalId), some pending⟩ : Event Op Res) ∈ events ∧
      (⟨.approval (.setEvent pending), ()⟩ : Event Op Res) ∈ events := by
  rcases resolve_run_cases h with ⟨_, hdone⟩ | ⟨_, hdone⟩
    | ⟨pending, _, _, ⟨hevents, _⟩ | ⟨_, hdone⟩⟩
  · exact absurd rfl (hdone _)
  · cases hdone
  · rw [hevents]
    exact ⟨pending, by simp [resolveEvents], by simp [resolveEvents]⟩
  · exact absurd rfl (hdone _)

end

/-! ## What a requester has done -/

section

variable {settings : RunSettings} {runId toolName : String} {arguments : Config}
  {events : History}

/-- A requester that has returned was answered from the remembered decisions, or it waited for the
decision of an approval of its own. -/
theorem request_run_done {decision : Bool}
    (h : Program.Run ((ApprovalThread.request runId toolName arguments).program settings) events
      (.done (.requested decision))) :
    events = [⟨.approval (.checkRemembered runId toolName), some decision⟩] ∨
      ∃ approvalId pending,
        events = [⟨.approval (.checkRemembered runId toolName), none⟩, ⟨.uuid4, approvalId⟩,
          ⟨.approval (.addPending approvalId runId toolName arguments), pending⟩,
          ⟨.approval (.wait pending), ()⟩, ⟨.approval (.readDecision pending), decision⟩,
          ⟨.approval (.popPending approvalId), ()⟩] := by
  obtain ⟨remembered, _, rfl, hcheck⟩ := Program.ends_perform_iff.mp h
  cases remembered with
  | some remembered =>
      obtain ⟨rfl, hvalue⟩ := Program.ends_done_iff.mp hcheck
      cases hvalue
      exact .inl rfl
  | none =>
      obtain ⟨approvalId, _, rfl, huuid⟩ := Program.ends_perform_iff.mp hcheck
      obtain ⟨pending, _, rfl, hadd⟩ := Program.ends_perform_iff.mp huuid
      obtain ⟨_, _, rfl, hwait⟩ := Program.ends_perform_iff.mp hadd
      obtain ⟨read, _, rfl, hread⟩ := Program.ends_perform_iff.mp hwait
      obtain ⟨_, _, rfl, hpop⟩ := Program.ends_perform_iff.mp hread
      obtain ⟨rfl, hvalue⟩ := Program.ends_done_iff.mp hpop
      cases hvalue
      exact .inr ⟨approvalId, pending, rfl⟩

end

/-! ## Who has decided -/

section

variable {ι : Type} [DecidableEq ι] {settings : RunSettings} {threads : ι → ApprovalThread}
  {pool : ApprovalPool ι}

omit [DecidableEq ι] in
theorem mem_events {event : Event Op Res} :
    event ∈ pool.events ↔ ∃ thread, (thread, event) ∈ pool.history := by
  unfold Pool.events
  rw [List.mem_map]
  constructor
  · intro h
    obtain ⟨⟨thread, _⟩, hmem, rfl⟩ := h
    exact ⟨thread, hmem⟩
  · intro h
    obtain ⟨thread, hmem⟩ := h
    exact ⟨_, hmem, rfl⟩

omit [DecidableEq ι] in
/-- What a thread performed was permitted to it. -/
theorem pool_permitted (hsound : Pool.Sound (fun thread => (threads thread).Permitted) Answers
      BrokerOf (fun thread => (threads thread).Post) pool) {thread : ι} {event : Event Op Res}
    (hmem : (thread, event) ∈ pool.history) :
    ∃ history, (threads thread).Permitted history event.op := by
  obtain ⟨before, after, hhistory⟩ := List.append_of_mem hmem
  exact ⟨_, hsound.history before thread event after hhistory⟩

/-- A decision was taken by a resolver that was started with it and found the approval. -/
theorem pool_decided (hreach : Pool.Reachable brokerEffect (startPool settings threads) pool)
    {pending : PendingApproval} {decision : Bool}
    (hmem : (⟨.approval (.setDecision pending decision), ()⟩ : Event Op Res) ∈ pool.events) :
    ∃ thread approvalId remember, threads thread = .resolve approvalId decision remember ∧
      (thread, (⟨.approval (.getPending approvalId), some pending⟩ : Event Op Res)) ∈
        pool.history := by
  obtain ⟨thread, hthread⟩ := mem_events.mp hmem
  obtain ⟨_, approvalId, approved, remember, hresolve⟩ := pool_permitted (pool_sound hreach) hthread
  have hresolver := pool_thread_run hreach thread
  rw [hresolve] at hresolver
  obtain ⟨rfl, hfound⟩ := resolve_decides hresolver (Pool.mem_eventsOf.mpr hthread)
  exact ⟨thread, approvalId, remember, hresolve, Pool.mem_eventsOf.mp hfound⟩

/-- So was a decision to remember, and the resolver was told to. -/
theorem pool_remembered (hreach : Pool.Reachable brokerEffect (startPool settings threads) pool)
    {pending : PendingApproval} {decision : Bool}
    (hmem : (⟨.approval (.remember pending decision), ()⟩ : Event Op Res) ∈ pool.events) :
    ∃ thread approvalId, threads thread = .resolve approvalId decision true ∧
      (thread, (⟨.approval (.getPending approvalId), some pending⟩ : Event Op Res)) ∈
        pool.history := by
  obtain ⟨thread, hthread⟩ := mem_events.mp hmem
  obtain ⟨_, approvalId, approved, remember, hresolve⟩ := pool_permitted (pool_sound hreach) hthread
  have hresolver := pool_thread_run hreach thread
  rw [hresolve] at hresolver
  obtain ⟨rfl, rfl, hfound⟩ := resolve_remembers hresolver (Pool.mem_eventsOf.mpr hthread)
  exact ⟨thread, approvalId, hresolve, Pool.mem_eventsOf.mp hfound⟩

/-- A requester was woken by a resolver that had found its approval and decided, and has ended. -/
theorem pool_woken (hreach : Pool.Reachable brokerEffect (startPool settings threads) pool)
    {pending : PendingApproval}
    (hmem : (⟨.approval (.setEvent pending), ()⟩ : Event Op Res) ∈ pool.events) :
    ∃ thread approvalId approved remember, threads thread = .resolve approvalId approved remember ∧
      pool.threads thread = .done (.resolved true) ∧
      (thread, (⟨.approval (.getPending approvalId), some pending⟩ : Event Op Res)) ∈
        pool.history ∧
      (thread, (⟨.approval (.setDecision pending approved), ()⟩ : Event Op Res)) ∈
        pool.history := by
  obtain ⟨thread, hthread⟩ := mem_events.mp hmem
  obtain ⟨_, approvalId, approved, remember, hresolve⟩ := pool_permitted (pool_sound hreach) hthread
  have hresolver := pool_thread_run hreach thread
  rw [hresolve] at hresolver
  obtain ⟨hdone, hfound, hdecided⟩ := resolve_wakes hresolver (Pool.mem_eventsOf.mpr hthread)
  exact ⟨thread, approvalId, approved, remember, hresolve, hdone, Pool.mem_eventsOf.mp hfound,
    Pool.mem_eventsOf.mp hdecided⟩

end

/-! ## Following a schedule -/

/-- The broker's answers, and these answers from everything else. -/
def brokerRespond (answer : (op : Op) → Res op) (broker : Broker) :
    (op : Op) → Option (Res op × Broker)
  | .approval op => op.perform broker
  | op => some (answer op, broker)

theorem broker_respond_effect {answer : (op : Op) → Res op} {broker next : Broker} {op : Op}
    {response : Res op} (h : brokerRespond answer broker op = some (response, next)) :
    brokerEffect broker ⟨op, response⟩ next := by
  cases op with
  | approval op => exact h
  | _ => exact ((Prod.mk.inj (Option.some.inj h)).2).symm

end AgentGraphStudio
