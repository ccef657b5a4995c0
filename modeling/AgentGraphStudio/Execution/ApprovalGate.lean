import AgentGraphStudio.Execution.Discipline

/-!
# The approval gate

The threads of `backend/execution/approvals.py` as programs over its steps, and the gate that
a body asks before it calls a tool. `Answers` is what the module promises about its responses
in terms of what has happened; with it, `request_approval_certified` says that a request
returns `True` only if the tool was granted to its run.
-/

namespace AgentGraphStudio

/-- One step of the approval module. -/
def approvalStep (op : ApprovalOp) : Program Op Res op.Response :=
  Program.op (Op.approval op)

/-- Ask whether a tool may be called with these arguments, and wait for the answer unless one
is remembered for the run and the tool. -/
def requestApproval (runId toolName : String) (arguments : Config) : Program Op Res Bool := do
  match ← approvalStep (.checkRemembered runId toolName) with
  | some decision => pure decision
  | none =>
    let approvalId ← Program.op Op.uuid4
    let pending ← approvalStep (.addPending approvalId runId toolName arguments)
    approvalStep (.wait pending)
    let decision ← approvalStep (.readDecision pending)
    approvalStep (.popPending approvalId)
    pure decision

/-- Answer a pending approval. The result says whether there was one. -/
def resolveApproval (approvalId : String) (approved remember : Bool) : Program Op Res Bool := do
  match ← approvalStep (.getPending approvalId) with
  | none => pure false
  | some pending =>
    approvalStep (.setDecision pending approved)
    if remember then
      approvalStep (.remember pending approved)
      approvalStep (.setEvent pending)
      pure true
    else
      approvalStep (.setEvent pending)
      pure true

/-- Forget the remembered decisions of a run. -/
def clearRememberedForRun (runId : String) : Program Op Res Unit :=
  approvalStep (.clearRemembered runId)

/-- The gate of a body (`ctx.resources.get("approval_prompt", default_terminal_approval)`): the
approvals of the run, or else the terminal. -/
def approve (resources : Resources) (toolName : String) (arguments : Config) : Act Bool :=
  match resources.approvalPrompt with
  | some runId => ExceptT.lift (requestApproval runId toolName arguments)
  | none => do Act.ofExcept (← Act.perform (.terminalApproval toolName arguments))

/-- Ask the approval gate and raise if it declines. -/
def requireApproval (resources : Resources) (toolName : String) (arguments : Config) :
    Act Unit := do
  if ← approve resources toolName arguments then pure ()
  else Act.raise s!"Tool call to '{toolName}' was declined by the approval gate"

/-! ## What a granted tool stems from -/

/-- A request of this run was shown with these arguments, and it was approved. -/
def Approved (history : History) (runId toolName : String) (arguments : Config) : Prop :=
  ∃ approvalId pending,
    (⟨.approval (.addPending approvalId runId toolName arguments), pending⟩ : Event Op Res) ∈
      history ∧
    pending.runId = runId ∧ pending.toolName = toolName ∧ pending.arguments = arguments ∧
    (⟨.approval (.setDecision pending true), ()⟩ : Event Op Res) ∈ history

/-- An approval of this run and tool was remembered. -/
def Remembered (history : History) (runId toolName : String) : Prop :=
  ∃ pending, pending.runId = runId ∧ pending.toolName = toolName ∧
    (⟨.approval (.remember pending true), ()⟩ : Event Op Res) ∈ history

/-- The run may call the tool with these arguments. -/
def Granted (history : History) (runId toolName : String) (arguments : Config) : Prop :=
  Approved history runId toolName arguments ∨ Remembered history runId toolName

theorem Granted.append {history : History} {runId toolName : String} {arguments : Config}
    (h : Granted history runId toolName arguments) (more : History) :
    Granted (history ++ more) runId toolName arguments := by
  rcases h with ⟨approvalId, pending, hadd, hrun, htool, hargs, hset⟩ | ⟨pending, hrun, htool, hmem⟩
  · exact .inl ⟨approvalId, pending, List.mem_append_left _ hadd, hrun, htool, hargs,
      List.mem_append_left _ hset⟩
  · exact .inr ⟨pending, hrun, htool, List.mem_append_left _ hmem⟩

/-- What the responses of the approval module say about the past. -/
def Answers (history : History) : (op : Op) → Res op → Prop
  | .approval (.checkRemembered runId toolName), response =>
    response = some true → Remembered history runId toolName
  | .approval (.addPending _ runId toolName arguments), pending =>
    pending.runId = runId ∧ pending.toolName = toolName ∧ pending.arguments = arguments
  | .approval (.readDecision pending), decision =>
    decision = true →
      (⟨.approval (.setDecision pending true), ()⟩ : Event Op Res) ∈ history
  | _, _ => True

/-- The policy relies on the approval module. -/
def Policy.AnswersApprovals (policy : Policy) : Prop :=
  ∀ history op response, policy.allowed history op response → Answers history op response

/-- A request returns `True` only if the tool is granted. -/
theorem request_approval_certified {policy : Policy} (hanswers : policy.AnswersApprovals)
    (history : History) (runId toolName : String) (arguments : Config) :
    Program.Certified policy.permitted policy.allowed history
      (requestApproval runId toolName arguments)
      fun history approved => approved = true → Granted history runId toolName arguments := by
  have hroutine := policy.routine
  intro others
  refine ⟨hroutine _ _ trivial, fun remembered hremembered => ?_⟩
  replace hremembered := hanswers _ _ _ hremembered
  cases remembered with
  | some decision =>
      intro more hdecision
      obtain ⟨pending, hrun, htool, hmem⟩ := hremembered (by rw [hdecision])
      exact .inr ⟨pending, hrun, htool,
        List.mem_append_left _ (List.mem_append_left _ hmem)⟩
  | none =>
      intro others₁
      refine ⟨hroutine _ _ trivial, fun approvalId _ others₂ => ?_⟩
      refine ⟨hroutine _ _ trivial, fun pending hpending others₃ => ?_⟩
      refine ⟨hroutine _ _ trivial, fun _ _ others₄ => ?_⟩
      refine ⟨hroutine _ _ trivial, fun decision hdecision others₅ => ?_⟩
      refine ⟨hroutine _ _ trivial, fun _ _ more happroved => ?_⟩
      obtain ⟨hrun, htool, hargs⟩ := hanswers _ _ _ hpending
      have hset := hanswers _ _ _ hdecision happroved
      refine .inl ⟨approvalId, pending, by simp, hrun, htool, hargs, ?_⟩
      simp only [List.append_assoc] at hset ⊢
      simp only [List.mem_append] at hset ⊢
      tauto

section

variable {permits : Op → Prop} {P : ∀ α : Type, Program Op Res α → Prop}

/-- A request is built from silent steps. -/
theorem request_approval_keeps (rules : Rules permits P) (runId toolName : String)
    (arguments : Config) : P _ (requestApproval runId toolName arguments) := by
  have hstep : ∀ op : ApprovalOp, (Op.approval op).Silent → P _ (approvalStep op) :=
    fun op h => rules.op (rules.silent h)
  refine rules.bind (hstep (.checkRemembered runId toolName) trivial) fun remembered => ?_
  cases remembered with
  | some decision => exact rules.done _
  | none =>
      have huuid : P _ (Program.op Op.uuid4 : Program Op Res String) :=
        rules.op (rules.silent (show Op.uuid4.Silent from trivial))
      refine rules.bind huuid fun approvalId => ?_
      refine rules.bind (hstep (.addPending approvalId runId toolName arguments) trivial)
        fun pending => ?_
      refine rules.bind (hstep (.wait pending) trivial) fun _ => ?_
      refine rules.bind (hstep (.readDecision pending) trivial) fun decision => ?_
      exact rules.bind (hstep (.popPending approvalId) trivial) fun _ => rules.done _

theorem approve_keeps (rules : Rules permits P) (resources : Resources) (toolName : String)
    (arguments : Config) : P _ (approve resources toolName arguments).run := by
  rw [approve]
  cases resources.approvalPrompt with
  | some runId => exact rules.act_lift (request_approval_keeps rules _ _ _)
  | none => exact rules.act_bind (rules.act_silent trivial) fun _ => rules.act_ofExcept _

/-- So is the gate. -/
theorem require_approval_keeps (rules : Rules permits P) (resources : Resources)
    (toolName : String) (arguments : Config) :
    P _ (requireApproval resources toolName arguments).run := by
  refine rules.act_bind (approve_keeps rules _ _ _) fun approved => ?_
  cases approved with
  | true => exact rules.act_pure ()
  | false => exact rules.act_raise _

end

/-- A request that is asked by the gate returns `True` only with what `Grant` says. -/
def Policy.Requests (policy : Policy) (runId toolName : String) (arguments : Config)
    (Grant : History → Prop) : Prop :=
  ∀ history, Program.Certified policy.permitted policy.allowed history
    (requestApproval runId toolName arguments) fun history approved => approved = true →
      Grant history

/-- In a run that the API started, the gate lets a body pass only with a request's `True`. -/
theorem require_approval_certified {policy : Policy} {resources : Resources} {runId : String}
    (hrun : resources.approvalPrompt = some runId) {toolName : String} {arguments : Config}
    {Grant : History → Prop} (hrequest : policy.Requests runId toolName arguments Grant)
    (history : History) :
    Program.Certified policy.permitted policy.allowed history
      (requireApproval resources toolName arguments).run
      fun history outcome => outcome = .ok () → Grant history := by
  have happrove : Program.Certified policy.permitted policy.allowed history
      (approve resources toolName arguments).run
      fun history outcome => outcome = .ok true → Grant history := by
    rw [approve, hrun]
    refine (hrequest history).bind fun more approved happroved others => ?_
    intro heq
    cases heq
    exact happroved others rfl
  refine happrove.bind fun more outcome houtcome => ?_
  rcases outcome with raised | ⟨_ | _⟩
  · exact fun _ h => by cases h
  · exact fun _ h => by cases h
  · exact fun others _ => houtcome others rfl

/-- What follows the gate runs with the grant. -/
theorem require_approval_bind {policy : Policy} {resources : Resources} {runId : String}
    (hrun : resources.approvalPrompt = some runId) {toolName : String} {arguments : Config}
    {Grant : History → Prop} (hrequest : policy.Requests runId toolName arguments Grant)
    {β : Type} {f : Unit → Act β}
    (hf : ∀ history, (∀ others, Grant (history ++ others)) →
      Program.Certified policy.permitted policy.allowed history (f ()).run fun _ _ => True) :
    (requireApproval resources toolName arguments >>= f).Always policy := by
  intro history
  refine (require_approval_certified hrun hrequest history).bind fun more outcome houtcome => ?_
  cases outcome with
  | ok value => exact hf _ fun others => houtcome others rfl
  | error raised => exact Program.Always.done _ _

end AgentGraphStudio
