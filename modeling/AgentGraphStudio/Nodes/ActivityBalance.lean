import AgentGraphStudio.Lib.Balance
import AgentGraphStudio.Nodes.Execute

/-!
# Balance of sub-node notifications

An agent tells the run that a sub-node became active, and that it became inactive again. Around
a tool call, around the tool calls of one answer and around a model call the second notification
stands in a `finally`, so it follows the first one however the call ends. `execute_balanced`
says so of every body at every depth of nesting: within each execution, no notification of
inactivity comes without one of activity before it, and none is missing at the end.
-/

namespace AgentGraphStudio

/-- What an operation adds to the number of callers that use a sub-node of a run. -/
def Op.activity (runId id : String) : Op → ℤ
  | .updateRun run (.subNodeActivity subNodeId active) =>
    if run = runId ∧ subNodeId = id then (if active then 1 else -1) else 0
  | _ => 0

/-- The operations that change no run's record other than by the activity of a sub-node. -/
def Op.LeavesRecord : Op → Prop
  | .updateRun _ (.subNodeActivity ..) => True
  | .updateRun .. => False
  | _ => True

theorem activity_update (runId id run subNodeId : String) (active : Bool) :
    (Op.updateRun run (.subNodeActivity subNodeId active)).activity runId id =
      if run = runId ∧ subNodeId = id then (if active then 1 else -1) else 0 := rfl

theorem activity_le_one (runId id : String) (op : Op) : op.activity runId id ≤ 1 := by
  unfold Op.activity
  split
  · split
    · split <;> omega
    · omega
  · omega

section

variable {runId id : String} {α β : Type}

/-- The computation settles from one number of callers to another. -/
def Act.Settles (runId id : String) (last level : ℤ) (act : Act α) : Prop :=
  Program.Settles Op.LeavesRecord (Op.activity runId id) last level act.run

/-- The computation ends as many uses of the sub-node as it starts. -/
abbrev Act.Balanced (runId id : String) (act : Act α) : Prop := Act.Settles runId id 0 0 act

/-- Balance is a property that silent operations have and every construction keeps. -/
theorem activity_rules (runId id : String) :
    Rules (fun op => op.LeavesRecord ∧ op.activity runId id = 0)
      fun _ program => Program.Balanced Op.LeavesRecord (Op.activity runId id) program where
  toCompositional := Program.Settles.compositional _ _
  silent {op} h := by
    cases op with
    | updateRun run update => cases h
    | _ => exact ⟨trivial, rfl⟩

namespace Act.Settles

variable {last middle level : ℤ} {act : Act α} {f : α → Act β}

/-- The rest of a computation that may raise is balanced, so that it may also be left out. -/
theorem bind (h : Act.Settles runId id last level act)
    (hf : ∀ value, Act.Settles runId id last last (f value)) :
    Act.Settles runId id last level (act >>= f) := by
  refine Program.Settles.bind h fun outcome => ?_
  cases outcome with
  | ok value => exact hf value
  | error raised => exact .done _

/-- The cleanup takes over at the level at which the computation ends, however it ends. -/
theorem finallyDo {cleanup : Act Unit} (h : Act.Settles runId id middle level act)
    (hcleanup : Act.Settles runId id last middle cleanup) :
    Act.Settles runId id last level (Act.finallyDo act cleanup) := by
  refine Program.Settles.bind h fun outcome => Program.Settles.bind hcleanup fun cleaned => ?_
  cases cleaned with
  | ok _ => exact .done _
  | error raised => exact .done _

end Act.Settles

/-! ## Notifications -/

/-- How often a sub-node counts as used while an agent has told that it is active. -/
def uses (resources : Resources) (runId id : String) (subNodeId : Option String) : ℤ :=
  if resources.onSubNodeActivity = some runId ∧ subNodeId = some id then 1 else 0

theorem uses_nonneg (resources : Resources) (runId id : String) (subNodeId : Option String) :
    0 ≤ uses resources runId id subNodeId := by
  unfold uses
  split <;> omega

section

variable {resources : Resources} {subNodeId : Option String} {level last : ℤ}

/-- A notification changes the number of callers and never raises. -/
theorem notify_if_connected_bind {active : Bool} {f : Unit → Act α}
    (hlevel : 0 ≤ level + (if active then 1 else -1) * uses resources runId id subNodeId)
    (hf : Act.Settles runId id last
      (level + (if active then 1 else -1) * uses resources runId id subNodeId) (f ())) :
    Act.Settles runId id last level (notifyIfConnected resources subNodeId active >>= f) := by
  unfold uses at hlevel hf
  cases subNodeId with
  | none =>
      simp only [reduceCtorEq, and_false, if_false, mul_zero, add_zero] at hf
      exact hf
  | some subNodeId =>
      show Act.Settles runId id last level (notifySubNodeActivity resources subNodeId active >>= f)
      unfold notifySubNodeActivity
      cases hlistens : resources.onSubNodeActivity with
      | none =>
          simp only [hlistens, reduceCtorEq, false_and, if_false, mul_zero, add_zero] at hf
          exact hf
      | some run =>
          have hweight : (if active then (1 : ℤ) else -1) *
              (if resources.onSubNodeActivity = some runId ∧ some subNodeId = some id
                then 1 else 0) =
              (Op.updateRun run (.subNodeActivity subNodeId active)).activity runId id := by
            simp only [hlistens, Option.some_inj, activity_update, mul_ite, mul_one, mul_zero]
          rw [hweight] at hlevel hf
          exact ⟨trivial, hlevel, fun _ => hf⟩

/-- From the first notification on, one more caller uses the sub-node. -/
theorem started_bind {f : Unit → Act α} (hlevel : 0 ≤ level)
    (hf : Act.Settles runId id last (level + uses resources runId id subNodeId) (f ())) :
    Act.Settles runId id last level (notifyIfConnected resources subNodeId true >>= f) := by
  have huses := uses_nonneg resources runId id subNodeId
  refine notify_if_connected_bind ?_ ?_
  · rw [if_pos rfl, one_mul]
    omega
  · rwa [if_pos rfl, one_mul]

/-- The second notification takes the caller back. -/
theorem stopped_bind {f : Unit → Act α} (hlevel : 0 ≤ level)
    (hf : Act.Settles runId id last level (f ())) :
    Act.Settles runId id last (level + uses resources runId id subNodeId)
      (notifyIfConnected resources subNodeId false >>= f) := by
  refine notify_if_connected_bind ?_ ?_
  · rw [if_neg Bool.false_ne_true]
    omega
  · rw [if_neg Bool.false_ne_true]
    have hback : level + uses resources runId id subNodeId +
        -1 * uses resources runId id subNodeId = level := by omega
    rwa [hback]

theorem stopped (hlevel : 0 ≤ level) :
    Act.Settles runId id level (level + uses resources runId id subNodeId)
      (notifyIfConnected resources subNodeId false) := by
  have hstopped : Act.Settles runId id level (level + uses resources runId id subNodeId)
      (notifyIfConnected resources subNodeId false >>= fun _ => pure ()) :=
    stopped_bind hlevel (.done _)
  rwa [bind_pure] at hstopped

/-- A call between its two notifications is balanced if the call is. -/
theorem bracket_balanced {act : Act α} (h : Act.Balanced runId id act) :
    Act.Balanced runId id (notifyIfConnected resources subNodeId true >>= fun _ =>
      Act.finallyDo act (notifyIfConnected resources subNodeId false)) := by
  refine started_bind le_rfl ?_
  rw [zero_add]
  have hcall : Act.Settles runId id (uses resources runId id subNodeId)
      (uses resources runId id subNodeId) act :=
    Program.Settles.of_balanced h (uses_nonneg resources runId id subNodeId)
  have hstopped : Act.Settles runId id 0 (uses resources runId id subNodeId)
      (notifyIfConnected resources subNodeId false) := by
    have hlast : Act.Settles runId id 0 (0 + uses resources runId id subNodeId)
        (notifyIfConnected resources subNodeId false) := stopped le_rfl
    rwa [zero_add] at hlast
  exact hcall.finallyDo hstopped

end

/-! ## Agents -/

section

variable {python : Python} {connectionTypes : ConnectionRegistry}
  {registry : NodeRegistry Body} {recurse : Body → ExecutionContext → Act NodeResult}
  {resources : Resources}

/-- A tool call is balanced, whether or not the tool raises. -/
theorem dispatch_call_balanced (h : ∀ body ctx, Act.Balanced runId id (recurse body ctx))
    (toolIds : List String) (call : ToolCallRequest) (state : AgentState) :
    Act.Balanced runId id
      (dispatchCall python registry recurse resources toolIds call state) := by
  have rules := activity_rules runId id
  rw [dispatchCall]
  split
  · refine rules.act_bind (rules.act_silent trivial) fun startedAt => ?_
    refine rules.act_bind (rules.act_silent trivial) fun recordId => ?_
    refine rules.act_bind (rules.act_silent trivial) fun finishedAt => ?_
    exact rules.act_bind (rules.act_ofExcept _) fun inputs => rules.act_pure _
  · rename_i toolNode _
    have htool : Act.Balanced runId id
        (runTool python registry recurse resources toolNode call.arguments) :=
      run_tool_keeps rules _ fun definition inputs _ => h _ _
    have hbracket : Act.Balanced runId id
        (notifyIfConnected resources (some toolNode.id) true >>= fun _ =>
          Act.finallyDo (runTool python registry recurse resources toolNode call.arguments)
            (notifyIfConnected resources (some toolNode.id) false)) := bracket_balanced htool
    rw [← bind_assoc]
    exact hbracket.bind fun result => rules.act_pure _

theorem dispatch_calls_balanced (h : ∀ body ctx, Act.Balanced runId id (recurse body ctx))
    (toolIds : List String) (calls : List ToolCallRequest) (state : AgentState) :
    Act.Balanced runId id
      (dispatchCalls python registry recurse resources toolIds calls state) := by
  induction calls generalizing state with
  | nil => exact .done _
  | cons call calls ih => exact (dispatch_call_balanced h toolIds call state).bind ih

/-- A model call is balanced, whether or not the model raises. The notifications of the model
and of the memory overlap. -/
theorem call_model_balanced (setup : AgentSetup) (messages : List Message) :
    Act.Balanced runId id (callModel resources setup messages) := by
  have rules := activity_rules runId id
  have hmodel := uses_nonneg resources runId id (some setup.modelNode.id)
  have hmemory := uses_nonneg resources runId id setup.memoryId
  show Act.Settles runId id 0 0
    (notifyIfConnected resources (some setup.modelNode.id) true >>= fun _ => _)
  refine started_bind le_rfl (started_bind (by omega) ?_)
  refine Act.Settles.finallyDo (Program.Settles.of_balanced ?_ (by omega)) ?_
  · refine rules.act_exceptException ?_ fun _ => rules.act_raise _
    exact rules.act_bind (rules.act_perform ⟨trivial, rfl⟩) fun _ => rules.act_ofExcept _
  · rw [zero_add, add_comm, ← zero_add (uses resources runId id setup.memoryId)]
    show Act.Settles runId id 0 _
      (notifyIfConnected resources (some setup.modelNode.id) false >>= fun _ => _)
    exact stopped_bind (by omega) (stopped le_rfl)

/-- The turns of an agent are balanced. -/
theorem agent_loop_balanced (h : ∀ body ctx, Act.Balanced runId id (recurse body ctx))
    (setup : AgentSetup) (turns : Nat) (state : AgentState) :
    Act.Balanced runId id (agentLoop python registry recurse resources setup turns state) := by
  have rules := activity_rules runId id
  induction turns generalizing state with
  | zero => exact rules.act_raise _
  | succ turns ih =>
      rw [agentLoop]
      refine (call_model_balanced setup state.messages).bind fun response => ?_
      dsimp only
      split
      · split
        · exact ih _
        · exact rules.act_pure _
      · rw [← bind_assoc]
        exact (bracket_balanced (dispatch_calls_balanced h _ _ _)).bind ih

theorem execute_agent_balanced (h : ∀ body ctx, Act.Balanced runId id (recurse body ctx))
    (ctx : ExecutionContext) :
    Act.Balanced runId id (executeAgent python registry connectionTypes recurse ctx) := by
  have rules := activity_rules runId id
  refine rules.act_bind (set_up_agent_keeps rules fun connection => ⟨trivial, rfl⟩) fun setup => ?_
  refine rules.act_bind (rules.act_ofExcept _) fun task => ?_
  exact agent_loop_balanced h setup _ _

end

/-- One body is balanced, if the executions it starts are. -/
theorem execute_with_balanced {env : Environment}
    {recurse : Body → ExecutionContext → Act NodeResult}
    (h : ∀ body ctx, Act.Balanced runId id (recurse body ctx)) (body : Body)
    (ctx : ExecutionContext) : Act.Balanced runId id (executeWith env recurse body ctx) := by
  have rules := activity_rules runId id
  have hlooks : MayLookUp (fun op => op.LeavesRecord ∧ op.activity runId id = 0) ctx.node.config :=
    fun _ _ _ => ⟨trivial, rfl⟩
  cases body with
  | plain run => exact rules.act_ofExcept _
  | scheduleTrigger => exact execute_schedule_trigger_keeps rules
  | webhookTrigger => exact execute_webhook_trigger_keeps rules fun _ _ _ _ _ _ => h _ _
  | llmCall => exact execute_llm_call_keeps rules hlooks
  | agent => exact execute_agent_balanced h ctx
  | loop => exact execute_loop_keeps rules fun _ _ _ _ _ _ _ _ _ _ => h _ _
  | code => exact execute_code_keeps rules
  | ingestDocument => exact execute_ingest_document_keeps rules hlooks
  | vectorSearch => exact execute_vector_search_keeps rules hlooks
  | telegram methods => exact execute_telegram_action_keeps rules hlooks
  | mcpCall =>
      exact execute_mcp_call_keeps rules fun _ _ _ => call_stdio_gated_keeps rules ⟨trivial, rfl⟩
  | generated binding =>
      exact execute_generated_keeps rules ⟨trivial, rfl⟩ (fun _ _ => ⟨trivial, rfl⟩)
        (fun _ _ => ⟨⟨trivial, rfl⟩, ⟨trivial, rfl⟩⟩) fun _ _ _ => ⟨trivial, rfl⟩

/-- Every execution is balanced, by induction on how deep executions may nest. -/
theorem execute_balanced (env : Environment) (runId id : String) (depth : Nat) (body : Body)
    (ctx : ExecutionContext) : Act.Balanced runId id (execute env depth body ctx) := by
  induction depth generalizing body ctx with
  | zero => exact (activity_rules runId id).act_raise _
  | succ depth ih => exact execute_with_balanced ih body ctx

end

end AgentGraphStudio
