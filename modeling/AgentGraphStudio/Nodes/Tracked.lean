import AgentGraphStudio.Execution.Ledger
import AgentGraphStudio.Nodes.Execute

/-!
# Executing any node with a ledger

The bodies that execute other nodes, once more over computations that keep a ledger: an agent
enters each model call that answered and each tool body it invoked, and a loop the nodes that the
engine executed in its iterations. Every other body is as it was and enters nothing. Erasing the
ledger gives back the bodies (`erase_executeTracked`) and with them the whole run
(`erase_trackedRun`).
-/

namespace AgentGraphStudio

namespace TrackedAct

variable {α β : Type}

/-- A computation that enters nothing. -/
def lift (act : Act α) : TrackedAct α := ExceptT.mk (Logged.lift act.run)

/-- Enter something. -/
def note (entry : Ledger) : TrackedAct Unit := ExceptT.lift (Logged.note entry)

/-- `try: act` with `except Exception as e: handler(e)`. The handler gets `str(e)`, which may
raise when it is taken. -/
def catchException (act : TrackedAct α) (handler : Except Raised String → TrackedAct α) :
    TrackedAct α :=
  ExceptT.mk (act.run >>= fun
    | .error (.exception message) => (handler (.ok message)).run
    | .error (.unprintable raised) => (handler (.error raised)).run
    | outcome => pure outcome)

/-- `try: act` with an `except Exception as e` that begins with `str(e)`. -/
def exceptException (act : TrackedAct α) (handler : String → TrackedAct α) : TrackedAct α :=
  catchException act fun text => lift (Act.ofExcept text) >>= handler

/-- `try: act` with `finally: cleanup`. -/
def finallyDo (act : TrackedAct α) (cleanup : Act Unit) : TrackedAct α :=
  ExceptT.mk (act.run >>= fun outcome => Logged.lift cleanup.run >>= fun
    | .ok () => pure outcome
    | .error raised => pure (.error raised))

/-- The computation without its ledger. -/
def erase (act : TrackedAct α) : Act α := ExceptT.mk act.run.erase

@[simp] theorem erase_pure (value : α) : erase (pure value : TrackedAct α) = pure value := rfl

@[simp] theorem erase_lift (act : Act α) : erase (lift act) = act := Logged.erase_lift act.run

@[simp] theorem erase_note (entry : Ledger) : erase (note entry) = pure () := rfl

@[simp] theorem erase_bind (act : TrackedAct α) (f : α → TrackedAct β) :
    erase (act >>= f) = erase act >>= fun value => erase (f value) := by
  refine (Logged.erase_bind act.run _).trans
    (congrArg act.run.erase.bind (funext fun outcome => ?_))
  cases outcome with
  | ok value => rfl
  | error raised => rfl

@[simp] theorem erase_catchException (act : TrackedAct α)
    (handler : Except Raised String → TrackedAct α) :
    erase (catchException act handler) =
      Act.catchException (erase act) fun text => erase (handler text) := by
  refine (Logged.erase_bind act.run _).trans
    (congrArg act.run.erase.bind (funext fun outcome => ?_))
  cases outcome with
  | ok value => rfl
  | error raised =>
      cases raised with
      | exception message => rfl
      | baseException message => rfl
      | unprintable raised => rfl

@[simp] theorem erase_exceptException (act : TrackedAct α) (handler : String → TrackedAct α) :
    erase (exceptException act handler) =
      Act.exceptException (erase act) fun message => erase (handler message) := by
  unfold exceptException Act.exceptException
  simp only [erase_catchException, erase_bind, erase_lift]

@[simp] theorem erase_finallyDo (act : TrackedAct α) (cleanup : Act Unit) :
    erase (finallyDo act cleanup) = Act.finallyDo (erase act) cleanup := by
  refine (Logged.erase_bind act.run _).trans
    (congrArg act.run.erase.bind (funext fun outcome => ?_))
  refine (Logged.erase_bind _ _).trans ?_
  rw [Logged.erase_lift]
  refine congrArg cleanup.run.bind (funext fun cleaned => ?_)
  cases cleaned with
  | ok _ => rfl
  | error raised => rfl

end TrackedAct

section

variable {Body : Type}

/-! ## The agent -/

section

variable (python : Python) (registry : NodeRegistry Body)
  (recurse : Body → ExecutionContext → TrackedAct NodeResult) (resources : Resources)

/-- `runTool`, which enters the tool's execution. -/
def runToolTracked (toolNode : NodeSpec) (callArguments : Json) :
    TrackedAct (TraceRecord × String) := do
  let definition := registry.get toolNode.type
  let startedAt ← TrackedAct.lift (Act.perform .utcnowIso)
  let runId ← TrackedAct.lift (Act.perform .uuid4)
  let outcome ← TrackedAct.catchException
    (do
      match definition with
      | none =>
        TrackedAct.lift
          (Act.raise s!"agent tool '{toolNode.id}' has unregistered type '{toolNode.type}'")
      | some definition =>
        let toolResult ← ExceptT.mk (entered (fun execution => { tools := [execution] }) recurse
          definition.execute ⟨toolNode, .ofJson callArguments, resources⟩)
        pure (Except.ok toolResult))
    fun errorText => pure (.error errorText)
  let finishedAt ← TrackedAct.lift (Act.perform .utcnowIso)
  TrackedAct.lift
    (Act.ofExcept (toolReport python toolNode callArguments runId startedAt finishedAt outcome))

/-- `dispatchCall`. -/
def dispatchCallTracked (toolIds : List String) (call : ToolCallRequest) (state : AgentState) :
    TrackedAct AgentState :=
  match if call.name ∈ toolIds then resources.nodesById.get? call.name else none with
  | none => do
    let available := ", ".intercalate toolIds
    let errorText := s!"Unknown tool '{call.name}'. Available tools: {available}"
    let startedAt ← TrackedAct.lift (Act.perform .utcnowIso)
    let runId ← TrackedAct.lift (Act.perform .uuid4)
    let finishedAt ← TrackedAct.lift (Act.perform .utcnowIso)
    let inputs ← TrackedAct.lift (Act.ofExcept (recordInputs call.arguments))
    let record : TraceRecord :=
      { runId, nodeId := call.name, nodeType := "unknown", startedAt, finishedAt, inputs
        outputs := .empty, error := some errorText }
    pure { state with
      childTraces := state.childTraces ++ [[record]]
      messages := state.messages ++ [.tool call.id call.name errorText] }
  | some toolNode => do
    TrackedAct.lift (notifySubNodeActivity resources toolNode.id true)
    let (record, toolText) ← TrackedAct.finallyDo
      (runToolTracked python registry recurse resources toolNode call.arguments)
      (notifySubNodeActivity resources toolNode.id false)
    pure { state with
      childTraces := state.childTraces ++ [[record]]
      messages := state.messages ++ [.tool call.id call.name toolText] }

/-- `dispatchCalls`. -/
def dispatchCallsTracked (toolIds : List String) :
    List ToolCallRequest → AgentState → TrackedAct AgentState
  | [], state => pure state
  | call :: calls, state => do
    let state ← dispatchCallTracked python registry recurse resources toolIds call state
    dispatchCallsTracked toolIds calls state

/-- `agentLoop`, which enters the tokens of each answer. -/
def agentLoopTracked (setup : AgentSetup) : Nat → AgentState → TrackedAct NodeResult
  | 0, _ =>
    TrackedAct.lift (Act.raise
      (s!"agent exceeded max_iterations ({setup.maxIterations}) without producing a " ++
      "final answer"))
  | turns + 1, state => do
    let response ← TrackedAct.lift (callModel resources setup state.messages)
    TrackedAct.note { modelCalls := [⟨response.inputTokens, response.outputTokens⟩] }
    let state := { state with
      inputTokens := state.inputTokens + response.inputTokens
      outputTokens := state.outputTokens + response.outputTokens }
    let content := response.text.getD ""
    if response.toolCalls.isEmpty then
      if ¬ setup.toolDefinitions.isEmpty ∧ ¬ state.toolsEverCalled ∧ ¬ state.toolCallNudgeUsed then
        agentLoopTracked setup turns { state with
          toolCallNudgeUsed := true
          messages := state.messages ++ [.assistant content none, toolCallNudge] }
      else
        pure
          { outputs := .ofList [("answer", .str content)]
            childTraces := if state.childTraces.isEmpty then none else some state.childTraces
            tokenCost := ⟨state.inputTokens, state.outputTokens⟩ }
    else
      let state := { state with
        toolsEverCalled := true
        messages := state.messages ++ [.assistant content (some response.toolCalls)] }
      TrackedAct.lift (notifyIfConnected resources setup.toolGroupId true)
      let state ← TrackedAct.finallyDo
        (dispatchCallsTracked python registry recurse resources setup.toolIds response.toolCalls
          state)
        (notifyIfConnected resources setup.toolGroupId false)
      agentLoopTracked setup turns state

end

/-- `executeAgent`. -/
def executeAgentTracked (python : Python) (registry : NodeRegistry Body)
    (connectionTypes : ConnectionRegistry)
    (recurse : Body → ExecutionContext → TrackedAct NodeResult) (ctx : ExecutionContext) :
    TrackedAct NodeResult := do
  let setup ← TrackedAct.lift (setUpAgent registry connectionTypes ctx)
  let task ← TrackedAct.lift (Act.ofExcept (ctx.inputs.get "task"))
  agentLoopTracked python registry recurse ctx.resources setup setup.maxIterations.toNat
    { messages := [.user task] }

/-! ## The loop -/

section

variable (registry : NodeRegistry Body) (recurse : Body → ExecutionContext → TrackedAct NodeResult)

/-- `runSubGraph`, which enters the nodes that are executed. -/
def runSubGraphTracked (graph : GraphSpec) (resources : Resources) : TrackedAct RunResult := do
  let store ← TrackedAct.lift (Act.perform .readConnections)
  ExceptT.mk (trackedRunGraph (Observers.none _) recurse graph registry store resources none)

/-- `loopIterations`. -/
def loopIterationsTracked (config : LoopConfig) (entryNodeId : String) (resources : Resources) :
    Nat → Json → List (List TraceRecord) → TrackedAct NodeResult
  | 0, value, childTraces =>
    pure { outputs := .ofList [("value", value)], childTraces := some childTraces }
  | iterations + 1, value, childTraces => do
    let subResult ← TrackedAct.exceptException
      (runSubGraphTracked registry recurse (iterationGraph config.subGraph entryNodeId value)
        resources)
      fun e => TrackedAct.lift (Act.raise s!"loop iteration failed: {e}")
    let childTraces := childTraces ++ [subResult.trace]
    match subResult.result.values with
    | [value] =>
      if stopFired config.stopConditionSlot subResult.trace then
        pure { outputs := .ofList [("value", value)], childTraces := some childTraces }
      else loopIterationsTracked config entryNodeId resources iterations value childTraces
    | values =>
      TrackedAct.lift
        (Act.raise s!"loop sub_graph must produce exactly one result value, got {values.length}")

/-- `executeLoop`. -/
def executeLoopTracked (ctx : ExecutionContext) : TrackedAct NodeResult := do
  let config ← TrackedAct.lift (Act.ofExcept (validated (LoopConfig.parse ctx.node.config)))
  let store ← TrackedAct.lift (Act.perform .readConnections)
  match preCheck registry config store with
  | .error issues =>
    TrackedAct.lift (Act.raise ("loop sub_graph is invalid: " ++ graphValidationErrorText issues))
  | .ok () =>
    let entryNodeId ← TrackedAct.lift (Act.ofExcept (findEntryNodeId config.subGraph))
    let value ← TrackedAct.lift (Act.ofExcept (ctx.inputs.get "value"))
    loopIterationsTracked registry recurse config entryNodeId ctx.resources
      config.maxIterations.toNat value []

end

end

/-! ## Any node -/

/-- `executeWebhookTrigger`. What its adapter enters is entered for the trigger. -/
def executeWebhookTriggerTracked (registry : NodeRegistry Body)
    (recurse : Body → ExecutionContext → TrackedAct NodeResult) (ctx : ExecutionContext) :
    TrackedAct NodeResult :=
  match ctx.resources.subNodes.getD (ctx.node.id, "trigger_adapter") [] with
  | [adapterId] => do
    let adapterNode ← TrackedAct.lift (Act.ofExcept (nodeById ctx.resources adapterId))
    match registry.get adapterNode.type with
    | none =>
      TrackedAct.lift (Act.raise
        s!"trigger_adapter '{adapterNode.id}' has unregistered type '{adapterNode.type}'")
    | some adapterDefinition =>
      let payload := ctx.resources.triggerPayloads.getD ctx.node.id (.obj [])
      recurse adapterDefinition.execute
        ⟨adapterNode, .dict (.ofList [("payload", payload)]), ctx.resources⟩
  | adapterIds =>
    TrackedAct.lift
      (Act.raise (s!"webhook_trigger '{ctx.node.id}' has {adapterIds.length} connected " ++
        "'trigger_adapter' sub-nodes, expected exactly 1"))

/-- `executeWith`. A body that executes no other node enters nothing. -/
def executeWithTracked (env : Environment)
    (recurse : Body → ExecutionContext → TrackedAct NodeResult) (body : Body)
    (ctx : ExecutionContext) : TrackedAct NodeResult :=
  match body with
  | .webhookTrigger => executeWebhookTriggerTracked env.registry recurse ctx
  | .agent => executeAgentTracked env.python env.registry env.connectionTypes recurse ctx
  | .loop => executeLoopTracked env.registry recurse ctx
  | body => TrackedAct.lift (executeWith env (fun body ctx => (recurse body ctx).erase) body ctx)

/-- `execute`. -/
def executeTracked (env : Environment) : Nat → Body → ExecutionContext → TrackedAct NodeResult
  | 0 => fun _ _ => TrackedAct.lift (Act.raise "maximum recursion depth exceeded")
  | depth + 1 => executeWithTracked env (executeTracked env depth)

/-- `runGraphWith`. -/
def trackedRun (env : Environment) (depth : Nat) (observers : Observers (Program Op Res))
    (graph : GraphSpec) (store : ConnectionStore) (resources : Resources)
    (runId : Option String) : Tracked (Except Raised RunResult) :=
  trackedRunGraph observers (executeTracked env depth) graph env.registry store resources runId

/-! ## Erasing the ledger -/

section

variable {Body : Type} {python : Python} {registry : NodeRegistry Body}
  {connectionTypes : ConnectionRegistry}
  {recurse : Body → ExecutionContext → TrackedAct NodeResult} {resources : Resources}

/-- Entering an execution performs what the execution performs. -/
@[simp] theorem erase_mk_entered (enter : Execution → Ledger) (body : Body)
    (ctx : ExecutionContext) :
    TrackedAct.erase (ExceptT.mk (entered enter recurse body ctx)) = (recurse body ctx).erase :=
  congrArg ExceptT.mk (erase_entered enter body ctx)

theorem erase_runTool (toolNode : NodeSpec) (callArguments : Json) :
    (runToolTracked python registry recurse resources toolNode callArguments).erase =
      runTool python registry (fun body ctx => (recurse body ctx).erase) resources toolNode
        callArguments := by
  unfold runToolTracked runTool
  simp only [TrackedAct.erase_bind, TrackedAct.erase_lift, TrackedAct.erase_catchException]
  refine congrArg _ (funext fun startedAt => congrArg _ (funext fun runId => ?_))
  refine congrArg₂ _ (congrArg₂ _ ?_ (funext fun errorText => rfl)) rfl
  cases registry.get toolNode.type with
  | none => exact TrackedAct.erase_lift _
  | some definition => simp

theorem erase_dispatchCall (toolIds : List String) (call : ToolCallRequest) (state : AgentState) :
    (dispatchCallTracked python registry recurse resources toolIds call state).erase =
      dispatchCall python registry (fun body ctx => (recurse body ctx).erase) resources toolIds call
        state := by
  unfold dispatchCallTracked dispatchCall
  cases (if call.name ∈ toolIds then resources.nodesById.get? call.name else none) with
  | none => simp only [TrackedAct.erase_bind, TrackedAct.erase_lift, TrackedAct.erase_pure]
  | some toolNode =>
      simp only [TrackedAct.erase_bind, TrackedAct.erase_lift, TrackedAct.erase_finallyDo,
        TrackedAct.erase_pure, erase_runTool]

theorem erase_dispatchCalls (toolIds : List String) (calls : List ToolCallRequest)
    (state : AgentState) :
    (dispatchCallsTracked python registry recurse resources toolIds calls state).erase =
      dispatchCalls python registry (fun body ctx => (recurse body ctx).erase) resources toolIds
        calls state := by
  induction calls generalizing state with
  | nil => rfl
  | cons call calls ih =>
      unfold dispatchCallsTracked dispatchCalls
      rw [TrackedAct.erase_bind, erase_dispatchCall]
      exact congrArg _ (funext fun next => ih next)

theorem erase_agentLoop (setup : AgentSetup) (turns : Nat) (state : AgentState) :
    (agentLoopTracked python registry recurse resources setup turns state).erase =
      agentLoop python registry (fun body ctx => (recurse body ctx).erase) resources setup turns
        state := by
  induction turns generalizing state with
  | zero => exact TrackedAct.erase_lift _
  | succ turns ih =>
      unfold agentLoopTracked agentLoop
      simp only [TrackedAct.erase_bind, TrackedAct.erase_lift, TrackedAct.erase_note, pure_bind]
      refine congrArg _ (funext fun response => ?_)
      split
      · split
        · exact ih _
        · rfl
      · simp only [TrackedAct.erase_bind, TrackedAct.erase_lift, TrackedAct.erase_finallyDo,
          erase_dispatchCalls]
        exact congrArg _ (funext fun _ => congrArg _ (funext fun next => ih next))

theorem erase_executeAgent (ctx : ExecutionContext) :
    (executeAgentTracked python registry connectionTypes recurse ctx).erase =
      executeAgent python registry connectionTypes (fun body ctx => (recurse body ctx).erase)
        ctx := by
  unfold executeAgentTracked executeAgent
  simp only [TrackedAct.erase_bind, TrackedAct.erase_lift, erase_agentLoop]

theorem erase_runSubGraph (graph : GraphSpec) :
    (runSubGraphTracked registry recurse graph resources).erase =
      runSubGraph registry (fun body ctx => (recurse body ctx).erase) graph resources := by
  unfold runSubGraphTracked runSubGraph
  rw [TrackedAct.erase_bind, TrackedAct.erase_lift]
  exact congrArg _ (funext fun store => congrArg ExceptT.mk (erase_runGraph none))

theorem erase_loopIterations (config : LoopConfig) (entryNodeId : String) (iterations : Nat)
    (value : Json) (childTraces : List (List TraceRecord)) :
    (loopIterationsTracked registry recurse config entryNodeId resources iterations value
      childTraces).erase =
    loopIterations registry (fun body ctx => (recurse body ctx).erase) config entryNodeId resources
      iterations value childTraces := by
  induction iterations generalizing value childTraces with
  | zero => rfl
  | succ iterations ih =>
      unfold loopIterationsTracked loopIterations
      simp only [TrackedAct.erase_bind, TrackedAct.erase_exceptException, TrackedAct.erase_lift,
        erase_runSubGraph]
      refine congrArg _ (funext fun subResult => ?_)
      generalize subResult.result.values = values
      match values with
      | [value] =>
          dsimp only
          split
          · rfl
          · exact ih _ _
      | [] => exact TrackedAct.erase_lift _
      | _ :: _ :: _ => exact TrackedAct.erase_lift _

theorem erase_executeLoop (ctx : ExecutionContext) :
    (executeLoopTracked registry recurse ctx).erase =
      executeLoop registry (fun body ctx => (recurse body ctx).erase) ctx := by
  unfold executeLoopTracked executeLoop
  simp only [TrackedAct.erase_bind, TrackedAct.erase_lift]
  refine congrArg _ (funext fun config => congrArg _ (funext fun store => ?_))
  cases preCheck registry config store with
  | error issues => exact TrackedAct.erase_lift _
  | ok checked => simp only [TrackedAct.erase_bind, TrackedAct.erase_lift, erase_loopIterations]

end

theorem erase_executeWebhookTrigger {registry : NodeRegistry Body}
    {recurse : Body → ExecutionContext → TrackedAct NodeResult} (ctx : ExecutionContext) :
    (executeWebhookTriggerTracked registry recurse ctx).erase =
      executeWebhookTrigger registry (fun body ctx => (recurse body ctx).erase) ctx := by
  unfold executeWebhookTriggerTracked executeWebhookTrigger
  generalize ctx.resources.subNodes.getD (ctx.node.id, "trigger_adapter") [] = adapterIds
  match adapterIds with
  | [adapterId] =>
      rw [TrackedAct.erase_bind, TrackedAct.erase_lift]
      refine congrArg _ (funext fun adapterNode => ?_)
      cases registry.get adapterNode.type with
      | none => exact TrackedAct.erase_lift _
      | some definition => rfl
  | [] => exact TrackedAct.erase_lift _
  | _ :: _ :: _ => exact TrackedAct.erase_lift _

/-- Erasing the ledger gives back the body. -/
theorem erase_executeTracked (env : Environment) (depth : Nat) :
    (fun body ctx => (executeTracked env depth body ctx).erase) = execute env depth := by
  induction depth with
  | zero => exact funext fun body => funext fun ctx => TrackedAct.erase_lift _
  | succ depth ih =>
      funext body ctx
      show (executeWithTracked env (executeTracked env depth) body ctx).erase =
        executeWith env (execute env depth) body ctx
      rw [← ih]
      cases body with
      | webhookTrigger => exact erase_executeWebhookTrigger ctx
      | agent => exact erase_executeAgent ctx
      | loop => exact erase_executeLoop ctx
      | _ => exact TrackedAct.erase_lift _

/-- Erasing the ledger gives back the run. -/
theorem erase_trackedRun (env : Environment) (depth : Nat) (observers : Observers (Program Op Res))
    (graph : GraphSpec) (store : ConnectionStore) (resources : Resources) (runId : Option String) :
    (trackedRun env depth observers graph store resources runId).erase =
      runGraphWith env depth observers graph store resources runId := by
  unfold trackedRun runGraphWith
  rw [erase_runGraph, ← erase_executeTracked]
  rfl

end AgentGraphStudio
