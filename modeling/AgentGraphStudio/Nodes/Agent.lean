import AgentGraphStudio.Nodes.Conversation
import AgentGraphStudio.Nodes.ModelCalls

/-!
# The `agent` node

`backend/nodes/agent.py`: a model connected as a sub-node is called in turns, with the
conversation so far and the tools of the connected tool group. A tool is another node of the
graph, whose body the agent executes itself with the arguments that the model chose: `recurse`
stands for executing a body.
-/

namespace AgentGraphStudio

variable {Body : Type}

/-- `MemoryConfig`: the number of messages a model call sees. -/
def parseMemoryConfig (config : Config) : Except String Int := do
  let _ ← config.literal "type" ["window"] "window"
  config.positive "max_messages" 20

/-- The last messages. -/
def applyMemoryWindow (messages : List Message) (maxMessages : Int) : List Message :=
  if maxMessages < messages.length then
    messages.drop (messages.length - maxMessages.toNat)
  else messages

/-- Tell the run's record, if one listens, that a sub-node became active or inactive. -/
def notifySubNodeActivity (resources : Resources) (subNodeId : String) (active : Bool) :
    Act Unit :=
  match resources.onSubNodeActivity with
  | none => pure ()
  | some runId => do
    let _ ← Act.perform (.updateRun runId (.subNodeActivity subNodeId active))
    pure ()

/-- The same for an optional sub-node. -/
def notifyIfConnected (resources : Resources) (subNodeId : Option String) (active : Bool) :
    Act Unit :=
  match subNodeId with
  | none => pure ()
  | some subNodeId => notifySubNodeActivity resources subNodeId active

/-- The schema of a tool, derived from the input slots of its node. -/
def toolDefinition (registry : NodeRegistry Body) (node : NodeSpec) :
    Except Raised ToolDefinition :=
  match registry.get node.type with
  | none => .error (.exception s!"agent tool '{node.id}' has unregistered type '{node.type}'")
  | some definition =>
    match effectiveInputs definition node with
    | none => .error (.exception s!"agent tool '{node.id}' has an unresolvable input schema")
    | some inputs =>
      .ok
        { name := node.id
          description := s!"Executes the '{node.id}' node (type: {node.type})."
          properties := inputs.map InputSlotSpec.name
          required := (inputs.filter InputSlotSpec.required).map InputSlotSpec.name }

/-- The inputs of a trace record, which must be a dictionary. -/
def recordInputs (arguments : Json) : Except Raised Config :=
  match arguments.obj? with
  | some inputs => .ok inputs
  | none => .error (.exception "inputs: Input should be a valid dictionary")

/-- The record of a tool and the text for the model, once its body has ended with a result or with
an `Exception` that has this text. -/
def toolReport (python : Python) (toolNode : NodeSpec) (callArguments : Json)
    (runId startedAt finishedAt : String) :
    Except (Except Raised String) NodeResult → Except Raised (TraceRecord × String)
  | .error errorText => do
    let errorText ← errorText
    let inputs ← recordInputs callArguments
    pure ({ runId, nodeId := toolNode.id, nodeType := toolNode.type, startedAt, finishedAt, inputs
            outputs := .empty, error := some errorText }, s!"Error: {errorText}")
  | .ok toolResult => do
    let inputs ← recordInputs callArguments
    pure ({ runId, nodeId := toolNode.id, nodeType := toolNode.type, startedAt, finishedAt, inputs
            outputs := toolResult.outputs
            tokenCost := toolResult.tokenCost
            sideEffect := toolResult.sideEffect },
      python.jsonDumps (.obj toolResult.outputs.entries))

/-- Execute a tool node with the model's arguments. An `Exception` of the tool becomes a record
and a text for the model, if its own text can be had. -/
def runTool (python : Python) (registry : NodeRegistry Body)
    (recurse : Body → ExecutionContext → Act NodeResult) (resources : Resources)
    (toolNode : NodeSpec) (callArguments : Json) : Act (TraceRecord × String) := do
  let definition := registry.get toolNode.type
  let startedAt ← Act.perform .utcnowIso
  let runId ← Act.perform .uuid4
  let outcome ← Act.catchException
    (do
      match definition with
      | none =>
        Act.raise s!"agent tool '{toolNode.id}' has unregistered type '{toolNode.type}'"
      | some definition =>
        let toolResult ← recurse definition.execute
          ⟨toolNode, .ofJson callArguments, resources⟩
        pure (Except.ok toolResult))
    fun errorText => pure (.error errorText)
  let finishedAt ← Act.perform .utcnowIso
  Act.ofExcept (toolReport python toolNode callArguments runId startedAt finishedAt outcome)

/-- What an agent has found out about its sub-nodes before its first turn. -/
structure AgentSetup where
  maxIterations : Int
  modelNode : NodeSpec
  profile : ConnectionProfile
  settings : ModelSettings
  memoryId : Option String
  maxMessages : Option Int
  toolGroupId : Option String
  toolIds : List String
  toolDefinitions : List ToolDefinition

/-- The variables of an agent's loop. -/
structure AgentState where
  messages : List Message
  childTraces : List (List TraceRecord) := []
  inputTokens : Int := 0
  outputTokens : Int := 0
  toolsEverCalled : Bool := false
  toolCallNudgeUsed : Bool := false

/-- The message with which an agent reminds the model of its tools. -/
def toolCallNudge : Message :=
  .user (.str ("You have tools available for this task -- use one of them to actually perform " ++
    "the action instead of just describing what you would do."))

/-- Carry out one tool call of a model's answer. -/
def dispatchCall (python : Python) (registry : NodeRegistry Body)
    (recurse : Body → ExecutionContext → Act NodeResult) (resources : Resources)
    (toolIds : List String) (call : ToolCallRequest) (state : AgentState) : Act AgentState :=
  match if call.name ∈ toolIds then resources.nodesById.get? call.name else none with
  | none => do
    let available := ", ".intercalate toolIds
    let errorText := s!"Unknown tool '{call.name}'. Available tools: {available}"
    let startedAt ← Act.perform .utcnowIso
    let runId ← Act.perform .uuid4
    let finishedAt ← Act.perform .utcnowIso
    let inputs ← Act.ofExcept (recordInputs call.arguments)
    let record : TraceRecord :=
      { runId, nodeId := call.name, nodeType := "unknown", startedAt, finishedAt, inputs
        outputs := .empty, error := some errorText }
    pure { state with
      childTraces := state.childTraces ++ [[record]]
      messages := state.messages ++ [.tool call.id call.name errorText] }
  | some toolNode => do
    notifySubNodeActivity resources toolNode.id true
    let (record, toolText) ← Act.finallyDo
      (runTool python registry recurse resources toolNode call.arguments)
      (notifySubNodeActivity resources toolNode.id false)
    pure { state with
      childTraces := state.childTraces ++ [[record]]
      messages := state.messages ++ [.tool call.id call.name toolText] }

/-- Carry out the tool calls of a model's answer in order. -/
def dispatchCalls (python : Python) (registry : NodeRegistry Body)
    (recurse : Body → ExecutionContext → Act NodeResult) (resources : Resources)
    (toolIds : List String) : List ToolCallRequest → AgentState → Act AgentState
  | [], state => pure state
  | call :: calls, state => do
    let state ← dispatchCall python registry recurse resources toolIds call state
    dispatchCalls python registry recurse resources toolIds calls state

/-- One call of the model, with the activity of the model and the memory around it. -/
def callModel (resources : Resources) (setup : AgentSetup) (messages : List Message) :
    Act ToolCallResponse := do
  let windowed := match setup.maxMessages with
    | some maxMessages => applyMemoryWindow messages maxMessages
    | none => messages
  notifySubNodeActivity resources setup.modelNode.id true
  notifyIfConnected resources setup.memoryId true
  Act.finallyDo
    (Act.exceptException
      (do Act.ofExcept (← Act.perform
        (.completeWithTools setup.profile setup.settings windowed setup.toolDefinitions)))
      fun e => Act.raise s!"agent model call failed: {e}")
    (do
      notifySubNodeActivity resources setup.modelNode.id false
      notifyIfConnected resources setup.memoryId false)

/-- The turns of an agent, at most so many. -/
def agentLoop (python : Python) (registry : NodeRegistry Body)
    (recurse : Body → ExecutionContext → Act NodeResult) (resources : Resources)
    (setup : AgentSetup) : Nat → AgentState → Act NodeResult
  | 0, _ =>
    Act.raise (s!"agent exceeded max_iterations ({setup.maxIterations}) without producing a " ++
      "final answer")
  | turns + 1, state => do
    let response ← callModel resources setup state.messages
    let state := { state with
      inputTokens := state.inputTokens + response.inputTokens
      outputTokens := state.outputTokens + response.outputTokens }
    let content := response.text.getD ""
    if response.toolCalls.isEmpty then
      if ¬ setup.toolDefinitions.isEmpty ∧ ¬ state.toolsEverCalled ∧ ¬ state.toolCallNudgeUsed then
        agentLoop python registry recurse resources setup turns { state with
          toolCallNudgeUsed := true
          messages := state.messages ++ [.assistant content none, toolCallNudge] }
      else
        pure
          { outputs := .ofList [("answer", .str content)]
            childTraces := if state.childTraces.isEmpty then none else some state.childTraces
            tokenCost := ⟨state.inputTokens, state.outputTokens⟩ }
    else
      let state := { state with
        toolsEverCalled := true
        messages := state.messages ++ [.assistant content (some response.toolCalls)] }
      notifyIfConnected resources setup.toolGroupId true
      let state ← Act.finallyDo
        (dispatchCalls python registry recurse resources setup.toolIds response.toolCalls state)
        (notifyIfConnected resources setup.toolGroupId false)
      agentLoop python registry recurse resources setup turns state

/-- `nodes_by_id[id]`. -/
def nodeById (resources : Resources) (id : String) : Except Raised NodeSpec :=
  match resources.nodesById.get? id with
  | some node => .ok node
  | none => .error (.exception (reprStr id))

/-- The settings of the connected memory, if there is one. -/
def memorySettings (resources : Resources) : Option String → Except Raised (Option Int)
  | none => .ok none
  | some memoryId => do
    let memoryNode ← nodeById resources memoryId
    let maxMessages ← validated (parseMemoryConfig memoryNode.config)
    pure (some maxMessages)

/-- The tool definitions of the connected tools. -/
def toolDefinitionsOf (registry : NodeRegistry Body) (resources : Resources) :
    List String → Except Raised (List ToolDefinition)
  | [] => .ok []
  | toolId :: toolIds =>
    match resources.nodesById.get? toolId with
    | none => .error (.exception s!"agent tool reference '{toolId}' does not exist in the graph")
    | some toolNode => do
      let definition ← toolDefinition registry toolNode
      let definitions ← toolDefinitionsOf registry resources toolIds
      pure (definition :: definitions)

/-- The model's connection and whether it can call tools. -/
def agentProfile (connectionTypes : ConnectionRegistry) (resources : Resources)
    (connection : String) : Act ConnectionProfile := do
  match ← lookupProfile resources connection with
  | none =>
    Act.raise (s!"No resolved connection profile for '{connection}' -- " ++
      "it should have been resolved before this run started")
  | some profile =>
    let unsupported := s!"Connection '{connection}' (type '{profile.type}') does not support " ++
      "tool-calling, required by the 'agent' node type"
    match connectionTypes.get? profile.type with
    | none => Act.raise unsupported
    | some definition =>
      if definition.supportsToolCalling then do
        Act.ofExcept (validated (definition.configModel profile.config))
        pure profile
      else Act.raise unsupported

/-- Find the connected sub-nodes, the model's connection and the tools. -/
def setUpAgent (registry : NodeRegistry Body) (connectionTypes : ConnectionRegistry)
    (ctx : ExecutionContext) : Act AgentSetup := do
  let resources := ctx.resources
  let maxIterations ← Act.ofExcept (validated (ctx.node.config.positive "max_iterations" 10))
  match resources.subNodes.getD (ctx.node.id, "model") [] with
  | [modelId] =>
    let modelNode ← Act.ofExcept (nodeById resources modelId)
    let modelConfig ← Act.ofExcept (validated (LLMCallConfig.parse modelNode.config))
    let memoryId := (resources.subNodes.getD (ctx.node.id, "memory") []).head?
    let maxMessages ← Act.ofExcept (memorySettings resources memoryId)
    let toolGroupIds := resources.subNodes.getD (ctx.node.id, "tools") []
    if 1 < toolGroupIds.length then
      Act.raise (s!"agent '{ctx.node.id}' has {toolGroupIds.length} connected 'tool_group' " ++
        "sub-nodes, expected at most 1")
    else
      let toolGroupId := toolGroupIds.head?
      let toolIds := match toolGroupId with
        | none => []
        | some toolGroupId => resources.subNodes.getD (toolGroupId, "tools") []
      let profile ← agentProfile connectionTypes resources modelConfig.connection
      let toolDefinitions ← Act.ofExcept (toolDefinitionsOf registry resources toolIds)
      pure { maxIterations, modelNode, profile, settings := modelConfig.settings, memoryId
             maxMessages, toolGroupId, toolIds, toolDefinitions }
  | modelIds =>
    Act.raise (s!"agent '{ctx.node.id}' has {modelIds.length} connected 'model' sub-nodes, " ++
      "expected exactly 1")

def executeAgent (python : Python) (registry : NodeRegistry Body)
    (connectionTypes : ConnectionRegistry) (recurse : Body → ExecutionContext → Act NodeResult)
    (ctx : ExecutionContext) : Act NodeResult := do
  let setup ← setUpAgent registry connectionTypes ctx
  let task ← Act.ofExcept (ctx.inputs.get "task")
  agentLoop python registry recurse ctx.resources setup setup.maxIterations.toNat
    { messages := [.user task] }

/-! ## What an agent performs -/

section

variable {policy : Policy} {permits : Op → Prop} {P : ∀ α : Type, Program Op Res α → Prop}
  {python : Python} {registry : NodeRegistry Body} {connectionTypes : ConnectionRegistry}
  {recurse : Body → ExecutionContext → Act NodeResult} {resources : Resources}

/-- The messages that a model sees, with or without a memory. -/
def memoryWindow (maxMessages : Option Int) (messages : List Message) : List Message :=
  match maxMessages with
  | some maxMessages => applyMemoryWindow messages maxMessages
  | none => messages

/-- The number of messages that the memory of an agent keeps, if a memory is connected. -/
def MemoryOf (resources : Resources) (agentId : String) (maxMessages : Option Int) : Prop :=
  memorySettings resources (resources.subNodes.getD (agentId, "memory") []).head? = .ok maxMessages

/-- The tools of an agent are connected to a tool group that is connected to the agent. -/
def ToolsOf (resources : Resources) (agentId : String) (toolIds : List String) : Prop :=
  ∀ toolId ∈ toolIds, ∃ toolGroupId ∈ resources.subNodes.getD (agentId, "tools") [],
    toolId ∈ resources.subNodes.getD (toolGroupId, "tools") []

/-- Agents may call their models with what their memories keep of a conversation. -/
def Policy.Converses (policy : Policy) : Prop :=
  ∀ history profile settings resources agentId maxMessages messages tools,
    MemoryOf resources agentId maxMessages → Conversation messages →
    policy.permitted history
      (.completeWithTools profile settings (memoryWindow maxMessages messages) tools)

theorem notify_always (subNodeId : String) (active : Bool) :
    (notifySubNodeActivity resources subNodeId active).Always policy := by
  rw [notifySubNodeActivity]
  split
  · exact Act.always_pure _
  · exact Act.always_bind (Act.always_routine trivial) fun _ => Act.always_pure _

theorem notify_if_connected_always (subNodeId : Option String) (active : Bool) :
    (notifyIfConnected resources subNodeId active).Always policy := by
  cases subNodeId with
  | none => exact Act.always_pure _
  | some subNodeId => exact notify_always _ _

/-- Every node of the graph may be executed directly. -/
def ToolsAlways (policy : Policy) (registry : NodeRegistry Body)
    (recurse : Body → ExecutionContext → Act NodeResult) (resources : Resources) : Prop :=
  ∀ id node, resources.nodesById.get? id = some node → ∀ definition inputs,
    registry.get node.type = some definition →
      (recurse definition.execute ⟨node, inputs, resources⟩).Always policy

theorem run_tool_keeps (rules : Rules permits P) {toolNode : NodeSpec} (callArguments : Json)
    (h : ∀ definition inputs, registry.get toolNode.type = some definition →
      P _ (recurse definition.execute ⟨toolNode, inputs, resources⟩).run) :
    P _ (runTool python registry recurse resources toolNode callArguments).run := by
  refine rules.act_bind (rules.act_silent trivial) fun startedAt => ?_
  refine rules.act_bind (rules.act_silent trivial) fun runId => ?_
  refine rules.act_bind (rules.act_catchException ?_ fun _ => rules.act_pure _) fun outcome => ?_
  · cases hdef : registry.get toolNode.type with
    | none => exact rules.act_raise _
    | some definition =>
        exact rules.act_bind (h definition _ hdef) fun _ => rules.act_pure _
  · exact rules.act_bind (rules.act_silent trivial) fun finishedAt => rules.act_ofExcept _

/-- A tool call adds its result to the conversation. -/
theorem dispatch_call_ensures (htools : ToolsAlways policy registry recurse resources)
    (toolIds : List String) (call : ToolCallRequest) (state : AgentState) :
    (dispatchCall python registry recurse resources toolIds call state).Ensures policy
      fun next => ∃ text, next.messages = state.messages ++ [.tool call.id call.name text] := by
  rw [dispatchCall]
  split
  · refine Act.ensures_bind (Act.Always.ensures (Act.always_routine trivial)) fun startedAt _ => ?_
    refine Act.ensures_bind (Act.Always.ensures (Act.always_routine trivial)) fun runId _ => ?_
    refine Act.ensures_bind (Act.Always.ensures (Act.always_routine trivial)) fun finishedAt _ => ?_
    refine Act.ensures_bind (Act.always_ofExcept _).ensures fun inputs _ => ?_
    exact Act.ensures_pure ⟨_, rfl⟩
  · rename_i toolNode hfound
    have hnode : resources.nodesById.get? call.name = some toolNode := by
      split at hfound
      · exact hfound
      · cases hfound
    refine Act.ensures_bind (notify_always _ _).ensures fun _ _ => ?_
    have htool : (runTool python registry recurse resources toolNode call.arguments).Always
      policy :=
      run_tool_keeps policy.rules _ fun definition inputs hdef =>
        htools call.name toolNode hnode definition inputs hdef
    exact Act.ensures_bind (Act.always_finallyDo htool (notify_always _ _)).ensures fun _ _ =>
      Act.ensures_pure ⟨_, rfl⟩

/-- The calls of an answer add a result each. -/
theorem dispatch_calls_ensures (htools : ToolsAlways policy registry recurse resources)
    (toolIds : List String) (calls : List ToolCallRequest) (state : AgentState) :
    (dispatchCalls python registry recurse resources toolIds calls state).Ensures policy
      fun next => ∃ results, next.messages = state.messages ++ results ∧ Replies results calls := by
  induction calls generalizing state with
  | nil => exact Act.ensures_pure ⟨[], by simp, .nil⟩
  | cons call calls ih =>
      refine Act.ensures_bind (dispatch_call_ensures htools _ _ _) fun middle hmiddle => ?_
      obtain ⟨text, hmiddle⟩ := hmiddle
      intro history
      refine (ih middle history).mono fun _ outcome houtcome next hnext => ?_
      obtain ⟨results, hresults, hreplies⟩ := houtcome next hnext
      exact ⟨.tool call.id call.name text :: results, by simp [hresults, hmiddle],
        .cons ⟨text, rfl⟩ hreplies⟩

theorem call_model_always (hconverses : policy.Converses) {setup : AgentSetup}
    {agentId : String} (hmemory : MemoryOf resources agentId setup.maxMessages)
    {messages : List Message} (hmessages : Conversation messages) :
    (callModel resources setup messages).Always policy := by
  refine Act.always_bind (notify_always _ _) fun _ => ?_
  refine Act.always_bind (notify_if_connected_always _ _) fun _ => ?_
  refine Act.always_finallyDo (Act.always_exceptException ?_ fun _ => Act.always_raise _) ?_
  · refine Act.always_bind (Act.always_perform fun history => ?_) fun _ => Act.always_ofExcept _
    exact hconverses history _ _ resources agentId setup.maxMessages messages _ hmemory hmessages
  · exact Act.always_bind (notify_always _ _) fun _ => notify_if_connected_always _ _

/-- The turns of an agent perform what its tools perform, and continue a conversation. -/
theorem agent_loop_always (hconverses : policy.Converses)
    (htools : ToolsAlways policy registry recurse resources) {setup : AgentSetup}
    {agentId : String} (hmemory : MemoryOf resources agentId setup.maxMessages) (turns : Nat)
    (state : AgentState) (hstate : Conversation state.messages) :
    (agentLoop python registry recurse resources setup turns state).Always policy := by
  induction turns generalizing state with
  | zero => exact Act.always_raise _
  | succ turns ih =>
      refine Act.always_bind (call_model_always hconverses hmemory hstate) fun response => ?_
      dsimp only
      split
      · split
        · exact ih _ (hstate.reminded _ _)
        · exact Act.always_pure _
      · refine Act.always_bind (notify_if_connected_always _ _) fun _ => ?_
        refine Act.always_bind_of (Act.ensures_finallyDo (dispatch_calls_ensures htools _ _ _)
          (notify_if_connected_always _ _)) fun next hnext => ih next ?_
        obtain ⟨results, hresults, hreplies⟩ := hnext
        rw [hresults, List.append_assoc]
        exact hstate.called _ hreplies

theorem agent_profile_keeps (rules : Rules permits P) {connection : String}
    (h : permits (.lookup .connectionProfiles connection)) :
    P _ (agentProfile connectionTypes resources connection).run := by
  refine rules.act_bind (rules.lookup_profile_keeps h) fun profile => ?_
  cases profile with
  | none => exact rules.act_raise _
  | some profile =>
      dsimp only
      split
      · exact rules.act_raise _
      · split
        · exact rules.act_bind (rules.act_ofExcept _) fun _ => rules.act_pure _
        · exact rules.act_raise _

/-- Setting up an agent keeps what a lookup keeps. -/
theorem set_up_agent_keeps (rules : Rules permits P) {ctx : ExecutionContext}
    (h : ∀ connection, permits (.lookup .connectionProfiles connection)) :
    P _ (setUpAgent registry connectionTypes ctx).run := by
  refine rules.act_bind (rules.act_ofExcept _) fun maxIterations => ?_
  dsimp only
  split
  · refine rules.act_bind (rules.act_ofExcept _) fun modelNode => ?_
    refine rules.act_bind (rules.act_ofExcept _) fun modelConfig => ?_
    refine rules.act_bind (rules.act_ofExcept _) fun maxMessages => ?_
    split
    · exact rules.act_raise _
    · refine rules.act_bind (agent_profile_keeps rules (h _)) fun profile => ?_
      exact rules.act_bind (rules.act_ofExcept _) fun definitions => rules.act_pure _
  · exact rules.act_raise _

/-- Setting up an agent looks up what the configuration of its model node references, and finds
its memory and its tools. -/
theorem set_up_agent_ensures {ctx : ExecutionContext}
    (hnodes : ∀ id node, ctx.resources.nodesById.get? id = some node →
      policy.LooksUp node.config) :
    (setUpAgent registry connectionTypes ctx).Ensures policy
      fun setup => MemoryOf ctx.resources ctx.node.id setup.maxMessages ∧
        ToolsOf ctx.resources ctx.node.id setup.toolIds := by
  refine Act.ensures_bind (Act.always_ofExcept _).ensures fun maxIterations _ => ?_
  dsimp only
  split
  · rename_i modelId _
    refine Act.ensures_bind (Act.ensures_ofExcept fun _ => id) fun modelNode hmodel => ?_
    refine Act.ensures_bind (Act.ensures_ofExcept fun _ => id) fun modelConfig hconfig => ?_
    refine Act.ensures_bind (Act.ensures_ofExcept fun _ => id) fun maxMessages hmemory => ?_
    split
    · exact Act.ensures_raise _
    · have hlooks : policy.LooksUp modelNode.config := by
        rw [nodeById] at hmodel
        split at hmodel
        · rename_i node hnode
          cases hmodel
          exact hnodes _ _ hnode
        · cases hmodel
      have hprofile : (agentProfile connectionTypes ctx.resources modelConfig.connection).Always
          policy :=
        agent_profile_keeps policy.rules
          (hlooks _ _ (LLMCallConfig.connection_mem (validated_eq_ok hconfig)))
      refine Act.ensures_bind hprofile.ensures fun profile _ => ?_
      refine Act.ensures_bind (Act.always_ofExcept _).ensures fun definitions _ =>
        Act.ensures_pure ⟨hmemory, ?_⟩
      intro toolId htool
      cases hgroup : ctx.resources.subNodes.getD (ctx.node.id, "tools") [] with
      | nil => simp [hgroup] at htool
      | cons toolGroupId rest =>
          rw [hgroup] at htool
          exact ⟨toolGroupId, List.mem_cons_self, htool⟩
  · exact Act.ensures_raise _

/-- An agent performs what its tools perform, looks up what its model node references, and
continues its conversation. -/
theorem execute_agent_always {ctx : ExecutionContext} (hconverses : policy.Converses)
    (hnodes : ∀ id node, ctx.resources.nodesById.get? id = some node →
      policy.LooksUp node.config)
    (htools : ToolsAlways policy registry recurse ctx.resources) :
    (executeAgent python registry connectionTypes recurse ctx).Always policy := by
  refine Act.always_bind_of (set_up_agent_ensures hnodes) fun setup hsetup => ?_
  exact Act.always_bind (Act.always_ofExcept _) fun task =>
    agent_loop_always hconverses htools hsetup.1 _ _ (.task task)

end

end AgentGraphStudio
