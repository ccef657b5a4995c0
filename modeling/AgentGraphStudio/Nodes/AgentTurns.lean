import AgentGraphStudio.Execution.ActRuns
import AgentGraphStudio.Nodes.Agent

/-!
# The turns of an agent

A run of `executeAgent` that came to its end is taken apart into the turns of the agent: each is
one call of the model with its response, and one `ToolRun` for each tool call in it. `AgentRun`
is the sequence of turns with the way it ended, and every run of the loop is one
(`agent_loop_runs`).
-/

namespace AgentGraphStudio

open Act (runs_bind_iff runs_pure_iff runs_perform_iff runs_perform_bind_iff runs_ofExcept_iff
  runs_ofExcept_bind_iff)

variable {Body : Type}

/-! ## What is recorded of a run -/

/-- A tool call that was answered: what was performed for it, its record and the text that the
model gets to see. -/
structure ToolRun where
  call : ToolCallRequest
  events : History
  record : TraceRecord
  text : String

/-- The message with the result of a tool call. -/
def ToolRun.message (run : ToolRun) : Message := .tool run.call.id run.call.name run.text

/-- A call of the model, the tool calls that it led to, and the conversation before and after. -/
structure AgentTurn where
  conversation : List Message
  asking : History
  response : ToolCallResponse
  tools : List ToolRun
  extended : List Message

/-- How the loop of an agent ended. -/
inductive AgentEnd where
  | returned (result : NodeResult)
  | exceeded
  | modelFailed (failure : Raised)
  | toolRaised (call : ToolCallRequest) (raised : Raised)

/-- The node of the agent's tool group that a call names. -/
def toolOf (resources : Resources) (toolIds : List String) (call : ToolCallRequest) :
    Option NodeSpec :=
  if call.name ∈ toolIds then resources.nodesById.get? call.name else none

/-- What the model gets to see for a name that is not a tool's. -/
def unknownToolText (toolIds : List String) (name : String) : String :=
  let available := ", ".intercalate toolIds
  s!"Unknown tool '{name}'. Available tools: {available}"

/-- What an exception of a model call becomes. -/
def modelFailure : Raised → Raised :=
  Raised.rephrase fun e => s!"agent model call failed: {e}"

/-- What the end of the loop means for the body. -/
def AgentEnd.outcome (setup : AgentSetup) : AgentEnd → Except Raised NodeResult
  | .returned result => .ok result
  | .exceeded =>
    .error (.exception
      (s!"agent exceeded max_iterations ({setup.maxIterations}) without producing a " ++
      "final answer"))
  | .modelFailed failure => .error (modelFailure failure)
  | .toolRaised _ raised => .error raised

/-- The variables of the loop after the tools of an answer. -/
def AgentState.record (state : AgentState) (tools : List ToolRun) : AgentState :=
  { state with
    childTraces := state.childTraces ++ tools.map fun run => [run.record]
    messages := state.messages ++ tools.map ToolRun.message }

/-- The variables of the loop with the tokens of an answer. -/
def AgentState.spend (state : AgentState) (response : ToolCallResponse) : AgentState :=
  { state with
    inputTokens := state.inputTokens + response.inputTokens
    outputTokens := state.outputTokens + response.outputTokens }

/-- The variables of the loop after a reminder. -/
def AgentState.remind (state : AgentState) (response : ToolCallResponse) : AgentState :=
  { state.spend response with
    toolCallNudgeUsed := true
    messages := state.messages ++ [.assistant (response.text.getD "") none, toolCallNudge] }

/-- The variables of the loop before the tools of an answer. -/
def AgentState.request (state : AgentState) (response : ToolCallResponse) : AgentState :=
  { state.spend response with
    toolsEverCalled := true
    messages :=
      state.messages ++ [.assistant (response.text.getD "") (some response.toolCalls)] }

/-- What the body returns with an answer. -/
def AgentState.answer (state : AgentState) (response : ToolCallResponse) : NodeResult where
  outputs := .ofList [("answer", .str (response.text.getD ""))]
  childTraces := if state.childTraces.isEmpty then none else some state.childTraces
  tokenCost := ⟨state.inputTokens + response.inputTokens,
    state.outputTokens + response.outputTokens⟩

/-- Is this answer the occasion for a reminder? -/
def AgentState.Reminds (state : AgentState) (setup : AgentSetup) : Prop :=
  ¬ setup.toolDefinitions.isEmpty ∧ ¬ state.toolsEverCalled ∧ ¬ state.toolCallNudgeUsed

/-! ## Operations of a run -/

section

variable (resources : Resources)

/-- Operations that are performed while a sub-node is shown as active. -/
def WhileActive (subNodeId : Option String) (body events : History) : Prop :=
  ∃ before after, events = before ++ body ++ after ∧
    (notifyIfConnected resources subNodeId true).Runs before (.ok ()) ∧
    (notifyIfConnected resources subNodeId false).Runs after (.ok ())

/-- Show that the model and the memory are in use. -/
def showModel (setup : AgentSetup) (active : Bool) : Act Unit := do
  notifySubNodeActivity resources setup.modelNode.id active
  notifyIfConnected resources setup.memoryId active

/-- The model is called once, with what the memory keeps of the conversation. -/
def Asks (setup : AgentSetup) (conversation : List Message) (events : History)
    (answer : Except Raised ToolCallResponse) : Prop :=
  ∃ before after, events = before ++ ⟨.completeWithTools setup.profile setup.settings
      (memoryWindow setup.maxMessages conversation) setup.toolDefinitions, answer⟩ :: after ∧
    (showModel resources setup true).Runs before (.ok ()) ∧
    (showModel resources setup false).Runs after (.ok ())

end

section

variable (registry : NodeRegistry Body)
  (recurse : Body → ExecutionContext → Act NodeResult) (resources : Resources)

/-- The body of a tool came to its end, called with the arguments of the model. -/
def BodyRuns (toolNode : NodeSpec) (callArguments : Json) (events : History)
    (ended : Except Raised NodeResult) : Prop :=
  ∃ definition, registry.get toolNode.type = some definition ∧
    (recurse definition.execute ⟨toolNode, .ofJson callArguments, resources⟩).Runs events ended

end

section

variable (python : Python) (registry : NodeRegistry Body)
  (recurse : Body → ExecutionContext → Act NodeResult) (resources : Resources)

/-- A call that names no tool of the group gets an error. -/
structure UnknownTool (toolIds : List String) (run : ToolRun) : Prop where
  named : toolOf resources toolIds run.call = none
  clock : ∀ event ∈ run.events, event.op = .utcnowIso ∨ event.op = .uuid4
  text : run.text = unknownToolText toolIds run.call.name
  nodeId : run.record.nodeId = run.call.name
  nodeType : run.record.nodeType = "unknown"
  inputs : recordInputs run.call.arguments = .ok run.record.inputs
  outputs : run.record.outputs = .empty
  error : run.record.error = some run.text

/-- A call that names a tool of the group is one execution of that node. -/
structure ExecutedTool (toolIds : List String) (toolNode : NodeSpec) (run : ToolRun) : Prop where
  named : toolOf resources toolIds run.call = some toolNode
  performed : ∃ body, WhileActive resources (some toolNode.id) body run.events ∧
    (runTool python registry recurse resources toolNode run.call.arguments).Runs body
      (.ok (run.record, run.text))

/-- A tool call was carried out, or answered with an error. -/
def ToolRun.Completed (toolIds : List String) (run : ToolRun) : Prop :=
  UnknownTool resources toolIds run ∨
    ∃ toolNode, ExecutedTool python registry recurse resources toolIds toolNode run

/-- A tool call raised an exception instead. -/
def CallRaises (toolIds : List String) (call : ToolCallRequest) (events : History)
    (raised : Raised) : Prop :=
  toolOf resources toolIds call = none ∧ recordInputs call.arguments = .error raised ∨
    ∃ toolNode body, toolOf resources toolIds call = some toolNode ∧
      WhileActive resources (some toolNode.id) body events ∧
      (runTool python registry recurse resources toolNode call.arguments).Runs body
        (.error raised)

end

/-! ## One tool call -/

section

variable {python : Python} {registry : NodeRegistry Body}
  {recurse : Body → ExecutionContext → Act NodeResult} {resources : Resources}

/-- Telling the run's record does not raise. -/
theorem notify_runs {subNodeId : String} {active : Bool} {events : History}
    {ended : Except Raised Unit}
    (h : (notifySubNodeActivity resources subNodeId active).Runs events ended) :
    ended = .ok () := by
  unfold notifySubNodeActivity at h
  cases hlistener : resources.onSubNodeActivity with
  | none =>
      rw [hlistener] at h
      exact (runs_pure_iff.mp h).2
  | some runId =>
      rw [hlistener] at h
      rcases runs_bind_iff.mp h with ⟨raised, hraised, -⟩ | ⟨_, response, _, _, _, hrest⟩
      · obtain ⟨_, _, hended⟩ := runs_perform_iff.mp hraised
        cases hended
      · exact (runs_pure_iff.mp hrest).2

theorem notify_if_connected_runs {subNodeId : Option String} {active : Bool} {events : History}
    {ended : Except Raised Unit}
    (h : (notifyIfConnected resources subNodeId active).Runs events ended) : ended = .ok () := by
  cases subNodeId with
  | none => exact (runs_pure_iff.mp h).2
  | some subNodeId => exact notify_runs h

/-- What is performed between two notifications. -/
theorem runs_while_active {α : Type} {act : Act α} (subNodeId : Option String) {events : History}
    {outcome : Except Raised α}
    (h : (notifyIfConnected resources subNodeId true >>= fun _ =>
      Act.finallyDo act (notifyIfConnected resources subNodeId false)).Runs events outcome) :
    ∃ body, WhileActive resources subNodeId body events ∧ act.Runs body outcome := by
  rcases runs_bind_iff.mp h with ⟨raised, hraised, -⟩ | ⟨before, _, rest, rfl, hbefore, hrest⟩
  · cases notify_if_connected_runs hraised
  · obtain ⟨body, after, rfl, hbody, hafter⟩ :=
      (Act.runs_finallyDo_iff fun _ _ => notify_if_connected_runs).mp hrest
    exact ⟨body, ⟨before, after, (List.append_assoc _ _ _).symm, hbefore, hafter⟩, hbody⟩

/-- A tool call is carried out, answered with an error, or raises. -/
theorem runs_dispatch_call {toolIds : List String} {call : ToolCallRequest} {state : AgentState}
    {events : History} {outcome : Except Raised AgentState}
    (h : (dispatchCall python registry recurse resources toolIds call state).Runs events outcome) :
    (∃ run : ToolRun, run.call = call ∧ run.events = events ∧
      run.Completed python registry recurse resources toolIds ∧
      outcome = .ok (state.record [run])) ∨
    ∃ raised, CallRaises python registry recurse resources toolIds call events raised ∧
      outcome = .error raised := by
  have htool : (if call.name ∈ toolIds then resources.nodesById.get? call.name else none) =
      toolOf resources toolIds call := rfl
  unfold dispatchCall at h
  rw [htool] at h
  -- A call of an unknown tool is answered with an error text.
  cases hnamed : toolOf resources toolIds call with
  | none =>
      rw [hnamed] at h
      obtain ⟨startedAt, _, rfl, hid⟩ := runs_perform_bind_iff.mp h
      obtain ⟨runId, _, rfl, hfinish⟩ := runs_perform_bind_iff.mp hid
      obtain ⟨finishedAt, _, rfl, hrecord⟩ := runs_perform_bind_iff.mp hfinish
      rcases runs_ofExcept_bind_iff.mp hrecord with
        ⟨raised, hinputs, rfl, rfl⟩ | ⟨inputs, hinputs, hdone⟩
      · exact .inr ⟨raised, .inl ⟨hnamed, hinputs⟩, rfl⟩
      · obtain ⟨rfl, rfl⟩ := runs_pure_iff.mp hdone
        refine .inl ⟨⟨call, _, _, _⟩, rfl, rfl, .inl ?_, rfl⟩
        exact ⟨hnamed, by simp, rfl, rfl, rfl, hinputs, rfl, rfl⟩
  | some toolNode =>
      rw [hnamed] at h
      dsimp only at h
      rw [← bind_assoc] at h
      rcases runs_bind_iff.mp h with ⟨raised, hraised, rfl⟩ | ⟨first, made, _, rfl, hmade, hdone⟩
      · obtain ⟨body, hactive, hbody⟩ := runs_while_active (some toolNode.id) hraised
        exact .inr ⟨raised, .inr ⟨toolNode, body, hnamed, hactive, hbody⟩, rfl⟩
      · obtain ⟨body, hactive, hbody⟩ := runs_while_active (some toolNode.id) hmade
        obtain ⟨rfl, rfl⟩ := runs_pure_iff.mp hdone
        rw [List.append_nil]
        exact .inl ⟨⟨call, first, made.1, made.2⟩, rfl, rfl,
          .inr ⟨toolNode, hnamed, body, hactive, hbody⟩,
          rfl⟩

/-- Tool calls are carried out in order, up to the first that raises. -/
theorem runs_dispatch_calls {toolIds : List String} {calls : List ToolCallRequest}
    {state : AgentState} {events : History} {outcome : Except Raised AgentState}
    (h : (dispatchCalls python registry recurse resources toolIds calls state).Runs events
      outcome) :
    (∃ tools : List ToolRun, tools.map ToolRun.call = calls ∧
      tools.flatMap ToolRun.events = events ∧
      (∀ run ∈ tools, run.Completed python registry recurse resources toolIds) ∧
      outcome = .ok (state.record tools)) ∨
    ∃ (tools : List ToolRun) (call : ToolCallRequest) (rest : List ToolCallRequest)
      (last : History) (raised : Raised), calls = tools.map ToolRun.call ++ call :: rest ∧
      events = tools.flatMap ToolRun.events ++ last ∧
      (∀ run ∈ tools, run.Completed python registry recurse resources toolIds) ∧
      CallRaises python registry recurse resources toolIds call last raised ∧
      outcome = .error raised := by
  induction calls generalizing state events with
  | nil =>
      obtain ⟨rfl, rfl⟩ := runs_pure_iff.mp h
      refine .inl ⟨[], rfl, rfl, by simp, ?_⟩
      simp [AgentState.record]
  | cons call calls ih =>
      rcases runs_bind_iff.mp h with ⟨raised, hraised, rfl⟩
        | ⟨first, middle, rest, rfl, hfirst, hrest⟩
      · rcases runs_dispatch_call hraised with ⟨_, _, _, _, hcontra⟩ | ⟨raised', hcall, hended⟩
        · cases hcontra
        · cases hended
          exact .inr ⟨[], call, calls, events, raised, rfl, rfl, by simp, hcall, rfl⟩
      · rcases runs_dispatch_call hfirst with ⟨run, rfl, rfl, hrun, hmiddle⟩ | ⟨_, _, hcontra⟩
        · cases hmiddle
          rcases ih hrest with ⟨tools, rfl, rfl, htools, rfl⟩ |
            ⟨tools, last, more, events, raised, rfl, rfl, htools, hlast, rfl⟩
          · refine .inl ⟨run :: tools, rfl, rfl, List.forall_mem_cons.mpr ⟨hrun, htools⟩, ?_⟩
            simp [AgentState.record]
          · refine .inr ⟨run :: tools, last, more, events, raised, rfl, ?_,
              List.forall_mem_cons.mpr ⟨hrun, htools⟩, hlast, rfl⟩
            rw [List.flatMap_cons, List.append_assoc]
        · cases hcontra

/-- The model is called once. -/
theorem runs_call_model {setup : AgentSetup} {conversation : List Message} {events : History}
    {outcome : Except Raised ToolCallResponse}
    (h : (callModel resources setup conversation).Runs events outcome) :
    ∃ answer, Asks resources setup conversation events answer ∧
      outcome = answer.mapError modelFailure := by
  -- Telling the observers that the model is called does not raise.
  have hshown : ∀ active events ended, (showModel resources setup active).Runs events ended →
      ended = .ok () := by
    intro active events ended hshow
    rcases runs_bind_iff.mp hshow with ⟨_, hraised, rfl⟩ | ⟨_, _, _, _, _, hrest⟩
    · exact absurd (notify_runs hraised) (by simp)
    · exact notify_if_connected_runs hrest
  unfold callModel at h
  dsimp only at h
  rw [← bind_assoc] at h
  rcases runs_bind_iff.mp h with ⟨_, hraised, rfl⟩ | ⟨before, _, rest, rfl, hbefore, hrest⟩
  · exact absurd (hshown true _ _ hraised) (by simp)
  · obtain ⟨middle, after, rfl, hmiddle, hafter⟩ :=
      (Act.runs_finallyDo_iff (hshown false)).mp hrest
    have hcalled : ∀ {events : History} {ended : Except Raised ToolCallResponse},
        (Act.perform (.completeWithTools setup.profile setup.settings
          (memoryWindow setup.maxMessages conversation) setup.toolDefinitions) >>=
            Act.ofExcept).Runs events ended →
        events = [⟨.completeWithTools setup.profile setup.settings
          (memoryWindow setup.maxMessages conversation) setup.toolDefinitions, ended⟩] := by
      intro events ended hcall
      obtain ⟨response, rest, rfl, hresponse⟩ := runs_perform_bind_iff.mp hcall
      obtain ⟨rfl, rfl⟩ := runs_ofExcept_iff.mp hresponse
      rfl
    obtain ⟨answer, hanswer, rfl⟩ := Act.runs_rephrase_iff.mp hmiddle
    obtain rfl := hcalled hanswer
    exact ⟨answer, ⟨before, after, rfl, hbefore, hafter⟩, rfl⟩

end

/-! ## The loop -/

section

variable (python : Python) (registry : NodeRegistry Body)
  (recurse : Body → ExecutionContext → Act NodeResult) (resources : Resources)
  (setup : AgentSetup)

/-- The turns of an agent from these variables on, at most so many, with what was performed and
how they ended. -/
inductive AgentRun : Nat → AgentState → List AgentTurn → History → AgentEnd → Prop where
  | exceeded (state : AgentState) : AgentRun 0 state [] [] .exceeded
  | modelFailed {turns : Nat} {state : AgentState} {asking : History} {failure : Raised}
      (hasked : Asks resources setup state.messages asking (.error failure)) :
      AgentRun (turns + 1) state [] asking (.modelFailed failure)
  | returned {turns : Nat} {state : AgentState} {asking : History} {response : ToolCallResponse}
      (hasked : Asks resources setup state.messages asking (.ok response))
      (hfree : response.toolCalls = []) (hreminds : ¬ state.Reminds setup) :
      AgentRun (turns + 1) state [⟨state.messages, asking, response, [], state.messages⟩] asking
        (.returned (state.answer response))
  | reminded {turns : Nat} {state : AgentState} {asking events : History}
      {response : ToolCallResponse} {rest : List AgentTurn} {ended : AgentEnd}
      (hasked : Asks resources setup state.messages asking (.ok response))
      (hfree : response.toolCalls = []) (hreminds : state.Reminds setup)
      (hrest : AgentRun turns (state.remind response) rest events ended) :
      AgentRun (turns + 1) state
        (⟨state.messages, asking, response, [], (state.remind response).messages⟩ :: rest)
        (asking ++ events) ended
  | called {turns : Nat} {state : AgentState} {asking acting events : History}
      {response : ToolCallResponse} {tools : List ToolRun} {rest : List AgentTurn}
      {ended : AgentEnd} (hasked : Asks resources setup state.messages asking (.ok response))
      (hcalls : response.toolCalls ≠ []) (htools : tools.map ToolRun.call = response.toolCalls)
      (hcompleted : ∀ run ∈ tools, run.Completed python registry recurse resources setup.toolIds)
      (hactive : WhileActive resources setup.toolGroupId (tools.flatMap ToolRun.events) acting)
      (hrest : AgentRun turns ((state.request response).record tools) rest events ended) :
      AgentRun (turns + 1) state
        (⟨state.messages, asking, response, tools,
          ((state.request response).record tools).messages⟩ :: rest)
        (asking ++ acting ++ events) ended
  | toolRaised {turns : Nat} {state : AgentState} {asking acting last : History}
      {response : ToolCallResponse} {tools : List ToolRun} {call : ToolCallRequest}
      {more : List ToolCallRequest} {raised : Raised}
      (hasked : Asks resources setup state.messages asking (.ok response))
      (htools : response.toolCalls = tools.map ToolRun.call ++ call :: more)
      (hcompleted : ∀ run ∈ tools, run.Completed python registry recurse resources setup.toolIds)
      (hactive : WhileActive resources setup.toolGroupId
        (tools.flatMap ToolRun.events ++ last) acting)
      (hraises : CallRaises python registry recurse resources setup.toolIds call last raised) :
      AgentRun (turns + 1) state
        [⟨state.messages, asking, response, tools,
          ((state.request response).record tools).messages⟩] (asking ++ acting)
        (.toolRaised call raised)

end

section

variable {python : Python} {registry : NodeRegistry Body}
  {recurse : Body → ExecutionContext → Act NodeResult} {resources : Resources}
  {setup : AgentSetup}

/-- Every run of the loop is a sequence of turns. -/
theorem agent_loop_runs {turns : Nat} {state : AgentState} {events : History}
    {outcome : Except Raised NodeResult}
    (h : (agentLoop python registry recurse resources setup turns state).Runs events outcome) :
    ∃ made ended, AgentRun python registry recurse resources setup turns state made events ended ∧
      outcome = ended.outcome setup := by
  induction turns generalizing state events with
  | zero =>
      obtain ⟨rfl, rfl⟩ := Act.runs_raise_iff.mp h
      exact ⟨[], .exceeded, .exceeded state, rfl⟩
  | succ turns ih =>
      -- A turn asks the model, and then returns, reminds it of its tools or runs them.
      rcases runs_bind_iff.mp h with ⟨raised, hraised, rfl⟩
        | ⟨asking, response, rest, rfl, hasked, hrest⟩
      · obtain ⟨answer, hasks, hanswer⟩ := runs_call_model hraised
        cases answer with
        | error failure =>
            cases hanswer
            exact ⟨[], .modelFailed failure, .modelFailed hasks, rfl⟩
        | ok response => cases hanswer
      · obtain ⟨answer, hasks, hanswer⟩ := runs_call_model hasked
        cases answer with
        | error failure => cases hanswer
        | ok answer =>
            cases hanswer
            dsimp only at hrest
            split at hrest
            · rename_i hfree
              have hfree : response.toolCalls = [] := List.isEmpty_iff.mp hfree
              split at hrest
              · rename_i hreminds
                obtain ⟨made, ended, hrun, rfl⟩ := ih hrest
                exact ⟨_, ended, .reminded hasks hfree hreminds hrun, rfl⟩
              · rename_i hreminds
                obtain ⟨rfl, rfl⟩ := runs_pure_iff.mp hrest
                rw [List.append_nil]
                exact ⟨_, _, .returned hasks hfree hreminds, rfl⟩
            · rename_i hcalls
              have hcalls : response.toolCalls ≠ [] :=
                fun hnil => hcalls (List.isEmpty_iff.mpr hnil)
              rw [← bind_assoc] at hrest
              rcases runs_bind_iff.mp hrest with
                ⟨raised, hraised, rfl⟩ | ⟨acting, next, more, rfl, hacted, hmore⟩
              · obtain ⟨body, hactive, hbody⟩ := runs_while_active setup.toolGroupId hraised
                rcases runs_dispatch_calls hbody with ⟨_, _, _, _, hcontra⟩ |
                  ⟨tools, call, later, last, _, htools, rfl, hcompleted, hraises, hended⟩
                · cases hcontra
                · cases hended
                  exact ⟨_, .toolRaised call raised,
                    .toolRaised hasks htools hcompleted hactive hraises, rfl⟩
              · obtain ⟨body, hactive, hbody⟩ := runs_while_active setup.toolGroupId hacted
                rcases runs_dispatch_calls hbody with ⟨tools, htools, rfl, hcompleted, hnext⟩ |
                  ⟨_, _, _, _, _, _, _, _, _, hcontra⟩
                · cases hnext
                  obtain ⟨made, ended, hrun, rfl⟩ := ih hmore
                  rw [← List.append_assoc]
                  exact ⟨_, ended, .called hasks hcalls htools hcompleted hactive hrun, rfl⟩
                · cases hcontra

end

/-! ## The body -/

/-- A run of an agent that was set up: its turns, in the order of what was performed. -/
structure AgentTranscript (python : Python) (registry : NodeRegistry Body)
    (connectionTypes : ConnectionRegistry)
    (recurse : Body → ExecutionContext → Act NodeResult) (ctx : ExecutionContext)
    (events : History) (outcome : Except Raised NodeResult) where
  setup : AgentSetup
  task : Json
  preparing : History
  turning : History
  made : List AgentTurn
  ended : AgentEnd
  isSetUp : (setUpAgent registry connectionTypes ctx).Runs preparing (.ok setup)
  taskGiven : ctx.inputs.get "task" = .ok task
  events_eq : events = preparing ++ turning
  turns : AgentRun python registry recurse ctx.resources setup setup.maxIterations.toNat
    { messages := [.user task] } made turning ended
  outcome_eq : outcome = ended.outcome setup

section

variable {python : Python} {registry : NodeRegistry Body} {connectionTypes : ConnectionRegistry}
  {recurse : Body → ExecutionContext → Act NodeResult} {ctx : ExecutionContext}
  {events : History} {outcome : Except Raised NodeResult}

/-- What an agent finds out before its first turn. -/
structure SetUpFor (ctx : ExecutionContext) (setup : AgentSetup) : Prop where
  iterations : ctx.node.config.positive "max_iterations" 10 = .ok setup.maxIterations
  memory : MemoryOf ctx.resources ctx.node.id setup.maxMessages
  tools : ToolsOf ctx.resources ctx.node.id setup.toolIds

theorem set_up_agent_runs {setup : AgentSetup}
    (h : (setUpAgent registry connectionTypes ctx).Runs events (.ok setup)) :
    SetUpFor ctx setup := by
  rcases runs_ofExcept_bind_iff.mp h with ⟨_, _, _, hcontra⟩ | ⟨maxIterations, hmax, hmodel⟩
  · cases hcontra
  dsimp only at hmodel
  split at hmodel
  · rcases runs_ofExcept_bind_iff.mp hmodel with ⟨_, _, _, hcontra⟩ | ⟨_, _, hconfig⟩
    · cases hcontra
    rcases runs_ofExcept_bind_iff.mp hconfig with ⟨_, _, _, hcontra⟩ | ⟨_, _, hmemory⟩
    · cases hcontra
    rcases runs_ofExcept_bind_iff.mp hmemory with
      ⟨_, _, _, hcontra⟩ | ⟨maxMessages, hmessages, hgroup⟩
    · cases hcontra
    split at hgroup
    · cases (Act.runs_raise_iff.mp hgroup).2
    · rcases runs_bind_iff.mp hgroup with ⟨_, _, hcontra⟩ | ⟨_, _, _, rfl, _, hdefinitions⟩
      · cases hcontra
      rcases runs_ofExcept_bind_iff.mp hdefinitions with ⟨_, _, _, hcontra⟩ | ⟨_, _, hdone⟩
      · cases hcontra
      obtain ⟨-, hsetup⟩ := runs_pure_iff.mp hdone
      cases hsetup
      refine ⟨validated_eq_ok hmax, hmessages, fun toolId htool => ?_⟩
      cases hgroups : ctx.resources.subNodes.getD (ctx.node.id, "tools") [] with
      | nil => simp [hgroups] at htool
      | cons toolGroupId rest =>
          rw [hgroups] at htool
          exact ⟨toolGroupId, List.mem_cons_self, htool⟩
  · cases (Act.runs_raise_iff.mp hmodel).2

/-- An agent is not set up, or runs in turns. -/
theorem agent_runs
    (h : (executeAgent python registry connectionTypes recurse ctx).Runs events outcome) :
    (∃ raised, outcome = .error raised ∧
      ((setUpAgent registry connectionTypes ctx).Runs events (.error raised) ∨
        ctx.inputs.get "task" = .error raised ∧
          ∃ setup, (setUpAgent registry connectionTypes ctx).Runs events (.ok setup))) ∨
    Nonempty (AgentTranscript python registry connectionTypes recurse ctx events outcome) := by
  rcases runs_bind_iff.mp h with ⟨raised, hraised, rfl⟩
    | ⟨first, setup, rest, rfl, hsetup, hrest⟩
  · exact .inl ⟨raised, rfl, .inl hraised⟩
  · rcases runs_ofExcept_bind_iff.mp hrest with ⟨raised, htask, rfl, rfl⟩ | ⟨task, htask, hloop⟩
    · rw [List.append_nil]
      exact .inl ⟨raised, rfl, .inr ⟨htask, setup, hsetup⟩⟩
    · obtain ⟨made, ended, hturns, hended⟩ := agent_loop_runs hloop
      exact .inr ⟨⟨setup, task, first, rest, made, ended, hsetup, htask, rfl, hturns, hended⟩⟩

end

end AgentGraphStudio
