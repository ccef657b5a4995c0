import AgentGraphStudio.Api.ConnectionCoverage
import AgentGraphStudio.Nodes.AgentTurns

/-!
# What an agent shows its model

A model call gets the end of the conversation that the agent's memory keeps. The conversation
itself pairs every call with its result; its end does so exactly if the cut does not fall between
a call and its result: `shown_paired_iff`.
-/

namespace AgentGraphStudio

/-- The oldest message that a memory keeps is the result of a call that it drops. -/
def CutsCall (messages : List Message) (maxMessages : Option Int) : Prop :=
  ∃ kept id name text, maxMessages = some kept ∧ kept < messages.length ∧
    messages[messages.length - kept.toNat]? = some (.tool id name text)

/-- A memory shows the end of a conversation. -/
theorem memory_window_suffix (maxMessages : Option Int) (messages : List Message) :
    memoryWindow maxMessages messages <:+ messages := by
  unfold memoryWindow applyMemoryWindow
  split
  · split
    · exact List.drop_suffix _ _
    · exact List.suffix_rfl
  · exact List.suffix_rfl

/-- A conversation starts with its task. -/
theorem Conversation.not_starts {messages : List Message} (h : Conversation messages) :
    ¬ StartsWithResult messages := by
  have hhead : ∃ task rest, messages = .user task :: rest := by
    induction h with
    | task task => exact ⟨task, [], rfl⟩
    | reminded h content reminder ih | called h content hreplies ih =>
        obtain ⟨task, rest, rfl⟩ := ih
        exact ⟨task, _, rfl⟩
  intro ⟨id, name, text, rest, hresult⟩
  obtain ⟨task, others, rfl⟩ := hhead
  cases hresult

/-- What a memory keeps of a conversation starts with a result exactly if the cut separates the
result from its call. -/
theorem starts_iff_cuts {messages : List Message} (h : Conversation messages)
    (maxMessages : Option Int) :
    StartsWithResult (memoryWindow maxMessages messages) ↔ CutsCall messages maxMessages := by
  cases maxMessages with
  | none => exact ⟨fun hstart => absurd hstart h.not_starts, nofun⟩
  | some kept =>
      unfold memoryWindow applyMemoryWindow
      dsimp only
      split
      · rename_i hkept
        constructor
        · intro ⟨id, name, text, rest, hdrop⟩
          refine ⟨kept, id, name, text, rfl, hkept, ?_⟩
          rw [← List.head?_drop, hdrop, List.head?_cons]
        · intro ⟨_, id, name, text, hsame, _, hget⟩
          cases hsame
          rw [← List.head?_drop, List.head?_eq_some_iff] at hget
          obtain ⟨rest, hrest⟩ := hget
          exact ⟨id, name, text, rest, hrest⟩
      · rename_i hkept
        refine ⟨fun hstart => absurd hstart h.not_starts, ?_⟩
        intro ⟨_, _, _, _, hsame, hcut, _⟩
        cases hsame
        exact absurd hcut hkept

/-! ## Every model call of a run -/

/-- What a turn that goes on adds to the conversation: the answer with the results of its calls, or
the answer and the reminder. -/
def AgentTurn.added (turn : AgentTurn) : List Message :=
  if turn.response.toolCalls = [] then
    [.assistant (turn.response.text.getD "") none, toolCallNudge]
  else
    .assistant (turn.response.text.getD "") (some turn.response.toolCalls) ::
      turn.tools.map ToolRun.message

/-- The model is shown what the memory keeps of a conversation. The conversation is paired, and what
is shown of it is so exactly if the memory does not cut off a call from its result. -/
structure ShowsWindow (resources : Resources) (setup : AgentSetup) (conversation : List Message)
    (asking : History) (answer : Except Raised ToolCallResponse) : Prop where
  asks : Asks resources setup conversation asking answer
  paired : Paired conversation
  window : Paired (memoryWindow setup.maxMessages conversation) ↔
    ¬ CutsCall conversation setup.maxMessages

section

variable {Body : Type} {python : Python} {registry : NodeRegistry Body}
  {connectionTypes : ConnectionRegistry} {recurse : Body → ExecutionContext → Act NodeResult}

/-- The model calls of a run: one for each turn, and one more if it has failed. Each shows what the
memory of the agent keeps of the task and of what the turns before have added. -/
structure ShownPaired {ctx : ExecutionContext} {events : History}
    {outcome : Except Raised NodeResult}
    (transcript : AgentTranscript python registry connectionTypes recurse ctx events outcome) :
    Prop where
  memory : MemoryOf ctx.resources ctx.node.id transcript.setup.maxMessages
  shown : ∀ before turn after, transcript.made = before ++ turn :: after →
    ShowsWindow ctx.resources transcript.setup
      (.user transcript.task :: before.flatMap AgentTurn.added) turn.asking (.ok turn.response)
  failed : ∀ failure, transcript.ended = .modelFailed failure →
    ∃ asking, asking <:+ transcript.turning ∧
      ShowsWindow ctx.resources transcript.setup
        (.user transcript.task :: transcript.made.flatMap AgentTurn.added) asking (.error failure)

theorem Conversation.showsWindow {resources : Resources} {setup : AgentSetup}
    {conversation : List Message} {asking : History} {answer : Except Raised ToolCallResponse}
    (h : Conversation conversation) (hasks : Asks resources setup conversation asking answer) :
    ShowsWindow resources setup conversation asking answer where
  asks := hasks
  paired := (h.paired_iff List.suffix_rfl).mpr h.not_starts
  window := by
    rw [h.paired_iff (memory_window_suffix setup.maxMessages conversation), starts_iff_cuts h]

/-- The results of tool calls reply to them. -/
theorem tools_reply (tools : List ToolRun) :
    Replies (tools.map ToolRun.message) (tools.map ToolRun.call) := by
  induction tools with
  | nil => exact .nil
  | cons run tools ih => exact .cons ⟨run.text, rfl⟩ ih

theorem added_of_called {turn : AgentTurn} (h : turn.response.toolCalls ≠ []) :
    turn.added = .assistant (turn.response.text.getD "") (some turn.response.toolCalls) ::
      turn.tools.map ToolRun.message := if_neg h

theorem added_of_free {turn : AgentTurn} (h : turn.response.toolCalls = []) :
    turn.added = [.assistant (turn.response.text.getD "") none, toolCallNudge] := if_pos h

variable {resources : Resources} {setup : AgentSetup} {turns : Nat} {state : AgentState}
  {made : List AgentTurn} {events : History} {ended : AgentEnd}

/-- The first turn is shown the messages of its state. -/
theorem first_turn_shown (hstate : Conversation state.messages) {first turn : AgentTurn}
    {rest after : List AgentTurn} (hmade : first :: rest = [] ++ turn :: after)
    (hasked : Asks resources setup state.messages first.asking (.ok first.response)) :
    ShowsWindow resources setup (state.messages ++ [].flatMap AgentTurn.added) turn.asking
      (.ok turn.response) := by
  cases hmade
  rw [List.flatMap_nil, List.append_nil]
  exact hstate.showsWindow hasked

/-- What a turn with a reminder adds. -/
theorem remind_messages {asking : History} {response : ToolCallResponse}
    (hfree : response.toolCalls = []) :
    (state.remind response).messages = state.messages ++
      AgentTurn.added ⟨state.messages, asking, response, [],
        (state.remind response).messages⟩ := by
  rw [added_of_free hfree]
  rfl

/-- What a turn with tool calls adds. -/
theorem record_messages {asking : History} {response : ToolCallResponse} {tools : List ToolRun}
    (hcalls : response.toolCalls ≠ []) :
    ((state.request response).record tools).messages = state.messages ++
      AgentTurn.added ⟨state.messages, asking, response, tools,
        ((state.request response).record tools).messages⟩ := by
  rw [added_of_called hcalls]
  simp [AgentState.request, AgentState.record]

/-- The conversation goes on with the results of all calls. -/
theorem record_conversation (hstate : Conversation state.messages) {response : ToolCallResponse}
    {tools : List ToolRun} (htools : tools.map ToolRun.call = response.toolCalls) :
    Conversation ((state.request response).record tools).messages := by
  have hmessages : ((state.request response).record tools).messages = state.messages ++
      .assistant (response.text.getD "") (some response.toolCalls) ::
        tools.map ToolRun.message := by
    simp [AgentState.request, AgentState.record]
  rw [hmessages]
  exact hstate.called _ (htools ▸ tools_reply tools)

/-- In every turn the model is shown the window of what was said so far. -/
theorem agent_run_shown
    (h : AgentRun python registry recurse resources setup turns state made events ended)
    (hstate : Conversation state.messages) {before after : List AgentTurn} {turn : AgentTurn}
    (hmade : made = before ++ turn :: after) :
    ShowsWindow resources setup (state.messages ++ before.flatMap AgentTurn.added) turn.asking
      (.ok turn.response) := by
  induction h generalizing before with
  | exceeded state => exact absurd hmade (by simp)
  | modelFailed hasked => exact absurd hmade (by simp)
  | returned hasked hfree hreminds =>
      cases before with
      | nil => exact first_turn_shown hstate hmade hasked
      | cons other before => exact absurd hmade (by simp)
  | reminded hasked hfree hreminds hrest ih =>
      cases before with
      | nil => exact first_turn_shown hstate hmade hasked
      | cons first before =>
          obtain ⟨rfl, hlater⟩ := List.cons.inj hmade
          have hshown := ih (hstate.reminded _ _) hlater
          rwa [remind_messages hfree, List.append_assoc] at hshown
  | called hasked hcalls htools hcompleted hactive hrest ih =>
      cases before with
      | nil => exact first_turn_shown hstate hmade hasked
      | cons first before =>
          obtain ⟨rfl, hlater⟩ := List.cons.inj hmade
          have hshown := ih (record_conversation hstate htools) hlater
          rwa [record_messages hcalls, List.append_assoc] at hshown
  | toolRaised hasked htools hcompleted hactive hraises =>
      cases before with
      | nil => exact first_turn_shown hstate hmade hasked
      | cons other before => exact absurd hmade (by simp)

/-- A model call that fails was shown the window of all that was said. -/
theorem agent_run_failed {failure : Raised}
    (h : AgentRun python registry recurse resources setup turns state made events ended)
    (hended : ended = .modelFailed failure) (hstate : Conversation state.messages) :
    ∃ asking, asking <:+ events ∧ ShowsWindow resources setup
      (state.messages ++ made.flatMap AgentTurn.added) asking (.error failure) := by
  induction h with
  | exceeded state => cases hended
  | modelFailed hasked =>
      cases hended
      refine ⟨_, List.suffix_rfl, ?_⟩
      rw [List.flatMap_nil, List.append_nil]
      exact hstate.showsWindow hasked
  | returned hasked hfree hreminds => cases hended
  | reminded hasked hfree hreminds hrest ih =>
      obtain ⟨last, hlast, hshown⟩ := ih hended (hstate.reminded _ _)
      rw [remind_messages hfree, List.append_assoc] at hshown
      exact ⟨last, hlast.trans (List.suffix_append _ _), hshown⟩
  | called hasked hcalls htools hcompleted hactive hrest ih =>
      obtain ⟨last, hlast, hshown⟩ := ih hended (record_conversation hstate htools)
      rw [record_messages hcalls, List.append_assoc] at hshown
      exact ⟨last, hlast.trans (List.suffix_append _ _), hshown⟩
  | toolRaised hasked htools hcompleted hactive hraises => cases hended

end

/-! ## An agent that runs -/

/-- A model is called that may ask for tools. -/
def Op.AsksModel : Op → Prop
  | .completeWithTools .. => True
  | _ => False

section

variable {Body : Type} {python : Python} {registry : NodeRegistry Body}
  {connectionTypes : ConnectionRegistry} {recurse : Body → ExecutionContext → Act NodeResult}
  {ctx : ExecutionContext} {events : History}

/-- Setting up an agent calls no model. -/
theorem set_up_agent_asks_none {found : Except Raised AgentSetup}
    (h : (setUpAgent registry connectionTypes ctx).Runs events found) :
    ∀ event ∈ events, ¬ event.op.AsksModel := by
  have hroutine : ∀ op : Op, op.Routine → ¬ op.AsksModel := by
    intro op hop hasks
    cases op with
    | completeWithTools => exact hop
    | _ => exact hasks
  have halways : (setUpAgent registry connectionTypes ctx).Always
      (Policy.ofOps (fun op => ¬ op.AsksModel) hroutine) :=
    set_up_agent_keeps (Policy.rules _) fun _ _ => id
  exact Policy.ofOps_run halways h

/-- An agent that can not be set up calls no model. Every other one is shown by each call what its
memory keeps of its conversation so far, and that is paired exactly if the memory does not cut off
a call from its result. A run that has not ended yet is the beginning of such a run. -/
theorem shown_paired_iff {rest : Program Op Res (Except Raised NodeResult)}
    (hrun : Program.Run (executeAgent python registry connectionTypes recurse ctx).run events
      rest) :
    ∃ later outcome,
      (executeAgent python registry connectionTypes recurse ctx).Runs (events ++ later) outcome ∧
      ((∃ raised, outcome = .error raised ∧
          ∀ event ∈ events ++ later, ¬ event.op.AsksModel) ∨
        ∃ transcript : AgentTranscript python registry connectionTypes recurse ctx
          (events ++ later) outcome, ShownPaired transcript) := by
  obtain ⟨later, outcome, hruns⟩ := run_completes hrun
  refine ⟨later, outcome, hruns, ?_⟩
  rcases agent_runs hruns with ⟨raised, hraised, hfailed⟩ | ⟨⟨transcript⟩⟩
  · refine .inl ⟨raised, hraised, ?_⟩
    rcases hfailed with hsetup | hsetup
    · exact set_up_agent_asks_none hsetup
    · obtain ⟨setup, hsetup⟩ := hsetup.2
      exact set_up_agent_asks_none hsetup
  · refine .inr ⟨transcript, (set_up_agent_runs transcript.isSetUp).memory, ?_, ?_⟩
    · intro before turn after hmade
      exact agent_run_shown transcript.turns (.task _) hmade
    · intro failure hended
      exact agent_run_failed transcript.turns hended (.task _)

end

/-! ### A memory of one message -/

/-- An agent with a tool and a memory of this many messages. -/
def agentGraph (maxMessages : Int) : GraphSpec where
  version := "1.0"
  nodes := [
    { id := "agent", type := "agent", inputValues := .ofList [("task", .str "shout hello")] },
    { id := "model", type := "model"
      config := .ofList [("connection", .str "my-anthropic"), ("model", .str "claude")] },
    { id := "memory", type := "memory", config := .ofList [("max_messages", .int maxMessages)] },
    { id := "tools", type := "tool_group" }, { id := "upper", type := "uppercase_text" }]
  edges := [.subNode ⟨"model", "agent", "model"⟩, .subNode ⟨"memory", "agent", "memory"⟩,
    .subNode ⟨"tools", "agent", "tools"⟩, .subNode ⟨"upper", "tools", "tools"⟩]
  nodupIds := show ["agent", "model", "memory", "tools", "upper"].Nodup by decide

/-- The agent of the graph with its resources. -/
def agentContext (maxMessages : Int) : ExecutionContext where
  node := { id := "agent", type := "agent", inputValues := .ofList [("task", .str "shout hello")] }
  inputs := .dict (.ofList [("task", .str "shout hello")])
  resources := withGraph
    { connectionProfiles := .ofList [("my-anthropic", anthropicProfile "my-anthropic" none)] }
    (agentGraph maxMessages)

/-- The call of the tool that the model asks for. -/
def upperCall : ToolCallRequest where
  id := "call_1"
  name := "upper"
  arguments := .obj [("text", .str "hello")]

/-- A model that calls the tool once and then answers. -/
def toolAnswers : (op : Op) → Res op
  | .completeWithTools _ _ messages _ =>
    match messages.getLast? with
    | some (.tool ..) => .ok { text := some "HELLO", toolCalls := [] }
    | _ => .ok { text := none, toolCalls := [upperCall] }
  | op => helloAnswers [] op

/-- The events of the agent. -/
def agentEvents (maxMessages : Int) : History :=
  (Program.play toolAnswers
    (execute anthropicEnvironment 3 .agent (agentContext maxMessages)).run).1

/-- What the model sees in its second turn, if the memory keeps so many messages. -/
def secondTurn (shown : List Message) : Event Op Res where
  op := .completeWithTools (anthropicProfile "my-anthropic" none)
    { model := "claude", systemPrompt := "", maxTokens := 1024 } shown
    [{ name := "upper", description := "Executes the 'upper' node (type: uppercase_text)."
       properties := ["text"], required := ["text"] }]
  response := .ok { text := some "HELLO", toolCalls := [] }

set_option maxRecDepth 20000 in
/-- A memory of two messages keeps the call with its result. -/
theorem two_messages_paired :
    (∃ later outcome, ∃ transcript : AgentTranscript anthropicEnvironment.python
      anthropicEnvironment.registry anthropicEnvironment.connectionTypes
      (execute anthropicEnvironment 2) (agentContext 2) (agentEvents 2 ++ later) outcome,
      ShownPaired transcript) ∧
    ∃ shown, secondTurn shown ∈ agentEvents 2 ∧ Paired shown := by
  have hmem : secondTurn [.assistant "" (some [upperCall]), .tool "call_1" "upper" "null"] ∈
      agentEvents 2 := @List.mem_of_getElem? _ _ 5 _ rfl
  constructor
  · have hplayed : (executeAgent anthropicEnvironment.python anthropicEnvironment.registry
        anthropicEnvironment.connectionTypes (execute anthropicEnvironment 2)
        (agentContext 2)).Runs (agentEvents 2) _ := Program.ends_play toolAnswers _
    obtain ⟨later, outcome, _, ⟨_, _, hnone⟩ | hshown⟩ := shown_paired_iff hplayed
    · exact absurd trivial (hnone _ (List.mem_append_left later hmem))
    · exact ⟨later, outcome, hshown⟩
  · exact ⟨_, hmem, paired_turn "" (.cons ⟨"null", rfl⟩ .nil)⟩

set_option maxRecDepth 20000 in
/-- A memory of one message keeps the result without its call. -/
theorem one_message_cut :
    validateGraph (agentGraph 1) anthropicEnvironment.registry
      [anthropicProfile "my-anthropic" none] none .empty = .ok () ∧
    (∃ outcome, Program.Ends (execute anthropicEnvironment 3 .agent (agentContext 1)).run
      (agentEvents 1) outcome) ∧
    ∃ shown, secondTurn shown ∈ agentEvents 1 ∧ ¬ Paired shown := by
  refine ⟨rfl, ⟨_, Program.ends_play toolAnswers _⟩, [.tool "call_1" "upper" "null"],
    @List.mem_of_getElem? _ _ 5 _ rfl, fun h => ?_⟩
  exact h.not_starts ⟨_, _, _, _, rfl⟩

end AgentGraphStudio
