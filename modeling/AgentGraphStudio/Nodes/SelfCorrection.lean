import AgentGraphStudio.Nodes.AgentLoop

/-!
# When an agent's model can correct itself

A tool call of a model comes with a text of arguments, which `complete_with_tools` of
`backend/connections/openai_connection.py` decodes before the agent sees it. The agent answers
every call with a result or with an error, so that the model can try again. What stops it from
doing so: a text that is no JSON, arguments that are no object, because the record of the call
wants a dictionary, and a tool that raises something other than an `Exception`
(`agent_self_corrects_iff`).
-/

namespace AgentGraphStudio

open Act (runs_bind_iff runs_pure_iff runs_perform_iff runs_perform_bind_iff runs_ofExcept_iff
  runs_ofExcept_bind_iff)

variable {Body : Type}

/-! ## Decoding a response -/

/-- A tool call as the provider sends it, with its arguments as a text. -/
structure RawToolCall where
  id : String
  name : String
  arguments : Option String

/-- The part of a completion that the adapter reads. -/
structure RawCompletion where
  content : Option String
  toolCalls : List RawToolCall
  promptTokens : Int
  completionTokens : Int

/-- The arguments of a tool call: `json.loads` of a text that is not empty. -/
def decodeArguments (python : Python) : Option String → Except Raised Json
  | none | some "" => .ok (.obj [])
  | some text => (python.jsonLoads text).mapError .exception

def decodeToolCall (python : Python) (raw : RawToolCall) : Except Raised ToolCallRequest := do
  let arguments ← decodeArguments python raw.arguments
  pure { id := raw.id, name := raw.name, arguments }

def decodeToolCalls (python : Python) :
    List RawToolCall → Except Raised (List ToolCallRequest)
  | [] => .ok []
  | raw :: raws => do
    let call ← decodeToolCall python raw
    let calls ← decodeToolCalls python raws
    pure (call :: calls)

/-- What `complete_with_tools` makes of a completion. -/
def completionResponse (python : Python) (raw : RawCompletion) :
    Except Raised ToolCallResponse := do
  let toolCalls ← decodeToolCalls python raw.toolCalls
  pure
    { text := if toolCalls.isEmpty then some (raw.content.getD "") else none
      toolCalls
      inputTokens := raw.promptTokens
      outputTokens := raw.completionTokens }

theorem decode_tool_calls_ok_iff {python : Python} {raws : List RawToolCall}
    {calls : List ToolCallRequest} : decodeToolCalls python raws = .ok calls ↔
      List.Forall₂ (fun raw call => decodeToolCall python raw = .ok call) raws calls := by
  induction raws generalizing calls with
  | nil =>
      rw [List.forall₂_nil_left_iff, decodeToolCalls]
      exact ⟨fun h => by cases h; rfl, fun h => by rw [h]⟩
  | cons raw raws ih =>
      rw [List.forall₂_cons_left_iff, decodeToolCalls, except_bind_eq_ok]
      constructor
      · rintro ⟨call, hcall, hrest⟩
        obtain ⟨rest, hraws, hcalls⟩ := except_bind_eq_ok.mp hrest
        cases hcalls
        exact ⟨call, rest, hcall, ih.mp hraws, rfl⟩
      · rintro ⟨call, rest, hcall, hraws, rfl⟩
        exact ⟨call, hcall, except_bind_eq_ok.mpr ⟨rest, ih.mpr hraws, rfl⟩⟩

/-- If every call can be decoded, all of them can. -/
theorem decode_tool_calls_exists {python : Python} {raws : List RawToolCall}
    (h : ∀ raw ∈ raws, ∃ call, decodeToolCall python raw = .ok call) :
    ∃ calls, decodeToolCalls python raws = .ok calls := by
  induction raws with
  | nil => exact ⟨[], rfl⟩
  | cons raw raws ih =>
      rw [List.forall_mem_cons] at h
      obtain ⟨call, hcall⟩ := h.1
      obtain ⟨calls, hcalls⟩ := ih h.2
      exact ⟨call :: calls, except_bind_eq_ok.mpr
        ⟨call, hcall, except_bind_eq_ok.mpr ⟨calls, hcalls, rfl⟩⟩⟩

/-- Every call of a completion is among the decoded ones. -/
theorem decoded_of_raw {python : Python} {raws : List RawToolCall} {calls : List ToolCallRequest}
    (h : decodeToolCalls python raws = .ok calls) {raw : RawToolCall} (hraw : raw ∈ raws) :
    ∃ call ∈ calls, decodeToolCall python raw = .ok call := by
  replace h := decode_tool_calls_ok_iff.mp h
  induction h with
  | nil => cases hraw
  | cons hhead _ ih =>
      rcases List.mem_cons.mp hraw with rfl | htail
      · exact ⟨_, List.mem_cons_self, hhead⟩
      · obtain ⟨call, hcall, hdecode⟩ := ih htail
        exact ⟨call, List.mem_cons_of_mem _ hcall, hdecode⟩

/-- Every decoded call is one of the completion. -/
theorem raw_of_decoded {python : Python} {raws : List RawToolCall} {calls : List ToolCallRequest}
    (h : decodeToolCalls python raws = .ok calls) {call : ToolCallRequest} (hcall : call ∈ calls) :
    ∃ raw ∈ raws, decodeToolCall python raw = .ok call := by
  replace h := decode_tool_calls_ok_iff.mp h
  induction h with
  | nil => cases hcall
  | cons hhead _ ih =>
      rcases List.mem_cons.mp hcall with rfl | htail
      · exact ⟨_, List.mem_cons_self, hhead⟩
      · obtain ⟨raw, hraw, hdecode⟩ := ih htail
        exact ⟨raw, List.mem_cons_of_mem _ hraw, hdecode⟩

/-- Decoded calls keep their ids and their names. -/
theorem decode_tool_calls_named {python : Python} {raws : List RawToolCall}
    {calls : List ToolCallRequest} (h : decodeToolCalls python raws = .ok calls) :
    (calls.map fun call => (call.id, call.name)) = raws.map fun raw => (raw.id, raw.name) := by
  replace h := decode_tool_calls_ok_iff.mp h
  induction h with
  | nil => rfl
  | cons hhead _ ih =>
      obtain ⟨arguments, _, hcall⟩ := except_bind_eq_ok.mp hhead
      cases hcall
      rw [List.map_cons, List.map_cons, ih]

/-! ## A turn with tool calls -/

section

variable (python : Python) (registry : NodeRegistry Body)
  (recurse : Body → ExecutionContext → Act NodeResult) (resources : Resources)
  (setup : AgentSetup)

/-- What an agent does for the tool calls of a response. -/
def toolTurn (response : ToolCallResponse) (state : AgentState) : Act AgentState := do
  notifyIfConnected resources setup.toolGroupId true
  Act.finallyDo
    (dispatchCalls python registry recurse resources setup.toolIds response.toolCalls
      (state.request response))
    (notifyIfConnected resources setup.toolGroupId false)

/-- The model gets to see a result, or an error that is in the record too. -/
def ToolRun.Answered (run : ToolRun) : Prop :=
  run.record.error = none ∧ run.text = python.jsonDumps (.obj run.record.outputs.entries) ∨
    ∃ error, run.record.error = some error ∧ (run.text = error ∨ run.text = s!"Error: {error}")

/-- The loop goes on after a completion: whatever the tools do, each call gets its message, and
the next turn begins. -/
def SelfCorrects (raw : RawCompletion) (state : AgentState) : Prop :=
  ∃ response, completionResponse python raw = .ok response ∧
    ∀ events outcome,
      (toolTurn python registry recurse resources setup response state).Runs events outcome →
        ∃ tools : List ToolRun, outcome = .ok ((state.request response).record tools) ∧
          (tools.map fun run => (run.call.id, run.call.name)) =
            (raw.toolCalls.map fun call => (call.id, call.name)) ∧
          ∀ run ∈ tools, run.Completed python registry recurse resources setup.toolIds ∧
            run.Answered python

/-- The arguments of a call are an object, and the body that it names raises nothing but an
`Exception` whose text can be had. -/
def Correctable (toolIds : List String) (raw : RawToolCall) : Prop :=
  ∃ arguments fields, decodeArguments python raw.arguments = .ok arguments ∧
    arguments.obj? = some fields ∧
    ∀ toolNode, toolOf resources toolIds ⟨raw.id, raw.name, arguments, none⟩ = some toolNode →
      ∀ events raised, BodyRuns registry recurse resources toolNode arguments events
        (.error raised) → ∃ message, raised = .exception message

end

section

variable {python : Python} {registry : NodeRegistry Body}
  {recurse : Body → ExecutionContext → Act NodeResult} {resources : Resources}
  {setup : AgentSetup}

/-- The loop after a response: a reminder, an answer, or a turn with tool calls before the next
call of the model. -/
theorem agent_loop_succ (turns : Nat) (state : AgentState) :
    agentLoop python registry recurse resources setup (turns + 1) state =
      callModel resources setup state.messages >>= fun response =>
        if response.toolCalls.isEmpty then
          if ¬ setup.toolDefinitions.isEmpty ∧ ¬ state.toolsEverCalled ∧
              ¬ state.toolCallNudgeUsed then
            agentLoop python registry recurse resources setup turns (state.remind response)
          else pure (state.answer response)
        else toolTurn python registry recurse resources setup response state >>=
          agentLoop python registry recurse resources setup turns := by
  rw [agentLoop]
  refine congrArg _ (funext fun response => ?_)
  dsimp only
  split
  · rfl
  · rw [toolTurn, bind_assoc]
    rfl

/-! ## What a tool call needs -/

/-- A report has the arguments in its record, and tells the model what came of the tool. -/
theorem tool_report_ok {toolNode : NodeSpec} {callArguments : Json}
    {runId startedAt finishedAt : String} {ended : Except (Except Raised String) NodeResult}
    {record : TraceRecord} {text : String}
    (h : toolReport python toolNode callArguments runId startedAt finishedAt ended =
      .ok (record, text)) : recordInputs callArguments = .ok record.inputs ∧
      (record.error = none ∧ text = python.jsonDumps (.obj record.outputs.entries) ∨
        ∃ error, record.error = some error ∧ text = s!"Error: {error}") := by
  cases ended with
  | error errorText =>
      obtain ⟨readable, -, hreported⟩ := except_bind_eq_ok.mp h
      obtain ⟨inputs, hinputs, hmade⟩ := except_bind_eq_ok.mp hreported
      cases hmade
      exact ⟨hinputs, .inr ⟨readable, rfl, rfl⟩⟩
  | ok toolResult =>
      obtain ⟨inputs, hinputs, hmade⟩ := except_bind_eq_ok.mp h
      cases hmade
      exact ⟨hinputs, .inl ⟨rfl, rfl⟩⟩

/-- There is no report if the arguments do not fit into a record, or an exception has no text. -/
theorem tool_report_error {toolNode : NodeSpec} {callArguments : Json}
    {runId startedAt finishedAt : String} {ended : Except (Except Raised String) NodeResult}
    {raised : Raised}
    (h : toolReport python toolNode callArguments runId startedAt finishedAt ended =
      .error raised) :
    recordInputs callArguments = .error raised ∨ ended = .error (.error raised) := by
  rcases ended with (unreadable | readable) | toolResult
  · cases h
    exact .inr rfl
  · refine .inl ?_
    cases hinputs : recordInputs callArguments with
    | error refused =>
        rw [toolReport, hinputs] at h
        cases h
        rfl
    | ok inputs =>
        rw [toolReport, hinputs] at h
        cases h
  · refine .inl ?_
    cases hinputs : recordInputs callArguments with
    | error refused =>
        rw [toolReport, hinputs] at h
        cases h
        rfl
    | ok inputs =>
        rw [toolReport, hinputs] at h
        cases h

/-- How the body of a tool may have ended if its agent has no text of an exception from it. -/
theorem tool_body_ended {toolNode : NodeSpec} {callArguments : Json} {events : History}
    {outcome : Except Raised (Except (Except Raised String) NodeResult)} {raised : Raised}
    (h : (Act.catchException
      (match registry.get toolNode.type with
      | none => Act.raise s!"agent tool '{toolNode.id}' has unregistered type '{toolNode.type}'"
      | some definition => do
        let toolResult ← recurse definition.execute ⟨toolNode, .ofJson callArguments, resources⟩
        pure (Except.ok toolResult))
      fun errorText => pure (.error errorText)).Runs events outcome)
    (hraised : outcome = .error raised ∨ outcome = .ok (.error (.error raised))) :
    ∃ body escaped, BodyRuns registry recurse resources toolNode callArguments body
      (.error escaped) ∧ ∀ message, escaped ≠ .exception message := by
  -- The exception came out of the body: a tool without a type raises one that has a text.
  have hbody : ∃ body escaped, (match registry.get toolNode.type with
      | none => Act.raise s!"agent tool '{toolNode.id}' has unregistered type '{toolNode.type}'"
      | some definition => do
        let toolResult ← recurse definition.execute ⟨toolNode, .ofJson callArguments, resources⟩
        pure (Except.ok toolResult) : Act (Except (Except Raised String) NodeResult)).Runs body
        (.error escaped) ∧ ∀ message, escaped ≠ .exception message := by
    rcases Act.runs_catchException_iff.mp h with
      ⟨first, escaped, text, _, rfl, hfirst, hcaught, hhandled⟩ | ⟨hact, hother⟩
    · obtain ⟨-, rfl⟩ := runs_pure_iff.mp hhandled
      rcases hraised with hcontra | hsame
      · cases hcontra
      · cases hsame
        refine ⟨first, escaped, hfirst, ?_⟩
        rintro message rfl
        cases hcaught
    · rcases hraised with rfl | rfl
      · refine ⟨events, raised, hact, ?_⟩
        rintro message rfl
        cases hother _ rfl
      · cases hdefinition : registry.get toolNode.type with
        | none =>
            rw [hdefinition] at hact
            cases (Act.runs_raise_iff.mp hact).2
        | some definition =>
            rw [hdefinition] at hact
            rcases runs_bind_iff.mp hact with ⟨_, _, hcontra⟩ | ⟨_, _, _, _, _, hdone⟩
            · cases hcontra
            · cases (runs_pure_iff.mp hdone).2
  obtain ⟨body, escaped, hran, hescaped⟩ := hbody
  refine ⟨body, escaped, ?_, hescaped⟩
  cases hdefinition : registry.get toolNode.type with
  | none =>
      rw [hdefinition] at hran
      obtain ⟨-, hsame⟩ := Act.runs_raise_iff.mp hran
      cases hsame
      exact absurd rfl (hescaped _)
  | some definition =>
      rw [hdefinition] at hran
      rcases runs_bind_iff.mp hran with ⟨_, hended, hsame⟩ | ⟨_, _, _, _, _, hdone⟩
      · cases hsame
        exact ⟨definition, hdefinition, hended⟩
      · cases (runs_pure_iff.mp hdone).2

/-- A tool that was run has its arguments in its record, and tells the model what came of it. -/
theorem run_tool_answered {toolNode : NodeSpec} {callArguments : Json} {events : History}
    {record : TraceRecord} {text : String}
    (h : (runTool python registry recurse resources toolNode callArguments).Runs events
      (.ok (record, text))) : recordInputs callArguments = .ok record.inputs ∧
      (record.error = none ∧ text = python.jsonDumps (.obj record.outputs.entries) ∨
        ∃ error, record.error = some error ∧ text = s!"Error: {error}") := by
  obtain ⟨startedAt, _, rfl, hid⟩ := runs_perform_bind_iff.mp h
  obtain ⟨runId, _, rfl, hbody⟩ := runs_perform_bind_iff.mp hid
  rcases runs_bind_iff.mp hbody with ⟨_, _, hcontra⟩ | ⟨body, ended, rest, rfl, _, hended⟩
  · cases hcontra
  obtain ⟨finishedAt, _, rfl, hreport⟩ := runs_perform_bind_iff.mp hended
  exact tool_report_ok (Act.runs_ofExcept_iff.mp hreport).2.symm

/-- A tool that raises has arguments that do not fit into its record, or a body that raised
something other than an `Exception` with a text. -/
theorem run_tool_raised {toolNode : NodeSpec} {callArguments : Json} {events : History}
    {raised : Raised}
    (h : (runTool python registry recurse resources toolNode callArguments).Runs events
      (.error raised)) : recordInputs callArguments = .error raised ∨
      ∃ body escaped, BodyRuns registry recurse resources toolNode callArguments body
        (.error escaped) ∧ ∀ message, escaped ≠ .exception message := by
  obtain ⟨startedAt, _, rfl, hid⟩ := runs_perform_bind_iff.mp h
  obtain ⟨runId, _, rfl, hbody⟩ := runs_perform_bind_iff.mp hid
  rcases runs_bind_iff.mp hbody with
    ⟨raised, hraised, hsame⟩ | ⟨body, ended, rest, rfl, hran, hended⟩
  · cases hsame
    exact .inr (tool_body_ended hraised (.inl rfl))
  · obtain ⟨finishedAt, _, rfl, hreport⟩ := runs_perform_bind_iff.mp hended
    rcases tool_report_error (Act.runs_ofExcept_iff.mp hreport).2.symm with hinputs | rfl
    · exact .inl hinputs
    · exact .inr (tool_body_ended hran (.inr rfl))

/-- Arguments fit into a record if they are an object. -/
theorem record_inputs_ok_iff {arguments : Json} :
    (∃ inputs, recordInputs arguments = .ok inputs) ↔ ∃ fields, arguments.obj? = some fields := by
  rw [recordInputs]
  cases arguments.obj? with
  | none =>
      constructor
      · rintro ⟨_, h⟩
        cases h
      · rintro ⟨_, h⟩
        cases h
  | some fields => exact iff_of_true ⟨fields, rfl⟩ ⟨fields, rfl⟩

/-- A call that was answered had an object for its arguments. -/
theorem ToolRun.Completed.fields {toolIds : List String} {run : ToolRun}
    (h : run.Completed python registry recurse resources toolIds) :
    ∃ fields, run.call.arguments.obj? = some fields := by
  refine record_inputs_ok_iff.mp ⟨run.record.inputs, ?_⟩
  rcases h with hunknown | ⟨toolNode, _, body, _, hbody⟩
  · exact hunknown.inputs
  · exact (run_tool_answered hbody).1

/-- A call that was answered tells the model what came of it. -/
theorem ToolRun.Completed.answered {toolIds : List String} {run : ToolRun}
    (h : run.Completed python registry recurse resources toolIds) : run.Answered python := by
  rcases h with hunknown | ⟨toolNode, _, body, _, hbody⟩
  · exact .inr ⟨run.text, hunknown.error, .inl rfl⟩
  · rcases (run_tool_answered hbody).2 with hdone | ⟨error, herror, htext⟩
    · exact .inl hdone
    · exact .inr ⟨error, herror, .inr htext⟩

/-- A call that raises is not one that the agent can answer. -/
theorem CallRaises.not_correctable {toolIds : List String} {raw : RawToolCall}
    {call : ToolCallRequest} (hdecode : decodeToolCall python raw = .ok call) {events : History}
    {raised : Raised}
    (h : CallRaises python registry recurse resources toolIds call events raised) :
    ¬ Correctable python registry recurse resources toolIds raw := by
  rintro ⟨arguments, fields, harguments, hfields, hbodies⟩
  obtain ⟨decoded, hdecoded, hcall⟩ := except_bind_eq_ok.mp hdecode
  cases harguments.symm.trans hdecoded
  cases hcall
  obtain ⟨inputs, hinputs⟩ := record_inputs_ok_iff.mpr ⟨fields, hfields⟩
  rcases h with ⟨_, hraises⟩ | ⟨toolNode, body, hnamed, _, hbody⟩
  · cases hinputs.symm.trans hraises
  · rcases run_tool_raised hbody with hraises | ⟨events, escaped, hended, hescaped⟩
    · cases hinputs.symm.trans hraises
    · obtain ⟨message, rfl⟩ := hbodies toolNode hnamed events escaped hended
      exact hescaped message rfl

/-! ## Runs with a call that cannot be answered -/

/-- A body that raises something other than an `Exception` with a text makes its tool raise. -/
theorem run_tool_raises {toolNode : NodeSpec} {callArguments : Json} {body : History}
    {escaped : Raised} (h : BodyRuns registry recurse resources toolNode callArguments body
      (.error escaped)) (hescaped : ∀ message, escaped ≠ .exception message) : ∃ events raised,
      (runTool python registry recurse resources toolNode callArguments).Runs events
        (.error raised) := by
  obtain ⟨definition, hdefinition, hbody⟩ := h
  have hran : ∀ act : Act (Except (Except Raised String) NodeResult),
      act = (do
        let toolResult ← recurse definition.execute ⟨toolNode, .ofJson callArguments, resources⟩
        pure (Except.ok toolResult)) → act.Runs body (.error escaped) := by
    rintro act rfl
    exact runs_bind_iff.mpr (.inl ⟨escaped, hbody, rfl⟩)
  cases escaped with
  | exception message => exact absurd rfl (hescaped message)
  | baseException message =>
      -- The handler of exceptions does not catch it.
      refine ⟨⟨.utcnowIso, ""⟩ :: ⟨.uuid4, ""⟩ :: body, .baseException message, ?_⟩
      refine runs_perform_bind_iff.mpr ⟨"", _, rfl, ?_⟩
      refine runs_perform_bind_iff.mpr ⟨"", body, rfl, runs_bind_iff.mpr (.inl ⟨_, ?_, rfl⟩)⟩
      rw [hdefinition]
      exact Act.runs_catchException_iff.mpr (.inr ⟨hran _ rfl, fun _ hsame => by cases hsame; rfl⟩)
  | unprintable raised =>
      -- The handler fails when it takes the text for the record.
      refine ⟨⟨.utcnowIso, ""⟩ :: ⟨.uuid4, ""⟩ :: (body ++ [⟨.utcnowIso, ""⟩]), raised, ?_⟩
      refine runs_perform_bind_iff.mpr ⟨"", _, rfl, ?_⟩
      refine runs_perform_bind_iff.mpr ⟨"", body ++ [⟨.utcnowIso, ""⟩], rfl, ?_⟩
      refine runs_bind_iff.mpr (.inr ⟨body, .error (.error raised), _, rfl, ?_, ?_⟩)
      · rw [hdefinition]
        exact Act.runs_catchException_iff.mpr (.inl ⟨body, _, _, [], (List.append_nil body).symm,
          hran _ rfl, rfl, runs_pure_iff.mpr ⟨rfl, rfl⟩⟩)
      · exact runs_perform_bind_iff.mpr ⟨"", [], rfl, Act.runs_ofExcept_iff.mpr ⟨rfl, rfl⟩⟩

/-- Something is performed while a sub-node is shown as active. -/
theorem while_active_runs {α : Type} {act : Act α} (subNodeId : Option String) {body : History}
    {outcome : Except Raised α} (h : act.Runs body outcome) : ∃ events,
      (notifyIfConnected resources subNodeId true >>= fun _ =>
        Act.finallyDo act (notifyIfConnected resources subNodeId false)).Runs events outcome := by
  obtain ⟨before, shown, hbefore⟩ := exists_runs (notifyIfConnected resources subNodeId true)
  obtain ⟨after, hidden, hafter⟩ := exists_runs (notifyIfConnected resources subNodeId false)
  obtain rfl := notify_if_connected_runs hbefore
  obtain rfl := notify_if_connected_runs hafter
  refine ⟨before ++ (body ++ after), runs_bind_iff.mpr (.inr ⟨before, _, _, rfl, hbefore, ?_⟩)⟩
  exact (Act.runs_finallyDo_iff fun _ _ => notify_if_connected_runs).mpr
    ⟨body, after, rfl, h, hafter⟩

/-- A call whose arguments are no object, or whose body raises something other than an
`Exception` with a text. -/
def Unanswerable (registry : NodeRegistry Body)
    (recurse : Body → ExecutionContext → Act NodeResult) (resources : Resources)
    (toolIds : List String) (call : ToolCallRequest) : Prop :=
  (¬ ∃ fields, call.arguments.obj? = some fields) ∨
    ∃ toolNode body escaped, toolOf resources toolIds call = some toolNode ∧
      BodyRuns registry recurse resources toolNode call.arguments body (.error escaped) ∧
      ∀ message, escaped ≠ .exception message

/-- Such a call can raise. -/
theorem dispatch_call_raises {toolIds : List String} {call : ToolCallRequest}
    (h : Unanswerable registry recurse resources toolIds call) (state : AgentState) :
    ∃ events raised, (dispatchCall python registry recurse resources toolIds call state).Runs
      events (.error raised) := by
  rcases h with hfields | ⟨toolNode, body, escaped, hnamed, hbody, hescaped⟩
  · obtain ⟨events, outcome, hrun⟩ :=
      exists_runs (dispatchCall python registry recurse resources toolIds call state)
    rcases runs_dispatch_call hrun with ⟨run, rfl, _, hcompleted, _⟩ | ⟨raised, _, rfl⟩
    · exact absurd hcompleted.fields hfields
    · exact ⟨events, raised, hrun⟩
  · obtain ⟨made, raised, htool⟩ := run_tool_raises hbody hescaped
    obtain ⟨events, hevents⟩ := while_active_runs (some toolNode.id) htool
    refine ⟨events, raised, ?_⟩
    have hfound : (if call.name ∈ toolIds then resources.nodesById.get? call.name else none) =
        some toolNode := hnamed
    rw [dispatchCall, hfound]
    dsimp only
    rw [← bind_assoc]
    exact runs_bind_iff.mpr (.inl ⟨raised, hevents, rfl⟩)

/-- It does so wherever it stands among the calls of a response, unless another one does. -/
theorem dispatch_calls_raises {toolIds : List String} {calls : List ToolCallRequest}
    {call : ToolCallRequest} (hcall : call ∈ calls)
    (h : Unanswerable registry recurse resources toolIds call) (state : AgentState) :
    ∃ events raised, (dispatchCalls python registry recurse resources toolIds calls state).Runs
      events (.error raised) := by
  induction calls generalizing state with
  | nil => cases hcall
  | cons head calls ih =>
      rcases List.mem_cons.mp hcall with rfl | htail
      · obtain ⟨events, raised, hrun⟩ := dispatch_call_raises h state
        exact ⟨events, raised, runs_bind_iff.mpr (.inl ⟨raised, hrun, rfl⟩)⟩
      · obtain ⟨events, outcome, hrun⟩ :=
          exists_runs (dispatchCall python registry recurse resources toolIds head state)
        cases outcome with
        | error raised => exact ⟨events, raised, runs_bind_iff.mpr (.inl ⟨raised, hrun, rfl⟩)⟩
        | ok next =>
            obtain ⟨more, raised, hmore⟩ := ih htail next
            exact ⟨events ++ more, raised,
              runs_bind_iff.mpr (.inr ⟨events, next, more, rfl, hrun, hmore⟩)⟩

/-- And then the turn raises. -/
theorem tool_turn_raises {response : ToolCallResponse} {call : ToolCallRequest}
    (hcall : call ∈ response.toolCalls)
    (h : Unanswerable registry recurse resources setup.toolIds call) (state : AgentState) :
    ∃ events raised, (toolTurn python registry recurse resources setup response state).Runs
      events (.error raised) := by
  obtain ⟨body, raised, hbody⟩ := dispatch_calls_raises hcall h (state.request response)
  obtain ⟨events, hevents⟩ := while_active_runs setup.toolGroupId hbody
  exact ⟨events, raised, hevents⟩

/-- If the loop goes on whatever the tools do, no call of the completion stands in its way. -/
theorem SelfCorrects.correctable {raw : RawCompletion} {state : AgentState}
    (h : SelfCorrects python registry recurse resources setup raw state) :
    ∀ call ∈ raw.toolCalls, Correctable python registry recurse resources setup.toolIds call := by
  obtain ⟨response, hresponse, hruns⟩ := h
  intro raw' hraw
  obtain ⟨calls, hcalls, hmade⟩ := except_bind_eq_ok.mp hresponse
  have hresponseCalls : response.toolCalls = calls := by
    cases hmade
    rfl
  obtain ⟨call, hcall, hdecode⟩ := decoded_of_raw hcalls hraw
  have hanswerable : ¬ Unanswerable registry recurse resources setup.toolIds call := by
    intro hunanswerable
    obtain ⟨events, raised, hraised⟩ :=
      @tool_turn_raises _ python _ _ _ _ _ _ (hresponseCalls ▸ hcall) hunanswerable state
    obtain ⟨_, hcontra, _⟩ := hruns _ _ hraised
    cases hcontra
  obtain ⟨arguments, harguments, hmadeCall⟩ := except_bind_eq_ok.mp hdecode
  cases hmadeCall
  obtain ⟨hfields, hbodies⟩ := not_or.mp hanswerable
  obtain ⟨fields, hfields⟩ := not_not.mp hfields
  refine ⟨arguments, fields, harguments, hfields, fun toolNode hnamed events escaped hbody => ?_⟩
  by_contra hescaped
  exact hbodies ⟨toolNode, events, escaped, hnamed, hbody, fun message hsame =>
    hescaped ⟨message, hsame⟩⟩

/-- If no call of the completion stands in its way, the loop goes on. -/
theorem self_corrects_of_correctable {raw : RawCompletion} (state : AgentState)
    (h : ∀ call ∈ raw.toolCalls, Correctable python registry recurse resources setup.toolIds call) :
    SelfCorrects python registry recurse resources setup raw state := by
  obtain ⟨calls, hcalls⟩ := decode_tool_calls_exists fun raw' hraw => by
    obtain ⟨arguments, _, harguments, _⟩ := h raw' hraw
    exact ⟨_, except_bind_eq_ok.mpr ⟨arguments, harguments, rfl⟩⟩
  refine ⟨_, except_bind_eq_ok.mpr ⟨calls, hcalls, rfl⟩, fun events outcome hturn => ?_⟩
  obtain ⟨body, _, hbody⟩ := runs_while_active setup.toolGroupId hturn
  rcases runs_dispatch_calls hbody with ⟨tools, htools, _, hcompleted, rfl⟩ |
    ⟨tools, call, more, last, raised, htools, _, _, hraises, _⟩
  · refine ⟨tools, rfl, ?_, fun run hrun => ⟨hcompleted run hrun, (hcompleted run hrun).answered⟩⟩
    rw [← decode_tool_calls_named hcalls, ← show tools.map ToolRun.call = calls from htools,
      List.map_map]
    rfl
  · have hcall : call ∈ calls := by
      rw [show calls = tools.map ToolRun.call ++ call :: more from htools]
      exact List.mem_append_right _ List.mem_cons_self
    obtain ⟨raw', hraw, hdecode⟩ := raw_of_decoded hcalls hcall
    exact absurd (h raw' hraw) (hraises.not_correctable hdecode)

end

/-! ## Which calls the model can correct -/

/-- Between a response with tool calls and the next call of the model, the loop does nothing but
answer the calls. Whatever the tools do, it answers all of them exactly if the arguments of each
are an object, or missing, and no tool raises anything but an `Exception` whose text can be had. -/
theorem agent_self_corrects_iff (python : Python) (registry : NodeRegistry Body)
    (recurse : Body → ExecutionContext → Act NodeResult) (resources : Resources)
    (setup : AgentSetup) (raw : RawCompletion) (state : AgentState) :
    (∀ turns, agentLoop python registry recurse resources setup (turns + 1) state =
      callModel resources setup state.messages >>= fun response =>
        if response.toolCalls.isEmpty then
          if ¬ setup.toolDefinitions.isEmpty ∧ ¬ state.toolsEverCalled ∧
              ¬ state.toolCallNudgeUsed then
            agentLoop python registry recurse resources setup turns (state.remind response)
          else pure (state.answer response)
        else toolTurn python registry recurse resources setup response state >>=
          agentLoop python registry recurse resources setup turns) ∧
    (SelfCorrects python registry recurse resources setup raw state ↔
      ∀ call ∈ raw.toolCalls, Correctable python registry recurse resources setup.toolIds call) :=
  ⟨fun turns => agent_loop_succ turns state, SelfCorrects.correctable,
    self_corrects_of_correctable state⟩

/-! ### A list for arguments -/

/-- `json.loads`, as far as the example needs it. -/
def listPython : Python :=
  { plainPython with
    jsonLoads := fun text => if text = "[]" then .ok (.arr []) else .error "Expecting value" }

/-- A call of the tool `upper` with an empty list. -/
def listCompletion : RawCompletion where
  content := none
  toolCalls := [{ id := "call_1", name := "upper", arguments := some "[]" }]
  promptTokens := 0
  completionTokens := 0

/-- A model that makes this call. -/
def listAnswers : (op : Op) → Res op
  | .completeWithTools .. => completionResponse listPython listCompletion
  | op => helloAnswers [] op

set_option maxRecDepth 20000 in
/-- The call ends the run of the agent. -/
theorem list_arguments_abort : ∃ events profile settings shown tools,
    (executeAgent listPython anthropicEnvironment.registry anthropicEnvironment.connectionTypes
      (execute anthropicEnvironment 2) (agentContext 2)).Runs events
        (.error (.exception "inputs: Input should be a valid dictionary")) ∧
    (⟨.completeWithTools profile settings shown tools,
      completionResponse listPython listCompletion⟩ : Event Op Res) ∈ events ∧
    ∀ setup state, ¬ SelfCorrects listPython anthropicEnvironment.registry
      (execute anthropicEnvironment 2) (agentContext 2).resources setup listCompletion state := by
  refine ⟨_, _, _, _, _, Program.ends_play listAnswers _, @List.mem_of_getElem? _ _ 1 _ rfl, ?_⟩
  intro setup state hcorrects
  obtain ⟨arguments, fields, harguments, hfields, _⟩ :=
    hcorrects.correctable _ List.mem_cons_self
  cases harguments
  cases hfields

end AgentGraphStudio
