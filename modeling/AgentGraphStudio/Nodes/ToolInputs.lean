import AgentGraphStudio.Execution.Gather
import AgentGraphStudio.Nodes.SelfCorrection

/-!
# The inputs of a tool

The scheduler gathers the inputs of a node slot by slot, from its edges and from the literals of
the node (`gather_inputs` of `backend/execution/engine.py`). An agent hands the body of a tool
whatever arguments its model chose. `tool_inputs_bound_iff` says for which arguments this comes to
the same.
-/

namespace AgentGraphStudio

open Act (runs_bind_iff runs_pure_iff runs_perform_bind_iff runs_ofExcept_bind_iff)

variable {Body : Type}

/-! ## Gathering the arguments -/

/-- The edges along which the arguments of a tool would arrive. -/
def argumentEdges (toolNode : NodeSpec) (arguments : Config) :
    Dict (String × String) DataEdge :=
  .ofList (arguments.keys.map fun name =>
    ((toolNode.id, name), ⟨"model", name, toolNode.id, name⟩))

/-- The state of a scheduler at which all arguments have arrived. -/
def argumentState (arguments : Config) : SchedulerState where
  pending := []
  finished := []
  available := .ofList (arguments.entries.map fun entry => (("model", entry.1), entry.2))
  trace := []
  result := .empty

/-- What `gather_inputs` would give a tool if its arguments were arrived edge values. -/
def gatherArguments (definition : NodeDefinition Body) (toolNode : NodeSpec)
    (arguments : Config) : Gathered :=
  gatherSlots (argumentEdges toolNode arguments) (argumentState arguments) toolNode
    (gatheredSlots definition toolNode) .empty

/-- The value of a slot: the argument, or else the literal. -/
def argumentValue (toolNode : NodeSpec) (arguments : Config) (name : String) : Option Json :=
  (arguments.get? name).or (toolNode.inputValues.get? name)

section

variable {toolNode : NodeSpec} {arguments : Config}

/-- There is an edge for each argument. -/
theorem get?_argumentEdges (name : String) :
    (argumentEdges toolNode arguments).get? (toolNode.id, name) =
      (arguments.get? name).map fun _ => ⟨"model", name, toolNode.id, name⟩ := by
  have hkeys : (toolNode.id, name) ∈ (argumentEdges toolNode arguments).keys ↔
      name ∈ arguments.keys := by
    rw [argumentEdges, Dict.mem_keys_ofList]
    simp
  cases hargument : arguments.get? name with
  | none =>
      rw [Option.map_none, Dict.get?_eq_none_iff, hkeys, ← Dict.get?_eq_none_iff]
      exact hargument
  | some value =>
      obtain ⟨edge, hedge⟩ := Dict.mem_keys_iff.mp
        (hkeys.mpr (Dict.mem_keys_iff.mpr ⟨value, hargument⟩))
      obtain ⟨other, _, hother⟩ := List.mem_map.mp (Dict.mem_of_get?_ofList hedge)
      cases hother
      exact hedge

/-- The values of the arguments are available. -/
theorem get?_argumentState (name : String) :
    (argumentState arguments).available.get? ("model", name) = arguments.get? name := by
  have hinjective : Function.Injective fun name : String => ("model", name) :=
    fun _ _ h => (Prod.mk.inj h).2
  refine (Dict.get?_update_map .empty arguments hinjective name).trans ?_
  rw [Dict.get?_empty, Option.or_none]

/-- Gathering stops at the first required slot without a value, and collects the values
otherwise. -/
theorem gather_arguments_eq (slots : List InputSlotSpec) (gathered : Config) :
    gatherSlots (argumentEdges toolNode arguments) (argumentState arguments) toolNode slots
      gathered =
      if ∀ slot ∈ slots, slot.required = true → (argumentValue toolNode arguments slot.name).isSome
      then .ready (collectInputs (argumentValue toolNode arguments) slots gathered)
      else .blocked := by
  induction slots generalizing gathered with
  | nil => simp [gatherSlots, collectInputs]
  | cons slot slots ih =>
      rw [gatherSlots, get?_argumentEdges, collectInputs]
      cases hargument : arguments.get? slot.name with
      | some value =>
          have hvalue : argumentValue toolNode arguments slot.name = some value := by
            rw [argumentValue, hargument]
            rfl
          simp only [Option.map_some, get?_argumentState, hargument, hvalue, ih,
            List.forall_mem_cons, Option.isSome_some, implies_true, true_and]
      | none =>
          have hvalue : argumentValue toolNode arguments slot.name =
              toolNode.inputValues.get? slot.name := by
            rw [argumentValue, hargument]
            rfl
          simp only [Option.map_none, hvalue, List.forall_mem_cons]
          cases hliteral : toolNode.inputValues.get? slot.name with
          | some value => simp only [ih, Option.isSome_some, implies_true, true_and]
          | none =>
              by_cases hrequired : slot.required = true
              · simp [hrequired]
              · simp [hrequired, ih]

end

/-! ## What the body is handed -/

/-- `runTool` around a given body. -/
def runToolBody (python : Python) (toolNode : NodeSpec) (callArguments : Json)
    (body : Act NodeResult) : Act (TraceRecord × String) := do
  let startedAt ← Act.perform .utcnowIso
  let runId ← Act.perform .uuid4
  let outcome ← Act.catchException
    (do
      let toolResult ← body
      pure (Except.ok toolResult))
    fun errorText => pure (.error errorText)
  let finishedAt ← Act.perform .utcnowIso
  Act.ofExcept (toolReport python toolNode callArguments runId startedAt finishedAt outcome)

section

variable (python : Python) (registry : NodeRegistry Body) (resources : Resources)
  (definition : NodeDefinition Body) (toolNode : NodeSpec) (callArguments : Json)

/-- Whatever bodies do, the tool's body is executed with these inputs. -/
def HandsInputs (inputs : Config) : Prop :=
  ∀ recurse : Body → ExecutionContext → Act NodeResult,
    runTool python registry recurse resources toolNode callArguments =
      runToolBody python toolNode callArguments
        (recurse definition.execute ⟨toolNode, .dict inputs, resources⟩)

/-- Whatever bodies do, the tool's body is not executed, and the model gets this error. -/
def RefusesCall (message : String) : Prop :=
  ∀ recurse : Body → ExecutionContext → Act NodeResult,
    runTool python registry recurse resources toolNode callArguments =
      runToolBody python toolNode callArguments (Act.raise message)

/-- The body of the tool gets the inputs that `gather_inputs` would give it, or is not executed if
`gather_inputs` would block it. -/
def BindsLikeScheduler (arguments : Config) : Prop :=
  (∀ gathered, gatherArguments definition toolNode arguments = .ready gathered →
    ∃ inputs, HandsInputs python registry resources definition toolNode callArguments inputs ∧
      ∀ name, inputs.get? name = gathered.get? name) ∧
  (gatherArguments definition toolNode arguments = .blocked →
    ∃ message, RefusesCall python registry resources toolNode callArguments message)

end

section

variable {python : Python} {registry : NodeRegistry Body} {resources : Resources}
  {definition : NodeDefinition Body} {toolNode : NodeSpec} {callArguments : Json}
  {arguments : Config}

/-- The body is executed with the arguments of the model. -/
theorem hands_arguments (hdefinition : registry.get toolNode.type = some definition)
    (harguments : callArguments.obj? = some arguments) :
    HandsInputs python registry resources definition toolNode callArguments arguments := by
  intro recurse
  have hinputs : Inputs.ofJson callArguments = .dict arguments := by
    rw [Inputs.ofJson, harguments]
  rw [runTool, hdefinition, hinputs]
  rfl

/-- What a tool reports once its body has come to its end in `ended`. -/
theorem run_tool_body_ended (harguments : callArguments.obj? = some arguments)
    {body : Act NodeResult} {ended : Except String NodeResult}
    (hbody : ∀ events outcome, (Act.catchException
      (do
        let toolResult ← body
        pure (Except.ok toolResult))
      fun errorText => pure (.error errorText)).Runs events outcome →
        outcome = .ok (ended.mapError .ok))
    {events : History} {outcome : Except Raised (TraceRecord × String)}
    (h : (runToolBody python toolNode callArguments body).Runs events outcome) :
    ∃ made, outcome = .ok made ∧ (∀ nodeResult, ended = .ok nodeResult →
      made.1.outputs = nodeResult.outputs ∧ made.1.error = none) ∧
      ∀ errorText, ended = .error errorText → made.1.error = some errorText := by
  obtain ⟨startedAt, _, rfl, hid⟩ := runs_perform_bind_iff.mp h
  obtain ⟨runId, _, rfl, hbegun⟩ := runs_perform_bind_iff.mp hid
  rcases runs_bind_iff.mp hbegun with ⟨_, hraised, -⟩ | ⟨_, _, _, rfl, hended, hrest⟩
  · cases hbody _ _ hraised
  cases hbody _ _ hended
  obtain ⟨finishedAt, _, rfl, hreport⟩ := runs_perform_bind_iff.mp hrest
  obtain ⟨rfl, rfl⟩ := Act.runs_ofExcept_iff.mp hreport
  have hinputs : recordInputs callArguments = .ok arguments := by
    rw [recordInputs, harguments]
  cases ended with
  | error errorText =>
      rw [Except.mapError, toolReport, hinputs]
      refine ⟨_, rfl, fun nodeResult hcontra => ?_, fun text htext => ?_⟩
      · cases hcontra
      · cases htext
        rfl
  | ok toolResult =>
      rw [Except.mapError, toolReport, hinputs]
      refine ⟨_, rfl, fun nodeResult hresult => ?_, fun text hcontra => ?_⟩
      · cases hresult
        exact ⟨rfl, rfl⟩
      · cases hcontra

/-- A body that returns is reported with its outputs. -/
theorem run_tool_body_returned (harguments : callArguments.obj? = some arguments)
    {nodeResult : NodeResult} {events : History} {outcome : Except Raised (TraceRecord × String)}
    (h : (runToolBody python toolNode callArguments (pure nodeResult)).Runs events outcome) :
    ∃ made, outcome = .ok made ∧ made.1.outputs = nodeResult.outputs ∧ made.1.error = none := by
  obtain ⟨made, houtcome, hmade, _⟩ := @run_tool_body_ended _ _ _ _ harguments _ (.ok nodeResult)
    (fun _ _ hbody => (runs_pure_iff.mp hbody).2) _ _ h
  exact ⟨made, houtcome, hmade nodeResult rfl⟩

/-- A body that raises is reported with its error. -/
theorem run_tool_body_raised (harguments : callArguments.obj? = some arguments)
    {message : String} {events : History} {outcome : Except Raised (TraceRecord × String)}
    (h : (runToolBody python toolNode callArguments (Act.raise message)).Runs events outcome) :
    ∃ made, outcome = .ok made ∧ made.1.error = some message := by
  obtain ⟨made, houtcome, _, hmade⟩ := @run_tool_body_ended _ _ _ _ harguments _ (.error message)
    (fun _ _ hbody => (runs_pure_iff.mp hbody).2) _ _ h
  exact ⟨made, houtcome, hmade message rfl⟩

/-- A body that returns its inputs. -/
def echoInputs (_ : Body) (ctx : ExecutionContext) : Act NodeResult :=
  match ctx.inputs with
  | .dict inputs => pure { outputs := inputs }
  | .other _ => pure {}

/-- The body is executed with nothing but the arguments of the model. -/
theorem hands_inputs_iff (hdefinition : registry.get toolNode.type = some definition)
    (harguments : callArguments.obj? = some arguments) {inputs : Config} :
    HandsInputs python registry resources definition toolNode callArguments inputs ↔
      inputs = arguments := by
  constructor
  · intro h
    have hsame := (h echoInputs).symm.trans (hands_arguments hdefinition harguments echoInputs)
    obtain ⟨events, outcome, hrun⟩ := exists_runs
      (runToolBody python toolNode callArguments (pure { outputs := inputs }))
    obtain ⟨made, rfl, houtputs, _⟩ := run_tool_body_returned harguments hrun
    obtain ⟨made', hmade, houtputs', _⟩ := run_tool_body_returned harguments (hsame ▸ hrun)
    cases hmade
    exact houtputs.symm.trans houtputs'
  · rintro rfl
    exact hands_arguments hdefinition harguments

/-- The call is never refused. -/
theorem not_refuses (hdefinition : registry.get toolNode.type = some definition)
    (harguments : callArguments.obj? = some arguments) (message : String) :
    ¬ RefusesCall python registry resources toolNode callArguments message := by
  intro h
  have hsame := (h echoInputs).symm.trans (hands_arguments hdefinition harguments echoInputs)
  obtain ⟨events, outcome, hrun⟩ := exists_runs
    (runToolBody python toolNode callArguments (Act.raise message))
  obtain ⟨made, rfl, herror⟩ := run_tool_body_raised harguments hrun
  obtain ⟨made', hmade, _, hnone⟩ := run_tool_body_returned harguments (hsame ▸ hrun)
  cases hmade
  cases herror.symm.trans hnone

/-- Gathering never waits for an argument. -/
theorem gather_arguments_cases :
    (∃ slot ∈ gatheredSlots definition toolNode, slot.required = true ∧
      argumentValue toolNode arguments slot.name = none) ∧
      gatherArguments definition toolNode arguments = .blocked ∨
    (∀ slot ∈ gatheredSlots definition toolNode, slot.required = true →
      (argumentValue toolNode arguments slot.name).isSome = true) ∧
      gatherArguments definition toolNode arguments =
        .ready (collectInputs (argumentValue toolNode arguments)
          (gatheredSlots definition toolNode) .empty) := by
  by_cases hvalues : ∀ slot ∈ gatheredSlots definition toolNode, slot.required = true →
      (argumentValue toolNode arguments slot.name).isSome = true
  · refine .inr ⟨hvalues, ?_⟩
    rw [gatherArguments, gather_arguments_eq, if_pos hvalues]
  · refine .inl ⟨?_, ?_⟩
    · simp only [not_forall] at hvalues
      obtain ⟨slot, hslot, hrequired, hmissing⟩ := hvalues
      exact ⟨slot, hslot, hrequired, by simpa using hmissing⟩
    · rw [gatherArguments, gather_arguments_eq, if_neg hvalues]

/-- The collected values are the arguments exactly if there are no others, and none is missing
that a literal would stand in for. -/
theorem collected_eq_iff {slots : List InputSlotSpec} :
    (∀ name, arguments.get? name =
      (collectInputs (argumentValue toolNode arguments) slots .empty).get? name) ↔
      (∀ name ∈ arguments.keys, name ∈ slots.map InputSlotSpec.name) ∧
      ∀ slot ∈ slots, (toolNode.inputValues.get? slot.name).isSome = true →
        slot.name ∈ arguments.keys := by
  simp only [get?_collectInputs, Dict.get?_empty, Option.or_none]
  -- An argument without a slot is dropped, and a literal fills a slot without an argument.
  constructor
  · intro h
    constructor
    · intro name hname
      by_contra hslot
      have hnone := h name
      rw [if_neg hslot] at hnone
      exact Dict.get?_eq_none_iff.mp hnone hname
    · intro slot hslot hliteral
      by_contra hmissing
      have hvalue := h slot.name
      rw [if_pos (List.mem_map_of_mem hslot), argumentValue, Dict.get?_eq_none_iff.mpr hmissing,
        Option.none_or] at hvalue
      rw [← hvalue] at hliteral
      cases hliteral
  · rintro ⟨hnames, hliterals⟩ name
    by_cases hslot : name ∈ slots.map InputSlotSpec.name
    · rw [if_pos hslot, argumentValue]
      cases hargument : arguments.get? name with
      | some value => rfl
      | none =>
          obtain ⟨slot, hmem, rfl⟩ := List.mem_map.mp hslot
          have hliteral : ¬ (toolNode.inputValues.get? slot.name).isSome = true := fun hsome =>
            Dict.get?_eq_none_iff.mp hargument (hliterals slot hmem hsome)
          rw [Option.not_isSome_iff_eq_none.mp hliteral]
          rfl
    · rw [if_neg hslot, Dict.get?_eq_none_iff]
      exact fun hname => hslot (hnames name hname)

end

/-! ## When a tool is bound like a scheduled node -/

/-- A tool gets the inputs that the scheduler would give it exactly if the arguments name input
slots only, and every slot that is required or has a literal. -/
theorem tool_inputs_bound_iff (python : Python) {registry : NodeRegistry Body}
    (resources : Resources) {definition : NodeDefinition Body} {toolNode : NodeSpec}
    (hdefinition : registry.get toolNode.type = some definition) {callArguments : Json}
    {arguments : Config} (harguments : callArguments.obj? = some arguments) :
    BindsLikeScheduler python registry resources definition toolNode callArguments arguments ↔
      (∀ name ∈ arguments.keys,
        name ∈ (gatheredSlots definition toolNode).map InputSlotSpec.name) ∧
      ∀ slot ∈ gatheredSlots definition toolNode, slot.required = true ∨
        (toolNode.inputValues.get? slot.name).isSome = true → slot.name ∈ arguments.keys := by
  unfold BindsLikeScheduler
  simp only [hands_inputs_iff hdefinition harguments, exists_eq_left]
  -- Where the scheduler would block, the tool runs all the same.
  rcases @gather_arguments_cases _ definition toolNode arguments with
    ⟨⟨slot, hslot, hrequired, hmissing⟩, hblocked⟩ | ⟨hvalues, hready⟩
  · rw [hblocked]
    refine iff_of_false (fun h => ?_) (fun h => ?_)
    · obtain ⟨message, hrefuses⟩ := h.2 rfl
      exact not_refuses hdefinition harguments message hrefuses
    · have hnone : arguments.get? slot.name = none := (Option.or_eq_none_iff.mp hmissing).1
      exact Dict.get?_eq_none_iff.mp hnone (h.2 slot hslot (.inl hrequired))
  · rw [hready]
    have hcollected : ((∀ gathered, Gathered.ready (collectInputs (argumentValue toolNode arguments)
          (gatheredSlots definition toolNode) .empty) = .ready gathered →
            ∀ name, arguments.get? name = gathered.get? name) ∧
        (Gathered.ready (collectInputs (argumentValue toolNode arguments)
          (gatheredSlots definition toolNode) .empty) = .blocked →
            ∃ message, RefusesCall python registry resources toolNode callArguments message)) ↔
        ∀ name, arguments.get? name = (collectInputs (argumentValue toolNode arguments)
          (gatheredSlots definition toolNode) .empty).get? name := by
      constructor
      · exact fun h => h.1 _ rfl
      · refine fun h => ⟨fun gathered hgathered => ?_, fun hcontra => ?_⟩
        · cases hgathered
          exact h
        · cases hcontra
    rw [hcollected, collected_eq_iff]
    refine and_congr_right fun _ => ⟨fun h slot hslot hneeded => ?_, fun h slot hslot hliteral =>
      h slot hslot (.inr hliteral)⟩
    rcases hneeded with hrequired | hliteral
    · rcases Option.isSome_iff_exists.mp (hvalues slot hslot hrequired) with ⟨value, hvalue⟩
      rcases Option.or_eq_some_iff.mp hvalue with hargument | ⟨_, hliteral⟩
      · exact Dict.mem_keys_iff.mpr ⟨value, hargument⟩
      · exact h slot hslot (Option.isSome_iff_exists.mpr ⟨value, hliteral⟩)
    · exact h slot hslot hliteral

/-! ### A tool with a literal -/

/-- A tool that shouts, by default a greeting. -/
def greetingTool : NodeSpec where
  id := "upper"
  type := "uppercase_text"
  inputValues := .ofList [("text", .str "hello")]

/-- An agent with this tool. -/
def greetingGraph : GraphSpec where
  version := "1.0"
  nodes := [
    { id := "agent", type := "agent", inputValues := .ofList [("task", .str "shout hello")] },
    { id := "model", type := "model"
      config := .ofList [("connection", .str "my-anthropic"), ("model", .str "claude")] },
    { id := "tools", type := "tool_group" }, greetingTool]
  edges := [.subNode ⟨"model", "agent", "model"⟩, .subNode ⟨"tools", "agent", "tools"⟩,
    .subNode ⟨"upper", "tools", "tools"⟩]
  nodupIds := show ["agent", "model", "tools", "upper"].Nodup by decide

set_option maxRecDepth 20000 in
/-- With a text in the arguments, the tool is bound like a scheduled node. -/
theorem given_text_bound : BindsLikeScheduler plainPython anthropicEnvironment.registry {}
    (uppercaseTextDefinition plainPython) greetingTool (.obj [("text", .str "bye")])
    (.ofList [("text", .str "bye")]) :=
  (tool_inputs_bound_iff plainPython {} (show anthropicEnvironment.registry.get
    greetingTool.type = some (uppercaseTextDefinition plainPython) from rfl) rfl).mpr (by decide)

set_option maxRecDepth 20000 in
/-- Without one, the scheduler would take the literal, and the agent does not. -/
theorem literal_not_bound :
    validateGraph greetingGraph anthropicEnvironment.registry
      [anthropicProfile "my-anthropic" none] none .empty = .ok () ∧
    anthropicEnvironment.registry.get greetingTool.type =
      some (uppercaseTextDefinition plainPython) ∧
    gatherArguments (uppercaseTextDefinition plainPython) greetingTool .empty =
      .ready (.ofList [("text", .str "hello")]) ∧
    ¬ BindsLikeScheduler plainPython anthropicEnvironment.registry {}
      (uppercaseTextDefinition plainPython) greetingTool (.obj []) .empty := by
  have hdefinition : anthropicEnvironment.registry.get greetingTool.type =
      some (uppercaseTextDefinition plainPython) := rfl
  have hgathered : gatherArguments (uppercaseTextDefinition plainPython) greetingTool .empty =
      .ready (.ofList [("text", .str "hello")]) := rfl
  refine ⟨rfl, hdefinition, hgathered, fun h => ?_⟩
  obtain ⟨inputs, hhands, hinputs⟩ := h.1 _ hgathered
  obtain rfl := (hands_inputs_iff hdefinition rfl).mp hhands
  cases hinputs "text"

end AgentGraphStudio
