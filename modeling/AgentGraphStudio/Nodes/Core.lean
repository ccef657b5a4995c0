import AgentGraphStudio.Execution.Types

/-!
# Node bodies without effects

The bodies of `backend/nodes` that only read their configuration and inputs. `json.dumps`,
`str.upper` and the like are those of `Python`. A configuration model is read by the `parse`
function of its structure; a failed validation raises.
-/

namespace AgentGraphStudio

/-- The value of a validated configuration, or the `ValidationError`. -/
def validated {α : Type} (result : Except String α) : Except Raised α :=
  result.mapError Raised.exception

theorem validated_eq_ok {α : Type} {result : Except String α} {value : α}
    (h : validated result = .ok value) : result = .ok value := by
  cases result <;> cases h
  rfl

/-- A result with one output. -/
def NodeResult.single (slot : String) (value : Json) : NodeResult :=
  { outputs := .ofList [(slot, value)] }

/-- The text of an input, for the string methods that the bodies call on it. -/
def textInput (inputs : Inputs) (name : String) : Except Raised String := do
  match ← inputs.get name with
  | .str text => .ok text
  | _ => .error (.exception "object is not a str")

/-! ## `text_input`, `text_output` and `uppercase_text` -/

/-- `TextInputConfig`. -/
structure TextInputConfig where
  value : String
  label : Option String

def TextInputConfig.parse (config : Config) : Except String TextInputConfig := do
  let value ← config.required "value" Json.str?
  let label ← config.optionalStr "label"
  pure { value, label }

def executeTextInput (node : NodeSpec) : Except Raised NodeResult := do
  let config ← validated (TextInputConfig.parse node.config)
  pure (.single "text" (.str config.value))

def executeTextOutput (node : NodeSpec) : Except Raised NodeResult := do
  let _ ← validated (node.config.optionalStr "label")
  pure {}

def executeUppercaseText (python : Python) (inputs : Inputs) : Except Raised NodeResult := do
  let text ← textInput inputs "text"
  pure (.single "text" (.str (python.upper text)))

/-! ## `conditional_branch` -/

/-- Split `name('argument')`. The argument may contain anything but a newline. -/
def parseCondition (python : Python) (condition : String) : Option (String × String) :=
  let name := condition.toList.takeWhile python.isWordChar
  match name, condition.toList.drop name.length with
  | [], _ => none
  | _, '(' :: '\'' :: rest =>
    match rest.reverse with
    | ')' :: '\'' :: argument =>
      if '\n' ∈ argument then none
      else some (String.ofList name, String.ofList argument.reverse)
    | _ => none
  | _, _ => none

/-- Does the condition hold of the value? -/
def evaluateCondition (python : Python) (condition value : String) : Except Raised Bool :=
  match parseCondition python (python.strip condition) with
  | none =>
    let shown := python.repr (.str condition)
    .error (.exception s!"Unparseable condition expression: {shown}")
  | some (name, argument) =>
    if name = "contains" then
      .ok (value.toList.tails.any fun rest => argument.toList.isPrefixOf rest)
    else if name = "equals" then .ok (value = argument)
    else
      let shown := python.repr (.str name)
      .error (.exception s!"Unknown condition function: {shown}")

def executeConditionalBranch (python : Python) (node : NodeSpec) (inputs : Inputs) :
    Except Raised NodeResult := do
  let condition ← validated (node.config.required "condition" Json.str?)
  let value ← textInput inputs "value"
  let fired := if ← evaluateCondition python condition value then "true_branch" else "false_branch"
  pure (.single fired (.str value))

/-! ## `fan_out` and `merge` -/

/-- `name_1`, ..., `name_count`. -/
def numbered (name : String) (count : Int) : List String :=
  (List.range count.toNat).map fun i => s!"{name}_{i + 1}"

def executeFanOut (node : NodeSpec) (inputs : Inputs) : Except Raised NodeResult := do
  let workerCount ← validated (node.config.positive "worker_count" 2)
  let value ← inputs.get "value"
  pure { outputs := .ofList ((numbered "branch" workerCount).map fun name => (name, value)) }

def executeMerge (python : Python) (node : NodeSpec) (inputs : Inputs) :
    Except Raised NodeResult := do
  let expectedInputCount ← validated (node.config.positive "expected_input_count" 2)
  let values ← (numbered "input" expectedInputCount).mapM inputs.get
  pure (.single "result" (.str (python.jsonDumps (.arr values))))

/-! ## Trigger adapters -/

def executeGenericAdapter (python : Python) (inputs : Inputs) : Except Raised NodeResult := do
  let payload ← inputs.get "payload"
  pure (.single "payload" (.str (python.jsonDumps payload)))

/-- `value[key]` for a value of a payload. -/
def subscript (python : Python) (value : Json) (key : String) : Except Raised Json :=
  match value.obj? with
  | none => .error (.exception "object is not subscriptable")
  | some fields =>
    match fields.get? key with
    | some item => .ok item
    | none =>
      let shown := python.repr (.str key)
      .error (.exception s!"telegram_adapter payload missing expected field: {shown}")

def executeTelegramAdapter (python : Python) (inputs : Inputs) : Except Raised NodeResult := do
  let payload ← inputs.get "payload"
  match (payload.obj?.bind fun fields => fields.get? "message").bind Json.obj? with
  | none =>
    let shown := python.repr payload
    .error (.exception ("telegram_adapter expected a Telegram 'Update' payload with a " ++
      s!"'message' field, got: {shown}"))
  | some fields =>
    let message := Json.obj fields.entries
    let text ← subscript python message "text"
    let senderId ← subscript python (← subscript python message "from") "id"
    let chatId ← subscript python (← subscript python message "chat") "id"
    pure { outputs := .ofList [("message_text", .str (python.str text)),
      ("sender_id", .str (python.str senderId)), ("chat_id", .str (python.str chatId))] }

/-! ## Sub-nodes that only carry settings -/

/-- The bodies of `model`, `memory` and `tool_group`. -/
def executeSubNode (typeName : String) : Except Raised NodeResult :=
  .error (.exception
    (s!"'{typeName}' is a sub-node type -- it should never be executed directly by " ++
    "the engine; this indicates a scheduling bug, not a graph authoring error"))

end AgentGraphStudio
