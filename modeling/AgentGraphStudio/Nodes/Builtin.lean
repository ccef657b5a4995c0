import AgentGraphStudio.Nodes.Execute

/-!
# The registered node types

The `@register_node` declarations of `backend/nodes`, in the order in which the package
imports them, and the definition that is generated for a tool of an `mcp_server` connection.
`mcp_call` resolves its slots from the tools its server lists; `listedTools` gives them.
-/

namespace AgentGraphStudio

/-! ## Parts of definitions -/

/-- A model without fields accepts every configuration. -/
def emptyConfig (_ : Config) : Except String Unit := .ok ()

/-- A configuration is valid when its fields can be read. -/
def readable {α : Type} (parse : Config → Except String α) (config : Config) :
    Except String Unit :=
  (parse config).map fun _ => ()

/-- Required text inputs. -/
def textInputs (names : List String) : List InputSlotSpec :=
  names.map fun name => ⟨name, TEXT, true⟩

/-- Text outputs. -/
def textOutputs (names : List String) : List OutputSlotSpec := names.map fun name => ⟨name, TEXT⟩

/-- A type whose body only reads its node and its inputs. -/
def plainDefinition (typeName : String) (inputs outputs : List String)
    (configModel : Config → Except String Unit)
    (run : NodeSpec → Inputs → Except Raised NodeResult) : NodeDefinition Body where
  typeName
  inputs := textInputs inputs
  outputs := textOutputs outputs
  configModel
  execute := .plain run

/-- The slots that a valid count gives. -/
def countedSlots (field : String) (slots : Int → List InputSlotSpec × List OutputSlotSpec) :
    ResolveSlots := fun node =>
  match node.config.positive field 2 with
  | .ok count => some (slots count)
  | .error _ => none

/-- The configuration of a Telegram node. -/
def parseTelegramConfig (methods : List TelegramMethodSpec) (config : Config) :
    Except String Unit := do
  let _ ← config.required "bot_token_connection" Json.str?
  let action ← config.required "action" Json.str?
  if action ∈ methods.map TelegramMethodSpec.action then .ok ()
  else .error "action: Input should be a known literal"

/-- The slots of an `mcp_call` node (`_resolve_mcp_slots`). -/
def mcpSlots (listedTools : String → List String → Option (List McpToolInfo)) : ResolveSlots :=
  fun node =>
    match McpCallConfig.parse node.config with
    | .error _ => none
    | .ok config =>
      ((listedTools config.command config.args).bind (findTool · config.toolName)).map fun tool =>
        (tool.paramNames.map fun name => ⟨name, TEXT, name ∈ tool.requiredNames⟩,
          textOutputs ["result"])

/-! ## The definitions -/

section

variable (python : Python) (listedTools : String → List String → Option (List McpToolInfo))

def agentDefinition : NodeDefinition Body where
  typeName := "agent"
  inputs := textInputs ["task"]
  outputs := textOutputs ["answer"]
  configModel := readable fun config => config.positive "max_iterations" 10
  execute := .agent
  subNodeSlots := some (.ofList [("model", ⟨.one, some "model"⟩),
    ("memory", ⟨.zeroOrOne, some "memory"⟩), ("tools", ⟨.zeroOrOne, some "tool_group"⟩)])

def codeDefinition : NodeDefinition Body where
  typeName := "code"
  inputs := []
  outputs := []
  configModel := readable (parseCodeConfig python)
  execute := .code
  resolveSlots := some (codeSlots python)

def conditionalBranchDefinition : NodeDefinition Body :=
  plainDefinition "conditional_branch" ["value"] ["true_branch", "false_branch"]
    (readable fun config => config.required "condition" Json.str?)
    (executeConditionalBranch python)

def fanOutDefinition : NodeDefinition Body where
  typeName := "fan_out"
  inputs := []
  outputs := []
  configModel := readable fun config => config.positive "worker_count" 2
  execute := .plain executeFanOut
  resolveSlots := some (countedSlots "worker_count" fun count =>
    (textInputs ["value"], textOutputs (numbered "branch" count)))

def genericAdapterDefinition : NodeDefinition Body :=
  { plainDefinition "generic_adapter" ["payload"] ["payload"] emptyConfig
      fun _ => executeGenericAdapter python with
    subNodeRole := some "trigger_adapter" }

def ingestDocumentDefinition : NodeDefinition Body where
  typeName := "ingest_document"
  inputs := textInputs ["text"]
  outputs := textOutputs ["chunks_stored"]
  configModel := readable IngestDocumentConfig.parse
  execute := .ingestDocument

def llmCallDefinition : NodeDefinition Body where
  typeName := "llm_call"
  inputs := textInputs ["prompt"]
  outputs := textOutputs ["response"]
  configModel := readable LLMCallConfig.parse
  execute := .llmCall

def loopDefinition : NodeDefinition Body where
  typeName := "loop"
  inputs := textInputs ["value"]
  outputs := textOutputs ["value"]
  configModel := readable LoopConfig.parse
  execute := .loop

def mcpCallDefinition : NodeDefinition Body where
  typeName := "mcp_call"
  inputs := []
  outputs := []
  configModel := readable McpCallConfig.parse
  execute := .mcpCall
  resolveSlots := some (mcpSlots listedTools)

def memoryDefinition : NodeDefinition Body :=
  { plainDefinition "memory" [] [] (readable parseMemoryConfig)
      fun _ _ => executeSubNode "memory" with
    subNodeRole := some "memory" }

def mergeDefinition : NodeDefinition Body where
  typeName := "merge"
  inputs := []
  outputs := []
  configModel := readable fun config => config.positive "expected_input_count" 2
  execute := .plain (executeMerge python)
  resolveSlots := some (countedSlots "expected_input_count" fun count =>
    (textInputs (numbered "input" count), textOutputs ["result"]))

def modelDefinition : NodeDefinition Body :=
  { plainDefinition "model" [] [] (readable LLMCallConfig.parse)
      fun _ _ => executeSubNode "model" with
    subNodeRole := some "model" }

def scheduleTriggerDefinition : NodeDefinition Body where
  typeName := "schedule_trigger"
  inputs := []
  outputs := textOutputs ["fired_at"]
  configModel := readable fun config => config.required "cron" Json.str?
  execute := .scheduleTrigger

def telegramAdapterDefinition : NodeDefinition Body :=
  { plainDefinition "telegram_adapter" ["payload"] ["message_text", "sender_id", "chat_id"]
      (readable fun config => config.required "bot_token_connection" Json.str?)
      fun _ => executeTelegramAdapter python with
    subNodeRole := some "trigger_adapter" }

/-- The two Telegram node types differ in their methods. -/
def telegramDefinition (typeName : String) (methods : List TelegramMethodSpec) :
    NodeDefinition Body where
  typeName
  inputs := []
  outputs := []
  configModel := parseTelegramConfig methods
  execute := .telegram methods
  resolveSlots := some (telegramSlots methods)

def telegramChatManagementDefinition : NodeDefinition Body :=
  telegramDefinition "telegram_chat_management" CHAT_MANAGEMENT_METHODS

def telegramMessagingDefinition : NodeDefinition Body :=
  telegramDefinition "telegram_messaging" MESSAGING_METHODS

def textInputDefinition : NodeDefinition Body :=
  plainDefinition "text_input" [] ["text"] (readable TextInputConfig.parse)
    fun node _ => executeTextInput node

def textOutputDefinition : NodeDefinition Body :=
  { plainDefinition "text_output" ["text"] [] (readable fun config => config.optionalStr "label")
      fun node _ => executeTextOutput node with
    resultSlot := some "text" }

def toolGroupDefinition : NodeDefinition Body :=
  { plainDefinition "tool_group" [] [] emptyConfig fun _ _ => executeSubNode "tool_group" with
    subNodeSlots := some (.ofList [("tools", ⟨.many, none⟩)])
    subNodeRole := some "tool_group" }

def uppercaseTextDefinition : NodeDefinition Body :=
  plainDefinition "uppercase_text" ["text"] ["text"] emptyConfig
    fun _ => executeUppercaseText python

def vectorSearchDefinition : NodeDefinition Body where
  typeName := "vector_search"
  inputs := textInputs ["query"]
  outputs := textOutputs ["results"]
  configModel := readable VectorSearchConfig.parse
  execute := .vectorSearch

def webhookTriggerDefinition : NodeDefinition Body where
  typeName := "webhook_trigger"
  inputs := []
  outputs := []
  configModel := emptyConfig
  execute := .webhookTrigger
  subNodeSlots := some (.ofList [("trigger_adapter", ⟨.one, some "trigger_adapter"⟩)])
  resolveSlotsFromSubNode := some "trigger_adapter"

/-- The built-in types, in the order of their registration. -/
def builtinDefinitions : List (NodeDefinition Body) :=
  [agentDefinition, codeDefinition python, conditionalBranchDefinition python, fanOutDefinition,
    genericAdapterDefinition python, ingestDocumentDefinition, llmCallDefinition, loopDefinition,
    mcpCallDefinition listedTools, memoryDefinition, mergeDefinition python, modelDefinition,
    scheduleTriggerDefinition, telegramAdapterDefinition python, telegramChatManagementDefinition,
    telegramMessagingDefinition, textInputDefinition, textOutputDefinition, toolGroupDefinition,
    uppercaseTextDefinition python, vectorSearchDefinition, webhookTriggerDefinition]

end

/-- The type generated for one tool of a saved connection. -/
def generatedDefinition (binding : GeneratedBinding) : NodeDefinition Body where
  typeName := typeNameFor binding.connectionName binding.tool.name binding.ownerUserId
  inputs := binding.tool.paramNames.map fun name => ⟨name, TEXT, name ∈ binding.tool.requiredNames⟩
  outputs := textOutputs ["result"]
  configModel := emptyConfig
  execute := .generated binding

/-- The registry of a process: the built-in types, then the generated ones. -/
def processRegistry (python : Python)
    (listedTools : String → List String → Option (List McpToolInfo))
    (bindings : List GeneratedBinding) : NodeRegistry Body :=
  .ofList (builtinDefinitions python listedTools ++ bindings.map generatedDefinition)

/-- The library functions on plain texts, for evaluating graphs. -/
def plainPython : Python where
  jsonLoads _ := .error "Expecting value: line 1 column 1 (char 0)"
  jsonDumps
    | .str text => "\"" ++ text ++ "\""
    | _ => "null"
  repr
    | .str text => reprStr text
    | _ => "None"
  str
    | .str text => text
    | _ => "None"
  int text := match text.toInt? with
    | some number => .ok (.int number)
    | none => .error s!"invalid literal for int() with base 10: {reprStr text}"
  float text := .error s!"could not convert string to float: {reprStr text}"
  upper text := text.map Char.toUpper
  lower text := text.map Char.toLower
  strip text := text.trimAscii.toString
  isWordChar c := c.isAlphanum || c = '_'
  astParse _ := .ok []

/-- A registered type is a built-in or a generated one, and has the name under which it is
registered. -/
theorem process_registry_cases {python : Python}
    {listedTools : String → List String → Option (List McpToolInfo)}
    {bindings : List GeneratedBinding} {name : String} {definition : NodeDefinition Body}
    (h : (processRegistry python listedTools bindings).get name = some definition) :
    definition.typeName = name ∧ (definition ∈ builtinDefinitions python listedTools ∨
      ∃ binding ∈ bindings, generatedDefinition binding = definition) := by
  rw [processRegistry, NodeRegistry.get_ofList] at h
  have htype : definition.typeName = name ∧ definition.ResultSlotDeclared := by
    simpa using List.find?_some h
  refine ⟨htype.1, ?_⟩
  exact (List.mem_append.mp (List.mem_of_find?_eq_some h)).imp_right List.mem_map.mp

/-- The bodies of an agent, of a webhook trigger and of a `code` node belong to one type each. -/
theorem builtin_bodies {python : Python}
    {listedTools : String → List String → Option (List McpToolInfo)} :
    ∀ definition ∈ builtinDefinitions python listedTools,
      (definition.execute = .agent → definition = agentDefinition) ∧
      (definition.execute = .webhookTrigger → definition = webhookTriggerDefinition) ∧
      (definition.execute = .code → definition = codeDefinition python) := by
  intro definition hmem
  simp only [builtinDefinitions, List.mem_cons, List.not_mem_nil, or_false] at hmem
  rcases hmem with rfl | rfl | rfl | rfl | rfl | rfl | rfl | rfl | rfl | rfl | rfl | rfl |
    rfl | rfl | rfl | rfl | rfl | rfl | rfl | rfl | rfl | rfl
  all_goals
    refine ⟨fun h => ?_, fun h => ?_, fun h => ?_⟩
    all_goals first | rfl | cases h

/-- No generated type replaces `text_input`. -/
theorem process_registry_text_input (python : Python)
    (listedTools : String → List String → Option (List McpToolInfo))
    (bindings : List GeneratedBinding) :
    (processRegistry python listedTools bindings).get "text_input" = some textInputDefinition := by
  rw [processRegistry, NodeRegistry.get_ofList, List.find?_append]
  rfl

end AgentGraphStudio
