import AgentGraphStudio.Execution.Operations
import AgentGraphStudio.Lib.Codec
import AgentGraphStudio.Nodes.SelfCorrection
import AgentGraphStudio.Schema.JsonDumps

/-!
# The dialects of the model providers

`complete_with_tools` of the modules `backend/connections/anthropic_connection.py`,
`openai_connection.py`, `gemini_connection.py` and `ollama_connection.py`: each translates an
agent's conversation to the messages of its provider, and the provider's answer back. A provider is
no part of the repository: how it reads a request is a parameter, of which `AnthropicReads`,
`OpenaiReads`, `GeminiReads` and `OllamaReads` state what the documentation of its interface says.
`read_anthropic_request`, `read_openai_request` and `read_gemini_request` say that these three read
what is meant, and `read_ollama_request_iff` when Ollama does.
-/

namespace AgentGraphStudio

open JsonText

/-! ## What is said -/

/-- A tool call as a provider has made it. Only Gemini signs its calls. -/
structure SpokenCall where
  id : String
  name : String
  arguments : Json
  signature : Option Json := none
  deriving DecidableEq

/-- What is said in a conversation. -/
inductive Utterance where
  | user (text : String)
  | assistant (text : String)
  | calls (text : String) (calls : List SpokenCall)
  | result (id text : String)
  deriving DecidableEq

/-- A tool as it is offered to a provider. -/
structure OfferedTool where
  name : String
  description : String
  parameters : Json
  deriving DecidableEq

/-- What a provider is asked. -/
structure ChatRequest where
  model : String
  system : Option String
  messages : List Utterance
  tools : List OfferedTool
  maxTokens : Int
  deriving DecidableEq

/-- The schema of a tool's arguments: a text under each name. -/
def ToolDefinition.parameters (tool : ToolDefinition) : Json :=
  let properties : Dict String Json :=
    .ofList (tool.properties.map fun name => (name, .obj [("type", .str "string")]))
  .obj [("type", .str "object"), ("properties", .obj properties.entries),
    ("required", .arr (tool.required.map .str))]

/-- The tool as it is offered. -/
def ToolDefinition.offered (tool : ToolDefinition) : OfferedTool :=
  ⟨tool.name, tool.description, tool.parameters⟩

/-- A call without a signature. -/
def ToolCallRequest.plain (call : ToolCallRequest) : SpokenCall :=
  ⟨call.id, call.name, call.arguments, none⟩

/-- `(call.get("metadata") or {}).get("thought_signature")`. -/
def ToolCallRequest.thoughtSignature (call : ToolCallRequest) : Option Json :=
  (call.metadata.bind (·.get? "thought_signature")).filter (· ≠ .null)

/-- A call with its signature. -/
def ToolCallRequest.signed (call : ToolCallRequest) : SpokenCall :=
  ⟨call.id, call.name, call.arguments, call.thoughtSignature⟩

/-- What a message of the agent means, given what its calls mean. -/
def Message.meaning (spoken : ToolCallRequest → SpokenCall) : Message → Utterance
  | .user content => .user (content.str?.getD "")
  | .assistant content (some (call :: calls)) => .calls content ((call :: calls).map spoken)
  | .assistant content _ => .assistant content
  | .tool toolCallId _ content => .result toolCallId content

/-- A message that can be sent: a task is a text, and calls are some, of the kind that can be
sent. -/
def Message.Sendable (admissible : ToolCallRequest → Prop) : Message → Prop
  | .user content => ∃ text, content = .str text
  | .assistant _ (some calls) => calls ≠ [] ∧ ∀ call ∈ calls, admissible call
  | _ => True

/-- What a provider is asked with these settings. -/
def chatRequest (spoken : ToolCallRequest → SpokenCall) (settings : ModelSettings)
    (messages : List Message) (tools : List ToolDefinition) : ChatRequest where
  model := settings.model
  system := some settings.systemPrompt |>.filter (· ≠ "")
  messages := messages.map (Message.meaning spoken)
  tools := tools.map ToolDefinition.offered
  maxTokens := settings.maxTokens

/-- A field of an object. -/
def Json.field (json : Json) (key : String) : Option Json := json.obj?.bind (·.get? key)

/-- A text in a field. -/
def Json.text (json : Json) (key : String) : Option String := (json.field key).bind Json.str?

/-! ## Anthropic -/

section

/-- A `tool_use` block. -/
def toAnthropicToolUse (call : ToolCallRequest) : Json :=
  .obj [("type", .str "tool_use"), ("id", .str call.id), ("name", .str call.name),
    ("input", call.arguments)]

/-- `_to_anthropic_message`. -/
def toAnthropicMessage : Message → Json
  | .tool toolCallId _ content =>
    .obj [("role", .str "user"), ("content", .arr [.obj [("type", .str "tool_result"),
      ("tool_use_id", .str toolCallId), ("content", .str content)]])]
  | .assistant content (some (call :: calls)) =>
    let text :=
      if content ≠ "" then [Json.obj [("type", .str "text"), ("text", .str content)]] else []
    .obj [("role", .str "assistant"),
      ("content", .arr (text ++ (call :: calls).map toAnthropicToolUse))]
  | .assistant content _ => .obj [("role", .str "assistant"), ("content", .str content)]
  | .user content => .obj [("role", .str "user"), ("content", content)]

/-- The arguments of `messages.create`. -/
def anthropicRequest (settings : ModelSettings) (messages : List Message)
    (tools : List ToolDefinition) : Json :=
  let wireTools := tools.map fun tool => Json.obj [("name", .str tool.name),
    ("description", .str tool.description), ("input_schema", tool.parameters)]
  let kwargs := [("model", Json.str settings.model), ("max_tokens", .int settings.maxTokens),
    ("messages", .arr (messages.map toAnthropicMessage)), ("tools", .arr wireTools)]
  let system := if settings.systemPrompt ≠ "" then [("system", .str settings.systemPrompt)] else []
  .obj (kwargs ++ system)

/-- A block of an answer. -/
inductive AnthropicBlock where
  | text (text : String)
  | toolUse (id name : String) (input : Json)
  | other (type : String)

/-- An answer, as far as it is read. -/
structure AnthropicAnswer where
  content : List AnthropicBlock
  inputTokens : Int
  outputTokens : Int

/-- The calls of an answer. -/
def AnthropicAnswer.toolCalls (answer : AnthropicAnswer) : List ToolCallRequest :=
  answer.content.filterMap fun
    | .toolUse id name input => some { id, name, arguments := input }
    | _ => none

/-- The text of an answer. -/
def AnthropicAnswer.text (answer : AnthropicAnswer) : String :=
  "\n".intercalate (answer.content.filterMap fun
    | .text text => some text
    | _ => none)

/-- What `complete_with_tools` makes of an answer. -/
def anthropicResponse (answer : AnthropicAnswer) : ToolCallResponse where
  text := if answer.toolCalls.isEmpty then some answer.text else none
  toolCalls := answer.toolCalls
  inputTokens := answer.inputTokens
  outputTokens := answer.outputTokens

/-- A call that is read in a block. -/
def readAnthropicToolUse (block : Json) : Option SpokenCall := do
  guard (block.text "type" = some "tool_use")
  pure ⟨← block.text "id", ← block.text "name", ← block.field "input", none⟩

/-- A tool that is read, with its schema under this key. -/
def readOffered (schema : String) (tool : Json) : Option OfferedTool := do
  pure ⟨← tool.text "name", ← tool.text "description", ← tool.field schema⟩

/-- How Anthropic reads a request and its messages. -/
structure AnthropicReads (read : Json → Option ChatRequest)
    (readMessage : Json → Option Utterance) : Prop where
  user {message : Json} {text : String} (role : message.text "role" = some "user")
    (content : message.text "content" = some text) : readMessage message = some (.user text)
  result {message block : Json} {id text : String} (role : message.text "role" = some "user")
    (content : message.field "content" = some (.arr [block]))
    (type : block.text "type" = some "tool_result") (toolUseId : block.text "tool_use_id" = some id)
    (result : block.text "content" = some text) : readMessage message = some (.result id text)
  assistant {message : Json} {text : String} (role : message.text "role" = some "assistant")
    (content : message.text "content" = some text) : readMessage message = some (.assistant text)
  calls {message : Json} {blocks : List Json} {calls : List SpokenCall}
    (role : message.text "role" = some "assistant")
    (content : message.field "content" = some (.arr blocks))
    (uses : blocks.mapM readAnthropicToolUse = some calls) (nonempty : calls ≠ []) :
    readMessage message = some (.calls "" calls)
  textAndCalls {message block : Json} {blocks : List Json} {calls : List SpokenCall} {text : String}
    (role : message.text "role" = some "assistant")
    (content : message.field "content" = some (.arr (block :: blocks)))
    (type : block.text "type" = some "text") (first : block.text "text" = some text)
    (uses : blocks.mapM readAnthropicToolUse = some calls) (nonempty : calls ≠ []) :
    readMessage message = some (.calls text calls)
  request {request : Json} {model : String} {wireMessages wireTools : List Json}
    {tools : List OfferedTool} {maxTokens : Int} (model_eq : request.text "model" = some model)
    (messages_eq : request.field "messages" = some (.arr wireMessages))
    (tools_eq : request.field "tools" = some (.arr wireTools))
    (offered : wireTools.mapM (readOffered "input_schema") = some tools)
    (maxTokens_eq : request.field "max_tokens" = some (.int maxTokens)) :
    read request = (wireMessages.mapM readMessage).map fun messages =>
      ⟨model, request.text "system", messages, tools, maxTokens⟩

end

/-! ## OpenAI -/

section

variable (nearestFloat : Int → Int → Int × Int) (floatRepr : Int → Int → List Char)

/-- A call with its arguments as a text. -/
def toOpenaiToolCall (call : ToolCallRequest) : Except String Json := do
  let arguments ← jsonDumps floatRepr none call.arguments
  pure (.obj [("id", .str call.id), ("type", .str "function"), ("function",
    .obj [("name", .str call.name), ("arguments", .str (String.ofList arguments))])])

/-- `_to_openai_message`. -/
def toOpenaiMessage : Message → Except String Json
  | .tool toolCallId _ content => pure (.obj [("role", .str "tool"),
      ("tool_call_id", .str toolCallId), ("content", .str content)])
  | .assistant content (some (call :: calls)) => do
    let toolCalls ← (call :: calls).mapM (toOpenaiToolCall floatRepr)
    pure (.obj [("role", .str "assistant"),
      ("content", if content ≠ "" then .str content else .null), ("tool_calls", .arr toolCalls)])
  | .assistant content _ =>
    pure (.obj [("role", .str "assistant"), ("content", .str content)])
  | .user content => pure (.obj [("role", .str "user"), ("content", content)])

/-- A tool as OpenAI and Ollama are told of it. -/
def toFunctionTool (tool : ToolDefinition) : Json :=
  .obj [("type", .str "function"), ("function", .obj [("name", .str tool.name),
    ("description", .str tool.description), ("parameters", tool.parameters)])]

/-- The message with the system prompt, if there is one. -/
def systemMessage (settings : ModelSettings) : List Json :=
  if settings.systemPrompt ≠ "" then
    [.obj [("role", .str "system"), ("content", .str settings.systemPrompt)]]
  else []

/-- The arguments of `chat.completions.create`. -/
def openaiRequest (settings : ModelSettings) (messages : List Message)
    (tools : List ToolDefinition) : Except String Json := do
  let wireMessages ← messages.mapM (toOpenaiMessage floatRepr)
  pure (.obj [("model", .str settings.model),
    ("messages", .arr (systemMessage settings ++ wireMessages)),
    ("tools", .arr (tools.map toFunctionTool)), ("max_tokens", .int settings.maxTokens)])

/-- A call that is read. Its arguments are the value of the text. -/
def readOpenaiToolCall (call : Json) : Option SpokenCall := do
  let function ← call.field "function"
  let arguments ← (jsonLoads nearestFloat (← function.text "arguments").toList).toOption
  pure ⟨← call.text "id", ← function.text "name", arguments, none⟩

/-- The system prompt at the beginning of the messages, and the rest of them. -/
def splitSystem : List Json → Option String × List Json
  | message :: messages =>
    if message.text "role" = some "system" then (message.text "content", messages)
    else (none, message :: messages)
  | [] => (none, [])

/-- A tool that is read. -/
def readFunctionTool (tool : Json) : Option OfferedTool := do
  readOffered "parameters" (← tool.field "function")

/-- How OpenAI reads a request and its messages. -/
structure OpenaiReads (read : Json → Option ChatRequest) (readMessage : Json → Option Utterance) :
    Prop where
  user {message : Json} {text : String} (role : message.text "role" = some "user")
    (content : message.text "content" = some text) : readMessage message = some (.user text)
  result {message : Json} {id text : String} (role : message.text "role" = some "tool")
    (toolCallId : message.text "tool_call_id" = some id)
    (content : message.text "content" = some text) : readMessage message = some (.result id text)
  assistant {message : Json} {text : String} (role : message.text "role" = some "assistant")
    (toolCalls : message.field "tool_calls" = none)
    (content : message.text "content" = some text) : readMessage message = some (.assistant text)
  calls {message : Json} {toolCalls : List Json} {calls : List SpokenCall}
    (role : message.text "role" = some "assistant")
    (toolCalls_eq : message.field "tool_calls" = some (.arr toolCalls))
    (heard : toolCalls.mapM (readOpenaiToolCall nearestFloat) = some calls)
    (nonempty : calls ≠ []) :
    readMessage message = some (.calls ((message.text "content").getD "") calls)
  request {request : Json} {model : String} {wireMessages wireTools : List Json}
    {tools : List OfferedTool} {maxTokens : Int} (model_eq : request.text "model" = some model)
    (messages_eq : request.field "messages" = some (.arr wireMessages))
    (tools_eq : request.field "tools" = some (.arr wireTools))
    (offered : wireTools.mapM readFunctionTool = some tools)
    (maxTokens_eq : request.field "max_tokens" = some (.int maxTokens)) :
    read request = ((splitSystem wireMessages).2.mapM readMessage).map fun messages =>
      ⟨model, (splitSystem wireMessages).1, messages, tools, maxTokens⟩

end

/-! ## Gemini -/

section

/-- A part of a content (`types.Part`). -/
inductive GeminiPart where
  | text (text : String)
  | functionCall (id name : String) (args : Json) (thoughtSignature : Option Json)
  | functionResponse (id name result : String)

/-- A content (`types.Content`). -/
structure GeminiContent where
  role : String
  parts : List GeminiPart

/-- The arguments of `generate_content`. -/
structure GeminiRequest where
  model : String
  contents : List GeminiContent
  systemInstruction : Option String
  maxOutputTokens : Int
  functionDeclarations : List OfferedTool

/-- The part of a call, whose arguments must be a dictionary. -/
def toGeminiPart (call : ToolCallRequest) : Except String GeminiPart :=
  match call.arguments with
  | .obj fields => pure (.functionCall call.id call.name (.obj fields) call.thoughtSignature)
  | _ => throw "args: Input should be a valid dictionary"

/-- `_to_gemini_content`. -/
def toGeminiContent : Message → Except String GeminiContent
  | .tool toolCallId name content => pure ⟨"user", [.functionResponse toolCallId name content]⟩
  | .assistant content (some (call :: calls)) => do
    let text := if content ≠ "" then [.text content] else []
    pure ⟨"model", text ++ (← (call :: calls).mapM toGeminiPart)⟩
  | .assistant content _ => pure ⟨"model", [.text content]⟩
  | .user (.str text) => pure ⟨"user", [.text text]⟩
  | .user _ => throw "text: Input should be a valid string"

/-- The request for a completion. -/
def geminiRequest (settings : ModelSettings) (messages : List Message)
    (tools : List ToolDefinition) : Except String GeminiRequest := do
  let contents ← messages.mapM toGeminiContent
  pure
    { model := settings.model
      contents
      systemInstruction := if settings.systemPrompt ≠ "" then some settings.systemPrompt else none
      maxOutputTokens := settings.maxTokens
      functionDeclarations := tools.map ToolDefinition.offered }

/-- A function call in an answer. -/
structure GeminiFunctionCall where
  id : Option String
  name : String
  args : Option Config

/-- A part of an answer. -/
structure GeminiAnswerPart where
  functionCall : Option GeminiFunctionCall
  thoughtSignature : Option String

/-- An answer, as far as it is read: the parts of the first candidate, the text that the client
library makes of them, and the tokens. -/
structure GeminiAnswer where
  parts : List GeminiAnswerPart
  text : Option String
  promptTokenCount : Option Int
  candidatesTokenCount : Option Int

/-- `given or f"call_{i}"`. -/
def idOrIndex (given : Option String) (index : Nat) : String :=
  (given.filter (· ≠ "")).getD s!"call_{index}"

/-- The calls of an answer. -/
def GeminiAnswer.toolCalls (answer : GeminiAnswer) : List ToolCallRequest :=
  answer.parts.zipIdx.filterMap fun (part, index) =>
    part.functionCall.map fun call =>
      { id := idOrIndex call.id index
        name := call.name
        arguments := .obj (call.args.getD .empty).entries
        metadata := (part.thoughtSignature.filter (· ≠ "")).map fun signature =>
          .ofList [("thought_signature", .str signature)] }

/-- What `complete_with_tools` makes of an answer. -/
def geminiResponse (answer : GeminiAnswer) : ToolCallResponse where
  text := if answer.toolCalls.isEmpty then some (answer.text.getD "") else none
  toolCalls := answer.toolCalls
  inputTokens := answer.promptTokenCount.getD 0
  outputTokens := answer.candidatesTokenCount.getD 0

/-- A call that is read. -/
def readGeminiCall : GeminiPart → Option SpokenCall
  | .functionCall id name args signature => some ⟨id, name, args, signature⟩
  | _ => none

/-- How Gemini reads a request and its contents. -/
structure GeminiReads (read : GeminiRequest → Option ChatRequest)
    (readContent : GeminiContent → Option Utterance) : Prop where
  user (text : String) : readContent ⟨"user", [.text text]⟩ = some (.user text)
  result (id name result : String) :
    readContent ⟨"user", [.functionResponse id name result]⟩ = some (.result id result)
  model (text : String) : readContent ⟨"model", [.text text]⟩ = some (.assistant text)
  calls {parts : List GeminiPart} {calls : List SpokenCall}
    (heard : parts.mapM readGeminiCall = some calls) (nonempty : calls ≠ []) :
    readContent ⟨"model", parts⟩ = some (.calls "" calls)
  textAndCalls {parts : List GeminiPart} {calls : List SpokenCall} (text : String)
    (heard : parts.mapM readGeminiCall = some calls) (nonempty : calls ≠ []) :
    readContent ⟨"model", .text text :: parts⟩ = some (.calls text calls)
  request (request : GeminiRequest) :
    read request = (request.contents.mapM readContent).map fun messages =>
      ⟨request.model, request.systemInstruction, messages, request.functionDeclarations,
        request.maxOutputTokens⟩

end

/-! ## Ollama -/

section

variable (nearestFloat : Int → Int → Int × Int) (floatRepr : Int → Int → List Char)

/-- A call in an agent's own shape. -/
def toAgentToolCall (call : ToolCallRequest) : Json :=
  .obj [("id", .str call.id), ("name", .str call.name), ("arguments", call.arguments),
    ("metadata", call.metadata.elim .null fun metadata => .obj metadata.entries)]

/-- A message in an agent's own shape, in which Ollama gets it. -/
def toAgentMessage : Message → Json
  | .tool toolCallId name content => .obj [("role", .str "tool"),
      ("tool_call_id", .str toolCallId), ("name", .str name), ("content", .str content)]
  | .assistant content (some calls) => .obj [("role", .str "assistant"),
      ("content", .str content), ("tool_calls", .arr (calls.map toAgentToolCall))]
  | .assistant content none => .obj [("role", .str "assistant"), ("content", .str content)]
  | .user content => .obj [("role", .str "user"), ("content", content)]

/-- What is posted to `/api/chat`, before it is written. -/
def ollamaPayload (settings : ModelSettings) (messages : List Message)
    (tools : List ToolDefinition) : Json :=
  .obj [("model", .str settings.model),
    ("messages", .arr (systemMessage settings ++ messages.map toAgentMessage)),
    ("tools", .arr (tools.map toFunctionTool)), ("stream", .bool false),
    ("options", .obj [("num_predict", .int settings.maxTokens), ("temperature", .int 0)])]

/-- The body of the request. -/
def ollamaRequest (settings : ModelSettings) (messages : List Message)
    (tools : List ToolDefinition) : Except String (List Char) :=
  jsonDumps floatRepr none (ollamaPayload settings messages tools)

/-- A tool call in an answer. -/
structure OllamaToolCall where
  id : Option String
  name : String
  arguments : Json

/-- An answer, as far as it is read. -/
structure OllamaAnswer where
  content : Option String
  toolCalls : List OllamaToolCall
  promptEvalCount : Option Int
  evalCount : Option Int

/-- The calls of an answer. -/
def OllamaAnswer.requests (answer : OllamaAnswer) : List ToolCallRequest :=
  answer.toolCalls.zipIdx.map fun (call, index) =>
    { id := idOrIndex call.id index, name := call.name, arguments := call.arguments }

/-- What `complete_with_tools` makes of an answer. -/
def ollamaResponse (answer : OllamaAnswer) : ToolCallResponse where
  text := if answer.requests.isEmpty then some (answer.content.getD "") else none
  toolCalls := answer.requests
  inputTokens := answer.promptEvalCount.getD 0
  outputTokens := answer.evalCount.getD 0

/-- How Ollama reads the body of a request and its messages. A call that it hears stands under
`function` in the message, as in its own answers. -/
structure OllamaReads (read : List Char → Option ChatRequest)
    (readMessage : Json → Option Utterance) : Prop where
  user {message : Json} {text : String} (role : message.text "role" = some "user")
    (content : message.text "content" = some text) : readMessage message = some (.user text)
  result {message : Json} {id text : String} (role : message.text "role" = some "tool")
    (toolCallId : message.text "tool_call_id" = some id)
    (content : message.text "content" = some text) : readMessage message = some (.result id text)
  assistant {message : Json} {text : String} (role : message.text "role" = some "assistant")
    (toolCalls : message.field "tool_calls" = none)
    (content : message.text "content" = some text) : readMessage message = some (.assistant text)
  function {message : Json} {toolCalls : List Json} {text : String} {calls : List SpokenCall}
    (toolCalls_eq : message.field "tool_calls" = some (.arr toolCalls))
    (heard : readMessage message = some (.calls text calls)) :
    ∀ call ∈ calls, ∃ made ∈ toolCalls, ∃ function, made.field "function" = some function ∧
      function.text "name" = some call.name
  request {body : List Char} {request options : Json} {model : String}
    {wireMessages wireTools : List Json} {tools : List OfferedTool} {maxTokens : Int}
    (parsed : jsonLoads nearestFloat body = .ok request)
    (model_eq : request.text "model" = some model)
    (messages_eq : request.field "messages" = some (.arr wireMessages))
    (tools_eq : request.field "tools" = some (.arr wireTools))
    (offered : wireTools.mapM readFunctionTool = some tools)
    (options_eq : request.field "options" = some options)
    (maxTokens_eq : options.field "num_predict" = some (.int maxTokens)) :
    read body = ((splitSystem wireMessages).2.mapM readMessage).map fun messages =>
      ⟨model, (splitSystem wireMessages).1, messages, tools, maxTokens⟩

end

/-! ## Anthropic is told what is meant -/

@[simp] theorem Json.field_obj (fields : List (String × Json)) (key : String) :
    (Json.obj fields).field key = (Dict.ofList fields).get? key := rfl

theorem read_anthropic_tool_use (call : ToolCallRequest) :
    readAnthropicToolUse (toAnthropicToolUse call) = some call.plain := by
  simp [readAnthropicToolUse, toAnthropicToolUse, Json.text, Dict.get?_ofList, Json.str?, guard,
    ToolCallRequest.plain]

theorem read_anthropic_calls (calls : List ToolCallRequest) :
    (calls.map toAnthropicToolUse).mapM readAnthropicToolUse =
      some (calls.map ToolCallRequest.plain) :=
  mapM_read_iff.mpr fun call _ => read_anthropic_tool_use call

section

variable {read : Json → Option ChatRequest} {readMessage : Json → Option Utterance}

/-- A message is read as what it means. -/
theorem read_anthropic_message (hreads : AnthropicReads read readMessage) {message : Message}
    (h : message.Sendable fun _ => True) :
    readMessage (toAnthropicMessage message) = some (message.meaning ToolCallRequest.plain) := by
  match message, h with
  | .user content, ⟨text, htext⟩ =>
      subst htext
      exact hreads.user (by simp [toAnthropicMessage, Json.text, Dict.get?_ofList, Json.str?])
        (by simp [toAnthropicMessage, Json.text, Dict.get?_ofList, Json.str?])
  | .tool toolCallId name content, _ =>
      have hblock : (toAnthropicMessage (.tool toolCallId name content)).field "content" =
          some (.arr [.obj [("type", .str "tool_result"), ("tool_use_id", .str toolCallId),
            ("content", .str content)]]) := by
        simp [toAnthropicMessage, Dict.get?_ofList]
      refine hreads.result ?_ hblock ?_ ?_ ?_
      all_goals simp [toAnthropicMessage, Json.text, Dict.get?_ofList, Json.str?]
  | .assistant content none, _ =>
      exact hreads.assistant (by simp [toAnthropicMessage, Json.text, Dict.get?_ofList, Json.str?])
        (by simp [toAnthropicMessage, Json.text, Dict.get?_ofList, Json.str?])
  | .assistant content (some []), h => exact absurd rfl h.1
  | .assistant content (some (call :: calls)), _ =>
      have hcalls := read_anthropic_calls (call :: calls)
      have hne : (call :: calls).map ToolCallRequest.plain ≠ [] := List.cons_ne_nil _ _
      by_cases hcontent : content = ""
      · subst hcontent
        refine hreads.calls ?_ ?_ hcalls hne
        all_goals simp [toAnthropicMessage, Json.text, Dict.get?_ofList, Json.str?]
      · have hblocks : (toAnthropicMessage (.assistant content (some (call :: calls)))).field
            "content" = some (.arr (.obj [("type", .str "text"), ("text", .str content)] ::
              (call :: calls).map toAnthropicToolUse)) := by
          simp [toAnthropicMessage, Dict.get?_ofList, hcontent]
        refine hreads.textAndCalls ?_ hblocks ?_ ?_ hcalls hne
        all_goals simp [toAnthropicMessage, Json.text, Dict.get?_ofList, Json.str?]

/-- A request of Anthropic is read as what it means. -/
theorem read_anthropic_request (hreads : AnthropicReads read readMessage)
    (settings : ModelSettings) {messages : List Message}
    (hmessages : ∀ message ∈ messages, message.Sendable fun _ => True)
    (tools : List ToolDefinition) :
    read (anthropicRequest settings messages tools) =
      some (chatRequest ToolCallRequest.plain settings messages tools) := by
  have hread : (messages.map toAnthropicMessage).mapM readMessage =
      some (messages.map (Message.meaning ToolCallRequest.plain)) :=
    mapM_read_iff.mpr fun message hmessage =>
      read_anthropic_message hreads (hmessages message hmessage)
  have htools : (tools.map fun tool => Json.obj [("name", .str tool.name),
      ("description", .str tool.description), ("input_schema", tool.parameters)]).mapM
        (readOffered "input_schema") = some (tools.map ToolDefinition.offered) :=
    mapM_read_iff.mpr fun tool _ => by
      simp [readOffered, Json.text, Dict.get?_ofList, Json.str?, ToolDefinition.offered]
  have hmodel : (anthropicRequest settings messages tools).text "model" =
      some settings.model := by
    by_cases hempty : settings.systemPrompt = "" <;>
      simp [anthropicRequest, Json.text, Dict.get?_ofList, Json.str?, hempty]
  have hwire : (anthropicRequest settings messages tools).field "messages" =
      some (.arr (messages.map toAnthropicMessage)) := by
    by_cases hempty : settings.systemPrompt = "" <;>
      simp [anthropicRequest, Dict.get?_ofList, hempty]
  have hoffered : (anthropicRequest settings messages tools).field "tools" =
      some (.arr (tools.map fun tool => Json.obj [("name", .str tool.name),
        ("description", .str tool.description), ("input_schema", tool.parameters)])) := by
    by_cases hempty : settings.systemPrompt = "" <;>
      simp [anthropicRequest, Dict.get?_ofList, hempty]
  have htokens : (anthropicRequest settings messages tools).field "max_tokens" =
      some (.int settings.maxTokens) := by
    by_cases hempty : settings.systemPrompt = "" <;>
      simp [anthropicRequest, Dict.get?_ofList, hempty]
  have hsystem : (anthropicRequest settings messages tools).text "system" =
      (some settings.systemPrompt |>.filter (· ≠ "")) := by
    by_cases hempty : settings.systemPrompt = ""
    · simp [anthropicRequest, Json.text, Dict.get?_ofList, hempty, Option.filter]
    · simp [anthropicRequest, Json.text, Dict.get?_ofList, Json.str?, hempty, Option.filter]
  rw [hreads.request hmodel hwire hoffered htools htokens, hread, hsystem]
  rfl

end

/-! ## OpenAI is told what is meant -/

section

variable {nearestFloat : Int → Int → Int × Int} {floatRepr : Int → Int → List Char}
  {read : Json → Option ChatRequest} {readMessage : Json → Option Utterance}

/-- The arguments of a call are what a text can have as its value. -/
abbrev ToolCallRequest.Loadable (nearestFloat : Int → Int → Int × Int) (call : ToolCallRequest) :
    Prop := JsonText.Loadable nearestFloat call.arguments

/-- A call is read as it was made: its arguments are the value of their text. -/
theorem openai_tool_call_faithful (hfloats : FloatsFaithful nearestFloat floatRepr) :
    Faithful (ToolCallRequest.Loadable nearestFloat) (toOpenaiToolCall floatRepr)
      (readOpenaiToolCall nearestFloat) ToolCallRequest.plain := by
  intro call hcall
  obtain ⟨text, htext, hloads⟩ := json_loads_dumps hfloats none hcall
  refine ⟨_, except_bind_eq_ok.mpr ⟨text, htext, rfl⟩, ?_⟩
  simp [readOpenaiToolCall, Json.text, Dict.get?_ofList, Json.str?, hloads, Except.toOption,
    ToolCallRequest.plain]

/-- A message is read as what it means. -/
theorem openai_message_faithful (hfloats : FloatsFaithful nearestFloat floatRepr)
    (hreads : OpenaiReads nearestFloat read readMessage) :
    Faithful (Message.Sendable (ToolCallRequest.Loadable nearestFloat)) (toOpenaiMessage floatRepr)
      readMessage (Message.meaning ToolCallRequest.plain) := by
  intro message h
  match message, h with
  | .user content, ⟨text, htext⟩ =>
      subst htext
      exact ⟨_, rfl, hreads.user (by simp [Json.text, Dict.get?_ofList, Json.str?])
        (by simp [Json.text, Dict.get?_ofList, Json.str?])⟩
  | .tool toolCallId name content, _ =>
      exact ⟨_, rfl, hreads.result (by simp [Json.text, Dict.get?_ofList, Json.str?])
        (by simp [Json.text, Dict.get?_ofList, Json.str?])
        (by simp [Json.text, Dict.get?_ofList, Json.str?])⟩
  | .assistant content none, _ =>
      exact ⟨_, rfl, hreads.assistant (by simp [Json.text, Dict.get?_ofList, Json.str?])
        (by simp [Dict.get?_ofList]) (by simp [Json.text, Dict.get?_ofList, Json.str?])⟩
  | .assistant content (some []), h => exact absurd rfl h.1
  | .assistant content (some (call :: calls)), h =>
      obtain ⟨toolCalls, htranslated, hread⟩ := (openai_tool_call_faithful hfloats).list _ h.2
      refine ⟨_, except_bind_eq_ok.mpr ⟨toolCalls, htranslated, rfl⟩, ?_⟩
      have hrole : (Json.obj [("role", .str "assistant"),
          ("content", if content ≠ "" then .str content else .null),
          ("tool_calls", .arr toolCalls)]).text "role" = some "assistant" := by
        simp [Json.text, Dict.get?_ofList, Json.str?]
      rw [hreads.calls hrole (by simp [Dict.get?_ofList]) hread (List.cons_ne_nil _ _)]
      by_cases hcontent : content = ""
      · simp [Json.text, Dict.get?_ofList, Json.str?, Message.meaning, hcontent]
      · simp [Json.text, Dict.get?_ofList, Json.str?, Message.meaning, hcontent]

/-- A tool is read as it is offered. -/
theorem read_function_tools (tools : List ToolDefinition) :
    (tools.map toFunctionTool).mapM readFunctionTool = some (tools.map ToolDefinition.offered) :=
  mapM_read_iff.mpr fun tool _ => by
    simp [readFunctionTool, toFunctionTool, readOffered, Json.text, Dict.get?_ofList, Json.str?,
      ToolDefinition.offered]

/-- No message but that of the system prompt has the role of the system. -/
theorem split_system {settings : ModelSettings} {messages : List Json}
    (h : ∀ message ∈ messages, message.text "role" ≠ some "system") :
    splitSystem (systemMessage settings ++ messages) =
      (some settings.systemPrompt |>.filter (· ≠ ""), messages) := by
  by_cases hsystem : settings.systemPrompt = ""
  · cases messages with
    | nil => simp [systemMessage, hsystem, splitSystem, Option.filter]
    | cons message messages =>
        have hrole := h message List.mem_cons_self
        simp [systemMessage, hsystem, splitSystem, Option.filter, hrole]
  · simp [systemMessage, hsystem, splitSystem, Option.filter, Json.text, Dict.get?_ofList,
      Json.str?]

/-- A translated message does not have the role of the system. -/
theorem to_openai_message_role {message : Message} {wire : Json}
    (h : toOpenaiMessage floatRepr message = .ok wire) : wire.text "role" ≠ some "system" := by
  match message, h with
  | .user content, h =>
      cases h
      simp [Json.text, Dict.get?_ofList, Json.str?]
  | .tool toolCallId name content, h =>
      cases h
      simp [Json.text, Dict.get?_ofList, Json.str?]
  | .assistant content none, h =>
      cases h
      simp [Json.text, Dict.get?_ofList, Json.str?]
  | .assistant content (some []), h =>
      cases h
      simp [Json.text, Dict.get?_ofList, Json.str?]
  | .assistant content (some (call :: calls)), h =>
      obtain ⟨toolCalls, _, hwire⟩ := except_bind_eq_ok.mp h
      cases hwire
      simp [Json.text, Dict.get?_ofList, Json.str?]

/-- The fields of a request. -/
theorem openai_request_fields (settings : ModelSettings) (wireMessages wireTools : List Json)
    {request : Json}
    (hrequest : request = .obj [("model", .str settings.model),
      ("messages", .arr wireMessages), ("tools", .arr wireTools),
      ("max_tokens", .int settings.maxTokens)]) :
    request.text "model" = some settings.model ∧
      request.field "messages" = some (.arr wireMessages) ∧
      request.field "tools" = some (.arr wireTools) ∧
      request.field "max_tokens" = some (.int settings.maxTokens) := by
  subst hrequest
  simp [Json.text, Dict.get?_ofList, Json.str?]

/-- A request of OpenAI is read as what it means. -/
theorem read_openai_request (hfloats : FloatsFaithful nearestFloat floatRepr)
    (hreads : OpenaiReads nearestFloat read readMessage) (settings : ModelSettings)
    {messages : List Message}
    (hmessages : ∀ message ∈ messages,
      message.Sendable (ToolCallRequest.Loadable nearestFloat))
    (tools : List ToolDefinition) :
    ∃ request, openaiRequest floatRepr settings messages tools = .ok request ∧
      read request =
        some (chatRequest ToolCallRequest.plain settings messages tools) := by
  obtain ⟨wire, hwire, hread⟩ := (openai_message_faithful hfloats hreads).list messages hmessages
  have hroles := forall_of_mapM (fun _ _ => to_openai_message_role) hwire
  refine ⟨_, except_bind_eq_ok.mpr ⟨wire, hwire, rfl⟩, ?_⟩
  obtain ⟨hmodel, hwireMessages, hwireTools, htokens⟩ :=
    openai_request_fields settings (systemMessage settings ++ wire) (tools.map toFunctionTool) rfl
  rw [hreads.request hmodel hwireMessages hwireTools (read_function_tools tools) htokens,
    split_system hroles, hread]
  rfl

end

/-! ## Gemini is told what is meant -/

/-- The arguments of a call are a dictionary. -/
def ToolCallRequest.Keyed (call : ToolCallRequest) : Prop :=
  ∃ fields, call.arguments = .obj fields

/-- A call is read as it was made, with its signature. -/
theorem gemini_part_faithful :
    Faithful ToolCallRequest.Keyed toGeminiPart readGeminiCall ToolCallRequest.signed := by
  intro call hcall
  obtain ⟨fields, hfields⟩ := hcall
  refine ⟨.functionCall call.id call.name (.obj fields) call.thoughtSignature, ?_, ?_⟩
  · rw [toGeminiPart, hfields]
    rfl
  · simp [readGeminiCall, ToolCallRequest.signed, hfields]

section

variable {read : GeminiRequest → Option ChatRequest}
  {readContent : GeminiContent → Option Utterance}

/-- A message is read as what it means. -/
theorem gemini_content_faithful (hreads : GeminiReads read readContent) :
    Faithful (Message.Sendable ToolCallRequest.Keyed) toGeminiContent readContent
      (Message.meaning ToolCallRequest.signed) := by
  intro message h
  match message, h with
  | .user content, ⟨text, htext⟩ =>
      subst htext
      exact ⟨_, rfl, hreads.user text⟩
  | .tool toolCallId name content, _ => exact ⟨_, rfl, hreads.result toolCallId name content⟩
  | .assistant content none, _ => exact ⟨_, rfl, hreads.model content⟩
  | .assistant content (some []), h => exact absurd rfl h.1
  | .assistant content (some (call :: calls)), h =>
      obtain ⟨parts, hparts, hread⟩ := gemini_part_faithful.list _ h.2
      refine ⟨_, except_bind_eq_ok.mpr ⟨parts, hparts, rfl⟩, ?_⟩
      by_cases hcontent : content = ""
      · subst hcontent
        exact hreads.calls hread (List.cons_ne_nil _ _)
      · rw [if_pos hcontent]
        exact hreads.textAndCalls content hread (List.cons_ne_nil _ _)

/-- A request of Gemini is read as what it means. -/
theorem read_gemini_request (hreads : GeminiReads read readContent) (settings : ModelSettings)
    {messages : List Message}
    (hmessages : ∀ message ∈ messages, message.Sendable ToolCallRequest.Keyed)
    (tools : List ToolDefinition) :
    ∃ request, geminiRequest settings messages tools = .ok request ∧
      read request = some (chatRequest ToolCallRequest.signed settings messages tools) := by
  obtain ⟨contents, hcontents, hread⟩ := (gemini_content_faithful hreads).list messages hmessages
  refine ⟨_, except_bind_eq_ok.mpr ⟨contents, hcontents, rfl⟩, ?_⟩
  rw [hreads.request]
  dsimp only
  rw [hread]
  by_cases hsystem : settings.systemPrompt = ""
  · simp [chatRequest, hsystem, Option.filter]
  · simp [chatRequest, hsystem, Option.filter]

end

/-! ## Ollama is told no calls -/

section

variable {nearestFloat : Int → Int → Int × Int} {floatRepr : Int → Int → List Char}
  {read : List Char → Option ChatRequest} {readMessage : Json → Option Utterance}

/-- The message has no tool calls. -/
def Message.Callless : Message → Prop
  | .assistant _ (some _) => False
  | _ => True

/-- A message is read as what it means exactly if it has no tool calls, for those in the agent's
shape have nothing under `function`. -/
theorem read_ollama_message_iff (hreads : OllamaReads nearestFloat read readMessage)
    {admissible : ToolCallRequest → Prop} {message : Message} (h : message.Sendable admissible) :
    readMessage (toAgentMessage message) = some (message.meaning ToolCallRequest.plain) ↔
      message.Callless := by
  match message, h with
  | .user content, ⟨text, htext⟩ =>
      subst htext
      refine iff_of_true (hreads.user ?_ ?_) trivial
      all_goals simp [toAgentMessage, Json.text, Dict.get?_ofList, Json.str?]
  | .tool toolCallId name content, _ =>
      refine iff_of_true (hreads.result ?_ ?_ ?_) trivial
      all_goals simp [toAgentMessage, Json.text, Dict.get?_ofList, Json.str?]
  | .assistant content none, _ =>
      refine iff_of_true (hreads.assistant ?_ ?_ ?_) trivial
      all_goals simp [toAgentMessage, Json.text, Dict.get?_ofList, Json.str?]
  | .assistant content (some []), h => exact absurd rfl h.1
  | .assistant content (some (call :: calls)), _ =>
      refine iff_of_false (fun hheard => ?_) id
      have htoolCalls : (toAgentMessage (.assistant content (some (call :: calls)))).field
          "tool_calls" = some (.arr ((call :: calls).map toAgentToolCall)) := by
        simp [toAgentMessage, Dict.get?_ofList]
      obtain ⟨made, hmade, function, hfunction, _⟩ :=
        hreads.function htoolCalls hheard call.plain (List.mem_cons_self)
      obtain ⟨spoken, _, rfl⟩ := List.mem_map.mp hmade
      simp [toAgentToolCall, Dict.get?_ofList] at hfunction

/-- A call that can be written whole: its arguments have a text, and it has no signature. -/
def ToolCallRequest.Written (nearestFloat : Int → Int → Int × Int) (call : ToolCallRequest) :
    Prop :=
  call.Loadable nearestFloat ∧ call.metadata = none

/-- A message in the agent's shape can be written. -/
theorem to_agent_message_loadable {message : Message}
    (h : message.Sendable (ToolCallRequest.Written nearestFloat)) :
    JsonText.Loadable nearestFloat (toAgentMessage message) := by
  match message, h with
  | .user content, ⟨text, htext⟩ =>
      subst htext
      exact .obj (by simp) (by simp [JsonText.Loadable.str])
  | .tool toolCallId name content, _ => exact .obj (by simp) (by simp [JsonText.Loadable.str])
  | .assistant content none, _ => exact .obj (by simp) (by simp [JsonText.Loadable.str])
  | .assistant content (some calls), h =>
      have hcalls : ∀ call ∈ calls, JsonText.Loadable nearestFloat (toAgentToolCall call) := by
        intro call hcall
        obtain ⟨harguments, hmetadata⟩ := h.2 call hcall
        refine .obj (by simp) ?_
        simp [hmetadata, JsonText.Loadable.str, JsonText.Loadable.null]
        exact harguments
      refine .obj (by simp) ?_
      simp [JsonText.Loadable.str]
      exact .arr (by simpa using hcalls)

/-- The schema of a tool can be written. -/
theorem parameters_loadable (tool : ToolDefinition) :
    JsonText.Loadable nearestFloat tool.parameters := by
  have hproperties : JsonText.Loadable nearestFloat (.obj (Dict.ofList (tool.properties.map
      fun name => (name, Json.obj [("type", .str "string")]))).entries) := by
    refine .obj (Dict.nodupKeys _) fun field hfield => ?_
    have hmem := Dict.mem_of_get?_ofList (Dict.mem_entries_iff.mp hfield)
    obtain ⟨name, _, hname⟩ := List.mem_map.mp hmem
    rw [← (Prod.mk.inj hname).2]
    exact .obj (by simp) (by simp [JsonText.Loadable.str])
  have hrequired : JsonText.Loadable nearestFloat (.arr (tool.required.map .str)) :=
    .arr (by simp [JsonText.Loadable.str])
  exact .obj (by simp) (by simp [JsonText.Loadable.str, hproperties, hrequired])

/-- A tool can be written. -/
theorem function_tool_loadable (tool : ToolDefinition) :
    JsonText.Loadable nearestFloat (toFunctionTool tool) := by
  have hfunction : JsonText.Loadable nearestFloat (.obj [("name", .str tool.name),
      ("description", .str tool.description), ("parameters", tool.parameters)]) :=
    .obj (by simp) (by simp [JsonText.Loadable.str, parameters_loadable])
  exact .obj (by simp) (by simp [JsonText.Loadable.str, hfunction])

/-- The payload can be written. -/
theorem ollama_payload_loadable {settings : ModelSettings} {messages : List Message}
    (hmessages : ∀ message ∈ messages, message.Sendable (ToolCallRequest.Written nearestFloat))
    (htokens : JsonText.Loadable nearestFloat (.int settings.maxTokens))
    (tools : List ToolDefinition) :
    JsonText.Loadable nearestFloat (ollamaPayload settings messages tools) := by
  have hsystem : ∀ message ∈ systemMessage settings, JsonText.Loadable nearestFloat message := by
    unfold systemMessage
    split
    · intro message hmessage
      cases List.mem_singleton.mp hmessage
      exact .obj (by simp) (by simp [JsonText.Loadable.str])
    · exact fun _ hmessage => nomatch hmessage
  have hwire : JsonText.Loadable nearestFloat
      (.arr (systemMessage settings ++ messages.map toAgentMessage)) := by
    refine .arr fun message hmessage => ?_
    rcases List.mem_append.mp hmessage with hprompt | htranslated
    · exact hsystem message hprompt
    · obtain ⟨spoken, hspoken, rfl⟩ := List.mem_map.mp htranslated
      exact to_agent_message_loadable (hmessages spoken hspoken)
  have htools : JsonText.Loadable nearestFloat (.arr (tools.map toFunctionTool)) :=
    .arr (by simp [function_tool_loadable])
  have hzero : JsonText.Loadable nearestFloat (.int 0) := .int (by decide)
  have hoptions : JsonText.Loadable nearestFloat
      (.obj [("num_predict", .int settings.maxTokens), ("temperature", .int 0)]) :=
    .obj (by simp) (by simp [htokens, hzero])
  exact .obj (by simp)
    (by simp [JsonText.Loadable.str, JsonText.Loadable.bool, hwire, htools, hoptions])

/-- A body is written, and it is read as what it means exactly if no message has tool calls. -/
theorem read_ollama_request_iff (hfloats : FloatsFaithful nearestFloat floatRepr)
    (hreads : OllamaReads nearestFloat read readMessage) {settings : ModelSettings}
    {messages : List Message}
    (hmessages : ∀ message ∈ messages, message.Sendable (ToolCallRequest.Written nearestFloat))
    (htokens : JsonText.Loadable nearestFloat (.int settings.maxTokens))
    (tools : List ToolDefinition) :
    ∃ body, ollamaRequest floatRepr settings messages tools = .ok body ∧
      (read body =
        some (chatRequest ToolCallRequest.plain settings messages tools) ↔
          ∀ message ∈ messages, message.Callless) := by
  obtain ⟨body, hbody, hloads⟩ := json_loads_dumps hfloats none
    (ollama_payload_loadable hmessages htokens tools)
  have hroles : ∀ message ∈ messages.map toAgentMessage, message.text "role" ≠ some "system" := by
    intro wire hwire
    obtain ⟨message, _, rfl⟩ := List.mem_map.mp hwire
    cases message with
    | assistant content toolCalls =>
        cases toolCalls <;> simp [toAgentMessage, Json.text, Dict.get?_ofList, Json.str?]
    | _ => simp [toAgentMessage, Json.text, Dict.get?_ofList, Json.str?]
  have hread : read body = ((messages.map toAgentMessage).mapM readMessage).map fun heard =>
      { chatRequest ToolCallRequest.plain settings messages tools with messages := heard } := by
    have hmodel : (ollamaPayload settings messages tools).text "model" = some settings.model := by
      simp [ollamaPayload, Json.text, Dict.get?_ofList, Json.str?]
    have hwire : (ollamaPayload settings messages tools).field "messages" =
        some (.arr (systemMessage settings ++ messages.map toAgentMessage)) := by
      simp [ollamaPayload, Dict.get?_ofList]
    have hoptions : (ollamaPayload settings messages tools).field "options" =
        some (.obj [("num_predict", .int settings.maxTokens), ("temperature", .int 0)]) := by
      simp [ollamaPayload, Dict.get?_ofList]
    have hpredict : (Json.obj [("num_predict", .int settings.maxTokens),
        ("temperature", .int 0)]).field "num_predict" = some (.int settings.maxTokens) := by
      simp [Dict.get?_ofList]
    rw [hreads.request hloads hmodel hwire (by simp [ollamaPayload, Dict.get?_ofList])
      (read_function_tools tools) hoptions hpredict, split_system hroles]
    rfl
  refine ⟨body, hbody, ?_⟩
  rw [hread, ← forall₂_congr fun message hmessage => read_ollama_message_iff hreads
    (hmessages message hmessage), ← mapM_read_iff]
  cases (messages.map toAgentMessage).mapM readMessage with
  | none => simp
  | some read => simp [chatRequest]

end

end AgentGraphStudio
