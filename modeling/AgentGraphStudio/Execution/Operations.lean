import AgentGraphStudio.Connections.McpServerConnection
import AgentGraphStudio.Execution.Approvals
import AgentGraphStudio.Execution.Engine
import AgentGraphStudio.Storage.Runs

/-!
# The effects of node bodies and runs

A body, the engine and the run around it are programs over these operations. Everything
outside the process, and everything that other threads can change, is an operation whose
response the environment chooses: the clock, the stores, the model providers, the servers and
the steps of the approval module. Two operations only mark a point of interest, `lookup` where
a body looks a name up in the resolved connections and `executeGenerated` where a generated
MCP node starts.
-/

namespace AgentGraphStudio

/-! ## Calls to model providers -/

/-- The answer of a plain completion. -/
structure LLMResponse where
  text : String
  inputTokens : Int := 0
  outputTokens : Int := 0

/-- A tool as it is offered to a model. -/
structure ToolDefinition where
  name : String
  description : String
  properties : List String
  required : List String

/-- A tool call a model asks for. Its arguments are whatever the provider decoded. -/
structure ToolCallRequest where
  id : String
  name : String
  arguments : Json
  metadata : Option Config := none

/-- The answer of a completion with tools. -/
structure ToolCallResponse where
  text : Option String
  toolCalls : List ToolCallRequest
  inputTokens : Int := 0
  outputTokens : Int := 0

/-- A message of an agent's conversation. -/
inductive Message where
  | user (content : Json)
  | assistant (content : String) (toolCalls : Option (List ToolCallRequest))
  | tool (toolCallId name content : String)

/-- The settings of a model call. -/
structure ModelSettings where
  model : String
  systemPrompt : String
  maxTokens : Int

/-- A chunk that a vector store returns for a query. -/
structure RetrievedChunk where
  text : String
  documentName : Option String

/-! ## Calls to tools -/

/-- The settings of an `mcp_call` node. -/
structure McpCallConfig where
  command : String
  args : List String
  toolName : String
  credentialRef : Option String
  requireApproval : Bool

/-- What the body of a generated node type captured when the type was generated. -/
structure GeneratedBinding where
  connectionName : String
  tool : McpToolInfo
  ownerUserId : Option String

/-- What a graph author's function returned. -/
inductive Returned where
  | str (value : String)
  | other (typeName : String)

/-- How a call of the Telegram API fails. -/
inductive TelegramFailure where
  | runtimeError (message : String)
  | other (raised : Raised)

/-- The two maps of resolved connections. -/
inductive ResourceKey where
  | connections | connectionProfiles
  deriving DecidableEq, Repr

/-! ## Operations -/

/-- An operation. -/
inductive Op where
  | utcnowIso
  | uuid4
  | readConnections
  | lookup (key : ResourceKey) (name : String)
  | complete (client : ConnectionClient) (settings : ModelSettings) (prompt : Json)
  | completeWithTools (profile : ConnectionProfile) (settings : ModelSettings)
      (messages : List Message) (tools : List ToolDefinition)
  | embed (profile : ConnectionProfile) (model : String) (text : Json)
  | addChunks (client : ConnectionClient) (chunks : List Json) (embeddings : List (List Json))
      (documentName : Option String)
  | queryChunks (client : ConnectionClient) (embedding : List Json) (topK : Int)
  | callTelegramApi (token method : String) (params : Config)
  | execSource (nodeId source : String)
  | callFunction (source functionName : String) (kwargs : Config)
  | listTools (command : String) (args : List String)
  | callStdioTool (config : McpCallConfig) (arguments : Config) (env : Option (String × String))
  | executeGenerated (binding : GeneratedBinding)
  | getConnection (name : String) (userId : Option String)
  | getApiKey (userId connectionName : String)
  | getValidAccessToken (userId connectionName : String)
  | callTool (connection : McpServerConnectionConfig) (server : McpServerConfig)
      (toolName : String) (arguments : Config)
  | terminalApproval (toolName : String) (arguments : Config)
  | approval (op : ApprovalOp)
  | updateRun (runId : String) (update : RunUpdate)

/-- The response of an operation. Where the source can raise, the response says so; the
response to an update of a run says whether a write to the database succeeded. -/
abbrev Res : Op → Type
  | .utcnowIso | .uuid4 => String
  | .readConnections => ConnectionStore
  | .lookup .. | .executeGenerated _ => Unit
  | .complete .. => Except Raised LLMResponse
  | .completeWithTools .. => Except Raised ToolCallResponse
  | .embed .. => Except Raised (List Json)
  | .addChunks .. => Except Raised Int
  | .queryChunks .. => Except Raised (List RetrievedChunk)
  | .callTelegramApi .. => Except TelegramFailure Json
  | .execSource .. => Except Raised Unit
  | .callFunction .. => Except Raised Returned
  | .listTools .. => Except Raised (List McpToolInfo)
  | .callStdioTool .. | .callTool .. => Except Raised String
  | .getConnection .. => Option ConnectionProfile
  | .getApiKey .. => Except Raised (Option String)
  | .getValidAccessToken .. => Except Raised String
  | .terminalApproval .. => Except Raised Bool
  | .approval op => op.Response
  | .updateRun .. => Bool

/-- What a program performed, with the responses it got. -/
abbrev History := List (Event Op Res)

/-- A computation that performs operations and may raise. -/
abbrev Act (α : Type) := ExceptT Raised (Program Op Res) α

namespace Act

/-- Perform an operation. -/
def perform (op : Op) : Act (Res op) := ExceptT.lift (Program.op op)

/-- Raise an exception, such as a `NodeExecutionError`. -/
def raise {α : Type} (message : String) : Act α := throw (.exception message)

/-- The value of a computation that may raise. -/
def ofExcept {α : Type} (value : Except Raised α) : Act α := ExceptT.mk (pure value)

/-- A program that may raise. -/
def ofProgram {α : Type} (program : Program Op Res (Except Raised α)) : Act α :=
  ExceptT.mk program

/-- `try: act` with `except Exception as e: handler(e)`. The handler gets `str(e)`, which may
raise when it is taken. -/
def catchException {α : Type} (act : Act α) (handler : Except Raised String → Act α) : Act α :=
  ExceptT.mk (act.run >>= fun
    | .error (.exception message) => (handler (.ok message)).run
    | .error (.unprintable raised) => (handler (.error raised)).run
    | outcome => pure outcome)

/-- `try: act` with an `except Exception as e` that begins with `str(e)`. -/
def exceptException {α : Type} (act : Act α) (handler : String → Act α) : Act α :=
  catchException act fun text => ofExcept text >>= handler

/-- `try: act` with `finally: cleanup`. -/
def finallyDo {α : Type} (act : Act α) (cleanup : Act Unit) : Act α :=
  ExceptT.mk (act.run >>= fun outcome => cleanup.run >>= fun
    | .ok () => pure outcome
    | .error raised => pure (.error raised))

end Act

/-- `ctx.resources["connections"].get(name)`. -/
def lookupConnection (resources : Resources) (name : String) : Act (Option ConnectionClient) := do
  Act.perform (.lookup .connections name)
  pure (resources.connections.get? name)

/-- `ctx.resources["connection_profiles"].get(name)`. -/
def lookupProfile (resources : Resources) (name : String) : Act (Option ConnectionProfile) := do
  Act.perform (.lookup .connectionProfiles name)
  pure (resources.connectionProfiles.get? name)

/-- The engine's effects as operations. -/
def programRuntime : Runtime (Program Op Res) where
  utcnowIso := Program.op Op.utcnowIso
  uuid4 := Program.op Op.uuid4
  gather := Program.gather

end AgentGraphStudio
