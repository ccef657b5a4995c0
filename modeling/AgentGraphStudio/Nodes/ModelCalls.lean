import AgentGraphStudio.Execution.Discipline
import AgentGraphStudio.Nodes.Core

/-!
# Nodes that call a model, a vector store or Telegram

`backend/nodes/llm_call.py`, `ingest_document.py`, `vector_search.py` and the Telegram nodes.
Each finds its connections by name in the maps that were resolved before the run, and every
name it looks up is one that its own configuration references; the `_keeps` lemmas say so for
every property of programs that passes through all constructions.
-/

namespace AgentGraphStudio

/-! ## `llm_call` -/

/-- `LLMCallConfig`, and the `ModelConfig` of a `model` node, which has the same fields. -/
structure LLMCallConfig where
  connection : String
  settings : ModelSettings

def LLMCallConfig.parse (config : Config) : Except String LLMCallConfig := do
  let connection ← config.required "connection" Json.str?
  let model ← config.required "model" Json.str?
  let systemPrompt ← config.withDefault "system_prompt" Json.str? ""
  let maxTokens ← config.positive "max_tokens" 1024
  pure { connection, settings := { model, systemPrompt, maxTokens } }

def executeLlmCall (ctx : ExecutionContext) : Act NodeResult := do
  let config ← Act.ofExcept (validated (LLMCallConfig.parse ctx.node.config))
  match ← lookupConnection ctx.resources config.connection with
  | none =>
    Act.raise (s!"No resolved client for connection '{config.connection}' -- " ++
      "it should have been resolved before this run started")
  | some client =>
    let response ← Act.exceptException
      (do
        let prompt ← Act.ofExcept (ctx.inputs.get "prompt")
        Act.ofExcept (← Act.perform (.complete client config.settings prompt)))
      fun e => Act.raise s!"LLM call failed: {e}"
    pure
      { outputs := .ofList [("response", .str response.text)]
        tokenCost := ⟨response.inputTokens, response.outputTokens⟩ }

/-! ## `ingest_document` and `vector_search` -/

/-- `IngestDocumentConfig`. -/
structure IngestDocumentConfig where
  connection : String
  embeddingModelConnection : String
  embeddingModel : String
  chunkSize : Int
  chunkOverlap : Int
  documentName : Option String

def IngestDocumentConfig.parse (config : Config) : Except String IngestDocumentConfig := do
  let connection ← config.required "connection" Json.str?
  let embeddingModelConnection ← config.required "embedding_model_connection" Json.str?
  let embeddingModel ← config.required "embedding_model" Json.str?
  let chunkSize ← config.withDefault "chunk_size" Json.int? 500
  let chunkOverlap ← config.withDefault "chunk_overlap" Json.int? 50
  let documentName ← config.optionalStr "document_name"
  if chunkSize ≤ 0 then .error "chunk_size must be > 0"
  else if chunkOverlap < 0 then .error "chunk_overlap must be >= 0"
  else if chunkSize ≤ chunkOverlap then .error "chunk_overlap must be smaller than chunk_size"
  else
    pure { connection, embeddingModelConnection, embeddingModel, chunkSize, chunkOverlap
           documentName }

/-- The chunks from this position on. -/
def chunksFrom {α : Type} (items : List α) (chunkSize stride : Nat) : Nat → Nat → List (List α)
  | 0, _ => []
  | fuel + 1, start =>
    if start < items.length then
      (items.drop start).take chunkSize :: chunksFrom items chunkSize stride fuel (start + stride)
    else []

/-- Fixed-size chunks with overlap. A positive stride reaches the end within as many steps as
there are items. -/
def chunkItems {α : Type} (items : List α) (chunkSize chunkOverlap : Int) : List (List α) :=
  chunksFrom items chunkSize.toNat (chunkSize - chunkOverlap).toNat items.length 0

/-- The chunks of an input. -/
def chunkText (text : Json) (chunkSize chunkOverlap : Int) : Except Raised (List Json) :=
  match text with
  | .str text =>
    .ok ((chunkItems text.toList chunkSize chunkOverlap).map fun chunk =>
      .str (String.ofList chunk))
  | .arr items => .ok ((chunkItems items chunkSize chunkOverlap).map .arr)
  | .null | .bool false | .int 0 | .float 0 _ | .obj [] => .ok []
  | _ => .error (.exception "object has no len() or cannot be sliced")

/-- Find the embedding model's profile and its capability. -/
def resolveEmbed (connectionTypes : ConnectionRegistry) (resources : Resources)
    (embeddingModelConnection : String) : Act ConnectionProfile := do
  match ← lookupProfile resources embeddingModelConnection with
  | none =>
    Act.raise (s!"No resolved connection profile for '{embeddingModelConnection}' -- " ++
      "it should have been resolved before this run started")
  | some profile =>
    match connectionTypes.get? profile.type with
    | none =>
      Act.raise (s!"Connection '{embeddingModelConnection}' (type '{profile.type}') " ++
        "does not support embeddings")
    | some definition =>
      if definition.supportsEmbedding then do
        Act.ofExcept (validated (definition.configModel profile.config))
        pure profile
      else
        Act.raise (s!"Connection '{embeddingModelConnection}' (type '{profile.type}') " ++
          "does not support embeddings")

/-- Embed one text. -/
def embed (profile : ConnectionProfile) (model : String) (text : Json) : Act (List Json) := do
  Act.ofExcept (← Act.perform (.embed profile model text))

/-- Embed a list of texts, one after another. -/
def embedAll (profile : ConnectionProfile) (model : String) : List Json → Act (List (List Json))
  | [] => pure []
  | text :: texts => do
    let embedding ← embed profile model text
    let embeddings ← embedAll profile model texts
    pure (embedding :: embeddings)

def executeIngestDocument (connectionTypes : ConnectionRegistry) (ctx : ExecutionContext) :
    Act NodeResult := do
  let config ← Act.ofExcept (validated (IngestDocumentConfig.parse ctx.node.config))
  match ← lookupConnection ctx.resources config.connection with
  | none =>
    Act.raise (s!"No resolved client for connection '{config.connection}' -- " ++
      "it should have been resolved before this run started")
  | some vectorClient =>
    let profile ← resolveEmbed connectionTypes ctx.resources config.embeddingModelConnection
    let text ← Act.ofExcept (ctx.inputs.get "text")
    let chunks ← Act.ofExcept (chunkText text config.chunkSize config.chunkOverlap)
    let stored ← Act.exceptException
      (do
        let embeddings ← embedAll profile config.embeddingModel chunks
        Act.ofExcept
          (← Act.perform (.addChunks vectorClient chunks embeddings config.documentName)))
      fun e => Act.raise s!"ingest_document failed: {e}"
    pure (.single "chunks_stored" (.str (toString stored)))

/-- `VectorSearchConfig`. -/
structure VectorSearchConfig where
  connection : String
  embeddingModelConnection : String
  embeddingModel : String
  topK : Int

def VectorSearchConfig.parse (config : Config) : Except String VectorSearchConfig := do
  let connection ← config.required "connection" Json.str?
  let embeddingModelConnection ← config.required "embedding_model_connection" Json.str?
  let embeddingModel ← config.required "embedding_model" Json.str?
  let topK ← config.positive "top_k" 5
  pure { connection, embeddingModelConnection, embeddingModel, topK }

/-- The retrieved chunks as one text. -/
def formatResults (results : List RetrievedChunk) : String :=
  if results.isEmpty then "(no results found)"
  else
    "\n\n".intercalate ((results.zipIdx 1).map fun (chunk, i) =>
      let source := match chunk.documentName with
        | none | some "" => ""
        | some documentName => s!" (source: {documentName})"
      s!"[{i}]{source} {chunk.text}")

def executeVectorSearch (connectionTypes : ConnectionRegistry) (ctx : ExecutionContext) :
    Act NodeResult := do
  let config ← Act.ofExcept (validated (VectorSearchConfig.parse ctx.node.config))
  match ← lookupConnection ctx.resources config.connection with
  | none =>
    Act.raise (s!"No resolved client for connection '{config.connection}' -- " ++
      "it should have been resolved before this run started")
  | some vectorClient =>
    let profile ← resolveEmbed connectionTypes ctx.resources config.embeddingModelConnection
    let results ← Act.exceptException
      (do
        let query ← Act.ofExcept (ctx.inputs.get "query")
        let queryEmbedding ← embed profile config.embeddingModel query
        Act.ofExcept (← Act.perform (.queryChunks vectorClient queryEmbedding config.topK)))
      fun e => Act.raise s!"vector_search failed: {e}"
    pure (.single "results" (.str (formatResults results)))

/-! ## Telegram -/

/-- A method of Telegram's API that a node offers. -/
structure TelegramMethodSpec where
  action : String
  telegramMethod : String
  requiredParams : List String := []
  optionalParams : List String := []

/-- The parameters in the order of the method's slots. -/
def TelegramMethodSpec.paramNames (method : TelegramMethodSpec) : List String :=
  method.requiredParams ++ method.optionalParams

def MESSAGING_METHODS : List TelegramMethodSpec :=
  [{ action := "send_message", telegramMethod := "sendMessage"
     requiredParams := ["chat_id", "text"], optionalParams := ["parse_mode"] },
   { action := "send_photo", telegramMethod := "sendPhoto"
     requiredParams := ["chat_id", "photo"], optionalParams := ["caption"] },
   { action := "send_document", telegramMethod := "sendDocument"
     requiredParams := ["chat_id", "document"], optionalParams := ["caption"] },
   { action := "edit_message", telegramMethod := "editMessageText"
     requiredParams := ["chat_id", "message_id", "text"] },
   { action := "delete_message", telegramMethod := "deleteMessage"
     requiredParams := ["chat_id", "message_id"] }]

def CHAT_MANAGEMENT_METHODS : List TelegramMethodSpec :=
  [{ action := "get_chat", telegramMethod := "getChat", requiredParams := ["chat_id"] },
   { action := "get_chat_member", telegramMethod := "getChatMember"
     requiredParams := ["chat_id", "user_id"] }]

/-- The method of an action. -/
def findMethod (methods : List TelegramMethodSpec) (action : Option Json) :
    Option TelegramMethodSpec :=
  methods.find? fun method => action = some (.str method.action)

/-- The slots of a Telegram node (`resolve_slots_for`). -/
def telegramSlots (methods : List TelegramMethodSpec) : ResolveSlots := fun node =>
  (findMethod methods (node.config.get? "action")).map fun method =>
    (method.requiredParams.map (fun name => ⟨name, TEXT, true⟩) ++
      method.optionalParams.map (fun name => ⟨name, TEXT, false⟩), [⟨"result", TEXT⟩])

/-- The token that a resolved client of the `telegram` type is. -/
def telegramToken (client : ConnectionClient) : Option String :=
  if client.type = "telegram" then (client.config.get? "bot_token").bind Json.str? else none

/-- Look the bot token up under the configured name. -/
def lookupToken (resources : Resources) (connectionName : Option Json) : Act (Option String) :=
  match connectionName.bind Json.str? with
  | none => pure none
  | some name => do
    let client ← lookupConnection resources name
    pure (client.bind telegramToken)

def executeTelegramAction (python : Python) (methods : List TelegramMethodSpec)
    (ctx : ExecutionContext) : Act NodeResult :=
  let action := ctx.node.config.get? "action"
  let connectionName := ctx.node.config.get? "bot_token_connection"
  let shown := fun value : Option Json => python.repr (value.getD .null)
  match findMethod methods action with
  | none => Act.raise ("Unknown Telegram action: " ++ shown action)
  | some method => do
    match ← lookupToken ctx.resources connectionName with
    | none =>
      Act.raise ("telegram node references unresolved bot_token_connection " ++
        shown connectionName)
    | some token =>
      let params ← Act.ofExcept (ctx.inputs.select method.paramNames)
      match ← Act.perform (.callTelegramApi token method.telegramMethod params) with
      | .error (.runtimeError e) => Act.raise s!"Telegram '{method.telegramMethod}' failed: {e}"
      | .error (.other raised) => throw raised
      | .ok body =>
        let result := ((body.obj?.bind fun fields => fields.get? "result")).getD body
        pure { outputs := .ofList [("result", .str (python.jsonDumps result))], sideEffect := true }

/-! ## What the bodies look up -/

theorem LLMCallConfig.connection_mem {config : Config} {result : LLMCallConfig}
    (h : LLMCallConfig.parse config = .ok result) :
    result.connection ∈ connectionReferenceNames config := by
  obtain ⟨connection, hconnection, h⟩ := except_bind_eq_ok.mp h
  obtain ⟨model, _, h⟩ := except_bind_eq_ok.mp h
  obtain ⟨systemPrompt, _, h⟩ := except_bind_eq_ok.mp h
  obtain ⟨maxTokens, _, h⟩ := except_bind_eq_ok.mp h
  cases h
  exact required_mem_references rfl hconnection

theorem IngestDocumentConfig.connections_mem {config : Config} {result : IngestDocumentConfig}
    (h : IngestDocumentConfig.parse config = .ok result) :
    result.connection ∈ connectionReferenceNames config ∧
      result.embeddingModelConnection ∈ connectionReferenceNames config := by
  obtain ⟨connection, hconnection, h⟩ := except_bind_eq_ok.mp h
  obtain ⟨embeddingModelConnection, hembedding, h⟩ := except_bind_eq_ok.mp h
  obtain ⟨embeddingModel, _, h⟩ := except_bind_eq_ok.mp h
  obtain ⟨chunkSize, _, h⟩ := except_bind_eq_ok.mp h
  obtain ⟨chunkOverlap, _, h⟩ := except_bind_eq_ok.mp h
  obtain ⟨documentName, _, h⟩ := except_bind_eq_ok.mp h
  split at h
  · cases h
  · split at h
    · cases h
    · split at h
      · cases h
      · cases h
        exact ⟨required_mem_references rfl hconnection, required_mem_references rfl hembedding⟩

theorem VectorSearchConfig.connections_mem {config : Config} {result : VectorSearchConfig}
    (h : VectorSearchConfig.parse config = .ok result) :
    result.connection ∈ connectionReferenceNames config ∧
      result.embeddingModelConnection ∈ connectionReferenceNames config := by
  obtain ⟨connection, hconnection, h⟩ := except_bind_eq_ok.mp h
  obtain ⟨embeddingModelConnection, hembedding, h⟩ := except_bind_eq_ok.mp h
  obtain ⟨embeddingModel, _, h⟩ := except_bind_eq_ok.mp h
  obtain ⟨topK, _, h⟩ := except_bind_eq_ok.mp h
  cases h
  exact ⟨required_mem_references rfl hconnection, required_mem_references rfl hembedding⟩

section

variable {permits : Op → Prop} {P : ∀ α : Type, Program Op Res α → Prop}
  {connectionTypes : ConnectionRegistry} {ctx : ExecutionContext}

theorem execute_llm_call_keeps (rules : Rules permits P) (h : MayLookUp permits ctx.node.config) :
    P _ (executeLlmCall ctx).run := by
  refine rules.act_ofExcept_bind fun config hconfig => ?_
  replace hconfig := LLMCallConfig.connection_mem (validated_eq_ok hconfig)
  refine rules.act_bind (rules.lookup_connection_keeps (h _ _ hconfig)) fun client => ?_
  cases client with
  | none => exact rules.act_raise _
  | some client =>
      refine rules.act_bind (rules.act_exceptException ?_ fun _ => rules.act_raise _) fun _ =>
        rules.act_pure _
      exact rules.act_bind (rules.act_ofExcept _) fun prompt =>
        rules.act_bind (rules.act_silent trivial) fun _ => rules.act_ofExcept _

theorem resolve_embed_keeps (rules : Rules permits P) {resources : Resources} {name : String}
    (h : permits (.lookup .connectionProfiles name)) :
    P _ (resolveEmbed connectionTypes resources name).run := by
  refine rules.act_bind (rules.lookup_profile_keeps h) fun profile => ?_
  cases profile with
  | none => exact rules.act_raise _
  | some profile =>
      dsimp only
      split
      · exact rules.act_raise _
      · split
        · exact rules.act_bind (rules.act_ofExcept _) fun _ => rules.act_pure _
        · exact rules.act_raise _

theorem embed_keeps (rules : Rules permits P) (profile : ConnectionProfile) (model : String)
    (text : Json) : P _ (embed profile model text).run :=
  rules.act_bind (rules.act_silent trivial) fun _ => rules.act_ofExcept _

theorem embed_all_keeps (rules : Rules permits P) (profile : ConnectionProfile) (model : String)
    (texts : List Json) : P _ (embedAll profile model texts).run := by
  induction texts with
  | nil => exact rules.act_pure _
  | cons text texts ih =>
      exact rules.act_bind (embed_keeps rules _ _ _) fun _ => rules.act_bind ih fun _ =>
        rules.act_pure _

theorem execute_ingest_document_keeps (rules : Rules permits P)
    (h : MayLookUp permits ctx.node.config) :
    P _ (executeIngestDocument connectionTypes ctx).run := by
  refine rules.act_ofExcept_bind fun config hconfig => ?_
  obtain ⟨hclient, hembed⟩ := IngestDocumentConfig.connections_mem (validated_eq_ok hconfig)
  refine rules.act_bind (rules.lookup_connection_keeps (h _ _ hclient)) fun client => ?_
  cases client with
  | none => exact rules.act_raise _
  | some client =>
      refine rules.act_bind (resolve_embed_keeps rules (h _ _ hembed)) fun profile => ?_
      refine rules.act_bind (rules.act_ofExcept _) fun text => ?_
      refine rules.act_bind (rules.act_ofExcept _) fun chunks => ?_
      refine rules.act_bind (rules.act_exceptException ?_ fun _ => rules.act_raise _) fun _ =>
        rules.act_pure _
      exact rules.act_bind (embed_all_keeps rules _ _ _) fun _ =>
        rules.act_bind (rules.act_silent trivial) fun _ => rules.act_ofExcept _

theorem execute_vector_search_keeps (rules : Rules permits P)
    (h : MayLookUp permits ctx.node.config) :
    P _ (executeVectorSearch connectionTypes ctx).run := by
  refine rules.act_ofExcept_bind fun config hconfig => ?_
  obtain ⟨hclient, hembed⟩ := VectorSearchConfig.connections_mem (validated_eq_ok hconfig)
  refine rules.act_bind (rules.lookup_connection_keeps (h _ _ hclient)) fun client => ?_
  cases client with
  | none => exact rules.act_raise _
  | some client =>
      refine rules.act_bind (resolve_embed_keeps rules (h _ _ hembed)) fun profile => ?_
      refine rules.act_bind (rules.act_exceptException ?_ fun _ => rules.act_raise _) fun _ =>
        rules.act_pure _
      exact rules.act_bind (rules.act_ofExcept _) fun query =>
        rules.act_bind (embed_keeps rules _ _ _) fun _ =>
          rules.act_bind (rules.act_silent trivial) fun _ => rules.act_ofExcept _

theorem lookup_token_keeps (rules : Rules permits P) {resources : Resources}
    {connectionName : Option Json}
    (h : ∀ name, connectionName = some (.str name) → permits (.lookup .connections name)) :
    P _ (lookupToken resources connectionName).run := by
  rw [lookupToken]
  split
  · exact rules.act_pure _
  · rename_i name hname
    have hconnection : connectionName = some (.str name) := by
      rcases connectionName with _ | _ | _ | _ | _ | text | _ | _ <;> cases hname
      rfl
    exact rules.act_bind (rules.lookup_connection_keeps (h name hconnection)) fun _ =>
      rules.act_pure _

theorem execute_telegram_action_keeps (rules : Rules permits P) {python : Python}
    {methods : List TelegramMethodSpec} (h : MayLookUp permits ctx.node.config) :
    P _ (executeTelegramAction python methods ctx).run := by
  rw [executeTelegramAction]
  dsimp only
  split
  · exact rules.act_raise _
  · refine rules.act_bind (lookup_token_keeps rules fun name hname => h _ name ?_) fun token => ?_
    · exact List.mem_filterMap.mpr ⟨("bot_token_connection", .str name),
        Dict.mem_entries_iff.mpr hname,
        if_pos (show isConnectionKey "bot_token_connection" = true from rfl)⟩
    · cases token with
      | none => exact rules.act_raise _
      | some token =>
          refine rules.act_bind (rules.act_ofExcept _) fun params => ?_
          refine rules.act_bind (rules.act_silent trivial) fun response => ?_
          rcases response with ⟨_ | _⟩ | _
          · exact rules.act_raise _
          · exact rules.act_ofExcept (.error _)
          · exact rules.act_pure _

end

end AgentGraphStudio
