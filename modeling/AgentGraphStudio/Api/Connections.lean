import AgentGraphStudio.Connections.Resolver
import AgentGraphStudio.Mcp.Generation

/-!
# The connection endpoints

The endpoints of `backend/api/app.py` that change connections: creating, updating, deleting and
promoting one, refreshing its capabilities, setting an API key and the OAuth callback. Several of
them end with the generation of node types. Such an endpoint returns a `Continuation`, which says
what to generate and how to answer then; `serve` carries it out.
-/

namespace AgentGraphStudio

open Stateful (attempt)

/-! ## Requests and answers -/

/-- A signed-in user. -/
structure User where
  userId : String
  role : String
  deriving DecidableEq

/-- The caller of an endpoint; `none` is a caller with the shared key. -/
abbrev Caller := Option User

/-- The id of the caller. -/
def callerUserId (caller : Caller) : Option String := caller.map User.userId

/-- The role of the caller. -/
def callerRole (caller : Caller) : Option String := caller.map User.role

/-- How a request is refused. -/
structure HttpError where
  status : Nat
  detail : String
  deriving DecidableEq

/-- The handling of a request. What it has changed stays changed when it raises. -/
abbrev Route (α : Type) := EStateM HttpError Backend α

/-- An exception that no endpoint catches. -/
def internalError (e : String) : HttpError := ⟨500, e⟩

/-- What an endpoint tells about a connection. -/
structure ConnectionInfo where
  name : String
  type : String
  requiresOauth : Bool
  oauthConnected : Bool
  isGlobal : Bool
  canManage : Bool
  credentialType : Option String
  authType : String
  apiKeyConnected : Bool

/-- The answers of the endpoints. -/
inductive ConnectionAnswer where
  | info (info : ConnectionInfo)
  | generatedTypes (typeNames : List String)
  | noContent
  | oauthResult (popup : Bool) (redirectTo : String) (outcome : Except String String)

/-- Whether a new connection is the caller's own or everybody's. -/
inductive ConnectionScope where
  | «private»
  | global
  deriving DecidableEq

/-- The body of a request that creates a connection. -/
structure CreateConnectionRequest where
  name : String
  type : String
  config : Config := .empty
  scope : ConnectionScope := .private

/-! ## Endpoints that generate node types -/

/-- The arguments of a generation. -/
structure GenerationCall where
  connectionName : String
  ownerUserId : Option String
  discoveryUserId : Option String := none

/-- The owner and name of the connection whose types are generated. -/
def GenerationCall.key (call : GenerationCall) : ConnectionKey :=
  (call.ownerUserId, call.connectionName)

/-- How an endpoint goes on after its own part: it answers, or it generates node types and answers
in one of two ways. -/
inductive Continuation where
  | respond (answer : ConnectionAnswer)
  | generate (call : GenerationCall) (failed : String → Route ConnectionAnswer)
      (done : List String → Route ConnectionAnswer)

/-- Carry out the generation that an endpoint asks for. -/
def Continuation.perform (outside : Outside) : Continuation → Route ConnectionAnswer
  | .respond answer => pure answer
  | .generate call failed done => do
    match ← attempt (generateNodeTypesForConnection outside call.connectionName call.ownerUserId
      call.discoveryUserId) with
    | .ok created => done created
    | .error e => failed e

/-- Handle a request. -/
def serve (outside : Outside) (endpoint : Route Continuation) : Route ConnectionAnswer := do
  (← endpoint).perform outside

/-! ## Helpers -/

/-- Refuse signed-in users who are not administrators. -/
def requireAdmin (caller : Caller) : Route Unit :=
  match caller with
  | some user => if user.role ≠ "admin" then throw ⟨403, "Admin access required"⟩ else pure ()
  | none => pure ()

/-- Only administrators change a global connection. -/
def requireAdminFor (owner : Option String) (caller : Caller) : Route Unit :=
  if owner = none then requireAdmin caller else pure ()

/-- The validated configuration of an `mcp_server` connection. -/
def serverConfig (profile : ConnectionProfile) : Route McpServerConnectionConfig :=
  Stateful.ofExcept ((McpServerConnectionConfig.parse profile.config).mapError internalError)

/-- What is told about a connection (`_connection_info`). -/
def connectionInfo (profile : ConnectionProfile) (caller : Caller) : Route ConnectionAnswer := do
  let isGlobal := profile.userId.isNone
  let canManage := profile.userId = callerUserId caller ∨
    (isGlobal ∧ callerRole caller = some "admin")
  if profile.type = "mcp_server" then
    let config ← serverConfig profile
    let backend ← get
    pure (.info
      { name := profile.name, type := profile.type, requiresOauth := config.requiresOauth
        oauthConnected := config.requiresOauth ∧ (callerUserId caller).any fun userId =>
          (backend.tokens.get? (userId, profile.name)).isSome
        isGlobal, canManage, credentialType := config.credentialType, authType := config.authType
        apiKeyConnected := config.authType ≠ "oauth2" ∧ (callerUserId caller).any fun userId =>
          (backend.apiKeys.get? (userId, profile.name)).isSome })
  else
    pure (.info
      { name := profile.name, type := profile.type, requiresOauth := false, oauthConnected := false
        isGlobal, canManage, credentialType := none, authType := "oauth2"
        apiKeyConnected := false })

/-- Replace the saved connections. -/
def saveConnections (store : ConnectionStore) : Route Unit :=
  modify fun backend => { backend with store }

/-- Remove a connection. -/
def dropConnection (name : String) (owner : Option String) : Route Unit :=
  modify fun backend => { backend with store := deleteConnection backend.store name owner }

/-- Where an authorization server sends the user back. -/
def mcpOauthRedirectUri (publicBaseUrl : String) : String :=
  (publicBaseUrl.dropEndWhile '/').toString ++ "/connections/oauth/callback"

/-- An optional text as JSON. -/
def optionalJson : Option String → Json
  | none => .null
  | some text => .str text

/-! ## Creating a connection -/

section

variable (connectionTypes : ConnectionRegistry) (outside : Outside)

/-- The authorization server of a remote server that does not list its tools to everybody. -/
def discoverOauth (config : McpServerConnectionConfig) : Route (Option OAuthServer) := do
  if config.transport = "remote" ∧ ¬ config.requiresOauth then
    match ← attempt (listTools outside (transportConfig config)) with
    | .ok _ => pure none
    | .error _ =>
      match outside.discoverOAuthServer config.url with
      | .ok discovered => pure (some discovered)
      | .error (.oauthError _) => pure none
      | .error (.other e) => throw (internalError e)
  else pure none

/-- The OAuth client of a new connection: the configured one, or else one that is registered now.
The connection is removed again if there is none. -/
def oauthClientFor (name : String) (owner : Option String) (config : McpServerConnectionConfig)
    (discovered : OAuthServer) : Route (Option String × Option String) :=
  match config.oauthClientId with
  | some clientId => pure (some clientId, config.oauthClientSecret)
  | none =>
    match discovered.registrationEndpoint with
    | none => do
      dropConnection name owner
      throw ⟨422, "This server requires OAuth but doesn't support dynamic client " ++
        "registration -- supply oauth_client_id/oauth_client_secret (from a " ++
        "pre-registered OAuth client for this server) when creating this connection."⟩
    | some registrationEndpoint =>
      match outside.publicBaseUrl with
      | none | some "" => do
        dropConnection name owner
        throw ⟨422, "No public base URL configured yet -- set one first (see Settings) " ++
          "before connecting an OAuth-requiring MCP server."⟩
      | some publicBaseUrl =>
        match outside.registerClient registrationEndpoint (mcpOauthRedirectUri publicBaseUrl)
            config.oauthScope with
        | .ok (clientId, clientSecret) => pure (some clientId, clientSecret)
        | .error (.oauthError e) => do
          dropConnection name owner
          throw ⟨502, s!"Dynamic client registration failed: {e}"⟩
        | .error (.other e) => throw (internalError e)

/-- Remember that a new connection needs OAuth; its types are generated when a user connects. -/
def deferToOauth (profile : ConnectionProfile) (owner : Option String) (caller : Caller)
    (config : McpServerConnectionConfig) (discovered : OAuthServer) : Route ConnectionAnswer := do
  let (clientId, clientSecret) ← oauthClientFor outside profile.name owner config discovered
  let config := ((profile.config.set "requires_oauth" (.bool true)).set "oauth_client_id"
    (optionalJson clientId)).set "oauth_client_secret" (optionalJson clientSecret)
  match updateConnectionConfig (← get).store profile.name owner config with
  | none => throw (internalError "AssertionError")
  | some (updated, store) =>
    saveConnections store
    connectionInfo updated caller

/-- What follows once a new connection is saved. -/
def setUpConnection (profile : ConnectionProfile) (owner : Option String) (caller : Caller) :
    Route Continuation := do
  if profile.type = "mcp_server" then
    let config ← serverConfig profile
    if config.authType ≠ "oauth2" then pure (.respond (← connectionInfo profile caller))
    else
      match ← discoverOauth outside config with
      | some discovered =>
        pure (.respond (← deferToOauth outside profile owner caller config discovered))
      | none =>
        pure (.generate { connectionName := profile.name, ownerUserId := owner }
          (fun e => do
            dropConnection profile.name owner
            throw ⟨502, s!"Connection saved config is valid, but tool discovery failed: {e}"⟩)
          fun _ => connectionInfo profile caller)
  else pure (.respond (← connectionInfo profile caller))

/-- `POST /connections`. -/
def createConnection (request : CreateConnectionRequest) (caller : Caller) :
    Route Continuation := do
  match connectionTypes.get? request.type with
  | none => throw ⟨422, s!"Unknown connection type: {reprStr request.type}"⟩
  | some definition =>
    match definition.configModel request.config with
    | .error e => throw ⟨422, s!"Invalid config for '{request.type}': {e}"⟩
    | .ok () =>
      -- A caller without a user saves global connections without asking for the scope.
      (if request.scope = .global then requireAdmin caller else pure ())
      let owner := if request.scope = .global then none else callerUserId caller
      match addConnection (← get).store request.name request.type request.config owner with
      | none => throw ⟨409, s!"A connection named '{request.name}' already exists"⟩
      | some (profile, store) =>
        saveConnections store
        setUpConnection outside profile owner caller

/-! ## The other endpoints -/

/-- `PUT /connections/{name}`. -/
def updateConnection (name : String) (config : Config) (caller : Caller) :
    Route Continuation := do
  match (getConnection (← get).store name (callerUserId caller)).or
      (getConnection (← get).store name none) with
  | none => throw ⟨404, s!"Unknown connection: {reprStr name}"⟩
  | some profile =>
    requireAdminFor profile.userId caller
    match connectionTypes.get? profile.type with
    | none => throw ⟨422, s!"Unknown connection type: {reprStr profile.type}"⟩
    | some definition =>
      match definition.configModel config with
      | .error e => throw ⟨422, s!"Invalid config for '{profile.type}': {e}"⟩
      | .ok () =>
        match updateConnectionConfig (← get).store name profile.userId config with
        | none => throw (internalError "AssertionError")
        | some (updated, store) =>
          saveConnections store
          pure (.respond (← connectionInfo updated caller))

/-- Forget the token of the owner of a deleted connection. -/
def dropToken (name : String) (profile : ConnectionProfile) : Route Unit :=
  match profile.userId with
  | some userId =>
    if profile.type = "mcp_server" then
      modify fun backend => { backend with tokens := backend.tokens.erase (userId, name) }
    else pure ()
  | none => pure ()

/-- `DELETE /connections/{name}`. -/
def deleteConnectionEndpoint (name : String) (caller : Caller) : Route Continuation := do
  match resolveConnectionForUser (← get).store name (callerUserId caller) with
  | none => throw ⟨404, s!"Unknown connection: {reprStr name}"⟩
  | some profile =>
    requireAdminFor profile.userId caller
    dropConnection name profile.userId
    modify (unregisterForConnection name profile.userId)
    dropToken name profile
    pure (.respond .noContent)

/-- `POST /connections/{name}/refresh-capabilities`. -/
def refreshCapabilities (name : String) (caller : Caller) : Route Continuation := do
  match resolveConnectionForUser (← get).store name (callerUserId caller) with
  | none => throw ⟨404, s!"Unknown connection: {reprStr name}"⟩
  | some profile =>
    if profile.type ≠ "mcp_server" then
      throw ⟨422, s!"Connection '{name}' is not an mcp_server connection"⟩
    else
      pure (.generate ⟨name, profile.userId, callerUserId caller⟩
        (fun e => throw ⟨502, s!"Failed to refresh capabilities: {e}"⟩)
        fun created => pure (.generatedTypes created))

/-- `POST /connections/{name}/promote-to-global`. -/
def promoteConnectionToGlobal (name : String) (caller : Caller) : Route Continuation := do
  requireAdmin caller
  match getConnection (← get).store name (callerUserId caller) with
  | none => throw ⟨404, s!"No private connection named {reprStr name} owned by you"⟩
  | some _ =>
    match setConnectionOwner (← get).store name (callerUserId caller) none with
    | none => throw ⟨409, s!"A global connection named {reprStr name} already exists"⟩
    | some (updated, store) =>
      saveConnections store
      if updated.type = "mcp_server" then
        pure (.generate ⟨name, none, callerUserId caller⟩
          (fun e => throw ⟨502, s!"Promoted to global, but tool discovery failed: {e} " ++
            "-- retry via refresh-capabilities"⟩)
          fun _ => connectionInfo updated caller)
      else pure (.respond (← connectionInfo updated caller))

/-- `POST /connections/{name}/api-key`. -/
def setConnectionApiKey (name apiKey : String) (caller : Caller) : Route Continuation := do
  match callerUserId caller with
  | none => throw ⟨401, "Sign in before connecting an app."⟩
  | some userId =>
    match resolveConnectionForUser (← get).store name (some userId) with
    | none => throw ⟨404, s!"Unknown connection: {reprStr name}"⟩
    | some profile =>
      if profile.type ≠ "mcp_server" then
        throw ⟨422, s!"Connection '{name}' is not an mcp_server connection"⟩
      else
        let config ← serverConfig profile
        if config.authType = "oauth2" then
          throw ⟨422, s!"Connection '{name}' uses OAuth, not an API key."⟩
        else
          modify fun backend =>
            { backend with apiKeys := backend.apiKeys.set (userId, name) apiKey }
          pure (.generate ⟨name, profile.userId, some userId⟩
            (fun e => do
              modify fun backend => { backend with apiKeys := backend.apiKeys.erase (userId, name) }
              throw ⟨502, s!"Saved, but tool discovery failed: {e}"⟩)
            fun _ => connectionInfo profile caller)

/-- Exchange the code of a finished OAuth flow for a token, and store it. -/
def storeOauthToken (code : String) (claims : OAuthStateClaims)
    (config : McpServerConnectionConfig) : Route (Except String Unit) := do
  match outside.discoverOAuthServer config.url with
  | .error (.oauthError e) => pure (.error e)
  | .error (.other e) => throw (internalError e)
  | .ok discovered =>
    match outside.exchangeCode discovered.tokenEndpoint code
        (mcpOauthRedirectUri (outside.publicBaseUrl.getD "")) config.oauthClientId
        config.oauthClientSecret claims.codeVerifier with
    | .error (.oauthError e) => pure (.error e)
    | .error (.other e) => throw (internalError e)
    | .ok response =>
      attempt (storeTokenResponse claims.userId claims.connectionName response
        discovered.tokenEndpoint config.oauthClientId config.oauthClientSecret)

/-- `GET /connections/oauth/callback`. -/
def mcpConnectionOauthCallback (code state : String) (cookie : Option String) :
    Route Continuation := do
  if cookie = none ∨ cookie = some "" ∨ cookie ≠ some state then
    throw ⟨400, "OAuth state mismatch -- possible CSRF, please reconnect."⟩
  else
    match outside.verifyStateToken state with
    | none => throw ⟨400, "OAuth state expired or invalid -- please reconnect."⟩
    | some claims =>
      let result := ConnectionAnswer.oauthResult claims.popup claims.redirectTo
      match resolveConnectionForUser (← get).store claims.connectionName (some claims.userId) with
      | none =>
        pure (.respond (result (.error
          s!"Connection '{claims.connectionName}' no longer exists")))
      | some profile =>
        let config ← serverConfig profile
        match ← storeOauthToken outside code claims config with
        | .error e => pure (.respond (result (.error e)))
        | .ok () =>
          pure (.generate ⟨claims.connectionName, profile.userId, some claims.userId⟩
            (fun e => pure (result (.error s!"Connected, but tool discovery failed: {e}")))
            fun _ => pure (result (.ok claims.connectionName)))

/-- The user whose credential lists the tools of a saved connection when the backend starts. -/
def startupUserId (profile : ConnectionProfile) : Route (Option String) := do
  match profile.userId with
  | some userId => pure (some userId)
  | none =>
    let config ← serverConfig profile
    let backend ← get
    let withName := fun key : String × String => key.2 = profile.name
    if config.authType ≠ "oauth2" then
      pure ((backend.apiKeys.keys.find? withName).map Prod.fst)
    else if config.requiresOauth then pure ((backend.tokens.keys.find? withName).map Prod.fst)
    else pure none

/-- One round of the loop that generates all types when the backend starts
(`regenerate_all_on_startup`). -/
def regenerateOnStartup (profile : ConnectionProfile) : Route Continuation := do
  if profile.type ≠ "mcp_server" then pure (.respond .noContent)
  else
    let discoveryUserId ← startupUserId profile
    pure (.generate ⟨profile.name, profile.userId, discoveryUserId⟩
      (fun _ => pure .noContent) fun _ => pure .noContent)

/-! ## Requests -/

/-- A request of a caller, or a round of the startup. -/
inductive ConnectionRequest where
  | startup (profile : ConnectionProfile)
  | create (request : CreateConnectionRequest) (caller : Caller)
  | update (name : String) (config : Config) (caller : Caller)
  | refresh (name : String) (caller : Caller)
  | promote (name : String) (caller : Caller)
  | delete (name : String) (caller : Caller)
  | setApiKey (name apiKey : String) (caller : Caller)
  | oauthCallback (code state : String) (cookie : Option String)

/-- The endpoint of a request. -/
def endpoint : ConnectionRequest → Route Continuation
  | .startup profile => regenerateOnStartup profile
  | .create request caller => createConnection connectionTypes outside request caller
  | .update name config caller => updateConnection connectionTypes name config caller
  | .refresh name caller => refreshCapabilities name caller
  | .promote name caller => promoteConnectionToGlobal name caller
  | .delete name caller => deleteConnectionEndpoint name caller
  | .setApiKey name apiKey caller => setConnectionApiKey name apiKey caller
  | .oauthCallback code state cookie => mcpConnectionOauthCallback outside code state cookie

/-- The backend after a request. -/
def afterRequest (request : ConnectionRequest) (backend : Backend) : Backend :=
  Stateful.stateOf ((serve outside (endpoint connectionTypes outside request)).run backend)

end

/-- The backend knows one connection type. -/
def serverTypes : ConnectionRegistry :=
  .ofList [("mcp_server", { configModel := readable McpServerConnectionConfig.parse })]

/-- An administrator. -/
def alice : Caller := some ⟨"alice", "admin"⟩

/-! ## What the parts of the endpoints leave alone -/

section

variable {τ : Type} {view : Backend → τ} {outside : Outside}

theorem save_connections_frame (h : ∀ backend store, view { backend with store } = view backend)
    (store : ConnectionStore) : Stateful.Frame view (saveConnections store) :=
  Stateful.frame_modify fun _ => h _ _

theorem drop_connection_frame (h : ∀ backend store, view { backend with store } = view backend)
    (name : String) (owner : Option String) : Stateful.Frame view (dropConnection name owner) :=
  Stateful.frame_modify fun _ => h _ _

theorem server_config_frame (profile : ConnectionProfile) :
    Stateful.Frame view (serverConfig profile) := Stateful.frame_ofExcept _

/-- Telling about a connection changes nothing. -/
theorem connection_info_frame (profile : ConnectionProfile) (caller : Caller) :
    Stateful.Frame view (connectionInfo profile caller) := by
  unfold connectionInfo
  dsimp only
  split
  · exact Stateful.frame_bind (server_config_frame profile) fun _ =>
      Stateful.frame_bind Stateful.frame_get fun _ => Stateful.frame_pure _
  · exact Stateful.frame_pure _

theorem require_admin_frame (caller : Caller) : Stateful.Frame view (requireAdmin caller) := by
  unfold requireAdmin
  split
  · split
    · exact Stateful.frame_throw _
    · exact Stateful.frame_pure _
  · exact Stateful.frame_pure _

/-- Signed-in users who pass are administrators. -/
theorem require_admin_ok {caller : Caller} {backend middle : Backend}
    (h : (requireAdmin caller).run backend = .ok () middle) :
    ∀ user, caller = some user → user.role = "admin" := by
  intro user huser
  subst huser
  by_contra hrole
  have hrefused : requireAdmin (some user) = throw ⟨403, "Admin access required"⟩ := if_pos hrole
  rw [hrefused] at h
  cases h

theorem require_admin_for_frame (owner : Option String) (caller : Caller) :
    Stateful.Frame view (requireAdminFor owner caller) := by
  unfold requireAdminFor
  split
  · exact require_admin_frame caller
  · exact Stateful.frame_pure _

theorem startup_user_id_frame (profile : ConnectionProfile) :
    Stateful.Frame view (startupUserId profile) := by
  unfold startupUserId
  split
  · exact Stateful.frame_pure _
  · refine Stateful.frame_bind (server_config_frame profile) fun config => ?_
    refine Stateful.frame_bind Stateful.frame_get fun backend => ?_
    dsimp only
    split
    · exact Stateful.frame_pure _
    · split <;> exact Stateful.frame_pure _

/-- Looking for an authorization server only remembers a tool list. -/
theorem discover_oauth_frame (h : ∀ backend toolLists, view { backend with toolLists } =
    view backend)
    (config : McpServerConnectionConfig) :
    Stateful.Frame view (discoverOauth outside config) := by
  unfold discoverOauth
  split
  · refine Stateful.frame_bind (Stateful.frame_attempt
      (list_tools_frame h _)) fun listed => ?_
    split
    · exact Stateful.frame_pure _
    · split
      · exact Stateful.frame_pure _
      · exact Stateful.frame_pure _
      · exact Stateful.frame_throw _
  · exact Stateful.frame_pure _

/-- Finishing an OAuth flow only stores a token. -/
theorem store_oauth_token_frame
    (h : ∀ backend tokens, view { backend with tokens } = view backend) (code : String)
    (claims : OAuthStateClaims) (config : McpServerConnectionConfig) :
    Stateful.Frame view (storeOauthToken outside code claims config) := by
  unfold storeOauthToken
  split
  · exact Stateful.frame_pure _
  · exact Stateful.frame_throw _
  · split
    · exact Stateful.frame_pure _
    · exact Stateful.frame_throw _
    · exact Stateful.frame_attempt (store_token_response_frame (fun _ _ => h _ _) _ _ _ _)

theorem drop_token_frame (h : ∀ backend tokens, view { backend with tokens } = view backend)
    (name : String) (profile : ConnectionProfile) :
    Stateful.Frame view (dropToken name profile) := by
  unfold dropToken
  split
  · split
    · exact Stateful.frame_modify fun _ => h _ _
    · exact Stateful.frame_pure _
  · exact Stateful.frame_pure _

end

/-! ## Invariants of requests -/

/-- Both answers to a generation keep an invariant. -/
def Continuation.Keeps (invariant : Backend → Prop) : Continuation → Prop
  | .respond _ => True
  | .generate _ failed done =>
    (∀ e, Stateful.Keeps invariant (failed e) fun _ => True) ∧
    ∀ created, Stateful.Keeps invariant (done created) fun _ => True

/-- What follows an endpoint keeps an invariant that generations and the answers keep. -/
theorem perform_keeps {outside : Outside} {invariant : Backend → Prop} {next : Continuation}
    (hgenerate : ∀ call : GenerationCall, Stateful.Keeps invariant
      (generateNodeTypesForConnection outside call.connectionName call.ownerUserId
        call.discoveryUserId) fun _ => True)
    (hnext : next.Keeps invariant) :
    Stateful.Keeps invariant (next.perform outside) fun _ => True := by
  cases next with
  | respond answer => exact Stateful.keeps_pure trivial
  | generate call failed done =>
      refine Stateful.keeps_bind (Stateful.keeps_attempt (hgenerate call)) fun result _ => ?_
      split
      · exact hnext.2 _
      · exact hnext.1 _

end AgentGraphStudio
