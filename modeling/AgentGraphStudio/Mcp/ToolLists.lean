import AgentGraphStudio.Connections.McpServerConnection
import AgentGraphStudio.Lib.Stateful
import AgentGraphStudio.Mcp.OptionBindings
import AgentGraphStudio.Nodes.Builtin

/-!
# Discovering the tools of a server

The state that the backend keeps about connections while it runs, and how it finds out which tools
a server has: `list_tools` of `backend/mcp/transport.py` over the two clients, each of which
remembers the first answer of a server, failures included, and `_server_config_for` of
`backend/mcp/generated_nodes.py`, which attaches the credential of a user. What lies outside the
backend is an `Outside`, which may differ from one request to the next.
-/

namespace AgentGraphStudio

/-! ## The state of the backend -/

/-- A stored OAuth token of a user for a connection. -/
structure OAuthToken where
  accessToken : String
  refreshToken : Option String
  expiresAt : Option String
  tokenEndpoint : String
  clientId : Option String
  clientSecret : Option String

/-- What a client needs to reach a server, and what the server's tools are remembered under: its
command and arguments, or its URL and headers. -/
inductive ToolListKey where
  | stdio (command : String) (args : List String)
  | remote (url : String) (headers : List (String × String))
  deriving DecidableEq

/-- The stores, and what the process keeps in memory: the tool lists that were discovered, the
node types, which of them were generated for which connection, and the option bindings. -/
structure Backend where
  store : ConnectionStore
  apiKeys : Dict (String × String) String
  tokens : Dict (String × String) OAuthToken
  toolLists : Dict ToolListKey (Except String (List McpToolInfo))
  registry : NodeRegistry Body
  generatedTypes : Dict ConnectionKey (List String)
  optionBindings : OptionBindings

/-! ## The world outside -/

/-- How a request to an authorization server fails. -/
inductive OAuthFailure where
  | oauthError (message : String)
  | other (message : String)

/-- The text of the exception. -/
def OAuthFailure.text : OAuthFailure → String
  | .oauthError message | .other message => message

/-- The endpoints of an authorization server. -/
structure OAuthServer where
  tokenEndpoint : String
  registrationEndpoint : Option String

/-- The answer of a token endpoint, with the time at which the token expires. It need not say
anything of a refresh token, and may say that there is none. `OAuthFlow` has the answer itself. -/
structure TokenResponse where
  accessToken : Option String
  refreshToken : Option (Option String)
  expiresAt : Option String

/-- What the state of an OAuth flow says: who connects which connection. -/
structure OAuthStateClaims where
  userId : String
  connectionName : String
  codeVerifier : String
  redirectTo : String
  popup : Bool

/-- What a request finds outside the backend: the servers, the authorization servers, the clock,
the settings and the signatures. What `discoverOAuthServer` and `registerClient` ask and what they
raise is left open here; `OAuthFlow.overHttp` answers them over HTTP. -/
structure Outside where
  listTools : ToolListKey → Except String (List McpToolInfo)
  callTool : McpServerConfig → String → Config → Except String String
  discoverOAuthServer : String → Except OAuthFailure OAuthServer
  registerClient : String → String → Option String → Except OAuthFailure (String × Option String)
  exchangeCode : String → String → String → Option String → Option String → String →
    Except OAuthFailure TokenResponse
  refreshAccess : String → String → String → Option String → Except OAuthFailure TokenResponse
  isExpiringSoon : String → Bool
  publicBaseUrl : Option String
  verifyStateToken : String → Option OAuthStateClaims

/-- A step of a request. What it has changed stays changed when it raises. -/
abbrev Step (α : Type) := EStateM String Backend α

/-! ## `list_tools` -/

/-- The key under which a client remembers the answer of a server. -/
def toolListKey (server : McpServerConfig) : ToolListKey :=
  if server.transport = "stdio" then .stdio server.command server.args
  else .remote server.url
    (server.headers.entries.mergeSort fun a b => decide (a.1 ≤ b.1))

/-- The text with which a client reports a failed discovery. -/
def discoveryFailure (key : ToolListKey) (e : String) : String :=
  match key with
  | .stdio command args =>
    let args := " ".intercalate args
    s!"Failed to discover tools from MCP server ({command} {args}): {e}"
  | .remote url _ => s!"Failed to discover tools from remote MCP server ({url}): {e}"

/-- The tools of a server: those that the first discovery in this process found. -/
def listTools (outside : Outside) (server : McpServerConfig) : Step (List McpToolInfo) := do
  match (← get).toolLists.get? (toolListKey server) with
  | some cached => Stateful.ofExcept cached
  | none =>
    let found := (outside.listTools (toolListKey server)).mapError
      (discoveryFailure (toolListKey server))
    modify fun backend =>
      { backend with toolLists := backend.toolLists.set (toolListKey server) found }
    Stateful.ofExcept found

/-! ## Credentials -/

/-- Store the answer of a token endpoint. -/
def storeTokenResponse (userId connectionName : String) (response : TokenResponse)
    (tokenEndpoint : String) (clientId clientSecret : Option String) : Step Unit := do
  match response.accessToken with
  | none | some "" => throw "Token response had no access_token"
  | some accessToken =>
    let token : OAuthToken :=
      { accessToken, refreshToken := response.refreshToken.getD none,
        expiresAt := response.expiresAt
        tokenEndpoint, clientId, clientSecret }
    modify fun backend =>
      { backend with tokens := backend.tokens.set (userId, connectionName) token }

/-- An answer with an access token is stored. -/
theorem store_token_response_of_ne {userId connectionName accessToken tokenEndpoint : String}
    {newToken : Option (Option String)} {expiresAt clientId clientSecret : Option String}
    {backend : Backend} (haccess : accessToken ≠ "") :
    (storeTokenResponse userId connectionName ⟨some accessToken, newToken, expiresAt⟩ tokenEndpoint
      clientId clientSecret).run backend =
      .ok () { backend with
        tokens := backend.tokens.set (userId, connectionName)
          { accessToken, refreshToken := newToken.getD none, expiresAt, tokenEndpoint, clientId
            clientSecret } } := by
  unfold storeTokenResponse
  dsimp only
  split
  · rename_i hnone
    cases hnone
  · rename_i hempty
    exact absurd (Option.some.inj hempty) haccess
  · rename_i heq
    cases heq
    rfl

/-- The access token of a user, refreshed if it is about to expire. -/
def getValidAccessToken (outside : Outside) (userId connectionName : String) : Step String := do
  match (← get).tokens.get? (userId, connectionName) with
  | none =>
    throw (s!"No OAuth connection found for '{connectionName}' -- connect it first " ++
      "(Settings -> Connections).")
  | some row =>
    if row.expiresAt.any outside.isExpiringSoon then
      match row.refreshToken with
      | none =>
        throw (s!"'{connectionName}''s access token has expired and there's no refresh token -- " ++
          "reconnect it (Settings -> Connections).")
      | some refreshToken =>
        match outside.refreshAccess row.tokenEndpoint refreshToken (row.clientId.getD "")
            row.clientSecret with
        | .error failure =>
          match failure with
          | .oauthError e =>
            throw (s!"'{connectionName}''s access token expired and refreshing it failed ({e}) " ++
              "-- reconnect it.")
          | .other e => throw e
        | .ok refreshed =>
          storeTokenResponse userId connectionName
            { refreshed with
              refreshToken := some (refreshed.refreshToken.getD (some refreshToken)) }
            row.tokenEndpoint row.clientId row.clientSecret
          pure (refreshed.accessToken.getD "")
    else pure row.accessToken

/-- The server of a connection, with the credential of this user if it needs one
(`_server_config_for`). -/
def serverConfigOf (outside : Outside) (config : McpServerConnectionConfig)
    (connectionName : String) (userId : Option String) : Step McpServerConfig :=
  if config.authType ≠ "oauth2" then
    match userId with
    | none =>
      throw (s!"mcp_server connection '{connectionName}' needs a personal API key but has " ++
        "no owning user")
    | some userId => do
      match (← get).apiKeys.get? (userId, connectionName) with
      | none =>
        throw (s!"mcp_server connection '{connectionName}' needs a personal API key -- " ++
          "connect it first (Settings -> Connections)")
      | some apiKey => pure (withBearer (transportConfig config) apiKey)
  else if config.requiresOauth then
    match userId with
    | none =>
      throw s!"mcp_server connection '{connectionName}' requires OAuth but has no owning user"
    | some userId => do
      let token ← getValidAccessToken outside userId connectionName
      pure (withBearer (transportConfig config) token)
  else pure (transportConfig config)

/-- The tools of a saved connection: the part of `generate_node_types_for_connection` that
comes before any change of the node types. -/
def discoverTools (outside : Outside) (connectionName : String) (ownerUserId : Option String)
    (discoveryUserId : Option String) : Step (List McpToolInfo) := do
  match getConnection (← get).store connectionName ownerUserId with
  | none => throw s!"Connection '{connectionName}' does not exist"
  | some profile =>
    if profile.type ≠ "mcp_server" then
      throw s!"Connection '{connectionName}' is not an mcp_server connection"
    else
      let config ← Stateful.ofExcept (McpServerConnectionConfig.parse profile.config)
      let server ← serverConfigOf outside config connectionName
        (discoveryUserId.or ownerUserId)
      listTools outside server

/-! ## What discovery leaves alone -/

/-- The part of the backend that says which node types there are. -/
def nodeTypes (backend : Backend) :
    NodeRegistry Body × Dict ConnectionKey (List String) × OptionBindings :=
  (backend.registry, backend.generatedTypes, backend.optionBindings)

section

variable {outside : Outside} {τ : Type} {view : Backend → τ}

theorem list_tools_frame
    (h : ∀ backend toolLists, view { backend with toolLists } = view backend)
    (server : McpServerConfig) : Stateful.Frame view (listTools outside server) := by
  refine Stateful.frame_bind Stateful.frame_get fun backend => ?_
  split
  · exact Stateful.frame_ofExcept _
  · exact Stateful.frame_bind (Stateful.frame_modify fun _ => h _ _) fun _ =>
      Stateful.frame_ofExcept _

/-- Storing a token changes only that of this user for this connection. -/
theorem store_token_response_frame {userId connectionName : String}
    (h : ∀ backend token, view { backend with
      tokens := backend.tokens.set (userId, connectionName) token } = view backend)
    (response : TokenResponse) (tokenEndpoint : String)
    (clientId clientSecret : Option String) : Stateful.Frame view
      (storeTokenResponse userId connectionName response tokenEndpoint clientId clientSecret) := by
  unfold storeTokenResponse
  split
  · exact Stateful.frame_throw _
  · exact Stateful.frame_throw _
  · exact Stateful.frame_modify fun _ => h _ _

theorem get_valid_access_token_frame {userId connectionName : String}
    (h : ∀ backend token, view { backend with
      tokens := backend.tokens.set (userId, connectionName) token } = view backend) :
    Stateful.Frame view (getValidAccessToken outside userId connectionName) := by
  refine Stateful.frame_bind Stateful.frame_get fun backend => ?_
  split
  · exact Stateful.frame_throw _
  · split
    · split
      · exact Stateful.frame_throw _
      · split
        · split <;> exact Stateful.frame_throw _
        · exact Stateful.frame_bind (store_token_response_frame h _ _ _ _) fun _ =>
            Stateful.frame_pure _
    · exact Stateful.frame_pure _

/-- Attaching a credential changes at most the token of this user for this connection. -/
theorem server_config_of_frame {connectionName : String} {userId : Option String}
    (h : ∀ user, userId = some user → ∀ backend token, view { backend with
      tokens := backend.tokens.set (user, connectionName) token } = view backend)
    (config : McpServerConnectionConfig) :
    Stateful.Frame view (serverConfigOf outside config connectionName userId) := by
  unfold serverConfigOf
  split
  · split
    · exact Stateful.frame_throw _
    · refine Stateful.frame_bind Stateful.frame_get fun backend => ?_
      split
      · exact Stateful.frame_throw _
      · exact Stateful.frame_pure _
  · split
    · split
      · exact Stateful.frame_throw _
      · exact Stateful.frame_bind (get_valid_access_token_frame (h _ rfl)) fun _ =>
          Stateful.frame_pure _
    · exact Stateful.frame_pure _

/-- Discovery changes only the tokens and the remembered tool lists. -/
theorem discover_tools_frame
    (htokens : ∀ backend tokens, view { backend with tokens } = view backend)
    (hlists : ∀ backend toolLists, view { backend with toolLists } = view backend)
    (connectionName : String) (ownerUserId discoveryUserId : Option String) :
    Stateful.Frame view (discoverTools outside connectionName ownerUserId discoveryUserId) := by
  refine Stateful.frame_bind Stateful.frame_get fun backend => ?_
  split
  · exact Stateful.frame_throw _
  · split
    · exact Stateful.frame_throw _
    · refine Stateful.frame_bind (Stateful.frame_ofExcept _) fun config => ?_
      exact Stateful.frame_bind
        (server_config_of_frame (fun _ _ backend _ => htokens backend _) _) fun server =>
        list_tools_frame hlists server

end

end AgentGraphStudio
