import AgentGraphStudio.Mcp.Client

/-!
# The `mcp_server` connection type

`backend/connections/mcp_server_connection.py`: the configuration of a saved MCP server.
`trusted` opens the approval gate of the nodes generated from the connection, and
`auth_type` and `requires_oauth` say which personal credential a call must carry.
-/

namespace AgentGraphStudio

/-- The validated configuration of an MCP server. -/
structure McpServerConnectionConfig where
  transport : String := "stdio"
  command : String := ""
  args : List String := []
  url : String := ""
  headers : Dict String String := .empty
  trusted : Bool := false
  requiresOauth : Bool := false
  oauthClientId : Option String := none
  oauthClientSecret : Option String := none
  oauthScope : Option String := none
  credentialType : Option String := none
  authType : String := "oauth2"

/-- Validate the configuration of a connection. -/
def McpServerConnectionConfig.parse (config : Config) :
    Except String McpServerConnectionConfig := do
  let transport ← config.literal "transport" ["stdio", "remote"] "stdio"
  let command ← config.withDefault "command" Json.str? ""
  let args ← config.withDefault "args" Json.strList? []
  let url ← config.withDefault "url" Json.str? ""
  let headers ← config.withDefault "headers" Json.strDict? .empty
  let trusted ← config.withDefault "trusted" Json.bool? false
  let requiresOauth ← config.withDefault "requires_oauth" Json.bool? false
  let oauthClientId ← config.optionalStr "oauth_client_id"
  let oauthClientSecret ← config.optionalStr "oauth_client_secret"
  let oauthScope ← config.optionalStr "oauth_scope"
  let credentialType ← config.optionalStr "credential_type"
  let authType ← config.literal "auth_type" ["oauth2", "api_key", "bearer"] "oauth2"
  if transport = "stdio" ∧ command = "" then .error "transport='stdio' requires 'command'"
  else if transport = "remote" ∧ url = "" then .error "transport='remote' requires 'url'"
  else
    pure
      { transport, command, args, url, headers, trusted, requiresOauth
        oauthClientId, oauthClientSecret, oauthScope, credentialType, authType }

/-- Where the server of a connection is reached, without a credential. -/
def transportConfig (config : McpServerConnectionConfig) : McpServerConfig where
  transport := config.transport
  command := config.command
  args := config.args
  url := config.url
  headers := config.headers

end AgentGraphStudio
