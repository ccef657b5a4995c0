import AgentGraphStudio.Auth.Jwt
import AgentGraphStudio.Lib.Pool

/-!
# Connecting an account

The two routes of `backend/api/app.py` by which a user connects an account to an OAuth connection.
The start draws a PKCE pair, signs a state that carries its verifier, and leads to the provider's
page with the state and the challenge; the callback brings back a code and the state, and exchanges
the code with the verifier. Anyone may open any page, bring any code with any state, and do so at
any time. `accounts_connected_by_their_owners` says that a token is stored for a user only if the
code was given out on the page that a start of this user for this connection has led to, and is
brought by the browser that has the state in its cookie.
-/

namespace AgentGraphStudio.ConnectFlow

/-! ## The flow -/

/-- What is known of an authorization server. -/
structure DiscoveredOAuthServer where
  authorizationEndpoint : String
  tokenEndpoint : String
  scopesSupported : Option (List String)

/-- The page of a provider to which a start leads (`build_authorization_url`). -/
structure AuthorizationUrl (Token : Type) where
  authorizationEndpoint : String
  clientId : String
  redirectUri : String
  state : Token
  codeChallenge : String
  resource : String
  scope : Option String

/-- One step of the flow. -/
inductive ConnectOp (Token : Type) where
  | resolveConnectionForUser (name userId : Json)
  | getPublicBaseUrl
  | discoverOauthServer (url : String)
  | newPkcePair
  | issueMcpOauthStateToken (userId connectionName codeVerifier redirectTo : String) (popup : Bool)
  | verifyMcpOauthStateToken (state : Token)
  | popupTargetOrigin (redirectTo : Json)
  | consent (page : AuthorizationUrl Token)
  | exchangeCodeForToken (tokenEndpoint code redirectUri : String)
      (clientId clientSecret : Option String) (codeVerifier : Json)
  | saveToken (userId connectionName : Json) (token : OAuthToken)
  | generateNodeTypes (connectionName : Json) (ownerUserId : Option String) (discoveryUserId : Json)

/-- What a step is answered. A PKCE pair is a verifier and its challenge, a consent is answered with
a code, and the text that a user came from need not be a URL. -/
abbrev ConnectRes (Token : Type) : ConnectOp Token → Type
  | .resolveConnectionForUser .. => Option ConnectionProfile
  | .getPublicBaseUrl => Option String
  | .discoverOauthServer _ => Except OAuthFailure DiscoveredOAuthServer
  | .newPkcePair => String × String
  | .issueMcpOauthStateToken .. => Except TokenError Token
  | .verifyMcpOauthStateToken _ => Except TokenError (Option McpOauthStateClaims)
  | .popupTargetOrigin _ => Except String String
  | .consent _ => String
  | .exchangeCodeForToken .. => Except OAuthFailure TokenResponse
  | .saveToken .. => Unit
  | .generateNodeTypes .. => Except String Unit

/-- How a callback ends. -/
inductive ConnectOutcome where
  | noLongerExists (connectionName : Json)
  | oauthError (text : String)
  | discoveryFailed (text : String)
  | connected (connectionName : Json)

/-- What a request ends with. A result is told to the page that the user came from, or to its origin
alone if it has opened a popup. -/
inductive ConnectReply (Token : Type) where
  | redirect (page : AuthorizationUrl Token) (cookie : Token)
  | result (claims : McpOauthStateClaims) (popupTargetOrigin : String) (outcome : ConnectOutcome)
  | given (code : String)
  | refused (error : HttpError)
  | failed (error : TokenError)
  | raised (text : String)

section

variable {Token : Type}

/-- A part of a request. -/
abbrev ConnectProgram (Token α : Type) : Type := Program (ConnectOp Token) (ConnectRes Token) α

/-- Do one step. -/
def connectStep (op : ConnectOp Token) : ConnectProgram Token (ConnectRes Token op) :=
  Program.op op

/-- The scope that is asked for: the configured one, or else what the server says it has. -/
def scopeOf (config : McpServerConnectionConfig) (discovered : DiscoveredOAuthServer) :
    Option String :=
  match config.oauthScope.filter (· ≠ "") with
  | some scope => some scope
  | none => (discovered.scopesSupported.filter (· ≠ [])).map (" ".intercalate ·)

/-- Draw a pair, sign the state and lead to the provider (the end of
`mcp_connection_oauth_start`). -/
def leadToProvider (name redirectTo userId clientId publicBaseUrl : String) (popup : Bool)
    (config : McpServerConnectionConfig) (discovered : DiscoveredOAuthServer) :
    ConnectProgram Token (ConnectReply Token) := do
  let (codeVerifier, codeChallenge) ← connectStep .newPkcePair
  match ← connectStep (.issueMcpOauthStateToken userId name codeVerifier redirectTo popup) with
  | .error error => pure (.failed error)
  | .ok state =>
    pure (.redirect
      { authorizationEndpoint := discovered.authorizationEndpoint
        clientId
        redirectUri := mcpOauthRedirectUri publicBaseUrl
        state
        codeChallenge
        resource := config.url
        scope := scopeOf config discovered } state)

/-- Start the flow of a connection with a client. -/
def startWithClient (name redirectTo userId clientId : String) (popup : Bool)
    (config : McpServerConnectionConfig) : ConnectProgram Token (ConnectReply Token) := do
  match (← connectStep .getPublicBaseUrl).filter (· ≠ "") with
  | none =>
    pure (.refused ⟨422, "No public base URL configured yet -- set one first (see Settings) " ++
      "before connecting."⟩)
  | some publicBaseUrl =>
    match ← connectStep (.discoverOauthServer config.url) with
    | .error (.oauthError e) =>
      pure (.refused ⟨502, s!"Could not reach '{name}''s OAuth server: {e}"⟩)
    | .error (.other e) => pure (.raised e)
    | .ok discovered =>
      leadToProvider name redirectTo userId clientId publicBaseUrl popup config discovered

/-- Start the flow of a connection that was found. -/
def startForProfile (name redirectTo userId : String) (popup : Bool)
    (profile : ConnectionProfile) : ConnectProgram Token (ConnectReply Token) :=
  match McpServerConnectionConfig.parse profile.config with
  | .error text => pure (.raised text)
  | .ok config =>
    if ¬ config.requiresOauth then
      pure (.refused ⟨422, s!"Connection '{name}' does not require OAuth."⟩)
    else
      match config.oauthClientId.filter (· ≠ "") with
      | none => pure (.refused ⟨500, s!"Connection '{name}' has no OAuth client configured."⟩)
      | some clientId => startWithClient name redirectTo userId clientId popup config

/-- `GET /connections/oauth/start`. -/
def mcpConnectionOauthStart (name redirectTo : String) (caller : Caller) (popup : Bool) :
    ConnectProgram Token (ConnectReply Token) := do
  match callerUserId caller with
  | none => pure (.refused ⟨401, "Sign in before connecting an app."⟩)
  | some userId =>
    match ← connectStep (.resolveConnectionForUser (.str name) (.str userId)) with
    | none => pure (.refused ⟨404, s!"Unknown connection: {reprStr name}"⟩)
    | some profile => startForProfile name redirectTo userId popup profile

/-- The token that an answer brings, if it brings one (the mapping of `store_token_response`). -/
def tokenOf (config : McpServerConnectionConfig) (discovered : DiscoveredOAuthServer)
    (response : TokenResponse) : Option OAuthToken :=
  (response.accessToken.filter (· ≠ "")).map fun accessToken =>
    { accessToken
      refreshToken := response.refreshToken.getD none
      expiresAt := response.expiresAt
      tokenEndpoint := discovered.tokenEndpoint
      clientId := config.oauthClientId
      clientSecret := config.oauthClientSecret }

/-- Exchange the code, store the token and generate the node types (the end of
`mcp_connection_oauth_callback`). -/
def exchangeAndStore (code : String) (claims : McpOauthStateClaims) (popupTargetOrigin : String)
    (profile : ConnectionProfile) (config : McpServerConnectionConfig) (publicBaseUrl : String)
    (discovered : DiscoveredOAuthServer) : ConnectProgram Token (ConnectReply Token) := do
  match ← connectStep (.exchangeCodeForToken discovered.tokenEndpoint code
      (mcpOauthRedirectUri publicBaseUrl) config.oauthClientId config.oauthClientSecret
      claims.codeVerifier) with
  | .error (.oauthError e) => pure (.result claims popupTargetOrigin (.oauthError e))
  | .error (.other e) => pure (.raised e)
  | .ok response =>
    match tokenOf config discovered response with
    | none =>
      pure (.result claims popupTargetOrigin (.oauthError "Token response had no access_token"))
    | some token =>
      connectStep (.saveToken claims.userId claims.connectionName token)
      match ← connectStep
          (.generateNodeTypes claims.connectionName profile.userId claims.userId) with
      | .error e => pure (.result claims popupTargetOrigin (.discoveryFailed e))
      | .ok () => pure (.result claims popupTargetOrigin (.connected claims.connectionName))

/-- Go on with a code for a connection that was found. -/
def callbackForProfile (code : String) (claims : McpOauthStateClaims) (popupTargetOrigin : String)
    (profile : ConnectionProfile) : ConnectProgram Token (ConnectReply Token) :=
  match McpServerConnectionConfig.parse profile.config with
  | .error text => pure (.raised text)
  | .ok config => do
    let publicBaseUrl := (← connectStep .getPublicBaseUrl).getD ""
    match ← connectStep (.discoverOauthServer config.url) with
    | .error (.oauthError e) => pure (.result claims popupTargetOrigin (.oauthError e))
    | .error (.other e) => pure (.raised e)
    | .ok discovered =>
      exchangeAndStore code claims popupTargetOrigin profile config publicBaseUrl discovered

/-- Go on with a code for the user and the connection of a state that has verified. -/
def callbackWithClaims (code : String) (claims : McpOauthStateClaims) (popupTargetOrigin : String) :
    ConnectProgram Token (ConnectReply Token) := do
  match ← connectStep (.resolveConnectionForUser claims.connectionName claims.userId) with
  | none =>
    pure (.result claims popupTargetOrigin (.noLongerExists claims.connectionName))
  | some profile => callbackForProfile code claims popupTargetOrigin profile

/-- `GET /connections/oauth/callback`. An empty cookie counts as none. -/
def mcpConnectionOauthCallback [DecidableEq Token] (code : String) (state : Token)
    (cookie : Option Token) : ConnectProgram Token (ConnectReply Token) := do
  if cookie ≠ some state then
    pure (.refused ⟨400, "OAuth state mismatch -- possible CSRF, please reconnect."⟩)
  else
    match ← connectStep (.verifyMcpOauthStateToken state) with
    | .error error => pure (.failed error)
    | .ok none => pure (.refused ⟨400, "OAuth state expired or invalid -- please reconnect."⟩)
    | .ok (some claims) =>
      match ← connectStep (.popupTargetOrigin claims.redirectTo) with
      | .error text => pure (.raised text)
      | .ok popupTargetOrigin => callbackWithClaims code claims popupTargetOrigin

/-- Someone at work: a start, a callback, or someone who consents on a page of the provider. -/
inductive ConnectThread (Token : Type) where
  | start (name redirectTo : String) (caller : Caller) (popup : Bool)
  | callback (code : String) (state : Token) (cookie : Option Token)
  | consent (page : AuthorizationUrl Token)

/-- The program of a thread. -/
def ConnectThread.program [DecidableEq Token] :
    ConnectThread Token → ConnectProgram Token (ConnectReply Token)
  | .start name redirectTo caller popup => mcpConnectionOauthStart name redirectTo caller popup
  | .callback code state cookie => mcpConnectionOauthCallback code state cookie
  | .consent page => do
    let code ← connectStep (.consent page)
    pure (.given code)

/-! ## What they share -/

/-- The library that signs, the secret, and the challenge of a verifier. -/
structure ConnectSettings (Token : Type) where
  pyjwt : PyJwt Token
  secret : String
  challengeOf : String → String

/-- The states that were signed, the challenges that were drawn, and the codes that the provider has
given out, each with the challenge of its page. -/
structure ConnectState (Token : Type) where
  issued : List Token
  challenges : List String
  granted : List (String × String)

/-- A state was signed, or not. -/
def ConnectState.issue (state : ConnectState Token) :
    Except TokenError Token → ConnectState Token
  | .ok token => { state with issued := state.issued ++ [token] }
  | .error _ => state

/-- If the token verifies at all it was signed here: as a state of this flow, or as a session or a
state of a sign-in. -/
def ConnectState.Unforged (state : ConnectState Token) (settings : ConnectSettings Token)
    (now : Datetime) (token : Token) : Prop :=
  ∀ payload, settings.pyjwt.decode token settings.secret now = .ok payload →
    token ∈ state.issued ∨ settings.pyjwt.Issues (some settings.secret) token .session ∨
      settings.pyjwt.Issues (some settings.secret) token .signIn

/-- What a step answers and changes. A pair is drawn once; a provider gives out a code once, and
takes it only with a verifier of the challenge that the page had. -/
def connectEffect (settings : ConnectSettings Token) (state : ConnectState Token) :
    Event (ConnectOp Token) (ConnectRes Token) → ConnectState Token → Prop
  | ⟨.resolveConnectionForUser .., _⟩, next | ⟨.getPublicBaseUrl, _⟩, next
  | ⟨.discoverOauthServer _, _⟩, next | ⟨.popupTargetOrigin _, _⟩, next
  | ⟨.saveToken .., _⟩, next | ⟨.generateNodeTypes .., _⟩, next => next = state
  | ⟨.newPkcePair, pair⟩, next =>
    pair.2 = settings.challengeOf pair.1 ∧ pair.2 ∉ state.challenges ∧
      next = { state with challenges := state.challenges ++ [pair.2] }
  | ⟨.issueMcpOauthStateToken userId connectionName codeVerifier redirectTo popup, response⟩,
    next =>
    (∃ now, response = settings.pyjwt.issueMcpOauthStateToken (some settings.secret) now userId
      connectionName codeVerifier redirectTo popup) ∧ next = state.issue response
  | ⟨.verifyMcpOauthStateToken token, response⟩, next =>
    (∃ now, state.Unforged settings now token ∧
      response = settings.pyjwt.verifyMcpOauthStateToken (some settings.secret) now token) ∧
      next = state
  | ⟨.consent page, code⟩, next =>
    (∀ entry ∈ state.granted, entry.1 ≠ code) ∧
      next = { state with granted := state.granted ++ [(code, page.codeChallenge)] }
  | ⟨.exchangeCodeForToken _ code _ _ _ codeVerifier, response⟩, next =>
    (∀ answer, response = .ok answer →
      ∃ verifier, codeVerifier = .str verifier ∧
        (code, settings.challengeOf verifier) ∈ state.granted) ∧ next = state

end

end AgentGraphStudio.ConnectFlow
