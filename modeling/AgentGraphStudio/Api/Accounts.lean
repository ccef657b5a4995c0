import AgentGraphStudio.Auth.Jwt
import AgentGraphStudio.Lib.Pool
import AgentGraphStudio.Storage.Users

/-!
# Signing in and inviting

The routes under `/auth` of `backend/api/app.py` and the bootstrapping of the first admin, as
threads over the accounts and the tokens that the server has signed. Google, the clock and the
settings answer as they like. Callers present what tokens they have: none of their own making
verifies. `accounts_safe` says what holds however these requests interleave.
-/

namespace AgentGraphStudio

/-- What Google says about a user (`GoogleUserInfo`). -/
structure GoogleUserInfo where
  email : String
  emailVerified : Bool
  name : String

/-- What the exchange of a code raises: a `GoogleOAuthError`, or an error of another class. -/
inductive GoogleFailure where
  | oauth (text : String)
  | other (text : String)

/-- A request's credential, after `require_auth` has read it: a token, or the shared API key. -/
inductive AccountCredential (Token : Type) where
  | session (token : Token)
  | apiKey

/-- The answer of `GET /auth/me`. -/
structure MeResponse where
  userId : String
  email : String
  displayName : String
  role : String

/-- What a request ends with. -/
inductive AccountReply (Token : Type) where
  | loginRedirect (redirectUri : String) (state : Token)
  | signedIn (redirectTo : Json) (token : Token)
  | authError (redirectTo : Json) (reason : String)
  | me (response : MeResponse)
  | invited (response : InviteRow)
  | consentRedirect (state : Token)
  | started
  | refused (error : HttpError)
  | failed (error : TokenError)
  | raised (text : String)

/-- One step of a request. -/
inductive AccountOp (Token : Type) where
  | utcnowIso
  | uuid4
  | getPublicBaseUrl
  | exchangeCodeForUserinfo (code redirectUri : String)
  | issueToken (userId email role : String)
  | issueStateToken (redirectTo : String)
  | issueMcpOauthStateToken (userId connectionName codeVerifier redirectTo : String) (popup : Bool)
  | verifyToken (token : Token)
  | verifyStateToken (state : Token)
  | getInvite (email : String)
  | addInvite (email role : String) (invitedBy : Json) (invitedAt : String)
  | getUserByEmail (email : String)
  | getUserById (userId : Json)
  | createUser (row : UserRow)
  | ensureAdminBootstrapped (adminEmail bootstrappedAt : String)

/-- What a step is answered. -/
abbrev AccountRes (Token : Type) : AccountOp Token → Type
  | .utcnowIso | .uuid4 => String
  | .getPublicBaseUrl => Option String
  | .exchangeCodeForUserinfo .. => Except GoogleFailure GoogleUserInfo
  | .issueToken .. | .issueStateToken _ | .issueMcpOauthStateToken .. => Except TokenError Token
  | .verifyToken _ => Except TokenError (Option SessionClaims)
  | .verifyStateToken _ => Except TokenError (Option Json)
  | .getInvite _ => Option InviteRow
  | .addInvite .. => InviteRow
  | .getUserByEmail _ | .getUserById _ => Option UserRow
  | .createUser _ => Except String UserRow
  | .ensureAdminBootstrapped .. => Unit

section

variable {Token : Type}

/-- A part of a request. -/
abbrev AccountProgram (Token α : Type) : Type :=
  Program (AccountOp Token) (AccountRes Token) α

/-- Do one step. -/
def accountStep (op : AccountOp Token) : AccountProgram Token (AccountRes Token op) :=
  Program.op op

/-! ## The routes -/

/-- `public_base_url.rstrip('/')`. -/
def rstripSlash (url : String) : String := (url.dropEndWhile '/').toString

/-- Where Google is told to lead back to. -/
def googleRedirectUri (publicBaseUrl : String) : String :=
  rstripSlash publicBaseUrl ++ "/auth/google/callback"

/-- Lead to Google, with a state that leads back (`google_login`). -/
def googleLogin (redirectTo : String) : AccountProgram Token (AccountReply Token) := do
  match (← accountStep .getPublicBaseUrl).filter (· ≠ "") with
  | none =>
    pure (.refused ⟨422, "No public base URL configured yet -- set one first (see Settings) " ++
      "before signing in with Google."⟩)
  | some publicBaseUrl =>
    match ← accountStep (.issueStateToken redirectTo) with
    | .error error => pure (.failed error)
    | .ok state => pure (.loginRedirect (googleRedirectUri publicBaseUrl) state)

/-- The account of an invited user, which is made if there is none. -/
def findOrCreateUser (userinfo : GoogleUserInfo) (invite : InviteRow) :
    AccountProgram Token (Except String UserRow) := do
  match ← accountStep (.getUserByEmail userinfo.email) with
  | some user => pure (.ok user)
  | none =>
    let userId ← accountStep .uuid4
    let createdAt ← accountStep .utcnowIso
    accountStep (.createUser
      { id := userId
        email := userinfo.email
        displayName := userinfo.name
        role := invite.role
        createdAt
        invitedBy := invite.invitedBy })

/-- Sign in the user whom Google vouches for, if invited. -/
def signIn (redirectTo : Json) (userinfo : GoogleUserInfo) :
    AccountProgram Token (AccountReply Token) := do
  match ← accountStep (.getInvite userinfo.email) with
  | none => pure (.authError redirectTo "not_invited")
  | some invite =>
    match ← findOrCreateUser userinfo invite with
    | .error text => pure (.raised text)
    | .ok user =>
      match ← accountStep (.issueToken user.id user.email user.role) with
      | .error error => pure (.failed error)
      | .ok token => pure (.signedIn redirectTo token)

/-- What Google leads back to (`google_callback`). An empty cookie counts as none. -/
def googleCallback [DecidableEq Token] (code : String) (state : Token)
    (oauthState : Option Token) : AccountProgram Token (AccountReply Token) := do
  if oauthState ≠ some state then
    pure (.refused ⟨400, "OAuth state mismatch -- possible CSRF, please sign in again"⟩)
  else
    match ← accountStep (.verifyStateToken state) with
    | .error error => pure (.failed error)
    | .ok none =>
      pure (.refused ⟨400, "OAuth state expired or invalid -- please sign in again"⟩)
    | .ok (some redirectTo) =>
      let publicBaseUrl := (← accountStep .getPublicBaseUrl).getD ""
      match ← accountStep (.exchangeCodeForUserinfo code (googleRedirectUri publicBaseUrl)) with
      | .error (.oauth text) => pure (.authError redirectTo text)
      | .error (.other text) => pure (.raised text)
      | .ok userinfo => signIn redirectTo userinfo

/-- Let a request on to its route, with its user (what `require_auth` does on these paths). -/
def requireUser (credential : AccountCredential Token)
    (route : Option SessionClaims → AccountProgram Token (AccountReply Token)) :
    AccountProgram Token (AccountReply Token) := do
  match credential with
  | .apiKey => route none
  | .session token =>
    match ← accountStep (.verifyToken token) with
    | .error error => pure (.failed error)
    | .ok none => pure (.refused ⟨401, "Missing or invalid credential"⟩)
    | .ok (some claims) => route (some claims)

/-- Who is signed in (`get_me`). -/
def getMe : Option SessionClaims → AccountProgram Token (AccountReply Token)
  | none => pure (.refused ⟨401, "Not signed in as a user"⟩)
  | some user => do
    match ← accountStep (.getUserById user.userId) with
    | none => pure (.refused ⟨401, "User no longer exists"⟩)
    | some row => pure (.me ⟨row.id, row.email, row.displayName, row.role⟩)

/-- Invite an address (`invite_user`). -/
def inviteUser (email role : String) :
    Option SessionClaims → AccountProgram Token (AccountReply Token)
  | none => pure (.refused ⟨403, "Only an admin can invite a new user"⟩)
  | some user => do
    if user.role ≠ .str "admin" then
      pure (.refused ⟨403, "Only an admin can invite a new user"⟩)
    else
      let invitedAt ← accountStep .utcnowIso
      let row ← accountStep (.addInvite email role user.userId invitedAt)
      pure (.invited row)

/-- The start of the process, as far as accounts go (`_lifespan`). -/
def bootstrapAdmin (adminEmail : String) : AccountProgram Token (AccountReply Token) := do
  let bootstrappedAt ← accountStep .utcnowIso
  accountStep (.ensureAdminBootstrapped adminEmail bootstrappedAt)
  pure .started

/-- Someone at work on the accounts. Of a connection's consent, only its token matters here. -/
inductive AccountThread (Token : Type) where
  | lifespan (adminEmail : String)
  | googleLogin (redirectTo : String)
  | googleCallback (code : String) (state : Token) (oauthState : Option Token)
  | getMe (credential : AccountCredential Token)
  | inviteUser (credential : AccountCredential Token) (email role : String)
  | consent (userId connectionName codeVerifier redirectTo : String) (popup : Bool)

/-- The program of a thread. -/
def AccountThread.program [DecidableEq Token] :
    AccountThread Token → AccountProgram Token (AccountReply Token)
  | .lifespan adminEmail => bootstrapAdmin adminEmail
  | .googleLogin redirectTo => AgentGraphStudio.googleLogin redirectTo
  | .googleCallback code state oauthState => AgentGraphStudio.googleCallback code state oauthState
  | .getMe credential => requireUser credential AgentGraphStudio.getMe
  | .inviteUser credential email role =>
    requireUser credential (AgentGraphStudio.inviteUser email role)
  | .consent userId connectionName codeVerifier redirectTo popup => do
    match ← accountStep
        (.issueMcpOauthStateToken userId connectionName codeVerifier redirectTo popup) with
    | .error error => pure (.failed error)
    | .ok state => pure (.consentRedirect state)

/-! ## What they share -/

/-- The library that signs, and the secret. -/
structure AccountSettings (Token : Type) where
  pyjwt : PyJwt Token
  secret : String

/-- The database, and the tokens that were signed. -/
structure AccountsState (Token : Type) where
  db : UsersDb
  issued : List Token

/-- A token was signed, or not. -/
def AccountsState.issue (state : AccountsState Token) :
    Except TokenError Token → AccountsState Token
  | .ok token => { state with issued := state.issued ++ [token] }
  | .error _ => state

/-- The token was signed here, if it verifies at all. -/
def AccountsState.Unforged (state : AccountsState Token) (settings : AccountSettings Token)
    (now : Datetime) (token : Token) : Prop :=
  ∀ payload, settings.pyjwt.decode token settings.secret now = .ok payload → token ∈ state.issued

/-- What a step answers and changes, at some moment. The store is asked for ids that are texts; no
more is said of others. -/
def accountsEffect (settings : AccountSettings Token) (state : AccountsState Token) :
    Event (AccountOp Token) (AccountRes Token) → AccountsState Token → Prop
  | ⟨.utcnowIso, _⟩, next | ⟨.uuid4, _⟩, next | ⟨.getPublicBaseUrl, _⟩, next
  | ⟨.exchangeCodeForUserinfo .., _⟩, next => next = state
  | ⟨.issueToken userId email role, response⟩, next =>
    (∃ now, response = settings.pyjwt.issueToken (some settings.secret) now userId email role) ∧
      next = state.issue response
  | ⟨.issueStateToken redirectTo, response⟩, next =>
    (∃ now, response = settings.pyjwt.issueStateToken (some settings.secret) now redirectTo) ∧
      next = state.issue response
  | ⟨.issueMcpOauthStateToken userId connectionName codeVerifier redirectTo popup, response⟩,
    next =>
    (∃ now, response = settings.pyjwt.issueMcpOauthStateToken (some settings.secret) now userId
      connectionName codeVerifier redirectTo popup) ∧ next = state.issue response
  | ⟨.verifyToken token, response⟩, next =>
    (∃ now, state.Unforged settings now token ∧
      response = settings.pyjwt.verifyToken (some settings.secret) now token) ∧ next = state
  | ⟨.verifyStateToken token, response⟩, next =>
    (∃ now, state.Unforged settings now token ∧
      response = settings.pyjwt.verifyStateToken (some settings.secret) now token) ∧ next = state
  | ⟨.getInvite email, response⟩, next => response = state.db.getInvite email ∧ next = state
  | ⟨.addInvite email role invitedBy invitedAt, response⟩, next => ∀ id, invitedBy = .str id →
    response = (state.db.addInvite email role (some id) invitedAt).1 ∧
      next = { state with db := (state.db.addInvite email role (some id) invitedAt).2 }
  | ⟨.getUserByEmail email, response⟩, next =>
    response = state.db.getUserByEmail email ∧ next = state
  | ⟨.getUserById userId, response⟩, next =>
    (∀ id, userId = .str id → response = state.db.getUserById id) ∧ next = state
  | ⟨.createUser row, .ok user⟩, next =>
    ∃ db, state.db.createUser row = .ok (user, db) ∧ next = { state with db }
  | ⟨.createUser row, .error text⟩, next => state.db.createUser row = .error text ∧ next = state
  | ⟨.ensureAdminBootstrapped adminEmail bootstrappedAt, _⟩, next =>
    next = { state with db := state.db.ensureAdminBootstrapped adminEmail bootstrappedAt }

end

end AgentGraphStudio
