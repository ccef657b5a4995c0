import AgentGraphStudio.Lib.Datetime
import AgentGraphStudio.Mcp.ToolLists
import AgentGraphStudio.Mcp.RemoteClient

/-!
# Access tokens and their refresh

`backend/mcp/oauth_flow.py` over `backend/mcp/oauth_token_storage.py`, with the answer of the
token endpoint field by field and the readings of the clock. `get_valid_access_token` hands out
the stored token, or refreshes it first when it expires within a minute. An instant is counted in
microseconds, and the column of a row that holds the `isoformat` of an instant holds the instant.
Secrets are kept in plain, since they are decrypted with the key they were encrypted with.
-/

namespace AgentGraphStudio

namespace OAuthFlow

/-! ## Instants -/

/-- `instant + timedelta(seconds=seconds)`. -/
def addSeconds (instant : Datetime) (seconds : Int) : Except String Datetime :=
  (instant.add (seconds * microsPerSecond)).elim (.error "date value out of range") .ok

/-- What `datetime.now` gives when a token is checked, when its expiry is computed and when it is
saved. -/
structure Clock where
  checked : Datetime
  received : Datetime
  saved : Datetime

/-! ## The stored tokens -/

/-- The row of a user and a connection. -/
structure McpOAuthTokenRow where
  accessToken : String
  refreshToken : Option String
  expiresAt : Option Datetime
  tokenType : String
  scope : Option String
  tokenEndpoint : String
  clientId : Option String
  clientSecret : Option String
  updatedAt : Datetime

/-- The table `mcp_oauth_tokens`, by user and connection. -/
abbrev TokenTable := Dict (String × String) McpOAuthTokenRow

/-- A use of the table. -/
abbrev TokenAction (α : Type) := EStateM OAuthFailure TokenTable α

/-- Go on with a value of the standard library, whose exceptions are not `McpOAuthError`s. -/
def orRaise {α : Type} (value : Except String α) : TokenAction α :=
  Stateful.ofExcept (value.mapError .other)

/-- A value in the answer of a token endpoint. Besides JSON, `json.loads` reads numbers that are not
finite. -/
inductive AnswerValue where
  | json (value : Json)
  | nan
  | infinity (negative : Bool)

/-- An answer that is an object. -/
abbrev TokenBody := Dict String AnswerValue

namespace AnswerValue

/-- `bool(value)`. -/
def truthy : AnswerValue → Bool
  | .json value => AgentGraphStudio.truthy value
  | .nan | .infinity _ => true

/-- `repr(value)`. -/
def repr (python : Python) : AnswerValue → String
  | .json value => python.repr value
  | .nan => "nan"
  | .infinity negative => if negative then "-inf" else "inf"

end AnswerValue

/-- The text of an answer. -/
def bodyText (python : Python) (body : TokenBody) : String :=
  let items := body.entries.map fun (name, value) =>
    python.repr (.str name) ++ ": " ++ value.repr python
  "\x7b" ++ ", ".intercalate items ++ "\x7d"

/-- What UTF-8 has no encoding for raises when it is encoded, or bound for a statement. -/
def encoded (python : Python) (text : String) : Except String String :=
  if python.encodes text then .ok text
  else .error "'utf-8' codec can't encode characters: surrogates not allowed"

/-- What of a value can be encrypted: a text, or nothing at all. -/
def encrypt (python : Python) : AnswerValue → Except String (Option String)
  | .json .null => .ok none
  | .json (.str value) => some <$> encoded python value
  | _ => .error "object has no attribute 'encode'"

section

variable (python : Python) (realText : Int → Int → String)

/-- What a `TEXT` column keeps of a bound value. The text of a real number is SQLite's. -/
def columnText : Json → Except String (Option String)
  | .null => .ok none
  | .bool value => .ok (some (if value then "1" else "0"))
  | .int value =>
    if -9223372036854775808 ≤ value ∧ value < 9223372036854775808 then .ok (some (toString value))
    else .error "Python int too large to convert to SQLite INTEGER"
  | .float mantissa exponent => .ok (some (realText mantissa exponent))
  | .str value => some <$> encoded python value
  | .arr _ | .obj _ => .error "Error binding parameter: type is not supported"

/-- What a `TEXT` column keeps of a value of an answer. SQLite takes NaN for NULL. -/
def answerText : AnswerValue → Except String (Option String)
  | .json value => columnText python realText value
  | .nan => .ok none
  | .infinity negative => .ok (some (if negative then "-Inf" else "Inf"))

end

/-- A value for a column that is `NOT NULL`. -/
def notNull (column : String) : Option String → Except String String
  | none => .error s!"NOT NULL constraint failed: mcp_oauth_tokens.{column}"
  | some value => .ok value

section

variable (python : Python) (realText : Int → Int → String) (userId connectionName : String)

/-- The row of a user and a connection (`get_token`). -/
def getToken : TokenAction (Option McpOAuthTokenRow) := do
  let userId ← orRaise (encoded python userId)
  let connectionName ← orRaise (encoded python connectionName)
  pure ((← get).get? (userId, connectionName))

/-- The row that is made of the parameters of the statement. Those that were read from a row have an
encoding. -/
def tokenRow (accessToken refreshToken : AnswerValue) (expiresAt : Option Datetime)
    (tokenType scope : AnswerValue) (tokenEndpoint : String) (clientId clientSecret : Option String)
    (updatedAt : Datetime) : Except String McpOAuthTokenRow := do
  let accessToken ← encrypt python accessToken
  let refreshToken ← encrypt python refreshToken
  -- the parameters are bound before the constraints of the table are checked
  let tokenType ← answerText python realText tokenType
  let scope ← answerText python realText scope
  let accessToken ← notNull "access_token" accessToken
  let tokenType ← notNull "token_type" tokenType
  pure { accessToken, refreshToken, expiresAt, tokenType, scope, tokenEndpoint, clientId
         clientSecret, updatedAt }

/-- Insert a row, or update the one there is. -/
def saveToken (accessToken refreshToken : AnswerValue) (expiresAt : Option Datetime)
    (tokenType scope : AnswerValue) (tokenEndpoint : String)
    (clientId clientSecret : Option String) (updatedAt : Datetime) : TokenAction Unit := do
  let row ← orRaise (tokenRow python realText accessToken refreshToken expiresAt tokenType scope
    tokenEndpoint clientId clientSecret updatedAt)
  modify fun tokens => tokens.set (userId, connectionName) row

end

/-! ## The token endpoint -/

/-- What comes of a request to a token endpoint: an exception of the HTTP client, or an answer
with its text and what `json()` makes of it: an object, or something else. -/
inductive TokenAnswer where
  | networkError (e : String)
  | response (statusCode : Nat) (text : String) (json : Except String (Option TokenBody))

/-- The token endpoints: what comes of posting a form. -/
abbrev TokenEndpoints := String → List (String × String) → TokenAnswer

/-- The body of an answer (`_post_token_request`). -/
def postTokenRequest (endpoints : TokenEndpoints) (tokenEndpoint : String)
    (data : List (String × String)) : Except OAuthFailure (Option TokenBody) :=
  match endpoints tokenEndpoint data with
  | .networkError e => .error (.other e)
  | .response statusCode text json =>
    if statusCode ≠ 200 then
      .error (.oauthError s!"Token request to {tokenEndpoint} failed: {statusCode} {text}")
    else json.mapError .other

/-- The form of a refresh. -/
def refreshForm (refreshToken clientId : String) (clientSecret : Option String) :
    List (String × String) :=
  [("grant_type", "refresh_token"), ("refresh_token", refreshToken), ("client_id", clientId)] ++
    match clientSecret with
    | none | some "" => []
    | some clientSecret => [("client_secret", clientSecret)]

/-- Refresh an access token (`_refresh_async`). -/
def refresh (endpoints : TokenEndpoints) (tokenEndpoint refreshToken clientId : String)
    (clientSecret : Option String) : Except OAuthFailure (Option TokenBody) :=
  postTokenRequest endpoints tokenEndpoint (refreshForm refreshToken clientId clientSecret)

/-! ## Expiry -/

/-- `int(value)`. -/
def intOf (python : Python) : AnswerValue → Except String Int
  | .json (.int value) => .ok value
  | .json (.bool value) => .ok (if value then 1 else 0)
  | .json (.float mantissa exponent) =>
    .ok (if 0 ≤ exponent then mantissa * 10 ^ exponent.toNat
      else mantissa.tdiv (10 ^ (-exponent).toNat))
  | .json (.str text) => do
    match ← python.int text with
    | .int value => .ok value
    | _ => .error "int() gave something else"
  | .json _ => .error "int() argument must be a string or a real number"
  | .nan => .error "cannot convert float NaN to integer"
  | .infinity _ => .error "cannot convert float infinity to integer"

/-- When a token that is valid for so many seconds expires. -/
def computeExpiresAt (python : Python) (now : Datetime) :
    AnswerValue → Except String (Option Datetime)
  | .json .null => .ok none
  | expiresIn => do
    let seconds ← intOf python expiresIn
    some <$> addSeconds now seconds

/-- Is it less than a minute to the expiry? -/
def isExpiringSoon (now expiresAt : Datetime) : Except String Bool := do
  let limit ← addSeconds expiresAt (-60)
  pure (decide (limit.micros ≤ now.micros))

/-! ## The token that is handed out -/

section

variable (python : Python) (realText : Int → Int → String) (clock : Clock)
  (endpoints : TokenEndpoints) (userId connectionName : String)

/-- Store the answer of a token endpoint. -/
def storeTokenResponse (tokenResponse : TokenBody) (tokenEndpoint : String)
    (clientId clientSecret : Option String) : TokenAction Unit := do
  let accessToken := tokenResponse.getD "access_token" (.json .null)
  if accessToken.truthy then
    let expiresAt ← orRaise
      (computeExpiresAt python clock.received (tokenResponse.getD "expires_in" (.json .null)))
    saveToken python realText userId connectionName accessToken
      (tokenResponse.getD "refresh_token" (.json .null)) expiresAt
      (tokenResponse.getD "token_type" (.json (.str "Bearer")))
      (tokenResponse.getD "scope" (.json .null)) tokenEndpoint clientId clientSecret clock.saved
  else
    let tokenResponse := bodyText python tokenResponse
    throw (.oauthError s!"Token response had no access_token: {tokenResponse}")

/-- The answer that is stored after a refresh: without a refresh token, it gets the old one. -/
def merged (previous : String) (refreshed : TokenBody) : TokenBody :=
  refreshed.set "refresh_token" (refreshed.getD "refresh_token" (.json (.str previous)))

/-- Store what a refresh brought, and hand out the new token. -/
def storeRefreshed (row : McpOAuthTokenRow) (refreshToken : String)
    (refreshed : Option TokenBody) : TokenAction AnswerValue :=
  match refreshed with
  | none => throw (.other "object is not a mapping")
  | some refreshed => do
    storeTokenResponse python realText clock userId connectionName (merged refreshToken refreshed)
      row.tokenEndpoint row.clientId row.clientSecret
    match refreshed.get? "access_token" with
    | none => throw (.other "'access_token'")
    | some accessToken => pure accessToken

/-- Refresh the token of a row. -/
def refreshRow (row : McpOAuthTokenRow) : TokenAction AnswerValue :=
  match row.refreshToken with
  | none =>
    throw (.oauthError (s!"'{connectionName}''s access token has expired and there's no " ++
      "refresh token -- reconnect it (Settings -> Connections)."))
  | some refreshToken =>
    match refresh endpoints row.tokenEndpoint refreshToken (row.clientId.getD "")
        row.clientSecret with
    | .error (.oauthError e) =>
      throw (.oauthError (s!"'{connectionName}''s access token expired and refreshing it " ++
        s!"failed ({e}) -- reconnect it."))
    | .error (.other e) => throw (.other e)
    | .ok refreshed =>
      storeRefreshed python realText clock userId connectionName row refreshToken refreshed

/-- The access token of a user, refreshed if it is about to expire. -/
def getValidAccessToken : TokenAction AnswerValue := do
  match ← getToken python userId connectionName with
  | none =>
    throw (.oauthError (s!"No OAuth connection found for '{connectionName}' -- connect it first " ++
      "(Settings -> Connections)."))
  | some row =>
    match row.expiresAt with
    | none => pure (.json (.str row.accessToken))
    | some expiresAt =>
      if ← orRaise (isExpiringSoon clock.checked expiresAt) then
        refreshRow python realText clock endpoints userId connectionName row
      else pure (.json (.str row.accessToken))

end

/-! ## What the law says -/

/-- The token of a row expires within the next 60 seconds. -/
def ExpiresSoon (now : Datetime) (row : McpOAuthTokenRow) : Prop :=
  ∃ expiresAt, row.expiresAt = some expiresAt ∧ expiresAt.micros ≤ now.micros + 60000000

/-- The refresh token to hold after an answer: the new one, or the previous one if the answer
carries none or null. -/
def keptRefreshToken (previous : String) (body : TokenBody) : AnswerValue :=
  match body.getD "refresh_token" (.json .null) with
  | .json .null => .json (.str previous)
  | refreshToken => refreshToken

/-- The token endpoint answers the refresh of a row with an object. -/
structure Brings (endpoints : TokenEndpoints) (row : McpOAuthTokenRow) (previous : String)
    (body : TokenBody) : Prop where
  token : row.refreshToken = some previous
  answer : refresh endpoints row.tokenEndpoint previous (row.clientId.getD "") row.clientSecret =
    .ok (some body)

section

variable (python : Python) (realText : Int → Int → String) (clock : Clock)
  (endpoints : TokenEndpoints) (userId connectionName : String)

/-- The access token law of a request: what is handed out is not about to expire or comes from
the token endpoint, a refresh keeps what it brought and a refresh token, and a failure is a
`McpOAuthError` that leaves the rows alone. -/
structure AccessTokenLaw (tokens : TokenTable) : Prop where
  fresh : ∀ row token final, tokens.get? (userId, connectionName) = some row →
    (getValidAccessToken python realText clock endpoints userId connectionName).run tokens =
      .ok token final →
    ExpiresSoon clock.checked row →
    ∃ previous body, Brings endpoints row previous body ∧ body.get? "access_token" = some token
  refreshed : ∀ row previous body token final,
    tokens.get? (userId, connectionName) = some row →
    (getValidAccessToken python realText clock endpoints userId connectionName).run tokens =
      .ok token final →
    ExpiresSoon clock.checked row → Brings endpoints row previous body →
    ∃ held refreshToken, final.get? (userId, connectionName) = some held ∧
      .json (.str held.accessToken) = token ∧ held.refreshToken = some refreshToken ∧
      .json (.str refreshToken) = keptRefreshToken previous body
  failed : ∀ failure final,
    (getValidAccessToken python realText clock endpoints userId connectionName).run tokens =
      .error failure final →
    (∃ message, failure = .oauthError message) ∧ final = tokens

/-! ## When it holds -/

/-- A body that the columns can take, and that does not erase the refresh token: the new one, or
else the previous one, is stored. -/
structure Storable (received : Datetime) (previous : String) (body : TokenBody) : Prop where
  accessToken : ∃ token, body.get? "access_token" = some (.json (.str token)) ∧
    python.encodes token
  refreshToken : ∃ token, body.getD "refresh_token" (.json (.str previous)) = .json (.str token) ∧
    python.encodes token
  expiresIn : body.getD "expires_in" (.json .null) = .json .null ∨
    ∃ seconds, intOf python (body.getD "expires_in" (.json .null)) = .ok seconds ∧
      (received.add (seconds * microsPerSecond)).isSome
  tokenType : ∃ text,
    answerText python realText (body.getD "token_type" (.json (.str "Bearer"))) = .ok (some text)
  scope : ∃ text, answerText python realText (body.getD "scope" (.json .null)) = .ok text

/-- An answer that refuses the refresh, has no access token, or can be stored. -/
inductive LawfulAnswer (received : Datetime) (previous : String) : TokenAnswer → Prop
  | refused {statusCode : Nat} {text : String} {json : Except String (Option TokenBody)}
      (hstatus : statusCode ≠ 200) : LawfulAnswer received previous (.response statusCode text json)
  | incomplete {text : String} {body : TokenBody}
      (htoken : (body.getD "access_token" (.json .null)).truthy = false) :
      LawfulAnswer received previous (.response 200 text (.ok (some body)))
  | complete {text : String} {body : TokenBody}
      (hstorable : Storable python realText received previous body) :
      LawfulAnswer received previous (.response 200 text (.ok (some body)))

/-- A row whose expiry can be compared, and whose refresh, if it is due, is answered lawfully. -/
def LawfulRefresh (row : McpOAuthTokenRow) : Prop :=
  ∀ expiresAt, row.expiresAt = some expiresAt → (expiresAt.add (-60 * microsPerSecond)).isSome ∧
    (expiresAt.micros ≤ clock.checked.micros + 60000000 →
      ∀ refreshToken, row.refreshToken = some refreshToken →
        LawfulAnswer python realText clock.received refreshToken (endpoints row.tokenEndpoint
          (refreshForm refreshToken (row.clientId.getD "") row.clientSecret)))

end

/-! ## Saving an answer -/

section

variable {python : Python} {realText : Int → Int → String} {clock : Clock}
  {endpoints : TokenEndpoints} {userId connectionName : String} {tokens : TokenTable}

theorem encoded_eq_ok {text result : String} :
    encoded python text = .ok result ↔ python.encodes text ∧ result = text := by
  unfold encoded
  split
  · simp [*, eq_comm]
  · simp [*]

theorem encrypt_eq_ok_some {value : AnswerValue} {text : String} :
    encrypt python value = .ok (some text) ↔
      value = .json (.str text) ∧ python.encodes text := by
  rcases value with (_ | _ | _ | _ | given | _ | _) | _ | _
  case json.str =>
    have hmap : encrypt python (.json (.str given)) = .ok (some text) ↔
        encoded python given = .ok text := by
      show some <$> encoded python given = _ ↔ _
      cases encoded python given <;> simp
    rw [hmap, encoded_eq_ok]
    constructor
    · rintro ⟨hencodes, rfl⟩
      exact ⟨rfl, hencodes⟩
    · rintro ⟨hsame, hencodes⟩
      cases hsame
      exact ⟨hencodes, rfl⟩
  all_goals simp [encrypt]

theorem not_null_eq_ok {column text : String} {value : Option String} :
    notNull column value = .ok text ↔ value = some text := by
  cases value <;> simp [notNull]

/-- What a raising value is followed by can be taken into it. -/
theorem or_raise_bind {α β : Type} (value : Except String α) (f : α → Except String β) :
    (orRaise (value >>= f) : TokenAction β) = orRaise value >>=
      fun result => orRaise (f result) := by
  cases value <;> rfl

/-- A row is made when the secrets are texts, the columns take the other values, and what may
not be null is not. -/
theorem token_row_eq_ok {accessToken refreshToken tokenType scope : AnswerValue}
    {expiresAt : Option Datetime} {tokenEndpoint : String} {clientId clientSecret : Option String}
    {updatedAt : Datetime} {row : McpOAuthTokenRow} :
    tokenRow python realText accessToken refreshToken expiresAt tokenType scope tokenEndpoint
        clientId clientSecret updatedAt = .ok row ↔
      ∃ access refresh type kept, (accessToken = .json (.str access) ∧ python.encodes access) ∧
        encrypt python refreshToken = .ok refresh ∧
        answerText python realText tokenType = .ok (some type) ∧
        answerText python realText scope = .ok kept ∧
        row = { accessToken := access, refreshToken := refresh, expiresAt, tokenType := type
                scope := kept, tokenEndpoint, clientId, clientSecret, updatedAt } := by
  simp only [tokenRow, except_bind_eq_ok, not_null_eq_ok]
  constructor
  · rintro ⟨_, haccess, refresh, hrefresh, _, htype, kept, hscope, access, rfl, type, rfl, hrow⟩
    cases hrow
    exact ⟨access, refresh, type, kept, encrypt_eq_ok_some.mp haccess, hrefresh, htype, hscope, rfl⟩
  · rintro ⟨access, refresh, type, kept, haccess, hrefresh, htype, hscope, rfl⟩
    exact ⟨_, encrypt_eq_ok_some.mpr haccess, refresh, hrefresh, _, htype, kept, hscope,
      access, rfl,
      type, rfl, rfl⟩

/-- An instant is moved when the result is an instant. -/
theorem add_seconds_ok_iff {instant : Datetime} {seconds : Int} :
    (∃ moved, addSeconds instant seconds = .ok moved) ↔
      (instant.add (seconds * microsPerSecond)).isSome := by
  rw [addSeconds]
  cases instant.add (seconds * microsPerSecond) with
  | some moved => exact iff_of_true ⟨moved, rfl⟩ rfl
  | none =>
      refine iff_of_false ?_ (by simp)
      rintro ⟨_, ⟨⟩⟩

/-- An expiry can be computed for nothing, and for a number that leads to an instant. -/
theorem compute_expires_at_ok_iff {now : Datetime} {value : AnswerValue} :
    (∃ expiresAt, computeExpiresAt python now value = .ok expiresAt) ↔
      value = .json .null ∨ ∃ seconds, intOf python value = .ok seconds ∧
        (now.add (seconds * microsPerSecond)).isSome := by
  by_cases hnull : value = .json .null
  · subst hnull
    exact ⟨fun _ => .inl rfl, fun _ => ⟨none, rfl⟩⟩
  have hcompute : computeExpiresAt python now value =
      intOf python value >>= fun seconds => some <$> addSeconds now seconds := by
    rcases value with (_ | _ | _ | _ | _ | _ | _) | _ | _
    case json.null => exact absurd rfl hnull
    all_goals rfl
  rw [hcompute]
  constructor
  · rintro ⟨_, h⟩
    obtain ⟨seconds, hseconds, hmoved⟩ := except_bind_eq_ok.mp h
    refine .inr ⟨seconds, hseconds, add_seconds_ok_iff.mp ?_⟩
    cases hadd : addSeconds now seconds with
    | ok moved => exact ⟨moved, rfl⟩
    | error e =>
        rw [hadd] at hmoved
        cases hmoved
  · rintro (h | ⟨seconds, hseconds, hrange⟩)
    · exact absurd h hnull
    · obtain ⟨moved, hmoved⟩ := add_seconds_ok_iff.mpr hrange
      exact ⟨some moved, except_bind_eq_ok.mpr ⟨seconds, hseconds, by rw [hmoved]; rfl⟩⟩

/-- The row that an answer with an access token is stored as. -/
def responseRow (python : Python) (realText : Int → Int → String) (clock : Clock)
    (tokenResponse : TokenBody) (tokenEndpoint : String) (clientId clientSecret : Option String) :
    Except String McpOAuthTokenRow := do
  let expiresAt ←
    computeExpiresAt python clock.received (tokenResponse.getD "expires_in" (.json .null))
  tokenRow python realText (tokenResponse.getD "access_token" (.json .null))
    (tokenResponse.getD "refresh_token" (.json .null)) expiresAt
    (tokenResponse.getD "token_type" (.json (.str "Bearer")))
    (tokenResponse.getD "scope" (.json .null)) tokenEndpoint clientId clientSecret clock.saved

variable {body : TokenBody} {tokenEndpoint : String} {clientId clientSecret : Option String}

/-- An answer with an access token is stored as its row. -/
theorem store_token_response_eq
    (htoken : (body.getD "access_token" (.json .null)).truthy = true) :
    storeTokenResponse python realText clock userId connectionName body tokenEndpoint clientId
        clientSecret =
      orRaise (responseRow python realText clock body tokenEndpoint clientId clientSecret) >>=
        fun row => modify fun tokens => tokens.set (userId, connectionName) row := by
  simp only [storeTokenResponse, htoken, if_true, responseRow, saveToken, or_raise_bind, bind_assoc]

theorem getD_eq_str {key text : String} :
    body.getD key (.json .null) = .json (.str text) ↔
      body.get? key = some (.json (.str text)) := by
  unfold Dict.getD
  cases body.get? key <;> simp

/-- What a stored row holds of the answer. -/
theorem response_row_holds {row : McpOAuthTokenRow}
    (h : responseRow python realText clock body tokenEndpoint clientId clientSecret = .ok row) :
    body.getD "access_token" (.json .null) = .json (.str row.accessToken) ∧
      encrypt python (body.getD "refresh_token" (.json .null)) = .ok row.refreshToken := by
  obtain ⟨expiresAt, _, hrow⟩ := except_bind_eq_ok.mp h
  obtain ⟨access, refresh, type, kept, haccess, hrefresh, _, _, rfl⟩ := token_row_eq_ok.mp hrow
  exact ⟨haccess.1, hrefresh⟩

/-- When an answer is stored with a refresh token. -/
theorem response_row_ok_iff :
    (∃ row refreshToken, responseRow python realText clock body tokenEndpoint clientId
        clientSecret = .ok row ∧ row.refreshToken = some refreshToken) ↔
      (∃ token, body.getD "access_token" (.json .null) = .json (.str token) ∧
        python.encodes token) ∧
      (∃ token, body.getD "refresh_token" (.json .null) = .json (.str token) ∧
        python.encodes token) ∧
      (∃ expiresAt, computeExpiresAt python clock.received
        (body.getD "expires_in" (.json .null)) = .ok expiresAt) ∧
      (∃ text, answerText python realText (body.getD "token_type" (.json (.str "Bearer"))) =
        .ok (some text)) ∧
      ∃ text, answerText python realText (body.getD "scope" (.json .null)) = .ok text := by
  constructor
  · rintro ⟨row, refreshToken, hrow, hrefresh⟩
    obtain ⟨expiresAt, hexpires, hrow⟩ := except_bind_eq_ok.mp hrow
    obtain ⟨access, refresh, type, kept, haccess, hencrypt, htype, hscope, rfl⟩ :=
      token_row_eq_ok.mp hrow
    cases hrefresh
    exact ⟨⟨access, haccess⟩, ⟨refreshToken, encrypt_eq_ok_some.mp hencrypt⟩,
      ⟨expiresAt, hexpires⟩, ⟨type, htype⟩, kept, hscope⟩
  · rintro ⟨⟨access, haccess⟩, ⟨refreshToken, hrefresh⟩, ⟨expiresAt, hexpires⟩, ⟨type, htype⟩,
      kept, hscope⟩
    exact ⟨_, refreshToken, except_bind_eq_ok.mpr ⟨expiresAt, hexpires, token_row_eq_ok.mpr
      ⟨access, some refreshToken, type, kept, haccess, encrypt_eq_ok_some.mpr hrefresh, htype,
        hscope, rfl⟩⟩, rfl⟩

theorem merged_getD {previous key : String} {default : AnswerValue} (hkey : key ≠ "refresh_token") :
    (merged previous body).getD key default = body.getD key default := by
  unfold merged Dict.getD
  rw [Dict.get?_set_of_ne _ _ hkey]

theorem merged_refresh_token {previous : String} {default : AnswerValue} :
    (merged previous body).getD "refresh_token" default =
      body.getD "refresh_token" (.json (.str previous)) := by
  unfold merged
  rw [Dict.getD, Dict.get?_set_self, Option.getD_some]

/-- An answer can be stored, and keeps a refresh token, exactly if it is `Storable`. -/
theorem storable_iff {previous : String} :
    Storable python realText clock.received previous body ↔
      ∃ row refreshToken, responseRow python realText clock (merged previous body) tokenEndpoint
        clientId clientSecret = .ok row ∧ row.refreshToken = some refreshToken := by
  rw [response_row_ok_iff, merged_getD (by decide), merged_refresh_token, merged_getD (by decide),
    merged_getD (by decide), merged_getD (by decide), compute_expires_at_ok_iff]
  constructor
  · intro h
    obtain ⟨token, htoken, hencodes⟩ := h.accessToken
    exact ⟨⟨token, getD_eq_str.mpr htoken, hencodes⟩, h.refreshToken, h.expiresIn, h.tokenType,
      h.scope⟩
  · rintro ⟨⟨token, htoken, hencodes⟩, hrefresh, hexpires, htype, hscope⟩
    exact ⟨⟨token, getD_eq_str.mp htoken, hencodes⟩, hrefresh, hexpires, htype, hscope⟩

end

/-! ## How a refresh ends -/

section

variable (python : Python) (realText : Int → Int → String) (clock : Clock)
  (endpoints : TokenEndpoints) (userId connectionName : String) (tokens : TokenTable)
  (row : McpOAuthTokenRow) (previous : String)

/-- An end of a refresh that keeps the law: it is refused with a `McpOAuthError`, or the row holds
the new access token and a refresh token. -/
inductive Renewed : EStateM.Result OAuthFailure TokenTable AnswerValue → Prop
  | refused (message : String) : Renewed (.error (.oauthError message) tokens)
  | stored {body : TokenBody} {held : McpOAuthTokenRow} {refreshToken : String}
      (hbrings : Brings endpoints row previous body)
      (haccess : body.get? "access_token" = some (.json (.str held.accessToken)))
      (hrefresh : held.refreshToken = some refreshToken)
      (hkept : .json (.str refreshToken) = keptRefreshToken previous body) :
      Renewed (.ok (.json (.str held.accessToken)) (tokens.set (userId, connectionName) held))

/-- An end of a refresh that breaks the law: another exception, or a lost refresh token. -/
inductive Broken : EStateM.Result OAuthFailure TokenTable AnswerValue → Prop
  | raised (e : String) : Broken (.error (.other e) tokens)
  | lost {held : McpOAuthTokenRow} (hrefresh : held.refreshToken = none) :
      Broken (.ok (.json (.str held.accessToken)) (tokens.set (userId, connectionName) held))

end

section

variable {python : Python} {realText : Int → Int → String} {clock : Clock}
  {endpoints : TokenEndpoints} {userId connectionName : String} {tokens : TokenTable}
  {row : McpOAuthTokenRow} {previous : String} {body : TokenBody}

/-- An answer without an access token is refused. -/
theorem run_store_refreshed_incomplete
    (htoken : (body.getD "access_token" (.json .null)).truthy = false) :
    ∃ message, (storeRefreshed python realText clock userId connectionName row previous
      (some body)).run tokens = .error (.oauthError message) tokens := by
  have hmerged : ((merged previous body).getD "access_token" (.json .null)).truthy = false := by
    rw [merged_getD (by decide)]
    exact htoken
  simp only [storeRefreshed, storeTokenResponse, hmerged]
  exact ⟨_, rfl⟩

/-- An answer with an access token is stored as its row. -/
theorem run_store_refreshed_row {held : McpOAuthTokenRow}
    (htoken : (body.getD "access_token" (.json .null)).truthy = true)
    (hrow : responseRow python realText clock (merged previous body) row.tokenEndpoint row.clientId
      row.clientSecret = .ok held) :
    (storeRefreshed python realText clock userId connectionName row previous (some body)).run
      tokens = .ok (.json (.str held.accessToken)) (tokens.set (userId, connectionName) held) := by
  have hmerged : ((merged previous body).getD "access_token" (.json .null)).truthy = true := by
    rw [merged_getD (by decide)]
    exact htoken
  have haccess : body.get? "access_token" = some (.json (.str held.accessToken)) := by
    rw [← getD_eq_str, ← merged_getD (by decide)]
    exact (response_row_holds hrow).1
  simp only [storeRefreshed, store_token_response_eq hmerged, hrow, haccess]
  rfl

/-- An answer with an access token is stored as its row, or fails to be stored. -/
theorem run_store_refreshed (htoken : (body.getD "access_token" (.json .null)).truthy = true) :
    (∃ held, responseRow python realText clock (merged previous body) row.tokenEndpoint
        row.clientId row.clientSecret = .ok held ∧
      (storeRefreshed python realText clock userId connectionName row previous (some body)).run
        tokens = .ok (.json (.str held.accessToken)) (tokens.set (userId, connectionName) held)) ∨
      ∃ e, responseRow python realText clock (merged previous body) row.tokenEndpoint
        row.clientId row.clientSecret = .error e ∧
      (storeRefreshed python realText clock userId connectionName row previous (some body)).run
        tokens = .error (.other e) tokens := by
  have hmerged : ((merged previous body).getD "access_token" (.json .null)).truthy = true := by
    rw [merged_getD (by decide)]
    exact htoken
  cases hrow : responseRow python realText clock (merged previous body) row.tokenEndpoint
    row.clientId row.clientSecret with
  | error e =>
      refine .inr ⟨e, rfl, ?_⟩
      simp only [storeRefreshed, store_token_response_eq hmerged, hrow]
      rfl
  | ok held => exact .inl ⟨held, rfl, run_store_refreshed_row htoken hrow⟩

/-- What is stored as the refresh token is the one to keep. -/
theorem kept_of_response_row {held : McpOAuthTokenRow} {refreshToken : String}
    (h : responseRow python realText clock (merged previous body) row.tokenEndpoint row.clientId
      row.clientSecret = .ok held) (hrefresh : held.refreshToken = some refreshToken) :
    .json (.str refreshToken) = keptRefreshToken previous body := by
  have hencrypt := (response_row_holds h).2
  rw [merged_refresh_token, hrefresh] at hencrypt
  have hgiven := (encrypt_eq_ok_some.mp hencrypt).1
  unfold Dict.getD at hgiven
  unfold keptRefreshToken Dict.getD
  cases hvalue : body.get? "refresh_token" with
  | none => simpa [hvalue] using hgiven.symm
  | some value =>
      have hvalue' : value = .json (.str refreshToken) := by simpa [hvalue] using hgiven
      simp [hvalue']

/-- An answer with an access token keeps the law exactly if it is `Storable`. -/
theorem lawful_answer_iff_storable {text : String}
    (htoken : (body.getD "access_token" (.json .null)).truthy = true) :
    LawfulAnswer python realText clock.received previous (.response 200 text (.ok (some body))) ↔
      Storable python realText clock.received previous body := by
  refine ⟨fun h => ?_, .complete⟩
  cases h with
  | refused hstatus => exact absurd rfl hstatus
  | incomplete hfalse =>
      rw [htoken] at hfalse
      cases hfalse
  | complete hstorable => exact hstorable

/-- Storing the body of an answer keeps the law exactly if the answer is lawful. -/
theorem store_refreshed_ends {text : String} {answer : Option TokenBody}
    (hprevious : row.refreshToken = some previous)
    (hanswer : refresh endpoints row.tokenEndpoint previous (row.clientId.getD "")
      row.clientSecret = .ok answer) :
    LawfulAnswer python realText clock.received previous (.response 200 text (.ok answer)) ∧
      Renewed endpoints userId connectionName tokens row previous
        ((storeRefreshed python realText clock userId connectionName row previous answer).run
          tokens) ∨
    ¬ LawfulAnswer python realText clock.received previous (.response 200 text (.ok answer)) ∧
      Broken userId connectionName tokens
        ((storeRefreshed python realText clock userId connectionName row previous answer).run
          tokens) := by
  -- An answer with status 200 is broken if it is no object or has no token.
  cases answer with
  | none =>
      refine .inr ⟨fun h => ?_, .raised _⟩
      cases h with
      | refused hstatus => exact hstatus rfl
  | some body =>
      cases htoken : (body.getD "access_token" (.json .null)).truthy with
      | false =>
          obtain ⟨message, hrun⟩ := run_store_refreshed_incomplete htoken
          rw [hrun]
          exact .inl ⟨.incomplete htoken, .refused message⟩
      | true =>
          rw [lawful_answer_iff_storable htoken, storable_iff]
          obtain ⟨held, hrow, hrun⟩ | ⟨e, hrow, hrun⟩ := run_store_refreshed htoken
          · rw [hrun, hrow]
            cases hrefresh : held.refreshToken with
            | none =>
                refine .inr ⟨?_, .lost hrefresh⟩
                rintro ⟨_, _, ⟨⟩, hsome⟩
                cases hrefresh.symm.trans hsome
            | some refreshToken =>
                have haccess : body.get? "access_token" =
                    some (.json (.str held.accessToken)) := by
                  rw [← getD_eq_str, ← merged_getD (by decide)]
                  exact (response_row_holds hrow).1
                exact .inl ⟨⟨held, refreshToken, rfl, hrefresh⟩,
                  .stored ⟨hprevious, hanswer⟩ haccess hrefresh
                    (kept_of_response_row hrow hrefresh)⟩
          · rw [hrun, hrow]
            refine .inr ⟨?_, .raised e⟩
            rintro ⟨_, _, ⟨⟩, _⟩

variable (python realText clock endpoints userId connectionName tokens) in
/-- A refresh keeps the law exactly if it is answered lawfully. -/
theorem refresh_row_ends (hprevious : row.refreshToken = some previous) :
    LawfulAnswer python realText clock.received previous (endpoints row.tokenEndpoint
        (refreshForm previous (row.clientId.getD "") row.clientSecret)) ∧
      Renewed endpoints userId connectionName tokens row previous
        ((refreshRow python realText clock endpoints userId connectionName row).run tokens) ∨
    ¬ LawfulAnswer python realText clock.received previous (endpoints row.tokenEndpoint
        (refreshForm previous (row.clientId.getD "") row.clientSecret)) ∧
      Broken userId connectionName tokens
        ((refreshRow python realText clock endpoints userId connectionName row).run tokens) := by
  cases hanswer : endpoints row.tokenEndpoint
    (refreshForm previous (row.clientId.getD "") row.clientSecret) with
  | networkError e =>
      refine .inr ⟨fun h => (by cases h), ?_⟩
      simp only [refreshRow, hprevious, refresh, postTokenRequest, hanswer]
      exact .raised e
  | response statusCode text json =>
      by_cases hstatus : statusCode = 200
      · subst hstatus
        cases json with
        | error e =>
            refine .inr ⟨fun h => ?_, ?_⟩
            · cases h with
              | refused hstatus => exact hstatus rfl
            · simp only [refreshRow, hprevious, refresh, postTokenRequest, hanswer]
              exact .raised e
        | ok json =>
            have hrefresh : refresh endpoints row.tokenEndpoint previous (row.clientId.getD "")
                row.clientSecret = .ok json := by
              simp only [refresh, postTokenRequest, hanswer]
              rfl
            simp only [refreshRow, hprevious, hrefresh]
            exact store_refreshed_ends hprevious hrefresh
      · refine .inl ⟨.refused hstatus, ?_⟩
        simp only [refreshRow, hprevious, refresh, postTokenRequest, hanswer, ne_eq, hstatus,
          not_false_eq_true, if_true]
        exact .refused _

end

/-! ## The law -/

section

variable {python : Python} {realText : Int → Int → String} {clock : Clock}
  {endpoints : TokenEndpoints} {userId connectionName : String} {tokens : TokenTable}
  {row : McpOAuthTokenRow} {expiresAt : Datetime}

/-- Whether a token is about to expire can be told if there is a minute before the expiry. -/
theorem is_expiring_soon_eq {now : Datetime} (h : (expiresAt.add (-60 * microsPerSecond)).isSome) :
    isExpiringSoon now expiresAt =
      .ok (decide (expiresAt.micros ≤ now.micros + 60000000)) := by
  have hmoved : expiresAt.add (-60 * microsPerSecond) =
      some ⟨expiresAt.micros + -60 * microsPerSecond, Datetime.add_isSome_iff.mp h⟩ :=
    dif_pos (Datetime.add_isSome_iff.mp h)
  unfold isExpiringSoon addSeconds
  rw [hmoved]
  show Except.ok _ = _
  congr 2
  simp only [microsPerSecond, eq_iff_iff]
  omega

theorem is_expiring_soon_error {now : Datetime}
    (h : ¬ (expiresAt.add (-60 * microsPerSecond)).isSome) :
    isExpiringSoon now expiresAt = .error "date value out of range" := by
  unfold isExpiringSoon addSeconds
  rw [Option.not_isSome_iff_eq_none.mp h]
  rfl

/-- UTF-8 has an encoding for the user and for the name of the connection. -/
def NamesEncoded (python : Python) (userId connectionName : String) : Prop :=
  python.encodes userId ∧ python.encodes connectionName

theorem run_get_token (hnames : NamesEncoded python userId connectionName) :
    (getToken python userId connectionName).run tokens =
      .ok (tokens.get? (userId, connectionName)) tokens := by
  unfold getToken
  rw [encoded_eq_ok.mpr ⟨hnames.1, rfl⟩, encoded_eq_ok.mpr ⟨hnames.2, rfl⟩]
  rfl

/-- Without an encoding for the names, the row cannot be looked up. -/
theorem run_of_unencoded (hnames : ¬ NamesEncoded python userId connectionName) :
    ∃ e, (getValidAccessToken python realText clock endpoints userId connectionName).run tokens =
      .error (.other e) tokens := by
  have hlookup : ∃ e, (getToken python userId connectionName).run tokens =
      .error (.other e) tokens := by
    unfold getToken encoded
    by_cases huser : python.encodes userId
    · rw [if_pos huser, if_neg fun hname => hnames ⟨huser, hname⟩]
      exact ⟨_, rfl⟩
    · rw [if_neg huser]
      exact ⟨_, rfl⟩
  obtain ⟨e, he⟩ := hlookup
  refine ⟨e, ?_⟩
  unfold getValidAccessToken
  rw [EStateM.run_bind, he]

/-- Looking at a row without an expiry. -/
theorem run_of_no_expiry (hnames : NamesEncoded python userId connectionName)
    (hrow : tokens.get? (userId, connectionName) = some row)
    (hexpires : row.expiresAt = none) :
    (getValidAccessToken python realText clock endpoints userId connectionName).run tokens =
      .ok (.json (.str row.accessToken)) tokens := by
  unfold getValidAccessToken
  rw [EStateM.run_bind, run_get_token hnames, hrow]
  simp only [hexpires]
  rfl

/-- Looking at a row with an expiry. -/
theorem run_of_expiry (hnames : NamesEncoded python userId connectionName)
    (hrow : tokens.get? (userId, connectionName) = some row)
    (hexpires : row.expiresAt = some expiresAt) :
    (getValidAccessToken python realText clock endpoints userId connectionName).run tokens =
      (orRaise (isExpiringSoon clock.checked expiresAt) >>= fun expiring =>
        if expiring then refreshRow python realText clock endpoints userId connectionName row
        else pure (.json (.str row.accessToken))).run tokens := by
  unfold getValidAccessToken
  rw [EStateM.run_bind, run_get_token hnames, hrow]
  simp only [hexpires]

/-- No row, no token. -/
theorem run_of_no_row (hnames : NamesEncoded python userId connectionName)
    (hrow : tokens.get? (userId, connectionName) = none) :
    ∃ message,
      (getValidAccessToken python realText clock endpoints userId connectionName).run tokens =
        .error (.oauthError message) tokens := by
  unfold getValidAccessToken
  rw [EStateM.run_bind, run_get_token hnames, hrow]
  exact ⟨_, rfl⟩

/-- Looking at a row whose token is about to expire. -/
theorem run_of_expires_soon (hnames : NamesEncoded python userId connectionName)
    (hrow : tokens.get? (userId, connectionName) = some row)
    (hexpires : row.expiresAt = some expiresAt)
    (hmin : (expiresAt.add (-60 * microsPerSecond)).isSome)
    (hsoon : expiresAt.micros ≤ clock.checked.micros + 60000000) :
    (getValidAccessToken python realText clock endpoints userId connectionName).run tokens =
      (refreshRow python realText clock endpoints userId connectionName row).run tokens := by
  rw [run_of_expiry hnames hrow hexpires, is_expiring_soon_eq hmin, decide_eq_true hsoon]
  rfl

/-- Looking at a row whose token is not about to expire. -/
theorem run_of_not_soon (hnames : NamesEncoded python userId connectionName)
    (hrow : tokens.get? (userId, connectionName) = some row)
    (hexpires : row.expiresAt = some expiresAt)
    (hmin : (expiresAt.add (-60 * microsPerSecond)).isSome)
    (hlater : ¬ expiresAt.micros ≤ clock.checked.micros + 60000000) :
    (getValidAccessToken python realText clock endpoints userId connectionName).run tokens =
      .ok (.json (.str row.accessToken)) tokens := by
  rw [run_of_expiry hnames hrow hexpires, is_expiring_soon_eq hmin, decide_eq_false hlater]
  rfl

/-- A refusal keeps the law. -/
theorem law_of_refused (h : ∃ message,
      (getValidAccessToken python realText clock endpoints userId connectionName).run tokens =
        .error (.oauthError message) tokens) :
    AccessTokenLaw python realText clock endpoints userId connectionName tokens := by
  obtain ⟨message, hresult⟩ := h
  refine ⟨fun _ _ _ _ hrun _ => ?_, fun _ _ _ _ _ _ hrun _ _ => ?_, fun _ _ hrun => ?_⟩
  · cases hresult.symm.trans hrun
  · cases hresult.symm.trans hrun
  · cases hresult.symm.trans hrun
    exact ⟨⟨message, rfl⟩, rfl⟩

/-- Handing out the stored token keeps the law if it is not about to expire. -/
theorem law_of_stored (hrow : tokens.get? (userId, connectionName) = some row)
    (hfresh : ¬ ExpiresSoon clock.checked row)
    (h : (getValidAccessToken python realText clock endpoints userId connectionName).run tokens =
      .ok (.json (.str row.accessToken)) tokens) :
    AccessTokenLaw python realText clock endpoints userId connectionName tokens where
  fresh _ _ _ hother _ hsoon := by
    cases hrow.symm.trans hother
    exact absurd hsoon hfresh
  refreshed _ _ _ _ _ hother _ hsoon _ := by
    cases hrow.symm.trans hother
    exact absurd hsoon hfresh
  failed _ _ hrun := by cases h.symm.trans hrun

theorem Brings.unique {previous other : String} {body second : TokenBody}
    (h : Brings endpoints row previous body) (hother : Brings endpoints row other second) :
    other = previous ∧ second = body := by
  obtain ⟨hprevious, hbody⟩ := h
  obtain ⟨hprevious', hbody'⟩ := hother
  cases hprevious.symm.trans hprevious'
  cases hbody.symm.trans hbody'
  exact ⟨rfl, rfl⟩

/-- A renewed row keeps the law. -/
theorem law_of_renewed (hrow : tokens.get? (userId, connectionName) = some row) {previous : String}
    (h : Renewed endpoints userId connectionName tokens row previous
      ((getValidAccessToken python realText clock endpoints userId connectionName).run tokens)) :
    AccessTokenLaw python realText clock endpoints userId connectionName tokens := by
  generalize hresult :
    (getValidAccessToken python realText clock endpoints userId connectionName).run tokens =
      result at h
  cases h with
  | refused message => exact law_of_refused ⟨message, hresult⟩
  | stored hbrings haccess hrefresh hkept =>
      refine ⟨fun _ _ _ hother hrun _ => ?_, fun _ _ _ _ _ hother hrun _ hbrings' => ?_,
        fun _ _ hrun => ?_⟩
      · cases hrow.symm.trans hother
        cases hresult.symm.trans hrun
        exact ⟨_, _, hbrings, haccess⟩
      · cases hrow.symm.trans hother
        cases hresult.symm.trans hrun
        obtain ⟨rfl, rfl⟩ := hbrings.unique hbrings'
        exact ⟨_, _, Dict.get?_set_self .., rfl, hrefresh, hkept⟩
      · cases hresult.symm.trans hrun

/-- The law holds if the refresh that may be due is lawful. -/
theorem law_of_lawful (hnames : NamesEncoded python userId connectionName)
    (h : ∀ row, tokens.get? (userId, connectionName) = some row →
      LawfulRefresh python realText clock endpoints row) :
    AccessTokenLaw python realText clock endpoints userId connectionName tokens := by
  cases hrow : tokens.get? (userId, connectionName) with
  | none =>
      exact law_of_refused (run_of_no_row hnames hrow)
  | some row =>
      cases hexpires : row.expiresAt with
      | none =>
          refine law_of_stored hrow ?_ (run_of_no_expiry hnames hrow hexpires)
          rintro ⟨_, hsome, _⟩
          cases hexpires.symm.trans hsome
      | some expiresAt =>
          obtain ⟨hmin, hlawful⟩ := h row hrow expiresAt hexpires
          by_cases hsoon : expiresAt.micros ≤ clock.checked.micros + 60000000
          · cases hprevious : row.refreshToken with
            | none =>
                refine law_of_refused ?_
                rw [run_of_expires_soon hnames hrow hexpires hmin hsoon]
                unfold refreshRow
                rw [hprevious]
                exact ⟨_, rfl⟩
            | some previous =>
                obtain ⟨_, hrenewed⟩ | ⟨hnot, _⟩ :=
    refresh_row_ends python realText clock endpoints userId connectionName tokens hprevious
                · rw [← run_of_expires_soon hnames hrow hexpires hmin hsoon] at hrenewed
                  exact law_of_renewed hrow hrenewed
                · exact absurd (hlawful hsoon previous hprevious) hnot
          · refine law_of_stored hrow ?_ (run_of_not_soon hnames hrow hexpires hmin hsoon)
            rintro ⟨_, hsome, hother⟩
            cases hexpires.symm.trans hsome
            exact hsoon hother

/-- Under the law, a refresh that is due does not end otherwise. -/
theorem AccessTokenLaw.not_broken
    (h : AccessTokenLaw python realText clock endpoints userId connectionName tokens)
    (hrow : tokens.get? (userId, connectionName) = some row)
    (hsoon : ExpiresSoon clock.checked row) :
    ¬ Broken userId connectionName tokens
      ((getValidAccessToken python realText clock endpoints userId connectionName).run
        tokens) := by
  intro hbroken
  generalize hresult :
    (getValidAccessToken python realText clock endpoints userId connectionName).run tokens =
      result at hbroken
  cases hbroken with
  | raised e =>
      obtain ⟨⟨_, hfailure⟩, _⟩ := h.failed _ _ hresult
      cases hfailure
  | lost hnone =>
      obtain ⟨previous, body, hbrings, _⟩ := h.fresh _ _ _ hrow hresult hsoon
      obtain ⟨held, refreshToken, hheld, _, hsome, _⟩ :=
        h.refreshed _ _ _ _ _ hrow hresult hsoon hbrings
      rw [Dict.get?_set_self] at hheld
      cases hheld
      cases hnone.symm.trans hsome

/-- The law holds only if the refresh that may be due is lawful. -/
theorem AccessTokenLaw.lawful
    (h : AccessTokenLaw python realText clock endpoints userId connectionName tokens)
    (hnames : NamesEncoded python userId connectionName)
    (hrow : tokens.get? (userId, connectionName) = some row) :
    LawfulRefresh python realText clock endpoints row := by
  intro expiresAt hexpires
  have hmin : (expiresAt.add (-60 * microsPerSecond)).isSome := by
    by_contra hlt
    have hrun : (getValidAccessToken python realText clock endpoints userId connectionName).run
        tokens = .error (.other "date value out of range") tokens := by
      rw [run_of_expiry hnames hrow hexpires, is_expiring_soon_error hlt]
      rfl
    obtain ⟨⟨_, hfailure⟩, _⟩ := h.failed _ _ hrun
    cases hfailure
  refine ⟨hmin, fun hsoon previous hprevious => ?_⟩
  obtain ⟨hlawful, _⟩ | ⟨_, hbroken⟩ :=
    refresh_row_ends python realText clock endpoints userId connectionName tokens hprevious
  · exact hlawful
  · refine absurd ?_ (h.not_broken hrow ⟨expiresAt, hexpires, hsoon⟩)
    rw [run_of_expires_soon hnames hrow hexpires hmin hsoon]
    exact hbroken

/-- The access token law holds of a request exactly if its names have an encoding and the refresh
that may be due is lawful. -/
theorem access_token_law_iff :
    AccessTokenLaw python realText clock endpoints userId connectionName tokens ↔
      NamesEncoded python userId connectionName ∧
        ∀ row, tokens.get? (userId, connectionName) = some row →
          LawfulRefresh python realText clock endpoints row := by
  refine ⟨fun h => ?_, fun h => law_of_lawful h.1 h.2⟩
  have hnames : NamesEncoded python userId connectionName := by
    by_contra hnames
    obtain ⟨e, hrun⟩ := run_of_unencoded hnames
    obtain ⟨⟨_, hfailure⟩, _⟩ := h.failed _ _ hrun
    cases hfailure
  exact ⟨hnames, fun _ hrow => h.lawful hnames hrow⟩

end

/-! ## A lost refresh token -/

/-- One minute after the epoch. -/
def firstMinute : Datetime := ⟨60000000, by omega⟩

/-- A clock that stands still. -/
def stillClock : Clock := ⟨firstMinute, firstMinute, firstMinute⟩

/-- A token that is about to expire. -/
def expiringTokens : TokenTable :=
  .ofList [(("ada", "mail"),
    { accessToken := "first", refreshToken := some "again", expiresAt := some firstMinute
      tokenType := "Bearer", scope := none, tokenEndpoint := "https://mail.example/token"
      clientId := some "studio", clientSecret := none, updatedAt := firstMinute })]

/-- An authorization server that does not rotate refresh tokens, and says so with a null. -/
def nullRotation : TokenEndpoints := fun _ _ => .response 200 "" (.ok (some (.ofList
  [("access_token", .json (.str "second")), ("expires_in", .json (.int 3600)),
    ("refresh_token", .json .null)])))

/-- A null in the answer erases the refresh token. -/
theorem null_refresh_token_lost :
    ¬ AccessTokenLaw plainPython (fun _ _ => "0.0") stillClock nullRotation "ada" "mail"
      expiringTokens := by
  intro h
  obtain ⟨_, hdue⟩ := h.lawful ⟨rfl, rfl⟩ rfl firstMinute rfl
  have hlawful := hdue (by decide) "again" rfl
  cases hlawful with
  | refused hstatus => exact hstatus rfl
  | incomplete htoken =>
      revert htoken
      decide
  | complete hstorable =>
      obtain ⟨_, hnull, _⟩ := hstorable.refreshToken
      cases hnull

end OAuthFlow

end AgentGraphStudio
