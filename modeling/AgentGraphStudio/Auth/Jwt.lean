import AgentGraphStudio.Api.Auth
import AgentGraphStudio.Lib.Datetime

/-!
# Session tokens and state tokens

`backend/auth/jwt.py`. Three kinds of token are signed with the same secret: the session of a
signed-in user, and the state that a sign-in and a connection's consent carry through the
redirects of an OAuth provider. The library that signs and verifies is a parameter.
`token_kinds_separate` says that each kind is read back by its own verifier until it expires, and
is accepted by no other verifier.
-/

namespace AgentGraphStudio

/-- What the verification of a token raises: `InvalidTokenError`, or an error of another class. -/
inductive DecodeError where
  | invalidToken
  | other (text : String)

/-- The library that signs and verifies tokens, with `HS256`. -/
structure PyJwt (Token : Type) where
  encode : Dict String Json → String → Except String Token
  decode : Token → String → Datetime → Except DecodeError (Dict String Json)

/-- What issuing or verifying a token raises. -/
inductive TokenError where
  | missingJwtSecret
  | overflow
  | raised (text : String)

/-- The hours for which a session lives (`DEFAULT_EXPIRES_IN_HOURS`). -/
def defaultExpiresInHours : Int := 12

/-- The minutes for which a state token lives. -/
def stateTokenExpiresMinutes : Int := 5

/-- A number of hours as a `timedelta`. -/
def hours (count : Int) : Int := count * 3600 * microsPerSecond

/-- A number of minutes as a `timedelta`. -/
def minutes (count : Int) : Int := count * 60 * microsPerSecond

/-- The signing secret, from the environment variable. -/
def jwtSecret : Option String → Except TokenError String
  | none | some "" => throw .missingJwtSecret
  | some secret => pure secret

/-- What a connection's consent carries through the redirects. -/
structure McpOauthStateClaims where
  userId : Json
  connectionName : Json
  codeVerifier : Json
  redirectTo : Json
  popup : Json

/-- The session a payload stands for (the end of `verify_token`). -/
def sessionClaims (payload : Dict String Json) : Option SessionClaims :=
  if payload.getD "typ" .null ≠ .null then none
  else do
    let userId ← payload.get? "sub"
    let email ← payload.get? "email"
    let role ← payload.get? "role"
    pure { userId, email, role }

/-- Where a payload of a sign-in leads back to (the end of `verify_state_token`). -/
def stateRedirect (payload : Dict String Json) : Option Json :=
  if payload.getD "typ" .null ≠ .str "oauth_state" then none
  else (payload.get? "redirect_to").filter (· ≠ .null)

/-- The consent a payload stands for (the end of `verify_mcp_oauth_state_token`). -/
def mcpOauthStateClaims (payload : Dict String Json) : Option McpOauthStateClaims :=
  if payload.getD "typ" .null ≠ .str "mcp_oauth_state" then none
  else do
    let userId ← payload.get? "user_id"
    let connectionName ← payload.get? "connection_name"
    let codeVerifier ← payload.get? "code_verifier"
    let redirectTo ← payload.get? "redirect_to"
    pure { userId, connectionName, codeVerifier, redirectTo,
           popup := payload.getD "popup" (.bool false) }

/-- The payload of a token: its fields, the time of issue and that of expiry. -/
def tokenPayload (fields : List (String × Json)) (now expires : Datetime) : Dict String Json :=
  .ofList (fields ++ [("iat", .int now.second), ("exp", .int expires.second)])

namespace PyJwt

variable {Token : Type} (pyjwt : PyJwt Token) (environment : Option String)

/-- Sign some fields, with the time of issue and that of expiry. -/
def issue (now : Datetime) (lifetime : Int) (fields : List (String × Json)) :
    Except TokenError Token := do
  let expires ← (now.add lifetime).elim (throw .overflow) pure
  let secret ← jwtSecret environment
  (pyjwt.encode (tokenPayload fields now expires) secret).mapError .raised

/-- Issue a session token. -/
def issueToken (now : Datetime) (userId email role : String)
    (expiresInHours : Int := defaultExpiresInHours) : Except TokenError Token :=
  pyjwt.issue environment now (hours expiresInHours)
    [("sub", .str userId), ("email", .str email), ("role", .str role)]

/-- Issue the state token of a sign-in. -/
def issueStateToken (now : Datetime) (redirectTo : String) : Except TokenError Token :=
  pyjwt.issue environment now (minutes stateTokenExpiresMinutes)
    [("typ", .str "oauth_state"), ("redirect_to", .str redirectTo)]

/-- Issue the state token of a connection's consent. -/
def issueMcpOauthStateToken (now : Datetime)
    (userId connectionName codeVerifier redirectTo : String) (popup : Bool := false) :
    Except TokenError Token :=
  pyjwt.issue environment now (minutes stateTokenExpiresMinutes)
    [("typ", .str "mcp_oauth_state"), ("user_id", .str userId),
      ("connection_name", .str connectionName), ("code_verifier", .str codeVerifier),
      ("redirect_to", .str redirectTo), ("popup", .bool popup)]

/-- The payload of a token, or nothing if the token is not valid (the start of each verifier). -/
def payload? (now : Datetime) (token : Token) :
    Except TokenError (Option (Dict String Json)) := do
  let secret ← jwtSecret environment
  match pyjwt.decode token secret now with
  | .ok payload => pure (some payload)
  | .error .invalidToken => pure none
  | .error (.other text) => throw (.raised text)

/-- Verify a session token. -/
def verifyToken (now : Datetime) (token : Token) : Except TokenError (Option SessionClaims) :=
  (·.bind sessionClaims) <$> pyjwt.payload? environment now token

/-- Verify the state token of a sign-in. -/
def verifyStateToken (now : Datetime) (token : Token) : Except TokenError (Option Json) :=
  (·.bind stateRedirect) <$> pyjwt.payload? environment now token

/-- Verify the state token of a connection's consent. -/
def verifyMcpOauthStateToken (now : Datetime) (token : Token) :
    Except TokenError (Option McpOauthStateClaims) :=
  (·.bind mcpOauthStateClaims) <$> pyjwt.payload? environment now token

end PyJwt

/-! ## What is assumed of the library -/

/-- A payload as the issuing functions make it: texts, numbers and Booleans under its keys, a text
for the subject, and none of the registered claims that would be checked against something. -/
structure PlainPayload (payload : Dict String Json) : Prop where
  scalar : ∀ key value, payload.get? key = some value →
    (∃ text, value = .str text) ∨ (∃ number, value = .int number) ∨ ∃ flag, value = .bool flag
  subject : ∀ value, payload.get? "sub" = some value → ∃ text, value = .str text
  unregistered : ∀ claim ∈ ["aud", "iss", "nbf", "jti"], payload.get? claim = none

/-- The payload has been issued and has not expired. -/
structure LivePayload (payload : Dict String Json) (now : Datetime) : Prop where
  issued : ∃ second, payload.get? "iat" = some (.int second) ∧
    second * microsPerSecond ≤ now.micros
  unexpired : ∃ second, payload.get? "exp" = some (.int second) ∧
    now.micros < second * microsPerSecond

/-- The library signs with the secret and reads its tokens back while they live. A token that it
has signed never verifies, under any secret, as one with another payload. -/
structure PyJwt.Faithful {Token : Type} (pyjwt : PyJwt Token) (secret : String) : Prop where
  signs : ∀ payload, PlainPayload payload → ∃ token, pyjwt.encode payload secret = .ok token
  reads_back : ∀ payload token now, PlainPayload payload → LivePayload payload now →
    pyjwt.encode payload secret = .ok token → pyjwt.decode token secret now = .ok payload
  unforgeable : ∀ payload token other now decoded, PlainPayload payload →
    pyjwt.encode payload secret = .ok token → pyjwt.decode token other now = .ok decoded →
      decoded = payload

/-! ## Payloads -/

/-- A field that leaves a payload plain: a text, or a Boolean that is not the subject. -/
structure PlainField (entry : String × Json) : Prop where
  unregistered : entry.1 ∉ ["aud", "iss", "nbf", "jti"]
  value : (∃ text, entry.2 = .str text) ∨ entry.1 ≠ "sub" ∧ ∃ flag, entry.2 = .bool flag

section

variable {fields : List (String × Json)} {now expires later : Datetime}

/-- What a payload holds is a field of the token, or one of the two times. -/
theorem mem_token_payload {key : String} {value : Json}
    (h : (tokenPayload fields now expires).get? key = some value) :
    (key, value) ∈ fields ∨ key = "iat" ∧ value = .int now.second ∨
      key = "exp" ∧ value = .int expires.second := by
  have hmem := Dict.mem_of_get?_ofList h
  simpa using hmem

/-- Plain fields make a plain payload. -/
theorem plain_token_payload (hfields : ∀ entry ∈ fields, PlainField entry) :
    PlainPayload (tokenPayload fields now expires) where
  scalar key value h := by
    rcases mem_token_payload h with hfield | ⟨_, rfl⟩ | ⟨_, rfl⟩
    · rcases (hfields _ hfield).value with htext | ⟨_, hflag⟩
      · exact .inl htext
      · exact .inr (.inr hflag)
    · exact .inr (.inl ⟨_, rfl⟩)
    · exact .inr (.inl ⟨_, rfl⟩)
  subject value h := by
    rcases mem_token_payload h with hfield | ⟨hkey, _⟩ | ⟨hkey, _⟩
    · rcases (hfields _ hfield).value with htext | ⟨hsubject, _⟩
      · exact htext
      · exact absurd rfl hsubject
    · simp at hkey
    · simp at hkey
  unregistered claim hclaim := by
    cases hget : (tokenPayload fields now expires).get? claim with
    | none => rfl
    | some value =>
        rcases mem_token_payload hget with hfield | ⟨rfl, _⟩ | ⟨rfl, _⟩
        · exact absurd hclaim (hfields _ hfield).unregistered
        · simp at hclaim
        · simp at hclaim

/-- A payload is live from its issue until the second of its expiry. -/
theorem live_token_payload (hissued : now.micros ≤ later.micros)
    (hunexpired : later.micros < expires.second * microsPerSecond) :
    LivePayload (tokenPayload fields now expires) later where
  issued := by
    refine ⟨now.second, ?_, ?_⟩
    · simp [tokenPayload, Dict.get?_ofList]
    · have hfloor : now.second * microsPerSecond ≤ now.micros :=
        Int.ediv_mul_le _ (by decide)
      omega
  unexpired := ⟨expires.second, by simp [tokenPayload, Dict.get?_ofList], hunexpired⟩

end

/-- A request's session is verified as a session token is: from the payload that is decoded. -/
theorem verify_token_of_decode {environment : AuthEnvironment} {pyjwt : PyJwt String}
    {secret : Option String} {now : Datetime} {token : String}
    (hdecode : pyjwt.payload? secret now token = .ok (environment.decode token)) :
    pyjwt.verifyToken secret now token = .ok (verifyToken environment token) := by
  rw [PyJwt.verifyToken, hdecode]
  rfl

/-- The payload of a session has no `typ`. -/
theorem typ_of_session_claims {payload : Dict String Json} {claims : SessionClaims}
    (h : sessionClaims payload = some claims) : payload.getD "typ" .null = .null := by
  by_contra htyp
  rw [sessionClaims, if_pos htyp] at h
  cases h

/-- The payload of a sign-in has the `typ` of one. -/
theorem typ_of_state_redirect {payload : Dict String Json} {redirect : Json}
    (h : stateRedirect payload = some redirect) :
    payload.getD "typ" .null = .str "oauth_state" := by
  by_contra htyp
  rw [stateRedirect, if_pos htyp] at h
  cases h

/-- The payload of a consent has the `typ` of one. -/
theorem typ_of_mcp_oauth_state_claims {payload : Dict String Json} {claims : McpOauthStateClaims}
    (h : mcpOauthStateClaims payload = some claims) :
    payload.getD "typ" .null = .str "mcp_oauth_state" := by
  by_contra htyp
  rw [mcpOauthStateClaims, if_pos htyp] at h
  cases h

/-! ## Issued tokens and accepted tokens -/

namespace PyJwt

variable {Token : Type} {pyjwt : PyJwt Token} {environment : Option String} {secret : String}
  {fields : List (String × Json)} {now expires later : Datetime} {lifetime : Int} {token : Token}

/-- The signing secret is what the environment has, if that is not empty. -/
theorem jwt_secret_eq_ok_iff : jwtSecret environment = .ok secret ↔
    environment = some secret ∧ secret ≠ "" := by
  cases environment with
  | none =>
      refine ⟨fun h => ?_, fun h => ?_⟩
      · cases h
      · cases h.1
  | some configured =>
      by_cases hempty : configured = ""
      · subst hempty
        refine ⟨fun h => ?_, fun h => ?_⟩
        · cases h
        · obtain ⟨heq, hne⟩ := h
          exact absurd (Option.some.inj heq).symm hne
      · have hsecret : jwtSecret (some configured) = .ok configured := by
          simp [jwtSecret, pure, Except.pure]
        rw [hsecret, Except.ok.injEq, Option.some.injEq]
        exact ⟨fun h => ⟨h, h ▸ hempty⟩, And.left⟩

/-- A token is issued if its expiry is a date, there is a secret, and the library signs it. -/
theorem issue_eq_ok_iff : pyjwt.issue environment now lifetime fields = .ok token ↔
    ∃ expires secret, now.add lifetime = some expires ∧
      (environment = some secret ∧ secret ≠ "") ∧
      pyjwt.encode (tokenPayload fields now expires) secret = .ok token := by
  unfold issue
  rw [except_bind_eq_ok]
  constructor
  · rintro ⟨expires, hexpires, hrest⟩
    obtain ⟨secret, hsecret, hencode⟩ := except_bind_eq_ok.mp hrest
    cases hadd : now.add lifetime with
    | none =>
        rw [hadd] at hexpires
        cases hexpires
    | some date =>
        rw [hadd] at hexpires
        cases hexpires
        exact ⟨_, secret, rfl, jwt_secret_eq_ok_iff.mp hsecret, mapError_eq_ok.mp hencode⟩
  · rintro ⟨expires, secret, hadd, hsecret, hencode⟩
    refine ⟨expires, by rw [hadd]; rfl, except_bind_eq_ok.mpr ⟨secret, ?_, ?_⟩⟩
    · exact jwt_secret_eq_ok_iff.mpr hsecret
    · exact mapError_eq_ok.mpr hencode

/-- A verifier reads a payload when the library gives one. -/
theorem payload?_eq_ok_some_iff {payload : Dict String Json} :
    pyjwt.payload? environment now token = .ok (some payload) ↔
      ∃ secret, (environment = some secret ∧ secret ≠ "") ∧
        pyjwt.decode token secret now = .ok payload := by
  unfold payload?
  rw [except_bind_eq_ok]
  refine exists_congr fun secret => ?_
  rw [jwt_secret_eq_ok_iff]
  refine and_congr_right fun _ => ?_
  cases pyjwt.decode token secret now with
  | ok payload => simp [pure, Except.pure]
  | error error => cases error <;> simp [pure, Except.pure, throw, throwThe, MonadExceptOf.throw]

/-- An issued token is read back, until it expires, as the payload that was signed. -/
theorem issue_reads_back (hfaithful : pyjwt.Faithful secret) (hsecret : secret ≠ "")
    (hfields : ∀ entry ∈ fields, PlainField entry) (hexpires : now.add lifetime = some expires) :
    ∃ token, pyjwt.issue (some secret) now lifetime fields = .ok token ∧
      ∀ later : Datetime, now.micros ≤ later.micros →
        later.micros < expires.second * microsPerSecond →
        pyjwt.payload? (some secret) later token =
          .ok (some (tokenPayload fields now expires)) := by
  have hplain : PlainPayload (tokenPayload fields now expires) := plain_token_payload hfields
  obtain ⟨token, htoken⟩ := hfaithful.signs _ hplain
  refine ⟨token, issue_eq_ok_iff.mpr ⟨expires, secret, hexpires, ⟨rfl, hsecret⟩, htoken⟩,
    fun later hissued hunexpired => payload?_eq_ok_some_iff.mpr ⟨secret, ⟨rfl, hsecret⟩, ?_⟩⟩
  exact hfaithful.reads_back _ _ _ hplain (live_token_payload hissued hunexpired) htoken

/-- Whatever verifies an issued token reads the payload that was signed. -/
theorem payload_of_issued (hfaithful : pyjwt.Faithful secret)
    (hfields : ∀ entry ∈ fields, PlainField entry)
    (hissued : pyjwt.issue (some secret) now lifetime fields = .ok token)
    {payload : Dict String Json}
    (hread : pyjwt.payload? environment later token = .ok (some payload)) :
    ∃ expires, payload = tokenPayload fields now expires := by
  obtain ⟨expires, signer, _, ⟨hsigner, _⟩, htoken⟩ := issue_eq_ok_iff.mp hissued
  obtain ⟨other, _, hdecode⟩ := payload?_eq_ok_some_iff.mp hread
  cases hsigner
  exact ⟨expires,
    hfaithful.unforgeable _ _ other later _ (plain_token_payload hfields) htoken hdecode⟩

/-- What a verifier makes of a payload is what it answers for a token with that payload. -/
theorem read_payload_eq_ok_some_iff {Claims : Type} {read : Dict String Json → Option Claims}
    {claims : Claims} :
    (·.bind read) <$> pyjwt.payload? environment now token = .ok (some claims) ↔
      ∃ payload, pyjwt.payload? environment now token = .ok (some payload) ∧
        read payload = some claims := by
  cases pyjwt.payload? environment now token with
  | error error => simp [Functor.map, Except.map]
  | ok payload => simp [Functor.map, Except.map, Option.bind_eq_some_iff]

end PyJwt

/-- The kinds of token: the session of a user, and the states of a sign-in and of a consent. -/
inductive TokenKind where
  | session
  | signIn
  | consent

/-- The `typ` in the payloads of a kind of token. A session has none. -/
def TokenKind.typ : TokenKind → Json
  | .session => .null
  | .signIn => .str "oauth_state"
  | .consent => .str "mcp_oauth_state"

/-- The kinds are told apart by their `typ`. -/
theorem TokenKind.typ_injective : Function.Injective TokenKind.typ := by
  intro kind other h
  cases kind <;> cases other <;> simp_all [TokenKind.typ]

namespace PyJwt

variable {Token : Type} (pyjwt : PyJwt Token)

/-- The token is issued as one of the kind, for some fields and at some time. -/
def Issues (environment : Option String) (token : Token) : TokenKind → Prop
  | .session => ∃ now userId email role expiresInHours,
    pyjwt.issueToken environment now userId email role expiresInHours = .ok token
  | .signIn => ∃ now redirectTo, pyjwt.issueStateToken environment now redirectTo = .ok token
  | .consent => ∃ now userId connectionName codeVerifier redirectTo popup,
    pyjwt.issueMcpOauthStateToken environment now userId connectionName codeVerifier redirectTo
      popup = .ok token

/-- The token is accepted, as one of the kind, by the verifier of that kind. -/
def Accepts (environment : Option String) (now : Datetime) (token : Token) : TokenKind → Prop
  | .session => ∃ claims, pyjwt.verifyToken environment now token = .ok (some claims)
  | .signIn => ∃ redirect, pyjwt.verifyStateToken environment now token = .ok (some redirect)
  | .consent => ∃ claims, pyjwt.verifyMcpOauthStateToken environment now token = .ok (some claims)

variable {pyjwt} {environment : Option String} {now : Datetime} {token : Token} {kind : TokenKind}

/-- The verifier of a kind accepts only payloads with the `typ` of that kind. -/
theorem typ_of_accepts (h : pyjwt.Accepts environment now token kind) :
    ∃ payload, pyjwt.payload? environment now token = .ok (some payload) ∧
      payload.getD "typ" .null = kind.typ := by
  cases kind with
  | session =>
      obtain ⟨claims, hclaims⟩ := h
      obtain ⟨payload, hpayload, hread⟩ := read_payload_eq_ok_some_iff.mp hclaims
      exact ⟨payload, hpayload, typ_of_session_claims hread⟩
  | signIn =>
      obtain ⟨redirect, hredirect⟩ := h
      obtain ⟨payload, hpayload, hread⟩ := read_payload_eq_ok_some_iff.mp hredirect
      exact ⟨payload, hpayload, typ_of_state_redirect hread⟩
  | consent =>
      obtain ⟨claims, hclaims⟩ := h
      obtain ⟨payload, hpayload, hread⟩ := read_payload_eq_ok_some_iff.mp hclaims
      exact ⟨payload, hpayload, typ_of_mcp_oauth_state_claims hread⟩

end PyJwt

/-! ## The fields of each kind -/

section

/-- A text is a plain field under any key that is not registered. -/
theorem plain_text {key text : String} (h : key ∉ ["aud", "iss", "nbf", "jti"]) :
    PlainField (key, .str text) := ⟨h, .inl ⟨text, rfl⟩⟩

/-- The fields of a session leave its payload plain. -/
theorem plain_session_fields (userId email role : String) : ∀ entry ∈
    [("sub", Json.str userId), ("email", .str email), ("role", .str role)], PlainField entry := by
  simp only [List.forall_mem_cons, List.not_mem_nil, false_implies, implies_true, and_true]
  exact ⟨plain_text (by decide), plain_text (by decide), plain_text (by decide)⟩

/-- The fields of a sign-in leave its payload plain. -/
theorem plain_sign_in_fields (redirectTo : String) : ∀ entry ∈
    [("typ", Json.str "oauth_state"), ("redirect_to", .str redirectTo)], PlainField entry := by
  simp only [List.forall_mem_cons, List.not_mem_nil, false_implies, implies_true, and_true]
  exact ⟨plain_text (by decide), plain_text (by decide)⟩

/-- The fields of a consent leave its payload plain. -/
theorem plain_consent_fields (userId connectionName codeVerifier redirectTo : String)
    (popup : Bool) : ∀ entry ∈
    [("typ", Json.str "mcp_oauth_state"), ("user_id", .str userId),
      ("connection_name", .str connectionName), ("code_verifier", .str codeVerifier),
      ("redirect_to", .str redirectTo), ("popup", .bool popup)], PlainField entry := by
  simp only [List.forall_mem_cons, List.not_mem_nil, false_implies, implies_true, and_true]
  have hpopup : PlainField ("popup", .bool popup) :=
    ⟨by simp, .inr ⟨by simp, popup, rfl⟩⟩
  exact ⟨plain_text (by decide), plain_text (by decide), plain_text (by decide),
    plain_text (by decide), plain_text (by decide), hpopup⟩

variable (now expires : Datetime)

/-- The payload of a session is read as its claims. -/
theorem session_claims_token_payload (userId email role : String) :
    sessionClaims (tokenPayload
      [("sub", .str userId), ("email", .str email), ("role", .str role)] now expires) =
      some ⟨.str userId, .str email, .str role⟩ := by
  simp [sessionClaims, tokenPayload, Dict.getD, Dict.get?_ofList]

/-- The payload of a sign-in is read as where it leads back to. -/
theorem state_redirect_token_payload (redirectTo : String) :
    stateRedirect (tokenPayload
      [("typ", .str "oauth_state"), ("redirect_to", .str redirectTo)] now expires) =
      some (.str redirectTo) := by
  simp [stateRedirect, tokenPayload, Dict.getD, Dict.get?_ofList]

/-- The payload of a consent is read as its claims. -/
theorem mcp_oauth_state_claims_token_payload
    (userId connectionName codeVerifier redirectTo : String) (popup : Bool) :
    mcpOauthStateClaims (tokenPayload
      [("typ", .str "mcp_oauth_state"), ("user_id", .str userId),
        ("connection_name", .str connectionName), ("code_verifier", .str codeVerifier),
        ("redirect_to", .str redirectTo), ("popup", .bool popup)] now expires) =
      some ⟨.str userId, .str connectionName, .str codeVerifier, .str redirectTo, .bool popup⟩ := by
  simp [mcpOauthStateClaims, tokenPayload, Dict.getD, Dict.get?_ofList]

end

/-- A verified token that was issued as one of a kind has the `typ` of that kind. -/
theorem PyJwt.typ_of_issues {Token : Type} {pyjwt : PyJwt Token} {secret : String}
    (hfaithful : pyjwt.Faithful secret) {kind : TokenKind} {token : Token}
    (hissued : pyjwt.Issues (some secret) token kind) {environment : Option String}
    {now : Datetime} {payload : Dict String Json}
    (hread : pyjwt.payload? environment now token = .ok (some payload)) :
    payload.getD "typ" .null = kind.typ := by
  cases kind with
  | session =>
      obtain ⟨_, _, _, _, _, hissue⟩ := hissued
      obtain ⟨_, hpayload⟩ := payload_of_issued hfaithful (plain_session_fields _ _ _) hissue
        hread
      rw [hpayload]
      exact typ_of_session_claims (session_claims_token_payload _ _ _ _ _)
  | signIn =>
      obtain ⟨_, _, hissue⟩ := hissued
      obtain ⟨_, hpayload⟩ := payload_of_issued hfaithful (plain_sign_in_fields _) hissue
        hread
      rw [hpayload]
      exact typ_of_state_redirect (state_redirect_token_payload _ _ _)
  | consent =>
      obtain ⟨_, _, _, _, _, _, hissue⟩ := hissued
      obtain ⟨_, hpayload⟩ := payload_of_issued hfaithful (plain_consent_fields _ _ _ _ _) hissue
        hread
      rw [hpayload]
      exact typ_of_mcp_oauth_state_claims (mcp_oauth_state_claims_token_payload _ _ _ _ _ _ _)

/-! ## The kinds are separate -/

/-- Each kind of token is read back by its own verifier, from its issue until its expiry, with the
fields it was issued for. No token of one kind is accepted as one of another, at any time and under
any secret. -/
structure TokenKindsSeparate {Token : Type} (pyjwt : PyJwt Token) (secret : String) : Prop where
  session : ∀ (issued : Datetime) (userId email role : String) (expiresInHours : Int)
    (expires : Datetime), issued.add (hours expiresInHours) = some expires →
    ∃ token, pyjwt.issueToken (some secret) issued userId email role expiresInHours = .ok token ∧
      ∀ now : Datetime, issued.micros ≤ now.micros →
        now.micros < expires.second * microsPerSecond →
        pyjwt.verifyToken (some secret) now token =
          .ok (some ⟨.str userId, .str email, .str role⟩)
  signIn : ∀ (issued : Datetime) (redirectTo : String) (expires : Datetime),
    issued.add (minutes stateTokenExpiresMinutes) = some expires →
    ∃ token, pyjwt.issueStateToken (some secret) issued redirectTo = .ok token ∧
      ∀ now : Datetime, issued.micros ≤ now.micros →
        now.micros < expires.second * microsPerSecond →
        pyjwt.verifyStateToken (some secret) now token = .ok (some (.str redirectTo))
  consent : ∀ (issued : Datetime) (userId connectionName codeVerifier redirectTo : String)
    (popup : Bool) (expires : Datetime),
    issued.add (minutes stateTokenExpiresMinutes) = some expires →
    ∃ token, pyjwt.issueMcpOauthStateToken (some secret) issued userId connectionName codeVerifier
      redirectTo popup = .ok token ∧
      ∀ now : Datetime, issued.micros ≤ now.micros →
        now.micros < expires.second * microsPerSecond →
        pyjwt.verifyMcpOauthStateToken (some secret) now token =
          .ok (some ⟨.str userId, .str connectionName, .str codeVerifier, .str redirectTo,
            .bool popup⟩)
  apart : ∀ (kind other : TokenKind) (token : Token) (environment : Option String)
    (now : Datetime), pyjwt.Issues (some secret) token kind →
    pyjwt.Accepts environment now token other → kind = other

/-- With a faithful library and a secret that is not empty, the three kinds of token are
separate. -/
theorem token_kinds_separate {Token : Type} (pyjwt : PyJwt Token) (secret : String)
    (hsecret : secret ≠ "") (hfaithful : pyjwt.Faithful secret) :
    TokenKindsSeparate pyjwt secret where
  session issued userId email role expiresInHours expires hexpires := by
    obtain ⟨token, hissue, hlive⟩ := PyJwt.issue_reads_back hfaithful hsecret
      (plain_session_fields userId email role) hexpires
    refine ⟨token, hissue, fun now hissued hunexpired => ?_⟩
    exact PyJwt.read_payload_eq_ok_some_iff.mpr ⟨_, hlive now hissued hunexpired,
      session_claims_token_payload issued expires userId email role⟩
  signIn issued redirectTo expires hexpires := by
    obtain ⟨token, hissue, hlive⟩ := PyJwt.issue_reads_back hfaithful hsecret
      (plain_sign_in_fields redirectTo) hexpires
    refine ⟨token, hissue, fun now hissued hunexpired => ?_⟩
    exact PyJwt.read_payload_eq_ok_some_iff.mpr ⟨_, hlive now hissued hunexpired,
      state_redirect_token_payload issued expires redirectTo⟩
  consent issued userId connectionName codeVerifier redirectTo popup expires hexpires := by
    obtain ⟨token, hissue, hlive⟩ := PyJwt.issue_reads_back hfaithful hsecret
      (plain_consent_fields userId connectionName codeVerifier redirectTo popup) hexpires
    refine ⟨token, hissue, fun now hissued hunexpired => ?_⟩
    exact PyJwt.read_payload_eq_ok_some_iff.mpr ⟨_, hlive now hissued hunexpired,
      mcp_oauth_state_claims_token_payload issued expires userId connectionName
        codeVerifier redirectTo popup⟩
  apart kind other token environment now hissued haccepted := by
    obtain ⟨payload, hread, htyp⟩ := PyJwt.typ_of_accepts haccepted
    exact TokenKind.typ_injective ((PyJwt.typ_of_issues hfaithful hissued hread).symm.trans htyp)

/-! ### A library that keeps its tokens -/

/-- A library whose token is the payload beside the secret, and which checks what is checked of a
signed one. -/
def plainJwt : PyJwt (Dict String Json × String) where
  encode payload secret := .ok (payload, secret)
  decode token secret now :=
    match token.1.get? "iat", token.1.get? "exp" with
    | some (.int issued), some (.int expires) =>
      if token.2 = secret ∧ issued * microsPerSecond ≤ now.micros ∧
          now.micros < expires * microsPerSecond then .ok token.1
      else .error .invalidToken
    | _, _ => .error .invalidToken

/-- That library reads back what it signs, and only that. -/
theorem plain_jwt_faithful (secret : String) : plainJwt.Faithful secret where
  signs payload _ := ⟨(payload, secret), rfl⟩
  reads_back payload token now _ hlive htoken := by
    obtain ⟨⟨issued, hissued, hstarted⟩, ⟨expires, hexpires, hunexpired⟩⟩ := hlive
    cases htoken
    simp [plainJwt, hissued, hexpires, hstarted, hunexpired]
  unforgeable payload token other now decoded _ htoken hdecode := by
    cases htoken
    simp only [plainJwt] at hdecode
    split at hdecode
    · split at hdecode
      · exact (Except.ok.inj hdecode).symm
      · cases hdecode
    · cases hdecode

/-- The kinds of token of that library are separate. -/
theorem plain_jwt_token_kinds_separate : TokenKindsSeparate plainJwt "secret" :=
  token_kinds_separate plainJwt "secret" (by decide) (plain_jwt_faithful "secret")

end AgentGraphStudio
