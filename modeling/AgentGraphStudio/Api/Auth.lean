import AgentGraphStudio.Api.Connections
import AgentGraphStudio.Storage.InvokeKeys
import Mathlib.Logic.Equiv.Basic

/-!
# Who may make a request

`require_auth` of `backend/api/app.py`, which runs before every endpoint, with `verify_token` of
`backend/auth/jwt.py`. A request passes with a session token, with the shared API key, or, on two
routes, with an invoke key of the graph in its path. `require_auth_passes_iff` says of all other
credentials which of them pass, after any sequence of operations on the invoke keys.
-/

namespace AgentGraphStudio

/-- What is read of a request: its path and headers, and what routing has found. -/
structure HttpRequest where
  path : String
  authorization : Option String := none
  key : Option String := none
  route : Option String := none
  pathParams : Dict String String := .empty

/-- The claims of a session token. -/
structure SessionClaims where
  userId : Json
  email : Json
  role : Json

/-- What the request carries on to its endpoint (`request.state`). -/
structure RequestState where
  user : Option SessionClaims := none
  invokeKey : Option InvokeKeyRow := none

/-- The secrets and what is computed with them. The process does not start without an API key
(`ensure_api_key_configured`). `decode` verifies a JWT and gives its payload. -/
structure AuthEnvironment where
  apiKey : String
  apiKey_ne : apiKey ≠ ""
  decode : String → Option (Dict String Json)
  hashToken : String → String
  now : String

/-- The paths that need no credential. -/
def authExemptPaths : List String :=
  ["/health", "/docs", "/openapi.json", "/redoc", "/auth/google/login", "/auth/google/callback",
    "/connections/oauth/callback"]

/-- The routes on which an invoke key is accepted. -/
def invokeKeyScopedRoutes : List String :=
  ["/graphs/{graph_id}/invoke", "/graphs/{graph_id}/contract"]

/-- The credential of a request: a bearer token, or else the `key` of the query. -/
def HttpRequest.supplied (request : HttpRequest) : Option String :=
  match request.authorization.filter ("Bearer ".isPrefixOf ·) with
  | some authorization => some (authorization.drop "Bearer ".length).toString
  | none => request.key.filter (· ≠ "")

section

variable (environment : AuthEnvironment)

/-- The claims of a token, if it is a session token. A token for another purpose has a `typ`. -/
def verifyToken (token : String) : Option SessionClaims := do
  let payload ← environment.decode token
  if payload.getD "typ" .null ≠ .null then none
  else
    let userId ← payload.get? "sub"
    let email ← payload.get? "email"
    let role ← payload.get? "role"
    pure { userId, email, role }

/-- The graph whose invoke keys are tried: that in the path of a scoped route. -/
def HttpRequest.scopedGraphId (request : HttpRequest) : Option String :=
  match request.route with
  | none => none
  | some route =>
    if route ∈ invokeKeyScopedRoutes then request.pathParams.get? "graph_id" else none

/-- Refuse a request without a valid credential. -/
def refuseCredential : EStateM HttpError InvokeKeyTable RequestState :=
  throw ⟨401, "Missing or invalid credential"⟩

/-- Go on with the answer of the store: the key that was found, and the table after its use. -/
def acceptInvokeKey :
    Option InvokeKeyRow × InvokeKeyTable → EStateM HttpError InvokeKeyTable RequestState
  | (some keyRow, table) => do
    set table
    pure { invokeKey := some keyRow }
  | (none, table) => do
    set table
    refuseCredential

/-- Try the invoke keys of a graph. -/
def requireInvokeKey (graphId credential : String) :
    EStateM HttpError InvokeKeyTable RequestState := do
  let table ← get
  acceptInvokeKey
    (validateInvokeKey environment.hashToken graphId credential (some environment.now) table)

/-- Let a request pass, or refuse it (`require_auth`). -/
def requireAuth (request : HttpRequest) : EStateM HttpError InvokeKeyTable RequestState :=
  if request.path ∈ authExemptPaths then pure {}
  else
    match (request.supplied.filter (· ≠ "")).bind (verifyToken environment) with
    | some claims => pure { user := some claims }
    | none =>
      if request.supplied = some environment.apiKey then pure {}
      else
        match request.supplied.filter (· ≠ ""), request.scopedGraphId with
        | some credential, some graphId => requireInvokeKey environment graphId credential
        | _, _ => refuseCredential

/-- The request reaches its endpoint. -/
def Passes (request : HttpRequest) (table : InvokeKeyTable) : Prop :=
  ∃ state after, (requireAuth environment request).run table = .ok state after

end

/-! ## Which requests pass -/

section

variable {environment : AuthEnvironment} {request : HttpRequest} {table : InvokeKeyTable}

/-- The graph of a scoped route. -/
theorem scoped_graph_id_eq_some_iff {graphId : String} :
    request.scopedGraphId = some graphId ↔
      (∃ route ∈ invokeKeyScopedRoutes, request.route = some route) ∧
        request.pathParams.get? "graph_id" = some graphId := by
  unfold HttpRequest.scopedGraphId
  cases hroute : request.route with
  | none => simp
  | some route =>
      by_cases hscoped : route ∈ invokeKeyScopedRoutes
      · simp [hscoped]
      · simp [hscoped]

/-- An invoke key is accepted if the table has it for the graph. -/
theorem require_invoke_key_passes_iff (graphId credential : String) :
    (∃ state after,
      (requireInvokeKey environment graphId credential).run table = .ok state after) ↔
      (validateInvokeKey environment.hashToken graphId credential (some environment.now)
        table).1.isSome := by
  show (∃ state after, (acceptInvokeKey (validateInvokeKey environment.hashToken graphId credential
    (some environment.now) table)).run table = .ok state after) ↔ _
  obtain ⟨keyRow, after⟩ := validateInvokeKey environment.hashToken graphId credential
    (some environment.now) table
  cases keyRow with
  | none =>
      refine ⟨fun hpasses => ?_, nofun⟩
      obtain ⟨_, _, hrefused⟩ := hpasses
      cases hrefused
  | some keyRow => exact ⟨fun _ => rfl, fun _ => ⟨_, _, rfl⟩⟩

/-- Without a session and the shared key, a request passes with a key of the scoped graph only. -/
theorem passes_iff_of_other {credential : String} (hpath : request.path ∉ authExemptPaths)
    (hsupplied : request.supplied = some credential) (hkey : credential ≠ environment.apiKey)
    (hsession : verifyToken environment credential = none) :
    Passes environment request table ↔
      credential ≠ "" ∧ ∃ graphId, request.scopedGraphId = some graphId ∧
        (validateInvokeKey environment.hashToken graphId credential (some environment.now)
          table).1.isSome := by
  have hshared : request.supplied ≠ some environment.apiKey := by
    rw [hsupplied]
    exact fun heq => hkey (Option.some.inj heq)
  unfold Passes requireAuth
  rw [if_neg hpath, if_neg hshared, hsupplied]
  by_cases hempty : credential = ""
  · subst hempty
    refine ⟨fun hpasses => ?_, fun hpasses => absurd rfl hpasses.1⟩
    obtain ⟨_, _, hrefused⟩ := hpasses
    cases hrefused
  · have hfilter : (some credential).filter (· ≠ "") = some credential := by
      simp [hempty]
    rw [hfilter, Option.bind_some, hsession]
    cases hgraph : request.scopedGraphId with
    | none =>
        refine ⟨fun hpasses => ?_, fun ⟨_, _, hscoped, _⟩ => by cases hscoped⟩
        obtain ⟨_, _, hrefused⟩ := hpasses
        cases hrefused
    | some graphId =>
        refine (require_invoke_key_passes_iff graphId credential).trans
          ⟨fun hvalid => ⟨hempty, graphId, rfl, hvalid⟩, fun hvalid => ?_⟩
        obtain ⟨_, _, hscoped, hvalid⟩ := hvalid
        cases hscoped
        exact hvalid

end

/-- A request whose credential is neither the shared key nor a session token passes if and only if
its route is a scoped one and the credential is the token of a key that was minted for the graph in
its path and has not been revoked. -/
theorem require_auth_passes_iff (environment : AuthEnvironment)
    (hinjective : Function.Injective environment.hashToken) (operations : List KeyOperation)
    (request : HttpRequest) (credential : String) (hpath : request.path ∉ authExemptPaths)
    (hsupplied : request.supplied = some credential) (hkey : credential ≠ environment.apiKey)
    (hsession : verifyToken environment credential = none) :
    Passes environment request (keysAfter environment.hashToken operations) ↔
      (∃ route ∈ invokeKeyScopedRoutes, request.route = some route) ∧
      ∃ graphId, request.pathParams.get? "graph_id" = some graphId ∧
        ∃ keyId, KeyLive environment.hashToken operations graphId keyId credential := by
  rw [passes_iff_of_other hpath hsupplied hkey hsession]
  constructor
  · intro hpasses
    obtain ⟨_, graphId, hscoped, hvalid⟩ := hpasses
    obtain ⟨hroute, hparam⟩ := scoped_graph_id_eq_some_iff.mp hscoped
    exact ⟨hroute, graphId, hparam, (opens_iff_live hinjective operations).mp hvalid⟩
  · intro hlive
    obtain ⟨hroute, graphId, hparam, keyId, hkeyLive⟩ := hlive
    exact ⟨token_ne_empty hkeyLive, graphId, scoped_graph_id_eq_some_iff.mpr ⟨hroute, hparam⟩,
      (opens_iff_live hinjective operations).mpr ⟨keyId, hkeyLive⟩⟩

/-! ### A key is minted and used -/

/-- An environment without sessions. Of the hash it fixes that of one token. -/
def plainAuth : AuthEnvironment where
  apiKey := "shared"
  apiKey_ne := by decide
  decode _ := none
  hashToken := Equiv.swap "agsk_secret"
    "ceedeb1c2b6cdc918e7dccececbc0ad63fbf925bc39d1963434dab50a5e27de9"
  now := "2026-01-01T00:00:00Z"

/-- A key of the graph `mail`. -/
def mintMail : KeyOperation :=
  .mint "mail" { label := "ci", createdAt := "2026-01-01T00:00:00Z" } ⟨"secret", "k1"⟩

/-- A request that invokes a graph with a key. -/
def invokeRequest (graphId token : String) : HttpRequest where
  path := s!"/graphs/{graphId}/invoke"
  key := some token
  route := some "/graphs/{graph_id}/invoke"
  pathParams := .ofList [("graph_id", graphId)]

/-- The key of one graph opens it, and no other graph. -/
theorem mail_key_opens_mail :
    Passes plainAuth (invokeRequest "mail" "agsk_secret")
      (keysAfter plainAuth.hashToken [mintMail]) ∧
    ¬ Passes plainAuth (invokeRequest "news" "agsk_secret")
      (keysAfter plainAuth.hashToken [mintMail]) := by
  have hinjective : Function.Injective plainAuth.hashToken := Equiv.injective _
  refine ⟨(require_auth_passes_iff plainAuth hinjective [mintMail] _ "agsk_secret" (by decide)
    (by decide) (by decide) rfl).mpr ?_, fun hpasses => ?_⟩
  · refine ⟨⟨_, .head _, rfl⟩, "mail", by decide, "k1", [], mintMail, [], rfl, ?_,
      List.not_mem_nil⟩
    exact ⟨_, _, _, _, rfl, rfl, rfl⟩
  · obtain ⟨_, _, hrefused⟩ := hpasses
    cases hrefused

end AgentGraphStudio
