import AgentGraphStudio.Lib.Program
import AgentGraphStudio.Mcp.RemoteClient
import AgentGraphStudio.Mcp.ToolLists

/-!
# Looking for an authorization server

`discover_oauth_server` and `register_client` of `backend/mcp/oauth_flow.py`. The metadata of a
server is looked for at one URL after another, then behind a challenge of the server itself, and
what it says first leads to an authorization server. Everything that may raise is asked of others:
HTTP, the SDK and the checks of `urlparse`. `discover_oauth_server_uncaught` says that a
`McpOAuthError` is all that a search raises as long as each of them answers.
-/

namespace AgentGraphStudio.OAuthFlow

/-! ## What is asked of others -/

/-- What a client says of itself when it registers. -/
structure OAuthClientMetadata where
  redirectUris : List String
  clientName : String
  grantTypes : List String
  responseTypes : List String
  scope : Option String

/-- A request that is ready to be sent. -/
structure HttpRequest where
  url : String
  body : Config

/-- What is asked of the SDK and of HTTP. `checkNetloc` is what `urlparse` finds wrong with the
brackets and the characters of a network location. -/
inductive OAuthOp where
  | protectedResourceUrls (wwwAuthUrl : Option String) (serverUrl : String)
  | authorizationServerUrls (authServerUrl serverUrl : String)
  | clientRegistrationRequest (metadata : OAuthClientMetadata) (registrationEndpoint : String)
  | checkNetloc (netloc : String)
  | get (url : String)
  | post (url : String) (body : Config) (headers : Dict String String)
  | send (request : HttpRequest)

/-- What is answered if nothing is raised. -/
abbrev OAuthOp.Answer : OAuthOp → Type
  | .protectedResourceUrls .. | .authorizationServerUrls .. => List String
  | .clientRegistrationRequest .. => HttpRequest
  | .checkNetloc _ => Unit
  | .get _ | .post .. | .send _ => HttpResponse

/-- The answer, or the text of what is raised. -/
abbrev OAuthOp.Response (op : OAuthOp) : Type := Except String op.Answer

/-- The Protected Resource Metadata of a server. -/
structure ProtectedResourceMetadata where
  authorizationServers : List String
  scopesSupported : Option (List String)

/-- The metadata of an authorization server. -/
structure OAuthMetadata where
  authorizationEndpoint : String
  tokenEndpoint : String
  registrationEndpoint : Option String

/-- What a registered client is told of itself. -/
structure OAuthClientInformation where
  clientId : Option String
  clientSecret : Option String

/-- How the SDK reads responses. What is not the metadata looked for is read as `none`; a
registration that cannot be read raises. -/
structure OAuthSdk where
  latestProtocolVersion : String
  handleProtectedResourceResponse : HttpResponse → Option ProtectedResourceMetadata
  extractResourceMetadataFromWwwAuth : HttpResponse → Option String
  handleAuthMetadataResponse : HttpResponse → Bool × Option OAuthMetadata
  handleRegistrationResponse : HttpResponse → Except String OAuthClientInformation

/-- A part of a search. -/
abbrev OAuthProgram (α : Type) := ExceptT OAuthFailure (Program OAuthOp OAuthOp.Response) α

/-- Ask something of others; what they raise is passed on as it is. -/
def ask (op : OAuthOp) : OAuthProgram op.Answer :=
  ExceptT.mk ((Program.op op).bind fun response => .done (response.mapError .other))

/-! ## `urlparse` -/

/-- The parts of a URL that are read here. -/
structure ParsedUrl where
  scheme : String
  netloc : String
  path : String

/-- The schemes with parameters in the last segment of a path. -/
def usesParams : List String :=
  ["", "ftp", "hdl", "prospero", "http", "imap", "https", "shttp", "rtsp", "rtsps", "rtspu", "sip",
    "sips", "mms", "sftp", "tel"]

/-- May this character stand in a scheme? -/
def isSchemeChar (char : Char) : Bool := char.isAlphanum || char ∈ ['+', '-', '.']

/-- Cut the scheme off, if there is one. -/
def splitScheme (url : List Char) : String × List Char :=
  let scheme := url.takeWhile (· ≠ ':')
  match url.dropWhile (· ≠ ':') with
  | _ :: rest =>
    if scheme.head?.any Char.isAlpha ∧ scheme.all isSchemeChar then
      (String.ofList (scheme.map Char.toLower), rest)
    else ("", url)
  | [] => ("", url)

/-- Cut the network location off, if there is one. -/
def splitNetloc : List Char → List Char × List Char
  | '/' :: '/' :: rest =>
    (rest.takeWhile (· ∉ ['/', '?', '#']), rest.dropWhile (· ∉ ['/', '?', '#']))
  | url => ([], url)

/-- A path without the parameters of its last segment. -/
def dropParams (path : List Char) : List Char :=
  let last := (path.reverse.takeWhile (· ≠ '/')).reverse
  path.take (path.length - last.length) ++ last.takeWhile (· ≠ ';')

/-- The parts of a URL whose network location is in order. -/
def partsOf (url : String) : ParsedUrl :=
  let cleaned := (url.toList.dropWhile (·.toNat ≤ 0x20)).filter (· ∉ ['\t', '\r', '\n'])
  let (scheme, rest) := splitScheme cleaned
  let (netloc, rest) := splitNetloc rest
  let path := (rest.takeWhile (· ≠ '#')).takeWhile (· ≠ '?')
  { scheme, netloc := String.ofList netloc
    path := String.ofList (if scheme ∈ usesParams then dropParams path else path) }

/-- Parse a URL. -/
def urlparse (url : String) : OAuthProgram ParsedUrl := do
  ask (.checkNetloc (partsOf url).netloc)
  pure (partsOf url)

/-! ## Discovery -/

/-- The segments of a path. -/
def segmentsOf (path : String) : List String :=
  ((path.toList.splitOn '/').filter (· ≠ [])).map String.ofList

/-- Where the metadata of the path with these segments may be. -/
def wellKnownUrl (parsed : ParsedUrl) (segments : List String) : String :=
  let path := "/".intercalate segments
  s!"{parsed.scheme}://{parsed.netloc}/.well-known/oauth-protected-resource/{path}"

/-- Where the metadata of an endpoint may be if it is that of a path above
(`_parent_path_prm_candidates`). The longest path comes first. -/
def parentPathPrmCandidates (parsed : ParsedUrl) : List String :=
  let segments := segmentsOf parsed.path
  (List.range (segments.length - 1)).reverse.map fun i =>
    wellKnownUrl parsed (segments.take (i + 1))

section

variable (sdk : OAuthSdk)

/-- The metadata at the first of some URLs that has any. -/
def fetchPrm : List String → OAuthProgram (Option ProtectedResourceMetadata)
  | [] => pure none
  | url :: urls => do
    let response ← ask (.get url)
    match sdk.handleProtectedResourceResponse response with
    | some prm => pure (some prm)
    | none => fetchPrm urls

/-- The request of the probe: a minimal `initialize`. -/
def probeBody : Config :=
  .ofList [("jsonrpc", .str "2.0"), ("id", .int 1), ("method", .str "initialize"),
    ("params", .obj [("protocolVersion", .str sdk.latestProtocolVersion), ("capabilities", .obj []),
      ("clientInfo", .obj [("name", .str "agent-graph-studio"), ("version", .str "0.1")])])]

/-- The headers of the probe. -/
def probeHeaders : Dict String String :=
  .ofList [("Accept", "application/json, text/event-stream"), ("Content-Type", "application/json")]

/-- The metadata behind the challenge of a server that is called without a token. -/
def probePrm (mcpServerUrl : String) : OAuthProgram (Option ProtectedResourceMetadata) := do
  let probe ← ask (.post mcpServerUrl (probeBody sdk) probeHeaders)
  if probe.status = 401 then
    let urls ← ask (.protectedResourceUrls (sdk.extractResourceMetadataFromWwwAuth probe)
      mcpServerUrl)
    fetchPrm sdk urls
  else pure none

/-- The metadata of a server. -/
def findPrm (mcpServerUrl : String) : OAuthProgram (Option ProtectedResourceMetadata) := do
  let standardCandidates ← ask (.protectedResourceUrls none mcpServerUrl)
  let parsed ← urlparse mcpServerUrl
  match ← fetchPrm sdk (standardCandidates ++ parentPathPrmCandidates parsed) with
  | some prm => pure (some prm)
  | none => probePrm sdk mcpServerUrl

/-- The metadata of an authorization server at the first of some URLs that has any, as long as none
of them answers that it is of no use to go on. -/
def fetchAsm : List String → OAuthProgram (Option OAuthMetadata)
  | [] => pure none
  | url :: urls => do
    let response ← ask (.get url)
    match sdk.handleAuthMetadataResponse response with
    | (_, some asm) => pure (some asm)
    | (true, none) => fetchAsm urls
    | (false, none) => pure none

/-- An authorization server with all that is known of it. -/
structure DiscoveredOAuthServer extends OAuthServer where
  authorizationEndpoint : String
  scopesSupported : Option (List String)

/-- Look for the authorization server of a remote server. -/
def discoverOauthServer (mcpServerUrl : String) : OAuthProgram DiscoveredOAuthServer := do
  match (← findPrm sdk mcpServerUrl).map fun prm =>
    (prm.authorizationServers, prm.scopesSupported) with
  | some (authServerUrl :: _, scopes) =>
    let urls ← ask (.authorizationServerUrls authServerUrl mcpServerUrl)
    match ← fetchAsm sdk urls with
    | none =>
      throw (.oauthError (s!"Could not discover OAuth Authorization Server Metadata for " ++
        s!"{authServerUrl} (advertised by {mcpServerUrl})."))
    | some asm =>
      pure
        { tokenEndpoint := asm.tokenEndpoint
          registrationEndpoint := asm.registrationEndpoint
          authorizationEndpoint := asm.authorizationEndpoint
          scopesSupported := scopes.filter (· ≠ []) }
  | _ =>
    throw (.oauthError (s!"{mcpServerUrl} doesn't advertise a discoverable authorization server " ++
      "(Protected Resource Metadata) via any known path -- not a spec-conformant " ++
      "MCP OAuth server, or it genuinely doesn't require OAuth."))

/-! ## Registration -/

/-- Register a client, and return its id and its secret. -/
def registerClient (registrationEndpoint redirectUri : String) (scope : Option String) :
    OAuthProgram (String × Option String) := do
  let request ← ask (.clientRegistrationRequest
    { redirectUris := [redirectUri]
      clientName := "Agent Graph Studio"
      grantTypes := ["authorization_code", "refresh_token"]
      responseTypes := ["code"]
      scope } registrationEndpoint)
  let response ← ask (.send request)
  if response.status = 200 ∨ response.status = 201 then
    match sdk.handleRegistrationResponse response with
    | .error e =>
      throw (.oauthError (s!"Dynamic client registration at {registrationEndpoint} returned an " ++
        s!"invalid response: {e}"))
    | .ok info =>
      match info.clientId.filter (· ≠ "") with
      | none =>
        throw (.oauthError (s!"Dynamic client registration at {registrationEndpoint} did not " ++
          "return a client_id"))
      | some clientId => pure (clientId, info.clientSecret)
  else
    throw (.oauthError (s!"Dynamic client registration at {registrationEndpoint} failed: " ++
      s!"{response.status} {response.text}"))

end

/-! ## What is raised -/

/-- What is raised besides a `McpOAuthError`. -/
def uncaught {α : Type} : Except OAuthFailure α → Option String
  | .error (.other e) => some e
  | .error (.oauthError _) | .ok _ => none

/-- What is raised instead of an answer. -/
def raised (event : Event OAuthOp OAuthOp.Response) : Option String :=
  match event.response with
  | .error e => some e
  | .ok _ => none

section

variable {α β : Type} {act : OAuthProgram α} {f : α → OAuthProgram β}
  {events : List (Event OAuthOp OAuthOp.Response)}

/-- What is raised besides a `McpOAuthError` is what was raised first by what was asked. -/
def PassesOn (act : OAuthProgram α) : Prop :=
  ∀ events ending, Program.Ends act.run events ending → uncaught ending = events.findSome? raised

theorem passes_on_pure (value : α) : PassesOn (pure value) := by
  intro events ending hends
  obtain ⟨rfl, rfl⟩ := Program.ends_done_iff.mp hends
  rfl

theorem passes_on_throw (text : String) : PassesOn (throw (.oauthError text) : OAuthProgram α) := by
  intro events ending hends
  obtain ⟨rfl, rfl⟩ := Program.ends_done_iff.mp hends
  rfl

/-- What ends after a question ends with its answer. -/
theorem ends_ask_iff {op : OAuthOp} {ending : Except OAuthFailure op.Answer} :
    Program.Ends (ask op).run events ending ↔
      ∃ response, events = [⟨op, response⟩] ∧ ending = response.mapError .other := by
  unfold ask
  rw [ExceptT.run_mk, Program.ends_bind_iff]
  constructor
  · rintro ⟨first, response, second, rfl, hasked, hrest⟩
    obtain rfl := Program.ends_op_iff.mp hasked
    obtain ⟨rfl, rfl⟩ := Program.ends_done_iff.mp hrest
    exact ⟨response, rfl, rfl⟩
  · rintro ⟨response, rfl, rfl⟩
    exact ⟨[⟨op, response⟩], response, [], rfl, Program.ends_op_iff.mpr rfl, .refl _⟩

theorem passes_on_ask (op : OAuthOp) : PassesOn (ask op) := by
  intro events ending hends
  obtain ⟨response, rfl, rfl⟩ := ends_ask_iff.mp hends
  cases response <;> rfl

/-- A sequence that ends has ended in its first part, or its second part goes on from there. -/
theorem ends_seq_iff {ending : Except OAuthFailure β} :
    Program.Ends (act >>= f).run events ending ↔
      ∃ first middle second, events = first ++ second ∧ Program.Ends act.run first middle ∧
        Program.Ends (ExceptT.bindCont f middle) second ending :=
  Program.ends_bind_iff

theorem PassesOn.bind (h : PassesOn act) (hf : ∀ value, PassesOn (f value)) :
    PassesOn (act >>= f) := by
  intro events ending hends
  obtain ⟨first, middle, second, rfl, hfirst, hsecond⟩ := ends_seq_iff.mp hends
  rw [List.findSome?_append, ← h first middle hfirst]
  cases middle with
  | ok value => exact hf value second ending hsecond
  | error failure =>
      obtain ⟨rfl, rfl⟩ := Program.ends_done_iff.mp hsecond
      cases failure <;> rfl

variable (sdk : OAuthSdk)

theorem fetch_prm_passes_on (urls : List String) : PassesOn (fetchPrm sdk urls) := by
  induction urls with
  | nil => exact passes_on_pure none
  | cons url urls ih =>
      refine (passes_on_ask _).bind fun response => ?_
      cases sdk.handleProtectedResourceResponse response with
      | some prm => exact passes_on_pure _
      | none => exact ih

theorem fetch_asm_passes_on (urls : List String) : PassesOn (fetchAsm sdk urls) := by
  induction urls with
  | nil => exact passes_on_pure none
  | cons url urls ih =>
      refine (passes_on_ask _).bind fun response => ?_
      rcases sdk.handleAuthMetadataResponse response with ⟨_ | _, _ | asm⟩
      · exact passes_on_pure none
      · exact passes_on_pure _
      · exact ih
      · exact passes_on_pure _

theorem find_prm_passes_on (mcpServerUrl : String) : PassesOn (findPrm sdk mcpServerUrl) := by
  refine (passes_on_ask _).bind fun standardCandidates => ?_
  refine ((passes_on_ask _).bind fun _ => passes_on_pure _).bind fun parsed => ?_
  refine (fetch_prm_passes_on sdk _).bind fun found => ?_
  cases found with
  | some prm => exact passes_on_pure _
  | none =>
      -- Nothing was found without a challenge.
      refine (passes_on_ask _).bind fun probe => ?_
      split
      · exact (passes_on_ask _).bind fun urls => fetch_prm_passes_on sdk urls
      · exact passes_on_pure none

/-- Besides a `McpOAuthError`, a search raises exactly what was raised by what it asked: a request
that is not answered, or a URL that cannot be read. -/
theorem discover_oauth_server_uncaught {mcpServerUrl : String}
    {ending : Except OAuthFailure DiscoveredOAuthServer}
    (h : Program.Ends (discoverOauthServer sdk mcpServerUrl).run events ending) :
    uncaught ending = events.findSome? raised := by
  have hpasses : PassesOn (discoverOauthServer sdk mcpServerUrl) := by
    refine (find_prm_passes_on sdk mcpServerUrl).bind fun found => ?_
    rcases found with _ | ⟨_ | ⟨authServerUrl, others⟩, scopes⟩
    · exact passes_on_throw _
    · exact passes_on_throw _
    · refine (passes_on_ask _).bind fun urls => (fetch_asm_passes_on sdk urls).bind fun asm => ?_
      cases asm with
      | none => exact passes_on_throw _
      | some asm => exact passes_on_pure _
  exact hpasses events ending h

/-- Besides a `McpOAuthError`, a registration raises exactly what was raised when its request was
made up or sent. -/
theorem register_client_uncaught {registrationEndpoint redirectUri : String}
    {scope : Option String} {ending : Except OAuthFailure (String × Option String)}
    (h : Program.Ends (registerClient sdk registrationEndpoint redirectUri scope).run events
      ending) :
    uncaught ending = events.findSome? raised := by
  have hpasses : PassesOn (registerClient sdk registrationEndpoint redirectUri scope) := by
    refine (passes_on_ask _).bind fun request => (passes_on_ask _).bind fun response => ?_
    split
    · cases sdk.handleRegistrationResponse response with
      | error e => exact passes_on_throw _
      | ok info =>
          dsimp only
          cases info.clientId.filter (· ≠ "") with
          | none => exact passes_on_throw _
          | some clientId => exact passes_on_pure _
    · exact passes_on_throw _
  exact hpasses events ending h

end

/-! ## What is found -/

/-- The paths that are tried are those above the endpoint's own, but not the root. -/
theorem mem_parent_path_prm_candidates_iff {parsed : ParsedUrl} {url : String} :
    url ∈ parentPathPrmCandidates parsed ↔ ∃ parent below, parent ≠ [] ∧ below ≠ [] ∧
      segmentsOf parsed.path = parent ++ below ∧ url = wellKnownUrl parsed parent := by
  unfold parentPathPrmCandidates
  simp only [List.mem_map, List.mem_reverse, List.mem_range]
  constructor
  · rintro ⟨i, hi, rfl⟩
    refine ⟨_, (segmentsOf parsed.path).drop (i + 1), ?_, ?_,
      (List.take_append_drop _ _).symm, rfl⟩
    · intro hempty
      have hlength := congrArg List.length hempty
      rw [List.length_take, List.length_nil] at hlength
      omega
    · intro hempty
      have hlength := congrArg List.length hempty
      rw [List.length_drop, List.length_nil] at hlength
      omega
  · rintro ⟨parent, below, hparent, hbelow, hsegments, rfl⟩
    have hfirst := List.length_pos_iff.mpr hparent
    have hsecond := List.length_pos_iff.mpr hbelow
    refine ⟨parent.length - 1, ?_, ?_⟩
    · rw [hsegments, List.length_append]
      omega
    · rw [hsegments, Nat.sub_add_cancel hfirst, List.take_left]

example : parentPathPrmCandidates (partsOf "https://mail.example/mcp/v1") =
    ["https://mail.example/.well-known/oauth-protected-resource/mcp"] := by decide

/-- This URL was asked for and answered. -/
def Got (events : List (Event OAuthOp OAuthOp.Response)) (url : String) (response : HttpResponse) :
    Prop :=
  (⟨.get url, .ok response⟩ : Event OAuthOp OAuthOp.Response) ∈ events

section

variable {α β : Type} {act : OAuthProgram α} {f : α → OAuthProgram β} {sdk : OAuthSdk}
  {events : List (Event OAuthOp OAuthOp.Response)} {mcpServerUrl : String}

/-- What ends with a value has ended with one in both of its parts. -/
theorem ends_seq_ok {result : β} (h : Program.Ends (act >>= f).run events (.ok result)) :
    ∃ first value second, events = first ++ second ∧ Program.Ends act.run first (.ok value) ∧
      Program.Ends (f value).run second (.ok result) := by
  obtain ⟨first, middle, second, rfl, hfirst, hsecond⟩ := ends_seq_iff.mp h
  cases middle with
  | ok value => exact ⟨first, value, second, rfl, hfirst, hsecond⟩
  | error failure => exact nomatch (Program.ends_done_iff.mp hsecond).2

theorem ends_ask_ok {op : OAuthOp} {answer : op.Answer}
    (h : Program.Ends (ask op).run events (.ok answer)) : events = [⟨op, .ok answer⟩] := by
  obtain ⟨response, rfl, hanswer⟩ := ends_ask_iff.mp h
  cases response with
  | ok value =>
      cases hanswer
      rfl
  | error e => cases hanswer

/-- Of some URLs, the first one with metadata is taken, and all of them are tried before. -/
theorem fetch_prm_ended {urls : List String} {found : Option ProtectedResourceMetadata}
    (h : Program.Ends (fetchPrm sdk urls).run events (.ok found)) :
    (∀ prm ∈ found, ∃ url response, Got events url response ∧
      sdk.handleProtectedResourceResponse response = some prm) ∧
    (found = none → ∀ url ∈ urls, ∃ response, Got events url response ∧
      sdk.handleProtectedResourceResponse response = none) := by
  induction urls generalizing events with
  | nil =>
      obtain ⟨-, hfound⟩ := Program.ends_done_iff.mp h
      cases hfound
      exact ⟨nofun, fun _ => nofun⟩
  | cons url urls ih =>
      obtain ⟨first, response, second, rfl, hasked, hrest⟩ := ends_seq_ok h
      obtain rfl := ends_ask_ok hasked
      cases hread : sdk.handleProtectedResourceResponse response with
      | some prm =>
          rw [hread] at hrest
          obtain ⟨-, hfound⟩ := Program.ends_done_iff.mp hrest
          cases hfound
          refine ⟨fun other hother => ?_, nofun⟩
          cases hother
          exact ⟨url, response, List.mem_cons_self, hread⟩
      | none =>
          rw [hread] at hrest
          obtain ⟨hfound, hmissed⟩ := ih hrest
          refine ⟨fun prm hprm => ?_, fun hnone => List.forall_mem_cons.mpr ⟨?_, ?_⟩⟩
          · obtain ⟨other, answer, hgot, hprmRead⟩ := hfound prm hprm
            exact ⟨other, answer, List.mem_cons_of_mem _ hgot, hprmRead⟩
          · exact ⟨response, List.mem_cons_self, hread⟩
          · intro other hother
            obtain ⟨answer, hgot, hnoneRead⟩ := hmissed hnone other hother
            exact ⟨answer, List.mem_cons_of_mem _ hgot, hnoneRead⟩

theorem fetch_asm_ended {urls : List String} {asm : OAuthMetadata}
    (h : Program.Ends (fetchAsm sdk urls).run events (.ok (some asm))) :
    ∃ url ∈ urls, ∃ response, Got events url response ∧
      (sdk.handleAuthMetadataResponse response).2 = some asm := by
  induction urls generalizing events with
  | nil => exact nomatch (Program.ends_done_iff.mp h).2
  | cons url urls ih =>
      obtain ⟨first, response, second, rfl, hasked, hrest⟩ := ends_seq_ok h
      obtain rfl := ends_ask_ok hasked
      rcases hread : sdk.handleAuthMetadataResponse response with ⟨goOn, _ | found⟩
      · rw [hread] at hrest
        cases goOn with
        | false => exact nomatch (Program.ends_done_iff.mp hrest).2
        | true =>
            obtain ⟨other, hother, answer, hgot, hasm⟩ := ih hrest
            exact ⟨other, List.mem_cons_of_mem _ hother, answer, List.mem_cons_of_mem _ hgot, hasm⟩
      · have hended : Program.Ends (pure (some found) : OAuthProgram _).run second
            (.ok (some asm)) := by
          rw [hread] at hrest
          cases goOn <;> exact hrest
        obtain ⟨-, hfound⟩ := Program.ends_done_iff.mp hended
        cases hfound
        exact ⟨url, List.mem_cons_self, response, List.mem_cons_self, by rw [hread]⟩

theorem urlparse_ended {url : String} {parsed : ParsedUrl}
    (h : Program.Ends (urlparse url).run events (.ok parsed)) : parsed = partsOf url := by
  obtain ⟨_, _, _, _, _, hrest⟩ := ends_seq_ok h
  exact Except.ok.inj (Program.ends_done_iff.mp hrest).2

/-- Metadata was read at some URL, or else none of the paths above has any. -/
theorem find_prm_ended {found : Option ProtectedResourceMetadata}
    (h : Program.Ends (findPrm sdk mcpServerUrl).run events (.ok found)) :
    (∀ prm ∈ found, ∃ url response, Got events url response ∧
      sdk.handleProtectedResourceResponse response = some prm) ∧
    (found = none → ∀ url ∈ parentPathPrmCandidates (partsOf mcpServerUrl), ∃ response,
      Got events url response ∧ sdk.handleProtectedResourceResponse response = none) := by
  obtain ⟨listed, standardCandidates, later, rfl, -, hparse⟩ := ends_seq_ok h
  obtain ⟨checked, parsed, later, rfl, hparsed, hfetch⟩ := ends_seq_ok hparse
  obtain rfl := urlparse_ended hparsed
  obtain ⟨tried, first, later, rfl, hfirst, hrest⟩ := ends_seq_ok hfetch
  obtain ⟨hfound, hmissed⟩ := fetch_prm_ended hfirst
  have hlater {url : String} {response : HttpResponse} (hgot : Got (tried ++ later) url response) :
      Got (listed ++ (checked ++ (tried ++ later))) url response :=
    List.mem_append_right _ (List.mem_append_right _ hgot)
  cases first with
  | some prm =>
      obtain ⟨rfl, hending⟩ := Program.ends_done_iff.mp hrest
      cases hending
      refine ⟨fun other hother => ?_, nofun⟩
      obtain ⟨url, response, hgot, hread⟩ := hfound other hother
      exact ⟨url, response, hlater (List.mem_append_left _ hgot), hread⟩
  | none =>
      refine ⟨fun prm hprm => ?_, fun _ url hurl => ?_⟩
      · -- The metadata is behind the challenge of the probe.
        obtain ⟨posted, probe, asked, rfl, -, hprobed⟩ := ends_seq_ok hrest
        split at hprobed
        · obtain ⟨listed', urls, fetched, rfl, -, hfetched⟩ := ends_seq_ok hprobed
          obtain ⟨url, response, hgot, hread⟩ := (fetch_prm_ended hfetched).1 prm hprm
          exact ⟨url, response, hlater (List.mem_append_right _ (List.mem_append_right _
            (List.mem_append_right _ hgot))), hread⟩
        · cases (Program.ends_done_iff.mp hprobed).2
          cases hprm
      · obtain ⟨response, hgot, hread⟩ := hmissed rfl url (List.mem_append_right _ hurl)
        exact ⟨response, hlater (List.mem_append_left _ hgot), hread⟩

/-- What is found is what the metadata says of the first authorization server that the metadata of
the server names. -/
theorem discovered_server_advertised {server : DiscoveredOAuthServer}
    (h : Program.Ends (discoverOauthServer sdk mcpServerUrl).run events (.ok server)) :
    ∃ prm authServerUrl others asm urls,
      (∃ url response, Got events url response ∧
        sdk.handleProtectedResourceResponse response = some prm) ∧
      prm.authorizationServers = authServerUrl :: others ∧
      (⟨.authorizationServerUrls authServerUrl mcpServerUrl, .ok urls⟩ :
        Event OAuthOp OAuthOp.Response) ∈ events ∧
      (∃ url ∈ urls, ∃ response, Got events url response ∧
        (sdk.handleAuthMetadataResponse response).2 = some asm) ∧
      server =
        { tokenEndpoint := asm.tokenEndpoint
          registrationEndpoint := asm.registrationEndpoint
          authorizationEndpoint := asm.authorizationEndpoint
          scopesSupported := prm.scopesSupported.filter (· ≠ []) } := by
  obtain ⟨searched, found, later, rfl, hsearched, hrest⟩ := ends_seq_ok h
  obtain ⟨hfound, -⟩ := find_prm_ended hsearched
  rcases found with _ | ⟨_ | ⟨authServerUrl, others⟩, scopes⟩
  · exact nomatch (Program.ends_done_iff.mp hrest).2
  · exact nomatch (Program.ends_done_iff.mp hrest).2
  · obtain ⟨listed, urls, fetched, rfl, hlisted, hfetch⟩ := ends_seq_ok hrest
    obtain rfl := ends_ask_ok hlisted
    obtain ⟨fetched, asm, ended, rfl, hfetched, hended⟩ := ends_seq_ok hfetch
    cases asm with
    | none => exact nomatch (Program.ends_done_iff.mp hended).2
    | some asm =>
        obtain ⟨url, response, hgot, hread⟩ := hfound _ rfl
        obtain ⟨asmUrl, hurl, asmResponse, hasmGot, hasm⟩ := fetch_asm_ended hfetched
        refine ⟨_, authServerUrl, others, asm, urls,
          ⟨url, response, List.mem_append_left _ hgot, hread⟩, rfl, ?_, ?_, ?_⟩
        · exact List.mem_append_right _ List.mem_cons_self
        · exact ⟨asmUrl, hurl, asmResponse,
            List.mem_append_right _ (List.mem_append_right _ (List.mem_append_left _ hasmGot)),
            hasm⟩
        · exact Except.ok.inj (Program.ends_done_iff.mp hended).2

end

/-! ## The world outside -/

section

variable {σ : Type} (outside : Outside) (sdk : OAuthSdk)
  (answer : (op : OAuthOp) → σ → op.Response × σ) (state : σ)

/-- A world in which others answer the questions of a search or of a registration one after
another. -/
def overHttp : Outside :=
  { outside with
    discoverOAuthServer := fun url =>
      ((discoverOauthServer sdk url).run.serve answer state).2.1.map
        DiscoveredOAuthServer.toOAuthServer
    registerClient := fun registrationEndpoint redirectUri scope =>
      ((registerClient sdk registrationEndpoint redirectUri scope).run.serve answer state).2.1 }

/-- What is raised while an authorization server is looked for. -/
def raisedBySearch (mcpServerUrl : String) : Option String :=
  ((discoverOauthServer sdk mcpServerUrl).run.serve answer state).1.findSome? raised

/-- What is raised while a client is registered. -/
def raisedByRegistration (registrationEndpoint redirectUri : String) (scope : Option String) :
    Option String :=
  ((registerClient sdk registrationEndpoint redirectUri scope).run.serve answer
    state).1.findSome? raised

variable {outside sdk answer state}

theorem uncaught_eq_some_iff {α : Type} {ending : Except OAuthFailure α} {e : String} :
    uncaught ending = some e ↔ ending = .error (.other e) := by
  rcases ending with (_ | _) | _ <;> simp [uncaught]

/-- A search breaks off with what is raised by what it asks, and in no other case. -/
theorem over_http_search_breaks_iff {mcpServerUrl e : String} :
    (overHttp outside sdk answer state).discoverOAuthServer mcpServerUrl = .error (.other e) ↔
      raisedBySearch sdk answer state mcpServerUrl = some e := by
  rw [raisedBySearch, ← discover_oauth_server_uncaught sdk (Program.ends_serve _ state),
    uncaught_eq_some_iff]
  unfold overHttp
  dsimp only
  rcases ((discoverOauthServer sdk mcpServerUrl).run.serve answer state).2.1 with failure | server
  · rw [Except.map, Except.error.injEq, Except.error.injEq]
  · exact ⟨nofun, nofun⟩

/-- A registration breaks off with what is raised when its request is made up or sent, and in no
other case. -/
theorem over_http_registration_breaks_iff {registrationEndpoint redirectUri e : String}
    {scope : Option String} :
    (overHttp outside sdk answer state).registerClient registrationEndpoint redirectUri scope =
        .error (.other e) ↔
      raisedByRegistration sdk answer state registrationEndpoint redirectUri scope = some e := by
  rw [raisedByRegistration, ← register_client_uncaught sdk (Program.ends_serve _ state),
    uncaught_eq_some_iff]
  rfl

end

end AgentGraphStudio.OAuthFlow
