import AgentGraphStudio.Api.AccountSafety
import AgentGraphStudio.Api.ConnectFlow

/-!
# No account is connected for someone else

What the threads of `AgentGraphStudio.Api.ConnectFlow` do is read off their own runs
(`ConnectThread.certified`), and what they share off the history (`state_of_history`). Together:
`accounts_connected_by_their_owners`.
-/

namespace AgentGraphStudio.ConnectFlow

section

variable {Token : Type}

/-- A step that was taken, with its answer. -/
abbrev ConnectEvent (Token : Type) := Event (ConnectOp Token) (ConnectRes Token)

/-- What has happened. -/
abbrev ConnectHistory (Token : Type) := List (ConnectEvent Token)

/-! ## What a thread does -/

/-- The steps that a thread takes, after what it has done itself: a start signs a state for its
caller, with a verifier that it drew; a callback with the state in its cookie stores the token that
its code was exchanged for, with the verifier of the state. -/
def ConnectThread.Permitted (thread : ConnectThread Token) (own : ConnectHistory Token) :
    ConnectOp Token → Prop
  | .issueMcpOauthStateToken userId connectionName codeVerifier redirectTo popup =>
    ∃ caller challenge, thread = .start connectionName redirectTo caller popup ∧
      callerUserId caller = some userId ∧
      (⟨.newPkcePair, (codeVerifier, challenge)⟩ : ConnectEvent Token) ∈ own
  | .saveToken userId connectionName token =>
    ∃ code state claims tokenEndpoint redirectUri clientId clientSecret response,
      thread = .callback code state (some state) ∧
      (⟨.verifyMcpOauthStateToken state, .ok (some claims)⟩ : ConnectEvent Token) ∈ own ∧
      claims.userId = userId ∧ claims.connectionName = connectionName ∧
      (⟨.exchangeCodeForToken tokenEndpoint code redirectUri clientId clientSecret
        claims.codeVerifier, .ok response⟩ : ConnectEvent Token) ∈ own ∧
      response.accessToken = some token.accessToken
  | _ => True

/-- A redirect has the state that was signed and the challenge that was drawn. -/
def Redirects (own : ConnectHistory Token) : ConnectReply Token → Prop
  | .redirect page cookie =>
    page.state = cookie ∧ ∃ verifier userId connectionName redirectTo popup,
    (⟨.newPkcePair, (verifier, page.codeChallenge)⟩ : ConnectEvent Token) ∈ own ∧
    (⟨.issueMcpOauthStateToken userId connectionName verifier redirectTo popup, .ok page.state⟩ :
      ConnectEvent Token) ∈ own
  | _ => True

/-- A part of a request in the surroundings of its thread. -/
abbrev ConnectCertified (thread : ConnectThread Token) (own : ConnectHistory Token)
    (program : ConnectProgram Token (ConnectReply Token)) : Prop :=
  Program.Certified thread.Permitted (fun _ _ _ => True) own program Redirects

variable {own : ConnectHistory Token} {thread : ConnectThread Token}

/-- A start leads to a page with its own state and challenge. -/
theorem lead_to_provider_certified {name redirectTo userId : String} {caller : Caller}
    {popup : Bool} (hthread : thread = .start name redirectTo caller popup)
    (hcaller : callerUserId caller = some userId) (clientId publicBaseUrl : String)
    (config : McpServerConnectionConfig) (discovered : DiscoveredOAuthServer) :
    ConnectCertified thread own
      (leadToProvider name redirectTo userId clientId publicBaseUrl popup config discovered) := by
  refine fun others => ⟨trivial, fun pair _ more => ?_⟩
  have hdrawn : (⟨.newPkcePair, (pair.1, pair.2)⟩ : ConnectEvent Token) ∈
      own ++ others ++ [⟨.newPkcePair, pair⟩] ++ more :=
    List.mem_append_left _ (List.mem_append_right _ (List.mem_singleton_self _))
  refine ⟨⟨caller, pair.2, hthread, hcaller, hdrawn⟩, fun response _ => ?_⟩
  cases response with
  | error error => exact Program.Certified.done fun _ => trivial
  | ok state =>
      refine Program.Certified.done fun last =>
        ⟨rfl, pair.1, userId, name, redirectTo, popup, ?_, ?_⟩
      · exact List.mem_append_left _ (List.mem_append_left _ hdrawn)
      · exact List.mem_append_left _ (List.mem_append_right _ (List.mem_singleton_self _))

/-- A start that has a client does what its thread may. -/
theorem start_with_client_certified {name redirectTo userId : String} {caller : Caller}
    {popup : Bool} (hthread : thread = .start name redirectTo caller popup)
    (hcaller : callerUserId caller = some userId) (clientId : String)
    (config : McpServerConnectionConfig) :
    ConnectCertified thread own
      (startWithClient name redirectTo userId clientId popup config) := by
  refine fun others => ⟨trivial, fun configured _ => ?_⟩
  cases hurl : configured.filter (· ≠ "") with
  | none =>
      simp only [Program.bind, hurl]
      exact Program.Certified.done fun _ => trivial
  | some publicBaseUrl =>
      simp only [Program.bind, hurl]
      refine fun more => ⟨trivial, fun answer _ => ?_⟩
      cases answer with
      | error failure => cases failure <;> exact Program.Certified.done fun _ => trivial
      | ok discovered => exact lead_to_provider_certified hthread hcaller _ _ _ _

/-- A start for a connection that was found does what its thread may. -/
theorem start_for_profile_certified {name redirectTo userId : String} {caller : Caller}
    {popup : Bool} (hthread : thread = .start name redirectTo caller popup)
    (hcaller : callerUserId caller = some userId) (profile : ConnectionProfile) :
    ConnectCertified thread own (startForProfile name redirectTo userId popup profile) := by
  unfold startForProfile
  cases McpServerConnectionConfig.parse profile.config with
  | error text => exact Program.Certified.done fun _ => trivial
  | ok config =>
      dsimp only
      by_cases hrequires : config.requiresOauth = true
      · rw [if_neg (not_not_intro hrequires)]
        cases config.oauthClientId.filter (· ≠ "") with
        | none => exact Program.Certified.done fun _ => trivial
        | some clientId => exact start_with_client_certified hthread hcaller clientId config
      · rw [if_pos hrequires]
        exact Program.Certified.done fun _ => trivial

/-- A start does what it may. -/
theorem start_certified (name redirectTo : String) (caller : Caller) (popup : Bool) :
    ConnectCertified (.start name redirectTo caller popup) own
      (mcpConnectionOauthStart name redirectTo caller popup) := by
  unfold mcpConnectionOauthStart
  cases hcaller : callerUserId caller with
  | none => exact Program.Certified.done fun _ => trivial
  | some userId =>
      refine fun others => ⟨trivial, fun found _ => ?_⟩
      cases found with
      | none => exact Program.Certified.done fun _ => trivial
      | some profile => exact start_for_profile_certified rfl hcaller profile

/-- A callback whose state has verified stores what its code was exchanged for. -/
theorem exchange_and_store_certified {code : String} {state : Token}
    {claims : McpOauthStateClaims} (hthread : thread = .callback code state (some state))
    (hverified : (⟨.verifyMcpOauthStateToken state, .ok (some claims)⟩ : ConnectEvent Token) ∈ own)
    (popupTargetOrigin : String) (profile : ConnectionProfile)
    (config : McpServerConnectionConfig) (publicBaseUrl : String)
    (discovered : DiscoveredOAuthServer) :
    ConnectCertified thread own
      (exchangeAndStore code claims popupTargetOrigin profile config publicBaseUrl
        discovered) := by
  refine fun others => ⟨trivial, fun answer _ => ?_⟩
  cases answer with
  | error failure => cases failure <;> exact Program.Certified.done fun _ => trivial
  | ok response =>
      cases htoken : tokenOf config discovered response with
      | none =>
          simp only [Program.bind, htoken]
          exact Program.Certified.done fun _ => trivial
      | some token =>
          simp only [Program.bind, htoken]
          obtain ⟨accessToken, haccess, rfl⟩ := Option.map_eq_some_iff.mp htoken
          refine fun more => ⟨⟨code, state, claims, discovered.tokenEndpoint,
            mcpOauthRedirectUri publicBaseUrl, config.oauthClientId, config.oauthClientSecret,
            response, hthread, ?_, rfl, rfl, ?_, (Option.filter_eq_some_iff.mp haccess).1⟩,
            fun _ _ last => ⟨trivial, fun generated _ => ?_⟩⟩
          · exact List.mem_append_left _ (List.mem_append_left _ (List.mem_append_left _ hverified))
          · exact List.mem_append_left _ (List.mem_append_right _ (List.mem_singleton_self _))
          · cases generated <;> exact Program.Certified.done fun _ => trivial

/-- A callback for a connection that was found does what its thread may. -/
theorem callback_for_profile_certified {code : String} {state : Token}
    {claims : McpOauthStateClaims} (hthread : thread = .callback code state (some state))
    (hverified : (⟨.verifyMcpOauthStateToken state, .ok (some claims)⟩ : ConnectEvent Token) ∈ own)
    (popupTargetOrigin : String) (profile : ConnectionProfile) :
    ConnectCertified thread own (callbackForProfile code claims popupTargetOrigin profile) := by
  unfold callbackForProfile
  cases McpServerConnectionConfig.parse profile.config with
  | error text => exact Program.Certified.done fun _ => trivial
  | ok config =>
      refine fun others => ⟨trivial, fun publicBaseUrl _ more => ⟨trivial, fun answer _ => ?_⟩⟩
      cases answer with
      | error failure => cases failure <;> exact Program.Certified.done fun _ => trivial
      | ok discovered =>
          refine exchange_and_store_certified hthread ?_ popupTargetOrigin profile config _
            discovered
          exact List.mem_append_left _ (List.mem_append_left _ (List.mem_append_left _
            (List.mem_append_left _ hverified)))

/-- A callback whose state has verified does what its thread may. -/
theorem callback_with_claims_certified {code : String} {state : Token}
    {claims : McpOauthStateClaims} (hthread : thread = .callback code state (some state))
    (hverified : (⟨.verifyMcpOauthStateToken state, .ok (some claims)⟩ : ConnectEvent Token) ∈ own)
    (popupTargetOrigin : String) :
    ConnectCertified thread own (callbackWithClaims code claims popupTargetOrigin) := by
  refine fun others => ⟨trivial, fun found _ => ?_⟩
  cases found with
  | none => exact Program.Certified.done fun _ => trivial
  | some profile =>
      refine callback_for_profile_certified hthread ?_ popupTargetOrigin profile
      exact List.mem_append_left _ (List.mem_append_left _ hverified)

variable [DecidableEq Token]

/-- A callback does what it may. -/
theorem callback_certified (code : String) (state : Token) (cookie : Option Token) :
    ConnectCertified (.callback code state cookie) own
      (mcpConnectionOauthCallback code state cookie) := by
  unfold mcpConnectionOauthCallback
  by_cases hcookie : cookie = some state
  · subst hcookie
    rw [if_neg (not_not_intro rfl)]
    refine fun others => ⟨trivial, fun verified _ => ?_⟩
    cases verified with
    | error error => exact Program.Certified.done fun _ => trivial
    | ok verified =>
        cases verified with
        | none => exact Program.Certified.done fun _ => trivial
        | some claims =>
            refine fun more => ⟨trivial, fun origin _ => ?_⟩
            cases origin with
            | error text => exact Program.Certified.done fun _ => trivial
            | ok popupTargetOrigin =>
                refine callback_with_claims_certified rfl ?_ popupTargetOrigin
                exact List.mem_append_left _ (List.mem_append_left _
                  (List.mem_append_right _ (List.mem_singleton_self _)))
  · rw [if_pos hcookie]
    exact Program.Certified.done fun _ => trivial

omit [DecidableEq Token] in
/-- What was permitted stays so when more has been done. -/
theorem ConnectThread.Permitted.mono {op : ConnectOp Token} {later : ConnectHistory Token}
    (h : thread.Permitted own op) (hsub : own ⊆ later) : thread.Permitted later op := by
  cases op with
  | issueMcpOauthStateToken userId connectionName codeVerifier redirectTo popup =>
      obtain ⟨caller, challenge, hthread, hcaller, hdrawn⟩ := h
      exact ⟨caller, challenge, hthread, hcaller, hsub hdrawn⟩
  | saveToken userId connectionName token =>
      obtain ⟨code, state, claims, tokenEndpoint, redirectUri, clientId, clientSecret, response,
        hthread, hverified, huser, hname, hexchanged, htoken⟩ := h
      exact ⟨code, state, claims, tokenEndpoint, redirectUri, clientId, clientSecret, response,
        hthread, hsub hverified, huser, hname, hsub hexchanged, htoken⟩
  | _ => trivial

/-- Every thread does what it may. -/
theorem ConnectThread.certified (thread : ConnectThread Token) :
    ConnectCertified thread [] thread.program := by
  cases thread with
  | start name redirectTo caller popup => exact start_certified name redirectTo caller popup
  | callback code state cookie => exact callback_certified code state cookie
  | consent page =>
      exact fun others => ⟨trivial, fun code _ => Program.Certified.done fun _ => trivial⟩

end

/-! ## What the threads share -/

section

variable {Token : Type}

/-- The state that an event has signed. -/
def issuedBy : ConnectEvent Token → List Token
  | ⟨.issueMcpOauthStateToken .., .ok token⟩ => [token]
  | _ => []

/-- The challenge that an event has drawn. -/
def drawnBy : ConnectEvent Token → List String
  | ⟨.newPkcePair, pair⟩ => [pair.2]
  | _ => []

/-- The code that an event has given out, with the challenge of its page. -/
def grantedBy : ConnectEvent Token → List (String × String)
  | ⟨.consent page, code⟩ => [(code, page.codeChallenge)]
  | _ => []

/-- The state after some events. -/
def stateAfter (events : ConnectHistory Token) : ConnectState Token where
  issued := events.flatMap issuedBy
  challenges := events.flatMap drawnBy
  granted := events.flatMap grantedBy

variable {settings : ConnectSettings Token} {events : ConnectHistory Token}
  {event : ConnectEvent Token} {next : ConnectState Token}

/-- A step adds to the state what its event says. -/
theorem connect_effect_state (h : connectEffect settings (stateAfter events) event next) :
    next = stateAfter (events ++ [event]) := by
  have hsplit : stateAfter (events ++ [event]) =
      ⟨events.flatMap issuedBy ++ issuedBy event, events.flatMap drawnBy ++ drawnBy event,
        events.flatMap grantedBy ++ grantedBy event⟩ := by
    simp only [stateAfter, List.flatMap_append, List.flatMap_singleton]
  rw [hsplit]
  obtain ⟨op, response⟩ := event
  cases op with
  | newPkcePair =>
      obtain ⟨-, -, rfl⟩ := h
      simp only [stateAfter, issuedBy, drawnBy, grantedBy, List.append_nil]
  | issueMcpOauthStateToken userId connectionName codeVerifier redirectTo popup =>
      obtain ⟨-, rfl⟩ := h
      cases response <;>
        simp only [stateAfter, ConnectState.issue, issuedBy, drawnBy, grantedBy, List.append_nil]
  | consent page =>
      obtain ⟨-, rfl⟩ := h
      simp only [stateAfter, issuedBy, drawnBy, grantedBy, List.append_nil]
  | verifyMcpOauthStateToken token =>
      obtain ⟨-, rfl⟩ := h
      simp only [stateAfter, issuedBy, drawnBy, grantedBy, List.append_nil]
  | exchangeCodeForToken tokenEndpoint code redirectUri clientId clientSecret codeVerifier =>
      obtain ⟨-, rfl⟩ := h
      simp only [stateAfter, issuedBy, drawnBy, grantedBy, List.append_nil]
  | _ =>
      cases (show next = stateAfter events from h)
      simp only [stateAfter, issuedBy, drawnBy, grantedBy, List.append_nil]

/-- A state that was signed was signed by an event. -/
theorem mem_issued_iff {token : Token} : token ∈ (stateAfter events).issued ↔
    ∃ userId connectionName codeVerifier redirectTo popup,
      (⟨.issueMcpOauthStateToken userId connectionName codeVerifier redirectTo popup, .ok token⟩ :
        ConnectEvent Token) ∈ events := by
  rw [stateAfter, List.mem_flatMap]
  constructor
  · intro ⟨⟨op, response⟩, hmem, htoken⟩
    cases op with
    | issueMcpOauthStateToken userId connectionName codeVerifier redirectTo popup =>
        cases response with
        | error error => cases htoken
        | ok issued =>
            cases List.mem_singleton.mp htoken
            exact ⟨_, _, _, _, _, hmem⟩
    | _ => cases htoken
  · intro ⟨userId, connectionName, codeVerifier, redirectTo, popup, hmem⟩
    exact ⟨_, hmem, List.mem_singleton_self _⟩

/-- A challenge that was drawn was drawn by an event. -/
theorem mem_challenges_of_drawn {pair : String × String}
    (h : (⟨.newPkcePair, pair⟩ : ConnectEvent Token) ∈ events) :
    pair.2 ∈ (stateAfter events).challenges :=
  List.mem_flatMap.mpr ⟨_, h, List.mem_singleton_self _⟩

/-- A code that was given out was given out on a page. -/
theorem mem_granted_iff {code challenge : String} :
    (code, challenge) ∈ (stateAfter events).granted ↔
      ∃ page : AuthorizationUrl Token,
        (⟨.consent page, code⟩ : ConnectEvent Token) ∈ events ∧ page.codeChallenge = challenge := by
  rw [stateAfter, List.mem_flatMap]
  constructor
  · intro ⟨⟨op, response⟩, hmem, hgranted⟩
    cases op with
    | consent page =>
        cases List.mem_singleton.mp hgranted
        exact ⟨page, hmem, rfl⟩
    | _ => cases hgranted
  · intro ⟨page, hmem, hchallenge⟩
    exact ⟨_, hmem, by rw [← hchallenge]; exact List.mem_singleton_self _⟩

end

/-! ## Pools -/

section

variable {Token : Type} [DecidableEq Token] {ι : Type} [DecidableEq ι]

/-- Threads at work on the flow. -/
abbrev ConnectPool (ι Token : Type) :=
  Pool ι (ConnectOp Token) (ConnectRes Token) (ConnectReply Token) (ConnectState Token)

/-- The threads before anything has happened. -/
def startConnecting (threads : ι → ConnectThread Token) : ConnectPool ι Token where
  threads thread := (threads thread).program
  state := stateAfter []

variable {settings : ConnectSettings Token} {threads : ι → ConnectThread Token}
  {pool : ConnectPool ι Token}

/-- The state is the one after the history. -/
def FollowsHistory (state : ConnectState Token) (history : List (ι × ConnectEvent Token)) : Prop :=
  state = stateAfter (history.map Prod.snd)

/-- The state is what the history says. -/
theorem state_of_history
    (hreach : Pool.Reachable (connectEffect settings) (startConnecting threads) pool) :
    pool.state = stateAfter pool.events := by
  have hfollows : FollowsHistory pool.state pool.history := by
    refine hreach.keeps ?_ ?_
    · intro thread state history event next hstate heffect
      rw [FollowsHistory, List.map_append, List.map_singleton]
      rw [FollowsHistory] at hstate
      rw [hstate] at heffect
      exact connect_effect_state heffect
    · exact rfl
  exact hfollows

/-- A step was taken on the state after the events before it. -/
theorem effect_at
    (hreach : Pool.Reachable (connectEffect settings) (startConnecting threads) pool)
    {before after : List (ι × ConnectEvent Token)} {thread : ι} {event : ConnectEvent Token}
    (h : pool.history = before ++ (thread, event) :: after) :
    ∃ next, connectEffect settings (stateAfter (before.map Prod.snd)) event next := by
  obtain ⟨here, next, rest, hhere, hbefore, heffect, -⟩ := hreach.at_entry rfl h
  rw [state_of_history hhere, Pool.events, hbefore] at heffect
  exact ⟨next, heffect⟩

/-- A challenge is drawn by one thread. -/
theorem drawn_once
    (hreach : Pool.Reachable (connectEffect settings) (startConnecting threads) pool)
    {thread other : ι} {pair drawn : String × String}
    (h : (thread, (⟨.newPkcePair, pair⟩ : ConnectEvent Token)) ∈ pool.history)
    (hother : (other, (⟨.newPkcePair, drawn⟩ : ConnectEvent Token)) ∈ pool.history)
    (hsame : pair.2 = drawn.2) : thread = other := by
  by_contra hne
  have hentries : (thread, (⟨.newPkcePair, pair⟩ : ConnectEvent Token)) ≠
      (other, ⟨.newPkcePair, drawn⟩) := fun heq => hne (congrArg Prod.fst heq)
  rcases hreach.one_after_other rfl h hother hentries with
    ⟨here, next, hhere, hbefore, -, hfresh, -⟩ | ⟨here, next, hhere, hbefore, -, hfresh, -⟩
  · rw [state_of_history hhere] at hfresh
    exact hfresh (hsame ▸ mem_challenges_of_drawn (List.mem_map_of_mem hbefore))
  · rw [state_of_history hhere] at hfresh
    exact hfresh (hsame ▸ mem_challenges_of_drawn (List.mem_map_of_mem hbefore))

/-- A code is given out on one page. -/
theorem given_once
    (hreach : Pool.Reachable (connectEffect settings) (startConnecting threads) pool)
    {thread other : ι} {page opened : AuthorizationUrl Token} {code : String}
    (h : (thread, (⟨.consent page, code⟩ : ConnectEvent Token)) ∈ pool.history)
    (hother : (other, (⟨.consent opened, code⟩ : ConnectEvent Token)) ∈ pool.history) :
    page = opened := by
  by_contra hne
  have hentries : (thread, (⟨.consent page, code⟩ : ConnectEvent Token)) ≠
      (other, ⟨.consent opened, code⟩) := by
    intro heq
    cases heq
    exact hne rfl
  rcases hreach.one_after_other rfl h hother hentries with
    ⟨here, next, hhere, hbefore, hfresh, -⟩ | ⟨here, next, hhere, hbefore, hfresh, -⟩
  · rw [state_of_history hhere] at hfresh
    exact hfresh _ (mem_granted_iff.mpr ⟨opened, List.mem_map_of_mem hbefore, rfl⟩) rfl
  · rw [state_of_history hhere] at hfresh
    exact hfresh _ (mem_granted_iff.mpr ⟨page, List.mem_map_of_mem hbefore, rfl⟩) rfl

/-- A state that verifies is one that a start has signed, and says what it was signed with. -/
theorem verified_state (hfaithful : settings.pyjwt.Faithful settings.secret)
    (hreach : Pool.Reachable (connectEffect settings) (startConnecting threads) pool)
    {thread : ι} {state : Token} {claims : McpOauthStateClaims}
    (h : (thread, (⟨.verifyMcpOauthStateToken state, .ok (some claims)⟩ : ConnectEvent Token)) ∈
      pool.history) :
    ∃ start userId connectionName codeVerifier redirectTo popup,
      (start, (⟨.issueMcpOauthStateToken userId connectionName codeVerifier redirectTo popup,
        .ok state⟩ : ConnectEvent Token)) ∈ pool.history ∧
      claims = ⟨.str userId, .str connectionName, .str codeVerifier, .str redirectTo,
        .bool popup⟩ := by
  obtain ⟨before, after, hhistory⟩ := List.append_of_mem h
  obtain ⟨next, ⟨now, hunforged, hverify⟩, -⟩ := effect_at hreach hhistory
  have haccepted : settings.pyjwt.verifyMcpOauthStateToken (some settings.secret) now state =
      .ok (some claims) := hverify.symm
  obtain ⟨payload, hpayload, hread⟩ := PyJwt.read_payload_eq_ok_some_iff.mp haccepted
  have htyp := typ_of_mcp_oauth_state_claims hread
  obtain ⟨secret, ⟨hsecret, -⟩, hdecode⟩ := PyJwt.payload?_eq_ok_some_iff.mp hpayload
  cases hsecret
  rcases hunforged payload hdecode with hissued | hsession | hsignIn
  · obtain ⟨userId, connectionName, codeVerifier, redirectTo, popup, hmem⟩ :=
      mem_issued_iff.mp hissued
    obtain ⟨⟨start, _⟩, hstart, rfl⟩ := List.mem_map.mp hmem
    have hentry : (start, (⟨.issueMcpOauthStateToken userId connectionName codeVerifier redirectTo
        popup, .ok state⟩ : ConnectEvent Token)) ∈ pool.history := by
      rw [hhistory]
      exact List.mem_append_left _ hstart
    obtain ⟨earlier, later, hsplit⟩ := List.append_of_mem hentry
    obtain ⟨_, ⟨signed, hissue⟩, -⟩ := effect_at hreach hsplit
    have hsigned : settings.pyjwt.issueMcpOauthStateToken (some settings.secret) signed userId
        connectionName codeVerifier redirectTo popup = .ok state := hissue.symm
    obtain ⟨expires, hsame⟩ := PyJwt.payload_of_issued hfaithful
      (plain_consent_fields userId connectionName codeVerifier redirectTo popup) hsigned hpayload
    rw [hsame, mcp_oauth_state_claims_token_payload] at hread
    exact ⟨start, userId, connectionName, codeVerifier, redirectTo, popup, hentry,
      (Option.some.inj hread).symm⟩
  · cases (PyJwt.typ_of_issues hfaithful hsession hpayload).symm.trans htyp
  · have htyps := (PyJwt.typ_of_issues hfaithful hsignIn hpayload).symm.trans htyp
    simp [TokenKind.typ] at htyps

/-- A code that was exchanged was given out on a page with the challenge of the verifier. -/
theorem exchanged_code
    (hreach : Pool.Reachable (connectEffect settings) (startConnecting threads) pool)
    {thread : ι} {tokenEndpoint code redirectUri : String} {clientId clientSecret : Option String}
    {codeVerifier : Json} {response : TokenResponse}
    (h : (thread, (⟨.exchangeCodeForToken tokenEndpoint code redirectUri clientId clientSecret
      codeVerifier, .ok response⟩ : ConnectEvent Token)) ∈ pool.history) :
    ∃ verifier someone page, codeVerifier = .str verifier ∧
      (someone, (⟨.consent page, code⟩ : ConnectEvent Token)) ∈ pool.history ∧
      page.codeChallenge = settings.challengeOf verifier := by
  obtain ⟨before, after, hhistory⟩ := List.append_of_mem h
  obtain ⟨next, hgranted, -⟩ := effect_at hreach hhistory
  obtain ⟨verifier, hverifier, hmem⟩ := hgranted response rfl
  obtain ⟨page, hconsent, hchallenge⟩ := mem_granted_iff.mp hmem
  obtain ⟨⟨someone, _⟩, hentry, rfl⟩ := List.mem_map.mp hconsent
  refine ⟨verifier, someone, page, hverifier, ?_, hchallenge⟩
  rw [hhistory]
  exact List.mem_append_left _ hentry

/-- What a thread has done it was permitted to do, and it ends as it may. -/
theorem thread_certified
    (hreach : Pool.Reachable (connectEffect settings) (startConnecting threads) pool)
    (thread : ι) :
    (∀ event, (thread, event) ∈ pool.history →
      (threads thread).Permitted (pool.eventsOf thread) event.op) ∧
    ∀ reply, pool.threads thread = .done reply → Redirects (pool.eventsOf thread) reply := by
  have hrun := hreach.thread_run rfl thread
  obtain ⟨hpermitted, hrest⟩ :=
    (threads thread).certified.run hrun fun _ _ _ _ => trivial
  refine ⟨fun event hmem => ?_, fun reply hdone => ?_⟩
  · obtain ⟨before, after, hsplit⟩ := List.append_of_mem (Pool.mem_eventsOf.mpr hmem)
    refine (hpermitted before event after hsplit).mono ?_
    rw [hsplit, List.nil_append]
    exact List.subset_append_left _ _
  · rw [hdone] at hrest
    have hpost := hrest []
    rw [List.nil_append, List.append_nil] at hpost
    exact hpost

/-- What holds of the tokens that are stored and of the pages that users are led to. -/
structure ConnectedByOwners (threads : ι → ConnectThread Token) (pool : ConnectPool ι Token) :
    Prop where
  /-- A token is stored by a callback whose browser has the state in its cookie, for the user and
  the connection of the start that has signed this state, and it was got with a code that was given
  out on a page with the challenge of this start, which no other start has led to. -/
  stored : ∀ thread userId connectionName token,
    (thread, (⟨.saveToken userId connectionName token, ()⟩ : ConnectEvent Token)) ∈ pool.history →
    ∃ code state start name redirectTo caller popup user verifier challenge,
      threads thread = .callback code state (some state) ∧
      threads start = .start name redirectTo caller popup ∧
      callerUserId caller = some user ∧ userId = .str user ∧ connectionName = .str name ∧
      (start, (⟨.newPkcePair, (verifier, challenge)⟩ : ConnectEvent Token)) ∈ pool.history ∧
      (start, (⟨.issueMcpOauthStateToken user name verifier redirectTo popup, .ok state⟩ :
        ConnectEvent Token)) ∈ pool.history ∧
      (∃ tokenEndpoint redirectUri clientId clientSecret response,
        (thread, (⟨.exchangeCodeForToken tokenEndpoint code redirectUri clientId clientSecret
          (.str verifier), .ok response⟩ : ConnectEvent Token)) ∈ pool.history ∧
        response.accessToken = some token.accessToken) ∧
      ∃ page, (∃ someone, (someone, (⟨.consent page, code⟩ : ConnectEvent Token)) ∈
          pool.history) ∧
        page.codeChallenge = challenge ∧
        (∀ someone opened, (someone, (⟨.consent opened, code⟩ : ConnectEvent Token)) ∈
          pool.history → opened = page) ∧
        ∀ other cookie led, pool.threads other = .done (.redirect led cookie) →
          led.codeChallenge = page.codeChallenge → other = start
  /-- Whoever is led to a page is led there with its own state, in the page and in the cookie, and
  with its own challenge. -/
  led : ∀ thread page cookie, pool.threads thread = .done (.redirect page cookie) →
    page.state = cookie ∧ ∃ name redirectTo caller popup user verifier,
      threads thread = .start name redirectTo caller popup ∧ callerUserId caller = some user ∧
      (thread, (⟨.newPkcePair, (verifier, page.codeChallenge)⟩ : ConnectEvent Token)) ∈
        pool.history ∧
      (thread, (⟨.issueMcpOauthStateToken user name verifier redirectTo popup, .ok page.state⟩ :
        ConnectEvent Token)) ∈ pool.history

/-- **No account is connected for someone else**, in every interleaving of starts, consents and
callbacks, with whatever codes, states and cookies. -/
theorem accounts_connected_by_their_owners (settings : ConnectSettings Token)
    (threads : ι → ConnectThread Token) (pool : ConnectPool ι Token)
    (hfaithful : settings.pyjwt.Faithful settings.secret)
    (hreach : Pool.Reachable (connectEffect settings) (startConnecting threads) pool) :
    ConnectedByOwners threads pool := by
  have hled : ∀ thread page cookie, pool.threads thread = .done (.redirect page cookie) →
      page.state = cookie ∧ ∃ name redirectTo caller popup user verifier,
        threads thread = .start name redirectTo caller popup ∧ callerUserId caller = some user ∧
        (thread, (⟨.newPkcePair, (verifier, page.codeChallenge)⟩ : ConnectEvent Token)) ∈
          pool.history ∧
        (thread, (⟨.issueMcpOauthStateToken user name verifier redirectTo popup, .ok page.state⟩ :
          ConnectEvent Token)) ∈ pool.history := by
    intro thread page cookie hdone
    obtain ⟨hpermitted, hends⟩ := thread_certified hreach thread
    obtain ⟨hcookie, verifier, user, name, redirectTo, popup, hdrawn, hissued⟩ := hends _ hdone
    obtain ⟨caller, _, hthread, hcaller, -⟩ :=
      hpermitted _ (Pool.mem_eventsOf.mp hissued)
    exact ⟨hcookie, name, redirectTo, caller, popup, user, verifier, hthread, hcaller,
      Pool.mem_eventsOf.mp hdrawn, Pool.mem_eventsOf.mp hissued⟩
  refine ⟨fun thread userId connectionName token hsaved => ?_, hled⟩
  -- the callback that stores the token
  obtain ⟨code, state, claims, tokenEndpoint, redirectUri, clientId, clientSecret, response,
    hcallback, hverified, huser, hname, hexchanged, htoken⟩ :=
    (thread_certified hreach thread).1 _ hsaved
  replace hexchanged := Pool.mem_eventsOf.mp hexchanged
  -- the start that has signed its state
  obtain ⟨start, user, name, verifier, redirectTo, popup, hissued, rfl⟩ :=
    verified_state hfaithful hreach (Pool.mem_eventsOf.mp hverified)
  obtain ⟨caller, challenge, hstart, hcaller, hdrawn⟩ :=
    (thread_certified hreach start).1 _ hissued
  replace hdrawn := Pool.mem_eventsOf.mp hdrawn
  -- the page on which its code was given out
  obtain ⟨_, someone, page, hverifier, hconsent, hchallenge⟩ := exchanged_code hreach hexchanged
  cases hverifier
  have hpage : page.codeChallenge = challenge := by
    obtain ⟨before, after, hhistory⟩ := List.append_of_mem hdrawn
    obtain ⟨next, hpair, -⟩ := effect_at hreach hhistory
    exact hchallenge.trans hpair.symm
  refine ⟨code, state, start, name, redirectTo, caller, popup, user, verifier, challenge, hcallback,
    hstart, hcaller, huser.symm, hname.symm, hdrawn, hissued,
    ⟨tokenEndpoint, redirectUri, clientId, clientSecret, response, hexchanged, htoken⟩, page,
    ⟨someone, hconsent⟩, hpage, fun other opened hopened => given_once hreach hopened hconsent, ?_⟩
  intro other cookie led hdone hsame
  obtain ⟨-, _, _, _, _, _, _, -, -, hother, -⟩ := hled other led cookie hdone
  exact drawn_once hreach hother hdrawn (hsame.trans hpage)

end

/-! ### A mail account is connected -/

/-- The library that keeps its tokens, with a secret, and challenges that can be told apart. -/
def plainSettings : ConnectSettings (Dict String Json × String) where
  pyjwt := plainJwt
  secret := "secret"
  challengeOf verifier := "S256 of " ++ verifier

/-- A connection that every user connects an account of their own to. -/
def mailConnection : ConnectionProfile where
  name := "mail"
  type := "mcp_server"
  config := .ofList [("transport", .str "remote"), ("url", .str "https://mail"),
    ("requires_oauth", .bool true), ("oauth_client_id", .str "studio")]
  userId := none

/-- Answers of a provider that takes each code with the verifier of its page, at the beginning of
the epoch. -/
def mailRespond (state : ConnectState (Dict String Json × String)) :
    (op : ConnectOp (Dict String Json × String)) →
      Option (ConnectRes (Dict String Json × String) op × ConnectState (Dict String Json × String))
  | .resolveConnectionForUser .. => some (some mailConnection, state)
  | .getPublicBaseUrl => some (some "https://lab", state)
  | .discoverOauthServer _ => some (.ok ⟨"https://id/auth", "https://id/token", none⟩, state)
  | .newPkcePair =>
    if "S256 of v1" ∉ state.challenges then
      some (("v1", "S256 of v1"),
        { state with challenges := state.challenges ++ ["S256 of v1"] })
    else none
  | .issueMcpOauthStateToken userId connectionName codeVerifier redirectTo popup =>
    let response := plainJwt.issueMcpOauthStateToken (some "secret") epoch userId connectionName
      codeVerifier redirectTo popup
    some (response, state.issue response)
  | .verifyMcpOauthStateToken token =>
    if state.issued.contains token then
      some (plainJwt.verifyMcpOauthStateToken (some "secret") epoch token, state)
    else none
  | .popupTargetOrigin _ => some (.ok "https://app", state)
  | .consent page =>
    if ∀ entry ∈ state.granted, entry.1 ≠ "c1" then
      some ("c1", { state with granted := state.granted ++ [("c1", page.codeChallenge)] })
    else none
  | .exchangeCodeForToken _ code _ _ _ (.str verifier) =>
    if state.granted.contains (code, "S256 of " ++ verifier) then
      some (.ok ⟨some "t1", none, none⟩, state)
    else some (.error (.oauthError "invalid_grant"), state)
  | .exchangeCodeForToken .. => none
  | .saveToken .. => some ((), state)
  | .generateNodeTypes .. => some (.ok (), state)

/-- Those answers are among the ones that may be given. -/
theorem mail_respond_effect {state next : ConnectState (Dict String Json × String)}
    {op : ConnectOp (Dict String Json × String)}
    {response : ConnectRes (Dict String Json × String) op}
    (h : mailRespond state op = some (response, next)) :
    connectEffect plainSettings state ⟨op, response⟩ next := by
  cases op with
  | newPkcePair =>
      simp only [mailRespond] at h
      split at h
      · rename_i hfresh
        cases h
        exact ⟨rfl, hfresh, rfl⟩
      · cases h
  | issueMcpOauthStateToken userId connectionName codeVerifier redirectTo popup =>
      cases h
      exact ⟨⟨epoch, rfl⟩, rfl⟩
  | verifyMcpOauthStateToken token =>
      simp only [mailRespond] at h
      split at h
      · rename_i hissued
        cases h
        exact ⟨⟨epoch, fun _ _ => .inl (List.contains_iff_mem.mp hissued), rfl⟩, rfl⟩
      · cases h
  | consent page =>
      simp only [mailRespond] at h
      split at h
      · rename_i hfresh
        cases h
        exact ⟨hfresh, rfl⟩
      · cases h
  | exchangeCodeForToken tokenEndpoint code redirectUri clientId clientSecret codeVerifier =>
      cases codeVerifier with
      | str verifier =>
          simp only [mailRespond] at h
          split at h
          · rename_i hgranted
            cases h
            exact ⟨fun answer _ => ⟨verifier, rfl, List.contains_iff_mem.mp hgranted⟩, rfl⟩
          · cases h
            refine ⟨fun answer hanswer => ?_, rfl⟩
            cases hanswer
      | _ => cases h
  | _ =>
      cases h
      rfl

/-- The state that Ada is led to the provider with. -/
def mailState : Dict String Json × String :=
  (.ofList [("typ", .str "mcp_oauth_state"), ("user_id", .str "ada"),
    ("connection_name", .str "mail"), ("code_verifier", .str "v1"),
    ("redirect_to", .str "https://app"), ("popup", .bool false), ("iat", .int 0),
    ("exp", .int 300)], "secret")

/-- The page that Ada is led to. -/
def mailPage : AuthorizationUrl (Dict String Json × String) where
  authorizationEndpoint := "https://id/auth"
  clientId := "studio"
  redirectUri := mcpOauthRedirectUri "https://lab"
  state := mailState
  codeChallenge := "S256 of v1"
  resource := "https://mail"
  scope := none

/-- What happens when Ada connects her account. -/
inductive MailThread where
  | leaves | consents | returns
  deriving DecidableEq

/-- She starts, consents and comes back. -/
def mailThreads : MailThread → ConnectThread (Dict String Json × String)
  | .leaves => .start "mail" "https://app" (some ⟨"ada", "user"⟩) false
  | .consents => .consent mailPage
  | .returns => .callback "c1" mailState (some mailState)

/-- One after the other. -/
def mailSchedule : List MailThread :=
  List.replicate 5 .leaves ++ [.consents] ++ List.replicate 8 .returns

set_option maxRecDepth 20000 in
/-- Her account is connected, and it is hers. -/
theorem ada_connects_mail : ∃ pool,
    (startConnecting mailThreads).follow mailRespond mailSchedule = some pool ∧
    pool.threads .leaves = .done (.redirect mailPage mailState) ∧
    pool.threads .returns = .done (.result
      ⟨.str "ada", .str "mail", .str "v1", .str "https://app", .bool false⟩ "https://app"
      (.connected (.str "mail"))) ∧
    ConnectedByOwners mailThreads pool :=
  ⟨_, rfl, rfl, rfl, accounts_connected_by_their_owners plainSettings mailThreads _
    (plain_jwt_faithful "secret")
    (Pool.reachable_of_follow (fun _ _ _ _ => mail_respond_effect)
      (show (startConnecting mailThreads).follow mailRespond mailSchedule = some _ from rfl))⟩

end AgentGraphStudio.ConnectFlow
