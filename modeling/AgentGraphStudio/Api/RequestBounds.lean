import AgentGraphStudio.Api.CreationAtomicity

/-!
# What a request can leave behind

The connections and credentials that are stored after a request, at most: those that were stored
before and those that the request is about. `after_request_within` says so for every request,
whatever the servers answer, and `endpoint_within` for the state in which a request generates node
types.
-/

namespace AgentGraphStudio

open Stateful (Ends Keeps stateOf)

/-! ## Credentials -/

/-- The two stores of credentials. -/
inductive CredentialKind where
  | apiKey
  | token
  deriving DecidableEq

/-- A credential of this user is stored under this name. -/
def Backend.Holds (backend : Backend) : CredentialKind → String × String → Prop
  | .apiKey, key => (backend.apiKeys.get? key).isSome
  | .token, key => (backend.tokens.get? key).isSome

/-! ## Which requests save a credential -/

/-- The user whose API key a request saves, and the connection that is being connected. -/
def apiKeySaved (name : String) (caller : Caller) (backend : Backend) :
    Option (String × ConnectionProfile) :=
  match callerUserId caller with
  | none => none
  | some user =>
    match resolveConnectionForUser backend.store name (some user) with
    | none => none
    | some profile =>
      if profile.type ≠ "mcp_server" then none
      else
        match McpServerConnectionConfig.parse profile.config with
        | .error _ => none
        | .ok config => if config.authType = "oauth2" then none else some (user, profile)

/-- The user whose token an OAuth callback stores, and the connection that is being connected. -/
def tokenSaved (outside : Outside) (code state : String) (cookie : Option String)
    (backend : Backend) : Option (String × ConnectionProfile) :=
  if cookie = none ∨ cookie = some "" ∨ cookie ≠ some state then none
  else
    match outside.verifyStateToken state with
    | none => none
    | some claims =>
      match resolveConnectionForUser backend.store claims.connectionName (some claims.userId) with
      | none => none
      | some profile =>
        match McpServerConnectionConfig.parse profile.config with
        | .error _ => none
        | .ok config =>
          match (storeOauthToken outside code claims config).run backend with
          | .ok (.ok ()) _ => some (claims.userId, profile)
          | _ => none

/-! ## Bounds -/

/-- The backend has at most these connections and credentials. -/
structure Within (members : ConnectionProfile → Prop)
    (holds : CredentialKind → String × String → Prop) (backend : Backend) : Prop where
  store : ∀ profile ∈ backend.store, members profile
  credentials : ∀ kind key, backend.Holds kind key → holds kind key

/-! ## What keeps within bounds -/

/-- The part of the backend that the property speaks about. -/
def credentialView (backend : Backend) :
    ConnectionStore × Dict (String × String) String × Dict (String × String) OAuthToken :=
  (backend.store, backend.apiKeys, backend.tokens)

section

variable {members : ConnectionProfile → Prop} {holds : CredentialKind → String × String → Prop}
  {outside : Outside} {backend : Backend}

theorem Within.of_view {after : Backend} (h : Within members holds backend)
    (hview : credentialView after = credentialView backend) : Within members holds after := by
  simp only [credentialView, Prod.mk.injEq] at hview
  obtain ⟨hstore, hapiKeys, htokens⟩ := hview
  refine ⟨fun profile hprofile => h.store profile (hstore ▸ hprofile), fun kind key hkey => ?_⟩
  refine h.credentials kind key ?_
  cases kind with
  | apiKey =>
      show (backend.apiKeys.get? key).isSome
      rw [← hapiKeys]
      exact hkey
  | token =>
      show (backend.tokens.get? key).isSome
      rw [← htokens]
      exact hkey

/-- What leaves the connections and credentials alone keeps within bounds. -/
theorem keeps_within_of_frame {ε α : Type} {act : EStateM ε Backend α}
    (h : Stateful.Frame credentialView act) : Keeps (Within members holds) act fun _ => True :=
  h.keeps fun _ _ hview hwithin => hwithin.of_view hview

/-- Fewer connections are within bounds. -/
theorem Within.drop {name : String} {owner : Option String} (h : Within members holds backend) :
    Within members holds { backend with store := deleteConnection backend.store name owner } :=
  ⟨fun profile hprofile => h.store profile (List.mem_of_mem_filter hprofile), h.credentials⟩

theorem drop_connection_keeps_within (name : String) (owner : Option String) :
    Keeps (Within members holds) (dropConnection name owner) fun _ => True :=
  Stateful.keeps_modify trivial fun _ h => h.drop

/-- Fewer API keys are within bounds. -/
theorem Within.eraseApiKey {key : String × String} (h : Within members holds backend) :
    Within members holds { backend with apiKeys := backend.apiKeys.erase key } := by
  refine ⟨h.store, fun kind other hother => h.credentials kind other ?_⟩
  cases kind with
  | apiKey =>
      show (backend.apiKeys.get? other).isSome
      have hget : ((backend.apiKeys.erase key).get? other).isSome := hother
      rw [Dict.get?_erase] at hget
      split at hget
      · cases hget
      · exact hget
  | token => exact hother

/-- Fewer tokens are within bounds. -/
theorem Within.eraseToken {key : String × String} (h : Within members holds backend) :
    Within members holds { backend with tokens := backend.tokens.erase key } := by
  refine ⟨h.store, fun kind other hother => h.credentials kind other ?_⟩
  cases kind with
  | apiKey => exact hother
  | token =>
      show (backend.tokens.get? other).isSome
      have hget : ((backend.tokens.erase key).get? other).isSome := hother
      rw [Dict.get?_erase] at hget
      split at hget
      · cases hget
      · exact hget

theorem drop_token_keeps_within (name : String) (profile : ConnectionProfile) :
    Keeps (Within members holds) (dropToken name profile) fun _ => True := by
  unfold dropToken
  split
  · split
    · exact Stateful.keeps_modify trivial fun _ h => h.eraseToken
    · exact Stateful.keeps_pure trivial
  · exact Stateful.keeps_pure trivial

/-- A new token is within bounds where a token may be. -/
theorem Within.setToken {key : String × String} {token : OAuthToken}
    (h : Within members holds backend) (hkey : holds .token key) :
    Within members holds { backend with tokens := backend.tokens.set key token } := by
  refine ⟨h.store, fun kind other hother => ?_⟩
  cases kind with
  | apiKey => exact h.credentials .apiKey other hother
  | token =>
      by_cases hsame : other = key
      · exact hsame ▸ hkey
      · have hget : ((backend.tokens.set key token).get? other).isSome := hother
        rw [Dict.get?_set_of_ne _ _ hsame] at hget
        exact h.credentials .token other hget

/-- A new API key is within bounds where an API key may be. -/
theorem Within.setApiKey {key : String × String} {apiKey : String}
    (h : Within members holds backend) (hkey : holds .apiKey key) :
    Within members holds { backend with apiKeys := backend.apiKeys.set key apiKey } := by
  refine ⟨h.store, fun kind other hother => ?_⟩
  cases kind with
  | token => exact h.credentials .token other hother
  | apiKey =>
      by_cases hsame : other = key
      · exact hsame ▸ hkey
      · have hget : ((backend.apiKeys.set key apiKey).get? other).isSome := hother
        rw [Dict.get?_set_of_ne _ _ hsame] at hget
        exact h.credentials .apiKey other hget

/-- A token is refreshed only where there is one. -/
theorem get_valid_access_token_keeps_within (userId connectionName : String) :
    Keeps (Within members holds) (getValidAccessToken outside userId connectionName)
      fun _ => True := by
  intro backend hwithin
  unfold getValidAccessToken
  refine Stateful.ends_bind (Stateful.ends_get ?_)
  split
  · exact Stateful.ends_throw hwithin
  · rename_i row hrow
    have hheld : holds .token (userId, connectionName) :=
      hwithin.credentials .token _ (by rw [Backend.Holds, hrow]; rfl)
    split
    · split
      · exact Stateful.ends_throw hwithin
      · split
        · split <;> exact Stateful.ends_throw hwithin
        · refine Stateful.ends_bind ?_
          unfold storeTokenResponse
          split
          · exact Stateful.ends_throw hwithin
          · exact Stateful.ends_throw hwithin
          · exact Stateful.ends_modify
              (Stateful.ends_pure ⟨hwithin.setToken hheld, trivial⟩)
    · exact Stateful.ends_pure ⟨hwithin, trivial⟩

theorem server_config_of_keeps_within (config : McpServerConnectionConfig)
    (connectionName : String) (userId : Option String) :
    Keeps (Within members holds) (serverConfigOf outside config connectionName userId)
      fun _ => True := by
  unfold serverConfigOf
  split
  · split
    · exact Stateful.keeps_throw
    · refine Stateful.keeps_bind (keeps_within_of_frame Stateful.frame_get) fun _ _ => ?_
      split
      · exact Stateful.keeps_throw
      · exact Stateful.keeps_pure trivial
  · split
    · split
      · exact Stateful.keeps_throw
      · exact Stateful.keeps_bind (get_valid_access_token_keeps_within _ _) fun _ _ =>
          Stateful.keeps_pure trivial
    · exact Stateful.keeps_pure trivial

theorem discover_tools_keeps_within (connectionName : String)
    (ownerUserId discoveryUserId : Option String) :
    Keeps (Within members holds)
      (discoverTools outside connectionName ownerUserId discoveryUserId) fun _ => True := by
  unfold discoverTools
  refine Stateful.keeps_bind (keeps_within_of_frame Stateful.frame_get) fun _ _ => ?_
  split
  · exact Stateful.keeps_throw
  · split
    · exact Stateful.keeps_throw
    · exact Stateful.keeps_bind (keeps_within_of_frame (Stateful.frame_ofExcept _)) fun _ _ =>
        Stateful.keeps_bind (server_config_of_keeps_within _ _ _) fun _ _ =>
          keeps_within_of_frame (list_tools_frame (fun _ _ => rfl) _)

/-- A generation keeps within bounds. -/
theorem generate_keeps_within (connectionName : String)
    (ownerUserId discoveryUserId : Option String) :
    Keeps (Within members holds)
      (generateNodeTypesForConnection outside connectionName ownerUserId discoveryUserId)
      fun _ => True :=
  Stateful.keeps_bind (discover_tools_keeps_within _ _ _) fun _ _ =>
    keeps_within_of_frame (replace_types_frame fun _ _ _ _ => rfl)

end

/-! ## What a request can do -/

/-- A new server turns out to need OAuth. -/
def OauthFound (outside : Outside) (config : McpServerConnectionConfig) (saved : Backend) : Prop :=
  ProbedInVain outside config saved ∧
    ∃ discovered, outside.discoverOAuthServer config.url = .ok discovered

section

variable (connectionTypes : ConnectionRegistry) (outside : Outside) (backend : Backend)

/-- The connection that a request creates, with the configuration of the request or that of a
server that turned out to need OAuth. -/
structure IsCreated (request : CreateConnectionRequest) (caller : Caller)
    (profile : ConnectionProfile) : Prop where
  accepted : Accepts connectionTypes request caller backend
  name : profile.name = request.name
  owner : profile.userId = request.owner caller
  config : profile.config = request.config ∨ ∃ read clientId clientSecret,
    McpServerConnectionConfig.parse request.config = .ok read ∧ read.authType = "oauth2" ∧
    OauthFound outside read (request.saved caller backend) ∧
    profile.config = oauthConfig request.config clientId clientSecret

/-- The connections after a request, at most. -/
def profilesAfter (request : ConnectionRequest) (profile : ConnectionProfile) : Prop :=
  profile ∈ backend.store ∨ match request with
    | .create request caller => IsCreated connectionTypes outside backend request caller profile
    | .update name config caller => ∃ before ∈ backend.store, before.name = name ∧
      (before.userId = callerUserId caller ∨ before.userId = none) ∧
      profile = { before with config }
    | .promote name caller => getConnection backend.store name none = none ∧
      (∀ user, caller = some user → user.role = "admin") ∧
      ∃ before ∈ backend.store, before.name = name ∧ before.userId = callerUserId caller ∧
        profile = { before with userId := none }
    | _ => False

/-- The credentials after a request, at most. -/
def credentialsAfter (request : ConnectionRequest) (kind : CredentialKind)
    (key : String × String) : Prop :=
  backend.Holds kind key ∨ match request with
    | .setApiKey name _ caller => kind = .apiKey ∧ ∃ user profile,
      apiKeySaved name caller backend = some (user, profile) ∧ key = (user, name)
    | .oauthCallback code state cookie => kind = .token ∧ ∃ user profile,
      tokenSaved outside code state cookie backend = some (user, profile) ∧
      key = (user, profile.name)
    | _ => False

/-- The bounds of a request. -/
abbrev WithinRequest (request : ConnectionRequest) : Backend → Prop :=
  Within (profilesAfter connectionTypes outside backend request)
    (credentialsAfter outside backend request)

end

section

variable {connectionTypes : ConnectionRegistry} {outside : Outside} {backend : Backend}
  {members : ConnectionProfile → Prop} {holds : CredentialKind → String × String → Prop}
  {caller : Caller} {profile : ConnectionProfile}

theorem within_request_self (request : ConnectionRequest) :
    WithinRequest connectionTypes outside backend request backend :=
  ⟨fun _ h => .inl h, fun _ _ h => .inl h⟩

theorem connection_info_keeps_within :
    Keeps (Within members holds) (connectionInfo profile caller) fun _ => True :=
  keeps_within_of_frame (connection_info_frame profile caller)

/-- The answers to a generation keep an invariant, and the tools are discovered for a user who may
use the connection. -/
def Continuation.Proper (invariant : Backend → Prop) : Continuation → Prop
  | .respond _ => True
  | .generate call failed done =>
    ((∀ e, Stateful.Keeps invariant (failed e) fun _ => True) ∧
      ∀ created, Stateful.Keeps invariant (done created) fun _ => True) ∧
    ∀ user, call.discoveryUserId.or call.ownerUserId = some user →
      call.ownerUserId = none ∨ call.ownerUserId = some user

theorem Continuation.Proper.keeps {invariant : Backend → Prop} {next : Continuation}
    (h : next.Proper invariant) : next.Keeps invariant := by
  cases next with
  | respond answer => trivial
  | generate call failed done => exact h.1

theorem respond_keeps_within :
    Keeps (Within members holds)
      (connectionInfo profile caller >>= fun answer => pure (Continuation.respond answer))
      (Continuation.Proper (Within members holds)) :=
  Stateful.keeps_bind connection_info_keeps_within fun _ _ => Stateful.keeps_pure trivial

/-- The tools of a private connection are listed for its owner when the backend starts. -/
theorem startup_user_id_keeps_within :
    Keeps (Within members holds) (startupUserId profile) fun discoveryUserId =>
      ∀ user, discoveryUserId.or profile.userId = some user →
        profile.userId = none ∨ profile.userId = some user := by
  have hkeeps : Keeps (Within members holds) (startupUserId profile) fun _ => True :=
    keeps_within_of_frame (startup_user_id_frame profile)
  intro backend hwithin
  cases howner : profile.userId with
  | none =>
      exact (hkeeps backend hwithin).mono (fun _ _ h => ⟨h.1, fun _ _ => .inl rfl⟩) fun _ h => h
  | some owner =>
      unfold startupUserId
      rw [howner]
      exact Stateful.ends_pure ⟨hwithin, fun _ h => .inr h⟩

theorem startup_keeps_within :
    Keeps (Within members holds) (regenerateOnStartup profile)
      (Continuation.Proper (Within members holds)) := by
  unfold regenerateOnStartup
  split
  · exact Stateful.keeps_pure trivial
  · exact Stateful.keeps_bind startup_user_id_keeps_within fun _ huser =>
      Stateful.keeps_pure ⟨⟨fun _ => Stateful.keeps_pure trivial, fun _ =>
        Stateful.keeps_pure trivial⟩, huser⟩

/-- A user who resolves a connection may use it. -/
theorem discovered_for_user {store : ConnectionStore} {name user : String} {userId : Option String}
    (hprofile : resolveConnectionForUser store name userId = some profile)
    (huser : userId.or profile.userId = some user) :
    profile.userId = none ∨ profile.userId = some user := by
  rcases resolve_connection_owner hprofile with hglobal | hown
  · exact .inl hglobal
  · rw [← hown, Option.or_self] at huser
    exact .inr huser

theorem refresh_keeps_within (name : String) :
    Keeps (Within members holds) (refreshCapabilities name caller)
      (Continuation.Proper (Within members holds)) := by
  unfold refreshCapabilities
  refine Stateful.keeps_bind (keeps_within_of_frame Stateful.frame_get) fun _ _ => ?_
  split
  · exact Stateful.keeps_throw
  · split
    · exact Stateful.keeps_throw
    · rename_i profile hprofile _
      exact Stateful.keeps_pure ⟨⟨fun _ => Stateful.keeps_throw, fun _ =>
        Stateful.keeps_pure trivial⟩, fun _ huser => discovered_for_user hprofile huser⟩

theorem delete_keeps_within (name : String) :
    Keeps (Within members holds) (deleteConnectionEndpoint name caller)
      (Continuation.Proper (Within members holds)) := by
  unfold deleteConnectionEndpoint
  refine Stateful.keeps_bind (keeps_within_of_frame Stateful.frame_get) fun _ _ => ?_
  split
  · exact Stateful.keeps_throw
  · rename_i profile _
    have hunregister : ∀ backend : Backend,
        credentialView (unregisterForConnection name profile.userId backend) =
          credentialView backend :=
      unregister_for_connection_frame (fun _ _ _ _ => rfl) name profile.userId
    exact Stateful.keeps_bind (keeps_within_of_frame (require_admin_for_frame _ _)) fun _ _ =>
      Stateful.keeps_bind (drop_connection_keeps_within _ _) fun _ _ =>
      Stateful.keeps_bind (keeps_within_of_frame (Stateful.frame_modify hunregister)) fun _ _ =>
      Stateful.keeps_bind (drop_token_keeps_within name profile) fun _ _ =>
        Stateful.keeps_pure trivial

/-- Saved connections are within bounds if each of them is. -/
theorem Within.save {store : ConnectionStore} (h : Within members holds backend)
    (hstore : ∀ profile ∈ store, members profile) :
    Within members holds { backend with store } := ⟨hstore, h.credentials⟩

theorem update_within (name : String) (config : Config) :
    Ends (updateConnection connectionTypes name config caller) backend
      (fun next middle =>
        WithinRequest connectionTypes outside backend (.update name config caller) middle ∧
        next.Proper (WithinRequest connectionTypes outside backend (.update name config caller)))
      (WithinRequest connectionTypes outside backend (.update name config caller)) := by
  have hself : WithinRequest connectionTypes outside backend (.update name config caller) backend :=
    within_request_self _
  unfold updateConnection
  refine Stateful.ends_bind (Stateful.ends_get (Stateful.ends_bind (Stateful.ends_get ?_)))
  split
  · exact Stateful.ends_throw hself
  · rename_i found hfound
    have howner : found.userId = callerUserId caller ∨ found.userId = none := by
      rcases Option.or_eq_some_iff.mp hfound with hown | ⟨_, hglobal⟩
      · exact .inl (get_connection_eq_some hown).2.2
      · exact .inr (get_connection_eq_some hglobal).2.2
    have hframe : Stateful.Frame id (requireAdminFor found.userId caller) :=
      require_admin_for_frame _ _
    refine hframe.ends_bind (fun middle hmiddle => ?_) fun _ middle _ hmiddle => ?_
    · rw [show middle = backend from hmiddle]
      exact hself
    · obtain rfl : middle = backend := hmiddle
      split
      · exact Stateful.ends_throw hself
      · split
        · exact Stateful.ends_throw hself
        · refine Stateful.ends_bind (Stateful.ends_get ?_)
          split
          · exact Stateful.ends_throw hself
          · rename_i updated store hupdate
            refine Stateful.ends_bind (Stateful.ends_modify
              (respond_keeps_within _ (hself.save fun other hother => ?_)))
            rcases change_connection_mem_cases hupdate hother with hold | rfl
            · exact .inl hold
            · obtain ⟨_, before, hbefore, hname, hid, rfl⟩ := change_connection_mem hupdate
              exact .inr ⟨before, hbefore, hname, hid ▸ howner, rfl⟩

theorem promote_within (name : String) :
    Ends (promoteConnectionToGlobal name caller) backend
      (fun next middle =>
        WithinRequest connectionTypes outside backend (.promote name caller) middle ∧
        next.Proper (WithinRequest connectionTypes outside backend (.promote name caller)))
      (WithinRequest connectionTypes outside backend (.promote name caller)) := by
  have hself : WithinRequest connectionTypes outside backend (.promote name caller) backend :=
    within_request_self _
  unfold promoteConnectionToGlobal
  have hframe : Stateful.Frame id (requireAdmin caller) := require_admin_frame caller
  -- Nobody but an administrator gets any further.
  refine hframe.ends_bind (fun middle hmiddle => ?_) fun _ middle hadmin hmiddle => ?_
  · rw [show middle = backend from hmiddle]
    exact hself
  · obtain rfl : middle = backend := hmiddle
    refine Stateful.ends_bind (Stateful.ends_get ?_)
    split
    · exact Stateful.ends_throw hself
    · refine Stateful.ends_bind (Stateful.ends_get ?_)
      split
      · exact Stateful.ends_throw hself
      · rename_i updated store hpromote
        have hsaved : WithinRequest connectionTypes outside middle (.promote name caller)
            { middle with store } := by
          unfold setConnectionOwner at hpromote
          split at hpromote
          · cases hpromote
          · rename_i hglobal
            have hnone : getConnection middle.store name none = none := by
              rw [← Option.not_isSome_iff_eq_none, get_connection_isSome_iff]
              intro hexists
              obtain ⟨found, hmem, hends⟩ := hexists
              exact hglobal (List.any_eq_true.mpr ⟨found, hmem, ConnectionProfile.is_iff.mpr hends⟩)
            refine hself.save fun other hother => ?_
            rcases change_connection_mem_cases hpromote hother with hold | rfl
            · exact .inl hold
            · obtain ⟨_, before, hbefore, hname, hid, rfl⟩ := change_connection_mem hpromote
              exact .inr ⟨hnone, require_admin_ok hadmin, before, hbefore, hname, hid, rfl⟩
        refine Stateful.ends_bind (Stateful.ends_modify ?_)
        split
        · exact Stateful.ends_pure ⟨hsaved, ⟨fun _ => Stateful.keeps_throw,
            fun _ => connection_info_keeps_within⟩, fun _ _ => .inl rfl⟩
        · exact respond_keeps_within _ hsaved

theorem server_config_eq_ok {config : McpServerConnectionConfig} {middle : Backend}
    (h : (serverConfig profile).run backend = .ok config middle) :
    McpServerConnectionConfig.parse profile.config = .ok config := by
  unfold serverConfig at h
  cases hparse : McpServerConnectionConfig.parse profile.config with
  | error e =>
      rw [hparse] at h
      cases h
  | ok read =>
      rw [hparse] at h
      cases h
      rfl

theorem set_api_key_within (name apiKey : String) :
    Ends (setConnectionApiKey name apiKey caller) backend
      (fun next middle =>
        WithinRequest connectionTypes outside backend (.setApiKey name apiKey caller) middle ∧
        next.Proper (WithinRequest connectionTypes outside backend (.setApiKey name apiKey caller)))
      (WithinRequest connectionTypes outside backend (.setApiKey name apiKey caller)) := by
  have hself : WithinRequest connectionTypes outside backend (.setApiKey name apiKey caller)
    backend := within_request_self _
  unfold setConnectionApiKey
  split
  · exact Stateful.ends_throw hself
  · rename_i user huser
    refine Stateful.ends_bind (Stateful.ends_get ?_)
    split
    · exact Stateful.ends_throw hself
    · rename_i profile hprofile
      split
      · exact Stateful.ends_throw hself
      · rename_i htype
        have hframe : Stateful.Frame id (serverConfig profile) := server_config_frame profile
        refine hframe.ends_bind (fun middle hmiddle => ?_) fun config middle hconfig hmiddle => ?_
        · rw [show middle = backend from hmiddle]
          exact hself
        · obtain rfl : middle = backend := hmiddle
          split
          · exact Stateful.ends_throw hself
          · rename_i hauth
            have hparse := server_config_eq_ok hconfig
            have hkey : apiKeySaved name caller middle = some (user, profile) := by
              unfold apiKeySaved
              rw [huser]
              dsimp only
              rw [hprofile]
              dsimp only
              rw [if_neg htype, hparse]
              exact if_neg hauth
            refine Stateful.ends_bind (Stateful.ends_modify (Stateful.ends_pure
              ⟨hself.setApiKey (.inr ⟨rfl, user, profile, hkey, rfl⟩), ⟨fun _ => ?_,
                fun _ => connection_info_keeps_within⟩,
                fun _ => discovered_for_user hprofile⟩))
            have herase : Keeps
                (WithinRequest connectionTypes outside middle (.setApiKey name apiKey caller))
                (modify fun backend =>
                  { backend with apiKeys := backend.apiKeys.erase (user, name) } : Route Unit)
                fun _ => True := Stateful.keeps_modify trivial fun _ h => h.eraseApiKey
            exact Stateful.keeps_bind herase fun _ _ => Stateful.keeps_throw

/-- A callback stores a token, or changes nothing. -/
theorem store_oauth_token_cases (code : String) (claims : OAuthStateClaims)
    (config : McpServerConnectionConfig) :
    (∃ token, (storeOauthToken outside code claims config).run backend = .ok (.ok ())
      { backend with
        tokens := backend.tokens.set (claims.userId, claims.connectionName) token }) ∨
    (∃ e, (storeOauthToken outside code claims config).run backend = .ok (.error e) backend) ∨
    ∃ e, (storeOauthToken outside code claims config).run backend = .error e backend := by
  unfold storeOauthToken
  split
  · exact .inr (.inl ⟨_, rfl⟩)
  · exact .inr (.inr ⟨_, rfl⟩)
  · split
    · exact .inr (.inl ⟨_, rfl⟩)
    · exact .inr (.inr ⟨_, rfl⟩)
    · rename_i discovered _ _ response _
      rw [Stateful.run_attempt]
      have hstore : (∃ token, (storeTokenResponse claims.userId claims.connectionName response
            discovered.tokenEndpoint config.oauthClientId config.oauthClientSecret).run backend =
          .ok () { backend with
            tokens := backend.tokens.set (claims.userId, claims.connectionName) token }) ∨
          ∃ e, (storeTokenResponse claims.userId claims.connectionName response
            discovered.tokenEndpoint config.oauthClientId config.oauthClientSecret).run backend =
          .error e backend := by
        unfold storeTokenResponse
        split
        · exact .inr ⟨_, rfl⟩
        · exact .inr ⟨_, rfl⟩
        · exact .inl ⟨_, rfl⟩
      rcases hstore with ⟨token, hrun⟩ | ⟨e, hrun⟩
      · rw [hrun]
        exact .inl ⟨token, rfl⟩
      · rw [hrun]
        exact .inr (.inl ⟨e, rfl⟩)

/-- A resolved profile has the name that it was resolved by. -/
theorem resolve_connection_name {store : ConnectionStore} {name : String} {userId : Option String}
    (h : resolveConnectionForUser store name userId = some profile) : profile.name = name :=
  (get_connection_eq_some (get_connection_of_resolve h)).2.1

theorem oauth_callback_within (code state : String) (cookie : Option String) :
    Ends (mcpConnectionOauthCallback outside code state cookie) backend
      (fun next middle =>
        WithinRequest connectionTypes outside backend (.oauthCallback code state cookie) middle ∧
        next.Proper
          (WithinRequest connectionTypes outside backend (.oauthCallback code state cookie)))
      (WithinRequest connectionTypes outside backend (.oauthCallback code state cookie)) := by
  have hself : WithinRequest connectionTypes outside backend (.oauthCallback code state cookie)
    backend := within_request_self _
  unfold mcpConnectionOauthCallback
  split
  · exact Stateful.ends_throw hself
  · rename_i hcookie
    split
    · exact Stateful.ends_throw hself
    · rename_i claims hclaims
      refine Stateful.ends_bind (Stateful.ends_get ?_)
      split
      · exact Stateful.ends_pure ⟨hself, trivial⟩
      · rename_i profile hprofile
        have hframe : Stateful.Frame id (serverConfig profile) := server_config_frame profile
        refine hframe.ends_bind (fun middle hmiddle => ?_) fun config middle hconfig hmiddle => ?_
        · rw [show middle = backend from hmiddle]
          exact hself
        · obtain rfl : middle = backend := hmiddle
          have hparse := server_config_eq_ok hconfig
          refine Stateful.ends_bind (Stateful.ends_of_run (fun stored final hrun => ?_)
            fun e final hrun => ?_)
          -- Either the token is stored for the user that the state names, or nothing is.
          · rcases @store_oauth_token_cases outside middle code claims config with
              ⟨token, hstored⟩ | ⟨e, hstored⟩ | ⟨e, hstored⟩
            · have hkey : tokenSaved outside code state cookie middle =
                  some (claims.userId, profile) := by
                unfold tokenSaved
                rw [if_neg hcookie, hclaims]
                dsimp only
                rw [hprofile]
                dsimp only
                rw [hparse]
                dsimp only
                rw [hstored]
              rw [hstored] at hrun
              cases hrun
              exact Stateful.ends_pure ⟨hself.setToken (.inr ⟨rfl, claims.userId, profile, hkey,
                by rw [resolve_connection_name hprofile]⟩),
                ⟨fun _ => Stateful.keeps_pure trivial, fun _ => Stateful.keeps_pure trivial⟩,
                fun _ => discovered_for_user hprofile⟩
            · rw [hstored] at hrun
              cases hrun
              exact Stateful.ends_pure ⟨hself, trivial⟩
            · rw [hstored] at hrun
              cases hrun
          · rcases @store_oauth_token_cases outside middle code claims config with
              ⟨token, hstored⟩ | ⟨e, hstored⟩ | ⟨e, hstored⟩
            · rw [hstored] at hrun
              cases hrun
            · rw [hstored] at hrun
              cases hrun
            · rw [hstored] at hrun
              cases hrun
              exact hself

/-- When an authorization server is found, the server was asked for its tools in vain. -/
theorem oauth_found_of_some {config : McpServerConnectionConfig} {discovered : OAuthServer}
    {middle : Backend}
    (h : (discoverOauth outside config).run backend = .ok (some discovered) middle) :
    OauthFound outside config backend := by
  by_cases hprobed : ProbedInVain outside config backend
  · obtain ⟨_, hrun⟩ := discover_oauth_probed hprobed
    cases hfound : outside.discoverOAuthServer config.url with
    | ok found => exact ⟨hprobed, found, hfound⟩
    | error failure =>
        rw [h, hfound] at hrun
        cases failure <;> cases hrun
  · obtain ⟨_, hrun⟩ := discover_oauth_unprobed hprobed
    rw [h] at hrun
    cases hrun

theorem oauth_client_for_keeps_within (name : String) (owner : Option String)
    (config : McpServerConnectionConfig) (discovered : OAuthServer) :
    Keeps (Within members holds) (oauthClientFor outside name owner config discovered)
      fun _ => True := by
  have hrefuse : ∀ error : HttpError, Keeps (Within members holds)
      (dropConnection name owner >>= fun _ => (throw error : Route (Option String × Option String)))
      fun _ => True :=
    fun _ => Stateful.keeps_bind (drop_connection_keeps_within name owner) fun _ _ =>
      Stateful.keeps_throw
  unfold oauthClientFor
  split
  · exact Stateful.keeps_pure trivial
  · split
    · exact hrefuse _
    · split
      · exact hrefuse _
      · exact hrefuse _
      · split
        · exact Stateful.keeps_pure trivial
        · exact hrefuse _
        · exact Stateful.keeps_throw

/-- Deferring to OAuth changes the new connection only. -/
theorem defer_to_oauth_keeps_within {owner : Option String} (config : McpServerConnectionConfig)
    (discovered : OAuthServer)
    (hmembers : ∀ (before : ConnectionProfile) clientId clientSecret, before.name = profile.name →
      before.userId = owner →
      members { before with config := oauthConfig profile.config clientId clientSecret }) :
    Keeps (Within members holds) (deferToOauth outside profile owner caller config discovered)
      fun _ => True := by
  unfold deferToOauth
  refine Stateful.keeps_bind (oauth_client_for_keeps_within _ _ _ _) fun client _ => ?_
  intro backend hwithin
  refine Stateful.ends_bind (Stateful.ends_get ?_)
  split
  · exact Stateful.ends_throw hwithin
  · rename_i updated store hupdate
    refine Stateful.ends_bind (Stateful.ends_modify
      (connection_info_keeps_within _ (hwithin.save fun other hother => ?_)))
    rcases change_connection_mem_cases hupdate hother with hold | rfl
    · exact hwithin.store other hold
    · obtain ⟨_, before, _, hname, hid, rfl⟩ := change_connection_mem hupdate
      exact hmembers before client.1 client.2 hname hid

theorem create_within (request : CreateConnectionRequest) :
    Ends (createConnection connectionTypes outside request caller) backend
      (fun next middle =>
        WithinRequest connectionTypes outside backend (.create request caller) middle ∧
        next.Proper (WithinRequest connectionTypes outside backend (.create request caller)))
      (WithinRequest connectionTypes outside backend (.create request caller)) := by
  have hself : WithinRequest connectionTypes outside backend (.create request caller) backend :=
    within_request_self _
  by_cases haccepts : Accepts connectionTypes request caller backend
  -- The connection is saved first, and is set up as it is saved.
  · have hsaved : WithinRequest connectionTypes outside backend (.create request caller)
        (request.saved caller backend) := by
      refine hself.save fun other hother => ?_
      rcases List.mem_append.mp hother with hold | hnew
      · exact .inl hold
      · obtain rfl := List.mem_singleton.mp hnew
        exact .inr ⟨haccepts, rfl, rfl, .inl rfl⟩
    unfold Stateful.Ends
    rw [create_connection_accepted haccepts]
    show Ends (setUpConnection outside (request.profile caller) (request.owner caller) caller)
      (request.saved caller backend) _ _
    unfold setUpConnection
    split
    · have hframe : Stateful.Frame id (serverConfig (request.profile caller)) :=
        server_config_frame _
      refine hframe.ends_bind (fun middle hmiddle => ?_) fun config middle hconfig hmiddle => ?_
      · rw [show middle = request.saved caller backend from hmiddle]
        exact hsaved
      · obtain rfl : middle = request.saved caller backend := hmiddle
        have hparse := server_config_eq_ok hconfig
        split
        · exact respond_keeps_within _ hsaved
        · rename_i hauth
          have hdiscovery : Stateful.Frame credentialView (discoverOauth outside config) :=
            discover_oauth_frame (fun _ _ => rfl) config
          -- With `oauth2` the server is asked for its authorization server first.
          refine hdiscovery.ends_bind (fun after hview => hsaved.of_view hview)
            fun found after hfound hview => ?_
          have hafter := hsaved.of_view hview
          split
          · refine Stateful.keeps_bind (defer_to_oauth_keeps_within config _
              fun before clientId clientSecret hname hid => ?_)
              (fun _ _ => Stateful.keeps_pure trivial) after hafter
            exact .inr ⟨haccepts, hname, hid, .inr ⟨config, clientId, clientSecret, hparse,
              not_not.mp hauth, oauth_found_of_some hfound, rfl⟩⟩
          · refine Stateful.ends_pure ⟨hafter, ⟨fun e => ?_, fun _ =>
              connection_info_keeps_within⟩, fun _ huser => .inr huser⟩
            exact Stateful.keeps_bind (drop_connection_keeps_within _ _) fun _ _ =>
              Stateful.keeps_throw
    · exact respond_keeps_within _ hsaved
  · obtain ⟨e, hrun⟩ := @create_connection_refused connectionTypes outside request caller backend
      haccepts
    unfold Stateful.Ends
    rw [hrun]
    exact hself

/-- Every request ends within its bounds, before and after the generation it asks for. -/
theorem endpoint_within (request : ConnectionRequest) :
    Ends (endpoint connectionTypes outside request) backend
      (fun next middle => WithinRequest connectionTypes outside backend request middle ∧
        next.Proper (WithinRequest connectionTypes outside backend request))
      (WithinRequest connectionTypes outside backend request) := by
  cases request with
  | startup profile => exact startup_keeps_within _ (within_request_self _)
  | create request caller => exact create_within request
  | update name config caller => exact update_within name config
  | refresh name caller => exact refresh_keeps_within name _ (within_request_self _)
  | promote name caller => exact promote_within name
  | delete name caller => exact delete_keeps_within name _ (within_request_self _)
  | setApiKey name apiKey caller => exact set_api_key_within name apiKey
  | oauthCallback code state cookie => exact oauth_callback_within code state cookie

/-- The backend after a request is within its bounds. -/
theorem after_request_within (request : ConnectionRequest) :
    WithinRequest connectionTypes outside backend request
      (afterRequest connectionTypes outside request backend) := by
  refine Ends.stateOf (Stateful.ends_bind ((endpoint_within request).mono
    (fun next middle hmiddle => ?_) fun _ hfinal => hfinal))
  exact (perform_keeps (fun call => generate_keeps_within _ _ _) hmiddle.2.keeps middle
    hmiddle.1).mono
    (fun _ _ hfinal => hfinal.1) fun _ hfinal => hfinal

end

end AgentGraphStudio
