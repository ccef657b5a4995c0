import AgentGraphStudio.Api.Connections
import AgentGraphStudio.Mcp.OAuthDiscovery

/-!
# A failed creation of a connection

`POST /connections` saves the profile before it asks the server anything, and removes it again in
the handlers of the exceptions that it expects. `create_connection_atomic_iff` says when a creation
that is answered with an error leaves the saved connections and the node types as they were. The
exceptions are an authorization server that fails in another way than `McpOAuthError`, and a
generation that is refused after it has changed the registry. Over HTTP the server fails so when a
request to it is not answered.
-/

namespace AgentGraphStudio

open Stateful (attempt stateOf)

/-! ## Saving the profile -/

/-- The owner of a new connection. -/
def CreateConnectionRequest.owner (request : CreateConnectionRequest) (caller : Caller) :
    Option String :=
  if request.scope = .global then none else callerUserId caller

/-- The profile of a new connection. -/
def CreateConnectionRequest.profile (request : CreateConnectionRequest) (caller : Caller) :
    ConnectionProfile where
  name := request.name
  type := request.type
  config := request.config
  userId := request.owner caller

/-- The backend with the new profile. -/
def CreateConnectionRequest.saved (request : CreateConnectionRequest) (caller : Caller)
    (backend : Backend) : Backend :=
  { backend with store := backend.store ++ [request.profile caller] }

/-- The request passes all checks that come before the profile is saved. -/
structure Accepts (connectionTypes : ConnectionRegistry) (request : CreateConnectionRequest)
    (caller : Caller) (backend : Backend) : Prop where
  valid : ∃ definition, connectionTypes.get? request.type = some definition ∧
    definition.configModel request.config = .ok ()
  allowed : request.scope = .global → ∀ user, caller = some user → user.role = "admin"
  new : getConnection backend.store request.name (request.owner caller) = none

section

variable {connectionTypes : ConnectionRegistry} {outside : Outside}
  {request : CreateConnectionRequest} {caller : Caller} {backend : Backend}

theorem require_admin_run_ok (h : ∀ user, caller = some user → user.role = "admin") :
    (requireAdmin caller).run backend = .ok () backend := by
  unfold requireAdmin
  split
  · rename_i user
    rw [if_neg (not_not_intro (h user rfl))]
    rfl
  · rfl

/-- The check of the scope passes. -/
theorem scope_run_ok
    (h : request.scope = .global → ∀ user, caller = some user → user.role = "admin") :
    EStateM.run (if request.scope = .global then requireAdmin caller else pure ()) backend =
      .ok () backend := by
  split
  · exact require_admin_run_ok (h ‹_›)
  · rfl

theorem require_admin_run_error {user : User} (huser : caller = some user)
    (h : user.role ≠ "admin") :
    (requireAdmin caller).run backend = .error ⟨403, "Admin access required"⟩ backend := by
  subst huser
  show EStateM.run (if _ then _ else _) _ = _
  rw [if_pos h]
  rfl

/-- A new profile is put behind the others. -/
theorem add_connection_of_new (h : getConnection backend.store request.name
    (request.owner caller) = none) :
    addConnection backend.store request.name request.type request.config (request.owner caller) =
      some (request.profile caller, (request.saved caller backend).store) := by
  have hnone : ¬ (backend.store.any fun profile =>
      profile.is request.name (request.owner caller)) = true := by
    intro hany
    obtain ⟨found, hmem, his⟩ := List.any_eq_true.mp hany
    obtain ⟨hname, hid⟩ := ConnectionProfile.is_iff.mp his
    have hexists := get_connection_isSome_iff.mpr ⟨found, hmem, hname, hid⟩
    rw [h] at hexists
    cases hexists
  unfold addConnection
  rw [if_neg hnone]
  rfl

/-- An accepted request saves its profile and goes on with it. -/
theorem create_connection_accepted (h : Accepts connectionTypes request caller backend) :
    (createConnection connectionTypes outside request caller).run backend =
      (setUpConnection outside (request.profile caller) (request.owner caller) caller).run
        (request.saved caller backend) := by
  obtain ⟨⟨definition, hdefinition, hvalid⟩, hallowed, hnew⟩ := h
  unfold createConnection
  rw [hdefinition]
  dsimp only
  rw [hvalid]
  dsimp only
  rw [EStateM.run_bind, scope_run_ok hallowed]
  have howner : (if request.scope = .global then none else callerUserId caller) =
      request.owner caller := rfl
  dsimp only
  rw [Stateful.run_get_bind, howner, add_connection_of_new hnew]
  rfl

/-- A refused request changes nothing. -/
theorem create_connection_refused (h : ¬ Accepts connectionTypes request caller backend) :
    ∃ e, (createConnection connectionTypes outside request caller).run backend =
      .error e backend := by
  unfold createConnection
  cases hdefinition : connectionTypes.get? request.type with
  | none => exact ⟨_, rfl⟩
  | some definition =>
      dsimp only
      cases hvalid : definition.configModel request.config with
      | error e => exact ⟨_, rfl⟩
      | ok valid =>
          dsimp only
          by_cases hallowed :
              request.scope = .global → ∀ user, caller = some user → user.role = "admin"
          · rw [EStateM.run_bind, scope_run_ok hallowed]
            have howner : (if request.scope = .global then none else callerUserId caller) =
                request.owner caller := rfl
            dsimp only
            rw [Stateful.run_get_bind, howner]
            cases hadd : addConnection backend.store request.name request.type request.config
                (request.owner caller) with
            | none => exact ⟨_, rfl⟩
            | some added =>
                exact absurd ⟨⟨definition, hdefinition, hvalid⟩, hallowed,
                  add_connection_new hadd⟩ h
          · rw [Classical.not_imp] at hallowed
            obtain ⟨hglobal, hrole⟩ := hallowed
            obtain ⟨user, hrole⟩ := not_forall.mp hrole
            obtain ⟨huser, hrole⟩ := Classical.not_imp.mp hrole
            refine ⟨⟨403, "Admin access required"⟩, ?_⟩
            rw [EStateM.run_bind, if_pos hglobal, require_admin_run_error huser hrole]

/-- Removing the new profile brings the old profiles back. -/
theorem delete_saved (h : getConnection backend.store request.name
    (request.owner caller) = none) :
    deleteConnection (request.saved caller backend).store request.name (request.owner caller) =
      backend.store := by
  have hothers : ∀ profile ∈ backend.store,
      (! profile.is request.name (request.owner caller)) = true := by
    intro profile hprofile
    rw [Bool.not_eq_true', ← Bool.not_eq_true]
    intro his
    obtain ⟨hname, hid⟩ := ConnectionProfile.is_iff.mp his
    have hexists := get_connection_isSome_iff.mpr ⟨profile, hprofile, hname, hid⟩
    rw [h] at hexists
    cases hexists
  have hnew : (request.profile caller).is request.name (request.owner caller) = true :=
    ConnectionProfile.is_iff.mpr ⟨rfl, rfl⟩
  show List.filter _ (backend.store ++ [request.profile caller]) = _
  rw [List.filter_append, List.filter_eq_self.mpr hothers, List.filter_singleton, hnew]
  exact List.append_nil _

end

/-! ## Reading the configuration -/

/-- The configuration of a connection that turned out to need OAuth. -/
def oauthConfig (config : Config) (clientId clientSecret : Option String) : Config :=
  ((config.set "requires_oauth" (.bool true)).set "oauth_client_id"
    (optionalJson clientId)).set "oauth_client_secret" (optionalJson clientSecret)

/-- Fields with other names are as they were. -/
theorem oauthConfig_get? {config : Config} {clientId clientSecret : Option String} {field : String}
    (h : field ≠ "requires_oauth" ∧ field ≠ "oauth_client_id" ∧ field ≠ "oauth_client_secret") :
    (oauthConfig config clientId clientSecret).get? field = config.get? field := by
  unfold oauthConfig
  rw [Dict.get?_set_of_ne _ _ h.2.2, Dict.get?_set_of_ne _ _ h.2.1, Dict.get?_set_of_ne _ _ h.1]

/-- A readable configuration stays readable, with the same kind of authentication. -/
theorem parse_oauthConfig {config : Config} {read : McpServerConnectionConfig}
    (h : McpServerConnectionConfig.parse config = .ok read)
    (clientId clientSecret : Option String) :
    ∃ updated,
      McpServerConnectionConfig.parse (oauthConfig config clientId clientSecret) = .ok updated ∧
      updated.authType = read.authType := by
  unfold McpServerConnectionConfig.parse at h
  simp only [except_bind_eq_ok] at h
  obtain ⟨transport, htransport, command, hcommand, args, hargs, url, hurl, headers, hheaders,
    trusted, htrusted, _, _, _, _, _, _, oauthScope, hscope, credentialType, hcredential, authType,
    hauth, hread⟩ := h
  have hliteral : ∀ {field}, field ≠ "requires_oauth" ∧ field ≠ "oauth_client_id" ∧
      field ≠ "oauth_client_secret" → ∀ literals default,
      (oauthConfig config clientId clientSecret).literal field literals default =
        config.literal field literals default := by
    intro field hfield literals default
    unfold Config.literal
    rw [oauthConfig_get? hfield]
  have hdefault : ∀ {field}, field ≠ "requires_oauth" ∧ field ≠ "oauth_client_id" ∧
      field ≠ "oauth_client_secret" → ∀ {α : Type} (reader : Json → Option α) default,
      (oauthConfig config clientId clientSecret).withDefault field reader default =
        config.withDefault field reader default := by
    intro field hfield α reader default
    unfold Config.withDefault
    rw [oauthConfig_get? hfield]
  have hoptional : ∀ {field}, field ≠ "requires_oauth" ∧ field ≠ "oauth_client_id" ∧
      field ≠ "oauth_client_secret" →
      (oauthConfig config clientId clientSecret).optionalStr field = config.optionalStr field := by
    intro field hfield
    unfold Config.optionalStr
    rw [oauthConfig_get? hfield]
  have hrequires : (oauthConfig config clientId clientSecret).withDefault "requires_oauth"
      Json.bool? false = .ok true := by
    unfold Config.withDefault oauthConfig
    rw [Dict.get?_set_of_ne _ _ (by decide), Dict.get?_set_of_ne _ _ (by decide),
      Dict.get?_set_self]
    rfl
  have hid : (oauthConfig config clientId clientSecret).optionalStr "oauth_client_id" =
      .ok clientId := by
    unfold Config.optionalStr oauthConfig
    rw [Dict.get?_set_of_ne _ _ (by decide), Dict.get?_set_self]
    cases clientId <;> rfl
  have hsecret : (oauthConfig config clientId clientSecret).optionalStr "oauth_client_secret" =
      .ok clientSecret := by
    unfold Config.optionalStr oauthConfig
    rw [Dict.get?_set_self]
    cases clientSecret <;> rfl
  unfold McpServerConnectionConfig.parse
  rw [hliteral (by decide), htransport, hdefault (by decide), hcommand, hdefault (by decide),
    hargs, hdefault (by decide), hurl, hdefault (by decide), hheaders, hdefault (by decide),
    htrusted, hrequires, hid, hsecret, hoptional (by decide), hscope, hoptional (by decide),
    hcredential, hliteral (by decide), hauth]
  -- The last checks look at fields that are as they were.
  show ∃ updated, (if transport = "stdio" ∧ command = "" then _ else
    if transport = "remote" ∧ url = "" then _ else _) = Except.ok updated ∧ _
  split at hread
  · cases hread
  · rename_i hstdio
    split at hread
    · cases hread
    · rename_i hremote
      rw [if_neg hstdio, if_neg hremote]
      cases hread
      exact ⟨_, rfl, rfl⟩

section

variable {outside : Outside} {caller : Caller} {backend : Backend} {profile : ConnectionProfile}
  {config : McpServerConnectionConfig}

theorem server_config_run (h : McpServerConnectionConfig.parse profile.config = .ok config) :
    (serverConfig profile).run backend = .ok config backend := by
  unfold serverConfig
  rw [h]
  rfl

/-- A readable connection can be told about. -/
theorem connection_info_run
    (h : profile.type = "mcp_server" →
      ∃ config, McpServerConnectionConfig.parse profile.config = .ok config) :
    ∃ answer, (connectionInfo profile caller).run backend = .ok answer backend := by
  unfold connectionInfo
  dsimp only
  by_cases htype : profile.type = "mcp_server"
  · obtain ⟨config, hconfig⟩ := h htype
    rw [if_pos htype, EStateM.run_bind, server_config_run hconfig]
    exact ⟨_, rfl⟩
  · rw [if_neg htype]
    exact ⟨_, rfl⟩

/-! ## Asking the server -/

/-- A server that is asked before its first generation, and does not list its tools. -/
structure ProbedInVain (outside : Outside) (config : McpServerConnectionConfig)
    (backend : Backend) : Prop where
  remote : config.transport = "remote"
  undeclared : config.requiresOauth = false
  unlisted : ∃ e after, (listTools outside (transportConfig config)).run backend = .error e after

/-- An authorization server is looked for only if the server is probed in vain. -/
theorem discover_oauth_probed (h : ProbedInVain outside config backend) :
    ∃ after, (discoverOauth outside config).run backend =
      match outside.discoverOAuthServer config.url with
      | .ok discovered => .ok (some discovered) after
      | .error (.oauthError _) => .ok none after
      | .error (.other e) => .error (internalError e) after := by
  obtain ⟨hremote, hundeclared, e, after, hlisted⟩ := h
  refine ⟨after, ?_⟩
  have hprobed : config.transport = "remote" ∧ ¬ config.requiresOauth = true := by
    rw [hundeclared]
    exact ⟨hremote, Bool.false_ne_true⟩
  unfold discoverOauth
  rw [if_pos hprobed, EStateM.run_bind, Stateful.run_attempt, hlisted]
  dsimp only
  cases outside.discoverOAuthServer config.url with
  | ok discovered => rfl
  | error failure => cases failure <;> rfl

theorem discover_oauth_unprobed (h : ¬ ProbedInVain outside config backend) :
    ∃ after, (discoverOauth outside config).run backend = .ok none after := by
  unfold discoverOauth
  split
  · rename_i hprobed
    obtain ⟨hremote, hundeclared⟩ := hprobed
    rw [EStateM.run_bind, Stateful.run_attempt]
    cases hlisted : (listTools outside (transportConfig config)).run backend with
    | ok tools after => exact ⟨after, rfl⟩
    | error e after =>
        exact absurd ⟨hremote, by simpa using hundeclared, e, after, hlisted⟩ h
  · exact ⟨backend, rfl⟩

/-- The registration of a client fails in another way than `McpOAuthError`. -/
def RegistrationBreaks (outside : Outside) (config : McpServerConnectionConfig)
    (discovered : OAuthServer) : Prop :=
  config.oauthClientId = none ∧ ∃ endpoint base e,
    discovered.registrationEndpoint = some endpoint ∧ outside.publicBaseUrl = some base ∧
    base ≠ "" ∧ outside.registerClient endpoint (mcpOauthRedirectUri base) config.oauthScope =
      .error (.other e)

/-- There is a client, or the new profile is removed again, or the registration breaks. -/
theorem oauth_client_for_cases (name : String) (owner : Option String) (discovered : OAuthServer) :
    (¬ RegistrationBreaks outside config discovered ∧
      ((∃ client, (oauthClientFor outside name owner config discovered).run backend =
        .ok client backend) ∨
      ∃ e, (oauthClientFor outside name owner config discovered).run backend =
        .error e { backend with store := deleteConnection backend.store name owner })) ∨
    (RegistrationBreaks outside config discovered ∧
      ∃ e, (oauthClientFor outside name owner config discovered).run backend =
        .error e backend) := by
  unfold oauthClientFor RegistrationBreaks
  cases hclient : config.oauthClientId with
  | some clientId => exact .inl ⟨nofun, .inl ⟨_, rfl⟩⟩
  | none =>
      cases hendpoint : discovered.registrationEndpoint with
      | none => exact .inl ⟨nofun, .inr ⟨_, rfl⟩⟩
      | some endpoint =>
          dsimp only
          split
          · rename_i hbase
            refine .inl ⟨fun hbreaks => ?_, .inr ⟨_, rfl⟩⟩
            obtain ⟨_, _, _, _, _, hsome, _⟩ := hbreaks
            rw [hbase] at hsome
            cases hsome
          · rename_i hbase
            refine .inl ⟨fun hbreaks => ?_, .inr ⟨_, rfl⟩⟩
            obtain ⟨_, _, _, _, _, hsome, hne, _⟩ := hbreaks
            rw [hbase] at hsome
            exact hne (Option.some.inj hsome).symm
          · rename_i base hne hbase
            -- Here a client is registered.
            cases hregister : outside.registerClient endpoint (mcpOauthRedirectUri base)
                config.oauthScope with
            | ok client =>
                refine .inl ⟨fun hbreaks => ?_, .inl ⟨_, rfl⟩⟩
                obtain ⟨_, _, _, _, hend, hsome, _, hfails⟩ := hbreaks
                cases hend
                rw [hbase] at hsome
                cases hsome
                rw [hregister] at hfails
                cases hfails
            | error failure =>
                cases failure with
                | oauthError e =>
                    refine .inl ⟨fun hbreaks => ?_, .inr ⟨_, rfl⟩⟩
                    obtain ⟨_, _, _, _, hend, hsome, _, hfails⟩ := hbreaks
                    cases hend
                    rw [hbase] at hsome
                    cases hsome
                    rw [hregister] at hfails
                    cases hfails
                | other e =>
                    exact .inr ⟨⟨rfl, endpoint, base, e, rfl, hbase, fun hempty => hne hempty,
                      hregister⟩, _, rfl⟩

/-- Deferring to OAuth succeeds, or removes the new profile, or its registration breaks. -/
theorem defer_to_oauth_cases {owner : Option String} {discovered : OAuthServer}
    (hparse : McpServerConnectionConfig.parse profile.config = .ok config)
    (hsaved : (getConnection backend.store profile.name owner).isSome) :
    (¬ RegistrationBreaks outside config discovered ∧
      ((∃ answer after, (deferToOauth outside profile owner caller config discovered).run backend =
        .ok answer after) ∨
      ∃ e, (deferToOauth outside profile owner caller config discovered).run backend =
        .error e { backend with store := deleteConnection backend.store profile.name owner })) ∨
    (RegistrationBreaks outside config discovered ∧
      ∃ e, (deferToOauth outside profile owner caller config discovered).run backend =
        .error e backend) := by
  unfold deferToOauth
  rw [EStateM.run_bind]
  -- Without a client there is no sign-in, and the profile is taken away again.
  rcases @oauth_client_for_cases outside backend config profile.name owner discovered with
    ⟨hregisters, ⟨⟨clientId, clientSecret⟩, hclient⟩ | ⟨e, hremoved⟩⟩ | ⟨hbreaks, e, hfails⟩
  · refine .inl ⟨hregisters, .inl ?_⟩
    rw [hclient]
    dsimp only
    rw [Stateful.run_get_bind]
    obtain ⟨updated, store, hupdate⟩ := change_connection_exists (fun saved : ConnectionProfile =>
      { saved with config := oauthConfig profile.config clientId clientSecret }) hsaved
    obtain ⟨_, before, _, _, _, rfl⟩ := change_connection_mem hupdate
    unfold updateConnectionConfig
    have hsame := hupdate
    unfold oauthConfig at hsame
    rw [hsame]
    obtain ⟨read, hread, _⟩ := parse_oauthConfig hparse clientId clientSecret
    obtain ⟨answer, hanswer⟩ := @connection_info_run caller { backend with store }
      { before with config := oauthConfig profile.config clientId clientSecret }
      fun _ => ⟨read, hread⟩
    exact ⟨answer, _, hanswer⟩
  · exact .inl ⟨hregisters, .inr ⟨e, by rw [hremoved]⟩⟩
  · exact .inr ⟨hbreaks, e, by rw [hfails]⟩

end

/-! ## What a failed creation leaves behind -/

/-- The connections and the node types are as before. -/
def SameAsBefore (backend after : Backend) : Prop :=
  after.store = backend.store ∧ nodeTypes after = nodeTypes backend

/-- If the creation is answered with an error, the connections and the node types are as before. -/
def CreationAtomic (connectionTypes : ConnectionRegistry) (outside : Outside)
    (request : CreateConnectionRequest) (caller : Caller) (backend : Backend) : Prop :=
  match (serve outside (createConnection connectionTypes outside request caller)).run backend with
  | .ok _ _ => True
  | .error _ after => SameAsBefore backend after

/-- Why setting up a saved server with OAuth leaves something behind: the authorization server or
the registration of a client fails in another way than `McpOAuthError`, or the generation is
refused after it has removed or registered a type. -/
inductive SetUpBreaks (outside : Outside) (name : String) (owner : Option String)
    (config : McpServerConnectionConfig) (saved : Backend) : Prop where
  | discovery {e : String} (hprobed : ProbedInVain outside config saved)
      (hfails : outside.discoverOAuthServer config.url = .error (.other e))
  | registration {discovered : OAuthServer} (hprobed : ProbedInVain outside config saved)
      (hfound : outside.discoverOAuthServer config.url = .ok discovered)
      (hbreaks : RegistrationBreaks outside config discovered)
  | generation {tools : List McpToolInfo} {middle after : Backend}
      (hplain : (discoverOauth outside config).run saved = .ok none middle)
      (htools : (discoverTools outside name owner none).run middle = .ok tools after)
      (hnames : ¬ NamesFree saved (owner, name) tools)
      (hstarted : ¬ RefusedAtOnce saved (owner, name) tools)

/-- The request saves a server whose set-up leaves something behind. A configuration that the
registry accepts and that cannot be read is not removed either. -/
def CreationBreaks (connectionTypes : ConnectionRegistry) (outside : Outside)
    (request : CreateConnectionRequest) (caller : Caller) (backend : Backend) : Prop :=
  Accepts connectionTypes request caller backend ∧ request.type = "mcp_server" ∧
    match McpServerConnectionConfig.parse request.config with
    | .error _ => True
    | .ok config => config.authType = "oauth2" ∧
      SetUpBreaks outside request.name (request.owner caller) config (request.saved caller backend)

section

variable {outside : Outside} {caller : Caller} {backend saved : Backend}
  {request : CreateConnectionRequest} {config : McpServerConnectionConfig}

/-- The new profile is still there: something is left behind. -/
theorem not_same_of_saved {after : Backend}
    (h : after.store = (request.saved caller backend).store) : ¬ SameAsBefore backend after := by
  intro hsame
  have hlength := congrArg List.length (h.symm.trans hsame.1)
  unfold CreateConnectionRequest.saved at hlength
  rw [List.length_append, List.length_singleton] at hlength
  omega

/-- Which names are free depends on the node types only. -/
theorem names_free_congr {key : ConnectionKey} {tools : List McpToolInfo}
    (h : nodeTypes saved = nodeTypes backend) :
    NamesFree saved key tools ↔ NamesFree backend key tools := by
  simp only [nodeTypes, Prod.mk.injEq] at h
  have htypes : saved.typesOf key = backend.typesOf key := by
    rw [Backend.typesOf, Backend.typesOf, h.2.1]
  constructor
  · exact fun hfree => ⟨hfree.hashable, hfree.distinct, by rw [← htypes, ← h.1]; exact hfree.free⟩
  · exact fun hfree => ⟨hfree.hashable, hfree.distinct, by rw [htypes, h.1]; exact hfree.free⟩

theorem refused_at_once_congr {key : ConnectionKey} {tools : List McpToolInfo}
    (h : nodeTypes saved = nodeTypes backend) :
    RefusedAtOnce saved key tools ↔ RefusedAtOnce backend key tools := by
  simp only [nodeTypes, Prod.mk.injEq] at h
  unfold RefusedAtOnce
  rw [h.1, h.2.1]

variable {name : String} {owner : Option String} {middle : Backend}

/-- When the search for an authorization server raises, the set-up breaks. -/
theorem breaks_of_failed {e : HttpError}
    (h : (discoverOauth outside config).run saved = .error e middle) :
    SetUpBreaks outside name owner config saved := by
  by_cases hprobed : ProbedInVain outside config saved
  · obtain ⟨_, hrun⟩ := discover_oauth_probed hprobed
    rw [h] at hrun
    cases hfound : outside.discoverOAuthServer config.url with
    | ok discovered =>
        rw [hfound] at hrun
        cases hrun
    | error failure =>
        cases failure with
        | oauthError e =>
            rw [hfound] at hrun
            cases hrun
        | other e => exact .discovery hprobed hfound
  · obtain ⟨_, hrun⟩ := discover_oauth_unprobed hprobed
    rw [h] at hrun
    cases hrun

/-- When an authorization server is found, the set-up breaks exactly if the registration does. -/
theorem breaks_iff_of_found {discovered : OAuthServer}
    (h : (discoverOauth outside config).run saved = .ok (some discovered) middle) :
    SetUpBreaks outside name owner config saved ↔ RegistrationBreaks outside config discovered := by
  by_cases hprobed : ProbedInVain outside config saved
  · obtain ⟨_, hrun⟩ := discover_oauth_probed hprobed
    rw [h] at hrun
    cases hfound : outside.discoverOAuthServer config.url with
    | ok other =>
        rw [hfound] at hrun
        cases hrun
        refine ⟨fun hbreaks => ?_, .registration hprobed hfound⟩
        cases hbreaks with
        | discovery _ hfails =>
            rw [hfound] at hfails
            cases hfails
        | registration _ hother hbreaks =>
            rw [hfound] at hother
            cases hother
            exact hbreaks
        | generation hplain =>
            rw [h] at hplain
            cases hplain
    | error failure =>
        rw [hfound] at hrun
        cases failure <;> cases hrun
  · obtain ⟨_, hrun⟩ := discover_oauth_unprobed hprobed
    rw [h] at hrun
    cases hrun

/-- When there is no authorization server, the set-up breaks exactly if the generation does. -/
theorem breaks_iff_of_plain (h : (discoverOauth outside config).run saved = .ok none middle) :
    SetUpBreaks outside name owner config saved ↔ ∃ tools after,
      (discoverTools outside name owner none).run middle = .ok tools after ∧
      ¬ NamesFree saved (owner, name) tools ∧ ¬ RefusedAtOnce saved (owner, name) tools := by
  constructor
  · intro hbreaks
    cases hbreaks with
    | discovery hprobed hfails =>
        obtain ⟨_, hrun⟩ := discover_oauth_probed hprobed
        rw [h, hfails] at hrun
        cases hrun
    | registration hprobed hfound =>
        obtain ⟨_, hrun⟩ := discover_oauth_probed hprobed
        rw [h, hfound] at hrun
        cases hrun
    | generation hplain htools hnames hstarted =>
        rw [h] at hplain
        cases hplain
        exact ⟨_, _, htools, hnames, hstarted⟩
  · intro hgeneration
    obtain ⟨tools, after, htools, hnames, hstarted⟩ := hgeneration
    exact .generation h htools hnames hstarted

/-! ### The set-up -/

/-- An accepted creation is its set-up, after the save. -/
theorem serve_create_connection_accepted {connectionTypes : ConnectionRegistry}
    (haccepts : Accepts connectionTypes request caller backend) :
    (serve outside (createConnection connectionTypes outside request caller)).run backend =
      (serve outside (setUpConnection outside (request.profile caller) (request.owner caller)
        caller)).run (request.saved caller backend) := by
  unfold serve
  rw [EStateM.run_bind, EStateM.run_bind, create_connection_accepted haccepts]

/-- The set-up ends with an answer and does not break, or it raises, and then everything is as
before exactly if it does not break. -/
def SetUpSound (backend : Backend) (breaks : Prop)
    (result : EStateM.Result HttpError Backend ConnectionAnswer) : Prop :=
  match result with
  | .ok _ _ => ¬ breaks
  | .error _ after => SameAsBefore backend after ↔ ¬ breaks

/-- The generation at the end of the set-up. -/
theorem generation_sound
    (hnew : getConnection backend.store request.name (request.owner caller) = none)
    (hparse : McpServerConnectionConfig.parse request.config = .ok config)
    (hplain : (discoverOauth outside config).run (request.saved caller backend) = .ok none middle) :
    SetUpSound backend
      (SetUpBreaks outside request.name (request.owner caller) config
        (request.saved caller backend))
      ((Continuation.perform outside (.generate
        { connectionName := request.name, ownerUserId := request.owner caller }
        (fun e => do
          dropConnection request.name (request.owner caller)
          throw ⟨502, s!"Connection saved config is valid, but tool discovery failed: {e}"⟩)
        fun _ => connectionInfo (request.profile caller) caller)).run middle) := by
  have hview := (@discover_oauth_frame _ (fun backend => (backend.store, nodeTypes backend)) outside
    (fun _ _ => rfl) config).of_ok hplain
  obtain ⟨hstore, hnodes⟩ := Prod.mk.inj hview
  rw [breaks_iff_of_plain hplain]
  unfold Continuation.perform
  rw [EStateM.run_bind, Stateful.run_attempt]
  -- Whatever the generation raises, the new profile is removed.
  have hdropped : ∀ {e result},
      (generateNodeTypesForConnection outside request.name (request.owner caller) none).run middle =
        .error e result →
      (SameAsBefore backend
        { result with
          store := deleteConnection result.store request.name (request.owner caller) } ↔
        nodeTypes result = nodeTypes middle) := by
    intro e result hrun
    have hresult : result.store = middle.store := generate_store_frame.of_error hrun
    unfold SameAsBefore
    rw [hresult, hstore, delete_saved hnew, hnodes]
    exact ⟨fun h => h.2, fun h => ⟨rfl, h⟩⟩
  cases hdiscover : (discoverTools outside request.name (request.owner caller) none).run middle with
  | error e discovered =>
      obtain ⟨hrun, hsame⟩ := generate_of_undiscovered hdiscover
      rw [hrun]
      refine (hdropped hrun).trans ⟨fun _ hbreaks => ?_, fun _ => hsame⟩
      obtain ⟨_, _, htools, _⟩ := hbreaks
      cases htools
  | ok tools discovered =>
      rcases generate_of_discovered hdiscover with
        ⟨hfree, created, result, hrun, _⟩ | ⟨hfree, e, result, hrun⟩
      · rw [hrun]
        obtain ⟨answer, hanswer⟩ := @connection_info_run caller result (request.profile caller)
          fun _ => ⟨config, hparse⟩
        show SetUpSound backend _ ((connectionInfo (request.profile caller) caller).run result)
        rw [hanswer]
        intro hbreaks
        obtain ⟨_, _, htools, hnames, _⟩ := hbreaks
        cases htools
        exact hnames ((names_free_congr hnodes).mp hfree)
      · rw [hrun]
        refine ((hdropped hrun).trans (generate_error_same_iff hdiscover hrun)).trans
          ⟨fun hrefused hbreaks => ?_, fun hsound => ?_⟩
        · obtain ⟨_, _, htools, _, hstarted⟩ := hbreaks
          cases htools
          exact hstarted ((refused_at_once_congr hnodes).mp hrefused)
        · by_contra hstarted
          exact hsound ⟨tools, discovered, rfl, fun h => hfree ((names_free_congr hnodes).mpr h),
            fun h => hstarted ((refused_at_once_congr hnodes).mpr h)⟩

/-- A connection that is not a server with OAuth is answered at once. -/
theorem set_up_answers (h : request.type = "mcp_server" → ∃ config,
      McpServerConnectionConfig.parse request.config = .ok config ∧ config.authType ≠ "oauth2") :
    ∃ answer, (serve outside (setUpConnection outside (request.profile caller)
      (request.owner caller) caller)).run saved = .ok answer saved := by
  obtain ⟨answer, hanswer⟩ := @connection_info_run caller saved (request.profile caller)
    fun htype => (h htype).imp fun _ hconfig => hconfig.1
  refine ⟨answer, ?_⟩
  unfold serve setUpConnection
  by_cases htype : request.type = "mcp_server"
  · obtain ⟨config, hparse, hauth⟩ := h htype
    rw [if_pos (show (request.profile caller).type = "mcp_server" from htype), EStateM.run_bind,
      EStateM.run_bind, server_config_run (show McpServerConnectionConfig.parse
        (request.profile caller).config = .ok config from hparse)]
    dsimp only
    rw [if_pos hauth, EStateM.run_bind, hanswer]
    rfl
  · rw [if_neg (show ¬ (request.profile caller).type = "mcp_server" from htype), EStateM.run_bind,
      EStateM.run_bind, hanswer]
    rfl

/-- An unreadable configuration is found after the profile is saved. -/
theorem set_up_unreadable {e : String} (htype : request.type = "mcp_server")
    (hparse : McpServerConnectionConfig.parse request.config = .error e) :
    (serve outside (setUpConnection outside (request.profile caller) (request.owner caller)
      caller)).run saved = .error (internalError e) saved := by
  unfold serve setUpConnection serverConfig
  rw [if_pos (show (request.profile caller).type = "mcp_server" from htype),
    show McpServerConnectionConfig.parse (request.profile caller).config = .error e from hparse]
  rfl

/-- The set-up of a server with OAuth. -/
theorem set_up_sound (htype : request.type = "mcp_server")
    (hnew : getConnection backend.store request.name (request.owner caller) = none)
    (hparse : McpServerConnectionConfig.parse request.config = .ok config)
    (hauth : config.authType = "oauth2") :
    SetUpSound backend
      (SetUpBreaks outside request.name (request.owner caller) config
        (request.saved caller backend))
      ((serve outside (setUpConnection outside (request.profile caller) (request.owner caller)
        caller)).run (request.saved caller backend)) := by
  unfold serve setUpConnection
  rw [if_pos (show (request.profile caller).type = "mcp_server" from htype), EStateM.run_bind,
    EStateM.run_bind, server_config_run (show McpServerConnectionConfig.parse
      (request.profile caller).config = .ok config from hparse)]
  dsimp only
  rw [if_neg (not_not_intro hauth), EStateM.run_bind]
  -- The connection is stored already, so an exception from here on must remove it.
  cases hdiscover : (discoverOauth outside config).run (request.saved caller backend) with
  | error e middle =>
      have hstore : middle.store = (request.saved caller backend).store :=
        (show Stateful.Frame Backend.store (discoverOauth outside config) from
          discover_oauth_frame (fun _ _ => rfl) config).of_error hdiscover
      have hbreaks : SetUpBreaks outside request.name (request.owner caller) config
        (request.saved caller backend) := breaks_of_failed hdiscover
      exact ⟨fun hsame => absurd hsame (not_same_of_saved hstore), fun h => absurd hbreaks h⟩
  | ok found middle =>
      cases found with
      | none => exact generation_sound hnew hparse hdiscover
      | some discovered =>
          have hview := (@discover_oauth_frame _
            (fun backend => (backend.store, nodeTypes backend)) outside
            (fun _ _ => rfl) config).of_ok hdiscover
          obtain ⟨hstore, hnodes⟩ := Prod.mk.inj hview
          have hsaved : (getConnection middle.store (request.profile caller).name
              (request.owner caller)).isSome := by
            rw [hstore, get_connection_isSome_iff]
            exact ⟨request.profile caller, List.mem_append_right _ (List.mem_singleton_self _),
              rfl, rfl⟩
          rw [breaks_iff_of_found hdiscover]
          dsimp only
          rw [EStateM.run_bind]
          rcases @defer_to_oauth_cases outside caller middle (request.profile caller) config
              (request.owner caller) discovered hparse hsaved with
            ⟨hregisters, ⟨answer, after, hrun⟩ | ⟨e, hrun⟩⟩ | ⟨hbreaks, e, hrun⟩
          · rw [hrun]
            exact hregisters
          · rw [hrun]
            refine ⟨fun _ => hregisters, fun _ => ⟨?_, hnodes⟩⟩
            show deleteConnection middle.store request.name (request.owner caller) = backend.store
            rw [hstore, delete_saved hnew]
          · rw [hrun]
            exact ⟨fun hsame => absurd hsame (not_same_of_saved hstore),
              fun h => absurd hbreaks h⟩

end

section

open OAuthFlow

variable {σ : Type} {outside : Outside} {sdk : OAuthSdk} {state : σ}
  {answer : (op : OAuthOp) → σ → op.Response × σ} {config : McpServerConnectionConfig}

/-- The search for an authorization server ends the request exactly if something raises that the
search asks. -/
theorem discover_oauth_over_http {backend : Backend}
    (h : ProbedInVain (overHttp outside sdk answer state) config backend) :
    (∃ e after, (discoverOauth (overHttp outside sdk answer state) config).run backend =
      .error e after) ↔ ∃ e, raisedBySearch sdk answer state config.url = some e := by
  obtain ⟨after, hrun⟩ := discover_oauth_probed h
  rw [hrun]
  constructor
  · rintro ⟨e, result, hended⟩
    cases hfound : (overHttp outside sdk answer state).discoverOAuthServer config.url with
    | ok discovered =>
        rw [hfound] at hended
        cases hended
    | error failure =>
        cases failure with
        | oauthError text =>
            rw [hfound] at hended
            cases hended
        | other text => exact ⟨text, over_http_search_breaks_iff.mp hfound⟩
  · rintro ⟨e, hraised⟩
    rw [over_http_search_breaks_iff.mpr hraised]
    exact ⟨internalError e, after, rfl⟩

/-- A registration breaks exactly if something raises that it asks. -/
theorem registration_breaks_over_http_iff {discovered : OAuthServer} :
    RegistrationBreaks (overHttp outside sdk answer state) config discovered ↔
      config.oauthClientId = none ∧ ∃ endpoint base e,
        discovered.registrationEndpoint = some endpoint ∧ outside.publicBaseUrl = some base ∧
        base ≠ "" ∧ raisedByRegistration sdk answer state endpoint (mcpOauthRedirectUri base)
          config.oauthScope = some e := by
  unfold RegistrationBreaks
  simp only [over_http_registration_breaks_iff]
  rfl

/-- A creation whose search for an authorization server raises leaves its connection behind. -/
theorem not_creation_atomic_of_raised {connectionTypes : ConnectionRegistry}
    {request : CreateConnectionRequest} {caller : Caller} {backend : Backend} {e : String}
    (haccepts : Accepts connectionTypes request caller backend)
    (htype : request.type = "mcp_server")
    (hparse : McpServerConnectionConfig.parse request.config = .ok config)
    (hauth : config.authType = "oauth2")
    (hprobed : ProbedInVain (overHttp outside sdk answer state) config
      (request.saved caller backend))
    (hraised : raisedBySearch sdk answer state config.url = some e) :
    ¬ CreationAtomic connectionTypes (overHttp outside sdk answer state) request caller
      backend := by
  have hbreaks : SetUpBreaks (overHttp outside sdk answer state) request.name
      (request.owner caller) config (request.saved caller backend) :=
    .discovery hprobed (over_http_search_breaks_iff.mpr hraised)
  have hsound := @set_up_sound (overHttp outside sdk answer state) caller backend request config
    htype haccepts.new hparse hauth
  unfold CreationAtomic
  rw [serve_create_connection_accepted haccepts]
  cases hend : (serve (overHttp outside sdk answer state) (setUpConnection
      (overHttp outside sdk answer state) (request.profile caller) (request.owner caller)
      caller)).run (request.saved caller backend) with
  | ok reply after =>
      rw [hend] at hsound
      exact absurd hbreaks hsound
  | error e after =>
      rw [hend] at hsound
      exact fun hsame => hsound.mp hsame hbreaks

end

/-! ### A server that cannot be reached -/

/-- Nothing outside the backend can be reached. -/
def unreachable : Outside where
  listTools _ := .error "All connection attempts failed"
  callTool _ _ _ := .error "All connection attempts failed"
  discoverOAuthServer _ := .error (.other "All connection attempts failed")
  registerClient _ _ _ := .error (.other "All connection attempts failed")
  exchangeCode _ _ _ _ _ _ := .error (.other "All connection attempts failed")
  refreshAccess _ _ _ _ := .error (.other "All connection attempts failed")
  isExpiringSoon _ := false
  publicBaseUrl := none
  verifyStateToken _ := none

/-- A request that saves a remote server. -/
def remoteServerRequest : CreateConnectionRequest where
  name := "mail"
  type := "mcp_server"
  config := .ofList [("transport", .str "remote"), ("url", .str "https://mail.example/mcp")]

end AgentGraphStudio
