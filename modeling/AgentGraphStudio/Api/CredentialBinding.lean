import AgentGraphStudio.Api.ConnectionCoverage
import AgentGraphStudio.Api.Executions

/-!
# Which connection a credential belongs to

API keys and OAuth tokens are stored under a user and the name of a connection, while connections
have an owner and a name. A `Provenance` follows a history of requests and executions beside the
backend: it gives every connection an identity when it is created, which a promotion keeps, and
notes for every stored credential who saved it while connecting which connection. No step of the
backend reads it. `credentials_bound` says under which conditions on the requests a credential is
only ever sent to the connection that it was saved for.
-/

namespace AgentGraphStudio

open Stateful (Ends Keeps stateOf)

/-! ## Where credentials come from -/

/-- Who saved a credential, and the identity of the connection that was being connected. -/
structure Stamp where
  savedBy : String
  identity : Nat
  deriving DecidableEq

/-- The identities of the connections and the stamps of the credentials. Identities are given in
order, and `next` has not been given yet. -/
structure Provenance where
  next : Nat
  identity : ConnectionKey → Nat
  stamp : CredentialKind → String × String → Stamp
  identity_lt : ∀ key, identity key < next
  stamp_lt : ∀ kind key, (stamp kind key).identity < next

namespace Provenance

/-- Before anything is created. -/
def initial : Provenance where
  next := 1
  identity _ := 0
  stamp _ _ := ⟨"", 0⟩
  identity_lt _ := Nat.zero_lt_one
  stamp_lt _ _ := Nat.zero_lt_one

/-- Give a new identity to the connection of this owner and name. -/
def create (provenance : Provenance) (key : ConnectionKey) : Provenance where
  next := provenance.next + 1
  identity other := if other = key then provenance.next else provenance.identity other
  stamp := provenance.stamp
  identity_lt other := by
    split
    · exact Nat.lt_succ_self _
    · exact Nat.lt_succ_of_lt (provenance.identity_lt other)
  stamp_lt kind other := Nat.lt_succ_of_lt (provenance.stamp_lt kind other)

/-- A connection keeps its identity under another owner. -/
def move (provenance : Provenance) (source target : ConnectionKey) : Provenance where
  next := provenance.next
  identity other :=
    if other = target then provenance.identity source else provenance.identity other
  stamp := provenance.stamp
  identity_lt other := by
    split <;> exact provenance.identity_lt _
  stamp_lt := provenance.stamp_lt

/-- A user saves a credential while connecting a connection. -/
def save (provenance : Provenance) (kind : CredentialKind) (user : String)
    (profile : ConnectionProfile) : Provenance where
  next := provenance.next
  identity := provenance.identity
  stamp other key := if other = kind ∧ key = (user, profile.name) then
      ⟨user, provenance.identity (profile.userId, profile.name)⟩
    else provenance.stamp other key
  identity_lt := provenance.identity_lt
  stamp_lt other key := by
    split
    · exact provenance.identity_lt _
    · exact provenance.stamp_lt other key

/-- No credential has been saved for a connection that is created now. -/
theorem create_identity_new (provenance : Provenance) (key : ConnectionKey) (kind : CredentialKind)
    (credential : String × String) :
    ((provenance.create key).stamp kind credential).identity ≠
      (provenance.create key).identity key := by
  show (provenance.stamp kind credential).identity ≠ if key = key then _ else _
  rw [if_pos rfl]
  exact Nat.ne_of_lt (provenance.stamp_lt kind credential)

end Provenance

/-- The provenance after a request. -/
def Provenance.after (outside : Outside) (backend : Backend) (provenance : Provenance) :
    ConnectionRequest → Provenance
  | .create request caller =>
    if (getConnection backend.store request.name (request.owner caller)).isSome then provenance
    else provenance.create (request.owner caller, request.name)
  | .promote name caller =>
    if (getConnection backend.store name none).isSome then provenance
    else provenance.move (callerUserId caller, name) (none, name)
  | .setApiKey name _ caller =>
    match apiKeySaved name caller backend with
    | some (user, profile) => provenance.save .apiKey user profile
    | none => provenance
  | .oauthCallback code state cookie =>
    match tokenSaved outside code state cookie backend with
    | some (user, profile) => provenance.save .token user profile
    | none => provenance
  | .startup _ | .update _ _ _ | .refresh _ _ | .delete _ _ => provenance

/-- A created connection is a new one. -/
theorem Provenance.after_create {outside : Outside} {backend : Backend} {provenance : Provenance}
    {request : CreateConnectionRequest} {caller : Caller}
    (h : ¬ (getConnection backend.store request.name (request.owner caller)).isSome) :
    provenance.after outside backend (.create request caller) =
      provenance.create (request.owner caller, request.name) := if_neg h

/-! ## The property -/

/-- The credential that is attached to the requests to a server (`_server_config_for`). -/
def McpServerConnectionConfig.Wants (config : McpServerConnectionConfig) : CredentialKind → Prop
  | .apiKey => config.authType ≠ "oauth2"
  | .token => config.authType = "oauth2" ∧ config.requiresOauth = true

/-- The credential that is attached to the requests to a connection. -/
def ConnectionProfile.Wants (profile : ConnectionProfile) (kind : CredentialKind) : Prop :=
  ∃ config, McpServerConnectionConfig.parse profile.config = .ok config ∧ config.Wants kind

/-- What is sent to this connection for this user carries the credential of this kind that the user
has stored under the name of the connection. -/
structure Attaches (members : ConnectionProfile → Prop)
    (holds : CredentialKind → String × String → Prop) (profile : ConnectionProfile) (user : String)
    (kind : CredentialKind) : Prop where
  saved : members profile
  usable : profile.UsableBy user
  wants : profile.Wants kind
  stored : holds kind (user, profile.name)

/-- With these connections and credentials, what is attached was saved by the user while connecting
that connection. -/
def BoundWithin (provenance : Provenance) (members : ConnectionProfile → Prop)
    (holds : CredentialKind → String × String → Prop) : Prop :=
  ∀ profile user kind, Attaches members holds profile user kind →
    provenance.stamp kind (user, profile.name) =
      ⟨user, provenance.identity (profile.userId, profile.name)⟩

/-- Every credential that is attached was saved for the connection it is attached to. -/
def Bound (provenance : Provenance) (backend : Backend) : Prop :=
  BoundWithin provenance (· ∈ backend.store) backend.Holds

/-- Fewer connections and credentials are bound as well. -/
theorem BoundWithin.bound {provenance : Provenance} {members : ConnectionProfile → Prop}
    {holds : CredentialKind → String × String → Prop} {backend : Backend}
    (h : BoundWithin provenance members holds) (hwithin : Within members holds backend) :
    Bound provenance backend :=
  fun profile user kind hattaches => h profile user kind
    ⟨hwithin.store profile hattaches.saved, hattaches.usable, hattaches.wants,
      hwithin.credentials kind _ hattaches.stored⟩

/-! ## Requests that keep credentials bound -/

/-- The condition on a request: a connection is created only where no credential that it would use
is stored, promoted only if no other user has such a credential under its name, and a credential
is saved only if no other connection of the user would use it. After an update a connection uses no
other credential that is stored. -/
def BindingSafe (connectionTypes : ConnectionRegistry) (outside : Outside) (backend : Backend) :
    ConnectionRequest → Prop
  | .create request caller => Accepts connectionTypes request caller backend →
    ∀ config, McpServerConnectionConfig.parse request.config = .ok config →
    ∀ user, request.owner caller = none ∨ request.owner caller = some user →
      (config.authType ≠ "oauth2" → ¬ backend.Holds .apiKey (user, request.name)) ∧
      (config.authType = "oauth2" →
        config.requiresOauth = true ∨ OauthFound outside config (request.saved caller backend) →
        ¬ backend.Holds .token (user, request.name))
  | .promote name caller => (∀ user, caller = some user → user.role = "admin") →
    getConnection backend.store name none = none →
    ∀ profile ∈ backend.store, profile.name = name → profile.userId = callerUserId caller →
    ∀ user kind, callerUserId caller ≠ some user → profile.Wants kind →
      ¬ backend.Holds kind (user, name)
  | .setApiKey name _ caller => ∀ user profile,
    apiKeySaved name caller backend = some (user, profile) →
    ∀ other ∈ backend.store, other.name = name → other.UsableBy user → other.Wants .apiKey →
      other.userId = profile.userId
  | .oauthCallback code state cookie => ∀ user profile,
    tokenSaved outside code state cookie backend = some (user, profile) →
    ∀ other ∈ backend.store, other.name = profile.name → other.UsableBy user →
      other.Wants .token → other.userId = profile.userId
  | .update name config caller => ∀ before ∈ backend.store, before.name = name →
    before.userId = callerUserId caller ∨ before.userId = none →
    ∀ kind, ConnectionProfile.Wants { before with config } kind →
      before.Wants kind ∨ ∀ user, before.UsableBy user → ¬ backend.Holds kind (user, name)
  | .startup _ | .refresh _ _ | .delete _ _ => True

section

variable {connectionTypes : ConnectionRegistry} {outside : Outside} {backend : Backend}
  {provenance : Provenance} {caller : Caller}

/-- A connection is none of those that do not exist. -/
theorem key_ne_of_new {profile : ConnectionProfile} {name : String} {owner : Option String}
    (h : profile ∈ backend.store) (hnone : getConnection backend.store name owner = none) :
    (profile.userId, profile.name) ≠ (owner, name) := by
  intro heq
  have hexists := get_connection_isSome_iff.mpr
    ⟨profile, h, congrArg Prod.snd heq, congrArg Prod.fst heq⟩
  rw [hnone] at hexists
  cases hexists

/-- A created connection uses no credential that is stored. -/
theorem created_not_attached {request : CreateConnectionRequest} {profile : ConnectionProfile}
    {user : String} {kind : CredentialKind}
    (hcreated : IsCreated connectionTypes outside backend request caller profile)
    (hsafe : BindingSafe connectionTypes outside backend (.create request caller))
    (husable : profile.UsableBy user) (hwants : profile.Wants kind) :
    ¬ backend.Holds kind (user, profile.name) := by
  obtain ⟨haccepts, hname, howner, hconfig⟩ := hcreated
  obtain ⟨config, hparse, hwants⟩ := hwants
  unfold ConnectionProfile.UsableBy at husable
  rw [howner] at husable
  rw [hname]
  rcases hconfig with hsame | ⟨read, clientId, clientSecret, hread, hauth, hfound, hoauth⟩
  · rw [hsame] at hparse
    obtain ⟨hapiKey, htoken⟩ := hsafe haccepts config hparse user husable
    cases kind with
    | apiKey => exact hapiKey hwants
    | token => exact htoken hwants.1 (.inl hwants.2)
  · obtain ⟨updated, hupdated, hsameAuth⟩ := parse_oauthConfig hread clientId clientSecret
    rw [hoauth, hupdated] at hparse
    cases hparse
    cases kind with
    | apiKey => exact absurd (hsameAuth.trans hauth) hwants
    | token => exact (hsafe haccepts read hread user husable).2 hauth (.inr hfound)

theorem create_bound {request : CreateConnectionRequest} (hbound : Bound provenance backend)
    (hsafe : BindingSafe connectionTypes outside backend (.create request caller)) :
    BoundWithin (provenance.after outside backend (.create request caller))
      (profilesAfter connectionTypes outside backend (.create request caller))
      (credentialsAfter outside backend (.create request caller)) := by
  intro profile user kind hattaches
  have hstored : backend.Holds kind (user, profile.name) := hattaches.stored.elim id False.elim
  rcases hattaches.saved with hold | hcreated
  · have hstamp := hbound profile user kind
      ⟨hold, hattaches.usable, hattaches.wants, hstored⟩
    show (Provenance.stamp (if _ then _ else _) _ _) =
      ⟨user, Provenance.identity (if _ then _ else _) _⟩
    split
    · exact hstamp
    · rename_i hnew
      show provenance.stamp kind _ = ⟨user, if _ = _ then _ else _⟩
      rw [if_neg (key_ne_of_new hold (Option.not_isSome_iff_eq_none.mp hnew))]
      exact hstamp
  · exact absurd hstored (created_not_attached hcreated hsafe hattaches.usable hattaches.wants)

theorem promote_bound {name : String} (hbound : Bound provenance backend)
    (hsafe : BindingSafe connectionTypes outside backend (.promote name caller)) :
    BoundWithin (provenance.after outside backend (.promote name caller))
      (profilesAfter connectionTypes outside backend (.promote name caller))
      (credentialsAfter outside backend (.promote name caller)) := by
  intro profile user kind hattaches
  have hstored : backend.Holds kind (user, profile.name) := hattaches.stored.elim id False.elim
  show (Provenance.stamp (if _ then _ else _) _ _) =
    ⟨user, Provenance.identity (if _ then _ else _) _⟩
  rcases hattaches.saved with hold | ⟨hnone, hadmin, before, hbefore, rfl, howner, rfl⟩
  · have hstamp := hbound profile user kind
      ⟨hold, hattaches.usable, hattaches.wants, hstored⟩
    split
    · exact hstamp
    · rename_i hnew
      show provenance.stamp kind _ = ⟨user, if _ = _ then _ else _⟩
      rw [if_neg (key_ne_of_new hold (Option.not_isSome_iff_eq_none.mp hnew))]
      exact hstamp
  · have hwants : before.Wants kind := hattaches.wants
    by_cases hcaller : callerUserId caller = some user
    · -- The promoted connection was the caller's own before.
      have hstamp := hbound before user kind
        ⟨hbefore, .inr (howner.trans hcaller), hwants, hstored⟩
      rw [if_neg (by rw [hnone]; exact Bool.false_ne_true)]
      show provenance.stamp kind _ = ⟨user, if (none, before.name) = (none, before.name) then _
        else _⟩
      rw [if_pos rfl, ← howner]
      exact hstamp
    · exact absurd hstored
        (hsafe hadmin hnone before hbefore rfl howner user kind hcaller hwants)

/-- A credential that is saved is that of the connection being connected, if no other connection
uses it. -/
theorem save_bound {kind : CredentialKind} {user : String} {saved : ConnectionProfile}
    {members : ConnectionProfile → Prop} {holds : CredentialKind → String × String → Prop}
    (hbound : Bound provenance backend)
    (hsafe : ∀ other ∈ backend.store, other.name = saved.name → other.UsableBy user →
      other.Wants kind → other.userId = saved.userId)
    (hmembers : ∀ profile, members profile → profile ∈ backend.store)
    (hholds : ∀ other key, holds other key →
      backend.Holds other key ∨ other = kind ∧ key = (user, saved.name)) :
    BoundWithin (provenance.save kind user saved) members holds := by
  intro profile other otherKind hattaches
  have hmember := hmembers profile hattaches.saved
  show (if otherKind = kind ∧ (other, profile.name) = (user, saved.name) then _ else _) = _
  split
  · rename_i hsame
    obtain ⟨rfl, hkey⟩ := hsame
    obtain ⟨rfl, hname⟩ := Prod.mk.inj hkey
    have howner := hsafe profile hmember hname hattaches.usable hattaches.wants
    rw [← howner, ← hname]
    rfl
  · rename_i hother
    have hstored := (hholds otherKind _ hattaches.stored).resolve_right hother
    exact hbound profile other otherKind ⟨hmember, hattaches.usable, hattaches.wants, hstored⟩

/-- Where nothing is saved, credentials stay bound to what is left of the connections. -/
theorem kept_bound {members : ConnectionProfile → Prop}
    {holds : CredentialKind → String × String → Prop} (hbound : Bound provenance backend)
    (hmembers : ∀ profile, members profile → profile ∈ backend.store)
    (hholds : ∀ kind key, holds kind key → backend.Holds kind key) :
    BoundWithin provenance members holds := fun profile user kind h =>
  hbound profile user kind ⟨hmembers profile h.saved, h.usable, h.wants, hholds kind _ h.stored⟩

/-- A credential that is saved, if one is, is bound to the connection it is saved for. -/
theorem saved_bound {kind : CredentialKind} {saved : Option (String × ConnectionProfile)}
    {members : ConnectionProfile → Prop} {holds : CredentialKind → String × String → Prop}
    (hbound : Bound provenance backend)
    (hsafe : ∀ user profile, saved = some (user, profile) → ∀ other ∈ backend.store,
      other.name = profile.name → other.UsableBy user → other.Wants kind →
      other.userId = profile.userId)
    (hmembers : ∀ profile, members profile → profile ∈ backend.store)
    (hholds : ∀ other key, holds other key → backend.Holds other key ∨
      other = kind ∧ ∃ user profile, saved = some (user, profile) ∧ key = (user, profile.name)) :
    BoundWithin (saved.elim provenance fun saved => provenance.save kind saved.1 saved.2) members
      holds := by
  cases saved with
  | none =>
      refine kept_bound hbound hmembers fun other key h => (hholds other key h).resolve_right ?_
      rintro ⟨_, _, _, hnone, _⟩
      cases hnone
  | some saved =>
      obtain ⟨user, profile⟩ := saved
      refine save_bound hbound (hsafe user profile rfl) hmembers fun other key h => ?_
      rcases hholds other key h with hold | ⟨hkind, _, _, hsome, hkey⟩
      · exact .inl hold
      · cases hsome
        exact .inr ⟨hkind, hkey⟩

/-- The API key that is saved is stored under the name of the connection. -/
theorem api_key_saved_name {name user : String} {profile : ConnectionProfile}
    (h : apiKeySaved name caller backend = some (user, profile)) : profile.name = name := by
  unfold apiKeySaved at h
  split at h
  · cases h
  · split at h
    · cases h
    · rename_i hresolve
      split at h
      · cases h
      · split at h
        · cases h
        · split at h
          · cases h
          · cases h
            exact resolve_connection_name hresolve

/-- A request that meets the condition keeps all credentials bound, whatever it has saved. -/
theorem request_bound {request : ConnectionRequest} (hbound : Bound provenance backend)
    (hsafe : BindingSafe connectionTypes outside backend request) :
    BoundWithin (provenance.after outside backend request)
      (profilesAfter connectionTypes outside backend request)
      (credentialsAfter outside backend request) := by
  -- Only the last two requests save a credential.
  cases request with
  | startup | refresh | delete =>
      exact kept_bound hbound (fun _ h => h.elim id False.elim) fun _ _ h => h.elim id False.elim
  | create request caller => exact create_bound hbound hsafe
  | promote name caller => exact promote_bound hbound hsafe
  | update name config caller =>
      intro profile user kind h
      have hstored : backend.Holds kind (user, profile.name) := h.stored.elim id False.elim
      rcases h.saved with hold | ⟨before, hbefore, rfl, howner, rfl⟩
      · exact hbound profile user kind ⟨hold, h.usable, h.wants, hstored⟩
      · rcases hsafe before hbefore rfl howner kind h.wants with hwanted | hunused
        · exact hbound before user kind ⟨hbefore, h.usable, hwanted, hstored⟩
        · exact absurd hstored (hunused user h.usable)
  | setApiKey name apiKey caller =>
      have hafter : provenance.after outside backend (.setApiKey name apiKey caller) =
          (apiKeySaved name caller backend).elim provenance fun saved =>
            provenance.save .apiKey saved.1 saved.2 := by
        rw [Provenance.after]
        cases apiKeySaved name caller backend <;> rfl
      rw [hafter]
      refine saved_bound hbound (fun user profile hsaved other hother hname => ?_)
        (fun profile h => ?_) fun other key h => ?_
      · exact hsafe user profile hsaved other hother (hname.trans (api_key_saved_name hsaved))
      · exact h.elim id False.elim
      · refine h.imp id fun hnew => ?_
        obtain ⟨hkind, user, profile, hsaved, hkey⟩ := hnew
        exact ⟨hkind, user, profile, hsaved, by rw [hkey, api_key_saved_name hsaved]⟩
  | oauthCallback code state cookie =>
      have hafter : provenance.after outside backend (.oauthCallback code state cookie) =
          (tokenSaved outside code state cookie backend).elim provenance fun saved =>
            provenance.save .token saved.1 saved.2 := by
        rw [Provenance.after]
        cases tokenSaved outside code state cookie backend <;> rfl
      rw [hafter]
      refine saved_bound hbound hsafe (fun profile h => ?_) fun other key h => ?_
      · exact h.elim id False.elim
      · exact h

end

/-! ## What is sent -/

/-- The credential that the backend attaches under this user and name: the API key that is stored,
or the token, refreshed if it expires soon. -/
def Presents (outside : Outside) (backend : Backend) (kind : CredentialKind)
    (key : String × String) (credential : String) : Prop :=
  match kind with
  | .apiKey => backend.apiKeys.get? key = some credential
  | .token => ∃ after, (getValidAccessToken outside key.1 key.2).run backend = .ok credential after

/-- What is sent to the server of a connection carries no credential, or one that its user saved
while connecting this connection. -/
def CarriesBound (provenance : Provenance) (outside : Outside) (backend : Backend)
    (profile : ConnectionProfile) (config : McpServerConnectionConfig) (server : McpServerConfig) :
    Prop :=
  server = transportConfig config ∨ ∃ user kind credential,
    server = withBearer (transportConfig config) credential ∧
    Presents outside backend kind (user, profile.name) credential ∧
    provenance.stamp kind (user, profile.name) =
      ⟨user, provenance.identity (profile.userId, profile.name)⟩

section

variable {provenance : Provenance} {outside : Outside} {backend : Backend}

/-- A token that is presented is stored. -/
theorem Presents.holds {kind : CredentialKind} {key : String × String} {credential : String}
    (h : Presents outside backend kind key credential) : backend.Holds kind key := by
  cases kind with
  | apiKey =>
      show (backend.apiKeys.get? key).isSome
      rw [show backend.apiKeys.get? key = some credential from h]
      rfl
  | token =>
      obtain ⟨after, hrun⟩ := h
      show (backend.tokens.get? key).isSome
      cases htoken : backend.tokens.get? key with
      | some row => rfl
      | none =>
          have hraised : ∃ e, (getValidAccessToken outside key.1 key.2).run backend =
              .error e backend := by
            unfold getValidAccessToken
            rw [Stateful.run_get_bind, htoken]
            exact ⟨_, rfl⟩
          obtain ⟨e, hraised⟩ := hraised
          rw [hraised] at hrun
          cases hrun

/-- The server of a connection carries no credential, or the one that this connection wants. -/
theorem server_config_of_presents {config : McpServerConnectionConfig} {connectionName : String}
    {userId : Option String} {server : McpServerConfig} {after : Backend}
    (h : (serverConfigOf outside config connectionName userId).run backend = .ok server after) :
    server = transportConfig config ∨ ∃ user kind credential, userId = some user ∧
      config.Wants kind ∧ server = withBearer (transportConfig config) credential ∧
      Presents outside backend kind (user, connectionName) credential := by
  unfold serverConfigOf at h
  split at h
  · rename_i hauth
    cases userId with
    | none => cases h
    | some user =>
        rw [Stateful.run_get_bind] at h
        cases hkey : backend.apiKeys.get? (user, connectionName) with
        | none =>
            rw [hkey] at h
            cases h
        | some apiKey =>
            rw [hkey] at h
            cases h
            exact .inr ⟨user, .apiKey, apiKey, rfl, hauth, rfl, hkey⟩
  · rename_i hauth
    split at h
    · rename_i hrequires
      cases userId with
      | none => cases h
      | some user =>
          obtain ⟨token, middle, htoken, hserver⟩ := Stateful.run_bind_eq_ok.mp h
          cases hserver
          exact .inr ⟨user, .token, token, rfl, ⟨not_not.mp hauth, hrequires⟩, rfl, _,
            htoken⟩
    · cases h
      exact .inl rfl

/-- Where all credentials are bound, so is what is sent to a connection. -/
theorem sent_bound (hbound : Bound provenance backend) {profile : ConnectionProfile}
    {config : McpServerConnectionConfig} {userId : Option String} {server : McpServerConfig}
    {after : Backend} (hprofile : profile ∈ backend.store)
    (hparse : McpServerConnectionConfig.parse profile.config = .ok config)
    (husable : ∀ user, userId = some user → profile.UsableBy user)
    (hserver : (serverConfigOf outside config profile.name userId).run backend =
      .ok server after) :
    CarriesBound provenance outside backend profile config server := by
  rcases server_config_of_presents hserver with
    hplain | ⟨user, kind, credential, huser, hwants, hbearer, hpresents⟩
  · exact .inl hplain
  · exact .inr ⟨user, kind, credential, hbearer, hpresents, hbound profile user kind
      ⟨hprofile, husable user huser, ⟨config, hparse, hwants⟩, hpresents.holds⟩⟩

end

/-! ## Histories -/

/-- What happens to the backend, each time in a world of its own: a request, or the execution of a
generated node. -/
inductive BindingOperation where
  | serve (request : ConnectionRequest)
  | execute (world : (op : Op) → Res op) (python : Python) (binding : GeneratedBinding)
      (ctx : ExecutionContext)

section

variable (connectionTypes : ConnectionRegistry) (outside : Outside)

/-- The backend and the provenance after an operation. -/
def BindingOperation.after (operation : BindingOperation) (state : Backend × Provenance) :
    Backend × Provenance :=
  match operation with
  | .serve request => (afterRequest connectionTypes outside request state.1,
      state.2.after outside state.1 request)
  | .execute world python binding ctx =>
    ((executeOn outside world python binding ctx state.1).2.2, state.2)

/-- Every credential that an operation attaches was saved for the connection it is sent to. A
request attaches one when it generates node types, and an execution when it calls a tool. -/
def BindingOperation.SendsBound (operation : BindingOperation) (state : Backend × Provenance) :
    Prop :=
  match operation with
  | .serve request => ∀ call failed done middle,
    (endpoint connectionTypes outside request).run state.1 =
      .ok (.generate call failed done) middle →
    ∀ profile config server after,
    getConnection middle.store call.connectionName call.ownerUserId = some profile →
    McpServerConnectionConfig.parse profile.config = .ok config →
    (serverConfigOf outside config call.connectionName
      (call.discoveryUserId.or call.ownerUserId)).run middle = .ok server after →
    CarriesBound (state.2.after outside state.1 request) outside middle profile config server
  | .execute world python binding ctx =>
    ∀ event ∈ (executeOn outside world python binding ctx state.1).1,
    ∀ config server toolName arguments, event.op = .callTool config server toolName arguments →
    ∃ profile, getConnection state.1.store (resolveTarget binding ctx.resources).1
        (resolveTarget binding ctx.resources).2 = some profile ∧
      CarriesBound state.2 outside state.1 profile config server

end

section

variable (connectionTypes : ConnectionRegistry)

/-- The backend and the provenance after a history of operations. -/
def afterBindings (history : List (Outside × BindingOperation)) (start : Backend × Provenance) :
    Backend × Provenance :=
  history.foldl (fun state step => step.2.after connectionTypes step.1 state) start

/-- Every request of the history meets the condition where it is made. -/
def SafeBindings (history : List (Outside × BindingOperation)) (start : Backend × Provenance) :
    Prop :=
  ∀ before outside request after, history = before ++ (outside, .serve request) :: after →
    BindingSafe connectionTypes outside (afterBindings connectionTypes before start).1 request

end

section

variable {connectionTypes : ConnectionRegistry} {outside : Outside}
  {state : Backend × Provenance}

/-- A request that meets the condition sends what is bound. -/
theorem request_sends_bound {request : ConnectionRequest} (hbound : Bound state.2 state.1)
    (hsafe : BindingSafe connectionTypes outside state.1 request) :
    (BindingOperation.serve request).SendsBound connectionTypes outside state := by
  intro call failed done middle hrun profile config server after hprofile hparse hserver
  obtain ⟨hwithin, hproper⟩ := (@endpoint_within connectionTypes outside state.1 request).of_ok hrun
  obtain ⟨hmem, hname, howner⟩ := get_connection_eq_some hprofile
  rw [← hname] at hserver
  refine sent_bound ((request_bound hbound hsafe).bound hwithin) hmem hparse
    (fun user huser => ?_) hserver
  have husable := hproper.2 user huser
  rwa [← howner] at husable

/-- An execution sends what is bound. -/
theorem execution_sends_bound {world : (op : Op) → Res op} {python : Python}
    {binding : GeneratedBinding} {ctx : ExecutionContext} (hbound : Bound state.2 state.1) :
    (BindingOperation.execute world python binding ctx).SendsBound connectionTypes outside
      state := by
  intro event hevent config server toolName arguments hcall
  obtain ⟨profile, after, hprofile, hparse, hserver⟩ := execution_calls hevent hcall
  obtain ⟨hmem, hname, howner⟩ := get_connection_eq_some hprofile
  refine ⟨profile, hprofile, ?_⟩
  rw [← hname] at hserver
  refine sent_bound hbound hmem hparse (fun user huser => ?_) hserver
  unfold tokenUserId at huser
  split at huser
  · rename_i hglobal
    exact .inl hglobal
  · exact .inr (howner.trans huser)

/-- An operation that meets the condition keeps all credentials bound. -/
theorem operation_bound {operation : BindingOperation} (hbound : Bound state.2 state.1)
    (hsafe : ∀ request, operation = .serve request →
      BindingSafe connectionTypes outside state.1 request) :
    Bound (operation.after connectionTypes outside state).2
      (operation.after connectionTypes outside state).1 := by
  cases operation with
  | serve request =>
      exact (request_bound hbound (hsafe request rfl)).bound (after_request_within request)
  | execute world python binding ctx =>
      exact BoundWithin.bound hbound (execution_keeps_within ⟨fun _ h => h, fun _ _ h => h⟩)

/-- After a history whose requests meet the condition, all credentials are bound. -/
theorem history_bound {start : Backend × Provenance} (hstart : Bound start.2 start.1)
    {history : List (Outside × BindingOperation)}
    (hsafe : SafeBindings connectionTypes history start) :
    Bound (afterBindings connectionTypes history start).2
      (afterBindings connectionTypes history start).1 := by
  induction history using List.reverseRecOn with
  | nil => exact hstart
  | append_singleton history step ih =>
      have hbefore := ih fun before outside request after hsplit =>
        hsafe before outside request (after ++ [step]) (by rw [hsplit]; simp)
      unfold afterBindings at hbefore ⊢
      rw [List.foldl_append]
      refine operation_bound hbefore fun request hrequest => ?_
      exact hsafe history step.1 request [] (by rw [← hrequest])

end

/-- From a backend without credentials on, as long as the requests meet the condition, every
credential is sent to the connection only that its user saved it for. -/
theorem credentials_bound (connectionTypes : ConnectionRegistry) (start : Backend)
    (hstart : ∀ kind key, ¬ start.Holds kind key) (history : List (Outside × BindingOperation))
    (hsafe : SafeBindings connectionTypes history (start, .initial))
    (before : List (Outside × BindingOperation)) (outside : Outside)
    (operation : BindingOperation) (after : List (Outside × BindingOperation))
    (hsplit : history = before ++ (outside, operation) :: after) :
    operation.SendsBound connectionTypes outside
      (afterBindings connectionTypes before (start, .initial)) := by
  have hsafeBefore : SafeBindings connectionTypes before (start, .initial) := by
    intro first other request rest hfirst
    refine hsafe first other request (rest ++ (outside, operation) :: after) ?_
    rw [hsplit, hfirst]
    simp
  have hinitial : Bound Provenance.initial start :=
    fun _ _ kind h => absurd h.stored (hstart kind _)
  have hbound : Bound (afterBindings connectionTypes before (start, .initial)).2
      (afterBindings connectionTypes before (start, .initial)).1 :=
    history_bound hinitial hsafeBefore
  cases operation with
  | serve request => exact request_sends_bound hbound (hsafe before outside request after hsplit)
  | execute world python binding ctx => exact execution_sends_bound hbound

/-- A request that saves a trusted server that is reached with an API key. -/
def mailRequest (url : String) : CreateConnectionRequest where
  name := "mail"
  type := "mcp_server"
  config := .ofList [("transport", .str "remote"), ("url", .str url), ("trusted", .bool true),
    ("auth_type", .str "api_key")]

/-- A user connects a server with an API key. -/
def mailConnected : List (Outside × BindingOperation) :=
  [(serving [sendTool], .serve (.create (mailRequest "https://mail.example/mcp") alice)),
    (serving [sendTool], .serve (.setApiKey "mail" "secret" alice))]

/-- The user deletes the connection. -/
def mailDeleted : List (Outside × BindingOperation) :=
  mailConnected ++ [(serving [sendTool], .serve (.delete "mail" alice))]

/-- The user creates the connection again, with another server. -/
def mailRecreated : List (Outside × BindingOperation) :=
  mailDeleted ++
    [(serving [sendTool], .serve (.create (mailRequest "https://other.example/mcp") alice))]

/-- A node of the user that sends a message. -/
def sendMailNode : BindingOperation :=
  .execute (helloAnswers []) plainPython ⟨"mail", sendTool, some "alice"⟩
    { node := { id := "send", type := "mcp__u_alice__mail__send_message" }
      inputs := .dict (.ofList [("text", .str "hi")])
      resources := { runningUserId := some "alice" } }

set_option maxRecDepth 20000 in
/-- The message is sent with an API key that was saved for this server. -/
theorem mail_sent_with_own_key :
    sendMailNode.SendsBound serverTypes (serving [sendTool])
      (afterBindings serverTypes mailConnected (freshBackend [], .initial)) := by
  refine credentials_bound serverTypes (freshBackend []) (fun kind key h => ?_)
    (mailConnected ++ [(serving [sendTool], sendMailNode)])
    (fun before outside request after hsplit =>
      ?_) mailConnected _ _ [] rfl
  · cases kind <;> cases h
  · rcases before with _ | ⟨first, _ | ⟨second, _ | ⟨third, rest⟩⟩⟩
    · obtain ⟨hfirst, _⟩ := List.cons.inj hsplit
      obtain ⟨rfl, hrequest⟩ := Prod.mk.inj hfirst
      obtain rfl := BindingOperation.serve.inj hrequest
      exact fun _ _ _ _ _ => ⟨fun _ h => (by cases h), fun _ _ h => (by cases h)⟩
    · obtain ⟨rfl, hrest⟩ := List.cons.inj hsplit
      obtain ⟨hsecond, _⟩ := List.cons.inj hrest
      obtain ⟨rfl, hrequest⟩ := Prod.mk.inj hsecond
      obtain rfl := BindingOperation.serve.inj hrequest
      intro user profile hsaved other hother _ _ _
      have howner : ∀ other ∈ (afterBindings serverTypes (mailConnected.take 1)
          (freshBackend [], .initial)).1.store, other.userId = some "alice" := by decide +kernel
      have hprofile : (apiKeySaved "mail" alice (afterBindings serverTypes (mailConnected.take 1)
          (freshBackend [], .initial)).1).map (·.2.userId) = some (some "alice") := by
        decide +kernel
      rw [show apiKeySaved "mail" alice (afterBindings serverTypes (mailConnected.take 1)
        (freshBackend [], .initial)).1 = some (user, profile) from hsaved] at hprofile
      exact (howner other hother).trans (Option.some.inj hprofile).symm
    · obtain ⟨_, hrest⟩ := List.cons.inj hsplit
      obtain ⟨hthird, _⟩ := List.cons.inj (List.cons.inj hrest).2
      cases (Prod.mk.inj hthird).2
    · have hlength := congrArg List.length hsplit
      simp [mailConnected] at hlength

/-- The operation attaches a credential to a call. -/
def attachesCredential (event : Event Op Res) : Bool :=
  match event.op with
  | .callTool config server _ _ => server.headers.entries != config.headers.entries
  | _ => false

set_option maxRecDepth 20000 in
/-- Created again, the connection gets the API key of the one that was deleted. -/
theorem recreated_mail_gets_old_key :
    ¬ sendMailNode.SendsBound serverTypes (serving [sendTool])
      (afterBindings serverTypes mailRecreated (freshBackend [], .initial)) := by
  intro h
  have hattached : (executeOn (serving [sendTool]) (helloAnswers []) plainPython
      ⟨"mail", sendTool, some "alice"⟩
      { node := { id := "send", type := "mcp__u_alice__mail__send_message" }
        inputs := .dict (.ofList [("text", .str "hi")])
        resources := { runningUserId := some "alice" } }
      (afterBindings serverTypes mailRecreated (freshBackend [], .initial)).1).1.any
        attachesCredential = true := by decide +kernel
  obtain ⟨event, hevent, hattaches⟩ := List.any_eq_true.mp hattached
  unfold attachesCredential at hattaches
  split at hattaches
  · rename_i config server toolName arguments hcall
    obtain ⟨profile, hprofile, hcarries⟩ := h event hevent _ _ _ _ hcall
    obtain ⟨_, hname, howner⟩ := get_connection_eq_some hprofile
    rcases hcarries with rfl | ⟨user, kind, credential, _, _, hstamp⟩
    · exact absurd rfl (bne_iff_ne.mp hattaches)
    · -- The API key was saved before the connection was created.
      have hcreated : (afterBindings serverTypes mailRecreated (freshBackend [], .initial)).2 =
          (afterBindings serverTypes mailDeleted (freshBackend [], .initial)).2.create
            (some "alice", "mail") := by
        have hnew : ¬ (getConnection (afterBindings serverTypes mailDeleted
            (freshBackend [], .initial)).1.store "mail" (some "alice")).isSome := by decide +kernel
        exact @Provenance.after_create (serving [sendTool]) _ _
          (mailRequest "https://other.example/mcp") alice hnew
      rw [hcreated, hname, howner] at hstamp
      exact Provenance.create_identity_new _ _ kind _ (congrArg Stamp.identity hstamp)
  · cases hattaches

end AgentGraphStudio
