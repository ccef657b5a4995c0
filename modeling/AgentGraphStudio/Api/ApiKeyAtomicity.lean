import AgentGraphStudio.Api.CreationAtomicity
import AgentGraphStudio.Api.RefreshFreshness

/-!
# A key that does not work

`POST /connections/{name}/api-key` saves the key before it discovers the tools with it, and deletes
it again when the generation fails. A key that was there before is lost with it.
`set_api_key_atomic_iff` says when a request that is answered with an error leaves the caller's
key, the node types and the connections as they were.
-/

namespace AgentGraphStudio

open Stateful (attempt stateOf)

/-! ## The request -/

/-- The request comes to saving a key: this user's, for this connection. -/
structure StoresKey (name : String) (caller : Caller) (backend : Backend) (userId : String)
    (profile : ConnectionProfile) (config : McpServerConnectionConfig) : Prop where
  caller : callerUserId caller = some userId
  resolves : resolveConnectionForUser backend.store name (some userId) = some profile
  server : profile.type = "mcp_server"
  reads : McpServerConnectionConfig.parse profile.config = .ok config
  needsKey : config.authType ≠ "oauth2"

/-- The backend with the new key. -/
def withApiKey (name apiKey userId : String) (backend : Backend) : Backend :=
  { backend with apiKeys := backend.apiKeys.set (userId, name) apiKey }

/-- The backend without the key. -/
def withoutApiKey (name userId : String) (backend : Backend) : Backend :=
  { backend with apiKeys := backend.apiKeys.erase (userId, name) }

/-- If the request is answered with an error, then the caller's key for the connection, the node
types, what is tracked of them and the saved connections are as they were. -/
def ApiKeyAtomic (outside : Outside) (name apiKey : String) (caller : Caller) (backend : Backend) :
    Prop :=
  ∀ e final, (serve outside (setConnectionApiKey name apiKey caller)).run backend =
      .error e final →
    (∀ userId, callerUserId caller = some userId →
      final.apiKeys.get? (userId, name) = backend.apiKeys.get? (userId, name)) ∧
    nodeTypes final = nodeTypes backend ∧ final.store = backend.store

/-- What the server lists for the new key can be registered, or there was no key before and
nothing is registered. -/
structure KeyWorks (outside : Outside) (name apiKey : String) (backend : Backend) (userId : String)
    (profile : ConnectionProfile) (config : McpServerConnectionConfig) : Prop where
  listed : ∀ tools,
    knownTools outside backend (toolListKey (withBearer (transportConfig config) apiKey)) =
      .ok tools →
    NamesFree backend (profile.userId, name) tools ∨
      backend.apiKeys.get? (userId, name) = none ∧
        RefusedAtOnce backend (profile.userId, name) tools
  unlisted : ∀ e,
    knownTools outside backend (toolListKey (withBearer (transportConfig config) apiKey)) =
      .error e →
    backend.apiKeys.get? (userId, name) = none

section

variable {outside : Outside} {name apiKey userId : String} {caller : Caller} {backend : Backend}
  {profile : ConnectionProfile} {config : McpServerConnectionConfig}

/-- A request that does not come to saving a key changes nothing. -/
theorem set_api_key_refused
    (h : ∀ userId profile config, ¬ StoresKey name caller backend userId profile config) :
    ∃ e, (serve outside (setConnectionApiKey name apiKey caller)).run backend =
      .error e backend := by
  unfold serve setConnectionApiKey
  rw [EStateM.run_bind]
  cases hcaller : callerUserId caller with
  | none => exact ⟨_, rfl⟩
  | some userId =>
      dsimp only
      rw [Stateful.run_get_bind]
      cases hresolve : resolveConnectionForUser backend.store name (some userId) with
      | none => exact ⟨_, rfl⟩
      | some profile =>
          dsimp only
          by_cases htype : profile.type = "mcp_server"
          · rw [if_neg (not_not_intro htype)]
            cases hparse : McpServerConnectionConfig.parse profile.config with
            | error e =>
                unfold serverConfig
                rw [hparse]
                exact ⟨_, rfl⟩
            | ok config =>
                rw [EStateM.run_bind, server_config_run hparse]
                dsimp only
                by_cases hauth : config.authType = "oauth2"
                · rw [if_pos hauth]
                  exact ⟨_, rfl⟩
                · exact absurd ⟨hcaller, hresolve, htype, hparse, hauth⟩ (h userId profile config)
          · rw [if_pos htype]
            exact ⟨_, rfl⟩

/-- Otherwise the key is saved and the types are generated with it; if that fails, the key is
deleted. -/
theorem StoresKey.run (h : StoresKey name caller backend userId profile config) :
    ∃ done : List String → Route ConnectionAnswer,
      (∀ created final, ∃ answer, (done created).run final = .ok answer final) ∧
      (serve outside (setConnectionApiKey name apiKey caller)).run backend =
        match (generateNodeTypesForConnection outside name profile.userId (some userId)).run
          (withApiKey name apiKey userId backend) with
        | .ok created result => (done created).run result
        | .error e result => .error ⟨502, s!"Saved, but tool discovery failed: {e}"⟩
          (withoutApiKey name userId result) := by
  refine ⟨fun _ => connectionInfo profile caller, fun _ final =>
    connection_info_run fun _ => ⟨config, h.reads⟩, ?_⟩
  unfold serve setConnectionApiKey
  rw [EStateM.run_bind, h.caller]
  dsimp only
  rw [Stateful.run_get_bind, h.resolves]
  dsimp only
  rw [if_neg (not_not_intro h.server), EStateM.run_bind, server_config_run h.reads]
  dsimp only
  rw [if_neg h.needsKey]
  show EStateM.run (attempt _ >>= _) (withApiKey name apiKey userId backend) = _
  rw [EStateM.run_bind, Stateful.run_attempt]
  cases (generateNodeTypesForConnection outside name profile.userId (some userId)).run
    (withApiKey name apiKey userId backend) <;> rfl

/-- The discovery finds what is known of the server with the new key. -/
theorem StoresKey.discovers (h : StoresKey name caller backend userId profile config) :
    ∃ final, (discoverTools outside name profile.userId (some userId)).run
        (withApiKey name apiKey userId backend) =
      match knownTools outside backend
        (toolListKey (withBearer (transportConfig config) apiKey)) with
      | .ok tools => .ok tools final
      | .error e => .error e final := by
  have hget : getConnection (withApiKey name apiKey userId backend).store name profile.userId =
      some profile := get_connection_of_resolve h.resolves
  have hserver : (serverConfigOf outside config name (some userId)).run
      (withApiKey name apiKey userId backend) =
      .ok (withBearer (transportConfig config) apiKey)
        (withApiKey name apiKey userId backend) := by
    unfold serverConfigOf
    rw [if_pos h.needsKey]
    dsimp only
    rw [Stateful.run_get_bind]
    unfold withApiKey
    rw [Dict.get?_set_self]
    rfl
  obtain ⟨final, hlist⟩ := @list_tools_run outside
    (withBearer (transportConfig config) apiKey) (withApiKey name apiKey userId backend)
  refine ⟨final, ?_⟩
  unfold discoverTools
  rw [Stateful.run_get_bind, hget]
  show EStateM.run (if profile.type ≠ "mcp_server" then _ else _) _ = _
  rw [if_neg (not_not_intro h.server), h.reads, EStateM.run_bind]
  show EStateM.run (serverConfigOf outside config name (some userId) >>= _) _ = _
  rw [EStateM.run_bind, hserver]
  exact hlist

/-! ## When nothing is lost -/

/-- With types generated the request is not answered with an error. -/
theorem StoresKey.atomic_of_generated (h : StoresKey name caller backend userId profile config)
    {created : List String} {result : Backend}
    (hgenerate : (generateNodeTypesForConnection outside name profile.userId (some userId)).run
      (withApiKey name apiKey userId backend) = .ok created result) :
    ApiKeyAtomic outside name apiKey caller backend := by
  obtain ⟨done, hdone, hrun⟩ := @StoresKey.run outside name apiKey _ _ _ _ _ h
  obtain ⟨answer, hanswer⟩ := hdone created result
  rw [hgenerate] at hrun
  dsimp only at hrun
  intro e final hfailed
  rw [hrun, hanswer] at hfailed
  cases hfailed

/-- Without them it leaves everything as it was exactly if there was no key, and the generation
changed no types. -/
theorem StoresKey.atomic_of_failed (h : StoresKey name caller backend userId profile config)
    {e : String} {result : Backend}
    (hgenerate : (generateNodeTypesForConnection outside name profile.userId (some userId)).run
      (withApiKey name apiKey userId backend) = .error e result) :
    ApiKeyAtomic outside name apiKey caller backend ↔
      backend.apiKeys.get? (userId, name) = none ∧ nodeTypes result = nodeTypes backend := by
  obtain ⟨done, _, hrun⟩ := @StoresKey.run outside name apiKey _ _ _ _ _ h
  rw [hgenerate] at hrun
  dsimp only at hrun
  have hkey : (withoutApiKey name userId result).apiKeys.get? (userId, name) = none :=
    Dict.get?_erase_self _ _
  have hstore : result.store = (withApiKey name apiKey userId backend).store :=
    generate_store_frame.of_error hgenerate
  constructor
  · intro hatomic
    obtain ⟨hsame, hnodes, _⟩ := hatomic _ _ hrun
    exact ⟨(hsame userId h.caller).symm.trans hkey, hnodes⟩
  · rintro ⟨hnone, hnodes⟩ e' final hfailed
    cases hrun.symm.trans hfailed
    refine ⟨fun user huser => ?_, hnodes, hstore⟩
    cases h.caller.symm.trans huser
    rw [hkey, hnone]

/-- Nothing is lost exactly if the key works, or there was none. -/
theorem StoresKey.atomic_iff (h : StoresKey name caller backend userId profile config) :
    ApiKeyAtomic outside name apiKey caller backend ↔
      KeyWorks outside name apiKey backend userId profile config := by
  obtain ⟨discovered, hdiscovers⟩ := @StoresKey.discovers outside name apiKey _ _ _ _ _ h
  have hsaved : nodeTypes (withApiKey name apiKey userId backend) = nodeTypes backend := rfl
  cases hknown : knownTools outside backend
      (toolListKey (withBearer (transportConfig config) apiKey)) with
  | error e =>
      rw [hknown] at hdiscovers
      obtain ⟨hgenerate, hnodes⟩ := generate_of_undiscovered hdiscovers
      rw [h.atomic_of_failed hgenerate]
      constructor
      · rintro ⟨hnone, _⟩
        refine ⟨fun tools htools => ?_, fun _ _ => hnone⟩
        cases hknown.symm.trans htools
      · exact fun hworks => ⟨hworks.unlisted e hknown, hnodes⟩
  | ok tools =>
      rw [hknown] at hdiscovers
      obtain ⟨hfree, created, result, hgenerate, _⟩ | ⟨htaken, e, result, hgenerate⟩ :=
        generate_of_discovered hdiscovers
      · refine iff_of_true (h.atomic_of_generated hgenerate) ⟨fun other hother => ?_,
          fun e he => ?_⟩
        · cases hknown.symm.trans hother
          exact .inl ((names_free_congr hsaved).mp hfree)
        · cases hknown.symm.trans he
      · rw [h.atomic_of_failed hgenerate, ← hsaved, generate_error_same_iff hdiscovers hgenerate,
          refused_at_once_congr hsaved]
        constructor
        · intro hrefused
          refine ⟨fun other hother => ?_, fun e he => ?_⟩
          · cases hknown.symm.trans hother
            exact .inr hrefused
          · cases hknown.symm.trans he
        · intro hworks
          refine (hworks.listed tools hknown).resolve_left fun hfree => ?_
          exact htaken ((names_free_congr hsaved).mpr hfree)

end

/-- Setting a key leaves everything as it was when it fails exactly if the key works for what it is
saved for, or there was no key before and no type is changed. -/
theorem set_api_key_atomic_iff (outside : Outside) (name apiKey : String) (caller : Caller)
    (backend : Backend) :
    ApiKeyAtomic outside name apiKey caller backend ↔
      ∀ userId profile config, StoresKey name caller backend userId profile config →
        KeyWorks outside name apiKey backend userId profile config := by
  refine ⟨fun hatomic _ _ _ h => h.atomic_iff.mp hatomic, fun hworks => ?_⟩
  by_cases hstores : ∃ userId profile config, StoresKey name caller backend userId profile config
  · obtain ⟨userId, profile, config, h⟩ := hstores
    exact h.atomic_iff.mpr (hworks userId profile config h)
  · obtain ⟨refusal, hrefused⟩ := @set_api_key_refused outside name apiKey caller backend
      fun userId profile config h => hstores ⟨userId, profile, config, h⟩
    intro e final hfailed
    cases hrefused.symm.trans hfailed
    exact ⟨fun _ _ => rfl, rfl, rfl⟩

/-! ### A mistyped key -/

/-- A server that is reached with an API key. -/
def keyedServer : ConnectionProfile where
  name := "mail"
  type := "mcp_server"
  config := .ofList [("transport", .str "remote"), ("url", .str "https://mail.example/mcp"),
    ("auth_type", .str "api_key")]
  userId := some "alice"

/-- Its owner has saved a key. -/
def keyedBackend : Backend :=
  { freshBackend [keyedServer] with apiKeys := .ofList [(("alice", "mail"), "working key")] }

set_option maxRecDepth 20000 in
/-- A second key that does not work takes the first one with it. -/
theorem mistyped_key_loses_the_first :
    ¬ ApiKeyAtomic unreachable "mail" "mistyped key" alice keyedBackend := by
  intro hatomic
  have hstores : StoresKey "mail" alice keyedBackend "alice" keyedServer _ :=
    ⟨rfl, rfl, rfl, rfl, by decide⟩
  have hnone := (hstores.atomic_iff.mp hatomic).unlisted _ rfl
  revert hnone
  decide

end AgentGraphStudio
