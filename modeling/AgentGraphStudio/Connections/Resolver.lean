import Mathlib.Data.List.Dedup
import AgentGraphStudio.Connections.Store

/-!
# Resolving the connections a graph references

`backend/connections/resolver.py`. A configuration key names a connection when it is
`connection` or ends in `_connection`. The resolver walks the nodes of one graph and does
not look into nested ones, so the keys of its result are exactly the names referenced by the
graph's own nodes: `resolve_connections_keys` and `resolve_connection_profiles_keys`.
-/

namespace AgentGraphStudio

/-- Is this configuration key a connection reference? -/
def isConnectionKey (key : String) : Bool :=
  key = "connection" || "_connection".toList.isSuffixOf key.toList

/-- The connection names in one node's configuration: its string-valued reference keys. -/
def connectionReferenceNames (config : Config) : List String :=
  config.entries.filterMap fun entry => if isConnectionKey entry.1 then entry.2.str? else none

/-- The connection names a graph's own nodes reference, without repetition. -/
def referencedConnectionNames (graph : GraphSpec) : List String :=
  (graph.nodes.flatMap fun node => connectionReferenceNames node.config).dedup

/-- The profile a name stands for in a run: a slot the caller has mapped resolves to the
mapped name, any other name to itself. -/
def resolveSlotAware (store : ConnectionStore) (name : String) (userId : Option String)
    (slotMappings : Dict String String) : Option ConnectionProfile :=
  resolveConnectionForUser store (slotMappings.getD name name) userId

/-- A client built from a profile: the connection type with its validated configuration. -/
structure ConnectionClient where
  type : String
  config : Config

/-- What the connection registry knows about a connection type. A failure of `configModel` stands
also for one of the type's `build_client`, which opens the file of a vector store. -/
structure ConnectionDefinition where
  configModel : Config → Except String Unit
  supportsToolCalling : Bool := false
  supportsEmbedding : Bool := false

/-- The registered connection types. -/
abbrev ConnectionRegistry := Dict String ConnectionDefinition

/-- Why resolution fails. -/
inductive ResolveError where
  | connectionNotFound (name : String)
  | unknownType (name type : String)
  | invalidConfig (message : String)

/-- Validate a profile's configuration and build its client. That a client cannot be built, as when
the file of a vector store cannot be opened, is a failure of `configModel`. -/
def buildClient (registry : ConnectionRegistry) (name : String) (profile : ConnectionProfile) :
    Except ResolveError ConnectionClient :=
  match registry.get? profile.type with
  | none => .error (.unknownType name profile.type)
  | some definition =>
    match definition.configModel profile.config with
    | .error message => .error (.invalidConfig message)
    | .ok () => .ok ⟨profile.type, profile.config⟩

/-- Resolve every name of a list with the given lookup, stopping at the first failure. -/
def resolveNames {α : Type} (lookup : String → Except ResolveError α) :
    List String → Dict String α → Except ResolveError (Dict String α)
  | [], resolved => .ok resolved
  | name :: names, resolved =>
    match lookup name with
    | .error error => .error error
    | .ok value => resolveNames lookup names (resolved.set name value)

/-- The profile of a referenced name, which must exist. -/
def requireProfile (store : ConnectionStore) (userId : Option String)
    (slotMappings : Dict String String) (name : String) :
    Except ResolveError ConnectionProfile :=
  match resolveSlotAware store name userId slotMappings with
  | none => .error (.connectionNotFound name)
  | some profile => .ok profile

/-- A client for every connection the graph references, by the name the graph uses. -/
def resolveConnections (graph : GraphSpec) (store : ConnectionStore)
    (registry : ConnectionRegistry) (userId : Option String)
    (slotMappings : Dict String String) : Except ResolveError (Dict String ConnectionClient) :=
  resolveNames
    (fun name => do
      let profile ← requireProfile store userId slotMappings name
      buildClient registry name profile)
    (referencedConnectionNames graph) .empty

/-- The profile of every connection the graph references, by the name the graph uses. -/
def resolveConnectionProfiles (graph : GraphSpec) (store : ConnectionStore)
    (userId : Option String) (slotMappings : Dict String String) :
    Except ResolveError (Dict String ConnectionProfile) :=
  resolveNames (requireProfile store userId slotMappings) (referencedConnectionNames graph)
    .empty

/-- A referenced name is the text under a reference key. -/
theorem mem_connectionReferenceNames {config : Config} {name : String} :
    name ∈ connectionReferenceNames config ↔
      ∃ key, isConnectionKey key = true ∧ config.get? key = some (.str name) := by
  rw [connectionReferenceNames, List.mem_filterMap]
  constructor
  · rintro ⟨⟨key, json⟩, hentry, hname⟩
    split at hname
    · rename_i hkey
      refine ⟨key, hkey, ?_⟩
      rw [← Dict.mem_entries_iff]
      cases json <;> cases hname
      exact hentry
    · cases hname
  · rintro ⟨key, hkey, hget⟩
    exact ⟨(key, .str name), Dict.mem_entries_iff.mpr hget, by rw [if_pos hkey]; rfl⟩

theorem mem_referencedConnectionNames {graph : GraphSpec} {name : String} :
    name ∈ referencedConnectionNames graph ↔
      ∃ node ∈ graph.nodes, name ∈ connectionReferenceNames node.config := by
  simp [referencedConnectionNames]

/-- Resolution adds exactly the listed names. -/
theorem resolve_names_keys {α : Type} {lookup : String → Except ResolveError α}
    {names : List String} {resolved result : Dict String α}
    (h : resolveNames lookup names resolved = .ok result) (name : String) :
    name ∈ result.keys ↔ name ∈ names ∨ name ∈ resolved.keys := by
  induction names generalizing resolved with
  | nil =>
      cases h
      simp
  | cons head names ih =>
      rw [resolveNames] at h
      split at h
      · cases h
      · rw [ih h, Dict.mem_keys_set, List.mem_cons]
        tauto

/-- A listed name is resolved to what the lookup gives, any other name is left as it was. -/
theorem resolve_names_get? {α : Type} {lookup : String → Except ResolveError α}
    {names : List String} {resolved result : Dict String α}
    (h : resolveNames lookup names resolved = .ok result) (name : String) :
    (name ∈ names → ∃ value, lookup name = .ok value ∧ result.get? name = some value) ∧
      (name ∉ names → result.get? name = resolved.get? name) := by
  induction names generalizing resolved with
  | nil =>
      cases h
      exact ⟨fun hmem => (List.not_mem_nil hmem).elim, fun _ => rfl⟩
  | cons head names ih =>
      rw [resolveNames] at h
      split at h
      · cases h
      rename_i value hlookup
      obtain ⟨hlisted, hother⟩ := ih h
      by_cases hmem : name ∈ names
      · exact ⟨fun _ => hlisted hmem, fun hnot => absurd (List.mem_cons_of_mem _ hmem) hnot⟩
      · refine ⟨fun hcons => ?_, fun hnot => ?_⟩
        · cases (List.mem_cons.mp hcons).resolve_right hmem
          rw [hother hmem, Dict.get?_set_self]
          exact ⟨value, hlookup, rfl⟩
        · rw [hother hmem, Dict.get?_set_of_ne]
          exact fun hsame => hnot (hsame ▸ List.mem_cons_self)

/-- A list is resolved if each of its names is. -/
theorem resolve_names_total {α : Type} {lookup : String → Except ResolveError α}
    {names : List String} (h : ∀ name ∈ names, ∃ value, lookup name = .ok value)
    (resolved : Dict String α) : ∃ result, resolveNames lookup names resolved = .ok result := by
  induction names generalizing resolved with
  | nil => exact ⟨resolved, rfl⟩
  | cons head names ih =>
      obtain ⟨value, hvalue⟩ := h head List.mem_cons_self
      rw [resolveNames, hvalue]
      exact ih (fun name hname => h name (List.mem_cons_of_mem _ hname)) _

theorem require_profile_eq_ok {store : ConnectionStore} {userId : Option String}
    {slotMappings : Dict String String} {name : String} {profile : ConnectionProfile} :
    requireProfile store userId slotMappings name = .ok profile ↔
      resolveSlotAware store name userId slotMappings = some profile := by
  unfold requireProfile
  cases resolveSlotAware store name userId slotMappings <;> simp

theorem build_client_eq_ok {registry : ConnectionRegistry} {name : String}
    {profile : ConnectionProfile} {client : ConnectionClient}
    (h : buildClient registry name profile = .ok client) :
    client = ⟨profile.type, profile.config⟩ := by
  unfold buildClient at h
  split at h
  · cases h
  · split at h <;> cases h
    rfl

/-- A name that the graph references is resolved to the profile that the caller sees under it, and
to the client of that profile. -/
theorem resolved_as_referenced {graph : GraphSpec} {store : ConnectionStore}
    {registry : ConnectionRegistry} {userId : Option String} {slotMappings : Dict String String}
    {connections : Dict String ConnectionClient} {profiles : Dict String ConnectionProfile}
    (hconnections : resolveConnections graph store registry userId slotMappings = .ok connections)
    (hprofiles : resolveConnectionProfiles graph store userId slotMappings = .ok profiles)
    {name : String} (hname : name ∈ referencedConnectionNames graph) :
    ∃ profile, resolveSlotAware store name userId slotMappings = some profile ∧
      profiles.get? name = some profile ∧
      connections.get? name = some ⟨profile.type, profile.config⟩ := by
  obtain ⟨profile, hprofile, hget⟩ := (resolve_names_get? hprofiles name).1 hname
  obtain ⟨client, hclient, hclientGet⟩ := (resolve_names_get? hconnections name).1 hname
  rw [hprofile] at hclient
  rw [build_client_eq_ok hclient] at hclientGet
  exact ⟨profile, require_profile_eq_ok.mp hprofile, hget, hclientGet⟩

/-- The resolved clients are keyed by the graph's own references. -/
theorem resolve_connections_keys {graph : GraphSpec} {store : ConnectionStore}
    {registry : ConnectionRegistry} {userId : Option String}
    {slotMappings : Dict String String} {result : Dict String ConnectionClient}
    (h : resolveConnections graph store registry userId slotMappings = .ok result)
    (name : String) : name ∈ result.keys ↔ name ∈ referencedConnectionNames graph := by
  simp [resolve_names_keys h]

/-- The resolved profiles are keyed by the graph's own references. -/
theorem resolve_connection_profiles_keys {graph : GraphSpec} {store : ConnectionStore}
    {userId : Option String} {slotMappings : Dict String String}
    {result : Dict String ConnectionProfile}
    (h : resolveConnectionProfiles graph store userId slotMappings = .ok result)
    (name : String) : name ∈ result.keys ↔ name ∈ referencedConnectionNames graph := by
  simp [resolve_names_keys h]

end AgentGraphStudio
