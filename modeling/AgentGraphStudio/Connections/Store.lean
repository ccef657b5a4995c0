import AgentGraphStudio.Schema.Models

/-!
# The connection store

`backend/connections/store.py` over the decrypted profile list. A profile without a user id
is global. The exact lookup `getConnection` never crosses scopes
(`get_connection_eq_some`), and `resolveConnectionForUser` prefers the caller's own profile
and falls back to the global one, so it never returns another user's profile
(`resolve_connection_owner`).
-/

namespace AgentGraphStudio

/-- A named connection. Its owner is `none` when it is global. -/
structure ConnectionProfile where
  name : String
  type : String
  config : Config := .empty
  userId : Option String := none

/-- The owner and name of a connection. -/
abbrev ConnectionKey := Option String × String

/-- The contents of the store, in file order. -/
abbrev ConnectionStore := List ConnectionProfile

/-- The profile is global or the user's own. -/
def ConnectionProfile.UsableBy (profile : ConnectionProfile) (userId : String) : Prop :=
  profile.userId = none ∨ profile.userId = some userId

/-- The first profile with exactly this owner and name. -/
def getConnection (store : ConnectionStore) (name : String) (userId : Option String) :
    Option ConnectionProfile :=
  store.find? fun profile => profile.name = name ∧ profile.userId = userId

/-- The caller's own profile of this name, or else the global one. -/
def resolveConnectionForUser (store : ConnectionStore) (name : String)
    (userId : Option String) : Option ConnectionProfile :=
  match userId with
  | none => getConnection store name none
  | some user =>
    match getConnection store name (some user) with
    | some own => some own
    | none => getConnection store name none

/-- What a successful exact lookup returns. -/
theorem get_connection_eq_some {store : ConnectionStore} {name : String}
    {userId : Option String} {profile : ConnectionProfile}
    (h : getConnection store name userId = some profile) :
    profile ∈ store ∧ profile.name = name ∧ profile.userId = userId := by
  have hprop := List.find?_some h
  exact ⟨List.mem_of_find?_eq_some h, by simpa using hprop⟩

/-- A resolved profile is the caller's own or global. -/
theorem resolve_connection_owner {store : ConnectionStore} {name : String}
    {userId : Option String} {profile : ConnectionProfile}
    (h : resolveConnectionForUser store name userId = some profile) :
    profile.userId = none ∨ profile.userId = userId := by
  cases userId with
  | none => exact Or.inl (get_connection_eq_some h).2.2
  | some user =>
      rw [resolveConnectionForUser] at h
      split at h
      · rename_i own hown
        cases h
        exact Or.inr (get_connection_eq_some hown).2.2
      · exact Or.inl (get_connection_eq_some h).2.2

/-- A resolved profile is the one with its owner and name. -/
theorem get_connection_of_resolve {store : ConnectionStore} {name : String}
    {userId : Option String} {profile : ConnectionProfile}
    (h : resolveConnectionForUser store name userId = some profile) :
    getConnection store name profile.userId = some profile := by
  have hexact : ∀ userId, getConnection store name userId = some profile →
      getConnection store name profile.userId = some profile := by
    intro userId hget
    rwa [(get_connection_eq_some hget).2.2]
  cases userId with
  | none => exact hexact none h
  | some user =>
      rw [resolveConnectionForUser] at h
      split at h
      · rename_i own hown
        cases h
        exact hexact (some user) hown
      · exact hexact none h

/-- Whatever resolves without a user also resolves for every user. -/
theorem resolve_connection_isSome_mono {store : ConnectionStore} {name : String}
    (userId : Option String)
    (h : (resolveConnectionForUser store name none).isSome) :
    (resolveConnectionForUser store name userId).isSome := by
  cases userId with
  | none => exact h
  | some user =>
      rw [resolveConnectionForUser]
      split
      · rfl
      · exact h

/-! ## Changing the store -/

/-- Is this the profile with exactly this owner and name? -/
def ConnectionProfile.is (profile : ConnectionProfile) (name : String)
    (userId : Option String) : Bool :=
  profile.name = name ∧ profile.userId = userId

/-- Save a new connection, unless its owner has one of this name. -/
def addConnection (store : ConnectionStore) (name typeName : String) (config : Config)
    (userId : Option String) : Option (ConnectionProfile × ConnectionStore) :=
  if store.any fun profile => profile.is name userId then none
  else
    let profile : ConnectionProfile := { name, type := typeName, config, userId }
    some (profile, store ++ [profile])

/-- Remove a connection. -/
def deleteConnection (store : ConnectionStore) (name : String) (userId : Option String) :
    ConnectionStore :=
  store.filter fun profile => ! profile.is name userId

/-- Change the first profile with this owner and name. -/
def changeConnection (name : String) (userId : Option String)
    (change : ConnectionProfile → ConnectionProfile) :
    ConnectionStore → Option (ConnectionProfile × ConnectionStore)
  | [] => none
  | profile :: store =>
    if profile.is name userId then some (change profile, change profile :: store)
    else (changeConnection name userId change store).map fun (updated, store) =>
      (updated, profile :: store)

/-- Replace the configuration of a connection. -/
def updateConnectionConfig (store : ConnectionStore) (name : String) (userId : Option String)
    (config : Config) : Option (ConnectionProfile × ConnectionStore) :=
  changeConnection name userId (fun profile => { profile with config }) store

/-- Give a connection to another owner, unless that one has a connection of this name. -/
def setConnectionOwner (store : ConnectionStore) (name : String)
    (currentUserId newUserId : Option String) : Option (ConnectionProfile × ConnectionStore) :=
  if store.any fun profile => profile.is name newUserId then none
  else changeConnection name currentUserId
    (fun profile => { profile with userId := newUserId }) store

theorem ConnectionProfile.is_iff {profile : ConnectionProfile} {name : String}
    {userId : Option String} :
    profile.is name userId = true ↔ profile.name = name ∧ profile.userId = userId := by
  simp [ConnectionProfile.is]

/-- A connection exists when some profile has its owner and name. -/
theorem get_connection_isSome_iff {store : ConnectionStore} {name : String}
    {userId : Option String} : (getConnection store name userId).isSome ↔
      ∃ profile ∈ store, profile.name = name ∧ profile.userId = userId := by
  simp [getConnection, List.find?_isSome]

/-- What is saved exists, and all other connections stay. -/
theorem add_connection_isSome_iff {store result : ConnectionStore} {name typeName : String}
    {config : Config} {userId : Option String} {profile : ConnectionProfile}
    (h : addConnection store name typeName config userId = some (profile, result))
    (other : String) (otherId : Option String) :
    (getConnection result other otherId).isSome ↔
      (other = name ∧ otherId = userId) ∨ (getConnection store other otherId).isSome := by
  unfold addConnection at h
  split at h
  · cases h
  · cases h
    simp only [get_connection_isSome_iff, List.mem_append, List.mem_singleton]
    constructor
    · intro hexists
      obtain ⟨found, hmem | rfl, hname, hid⟩ := hexists
      · exact .inr ⟨found, hmem, hname, hid⟩
      · exact .inl ⟨hname.symm, hid.symm⟩
    · intro hexists
      rcases hexists with ⟨rfl, rfl⟩ | ⟨found, hmem, hends⟩
      · exact ⟨_, .inr rfl, rfl, rfl⟩
      · exact ⟨found, .inl hmem, hends⟩

/-- The profile that is saved. -/
theorem add_connection_name {store result : ConnectionStore} {name typeName : String}
    {config : Config} {userId : Option String} {profile : ConnectionProfile}
    (h : addConnection store name typeName config userId = some (profile, result)) :
    profile.name = name := by
  unfold addConnection at h
  split at h
  · cases h
  · cases h
    rfl

/-- A connection can be saved only where there is none. -/
theorem add_connection_new {store result : ConnectionStore} {name typeName : String}
    {config : Config} {userId : Option String} {profile : ConnectionProfile}
    (h : addConnection store name typeName config userId = some (profile, result)) :
    getConnection store name userId = none := by
  unfold addConnection at h
  split at h
  · cases h
  · rename_i hnone
    rw [← Option.not_isSome_iff_eq_none, get_connection_isSome_iff]
    intro hexists
    obtain ⟨found, hmem, hends⟩ := hexists
    exact hnone (List.any_eq_true.mpr ⟨found, hmem, ConnectionProfile.is_iff.mpr hends⟩)

/-- Removing a connection leaves exactly the others. -/
theorem delete_connection_isSome_iff {store : ConnectionStore} {name : String}
    {userId : Option String} (other : String) (otherId : Option String) :
    (getConnection (deleteConnection store name userId) other otherId).isSome ↔
      ¬ (other = name ∧ otherId = userId) ∧ (getConnection store other otherId).isSome := by
  simp only [get_connection_isSome_iff, deleteConnection, List.mem_filter, Bool.not_eq_true',
    ← Bool.not_eq_true, ConnectionProfile.is_iff]
  constructor
  · intro hexists
    obtain ⟨found, ⟨hmem, hne⟩, rfl, rfl⟩ := hexists
    exact ⟨hne, found, hmem, rfl, rfl⟩
  · intro hexists
    obtain ⟨hne, found, hmem, rfl, rfl⟩ := hexists
    exact ⟨found, ⟨hmem, hne⟩, rfl, rfl⟩

/-- A change of one profile leaves the connections of other owners and names. -/
theorem change_connection_isSome {store result : ConnectionStore} {name : String}
    {userId : Option String} {change : ConnectionProfile → ConnectionProfile}
    {profile : ConnectionProfile}
    (h : changeConnection name userId change store = some (profile, result)) {other : String}
    {otherId : Option String} (hne : ¬ (other = name ∧ otherId = userId))
    (hexists : (getConnection store other otherId).isSome) :
    (getConnection result other otherId).isSome := by
  rw [get_connection_isSome_iff] at hexists ⊢
  induction store generalizing result with
  | nil => cases h
  | cons first store ih =>
      obtain ⟨found, hmem, rfl, rfl⟩ := hexists
      unfold changeConnection at h
      split at h
      · rename_i hfirst
        cases h
        rcases List.mem_cons.mp hmem with rfl | hrest
        · exact absurd (ConnectionProfile.is_iff.mp hfirst) hne
        · exact ⟨found, List.mem_cons_of_mem _ hrest, rfl, rfl⟩
      · obtain ⟨⟨_, rest⟩, hrest, hresult⟩ := Option.map_eq_some_iff.mp h
        cases hresult
        rcases List.mem_cons.mp hmem with rfl | hlater
        · exact ⟨found, List.mem_cons_self, rfl, rfl⟩
        · obtain ⟨later, hlaterMem, hends⟩ := ih hrest ⟨found, hlater, rfl, rfl⟩
          exact ⟨later, List.mem_cons_of_mem _ hlaterMem, hends⟩

/-- An existing connection can be changed. -/
theorem change_connection_exists {store : ConnectionStore} {name : String}
    {userId : Option String} (change : ConnectionProfile → ConnectionProfile)
    (h : (getConnection store name userId).isSome) :
    ∃ profile result, changeConnection name userId change store = some (profile, result) := by
  rw [get_connection_isSome_iff] at h
  induction store with
  | nil =>
      obtain ⟨_, hmem, _⟩ := h
      cases hmem
  | cons first store ih =>
      unfold changeConnection
      split
      · exact ⟨_, _, rfl⟩
      · rename_i hfirst
        obtain ⟨found, hmem, hends⟩ := h
        rcases List.mem_cons.mp hmem with rfl | hrest
        · exact absurd (ConnectionProfile.is_iff.mpr hends) hfirst
        · obtain ⟨profile, result, hchange⟩ := ih ⟨found, hrest, hends⟩
          exact ⟨profile, first :: result, by rw [hchange]; rfl⟩

/-- The changed profile is in the store. -/
theorem change_connection_mem {store result : ConnectionStore} {name : String}
    {userId : Option String} {change : ConnectionProfile → ConnectionProfile}
    {profile : ConnectionProfile}
    (h : changeConnection name userId change store = some (profile, result)) :
    profile ∈ result ∧ ∃ before ∈ store, before.name = name ∧ before.userId = userId ∧
      profile = change before := by
  induction store generalizing result with
  | nil => cases h
  | cons first store ih =>
      unfold changeConnection at h
      split at h
      · rename_i hfirst
        cases h
        obtain ⟨hname, hid⟩ := ConnectionProfile.is_iff.mp hfirst
        exact ⟨List.mem_cons_self, first, List.mem_cons_self, hname, hid, rfl⟩
      · obtain ⟨⟨_, rest⟩, hrest, hresult⟩ := Option.map_eq_some_iff.mp h
        cases hresult
        obtain ⟨hmem, before, hbefore, hchange⟩ := ih hrest
        exact ⟨List.mem_cons_of_mem _ hmem, before, List.mem_cons_of_mem _ hbefore, hchange⟩

/-- All profiles but the changed one were there before. -/
theorem change_connection_mem_cases {store result : ConnectionStore} {name : String}
    {userId : Option String} {change : ConnectionProfile → ConnectionProfile}
    {profile other : ConnectionProfile}
    (h : changeConnection name userId change store = some (profile, result))
    (hmem : other ∈ result) : other ∈ store ∨ other = profile := by
  induction store generalizing result with
  | nil => cases h
  | cons first store ih =>
      unfold changeConnection at h
      split at h
      · cases h
        rcases List.mem_cons.mp hmem with hfirst | hrest
        · exact .inr hfirst
        · exact .inl (List.mem_cons_of_mem _ hrest)
      · obtain ⟨⟨_, rest⟩, hrest, hresult⟩ := Option.map_eq_some_iff.mp h
        cases hresult
        rcases List.mem_cons.mp hmem with rfl | hlater
        · exact .inl List.mem_cons_self
        · exact (ih hrest hlater).imp (List.mem_cons_of_mem _) id

/-- A new configuration leaves every connection where it is. -/
theorem update_connection_config_isSome {store result : ConnectionStore} {name : String}
    {userId : Option String} {config : Config} {profile : ConnectionProfile}
    (h : updateConnectionConfig store name userId config = some (profile, result)) {other : String}
    {otherId : Option String} (hexists : (getConnection store other otherId).isSome) :
    (getConnection result other otherId).isSome := by
  by_cases hsame : other = name ∧ otherId = userId
  · obtain ⟨rfl, rfl⟩ := hsame
    obtain ⟨hmem, before, _, rfl, rfl, rfl⟩ := change_connection_mem h
    exact get_connection_isSome_iff.mpr ⟨_, hmem, rfl, rfl⟩
  · exact change_connection_isSome h hsame hexists

/-- Giving a connection away leaves the connections of other owners and names. -/
theorem set_connection_owner_isSome {store result : ConnectionStore} {name : String}
    {currentUserId newUserId : Option String} {profile : ConnectionProfile}
    (h : setConnectionOwner store name currentUserId newUserId = some (profile, result))
    {other : String} {otherId : Option String} (hne : ¬ (other = name ∧ otherId = currentUserId))
    (hexists : (getConnection store other otherId).isSome) :
    (getConnection result other otherId).isSome := by
  unfold setConnectionOwner at h
  split at h
  · cases h
  · exact change_connection_isSome h hne hexists

end AgentGraphStudio
