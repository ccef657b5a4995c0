import AgentGraphStudio.Connections.Store

/-!
# The mutations of the connection store

`add_connection`, `delete_connection`, `update_connection_config` and `set_connection_owner` of
`backend/connections/store.py` as one operation on the list of profiles, which each of them rewrites
as a whole. `storeView` forgets the order of the list: it is the partial map from owners and names
to profiles that the store stands for, and `view_apply` says that every mutation does to this map
what its purpose is.
-/

namespace AgentGraphStudio

/-- What a mutation raises. -/
inductive StoreError where
  | duplicateConnection (name : String)
  | missingEncryptionKey (reason : String)
  | unreadable (reason : String)
  | unwritable (reason : String)
  deriving DecidableEq

/-- A mutation with its arguments. -/
inductive StoreMutation where
  | add (name typeName : String) (config : Config) (userId : Option String)
  | delete (name : String) (userId : Option String)
  | updateConfig (name : String) (userId : Option String) (config : Config)
  | setOwner (name : String) (currentUserId newUserId : Option String)

/-- What a mutation returns. -/
inductive StoreAnswer where
  | profile (profile : Option ConnectionProfile)
  | deleted (done : Bool)

/-- The mutation has found what it needs. -/
def StoreAnswer.succeeded : StoreAnswer → Bool
  | .profile found => found.isSome
  | .deleted done => done

/-- The profile that is returned and the profiles that are saved, if there are any. -/
def savedAnswer (saved : Option (ConnectionProfile × ConnectionStore)) :
    StoreAnswer × Option ConnectionStore := (.profile (saved.map Prod.fst), saved.map Prod.snd)

/-- What a mutation answers with the profiles before it, and the profiles that it saves, if any. -/
def StoreMutation.change (store : ConnectionStore) :
    StoreMutation → Except StoreError (StoreAnswer × Option ConnectionStore)
  | .add name typeName config userId =>
    (addConnection store name typeName config userId).elim (.error (.duplicateConnection name))
      fun saved => .ok (savedAnswer (some saved))
  | .delete name userId =>
    let remaining := deleteConnection store name userId
    if remaining.length = store.length then .ok (.deleted false, none)
    else .ok (.deleted true, some remaining)
  | .updateConfig name userId config =>
    .ok (savedAnswer (updateConnectionConfig store name userId config))
  | .setOwner name currentUserId newUserId =>
    .ok (savedAnswer (setConnectionOwner store name currentUserId newUserId))

/-- The profiles after a mutation, whether or not it saves any. -/
def StoreMutation.apply (mutation : StoreMutation) (store : ConnectionStore) : ConnectionStore :=
  match mutation.change store with
  | .ok (_, some profiles) => profiles
  | _ => store

/-! ## Profiles under their keys -/

/-- The owner and name of a profile. -/
def ConnectionProfile.key (profile : ConnectionProfile) : ConnectionKey :=
  (profile.userId, profile.name)

/-- No two profiles have the same owner and name. -/
def KeysDistinct (store : ConnectionStore) : Prop := (store.map ConnectionProfile.key).Nodup

/-- The profile that the store has for an owner and name. -/
def storeView (store : ConnectionStore) (key : ConnectionKey) : Option ConnectionProfile :=
  getConnection store key.2 key.1

section

variable {store first last : ConnectionStore} {key : ConnectionKey} {profile : ConnectionProfile}

/-- A profile is found by its key. -/
theorem ConnectionProfile.is_iff_key {name : String} {userId : Option String} :
    profile.is name userId = true ↔ profile.key = (userId, name) := by
  rw [ConnectionProfile.is_iff, ConnectionProfile.key, Prod.mk.injEq, and_comm]

@[simp] theorem store_view_nil : storeView [] key = none := rfl

theorem store_view_append :
    storeView (first ++ last) key = (storeView first key).or (storeView last key) := by
  unfold storeView getConnection
  rw [List.find?_append]

theorem store_view_cons : storeView (profile :: store) key =
    if profile.key = key then some profile else storeView store key := by
  have hkey : (profile.name = key.2 ∧ profile.userId = key.1) ↔ profile.key = key := by
    rw [ConnectionProfile.key, Prod.ext_iff, and_comm]
  unfold storeView getConnection
  rw [List.find?_cons]
  by_cases h : profile.key = key
  · simp [h, hkey.mpr h]
  · have hname : ¬ (profile.name = key.2 ∧ profile.userId = key.1) := fun hends => h (hkey.mp hends)
    simp [h, hname]

theorem store_view_eq_none_iff :
    storeView store key = none ↔ ∀ profile ∈ store, profile.key ≠ key := by
  induction store with
  | nil => simp
  | cons head store ih =>
      rw [store_view_cons, List.forall_mem_cons]
      split
      · rename_i hkey
        simp [hkey]
      · rename_i hkey
        simp [hkey, ih]

/-- What is found under a key has it. -/
theorem key_of_store_view (h : storeView store key = some profile) :
    profile ∈ store ∧ profile.key = key := by
  obtain ⟨hmem, hname, hid⟩ := get_connection_eq_some h
  exact ⟨hmem, Prod.ext hid hname⟩

/-- With distinct keys, the profiles are those that are found under their keys. -/
theorem store_view_eq_some_iff (hdistinct : KeysDistinct store) :
    storeView store key = some profile ↔ profile ∈ store ∧ profile.key = key := by
  refine ⟨key_of_store_view, fun h => ?_⟩
  obtain ⟨hmem, rfl⟩ := h
  induction store with
  | nil => cases hmem
  | cons head store ih =>
      obtain ⟨hhead, hrest⟩ := List.nodup_cons.mp hdistinct
      rw [store_view_cons]
      rcases List.mem_cons.mp hmem with rfl | htail
      · rw [if_pos rfl]
      · have hne : head.key ≠ profile.key := fun hkey =>
          hhead (hkey ▸ List.mem_map_of_mem htail)
        rw [if_neg hne]
        exact ih hrest htail

end

/-! ## What a mutation is for -/

namespace StoreMutation

/-- The owner and name of the profile that a mutation is about. -/
def key : StoreMutation → ConnectionKey
  | add name _ _ userId | delete name userId | updateConfig name userId _ => (userId, name)
  | setOwner name currentUserId _ => (currentUserId, name)

/-- The owner and name under which its profile stands afterwards. -/
def targetKey : StoreMutation → ConnectionKey
  | add name _ _ userId | delete name userId | updateConfig name userId _ => (userId, name)
  | setOwner name _ newUserId => (newUserId, name)

/-- What a mutation makes of its profile. -/
def rewrite : StoreMutation → Option ConnectionProfile → Option ConnectionProfile
  | add name typeName config userId, _ => some { name, type := typeName, config, userId }
  | delete .., _ => none
  | updateConfig _ _ config, old => old.map fun profile => { profile with config }
  | setOwner _ _ newUserId, old => old.map fun profile => { profile with userId := newUserId }

/-- A profile can be added where there is none, and one that is there can be deleted, changed, or
given to an owner who has none of its name. -/
def Possible (view : ConnectionKey → Option ConnectionProfile) (mutation : StoreMutation) : Prop :=
  match mutation with
  | add .. => view mutation.key = none
  | delete .. | updateConfig .. => (view mutation.key).isSome
  | setOwner .. => view mutation.targetKey = none ∧ (view mutation.key).isSome

/-- What a mutation does to the partial map of the profiles. -/
def onView (view : ConnectionKey → Option ConnectionProfile) (mutation : StoreMutation)
    (key : ConnectionKey) : Option ConnectionProfile :=
  if key = mutation.targetKey then mutation.rewrite (view mutation.key)
  else if key = mutation.key then none
  else view key

end StoreMutation

/-! ## How the list of profiles is rewritten -/

section

variable {store result first last : ConnectionStore} {name : String} {userId : Option String}
  {profile : ConnectionProfile} {key : ConnectionKey}

/-- One of these profiles is there if one is found under the key. -/
theorem any_is_iff :
    (store.any fun profile => profile.is name userId) = true ↔
      (storeView store (userId, name)).isSome := by
  show _ ↔ (getConnection store name userId).isSome
  rw [get_connection_isSome_iff, List.any_eq_true]
  exact exists_congr fun profile => and_congr_right fun _ => ConnectionProfile.is_iff

/-- A profile that is changed is changed in its place. -/
theorem change_connection_splits {change : ConnectionProfile → ConnectionProfile}
    (h : changeConnection name userId change store = some (profile, result)) :
    ∃ first old last, store = first ++ old :: last ∧ storeView store (userId, name) = some old ∧
      profile = change old ∧ result = first ++ change old :: last := by
  induction store generalizing result with
  | nil => cases h
  | cons head store ih =>
      unfold changeConnection at h
      rw [store_view_cons]
      split at h
      · rename_i hhead
        cases h
        exact ⟨[], head, store, rfl, if_pos (ConnectionProfile.is_iff_key.mp hhead), rfl, rfl⟩
      · rename_i hhead
        obtain ⟨⟨_, rest⟩, hrest, hresult⟩ := Option.map_eq_some_iff.mp h
        cases hresult
        obtain ⟨first, old, last, rfl, hfound, rfl, rfl⟩ := ih hrest
        have hne : head.key ≠ (userId, name) := fun hkey =>
          hhead (ConnectionProfile.is_iff_key.mpr hkey)
        exact ⟨head :: first, old, last, rfl, by rw [if_neg hne, hfound], rfl, rfl⟩

/-- A profile can be changed exactly if it is found. -/
theorem change_connection_eq_none_iff {change : ConnectionProfile → ConnectionProfile} :
    changeConnection name userId change store = none ↔ storeView store (userId, name) = none := by
  constructor
  · intro h
    by_contra hfound
    obtain ⟨_, _, hchange⟩ := change_connection_exists change (Option.isSome_iff_ne_none.mpr hfound)
    rw [h] at hchange
    cases hchange
  · intro h
    cases hchange : changeConnection name userId change store with
    | none => rfl
    | some answer =>
        obtain ⟨_, _, _, _, hfound, _⟩ := change_connection_splits hchange
        rw [h] at hfound
        cases hfound

/-- Deleting without effect finds nothing to delete. -/
theorem delete_connection_length_iff :
    (deleteConnection store name userId).length = store.length ↔
      storeView store (userId, name) = none := by
  unfold deleteConnection
  rw [List.length_filter_eq_length_iff, store_view_eq_none_iff]
  refine forall₂_congr fun profile _ => ?_
  rw [Bool.not_eq_true', ← Bool.not_eq_true, ConnectionProfile.is_iff_key]

/-- With distinct keys, one profile is deleted. -/
theorem delete_connection_splits (hdistinct : KeysDistinct store)
    (h : storeView store (userId, name) = some profile) :
    ∃ first last, store = first ++ profile :: last ∧
      deleteConnection store name userId = first ++ last := by
  obtain ⟨hmem, hkey⟩ := key_of_store_view h
  obtain ⟨first, last, rfl⟩ := List.append_of_mem hmem
  refine ⟨first, last, rfl, ?_⟩
  have hothers : ∀ other ∈ first ++ last, ! other.is name userId := by
    intro other hother
    rw [Bool.not_eq_true', ← Bool.not_eq_true, ConnectionProfile.is_iff_key, ← hkey]
    intro hsame
    have hperm : (first ++ profile :: last).Perm (profile :: (first ++ last)) := List.perm_middle
    obtain ⟨hfresh, _⟩ := List.nodup_cons.mp
      ((hperm.map ConnectionProfile.key).nodup_iff.mp hdistinct)
    exact hfresh (hsame ▸ List.mem_map_of_mem hother)
  have hself : (! profile.is name userId) = false := by
    rw [Bool.not_eq_false', ConnectionProfile.is_iff_key, hkey]
  unfold deleteConnection
  rw [List.filter_append, List.filter_cons_of_neg (by rw [hself]; decide), ← List.filter_append,
    List.filter_eq_self.mpr hothers]

/-- A profile is added exactly where there is none. -/
theorem add_connection_eq (typeName : String) (config : Config) :
    addConnection store name typeName config userId =
      if (storeView store (userId, name)).isSome then none
      else some (⟨name, typeName, config, userId⟩, store ++ [⟨name, typeName, config, userId⟩]) :=
  if_congr any_is_iff rfl rfl

/-- A profile is given exactly to an owner who has none of its name. -/
theorem set_connection_owner_eq (newUserId : Option String) :
    setConnectionOwner store name userId newUserId =
      if (storeView store (newUserId, name)).isSome then none
      else changeConnection name userId
        (fun profile => { profile with userId := newUserId }) store :=
  if_congr any_is_iff rfl rfl

end

namespace StoreMutation

variable {mutation : StoreMutation} {store : ConnectionStore}

/-- The mutation succeeds: it rewrites its profile, where it stands, and saves the list. -/
def Rewrites (mutation : StoreMutation) (store : ConnectionStore) : Prop :=
  ∃ answer first last, mutation.change store =
      .ok (answer, some
        (first ++ (mutation.rewrite (storeView store mutation.key)).toList ++ last)) ∧
    answer.succeeded ∧ store = first ++ (storeView store mutation.key).toList ++ last

/-- The mutation raises, or finds nothing to do. It saves nothing. -/
def Fails (mutation : StoreMutation) (store : ConnectionStore) : Prop :=
  (∃ e, mutation.change store = .error e) ∨
    ∃ answer, mutation.change store = .ok (answer, none) ∧ answer.succeeded = false

/-- A possible mutation rewrites its profile, and any other fails. -/
theorem change_cases (hdistinct : KeysDistinct store) (mutation : StoreMutation) :
    (mutation.Possible (storeView store) ∧ mutation.Rewrites store) ∨
      (¬ mutation.Possible (storeView store) ∧ mutation.Fails store) := by
  -- What is stored under the target key decides, in each case before anything is changed.
  cases mutation with
  | add name typeName config userId =>
      cases hview : storeView store (userId, name) with
      | none =>
          refine .inl ⟨hview, .profile (some ⟨name, typeName, config, userId⟩), store, [],
            ?_, rfl, ?_⟩
          · rw [change, add_connection_eq, hview, List.append_nil]
            rfl
          · rw [key, hview, List.append_nil]
            exact (List.append_nil store).symm
      | some profile =>
          refine .inr ⟨fun hfree => ?_, .inl ⟨.duplicateConnection name, ?_⟩⟩
          · cases hview.symm.trans hfree
          · rw [change, add_connection_eq, hview]
            rfl
  | delete name userId =>
      cases hview : storeView store (userId, name) with
      | none =>
          refine .inr ⟨fun hfound => ?_, .inr ⟨.deleted false, ?_, rfl⟩⟩
          · exact absurd hview (Option.isSome_iff_ne_none.mp hfound)
          · exact if_pos (delete_connection_length_iff.mpr hview)
      | some profile =>
          have hlength : ¬ (deleteConnection store name userId).length = store.length := by
            rw [delete_connection_length_iff, hview]
            exact Option.some_ne_none profile
          obtain ⟨first, last, hstore, hdelete⟩ := delete_connection_splits hdistinct hview
          refine .inl ⟨Option.isSome_of_eq_some hview, .deleted true, first, last, ?_, rfl, ?_⟩
          · rw [rewrite, Option.toList_none, List.append_nil, ← hdelete]
            exact if_neg hlength
          · rw [key, hview, Option.toList_some, List.append_assoc]
            exact hstore
  | updateConfig name userId config =>
      cases hupdate : changeConnection name userId
        (fun profile => { profile with config }) store with
      | none =>
          have hview := change_connection_eq_none_iff.mp hupdate
          refine .inr ⟨fun hfound => ?_, .inr ⟨.profile none, ?_, rfl⟩⟩
          · exact absurd hview (Option.isSome_iff_ne_none.mp hfound)
          · rw [change, updateConnectionConfig, hupdate]
            rfl
      | some answer =>
          obtain ⟨updated, result⟩ := answer
          obtain ⟨first, old, last, hstore, hview, _, hresult⟩ := change_connection_splits hupdate
          refine .inl ⟨Option.isSome_of_eq_some hview, .profile (some updated), first,
            last, ?_, rfl,
            ?_⟩
          · rw [change, updateConnectionConfig, hupdate, hresult, rewrite, key, hview,
              List.append_assoc]
            rfl
          · rw [key, hview, Option.toList_some, List.append_assoc]
            exact hstore
  | setOwner name currentUserId newUserId =>
      cases htarget : storeView store (newUserId, name) with
      | some profile =>
          refine .inr ⟨fun hfree => ?_, .inr ⟨.profile none, ?_, rfl⟩⟩
          · cases htarget.symm.trans hfree.1
          · rw [change, set_connection_owner_eq, htarget]
            rfl
      | none =>
          cases hmove : changeConnection name currentUserId
              (fun profile => { profile with userId := newUserId }) store with
          | none =>
              have hview := change_connection_eq_none_iff.mp hmove
              refine .inr ⟨fun hfound => ?_, .inr ⟨.profile none, ?_, rfl⟩⟩
              · exact absurd hview (Option.isSome_iff_ne_none.mp hfound.2)
              · rw [change, set_connection_owner_eq, htarget, hmove]
                rfl
          | some answer =>
              obtain ⟨updated, result⟩ := answer
              obtain ⟨first, old, last, hstore, hview, _, hresult⟩ := change_connection_splits hmove
              refine .inl ⟨⟨htarget, Option.isSome_of_eq_some hview⟩,
                .profile (some updated), first,
                last, ?_, rfl, ?_⟩
              · rw [change, set_connection_owner_eq, htarget, hmove, hresult, rewrite, key, hview,
                  List.append_assoc]
                rfl
              · rw [key, hview, Option.toList_some, List.append_assoc]
                exact hstore

/-! ## What a mutation does to the map of the profiles -/

/-- A possible mutation leaves what it rewrites under its target key. -/
theorem key_of_rewrite {new : ConnectionProfile}
    (h : new ∈ mutation.rewrite (storeView store mutation.key)) : new.key = mutation.targetKey := by
  cases mutation with
  | add name typeName config userId =>
      cases h
      rfl
  | delete name userId => cases h
  | updateConfig name userId config =>
      obtain ⟨old, hold, rfl⟩ := Option.map_eq_some_iff.mp h
      exact (key_of_store_view hold).2
  | setOwner name currentUserId newUserId =>
      obtain ⟨old, hold, rfl⟩ := Option.map_eq_some_iff.mp h
      obtain ⟨_, hname⟩ := Prod.mk.inj (key_of_store_view hold).2
      exact congrArg (Prod.mk newUserId) hname

/-- The target key is that of the rewritten profile, or no profile has it. -/
theorem target_key_free (h : mutation.Possible (storeView store)) :
    mutation.targetKey = mutation.key ∨ storeView store mutation.targetKey = none := by
  cases mutation with
  | add | delete | updateConfig => exact .inl rfl
  | setOwner => exact .inr h.1

end StoreMutation

section

variable {store first last : ConnectionStore} {key : ConnectionKey}

/-- At most one profile, as a list, is found under its key. -/
theorem store_view_to_list {found : Option ConnectionProfile} {target : ConnectionKey}
    (h : ∀ profile ∈ found, profile.key = target) :
    storeView found.toList key = if key = target then found else none := by
  cases found with
  | none => simp
  | some profile =>
      rw [Option.toList_some, store_view_cons, store_view_nil, h profile rfl]
      exact if_congr eq_comm rfl rfl

/-- Keys are distinct if those of the rest are, and the profile between has another one. -/
theorem keys_distinct_iff {found : Option ConnectionProfile} :
    KeysDistinct (first ++ found.toList ++ last) ↔ KeysDistinct (first ++ last) ∧
      ∀ profile ∈ found, storeView (first ++ last) profile.key = none := by
  cases found with
  | none => simp
  | some profile =>
      have hperm : (first ++ profile :: last).Perm (profile :: (first ++ last)) := List.perm_middle
      rw [Option.toList_some, List.append_assoc]
      show ((first ++ profile :: last).map ConnectionProfile.key).Nodup ↔ _
      rw [(hperm.map ConnectionProfile.key).nodup_iff, List.map_cons, List.nodup_cons, and_comm]
      refine and_congr_right fun _ => ?_
      simp only [Option.mem_def, Option.some.injEq, forall_eq', store_view_eq_none_iff,
        List.mem_map, not_exists, not_and, ne_eq]

/-- With distinct keys, the rest of the store has no second profile with a key. -/
theorem store_view_rest (hdistinct : KeysDistinct store)
    (hstore : store = first ++ (storeView store key).toList ++ last) :
    storeView first key = none ∧ storeView last key = none := by
  rw [← Option.or_eq_none_iff, ← store_view_append]
  cases hview : storeView store key with
  | none =>
      rw [hview, Option.toList_none, List.append_nil] at hstore
      rw [← hstore, hview]
  | some profile =>
      rw [hstore, keys_distinct_iff] at hdistinct
      have hfree := hdistinct.2 profile hview
      rwa [(key_of_store_view hview).2] at hfree

end

namespace StoreMutation

variable {mutation : StoreMutation} {store : ConnectionStore}

/-- A mutation that fails leaves the profiles. -/
theorem apply_of_fails (h : mutation.Fails store) : mutation.apply store = store := by
  unfold apply
  rcases h with ⟨e, hchange⟩ | ⟨answer, hchange, _⟩ <;> rw [hchange]

/-- A mutation that is not possible leaves the profiles. -/
theorem apply_of_not_possible (hdistinct : KeysDistinct store)
    (h : ¬ mutation.Possible (storeView store)) : mutation.apply store = store := by
  rcases change_cases hdistinct mutation with ⟨hpossible, _⟩ | ⟨_, hfails⟩
  · exact absurd hpossible h
  · exact apply_of_fails hfails

/-- A possible mutation replaces its profile, in its place, by what it makes of it. -/
theorem apply_splits (hdistinct : KeysDistinct store)
    (h : mutation.Possible (storeView store)) :
    ∃ first last, store = first ++ (storeView store mutation.key).toList ++ last ∧
      mutation.apply store =
        first ++ (mutation.rewrite (storeView store mutation.key)).toList ++ last := by
  rcases change_cases hdistinct mutation with ⟨_, hrewrites⟩ | ⟨himpossible, _⟩
  · obtain ⟨answer, first, last, hchange, _, hstore⟩ := hrewrites
    exact ⟨first, last, hstore, by rw [apply, hchange]⟩
  · exact absurd h himpossible

section

variable {first last : ConnectionStore}

/-- No other profile has the target key of a possible mutation. -/
theorem target_rest (hdistinct : KeysDistinct store) (h : mutation.Possible (storeView store))
    (hstore : store = first ++ (storeView store mutation.key).toList ++ last) :
    storeView (first ++ last) mutation.targetKey = none := by
  rw [store_view_append, Option.or_eq_none_iff]
  rcases target_key_free h with hkey | hnone
  · rw [hkey]
    exact store_view_rest hdistinct hstore
  · rw [hstore, store_view_append, store_view_append, Option.or_eq_none_iff,
      Option.or_eq_none_iff] at hnone
    exact ⟨hnone.1.1, hnone.2⟩

end

/-- A possible mutation does to the map of the profiles what it is for. -/
theorem view_apply (hdistinct : KeysDistinct store) (h : mutation.Possible (storeView store)) :
    storeView (mutation.apply store) = mutation.onView (storeView store) := by
  obtain ⟨first, last, hstore, happly⟩ := apply_splits hdistinct h
  obtain ⟨hfirst, hlast⟩ := store_view_rest hdistinct hstore
  have htarget := target_rest hdistinct h hstore
  rw [store_view_append, Option.or_eq_none_iff] at htarget
  have hold : ∀ profile ∈ storeView store mutation.key, profile.key = mutation.key :=
    fun _ hfound => (key_of_store_view hfound).2
  funext key
  rw [happly, store_view_append, store_view_append, store_view_to_list fun _ => key_of_rewrite]
  unfold onView
  by_cases hkey : key = mutation.targetKey
  · rw [if_pos hkey, if_pos hkey, hkey, htarget.1, htarget.2, Option.none_or, Option.or_none]
  · rw [if_neg hkey, if_neg hkey, Option.or_none]
    by_cases hown : key = mutation.key
    · rw [if_pos hown, hown, hfirst, hlast]
      rfl
    · have hother : storeView store key = (storeView first key).or (storeView last key) := by
        rw [hstore, store_view_append, store_view_append, store_view_to_list hold, if_neg hown,
          Option.or_none]
      rw [if_neg hown, hother]

/-- Mutations keep the keys distinct. -/
theorem apply_distinct (hdistinct : KeysDistinct store) (mutation : StoreMutation) :
    KeysDistinct (mutation.apply store) := by
  by_cases h : mutation.Possible (storeView store)
  · obtain ⟨first, last, hstore, happly⟩ := apply_splits hdistinct h
    have htarget := target_rest hdistinct h hstore
    rw [happly, keys_distinct_iff]
    rw [hstore, keys_distinct_iff] at hdistinct
    refine ⟨hdistinct.1, fun new hnew => ?_⟩
    rwa [key_of_rewrite hnew]
  · rw [apply_of_not_possible hdistinct h]
    exact hdistinct

end StoreMutation

end AgentGraphStudio
