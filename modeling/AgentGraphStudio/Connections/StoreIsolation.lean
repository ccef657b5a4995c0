import AgentGraphStudio.Connections.StoreFile

/-!
# What a user sees of the connection store

`list_connections` and `resolve_connection_for_user` of `backend/connections/store.py` after any
mutations. A user sees the own profiles and the global ones. `connection_store_isolation`: private
mutations of others change nothing that a user sees, as long as the profiles that are moved into or
out of sight meet the same conditions; and what is listed is what resolves.
-/

namespace AgentGraphStudio

/-- A caller's own profiles and the global ones, in file order. -/
def listConnections (store : ConnectionStore) : Option String → ConnectionStore
  | none => store.filter fun profile => profile.userId = none
  | some user => store.filter fun profile => profile.userId = some user ∨ profile.userId = none

/-- The caller sees the profiles of this owner. -/
def SeenBy (caller owner : Option String) : Prop := owner = caller ∨ owner = none

instance (caller owner : Option String) : Decidable (SeenBy caller owner) :=
  inferInstanceAs (Decidable (_ ∨ _))

/-- The profiles after a history of mutations of an empty store. -/
def storeAfter (history : List StoreMutation) : ConnectionStore :=
  History.after StoreMutation.apply history []

/-- That is what the file holds after the history, with a valid key and a disk that takes every
write. -/
theorem file_holds_store_after {Byte : Type} {codec : StoreCodec Byte}
    {environment : Option String} (hfaithful : codec.Faithful) {key : String}
    (hkey : codec.encryptionKey environment = .ok key) (history : List StoreMutation) :
    codec.Holds environment
      (History.after (codec.act environment)
        (history.map fun mutation => ⟨mutation, writable⟩) none)
      (storeAfter history) :=
  after_holds hfaithful hkey ⟨none, rfl⟩ history

namespace StoreMutation

/-- The mutation is about a private profile of somebody else, before and after it. -/
def Private (caller : Option String) (mutation : StoreMutation) : Prop :=
  ¬ SeenBy caller mutation.key.1 ∧ ¬ SeenBy caller mutation.targetKey.1

/-- The mutation moves a private profile of somebody else into the caller's sight. -/
def MovesIntoSight (caller : Option String) (mutation : StoreMutation) : Prop :=
  ¬ SeenBy caller mutation.key.1 ∧ SeenBy caller mutation.targetKey.1

/-- The mutation moves a profile out of the caller's sight. -/
def MovesOutOfSight (caller : Option String) (mutation : StoreMutation) : Prop :=
  SeenBy caller mutation.key.1 ∧ ¬ SeenBy caller mutation.targetKey.1

end StoreMutation

/-- The histories differ only in private mutations of others. -/
inductive DifferPrivately (caller : Option String) :
    List StoreMutation → List StoreMutation → Prop where
  | nil : DifferPrivately caller [] []
  | both (mutation : StoreMutation) {first second : List StoreMutation}
      (h : DifferPrivately caller first second) :
      DifferPrivately caller (mutation :: first) (mutation :: second)
  | left {mutation : StoreMutation} {first second : List StoreMutation}
      (hprivate : mutation.Private caller) (h : DifferPrivately caller first second) :
      DifferPrivately caller (mutation :: first) second
  | right {mutation : StoreMutation} {first second : List StoreMutation}
      (hprivate : mutation.Private caller) (h : DifferPrivately caller first second) :
      DifferPrivately caller first (mutation :: second)

/-- A mutation that crosses the border of the caller's sight meets the same in both stores: what it
moves into sight is the same profile, and what it moves out of sight finds its place taken in both
or in neither. -/
structure CrossesAlike (caller : Option String) (mutation : StoreMutation)
    (first second : ConnectionStore) : Prop where
  into : mutation.MovesIntoSight caller → storeView first mutation.targetKey = none →
    storeView first mutation.key = storeView second mutation.key
  outOf : mutation.MovesOutOfSight caller → (storeView first mutation.key).isSome →
    ((storeView first mutation.targetKey).isSome ↔ (storeView second mutation.targetKey).isSome)

/-- Started in these stores, the histories differ only in private mutations of others, and what
crosses the border of the caller's sight meets the same in both. -/
inductive Aligned (caller : Option String) : ConnectionStore → ConnectionStore →
    List StoreMutation → List StoreMutation → Prop where
  | nil {store store' : ConnectionStore} : Aligned caller store store' [] []
  | both {store store' : ConnectionStore} {mutation : StoreMutation}
      {first second : List StoreMutation} (hcrosses : CrossesAlike caller mutation store store')
      (h : Aligned caller (mutation.apply store) (mutation.apply store') first second) :
      Aligned caller store store' (mutation :: first) (mutation :: second)
  | left {store store' : ConnectionStore} {mutation : StoreMutation}
      {first second : List StoreMutation} (hprivate : mutation.Private caller)
      (h : Aligned caller (mutation.apply store) store' first second) :
      Aligned caller store store' (mutation :: first) second
  | right {store store' : ConnectionStore} {mutation : StoreMutation}
      {first second : List StoreMutation} (hprivate : mutation.Private caller)
      (h : Aligned caller store (mutation.apply store') first second) :
      Aligned caller store store' first (mutation :: second)

/-! ## Listing and resolving -/

section

variable {caller : Option String} {store : ConnectionStore} {profile : ConnectionProfile}
  {name : String}

/-- The profiles that are listed are those whose owner the caller sees. -/
theorem list_connections_eq :
    listConnections store caller = store.filter fun profile => SeenBy caller profile.userId := by
  cases caller with
  | none =>
      refine List.filter_congr fun profile _ => ?_
      simp [SeenBy]
  | some user => rfl

theorem mem_list_connections_iff :
    profile ∈ listConnections store caller ↔ profile ∈ store ∧ SeenBy caller profile.userId := by
  rw [list_connections_eq, List.mem_filter, decide_eq_true_eq]

/-- A name resolves to the caller's own profile, or else to the global one. -/
theorem resolve_connection_eq : resolveConnectionForUser store name caller =
    (storeView store (caller, name)).or (storeView store (none, name)) := by
  cases caller with
  | none =>
      show storeView store (none, name) = _
      rw [Option.or_self]
  | some user =>
      unfold resolveConnectionForUser
      dsimp only
      show _ = (getConnection store name (some user)).or (getConnection store name none)
      cases getConnection store name (some user) <;> rfl

/-- What resolves is listed. -/
theorem resolve_mem_list (h : resolveConnectionForUser store name caller = some profile) :
    profile ∈ listConnections store caller ∧ profile.name = name := by
  rw [resolve_connection_eq, Option.or_eq_some_iff] at h
  rw [mem_list_connections_iff]
  rcases h with hown | ⟨_, hglobal⟩
  · obtain ⟨hmem, hkey⟩ := key_of_store_view hown
    obtain ⟨howner, hname⟩ := Prod.mk.inj hkey
    exact ⟨⟨hmem, .inl howner⟩, hname⟩
  · obtain ⟨hmem, hkey⟩ := key_of_store_view hglobal
    obtain ⟨howner, hname⟩ := Prod.mk.inj hkey
    exact ⟨⟨hmem, .inr howner⟩, hname⟩

/-- With distinct keys, the caller's own profile resolves. -/
theorem resolve_own (hdistinct : KeysDistinct store)
    (hlisted : profile ∈ listConnections store caller) (howner : profile.userId = caller) :
    resolveConnectionForUser store profile.name caller = some profile := by
  have hview : storeView store (caller, profile.name) = some profile :=
    (store_view_eq_some_iff hdistinct).mpr
      ⟨(mem_list_connections_iff.mp hlisted).1, Prod.ext howner rfl⟩
  rw [resolve_connection_eq, hview, Option.some_or]

/-- With distinct keys, the global profile resolves if the caller has none of its name. -/
theorem resolve_global (hdistinct : KeysDistinct store)
    (hlisted : profile ∈ listConnections store caller) (howner : profile.userId = none)
    (hnone : ∀ own ∈ listConnections store caller, own.name = profile.name →
      own.userId ≠ caller) :
    resolveConnectionForUser store profile.name caller = some profile := by
  have hview : storeView store (none, profile.name) = some profile :=
    (store_view_eq_some_iff hdistinct).mpr
      ⟨(mem_list_connections_iff.mp hlisted).1, Prod.ext howner rfl⟩
  rw [resolve_connection_eq, hview]
  cases hown : storeView store (caller, profile.name) with
  | none => rfl
  | some own =>
      obtain ⟨hmem, hkey⟩ := key_of_store_view hown
      obtain ⟨hcaller, hname⟩ := Prod.mk.inj hkey
      have hseen : own ∈ listConnections store caller :=
        mem_list_connections_iff.mpr ⟨hmem, .inl hcaller⟩
      exact absurd hcaller (hnone own hseen hname)

/-- With distinct keys, a name resolves exactly if a profile of this name is listed. -/
theorem resolve_isSome_iff (hdistinct : KeysDistinct store) :
    (resolveConnectionForUser store name caller).isSome ↔
      ∃ profile ∈ listConnections store caller, profile.name = name := by
  constructor
  · intro h
    obtain ⟨profile, hprofile⟩ := Option.isSome_iff_exists.mp h
    exact ⟨profile, resolve_mem_list hprofile⟩
  · intro h
    obtain ⟨profile, hlisted, rfl⟩ := h
    rcases (mem_list_connections_iff.mp hlisted).2 with hown | hglobal
    · rw [resolve_own hdistinct hlisted hown]
      rfl
    · have hview : storeView store (none, profile.name) = some profile :=
        (store_view_eq_some_iff hdistinct).mpr
          ⟨(mem_list_connections_iff.mp hlisted).1, Prod.ext hglobal rfl⟩
      rw [resolve_connection_eq, hview, Option.isSome_or, Option.isSome_some, Bool.or_true]

end

/-! ## Stores that look the same -/

/-- The caller sees the same profiles under all keys. -/
def SameSight (caller : Option String) (first second : ConnectionStore) : Prop :=
  ∀ key : ConnectionKey, SeenBy caller key.1 → storeView first key = storeView second key

section

variable {caller : Option String} {store store' : ConnectionStore} {mutation : StoreMutation}

/-- A mutation is possible or not according to what is under its two keys. -/
theorem StoreMutation.possible_congr {view view' : ConnectionKey → Option ConnectionProfile}
    (hkey : view mutation.key = view' mutation.key)
    (htarget : view mutation.targetKey = view' mutation.targetKey) :
    mutation.Possible view ↔ mutation.Possible view' := by
  cases mutation with
  | add | delete | updateConfig =>
      unfold Possible
      dsimp only
      rw [hkey]
  | setOwner =>
      unfold Possible
      dsimp only
      rw [hkey, htarget]

/-- What a mutation leaves in sight of the caller, wherever it starts. -/
theorem view_apply_seen (hdistinct : KeysDistinct store) (key : ConnectionKey) :
    (¬ mutation.Possible (storeView store) ∧
      storeView (mutation.apply store) key = storeView store key) ∨
    (mutation.Possible (storeView store) ∧
      storeView (mutation.apply store) key = mutation.onView (storeView store) key) := by
  by_cases h : mutation.Possible (storeView store)
  · exact .inr ⟨h, congrFun (StoreMutation.view_apply hdistinct h) key⟩
  · exact .inl ⟨h, by rw [StoreMutation.apply_of_not_possible hdistinct h]⟩

/-- A private mutation of others leaves what the caller sees. -/
theorem same_sight_of_private (hdistinct : KeysDistinct store)
    (hprivate : mutation.Private caller) : SameSight caller (mutation.apply store) store := by
  intro key hseen
  rcases view_apply_seen hdistinct key with ⟨_, hview⟩ | ⟨_, hview⟩
  · exact hview
  · have hkey : key ≠ mutation.key := fun heq => hprivate.1 (heq ▸ hseen)
    have htarget : key ≠ mutation.targetKey := fun heq => hprivate.2 (heq ▸ hseen)
    rw [hview, StoreMutation.onView, if_neg htarget, if_neg hkey]

/-- A mutation that crosses alike is possible in both stores or in neither. -/
theorem possible_iff_of_crosses (hsame : SameSight caller store store')
    (hcrosses : CrossesAlike caller mutation store store')
    (hseen : SeenBy caller mutation.key.1 ∨ SeenBy caller mutation.targetKey.1) :
    mutation.Possible (storeView store) ↔ mutation.Possible (storeView store') := by
  cases mutation with
  | add | delete | updateConfig =>
      have hkey := hsame _ (hseen.elim id id)
      exact StoreMutation.possible_congr hkey hkey
  | setOwner name currentUserId newUserId =>
      generalize hmove : StoreMutation.setOwner name currentUserId newUserId = move at *
      have hpossible : ∀ view : ConnectionKey → Option ConnectionProfile,
          move.Possible view ↔ view move.targetKey = none ∧ (view move.key).isSome := by
        intro view
        rw [← hmove]
        exact Iff.rfl
      rw [hpossible, hpossible]
      by_cases hkeySeen : SeenBy caller move.key.1
      · have hkey := hsame _ hkeySeen
        by_cases htargetSeen : SeenBy caller move.targetKey.1
        · rw [hkey, hsame _ htargetSeen]
        · -- Moved out of sight: the place may be taken only where the caller does not see it.
          have htaken := hcrosses.outOf ⟨hkeySeen, htargetSeen⟩
          rw [← hkey]
          refine and_congr_left fun hfound => ?_
          rw [← Option.not_isSome_iff_eq_none, ← Option.not_isSome_iff_eq_none]
          exact not_congr (htaken hfound)
      · have htargetSeen := hseen.resolve_left hkeySeen
        have htarget := hsame _ htargetSeen
        -- Moved into sight: the profile is one that the caller does not see yet.
        have hmoved := hcrosses.into ⟨hkeySeen, htargetSeen⟩
        rw [← htarget]
        refine and_congr_right fun hfree => ?_
        rw [hmoved hfree]

/-- What a mutation that crosses alike leaves in sight is the same in both stores. -/
theorem rewrite_eq_of_crosses (hsame : SameSight caller store store')
    (hcrosses : CrossesAlike caller mutation store store')
    (hpossible : mutation.Possible (storeView store))
    (htarget : SeenBy caller mutation.targetKey.1) :
    storeView store mutation.key = storeView store' mutation.key := by
  by_cases hkey : SeenBy caller mutation.key.1
  · exact hsame _ hkey
  · rcases StoreMutation.target_key_free hpossible with heq | hfree
    · exact absurd (heq ▸ htarget) hkey
    · exact hcrosses.into ⟨hkey, htarget⟩ hfree

/-- A mutation of both stores keeps them the same in the caller's sight, if it crosses alike. -/
theorem SameSight.apply (hsame : SameSight caller store store') (hdistinct : KeysDistinct store)
    (hdistinct' : KeysDistinct store') (hcrosses : CrossesAlike caller mutation store store') :
    SameSight caller (mutation.apply store) (mutation.apply store') := by
  by_cases hseen : SeenBy caller mutation.key.1 ∨ SeenBy caller mutation.targetKey.1
  · have hiff := possible_iff_of_crosses hsame hcrosses hseen
    by_cases hpossible : mutation.Possible (storeView store)
    · intro key hkey
      rw [StoreMutation.view_apply hdistinct hpossible,
        StoreMutation.view_apply hdistinct' (hiff.mp hpossible)]
      unfold StoreMutation.onView
      by_cases htarget : key = mutation.targetKey
      · rw [if_pos htarget, if_pos htarget,
          rewrite_eq_of_crosses hsame hcrosses hpossible (htarget ▸ hkey)]
      · rw [if_neg htarget, if_neg htarget, hsame key hkey]
    · rw [StoreMutation.apply_of_not_possible hdistinct hpossible,
        StoreMutation.apply_of_not_possible hdistinct' (hiff.not.mp hpossible)]
      exact hsame
  · have hprivate : mutation.Private caller := not_or.mp hseen
    intro key hkey
    rw [same_sight_of_private hdistinct hprivate key hkey,
      same_sight_of_private hdistinct' hprivate key hkey, hsame key hkey]

/-- Stores that look the same list the same profiles. -/
theorem SameSight.list_perm (hsame : SameSight caller store store')
    (hdistinct : KeysDistinct store) (hdistinct' : KeysDistinct store') :
    (listConnections store caller).Perm (listConnections store' caller) := by
  have hnodup : ∀ store : ConnectionStore, KeysDistinct store →
      (listConnections store caller).Nodup := by
    intro store hkeys
    rw [list_connections_eq]
    exact (List.Nodup.of_map _ hkeys).filter _
  rw [List.perm_ext_iff_of_nodup (hnodup store hdistinct) (hnodup store' hdistinct')]
  intro profile
  rw [mem_list_connections_iff, mem_list_connections_iff]
  refine and_congr_left fun hseen => ?_
  have hview := hsame profile.key hseen
  have hfound : ∀ store : ConnectionStore, KeysDistinct store →
      (profile ∈ store ↔ storeView store profile.key = some profile) := by
    intro store hkeys
    rw [store_view_eq_some_iff hkeys]
    exact (and_iff_left rfl).symm
  rw [hfound store hdistinct, hfound store' hdistinct', hview]

/-- Names resolve to the same profiles in stores that look the same. -/
theorem SameSight.resolve_eq (hsame : SameSight caller store store') (name : String) :
    resolveConnectionForUser store name caller = resolveConnectionForUser store' name caller := by
  rw [resolve_connection_eq, resolve_connection_eq, hsame _ (.inl rfl), hsame _ (.inr rfl)]

/-! ## The order of what is listed -/

/-- What becomes of one profile in a possible mutation that adds none. -/
def StoreMutation.rewriteOne (mutation : StoreMutation) (profile : ConnectionProfile) :
    Option ConnectionProfile :=
  if profile.key = mutation.key then mutation.rewrite (some profile) else some profile

/-- A possible mutation adds a profile at the end, or rewrites each profile in its place. -/
theorem apply_eq_rewriteOne (hdistinct : KeysDistinct store)
    (hpossible : mutation.Possible (storeView store)) :
    mutation.apply store = store.filterMap mutation.rewriteOne ++
      (if (storeView store mutation.key).isSome then [] else (mutation.rewrite none).toList) := by
  have hothers : ∀ part : ConnectionStore, storeView part mutation.key = none →
      part.filterMap mutation.rewriteOne = part := by
    intro part hnone
    refine (List.filterMap_congr fun profile hmem => ?_).trans List.filterMap_some
    exact if_neg (store_view_eq_none_iff.mp hnone profile hmem)
  cases hview : storeView store mutation.key with
  | some profile =>
      obtain ⟨first, last, hstore, happly⟩ := StoreMutation.apply_splits hdistinct hpossible
      obtain ⟨hfirst, hlast⟩ := store_view_rest hdistinct hstore
      have hone : mutation.rewriteOne profile = mutation.rewrite (some profile) :=
        if_pos (key_of_store_view hview).2
      rw [hview] at hstore happly
      rw [happly, hstore, List.filterMap_append, List.filterMap_append, hothers first hfirst,
        hothers last hlast, Option.toList_some, List.filterMap_cons, hone, Option.isSome_some,
        if_pos rfl, List.append_nil]
      cases mutation.rewrite (some profile) <;> rfl
  | none =>
      rw [hothers store hview]
      cases mutation with
      | add name typeName config userId =>
          rw [StoreMutation.apply, StoreMutation.change, add_connection_eq]
          rw [StoreMutation.key] at hview
          rw [hview]
          rfl
      | delete | updateConfig => exact absurd hview (Option.isSome_iff_ne_none.mp hpossible)
      | setOwner => exact absurd hview (Option.isSome_iff_ne_none.mp hpossible.2)

/-- What the caller sees of a possible mutation that moves nothing into sight depends on what the
caller sees. -/
theorem list_apply_of_possible (hdistinct : KeysDistinct store)
    (hpossible : mutation.Possible (storeView store))
    (hmoves : ¬ mutation.MovesIntoSight caller) :
    listConnections (mutation.apply store) caller =
      (listConnections store caller).filterMap (fun profile =>
        (mutation.rewriteOne profile).filter fun new => SeenBy caller new.userId) ++
      (if (storeView store mutation.key).isSome then [] else
        (mutation.rewrite none).toList.filter fun new => SeenBy caller new.userId) := by
  have hunseen : ∀ profile ∈ store, ¬ SeenBy caller profile.userId →
      (mutation.rewriteOne profile).filter (fun new => SeenBy caller new.userId) = none := by
    intro profile hmem howner
    rw [Option.filter_eq_none_iff]
    intro new hnew
    rw [decide_eq_true_eq]
    unfold StoreMutation.rewriteOne at hnew
    split at hnew
    · rename_i hkey
      -- The rewritten profile stands under the target key, which the caller does not see either.
      have hview : storeView store mutation.key = some profile :=
        (store_view_eq_some_iff hdistinct).mpr ⟨hmem, hkey⟩
      rw [← hview] at hnew
      have htarget : new.userId = mutation.targetKey.1 :=
        congrArg Prod.fst (StoreMutation.key_of_rewrite hnew)
      have hkeyUnseen : ¬ SeenBy caller mutation.key.1 := by
        rw [← hkey]
        exact howner
      rw [htarget]
      exact fun hseen => hmoves ⟨hkeyUnseen, hseen⟩
    · cases hnew
      exact howner
  rw [list_connections_eq, list_connections_eq, apply_eq_rewriteOne hdistinct hpossible,
    List.filter_append, List.filter_filterMap, List.filterMap_filter]
  congr 1
  · refine List.filterMap_congr fun profile hmem => ?_
    by_cases howner : SeenBy caller profile.userId
    · rw [if_pos (decide_eq_true howner)]
    · rw [if_neg (by simpa using howner), hunseen profile hmem howner]
  · split <;> rfl

/-- A private mutation of others leaves the list that the caller sees. -/
theorem list_apply_of_private (hdistinct : KeysDistinct store)
    (hprivate : mutation.Private caller) :
    listConnections (mutation.apply store) caller = listConnections store caller := by
  by_cases hpossible : mutation.Possible (storeView store)
  · rw [list_apply_of_possible hdistinct hpossible fun hmoves => hprivate.2 hmoves.2]
    have hkept : (listConnections store caller).filterMap (fun profile =>
        (mutation.rewriteOne profile).filter fun new => SeenBy caller new.userId) =
        listConnections store caller := by
      refine (List.filterMap_congr fun profile hlisted => ?_).trans List.filterMap_some
      have hseen := (mem_list_connections_iff.mp hlisted).2
      have hkey : profile.key ≠ mutation.key := fun heq => hprivate.1 (heq ▸ hseen)
      rw [StoreMutation.rewriteOne, if_neg hkey, Option.filter_some, if_pos (decide_eq_true hseen)]
    rw [hkept]
    split
    · exact List.append_nil _
    · rename_i hnone
      have hadded : (mutation.rewrite none).toList.filter
          (fun new => SeenBy caller new.userId) = [] := by
        rw [List.filter_eq_nil_iff]
        intro new hnew
        rw [Option.mem_toList, ← Option.not_isSome_iff_eq_none.mp hnone] at hnew
        have htarget : new.userId = mutation.targetKey.1 :=
          congrArg Prod.fst (StoreMutation.key_of_rewrite hnew)
        rw [decide_eq_true_eq, htarget]
        exact hprivate.2
      rw [hadded, List.append_nil]
  · rw [StoreMutation.apply_of_not_possible hdistinct hpossible]

/-- A mutation that crosses alike, and moves nothing into sight, keeps what is listed the same, in
the same order. -/
theorem list_apply_congr (hsame : SameSight caller store store') (hdistinct : KeysDistinct store)
    (hdistinct' : KeysDistinct store') (hcrosses : CrossesAlike caller mutation store store')
    (hmoves : ¬ mutation.MovesIntoSight caller)
    (hlist : listConnections store caller = listConnections store' caller) :
    listConnections (mutation.apply store) caller =
      listConnections (mutation.apply store') caller := by
  by_cases hseen : SeenBy caller mutation.key.1
  · have hiff := possible_iff_of_crosses hsame hcrosses (.inl hseen)
    by_cases hpossible : mutation.Possible (storeView store)
    · rw [list_apply_of_possible hdistinct hpossible hmoves,
        list_apply_of_possible hdistinct' (hiff.mp hpossible) hmoves, hlist, hsame _ hseen]
    · rw [StoreMutation.apply_of_not_possible hdistinct hpossible,
        StoreMutation.apply_of_not_possible hdistinct' (hiff.not.mp hpossible), hlist]
  · have hprivate : mutation.Private caller := ⟨hseen, fun htarget => hmoves ⟨hseen, htarget⟩⟩
    rw [list_apply_of_private hdistinct hprivate, list_apply_of_private hdistinct' hprivate, hlist]

end

/-! ## Isolation -/

/-- What a caller sees of the store: aligned histories are not told apart, by the list or by any
name, and the order of the list is the same if nothing was moved into sight; and a name resolves
exactly if a profile of this name is listed, the caller's own one before the global one. -/
structure StoreIsolation (caller : Option String) : Prop where
  listed : ∀ first second, Aligned caller [] [] first second →
    (listConnections (storeAfter first) caller).Perm (listConnections (storeAfter second) caller)
  ordered : ∀ first second, Aligned caller [] [] first second →
    (∀ mutation ∈ first, ¬ mutation.MovesIntoSight caller) →
    listConnections (storeAfter first) caller = listConnections (storeAfter second) caller
  resolved : ∀ first second, Aligned caller [] [] first second → ∀ name,
    resolveConnectionForUser (storeAfter first) name caller =
      resolveConnectionForUser (storeAfter second) name caller
  resolves : ∀ history name, (resolveConnectionForUser (storeAfter history) name caller).isSome ↔
    ∃ profile ∈ listConnections (storeAfter history) caller, profile.name = name
  prefersOwn : ∀ history, ∀ profile ∈ listConnections (storeAfter history) caller,
    profile.userId = caller →
    resolveConnectionForUser (storeAfter history) profile.name caller = some profile
  fallsBack : ∀ history, ∀ profile ∈ listConnections (storeAfter history) caller,
    profile.userId = none →
    (∀ own ∈ listConnections (storeAfter history) caller, own.name = profile.name →
      own.userId ≠ caller) →
    resolveConnectionForUser (storeAfter history) profile.name caller = some profile

section

variable {caller : Option String} {store store' : ConnectionStore}
  {first second : List StoreMutation}

/-- Every history leaves distinct keys. -/
theorem after_distinct (hdistinct : KeysDistinct store) (history : List StoreMutation) :
    KeysDistinct (History.after StoreMutation.apply history store) :=
  History.after_of_step (fun _ mutation h => StoreMutation.apply_distinct h mutation) hdistinct

/-- Aligned histories keep stores the same in the caller's sight. -/
theorem Aligned.same_sight (h : Aligned caller store store' first second)
    (hdistinct : KeysDistinct store) (hdistinct' : KeysDistinct store')
    (hsame : SameSight caller store store') :
    SameSight caller (History.after StoreMutation.apply first store)
      (History.after StoreMutation.apply second store') := by
  induction h with
  | nil => exact hsame
  | @both _ _ mutation _ _ hcrosses _ ih =>
      exact ih (StoreMutation.apply_distinct hdistinct mutation)
        (StoreMutation.apply_distinct hdistinct' mutation)
        (hsame.apply hdistinct hdistinct' hcrosses)
  | @left _ _ mutation _ _ hprivate _ ih =>
      refine ih (StoreMutation.apply_distinct hdistinct mutation) hdistinct' fun key hkey => ?_
      rw [same_sight_of_private hdistinct hprivate key hkey, hsame key hkey]
  | @right _ _ mutation _ _ hprivate _ ih =>
      refine ih hdistinct (StoreMutation.apply_distinct hdistinct' mutation) fun key hkey => ?_
      rw [same_sight_of_private hdistinct' hprivate key hkey, hsame key hkey]

/-- Aligned histories that move nothing into sight keep the lists of the caller equal. -/
theorem Aligned.list_eq (h : Aligned caller store store' first second)
    (hmoves : ∀ mutation ∈ first, ¬ mutation.MovesIntoSight caller)
    (hdistinct : KeysDistinct store) (hdistinct' : KeysDistinct store')
    (hsame : SameSight caller store store')
    (hlist : listConnections store caller = listConnections store' caller) :
    listConnections (History.after StoreMutation.apply first store) caller =
      listConnections (History.after StoreMutation.apply second store') caller := by
  induction h with
  | nil => exact hlist
  | @both _ _ mutation _ _ hcrosses _ ih =>
      obtain ⟨hfirst, hrest⟩ := List.forall_mem_cons.mp hmoves
      exact ih hrest (StoreMutation.apply_distinct hdistinct mutation)
        (StoreMutation.apply_distinct hdistinct' mutation)
        (hsame.apply hdistinct hdistinct' hcrosses)
        (list_apply_congr hsame hdistinct hdistinct' hcrosses hfirst hlist)
  | @left _ _ mutation _ _ hprivate _ ih =>
      refine ih (List.forall_mem_cons.mp hmoves).2 (StoreMutation.apply_distinct hdistinct mutation)
        hdistinct' (fun key hkey => ?_) ?_
      · rw [same_sight_of_private hdistinct hprivate key hkey, hsame key hkey]
      · rw [list_apply_of_private hdistinct hprivate, hlist]
  | @right _ _ mutation _ _ hprivate _ ih =>
      refine ih hmoves hdistinct (StoreMutation.apply_distinct hdistinct' mutation)
        (fun key hkey => ?_) ?_
      · rw [same_sight_of_private hdistinct' hprivate key hkey, hsame key hkey]
      · rw [list_apply_of_private hdistinct' hprivate, hlist]

end

/-- The store isolates every caller from the private mutations of others. -/
theorem connection_store_isolation (caller : Option String) : StoreIsolation caller := by
  have hempty : KeysDistinct [] := List.nodup_nil
  have hsame : SameSight caller [] [] := fun _ _ => rfl
  have hafter : ∀ history, KeysDistinct (storeAfter history) := after_distinct hempty
  exact
    { listed := fun first second h =>
        (h.same_sight hempty hempty hsame).list_perm (hafter first) (hafter second)
      ordered := fun first second h hmoves => h.list_eq hmoves hempty hempty hsame rfl
      resolved := fun first second h => (h.same_sight hempty hempty hsame).resolve_eq
      resolves := fun history name => resolve_isSome_iff (hafter history)
      prefersOwn := fun history profile => resolve_own (hafter history)
      fallsBack := fun history profile => resolve_global (hafter history) }

/-! ### A profile that is changed before it is promoted -/

/-- Bob's mail connection is added. -/
def bobAdds : StoreMutation := .add "mail" "smtp" .empty (some "bob")

/-- Bob's mail connection gets another host. -/
def bobChanges : StoreMutation := .updateConfig "mail" (some "bob") (.ofList [("host", .str "h")])

/-- Bob's mail connection is made global. -/
def bobPromotes : StoreMutation := .setOwner "mail" (some "bob") none

/-- Two histories that differ only in a private mutation of Bob's look different to Alice, since the
profile that is promoted differs. -/
theorem promoted_profile_differs :
    DifferPrivately (some "alice") [bobAdds, bobChanges, bobPromotes] [bobAdds, bobPromotes] ∧
    listConnections (storeAfter [bobAdds, bobChanges, bobPromotes]) (some "alice") ≠
      listConnections (storeAfter [bobAdds, bobPromotes]) (some "alice") ∧
    resolveConnectionForUser (storeAfter [bobAdds, bobChanges, bobPromotes]) "mail"
        (some "alice") ≠
      resolveConnectionForUser (storeAfter [bobAdds, bobPromotes]) "mail" (some "alice") := by
  have hprivate : bobChanges.Private (some "alice") := ⟨by decide, by decide⟩
  refine ⟨.both _ (.left hprivate (.both _ .nil)), fun hlists => ?_, fun hresolved => ?_⟩
  · exact absurd (congrArg (List.map ConnectionProfile.config) hlists) (by decide)
  · exact absurd (congrArg (Option.map ConnectionProfile.config) hresolved) (by decide)

end AgentGraphStudio
