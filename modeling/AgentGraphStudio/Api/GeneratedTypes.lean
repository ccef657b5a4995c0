import AgentGraphStudio.Api.Connections

/-!
# Which node types were generated for which connection

The registry, the tracking map and the connection store are changed by every endpoint in its own
way. They agree (`TypesConsistent`) when every generated type is tracked for exactly one connection
that exists, and every tracked type is registered. A request keeps this if its generation does not
stop halfway and it does not promote a connection that has types (`serve_consistent`), so it holds
along every run of such requests (`generated_types_consistent`).
-/

namespace AgentGraphStudio

open Stateful (Ends stateOf)

/-! ## Agreement -/

/-- Is this the name of a generated type? -/
def isGeneratedName (name : String) : Bool := "mcp__".toList.isPrefixOf name.toList

/-- Is there a connection with this owner and name? -/
def hasConnection (backend : Backend) (key : ConnectionKey) : Prop :=
  (getConnection backend.store key.2 key.1).isSome

/-- Every generated type is tracked for exactly one connection that exists, and every tracked type
is registered. -/
structure TypesConsistent (backend : Backend) : Prop where
  tracked : ∀ name, isGeneratedName name → (backend.registry.get name).isSome →
    ∃ key, (∀ other, name ∈ backend.typesOf other ↔ other = key) ∧ hasConnection backend key
  registered : ∀ key, ∀ name ∈ backend.typesOf key, (backend.registry.get name).isSome

/-- Moreover only names of generated types are tracked. -/
structure Consistent (backend : Backend) : Prop extends TypesConsistent backend where
  generated : ∀ key, ∀ name ∈ backend.typesOf key, isGeneratedName name

/-- Every name that a tool gets is the name of a generated type. -/
theorem isGeneratedName_toolTypeName (key : ConnectionKey) (tool : McpToolInfo) :
    isGeneratedName (toolTypeName key tool) := by
  obtain ⟨owner, connectionName⟩ := key
  unfold isGeneratedName toolTypeName typeNameFor
  rw [List.isPrefixOf_iff_prefix]
  cases owner with
  | none =>
      simp only [String.toList_append, List.append_assoc]
      exact List.prefix_append _ _
  | some owner =>
      simp only [String.toList_append, List.append_assoc]
      exact (List.prefix_append ['m', 'c', 'p', '_', '_'] ['u', '_']).trans (List.prefix_append _ _)

section

variable {backend changed result : Backend} {key : ConnectionKey} {tools : List McpToolInfo}

/-- A connection with types exists, and no other connection has its types. -/
theorem Consistent.owner (h : Consistent backend) {name : String}
    (hname : name ∈ backend.typesOf key) :
    (∀ other, name ∈ backend.typesOf other ↔ other = key) ∧ hasConnection backend key := by
  obtain ⟨found, htracked, hexists⟩ :=
    h.tracked name (h.generated key name hname) (h.registered key name hname)
  obtain rfl := (htracked key).mp hname
  exact ⟨htracked, hexists⟩

/-- Agreement depends on the node types and on the connections that have types. -/
theorem Consistent.of_nodeTypes (h : Consistent backend)
    (hnodes : nodeTypes result = nodeTypes backend)
    (hconnections : ∀ key, backend.typesOf key ≠ [] → hasConnection backend key →
      hasConnection result key) : Consistent result := by
  simp only [nodeTypes, Prod.mk.injEq] at hnodes
  obtain ⟨hregistry, htypes, -⟩ := hnodes
  have htypesOf : ∀ key, result.typesOf key = backend.typesOf key := fun key => by
    rw [Backend.typesOf, Backend.typesOf, htypes]
  refine ⟨⟨fun name hgenerated hsome => ?_, fun key name hname => ?_⟩, fun key name hname => ?_⟩
  · rw [hregistry] at hsome
    obtain ⟨key, htracked, hexists⟩ := h.tracked name hgenerated hsome
    refine ⟨key, fun other => by rw [htypesOf, htracked], hconnections key ?_ hexists⟩
    exact List.ne_nil_of_mem ((htracked key).mpr rfl)
  · rw [hregistry]
    rw [htypesOf] at hname
    exact h.registered key name hname
  · rw [htypesOf] at hname
    exact h.generated key name hname

/-- Agreement survives the removal of the types of a connection, and of the connection. -/
theorem Consistent.removed (h : Consistent backend) (hnodes : nodeTypes changed = nodeTypes backend)
    (hconnections : ∀ other, other ≠ key → hasConnection backend other →
      hasConnection changed other)
    (hremoved : Removed changed key result) : Consistent result := by
  simp only [nodeTypes, Prod.mk.injEq] at hnodes
  obtain ⟨hregistry, htypes, -⟩ := hnodes
  have hold : changed.typesOf key = backend.typesOf key := by
    rw [Backend.typesOf, Backend.typesOf, htypes]
  have htypesOf : ∀ other, result.typesOf other =
      if other = key then [] else backend.typesOf other := by
    intro other
    rw [Backend.typesOf, Backend.typesOf, hremoved.generatedTypes, htypes, Dict.getD,
      Dict.get?_erase]
    split <;> rfl
  have hget : ∀ name, result.registry.get name =
      if name ∈ backend.typesOf key then none else backend.registry.get name := by
    intro name
    rw [hremoved.registry, hold, hregistry]
  -- What another connection tracks is not among the removed types.
  have hkept : ∀ other, other ≠ key → ∀ name ∈ backend.typesOf other,
      name ∉ backend.typesOf key := fun other hother name hname hmem =>
    hother (((h.owner hmem).1 other).mp hname)
  refine ⟨⟨fun name hgenerated hsome => ?_, fun other name hname => ?_⟩, fun other name hname => ?_⟩
  · rw [hget] at hsome
    split at hsome
    · cases hsome
    · rename_i hnot
      obtain ⟨found, htracked, hexists⟩ := h.tracked name hgenerated hsome
      have hne : found ≠ key := fun heq => hnot ((htracked key).mpr heq.symm)
      refine ⟨found, fun other => ?_, ?_⟩
      · rw [htypesOf]
        split
        · rename_i hother
          subst hother
          exact ⟨fun hmem => absurd hmem List.not_mem_nil, fun heq => absurd heq.symm hne⟩
        · exact htracked other
      · show (getConnection result.store _ _).isSome
        rw [hremoved.store]
        exact hconnections found hne hexists
  · rw [htypesOf] at hname
    split at hname
    · cases hname
    · rename_i hother
      rw [hget, if_neg (hkept other hother name hname)]
      exact h.registered other name hname
  · rw [htypesOf] at hname
    split at hname
    · cases hname
    · exact h.generated other name hname

/-- Agreement survives the replacement of all types of a connection. -/
theorem Consistent.oneTypePerTool (h : Consistent backend) (hstore : result.store = backend.store)
    (hexists : hasConnection backend key)
    (hnew : OneTypePerTool backend key tools (tools.map (toolTypeName key)) result) :
    Consistent result := by
  have hsame : result.typesOf key = tools.map (toolTypeName key) := by
    rw [Backend.typesOf, Dict.getD, hnew.tracked]
    rfl
  have hothers : ∀ other, other ≠ key → result.typesOf other = backend.typesOf other := by
    intro other hother
    rw [Backend.typesOf, Backend.typesOf, Dict.getD, hnew.otherConnections other hother]
    rfl
  have hconnection : ∀ other, hasConnection backend other → hasConnection result other := by
    intro other hother
    show (getConnection result.store _ _).isSome
    rw [hstore]
    exact hother
  -- The new names are not tracked for other connections.
  have hforeign : ∀ name ∈ tools.map (toolTypeName key), ∀ other, other ≠ key →
      name ∉ backend.typesOf other := by
    intro name hname other hother hmem
    rcases hnew.replaced name hname with hold | hfree
    · exact hother (((h.owner hold).1 other).mp hmem)
    · have hsome := h.registered other name hmem
      rw [hfree] at hsome
      cases hsome
  refine ⟨⟨fun name hgenerated hsome => ?_, fun other name hname => ?_⟩, fun other name hname => ?_⟩
  · by_cases hname : name ∈ tools.map (toolTypeName key)
    · refine ⟨key, fun other => ?_, hconnection key hexists⟩
      by_cases hother : other = key
      · rw [hother, hsame]
        exact ⟨fun _ => rfl, fun _ => hname⟩
      · rw [hothers other hother]
        exact ⟨fun hmem => absurd hmem (hforeign name hname other hother),
          fun heq => absurd heq hother⟩
    · by_cases hold : name ∈ backend.typesOf key
      · rw [hnew.removed name hold hname] at hsome
        cases hsome
      · rw [(hnew.others name hold hname).1] at hsome
        obtain ⟨found, htracked, hfound⟩ := h.tracked name hgenerated hsome
        refine ⟨found, fun other => ?_, hconnection found hfound⟩
        by_cases hother : other = key
        · rw [hother, hsame]
          exact ⟨fun hmem => absurd hmem hname, fun heq => absurd ((htracked key).mpr heq) hold⟩
        · rw [hothers other hother]
          exact htracked other
  · by_cases hother : other = key
    · rw [hother, hsame] at hname
      obtain ⟨tool, htool, rfl⟩ := List.mem_map.mp hname
      rw [hnew.registered tool htool]
      rfl
    · rw [hothers other hother] at hname
      have hnot : name ∉ tools.map (toolTypeName key) := fun hmem =>
        hforeign name hmem other hother hname
      have hkeep : name ∉ backend.typesOf key := fun hmem =>
        hother (((h.owner hmem).1 other).mp hname)
      rw [(hnew.others name hkeep hnot).1]
      exact h.registered other name hname
  · by_cases hother : other = key
    · rw [hother, hsame] at hname
      obtain ⟨tool, _, rfl⟩ := List.mem_map.mp hname
      exact isGeneratedName_toolTypeName key tool
    · rw [hothers other hother] at hname
      exact h.generated other name hname

end

/-! ## A generation -/

/-- No type is registered: a name is a list or an object, or already the type of the first tool is
refused, because something else has its name. -/
def RefusedFirst (backend : Backend) (key : ConnectionKey) (tools : List McpToolInfo) : Prop :=
  ¬ HashableNames tools ∨ ∃ tool rest, tools = tool :: rest ∧
    toolTypeName key tool ∉ backend.typesOf key ∧
    (backend.registry.get (toolTypeName key tool)).isSome

/-- A generation in this state does not stop between two registrations: no tools are discovered,
or all their names are free, or no type is registered. -/
def GenerationClean (outside : Outside) (call : GenerationCall) (backend : Backend) : Prop :=
  ∀ tools discovered, (discoverTools outside call.connectionName call.ownerUserId
    call.discoveryUserId).run backend = .ok tools discovered →
    NamesFree backend call.key tools ∨ RefusedFirst backend call.key tools

section

variable {outside : Outside} {call : GenerationCall} {backend result : Backend}

/-- The old types were removed, and nothing was registered. -/
theorem RefusedFirst.eq_removed {removed : Backend} {key : ConnectionKey}
    {tools : List McpToolInfo} (h : RefusedFirst backend key tools)
    (hremoved : Removed backend key removed)
    (hstops : RegistrationStops removed key tools result) : result = removed := by
  cases hstops with
  | unhashable _ hsame => exact hsame
  | @taken before tool after hnames hsplit hbefore hnone _ =>
      obtain ⟨first, rest, hfirst, hnot, htaken⟩ := h.resolve_left (not_not.mpr hnames)
      cases before with
      | nil => exact hnone rfl
      | cons head before =>
          obtain rfl : head = first := (List.cons.inj (hsplit.symm.trans hfirst)).1
          have hfree := hbefore.free head List.mem_cons_self
          rw [hremoved.registry, if_neg hnot] at hfree
          rw [hfree] at htaken
          cases htaken

/-- A generation that does not stop between two registrations keeps the agreement. If it raises,
no connection has got types that had none. -/
theorem generation_consistent (h : Consistent backend)
    (hclean : GenerationClean outside call backend) :
    Ends (generateNodeTypesForConnection outside call.connectionName call.ownerUserId
        call.discoveryUserId) backend (fun _ => Consistent)
      fun result => Consistent result ∧
        ∀ key, backend.typesOf key = [] → result.typesOf key = [] := by
  unfold generateNodeTypesForConnection
  refine Stateful.ends_bind (Stateful.ends_of_run ?_ ?_)
  · intro tools discovered hdiscover
    have hremoved : Removed backend call.key
        (unregisterForConnection call.connectionName call.ownerUserId discovered) :=
      removed_of_discovered (congrArg stateOf hdiscover)
    have hspec := replace_types_spec call.connectionName call.ownerUserId tools discovered
    refine Stateful.ends_of_run ?_ ?_
    · intro created result hrun
      rw [hrun] at hspec
      obtain ⟨hnames, rfl, registered, hregistered, rfl⟩ := hspec
      refine h.oneTypePerTool ?_ (discover_tools_exists hdiscover)
        (hregistered.oneTypePerTool hremoved hnames)
      exact hregistered.store.trans hremoved.store
    -- A registration was refused: the types before it stay, and so there must be none.
    · intro e result hrun
      rw [hrun] at hspec
      have hnothing : result =
          unregisterForConnection call.connectionName call.ownerUserId discovered := by
        rcases hclean _ _ hdiscover with hfree | hrefused
        · exact absurd hspec (hfree.not_stops hremoved)
        · exact hrefused.eq_removed hremoved hspec
      rw [hnothing]
      refine ⟨h.removed rfl (fun _ _ hother => hother) hremoved, fun key hkey => ?_⟩
      have htypes := hremoved.generatedTypes
      unfold Backend.typesOf Dict.getD at hkey ⊢
      rw [htypes, Dict.get?_erase]
      split
      · rfl
      · exact hkey
  · intro e discovered hdiscover
    obtain ⟨hstore, hnodes⟩ : discovered.store = backend.store ∧
        nodeTypes discovered = nodeTypes backend :=
      discover_tools_keeps (congrArg stateOf hdiscover)
    refine ⟨h.of_nodeTypes hnodes fun key _ hexists => ?_, fun key hkey => ?_⟩
    · show (getConnection discovered.store _ _).isSome
      rw [hstore]
      exact hexists
    · have htypes : discovered.generatedTypes = backend.generatedTypes :=
        congrArg (fun view => view.2.1) hnodes
      unfold Backend.typesOf at hkey ⊢
      rw [htypes, hkey]

end

/-! ## What the parts of the endpoints keep -/

/-- The part of the backend on which the agreement depends. -/
def typesView (backend : Backend) :
    ConnectionStore × NodeRegistry Body × Dict ConnectionKey (List String) × OptionBindings :=
  (backend.store, nodeTypes backend)

/-- Changes of the credentials and of the remembered tool lists keep the agreement. -/
theorem Consistent.of_view {backend result : Backend} (h : Consistent backend)
    (hview : typesView result = typesView backend) : Consistent result := by
  obtain ⟨hstore, hnodes⟩ := Prod.mk.inj hview
  refine h.of_nodeTypes hnodes fun key _ hexists => ?_
  unfold hasConnection
  rw [hstore]
  exact hexists

/-- A computation that leaves the types alone keeps the agreement. -/
theorem ends_of_typesView {ε α : Type} {act : EStateM ε Backend α} {backend : Backend}
    (hframe : Stateful.Frame typesView act) (h : Consistent backend) :
    Ends act backend (fun _ => Consistent) Consistent :=
  hframe.ends fun _ hview => h.of_view hview

section

variable {backend : Backend} {name : String} {owner : Option String}

/-- New connections may be saved as long as those with types stay. -/
theorem save_connections_consistent {store : ConnectionStore} (h : Consistent backend)
    (hstore : ∀ key, backend.typesOf key ≠ [] → hasConnection backend key →
      (getConnection store key.2 key.1).isSome) :
    Ends (saveConnections store) backend (fun _ middle => Consistent middle ∧
      nodeTypes middle = nodeTypes backend) Consistent :=
  Stateful.ends_modify ⟨h.of_nodeTypes rfl hstore, rfl⟩

/-- A connection without types may be removed. -/
theorem drop_connection_consistent (h : Consistent backend)
    (hnone : backend.typesOf (owner, name) = []) :
    Ends (dropConnection name owner) backend (fun _ => Consistent) Consistent := by
  refine Stateful.ends_modify (h.of_nodeTypes rfl fun key htypes hexists => ?_)
  refine (delete_connection_isSome_iff _ _).mpr ⟨fun hsame => htypes ?_, hexists⟩
  rwa [← hsame.1, ← hsame.2] at hnone

/-- The removal of a new connection without types, with an error. -/
theorem drop_and_throw_consistent {α : Type} {error : HttpError} (h : Consistent backend)
    (hnone : backend.typesOf (owner, name) = []) :
    Ends (dropConnection name owner >>= fun _ => (throw error : Route α)) backend
      (fun _ => Consistent) Consistent :=
  Stateful.ends_bind ((drop_connection_consistent h hnone).mono
    (fun _ _ hmiddle => Stateful.ends_throw hmiddle) fun _ hmiddle => hmiddle)

/-- A connection that does not exist has no types. -/
theorem Consistent.no_types (h : Consistent backend)
    (hnone : getConnection backend.store name owner = none) :
    backend.typesOf (owner, name) = [] := by
  refine List.eq_nil_iff_forall_not_mem.mpr fun typeName hmem => ?_
  have hexists : (getConnection backend.store name owner).isSome := (h.owner hmem).2
  rw [hnone] at hexists
  cases hexists

end

/-! ## The endpoints -/

/-- Both answers to a generation keep the agreement. The one after a failure may rely on it that
no connection has got types. -/
def Continuation.Harmless (middle : Backend) : Continuation → Prop
  | .respond _ => True
  | .generate _ failed done =>
    (∀ created backend, Consistent backend →
      Ends (done created) backend (fun _ => Consistent) Consistent) ∧
    ∀ e backend, Consistent backend →
      (∀ key, middle.typesOf key = [] → backend.typesOf key = []) →
      Ends (failed e) backend (fun _ => Consistent) Consistent

/-- The endpoint's own part keeps the agreement, and so do its answers to a generation. -/
def Safe (endpoint : Route Continuation) (backend : Backend) : Prop :=
  Ends endpoint backend (fun next middle => Consistent middle ∧ next.Harmless middle) Consistent

/-- A request to a safe endpoint keeps the agreement, if its generation does not stop between two
registrations. -/
theorem serve_consistent {outside : Outside} {endpoint : Route Continuation} {backend : Backend}
    (hsafe : Safe endpoint backend)
    (hclean : ∀ call failed done middle,
      endpoint.run backend = .ok (.generate call failed done) middle →
      GenerationClean outside call middle) :
    Consistent (stateOf ((serve outside endpoint).run backend)) := by
  refine Ends.stateOf (Stateful.ends_bind (Stateful.ends_of_run (fun next middle hrun => ?_)
    fun e middle hrun => hsafe.of_error hrun))
  obtain ⟨hconsistent, hharmless⟩ := hsafe.of_ok hrun
  cases next with
  | respond answer => exact Stateful.ends_pure hconsistent
  | generate call failed done =>
      have hgeneration := generation_consistent hconsistent (hclean call failed done middle hrun)
      refine Stateful.ends_bind (Stateful.ends_attempt (hgeneration.mono ?_ ?_))
      · intro created result hresult
        exact hharmless.1 created result hresult
      · intro result hresult e
        exact hharmless.2 e result hresult.1 hresult.2

section

variable {connectionTypes : ConnectionRegistry} {outside : Outside} {backend : Backend}
  {profile : ConnectionProfile} {owner : Option String} {caller : Caller}

/-- An answer about a connection. -/
theorem respond_info_safe (h : Consistent backend) :
    Safe (connectionInfo profile caller >>= fun answer => pure (.respond answer)) backend :=
  (connection_info_frame profile caller).ends_bind (fun _ hview => h.of_view hview)
    fun _ _ _ hview => Stateful.ends_pure ⟨h.of_view hview, trivial⟩

/-- A continuation whose answers change nothing on which the agreement depends. -/
theorem generate_safe {call : GenerationCall} {failed : String → Route ConnectionAnswer}
    {done : List String → Route ConnectionAnswer} (h : Consistent backend)
    (hfailed : ∀ e, Stateful.Frame typesView (failed e))
    (hdone : ∀ created, Stateful.Frame typesView (done created)) :
    Safe (pure (.generate call failed done)) backend :=
  Stateful.ends_pure ⟨h, fun created _ hbackend => ends_of_typesView (hdone created) hbackend,
    fun e _ hbackend _ => ends_of_typesView (hfailed e) hbackend⟩

theorem regenerate_on_startup_safe (h : Consistent backend) :
    Safe (regenerateOnStartup profile) backend := by
  unfold regenerateOnStartup
  split
  · exact Stateful.ends_pure ⟨h, trivial⟩
  · refine (startup_user_id_frame profile).ends_bind (fun _ hview => h.of_view hview)
      fun _ middle _ hview => ?_
    exact generate_safe (h.of_view hview) (fun _ => Stateful.frame_pure _)
      fun _ => Stateful.frame_pure _

theorem refresh_capabilities_safe (name : String) (h : Consistent backend) :
    Safe (refreshCapabilities name caller) backend := by
  unfold refreshCapabilities
  refine Stateful.ends_bind (Stateful.ends_get ?_)
  split
  · exact Stateful.ends_throw h
  · split
    · exact Stateful.ends_throw h
    · exact generate_safe h (fun _ => Stateful.frame_throw _) fun _ => Stateful.frame_pure _

theorem set_connection_api_key_safe (name apiKey : String) (h : Consistent backend) :
    Safe (setConnectionApiKey name apiKey caller) backend := by
  unfold setConnectionApiKey
  split
  · exact Stateful.ends_throw h
  · refine Stateful.ends_bind (Stateful.ends_get ?_)
    split
    · exact Stateful.ends_throw h
    · split
      · exact Stateful.ends_throw h
      · refine (server_config_frame _).ends_bind (fun _ hview => h.of_view hview)
          fun config middle _ hview => ?_
        split
        · exact Stateful.ends_throw (h.of_view hview)
        · refine Stateful.ends_bind (Stateful.ends_modify ?_)
          refine generate_safe (h.of_view hview) (fun _ => ?_) fun _ => connection_info_frame _ _
          exact Stateful.frame_bind (Stateful.frame_modify fun _ => rfl) fun _ =>
            Stateful.frame_throw _

theorem oauth_callback_safe (code state : String) (cookie : Option String)
    (h : Consistent backend) :
    Safe (mcpConnectionOauthCallback outside code state cookie) backend := by
  unfold mcpConnectionOauthCallback
  split
  · exact Stateful.ends_throw h
  · split
    · exact Stateful.ends_throw h
    · refine Stateful.ends_bind (Stateful.ends_get ?_)
      split
      · exact Stateful.ends_pure ⟨h, trivial⟩
      · refine (server_config_frame _).ends_bind (fun _ hview => h.of_view hview)
          fun config middle _ hview => ?_
        refine (store_oauth_token_frame (fun _ _ => rfl) code _ config).ends_bind
          (fun _ hstored => (h.of_view hview).of_view hstored) fun stored final _ hstored => ?_
        have hfinal : Consistent final := (h.of_view hview).of_view hstored
        split
        · exact Stateful.ends_pure ⟨hfinal, trivial⟩
        · exact generate_safe hfinal (fun _ => Stateful.frame_pure _) fun _ =>
            Stateful.frame_pure _

theorem update_connection_safe (name : String) (config : Config) (h : Consistent backend) :
    Safe (updateConnection connectionTypes name config caller) backend := by
  unfold updateConnection
  refine Stateful.ends_bind (Stateful.ends_get (Stateful.ends_bind (Stateful.ends_get ?_)))
  split
  · exact Stateful.ends_throw h
  · refine (require_admin_for_frame _ caller).ends_bind (fun _ hview => h.of_view hview)
      fun _ middle _ hview => ?_
    have hmiddle : Consistent middle := h.of_view hview
    split
    · exact Stateful.ends_throw hmiddle
    · split
      · exact Stateful.ends_throw hmiddle
      · refine Stateful.ends_bind (Stateful.ends_get ?_)
        split
        · exact Stateful.ends_throw hmiddle
        · rename_i updated store hupdate
          refine Stateful.ends_bind ((save_connections_consistent hmiddle fun key _ hexists =>
            update_connection_config_isSome hupdate hexists).mono (fun _ _ hsaved => ?_)
            fun _ hsaved => hsaved)
          exact respond_info_safe hsaved.1

/-- Deleting a connection removes its types with it. -/
theorem delete_connection_safe (name : String) (h : Consistent backend) :
    Safe (deleteConnectionEndpoint name caller) backend := by
  unfold deleteConnectionEndpoint
  refine Stateful.ends_bind (Stateful.ends_get ?_)
  split
  · exact Stateful.ends_throw h
  · rename_i profile hprofile
    refine (require_admin_for_frame _ caller).ends_bind (fun _ hview => h.of_view hview)
      fun _ middle _ hview => ?_
    have hmiddle : Consistent middle := h.of_view hview
    refine Stateful.ends_bind (Stateful.ends_modify (Stateful.ends_bind (Stateful.ends_modify ?_)))
    -- Between the two the types of the deleted connection are tracked for nothing.
    have hremoved : Consistent (unregisterForConnection name profile.userId
        { middle with store := deleteConnection middle.store name profile.userId }) := by
      refine @Consistent.removed middle
        { middle with store := deleteConnection middle.store name profile.userId } _
        (profile.userId, name) hmiddle rfl (fun other hother hexists => ?_)
        unregister_for_connection_spec
      refine (delete_connection_isSome_iff _ _).mpr ⟨fun hsame => hother ?_, hexists⟩
      exact Prod.ext hsame.2 hsame.1
    exact (drop_token_frame (fun _ _ => rfl) name profile).ends_bind
      (fun _ hdropped => hremoved.of_view hdropped)
      fun _ _ _ hdropped => Stateful.ends_pure ⟨hremoved.of_view hdropped, trivial⟩

/-- A promotion takes the connection away from its types, so it may have none. -/
theorem promote_connection_safe (name : String) (h : Consistent backend)
    (hnone : (∀ user, caller = some user → user.role = "admin") →
      (setConnectionOwner backend.store name (callerUserId caller) none).isSome →
      backend.typesOf (callerUserId caller, name) = []) :
    Safe (promoteConnectionToGlobal name caller) backend := by
  unfold promoteConnectionToGlobal
  refine (require_admin_frame caller).ends_bind (fun _ hview => h.of_view hview)
    fun _ middle hrun hview => ?_
  obtain rfl : middle = backend :=
    (show Stateful.Frame id (requireAdmin caller) from require_admin_frame caller).of_ok hrun
  refine Stateful.ends_bind (Stateful.ends_get ?_)
  split
  · exact Stateful.ends_throw h
  · refine Stateful.ends_bind (Stateful.ends_get ?_)
    split
    · exact Stateful.ends_throw h
    · rename_i updated store hpromote
      have hnone := hnone (require_admin_ok hrun)
      rw [hpromote] at hnone
      refine Stateful.ends_bind ((save_connections_consistent h fun key htypes hexists => ?_).mono
        (fun _ saved hsaved => ?_) fun _ hsaved => hsaved)
      · refine set_connection_owner_isSome hpromote (fun hsame => htypes ?_) hexists
        rw [← hnone rfl, ← hsame.1, ← hsame.2]
      · split
        · exact generate_safe hsaved.1 (fun _ => Stateful.frame_throw _) fun _ =>
            connection_info_frame _ _
        · exact respond_info_safe hsaved.1

/-! ### Creating a connection -/

/-- Without a client the new connection is removed again. -/
theorem oauth_client_for_consistent (name : String) (config : McpServerConnectionConfig)
    (discovered : OAuthServer) (h : Consistent backend)
    (hnone : backend.typesOf (owner, name) = []) :
    Ends (oauthClientFor outside name owner config discovered) backend (fun _ => Consistent)
      Consistent := by
  unfold oauthClientFor
  split
  · exact Stateful.ends_pure h
  · split
    · exact drop_and_throw_consistent h hnone
    · split
      · exact drop_and_throw_consistent h hnone
      · exact drop_and_throw_consistent h hnone
      · split
        · exact Stateful.ends_pure h
        · exact drop_and_throw_consistent h hnone
        · exact Stateful.ends_throw h

theorem defer_to_oauth_consistent (config : McpServerConnectionConfig) (discovered : OAuthServer)
    (h : Consistent backend) (hnone : backend.typesOf (owner, profile.name) = []) :
    Ends (deferToOauth outside profile owner caller config discovered) backend
      (fun _ => Consistent) Consistent := by
  unfold deferToOauth
  refine Stateful.ends_bind ((oauth_client_for_consistent _ config discovered h hnone).mono
    (fun client middle hmiddle => ?_) fun _ hmiddle => hmiddle)
  refine Stateful.ends_bind (Stateful.ends_get ?_)
  split
  · exact Stateful.ends_throw hmiddle
  · rename_i updated store hupdate
    refine Stateful.ends_bind ((save_connections_consistent hmiddle fun key _ hexists =>
      update_connection_config_isSome hupdate hexists).mono (fun _ saved hsaved => ?_)
      fun _ hsaved => hsaved)
    exact ends_of_typesView (connection_info_frame updated caller) hsaved.1

/-- A new connection has no types until they are generated, so a failure may remove it. -/
theorem set_up_connection_safe (h : Consistent backend)
    (hnone : backend.typesOf (owner, profile.name) = []) :
    Safe (setUpConnection outside profile owner caller) backend := by
  unfold setUpConnection
  split
  · refine (server_config_frame profile).ends_bind (fun _ hview => h.of_view hview)
      fun config middle hrun _ => ?_
    obtain rfl : middle = backend :=
      (show Stateful.Frame id (serverConfig profile) from server_config_frame profile).of_ok hrun
    split
    · exact respond_info_safe h
    · refine (discover_oauth_frame (fun _ _ => rfl) config).ends_bind
        (fun _ hview => h.of_view hview)
        fun discovered found _ hview => ?_
      have hfound : Consistent found := h.of_view hview
      have htypes : found.typesOf (owner, profile.name) = [] := by
        have hsame : found.generatedTypes = middle.generatedTypes :=
          congrArg (fun view => view.2.2.1) hview
        unfold Backend.typesOf at hnone ⊢
        rw [hsame, hnone]
      split
      · exact Stateful.ends_bind ((defer_to_oauth_consistent config _ hfound htypes).mono
          (fun _ _ hdeferred => Stateful.ends_pure ⟨hdeferred, trivial⟩) fun _ hdeferred =>
            hdeferred)
      · refine Stateful.ends_pure ⟨hfound, fun created _ hbackend =>
          ends_of_typesView (connection_info_frame profile caller) hbackend, ?_⟩
        intro e failed hfailed hkept
        exact drop_and_throw_consistent hfailed (hkept _ htypes)
  · exact respond_info_safe h

theorem create_connection_safe (request : CreateConnectionRequest) (h : Consistent backend) :
    Safe (createConnection connectionTypes outside request caller) backend := by
  unfold createConnection
  split
  · exact Stateful.ends_throw h
  · split
    · exact Stateful.ends_throw h
    · have hadmin : Stateful.Frame typesView
          (if request.scope = .global then requireAdmin caller else pure ()) := by
        split
        · exact require_admin_frame caller
        · exact Stateful.frame_pure _
      refine hadmin.ends_bind (fun _ hview => h.of_view hview) fun _ middle _ hview => ?_
      have hmiddle : Consistent middle := h.of_view hview
      refine Stateful.ends_bind (Stateful.ends_get ?_)
      split
      · exact Stateful.ends_throw hmiddle
      · rename_i profile store hadd
        refine Stateful.ends_bind ((save_connections_consistent hmiddle fun key _ hexists =>
          (add_connection_isSome_iff hadd _ _).mpr (.inr hexists)).mono (fun _ saved hsaved => ?_)
          fun _ hsaved => hsaved)
        have hprofile : profile.name = request.name := add_connection_name hadd
        have hsame : saved.generatedTypes = middle.generatedTypes :=
          congrArg (fun view => view.2.1) hsaved.2
        refine set_up_connection_safe hsaved.1 ?_
        have hnone := hmiddle.no_types (add_connection_new hadd)
        unfold Backend.typesOf at hnone ⊢
        rw [hprofile, hsame, hnone]

end

/-! ## Runs -/

/-- The condition on a request: its generation, if it comes to one, does not stop between two
registrations, and a connection that it promotes has no types. -/
def RequestClean (connectionTypes : ConnectionRegistry) (outside : Outside)
    (request : ConnectionRequest) (backend : Backend) : Prop :=
  (∀ call failed done middle,
    (endpoint connectionTypes outside request).run backend =
      .ok (.generate call failed done) middle → GenerationClean outside call middle) ∧
  ∀ name caller, request = .promote name caller →
    (∀ user, caller = some user → user.role = "admin") →
    (setConnectionOwner backend.store name (callerUserId caller) none).isSome →
    backend.typesOf (callerUserId caller, name) = []

/-- The states that requests reach from a start, in a world that changes between them, where every
request is of some kind. -/
inductive Reached (connectionTypes : ConnectionRegistry)
    (allowed : Outside → ConnectionRequest → Backend → Prop) (start : Backend) :
    Backend → Prop where
  | start : Reached connectionTypes allowed start start
  | step {backend : Backend} (outside : Outside) (request : ConnectionRequest)
      (hreached : Reached connectionTypes allowed start backend)
      (hallowed : allowed outside request backend) :
      Reached connectionTypes allowed start (afterRequest connectionTypes outside request backend)

/-- The backend when its process starts: no types were generated yet. -/
structure NothingGenerated (backend : Backend) : Prop where
  registry : ∀ name, isGeneratedName name → backend.registry.get name = none
  generatedTypes : backend.generatedTypes = .empty

section

variable {connectionTypes : ConnectionRegistry} {outside : Outside} {start backend : Backend}

/-- At the start there is nothing to agree on. -/
theorem NothingGenerated.consistent (h : NothingGenerated backend) : Consistent backend := by
  have htypes : ∀ key, backend.typesOf key = [] := fun key => by
    rw [Backend.typesOf, h.generatedTypes]
    rfl
  refine ⟨⟨fun name hgenerated hsome => ?_, fun key name hname => ?_⟩, fun key name hname => ?_⟩
  · rw [h.registry name hgenerated] at hsome
    cases hsome
  · rw [htypes] at hname
    cases hname
  · rw [htypes] at hname
    cases hname

/-- Every request under the condition keeps the agreement. -/
theorem after_request_consistent {request : ConnectionRequest} (h : Consistent backend)
    (hclean : RequestClean connectionTypes outside request backend) :
    Consistent (afterRequest connectionTypes outside request backend) := by
  unfold afterRequest
  refine serve_consistent ?_ hclean.1
  cases request with
  | startup profile => exact regenerate_on_startup_safe h
  | create request caller => exact create_connection_safe request h
  | update name config caller => exact update_connection_safe name config h
  | refresh name caller => exact refresh_capabilities_safe name h
  | promote name caller => exact promote_connection_safe name h (hclean.2 name caller rfl)
  | delete name caller => exact delete_connection_safe name h
  | setApiKey name apiKey caller => exact set_connection_api_key_safe name apiKey h
  | oauthCallback code state cookie => exact oauth_callback_safe code state cookie h

/-- Along every run of such requests the registry, the tracking map and the connections agree. -/
theorem reached_consistent (hstart : Consistent start)
    (h : Reached connectionTypes (RequestClean connectionTypes) start backend) :
    Consistent backend := by
  induction h with
  | start => exact hstart
  | step outside request hreached hallowed ih => exact after_request_consistent ih hallowed

/-- From the start of a process, in every state that such requests reach, every generated type is
tracked for exactly one connection that exists, and every tracked type is registered. -/
theorem generated_types_consistent (hstart : NothingGenerated start)
    (h : Reached connectionTypes (RequestClean connectionTypes) start backend) :
    TypesConsistent backend :=
  (reached_consistent hstart.consistent h).toTypesConsistent

end

/-! ### A promotion -/

/-- No built-in type has the name of a generated one. -/
theorem freshBackend_nothingGenerated (store : ConnectionStore) :
    NothingGenerated (freshBackend store) := by
  refine ⟨fun name hgenerated => ?_, rfl⟩
  have hbuiltin : ∀ name ∈ (processRegistry plainPython (fun _ _ => none) []).defs.keys,
      isGeneratedName name = false := by decide +kernel
  refine Dict.get?_eq_none_iff.mpr fun hmem => ?_
  rw [hbuiltin name hmem] at hgenerated
  cases hgenerated

/-- The backend after the administrator has refreshed a private server. -/
def refreshedMail : Backend :=
  afterRequest serverTypes (serving [sendTool]) (.refresh "mail" alice)
    (freshBackend [savedServer "mail" (some "alice")])

set_option maxRecDepth 20000 in
/-- After a refresh the type of the one tool is tracked for the server. -/
theorem refreshed_mail_consistent : TypesConsistent refreshedMail := by
  refine generated_types_consistent (freshBackend_nothingGenerated _)
    (.step (serving [sendTool]) (.refresh "mail" alice) .start ⟨?_, nofun⟩)
  intro call failed done middle hrun tools discovered hdiscover
  cases hrun
  cases hdiscover
  exact .inl ⟨by decide, by decide +kernel, by decide +kernel⟩

/-- The backend after an administrator has created a private server and promoted it. -/
def promotedMail : Backend :=
  afterRequest serverTypes (serving [sendTool]) (.promote "mail" alice)
    (afterRequest serverTypes (serving [sendTool])
      (.create
        { name := "mail", type := "mcp_server", config := .ofList [("command", .str "server")] }
        alice) (freshBackend []))

set_option maxRecDepth 20000 in
/-- The type of the private connection is still registered and tracked, but its connection is
gone. -/
theorem promoted_mail_orphans_type :
    NothingGenerated (freshBackend []) ∧
    Reached serverTypes (fun _ _ _ => True) (freshBackend []) promotedMail ∧
    ¬ TypesConsistent promotedMail := by
  refine ⟨freshBackend_nothingGenerated _, .step _ _ (.step _ _ .start trivial) trivial, ?_⟩
  intro h
  obtain ⟨key, htracked, hexists⟩ :=
    h.tracked "mcp__u_alice__mail__send_message" (by decide +kernel)
    (by decide +kernel)
  have hmem : "mcp__u_alice__mail__send_message" ∈ promotedMail.typesOf (some "alice", "mail") := by
    decide +kernel
  obtain rfl := (htracked _).mp hmem
  have hgone : getConnection promotedMail.store "mail" (some "alice") = none := by rfl
  unfold hasConnection at hexists
  rw [hgone] at hexists
  cases hexists

end AgentGraphStudio
