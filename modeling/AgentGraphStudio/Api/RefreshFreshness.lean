import AgentGraphStudio.Api.Connections

/-!
# What a refresh finds

The clients remember the first answer of every server for as long as the process lives, so a
refresh registers what its server answered then. `history_first_answer` says what the process
remembers after any history of requests and runs, in a world that changes all the time, and
`refresh_fresh_iff` says when a refresh registers exactly the tools that its server advertises at
that moment.
-/

namespace AgentGraphStudio

open Stateful (Keeps stateOf)

/-! ## Histories -/

/-- What a run does to the state of the backend: it lists tools to resolve the slots of `mcp_call`
nodes, and it reads access tokens, which may refresh them. -/
inductive RunEffect where
  | toolList (server : McpServerConfig)
  | accessToken (userId connectionName : String)

/-- Carry out an effect of a run; its failure ends only the node. -/
def RunEffect.perform (outside : Outside) : RunEffect → Route Unit
  | .toolList server => do
    let _ ← Stateful.attempt (listTools outside server)
  | .accessToken userId connectionName => do
    let _ ← Stateful.attempt (getValidAccessToken outside userId connectionName)

/-- What happens to the backend: a request, or the effects of a run. -/
inductive Operation where
  | request (request : ConnectionRequest)
  | run (effects : List RunEffect)

section

variable (connectionTypes : ConnectionRegistry)

/-- The backend after an operation. -/
def Operation.after (outside : Outside) (backend : Backend) : Operation → Backend
  | .request asked => afterRequest connectionTypes outside asked backend
  | .run effects => effects.foldl
    (fun backend effect => stateOf ((effect.perform outside).run backend)) backend

/-- The backend after a history of operations, each of them in a world of its own. -/
def afterHistory (start : Backend) (history : List (Outside × Operation)) : Backend :=
  history.foldl (fun backend entry => entry.2.after connectionTypes entry.1 backend) start

/-- The answer of a server when the process first asked for its tools. -/
def FirstAnswer (start : Backend) (history : List (Outside × Operation)) (key : ToolListKey)
    (answer : Except String (List McpToolInfo)) : Prop :=
  ∃ earlier world operation later, history = earlier ++ (world, operation) :: later ∧
    key ∉ (afterHistory connectionTypes start earlier).toolLists.keys ∧
    key ∈ (afterHistory connectionTypes start (earlier ++ [(world, operation)])).toolLists.keys ∧
    answer = world.listTools key

end

/-! ## What the process remembers -/

/-- Between two states of the backend no answer of a server was forgotten or replaced, and new ones
are those of this world. -/
structure Remembers (outside : Outside) (before after : Backend) : Prop where
  kept : ∀ key answer, before.toolLists.get? key = some answer →
    after.toolLists.get? key = some answer
  learned : ∀ key answer, before.toolLists.get? key = none →
    after.toolLists.get? key = some answer →
    answer = (outside.listTools key).mapError (discoveryFailure key)

section

variable {outside : Outside} {before middle after : Backend}

theorem Remembers.refl : Remembers outside before before where
  kept _ _ h := h
  learned _ _ hnone hsome := by
    rw [hnone] at hsome
    cases hsome

theorem Remembers.trans (hfirst : Remembers outside before middle)
    (hsecond : Remembers outside middle after) : Remembers outside before after where
  kept key answer h := hsecond.kept key answer (hfirst.kept key answer h)
  learned key answer hnone hsome := by
    cases hmiddle : middle.toolLists.get? key with
    | none => exact hsecond.learned key answer hmiddle hsome
    | some known =>
        have hlearned := hfirst.learned key known hnone hmiddle
        have hsame := hsecond.kept key known hmiddle
        rw [hsome] at hsame
        cases hsame
        exact hlearned

/-- What the process remembers depends on the tool lists only. -/
theorem Remembers.of_toolLists (h : after.toolLists = middle.toolLists)
    (hmiddle : Remembers outside before middle) : Remembers outside before after :=
  ⟨fun key answer hsome => by rw [h]; exact hmiddle.kept key answer hsome,
    fun key answer hnone hsome => hmiddle.learned key answer hnone (by rwa [h] at hsome)⟩

end

/-! ## Requests keep what the process remembers -/

section

variable {outside : Outside} {invariant : Backend → Prop} {connectionTypes : ConnectionRegistry}
  {profile : ConnectionProfile} {owner : Option String} {caller : Caller}
  (hview : ∀ backend after : Backend, after.toolLists = backend.toolLists →
    invariant backend → invariant after)

include hview

theorem keeps_of_toolLists {ε α : Type} {act : EStateM ε Backend α}
    (h : Stateful.Frame Backend.toolLists act) : Keeps invariant act fun _ => True :=
  h.keeps hview

/-- A continuation whose answers leave the tool lists alone. -/
theorem generate_keeps {call : GenerationCall} {failed : String → Route ConnectionAnswer}
    {done : List String → Route ConnectionAnswer}
    (hfailed : ∀ e, Stateful.Frame Backend.toolLists (failed e))
    (hdone : ∀ created, Stateful.Frame Backend.toolLists (done created)) :
    Keeps invariant (pure (.generate call failed done) : Route Continuation)
      (Continuation.Keeps invariant) :=
  Stateful.keeps_pure ⟨fun e => (hfailed e).keeps hview, fun created => (hdone created).keeps hview⟩

theorem respond_info_keeps :
    Keeps invariant (connectionInfo profile caller >>= fun answer => pure (.respond answer))
      (Continuation.Keeps invariant) :=
  Stateful.keeps_bind ((connection_info_frame profile caller).keeps hview) fun _ _ =>
    Stateful.keeps_pure trivial

theorem get_keeps {ε : Type} : Keeps invariant (get : EStateM ε Backend Backend) fun _ => True :=
  Stateful.frame_get.keeps hview

theorem save_connections_keeps (store : ConnectionStore) :
    Keeps invariant (saveConnections store) fun _ => True :=
  (save_connections_frame (fun _ _ => rfl) store).keeps hview

/-- An error after the removal of a connection. -/
theorem drop_and_throw_keeps {α : Type} {returns : α → Prop} (name : String) (error : HttpError) :
    Keeps invariant (dropConnection name owner >>= fun _ => (throw error : Route α)) returns :=
  Stateful.keeps_bind ((drop_connection_frame (fun _ _ => rfl) name owner).keeps hview) fun _ _ =>
    Stateful.keeps_throw

theorem regenerate_on_startup_keeps :
    Keeps invariant (regenerateOnStartup profile) (Continuation.Keeps invariant) := by
  unfold regenerateOnStartup
  split
  · exact Stateful.keeps_pure trivial
  · refine Stateful.keeps_bind ((startup_user_id_frame profile).keeps hview) fun _ _ => ?_
    exact generate_keeps hview (fun _ => Stateful.frame_pure _) fun _ => Stateful.frame_pure _

theorem update_connection_keeps (name : String) (config : Config) :
    Keeps invariant (updateConnection connectionTypes name config caller)
      (Continuation.Keeps invariant) := by
  unfold updateConnection
  refine Stateful.keeps_bind (get_keeps hview) fun _ _ => Stateful.keeps_bind (get_keeps hview)
    fun _ _ => ?_
  split
  · exact Stateful.keeps_throw
  · refine Stateful.keeps_bind ((require_admin_for_frame _ caller).keeps hview) fun _ _ => ?_
    split
    · exact Stateful.keeps_throw
    · split
      · exact Stateful.keeps_throw
      · refine Stateful.keeps_bind (get_keeps hview) fun _ _ => ?_
        split
        · exact Stateful.keeps_throw
        · exact Stateful.keeps_bind (save_connections_keeps hview _) fun _ _ =>
            respond_info_keeps hview

theorem delete_connection_keeps (name : String) :
    Keeps invariant (deleteConnectionEndpoint name caller) (Continuation.Keeps invariant) := by
  unfold deleteConnectionEndpoint
  refine Stateful.keeps_bind (get_keeps hview) fun _ _ => ?_
  split
  · exact Stateful.keeps_throw
  · rename_i profile _
    have hunregister : ∀ backend : Backend,
        (unregisterForConnection name profile.userId backend).toolLists = backend.toolLists :=
      unregister_for_connection_frame (fun _ _ _ _ => rfl) name profile.userId
    refine Stateful.keeps_bind ((require_admin_for_frame _ caller).keeps hview) fun _ _ =>
      Stateful.keeps_bind ((drop_connection_frame (fun _ _ => rfl) _ _).keeps hview) fun _ _ =>
      Stateful.keeps_bind ((Stateful.frame_modify hunregister).keeps hview) fun _ _ =>
      Stateful.keeps_bind ((drop_token_frame (fun _ _ => rfl) name profile).keeps hview)
        fun _ _ => Stateful.keeps_pure trivial

theorem refresh_capabilities_keeps (name : String) :
    Keeps invariant (refreshCapabilities name caller) (Continuation.Keeps invariant) := by
  unfold refreshCapabilities
  refine Stateful.keeps_bind (get_keeps hview) fun _ _ => ?_
  split
  · exact Stateful.keeps_throw
  · split
    · exact Stateful.keeps_throw
    · exact generate_keeps hview (fun _ => Stateful.frame_throw _) fun _ => Stateful.frame_pure _

theorem promote_connection_keeps (name : String) :
    Keeps invariant (promoteConnectionToGlobal name caller) (Continuation.Keeps invariant) := by
  unfold promoteConnectionToGlobal
  refine Stateful.keeps_bind ((require_admin_frame caller).keeps hview) fun _ _ =>
    Stateful.keeps_bind (get_keeps hview) fun _ _ => ?_
  split
  · exact Stateful.keeps_throw
  · refine Stateful.keeps_bind (get_keeps hview) fun _ _ => ?_
    split
    · exact Stateful.keeps_throw
    · refine Stateful.keeps_bind (save_connections_keeps hview _) fun _ _ => ?_
      split
      · exact generate_keeps hview (fun _ => Stateful.frame_throw _) fun _ =>
          connection_info_frame _ caller
      · exact respond_info_keeps hview

theorem set_connection_api_key_keeps (name apiKey : String) :
    Keeps invariant (setConnectionApiKey name apiKey caller) (Continuation.Keeps invariant) := by
  unfold setConnectionApiKey
  split
  · exact Stateful.keeps_throw
  · refine Stateful.keeps_bind (get_keeps hview) fun _ _ => ?_
    split
    · exact Stateful.keeps_throw
    · split
      · exact Stateful.keeps_throw
      · refine Stateful.keeps_bind ((server_config_frame _).keeps hview) fun config _ => ?_
        split
        · exact Stateful.keeps_throw
        · refine Stateful.keeps_bind
            (keeps_of_toolLists hview (Stateful.frame_modify fun _ => rfl)) fun _ _ => ?_
          refine generate_keeps hview (fun _ => ?_) fun _ => connection_info_frame _ caller
          exact Stateful.frame_bind (Stateful.frame_modify fun _ => rfl) fun _ =>
            Stateful.frame_throw _

theorem oauth_callback_keeps (code state : String) (cookie : Option String) :
    Keeps invariant (mcpConnectionOauthCallback outside code state cookie)
      (Continuation.Keeps invariant) := by
  unfold mcpConnectionOauthCallback
  split
  · exact Stateful.keeps_throw
  · split
    · exact Stateful.keeps_throw
    · refine Stateful.keeps_bind (get_keeps hview) fun _ _ => ?_
      split
      · exact Stateful.keeps_pure trivial
      · refine Stateful.keeps_bind ((server_config_frame _).keeps hview) fun config _ =>
          Stateful.keeps_bind ((store_oauth_token_frame (fun _ _ => rfl) code _ config).keeps hview)
            fun stored _ => ?_
        split
        · exact Stateful.keeps_pure trivial
        · exact generate_keeps hview (fun _ => Stateful.frame_pure _) fun _ =>
            Stateful.frame_pure _

variable (hlist : ∀ server, Keeps invariant (listTools outside server) fun _ => True)

include hlist

omit hview in
theorem discover_oauth_keeps (config : McpServerConnectionConfig) :
    Keeps invariant (discoverOauth outside config) fun _ => True := by
  unfold discoverOauth
  split
  · refine Stateful.keeps_bind (Stateful.keeps_attempt (hlist _)) fun listed _ => ?_
    split
    · exact Stateful.keeps_pure trivial
    · split
      · exact Stateful.keeps_pure trivial
      · exact Stateful.keeps_pure trivial
      · exact Stateful.keeps_throw
  · exact Stateful.keeps_pure trivial

omit hlist in
theorem oauth_client_for_keeps (name : String) (config : McpServerConnectionConfig)
    (discovered : OAuthServer) :
    Keeps invariant (oauthClientFor outside name owner config discovered) fun _ => True := by
  unfold oauthClientFor
  split
  · exact Stateful.keeps_pure trivial
  · split
    · exact drop_and_throw_keeps hview name _
    · split
      · exact drop_and_throw_keeps hview name _
      · exact drop_and_throw_keeps hview name _
      · split
        · exact Stateful.keeps_pure trivial
        · exact drop_and_throw_keeps hview name _
        · exact Stateful.keeps_throw

omit hlist in
theorem defer_to_oauth_keeps (config : McpServerConnectionConfig) (discovered : OAuthServer) :
    Keeps invariant (deferToOauth outside profile owner caller config discovered)
      fun _ => True := by
  unfold deferToOauth
  refine Stateful.keeps_bind (oauth_client_for_keeps hview profile.name config discovered)
    fun client _ => Stateful.keeps_bind (get_keeps hview) fun _ _ => ?_
  split
  · exact Stateful.keeps_throw
  · exact Stateful.keeps_bind (save_connections_keeps hview _) fun _ _ =>
      (connection_info_frame _ caller).keeps hview

theorem create_connection_keeps (request : CreateConnectionRequest) :
    Keeps invariant (createConnection connectionTypes outside request caller)
      (Continuation.Keeps invariant) := by
  unfold createConnection
  split
  · exact Stateful.keeps_throw
  · split
    · exact Stateful.keeps_throw
    · have hadmin : Stateful.Frame Backend.toolLists
          (if request.scope = .global then requireAdmin caller else pure ()) := by
        split
        · exact require_admin_frame caller
        · exact Stateful.frame_pure _
      refine Stateful.keeps_bind (hadmin.keeps hview) fun _ _ =>
        Stateful.keeps_bind (get_keeps hview) fun _ _ => ?_
      split
      · exact Stateful.keeps_throw
      · refine Stateful.keeps_bind (save_connections_keeps hview _) fun _ _ => ?_
        unfold setUpConnection
        split
        · refine Stateful.keeps_bind ((server_config_frame _).keeps hview) fun config _ => ?_
          split
          · exact respond_info_keeps hview
          · refine Stateful.keeps_bind (discover_oauth_keeps hlist config)
              fun discovered _ => ?_
            split
            · exact Stateful.keeps_bind (defer_to_oauth_keeps hview config _) fun _ _ =>
                Stateful.keeps_pure trivial
            · exact Stateful.keeps_pure ⟨fun e => drop_and_throw_keeps hview _ _,
                fun created => (connection_info_frame _ caller).keeps hview⟩
        · exact respond_info_keeps hview

theorem discover_tools_keeps_invariant (connectionName : String)
    (ownerUserId discoveryUserId : Option String) :
    Keeps invariant (discoverTools outside connectionName ownerUserId discoveryUserId)
      fun _ => True := by
  refine Stateful.keeps_bind (get_keeps hview) fun _ _ => ?_
  split
  · exact Stateful.keeps_throw
  · split
    · exact Stateful.keeps_throw
    · exact Stateful.keeps_bind ((Stateful.frame_ofExcept _).keeps hview) fun config _ =>
        Stateful.keeps_bind ((server_config_of_frame (fun _ _ _ _ => rfl) _).keeps hview)
          fun server _ => hlist server

/-- A whole request keeps every invariant on the tool lists that listing tools keeps. -/
theorem serve_keeps (request : ConnectionRequest) :
    Keeps invariant (serve outside (endpoint connectionTypes outside request)) fun _ => True := by
  have hendpoint : Keeps invariant (endpoint connectionTypes outside request)
      (Continuation.Keeps invariant) := by
    cases request with
    | startup profile => exact regenerate_on_startup_keeps hview
    | create request caller => exact create_connection_keeps hview hlist request
    | update name config caller => exact update_connection_keeps hview name config
    | refresh name caller => exact refresh_capabilities_keeps hview name
    | promote name caller => exact promote_connection_keeps hview name
    | delete name caller => exact delete_connection_keeps hview name
    | setApiKey name apiKey caller => exact set_connection_api_key_keeps hview name apiKey
    | oauthCallback code state cookie => exact oauth_callback_keeps hview code state cookie
  refine Stateful.keeps_bind hendpoint fun next hnext => perform_keeps (fun call => ?_) hnext
  exact Stateful.keeps_bind (discover_tools_keeps_invariant hview hlist _ _ _) fun tools _ =>
    (replace_types_frame fun _ _ _ _ => rfl).keeps hview

end

/-- Listing tools remembers at most the answer of this world. -/
theorem list_tools_remembers {outside : Outside} {start : Backend} (server : McpServerConfig) :
    Keeps (Remembers outside start) (listTools outside server) fun _ => True := by
  unfold listTools
  intro backend hbackend
  refine Stateful.ends_bind (Stateful.ends_get ?_)
  split
  · exact Stateful.ends_ofExcept (fun _ _ => ⟨hbackend, trivial⟩) hbackend
  · rename_i hnone
    refine Stateful.ends_bind (Stateful.ends_modify ?_)
    have hnew : Remembers outside start
        { backend with
          toolLists := backend.toolLists.set (toolListKey server)
            ((outside.listTools (toolListKey server)).mapError
              (discoveryFailure (toolListKey server))) } := by
      refine hbackend.trans ⟨fun key answer hsome => ?_, fun key answer hbefore hsome => ?_⟩
      · have hne : key ≠ toolListKey server := by
          intro heq
          rw [heq, hnone] at hsome
          cases hsome
        exact (Dict.get?_set_of_ne _ _ hne).trans hsome
      · by_cases hkey : key = toolListKey server
        · subst hkey
          exact (Option.some.inj ((Dict.get?_set_self _ _ _).symm.trans hsome)).symm
        · have hsame := (Dict.get?_set_of_ne backend.toolLists _ hkey).symm.trans hsome
          rw [hbefore] at hsame
          cases hsame
    exact Stateful.ends_ofExcept (fun _ _ => ⟨hnew, trivial⟩) hnew

/-- Every operation keeps what the process remembers, and learns the answers of its world. -/
theorem operation_remembers {connectionTypes : ConnectionRegistry} {outside : Outside}
    (operation : Operation) (backend : Backend) :
    Remembers outside backend (operation.after connectionTypes outside backend) := by
  have hview : ∀ middle after : Backend, after.toolLists = middle.toolLists →
      Remembers outside backend middle → Remembers outside backend after :=
    fun _ _ hsame hmiddle => hmiddle.of_toolLists hsame
  cases operation with
  | request asked =>
      exact (serve_keeps hview list_tools_remembers asked).stateOf .refl
  | run effects =>
      have hrun : ∀ (effects : List RunEffect) (middle : Backend),
        Remembers outside backend middle →
          Remembers outside backend (effects.foldl
            (fun backend effect => stateOf ((effect.perform outside).run backend)) middle) := by
        intro effects
        induction effects with
        | nil => exact fun _ hmiddle => hmiddle
        | cons effect effects ih =>
            intro middle hmiddle
            have heffect : Keeps (Remembers outside backend) (effect.perform outside)
                fun _ => True := by
              cases effect with
              | toolList server =>
                  exact Stateful.keeps_bind (Stateful.keeps_attempt (list_tools_remembers server))
                    fun _ _ => Stateful.keeps_pure trivial
              | accessToken userId connectionName =>
                  exact Stateful.keeps_bind (Stateful.keeps_attempt
                    ((get_valid_access_token_frame fun _ _ => rfl).keeps hview))
                    fun _ _ => Stateful.keeps_pure trivial
            exact ih _ (heffect.stateOf hmiddle)
      exact hrun effects backend .refl

/-! ## The first answer -/

section

variable {connectionTypes : ConnectionRegistry} {start : Backend}
  {history : List (Outside × Operation)} {key : ToolListKey}

theorem afterHistory_append (earlier later : List (Outside × Operation)) :
    afterHistory connectionTypes start (earlier ++ later) =
      afterHistory connectionTypes (afterHistory connectionTypes start earlier) later := by
  unfold afterHistory
  exact List.foldl_append

/-- What the process has learned stays. -/
theorem history_kept {answer : Except String (List McpToolInfo)}
    (h : start.toolLists.get? key = some answer) :
    (afterHistory connectionTypes start history).toolLists.get? key = some answer := by
  induction history generalizing start with
  | nil => exact h
  | cons entry history ih =>
      exact ih ((operation_remembers entry.2 start).kept key answer h)

/-- A first answer stays the first one. -/
theorem FirstAnswer.append {answer : Except String (List McpToolInfo)}
    (h : FirstAnswer connectionTypes start history key answer)
    (later : List (Outside × Operation)) :
    FirstAnswer connectionTypes start (history ++ later) key answer := by
  obtain ⟨earlier, world, operation, rest, rfl, hbefore, hafter, rfl⟩ := h
  exact ⟨earlier, world, operation, rest ++ later, by simp, hbefore, hafter, rfl⟩

/-- The process remembers exactly the first answers. -/
theorem history_first_answer (hstart : start.toolLists = .empty)
    {entry : Except String (List McpToolInfo)} :
    (afterHistory connectionTypes start history).toolLists.get? key = some entry ↔
      ∃ answer, FirstAnswer connectionTypes start history key answer ∧
        entry = answer.mapError (discoveryFailure key) := by
  constructor
  · intro hentry
    -- By the last operation: it keeps what is remembered, or it learns the first answer.
    induction history using List.reverseRecOn generalizing entry with
    | nil =>
        have hnone : (afterHistory connectionTypes start []).toolLists.get? key = none :=
          congrArg (fun lists => Dict.get? lists key) hstart
        rw [hnone] at hentry
        cases hentry
    | append_singleton history step ih =>
        have hstep : afterHistory connectionTypes start (history ++ [step]) =
            step.2.after connectionTypes step.1 (afterHistory connectionTypes start history) :=
          afterHistory_append history [step]
        have hremembers := @operation_remembers connectionTypes step.1 step.2
          (afterHistory connectionTypes start history)
        rw [← hstep] at hremembers
        cases hbefore : (afterHistory connectionTypes start history).toolLists.get? key with
        | some known =>
            have hsame := hremembers.kept key known hbefore
            rw [hentry] at hsame
            cases hsame
            obtain ⟨answer, hanswer, hmapped⟩ := ih hbefore
            exact ⟨answer, hanswer.append _, hmapped⟩
        | none =>
            refine ⟨step.1.listTools key, ⟨history, step.1, step.2, [], rfl, ?_, ?_, rfl⟩,
              hremembers.learned key entry hbefore hentry⟩
            · exact Dict.get?_eq_none_iff.mp hbefore
            · exact Dict.mem_keys_iff.mpr ⟨entry, hentry⟩
  · intro hfirst
    obtain ⟨answer, ⟨earlier, world, operation, later, rfl, hbefore, hafter, rfl⟩, rfl⟩ := hfirst
    obtain ⟨learned, hlearned⟩ := Dict.mem_keys_iff.mp hafter
    have hstep : afterHistory connectionTypes start (earlier ++ [(world, operation)]) =
        operation.after connectionTypes world (afterHistory connectionTypes start earlier) :=
      afterHistory_append earlier [(world, operation)]
    have hremembers := @operation_remembers connectionTypes world operation
      (afterHistory connectionTypes start earlier)
    rw [← hstep] at hremembers
    have hvalue := hremembers.learned key learned (Dict.get?_eq_none_iff.mpr hbefore) hlearned
    rw [← hvalue, show earlier ++ (world, operation) :: later =
      earlier ++ [(world, operation)] ++ later by simp, afterHistory_append]
    exact history_kept hlearned

end

/-! ## A refresh -/

/-- A refresh by this caller comes to asking this server for its tools, for this connection. -/
def RefreshAsks (outside : Outside) (name : String) (caller : Caller) (backend : Backend)
    (key : ConnectionKey) (server : McpServerConfig) : Prop :=
  ∃ profile config middle,
    resolveConnectionForUser backend.store name (callerUserId caller) = some profile ∧
    profile.type = "mcp_server" ∧ McpServerConnectionConfig.parse profile.config = .ok config ∧
    (serverConfigOf outside config name ((callerUserId caller).or profile.userId)).run backend =
      .ok server middle ∧
    key = (profile.userId, name)

/-- The types of a connection are exactly those of these tools. -/
structure HasTypesOf (backend : Backend) (key : ConnectionKey) (tools : List McpToolInfo) :
    Prop where
  tracked : ∀ name, name ∈ backend.typesOf key ↔ ∃ tool ∈ tools, toolTypeName key tool = name
  registered : ∀ tool ∈ tools,
    backend.registry.get (toolTypeName key tool) = some (toolType key tool)

/-- A refresh succeeds and registers exactly these tools for the connection. -/
def RefreshRegisters (outside : Outside) (name : String) (caller : Caller) (key : ConnectionKey)
    (tools : List McpToolInfo) (backend : Backend) : Prop :=
  ∃ created result, (serve outside (refreshCapabilities name caller)).run backend =
    .ok (.generatedTypes created) result ∧ HasTypesOf result key tools

/-- The answer that a client gives: the remembered one, or else that of this world. -/
def knownTools (outside : Outside) (backend : Backend) (key : ToolListKey) :
    Except String (List McpToolInfo) :=
  (backend.toolLists.get? key).getD ((outside.listTools key).mapError (discoveryFailure key))

section

variable {outside : Outside} {backend : Backend} {name : String} {caller : Caller}
  {key : ConnectionKey} {server : McpServerConfig} {tools : List McpToolInfo}

/-- Listing tools gives the known answer. -/
theorem list_tools_run (server : McpServerConfig) (backend : Backend) :
    ∃ final, (listTools outside server).run backend =
      match knownTools outside backend (toolListKey server) with
      | .ok tools => .ok tools final
      | .error e => .error e final := by
  unfold listTools knownTools
  rw [Stateful.run_get_bind]
  cases backend.toolLists.get? (toolListKey server) with
  | some cached => cases cached <;> exact ⟨backend, rfl⟩
  | none =>
      cases hfound : (outside.listTools (toolListKey server)).mapError
          (discoveryFailure (toolListKey server)) <;> exact ⟨_, rfl⟩

/-- What a refresh discovers is the known answer of its server. -/
theorem RefreshAsks.discovers (h : RefreshAsks outside name caller backend key server) :
    ∃ final, (discoverTools outside name key.1 (callerUserId caller)).run backend =
      match knownTools outside backend (toolListKey server) with
      | .ok tools => .ok tools final
      | .error e => .error e final := by
  obtain ⟨profile, config, middle, hresolve, htype, hconfig, hserver, rfl⟩ := h
  obtain ⟨final, hlist⟩ := @list_tools_run outside server middle
  have hlists : middle.toolLists = backend.toolLists :=
    (server_config_of_frame (fun _ _ _ _ => rfl) _).of_ok hserver
  refine ⟨final, ?_⟩
  have hknown : knownTools outside middle = knownTools outside backend := by
    unfold knownTools
    rw [hlists]
  have hget := get_connection_of_resolve hresolve
  unfold discoverTools
  rw [Stateful.run_get_bind, hget]
  show EStateM.run (if profile.type ≠ "mcp_server" then _ else _) backend = _
  rw [if_neg (not_not.mpr htype), hconfig, EStateM.run_bind]
  show EStateM.run (serverConfigOf outside config name _ >>= _) backend = _
  rw [EStateM.run_bind, hserver, ← hknown]
  exact hlist

/-- What a refresh of an `mcp_server` connection does. -/
theorem RefreshAsks.run (h : RefreshAsks outside name caller backend key server) :
    (serve outside (refreshCapabilities name caller)).run backend =
      match (generateNodeTypesForConnection outside name key.1 (callerUserId caller)).run
        backend with
      | .ok created result => .ok (.generatedTypes created) result
      | .error e result => .error ⟨502, s!"Failed to refresh capabilities: {e}"⟩ result := by
  obtain ⟨profile, config, middle, hresolve, htype, hconfig, hserver, rfl⟩ := h
  have hendpoint : (refreshCapabilities name caller).run backend =
      .ok (.generate ⟨name, profile.userId, callerUserId caller⟩
        (fun e => throw ⟨502, s!"Failed to refresh capabilities: {e}"⟩)
        fun created => pure (.generatedTypes created)) backend := by
    unfold refreshCapabilities
    rw [Stateful.run_get_bind, hresolve]
    show EStateM.run (if profile.type ≠ "mcp_server" then _ else _) backend = _
    rw [if_neg (not_not.mpr htype)]
    rfl
  unfold serve
  rw [EStateM.run_bind, hendpoint]
  show EStateM.run (Stateful.attempt _ >>= _) backend = _
  rw [EStateM.run_bind, Stateful.run_attempt]
  cases (generateNodeTypesForConnection outside name profile.userId (callerUserId caller)).run
    backend <;> rfl

/-- A generation registers exactly the types of its tools. -/
theorem OneTypePerTool.hasTypesOf {created : List String} {result : Backend}
    (h : OneTypePerTool backend key tools created result) : HasTypesOf result key tools := by
  refine ⟨fun name => ?_, h.registered⟩
  rw [Backend.typesOf, Dict.getD, h.tracked, h.names]
  exact List.mem_map

/-- The definition of a type names its tool. -/
theorem toolType_injective {first second : McpToolInfo}
    (h : toolType key first = toolType key second) : first = second := by
  have hbody : Body.generated { connectionName := key.2, tool := first, ownerUserId := key.1 } =
      Body.generated { connectionName := key.2, tool := second, ownerUserId := key.1 } :=
    congrArg NodeDefinition.execute h
  cases hbody
  rfl

theorem HasTypesOf.subset {first second : List McpToolInfo} (hfirst : HasTypesOf backend key first)
    (hsecond : HasTypesOf backend key second) {tool : McpToolInfo} (htool : tool ∈ first) :
    tool ∈ second := by
  obtain ⟨other, hother, hname⟩ :=
    (hsecond.tracked _).mp ((hfirst.tracked _).mpr ⟨tool, htool, rfl⟩)
  have hsame := hsecond.registered other hother
  rw [hname, hfirst.registered tool htool] at hsame
  rwa [toolType_injective (Option.some.inj hsame)]

/-- The types of a connection determine its tools, up to their order. -/
theorem HasTypesOf.iff {first second : List McpToolInfo} (h : HasTypesOf backend key first) :
    HasTypesOf backend key second ↔ ∀ tool, tool ∈ first ↔ tool ∈ second := by
  constructor
  · exact fun hsecond tool => ⟨h.subset hsecond, hsecond.subset h⟩
  · intro hsame
    refine ⟨fun name => (h.tracked name).trans ?_, fun tool htool =>
      h.registered tool ((hsame tool).mpr htool)⟩
    exact exists_congr fun tool => and_congr_left' (hsame tool)

/-- A refresh registers these tools exactly if they are the known ones and their names are free. -/
theorem refresh_registers_iff (h : RefreshAsks outside name caller backend key server) :
    RefreshRegisters outside name caller key tools backend ↔
      ∃ known, knownTools outside backend (toolListKey server) = .ok known ∧
        (∀ tool, tool ∈ known ↔ tool ∈ tools) ∧ NamesFree backend key known := by
  obtain ⟨final, hdiscover⟩ := h.discovers
  obtain ⟨_, _, _, _, _, _, _, hkey⟩ := id h
  unfold RefreshRegisters
  rw [h.run]
  -- A refresh asks for the tools again only if they are not remembered.
  cases hknown : knownTools outside backend (toolListKey server) with
  | error e =>
      rw [hknown] at hdiscover
      have hgenerate : (generateNodeTypesForConnection outside name key.1
          (callerUserId caller)).run backend = .error e final := by
        unfold generateNodeTypesForConnection
        rw [EStateM.run_bind, hdiscover]
      rw [hgenerate]
      constructor
      · intro hrefresh
        obtain ⟨_, _, hrun, _⟩ := hrefresh
        cases hrun
      · intro hexists
        obtain ⟨_, hok, _⟩ := hexists
        cases hok
  | ok known =>
      rw [hknown] at hdiscover
      have hpair : (key.1, name) = key := by rw [hkey]
      rcases generate_of_discovered hdiscover with
        ⟨hfree, created, result, hrun, hnew⟩ | ⟨hnot, e, result, hrun⟩
      · rw [hpair] at hfree hnew
        rw [hrun]
        constructor
        · intro hrefresh
          obtain ⟨_, _, hok, hexactly⟩ := hrefresh
          cases hok
          exact ⟨known, rfl, hnew.hasTypesOf.iff.mp hexactly, hfree⟩
        · intro hexists
          obtain ⟨_, hok, hsame, _⟩ := hexists
          cases hok
          exact ⟨created, result, rfl, hnew.hasTypesOf.iff.mpr hsame⟩
      · rw [hpair] at hnot
        rw [hrun]
        constructor
        · intro hrefresh
          obtain ⟨_, _, hok, _⟩ := hrefresh
          cases hok
        · intro hexists
          obtain ⟨_, hok, _, hfree⟩ := hexists
          cases hok
          exact absurd hfree hnot

/-- After any history, a refresh while its server lists these tools registers exactly them, if and
only if the server's first answer to this process were the same tools, or the process has never
asked it before, and the names are free. -/
theorem refresh_fresh_iff {connectionTypes : ConnectionRegistry} {start : Backend}
    {history : List (Outside × Operation)} (hstart : start.toolLists = .empty)
    (hasks : RefreshAsks outside name caller
      (afterHistory connectionTypes start history) key server)
    (hreachable : outside.listTools (toolListKey server) = .ok tools) :
    RefreshRegisters outside name caller key tools (afterHistory connectionTypes start history) ↔
      ∃ known, (FirstAnswer connectionTypes start history (toolListKey server) (.ok known) ∨
          (∀ answer, ¬ FirstAnswer connectionTypes start history (toolListKey server) answer) ∧
            known = tools) ∧
        (∀ tool, tool ∈ known ↔ tool ∈ tools) ∧
        NamesFree (afterHistory connectionTypes start history) key known := by
  rw [refresh_registers_iff hasks]
  refine exists_congr fun known => and_congr_left' ?_
  unfold knownTools
  -- What is remembered is the first answer; where nothing is, the server is asked now.
  cases hentry : (afterHistory connectionTypes start history).toolLists.get?
      (toolListKey server) with
  | none =>
      rw [hreachable]
      have hnever : ∀ answer,
          ¬ FirstAnswer connectionTypes start history (toolListKey server) answer := by
        intro answer hfirst
        have hsome := (history_first_answer hstart).mpr ⟨answer, hfirst, rfl⟩
        rw [hentry] at hsome
        cases hsome
      constructor
      · intro hok
        cases hok
        exact .inr ⟨hnever, rfl⟩
      · intro hknown
        rcases hknown with hfirst | ⟨_, rfl⟩
        · exact absurd hfirst (hnever _)
        · rfl
  | some entry =>
      obtain ⟨answer, hanswer, hmapped⟩ := (history_first_answer hstart).mp hentry
      constructor
      · intro hok
        obtain rfl : entry = .ok known := hok
        cases answer with
        | ok first =>
            cases hmapped
            exact .inl hanswer
        | error e => cases hmapped
      · intro hknown
        rcases hknown with hfirst | ⟨hnever, _⟩
        · have hsome := (history_first_answer hstart).mpr ⟨_, hfirst, rfl⟩
          rw [hentry] at hsome
          exact Option.some.inj hsome
        · exact absurd hanswer (hnever answer)

end

/-! ### A tool that is added -/

/-- A tool that reads messages. -/
def readTool : McpToolInfo where
  name := "read_messages"
  paramNames := []
  paramJsonTypes := .empty
  requiredNames := []

/-- An administrator refreshes a server that lists one tool. -/
def oneRefresh : List (Outside × Operation) :=
  [(serving [sendTool], .request (.refresh "mail" alice))]

/-- The backend after this refresh. -/
def afterRefresh : Backend :=
  afterHistory serverTypes (freshBackend [savedServer "mail" (some "alice")]) oneRefresh

/-- The server of the connection. -/
def mailServer : McpServerConfig where
  transport := "stdio"
  command := "server"

set_option maxRecDepth 20000 in
/-- A second refresh registers the tool again. -/
theorem same_tool_refreshed :
    RefreshRegisters (serving [sendTool]) "mail" alice (some "alice", "mail") [sendTool]
      afterRefresh := by
  refine (@refresh_fresh_iff (serving [sendTool]) "mail" alice (some "alice", "mail") mailServer
    [sendTool] serverTypes (freshBackend [savedServer "mail" (some "alice")]) oneRefresh rfl
    ⟨_, _, _, rfl, rfl, rfl, rfl, rfl⟩ rfl).mpr ⟨[sendTool], .inl ?_, fun _ => Iff.rfl, ?_⟩
  · exact ⟨[], serving [sendTool], .request (.refresh "mail" alice), [], rfl, by decide +kernel,
      by decide +kernel, rfl⟩
  · exact ⟨by decide, by decide +kernel, by decide +kernel⟩

set_option maxRecDepth 20000 in
/-- When the server has a second tool, a refresh does not register it. -/
theorem added_tool_not_registered :
    RefreshAsks (serving [sendTool, readTool]) "mail" alice afterRefresh (some "alice", "mail")
      mailServer ∧
    (serving [sendTool, readTool]).listTools (toolListKey mailServer) = .ok [sendTool, readTool] ∧
    ¬ RefreshRegisters (serving [sendTool, readTool]) "mail" alice (some "alice", "mail")
      [sendTool, readTool] afterRefresh := by
  refine ⟨⟨_, _, _, rfl, rfl, rfl, rfl, rfl⟩, rfl, ?_⟩
  intro h
  obtain ⟨created, result, hrun, hexactly⟩ := h
  cases hrun
  have hmem := (hexactly.tracked "mcp__u_alice__mail__read_messages").mpr
    ⟨readTool, List.mem_cons_of_mem _ (List.mem_singleton_self _), by decide +kernel⟩
  exact absurd hmem (by decide +kernel)

end AgentGraphStudio
