import AgentGraphStudio.Api.ApprovalSafety

/-!
# What a remembered approval covers

A remembered decision is kept under the run and the name of the tool, whichever server the tool
belongs to. `remembered_by_tool` says that this is all it covers: in every interleaving, a gated
call goes through or is declined without a new question only by a decision that was remembered for
a question of the same run about a tool of the same name.
-/

namespace AgentGraphStudio

/-! ## Calls with and without a question -/

/-- This run was told that the tool is remembered, or it asked its own question and read `True`. -/
def Answered (own : History) (runId toolName : String) (arguments : Config) : Prop :=
  (⟨.approval (.checkRemembered runId toolName), some true⟩ : Event Op Res) ∈ own ∨
    ∃ approvalId pending,
      (⟨.approval (.addPending approvalId runId toolName arguments), pending⟩ :
        Event Op Res) ∈ own ∧
      (⟨.approval (.readDecision pending), true⟩ : Event Op Res) ∈ own

/-- Gated tools are called after an answer. -/
def answering (runId : String) : Policy where
  permitted history
    | .callTool config _ toolName arguments =>
      config.trusted = false → Answered history runId toolName arguments
    | .callStdioTool config arguments _ =>
      config.requireApproval = true → Answered history runId config.toolName arguments
    | _ => True
  allowed _ _ _ := True
  routine _ op h := by
    cases op <;> first | exact trivial | exact h.elim

/-- A request returns `True` only after an answer. -/
theorem request_answered {runId toolName : String} {arguments : Config} :
    (answering runId).Requests runId toolName arguments
      fun history => Answered history runId toolName arguments := by
  intro history others
  refine ⟨trivial, fun remembered _ => ?_⟩
  cases remembered with
  | some decision =>
      intro more hdecision
      cases hdecision
      exact .inl (by simp)
  | none =>
      intro others₁
      refine ⟨trivial, fun approvalId _ others₂ => ?_⟩
      refine ⟨trivial, fun pending _ others₃ => ?_⟩
      refine ⟨trivial, fun _ _ others₄ => ?_⟩
      refine ⟨trivial, fun decision _ others₅ => ?_⟩
      refine ⟨trivial, fun _ _ more hdecision => ?_⟩
      cases hdecision
      exact .inr ⟨approvalId, pending, by simp, by simp⟩

/-- Every body of a run calls gated tools after an answer. -/
def answered (env : Environment) (runId : String) : Discipline env where
  policy := answering runId
  Fixed resources := resources.approvalPrompt = some runId
  Good _ := True
  fixed_withGraph h _ := h
  looksUp _ _ _ _ _ := trivial
  converses _ _ _ _ _ _ _ _ _ _ := trivial
  nested _ _ _ _ _ _ _ _ := trivial
  generated _ _ h := execute_generated_always (fun _ => trivial) (fun _ _ _ => trivial)
    (fun _ _ _ => ⟨trivial, trivial⟩) fun _ _ _ _ =>
      call_gated_always h request_answered fun _ => id
  mcpCall _ h := execute_mcp_call_keeps (Policy.rules _) fun _ _ _ =>
    call_stdio_gated_always h request_answered fun _ => id

/-- What a run or a node of a run performs, it performs after the answers it needs. -/
theorem thread_answered {settings : RunSettings} {thread : ApprovalThread} {runId : String}
    (hrunId : thread.callsFor = some runId) {events before after : History} {event : Event Op Res}
    {rest : Program Op Res ThreadValue} (hrun : Program.Run (thread.program settings) events rest)
    (hevents : events = before ++ event :: after) :
    (answering runId).permitted before event.op := by
  have halways : Program.Always (answering runId).permitted (answering runId).allowed
      (thread.program settings) := by
    cases thread with
    | run runId' graph resources =>
        cases hrunId
        exact Program.Always.bind ((answered settings.env runId).execute_run_always
          (fun _ _ => trivial) (fun _ => trivial) rfl fun _ _ => trivial)
          fun _ => Program.Always.done _
    | node runId' ctx =>
        cases hrunId
        exact Program.Always.bind ((answered settings.env runId).execute_node_of_always
          (fun _ => trivial) rfl) fun _ => Program.Always.done _
    | request | resolve | clear => cases hrunId
  exact halways.run hrun (fun _ _ _ _ => trivial) hevents

/-! ## Where remembered decisions come from -/

section

variable {ι : Type} [DecidableEq ι] {settings : RunSettings} {threads : ι → ApprovalThread}
  {pool : ApprovalPool ι}

/-- A question of this run about a tool of this name was answered with this decision, to be
remembered. -/
def RememberedFor (threads : ι → ApprovalThread) (history : List (ι × Event Op Res))
    (runId toolName : String) (decision : Bool) : Prop :=
  ∃ asker resolver approvalId pending arguments,
    (asker, (⟨.approval (.addPending approvalId runId toolName arguments), pending⟩ :
      Event Op Res)) ∈ history ∧
    threads resolver = .resolve approvalId decision true ∧
    (resolver, (⟨.approval (.remember pending decision), ()⟩ : Event Op Res)) ∈ history

/-- Remembered decisions cover the questions of a run about the tools of a name, and nothing
else. -/
structure RememberedByTool (threads : ι → ApprovalThread) (pool : ApprovalPool ι) : Prop where
  called : ∀ thread runId before config server toolName arguments response after,
    (threads thread).callsFor = some runId →
    pool.history = before ++
      (thread, (⟨.callTool config server toolName arguments, response⟩ : Event Op Res)) :: after →
    config.trusted = false →
    (∃ approvalId pending,
      (thread, (⟨.approval (.addPending approvalId runId toolName arguments), pending⟩ :
        Event Op Res)) ∈ before ∧
      (thread, (⟨.approval (.readDecision pending), true⟩ : Event Op Res)) ∈ before) ∨
    RememberedFor threads before runId toolName true
  calledStdio : ∀ thread runId before config arguments env response after,
    (threads thread).callsFor = some runId →
    pool.history = before ++
      (thread, (⟨.callStdioTool config arguments env, response⟩ : Event Op Res)) :: after →
    config.requireApproval = true →
    (∃ approvalId pending,
      (thread, (⟨.approval (.addPending approvalId runId config.toolName arguments), pending⟩ :
        Event Op Res)) ∈ before ∧
      (thread, (⟨.approval (.readDecision pending), true⟩ : Event Op Res)) ∈ before) ∨
    RememberedFor threads before runId config.toolName true
  unasked : ∀ thread runId toolName decision before after,
    pool.history = before ++
      (thread, (⟨.approval (.checkRemembered runId toolName), some decision⟩ : Event Op Res)) ::
        after →
    RememberedFor threads before runId toolName decision

/-- What is remembered was remembered by a resolver for a question of the same run and tool. -/
theorem state_remembered (hreach : Pool.Reachable brokerEffect (startPool settings threads) pool)
    {runId toolName : String} {decision : Bool}
    (h : pool.state.remembered.get? (runId, toolName) = some decision) :
    RememberedFor threads pool.history runId toolName decision := by
  have hbroker : BrokerOf pool.state pool.events := (pool_sound hreach).state
  obtain ⟨pending, hmem, hrunId, htool⟩ :=
    (Replays.backed hbroker).remembered runId toolName decision h
  obtain ⟨resolver, hremember⟩ := mem_events.mp (mem_approvalEvents.mp hmem)
  obtain ⟨_, approvalId, approved, remember, hresolve⟩ :=
    pool_permitted (pool_sound hreach) hremember
  have hresolver := pool_thread_run hreach resolver
  rw [hresolve] at hresolver
  obtain ⟨rfl, rfl, hfound⟩ := resolve_remembers hresolver (Pool.mem_eventsOf.mpr hremember)
  -- The resolver found the object, so it had been added under the id that it looked up.
  obtain ⟨earlier, here, _, hearlier, hreplays, hstep⟩ :=
    hbroker.at_event (mem_events.mpr ⟨resolver, Pool.mem_eventsOf.mp hfound⟩)
  obtain ⟨_, _, arguments, hadded⟩ :=
    Replays.added hreplays (Prod.mk.inj (Option.some.inj hstep)).1
  have hadd := mem_approvalEvents.mp (hearlier.subset hadded)
  obtain ⟨_, there, _, _, _, hperform⟩ := hbroker.at_event hadd
  obtain ⟨asker, hasker⟩ := mem_events.mp hadd
  cases hperform
  cases hrunId
  cases htool
  exact ⟨asker, resolver, approvalId, _, arguments, hasker, hresolve, hremember⟩

/-- A request that is answered at once is answered from a remembered decision. -/
theorem check_remembered (hreach : Pool.Reachable brokerEffect (startPool settings threads) pool)
    {thread : ι} {runId toolName : String} {decision : Bool}
    {before after : List (ι × Event Op Res)}
    (h : pool.history = before ++
      (thread, (⟨.approval (.checkRemembered runId toolName), some decision⟩ : Event Op Res)) ::
        after) : RememberedFor threads before runId toolName decision := by
  obtain ⟨here, _, _, hhere, rfl, hstep, _⟩ := hreach.at_entry rfl h
  exact state_remembered hhere (Prod.mk.inj (Option.some.inj hstep)).1

omit [DecidableEq ι] in
theorem RememberedFor.mono {history more : List (ι × Event Op Res)} {runId toolName : String}
    {decision : Bool} (h : RememberedFor threads history runId toolName decision)
    (hmore : history ⊆ more) : RememberedFor threads more runId toolName decision := by
  obtain ⟨asker, resolver, approvalId, pending, arguments, hadd, hresolve, hremember⟩ := h
  exact ⟨asker, resolver, approvalId, pending, arguments, hmore hadd, hresolve, hmore hremember⟩

/-- The answers before a gated call are a question of the caller or a remembered decision. -/
theorem answered_before (hreach : Pool.Reachable brokerEffect (startPool settings threads) pool)
    {thread : ι} {runId toolName : String} {arguments : Config} {event : Event Op Res}
    {before after : List (ι × Event Op Res)} {earlier : History}
    (hhistory : pool.history = before ++ (thread, event) :: after)
    (hearlier : ∀ done, done ∈ earlier ↔ (thread, done) ∈ before)
    (h : Answered earlier runId toolName arguments) :
    (∃ approvalId pending,
      (thread, (⟨.approval (.addPending approvalId runId toolName arguments), pending⟩ :
        Event Op Res)) ∈ before ∧
      (thread, (⟨.approval (.readDecision pending), true⟩ : Event Op Res)) ∈ before) ∨
    RememberedFor threads before runId toolName true := by
  rcases h with hchecked | ⟨approvalId, pending, hadd, hread⟩
  · obtain ⟨first, rest, rfl⟩ := List.append_of_mem ((hearlier _).mp hchecked)
    rw [List.append_assoc, List.cons_append] at hhistory
    exact .inr ((check_remembered hreach hhistory).mono (List.subset_append_left _ _))
  · exact .inl ⟨approvalId, pending, (hearlier _).mp hadd, (hearlier _).mp hread⟩

/-- In every interleaving, a remembered decision covers its run and the name of its tool. -/
theorem remembered_by_tool
    (hreach : Pool.Reachable brokerEffect (startPool settings threads) pool) :
    RememberedByTool threads pool := by
  have hrun := pool_thread_run hreach
  refine ⟨?_, ?_, fun thread runId toolName decision before after => check_remembered hreach⟩
  · intro thread runId before config server toolName arguments response after hrunId hhistory
      htrusted
    obtain ⟨earlier, later, hevents, hearlier⟩ := Pool.eventsOf_at hhistory
    exact answered_before hreach hhistory hearlier
      (thread_answered hrunId (hrun thread) hevents htrusted)
  · intro thread runId before config arguments env response after hrunId hhistory hrequire
    obtain ⟨earlier, later, hevents, hearlier⟩ := Pool.eventsOf_at hhistory
    exact answered_before hreach hhistory hearlier
      (thread_answered hrunId (hrun thread) hevents hrequire)

end

/-! ### Two servers with a tool of one name -/

/-- The server whose tool the body of a thread calls: that of the connection it has found, or that
of its own configuration. -/
inductive ServerOf {ι : Type} (env : Environment) (threads : ι → ApprovalThread)
    (history : List (ι × Event Op Res)) (thread : ι) : McpServerConfig → Prop where
  | generated {runId : String} {ctx : ExecutionContext} {binding : GeneratedBinding} {name : String}
      {owner : Option String} {profile : ConnectionProfile} {config : McpServerConnectionConfig}
      (hthread : threads thread = .node runId ctx)
      (hbody : env.BodyOf ctx.node (.generated binding))
      (hfound : (thread, (⟨.getConnection name owner, some profile⟩ : Event Op Res)) ∈ history)
      (hconfig : McpServerConnectionConfig.parse profile.config = .ok config) :
      ServerOf env threads history thread (transportConfig config)
  | mcpCall {runId : String} {ctx : ExecutionContext} {config : McpCallConfig}
      (hthread : threads thread = .node runId ctx) (hbody : env.BodyOf ctx.node .mcpCall)
      (hconfig : McpCallConfig.parse ctx.node.config = .ok config) :
      ServerOf env threads history thread
        { transport := "stdio", command := config.command, args := config.args }

/-- A call of a server is answered at once only if the answer was remembered for a question about
the tool of the same server. -/
def RememberedByServer {ι : Type} (env : Environment) (threads : ι → ApprovalThread)
    (pool : ApprovalPool ι) : Prop :=
  ∀ thread runId toolName decision server before after,
    pool.history = before ++
      (thread, (⟨.approval (.checkRemembered runId toolName), some decision⟩ : Event Op Res)) ::
        after →
    ServerOf env threads pool.history thread server →
    ∃ asker resolver approvalId pending arguments,
      (asker, (⟨.approval (.addPending approvalId runId toolName arguments), pending⟩ :
        Event Op Res)) ∈ before ∧
      ServerOf env threads pool.history asker server ∧
      threads resolver = .resolve approvalId decision true ∧
      (resolver, (⟨.approval (.remember pending decision), ()⟩ : Event Op Res)) ∈ before

/-- A connection that is not trusted. -/
def untrustedProfile (name url : String) : ConnectionProfile where
  name
  type := "mcp_server"
  config := .ofList [("transport", .str "remote"), ("url", .str url)]

/-- The type generated for the tool `send` of a connection. -/
def sendOf (connectionName : String) : GeneratedBinding :=
  ⟨connectionName, { name := "send", paramNames := [], paramJsonTypes := .empty }, none⟩

/-- A process with the types of two connections. -/
def sendEnvironment : Environment where
  registry := processRegistry plainPython (fun _ _ => none) [sendOf "chat", sendOf "bank"]
  connectionTypes := .empty
  python := plainPython

/-- A node that sends through a connection. -/
def sendNode (connectionName : String) : ExecutionContext where
  node := { id := connectionName, type := typeNameFor connectionName "send" none }
  inputs := .dict .empty
  resources := {}

/-- Two nodes of a run that send through different connections, and a resolver that is asked
about the first. -/
def sendThreads : Fin 3 → ApprovalThread
  | 0 => .node "run" (sendNode "chat")
  | 1 => .resolve "0" true true
  | 2 => .node "run" (sendNode "bank")

def sendSettings : RunSettings := ⟨sendEnvironment, 3, dumpNothing⟩

/-- The two connections are stored. -/
def sendAnswers : (op : Op) → Res op :=
  mailAnswers [untrustedProfile "chat" "https://chat", untrustedProfile "bank" "https://bank"]

/-- The second node comes when the first has been answered. -/
def sendSchedule : List (Fin 3) := [0, 0, 0, 0, 0, 1, 1, 1, 1, 0, 0, 0, 0, 2, 2, 2, 2]

/-- The approval that the first node asks for. -/
def sendPending : PendingApproval := ⟨0, "0", "run", "send", .empty⟩

/-- The parsed configuration of a connection. -/
def sendConfig (url : String) : McpServerConnectionConfig := { transport := "remote", url }

/-- The first node asks, and the second one does not. -/
def sendHistory : List (Fin 3 × Event Op Res) :=
  [(0, ⟨.executeGenerated (sendOf "chat"), ()⟩),
    (0, ⟨.getConnection "chat" none, some (untrustedProfile "chat" "https://chat")⟩),
    (0, ⟨.approval (.checkRemembered "run" "send"), none⟩), (0, ⟨.uuid4, "0"⟩),
    (0, ⟨.approval (.addPending "0" "run" "send" .empty), sendPending⟩),
    (1, ⟨.approval (.getPending "0"), some sendPending⟩),
    (1, ⟨.approval (.setDecision sendPending true), ()⟩),
    (1, ⟨.approval (.remember sendPending true), ()⟩),
    (1, ⟨.approval (.setEvent sendPending), ()⟩), (0, ⟨.approval (.wait sendPending), ()⟩),
    (0, ⟨.approval (.readDecision sendPending), true⟩), (0, ⟨.approval (.popPending "0"), ()⟩),
    (0, ⟨.callTool (sendConfig "https://chat") (transportConfig (sendConfig "https://chat")) "send"
      .empty, .ok "[]"⟩),
    (2, ⟨.executeGenerated (sendOf "bank"), ()⟩),
    (2, ⟨.getConnection "bank" none, some (untrustedProfile "bank" "https://bank")⟩)] ++
  (2, ⟨.approval (.checkRemembered "run" "send"), some true⟩) ::
  [(2, ⟨.callTool (sendConfig "https://bank") (transportConfig (sendConfig "https://bank")) "send"
    .empty, .ok "[]"⟩)]

set_option maxRecDepth 20000 in
theorem send_follow : ∃ pool,
    (startPool sendSettings sendThreads).follow (brokerRespond sendAnswers) sendSchedule =
      some pool ∧ pool.threads 2 = .done (.ran (.ok ())) ∧ pool.history = sendHistory :=
  ⟨_, rfl, rfl, rfl⟩

/-- The decision that was remembered covers the tool of both servers. -/
theorem send_remembered_by_tool : ∃ pool,
    (startPool sendSettings sendThreads).follow (brokerRespond sendAnswers) sendSchedule =
      some pool ∧
    pool.threads 2 = .done (.ran (.ok ())) ∧ RememberedByTool sendThreads pool := by
  obtain ⟨pool, hfollow, hdone, _⟩ := send_follow
  exact ⟨pool, hfollow, hdone,
    remembered_by_tool (Pool.reachable_of_follow (fun _ _ _ _ => broker_respond_effect) hfollow)⟩

set_option maxRecDepth 20000 in
/-- The bodies of the two nodes. -/
theorem send_bodies :
    sendEnvironment.BodyOf (sendNode "chat").node (.generated (sendOf "chat")) ∧
      sendEnvironment.BodyOf (sendNode "bank").node (.generated (sendOf "bank")) :=
  ⟨⟨_, rfl, rfl⟩, ⟨_, rfl, rfl⟩⟩

/-- The first node only knows the server of its own connection. -/
theorem server_of_first {server : McpServerConfig}
    (h : ServerOf sendEnvironment sendThreads sendHistory 0 server) :
    server.url = "https://chat" := by
  cases h with
  | @generated runId ctx binding name owner profile config hthread hbody hfound hconfig =>
      have hprofile : profile = untrustedProfile "chat" "https://chat" := by
        simp [sendHistory] at hfound
        exact hfound.2
      subst hprofile
      have hparsed : McpServerConnectionConfig.parse
          (untrustedProfile "chat" "https://chat").config = .ok (sendConfig "https://chat") := rfl
      cases hparsed.symm.trans hconfig
      rfl
  | mcpCall hthread hbody hconfig =>
      cases hthread
      obtain ⟨definition, hdef, hexecute⟩ := hbody
      obtain ⟨generated, hgenerated, hbinding⟩ := send_bodies.1
      cases hdef.symm.trans hgenerated
      cases hexecute.symm.trans hbinding

/-- The second node sends to a server about which nobody was asked. -/
theorem second_server_unasked : ∃ pool,
    Pool.Reachable brokerEffect (startPool sendSettings sendThreads) pool ∧
    pool.threads 2 = .done (.ran (.ok ())) ∧
    ¬ RememberedByServer sendEnvironment sendThreads pool := by
  obtain ⟨pool, hfollow, hdone, hhistory⟩ := send_follow
  refine ⟨pool, Pool.reachable_of_follow (fun _ _ _ _ => broker_respond_effect) hfollow, hdone,
    fun h => ?_⟩
  unfold RememberedByServer at h
  rw [hhistory] at h
  obtain ⟨asker, _, _, _, _, hadd, hserver, _⟩ := h 2 "run" "send" true
    (transportConfig (sendConfig "https://bank")) _ _ rfl
    (@ServerOf.generated _ _ _ _ _ "run" (sendNode "bank") (sendOf "bank") "bank" none
      (untrustedProfile "bank" "https://bank") (sendConfig "https://bank") rfl send_bodies.2
      (by simp [sendHistory]) rfl)
  have hasker : asker = 0 := by
    simp at hadd
    exact hadd.1
  subst hasker
  exact absurd (server_of_first hserver) (by decide)

end AgentGraphStudio
