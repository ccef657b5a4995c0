import AgentGraphStudio.Execution.ApprovalGate

/-!
# Generated MCP nodes

`backend/mcp/generated_nodes.py`: the body of a node type that was generated for one tool of a
saved `mcp_server` connection. It resolves the connection again on every execution, attaches
a personal credential if the server needs one, asks the approval gate unless the connection is
trusted, and calls the tool.
-/

namespace AgentGraphStudio

/-- The name of a generated type. That of a private connection carries its owner. -/
def typeNameFor (connectionName toolName : String) : Option String → String
  | none => s!"mcp__{connectionName}__{toolName}"
  | some ownerUserId => s!"mcp__u_{ownerUserId}__{connectionName}__{toolName}"

/-- The server with the user's credential in its headers. -/
def withBearer (base : McpServerConfig) (credential : String) : McpServerConfig :=
  { base with headers := base.headers.set "Authorization" s!"Bearer {credential}" }

/-- The server of a connection, with the personal credential it needs. -/
def serverConfigFor (config : McpServerConnectionConfig) (connectionName : String)
    (ownerUserId : Option String) : Act McpServerConfig :=
  if config.authType ≠ "oauth2" then
    match ownerUserId with
    | none =>
      Act.raise (s!"mcp_server connection '{connectionName}' needs a personal API key but has " ++
        "no owning user")
    | some userId => do
      match ← Act.ofExcept (← Act.perform (.getApiKey userId connectionName)) with
      | none =>
        Act.raise (s!"mcp_server connection '{connectionName}' needs a personal API key -- " ++
          "connect it first (Settings -> Connections)")
      | some apiKey => pure (withBearer (transportConfig config) apiKey)
  else if config.requiresOauth then
    match ownerUserId with
    | none =>
      Act.raise s!"mcp_server connection '{connectionName}' requires OAuth but has no owning user"
    | some userId => do
      let token ← Act.ofExcept (← Act.perform (.getValidAccessToken userId connectionName))
      pure (withBearer (transportConfig config) token)
  else pure (transportConfig config)

/-- The name and owner under which an execution looks its connection up: those captured at
generation, or a connection that another running user has mapped to the slot. -/
def resolveTarget (binding : GeneratedBinding) (resources : Resources) : String × Option String :=
  match resources.runningUserId with
  | none => (binding.connectionName, binding.ownerUserId)
  | some runningUserId =>
    if some runningUserId ≠ binding.ownerUserId then
      match resources.slotMappings.get? binding.connectionName with
      | some mappedName => (mappedName, some runningUserId)
      | none => (binding.connectionName, binding.ownerUserId)
    else (binding.connectionName, binding.ownerUserId)

/-- Call the tool of a connection. -/
def callConnectionTool (binding : GeneratedBinding) (resolveName : String)
    (config : McpServerConnectionConfig) (server : McpServerConfig) (arguments : Config) :
    Act NodeResult := do
  let resultText ← Act.exceptException
    (do Act.ofExcept (← Act.perform (.callTool config server binding.tool.name arguments)))
    fun e => Act.raise s!"{resolveName}.{binding.tool.name} failed: {e}"
  pure { outputs := .ofList [("result", .str resultText)], sideEffect := true }

/-- Call the tool of a connection, after the approval gate unless the connection is trusted. -/
def callGated (binding : GeneratedBinding) (resources : Resources) (resolveName : String)
    (config : McpServerConnectionConfig) (server : McpServerConfig) (arguments : Config) :
    Act NodeResult :=
  if config.trusted then callConnectionTool binding resolveName config server arguments
  else do
    requireApproval resources binding.tool.name arguments
    callConnectionTool binding resolveName config server arguments

/-- The user whose credential is attached: the running user for a global profile, and the
resolved owner for a private one. -/
def tokenUserId (binding : GeneratedBinding) (resources : Resources)
    (profile : ConnectionProfile) : Option String :=
  if profile.userId = none then resources.runningUserId
  else (resolveTarget binding resources).2

/-- Use a profile that was found. -/
def executeWithProfile (python : Python) (binding : GeneratedBinding) (ctx : ExecutionContext)
    (profile : ConnectionProfile) : Act NodeResult := do
  let resolveName := (resolveTarget binding ctx.resources).1
  let config ← Act.ofExcept
    ((McpServerConnectionConfig.parse profile.config).mapError Raised.exception)
  let server ← serverConfigFor config resolveName (tokenUserId binding ctx.resources profile)
  let arguments ← Act.ofExcept (toolArguments python binding.tool ctx.inputs)
  callGated binding ctx.resources resolveName config server arguments

/-- The body of a generated type (`_make_execute`). -/
def executeGenerated (python : Python) (binding : GeneratedBinding) (ctx : ExecutionContext) :
    Act NodeResult := do
  Act.perform (.executeGenerated binding)
  let target := resolveTarget binding ctx.resources
  match ← Act.perform (.getConnection target.1 target.2) with
  | none => Act.raise s!"mcp_server connection '{target.1}' no longer exists"
  | some profile => executeWithProfile python binding ctx profile

/-! ## What an execution performs -/

/-- The server is that of the connection, without a credential or with one that was read for
this user before. -/
def Attached (history : History) (userId : Option String) (config : McpServerConnectionConfig)
    (server : McpServerConfig) : Prop :=
  server = transportConfig config ∨ ∃ user name credential, userId = some user ∧
    server = withBearer (transportConfig config) credential ∧
    ((⟨.getApiKey user name, .ok (some credential)⟩ : Event Op Res) ∈ history ∨
      (⟨.getValidAccessToken user name, .ok credential⟩ : Event Op Res) ∈ history)

theorem Attached.append {history : History} {userId : Option String}
    {config : McpServerConnectionConfig} {server : McpServerConfig}
    (h : Attached history userId config server) (more : History) :
    Attached (history ++ more) userId config server := by
  rcases h with hplain | ⟨user, name, credential, huser, hserver, hmem⟩
  · exact .inl hplain
  · exact .inr ⟨user, name, credential, huser, hserver,
      hmem.imp (List.mem_append_left _) (List.mem_append_left _)⟩

section

variable {policy : Policy} {binding : GeneratedBinding} {resources : Resources}
  {resolveName : String} {config : McpServerConnectionConfig} {server : McpServerConfig}
  {arguments : Config} {history : History}

/-- The call itself needs the permission to call. -/
theorem call_connection_tool_certified
    (h : ∀ others, policy.permitted (history ++ others)
      (.callTool config server binding.tool.name arguments)) :
    Program.Certified policy.permitted policy.allowed history
      (callConnectionTool binding resolveName config server arguments).run fun _ _ => True := by
  intro others
  refine ⟨h others, fun response _ => ?_⟩
  rcases response with ⟨_ | _⟩ | _ <;> exact Program.Always.done _ _

/-- With the permission to call, the gate makes no difference. -/
theorem call_gated_certified
    (h : ∀ others, policy.permitted (history ++ others)
      (.callTool config server binding.tool.name arguments)) :
    Program.Certified policy.permitted policy.allowed history
      (callGated binding resources resolveName config server arguments).run fun _ _ => True := by
  rw [callGated]
  split
  · exact call_connection_tool_certified h
  · refine (require_approval_keeps policy.rules resources binding.tool.name arguments history).bind
      fun more outcome _ => ?_
    cases outcome with
    | error raised => exact Program.Always.done _ _
    | ok _ =>
        refine call_connection_tool_certified fun others => ?_
        rw [List.append_assoc]
        exact h _

/-- Behind the gate, the permission to call an untrusted connection's tool comes from the
grant. -/
theorem call_gated_always {runId : String} (hrun : resources.approvalPrompt = some runId)
    {Grant : History → Prop} (hrequest : policy.Requests runId binding.tool.name arguments Grant)
    (hcall : ∀ history, (config.trusted = false → Grant history) →
      policy.permitted history (.callTool config server binding.tool.name arguments)) :
    (callGated binding resources resolveName config server arguments).Always policy := by
  rw [callGated]
  split
  · rename_i htrusted
    intro history
    exact call_connection_tool_certified fun others => hcall _ fun h => by simp [htrusted] at h
  · exact require_approval_bind hrun hrequest fun history hgranted =>
      call_connection_tool_certified fun others => hcall _ fun _ => hgranted others

/-- Only credentials of the given user are read, and only what was read is attached. -/
theorem server_config_for_certified {connectionName : String} {userId : Option String}
    (h : ∀ user, userId = some user → ∀ others,
      policy.permitted (history ++ others) (.getApiKey user connectionName) ∧
        policy.permitted (history ++ others) (.getValidAccessToken user connectionName)) :
    Program.Certified policy.permitted policy.allowed history
      (serverConfigFor config connectionName userId).run
      fun history outcome => ∀ server, outcome = .ok server →
        Attached history userId config server := by
  unfold serverConfigFor
  split
  · cases userId with
    | none => exact fun _ _ => nofun
    | some user =>
        intro others
        refine ⟨(h user rfl others).1, fun response _ => ?_⟩
        rcases response with raised | ⟨_ | credential⟩
        · exact fun _ _ => nofun
        · exact fun _ _ => nofun
        · rintro more server ⟨⟩
          exact .inr ⟨user, connectionName, credential, rfl, rfl, .inl (by simp)⟩
  · split
    · cases userId with
      | none => exact fun _ _ => nofun
      | some user =>
          intro others
          refine ⟨(h user rfl others).2, fun response _ => ?_⟩
          cases response with
          | error raised => exact fun _ _ => nofun
          | ok credential =>
              rintro more server ⟨⟩
              exact .inr ⟨user, connectionName, credential, rfl, rfl, .inr (by simp)⟩
    · rintro more server ⟨⟩
      exact .inl rfl

/-- Using a profile reads credentials of one user and ends in the gated call. -/
theorem execute_with_profile_certified {python : Python} {ctx : ExecutionContext}
    {profile : ConnectionProfile}
    (hreads : ∀ user name others, tokenUserId binding ctx.resources profile = some user →
      policy.permitted (history ++ others) (.getApiKey user name) ∧
        policy.permitted (history ++ others) (.getValidAccessToken user name))
    (hcall : ∀ more name config server arguments,
      McpServerConnectionConfig.parse profile.config = .ok config →
      (∀ others, Attached (history ++ more ++ others) (tokenUserId binding ctx.resources profile)
        config server) →
      Program.Certified policy.permitted policy.allowed (history ++ more)
        (callGated binding ctx.resources name config server arguments).run fun _ _ => True) :
    Program.Certified policy.permitted policy.allowed history
      (executeWithProfile python binding ctx profile).run fun _ _ => True := by
  refine Act.certified_ofExcept_bind fun config hconfig => ?_
  refine Program.Certified.bind (server_config_for_certified
    fun user huser others => hreads user _ others huser) fun more outcome hattached => ?_
  cases outcome with
  | error raised => exact Program.Always.done _ _
  | ok server =>
      exact Act.certified_ofExcept_bind fun arguments _ =>
        hcall more _ _ _ _ (mapError_eq_ok.mp hconfig) fun others => hattached others server rfl

section

variable {permits : Op → Prop} {P : ∀ α : Type, Program Op Res α → Prop}

theorem call_connection_tool_keeps (rules : Rules permits P)
    (h : permits (.callTool config server binding.tool.name arguments)) :
    P _ (callConnectionTool binding resolveName config server arguments).run := by
  refine rules.act_bind (rules.act_exceptException ?_ fun _ => rules.act_raise _) fun _ =>
    rules.act_pure _
  exact rules.act_bind (rules.act_perform h) fun _ => rules.act_ofExcept _

/-- With the permission to call, the gate makes no difference. -/
theorem call_gated_keeps (rules : Rules permits P)
    (h : permits (.callTool config server binding.tool.name arguments)) :
    P _ (callGated binding resources resolveName config server arguments).run := by
  rw [callGated]
  split
  · exact call_connection_tool_keeps rules h
  · exact rules.act_bind (require_approval_keeps rules _ _ _) fun _ =>
      call_connection_tool_keeps rules h

theorem server_config_for_keeps (rules : Rules permits P) {connectionName : String}
    {userId : Option String} (h : ∀ user, permits (.getApiKey user connectionName) ∧
      permits (.getValidAccessToken user connectionName)) :
    P _ (serverConfigFor config connectionName userId).run := by
  unfold serverConfigFor
  split
  · cases userId with
    | none => exact rules.act_raise _
    | some user =>
        refine rules.act_bind (rules.act_perform (h user).1) fun response => ?_
        refine rules.act_bind (rules.act_ofExcept _) fun apiKey => ?_
        cases apiKey with
        | none => exact rules.act_raise _
        | some apiKey => exact rules.act_pure _
  · split
    · cases userId with
      | none => exact rules.act_raise _
      | some user =>
          refine rules.act_bind (rules.act_perform (h user).2) fun response => ?_
          exact rules.act_bind (rules.act_ofExcept _) fun token => rules.act_pure _
    · exact rules.act_pure _

/-- The body of a generated type keeps what its operations keep. -/
theorem execute_generated_keeps (rules : Rules permits P) {python : Python}
    {ctx : ExecutionContext} (hstart : permits (.executeGenerated binding))
    (hconnection : ∀ name userId, permits (.getConnection name userId))
    (hcredential : ∀ userId name, permits (.getApiKey userId name) ∧
      permits (.getValidAccessToken userId name))
    (hcall : ∀ config server arguments,
      permits (.callTool config server binding.tool.name arguments)) :
    P _ (executeGenerated python binding ctx).run := by
  refine rules.act_bind (rules.act_perform hstart) fun _ => ?_
  refine rules.act_bind (rules.act_perform (hconnection _ _)) fun profile => ?_
  cases profile with
  | none => exact rules.act_raise _
  | some profile =>
      refine rules.act_bind (rules.act_ofExcept _) fun config => ?_
      refine rules.act_bind (server_config_for_keeps rules fun user => hcredential user _)
        fun server => ?_
      refine rules.act_bind (rules.act_ofExcept _) fun arguments => ?_
      exact call_gated_keeps rules (hcall _ _ _)

end

/-- The body keeps what its gated call keeps, where it may read all it needs. -/
theorem execute_generated_always {python : Python} {ctx : ExecutionContext}
    (hstart : ∀ history, policy.permitted history (.executeGenerated binding))
    (hconnection : ∀ history name userId, policy.permitted history (.getConnection name userId))
    (hcredential : ∀ history userId name, policy.permitted history (.getApiKey userId name) ∧
      policy.permitted history (.getValidAccessToken userId name))
    (hcall : ∀ name config server arguments,
      (callGated binding ctx.resources name config server arguments).Always policy) :
    (executeGenerated python binding ctx).Always policy := by
  refine Act.always_bind (Act.always_perform hstart) fun _ => ?_
  refine Act.always_bind (Act.always_perform fun _ => hconnection _ _ _) fun profile => ?_
  cases profile with
  | none => exact Act.always_raise _
  | some profile =>
      exact fun history => execute_with_profile_certified
        (fun _ _ _ _ => hcredential _ _ _) fun _ _ _ _ _ _ _ => hcall _ _ _ _ _

end

end AgentGraphStudio
