import AgentGraphStudio.Api.RequestBounds
import AgentGraphStudio.Mcp.GeneratedNodes

/-!
# Executions of generated nodes against the backend

An execution looks a connection and a credential up in the stores of the backend and refreshes an
expired token there. `executeOn` runs the body of a generated type with answers from the backend;
what others answer is left to a `world`. `execution_calls` says what the server is that a tool is
called on, in terms of `serverConfigOf`, by which requests find their server as well.
-/

namespace AgentGraphStudio

open Stateful (Keeps stateOf)

/-- The answer to an operation of an execution, from the stores of the backend or from the world. -/
def backendAnswer (outside : Outside) (world : (op : Op) → Res op) :
    (op : Op) → Backend → Res op × Backend
  | .getConnection name userId, backend => (getConnection backend.store name userId, backend)
  | .getApiKey userId name, backend => (.ok (backend.apiKeys.get? (userId, name)), backend)
  | .getValidAccessToken userId name, backend =>
    match (getValidAccessToken outside userId name).run backend with
    | .ok token after => (.ok token, after)
    | .error e after => (.error (.exception e), after)
  | op, backend => (world op, backend)

/-- An execution of a generated node: what it performs, how it ends, and the backend after it. -/
def executeOn (outside : Outside) (world : (op : Op) → Res op) (python : Python)
    (binding : GeneratedBinding) (ctx : ExecutionContext) (backend : Backend) :
    History × Except Raised NodeResult × Backend :=
  (executeGenerated python binding ctx).run.serve (backendAnswer outside world) backend

section

variable {outside : Outside} {world : (op : Op) → Res op} {backend : Backend}

@[simp] theorem answer_executeGenerated (binding : GeneratedBinding) :
    backendAnswer outside world (.executeGenerated binding) backend = ((), backend) := rfl

@[simp] theorem answer_getConnection (name : String) (userId : Option String) :
    backendAnswer outside world (.getConnection name userId) backend =
      (getConnection backend.store name userId, backend) := rfl

/-- An operation is answered, and the rest is served from the state after it. -/
theorem served_perform {α : Type} (op : Op) (next : Res op → Act α) :
    (Act.perform op >>= next).run.serve (backendAnswer outside world) backend =
      (⟨op, (backendAnswer outside world op backend).1⟩ ::
          ((next (backendAnswer outside world op backend).1).run.serve
            (backendAnswer outside world) (backendAnswer outside world op backend).2).1,
        ((next (backendAnswer outside world op backend).1).run.serve
          (backendAnswer outside world) (backendAnswer outside world op backend).2).2) := rfl

/-- A computation is served before what follows its value. -/
theorem served_bind {α β : Type} (act : Act α) (f : α → Act β) :
    (act >>= f).run.serve (backendAnswer outside world) backend =
      match act.run.serve (backendAnswer outside world) backend with
      | (events, .ok value, after) =>
        (events ++ ((f value).run.serve (backendAnswer outside world) after).1,
          ((f value).run.serve (backendAnswer outside world) after).2)
      | (events, .error raised, after) => (events, .error raised, after) := by
  show (act.run.bind (ExceptT.bindCont f)).serve _ backend = _
  rw [Program.serve_bind]
  rcases act.run.serve (backendAnswer outside world) backend with ⟨events, raised | value, after⟩
  · show (events ++ [], _) = _
    rw [List.append_nil]
    rfl
  · rfl

/-- The outcome of a step as the outcome of an execution. -/
def servedOutcome {α : Type} : EStateM.Result String Backend α → Except Raised α × Backend
  | .ok value after => (.ok value, after)
  | .error e after => (.error (.exception e), after)

/-- An execution finds its server as a request does. -/
theorem server_config_for_served (config : McpServerConnectionConfig) (connectionName : String)
    (userId : Option String) :
    ((serverConfigFor config connectionName userId).run.serve (backendAnswer outside world)
      backend).2 =
    servedOutcome ((serverConfigOf outside config connectionName userId).run backend) := by
  unfold serverConfigFor serverConfigOf
  -- The two follow the same branches, one with operations and one on the backend.
  by_cases hauth : config.authType ≠ "oauth2"
  · rw [if_pos hauth, if_pos hauth]
    cases userId with
    | none => rfl
    | some user =>
        have hanswer : backendAnswer outside world (.getApiKey user connectionName) backend =
            (.ok (backend.apiKeys.get? (user, connectionName)), backend) := rfl
        dsimp only
        rw [served_perform, hanswer, Stateful.run_get_bind]
        cases backend.apiKeys.get? (user, connectionName) <;> rfl
  · rw [if_neg hauth, if_neg hauth]
    by_cases hrequires : config.requiresOauth
    · rw [if_pos hrequires, if_pos hrequires]
      cases userId with
      | none => rfl
      | some user =>
          have hanswer : backendAnswer outside world (.getValidAccessToken user connectionName)
              backend = servedOutcome ((getValidAccessToken outside user connectionName).run
                backend) := by
            show (match (getValidAccessToken outside user connectionName).run backend with
              | .ok token after => _
              | .error e after => _) = _
            cases (getValidAccessToken outside user connectionName).run backend <;> rfl
          dsimp only
          rw [served_perform, hanswer, EStateM.run_bind]
          cases (getValidAccessToken outside user connectionName).run backend <;> rfl
    · rw [if_neg hrequires, if_neg hrequires]
      rfl

/-- Only servers of this kind are called. -/
def callPolicy (calls : McpServerConnectionConfig → McpServerConfig → Prop) : Policy :=
  .ofOps (fun op => ∀ config server toolName arguments,
    op = .callTool config server toolName arguments → calls config server) fun op hroutine => by
      rintro config server toolName arguments rfl
      exact hroutine.elim

/-- The calls that a policy permits are those that are served. -/
theorem served_calls {α : Type} {calls : McpServerConnectionConfig → McpServerConfig → Prop}
    {act : Act α} (h : act.Always (callPolicy calls)) {event : Event Op Res}
    (hevent : event ∈ (act.run.serve (backendAnswer outside world) backend).1)
    {config : McpServerConnectionConfig} {server : McpServerConfig} {toolName : String}
    {arguments : Config} (hcall : event.op = .callTool config server toolName arguments) :
    calls config server :=
  Policy.ofOps_run h (Program.ends_serve _ _) event hevent config server toolName arguments hcall

/-- Finding a server calls none. -/
theorem server_config_for_calls (config : McpServerConnectionConfig) (connectionName : String)
    (userId : Option String) :
    (serverConfigFor config connectionName userId).Always (callPolicy fun _ _ => False) :=
  fun _ => (server_config_for_certified fun _ _ _ => ⟨fun _ _ _ _ h => Op.noConfusion h,
    fun _ _ _ _ h => Op.noConfusion h⟩).mono fun _ _ _ => trivial

/-- The tool call that follows the search for a server goes to the server that was found. -/
theorem found_call {python : Python} {binding : GeneratedBinding} {resources : Resources}
    {inputs : Inputs} {read config : McpServerConnectionConfig} {connectionName : String}
    {userId : Option String} {event : Event Op Res} {server : McpServerConfig} {toolName : String}
    {arguments : Config}
    (hevent : event ∈ ((serverConfigFor read connectionName userId >>= fun server =>
      Act.ofExcept (toolArguments python binding.tool inputs) >>= fun arguments =>
        callGated binding resources connectionName read server arguments).run.serve
      (backendAnswer outside world) backend).1)
    (hcall : event.op = .callTool config server toolName arguments) :
    ∃ after, read = config ∧
      (serverConfigOf outside read connectionName userId).run backend = .ok server after := by
  -- The search calls no tool itself.
  have hsearch : ∀ events outcome, (serverConfigFor read connectionName userId).run.serve
      (backendAnswer outside world) backend = (events, outcome) → event ∉ events := by
    intro events outcome hrun hmem
    have hmem : event ∈ ((serverConfigFor read connectionName userId).run.serve
        (backendAnswer outside world) backend).1 := by
      rw [hrun]
      exact hmem
    exact served_calls (server_config_for_calls read connectionName userId) hmem hcall
  have hserved := @server_config_for_served outside world backend read connectionName userId
  rw [served_bind] at hevent
  rcases hrun : (serverConfigFor read connectionName userId).run.serve (backendAnswer outside world)
    backend with ⟨events, raised | found, after⟩
  · rw [hrun] at hevent
    exact absurd hevent (hsearch _ _ hrun)
  · rw [hrun] at hevent hserved
    rcases List.mem_append.mp hevent with hfirst | hrest
    · exact absurd hfirst (hsearch _ _ hrun)
    · cases harguments : toolArguments python binding.tool inputs with
      | error raised =>
          rw [harguments] at hrest
          cases hrest
      | ok given =>
          rw [harguments] at hrest
          have hgated : (callGated binding resources connectionName read found given).Always
              (callPolicy fun config server => config = read ∧ server = found) := by
            intro history
            refine call_gated_certified fun others config server toolName arguments hop => ?_
            cases hop
            exact ⟨rfl, rfl⟩
          obtain ⟨rfl, rfl⟩ := served_calls hgated hrest hcall
          cases hfound : (serverConfigOf outside config connectionName userId).run backend with
          | ok server' final =>
              rw [hfound] at hserved
              cases hserved
              exact ⟨_, rfl, rfl⟩
          | error e final =>
              rw [hfound] at hserved
              cases hserved

/-- Every tool call of an execution goes to the server of the connection that the execution looked
up, with the credential of the user it is for. -/
theorem execution_calls {python : Python} {binding : GeneratedBinding} {ctx : ExecutionContext}
    {event : Event Op Res} {config : McpServerConnectionConfig} {server : McpServerConfig}
    {toolName : String} {arguments : Config}
    (hevent : event ∈ (executeOn outside world python binding ctx backend).1)
    (hcall : event.op = .callTool config server toolName arguments) :
    ∃ profile after,
      getConnection backend.store (resolveTarget binding ctx.resources).1
        (resolveTarget binding ctx.resources).2 = some profile ∧
      McpServerConnectionConfig.parse profile.config = .ok config ∧
      (serverConfigOf outside config (resolveTarget binding ctx.resources).1
        (tokenUserId binding ctx.resources profile)).run backend = .ok server after := by
  unfold executeOn executeGenerated at hevent
  rw [served_perform, served_perform] at hevent
  dsimp only at hevent
  -- The operations before the call are no tool calls.
  have hnot : ∀ {op : Op} {response : Res op}, event = ⟨op, response⟩ →
      op = .callTool config server toolName arguments := by
    rintro op response rfl
    exact hcall
  rcases List.mem_cons.mp hevent with hfirst | hevent
  · cases hnot hfirst
  rcases List.mem_cons.mp hevent with hsecond | hevent
  · cases hnot hsecond
  rw [answer_executeGenerated, answer_getConnection] at hevent
  cases hprofile : getConnection backend.store (resolveTarget binding ctx.resources).1
      (resolveTarget binding ctx.resources).2 with
  | none =>
      rw [hprofile] at hevent
      cases hevent
  | some profile =>
      rw [hprofile] at hevent
      dsimp only at hevent
      unfold executeWithProfile at hevent
      cases hparse : McpServerConnectionConfig.parse profile.config with
      | error e =>
          rw [hparse] at hevent
          cases hevent
      | ok read =>
          rw [hparse] at hevent
          obtain ⟨after, rfl, hserver⟩ := found_call hevent hcall
          exact ⟨profile, after, rfl, hparse, hserver⟩

/-- An execution leaves at most a fresh token behind. -/
theorem execution_keeps_within {members : ConnectionProfile → Prop}
    {holds : CredentialKind → String × String → Prop} {python : Python}
    {binding : GeneratedBinding} {ctx : ExecutionContext} (h : Within members holds backend) :
    Within members holds (executeOn outside world python binding ctx backend).2.2 := by
  refine Program.serve_keeps (fun op backend hwithin => ?_) _ h
  unfold backendAnswer
  split
  · exact hwithin
  · exact hwithin
  · rename_i user name
    have hkeeps := (get_valid_access_token_keeps_within user name : Keeps (Within members holds)
      (getValidAccessToken outside user name) fun _ => True).stateOf hwithin
    split
    · rename_i hrun
      rwa [hrun] at hkeeps
    · rename_i hrun
      rwa [hrun] at hkeeps
  · exact hwithin

end

end AgentGraphStudio
