import AgentGraphStudio.Execution.ApprovalGate
import AgentGraphStudio.Nodes.Core

/-!
# The `mcp_call` node

`backend/nodes/mcp_call.py`: find a tool on a local server and call it. Unless the node's
`require_approval` is switched off, the approval gate is asked first.
-/

namespace AgentGraphStudio

def McpCallConfig.parse (config : Config) : Except String McpCallConfig := do
  let command ← config.required "command" Json.str?
  let args ← config.withDefault "args" Json.strList? []
  let toolName ← config.required "tool_name" Json.str?
  let credentialRef ← config.optionalStr "credential_ref"
  let requireApproval ← config.withDefault "require_approval" Json.bool? true
  pure { command, args, toolName, credentialRef, requireApproval }

/-- The credential that the node adds to the server's environment. -/
def credentialEnv (python : Python) (config : McpCallConfig) (resources : Resources) :
    Option (String × String) :=
  match config.credentialRef with
  | none | some "" => none
  | some credentialRef =>
    (resources.text credentialRef).map fun credential => (python.upper credentialRef, credential)

/-- Call the tool. -/
def callStdioTool (config : McpCallConfig) (arguments : Config) (env : Option (String × String)) :
    Act NodeResult := do
  let resultText ← Act.exceptException
    (do Act.ofExcept (← Act.perform (.callStdioTool config arguments env)))
    fun e => Act.raise s!"mcp_call failed: {e}"
  pure { outputs := .ofList [("result", .str resultText)], sideEffect := true }

/-- Call the tool, after the approval gate if the node requires it. -/
def callStdioGated (config : McpCallConfig) (resources : Resources) (arguments : Config)
    (env : Option (String × String)) : Act NodeResult :=
  if config.requireApproval then do
    requireApproval resources config.toolName arguments
    callStdioTool config arguments env
  else callStdioTool config arguments env

def executeMcpCall (python : Python) (ctx : ExecutionContext) : Act NodeResult := do
  let config ← Act.ofExcept (validated (McpCallConfig.parse ctx.node.config))
  let tools ← Act.exceptException
    (do Act.ofExcept (← Act.perform (.listTools config.command config.args)))
    fun e => Act.raise s!"mcp_call failed to resolve tool: {e}"
  match findTool tools config.toolName with
  | none =>
    let available := if tools = [] then "(none)" else ", ".intercalate (tools.map McpToolInfo.name)
    Act.raise (s!"MCP tool '{config.toolName}' not found on server; available tools: " ++ available)
  | some tool =>
    let arguments ← Act.exceptException (Act.ofExcept (toolArguments python tool ctx.inputs))
      fun e => Act.raise s!"mcp_call failed to resolve tool: {e}"
    callStdioGated config ctx.resources arguments (credentialEnv python config ctx.resources)

section

variable {policy : Policy} {config : McpCallConfig} {arguments : Config}
  {env : Option (String × String)}

/-- The call itself needs the permission to call. -/
theorem call_stdio_tool_certified {history : History}
    (h : ∀ others, policy.permitted (history ++ others) (.callStdioTool config arguments env)) :
    Program.Certified policy.permitted policy.allowed history
      (callStdioTool config arguments env).run fun _ _ => True := by
  intro others
  refine ⟨h others, fun response _ => ?_⟩
  rcases response with ⟨_ | _⟩ | _ <;> exact Program.Always.done _ _

/-- Behind the gate, the permission to call comes from the grant. -/
theorem call_stdio_gated_always {resources : Resources} {runId : String}
    (hrun : resources.approvalPrompt = some runId) {Grant : History → Prop}
    (hrequest : policy.Requests runId config.toolName arguments Grant)
    (hcall : ∀ history, (config.requireApproval = true → Grant history) →
      policy.permitted history (.callStdioTool config arguments env)) :
    (callStdioGated config resources arguments env).Always policy := by
  rw [callStdioGated]
  split
  · exact require_approval_bind hrun hrequest fun history hgranted =>
      call_stdio_tool_certified fun others => hcall _ fun _ => hgranted others
  · rename_i hrequire
    intro history
    exact call_stdio_tool_certified fun others => hcall _ fun h => absurd h hrequire

section

variable {permits : Op → Prop} {P : ∀ α : Type, Program Op Res α → Prop}

/-- With the permission to call, the gate makes no difference. -/
theorem call_stdio_gated_keeps (rules : Rules permits P) {resources : Resources}
    (h : permits (.callStdioTool config arguments env)) :
    P _ (callStdioGated config resources arguments env).run := by
  have hcall : P _ (callStdioTool config arguments env).run :=
    rules.act_bind (rules.act_exceptException (rules.act_bind (rules.act_perform h)
      fun _ => rules.act_ofExcept _) fun _ => rules.act_raise _) fun _ => rules.act_pure _
  rw [callStdioGated]
  split
  · exact rules.act_bind (require_approval_keeps rules _ _ _) fun _ => hcall
  · exact hcall

/-- The body keeps what its gated call keeps. -/
theorem execute_mcp_call_keeps (rules : Rules permits P) {python : Python}
    {ctx : ExecutionContext} (hcall : ∀ config arguments env,
      P _ (callStdioGated config ctx.resources arguments env).run) :
    P _ (executeMcpCall python ctx).run := by
  refine rules.act_bind (rules.act_ofExcept _) fun config => ?_
  refine rules.act_bind (rules.act_exceptException (rules.act_bind (rules.act_silent trivial)
    fun _ => rules.act_ofExcept _) fun _ => rules.act_raise _) fun tools => ?_
  dsimp only
  split
  · exact rules.act_raise _
  · exact rules.act_bind (rules.act_exceptException (rules.act_ofExcept _) fun _ =>
      rules.act_raise _) fun arguments => hcall _ _ _

end

end

end AgentGraphStudio
