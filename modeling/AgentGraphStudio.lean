import AgentGraphStudio.Api.AccountSafety
import AgentGraphStudio.Api.ActivationAtomicity
import AgentGraphStudio.Api.ActiveSubNodes
import AgentGraphStudio.Api.ApiKeyAtomicity
import AgentGraphStudio.Api.ApprovalAgreement
import AgentGraphStudio.Api.Auth
import AgentGraphStudio.Api.CredentialBinding
import AgentGraphStudio.Api.DefensiveBranches
import AgentGraphStudio.Api.ExternalWebhooks
import AgentGraphStudio.Api.GeneratedTypes
import AgentGraphStudio.Api.InvalidGraphs
import AgentGraphStudio.Api.InvokeContract
import AgentGraphStudio.Api.InvokeKeyLifetime
import AgentGraphStudio.Api.Options
import AgentGraphStudio.Api.RefreshFreshness
import AgentGraphStudio.Api.RememberedApprovals
import AgentGraphStudio.Api.Restart
import AgentGraphStudio.Api.RunReads
import AgentGraphStudio.Api.SlotMappings
import AgentGraphStudio.Api.TriggerIsolation
import AgentGraphStudio.Auth.Jwt
import AgentGraphStudio.Canvas.GroupEdits
import AgentGraphStudio.Canvas.InputSlots
import AgentGraphStudio.Canvas.Layout
import AgentGraphStudio.Canvas.LiveRuns
import AgentGraphStudio.Canvas.NodeIds
import AgentGraphStudio.Canvas.Serialization
import AgentGraphStudio.Canvas.TraceStatus
import AgentGraphStudio.Canvas.TypeCompat
import AgentGraphStudio.Connections.StoreIsolation
import AgentGraphStudio.Connections.StoreRace
import AgentGraphStudio.Connections.VectorStore
import AgentGraphStudio.Execution.Dataflow
import AgentGraphStudio.Execution.Scheduling
import AgentGraphStudio.Mcp.AccessTokens
import AgentGraphStudio.Mcp.EventStream
import AgentGraphStudio.Mcp.Ownership
import AgentGraphStudio.Mcp.RemoteClient
import AgentGraphStudio.Mcp.TokenRace
import AgentGraphStudio.Mcp.TokenViews
import AgentGraphStudio.Mcp.TypeNames
import AgentGraphStudio.Nodes.Chunks
import AgentGraphStudio.Nodes.CodeBinding
import AgentGraphStudio.Nodes.LoopRuns
import AgentGraphStudio.Nodes.Replay
import AgentGraphStudio.Nodes.SubNodeNesting
import AgentGraphStudio.Nodes.ToolInputs
import AgentGraphStudio.Nodes.TraceCompleteness
import AgentGraphStudio.Schema.Loader
import AgentGraphStudio.Storage.GraphRace
import AgentGraphStudio.Triggers.Runner
import AgentGraphStudio.Validation.Exceptions
import AgentGraphStudio.Discord.Server
import AgentGraphStudio.Lib.Paging
import AgentGraphStudio.Storage.RunHistory
import AgentGraphStudio.Api.ConnectSafety
