import Agentd.Concurrency.Runs
import Agentd.Concurrency.Pool
import Agentd.Concurrency.Chan
import Agentd.Concurrency.Feed
import Agentd.Concurrency.Lease
import Agentd.Data.Table
import Agentd.Data.Path
import Agentd.Data.Overlay
import Agentd.Data.Text
import Agentd.Encoding.Digest
import Agentd.Encoding.Json
import Agentd.Encoding.EventStream
import Agentd.Control.Types
import Agentd.Control.State
import Agentd.Control.Plan
import Agentd.Store.Memory
import Agentd.Store.Postgres
import Agentd.Store.Interchange
import Agentd.Store.Artifacts
import Agentd.Session.Broker
import Agentd.Session.BrokerDelivery
import Agentd.Session.RedisBroker
import Agentd.Bundles.Resolver
import Agentd.Bundles.ContentAddressed
import Agentd.Bundles.Platforms
import Agentd.Registry.Parser
import Agentd.Registry.Sync
import Agentd.Scheduler.RoundRobin
import Agentd.Scheduler.Capacity
import Agentd.Scheduler.Rotation
import Agentd.Acp.Stdio
import Agentd.Acp.Registered
import Agentd.Acp.Correlation
import Agentd.Acp.Abandoned
import Agentd.Acp.Transport
import Agentd.Supervisor.AgentHandle
import Agentd.Supervisor.PromptItems
import Agentd.Supervisor.Delivery
import Agentd.Supervisor.Isolation
import Agentd.Supervisor.Manager
import Agentd.Supervisor.ManagerReplies
import Agentd.Supervisor.EnsureAgent
import Agentd.Supervisor.AgentReuse
import Agentd.Supervisor.ItemStreams
import Agentd.Supervisor.SessionIDs
import Agentd.Supervisor.DeadAgents
import Agentd.Supervisor.Environment
import Agentd.Supervisor.PromptPath
import Agentd.Supervisor.LiveAgents
import Agentd.Supervisor.AgentKeys
import Agentd.NodeRuntime.Runner
import Agentd.NodeRuntime.Directories
import Agentd.NodeRuntime.Node
import Agentd.NodeRuntime.Orphans
import Agentd.NodeRuntime.RemotePrompt
import Agentd.NodeRuntime.Replies
import Agentd.NodeRuntime.NodeStreams
import Agentd.NodeRuntime.Links
import Agentd.NodeRuntime.Dispatch
import Agentd.NodeRuntime.Reprovision
import Agentd.NodeRuntime.Sockets
import Agentd.NodeRuntime.Discovery
import Agentd.Workflows.World
import Agentd.Workflows.ContainerActivities
import Agentd.Workflows.BundleDigests
import Agentd.Workflows.Handler
import Agentd.Workflows.ContainerWorkflow
import Agentd.Workflows.DeletedAbsorbing
import Agentd.Workflows.SessionActivities
import Agentd.Workflows.SessionRuns
import Agentd.Workflows.SessionWorkflow
import Agentd.Workflows.Activities
import Agentd.Workflows.ActivitySteps
import Agentd.Workflows.ActivityNodes
import Agentd.Workflows.Lifecycle
import Agentd.Workflows.FailedActivities
import Agentd.Workflows.Site
import Agentd.Workflows.SocketCalls
import Agentd.Workflows.NamedIDs
import Agentd.Workflows.Integrity
import Agentd.Workflows.Attempts
import Agentd.Workflows.Retries
import Agentd.Workflows.RetriedContainers
import Agentd.Workflows.RetriedSessions
import Agentd.Workflows.RetrySafety
import Agentd.Workflows.PromptRelay
import Agentd.Workflows.RunEvents
import Agentd.Workflows.Carried
import Agentd.Workflows.Routing
import Agentd.Workflows.Bookkeeping
import Agentd.Workflows.AgentErrors
import Agentd.Workflows.Temporal
import Agentd.Workflows.SessionLifetimes
import Agentd.Workflows.AcceptedUpdates
import Agentd.Workflows.Listings
import Agentd.Workflows.AnsweredUpdates
import Agentd.Api.CreateSession
import Agentd.Api.Pinning
import Agentd.Api.InstallAgent
import Agentd.Api.HostedPolicy
import Agentd.Api.AgentStart
import Agentd.Api.SessionEvents
import Agentd.Api.LiveEvents
