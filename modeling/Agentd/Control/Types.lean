/-
# The records of the control plane

`control/types.go`, `control/requests.go`, `control/errors.go`, `control/id.go`
and the `Event` of `session/broker.go`.  A Go string type with named constants is an inductive type; a
`map[string]T` is a `GoMap`; a `map[string]any` keeps its values as JSON text; a
`time.Time` is a number of nanoseconds and a `*time.Time` an optional one.  The
default of a field is the zero value that a Go literal leaves there.

The states of a run have one constructor more than the source has constants:
`unset` is the empty string, the state of `control.Run{}`.
-/

import Agentd.Data.Table

namespace Agentd
namespace Control

/-- `time.Time`, in nanoseconds. -/
abbrev Time : Type := ℕ

/-- `map[string]string`. -/
abbrev StringMap : Type := GoMap String String

/-- `map[string]any`, each value by its JSON text. -/
abbrev AnyMap : Type := GoMap String String

/-- `NewID`: the text after the separator is the hex of eight random bytes. -/
def newID (pre raw : String) : String := pre ++ "_" ++ raw

/-- An `error` of this program: the sentinel `ErrNotFound`, the error of
`Activities.node`, or any other error by its text. -/
inductive Err
  | notFound
  | nodeNotConfigured (nodeID : String)
  | other (text : String)
  deriving DecidableEq

/-- `err.Error()`. -/
def Err.error : Err → String
  | .notFound => "not found"
  | .nodeNotConfigured nodeID => "node client not configured for " ++ nodeID.quote
  | .other text => text

/-- `DistributionType`: one of the named constants, or any other text that was decoded. -/
inductive DistributionType
  | binary | npx | uvx
  | other (text : String)
  deriving DecidableEq

inductive AgentSource
  | registry | manual
  deriving DecidableEq

/-- `AuthMode`: one of the named constants, or any other text that was decoded. -/
inductive AuthMode
  | agent | terminal | none
  | other (text : String)
  deriving DecidableEq

inductive BundleMode
  | materialized | lazy
  deriving DecidableEq

inductive ContainerState
  | requested | provisioning | starting | ready | busy | idle | hibernating | stopped
  | deleting | deleted
  deriving DecidableEq

inductive AgentInstanceState
  | installing | installed | starting | ready | authRequired | running | exited | failed
  deriving DecidableEq

inductive SessionState
  | creating | active | waitingInput | streaming | cancelling | completed | failed | archived
  deriving DecidableEq

inductive RunState
  | unset | queued | dispatching | streaming | completed | cancelled | failed
  deriving DecidableEq

/-- `string(state)`. -/
def RunState.string : RunState → String
  | .unset => ""
  | .queued => "queued"
  | .dispatching => "dispatching"
  | .streaming => "streaming"
  | .completed => "completed"
  | .cancelled => "cancelled"
  | .failed => "failed"

structure ACPProtocol where
  versionRange : String := ""
  capabilities : List String := []
  authModes : List AuthMode := []
  sessionList : Bool := false
  terminalAuth : Bool := false
  hostedDefault : Bool := false

structure BinaryDistribution where
  url : String := ""
  executable : String := ""
  args : List String := []
  sha256 : String := ""

structure PackageDistribution where
  package : String := ""
  version : String := ""
  args : List String := []

structure DistributionSpec where
  type : DistributionType := .other ""
  binary : Option BinaryDistribution := none
  npx : Option PackageDistribution := none
  uvx : Option PackageDistribution := none

structure AgentCatalogEntry where
  id : String := ""
  version : String := ""
  name : String := ""
  description : String := ""
  source : AgentSource := .registry
  protocol : ACPProtocol := {}
  distribution : DistributionSpec := {}
  defaultEnv : StringMap := ∅
  metadata : StringMap := ∅
  platforms : List String := []
  priv : Bool := false
  updatedAt : Time := 0

structure Bundle where
  digest : String := ""
  agentID : String := ""
  version : String := ""
  platform : String := ""
  mode : BundleMode := .materialized
  entrypoint : List String := []
  env : StringMap := ∅
  materialized : Bool := false
  manifest : DistributionSpec := {}
  createdAt : Time := 0

structure ResourceLimits where
  cpuCount : ℤ := 0
  memoryBytes : ℤ := 0
  pids : ℤ := 0

structure ContainerProfile where
  image : String := ""
  nodeID : String := ""
  sandboxClass : String := ""
  workspaceRoot : String := ""
  env : StringMap := ∅
  resourceLimits : ResourceLimits := {}
  networkPolicy : String := ""
  allowTerminalAuth : Bool := false
  ttl : ℤ := 0

structure Container where
  id : String := ""
  nodeID : String := ""
  state : ContainerState
  pinned : Bool := false
  profile : ContainerProfile := {}
  bundleDigests : List String := []
  metadata : StringMap := ∅
  currentRuns : ℤ := 0
  capacity : ℤ := 0
  createdAt : Time := 0
  updatedAt : Time := 0
  lastActiveAt : Time := 0
  hibernateAfter : Time := 0

structure ACPNegotiation where
  protocolVersion : String := ""
  capabilities : List String := []
  authModes : List AuthMode := []
  sessionMetadata : AnyMap := ∅

structure AgentInstance where
  id : String := ""
  containerID : String := ""
  agentID : String := ""
  version : String := ""
  bundleDigest : String := ""
  state : AgentInstanceState
  cwd : String := ""
  env : StringMap := ∅
  negotiated : ACPNegotiation := {}
  authState : String := ""
  limits : ResourceLimits := {}
  createdAt : Time := 0
  updatedAt : Time := 0

structure MCPServerSpec where
  name : String := ""
  command : String := ""
  args : List String := []
  env : StringMap := ∅
  url : String := ""
  headers : StringMap := ∅
  workingDir : String := ""

structure ProviderSecretRef where
  envVar : String := ""
  name : String := ""

structure LLMProfile where
  id : String := ""
  provider : String := ""
  baseURL : String := ""
  model : String := ""
  defaultEnv : StringMap := ∅
  apiKey : ProviderSecretRef := {}
  headers : StringMap := ∅
  configPath : String := ""
  updatedAt : Time := 0

structure SessionInput where
  prompt : String := ""
  attachments : List String := []
  metadata : AnyMap := ∅

structure SessionSpec where
  metadata : AnyMap := ∅
  mcpServers : List MCPServerSpec := []
  resumeSessionID : String := ""
  workingDir : String := ""
  env : StringMap := ∅

structure Session where
  id : String := ""
  containerID : String := ""
  agentInstanceID : String := ""
  state : SessionState
  metadata : AnyMap := ∅
  negotiated : ACPNegotiation := {}
  mcpServers : List MCPServerSpec := []
  activeRunID : String := ""
  createdAt : Time := 0
  updatedAt : Time := 0
  completedAt : Option Time := none

structure Run where
  id : String := ""
  sessionID : String := ""
  containerID : String := ""
  agentInstanceID : String := ""
  state : RunState := .unset
  input : SessionInput := {}
  error : String := ""
  startedAt : Time := 0
  completedAt : Option Time := none
  sequence : Int64 := 0

structure ExecutionPolicy where
  hostedMode : Bool := false
  allowTerminalAuth : Bool := false
  allowPrivateAgents : Bool := false

structure Placement where
  containerID : String := ""
  nodeID : String := ""
  schedulerChosen : Bool := false
  createIfNotFound : Bool := false

structure ExecutionPlan where
  id : String := ""
  agent : AgentCatalogEntry := {}
  bundle : Bundle := {}
  containerProfile : ContainerProfile := {}
  session : SessionSpec := {}
  llmProfile : Option LLMProfile := none
  injectionEnv : StringMap := ∅
  placement : Placement := {}
  policy : ExecutionPolicy := {}
  createdAt : Time := 0

structure AuditRecord where
  id : String := ""
  entityType : String := ""
  entityID : String := ""
  action : String := ""
  payload : AnyMap := ∅
  createdAt : Time := 0

structure CreateContainerRequest where
  id : String := ""
  profile : ContainerProfile := {}
  metadata : StringMap := ∅
  capacity : ℤ := 0
  pinned : Bool := false

structure InstallAgentRequest where
  containerID : String := ""
  plan : ExecutionPlan := {}

structure CreateSessionRequest where
  sessionID : String := ""
  containerID : String := ""
  agentInstanceID : String := ""
  plan : ExecutionPlan := {}

structure LoadSessionRequest where
  sessionID : String := ""
  containerID : String := ""
  agentInstanceID : String := ""
  resumeID : String := ""
  spec : SessionSpec := {}

structure PromptRequest where
  sessionID : String := ""
  runID : String := ""
  input : SessionInput := {}

structure CancelRequest where
  sessionID : String := ""
  runID : String := ""

/-- A value under a key of `Event.Data`: a text, or a map. -/
inductive DataValue
  | text (s : String)
  | map (m : AnyMap)

/-- `session.Event`. -/
structure Event where
  sessionID : String := ""
  runID : String := ""
  type : String := ""
  sequence : Int64 := 0
  data : List (String × DataValue) := []
  time : Time := 0

theorem newID_ne_empty (pre raw : String) : newID pre raw ≠ "" := by
  intro h
  have hlen := congrArg String.length h
  simp only [newID, String.length_append] at hlen
  have hsep : "_".length = 1 := by decide
  have hnil : "".length = 0 := by decide
  omega

end Control
end Agentd
