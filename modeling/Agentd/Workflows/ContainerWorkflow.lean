/-
# The workflow of a container

`workflows/workflows.go`: `ContainerWorkflow`, with the update handlers that run
`EnsureAgent`, `Hibernate` and `Delete`, and the `Await` at its end.  The handlers
share the variable `state` of the workflow.  The workflow returns
`state.Container` once a deletion succeeded and no handler is under way; a
workflow that has returned takes no update.

The `start` handler belongs to the time before the container is there, and the
two session handlers touch neither `state.Container` nor the container row; they
are left out, and so are the queries.
-/

import Agentd.Workflows.ContainerActivities
import Agentd.Workflows.Handler

namespace Agentd
namespace Workflows

open Control Store NodeRuntime Concurrency

/-- `containerState`. -/
structure ContainerWorkflowState where
  container : Container
  agents : GoMap String AgentInstance := ∅
  deleted : Bool := false

/-- The variables of `ContainerWorkflow`, its result once it returned, and the
world its activities work on. -/
structure ContainerWorkflow where
  world : World
  containerID : String
  state : ContainerWorkflowState
  returned : Option Container := none

/-- The updates that run an activity on the container. -/
inductive ContainerUpdate
  | installAgent (req : InstallAgentRequest)
  | startAgent (req : InstallAgentRequest)
  | hibernate
  | delete

/-- The activity of an update, at its first call. -/
def ContainerUpdate.activity (containerID : String) : ContainerUpdate → ContainerActivity
  | .installAgent req | .startAgent req => .ensureAgent (.containerNode req)
  | .hibernate => .hibernate (.containerNode containerID)
  | .delete => .delete (.containerNode containerID)

/-- The update is about this container.  A client sends an installation to the
workflow of `req.ContainerID`. -/
def ContainerUpdate.isFor (containerID : String) : ContainerUpdate → Bool
  | .installAgent req | .startAgent req => req.containerID = containerID
  | .hibernate | .delete => true

/-- What an activity on a container returns. -/
inductive ContainerResult
  | agent (agent : AgentInstance)
  | container (container : Container)
  | deleted

/-- The result of an activity that has returned. -/
def ContainerActivity.result : ContainerActivity → Option (Except Err ContainerResult)
  | .ensureAgent (.returned _ res) => some (res.map .agent)
  | .hibernate (.returned res) => some (res.map .container)
  | .delete (.returned res) => some (res.map fun _ => .deleted)
  | _ => none

/-- The variables after the activity of a handler succeeded. -/
def ContainerWorkflowState.succeed (s : ContainerWorkflowState) :
    ContainerResult → ContainerWorkflowState
  | .agent agent => { s with agents := s.agents.insert agent.id agent }
  | .container container => { s with container }
  | .deleted => { s with deleted := true, container.state := .deleted }

/-- The rest of a handler after its activity succeeded. -/
def ContainerWorkflow.succeed (s : ContainerWorkflow) (r : ContainerResult) : ContainerWorkflow :=
  { s with state := s.state.succeed r }

/-- The update handlers of `ContainerWorkflow`. -/
def containerHandlers :
    HandlerCode ContainerWorkflow ContainerUpdate ContainerActivity ContainerResult where
  accepts s u := s.returned.isNone && u.isFor s.containerID
  execute s u := u.activity s.containerID
  step s a x := (x.step s.world a).map fun r => ({ s with world := r.1 }, r.2)
  result := ContainerActivity.result
  succeed s _ r := s.succeed r

/-- A workflow with its handlers. -/
abbrev ContainerRun : Type := Pool ContainerWorkflow (Handler ContainerUpdate ContainerActivity)

/-- What happens next in a workflow: an update arrives or a handler moves, or
the condition of `Await` is found true. -/
inductive ContainerLabel
  | handler (l : PoolLabel ContainerUpdate HandlerLabel)
  | await

/-- One step of a workflow. -/
def ContainerRun.step (p : ContainerRun) : ContainerLabel → Option ContainerRun
  | .handler l => Pool.step containerHandlers.machine p l
  | .await =>
      if p.shared.returned.isNone ∧ p.shared.state.deleted ∧ ∀ h ∈ p.threads, h.done then
        some { p with shared.returned := some p.shared.state.container }
      else none

theorem ContainerRun.step_await {p q : ContainerRun} (h : p.step .await = some q) :
    p.shared.state.deleted = true ∧
      q = { p with shared.returned := some p.shared.state.container } := by
  obtain ⟨⟨_, hd, _⟩, hq⟩ := Option.ite_none_right_eq_some.1 h
  exact ⟨hd, (Option.some.inj hq).symm⟩

end Workflows
end Agentd
