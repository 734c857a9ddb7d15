/-
# The activities on a container

`workflows/activities.go`: `EnsureAgent`, `Hibernate` and `Delete`, one call to
the store or to the node at a time.  A constructor of the state of an activity
is the call it is about to make, with the variables it still needs; `returned`
is its result.  Between two calls anything else may happen, and each activity
holds the whole container row it read until it writes a row back.
-/

import Agentd.Workflows.World

namespace Agentd
namespace Workflows

open Control Store NodeRuntime

/-- `audit`. -/
def audit (entityType entityID action : String) (a : Answer) : AuditRecord :=
  { id := newID "audit" a.raw, entityType, entityID, action, createdAt := a.now }

/-- Where an `EnsureAgent` activity stands. -/
inductive EnsureAgent
  | containerNode (req : InstallAgentRequest)
  | nodeEnsureAgent (req : InstallAgentRequest) (container : Container) (node : String)
  | upsertAgentInstance (req : InstallAgentRequest) (container : Container) (agent : AgentInstance)
  | upsertContainer (req : InstallAgentRequest) (container : Container) (agent : AgentInstance)
  | appendAudit (req : InstallAgentRequest) (agent : AgentInstance)
  | returned (req : InstallAgentRequest) (res : Except Err AgentInstance)

/-- The row `EnsureAgent` writes back when its copy lacks the digest.  The copy is the activity's
own: `append` writes to no array that another row is a slice of. -/
def EnsureAgent.row (req : InstallAgentRequest) (container : Container) (now : Time) : Container :=
  { container with
    bundleDigests := container.bundleDigests ++ [req.plan.bundle.digest]
    updatedAt := now }

/-- One call of `EnsureAgent`.  The error of the container write and of the
audit record is dropped, as in the source. -/
def EnsureAgent.step (w : World) (a : Answer) : EnsureAgent → Option (World × EnsureAgent)
  | .containerNode req =>
      some (w,
        match w.containerNode a.outcome req.containerID with
        | .error e => .returned req (.error e)
        | .ok (container, node) => .nodeEnsureAgent req container node)
  | .nodeEnsureAgent req container node =>
      match a.outcome, a.reply with
      | .ok, .agent answer =>
          let r := w.call node .ok (·.ensureAgent req answer)
          some (r.1,
            match r.2 with
            | .error e => .returned req (.error e)
            | .ok agent => .upsertAgentInstance req container agent)
      | .ok, _ => none
      | .fail e, _ | .failAfter e, _ => some (w, .returned req (.error e))
  | .upsertAgentInstance req container agent =>
      some (w.write a.outcome (·.upsertAgentInstance agent),
        match a.outcome.err with
        | some e => .returned req (.error e)
        | none =>
            if req.plan.bundle.digest ∈ container.bundleDigests then .appendAudit req agent
            else .upsertContainer req container agent)
  | .upsertContainer req container agent =>
      some (w.write a.outcome (·.upsertContainer (EnsureAgent.row req container a.now)),
        .appendAudit req agent)
  | .appendAudit req agent =>
      some (w.write a.outcome (·.appendAudit (audit "agent_instance" agent.id "ready" a)),
        .returned req (.ok agent))
  | .returned _ _ => none

/-- Where a `Hibernate` activity stands. -/
inductive Hibernate
  | containerNode (containerID : String)
  | nodeHibernate (containerID : String) (container : Container) (node : String)
  | upsertContainer (container updated : Container)
  | returned (res : Except Err Container)

/-- The row `Hibernate` writes back: the node's, with the digests it read. -/
def Hibernate.row (container updated : Container) : Container :=
  { updated with bundleDigests := container.bundleDigests }

/-- One call of `Hibernate`. -/
def Hibernate.step (w : World) (a : Answer) : Hibernate → Option (World × Hibernate)
  | .containerNode containerID =>
      some (w,
        match w.containerNode a.outcome containerID with
        | .error e => .returned (.error e)
        | .ok (container, node) => .nodeHibernate containerID container node)
  | .nodeHibernate containerID container node =>
      let r := w.call node a.outcome (·.hibernateContainer containerID a.now)
      some (r.1,
        match r.2 with
        | .error e => .returned (.error e)
        | .ok updated => .upsertContainer container updated)
  | .upsertContainer container updated =>
      some (w.write a.outcome (·.upsertContainer (Hibernate.row container updated)),
        match a.outcome.err with
        | some e => .returned (.error e)
        | none => .returned (.ok (Hibernate.row container updated)))
  | .returned _ => none

/-- Where a `Delete` activity stands. -/
inductive Delete
  | containerNode (containerID : String)
  | nodeDelete (containerID : String) (container : Container) (node : String)
  | upsertContainer (container : Container)
  | returned (res : Except Err Unit)

/-- The row `Delete` writes back. -/
def Delete.row (container : Container) (now : Time) : Container :=
  { container with state := .deleted, updatedAt := now }

/-- One call of `Delete`. -/
def Delete.step (w : World) (a : Answer) : Delete → Option (World × Delete)
  | .containerNode containerID =>
      some (w,
        match w.containerNode a.outcome containerID with
        | .error e => .returned (.error e)
        | .ok (container, node) => .nodeDelete containerID container node)
  | .nodeDelete containerID container node =>
      let r := w.call node a.outcome (·.deleteContainer containerID)
      some (r.1,
        match r.2 with
        | .error e => .returned (.error e)
        | .ok _ => .upsertContainer container)
  | .upsertContainer container =>
      some (w.write a.outcome (·.upsertContainer (Delete.row container a.now)),
        match a.outcome.err with
        | some e => .returned (.error e)
        | none => .returned (.ok ()))
  | .returned _ => none

/-- An activity on a container. -/
inductive ContainerActivity
  | ensureAgent (x : EnsureAgent)
  | hibernate (x : Hibernate)
  | delete (x : Delete)

/-- One call of an activity on a container. -/
def ContainerActivity.step (w : World) (a : Answer) :
    ContainerActivity → Option (World × ContainerActivity)
  | .ensureAgent x => (x.step w a).map fun r => (r.1, .ensureAgent r.2)
  | .hibernate x => (x.step w a).map fun r => (r.1, .hibernate r.2)
  | .delete x => (x.step w a).map fun r => (r.1, .delete r.2)

/-- The activity has returned. -/
def ContainerActivity.finished : ContainerActivity → Bool
  | .ensureAgent (.returned _ _) | .hibernate (.returned _) | .delete (.returned _) => true
  | _ => false

/-- The call the activity is about to make writes to the store. -/
def ContainerActivity.atStoreWrite : ContainerActivity → Bool
  | .ensureAgent (.upsertAgentInstance ..) | .ensureAgent (.upsertContainer ..)
  | .ensureAgent (.appendAudit ..) | .hibernate (.upsertContainer ..)
  | .delete (.upsertContainer ..) => true
  | _ => false

end Workflows
end Agentd
