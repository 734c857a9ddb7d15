/-
# The activities

`workflows/activities.go`: `ProvisionContainer`, `CreateSession` and `LoadSession`, one
call at a time as in `ContainerActivities` and `SessionActivities`, and with them all the
activities that work on containers, agents, sessions and runs.  `CreateSession` and
`LoadSession` differ in the call of the node and in the text of the audit record only, so
they are one definition, `OpenSession`.

Every call of an activity writes one row or none, and `Activity.writes` is that row.  A call
changes the store by this row or not at all (`Activity.step_spec`), so what the activities
do to the metadata can be read off the rows.
-/

import Agentd.Workflows.SessionActivities
import Agentd.Concurrency.Pool

namespace Agentd
namespace Workflows

open Control Store NodeRuntime Supervisor Concurrency

/-- Where a `ProvisionContainer` activity stands. -/
inductive Provision
  | nodeProvision (req : CreateContainerRequest)
  | upsertContainer (container : Container)
  | appendAudit (container : Container)
  | returned (res : Except Err Container)

/-- One call of `ProvisionContainer`. -/
def Provision.step (w : World) (a : Answer) : Provision → Option (World × Provision)
  | .nodeProvision req =>
      match w.node req.profile.nodeID with
      | .error e => some (w, .returned (.error e))
      | .ok node =>
          let r := w.call node a.outcome fun runner =>
            runner.provisionContainer (w.host node) req a.raw a.now
          some (r.1,
            match r.2 with
            | .error e => .returned (.error e)
            | .ok container => .upsertContainer container)
  | .upsertContainer container =>
      some (w.write a.outcome (·.upsertContainer container),
        match a.outcome.err with
        | some e => .returned (.error e)
        | none => .appendAudit container)
  | .appendAudit container =>
      some (w.write a.outcome (·.appendAudit (audit "container" container.id "provisioned" a)),
        .returned (.ok container))
  | .returned _ => none

/-- Where a `CreateSession` or `LoadSession` activity stands. -/
inductive OpenSession
  | containerNode (req : SessionRequest)
  | nodeOpen (req : SessionRequest) (node : String)
  | upsertSession (req : SessionRequest) (sess : Session)
  | appendAudit (req : SessionRequest) (sess : Session)
  | returned (req : SessionRequest) (res : Except Err Session)

/-- What the audit record says of the session. -/
def OpenSession.action : SessionRequest → String
  | .create _ => "created"
  | .load _ => "loaded"

/-- One call of `CreateSession` or `LoadSession`. -/
def OpenSession.step (w : World) (a : Answer) : OpenSession → Option (World × OpenSession)
  | .containerNode req =>
      some (w,
        match w.containerNode a.outcome req.containerID with
        | .error e => .returned req (.error e)
        | .ok (_, node) => .nodeOpen req node)
  | .nodeOpen req node =>
      match a.outcome, a.reply with
      | .ok, .session answer =>
          let r := w.call node .ok (·.openSession req answer)
          some (r.1,
            match r.2 with
            | .error e => .returned req (.error e)
            | .ok sess => .upsertSession req sess)
      | .ok, _ => none
      | .fail e, _ | .failAfter e, _ => some (w, .returned req (.error e))
  | .upsertSession req sess =>
      some (w.write a.outcome (·.upsertSession sess),
        match a.outcome.err with
        | some e => .returned req (.error e)
        | none => .appendAudit req sess)
  | .appendAudit req sess =>
      some (w.write a.outcome (·.appendAudit (audit "session" sess.id (OpenSession.action req) a)),
        .returned req (.ok sess))
  | .returned _ _ => none

/-- An activity. -/
inductive Activity
  | provision (x : Provision)
  | openSession (x : OpenSession)
  | container (x : ContainerActivity)
  | session (x : SessionActivity)

/-- One call of an activity. -/
def Activity.step (w : World) (a : Answer) : Activity → Option (World × Activity)
  | .provision x => (x.step w a).map fun r => (r.1, .provision r.2)
  | .openSession x => (x.step w a).map fun r => (r.1, .openSession r.2)
  | .container x => (x.step w a).map fun r => (r.1, .container r.2)
  | .session x => (x.step w a).map fun r => (r.1, .session r.2)

/-- What the activities are asked to do. -/
inductive Request
  | provisionContainer (req : CreateContainerRequest)
  | ensureAgent (req : InstallAgentRequest)
  | createSession (req : CreateSessionRequest)
  | loadSession (req : LoadSessionRequest)
  | prompt (req : PromptRequest)
  | cancel (req : CancelRequest)
  | hibernate (containerID : String)
  | delete (containerID : String)

/-- An activity at its start. -/
def Request.start : Request → Activity
  | .provisionContainer req => .provision (.nodeProvision req)
  | .ensureAgent req => .container (.ensureAgent (.containerNode req))
  | .createSession req => .openSession (.containerNode (.create req))
  | .loadSession req => .openSession (.containerNode (.load req))
  | .prompt req => .session (.prompt (.getSession req))
  | .cancel req => .session (.cancel (.getSession req))
  | .hibernate containerID => .container (.hibernate (.containerNode containerID))
  | .delete containerID => .container (.delete (.containerNode containerID))

/-- The activities of the workers. -/
def activityMachine : Machine World Activity Request Answer where
  start _ req := some req.start
  run _ w x a := x.step w a

/-- A row of the metadata store. -/
inductive Row
  | container (c : Container)
  | agent (i : AgentInstance)
  | session (s : Session)
  | run (r : Run)
  | audit (r : AuditRecord)

/-- The write of a row. -/
def Row.put : Row → MemoryStore → MemoryStore
  | .container c, s => s.upsertContainer c
  | .agent i, s => s.upsertAgentInstance i
  | .session x, s => s.upsertSession x
  | .run r, s => s.upsertRun r
  | .audit r, s => s.appendAudit r

section

variable (a : Answer)

/-- The row that the next call of `ProvisionContainer` writes. -/
def Provision.writes : Provision → Option Row
  | .upsertContainer c => some (.container c)
  | .appendAudit c => some (.audit (audit "container" c.id "provisioned" a))
  | .nodeProvision _ | .returned _ => none

/-- The row that the next call of `CreateSession` or `LoadSession` writes. -/
def OpenSession.writes : OpenSession → Option Row
  | .upsertSession _ sess => some (.session sess)
  | .appendAudit req sess => some (.audit (audit "session" sess.id (OpenSession.action req) a))
  | .containerNode _ | .nodeOpen _ _ | .returned _ _ => none

/-- The row that the next call of an activity on a container writes. -/
def ContainerActivity.writes : ContainerActivity → Option Row
  | .ensureAgent (.upsertAgentInstance _ _ agent) => some (.agent agent)
  | .ensureAgent (.upsertContainer req c _) => some (.container (EnsureAgent.row req c a.now))
  | .ensureAgent (.appendAudit _ agent) => some (.audit (audit "agent_instance" agent.id "ready" a))
  | .hibernate (.upsertContainer c updated) => some (.container (Hibernate.row c updated))
  | .delete (.upsertContainer c) => some (.container (Delete.row c a.now))
  | _ => none

/-- The row that the next call of an activity on a session writes. -/
def SessionActivity.writes : SessionActivity → Option Row
  | .prompt (.upsertSession _ sess _ _) => some (.session sess)
  | .prompt (.upsertRun _ _ _ run) => some (.run run)
  | .prompt (.upsertFailedRun _ run) => some (.run run)
  | .prompt (.upsertFailedSession sess _) => some (.session sess)
  | .prompt (.upsertFinalRun _ _ final) => some (.run final)
  | .prompt (.upsertFinalSession sess _ _) => some (.session sess)
  | .prompt (.appendAudit final) => some (.audit (audit "run" final.id final.state.string a))
  | .cancel (.upsertSession _ sess _) => some (.session sess)
  | _ => none

/-- The row that the next call of an activity writes. -/
def Activity.writes : Activity → Option Row
  | .provision x => x.writes a
  | .openSession x => x.writes a
  | .container x => x.writes a
  | .session x => x.writes a

end

end Workflows
end Agentd
