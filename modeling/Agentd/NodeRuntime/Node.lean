/-
# A node at work

A node is a `Runner` with the supervisors of its containers, each a `Manager` with the
calls it serves.  `Runner.EnsureAgent`, `CreateSession` and `LoadSession` find the handle
of the container that the request names and call its supervisor; what the supervisor
then does are steps of that supervisor, and its processes exit when they exit.

`DeleteContainer` and a second `ProvisionContainer` for an id take the handle away.  The
supervisor that it belonged to stays: its gRPC server is stopped, but nothing ends the
processes that it has started.
-/

import Agentd.NodeRuntime.Runner

namespace Agentd
namespace NodeRuntime

open Control Supervisor Concurrency

/-- The container that a request names. -/
def containerOf : ManagerRequest → String
  | .ensureAgent req => req.containerID
  | .session req => req.containerID

/-- What happens in a supervisor besides that a call begins. -/
inductive SupervisorLabel
  | step (i : ℕ) (a : CallLabel)
  | exit (k : ℕ)
  | waited (h : ℕ) (now : Time)

def SupervisorLabel.label : SupervisorLabel → ManagerLabel
  | .step i a => .calls (.step i a)
  | .exit k => .exit k
  | .waited h now => .waited h now

/-- What happens next in a node: a call of the runner that changes its containers; a call that
goes to a supervisor; or something in supervisor `n`. -/
inductive NodeLabel
  | runner (c : RunnerCall)
  | call (req : ManagerRequest)
  | supervisor (n : ℕ) (l : SupervisorLabel)

namespace Runner

/-- A step of supervisor `n`. -/
def onSupervisor (r : Runner) (n : ℕ) (l : ManagerLabel) : Option Runner :=
  r.supervisors[n]?.bind fun p =>
    (managerStep p l).map fun q => { r with supervisors := r.supervisors.set n q }

/-- One step of a node.  A request for a container that is not there returns `ErrNotFound`. -/
def nodeStep (host : Host) (r : Runner) : NodeLabel → Option Runner
  | .runner c => r.step host c
  | .call req =>
      match r.handle (containerOf req) with
      | .ok h => r.onSupervisor h.supervisor (.calls (.spawn req))
      | .error _ => some r
  | .supervisor n l => r.onSupervisor n l.label

section

variable {host : Host} {r r' : Runner} {n : ℕ}

theorem onSupervisor_eq_some {l : ManagerLabel} :
    r.onSupervisor n l = some r' ↔
      ∃ p q, r.supervisors[n]? = some p ∧ managerStep p l = some q ∧
        { r with supervisors := r.supervisors.set n q } = r' := by
  simp only [onSupervisor, Option.bind_eq_some_iff, Option.map_eq_some_iff]
  constructor
  · rintro ⟨p, hp, q, hq, rfl⟩
    exact ⟨p, q, hp, hq, rfl⟩
  · rintro ⟨p, q, hp, hq, rfl⟩
    exact ⟨p, hp, q, hq, rfl⟩

theorem handle_eq_ok {id : String} {h : ContainerHandle} (hh : r.handle id = .ok h) :
    r.containers.get id = some h := by
  unfold handle at hh
  split at hh
  · next hget => rw [hget, Except.ok.inj hh]
  · cases hh

/-- What a step of a node can do. -/
inductive NodeStep (host : Host) (r : Runner) : NodeLabel → Runner → Prop
  | provisioned (req : CreateContainerRequest) (raw : String) (now : Time) :
      NodeStep host r (.runner (.provision req raw now none))
        (r.provisionContainer host req raw now).1
  | refused (req : CreateContainerRequest) (raw : String) (now : Time) (err : Err) :
      NodeStep host r (.runner (.provision req raw now (some err))) r
  | deleted (id : String) : NodeStep host r (.runner (.delete id)) (r.deleteContainer id).1
  | notFound (req : ManagerRequest) : NodeStep host r (.call req) r
  | began (req : ManagerRequest) (h : ContainerHandle) (p q : Pool Manager ManagerCall)
      (hget : r.containers.get (containerOf req) = some h)
      (hp : r.supervisors[h.supervisor]? = some p)
      (hq : managerStep p (.calls (.spawn req)) = some q) :
      NodeStep host r (.call req) { r with supervisors := r.supervisors.set h.supervisor q }
  | moved (n : ℕ) (l : SupervisorLabel) (p q : Pool Manager ManagerCall)
      (hp : r.supervisors[n]? = some p) (hq : managerStep p l.label = some q) :
      NodeStep host r (.supervisor n l) { r with supervisors := r.supervisors.set n q }

/-- **A step of a node is one of `NodeStep`.** -/
theorem nodeStep_spec {l : NodeLabel} (h : r.nodeStep host l = some r') :
    NodeStep host r l r' := by
  cases l with
  | runner c =>
      cases c with
      | provision req raw now err =>
          cases err with
          | none => exact Option.some.inj h ▸ .provisioned req raw now
          | some err => exact Option.some.inj h ▸ .refused req raw now err
      | delete id => exact Option.some.inj h ▸ .deleted id
  | call req =>
      cases hhd : r.handle (containerOf req) with
      | ok hd =>
          rw [nodeStep, hhd] at h
          obtain ⟨p, q, hp, hq, rfl⟩ := onSupervisor_eq_some.1 h
          exact .began req hd p q (handle_eq_ok hhd) hp hq
      | error err =>
          rw [nodeStep, hhd] at h
          exact Option.some.inj h ▸ .notFound req
  | supervisor n l =>
      obtain ⟨p, q, hp, hq, rfl⟩ := onSupervisor_eq_some.1 h
      exact .moved n l p q hp hq

end

end Runner
end NodeRuntime
end Agentd
