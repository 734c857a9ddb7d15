/-
# How calls reach a supervisor

`Runner.ProvisionContainer`, `DeleteContainer`, `GetContainer` and `handleBySession` of
`runtime/local/runner.go`, with `ListAgents` and `ListSessions` of
`runtime/supervisor/manager.go`, over a node that has the sockets and the connections.
`ProvisionContainer` makes the directories, removes the socket file, listens on the socket for a
new supervisor, dials it, and puts a new handle in place of the one that may be there under the
id.  It may fail at each of these calls.  A handle reaches a supervisor through its connection
while that is up; a connection that is not up is made anew through the socket file, so it matters
who listens there, and whether the file is still there.

`Prompt` and `Cancel` name a session and not its container.  `handleBySession` asks the
supervisors of all containers one after the other, in the order of the map, passes over those
that answer with an error, and takes the first that lists the session.
-/

import Agentd.NodeRuntime.Node
import Agentd.Supervisor.EnsureAgent

namespace Agentd
namespace Supervisor

open Control

/-- `Manager.ListAgents`. -/
def Manager.listAgents (m : Manager) : List AgentInstance :=
  m.agents.entries.filterMap fun e => m.handles[e.2]?.map fun handle => handle.inst

/-- `Manager.ListSessions`. -/
def Manager.listSessions (m : Manager) : List Session := m.sessions.toList

end Supervisor

namespace NodeRuntime

open Control Filepath Supervisor Concurrency

/-- `ContainerSnapshot`. -/
structure ContainerSnapshot where
  container : Container
  agents : List AgentInstance
  sessions : List Session

/-- What the calls through the connection of a handle meet: a supervisor, or an error. -/
abbrev Reach := ContainerHandle → Except Err Manager

/-- The supervisor of the handle lists the session. -/
def lists (reach : Reach) (sessionID : String) (h : ContainerHandle) : Bool :=
  match reach h with
  | .ok m => m.listSessions.any fun sess => sess.id = sessionID
  | .error _ => false

/-- `Runner.handleBySession`, for the handles in the order in which the map is iterated. -/
def handleBySession (reach : Reach) (handles : List ContainerHandle) (sessionID : String) :
    Except Err ContainerHandle :=
  match handles.find? (lists reach sessionID) with
  | some h => .ok h
  | none => .error .notFound

/-- `Runner.GetContainer`. -/
def Runner.getContainer (reach : Reach) (r : Runner) (containerID : String) :
    Except Err ContainerSnapshot := do
  let h ← r.handle containerID
  let m ← reach h
  return { container := h.container, agents := m.listAgents, sessions := m.listSessions }

/-- The call of `ProvisionContainer` that fails.  `os.Remove` of the socket comes before
`net.Listen`; its error is ignored, and the file may then still be there. -/
inductive ProvisionFailure
  | mkdirAll (err : Err)
  | ensureWorkspace (err : Err)
  | listen (err : Err) (removed : Bool)
  | dialUnix (err : Err)

/-- A runner with what leads from its handles to the supervisors: `sockets` has the supervisor
that listens on a socket file, and `conns` the supervisor to which the connection of a handle is
up, under the number of the handle's own. -/
structure Node where
  runner : Runner
  sockets : GoMap String ℕ := ∅
  conns : GoMap ℕ ℕ := ∅

/-- What happens next in such a node: a call of the runner, something in a supervisor, or a
connection that goes up or down. -/
inductive LinkLabel
  | provision (req : CreateContainerRequest) (raw : String) (now : Time)
      (failure : Option ProvisionFailure)
  | delete (id : String)
  | call (req : ManagerRequest)
  | supervisor (n : ℕ) (l : SupervisorLabel)
  | connected (id : String)
  | disconnected (n : ℕ)

namespace Node

/-- The supervisor that the calls through a handle reach. -/
def link (s : Node) (h : ContainerHandle) : Option ℕ :=
  match s.conns.lookup h.supervisor with
  | some n => some n
  | none => s.sockets.lookup h.socket

/-- What the calls through a handle meet. -/
def reach (s : Node) : Reach := fun h =>
  match (s.link h).bind fun n => s.runner.supervisors[n]? with
  | some p => .ok p.shared
  | none => .error (.other "connection error")

/-- `Runner.ProvisionContainer`.  A supervisor whose dial fails is stopped, and its listener
closed, which removes the socket file. -/
def provision (host : Host) (s : Node) (req : CreateContainerRequest) (raw : String) (now : Time) :
    Option ProvisionFailure → Node × Except Err Container
  | some (.mkdirAll err) | some (.ensureWorkspace err) | some (.listen err false) => (s, .error err)
  | some (.listen err true) | some (.dialUnix err) =>
      ({ s with sockets := s.sockets.erase (s.runner.newHandle host req raw now).socket },
        .error err)
  | none =>
      let r := s.runner.provisionContainer host req raw now
      ({ runner := r.1
         sockets := s.sockets.insert (s.runner.newHandle host req raw now).socket
           s.runner.supervisors.length
         conns := s.conns.erase s.runner.supervisors.length }, r.2)

/-- `Runner.DeleteContainer`: the connection is closed and the socket file removed. -/
def delete (s : Node) (id : String) : Node :=
  match s.runner.containers.get id with
  | some h =>
      { runner := (s.runner.deleteContainer id).1
        sockets := s.sockets.erase h.socket
        conns := s.conns.erase h.supervisor }
  | none => s

/-- One step of a node. -/
def step (host : Host) (s : Node) : LinkLabel → Option Node
  | .provision req raw now failure => some (s.provision host req raw now failure).1
  | .delete id => some (s.delete id)
  | .call req =>
      match s.runner.handle (containerOf req) with
      | .error _ => some s
      | .ok h =>
          match s.link h with
          | none => some s
          | some n =>
              (s.runner.onSupervisor n (.calls (.spawn req))).map fun r => { s with runner := r }
  | .supervisor n l => (s.runner.onSupervisor n l.label).map fun r => { s with runner := r }
  | .connected id =>
      (s.runner.containers.get id).bind fun h =>
        (s.sockets.lookup h.socket).map fun n => { s with conns := s.conns.insert h.supervisor n }
  | .disconnected n => some { s with conns := s.conns.erase n }

/-- What a step does to the runner. -/
inductive Change (host : Host) (r : Runner) : LinkLabel → Runner → Prop
  | same (l : LinkLabel) (hl : ∀ n l', l ≠ .supervisor n l') : Change host r l r
  | provisioned (req : CreateContainerRequest) (raw : String) (now : Time) :
      Change host r (.provision req raw now none) (r.provisionContainer host req raw now).1
  | deleted (id : String) : Change host r (.delete id) (r.deleteContainer id).1
  | began (req : ManagerRequest) (n : ℕ) (p q : Pool Manager ManagerCall)
      (hp : r.supervisors[n]? = some p) (hq : managerStep p (.calls (.spawn req)) = some q) :
      Change host r (.call req) { r with supervisors := r.supervisors.set n q }
  | moved (n : ℕ) (l : SupervisorLabel) (p q : Pool Manager ManagerCall)
      (hp : r.supervisors[n]? = some p) (hq : managerStep p l.label = some q) :
      Change host r (.supervisor n l) { r with supervisors := r.supervisors.set n q }

/-- **A step of a node changes the runner** as `Change` says. -/
theorem step_change {host : Host} {s s' : Node} {l : LinkLabel} (h : s.step host l = some s') :
    Change host s.runner l s'.runner := by
  cases l with
  | provision req raw now failure =>
      obtain rfl := Option.some.inj h
      unfold provision
      split
      · exact .same _ nofun
      · exact .same _ nofun
      · exact .same _ nofun
      · exact .same _ nofun
      · exact .same _ nofun
      · exact .provisioned req raw now
  | delete id =>
      obtain rfl := Option.some.inj h
      unfold delete
      split
      · exact .deleted id
      · exact .same _ nofun
  | call req =>
      simp only [step] at h
      split at h
      · exact Option.some.inj h ▸ .same _ nofun
      · split at h
        · exact Option.some.inj h ▸ .same _ nofun
        · obtain ⟨r, hr, rfl⟩ := Option.map_eq_some_iff.1 h
          obtain ⟨p, q, hp, hq, rfl⟩ := Runner.onSupervisor_eq_some.1 hr
          exact .began req _ p q hp hq
  | supervisor n l =>
      obtain ⟨r, hr, rfl⟩ := Option.map_eq_some_iff.1 h
      obtain ⟨p, q, hp, hq, rfl⟩ := Runner.onSupervisor_eq_some.1 hr
      exact .moved n l p q hp hq
  | connected id =>
      obtain ⟨hd, -, hrest⟩ := Option.bind_eq_some_iff.1 h
      obtain ⟨n, -, rfl⟩ := Option.map_eq_some_iff.1 hrest
      exact .same _ nofun
  | disconnected n => exact Option.some.inj h ▸ .same _ nofun

/-- A handle after a step was there before, or has the socket that its id gives. -/
theorem Change.socket {host : Host} {r r' : Runner} {l : LinkLabel} (hr : Change host r l r') :
    r'.root = r.root ∧ ∀ id h, r'.containers.get id = some h →
      r.containers.get id = some h ∨ h.socket = supervisorSocket host (joinPath r.root id) := by
  cases hr with
  | same | began | moved => exact ⟨rfl, fun id h hget => Or.inl hget⟩
  | provisioned req raw now =>
      refine ⟨rfl, fun id h hget => ?_⟩
      rcases Runner.provisionContainer_get host r req raw now hget with ⟨rfl, rfl⟩ | ⟨-, hold⟩
      · exact Or.inr (by rw [Runner.newHandle_socket, Runner.newHandle_root])
      · exact Or.inl hold
  | deleted id =>
      refine ⟨?_, fun id' h' hget' => Or.inl (Runner.deleteContainer_get hget').2⟩
      unfold Runner.deleteContainer
      split <;> rfl

/-- What a step does to what leads to the supervisors: it adds nothing, or it provisions a container
or makes a connection. -/
inductive Relink (host : Host) (s : Node) : LinkLabel → Node → Prop
  | fewer (l : LinkLabel) (s' : Node)
      (hget : ∀ id h, s'.runner.containers.get id = some h → s.runner.containers.get id = some h)
      (hsocket : ∀ path n, s'.sockets.lookup path = some n → s.sockets.lookup path = some n)
      (hconn : ∀ k n, s'.conns.lookup k = some n → s.conns.lookup k = some n) : Relink host s l s'
  | provisioned (req : CreateContainerRequest) (raw : String) (now : Time) :
      Relink host s (.provision req raw now none) (s.provision host req raw now none).1
  | connected (id : String) (h : ContainerHandle) (n : ℕ)
      (hget : s.runner.containers.get id = some h) (hn : s.sockets.lookup h.socket = some n) :
      Relink host s (.connected id) { s with conns := s.conns.insert h.supervisor n }

/-- **A step of a node changes its links** as `Relink` says. -/
theorem step_relink {host : Host} {s s' : Node} {l : LinkLabel} (h : s.step host l = some s') :
    Relink host s l s' := by
  have hsame (l : LinkLabel) : Relink host s l s :=
    .fewer l s (fun _ _ hid => hid) (fun _ _ hn => hn) fun _ _ hn => hn
  have herase (l : LinkLabel) (socket : String) :
      Relink host s l { s with sockets := s.sockets.erase socket } :=
    .fewer l _ (fun _ _ hid => hid) (fun _ _ hn => (GoMap.lookup_erase_some hn).2) fun _ _ hn => hn
  have honSupervisor (l : LinkLabel) {n : ℕ} {l' : ManagerLabel} {r : Runner}
      (hr : s.runner.onSupervisor n l' = some r) : Relink host s l { s with runner := r } := by
    obtain ⟨p, q, -, -, rfl⟩ := Runner.onSupervisor_eq_some.1 hr
    exact .fewer l _ (fun _ _ hid => hid) (fun _ _ hn => hn) fun _ _ hn => hn
  cases l with
  | provision req raw now failure =>
      obtain rfl := Option.some.inj h
      cases failure with
      | none => exact .provisioned req raw now
      | some f =>
          unfold provision
          split
          · exact hsame _
          · exact hsame _
          · exact hsame _
          · exact herase _ _
          · exact herase _ _
          · next hnone => cases hnone
  | delete id =>
      obtain rfl := Option.some.inj h
      unfold delete
      split
      · exact .fewer _ _ (fun _ _ hid => (Runner.deleteContainer_get hid).2)
          (fun _ _ hn => (GoMap.lookup_erase_some hn).2) fun _ _ hn => (GoMap.lookup_erase_some hn).2
      · exact hsame _
  | call req =>
      simp only [step] at h
      split at h
      · exact Option.some.inj h ▸ hsame _
      · split at h
        · exact Option.some.inj h ▸ hsame _
        · obtain ⟨r, hr, rfl⟩ := Option.map_eq_some_iff.1 h
          exact honSupervisor _ hr
  | supervisor n l =>
      obtain ⟨r, hr, rfl⟩ := Option.map_eq_some_iff.1 h
      exact honSupervisor _ hr
  | connected id =>
      obtain ⟨hd, hget, hrest⟩ := Option.bind_eq_some_iff.1 h
      obtain ⟨n, hn, rfl⟩ := Option.map_eq_some_iff.1 hrest
      exact .connected id hd n hget hn
  | disconnected n =>
      obtain rfl := Option.some.inj h
      exact .fewer _ _ (fun _ _ hid => hid) (fun _ _ hn => hn)
        fun _ _ hn => (GoMap.lookup_erase_some hn).2

end Node

theorem Runner.mem_containers {r : Runner} {id : String} {hd : ContainerHandle}
    (h : r.containers.get id = some hd) : hd ∈ r.containers.toList := by
  obtain rfl : hd.container.id = id := Table.key_of_get (t := r.containers) h
  exact Table.mem_toList.2 h

section

variable {reach : Reach} {sessionID : String} {h : ContainerHandle}

theorem lists_eq_true :
    lists reach sessionID h = true ↔
      ∃ m sess, reach h = .ok m ∧ m.sessions.get sessionID = some sess := by
  unfold lists
  cases hreach : reach h with
  | error e => simp
  | ok m =>
      simp only [List.any_eq_true, decide_eq_true_eq, Except.ok.injEq,
        Manager.listSessions, Table.mem_toList]
      constructor
      · rintro ⟨sess, hget, rfl⟩
        exact ⟨m, sess, rfl, hget⟩
      · rintro ⟨m', sess, rfl, hget⟩
        obtain rfl : sess.id = sessionID := Table.key_of_get hget
        exact ⟨sess, hget, rfl⟩

/-- What `handleBySession` returns is one of the handles, and it lists the session. -/
theorem handleBySession_eq_ok {handles : List ContainerHandle}
    (hfound : handleBySession reach handles sessionID = .ok h) :
    h ∈ handles ∧ lists reach sessionID h = true := by
  unfold handleBySession at hfound
  split at hfound
  · next h' hfind =>
      obtain rfl := Except.ok.inj hfound
      exact ⟨List.mem_of_find?_eq_some hfind, List.find?_some hfind⟩
  · cases hfound

/-- `handleBySession` finds a handle when one of them lists the session. -/
theorem exists_handleBySession {handles : List ContainerHandle} (hmem : h ∈ handles)
    (hlists : lists reach sessionID h = true) :
    ∃ h', handleBySession reach handles sessionID = .ok h' := by
  unfold handleBySession
  cases hfind : handles.find? (lists reach sessionID) with
  | some h' => exact ⟨h', rfl⟩
  | none => exact absurd hlists (List.find?_eq_none.1 hfind h hmem)

end

/-- A container is provisioned, its connection goes up, and an agent is started in it. -/
def linkedAgent (id : String) (n : ℕ) : List LinkLabel :=
  [.provision { id } "" 1 none, .connected id,
    .call (.ensureAgent { containerID := id, plan := planOf "echo" "sha256:1" }),
    .supervisor n (.step 0 .lookup), .supervisor n (.step 0 (.started none "1" 2)),
    .supervisor n (.step 0 (.answered (.ok {}) 3)), .supervisor n (.step 0 .insert),
    .supervisor n (.step 0 .snapshot)]

end NodeRuntime
end Agentd
