/-
# A container that is provisioned again

`Runner.ProvisionContainer` puts a new handle in place of the one that may be there under the id.
The call does not look whether the container is live.  When it goes through, the container has
a new supervisor, without agents and without sessions (`reprovisioned_loses_agent`).
`reprovision_kept_iff` says of every state of a node when nothing is lost.
-/

import Agentd.NodeRuntime.Links

namespace Agentd
namespace NodeRuntime

open Control Filepath Supervisor Concurrency

namespace Node

/-- The agent is reached through `GetContainer`. -/
def ShowsAgent (s : Node) (id : String) (agent : AgentInstance) : Prop :=
  ∃ snap, s.runner.getContainer s.reach id = .ok snap ∧ agent ∈ snap.agents

/-- The session is reached through `GetContainer`. -/
def ShowsSession (s : Node) (id : String) (sess : Session) : Prop :=
  ∃ snap, s.runner.getContainer s.reach id = .ok snap ∧ sess ∈ snap.sessions

/-- `Prompt` and `Cancel` for the session may go through the container to supervisor `n`, which
finds the session and handle `a` of its agent. -/
def Dispatches (s : Node) (id sessionID : String) (n : ℕ) (sess : Session) (a : ℕ) : Prop :=
  ∃ handles h m, handles.Perm s.runner.containers.toList ∧
    handleBySession s.reach handles sessionID = .ok h ∧ h.container.id = id ∧
      s.link h = some n ∧ s.reach h = .ok m ∧ m.sessionAgent sessionID = .ok (sess, a)

/-- **A live container is kept intact**: every agent and session that was reached through
`GetContainer`, `Prompt` and `Cancel` for the container still is. -/
structure Kept (s s' : Node) (id : String) : Prop where
  agents : ∀ agent, s.ShowsAgent id agent → s'.ShowsAgent id agent
  sessions : ∀ sess, s.ShowsSession id sess → s'.ShowsSession id sess
  prompts : ∀ sessionID n sess a, s.Dispatches id sessionID n sess a →
    s'.Dispatches id sessionID n sess a

/-- The handle reaches no agent and no session. -/
def Bare (s : Node) (h : ContainerHandle) : Prop :=
  ∀ m, s.reach h = .ok m → m.listAgents = [] ∧ m.listSessions = []

/-- Nothing can be lost: the call fails before it removes the socket file; or it fails after
that while the connection of the handle is up; or there is nothing to lose. -/
def Harmless (s : Node) (h : ContainerHandle) : Option ProvisionFailure → Prop
  | some (.mkdirAll _) | some (.ensureWorkspace _) | some (.listen _ false) => True
  | some (.listen _ true) | some (.dialUnix _) =>
      (s.conns.lookup h.supervisor).isSome = true ∨ s.Bare h
  | none => s.Bare h

/-- Every handle has the socket that its id gives. -/
structure SocketsOk (host : Host) (root : String) (s : Node) : Prop where
  root_eq : s.runner.root = root
  socket : ∀ id h, s.runner.containers.get id = some h →
    h.socket = supervisorSocket host (joinPath root id)

section

variable {host : Host} {root id : String} {s s' : Node} {h : ContainerHandle}
  {req : CreateContainerRequest} {raw : String} {now : Time} {failure : Option ProvisionFailure}

/-- **A step of a node** leaves every handle with the socket of its id. -/
theorem SocketsOk.step {l : LinkLabel} (hs : s.SocketsOk host root)
    (hstep : s.step host l = some s') : s'.SocketsOk host root := by
  obtain ⟨hroot, hget⟩ := (step_change hstep).socket
  refine ⟨hroot.trans hs.root_eq, fun id h hnew => ?_⟩
  rcases hget id h hnew with hold | hsocket
  · exact hs.socket id h hold
  · rw [hsocket, hs.root_eq]

theorem getContainer_eq_ok {snap : ContainerSnapshot} (hget : s.runner.containers.get id = some h) :
    s.runner.getContainer s.reach id = .ok snap ↔
      ∃ m, s.reach h = .ok m ∧ snap = ⟨h.container, m.listAgents, m.listSessions⟩ := by
  simp only [Runner.getContainer, Runner.handle, hget, bind, Except.bind, pure, Except.pure]
  cases s.reach h with
  | error e => simp
  | ok m => simp [eq_comm]

/-- What `GetContainer` shows is what the supervisor of the handle lists. -/
theorem exists_getContainer_iff (P : ContainerSnapshot → Prop)
    (hget : s.runner.containers.get id = some h) :
    (∃ snap, s.runner.getContainer s.reach id = .ok snap ∧ P snap) ↔
      ∃ m, s.reach h = .ok m ∧ P ⟨h.container, m.listAgents, m.listSessions⟩ := by
  simp only [getContainer_eq_ok hget]
  constructor
  · rintro ⟨snap, ⟨m, hm, rfl⟩, hsnap⟩
    exact ⟨m, hm, hsnap⟩
  · rintro ⟨m, hm, hsnap⟩
    exact ⟨_, ⟨m, hm, rfl⟩, hsnap⟩

theorem showsAgent_iff {agent : AgentInstance} (hget : s.runner.containers.get id = some h) :
    s.ShowsAgent id agent ↔ ∃ m, s.reach h = .ok m ∧ agent ∈ m.listAgents :=
  exists_getContainer_iff (fun snap => agent ∈ snap.agents) hget

theorem showsSession_iff {sess : Session} (hget : s.runner.containers.get id = some h) :
    s.ShowsSession id sess ↔ ∃ m, s.reach h = .ok m ∧ sess ∈ m.listSessions :=
  exists_getContainer_iff (fun snap => sess ∈ snap.sessions) hget

/-- The calls for a session may go through a container exactly when its supervisor finds the
session: the map may be iterated from that container. -/
theorem dispatches_iff {sessionID : String} {n : ℕ} {sess : Session} {a : ℕ}
    (hget : s.runner.containers.get id = some h) :
    s.Dispatches id sessionID n sess a ↔
      ∃ m, s.link h = some n ∧ s.reach h = .ok m ∧ m.sessionAgent sessionID = .ok (sess, a) := by
  constructor
  · rintro ⟨handles, h', m, hperm, hfound, hid, hlink, hreach, hagent⟩
    have hget' := Table.mem_toList.1 (hperm.mem_iff.1 (handleBySession_eq_ok hfound).1)
    rw [hid] at hget'
    obtain rfl := Option.mem_unique hget hget'
    exact ⟨m, hlink, hreach, hagent⟩
  · rintro ⟨m, hlink, hreach, hagent⟩
    obtain ⟨before, after, happ⟩ := List.append_of_mem (Runner.mem_containers hget)
    have hperm : (h :: (before ++ after)).Perm s.runner.containers.toList := by
      rw [happ]
      exact List.perm_middle.symm
    have hlists : lists s.reach sessionID h = true :=
      lists_eq_true.2 ⟨m, sess, hreach, Manager.sessionAgent_eq_ok hagent⟩
    have hfound : handleBySession s.reach (h :: (before ++ after)) sessionID = .ok h := by
      simp only [handleBySession, List.find?_cons, hlists]
    have hid : h.container.id = id := Table.key_of_get (t := s.runner.containers) hget
    exact ⟨_, h, m, hperm, hfound, hid, hlink, hreach, hagent⟩

/-- A container is kept when its handle is still there and leads where it led. -/
theorem kept_of_link (hget : s.runner.containers.get id = some h)
    (hrunner : s'.runner = s.runner) (hlink : s'.link h = s.link h) : s.Kept s' id := by
  have hget' : s'.runner.containers.get id = some h := hrunner ▸ hget
  have hreach : s'.reach h = s.reach h := by
    unfold reach
    rw [hlink, hrunner]
  refine ⟨fun agent hs => ?_, fun sess hs => ?_, fun sessionID n sess a hs => ?_⟩
  · rw [showsAgent_iff hget', hreach]
    exact (showsAgent_iff hget).1 hs
  · rw [showsSession_iff hget', hreach]
    exact (showsSession_iff hget).1 hs
  · rw [dispatches_iff hget', hlink, hreach]
    exact (dispatches_iff hget).1 hs

theorem Bare.kept (hbare : s.Bare h) (hget : s.runner.containers.get id = some h) (s' : Node) :
    s.Kept s' id := by
  refine ⟨fun agent hs => ?_, fun sess hs => ?_, fun sessionID n sess a hs => ?_⟩
  · obtain ⟨m, hm, hmem⟩ := (showsAgent_iff hget).1 hs
    rw [(hbare m hm).1] at hmem
    cases hmem
  · obtain ⟨m, hm, hmem⟩ := (showsSession_iff hget).1 hs
    rw [(hbare m hm).2] at hmem
    cases hmem
  · obtain ⟨m, -, hm, hagent⟩ := (dispatches_iff hget).1 hs
    have hsess := Manager.sessionAgent_eq_ok hagent
    have hmem : sess ∈ m.listSessions := by
      obtain rfl : sess.id = sessionID := Table.key_of_get hsess
      exact Table.mem_toList.2 hsess
    rw [(hbare m hm).2] at hmem
    cases hmem

/-- When nothing is reached through a container that is kept, nothing was. -/
theorem Kept.bare (hkept : s.Kept s' id) (hget : s.runner.containers.get id = some h)
    (hagents : ∀ agent, ¬s'.ShowsAgent id agent) (hsessions : ∀ sess, ¬s'.ShowsSession id sess) :
    s.Bare h := by
  intro m hm
  refine ⟨List.eq_nil_iff_forall_not_mem.2 fun agent hmem => ?_,
    List.eq_nil_iff_forall_not_mem.2 fun sess hmem => ?_⟩
  · exact hagents agent (hkept.agents agent ((showsAgent_iff hget).2 ⟨m, hm, hmem⟩))
  · exact hsessions sess (hkept.sessions sess ((showsSession_iff hget).2 ⟨m, hm, hmem⟩))

theorem reach_of_no_link (hlink : s.link h = none) (m : Manager) : s.reach h ≠ .ok m := by
  intro hreach
  unfold reach at hreach
  rw [hlink] at hreach
  cases hreach

/-- The file that a call for the id of a container removes is the socket of that container. -/
theorem SocketsOk.newHandle (hs : s.SocketsOk host root) (hid : req.id ≠ "")
    (hget : s.runner.containers.get req.id = some h) (raw : String) (now : Time) :
    (s.runner.newHandle host req raw now).socket = h.socket := by
  have hname : containerID req raw = req.id := if_neg hid
  rw [Runner.newHandle_socket, Runner.newHandle_root, hs.root_eq, hs.socket _ h hget, hname]

/-- The socket file is removed: the container is kept exactly if its connection is up, or if
nothing was reached. -/
theorem kept_erase_iff (hget : s.runner.containers.get id = some h) :
    s.Kept { s with sockets := s.sockets.erase h.socket } id ↔
      (s.conns.lookup h.supervisor).isSome = true ∨ s.Bare h := by
  cases hconn : s.conns.lookup h.supervisor with
  | some n =>
      refine ⟨fun _ => Or.inl rfl, fun _ => kept_of_link hget rfl ?_⟩
      simp only [link, hconn]
  | none =>
      have hlink : Node.link { s with sockets := s.sockets.erase h.socket } h = none := by
        simp only [link, hconn, AList.lookup_erase]
      constructor
      · intro hkept
        have hget' : Table.get (Node.runner { s with sockets := s.sockets.erase h.socket }).containers
            id = some h := hget
        refine Or.inr (hkept.bare hget (fun agent hs => ?_) fun sess hs => ?_)
        · obtain ⟨m, hm, -⟩ := (showsAgent_iff hget').1 hs
          exact reach_of_no_link hlink m hm
        · obtain ⟨m, hm, -⟩ := (showsSession_iff hget').1 hs
          exact reach_of_no_link hlink m hm
      · rintro (hup | hbare)
        · cases hup
        · exact hbare.kept hget _

/-- A new handle reaches the new supervisor, which has no agents and no sessions. -/
theorem reach_provisioned (host : Host) (s : Node) (req : CreateContainerRequest) (raw : String)
    (now : Time) :
    (s.provision host req raw now none).1.reach (s.runner.newHandle host req raw now) =
      .ok (newManager (containerID req raw) host.environ) := by
  have hlink : (s.provision host req raw now none).1.link (s.runner.newHandle host req raw now) =
      some s.runner.supervisors.length := by
    have hdown : (s.conns.erase s.runner.supervisors.length).lookup
        (s.runner.newHandle host req raw now).supervisor = none := AList.lookup_erase _ _
    simp only [link, Node.provision, hdown, AList.lookup_insert]
  unfold reach
  rw [hlink]
  simp only [Node.provision, Runner.provisionContainer, Option.bind_some,
    List.getElem?_concat_length, Runner.newHandle_id]

theorem get_provisioned (hid : req.id ≠ "") :
    (s.provision host req raw now none).1.runner.containers.get req.id =
      some (s.runner.newHandle host req raw now) := by
  have hname : containerID req raw = req.id := if_neg hid
  show (s.runner.containers.upsert _).get req.id = _
  rw [Table.get_upsert, Runner.newHandle_id, hname, if_pos rfl]

theorem not_showsAgent_provisioned (hid : req.id ≠ "") (agent : AgentInstance) :
    ¬(s.provision host req raw now none).1.ShowsAgent req.id agent := by
  rw [showsAgent_iff (get_provisioned hid), reach_provisioned]
  rintro ⟨m, hm, hmem⟩
  obtain rfl := Except.ok.inj hm
  cases hmem

theorem not_showsSession_provisioned (hid : req.id ≠ "") (sess : Session) :
    ¬(s.provision host req raw now none).1.ShowsSession req.id sess := by
  rw [showsSession_iff (get_provisioned hid), reach_provisioned]
  rintro ⟨m, hm, hmem⟩
  obtain rfl := Except.ok.inj hm
  cases hmem

/-- **A live container that is provisioned again.**  In every state that a node reaches, a
`ProvisionContainer` for the id of a container keeps the agents and the sessions of the container
exactly if it fails before it removes the socket file, or fails later while the connection of
the container is up, or if the container has no agents and no sessions. -/
theorem reprovision_kept_iff {nodeID : String} {l : List LinkLabel}
    (hs : exec (Node.step host) { runner := newRunner nodeID root } l = some s)
    (hid : req.id ≠ "") (hget : s.runner.containers.get req.id = some h) :
    s.Kept (s.provision host req raw now failure).1 req.id ↔ s.Harmless h failure := by
  have hsockets : s.SocketsOk host root :=
    exec_invariant_of_step (fun _ _ _ hok hstep => hok.step hstep)
      ⟨rfl, fun id h hget => by cases hget⟩ hs
  have herase := kept_erase_iff hget
  rw [← hsockets.newHandle hid hget raw now] at herase
  unfold Node.provision Harmless
  cases failure with
  | some f =>
      cases f with
      | mkdirAll err => exact iff_true_intro (kept_of_link hget rfl rfl)
      | ensureWorkspace err => exact iff_true_intro (kept_of_link hget rfl rfl)
      | listen err removed =>
          cases removed with
          | false => exact iff_true_intro (kept_of_link hget rfl rfl)
          | true => exact herase
      | dialUnix err => exact herase
  | none =>
      exact ⟨fun hkept => hkept.bare hget (not_showsAgent_provisioned hid)
        (not_showsSession_provisioned hid), fun hbare => hbare.kept hget _⟩

end

end Node

open Node

/-- A container with an agent, and the connection of the container up. -/
def provisionedAgent : List LinkLabel := linkedAgent "ctr_1" 0

/-- The agent is reached through the container, whose connection is up. -/
theorem provisionedAgent_shows : ∃ s h, exec (Node.step {})
      { runner := newRunner "node-1" "/var/agentd" } provisionedAgent = some s ∧
    s.runner.containers.get "ctr_1" = some h ∧ (s.conns.lookup h.supervisor).isSome = true ∧
      ∃ agent, s.ShowsAgent "ctr_1" agent := by
  obtain ⟨s, hs, h, hget, hup, m, hm, agent, hagent, -⟩ : ∃ s ∈ exec (Node.step {})
      { runner := newRunner "node-1" "/var/agentd" } provisionedAgent,
      ∃ h ∈ s.runner.containers.get "ctr_1", (s.conns.lookup h.supervisor).isSome = true ∧
        ∃ m ∈ (s.reach h).toOption, ∃ agent ∈ m.listAgents, agent.id = "agent_1" := by
    decide +kernel
  refine ⟨s, h, hs, hget, hup, agent, (showsAgent_iff hget).2 ⟨m, ?_, hagent⟩⟩
  cases hreach : s.reach h with
  | error e =>
      rw [hreach] at hm
      cases hm
  | ok m' =>
      rw [hreach] at hm
      rw [Option.some.inj hm]

/-- The container is provisioned again and its socket cannot be opened: the agent is kept. -/
theorem listenFails_kept : ∃ s, exec (Node.step {})
      { runner := newRunner "node-1" "/var/agentd" } provisionedAgent = some s ∧
    (∃ agent, s.ShowsAgent "ctr_1" agent) ∧
      s.Kept (s.provision {} { id := "ctr_1" } "" 4 (some (.listen (.other "listen") true))).1
        "ctr_1" := by
  obtain ⟨s, h, hs, hget, hup, hshows⟩ := provisionedAgent_shows
  have hid : ({ id := "ctr_1" } : CreateContainerRequest).id ≠ "" := by decide
  exact ⟨s, hs, hshows, (reprovision_kept_iff hs hid hget).2 (Or.inl hup)⟩

/-- **A container with an agent is provisioned again**, and the agent is lost. -/
theorem reprovisioned_loses_agent : ∃ s, exec (Node.step {})
      { runner := newRunner "node-1" "/var/agentd" } provisionedAgent = some s ∧
    ¬s.Kept (s.provision {} { id := "ctr_1" } "" 4 none).1 "ctr_1" := by
  obtain ⟨s, h, hs, -, -, agent, hshows⟩ := provisionedAgent_shows
  have hid : ({ id := "ctr_1" } : CreateContainerRequest).id ≠ "" := by decide
  exact ⟨s, hs, fun hkept => not_showsAgent_provisioned hid agent (hkept.agents agent hshows)⟩

end NodeRuntime
end Agentd
