/-
# What the ids of a site stand for

`NewID` makes a new text each time (`FreshID`).  So the id of an agent instance stands for
one container, and that of a session for one container and one agent instance, wherever
it turns up.  `SupervisorOk` says this of everything that a supervisor holds, `RunnerOk` of
the supervisors of a node, and that a handle leads to the supervisor of its container.
Both are kept by every step, however the calls overlap.

The supervisors of a node go on, and keep their sockets.  So what the links of a node lead to was
started on the socket (`LinksOn`), and a call of the site can go there (`calls_follow_links`).
-/

import Agentd.Workflows.SocketCalls
import Agentd.NodeRuntime.Links
import Agentd.Supervisor.ManagerReplies

namespace Agentd
namespace Workflows

open Control Store NodeRuntime Supervisor Concurrency Filepath

namespace IDs

/-- The id of the instance was made for its container. -/
def KnowsAgent (ids : IDs) (inst : AgentInstance) : Prop :=
  ids.agents.lookup inst.id = some inst.containerID

/-- The id of the session was made for its container and its agent instance. -/
def KnowsSession (ids : IDs) (sess : Session) : Prop :=
  ids.sessions.lookup sess.id = some (sess.containerID, sess.agentInstanceID)

/-- What the ids stand for is kept. -/
structure Grows (ids ids' : IDs) : Prop where
  agents : ∀ id c, ids.agents.lookup id = some c → ids'.agents.lookup id = some c
  sessions : ∀ id x, ids.sessions.lookup id = some x → ids'.sessions.lookup id = some x

variable {ids ids' : IDs}

theorem Grows.refl (ids : IDs) : ids.Grows ids := ⟨fun _ _ h => h, fun _ _ h => h⟩

theorem Grows.agent {inst : AgentInstance} (h : ids.Grows ids') (hi : ids.KnowsAgent inst) :
    ids'.KnowsAgent inst := h.agents _ _ hi

theorem Grows.session {sess : Session} (h : ids.Grows ids') (hs : ids.KnowsSession sess) :
    ids'.KnowsSession sess := h.sessions _ _ hs

theorem lookup_insert_of_fresh {β : Type} {m : GoMap String β} {id id' : String} {v v' : β}
    (hfresh : m.lookup id = none) (h : m.lookup id' = some v) :
    (m.insert id v').lookup id' = some v := by
  have hne : id' ≠ id := by
    rintro rfl
    rw [hfresh] at h
    cases h
  rw [AList.lookup_insert_ne hne, h]

theorem grows_agents {id c : String} (hfresh : ids.agents.lookup id = none) :
    ids.Grows { ids with agents := ids.agents.insert id c } :=
  ⟨fun _ _ h => lookup_insert_of_fresh hfresh h, fun _ _ h => h⟩

theorem grows_sessions {id : String} {x : String × String}
    (hfresh : ids.sessions.lookup id = none) :
    ids.Grows { ids with sessions := ids.sessions.insert id x } :=
  ⟨fun _ _ h => h, fun _ _ h => lookup_insert_of_fresh hfresh h⟩

theorem KnowsAgent.containerID {i i' : AgentInstance} (h : ids.KnowsAgent i)
    (h' : ids.KnowsAgent i') (hid : i.id = i'.id) : i.containerID = i'.containerID := by
  unfold KnowsAgent at h h'
  rw [hid] at h
  exact Option.mem_unique h h'

/-- Two sessions with one id are of one container and one agent instance. -/
theorem KnowsSession.same {x x' : Session} (h : ids.KnowsSession x) (h' : ids.KnowsSession x')
    (hid : x.id = x'.id) :
    x.containerID = x'.containerID ∧ x.agentInstanceID = x'.agentInstanceID := by
  unfold KnowsSession at h h'
  rw [hid] at h
  exact Prod.mk.inj (Option.mem_unique h h')

end IDs

/-- **`NewID` is fresh**: the id that the step makes has not been made before. -/
def FreshID (ids : IDs) : SupervisorLabel → Prop
  | .step _ (.started _ raw _) => ids.agents.lookup (newID "agent" raw) = none
  | .step _ (.agentByID raw) => ids.sessions.lookup (newID "sess" raw) = none
  | _ => True

/-- A request for a session that leaves the id to the manager. -/
def Unnamed : SessionRequest → Prop
  | .create req => req.sessionID = ""
  | .load _ => False

/-- The ids that a call has in its hands are known, and it is for the container of the
manager. -/
def Named (ids : IDs) (m : Manager) : ManagerCall → Prop
  | .ensure req pc =>
      req.containerID = m.containerID ∧
        match pc with
        | .clientInitialize inst _ | .insert inst _ | .returned (.ok inst) => ids.KnowsAgent inst
        | _ => True
  | .session req pc =>
      Unnamed req ∧ req.containerID = m.containerID ∧
        match pc with
        | .callAgent _ id => ids.sessions.lookup id = some (m.containerID, req.agentInstanceID)
        | .insert sess | .returned (.ok sess) => ids.KnowsSession sess
        | _ => True

/-- What a supervisor holds has known ids. -/
structure SupervisorOk (ids : IDs) (sup : Pool Manager ManagerCall) : Prop where
  replies : RepliesOk sup
  handles : ∀ (h : ℕ) handle, sup.shared.handles[h]? = some handle → ids.KnowsAgent handle.inst
  sessions : ∀ id sess, sup.shared.sessions.get id = some sess → ids.KnowsSession sess
  calls : ∀ (j : ℕ) c, sup.threads[j]? = some c → Named ids sup.shared c

section

variable {ids ids' : IDs} {m m' : Manager} {sup q : Pool Manager ManagerCall} {i : ℕ}

theorem Named.grows {c : ManagerCall} (h : Named ids m c) (hg : ids.Grows ids')
    (hm : m'.containerID = m.containerID) : Named ids' m' c := by
  cases c with
  | ensure req pc =>
      refine ⟨h.1.trans hm.symm, ?_⟩
      cases pc with
      | clientInitialize inst cmd => exact hg.agent h.2
      | insert inst cmd => exact hg.agent h.2
      | returned res =>
          cases res with
          | ok inst => exact hg.agent h.2
          | error e => trivial
      | lookup | start | snapshot | panic => trivial
  | session req pc =>
      refine ⟨h.1, h.2.1.trans hm.symm, ?_⟩
      cases pc with
      | callAgent k id =>
          rw [hm]
          exact hg.sessions _ _ h.2.2
      | insert sess => exact hg.session h.2.2
      | returned res =>
          cases res with
          | ok sess => exact hg.session h.2.2
          | error e => trivial
      | agentByID => trivial

theorem SupervisorOk.grows (h : SupervisorOk ids sup) (hg : ids.Grows ids') :
    SupervisorOk ids' sup where
  replies := h.replies
  handles k handle hget := hg.agent (h.handles k handle hget)
  sessions id sess hget := hg.session (h.sessions id sess hget)
  calls j c hc := (h.calls j c hc).grows hg rfl

/-- A call moves: what it has in its hands next is owed, and the handles and sessions. -/
theorem SupervisorOk.move {c' : ManagerCall} (h : SupervisorOk ids sup) (hg : ids.Grows ids')
    (hreplies : RepliesOk ⟨m', sup.threads.set i c'⟩)
    (hm : m'.containerID = sup.shared.containerID)
    (hhandles : ∀ (k : ℕ) handle, m'.handles[k]? = some handle → ids'.KnowsAgent handle.inst)
    (hsessions : ∀ id sess, m'.sessions.get id = some sess → ids'.KnowsSession sess)
    (hc' : Named ids' m' c') : SupervisorOk ids' ⟨m', sup.threads.set i c'⟩ := by
  refine ⟨hreplies, hhandles, hsessions, fun j d hd => ?_⟩
  rcases getElem?_set_cases hd with ⟨-, rfl⟩ | ⟨-, hd⟩
  · exact hc'
  · exact (h.calls j d hd).grows hg hm

/-- A call that moves without an id made, a handle or a session. -/
theorem SupervisorOk.advance {c' : ManagerCall} (h : SupervisorOk ids sup)
    (hreplies : RepliesOk ⟨m', sup.threads.set i c'⟩)
    (hm : m'.containerID = sup.shared.containerID) (hhandles : m'.handles = sup.shared.handles)
    (hsessions : m'.sessions = sup.shared.sessions) (hc' : Named ids m' c') :
    SupervisorOk ids ⟨m', sup.threads.set i c'⟩ :=
  h.move (.refl ids) hreplies hm (fun k handle hget => h.handles k handle (hhandles ▸ hget))
    (fun id sess hget => h.sessions id sess (hsessions ▸ hget)) hc'

theorem IDs.minted_step {c c' : ManagerCall} {l : CallLabel} (hi : sup.threads[i]? = some c) :
    ids.minted ⟨m', sup.threads.set i c'⟩ (.step i l) = ids.mint m' l c' := by
  simp only [IDs.minted, getElem?_set_of_some c' hi]

/-- **A step of `EnsureAgent`** keeps what the ids stand for. -/
theorem SupervisorOk.ensure {req : InstallAgentRequest} {pc pc' : EnsurePC} {l : CallLabel}
    (h : SupervisorOk ids sup) (hi : sup.threads[i]? = some (.ensure req pc))
    (hfresh : FreshID ids (.step i l)) (hs : EnsureStep sup.shared req.plan pc l m' pc') :
    ids.Grows (ids.mint m' l (.ensure req pc')) ∧
      SupervisorOk (ids.mint m' l (.ensure req pc')) ⟨m', sup.threads.set i (.ensure req pc')⟩ := by
  have hreplies := h.replies.ensure hi hs
  obtain ⟨hreq, hnamed⟩ := h.calls i _ hi
  cases hs with
  | found | absent | noEntrypoint | notStarted =>
      exact ⟨.refl ids, h.advance hreplies rfl rfl rfl ⟨hreq, trivial⟩⟩
  | started command args raw now =>
      have hg : ids.Grows
          { ids with agents := ids.agents.insert (newID "agent" raw) sup.shared.containerID } :=
        IDs.grows_agents hfresh
      refine ⟨hg, h.move hg hreplies rfl (fun k handle hget => hg.agent (h.handles k handle hget))
        (fun id sess hget => hg.session (h.sessions id sess hget)) ⟨hreq, ?_⟩⟩
      exact AList.lookup_insert _
  | refused inst cmd =>
      exact ⟨.refl ids, h.advance hreplies rfl rfl rfl ⟨hreq, trivial⟩⟩
  | negotiated inst cmd =>
      exact ⟨.refl ids, h.advance hreplies rfl rfl rfl ⟨hreq, hnamed⟩⟩
  | inserted inst cmd =>
      refine ⟨.refl ids, h.move (.refl ids) hreplies rfl (fun k handle hget => ?_) h.sessions
        ⟨hreq, trivial⟩⟩
      rcases getElem?_concat_cases hget with ⟨-, rfl⟩ | hget
      · exact hnamed
      · exact h.handles k handle hget
  | snapshot k handle hget =>
      exact ⟨.refl ids, h.advance hreplies rfl rfl rfl ⟨hreq, h.handles k handle hget⟩⟩

theorem Unnamed.sessionID {req : SessionRequest} (h : Unnamed req) (raw : String) :
    req.sessionID raw = newID "sess" raw := by
  cases req with
  | create r => exact if_pos h
  | load r => exact h.elim

/-- **A step of `CreateSession`** keeps what the ids stand for. -/
theorem SupervisorOk.session {req : SessionRequest} {pc pc' : SessionPC} {l : CallLabel}
    (h : SupervisorOk ids sup) (hi : sup.threads[i]? = some (.session req pc))
    (hfresh : FreshID ids (.step i l)) (hs : SessionStep sup.shared req pc l m' pc') :
    ids.Grows (ids.mint m' l (.session req pc')) ∧
      SupervisorOk (ids.mint m' l (.session req pc'))
        ⟨m', sup.threads.set i (.session req pc')⟩ := by
  have hreplies := h.replies.session hi hs
  have hspeaks := h.replies.calls i _ hi
  obtain ⟨hun, hreq, hnamed⟩ := h.calls i _ hi
  cases hs with
  | notFound | refused =>
      exact ⟨.refl ids, h.advance hreplies rfl rfl rfl ⟨hun, hreq, trivial⟩⟩
  | found k raw hfound =>
      have hnew : ids.sessions.lookup (req.sessionID raw) = none := by
        rw [hun.sessionID]
        exact hfresh
      have hg := IDs.grows_sessions
        (x := (sup.shared.containerID, req.agentInstanceID)) hnew
      refine ⟨hg, h.move hg hreplies rfl (fun k handle hget => hg.agent (h.handles k handle hget))
        (fun id sess hget => hg.session (h.sessions id sess hget)) ⟨hun, hreq, ?_⟩⟩
      exact AList.lookup_insert _
  | accepted k sessionID handle hget negotiated now =>
      refine ⟨.refl ids, h.advance hreplies rfl rfl rfl ⟨hun, hreq, ?_⟩⟩
      obtain ⟨handle', hget', hid⟩ := hspeaks
      obtain rfl := Option.mem_unique hget hget'
      unfold IDs.KnowsSession newSession
      rw [hid]
      exact hnamed
  | inserted sess =>
      refine ⟨.refl ids, h.move (.refl ids) hreplies rfl h.handles (fun id sess' hget => ?_)
        ⟨hun, hreq, hnamed⟩⟩
      have hrow : (sup.shared.sessions.upsert sess).get id = some sess' := hget
      rw [Table.get_upsert] at hrow
      split_ifs at hrow
      · exact Option.some.inj hrow ▸ hnamed
      · exact h.sessions id sess' hrow

theorem SupervisorOk.new (ids : IDs) (containerID : String) (environ : List String) :
    SupervisorOk ids ⟨newManager containerID environ, []⟩ where
  replies := .new containerID environ
  handles h handle hget := by cases hget
  sessions id sess hget := by cases hget
  calls i c hc := by cases hc

/-- A request that the activities make of a manager. -/
def Asked (m : Manager) : ManagerRequest → Prop
  | .ensureAgent req => req.containerID = m.containerID
  | .session req => Unnamed req ∧ req.containerID = m.containerID

/-- **A call begins.** -/
theorem SupervisorOk.spawn {req : ManagerRequest} (h : SupervisorOk ids sup)
    (hreq : Asked sup.shared req) (hq : managerStep sup (.calls (.spawn req)) = some q) :
    SupervisorOk ids q := by
  have hreplies := h.replies.step hq
  obtain ⟨c, hc, rfl⟩ := Pool.step_spawn.1 (show sup.step _ _ = some q from hq)
  refine ⟨hreplies, h.handles, h.sessions, fun j d hd => ?_⟩
  rcases getElem?_concat_cases hd with ⟨-, rfl⟩ | hd
  · cases req with
    | ensureAgent req => exact Option.some.inj hc ▸ ⟨hreq, trivial⟩
    | session req => exact Option.some.inj hc ▸ ⟨hreq.1, hreq.2, trivial⟩
  · exact h.calls j d hd

/-- **A step of a supervisor**, when `NewID` is fresh. -/
theorem SupervisorOk.step {l : SupervisorLabel} (h : SupervisorOk ids sup)
    (hfresh : FreshID ids l) (hq : managerStep sup l.label = some q) :
    ids.Grows (ids.minted q l) ∧ SupervisorOk (ids.minted q l) q := by
  have hreplies := h.replies.step hq
  cases l with
  | exit n =>
      obtain rfl := Option.some.inj hq
      exact ⟨.refl ids, hreplies, h.handles, h.sessions, h.calls⟩
  | waited n now =>
      obtain ⟨m', hm, rfl⟩ := Option.map_eq_some_iff.1 hq
      have hid := (Manager.keeps_waited hm).containerID
      obtain ⟨_, _, rfl⟩ := Manager.waited_eq_some hm
      refine ⟨.refl ids, hreplies, fun k handle' hget' => ?_, h.sessions,
        fun j c hc => (h.calls j c hc).grows (.refl ids) hid⟩
      obtain ⟨handle, _, _, hget, rfl⟩ := Manager.handle_of_waited hm hget'
      exact h.handles k handle hget
  | step i l =>
      obtain ⟨c, m', c', hi, rfl, hstep⟩ := managerStep_call hq
      rw [IDs.minted_step hi]
      rcases hstep with ⟨req, pc, pc', rfl, rfl, hs⟩ | ⟨req, pc, pc', rfl, rfl, hs⟩
      · exact h.ensure hi hfresh hs
      · exact h.session hi hfresh hs

end

/-- The request that a call of a manager serves. -/
def requestOf : ManagerCall → ManagerRequest
  | .ensure req _ => .ensureAgent req
  | .session req _ => .session req

/-- A supervisor goes on: its container is the same, and its calls serve what they served. -/
structure GoesOn (sup q : Pool Manager ManagerCall) : Prop where
  containerID : q.shared.containerID = sup.shared.containerID
  calls : ∀ (j : ℕ) c, sup.threads[j]? = some c →
    ∃ c', q.threads[j]? = some c' ∧ requestOf c' = requestOf c

theorem GoesOn.refl (sup : Pool Manager ManagerCall) : GoesOn sup sup :=
  ⟨rfl, fun _ c hc => ⟨c, hc, rfl⟩⟩

/-- The threads after one of them moves, each at what it served. -/
theorem calls_set {l : List ManagerCall} {i : ℕ} {c c' : ManagerCall} (hi : l[i]? = some c)
    (hreq : requestOf c' = requestOf c) (j : ℕ) (d : ManagerCall) (hd : l[j]? = some d) :
    ∃ d', (l.set i c')[j]? = some d' ∧ requestOf d' = requestOf d := by
  by_cases hj : i = j
  · subst hj
    obtain rfl := Option.mem_unique hi hd
    exact ⟨c', getElem?_set_of_some c' hi, hreq⟩
  · exact ⟨d, (List.getElem?_set_ne hj).trans hd, rfl⟩

/-- **Whatever happens to a supervisor, it goes on.** -/
theorem managerStep_goesOn {sup q : Pool Manager ManagerCall} {l : ManagerLabel}
    (hq : managerStep sup l = some q) : GoesOn sup q := by
  cases l with
  | exit n =>
      obtain rfl := Option.some.inj hq
      exact ⟨rfl, fun _ c hc => ⟨c, hc, rfl⟩⟩
  | waited n now =>
      obtain ⟨m', hm, rfl⟩ := Option.map_eq_some_iff.1 hq
      exact ⟨(Manager.keeps_waited hm).containerID, fun _ c hc => ⟨c, hc, rfl⟩⟩
  | calls l =>
      cases l with
      | spawn req =>
          obtain ⟨c, -, rfl⟩ := Pool.step_spawn.1 (show sup.step _ _ = some q from hq)
          refine ⟨rfl, fun j d hd => ⟨d, ?_, rfl⟩⟩
          exact getElem?_append_of_some _ hd
      | step i l =>
          obtain ⟨c, m', c', hi, rfl, hstep⟩ := managerStep_call hq
          rcases hstep with ⟨req, pc, pc', rfl, rfl, hs⟩ | ⟨req, pc, pc', rfl, rfl, hs⟩
          · exact ⟨by cases hs <;> rfl, calls_set hi rfl⟩
          · exact ⟨by cases hs <;> rfl, calls_set hi rfl⟩

/-- The supervisors of a node hold known ids, and a handle leads to the supervisor of its
container. -/
structure RunnerOk (ids : IDs) (r : Runner) : Prop where
  handles : ∀ id h, r.containers.get id = some h →
    ∃ sup, r.supervisors[h.supervisor]? = some sup ∧ sup.shared.containerID = id
  supervisors : ∀ (n : ℕ) sup, r.supervisors[n]? = some sup → SupervisorOk ids sup

/-- The supervisors of a node go on. -/
def Continues (r r' : Runner) : Prop :=
  ∀ (n : ℕ) sup, r.supervisors[n]? = some sup →
    ∃ q, r'.supervisors[n]? = some q ∧ GoesOn sup q

theorem Continues.of_eq {r r' : Runner} (h : r'.supervisors = r.supervisors) : Continues r r' :=
  fun _ sup hn => ⟨sup, h ▸ hn, .refl sup⟩

section

variable {ids ids' : IDs} {r : Runner}

theorem RunnerOk.new (ids : IDs) (nodeID root : String) : RunnerOk ids (newRunner nodeID root) where
  handles id h hget := by cases hget
  supervisors n sup hn := by cases hn

theorem RunnerOk.grows (h : RunnerOk ids r) (hg : ids.Grows ids') : RunnerOk ids' r :=
  ⟨h.handles, fun n sup hn => (h.supervisors n sup hn).grows hg⟩

theorem RunnerOk.set {n : ℕ} {sup q : Pool Manager ManagerCall} (h : RunnerOk ids r)
    (hg : ids.Grows ids') (hsup : r.supervisors[n]? = some sup) (hgo : GoesOn sup q)
    (hq : SupervisorOk ids' q) : RunnerOk ids' { r with supervisors := r.supervisors.set n q } where
  handles id hd hget := by
    obtain ⟨sup', hsup', hid⟩ := h.handles id hd hget
    by_cases hn : n = hd.supervisor
    · subst hn
      obtain rfl := Option.mem_unique hsup hsup'
      exact ⟨q, getElem?_set_of_some q hsup, hgo.containerID.trans hid⟩
    · exact ⟨sup', (List.getElem?_set_ne hn).trans hsup', hid⟩
  supervisors j sup' hj := by
    rcases getElem?_set_cases hj with ⟨-, rfl⟩ | ⟨-, hj⟩
    · exact hq
    · exact (h.supervisors j sup' hj).grows hg

theorem Continues.set {n : ℕ} {sup q : Pool Manager ManagerCall}
    (hsup : r.supervisors[n]? = some sup) (hgo : GoesOn sup q) :
    Continues r { r with supervisors := r.supervisors.set n q } := by
  intro j sup' hj
  by_cases hn : n = j
  · subst hn
    obtain rfl := Option.mem_unique hsup hj
    exact ⟨q, getElem?_set_of_some q hsup, hgo⟩
  · exact ⟨sup', (List.getElem?_set_ne hn).trans hj, .refl sup'⟩

theorem RunnerOk.listen (h : RunnerOk ids r) (host : Host) (id : String) :
    RunnerOk ids (r.listen host id) where
  handles id' hd hget := by
    obtain ⟨sup, hsup, hid⟩ := h.handles id' hd hget
    exact ⟨sup, getElem?_append_of_some _ hsup, hid⟩
  supervisors n sup hn := by
    rcases getElem?_concat_cases hn with ⟨-, rfl⟩ | hn
    · exact .new ids _ _
    · exact h.supervisors n sup hn

theorem Continues.listen (r : Runner) (host : Host) (id : String) :
    Continues r (r.listen host id) :=
  fun _ sup hn => ⟨sup, getElem?_append_of_some _ hn, .refl sup⟩

/-- `ProvisionContainer` adds a supervisor for the container. -/
theorem RunnerOk.provision (h : RunnerOk ids r) (host : Host) (req : CreateContainerRequest)
    (raw : String) (now : Time) : RunnerOk ids (r.provisionContainer host req raw now).1 where
  handles id hd hget := by
    rcases Runner.provisionContainer_get host r req raw now hget with ⟨rfl, rfl⟩ | ⟨-, hold⟩
    · refine ⟨⟨newManager (containerID req raw) host.environ, []⟩, ?_, rfl⟩
      rw [Runner.newHandle_supervisor, ← Runner.newHandle_id host r req raw now]
      exact List.getElem?_concat_length
    · exact (h.listen host (r.newHandle host req raw now).container.id).handles id hd hold
  supervisors := (h.listen host (r.newHandle host req raw now).container.id).supervisors

theorem Continues.provision (r : Runner) (host : Host) (req : CreateContainerRequest)
    (raw : String) (now : Time) : Continues r (r.provisionContainer host req raw now).1 :=
  Continues.listen r host (r.newHandle host req raw now).container.id

/-- `HibernateContainer` and `DeleteContainer` leave the supervisors alone. -/
theorem RunnerOk.hibernate (h : RunnerOk ids r) (id : String) (now : Time) :
    RunnerOk ids (r.hibernateContainer id now).1 where
  handles id' hd' hget := by
    obtain ⟨hd, hold, -, hsup⟩ := Runner.hibernateContainer_get hget
    rw [Runner.hibernateContainer_supervisors, hsup]
    exact h.handles id' hd hold
  supervisors n sup hn := h.supervisors n sup (Runner.hibernateContainer_supervisors r id now ▸ hn)

theorem RunnerOk.delete (h : RunnerOk ids r) (id : String) :
    RunnerOk ids (r.deleteContainer id).1 where
  handles id' hd hget := by
    rw [Runner.deleteContainer_supervisors]
    exact h.handles id' hd (Runner.deleteContainer_get hget).2
  supervisors n sup hn := h.supervisors n sup (Runner.deleteContainer_supervisors r id ▸ hn)

end

/-- What a call does to the node it reaches holds of all nodes, when it holds of a node that
stays as it is. -/
theorem World.reached_of {w : World} {o : Outcome} {k : String} {f : Runner → Runner}
    {R : Runner → Runner → Prop} (hrefl : ∀ r, R r r) (hf : R (w.runner k) (f (w.runner k)))
    (k' : String) : R (w.runner k') (w.reached o k f k') := by
  rcases w.reached_cases o k f k' with hsame | ⟨rfl, -, hcall⟩
  · rw [hsame]
    exact hrefl _
  · rw [hcall]
    exact hf

/-- **A call of an activity** leaves the nodes in order, and their supervisors go on. -/
theorem Activity.nodes_ok {ids : IDs} {w : World} (a : Answer) (x : Activity)
    (h : ∀ k, RunnerOk ids (w.runner k)) (k : String) :
    RunnerOk ids (x.nodes w a k) ∧ Continues (w.runner k) (x.nodes w a k) := by
  have hsame : RunnerOk ids (w.runner k) ∧ Continues (w.runner k) (w.runner k) :=
    ⟨h k, .of_eq rfl⟩
  have hreached : ∀ k' f, (∀ r, RunnerOk ids r → RunnerOk ids (f r)) →
      (∀ r, Continues r (f r)) → RunnerOk ids (w.reached a.outcome k' f k) ∧
        Continues (w.runner k) (w.reached a.outcome k' f k) := fun k' f hok hgo =>
    ⟨World.reached_of (R := fun r r' => RunnerOk ids r → RunnerOk ids r') (fun _ hr => hr)
      (hok _) k (h k), World.reached_of (R := Continues) (fun _ => .of_eq rfl) (hgo _) k⟩
  unfold Activity.nodes
  split
  · next req =>
      cases w.node req.profile.nodeID with
      | ok k' =>
          exact hreached k' _ (fun r hr => hr.provision (w.host k') req a.raw a.now)
            fun r => Continues.provision r _ _ _ _
      | error e => exact hsame
  · next id c k' =>
      exact hreached k' _ (fun r hr => hr.hibernate id a.now)
        fun r => .of_eq (Runner.hibernateContainer_supervisors r id a.now)
  · next id c k' =>
      exact hreached k' _ (fun r hr => hr.delete id)
        fun r => .of_eq (Runner.deleteContainer_supervisors r id)
  · exact hsame

/-- Supervisor `n` was started on the socket. -/
def StartedOn (host : Host) (r : Runner) (socket : String) (n : ℕ) : Prop :=
  ∃ sup, r.supervisors[n]? = some sup ∧
    supervisorSocket host (joinPath r.root sup.shared.containerID) = socket

/-- **What leads through a socket leads to supervisors that were started on it**: a handle, a socket
file, and a connection, which was made for a supervisor on the same socket. -/
structure LinksOn (host : Host) (s : Node) : Prop where
  handle : ∀ id h, s.runner.containers.get id = some h →
    StartedOn host s.runner h.socket h.supervisor
  socket : ∀ path n, s.sockets.lookup path = some n → StartedOn host s.runner path n
  conn : ∀ k n, s.conns.lookup k = some n →
    ∃ path, StartedOn host s.runner path k ∧ StartedOn host s.runner path n

section

variable {host : Host} {s s' : Node} {l : LinkLabel} {path id : String} {n : ℕ}

theorem StartedOn.step {r r' : Runner} (h : StartedOn host r path n) (hr : Node.Change host r l r') :
    StartedOn host r' path n := by
  obtain ⟨sup, hsup, hsocket⟩ := h
  have hgo : Continues r r' := by
    cases hr with
    | same => exact .of_eq rfl
    | provisioned req raw now => exact .provision r host req raw now
    | deleted id => exact .of_eq (Runner.deleteContainer_supervisors r id)
    | began _ _ _ _ hp hq | moved _ _ _ _ hp hq => exact .set hp (managerStep_goesOn hq)
  obtain ⟨q, hq, hgoes⟩ := hgo n sup hsup
  exact ⟨q, hq, by rw [hr.socket.1, hgoes.containerID, hsocket]⟩

/-- **A step of a node** keeps what leads through a socket on that socket. -/
theorem LinksOn.step (hs : LinksOn host s) (hstep : s.step host l = some s') : LinksOn host s' := by
  have hmono {path : String} {n : ℕ} (h : StartedOn host s.runner path n) :
      StartedOn host s'.runner path n := h.step (Node.step_change hstep)
  have hconns {k n : ℕ} (hn : s.conns.lookup k = some n) :
      ∃ path, StartedOn host s'.runner path k ∧ StartedOn host s'.runner path n := by
    obtain ⟨path, hk, hn⟩ := hs.conn k n hn
    exact ⟨path, hmono hk, hmono hn⟩
  cases Node.step_relink hstep with
  | fewer l s' hget hsocket hconn =>
      exact ⟨fun id h hid => hmono (hs.handle id h (hget id h hid)),
        fun path n hn => hmono (hs.socket path n (hsocket path n hn)),
        fun k n hn => hconns (hconn k n hn)⟩
  | provisioned req raw now =>
      have hnew : StartedOn host (s.provision host req raw now none).1.runner
          (s.runner.newHandle host req raw now).socket s.runner.supervisors.length := by
        refine ⟨_, List.getElem?_concat_length, ?_⟩
        rw [Runner.newHandle_socket, Runner.newHandle_root]
        exact congrArg (fun id => supervisorSocket host (joinPath s.runner.root id))
          (Runner.newHandle_id host s.runner req raw now)
      refine ⟨fun id h hid => ?_, fun path n hn => ?_,
        fun k n hn => hconns (GoMap.lookup_erase_some hn).2⟩
      · rcases Runner.provisionContainer_get host s.runner req raw now hid with ⟨-, rfl⟩ | ⟨-, hold⟩
        · rw [Runner.newHandle_supervisor]
          exact hnew
        · exact hmono (hs.handle id h hold)
      · rcases GoMap.lookup_insert_cases hn with ⟨hpath, hlast⟩ | ⟨-, hold⟩
        · rw [hpath, hlast]
          exact hnew
        · exact hmono (hs.socket path n hold)
  | connected id h n hget hn =>
      refine ⟨hs.handle, hs.socket, fun k n' hn' => ?_⟩
      rcases GoMap.lookup_insert_cases hn' with ⟨rfl, rfl⟩ | ⟨-, hold⟩
      · exact ⟨h.socket, hs.handle id h hget, hs.socket _ _ hn⟩
      · exact hs.conn k n' hold

theorem LinksOn.link (hs : LinksOn host s) {h : ContainerHandle}
    (hget : s.runner.containers.get id = some h) (hlink : s.link h = some n) :
    StartedOn host s.runner h.socket n := by
  unfold Node.link at hlink
  split at hlink
  · next hconn =>
      obtain rfl := Option.some.inj hlink
      obtain ⟨path, ⟨sup, hsup, rfl⟩, hn⟩ := hs.conn _ _ hconn
      obtain ⟨sup', hsup', hsocket⟩ := hs.handle id h hget
      obtain rfl := Option.mem_unique hsup hsup'
      exact hsocket ▸ hn
  · exact hs.socket _ n hlink

end

/-- **The calls of a site can go where the links of its nodes lead.**  Let a node in any state that
it reaches have the runner of the site.  A call that has found a handle can be redialled to the
supervisor that the handle leads to; and `handleBySession` can have asked that supervisor. -/
theorem calls_follow_links {s : Site} {k nodeID root id : String} {l : List LinkLabel} {nd : Node}
    {h : ContainerHandle} {n : ℕ}
    (hnd : exec (Node.step (s.world.host k)) { runner := newRunner nodeID root } l = some nd)
    (hrunner : nd.runner = s.world.runner k) (hget : nd.runner.containers.get id = some h)
    (hlink : nd.link h = some n) (job : Job) :
    (job.waiting = some (.found h.supervisor) → job.activity.callsNode = some k →
        (job.redial s n).isSome) ∧
      ∀ req sess run, job.waiting = none →
        job.activity = .session (.prompt (.nodePrompt req sess k run)) →
          lists nd.reach req.sessionID h = true → (job.findThrough s id n).isSome := by
  have hs : LinksOn (s.world.host k) nd :=
    exec_invariant_of_step (fun _ _ _ hs hstep => hs.step hstep)
      ⟨fun _ _ hid => (by cases hid), fun _ _ hn => (by cases hn), fun _ _ hn => by cases hn⟩ hnd
  obtain ⟨sup', hsup', hsocket'⟩ := hs.link hget hlink
  rw [hrunner] at hsup' hsocket'
  constructor
  · intro hw hk
    obtain ⟨sup, hsup, hsocket⟩ := hs.handle id h hget
    rw [hrunner] at hsup hsocket
    have hsame : s.socket k sup.shared.containerID = s.socket k sup'.shared.containerID :=
      hsocket.trans hsocket'.symm
    simp only [Job.redial, hw, hk, Site.supervisor?, hsup, hsup', Option.bind_some, if_pos hsame,
      Option.isSome_some]
  · intro req sess run hw hact hlists
    obtain ⟨m, sess', hreach, hsess⟩ := lists_eq_true.1 hlists
    simp only [Node.reach, hlink, hrunner, Option.bind_some, hsup', Except.ok.injEq] at hreach
    subst hreach
    have hthrough : s.socket k sup'.shared.containerID = h.socket ∧
        (sup'.shared.sessions.get req.sessionID).isSome = true :=
      ⟨hsocket', Option.isSome_iff_exists.2 ⟨sess', hsess⟩⟩
    rw [hrunner] at hget
    simp only [Job.findThrough, hw, hact, hget, Site.supervisor?, hsup', Option.bind_some,
      if_pos hthrough, Option.isSome_some]

end Workflows
end Agentd
