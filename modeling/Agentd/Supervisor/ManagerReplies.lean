/-
# What a manager replies

The instances and sessions that a manager makes, holds and replies are those of its own
container; a session is one of the agent instance that the request names, and it is
`active`.  `RepliesOk` is this for the handles, the sessions and the calls of a manager, in
every run however the calls overlap.
-/

import Agentd.Supervisor.Manager

namespace Agentd
namespace Supervisor

open Control Concurrency

/-- What a call has in its hands is of the manager's container and of the request's agent. -/
def ManagerCall.Speaks (m : Manager) : ManagerCall → Prop
  | .ensure _ (.clientInitialize inst _) | .ensure _ (.insert inst _)
  | .ensure _ (.returned (.ok inst)) => inst.containerID = m.containerID
  | .session req (.callAgent h _) =>
      ∃ handle, m.handles[h]? = some handle ∧ handle.inst.id = req.agentInstanceID
  | .session req (.insert sess) | .session req (.returned (.ok sess)) =>
      sess.state = .active ∧ sess.containerID = m.containerID ∧
        sess.agentInstanceID = req.agentInstanceID
  | _ => True

/-- The invariant. -/
structure RepliesOk (p : Pool Manager ManagerCall) : Prop where
  handles : ∀ (h : ℕ) handle, p.shared.handles[h]? = some handle →
    handle.inst.containerID = p.shared.containerID
  sessions : ∀ id sess, p.shared.sessions.get id = some sess →
    sess.containerID = p.shared.containerID
  calls : ∀ (i : ℕ) c, p.threads[i]? = some c → c.Speaks p.shared

section

variable {m m' : Manager} {p q : Pool Manager ManagerCall} {i : ℕ} {l : CallLabel}

theorem Manager.Keeps.speaks {c : ManagerCall} (hk : m.Keeps m') (hc : c.Speaks m) :
    c.Speaks m' := by
  unfold ManagerCall.Speaks at hc ⊢
  split
  · exact hc.trans hk.containerID.symm
  · exact hc.trans hk.containerID.symm
  · exact hc.trans hk.containerID.symm
  · obtain ⟨handle, hget, hid⟩ := hc
    obtain ⟨state, now, hget'⟩ := hk.handles _ handle hget
    exact ⟨_, hget', hid⟩
  · exact ⟨hc.1, hc.2.1.trans hk.containerID.symm, hc.2.2⟩
  · exact ⟨hc.1, hc.2.1.trans hk.containerID.symm, hc.2.2⟩
  · trivial

/-- A call moves: what it has in its hands next is owed, and the handles and sessions. -/
theorem RepliesOk.move {c' : ManagerCall} (h : RepliesOk p) (hk : p.shared.Keeps m')
    (hhandles : ∀ (k : ℕ) handle, m'.handles[k]? = some handle →
      handle.inst.containerID = m'.containerID)
    (hsessions : ∀ id sess, m'.sessions.get id = some sess → sess.containerID = m'.containerID)
    (hc' : c'.Speaks m') : RepliesOk { shared := m', threads := p.threads.set i c' } := by
  refine ⟨hhandles, hsessions, fun j d hd => ?_⟩
  rcases getElem?_set_cases hd with ⟨-, rfl⟩ | ⟨-, hd⟩
  · exact hc'
  · exact hk.speaks (h.calls j d hd)

/-- **A step of `EnsureAgent`.** -/
theorem RepliesOk.ensure {req : InstallAgentRequest} {pc pc' : EnsurePC} (h : RepliesOk p)
    (hi : p.threads[i]? = some (.ensure req pc)) (hs : EnsureStep p.shared req.plan pc l m' pc') :
    RepliesOk { shared := m', threads := p.threads.set i (.ensure req pc') } := by
  have hspeaks := h.calls i _ hi
  cases hs with
  | found | absent | noEntrypoint | notStarted =>
      exact h.move p.shared.keeps_refl h.handles h.sessions trivial
  | started command args raw now =>
      exact h.move (Manager.keeps_of_append rfl rfl (List.append_nil _).symm rfl) h.handles
        h.sessions rfl
  | refused inst cmd =>
      exact h.move (p.shared.keeps_stop cmd) h.handles h.sessions trivial
  | negotiated inst cmd => exact h.move p.shared.keeps_refl h.handles h.sessions hspeaks
  | inserted inst cmd =>
      refine h.move (Manager.keeps_of_append rfl rfl rfl (List.append_nil _).symm)
        (fun k handle hget => ?_) h.sessions trivial
      rcases getElem?_concat_cases hget with ⟨-, rfl⟩ | hget
      · exact hspeaks
      · exact h.handles k handle hget
  | snapshot k handle hget =>
      exact h.move p.shared.keeps_refl h.handles h.sessions (h.handles k handle hget)

/-- **A step of `CreateSession` or `LoadSession`.** -/
theorem RepliesOk.session {req : SessionRequest} {pc pc' : SessionPC} (h : RepliesOk p)
    (hi : p.threads[i]? = some (.session req pc)) (hs : SessionStep p.shared req pc l m' pc') :
    RepliesOk { shared := m', threads := p.threads.set i (.session req pc') } := by
  have hspeaks := h.calls i _ hi
  cases hs with
  | notFound | refused => exact h.move p.shared.keeps_refl h.handles h.sessions trivial
  | found k raw hfound =>
      obtain ⟨key, handle, -, hget, hid⟩ := Manager.agentByID_eq_ok hfound
      exact h.move p.shared.keeps_refl h.handles h.sessions ⟨handle, hget, hid⟩
  | accepted k sessionID handle hget negotiated now =>
      obtain ⟨handle', hget', hid⟩ := hspeaks
      obtain rfl := Option.mem_unique hget hget'
      exact h.move p.shared.keeps_refl h.handles h.sessions ⟨rfl, rfl, hid⟩
  | inserted sess =>
      refine h.move (Manager.keeps_of_append rfl rfl (List.append_nil _).symm (List.append_nil _).symm)
        h.handles (fun id sess' hget => ?_) hspeaks
      have hrow : (p.shared.sessions.upsert sess).get id = some sess' := hget
      rw [Table.get_upsert] at hrow
      split_ifs at hrow
      · exact Option.some.inj hrow ▸ hspeaks.2.1
      · exact h.sessions id sess' hrow

/-- **A step of a manager** keeps its replies in order. -/
theorem RepliesOk.step {l : ManagerLabel} (h : RepliesOk p) (hq : managerStep p l = some q) :
    RepliesOk q := by
  cases l with
  | exit n =>
      obtain rfl := Option.some.inj hq
      exact ⟨h.handles, h.sessions, fun j c hc => (p.shared.keeps_stop n).speaks (h.calls j c hc)⟩
  | waited n now =>
      obtain ⟨m, hm, rfl⟩ := Option.map_eq_some_iff.1 hq
      have hk := Manager.keeps_waited hm
      obtain ⟨_, _, rfl⟩ := Manager.waited_eq_some hm
      refine ⟨fun k handle' hget' => ?_, h.sessions, fun j c hc => hk.speaks (h.calls j c hc)⟩
      obtain ⟨handle, _, _, hget, rfl⟩ := Manager.handle_of_waited hm hget'
      exact h.handles k handle hget
  | calls l =>
      cases l with
      | spawn b =>
          obtain ⟨c, hc, rfl⟩ := Pool.step_spawn.1 (show p.step _ _ = some q from hq)
          refine ⟨h.handles, h.sessions, fun j d hd => ?_⟩
          rcases getElem?_concat_cases hd with ⟨-, rfl⟩ | hd
          · cases b <;> exact Option.some.inj hc ▸ trivial
          · exact h.calls j d hd
      | step i l =>
          obtain ⟨c, m', c', hi, rfl, hstep⟩ := managerStep_call hq
          rcases hstep with ⟨req, pc, pc', rfl, rfl, hs⟩ | ⟨req, pc, pc', rfl, rfl, hs⟩
          · exact h.ensure hi hs
          · exact h.session hi hs

theorem RepliesOk.new (containerID : String) (environ : List String) :
    RepliesOk ⟨newManager containerID environ, []⟩ where
  handles h handle hget := by cases hget
  sessions id sess hget := by cases hget
  calls i c hc := by cases hc

end

/-- A session that a manager can reply to the request. -/
inductive SessionReply (req : SessionRequest) (sess : Session) : Prop
  | intro {containerID : String} {environ : List String} {l : List ManagerLabel}
      {p : Pool Manager ManagerCall}
      (hexec : exec managerStep ⟨newManager containerID environ, []⟩ l = some p)
      (hmem : .session req (.returned (.ok sess)) ∈ p.threads)

/-- **What a manager replies is an active session of the agent that the request names.** -/
theorem SessionReply.active {req : SessionRequest} {sess : Session} (h : SessionReply req sess) :
    sess.state = .active ∧ sess.agentInstanceID = req.agentInstanceID := by
  obtain ⟨hexec, hmem⟩ := h
  have hok := exec_invariant_of_step (fun _ _ _ hok hs => RepliesOk.step hok hs)
    (RepliesOk.new _ _) hexec
  obtain ⟨i, hi⟩ := List.mem_iff_getElem?.1 hmem
  obtain ⟨hstate, -, hagent⟩ := hok.calls i _ hi
  exact ⟨hstate, hagent⟩

end Supervisor
end Agentd
