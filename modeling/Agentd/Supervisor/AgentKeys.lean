/-
# The keys of agents

`agentKey` (`runtime/supervisor/manager.go`) puts the id of the agent and the digest of the bundle
into one text, with a colon between them.  Both may have colons in them.  A digest that `Resolve`
(`bundle/resolver.go`) has made is always of the same length, so the key says where it begins, and
the key determines the two (`agentKey_eq_iff`).

`EnsureAgent` hands out what it finds under the key.  An instance has the names of the plan that it
was started for, and that plan has the key under which the handle is entered (`KeysOk`); so where
all digests come from `Resolve`, what is handed out has the names of the request's plan
(`agentKey_identifies`).
-/

import Agentd.Bundles.ContentAddressed
import Agentd.Supervisor.EnsureAgent

namespace Agentd
namespace Supervisor

open Control Concurrency Bundles

/-- The digest of a bundle that `Resolve` has returned. -/
def ResolvedDigest (digest : String) : Prop :=
  ∃ rt entry platform now b, resolve rt entry platform now = some (.ok b) ∧ b.digest = digest

/-- The request is not one for an agent, or the digest of its bundle comes from `Resolve`. -/
def Resolvable (_ : Pool Manager ManagerCall) : ManagerLabel → Prop
  | .calls (.spawn (.ensureAgent req)) => ResolvedDigest req.plan.bundle.digest
  | _ => True

/-- The instance has the agent and the bundle of the plan. -/
def Names (plan : ExecutionPlan) (inst : AgentInstance) : Prop :=
  inst.agentID = plan.agent.id ∧ inst.bundleDigest = plan.bundle.digest

/-- What a call has in its hands is named after a plan with the key of the request. -/
def ManagerCall.Keyed (m : Manager) : ManagerCall → Prop
  | .ensure req (.clientInitialize inst _) | .ensure req (.insert inst _) => Names req.plan inst
  | .ensure req (.snapshot h) =>
      ∃ handle, m.handles[h]? = some handle ∧ agentKey handle.plan = agentKey req.plan
  | .ensure req (.returned (.ok inst)) =>
      ∃ plan, ResolvedDigest plan.bundle.digest ∧ Names plan inst ∧
        agentKey plan = agentKey req.plan
  | _ => True

/-- The digest of an agent that is asked for comes from `Resolve`. -/
def ManagerCall.Sourced : ManagerCall → Prop
  | .ensure req _ => ResolvedDigest req.plan.bundle.digest
  | .session _ _ => True

/-- **The invariant.**  A handle is entered under the key of its plan, its instance is named after
that plan, and all digests come from `Resolve`. -/
structure KeysOk (p : Pool Manager ManagerCall) : Prop where
  entered : ∀ key h, p.shared.agents.lookup key = some h →
    ∃ handle, p.shared.handles[h]? = some handle ∧ agentKey handle.plan = key
  handles : ∀ (h : ℕ) handle, p.shared.handles[h]? = some handle →
    Names handle.plan handle.inst ∧ ResolvedDigest handle.plan.bundle.digest
  calls : ∀ (i : ℕ) c, p.threads[i]? = some c → c.Keyed p.shared ∧ c.Sourced

theorem ResolvedDigest.length {d d' : String} (h : ResolvedDigest d) (h' : ResolvedDigest d') :
    d.toList.length = d'.toList.length := by
  have hlength : ∀ {d}, ResolvedDigest d → d.toList.length = 71 := by
    rintro d ⟨rt, entry, platform, now, b, hb, rfl⟩
    obtain ⟨digits, hdigest, hlen, -⟩ := digest_of_resolve hb
    rw [hdigest]
    simp [hlen]
  rw [hlength h, hlength h']

/-- **The key determines the agent and the bundle**, whatever the agent is called. -/
theorem agentKey_eq_iff {plan plan' : ExecutionPlan} (h : ResolvedDigest plan.bundle.digest)
    (h' : ResolvedDigest plan'.bundle.digest) :
    agentKey plan = agentKey plan' ↔
      plan.agent.id = plan'.agent.id ∧ plan.bundle.digest = plan'.bundle.digest := by
  constructor
  · intro hkey
    have htext := congrArg String.toList hkey
    simp only [agentKey, String.toList_append] at htext
    obtain ⟨hid, hdigest⟩ := List.append_inj' htext (h.length h')
    exact ⟨String.toList_inj.1 (List.append_cancel_right hid), String.toList_inj.1 hdigest⟩
  · rintro ⟨hid, hdigest⟩
    rw [agentKey, agentKey, hid, hdigest]

section

variable {m m' : Manager} {p q : Pool Manager ManagerCall} {i : ℕ} {l : CallLabel}

theorem Manager.Keeps.keyed {c : ManagerCall} (hk : m.Keeps m') (hc : c.Keyed m) :
    c.Keyed m' := by
  unfold ManagerCall.Keyed at hc ⊢
  split
  · exact hc
  · exact hc
  · obtain ⟨handle, hget, hkey⟩ := hc
    obtain ⟨state, now, hget'⟩ := hk.handles _ handle hget
    exact ⟨_, hget', hkey⟩
  · exact hc
  · trivial

/-- What is entered stays named, where a step enters nothing. -/
theorem KeysOk.entered_of_eq (h : KeysOk p) (hk : p.shared.Keeps m')
    (hagents : m'.agents = p.shared.agents) (key : String) (n : ℕ)
    (hn : m'.agents.lookup key = some n) :
    ∃ handle, m'.handles[n]? = some handle ∧ agentKey handle.plan = key := by
  obtain ⟨handle, hget, hkey⟩ := h.entered key n (hagents ▸ hn)
  obtain ⟨state, now, hget'⟩ := hk.handles n handle hget
  exact ⟨_, hget', hkey⟩

/-- A call moves: its own hands, the entries and the handles are owed. -/
theorem KeysOk.move {c c' : ManagerCall} (h : KeysOk p) (hi : p.threads[i]? = some c)
    (hk : p.shared.Keeps m')
    (hent : ∀ key n, m'.agents.lookup key = some n →
      ∃ handle, m'.handles[n]? = some handle ∧ agentKey handle.plan = key)
    (hhandles : ∀ (n : ℕ) handle, m'.handles[n]? = some handle →
      Names handle.plan handle.inst ∧ ResolvedDigest handle.plan.bundle.digest)
    (hkeyed : c'.Keyed m') (hsourced : c.Sourced → c'.Sourced) :
    KeysOk { shared := m', threads := p.threads.set i c' } := by
  refine ⟨hent, hhandles, fun j d hd => ?_⟩
  rcases getElem?_set_cases hd with ⟨-, rfl⟩ | ⟨-, hd⟩
  · exact ⟨hkeyed, hsourced (h.calls i c hi).2⟩
  · exact ⟨hk.keyed (h.calls j d hd).1, (h.calls j d hd).2⟩

/-- **A step of `EnsureAgent`.** -/
theorem KeysOk.ensure {req : InstallAgentRequest} {pc pc' : EnsurePC} (h : KeysOk p)
    (hi : p.threads[i]? = some (.ensure req pc)) (hs : EnsureStep p.shared req.plan pc l m' pc') :
    KeysOk { shared := m', threads := p.threads.set i (.ensure req pc') } := by
  obtain ⟨hkeyed, hsourced⟩ := h.calls i _ hi
  have hk := hs.keeps
  cases hs with
  | found n hn => exact h.move hi hk h.entered h.handles (h.entered _ n hn) id
  | absent | noEntrypoint | notStarted => exact h.move hi hk h.entered h.handles trivial id
  | started command args raw now =>
      exact h.move hi hk (h.entered_of_eq hk rfl) h.handles ⟨rfl, rfl⟩ id
  | refused inst cmd => exact h.move hi hk (h.entered_of_eq hk rfl) h.handles trivial id
  | negotiated inst cmd => exact h.move hi hk h.entered h.handles hkeyed id
  | inserted inst cmd =>
      refine h.move hi hk (fun key n hn => ?_) (fun n handle hget => ?_)
        ⟨_, List.getElem?_concat_length, rfl⟩ id
      · rcases GoMap.lookup_insert_cases hn with ⟨rfl, rfl⟩ | ⟨-, hn⟩
        · exact ⟨_, List.getElem?_concat_length, rfl⟩
        · obtain ⟨handle, hget, hkey⟩ := h.entered key n hn
          exact ⟨handle, getElem?_append_of_some _ hget, hkey⟩
      · rcases getElem?_concat_cases hget with ⟨-, rfl⟩ | hget
        · exact ⟨hkeyed, hsourced⟩
        · exact h.handles n handle hget
  | snapshot n handle hget =>
      obtain ⟨handle', hget', hkey⟩ := hkeyed
      obtain rfl := Option.mem_unique hget hget'
      obtain ⟨hnames, hdigest⟩ := h.handles n handle hget
      exact h.move hi hk h.entered h.handles ⟨handle.plan, hdigest, hnames, hkey⟩ id

/-- **A step of `CreateSession` or `LoadSession`** changes neither entries nor handles. -/
theorem KeysOk.session {req : SessionRequest} {pc pc' : SessionPC} (h : KeysOk p)
    (hi : p.threads[i]? = some (.session req pc)) (hs : SessionStep p.shared req pc l m' pc') :
    KeysOk { shared := m', threads := p.threads.set i (.session req pc') } := by
  have hk := hs.keeps
  cases hs with
  | notFound | refused | found | accepted | inserted =>
      exact h.move hi hk h.entered h.handles trivial id

/-- **A step of a manager** keeps the keys in order. -/
theorem KeysOk.step {l : ManagerLabel} (h : KeysOk p) (hl : Resolvable p l)
    (hq : managerStep p l = some q) : KeysOk q := by
  cases l with
  | exit n =>
      obtain rfl := Option.some.inj hq
      exact ⟨h.entered, h.handles, h.calls⟩
  | waited n now =>
      obtain ⟨m, hm, rfl⟩ := Option.map_eq_some_iff.1 hq
      have hk := Manager.keeps_waited hm
      refine ⟨h.entered_of_eq hk (Manager.grows_waited hm).2.1, fun k handle' hget' => ?_,
        fun j c hc => ⟨hk.keyed (h.calls j c hc).1, (h.calls j c hc).2⟩⟩
      obtain ⟨handle, _, _, hget, rfl⟩ := Manager.handle_of_waited hm hget'
      exact h.handles k handle hget
  | calls l =>
      cases l with
      | spawn b =>
          obtain ⟨c, hc, rfl⟩ := Pool.step_spawn.1 (show p.step _ _ = some q from hq)
          refine ⟨h.entered, h.handles, fun j d hd => ?_⟩
          rcases getElem?_concat_cases hd with ⟨-, rfl⟩ | hd
          · cases b with
            | ensureAgent req => exact Option.some.inj hc ▸ ⟨trivial, hl⟩
            | session req => exact Option.some.inj hc ▸ ⟨trivial, trivial⟩
          · exact h.calls j d hd
      | step i l =>
          obtain ⟨c, m', c', hi, rfl, hstep⟩ := managerStep_call hq
          rcases hstep with ⟨req, pc, pc', rfl, rfl, hs⟩ | ⟨req, pc, pc', rfl, rfl, hs⟩
          · exact h.ensure hi hs
          · exact h.session hi hs

end

theorem KeysOk.new (containerID : String) (environ : List String) :
    KeysOk ⟨newManager containerID environ, []⟩ where
  entered key h hk := by simp [newManager] at hk
  handles h handle hget := by simp [newManager] at hget
  calls i c hc := by simp at hc

/-- **Keys identify the agent and the bundle.**  For plans whose digests come from `Resolve`, with
any agent ids, the key determines both; and in every run of a new manager in which the digests come
from `Resolve`, however its calls overlap, the instance that a call of `EnsureAgent` returns has the
agent and the digest of the call's own plan. -/
theorem agentKey_identifies {containerID : String} {environ : List String} {l : List ManagerLabel}
    {p : Pool Manager ManagerCall}
    (hl : Along managerStep Resolvable ⟨newManager containerID environ, []⟩ l)
    (h : exec managerStep ⟨newManager containerID environ, []⟩ l = some p) :
    (∀ plan plan', ResolvedDigest plan.bundle.digest → ResolvedDigest plan'.bundle.digest →
      (agentKey plan = agentKey plan' ↔
        plan.agent.id = plan'.agent.id ∧ plan.bundle.digest = plan'.bundle.digest)) ∧
      ∀ (i : ℕ) req inst, p.threads[i]? = some (.ensure req (.returned (.ok inst))) →
        inst.agentID = req.plan.agent.id ∧ inst.bundleDigest = req.plan.bundle.digest := by
  refine ⟨fun plan plan' => agentKey_eq_iff, fun i req inst hi => ?_⟩
  have hp : KeysOk p :=
    exec_invariant (fun _ _ _ hok hlab hs => hok.step hlab hs) (.new containerID environ) hl h
  obtain ⟨⟨plan, hdigest, ⟨hid, hbundle⟩, hkey⟩, hsourced⟩ := hp.calls i _ hi
  obtain ⟨hid', hbundle'⟩ := (agentKey_eq_iff hdigest hsourced).1 hkey
  exact ⟨hid.trans hid', hbundle.trans hbundle'⟩

/-- The digest of a package, as `Resolve` makes it. -/
def echoDigest : String := "sha256:77cda86d094c2867fe65df1801b0e50fdb141b3d1c65a13a834e981028bd4bbc"

theorem echoDigest_resolved : ResolvedDigest echoDigest :=
  ⟨linux, packaged "1.0.0" "Echo", "", 1, _, rfl, by decide +kernel⟩

/-- An agent, another one whose id is the key of the first, and this one again. -/
def likeNamed : List ManagerLabel :=
  [ensure "echo" echoDigest, callStep 0 .lookup, callStep 0 (.started none "1" 1),
    callStep 0 (.answered (.ok {}) 2), callStep 0 .insert, callStep 0 .snapshot,
    ensure ("echo:" ++ echoDigest) echoDigest, callStep 1 .lookup,
    callStep 1 (.started none "2" 3), callStep 1 (.answered (.ok {}) 4), callStep 1 .insert,
    callStep 1 .snapshot, ensure ("echo:" ++ echoDigest) echoDigest, callStep 2 .lookup,
    callStep 2 .snapshot]

set_option maxRecDepth 4000 in
/-- The third call of `likeNamed` gets the instance of the second one, with its names. -/
theorem likeNamed_identified :
    ∃ p ∈ exec managerStep ⟨newManager "ctr_1" [], []⟩ likeNamed,
      ∃ inst, p.threads[2]? =
          some (.ensure { plan := planOf ("echo:" ++ echoDigest) echoDigest }
            (.returned (.ok inst))) ∧
        inst.id = "agent_2" ∧ inst.agentID = "echo:" ++ echoDigest ∧
        inst.bundleDigest = echoDigest := by
  have hall : ∀ a ∈ likeNamed, Resolvable ⟨{}, []⟩ a := by
    simp [likeNamed, ensure, callStep, planOf, Resolvable, echoDigest_resolved]
  have hl : Along managerStep Resolvable ⟨newManager "ctr_1" [], []⟩ likeNamed :=
    along_of_forall (P := Resolvable ⟨{}, []⟩) hall
  exact ⟨_, rfl, _, rfl, rfl, (agentKey_identifies hl rfl).2 2 _ _ rfl⟩

end Supervisor
end Agentd
