/-
# Attempts that are repeated

What an attempt leaves when a write after its node call has failed, and what the next
attempt with the same request makes of that.  `WriteFails.reached` reads a failed attempt
off its run, `Completes.reached` one in which nothing fails, and `Reached.completes` puts an
attempt without failures together from the part up to the answer of the node and the store
calls of another attempt.
-/

import Agentd.Workflows.Attempts

namespace Agentd
namespace Workflows

open Control Store NodeRuntime Supervisor Concurrency

/-- The activity has stored the answer of the node, and nothing can make it fail. -/
def Activity.settled : Activity → Bool
  | .provision (.appendAudit _) | .provision (.returned (.ok _)) | .openSession (.appendAudit _ _)
  | .openSession (.returned _ (.ok _)) | .container (.ensureAgent (.upsertContainer _ _ _))
  | .container (.ensureAgent (.appendAudit _ _))
  | .container (.ensureAgent (.returned _ (.ok _))) | .container (.hibernate (.returned (.ok _)))
  | .container (.delete (.returned (.ok _))) => true
  | _ => false

section

variable {s s' s₁ : Site} {req : Request} {x x' x₁ : Activity} {w w' : World} {a : Answer}

theorem Activity.settled_step (hx : x.settled = true) (h : x.step w a = some (w', x')) :
    x'.settled = true := by
  unfold Activity.settled at hx
  split at hx <;>
    first
    | (obtain ⟨-, rfl⟩ := some_pair_inj h; rfl)
    | cases h
    | cases hx

theorem Activity.settled_not_failed (hx : x.settled = true) : ¬ x.Failed := by
  unfold Activity.settled at hx
  split at hx <;> first | exact id | cases hx

theorem serve_ensure {req : InstallAgentRequest} {ls : List CallLabel} {m m' : Manager}
    {c : ManagerCall} (h : exec serveStep (m, .ensure req .lookup) ls = some (m', c)) :
    ∃ pc, c = .ensure req pc := by
  refine exec_invariant_of_step (I := fun t : Manager × ManagerCall => ∃ pc, t.2 = .ensure req pc)
    ?_ ⟨_, rfl⟩ h
  rintro ⟨m₁, c₁⟩ l ⟨m₂, c₂⟩ ⟨pc, rfl⟩ hstep
  obtain ⟨m₃, pc', -, -, rfl⟩ := map_eq_some_pair hstep
  exact ⟨pc', rfl⟩

theorem serve_session {req : SessionRequest} {ls : List CallLabel} {m m' : Manager}
    {c : ManagerCall} (h : exec serveStep (m, .session req .agentByID) ls = some (m', c)) :
    ∃ pc, c = .session req pc := by
  refine exec_invariant_of_step (I := fun t : Manager × ManagerCall => ∃ pc, t.2 = .session req pc)
    ?_ ⟨_, rfl⟩ h
  rintro ⟨m₁, c₁⟩ l ⟨m₂, c₂⟩ ⟨pc, rfl⟩ hstep
  obtain ⟨m₃, pc', -, -, rfl⟩ := map_eq_some_pair hstep
  exact ⟨pc', rfl⟩

/-- **The supervisor has answered `EnsureAgent`.** -/
theorem Reached.ensureAgent {req : InstallAgentRequest} (h : Reached s (.ensureAgent req) s₁ x) :
    ∃ c k hd ls sup m inst, s.world.store.containers.get req.containerID = some c ∧
      s.world.node c.nodeID = .ok k ∧
      (s.world.runner k).containers.get req.containerID = some hd ∧
      Serves (fun _ => True) s k hd.supervisor (.ensureAgent req) ls sup m
        (.ensure req (.returned (.ok inst))) ∧
      Stands s (s.setSupervisor k hd.supervisor
        ⟨m, sup.threads ++ [.ensure req (.returned (.ok inst))]⟩).world.runner s.world.store s₁ ∧
      x = .container (.ensureAgent (.upsertAgentInstance req c inst)) := by
  cases h with
  | @served _ c k x₀ _ r hd ls sup m call reply _ hasks hrow hnode hget hserves hs hreply hx =>
      cases hasks with
      | ensureAgent req c k =>
          obtain ⟨pc, rfl⟩ := serve_ensure hserves.run
          unfold replyOf at hreply
          split at hreply
          · next req' inst heq =>
              cases heq
              obtain rfl := Option.some.inj hreply
              obtain rfl := Option.some.inj hx
              exact ⟨c, k, hd, ls, sup, m, inst, hrow, hnode, hget, hserves, hs, rfl⟩
          · next heq => cases heq
          · cases hreply

/-- **The supervisor has answered `CreateSession`.** -/
theorem Reached.createSession {req : CreateSessionRequest}
    (h : Reached s (.createSession req) s₁ x) :
    ∃ c k hd ls sup m sess, s.world.store.containers.get req.containerID = some c ∧
      s.world.node c.nodeID = .ok k ∧
      (s.world.runner k).containers.get req.containerID = some hd ∧
      Serves (fun _ => True) s k hd.supervisor (.session (.create req)) ls sup m
        (.session (.create req) (.returned (.ok sess))) ∧
      Stands s (s.setSupervisor k hd.supervisor
        ⟨m, sup.threads ++ [.session (.create req) (.returned (.ok sess))]⟩).world.runner
        s.world.store s₁ ∧
      x = .openSession (.upsertSession (.create req) sess) := by
  cases h with
  | @served _ c k x₀ _ r hd ls sup m call reply _ hasks hrow hnode hget hserves hs hreply hx =>
      cases hasks with
      | createSession req c k =>
          obtain ⟨pc, rfl⟩ := serve_session hserves.run
          unfold replyOf at hreply
          split at hreply
          · next heq => cases heq
          · next req' sess heq =>
              cases heq
              obtain rfl := Option.some.inj hreply
              obtain rfl := Option.some.inj hx
              exact ⟨c, k, hd, ls, sup, m, sess, hrow, hnode, hget, hserves, hs, rfl⟩
          · cases hreply

/-- The write of what the node has answered: it settles the activity, or fails it. -/
theorem Reached.store_step (h : Reached s req s₁ x) (hstep : x.step w a = some (w', x')) :
    (a.outcome = .ok ∧ x'.settled = true) ∨ (a.outcome.err.isSome = true ∧ x'.Failed) := by
  have hnext := (Activity.step_spec hstep).1
  cases req with
  | provisionContainer r =>
      cases h with
      | provision =>
          cases hnext with
          | provision hn =>
              cases hn with
              | notStored _ e he => exact Or.inr ⟨he ▸ rfl, trivial⟩
              | stored _ ho => exact Or.inl ⟨ho, rfl⟩
      | served hasks => cases hasks
  | hibernate id =>
      cases h with
      | hibernate =>
          cases hnext with
          | hibernate hn =>
              cases hn with
              | notStored _ _ e he => exact Or.inr ⟨he ▸ rfl, trivial⟩
              | stored _ _ ho => exact Or.inl ⟨ho, rfl⟩
      | served hasks => cases hasks
  | delete id =>
      cases h with
      | delete =>
          cases hnext with
          | delete hn =>
              cases hn with
              | notStored _ e he => exact Or.inr ⟨he ▸ rfl, trivial⟩
              | stored _ ho => exact Or.inl ⟨ho, rfl⟩
      | served hasks => cases hasks
  | ensureAgent r =>
      obtain ⟨_, _, _, _, _, _, inst, _, _, _, _, _, rfl⟩ := h.ensureAgent
      cases hnext with
      | ensureAgent hn =>
          cases hn with
          | notStored _ _ _ e he => exact Or.inr ⟨he ▸ rfl, trivial⟩
          | known _ _ _ ho => exact Or.inl ⟨ho, rfl⟩
          | added _ _ _ ho => exact Or.inl ⟨ho, rfl⟩
  | createSession r =>
      obtain ⟨_, _, _, _, _, _, sess, _, _, _, _, _, rfl⟩ := h.createSession
      cases hnext with
      | openSession hn =>
          cases hn with
          | notStored _ _ e he => exact Or.inr ⟨he ▸ rfl, trivial⟩
          | stored _ _ ho => exact Or.inl ⟨ho, rfl⟩
  | loadSession | prompt | cancel =>
      cases h with
      | served hasks => cases hasks

end

section

variable {s s' s₁ s₂ : Site} {req : Request} {x x' x₁ : Activity} {w w' : World} {a : Answer}
  {job job' : Job} {lab : AttemptLabel} {P : CallLabel → Prop}

theorem Reached.settled (h : Reached s req s₁ x₁) {as : List Answer}
    (hexec : exec Activity.advance (w, x₁) (a :: as) = some (w', x)) :
    x.settled = true ∨ x.Failed := by
  obtain ⟨⟨w₁, x₂⟩, hfirst, hrest⟩ := exec_cons_eq_some.1 hexec
  refine exec_invariant_of_step
    (I := fun t : World × Activity => t.2.settled = true ∨ t.2.Failed) ?_ ?_ hrest
  · rintro ⟨w₁, y⟩ b ⟨w₂, y'⟩ (hy | hy) hstep
    · exact Or.inl (Activity.settled_step hy hstep)
    · exact (hy.no_step hstep).elim
  · rcases h.store_step hfirst with ⟨-, hx⟩ | ⟨-, hx⟩
    · exact Or.inl hx
    · exact Or.inr hx

theorem Pre.writes (h : Pre P s req s₁ job) : job.activity.writes a = none := by
  cases h with
  | provision | readHibernate | hibernate | readDelete | delete | readEnsureAgent
  | readCreateSession => rfl
  | asked hasks | found hasks | served hasks => cases hasks <;> rfl

/-- **An attempt that a write has failed** had its answer from the node, and the write may have
taken effect or not. -/
theorem WriteFails.reached (hreq : req.Followed) (h : WriteFails s req s') :
    ∃ s₁ x a row, Reached s req s₁ x ∧ x.writes a = some row ∧
      Stands s₁ s₁.world.runner (stored a (some row) s₁.world.store) s' := by
  obtain ⟨l, a, s₂, job₂, job', hl, hexec, hw, hstep, hf⟩ := h
  have hprog : Progress (fun _ => True) (fun _ => True) s req (s₂, job₂) :=
    attempt_progress hreq (fun _ _ h => h) (fun _ _ _ => trivial) (fun _ _ _ _ => trivial) hl hexec
  cases hprog with
  | pre hpre =>
      rw [hpre.writes] at hw
      cases hw
  | @storing s₁ _ x₁ x hr as has hcalls hprompts =>
      have hx := hr.exec_storing hcalls
      obtain ⟨a', w', x', heq, -, hcall, rfl, rfl⟩ :=
        attemptStep_quiet (Activity.storing_quiet hx)
          (show attemptStep (s₂, { activity := x }) (.job (.call a)) = some _ from hstep)
      cases heq
      obtain ⟨row, hrow⟩ := Option.isSome_iff_exists.1 hw
      cases as with
      | nil =>
          obtain ⟨hworld, rfl⟩ := some_pair_inj hcalls
          have hafter := (Activity.step_storing hx hcall).2 s₂.world
          rw [hcall] at hafter
          obtain ⟨rfl, -⟩ := some_pair_inj hafter
          have hw₂ : s₂.world = s₁.world := hworld.symm
          refine ⟨s₁, x₁, a, row, hr, hrow, ⟨⟨?_, ?_, ?_⟩, ?_, hprompts⟩⟩
          · show s₂.world.runner = _
            rw [hw₂]
          · show s₂.world.nodes = _
            rw [hw₂]
          · show s₂.world.host = _
            rw [hw₂]
          · show stored a (x₁.writes a) s₂.world.store = _
            rw [show x₁.writes a = some row from hrow, hw₂]
      | cons b as =>
          rcases hr.settled hcalls with hset | hfail
          · exact (Activity.settled_not_failed (Activity.settled_step hset hcall) hf).elim
          · exact (hfail.no_step hcall).elim
  | failed hfail =>
      obtain ⟨row, hrow⟩ := Option.isSome_iff_exists.1 hw
      have hx : ∀ y : Activity, y.Failed → y.writes a = none := by
        intro y hy
        unfold Activity.Failed at hy
        split at hy <;> first | rfl | exact hy.elim
      rw [hx _ hfail] at hrow
      cases hrow

/-- An attempt that has succeeded is not one that the node has not answered. -/
theorem Pre.not_returned (h : Pre P s req s₁ job) :
    ¬ (job.activity.Succeeded ∨ job.activity.Failed) := by
  cases h with
  | provision | readHibernate | hibernate | readDelete | delete | readEnsureAgent
  | readCreateSession => exact fun h => h.elim id id
  | asked hasks | found hasks | served hasks => cases hasks <;> exact fun h => h.elim id id

theorem Activity.Failed.not_succeeded (h : x.Failed) : ¬ x.Succeeded := by
  unfold Activity.Failed at h
  split at h <;> first | exact id | exact h.elim

theorem Clean.ok_of_storing (h : Clean (s₁, job) (.job (.call a)))
    (hx : job.activity.storing = true) : a.outcome = .ok := by
  refine h.resolve_right fun ⟨k, r, hasks, _⟩ => ?_
  have hquiet := Activity.storing_quiet hx
  unfold Activity.asks at hasks
  split at hasks
  · next hact =>
      rw [show job.activity = _ from hact] at hquiet
      cases hquiet
  · next hact =>
      rw [show job.activity = _ from hact] at hquiet
      cases hquiet
  · cases hasks

theorem CleanRun.progress (hreq : req.Followed) {t : Site × Job} (h : CleanRun s req t) :
    Progress CleanCall (fun a => a.outcome = .ok) s req t := by
  obtain ⟨l, hl, hexec⟩ := h
  exact attempt_progress hreq (fun _ _ h => h.2) (fun _ _ h => h.1)
    (fun _ _ h hx => h.1.ok_of_storing hx) hl hexec

/-- **An attempt in which nothing fails** has its answer from the node, and then calls the
store. -/
theorem Completes.reached (hreq : req.Followed) (h : Completes s req s' x) (hx : x.Succeeded) :
    ∃ s₁ x₁ as, Reached s req s₁ x₁ ∧
      (∀ a ∈ as, a.outcome = .ok ∧ a.reply.fromSupervisor = false) ∧
      exec Activity.advance (s₁.world, x₁) as = some (s'.world, x) ∧ s'.prompts = s₁.prompts := by
  obtain ⟨wait, hrun, -⟩ := h
  cases hrun.progress hreq with
  | pre hpre => exact (hpre.not_returned (Or.inl hx)).elim
  | storing hr as has hcalls hprompts => exact ⟨_, _, as, hr, has, hcalls, hprompts⟩
  | failed hf => exact (hf.not_succeeded hx).elim

end

/-- An attempt from `s` has nothing to fear from the node: the container is there, and the
supervisor does not refuse what the request asks of it. -/
inductive Ready (s : Site) : Request → Prop
  | provision {req : CreateContainerRequest} {k : String}
      (hnode : s.world.node req.profile.nodeID = .ok k) : Ready s (.provisionContainer req)
  | hibernate {id : String} {c : Container} {k : String} {h : ContainerHandle}
      (hrow : s.world.store.containers.get id = some c) (hnode : s.world.node c.nodeID = .ok k)
      (hget : (s.world.runner k).containers.get id = some h) : Ready s (.hibernate id)
  | served {req : Request} {c : Container} {k : String} {x : Activity} {r : ManagerRequest}
      {h : ContainerHandle} {sup : Pool Manager ManagerCall} (hasks : Asks req c k x r)
      (hrow : s.world.store.containers.get (containerOf r) = some c)
      (hnode : s.world.node c.nodeID = .ok k)
      (hget : (s.world.runner k).containers.get (containerOf r) = some h)
      (hsup : s.supervisor? k h.supervisor = some sup)
      (hserves : ∀ ls m call, (∀ l ∈ ls, CleanCall l) →
        exec serveStep (sup.shared, beginCall r) ls = some (m, call) → ¬ Refused call) :
      Ready s req

section

variable {s s' s₁ s₂ : Site} {req : Request} {x x' x₁ : Activity} {w w' : World} {a : Answer}
  {job job' : Job} {lab : AttemptLabel} {c : Container} {k : String} {r : ManagerRequest}

theorem World.containerNode_ok {id : String} (ho : a.outcome = .ok)
    (hrow : w.store.containers.get id = some c) (hnode : w.node c.nodeID = .ok k) :
    w.containerNode a.outcome id = .ok (c, k) := by
  rw [ho]
  simp only [World.containerNode, Outcome.err, MemoryStore.getContainer, hrow, MemoryStore.found,
    bind, Except.bind, hnode, pure, Except.pure]

theorem Ready.not_refuses (h : Ready s req) (hpre : Pre CleanCall s req s₁ job) :
    ¬ Refuses (s₁, job) := by
  rintro ⟨k', r', hasks', hwait⟩
  cases h with
  | provision =>
      cases hpre with
      | provision => cases hasks'
      | asked hasks | found hasks | served hasks => cases hasks
  | hibernate =>
      cases hpre with
      | readHibernate | hibernate => cases hasks'
      | asked hasks | found hasks | served hasks => cases hasks
  | served hasks hrow hnode hget hsup hserves =>
      cases hpre with
      | provision | readHibernate | hibernate | readDelete | delete => cases hasks
      | readEnsureAgent | readCreateSession => cases hasks'
      | asked hasks₁ hrow₁ hnode₁ =>
          obtain ⟨rfl, rfl⟩ := Prod.mk.inj (Option.mem_unique hasks₁.asks hasks')
          cases hasks <;> cases hasks₁ <;>
          · obtain rfl := Option.mem_unique hrow hrow₁
            obtain rfl := Except.ok.inj (hnode.symm.trans hnode₁)
            exact absurd (hget.symm.trans hwait) nofun
      | found => exact hwait
      | served hasks₁ hrow₁ hnode₁ hget₁ hserves₁ hs₁ =>
          obtain ⟨rfl, rfl⟩ := Prod.mk.inj (Option.mem_unique hasks₁.asks hasks')
          obtain ⟨p, call, hp, hcall, hrefused⟩ := hwait
          have hset := Site.supervisor?_set hserves₁.supervisor hs₁.moved.runner
          obtain rfl := Option.mem_unique hset hp
          obtain rfl := Option.mem_unique List.getElem?_concat_length hcall
          cases hasks <;> cases hasks₁ <;>
          · obtain rfl := Option.mem_unique hrow hrow₁
            obtain rfl := Except.ok.inj (hnode.symm.trans hnode₁)
            obtain rfl := Option.mem_unique hget hget₁
            obtain rfl := Option.mem_unique hsup hserves₁.supervisor
            exact hserves _ _ _ hserves₁.steps hserves₁.run hrefused

end

section

variable {s s' s₁ s₂ : Site} {req : Request} {x x' x₁ : Activity} {w w' : World} {a : Answer}
  {job job' : Job} {lab : AttemptLabel} {c : Container} {k : String} {r : ManagerRequest}

theorem Asks.no_step (h : Asks req c k x r) (ho : a.outcome = .ok)
    (hreply : a.reply.fromSupervisor = false) : x.step w a ≠ some (w', x') := by
  intro hstep
  obtain ⟨now, raw, outcome, reply⟩ := a
  obtain rfl : outcome = .ok := ho
  cases h <;>
  · cases reply with
    | none | event => cases hstep
    | agent | session | run => exact absurd hreply nofun

theorem Activity.receives_not_failed {reply : Reply} (h : x.receives reply = some x') :
    ¬ x'.Failed := by
  cases Activity.received_of_receives h <;> exact id

/-- **A step without a failure before the node has answered** does not make the attempt fail,
when the node is ready for it. -/
theorem Ready.step (h : Ready s req) (hpre : Pre CleanCall s req s₁ job)
    (hclean : Clean (s₁, job) lab) (hstep : attemptStep (s₁, job) lab = some (s₂, job')) :
    ¬ job'.activity.Failed := by
  have hok : ∀ a, lab = .job (.call a) → a.outcome = .ok := by
    rintro a rfl
    exact hclean.resolve_right (h.not_refuses hpre)
  cases hx : job.activity.atSupervisor with
  | true =>
      have hasks : ∃ c k r, Asks req c k job.activity r := by
        cases hpre with
        | asked hasks | found hasks | served hasks => exact ⟨_, _, _, hasks⟩
        | provision | readHibernate | hibernate | readDelete | delete | readEnsureAgent
        | readCreateSession => cases hx
      obtain ⟨c, k, r, hasks⟩ := hasks
      have hnot : ¬ job.activity.Failed := fun hf => hpre.not_returned (Or.inr hf)
      cases lab with
      | job l =>
          cases Job.step_spec hstep with
          | called a w' x' hreply hcall =>
              exact (hasks.no_step (hok a rfl) hreply hcall).elim
          | found | foundSession | served | prompted => exact hnot
          | received _ _ _ _ _ _ _ _ _ _ _ _ _ hx' => exact Activity.receives_not_failed hx'
          | finished _ _ _ _ hx' => exact Activity.receives_not_failed hx'
      | call l =>
          simp only [attemptStep] at hstep
          split at hstep
          · obtain ⟨_, -, hrest⟩ := Option.bind_eq_some_iff.1 hstep
            obtain ⟨_, -, heq⟩ := Option.map_eq_some_iff.1 hrest
            obtain ⟨-, rfl⟩ := Prod.mk.inj heq
            exact hnot
          · cases hstep
  | false =>
      obtain ⟨a, w', x', rfl, -, hcall, rfl, rfl⟩ := attemptStep_quiet hx hstep
      have ho := hok a rfl
      cases hpre with
      | asked hasks | found hasks | served hasks => cases hasks <;> cases hx
      | provision req =>
          cases h with
          | served hasks => cases hasks
          | provision hnode =>
              simp only [Activity.step, Provision.step, hnode, World.call, ho, Outcome.err,
                Runner.provisionContainer, Option.map_some] at hcall
              obtain ⟨-, rfl⟩ := some_pair_inj hcall
              exact id
      | readHibernate cid =>
          cases h with
          | served hasks => cases hasks
          | hibernate hrow hnode =>
              simp only [Activity.step, ContainerActivity.step, Hibernate.step,
                World.containerNode_ok ho hrow hnode, Option.map_some] at hcall
              obtain ⟨-, rfl⟩ := some_pair_inj hcall
              exact id
      | hibernate cid c k hrow hnode =>
          cases h with
          | served hasks => cases hasks
          | hibernate hrow₁ hnode₁ hget =>
              obtain rfl := Option.mem_unique hrow hrow₁
              obtain rfl := Except.ok.inj (hnode.symm.trans hnode₁)
              simp only [Activity.step, ContainerActivity.step, Hibernate.step, World.call, ho,
                Outcome.err, Runner.hibernateContainer, hget, Option.map_some] at hcall
              obtain ⟨-, rfl⟩ := some_pair_inj hcall
              exact id
      | readDelete | delete =>
          cases h with
          | served hasks => cases hasks
      | readEnsureAgent req =>
          cases h with
          | served hasks hrow hnode =>
              cases hasks
              have hread : s.world.containerNode a.outcome req.containerID = .ok (_, _) :=
                World.containerNode_ok ho hrow hnode
              simp only [Activity.step, ContainerActivity.step, EnsureAgent.step, hread,
                Option.map_some] at hcall
              obtain ⟨-, rfl⟩ := some_pair_inj hcall
              exact id
      | readCreateSession req =>
          cases h with
          | served hasks hrow hnode =>
              cases hasks
              have hread : s.world.containerNode a.outcome req.containerID = .ok (_, _) :=
                World.containerNode_ok ho hrow hnode
              simp only [Activity.step, OpenSession.step, SessionRequest.containerID, hread,
                Option.map_some] at hcall
              obtain ⟨-, rfl⟩ := some_pair_inj hcall
              exact id

end

section

variable {s s' s₁ s₂ t₀ t₁ : Site} {req : Request} {x x' x₀ x₁ : Activity} {w w' : World}
  {a : Answer} {as : List Answer} {t t' : Site × Job} {lab : AttemptLabel}

theorem Reached.settled_ok (h : Reached s req s₁ x₁) (ha : a.outcome = .ok)
    (hexec : exec Activity.advance (w, x₁) (a :: as) = some (w', x)) : x.settled = true := by
  obtain ⟨⟨w₁, x₂⟩, hfirst, hrest⟩ := exec_cons_eq_some.1 hexec
  refine exec_invariant_of_step (I := fun t : World × Activity => t.2.settled = true)
    (fun _ _ _ hx hs => Activity.settled_step hx hs) ?_ hrest
  rcases h.store_step hfirst with ⟨-, hx⟩ | ⟨herr, -⟩
  · exact hx
  · rw [ha] at herr
    cases herr

theorem CleanRun.start (s : Site) (req : Request) : CleanRun s req (req.attempt s) :=
  ⟨[], trivial, rfl⟩

theorem CleanRun.step (h : CleanRun s req t) (hstep : attemptStep t lab = some t')
    (hclean : Clean t lab) (hfresh : Fresh t lab) : CleanRun s req t' := by
  obtain ⟨l, hl, hexec⟩ := h
  refine ⟨l ++ [lab], hl.append fun u hu => ?_, ?_⟩
  · obtain rfl := Option.mem_unique hexec hu
    exact ⟨⟨hclean, hfresh⟩, fun _ _ => trivial⟩
  · exact exec_append_eq_some.2 ⟨t, hexec, exec_cons_eq_some.2 ⟨t', hstep, rfl⟩⟩

/-- The last step of an attempt in which nothing fails, and the attempt before it. -/
theorem CleanRun.cases_last (h : CleanRun s req t) :
    t = req.attempt s ∨ ∃ u lab, CleanRun s req u ∧ Clean u lab ∧ attemptStep u lab = some t := by
  obtain ⟨l, hl, hexec⟩ := h
  rcases List.eq_nil_or_concat l with rfl | ⟨l, lab, rfl⟩
  · exact Or.inl (Option.some.inj hexec).symm
  · rw [List.concat_eq_append] at hl hexec
    obtain ⟨u, hu, hstep⟩ := exec_concat_eq_some hexec
    exact Or.inr ⟨u, lab, ⟨l, hl.of_append, hu⟩, (hl.here hu).1, hstep⟩

/-- **An attempt in which nothing fails succeeds**, when the node is ready for it. -/
theorem Ready.succeeds (hreq : req.Followed) (hready : Ready s req)
    (h : Completes s req s' x) : x.Succeeded := by
  obtain ⟨wait, hrun, hret⟩ := h
  refine hret.resolve_right fun hfailed => ?_
  rcases hrun.cases_last with heq | ⟨⟨u, job⟩, lab, hu, hclean, hstep⟩
  · obtain ⟨-, hjob⟩ := Prod.mk.inj heq
    obtain ⟨rfl, -⟩ := Job.mk.inj hjob
    cases req <;> exact hfailed
  · cases hu.progress hreq with
    | pre hpre => exact hready.step hpre hclean hstep hfailed
    | failed hf =>
        obtain ⟨a, w', x', -, -, hcall, -⟩ := attemptStep_quiet hf.quiet hstep
        exact hf.no_step hcall
    | storing hr as has hcalls hprompts =>
        have hx := hr.exec_storing hcalls
        obtain ⟨a, w', x', rfl, -, hcall, rfl, heq⟩ :=
          attemptStep_quiet (Activity.storing_quiet hx) hstep
        obtain ⟨rfl, -⟩ := Job.mk.inj heq
        have ho := hclean.ok_of_storing hx
        refine Activity.settled_not_failed ?_ hfailed
        cases as with
        | nil =>
            obtain ⟨-, rfl⟩ := some_pair_inj hcalls
            exact hr.settled_ok ho (show exec Activity.advance _ [a] = some _ from
              exec_cons_eq_some.2 ⟨_, hcall, rfl⟩)
        | cons b as =>
            exact Activity.settled_step
              (hr.settled_ok (has b (List.mem_cons_self ..)).1 hcalls) hcall

/-- The store calls of an attempt, made from another site: they leave the same store when they
begin with the same, and touch no node. -/
theorem CleanRun.calls : ∀ {as : List Answer} {s₁ : Site} {w w' : World} {x x' : Activity},
    CleanRun s req (s₁, { activity := x }) → x.storing = true →
      (∀ a ∈ as, a.outcome = .ok ∧ a.reply.fromSupervisor = false) →
        exec Activity.advance (w, x) as = some (w', x') → s₁.world.store = w.store →
          ∃ s₂, CleanRun s req (s₂, { activity := x' }) ∧ s₂.world.store = w'.store ∧
            s₂.world.runner = s₁.world.runner ∧ w'.runner = w.runner ∧ s₂.prompts = s₁.prompts
  | [], s₁, w, w', x, x', hrun, _, _, hexec, hstore => by
      obtain ⟨rfl, rfl⟩ := some_pair_inj hexec
      exact ⟨s₁, hrun, hstore, rfl, rfl, rfl⟩
  | a :: as, s₁, w, w', x, x', hrun, hx, has, hexec, hstore => by
      obtain ⟨⟨w₁, y⟩, hfirst, hrest⟩ := exec_cons_eq_some.1 hexec
      obtain ⟨ho, hreply⟩ := has a (List.mem_cons_self ..)
      obtain ⟨hy, hafter⟩ := Activity.step_storing hx hfirst
      have hw₁ := hafter w
      rw [show x.step w a = _ from hfirst] at hw₁
      obtain ⟨rfl, -⟩ := some_pair_inj hw₁
      have hstep := attemptStep_call (s := s₁) hreply (Activity.storing_quiet hx) (hafter s₁.world)
      have hnext := hrun.step hstep (Or.inl ho) (Fresh.of_storing hx)
      obtain ⟨s₂, hrun₂, hstore₂, hrunner₂, hrunner', hprompts₂⟩ :=
        CleanRun.calls hnext hy (fun b hb => has b (List.mem_cons_of_mem _ hb)) hrest
          (by rw [show s₁.world.store = w.store from hstore])
      exact ⟨s₂, hrun₂, hstore₂, hrunner₂, hrunner', hprompts₂⟩

end

section

variable {s s₁ s₂ t₀ t₁ : Site} {req : Request} {x x₀ x₁ : Activity} {as : List Answer}

theorem Activity.receives_not_succeeded {y y' : Activity} {reply : Reply}
    (h : y.receives reply = some y') : ¬ y'.Succeeded := by
  cases Activity.received_of_receives h <;> exact id

theorem Reached.not_succeeded (h : Reached s req s₁ x) : ¬ x.Succeeded := by
  cases h with
  | provision | hibernate | delete => exact id
  | served _ _ _ _ _ _ _ hx => exact Activity.receives_not_succeeded hx

/-- **A single attempt in which nothing fails**, put together: up to the answer of the node it is
the run to `t₀`, and from there on it makes the store calls of an attempt from `s₁`.  The two
leave the same state when the nodes show the same and the first row absorbs what was
stored before. -/
theorem CleanRun.completes (hrun : CleanRun s req (t₀, { activity := x₀ }))
    (hr : Reached s₁ req t₁ x₁) (hx₀ : x₀.storing = true)
    (hsame : ∀ w a, x₀.step w a = x₁.step w a)
    (hrow : ∀ a, a.outcome = .ok →
      stored a (x₀.writes a) t₀.world.store = stored a (x₁.writes a) t₁.world.store)
    (hnodes : ∀ k id, shows (t₀.world.runner k) id = shows (t₁.world.runner k) id)
    (hprompts : t₀.prompts = t₁.prompts)
    (has : ∀ a ∈ as, a.outcome = .ok ∧ a.reply.fromSupervisor = false)
    (hcalls : exec Activity.advance (t₁.world, x₁) as = some (s₂.world, x))
    (hs₂ : s₂.prompts = t₁.prompts) (hx : x.Succeeded) :
    ∃ s', Completes s req s' x ∧ SameState s' s₂ := by
  cases as with
  | nil =>
      obtain ⟨-, rfl⟩ := some_pair_inj hcalls
      exact (hr.not_succeeded hx).elim
  | cons a as =>
      obtain ⟨ho, hreply⟩ := has a (List.mem_cons_self ..)
      obtain ⟨⟨w₁, y⟩, hfirst, hrest⟩ := exec_cons_eq_some.1 hcalls
      obtain ⟨hy, hafter₁⟩ := Activity.step_storing hr.storing hfirst
      have hw₁ := hafter₁ t₁.world
      rw [show x₁.step t₁.world a = _ from hfirst] at hw₁
      obtain ⟨rfl, -⟩ := some_pair_inj hw₁
      -- the first write, from `t₀`
      have hfirst₀ : x₀.step t₁.world a = some (_, y) := (hsame _ _).trans hfirst
      have hafter₀ := (Activity.step_storing hx₀ hfirst₀).2 t₀.world
      have hstep := attemptStep_call hreply (Activity.storing_quiet hx₀) hafter₀
      have hnext := hrun.step hstep (Or.inl ho) (Fresh.of_storing hx₀)
      obtain ⟨s', hrun', hstore', hrunner', hrunner₂, hprompts'⟩ :=
        CleanRun.calls hnext hy (fun b hb => has b (List.mem_cons_of_mem _ hb)) hrest (hrow a ho)
      refine ⟨s', ⟨none, hrun', Or.inl hx⟩, hstore', fun k id => ?_, ?_⟩
      · rw [hrunner', hrunner₂]
        exact hnodes k id
      · rw [hprompts', hs₂]
        exact congrArg (List.map _) hprompts

end

end Workflows
end Agentd
