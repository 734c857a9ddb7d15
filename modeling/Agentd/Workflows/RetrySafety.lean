/-
# Which activities may be repeated

The workflows repeat an activity that returns an error.  An attempt that fails at a write has
been to the node before, so the next attempt meets what the first has left there.
`retrySafe_iff` says of every reachable site and every number of failed attempts when the
last one leaves what a single attempt leaves: when there was no failed attempt, or when the
request is an `EnsureAgent`, a `Hibernate`, a `ProvisionContainer` that names its container or
a `CreateSession` that names its session.  `Request.RetrySafe` lists these requests.

The `README.md` asks that "container, session, and run transitions stay explicit and
idempotent".  A `Prompt`, a `Delete`, and a request whose id the node makes up, are not.
-/

import Agentd.Workflows.RetriedSessions
import Agentd.Workflows.Integrity

namespace Agentd
namespace Workflows

open Control Store NodeRuntime Supervisor Concurrency

/-- The containers of node `k` have their supervisors, and their records name the node. -/
structure RunnerPlaced (w : World) (k : String) (r : Runner) : Prop where
  nodeID : r.nodeID = k
  supervisors : ∀ id hd, r.containers.get id = some hd →
    ∃ sup, r.supervisors[hd.supervisor]? = some sup
  nodes : ∀ id hd, r.containers.get id = some hd → w.node hd.container.nodeID = .ok k

/-- Every container of the site is placed. -/
def Placed (s : Site) : Prop := ∀ k, RunnerPlaced s.world k (s.world.runner k)

/-- The site is reached from nodes without containers, by any steps of any activities and
supervisors. -/
def Reachable (s : Site) : Prop :=
  ∃ w l p, (∀ k, ∃ root, w.runner k = newRunner k root) ∧
    exec siteStep ⟨{ world := w }, []⟩ l = some p ∧ p.shared = s

section

variable {w w' : World} {k : String} {r : Runner} {s s' : Site}

theorem RunnerPlaced.congr (h : RunnerPlaced w k r) (hnodes : w'.nodes = w.nodes) :
    RunnerPlaced w' k r :=
  ⟨h.nodeID, h.supervisors, fun id hd hget =>
    (World.node_congr hnodes _).trans (h.nodes id hd hget)⟩

theorem RunnerPlaced.provision (h : RunnerPlaced w k r) (hnode : w.node k = .ok k) (host : Host)
    (req : CreateContainerRequest) (raw : String) (now : Time) :
    RunnerPlaced w k (r.provisionContainer host req raw now).1 where
  nodeID := h.nodeID
  supervisors id hd hget := by
    rcases Runner.provisionContainer_get host r req raw now hget with ⟨-, rfl⟩ | ⟨-, hold⟩
    · rw [Runner.newHandle_supervisor]
      exact ⟨_, List.getElem?_concat_length⟩
    · obtain ⟨sup, hsup⟩ := h.supervisors id hd hold
      exact ⟨sup, getElem?_append_of_some _ hsup⟩
  nodes id hd hget := by
    rcases Runner.provisionContainer_get host r req raw now hget with ⟨-, rfl⟩ | ⟨-, hold⟩
    · show w.node r.nodeID = .ok k
      rw [h.nodeID, hnode]
    · exact h.nodes id hd hold

theorem RunnerPlaced.hibernate (h : RunnerPlaced w k r) (id : String) (now : Time) :
    RunnerPlaced w k (r.hibernateContainer id now).1 where
  nodeID := (Runner.hibernateContainer_nodeID r id now).trans h.nodeID
  supervisors id' hd hget := by
    obtain ⟨hd', hget', -, hsup⟩ := Runner.hibernateContainer_get hget
    rw [Runner.hibernateContainer_supervisors, hsup]
    exact h.supervisors id' hd' hget'
  nodes id' hd hget := by
    obtain ⟨hd', hget', hcarries, -⟩ := Runner.hibernateContainer_get hget
    rw [hcarries.nodeID]
    exact h.nodes id' hd' hget'

theorem RunnerPlaced.delete (h : RunnerPlaced w k r) (id : String) :
    RunnerPlaced w k (r.deleteContainer id).1 where
  nodeID := (Runner.deleteContainer_nodeID r id).trans h.nodeID
  supervisors id' hd hget := by
    rw [Runner.deleteContainer_supervisors]
    exact h.supervisors id' hd (Runner.deleteContainer_get hget).2
  nodes id' hd hget := h.nodes id' hd (Runner.deleteContainer_get hget).2

theorem RunnerPlaced.reached (h : ∀ k', RunnerPlaced w k' (w.runner k')) {o : Outcome}
    {f : Runner → Runner} (hf : RunnerPlaced w k (f (w.runner k))) (k' : String) :
    RunnerPlaced w k' (w.reached o k f k') := by
  rcases w.reached_cases o k f k' with hsame | ⟨rfl, -, hcall⟩
  · rw [hsame]
    exact h k'
  · rw [hcall]
    exact hf

theorem Placed.called {x x' : Activity} {a : Answer} (h : Placed s)
    (hstep : x.step s.world a = some (w', x')) : Placed { s with world := w' } := by
  have hmoved := Activity.step_moved hstep
  suffices hnodes : ∀ k, RunnerPlaced s.world k (x.nodes s.world a k) by
    intro k
    show RunnerPlaced w' k (w'.runner k)
    rw [hmoved.runner]
    exact (hnodes k).congr hmoved.nodes
  intro k
  unfold Activity.nodes
  split
  · next req =>
      cases hnode : s.world.node req.profile.nodeID with
      | ok k' => exact RunnerPlaced.reached h ((h k').provision (World.node_self hnode) _ _ _ _) k
      | error err => exact h k
  · exact RunnerPlaced.reached h ((h _).hibernate _ _) k
  · exact RunnerPlaced.reached h ((h _).delete _) k
  · exact h k

theorem Placed.setSupervisor {n : ℕ} {sup q : Pool Manager ManagerCall} (h : Placed s)
    (hsup : s.supervisor? k n = some sup) : Placed (s.setSupervisor k n q) := by
  intro k'
  by_cases hk : k' = k
  · subst hk
    simp only [Site.setSupervisor, World.setRunner, Function.update_self]
    refine ⟨(h k').nodeID, fun id hd hget => ?_, (h k').nodes⟩
    by_cases hn : hd.supervisor = n
    · rw [hn]
      exact ⟨q, getElem?_set_of_some q hsup⟩
    · obtain ⟨p, hp⟩ := (h k').supervisors id hd hget
      exact ⟨p, (List.getElem?_set_ne (Ne.symm hn)).trans hp⟩
  · have hrunner : (s.setSupervisor k n q).world.runner k' = s.world.runner k' :=
      Function.update_of_ne hk _ _
    rw [hrunner]
    exact (h k').congr rfl

/-- **A step of the site** keeps the containers placed. -/
theorem Placed.step {p q : Pool Site Job} {l : SiteLabel} (h : Placed p.shared)
    (hq : siteStep p l = some q) : Placed q.shared := by
  cases l with
  | jobs l =>
      have hpool : p.step jobMachine l = some q := hq
      cases l with
      | spawn req =>
          obtain ⟨job, -, rfl⟩ := Pool.step_spawn.1 hpool
          exact h
      | step i l =>
          obtain ⟨job, s', job', -, hrun, rfl⟩ := Pool.step_run.1 hpool
          have hjob : JobStep p.shared job l s' job' := Job.step_spec hrun
          cases hjob with
          | called a w' x' _ hstep => exact h.called hstep
          | served k req n sup q raw now _ _ hsup => exact h.setSupervisor hsup
          | found | foundSession | prompted | received | finished => exact h
  | supervisor k n l =>
      obtain ⟨s', hs', rfl⟩ := Option.map_eq_some_iff.1 hq
      obtain ⟨sup, hsup, hrest⟩ := Option.bind_eq_some_iff.1 hs'
      obtain ⟨sup', -, rfl⟩ := Option.map_eq_some_iff.1 hrest
      exact h.setSupervisor hsup

/-- **In every reachable site the containers are placed.** -/
theorem Reachable.placed (h : Reachable s) : Placed s := by
  obtain ⟨w, l, p, hnew, hexec, rfl⟩ := h
  refine exec_invariant_of_step (I := fun p : Pool Site Job => Placed p.shared)
    (fun _ _ _ h hs => h.step hs) (fun k => ?_) hexec
  obtain ⟨root, hr⟩ := hnew k
  show RunnerPlaced w k (w.runner k)
  rw [hr]
  exact ⟨rfl, fun id hd hget => (by cases hget), fun id hd hget => (by cases hget)⟩

end

/-- The activities that the workflows repeat. -/
def Request.Repeated : Request → Prop
  | .provisionContainer _ | .ensureAgent _ | .createSession _ | .prompt _ | .hibernate _
  | .delete _ => True
  | .loadSession _ | .cancel _ => False

/-- A second attempt finds what the first has left on the node, and leaves it so. -/
def Request.RetrySafe : Request → Prop
  | .provisionContainer req => req.id ≠ ""
  | .createSession req => req.sessionID ≠ ""
  | .ensureAgent _ | .hibernate _ => True
  | .loadSession _ | .prompt _ | .cancel _ | .delete _ => False

section

variable {s₀ s₁ s₂ : Site} {n : ℕ} {x : Activity}

theorem Retried.reached {req : Request} (h : Retried req n s₀ s₁) (hn : n ≠ 0)
    (hreq : req.Followed) : ∃ t y, Reached s₀ req t y := by
  obtain ⟨s, hfirst⟩ := h.first hn
  obtain ⟨t, y, -, -, hr, -, -⟩ := hfirst.reached hreq
  exact ⟨t, y, hr⟩

/-- `ProvisionContainer` with an id. -/
theorem Retried.provision_completes {req : CreateContainerRequest} (hplaced : Placed s₀)
    (hid : req.id ≠ "") (h : Retried (.provisionContainer req) n s₀ s₁) (hn : n ≠ 0)
    (hlast : Completes s₁ (.provisionContainer req) s₂ x) :
    x.Succeeded ∧ ∃ s', Completes s₀ (.provisionContainer req) s' x ∧ SameState s' s₂ := by
  obtain ⟨t, y, hr⟩ := h.reached hn trivial
  obtain ⟨k, hnode⟩ : ∃ k, s₀.world.node req.profile.nodeID = .ok k := by
    cases hr with
    | provision hnode => exact ⟨_, hnode⟩
    | served hasks => cases hasks
  have hagain : ProvisionsAgain s₀ req k s₁ := by
    clear hlast hr hn
    induction h with
    | zero s => exact .refl s req k
    | succ _ hfails ih => exact (ih hplaced hnode).again hid hnode hfails
  exact hagain.completes hid hnode (hplaced k).supervisors hlast

/-- `Hibernate`. -/
theorem Retried.hibernate_completes {id : String} (hplaced : Placed s₀)
    (h : Retried (.hibernate id) n s₀ s₁) (hn : n ≠ 0)
    (hlast : Completes s₁ (.hibernate id) s₂ x) :
    x.Succeeded ∧ ∃ s', Completes s₀ (.hibernate id) s' x ∧ SameState s' s₂ := by
  obtain ⟨t, y, hr⟩ := h.reached hn trivial
  obtain ⟨c, k, hd, hrow, hnode, hget⟩ : ∃ c k hd, s₀.world.store.containers.get id = some c ∧
      s₀.world.node c.nodeID = .ok k ∧ (s₀.world.runner k).containers.get id = some hd := by
    cases hr with
    | hibernate hrow hnode hget => exact ⟨_, _, _, hrow, hnode, hget⟩
    | served hasks => cases hasks
  have hkey := Table.key_of_get hget
  have hagain : HibernatesAgain s₀ id c k hd s₁ := by
    clear hlast hr hn
    induction h with
    | zero s => exact .refl hrow hnode hget
    | succ _ hfails ih =>
        exact (ih hplaced hrow hnode hget).again ((hplaced k).nodes id hd hget) hkey hfails
  exact hagain.completes hrow hnode hget hlast

/-- `EnsureAgent`: the first attempt leaves the agent that the later ones find. -/
theorem Retried.ensure_completes {req : InstallAgentRequest}
    (h : Retried (.ensureAgent req) n s₀ s₁) (hn : n ≠ 0)
    (hlast : Completes s₁ (.ensureAgent req) s₂ x) :
    x.Succeeded ∧ ∃ s', Completes s₀ (.ensureAgent req) s' x ∧ SameState s' s₂ := by
  have hreq : (Request.ensureAgent req).Followed := trivial
  obtain ⟨c, k, hd, ls, sup, m, inst, hat, hserves, hagain⟩ :
      ∃ c k hd ls sup m inst, Located s₀ req.containerID c k hd sup ∧
        Serves (fun _ => True) s₀ k hd.supervisor (.ensureAgent req) ls sup m
          (.ensure req (.returned (.ok inst))) ∧
        EnsuresAgain s₀ k hd.supervisor m inst s₁ := by
    clear hlast
    induction h with
    | zero => exact (hn rfl).elim
    | @succ n s s₁ s' h hfails ih =>
        cases h with
        | zero =>
            obtain ⟨t, y, a, row, hr, hrow', hs'⟩ := hfails.reached hreq
            obtain ⟨c, k, hd, ls, sup, m, inst, hrow, hnode, hget, hserves, hs, rfl⟩ :=
              hr.ensureAgent
            obtain rfl := Option.some.inj hrow'
            exact ⟨c, k, hd, ls, sup, m, inst, ⟨hrow, hnode, hget, hserves.supervisor⟩, hserves,
              .first hs hs'⟩
        | succ h' hfails' =>
            obtain ⟨c, k, hd, ls, sup, m, inst, hat, hserves, hagain⟩ := ih (Nat.succ_ne_zero _)
            exact ⟨c, k, hd, ls, sup, m, inst, hat, hserves,
              hagain.again hat (serve_holds hserves.run) hfails⟩
  exact hagain.completes hat hserves hlast

/-- `Delete`: the node no longer has the container that the second attempt asks it to delete. -/
theorem Retried.delete_fails {id : String} (h : Retried (.delete id) n s₀ s₁) (hn : n ≠ 0)
    (hlast : Completes s₁ (.delete id) s₂ x) : ¬ x.Succeeded := by
  have hreq : (Request.delete id).Followed := trivial
  intro hx
  obtain ⟨t, y, as, hr, -⟩ := hlast.reached hreq hx
  cases h with
  | zero => exact hn rfl
  | succ _ hfails => exact hfails.delete_not_reached hr

end

/-- **Which activities are retry-safe.**  From a reachable site an activity is attempted `n`
times and each time a write fails after the node has answered, and then once more without a
failure.  The last attempt succeeds and leaves what one attempt without a failure leaves,
in the store and on the nodes, if and only if there was no failed attempt or the request is one
of `Request.RetrySafe`. -/
theorem retrySafe_iff {s₀ s₁ s₂ : Site} {req : Request} {n : ℕ} {x : Activity}
    (hreach : Reachable s₀) (hreq : req.Repeated) (htries : Retried req n s₀ s₁)
    (hlast : Completes s₁ req s₂ x) (hone : n = 0 → x.Succeeded) :
    (x.Succeeded ∧ ∃ s' x', Completes s₀ req s' x' ∧ x'.Succeeded ∧ SameState s' s₂) ↔
      n = 0 ∨ req.RetrySafe := by
  rcases Nat.eq_zero_or_pos n with rfl | hpos
  · cases htries
    refine iff_of_true ⟨hone rfl, s₂, x, hlast, hone rfl, rfl, fun _ _ => rfl, rfl⟩ (.inl rfl)
  have hn : n ≠ 0 := hpos.ne'
  rw [or_iff_right hn]
  have hplaced := hreach.placed
  -- a request that may be repeated has its own single attempt, with the same activity
  have hsafe (h : x.Succeeded ∧ ∃ s', Completes s₀ req s' x ∧ SameState s' s₂) :
      x.Succeeded ∧ ∃ s' x', Completes s₀ req s' x' ∧ x'.Succeeded ∧ SameState s' s₂ := by
    obtain ⟨hx, s', hs', hsame⟩ := h
    exact ⟨hx, s', x, hs', hx, hsame⟩
  cases req with
  | provisionContainer req =>
      refine ⟨?_, fun hid => hsafe (htries.provision_completes hplaced hid hn hlast)⟩
      rintro ⟨hx, s', x', hs', hx', hsame⟩ hid
      exact htries.provision_differs hid hn hlast hx hs' hx' hsame
  | ensureAgent req =>
      exact iff_of_true (hsafe (htries.ensure_completes hn hlast)) trivial
  | createSession req =>
      refine ⟨?_, fun hid => hsafe (htries.create_completes hid hn hlast)⟩
      rintro ⟨hx, s', x', hs', hx', hsame⟩ hid
      exact htries.create_differs hid hn hlast hx hs' hx' hsame
  | prompt req =>
      refine iff_of_false ?_ not_false
      rintro ⟨hx, s', x', hs', hx', hsame⟩
      exact htries.prompt_differs hn hlast hx hs' hx' hsame
  | hibernate id =>
      exact iff_of_true (hsafe (htries.hibernate_completes hplaced hn hlast)) trivial
  | delete id => exact iff_of_false (fun h => htries.delete_fails hn hlast h.1) not_false
  | loadSession req | cancel req => exact hreq.elim

/-- The site after container `ctr_1` has been provisioned on `node-1`. -/
def provisionedSite : Site :=
  ((exec siteStep ⟨{ world := emptyWorld }, []⟩ (promptsNewSession.take 4)).map
    fun p => p.shared).getD { world := emptyWorld }

theorem provisionedSite_reachable : Reachable provisionedSite :=
  ⟨emptyWorld, promptsNewSession.take 4, _, fun _ => ⟨_, rfl⟩, rfl, rfl⟩

/-- A call of the attempt that goes through. -/
def attemptCall : AttemptLabel := .job (.call {})

/-- A write that the store refuses. -/
def refusedWrite : Answer := { outcome := .fail (.other "store unavailable") }

/-- The site after an attempt at the provisioned site whose third call, the write of the row,
fails. -/
def writeFailed (req : Request) : Site :=
  ((exec attemptStep (req.attempt provisionedSite)
    [attemptCall, attemptCall, .job (.call refusedWrite)]).map fun t => t.1).getD provisionedSite

theorem hibernate_writeFails :
    WriteFails provisionedSite (.hibernate "ctr_1") (writeFailed (.hibernate "ctr_1")) :=
  ⟨[attemptCall, attemptCall], refusedWrite, _, _, _,
    .cons trivial rfl (.cons trivial rfl trivial), rfl, rfl, rfl, trivial⟩

theorem delete_writeFails :
    WriteFails provisionedSite (.delete "ctr_1") (writeFailed (.delete "ctr_1")) :=
  ⟨[attemptCall, attemptCall], refusedWrite, _, _, _,
    .cons trivial rfl (.cons trivial rfl trivial), rfl, rfl, rfl, trivial⟩

/-- A hibernation whose first write fails is repeated, and ends as if it had not failed. -/
theorem hibernate_retried_once : ∃ s₂ x,
    Completes (writeFailed (.hibernate "ctr_1")) (.hibernate "ctr_1") s₂ x ∧ x.Succeeded ∧
      ∃ s' x', Completes provisionedSite (.hibernate "ctr_1") s' x' ∧ x'.Succeeded ∧
        SameState s' s₂ := by
  have hlast : ∃ s₂ x, Completes (writeFailed (.hibernate "ctr_1")) (.hibernate "ctr_1") s₂ x :=
    ⟨_, _, none, ⟨[attemptCall, attemptCall, attemptCall],
      .cons ⟨.inl rfl, trivial⟩ rfl (.cons ⟨.inl rfl, trivial⟩ rfl
        (.cons ⟨.inl rfl, trivial⟩ rfl trivial)), rfl⟩, .inl trivial⟩
  obtain ⟨s₂, x, hlast⟩ := hlast
  have hreq : (Request.hibernate "ctr_1").Repeated := trivial
  exact ⟨s₂, x, hlast, (retrySafe_iff provisionedSite_reachable hreq
    (.succ (.zero _) hibernate_writeFails) hlast (fun h => by cases h)).2 (.inr trivial)⟩

/-- **A deletion whose first write fails is not repeated.**  The second attempt is refused by
the node, which has already deleted the container, and the row is never marked as deleted. -/
theorem delete_not_repeated : ∃ s₂ x,
    Retried (.delete "ctr_1") 1 provisionedSite (writeFailed (.delete "ctr_1")) ∧
      Completes (writeFailed (.delete "ctr_1")) (.delete "ctr_1") s₂ x ∧
      (∃ s' x', Completes provisionedSite (.delete "ctr_1") s' x' ∧ x'.Succeeded) ∧
      ¬ x.Succeeded ∧
      (s₂.world.store.containers.get "ctr_1").map (fun c => c.state) = some .ready := by
  refine ⟨_, _, .succ (.zero _) delete_writeFails, ⟨none, ⟨[attemptCall, attemptCall],
    .cons ⟨.inl rfl, trivial⟩ rfl (.cons ⟨.inl rfl, trivial⟩ rfl trivial), rfl⟩, .inr trivial⟩,
    ⟨_, _, ⟨none, ⟨[attemptCall, attemptCall, attemptCall],
      .cons ⟨.inl rfl, trivial⟩ rfl (.cons ⟨.inl rfl, trivial⟩ rfl
        (.cons ⟨.inl rfl, trivial⟩ rfl trivial)), rfl⟩, .inl trivial⟩, trivial⟩, not_false, rfl⟩

end Workflows
end Agentd
