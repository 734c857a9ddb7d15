/-
# What a call of an activity does to the nodes

The counterpart of `ActivitySteps` for the nodes.  Three calls change the containers of a
node: those of `ProvisionContainer`, `Hibernate` and `Delete`.  `Activity.nodes` is what the
runners are after a call, and `Activity.step_moved` says that nothing else of the nodes
changes.
-/

import Agentd.Workflows.ActivitySteps

namespace Agentd
namespace Workflows

open Control Store NodeRuntime Concurrency

/-- The runners after a call of node `k` that does `f` there. -/
def World.reached (w : World) (o : Outcome) (k : String) (f : Runner → Runner) :
    String → Runner :=
  if o.took then Function.update w.runner k (f (w.runner k)) else w.runner

/-- A runner after a call is as it was, or it is the one the call has reached. -/
theorem World.reached_cases (w : World) (o : Outcome) (k : String) (f : Runner → Runner)
    (k' : String) :
    w.reached o k f k' = w.runner k' ∨
      k' = k ∧ o.took = true ∧ w.reached o k f k' = f (w.runner k) := by
  unfold World.reached
  split_ifs with htook
  · by_cases hk : k' = k
    · subst hk
      exact Or.inr ⟨rfl, htook, Function.update_self ..⟩
    · exact Or.inl (Function.update_of_ne hk ..)
  · exact Or.inl rfl

theorem World.reached_ok (w : World) {o : Outcome} (ho : o = .ok) (k : String)
    (f : Runner → Runner) : w.reached o k f = Function.update w.runner k (f (w.runner k)) := by
  subst ho
  rfl

/-- The runners after the next call of an activity. -/
def Activity.nodes (w : World) (a : Answer) : Activity → String → Runner
  | .provision (.nodeProvision req) =>
      match w.node req.profile.nodeID with
      | .ok k => w.reached a.outcome k fun r => (r.provisionContainer (w.host k) req a.raw a.now).1
      | .error _ => w.runner
  | .container (.hibernate (.nodeHibernate id _ k)) =>
      w.reached a.outcome k fun r => (r.hibernateContainer id a.now).1
  | .container (.delete (.nodeDelete id _ k)) =>
      w.reached a.outcome k fun r => (r.deleteContainer id).1
  | _ => w.runner

/-- What a call of an activity leaves of the nodes: `runner`, the clients and the hosts as
they were. -/
structure World.Moved (w : World) (runner : String → Runner) (w' : World) : Prop where
  runner : w'.runner = runner
  nodes : w'.nodes = w.nodes
  host : w'.host = w.host

section

variable {w w' : World} {a : Answer} {x x' : Activity}

theorem World.Moved.refl (w : World) : w.Moved w.runner w := ⟨rfl, rfl, rfl⟩

theorem World.write_moved (w : World) (o : Outcome) (f : MemoryStore → MemoryStore) :
    w.Moved w.runner (w.write o f) := by
  unfold World.write
  split_ifs
  · exact ⟨rfl, rfl, rfl⟩
  · exact .refl w

theorem World.publish_moved (w : World) (o : Outcome) (now : Time) (event : Event) :
    w.Moved w.runner (w.publish o now event) := by
  unfold World.publish
  dsimp only
  split_ifs <;> exact ⟨rfl, rfl, rfl⟩

theorem World.call_moved {β : Type} (w : World) (k : String) (o : Outcome)
    (f : Runner → Runner × Except Err β) :
    w.Moved (w.reached o k fun r => (f r).1) (w.call k o f).1 := by
  unfold World.call World.reached
  dsimp only
  split_ifs <;> exact ⟨rfl, rfl, rfl⟩

theorem World.call_moved_eq {β : Type} {k : String} {o : Outcome}
    {f : Runner → Runner × Except Err β} (hf : (f (w.runner k)).1 = w.runner k) :
    w.Moved w.runner (w.call k o f).1 := by
  have hmoved := w.call_moved k o f
  refine ⟨hmoved.runner.trans ?_, hmoved.nodes, hmoved.host⟩
  unfold World.reached
  dsimp only
  rw [hf, Function.update_eq_self, ite_self]

theorem Provision.step_moved {x x' : Provision} (h : x.step w a = some (w', x')) :
    w.Moved ((Activity.provision x).nodes w a) w' := by
  cases x with
  | nodeProvision req =>
      simp only [Provision.step] at h
      simp only [Activity.nodes]
      split at h
      · next e he =>
          obtain ⟨rfl, -⟩ := some_pair_inj h
          rw [he]
          exact .refl _
      · next k hk =>
          obtain ⟨rfl, -⟩ := some_pair_inj h
          rw [hk]
          exact World.call_moved ..
  | upsertContainer c =>
      obtain ⟨rfl, -⟩ := some_pair_inj h
      exact World.write_moved ..
  | appendAudit c =>
      obtain ⟨rfl, -⟩ := some_pair_inj h
      exact World.write_moved ..
  | returned res => cases h

theorem OpenSession.step_moved {x x' : OpenSession} (h : x.step w a = some (w', x')) :
    w.Moved w.runner w' := by
  cases x with
  | containerNode req =>
      obtain ⟨rfl, -⟩ := some_pair_inj h
      exact .refl _
  | nodeOpen req n =>
      simp only [OpenSession.step] at h
      split at h
      · obtain ⟨rfl, -⟩ := some_pair_inj h
        exact World.call_moved_eq rfl
      · cases h
      · obtain ⟨rfl, -⟩ := some_pair_inj h
        exact .refl _
      · obtain ⟨rfl, -⟩ := some_pair_inj h
        exact .refl _
  | upsertSession req sess =>
      obtain ⟨rfl, -⟩ := some_pair_inj h
      exact World.write_moved ..
  | appendAudit req sess =>
      obtain ⟨rfl, -⟩ := some_pair_inj h
      exact World.write_moved ..
  | returned req res => cases h

theorem EnsureAgent.step_moved {x x' : EnsureAgent} (h : x.step w a = some (w', x')) :
    w.Moved w.runner w' := by
  cases x with
  | containerNode req =>
      obtain ⟨rfl, -⟩ := some_pair_inj h
      exact .refl _
  | nodeEnsureAgent req c k =>
      simp only [EnsureAgent.step] at h
      split at h
      · obtain ⟨rfl, -⟩ := some_pair_inj h
        exact World.call_moved_eq rfl
      · cases h
      · obtain ⟨rfl, -⟩ := some_pair_inj h
        exact .refl _
      · obtain ⟨rfl, -⟩ := some_pair_inj h
        exact .refl _
  | upsertAgentInstance | upsertContainer | appendAudit =>
      obtain ⟨rfl, -⟩ := some_pair_inj h
      exact World.write_moved ..
  | returned req res => cases h

theorem Hibernate.step_moved {x x' : Hibernate} (h : x.step w a = some (w', x')) :
    w.Moved ((Activity.container (.hibernate x)).nodes w a) w' := by
  cases x with
  | containerNode id =>
      obtain ⟨rfl, -⟩ := some_pair_inj h
      exact .refl _
  | nodeHibernate id c k =>
      obtain ⟨rfl, -⟩ := some_pair_inj h
      exact w.call_moved k a.outcome (·.hibernateContainer id a.now)
  | upsertContainer c updated =>
      obtain ⟨rfl, -⟩ := some_pair_inj h
      exact World.write_moved ..
  | returned res => cases h

theorem Delete.step_moved {x x' : Delete} (h : x.step w a = some (w', x')) :
    w.Moved ((Activity.container (.delete x)).nodes w a) w' := by
  cases x with
  | containerNode id =>
      obtain ⟨rfl, -⟩ := some_pair_inj h
      exact .refl _
  | nodeDelete id c k =>
      obtain ⟨rfl, -⟩ := some_pair_inj h
      exact w.call_moved k a.outcome (·.deleteContainer id)
  | upsertContainer c =>
      obtain ⟨rfl, -⟩ := some_pair_inj h
      exact World.write_moved ..
  | returned res => cases h

theorem Prompt.step_moved {x x' : Prompt} (h : x.step w a = some (w', x')) :
    w.Moved w.runner w' := by
  cases x with
  | getSession | containerNode =>
      obtain ⟨rfl, -⟩ := some_pair_inj h
      exact .refl _
  | upsertSession | upsertRun | upsertFailedRun | upsertFailedSession | upsertFinalRun
  | upsertFinalSession | appendAudit =>
      obtain ⟨rfl, -⟩ := some_pair_inj h
      exact World.write_moved ..
  | publishStarted =>
      obtain ⟨rfl, -⟩ := some_pair_inj h
      exact World.publish_moved ..
  | nodePrompt req sess k run =>
      simp only [Prompt.step] at h
      split at h
      · obtain ⟨rfl, -⟩ := some_pair_inj h
        exact World.publish_moved ..
      · obtain ⟨rfl, -⟩ := some_pair_inj h
        exact .refl _
      · cases h
      · obtain ⟨rfl, -⟩ := some_pair_inj h
        exact .refl _
      · obtain ⟨rfl, -⟩ := some_pair_inj h
        exact .refl _
  | returned => cases h

theorem Cancel.step_moved {x x' : Cancel} (h : x.step w a = some (w', x')) :
    w.Moved w.runner w' := by
  cases x with
  | getSession | containerNode | nodeCancel =>
      obtain ⟨rfl, -⟩ := some_pair_inj h
      exact .refl _
  | upsertSession =>
      obtain ⟨rfl, -⟩ := some_pair_inj h
      exact World.write_moved ..
  | publishCancelling =>
      obtain ⟨rfl, -⟩ := some_pair_inj h
      exact World.publish_moved ..
  | returned => cases h

/-- **What a call of an activity does to the nodes.** -/
theorem Activity.step_moved {x x' : Activity} (h : x.step w a = some (w', x')) :
    w.Moved (x.nodes w a) w' := by
  cases x with
  | provision x =>
      obtain ⟨w₁, y, hs, rfl, rfl⟩ := map_eq_some_pair h
      exact Provision.step_moved hs
  | openSession x =>
      obtain ⟨w₁, y, hs, rfl, rfl⟩ := map_eq_some_pair h
      exact OpenSession.step_moved hs
  | container x =>
      obtain ⟨w₁, y, hs, rfl, rfl⟩ := map_eq_some_pair h
      cases x with
      | ensureAgent x =>
          obtain ⟨w₂, z, hz, rfl, rfl⟩ := map_eq_some_pair hs
          exact EnsureAgent.step_moved hz
      | hibernate x =>
          obtain ⟨w₂, z, hz, rfl, rfl⟩ := map_eq_some_pair hs
          exact Hibernate.step_moved hz
      | delete x =>
          obtain ⟨w₂, z, hz, rfl, rfl⟩ := map_eq_some_pair hs
          exact Delete.step_moved hz
  | session x =>
      obtain ⟨w₁, y, hs, rfl, rfl⟩ := map_eq_some_pair h
      cases x with
      | prompt x =>
          obtain ⟨w₂, z, hz, rfl, rfl⟩ := map_eq_some_pair hs
          exact Prompt.step_moved hz
      | cancel x =>
          obtain ⟨w₂, z, hz, rfl, rfl⟩ := map_eq_some_pair hs
          exact Cancel.step_moved hz

/-- **A call of an activity**: a handle of a node carries one that was there, or the call has
provisioned it. -/
theorem Activity.nodes_get {k id : String} {hd : ContainerHandle}
    (h : (x.nodes w a k).containers.get id = some hd) :
    (∃ hd₀, (w.runner k).containers.get id = some hd₀ ∧ Carries hd.container hd₀.container) ∨
      ∃ req, x = .provision (.nodeProvision req) ∧ w.node req.profile.nodeID = .ok k ∧
        a.outcome.took = true ∧ hd = (w.runner k).newHandle (w.host k) req a.raw a.now := by
  unfold Activity.nodes at h
  split at h
  · next req =>
      cases hnode : w.node req.profile.nodeID with
      | error e =>
          rw [hnode] at h
          exact Or.inl ⟨hd, h, rfl⟩
      | ok k' =>
          rw [hnode] at h
          dsimp only at h
          rcases w.reached_cases a.outcome k'
            (fun r => (r.provisionContainer (w.host k') req a.raw a.now).1) k with hr | ⟨rfl, ht, hr⟩
          · exact Or.inl ⟨hd, hr ▸ h, rfl⟩
          · rw [hr] at h
            rcases Runner.provisionContainer_get _ _ _ _ _ h with ⟨-, rfl⟩ | ⟨-, hold⟩
            · exact Or.inr ⟨req, rfl, hnode, ht, rfl⟩
            · exact Or.inl ⟨hd, hold, rfl⟩
  · next id' d k' =>
      rcases w.reached_cases a.outcome k' (fun r => (r.hibernateContainer id' a.now).1) k with
        hr | ⟨rfl, -, hr⟩
      · exact Or.inl ⟨hd, hr ▸ h, rfl⟩
      · rw [hr] at h
        obtain ⟨hd₀, hold, hcarries, -⟩ := Runner.hibernateContainer_get h
        exact Or.inl ⟨hd₀, hold, hcarries⟩
  · next id' d k' =>
      rcases w.reached_cases a.outcome k' (fun r => (r.deleteContainer id').1) k with
        hr | ⟨rfl, -, hr⟩
      · exact Or.inl ⟨hd, hr ▸ h, rfl⟩
      · rw [hr] at h
        exact Or.inl ⟨hd, (Runner.deleteContainer_get h).2, rfl⟩
  · exact Or.inl ⟨hd, h, rfl⟩

theorem Activity.nodes_nodeID (w : World) (a : Answer) (x : Activity) (k : String) :
    (x.nodes w a k).nodeID = (w.runner k).nodeID := by
  have hreached : ∀ k' f, (∀ r, (f r).nodeID = r.nodeID) →
      (w.reached a.outcome k' f k).nodeID = (w.runner k).nodeID := by
    intro k' f hf
    rcases w.reached_cases a.outcome k' f k with hr | ⟨rfl, -, hr⟩
    · rw [hr]
    · rw [hr, hf]
  unfold Activity.nodes
  split
  · next req =>
      cases w.node req.profile.nodeID with
      | ok k' => exact hreached _ _ fun _ => rfl
      | error e => rfl
  · exact hreached _ _ fun r => Runner.hibernateContainer_nodeID r _ _
  · exact hreached _ _ fun r => Runner.deleteContainer_nodeID r _
  · rfl

end

end Workflows
end Agentd
