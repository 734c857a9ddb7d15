/-
# A deleted container stays deleted

`Delete` removes the container from its node and then writes the state `deleted`
into the row.  `control/state.go` has no transition out of `deleted`.  But
`EnsureAgent` and `Hibernate` write back the whole row from the copy they read or
the node returned, and a handler of `ContainerWorkflow` that hibernates replaces
`state.Container`; neither looks at what is there.  A hibernation that the
deletion overtakes brings the row and the result of the workflow back to
`hibernating` (`overtakenHibernate_undoes_delete`).

`deletedAbsorbing_of_fresh` says that nothing else can.  The argument rests on
the node: once a row is `deleted` its node has no handle for the container, so
every later `Hibernate` fails at the node, and only a copy that is older than
the deletion can bring the row back.
-/

import Agentd.Workflows.ContainerWorkflow
import Agentd.Workflows.ActivityNodes

namespace Agentd
namespace Workflows

open Control Store NodeRuntime Concurrency

/-- The stored row of the container is in state `deleted`. -/
def RowDeleted (id : String) (w : World) : Prop :=
  (w.store.containers.get id).map (·.state) = some .deleted

instance (id : String) (w : World) : Decidable (RowDeleted id w) :=
  inferInstanceAs (Decidable (_ = _))

/-- A `Delete` that returned success. -/
def ContainerActivity.deleted : ContainerActivity → Bool
  | .delete (.returned (.ok _)) => true
  | _ => false

/-- A `Hibernate` that returned success. -/
def ContainerActivity.hibernated : ContainerActivity → Bool
  | .hibernate (.returned (.ok _)) => true
  | _ => false

/-- The copy of the row that `EnsureAgent` or `Hibernate` read, when it is about
to write the row back. -/
def ContainerActivity.copy : ContainerActivity → Option Container
  | .ensureAgent (.upsertContainer _ container _) => some container
  | .hibernate (.upsertContainer container _) => some container
  | _ => none

/-- Once a `Delete` returned success the row is `deleted`, and so is the
container the workflow returned. -/
def DeletedAbsorbing (p : ContainerRun) : Prop :=
  (∀ h ∈ p.threads, h.activity.deleted = true → RowDeleted p.shared.containerID p.shared.world) ∧
    ∀ c ∈ p.shared.returned, c.state = .deleted

instance (p : ContainerRun) : Decidable (DeletedAbsorbing p) :=
  inferInstanceAs (Decidable (_ ∧ _))

/-- `EnsureAgent` and `Hibernate` do not write back a copy that is older than
the deletion of the row, and the success of a `Hibernate` does not reach the
workflow after that of a `Delete`. -/
def NotOvertaken (p : ContainerRun) : ContainerLabel → Prop
  | .handler (.step i (.act _)) => ∀ h ∈ p.threads[i]?, ∀ c ∈ h.activity.copy,
      RowDeleted p.shared.containerID p.shared.world → c.state = .deleted
  | .handler (.step i (.deliver _)) => ∀ h ∈ p.threads[i]?,
      h.activity.hibernated = true → p.shared.state.deleted = false
  | _ => True

instance (p : ContainerRun) : DecidablePred (NotOvertaken p)
  | .handler (.step i (.act _)) => inferInstanceAs (Decidable (∀ h ∈ p.threads[i]?, _))
  | .handler (.step i (.deliver _)) => inferInstanceAs (Decidable (∀ h ∈ p.threads[i]?, _))
  | .handler (.step _ .retry) | .handler (.spawn _) | .await => isTrue trivial

/-- The container `id` lives on the node with client `node`: its row and its
handle name that node, and a row that is `deleted` has no handle there. -/
structure Hosted (id node : String) (w : World) : Prop where
  row : ∀ c, w.store.containers.get id = some c → w.node c.nodeID = .ok node
  handle : ∀ hd, (w.runner node).containers.get id = some hd →
    w.node hd.container.nodeID = .ok node
  gone : RowDeleted id w → (w.runner node).containers.get id = none

/-- What a step of an activity never undoes. -/
structure Later (id node : String) (w w' : World) : Prop where
  nodes : w'.nodes = w.nodes
  gone : (w.runner node).containers.get id = none → (w'.runner node).containers.get id = none
  deleted : RowDeleted id w → RowDeleted id w'

/-- A row of the container as an activity may hold it: it names the node, and
if it is `deleted` the node has no handle. -/
structure RowCopy (id node : String) (w : World) (c : Container) : Prop where
  id_eq : c.id = id
  routed : w.node c.nodeID = .ok node
  gone : c.state = .deleted → (w.runner node).containers.get id = none

section

variable {id node : String} {w w' : World} {c : Container}

theorem RowDeleted.of_get (h : w.store.containers.get id = some c) :
    RowDeleted id w ↔ c.state = .deleted := by
  unfold RowDeleted
  rw [h, Option.map_some, Option.some.injEq]

theorem RowCopy.of_get (hw : Hosted id node w) (h : w.store.containers.get id = some c) :
    RowCopy id node w c :=
  ⟨Table.key_of_get h, hw.row c h, fun hd => hw.gone ((RowDeleted.of_get h).2 hd)⟩

theorem RowCopy.later (h : RowCopy id node w c) (hw : Later id node w w') :
    RowCopy id node w' c :=
  ⟨h.id_eq, (World.node_congr hw.nodes _).trans h.routed, fun hd => hw.gone (h.gone hd)⟩

/-- A step that leaves the container rows alone and gives the node no new
handle of the container. -/
theorem Hosted.of_runner (hw : Hosted id node w) (hn : w'.nodes = w.nodes)
    (hs : w'.store.containers = w.store.containers)
    (hr : ∀ hd', (w'.runner node).containers.get id = some hd' →
      ∃ hd, (w.runner node).containers.get id = some hd ∧
        hd'.container.nodeID = hd.container.nodeID) :
    Hosted id node w' ∧ Later id node w w' := by
  have hdel : RowDeleted id w' ↔ RowDeleted id w := by unfold RowDeleted; rw [hs]
  have hgone : (w.runner node).containers.get id = none →
      (w'.runner node).containers.get id = none := by
    intro h
    rw [Option.eq_none_iff_forall_ne_some]
    intro hd' hget
    obtain ⟨hd, hget', _⟩ := hr hd' hget
    rw [h] at hget'
    cases hget'
  refine ⟨⟨fun c hc => ?_, fun hd' hget => ?_, fun h => hgone (hw.gone (hdel.1 h))⟩,
    ⟨hn, hgone, hdel.2⟩⟩
  · rw [World.node_congr hn]
    exact hw.row c (hs ▸ hc)
  · obtain ⟨hd, hget', hid⟩ := hr hd' hget
    rw [World.node_congr hn, hid]
    exact hw.handle hd hget'

/-- A write of the row, which may not take effect: the new row is one an
activity may hold, and it is `deleted` if the old one is. -/
theorem Hosted.of_write {took : Bool} (hw : Hosted id node w) (hn : w'.nodes = w.nodes)
    (hs : w'.store.containers =
      if took then w.store.containers.upsert c else w.store.containers)
    (hr : w'.runner = w.runner) (hc : RowCopy id node w c)
    (hdel : RowDeleted id w → c.state = .deleted) :
    Hosted id node w' ∧ Later id node w w' := by
  cases took with
  | false => exact hw.of_runner hn hs fun hd hget => ⟨hd, hr ▸ hget, rfl⟩
  | true =>
      have hget : w'.store.containers.get id = some c := by
        rw [hs, ← hc.id_eq]
        exact Table.get_upsert_self _ c
      refine ⟨⟨fun d hd => ?_, fun hd hh => ?_, fun h => ?_⟩, ⟨hn, fun h => ?_, fun h => ?_⟩⟩
      · obtain rfl : c = d := Option.mem_unique hget hd
        rw [World.node_congr hn]
        exact hc.routed
      · rw [World.node_congr hn]
        exact hw.handle hd (hr ▸ hh)
      · rw [hr]
        exact hc.gone ((RowDeleted.of_get hget).1 h)
      · rw [hr]
        exact h
      · exact (RowDeleted.of_get hget).2 (hdel h)

end

/-- What holds of an `EnsureAgent` at each of its calls. -/
def EnsureAgent.Absorbs (id node : String) (w : World) : EnsureAgent → Prop
  | .containerNode req => req.containerID = id
  | .nodeEnsureAgent _ c _ | .upsertAgentInstance _ c _ | .upsertContainer _ c _ =>
      RowCopy id node w c
  | .appendAudit _ _ | .returned _ _ => True

/-- What holds of a `Hibernate` at each of its calls.  It is past the node only
with a copy that is not `deleted`, since the node had the container. -/
def Hibernate.Absorbs (id node : String) (w : World) : Hibernate → Prop
  | .containerNode containerID => containerID = id
  | .nodeHibernate containerID c k => containerID = id ∧ k = node ∧ RowCopy id node w c
  | .upsertContainer c updated =>
      c.state ≠ .deleted ∧ updated.state ≠ .deleted ∧ RowCopy id node w updated
  | .returned _ => True

/-- What holds of a `Delete` at each of its calls.  It is past the node only
with the handle gone, and it succeeds only with the row `deleted`. -/
def Delete.Absorbs (id node : String) (w : World) : Delete → Prop
  | .containerNode containerID => containerID = id
  | .nodeDelete containerID c k => containerID = id ∧ k = node ∧ RowCopy id node w c
  | .upsertContainer c => RowCopy id node w c ∧ (w.runner node).containers.get id = none
  | .returned res => res.isOk = true → RowDeleted id w

/-- What holds of an activity at each of its calls. -/
def ContainerActivity.Absorbs (id node : String) (w : World) : ContainerActivity → Prop
  | .ensureAgent x => x.Absorbs id node w
  | .hibernate x => x.Absorbs id node w
  | .delete x => x.Absorbs id node w

theorem ContainerActivity.Absorbs.later {id node : String} {w w' : World} {x : ContainerActivity}
    (h : x.Absorbs id node w) (hw : Later id node w w') : x.Absorbs id node w' := by
  cases x with
  | ensureAgent x =>
      cases x with
      | containerNode req => exact h
      | nodeEnsureAgent req c k => exact RowCopy.later h hw
      | upsertAgentInstance req c agent => exact RowCopy.later h hw
      | upsertContainer req c agent => exact RowCopy.later h hw
      | appendAudit req agent => trivial
      | returned req res => trivial
  | hibernate x =>
      cases x with
      | containerNode containerID => exact h
      | nodeHibernate containerID c k => exact ⟨h.1, h.2.1, h.2.2.later hw⟩
      | upsertContainer c updated => exact ⟨h.1, h.2.1, h.2.2.later hw⟩
      | returned res => trivial
  | delete x =>
      cases x with
      | containerNode containerID => exact h
      | nodeDelete containerID c k => exact ⟨h.1, h.2.1, h.2.2.later hw⟩
      | upsertContainer c => exact ⟨h.1.later hw, hw.gone h.2⟩
      | returned res => exact fun hres => hw.deleted (h hres)

section

variable {id node : String} {w w' : World} {a : Answer}

/-- A step of an activity that leaves the container rows alone: no activity on a container
gives a node a new handle. -/
theorem Hosted.of_moved (hw : Hosted id node w) (a : Answer) (x : ContainerActivity)
    (hmoved : w.Moved ((Activity.container x).nodes w a) w')
    (hs : w'.store.containers = w.store.containers) :
    Hosted id node w' ∧ Later id node w w' := by
  refine hw.of_runner hmoved.nodes hs fun hd' hget => ?_
  rw [hmoved.runner] at hget
  rcases Activity.nodes_get hget with ⟨hd, hold, hcarries⟩ | ⟨req, hreq, -⟩
  · exact ⟨hd, hold, hcarries.nodeID⟩
  · cases hreq

/-- The row that an activity reads is a copy, and it leads to the node of the container. -/
theorem RowCopy.read {containerID k : String} {c : Container} (hw : Hosted id node w)
    (hl : Later id node w w') (hid : containerID = id)
    (hget : w.store.containers.get containerID = some c) (hk : w.node c.nodeID = .ok k) :
    containerID = id ∧ k = node ∧ RowCopy id node w' c := by
  subst hid
  have hcopy : RowCopy containerID node w c := RowCopy.of_get hw hget
  exact ⟨rfl, Except.ok.inj (hk.symm.trans hcopy.routed), hcopy.later hl⟩

/-- **One step of `EnsureAgent`.**  It keeps the container where it is and the
row `deleted`, when its copy is not older than the deletion. -/
theorem EnsureAgent.Absorbs.step {x x' : EnsureAgent} (h : x.step w a = some (w', x'))
    (hw : Hosted id node w) (hx : x.Absorbs id node w)
    (hc : ∀ c ∈ (ContainerActivity.ensureAgent x).copy, RowDeleted id w → c.state = .deleted) :
    Hosted id node w' ∧ Later id node w w' ∧ x'.Absorbs id node w' := by
  obtain ⟨hnext, hstore⟩ := EnsureAgent.step_next h
  have hmoved := EnsureAgent.step_moved h
  have hs := (congrArg MemoryStore.containers hstore).trans (stored_containers ..)
  have hsame := hw.of_moved a (.ensureAgent x) hmoved
  cases hnext with
  | notRead | failed | notStored | known | audited =>
      obtain ⟨hw', hl⟩ := hsame hs
      exact ⟨hw', hl, trivial⟩
  | read req c k hget =>
      obtain ⟨hw', hl⟩ := hsame hs
      have hid : req.containerID = id := hx
      exact ⟨hw', hl, (RowCopy.of_get hw (hid ▸ hget)).later hl⟩
  | ensured | added =>
      obtain ⟨hw', hl⟩ := hsame hs
      exact ⟨hw', hl, RowCopy.later hx hl⟩
  | digested req c agent =>
      have hcopy : RowCopy id node w c := hx
      have hrow : RowCopy id node w (EnsureAgent.row req c a.now) :=
        ⟨hcopy.id_eq, hcopy.routed, hcopy.gone⟩
      obtain ⟨hw', hl⟩ := hw.of_write hmoved.nodes hs hmoved.runner hrow (hc c rfl)
      exact ⟨hw', hl, trivial⟩

/-- **One step of `Hibernate`.** -/
theorem Hibernate.Absorbs.step {x x' : Hibernate} (h : x.step w a = some (w', x'))
    (hw : Hosted id node w) (hx : x.Absorbs id node w)
    (hc : ∀ c ∈ (ContainerActivity.hibernate x).copy, RowDeleted id w → c.state = .deleted) :
    Hosted id node w' ∧ Later id node w w' ∧ x'.Absorbs id node w' := by
  obtain ⟨hnext, hstore⟩ := Hibernate.step_next h
  have hmoved := Hibernate.step_moved h
  have hs := (congrArg MemoryStore.containers hstore).trans (stored_containers ..)
  have hsame := hw.of_moved a (.hibernate x) hmoved
  cases hnext with
  | notRead | failed =>
      obtain ⟨hw', hl⟩ := hsame hs
      exact ⟨hw', hl, trivial⟩
  | read containerID c k hget hk =>
      obtain ⟨hw', hl⟩ := hsame hs
      exact ⟨hw', hl, RowCopy.read hw hl hx hget hk⟩
  | hibernated containerID c k hd _ hget =>
      obtain ⟨hw', hl⟩ := hsame hs
      obtain ⟨rfl, rfl, hcopy⟩ := hx
      have hkey := Table.key_of_get hget
      have hne : ContainerState.hibernating ≠ .deleted := by decide
      refine ⟨hw', hl, fun hdel => ?_, hne, hkey, ?_, fun hdel => absurd hdel hne⟩
      · -- the node had the container, so the copy cannot have been `deleted`
        rw [hcopy.gone hdel] at hget
        cases hget
      · rw [World.node_congr hmoved.nodes]
        exact hw.handle hd hget
  | notStored c updated | stored c updated =>
      obtain ⟨hne, hne', hcopy⟩ := hx
      have hrow : RowCopy id node w (Hibernate.row c updated) :=
        ⟨hcopy.id_eq, hcopy.routed, hcopy.gone⟩
      obtain ⟨hw', hl⟩ := hw.of_write hmoved.nodes hs hmoved.runner hrow
        (fun hdel => absurd (hc c rfl hdel) hne)
      exact ⟨hw', hl, trivial⟩

/-- **One step of `Delete`.** -/
theorem Delete.Absorbs.step {x x' : Delete} (h : x.step w a = some (w', x'))
    (hw : Hosted id node w) (hx : x.Absorbs id node w) :
    Hosted id node w' ∧ Later id node w w' ∧ x'.Absorbs id node w' := by
  obtain ⟨hnext, hstore⟩ := Delete.step_next h
  have hmoved := Delete.step_moved h
  have hs := (congrArg MemoryStore.containers hstore).trans (stored_containers ..)
  have hsame := hw.of_moved a (.delete x) hmoved
  cases hnext with
  | notRead | failed =>
      obtain ⟨hw', hl⟩ := hsame hs
      exact ⟨hw', hl, fun hres => absurd hres Bool.false_ne_true⟩
  | read containerID c k hget hk =>
      obtain ⟨hw', hl⟩ := hsame hs
      exact ⟨hw', hl, RowCopy.read hw hl hx hget hk⟩
  | deleted containerID c k ho =>
      obtain ⟨hw', hl⟩ := hsame hs
      obtain ⟨rfl, rfl, hcopy⟩ := hx
      refine ⟨hw', hl, hcopy.later hl, ?_⟩
      rw [hmoved.runner]
      simp only [Activity.nodes, World.reached_ok _ ho, Function.update_self]
      exact Runner.deleteContainer_get_self _ _
  | notStored c e =>
      obtain ⟨hcopy, hgone⟩ := hx
      have hrow : RowCopy id node w (Delete.row c a.now) :=
        ⟨hcopy.id_eq, hcopy.routed, fun _ => hgone⟩
      obtain ⟨hw', hl⟩ := hw.of_write hmoved.nodes hs hmoved.runner hrow (fun _ => rfl)
      exact ⟨hw', hl, fun hres => absurd hres Bool.false_ne_true⟩
  | stored c ho =>
      obtain ⟨hcopy, hgone⟩ := hx
      have hrow : RowCopy id node w (Delete.row c a.now) :=
        ⟨hcopy.id_eq, hcopy.routed, fun _ => hgone⟩
      obtain ⟨hw', hl⟩ := hw.of_write hmoved.nodes hs hmoved.runner hrow (fun _ => rfl)
      refine ⟨hw', hl, fun _ => ?_⟩
      have htook : a.outcome.took = true := by rw [ho]; rfl
      have hget : w'.store.containers.get id = some (Delete.row c a.now) := by
        rw [hs.trans (if_pos htook), ← hrow.id_eq]
        exact Table.get_upsert_self _ _
      exact (RowDeleted.of_get hget).2 rfl

/-- **One step of an activity.** -/
theorem ContainerActivity.Absorbs.step {x x' : ContainerActivity}
    (h : x.step w a = some (w', x')) (hw : Hosted id node w) (hx : x.Absorbs id node w)
    (hc : ∀ c ∈ x.copy, RowDeleted id w → c.state = .deleted) :
    Hosted id node w' ∧ Later id node w w' ∧ x'.Absorbs id node w' := by
  cases x with
  | ensureAgent x =>
      obtain ⟨v, y, hy, rfl, rfl⟩ := map_eq_some_pair h
      exact EnsureAgent.Absorbs.step hy hw hx hc
  | hibernate x =>
      obtain ⟨v, y, hy, rfl, rfl⟩ := map_eq_some_pair h
      exact Hibernate.Absorbs.step hy hw hx hc
  | delete x =>
      obtain ⟨v, y, hy, rfl, rfl⟩ := map_eq_some_pair h
      exact Delete.Absorbs.step hy hw hx

theorem ContainerUpdate.absorbs_activity {u : ContainerUpdate} (h : u.isFor id = true) :
    (u.activity id).Absorbs id node w := by
  cases u with
  | installAgent req => exact (of_decide_eq_true h : req.containerID = id)
  | startAgent req => exact (of_decide_eq_true h : req.containerID = id)
  | hibernate => rfl
  | delete => rfl

end

/-- What holds of the workflow in every state: the container is on its node, and
`Deleted` and the result of the workflow say that it is `deleted`. -/
structure ContainerWorkflow.Absorbs (id node : String) (s : ContainerWorkflow) : Prop where
  containerID : s.containerID = id
  hosted : Hosted id node s.world
  deleted : s.state.deleted = true → s.state.container.state = .deleted
  returned : ∀ c ∈ s.returned, c.state = .deleted

/-- What holds of a handler in every state. -/
structure HandlerAbsorbs (id node : String) (s : ContainerWorkflow)
    (h : Handler ContainerUpdate ContainerActivity) : Prop where
  isFor : h.update.isFor id = true
  activity : h.activity.Absorbs id node s.world

/-- What holds of a workflow with its handlers in every state. -/
def ContainerRun.Absorbs (id node : String) (p : ContainerRun) : Prop :=
  p.shared.Absorbs id node ∧
    ∀ (i : ℕ) h, p.threads[i]? = some h → HandlerAbsorbs id node p.shared h

section

variable {id node : String}

/-- The workflow changes its variables on a success and leaves the world; its
`Container` stays `deleted` unless the success is that of a `Hibernate`. -/
theorem ContainerWorkflow.Absorbs.succeed {s : ContainerWorkflow} {x : ContainerActivity}
    {r : ContainerResult} (hs : s.Absorbs id node) (hr : x.result = some (.ok r))
    (hh : x.hibernated = true → s.state.deleted = false) :
    (s.succeed r).Absorbs id node ∧ (s.succeed r).world = s.world := by
  cases r with
  | agent agent => exact ⟨⟨hs.containerID, hs.hosted, hs.deleted, hs.returned⟩, rfl⟩
  | deleted => exact ⟨⟨hs.containerID, hs.hosted, fun _ => rfl, hs.returned⟩, rfl⟩
  | container c =>
      have hhib : x.hibernated = true := by
        unfold ContainerActivity.result at hr
        split at hr
        · next res => cases res <;> cases hr
        · next res =>
            cases res with
            | error e => cases hr
            | ok _ => rfl
        · next res => cases res <;> cases hr
        · cases hr
      refine ⟨⟨hs.containerID, hs.hosted, fun hd => ?_, hs.returned⟩, rfl⟩
      have hd' : s.state.deleted = true := hd
      rw [hh hhib] at hd'
      cases hd'

/-- **One step of a handler.** -/
theorem HandlerAbsorbs.run {p : ContainerRun} {i : ℕ} {l : HandlerLabel}
    {h h' : Handler ContainerUpdate ContainerActivity} {s' : ContainerWorkflow}
    (hs : p.shared.Absorbs id node) (hh : HandlerAbsorbs id node p.shared h)
    (hC : NotOvertaken p (.handler (.step i l))) (hi : p.threads[i]? = some h)
    (hr : containerHandlers.run p.shared h l = some (s', h')) :
    s'.Absorbs id node ∧ HandlerAbsorbs id node s' h' ∧
      Later id node p.shared.world s'.world := by
  have hrefl : Later id node p.shared.world p.shared.world := ⟨rfl, fun h => h, fun h => h⟩
  obtain ⟨-, hcases⟩ := HandlerCode.run_cases hr
  rcases hcases with ⟨a, x, rfl, hx, rfl⟩ | ⟨e, rfl, -, -, rfl, rfl⟩ |
    ⟨now, r, rfl, hres, rfl, rfl⟩ | ⟨now, e, rfl, -, -, rfl, rfl⟩
  · obtain ⟨w', y, hy, rfl, rfl⟩ := map_eq_some_pair hx
    have hfresh := hC h hi
    rw [hs.containerID] at hfresh
    obtain ⟨hw', hl, hx'⟩ := ContainerActivity.Absorbs.step hy hs.hosted hh.activity hfresh
    exact ⟨⟨hs.containerID, hw', hs.deleted, hs.returned⟩, ⟨hh.isFor, hx'⟩, hl⟩
  · refine ⟨hs, ⟨hh.isFor, ?_⟩, hrefl⟩
    show (h.update.activity p.shared.containerID).Absorbs id node p.shared.world
    rw [hs.containerID]
    exact ContainerUpdate.absorbs_activity hh.isFor
  · obtain ⟨hs', hw⟩ := hs.succeed hres (hC h hi)
    have hworld : (containerHandlers.succeed p.shared now r).world = p.shared.world := hw
    exact ⟨hs', ⟨hh.isFor, hworld ▸ hh.activity⟩, hworld ▸ hrefl⟩
  · exact ⟨hs, ⟨hh.isFor, hh.activity⟩, hrefl⟩

/-- **One step of the workflow.** -/
theorem ContainerRun.step_absorbs {p q : ContainerRun} {l : ContainerLabel}
    (hp : p.Absorbs id node) (hC : NotOvertaken p l) (hq : p.step l = some q) :
    q.Absorbs id node := by
  obtain ⟨hs, hh⟩ := hp
  cases l with
  | handler l =>
      refine Pool.step_modular (T := fun _ s h => HandlerAbsorbs id node s h) hq hs hh ?_ ?_
      · intro u h _ hstart
        obtain ⟨hacc, rfl⟩ := HandlerCode.start_eq_some hstart
        have hfor : u.isFor id = true := hs.containerID ▸ (Bool.and_eq_true_iff.1 hacc).2
        refine ⟨hfor, ?_⟩
        show (u.activity p.shared.containerID).Absorbs id node p.shared.world
        rw [hs.containerID]
        exact ContainerUpdate.absorbs_activity hfor
      · rintro i l h s' h' rfl hi hr
        obtain ⟨hs', hh', hl⟩ := HandlerAbsorbs.run hs (hh i h hi) hC hi hr
        exact ⟨hs', hh', fun j u _ hu => ⟨(hh j u hu).isFor, (hh j u hu).activity.later hl⟩⟩
  | await =>
      obtain ⟨hd, rfl⟩ := ContainerRun.step_await hq
      refine ⟨⟨hs.containerID, hs.hosted, hs.deleted, fun c hc => ?_⟩, fun i h hi => ?_⟩
      · exact Option.some.inj hc ▸ hs.deleted hd
      · exact ⟨(hh i h hi).isFor, (hh i h hi).activity⟩

end

/-- **A deletion that nothing overtook is for ever.**  Take a workflow without
handlers whose container is on its node.  In every run along which no row is
written back from a copy older than its deletion and no hibernation is reported
after a deletion, the row is `deleted` from the moment a `Delete` returned
success on, and the container the workflow returns is `deleted`. -/
theorem deletedAbsorbing_of_fresh {node : String} {s : ContainerWorkflow} {p : ContainerRun}
    {l : List ContainerLabel} (hw : Hosted s.containerID node s.world)
    (hd : s.state.deleted = false) (hret : s.returned = none)
    (hl : Along ContainerRun.step NotOvertaken ⟨s, []⟩ l)
    (h : exec ContainerRun.step ⟨s, []⟩ l = some p) : DeletedAbsorbing p := by
  have hinit : s.Absorbs s.containerID node := by
    refine ⟨rfl, hw, fun hdel => ?_, fun c hc => ?_⟩
    · rw [hd] at hdel
      cases hdel
    · rw [hret] at hc
      cases hc
  have hempty : ContainerRun.Absorbs s.containerID node ⟨s, []⟩ :=
    ⟨hinit, fun i h hi => by simp at hi⟩
  obtain ⟨hs, hh⟩ := exec_invariant (fun _ _ _ hp hC hq => ContainerRun.step_absorbs hp hC hq)
    hempty hl h
  refine ⟨fun x hx hdel => ?_, hs.returned⟩
  obtain ⟨i, hi⟩ := List.mem_iff_getElem?.1 hx
  have hact := (hh i x hi).activity
  rw [hs.containerID]
  unfold ContainerActivity.deleted at hdel
  split at hdel
  · next r heq =>
      rw [heq] at hact
      exact hact rfl
  · cases hdel

/-- A container that is not `deleted` is on its node in the world that hosts
it. -/
theorem Hosted.hosting {c : Container} (h : c.state ≠ .deleted) :
    Hosted c.id c.nodeID (.hosting c) := by
  have hget : (World.hosting c).store.containers.get c.id = some c := Table.get_upsert_self _ c
  exact ⟨fun d _ => World.node_hosting c d.nodeID, fun hd _ => World.node_hosting c _,
    fun hdel => absurd ((RowDeleted.of_get hget).1 hdel) h⟩

/-- The workflow of a container that is ready. -/
def readyWorkflow : ContainerWorkflow where
  world := .hosting readyContainer
  containerID := "ctr_1"
  state := { container := readyContainer }

/-- An installation, a hibernation and a deletion whose first attempt fails at
the node, each handled to its end, and the return of the workflow. -/
def deletedInTurn : List ContainerLabel :=
  [.handler (.spawn (.installAgent (installRequest "d1"))), .handler (.step 0 (.act {})),
    .handler (.step 0 (.act (installed "d1"))), .handler (.step 0 (.act {})),
    .handler (.step 0 (.act {})), .handler (.step 0 (.act {})), .handler (.step 0 (.deliver 1)),
    .handler (.spawn .hibernate), .handler (.step 1 (.act {})), .handler (.step 1 (.act {})),
    .handler (.step 1 (.act {})), .handler (.step 1 (.deliver 2)),
    .handler (.spawn .delete), .handler (.step 2 (.act {})),
    .handler (.step 2 (.act { outcome := .fail (.other "unavailable") })),
    .handler (.step 2 .retry), .handler (.step 2 (.act {})), .handler (.step 2 (.act {})),
    .handler (.step 2 (.act {})), .handler (.step 2 (.deliver 3)), .await]

/-- `deletedAbsorbing_of_fresh` applies to updates handled in turn. -/
theorem deletedInTurn_stays_deleted :
    ∃ p ∈ exec ContainerRun.step ⟨readyWorkflow, []⟩ deletedInTurn, DeletedAbsorbing p := by
  obtain ⟨p, hp⟩ := Option.isSome_iff_exists.1
    (show (exec ContainerRun.step ⟨readyWorkflow, []⟩ deletedInTurn).isSome = true by decide)
  exact ⟨p, hp, deletedAbsorbing_of_fresh (Hosted.hosting (c := readyContainer) (by decide))
    rfl rfl (by decide) hp⟩

/-- A hibernation that a deletion overtakes between its call of the node and its
write of the row. -/
def overtakenHibernate : List ContainerLabel :=
  [.handler (.spawn .hibernate), .handler (.spawn .delete),
    .handler (.step 0 (.act {})), .handler (.step 0 (.act {})),
    .handler (.step 1 (.act {})), .handler (.step 1 (.act {})), .handler (.step 1 (.act {})),
    .handler (.step 1 (.deliver 1)),
    .handler (.step 0 (.act {})), .handler (.step 0 (.deliver 2)), .await]

/-- **An overtaken hibernation undoes a deletion.**  Every call succeeds, and
`Delete` returned success; the row ends `hibernating`, and so does the container
the workflow returns. -/
theorem overtakenHibernate_undoes_delete :
    ∃ p ∈ exec ContainerRun.step ⟨readyWorkflow, []⟩ overtakenHibernate,
      (∃ h ∈ p.threads, h.activity.deleted = true) ∧
        (p.shared.world.store.containers.get "ctr_1").map (·.state) = some .hibernating ∧
        p.shared.returned.map (·.state) = some .hibernating ∧ ¬DeletedAbsorbing p := by
  decide

end Workflows
end Agentd
