/-
# The bundle digests of a container

`EnsureAgent` adds the digest of its bundle to `BundleDigests` of the container
row, and `Hibernate` carries the list it read over into the row the node
returned.  Both read the whole row, call the node and write the whole row, and
nothing compares the row they overwrite with the one they read.

So a digest is lost when a row is written back from a copy that is older than
the digest: two installations that overlap keep one of their two digests
(`overlappingInstalls_lose_digest`), and so does an installation that a
hibernation overlaps.  `digestsKept_of_current` says that this is the only way:
in every run in which each row written back has all the digests the stored row
has at that moment, the digest of every `EnsureAgent` that returned success is
stored, from the moment it returned on, and none is stored twice.

Rows are values: a row that was read shares nothing with the stored one.  That is
so for `PostgresStore`, which decodes a row on every read.  `MemoryStore` returns
the stored struct, with a slice of the array that the stored `BundleDigests` is a
slice of, and two activities whose `append` finds room in it write to one place.
The results here are about a store that hands out copies.
-/

import Agentd.Workflows.ActivitySteps

namespace Agentd
namespace Workflows

open Control Store NodeRuntime Concurrency

/-- The digests in the stored row of a container. -/
def digests (w : World) (id : String) : List String :=
  ((w.store.containers.get id).map (·.bundleDigests)).getD []

/-- The digest of an `EnsureAgent` that returned success. -/
def ContainerActivity.installed : ContainerActivity → Option String
  | .ensureAgent (.returned req (.ok _)) => some req.plan.bundle.digest
  | _ => none

/-- An activity that writes digests. -/
inductive DigestCall
  | ensureAgent (req : InstallAgentRequest)
  | hibernate

/-- `EnsureAgent` and `Hibernate` activities on the container `id`. -/
def digestMachine (id : String) : Machine World ContainerActivity DigestCall Answer where
  start
    | _, .ensureAgent req =>
        if req.containerID = id then some (.ensureAgent (.containerNode req)) else none
    | _, .hibernate => some (.hibernate (.containerNode id))
  run _ w x a := x.step w a

/-- The stored row has the digest of every `EnsureAgent` that returned success,
and no digest twice. -/
def DigestsKept (id : String) (p : Pool World ContainerActivity) : Prop :=
  (∀ x ∈ p.threads, ∀ d ∈ x.installed, d ∈ digests p.shared id) ∧ (digests p.shared id).Nodup

instance (id : String) (p : Pool World ContainerActivity) : Decidable (DigestsKept id p) :=
  inferInstanceAs (Decidable (_ ∧ _))

/-- No write to the store fails. -/
def StoreWritesSucceed (p : Pool World ContainerActivity) :
    PoolLabel DigestCall Answer → Prop
  | .spawn _ => True
  | .step i a => ∀ x ∈ p.threads[i]?, x.atStoreWrite = true → a.outcome = .ok

/-- The row the activity is about to write back has every digest that is stored
now: each is in the copy it read or is the one it adds. -/
def Current (w : World) (id : String) : ContainerActivity → Prop
  | .ensureAgent (.upsertContainer req container _) =>
      ∀ d ∈ digests w id, d ∈ container.bundleDigests ∨ d = req.plan.bundle.digest
  | .hibernate (.upsertContainer container _) => ∀ d ∈ digests w id, d ∈ container.bundleDigests
  | _ => True

/-- Store writes succeed, and no row is written back from a copy that is older
than one of the digests stored now. -/
def CurrentWrites (id : String) (p : Pool World ContainerActivity) :
    PoolLabel DigestCall Answer → Prop
  | .spawn _ => True
  | .step i a => ∀ x ∈ p.threads[i]?,
      (x.atStoreWrite = true → a.outcome = .ok) ∧ Current p.shared id x

instance (w : World) (id : String) : DecidablePred (Current w id)
  | .ensureAgent (.upsertContainer ..) => inferInstanceAs (Decidable (∀ d ∈ _, _ ∨ _))
  | .hibernate (.upsertContainer ..) => inferInstanceAs (Decidable (∀ d ∈ _, _))
  | .ensureAgent (.containerNode _) | .ensureAgent (.nodeEnsureAgent ..)
  | .ensureAgent (.upsertAgentInstance ..) | .ensureAgent (.appendAudit ..)
  | .ensureAgent (.returned ..) | .hibernate (.containerNode _)
  | .hibernate (.nodeHibernate ..) | .hibernate (.returned _) | .delete _ => isTrue trivial

instance (p : Pool World ContainerActivity) : DecidablePred (StoreWritesSucceed p)
  | .spawn _ => isTrue trivial
  | .step i _ => inferInstanceAs (Decidable (∀ x ∈ p.threads[i]?, _ → _))

instance (id : String) (p : Pool World ContainerActivity) : DecidablePred (CurrentWrites id p)
  | .spawn _ => isTrue trivial
  | .step i _ => inferInstanceAs (Decidable (∀ x ∈ p.threads[i]?, (_ → _) ∧ _))

theorem digests_eq_of_containers {w w' : World}
    (h : w'.store.containers = w.store.containers) (id : String) : digests w' id = digests w id := by
  unfold digests; rw [h]

theorem digests_of_upsert {w w' : World} {r : Container} {id : String} (hr : r.id = id)
    (h : w'.store.containers = w.store.containers.upsert r) : digests w' id = r.bundleDigests := by
  have hget : w'.store.containers.get id = some r := by
    rw [h, ← hr]
    exact Table.get_upsert_self _ r
  unfold digests; rw [hget]; rfl

/-- A copy of the row of container `id` that is not ahead of the store: the
digests are all stored, and none is there twice. -/
structure Copy (id : String) (w : World) (c : Container) : Prop where
  id_eq : c.id = id
  nodup : c.bundleDigests.Nodup
  stored : c.bundleDigests ⊆ digests w id

theorem Copy.of_get {id : String} {w : World} {c : Container}
    (hw : (digests w id).Nodup) (h : w.store.containers.get id = some c) : Copy id w c := by
  have hd : digests w id = c.bundleDigests := by
    unfold digests; rw [h]; rfl
  exact ⟨Table.key_of_get h, hd ▸ hw, hd ▸ List.Subset.refl _⟩

theorem Copy.mono {id : String} {w w' : World} {c : Container} (h : Copy id w c)
    (hw : digests w id ⊆ digests w' id) : Copy id w' c :=
  ⟨h.id_eq, h.nodup, List.Subset.trans h.stored hw⟩

/-- What holds of an `EnsureAgent` at each of its calls.  Its copy comes from a
read, and it is past the container write only with its digest stored. -/
def EnsureAgent.DigestsOk (id : String) (w : World) : EnsureAgent → Prop
  | .containerNode req => req.containerID = id
  | .nodeEnsureAgent _ c _ | .upsertAgentInstance _ c _ => Copy id w c
  | .upsertContainer req c _ => Copy id w c ∧ req.plan.bundle.digest ∉ c.bundleDigests
  | .appendAudit req _ => req.plan.bundle.digest ∈ digests w id
  | .returned req res => res.isOk = true → req.plan.bundle.digest ∈ digests w id

/-- What holds of a `Hibernate` at each of its calls. -/
def Hibernate.DigestsOk (id : String) (w : World) : Hibernate → Prop
  | .containerNode containerID => containerID = id
  | .nodeHibernate containerID c _ => containerID = id ∧ Copy id w c
  | .upsertContainer c updated => updated.id = id ∧ Copy id w c
  | .returned _ => True

/-- What holds of an activity of `digestMachine` at each of its calls. -/
def ContainerActivity.DigestsOk (id : String) (w : World) : ContainerActivity → Prop
  | .ensureAgent x => x.DigestsOk id w
  | .hibernate x => x.DigestsOk id w
  | .delete _ => False

/-- An activity that does not move keeps its assertion while digests are only
added. -/
theorem ContainerActivity.DigestsOk.mono {id : String} {w w' : World} {x : ContainerActivity}
    (h : x.DigestsOk id w) (hw : digests w id ⊆ digests w' id) : x.DigestsOk id w' := by
  cases x with
  | ensureAgent x =>
      cases x with
      | containerNode req => exact h
      | nodeEnsureAgent req c node => exact Copy.mono h hw
      | upsertAgentInstance req c agent => exact Copy.mono h hw
      | upsertContainer req c agent => exact ⟨Copy.mono h.1 hw, h.2⟩
      | appendAudit req agent => exact hw h
      | returned req res => exact fun hres => hw (h hres)
  | hibernate x =>
      cases x with
      | containerNode containerID => exact h
      | nodeHibernate containerID c node => exact ⟨h.1, Copy.mono h.2 hw⟩
      | upsertContainer c updated => exact ⟨h.1, Copy.mono h.2 hw⟩
      | returned res => trivial
  | delete x => exact h

/-- A step that leaves the container rows alone leaves the digests alone. -/
theorem digests_unchanged {id : String} {w w' : World}
    (h : w'.store.containers = w.store.containers) (hw : (digests w id).Nodup) :
    (digests w' id).Nodup ∧ digests w id ⊆ digests w' id := by
  rw [digests_eq_of_containers h]
  exact ⟨hw, List.Subset.refl _⟩

/-- **One step of `EnsureAgent`.**  It adds its digest or leaves the digests, it
stores none twice, and it establishes its next assertion. -/
theorem EnsureAgent.DigestsOk.step {id : String} {w w' : World} {a : Answer} {x x' : EnsureAgent}
    (h : x.step w a = some (w', x')) (hw : (digests w id).Nodup) (hx : x.DigestsOk id w)
    (ho : (ContainerActivity.ensureAgent x).atStoreWrite = true → a.outcome = .ok)
    (hc : Current w id (.ensureAgent x)) :
    (digests w' id).Nodup ∧ digests w id ⊆ digests w' id ∧ x'.DigestsOk id w' := by
  obtain ⟨hnext, hstore⟩ := EnsureAgent.step_next h
  have hs := (congrArg MemoryStore.containers hstore).trans (stored_containers ..)
  cases hnext with
  | notRead | failed | notStored =>
      obtain ⟨hn, hsub⟩ := digests_unchanged hs hw
      exact ⟨hn, hsub, fun hres => absurd hres Bool.false_ne_true⟩
  | read req c k hget =>
      obtain ⟨hn, hsub⟩ := digests_unchanged hs hw
      have hid : req.containerID = id := hx
      exact ⟨hn, hsub, (Copy.of_get hw (hid ▸ hget)).mono hsub⟩
  | ensured =>
      obtain ⟨hn, hsub⟩ := digests_unchanged hs hw
      exact ⟨hn, hsub, Copy.mono hx hsub⟩
  | known req c agent _ hmem =>
      obtain ⟨hn, hsub⟩ := digests_unchanged hs hw
      exact ⟨hn, hsub, hsub (Copy.stored hx hmem)⟩
  | added req c agent _ hmem =>
      obtain ⟨hn, hsub⟩ := digests_unchanged hs hw
      exact ⟨hn, hsub, Copy.mono hx hsub, hmem⟩
  | digested req c agent =>
      obtain ⟨hcopy, hmem⟩ := hx
      have htook : a.outcome.took = true := by rw [ho rfl]; rfl
      have hs : w'.store.containers = w.store.containers.upsert (EnsureAgent.row req c a.now) :=
        hs.trans (if_pos htook)
      have hd : digests w' id = c.bundleDigests ++ [req.plan.bundle.digest] :=
        digests_of_upsert (r := EnsureAgent.row req c a.now) hcopy.id_eq hs
      refine ⟨?_, ?_, ?_⟩
      · rw [hd]
        exact List.nodup_append.2 ⟨hcopy.nodup, List.nodup_singleton _, fun d hdc e he hde =>
          hmem (by rw [← List.mem_singleton.1 he, ← hde]; exact hdc)⟩
      · intro d hds
        rw [hd, List.mem_append, List.mem_singleton]
        exact hc d hds
      · show req.plan.bundle.digest ∈ digests w' id
        rw [hd]
        exact List.mem_append_right _ (List.mem_singleton_self _)
  | audited req agent =>
      obtain ⟨hn, hsub⟩ := digests_unchanged hs hw
      exact ⟨hn, hsub, fun _ => hsub hx⟩

/-- **One step of `Hibernate`.**  It leaves the digests, and it establishes its
next assertion. -/
theorem Hibernate.DigestsOk.step {id : String} {w w' : World} {a : Answer} {x x' : Hibernate}
    (h : x.step w a = some (w', x')) (hw : (digests w id).Nodup) (hx : x.DigestsOk id w)
    (ho : (ContainerActivity.hibernate x).atStoreWrite = true → a.outcome = .ok)
    (hc : Current w id (.hibernate x)) :
    (digests w' id).Nodup ∧ digests w id ⊆ digests w' id ∧ x'.DigestsOk id w' := by
  obtain ⟨hnext, hstore⟩ := Hibernate.step_next h
  have hs := (congrArg MemoryStore.containers hstore).trans (stored_containers ..)
  cases hnext with
  | notRead | failed =>
      obtain ⟨hn, hsub⟩ := digests_unchanged hs hw
      exact ⟨hn, hsub, trivial⟩
  | read containerID c k hget =>
      obtain ⟨hn, hsub⟩ := digests_unchanged hs hw
      have hid : containerID = id := hx
      exact ⟨hn, hsub, hid, (Copy.of_get hw (hid ▸ hget)).mono hsub⟩
  | hibernated containerID c k hd _ hget =>
      obtain ⟨hn, hsub⟩ := digests_unchanged hs hw
      have hkey := Table.key_of_get hget
      exact ⟨hn, hsub, hkey.trans hx.1, Copy.mono hx.2 hsub⟩
  | notStored c updated | stored c updated =>
      have htook : a.outcome.took = true := by rw [ho rfl]; rfl
      have hs : w'.store.containers = w.store.containers.upsert (Hibernate.row c updated) :=
        hs.trans (if_pos htook)
      have hd : digests w' id = c.bundleDigests :=
        digests_of_upsert (r := Hibernate.row c updated) hx.1 hs
      exact ⟨hd ▸ hx.2.nodup, fun d hds => hd ▸ hc d hds, trivial⟩

/-- **One step of an activity of `digestMachine`.** -/
theorem ContainerActivity.DigestsOk.step {id : String} {w w' : World} {a : Answer}
    {x x' : ContainerActivity} (h : x.step w a = some (w', x')) (hw : (digests w id).Nodup)
    (hx : x.DigestsOk id w) (ho : x.atStoreWrite = true → a.outcome = .ok)
    (hc : Current w id x) :
    (digests w' id).Nodup ∧ digests w id ⊆ digests w' id ∧ x'.DigestsOk id w' := by
  cases x with
  | ensureAgent x =>
      obtain ⟨v, y, hy, rfl, rfl⟩ := map_eq_some_pair h
      exact EnsureAgent.DigestsOk.step hy hw hx ho hc
  | hibernate x =>
      obtain ⟨v, y, hy, rfl, rfl⟩ := map_eq_some_pair h
      exact Hibernate.DigestsOk.step hy hw hx ho hc
  | delete x => exact absurd hx not_false

theorem ContainerActivity.DigestsOk.start {id : String} {w : World} {b : DigestCall}
    {x : ContainerActivity} (h : (digestMachine id).start w b = some x) : x.DigestsOk id w := by
  cases b with
  | ensureAgent req =>
      obtain ⟨hid, hx⟩ := Option.ite_none_right_eq_some.1 h
      exact Option.some.inj hx ▸ hid
  | hibernate => exact Option.some.inj h ▸ rfl

/-- **When every row written back is current, no digest is lost.**  In every run
of `EnsureAgent` and `Hibernate` activities on a container along which store
writes succeed and each row that is written back has all the digests stored at
that moment, the state reached has the digest of every `EnsureAgent` that
returned success, and no digest twice. -/
theorem digestsKept_of_current {id : String} {w : World} {p : Pool World ContainerActivity}
    {l : List (PoolLabel DigestCall Answer)} (hw : (digests w id).Nodup)
    (hl : Along (Pool.step (digestMachine id)) (CurrentWrites id) ⟨w, []⟩ l)
    (h : exec (Pool.step (digestMachine id)) ⟨w, []⟩ l = some p) : DigestsKept id p := by
  obtain ⟨hnodup, hinv⟩ := Pool.exec_modular (I := fun w => (digests w id).Nodup)
    (T := fun _ w (x : ContainerActivity) => x.DigestsOk id w)
    (fun _ _ _ _ _ hx => ContainerActivity.DigestsOk.start hx)
    (fun p i a x w' x' hw hT hC hx hrun => by
      obtain ⟨ho, hc⟩ := hC x hx
      obtain ⟨hn, hsub, hx'⟩ := ContainerActivity.DigestsOk.step hrun hw (hT i x hx) ho hc
      exact ⟨hn, hx', fun j y _ hy => (hT j y hy).mono hsub⟩) hw hl h
  refine ⟨fun x hx d hd => ?_, hnodup⟩
  obtain ⟨i, hi⟩ := List.mem_iff_getElem?.1 hx
  have hok := hinv i x hi
  unfold ContainerActivity.installed at hd
  split at hd
  · next req agent =>
      obtain rfl := Option.some.inj hd
      exact hok rfl
  · cases hd

/-- An installation, a hibernation and another installation, one after the
other. -/
def installsInTurn : List (PoolLabel DigestCall Answer) :=
  [.spawn (.ensureAgent (installRequest "d1")),
    .step 0 {}, .step 0 (installed "d1"), .step 0 {}, .step 0 {}, .step 0 {},
    .spawn .hibernate, .step 1 {}, .step 1 {}, .step 1 {},
    .spawn (.ensureAgent (installRequest "d2")),
    .step 2 {}, .step 2 (installed "d2"), .step 2 {}, .step 2 {}, .step 2 {}]

/-- `digestsKept_of_current` applies to the activities taken in turn. -/
theorem installsInTurn_keep_digests :
    ∃ p ∈ exec (Pool.step (digestMachine "ctr_1")) ⟨.hosting readyContainer, []⟩ installsInTurn,
      DigestsKept "ctr_1" p := by
  obtain ⟨p, hp⟩ := Option.isSome_iff_exists.1 (show (exec (Pool.step (digestMachine "ctr_1"))
    ⟨.hosting readyContainer, []⟩ installsInTurn).isSome = true by decide)
  exact ⟨p, hp, digestsKept_of_current (by decide) (by decide) hp⟩

/-- Two installations that overlap: both read the row before either writes it. -/
def overlappingInstalls : List (PoolLabel DigestCall Answer) :=
  [.spawn (.ensureAgent (installRequest "d1")),
    .spawn (.ensureAgent (installRequest "d2")),
    .step 0 {}, .step 1 {}, .step 0 (installed "d1"), .step 1 (installed "d2"),
    .step 0 {}, .step 1 {}, .step 0 {}, .step 1 {}, .step 0 {}, .step 1 {}]

/-- **Two overlapping installations lose a digest.**  All store writes succeed
and both activities return success, and the row has one of the two digests. -/
theorem overlappingInstalls_lose_digest :
    Along (Pool.step (digestMachine "ctr_1")) StoreWritesSucceed ⟨.hosting readyContainer, []⟩
        overlappingInstalls ∧
      ∃ p ∈ exec (Pool.step (digestMachine "ctr_1")) ⟨.hosting readyContainer, []⟩
          overlappingInstalls,
        (∀ x ∈ p.threads, x.finished = true) ∧ ¬DigestsKept "ctr_1" p := by
  decide

end Workflows
end Agentd
