/-
# Containers provisioned, hibernated and deleted again

The activities that work on a container, repeated after a write that failed.  A
`ProvisionContainer` that names its container replaces the handle that the attempt before
it has entered, and a `Hibernate` changes the same fields of the handle again: the last
attempt leaves what a single one leaves.  A `ProvisionContainer` without an id enters a new
container every time, and a `Delete` finds no container any more.
-/

import Agentd.Workflows.Retries

namespace Agentd
namespace Workflows

open Control Store NodeRuntime Supervisor Concurrency

/-- A row that is written again under the same key takes the place of the first. -/
theorem stored_container_absorbs {a : Answer} {c c' : Container} (s : MemoryStore)
    (h : c.id = c'.id) :
    (stored a (some (.container c)) s).upsertContainer c' = s.upsertContainer c' := by
  unfold stored
  dsimp only
  split_ifs
  · show ({ s with containers := (s.containers.upsert c).upsert c' } : MemoryStore) = _
    rw [Table.upsert_upsert _ h]
    rfl
  · rfl

theorem stored_ok {a : Answer} (ho : a.outcome = .ok) (row : Row) (s : MemoryStore) :
    stored a (some row) s = row.put s := by
  unfold stored
  dsimp only
  rw [ho]
  rfl

/-- What a runner shows depends on the handle and its supervisor. -/
theorem shows_congr {r r' : Runner} {id : String}
    (hget : r.containers.get id = r'.containers.get id)
    (hsup : ∀ h, r.containers.get id = some h →
      r.supervisors[h.supervisor]?.map (fun sup => sup.shared) =
        r'.supervisors[h.supervisor]?.map fun sup => sup.shared) :
    shows r id = shows r' id := by
  unfold shows
  rw [← hget]
  cases hh : r.containers.get id with
  | none => rfl
  | some h => rw [Option.map_some, Option.map_some, hsup h hh]

section

variable (host : Host) (r : Runner) (req : CreateContainerRequest) (raw : String) (now : Time)

/-- What a runner shows of a container it has just provisioned. -/
theorem shows_provisioned :
    shows (r.provisionContainer host req raw now).1 (containerID req raw) =
      some ((r.newHandle host req raw now).container, (r.newHandle host req raw now).root,
        (r.newHandle host req raw now).workspace, (r.newHandle host req raw now).socket,
        some (newManager (containerID req raw) host.environ)) := by
  have hget : (r.provisionContainer host req raw now).1.containers.get (containerID req raw) =
      some (r.newHandle host req raw now) := by
    rw [Runner.provisionContainer_containers, Table.get_upsert, Runner.newHandle_id, if_pos rfl]
  have hsup : (r.provisionContainer host req raw now).1.supervisors =
      r.supervisors ++ [⟨newManager (containerID req raw) host.environ, []⟩] := rfl
  rw [shows, hget, Option.map_some, hsup, Runner.newHandle_supervisor,
    List.getElem?_concat_length, Option.map_some]

end

/-- What failed attempts to provision a container on node `k` leave of the site `s₀`: all but the
container itself, and of its row what the next write of that row replaces. -/
structure ProvisionsAgain (s₀ : Site) (req : CreateContainerRequest) (k : String) (s : Site) :
    Prop where
  nodes : s.world.nodes = s₀.world.nodes
  host : s.world.host = s₀.world.host
  prompts : s.prompts = s₀.prompts
  others : ∀ k', k' ≠ k → s.world.runner k' = s₀.world.runner k'
  nodeID : (s.world.runner k).nodeID = (s₀.world.runner k).nodeID
  root : (s.world.runner k).root = (s₀.world.runner k).root
  get : ∀ id, id ≠ req.id →
    (s.world.runner k).containers.get id = (s₀.world.runner k).containers.get id
  supervisors : ∀ (n : ℕ) sup, (s₀.world.runner k).supervisors[n]? = some sup →
    (s.world.runner k).supervisors[n]? = some sup
  store : ∀ c : Container, c.id = req.id →
    s.world.store.upsertContainer c = s₀.world.store.upsertContainer c

section

variable {s₀ s s' : Site} {req : CreateContainerRequest} {k : String}

theorem ProvisionsAgain.refl (s₀ : Site) (req : CreateContainerRequest) (k : String) :
    ProvisionsAgain s₀ req k s₀ where
  nodes := rfl
  host := rfl
  prompts := rfl
  others _ _ := rfl
  nodeID := rfl
  root := rfl
  get _ _ := rfl
  supervisors _ _ h := h
  store _ _ := rfl

theorem containerID_of_ne (hid : req.id ≠ "") (raw : String) : containerID req raw = req.id :=
  if_neg hid

theorem ProvisionsAgain.again (h : ProvisionsAgain s₀ req k s) (hid : req.id ≠ "")
    (hnode : s₀.world.node req.profile.nodeID = .ok k)
    (hfails : WriteFails s (.provisionContainer req) s') : ProvisionsAgain s₀ req k s' := by
  have hreq : (Request.provisionContainer req).Followed := trivial
  obtain ⟨s₁, x, a, row, hr, hrow, hs'⟩ := hfails.reached hreq
  cases hr with
  | served hasks => cases hasks
  | @provision _ k₁ a₁ _ hnode₁ _ hs₁ =>
      obtain rfl : k₁ = k := by
        rw [World.node_congr h.nodes, hnode] at hnode₁
        exact (Except.ok.inj hnode₁).symm
      obtain rfl := Option.some.inj hrow
      have hrunner : s'.world.runner = Function.update s.world.runner k₁ _ :=
        hs'.moved.runner.trans hs₁.moved.runner
      refine ⟨hs'.moved.nodes.trans (hs₁.moved.nodes.trans h.nodes),
        hs'.moved.host.trans (hs₁.moved.host.trans h.host),
        hs'.prompts.trans (hs₁.prompts.trans h.prompts), fun k' hk' => ?_, ?_, ?_,
        fun id hne => ?_, fun n sup hn => ?_, fun c hc => ?_⟩
      · rw [hrunner, Function.update_of_ne hk']
        exact h.others k' hk'
      · rw [hrunner, Function.update_self]
        exact h.nodeID
      · rw [hrunner, Function.update_self]
        exact h.root
      · rw [hrunner, Function.update_self, Runner.provisionContainer_containers,
          Table.get_upsert_of_ne _ (by rwa [Runner.newHandle_id, containerID_of_ne hid])]
        exact h.get id hne
      · rw [hrunner, Function.update_self]
        have hn := h.supervisors n sup hn
        exact getElem?_append_of_some _ hn
      · rw [hs'.store, hs₁.store, stored_container_absorbs]
        · exact h.store c hc
        · rw [hc, Runner.newHandle_id, containerID_of_ne hid]

/-- A new handle is made of what the failed attempts leave. -/
theorem ProvisionsAgain.newHandle (h : ProvisionsAgain s₀ req k s) (raw : String) (now : Time) :
    ((s.world.runner k).newHandle (s.world.host k) req raw now).container =
        ((s₀.world.runner k).newHandle (s₀.world.host k) req raw now).container ∧
      ((s.world.runner k).newHandle (s.world.host k) req raw now).root =
        ((s₀.world.runner k).newHandle (s₀.world.host k) req raw now).root ∧
      ((s.world.runner k).newHandle (s.world.host k) req raw now).workspace =
        ((s₀.world.runner k).newHandle (s₀.world.host k) req raw now).workspace ∧
      ((s.world.runner k).newHandle (s.world.host k) req raw now).socket =
        ((s₀.world.runner k).newHandle (s₀.world.host k) req raw now).socket := by
  simp only [Runner.newHandle, h.nodeID, h.root, h.host]
  exact ⟨trivial, trivial, trivial, trivial⟩

theorem CleanRun.provision (hid : req.id ≠ "") (hnode : s.world.node req.profile.nodeID = .ok k)
    (raw : String) (now : Time) :
    ∃ t₀, CleanRun s (.provisionContainer req) (t₀, { activity := .provision (.upsertContainer
        ((s.world.runner k).newHandle (s.world.host k) req raw now).container) }) ∧
      Stands s (Function.update s.world.runner k
        ((s.world.runner k).provisionContainer (s.world.host k) req raw now).1)
          s.world.store t₀ := by
  let a : Answer := { now, raw }
  have hstep : (Activity.provision (.nodeProvision req)).step s.world a =
      some ((s.world.call k .ok fun r => r.provisionContainer (s.world.host k) req raw now).1,
        .provision (.upsertContainer
          ((s.world.runner k).newHandle (s.world.host k) req raw now).container)) := by
    simp only [Activity.step, Provision.step, hnode, Option.map_some]
    rfl
  refine ⟨_, (CleanRun.start s _).step (attemptStep_call (a := a) rfl rfl hstep) (Or.inl rfl)
    (fun h => (hid h).elim), Stands.called hstep rfl ?_⟩
  simp only [Activity.nodes, hnode]
  rfl

end

section

variable {s₀ s s₂ : Site} {req : CreateContainerRequest} {k : String} {x : Activity}

/-- What the nodes show after the container is provisioned again is what they show after it is
provisioned once. -/
theorem ProvisionsAgain.shows (h : ProvisionsAgain s₀ req k s) (hid : req.id ≠ "")
    (hvalid : ∀ id hd, (s₀.world.runner k).containers.get id = some hd →
      ∃ sup, s₀.supervisor? k hd.supervisor = some sup)
    (raw : String) (now : Time) (k' id : String) :
    shows (Function.update s₀.world.runner k
        ((s₀.world.runner k).provisionContainer (s₀.world.host k) req raw now).1 k') id =
      shows (Function.update s.world.runner k
        ((s.world.runner k).provisionContainer (s.world.host k) req raw now).1 k') id := by
  by_cases hk : k' = k
  · subst hk
    rw [Function.update_self, Function.update_self]
    by_cases hid' : id = containerID req raw
    · obtain ⟨hc, hroot, hws, hsocket⟩ := h.newHandle raw now
      rw [hid', shows_provisioned, shows_provisioned, hc, hroot, hws, hsocket, h.host]
    · have hne : id ≠ req.id := by rwa [containerID_of_ne hid] at hid'
      have hget : ∀ (r : Runner) host, (r.provisionContainer host req raw now).1.containers.get id =
          r.containers.get id := by
        intro r host
        rw [Runner.provisionContainer_containers,
          Table.get_upsert_of_ne _ (by rwa [Runner.newHandle_id])]
      refine shows_congr (by rw [hget, hget, h.get id hne]) fun hd hhd => ?_
      rw [hget] at hhd
      obtain ⟨sup, hsup⟩ := hvalid id hd hhd
      -- the supervisor of another container keeps its number
      have hkeeps : ∀ (r : Runner) host, r.supervisors[hd.supervisor]? = some sup →
          (r.provisionContainer host req raw now).1.supervisors[hd.supervisor]? = some sup := by
        intro r host hr
        exact getElem?_append_of_some _ hr
      rw [hkeeps _ _ hsup, hkeeps _ _ (h.supervisors _ _ hsup)]
  · rw [Function.update_of_ne hk, Function.update_of_ne hk, h.others k' hk]

/-- **A container provisioned again under its id** is as after a single attempt. -/
theorem ProvisionsAgain.completes (h : ProvisionsAgain s₀ req k s) (hid : req.id ≠ "")
    (hnode : s₀.world.node req.profile.nodeID = .ok k)
    (hvalid : ∀ id hd, (s₀.world.runner k).containers.get id = some hd →
      ∃ sup, s₀.supervisor? k hd.supervisor = some sup)
    (hlast : Completes s (.provisionContainer req) s₂ x) :
    x.Succeeded ∧ ∃ s', Completes s₀ (.provisionContainer req) s' x ∧ SameState s' s₂ := by
  have hreq : (Request.provisionContainer req).Followed := trivial
  have hnode' : s.world.node req.profile.nodeID = .ok k := (World.node_congr h.nodes _).trans hnode
  have hx : x.Succeeded := (Ready.provision hnode').succeeds hreq hlast
  refine ⟨hx, ?_⟩
  obtain ⟨t₁, x₁, as, hr, has, hcalls, hprompts⟩ := hlast.reached hreq hx
  have hreached := hr
  cases hr with
  | served hasks => cases hasks
  | @provision _ k₁ a₁ _ hnode₁ _ hs₁ =>
      obtain rfl := Except.ok.inj (hnode₁.symm.trans hnode')
      obtain ⟨t₀, hrun, hs₀⟩ := CleanRun.provision hid hnode a₁.raw a₁.now
      rw [← (h.newHandle a₁.raw a₁.now).1] at hrun
      refine hrun.completes hreached rfl (fun _ _ => rfl) (fun a ho => ?_) (fun k' id => ?_) ?_ has
        hcalls hprompts hx
      · show stored a (some (.container _)) _ = stored a (some (.container _)) _
        rw [stored_ok ho, stored_ok ho, hs₀.store, hs₁.store]
        refine (h.store _ ?_).symm
        rw [Runner.newHandle_id, containerID_of_ne hid]
      · rw [hs₀.moved.runner, hs₁.moved.runner]
        exact h.shows hid hvalid a₁.raw a₁.now k' id
      · exact hs₀.prompts.trans (h.prompts.symm.trans hs₁.prompts.symm)

end

theorem hibernateContainer_twice (r : Runner) (id : String) (now now' : Time) :
    ((r.hibernateContainer id now).1.hibernateContainer id now').1 =
      (r.hibernateContainer id now').1 := by
  cases hget : r.containers.get id with
  | none => simp only [Runner.hibernateContainer, hget]
  | some h =>
      have hkey := Table.key_of_get hget
      have hget' : ∀ h' : ContainerHandle, h'.container.id = id →
          (r.containers.upsert h').get id = some h' := by
        rintro h' rfl
        exact Table.get_upsert_self _ _
      simp only [Runner.hibernateContainer, hget,
        hget' { h with container := { h.container with state := .hibernating, updatedAt := now } } hkey,
        Table.upsert_upsert]

/-- What failed attempts to hibernate a container leave of the site `s₀`, in which the row of the
container is `c` and its handle on node `k` is `h`: all but what the next attempt replaces. -/
structure HibernatesAgain (s₀ : Site) (id : String) (c : Container) (k : String)
    (h : ContainerHandle) (s : Site) : Prop where
  nodes : s.world.nodes = s₀.world.nodes
  host : s.world.host = s₀.world.host
  prompts : s.prompts = s₀.prompts
  row : ∃ c', s.world.store.containers.get id = some c' ∧ s.world.node c'.nodeID = .ok k ∧
    c'.bundleDigests = c.bundleDigests
  handle : ∃ h', (s.world.runner k).containers.get id = some h' ∧
    ∀ now, ({ h'.container with state := .hibernating, updatedAt := now } : Container) =
      { h.container with state := .hibernating, updatedAt := now }
  runner : ∀ now, Function.update s.world.runner k
      ((s.world.runner k).hibernateContainer id now).1 =
    Function.update s₀.world.runner k ((s₀.world.runner k).hibernateContainer id now).1
  store : ∀ c' : Container, c'.id = id →
    s.world.store.upsertContainer c' = s₀.world.store.upsertContainer c'

section

variable {s₀ s s' s₂ : Site} {id : String} {c : Container} {k : String} {h : ContainerHandle}
  {x : Activity}

theorem HibernatesAgain.refl (hrow : s₀.world.store.containers.get id = some c)
    (hnode : s₀.world.node c.nodeID = .ok k)
    (hget : (s₀.world.runner k).containers.get id = some h) : HibernatesAgain s₀ id c k h s₀ where
  nodes := rfl
  host := rfl
  prompts := rfl
  row := ⟨c, hrow, hnode, rfl⟩
  handle := ⟨h, hget, fun _ => rfl⟩
  runner _ := rfl
  store _ _ := rfl

theorem HibernatesAgain.again (ha : HibernatesAgain s₀ id c k h s)
    (hplaced : s₀.world.node h.container.nodeID = .ok k) (hkey : h.container.id = id)
    (hfails : WriteFails s (.hibernate id) s') : HibernatesAgain s₀ id c k h s' := by
  have hreq : (Request.hibernate id).Followed := trivial
  obtain ⟨s₁, x, a, row, hr, hrow, hs'⟩ := hfails.reached hreq
  cases hr with
  | served hasks => cases hasks
  | @hibernate _ c₁ k₁ h₁ now _ hrow₁ hnode₁ hget₁ hs₁ =>
      obtain ⟨c', hrow', hnode', hdigests⟩ := ha.row
      obtain ⟨h', hget', hsame⟩ := ha.handle
      obtain rfl := Option.mem_unique hrow₁ hrow'
      obtain rfl := Except.ok.inj (hnode₁.symm.trans hnode')
      obtain rfl := Option.mem_unique hget₁ hget'
      obtain rfl := Option.some.inj hrow
      have hnodes : s'.world.nodes = s.world.nodes := hs'.moved.nodes.trans hs₁.moved.nodes
      have hnodes₀ := hnodes.trans ha.nodes
      have hrunner : s'.world.runner = Function.update s.world.runner k₁ _ :=
        hs'.moved.runner.trans hs₁.moved.runner
      have hstore : s'.world.store = stored a (some (.container _)) s.world.store :=
        hs'.store.trans (by rw [hs₁.store])
      have hrow_id : (Hibernate.row c₁
          { h₁.container with state := .hibernating, updatedAt := now }).id = id :=
        (congrArg (fun c : Container => c.id) (hsame now)).trans hkey
      refine ⟨hnodes₀, hs'.moved.host.trans (hs₁.moved.host.trans ha.host),
        hs'.prompts.trans (hs₁.prompts.trans ha.prompts), ?_, ?_, fun now' => ?_,
        fun c' hc' => ?_⟩
      · rw [hstore, stored_containers]
        simp only [Option.bind_some, Row.container?, storedIn]
        split_ifs
        · refine ⟨Hibernate.row c₁
            { h₁.container with state := .hibernating, updatedAt := now }, ?_, ?_, hdigests⟩
          · rw [Table.get_upsert, if_pos hrow_id.symm]
          · rw [World.node_congr hnodes₀]
            exact (congrArg (fun c : Container => s₀.world.node c.nodeID) (hsame now)).trans hplaced
        · exact ⟨c₁, hrow₁, (World.node_congr hnodes _).trans hnode₁, hdigests⟩
      · rw [hrunner, Function.update_self]
        refine ⟨{ h₁ with container :=
          { h₁.container with state := .hibernating, updatedAt := now } }, ?_, fun now' => ?_⟩
        · simp only [Runner.hibernateContainer, hget₁]
          have hkey₁ := Table.key_of_get hget₁
          rw [Table.get_upsert, if_pos hkey₁.symm]
        · exact hsame now'
      · rw [hrunner, Function.update_self, Function.update_idem, hibernateContainer_twice]
        exact ha.runner now'
      · rw [hstore, stored_container_absorbs]
        · exact ha.store c' hc'
        · rw [hrow_id, hc']

end

section

variable {s₀ s s' s₂ : Site} {id : String} {c : Container} {k : String} {h : ContainerHandle}
  {x : Activity}

/-- A clean attempt up to the answer of the node. -/
theorem CleanRun.hibernate (hrow : s.world.store.containers.get id = some c)
    (hnode : s.world.node c.nodeID = .ok k)
    (hget : (s.world.runner k).containers.get id = some h) (now : Time) :
    ∃ t₀, CleanRun s (.hibernate id) (t₀, { activity := .container (.hibernate
        (.upsertContainer c { h.container with state := .hibernating, updatedAt := now })) }) ∧
      Stands s (Function.update s.world.runner k ((s.world.runner k).hibernateContainer id now).1)
        s.world.store t₀ := by
  let a : Answer := { now }
  have hread : (Activity.container (.hibernate (.containerNode id))).step s.world {} =
      some (s.world, .container (.hibernate (.nodeHibernate id c k))) := by
    have hcn : s.world.containerNode .ok id = .ok (c, k) :=
      World.containerNode_ok (a := {}) rfl hrow hnode
    simp only [Activity.step, ContainerActivity.step, Hibernate.step, hcn, Option.map_some]
  have hcall : (Activity.container (.hibernate (.nodeHibernate id c k))).step s.world a =
      some ((s.world.call k .ok (·.hibernateContainer id now)).1, .container (.hibernate
        (.upsertContainer c { h.container with state := .hibernating, updatedAt := now }))) := by
    simp only [Activity.step, ContainerActivity.step, Hibernate.step, World.call,
      Runner.hibernateContainer, hget, Option.map_some]
    rfl
  have hfirst := (CleanRun.start s (.hibernate id)).step
    (attemptStep_call (a := {}) rfl rfl hread) (Or.inl rfl) trivial
  exact ⟨_, hfirst.step (attemptStep_call (a := a) rfl rfl hcall) (Or.inl rfl) trivial,
    Stands.called hcall rfl rfl⟩

/-- **A container hibernated again** is as after a single attempt. -/
theorem HibernatesAgain.completes (ha : HibernatesAgain s₀ id c k h s)
    (hrow₀ : s₀.world.store.containers.get id = some c) (hnode₀ : s₀.world.node c.nodeID = .ok k)
    (hget₀ : (s₀.world.runner k).containers.get id = some h)
    (hlast : Completes s (.hibernate id) s₂ x) :
    x.Succeeded ∧ ∃ s', Completes s₀ (.hibernate id) s' x ∧ SameState s' s₂ := by
  have hreq : (Request.hibernate id).Followed := trivial
  obtain ⟨c', hrow', hnode', hdigests⟩ := ha.row
  obtain ⟨h', hget', hsame⟩ := ha.handle
  have hx : x.Succeeded := (Ready.hibernate hrow' hnode' hget').succeeds hreq hlast
  refine ⟨hx, ?_⟩
  obtain ⟨t₁, x₁, as, hr, has, hcalls, hprompts⟩ := hlast.reached hreq hx
  have hreached := hr
  cases hr with
  | served hasks => cases hasks
  | @hibernate _ c₁ k₁ h₁ now _ hrow₁ hnode₁ hget₁ hs₁ =>
      obtain rfl := Option.mem_unique hrow₁ hrow'
      obtain rfl := Except.ok.inj (hnode₁.symm.trans hnode')
      obtain rfl := Option.mem_unique hget₁ hget'
      obtain ⟨t₀, hrun, hs₀⟩ := CleanRun.hibernate hrow₀ hnode₀ hget₀ now
      -- the row that is written takes the digests of the row that was read, and nothing else
      have hrow : Hibernate.row c { h.container with state := .hibernating, updatedAt := now } =
          Hibernate.row c₁ { h₁.container with state := .hibernating, updatedAt := now } := by
        rw [hsame now]
        simp only [Hibernate.row, hdigests]
      refine hrun.completes hreached rfl (fun w a => ?_) (fun a ho => ?_) (fun k' id' => ?_) ?_ has
        hcalls hprompts hx
      · simp only [Activity.step, ContainerActivity.step, Hibernate.step, hrow]
      · show stored a (some (.container (Hibernate.row c _))) _ =
          stored a (some (.container (Hibernate.row c₁ _))) _
        rw [stored_ok ho, stored_ok ho, hs₀.store, hs₁.store, hrow]
        refine (ha.store _ ?_).symm
        have hkey := Table.key_of_get hget₀
        rw [← hrow]
        exact hkey
      · rw [hs₀.moved.runner, hs₁.moved.runner, ha.runner now]
      · exact hs₀.prompts.trans (ha.prompts.symm.trans hs₁.prompts.symm)

/-- **A container is deleted once**: after an attempt that a write has failed, the node has no
container to delete. -/
theorem WriteFails.delete_not_reached (hfails : WriteFails s (.delete id) s') {t : Site} :
    ¬ Reached s' (.delete id) t x := by
  have hreq : (Request.delete id).Followed := trivial
  obtain ⟨s₁, x₁, a, row, hr, hrow, hs'⟩ := hfails.reached hreq
  intro hr'
  cases hr with
  | served hasks => cases hasks
  | @delete _ c₁ k₁ h₁ _ hrow₁ hnode₁ hget₁ hs₁ =>
      cases hr' with
      | served hasks => cases hasks
      | @delete _ c₂ k₂ h₂ _ hrow₂ hnode₂ hget₂ hs₂ =>
          obtain rfl := Option.some.inj hrow
          have hnodeID : c₂.nodeID = c₁.nodeID := by
            rw [hs'.store, hs₁.store, stored_containers] at hrow₂
            rcases storedIn_cases hrow₂ with hold | ⟨hnew, -, -⟩
            · rw [Option.mem_unique hold hrow₁]
            · rw [← show Delete.row c₁ a.now = c₂ from Option.some.inj hnew]
              rfl
          have hnodes : s'.world.nodes = s.world.nodes := hs'.moved.nodes.trans hs₁.moved.nodes
          rw [hnodeID, World.node_congr hnodes, hnode₁] at hnode₂
          obtain rfl := Except.ok.inj hnode₂
          rw [hs'.moved.runner, hs₁.moved.runner, Function.update_self,
            Runner.deleteContainer_get_self] at hget₂
          cases hget₂

end

/-- What failed attempts to provision a container without an id leave on node `k`: the containers
that were there, and, after the first of them, one that was not. -/
structure ProvisionsMore (s₀ : Site) (k : String) (n : ℕ) (s : Site) : Prop where
  nodes : s.world.nodes = s₀.world.nodes
  keeps : ∀ id, (s.world.runner k).containers.get id = none →
    (s₀.world.runner k).containers.get id = none
  more : n ≠ 0 → ∃ id hd, (s₀.world.runner k).containers.get id = none ∧
    (s.world.runner k).containers.get id = some hd

section

variable {s₀ s s₁ s' s₂ : Site} {req : CreateContainerRequest} {k : String} {n : ℕ} {x : Activity}

/-- The node enters one container, under an id that it did not have. -/
theorem Reached.provision_new (hr : Reached s (.provisionContainer req) s₁ x) (hid : req.id = "")
    (hnode : s.world.node req.profile.nodeID = .ok k) :
    ∃ id, (s.world.runner k).containers.get id = none ∧
      (∃ hd, (s₁.world.runner k).containers.get id = some hd) ∧
      ∀ id', id' ≠ id →
        (s₁.world.runner k).containers.get id' = (s.world.runner k).containers.get id' := by
  cases hr with
  | served hasks => cases hasks
  | @provision _ k₁ a₁ _ hnode₁ hfresh hs₁ =>
      obtain rfl := Except.ok.inj (hnode₁.symm.trans hnode)
      have hcid : containerID req a₁.raw = newID "ctr" a₁.raw := if_pos hid
      refine ⟨newID "ctr" a₁.raw, hfresh hid k₁, ?_, fun id' hne => ?_⟩
      · rw [hs₁.moved.runner, Function.update_self, Runner.provisionContainer_containers,
          Table.get_upsert, Runner.newHandle_id, if_pos hcid.symm]
        exact ⟨_, rfl⟩
      · rw [hs₁.moved.runner, Function.update_self, Runner.provisionContainer_containers,
          Table.get_upsert, Runner.newHandle_id, if_neg (by rwa [hcid])]

theorem ProvisionsMore.of_retried (hid : req.id = "")
    (hnode : s₀.world.node req.profile.nodeID = .ok k)
    (h : Retried (.provisionContainer req) n s₀ s) : ProvisionsMore s₀ k n s := by
  have hreq : (Request.provisionContainer req).Followed := trivial
  induction h with
  | zero => exact ⟨rfl, fun _ h => h, fun h => (h rfl).elim⟩
  | @succ n s s₁ s' h hlast ih =>
      have hmore := ih hnode
      obtain ⟨t, x, a, row, hr, -, hs'⟩ := hlast.reached hreq
      obtain ⟨id, hnone, ⟨hd, hget⟩, hothers⟩ :=
        hr.provision_new hid ((World.node_congr hmore.nodes _).trans hnode)
      have ht : t.world.nodes = s₁.world.nodes := by
        cases hr with
        | provision _ _ hs => exact hs.moved.nodes
        | served hasks => cases hasks
      have hrunner : s'.world.runner = t.world.runner := hs'.moved.runner
      refine ⟨hs'.moved.nodes.trans (ht.trans hmore.nodes), fun id' hid' => ?_, fun _ => ?_⟩
      · by_cases hne : id' = id
        · rw [hne]
          exact hmore.keeps id hnone
        · rw [hrunner, hothers id' hne] at hid'
          exact hmore.keeps id' hid'
      · exact ⟨id, hd, hmore.keeps id hnone, by rw [hrunner]; exact hget⟩

theorem get_of_shows {r r' : Runner} {id : String} {hd : ContainerHandle}
    (h : shows r' id = shows r id) (hget : r.containers.get id = some hd) :
    r'.containers.get id ≠ none := by
  intro hnone
  unfold shows at h
  rw [hnone, hget] at h
  cases h

/-- The containers of the nodes after an attempt in which nothing fails are those after the
answer of the node. -/
theorem Completes.runner {req : Request} {t : Site} {as : List Answer} {x₁ : Activity}
    (hr : Reached s req t x₁)
    (hcalls : exec Activity.advance (t.world, x₁) as = some (s₂.world, x)) :
    s₂.world.runner = t.world.runner := by
  refine (exec_invariant_of_step (I := fun u : World × Activity =>
    u.1.runner = t.world.runner ∧ u.2.storing = true) ?_ ⟨rfl, hr.storing⟩ hcalls).1
  rintro ⟨w, y⟩ a ⟨w', y'⟩ ⟨hw, hy⟩ hstep
  obtain ⟨hy', hafter⟩ := Activity.step_storing hy hstep
  have hw' := hafter w
  rw [show y.step w a = some (w', y') from hstep] at hw'
  obtain ⟨rfl, -⟩ := some_pair_inj hw'
  exact ⟨hw, hy'⟩

/-- **Containers without an id pile up**: no single attempt leaves what an attempt leaves after a
failed one. -/
theorem Retried.provision_differs (hid : req.id = "")
    (hretried : Retried (.provisionContainer req) n s₀ s) (hn : n ≠ 0)
    (hlast : Completes s (.provisionContainer req) s₂ x) (hx : x.Succeeded)
    {x' : Activity} (hone : Completes s₀ (.provisionContainer req) s' x') (hx' : x'.Succeeded) :
    ¬ SameState s' s₂ := by
  have hreq : (Request.provisionContainer req).Followed := trivial
  intro hsame
  obtain ⟨t', y', as', hr', -, hcalls', -⟩ := hone.reached hreq hx'
  obtain ⟨k, hnode⟩ : ∃ k, s₀.world.node req.profile.nodeID = .ok k := by
    cases hr' with
    | provision hnode => exact ⟨_, hnode⟩
    | served hasks => cases hasks
  have hmore := ProvisionsMore.of_retried hid hnode hretried
  obtain ⟨t, y, as, hr, -, hcalls, -⟩ := hlast.reached hreq hx
  obtain ⟨id₁, hd₁, hnone₁, hget₁⟩ := hmore.more hn
  obtain ⟨id₂, hnone₂, ⟨hd₂, hget₂⟩, hothers₂⟩ :=
    hr.provision_new hid ((World.node_congr hmore.nodes _).trans hnode)
  obtain ⟨id', hnone', -, hothers'⟩ := hr'.provision_new hid hnode
  -- both ids are shown by the node, and the single attempt has entered one of them only
  have honly : ∀ id, (s₀.world.runner k).containers.get id = none →
      (s'.world.runner k).containers.get id ≠ none → id = id' := by
    intro id hnone hsome
    by_contra hne
    rw [Completes.runner hr' hcalls', hothers' id hne, hnone] at hsome
    exact hsome rfl
  have hne : id₁ ≠ id₂ := by
    rintro rfl
    rw [hnone₂] at hget₁
    cases hget₁
  have hrunner₂ := Completes.runner hr hcalls
  have hshown₁ : (s₂.world.runner k).containers.get id₁ = some hd₁ := by
    rw [hrunner₂, hothers₂ id₁ hne, hget₁]
  have hshown₂ : (s₂.world.runner k).containers.get id₂ = some hd₂ := by
    rw [hrunner₂, hget₂]
  have heq₁ := honly id₁ hnone₁ (get_of_shows (hsame.nodes k id₁) hshown₁)
  have heq₂ := honly id₂ (hmore.keeps id₂ hnone₂) (get_of_shows (hsame.nodes k id₂) hshown₂)
  exact hne (heq₁.trans heq₂.symm)

end

end Workflows
end Agentd
