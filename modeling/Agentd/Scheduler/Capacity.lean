/-
# The capacity gate

`SelectPlacement` passes over a container whose `CurrentRuns` has reached its `Capacity`.  If
the counts are right, a container that it returns has room for another run
(`CapacityGateSound.of_counted`).  The count is a field of the row of the container, and no
activity writes it: a runner provisions a container with a count of zero, and every later row
carries it along (`Uncounted.step`).  The `Prompt` activities that execute runs are those that
stand between the creation of a run and the answer of the node (`executes`).

The control plane is the activities of the workers together with the scheduler, which reads
the rows that are there when a session is created.  `capacityGate_sound_iff` says when the
counts are right in a state that it has reached: when no run is executed in a stored container.
-/

import Agentd.Scheduler.RoundRobin
import Agentd.Workflows.Carried

namespace Agentd
namespace Scheduler

open Control Store NodeRuntime Workflows Concurrency

/-- The activities of the workers, and the scheduler. -/
structure ControlPlane where
  pool : Pool World Activity
  scheduler : RoundRobin

/-- What happens next: an activity starts or makes a call, or a session is created for which a
placement is selected. -/
inductive PlaneLabel
  | activity (l : PoolLabel Request Answer)
  | place (answer : Except Err Order) (plan : ExecutionPlan)

namespace ControlPlane

/-- The placement that is selected for a plan. -/
def select (s : ControlPlane) (answer : Except Err Order) (plan : ExecutionPlan) :
    RoundRobin × Except Err Placement :=
  s.scheduler.selectPlacement (listed s.pool.shared.store answer) plan

/-- One step of the control plane. -/
def step (s : ControlPlane) : PlaneLabel → Option ControlPlane
  | .activity l => (s.pool.step activityMachine l).map fun pool => { s with pool }
  | .place answer plan => some { s with scheduler := (s.select answer plan).1 }

end ControlPlane

/-- The container in which the activity executes a run: `Prompt` has created the run, and the
node has not answered it yet. -/
def executes : Activity → Option String
  | .session (.prompt (.upsertSession _ _ _ run)) => some run.containerID
  | .session (.prompt (.upsertRun _ _ _ run)) => some run.containerID
  | .session (.prompt (.publishStarted _ _ _ run)) => some run.containerID
  | .session (.prompt (.nodePrompt _ _ _ run)) => some run.containerID
  | _ => none

/-- The number of runs that are executed in a container. -/
def executing (p : Pool World Activity) (containerID : String) : ℕ :=
  p.threads.countP fun x => executes x = some containerID

/-- The gate is sound: the count of each stored container is the number of the runs that are
executed in it, and a container that is returned to a session has room for another run. -/
structure CapacityGateSound (s : ControlPlane) : Prop where
  counted : ∀ id c, s.pool.shared.store.containers.get id = some c →
    c.currentRuns = executing s.pool id
  room : ∀ answer plan placement, plan.placement.containerID = "" →
    (s.select answer plan).2 = .ok placement → placement.containerID ≠ "" →
    ∀ c, s.pool.shared.store.containers.get placement.containerID = some c → 0 < c.capacity →
      executing s.pool placement.containerID < c.capacity

/-- No count has ever been raised. -/
def Uncounted (s : ControlPlane) : Prop := Everywhere (fun c => c.currentRuns = 0) s.pool

section

variable {s t : ControlPlane}

/-- **A step of the control plane** raises no count. -/
theorem Uncounted.step {l : PlaneLabel} (h : Uncounted s) (hstep : s.step l = some t) :
    Uncounted t := by
  cases l with
  | activity l =>
      obtain ⟨pool, hpool, rfl⟩ := Option.map_eq_some_iff.1 hstep
      cases l with
      | spawn req =>
          obtain ⟨x, hx, rfl⟩ := Pool.step_spawn.1 hpool
          obtain rfl : req.start = x := Option.some.inj hx
          exact Everywhere.spawn h req
      | step i a =>
          obtain ⟨x, w', x', hx, hrun, rfl⟩ := Pool.step_run.1 hpool
          exact Everywhere.call h (fun c d hcarries hd => hcarries.currentRuns.trans hd)
            (fun _ _ _ _ _ => rfl) hx hrun
  | place answer plan =>
      obtain rfl := Option.some.inj hstep
      exact h

/-- **A run of the control plane** raises no count. -/
theorem uncounted_of_exec {w : World} (hw : Unused w) (scheduler : RoundRobin)
    {ls : List PlaneLabel} (h : exec ControlPlane.step ⟨⟨w, []⟩, scheduler⟩ ls = some s) :
    Uncounted s := by
  have hstart : Uncounted ⟨⟨w, []⟩, scheduler⟩ := hw.everywhere
  exact exec_invariant_of_step (fun _ _ _ hs ht => hs.step ht) hstart h

/-- A container that is returned to a session is stored. -/
theorem ControlPlane.select_existing {answer : Except Err Order} {plan : ExecutionPlan}
    {placement : Placement} (hplan : plan.placement.containerID = "")
    (h : (s.select answer plan).2 = .ok placement) (hid : placement.containerID ≠ "") :
    ∃ c, s.pool.shared.store.containers.get placement.containerID = some c ∧
      eligible plan.containerProfile.nodeID c = true := by
  obtain ⟨containers, c, hlisted, hmem, hc, hcid⟩ :=
    RoundRobin.selectPlacement_existing hplan h hid
  refine ⟨c, ?_, hc⟩
  rw [hcid]
  exact get_of_listed hlisted hmem

/-- **With right counts the gate is sound**, whatever else the state is. -/
theorem CapacityGateSound.of_counted
    (h : ∀ id c, s.pool.shared.store.containers.get id = some c →
      c.currentRuns = executing s.pool id) : CapacityGateSound s := by
  refine ⟨h, fun answer plan placement hplan hsel hid c hget hcap => ?_⟩
  obtain ⟨c', hget', hc'⟩ := ControlPlane.select_existing hplan hsel hid
  obtain rfl : c' = c := Option.mem_unique hget' hget
  rw [← h _ c' hget]
  exact currentRuns_lt_of_eligible hc' hcap

/-- **The capacity gate is sound exactly where no run is executed.**  In every state that the
control plane reaches from an empty store, the counts are right, and no container is returned
that executes as many runs as it may, if and only if no `Prompt` activity executes a run in a
stored container. -/
theorem capacityGate_sound_iff {w : World} (hw : Unused w) (scheduler : RoundRobin)
    {ls : List PlaneLabel} (h : exec ControlPlane.step ⟨⟨w, []⟩, scheduler⟩ ls = some s) :
    CapacityGateSound s ↔
      ∀ id c, s.pool.shared.store.containers.get id = some c → executing s.pool id = 0 := by
  have hzero : Uncounted s := uncounted_of_exec hw scheduler h
  constructor
  · intro hsound id c hget
    have hcounted := hsound.counted id c hget
    rw [hzero.rows id c hget] at hcounted
    exact Int.ofNat_eq_zero.1 hcounted.symm
  · intro hnone
    refine .of_counted fun id c hget => ?_
    rw [hzero.rows id c hget, hnone id c hget]
    rfl

end

/-- A container for one run at a time is provisioned, and a session is opened in it and
prompted: the activity waits for the node. -/
def promptAlone : List PlaneLabel :=
  [.activity (.spawn (.provisionContainer { id := "ctr_1", capacity := 1 })),
    .activity (.step 0 {}), .activity (.step 0 {}),
    .activity (.spawn (.createSession { containerID := "ctr_1" })), .activity (.step 1 {}),
    .activity (.step 1 { reply := .session waitingSession }), .activity (.step 1 {}),
    .activity (.spawn (.prompt { sessionID := "sess_1", runID := "run_1" })),
    .activity (.step 2 {}), .activity (.step 2 {}), .activity (.step 2 {}), .activity (.step 2 {}),
    .activity (.step 2 {})]

/-- The run ends. -/
def promptEnded : List PlaneLabel :=
  promptAlone ++ [.activity (.step 2 { reply := .run { id := "run_1", state := .completed } })]

/-- The scheduler of one node. -/
def oneNode : RoundRobin := { nodes := ["node-1"] }

/-- After the run has ended, the gate is sound again. -/
theorem promptEnded_sound : ∃ s,
    exec ControlPlane.step ⟨⟨emptyWorld, []⟩, oneNode⟩ promptEnded = some s ∧
      (s.pool.shared.store.runs.get "run_1").isSome = true ∧ CapacityGateSound s := by
  have hw : Unused emptyWorld := ⟨rfl, fun _ => rfl, fun _ => rfl⟩
  have hnone : ∃ s, exec ControlPlane.step ⟨⟨emptyWorld, []⟩, oneNode⟩ promptEnded = some s ∧
      (s.pool.shared.store.runs.get "run_1").isSome = true ∧
        s.pool.threads.map executes = [none, none, none] :=
    ⟨_, rfl, rfl, rfl⟩
  obtain ⟨s, h, hrun, hexec⟩ := hnone
  refine ⟨s, h, hrun, (capacityGate_sound_iff hw oneNode h).2 fun id c _ => ?_⟩
  refine List.countP_eq_zero.2 fun x hx => ?_
  have hmem : executes x ∈ [none, none, none] := hexec ▸ List.mem_map_of_mem hx
  have hx' : executes x = none := by simpa using hmem
  rw [hx']
  exact of_decide_eq_false rfl

/-- **A full container is handed out.**  While its only run is executed, the container for one
run has a count of zero and is returned to the next session. -/
theorem fullContainer_selected : ∃ s c placement,
    exec ControlPlane.step ⟨⟨emptyWorld, []⟩, oneNode⟩ promptAlone = some s ∧
      s.pool.shared.store.containers.get "ctr_1" = some c ∧ c.capacity = 1 ∧ c.currentRuns = 0 ∧
        executing s.pool "ctr_1" = 1 ∧ (s.select (.ok asStored) {}).2 = .ok placement ∧
          placement.containerID = "ctr_1" ∧ ¬ CapacityGateSound s := by
  refine ⟨_, _, _, rfl, rfl, rfl, rfl, by decide +kernel, rfl, rfl, fun h => ?_⟩
  have hcounted := h.counted "ctr_1" _ rfl
  revert hcounted
  decide +kernel

end Scheduler
end Agentd
