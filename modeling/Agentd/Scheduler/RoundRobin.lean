/-
# The scheduler

`scheduler/round_robin.go`: `RoundRobin.SelectPlacement`.  A plan that names a container keeps
its placement.  Otherwise the first listed container that is free and on the right node is
taken, and when there is none, a container is to be created: on the node of the placement, or
on the nodes in turn.

The containers are an input, as `ListContainers` answers (`listed`): the rows of the store in an
order that is not specified, or an error.  `Selected` says what comes of a plan that names no
container.
-/

import Agentd.Store.Memory

namespace Agentd
namespace Scheduler

open Control Store

/-- `RoundRobin`, without the store. -/
structure RoundRobin where
  nodes : List String
  next : Int64 := 0

/-- The order in which the rows of a map are listed. -/
abbrev Order : Type := { f : List Container → List Container // ∀ l, (f l).Perm l }

/-- The rows as the table lists them. -/
def asStored : Order := ⟨id, fun _ => List.Perm.refl _⟩

/-- What `ListContainers` answers: the rows in some order, or an error. -/
def listed (s : MemoryStore) (answer : Except Err Order) : Except Err (List Container) :=
  answer.map fun order => order.1 s.listContainers

/-- The loop of `SelectPlacement` stops at the container: it is ready or idle, it has room for
another run, and it is on the node that the profile names, if it names one. -/
def eligible (nodeID : String) (container : Container) : Bool :=
  (container.state = .ready || container.state = .idle) &&
    !(container.currentRuns ≥ container.capacity && container.capacity > 0) &&
    !(nodeID ≠ "" && container.nodeID ≠ nodeID)

/-- `s.next % len(s.Nodes)`, with the sign of `s.next`. -/
def RoundRobin.index (s : RoundRobin) : ℤ := s.next.toInt.tmod s.nodes.length

/-- `s.Nodes[s.next % len(s.Nodes)]`, the node whose turn it is.  There is none when the index is
out of range. -/
def RoundRobin.turn (s : RoundRobin) : Option String :=
  if s.index < 0 then none else s.nodes[s.index.toNat]?

/-- The placement of a container that is to be created on the node. -/
def onNode (node : String) : Placement :=
  { nodeID := node, schedulerChosen := true, createIfNotFound := true }

/-- `SelectPlacement` up to the mutex: what it returns there, or nothing when the nodes have to
be taken in turn. -/
def scan (nodes : List String) (listed : Except Err (List Container)) (plan : ExecutionPlan) :
    Option (Except Err Placement) :=
  if plan.placement.containerID ≠ "" then some (.ok plan.placement)
  else
    match listed with
    | .error e => some (.error e)
    | .ok containers =>
        match containers.find? (eligible plan.containerProfile.nodeID) with
        | some container =>
            some (.ok
              { containerID := container.id, nodeID := container.nodeID, schedulerChosen := true })
        | none =>
            if plan.placement.nodeID ≠ "" then some (.ok (onNode plan.placement.nodeID))
            else if nodes = [] then some (.error (.other "no schedulable capacity"))
            else none

/-- `RoundRobin.SelectPlacement`.  The panic of an index out of range is an error here. -/
def RoundRobin.selectPlacement (s : RoundRobin) (listed : Except Err (List Container))
    (plan : ExecutionPlan) : RoundRobin × Except Err Placement :=
  match scan s.nodes listed plan with
  | some res => (s, res)
  | none =>
      match s.turn with
      | some node => ({ s with next := s.next + 1 }, .ok (onNode node))
      | none => (s, .error (.other "index out of range"))

/-- What `SelectPlacement` returns for a plan that names no container. -/
inductive Selected (s : RoundRobin) (containers : List Container) (plan : ExecutionPlan) :
    Placement → Prop
  | existing (container : Container)
      (hfind : containers.find? (eligible plan.containerProfile.nodeID) = some container) :
      Selected s containers plan
        { containerID := container.id, nodeID := container.nodeID, schedulerChosen := true }
  | placed (hfind : containers.find? (eligible plan.containerProfile.nodeID) = none)
      (hnode : plan.placement.nodeID ≠ "") :
      Selected s containers plan (onNode plan.placement.nodeID)
  | turned (node : String)
      (hfind : containers.find? (eligible plan.containerProfile.nodeID) = none)
      (hnode : plan.placement.nodeID = "") (hturn : s.turn = some node) :
      Selected s containers plan (onNode node)

theorem get_of_listed {m : MemoryStore} {answer : Except Err Order} {containers : List Container}
    {c : Container} (h : listed m answer = .ok containers) (hc : c ∈ containers) :
    m.containers.get c.id = some c := by
  cases answer with
  | error e => cases h
  | ok order =>
      obtain rfl := Except.ok.inj h
      have hrow : c ∈ m.containers.toList := (order.2 _).mem_iff.1 hc
      exact Table.mem_toList.1 hrow

section

variable {s : RoundRobin} {listed : Except Err (List Container)} {plan : ExecutionPlan}
  {placement : Placement}

/-- **`SelectPlacement`**: for a plan that names no container it returns what `Selected` says of
the containers it was given. -/
theorem RoundRobin.selectPlacement_eq_ok (hplan : plan.placement.containerID = "")
    (h : (s.selectPlacement listed plan).2 = .ok placement) :
    ∃ containers, listed = .ok containers ∧ Selected s containers plan placement := by
  unfold RoundRobin.selectPlacement scan at h
  rw [if_neg (not_not_intro hplan)] at h
  cases listed with
  | error e => cases h
  | ok containers =>
      refine ⟨containers, rfl, ?_⟩
      dsimp only at h
      cases hfind : containers.find? (eligible plan.containerProfile.nodeID) with
      | some container =>
          rw [hfind] at h
          obtain rfl := Except.ok.inj h
          exact .existing container hfind
      | none =>
          rw [hfind] at h
          dsimp only at h
          by_cases hnode : plan.placement.nodeID ≠ ""
          · rw [if_pos hnode] at h
            obtain rfl := Except.ok.inj h
            exact .placed hfind hnode
          · rw [if_neg hnode] at h
            split_ifs at h
            cases hturn : s.turn with
            | none =>
                rw [hturn] at h
                cases h
            | some node =>
                rw [hturn] at h
                obtain rfl := Except.ok.inj h
                exact .turned node hfind (not_not.1 hnode) hturn

theorem currentRuns_lt_of_eligible {nodeID : String} {container : Container}
    (h : eligible nodeID container = true) (hcap : 0 < container.capacity) :
    container.currentRuns < container.capacity := by
  simp only [eligible, Bool.and_eq_true, Bool.not_eq_true', Bool.and_eq_false_iff,
    decide_eq_false_iff_not] at h
  rcases h.1.2 with hlt | hle
  · omega
  · omega

/-- **An existing container is returned** only if it is listed, eligible, and named by its id. -/
theorem RoundRobin.selectPlacement_existing (hplan : plan.placement.containerID = "")
    (h : (s.selectPlacement listed plan).2 = .ok placement) (hid : placement.containerID ≠ "") :
    ∃ containers container, listed = .ok containers ∧ container ∈ containers ∧
      eligible plan.containerProfile.nodeID container = true ∧
        placement.containerID = container.id := by
  obtain ⟨containers, hlisted, hsel⟩ := RoundRobin.selectPlacement_eq_ok hplan h
  cases hsel with
  | existing container hfind =>
      exact ⟨containers, container, hlisted, List.mem_of_find?_eq_some hfind,
        List.find?_some hfind, rfl⟩
  | placed => exact absurd rfl hid
  | turned => exact absurd rfl hid

end

end Scheduler
end Agentd
