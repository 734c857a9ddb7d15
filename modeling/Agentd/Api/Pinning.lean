/-
# The node that a session asks for

A request for a session can name the node of its container (`container_profile.node_id`).
`SelectPlacement` keeps to that node while it looks for a container that is there
(`scheduler/round_robin.go`).  When there is none, it looks at the node of the placement
instead, which `handleCreateSession` (`api/server.go`) has left empty, and takes the nodes in
turn; the handler then asks for a container on that node.

`pinnedPlacement_iff` says when the request gets the node that it has named.
-/

import Agentd.Api.CreateSession

namespace Agentd
namespace Api

open Control Store NodeRuntime Workflows Scheduler

section

variable {s : Server} {a : Answers} {req : CreateSessionRequest} {plan : ExecutionPlan}
  {placement : Placement}

/-- The plan of a request that names no container asks for the node of the request. -/
theorem planSession_node (hreq : req.containerID = "") (hplan : planSession s a req = .ok plan) :
    plan.placement.containerID = "" ∧ plan.placement.nodeID = "" ∧
      plan.containerProfile.nodeID = req.containerProfile.nodeID := by
  obtain ⟨-, hid, ⟨hne, -⟩ | ⟨-, hnode, hprofile⟩⟩ := planSession_eq_ok hplan
  · exact absurd hreq hne
  · refine ⟨hid.trans hreq, hnode, ?_⟩
    rw [hprofile]
    rfl

theorem nodeID_of_eligible {nodeID : String} {container : Container}
    (h : eligible nodeID container = true) (hne : nodeID ≠ "") : container.nodeID = nodeID := by
  simp only [eligible, Bool.and_eq_true, Bool.not_eq_true', Bool.and_eq_false_iff,
    decide_eq_false_iff_not, not_not] at h
  rcases h.2 with hempty | hsame
  · exact absurd hempty hne
  · exact hsame

/-- **When the node is the one that the request names.**  A request without a container names a
node, and the handler gets a placement for it.  The placement is on that node, and a new
container is requested there, if and only if one of the listed containers can take the session
or it is the turn of that very node. -/
theorem pinnedPlacement_iff (hreq : req.containerID = "") (hpin : req.containerProfile.nodeID ≠ "")
    (hplan : planSession s a req = .ok plan)
    (hselect : (s.scheduler.selectPlacement (listed s.world.store a.listContainers) plan).2 =
      .ok placement) :
    (placement.nodeID = req.containerProfile.nodeID ∧
        (createReq plan placement).profile.nodeID = req.containerProfile.nodeID) ↔
      (∃ c, chosen s a req = some c) ∨ s.scheduler.turn = some req.containerProfile.nodeID := by
  obtain ⟨hid, hnode, hprofile⟩ := planSession_node hreq hplan
  obtain ⟨containers, hlisted, hselected⟩ := RoundRobin.selectPlacement_eq_ok hid hselect
  have hsame : (createReq plan placement).profile.nodeID = placement.nodeID := rfl
  have hchosen : chosen s a req = containers.find? (eligible plan.containerProfile.nodeID) := by
    rw [chosen, hlisted, hprofile]
  rw [hsame, and_self, hchosen]
  cases hselected with
  | existing c hfind =>
      refine iff_of_true ?_ (Or.inl ⟨c, hfind⟩)
      have heligible := List.find?_some hfind
      rw [hprofile] at heligible
      exact nodeID_of_eligible heligible hpin
  | placed hfind hne => exact absurd hnode hne
  | turned node hfind _ hturn =>
      rw [hfind, hturn, Option.some_inj]
      constructor
      · exact Or.inr
      · rintro (⟨c, hc⟩ | heq)
        · cases hc
        · exact heq

end

/-- A session of an agent of the request's own, on the second node. -/
def pinnedRequest : CreateSessionRequest where
  manualAgent := some { id := "echo" }
  containerProfile := { nodeID := "node-2" }

/-- A server with two nodes and without containers, at this count of the scheduler. -/
def twoNodes (next : Int64) : Server where
  world :=
    { nodes := ["node-1", "node-2"]
      nodes_nodup := twoNodes_nodup
      runner := fun nodeID => { nodeID, root := "/var/agentd" } }
  scheduler := { nodes := ["node-1", "node-2"], next }

/-- When it is the turn of the second node, the session that asks for it gets it. -/
theorem pinnedRequest_honoured : ∃ plan placement,
    planSession (twoNodes 1) goesThrough pinnedRequest = .ok plan ∧
      ((twoNodes 1).scheduler.selectPlacement
        (listed (twoNodes 1).world.store goesThrough.listContainers) plan).2 = .ok placement ∧
      placement.nodeID = "node-2" ∧ (createReq plan placement).profile.nodeID = "node-2" := by
  refine ⟨_, _, rfl, rfl, ?_⟩
  have hpinned := @pinnedPlacement_iff (twoNodes 1) goesThrough pinnedRequest _ _ rfl (by decide)
    rfl rfl
  exact hpinned.2 (Or.inr rfl)

/-- **The node is not the one that the request names.**  There is no container yet, and it is the
turn of the first node: the session that asks for the second node is placed on the first, and
its container is requested there. -/
theorem pinnedRequest_ignored : ∃ plan placement,
    planSession (twoNodes 0) goesThrough pinnedRequest = .ok plan ∧
      ((twoNodes 0).scheduler.selectPlacement
        (listed (twoNodes 0).world.store goesThrough.listContainers) plan).2 = .ok placement ∧
      pinnedRequest.containerProfile.nodeID = "node-2" ∧ placement.nodeID = "node-1" ∧
        (createReq plan placement).profile.nodeID = "node-1" :=
  ⟨_, _, rfl, rfl, rfl, rfl, rfl⟩

end Api
end Agentd
