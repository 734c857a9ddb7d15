/-
# Requests go to the node of the container

An activity finds the node of a container by its row (`Activities.containerNode`): the row
names a node, and `Activities.node` returns the client of that name, or the only client there
is.  The name is chosen by the runner, which writes its own id into the container it
provisions; the activities copy it from there into the row, and later from the row and from
what the node returns into the row again.

So every row names a client whose node has provisioned the container (`Routed`), and
`containerNode_provisioned` says for every run of the activities that this is the client to
which requests go.
-/

import Agentd.Workflows.Carried

namespace Agentd
namespace Workflows

open Control Store NodeRuntime Concurrency

/-- The container that a call provisions, with the key of the client whose node does it. -/
def Activity.provisions (w : World) (a : Answer) : Activity → Option (String × String)
  | .provision (.nodeProvision req) =>
      match w.node req.profile.nodeID with
      | .ok k => if a.outcome.took then some (containerID req a.raw, k) else none
      | .error _ => none
  | _ => none

/-- The containers that have been provisioned in a run, each with its node. -/
def provisioned (past : List (Pool World Activity × PoolLabel Request Answer)) :
    List (String × String) :=
  past.filterMap fun
    | (p, .step i a) => p.threads[i]?.bind (Activity.provisions p.shared a)
    | (_, .spawn _) => none

/-- Each container is provisioned on one node only. -/
def OneNode (places : List (String × String)) : Prop :=
  ∀ id k k', (id, k) ∈ places → (id, k') ∈ places → k = k'

/-- The container names a client whose node has provisioned it. -/
structure Homed (places : List (String × String)) (w : World) (c : Container) : Prop where
  place : (c.id, c.nodeID) ∈ places
  client : w.node c.nodeID = .ok c.nodeID

/-- Every row, every handle of a node and every container that an activity holds is homed, and
the client under a key reaches the runner of that node. -/
structure Routed (p : Pool World Activity) (places : List (String × String)) : Prop where
  everywhere : Everywhere (Homed places p.shared) p
  nodeID : ∀ k, (p.shared.runner k).nodeID = k

section

variable {w w' : World} {a : Answer} {x x' : Activity} {c d : Container}
  {places : List (String × String)}

/-- A container stays homed as it is carried along and more containers are provisioned. -/
theorem Homed.carry {places' : List (String × String)} (h : Homed places w d)
    (hcarries : Carries c d) (hnodes : w'.nodes = w.nodes) : Homed (places ++ places') w' c := by
  refine ⟨?_, ?_⟩
  · rw [hcarries.id, hcarries.nodeID]
    exact List.mem_append_left _ h.place
  · rw [hcarries.nodeID]
    exact (World.node_congr hnodes _).trans h.client

/-- A container that a runner has just provisioned is homed. -/
theorem Homed.newHandle {k : String} {req : CreateContainerRequest}
    (hself : (w.runner k).nodeID = k) (hnode : w.node req.profile.nodeID = .ok k)
    (hplace : (containerID req a.raw, k) ∈ places) :
    Homed places w ((w.runner k).newHandle (w.host k) req a.raw a.now).container := by
  have hid : ((w.runner k).newHandle (w.host k) req a.raw a.now).container.nodeID = k := hself
  refine ⟨?_, ?_⟩
  · rw [hid, Runner.newHandle_id]
    exact hplace
  · rw [hid]
    exact World.node_self hnode

/-- A call that provisions a container is entered in the list. -/
theorem provisions_of_took {req : CreateContainerRequest} {k : String}
    (hnode : w.node req.profile.nodeID = .ok k) (ht : a.outcome.took = true) :
    Activity.provisions w a (.provision (.nodeProvision req)) =
      some (containerID req a.raw, k) := by
  simp only [Activity.provisions, hnode, ht, if_true]

end

section

variable {p q : Pool World Activity} {places : List (String × String)}

/-- **A call of an activity** keeps everything homed, with what it provisions entered. -/
theorem Routed.call {i : ℕ} {a : Answer} {x x' : Activity} {w' : World} (h : Routed p places)
    (hx : p.threads[i]? = some x) (hstep : x.step p.shared a = some (w', x')) :
    Routed ⟨w', p.threads.set i x'⟩ (places ++ (Activity.provisions p.shared a x).toList) := by
  have hmoved := Activity.step_moved hstep
  refine ⟨h.everywhere.call (fun c d hcarries hd => hd.carry hcarries hmoved.nodes) ?_ hx hstep,
    fun k => ?_⟩
  · intro req k hreq hnode ht
    have hplace : (containerID req a.raw, k) ∈ (Activity.provisions p.shared a x).toList := by
      rw [hreq, provisions_of_took hnode ht]
      exact List.mem_singleton_self _
    have hhome := Homed.newHandle (a := a) (h.nodeID k) hnode
      (List.mem_append_right places hplace)
    exact ⟨hhome.place, (World.node_congr hmoved.nodes _).trans hhome.client⟩
  · rw [hmoved.runner, Activity.nodes_nodeID]
    exact h.nodeID k

/-- **A step of the activities** keeps everything homed. -/
theorem Routed.step {past : List (Pool World Activity × PoolLabel Request Answer)}
    {l : PoolLabel Request Answer} (h : Routed p (provisioned past))
    (hstep : p.step activityMachine l = some q) : Routed q (provisioned (past ++ [(p, l)])) := by
  have hpast : provisioned (past ++ [(p, l)]) = provisioned past ++ provisioned [(p, l)] :=
    List.filterMap_append
  rw [hpast]
  cases l with
  | spawn req =>
      obtain ⟨x, hx, rfl⟩ := Pool.step_spawn.1 hstep
      obtain rfl : req.start = x := Option.some.inj hx
      have hnone : provisioned [(p, PoolLabel.spawn (α := Answer) req)] = [] := rfl
      rw [hnone, List.append_nil]
      exact ⟨h.everywhere.spawn req, h.nodeID⟩
  | step i a =>
      obtain ⟨x, w', x', hx, hrun, rfl⟩ := Pool.step_run.1 hstep
      have hone : provisioned [(p, PoolLabel.step (β := Request) i a)] =
          (Activity.provisions p.shared a x).toList := by
        simp only [provisioned, hx, List.filterMap_cons, List.filterMap_nil, Option.bind_some]
        cases Activity.provisions p.shared a x <;> rfl
      rw [hone]
      exact h.call hx hrun

/-- **Requests go to the node that hosts the container.**  In every run of the activities in
which each container is provisioned on one node only, a container that is stored has been
provisioned, and `containerNode` returns its row with the very client whose node has
provisioned it. -/
theorem containerNode_provisioned {w : World} (hw : Unused w)
    {l : List (PoolLabel Request Answer)}
    (h : exec (Pool.step activityMachine) ⟨w, []⟩ l = some p)
    (hone : OneNode (provisioned (history (Pool.step activityMachine) ⟨w, []⟩ l))) (id : String)
    (c : Container) (hget : p.shared.store.containers.get id = some c) :
    (∃ k, (id, k) ∈ provisioned (history (Pool.step activityMachine) ⟨w, []⟩ l)) ∧
      ∀ k, (id, k) ∈ provisioned (history (Pool.step activityMachine) ⟨w, []⟩ l) →
        p.shared.containerNode .ok id = .ok (c, k) := by
  have hrouted : Routed p (provisioned (history (Pool.step activityMachine) ⟨w, []⟩ l)) :=
    exec_history_of_step (I := fun p past => Routed p (provisioned past))
      (fun _ _ _ _ hs ht => hs.step ht) ⟨hw.everywhere, hw.nodeID⟩ h
  obtain ⟨hplace, hclient⟩ := hrouted.everywhere.rows id c hget
  obtain rfl : c.id = id := Table.key_of_get hget
  refine ⟨⟨c.nodeID, hplace⟩, fun k hk => ?_⟩
  obtain rfl : c.nodeID = k := hone c.id c.nodeID k hplace hk
  exact World.containerNode_of_get hget hclient

end

/-- Two nodes without containers, and an empty store. -/
def twoNodes : World :=
  { emptyWorld with
    nodes := ["node-1", "node-2"]
    nodes_nodup := twoNodes_nodup }

/-- A container is provisioned on the second node, and hibernated. -/
def provisionHibernate : List (PoolLabel Request Answer) :=
  [.spawn (.provisionContainer { id := "ctr_1", profile := { nodeID := "node-2" } }), .step 0 {},
    .step 0 {}, .spawn (.hibernate "ctr_1"), .step 1 {}, .step 1 {}, .step 1 {}]

theorem provisionHibernate_places :
    provisioned (history (Pool.step activityMachine) ⟨twoNodes, []⟩ provisionHibernate) =
      [("ctr_1", "node-2")] := by
  decide +kernel

/-- After the hibernation, the container is still reached through the second node. -/
theorem provisionHibernate_node : ∃ p c,
    exec (Pool.step activityMachine) ⟨twoNodes, []⟩ provisionHibernate = some p ∧
      p.shared.store.containers.get "ctr_1" = some c ∧ c.state = .hibernating ∧
        p.shared.containerNode .ok "ctr_1" = .ok (c, "node-2") := by
  have hw : Unused twoNodes := ⟨rfl, fun _ => rfl, fun _ => rfl⟩
  have hone : OneNode
      (provisioned (history (Pool.step activityMachine) ⟨twoNodes, []⟩ provisionHibernate)) := by
    intro id k k' hk hk'
    rw [provisionHibernate_places, List.mem_singleton] at hk hk'
    exact (Prod.mk.inj hk).2.trans (Prod.mk.inj hk').2.symm
  refine ⟨_, _, rfl, rfl, rfl, (containerNode_provisioned hw rfl hone "ctr_1" _ rfl).2 "node-2" ?_⟩
  rw [provisionHibernate_places]
  exact List.mem_singleton_self _

end Workflows
end Agentd
