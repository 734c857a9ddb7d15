/-
# What the activities work on

The fields of `Activities` in `workflows/activities.go`: the metadata store, the
clients of the nodes, each reaching the `Runner` of its node, and the broker, of
which the list of published events is kept.

An activity waits at every call it makes.  An `Answer` is what it then meets:
the clock, the random text of `NewID`, whether the call went through, and the
reply of a supervisor where there is one.  A call can fail without effect, and
it can fail after it took effect (a connection that breaks on the way back, a
directory that cannot be removed after its container is gone).
-/

import Agentd.Store.Memory
import Agentd.NodeRuntime.Runner
import Mathlib.Logic.Function.Basic

namespace Agentd
namespace Workflows

open Control Store NodeRuntime

/-- The store, the nodes and the broker.  `nodes` are the keys of
`Activities.Nodes`; the client under a key reaches the runner of that key, which runs on the
host of that key. -/
structure World where
  store : MemoryStore := {}
  nodes : List String
  nodes_nodup : nodes.Nodup
  runner : String → Runner
  published : List Event := []
  host : String → Host := fun _ => {}

/-- How a call ends. -/
inductive Outcome
  | ok
  | fail (e : Err)
  | failAfter (e : Err)
  deriving DecidableEq

/-- What a supervisor sends back, where a call gets that far. -/
inductive Reply
  | none
  | agent (a : AgentInstance)
  | session (s : Session)
  | run (r : Run)
  | event (e : Event)

/-- What an activity meets at a call. -/
structure Answer where
  now : Time := 0
  raw : String := ""
  outcome : Outcome := .ok
  reply : Reply := .none

/-- The call took effect. -/
def Outcome.took : Outcome → Bool
  | .fail _ => false
  | _ => true

/-- The error the caller sees. -/
def Outcome.err : Outcome → Option Err
  | .ok => none
  | .fail e | .failAfter e => some e

namespace World

/-- A store method that changes the store. -/
def write (w : World) (o : Outcome) (f : MemoryStore → MemoryStore) : World :=
  if o.took then { w with store := f w.store } else w

/-- A call of the client under key `k`. -/
def call {β : Type} (w : World) (k : String) (o : Outcome) (f : Runner → Runner × Except Err β) :
    World × Except Err β :=
  (if o.took then { w with runner := Function.update w.runner k (f (w.runner k)).1 } else w,
    match o.err with
    | some e => .error e
    | none => (f (w.runner k)).2)

/-- `Activities.publish`: an event without a time gets the current one. -/
def publish (w : World) (o : Outcome) (now : Time) (event : Event) : World :=
  let event := if event.time = 0 then { event with time := now } else event
  if o.took then { w with published := w.published ++ [event] } else w

/-- `Activities.node`, as the key of the client it returns: the client of that
node, or the only client there is. -/
def node (w : World) (nodeID : String) : Except Err String :=
  if nodeID ≠ "" ∧ nodeID ∈ w.nodes then .ok nodeID
  else
    match w.nodes with
    | [k] => .ok k
    | _ => .error (.nodeNotConfigured nodeID)

/-- `Activities.containerNode`: a read of the store, which may fail, and the
client of the node the row names. -/
def containerNode (w : World) (o : Outcome) (containerID : String) :
    Except Err (Container × String) :=
  match o.err with
  | some e => .error e
  | none => do
      let container ← w.store.getContainer containerID
      let node ← w.node container.nodeID
      return (container, node)

/-- The world in which one node hosts one container and the store has its row. -/
def hosting (container : Container) : World where
  store := MemoryStore.upsertContainer {} container
  nodes := [container.nodeID]
  nodes_nodup := List.nodup_singleton _
  runner := fun k => { nodeID := k, containers := Table.empty.upsert { container } }

theorem write_store (w : World) (o : Outcome) (f : MemoryStore → MemoryStore) :
    (w.write o f).store = if o.took then f w.store else w.store := by
  unfold write; split_ifs <;> rfl

@[simp] theorem publish_store (w : World) (o : Outcome) (now : Time) (e : Event) :
    (w.publish o now e).store = w.store := by
  unfold publish; split_ifs <;> rfl

@[simp] theorem call_store {β : Type} (w : World) (k : String) (o : Outcome)
    (f : Runner → Runner × Except Err β) : (w.call k o f).1.store = w.store := by
  unfold call; dsimp only; split_ifs <;> rfl

theorem call_eq_ok {β : Type} {w : World} {k : String} {o : Outcome}
    {f : Runner → Runner × Except Err β} {b : β} (h : (w.call k o f).2 = .ok b) :
    (f (w.runner k)).2 = .ok b := by
  cases o with
  | ok => exact h
  | fail e => cases h
  | failAfter e => cases h

theorem node_congr {w w' : World} (h : w'.nodes = w.nodes) (nodeID : String) :
    w'.node nodeID = w.node nodeID := by
  unfold node; rw [h]

theorem node_self {w : World} {nodeID k : String} (h : w.node nodeID = .ok k) :
    w.node k = .ok k := by
  unfold node at h
  split_ifs at h with hmem
  · obtain rfl := Except.ok.inj h
    exact if_pos hmem
  · split at h
    · next k' hnodes =>
        obtain rfl := Except.ok.inj h
        unfold node
        rw [hnodes]
        split_ifs <;> rfl
    · cases h

/-- `containerNode` returns the stored row and the client of the row's node. -/
theorem containerNode_eq_ok {w : World} {o : Outcome} {containerID k : String}
    {container : Container} (h : w.containerNode o containerID = .ok (container, k)) :
    w.store.containers.get containerID = some container ∧ w.node container.nodeID = .ok k := by
  unfold containerNode MemoryStore.getContainer at h
  cases ho : o.err with
  | some e =>
      rw [ho] at h
      cases h
  | none =>
      rw [ho] at h
      cases hc : w.store.containers.get containerID with
      | none =>
          rw [hc] at h
          cases h
      | some c =>
          rw [hc] at h
          cases hn : w.node c.nodeID with
          | error e =>
              simp only [MemoryStore.found, bind, Except.bind, hn] at h
              cases h
          | ok n =>
              simp only [MemoryStore.found, bind, Except.bind, hn, pure, Except.pure,
                Except.ok.injEq, Prod.mk.injEq] at h
              obtain ⟨rfl, rfl⟩ := h
              exact ⟨rfl, hn⟩

/-- The row of a container and the client of its node are what `containerNode` returns. -/
theorem containerNode_of_get {w : World} {containerID k : String} {container : Container}
    (hget : w.store.containers.get containerID = some container)
    (hnode : w.node container.nodeID = .ok k) :
    w.containerNode .ok containerID = .ok (container, k) := by
  simp only [containerNode, Outcome.err, MemoryStore.getContainer, hget, MemoryStore.found, bind,
    Except.bind, hnode, pure, Except.pure]

theorem node_hosting (container : Container) (nodeID : String) :
    (hosting container).node nodeID = .ok container.nodeID := by
  unfold node
  split_ifs with h
  · rw [List.mem_singleton.1 h.2]
  · rfl

end World

/-- One node without containers, and an empty store. -/
def emptyWorld : World where
  nodes := ["node-1"]
  nodes_nodup := List.nodup_singleton _
  runner := fun k => newRunner k "/var/agentd"

theorem twoNodes_nodup : ["node-1", "node-2"].Nodup := by
  decide

/-- A container as `ProvisionContainer` leaves it. -/
def readyContainer : Container :=
  { id := "ctr_1", nodeID := "node-1", state := .ready, capacity := 4 }

/-- A session of that container that waits for input. -/
def waitingSession : Session :=
  { id := "sess_1", containerID := "ctr_1", agentInstanceID := "agent_1", state := .waitingInput }

/-- The world in which a ready container serves one session. -/
def World.serving (sess : Session) : World :=
  { World.hosting readyContainer with
    store := (World.hosting readyContainer).store.upsertSession sess }

/-- A request to install the bundle with the given digest. -/
def installRequest (digest : String) : InstallAgentRequest :=
  { containerID := "ctr_1", plan := { agent := { id := "echo" }, bundle := { digest } } }

/-- The node's answer to such a request. -/
def installed (digest : String) : Answer :=
  { reply := .agent { id := "agent_" ++ digest, bundleDigest := digest, state := .ready } }

end Workflows
end Agentd
