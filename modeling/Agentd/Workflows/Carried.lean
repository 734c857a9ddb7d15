/-
# What the activities carry along

The row of a container is written by several activities, each from a copy that it has read, or
from what a node has answered.  None of them changes more of the container than its state, its
bundles and the time of the change, so the rest of a row is what the runner wrote when the
container was provisioned.

`Activity.held` is the container that an activity holds and that the row it writes next carries.
A step that obtains one has it from a row, from a node or from a runner that has just
provisioned it (`Obtained`).  `Everywhere.call` is the rule that follows: a property that is
carried along and holds of every new container holds of all rows, of all handles of the nodes
and of all containers that activities hold.
-/

import Agentd.Workflows.Site

namespace Agentd
namespace Workflows

open Control Store NodeRuntime Concurrency

/-- The activities begin: no container is stored, no node has one, and the client under a key
reaches a runner whose node id is that key. -/
structure Unused (w : World) : Prop where
  rows : w.store.containers = .empty
  nodeID : ∀ k, (w.runner k).nodeID = k
  handles : ∀ k, (w.runner k).containers = .empty

/-- The container that an activity holds and that the row it writes carries. -/
def Activity.held : Activity → Option Container
  | .provision (.upsertContainer c) => some c
  | .container (.ensureAgent (.nodeEnsureAgent _ c _)) => some c
  | .container (.ensureAgent (.upsertAgentInstance _ c _)) => some c
  | .container (.ensureAgent (.upsertContainer _ c _)) => some c
  | .container (.hibernate (.upsertContainer _ updated)) => some updated
  | .container (.delete (.nodeDelete _ c _)) => some c
  | .container (.delete (.upsertContainer c)) => some c
  | _ => none

/-- Where an activity has a container from after a call. -/
inductive Obtained (w : World) (a : Answer) (x : Activity) : Container → Prop
  | held (c : Container) (h : x.held = some c) : Obtained w a x c
  | read (c : Container) (id : String) (h : w.store.containers.get id = some c) : Obtained w a x c
  | answered (c : Container) (k id : String) (hd : ContainerHandle)
      (hget : (w.runner k).containers.get id = some hd) (hcarries : Carries c hd.container) :
      Obtained w a x c
  | provisioned (req : CreateContainerRequest) (k : String)
      (hx : x = .provision (.nodeProvision req)) (hnode : w.node req.profile.nodeID = .ok k)
      (ho : a.outcome = .ok) :
      Obtained w a x ((w.runner k).newHandle (w.host k) req a.raw a.now).container

/-- Every row, every handle of a node and every container that an activity holds has the
property. -/
structure Everywhere (P : Container → Prop) (p : Pool World Activity) : Prop where
  rows : ∀ id c, p.shared.store.containers.get id = some c → P c
  handles : ∀ k id hd, (p.shared.runner k).containers.get id = some hd → P hd.container
  held : ∀ (i : ℕ) (x : Activity), p.threads[i]? = some x → ∀ c, x.held = some c → P c

section

variable {w w' : World} {a : Answer} {x x' : Activity} {c : Container}

theorem Activity.written_held (h : x.writes a = some (.container c)) :
    ∃ d, x.held = some d ∧ Carries c d := by
  cases x with
  | provision x =>
      cases x with
      | upsertContainer d =>
          cases h
          exact ⟨c, rfl, rfl⟩
      | nodeProvision | appendAudit | returned => cases h
  | openSession x => cases x <;> cases h
  | container x =>
      cases x with
      | ensureAgent x =>
          cases x with
          | upsertContainer req d agent =>
              cases h
              exact ⟨d, rfl, rfl⟩
          | containerNode | nodeEnsureAgent | upsertAgentInstance | appendAudit | returned =>
              cases h
      | hibernate x =>
          cases x with
          | upsertContainer d updated =>
              cases h
              exact ⟨updated, rfl, rfl⟩
          | containerNode | nodeHibernate | returned => cases h
      | delete x =>
          cases x with
          | upsertContainer d =>
              cases h
              exact ⟨d, rfl, rfl⟩
          | containerNode | nodeDelete | returned => cases h
  | session x =>
      cases x with
      | prompt x => cases x <;> cases h
      | cancel x => cases x <;> cases h

/-- **A call of an activity**: the container it then holds is one it held, or one it has just
obtained. -/
theorem Activity.Next.held (h : x.Next w a x') (hc : x'.held = some c) : Obtained w a x c := by
  cases h with
  | provision h =>
      cases h with
      | provisioned req k hnode ho =>
          cases hc
          exact .provisioned req k rfl hnode ho
      | failed | notStored | stored | audited => cases hc
  | openSession h => cases hc
  | ensureAgent h =>
      cases h with
      | read req d k hget =>
          cases hc
          exact .read c req.containerID hget
      | ensured | added => exact .held c hc
      | notRead | failed | notStored | known | digested | audited => cases hc
  | hibernate h =>
      cases h with
      | hibernated id d k hd ho hget =>
          cases hc
          exact .answered _ k id hd hget rfl
      | notRead | read | failed | notStored | stored => cases hc
  | delete h =>
      cases h with
      | read id d k hget =>
          cases hc
          exact .read c id hget
      | deleted => exact .held c hc
      | notRead | failed | notStored | stored => cases hc
  | prompt h => cases hc
  | cancel h => cases hc

theorem Request.start_held (req : Request) : req.start.held = none := by
  cases req <;> rfl

end

section

variable {P P' : Container → Prop} {p : Pool World Activity}

/-- **A call of an activity**: what was true everywhere, is carried along and holds of the
container that the call provisions is true everywhere after it. -/
theorem Everywhere.call {i : ℕ} {a : Answer} {x x' : Activity} {w' : World} (h : Everywhere P p)
    (hcarry : ∀ c d, Carries c d → P d → P' c)
    (hnew : ∀ req k, x = .provision (.nodeProvision req) →
      p.shared.node req.profile.nodeID = .ok k → a.outcome.took = true →
      P' ((p.shared.runner k).newHandle (p.shared.host k) req a.raw a.now).container)
    (hx : p.threads[i]? = some x) (hstep : x.step p.shared a = some (w', x')) :
    Everywhere P' ⟨w', p.threads.set i x'⟩ := by
  obtain ⟨hnext, hstore⟩ := Activity.step_spec hstep
  have hkeep : ∀ {c}, P c → P' c := fun {c} => hcarry c c (Carries.refl c)
  refine ⟨fun id c hget => ?_, fun k id hd hget => ?_, fun j y hy c hc => ?_⟩
  · -- a row was there, or it is written from what the activity holds
    rw [hstore, stored_containers] at hget
    rcases storedIn_cases hget with hold | ⟨hrow, -, -⟩
    · exact hkeep (h.rows id c hold)
    · obtain ⟨d, hd, hcarries⟩ := Activity.written_held (RowKind.containers.eq hrow)
      exact hcarry c d hcarries (h.held i x hx d hd)
  · rw [(Activity.step_moved hstep).runner] at hget
    rcases Activity.nodes_get hget with ⟨hd₀, hold, hcarries⟩ | ⟨req, hreq, hnode, ht, rfl⟩
    · exact hcarry _ _ hcarries (h.handles k id hd₀ hold)
    · exact hnew req k hreq hnode ht
  · rcases getElem?_set_cases hy with ⟨rfl, rfl⟩ | ⟨-, hold⟩
    · cases hnext.held hc with
      | held _ hx' => exact hkeep (h.held _ _ hx c hx')
      | read _ id hget => exact hkeep (h.rows id c hget)
      | answered _ k id hd hget hcarries => exact hcarry _ _ hcarries (h.handles k id hd hget)
      | provisioned req k hreq hnode ho => exact hnew req k hreq hnode (by rw [ho]; rfl)
    · exact hkeep (h.held j y hold c hc)

theorem Unused.everywhere {w : World} (h : Unused w) : Everywhere P ⟨w, []⟩ where
  rows id c hget := by
    rw [h.rows] at hget
    cases hget
  handles k id hd hget := by
    rw [h.handles k] at hget
    cases hget
  held i x hx := by cases hx

theorem Everywhere.spawn (h : Everywhere P p) (req : Request) :
    Everywhere P ⟨p.shared, p.threads ++ [req.start]⟩ := by
  refine ⟨h.rows, h.handles, fun j y hy c hc => ?_⟩
  rcases getElem?_concat_cases hy with ⟨-, rfl⟩ | hold
  · rw [Request.start_held] at hc
    cases hc
  · exact h.held j y hold c hc

end

end Workflows
end Agentd
