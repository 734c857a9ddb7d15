/-
# What a node replies to `Prompt`

`Runner.Prompt` returns the run of an item that it has received, the final one or, when the
stream breaks off, the last.  The items are those that `Manager.Prompt` has sent, as many of
them as arrive.  So the run that a node replies has the id of the request and is under way
or has ended (`PromptReply.reported`): `dispatching`, in which a run begins, is never
replied.
-/

import Agentd.NodeRuntime.RemotePrompt
import Agentd.Supervisor.PromptItems

namespace Agentd
namespace NodeRuntime

open Control Concurrency Supervisor

/-- A run that a node can reply to the request: a supervisor serves it with a `Prompt` `p`,
some of whose items arrive, and `Runner.Prompt` returns the run. -/
inductive PromptReply (req : PromptRequest) (run : Run) : Prop
  | intro {l : List HandleLabel} {q : Pool AgentHandle Supervisor.Prompt}
      (hexec : exec handleStep freshHandle l = some q) (p : Supervisor.Prompt)
      (hp : p ∈ q.threads) (hreq : p.runID = req.runID) {σ : Type} (publish : Publish σ) (s : σ)
      (items : List PromptStreamItem) (err : Err) (hitems : items <+: p.sent)
      (hrun : (Runner.prompt publish (.ok (items, err)) s).2 = .ok run)

section

variable {σ : Type*} {publish : Publish σ}

/-- The loop of `Runner.Prompt` returns the run of an item, or the one it began with when that
has an id. -/
theorem promptLoop_eq_ok {items : List PromptStreamItem} {err : Err} {final run : Run} {s : σ}
    (h : (promptLoop (Runner.onItem publish) items err final s).2 = .ok run) :
    (run = final ∧ final.id ≠ "") ∨ ∃ item ∈ items, item.run = run := by
  induction items generalizing final s with
  | nil =>
      have hbreak : onBreak final err = .ok run := h
      unfold onBreak at hbreak
      split_ifs at hbreak with hid
      exact Or.inl ⟨(Except.ok.inj hbreak).symm, hid⟩
  | cons item items ih =>
      rw [promptLoop, Runner.onItem] at h
      cases hev : publish.event s item.event with
      | mk s' err' =>
          rw [hev] at h
          cases err' with
          | some e => cases h
          | none =>
              simp only [Runner.afterItem] at h
              by_cases hfinal : item.final = true
              · rw [if_pos hfinal] at h
                exact Or.inr ⟨item, List.mem_cons_self .., Except.ok.inj h⟩
              · rw [if_neg hfinal] at h
                rcases ih h with ⟨rfl, -⟩ | ⟨item', hitem', hrun⟩
                · exact Or.inr ⟨item, List.mem_cons_self .., rfl⟩
                · exact Or.inr ⟨item', List.mem_cons_of_mem item hitem', hrun⟩

/-- **`Runner.Prompt` returns the run of an item.** -/
theorem Runner.prompt_eq_ok {items : List PromptStreamItem} {err : Err} {run : Run} {s : σ}
    (h : (Runner.prompt publish (.ok (items, err)) s).2 = .ok run) :
    ∃ item ∈ items, item.run = run := by
  rcases promptLoop_eq_ok h with ⟨-, hid⟩ | hitem
  · exact absurd rfl hid
  · exact hitem

end

/-- **What a node replies is a report on the run of the request.** -/
theorem PromptReply.reported {req : PromptRequest} {run : Run} (h : PromptReply req run) :
    run.id = req.runID ∧ IsReported run.state := by
  obtain ⟨hexec, p, hp, hreq, publish, s, items, err, hitems, hrun⟩ := h
  obtain ⟨item, hitem, rfl⟩ := Runner.prompt_eq_ok hrun
  obtain ⟨b, hb⟩ := prompt_items_report hexec p hp
  have hrep := hb.of_sent item (hitems.subset hitem)
  exact ⟨hrep.run.id.trans (hb.runID.symm.trans hreq), hrep.state⟩

/-- A run that a node can reply when `Manager.Prompt` has begun with `b`: some of the items of
that `Prompt` arrive, and `Runner.Prompt` returns the run. -/
inductive RunReply (b : PromptStart) (run : Run) : Prop
  | intro {l₁ l₂ : List HandleLabel} {q₁ q : Pool AgentHandle Supervisor.Prompt}
      (h₁ : exec handleStep freshHandle l₁ = some q₁)
      (hexec : exec handleStep freshHandle (l₁ ++ .prompts (.spawn b) :: l₂) = some q)
      (p : Supervisor.Prompt) (hp : q.threads[q₁.threads.length]? = some p) {σ : Type}
      (publish : Publish σ) (s : σ) (items : List PromptStreamItem) (err : Err)
      (hitems : items <+: p.sent)
      (hrun : (Runner.prompt publish (.ok (items, err)) s).2 = .ok run)

/-- **What a node replies to a `Prompt` is a run of what the `Prompt` began with.** -/
theorem RunReply.runOf {b : PromptStart} {run : Run} (h : RunReply b run) : RunOf b run := by
  obtain ⟨h₁, hexec, p, hp, publish, s, items, err, hitems, hrun⟩ := h
  obtain ⟨item, hitem, rfl⟩ := Runner.prompt_eq_ok hrun
  obtain ⟨p', hp', hb⟩ := prompt_spawned_began h₁ hexec
  obtain rfl := Option.mem_unique hp hp'
  exact (hb.of_sent item (hitems.subset hitem)).run

/-- What a node replies to a `Prompt` is a reply to every request with its run id. -/
theorem RunReply.promptReply {b : PromptStart} {run : Run} {req : PromptRequest}
    (h : RunReply b run) (hreq : b.runID = req.runID) : PromptReply req run := by
  obtain ⟨h₁, hexec, p, hp, publish, s, items, err, hitems, hrun⟩ := h
  obtain ⟨p', hp', hb⟩ := prompt_spawned_began h₁ hexec
  obtain rfl := Option.mem_unique hp hp'
  exact .intro hexec p (List.mem_of_getElem? hp) (hb.runID.trans hreq) publish s items err hitems
    hrun

/-- A session of an agent, as its manager replies it. -/
def openedSession : Session :=
  { id := "sess_1", containerID := "ctr_1", agentInstanceID := "agent_1", state := .active,
    createdAt := 3, updatedAt := 3 }

/-- A `Prompt` of that session. -/
def openedPrompt : PromptStart :=
  { containerID := "ctr_1", sess := openedSession
    req := { sessionID := "sess_1", runID := "run_1" } }

/-- The run of that `Prompt` when it has completed. -/
def completedRun : Run :=
  { id := "run_1", sessionID := "sess_1", containerID := "ctr_1", agentInstanceID := "agent_1",
    state := .completed, completedAt := some 2, sequence := 1 }

/-- The agent accepts the prompt and sends the final event. -/
def agentCompletes : List HandleLabel :=
  [promptStep 0 .subscribe, promptStep 0 (.answered none 1), .route (completed "sess_1" "run_1"),
    promptStep 0 (.recv 2), promptStep 0 (.sent none), promptStep 0 .unsubscribe]

theorem completedRun_reply : RunReply openedPrompt completedRun := by
  obtain ⟨q, hq, hreply⟩ := Option.bind_eq_some_iff.1
    (show ((exec handleStep freshHandle
          ([] ++ .prompts (.spawn openedPrompt) :: agentCompletes)).bind fun q =>
        q.threads[0]?.map fun p =>
          (Runner.prompt (none : Publish Unit) (.ok (p.sent, .other "EOF")) ()).2) =
      some (.ok completedRun) from rfl)
  obtain ⟨p, hp, hrun⟩ := Option.map_eq_some_iff.1 hreply
  have hfresh : exec handleStep freshHandle [] = some freshHandle := rfl
  exact .intro hfresh hq p hp none () p.sent _ List.prefix_rfl hrun

end NodeRuntime
end Agentd
