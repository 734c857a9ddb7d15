/-
# What the items of a prompt say of its run

Every item that a `Prompt` sends has a copy of its run.  In all of them the id is the run
id of the `Prompt`, which is not empty, the session, the container and the agent instance
are those it began with, and the state is that of a run that is under way or has ended
(`prompt_items_report`).  The state `dispatching`, in which the run begins, is never sent.
-/

import Agentd.Supervisor.AgentHandle

namespace Agentd
namespace Supervisor

open Control Concurrency Acp

/-- The run is that of the `Prompt` that began with `b`. -/
structure RunOf (b : PromptStart) (run : Run) : Prop where
  id : run.id = b.runID
  sessionID : run.sessionID = b.sess.id
  containerID : run.containerID = b.containerID
  agentInstanceID : run.agentInstanceID = b.sess.agentInstanceID

/-- The states in which a run is sent. -/
def IsReported (state : RunState) : Prop :=
  state = .streaming ∨ state = .completed ∨ state = .cancelled ∨ state = .failed

/-- The item reports on the run of the `Prompt` that began with `b`. -/
structure Reports (b : PromptStart) (item : PromptStreamItem) : Prop where
  run : RunOf b item.run
  state : IsReported item.run.state

/-- The `Prompt` began with `b`, and its items report on its run. -/
structure Prompt.Began (b : PromptStart) (p : Prompt) : Prop where
  sess : p.sess = b.sess
  runID : p.runID = b.runID
  run : RunOf b p.run
  items : ∀ item ∈ p.items, Reports b item

theorem PromptStart.runID_ne_empty (b : PromptStart) : b.runID ≠ "" := by
  unfold PromptStart.runID
  split_ifs with h
  · exact newID_ne_empty _ _
  · exact h

theorem PromptStart.began (b : PromptStart) : b.prompt.Began b where
  sess := rfl
  runID := rfl
  run := ⟨rfl, rfl, rfl, rfl⟩
  items item hitem := by simp [Prompt.items, PromptStart.prompt] at hitem

section

variable {a a' : AgentHandle} {b : PromptStart} {p p' : Prompt} {l : PromptLabel}

theorem isReported_finalState (event : StreamEvent) : IsReported (finalState event) := by
  unfold finalState IsReported
  split_ifs <;> simp

/-- The run after an event is still that of the `Prompt`, in a state that is sent. -/
theorem Prompt.Began.nextRun (h : p.Began b) (event : StreamEvent) (now : Time) :
    RunOf b (p.nextRun event now) ∧ IsReported (p.nextRun event now).state := by
  unfold Prompt.nextRun
  split_ifs
  · exact ⟨⟨h.run.id, h.run.sessionID, h.run.containerID, h.run.agentInstanceID⟩,
      isReported_finalState event⟩
  · exact ⟨⟨h.run.id, h.run.sessionID, h.run.containerID, h.run.agentInstanceID⟩, Or.inl rfl⟩

theorem Prompt.Began.of_sent (h : p.Began b) : ∀ item ∈ p.sent, Reports b item :=
  fun item hmem => h.items item (p.sent_subset_items hmem)

/-- What a step does to the run and the items of a `Prompt`: nothing, but for an item that may
not have gone out; `session/prompt` has failed, and the report is made; or an event is received,
and its item is made. -/
theorem Prompt.Step.makes (hs : p.Step a l a' p') :
    (p'.sess = p.sess ∧ p'.runID = p.runID ∧ p'.run = p.run ∧ p'.seq = p.seq ∧
        p'.items ⊆ p.items) ∨
      (∃ err now, p.pc = .clientPrompt ∧ p' = p.failed err now) ∨
        ∃ event now, p.pc = .select ∧ p' = p.receive event now := by
  cases hs with
  | subscribe | accepted | ctxDone | sendError | unsubscribe =>
      exact Or.inl ⟨rfl, rfl, rfl, rfl, p.sent_subset_items⟩
  | refused hpc err now => exact Or.inr (Or.inl ⟨err, now, hpc, rfl⟩)
  | reported item hpc err =>
      refine Or.inl ⟨rfl, rfl, rfl, rfl, ?_⟩
      rw [show p.items = p.sent ++ [item] by rw [Prompt.items, hpc]]
      cases err with
      | none => exact List.Subset.refl _
      | some err => exact List.subset_append_left _ _
  | recv ch ch' event hpc hch hrecv now => exact Or.inr (Or.inr ⟨event, now, hpc, rfl⟩)
  | recvClosed ch hpc hch hrecv now => exact Or.inr (Or.inr ⟨{}, now, hpc, rfl⟩)
  | sent item hpc =>
      refine Or.inl ⟨rfl, rfl, rfl, rfl, ?_⟩
      rw [show p.items = p.sent ++ [item] by rw [Prompt.items, hpc]]
      cases item.final <;> simp [Prompt.items]

/-- What holds of the items of a `Prompt`, and of one more, holds of all of them. -/
theorem Prompt.forall_sent_concat (p : Prompt) {P : PromptStreamItem → Prop}
    {item : PromptStreamItem} (h : ∀ item ∈ p.items, P item) (hitem : P item) :
    ∀ item' ∈ p.sent ++ [item], P item' := by
  intro item' hmem
  rcases List.mem_append.1 hmem with hsent | hnew
  · exact h item' (p.sent_subset_items hsent)
  · exact List.mem_singleton.1 hnew ▸ hitem

/-- **A step of a `Prompt`** adds only items that report on its run. -/
theorem Prompt.Step.began (hs : p.Step a l a' p') (h : p.Began b) : p'.Began b := by
  rcases hs.makes with ⟨hsess, hid, hrun, -, hitems⟩ | ⟨err, now, hpc, rfl⟩ | ⟨event, now, hpc, rfl⟩
  · exact ⟨hsess.trans h.sess, hid.trans h.runID, hrun ▸ h.run, fun item hmem =>
      h.items item (hitems hmem)⟩
  · have hrun : RunOf b (p.failed err now).run :=
      ⟨h.run.id, h.run.sessionID, h.run.containerID, h.run.agentInstanceID⟩
    exact ⟨h.sess, h.runID, hrun,
      p.forall_sent_concat h.items ⟨hrun, Or.inr (Or.inr (Or.inr rfl))⟩⟩
  · obtain ⟨hrun, hstate⟩ := h.nextRun event now
    exact ⟨h.sess, h.runID, hrun, p.forall_sent_concat h.items ⟨hrun, hstate⟩⟩

end

/-- **The items of a prompt report on its run.**  In every run of an agent, each `Prompt`
has begun with some session, container and run id, and every item it has sent or is
about to send has them, and a run that is under way or has ended. -/
theorem prompt_items_report {q : Pool AgentHandle Prompt} {l : List HandleLabel}
    (h : exec handleStep freshHandle l = some q) (p : Prompt) (hp : p ∈ q.threads) :
    ∃ b, p.Began b := by
  refine exec_invariant_of_step
    (I := fun q : Pool AgentHandle Prompt => ∀ p ∈ q.threads, ∃ b, p.Began b) ?_ ?_ h p hp
  · intro q l q' hq hstep p hp
    obtain ⟨i, hi⟩ := List.mem_iff_getElem?.1 hp
    cases l with
    | route event =>
        obtain ⟨a, -, rfl⟩ := Option.map_eq_some_iff.1 hstep
        exact hq p hp
    | prompts l =>
        have hpool : q.step promptMachine l = some q' := hstep
        cases l with
        | spawn b =>
            obtain ⟨t, ht, rfl⟩ := Pool.step_spawn.1 hpool
            rcases getElem?_concat_cases hi with ⟨-, rfl⟩ | hi
            · exact ⟨b, Option.some.inj ht ▸ b.began⟩
            · exact hq p (List.mem_of_getElem? hi)
        | step j l =>
            obtain ⟨t, a', t', ht, hrun, rfl⟩ := Pool.step_run.1 hpool
            rcases getElem?_set_cases hi with ⟨rfl, rfl⟩ | ⟨-, hi⟩
            · obtain ⟨b, hb⟩ := hq t (List.mem_of_getElem? ht)
              exact ⟨b, (Prompt.step_spec hrun).began hb⟩
            · exact hq p (List.mem_of_getElem? hi)
  · intro p hp
    cases hp

/-- A `Prompt` is still there after a step, with all that the steps of a `Prompt` keep. -/
theorem Prompt.stays {P : Prompt → Prop}
    (hP : ∀ a l a' (p p' : Prompt), p.Step a l a' p' → P p → P p')
    {q q' : Pool AgentHandle Prompt} {l : HandleLabel} {p : Prompt} {n : ℕ} (h : P p)
    (hn : q.threads[n]? = some p) (hstep : handleStep q l = some q') :
    ∃ p', q'.threads[n]? = some p' ∧ P p' := by
  cases l with
  | route event =>
      obtain ⟨a, -, rfl⟩ := Option.map_eq_some_iff.1 hstep
      exact ⟨p, hn, h⟩
  | prompts l =>
      have hpool : q.step promptMachine l = some q' := hstep
      cases l with
      | spawn b' =>
          obtain ⟨t, -, rfl⟩ := Pool.step_spawn.1 hpool
          exact ⟨p, getElem?_append_of_some _ hn, h⟩
      | step j l =>
          obtain ⟨t, a', t', ht, hrun, rfl⟩ := Pool.step_run.1 hpool
          by_cases hj : j = n
          · subst hj
            obtain rfl := Option.mem_unique hn ht
            exact ⟨t', getElem?_set_of_some t' hn, hP _ _ _ _ _ (Prompt.step_spec hrun) h⟩
          · exact ⟨p, (List.getElem?_set_ne hj).trans hn, h⟩

/-- **The `Prompt` that a request begins** is there from then on, with all that the steps of a
`Prompt` keep. -/
theorem prompt_spawned {P : Prompt → Prop}
    (hP : ∀ a l a' (p p' : Prompt), p.Step a l a' p' → P p → P p')
    {q₁ q : Pool AgentHandle Prompt} {l₁ l₂ : List HandleLabel} {b : PromptStart}
    (hb : P b.prompt) (h₁ : exec handleStep freshHandle l₁ = some q₁)
    (h : exec handleStep freshHandle (l₁ ++ .prompts (.spawn b) :: l₂) = some q) :
    ∃ p, q.threads[q₁.threads.length]? = some p ∧ P p := by
  obtain ⟨q₁', h₁', hrest⟩ := exec_append_eq_some.1 h
  obtain rfl := Option.mem_unique h₁ h₁'
  obtain ⟨q₂, hspawn, hrest⟩ := exec_cons_eq_some.1 hrest
  obtain ⟨t, ht, rfl⟩ := Pool.step_spawn.1 (show q₁.step promptMachine _ = some q₂ from hspawn)
  obtain rfl := Option.some.inj ht
  refine exec_invariant_of_step
    (I := fun q => ∃ p, q.threads[q₁.threads.length]? = some p ∧ P p) ?_ ?_ hrest
  · rintro q l q' ⟨p, hn, hp⟩ hstep
    exact Prompt.stays hP hp hn hstep
  · exact ⟨b.prompt, List.getElem?_concat_length, hb⟩

/-- The items of the `Prompt` that a request begins report on its run. -/
theorem prompt_spawned_began {q₁ q : Pool AgentHandle Prompt} {l₁ l₂ : List HandleLabel}
    {b : PromptStart} (h₁ : exec handleStep freshHandle l₁ = some q₁)
    (h : exec handleStep freshHandle (l₁ ++ .prompts (.spawn b) :: l₂) = some q) :
    ∃ p, q.threads[q₁.threads.length]? = some p ∧ p.Began b :=
  prompt_spawned (fun _ _ _ _ _ hs hp => hs.began hp) b.began h₁ h

end Supervisor
end Agentd
