/-
# The path of a run in the stream of its prompt

What `Manager.Prompt` (`runtime/supervisor/manager.go`) says about a run from item to item.  The
run and its event have the number of the item, counted in 64 bits, the ids and the input are those that the prompt
began with, and the states are a path in the table of `control/state.go` that begins with
`dispatching` and ends where the item is final (`prompt_stream_shape`).  If `session/prompt` is
turned down, the stream is one final item with a failed run.

The events of the agent have no part in this but for the final one: their types, flags and texts
are arbitrary, and a channel that was closed gives events without a type.
-/

import Agentd.Supervisor.ItemStreams

namespace Agentd
namespace Supervisor

open Control Concurrency Acp

/-- The item has the ids and the input of the `Prompt` that began with `b`. -/
structure OfPrompt (b : PromptStart) (item : PromptStreamItem) : Prop where
  run : RunOf b item.run
  input : item.run.input = b.req.input

/-- Item number `n` of the `Prompt` that began with `b`, with its run. -/
structure Numbered (b : PromptStart) (n : ℕ) (item : PromptStreamItem) : Prop
    extends OfPrompt b item where
  eventSessionID : item.event.sessionID = b.sess.id
  eventRunID : item.event.runID = b.runID
  eventSequence : item.event.sequence = Int64.ofNat (n + 1)
  runSequence : item.run.sequence = Int64.ofNat (n + 1)
  counted : n + 1 < 2 ^ 63 → item.event.sequence.toInt = n + 1 ∧ item.run.sequence.toInt = n + 1
  terminal : item.run.state.isTerminal = item.final

/-- The states follow one another from `dispatching` on. -/
def RunPath (states : List RunState) : Prop :=
  (RunState.dispatching :: states).IsChain fun s t => validateRunTransition s t = .ok ()

/-- The items that the `Prompt` that began with `b` may have sent. -/
inductive Shape (b : PromptStart) : List PromptStreamItem → Prop
  | rejected (item : PromptStreamItem) (hreport : item.IsReport) (hitem : OfPrompt b item) :
      Shape b [item]
  | path (items : List PromptStreamItem)
      (hitems : ∀ n item, items[n]? = some item → Numbered b n item)
      (hfinal : ∀ n item, items[n]? = some item → item.final = true → n + 1 = items.length)
      (hpath : RunPath (items.map fun item => item.run.state)) : Shape b items

/-- The run of the `Prompt` has its number and its input, and so have the items. -/
structure Prompt.Tallied (b : PromptStart) (p : Prompt) : Prop where
  sequence : p.run.sequence = p.seq
  input : p.run.input = b.req.input
  items : ∀ item ∈ p.items, item.run.sequence = item.event.sequence ∧
    item.run.input = b.req.input

section

variable {a a' : AgentHandle} {b : PromptStart} {p p' : Prompt} {l : PromptLabel}

theorem PromptStart.tallied (b : PromptStart) : b.prompt.Tallied b where
  sequence := rfl
  input := rfl
  items item hitem := by simp [Prompt.items, PromptStart.prompt] at hitem

theorem Prompt.nextRun_sequence (p : Prompt) (event : StreamEvent) (now : Time) :
    (p.nextRun event now).sequence = p.seq + 1 := by
  unfold Prompt.nextRun
  split_ifs <;> rfl

theorem Prompt.nextRun_input (p : Prompt) (event : StreamEvent) (now : Time) :
    (p.nextRun event now).input = p.run.input := by
  unfold Prompt.nextRun
  split_ifs <;> rfl

/-- **A step of a `Prompt`** keeps the number and the input of the run. -/
theorem Prompt.Step.tallied (hstep : p.Step a l a' p') (hs : p.Streaming b) (h : p.Tallied b) :
    p'.Tallied b := by
  rcases hstep.makes with ⟨-, -, hrun, hseq, hitems⟩ | ⟨err, now, hpc, rfl⟩ | ⟨event, now, hpc, rfl⟩
  · refine ⟨?_, ?_, fun item hmem => h.items item (hitems hmem)⟩
    · rw [hrun, hseq]
      exact h.sequence
    · rw [hrun]
      exact h.input
  · -- no event has been received yet
    have hseq : p.seq = 0 := by
      rw [Prompt.Streaming, hpc] at hs
      exact hs.2
    have hzero : p.run.sequence = 0 := h.sequence.trans hseq
    exact ⟨h.sequence, h.input, p.forall_sent_concat h.items ⟨hzero, h.input⟩⟩
  · have hnumber := p.nextRun_sequence event now
    have hinput := (p.nextRun_input event now).trans h.input
    exact ⟨hnumber, hinput, p.forall_sent_concat h.items ⟨hnumber, hinput⟩⟩

end

section

variable {s : RunState}

theorem validateRunTransition_reported {t : RunState} (hs : s = .dispatching ∨ s = .streaming)
    (ht : IsReported t) : validateRunTransition s t = .ok () := by
  rw [validateRunTransition_eq_ok]
  rcases hs with rfl | rfl <;> rcases ht with rfl | rfl | rfl | rfl <;> decide

theorem isChain_of_streaming (hs : s = .dispatching ∨ s = .streaming) {states : List RunState}
    {last : RunState} (hstates : ∀ t ∈ states, t = .streaming) (hlast : IsReported last) :
    (s :: (states ++ [last])).IsChain fun s t => validateRunTransition s t = .ok () := by
  induction states generalizing s with
  | nil => exact .cons_cons (validateRunTransition_reported hs hlast) (.singleton _)
  | cons t rest ih =>
      obtain rfl := hstates t List.mem_cons_self
      rw [List.cons_append, List.isChain_cons_cons]
      refine ⟨validateRunTransition_reported hs (Or.inl rfl), ih (Or.inr rfl) ?_⟩
      exact fun t ht => hstates t (List.mem_cons_of_mem _ ht)

end

section

variable {b : PromptStart} {items : List PromptStreamItem}

theorem Relayed.streaming (hitems : Relayed b items) (hopen : Open items)
    (hreports : ∀ item ∈ items, Reports b item) :
    ∀ item ∈ items, item.run.state = .streaming := by
  intro item hmem
  obtain ⟨n, hn⟩ := List.mem_iff_getElem?.1 hmem
  have hterminal := (hitems n item hn).ended
  rw [hopen item hmem] at hterminal
  rcases (hreports item hmem).state with h | h | h | h
  · exact h
  all_goals
    rw [h] at hterminal
    cases hterminal

/-- The states of items of which only the last can be final. -/
theorem Relayed.runPath_concat {last : PromptStreamItem} (hitems : Relayed b items)
    (hopen : Open items) (hreports : ∀ item ∈ items ++ [last], Reports b item) :
    RunPath ((items ++ [last]).map fun item => item.run.state) := by
  have hstreaming := hitems.streaming hopen fun item hmem =>
    hreports item (List.mem_append_left _ hmem)
  rw [List.map_append, List.map_singleton]
  refine isChain_of_streaming (Or.inl rfl) ?_
    (hreports last (List.mem_append_right _ (List.mem_singleton_self _))).state
  intro t ht
  obtain ⟨item, hmem, rfl⟩ := List.mem_map.1 ht
  exact hstreaming item hmem

/-- An item of the stream, with what the other invariants say of it. -/
theorem Relays.numbered {n : ℕ} {item : PromptStreamItem} (h : Relays b n item)
    (hreports : Reports b item)
    (htally : item.run.sequence = item.event.sequence ∧ item.run.input = b.req.input) :
    Numbered b n item where
  run := hreports.run
  input := htally.2
  eventSessionID := h.sessionID
  eventRunID := h.runID
  eventSequence := h.sequence
  runSequence := htally.1.trans h.sequence
  counted hn := ⟨h.toInt_sequence hn, htally.1 ▸ h.toInt_sequence hn⟩
  terminal := h.ended

/-- **The shape of a stream**, from what the invariants say of its items. -/
theorem Streams.shape (h : Streams b items) (hreports : ∀ item ∈ items, Reports b item)
    (htally : ∀ item ∈ items, item.run.sequence = item.event.sequence ∧
      item.run.input = b.req.input) : Shape b items := by
  have hnumbered (hitems : Relayed b items) : ∀ n item, items[n]? = some item →
      Numbered b n item := by
    intro n item hn
    have hmem := List.mem_of_getElem? hn
    exact (hitems n item hn).numbered (hreports item hmem) (htally item hmem)
  cases h with
  | refused item hreport hid =>
      have hmem := List.mem_singleton_self item
      exact .rejected item hreport ⟨(hreports item hmem).run, (htally item hmem).2⟩
  | relayed _ hitems hopen =>
      refine .path items (hnumbered hitems) ?_ ?_
      · intro n item hn hfinal
        rw [hopen item (List.mem_of_getElem? hn)] at hfinal
        cases hfinal
      · rcases List.eq_nil_or_concat items with rfl | ⟨init, last, rfl⟩
        · exact .singleton _
        · rw [List.concat_eq_append] at hitems hopen hreports ⊢
          have hpre : init <+: init ++ [last] := List.prefix_append ..
          exact (hitems.beginning hpre).runPath_concat (hopen.beginning hpre) hreports
  | ended init last hitems hopen hlast =>
      refine .path _ (hnumbered hitems) ?_ ?_
      · intro n item hn hfinal
        rcases getElem?_concat_cases hn with ⟨rfl, -⟩ | hn
        · rw [List.length_append, List.length_singleton]
        · rw [hopen item (List.mem_of_getElem? hn)] at hfinal
          cases hfinal
      · exact (hitems.beginning (List.prefix_append ..)).runPath_concat hopen hreports

end

/-- **The shape of the stream of a prompt.**  A request begins a `Prompt` at an agent, which and
whose other `Prompt`s have done and do as they like: any events arrive, `session/prompt` ends in
any way, and the context ends or a send fails at any time.  Then what the `Prompt` has sent is
one final item with a failed run; or it is numbered from one, with the ids and the input of the
request, only its last item can be final, and the states of its runs are a path from
`dispatching` that is in a terminal state where the item is final. -/
theorem prompt_stream_shape {q₁ q : Pool AgentHandle Prompt} {l₁ l₂ : List HandleLabel}
    {b : PromptStart} (h₁ : exec handleStep freshHandle l₁ = some q₁)
    (h : exec handleStep freshHandle (l₁ ++ .prompts (.spawn b) :: l₂) = some q) :
    ∃ p, q.threads[q₁.threads.length]? = some p ∧ Shape b p.sent := by
  obtain ⟨p, hp, hbegan, hstreaming, htallied⟩ :=
    prompt_spawned (P := fun p => p.Began b ∧ p.Streaming b ∧ p.Tallied b)
      (fun _ _ _ _ _ hs hp =>
        ⟨hs.began hp.1, hs.streaming hp.2.1 hp.1, hs.tallied hp.2.1 hp.2.2⟩)
      ⟨b.began, b.streaming, b.tallied⟩ h₁ h
  refine ⟨p, hp, hstreaming.streams.shape hbegan.of_sent fun item hmem => ?_⟩
  exact htallied.items item (p.sent_subset_items hmem)

/-- A prompt that the agent answers with a chunk and its end. -/
def answeredPrompt : List HandleLabel :=
  [promptStep 0 .subscribe, promptStep 0 (.answered none 1), .route (chunk "sess_1" "run_1"),
    promptStep 0 (.recv 2), promptStep 0 (.sent none), .route (completed "sess_1" "run_1"),
    promptStep 0 (.recv 3), promptStep 0 (.sent none)]

/-- The two items of the answered prompt have the shape. -/
theorem answeredPrompt_shape : ∃ q p,
    exec handleStep freshHandle (startPrompt "sess_1" "run_1" :: answeredPrompt) = some q ∧
      q.threads[0]? = some p ∧
        p.sent.map (fun item => item.run.state) = [.streaming, .completed] ∧
          Shape { sess := session "sess_1", req := { sessionID := "sess_1", runID := "run_1" } }
            p.sent := by
  have h₁ : exec handleStep freshHandle [] = some freshHandle := rfl
  have h : exec handleStep freshHandle ([] ++ startPrompt "sess_1" "run_1" :: answeredPrompt) =
      some _ := rfl
  obtain ⟨p, hp, hshape⟩ := prompt_stream_shape h₁ h
  refine ⟨_, p, rfl, hp, ?_, hshape⟩
  obtain rfl := Option.some.inj hp
  rfl

end Supervisor
end Agentd
