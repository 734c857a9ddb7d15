/-
# The stream of items of a prompt

What the items that `Manager.Prompt` sends look like as a stream.  Either `session/prompt` has
failed, and the only item is the final report of that, without an event; or the items are
numbered from one, each with an event of the run, and only the last of them can be final
(`Arrives.streams`).  An event whose type is `completed`, `cancelled` or `failed` always comes
in a final item, but a final item need not have such an event: the agent can set `Final` on an
event of any type.

A receiver gets a beginning of this stream, so the description is one of all beginnings.
-/

import Agentd.Control.State
import Agentd.Supervisor.PromptItems
import Mathlib.Algebra.Group.Nat.Defs

namespace Agentd
namespace Supervisor

open Control Concurrency Acp

/-- The types of the events that close a run for those who read its events. -/
def isClosing (type : String) : Bool :=
  type = "completed" || type = "cancelled" || type = "failed"

/-- Item number `n` of the `Prompt` that began with `b`, when the agent has accepted it. -/
structure Relays (b : PromptStart) (n : ℕ) (item : PromptStreamItem) : Prop where
  sessionID : item.event.sessionID = b.sess.id
  runID : item.event.runID = b.runID
  sequence : item.event.sequence = Int64.ofNat (n + 1)
  id : item.run.id = b.runID
  closing : isClosing item.event.type = true → item.final = true
  ended : item.run.state.isTerminal = item.final

/-- The items are numbered from one. -/
def Relayed (b : PromptStart) (items : List PromptStreamItem) : Prop :=
  ∀ n item, items[n]? = some item → Relays b n item

/-- No item is final. -/
def Open (items : List PromptStreamItem) : Prop := ∀ item ∈ items, item.final = false

/-- A beginning of the stream of the `Prompt` that began with `b`. -/
inductive Streams (b : PromptStart) : List PromptStreamItem → Prop
  | refused (item : PromptStreamItem) (hitem : item.IsReport) (hid : item.run.id = b.runID) :
      Streams b [item]
  | relayed (items : List PromptStreamItem) (hitems : Relayed b items) (hopen : Open items) :
      Streams b items
  | ended (items : List PromptStreamItem) (last : PromptStreamItem)
      (hitems : Relayed b (items ++ [last])) (hopen : Open items) (hlast : last.final = true) :
      Streams b (items ++ [last])

/-- The events of the items, without those that have no type. -/
def eventsOf (items : List PromptStreamItem) : List Event :=
  (items.filter fun item => item.event.type ≠ "").map fun item => item.event

/-- What the place of a `Prompt` says about the items that went out. -/
def Prompt.Streaming (b : PromptStart) (p : Prompt) : Prop :=
  match p.pc with
  | .subscribe | .clientPrompt => p.sent = [] ∧ p.seq = 0
  | .sendFailed item => p.sent = [] ∧ item.IsReport ∧ item.run.id = b.runID
  | .select => Relayed b p.sent ∧ Open p.sent ∧ p.seq = Int64.ofNat p.sent.length
  | .send item =>
      Relayed b (p.sent ++ [item]) ∧ Open p.sent ∧ p.seq = Int64.ofNat (p.sent.length + 1)
  | .unsubscribe _ | .returned _ => Streams b p.sent

section

variable {b : PromptStart} {items items' : List PromptStreamItem} {item : PromptStreamItem}

theorem Relayed.nil (b : PromptStart) : Relayed b [] := by
  intro n item h
  cases h

theorem Relayed.concat (h : Relayed b items) (hitem : Relays b items.length item) :
    Relayed b (items ++ [item]) := by
  intro n item' hn
  rcases getElem?_concat_cases hn with ⟨rfl, rfl⟩ | hn
  · exact hitem
  · exact h n item' hn

theorem Relayed.beginning (h : Relayed b items) (hpre : items' <+: items) : Relayed b items' := by
  intro n item' hn
  have hlt := (List.getElem?_eq_some_iff.1 hn).1
  exact h n item' ((List.prefix_iff_getElem?.1 hpre n hlt).trans
    ((List.getElem?_eq_getElem hlt).symm.trans hn))

theorem Open.nil : Open [] := by
  intro item h
  cases h

theorem Open.concat (h : Open items) (hitem : item.final = false) : Open (items ++ [item]) := by
  intro item' hmem
  rcases List.mem_append.1 hmem with hmem | hmem
  · exact h item' hmem
  · exact List.mem_singleton.1 hmem ▸ hitem

theorem Open.beginning (h : Open items) (hpre : items' <+: items) : Open items' :=
  fun item hmem => h item (hpre.subset hmem)

/-- **A beginning of a stream is a beginning of a stream.** -/
theorem Streams.beginning (h : Streams b items) (hpre : items' <+: items) : Streams b items' := by
  cases h with
  | refused item hitem hid =>
      rcases List.prefix_concat_iff.1 (show items' <+: [] ++ [item] from hpre) with rfl | hpre
      · exact .refused item hitem hid
      · obtain rfl := List.prefix_nil.1 hpre
        exact .relayed [] (Relayed.nil b) Open.nil
  | relayed _ hitems hopen => exact .relayed items' (hitems.beginning hpre) (hopen.beginning hpre)
  | ended items last hitems hopen hlast =>
      rcases List.prefix_concat_iff.1 hpre with rfl | hpre
      · exact .ended items last hitems hopen hlast
      · exact .relayed items' ((hitems.beginning (List.prefix_append ..)).beginning hpre)
          (hopen.beginning hpre)

theorem Streams.id (h : Streams b items) (hmem : item ∈ items) : item.run.id = b.runID := by
  cases h with
  | refused item hitem hid => exact List.mem_singleton.1 hmem ▸ hid
  | relayed _ hitems =>
      obtain ⟨n, hn⟩ := List.mem_iff_getElem?.1 hmem
      exact (hitems n item hn).id
  | ended items last hitems =>
      obtain ⟨n, hn⟩ := List.mem_iff_getElem?.1 hmem
      exact (hitems n item hn).id

theorem Streams.terminal (h : Streams b items) (hmem : item ∈ items) :
    item.run.state.isTerminal = item.final := by
  cases h with
  | refused item hitem hid =>
      obtain rfl := List.mem_singleton.1 hmem
      rw [hitem.run, hitem.final]
      rfl
  | relayed _ hitems =>
      obtain ⟨n, hn⟩ := List.mem_iff_getElem?.1 hmem
      exact (hitems n item hn).ended
  | ended items last hitems =>
      obtain ⟨n, hn⟩ := List.mem_iff_getElem?.1 hmem
      exact (hitems n item hn).ended

theorem eventsOf_append (items items' : List PromptStreamItem) :
    eventsOf (items ++ items') = eventsOf items ++ eventsOf items' := by
  simp [eventsOf]

theorem Streams.relays_of_mem {event : Event} (h : Streams b items) (hmem : event ∈ eventsOf items) :
    ∃ n item, items[n]? = some item ∧ Relays b n item ∧ item.event = event := by
  obtain ⟨item, hitem, rfl⟩ := List.mem_map.1 hmem
  obtain ⟨hitem, htype⟩ := List.mem_filter.1 hitem
  cases h with
  | refused item' hreport hid =>
      obtain rfl := List.mem_singleton.1 hitem
      rw [hreport.event] at htype
      simp at htype
  | relayed _ hitems =>
      obtain ⟨n, hn⟩ := List.mem_iff_getElem?.1 hitem
      exact ⟨n, item, hn, hitems n item hn, rfl⟩
  | ended items last hitems =>
      obtain ⟨n, hn⟩ := List.mem_iff_getElem?.1 hitem
      exact ⟨n, item, hn, hitems n item hn, rfl⟩

theorem Streams.runID {event : Event} (h : Streams b items) (hmem : event ∈ eventsOf items) :
    event.runID = b.runID := by
  obtain ⟨n, item, -, hrelays, rfl⟩ := h.relays_of_mem hmem
  exact hrelays.runID

/-- The number of an item, as long as the counter has not wrapped. -/
theorem Relays.toInt_sequence {n : ℕ} (h : Relays b n item) (hn : n + 1 < 2 ^ 63) :
    item.event.sequence.toInt = n + 1 := by
  rw [h.sequence, Int64.toInt_ofNat_of_lt hn]
  rfl

theorem Relayed.pairwise (h : Relayed b items) (hlen : items.length < 2 ^ 63) :
    items.Pairwise fun x y => x.event.sequence < y.event.sequence := by
  refine List.pairwise_iff_getElem.2 fun i j hi hj hij => ?_
  have hx := (h i _ (List.getElem?_eq_getElem hi)).toInt_sequence (by omega)
  have hy := (h j _ (List.getElem?_eq_getElem hj)).toInt_sequence (by omega)
  rw [Int64.lt_iff_toInt_lt, hx, hy]
  omega

/-- **The events of a stream have increasing numbers**, as long as the counter has not wrapped. -/
theorem Streams.sequences (h : Streams b items) (hlen : items.length < 2 ^ 63) :
    (eventsOf items).Pairwise fun e e' => e.sequence < e'.sequence := by
  have hpair : items.Pairwise fun x y => x.event.sequence < y.event.sequence := by
    cases h with
    | refused item => exact List.pairwise_singleton ..
    | relayed _ hitems => exact hitems.pairwise hlen
    | ended items last hitems => exact hitems.pairwise hlen
  exact List.pairwise_map.2 (hpair.filter _)

/-- **Only the last event of a stream can be a closing one.** -/
theorem Streams.closing_last (h : Streams b items) :
    (eventsOf items).Pairwise fun e _ => isClosing e.type = false := by
  -- an event before another is in an item that is not final
  have hopen {l : List PromptStreamItem} (hl : Open l) (hitems : Relayed b l) :
      ∀ item ∈ l, isClosing item.event.type = false := by
    intro item hitem
    obtain ⟨n, hn⟩ := List.mem_iff_getElem?.1 hitem
    refine Bool.eq_false_iff.2 fun hclosing => ?_
    have hfinal := (hitems n item hn).closing hclosing
    rw [hl item hitem] at hfinal
    cases hfinal
  have hpair : items.Pairwise fun x _ => isClosing x.event.type = false := by
    cases h with
    | refused item => exact List.pairwise_singleton ..
    | relayed _ hitems hl => exact List.pairwise_of_forall_mem_list fun x hx _ _ => hopen hl hitems x hx
    | ended items last hitems hl =>
        have hbefore := hopen hl (hitems.beginning (List.prefix_append ..))
        refine List.pairwise_append.2 ⟨?_, List.pairwise_singleton .., fun x hx _ _ => hbefore x hx⟩
        exact List.pairwise_of_forall_mem_list fun x hx _ _ => hbefore x hx
  exact List.pairwise_map.2 (hpair.filter _)

/-- The numbers begin with one, or with two when the first item has an event without a type. -/
theorem Streams.sequence_pos {event : Event} (h : Streams b items) (hlen : items.length < 2 ^ 63)
    (hmem : event ∈ eventsOf items) :
    1 ≤ event.sequence ∧
      ((∀ item ∈ items.head?, item.event.type = "") → 2 ≤ event.sequence) := by
  obtain ⟨n, item, hn, hrelays, rfl⟩ := h.relays_of_mem hmem
  have htype : item.event.type ≠ "" := by
    obtain ⟨item', hitem', heq⟩ := List.mem_map.1 hmem
    have := (List.mem_filter.1 hitem').2
    rw [← heq]
    simpa using this
  have hlt := (List.getElem?_eq_some_iff.1 hn).1
  have hseq := hrelays.toInt_sequence (by omega)
  have htwo : (2 : Int64).toInt = 2 := rfl
  rw [Int64.le_iff_toInt_le, Int64.le_iff_toInt_le, hseq, Int64.toInt_one, htwo]
  refine ⟨by omega, fun hfirst => ?_⟩
  cases n with
  | zero =>
      rw [← List.head?_eq_getElem?] at hn
      exact (htype (hfirst item hn)).elim
  | succ n => omega

end

section

variable {a a' : AgentHandle} {b : PromptStart} {p p' : Prompt} {l : PromptLabel}

theorem PromptStart.streaming (b : PromptStart) : b.prompt.Streaming b := ⟨rfl, rfl⟩

theorem isTerminal_finalState (event : StreamEvent) : (finalState event).isTerminal = true := by
  unfold finalState
  split_ifs <;> rfl

theorem isTerminal_nextRun (p : Prompt) (event : StreamEvent) (now : Time) :
    (p.nextRun event now).state.isTerminal = endsRun event := by
  unfold Prompt.nextRun
  dsimp only
  split_ifs with h
  · rw [h]
    exact isTerminal_finalState event
  · rw [Bool.eq_false_iff.2 h]
    rfl

theorem endsRun_of_isClosing {event : StreamEvent} (h : isClosing event.type = true) :
    endsRun event = true := by
  simp only [isClosing, Bool.or_eq_true, decide_eq_true_eq] at h
  simp only [endsRun, Bool.or_eq_true, decide_eq_true_eq]
  tauto

theorem Prompt.Began.relays (hb : p.Began b) (hseq : p.seq = Int64.ofNat p.sent.length)
    (event : StreamEvent) (now : Time) : Relays b p.sent.length (p.item event now) where
  sessionID := congrArg Session.id hb.sess
  runID := hb.runID
  sequence := by
    show p.seq + 1 = _
    rw [hseq]
    exact (Int64.ofNat_add _ 1).symm
  id := (hb.nextRun event now).1.id
  closing := endsRun_of_isClosing
  ended := isTerminal_nextRun p event now

theorem Prompt.Streaming.receive (hs : p.Streaming b) (hb : p.Began b) (hpc : p.pc = .select)
    (event : StreamEvent) (now : Time) : (p.receive event now).Streaming b := by
  rw [Prompt.Streaming, hpc] at hs
  obtain ⟨hitems, hopen, hseq⟩ := hs
  refine ⟨hitems.concat (hb.relays hseq event now), hopen, ?_⟩
  exact (hb.relays hseq event now).sequence

/-- **A step of a `Prompt`** keeps the form of its stream. -/
theorem Prompt.Step.streaming (hstep : p.Step a l a' p') (hs : p.Streaming b) (hb : p.Began b) :
    p'.Streaming b := by
  cases hstep with
  | subscribe hpc =>
      rw [Prompt.Streaming, hpc] at hs
      exact hs
  | accepted hpc =>
      rw [Prompt.Streaming, hpc] at hs
      obtain ⟨hsent, hseq⟩ := hs
      show Relayed b p.sent ∧ Open p.sent ∧ p.seq = Int64.ofNat p.sent.length
      rw [hsent, hseq]
      exact ⟨Relayed.nil b, Open.nil, rfl⟩
  | refused hpc err now =>
      rw [Prompt.Streaming, hpc] at hs
      exact ⟨hs.1, ⟨rfl, rfl, rfl⟩, hb.run.id⟩
  | reported item hpc err =>
      rw [Prompt.Streaming, hpc] at hs
      obtain ⟨hsent, hitem, hid⟩ := hs
      show Streams b (if err.isNone then p.sent ++ [item] else p.sent)
      rw [hsent]
      split_ifs
      · exact .refused item hitem hid
      · exact .relayed [] (Relayed.nil b) Open.nil
  | ctxDone hpc err =>
      rw [Prompt.Streaming, hpc] at hs
      exact .relayed p.sent hs.1 hs.2.1
  | recv ch ch' event hpc hch hrecv now => exact hs.receive hb hpc event now
  | recvClosed ch hpc hch hrecv now => exact hs.receive hb hpc {} now
  | sendError item hpc err =>
      rw [Prompt.Streaming, hpc] at hs
      exact .relayed p.sent (hs.1.beginning (List.prefix_append ..)) hs.2.1
  | sent item hpc =>
      rw [Prompt.Streaming, hpc] at hs
      obtain ⟨hitems, hopen, hseq⟩ := hs
      unfold Prompt.Streaming
      cases hfinal : item.final with
      | true => exact .ended p.sent item hitems hopen hfinal
      | false =>
          refine ⟨hitems, hopen.concat hfinal, ?_⟩
          show p.seq = Int64.ofNat (p.sent ++ [item]).length
          rw [hseq, List.length_append]
          rfl
  | unsubscribe a' res hpc ha =>
      rw [Prompt.Streaming, hpc] at hs
      exact hs

theorem Prompt.Streaming.streams (hs : p.Streaming b) : Streams b p.sent := by
  unfold Prompt.Streaming at hs
  split at hs
  · exact hs.1 ▸ .relayed [] (Relayed.nil b) Open.nil
  · exact hs.1 ▸ .relayed [] (Relayed.nil b) Open.nil
  · exact hs.1 ▸ .relayed [] (Relayed.nil b) Open.nil
  · exact .relayed p.sent hs.1 hs.2.1
  · exact .relayed p.sent (hs.1.beginning (List.prefix_append ..)) hs.2.1
  · exact hs
  · exact hs

end

/-- What can have arrived of the items that the `Prompt` of a request has sent: the agent and its
other `Prompt`s do as they like, before and after the request. -/
inductive Arrives (b : PromptStart) (items : List PromptStreamItem) : Prop
  | intro {l₁ l₂ : List HandleLabel} {q₁ q : Pool AgentHandle Prompt}
      (h₁ : exec handleStep freshHandle l₁ = some q₁)
      (hexec : exec handleStep freshHandle (l₁ ++ .prompts (.spawn b) :: l₂) = some q)
      (p : Prompt) (hp : q.threads[q₁.threads.length]? = some p) (hitems : items <+: p.sent)

/-- **The stream of a prompt.**  What arrives of the items of a `Prompt` is a beginning of a
stream. -/
theorem Arrives.streams {b : PromptStart} {items : List PromptStreamItem} (h : Arrives b items) :
    Streams b items := by
  obtain ⟨h₁, hexec, p, hp, hitems⟩ := h
  obtain ⟨p', hp', -, hs⟩ := prompt_spawned (P := fun p => p.Began b ∧ p.Streaming b)
    (fun _ _ _ _ _ hs hp => ⟨hs.began hp.1, hs.streaming hp.2 hp.1⟩) ⟨b.began, b.streaming⟩ h₁ hexec
  obtain rfl := Option.mem_unique hp hp'
  exact hs.streams.beginning hitems

end Supervisor
end Agentd
