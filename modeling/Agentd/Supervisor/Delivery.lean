/-
# The events a `Prompt` delivers

The events of a run pass through a channel of 64 slots.  The reader offers and
never waits, so an event that finds 64 unread ones is dropped; the `Prompt` takes
events out only in its loop, that is after the agent has answered
`session/prompt` and while no item is on its way to the stream.

`delivered_of_healthy` is what remains: the items of a `Prompt` carry the events
that found a free slot, in order and without a gap, up to the first final one
among them, and with that one the `Prompt` returns.  So nothing is lost while
fewer than 64 events are unread.  A `Prompt` whose final event finds no slot has
sent everything there is and waits (`burst_loses_final`).

The invariant `Fed` is the law of the feed, `taken ++ unread = kept 64 arrived`, with
`taken` read off the items and the place of the `Prompt` in its loop.
-/

import Agentd.Supervisor.AgentHandle

namespace Agentd
namespace Supervisor

open Control Concurrency Acp

/-- The context and the stream are as they should be: the context does not end
and the stream takes the item. -/
def PromptLabel.healthy : PromptLabel → Bool
  | .ctxDone _ | .sent (some _) => false
  | _ => true

/-- `Prompt` number `i` has the run id `rid` and no other has, and its context and its
stream stay healthy. -/
def Healthy (i : ℕ) (rid : String) (p : Pool AgentHandle Prompt) : HandleLabel → Prop
  | .prompts (.spawn b) => b.runID = rid ↔ p.threads.length = i
  | .prompts (.step j l) => j = i → l.healthy = true
  | .route _ => True

instance (i : ℕ) (rid : String) (p : Pool AgentHandle Prompt) : DecidablePred (Healthy i rid p)
  | .prompts (.spawn _) => inferInstanceAs (Decidable (_ ↔ _))
  | .prompts (.step _ _) => inferInstanceAs (Decidable (_ → _))
  | .route _ => inferInstanceAs (Decidable True)

/-- The number of events that a `Prompt` has not read yet. -/
def AgentHandle.unread (a : AgentHandle) (c : Prompt) : ℕ :=
  a.chans[c.events]?.elim 0 fun ch => ch.buf.length

/-- An event for the run `rid` that the reader hands over while `Prompt` number `i` is
subscribed, with the number of unread events it finds. -/
def arrival (i : ℕ) (rid : String) (p : Pool AgentHandle Prompt) :
    HandleLabel → List (StreamEvent × ℕ)
  | .prompts _ => []
  | .route event =>
      match p.threads[i]? with
      | some c =>
          if event.runID = rid ∧ c.subscribed = true then [(event, p.shared.unread c)] else []
      | none => []

/-- All of them in a history, in order. -/
def arrivals (i : ℕ) (rid : String) (past : List (Pool AgentHandle Prompt × HandleLabel)) :
    List (StreamEvent × ℕ) :=
  past.flatMap fun x => arrival i rid x.1 x.2

/-- The last of these events, and no other, ends the run. -/
def Ended (taken : List StreamEvent) : Prop :=
  ∃ before last, taken = before ++ [last] ∧ (∀ e ∈ before, endsRun e = false) ∧ endsRun last = true

/-- What the place of a `Prompt` in its loop says about the events it has taken. -/
def Prompt.AtLoop (c : Prompt) (taken : List StreamEvent) : Prop :=
  match c.pc with
  | .clientPrompt => taken = []
  | .select => ∀ e ∈ taken, endsRun e = false
  | .send _ => ∃ before last, taken = before ++ [last] ∧ ∀ e ∈ before, endsRun e = false
  | .unsubscribe res => res = .ok () ∧ Ended taken
  | _ => False

/-- The only item of the `Prompt` is the report that `session/prompt` has failed. -/
def Prompt.Refused (c : Prompt) : Prop :=
  ∃ item : PromptStreamItem, item.IsReport ∧
    (c.pc = .sendFailed item ∧ c.sent = [] ∨
      (∃ res, c.pc = .unsubscribe res ∨ c.pc = .returned res) ∧ c.sent = [item])

/-- How the items of a `Prompt` relate to the events that arrived for it. -/
inductive FedCall (a : AgentHandle) (c : Prompt) (arrived : List (StreamEvent × ℕ)) : Prop
  | before (hpc : c.pc = .subscribe) (hsent : c.sent = []) (harr : arrived = [])
  | refused (h : c.Refused)
  | running (taken : List StreamEvent) (ch : Chan StreamEvent 64) (hsub : c.subscribed = true)
      (hreg : a.streams.lookup c.runID = some c.events) (hch : a.chans[c.events]? = some ch)
      (hitems : List.Forall₂ (Carries c.sess.id c.runID) c.items taken)
      (hkept : taken ++ ch.buf = kept 64 arrived) (hloop : c.AtLoop taken)
  | ended (taken rest : List StreamEvent) (hpc : c.pc = .returned (.ok ()))
      (hitems : List.Forall₂ (Carries c.sess.id c.runID) c.sent taken) (hend : Ended taken)
      (hkept : taken ++ rest = kept 64 arrived)

/-- The invariant of a healthy run, with the events that arrived so far. -/
structure Fed (i : ℕ) (rid : String) (p : Pool AgentHandle Prompt)
    (arrived : List (StreamEvent × ℕ)) : Prop where
  streams : StreamsOk p
  sole : ∀ (j : ℕ) c, p.threads[j]? = some c → (c.runID = rid ↔ j = i)
  absent : p.threads[i]? = none → arrived = []
  call : ∀ c, p.threads[i]? = some c → FedCall p.shared c arrived

/-- The last entries of two related lists are related, and so are the entries before
them. -/
theorem forall₂_concat {α β : Type*} {R : α → β → Prop} {l : List α} {m : List β} {a : α} {b : β}
    (h : List.Forall₂ R (l ++ [a]) (m ++ [b])) : List.Forall₂ R l m ∧ R a b := by
  have hrev := List.forall₂_reverse_iff.2 h
  rw [List.reverse_concat, List.reverse_concat] at hrev
  obtain ⟨hlast, hbefore⟩ := List.forall₂_cons.1 hrev
  exact ⟨List.forall₂_reverse_iff.1 hbefore, hlast⟩

section

variable {a a' : AgentHandle} {c c' : Prompt} {arrived : List (StreamEvent × ℕ)}

/-- A `Prompt` has no eye on the handle but on its entry and on its channel. -/
theorem FedCall.frame (h : FedCall a c arrived)
    (hs : a'.streams.lookup c.runID = a.streams.lookup c.runID)
    (hch : c.subscribed = true → a.streams.lookup c.runID = some c.events →
      a'.chans[c.events]? = a.chans[c.events]?) : FedCall a' c arrived := by
  cases h with
  | before hpc hsent harr => exact .before hpc hsent harr
  | refused h => exact .refused h
  | running taken ch hsub hreg hget hitems hkept hloop =>
      refine .running taken ch hsub (hs.trans hreg) ?_ hitems hkept hloop
      rw [hch hsub hreg, hget]
  | ended taken rest hpc hitems hend hkept => exact .ended taken rest hpc hitems hend hkept

/-- **An event arrives.**  One for another run changes nothing for the `Prompt`; one
for its run is offered to its channel. -/
theorem FedCall.route {event : StreamEvent} (h : FedCall a c arrived) (ha : a.Ok)
    (hr : a.routeEvent event = some a') :
    FedCall a' c (arrived ++
      if event.runID = c.runID ∧ c.subscribed = true then [(event, a.unread c)] else []) := by
  have hstreams : a'.streams = a.streams := by
    rcases AgentHandle.routeEvent_eq_some hr with ⟨-, rfl⟩ | ⟨n, ch, ch', -, -, -, rfl⟩
    · rfl
    · rfl
  split_ifs with harr
  · obtain ⟨hrun, hsub⟩ := harr
    cases h with
    | before hpc => rw [Prompt.subscribed, hpc] at hsub; cases hsub
    | ended taken rest hpc => rw [Prompt.subscribed, hpc] at hsub; cases hsub
    | refused h => exact .refused h
    | running taken ch _ hreg hget hitems hkept hloop =>
        have hunread : a.unread c = ch.buf.length := by rw [AgentHandle.unread, hget]; rfl
        rcases AgentHandle.routeEvent_eq_some hr with ⟨hnone, -⟩ | ⟨n, d, ch', hn, hd, hoffer, rfl⟩
        · rw [hrun, hreg] at hnone
          cases hnone
        · rw [hrun, hreg] at hn
          obtain rfl := Option.some.inj hn
          obtain rfl := Option.mem_unique hget hd
          refine .running taken ch' hsub hreg (getElem?_set_of_some ch' hget) hitems ?_ hloop
          rw [hunread]
          exact Chan.offer_kept hkept hoffer
  · rw [List.append_nil]
    refine h.frame (by rw [hstreams]) fun hsub hreg => ?_
    rcases AgentHandle.routeEvent_eq_some hr with ⟨-, rfl⟩ | ⟨n, d, ch', hn, -, -, rfl⟩
    · rfl
    · have hne : n ≠ c.events := by
        rintro rfl
        exact harr ⟨ha.injective _ _ _ hn hreg, hsub⟩
      exact List.getElem?_set_ne hne

/-- **The `Prompt` takes a step.** -/
theorem FedCall.step {l : PromptLabel} (h : FedCall a c arrived) (ha : a.Ok)
    (hl : l.healthy = true) (hs : c.Step a l a' c') : FedCall a' c' arrived := by
  cases h with
  | before hpc hsent harr =>
      cases hs with
      | accepted hpc' | refused hpc' | reported _ hpc' | ctxDone hpc' | recv _ _ _ hpc'
      | recvClosed _ hpc' | sendError _ hpc' | sent _ hpc' | unsubscribe _ _ hpc' =>
          rw [hpc] at hpc'
          cases hpc'
      | subscribe =>
          refine .running [] (.make StreamEvent 64) rfl (AList.lookup_insert _)
            List.getElem?_concat_length ?_ ?_ rfl
          · show List.Forall₂ _ c.sent []
            rw [hsent]
            exact .nil
          · rw [harr]
            rfl
  | refused h =>
      obtain ⟨item, hreport, ⟨hpc, hsent⟩ | ⟨⟨res, hpc⟩, hsent⟩⟩ := h
      · cases hs with
        | subscribe hpc' | accepted hpc' | refused hpc' | ctxDone hpc' | recv _ _ _ hpc'
        | recvClosed _ hpc' | sendError _ hpc' | sent _ hpc' | unsubscribe _ _ hpc' =>
            rw [hpc] at hpc'
            cases hpc'
        | reported item' hpc' err =>
            rw [hpc] at hpc'
            obtain rfl := PromptPC.sendFailed.inj hpc'
            cases err with
            | some err => cases hl
            | none =>
                refine .refused ⟨item, hreport, Or.inr ⟨⟨_, Or.inl rfl⟩, ?_⟩⟩
                show c.sent ++ [item] = [item]
                rw [hsent]
                rfl
      · cases hs with
        | subscribe hpc' | accepted hpc' | refused hpc' | ctxDone hpc' | recv _ _ _ hpc'
        | recvClosed _ hpc' | sendError _ hpc' | sent _ hpc' | reported _ hpc' =>
            rw [hpc'] at hpc
            rcases hpc with hpc | hpc <;> cases hpc
        | unsubscribe a'' res' hpc' hu =>
            exact .refused ⟨item, hreport, Or.inr ⟨⟨res', Or.inr rfl⟩, hsent⟩⟩
  | ended taken rest hpc =>
      cases hs with
      | subscribe hpc' | accepted hpc' | refused hpc' | reported _ hpc' | ctxDone hpc'
      | recv _ _ _ hpc' | recvClosed _ hpc' | sendError _ hpc' | sent _ hpc'
      | unsubscribe _ _ hpc' =>
          rw [hpc] at hpc'
          cases hpc'
  | running taken ch hsub hreg hget hitems hkept hloop =>
      cases hs with
      | ctxDone | sendError => cases hl
      | subscribe hpc' => rw [Prompt.subscribed, hpc'] at hsub; cases hsub
      | reported item hpc' => rw [Prompt.AtLoop, hpc'] at hloop; exact hloop.elim
      | accepted hpc' =>
          rw [Prompt.AtLoop, hpc'] at hloop
          rw [Prompt.items, hpc'] at hitems
          subst hloop
          exact .running [] ch rfl hreg hget hitems hkept fun e he => by cases he
      | refused hpc' err now =>
          rw [Prompt.AtLoop, hpc'] at hloop
          rw [Prompt.items, hpc', hloop] at hitems
          exact .refused
            ⟨_, ⟨rfl, rfl, rfl⟩, Or.inl ⟨rfl, List.forall₂_nil_right_iff.1 hitems⟩⟩
      | recv d ch' event hpc' hd hrecv now =>
          rw [Prompt.AtLoop, hpc'] at hloop
          rw [Prompt.items, hpc'] at hitems
          obtain rfl := Option.mem_unique hget hd
          have hbuf := (Chan.recv_eq_value.1 hrecv).1
          refine .running (taken ++ [event]) ch' rfl hreg (getElem?_set_of_some ch' hget) ?_ ?_
            ⟨taken, event, rfl, hloop⟩
          · exact List.rel_append hitems (.cons (c.item_carries event now) .nil)
          · rw [← hkept, hbuf, List.append_assoc]
            rfl
      | recvClosed d hpc' hd hrecv =>
          -- the channel is registered, so it is open
          obtain ⟨d', hd', hopen⟩ := ha.registered _ _ hreg
          obtain rfl := Option.mem_unique hd hd'
          rw [(Chan.recv_eq_closed.1 hrecv).2] at hopen
          cases hopen
      | sent item hpc' =>
          rw [Prompt.AtLoop, hpc'] at hloop
          rw [Prompt.items, hpc'] at hitems
          obtain ⟨before, last, rfl, hbefore⟩ := hloop
          have hlast : item.final = endsRun last := (forall₂_concat hitems).2.final
          cases hfin : endsRun last with
          | true =>
              rw [hlast, hfin]
              exact .running _ ch rfl hreg hget hitems hkept
                ⟨rfl, before, last, rfl, hbefore, hfin⟩
          | false =>
              rw [hlast, hfin]
              refine .running _ ch rfl hreg hget hitems hkept fun e he => ?_
              rcases List.mem_append.1 he with he | he
              · exact hbefore e he
              · rw [List.mem_singleton.1 he, hfin]
      | unsubscribe a'' res hpc' hu =>
          rw [Prompt.AtLoop, hpc'] at hloop
          rw [Prompt.items, hpc'] at hitems
          obtain ⟨rfl, hend⟩ := hloop
          exact .ended taken ch.buf rfl hitems hend hkept

/-- A `Prompt` in its loop is fed by its channel. -/
theorem FedCall.looping (h : FedCall a c arrived)
    (hpc : c.pc = .select ∨ ∃ item, c.pc = .send item) :
    ∃ taken ch, a.chans[c.events]? = some ch ∧
      List.Forall₂ (Carries c.sess.id c.runID) c.items taken ∧
      taken ++ ch.buf = kept 64 arrived ∧ c.AtLoop taken := by
  cases h with
  | before hpc' | ended _ _ hpc' =>
      rw [hpc'] at hpc
      rcases hpc with hpc | ⟨_, hpc⟩ <;> cases hpc
  | refused hr =>
      obtain ⟨item, -, ⟨hpc', -⟩ | ⟨⟨res, hpc' | hpc'⟩, -⟩⟩ := hr
      all_goals
        rw [hpc'] at hpc
        rcases hpc with hpc | ⟨_, hpc⟩ <;> cases hpc
  | running taken ch _ _ hch hitems hkept hloop => exact ⟨taken, ch, hch, hitems, hkept, hloop⟩

end

section

variable {i : ℕ} {rid : String} {p q : Pool AgentHandle Prompt}
  {arrived : List (StreamEvent × ℕ)}

/-- Two `Prompt`s of different runs do not meet: a step of one leaves the entry and
the channel of the other alone. -/
theorem Fed.other (h : Fed i rid p arrived) {j : ℕ} {l : PromptLabel} {a : AgentHandle}
    {c d d' : Prompt} (hj : j ≠ i) (hd : p.threads[j]? = some d) (hc : p.threads[i]? = some c)
    (hs : d.Step p.shared l a d') : FedCall a c arrived := by
  obtain ⟨-, hentry, hchan⟩ := hs.frame
  have hne : c.runID ≠ d.runID := by
    intro heq
    exact hj ((h.sole j d hd).1 (heq ▸ (h.sole i c hc).2 rfl))
  refine (h.call c hc).frame (hentry _ hne) fun hsub hreg => ?_
  refine hchan _ (h.streams.made i c hc hsub) (fun hds heq => ?_) fun hother => ?_
  · exact hj (h.streams.own j i d c hd hc hds hsub heq.symm)
  · exact hne (h.streams.handle.injective _ _ _ hreg hother)

/-- **A step of a healthy run keeps the invariant.** -/
theorem Fed.step {l : HandleLabel} (h : Fed i rid p arrived) (hC : Healthy i rid p l)
    (hq : handleStep p l = some q) : Fed i rid q (arrived ++ arrival i rid p l) := by
  have hstreams := h.streams.step hq
  cases l with
  | route event =>
      obtain ⟨a, ha, rfl⟩ := Option.map_eq_some_iff.1 hq
      refine ⟨hstreams, h.sole, fun hnone => ?_, fun c hc => ?_⟩
      · have hnone' : p.threads[i]? = none := hnone
        rw [h.absent hnone', arrival, hnone']
        rfl
      · have hc' : p.threads[i]? = some c := hc
        have hrid : c.runID = rid := (h.sole i c hc').2 rfl
        rw [arrival, hc', ← hrid]
        exact (h.call c hc').route h.streams.handle ha
  | prompts l =>
      rw [arrival, List.append_nil]
      cases l with
      | spawn b =>
          obtain rfl := handleStep_spawn hq
          refine ⟨hstreams, fun j c hc => ?_, fun hnone => ?_, fun c hc => ?_⟩
          · rcases getElem?_concat_cases hc with ⟨rfl, rfl⟩ | hc
            · exact hC
            · exact h.sole j c hc
          · refine h.absent (List.getElem?_eq_none ?_)
            have hlen := List.getElem?_eq_none_iff.1 hnone
            rw [List.length_append] at hlen
            omega
          · rcases getElem?_concat_cases hc with ⟨hi, rfl⟩ | hc
            · exact .before rfl rfl (h.absent (List.getElem?_eq_none (Nat.le_of_eq hi.symm)))
            · exact h.call c hc
      | step j l =>
          obtain ⟨d, a, d', hd, hs, rfl⟩ := handleStep_step hq
          refine ⟨hstreams, fun k c hc => ?_, fun hnone => ?_, fun c hc => ?_⟩
          · rcases getElem?_set_cases hc with ⟨rfl, rfl⟩ | ⟨-, hc⟩
            · rw [hs.same.2]
              exact h.sole k d hd
            · exact h.sole k c hc
          · refine h.absent (List.getElem?_eq_none ?_)
            have hlen := List.getElem?_eq_none_iff.1 hnone
            rwa [List.length_set] at hlen
          · rcases getElem?_set_cases hc with ⟨rfl, rfl⟩ | ⟨hj, hc⟩
            · exact (h.call d hd).step h.streams.handle (hC rfl) hs
            · exact h.other (Ne.symm hj) hd hc hs

theorem Fed.fresh (i : ℕ) (rid : String) : Fed i rid freshHandle [] where
  streams := .fresh
  sole j c h := by simp [freshHandle] at h
  absent _ := rfl
  call c h := by simp [freshHandle] at h

/-- The invariant holds in every healthy run, for the events of its history. -/
theorem fed_of_healthy {l : List HandleLabel} (hl : Along handleStep (Healthy i rid) freshHandle l)
    (h : exec handleStep freshHandle l = some p) :
    Fed i rid p (arrivals i rid (history handleStep freshHandle l)) := by
  have hinit : Fed i rid freshHandle (arrivals i rid []) := Fed.fresh i rid
  refine exec_invariant_history (I := fun p past => Fed i rid p (arrivals i rid past))
    (fun s past a t hs hC hq => ?_) hinit hl h
  have hnext := hs.step hC hq
  rw [arrivals, List.flatMap_append, List.flatMap_singleton]
  exact hnext

/-- A run in which only `Prompt` number `i` moves, with a healthy context and
stream. -/
def OwnSteps (i : ℕ) (l : List HandleLabel) : Prop :=
  ∀ x ∈ l, ∃ pl : PromptLabel, pl.healthy = true ∧ x = .prompts (.step i pl)

/-- The `Prompt` returns after some steps of its own. -/
def Finishes (i : ℕ) (rid : String) (p : Pool AgentHandle Prompt)
    (arrived : List (StreamEvent × ℕ)) : Prop :=
  ∃ l q c, OwnSteps i l ∧ exec handleStep p l = some q ∧ q.threads[i]? = some c ∧
    c.pc = .returned (.ok ()) ∧ ¬c.Refused ∧ Fed i rid q arrived

/-- A step that the `Prompt` can take, among the others. -/
theorem Fed.advance {pl : PromptLabel} {a : AgentHandle} {c c' : Prompt} (h : Fed i rid p arrived)
    (hc : p.threads[i]? = some c) (hpl : pl.healthy = true)
    (hs : c.step p.shared pl = some (a, c')) :
    ∃ q, handleStep p (.prompts (.step i pl)) = some q ∧ q.threads[i]? = some c' ∧ q.shared = a ∧
      Fed i rid q arrived := by
  have hq := handleStep_of_step hc hs
  have hC : Healthy i rid p (.prompts (.step i pl)) := fun _ => hpl
  have hfed : Fed i rid _ (arrived ++ []) := h.step hC hq
  rw [List.append_nil] at hfed
  exact ⟨_, hq, getElem?_set_of_some c' hc, rfl, hfed⟩

theorem Finishes.cons {pl : PromptLabel} (hpl : pl.healthy = true)
    (hq : handleStep p (.prompts (.step i pl)) = some q) (h : Finishes i rid q arrived) :
    Finishes i rid p arrived := by
  obtain ⟨l, r, c, hl, hr, hc, hfin⟩ := h
  refine ⟨_ :: l, r, c, fun x hx => ?_, by rw [exec_cons, hq]; exact hr, hc, hfin⟩
  rcases List.mem_cons.1 hx with rfl | hx
  · exact ⟨pl, hpl, rfl⟩
  · exact hl x hx

/-- A `Prompt` that has sent its final item unsubscribes and returns. -/
theorem Fed.finishes_unsubscribe {c : Prompt} (h : Fed i rid p arrived)
    (hc : p.threads[i]? = some c) (hpc : c.pc = .unsubscribe (.ok ())) (haccepted : ¬c.Refused) :
    Finishes i rid p arrived := by
  obtain ⟨a, ha⟩ := h.streams.handle.unsubscribe_isSome c.runID
  have hs : c.step p.shared .unsubscribe = some (a, { c with pc := .returned (.ok ()) }) := by
    unfold Prompt.step
    rw [hpc]
    show (p.shared.unsubscribe c.runID).map _ = _
    rw [ha]
    rfl
  obtain ⟨q, hq, hqc, -, hfed⟩ := h.advance hc rfl hs
  have hnil : OwnSteps i [] := fun x hx => absurd hx List.not_mem_nil
  refine .cons rfl hq ⟨[], q, _, hnil, rfl, hqc, rfl, ?_, hfed⟩
  rintro ⟨item, hreport, ⟨hpc', -⟩ | ⟨-, hsent⟩⟩
  · cases hpc'
  · exact haccepted ⟨item, hreport, Or.inr ⟨⟨_, Or.inl hpc⟩, hsent⟩⟩

/-- An item of the loop carries an event, so it is not the report of a failure. -/
theorem FedCall.not_refused {a : AgentHandle} {c : Prompt} {item : PromptStreamItem} {pc : PromptPC}
    (h : FedCall a c arrived) (hpc : c.pc = .send item) :
    ¬Prompt.Refused { c with sent := c.sent ++ [item], pc } := by
  rintro ⟨item', hreport, ⟨-, hsent⟩ | ⟨-, hsent⟩⟩
  · exact List.append_ne_nil_of_right_ne_nil _ (List.cons_ne_nil _ _) hsent
  · obtain ⟨taken, -, -, hitems, -, -⟩ := h.looping (Or.inr ⟨item, hpc⟩)
    have hsent' : c.sent ++ [item] = [item'] := hsent
    rw [Prompt.items, hpc] at hitems
    replace hitems : List.Forall₂ _ (c.sent ++ [item]) taken := hitems
    rw [hsent'] at hitems
    obtain ⟨e, _, hcarries, -, -⟩ := List.forall₂_cons_left_iff.1 hitems
    have hdata := hcarries.data
    rw [hreport.event] at hdata
    cases hdata

/-- **A `Prompt` with an unread final event finishes.**  The induction is on the
unread events: each of them is received and sent, and the final one is among
them. -/
theorem Fed.finishes_select (hfinal : ∃ e ∈ kept 64 arrived, endsRun e = true) :
    ∀ (buf : List StreamEvent) {p : Pool AgentHandle Prompt} {c : Prompt}
      {ch : Chan StreamEvent 64}, Fed i rid p arrived → p.threads[i]? = some c → c.pc = .select →
        p.shared.chans[c.events]? = some ch → ch.buf = buf → Finishes i rid p arrived
  | [], p, c, ch, h, hc, hpc, hch, hbuf => by
      -- all events are taken and none of them is final
      obtain ⟨taken, d, hd, -, hkept, hloop⟩ := (h.call c hc).looping (Or.inl hpc)
      rw [Prompt.AtLoop, hpc] at hloop
      obtain rfl := Option.mem_unique hch hd
      rw [hbuf, List.append_nil] at hkept
      obtain ⟨e, he, hend⟩ := hfinal
      rw [← hkept] at he
      rw [hloop e he] at hend
      cases hend
  | e :: rest, p, c, ch, h, hc, hpc, hch, hbuf => by
      obtain ⟨ch', hrecv⟩ : ∃ ch', ch.recv = .value e ch' := by
        have hrest : rest.length ≤ 64 := by
          have hle := ch.bounded
          rw [hbuf, List.length_cons] at hle
          omega
        exact ⟨⟨rest, ch.closed, hrest⟩, Chan.recv_eq_value.2 ⟨hbuf, rfl⟩⟩
      have hbuf' : ch'.buf = rest := by
        have := (Chan.recv_eq_value.1 hrecv).1
        rw [hbuf] at this
        exact (List.cons.inj this).2.symm
      have hs : c.step p.shared (.recv 0) =
          some ({ p.shared with chans := p.shared.chans.set c.events ch' }, c.receive e 0) := by
        unfold Prompt.step
        rw [hpc]
        show p.shared.chans[c.events]?.bind _ = _
        rw [hch, Option.bind_some, hrecv]
      obtain ⟨q, hq, hqc, hqa, hfed⟩ := h.advance hc rfl hs
      refine .cons rfl hq ?_
      have hs' : (c.receive e 0).step q.shared (.sent none) =
          some (q.shared, { c.receive e 0 with
            sent := c.sent ++ [c.item e 0]
            pc := if endsRun e then .unsubscribe (.ok ()) else .select }) := rfl
      obtain ⟨r, hr, hrc, hra, hfed'⟩ := hfed.advance hqc rfl hs'
      refine .cons rfl hr ?_
      cases hend : endsRun e with
      | true =>
          exact hfed'.finishes_unsubscribe hrc (by rw [hend]; rfl)
            ((hfed.call _ hqc).not_refused rfl)
      | false =>
          refine Fed.finishes_select hfinal rest hfed' hrc (by rw [hend]; rfl) ?_ hbuf'
          rw [hra, hqa]
          exact getElem?_set_of_some ch' hch

/-- **A subscribed `Prompt` finishes** once a final event has found a slot and the
agent has accepted `session/prompt`. -/
theorem Fed.finishes {c : Prompt} (h : Fed i rid p arrived) (hc : p.threads[i]? = some c)
    (hpc : c.pc ≠ .subscribe) (haccepted : ¬c.Refused)
    (hfinal : ∃ e ∈ kept 64 arrived, endsRun e = true) : Finishes i rid p arrived := by
  have hcall := h.call c hc
  cases hcall with
  | before hpc' => exact absurd hpc' hpc
  | refused hr => exact absurd hr haccepted
  | ended taken rest hpc' =>
      exact ⟨[], p, c, fun x hx => absurd hx List.not_mem_nil, rfl, hc, hpc', haccepted, h⟩
  | running taken ch hsub hreg hch hitems hkept hloop =>
      cases hpc' : c.pc with
      | subscribe => exact absurd hpc' hpc
      | returned res => rw [Prompt.subscribed, hpc'] at hsub; cases hsub
      | sendFailed item => rw [Prompt.AtLoop, hpc'] at hloop; exact hloop.elim
      | select => exact Fed.finishes_select hfinal ch.buf h hc hpc' hch rfl
      | unsubscribe res =>
          rw [Prompt.AtLoop, hpc'] at hloop
          obtain ⟨rfl, -⟩ := hloop
          exact h.finishes_unsubscribe hc hpc' haccepted
      | clientPrompt =>
          have hs : c.step p.shared (.answered none 0) = some (p.shared, { c with pc := .select }) := by
            unfold Prompt.step
            rw [hpc']
          obtain ⟨q, hq, hqc, hqa, hfed⟩ := h.advance hc rfl hs
          refine .cons rfl hq (Fed.finishes_select hfinal ch.buf hfed hqc rfl ?_ rfl)
          rw [hqa]
          exact hch
      | send item =>
          have hs : c.step p.shared (.sent none) = some (p.shared, { c with
              sent := c.sent ++ [item]
              pc := if item.final then .unsubscribe (.ok ()) else .select }) := by
            unfold Prompt.step
            rw [hpc']
          obtain ⟨q, hq, hqc, hqa, hfed⟩ := h.advance hc rfl hs
          refine .cons rfl hq ?_
          cases hend : item.final with
          | true =>
              exact hfed.finishes_unsubscribe hqc (by rw [hend]; rfl)
                ((h.call c hc).not_refused hpc')
          | false =>
              refine Fed.finishes_select hfinal ch.buf hfed hqc (by rw [hend]; rfl) ?_ rfl
              rw [hqa]
              exact hch

end

/-- **What a `Prompt` delivers** of the events that found a free slot, up to the first
final one: what it has sent carries the first of them; when it has returned, it
has sent them all, the last of them is final and it returned without an error;
and when one of them is final, it gets there by its own steps. -/
structure Delivered (i : ℕ) (p : Pool AgentHandle Prompt) (c : Prompt)
    (events : List StreamEvent) : Prop where
  sent : ∃ sent, List.Forall₂ (Carries c.sess.id c.runID) c.sent sent ∧ sent <+: events
  returned : ∀ res, c.pc = .returned res → res = .ok () ∧
    List.Forall₂ (Carries c.sess.id c.runID) c.sent events ∧
      ∃ e, events.getLast? = some e ∧ endsRun e = true
  returns : c.pc ≠ .subscribe → (∃ e ∈ events, endsRun e = true) →
    ∃ l q c', OwnSteps i l ∧ exec handleStep p l = some q ∧ q.threads[i]? = some c' ∧
      c'.pc = .returned (.ok ()) ∧ List.Forall₂ (Carries c.sess.id c.runID) c'.sent events

/-- When the last event taken is the first final one, these are all there is to
deliver. -/
theorem Ended.through_eq {taken rest events : List StreamEvent} (h : Ended taken)
    (heq : taken ++ rest = events) : through endsRun events = taken := by
  obtain ⟨before, last, rfl, hbefore, hlast⟩ := h
  rw [← heq]
  exact through_of_last hbefore hlast rest

/-- A `Prompt` is on the same session and run as long as it lasts. -/
theorem prompt_same {p q : Pool AgentHandle Prompt} {l : List HandleLabel} {i : ℕ} {c : Prompt}
    (hc : p.threads[i]? = some c) (h : exec handleStep p l = some q) :
    ∃ c', q.threads[i]? = some c' ∧ c'.sess = c.sess ∧ c'.runID = c.runID := by
  refine exec_invariant_of_step
    (I := fun q => ∃ c', q.threads[i]? = some c' ∧ c'.sess = c.sess ∧ c'.runID = c.runID)
    (fun s x t hs hstep => ?_) ⟨c, hc, rfl, rfl⟩ h
  obtain ⟨d, hd, hsame⟩ := hs
  cases x with
  | route event =>
      obtain ⟨a, -, rfl⟩ := Option.map_eq_some_iff.1 hstep
      exact ⟨d, hd, hsame⟩
  | prompts x =>
      cases x with
      | spawn b =>
          obtain rfl := handleStep_spawn hstep
          have hlt := (List.getElem?_eq_some_iff.1 hd).1
          exact ⟨d, (List.getElem?_append_left hlt).trans hd, hsame⟩
      | step j x =>
          obtain ⟨e, a, e', he, hse, rfl⟩ := handleStep_step hstep
          by_cases hj : j = i
          · subst hj
            obtain rfl := Option.mem_unique hd he
            exact ⟨e', getElem?_set_of_some e' hd, hse.same.1.trans hsame.1,
              hse.same.2.trans hsame.2⟩
          · exact ⟨d, (List.getElem?_set_ne hj).trans hd, hsame⟩

section

variable {i : ℕ} {rid : String} {p : Pool AgentHandle Prompt} {c : Prompt}
  {arrived : List (StreamEvent × ℕ)}

/-- What a `Prompt` has sent carries the first events to deliver. -/
theorem FedCall.sent {a : AgentHandle} (h : FedCall a c arrived) (haccepted : ¬c.Refused) :
    ∃ sent, List.Forall₂ (Carries c.sess.id c.runID) c.sent sent ∧
      sent <+: through endsRun (kept 64 arrived) := by
  cases h with
  | before hpc hsent harr =>
      rw [hsent]
      exact ⟨[], .nil, List.nil_prefix⟩
  | refused hr => exact absurd hr haccepted
  | ended taken rest hpc hitems hend hkept =>
      rw [hend.through_eq hkept]
      exact ⟨taken, hitems, List.prefix_refl _⟩
  | running taken ch hsub hreg hch hitems hkept hloop =>
      cases hpc : c.pc with
      | subscribe | returned res => rw [Prompt.subscribed, hpc] at hsub; cases hsub
      | sendFailed item => rw [Prompt.AtLoop, hpc] at hloop; exact hloop.elim
      | clientPrompt =>
          rw [Prompt.AtLoop, hpc] at hloop
          rw [Prompt.items, hpc, hloop] at hitems
          exact ⟨[], hitems, List.nil_prefix⟩
      | select =>
          rw [Prompt.AtLoop, hpc] at hloop
          rw [Prompt.items, hpc] at hitems
          rw [← hkept, through_append_of_forall_not hloop]
          exact ⟨taken, hitems, List.prefix_append _ _⟩
      | unsubscribe res =>
          rw [Prompt.AtLoop, hpc] at hloop
          rw [Prompt.items, hpc] at hitems
          rw [hloop.2.through_eq hkept]
          exact ⟨taken, hitems, List.prefix_refl _⟩
      | send item =>
          -- the last event taken is on its way
          rw [Prompt.AtLoop, hpc] at hloop
          rw [Prompt.items, hpc] at hitems
          obtain ⟨before, last, rfl, hbefore⟩ := hloop
          rw [← hkept, List.append_assoc, through_append_of_forall_not hbefore]
          exact ⟨before, (forall₂_concat hitems).1, List.prefix_append _ _⟩

/-- What a `Prompt` that has returned has sent. -/
theorem FedCall.returned {a : AgentHandle} {res : Except String Unit} (h : FedCall a c arrived)
    (haccepted : ¬c.Refused) (hpc : c.pc = .returned res) :
    res = .ok () ∧ List.Forall₂ (Carries c.sess.id c.runID) c.sent
      (through endsRun (kept 64 arrived)) ∧
      ∃ e, (through endsRun (kept 64 arrived)).getLast? = some e ∧ endsRun e = true := by
  cases h with
  | before hpc' => rw [hpc] at hpc'; cases hpc'
  | refused hr => exact absurd hr haccepted
  | running taken ch hsub => rw [Prompt.subscribed, hpc] at hsub; cases hsub
  | ended taken rest hpc' hitems hend hkept =>
      rw [hpc] at hpc'
      rw [hend.through_eq hkept]
      refine ⟨PromptPC.returned.inj hpc', hitems, ?_⟩
      obtain ⟨before, last, rfl, -, hlast⟩ := hend
      exact ⟨last, List.getLast?_concat, hlast⟩

theorem Fed.delivered (h : Fed i rid p arrived) (hc : p.threads[i]? = some c)
    (haccepted : ¬c.Refused) : Delivered i p c (through endsRun (kept 64 arrived)) where
  sent := (h.call c hc).sent haccepted
  returned _ hpc := (h.call c hc).returned haccepted hpc
  returns hpc hfinal := by
    obtain ⟨e, he, hend⟩ := hfinal
    obtain ⟨l, q, c', hown, hq, hc', hpc', haccepted', hfed⟩ :=
      h.finishes hc hpc haccepted ⟨e, mem_of_mem_through he, hend⟩
    obtain ⟨d, hd, hsess, hrun⟩ := prompt_same hc hq
    obtain rfl := Option.mem_unique hd hc'
    refine ⟨l, q, d, hown, hq, hd, hpc', ?_⟩
    rw [← hsess, ← hrun]
    exact ((hfed.call d hd).returned haccepted' hpc').2.1

end

/-- **A healthy `Prompt` delivers what found a free slot.**  Let `Prompt` number `i` be the
only one with the run id `rid`, and let its context and its stream stay healthy.  In
every run, either `session/prompt` has failed and the report of that is its only
item, or it delivers, in order, the events that found fewer than 64 unread ones,
up to the first final one; these are all events when none found 64. -/
theorem delivered_of_healthy {i : ℕ} {rid : String} {p : Pool AgentHandle Prompt} {c : Prompt}
    {l : List HandleLabel} (hl : Along handleStep (Healthy i rid) freshHandle l)
    (h : exec handleStep freshHandle l = some p) (hc : p.threads[i]? = some c) :
    c.Refused ∨
      Delivered i p c
          (through endsRun (kept 64 (arrivals i rid (history handleStep freshHandle l)))) ∧
        ((∀ x ∈ arrivals i rid (history handleStep freshHandle l), x.2 < 64) →
          Delivered i p c (through endsRun
            ((arrivals i rid (history handleStep freshHandle l)).map Prod.fst))) := by
  by_cases hrefused : c.Refused
  · exact Or.inl hrefused
  · have hdelivered := (fed_of_healthy hl h).delivered hc hrefused
    refine Or.inr ⟨hdelivered, fun hslots => ?_⟩
    rw [← kept_eq_map hslots]
    exact hdelivered

/-- Two chunks before the answer and the final event after it. -/
def shortRun : List HandleLabel :=
  [startPrompt "sess_1" "run_1", promptStep 0 .subscribe, .route (chunk "sess_1" "run_1"),
    .route (chunk "sess_1" "run_1"), promptStep 0 (.answered none 1), promptStep 0 (.recv 2),
    promptStep 0 (.sent none), .route (completed "sess_1" "run_1"), promptStep 0 (.recv 3),
    promptStep 0 (.sent none), promptStep 0 (.recv 4), promptStep 0 (.sent none),
    promptStep 0 .unsubscribe]

/-- `delivered_of_healthy` applies to a run of three events. -/
theorem shortRun_delivered :
    ∃ p ∈ exec handleStep freshHandle shortRun, ∃ c, p.threads[0]? = some c ∧
      (c.Refused ∨
        Delivered 0 p c
            (through endsRun (kept 64 (arrivals 0 "run_1" (history handleStep freshHandle shortRun)))) ∧
          ((∀ x ∈ arrivals 0 "run_1" (history handleStep freshHandle shortRun), x.2 < 64) →
            Delivered 0 p c (through endsRun
              ((arrivals 0 "run_1" (history handleStep freshHandle shortRun)).map Prod.fst)))) := by
  obtain ⟨p, hp⟩ := Option.isSome_iff_exists.1
    (show (exec handleStep freshHandle shortRun).isSome = true by decide)
  obtain ⟨c, hc⟩ := Option.isSome_iff_exists.1
    (show ((exec handleStep freshHandle shortRun).bind fun p => p.threads[0]?).isSome = true by
      decide)
  rw [hp] at hc
  exact ⟨p, hp, c, hc, delivered_of_healthy (by decide) hp hc⟩

/-- 64 chunks and the final event, all before the agent answers, and then everything
that the `Prompt` can do. -/
def burst : List HandleLabel :=
  [startPrompt "sess_1" "run_1", promptStep 0 .subscribe] ++
    List.replicate 64 (.route (chunk "sess_1" "run_1")) ++
    [.route (completed "sess_1" "run_1"), promptStep 0 (.answered none 1)] ++
    (List.replicate 64 [promptStep 0 (.recv 2), promptStep 0 (.sent none)]).flatten

/-- **A burst loses its final event.**  The context and the stream are healthy and no
other `Prompt` has the run id; 65 events arrive after the subscription, the last of
them final; and the `Prompt` has sent 64 items, none of them final, and waits for
an event. -/
theorem burst_loses_final :
    Along handleStep (Healthy 0 "run_1") freshHandle burst ∧
      ((arrivals 0 "run_1" (history handleStep freshHandle burst)).map fun x => endsRun x.1) =
        List.replicate 64 false ++ [true] ∧
      ∃ p ∈ exec handleStep freshHandle burst, ∃ c ∈ p.threads[0]?, c.selecting = true ∧
        p.shared.unread c = 0 ∧ c.sent.map PromptStreamItem.final = List.replicate 64 false := by
  decide +kernel

end Supervisor
end Agentd
