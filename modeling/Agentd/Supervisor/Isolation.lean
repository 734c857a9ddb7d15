/-
# Runs that share an agent

Several `Prompt`s may run on one agent, and the run id of a `Prompt` is what its
caller says.  `streams` has one entry for a run id: `subscribe` overwrites the entry
of another `Prompt` with the same run id, and `unsubscribe` closes whatever channel it
finds there.  So of two `Prompt`s with one run id the first to end closes the
channel of the other, which then sends items made of zero events
(`sharedRunID_breaks_isolation`).  And an event is routed by its run id alone, so an
event with the session id of another session reaches a `Prompt` all the same.

A run id is a lease that the `Prompt`s hold: subscribed `Prompt`s are the holders and
`streams` is the table.  `isolated_of_separate` says that under the condition of the
lease rules, that a run id is subscribed only while it is free, and for events that
carry the session of the `Prompt` whose run they name, every item comes from a
notification for its own session and run, and the channel of every running `Prompt`
is open and registered.
-/

import Agentd.Supervisor.AgentHandle
import Agentd.Concurrency.Lease

namespace Agentd
namespace Supervisor

open Control Concurrency Acp

/-- The events that the reader has handed over. -/
def routed (past : List (Pool AgentHandle Prompt × HandleLabel)) : List StreamEvent :=
  past.filterMap fun x =>
    match x.2 with
    | .route event => some event
    | .prompts _ => none

/-- The event is one of `events` and is for this session and run. -/
structure Concerns (events : List StreamEvent) (sessionID runID : String) (event : StreamEvent) :
    Prop where
  mem : event ∈ events
  session : event.sessionID = sessionID
  run : event.runID = runID

/-- The item reports the failure of `session/prompt`, or carries a notification for this
session and run. -/
def OwnItem (events : List StreamEvent) (sessionID runID : String) (item : PromptStreamItem) :
    Prop :=
  item.IsReport ∨ ∃ event, Concerns events sessionID runID event ∧
    Carries sessionID runID item event

/-- **The streams are isolated.**  Every item of a `Prompt` is its own, and the channel
of a running `Prompt` is open and registered under its run id. -/
def Isolated (p : Pool AgentHandle Prompt) (events : List StreamEvent) : Prop :=
  ∀ (i : ℕ) c, p.threads[i]? = some c →
    (∀ item ∈ c.sent, OwnItem events c.sess.id c.runID item) ∧
      (c.subscribed = true → p.shared.streams.lookup c.runID = some c.events ∧
        ∃ ch, p.shared.chans[c.events]? = some ch ∧ ch.closed = false)

/-- A run id is subscribed only while it is not, and an event for the run of a subscribed
`Prompt` carries the id of its session. -/
def Separate (p : Pool AgentHandle Prompt) : HandleLabel → Prop
  | .prompts (.step i .subscribe) =>
      ∀ c ∈ p.threads[i]?, p.shared.streams.lookup c.runID = none
  | .prompts _ => True
  | .route event =>
      ∀ c ∈ p.threads, c.subscribed = true → c.runID = event.runID → event.sessionID = c.sess.id

instance (p : Pool AgentHandle Prompt) : DecidablePred (Separate p)
  | .prompts (.step i .subscribe) =>
      inferInstanceAs (Decidable (∀ c ∈ p.threads[i]?, p.shared.streams.lookup c.runID = none))
  | .prompts (.step _ (.answered _ _)) | .prompts (.step _ (.recv _))
  | .prompts (.step _ (.ctxDone _)) | .prompts (.step _ (.sent _))
  | .prompts (.step _ .unsubscribe) | .prompts (.spawn _) => inferInstanceAs (Decidable True)
  | .route _ => inferInstanceAs (Decidable (∀ c ∈ p.threads, _ → _ → _))

/-- The run id that a `Prompt` holds, and the number of its channel. -/
def Prompt.holds (c : Prompt) : Option (String × ℕ) :=
  if c.subscribed then some (c.runID, c.events) else none

/-- The items of a `Prompt` are its own, and so are the events it has not read. -/
structure OwnCall (a : AgentHandle) (events : List StreamEvent) (c : Prompt) : Prop where
  items : ∀ item ∈ c.items, OwnItem events c.sess.id c.runID item
  unread : c.subscribed = true → ∀ ch, a.chans[c.events]? = some ch → ∀ event ∈ ch.buf,
    Concerns events c.sess.id c.runID event

/-- The invariant: the run ids are leases, and what a `Prompt` sends and reads is its
own. -/
structure IsolatedOk (p : Pool AgentHandle Prompt) (events : List StreamEvent) : Prop where
  streams : StreamsOk p
  leases : Exclusive (p.view Prompt.holds) fun rid => p.shared.streams.lookup rid
  calls : ∀ (i : ℕ) c, p.threads[i]? = some c → OwnCall p.shared events c

section

variable {a a' : AgentHandle} {c c' : Prompt} {events : List StreamEvent} {l : PromptLabel}

theorem Concerns.later {sessionID runID : String} {event e : StreamEvent}
    (h : Concerns events sessionID runID event) : Concerns (events ++ [e]) sessionID runID event :=
  ⟨List.mem_append_left _ h.mem, h.session, h.run⟩

theorem OwnItem.later {sessionID runID : String} {item : PromptStreamItem} {e : StreamEvent}
    (h : OwnItem events sessionID runID item) : OwnItem (events ++ [e]) sessionID runID item := by
  rcases h with h | ⟨event, hevent, hcarries⟩
  · exact Or.inl h
  · exact Or.inr ⟨event, hevent.later, hcarries⟩

/-- A `Prompt` that does not move and whose channel is left alone. -/
theorem OwnCall.frame (h : OwnCall a events c)
    (hch : c.subscribed = true → a'.chans[c.events]? = a.chans[c.events]?) :
    OwnCall a' events c where
  items := h.items
  unread hsub ch hget := h.unread hsub ch ((hch hsub).symm.trans hget)

/-- **A `Prompt` takes a step** and its items are still its own, as long as its channel
is open. -/
theorem OwnCall.step (h : OwnCall a events c)
    (hopen : c.subscribed = true → ∃ ch, a.chans[c.events]? = some ch ∧ ch.closed = false)
    (hs : c.Step a l a' c') : OwnCall a' events c' := by
  have hsent : ∀ item ∈ c.sent, OwnItem events c.sess.id c.runID item :=
    fun item hitem => h.items item (c.sent_subset_items hitem)
  cases hs with
  | subscribe hpc =>
      refine ⟨hsent, fun _ ch hget event hevent => ?_⟩
      have hget' : (a.chans ++ [Chan.make StreamEvent 64])[a.chans.length]? = some ch := hget
      rw [List.getElem?_concat_length] at hget'
      obtain rfl := Option.some.inj hget'
      cases hevent
  | accepted hpc | ctxDone hpc | sendError item hpc =>
      have hsub : c.subscribed = true := by rw [Prompt.subscribed, hpc]
      exact ⟨hsent, fun _ => h.unread hsub⟩
  | refused hpc err now =>
      have hsub : c.subscribed = true := by rw [Prompt.subscribed, hpc]
      refine ⟨fun item hitem => ?_, fun _ => h.unread hsub⟩
      rcases List.mem_append.1 hitem with hitem | hitem
      · exact hsent item hitem
      · rw [List.mem_singleton.1 hitem]
        exact Or.inl ⟨rfl, rfl, rfl⟩
  | reported item hpc err =>
      have hsub : c.subscribed = true := by rw [Prompt.subscribed, hpc]
      have hitems : c.items = c.sent ++ [item] := by rw [Prompt.items, hpc]
      refine ⟨fun item' hitem => ?_, fun _ => h.unread hsub⟩
      have hmem : item' ∈ if err.isNone then c.sent ++ [item] else c.sent := hitem
      split_ifs at hmem
      · exact h.items item' (hitems ▸ hmem)
      · exact hsent item' hmem
  | sent item hpc =>
      have hsub : c.subscribed = true := by rw [Prompt.subscribed, hpc]
      have hitems : c.items = c.sent ++ [item] := by rw [Prompt.items, hpc]
      refine ⟨fun item' hitem => h.items item' ?_, fun _ => h.unread hsub⟩
      rw [hitems]
      cases hfin : item.final with
      | true => rw [hfin] at hitem; exact hitem
      | false => rw [hfin] at hitem; exact hitem
  | recv ch ch' event hpc hch hrecv now =>
      have hsub : c.subscribed = true := by rw [Prompt.subscribed, hpc]
      have hbuf := (Chan.recv_eq_value.1 hrecv).1
      have hown : ∀ e ∈ event :: ch'.buf, Concerns events c.sess.id c.runID e :=
        fun e he => h.unread hsub ch hch e (hbuf ▸ he)
      refine ⟨fun item hitem => ?_, fun _ d hd e he => ?_⟩
      · rcases List.mem_append.1 hitem with hitem | hitem
        · exact hsent item hitem
        · rw [List.mem_singleton.1 hitem]
          exact Or.inr ⟨event, hown event List.mem_cons_self, c.item_carries event now⟩
      · have hd' : (a.chans.set c.events ch')[c.events]? = some d := hd
        rcases getElem?_set_cases hd' with ⟨-, rfl⟩ | ⟨hne, -⟩
        · exact hown e (List.mem_cons_of_mem event he)
        · exact absurd rfl hne
  | recvClosed ch hpc hch hrecv =>
      obtain ⟨d, hd, hdopen⟩ := hopen (by rw [Prompt.subscribed, hpc])
      obtain rfl := Option.mem_unique hch hd
      rw [(Chan.recv_eq_closed.1 hrecv).2] at hdopen
      cases hdopen
  | unsubscribe a'' res hpc hu => exact ⟨hsent, fun hsub => by cases hsub⟩

theorem Prompt.Step.subscribed_or (hs : c.Step a l a' c') :
    c.subscribed = true ∨ l = .subscribe := by
  cases hs with
  | subscribe => exact Or.inr rfl
  | accepted hpc | refused hpc | reported item hpc | ctxDone hpc | recv _ _ _ hpc
  | recvClosed _ hpc | sendError item hpc | sent item hpc | unsubscribe _ _ hpc =>
      exact Or.inl (by rw [Prompt.subscribed, hpc])

/-- **What a step does to the leases.**  It leaves them alone, or it takes the run id of
the `Prompt`, or it gives it back. -/
theorem Prompt.Step.lease (hs : c.Step a l a' c')
    (hreg : c.subscribed = true → a.streams.lookup c.runID = some c.events) :
    c'.holds = c.holds ∧ a'.streams = a.streams ∨
      (∃ n, l = .subscribe ∧ c.holds = none ∧ c'.holds = some (c.runID, n) ∧
        a'.streams = a.streams.insert c.runID n) ∨
      c.holds = some (c.runID, c.events) ∧ c'.holds = none ∧
        a'.streams = a.streams.erase c.runID := by
  have hholds : c.subscribed = true → c.holds = some (c.runID, c.events) := fun hsub => if_pos hsub
  cases hs with
  | subscribe hpc =>
      have hnone : c.holds = none := by rw [Prompt.holds, Prompt.subscribed, hpc]; rfl
      exact Or.inr (Or.inl ⟨a.chans.length, rfl, hnone, rfl, rfl⟩)
  | accepted hpc | refused hpc | reported item hpc | ctxDone hpc | recv _ _ _ hpc
  | recvClosed _ hpc | sendError item hpc =>
      rw [hholds (by rw [Prompt.subscribed, hpc])]
      exact Or.inl ⟨rfl, rfl⟩
  | sent item hpc =>
      rw [hholds (by rw [Prompt.subscribed, hpc])]
      refine Or.inl ⟨?_, rfl⟩
      cases item.final with
      | true => rfl
      | false => rfl
  | unsubscribe a'' res hpc hu =>
      have hsub : c.subscribed = true := by rw [Prompt.subscribed, hpc]
      rcases AgentHandle.unsubscribe_eq_some hu with ⟨hnone, -⟩ | ⟨n, ch, ch', -, -, -, rfl⟩
      · rw [hreg hsub] at hnone
        cases hnone
      · exact Or.inr (Or.inr ⟨hholds hsub, rfl, rfl⟩)

end

section

variable {p q : Pool AgentHandle Prompt} {events : List StreamEvent}

/-- The channel of a subscribed `Prompt` is the registered one. -/
theorem IsolatedOk.registered (h : IsolatedOk p events) {i : ℕ} {c : Prompt}
    (hc : p.threads[i]? = some c) (hsub : c.subscribed = true) :
    p.shared.streams.lookup c.runID = some c.events := by
  refine (h.leases.lease_iff c.runID c.events).2 ⟨i, ?_⟩
  rw [Pool.view_eq hc]
  exact if_pos hsub

/-- A step of one `Prompt` leaves the channels of the others alone. -/
theorem IsolatedOk.other (h : IsolatedOk p events) {i j : ℕ} {l : PromptLabel} {a : AgentHandle}
    {c d d' : Prompt} (hj : j ≠ i) (hC : Separate p (.prompts (.step j l)))
    (hd : p.threads[j]? = some d) (hc : p.threads[i]? = some c) (hs : d.Step p.shared l a d') :
    OwnCall a events c := by
  obtain ⟨-, -, hchan⟩ := hs.frame
  refine (h.calls i c hc).frame fun hsub => ?_
  have hown : d.subscribed = true → c.events ≠ d.events := fun hds heq =>
    hj (h.streams.own j i d c hd hc hds hsub heq.symm)
  refine hchan _ (h.streams.made i c hc hsub) hown fun hentry => ?_
  -- the entry under the run id of `d` is its own, or there is none
  rcases hs.subscribed_or with hds | rfl
  · rw [h.registered hd hds] at hentry
    exact hown hds (Option.some.inj hentry).symm
  · rw [hC d hd] at hentry
    cases hentry

/-- **An event is handed over.**  It goes to the `Prompt` that holds its run id, and by the
condition it is for the session of that `Prompt`. -/
theorem IsolatedOk.route {event : StreamEvent} {a : AgentHandle} (h : IsolatedOk p events)
    (hC : Separate p (.route event)) (ha : p.shared.routeEvent event = some a) :
    IsolatedOk { p with shared := a } (events ++ [event]) := by
  have hq : handleStep p (.route event) = some { p with shared := a } := by
    rw [handleStep, ha]
    rfl
  rcases AgentHandle.routeEvent_eq_some ha with ⟨-, rfl⟩ | ⟨n, d, d', hn, hd, hoffer, rfl⟩
  · refine ⟨h.streams.step hq, h.leases, fun i c hc => ?_⟩
    exact ⟨fun item hitem => ((h.calls i c hc).items item hitem).later,
      fun hsub ch hch e he => ((h.calls i c hc).unread hsub ch hch e he).later⟩
  · refine ⟨h.streams.step hq, h.leases, fun i c hc => ?_⟩
    refine ⟨fun item hitem => ((h.calls i c hc).items item hitem).later,
      fun hsub ch hch e he => ?_⟩
    rcases getElem?_set_cases hch with ⟨rfl, rfl⟩ | ⟨-, hch⟩
    · -- the channel of this `Prompt`: the run id of the event is its own
      have hrun : event.runID = c.runID :=
        h.streams.handle.injective _ _ _ hn (h.registered hc hsub)
      rcases Chan.mem_of_offer hoffer he with he | rfl
      · exact ((h.calls i c hc).unread hsub d hd e he).later
      · exact ⟨List.mem_append_right _ List.mem_cons_self,
          hC c (List.mem_of_getElem? hc) hsub hrun.symm, hrun⟩
    · exact ((h.calls i c hc).unread hsub ch hch e he).later

/-- **A `Prompt` takes a step** and the streams stay isolated. -/
theorem IsolatedOk.step_prompt {i : ℕ} {l : PromptLabel} {a : AgentHandle} {c c' : Prompt}
    (h : IsolatedOk p events) (hC : Separate p (.prompts (.step i l)))
    (hq : handleStep p (.prompts (.step i l)) =
      some { shared := a, threads := p.threads.set i c' })
    (hc : p.threads[i]? = some c) (hs : c.Step p.shared l a c') :
    IsolatedOk { shared := a, threads := p.threads.set i c' } events := by
  have hview : p.view Prompt.holds i = c.holds := Pool.view_eq hc
  refine ⟨h.streams.step hq, ?_, fun j d hd => ?_⟩
  · rw [Pool.view_set a hc]
    show Exclusive _ fun rid => a.streams.lookup rid
    rcases hs.lease (h.registered hc) with ⟨hsame, hstr⟩ | ⟨n, rfl, hnone, hnew, hstr⟩ |
      ⟨hold, hnone, hstr⟩
    · rw [hsame, ← hview, Function.update_eq_self, hstr]
      exact h.leases
    · rw [hnew, hstr, GoMap.lookup_insert_eq_update]
      refine h.leases.acquire (hview.trans hnone) fun j m hj => ?_
      have hleased := (h.leases.lease_iff c.runID m).2 ⟨j, hj⟩
      rw [hC c hc] at hleased
      cases hleased
    · rw [hnone, hstr, GoMap.lookup_erase_eq_update]
      exact h.leases.release (hview.trans hold)
  · rcases getElem?_set_cases hd with ⟨rfl, rfl⟩ | ⟨hj, hd⟩
    · exact (h.calls j c hc).step
        (fun hsub => h.streams.handle.registered _ _ (h.registered hc hsub)) hs
    · exact h.other (Ne.symm hj) hC hc hd hs

/-- **A step that keeps the runs separate keeps the streams isolated.** -/
theorem IsolatedOk.step {l : HandleLabel} (h : IsolatedOk p events) (hC : Separate p l)
    (hq : handleStep p l = some q) : IsolatedOk q (events ++ routed [(p, l)]) := by
  cases l with
  | route event =>
      obtain ⟨a, ha, rfl⟩ := Option.map_eq_some_iff.1 hq
      exact h.route hC ha
  | prompts l =>
      rw [show events ++ routed [(p, .prompts l)] = events from List.append_nil events]
      cases l with
      | spawn b =>
          obtain rfl := handleStep_spawn hq
          refine ⟨h.streams.step hq, ?_, fun i c hc => ?_⟩
          · rw [Pool.view_spawn p rfl]
            exact h.leases
          · rcases getElem?_concat_cases hc with ⟨-, rfl⟩ | hc
            · refine ⟨fun item hitem => ?_, fun hsub => ?_⟩
              · cases hitem
              · cases hsub
            · exact h.calls i c hc
      | step i l =>
          obtain ⟨c, a, c', hc, hs, rfl⟩ := handleStep_step hq
          exact h.step_prompt hC hq hc hs

end

/-- **Separate runs are isolated.**  In every run along which a run id is subscribed only
while it is free and every event for the run of a subscribed `Prompt` carries the id
of its session, whatever the `Prompt`s, their sessions and their order, the streams are
isolated in the state reached. -/
theorem isolated_of_separate {p : Pool AgentHandle Prompt} {l : List HandleLabel}
    (hl : Along handleStep Separate freshHandle l) (h : exec handleStep freshHandle l = some p) :
    Isolated p (routed (history handleStep freshHandle l)) := by
  have hinit : IsolatedOk freshHandle (routed []) :=
    ⟨.fresh, Exclusive.none_held (fun _ => rfl) fun _ => rfl,
      fun i c hc => by simp [freshHandle] at hc⟩
  have hp : IsolatedOk p (routed (history handleStep freshHandle l)) := by
    refine exec_invariant_history (I := fun p past => IsolatedOk p (routed past))
      (fun s past x t hs hC hq => ?_) hinit hl h
    have hnext := hs.step hC hq
    rw [routed, List.filterMap_append]
    exact hnext
  intro i c hc
  refine ⟨fun item hitem => (hp.calls i c hc).items item (c.sent_subset_items hitem), fun hsub => ?_⟩
  exact ⟨hp.registered hc hsub, hp.streams.handle.registered _ _ (hp.registered hc hsub)⟩

/-- Two sessions at a time, with a run id each; after the end of the first run the other
session uses its run id again. -/
def runsApart : List HandleLabel :=
  [startPrompt "sess_1" "run_1", startPrompt "sess_2" "run_2", promptStep 0 .subscribe,
    promptStep 1 .subscribe, .route (chunk "sess_2" "run_2"), promptStep 0 (.answered none 1),
    promptStep 1 (.answered none 1), .route (completed "sess_1" "run_1"), promptStep 1 (.recv 2),
    promptStep 0 (.recv 2), promptStep 1 (.sent none), promptStep 0 (.sent none),
    promptStep 0 .unsubscribe, startPrompt "sess_2" "run_1", promptStep 2 .subscribe,
    promptStep 2 (.answered (some "busy") 3), promptStep 2 (.sent none),
    .route (chunk "sess_2" "run_1")]

/-- `isolated_of_separate` applies to runs with run ids of their own. -/
theorem runsApart_isolated :
    ∃ p ∈ exec handleStep freshHandle runsApart,
      Isolated p (routed (history handleStep freshHandle runsApart)) := by
  obtain ⟨p, hp⟩ := Option.isSome_iff_exists.1
    (show (exec handleStep freshHandle runsApart).isSome = true by decide)
  exact ⟨p, hp, isolated_of_separate (by decide) hp⟩

/-- Two `Prompt`s of different sessions with one run id; the context of the first ends. -/
def sharedRunID : List HandleLabel :=
  [startPrompt "sess_1" "run_1", startPrompt "sess_2" "run_1", promptStep 0 .subscribe,
    promptStep 1 .subscribe, promptStep 0 (.answered none 1), promptStep 1 (.answered none 1),
    promptStep 0 (.ctxDone "context canceled"), promptStep 0 .unsubscribe, promptStep 1 (.recv 2),
    promptStep 1 (.sent none)]

/-- **A shared run id breaks the isolation.**  The first `Prompt` to end closes the channel
of the other, which reads a zero event from it and sends an item for it, although
no notification was ever handed over. -/
theorem sharedRunID_breaks_isolation :
    ∃ p ∈ exec handleStep freshHandle sharedRunID,
      ¬Isolated p (routed (history handleStep freshHandle sharedRunID)) := by
  have hnone : routed (history handleStep freshHandle sharedRunID) = [] := by decide
  obtain ⟨p, hp, c, hc, item, hitem, hseq⟩ : ∃ p ∈ exec handleStep freshHandle sharedRunID,
      ∃ c ∈ p.threads[1]?, ∃ item ∈ c.sent, item.event.sequence = 1 := by decide
  refine ⟨p, hp, fun hisolated => ?_⟩
  rcases (hisolated 1 c hc).1 item hitem with hreport | ⟨event, hevent, -⟩
  · rw [hreport.event] at hseq
    cases hseq
  · rw [hnone] at hevent
    cases hevent.mem

end Supervisor
end Agentd
