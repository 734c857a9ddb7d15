/-
# What subscribers see of a run

The events of a run go to the broker from two activities.  `Prompt` publishes `run.started`,
numbered one, and then the events of the supervisor, which numbers them from one again; `Cancel`
publishes `run.cancelling`, which has no number.  Those who read the events of a session get the
numbers as SSE ids.

A run that has been announced is closed for them by an event of type `completed`, `cancelled` or
`failed` if and only if the stream that the node client reads has such an event (`closed_iff`):
not when `session/prompt` is refused, when the stream breaks before its end, or when the agent
ends the run with an event of another type.  And the numbers increase when `run.started` is not
followed by the first event of the agent, and a `Cancel` publishes nothing after another event
of its run (`published_increasing`).
-/

import Agentd.Workflows.PromptRelay

namespace Agentd
namespace Workflows

open Control Store NodeRuntime Supervisor Concurrency

/-- The event without its time. -/
def unstamped (event : Event) : Event := { event with time := 0 }

/-- The activity has announced the run and relayed the events of these items. -/
def Announced (runID : String) (published : List Event) (items : List PromptStreamItem) : Prop :=
  ∃ started rest, published = started :: rest ∧ started.runID = runID ∧
    started.type = "run.started" ∧ started.sequence = 1 ∧
    rest.map unstamped = (eventsOf items).map unstamped

/-- The broker takes what the `Prompt` publishes. -/
def BrokerUp (r : Relay) (l : RelayLabel) : Prop :=
  ∀ a, l = .call a → r.activity.publishes = true → a.outcome = .ok

/-- The node has returned, and what arrived of its stream is published. -/
def Relay.Relayed (r : Relay) : Prop :=
  ∃ c, r.call = some c ∧ c.req.runID ≠ "" ∧
    (FinalLast (streamItems c.opened) →
      Announced c.req.runID r.published (streamItems c.opened))

/-- The request that goes to the node has the id of the run. -/
def ForRun (req : PromptRequest) (run : Run) : Prop := req.runID = run.id ∧ req.runID ≠ ""

/-- What the place of the activity says about the events that it has published. -/
def Relay.Announces (r : Relay) : Prop :=
  match r.activity with
  | .getSession _ | .containerNode .. => r.published = [] ∧ r.call = none
  | .upsertSession req _ _ run | .upsertRun req _ _ run | .publishStarted req _ _ run =>
      r.published = [] ∧ r.call = none ∧ ForRun req run
  | .nodePrompt req _ _ run =>
      ForRun req run ∧
        match r.call with
        | none => Announced req.runID r.published []
        | some c => c.req = req ∧ ∃ read, streamItems c.opened = read ++ streamItems c.stream ∧
            Announced req.runID r.published read
  | .returned _ => r.published = [] ∨ r.Relayed
  | .upsertFailedRun .. | .upsertFailedSession .. | .upsertFinalRun .. | .upsertFinalSession ..
  | .appendAudit _ => r.Relayed

section

variable {w w' : World} {a : Answer} {r r' : Relay} {l : RelayLabel}

@[simp] theorem stamp_runID (now : Time) (event : Event) :
    (stamp now event).runID = event.runID := by
  unfold stamp
  split_ifs <;> rfl

@[simp] theorem stamp_sequence (now : Time) (event : Event) :
    (stamp now event).sequence = event.sequence := by
  unfold stamp
  split_ifs <;> rfl

@[simp] theorem unstamped_stamp (now : Time) (event : Event) :
    unstamped (stamp now event) = unstamped event := by
  unfold stamp unstamped
  split_ifs <;> rfl

theorem stamped_ok (now : Time) (event : Event) (h : a.outcome = .ok) :
    stamped a.outcome now event = [stamp now event] := by
  rw [h]
  rfl

/-- What the callback publishes of an item, when the broker takes it. -/
theorem relayed_ok (item : PromptStreamItem) (h : a.outcome = .ok) :
    (relayed a item).map unstamped = (eventsOf [item]).map unstamped := by
  unfold relayed
  by_cases htype : item.event.type = ""
  · simp [eventsOf, htype]
  · simp [eventsOf, htype, stamped_ok _ _ h]

theorem Announced.relay {runID : String} {published : List Event} {items : List PromptStreamItem}
    (h : Announced runID published items) (item : PromptStreamItem) (ha : a.outcome = .ok) :
    Announced runID (published ++ relayed a item) (items ++ [item]) := by
  obtain ⟨started, rest, rfl, hid, htype, hseq, hrest⟩ := h
  refine ⟨started, rest ++ relayed a item, rfl, hid, htype, hseq, ?_⟩
  rw [List.map_append, hrest, relayed_ok item ha, eventsOf_append, List.map_append]

/-- When nothing is left of the stream, all of it is announced. -/
theorem Announced.of_end {runID : String} {published : List Event} {read : List PromptStreamItem}
    {c : NodeCall} (h : Announced runID published read)
    (hread : streamItems c.opened = read ++ streamItems c.stream)
    (hend : streamItems c.stream = []) : Announced runID published (streamItems c.opened) := by
  rw [hread, hend, List.append_nil]
  exact h

theorem Relay.announces_afterNode {sess : Session} {run : Run} {now : Time} {res : Except Err Run}
    (hx : r.activity = .afterNode sess run now res) (h : r.Relayed) : r.Announces := by
  unfold Relay.Announces
  rw [hx]
  cases res with
  | ok final => exact h
  | error e => exact h

/-- **A step of a `Prompt`** publishes the next event of its stream. -/
theorem Relay.Step.announces (h : r.Step w l w' r') (hup : BrokerUp r l) (hr : r.Announces) :
    r'.Announces := by
  unfold Relay.Announces at hr
  cases h with
  | opened client stream hx hc =>
      rw [hx, hc] at hr
      unfold Relay.Announces
      dsimp only
      rw [hx]
      exact ⟨hr.1, rfl, [], rfl, hr.2⟩
  | @failed _ _ _ _ c a e hx hc hs =>
      rw [hx, hc] at hr
      obtain ⟨hid, rfl, read, hread, hann⟩ := hr
      exact ⟨c, hc, hid.2, fun _ => hann.of_end hread (by rw [hs]; rfl)⟩
  | @broke _ _ _ _ c a err hx hc hs =>
      rw [hx, hc] at hr
      obtain ⟨hid, rfl, read, hread, hann⟩ := hr
      refine Relay.announces_afterNode rfl ⟨c, hc, hid.2, fun _ => ?_⟩
      exact hann.of_end hread (by rw [hs]; rfl)
  | refused a item items err e hx hc hs hpub =>
      have ha : a.outcome = .ok := hup a rfl (by rw [hx]; rfl)
      by_cases htype : item.event.type = ""
      · rw [Publish.event_of_no_type _ _ htype] at hpub
        cases hpub
      · have hev : ((publishing a).event w item.event).2 = a.outcome.err :=
          congrArg Prod.snd (if_pos htype)
        rw [hpub, ha] at hev
        cases hev
  | @received _ _ _ _ c a item items err kept hx hc hs hpub hafter =>
      have ha : a.outcome = .ok := hup a rfl (by rw [hx]; rfl)
      rw [hx, hc] at hr
      obtain ⟨hid, hreq, read, hread, hann⟩ := hr
      unfold Relay.Announces
      dsimp only
      rw [hx]
      refine ⟨hid, hreq, read ++ [item], ?_, hann.relay item ha⟩
      rw [hread, hs, List.append_assoc]
      rfl
  | @ended _ _ _ _ c a item items err res hx hc hs hpub hafter =>
      have ha : a.outcome = .ok := hup a rfl (by rw [hx]; rfl)
      rw [hx, hc] at hr
      obtain ⟨hid, rfl, read, hread, hann⟩ := hr
      have hsplit : streamItems c.opened = read ++ item :: items := by
        rw [hread, hs]
        rfl
      refine Relay.announces_afterNode rfl ⟨_, rfl, hid.2, fun hlast => ?_⟩
      -- a final item is the last of the stream
      have hitems : items = [] := by
        refine FinalLast.nil_of_final ?_ (Client.final_of_done hafter)
        have hpair : FinalLast (read ++ item :: items) := hsplit ▸ hlast
        exact (List.pairwise_append.1 hpair).2.1
      show Announced _ _ (streamItems c.opened)
      rw [hsplit, hitems]
      exact hann.relay item ha
  | @started req sess node run a hx =>
      have ha : a.outcome = .ok := hup a rfl (by rw [hx]; rfl)
      rw [hx] at hr
      obtain ⟨hpub, hc, hid⟩ := hr
      have heq := unstamped_stamp a.now (Prompt.started sess run a.now)
      unfold Relay.Announces
      dsimp only
      refine ⟨hid, ?_⟩
      rw [hc, hpub, stamped_ok _ _ ha, hid.1]
      exact ⟨_, [], rfl, congrArg (fun e => e.runID) heq, congrArg (fun e => e.type) heq,
        congrArg (fun e => e.sequence) heq, rfl⟩
  | quiet a x' w' hx hstep hpub =>
      have hnext := (Prompt.step_next hstep).1
      clear hstep hup
      generalize hact : r.activity = x at hr hx hnext
      cases hnext with
      | announced | event | failed | ended => cases hx
      | begun req sess k => exact ⟨hr.1, hr.2, rfl, Prompt.newRun_id_ne_empty req sess a⟩
      | notRead | noNode => exact Or.inl hr.1
      | read | sessionWritten | runWritten | failedRunWritten | runStored | sessionStored => exact hr
      | failedSessionWritten | runNotStored | sessionNotStored | audited => exact Or.inr hr

end

/-- The events of the run are closed: exactly one of them is of a closing type, and it is the
last. -/
def Closed (runID : String) (published : List Event) : Prop :=
  ∃ before last, (published.filter fun e => e.runID = runID) = before ++ [last] ∧
    isClosing last.type = true ∧ ∀ e ∈ before, isClosing e.type = false

theorem last_of_pairwise {α : Type*} {f : α → Bool} {l : List α} {x : α}
    (hpair : l.Pairwise fun x _ => f x = false) (hmem : x ∈ l) (hx : f x = true) :
    ∃ before last, l = before ++ [last] ∧ f last = true ∧ ∀ y ∈ before, f y = false := by
  obtain ⟨before, after, rfl⟩ := List.append_of_mem hmem
  obtain ⟨-, hafter, hbefore⟩ := List.pairwise_append.1 hpair
  cases after with
  | nil => exact ⟨before, x, rfl, hx, fun y hy => hbefore y hy x (List.mem_cons_self ..)⟩
  | cons y after =>
      have hno := (List.pairwise_cons.1 hafter).1 y (List.mem_cons_self ..)
      rw [hx] at hno
      cases hno

/-- What is published of a stream is closed just when the stream has a closing event. -/
theorem Announced.closes_iff {b : PromptStart} {items stream : List PromptStreamItem}
    {published : List Event} (h : Announced b.runID published stream) (hs : Streams b items)
    (hstream : eventsOf stream <+: eventsOf items) :
    Closed b.runID published ↔ ∃ item ∈ stream, isClosing item.event.type = true := by
  obtain ⟨started, rest, rfl, hid, htype, -, hrest⟩ := h
  have hmem : ∀ e ∈ rest, ∃ e' ∈ eventsOf stream, unstamped e' = unstamped e := by
    intro e he
    have hin : unstamped e ∈ (eventsOf stream).map unstamped := hrest ▸ List.mem_map_of_mem he
    exact List.mem_map.1 hin
  have hruns : ∀ e ∈ started :: rest, e.runID = b.runID := by
    intro e he
    rcases List.mem_cons.1 he with rfl | he
    · exact hid
    · obtain ⟨e', he', heq⟩ := hmem e he
      have hsame : (unstamped e').runID = (unstamped e).runID := congrArg Event.runID heq
      have hrun : e'.runID = b.runID := hs.runID (hstream.subset he')
      exact hsame.symm.trans hrun
  have hpair : rest.Pairwise fun e _ => isClosing e.type = false := by
    have hevents := List.Pairwise.sublist hstream.sublist hs.closing_last
    have hmapped : ((eventsOf stream).map unstamped).Pairwise fun e _ => isClosing e.type = false :=
      List.pairwise_map.2 hevents
    rw [← hrest] at hmapped
    exact List.pairwise_map.1 hmapped
  have hstarted : isClosing started.type = false := by
    rw [htype]
    rfl
  unfold Closed
  rw [List.filter_eq_self.2 fun e he => decide_eq_true (hruns e he)]
  constructor
  · rintro ⟨before, last, heq, hlast, -⟩
    have hin : last ∈ started :: rest := heq ▸ List.mem_append_right _ (List.mem_singleton_self _)
    rcases List.mem_cons.1 hin with rfl | hin
    · rw [hstarted] at hlast
      cases hlast
    · obtain ⟨e, he, hsame⟩ := hmem last hin
      obtain ⟨item, hitem, rfl⟩ := List.mem_map.1 he
      refine ⟨item, (List.mem_filter.1 hitem).1, ?_⟩
      rw [← hlast]
      exact congrArg (fun e => isClosing e.type) hsame
  · rintro ⟨item, hitem, hclosing⟩
    have htyped : item.event.type ≠ "" := by
      intro hempty
      rw [hempty] at hclosing
      cases hclosing
    have hevent : unstamped item.event ∈ rest.map unstamped := by
      rw [hrest]
      refine List.mem_map_of_mem (List.mem_map_of_mem (List.mem_filter.2 ⟨hitem, ?_⟩))
      simpa using htyped
    obtain ⟨e, he, hsame⟩ := List.mem_map.1 hevent
    have heclosing : isClosing e.type = true :=
      (congrArg (fun e => isClosing e.type) hsame).trans hclosing
    obtain ⟨before, last, rfl, hlast, hbefore⟩ := last_of_pairwise hpair he heclosing
    refine ⟨started :: before, last, rfl, hlast, fun e he => ?_⟩
    rcases List.mem_cons.1 he with rfl | he
    · exact hstarted
    · exact hbefore e he

/-- **When an announced run is closed for subscribers.**  A `Prompt` has published
`run.started`, the broker takes what it publishes, and it has returned.  Its events are closed if
and only if the stream that the node client reads, until it ends or breaks, has an event of type
`completed`, `cancelled` or `failed`. -/
theorem closed_iff {w : World} {req : PromptRequest} {l : List RunLabel}
    {p : Pool World RunActivity} {i : ℕ} {r : Relay} {res : Except Err Run}
    (hup : Along runStep (PromptSteps BrokerUp) (prompting w req) l)
    (h : exec runStep (prompting w req) l = some p) (hi : p.threads[i]? = some (.prompt r))
    (hreturned : r.activity = .returned res)
    (hstarted : ∃ e ∈ r.published, e.type = "run.started") :
    ∃ c, r.call = some c ∧ ∀ b items, NodeStream b items c.client c.opened → b.req = c.req →
      (Closed c.req.runID r.published ↔
        ∃ item ∈ streamItems c.opened, isClosing item.event.type = true) := by
  have hann := promptSteps_run (P := Relay.Announces)
    (fun _ _ _ _ _ hs hD hr => hs.announces hD hr) ⟨rfl, rfl⟩ hup h i r hi
  unfold Relay.Announces at hann
  rw [hreturned] at hann
  rcases hann with hnil | ⟨c, hc, hid, hann⟩
  · obtain ⟨e, he, -⟩ := hstarted
    rw [hnil] at he
    cases he
  refine ⟨c, hc, fun b items hnode hreq => ?_⟩
  have hrun : b.runID = c.req.runID := by
    unfold PromptStart.runID
    rw [hreq, if_neg hid]
  rw [← hrun] at hann ⊢
  cases hopened : c.opened with
  | error e =>
      rw [hopened] at hann
      have hempty : Streams b [] := .relayed [] (Supervisor.Relayed.nil b) Open.nil
      exact (hann List.Pairwise.nil).closes_iff hempty List.prefix_rfl
  | ok stream =>
      obtain ⟨stream, err⟩ := stream
      rw [hopened] at hnode hann
      exact (hann hnode.finalLast).closes_iff hnode.streams hnode.events

/-- A step with a broker that takes everything. -/
def takesAll : RunLabel → Bool
  | .activity (.step _ (.call a)) => a.outcome = .ok
  | _ => true

theorem brokerUp_of_takesAll {p : Pool World RunActivity} {l : RunLabel} (h : takesAll l = true) :
    PromptSteps BrokerUp p l := by
  rintro i r l' rfl - a rfl -
  exact of_decide_eq_true h

/-- The request of that `Prompt`. -/
def firstPrompt : PromptRequest := { sessionID := "sess_1", runID := "run_1" }

/-- A run that completes is closed. -/
theorem completedPrompt_closed :
    ∃ p ∈ exec runStep (prompting (.serving waitingSession) firstPrompt)
        (prompted (sentAfter agentCompletes) 4),
      ∃ r, p.threads[0]? = some (.prompt r) ∧ Closed "run_1" r.published := by
  obtain ⟨p, hp, r, hr, hret, hstarted, hcall⟩ :
      ∃ p ∈ exec runStep (prompting (.serving waitingSession) firstPrompt)
          (prompted (sentAfter agentCompletes) 4),
        ∃ r, p.threads[0]? = some (.prompt r) ∧ (∃ res, r.activity = .returned res) ∧
          (∃ e ∈ r.published, e.type = "run.started") ∧
          ∃ c, r.call = some c ∧ c.req = firstPrompt ∧ c.client = .direct ∧
            c.opened = .ok (sentAfter agentCompletes, .other "connection reset") :=
    ⟨_, rfl, _, rfl, ⟨_, rfl⟩, ⟨_, List.mem_cons_self .., rfl⟩, _, rfl, rfl, rfl, rfl⟩
  obtain ⟨res, hret⟩ := hret
  obtain ⟨c, hc, hreq, hclient, hopened⟩ := hcall
  refine ⟨p, hp, r, hr, ?_⟩
  have hup : Along runStep (PromptSteps BrokerUp)
      (prompting (.serving waitingSession) firstPrompt) (prompted (sentAfter agentCompletes) 4) :=
    (along_of_forall (P := fun l => takesAll l = true) (by decide)).mono
      fun _ _ h => brokerUp_of_takesAll h
  obtain ⟨c', hc', hiff⟩ := closed_iff hup hp hr hret hstarted
  obtain rfl := Option.mem_unique hc hc'
  have hnode : NodeStream openedPrompt (sentAfter agentCompletes) c.client c.opened := by
    rw [hclient, hopened]
    exact .direct (arrives_sentAfter rfl) _
  have hclosed := (hiff _ _ hnode (hreq ▸ rfl)).2
  rw [hreq, hopened] at hclosed
  exact hclosed ⟨_, List.mem_cons_self .., rfl⟩

/-- **A run that stays open.**  The stream breaks after a chunk: the activity has announced the
run and returns, and no event has closed it. -/
theorem brokenPrompt_not_closed :
    Arrives openedPrompt (sentAfter agentStreams) ∧
      ∃ p ∈ exec runStep (prompting (.serving waitingSession) firstPrompt)
          (prompted (sentAfter agentStreams) 5),
        ∃ r, p.threads[0]? = some (.prompt r) ∧ (∃ res, r.activity = .returned res) ∧
          r.published.map (fun e => (e.runID, e.type)) =
            [("run_1", "run.started"), ("run_1", "chunk")] ∧
          ¬ Closed "run_1" r.published := by
  refine ⟨arrives_sentAfter rfl, _, rfl, _, rfl, ⟨_, rfl⟩, rfl, ?_⟩
  rintro ⟨before, last, heq, hlast, -⟩
  have hmem : last ∈ before ++ [last] := List.mem_append_right _ (List.mem_singleton_self _)
  rw [← heq] at hmem
  obtain ⟨hin, -⟩ := List.mem_filter.1 hmem
  rcases List.mem_cons.1 hin with rfl | hin
  · cases hlast
  · obtain rfl := List.mem_singleton.1 hin
    cases hlast

/-- The events of a run, as they were published. -/
def runEvents (runID : String) (w : World) : List Event :=
  w.published.filter fun e => e.runID = runID

/-- The events are numbered in the order in which they were published. -/
def Increasing (events : List Event) : Prop :=
  events.Pairwise fun e e' => e.sequence < e'.sequence

/-- What keeps the numbers of a run in order.  A client opens a stream of the supervisor for the
request of the activity, with fewer items than the 64 bits of the counter can number.  If `run.started` was published, the first item of the supervisor has an
event without a type, which is not published.  And a `Cancel` publishes only when nothing of its
run was published before.  Other activities publish nothing of the run. -/
def InOrder (runID : String) (p : Pool World RunActivity) : RunLabel → Prop
  | .others w => runEvents runID w = runEvents runID p.shared
  | .activity (.spawn _) => True
  | .activity (.step i l) =>
      match p.threads[i]?, l with
      | some (.prompt r), .opened client stream =>
          ∀ req sess node run, r.activity = .nodePrompt req sess node run →
            ∃ b items, NodeStream b items client stream ∧ b.req = req ∧ items.length < 2 ^ 63 ∧
              (run.id = runID → r.published ≠ [] → ∀ item ∈ items.head?, item.event.type = "")
      | some (.cancel (.publishCancelling req _)), .call a =>
          req.runID = runID → a.outcome.took = true → runEvents runID p.shared = []
      | _, _ => True

/-- What the place of a `Prompt` says about the numbers of the run, when `events` are published. -/
def Relay.Ordered (runID : String) (events : List Event) (r : Relay) : Prop :=
  match r.activity with
  | .getSession _ | .containerNode .. =>
      r.published = [] ∧ r.call = none ∧ ∀ e ∈ events, e.sequence = 0
  | .upsertSession req _ _ run | .upsertRun req _ _ run | .publishStarted req _ _ run =>
      r.published = [] ∧ r.call = none ∧ ForRun req run ∧ ∀ e ∈ events, e.sequence = 0
  | .nodePrompt req _ _ run =>
      ForRun req run ∧
        match r.call with
        | none => (∀ e ∈ events, e.sequence ≤ 1) ∧ (r.published = [] → ∀ e ∈ events, e.sequence = 0)
        | some c =>
            (∀ e' ∈ eventsOf (streamItems c.stream), e'.runID = run.id ∧ 1 ≤ e'.sequence ∧
              (run.id = runID → ∀ e ∈ events, e.sequence < e'.sequence)) ∧
            Increasing (eventsOf (streamItems c.stream))
  | .returned _ | .upsertFailedRun .. | .upsertFailedSession .. | .upsertFinalRun ..
  | .upsertFinalSession .. | .appendAudit _ => True

section

variable {w w' : World} {a : Answer} {r r' : Relay} {l : RelayLabel} {runID : String}

theorem runEvents_append {events : List Event} (h : w'.published = w.published ++ events) :
    runEvents runID w' = runEvents runID w ++ events.filter fun e => e.runID = runID := by
  unfold runEvents
  rw [h, List.filter_append]

theorem stamped_filter (o : Outcome) (now : Time) (event : Event) :
    (stamped o now event).filter (fun e => e.runID = runID) =
      if o.took = true ∧ event.runID = runID then [stamp now event] else [] := by
  unfold stamped
  by_cases htook : o.took = true
  · by_cases hrun : event.runID = runID <;> simp [htook, hrun]
  · simp [htook]

theorem Increasing.concat {events : List Event} {e : Event} (h : Increasing events)
    (he : ∀ e' ∈ events, e'.sequence < e.sequence) : Increasing (events ++ [e]) := by
  refine List.pairwise_append.2 ⟨h, List.pairwise_singleton .., fun e' he' x hx => ?_⟩
  exact List.mem_singleton.1 hx ▸ he e' he'

theorem Relay.Ordered.cancelled {e : Event} (h : r.Ordered runID []) (he : e.sequence = 0) :
    r.Ordered runID [e] := by
  have hzero : ∀ e' ∈ [e], e'.sequence = 0 := fun e' he' => List.mem_singleton.1 he' ▸ he
  unfold Relay.Ordered at h ⊢
  split at h
  · exact ⟨h.1, h.2.1, hzero⟩
  · exact ⟨h.1, h.2.1, hzero⟩
  · exact ⟨h.1, h.2.1, h.2.2.1, hzero⟩
  · exact ⟨h.1, h.2.1, h.2.2.1, hzero⟩
  · exact ⟨h.1, h.2.1, h.2.2.1, hzero⟩
  · obtain ⟨hasked, hcall⟩ := h
    refine ⟨hasked, ?_⟩
    split at hcall
    · exact ⟨fun e' he' => by rw [hzero e' he']; decide, fun _ => hzero⟩
    · obtain ⟨hrest, hinc⟩ := hcall
      refine ⟨fun e' he' => ?_, hinc⟩
      obtain ⟨hid, hpos, -⟩ := hrest e' he'
      refine ⟨hid, hpos, fun _ x hx => ?_⟩
      rw [hzero x hx]
      grind
  all_goals trivial

/-- What the next event of a stream does to the numbers of the run. -/
theorem Increasing.relay {events : List Event} {item : PromptStreamItem}
    {items : List PromptStreamItem} {id : String} (h : Increasing events)
    (hrest : ∀ e' ∈ eventsOf (item :: items), e'.runID = id ∧ 1 ≤ e'.sequence ∧
      (id = runID → ∀ e ∈ events, e.sequence < e'.sequence))
    (hinc : Increasing (eventsOf (item :: items))) (a : Answer) :
    Increasing (events ++ (relayed a item).filter fun e => e.runID = runID) ∧
      (∀ e' ∈ eventsOf items, e'.runID = id ∧ 1 ≤ e'.sequence ∧
        (id = runID → ∀ e ∈ events ++ (relayed a item).filter (fun e => e.runID = runID),
          e.sequence < e'.sequence)) ∧
      Increasing (eventsOf items) := by
  unfold relayed
  by_cases htype : item.event.type = ""
  · have hskip : eventsOf (item :: items) = eventsOf items := by simp [eventsOf, htype]
    rw [hskip] at hrest hinc
    simp only [htype, ne_eq, not_true_eq_false, if_false, List.filter_nil, List.append_nil]
    exact ⟨h, hrest, hinc⟩
  · have hcons : eventsOf (item :: items) = item.event :: eventsOf items := by
      simp [eventsOf, htype]
    rw [hcons] at hrest hinc
    obtain ⟨hnext, hinc⟩ := List.pairwise_cons.1 hinc
    obtain ⟨hid, hpos, hbelow⟩ := hrest item.event (List.mem_cons_self ..)
    rw [if_pos htype, stamped_filter]
    split_ifs with htook
    · have hrun : id = runID := hid.symm.trans htook.2
      refine ⟨h.concat fun e he => ?_, fun e' he' => ?_, hinc⟩
      · rw [stamp_sequence]
        exact hbelow hrun e he
      · obtain ⟨hid', hpos', hbelow'⟩ := hrest e' (List.mem_cons_of_mem _ he')
        refine ⟨hid', hpos', fun hrun e he => ?_⟩
        rcases List.mem_append.1 he with he | he
        · exact hbelow' hrun e he
        · rw [List.mem_singleton.1 he, stamp_sequence]
          exact hnext e' he'
    · rw [List.append_nil]
      exact ⟨h, fun e' he' => hrest e' (List.mem_cons_of_mem _ he'), hinc⟩

/-- A stream of the supervisor is opened. -/
theorem nodeStream_inOrder {b : PromptStart} {items : List PromptStreamItem} {client : Client}
    {stream : Except Err (List PromptStreamItem × Err)} {events published : List Event}
    {req : PromptRequest} {run : Run} (h : NodeStream b items client stream) (hreq : b.req = req)
    (hlen : items.length < 2 ^ 63) (hasked : ForRun req run) (hle : ∀ e ∈ events, e.sequence ≤ 1)
    (hzero : published = [] → ∀ e ∈ events, e.sequence = 0)
    (hfirst : run.id = runID → published ≠ [] → ∀ item ∈ items.head?, item.event.type = "") :
    (∀ e' ∈ eventsOf (streamItems stream), e'.runID = run.id ∧ 1 ≤ e'.sequence ∧
        (run.id = runID → ∀ e ∈ events, e.sequence < e'.sequence)) ∧
      Increasing (eventsOf (streamItems stream)) := by
  have hid : b.runID = run.id := by
    unfold PromptStart.runID
    rw [hreq, if_neg hasked.2, hasked.1]
  cases hstream : stream with
  | error e => exact ⟨fun e' he' => (by cases he'), List.Pairwise.nil⟩
  | ok s =>
      obtain ⟨s, err⟩ := s
      rw [hstream] at h
      have hs := h.streams
      refine ⟨fun e' he' => ?_, List.Pairwise.sublist h.events.sublist (hs.sequences hlen)⟩
      have hmem : e' ∈ eventsOf items := h.events.subset he'
      obtain ⟨hpos, htwo⟩ := hs.sequence_pos hlen hmem
      refine ⟨(hs.runID hmem).trans hid, hpos, fun hrun e he => ?_⟩
      by_cases hpub : published = []
      · rw [hzero hpub e he]
        grind
      · have h2 := htwo (hfirst hrun hpub)
        have h1 := hle e he
        grind

/-- **A step of a `Prompt`** that meets the condition keeps the numbers in order. -/
theorem Relay.Step.ordered (h : r.Step w l w' r') (hr : r.Ordered runID (runEvents runID w))
    (hinc : Increasing (runEvents runID w))
    (hopen : ∀ client stream req sess node run, l = .opened client stream →
      r.activity = .nodePrompt req sess node run →
      ∃ b items, NodeStream b items client stream ∧ b.req = req ∧ items.length < 2 ^ 63 ∧
        (run.id = runID → r.published ≠ [] → ∀ item ∈ items.head?, item.event.type = "")) :
    r'.Ordered runID (runEvents runID w') ∧ Increasing (runEvents runID w') := by
  unfold Relay.Ordered at hr
  cases h with
  | @opened req sess node run client stream hx hc =>
      rw [hx, hc] at hr
      obtain ⟨hasked, hle, hzero⟩ := hr
      obtain ⟨b, items, hnode, hreq, hlen, hfirst⟩ := hopen client stream req sess node run rfl hx
      refine ⟨?_, hinc⟩
      unfold Relay.Ordered
      dsimp only
      rw [hx]
      exact ⟨hasked, nodeStream_inOrder hnode hreq hlen hasked hle hzero hfirst⟩
  | failed => exact ⟨trivial, hinc⟩
  | @broke _ _ _ _ c a err hx hc hs =>
      refine ⟨?_, hinc⟩
      cases onBreak c.kept err <;> trivial
  | refused a item items err e hx hc hs hpub =>
      rw [hx, hc] at hr
      obtain ⟨-, hrest, hnums⟩ := hr
      rw [hs] at hrest hnums
      rw [runEvents_append (publishing_published w a item)]
      exact ⟨trivial, (hinc.relay hrest hnums a).1⟩
  | received a item items err kept hx hc hs hpub hafter =>
      rw [hx, hc] at hr
      obtain ⟨hasked, hrest, hnums⟩ := hr
      rw [hs] at hrest hnums
      rw [runEvents_append (publishing_published w a item)]
      obtain ⟨hinc', hrest', hnums'⟩ := hinc.relay hrest hnums a
      refine ⟨?_, hinc'⟩
      unfold Relay.Ordered
      dsimp only
      rw [hx]
      exact ⟨hasked, hrest', hnums'⟩
  | ended a item items err res hx hc hs hpub hafter =>
      rw [hx, hc] at hr
      obtain ⟨-, hrest, hnums⟩ := hr
      rw [hs] at hrest hnums
      rw [runEvents_append (publishing_published w a item)]
      refine ⟨?_, (hinc.relay hrest hnums a).1⟩
      cases res <;> trivial
  | @started req sess node run a hx =>
      rw [hx] at hr
      obtain ⟨hpub, hc, hasked, hzero⟩ := hr
      rw [runEvents_append (World.publish_published ..), stamped_filter]
      unfold Relay.Ordered
      dsimp only
      rw [hc, hpub]
      split_ifs with htook
      · refine ⟨⟨hasked, fun e he => ?_, fun hnil => ?_⟩, hinc.concat fun e he => ?_⟩
        · rcases List.mem_append.1 he with he | he
          · rw [hzero e he]
            decide
          · rw [List.mem_singleton.1 he, stamp_sequence]
            exact Int64.le_refl 1
        · simp [stamped, htook.1] at hnil
        · rw [hzero e he, stamp_sequence]
          exact show (0 : Int64) < 1 by decide
      · rw [List.append_nil]
        exact ⟨⟨hasked, fun e he => by rw [hzero e he]; decide, fun _ => hzero⟩, hinc⟩
  | quiet a x' w' hx hstep hpub =>
      have hsame : runEvents runID w' = runEvents runID w := by
        unfold runEvents
        rw [hpub]
      rw [hsame]
      refine ⟨?_, hinc⟩
      have hnext := (Prompt.step_next hstep).1
      clear hstep hopen
      generalize hact : r.activity = x at hr hx hnext
      cases hnext with
      | announced | event | failed | ended => cases hx
      | begun req sess k =>
          exact ⟨hr.1, hr.2.1, ⟨rfl, Prompt.newRun_id_ne_empty req sess a⟩, hr.2.2⟩
      | read | sessionWritten | runWritten => exact hr
      | notRead | noNode | failedRunWritten | failedSessionWritten | runNotStored | runStored
      | sessionNotStored | sessionStored | audited => trivial

/-- What a step of a `Cancel` publishes. -/
theorem Cancel.step_published {x x' : Cancel} (h : x.step w a = some (w', x')) :
    w'.published = w.published ∨
      ∃ req node event, x = .publishCancelling req node ∧ event.runID = req.runID ∧
        event.sequence = 0 ∧ w'.published = w.published ++ stamped a.outcome a.now event := by
  cases x with
  | publishCancelling req node =>
      obtain ⟨rfl, -⟩ := some_pair_inj h
      exact Or.inr ⟨req, node, _, rfl, rfl, rfl, World.publish_published ..⟩
  | upsertSession req sess node =>
      obtain ⟨rfl, -⟩ := some_pair_inj h
      exact Or.inl (World.write_published ..)
  | getSession | containerNode | nodeCancel =>
      obtain ⟨rfl, -⟩ := some_pair_inj h
      exact Or.inl rfl
  | returned => cases h

end

/-- The invariant: the numbers are in order, and so they stay whatever the `Prompt`, which is the
first activity, publishes next. -/
structure Numbered (runID : String) (p : Pool World RunActivity) : Prop where
  increasing : Increasing (runEvents runID p.shared)
  prompt : ∀ (i : ℕ) r, p.threads[i]? = some (.prompt r) →
    i = 0 ∧ r.Ordered runID (runEvents runID p.shared)

section

variable {runID : String} {p q : Pool World RunActivity}

/-- The activities that are not the `Prompt`. -/
theorem Numbered.cancel {i : ℕ} {a : Answer} {x x' : Cancel} {w' : World} (h : Numbered runID p)
    (hC : InOrder runID p (.activity (.step i (.call a)))) (hi : p.threads[i]? = some (.cancel x))
    (hstep : x.step p.shared a = some (w', x')) :
    Numbered runID ⟨w', p.threads.set i (.cancel x')⟩ := by
  -- the `Prompt` is another activity
  have hprompt : ∀ (j : ℕ) r, (p.threads.set i (.cancel x'))[j]? = some (.prompt r) →
      p.threads[j]? = some (.prompt r) := by
    intro j r hj
    rcases getElem?_set_cases hj with ⟨-, hx⟩ | ⟨-, hj⟩
    · cases hx
    · exact hj
  have hsame (heq : runEvents runID w' = runEvents runID p.shared) :
      Numbered runID ⟨w', p.threads.set i (.cancel x')⟩ := by
    refine ⟨?_, fun j r hj => ?_⟩
    · show Increasing (runEvents runID w')
      rw [heq]
      exact h.increasing
    · show j = 0 ∧ r.Ordered runID (runEvents runID w')
      rw [heq]
      exact h.prompt j r (hprompt j r hj)
  rcases Cancel.step_published hstep with hpub | ⟨req, node, event, rfl, hid, hseq, hpub⟩
  · refine hsame ?_
    unfold runEvents
    rw [hpub]
  · have hadd : runEvents runID w' = runEvents runID p.shared ++
        (stamped a.outcome a.now event).filter fun e => e.runID = runID := runEvents_append hpub
    rw [stamped_filter] at hadd
    split_ifs at hadd with htook
    · have hempty : runEvents runID p.shared = [] := by
        simp only [InOrder, hi] at hC
        exact hC (hid.symm.trans htook.2) htook.1
      rw [hempty, List.nil_append] at hadd
      refine ⟨?_, fun j r hj => ?_⟩
      · show Increasing (runEvents runID w')
        rw [hadd]
        exact List.pairwise_singleton ..
      · obtain ⟨hj0, hr⟩ := h.prompt j r (hprompt j r hj)
        refine ⟨hj0, ?_⟩
        show r.Ordered runID (runEvents runID w')
        rw [hempty] at hr
        rw [hadd]
        exact hr.cancelled ((stamp_sequence _ _).trans hseq)
    · exact hsame (hadd.trans (List.append_nil _))

/-- **Every step that meets the condition keeps the numbers in order.** -/
theorem Numbered.step {l : RunLabel} (h : Numbered runID p) (hC : InOrder runID p l)
    (hq : runStep p l = some q) : Numbered runID q := by
  cases l with
  | others w =>
      obtain rfl := Option.some.inj hq
      have heq : runEvents runID w = runEvents runID p.shared := hC
      refine ⟨?_, fun i r hi => ?_⟩
      · show Increasing (runEvents runID w)
        rw [heq]
        exact h.increasing
      · show i = 0 ∧ r.Ordered runID (runEvents runID w)
        rw [heq]
        exact h.prompt i r hi
  | activity l =>
      have hpool : p.step runMachine l = some q := hq
      cases l with
      | spawn req =>
          obtain ⟨t, ht, rfl⟩ := Pool.step_spawn.1 hpool
          refine ⟨h.increasing, fun i r hi => ?_⟩
          rcases getElem?_concat_cases hi with ⟨-, hx⟩ | hi
          · obtain rfl := Option.some.inj ht
            cases hx
          · exact h.prompt i r hi
      | step i l =>
          obtain ⟨x, w', x', hi, hrun, rfl⟩ := Pool.step_run.1 hpool
          cases x with
          | prompt r =>
              obtain ⟨w'', r', hstep, rfl, rfl⟩ := map_eq_some_pair hrun
              obtain ⟨rfl, hr⟩ := h.prompt i r hi
              obtain ⟨hr', hinc⟩ := (Relay.step_spec hstep).ordered hr h.increasing
                fun client stream req sess node run hl hx => by
                  subst hl
                  simp only [InOrder, hi] at hC
                  exact hC req sess node run hx
              refine ⟨hinc, fun j r₂ hj => ?_⟩
              rcases getElem?_set_cases hj with ⟨rfl, hx⟩ | ⟨hne, hj⟩
              · cases hx
                exact ⟨rfl, hr'⟩
              · exact (hne (h.prompt j r₂ hj).1).elim
          | cancel x =>
              cases l with
              | opened => cases hrun
              | call a =>
                  obtain ⟨w'', x', hstep, rfl, rfl⟩ := map_eq_some_pair hrun
                  exact h.cancel hC hi hstep

/-- **The numbers of a run increase.**  A `Prompt` runs among any `Cancel`s and other activities,
from a world in which no event of the run is published.  When every step is as `InOrder` says, the
events of the run have increasing numbers, in the order in which they were published. -/
theorem published_increasing {w : World} {req : PromptRequest} {l : List RunLabel}
    (hfresh : runEvents runID w = [])
    (hl : Along runStep (InOrder runID) (prompting w req) l)
    (h : exec runStep (prompting w req) l = some p) : Increasing (runEvents runID p.shared) := by
  have hstart : Numbered runID (prompting w req) := by
    have hnone : runEvents runID (prompting w req).shared = [] := hfresh
    refine ⟨?_, fun i r hi => ?_⟩
    · rw [hnone]
      exact List.Pairwise.nil
    · cases i with
      | zero =>
          cases hi
          rw [hnone]
          exact ⟨rfl, rfl, rfl, fun e he => by cases he⟩
      | succ i => cases hi
  exact (exec_invariant (I := Numbered runID) (fun _ _ _ hp hC hs => hp.step hC hs) hstart hl
    h).increasing

end

/-- The agent accepts the prompt, sends an event without a type and then the final one. -/
def agentAnswersLate : List HandleLabel :=
  [promptStep 0 .subscribe, promptStep 0 (.answered none 1),
    .route { sessionID := "sess_1", runID := "run_1" }, promptStep 0 (.recv 2),
    promptStep 0 (.sent none), .route (completed "sess_1" "run_1"), promptStep 0 (.recv 3),
    promptStep 0 (.sent none)]

/-- A `Cancel` of the run that publishes before the `Prompt` does. -/
def cancelledEarly : List RunLabel :=
  .activity (.spawn { sessionID := "sess_1", runID := "run_1" }) ::
    List.replicate 4 (.activity (.step 1 (.call {})))

/-- The numbers of a run that is cancelled before it begins, and whose first event has no type. -/
theorem cancelledEarly_increasing :
    ∃ p ∈ exec runStep (prompting (.serving waitingSession) firstPrompt)
        (cancelledEarly ++ prompted (sentAfter agentAnswersLate) 2),
      (runEvents "run_1" p.shared).map (fun e => e.sequence) = [0, 1, 2] ∧
        Increasing (runEvents "run_1" p.shared) := by
  obtain ⟨p, hp, hseqs⟩ :
      ∃ p ∈ exec runStep (prompting (.serving waitingSession) firstPrompt)
          (cancelledEarly ++ prompted (sentAfter agentAnswersLate) 2),
        (runEvents "run_1" p.shared).map (fun e => e.sequence) = [0, 1, 2] := by
    decide +kernel
  refine ⟨p, hp, hseqs, published_increasing (w := .serving waitingSession) rfl ?_ hp⟩
  refine .cons trivial rfl (.cons trivial rfl (.cons trivial rfl (.cons trivial rfl ?_)))
  refine .cons (fun _ _ => rfl) rfl ?_
  refine .cons trivial rfl (.cons trivial rfl (.cons trivial rfl (.cons trivial rfl ?_)))
  refine .cons trivial rfl (.cons ?_ rfl (.cons trivial rfl (.cons trivial rfl trivial)))
  intro req sess node run hx
  cases hx
  refine ⟨openedPrompt, _, .direct (arrives_sentAfter (l := agentAnswersLate) rfl) _, rfl, by decide, ?_⟩
  intro _ _ item hitem
  cases hitem
  rfl

/-- **Two events of one number.**  `run.started` and the first event of the agent both have the
number one. -/
theorem completedPrompt_not_increasing :
    Arrives openedPrompt (sentAfter agentCompletes) ∧
      ∃ p ∈ exec runStep (prompting (.serving waitingSession) firstPrompt)
          (prompted (sentAfter agentCompletes) 1),
        (runEvents "run_1" p.shared).map (fun e => (e.type, e.sequence)) =
            [("run.started", 1), ("completed", 1)] ∧
          ¬ Increasing (runEvents "run_1" p.shared) := by
  refine ⟨arrives_sentAfter rfl, _, rfl, rfl, fun h => ?_⟩
  have hlt := (List.pairwise_cons.1 h).1 _ (List.mem_cons_self ..)
  exact absurd hlt (by decide)

end Workflows
end Agentd
