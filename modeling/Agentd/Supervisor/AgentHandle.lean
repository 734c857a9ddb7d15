/-
# The event streams of an agent

`runtime/supervisor/manager.go`: the `streams` of an `agentHandle` and
`Manager.Prompt`.  A `Prompt` subscribes a channel under its run id, calls
`session/prompt` on the agent, and then turns every event of the channel into an
item of its response stream, until a final event, the end of its context or an
error of the stream; at its end it unsubscribes the run id.  Meanwhile the reader
of the ACP client hands every `session/update` to `routeEvent`, which offers it to
the channel registered under the run id of the event and drops it when that
channel is full.

`subscribe`, `unsubscribe` and `routeEvent` are critical sections of `a.mu`, so
each is one step, and so is every receive and every send of `Prompt`.  The label
of a step holds what the surroundings decide: the answer of the agent, the
result of `stream.Send`, the end of the context and the time.  `sessionAgent`, with
which `Prompt` begins, is outside this module: a `Prompt` starts with the session
it returned.

`Prompt.step_spec` says once what a step of a `Prompt` can do, and
`Prompt.Step.frame` what it leaves alone.  `StreamsOk` holds in every run: the
registered channels are open and no two `Prompt`s read from one channel, so
nothing here panics.
-/

import Agentd.Acp.Stdio
import Agentd.Concurrency.Feed
import Agentd.Concurrency.Pool

namespace Agentd
namespace Supervisor

open Control Concurrency Acp

/-- `rpc.PromptStreamItem`. -/
structure PromptStreamItem where
  event : Event := {}
  run : Run := {}
  final : Bool := false
  error : String := ""

/-- The item reports that `session/prompt` has failed: it has no event. -/
structure PromptStreamItem.IsReport (item : PromptStreamItem) : Prop where
  event : item.event = {}
  run : item.run.state = .failed
  final : item.final = true

/-- The streams of an `agentHandle`: `streams` maps a run id to the number of its
channel in `chans`, which are all the channels made so far. -/
structure AgentHandle where
  streams : GoMap String ℕ := ∅
  chans : List (Chan StreamEvent 64) := []

namespace AgentHandle

/-- `subscribe`: the number is that of the new channel. -/
def subscribe (a : AgentHandle) (runID : String) : AgentHandle × ℕ :=
  ({ streams := a.streams.insert runID a.chans.length
     chans := a.chans ++ [.make StreamEvent 64] }, a.chans.length)

/-- `unsubscribe`; `none` is the panic of a second close. -/
def unsubscribe (a : AgentHandle) (runID : String) : Option AgentHandle :=
  match a.streams.lookup runID with
  | none => some a
  | some n =>
      (a.chans[n]?.bind Chan.close).map fun ch =>
        { streams := a.streams.erase runID, chans := a.chans.set n ch }

/-- `routeEvent`; `none` is the panic of a send on a closed channel. -/
def routeEvent (a : AgentHandle) (event : StreamEvent) : Option AgentHandle :=
  match a.streams.lookup event.runID with
  | none => some a
  | some n =>
      (a.chans[n]?.bind fun ch => ch.offer event).map fun ch => { a with chans := a.chans.set n ch }

end AgentHandle

/-- Where a `Prompt` stands: before `subscribe`; in `client.Prompt`; before the send
of the item that reports its failure; in the `select`; before the send of an
item of the loop; before the deferred `unsubscribe`; or at its end. -/
inductive PromptPC
  | subscribe
  | clientPrompt
  | sendFailed (item : PromptStreamItem)
  | select
  | send (item : PromptStreamItem)
  | unsubscribe (res : Except String Unit)
  | returned (res : Except String Unit)

/-- A call of `Manager.Prompt`, after `sessionAgent`.  `events` is the number of its
channel and `sent` is what went out on its stream. -/
structure Prompt where
  sess : Session
  runID : String
  run : Run
  events : ℕ := 0
  seq : Int64 := 0
  sent : List PromptStreamItem := []
  pc : PromptPC := .subscribe

/-- What a `Prompt` begins with: `m.containerID`, the session `sessionAgent` found,
the request, the text of `NewID`, and the time. -/
structure PromptStart where
  containerID : String := ""
  sess : Session
  req : PromptRequest := {}
  raw : String := ""
  now : Time := 0

/-- The run id of a `Prompt`. -/
def PromptStart.runID (b : PromptStart) : String :=
  if b.req.runID = "" then newID "run" b.raw else b.req.runID

/-- The `Prompt` that begins with `b`. -/
def PromptStart.prompt (b : PromptStart) : Prompt where
  sess := b.sess
  runID := b.runID
  run :=
    { id := b.runID, sessionID := b.sess.id, containerID := b.containerID,
      agentInstanceID := b.sess.agentInstanceID, state := .dispatching, input := b.req.input,
      startedAt := b.now }

/-- The event ends its run: `final` in the loop of `Prompt`. -/
def endsRun (event : StreamEvent) : Bool :=
  event.final || event.type = "completed" || event.type = "cancelled" || event.type = "failed"

/-- The state of a run after its final event. -/
def finalState (event : StreamEvent) : RunState :=
  if event.type = "cancelled" then .cancelled
  else if event.type = "failed" then .failed
  else .completed

namespace Prompt

/-- The `session.Event` of an event. -/
def sessionEvent (p : Prompt) (event : StreamEvent) (now : Time) : Event where
  sessionID := p.sess.id
  runID := p.runID
  type := event.type
  sequence := p.seq + 1
  data := [("text", .text event.text), ("error", .text event.error),
    ("metadata", .map event.metadata)]
  time := now

/-- The run after an event. -/
def nextRun (p : Prompt) (event : StreamEvent) (now : Time) : Run :=
  let run := { p.run with sequence := p.seq + 1, state := .streaming }
  if endsRun event then
    { run with state := finalState event, error := event.error, completedAt := some now }
  else run

/-- The item of an event. -/
def item (p : Prompt) (event : StreamEvent) (now : Time) : PromptStreamItem where
  event := p.sessionEvent event now
  run := p.nextRun event now
  final := endsRun event
  error := event.error

/-- The body of the loop for a received event, up to its `stream.Send`. -/
def receive (p : Prompt) (event : StreamEvent) (now : Time) : Prompt :=
  { p with seq := p.seq + 1, run := p.nextRun event now, pc := .send (p.item event now) }

/-- `client.Prompt` has failed: the run and the item that reports it. -/
def failed (p : Prompt) (err : String) (now : Time) : Prompt :=
  let run := { p.run with state := .failed, error := err, completedAt := some now }
  { p with run, pc := .sendFailed { run, final := true, error := err } }

/-- The `Prompt` has subscribed and has not unsubscribed. -/
def subscribed (p : Prompt) : Bool :=
  match p.pc with
  | .subscribe | .returned _ => false
  | _ => true

/-- The `Prompt` is in its `select`. -/
def selecting (c : Prompt) : Bool :=
  match c.pc with
  | .select => true
  | _ => false

theorem selecting_iff {p : Prompt} : p.selecting = true ↔ p.pc = .select := by
  unfold selecting
  cases p.pc <;> simp

/-- The items that went out, and the one that is about to. -/
def items (p : Prompt) : List PromptStreamItem :=
  match p.pc with
  | .sendFailed item | .send item => p.sent ++ [item]
  | _ => p.sent

theorem sent_subset_items (p : Prompt) : p.sent ⊆ p.items := by
  unfold items
  split
  · exact List.subset_append_left _ _
  · exact List.subset_append_left _ _
  · exact List.Subset.refl _

end Prompt

/-- The item carries the event, for the `Prompt` of this session and run. -/
structure Carries (sessionID runID : String) (item : PromptStreamItem) (event : StreamEvent) :
    Prop where
  session : item.event.sessionID = sessionID
  run : item.event.runID = runID
  type : item.event.type = event.type
  data : item.event.data = [("text", .text event.text), ("error", .text event.error),
    ("metadata", .map event.metadata)]
  final : item.final = endsRun event
  error : item.error = event.error

theorem Prompt.item_carries (p : Prompt) (event : StreamEvent) (now : Time) :
    Carries p.sess.id p.runID (p.item event now) event :=
  ⟨rfl, rfl, rfl, rfl, rfl, rfl⟩

/-- What happens next to a `Prompt`: `answered` is the return of `client.Prompt` and
`sent` that of `stream.Send`, with their errors. -/
inductive PromptLabel
  | subscribe
  | answered (err : Option String) (now : Time)
  | recv (now : Time)
  | ctxDone (err : String)
  | sent (err : Option String)
  | unsubscribe

/-- What a function that returns an `error` returns. -/
def resultOf : Option String → Except String Unit
  | none => .ok ()
  | some err => .error err

/-- One step of a `Prompt`.  A receive from a closed channel returns the zero
event. -/
def Prompt.step (p : Prompt) (a : AgentHandle) (l : PromptLabel) : Option (AgentHandle × Prompt) :=
  match p.pc, l with
  | .subscribe, .subscribe =>
      let r := a.subscribe p.runID
      some (r.1, { p with events := r.2, pc := .clientPrompt })
  | .clientPrompt, .answered none _ => some (a, { p with pc := .select })
  | .clientPrompt, .answered (some err) now => some (a, p.failed err now)
  | .sendFailed item, .sent err =>
      some (a, { p with sent := if err.isNone then p.sent ++ [item] else p.sent
                        pc := .unsubscribe (resultOf err) })
  | .select, .ctxDone err => some (a, { p with pc := .unsubscribe (.error err) })
  | .select, .recv now =>
      a.chans[p.events]?.bind fun ch =>
        match ch.recv with
        | .value event ch' =>
            some ({ a with chans := a.chans.set p.events ch' }, p.receive event now)
        | .closed => some (a, p.receive {} now)
        | .empty => none
  | .send _, .sent (some err) => some (a, { p with pc := .unsubscribe (.error err) })
  | .send item, .sent none =>
      some (a, { p with sent := p.sent ++ [item]
                        pc := if item.final then .unsubscribe (.ok ()) else .select })
  | .unsubscribe res, .unsubscribe =>
      (a.unsubscribe p.runID).map fun a' => (a', { p with pc := .returned res })
  | _, _ => none

/-- The `Prompt`s on an agent. -/
def promptMachine : Machine AgentHandle Prompt PromptStart PromptLabel where
  start _ b := some b.prompt
  run _ a p l := p.step a l

/-- What happens next at an agent: something to its `Prompt`s, or the reader hands
over an event. -/
inductive HandleLabel
  | prompts (l : PoolLabel PromptStart PromptLabel)
  | route (event : StreamEvent)

/-- One step at an agent. -/
def handleStep (p : Pool AgentHandle Prompt) : HandleLabel → Option (Pool AgentHandle Prompt)
  | .prompts l => p.step promptMachine l
  | .route event => (p.shared.routeEvent event).map fun a => { p with shared := a }

/-- An agent to which nothing has happened. -/
def freshHandle : Pool AgentHandle Prompt := ⟨{}, []⟩

/-- A session that a `Prompt` may be about. -/
def session (id : String) : Session := { id, state := .active }

/-- The start of a `Prompt`, and one of its steps. -/
def startPrompt (sessionID runID : String) : HandleLabel :=
  .prompts (.spawn { sess := session sessionID, req := { sessionID, runID } })

def promptStep (i : ℕ) (l : PromptLabel) : HandleLabel := .prompts (.step i l)

/-- A chunk and the final event of a run. -/
def chunk (sessionID runID : String) : StreamEvent := { sessionID, runID, type := "chunk" }

def completed (sessionID runID : String) : StreamEvent :=
  { sessionID, runID, type := "completed", final := true }

/-- What a step of a `Prompt` can do. -/
inductive Prompt.Step (p : Prompt) (a : AgentHandle) : PromptLabel → AgentHandle → Prompt → Prop
  | subscribe (hpc : p.pc = .subscribe) :
      Step p a .subscribe (a.subscribe p.runID).1
        { p with events := a.chans.length, pc := .clientPrompt }
  | accepted (hpc : p.pc = .clientPrompt) (now : Time) :
      Step p a (.answered none now) a { p with pc := .select }
  | refused (hpc : p.pc = .clientPrompt) (err : String) (now : Time) :
      Step p a (.answered (some err) now) a (p.failed err now)
  | reported (item : PromptStreamItem) (hpc : p.pc = .sendFailed item) (err : Option String) :
      Step p a (.sent err) a
        { p with sent := if err.isNone then p.sent ++ [item] else p.sent
                 pc := .unsubscribe (resultOf err) }
  | ctxDone (hpc : p.pc = .select) (err : String) :
      Step p a (.ctxDone err) a { p with pc := .unsubscribe (.error err) }
  | recv (ch ch' : Chan StreamEvent 64) (event : StreamEvent) (hpc : p.pc = .select)
      (hch : a.chans[p.events]? = some ch) (hrecv : ch.recv = .value event ch') (now : Time) :
      Step p a (.recv now) { a with chans := a.chans.set p.events ch' } (p.receive event now)
  | recvClosed (ch : Chan StreamEvent 64) (hpc : p.pc = .select)
      (hch : a.chans[p.events]? = some ch) (hrecv : ch.recv = .closed) (now : Time) :
      Step p a (.recv now) a (p.receive {} now)
  | sendError (item : PromptStreamItem) (hpc : p.pc = .send item) (err : String) :
      Step p a (.sent (some err)) a { p with pc := .unsubscribe (.error err) }
  | sent (item : PromptStreamItem) (hpc : p.pc = .send item) :
      Step p a (.sent none) a
        { p with sent := p.sent ++ [item]
                 pc := if item.final then .unsubscribe (.ok ()) else .select }
  | unsubscribe (a' : AgentHandle) (res : Except String Unit) (hpc : p.pc = .unsubscribe res)
      (ha : a.unsubscribe p.runID = some a') :
      Step p a .unsubscribe a' { p with pc := .returned res }

section

variable {a a' : AgentHandle} {p p' : Prompt} {l : PromptLabel}

/-- **A step of a `Prompt` is one of `Prompt.Step`.** -/
theorem Prompt.step_spec (h : p.step a l = some (a', p')) : p.Step a l a' p' := by
  unfold Prompt.step at h
  split at h
  · next hpc =>
      obtain ⟨rfl, rfl⟩ := some_pair_inj h
      exact .subscribe hpc
  · next now hpc =>
      obtain ⟨rfl, rfl⟩ := some_pair_inj h
      exact .accepted hpc now
  · next err now hpc =>
      obtain ⟨rfl, rfl⟩ := some_pair_inj h
      exact .refused hpc err now
  · next item err hpc =>
      obtain ⟨rfl, rfl⟩ := some_pair_inj h
      exact .reported item hpc err
  · next err hpc =>
      obtain ⟨rfl, rfl⟩ := some_pair_inj h
      exact .ctxDone hpc err
  · next now hpc =>
      obtain ⟨ch, hch, h⟩ := Option.bind_eq_some_iff.1 h
      split at h
      · next event ch' hrecv =>
          obtain ⟨rfl, rfl⟩ := some_pair_inj h
          exact .recv ch ch' event hpc hch hrecv now
      · next hrecv =>
          obtain ⟨rfl, rfl⟩ := some_pair_inj h
          exact .recvClosed ch hpc hch hrecv now
      · cases h
  · next item err hpc =>
      obtain ⟨rfl, rfl⟩ := some_pair_inj h
      exact .sendError item hpc err
  · next item hpc =>
      obtain ⟨rfl, rfl⟩ := some_pair_inj h
      exact .sent item hpc
  · next res hpc =>
      obtain ⟨b, hb, hr⟩ := Option.map_eq_some_iff.1 h
      obtain ⟨rfl, rfl⟩ := Prod.mk.inj hr
      exact .unsubscribe b res hpc hb
  · cases h

/-- What `unsubscribe` does: nothing to an absent entry, and a registered channel is
closed and its entry deleted. -/
theorem AgentHandle.unsubscribe_eq_some {rid : String} (h : a.unsubscribe rid = some a') :
    a.streams.lookup rid = none ∧ a' = a ∨
      ∃ n ch ch', a.streams.lookup rid = some n ∧ a.chans[n]? = some ch ∧ ch.close = some ch' ∧
        a' = { streams := a.streams.erase rid, chans := a.chans.set n ch' } := by
  unfold AgentHandle.unsubscribe at h
  split at h
  · next hnone => exact Or.inl ⟨hnone, (Option.some.inj h).symm⟩
  · next n hn =>
      obtain ⟨ch', hch', rfl⟩ := Option.map_eq_some_iff.1 h
      obtain ⟨ch, hch, hclose⟩ := Option.bind_eq_some_iff.1 hch'
      exact Or.inr ⟨n, ch, ch', hn, hch, hclose, rfl⟩

/-- What `routeEvent` does: nothing without an entry for the run id, and an offer to
the registered channel. -/
theorem AgentHandle.routeEvent_eq_some {event : StreamEvent} (h : a.routeEvent event = some a') :
    a.streams.lookup event.runID = none ∧ a' = a ∨
      ∃ n ch ch', a.streams.lookup event.runID = some n ∧ a.chans[n]? = some ch ∧
        ch.offer event = some ch' ∧ a' = { a with chans := a.chans.set n ch' } := by
  unfold AgentHandle.routeEvent at h
  split at h
  · next hnone => exact Or.inl ⟨hnone, (Option.some.inj h).symm⟩
  · next n hn =>
      obtain ⟨ch', hch', rfl⟩ := Option.map_eq_some_iff.1 h
      obtain ⟨ch, hch, hoffer⟩ := Option.bind_eq_some_iff.1 hch'
      exact Or.inr ⟨n, ch, ch', hn, hch, hoffer, rfl⟩

theorem Prompt.Step.same (h : p.Step a l a' p') : p'.sess = p.sess ∧ p'.runID = p.runID := by
  cases h <;> exact ⟨rfl, rfl⟩

/-- **What a step of a `Prompt` leaves alone.**  It changes the entry of its own run
id only, and of the channels that exist only the one it reads from and the one
registered under its run id. -/
theorem Prompt.Step.frame (h : p.Step a l a' p') :
    a.chans.length ≤ a'.chans.length ∧
      (∀ rid, rid ≠ p.runID → a'.streams.lookup rid = a.streams.lookup rid) ∧
      ∀ n, n < a.chans.length → (p.subscribed = true → n ≠ p.events) →
        a.streams.lookup p.runID ≠ some n → a'.chans[n]? = a.chans[n]? := by
  cases h with
  | accepted | refused | reported | ctxDone | recvClosed | sendError | sent =>
      exact ⟨Nat.le_refl _, fun _ _ => rfl, fun _ _ _ _ => rfl⟩
  | subscribe =>
      refine ⟨?_, fun rid hrid => AList.lookup_insert_ne hrid, fun n hn _ _ => ?_⟩
      · show a.chans.length ≤ (a.chans ++ [_]).length
        rw [List.length_append]
        omega
      · exact List.getElem?_append_left hn
  | recv ch ch' event hpc hch =>
      have hsub : p.subscribed = true := by rw [Prompt.subscribed, hpc]
      refine ⟨?_, fun _ _ => rfl, fun n _ hne _ => ?_⟩
      · show a.chans.length ≤ (a.chans.set _ _).length
        rw [List.length_set]
      · exact List.getElem?_set_ne (Ne.symm (hne hsub))
  | unsubscribe a'' res hpc ha =>
      rcases AgentHandle.unsubscribe_eq_some ha with ⟨-, rfl⟩ | ⟨n, ch, ch', hn, -, -, rfl⟩
      · exact ⟨Nat.le_refl _, fun _ _ => rfl, fun _ _ _ _ => rfl⟩
      · refine ⟨?_, fun rid hrid => AList.lookup_erase_ne hrid, fun m _ _ hne => ?_⟩
        · show a.chans.length ≤ (a.chans.set _ _).length
          rw [List.length_set]
        · refine List.getElem?_set_ne fun hnm => hne ?_
          rw [hn, hnm]

/-- The registered channels are there and open, and no channel is registered
twice. -/
structure AgentHandle.Ok (a : AgentHandle) : Prop where
  registered : ∀ rid n, a.streams.lookup rid = some n →
    ∃ ch, a.chans[n]? = some ch ∧ ch.closed = false
  injective : ∀ rid rid' n, a.streams.lookup rid = some n → a.streams.lookup rid' = some n →
    rid = rid'

namespace AgentHandle.Ok

theorem lt_length (h : a.Ok) {rid : String} {n : ℕ} (hn : a.streams.lookup rid = some n) :
    n < a.chans.length := by
  obtain ⟨ch, hch, -⟩ := h.registered rid n hn
  exact (List.getElem?_eq_some_iff.1 hch).1

theorem routeEvent_isSome (h : a.Ok) (event : StreamEvent) : ∃ a', a.routeEvent event = some a' := by
  unfold AgentHandle.routeEvent
  split
  · exact ⟨a, rfl⟩
  · next n hn =>
      obtain ⟨ch, hch, hopen⟩ := h.registered _ n hn
      obtain ⟨ch', hoffer, -⟩ := Chan.offer_of_open hopen event
      exact ⟨_, by rw [hch, Option.bind_some, hoffer, Option.map_some]⟩

theorem unsubscribe_isSome (h : a.Ok) (rid : String) : ∃ a', a.unsubscribe rid = some a' := by
  unfold AgentHandle.unsubscribe
  split
  · exact ⟨a, rfl⟩
  · next n hn =>
      obtain ⟨ch, hch, hopen⟩ := h.registered _ n hn
      have hclose : ch.close = some { ch with closed := true } :=
        Chan.close_eq_some.2 ⟨hopen, rfl, rfl⟩
      exact ⟨_, by rw [hch, Option.bind_some, hclose, Option.map_some]⟩

theorem subscribe (h : a.Ok) (rid : String) : (a.subscribe rid).1.Ok where
  registered rid' n hn := by
    show ∃ ch, (a.chans ++ [Chan.make StreamEvent 64])[n]? = some ch ∧ ch.closed = false
    rcases GoMap.lookup_insert_cases hn with ⟨-, rfl⟩ | ⟨-, hn⟩
    · exact ⟨_, List.getElem?_concat_length, rfl⟩
    · rw [List.getElem?_append_left (h.lt_length hn)]
      exact h.registered rid' n hn
  injective rid₁ rid₂ n h₁ h₂ := by
    -- the number of the new channel is not among the old ones
    rcases GoMap.lookup_insert_cases h₁ with ⟨rfl, hn₁⟩ | ⟨-, hold₁⟩
    · rcases GoMap.lookup_insert_cases h₂ with ⟨rfl, -⟩ | ⟨-, hold₂⟩
      · rfl
      · have hlt := h.lt_length hold₂
        omega
    · rcases GoMap.lookup_insert_cases h₂ with ⟨rfl, hn₂⟩ | ⟨-, hold₂⟩
      · have hlt := h.lt_length hold₁
        omega
      · exact h.injective rid₁ rid₂ n hold₁ hold₂

theorem unsubscribe (h : a.Ok) {rid : String} (ha : a.unsubscribe rid = some a') : a'.Ok := by
  rcases AgentHandle.unsubscribe_eq_some ha with ⟨-, rfl⟩ | ⟨n, ch, ch', hn, -, -, rfl⟩
  · exact h
  · refine ⟨fun rid' m hm => ?_, fun rid₁ rid₂ m h₁ h₂ => ?_⟩
    · obtain ⟨hne, hm⟩ := GoMap.lookup_erase_some hm
      obtain ⟨ch, hch, hopen⟩ := h.registered rid' m hm
      have hmn : n ≠ m := by
        rintro rfl
        exact hne (h.injective rid' rid n hm hn)
      exact ⟨ch, by rw [List.getElem?_set_ne hmn, hch], hopen⟩
    · exact h.injective rid₁ rid₂ m (GoMap.lookup_erase_some h₁).2 (GoMap.lookup_erase_some h₂).2

theorem set_chan (h : a.Ok) {n : ℕ} {ch ch' : Chan StreamEvent 64} (hch : a.chans[n]? = some ch)
    (hclosed : ch'.closed = ch.closed) :
    AgentHandle.Ok { a with chans := a.chans.set n ch' } where
  registered rid m hm := by
    obtain ⟨d, hd, hopen⟩ := h.registered rid m hm
    by_cases hmn : m = n
    · subst hmn
      obtain rfl := Option.mem_unique hch hd
      exact ⟨ch', getElem?_set_of_some ch' hch, hclosed.trans hopen⟩
    · refine ⟨d, ?_, hopen⟩
      show (a.chans.set n ch')[m]? = some d
      rw [List.getElem?_set_ne (Ne.symm hmn), hd]
  injective := h.injective

theorem routeEvent (h : a.Ok) {event : StreamEvent} (ha : a.routeEvent event = some a') :
    a'.Ok := by
  rcases AgentHandle.routeEvent_eq_some ha with ⟨-, rfl⟩ | ⟨n, ch, ch', hn, hch, hoffer, rfl⟩
  · exact h
  · obtain ⟨d, hd, hopen⟩ := h.registered _ n hn
    obtain rfl := Option.mem_unique hch hd
    obtain ⟨d', hd', hopen'⟩ := Chan.offer_of_open hopen event
    obtain rfl := Option.mem_unique hoffer hd'
    exact h.set_chan hch (hopen'.trans hopen.symm)

end AgentHandle.Ok

theorem Prompt.Step.ok (h : p.Step a l a' p') (ha : a.Ok) : a'.Ok := by
  cases h with
  | accepted | refused | reported | ctxDone | recvClosed | sendError | sent => exact ha
  | subscribe => exact ha.subscribe p.runID
  | recv ch ch' event hpc hch hrecv => exact ha.set_chan hch (Chan.recv_eq_value.1 hrecv).2
  | unsubscribe a'' res hpc hu => exact ha.unsubscribe hu

/-- A `Prompt` that is subscribed after a step has subscribed in it, to a channel
made in it, or reads from the same channel as before. -/
theorem Prompt.Step.subscribed_cases (h : p.Step a l a' p') (hsub : p'.subscribed = true) :
    p'.events = a.chans.length ∧ a'.chans.length = a.chans.length + 1 ∨
      p.subscribed = true ∧ p'.events = p.events := by
  cases h with
  | subscribe => exact Or.inl ⟨rfl, List.length_append⟩
  | accepted hpc | refused hpc | reported _ hpc | ctxDone hpc | recv _ _ _ hpc
  | recvClosed _ hpc | sendError _ hpc | sent _ hpc =>
      exact Or.inr ⟨by rw [Prompt.subscribed, hpc], rfl⟩
  | unsubscribe a'' res hpc hu => cases hsub

end

theorem handleStep_spawn {p q : Pool AgentHandle Prompt} {b : PromptStart}
    (h : handleStep p (.prompts (.spawn b)) = some q) :
    q = { p with threads := p.threads ++ [b.prompt] } := by
  have hstep : p.step promptMachine (.spawn b) = some q := h
  obtain ⟨t, ht, rfl⟩ := Pool.step_spawn.1 hstep
  obtain rfl := Option.some.inj ht
  rfl

/-- A `Prompt` takes a step. -/
theorem handleStep_step {p q : Pool AgentHandle Prompt} {i : ℕ} {l : PromptLabel}
    (h : handleStep p (.prompts (.step i l)) = some q) :
    ∃ c a c', p.threads[i]? = some c ∧ c.Step p.shared l a c' ∧
      q = { shared := a, threads := p.threads.set i c' } := by
  have hstep : p.step promptMachine (.step i l) = some q := h
  obtain ⟨c, a, c', hc, hrun, rfl⟩ := Pool.step_run.1 hstep
  exact ⟨c, a, c', hc, Prompt.step_spec hrun, rfl⟩

/-- The step that a `Prompt` can take, taken among the others. -/
theorem handleStep_of_step {p : Pool AgentHandle Prompt} {i : ℕ} {l : PromptLabel} {c c' : Prompt}
    {a : AgentHandle} (hc : p.threads[i]? = some c) (h : c.step p.shared l = some (a, c')) :
    handleStep p (.prompts (.step i l)) =
      some { shared := a, threads := p.threads.set i c' } :=
  Pool.step_run.2 ⟨c, a, c', hc, h, rfl⟩

/-- The registered channels are open, and no two `Prompt`s read from one
channel. -/
structure StreamsOk (p : Pool AgentHandle Prompt) : Prop where
  handle : p.shared.Ok
  made : ∀ (i : ℕ) c, p.threads[i]? = some c → c.subscribed = true →
    c.events < p.shared.chans.length
  own : ∀ (i j : ℕ) c d, p.threads[i]? = some c → p.threads[j]? = some d → c.subscribed = true →
    d.subscribed = true → c.events = d.events → i = j

/-- **A step keeps the streams in order.** -/
theorem StreamsOk.step {p q : Pool AgentHandle Prompt} {l : HandleLabel} (hp : StreamsOk p)
    (hq : handleStep p l = some q) : StreamsOk q := by
  cases l with
  | route event =>
      obtain ⟨a, ha, rfl⟩ := Option.map_eq_some_iff.1 hq
      refine ⟨hp.handle.routeEvent ha, fun i c hc hsub => ?_, hp.own⟩
      rcases AgentHandle.routeEvent_eq_some ha with ⟨-, rfl⟩ | ⟨n, ch, ch', -, -, -, rfl⟩
      · exact hp.made i c hc hsub
      · show c.events < (p.shared.chans.set n ch').length
        rw [List.length_set]
        exact hp.made i c hc hsub
  | prompts l =>
      cases l with
      | spawn b =>
          obtain rfl := handleStep_spawn hq
          -- the new `Prompt` has not subscribed
          have hold : ∀ (i : ℕ) c, (p.threads ++ [b.prompt])[i]? = some c → c.subscribed = true →
              p.threads[i]? = some c := by
            intro i c hc hsub
            rcases getElem?_concat_cases hc with ⟨-, rfl⟩ | hc
            · cases hsub
            · exact hc
          exact ⟨hp.handle, fun i c hc hsub => hp.made i c (hold i c hc hsub) hsub,
            fun i j c d hc hd hcs hds => hp.own i j c d (hold i c hc hcs) (hold j d hd hds) hcs hds⟩
      | step i a =>
          obtain ⟨c, h', c', hi, hstep, rfl⟩ := handleStep_step hq
          have hgrow := hstep.frame.1
          -- what the `Prompt` that moves reads from after the step is its own
          have hmoved : c'.subscribed = true → c'.events < h'.chans.length ∧
              ∀ (j : ℕ) d, j ≠ i → p.threads[j]? = some d → d.subscribed = true →
                d.events ≠ c'.events := by
            intro hsub
            rcases hstep.subscribed_cases hsub with ⟨hev, hlen⟩ | ⟨hold, hev⟩
            · refine ⟨by omega, fun j d _ hd hds heq => ?_⟩
              have := hp.made j d hd hds
              omega
            · rw [hev]
              refine ⟨Nat.lt_of_lt_of_le (hp.made i c hi hold) hgrow, ?_⟩
              exact fun j d hj hd hds heq => hj (hp.own j i d c hd hi hds hold heq)
          refine ⟨hstep.ok hp.handle, fun j d hd hds => ?_, fun j k d e hd he hds hes heq => ?_⟩
          · rcases getElem?_set_cases hd with ⟨rfl, rfl⟩ | ⟨-, hd⟩
            · exact (hmoved hds).1
            · exact Nat.lt_of_lt_of_le (hp.made j d hd hds) hgrow
          · rcases getElem?_set_cases hd with ⟨rfl, rfl⟩ | ⟨hj, hd'⟩
            · rcases getElem?_set_cases he with ⟨rfl, -⟩ | ⟨hk, he'⟩
              · rfl
              · exact absurd heq.symm ((hmoved hds).2 k e hk he' hes)
            · rcases getElem?_set_cases he with ⟨rfl, rfl⟩ | ⟨-, he'⟩
              · exact absurd heq ((hmoved hes).2 j d hj hd' hds)
              · exact hp.own j k d e hd' he' hds hes heq

theorem StreamsOk.fresh : StreamsOk freshHandle where
  handle := ⟨fun _ _ h => by simp [freshHandle] at h, fun _ _ _ h => by simp [freshHandle] at h⟩
  made _ _ h := by simp [freshHandle] at h
  own _ _ _ _ h := by simp [freshHandle] at h

/-- **Nothing panics.**  In every run, whatever run ids the `Prompt`s have, the reader
can hand over the next event and a `Prompt` that ends can unsubscribe. -/
theorem streams_never_panic {p : Pool AgentHandle Prompt} {l : List HandleLabel}
    (h : exec handleStep freshHandle l = some p) :
    (∀ event, (handleStep p (.route event)).isSome = true) ∧
      ∀ (i : ℕ) c res, p.threads[i]? = some c → c.pc = .unsubscribe res →
        (handleStep p (.prompts (.step i .unsubscribe))).isSome = true := by
  have hp : StreamsOk p := exec_invariant_of_step (fun _ _ _ hs hq => hs.step hq) .fresh h
  constructor
  · intro event
    obtain ⟨a, ha⟩ := hp.handle.routeEvent_isSome event
    rw [handleStep, ha]
    rfl
  · intro i c res hi hpc
    obtain ⟨a, ha⟩ := hp.handle.unsubscribe_isSome c.runID
    have hrun : c.step p.shared .unsubscribe = some (a, { c with pc := .returned res }) := by
      unfold Prompt.step
      rw [hpc]
      show (p.shared.unsubscribe c.runID).map _ = _
      rw [ha]
      rfl
    exact Option.isSome_iff_exists.2 ⟨_, handleStep_of_step hi hrun⟩

/-- Two `Prompt`s of one run. -/
def twoPrompts : List HandleLabel :=
  [startPrompt "sess_1" "run_1", startPrompt "sess_1" "run_1", promptStep 0 .subscribe,
    promptStep 1 .subscribe]

/-- `streams_never_panic` applies to them. -/
theorem twoPrompts_route : ∃ p ∈ exec handleStep freshHandle twoPrompts,
    ∀ event, (handleStep p (.route event)).isSome = true :=
  ⟨_, rfl, (@streams_never_panic _ twoPrompts rfl).1⟩

end Supervisor
end Agentd
