/-
# The Redis broker

`session/broker.go`: `RedisBroker`.  `Publish` marshals the event and has Redis publish it under
the prefix of the broker and the id of the session.  `Subscribe` starts a goroutine that takes the
messages of that Redis channel from `pubsub.Channel()`, skips what cannot be decoded, and sends the
rest to a channel with 64 slots; it waits when the channel is full, unless the context ends.  The
cancel function closes the subscription at Redis, and the goroutine closes the channel when it
returns.

Redis carries out one command at a time and hands a message to all connections that are subscribed
at that moment.  A connection can be lost and made again, and the client drops a message that its
channel does not take for a minute, so messages on their way can get lost.  Anybody may publish
anything under any name.

What a subscriber gets is in the order in which Redis carried out the commands, the same order for
all subscribers of a session, and it is all there is while its connection stands
(`redisBroker_delivers`).  The broker loses nothing by itself, unlike `MemoryBroker`, which drops
what finds 64 unread events.
-/

import Agentd.Control.Types
import Agentd.Concurrency.Chan
import Agentd.Concurrency.Pool

namespace Agentd
namespace Broker

open Control Concurrency

/-- Where the goroutine of `Subscribe` stands: at the head of its loop, at the `select` with an
event, or at its end, with the channel closed. -/
inductive Forward
  | range
  | select (event : Event)
  | returned

/-- What `Subscribe` made: the subscription at Redis with the messages that are on their way or in
`pubsub.Channel()`, the goroutine, the channel, and what was received from it.  `done` says that
the context has ended, `closed` that the subscription was closed. -/
structure RedisSubscription where
  sessionID : String
  connected : Bool := false
  inbox : List String := []
  closed : Bool := false
  done : Bool := false
  pc : Forward := .range
  ch : Chan Event 64 := .make Event 64
  received : List Event := []
  panicked : Bool := false

/-- What happens next at a subscription: its connection to Redis is made or lost, a message gets
lost; the goroutine takes a message, sends an event, or returns, for the end of the context or of
the messages; a receive; the end of the context; or the call of the cancel function. -/
inductive SubscriptionLabel
  | connect
  | disconnect
  | lose (i : ℕ)
  | take
  | send
  | quit
  | finish
  | recv
  | ctxDone
  | close

/-- `RedisBroker`, with what was subscribed through it. -/
structure RedisBroker where
  keyPrefix : String
  subs : List RedisSubscription := []

/-- What happens next at Redis: a `Publish` of the broker, a publication by somebody else, a
`Subscribe`, or something at a subscription. -/
inductive RedisLabel
  | publish (event : Event)
  | command (channel payload : String)
  | subscribe (sessionID : String)
  | sub (n : ℕ) (l : SubscriptionLabel)

/-- `NewRedisBroker`. -/
def newRedisBroker (keyPrefix : String) : RedisBroker where
  keyPrefix := if keyPrefix = "" then "agentd:sessions:" else keyPrefix

/-- The event that the goroutine is about to send. -/
def Forward.event : Forward → List Event
  | .select event => [event]
  | .range | .returned => []

section

variable (unmarshal : String → Option Event)

namespace RedisSubscription

/-- `defer close(ch)`: the second close of a channel panics. -/
def finish (s : RedisSubscription) : RedisSubscription :=
  match s.ch.close with
  | some ch => { s with ch, pc := .returned }
  | none => { s with panicked := true }

/-- One step at a subscription. -/
def step (s : RedisSubscription) : SubscriptionLabel → Option RedisSubscription
  | .connect => if s.closed then none else some { s with connected := true }
  | .disconnect => some { s with connected := false }
  | .lose i => some { s with inbox := s.inbox.eraseIdx i }
  | .take =>
      match s.pc, s.inbox with
      | .range, raw :: inbox =>
          match unmarshal raw with
          | some event => some { s with inbox, pc := .select event }
          | none => some { s with inbox }
      | _, _ => none
  | .send =>
      match s.pc with
      | .select event =>
          match s.ch.send event with
          | .ok ch => some { s with ch, pc := .range }
          | .full => none
          | .panic => some { s with panicked := true }
      | _ => none
  | .quit =>
      match s.pc with
      | .select _ => if s.done then some s.finish else none
      | _ => none
  | .finish =>
      match s.pc, s.inbox with
      | .range, [] => if s.closed then some s.finish else none
      | _, _ => none
  | .recv =>
      match s.ch.recv with
      | .value event ch => some { s with ch, received := s.received ++ [event] }
      | .closed => some s
      | .empty => none
  | .ctxDone => some { s with done := true }
  | .close => some { s with closed := true, connected := false }

/-- Redis hands out a message. -/
def arrive (s : RedisSubscription) (keyPrefix channel payload : String) : RedisSubscription :=
  if s.connected ∧ keyPrefix ++ s.sessionID = channel then { s with inbox := s.inbox ++ [payload] }
  else s

/-- What is on its way: in the channel, in the hands of the goroutine, and handed out by Redis as far
as it can be decoded.  The last of these counts also when the goroutine has returned, and takes no
more. -/
def pending (s : RedisSubscription) : List Event :=
  s.ch.buf ++ s.pc.event ++ s.inbox.filterMap unmarshal

/-- What was received, and what is on its way. -/
def stream (s : RedisSubscription) : List Event := s.received ++ s.pending unmarshal

end RedisSubscription

variable (marshal : Event → Option String)

/-- Redis carries out a `PUBLISH`. -/
def RedisBroker.deliver (b : RedisBroker) (channel payload : String) : RedisBroker :=
  { b with subs := b.subs.map (·.arrive b.keyPrefix channel payload) }

/-- One step at Redis; an event that cannot be marshalled is not published. -/
def redisStep (b : RedisBroker) : RedisLabel → Option RedisBroker
  | .publish event =>
      match marshal event with
      | some raw => some (b.deliver (b.keyPrefix ++ event.sessionID) raw)
      | none => some b
  | .command channel payload => some (b.deliver channel payload)
  | .subscribe sessionID => some { b with subs := b.subs ++ [{ sessionID }] }
  | .sub n l =>
      b.subs[n]?.bind fun s => (s.step unmarshal l).map fun s' => { b with subs := b.subs.set n s' }

/-- The event that a subscriber of the session gets from a step: what is published for the session
as it comes back from its JSON, and what others publish under its name. -/
def arrival (keyPrefix sessionID : String) : RedisLabel → Option Event
  | .publish event => if event.sessionID = sessionID then (marshal event).bind unmarshal else none
  | .command channel payload => if keyPrefix ++ sessionID = channel then unmarshal payload else none
  | .subscribe _ | .sub _ _ => none

end

/-- Something at the subscription that can cost it a message: its connection or a message gets
lost, or it is given up. -/
def SubscriptionLabel.costs : SubscriptionLabel → Bool
  | .disconnect | .lose _ | .quit | .close => true
  | _ => false

/-- The same of a step at Redis, for subscription `n`. -/
def RedisLabel.costs (n : ℕ) : RedisLabel → Bool
  | .sub m l => m = n && l.costs
  | _ => false

/-- A move of the goroutine. -/
def SubscriptionLabel.forwards : SubscriptionLabel → Bool
  | .take | .send | .quit | .finish => true
  | _ => false

/-- A move of the goroutine of subscription `n`. -/
def RedisLabel.forwards (n : ℕ) : RedisLabel → Bool
  | .sub m l => m = n && l.forwards
  | _ => false

/-- What a step at a subscription can do. -/
inductive RedisSubscription.Step (unmarshal : String → Option Event) (s : RedisSubscription) :
    SubscriptionLabel → RedisSubscription → Prop
  | connected (hopen : ¬ s.closed = true) : Step unmarshal s .connect { s with connected := true }
  | disconnected : Step unmarshal s .disconnect { s with connected := false }
  | lost (i : ℕ) : Step unmarshal s (.lose i) { s with inbox := s.inbox.eraseIdx i }
  | taken (raw : String) (inbox : List String) (event : Event) (hpc : s.pc = .range)
      (hinbox : s.inbox = raw :: inbox) (hraw : unmarshal raw = some event) :
      Step unmarshal s .take { s with inbox, pc := .select event }
  | skipped (raw : String) (inbox : List String) (hpc : s.pc = .range)
      (hinbox : s.inbox = raw :: inbox) (hraw : unmarshal raw = none) :
      Step unmarshal s .take { s with inbox }
  | sent (event : Event) (ch : Chan Event 64) (hpc : s.pc = .select event)
      (hsend : s.ch.send event = .ok ch) : Step unmarshal s .send { s with ch, pc := .range }
  | panicked (event : Event) (hpc : s.pc = .select event) (hsend : s.ch.send event = .panic) :
      Step unmarshal s .send { s with panicked := true }
  | quit (event : Event) (hpc : s.pc = .select event) (hdone : s.done = true) :
      Step unmarshal s .quit s.finish
  | finished (hpc : s.pc = .range) (hinbox : s.inbox = []) (hclosed : s.closed = true) :
      Step unmarshal s .finish s.finish
  | received (event : Event) (ch : Chan Event 64) (hrecv : s.ch.recv = .value event ch) :
      Step unmarshal s .recv { s with ch, received := s.received ++ [event] }
  | drained : Step unmarshal s .recv s
  | ctxDone : Step unmarshal s .ctxDone { s with done := true }
  | closed : Step unmarshal s .close { s with closed := true, connected := false }

/-- The channel of a subscription is closed by the return of its goroutine alone. -/
structure RedisSubscription.Calm (s : RedisSubscription) : Prop where
  calm : s.panicked = false
  closed : s.ch.closed = true ↔ s.pc = .returned

section

variable {unmarshal : String → Option Event} {s s' : RedisSubscription} {l : SubscriptionLabel}

namespace RedisSubscription

/-- **A step at a subscription is one of `RedisSubscription.Step`.** -/
theorem step_spec (h : s.step unmarshal l = some s') : s.Step unmarshal l s' := by
  cases l with
  | connect =>
      obtain ⟨hopen, h⟩ := Option.ite_none_left_eq_some.1 h
      exact Option.some.inj h ▸ .connected hopen
  | disconnect => exact Option.some.inj h ▸ .disconnected
  | lose i => exact Option.some.inj h ▸ .lost i
  | take =>
      simp only [RedisSubscription.step] at h
      split at h
      · next raw inbox hpc hinbox =>
          split at h
          · next event hraw => exact Option.some.inj h ▸ .taken raw inbox event hpc hinbox hraw
          · next hraw => exact Option.some.inj h ▸ .skipped raw inbox hpc hinbox hraw
      · cases h
  | send =>
      simp only [RedisSubscription.step] at h
      split at h
      · next event hpc =>
          split at h
          · next ch hsend => exact Option.some.inj h ▸ .sent event ch hpc hsend
          · cases h
          · next hsend => exact Option.some.inj h ▸ .panicked event hpc hsend
      · cases h
  | quit =>
      simp only [RedisSubscription.step] at h
      split at h
      · next event hpc =>
          obtain ⟨hdone, h⟩ := Option.ite_none_right_eq_some.1 h
          exact Option.some.inj h ▸ .quit event hpc hdone
      · cases h
  | finish =>
      simp only [RedisSubscription.step] at h
      split at h
      · next hpc hinbox =>
          obtain ⟨hclosed, h⟩ := Option.ite_none_right_eq_some.1 h
          exact Option.some.inj h ▸ .finished hpc hinbox hclosed
      · cases h
  | recv =>
      simp only [RedisSubscription.step] at h
      split at h
      · next event ch hrecv => exact Option.some.inj h ▸ .received event ch hrecv
      · exact Option.some.inj h ▸ .drained
      · cases h
  | ctxDone => exact Option.some.inj h ▸ .ctxDone
  | close => exact Option.some.inj h ▸ .closed

theorem Calm.finish_eq (h : s.Calm) (hpc : s.pc ≠ .returned) :
    ∃ ch, s.finish = { s with ch, pc := .returned } ∧ ch.buf = s.ch.buf ∧ ch.closed = true := by
  have hopen : s.ch.closed = false := by
    rw [← Bool.not_eq_true, h.closed]
    exact hpc
  refine ⟨{ s.ch with closed := true }, ?_, rfl, rfl⟩
  rw [RedisSubscription.finish, Chan.close, hopen]
  rfl

/-- What a step at a subscription keeps. -/
structure Keeps (unmarshal : String → Option Event) (l : SubscriptionLabel)
    (s s' : RedisSubscription) : Prop where
  calm : s'.Calm
  sessionID : s'.sessionID = s.sessionID
  stream : (s'.stream unmarshal).Sublist (s.stream unmarshal)
  whole : l.costs = false → s'.stream unmarshal = s.stream unmarshal
  connected : l.costs = false → s.connected = true → s'.connected = true

/-- A step that loses no event. -/
theorem Keeps.of_eq (hcalm : s'.Calm) (hid : s'.sessionID = s.sessionID)
    (hstream : s'.stream unmarshal = s.stream unmarshal)
    (hconn : l.costs = false → s.connected = true → s'.connected = true) :
    Keeps unmarshal l s s' :=
  ⟨hcalm, hid, hstream ▸ List.Sublist.refl _, fun _ => hstream, hconn⟩

/-- **A step at a subscription** moves its events on; it loses one only where a message gets lost
or the goroutine gives up. -/
theorem Step.keeps (hcalm : s.Calm) (h : s.Step unmarshal l s') : Keeps unmarshal l s s' := by
  have hsame : ∀ s₁ : RedisSubscription, s₁.panicked = s.panicked → s₁.ch = s.ch → s₁.pc = s.pc →
      s₁.Calm := fun s₁ hp hch hpc => ⟨hp.trans hcalm.calm, by rw [hch, hpc]; exact hcalm.closed⟩
  cases h with
  | connected => exact .of_eq (hsame _ rfl rfl rfl) rfl rfl fun _ _ => rfl
  | disconnected | closed => exact .of_eq (hsame _ rfl rfl rfl) rfl rfl fun hc => by cases hc
  | ctxDone => exact .of_eq (hsame _ rfl rfl rfl) rfl rfl fun _ hc => hc
  | drained => exact .of_eq hcalm rfl rfl fun _ hc => hc
  | lost i =>
      refine ⟨hsame _ rfl rfl rfl, rfl, ?_, (fun hc => by cases hc), fun hc => by cases hc⟩
      exact (List.Sublist.refl _).append
        ((List.Sublist.refl _).append ((List.eraseIdx_sublist _ i).filterMap unmarshal))
  | taken raw inbox event hpc hinbox hraw =>
      have hopen : s.ch.closed ≠ true := by
        rw [Ne, hcalm.closed, hpc]
        exact fun hr => by cases hr
      refine .of_eq ⟨hcalm.calm, iff_of_false hopen fun hr => by cases hr⟩ rfl ?_ fun _ hc => hc
      simp [RedisSubscription.stream, RedisSubscription.pending, hpc, hinbox, hraw, Forward.event]
  | skipped raw inbox hpc hinbox hraw =>
      refine .of_eq (hsame _ rfl rfl rfl) rfl ?_ fun _ hc => hc
      simp [RedisSubscription.stream, RedisSubscription.pending, hinbox, hraw]
  | sent event ch hpc hsend =>
      obtain ⟨-, -, hbuf, hopen⟩ := Chan.send_eq_ok.1 hsend
      refine .of_eq ⟨hcalm.calm, iff_of_false (by simp [hopen]) fun hr => by cases hr⟩ rfl ?_
        fun _ hc => hc
      simp [RedisSubscription.stream, RedisSubscription.pending, hpc, hbuf, Forward.event]
  | panicked event hpc hsend =>
      have hret := hcalm.closed.1 (Chan.send_eq_panic.1 hsend)
      rw [hpc] at hret
      cases hret
  | quit event hpc hdone =>
      obtain ⟨ch, hfin, hbuf, hclosed⟩ := hcalm.finish_eq (by rw [hpc]; simp)
      rw [hfin]
      refine ⟨⟨hcalm.calm, iff_of_true hclosed rfl⟩, rfl, ?_, (fun hc => by cases hc),
        fun hc => by cases hc⟩
      -- the event in the hands of the goroutine is given up
      simp only [RedisSubscription.stream, RedisSubscription.pending, hbuf, Forward.event,
        List.append_nil, hpc]
      exact (List.Sublist.refl _).append ((List.sublist_append_left _ _).append (List.Sublist.refl _))
  | finished hpc hinbox hclosed =>
      obtain ⟨ch, hfin, hbuf, hclosed⟩ := hcalm.finish_eq (by rw [hpc]; simp)
      rw [hfin]
      refine .of_eq ⟨hcalm.calm, iff_of_true hclosed rfl⟩ rfl ?_ fun _ hc => hc
      simp [RedisSubscription.stream, RedisSubscription.pending, hbuf, hpc, Forward.event]
  | received event ch hrecv =>
      obtain ⟨hbuf, hclosed⟩ := Chan.recv_eq_value.1 hrecv
      refine .of_eq ⟨hcalm.calm, by rw [hclosed]; exact hcalm.closed⟩ rfl ?_ fun _ hc => hc
      simp [RedisSubscription.stream, RedisSubscription.pending, hbuf]

/-- A message that Redis hands out changes nothing but the messages on their way. -/
theorem arrive_calm (hcalm : s.Calm) (keyPrefix channel payload : String) :
    (s.arrive keyPrefix channel payload).Calm ∧
      (s.arrive keyPrefix channel payload).sessionID = s.sessionID ∧
      (s.arrive keyPrefix channel payload).connected = s.connected := by
  unfold RedisSubscription.arrive
  split_ifs
  · exact ⟨⟨hcalm.calm, hcalm.closed⟩, rfl, rfl⟩
  · exact ⟨hcalm, rfl, rfl⟩

theorem stream_arrive (unmarshal : String → Option Event) (s : RedisSubscription)
    (keyPrefix channel payload : String) :
    (s.arrive keyPrefix channel payload).stream unmarshal =
      s.stream unmarshal ++ (if s.connected = true ∧ keyPrefix ++ s.sessionID = channel then
        (unmarshal payload).toList else []) := by
  unfold RedisSubscription.arrive
  split_ifs
  · cases hraw : unmarshal payload <;> simp [RedisSubscription.stream, RedisSubscription.pending, hraw]
  · exact (List.append_nil _).symm

end RedisSubscription

end

/-- What becomes of a subscription while `arrived` is published for it: it gets all of it in that
order, or a part where something was lost. -/
structure Serves (unmarshal : String → Option Event) (arrived : List Event) (lossless : Prop)
    (s s' : RedisSubscription) : Prop where
  calm : s'.Calm
  sessionID : s'.sessionID = s.sessionID
  stream : (s'.stream unmarshal).Sublist (s.stream unmarshal ++ arrived)
  whole : s.connected = true → lossless →
    s'.connected = true ∧ s'.stream unmarshal = s.stream unmarshal ++ arrived

section

variable {marshal : Event → Option String} {unmarshal : String → Option Event}
  {b b' : RedisBroker} {n : ℕ} {s s' s'' : RedisSubscription}

theorem Serves.trans {first rest : List Event} {P Q : Prop} (h : Serves unmarshal first P s s')
    (h' : Serves unmarshal rest Q s' s'') : Serves unmarshal (first ++ rest) (P ∧ Q) s s'' where
  calm := h'.calm
  sessionID := h'.sessionID.trans h.sessionID
  stream := by
    rw [← List.append_assoc]
    exact h'.stream.trans (h.stream.append (List.Sublist.refl _))
  whole hconn hall := by
    obtain ⟨hconn', heq⟩ := h.whole hconn hall.1
    obtain ⟨hconn'', heq'⟩ := h'.whole hconn' hall.2
    exact ⟨hconn'', by rw [heq', heq, List.append_assoc]⟩

/-- A message that Redis hands out. -/
theorem Serves.arrive (hcalm : s.Calm) (keyPrefix channel payload : String) (P : Prop) :
    Serves unmarshal
      (if keyPrefix ++ s.sessionID = channel then (unmarshal payload).toList else []) P s
      (s.arrive keyPrefix channel payload) := by
  obtain ⟨hcalm', hid, hconn⟩ := s.arrive_calm hcalm keyPrefix channel payload
  have hstream := s.stream_arrive unmarshal keyPrefix channel payload
  refine ⟨hcalm', hid, ?_, fun hc _ => ⟨hconn.trans hc, ?_⟩⟩
  · rw [hstream]
    refine (List.Sublist.refl _).append ?_
    split_ifs with h₁ h₂
    · exact List.Sublist.refl _
    · exact absurd h₁.2 h₂
    · exact List.nil_sublist _
    · exact List.Sublist.refl _
  · rw [hstream, hc]
    simp

/-- What a step at Redis makes of the subscription at place `n`: it leaves it alone, hands it a
message, makes it, or is a step of its own. -/
inductive Affects (unmarshal : String → Option Event) (marshal : Event → Option String)
    (b : RedisBroker) (n : ℕ) : RedisLabel → Option RedisSubscription → Prop
  | same (l : RedisLabel) (harr : ∀ id, arrival unmarshal marshal b.keyPrefix id l = none)
      (hforwards : l.forwards n = false) : Affects unmarshal marshal b n l b.subs[n]?
  | arrived (l : RedisLabel) (channel payload : String)
      (harr : ∀ id, arrival unmarshal marshal b.keyPrefix id l =
        if b.keyPrefix ++ id = channel then unmarshal payload else none)
      (hforwards : l.forwards n = false) :
      Affects unmarshal marshal b n l (b.subs[n]?.map (·.arrive b.keyPrefix channel payload))
  | made (sessionID : String) (hn : b.subs[n]? = none) :
      Affects unmarshal marshal b n (.subscribe sessionID) (some { sessionID })
  | moved (l : SubscriptionLabel) (s s' : RedisSubscription) (hn : b.subs[n]? = some s)
      (hs : s.Step unmarshal l s') : Affects unmarshal marshal b n (.sub n l) (some s')

/-- **A step at Redis is one of `Affects` at every place.** -/
theorem redisStep_affects {l : RedisLabel} (h : redisStep unmarshal marshal b l = some b') (n : ℕ) :
    b'.keyPrefix = b.keyPrefix ∧ Affects unmarshal marshal b n l b'.subs[n]? := by
  cases l with
  | publish event =>
      simp only [redisStep] at h
      cases hraw : marshal event with
      | none =>
          rw [hraw] at h
          exact Option.some.inj h ▸ ⟨rfl, .same _ (fun id => by simp [arrival, hraw]) rfl⟩
      | some raw =>
          rw [hraw] at h
          obtain rfl := Option.some.inj h
          refine ⟨rfl, List.getElem?_map .. ▸ .arrived _ _ raw (fun id => ?_) rfl⟩
          simp only [arrival, hraw, Option.bind_some, String.append_right_inj, eq_comm]
  | command channel payload =>
      obtain rfl := Option.some.inj h
      exact ⟨rfl, List.getElem?_map .. ▸ .arrived _ channel payload (fun _ => rfl) rfl⟩
  | subscribe sessionID =>
      obtain rfl := Option.some.inj h
      refine ⟨rfl, ?_⟩
      rcases lt_trichotomy n b.subs.length with hlt | rfl | hlt
      · exact List.getElem?_append_left hlt ▸ .same _ (fun _ => rfl) rfl
      · exact List.getElem?_concat_length .. ▸ .made sessionID (List.getElem?_eq_none le_rfl)
      · rw [List.getElem?_eq_none (by simpa using Nat.succ_le_of_lt hlt),
          ← List.getElem?_eq_none (le_of_lt hlt)]
        exact .same _ (fun _ => rfl) rfl
  | sub m l =>
      obtain ⟨s, hs, h⟩ := Option.bind_eq_some_iff.1 h
      obtain ⟨s', hs', rfl⟩ := Option.map_eq_some_iff.1 h
      refine ⟨rfl, ?_⟩
      by_cases hm : m = n
      · subst hm
        exact getElem?_set_of_some s' hs ▸ .moved l s s' hs (RedisSubscription.step_spec hs')
      · rw [List.getElem?_set_ne hm]
        exact .same _ (fun _ => rfl) (by simp [RedisLabel.forwards, hm])

/-- **A step at Redis** gives a subscription what is published for its session, and loses nothing
unless something happens to the subscription. -/
theorem redisStep_serves {l : RedisLabel} (hcalm : s.Calm) (hn : b.subs[n]? = some s)
    (h : redisStep unmarshal marshal b l = some b') :
    b'.keyPrefix = b.keyPrefix ∧ ∃ s', b'.subs[n]? = some s' ∧
      Serves unmarshal (arrival unmarshal marshal b.keyPrefix s.sessionID l).toList
        (l.costs n = false) s s' := by
  obtain ⟨hkeys, haffects⟩ := redisStep_affects h n
  refine ⟨hkeys, ?_⟩
  generalize b'.subs[n]? = after at haffects ⊢
  cases haffects with
  | same _ harr =>
      refine ⟨s, hn, ?_⟩
      rw [harr, Option.toList_none]
      exact ⟨hcalm, rfl, by rw [List.append_nil], fun hc _ => ⟨hc, (List.append_nil _).symm⟩⟩
  | arrived _ channel payload harr =>
      refine ⟨s.arrive b.keyPrefix channel payload, by rw [hn]; rfl, ?_⟩
      rw [harr, apply_ite Option.toList]
      exact Serves.arrive hcalm b.keyPrefix channel payload _
  | made sessionID hnone =>
      rw [hn] at hnone
      cases hnone
  | moved l u s' hu hs =>
      obtain rfl := Option.mem_unique hn hu
      have hk := hs.keeps hcalm
      refine ⟨s', rfl, hk.calm, hk.sessionID, ?_, fun hc hl => ?_⟩
      · simpa [arrival] using hk.stream
      · have hl' : l.costs = false := by simpa [RedisLabel.costs] using hl
        exact ⟨hk.connected hl' hc, by simpa [arrival] using hk.whole hl'⟩

/-- **A run at Redis**, from any state: what a subscription has got at the end is what it had and
what was published for its session meanwhile. -/
theorem redisRun_serves {l : List RedisLabel} (hcalm : s.Calm) (hn : b.subs[n]? = some s)
    (h : exec (redisStep unmarshal marshal) b l = some b') :
    ∃ s', b'.subs[n]? = some s' ∧
      Serves unmarshal (l.filterMap (arrival unmarshal marshal b.keyPrefix s.sessionID))
        (∀ lab ∈ l, RedisLabel.costs n lab = false) s s' := by
  induction l generalizing b s with
  | nil =>
      obtain rfl := Option.some.inj h
      exact ⟨s, hn, hcalm, rfl, by simp, fun hc _ => ⟨hc, by simp⟩⟩
  | cons a l ih =>
      obtain ⟨c, hc, hrest⟩ := exec_cons_eq_some.1 h
      obtain ⟨hkeys, u, hu, hfirst⟩ := redisStep_serves hcalm hn hc
      obtain ⟨s', hs', hlast⟩ := ih hfirst.calm hu hrest
      rw [hkeys, hfirst.sessionID] at hlast
      refine ⟨s', hs', ?_⟩
      have hboth := hfirst.trans hlast
      have harr : (a :: l).filterMap (arrival unmarshal marshal b.keyPrefix s.sessionID) =
          (arrival unmarshal marshal b.keyPrefix s.sessionID a).toList ++
            l.filterMap (arrival unmarshal marshal b.keyPrefix s.sessionID) := by
        cases ha : arrival unmarshal marshal b.keyPrefix s.sessionID a <;> simp [ha]
      rw [harr]
      exact ⟨hboth.calm, hboth.sessionID, hboth.stream, fun hconn hall =>
        hboth.whole hconn (List.forall_mem_cons.1 hall)⟩

end

/-- In every state that the broker can reach the subscriptions are calm, and one that is closed has
no connection. -/
structure RedisSubscription.Ok (s : RedisSubscription) : Prop where
  calm : s.Calm
  closed : s.closed = true → s.connected = false

/-- The moves that the goroutine of a closed subscription makes at most. -/
def RedisSubscription.moves (s : RedisSubscription) : ℕ :=
  match s.pc with
  | .range => 2 * s.inbox.length + 1
  | .select _ => 2 * s.inbox.length + 2
  | .returned => 0

section

variable {marshal : Event → Option String} {unmarshal : String → Option Event}
  {b b' : RedisBroker} {n : ℕ} {s s' : RedisSubscription} {l : SubscriptionLabel}

namespace RedisSubscription

/-- A step leaves a subscription closed and its context ended, and makes no connection for it. -/
theorem Ok.step (hok : s.Ok) (h : s.Step unmarshal l s') :
    s'.Ok ∧ (s.closed = true → s'.closed = true) ∧ (s.done = true → s'.done = true) := by
  have hcalm := (h.keeps hok.calm).calm
  have hfinish : s.finish.closed = s.closed ∧ s.finish.connected = s.connected ∧
      s.finish.done = s.done := by
    unfold RedisSubscription.finish
    split <;> exact ⟨rfl, rfl, rfl⟩
  cases h with
  | connected hopen => exact ⟨⟨hcalm, fun hc => absurd hc hopen⟩, fun hc => hc, fun hd => hd⟩
  | disconnected => exact ⟨⟨hcalm, fun _ => rfl⟩, fun hc => hc, fun hd => hd⟩
  | closed => exact ⟨⟨hcalm, fun _ => rfl⟩, fun _ => rfl, fun hd => hd⟩
  | ctxDone => exact ⟨⟨hcalm, hok.closed⟩, fun hc => hc, fun _ => rfl⟩
  | lost | taken | skipped | sent | panicked | received | drained =>
      exact ⟨⟨hcalm, hok.closed⟩, fun hc => hc, fun hd => hd⟩
  | quit | finished =>
      obtain ⟨hclosed, hconn, hdone⟩ := hfinish
      refine ⟨⟨hcalm, ?_⟩, fun hc => hclosed.trans hc, fun hd => hdone.trans hd⟩
      rw [hclosed, hconn]
      exact hok.closed

/-- **A move of the goroutine comes nearer to its end.** -/
theorem Step.moves (hcalm : s.Calm) (h : s.Step unmarshal l s') :
    s'.moves + (if l.forwards then 1 else 0) ≤ s.moves := by
  have hend : s.pc ≠ .returned → s.finish.moves = 0 := by
    intro hpc
    obtain ⟨ch, hfin, -, -⟩ := hcalm.finish_eq hpc
    rw [hfin]
    rfl
  cases h with
  | connected | disconnected | closed | ctxDone | drained | received => exact le_rfl
  | lost i =>
      have hlen := List.length_eraseIdx_le s.inbox i
      cases hpc : s.pc <;> simp only [RedisSubscription.moves, hpc, SubscriptionLabel.forwards] <;>
        simp <;> omega
  | taken raw inbox event hpc hinbox | skipped raw inbox hpc hinbox =>
      simp only [RedisSubscription.moves, hpc, hinbox, SubscriptionLabel.forwards,
        List.length_cons, if_pos]
      omega
  | sent event ch hpc =>
      simp only [RedisSubscription.moves, hpc, SubscriptionLabel.forwards, if_pos]
      omega
  | panicked event hpc hsend =>
      have hret := hcalm.closed.1 (Chan.send_eq_panic.1 hsend)
      rw [hpc] at hret
      cases hret
  | quit event hpc | finished hpc =>
      rw [hend (by rw [hpc]; simp)]
      simp [RedisSubscription.moves, hpc, SubscriptionLabel.forwards]

/-- **The goroutine of a subscription that is given up is not blocked.** -/
theorem exists_forwards (unmarshal : String → Option Event) (hclosed : s.closed = true)
    (hdone : s.done = true) (hpc : s.pc ≠ .returned) :
    ∃ l s', l.forwards = true ∧ s.step unmarshal l = some s' := by
  cases hpc' : s.pc with
  | returned => exact absurd hpc' hpc
  | select event => exact ⟨.quit, s.finish, rfl, by simp [RedisSubscription.step, hpc', hdone]⟩
  | range =>
      cases hinbox : s.inbox with
      | nil =>
          exact ⟨.finish, s.finish, rfl, by simp [RedisSubscription.step, hpc', hinbox, hclosed]⟩
      | cons raw inbox =>
          refine ⟨.take, ?_⟩
          simp only [RedisSubscription.step, hpc', hinbox]
          cases unmarshal raw <;> exact ⟨_, rfl, rfl⟩

theorem Ok.arrive (hok : s.Ok) (keyPrefix channel payload : String) :
    (s.arrive keyPrefix channel payload).Ok ∧
      (s.closed = true → s.arrive keyPrefix channel payload = s) := by
  refine ⟨⟨(s.arrive_calm hok.calm keyPrefix channel payload).1, ?_⟩, ?_⟩
  · unfold RedisSubscription.arrive
    split_ifs <;> exact hok.closed
  · intro hc
    unfold RedisSubscription.arrive
    rw [if_neg (by simp [hok.closed hc])]

end RedisSubscription

/-- **A step at Redis keeps the subscriptions in order**, and a closed one comes nearer to its end
with every move of its goroutine. -/
theorem redisStep_ok {l : RedisLabel} (hok : s.Ok) (hn : b.subs[n]? = some s)
    (h : redisStep unmarshal marshal b l = some b') :
    ∃ s', b'.subs[n]? = some s' ∧ s'.Ok ∧ (s.closed = true → s.done = true →
      s'.closed = true ∧ s'.done = true ∧
        s'.moves + (if l.forwards n then 1 else 0) ≤ s.moves) := by
  have haffects := (redisStep_affects h n).2
  generalize b'.subs[n]? = after at haffects ⊢
  cases haffects with
  | same _ _ hforwards =>
      rw [hforwards]
      exact ⟨s, hn, hok, fun hc hd => ⟨hc, hd, le_rfl⟩⟩
  | arrived _ channel payload _ hforwards =>
      obtain ⟨hok', hsame⟩ := hok.arrive b.keyPrefix channel payload
      refine ⟨s.arrive b.keyPrefix channel payload, by rw [hn]; rfl, hok', fun hc hd => ?_⟩
      rw [hsame hc, hforwards]
      exact ⟨hc, hd, le_rfl⟩
  | made sessionID hnone =>
      rw [hn] at hnone
      cases hnone
  | moved l u s' hu hs =>
      obtain rfl := Option.mem_unique hn hu
      obtain ⟨hok', hclosed, hdone⟩ := hok.step hs
      refine ⟨s', rfl, hok', fun hc hd => ⟨hclosed hc, hdone hd, ?_⟩⟩
      simpa [RedisLabel.forwards] using hs.moves hok.calm

/-- The subscriptions of a broker are in order. -/
def RedisBroker.Ok (b : RedisBroker) : Prop :=
  ∀ (n : ℕ) (s : RedisSubscription), b.subs[n]? = some s → s.Ok

theorem RedisBroker.Ok.step {l : RedisLabel} (hok : b.Ok)
    (h : redisStep unmarshal marshal b l = some b') : b'.Ok := by
  intro n s' hs'
  cases hn : b.subs[n]? with
  | some s =>
      obtain ⟨u, hu, huok, -⟩ := redisStep_ok (hok n s hn) hn h
      exact Option.mem_unique hu hs' ▸ huok
  | none =>
      have haffects := (redisStep_affects h n).2
      rw [hs'] at haffects
      generalize hafter : some s' = after at haffects
      -- only `Subscribe` makes one that was not there
      cases haffects with
      | same | arrived =>
          rw [hn] at hafter
          cases hafter
      | made sessionID =>
          obtain rfl := Option.some.inj hafter
          exact ⟨⟨rfl, iff_of_false Bool.false_ne_true fun hr => by cases hr⟩, fun hc => by cases hc⟩
      | moved l u u' hu =>
          rw [hn] at hu
          cases hu

theorem RedisBroker.ok_of_exec {keyPrefix : String} {l : List RedisLabel}
    (h : exec (redisStep unmarshal marshal) (newRedisBroker keyPrefix) l = some b) : b.Ok :=
  exec_invariant_of_step (fun _ _ _ hok hs => RedisBroker.Ok.step hok hs)
    (fun n s hn => by cases hn) h

end

/-- **The Redis broker delivers in order.**  From any state that the broker can reach, over any run
of publications, connections and subscribers: there is no send on a closed channel and no double
close; what subscription `n` got and has on its way is a part, in order, of what it had and of what
Redis published for its session, the same list for every subscriber of the session; and it is all of
it when the connection stands and no message gets lost. -/
theorem redisBroker_delivers {marshal : Event → Option String} {unmarshal : String → Option Event}
    {keyPrefix : String} {l₀ l : List RedisLabel} {b b' : RedisBroker} {n : ℕ}
    {s : RedisSubscription}
    (h₀ : exec (redisStep unmarshal marshal) (newRedisBroker keyPrefix) l₀ = some b)
    (hn : b.subs[n]? = some s) (h : exec (redisStep unmarshal marshal) b l = some b') :
    ∃ s', b'.subs[n]? = some s' ∧ s'.panicked = false ∧
      (s'.stream unmarshal).Sublist (s.stream unmarshal ++
        l.filterMap (arrival unmarshal marshal b.keyPrefix s.sessionID)) ∧
      (s.connected = true → (∀ lab ∈ l, RedisLabel.costs n lab = false) →
        s'.stream unmarshal = s.stream unmarshal ++
          l.filterMap (arrival unmarshal marshal b.keyPrefix s.sessionID)) := by
  have hcalm := (RedisBroker.ok_of_exec h₀ n s hn).calm
  obtain ⟨s', hs', hserves⟩ := redisRun_serves hcalm hn h
  exact ⟨s', hs', hserves.calm.calm, hserves.stream, fun hc hl => (hserves.whole hc hl).2⟩

/-- The JSON of a chunk of a session, without a run, a number and a time. -/
def chunkText (sessionID : String) : String :=
  "\x7b\"session_id\":\"" ++ sessionID ++
    "\",\"type\":\"chunk\",\"sequence\":0,\"time\":\"0001-01-01T00:00:00Z\"\x7d"

/-- `json.Marshal` and `json.Unmarshal` on such chunks of two sessions. -/
def chunkJSON (event : Event) : Option String :=
  if event.sessionID ∈ ["sess_1", "sess_2"] ∧ event.runID = "" ∧ event.type = "chunk" ∧
      event.sequence = 0 ∧ event.data.isEmpty = true ∧ event.time = 0 then
    some (chunkText event.sessionID)
  else none

def chunkEvent (raw : String) : Option Event :=
  (["sess_1", "sess_2"].find? fun sessionID => chunkText sessionID = raw).map fun sessionID =>
    { sessionID, type := "chunk" }

/-- Events of two sessions are published while a subscriber of one of them takes what it gets. -/
def twoSessions : List RedisLabel :=
  [.publish { sessionID := "sess_1", type := "chunk" }, .sub 0 .take,
    .publish { sessionID := "sess_2", type := "chunk" }, .sub 0 .send]

/-- `redisBroker_delivers` applies to a subscription that is connected meanwhile: it gets the event of
its own session. -/
theorem connectedSubscriber_gets :
    ∃ b ∈ exec (redisStep chunkEvent chunkJSON) (newRedisBroker "")
        [.subscribe "sess_1", .sub 0 .connect],
      ∃ b' ∈ exec (redisStep chunkEvent chunkJSON) b twoSessions,
        ∃ s' ∈ b'.subs[0]?, s'.stream chunkEvent = [{ sessionID := "sess_1", type := "chunk" }] := by
  have hgets : ∀ b, exec (redisStep chunkEvent chunkJSON) (newRedisBroker "")
      [.subscribe "sess_1", .sub 0 .connect] = some b →
        ∀ s, b.subs[0]? = some s → s.connected = true →
          ∀ b', exec (redisStep chunkEvent chunkJSON) b twoSessions = some b' →
            ∃ s', b'.subs[0]? = some s' ∧ s'.stream chunkEvent = s.stream chunkEvent ++
              twoSessions.filterMap (arrival chunkEvent chunkJSON b.keyPrefix s.sessionID) := by
    intro b hb s hs hconn b' hb'
    obtain ⟨s', hs', -, -, hwhole⟩ := redisBroker_delivers hb hs hb'
    exact ⟨s', hs', hwhole hconn (by decide)⟩
  exact ⟨_, rfl, _, rfl, hgets _ rfl _ rfl rfl _ rfl⟩

/-- **A subscription that is given up ends.**  Once the cancel function was called and the context
has ended, the goroutine of the subscription is not blocked before it has returned, and it makes a
bounded number of moves, whatever is published. -/
theorem redisSubscription_ends {marshal : Event → Option String} {unmarshal : String → Option Event}
    {keyPrefix : String} {l₀ l : List RedisLabel} {b b' : RedisBroker} {n : ℕ}
    {s : RedisSubscription}
    (h₀ : exec (redisStep unmarshal marshal) (newRedisBroker keyPrefix) l₀ = some b)
    (hn : b.subs[n]? = some s) (hclosed : s.closed = true) (hdone : s.done = true)
    (h : exec (redisStep unmarshal marshal) b l = some b') :
    l.countP (RedisLabel.forwards n) ≤ 2 * s.inbox.length + 2 ∧
      ∃ s', b'.subs[n]? = some s' ∧ (s'.pc = .returned ∧ s'.ch.closed = true ∨
        ∃ lab b'', RedisLabel.forwards n lab = true ∧
          redisStep unmarshal marshal b' lab = some b'') := by
  -- the states in which the subscription is given up
  let I : RedisBroker → Prop := fun c =>
    ∃ u, c.subs[n]? = some u ∧ u.Ok ∧ u.closed = true ∧ u.done = true
  have hI : I b := ⟨s, hn, RedisBroker.ok_of_exec h₀ n s hn, hclosed, hdone⟩
  have hstep : ∀ c lab c', I c → redisStep unmarshal marshal c lab = some c' →
      I c' ∧ (c'.subs[n]?.elim 0 RedisSubscription.moves) +
          (if RedisLabel.forwards n lab then 1 else 0) ≤
        (c.subs[n]?.elim 0 RedisSubscription.moves) + (if false then 1 else 0) := by
    rintro c lab c' ⟨u, hu, hok, hc, hd⟩ hc'
    obtain ⟨u', hu', hok', hkeep⟩ := redisStep_ok hok hu hc'
    obtain ⟨hclosed', hdone', hlow⟩ := hkeep hc hd
    rw [hu', hu]
    exact ⟨⟨u', hu', hok', hclosed', hdone'⟩, hlow⟩
  constructor
  · have hle := exec_countP_le hstep hI h
    have hmoves : s.moves ≤ 2 * s.inbox.length + 2 := by
      unfold RedisSubscription.moves
      split <;> omega
    simp only [hn, Option.elim_some, List.countP_false, Function.const_apply] at hle
    omega
  · obtain ⟨u, hu, hok, hc, hd⟩ :=
      exec_invariant_of_step (fun c lab c' hc hs => (hstep c lab c' hc hs).1) hI h
    refine ⟨u, hu, ?_⟩
    by_cases hpc : u.pc = .returned
    · exact Or.inl ⟨hpc, hok.calm.closed.2 hpc⟩
    · obtain ⟨lab, u', hlab, hu'⟩ := RedisSubscription.exists_forwards unmarshal hc hd hpc
      refine Or.inr ⟨.sub n lab, { b' with subs := b'.subs.set n u' }, ?_, ?_⟩
      · simpa [RedisLabel.forwards] using hlab
      · rw [redisStep, hu, Option.bind_some, hu']
        rfl

/-- A subscription is given up with an event in the hands of its goroutine. -/
def givesUp : List RedisLabel :=
  [.subscribe "sess_1", .sub 0 .connect, .publish { sessionID := "sess_1", type := "chunk" },
    .sub 0 .take, .sub 0 .ctxDone, .sub 0 .close]

/-- `redisSubscription_ends` applies to it: the goroutine can move, for the last time. -/
theorem givesUp_ends :
    ∃ b ∈ exec (redisStep chunkEvent chunkJSON) (newRedisBroker "") givesUp,
      ∃ lab b', RedisLabel.forwards 0 lab = true ∧ redisStep chunkEvent chunkJSON b lab = some b' := by
  have hmoves : ∀ b, exec (redisStep chunkEvent chunkJSON) (newRedisBroker "") givesUp = some b →
      ∀ s, b.subs[0]? = some s → s.closed = true → s.done = true → s.ch.closed = false →
        ∃ lab b', RedisLabel.forwards 0 lab = true ∧ redisStep chunkEvent chunkJSON b lab = some b' := by
    intro b hb s hs hclosed hdone hopen
    obtain ⟨-, s', hs', ⟨-, hch⟩ | hnext⟩ := redisSubscription_ends hb hs hclosed hdone (exec_nil b)
    · obtain rfl := Option.mem_unique hs hs'
      rw [hopen] at hch
      cases hch
    · exact hnext
  exact ⟨_, rfl, hmoves _ rfl _ rfl rfl rfl rfl⟩

end Broker
end Agentd
