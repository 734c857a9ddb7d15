/-
# A request for the events of a session, over Redis

`handleSessionEvents` together with the broker it subscribes at.  A request subscribes, writes a
message for each event that it receives from its channel, and cancels its subscription when it
returns: when the request ends, when the channel is closed, or when a write fails.  Meanwhile
anything may happen at Redis.

What the client reads is in the order in which Redis published the events of the session, without
repetition and without events of other sessions, however the request ends; and while the connection
to Redis stands, no event is missing between what was read and what is on its way
(`liveEvents_ordered`).
-/

import Agentd.Api.SessionEvents
import Agentd.Session.RedisBroker

namespace Agentd
namespace Api

open Control Concurrency Encoding EventStream Broker

/-- A call of `handleSessionEvents` after its `Subscribe`: the broker, the number of the
subscription, what the loop has met, and whether the call has returned. -/
structure EventRequest where
  broker : RedisBroker
  sub : ℕ
  signals : List StreamSignal := []
  returned : Bool := false

/-- What happens next: something at Redis; the loop receives an event, or finds the channel closed,
and the write may fail; the request ends; the loop takes notice of that. -/
inductive EventLabel
  | redis (l : RedisLabel)
  | receive (failure : Option ℕ)
  | ctxDone
  | notice

/-- The call receives from its subscription, ends its context and cancels it by itself. -/
def ownStep (sub : ℕ) : RedisLabel → Bool
  | .sub n .recv | .sub n .ctxDone | .sub n .close => n = sub
  | _ => false

/-- `Subscribe` at the start of the call. -/
def newEventRequest (b : RedisBroker) (sessionID : String) : EventRequest where
  broker := { b with subs := b.subs ++ [{ sessionID }] }
  sub := b.subs.length

section

variable (unmarshal : String → Option Event) (marshal : Event → Option String)

/-- A step at Redis as part of the call. -/
def EventRequest.redis (r : EventRequest) (l : RedisLabel) : Option EventRequest :=
  (redisStep unmarshal marshal r.broker l).map fun b => { r with broker := b }

/-- The loop meets a signal. -/
def EventRequest.meet (r : EventRequest) (signal : StreamSignal) : EventRequest :=
  { r with signals := r.signals ++ [signal] }

/-- The call returns, and cancels its subscription. -/
def EventRequest.cancel (r : EventRequest) : Option EventRequest :=
  ({ r with returned := true } : EventRequest).redis unmarshal marshal (.sub r.sub .close)

/-- One step of a call. -/
def EventRequest.step (r : EventRequest) : EventLabel → Option EventRequest
  | .redis l => if ownStep r.sub l then none else r.redis unmarshal marshal l
  | .receive failure =>
      if r.returned then none
      else
        r.broker.subs[r.sub]?.bind fun s =>
          match s.ch.recv with
          | .value event _ =>
              ((r.meet (.event event failure)).redis unmarshal marshal (.sub r.sub .recv)).bind
                fun r' => if failure.isSome then r'.cancel unmarshal marshal else some r'
          | .closed => (r.meet .closed).cancel unmarshal marshal
          | .empty => none
  | .ctxDone => r.redis unmarshal marshal (.sub r.sub .ctxDone)
  | .notice =>
      if r.returned then none
      else
        r.broker.subs[r.sub]?.bind fun s =>
          if s.done then (r.meet .done).cancel unmarshal marshal else none

/-- What a step of a call can do. -/
inductive EventRequest.Step (r : EventRequest) : EventLabel → EventRequest → Prop
  | redis (l : RedisLabel) (b : RedisBroker) (hown : ownStep r.sub l = false)
      (hb : redisStep unmarshal marshal r.broker l = some b) :
      Step r (.redis l) { r with broker := b }
  | received (s : RedisSubscription) (event : Event) (ch : Chan Event 64) (b : RedisBroker)
      (hret : r.returned = false) (hs : r.broker.subs[r.sub]? = some s)
      (hrecv : s.ch.recv = .value event ch)
      (hb : redisStep unmarshal marshal r.broker (.sub r.sub .recv) = some b) :
      Step r (.receive none) { r.meet (.event event none) with broker := b }
  | failed (s : RedisSubscription) (event : Event) (ch : Chan Event 64) (n : ℕ) (b b' : RedisBroker)
      (hret : r.returned = false) (hs : r.broker.subs[r.sub]? = some s)
      (hrecv : s.ch.recv = .value event ch)
      (hb : redisStep unmarshal marshal r.broker (.sub r.sub .recv) = some b)
      (hb' : redisStep unmarshal marshal b (.sub r.sub .close) = some b') :
      Step r (.receive (some n))
        { r.meet (.event event (some n)) with broker := b', returned := true }
  | ended (l : EventLabel) (signal : StreamSignal) (b : RedisBroker) (hret : r.returned = false)
      (hsignal : receivedEvents [signal] = [])
      (hb : redisStep unmarshal marshal r.broker (.sub r.sub .close) = some b)
      (hl : ∀ l', l ≠ .redis l') :
      Step r l { r.meet signal with broker := b, returned := true }
  | ctxDone (b : RedisBroker)
      (hb : redisStep unmarshal marshal r.broker (.sub r.sub .ctxDone) = some b) :
      Step r .ctxDone { r with broker := b }

/-- The event of a step at Redis that is for the session. -/
def eventArrival (keyPrefix sessionID : String) : EventLabel → Option Event
  | .redis l => arrival unmarshal marshal keyPrefix sessionID l
  | .receive _ | .ctxDone | .notice => none

end

/-- A step at Redis that costs the subscription a message. -/
def EventLabel.costs (sub : ℕ) : EventLabel → Bool
  | .redis l => l.costs sub
  | .receive _ | .ctxDone | .notice => false

section

variable {unmarshal : String → Option Event} {marshal : Event → Option String}
  {r r' : EventRequest} {l : EventLabel}

theorem EventRequest.redis_eq_some {l : RedisLabel} (h : r.redis unmarshal marshal l = some r') :
    ∃ b, redisStep unmarshal marshal r.broker l = some b ∧ r' = { r with broker := b } := by
  obtain ⟨b, hb, rfl⟩ := Option.map_eq_some_iff.1 h
  exact ⟨b, hb, rfl⟩

/-- **A step of a call is one of `EventRequest.Step`.** -/
theorem EventRequest.step_spec (h : r.step unmarshal marshal l = some r') :
    r.Step unmarshal marshal l r' := by
  cases l with
  | redis l =>
      obtain ⟨hown, h⟩ := Option.ite_none_left_eq_some.1 h
      obtain ⟨b, hb, rfl⟩ := redis_eq_some h
      exact .redis l b (Bool.not_eq_true _ ▸ hown) hb
  | ctxDone =>
      obtain ⟨b, hb, rfl⟩ := redis_eq_some h
      exact .ctxDone b hb
  | notice =>
      obtain ⟨hret, h⟩ := Option.ite_none_left_eq_some.1 h
      obtain ⟨s, hs, h⟩ := Option.bind_eq_some_iff.1 h
      obtain ⟨hdone, h⟩ := Option.ite_none_right_eq_some.1 h
      obtain ⟨b, hb, rfl⟩ := redis_eq_some h
      exact .ended .notice .done b (Bool.not_eq_true _ ▸ hret) rfl hb fun _ hl => by cases hl
  | receive failure =>
      obtain ⟨hret, h⟩ := Option.ite_none_left_eq_some.1 h
      have hret : r.returned = false := Bool.not_eq_true _ ▸ hret
      obtain ⟨s, hs, h⟩ := Option.bind_eq_some_iff.1 h
      split at h
      · next event ch hrecv =>
          obtain ⟨r₁, h₁, h⟩ := Option.bind_eq_some_iff.1 h
          obtain ⟨b, hb, rfl⟩ := redis_eq_some h₁
          cases failure with
          | none =>
              obtain rfl := Option.some.inj h
              exact .received s event ch b hret hs hrecv hb
          | some n =>
              obtain ⟨b', hb', rfl⟩ := redis_eq_some h
              exact .failed s event ch n b b' hret hs hrecv hb hb'
      · obtain ⟨b, hb, rfl⟩ := redis_eq_some h
        exact .ended _ .closed b hret rfl hb fun _ hl => by cases hl
      · cases h

/-- What a step of a call is at Redis. -/
structure RedisTrace (unmarshal : String → Option Event) (marshal : Event → Option String)
    (sessionID : String) (r r' : EventRequest) (arrived : List Event) (lossless : Prop)
    (ls : List RedisLabel) : Prop where
  exec : exec (redisStep unmarshal marshal) r.broker ls = some r'.broker
  keyPrefix : r'.broker.keyPrefix = r.broker.keyPrefix
  sub : r'.sub = r.sub
  returned : r.returned = true → r'.returned = true
  arrived : ls.filterMap (arrival unmarshal marshal r.broker.keyPrefix sessionID) = arrived
  costs : r'.returned = false → lossless → ∀ lab ∈ ls, RedisLabel.costs r.sub lab = false

theorem RedisTrace.append {sessionID : String} {r'' : EventRequest} {first rest : List Event}
    {P Q : Prop} {ls ls' : List RedisLabel}
    (h : RedisTrace unmarshal marshal sessionID r r' first P ls)
    (h' : RedisTrace unmarshal marshal sessionID r' r'' rest Q ls') :
    RedisTrace unmarshal marshal sessionID r r'' (first ++ rest) (P ∧ Q) (ls ++ ls') where
  exec := exec_append_eq_some.2 ⟨r'.broker, h.exec, h'.exec⟩
  keyPrefix := h'.keyPrefix.trans h.keyPrefix
  sub := h'.sub.trans h.sub
  returned hr := h'.returned (h.returned hr)
  arrived := by rw [List.filterMap_append, h.arrived, ← h'.arrived, h.keyPrefix]
  costs hret hall := by
    have hmid : r'.returned = false := by
      rw [← Bool.not_eq_true]
      intro hr
      rw [h'.returned hr] at hret
      cases hret
    refine List.forall_mem_append.2 ⟨h.costs hmid hall.1, ?_⟩
    rw [← h.sub]
    exact h'.costs hret hall.2

theorem redisStep_keyPrefix {b b' : RedisBroker} {l : RedisLabel}
    (h : redisStep unmarshal marshal b l = some b') : b'.keyPrefix = b.keyPrefix :=
  (redisStep_affects h 0).1

theorem EventRequest.step_trace (sessionID : String) (h : r.step unmarshal marshal l = some r') :
    ∃ ls, RedisTrace unmarshal marshal sessionID r r'
      (eventArrival unmarshal marshal r.broker.keyPrefix sessionID l).toList
      (EventLabel.costs r.sub l = false) ls := by
  have hone : ∀ {l : RedisLabel} {b : RedisBroker},
      redisStep unmarshal marshal r.broker l = some b →
        exec (redisStep unmarshal marshal) r.broker [l] = some b := fun hb =>
    exec_cons_eq_some.2 ⟨_, hb, rfl⟩
  cases EventRequest.step_spec h with
  | redis l b hown hb =>
      refine ⟨[l], hone hb, redisStep_keyPrefix hb, rfl, fun hr => hr, ?_, fun _ hl => ?_⟩
      · cases ha : arrival unmarshal marshal r.broker.keyPrefix sessionID l <;> simp [ha, eventArrival]
      · exact List.forall_mem_singleton.2 hl
  | ctxDone b hb =>
      refine ⟨_, hone hb, redisStep_keyPrefix hb, rfl, fun hr => hr, rfl, fun _ _ => ?_⟩
      simp [RedisLabel.costs, SubscriptionLabel.costs]
  | received u event ch b hret hu hrecv hb =>
      refine ⟨_, hone hb, redisStep_keyPrefix hb, rfl, fun hr => hr, rfl, fun _ _ => ?_⟩
      simp [RedisLabel.costs, SubscriptionLabel.costs]
  | failed u event ch n b b' hret hu hrecv hb hb' =>
      exact ⟨[.sub r.sub .recv, .sub r.sub .close],
        exec_cons_eq_some.2 ⟨b, hb, exec_cons_eq_some.2 ⟨b', hb', rfl⟩⟩,
        (redisStep_keyPrefix hb').trans (redisStep_keyPrefix hb), rfl, fun _ => rfl, rfl,
        fun hr => by cases hr⟩
  | ended _ signal b hret hsignal hb hl =>
      refine ⟨_, hone hb, redisStep_keyPrefix hb, rfl, fun _ => rfl, ?_, fun hr => by cases hr⟩
      cases l with
      | redis l' => exact absurd rfl (hl l')
      | receive | ctxDone | notice => rfl

/-- **A run of a call is a run at Redis**, with the same arrivals for the session; while the call has
not returned, it costs the subscription nothing. -/
theorem EventRequest.exec_trace (sessionID : String) {l : List EventLabel}
    (h : exec (EventRequest.step unmarshal marshal) r l = some r') :
    ∃ ls, RedisTrace unmarshal marshal sessionID r r'
      (l.filterMap (eventArrival unmarshal marshal r.broker.keyPrefix sessionID))
      (∀ lab ∈ l, EventLabel.costs r.sub lab = false) ls := by
  induction l generalizing r with
  | nil =>
      obtain rfl := Option.some.inj h
      exact ⟨[], rfl, rfl, rfl, fun hr => hr, rfl, fun _ _ => by simp⟩
  | cons a l ih =>
      obtain ⟨r₁, h₁, hrest⟩ := exec_cons_eq_some.1 h
      obtain ⟨ls, hfirst⟩ := EventRequest.step_trace sessionID h₁
      obtain ⟨ls', hlast⟩ := ih hrest
      have hboth := hfirst.append hlast
      rw [hfirst.keyPrefix, hfirst.sub] at hboth
      refine ⟨ls ++ ls', hboth.exec, hboth.keyPrefix, hboth.sub, hboth.returned, ?_, fun hret hall =>
        hboth.costs hret (List.forall_mem_cons.1 hall)⟩
      rw [hboth.arrived]
      cases ha : eventArrival unmarshal marshal r.broker.keyPrefix sessionID a <;> simp [ha]

/-- The call has received what its subscription has given, and while it has not returned it has
written all of it. -/
structure EventRequest.Ok (r : EventRequest) (s : RedisSubscription) : Prop where
  sub : r.broker.subs[r.sub]? = some s
  received : receivedEvents r.signals = s.received
  written : r.returned = false → r.signals = s.received.map StreamSignal.written

theorem receivedEvents_concat (events : List Event) (signal : StreamSignal) :
    receivedEvents (events.map StreamSignal.written ++ [signal]) =
      events ++ receivedEvents [signal] := by
  induction events with
  | nil => rfl
  | cons event events ih =>
      show event :: receivedEvents (events.map StreamSignal.written ++ [signal]) = _
      rw [ih]
      rfl

theorem redisStep_received {b b' : RedisBroker} {n : ℕ} {s : RedisSubscription} {l : RedisLabel}
    (hn : b.subs[n]? = some s) (h : redisStep unmarshal marshal b l = some b')
    (hl : l ≠ .sub n .recv) : ∃ s', b'.subs[n]? = some s' ∧ s'.received = s.received := by
  have haffects := (redisStep_affects h n).2
  generalize b'.subs[n]? = after at haffects ⊢
  cases haffects with
  | same => exact ⟨s, hn, rfl⟩
  | arrived _ channel payload =>
      refine ⟨s.arrive b.keyPrefix channel payload, by rw [hn]; rfl, ?_⟩
      unfold RedisSubscription.arrive
      split_ifs <;> rfl
  | made sessionID hnone =>
      rw [hn] at hnone
      cases hnone
  | moved l u s' hu hs =>
      obtain rfl := Option.mem_unique hn hu
      have hfinish : s.finish.received = s.received := by
        unfold RedisSubscription.finish
        split <;> rfl
      refine ⟨s', rfl, ?_⟩
      cases hs with
      | received | drained => exact absurd rfl hl
      | quit | finished => exact hfinish
      | connected | disconnected | lost | taken | skipped | sent | panicked | ctxDone | closed => rfl

/-- A receive hands out the oldest event. -/
theorem redisStep_recv {b b' : RedisBroker} {n : ℕ} {s : RedisSubscription} {event : Event}
    {ch : Chan Event 64} (hn : b.subs[n]? = some s) (hrecv : s.ch.recv = .value event ch)
    (h : redisStep unmarshal marshal b (.sub n .recv) = some b') :
    ∃ s', b'.subs[n]? = some s' ∧ s'.received = s.received ++ [event] := by
  obtain ⟨u, hu, h⟩ := Option.bind_eq_some_iff.1 h
  obtain ⟨u', hu', rfl⟩ := Option.map_eq_some_iff.1 h
  obtain rfl := Option.mem_unique hn hu
  rw [RedisSubscription.step, hrecv] at hu'
  obtain rfl := Option.some.inj hu'
  exact ⟨_, getElem?_set_of_some _ hn, rfl⟩

theorem EventRequest.Ok.step {s : RedisSubscription} (hok : r.Ok s)
    (h : r.step unmarshal marshal l = some r') : ∃ s', r'.Ok s' := by
  cases EventRequest.step_spec h with
  | redis l b hown hb =>
      obtain ⟨s', hs', hrec⟩ := redisStep_received hok.sub hb fun hl => by
        rw [hl] at hown
        simp [ownStep] at hown
      exact ⟨s', hs', hrec ▸ hok.received, hrec ▸ hok.written⟩
  | ctxDone b hb =>
      obtain ⟨s', hs', hrec⟩ := redisStep_received hok.sub hb fun hl => by cases hl
      exact ⟨s', hs', hrec ▸ hok.received, hrec ▸ hok.written⟩
  | received u event ch b hret hu hrecv hb =>
      obtain rfl := Option.mem_unique hok.sub hu
      obtain ⟨s', hs', hrec⟩ := redisStep_recv hok.sub hrecv hb
      refine ⟨s', hs', ?_, fun _ => ?_⟩
      · show receivedEvents (r.signals ++ [.event event none]) = s'.received
        rw [hok.written hret, receivedEvents_concat, hrec]
        rfl
      · show r.signals ++ [.event event none] = s'.received.map StreamSignal.written
        rw [hok.written hret, hrec, List.map_append]
        rfl
  | failed u event ch n b b' hret hu hrecv hb hb' =>
      obtain rfl := Option.mem_unique hok.sub hu
      obtain ⟨s', hs', hrec⟩ := redisStep_recv hok.sub hrecv hb
      obtain ⟨s'', hs'', hrec'⟩ := redisStep_received hs' hb' fun hl => by cases hl
      refine ⟨s'', hs'', ?_, fun hr => by cases hr⟩
      show receivedEvents (r.signals ++ [.event event (some n)]) = s''.received
      rw [hok.written hret, receivedEvents_concat, hrec', hrec]
      rfl
  | ended _ signal b hret hsignal hb =>
      obtain ⟨s', hs', hrec⟩ := redisStep_received hok.sub hb fun hl => by cases hl
      refine ⟨s', hs', ?_, fun hr => by cases hr⟩
      show receivedEvents (r.signals ++ [signal]) = s'.received
      rw [hok.written hret, receivedEvents_concat, hsignal, hrec, List.append_nil]

end

section

variable {unmarshal : String → Option Event} {marshal : Event → Option String}
  {sessionID : String} {l : List EventLabel} {b : RedisBroker} {r : EventRequest}

/-- **What a call has received** is in order, and of its own session. -/
theorem EventRequest.exec_received
    (h : exec (EventRequest.step unmarshal marshal) (newEventRequest b sessionID) l = some r) :
    ∃ s, r.Ok s ∧ s.Calm ∧ s.sessionID = sessionID ∧ r.broker.keyPrefix = b.keyPrefix ∧
      s.received.Sublist (l.filterMap (eventArrival unmarshal marshal b.keyPrefix sessionID)) := by
  have hnew : (newEventRequest b sessionID).broker.subs[(newEventRequest b sessionID).sub]? =
      some ({ sessionID } : RedisSubscription) := List.getElem?_concat_length ..
  have hstep : ∀ u lab u', (∃ s, EventRequest.Ok u s) → u.step unmarshal marshal lab = some u' →
      ∃ s, EventRequest.Ok u' s := by
    rintro u lab u' ⟨s, hok⟩ hs
    exact hok.step hs
  obtain ⟨s, hok⟩ : ∃ s, r.Ok s :=
    exec_invariant_of_step hstep ⟨_, hnew, rfl, fun _ => rfl⟩ h
  obtain ⟨ls, htrace⟩ := EventRequest.exec_trace sessionID h
  have hcalm : ({ sessionID } : RedisSubscription).Calm :=
    ⟨rfl, iff_of_false Bool.false_ne_true fun hr => by cases hr⟩
  obtain ⟨s', hs', hserves⟩ := redisRun_serves hcalm hnew htrace.exec
  rw [← htrace.sub, hok.sub] at hs'
  obtain rfl := Option.some.inj hs'
  refine ⟨s, hok, hserves.calm, hserves.sessionID, htrace.keyPrefix, ?_⟩
  have hstream := hserves.stream
  rw [htrace.arrived] at hstream
  exact (List.sublist_append_left ..).trans hstream

end

/-- **The client reads the events of the session in order.**  A request subscribes in any state of the
broker.  Over any run of publications, connections, other subscribers and the request itself, the
messages in what it has written are, in order, events that Redis published for the session since
then.  And over any part of the run in which the subscription is connected, no message gets lost and
the request does not end, what the client has read and what is on its way to it grows by exactly
the events that are published for the session. -/
theorem liveEvents_ordered {marshal : Event → Option String} {unmarshal : String → Option Event}
    {sessionID : String} {l l' : List EventLabel} {b : RedisBroker} {r r' : EventRequest}
    (hmarshal : ∀ event json, marshal event = some json → OneLine json.toList)
    (h : exec (EventRequest.step unmarshal marshal) (newEventRequest b sessionID) l = some r)
    (h' : exec (EventRequest.step unmarshal marshal) r l' = some r')
    (hevents : ∀ event ∈ (l ++ l').filterMap (eventArrival unmarshal marshal b.keyPrefix sessionID),
      Streamable marshal event) :
    (decode (streamEvents marshal r'.signals)).Sublist
        (((l ++ l').filterMap (eventArrival unmarshal marshal b.keyPrefix sessionID)).map
          (frameMessage marshal)) ∧
      ∀ s, r.broker.subs[r.sub]? = some s → s.connected = true →
        (∀ lab ∈ l', EventLabel.costs r.sub lab = false) → r'.returned = false →
          ∃ s', r'.broker.subs[r'.sub]? = some s' ∧
            decode (streamEvents marshal r'.signals) ++
                (s'.pending unmarshal).map (frameMessage marshal) =
              decode (streamEvents marshal r.signals) ++
                (s.pending unmarshal ++ l'.filterMap
                  (eventArrival unmarshal marshal b.keyPrefix sessionID)).map
                    (frameMessage marshal) := by
  obtain ⟨s₁, hok₁, hcalm₁, hid₁, hkeys₁, hrec₁⟩ := EventRequest.exec_received h
  obtain ⟨s₂, hok₂, -, -, -, hrec₂⟩ :=
    EventRequest.exec_received (exec_append_eq_some.2 ⟨r, h, h'⟩)
  have hread : ∀ {u : EventRequest} {s : RedisSubscription}, u.Ok s → u.returned = false →
      (∀ event ∈ s.received, Streamable marshal event) →
        decode (streamEvents marshal u.signals) = s.received.map (frameMessage marshal) := by
    intro u s hok hret hs
    rw [hok.written hret]
    exact (decode_streamEvents_written hmarshal _).2 fun event hevent =>
      ⟨(hs event hevent).type_ne, (hs event hevent).type_line⟩
  have hstreamable₂ : ∀ event ∈ s₂.received, Streamable marshal event :=
    fun event hevent => hevents event (hrec₂.subset hevent)
  constructor
  · have hread : decode (streamEvents marshal r'.signals) <+: _ :=
      decode_streamEvents_prefix hmarshal (hok₂.received ▸ hstreamable₂)
    rw [hok₂.received] at hread
    exact hread.sublist.trans (hrec₂.map _)
  · intro s hs hconn hcosts hret
    obtain rfl := Option.mem_unique hok₁.sub hs
    obtain ⟨ls, htrace⟩ := EventRequest.exec_trace sessionID h'
    obtain ⟨s', hs', hserves⟩ := redisRun_serves hcalm₁ hok₁.sub htrace.exec
    rw [← htrace.sub, hok₂.sub] at hs'
    obtain rfl := Option.some.inj hs'
    obtain ⟨-, hwhole⟩ := hserves.whole hconn (htrace.costs hret hcosts)
    have hret₁ : r.returned = false := by
      rw [← Bool.not_eq_true]
      intro hr
      rw [htrace.returned hr] at hret
      cases hret
    have hstreamable₁ : ∀ event ∈ s₁.received, Streamable marshal event := by
      intro event hevent
      refine hevents event ?_
      rw [List.filterMap_append]
      exact List.mem_append_left _ (hrec₁.subset hevent)
    refine ⟨s₂, hok₂.sub, ?_⟩
    rw [hread hok₂ hret hstreamable₂, hread hok₁ hret₁ hstreamable₁, ← List.map_append,
      ← List.map_append]
    refine congrArg (List.map (frameMessage marshal)) ?_
    rw [hid₁, htrace.arrived, hkeys₁, RedisSubscription.stream, RedisSubscription.stream,
      List.append_assoc] at hwhole
    exact hwhole

/-- Two events are published, one of them for another session; the first is written. -/
def watchesChunk : List EventLabel :=
  [.redis (.publish { sessionID := "sess_1", type := "chunk" }), .redis (.sub 0 .take),
    .redis (.publish { sessionID := "sess_2", type := "chunk" }), .redis (.sub 0 .send), .receive none]

/-- `liveEvents_ordered` applies to a request whose subscription is connected meanwhile. -/
theorem watchesChunk_reads :
    ∃ r ∈ exec (EventRequest.step chunkEvent chunkJSON) (newEventRequest (newRedisBroker "") "sess_1")
        [.redis (.sub 0 .connect)],
      ∃ r' ∈ exec (EventRequest.step chunkEvent chunkJSON) r watchesChunk,
        ∃ s' ∈ r'.broker.subs[0]?, decode (streamEvents chunkJSON r'.signals) ++
            (s'.pending chunkEvent).map (frameMessage chunkJSON) =
          [frameMessage chunkJSON { sessionID := "sess_1", type := "chunk" }] := by
  have hreads : ∀ r, exec (EventRequest.step chunkEvent chunkJSON)
      (newEventRequest (newRedisBroker "") "sess_1") [.redis (.sub 0 .connect)] = some r →
        r.sub = 0 → r.signals = [] → ∀ s, r.broker.subs[0]? = some s → s.connected = true →
          s.pending chunkEvent = [] → ∀ r', exec (EventRequest.step chunkEvent chunkJSON) r
            watchesChunk = some r' → r'.returned = false → r'.sub = 0 →
              ∃ s', r'.broker.subs[0]? = some s' ∧ decode (streamEvents chunkJSON r'.signals) ++
                  (s'.pending chunkEvent).map (frameMessage chunkJSON) =
                [frameMessage chunkJSON { sessionID := "sess_1", type := "chunk" }] := by
    intro r hr hsub hsig s hs hconn hpend r' hr' hret hsub'
    have hmarshal : ∀ event json, chunkJSON event = some json → OneLine json.toList := by
      intro event json hjson
      obtain ⟨hchunk, hjson⟩ := Option.ite_none_right_eq_some.1 hjson
      obtain rfl := Option.some.inj hjson
      exact (by decide : ∀ id ∈ ["sess_1", "sess_2"], OneLine (chunkText id).toList) _ hchunk.1
    have hstreamable : Streamable chunkJSON { sessionID := "sess_1", type := "chunk" } :=
      ⟨by decide, by decide, _, rfl⟩
    obtain ⟨-, hwhole⟩ := liveEvents_ordered hmarshal hr hr' (List.forall_mem_singleton.2 hstreamable)
    obtain ⟨s', hs', heq⟩ := hwhole s (hsub ▸ hs) hconn (by rw [hsub]; decide) hret
    refine ⟨s', hsub' ▸ hs', heq.trans ?_⟩
    rw [hsig, hpend]
    rfl
  exact ⟨_, rfl, _, rfl, hreads _ rfl rfl rfl _ rfl rfl rfl _ rfl rfl rfl⟩

end Api
end Agentd
