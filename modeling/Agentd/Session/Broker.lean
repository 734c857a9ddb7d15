/-
# The in-memory broker

`session/broker.go`: `MemoryBroker`.  A subscriber of a session has a channel with 64
slots.  `Publish` takes the read lock, goes through the channels of the session in the
order of Go's map iteration, which is any order, and offers the event to each of them;
an event that finds 64 unread events is dropped.  `Subscribe` and the cancel function it
returns take the write lock.

A channel is the number of its subscription in the list of all that were made.  The read
lock is the set of the calls that hold it, and a critical section under the write lock
is one step, possible while nobody holds the read lock.  Between them `Publish` moves
from channel to channel: to pick the next one and to send to it are two steps, with
other calls in between.  A send on a closed channel and the close of a closed one set
`panicked`.

`LockOk` is the part of the invariant that rules such a panic out: a registered channel is
open, and so is the one that a `Publish` with the read lock is about to send to.  It
rests on nothing but the lock and on cancel functions that are called at most once.
-/

import Agentd.Control.Types
import Agentd.Concurrency.Feed
import Agentd.Concurrency.Pool
import Mathlib.Data.Finset.Basic

namespace Agentd
namespace Broker

open Control Concurrency

/-- What `Subscribe` made: the session, the channel, and what was received from it. -/
structure Subscription where
  sessionID : String
  ch : Chan Event 64 := .make Event 64
  received : List Event := []

/-- `MemoryBroker`.  `readers` are the calls of `Publish` that hold the read lock. -/
structure MemoryBroker where
  readers : Finset ℕ := ∅
  subs : GoMap String (Finset ℕ) := ∅
  made : List Subscription := []
  panicked : Bool := false

/-- Where a `Publish` stands: before `RLock`; at the head of its loop, after the channels
it has visited; before the send to one more; or at its end. -/
inductive PublishPC
  | rlock
  | range (visited : List ℕ)
  | send (visited : List ℕ) (n : ℕ)
  | returned

/-- A call of `Publish`. -/
structure Publish where
  event : Event
  pc : PublishPC := .rlock

/-- What happens next to a `Publish`; `next` is the choice of the map iteration. -/
inductive PublishLabel
  | rlock
  | next (n : ℕ)
  | send
  | runlock

namespace MemoryBroker

/-- `b.subs[sessionID]`. -/
def registered (b : MemoryBroker) (sessionID : String) : Finset ℕ :=
  (b.subs.lookup sessionID).getD ∅

/-- `Subscribe`. -/
def subscribe (b : MemoryBroker) (sessionID : String) : MemoryBroker :=
  { b with
    subs := b.subs.insert sessionID (insert b.made.length (b.registered sessionID))
    made := b.made ++ [{ sessionID }] }

/-- The subscription with its channel closed and out of the map, as the cancel function
leaves it; a second close panics. -/
def cancel (b : MemoryBroker) (n : ℕ) (s : Subscription) : MemoryBroker :=
  let b := { b with subs := b.subs.insert s.sessionID ((b.registered s.sessionID).erase n) }
  match s.ch.close with
  | some ch => { b with made := b.made.set n { s with ch } }
  | none => { b with panicked := true }

/-- The body of the loop of `Publish`: the event is offered, and a send on a closed channel
panics. -/
def offer (b : MemoryBroker) (n : ℕ) (s : Subscription) (event : Event) : MemoryBroker :=
  match s.ch.offer event with
  | some ch => { b with made := b.made.set n { s with ch } }
  | none => { b with panicked := true }

end MemoryBroker

/-- One step of a `Publish`. -/
def Publish.step (i : ℕ) (b : MemoryBroker) (p : Publish) (l : PublishLabel) :
    Option (MemoryBroker × Publish) :=
  match p.pc, l with
  | .rlock, .rlock => some ({ b with readers := insert i b.readers }, { p with pc := .range [] })
  | .range visited, .next n =>
      if n ∈ b.registered p.event.sessionID ∧ n ∉ visited then
        some (b, { p with pc := .send visited n })
      else none
  | .send visited n, .send =>
      b.made[n]?.map fun s => (b.offer n s p.event, { p with pc := .range (n :: visited) })
  | .range visited, .runlock =>
      if ∀ n ∈ b.registered p.event.sessionID, n ∈ visited then
        some ({ b with readers := b.readers.erase i }, { p with pc := .returned })
      else none
  | _, _ => none

/-- The calls of `Publish`. -/
def publishMachine : Machine MemoryBroker Publish Event PublishLabel where
  start _ event := some { event }
  run i b p l := p.step i b l

/-- What happens next at a broker: something to the calls of `Publish`; a `Subscribe`; a
receive of subscription `n`; or a call of its cancel function. -/
inductive BrokerLabel
  | publish (l : PoolLabel Event PublishLabel)
  | subscribe (sessionID : String)
  | recv (n : ℕ)
  | cancel (n : ℕ)

/-- A receive of subscription `n`; nothing comes out of a channel that is closed and
drained. -/
def MemoryBroker.recv (b : MemoryBroker) (n : ℕ) : Option MemoryBroker :=
  b.made[n]?.bind fun s =>
    match s.ch.recv with
    | .value event ch =>
        some { b with made := b.made.set n { s with ch, received := s.received ++ [event] } }
    | .closed => some b
    | .empty => none

/-- One step at a broker. -/
def brokerStep (p : Pool MemoryBroker Publish) : BrokerLabel → Option (Pool MemoryBroker Publish)
  | .publish l => p.step publishMachine l
  | .subscribe sessionID =>
      if p.shared.readers = ∅ then some { p with shared := p.shared.subscribe sessionID } else none
  | .recv n => (p.shared.recv n).map fun b => { p with shared := b }
  | .cancel n =>
      if p.shared.readers = ∅ then
        p.shared.made[n]?.map fun s => { p with shared := p.shared.cancel n s }
      else none

/-- `NewMemoryBroker`. -/
def newMemoryBroker : Pool MemoryBroker Publish := ⟨{}, []⟩

/-- What a step of a `Publish` can do. -/
inductive Publish.Step (i : ℕ) (b : MemoryBroker) (p : Publish) :
    PublishLabel → MemoryBroker → Publish → Prop
  | rlock (hpc : p.pc = .rlock) :
      Step i b p .rlock { b with readers := insert i b.readers } { p with pc := .range [] }
  | next (visited : List ℕ) (n : ℕ) (hpc : p.pc = .range visited)
      (hreg : n ∈ b.registered p.event.sessionID) (hnew : n ∉ visited) :
      Step i b p (.next n) b { p with pc := .send visited n }
  | send (visited : List ℕ) (n : ℕ) (s : Subscription) (hpc : p.pc = .send visited n)
      (hget : b.made[n]? = some s) :
      Step i b p .send (b.offer n s p.event) { p with pc := .range (n :: visited) }
  | runlock (visited : List ℕ) (hpc : p.pc = .range visited)
      (hall : ∀ n ∈ b.registered p.event.sessionID, n ∈ visited) :
      Step i b p .runlock { b with readers := b.readers.erase i } { p with pc := .returned }

/-- What a step at a broker can do. -/
inductive BrokerStep (p : Pool MemoryBroker Publish) :
    BrokerLabel → Pool MemoryBroker Publish → Prop
  | publish (event : Event) :
      BrokerStep p (.publish (.spawn event)) { p with threads := p.threads ++ [{ event }] }
  | step (i : ℕ) (l : PublishLabel) (t t' : Publish) (b : MemoryBroker)
      (hi : p.threads[i]? = some t) (hs : t.Step i p.shared l b t') :
      BrokerStep p (.publish (.step i l)) { shared := b, threads := p.threads.set i t' }
  | subscribe (sessionID : String) (hfree : p.shared.readers = ∅) :
      BrokerStep p (.subscribe sessionID) { p with shared := p.shared.subscribe sessionID }
  | recv (n : ℕ) (s : Subscription) (event : Event) (ch : Chan Event 64)
      (hget : p.shared.made[n]? = some s) (hrecv : s.ch.recv = .value event ch) :
      BrokerStep p (.recv n)
        { p with shared := { p.shared with
            made := p.shared.made.set n { s with ch, received := s.received ++ [event] } } }
  | drained (n : ℕ) : BrokerStep p (.recv n) p
  | cancel (n : ℕ) (s : Subscription) (hfree : p.shared.readers = ∅)
      (hget : p.shared.made[n]? = some s) :
      BrokerStep p (.cancel n) { p with shared := p.shared.cancel n s }

section

variable {p q : Pool MemoryBroker Publish}

/-- **A step of a `Publish` is one of `Publish.Step`.** -/
theorem Publish.step_spec {i : ℕ} {b b' : MemoryBroker} {t t' : Publish} {l : PublishLabel}
    (h : t.step i b l = some (b', t')) : t.Step i b l b' t' := by
  unfold Publish.step at h
  split at h
  · next hpc =>
      obtain ⟨rfl, rfl⟩ := some_pair_inj h
      exact .rlock hpc
  · next visited n hpc =>
      split_ifs at h with hn
      obtain ⟨rfl, rfl⟩ := some_pair_inj h
      exact .next visited n hpc hn.1 hn.2
  · next visited n hpc =>
      obtain ⟨s, hget, hr⟩ := Option.map_eq_some_iff.1 h
      obtain ⟨rfl, rfl⟩ := Prod.mk.inj hr
      exact .send visited n s hpc hget
  · next visited hpc =>
      split_ifs at h with hall
      obtain ⟨rfl, rfl⟩ := some_pair_inj h
      exact .runlock visited hpc hall
  · cases h

/-- **A step at a broker is one of `BrokerStep`.** -/
theorem brokerStep_spec {l : BrokerLabel} (h : brokerStep p l = some q) : BrokerStep p l q := by
  cases l with
  | publish l =>
      have hpool : p.step publishMachine l = some q := h
      cases l with
      | spawn event =>
          obtain ⟨t, ht, rfl⟩ := Pool.step_spawn.1 hpool
          exact Option.some.inj ht ▸ .publish event
      | step i l =>
          obtain ⟨t, b, t', hi, hrun, rfl⟩ := Pool.step_run.1 hpool
          exact .step i l t t' b hi (Publish.step_spec hrun)
  | subscribe sessionID =>
      unfold brokerStep at h
      split_ifs at h with hfree
      exact Option.some.inj h ▸ .subscribe sessionID hfree
  | recv n =>
      obtain ⟨b, hb, rfl⟩ := Option.map_eq_some_iff.1 h
      obtain ⟨s, hget, hb⟩ := Option.bind_eq_some_iff.1 hb
      split at hb
      · next event ch hrecv => exact Option.some.inj hb ▸ .recv n s event ch hget hrecv
      · exact Option.some.inj hb ▸ .drained n
      · cases hb
  | cancel n =>
      unfold brokerStep at h
      split_ifs at h with hfree
      obtain ⟨s, hget, rfl⟩ := Option.map_eq_some_iff.1 h
      exact .cancel n s hfree hget

end

/-- The subscriptions whose cancel functions were called, call by call. -/
def cancels (l : List BrokerLabel) : List ℕ :=
  l.filterMap fun
    | .cancel n => some n
    | _ => none

/-- What a `Publish` relies on while it holds the read lock: the channel it is about to
send to is registered, and it has not been there yet. -/
def Publish.Locked (i : ℕ) (b : MemoryBroker) (t : Publish) : Prop :=
  match t.pc with
  | .rlock | .returned => True
  | .range _ => i ∈ b.readers
  | .send visited n => i ∈ b.readers ∧ n ∈ b.registered t.event.sessionID ∧ n ∉ visited

/-- The part of the invariant that keeps the broker from a panic: the registered channels
are open, and a channel was closed by a call of its cancel function. -/
structure LockOk (p : Pool MemoryBroker Publish) (past : List BrokerLabel) : Prop where
  open_ : ∀ sessionID n, n ∈ p.shared.registered sessionID →
    ∃ s, p.shared.made[n]? = some s ∧ s.sessionID = sessionID ∧ s.ch.closed = false
  closed : ∀ n s, p.shared.made[n]? = some s → s.ch.closed = true → n ∈ cancels past
  calm : p.shared.panicked = false
  calls : ∀ (i : ℕ) t, p.threads[i]? = some t → t.Locked i p.shared

section

variable {p q : Pool MemoryBroker Publish} {b b' : MemoryBroker} {past past' : List BrokerLabel}

theorem cancels_concat (past : List BrokerLabel) (l : BrokerLabel) :
    cancels (past ++ [l]) = cancels past ++ cancels [l] := by
  simp [cancels]

theorem mem_cancels_concat {n : ℕ} (h : n ∈ cancels past) (l : BrokerLabel) :
    n ∈ cancels (past ++ [l]) := by
  rw [cancels_concat]
  exact List.mem_append_left _ h

theorem MemoryBroker.mem_registered_subscribe {sessionID sessionID' : String} {n : ℕ} :
    n ∈ (b.subscribe sessionID).registered sessionID' ↔
      sessionID' = sessionID ∧ n = b.made.length ∨ n ∈ b.registered sessionID' := by
  unfold MemoryBroker.registered MemoryBroker.subscribe
  by_cases hs : sessionID' = sessionID
  · subst hs
    simp [MemoryBroker.registered]
  · simp [AList.lookup_insert_ne hs, hs]

theorem MemoryBroker.mem_registered_cancel {s : Subscription} {sessionID : String} {m n : ℕ}
    (h : m ∈ (b.cancel n s).registered sessionID) :
    m ∈ b.registered sessionID ∧ (sessionID = s.sessionID → m ≠ n) := by
  have hsubs : (b.cancel n s).subs =
      b.subs.insert s.sessionID ((b.registered s.sessionID).erase n) := by
    unfold MemoryBroker.cancel
    cases s.ch.close <;> rfl
  unfold MemoryBroker.registered at h ⊢
  rw [hsubs] at h
  by_cases hs : sessionID = s.sessionID
  · subst hs
    rw [AList.lookup_insert, Option.getD_some, Finset.mem_erase] at h
    exact ⟨h.2, fun _ => h.1⟩
  · rw [AList.lookup_insert_ne hs] at h
    exact ⟨h, fun heq => absurd heq hs⟩

/-- A subscription is changed in place: its session stays, and it is closed only by its
cancel function. -/
theorem LockOk.set {n : ℕ} {s : Subscription} (h : LockOk p past)
    (hget : p.shared.made[n]? = some s) (b : MemoryBroker) (s' : Subscription)
    (hsess : s'.sessionID = s.sessionID) (hmade : b.made = p.shared.made.set n s')
    (hreg : ∀ sessionID m, m ∈ b.registered sessionID →
      m ∈ p.shared.registered sessionID ∧ (m = n → s'.ch.closed = false))
    (hclosed : s'.ch.closed = true → n ∈ cancels past')
    (hpast : ∀ m ∈ cancels past, m ∈ cancels past') (hcalm : b.panicked = false)
    {threads : List Publish} (hcalls : ∀ (i : ℕ) t, threads[i]? = some t → t.Locked i b) :
    LockOk { shared := b, threads } past' where
  open_ sessionID m hm := by
    obtain ⟨hm, hopen⟩ := hreg sessionID m hm
    obtain ⟨s₀, hget₀, hsess₀, hopen₀⟩ := h.open_ sessionID m hm
    show ∃ s₁, b.made[m]? = some s₁ ∧ _
    rw [hmade]
    by_cases hmn : m = n
    · subst hmn
      obtain rfl := Option.mem_unique hget hget₀
      exact ⟨s', getElem?_set_of_some _ hget, hsess.trans hsess₀, hopen rfl⟩
    · exact ⟨s₀, (List.getElem?_set_ne (Ne.symm hmn)).trans hget₀, hsess₀, hopen₀⟩
  closed m s₀ hm hc := by
    have hm' : (p.shared.made.set n s')[m]? = some s₀ := hmade ▸ hm
    rcases getElem?_set_cases hm' with ⟨rfl, rfl⟩ | ⟨-, hm'⟩
    · exact hclosed hc
    · exact hpast m (h.closed m s₀ hm' hc)
  calm := hcalm
  calls := hcalls

/-- The calls rely on no more than the read lock and the registered channels. -/
theorem Publish.Locked.mono {i : ℕ} {t : Publish} (h : t.Locked i b)
    (hreaders : i ∈ b.readers → i ∈ b'.readers)
    (hreg : ∀ n, i ∈ b.readers → n ∈ b.registered t.event.sessionID →
      n ∈ b'.registered t.event.sessionID) : t.Locked i b' := by
  unfold Publish.Locked at h ⊢
  split
  · trivial
  · trivial
  · next hpc =>
      rw [hpc] at h
      exact hreaders h
  · next visited n hpc =>
      rw [hpc] at h
      exact ⟨hreaders h.1, hreg n h.1 h.2.1, h.2.2⟩

theorem LockOk.calls_of_free (h : LockOk p past) (hfree : p.shared.readers = ∅) (i : ℕ)
    (t : Publish) (hi : p.threads[i]? = some t) : t.Locked i b := by
  have hnone : i ∉ p.shared.readers := by simp [hfree]
  exact (h.calls i t hi).mono (fun hmem => absurd hmem hnone) fun n hmem => absurd hmem hnone

/-- The threads after one of them has moved. -/
theorem LockOk.calls_set {i : ℕ} {t' : Publish} (h : LockOk p past)
    (ht' : t'.Locked i b) (hreaders : ∀ j, j ≠ i → j ∈ p.shared.readers → j ∈ b.readers)
    (hreg : ∀ sessionID n, n ∈ p.shared.registered sessionID → n ∈ b.registered sessionID)
    (j : ℕ) (u : Publish) (hj : (p.threads.set i t')[j]? = some u) : u.Locked j b := by
  rcases getElem?_set_cases hj with ⟨rfl, rfl⟩ | ⟨hne, hj⟩
  · exact ht'
  · exact (h.calls j u hj).mono (hreaders j hne) fun n _ => hreg _ n

/-- **A step of a `Publish`** does not panic: the channel it sends to is registered. -/
theorem LockOk.publish {i : ℕ} {l : PublishLabel} {t t' : Publish} (h : LockOk p past)
    (hi : p.threads[i]? = some t) (hs : t.Step i p.shared l b t') :
    LockOk { shared := b, threads := p.threads.set i t' } (past ++ [.publish (.step i l)]) := by
  have ht := h.calls i t hi
  have hpast := fun m (hm : m ∈ cancels past) =>
    mem_cancels_concat hm (.publish (.step i l))
  have hsame : ∀ (n : ℕ) s, p.shared.made[n]? = some s → s.ch.closed = true →
      n ∈ cancels (past ++ [.publish (.step i l)]) :=
    fun n s hget hc => hpast n (h.closed n s hget hc)
  unfold Publish.Locked at ht
  cases hs with
  | rlock hpc =>
      refine ⟨h.open_, hsame, h.calm, h.calls_set ?_ (fun j _ hj => ?_) fun _ _ hn => hn⟩
      · exact Finset.mem_insert_self _ _
      · exact Finset.mem_insert_of_mem hj
  | next visited n hpc hreg hnew =>
      rw [hpc] at ht
      exact ⟨h.open_, hsame, h.calm,
        h.calls_set ⟨ht, hreg, hnew⟩ (fun _ _ hj => hj) fun _ _ hn => hn⟩
  | send visited n s hpc hget =>
      rw [hpc] at ht
      obtain ⟨hmem, hreg, -⟩ := ht
      obtain ⟨s', hget', -, hopen⟩ := h.open_ _ n hreg
      obtain rfl := Option.mem_unique hget hget'
      obtain ⟨ch, hoffer, hopen'⟩ := Chan.offer_of_open hopen t.event
      have hb : p.shared.offer n s t.event =
          { p.shared with made := p.shared.made.set n { s with ch } } := by
        rw [MemoryBroker.offer, hoffer]
      rw [hb]
      have ht' : Publish.Locked i { p.shared with made := p.shared.made.set n { s with ch } }
          { t with pc := .range (n :: visited) } := hmem
      refine h.set hget { p.shared with made := p.shared.made.set n { s with ch } } { s with ch } rfl
        rfl (fun _ m hm => ⟨hm, fun _ => hopen'⟩) (fun hc => ?_) hpast h.calm
        (h.calls_set ht' (fun _ _ hj => hj) fun _ _ hn => hn)
      rw [hopen'] at hc
      cases hc
  | runlock visited hpc hall =>
      refine ⟨h.open_, hsame, h.calm, h.calls_set trivial (fun j hne hj => ?_) fun _ _ hn => hn⟩
      exact Finset.mem_erase.2 ⟨hne, hj⟩

/-- **A step at a broker** whose cancel functions are called once does not panic. -/
theorem LockOk.step {l : BrokerLabel} (h : LockOk p past) (hs : BrokerStep p l q)
    (honce : (cancels (past ++ [l])).Nodup) : LockOk q (past ++ [l]) := by
  have hpast := fun m (hm : m ∈ cancels past) => mem_cancels_concat hm l
  cases hs with
  | publish event =>
      refine ⟨h.open_, fun n s hget hc => hpast n (h.closed n s hget hc), h.calm, fun j u hj => ?_⟩
      rcases getElem?_concat_cases hj with ⟨-, rfl⟩ | hj
      · trivial
      · exact h.calls j u hj
  | step i l t t' b hi hs => exact h.publish hi hs
  | subscribe sessionID hfree =>
      refine ⟨fun sessionID' n hn => ?_, fun n s hget hc => ?_, h.calm,
        h.calls_of_free hfree⟩
      · rcases MemoryBroker.mem_registered_subscribe.1 hn with ⟨rfl, rfl⟩ | hn
        · exact ⟨{ sessionID := sessionID' }, List.getElem?_concat_length, rfl, rfl⟩
        · obtain ⟨s, hget, hsess, hopen⟩ := h.open_ sessionID' n hn
          refine ⟨s, ?_, hsess, hopen⟩
          exact getElem?_append_of_some _ hget
      · rcases getElem?_concat_cases hget with ⟨-, rfl⟩ | hget
        · cases hc
        · exact hpast n (h.closed n s hget hc)
  | recv n s event ch hget hrecv =>
      have hch := (Chan.recv_eq_value.1 hrecv).2
      let s' : Subscription := { s with ch, received := s.received ++ [event] }
      refine h.set hget { p.shared with made := p.shared.made.set n s' } s' rfl rfl
        (fun sessionID m hm => ⟨hm, ?_⟩) (fun hc => ?_) hpast h.calm h.calls
      · rintro rfl
        obtain ⟨s', hget', -, hopen⟩ := h.open_ sessionID m hm
        obtain rfl := Option.mem_unique hget hget'
        exact hch.trans hopen
      · exact hpast n (h.closed n s hget (hch.symm.trans hc))
  | drained n =>
      exact ⟨h.open_, fun n s hget hc => hpast n (h.closed n s hget hc), h.calm, h.calls⟩
  | cancel n s hfree hget =>
      have hopen : s.ch.closed = false := by
        cases hc : s.ch.closed with
        | false => rfl
        | true =>
            have hmem := h.closed n s hget hc
            rw [cancels_concat] at honce
            have hdisj := (List.nodup_append.1 honce).2.2 n hmem n (List.mem_singleton.2 rfl)
            exact absurd rfl hdisj
      obtain ⟨ch, hclose⟩ : ∃ ch, s.ch.close = some ch := by simp [Chan.close, hopen]
      have hmade : (p.shared.cancel n s).made = p.shared.made.set n { s with ch } := by
        rw [MemoryBroker.cancel, hclose]
      have hcalm : (p.shared.cancel n s).panicked = p.shared.panicked := by
        rw [MemoryBroker.cancel, hclose]
      refine h.set hget _ { s with ch } rfl hmade (fun sessionID m hm => ?_) (fun _ => ?_) hpast
        (hcalm.trans h.calm) (h.calls_of_free hfree)
      · obtain ⟨hold, hne⟩ := MemoryBroker.mem_registered_cancel hm
        refine ⟨hold, ?_⟩
        rintro rfl
        obtain ⟨s', hget', hsess, -⟩ := h.open_ sessionID m hold
        obtain rfl := Option.mem_unique hget hget'
        exact absurd rfl (hne hsess.symm)
      · rw [cancels_concat]
        exact List.mem_append_right _ (List.mem_singleton.2 rfl)

end

end Broker
end Agentd
