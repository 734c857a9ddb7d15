/-
# What a subscriber of the broker receives

The account of every run of a `MemoryBroker` in which no cancel function is called twice
(`brokerDelivers_of_cancelOnce`): nothing panics, and what a subscriber has received, with
what it has not read yet, is what found a free slot among the events that visited it, in
the order of the visits.  A visit is the send of a `Publish` to a channel, and the visits
of a subscription are read off the history of the run, each with the number of unread
events it found.

The visits are of events of the subscriber's session, they are made after its `Subscribe`
and before its cancel, a `Publish` makes at most one, and a `Publish` that had returned
before another began makes its visit first.  The accounts of the buffers (`FedOk`), of the
order (`OrderOk`) and of the subscriptions (`MadeOk`) are kept apart; the first two rest on
`LockOk`.
-/

import Agentd.Session.Broker

namespace Agentd
namespace Broker

open Control Concurrency

/-- The steps that led to a state. -/
abbrev Past := List (Pool MemoryBroker Publish × BrokerLabel)

/-- A visit: the number of the `Publish`, its event, and the number of unread events that it
found. -/
structure Visit where
  publisher : ℕ
  event : Event
  unread : ℕ

/-- The visit to subscription `n` that a step makes, if it makes one. -/
def visitOf (n : ℕ) : Pool MemoryBroker Publish × BrokerLabel → Option Visit
  | (q, .publish (.step j .send)) =>
      q.threads[j]?.bind fun t =>
        match t.pc with
        | .send _ m =>
            if m = n then q.shared.made[n]?.map fun s => ⟨j, t.event, s.ch.buf.length⟩ else none
        | _ => none
  | _ => none

/-- The visits to subscription `n`, in order. -/
def visits (n : ℕ) (past : Past) : List Visit := past.filterMap (visitOf n)

/-- The events that visited subscription `n`, each with the number of unread events that it
found. -/
def arrivals (n : ℕ) (past : Past) : List (Event × ℕ) :=
  (visits n past).map fun v => (v.event, v.unread)

/-- `Publish` number `i` had returned when `Publish` number `j` did not have the read lock
yet. -/
def Before (past : Past) (i j : ℕ) : Prop :=
  ∃ x ∈ past, (∃ t, x.1.threads[i]? = some t ∧ t.pc = .returned) ∧
    ∀ t, x.1.threads[j]? = some t → t.pc = .rlock

/-- The sessions of the calls of `Subscribe`, in order. -/
def subscribes (l : List BrokerLabel) : List String :=
  l.filterMap fun
    | .subscribe sessionID => some sessionID
    | _ => none

/-- What a subscriber can rely on.  Subscription `n` is the one that the `n`th call of `Subscribe`
has made, counted from zero. -/
structure Delivers (past : Past) (n : ℕ) (s : Subscription) : Prop where
  feed : s.received ++ s.ch.buf = kept 64 (arrivals n past)
  session : ∀ v ∈ visits n past, v.event.sessionID = s.sessionID
  subscribed : ∀ x ∈ past, ∀ v, visitOf n x = some v →
    ∃ s', x.1.shared.made[n]? = some s' ∧ s'.ch.closed = false
  /-- a visit comes after the `Subscribe` and before the cancel -/
  between : ∀ before x after, past = before ++ x :: after → ∀ v, visitOf n x = some v →
    (subscribes (before.map Prod.snd))[n]? = some s.sessionID ∧ n ∉ cancels (before.map Prod.snd)
  once : ((visits n past).map Visit.publisher).Nodup
  ordered : (visits n past).Pairwise fun v w => ¬Before past w.publisher v.publisher

/-- The account of the buffers. -/
structure FedOk (p : Pool MemoryBroker Publish) (past : Past) : Prop where
  feed : ∀ n s, p.shared.made[n]? = some s → s.received ++ s.ch.buf = kept 64 (arrivals n past)
  session : ∀ n s, p.shared.made[n]? = some s → ∀ v ∈ visits n past,
    v.event.sessionID = s.sessionID
  new : ∀ n, p.shared.made.length ≤ n → visits n past = []
  subscribed : ∀ n, ∀ x ∈ past, ∀ v, visitOf n x = some v →
    ∃ s, x.1.shared.made[n]? = some s ∧ s.ch.closed = false

/-- The account of the subscriptions: they are those that were made, and the ones whose cancel
functions were called are closed. -/
structure MadeOk (p : Pool MemoryBroker Publish) (labels : List BrokerLabel) : Prop where
  length : p.shared.made.length = (subscribes labels).length
  made : ∀ (n : ℕ) s, p.shared.made[n]? = some s → (subscribes labels)[n]? = some s.sessionID
  cancelled : ∀ n ∈ cancels labels, ∃ s, p.shared.made[n]? = some s ∧ s.ch.closed = true

/-- The `Publish` has visited subscription `n`, as far as its own state tells. -/
def Publish.HasVisited (n : ℕ) (t : Publish) : Prop :=
  match t.pc with
  | .rlock => False
  | .range visited | .send visited _ => n ∈ visited
  | .returned => True

/-- The account of the order. -/
structure OrderOk (p : Pool MemoryBroker Publish) (past : Past) : Prop where
  visited : ∀ n, ∀ v ∈ visits n past, ∃ t, p.threads[v.publisher]? = some t ∧ t.HasVisited n
  once : ∀ n, ((visits n past).map Visit.publisher).Nodup
  ordered : ∀ n, (visits n past).Pairwise fun v w => ¬Before past w.publisher v.publisher
  returned : ∀ x ∈ past, ∀ (j : ℕ) t, x.1.threads[j]? = some t → t.pc = .returned →
    ∃ t', p.threads[j]? = some t' ∧ t'.pc = .returned

section

variable {p q : Pool MemoryBroker Publish} {past : Past} {l : BrokerLabel}
  {x : Pool MemoryBroker Publish × BrokerLabel}

theorem visits_concat (n : ℕ) (past : Past) (x : Pool MemoryBroker Publish × BrokerLabel) :
    visits n (past ++ [x]) = visits n past ++ (visitOf n x).toList := by
  rw [visits, visits, List.filterMap_append]
  cases h : visitOf n x <;> simp [h]

theorem visits_concat_none {n : ℕ} (h : visitOf n x = none) :
    visits n (past ++ [x]) = visits n past := by
  rw [visits_concat, h, Option.toList_none, List.append_nil]

/-- The send of a `Publish` visits the channel it stands before, and no other. -/
theorem visitOf_send {i m : ℕ} {t : Publish} {visited : List ℕ} {s : Subscription}
    (hi : p.threads[i]? = some t) (hpc : t.pc = .send visited m)
    (hget : p.shared.made[m]? = some s) (n : ℕ) :
    visitOf n (p, .publish (.step i .send)) =
      if m = n then some ⟨i, t.event, s.ch.buf.length⟩ else none := by
  simp only [visitOf, hi, Option.bind_some, hpc]
  split_ifs with hmn
  · subst hmn
    rw [hget, Option.map_some]
  · rfl

/-- A step without a visit: what was taken and what is unread stays, subscription by
subscription, and a new one has nothing of either. -/
theorem FedOk.quiet (h : FedOk p past) (hquiet : ∀ n, visitOf n x = none)
    (hlen : p.shared.made.length ≤ q.shared.made.length)
    (hmade : ∀ n s', q.shared.made[n]? = some s' →
      (∃ s, p.shared.made[n]? = some s ∧ s'.received ++ s'.ch.buf = s.received ++ s.ch.buf ∧
        s'.sessionID = s.sessionID) ∨
      p.shared.made.length ≤ n ∧ s'.received ++ s'.ch.buf = []) :
    FedOk q (past ++ [x]) where
  feed n s' hget' := by
    rw [arrivals, visits_concat_none (hquiet n)]
    rcases hmade n s' hget' with ⟨s, hget, hbuf, -⟩ | ⟨hnew, hbuf⟩
    · exact hbuf.trans (h.feed n s hget)
    · rw [hbuf, h.new n hnew]
      rfl
  session n s' hget' := by
    rw [visits_concat_none (hquiet n)]
    rcases hmade n s' hget' with ⟨s, hget, -, hsess⟩ | ⟨hnew, -⟩
    · rw [hsess]
      exact h.session n s hget
    · rw [h.new n hnew]
      exact fun v hv => by cases hv
  new n hn := by
    rw [visits_concat_none (hquiet n)]
    exact h.new n (hlen.trans hn)
  subscribed n y hy v hv := by
    rcases List.mem_append.1 hy with hy | hy
    · exact h.subscribed n y hy v hv
    · rw [List.mem_singleton.1 hy, hquiet n] at hv
      cases hv

/-- A subscription is changed in place. -/
theorem made_set_cases {made : List Subscription} {m n : ℕ} {s s' u : Subscription}
    (hget : made[m]? = some s) (hu : (made.set m s')[n]? = some u)
    (hbuf : s'.received ++ s'.ch.buf = s.received ++ s.ch.buf)
    (hsess : s'.sessionID = s.sessionID) :
    ∃ u₀, made[n]? = some u₀ ∧ u.received ++ u.ch.buf = u₀.received ++ u₀.ch.buf ∧
      u.sessionID = u₀.sessionID := by
  rcases getElem?_set_cases hu with ⟨rfl, rfl⟩ | ⟨-, hu⟩
  · exact ⟨s, hget, hbuf, hsess⟩
  · exact ⟨u, hu, rfl, rfl⟩

/-- **A visit** puts its event behind what is unread, or finds 64 unread events. -/
theorem FedOk.visit {i m : ℕ} {t : Publish} {visited : List ℕ} {s : Subscription}
    {ch : Chan Event 64} (h : FedOk p past) (hi : p.threads[i]? = some t)
    (hpc : t.pc = .send visited m) (hget : p.shared.made[m]? = some s)
    (hopen : s.ch.closed = false) (hsess : s.sessionID = t.event.sessionID)
    (hoffer : s.ch.offer t.event = some ch)
    (hmade : q.shared.made = p.shared.made.set m { s with ch }) :
    FedOk q (past ++ [(p, .publish (.step i .send))]) := by
  have hvisit := visitOf_send hi hpc hget
  have hself : visits m (past ++ [(p, .publish (.step i .send))]) =
      visits m past ++ [⟨i, t.event, s.ch.buf.length⟩] := by
    rw [visits_concat, hvisit, if_pos rfl]
    rfl
  have hother : ∀ n, n ≠ m →
      visits n (past ++ [(p, .publish (.step i .send))]) = visits n past := by
    intro n hn
    exact visits_concat_none (by rw [hvisit, if_neg (Ne.symm hn)])
  refine ⟨fun n s' hget' => ?_, fun n s' hget' => ?_, fun n hn => ?_, fun n y hy v hv => ?_⟩
  · rw [hmade] at hget'
    rcases getElem?_set_cases hget' with ⟨rfl, rfl⟩ | ⟨hn, hget'⟩
    · rw [arrivals, hself, List.map_append]
      exact Chan.offer_kept (h.feed n s hget) hoffer
    · rw [arrivals, hother n hn]
      exact h.feed n s' hget'
  · rw [hmade] at hget'
    rcases getElem?_set_cases hget' with ⟨rfl, rfl⟩ | ⟨hn, hget'⟩
    · rw [hself]
      intro v hv
      rcases List.mem_append.1 hv with hv | hv
      · exact h.session n s hget v hv
      · rw [List.mem_singleton.1 hv]
        exact hsess.symm
    · rw [hother n hn]
      exact h.session n s' hget'
  · have hlt := (List.getElem?_eq_some_iff.1 hget).1
    rw [hmade, List.length_set] at hn
    rw [hother n (by omega)]
    exact h.new n hn
  · rcases List.mem_append.1 hy with hy | hy
    · exact h.subscribed n y hy v hv
    · rw [List.mem_singleton.1 hy, hvisit] at hv
      rw [List.mem_singleton.1 hy]
      split_ifs at hv with hmn
      exact ⟨s, hmn ▸ hget, hopen⟩

/-- **Every step keeps the account of the buffers.** -/
theorem FedOk.step {labels : List BrokerLabel} (h : FedOk p past) (hlock : LockOk p labels)
    (hs : BrokerStep p l q) : FedOk q (past ++ [(p, l)]) := by
  cases hs with
  | publish event =>
      exact h.quiet (fun _ => rfl) (Nat.le_refl _) fun n s hget => Or.inl ⟨s, hget, rfl, rfl⟩
  | step i l t t' b hi hs =>
      cases hs with
      | rlock | next | runlock =>
          exact h.quiet (fun _ => rfl) (Nat.le_refl _) fun n s hget => Or.inl ⟨s, hget, rfl, rfl⟩
      | send visited m s hpc hget =>
          have ht := hlock.calls i t hi
          unfold Publish.Locked at ht
          rw [hpc] at ht
          obtain ⟨s', hget', hsess, hopen⟩ := hlock.open_ _ m ht.2.1
          obtain rfl := Option.mem_unique hget hget'
          obtain ⟨ch, hoffer, -⟩ := Chan.offer_of_open hopen t.event
          refine h.visit hi hpc hget hopen hsess hoffer ?_
          show (p.shared.offer m s t.event).made = _
          rw [MemoryBroker.offer, hoffer]
  | subscribe sessionID hfree =>
      refine h.quiet (fun _ => rfl) ?_ fun n s hget => ?_
      · show p.shared.made.length ≤ (p.shared.made ++ [_]).length
        rw [List.length_append]
        omega
      · rcases getElem?_concat_cases hget with ⟨rfl, rfl⟩ | hget
        · exact Or.inr ⟨Nat.le_refl _, rfl⟩
        · exact Or.inl ⟨s, hget, rfl, rfl⟩
  | recv n s event ch hget hrecv =>
      have hbuf : s.received ++ [event] ++ ch.buf = s.received ++ s.ch.buf := by
        rw [(Chan.recv_eq_value.1 hrecv).1, List.append_assoc]
        rfl
      refine h.quiet (fun _ => rfl) ?_ fun m u hu => Or.inl (made_set_cases hget hu hbuf rfl)
      show p.shared.made.length ≤ (p.shared.made.set n _).length
      rw [List.length_set]
  | drained n =>
      exact h.quiet (fun _ => rfl) (Nat.le_refl _) fun n s hget => Or.inl ⟨s, hget, rfl, rfl⟩
  | cancel n s hfree hget =>
      have hmade : (p.shared.cancel n s).made = p.shared.made ∨
          ∃ ch, s.ch.close = some ch ∧
            (p.shared.cancel n s).made = p.shared.made.set n { s with ch } := by
        unfold MemoryBroker.cancel
        cases hclose : s.ch.close with
        | none => exact Or.inl rfl
        | some ch => exact Or.inr ⟨ch, rfl, rfl⟩
      refine h.quiet (fun _ => rfl) ?_ fun m u hu => Or.inl ?_
      · rcases hmade with hmade | ⟨ch, -, hmade⟩
        · exact Nat.le_of_eq (congrArg List.length hmade).symm
        · show p.shared.made.length ≤ (p.shared.cancel n s).made.length
          rw [hmade, List.length_set]
      · have hu' : (p.shared.cancel n s).made[m]? = some u := hu
        rcases hmade with hmade | ⟨ch, hclose, hmade⟩
        · rw [hmade] at hu'
          exact ⟨u, hu', rfl, rfl⟩
        · rw [hmade] at hu'
          refine made_set_cases hget hu' ?_ rfl
          rw [(Chan.close_eq_some.1 hclose).2.1]

/-- A subscription stays what it is, and closed once it is closed. -/
def Stays (made made' : List Subscription) : Prop :=
  ∀ (n : ℕ) s, made[n]? = some s → ∃ s', made'[n]? = some s' ∧ s'.sessionID = s.sessionID ∧
    (s.ch.closed = true → s'.ch.closed = true)

theorem stays_set {made : List Subscription} {m : ℕ} {s s' : Subscription} (hget : made[m]? = some s)
    (hsess : s'.sessionID = s.sessionID) (hclosed : s.ch.closed = true → s'.ch.closed = true) :
    Stays made (made.set m s') := by
  intro n u hu
  by_cases hn : n = m
  · subst hn
    obtain rfl := Option.mem_unique hget hu
    exact ⟨s', getElem?_set_of_some _ hget, hsess, hclosed⟩
  · exact ⟨u, (List.getElem?_set_ne (Ne.symm hn)).trans hu, rfl, id⟩

theorem stays_refl (made : List Subscription) : Stays made made := fun _ s hs => ⟨s, hs, rfl, id⟩

/-- **The subscriptions after a step** are those there were, and the one that it made. -/
theorem BrokerStep.stays (hs : BrokerStep p l q) :
    Stays p.shared.made q.shared.made ∧
      q.shared.made.length = p.shared.made.length + (subscribes [l]).length := by
  cases hs with
  | publish | drained => exact ⟨stays_refl _, rfl⟩
  | step i l t t' b hi hs =>
      cases hs with
      | rlock | next | runlock => exact ⟨stays_refl _, rfl⟩
      | send visited m s hpc hget =>
          show Stays _ (p.shared.offer m s t.event).made ∧ (p.shared.offer m s t.event).made.length = _
          unfold MemoryBroker.offer
          cases hoffer : s.ch.offer t.event with
          | none => exact ⟨stays_refl _, rfl⟩
          | some ch =>
              refine ⟨stays_set hget rfl fun hc => ?_, List.length_set ..⟩
              rw [Chan.offer, Chan.send_eq_panic.2 hc] at hoffer
              cases hoffer
  | subscribe sessionID =>
      exact ⟨fun n s hs => ⟨s, getElem?_append_of_some _ hs, rfl, id⟩, List.length_append ..⟩
  | recv n s event ch hget hrecv =>
      exact ⟨stays_set hget rfl fun hc => (Chan.recv_eq_value.1 hrecv).2 ▸ hc, List.length_set ..⟩
  | cancel n s hfree hget =>
      show Stays _ (p.shared.cancel n s).made ∧ (p.shared.cancel n s).made.length = _
      unfold MemoryBroker.cancel
      cases hclose : s.ch.close with
      | none => exact ⟨stays_refl _, rfl⟩
      | some ch =>
          exact ⟨stays_set hget rfl fun _ => (Chan.close_eq_some.1 hclose).2.2, List.length_set ..⟩

theorem subscribes_concat (labels : List BrokerLabel) (l : BrokerLabel) :
    subscribes (labels ++ [l]) = subscribes labels ++ subscribes [l] := by
  simp [subscribes]

/-- **Every step keeps the account of the subscriptions.** -/
theorem MadeOk.step {labels : List BrokerLabel} (h : MadeOk p labels) (hs : BrokerStep p l q) :
    MadeOk q (labels ++ [l]) := by
  obtain ⟨hstays, hlen⟩ := hs.stays
  refine ⟨?_, fun n s hget => ?_, fun n hn => ?_⟩
  · rw [hlen, h.length, subscribes_concat, List.length_append]
  · rw [subscribes_concat]
    rcases Nat.lt_or_ge n p.shared.made.length with hlt | hge
    · have hold := List.getElem?_eq_getElem hlt
      obtain ⟨s', hget', hsess, -⟩ := hstays n _ hold
      obtain rfl := Option.mem_unique hget hget'
      rw [hsess]
      exact getElem?_append_of_some _ (h.made n _ hold)
    · have hnew := (List.getElem?_eq_some_iff.1 hget).1
      cases hs with
      | subscribe sessionID hfree =>
          rcases getElem?_concat_cases hget with ⟨rfl, rfl⟩ | hold
          · rw [h.length]
            exact List.getElem?_concat_length
          · exact absurd (List.getElem?_eq_some_iff.1 hold).1 (Nat.not_lt.2 hge)
      | publish | step | recv | drained | cancel =>
          exact absurd (lt_of_lt_of_eq hnew hlen) (Nat.not_lt.2 hge)
  · rw [cancels_concat] at hn
    rcases List.mem_append.1 hn with hn | hn
    · obtain ⟨s, hget, hclosed⟩ := h.cancelled n hn
      obtain ⟨s', hget', -, hclosed'⟩ := hstays n s hget
      exact ⟨s', hget', hclosed' hclosed⟩
    · cases hs with
      | cancel m s hfree hget =>
          obtain rfl : n = m := List.mem_singleton.1 hn
          show ∃ s', (p.shared.cancel n s).made[n]? = some s' ∧ s'.ch.closed = true
          unfold MemoryBroker.cancel
          cases hclose : s.ch.close with
          | none => exact ⟨s, hget, Chan.close_eq_none.1 hclose⟩
          | some ch => exact ⟨_, getElem?_set_of_some _ hget, (Chan.close_eq_some.1 hclose).2.2⟩
      | publish | step | subscribe | recv | drained => cases hn

/-- A `Publish` after a step of its own or of others: what it has visited it has visited,
and what has returned has returned. -/
structure Publish.Later (t t' : Publish) : Prop where
  visited : ∀ n, t.HasVisited n → t'.HasVisited n
  returned : t.pc = .returned → t'.pc = .returned

theorem Publish.later_refl (t : Publish) : t.Later t := ⟨fun _ h => h, fun h => h⟩

theorem Publish.Step.later {i : ℕ} {b b' : MemoryBroker} {t t' : Publish} {l : PublishLabel}
    (hs : t.Step i b l b' t') : t.Later t' := by
  cases hs with
  | rlock hpc =>
      refine ⟨fun n h => ?_, fun h => by rw [hpc] at h; cases h⟩
      rw [Publish.HasVisited, hpc] at h
      exact absurd h id
  | next visited m hpc =>
      refine ⟨fun n h => ?_, fun h => by rw [hpc] at h; cases h⟩
      rwa [Publish.HasVisited, hpc] at h
  | send visited m s hpc =>
      refine ⟨fun n h => ?_, fun h => by rw [hpc] at h; cases h⟩
      rw [Publish.HasVisited, hpc] at h
      exact List.mem_cons_of_mem m h
  | runlock visited hpc => exact ⟨fun _ _ => trivial, fun _ => rfl⟩

theorem BrokerStep.later (hs : BrokerStep p l q) {j : ℕ} {t : Publish}
    (hj : p.threads[j]? = some t) : ∃ t', q.threads[j]? = some t' ∧ t.Later t' := by
  cases hs with
  | publish event =>
      have hlt := (List.getElem?_eq_some_iff.1 hj).1
      exact ⟨t, (List.getElem?_append_left hlt).trans hj, t.later_refl⟩
  | step i l u u' b hi hs =>
      by_cases hji : j = i
      · subst hji
        obtain rfl := Option.mem_unique hi hj
        exact ⟨u', getElem?_set_of_some _ hi, hs.later⟩
      · exact ⟨t, (List.getElem?_set_ne (Ne.symm hji)).trans hj, t.later_refl⟩
  | subscribe | recv | drained | cancel => exact ⟨t, hj, t.later_refl⟩

/-- A `Publish` that has made a visit has begun: no more calls come to be before it. -/
theorem not_before_concat {i j n : ℕ} {t : Publish} (hj : p.threads[j]? = some t)
    (hvisited : t.HasVisited n) (h : ¬Before past i j) : ¬Before (past ++ [(p, l)]) i j := by
  rintro ⟨x, hx, hret, hnew⟩
  rcases List.mem_append.1 hx with hx | hx
  · exact h ⟨x, hx, hret, hnew⟩
  · rw [List.mem_singleton.1 hx] at hnew
    rw [Publish.HasVisited, hnew t hj] at hvisited
    exact hvisited

theorem OrderOk.returned_step (h : OrderOk p past) (hs : BrokerStep p l q) :
    ∀ x ∈ past ++ [(p, l)], ∀ (j : ℕ) t, x.1.threads[j]? = some t → t.pc = .returned →
      ∃ t', q.threads[j]? = some t' ∧ t'.pc = .returned := by
  intro x hx j t ht hret
  obtain ⟨u, hu, hpc⟩ : ∃ u, p.threads[j]? = some u ∧ u.pc = .returned := by
    rcases List.mem_append.1 hx with hx | hx
    · exact h.returned x hx j t ht hret
    · rw [List.mem_singleton.1 hx] at ht
      exact ⟨t, ht, hret⟩
  obtain ⟨u', hu', hlater⟩ := hs.later hu
  exact ⟨u', hu', hlater.returned hpc⟩

theorem OrderOk.ordered_step (h : OrderOk p past) (l : BrokerLabel) (n : ℕ) :
    (visits n past).Pairwise fun v w => ¬Before (past ++ [(p, l)]) w.publisher v.publisher := by
  refine (h.ordered n).imp_of_mem fun {v w} hv _ hnot => ?_
  obtain ⟨t, ht, hvisited⟩ := h.visited n v hv
  exact not_before_concat ht hvisited hnot

theorem OrderOk.visited_step (h : OrderOk p past) (hs : BrokerStep p l q) (n : ℕ) (v : Visit)
    (hv : v ∈ visits n past) : ∃ t, q.threads[v.publisher]? = some t ∧ t.HasVisited n := by
  obtain ⟨t, ht, hvisited⟩ := h.visited n v hv
  obtain ⟨t', ht', hlater⟩ := hs.later ht
  exact ⟨t', ht', hlater.visited n hvisited⟩

theorem OrderOk.quiet (h : OrderOk p past) (hs : BrokerStep p l q)
    (hquiet : ∀ n, visitOf n (p, l) = none) : OrderOk q (past ++ [(p, l)]) where
  visited n v hv := by
    rw [visits_concat_none (hquiet n)] at hv
    exact h.visited_step hs n v hv
  once n := by
    rw [visits_concat_none (hquiet n)]
    exact h.once n
  ordered n := by
    rw [visits_concat_none (hquiet n)]
    exact h.ordered_step l n
  returned := h.returned_step hs

/-- **A visit** is the first of its `Publish` to the channel, and no `Publish` that made one
before it had begun after it returned. -/
theorem OrderOk.visit {i m : ℕ} {t : Publish} {visited : List ℕ} {s : Subscription}
    (h : OrderOk p past) (hs : BrokerStep p (.publish (.step i .send)) q)
    (hi : p.threads[i]? = some t) (hpc : t.pc = .send visited m)
    (hget : p.shared.made[m]? = some s) (hnew : m ∉ visited)
    (hq : ∃ t', q.threads[i]? = some t' ∧ t'.HasVisited m) :
    OrderOk q (past ++ [(p, .publish (.step i .send))]) := by
  have hvisit := visitOf_send hi hpc hget
  have hcases : ∀ n, visits n (past ++ [(p, .publish (.step i .send))]) = visits n past ∨
      n = m ∧ visits n (past ++ [(p, .publish (.step i .send))]) =
        visits n past ++ [⟨i, t.event, s.ch.buf.length⟩] := by
    intro n
    by_cases hn : m = n
    · refine Or.inr ⟨hn.symm, ?_⟩
      rw [visits_concat, hvisit, if_pos hn]
      rfl
    · exact Or.inl (visits_concat_none (by rw [hvisit, if_neg hn]))
  refine ⟨fun n v hv => ?_, fun n => ?_, fun n => ?_, h.returned_step hs⟩
  · rcases hcases n with heq | ⟨rfl, heq⟩
    · exact h.visited_step hs n v (heq ▸ hv)
    · rw [heq] at hv
      rcases List.mem_append.1 hv with hv | hv
      · exact h.visited_step hs n v hv
      · rw [List.mem_singleton.1 hv]
        exact hq
  · rcases hcases n with heq | ⟨rfl, heq⟩
    · rw [heq]
      exact h.once n
    · rw [heq, List.map_append]
      refine List.nodup_append.2 ⟨h.once n, List.nodup_singleton _, ?_⟩
      rintro j hj k hk rfl
      obtain ⟨v, hv, rfl⟩ := List.mem_map.1 hj
      have hpub : v.publisher = i := List.mem_singleton.1 hk
      obtain ⟨u, hu, hvisited⟩ := h.visited n v hv
      rw [hpub, hi] at hu
      obtain rfl := Option.some.inj hu
      rw [Publish.HasVisited, hpc] at hvisited
      exact hnew hvisited
  · rcases hcases n with heq | ⟨rfl, heq⟩
    · rw [heq]
      exact h.ordered_step _ n
    · rw [heq]
      refine List.pairwise_append.2 ⟨h.ordered_step _ n, List.pairwise_singleton _ _, ?_⟩
      intro v hv w hw
      rw [List.mem_singleton.1 hw]
      obtain ⟨u, hu, hvisited⟩ := h.visited n v hv
      refine not_before_concat hu hvisited ?_
      rintro ⟨x, hx, ⟨u', hu', hret⟩, -⟩
      obtain ⟨t', ht', hpc'⟩ := h.returned x hx i u' hu' hret
      obtain rfl := Option.mem_unique hi ht'
      rw [hpc] at hpc'
      cases hpc'

/-- **Every step keeps the account of the order.** -/
theorem OrderOk.step {labels : List BrokerLabel} (h : OrderOk p past) (hlock : LockOk p labels)
    (hs : BrokerStep p l q) : OrderOk q (past ++ [(p, l)]) := by
  have hstep := hs
  cases hs with
  | publish | subscribe | recv | drained | cancel => exact h.quiet hstep fun _ => rfl
  | step i l t t' b hi hs =>
      cases hs with
      | rlock | next | runlock => exact h.quiet hstep fun _ => rfl
      | send visited m s hpc hget =>
          have ht := hlock.calls i t hi
          unfold Publish.Locked at ht
          rw [hpc] at ht
          exact h.visit hstep hi hpc hget ht.2.2
            ⟨_, getElem?_set_of_some _ hi, List.mem_cons_self⟩

end

theorem lockOk_new : LockOk newMemoryBroker [] where
  open_ sessionID n hn := by simp [newMemoryBroker, MemoryBroker.registered] at hn
  closed n s hget := by simp [newMemoryBroker] at hget
  calm := rfl
  calls i t hi := by simp [newMemoryBroker] at hi

theorem fedOk_new : FedOk newMemoryBroker [] where
  feed n s hget := by simp [newMemoryBroker] at hget
  session n s hget := by simp [newMemoryBroker] at hget
  new _ _ := rfl
  subscribed n x hx := by cases hx

theorem madeOk_new : MadeOk newMemoryBroker [] where
  length := rfl
  made n s hget := by simp [newMemoryBroker] at hget
  cancelled n hn := by cases hn

theorem orderOk_new : OrderOk newMemoryBroker [] where
  visited n v hv := by cases hv
  once _ := List.nodup_nil
  ordered _ := List.Pairwise.nil
  returned x hx := by cases hx

/-- **The broker delivers exactly.**  In every run of a new broker, however its calls
overlap, in which no cancel function is called twice: there is no send on a closed
channel and no double close; and every subscriber has received, followed by what it has
not read yet, the events that visited it without those that found 64 unread events, in
the order of the visits, all of its own session, visited after its `Subscribe` and before
its cancel, at most once by each `Publish`, and in publish order where the calls do not
overlap. -/
theorem brokerDelivers_of_cancelOnce {p : Pool MemoryBroker Publish} {l : List BrokerLabel}
    (honce : (cancels l).Nodup) (h : exec brokerStep newMemoryBroker l = some p) :
    p.shared.panicked = false ∧
      ∀ n s, p.shared.made[n]? = some s → Delivers (history brokerStep newMemoryBroker l) n s := by
  have hall := exec_history_of_step
    (I := fun p past => (cancels (past.map Prod.snd)).Nodup →
      LockOk p (past.map Prod.snd) ∧ FedOk p past ∧ OrderOk p past)
    (fun p past l q hp hstep honce => by
      rw [List.map_append] at honce ⊢
      have hbefore : (cancels (past.map Prod.snd)).Nodup := by
        rw [List.map_singleton, cancels_concat] at honce
        exact (List.nodup_append.1 honce).1
      obtain ⟨hlock, hfed, horder⟩ := hp hbefore
      have hs := brokerStep_spec hstep
      exact ⟨hlock.step hs honce, hfed.step hlock hs, horder.step hlock hs⟩)
    (fun _ => ⟨lockOk_new, fedOk_new, orderOk_new⟩) h
  rw [map_snd_history h] at hall
  obtain ⟨hlock, hfed, horder⟩ := hall honce
  have hmade : ∀ {l : List BrokerLabel} {q : Pool MemoryBroker Publish},
      exec brokerStep newMemoryBroker l = some q → MadeOk q l := by
    intro l q hq
    have hq' := exec_history_of_step (I := fun q past => MadeOk q (past.map Prod.snd))
      (fun p past l q hp hstep => by
        rw [List.map_append]
        exact hp.step (brokerStep_spec hstep)) madeOk_new hq
    rwa [map_snd_history hq] at hq'
  refine ⟨hlock.calm, fun n s hget => ⟨hfed.feed n s hget, hfed.session n s hget, hfed.subscribed n,
    fun before x after hsplit v hv => ?_, horder.once n, horder.ordered n⟩⟩
  -- the state of the visit is the one that the steps before it lead to
  obtain ⟨s', hget', hopen⟩ := hfed.subscribed n x (by rw [hsplit]; simp) v hv
  have hthen : MadeOk x.1 (before.map Prod.snd) := hmade (exec_of_history_eq hsplit)
  have hthere := hthen.made n s' hget'
  refine ⟨?_, fun hcancelled => ?_⟩
  · have hl : l = before.map Prod.snd ++ x.2 :: after.map Prod.snd := by
      rw [← map_snd_history h, hsplit]
      exact List.map_append
    have hnow := (hmade h).made n s hget
    have hlater : (subscribes l)[n]? = some s'.sessionID := by
      rw [hl, subscribes, List.filterMap_append]
      exact getElem?_append_of_some _ hthere
    rw [hthere, ← hlater, hnow]
  · obtain ⟨u, hu, hclosed⟩ := hthen.cancelled n hcancelled
    obtain rfl := Option.mem_unique hu hget'
    rw [hopen] at hclosed
    cases hclosed

/-- Steps of the calls of `Publish`. -/
def publishCall (sessionID type : String) : BrokerLabel :=
  .publish (.spawn { sessionID, type })

def publishStep (i : ℕ) (l : PublishLabel) : BrokerLabel := .publish (.step i l)

/-- Two subscribers of one session, two calls of `Publish` that overlap and visit them in
different orders, a receive, and a cancel after both. -/
def overlappingPublishes : List BrokerLabel :=
  [.subscribe "sess_1", .subscribe "sess_1", publishCall "sess_1" "a", publishCall "sess_1" "b",
    publishStep 0 .rlock, publishStep 1 .rlock, publishStep 0 (.next 0), publishStep 1 (.next 1),
    publishStep 1 .send, publishStep 0 .send, publishStep 1 (.next 0), publishStep 1 .send,
    publishStep 0 (.next 1), publishStep 0 .send, .recv 0, publishStep 0 .runlock,
    publishStep 1 .runlock, .cancel 0, .recv 0]

/-- `brokerDelivers_of_cancelOnce` applies to overlapping calls. -/
theorem overlappingPublishes_deliver :
    ∃ p ∈ exec brokerStep newMemoryBroker overlappingPublishes,
      p.shared.panicked = false ∧ p.shared.made.length = 2 ∧
        ∀ n s, p.shared.made[n]? = some s →
          Delivers (history brokerStep newMemoryBroker overlappingPublishes) n s := by
  obtain ⟨p, hp, hlen⟩ : ∃ p ∈ exec brokerStep newMemoryBroker overlappingPublishes,
      p.shared.made.length = 2 := by
    decide
  obtain ⟨hcalm, hdelivers⟩ := brokerDelivers_of_cancelOnce (by decide) hp
  exact ⟨p, hp, hcalm, hlen, hdelivers⟩

end Broker
end Agentd
