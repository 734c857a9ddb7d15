/-
# Requests and responses

Which envelope reaches which call.  A run is watched (`Traced`): which envelopes
with the id of a call were decoded since it was registered, and which were sent
on its channel.  A call is handed the first of them, or the error of `failAll`,
and nothing else; and with the invariant of the channels no send and no close of
the reader waits or panics.

This uses that `NewID` returns fresh ids: an envelope that the reader decoded
before a call was registered does not carry the id of that call.
-/

import Agentd.Acp.Registered

namespace Agentd
namespace Acp

open Control Concurrency

/-- A client whose messages are watched: for each call, the envelopes with its id
decoded since it was registered, and those sent on its channel. -/
structure Traced where
  client : Client := {}
  seen : ℕ → List Envelope := fun _ => []
  handed : ℕ → List Envelope := fun _ => []

/-- Call `i` has the given id. -/
def Client.hasID (c : Client) (i : ℕ) (id : String) : Bool :=
  (c.calls[i]?.map (·.id)) = some id

/-- What is decoded in a step, by the calls it is for. -/
def Traced.nextSeen (t : Traced) (l : ClientLabel) (i : ℕ) : List Envelope :=
  match l with
  | .decoded (.ok env) =>
      if env.id ≠ "" ∧ t.client.hasID i env.id then t.seen i ++ [env] else t.seen i
  | _ => t.seen i

/-- What is sent in a step, by the call it is sent to. -/
def Traced.nextHanded (t : Traced) (l : ClientLabel) (i : ℕ) : List Envelope :=
  match l, t.client.reader with
  | .read, .send j env => if i = j then t.handed i ++ [env] else t.handed i
  | .read, .failSend id j m => if i = j then t.handed i ++ [failure id m] else t.handed i
  | _, _ => t.handed i

/-- One step of a client that is watched. -/
def Traced.step (t : Traced) (l : ClientLabel) : Option Traced :=
  (t.client.step l).map fun c => ⟨c, t.nextSeen l, t.nextHanded l⟩

/-- The step is one that `readLoop` makes for an envelope without an id, or for
one whose id is not pending. -/
def Client.unmatched (c : Client) : ClientLabel → Bool
  | .decoded (.ok _) => true
  | .read =>
      match c.reader with
      | .lookup env => (c.pending.lookup env.id).isNone
      | .getNotify _ | .notify _ => true
      | _ => false
  | _ => false

/-- The correlation of requests and responses, in one state. -/
structure Correlated (t : Traced) : Prop where
  /-- every channel in `pending` is open and empty, but for the entry that
  `failAll` is about to close and to delete -/
  pending_open : ∀ id i, t.client.pending.lookup id = some i →
    (∀ m, t.client.reader ≠ .failClose id i m) →
      ∃ k, t.client.calls[i]? = some k ∧ k.wait.buf = [] ∧ k.wait.closed = false
  /-- where the reader is about to send or to close, it can, and does not panic -/
  reader_goes_on : ∀ i, t.client.reader.channel = some i →
    ∃ c, t.client.step .read = some c ∧ c.reader ≠ .panic
  no_panic : t.client.reader ≠ .panic
  /-- a call is handed at most one envelope: the first one with its id decoded
  since it was registered, or the error of `failAll` -/
  handed_once : ∀ (i : ℕ) k, t.client.calls[i]? = some k →
    t.handed i = [] ∨ ∃ env, t.handed i = [env] ∧
      ((t.seen i).head? = some env ∨ ∃ m, env = failure k.id m)
  /-- what a call can receive is what it was handed -/
  received : ∀ (i : ℕ) k env, t.client.calls[i]? = some k → env ∈ k.wait.buf → t.handed i = [env]
  /-- an envelope without an id, or whose id is not pending, leaves `pending` -/
  unmatched : ∀ l c, t.client.step l = some c → t.client.unmatched l = true →
    c.pending = t.client.pending

/-- The invariant of the watched messages. -/
structure Traced.Ok (t : Traced) : Prop where
  client : t.client.Registered
  once : ∀ (i : ℕ) k, t.client.calls[i]? = some k →
    t.handed i = [] ∨ ∃ env, t.handed i = [env] ∧
      ((t.seen i).head? = some env ∨ ∃ m, env = failure k.id m)
  /-- nothing was sent to a call that is pending, and nothing was decoded for it
  but what the reader is about to look up -/
  pending : ∀ id i, t.client.pending.lookup id = some i →
    ((∀ m, t.client.reader ≠ .failClose id i m) → t.handed i = []) ∧
      (∀ env, t.client.reader = .lookup env → env.id = id → t.seen i = [env]) ∧
        ((∀ env, t.client.reader = .lookup env → env.id ≠ id) → t.seen i = [])
  /-- what the reader is about to send is the first envelope for the call -/
  sending : ∀ i env, t.client.reader = .send i env →
    t.handed i = [] ∧ (t.seen i).head? = some env
  received : ∀ (i : ℕ) k env, t.client.calls[i]? = some k → env ∈ k.wait.buf → t.handed i = [env]
  /-- nothing is recorded of calls that are not there -/
  absent : ∀ i, t.client.calls.length ≤ i → t.seen i = [] ∧ t.handed i = []

namespace Traced.Ok

variable {t : Traced} {c' : Client}

/-- A step in which nothing is decoded and nothing is sent: it keeps the ids of
the calls, puts nothing into their channels, adds nothing to `pending`, and does
not bring the reader to a send or to or from a lookup. -/
theorem frame (h : t.Ok) (hc : c'.Registered)
    (hcalls : ∀ (i : ℕ) k', c'.calls[i]? = some k' → ∃ k, t.client.calls[i]? = some k ∧
      k'.id = k.id ∧ ∀ env ∈ k'.wait.buf, env ∈ k.wait.buf)
    (hlen : c'.calls.length = t.client.calls.length)
    (hp : ∀ id i, c'.pending.lookup id = some i → t.client.pending.lookup id = some i ∧
      ∀ m, t.client.reader = .failClose id i m → c'.reader = .failClose id i m)
    (hlookup : ∀ env, c'.reader = .lookup env ↔ t.client.reader = .lookup env)
    (hsend : ∀ i env, c'.reader = .send i env → t.client.reader = .send i env) :
    Traced.Ok ⟨c', t.seen, t.handed⟩ where
  client := hc
  once i k' hi := by
    obtain ⟨k, hk, hid, -⟩ := hcalls i k' hi
    rw [hid]
    exact h.once i k hk
  pending id i hi := by
    obtain ⟨hold, hfail⟩ := hp id i hi
    obtain ⟨hhanded, hseen, hnone⟩ := h.pending id i hold
    refine ⟨fun hr => hhanded fun m hm => hr m (hfail m hm), fun env hr => ?_, fun hr => ?_⟩
    · exact hseen env ((hlookup env).1 hr)
    · exact hnone fun env hm => hr env ((hlookup env).2 hm)
  sending i env hr := h.sending i env (hsend i env hr)
  received i k' env hi henv := by
    obtain ⟨k, hk, -, hbuf⟩ := hcalls i k' hi
    exact h.received i k env hk (hbuf env henv)
  absent i hi := h.absent i (hlen ▸ hi)

/-- The calls after a step that changes one of them. -/
theorem calls_set {i : ℕ} {k k' : Call} (hi : t.client.calls[i]? = some k) (hid : k'.id = k.id)
    (hbuf : ∀ env ∈ k'.wait.buf, env ∈ k.wait.buf) (j : ℕ) (g' : Call)
    (hg : (t.client.calls.set i k')[j]? = some g') :
    ∃ g, t.client.calls[j]? = some g ∧ g'.id = g.id ∧ ∀ env ∈ g'.wait.buf, env ∈ g.wait.buf := by
  rcases getElem?_set_cases hg with ⟨rfl, rfl⟩ | ⟨-, hg⟩
  · exact ⟨k, hi, hid, hbuf⟩
  · exact ⟨g', hg, rfl, fun _ h => h⟩

theorem frame_call {i : ℕ} {k k' : Call} {mu : Option Holder} (h : t.Ok)
    (hc : ({ t.client with mu, calls := t.client.calls.set i k' } : Client).Registered)
    (hi : t.client.calls[i]? = some k) (hid : k'.id = k.id)
    (hbuf : ∀ env ∈ k'.wait.buf, env ∈ k.wait.buf) :
    Traced.Ok ⟨{ t.client with mu, calls := t.client.calls.set i k' }, t.seen, t.handed⟩ :=
  h.frame hc (calls_set hi hid hbuf) (List.length_set ..) (fun _ _ hp => ⟨hp, fun _ hm => hm⟩)
    (fun _ => Iff.rfl) (fun _ _ hr => hr)

/-- A step of the reader between places without a channel, with nothing looked up
before or after it. -/
theorem frame_reader {mu : Option Holder} {next : Reader} {events : List StreamEvent} (h : t.Ok)
    (hc : ({ t.client with mu, events, reader := next } : Client).Registered)
    (hfail : ∀ id i m, t.client.reader ≠ .failClose id i m)
    (hold : ∀ env, t.client.reader ≠ .lookup env) (hnext : ∀ env, next ≠ .lookup env)
    (hsend : ∀ i env, next ≠ .send i env) :
    Traced.Ok ⟨{ t.client with mu, events, reader := next }, t.seen, t.handed⟩ :=
  h.frame hc (fun _ k hk => ⟨k, hk, rfl, fun _ he => he⟩) rfl
    (fun id i hp => ⟨hp, fun m hm => absurd hm (hfail id i m)⟩)
    (fun env => iff_of_false (hnext env) (hold env)) (fun i env hr => absurd hr (hsend i env))

/-- A call is registered, with an id that the reader does not hold. -/
theorem register {k : Call} (h : t.Ok) (hmu : t.client.mu = none)
    (hfresh : ∀ env, t.client.reader = .lookup env → env.id ≠ k.id) :
    Traced.Ok
      ⟨{ t.client with
          mu := some (.call t.client.calls.length)
          pending := t.client.pending.insert k.id t.client.calls.length
          calls := t.client.calls ++ [{ k with wait := .make Envelope 1, pc := .encode }] },
        t.seen, t.handed⟩ where
  client := h.client.register hmu
  once i g hg := by
    rcases getElem?_concat_cases hg with ⟨rfl, -⟩ | hg
    · exact Or.inl (h.absent _ (Nat.le_refl _)).2
    · exact h.once i g hg
  pending id i hp := by
    rcases GoMap.lookup_insert_cases hp with ⟨rfl, rfl⟩ | ⟨-, hp⟩
    · obtain ⟨hseen, hhanded⟩ := h.absent _ (Nat.le_refl t.client.calls.length)
      exact ⟨fun _ => hhanded, fun env hr he => absurd he (hfresh env hr), fun _ => hseen⟩
    · exact h.pending id i hp
  sending := h.sending
  received i g env hg henv := by
    rcases getElem?_concat_cases hg with ⟨-, rfl⟩ | hg
    · cases henv
    · exact h.received i g env hg henv
  absent i hi := by
    refine h.absent i ?_
    have hlen : (t.client.calls ++
        [({ k with wait := .make Envelope 1, pc := .encode } : Call)]).length ≤ i := hi
    rw [List.length_append] at hlen
    omega

theorem head?_nextSeen {l : ClientLabel} {i : ℕ} {env : Envelope}
    (h : (t.seen i).head? = some env) : (t.nextSeen l i).head? = some env := by
  have happ : ∀ e, (t.seen i ++ [e]).head? = some env := by
    intro e
    rw [List.head?_append, h]
    rfl
  unfold Traced.nextSeen
  split
  · split_ifs
    · exact happ _
    · exact h
  · exact h

theorem decoded {res : Except DecodeErr Envelope} (h : t.Ok) (hr : t.client.reader = .decode)
    (hc : ({ t.client with reader := .afterDecode res } : Client).Registered) :
    Traced.Ok ⟨{ t.client with reader := .afterDecode res }, t.nextSeen (.decoded res),
      t.handed⟩ where
  client := hc
  once i k hi := by
    rcases h.once i k hi with hnone | ⟨env, henv, hfirst | hfail⟩
    · exact Or.inl hnone
    · exact Or.inr ⟨env, henv, Or.inl (head?_nextSeen hfirst)⟩
    · exact Or.inr ⟨env, henv, Or.inr hfail⟩
  pending id i hp := by
    obtain ⟨hhanded, -, hnone⟩ := h.pending id i hp
    have hseen : t.seen i = [] := by
      refine hnone fun env he => ?_
      rw [hr] at he
      cases he
    have hfail : ∀ m, t.client.reader ≠ .failClose id i m := by
      intro m he
      rw [hr] at he
      cases he
    obtain ⟨k, hk, hid, -⟩ := h.client.pending id i hp
    have hhas : ∀ id', t.client.hasID i id' = true ↔ id = id' := by
      intro id'
      unfold Client.hasID
      rw [hk, decide_eq_true_iff, Option.map_some, Option.some.injEq, hid]
    refine ⟨fun _ => hhanded hfail, fun env he hid' => ?_, fun hne => ?_⟩
    · obtain ⟨rfl, hne⟩ := Reader.afterDecode_eq_lookup he
      show (if env.id ≠ "" ∧ t.client.hasID i env.id then t.seen i ++ [env] else t.seen i) = [env]
      rw [if_pos ⟨hne, (hhas env.id).2 hid'.symm⟩, hseen]
      rfl
    · cases res with
      | error e => exact hseen
      | ok env =>
          show (if env.id ≠ "" ∧ t.client.hasID i env.id then t.seen i ++ [env] else t.seen i) = []
          rw [if_neg, hseen]
          rintro ⟨hid', hhasid⟩
          exact hne env (if_pos hid') ((hhas env.id).1 hhasid).symm
  sending i env he := by
    have hq := Reader.quiet_afterDecode res
    rw [show Reader.afterDecode res = _ from he] at hq
    cases hq
  received := h.received
  absent i hi := by
    obtain ⟨hseen, hhanded⟩ := h.absent i hi
    refine ⟨?_, hhanded⟩
    cases res with
    | error e => exact hseen
    | ok env =>
        show (if env.id ≠ "" ∧ t.client.hasID i env.id then t.seen i ++ [env] else t.seen i) = []
        rw [if_neg, hseen]
        rintro ⟨-, hhas⟩
        unfold Client.hasID at hhas
        rw [List.getElem?_eq_none hi] at hhas
        cases of_decide_eq_true hhas

/-- The other entries of `pending`, while the reader looks up an envelope: nothing
was decoded for their calls, and nothing sent to them. -/
theorem pending_erase {env : Envelope} {id : String} {i : ℕ} (h : t.Ok)
    (hr : t.client.reader = .lookup env)
    (hi : (t.client.pending.erase env.id).lookup id = some i) :
    t.handed i = [] ∧ t.seen i = [] := by
  obtain ⟨hne, hi⟩ := GoMap.lookup_erase_some hi
  obtain ⟨hhanded, -, hnone⟩ := h.pending id i hi
  refine ⟨hhanded fun m he => ?_, hnone fun e he hid => ?_⟩
  · rw [hr] at he
    cases he
  · rw [hr] at he
    obtain rfl := Reader.lookup.inj he
    exact hne hid.symm

/-- The reader finds the call that an envelope is for. -/
theorem lookup_hit {env : Envelope} {i : ℕ} (h : t.Ok) (hr : t.client.reader = .lookup env)
    (hp : t.client.pending.lookup env.id = some i) :
    Traced.Ok
      ⟨{ t.client with pending := t.client.pending.erase env.id, reader := .send i env },
        t.seen, t.handed⟩ where
  client := h.client.lookup_hit hr hp
  once := h.once
  pending id j hj := by
    obtain ⟨hhanded, hseen⟩ := h.pending_erase hr hj
    refine ⟨fun _ => hhanded, fun e he => ?_, fun _ => hseen⟩
    cases he
  sending j e he := by
    obtain ⟨rfl, rfl⟩ := Reader.send.inj he
    obtain ⟨hhanded, hseen, -⟩ := h.pending env.id i hp
    refine ⟨hhanded fun m hm => ?_, ?_⟩
    · rw [hr] at hm
      cases hm
    · rw [hseen env hr rfl]
      rfl
  received := h.received
  absent := h.absent

theorem lookup_miss {env : Envelope} (h : t.Ok) (hr : t.client.reader = .lookup env)
    (hc : ({ t.client with pending := t.client.pending.erase env.id, reader := .decode } :
      Client).Registered) :
    Traced.Ok
      ⟨{ t.client with pending := t.client.pending.erase env.id, reader := .decode },
        t.seen, t.handed⟩ where
  client := hc
  once := h.once
  pending id j hj := by
    obtain ⟨hhanded, hseen⟩ := h.pending_erase hr hj
    refine ⟨fun _ => hhanded, fun e he => ?_, fun _ => hseen⟩
    cases he
  sending j e he := by cases he
  received := h.received
  absent := h.absent

/-- The reader sends `env` on the channel of call `i`, which was handed nothing
before, and does not go to a lookup or to another send. -/
theorem sent {i : ℕ} {k : Call} {env : Envelope} {w : Chan Envelope 1} {next : Reader}
    {handed : ℕ → List Envelope} (h : t.Ok)
    (hc : ({ t.client with calls := t.client.calls.set i { k with wait := w }, reader := next } :
      Client).Registered)
    (hi : t.client.calls[i]? = some k) (hw : w.buf = [env])
    (henv : (t.seen i).head? = some env ∨ ∃ m, env = failure k.id m)
    (hself : handed i = [env]) (hother : ∀ j, j ≠ i → handed j = t.handed j)
    (hout : ∀ id, t.client.pending.lookup id = some i → ∃ m, next = .failClose id i m)
    (hold : ∀ env, t.client.reader ≠ .lookup env)
    (hfail : ∀ id j m, t.client.reader ≠ .failClose id j m)
    (hnext : ∀ env, next ≠ .lookup env) (hnext' : ∀ j env, next ≠ .send j env) :
    Traced.Ok
      ⟨{ t.client with calls := t.client.calls.set i { k with wait := w }, reader := next },
        t.seen, handed⟩ where
  client := hc
  once j g hg := by
    rcases getElem?_set_cases hg with ⟨rfl, rfl⟩ | ⟨hj, hg⟩
    · exact Or.inr ⟨env, hself, henv⟩
    · dsimp only
      rw [hother j hj]
      exact h.once j g hg
  pending id j hj := by
    obtain ⟨hnone, -, hseen⟩ := h.pending id j hj
    refine ⟨fun hr => ?_, fun e he => absurd he (hnext e), fun _ => hseen fun e he =>
      absurd he (hold e)⟩
    have hji : j ≠ i := by
      rintro rfl
      obtain ⟨m, hm⟩ := hout id hj
      exact hr m hm
    dsimp only
    rw [hother j hji]
    exact hnone (hfail id j)
  sending j e he := absurd he (hnext' j e)
  received j g e hg he := by
    rcases getElem?_set_cases hg with ⟨rfl, rfl⟩ | ⟨hj, hg⟩
    · have he' : e ∈ w.buf := he
      rw [hw, List.mem_singleton] at he'
      rw [he']
      exact hself
    · dsimp only
      rw [hother j hj]
      exact h.received j g e hg he
  absent j hj := by
    rw [List.length_set] at hj
    have hji : j ≠ i := by
      rintro rfl
      rw [List.getElem?_eq_none hj] at hi
      cases hi
    dsimp only
    rw [hother j hji]
    exact h.absent j hj

/-- A step of the reader other than a send records nothing as sent. -/
theorem nextHanded_read (hs : ∀ i env, t.client.reader ≠ .send i env)
    (hf : ∀ id i m, t.client.reader ≠ .failSend id i m) : t.nextHanded .read = t.handed := by
  funext j
  unfold Traced.nextHanded
  split
  · next hr => exact absurd hr (hs _ _)
  · next hr => exact absurd hr (hf _ _ _)
  · rfl

/-- **One step of a watched client.** -/
theorem step {t' : Traced} {l : ClientLabel} (h : t.Ok) (hC : FreshIDs t.client l)
    (ht : t.step l = some t') : t'.Ok := by
  obtain ⟨c', hc', rfl⟩ := Option.map_eq_some_iff.1 ht
  have hstep := Client.step_spec hc'
  have hreg := h.client.step hstep
  clear hc' ht
  cases hstep with
  | register k hmu =>
      refine h.register hmu fun env hr hid => hC.2 ?_
      rw [hr]
      exact congrArg some hid
  | encoded i k err hi hpc => exact h.frame_call hreg hi rfl fun _ he => he
  | ctxDone i k err hi hpc => exact h.frame_call hreg hi rfl fun _ he => he
  | receive i k env w hi hpc hbuf hclosed =>
      refine h.frame_call hreg hi rfl fun e he => ?_
      rw [hbuf]
      exact List.mem_cons_of_mem env he
  | receiveEOF i k hi hpc hbuf hclosed => exact h.frame_call hreg hi rfl fun _ he => he
  | setHandler hmu =>
      exact h.frame hreg (fun i k hk => ⟨k, hk, rfl, fun _ he => he⟩) rfl
        (fun _ _ hp => ⟨hp, fun _ hm => hm⟩) (fun _ => Iff.rfl) (fun _ _ hr => hr)
  | decoded res hr => exact h.decoded hr hreg
  | lookupHit env i hr hmu hp =>
      rw [nextHanded_read (by simp [hr]) (by simp [hr])]
      exact h.lookup_hit hr hp
  | lookupMiss env hr hmu hp =>
      rw [nextHanded_read (by simp [hr]) (by simp [hr])]
      exact h.lookup_miss hr hreg
  | send i env k w hr hi hw =>
      obtain ⟨hhanded, hseen⟩ := h.sending i env hr
      obtain ⟨hout, k', hi', -, hbuf⟩ := h.client.sending i env hr
      obtain rfl : k = k' := Option.mem_unique hi hi'
      have hwbuf : w.buf = [env] := by rw [(Chan.send_eq_ok.1 hw).2.2.1, hbuf]; rfl
      refine h.sent hreg hi hwbuf (Or.inl hseen) ?_ (fun j hj => ?_)
        (fun id hp => absurd hp (hout id)) (by simp [hr]) (by simp [hr]) (by simp) (by simp)
      · simp only [Traced.nextHanded, hr, if_pos, hhanded, List.nil_append]
      · simp only [Traced.nextHanded, hr, if_neg hj]
  | close i k w hr hi hw =>
      rw [nextHanded_read (by simp [hr]) (by simp [hr])]
      refine h.frame hreg (calls_set hi rfl fun e he => ?_) (List.length_set ..)
        (fun _ _ hp => ⟨hp, by simp [hr]⟩) (by simp [hr]) (by simp)
      exact (Chan.close_eq_some.1 hw).2.1 ▸ he
  | getNotify event hr hmu =>
      rw [nextHanded_read (by simp [hr]) (by simp [hr])]
      exact h.frame_reader hreg (by simp [hr]) (by simp [hr]) (fun env => by split_ifs <;> simp)
        (fun i env => by split_ifs <;> simp)
  | notify event hr =>
      rw [nextHanded_read (by simp [hr]) (by simp [hr])]
      exact h.frame_reader hreg (by simp [hr]) (by simp [hr]) (by simp) (by simp)
  | failAll m hr hmu =>
      rw [nextHanded_read (by simp [hr]) (by simp [hr])]
      exact h.frame_reader hreg (by simp [hr]) (by simp [hr]) (by simp) (by simp)
  | failDone m hr hp =>
      rw [nextHanded_read (by simp [hr]) (by simp [hr])]
      exact h.frame_reader hreg (by simp [hr]) (by simp [hr]) (by simp) (by simp)
  | failNext id i m hr hp =>
      exact h.frame_reader hreg (by simp [hr]) (by simp [hr]) (by simp) (by simp)
  | failSend id i m k w hr hi hw =>
      have hp : t.client.pending.lookup id = some i := h.client.failing id i m (Or.inl hr)
      obtain ⟨k', hi', hid, -, hbuf⟩ := h.client.open_empty hr rfl hp
      obtain rfl : k = k' := Option.mem_unique hi hi'
      have hhanded : t.handed i = [] := (h.pending id i hp).1 (by simp [hr])
      have hwbuf : w.buf = [failure id m] := by rw [(Chan.send_eq_ok.1 hw).2.2.1, hbuf]; rfl
      refine h.sent hreg hi hwbuf (Or.inr ⟨m, by rw [hid]⟩) ?_ (fun j hj => ?_) (fun id' hp' => ?_)
        (by simp [hr]) (by simp [hr]) (by simp) (by simp)
      · simp only [Traced.nextHanded, hr, if_pos, hhanded, List.nil_append]
      · simp only [Traced.nextHanded, hr, if_neg hj]
      · exact ⟨m, by rw [h.client.id_unique hp' hp]⟩
  | failClose id i m k w hr hi hw =>
      rw [nextHanded_read (by simp [hr]) (by simp [hr])]
      refine h.frame hreg (calls_set hi rfl fun e he => ?_) (List.length_set ..)
        (fun id' j hp => ?_) (by simp [hr]) (by simp)
      · exact (Chan.close_eq_some.1 hw).2.1 ▸ he
      · obtain ⟨hne, hp⟩ := GoMap.lookup_erase_some hp
        refine ⟨hp, fun m' hm => ?_⟩
        rw [hr] at hm
        exact absurd (Reader.failClose.inj hm).1.symm hne
  | panic i k c' hr hi hclosed hc' => exact absurd hclosed (h.client.not_closed hr hi)

end Traced.Ok

theorem Traced.Ok.init : Traced.Ok {} where
  client := .init
  once _ _ h := by simp at h
  pending _ _ h := by simp at h
  sending _ _ h := by cases h
  received _ _ _ h := by simp at h
  absent _ _ := ⟨rfl, rfl⟩

theorem Client.send_goes_on {c : Client} {i : ℕ} {k : Call} (env : Envelope) (next : Reader)
    (hi : c.calls[i]? = some k) (hclosed : k.wait.closed = false) (hbuf : k.wait.buf = []) :
    ∃ c', c.send i env next = some c' ∧ c'.reader = next := by
  cases hw : k.wait.send env with
  | ok w =>
      refine ⟨{ c with calls := c.calls.set i { k with wait := w }, reader := next }, ?_, rfl⟩
      unfold Client.send
      rw [hi]
      simp only [Option.bind_some, hw]
  | full =>
      have hfull := (Chan.send_eq_full.1 hw).2
      rw [hbuf, List.length_nil] at hfull
      omega
  | panic =>
      rw [Chan.send_eq_panic.1 hw] at hclosed
      cases hclosed

theorem Client.close_goes_on {c : Client} {i : ℕ} {k : Call} (next : Reader)
    (hi : c.calls[i]? = some k) (hclosed : k.wait.closed = false) :
    ∃ c', c.close i next = some c' ∧ c'.reader = next := by
  have hw : k.wait.close = some { k.wait with closed := true } :=
    Chan.close_eq_some.2 ⟨hclosed, rfl, rfl⟩
  refine ⟨{ c with
    calls := c.calls.set i { k with wait := { k.wait with closed := true } }, reader := next },
    ?_, rfl⟩
  unfold Client.close
  rw [hi]
  simp only [Option.map_some, hw]

/-- **The reader never waits on a channel and never panics there.** -/
theorem Client.Registered.reader_goes_on {c : Client} (h : c.Registered) {i : ℕ}
    (hr : c.reader.channel = some i) : ∃ c', c.step .read = some c' ∧ c'.reader ≠ .panic := by
  show ∃ c', c.read = some c' ∧ c'.reader ≠ .panic
  obtain ⟨k, hi, hclosed⟩ := h.channel_open hr
  unfold Client.read
  cases hc : c.reader with
  | decode | lookup _ | getNotify _ | notify _ | failAll _ | failNext _ | done | panic =>
      rw [hc] at hr
      cases hr
  | send j env =>
      obtain ⟨-, g, hj, hopen, hbuf⟩ := h.sending j env hc
      obtain ⟨c', hs, hr'⟩ := Client.send_goes_on env (.close j) hj hopen hbuf
      exact ⟨c', hs, by rw [hr']; simp⟩
  | close j =>
      rw [hc] at hr
      obtain rfl := Option.some.inj hr
      obtain ⟨c', hs, hr'⟩ := Client.close_goes_on .decode hi hclosed
      exact ⟨c', hs, by rw [hr']; simp⟩
  | failSend id j m =>
      obtain ⟨g, hj, -, hopen, hbuf⟩ := h.open_empty hc rfl (h.failing id j m (Or.inl hc))
      obtain ⟨c', hs, hr'⟩ := Client.send_goes_on (failure id m) (.failClose id j m) hj hopen hbuf
      exact ⟨c', hs, by rw [hr']; simp⟩
  | failClose id j m =>
      rw [hc] at hr
      obtain rfl := Option.some.inj hr
      obtain ⟨c', hs, hr'⟩ :=
        Client.close_goes_on (c := { c with pending := c.pending.erase id }) (.failNext m) hi hclosed
      exact ⟨c', hs, by rw [hr']; simp⟩

theorem Client.not_unmatched {c : Client} {i : ℕ} (hr : c.reader.channel = some i) :
    c.unmatched .read ≠ true := by
  intro hu
  cases hc : c.reader with
  | send _ _ | close _ | failSend _ _ _ | failClose _ _ _ =>
      simp [Client.unmatched, hc] at hu
  | decode | lookup _ | getNotify _ | notify _ | failAll _ | failNext _ | done | panic =>
      rw [hc] at hr
      cases hr

/-- **An envelope that no call waits for leaves `pending`**, in any state. -/
theorem Client.Step.pending_of_unmatched {c c' : Client} {l : ClientLabel} (h : c.Step l c')
    (hu : c.unmatched l = true) : c'.pending = c.pending := by
  cases h with
  | lookupMiss env hr hmu hp => exact GoMap.erase_of_lookup_none hp
  | lookupHit env i hr hmu hp =>
      simp only [Client.unmatched, hr, hp, Option.isNone_some] at hu
      cases hu
  | decoded res hr | getNotify event hr hmu | notify event hr | failAll m hr hmu
  | failDone m hr hp => rfl
  | send i env k w hr hi hw | close i k w hr hi hw | failSend id i m k w hr hi hw
  | failClose id i m k w hr hi hw =>
      exact absurd hu (Client.not_unmatched (i := i) (by rw [hr]; rfl))
  | panic i k c' hr hi hclosed hc' => exact absurd hu (Client.not_unmatched hr)
  | register k hmu | encoded i k err hi hpc | ctxDone i k err hi hpc
  | receive i k env w hi hpc hbuf hclosed | receiveEOF i k hi hpc hbuf hclosed | setHandler hmu
  | failNext id i m hr hp => cases hu

/-- **Requests and responses are correlated.**  In every run of a client in which
`NewID` returns fresh ids, whatever the agent writes, whatever `Encode` and the
contexts do and in whatever order the goroutines run. -/
theorem correlated_of_freshIDs {t : Traced} {l : List ClientLabel}
    (hl : Along Traced.step (fun t => FreshIDs t.client) {} l) (h : exec Traced.step {} l = some t) :
    Correlated t := by
  have ht : t.Ok := exec_invariant (fun _ _ _ hs hC hq => hs.step hC hq) Traced.Ok.init hl h
  refine ⟨fun id i hp hr => ?_, fun i hr => ht.client.reader_goes_on hr, ht.client.no_panic,
    ht.once, ht.received, fun lab c hc hu => (Client.step_spec hc).pending_of_unmatched hu⟩
  obtain ⟨k, hi, -, hclosed, hbuf⟩ := ht.client.pending id i hp
  exact ⟨k, hi, hbuf hr, hclosed⟩

/-- A response to the second of two calls, the same once more, a response nobody
waits for and a notification; then the output ends while the first call waits. -/
def twoCalls : List ClientLabel :=
  [.call { id := "rpc_1", method := "session/prompt" }, .encoded 0 none,
    .call { id := "rpc_2", method := "session/list" }, .encoded 1 none, .setNotificationHandler,
    .decoded (.ok { id := "rpc_2" }), .read, .read, .read, .receive 1,
    .decoded (.ok { id := "rpc_2" }), .read, .decoded (.ok { id := "rpc_9" }), .read,
    .decoded (.ok { method := "session/update", params := { event := some { type := "text" } } }),
    .read, .read, .decoded (.error .eof), .read, .fail "rpc_1", .read, .read, .read, .receive 0]

/-- `correlated_of_freshIDs` applies to these calls, and both have returned. -/
theorem twoCalls_correlated :
    ∃ t ∈ exec Traced.step {} twoCalls, Correlated t ∧
      (t.handed 0).length = 1 ∧ (t.handed 1).length = 1 ∧ (t.seen 1).length = 2 := by
  obtain ⟨t, ht, h0⟩ : ∃ t ∈ exec Traced.step {} twoCalls,
      (t.handed 0).length = 1 ∧ (t.handed 1).length = 1 ∧ (t.seen 1).length = 2 := by decide
  exact ⟨t, ht, correlated_of_freshIDs (l := twoCalls) (by decide) ht, h0⟩

end Acp
end Agentd
