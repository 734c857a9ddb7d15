/-
# The channels of the ACP client

`Client.Registered` is the invariant of the client: a channel in `pending` is
open and empty, the channel that the reader is about to send on or to close has
left `pending`, and the lock is held by whoever is in a long critical section.
The one exception is an entry that `failAll` has sent to and is about to close and
to delete, with the lock held; there the channel is open and full.

The invariant is kept by every step (`Client.Registered.step`), whatever the
agent writes and in whatever order the goroutines run.
-/

import Agentd.Acp.Stdio
import Agentd.Concurrency.Pool

namespace Agentd
namespace Acp

open Control Concurrency

/-- The reader holds no channel and not the lock. -/
def Reader.quiet : Reader → Bool
  | .decode | .lookup _ | .getNotify _ | .notify _ | .failAll _ | .done => true
  | _ => false

/-- The reader has sent the error of `failAll` and is about to close and to delete
the entry. -/
def Reader.failsEntry : Reader → Bool
  | .failClose .. => true
  | _ => false

/-- The reader is in the critical section of `failAll`. -/
def Reader.inFailAll : Reader → Bool
  | .failNext _ | .failSend .. | .failClose .. => true
  | _ => false

/-- The invariant of the client. -/
structure Client.Registered (c : Client) : Prop where
  /-- a channel in `pending` is that of the call with the id, and it is open and
  empty, unless `failAll` has just sent on it -/
  pending : ∀ id i, c.pending.lookup id = some i → ∃ k, c.calls[i]? = some k ∧ k.id = id ∧
    k.wait.closed = false ∧ ((∀ m, c.reader ≠ .failClose id i m) → k.wait.buf = [])
  /-- the channel the reader is about to send on has left `pending` -/
  sending : ∀ i env, c.reader = .send i env → (∀ id, c.pending.lookup id ≠ some i) ∧
    ∃ k, c.calls[i]? = some k ∧ k.wait.closed = false ∧ k.wait.buf = []
  /-- so has the channel the reader is about to close -/
  closing : ∀ i, c.reader = .close i → (∀ id, c.pending.lookup id ≠ some i) ∧
    ∃ k, c.calls[i]? = some k ∧ k.wait.closed = false
  /-- `failAll` works on entries that are there -/
  failing : ∀ id i m, c.reader = .failSend id i m ∨ c.reader = .failClose id i m →
    c.pending.lookup id = some i
  /-- `failAll` holds the lock -/
  locked : c.reader.inFailAll = true → c.mu = some .reader
  /-- a call that writes its request holds the lock -/
  encoding : ∀ (i : ℕ) k, c.calls[i]? = some k → k.pc = .encode → c.mu = some (.call i)
  /-- the reader has not panicked -/
  no_panic : c.reader ≠ .panic

namespace Client.Registered

variable {c c' : Client}

/-- With a quiet reader the invariant is about `pending` and the lock alone. -/
theorem of_quiet (hq : c.reader.quiet = true)
    (hp : ∀ id i, c.pending.lookup id = some i → ∃ k, c.calls[i]? = some k ∧ k.id = id ∧
      k.wait.closed = false ∧ k.wait.buf = [])
    (he : ∀ (i : ℕ) k, c.calls[i]? = some k → k.pc = .encode → c.mu = some (.call i)) :
    c.Registered where
  pending id i h := by
    obtain ⟨k, hi, hid, hclosed, hbuf⟩ := hp id i h
    exact ⟨k, hi, hid, hclosed, fun _ => hbuf⟩
  sending i env h := by rw [h] at hq; cases hq
  closing i h := by rw [h] at hq; cases hq
  failing id i m h := by rcases h with h | h <;> · rw [h] at hq; cases hq
  locked h := by
    cases hr : c.reader with
    | decode | lookup _ | getNotify _ | notify _ | failAll _ | done | send _ _ | close _ | panic =>
        rw [hr] at h
        cases h
    | failNext _ | failSend _ _ _ | failClose _ _ _ =>
        rw [hr] at hq
        cases hq
  encoding := he
  no_panic h := by rw [h] at hq; cases hq

theorem init : ({} : Client).Registered :=
  of_quiet rfl (fun _ _ h => by simp at h) (fun _ _ h => by simp at h)

/-- While the reader is not about to close an entry of `failAll`, every channel in
`pending` is open and empty. -/
theorem open_empty {r : Reader} (h : c.Registered) (hr : c.reader = r)
    (hf : r.failsEntry = false) {id : String} {i : ℕ} (hp : c.pending.lookup id = some i) :
    ∃ k, c.calls[i]? = some k ∧ k.id = id ∧ k.wait.closed = false ∧ k.wait.buf = [] := by
  obtain ⟨k, hi, hid, hclosed, hbuf⟩ := h.pending id i hp
  refine ⟨k, hi, hid, hclosed, hbuf fun m hc => ?_⟩
  rw [← hr, hc] at hf
  cases hf

theorem id_unique (h : c.Registered) {id id' : String} {i : ℕ}
    (hp : c.pending.lookup id = some i) (hp' : c.pending.lookup id' = some i) : id = id' := by
  obtain ⟨k, hi, hid, -⟩ := h.pending id i hp
  obtain ⟨k', hi', hid', -⟩ := h.pending id' i hp'
  rw [hi] at hi'
  rw [← hid, ← hid', Option.some.inj hi']

/-- A step of a call that leaves its id alone, closes nothing and puts nothing
into its channel. -/
theorem set_call {i : ℕ} {k k' : Call} {mu : Option Holder} (h : c.Registered)
    (hi : c.calls[i]? = some k) (hid : k'.id = k.id) (hclosed : k'.wait.closed = k.wait.closed)
    (hbuf : k.wait.buf = [] → k'.wait.buf = [])
    (hmu : mu = c.mu ∨ k.pc = .encode ∧ mu = none) (hpc : k'.pc ≠ .encode) :
    ({ c with mu, calls := c.calls.set i k' } : Client).Registered := by
  -- what is known of the channel of a call is still known of it
  have hcall : ∀ {j : ℕ} {g : Call}, c.calls[j]? = some g → ∃ g', (c.calls.set i k')[j]? = some g' ∧
      g'.id = g.id ∧ g'.wait.closed = g.wait.closed ∧ (g.wait.buf = [] → g'.wait.buf = []) := by
    intro j g hg
    by_cases hj : j = i
    · subst hj
      obtain rfl : k = g := Option.mem_unique hi hg
      exact ⟨k', getElem?_set_of_some k' hi, hid, hclosed, hbuf⟩
    · exact ⟨g, by rw [List.getElem?_set_ne (Ne.symm hj), hg], rfl, rfl, fun h => h⟩
  refine ⟨fun id j hp => ?_, fun j env hr => ?_, fun j hr => ?_, h.failing, fun hr => ?_,
    fun j g hg hgpc => ?_, h.no_panic⟩
  · obtain ⟨g, hg, hgid, hgc, hgb⟩ := h.pending id j hp
    obtain ⟨g', hg', hid', hc', hb'⟩ := hcall hg
    exact ⟨g', hg', hid'.trans hgid, hc'.trans hgc, fun hr => hb' (hgb hr)⟩
  · obtain ⟨hout, g, hg, hgc, hgb⟩ := h.sending j env hr
    obtain ⟨g', hg', -, hc', hb'⟩ := hcall hg
    exact ⟨hout, g', hg', hc'.trans hgc, hb' hgb⟩
  · obtain ⟨hout, g, hg, hgc⟩ := h.closing j hr
    obtain ⟨g', hg', -, hc', -⟩ := hcall hg
    exact ⟨hout, g', hg', hc'.trans hgc⟩
  · rcases hmu with rfl | ⟨hk, rfl⟩
    · exact h.locked hr
    · have hlock := h.encoding i k hi hk
      rw [h.locked hr] at hlock
      cases hlock
  · rcases getElem?_set_cases hg with ⟨-, rfl⟩ | ⟨hj, hg⟩
    · exact absurd hgpc hpc
    · have hlock := h.encoding j g hg hgpc
      rcases hmu with rfl | ⟨hk, rfl⟩
      · exact hlock
      · have hlock' := h.encoding i k hi hk
        rw [hlock] at hlock'
        exact absurd (Holder.call.inj (Option.some.inj hlock')) hj

theorem not_inFailAll (h : c.Registered) (hmu : c.mu = none) : c.reader.inFailAll ≠ true := by
  intro hr
  rw [h.locked hr] at hmu
  cases hmu

theorem not_encoding (h : c.Registered) (hmu : ∀ i, c.mu ≠ some (.call i)) {i : ℕ} {k : Call}
    (hi : c.calls[i]? = some k) : k.pc ≠ .encode :=
  fun hpc => hmu i (h.encoding i k hi hpc)

/-- The reader changes the channel of one call, and no call comes to write its
request by that. -/
theorem encoding_set_wait {i : ℕ} {k : Call} {w : Chan Envelope 1} (h : c.Registered)
    (hi : c.calls[i]? = some k) (j : ℕ) (g : Call)
    (hg : (c.calls.set i { k with wait := w })[j]? = some g) (hpc : g.pc = .encode) :
    c.mu = some (.call j) := by
  rcases getElem?_set_cases hg with ⟨rfl, rfl⟩ | ⟨-, hg⟩
  · exact h.encoding j k hi hpc
  · exact h.encoding j g hg hpc

theorem channel_open (h : c.Registered) {i : ℕ} (hr : c.reader.channel = some i) :
    ∃ k, c.calls[i]? = some k ∧ k.wait.closed = false := by
  cases hc : c.reader with
  | decode | lookup _ | getNotify _ | notify _ | failAll _ | failNext _ | done | panic =>
      rw [hc] at hr
      cases hr
  | send j env =>
      rw [hc] at hr
      obtain rfl := Option.some.inj hr
      obtain ⟨-, k, hi, hclosed, -⟩ := h.sending j env hc
      exact ⟨k, hi, hclosed⟩
  | close j =>
      rw [hc] at hr
      obtain rfl := Option.some.inj hr
      exact (h.closing j hc).2
  | failSend id j m =>
      rw [hc] at hr
      obtain rfl := Option.some.inj hr
      obtain ⟨k, hi, -, hclosed, -⟩ := h.pending id j (h.failing id j m (Or.inl hc))
      exact ⟨k, hi, hclosed⟩
  | failClose id j m =>
      rw [hc] at hr
      obtain rfl := Option.some.inj hr
      obtain ⟨k, hi, -, hclosed, -⟩ := h.pending id j (h.failing id j m (Or.inr hc))
      exact ⟨k, hi, hclosed⟩

theorem not_closed (h : c.Registered) {i : ℕ} {k : Call} (hr : c.reader.channel = some i)
    (hi : c.calls[i]? = some k) : k.wait.closed ≠ true := by
  obtain ⟨k', hi', hopen⟩ := h.channel_open hr
  obtain rfl : k = k' := Option.mem_unique hi hi'
  rw [hopen]
  exact Bool.false_ne_true

theorem register {k : Call} (h : c.Registered) (hmu : c.mu = none) :
    ({ c with
      mu := some (.call c.calls.length)
      pending := c.pending.insert k.id c.calls.length
      calls := c.calls ++ [{ k with wait := .make Envelope 1, pc := .encode }] } :
        Client).Registered := by
  have hold : ∀ {j : ℕ} {g : Call}, c.calls[j]? = some g →
      (c.calls ++ [{ k with wait := .make Envelope 1, pc := .encode }])[j]? = some g :=
    fun hg => getElem?_append_of_some _ hg
  have hlt : ∀ {j : ℕ} {g : Call}, c.calls[j]? = some g → j < c.calls.length :=
    fun hg => (List.getElem?_eq_some_iff.1 hg).1
  have hnot : ∀ {j : ℕ} {g : Call}, c.calls[j]? = some g →
      (∀ id, c.pending.lookup id ≠ some j) →
        ∀ id, (c.pending.insert k.id c.calls.length).lookup id ≠ some j := by
    intro j g hg hout id hp
    rcases GoMap.lookup_insert_cases hp with ⟨-, hj⟩ | ⟨-, hp⟩
    · have := hlt hg
      omega
    · exact hout id hp
  refine ⟨fun id j hp => ?_, fun j env hr => ?_, fun j hr => ?_, fun id j m hr => ?_, fun hr => ?_,
    fun j g hg hpc => ?_, h.no_panic⟩
  · rcases GoMap.lookup_insert_cases hp with ⟨rfl, rfl⟩ | ⟨-, hp⟩
    · exact ⟨_, List.getElem?_concat_length, rfl, rfl, fun _ => rfl⟩
    · obtain ⟨g, hg, hid, hclosed, hbuf⟩ := h.pending id j hp
      exact ⟨g, hold hg, hid, hclosed, hbuf⟩
  · obtain ⟨hout, g, hg, hclosed, hbuf⟩ := h.sending j env hr
    exact ⟨hnot hg hout, g, hold hg, hclosed, hbuf⟩
  · obtain ⟨hout, g, hg, hclosed⟩ := h.closing j hr
    exact ⟨hnot hg hout, g, hold hg, hclosed⟩
  · refine absurd ?_ (h.not_inFailAll hmu)
    rcases hr with hr | hr
    · rw [show c.reader = _ from hr]; rfl
    · rw [show c.reader = _ from hr]; rfl
  · exact absurd hr (h.not_inFailAll hmu)
  · rcases getElem?_concat_cases hg with ⟨rfl, -⟩ | hg
    · rfl
    · refine absurd hpc (h.not_encoding (fun i hi => ?_) hg)
      rw [hmu] at hi
      cases hi

theorem lookup_hit {env : Envelope} {i : ℕ} (h : c.Registered) (hr : c.reader = .lookup env)
    (hp : c.pending.lookup env.id = some i) :
    ({ c with pending := c.pending.erase env.id, reader := .send i env } : Client).Registered := by
  refine ⟨fun id j hj => ?_, fun j e he => ?_, fun j he => ?_, fun id j m he => ?_, fun he => ?_,
    h.encoding, fun he => ?_⟩
  · obtain ⟨-, hj⟩ := GoMap.lookup_erase_some hj
    obtain ⟨k, hk, hid, hclosed, hbuf⟩ := h.open_empty hr rfl hj
    exact ⟨k, hk, hid, hclosed, fun _ => hbuf⟩
  · obtain ⟨rfl, -⟩ := Reader.send.inj he
    refine ⟨fun id hj => ?_, ?_⟩
    · obtain ⟨hne, hj⟩ := GoMap.lookup_erase_some hj
      exact hne (h.id_unique hj hp)
    · obtain ⟨k, hk, -, hclosed, hbuf⟩ := h.open_empty hr rfl hp
      exact ⟨k, hk, hclosed, hbuf⟩
  · cases he
  · rcases he with he | he <;> cases he
  · cases he
  · cases he

theorem send {i : ℕ} {env : Envelope} {k : Call} {w : Chan Envelope 1} (h : c.Registered)
    (hr : c.reader = .send i env) (hi : c.calls[i]? = some k) (hw : w.closed = false) :
    ({ c with calls := c.calls.set i { k with wait := w }, reader := .close i } :
      Client).Registered := by
  obtain ⟨hout, -⟩ := h.sending i env hr
  refine ⟨fun id j hj => ?_, fun j e he => ?_, fun j he => ?_, fun id j m he => ?_, fun he => ?_,
    h.encoding_set_wait hi, fun he => ?_⟩
  · have hne : j ≠ i := fun hji => hout id (hji ▸ hj)
    obtain ⟨g, hg, hid, hclosed, hbuf⟩ := h.open_empty hr rfl hj
    exact ⟨g, by rw [List.getElem?_set_ne (Ne.symm hne), hg], hid, hclosed, fun _ => hbuf⟩
  · cases he
  · obtain rfl := Reader.close.inj he
    exact ⟨hout, { k with wait := w }, getElem?_set_of_some _ hi, hw⟩
  · rcases he with he | he <;> cases he
  · cases he
  · cases he

theorem close {i : ℕ} {k : Call} {w : Chan Envelope 1} (h : c.Registered)
    (hr : c.reader = .close i) (hi : c.calls[i]? = some k) :
    ({ c with calls := c.calls.set i { k with wait := w }, reader := .decode } :
      Client).Registered := by
  obtain ⟨hout, -⟩ := h.closing i hr
  refine of_quiet rfl (fun id j hj => ?_) (h.encoding_set_wait hi)
  have hne : j ≠ i := fun hji => hout id (hji ▸ hj)
  obtain ⟨g, hg, hid, hclosed, hbuf⟩ := h.open_empty hr rfl hj
  exact ⟨g, by rw [List.getElem?_set_ne (Ne.symm hne), hg], hid, hclosed, hbuf⟩

theorem fail_all {m : String} (h : c.Registered) (hr : c.reader = .failAll m) (hmu : c.mu = none) :
    ({ c with mu := some .reader, reader := .failNext m } : Client).Registered := by
  refine ⟨fun id j hj => ?_, fun j e he => ?_, fun j he => ?_, fun id j m he => ?_, fun _ => rfl,
    fun j g hg hpc => ?_, fun he => ?_⟩
  · obtain ⟨g, hg, hid, hclosed, hbuf⟩ := h.open_empty hr rfl hj
    exact ⟨g, hg, hid, hclosed, fun _ => hbuf⟩
  · cases he
  · cases he
  · rcases he with he | he <;> cases he
  · refine absurd hpc (h.not_encoding (fun i hi => ?_) hg)
    rw [hmu] at hi
    cases hi
  · cases he

theorem fail_next {id : String} {i : ℕ} {m : String} (h : c.Registered)
    (hr : c.reader = .failNext m) (hp : c.pending.lookup id = some i) :
    ({ c with reader := .failSend id i m } : Client).Registered := by
  refine ⟨fun id' j hj => ?_, fun j e he => ?_, fun j he => ?_, fun id' j m' he => ?_,
    fun _ => h.locked (by rw [hr]; rfl), h.encoding, fun he => ?_⟩
  · obtain ⟨g, hg, hid, hclosed, hbuf⟩ := h.open_empty hr rfl hj
    exact ⟨g, hg, hid, hclosed, fun _ => hbuf⟩
  · cases he
  · cases he
  · rcases he with he | he
    · obtain ⟨rfl, rfl, -⟩ := Reader.failSend.inj he
      exact hp
    · cases he
  · cases he

/-- `failAll` sends the error. -/
theorem fail_send {id : String} {i : ℕ} {m : String} {k : Call} {w : Chan Envelope 1}
    (h : c.Registered) (hr : c.reader = .failSend id i m) (hi : c.calls[i]? = some k)
    (hw : w.closed = false) :
    ({ c with calls := c.calls.set i { k with wait := w }, reader := .failClose id i m } :
      Client).Registered := by
  have hp : c.pending.lookup id = some i := h.failing id i m (Or.inl hr)
  refine ⟨fun id' j hj => ?_, fun j e he => ?_, fun j he => ?_, fun id' j m' he => ?_,
    fun _ => h.locked (by rw [hr]; rfl), h.encoding_set_wait hi, fun he => ?_⟩
  · obtain ⟨g, hg, hid, hclosed, hbuf⟩ := h.open_empty hr rfl hj
    by_cases hji : j = i
    · subst hji
      obtain rfl : k = g := Option.mem_unique hi hg
      obtain rfl : id' = id := h.id_unique hj hp
      exact ⟨{ k with wait := w }, getElem?_set_of_some _ hi, hid, hw,
        fun hne => absurd rfl (hne m)⟩
    · exact ⟨g, by rw [List.getElem?_set_ne (Ne.symm hji), hg], hid, hclosed, fun _ => hbuf⟩
  · cases he
  · cases he
  · rcases he with he | he
    · cases he
    · obtain ⟨rfl, rfl, -⟩ := Reader.failClose.inj he
      exact hp
  · cases he

/-- `failAll` closes the channel and deletes the entry. -/
theorem fail_close {id : String} {i : ℕ} {m : String} {k : Call} {w : Chan Envelope 1}
    (h : c.Registered) (hr : c.reader = .failClose id i m) (hi : c.calls[i]? = some k) :
    ({ c with
      pending := c.pending.erase id
      calls := c.calls.set i { k with wait := w }
      reader := .failNext m } : Client).Registered := by
  have hp : c.pending.lookup id = some i := h.failing id i m (Or.inr hr)
  refine ⟨fun id' j hj => ?_, fun j e he => ?_, fun j he => ?_, fun id' j m' he => ?_,
    fun _ => h.locked (by rw [hr]; rfl), h.encoding_set_wait hi, fun he => ?_⟩
  · obtain ⟨hne, hj⟩ := GoMap.lookup_erase_some hj
    have hji : j ≠ i := fun hji => hne (h.id_unique (hji ▸ hj) hp)
    obtain ⟨g, hg, hid, hclosed, hbuf⟩ := h.pending id' j hj
    refine ⟨g, by rw [List.getElem?_set_ne (Ne.symm hji), hg], hid, hclosed, fun _ => hbuf ?_⟩
    intro m' hc
    rw [hr] at hc
    exact hji (Reader.failClose.inj hc).2.1.symm
  · cases he
  · cases he
  · rcases he with he | he <;> cases he
  · cases he

end Client.Registered

theorem Reader.quiet_afterDecode (res : Except DecodeErr Envelope) :
    (Reader.afterDecode res).quiet = true := by
  unfold Reader.afterDecode
  split
  · rfl
  · split_ifs
    · rfl
    · split <;> rfl
    · rfl

theorem Reader.afterDecode_eq_lookup {res : Except DecodeErr Envelope} {env : Envelope}
    (h : Reader.afterDecode res = .lookup env) : res = .ok env ∧ env.id ≠ "" := by
  unfold Reader.afterDecode at h
  split at h
  · cases h
  · split_ifs at h with hid
    · obtain rfl := Reader.lookup.inj h
      exact ⟨rfl, hid⟩
    · split at h <;> cases h

/-- **One step of a client keeps its invariant.** -/
theorem Client.Registered.step {c c' : Client} {l : ClientLabel} (h : c.Registered)
    (hs : c.Step l c') : c'.Registered := by
  cases hs with
  | register k hmu => exact h.register hmu
  | encoded i k err hi hpc =>
      refine h.set_call hi rfl rfl (fun hb => hb) (Or.inr ⟨hpc, rfl⟩) ?_
      cases err with
      | none => exact fun he => by cases he
      | some e => exact fun he => by cases he
  | ctxDone i k err hi hpc =>
      exact h.set_call hi rfl rfl (fun hb => hb) (Or.inl rfl) fun he => by cases he
  | receive i k env w hi hpc hbuf hclosed =>
      refine h.set_call hi rfl hclosed (fun hb => ?_) (Or.inl rfl) fun he => by cases he
      rw [hbuf] at hb
      cases hb
  | receiveEOF i k hi hpc hbuf hclosed =>
      exact h.set_call hi rfl rfl (fun hb => hb) (Or.inl rfl) fun he => by cases he
  | setHandler hmu =>
      exact ⟨h.pending, h.sending, h.closing, h.failing, h.locked, h.encoding, h.no_panic⟩
  | decoded res hr =>
      exact of_quiet (Reader.quiet_afterDecode res) (fun _ _ hp => h.open_empty hr rfl hp)
        h.encoding
  | lookupHit env i hr hmu hp => exact h.lookup_hit hr hp
  | lookupMiss env hr hmu hp =>
      refine of_quiet rfl (fun id i hj => ?_) h.encoding
      exact h.open_empty hr rfl (GoMap.lookup_erase_some hj).2
  | send i env k w hr hi hw => exact h.send hr hi (Chan.send_eq_ok.1 hw).2.2.2
  | close i k w hr hi hw => exact h.close hr hi
  | getNotify event hr hmu =>
      have hq : (if c.notify then Reader.notify event else .decode).quiet = true := by
        split_ifs <;> rfl
      exact of_quiet hq (fun _ _ hp => h.open_empty hr rfl hp) h.encoding
  | notify event hr =>
      exact of_quiet rfl (fun _ _ hp => h.open_empty hr rfl hp) h.encoding
  | failAll m hr hmu => exact h.fail_all hr hmu
  | failDone m hr hp =>
      refine of_quiet rfl (fun _ _ hp => h.open_empty hr rfl hp) (fun i k hi hpc => ?_)
      have hlock := h.encoding i k hi hpc
      rw [h.locked (by rw [hr]; rfl)] at hlock
      cases hlock
  | failNext id i m hr hp => exact h.fail_next hr hp
  | failSend id i m k w hr hi hw => exact h.fail_send hr hi (Chan.send_eq_ok.1 hw).2.2.2
  | failClose id i m k w hr hi hw => exact h.fail_close hr hi
  | panic i k c' hr hi hclosed hc' => exact absurd hclosed (h.not_closed hr hi)

end Acp
end Agentd
