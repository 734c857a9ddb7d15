/-
# Calls after the end of the output

When the agent's output ends, `failAll` fails every call that is registered and
`readLoop` is over.  `c.closed` is closed then, but nothing reads it: a call that
registers afterwards and whose request is still accepted by the agent's stdin
waits for a response that nobody will hand to it (`lateCall_abandoned`).

`noneAbandoned_of_noLateEncode` says that this is the only way to be abandoned:
while no `Encode` succeeds after the end of `readLoop`, every call that waits then
has something to receive.  The argument is the lock: `failAll` holds it over its
whole loop, so a call registered before has written its request before, and one
registered later finds the reader gone.
-/

import Agentd.Acp.Registered

namespace Agentd
namespace Acp

open Control Concurrency

/-- The call waits for a response. -/
def CallPC.waits : CallPC → Bool
  | .select => true
  | _ => false

/-- `readLoop` is over. -/
def Reader.ended : Reader → Bool
  | .done => true
  | _ => false

/-- After the end of `readLoop`, a call that waits has something to receive: an
envelope, or the end of its channel. -/
def NoneAbandoned (c : Client) : Prop :=
  c.reader.ended = true → ∀ k ∈ c.calls, k.pc.waits = true →
    0 < k.wait.buf.length ∨ k.wait.closed = true

instance (c : Client) : Decidable (NoneAbandoned c) := inferInstanceAs (Decidable (_ → _))

/-- No `Encode` succeeds after the end of `readLoop`. -/
def NoLateEncode (c : Client) : ClientLabel → Prop
  | .encoded _ none => c.reader.ended = false
  | _ => True

instance (c : Client) : DecidablePred (NoLateEncode c)
  | .encoded _ none => inferInstanceAs (Decidable (_ = _))
  | .encoded _ (some _) | .call _ | .ctxDone .. | .receive _ | .setNotificationHandler
  | .decoded _ | .read | .fail _ => isTrue trivial

/-- The call has not returned. -/
def CallPC.live : CallPC → Bool
  | .returned _ => false
  | _ => true

/-- The invariant: a call that has not returned and has nothing to receive is
registered, or the reader is about to send to it; and after the end of
`readLoop` no call that is registered waits. -/
structure Client.Awaited (c : Client) : Prop where
  registered : c.Registered
  live : ∀ (i : ℕ) k, c.calls[i]? = some k → k.pc.live = true → k.wait.closed = false →
    k.wait.buf = [] → c.pending.lookup k.id = some i ∨ ∃ env, c.reader = .send i env
  ended : c.reader.ended = true → ∀ id i, c.pending.lookup id = some i →
    ∃ k, c.calls[i]? = some k ∧ k.pc.waits = false

namespace Client.Awaited

variable {c c' : Client}

/-- A call that has nothing to receive is registered, while the reader is not at
a send. -/
theorem lookup_of_live {r : Reader} (h : c.Awaited) (hr : c.reader = r)
    (hs : ∀ i env, r ≠ .send i env) {i : ℕ} {k : Call} (hi : c.calls[i]? = some k)
    (hlive : k.pc.live = true) (hclosed : k.wait.closed = false) (hbuf : k.wait.buf = []) :
    c.pending.lookup k.id = some i := by
  rcases h.live i k hi hlive hclosed hbuf with hp | ⟨env, hsend⟩
  · exact hp
  · exact absurd (hr.symm.trans hsend) (hs i env)

/-- A step of the reader that leaves the calls and `pending`, and is neither from
nor to a send, nor to the end. -/
theorem move {r : Reader} (h : c.Awaited) (hc : c'.Registered) (hcalls : c'.calls = c.calls)
    (hp : c'.pending = c.pending) (hr : c.reader = r) (hs : ∀ i env, r ≠ .send i env)
    (he : c'.reader.ended = false) : c'.Awaited where
  registered := hc
  live i k hi hlive hclosed hbuf := by
    rw [hcalls] at hi
    rw [hp]
    exact Or.inl (h.lookup_of_live hr hs hi hlive hclosed hbuf)
  ended hend := by
    rw [he] at hend
    cases hend

/-- A call is registered under an id that no other call has. -/
theorem register {k : Call} (h : c.Awaited) (hmu : c.mu = none)
    (hfresh : ∀ g ∈ c.calls, g.id ≠ k.id) :
    ({ c with
      mu := some (.call c.calls.length)
      pending := c.pending.insert k.id c.calls.length
      calls := c.calls ++ [{ k with wait := .make Envelope 1, pc := .encode }] } :
        Client).Awaited where
  registered := h.registered.register hmu
  live i g hi hlive hclosed hbuf := by
    rcases getElem?_concat_cases hi with ⟨rfl, rfl⟩ | hi
    · exact Or.inl (AList.lookup_insert _)
    · rcases h.live i g hi hlive hclosed hbuf with hp | hs
      · refine Or.inl ?_
        rw [AList.lookup_insert_ne (hfresh g (List.mem_of_getElem? hi))]
        exact hp
      · exact Or.inr hs
  ended he id i hp := by
    rcases GoMap.lookup_insert_cases hp with ⟨rfl, rfl⟩ | ⟨-, hp⟩
    · exact ⟨_, List.getElem?_concat_length, rfl⟩
    · obtain ⟨g, hg, hw⟩ := h.ended he id i hp
      exact ⟨g, getElem?_append_of_some _ hg, hw⟩

/-- A step of one call, which keeps its id and, if it does not return, its
channel; after the end of `readLoop` it does not come to wait. -/
theorem set_call {i : ℕ} {k k' : Call} {mu : Option Holder} (h : c.Awaited)
    (hc : ({ c with mu, calls := c.calls.set i k' } : Client).Registered)
    (hi : c.calls[i]? = some k) (hid : k'.id = k.id)
    (hlive : k'.pc.live = true → k.pc.live = true ∧ k'.wait = k.wait)
    (hwaits : c.reader.ended = true → k'.pc.waits = false) :
    ({ c with mu, calls := c.calls.set i k' } : Client).Awaited where
  registered := hc
  live j g hg hgl hclosed hbuf := by
    rcases getElem?_set_cases hg with ⟨rfl, rfl⟩ | ⟨-, hg⟩
    · obtain ⟨hkl, hw⟩ := hlive hgl
      rw [hid]
      exact h.live j k hi hkl (hw ▸ hclosed) (hw ▸ hbuf)
    · exact h.live j g hg hgl hclosed hbuf
  ended he id j hp := by
    obtain ⟨g, hg, hgw⟩ := h.ended he id j hp
    by_cases hj : j = i
    · subst hj
      exact ⟨k', getElem?_set_of_some k' hi, hwaits he⟩
    · exact ⟨g, by rw [List.getElem?_set_ne (Ne.symm hj), hg], hgw⟩

/-- The reader changes the channel of call `i` so that there is something to
receive, and what it takes out of `pending` is the entry of that call. -/
theorem supply {i : ℕ} {k : Call} {w : Chan Envelope 1} {pending : GoMap String ℕ} {next : Reader}
    (h : c.Awaited)
    (hc : ({ c with pending, calls := c.calls.set i { k with wait := w }, reader := next } :
      Client).Registered)
    (hw : w.closed = true ∨ w.buf ≠ [])
    (hs : ∀ j env, c.reader = .send j env → j = i)
    (hp : ∀ id j, j ≠ i → c.pending.lookup id = some j → pending.lookup id = some j)
    (he : next.ended = false) :
    ({ c with pending, calls := c.calls.set i { k with wait := w }, reader := next } :
      Client).Awaited where
  registered := hc
  live j g hg hgl hclosed hbuf := by
    rcases getElem?_set_cases hg with ⟨-, rfl⟩ | ⟨hj, hg⟩
    · rcases hw with hw | hw
      · rw [show w.closed = false from hclosed] at hw
        cases hw
      · exact absurd hbuf hw
    · rcases h.live j g hg hgl hclosed hbuf with hl | ⟨env, hsend⟩
      · exact Or.inl (hp g.id j hj hl)
      · exact absurd (hs j env hsend) hj
  ended hend := by
    rw [show next.ended = true from hend] at he
    cases he

/-- **One step of a client.** -/
theorem step {l : ClientLabel} (h : c.Awaited) (hC : FreshIDs c l ∧ NoLateEncode c l)
    (hq : c.step l = some c') : c'.Awaited := by
  have hstep := Client.step_spec hq
  have hreg := h.registered.step hstep
  clear hq
  cases hstep with
  | register k hmu => exact h.register hmu hC.1.1
  | encoded i k err hi hpc =>
      refine h.set_call hreg hi rfl (fun _ => ⟨by rw [hpc]; rfl, rfl⟩) fun he => ?_
      cases err with
      | none =>
          rw [show c.reader.ended = false from hC.2] at he
          cases he
      | some e => rfl
  | ctxDone i k err hi hpc =>
      exact h.set_call hreg hi rfl (fun hl => by cases hl) fun _ => rfl
  | receive i k env w hi hpc hbuf hclosed =>
      exact h.set_call hreg hi rfl (fun hl => by cases hl) fun _ => rfl
  | receiveEOF i k hi hpc hbuf hclosed =>
      exact h.set_call hreg hi rfl (fun hl => by cases hl) fun _ => rfl
  | setHandler hmu => exact ⟨hreg, h.live, h.ended⟩
  | decoded res hr =>
      refine h.move hreg rfl rfl hr (by simp) ?_
      dsimp only [Reader.afterDecode]
      split
      · rfl
      · split_ifs
        · rfl
        · split <;> rfl
        · rfl
  | lookupHit env i hr hmu hp =>
      refine ⟨hreg, fun j g hg hgl hclosed hbuf => ?_, fun he => by cases he⟩
      have hl := h.lookup_of_live hr (by simp) hg hgl hclosed hbuf
      by_cases hid : g.id = env.id
      · rw [hid, hp] at hl
        exact Or.inr ⟨env, by rw [Option.some.inj hl]⟩
      · refine Or.inl ?_
        rw [AList.lookup_erase_ne hid]
        exact hl
  | lookupMiss env hr hmu hp =>
      exact h.move hreg rfl (GoMap.erase_of_lookup_none hp) hr (by simp) rfl
  | send i env k w hr hi hw =>
      refine h.supply hreg (Or.inr ?_) (fun j e he => ?_) (fun _ _ _ hl => hl) rfl
      · rw [(Chan.send_eq_ok.1 hw).2.2.1]
        simp
      · rw [hr] at he
        exact (Reader.send.inj he).1.symm
  | close i k w hr hi hw =>
      exact h.supply hreg (Or.inl (Chan.close_eq_some.1 hw).2.2) (by simp [hr]) (fun _ _ _ hl => hl)
        rfl
  | getNotify event hr hmu =>
      refine h.move hreg rfl rfl hr (by simp) ?_
      dsimp only
      split_ifs <;> rfl
  | notify event hr => exact h.move hreg rfl rfl hr (by simp) rfl
  | failAll m hr hmu => exact h.move hreg rfl rfl hr (by simp) rfl
  | failDone m hr hp =>
      -- `failAll` is through, so no call is registered
      have hnone : ∀ id, c.pending.lookup id = none := by
        intro id
        rw [AList.lookup_eq_none, AList.mem_keys, hp]
        exact List.not_mem_nil
      refine ⟨hreg, fun j g hg hgl hclosed hbuf => ?_, fun _ id j hj => ?_⟩
      · exact Or.inl (h.lookup_of_live hr (by simp) hg hgl hclosed hbuf)
      · have hj' : c.pending.lookup id = some j := hj
        rw [hnone id] at hj'
        cases hj'
  | failNext id i m hr hp => exact h.move hreg rfl rfl hr (by simp) rfl
  | failSend id i m k w hr hi hw =>
      refine h.supply hreg (Or.inr ?_) (by simp [hr]) (fun _ _ _ hl => hl) rfl
      rw [(Chan.send_eq_ok.1 hw).2.2.1]
      simp
  | failClose id i m k w hr hi hw =>
      have hp := h.registered.failing id i m (Or.inr hr)
      refine h.supply hreg (Or.inl (Chan.close_eq_some.1 hw).2.2) (by simp [hr])
        (fun id' j hj hl => ?_) rfl
      rw [AList.lookup_erase_ne]
      · exact hl
      · rintro rfl
        rw [hp] at hl
        exact hj (Option.some.inj hl).symm
  | panic i k c' hr hi hclosed hc' => exact absurd hclosed (h.registered.not_closed hr hi)

end Client.Awaited

/-- **While no request is accepted after the end of the output, no call is
abandoned.**  In every run of a client in which `NewID` returns fresh ids and no
`Encode` succeeds after the end of `readLoop`, every call that waits after that
end has something to receive. -/
theorem noneAbandoned_of_noLateEncode {c : Client} {l : List ClientLabel}
    (hl : Along Client.step (fun c l => FreshIDs c l ∧ NoLateEncode c l) {} l)
    (h : exec Client.step {} l = some c) : NoneAbandoned c := by
  have hinit : Client.Awaited {} :=
    ⟨.init, fun _ _ h => by simp at h, fun h => by cases h⟩
  have hc : c.Awaited := exec_invariant (fun _ _ _ hs hC hq => hs.step hC hq) hinit hl h
  intro he k hk hw
  obtain ⟨i, hi⟩ := List.mem_iff_getElem?.1 hk
  by_contra hnone
  rw [not_or, Nat.not_lt, Nat.le_zero, List.length_eq_zero_iff, Bool.not_eq_true] at hnone
  have hlive : k.pc.live = true := by
    cases hpc : k.pc with
    | encode | select => rfl
    | returned res =>
        rw [hpc] at hw
        cases hw
  rcases hc.live i k hi hlive hnone.2 hnone.1 with hp | ⟨env, hsend⟩
  · obtain ⟨g, hg, hgw⟩ := hc.ended he k.id i hp
    obtain rfl : k = g := Option.mem_unique hi hg
    rw [hw] at hgw
    cases hgw
  · rw [hsend] at he
    cases he

/-- A call that waits when the output ends, and one that finds the agent's stdin
closed afterwards. -/
def callsAtTheEnd : List ClientLabel :=
  [.call { id := "rpc_1" }, .encoded 0 none, .decoded (.error .eof), .read, .fail "rpc_1", .read,
    .read, .read, .call { id := "rpc_2" }, .encoded 1 (some "file already closed")]

/-- `noneAbandoned_of_noLateEncode` applies to these calls. -/
theorem callsAtTheEnd_none_abandoned :
    ∃ c ∈ exec Client.step {} callsAtTheEnd, NoneAbandoned c := by
  obtain ⟨c, hc⟩ := Option.isSome_iff_exists.1
    (show (exec Client.step {} callsAtTheEnd).isSome = true by decide)
  exact ⟨c, hc, noneAbandoned_of_noLateEncode (by decide) hc⟩

/-- A call whose request is still accepted after the agent wrote something that
is not a message. -/
def lateCall : List ClientLabel :=
  [.decoded (.error (.other "invalid character")), .read, .read,
    .call { id := "rpc_1", method := "session/prompt" }, .encoded 0 none]

/-- **A late call is abandoned.**  It is registered, it waits on an open and empty
channel, and the reader is over. -/
theorem lateCall_abandoned :
    Along Client.step FreshIDs {} lateCall ∧
      ∃ c ∈ exec Client.step {} lateCall, c.pending.lookup "rpc_1" = some 0 ∧ ¬NoneAbandoned c := by
  decide

end Acp
end Agentd
