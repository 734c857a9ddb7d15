/-
# The ACP client over stdio

`acp/stdio.go`: `StdioClient`.  Calls register a channel under a fresh id, write
their request and wait; one goroutine, `readLoop`, reads the agent's messages and
hands each response to the call that waits for it, and fails every call that
still waits when the output ends.

A step is what happens between two points at which another goroutine may come
in.  A critical section of `c.mu` that does nothing but look at the map is one
step; `call` holds the lock over `Encode`, and `failAll` over its whole loop, so
these are several steps with the lock held.  Sends and closes of `readLoop` are
steps of their own, outside the lock.  `call` creates its id and its channel in
the step that registers them, since nobody sees them before.

What the surroundings decide is in the label: the result of `Encode` and of
`Decode`, the end of a context, and which entry the `range` of `failAll` comes to
next.  A `json.RawMessage` is kept as its text with the `StreamEvent` it
unmarshals to, if it does.
-/

import Agentd.Concurrency.Chan
import Agentd.Concurrency.Runs
import Agentd.Control.Types

namespace Agentd
namespace Acp

open Control Concurrency

/-- `StreamEvent`. -/
structure StreamEvent where
  sessionID : String := ""
  runID : String := ""
  type : String := ""
  text : String := ""
  metadata : AnyMap := ∅
  final : Bool := false
  error : String := ""

/-- `json.RawMessage`: the text, and the event it unmarshals to. -/
structure RawMessage where
  text : String := ""
  event : Option StreamEvent := none

/-- `rpcError`. -/
structure RpcError where
  code : ℤ
  message : String

/-- `rpcEnvelope`. -/
structure Envelope where
  jsonrpc : String := ""
  id : String := ""
  method : String := ""
  params : RawMessage := {}
  result : RawMessage := {}
  error : Option RpcError := none

/-- An error of `Decode`: the end of the output, or any other by its text. -/
inductive DecodeErr
  | eof
  | other (text : String)

/-- Where a call stands: it writes its request with the lock held, it waits, or
it has returned. -/
inductive CallPC
  | encode
  | select
  | returned (res : Except String Unit)

/-- A call, from the step that registers it on.  `unmarshal` is the error of
`json.Unmarshal` into `out`, if there is one; without an `out` there is none. -/
structure Call where
  id : String
  method : String := ""
  params : RawMessage := {}
  unmarshal : RawMessage → Option String := fun _ => none
  wait : Chan Envelope 1 := .make Envelope 1
  pc : CallPC := .encode

/-- The envelope a call writes. -/
def Call.request (k : Call) : Envelope :=
  { jsonrpc := "2.0", id := k.id, method := k.method, params := k.params }

/-- What a call returns for the envelope it is handed. -/
def Call.reply (k : Call) (env : Envelope) : Except String Unit :=
  match env.error with
  | some e => .error ("acp " ++ k.method ++ ": " ++ e.message)
  | none =>
      match if env.result.text = "" then none else k.unmarshal env.result with
      | some e => .error e
      | none => .ok ()

/-- Where `readLoop` stands: before `Decode`; with an envelope that has an id,
before the lock, the send and the close; with an event, before the lock and the
call of the handler; in `failAll` before the lock, in the loop, and before the
send and the close of one entry; at its end; or after a panic. -/
inductive Reader
  | decode
  | lookup (env : Envelope)
  | send (i : ℕ) (env : Envelope)
  | close (i : ℕ)
  | getNotify (event : StreamEvent)
  | notify (event : StreamEvent)
  | failAll (message : String)
  | failNext (message : String)
  | failSend (id : String) (i : ℕ) (message : String)
  | failClose (id : String) (i : ℕ) (message : String)
  | done
  | panic

/-- Who holds `c.mu`. -/
inductive Holder
  | call (i : ℕ)
  | reader
  deriving DecidableEq

/-- `StdioClient`, with its calls and its reader.  `pending` maps an id to the
number of the call whose channel is registered; `notify` says whether a handler
is set and `events` what it was called with. -/
structure Client where
  mu : Option Holder := none
  pending : GoMap String ℕ := ∅
  calls : List Call := []
  reader : Reader := .decode
  notify : Bool := false
  events : List StreamEvent := []

/-- The envelope `failAll` sends for an id. -/
def failure (id message : String) : Envelope :=
  { id, error := some { code := -32000, message } }

/-- The text of the error in `failAll`. -/
def DecodeErr.message : DecodeErr → String
  | .eof => "acp subprocess exited"
  | .other text => text

/-- Where `readLoop` goes with the result of `Decode`. -/
def Reader.afterDecode : Except DecodeErr Envelope → Reader
  | .error e => .failAll e.message
  | .ok env =>
      if env.id ≠ "" then .lookup env
      else if env.method = "session/update" then
        match env.params.event with
        | some event => .getNotify event
        | none => .decode
      else .decode

/-- What happens next to a client. -/
inductive ClientLabel
  | call (k : Call)
  | encoded (i : ℕ) (err : Option String)
  | ctxDone (i : ℕ) (err : String)
  | receive (i : ℕ)
  | setNotificationHandler
  | decoded (res : Except DecodeErr Envelope)
  | read
  | fail (id : String)

namespace Client

/-- `call` takes the lock and registers itself. -/
def register (c : Client) (k : Call) : Option Client :=
  if c.mu = none then
    some
      { c with
        mu := some (.call c.calls.length)
        pending := c.pending.insert k.id c.calls.length
        calls := c.calls ++ [{ k with wait := .make Envelope 1, pc := .encode }] }
  else none

/-- `Encode` of call `i` ends, and the lock is given back. -/
def encoded (c : Client) (i : ℕ) (err : Option String) : Option Client :=
  c.calls[i]?.bind fun k =>
    match k.pc with
    | .encode =>
        some
          { c with
            mu := none
            calls := c.calls.set i
              { k with pc := err.elim .select fun e => .returned (.error e) } }
    | _ => none

/-- The context of call `i` ends while it waits. -/
def ctxDone (c : Client) (i : ℕ) (err : String) : Option Client :=
  c.calls[i]?.bind fun k =>
    match k.pc with
    | .select => some { c with calls := c.calls.set i { k with pc := .returned (.error err) } }
    | _ => none

/-- Call `i` receives from its channel while it waits. -/
def receive (c : Client) (i : ℕ) : Option Client :=
  c.calls[i]?.bind fun k =>
    match k.pc with
    | .select =>
        match k.wait.recv with
        | .value env w =>
            some { c with calls := c.calls.set i { k with wait := w, pc := .returned (k.reply env) } }
        | .closed => some { c with calls := c.calls.set i { k with pc := .returned (.error "EOF") } }
        | .empty => none
    | _ => none

/-- The reader sends on the channel of call `i` and goes on at `next`; on a full
channel it waits. -/
def send (c : Client) (i : ℕ) (env : Envelope) (next : Reader) : Option Client :=
  c.calls[i]?.bind fun k =>
    match k.wait.send env with
    | .ok w => some { c with calls := c.calls.set i { k with wait := w }, reader := next }
    | .full => none
    | .panic => some { c with reader := .panic }

/-- The reader closes the channel of call `i` and goes on at `next`. -/
def close (c : Client) (i : ℕ) (next : Reader) : Option Client :=
  c.calls[i]?.map fun k =>
    match k.wait.close with
    | some w => { c with calls := c.calls.set i { k with wait := w }, reader := next }
    | none => { c with reader := .panic }

/-- The next step of `readLoop`, when it is not at `Decode`. -/
def read (c : Client) : Option Client :=
  match c.reader with
  | .lookup env =>
      if c.mu = none then
        some
          { c with
            pending := c.pending.erase env.id
            reader := (c.pending.lookup env.id).elim .decode fun i => .send i env }
      else none
  | .send i env => c.send i env (.close i)
  | .close i => c.close i .decode
  | .getNotify event =>
      if c.mu = none then some { c with reader := if c.notify then .notify event else .decode }
      else none
  | .notify event => some { c with events := c.events ++ [event], reader := .decode }
  | .failAll message =>
      if c.mu = none then some { c with mu := some .reader, reader := .failNext message } else none
  | .failNext _ => if c.pending.keys = [] then some { c with mu := none, reader := .done } else none
  | .failSend id i message => c.send i (failure id message) (.failClose id i message)
  | .failClose id i message =>
      ({ c with pending := c.pending.erase id } : Client).close i (.failNext message)
  | .decode | .done | .panic => none

/-- One step of a client. -/
def step (c : Client) : ClientLabel → Option Client
  | .call k => c.register k
  | .encoded i err => c.encoded i err
  | .ctxDone i err => c.ctxDone i err
  | .receive i => c.receive i
  | .setNotificationHandler => if c.mu = none then some { c with notify := true } else none
  | .decoded res =>
      match c.reader with
      | .decode => some { c with reader := .afterDecode res }
      | _ => none
  | .read => c.read
  | .fail id =>
      match c.reader with
      | .failNext message =>
          (c.pending.lookup id).map fun i => { c with reader := .failSend id i message }
      | _ => none

end Client

/-- The id of the envelope that the reader is about to look up. -/
def Reader.holds : Reader → Option String
  | .lookup env => some env.id
  | _ => none

/-- `NewID` returns fresh ids: the id of a new call is not the id of an earlier
call, and the envelope that the reader has decoded does not carry it. -/
def FreshIDs (c : Client) : ClientLabel → Prop
  | .call k => (∀ g ∈ c.calls, g.id ≠ k.id) ∧ c.reader.holds ≠ some k.id
  | _ => True

instance (c : Client) : DecidablePred (FreshIDs c)
  | .call k => inferInstanceAs (Decidable ((∀ g ∈ c.calls, g.id ≠ k.id) ∧ _ ≠ _))
  | .encoded .. | .ctxDone .. | .receive _ | .setNotificationHandler | .decoded _ | .read
  | .fail _ => isTrue trivial

/-- The channel the reader is about to send on or to close. -/
def Reader.channel : Reader → Option ℕ
  | .send i _ | .close i | .failSend _ i _ | .failClose _ i _ => some i
  | _ => none

/-- **What a step of a client can be**, with what has to hold for it.  The last
constructor is every way in which a send or a close of the reader panics. -/
inductive Client.Step (c : Client) : ClientLabel → Client → Prop
  | register (k : Call) (hmu : c.mu = none) :
      Step c (.call k)
        { c with
          mu := some (.call c.calls.length)
          pending := c.pending.insert k.id c.calls.length
          calls := c.calls ++ [{ k with wait := .make Envelope 1, pc := .encode }] }
  | encoded (i : ℕ) (k : Call) (err : Option String) (hi : c.calls[i]? = some k)
      (hpc : k.pc = .encode) :
      Step c (.encoded i err)
        { c with
          mu := none
          calls := c.calls.set i { k with pc := err.elim .select fun e => .returned (.error e) } }
  | ctxDone (i : ℕ) (k : Call) (err : String) (hi : c.calls[i]? = some k) (hpc : k.pc = .select) :
      Step c (.ctxDone i err)
        { c with calls := c.calls.set i { k with pc := .returned (.error err) } }
  | receive (i : ℕ) (k : Call) (env : Envelope) (w : Chan Envelope 1) (hi : c.calls[i]? = some k)
      (hpc : k.pc = .select) (hbuf : k.wait.buf = env :: w.buf)
      (hclosed : w.closed = k.wait.closed) :
      Step c (.receive i)
        { c with calls := c.calls.set i { k with wait := w, pc := .returned (k.reply env) } }
  | receiveEOF (i : ℕ) (k : Call) (hi : c.calls[i]? = some k) (hpc : k.pc = .select)
      (hbuf : k.wait.buf = []) (hclosed : k.wait.closed = true) :
      Step c (.receive i) { c with calls := c.calls.set i { k with pc := .returned (.error "EOF") } }
  | setHandler (hmu : c.mu = none) : Step c .setNotificationHandler { c with notify := true }
  | decoded (res : Except DecodeErr Envelope) (hr : c.reader = .decode) :
      Step c (.decoded res) { c with reader := .afterDecode res }
  | lookupHit (env : Envelope) (i : ℕ) (hr : c.reader = .lookup env) (hmu : c.mu = none)
      (hp : c.pending.lookup env.id = some i) :
      Step c .read { c with pending := c.pending.erase env.id, reader := .send i env }
  | lookupMiss (env : Envelope) (hr : c.reader = .lookup env) (hmu : c.mu = none)
      (hp : c.pending.lookup env.id = none) :
      Step c .read { c with pending := c.pending.erase env.id, reader := .decode }
  | send (i : ℕ) (env : Envelope) (k : Call) (w : Chan Envelope 1) (hr : c.reader = .send i env)
      (hi : c.calls[i]? = some k) (hw : k.wait.send env = .ok w) :
      Step c .read { c with calls := c.calls.set i { k with wait := w }, reader := .close i }
  | close (i : ℕ) (k : Call) (w : Chan Envelope 1) (hr : c.reader = .close i)
      (hi : c.calls[i]? = some k) (hw : k.wait.close = some w) :
      Step c .read { c with calls := c.calls.set i { k with wait := w }, reader := .decode }
  | getNotify (event : StreamEvent) (hr : c.reader = .getNotify event) (hmu : c.mu = none) :
      Step c .read { c with reader := if c.notify then .notify event else .decode }
  | notify (event : StreamEvent) (hr : c.reader = .notify event) :
      Step c .read { c with events := c.events ++ [event], reader := .decode }
  | failAll (message : String) (hr : c.reader = .failAll message) (hmu : c.mu = none) :
      Step c .read { c with mu := some .reader, reader := .failNext message }
  | failDone (message : String) (hr : c.reader = .failNext message) (hp : c.pending.keys = []) :
      Step c .read { c with mu := none, reader := .done }
  | failNext (id : String) (i : ℕ) (message : String) (hr : c.reader = .failNext message)
      (hp : c.pending.lookup id = some i) :
      Step c (.fail id) { c with reader := .failSend id i message }
  | failSend (id : String) (i : ℕ) (message : String) (k : Call) (w : Chan Envelope 1)
      (hr : c.reader = .failSend id i message) (hi : c.calls[i]? = some k)
      (hw : k.wait.send (failure id message) = .ok w) :
      Step c .read
        { c with calls := c.calls.set i { k with wait := w }, reader := .failClose id i message }
  | failClose (id : String) (i : ℕ) (message : String) (k : Call) (w : Chan Envelope 1)
      (hr : c.reader = .failClose id i message) (hi : c.calls[i]? = some k)
      (hw : k.wait.close = some w) :
      Step c .read
        { c with
          pending := c.pending.erase id
          calls := c.calls.set i { k with wait := w }
          reader := .failNext message }
  | panic (i : ℕ) (k : Call) (c' : Client) (hr : c.reader.channel = some i)
      (hi : c.calls[i]? = some k) (hclosed : k.wait.closed = true) (hc' : c'.reader = .panic) :
      Step c .read c'

/-- A send of the reader goes through or panics. -/
theorem Client.send_eq_some {c c' : Client} {i : ℕ} {env : Envelope} {next : Reader}
    (h : c.send i env next = some c') :
    ∃ k, c.calls[i]? = some k ∧
      ((∃ w, k.wait.send env = .ok w ∧
          c' = { c with calls := c.calls.set i { k with wait := w }, reader := next }) ∨
        k.wait.closed = true ∧ c'.reader = .panic) := by
  obtain ⟨k, hi, hk⟩ := Option.bind_eq_some_iff.1 h
  refine ⟨k, hi, ?_⟩
  split at hk
  · next w hw => exact Or.inl ⟨w, hw, (Option.some.inj hk).symm⟩
  · cases hk
  · next hw => exact Or.inr ⟨Chan.send_eq_panic.1 hw, Option.some.inj hk ▸ rfl⟩

/-- A close of the reader goes through or panics. -/
theorem Client.close_eq_some {c c' : Client} {i : ℕ} {next : Reader}
    (h : c.close i next = some c') :
    ∃ k, c.calls[i]? = some k ∧
      ((∃ w, k.wait.close = some w ∧
          c' = { c with calls := c.calls.set i { k with wait := w }, reader := next }) ∨
        k.wait.closed = true ∧ c'.reader = .panic) := by
  obtain ⟨k, hi, hk⟩ := Option.map_eq_some_iff.1 h
  refine ⟨k, hi, ?_⟩
  split at hk
  · next w hw => exact Or.inl ⟨w, hw, hk.symm⟩
  · next hw =>
      unfold Chan.close at hw
      split_ifs at hw with hc
      exact Or.inr ⟨hc, hk ▸ rfl⟩

theorem Client.step_of_read {c c' : Client} (h : c.read = some c') : c.Step .read c' := by
  unfold Client.read at h
  split at h
  · next env hr =>
      obtain ⟨hmu, hc⟩ := Option.ite_none_right_eq_some.1 h
      obtain rfl := Option.some.inj hc
      cases hp : c.pending.lookup env.id with
      | none => exact .lookupMiss env hr hmu hp
      | some i => exact .lookupHit env i hr hmu hp
  · next i env hr =>
      obtain ⟨k, hi, ⟨w, hw, rfl⟩ | ⟨hclosed, hc'⟩⟩ := Client.send_eq_some h
      · exact .send i env k w hr hi hw
      · exact .panic i k c' (by rw [hr]; rfl) hi hclosed hc'
  · next i hr =>
      obtain ⟨k, hi, ⟨w, hw, rfl⟩ | ⟨hclosed, hc'⟩⟩ := Client.close_eq_some h
      · exact .close i k w hr hi hw
      · exact .panic i k c' (by rw [hr]; rfl) hi hclosed hc'
  · next event hr =>
      obtain ⟨hmu, hc⟩ := Option.ite_none_right_eq_some.1 h
      obtain rfl := Option.some.inj hc
      exact .getNotify event hr hmu
  · next event hr =>
      obtain rfl := Option.some.inj h
      exact .notify event hr
  · next message hr =>
      obtain ⟨hmu, hc⟩ := Option.ite_none_right_eq_some.1 h
      obtain rfl := Option.some.inj hc
      exact .failAll message hr hmu
  · next message hr =>
      obtain ⟨hp, hc⟩ := Option.ite_none_right_eq_some.1 h
      obtain rfl := Option.some.inj hc
      exact .failDone message hr hp
  · next id i message hr =>
      obtain ⟨k, hi, ⟨w, hw, rfl⟩ | ⟨hclosed, hc'⟩⟩ := Client.send_eq_some h
      · exact .failSend id i message k w hr hi hw
      · exact .panic i k c' (by rw [hr]; rfl) hi hclosed hc'
  · next id i message hr =>
      obtain ⟨k, hi, ⟨w, hw, rfl⟩ | ⟨hclosed, hc'⟩⟩ := Client.close_eq_some h
      · exact .failClose id i message k w hr hi hw
      · exact .panic i k c' (by rw [hr]; rfl) hi hclosed hc'
  · cases h
  · cases h
  · cases h

/-- **Every step is one of the listed ones.** -/
theorem Client.step_spec {c c' : Client} {l : ClientLabel} (h : c.step l = some c') :
    c.Step l c' := by
  cases l with
  | call k =>
      obtain ⟨hmu, hc⟩ := Option.ite_none_right_eq_some.1 h
      obtain rfl := Option.some.inj hc
      exact .register k hmu
  | encoded i err =>
      obtain ⟨k, hi, hk⟩ := Option.bind_eq_some_iff.1 h
      split at hk
      · next hpc =>
          obtain rfl := Option.some.inj hk
          exact .encoded i k err hi hpc
      · cases hk
  | ctxDone i err =>
      obtain ⟨k, hi, hk⟩ := Option.bind_eq_some_iff.1 h
      split at hk
      · next hpc =>
          obtain rfl := Option.some.inj hk
          exact .ctxDone i k err hi hpc
      · cases hk
  | receive i =>
      obtain ⟨k, hi, hk⟩ := Option.bind_eq_some_iff.1 h
      split at hk
      · next hpc =>
          split at hk
          · next env w hw =>
              obtain ⟨hbuf, hclosed⟩ := Chan.recv_eq_value.1 hw
              obtain rfl := Option.some.inj hk
              exact .receive i k env w hi hpc hbuf hclosed
          · next hw =>
              obtain ⟨hbuf, hclosed⟩ := Chan.recv_eq_closed.1 hw
              obtain rfl := Option.some.inj hk
              exact .receiveEOF i k hi hpc hbuf hclosed
          · cases hk
      · cases hk
  | setNotificationHandler =>
      obtain ⟨hmu, hc⟩ := Option.ite_none_right_eq_some.1 h
      obtain rfl := Option.some.inj hc
      exact .setHandler hmu
  | decoded res =>
      simp only [Client.step] at h
      split at h
      · next hr =>
          obtain rfl := Option.some.inj h
          exact .decoded res hr
      · cases h
  | read => exact Client.step_of_read h
  | fail id =>
      simp only [Client.step] at h
      split at h
      · next message hr =>
          obtain ⟨i, hp, rfl⟩ := Option.map_eq_some_iff.1 h
          exact .failNext id i message hr hp
      · cases h

end Acp
end Agentd
