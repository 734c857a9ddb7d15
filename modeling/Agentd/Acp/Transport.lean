/-
# The pipes under the ACP client

The client of `Agentd.Acp.Stdio` with what its labels left to the surroundings:
the stdin and the stdout of the agent as pipes of finite capacity, the encoder
and the decoder that move a message through them piece by piece, and the agent,
which reads one request, then writes any finite number of messages, and does not
read while it writes.  Every step of a transport is a step of its client or none
(`Transport.step_client`), so what holds of the client holds here.

`call` holds `c.mu` while it writes its request, and `readLoop` needs `c.mu` for
every message it hands on.  So a call that waits for room in stdin, a reader that
waits for the lock and an agent that waits for room in stdout can wait for each
other (`bigRequest_deadlocks`).

`Doomed` is the state in which this can no longer be avoided: the reader waits
for a call, the call has more to write than stdin can take and the agent more
than stdout can take.  From there the deadlock is reached by writing alone
(`Doomed.reaches_deadlock`), and a run that never becomes doomed never deadlocks
(`not_deadlocked_of_room`).
-/

import Agentd.Acp.Registered

namespace Agentd
namespace Acp

open Control Concurrency

/-- What a pipe carries for a message: the message, or something that `Decode`
refuses. -/
abbrev Msg : Type := Except DecodeErr Envelope

/-- A piece of a message in a pipe.  The message is complete with its last
piece. -/
inductive Cell
  | part
  | last (m : Msg)

/-- A message of `size m + 1` pieces. -/
def cells (size : Msg → ℕ) (m : Msg) : List Cell := List.replicate (size m) .part ++ [.last m]

/-- The agent reads a request, has pieces left to write, or has exited. -/
inductive Agent
  | reading
  | writing (out : List Cell)
  | exited

/-- What the agent has left to write. -/
def Agent.out : Agent → List Cell
  | .writing out => out
  | _ => []

/-- The agent with pieces to write, or back at its read. -/
def Agent.next : List Cell → Agent
  | [] => .reading
  | out => .writing out

/-- A client, the pieces its encoder has left to write, the pipes, the pieces its
decoder has read ahead, and the agent. -/
structure Transport (capIn capOut : ℕ) where
  client : Client := {}
  encoding : List Cell := []
  stdin : Chan Cell capIn := .make Cell capIn
  stdout : Chan Cell capOut := .make Cell capOut
  decoder : List Cell := []
  agent : Agent := .reading

/-- The first complete message among the pieces, and the pieces after it. -/
def takeMessage : List Cell → Option (Msg × List Cell)
  | [] => none
  | .part :: rest => takeMessage rest
  | .last m :: rest => some (m, rest)

/-- What happens next in a transport. -/
inductive TransportLabel
  | call (k : Call)
  | write
  | encoded (i : ℕ)
  | writeFailed (i : ℕ) (err : String)
  | fill
  | decode
  | eof
  | agentRead (burst : List Msg)
  | agentWrite
  | exit
  | ctxDone (i : ℕ) (err : String)
  | receive (i : ℕ)
  | setNotificationHandler
  | read
  | fail (id : String)

namespace Transport

variable {capIn capOut : ℕ}

/-- A step of the client that leaves the pipes. -/
def clientStep (s : Transport capIn capOut) (l : ClientLabel) : Option (Transport capIn capOut) :=
  (s.client.step l).map fun c => { s with client := c }

/-- `Encode` writes one piece into stdin; on a full pipe it waits. -/
def write (s : Transport capIn capOut) : Option (Transport capIn capOut) :=
  match s.client.mu, s.encoding with
  | some (.call _), cell :: rest =>
      match s.stdin.send cell with
      | .ok p => some { s with stdin := p, encoding := rest }
      | _ => none
  | _, _ => none

/-- `Decode` reads one piece of stdout ahead; it may read beyond the message it
is at. -/
def fill (s : Transport capIn capOut) : Option (Transport capIn capOut) :=
  match s.client.reader, s.stdout.recv with
  | .decode, .value cell p => some { s with stdout := p, decoder := s.decoder ++ [cell] }
  | _, _ => none

/-- `Decode` returns the next message. -/
def decode (s : Transport capIn capOut) : Option (Transport capIn capOut) :=
  (takeMessage s.decoder).bind fun r =>
    (s.client.step (.decoded r.1)).map fun c => { s with client := c, decoder := r.2 }

/-- `Decode` meets the end of the output, in the middle of a message or not. -/
def eof (s : Transport capIn capOut) : Option (Transport capIn capOut) :=
  match s.agent, s.stdout.buf, takeMessage s.decoder with
  | .exited, [], none =>
      s.clientStep (.decoded (.error (if s.decoder.length = 0 then .eof else .other "unexpected EOF")))
  | _, _, _ => none

/-- The agent reads one piece of stdin.  With the last piece of a request it goes
on to write the messages of `burst`. -/
def agentRead (size : Msg → ℕ) (s : Transport capIn capOut) (burst : List Msg) :
    Option (Transport capIn capOut) :=
  match s.agent, s.stdin.recv with
  | .reading, .value .part p => some { s with stdin := p }
  | .reading, .value (.last _) p =>
      some { s with stdin := p, agent := .next (burst.flatMap (cells size)) }
  | _, _ => none

/-- The agent writes one piece into stdout; on a full pipe it waits. -/
def agentWrite (s : Transport capIn capOut) : Option (Transport capIn capOut) :=
  match s.agent with
  | .writing (cell :: rest) =>
      match s.stdout.send cell with
      | .ok p => some { s with stdout := p, agent := .next rest }
      | _ => none
  | _ => none

/-- One step of a transport. -/
def step (size : Msg → ℕ) (s : Transport capIn capOut) :
    TransportLabel → Option (Transport capIn capOut)
  | .call k =>
      (s.client.step (.call k)).map fun c =>
        { s with client := c, encoding := cells size (.ok k.request) }
  | .write => s.write
  | .encoded i => if s.encoding.length = 0 then s.clientStep (.encoded i none) else none
  | .writeFailed i err =>
      match s.agent with
      | .exited =>
          (s.client.step (.encoded i (some err))).map fun c =>
            { s with client := c, encoding := [] }
      | _ => none
  | .fill => s.fill
  | .decode => s.decode
  | .eof => s.eof
  | .agentRead burst => s.agentRead size burst
  | .agentWrite => s.agentWrite
  | .exit => some { s with agent := .exited }
  | .ctxDone i err => s.clientStep (.ctxDone i err)
  | .receive i => s.clientStep (.receive i)
  | .setNotificationHandler => s.clientStep .setNotificationHandler
  | .read => s.clientStep .read
  | .fail id => s.clientStep (.fail id)

/-- A call holds the lock. -/
def lockedByCall (s : Transport capIn capOut) : Bool :=
  match s.client.mu with
  | some (.call _) => true
  | _ => false

/-- The next piece in stdin is the last one of a request. -/
def completes (s : Transport capIn capOut) : Bool :=
  match s.stdin.buf with
  | .last _ :: _ => true
  | _ => false

end Transport

/-- The next step of the reader needs the lock. -/
def Reader.needsLock : Reader → Bool
  | .lookup _ | .getNotify _ | .failAll _ => true
  | _ => false

section

variable {capIn capOut : ℕ}

/-- A call waits in `Encode` for room in stdin with the lock held, the reader
waits for the lock, and the agent waits for room in stdout. -/
def Deadlocked (s : Transport capIn capOut) : Prop :=
  (s.lockedByCall = true ∧ 0 < s.encoding.length ∧ s.stdin.buf.length = capIn) ∧
    s.client.reader.needsLock = true ∧ 0 < s.agent.out.length ∧ s.stdout.buf.length = capOut

instance (s : Transport capIn capOut) : Decidable (Deadlocked s) :=
  inferInstanceAs (Decidable (_ ∧ _))

/-- With `enc` pieces for stdin and `out` pieces for stdout to come, one of the
two fits into its pipe. -/
def Fits (s : Transport capIn capOut) (enc taken out : ℕ) : Prop :=
  enc + s.stdin.buf.length ≤ capIn + taken ∨ out + s.stdout.buf.length ≤ capOut

instance (s : Transport capIn capOut) (enc taken out : ℕ) : Decidable (Fits s enc taken out) :=
  inferInstanceAs (Decidable (_ ∨ _))

/-- Where the reader comes to wait for a call, or waits for one already, there is
room for what the call has to write or for what the agent has to write: when a
call takes the lock while the reader wants it, when the reader decodes a message
that needs the lock while a call holds it, and when the agent takes up a request
while the reader waits.  The piece that the agent takes then leaves stdin. -/
def Room (size : Msg → ℕ) (s : Transport capIn capOut) : TransportLabel → Prop
  | .call k => s.client.reader.needsLock = true →
      Fits s (cells size (.ok k.request)).length 0 s.agent.out.length
  | .decode => s.lockedByCall = true → ∀ r ∈ takeMessage s.decoder,
      (Reader.afterDecode r.1).needsLock = true → Fits s s.encoding.length 0 s.agent.out.length
  | .agentRead burst => s.lockedByCall = true → s.client.reader.needsLock = true →
      s.completes = true → Fits s s.encoding.length 1 (burst.flatMap (cells size)).length
  | _ => True

instance (size : Msg → ℕ) (s : Transport capIn capOut) : DecidablePred (Room size s)
  | .call _ => inferInstanceAs (Decidable (_ → _))
  | .decode => inferInstanceAs (Decidable (_ → ∀ r ∈ takeMessage s.decoder, _))
  | .agentRead _ => inferInstanceAs (Decidable (_ → _ → _ → _))
  | .write | .encoded _ | .writeFailed .. | .fill | .eof | .agentWrite | .exit | .ctxDone ..
  | .receive _ | .setNotificationHandler | .read | .fail _ => isTrue trivial

/-- The reader waits for a call, and neither the rest of its request nor the rest
of what the agent writes fits into its pipe. -/
structure Doomed (s : Transport capIn capOut) : Prop where
  locked : s.lockedByCall = true
  waits : s.client.reader.needsLock = true
  stdin : capIn < s.encoding.length + s.stdin.buf.length
  stdout : capOut < s.agent.out.length + s.stdout.buf.length

theorem Deadlocked.doomed {s : Transport capIn capOut} (h : Deadlocked s) : Doomed s := by
  obtain ⟨⟨hlock, henc, hin⟩, hwaits, hout, hfull⟩ := h
  exact ⟨hlock, hwaits, by omega, by omega⟩

/-- A reader that wants the lock while a call holds it: it has just decoded a
message, a call has just taken the lock, or it wanted the lock before. -/
theorem Client.Step.wants_lock {c c' : Client} {l : ClientLabel} {i : ℕ} (h : c.Step l c')
    (hw : c'.reader.needsLock = true) (hmu : c'.mu = some (.call i)) :
    (∃ k, l = .call k ∧ c'.reader = c.reader) ∨
      (∃ res, l = .decoded res ∧ c'.reader = .afterDecode res ∧ c'.mu = c.mu) ∨
        c'.reader = c.reader ∧ c'.mu = c.mu := by
  cases h with
  | register k hmu => exact Or.inl ⟨k, rfl, rfl⟩
  | decoded res hr => exact Or.inr (Or.inl ⟨res, rfl, rfl, rfl⟩)
  | ctxDone i k err hi hpc | receive i k env w hi hpc hbuf hclosed
  | receiveEOF i k hi hpc hbuf hclosed => exact Or.inr (Or.inr ⟨rfl, rfl⟩)
  | encoded i k err hi hpc => cases hmu
  | setHandler hnone => exact Or.inr (Or.inr ⟨rfl, rfl⟩)
  | getNotify event hr hmu =>
      dsimp only at hw
      split_ifs at hw <;> cases hw
  | lookupHit env i hr hmu hp | lookupMiss env hr hmu hp | send i env k w hr hi hw'
  | close i k w hr hi hw' | notify event hr | failAll m hr hmu | failDone m hr hp
  | failNext id i m hr hp | failSend id i m k w hr hi hw' | failClose id i m k w hr hi hw' =>
      cases hw
  | panic i k c' hr hi hclosed hc' =>
      rw [hc'] at hw
      cases hw

theorem Transport.lockedByCall_iff {s : Transport capIn capOut} :
    s.lockedByCall = true ↔ ∃ i, s.client.mu = some (.call i) := by
  unfold Transport.lockedByCall
  constructor
  · intro h
    split at h
    · next i hmu => exact ⟨i, hmu⟩
    · cases h
  · rintro ⟨i, hmu⟩
    rw [hmu]

theorem Doomed.writing {s : Transport capIn capOut} (h : Doomed s) : s.agent.out.length ≠ 0 := by
  intro hout
  have hbound := s.stdout.bounded
  have hover := h.stdout
  omega

@[simp] theorem Agent.out_next (out : List Cell) : (Agent.next out).out = out := by
  cases out <;> rfl

/-- A step of the client that is not a new call and not a decoded message. -/
theorem Doomed.of_clientStep {s s' : Transport capIn capOut} {l : ClientLabel} (h : Doomed s')
    (hs : s.clientStep l = some s') (hcall : ∀ k, l ≠ .call k) (hdec : ∀ res, l ≠ .decoded res) :
    Doomed s := by
  obtain ⟨c, hc, rfl⟩ := Option.map_eq_some_iff.1 hs
  obtain ⟨i, hmu⟩ := Transport.lockedByCall_iff.1 h.locked
  rcases (Client.step_spec hc).wants_lock h.waits hmu with ⟨k, rfl, -⟩ | ⟨res, rfl, -⟩ | ⟨hr, hmu'⟩
  · exact absurd rfl (hcall k)
  · exact absurd rfl (hdec res)
  · exact ⟨Transport.lockedByCall_iff.2 ⟨i, hmu' ▸ hmu⟩, hr ▸ h.waits, h.stdin, h.stdout⟩

section

variable {size : Msg → ℕ} {s s' : Transport capIn capOut}

theorem Doomed.of_write (h : Doomed s') (hs : s.write = some s') : Doomed s := by
  unfold Transport.write at hs
  split at hs
  · next i cell rest hmu henc =>
      split at hs
      · next p hp =>
          obtain rfl := Option.some.inj hs
          obtain ⟨-, -, hbuf, -⟩ := Chan.send_eq_ok.1 hp
          refine ⟨h.locked, h.waits, ?_, h.stdout⟩
          have hin : capIn < rest.length + p.buf.length := h.stdin
          rw [hbuf, List.length_append, List.length_singleton] at hin
          rw [henc, List.length_cons]
          omega
      · cases hs
  · cases hs

theorem Doomed.of_decode (h : Doomed s') (hC : Room size s .decode)
    (hs : s.step size .decode = some s') : Doomed s := by
  obtain ⟨r, hr, hs⟩ := Option.bind_eq_some_iff.1 hs
  obtain ⟨c, hc, rfl⟩ := Option.map_eq_some_iff.1 hs
  obtain ⟨i, hmu⟩ := Transport.lockedByCall_iff.1 h.locked
  have hin : capIn < s.encoding.length + s.stdin.buf.length := h.stdin
  have hout : capOut < s.agent.out.length + s.stdout.buf.length := h.stdout
  rcases (Client.step_spec hc).wants_lock h.waits hmu with ⟨k, hk, -⟩ | ⟨res, hres, hrd, hmu'⟩ |
    ⟨hrd, hmu'⟩
  · cases hk
  · obtain rfl := ClientLabel.decoded.inj hres
    have hlock : s.lockedByCall = true := Transport.lockedByCall_iff.2 ⟨i, hmu' ▸ hmu⟩
    have hwaits : (Reader.afterDecode r.1).needsLock = true := hrd ▸ h.waits
    rcases hC hlock r hr hwaits with hfit | hfit <;> omega
  · exact ⟨Transport.lockedByCall_iff.2 ⟨i, hmu' ▸ hmu⟩, hrd ▸ h.waits, hin, hout⟩

/-- The agent reads a part of a request, and writes its answers where there is room for them. -/
theorem Doomed.of_agentRead {burst : List Msg} (h : Doomed s') (hC : Room size s (.agentRead burst))
    (hs : s.agentRead size burst = some s') : Doomed s := by
  unfold Transport.agentRead at hs
  split at hs
  · next p hagent hp =>
      obtain rfl := Option.some.inj hs
      exact absurd (by rw [show s.agent = .reading from hagent]; rfl) h.writing
  · next m p hagent hp =>
      obtain rfl := Option.some.inj hs
      obtain ⟨hbuf, -⟩ := Chan.recv_eq_value.1 hp
      have hlen : s.stdin.buf.length = p.buf.length + 1 := by rw [hbuf, List.length_cons]
      have hin : capIn < s.encoding.length + p.buf.length := h.stdin
      have hout := h.stdout
      rw [Agent.out_next] at hout
      have hcomplete : s.completes = true := by
        unfold Transport.completes
        rw [hbuf]
      rcases hC h.locked h.waits hcomplete with hfit | hfit
      · omega
      · exact absurd hout (by dsimp only; omega)
  · cases hs

theorem Doomed.of_agentWrite (h : Doomed s') (hs : s.agentWrite = some s') : Doomed s := by
  unfold Transport.agentWrite at hs
  split at hs
  · next cell rest hagent =>
      split at hs
      · next p hp =>
          obtain rfl := Option.some.inj hs
          obtain ⟨-, -, hbuf, -⟩ := Chan.send_eq_ok.1 hp
          refine ⟨h.locked, h.waits, h.stdin, ?_⟩
          have hout := h.stdout
          rw [Agent.out_next, hbuf, List.length_append, List.length_singleton] at hout
          rw [hagent]
          show capOut < (cell :: rest).length + s.stdout.buf.length
          rw [List.length_cons]
          omega
      · cases hs
  · cases hs

end

/-- **With room, a step dooms no transport.** -/
theorem Doomed.of_step {size : Msg → ℕ} {s s' : Transport capIn capOut} {l : TransportLabel}
    (h : Doomed s') (hC : Room size s l) (hs : s.step size l = some s') : Doomed s := by
  cases l with
  | call k =>
      obtain ⟨c, hc, rfl⟩ := Option.map_eq_some_iff.1 hs
      obtain ⟨hmu, hk⟩ := Option.ite_none_right_eq_some.1 hc
      obtain rfl := Option.some.inj hk
      have hin : capIn < (cells size (.ok k.request)).length + s.stdin.buf.length := h.stdin
      have hout : capOut < s.agent.out.length + s.stdout.buf.length := h.stdout
      rcases hC h.waits with hfit | hfit <;> omega
  | write => exact h.of_write hs
  | encoded i =>
      obtain ⟨-, hs⟩ := Option.ite_none_right_eq_some.1 hs
      exact h.of_clientStep hs (by simp) (by simp)
  | writeFailed i err =>
      simp only [Transport.step] at hs
      split at hs
      · next hagent =>
          obtain ⟨c, hc, rfl⟩ := Option.map_eq_some_iff.1 hs
          exact absurd (by rw [show s.agent = .exited from hagent]; rfl) h.writing
      · cases hs
  | fill =>
      unfold Transport.step Transport.fill at hs
      dsimp only at hs
      split at hs
      · next cell p hr hp =>
          obtain rfl := Option.some.inj hs
          have hw := h.waits
          rw [show s.client.reader = .decode from hr] at hw
          cases hw
      · cases hs
  | decode => exact h.of_decode hC hs
  | eof =>
      unfold Transport.step Transport.eof at hs
      dsimp only at hs
      split at hs
      · next hagent _ _ =>
          obtain ⟨c, hc, rfl⟩ := Option.map_eq_some_iff.1 hs
          exact absurd (by rw [show s.agent = .exited from hagent]; rfl) h.writing
      · cases hs
  | agentRead burst => exact h.of_agentRead hC hs
  | agentWrite => exact h.of_agentWrite hs
  | exit =>
      obtain rfl := Option.some.inj hs
      exact absurd rfl h.writing
  | ctxDone i err => exact h.of_clientStep hs (by simp) (by simp)
  | receive i => exact h.of_clientStep hs (by simp) (by simp)
  | setNotificationHandler => exact h.of_clientStep hs (by simp) (by simp)
  | read => exact h.of_clientStep hs (by simp) (by simp)
  | fail id => exact h.of_clientStep hs (by simp) (by simp)

/-- **The transport refines its client.**  A step of the transport is a step of
the client, or leaves the client as it is. -/
theorem Transport.step_client {size : Msg → ℕ} {s s' : Transport capIn capOut}
    {l : TransportLabel} (hs : s.step size l = some s') :
    s'.client = s.client ∨ ∃ l', s.client.step l' = some s'.client := by
  have hclient : ∀ {l' : ClientLabel} {f : Client → Transport capIn capOut},
      (∀ c, (f c).client = c) → (s.client.step l').map f = some s' →
        ∃ l', s.client.step l' = some s'.client := by
    intro l' f hf h
    obtain ⟨c, hc, rfl⟩ := Option.map_eq_some_iff.1 h
    exact ⟨l', by rw [hf, hc]⟩
  cases l with
  | call k => exact Or.inr (hclient (fun _ => rfl) hs)
  | ctxDone i err => exact Or.inr (hclient (fun _ => rfl) hs)
  | receive i => exact Or.inr (hclient (fun _ => rfl) hs)
  | setNotificationHandler => exact Or.inr (hclient (fun _ => rfl) hs)
  | read => exact Or.inr (hclient (fun _ => rfl) hs)
  | fail id => exact Or.inr (hclient (fun _ => rfl) hs)
  | encoded i => exact Or.inr (hclient (fun _ => rfl) (Option.ite_none_right_eq_some.1 hs).2)
  | decode =>
      obtain ⟨r, hr, hs⟩ := Option.bind_eq_some_iff.1 hs
      exact Or.inr (hclient (fun _ => rfl) hs)
  | writeFailed i err =>
      simp only [Transport.step] at hs
      split at hs
      · exact Or.inr (hclient (fun _ => rfl) hs)
      · cases hs
  | eof =>
      simp only [Transport.step, Transport.eof] at hs
      split at hs
      · exact Or.inr (hclient (fun _ => rfl) hs)
      · cases hs
  | exit =>
      obtain rfl := Option.some.inj hs
      exact Or.inl rfl
  | write =>
      simp only [Transport.step, Transport.write] at hs
      split at hs
      · split at hs
        · obtain rfl := Option.some.inj hs
          exact Or.inl rfl
        · cases hs
      · cases hs
  | fill =>
      simp only [Transport.step, Transport.fill] at hs
      split at hs
      · obtain rfl := Option.some.inj hs
        exact Or.inl rfl
      · cases hs
  | agentRead burst =>
      simp only [Transport.step, Transport.agentRead] at hs
      split at hs
      · obtain rfl := Option.some.inj hs
        exact Or.inl rfl
      · obtain rfl := Option.some.inj hs
        exact Or.inl rfl
      · cases hs
  | agentWrite =>
      simp only [Transport.step, Transport.agentWrite] at hs
      split at hs
      · split at hs
        · obtain rfl := Option.some.inj hs
          exact Or.inl rfl
        · cases hs
      · cases hs

/-- The invariant of the channels holds in every run of a transport. -/
theorem Transport.registered {size : Msg → ℕ} {s : Transport capIn capOut}
    {l : List TransportLabel} (h : exec (Transport.step size) {} l = some s) :
    s.client.Registered := by
  refine exec_invariant_of_step (I := fun s : Transport capIn capOut => s.client.Registered)
    (fun s l s' hs hstep => ?_) Client.Registered.init h
  rcases Transport.step_client hstep with heq | ⟨l', hl'⟩
  · rw [heq]
    exact hs
  · exact hs.step (Client.step_spec hl')

/-- **While there is room, the transport does not deadlock.**  For all sizes of
messages and capacities of the pipes, in every run along which there is room
wherever the reader comes to wait for a call, no deadlock is reached. -/
theorem not_deadlocked_of_room {size : Msg → ℕ} {s : Transport capIn capOut}
    {l : List TransportLabel}
    (hl : Along (Transport.step size) (Room size) ({} : Transport capIn capOut) l)
    (h : exec (Transport.step size) {} l = some s) : ¬Deadlocked s := by
  have hinit : ¬Doomed ({} : Transport capIn capOut) := fun hd => by cases hd.locked
  have hs : ¬Doomed s := exec_invariant (I := fun s : Transport capIn capOut => ¬Doomed s)
    (fun _ _ _ hnot hC hstep hd => hnot (hd.of_step hC hstep)) hinit hl h
  exact fun hdead => hs hdead.doomed

/-- With room in stdin, a doomed call writes, and is doomed after it. -/
theorem Doomed.write {s : Transport capIn capOut} (h : Doomed s) (size : Msg → ℕ)
    (hopen : s.stdin.closed = false) (hroom : s.stdin.buf.length < capIn) :
    ∃ s', s.step size .write = some s' ∧ Doomed s' ∧ s'.stdin.closed = false ∧
      s'.stdin.buf.length = s.stdin.buf.length + 1 ∧ s'.stdout = s.stdout := by
  obtain ⟨i, hmu⟩ := Transport.lockedByCall_iff.1 h.locked
  have hover := h.stdin
  cases henc : s.encoding with
  | nil =>
      rw [henc, List.length_nil] at hover
      omega
  | cons cell rest =>
      cases hp : s.stdin.send cell with
      | full => exact absurd (Chan.send_eq_full.1 hp).2 (by omega)
      | panic =>
          rw [Chan.send_eq_panic.1 hp] at hopen
          cases hopen
      | ok p =>
          obtain ⟨-, -, hbuf, hpopen⟩ := Chan.send_eq_ok.1 hp
          have hlen : p.buf.length = s.stdin.buf.length + 1 := by
            rw [hbuf, List.length_append, List.length_singleton]
          refine ⟨{ s with stdin := p, encoding := rest }, ?_, ⟨h.locked, h.waits, ?_, h.stdout⟩,
            hpopen, hlen, rfl⟩
          · simp only [Transport.step, Transport.write, hmu, henc, hp]
          · rw [henc, List.length_cons] at hover
            show capIn < rest.length + p.buf.length
            omega

/-- With room in stdout, the agent of a doomed transport writes, and it is doomed
after it. -/
theorem Doomed.agentWrite {s : Transport capIn capOut} (h : Doomed s) (size : Msg → ℕ)
    (hopen : s.stdout.closed = false) (hroom : s.stdout.buf.length < capOut) :
    ∃ s', s.step size .agentWrite = some s' ∧ Doomed s' ∧ s'.stdout.closed = false ∧
      s'.stdout.buf.length = s.stdout.buf.length + 1 ∧ s'.stdin = s.stdin := by
  have hover := h.stdout
  cases hagent : s.agent with
  | reading | exited => exact absurd (by rw [hagent]; rfl) h.writing
  | writing out =>
      cases out with
      | nil => exact absurd (by rw [hagent]; rfl) h.writing
      | cons cell rest =>
          cases hp : s.stdout.send cell with
          | full => exact absurd (Chan.send_eq_full.1 hp).2 (by omega)
          | panic =>
              rw [Chan.send_eq_panic.1 hp] at hopen
              cases hopen
          | ok p =>
              obtain ⟨-, -, hbuf, hpopen⟩ := Chan.send_eq_ok.1 hp
              have hlen : p.buf.length = s.stdout.buf.length + 1 := by
                rw [hbuf, List.length_append, List.length_singleton]
              refine ⟨{ s with stdout := p, agent := .next rest }, ?_,
                ⟨h.locked, h.waits, h.stdin, ?_⟩, hpopen, hlen, rfl⟩
              · simp only [Transport.step, Transport.agentWrite, hagent, hp]
              · rw [hagent] at hover
                have hover' : capOut < (cell :: rest).length + s.stdout.buf.length := hover
                rw [List.length_cons] at hover'
                rw [Agent.out_next]
                show capOut < rest.length + p.buf.length
                omega

/-- **A doomed transport deadlocks by writing alone.**  The call and the agent fill
their pipes, whatever else is possible; the induction is on the room left. -/
theorem Doomed.reaches_deadlock (size : Msg → ℕ) :
    ∀ (n : ℕ) {s : Transport capIn capOut}, Doomed s → s.stdin.closed = false →
      s.stdout.closed = false →
        capIn - s.stdin.buf.length + (capOut - s.stdout.buf.length) = n →
          ∃ l s', exec (Transport.step size) s l = some s' ∧ Deadlocked s'
  | n, s, h, hin, hout, hn => by
      have hbin := s.stdin.bounded
      have hbout := s.stdout.bounded
      rcases Nat.lt_or_ge s.stdin.buf.length capIn with hroom | hfull
      · obtain ⟨s₁, hs₁, h₁, hin₁, hlen, hsame⟩ := h.write size hin hroom
        obtain ⟨l, s', hl, hdead⟩ := Doomed.reaches_deadlock size
          (capIn - s₁.stdin.buf.length + (capOut - s₁.stdout.buf.length)) h₁ hin₁ (hsame ▸ hout) rfl
        exact ⟨.write :: l, s', by rw [exec_cons, hs₁]; exact hl, hdead⟩
      · rcases Nat.lt_or_ge s.stdout.buf.length capOut with hroom' | hfull'
        · obtain ⟨s₁, hs₁, h₁, hout₁, hlen, hsame⟩ := h.agentWrite size hout hroom'
          obtain ⟨l, s', hl, hdead⟩ := Doomed.reaches_deadlock size
            (capIn - s₁.stdin.buf.length + (capOut - s₁.stdout.buf.length)) h₁ (hsame ▸ hin) hout₁
            rfl
          exact ⟨.agentWrite :: l, s', by rw [exec_cons, hs₁]; exact hl, hdead⟩
        · have hover := h.stdin
          have hover' := h.stdout
          exact ⟨[], s, rfl, ⟨h.locked, by omega, by omega⟩, h.waits, by omega, by omega⟩
  termination_by n => n
  decreasing_by
    all_goals subst hn
    · rw [hsame, hlen]
      omega
    · rw [hsame, hlen]
      omega

end

/-- A response and an update from the agent. -/
def response (id : String) : Msg := .ok { jsonrpc := "2.0", id }

def update : Msg :=
  .ok { jsonrpc := "2.0", method := "session/update", params := { event := some { type := "text" } } }

/-- A first call is written piece by piece through a pipe of one piece, and the
agent takes it up with a response and two updates to write.  The reader has
decoded the response when a second call takes the lock. -/
def secondCall : List TransportLabel :=
  [.call { id := "rpc_1", method := "session/prompt" }, .write, .agentRead [], .write, .encoded 0,
    .agentRead [response "rpc_1", update, update], .agentWrite, .fill, .agentWrite, .fill, .decode,
    .call { id := "rpc_2", method := "session/prompt" }]

/-- **A second call while the agent writes deadlocks.**  With pipes of one piece
and messages of two, the call has one piece too much for stdin, the reader waits
for its lock, and the agent has more to write than stdout takes. -/
theorem bigRequest_deadlocks :
    ∃ s ∈ exec (Transport.step fun _ => 1) ({} : Transport 1 1)
        (secondCall ++ [.write, .agentWrite]), Deadlocked s := by
  decide

/-- `not_deadlocked_of_room` applies where stdin takes a whole request: the same
calls, with a stdin of two pieces. -/
theorem roomyStdin_not_deadlocked :
    ∃ s ∈ exec (Transport.step fun _ => 1) ({} : Transport 2 1)
        (secondCall ++ [.write, .agentWrite, .write, .encoded 1, .read, .read, .read]),
      ¬Deadlocked s := by
  obtain ⟨s, hs⟩ := Option.isSome_iff_exists.1 (show (exec
    (Transport.step fun _ => 1) ({} : Transport 2 1)
    (secondCall ++ [.write, .agentWrite, .write, .encoded 1, .read, .read, .read])).isSome = true
    by decide)
  exact ⟨s, hs, not_deadlocked_of_room (by decide) hs⟩

end Acp
end Agentd
