/-
# The runs of an agent that dies

An agent with its `StdioClient` (`acp/stdio.go`) and the `Prompt`s on it
(`runtime/supervisor/manager.go`), as one system.  A `Prompt` makes its `session/prompt` as a
call of the client, and the reader of the client hands the events to `routeEvent`.  The process
may exit at any time; the supervisor learns of it by what `Encode` and `Decode` return, which
the labels hold, and `wait` changes nothing but the state of the instance.

When the output of the agent ends, `failAll` fails every call that waits.  But a run goes on
after its `session/prompt` has been answered, and waits on a channel that nobody closes: the
`Prompt` is `Stranded` (`deadAgent_strands_run`).  `not_stranded_of_endsRuns` says that this is
the only way: no run is stranded when the output does not end before the final events of the
runs that the agent has accepted.
-/

import Agentd.Supervisor.AgentHandle
import Agentd.Acp.Abandoned

namespace Agentd
namespace Acp

open Concurrency

/-- `Decode` has failed: the reader is in `failAll`, or over. -/
def Reader.atEnd : Reader → Bool
  | .failAll _ | .failNext _ | .failSend .. | .failClose .. | .done => true
  | _ => false

/-- The call has been answered with success: it has returned so, or the answer is in its
channel. -/
def Call.accepted (k : Call) : Bool :=
  match k.pc with
  | .returned res => res.isOk
  | .encode | .select => k.wait.buf.head?.any fun env => (k.reply env).isOk

/-- The event that the reader hands to the handler in the step. -/
def Client.handsOver (c : Client) : ClientLabel → Option StreamEvent
  | .read =>
      match c.reader with
      | .notify event => some event
      | _ => none
  | _ => none

section

variable {c c' : Client} {l : ClientLabel}

theorem Reader.ended_iff {r : Reader} : r.ended = true ↔ r = .done := by
  cases r <;> simp [Reader.ended]

theorem Reader.afterDecode_atEnd (env : Envelope) :
    (Reader.afterDecode (.ok env)).atEnd = false := by
  unfold Reader.afterDecode
  dsimp only
  split_ifs
  · rfl
  · split <;> rfl
  · rfl

/-- A call that is failed has not been accepted by that. -/
theorem Call.accepted_failed {k : Call} {w : Chan Envelope 1} {id message : String}
    (hw : k.wait.send (failure id message) = .ok w)
    (h : ({ k with wait := w } : Call).accepted = true) : k.accepted = true := by
  obtain ⟨-, -, hbuf, -⟩ := Chan.send_eq_ok.1 hw
  unfold Call.accepted at h ⊢
  cases hpc : k.pc with
  | returned res =>
      rw [hpc] at h
      exact h
  | encode | select =>
      rw [hpc] at h
      cases hold : k.wait.buf with
      | nil =>
          rw [hold, List.nil_append] at hbuf
          rw [hbuf] at h
          cases h
      | cons env rest =>
          rw [hold, List.cons_append] at hbuf
          rw [hbuf] at h
          exact h

/-- One call moves: the accepted calls after the step were accepted before, when this one
was. -/
theorem accepted_set {calls : List Call} {i : ℕ} {k k' : Call} (hi : calls[i]? = some k)
    (hk : k'.accepted = true → k.accepted = true) {j : ℕ} {g' : Call}
    (hg : (calls.set i k')[j]? = some g') (hacc : g'.accepted = true) :
    ∃ g, calls[j]? = some g ∧ g.accepted = true := by
  rcases getElem?_set_cases hg with ⟨rfl, rfl⟩ | ⟨-, hold⟩
  · exact ⟨k, hi, hk hacc⟩
  · exact ⟨g', hold, hacc⟩

/-- **A step towards the end of the reader**: `Decode` has failed in it, or before, and then the
agent accepts no further call. -/
theorem Client.Step.atEnd (h : c.Step l c') (hend : c'.reader.atEnd = true) :
    (c.reader = .decode ∧ (∃ e, l = .decoded (.error e)) ∧ c'.calls = c.calls) ∨
      c.reader.atEnd = true ∧ ∀ (j : ℕ) k', c'.calls[j]? = some k' → k'.accepted = true →
        ∃ k, c.calls[j]? = some k ∧ k.accepted = true := by
  cases h with
  | register k =>
      refine Or.inr ⟨hend, fun j g hg hacc => ?_⟩
      rcases getElem?_concat_cases hg with ⟨-, rfl⟩ | hold
      · cases hacc
      · exact ⟨g, hold, hacc⟩
  | encoded i k err hi hpc =>
      refine Or.inr ⟨hend, fun j g hg hacc => accepted_set hi (fun hk => ?_) hg hacc⟩
      cases err with
      | some e => cases hk
      | none =>
          unfold Call.accepted
          rw [hpc]
          exact hk
  | ctxDone i k err hi =>
      exact Or.inr ⟨hend, fun j g hg hacc => accepted_set hi (fun hk => by cases hk) hg hacc⟩
  | receive i k env w hi hpc hbuf =>
      refine Or.inr ⟨hend, fun j g hg hacc => accepted_set hi (fun hk => ?_) hg hacc⟩
      unfold Call.accepted
      rw [hpc, hbuf]
      exact hk
  | receiveEOF i k hi =>
      exact Or.inr ⟨hend, fun j g hg hacc => accepted_set hi (fun hk => by cases hk) hg hacc⟩
  | setHandler => exact Or.inr ⟨hend, fun j g hg hacc => ⟨g, hg, hacc⟩⟩
  | decoded res hr =>
      cases res with
      | error e => exact Or.inl ⟨hr, ⟨e, rfl⟩, rfl⟩
      | ok env =>
          have hquiet := Reader.afterDecode_atEnd env
          rw [hquiet] at hend
          cases hend
  | lookupHit | lookupMiss | send | close | notify => cases hend
  | getNotify event hr =>
      dsimp only at hend
      split_ifs at hend <;> cases hend
  | failAll message hr | failDone message hr | failNext _ _ message hr =>
      exact Or.inr ⟨by rw [hr]; rfl, fun j g hg hacc => ⟨g, hg, hacc⟩⟩
  | failSend id i message k w hr hi hw =>
      exact Or.inr ⟨by rw [hr]; rfl, fun j g hg hacc =>
        accepted_set hi (Call.accepted_failed hw) hg hacc⟩
  | failClose id i message k w hr hi hw =>
      refine Or.inr ⟨by rw [hr]; rfl, fun j g hg hacc => accepted_set hi (fun hk => ?_) hg hacc⟩
      obtain ⟨-, hbuf, -⟩ := Chan.close_eq_some.1 hw
      unfold Call.accepted at hk ⊢
      rw [hbuf] at hk
      exact hk
  | panic i k c'' hr hi hclosed hc' =>
      rw [hc'] at hend
      cases hend

theorem Client.Step.reader_of_done (h : c.Step l c')
    (hr : c.reader = .done) : c'.reader = .done := by
  cases h with
  | register | encoded | ctxDone | receive | receiveEOF | setHandler => exact hr
  | decoded _ hr' | lookupHit _ _ hr' | lookupMiss _ hr' | send _ _ _ _ hr' | close _ _ _ hr'
  | getNotify _ hr' | notify _ hr' | failAll _ hr' | failNext _ _ _ hr'
  | failSend _ _ _ _ _ hr' | failClose _ _ _ _ _ hr' =>
      rw [hr] at hr'
      cases hr'
  | failDone => rfl
  | panic i k c'' hch =>
      rw [hr] at hch
      cases hch

end

end Acp

namespace Supervisor

open Control Concurrency Acp

/-- An agent: its client, its `Prompt`s, and for each `Prompt` the number of its `session/prompt`
among the calls of the client. -/
structure ServedAgent where
  client : Client := {}
  handle : Pool AgentHandle Prompt := freshHandle
  calls : GoMap ℕ ℕ := ∅

/-- What happens next at an agent: something in the client, in which the reader may hand over an
event; something to the `Prompt`s; `Prompt` `i` makes its `session/prompt`; or that call, which
has returned, is its answer. -/
inductive ServedLabel
  | client (l : ClientLabel)
  | prompts (l : PoolLabel PromptStart PromptLabel)
  | call (i : ℕ) (raw : String) (params : RawMessage)
  | answered (i : ℕ) (now : Time)

/-- The error of a call that has returned. -/
def errorOf : Except String Unit → Option String
  | .ok _ => none
  | .error err => some err

namespace ServedAgent

/-- The agent has accepted the run of `Prompt` `i`. -/
def Accepted (s : ServedAgent) (i : ℕ) : Prop :=
  ∃ j, s.calls.lookup i = some j ∧ ∃ k, s.client.calls[j]? = some k ∧ k.accepted = true

/-- One step at an agent. -/
def step (s : ServedAgent) : ServedLabel → Option ServedAgent
  | .client l =>
      (s.client.step l).bind fun c =>
        match s.client.handsOver l with
        | none => some { s with client := c }
        | some event =>
            (handleStep s.handle (.route event)).map fun h => { s with client := c, handle := h }
  | .prompts (.step _ (.answered _ _)) => none
  | .prompts l => (handleStep s.handle (.prompts l)).map fun h => { s with handle := h }
  | .call i raw params =>
      s.handle.threads[i]?.bind fun p =>
        match p.pc, s.calls.lookup i with
        | .clientPrompt, none =>
            (s.client.step (.call { id := newID "rpc" raw, method := "session/prompt", params })).map
              fun c => { s with client := c, calls := s.calls.insert i s.client.calls.length }
        | _, _ => none
  | .answered i now =>
      (s.calls.lookup i).bind fun j =>
        s.client.calls[j]?.bind fun k =>
          match k.pc with
          | .returned res =>
              (handleStep s.handle (.prompts (.step i (.answered (errorOf res) now)))).map
                fun h => { s with handle := h }
          | _ => none

/-- What a step at an agent can do. -/
inductive Step (s : ServedAgent) : ServedLabel → ServedAgent → Prop
  | client (l : ClientLabel) (c : Client) (hc : s.client.Step l c)
      (hnone : s.client.handsOver l = none) : Step s (.client l) { s with client := c }
  | routed (c : Client) (event : StreamEvent) (h : Pool AgentHandle Prompt)
      (hc : s.client.Step .read c) (hr : s.client.reader = .notify event)
      (hh : handleStep s.handle (.route event) = some h) :
      Step s (.client .read) { s with client := c, handle := h }
  | spawned (b : PromptStart) :
      Step s (.prompts (.spawn b))
        { s with handle := { s.handle with threads := s.handle.threads ++ [b.prompt] } }
  | moved (i : ℕ) (l : PromptLabel) (p p' : Prompt) (a : AgentHandle) (lab : ServedLabel)
      (hi : s.handle.threads[i]? = some p) (hstep : p.Step s.handle.shared l a p')
      (hh : handleStep s.handle (.prompts (.step i l)) = some ⟨a, s.handle.threads.set i p'⟩)
      (hdone : ∀ err, l = .ctxDone err → lab = .prompts (.step i (.ctxDone err)))
      (hanswer : ∀ now, l = .answered none now → s.Accepted i) :
      Step s lab { s with handle := ⟨a, s.handle.threads.set i p'⟩ }
  | called (i : ℕ) (raw : String) (params : RawMessage) (k : Call) (c : Client) (p : Prompt)
      (hi : s.handle.threads[i]? = some p) (hpc : p.pc = .clientPrompt)
      (hnone : s.calls.lookup i = none) (hc : s.client.Step (.call k) c) :
      Step s (.call i raw params)
        { s with client := c, calls := s.calls.insert i s.client.calls.length }

/-- The run of the `Prompt` is stranded: `readLoop` has ended, the `Prompt` is in its loop with an
empty channel and has not received the final event, and whatever happens next but the end of
its context, it stays there. -/
structure Stranded (s : ServedAgent) (i : ℕ) : Prop where
  ended : s.client.reader.ended = true
  waits : ∃ p ch, s.handle.threads[i]? = some p ∧ p.pc = .select ∧
    (∀ item ∈ p.sent, item.final = false) ∧ s.handle.shared.chans[p.events]? = some ch ∧
      ch.buf = []
  stuck : ∀ l s', exec step s l = some s' → (∀ err, .prompts (.step i (.ctxDone err)) ∉ l) →
    s'.handle.threads[i]? = s.handle.threads[i]?

end ServedAgent

/-- The final event is ahead in channel `n`, or the channel is closed. -/
def FinalAhead (a : AgentHandle) (n : ℕ) : Prop :=
  ∃ ch, a.chans[n]? = some ch ∧ (ch.closed = true ∨ ∃ event ∈ ch.buf, endsRun event = true)

/-- The `Prompt` has received the final event of its run, or it is ahead, or the run has not been
accepted. -/
def Prompt.Ends (a : AgentHandle) (accepted : Prop) (p : Prompt) : Prop :=
  match p.pc with
  | .clientPrompt => accepted → FinalAhead a p.events
  | .select => FinalAhead a p.events
  | .send item => item.final = true ∨ FinalAhead a p.events
  | _ => True

/-- When the output of the agent ends, every run that it has accepted has its final event. -/
def ServedAgent.EndsRuns (s : ServedAgent) : ServedLabel → Prop
  | .client (.decoded (.error _)) =>
      ∀ (i : ℕ) p, s.handle.threads[i]? = some p → p.Ends s.handle.shared (s.Accepted i)
  | _ => True

instance (s : ServedAgent) (i : ℕ) : Decidable (s.Accepted i) :=
  inferInstanceAs (Decidable (∃ j ∈ s.calls.lookup i, ∃ k ∈ s.client.calls[j]?, k.accepted = true))

instance (a : AgentHandle) (n : ℕ) : Decidable (FinalAhead a n) :=
  inferInstanceAs (Decidable (∃ ch ∈ a.chans[n]?,
    ch.closed = true ∨ ∃ event ∈ ch.buf, endsRun event = true))

instance (a : AgentHandle) (acc : Prop) [Decidable acc] (p : Prompt) : Decidable (p.Ends a acc) :=
  match hpc : p.pc with
  | .clientPrompt =>
      decidable_of_iff (acc → FinalAhead a p.events) (by simp only [Prompt.Ends, hpc])
  | .select => decidable_of_iff (FinalAhead a p.events) (by simp only [Prompt.Ends, hpc])
  | .send item =>
      decidable_of_iff (item.final = true ∨ FinalAhead a p.events) (by simp only [Prompt.Ends, hpc])
  | .subscribe | .sendFailed _ | .unsubscribe _ | .returned _ =>
      isTrue (by simp only [Prompt.Ends, hpc])

instance (s : ServedAgent) : DecidablePred s.EndsRuns
  | .client (.decoded (.error _)) =>
      decidable_of_iff (∀ i < s.handle.threads.length, ∀ p ∈ s.handle.threads[i]?,
        p.Ends s.handle.shared (s.Accepted i))
        ⟨fun h i p hi => h i (List.getElem?_eq_some_iff.1 hi).1 p hi, fun h i _ p hi => h i p hi⟩
  | .client (.decoded (.ok _)) | .client (.call _) | .client (.encoded ..) | .client (.ctxDone ..)
  | .client (.receive _) | .client .setNotificationHandler | .client .read | .client (.fail _)
  | .prompts _ | .call .. | .answered .. => isTrue trivial

/-- **The invariant.**  A `Prompt` that has made its call has subscribed; and once `Decode` has
failed, every run that was accepted has its final event. -/
structure ServedOk (s : ServedAgent) : Prop where
  streams : StreamsOk s.handle
  called : ∀ i j, s.calls.lookup i = some j →
    ∃ p, s.handle.threads[i]? = some p ∧ p.pc ≠ .subscribe
  ends : s.client.reader.atEnd = true → ∀ (i : ℕ) p, s.handle.threads[i]? = some p →
    p.Ends s.handle.shared (s.Accepted i)

section

variable {s s' : ServedAgent} {a a' : AgentHandle} {p p' : Prompt} {l : PromptLabel} {n : ℕ}

/-- **A step at an agent is one of `Step`.** -/
theorem ServedAgent.step_spec {lab : ServedLabel} (h : s.step lab = some s') : s.Step lab s' := by
  unfold ServedAgent.step at h
  split at h
  · next l =>
      obtain ⟨c, hc, hrest⟩ := Option.bind_eq_some_iff.1 h
      split at hrest
      · next hnone =>
          obtain rfl := Option.some.inj hrest
          exact .client l c (Client.step_spec hc) hnone
      · next event hover =>
          obtain ⟨q, hq, rfl⟩ := Option.map_eq_some_iff.1 hrest
          unfold Client.handsOver at hover
          split at hover
          · split at hover
            · next event' hr =>
                obtain rfl := Option.some.inj hover
                exact .routed c event' q (Client.step_spec hc) hr hq
            · cases hover
          · cases hover
  · cases h
  · next l hl =>
      obtain ⟨q, hq, rfl⟩ := Option.map_eq_some_iff.1 h
      cases l with
      | spawn b =>
          obtain rfl := handleStep_spawn hq
          exact .spawned b
      | step i l =>
          obtain ⟨p, a, p', hi, hstep, rfl⟩ := handleStep_step hq
          refine .moved i l p p' a _ hi hstep hq (fun err herr => by rw [herr]) ?_
          rintro now rfl
          exact absurd rfl (hl i none now)
  · next i raw params =>
      obtain ⟨p, hi, hrest⟩ := Option.bind_eq_some_iff.1 h
      split at hrest
      · next hpc hnone =>
          obtain ⟨c, hc, rfl⟩ := Option.map_eq_some_iff.1 hrest
          exact .called i raw params _ c p hi hpc hnone (Client.step_spec hc)
      · cases hrest
  · next i now =>
      obtain ⟨j, hj, hrest⟩ := Option.bind_eq_some_iff.1 h
      obtain ⟨k, hk, hrest⟩ := Option.bind_eq_some_iff.1 hrest
      split at hrest
      · next res hpc =>
          obtain ⟨q, hq, rfl⟩ := Option.map_eq_some_iff.1 hrest
          obtain ⟨p, a, p', hi, hstep, rfl⟩ := handleStep_step hq
          refine .moved i _ p p' a _ hi hstep hq (fun err herr => by cases herr) fun now' hnow => ?_
          cases res with
          | error err => cases hnow
          | ok u =>
              refine ⟨j, hj, k, hk, ?_⟩
              unfold Call.accepted
              rw [hpc]
              rfl
      · cases hrest

/-- **A step at an agent** keeps its streams in order. -/
theorem ServedAgent.Step.streams {lab : ServedLabel} (h : s.Step lab s')
    (hs : StreamsOk s.handle) : StreamsOk s'.handle := by
  cases h with
  | client | called => exact hs
  | routed c event q hc hr hh => exact hs.step hh
  | spawned b => exact hs.step (l := .prompts (.spawn b)) rfl
  | moved i l p p' a _ hi hstep hh => exact hs.step hh

theorem ServedAgent.streamsOk {l : List ServedLabel} (h : exec ServedAgent.step {} l = some s) :
    StreamsOk s.handle :=
  exec_invariant_of_step (I := fun s => StreamsOk s.handle)
    (fun _ _ _ hs hstep => (ServedAgent.step_spec hstep).streams hs) .fresh h

theorem Prompt.Ends.mono {acc acc' : Prop} (h : p.Ends a acc) (himp : acc' → acc) :
    p.Ends a acc' := by
  unfold Prompt.Ends at h ⊢
  split
  · next hpc =>
      rw [hpc] at h
      exact fun hacc => h (himp hacc)
  · next hpc =>
      rw [hpc] at h
      exact h
  · next item hpc =>
      rw [hpc] at h
      exact h
  · trivial

theorem Prompt.Step.finalAhead (h : p.Step a l a' p') (hne : p.subscribed = true → n ≠ p.events)
    (hn : FinalAhead a n) : FinalAhead a' n := by
  obtain ⟨ch, hch, hfinal⟩ := hn
  cases h with
  | accepted | refused | reported | ctxDone | recvClosed | sendError | sent =>
      exact ⟨ch, hch, hfinal⟩
  | subscribe => exact ⟨ch, getElem?_append_of_some _ hch, hfinal⟩
  | recv ch₀ ch' event hpc =>
      have hsub : p.subscribed = true := by rw [Prompt.subscribed, hpc]
      exact ⟨ch, (List.getElem?_set_ne (Ne.symm (hne hsub))).trans hch, hfinal⟩
  | unsubscribe a'' res hpc ha =>
      rcases AgentHandle.unsubscribe_eq_some ha with ⟨-, rfl⟩ | ⟨m, ch₀, ch', -, hm, hclose, rfl⟩
      · exact ⟨ch, hch, hfinal⟩
      · by_cases hnm : n = m
        · subst hnm
          exact ⟨ch', getElem?_set_of_some _ hm, Or.inl (Chan.close_eq_some.1 hclose).2.2⟩
        · exact ⟨ch, (List.getElem?_set_ne (Ne.symm hnm)).trans hch, hfinal⟩

/-- **A step of a `Prompt`** leads it towards the final event of its run. -/
theorem Prompt.Step.ends {acc : Prop} (h : p.Step a l a' p') (hends : p.Ends a acc)
    (hfirst : p.pc = .subscribe → ¬acc) (hanswer : ∀ now, l = .answered none now → acc) :
    p'.Ends a' acc := by
  unfold Prompt.Ends at hends
  cases h with
  | subscribe hpc => exact fun hacc => absurd hacc (hfirst hpc)
  | accepted hpc now =>
      rw [hpc] at hends
      exact hends (hanswer now rfl)
  | refused | reported | ctxDone | sendError | unsubscribe => trivial
  | recv ch ch' event hpc hch hrecv now =>
      rw [hpc] at hends
      obtain ⟨ch₀, hch₀, hfinal⟩ := hends
      obtain rfl := Option.mem_unique hch hch₀
      obtain ⟨hbuf, hclosed⟩ := Chan.recv_eq_value.1 hrecv
      have hset := getElem?_set_of_some ch' hch
      rcases hfinal with hcl | ⟨e, he, hend⟩
      · exact Or.inr ⟨ch', hset, Or.inl (hclosed.trans hcl)⟩
      · rw [hbuf] at he
        rcases List.mem_cons.1 he with rfl | hrest
        · exact Or.inl hend
        · exact Or.inr ⟨ch', hset, Or.inr ⟨e, hrest, hend⟩⟩
  | recvClosed ch hpc =>
      rw [hpc] at hends
      exact Or.inr hends
  | sent item hpc =>
      rw [hpc] at hends
      unfold Prompt.Ends
      cases hfinal : item.final with
      | true => exact trivial
      | false =>
          rcases hends with h | h
          · rw [hfinal] at h
            cases h
          · exact h

theorem Prompt.Ends.frame {q : Prompt} {acc : Prop} (hq : q.Ends a acc) (h : p.Step a l a' p')
    (hne : p.subscribed = true → q.subscribed = true → q.events ≠ p.events) : q.Ends a' acc := by
  have hahead : q.subscribed = true → FinalAhead a q.events → FinalAhead a' q.events :=
    fun hsub => h.finalAhead fun hp => hne hp hsub
  unfold Prompt.Ends at hq ⊢
  cases hpc : q.pc with
  | clientPrompt =>
      rw [hpc] at hq
      exact fun hacc => hahead (by rw [Prompt.subscribed, hpc]) (hq hacc)
  | select =>
      rw [hpc] at hq
      exact hahead (by rw [Prompt.subscribed, hpc]) hq
  | send item =>
      rw [hpc] at hq
      exact hq.imp_right (hahead (by rw [Prompt.subscribed, hpc]))
  | subscribe | sendFailed | unsubscribe | returned => trivial

theorem Prompt.Step.pc_ne (h : p.Step a l a' p') : p'.pc ≠ .subscribe := by
  cases h with
  | sent item =>
      dsimp only
      split_ifs <;> exact nofun
  | subscribe | accepted | refused | reported | ctxDone | recv | recvClosed | sendError
  | unsubscribe => exact nofun

end

section

variable {s s' : ServedAgent}

/-- **A step in the client** accepts no run after the end of the output. -/
theorem ServedOk.client (hs : ServedOk s) {l : ClientLabel} {c : Client} (hc : s.client.Step l c)
    (hC : s.EndsRuns (.client l)) : ServedOk { s with client := c } := by
  refine ⟨hs.streams, hs.called, fun hend i p hi => ?_⟩
  rcases hc.atEnd hend with ⟨-, ⟨e, rfl⟩, hcalls⟩ | ⟨hend', hback⟩
  · refine (hC i p hi).mono ?_
    rintro ⟨j, hj, k, hk, hacc⟩
    exact ⟨j, hj, k, hcalls ▸ hk, hacc⟩
  · refine (hs.ends hend' i p hi).mono ?_
    rintro ⟨j, hj, k, hk, hacc⟩
    obtain ⟨g, hg, hgacc⟩ := hback j k hk hacc
    exact ⟨j, hj, g, hg, hgacc⟩

/-- **A step of a `Prompt`.** -/
theorem ServedOk.moved (hs : ServedOk s) {i : ℕ} {l : PromptLabel} {p p' : Prompt}
    {a : AgentHandle} (hi : s.handle.threads[i]? = some p) (hstep : p.Step s.handle.shared l a p')
    (hstreams : StreamsOk ⟨a, s.handle.threads.set i p'⟩)
    (hanswer : ∀ now, l = .answered none now → s.Accepted i) :
    ServedOk { s with handle := ⟨a, s.handle.threads.set i p'⟩ } := by
  refine ⟨hstreams, fun j m hj => ?_, fun hend j q hj => ?_⟩
  · obtain ⟨q, hget, hpc⟩ := hs.called j m hj
    by_cases hji : j = i
    · subst hji
      exact ⟨p', getElem?_set_of_some _ hi, hstep.pc_ne⟩
    · exact ⟨q, (List.getElem?_set_ne (Ne.symm hji)).trans hget, hpc⟩
  · rcases getElem?_set_cases hj with ⟨rfl, rfl⟩ | ⟨hji, hold⟩
    · refine hstep.ends (hs.ends hend j p hi) (fun hpc => ?_) hanswer
      rintro ⟨m, hm, -⟩
      obtain ⟨q, hget, hne⟩ := hs.called j m hm
      obtain rfl := Option.mem_unique hi hget
      exact hne hpc
    · exact (hs.ends hend j q hold).frame hstep fun hp hqs heq =>
        hji (hs.streams.own j i q p hold hi hqs hp heq)

/-- **A step at an agent** that does not cut off a run keeps the invariant. -/
theorem ServedOk.step {lab : ServedLabel} (hs : ServedOk s) (hC : s.EndsRuns lab)
    (h : s.step lab = some s') : ServedOk s' := by
  have hstreams := (ServedAgent.step_spec h).streams hs.streams
  cases ServedAgent.step_spec h with
  | client l c hc => exact hs.client hc hC
  | routed c event q hc hr hh =>
      have hend : c.reader.atEnd = false := by
        cases hend : c.reader.atEnd with
        | false => rfl
        | true =>
            rcases hc.atEnd hend with ⟨-, ⟨e, he⟩, -⟩ | ⟨hold, -⟩
            · cases he
            · rw [hr] at hold
              cases hold
      refine ⟨hstreams, ?_, fun htrue => by rw [hend] at htrue; cases htrue⟩
      obtain ⟨a, -, rfl⟩ := Option.map_eq_some_iff.1 hh
      exact hs.called
  | spawned b =>
      refine ⟨hstreams, fun i j hj => ?_, fun hend i p hi => ?_⟩
      · obtain ⟨p, hget, hpc⟩ := hs.called i j hj
        exact ⟨p, getElem?_append_of_some _ hget, hpc⟩
      · rcases getElem?_concat_cases hi with ⟨-, rfl⟩ | hold
        · trivial
        · exact hs.ends hend i p hold
  | moved i l p p' a _ hi hstep hh _ hanswer => exact hs.moved hi hstep hstreams hanswer
  | called i raw params k c p hi hpc hnone hc =>
      refine ⟨hs.streams, fun i' j hj => ?_, fun hend i' q hi' => ?_⟩
      · rcases GoMap.lookup_insert_cases hj with ⟨rfl, -⟩ | ⟨-, hold⟩
        · exact ⟨p, hi, by rw [hpc]; exact nofun⟩
        · exact hs.called i' j hold
      · rcases hc.atEnd hend with ⟨-, ⟨e, he⟩, -⟩ | ⟨hend', hback⟩
        · cases he
        · refine (hs.ends hend' i' q hi').mono ?_
          rintro ⟨j, hj, g, hg, hacc⟩
          obtain ⟨g₀, hg₀, hacc₀⟩ := hback j g hg hacc
          rcases GoMap.lookup_insert_cases hj with ⟨-, rfl⟩ | ⟨-, hold⟩
          · have hlt := (List.getElem?_eq_some_iff.1 hg₀).1
            exact absurd hlt (lt_irrefl _)
          · exact ⟨j, hold, g₀, hg₀, hacc₀⟩

/-- A `Prompt` whose channel is closed can go on. -/
theorem ServedAgent.goes_on_of_closed {i : ℕ} {p : Prompt} {ch : Chan StreamEvent 64}
    (hi : s.handle.threads[i]? = some p) (hpc : p.pc = .select)
    (hch : s.handle.shared.chans[p.events]? = some ch) (hbuf : ch.buf = [])
    (hclosed : ch.closed = true) :
    s.step (.prompts (.step i (.recv 0))) =
      some { s with handle := ⟨s.handle.shared, s.handle.threads.set i (p.receive {} 0)⟩ } := by
  have hrecv : ch.recv = .closed := Chan.recv_eq_closed.2 ⟨hbuf, hclosed⟩
  have hrun : p.step s.handle.shared (.recv 0) = some (s.handle.shared, p.receive {} 0) := by
    simp only [Prompt.step, hpc, hch, Option.bind_some, hrecv]
  show (handleStep s.handle (.prompts (.step i (.recv 0)))).map _ = _
  rw [handleStep_of_step hi hrun]
  rfl

/-- **A dead agent strands no run** in the runs in which its output does not end before every
run that it has accepted has its final event. -/
theorem not_stranded_of_endsRuns {l : List ServedLabel}
    (hl : Along ServedAgent.step ServedAgent.EndsRuns {} l)
    (h : exec ServedAgent.step {} l = some s) (i : ℕ) : ¬s.Stranded i := by
  have hs : ServedOk s := by
    refine exec_invariant (fun _ _ _ hs hC hstep => hs.step hC hstep) ⟨.fresh, ?_, ?_⟩ hl h
    · exact fun _ _ hj => by cases hj
    · exact fun hend => by cases hend
  rintro ⟨hended, ⟨p, ch, hi, hpc, -, hch, hbuf⟩, hstuck⟩
  have hend : s.client.reader.atEnd = true := by
    rw [Reader.ended_iff.1 hended]
    rfl
  have hfinal := hs.ends hend i p hi
  simp only [Prompt.Ends, hpc] at hfinal
  obtain ⟨ch', hch', hclosed | ⟨event, hevent, -⟩⟩ := hfinal
  · obtain rfl := Option.mem_unique hch hch'
    have hgo := ServedAgent.goes_on_of_closed hi hpc hch hbuf hclosed
    have hone := exec_cons_eq_some.2 ⟨_, hgo, exec_nil _⟩
    have hsame := hstuck _ _ hone fun err hmem => by cases List.mem_singleton.1 hmem
    rw [hi] at hsame
    have hpc' := (Option.some.inj ((getElem?_set_of_some _ hi).symm.trans hsame))
    rw [← hpc'] at hpc
    cases hpc
  · obtain rfl := Option.mem_unique hch hch'
    rw [hbuf] at hevent
    cases hevent

end

section

variable {s s' : ServedAgent} {i : ℕ} {p : Prompt}

/-- After the end of `readLoop`, the `Prompt` is in its loop with an open and empty channel, and
no other `Prompt` that has yet to unsubscribe has that channel under its run id. -/
structure Forsaken (i : ℕ) (p : Prompt) (s : ServedAgent) : Prop where
  streams : StreamsOk s.handle
  ended : s.client.reader = .done
  thread : s.handle.threads[i]? = some p
  waits : p.pc = .select
  channel : ∃ ch, s.handle.shared.chans[p.events]? = some ch ∧ ch.buf = [] ∧ ch.closed = false
  others : ∀ (j : ℕ) q, j ≠ i → s.handle.threads[j]? = some q → q.subscribed = true →
    s.handle.shared.streams.lookup q.runID ≠ some p.events

/-- An entry for a channel that was there before a step was there too. -/
theorem Prompt.Step.lookup_before {a a' : AgentHandle} {q q' : Prompt} {l : PromptLabel}
    (h : q.Step a l a' q') {rid : String} {n : ℕ} (hn : n < a.chans.length)
    (hlookup : a'.streams.lookup rid = some n) : a.streams.lookup rid = some n := by
  cases h with
  | accepted | refused | reported | ctxDone | recv | recvClosed | sendError | sent => exact hlookup
  | subscribe =>
      rcases GoMap.lookup_insert_cases hlookup with ⟨-, rfl⟩ | ⟨-, hold⟩
      · exact absurd hn (lt_irrefl _)
      · exact hold
  | unsubscribe a'' res hpc ha =>
      rcases AgentHandle.unsubscribe_eq_some ha with ⟨-, rfl⟩ | ⟨m, ch, ch', -, -, -, rfl⟩
      · exact hlookup
      · exact (GoMap.lookup_erase_some hlookup).2

/-- A `Prompt` that is subscribed after a step, and has an old channel under its run id, was
subscribed before. -/
theorem Prompt.Step.subscribed_before {a a' : AgentHandle} {q q' : Prompt} {l : PromptLabel}
    (h : q.Step a l a' q') {n : ℕ} (hn : n < a.chans.length) (hsub : q'.subscribed = true)
    (hlookup : a'.streams.lookup q'.runID = some n) : q.subscribed = true := by
  rcases h.subscribed_cases hsub with ⟨-, hlen⟩ | ⟨hold, -⟩
  · cases h with
    | subscribe =>
        have hnew := AList.lookup_insert (a := q.runID) (b := a.chans.length) a.streams
        have hsame := Option.mem_unique hnew hlookup
        omega
    | accepted hpc | refused hpc | reported _ hpc | ctxDone hpc | recv _ _ _ hpc
    | recvClosed _ hpc | sendError _ hpc | sent _ hpc | unsubscribe _ _ hpc =>
        rw [Prompt.subscribed, hpc]
  · exact hold

/-- **A step of another `Prompt`** does not reach the channel. -/
theorem Forsaken.moved (hs : Forsaken i p s) {j : ℕ} {l : PromptLabel} {q q' : Prompt}
    {a : AgentHandle} (hji : j ≠ i) (hj : s.handle.threads[j]? = some q) (hstep : q.Step s.handle.shared l a q')
    (hstreams : StreamsOk ⟨a, s.handle.threads.set j q'⟩) :
    Forsaken i p { s with handle := ⟨a, s.handle.threads.set j q'⟩ } := by
  obtain ⟨ch, hch, hbuf, hopen⟩ := hs.channel
  have hlt := (List.getElem?_eq_some_iff.1 hch).1
  have hpsub : p.subscribed = true := by rw [Prompt.subscribed, hs.waits]
  refine ⟨hstreams, hs.ended, (List.getElem?_set_ne hji).trans hs.thread, hs.waits,
    ⟨ch, ?_, hbuf, hopen⟩, fun m r hm hr hsub hlookup => ?_⟩
  · cases hsubscribed : q.subscribed with
    | true =>
        have hne : q.subscribed = true → p.events ≠ q.events :=
          fun hq heq => hji (hs.streams.own j i q p hj hs.thread hq hpsub heq.symm)
        rw [hstep.frame.2.2 p.events hlt hne (hs.others j q hji hj hsubscribed)]
        exact hch
    | false =>
        cases hstep with
        | subscribe => exact getElem?_append_of_some _ hch
        | accepted hpc | refused hpc | reported _ hpc | ctxDone hpc | recv _ _ _ hpc
        | recvClosed _ hpc | sendError _ hpc | sent _ hpc | unsubscribe _ _ hpc =>
            rw [Prompt.subscribed, hpc] at hsubscribed
            cases hsubscribed
  · have hold := hstep.lookup_before hlt hlookup
    rcases getElem?_set_cases hr with ⟨rfl, rfl⟩ | ⟨-, hr⟩
    · rw [hstep.same.2] at hold
      exact hs.others m q hm hj (hstep.subscribed_before hlt hsub hlookup) hold
    · exact hs.others m r hm hr hsub hold

/-- **Nothing but the end of its context** makes such a `Prompt` continue. -/
theorem Forsaken.step {lab : ServedLabel} (hs : Forsaken i p s)
    (hlab : ∀ err, lab ≠ .prompts (.step i (.ctxDone err))) (h : s.step lab = some s') :
    Forsaken i p s' := by
  have hstreams := (ServedAgent.step_spec h).streams hs.streams
  cases ServedAgent.step_spec h with
  | client l c hc =>
      exact ⟨hs.streams, hc.reader_of_done hs.ended, hs.thread, hs.waits, hs.channel, hs.others⟩
  | routed c event q hc hr =>
      rw [hs.ended] at hr
      cases hr
  | spawned b =>
      refine ⟨hstreams, hs.ended, getElem?_append_of_some _ hs.thread, hs.waits,
        hs.channel, fun j q hji hj hsub => ?_⟩
      rcases getElem?_concat_cases hj with ⟨-, rfl⟩ | hold
      · cases hsub
      · exact hs.others j q hji hold hsub
  | called j raw params k c q _ _ _ hc =>
      exact ⟨hs.streams, hc.reader_of_done hs.ended, hs.thread, hs.waits, hs.channel, hs.others⟩
  | moved j l q q' a _ hj hstep _ hdone =>
      by_cases hji : j = i
      · -- its own steps from the `select` need an event or a closed channel
        subst hji
        obtain rfl := Option.mem_unique hs.thread hj
        obtain ⟨ch, hch, hbuf, hopen⟩ := hs.channel
        cases hstep with
        | ctxDone hpc err => exact absurd (hdone err rfl) (hlab err)
        | recv ch₀ ch' event hpc hch₀ hrecv =>
            obtain rfl := Option.mem_unique hch hch₀
            have hcons := (Chan.recv_eq_value.1 hrecv).1
            rw [hbuf] at hcons
            cases hcons
        | recvClosed ch₀ hpc hch₀ hrecv =>
            obtain rfl := Option.mem_unique hch hch₀
            have hclosed := (Chan.recv_eq_closed.1 hrecv).2
            rw [hopen] at hclosed
            cases hclosed
        | subscribe hpc | accepted hpc | refused hpc | reported _ hpc | sendError _ hpc
        | sent _ hpc | unsubscribe _ _ hpc =>
            rw [hs.waits] at hpc
            cases hpc
      · exact hs.moved hji hj hstep hstreams

theorem Forsaken.stranded (hs : Forsaken i p s) (hsent : ∀ item ∈ p.sent, item.final = false) :
    s.Stranded i := by
  obtain ⟨ch, hch, hbuf, -⟩ := hs.channel
  refine ⟨by rw [hs.ended]; rfl, ⟨p, ch, hs.thread, hs.waits, hsent, hch, hbuf⟩, ?_⟩
  intro l s' h hl
  have hlabels : ∀ lab ∈ l, ∀ err, lab ≠ .prompts (.step i (.ctxDone err)) :=
    fun lab hmem err heq => hl err (heq ▸ hmem)
  have hs' : Forsaken i p s' :=
    exec_invariant (fun _ _ _ hs hC hstep => hs.step hC hstep) hs (along_of_forall hlabels) h
  rw [hs'.thread, hs.thread]

end

/-- A run that the agent has accepted. -/
def acceptedRun : List ServedLabel :=
  [.client .setNotificationHandler,
    .prompts (.spawn
      { sess := session "sess_1", req := { sessionID := "sess_1", runID := "run_1" } }),
    .prompts (.step 0 .subscribe), .call 0 "1" {}, .client (.encoded 0 none),
    .client (.decoded (.ok { jsonrpc := "2.0", id := "rpc_1" })), .client .read, .client .read,
    .client .read, .client (.receive 0), .answered 0 1]

/-- The final event of the run. -/
def finalEvent : List ServedLabel :=
  [.client (.decoded (.ok
      { method := "session/update", params := { event := some (completed "sess_1" "run_1") } })),
    .client .read, .client .read]

/-- The output of the agent ends, and with it the reader. -/
def outputEnds : List ServedLabel :=
  [.client (.decoded (.error .eof)), .client .read, .client .read]

/-- The agent dies after the final event of its run: the run is not stranded. -/
theorem completedRun_not_stranded : ∃ s,
    exec ServedAgent.step {} (acceptedRun ++ finalEvent ++ outputEnds) = some s ∧
      s.client.reader.ended = true ∧ ∀ i, ¬s.Stranded i := by
  obtain ⟨s, hs, hended⟩ : ∃ s ∈ exec ServedAgent.step {} (acceptedRun ++ finalEvent ++ outputEnds),
      s.client.reader.ended = true := by
    decide +kernel
  exact ⟨s, hs, hended, not_stranded_of_endsRuns (by decide +kernel) hs⟩

/-- **The agent dies after it has accepted a run**, and the run is stranded. -/
theorem deadAgent_strands_run : ∃ s,
    exec ServedAgent.step {} (acceptedRun ++ outputEnds) = some s ∧ s.Stranded 0 := by
  obtain ⟨s, hs, hended, hone, p, hp, hwaits, hsent, ch, hch, hbuf, hopen⟩ :
      ∃ s ∈ exec ServedAgent.step {} (acceptedRun ++ outputEnds), s.client.reader.ended = true ∧
        s.handle.threads.length = 1 ∧ ∃ p ∈ s.handle.threads[0]?, p.selecting = true ∧
          p.sent.length = 0 ∧ ∃ ch ∈ s.handle.shared.chans[p.events]?,
            ch.buf.length = 0 ∧ ch.closed = false := by
    decide +kernel
  have hforsaken : Forsaken 0 p s := by
    refine ⟨ServedAgent.streamsOk hs, Reader.ended_iff.1 hended, hp, Prompt.selecting_iff.1 hwaits,
      ⟨ch, hch, List.length_eq_zero_iff.1 hbuf, hopen⟩, fun j q hj hq => ?_⟩
    have hlt := (List.getElem?_eq_some_iff.1 hq).1
    omega
  refine ⟨s, hs, hforsaken.stranded fun item hitem => ?_⟩
  rw [List.length_eq_zero_iff.1 hsent] at hitem
  cases hitem

end Supervisor
end Agentd
