/-
# A prompt on a remote node

`Runner.Prompt` of `runtime/local/runner.go`, `NodeServer.Prompt` of
`runtime/local/server.go` and `RemoteNodeClient.Prompt` of `runtime/client.go`.  A node
in the same process is asked through `Runner.Prompt`; a remote one through a client,
which talks to a server that calls `Runner.Prompt` and sends each event as an item of
its own, and the run in a closing item.

Both functions are receive loops: `promptLoop` is the loop, `Runner.onItem` and
`RemoteNodeClient.onItem` are the two bodies.  A stream is the list of its items with
the error of the `Recv` after them, which is `io.EOF` where the other side has returned
without one.  The callback `publish` may be nil; otherwise it passes a state of any type
and may fail on any event, so that what was published, and in which order, is part of
the state.

`Remote` is the call over the network: the server and the client move on their own, and
the items between them are a queue.  The server's `Send` can fail, and the stream it
reads can break off, only when the client has returned already.  The remote call refines
the direct one (`remote_prompt_refines_local`): it ends, and then what the client has
published and what it returns are those of the direct call.
-/

import Agentd.NodeRuntime.Runner
import Agentd.Supervisor.AgentHandle

namespace Agentd
namespace NodeRuntime

open Control Concurrency Supervisor

section

variable {σ : Type*}

/-- The callback of `Prompt`, nil or a function that passes a state on and may fail. -/
abbrev Publish (σ : Type*) := Option (σ → Event → σ × Option Err)

/-- `if publish != nil && item.Event.Type != ""`: an event without a type is not
published. -/
def Publish.event (publish : Publish σ) (s : σ) (event : Event) : σ × Option Err :=
  match publish with
  | some f => if event.type ≠ "" then f s event else (s, none)
  | none => (s, none)

/-- What an iteration of a receive loop comes to: the next one, with the run to keep, or
the return. -/
inductive Iteration
  | next (final : Run)
  | done (res : Except Err Run)

/-- What a receive loop returns when `Recv` fails: the run it kept, if there is one. -/
def onBreak (final : Run) (err : Err) : Except Err Run :=
  if final.id ≠ "" then .ok final else .error err

/-- A receive loop over a stream of `items` that breaks off with `err`. -/
def promptLoop (onItem : σ → Run → PromptStreamItem → σ × Iteration) :
    List PromptStreamItem → Err → Run → σ → σ × Except Err Run
  | [], err, final, s => (s, onBreak final err)
  | item :: items, err, final, s =>
      let r := onItem s final item
      match r.2 with
      | .done res => (r.1, res)
      | .next final' => promptLoop onItem items err final' r.1

/-- How the loop of `Runner.Prompt` goes on after an item. -/
def Runner.afterItem (item : PromptStreamItem) : Iteration :=
  if item.final then .done (.ok item.run) else .next item.run

/-- The body of the loop of `Runner.Prompt`. -/
def Runner.onItem (publish : Publish σ) (s : σ) (_ : Run) (item : PromptStreamItem) :
    σ × Iteration :=
  match publish.event s item.event with
  | (s', some err) => (s', .done (.error err))
  | (s', none) => (s', Runner.afterItem item)

/-- The body of the loop of `RemoteNodeClient.Prompt`. -/
def RemoteNodeClient.onItem (publish : Publish σ) (s : σ) (final : Run)
    (item : PromptStreamItem) : σ × Iteration :=
  match publish.event s item.event with
  | (s', some err) => (s', .done (.error err))
  | (s', none) =>
      if item.error ≠ "" ∧ item.final ∧ item.run.id = "" then
        (s', .done (.error (.other item.error)))
      else
        let final' := if item.run.id ≠ "" then item.run else final
        (s', if item.final then .done (.ok final') else .next final')

/-- `Runner.Prompt`.  `opened` is the stream of the supervisor, or the error of
`handleBySession` or of the call that opens it. -/
def Runner.prompt (publish : Publish σ) (opened : Except Err (List PromptStreamItem × Err))
    (s : σ) : σ × Except Err Run :=
  match opened with
  | .error err => (s, .error err)
  | .ok (items, err) => promptLoop (Runner.onItem publish) items err {} s

/-- The items of the stream, if there is one. -/
def streamItems : Except Err (List PromptStreamItem × Err) → List PromptStreamItem
  | .error _ => []
  | .ok r => r.1

/-- `RemoteNodeClient.Prompt`, over the stream of the server. -/
def RemoteNodeClient.prompt (publish : Publish σ) (stream : List PromptStreamItem × Err)
    (s : σ) : σ × Except Err Run :=
  promptLoop (RemoteNodeClient.onItem publish) stream.1 stream.2 {} s

end

/-- The error of `Recv` after the other side has returned without one. -/
def eof : Err := .other "EOF"

namespace NodeServer

/-- The callback of `NodeServer.Prompt`: each event is sent as an item of its own.  `err` is
what `stream.Send` returns. -/
def send (err : Option Err) : Publish (List PromptStreamItem) :=
  some fun wire event =>
    (if err.isNone then wire ++ [{ event := event, final := false }] else wire, err)

/-- The end of `NodeServer.Prompt`: the run goes out in a closing item, and an error of
`Runner.Prompt` ends the stream. -/
def closing : List PromptStreamItem × Except Err Run → List PromptStreamItem × Err
  | (wire, .ok run) => (wire ++ [{ run, final := true }], eof)
  | (wire, .error err) => (wire, err)

/-- `NodeServer.Prompt`, when every `Send` succeeds: the stream that the client reads. -/
def prompt (opened : Except Err (List PromptStreamItem × Err)) : List PromptStreamItem × Err :=
  closing (Runner.prompt (send none) opened [])

end NodeServer

/-- Where the server stands: in the loop of `Runner.Prompt`, before the send of the
closing item, or at its end. -/
inductive ServerPC
  | recv (items : List PromptStreamItem) (err : Err) (final : Run)
  | sendRun (run : Run)
  | ended (err : Err)

/-- Where the client stands: in its loop or at its end. -/
inductive ClientPC
  | recv (final : Run)
  | returned (res : Except Err Run)

/-- A prompt on a remote node: the server, the items that are sent and not received, the
client, and the state of its `publish`. -/
structure Remote (σ : Type*) where
  server : ServerPC
  wire : List PromptStreamItem := []
  client : ClientPC := .recv {}
  published : σ

/-- What happens next: an iteration of the server, with the return of its `Send`; the
stream that the server reads breaks off; or an iteration of the client. -/
inductive RemoteLabel
  | serve (sendErr : Option Err)
  | cut (err : Err)
  | receive

/-- The server after `Runner.Prompt` has returned. -/
def ServerPC.after : Except Err Run → ServerPC
  | .ok run => .sendRun run
  | .error err => .ended err

/-- The server after an iteration of the loop. -/
def ServerPC.next (items : List PromptStreamItem) (err : Err) : Iteration → ServerPC
  | .next final => .recv items err final
  | .done res => .after res

/-- The client after an iteration of its loop. -/
def ClientPC.next : Iteration → ClientPC
  | .next final => .recv final
  | .done res => .returned res

/-- The client has returned. -/
def ClientPC.gone : ClientPC → Bool
  | .recv _ => false
  | .returned _ => true

/-- What the client still has to read, when `wire` is sent and every further `Send`
succeeds. -/
def ServerPC.stream (wire : List PromptStreamItem) : ServerPC → List PromptStreamItem × Err
  | .recv items err final =>
      NodeServer.closing (promptLoop (Runner.onItem (NodeServer.send none)) items err final wire)
  | .sendRun run => NodeServer.closing (wire, .ok run)
  | .ended err => (wire, err)

namespace Remote

variable {σ : Type*}

/-- The remote call begins. -/
def start (opened : Except Err (List PromptStreamItem × Err)) (s : σ) : Remote σ where
  server :=
    match opened with
    | .error err => .ended err
    | .ok (items, err) => .recv items err {}
  published := s

/-- One iteration of the server. -/
def serve (st : Remote σ) (sendErr : Option Err) : Option (Remote σ) :=
  match st.server with
  | .recv [] err final => some { st with server := .after (onBreak final err) }
  | .recv (item :: items) err final =>
      let r := Runner.onItem (NodeServer.send sendErr) st.wire final item
      some { st with wire := r.1, server := .next items err r.2 }
  | .sendRun run =>
      match sendErr with
      | none => some { st with wire := st.wire ++ [{ run, final := true }], server := .ended eof }
      | some err => some { st with server := .ended err }
  | .ended _ => none

/-- One iteration of the client: it receives the first item of the queue, or the end of
the stream after the last. -/
def receive (publish : Publish σ) (st : Remote σ) : Option (Remote σ) :=
  match st.client, st.wire, st.server with
  | .recv final, item :: wire, _ =>
      let r := RemoteNodeClient.onItem publish st.published final item
      some { st with wire, published := r.1, client := .next r.2 }
  | .recv final, [], .ended err => some { st with client := .returned (onBreak final err) }
  | _, _, _ => none

/-- One step of the remote call. -/
def step (publish : Publish σ) (st : Remote σ) : RemoteLabel → Option (Remote σ)
  | .serve sendErr => if sendErr.isSome && !st.client.gone then none else st.serve sendErr
  | .cut err =>
      match st.server, st.client with
      | .recv (_ :: _) _ final, .returned _ => some { st with server := .recv [] err final }
      | _, _ => none
  | .receive => st.receive publish

end Remote

section

variable {σ : Type*} {publish : Publish σ}

/-- What a direct and a remote call have in common: what was published, and the run that
is returned, if one is. -/
def Agrees (a b : σ × Except Err Run) : Prop := a.1 = b.1 ∧ a.2.toOption = b.2.toOption

theorem Runner.onItem_of_no_type (publish : Publish σ) (s : σ) (final : Run)
    {item : PromptStreamItem} (htype : item.event.type = "") :
    Runner.onItem publish s final item = (s, Runner.afterItem item) := by
  cases publish <;> simp [Runner.onItem, Publish.event, htype]

/-- An iteration of the server's loop appends to the queue: it depends on what was there
in no other way. -/
theorem Runner.onItem_send (x : PromptStreamItem) (wire : List PromptStreamItem) (final : Run)
    (item : PromptStreamItem) :
    Runner.onItem (NodeServer.send none) (x :: wire) final item =
      (x :: (Runner.onItem (NodeServer.send none) wire final item).1,
        (Runner.onItem (NodeServer.send none) wire final item).2) := by
  by_cases htype : item.event.type = "" <;>
    simp [Runner.onItem, Publish.event, NodeServer.send, htype]

/-- The loop of the server appends to the queue. -/
theorem promptLoop_send (x : PromptStreamItem) (items : List PromptStreamItem) (err : Err)
    (final : Run) (wire : List PromptStreamItem) :
    promptLoop (Runner.onItem (NodeServer.send none)) items err final (x :: wire) =
      (x :: (promptLoop (Runner.onItem (NodeServer.send none)) items err final wire).1,
        (promptLoop (Runner.onItem (NodeServer.send none)) items err final wire).2) := by
  induction items generalizing final wire with
  | nil => rfl
  | cons item items ih =>
      rw [promptLoop, promptLoop, Runner.onItem_send]
      rcases Runner.onItem (NodeServer.send none) wire final item with ⟨wire', final' | res⟩
      · exact ih final' wire'
      · rfl

theorem NodeServer.closing_cons (x : PromptStreamItem)
    (r : List PromptStreamItem × Except Err Run) :
    NodeServer.closing (x :: r.1, r.2) =
      (x :: (NodeServer.closing r).1, (NodeServer.closing r).2) := by
  rcases r with ⟨wire, err | run⟩ <;> rfl

/-- What is at the head of the queue is the next that the client reads. -/
theorem ServerPC.stream_cons (server : ServerPC) (x : PromptStreamItem)
    (wire : List PromptStreamItem) :
    server.stream (x :: wire) = (x :: (server.stream wire).1, (server.stream wire).2) := by
  cases server with
  | recv items err final =>
      rw [ServerPC.stream, promptLoop_send, NodeServer.closing_cons]
      rfl
  | sendRun run => rfl
  | ended err => rfl

/-- An iteration of the server leaves what the client will have read as it is. -/
theorem ServerPC.stream_next (item : PromptStreamItem) (items : List PromptStreamItem) (err : Err)
    (final : Run) (wire : List PromptStreamItem) :
    (ServerPC.recv (item :: items) err final).stream wire =
      (ServerPC.next items err (Runner.onItem (NodeServer.send none) wire final item).2).stream
        (Runner.onItem (NodeServer.send none) wire final item).1 := by
  rw [ServerPC.stream, promptLoop]
  rcases Runner.onItem (NodeServer.send none) wire final item with ⟨wire', final' | res⟩
  · rfl
  · rcases res with err' | run <;> rfl

theorem RemoteNodeClient.prompt_closing (run kept : Run) (s : σ) (err : Err) (hid : run.id ≠ "") :
    promptLoop (RemoteNodeClient.onItem publish) [{ run, final := true }] err kept s =
      (s, .ok run) := by
  have hevent : publish.event s {} = (s, none) := by
    cases publish <;> rfl
  simp [promptLoop, RemoteNodeClient.onItem, hevent, hid]

/-- **The client over the server is the loop of `Runner.Prompt`.**  The induction is on the
items of the supervisor; `kept` is the run the client has kept, which stays empty until
the closing item. -/
theorem prompt_over_server (items : List PromptStreamItem) (err : Err) (final kept : Run) (s : σ)
    (hid : ∀ item ∈ items, item.run.id ≠ "") (hkept : kept.id = "") :
    Agrees
      (promptLoop (RemoteNodeClient.onItem publish)
        ((ServerPC.recv items err final).stream []).1 ((ServerPC.recv items err final).stream []).2
        kept s)
      (promptLoop (Runner.onItem publish) items err final s) := by
  induction items generalizing final kept s with
  | nil =>
      by_cases hfinal : final.id = ""
      · simp [ServerPC.stream, promptLoop, onBreak, hfinal, NodeServer.closing, hkept, Agrees,
          Except.toOption]
      · have hbreak : onBreak final err = .ok final := by rw [onBreak, if_pos hfinal]
        rw [ServerPC.stream, promptLoop, promptLoop, hbreak]
        show Agrees (promptLoop _ [{ run := final, final := true }] eof kept s) _
        rw [RemoteNodeClient.prompt_closing _ _ _ _ hfinal]
        exact ⟨rfl, rfl⟩
  | cons item items ih =>
      have hrun := hid item (List.mem_cons_self ..)
      have hids : ∀ item ∈ items, item.run.id ≠ "" :=
        fun item' hmem => hid item' (List.mem_cons_of_mem _ hmem)
      -- What follows the item on either side, from the same state of `publish`.
      have htail : ∀ s', Agrees
          (promptLoop (RemoteNodeClient.onItem publish)
            ((ServerPC.next items err (Runner.afterItem item)).stream []).1
            ((ServerPC.next items err (Runner.afterItem item)).stream []).2 kept s')
          (match Runner.afterItem item with
            | .done res => (s', res)
            | .next final' => promptLoop (Runner.onItem publish) items err final' s') := by
        intro s'
        unfold Runner.afterItem
        cases item.final with
        | true =>
            show Agrees (promptLoop _ [{ run := item.run, final := true }] eof kept s') _
            rw [RemoteNodeClient.prompt_closing _ _ _ _ hrun]
            exact ⟨rfl, rfl⟩
        | false => exact ih item.run kept s' hids hkept
      rw [ServerPC.stream_next]
      by_cases htype : item.event.type = ""
      · rw [Runner.onItem_of_no_type _ _ _ htype, promptLoop, Runner.onItem_of_no_type _ _ _ htype]
        exact htail s
      · have hserver : Runner.onItem (NodeServer.send none) [] final item =
            ([{ event := item.event, final := false }], Runner.afterItem item) := by
          simp [Runner.onItem, Publish.event, NodeServer.send, htype]
        rw [hserver, ServerPC.stream_cons, promptLoop, promptLoop, Runner.onItem,
          RemoteNodeClient.onItem]
        rcases publish.event s item.event with ⟨s', _ | perr⟩
        · simpa using htail s'
        · exact ⟨rfl, rfl⟩

/-- The client over the whole stream of the server agrees with the direct call. -/
theorem remotePrompt_agrees {opened : Except Err (List PromptStreamItem × Err)} (s : σ)
    (hid : ∀ item ∈ streamItems opened, item.run.id ≠ "") :
    Agrees (RemoteNodeClient.prompt publish (NodeServer.prompt opened) s)
      (Runner.prompt publish opened s) := by
  cases opened with
  | error err => exact ⟨rfl, rfl⟩
  | ok r => exact prompt_over_server r.1 r.2 {} {} s hid rfl

/-- What a step of the remote call can do.  A `Send` fails only when the client has
returned. -/
inductive Remote.Step (publish : Publish σ) (st : Remote σ) : RemoteLabel → Remote σ → Prop
  | broke (sendErr : Option Err) (err : Err) (final : Run) (hserver : st.server = .recv [] err final) :
      Step publish st (.serve sendErr) { st with server := .after (onBreak final err) }
  | item (sendErr : Option Err) (item : PromptStreamItem) (items : List PromptStreamItem) (err : Err)
      (final : Run) (hserver : st.server = .recv (item :: items) err final)
      (hgone : sendErr = none ∨ ∃ res, st.client = .returned res) :
      Step publish st (.serve sendErr)
        { st with
          wire := (Runner.onItem (NodeServer.send sendErr) st.wire final item).1
          server := .next items err (Runner.onItem (NodeServer.send sendErr) st.wire final item).2 }
  | sent (run : Run) (hserver : st.server = .sendRun run) :
      Step publish st (.serve none)
        { st with wire := st.wire ++ [{ run, final := true }], server := .ended eof }
  | sendError (err : Err) (run : Run) (hserver : st.server = .sendRun run) (res : Except Err Run)
      (hclient : st.client = .returned res) :
      Step publish st (.serve (some err)) { st with server := .ended err }
  | cut (err err' : Err) (item : PromptStreamItem) (items : List PromptStreamItem) (final : Run)
      (hserver : st.server = .recv (item :: items) err' final) (res : Except Err Run)
      (hclient : st.client = .returned res) :
      Step publish st (.cut err) { st with server := .recv [] err final }
  | received (kept : Run) (item : PromptStreamItem) (wire : List PromptStreamItem)
      (hclient : st.client = .recv kept) (hwire : st.wire = item :: wire) :
      Step publish st .receive
        { st with
          wire
          published := (RemoteNodeClient.onItem publish st.published kept item).1
          client := .next (RemoteNodeClient.onItem publish st.published kept item).2 }
  | ended (kept : Run) (err : Err) (hclient : st.client = .recv kept) (hwire : st.wire = [])
      (hserver : st.server = .ended err) :
      Step publish st .receive { st with client := .returned (onBreak kept err) }

def ServerPC.work : ServerPC → ℕ
  | .recv items _ _ => 2 * items.length + 3
  | .sendRun _ => 2
  | .ended _ => 0

def ClientPC.work : ClientPC → ℕ
  | .recv _ => 1
  | .returned _ => 0

theorem ServerPC.work_after (res : Except Err Run) : (ServerPC.after res).work ≤ 2 := by
  cases res <;> simp [ServerPC.after, ServerPC.work]

theorem ServerPC.work_next (items : List PromptStreamItem) (err : Err) (iter : Iteration) :
    (ServerPC.next items err iter).work ≤ 2 * items.length + 3 := by
  cases iter with
  | next final => exact Nat.le_refl _
  | done res =>
      have hafter := ServerPC.work_after res
      show (ServerPC.after res).work ≤ _
      omega

theorem ClientPC.work_next (iter : Iteration) : (ClientPC.next iter).work ≤ 1 := by
  cases iter <;> simp [ClientPC.next, ClientPC.work]

namespace Remote

variable {st st' : Remote σ} {end_ : σ × Except Err Run} {l : RemoteLabel}

/-- **A step of the remote call is one of `Remote.Step`.** -/
theorem step_spec (h : st.step publish l = some st') : st.Step publish l st' := by
  cases l with
  | serve sendErr =>
      have hrun : (if sendErr.isSome && !st.client.gone then none else st.serve sendErr) =
        some st' := h
      split_ifs at hrun with hfail
      have hgone : sendErr = none ∨ ∃ res, st.client = .returned res := by
        cases sendErr with
        | none => exact Or.inl rfl
        | some err =>
            cases hclient : st.client with
            | recv kept => simp [hclient, ClientPC.gone] at hfail
            | returned res => exact Or.inr ⟨res, rfl⟩
      unfold serve at hrun
      split at hrun
      · next err final hserver => exact Option.some.inj hrun ▸ .broke sendErr err final hserver
      · next item items err final hserver =>
          exact Option.some.inj hrun ▸ .item sendErr item items err final hserver hgone
      · next run hserver =>
          cases sendErr with
          | none => exact Option.some.inj hrun ▸ .sent run hserver
          | some err =>
              rcases hgone with hnone | ⟨res, hclient⟩
              · cases hnone
              · exact Option.some.inj hrun ▸ .sendError err run hserver res hclient
      · cases hrun
  | cut err =>
      have hcut : (match st.server, st.client with
        | .recv (_ :: _) _ final, .returned _ => some { st with server := .recv [] err final }
        | _, _ => none) = some st' := h
      split at hcut
      · next item items err' final res hserver hclient =>
          exact Option.some.inj hcut ▸ .cut err err' item items final hserver res hclient
      · cases hcut
  | receive =>
      have hrecv : st.receive publish = some st' := h
      unfold receive at hrecv
      split at hrecv
      · next kept item wire hclient hwire => 
          exact Option.some.inj hrecv ▸ .received kept item wire hclient hwire
      · next kept err hclient hwire hserver =>
          exact Option.some.inj hrecv ▸ .ended kept err hclient hwire hserver
      · cases hrecv

/-- The invariant: what the client still has to do, over what it still has to read, comes
to `end_`; and once it has returned, that is what it came to. -/
def Leads (publish : Publish σ) (end_ : σ × Except Err Run) (st : Remote σ) : Prop :=
  match st.client with
  | .recv kept =>
      promptLoop (RemoteNodeClient.onItem publish) (st.server.stream st.wire).1
        (st.server.stream st.wire).2 kept st.published = end_
  | .returned res => (st.published, res) = end_

/-- The server moves and what the client has to read stays. -/
theorem Leads.of_stream (hst : st.Leads publish end_) (hclient : st'.client = st.client)
    (hpub : st'.published = st.published)
    (hstream : st'.server.stream st'.wire = st.server.stream st.wire) :
    st'.Leads publish end_ := by
  unfold Leads at hst ⊢
  rw [hclient, hpub, hstream]
  exact hst

/-- When the client has returned, the server does not matter any more. -/
theorem Leads.of_returned {res : Except Err Run} (hst : st.Leads publish end_)
    (hres : st.client = .returned res) (hclient : st'.client = st.client)
    (hpub : st'.published = st.published) : st'.Leads publish end_ := by
  unfold Leads at hst ⊢
  rw [hclient, hpub]
  rw [hres] at hst ⊢
  exact hst

/-- **Every step keeps the end in sight.** -/
theorem Leads.step (hst : st.Leads publish end_) (h : st.step publish l = some st') :
    st'.Leads publish end_ := by
  cases step_spec h with
  | broke sendErr err final hserver =>
      refine hst.of_stream rfl rfl ?_
      rw [hserver, ServerPC.stream, promptLoop]
      show (ServerPC.after (onBreak final err)).stream st.wire = _
      cases onBreak final err <;> rfl
  | item sendErr item items err final hserver hgone =>
      rcases hgone with rfl | ⟨res, hres⟩
      · refine hst.of_stream rfl rfl ?_
        rw [hserver, ServerPC.stream_next]
      · exact hst.of_returned hres rfl rfl
  | sent run hserver =>
      refine hst.of_stream rfl rfl ?_
      rw [hserver]
      rfl
  | sendError err run hserver res hres => exact hst.of_returned hres rfl rfl
  | cut err err' item items final hserver res hres => exact hst.of_returned hres rfl rfl
  | received kept item wire hclient hwire =>
      unfold Leads at hst
      rw [hclient, hwire, ServerPC.stream_cons] at hst
      simp only [promptLoop] at hst
      unfold Leads
      dsimp only
      cases hiter : (RemoteNodeClient.onItem publish st.published kept item).2 with
      | next kept' =>
          rw [hiter] at hst
          exact hst
      | done res =>
          rw [hiter] at hst
          exact hst
  | ended kept err hclient hwire hserver =>
      unfold Leads at hst
      rw [hclient, hwire, hserver] at hst
      exact hst

/-- What is left to do: for the server two steps for each item, of which one is a send;
a step for each item in the queue; and the end of the client. -/
def work (st : Remote σ) : ℕ := st.server.work + st.wire.length + st.client.work

theorem length_onItem_send (sendErr : Option Err) (wire : List PromptStreamItem) (final : Run)
    (item : PromptStreamItem) :
    (Runner.onItem (NodeServer.send sendErr) wire final item).1.length ≤ wire.length + 1 := by
  by_cases htype : item.event.type = ""
  · rw [Runner.onItem_of_no_type _ _ _ htype]
    exact Nat.le_succ _
  · cases sendErr <;> simp [Runner.onItem, Publish.event, NodeServer.send, htype]

/-- **Every step leaves less to do.** -/
theorem work_lt (h : st.step publish l = some st') : st'.work < st.work := by
  unfold work
  cases step_spec h with
  | broke sendErr err final hserver =>
      have hafter := ServerPC.work_after (onBreak final err)
      have hwork : st.server.work = 3 := by rw [hserver]; rfl
      dsimp only
      omega
  | item sendErr item items err final hserver hgone =>
      have hlen := length_onItem_send sendErr st.wire final item
      have hnext := ServerPC.work_next items err
        (Runner.onItem (NodeServer.send sendErr) st.wire final item).2
      have hwork : st.server.work = 2 * (items.length + 1) + 3 := by rw [hserver]; rfl
      dsimp only
      omega
  | sent run hserver =>
      simp only [hserver, ServerPC.work, List.length_append, List.length_singleton]
      omega
  | sendError err run hserver =>
      simp only [hserver, ServerPC.work]
      omega
  | cut err err' item items final hserver =>
      simp only [hserver, ServerPC.work, List.length_cons, List.length_nil]
      omega
  | received kept item wire hclient hwire =>
      have hnext := ClientPC.work_next (RemoteNodeClient.onItem publish st.published kept item).2
      have hwork : st.client.work = 1 := by rw [hclient]; rfl
      rw [hwire, List.length_cons]
      dsimp only
      omega
  | ended kept err hclient hwire hserver =>
      simp only [hclient, ClientPC.work]
      omega

/-- **Until the client has returned, a step is possible.** -/
theorem step_isSome (publish : Publish σ) {kept : Run} (hclient : st.client = .recv kept) :
    ∃ l, (st.step publish l).isSome = true := by
  rcases hserver : st.server with ⟨items, err, final⟩ | run | err
  · refine ⟨.serve none, ?_⟩
    cases items <;> simp [step, serve, hserver]
  · exact ⟨.serve none, by simp [step, serve, hserver]⟩
  · refine ⟨.receive, ?_⟩
    cases hwire : st.wire <;> simp [step, receive, hclient, hwire, hserver]

/-- The remote call begins with what the client makes of the whole stream of the server. -/
theorem leads_start (opened : Except Err (List PromptStreamItem × Err)) (s : σ) :
    (start opened s).Leads publish
      (RemoteNodeClient.prompt publish (NodeServer.prompt opened) s) := by
  cases opened <;> rfl

theorem work_start (opened : Except Err (List PromptStreamItem × Err)) (s : σ) :
    (start opened s).work ≤ 2 * (streamItems opened).length + 4 := by
  cases opened with
  | error err => simp [work, start, ServerPC.work, ClientPC.work]
  | ok r => exact Nat.le_refl _

end Remote

/-- **The remote prompt refines the local one.**  For every stream of the supervisor whose
items have a run id, or an error in place of the stream, and every callback: in every
state that the remote call can be in, when the client has returned, it has published
what the direct call publishes and returns its run, or fails where it fails; until then
a step is possible; and there are no more steps than two for each item and four. -/
theorem remote_prompt_refines_local {opened : Except Err (List PromptStreamItem × Err)} {s : σ}
    {l : List RemoteLabel} {st : Remote σ} (hid : ∀ item ∈ streamItems opened, item.run.id ≠ "")
    (h : exec (Remote.step publish) (Remote.start opened s) l = some st) :
    (∀ res, st.client = .returned res →
        Agrees (st.published, res) (Runner.prompt publish opened s)) ∧
      (∀ kept, st.client = .recv kept → ∃ a, (st.step publish a).isSome = true) ∧
      l.length ≤ 2 * (streamItems opened).length + 4 := by
  have hst : st.Leads publish (RemoteNodeClient.prompt publish (NodeServer.prompt opened) s) :=
    exec_invariant_of_step (fun _ _ _ hst hstep => hst.step hstep) (Remote.leads_start opened s) h
  refine ⟨fun res hres => ?_, fun kept hkept => Remote.step_isSome publish hkept, ?_⟩
  · unfold Remote.Leads at hst
    rw [hres] at hst
    exact hst ▸ remotePrompt_agrees s hid
  · have hlen := exec_length_le (fun _ _ _ hstep => Remote.work_lt hstep) h
    have hstart := Remote.work_start opened s
    omega

end

/-- A callback that records the events and fails on the type `stop`. -/
def recorder : Publish (List Event) :=
  some fun events event =>
    (events ++ [event], if event.type = "stop" then some (.other "stopped") else none)

/-- A chunk, an event on which `recorder` fails, and the final event of a run. -/
def threeItems : List PromptStreamItem :=
  [{ event := { type := "chunk" }, run := { id := "run_1", state := .streaming } },
    { event := { type := "stop" }, run := { id := "run_1", state := .streaming } },
    { event := { type := "completed" }, run := { id := "run_1", state := .completed }, final := true }]

/-- The server is ahead of the client, which stops at the second event; a later `Send`
fails. -/
def stoppedPrompt : List RemoteLabel :=
  [.serve none, .serve none, .receive, .receive, .serve (some (.other "canceled"))]

/-- `remote_prompt_refines_local` applies to `stoppedPrompt`. -/
theorem stoppedPrompt_refines_local :
    ∃ st ∈ exec (Remote.step recorder) (Remote.start (.ok (threeItems, eof)) []) stoppedPrompt,
      ∃ res, st.client = .returned res ∧ st.published.length = 2 ∧
        Agrees (st.published, res) (Runner.prompt recorder (.ok (threeItems, eof)) []) :=
  ⟨_, rfl, _, rfl, rfl,
    (remote_prompt_refines_local (l := stoppedPrompt) (by decide) rfl).1 _ rfl⟩

end NodeRuntime
end Agentd
