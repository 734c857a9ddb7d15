/-
# A prompt from the supervisor to the broker

`SessionActivities` has the `Prompt` activity with a node that may answer anything.  Here the
node is the client that `Activities.Nodes` has for it, direct or remote, reading a stream item
by item, and its callback is that of the activity: `a.publish`.  So what is published, and the
run that the activity stores, come from the stream.  Each step of a `Relay` is one or two steps
of the activity (`Relay.step_refines`).

A `Relay` runs among `Cancel` activities and whatever else changes the store, the nodes and the
events (`runStep`).

A client returns a run without an error, though the stream broke off before the final item, and
then the activity stores a run that has not ended with a session that waits for input
(`prompt_ended_iff`).  What the activity publishes is the subject of `RunEvents`.
-/

import Agentd.NodeRuntime.NodeStreams
import Agentd.NodeRuntime.Replies
import Agentd.Workflows.ActivitySteps

namespace Agentd
namespace Workflows

open Control Store NodeRuntime Supervisor Concurrency

/-- The event as `publish` hands it to the broker. -/
def stamp (now : Time) (event : Event) : Event :=
  if event.time = 0 then { event with time := now } else event

/-- What a publish adds to the events. -/
def stamped (o : Outcome) (now : Time) (event : Event) : List Event :=
  if o.took then [stamp now event] else []

/-- The callback of `Prompt`, at a call of the broker that ends with `a`. -/
def publishing (a : Answer) : Publish World :=
  some fun w event => (w.publish a.outcome a.now event, a.outcome.err)

/-- The event that announces a run. -/
def Prompt.started (sess : Session) (run : Run) (now : Time) : Event :=
  { sessionID := sess.id, runID := run.id, type := "run.started", sequence := 1, time := now }

/-- The activity after `node.Prompt` has returned. -/
def Prompt.afterNode (sess : Session) (run : Run) (now : Time) : Except Err Run → Prompt
  | .ok final => .upsertFinalRun sess run final
  | .error e => .upsertFailedRun sess (Prompt.failedRun run e now)

/-- A call of `node.Prompt`: the request, the client, the stream as it was opened, what is left
of it, and the run that the client has kept. -/
structure NodeCall where
  req : PromptRequest
  client : Client
  opened : Except Err (List PromptStreamItem × Err)
  stream : Except Err (List PromptStreamItem × Err)
  kept : Run := {}

/-- A `Prompt` activity with its call of the node, and the events that it has published. -/
structure Relay where
  activity : Prompt
  call : Option NodeCall := none
  published : List Event := []

/-- What happens next to a `Prompt` or a `Cancel`: a call of it ends, or its next iteration at
the node does, with `a` for the broker; or a client opens a stream. -/
inductive RelayLabel
  | call (a : Answer)
  | opened (client : Client) (stream : Except Err (List PromptStreamItem × Err))

/-- The event of an item, if it is published. -/
def relayed (a : Answer) (item : PromptStreamItem) : List Event :=
  if item.event.type ≠ "" then stamped a.outcome a.now item.event else []

/-- One iteration of the client. -/
def Relay.receive (w : World) (a : Answer) (r : Relay) (sess : Session) (run : Run)
    (c : NodeCall) : World × Relay :=
  match c.stream with
  | .error e => (w, { r with activity := .afterNode sess run a.now (.error e) })
  | .ok ([], err) => (w, { r with activity := .afterNode sess run a.now (onBreak c.kept err) })
  | .ok (item :: items, err) =>
      let t := c.client.onItem (publishing a) w c.kept item
      let published := r.published ++ relayed a item
      (t.1,
        match t.2 with
        | .next kept => { r with call := some { c with stream := .ok (items, err), kept }, published }
        | .done res =>
            { activity := .afterNode sess run a.now res
              call := some { c with stream := .ok (items, err) }
              published })

/-- One step of a `Prompt` with its call of the node. -/
def Relay.step (w : World) (r : Relay) : RelayLabel → Option (World × Relay)
  | .opened client stream =>
      match r.activity, r.call with
      | .nodePrompt req _ _ _, none =>
          some (w, { r with call := some { req, client, opened := stream, stream } })
      | _, _ => none
  | .call a =>
      match r.activity, r.call with
      | .nodePrompt _ sess _ run, some c => some (r.receive w a sess run c)
      | .nodePrompt .., none => none
      | .publishStarted req sess node run, _ =>
          some (w.publish a.outcome a.now (Prompt.started sess run a.now),
            { r with
              activity := .nodePrompt req sess node run
              published := r.published ++ stamped a.outcome a.now (Prompt.started sess run a.now) })
      | x, _ => (x.step w a).map fun t => (t.1, { r with activity := t.2 })

/-- The activities that have to do with one run: its `Prompt`, and `Cancel`s. -/
inductive RunActivity
  | prompt (r : Relay)
  | cancel (x : Cancel)

/-- One step of such an activity. -/
def RunActivity.step (w : World) : RunActivity → RelayLabel → Option (World × RunActivity)
  | .prompt r, l => (r.step w l).map fun t => (t.1, .prompt t.2)
  | .cancel x, .call a => (x.step w a).map fun t => (t.1, .cancel t.2)
  | .cancel _, .opened _ _ => none

def runMachine : Machine World RunActivity CancelRequest RelayLabel where
  start _ req := some (.cancel (.getSession req))
  run _ w x l := x.step w l

/-- What happens next: something to these activities, or others leave the world `w`. -/
inductive RunLabel
  | activity (l : PoolLabel CancelRequest RelayLabel)
  | others (w : World)

def runStep (p : Pool World RunActivity) : RunLabel → Option (Pool World RunActivity)
  | .activity l => p.step runMachine l
  | .others w => some { p with shared := w }

/-- A `Prompt` begins. -/
def prompting (w : World) (req : PromptRequest) : Pool World RunActivity :=
  ⟨w, [.prompt { activity := .getSession req }]⟩

/-- The activity is about to publish, or at its call of the node. -/
def Prompt.publishes : Prompt → Bool
  | .publishStarted .. | .nodePrompt .. => true
  | _ => false

section

variable {w w' : World} {a : Answer} {r r' : Relay} {l : RelayLabel}

theorem World.publish_published (w : World) (o : Outcome) (now : Time) (event : Event) :
    (w.publish o now event).published = w.published ++ stamped o now event := by
  unfold World.publish stamped stamp
  dsimp only
  split_ifs <;> simp

@[simp] theorem World.write_published (w : World) (o : Outcome) (f : MemoryStore → MemoryStore) :
    (w.write o f).published = w.published := by
  unfold World.write
  split_ifs <;> rfl

theorem Prompt.step_published {x x' : Prompt} (hx : x.publishes = false)
    (h : x.step w a = some (w', x')) : w'.published = w.published := by
  cases x with
  | publishStarted | nodePrompt => cases hx
  | returned => cases h
  | getSession | containerNode =>
      obtain ⟨rfl, -⟩ := some_pair_inj h
      rfl
  | upsertSession | upsertRun | upsertFailedRun | upsertFailedSession | upsertFinalRun
  | upsertFinalSession | appendAudit =>
      obtain ⟨rfl, -⟩ := some_pair_inj h
      exact World.write_published ..

theorem publishing_published (w : World) (a : Answer) (item : PromptStreamItem) :
    ((publishing a).event w item.event).1.published = w.published ++ relayed a item := by
  unfold publishing Publish.event relayed
  dsimp only
  split_ifs with htype
  · exact World.publish_published ..
  · exact (List.append_nil _).symm

/-- What a step of a `Prompt` with its call of the node can do. -/
inductive Relay.Step (w : World) (r : Relay) : RelayLabel → World → Relay → Prop
  | opened {req : PromptRequest} {sess : Session} {node : String} {run : Run} (client : Client)
      (stream : Except Err (List PromptStreamItem × Err))
      (hx : r.activity = .nodePrompt req sess node run) (hc : r.call = none) :
      Step w r (.opened client stream) w
        { r with call := some { req, client, opened := stream, stream } }
  | failed {req : PromptRequest} {sess : Session} {node : String} {run : Run} {c : NodeCall}
      (a : Answer) (e : Err) (hx : r.activity = .nodePrompt req sess node run)
      (hc : r.call = some c) (hs : c.stream = .error e) :
      Step w r (.call a) w { r with activity := .afterNode sess run a.now (.error e) }
  | broke {req : PromptRequest} {sess : Session} {node : String} {run : Run} {c : NodeCall}
      (a : Answer) (err : Err) (hx : r.activity = .nodePrompt req sess node run)
      (hc : r.call = some c) (hs : c.stream = .ok ([], err)) :
      Step w r (.call a) w { r with activity := .afterNode sess run a.now (onBreak c.kept err) }
  | refused {req : PromptRequest} {sess : Session} {node : String} {run : Run} {c : NodeCall}
      (a : Answer) (item : PromptStreamItem) (items : List PromptStreamItem) (err e : Err)
      (hx : r.activity = .nodePrompt req sess node run) (hc : r.call = some c)
      (hs : c.stream = .ok (item :: items, err))
      (hpub : ((publishing a).event w item.event).2 = some e) :
      Step w r (.call a) ((publishing a).event w item.event).1
        { activity := .afterNode sess run a.now (.error e)
          call := some { c with stream := .ok (items, err) }
          published := r.published ++ relayed a item }
  | received {req : PromptRequest} {sess : Session} {node : String} {run : Run} {c : NodeCall}
      (a : Answer) (item : PromptStreamItem) (items : List PromptStreamItem) (err : Err)
      (kept : Run) (hx : r.activity = .nodePrompt req sess node run) (hc : r.call = some c)
      (hs : c.stream = .ok (item :: items, err))
      (hpub : ((publishing a).event w item.event).2 = none)
      (hafter : c.client.after c.kept item = .next kept) :
      Step w r (.call a) ((publishing a).event w item.event).1
        { r with
          call := some { c with stream := .ok (items, err), kept }
          published := r.published ++ relayed a item }
  | ended {req : PromptRequest} {sess : Session} {node : String} {run : Run} {c : NodeCall}
      (a : Answer) (item : PromptStreamItem) (items : List PromptStreamItem) (err : Err)
      (res : Except Err Run) (hx : r.activity = .nodePrompt req sess node run)
      (hc : r.call = some c) (hs : c.stream = .ok (item :: items, err))
      (hpub : ((publishing a).event w item.event).2 = none)
      (hafter : c.client.after c.kept item = .done res) :
      Step w r (.call a) ((publishing a).event w item.event).1
        { activity := .afterNode sess run a.now res
          call := some { c with stream := .ok (items, err) }
          published := r.published ++ relayed a item }
  | started {req : PromptRequest} {sess : Session} {node : String} {run : Run} (a : Answer)
      (hx : r.activity = .publishStarted req sess node run) :
      Step w r (.call a) (w.publish a.outcome a.now (Prompt.started sess run a.now))
        { r with
          activity := .nodePrompt req sess node run
          published := r.published ++
            stamped a.outcome a.now (Prompt.started sess run a.now) }
  | quiet (a : Answer) (x' : Prompt) (w' : World) (hx : r.activity.publishes = false)
      (hstep : r.activity.step w a = some (w', x')) (hpub : w'.published = w.published) :
      Step w r (.call a) w' { r with activity := x' }

/-- An iteration of the client is one of `Relay.Step`. -/
theorem Relay.receive_spec {req : PromptRequest} {sess : Session} {node : String} {run : Run}
    {c : NodeCall} (hx : r.activity = .nodePrompt req sess node run) (hc : r.call = some c)
    (a : Answer) :
    r.Step w (.call a) (r.receive w a sess run c).1 (r.receive w a sess run c).2 := by
  unfold Relay.receive
  split
  · next e hs => exact .failed a e hx hc hs
  · next err hs => exact .broke a err hx hc hs
  · next item items err hs =>
      cases hpub : ((publishing a).event w item.event).2 with
      | none =>
          rw [c.client.onItem_of_ok (Prod.ext rfl hpub)]
          cases hafter : c.client.after c.kept item with
          | next kept => exact .received a item items err kept hx hc hs hpub hafter
          | done res => exact .ended a item items err res hx hc hs hpub hafter
      | some e =>
          rw [c.client.onItem_of_error (Prod.ext rfl hpub)]
          exact .refused a item items err e hx hc hs hpub

/-- **A step of a `Prompt` with its call of the node is one of `Relay.Step`.** -/
theorem Relay.step_spec (h : r.step w l = some (w', r')) : r.Step w l w' r' := by
  cases l with
  | opened client stream =>
      unfold Relay.step at h
      dsimp only at h
      split at h
      · next hx hc =>
          obtain ⟨rfl, rfl⟩ := some_pair_inj h
          exact .opened client stream hx hc
      · cases h
  | call a =>
      have hquiet (hx : r.activity.publishes = false)
          (h : ((r.activity.step w a).map fun t => (t.1, { r with activity := t.2 })) =
            some (w', r')) : r.Step w (.call a) w' r' := by
        obtain ⟨w'', x', hstep, rfl, rfl⟩ := map_eq_some_pair h
        exact .quiet a x' w'' hx hstep (Prompt.step_published hx hstep)
      unfold Relay.step at h
      cases hx : r.activity with
      | nodePrompt req sess node run =>
          cases hc : r.call with
          | none =>
              rw [hx, hc] at h
              cases h
          | some c =>
              rw [hx, hc] at h
              have hr : (r.receive w a sess run c) = (w', r') := Option.some.inj h
              have hspec := Relay.receive_spec (w := w) hx hc a
              rwa [hr] at hspec
      | publishStarted req sess node run =>
          rw [hx] at h
          obtain ⟨rfl, rfl⟩ := some_pair_inj h
          exact .started a hx
      | getSession | containerNode | upsertSession | upsertRun | upsertFailedRun
      | upsertFailedSession | upsertFinalRun | upsertFinalSession | appendAudit | returned =>
          refine hquiet (by rw [hx]; rfl) ?_
          rw [hx] at h ⊢
          exact h

/-- One call of a `Prompt`, among the others that change the world. -/
def promptCall (t : World × Prompt) (a : Answer) : Option (World × Prompt) := t.2.step t.1 a

/-- Whatever `node.Prompt` returns, the activity has an answer that says so. -/
theorem Prompt.node_returns (w : World) (req : PromptRequest) (sess : Session) (node : String)
    (run : Run) (now : Time) (res : Except Err Run) :
    ∃ a, promptCall (w, .nodePrompt req sess node run) a = some (w, .afterNode sess run now res) := by
  cases res with
  | ok final => exact ⟨{ reply := .run final }, rfl⟩
  | error e => exact ⟨{ outcome := .fail e, now }, rfl⟩

/-- The callback is the publish of the activity. -/
theorem Prompt.node_publishes (w : World) (req : PromptRequest) (sess : Session) (node : String)
    (run : Run) (a : Answer) (item : PromptStreamItem) :
    ∃ as, exec promptCall (w, .nodePrompt req sess node run) as =
      some (((publishing a).event w item.event).1,
        match ((publishing a).event w item.event).2 with
        | none => .nodePrompt req sess node run
        | some e => .afterNode sess run a.now (.error e)) := by
  by_cases htype : item.event.type = ""
  · rw [Publish.event_of_no_type _ _ htype]
    exact ⟨[], rfl⟩
  · refine ⟨[{ a with reply := .event item.event }], ?_⟩
    have hev : (publishing a).event w item.event =
        (w.publish a.outcome a.now item.event, a.outcome.err) := if_pos htype
    rw [hev]
    simp only [exec, promptCall, Prompt.step, Option.bind_some, Prompt.afterNode]
    cases a.outcome.err <;> rfl

/-- **A `Prompt` with its call of the node is the `Prompt` activity.**  Each step is a run of
calls of the activity. -/
theorem Relay.step_refines (h : r.step w l = some (w', r')) :
    ∃ as, exec promptCall (w, r.activity) as = some (w', r'.activity) := by
  cases Relay.step_spec h with
  | opened => exact ⟨[], rfl⟩
  | failed a e hx =>
      obtain ⟨a', ha'⟩ := Prompt.node_returns w _ _ _ _ a.now (.error e)
      exact ⟨[a'], by rw [hx, exec_cons, ha']; rfl⟩
  | @broke _ _ _ _ c a err hx =>
      obtain ⟨a', ha'⟩ := Prompt.node_returns w _ _ _ _ a.now (onBreak c.kept err)
      exact ⟨[a'], by rw [hx, exec_cons, ha']; rfl⟩
  | refused a item items err e hx hc hs hpub =>
      obtain ⟨as, has⟩ := Prompt.node_publishes w _ _ _ _ a item
      rw [hpub] at has
      exact ⟨as, by rw [hx]; exact has⟩
  | received a item items err kept hx hc hs hpub =>
      obtain ⟨as, has⟩ := Prompt.node_publishes w _ _ _ _ a item
      rw [hpub] at has
      exact ⟨as, by rw [hx]; exact has⟩
  | ended a item items err res hx hc hs hpub =>
      obtain ⟨as, has⟩ := Prompt.node_publishes w _ _ _ _ a item
      rw [hpub] at has
      obtain ⟨a', ha'⟩ := Prompt.node_returns ((publishing a).event w item.event).1 _ _ _ _ a.now res
      refine ⟨as ++ [a'], exec_append_eq_some.2 ⟨_, by rw [hx]; exact has, ?_⟩⟩
      rw [exec_cons, ha']
      rfl
  | started a hx => exact ⟨[a], by rw [hx]; rfl⟩
  | quiet a x' w' hx hstep =>
      refine ⟨[a], ?_⟩
      rw [exec_cons]
      show (r.activity.step w a).bind _ = _
      rw [hstep]
      rfl

end

/-- What the client returns when the callback never fails. -/
def NodeCall.outcome (c : NodeCall) : Except Err Run :=
  match c.opened with
  | .error e => .error e
  | .ok (items, err) => c.client.outcome items err {}

/-- What it returns of the rest of the stream. -/
def NodeCall.left (c : NodeCall) : Except Err Run :=
  match c.stream with
  | .error e => .error e
  | .ok (items, err) => c.client.outcome items err c.kept

/-- What the place of the activity says about the outcome of its call of the node. -/
def Relay.Reads (r : Relay) : Prop :=
  match r.activity with
  | .getSession _ | .containerNode .. | .upsertSession .. | .upsertRun .. | .publishStarted .. =>
      r.call = none
  | .nodePrompt .. => ∀ c, r.call = some c → c.left = c.outcome
  | .upsertFinalRun _ _ final => ∃ c, r.call = some c ∧ c.outcome = .ok final
  | .upsertFinalSession sess _ final =>
      sess.state = (if final.state = .failed then .failed else .waitingInput) ∧
        ∃ c, r.call = some c ∧ c.outcome = .ok final
  | .upsertFailedRun .. | .upsertFailedSession .. | .appendAudit _ | .returned _ => True

section

variable {w w' : World} {a : Answer} {r r' : Relay} {l : RelayLabel}

theorem Relay.reads_afterNode {sess : Session} {run : Run} {now : Time} {res : Except Err Run}
    {c : NodeCall} (hx : r.activity = .afterNode sess run now res) (hc : r.call = some c)
    (hres : c.outcome = res) : r.Reads := by
  unfold Relay.Reads
  rw [hx]
  cases res with
  | ok final => exact ⟨c, hc, hres⟩
  | error e => trivial

/-- **A step of a `Prompt`** keeps the outcome of its call of the node in sight. -/
theorem Relay.Step.reads (h : r.Step w l w' r') (hr : r.Reads) : r'.Reads := by
  unfold Relay.Reads at hr
  cases h with
  | opened client stream hx hc =>
      unfold Relay.Reads
      dsimp only
      rw [hx]
      rintro c hc
      obtain rfl := Option.some.inj hc
      rfl
  | failed a e hx hc hs => trivial
  | @broke _ _ _ _ c a err hx hc hs =>
      rw [hx] at hr
      refine Relay.reads_afterNode rfl hc ?_
      rw [← hr c hc, NodeCall.left, hs]
      rfl
  | refused a item items err e hx hc hs hpub => trivial
  | @received _ _ _ _ c a item items err kept hx hc hs hpub hafter =>
      rw [hx] at hr
      unfold Relay.Reads
      dsimp only
      rw [hx]
      rintro c' hc'
      obtain rfl := Option.some.inj hc'
      have hleft := hr c hc
      simp only [NodeCall.left, hs, Client.outcome, hafter] at hleft
      exact hleft
  | @ended _ _ _ _ c a item items err res hx hc hs hpub hafter =>
      rw [hx] at hr
      refine Relay.reads_afterNode rfl rfl ?_
      have hleft := hr c hc
      simp only [NodeCall.left, hs, Client.outcome, hafter] at hleft
      exact hleft.symm
  | started a hx =>
      rw [hx] at hr
      show ∀ c, r.call = some c → c.left = c.outcome
      rw [hr]
      exact fun c hc => by cases hc
  | quiet a x' w' hx hstep hpub =>
      have hnext := (Prompt.step_next hstep).1
      clear hstep
      generalize hact : r.activity = x at hr hx hnext
      cases hnext with
      | announced | event | failed | ended => cases hx
      | read | begun | sessionWritten | runWritten => exact hr
      | runStored => exact ⟨rfl, hr⟩
      | notRead | noNode | failedRunWritten | failedSessionWritten | runNotStored | sessionNotStored
      | sessionStored | audited => trivial

end

/-- `D` holds of every step of the `Prompt`. -/
def PromptSteps (D : Relay → RelayLabel → Prop) (p : Pool World RunActivity) (l : RunLabel) : Prop :=
  ∀ i r l', l = .activity (.step i l') → p.threads[i]? = some (.prompt r) → D r l'

section

variable {P : Relay → Prop} {D : Relay → RelayLabel → Prop} {p q : Pool World RunActivity}

/-- What the steps of a `Prompt` keep, the steps of the system keep. -/
theorem promptSteps_keep {l : RunLabel}
    (hP : ∀ w l w' (r r' : Relay), r.Step w l w' r' → D r l → P r → P r')
    (h : ∀ (i : ℕ) r, p.threads[i]? = some (RunActivity.prompt r) → P r) (hD : PromptSteps D p l)
    (hq : runStep p l = some q) : ∀ (i : ℕ) r, q.threads[i]? = some (RunActivity.prompt r) → P r := by
  intro i r hi
  cases l with
  | others w =>
      obtain rfl := Option.some.inj hq
      exact h i r hi
  | activity l =>
      have hpool : p.step runMachine l = some q := hq
      cases l with
      | spawn req =>
          obtain ⟨t, ht, rfl⟩ := Pool.step_spawn.1 hpool
          rcases getElem?_concat_cases hi with ⟨-, hx⟩ | hi
          · obtain rfl := Option.some.inj ht
            cases hx
          · exact h i r hi
      | step j l =>
          obtain ⟨x, w', x', hj, hrun, rfl⟩ := Pool.step_run.1 hpool
          rcases getElem?_set_cases hi with ⟨rfl, hx⟩ | ⟨-, hi⟩
          · cases x with
            | prompt r₀ =>
                obtain ⟨w'', r', hstep, -, rfl⟩ := map_eq_some_pair hrun
                cases hx
                exact hP _ _ _ _ _ (Relay.step_spec hstep) (hD i r₀ l rfl hj) (h i r₀ hj)
            | cancel x₀ =>
                cases l with
                | opened => cases hrun
                | call a =>
                    obtain ⟨w'', x', -, -, rfl⟩ := map_eq_some_pair hrun
                    cases hx
          · exact h i r hi

theorem promptSteps_run {w : World} {req : PromptRequest} {l : List RunLabel}
    (hP : ∀ w l w' (r r' : Relay), r.Step w l w' r' → D r l → P r → P r')
    (h : P { activity := .getSession req }) (hl : Along runStep (PromptSteps D) (prompting w req) l)
    (hq : exec runStep (prompting w req) l = some q) :
    ∀ (i : ℕ) r, q.threads[i]? = some (RunActivity.prompt r) → P r := by
  refine exec_invariant (I := fun p => ∀ (i : ℕ) r, p.threads[i]? = some (RunActivity.prompt r) → P r)
    (fun _ _ _ hp hD hs => promptSteps_keep hP hp hD hs) (fun i r hi => ?_) hl hq
  have hmem := List.mem_of_getElem? hi
  obtain hr := List.mem_singleton.1 hmem
  cases hr
  exact h

end

/-- In every run, the place of a `Prompt` says what its call of the node has returned. -/
theorem relay_reads {w : World} {req : PromptRequest} {l : List RunLabel}
    {p : Pool World RunActivity} {i : ℕ} {r : Relay}
    (h : exec runStep (prompting w req) l = some p) (hi : p.threads[i]? = some (.prompt r)) :
    r.Reads :=
  promptSteps_run (P := Relay.Reads) (D := fun _ _ => True) (fun _ _ _ _ _ hs _ hr => hs.reads hr)
    rfl ((along_true l _).mono fun _ _ _ _ _ _ _ _ => trivial) h i r hi

/-- The last item that has arrived, if any has, is final. -/
def EndsFinal (items : List PromptStreamItem) : Prop := ∀ last ∈ items.getLast?, last.final = true

section

variable {b : PromptStart} {items : List PromptStreamItem}

/-- A client that returns the run of the last item returns one that has ended just when the item
is final. -/
theorem streams_ended_iff (hs : Streams b items) (ok : Prop) :
    (∀ run, (ok ∧ ∃ last, items.getLast? = some last ∧ last.run = run) →
        run.state.isTerminal = true) ↔ (ok → EndsFinal items) := by
  refine ⟨fun h hok last hlast => ?_, ?_⟩
  · rw [← hs.terminal (List.mem_of_getLast? hlast)]
    exact h last.run ⟨hok, last, hlast, rfl⟩
  · rintro h run ⟨hok, last, hlast, rfl⟩
    rw [hs.terminal (List.mem_of_getLast? hlast)]
    exact h hok last hlast

theorem NodeCall.last_of_outcome {c : NodeCall} {final : Run} (hout : c.outcome = .ok final)
    (hnode : NodeStream b items c.client c.opened) :
    Arrives b items ∧ ∃ last, items.getLast? = some last ∧ last.run = final := by
  unfold NodeCall.outcome at hout
  cases hopened : c.opened with
  | error e =>
      rw [hopened] at hout
      cases hout
  | ok stream =>
      rw [hopened] at hout hnode
      exact ⟨hnode.arrives, hnode.outcome_eq_ok hout⟩

/-- The run and the session that the activity stores at its end. -/
theorem Relay.Reads.ended_iff {r : Relay} {c : NodeCall} {sess : Session} {run final : Run}
    (hr : r.Reads) (hx : r.activity = .upsertFinalSession sess run final) (hc : r.call = some c)
    (hnode : NodeStream b items c.client c.opened) :
    (sess.state = .waitingInput → final.state.isTerminal = true) ↔ EndsFinal items := by
  unfold Relay.Reads at hr
  rw [hx] at hr
  obtain ⟨hstate, c', hc', hout⟩ := hr
  obtain rfl := Option.mem_unique hc hc'
  obtain ⟨harr, last, hlast, rfl⟩ := NodeCall.last_of_outcome hout hnode
  have hterm := harr.streams.terminal (List.mem_of_getLast? hlast)
  have hends : EndsFinal items ↔ last.final = true := by
    unfold EndsFinal
    rw [hlast]
    simp
  rw [hends, hterm, hstate]
  refine ⟨fun h => ?_, fun h _ => h⟩
  by_cases hfailed : last.run.state = .failed
  · rw [← hterm, hfailed]
    rfl
  · exact h (if_neg hfailed)

end

/-- **When a prompt that succeeds has ended.**  `items` is what has arrived at `Runner.Prompt` of
the items of the supervisor, before the stream broke off or after its final item.

`Runner.Prompt` only returns runs that have ended, without an error, if and only if the last
item is final, or nothing has arrived, or its callback fails.  `RemoteNodeClient.Prompt` is the
same over the stream of the node, unless that breaks off before its closing item.  And an
activity that stores the run and then a session that waits for input has stored a run that has
ended if and only if the last item is final. -/
theorem prompt_ended_iff {b : PromptStart} {items : List PromptStreamItem} (hitems : Arrives b items)
    (err : Err) :
    (∀ {σ : Type} (publish : Publish σ) (s : σ),
      (∀ run, (Runner.prompt publish (.ok (items, err)) s).2 = .ok run →
          run.state.isTerminal = true) ↔
        (publish.accepts s items = true → EndsFinal items)) ∧
    (∀ {σ : Type} (publish : Publish σ) (s : σ) (wire : List PromptStreamItem) (err' : Err),
      wire <+: (NodeServer.prompt (.ok (items, err))).1 →
      ((∀ run, (RemoteNodeClient.prompt publish (wire, err') s).2 = .ok run →
          run.state.isTerminal = true) ↔
        (wire = (NodeServer.prompt (.ok (items, err))).1 ∧ publish.accepts s items = true →
          EndsFinal items))) ∧
    (∀ (w : World) (req : PromptRequest) (l : List RunLabel) (p : Pool World RunActivity) (i : ℕ)
        (r : Relay) (c : NodeCall) (sess : Session) (run final : Run),
      exec runStep (prompting w req) l = some p → p.threads[i]? = some (.prompt r) →
      r.activity = .upsertFinalSession sess run final → r.call = some c →
      NodeStream b items c.client c.opened →
      ((sess.state = .waitingInput → final.state.isTerminal = true) ↔ EndsFinal items)) := by
  have hs := hitems.streams
  refine ⟨fun publish s => ?_, fun publish s wire err' hwire => ?_, ?_⟩
  · simp only [Runner.prompt_eq_ok_iff hs]
    exact streams_ended_iff hs _
  · simp only [RemoteNodeClient.prompt_eq_ok_iff hs hwire, ← and_assoc]
    exact streams_ended_iff hs _
  · intro w req l p i r c sess run final h hi hx hc hnode
    exact (relay_reads h hi).ended_iff hx hc hnode

/-- What the `Prompt` of a session sends when `l` happens at its agent. -/
def sentAfter (l : List HandleLabel) : List PromptStreamItem :=
  ((exec handleStep freshHandle (.prompts (.spawn openedPrompt) :: l)).bind fun q =>
    q.threads[0]?).elim [] fun p => p.sent

theorem arrives_sentAfter {l : List HandleLabel}
    (h : ((exec handleStep freshHandle (.prompts (.spawn openedPrompt) :: l)).bind fun q =>
      q.threads[0]?).isSome = true) : Arrives openedPrompt (sentAfter l) := by
  obtain ⟨p, hp⟩ := Option.isSome_iff_exists.1 h
  obtain ⟨q, hq, hthread⟩ := Option.bind_eq_some_iff.1 hp
  have hfresh : exec handleStep freshHandle [] = some freshHandle := rfl
  refine .intro hfresh hq p hthread ?_
  rw [sentAfter, hp]
  exact List.prefix_rfl

/-- The agent accepts the prompt and sends a chunk, and the `Prompt` sends it on. -/
def agentStreams : List HandleLabel :=
  [promptStep 0 .subscribe, promptStep 0 (.answered none 1), .route (chunk "sess_1" "run_1"),
    promptStep 0 (.recv 2), promptStep 0 (.sent none)]

/-- A run that completes has ended when `Runner.Prompt` returns it. -/
theorem completedPrompt_ended :
    ∃ run, (Runner.prompt (none : Publish Unit) (.ok (sentAfter agentCompletes, eof)) ()).2 =
      .ok run ∧ run.state.isTerminal = true := by
  refine ⟨completedRun, rfl, ?_⟩
  refine ((prompt_ended_iff (arrives_sentAfter (l := agentCompletes) rfl) eof).1 none ()).2
    (fun _ last hlast => ?_) completedRun rfl
  obtain rfl := Option.some.inj (Option.mem_def.1 hlast)
  rfl

/-- Events of the broker, the store and a direct client that reads `items` and then breaks. -/
def prompted (items : List PromptStreamItem) (n : ℕ) : List RunLabel :=
  List.replicate 5 (.activity (.step 0 (.call {}))) ++
    .activity (.step 0 (.opened .direct (.ok (items, .other "connection reset")))) ::
      List.replicate n (.activity (.step 0 (.call {})))

/-- **A prompt that succeeds has not ended.**  The stream breaks after a chunk; `Runner.Prompt`
returns the run without an error while it is still streaming, and the activity stores it with a
session that waits for input. -/
theorem brokenPrompt_not_ended :
    Arrives openedPrompt (sentAfter agentStreams) ∧
      (∃ run, (Runner.prompt (none : Publish Unit)
          (.ok (sentAfter agentStreams, .other "connection reset")) ()).2 = .ok run ∧
        run.state = .streaming) ∧
      ∃ p ∈ exec runStep
          (prompting (.serving waitingSession) { sessionID := "sess_1", runID := "run_1" })
          (prompted (sentAfter agentStreams) 4),
        (p.shared.store.runs.get "run_1").map (fun run => run.state) = some .streaming ∧
        (p.shared.store.sessions.get "sess_1").map (fun sess => sess.state) = some .waitingInput :=
  ⟨arrives_sentAfter rfl, ⟨_, rfl, rfl⟩, by decide +kernel⟩

end Workflows
end Agentd
