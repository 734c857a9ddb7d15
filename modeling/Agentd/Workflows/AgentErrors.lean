/-
# Errors of an agent, and the state of its run

The final event of a run has a type and an error text.  `Manager.Prompt`
(`runtime/supervisor/manager.go`) takes the state of the run from the type alone, and the error of
the run from the text.  The runner, the node server, the remote client and the `Prompt` activity
pass the run on as it is.

So an error that ends a run is told, by all of them, just when its event has the type `failed` or
`cancelled` (`agentErrors_told_iff`).  An event with another type and an error is stored as a
completed run that has an error.
-/

import Agentd.Workflows.PromptRelay

namespace Agentd
namespace Supervisor

open Control Concurrency Acp

/-- How the run of an item stands: `session/prompt` has failed, or the item carries an event, and
the run has the state of its type and its error if the event ends the run, and streams if not. -/
inductive Judged (b : PromptStart) (item : PromptStreamItem) : Prop
  | report (hitem : item.IsReport)
  | event (event : StreamEvent) (hevent : Carries b.sess.id b.runID item event)
      (hended : endsRun event = true →
        item.run.state = finalState event ∧ item.run.error = event.error)
      (hopen : endsRun event = false → item.run.state = .streaming)

/-- The item ends its run with an error. -/
def PromptStreamItem.EndsInError (item : PromptStreamItem) : Prop :=
  item.final = true ∧ item.error ≠ ""

/-- If the item carries an event of the agent that ends the run with an error, the event has the
type of a run that did not succeed. -/
def Typed (b : PromptStart) (item : PromptStreamItem) : Prop :=
  ∀ event, Carries b.sess.id b.runID item event → endsRun event = true → event.error ≠ "" →
    event.type = "failed" ∨ event.type = "cancelled"

/-- The event of the last of the items has the type of an error if it has an error. -/
def ErrorsTyped (b : PromptStart) (items : List PromptStreamItem) : Prop :=
  ∀ last ∈ items.getLast?, Typed b last

/-- If the last of the items ends the run with an error, `run` has failed, or it is cancelled and
so is the event. -/
def ErrorsTold (items : List PromptStreamItem) (run : Run) : Prop :=
  ∀ last ∈ items.getLast?, last.EndsInError →
    run.state = .failed ∨ run.state = .cancelled ∧ last.event.type = "cancelled"

/-- A completed run has no error. -/
def NoHiddenError (run : Run) : Prop := run.state = .completed → run.error = ""

section

variable {event : StreamEvent}

theorem finalState_eq_failed : finalState event = .failed ↔ event.type = "failed" := by
  unfold finalState
  split_ifs with hcancelled hfailed <;> simp_all

theorem finalState_eq_cancelled : finalState event = .cancelled ↔ event.type = "cancelled" := by
  unfold finalState
  split_ifs with hcancelled hfailed <;> simp_all

theorem finalState_eq_completed :
    finalState event = .completed ↔ ¬ (event.type = "failed" ∨ event.type = "cancelled") := by
  unfold finalState
  split_ifs with hcancelled hfailed <;> simp_all

end

section

variable {a a' : AgentHandle} {b : PromptStart} {p p' : Prompt} {l : PromptLabel}

theorem Prompt.Began.judged (hb : p.Began b) (event : StreamEvent) (now : Time) :
    Judged b (p.item event now) := by
  have hcarries := p.item_carries event now
  rw [hb.sess, hb.runID] at hcarries
  refine .event event hcarries ?_ ?_
  · intro hends
    simp only [Prompt.item, Prompt.nextRun, hends, if_true, and_self]
  · intro hopen
    simp [Prompt.item, Prompt.nextRun, hopen]

/-- **A step of a `Prompt`** makes items whose run stands as their event says. -/
theorem Prompt.Step.judged (hstep : p.Step a l a' p') (hb : p.Began b)
    (h : ∀ item ∈ p.items, Judged b item) : ∀ item ∈ p'.items, Judged b item := by
  rcases hstep.makes with ⟨-, -, -, -, hitems⟩ | ⟨err, now, hpc, rfl⟩ | ⟨event, now, hpc, rfl⟩
  · exact fun item hmem => h item (hitems hmem)
  · exact p.forall_sent_concat h (.report ⟨rfl, rfl, rfl⟩)
  · exact p.forall_sent_concat h (hb.judged event now)

end

section

variable {b : PromptStart} {items : List PromptStreamItem} {item last : PromptStreamItem}

theorem Arrives.judged (h : Arrives b items) (hmem : item ∈ items) : Judged b item := by
  obtain ⟨h₁, hexec, p, hp, hitems⟩ := h
  obtain ⟨p', hp', -, hj⟩ :=
    prompt_spawned (P := fun p => p.Began b ∧ ∀ item ∈ p.items, Judged b item)
      (fun _ _ _ _ _ hs hp => ⟨hs.began hp.1, hs.judged hp.1 hp.2⟩)
      ⟨b.began, fun item hitem => by simp [Prompt.items, PromptStart.prompt] at hitem⟩ h₁ hexec
  obtain rfl := Option.mem_unique hp hp'
  exact hj item (p.sent_subset_items (hitems.subset hmem))

/-- An item shows of the event that it carries all that counts here. -/
theorem typed_iff {event : StreamEvent} (hevent : Carries b.sess.id b.runID item event) :
    Typed b item ↔ (endsRun event = true → event.error ≠ "" →
      event.type = "failed" ∨ event.type = "cancelled") := by
  refine ⟨fun h => h event hevent, fun h event' hevent' hends herr => ?_⟩
  rw [← hevent'.type, hevent.type]
  refine h (hevent.final.symm.trans (hevent'.final.trans hends)) ?_
  rw [← hevent.error, hevent'.error]
  exact herr

theorem PromptStreamItem.IsReport.typed (h : item.IsReport) : Typed b item := by
  intro event hevent
  have hdata := hevent.data
  rw [h.event] at hdata
  cases hdata

/-- **When an error is told.**  The run of an item that ends it with an error has failed, or is
cancelled by its event, if and only if the event has the type of an error. -/
theorem Judged.told_iff (h : Judged b item) :
    (item.EndsInError → item.run.state = .failed ∨
      item.run.state = .cancelled ∧ item.event.type = "cancelled") ↔ Typed b item := by
  cases h with
  | report hitem => exact iff_of_true (fun _ => Or.inl hitem.run) hitem.typed
  | event event hevent hended hopen =>
      rw [typed_iff hevent, PromptStreamItem.EndsInError, hevent.final, hevent.error, and_imp]
      refine imp_congr_right fun hends => imp_congr_right fun _ => ?_
      rw [(hended hends).1, hevent.type, finalState_eq_failed, finalState_eq_cancelled, and_self]

/-- A run that is completed has an error just when the event that ends it has one and does not
have the type of one. -/
theorem Judged.noHiddenError_iff (h : Judged b item) : NoHiddenError item.run ↔ Typed b item := by
  cases h with
  | report hitem =>
      refine iff_of_true (fun hstate => ?_) hitem.typed
      rw [hitem.run] at hstate
      cases hstate
  | event event hevent hended hopen =>
      unfold NoHiddenError
      rw [typed_iff hevent]
      cases hends : endsRun event with
      | true =>
          obtain ⟨hstate, herror⟩ := hended hends
          rw [hstate, herror, finalState_eq_completed]
          tauto
      | false => simp [hopen hends]

theorem errorsTold_iff (h : Arrives b items) (hlast : items.getLast? = some last) :
    ErrorsTold items last.run ↔ ErrorsTyped b items := by
  have hjudged := h.judged (List.mem_of_getLast? hlast)
  unfold ErrorsTold ErrorsTyped
  rw [hlast]
  simp only [Option.mem_some_iff, forall_eq']
  exact hjudged.told_iff

theorem noHiddenError_iff_errorsTyped (h : Arrives b items) (hlast : items.getLast? = some last) :
    NoHiddenError last.run ↔ ErrorsTyped b items := by
  unfold ErrorsTyped
  rw [hlast, (h.judged (List.mem_of_getLast? hlast)).noHiddenError_iff]
  simp only [Option.mem_some_iff, forall_eq']

end

end Supervisor

namespace Workflows

open Control Store NodeRuntime Supervisor Concurrency

/-- No run of the store is completed and has an error. -/
def NoHiddenErrors (s : MemoryStore) : Prop :=
  ∀ id run, s.runs.get id = some run → NoHiddenError run

/-- The client reads items of a supervisor whose errors have the type of one, if it reads any. -/
def TypedStream (client : Client) (opened : Except Err (List PromptStreamItem × Err)) : Prop :=
  ∃ b items, NodeStream b items client opened ∧ ErrorsTyped b items

/-- The others leave no hidden error, and the stream that the `Prompt` opens has typed errors. -/
def TypedErrors : RunLabel → Prop
  | .others w => NoHiddenErrors w.store
  | .activity (.step _ (.opened client opened)) => TypedStream client opened
  | .activity _ => True

/-- The run that the activity has made is not completed. -/
def Prompt.Incomplete : Prompt → Prop
  | .upsertSession _ _ _ run | .upsertRun _ _ _ run | .publishStarted _ _ _ run
  | .nodePrompt _ _ _ run | .upsertFailedRun _ run => run.state ≠ .completed
  | .getSession _ | .containerNode .. | .upsertFailedSession .. | .upsertFinalRun ..
  | .upsertFinalSession .. | .appendAudit _ | .returned _ => True

/-- The `Prompt` stores no hidden error. -/
structure Relay.Forthright (r : Relay) : Prop where
  reads : r.Reads
  typed : ∀ c, r.call = some c → TypedStream c.client c.opened
  incomplete : r.activity.Incomplete

section

variable {w w' : World} {a : Answer} {r r' : Relay} {l : RelayLabel} {b : PromptStart}
  {items : List PromptStreamItem}

/-- What the place of the activity says about the outcome of its call. -/
theorem Relay.Reads.outcome {sess : Session} {run final : Run} (hr : r.Reads)
    (hx : r.activity = .upsertFinalRun sess run final) :
    ∃ c, r.call = some c ∧ c.outcome = .ok final := by
  rw [Relay.Reads, hx] at hr
  exact hr

theorem Prompt.incomplete_afterNode (sess : Session) (run : Run) (now : Time)
    (res : Except Err Run) : (Prompt.afterNode sess run now res).Incomplete := by
  cases res with
  | ok final => trivial
  | error e =>
      intro hstate
      cases hstate

theorem Relay.Step.incomplete (h : r.Step w l w' r') (hr : r.activity.Incomplete) :
    r'.activity.Incomplete := by
  cases h with
  | opened | received => exact hr
  | failed a e | refused a item items err e => exact Prompt.incomplete_afterNode _ _ _ (.error e)
  | broke | ended => exact Prompt.incomplete_afterNode ..
  | started a hx =>
      rw [hx] at hr
      exact hr
  | quiet a x' w' hx hstep hpub =>
      have hnext := (Prompt.step_next hstep).1
      clear hstep
      show x'.Incomplete
      generalize r.activity = x at hr hx hnext
      cases hnext with
      | announced | event | failed | ended => cases hx
      | begun =>
          intro hstate
          cases hstate
      | sessionWritten | runWritten => exact hr
      | read | runStored | notRead | noNode | failedRunWritten | failedSessionWritten
      | runNotStored | sessionNotStored | sessionStored | audited => trivial

/-- The call of the node keeps its client, and the stream as it was opened. -/
theorem Relay.Step.call_cases {c' : NodeCall} (h : r.Step w l w' r') (hc' : r'.call = some c') :
    l = .opened c'.client c'.opened ∨
      ∃ c, r.call = some c ∧ c'.client = c.client ∧ c'.opened = c.opened := by
  cases h with
  | opened client stream hx hc =>
      obtain rfl := Option.some.inj hc'
      exact Or.inl rfl
  | failed | broke | started | quiet => exact Or.inr ⟨c', hc', rfl, rfl⟩
  | refused a item items err e hx hc hs hpub =>
      obtain rfl := Option.some.inj hc'
      exact Or.inr ⟨_, hc, rfl, rfl⟩
  | received a item items err kept hx hc hs hpub hafter =>
      obtain rfl := Option.some.inj hc'
      exact Or.inr ⟨_, hc, rfl, rfl⟩
  | ended a item items err res hx hc hs hpub hafter =>
      obtain rfl := Option.some.inj hc'
      exact Or.inr ⟨_, hc, rfl, rfl⟩

/-- **A step of a `Prompt`** whose streams have typed errors. -/
theorem Relay.Step.forthright (h : r.Step w l w' r') (hr : r.Forthright)
    (hl : ∀ client opened, l = .opened client opened → TypedStream client opened) :
    r'.Forthright where
  reads := h.reads hr.reads
  typed c' hc' := by
    rcases h.call_cases hc' with hopened | ⟨c, hc, hclient, hopened⟩
    · exact hl _ _ hopened
    · rw [hclient, hopened]
      exact hr.typed c hc
  incomplete := h.incomplete hr.incomplete

theorem publishing_store (w : World) (a : Answer) (event : Event) :
    ((publishing a).event w event).1.store = w.store := by
  unfold publishing Publish.event
  dsimp only
  split_ifs
  · exact World.publish_store ..
  · rfl

/-- What a step of a `Prompt` does to the store: nothing, or it writes the row of its place. -/
theorem Relay.Step.store_cases (h : r.Step w l w' r') :
    w'.store = w.store ∨
      ∃ a, w'.store = stored a (SessionActivity.writes a (.prompt r.activity)) w.store := by
  cases h with
  | opened | failed | broke => exact Or.inl rfl
  | refused | received | ended => exact Or.inl (publishing_store ..)
  | started => exact Or.inl (World.publish_store ..)
  | quiet a x' w' hx hstep hpub => exact Or.inr ⟨a, (Prompt.step_next hstep).2⟩

/-- The runs that such a `Prompt` writes have no hidden error. -/
theorem Relay.Forthright.writes {row : Run} (hr : r.Forthright)
    (hrow : SessionActivity.writes a (.prompt r.activity) = some (.run row)) :
    NoHiddenError row := by
  have hrun := hr.incomplete
  cases hx : r.activity with
  | upsertRun req sess node run =>
      rw [hx] at hrow hrun
      cases hrow
      exact fun hstate => absurd hstate hrun
  | upsertFailedRun sess run =>
      rw [hx] at hrow hrun
      cases hrow
      exact fun hstate => absurd hstate hrun
  | upsertFinalRun sess run final =>
      rw [hx] at hrow
      cases hrow
      obtain ⟨c, hc, hout⟩ := hr.reads.outcome hx
      obtain ⟨b, items, hnode, htyped⟩ := hr.typed c hc
      obtain ⟨harr, last, hlast, rfl⟩ := NodeCall.last_of_outcome hout hnode
      exact (noHiddenError_iff_errorsTyped harr hlast).2 htyped
  | getSession | containerNode | upsertSession | publishStarted | nodePrompt | upsertFailedSession
  | upsertFinalSession | appendAudit | returned =>
      rw [hx] at hrow
      cases hrow

theorem NoHiddenErrors.stored {s : MemoryStore} {row : Option Row} (h : NoHiddenErrors s)
    (hrow : ∀ run, row = some (.run run) → NoHiddenError run) :
    NoHiddenErrors (stored a row s) := by
  intro id run hget
  rw [stored_runs] at hget
  rcases storedIn_cases hget with hold | ⟨hnew, -, -⟩
  · exact h id run hold
  · exact hrow run (RowKind.runs.eq hnew)

theorem NoHiddenErrors.cancel {x x' : Cancel} (h : NoHiddenErrors w.store)
    (hstep : x.step w a = some (w', x')) : NoHiddenErrors w'.store := by
  rw [(Cancel.step_next hstep).2]
  refine h.stored fun run hrow => ?_
  cases x <;> cases hrow

end

/-- No run of the store has a hidden error, and the `Prompt` will store none. -/
structure Forthright (p : Pool World RunActivity) : Prop where
  store : NoHiddenErrors p.shared.store
  prompt : ∀ (i : ℕ) r, p.threads[i]? = some (.prompt r) → r.Forthright

/-- **Every step keeps errors in sight**, if the others do and the streams have typed errors. -/
theorem Forthright.step {p q : Pool World RunActivity} {l : RunLabel} (h : Forthright p)
    (hl : TypedErrors l) (hq : runStep p l = some q) : Forthright q := by
  have hprompt : ∀ (i : ℕ) r, q.threads[i]? = some (.prompt r) → r.Forthright := by
    refine promptSteps_keep (P := Relay.Forthright)
      (D := fun _ l' => ∀ client opened, l' = .opened client opened → TypedStream client opened)
      (fun _ _ _ _ _ hs hD hr => hs.forthright hr hD) h.prompt ?_ hq
    rintro i r _ rfl - client opened rfl
    exact hl
  refine ⟨?_, hprompt⟩
  cases l with
  | others w =>
      obtain rfl := Option.some.inj hq
      exact hl
  | activity l =>
      have hpool : p.step runMachine l = some q := hq
      cases l with
      | spawn req =>
          obtain ⟨t, -, rfl⟩ := Pool.step_spawn.1 hpool
          exact h.store
      | step i l =>
          obtain ⟨x, w', x', hi, hrun, rfl⟩ := Pool.step_run.1 hpool
          show NoHiddenErrors w'.store
          cases x with
          | prompt r =>
              obtain ⟨w'', r', hstep, rfl, -⟩ := map_eq_some_pair hrun
              rcases (Relay.step_spec hstep).store_cases with hsame | ⟨a, hwrite⟩
              · rw [hsame]
                exact h.store
              · rw [hwrite]
                exact h.store.stored fun run hrow => (h.prompt i r hi).writes hrow
          | cancel x =>
              cases l with
              | opened => cases hrun
              | call a =>
                  obtain ⟨w'', x', hstep, rfl, -⟩ := map_eq_some_pair hrun
                  exact h.store.cancel hstep

theorem Forthright.prompting {w : World} (hw : NoHiddenErrors w.store) (req : PromptRequest) :
    Forthright (prompting w req) := by
  refine ⟨hw, fun i r hi => ?_⟩
  obtain hr := List.mem_singleton.1 (List.mem_of_getElem? hi)
  cases hr
  refine ⟨rfl, ?_, trivial⟩
  intro c hc
  cases hc

section

variable {b : PromptStart} {items : List PromptStreamItem}

/-- A client that returns the run of the last item tells of its error just when it has the type
of one. -/
theorem arrives_told_iff (h : Arrives b items) (ok : Prop) :
    (∀ run, (ok ∧ ∃ last, items.getLast? = some last ∧ last.run = run) → ErrorsTold items run) ↔
      (ok → ErrorsTyped b items) := by
  constructor
  · intro htold hok last hlast
    exact (errorsTold_iff h hlast).1 (htold last.run ⟨hok, last, hlast, rfl⟩) last hlast
  · rintro htyped run ⟨hok, last, hlast, rfl⟩
    exact (errorsTold_iff h hlast).2 (htyped hok)

/-- The server closes its stream with the run of the last item. -/
theorem NodeServer.told_iff (h : Arrives b items) (err : Err) :
    ∀ item ∈ (NodeServer.prompt (.ok (items, err))).1, item.final = true →
      (ErrorsTold items item.run ↔ ErrorsTyped b items) := by
  rw [NodeServer.prompt_eq h.streams]
  intro item hmem hfinal
  cases hlast : items.getLast? with
  | none =>
      rw [hlast] at hmem
      cases hmem
  | some last =>
      rw [hlast] at hmem
      rcases List.mem_append.1 hmem with hevent | hclosing
      · obtain ⟨item', -, rfl⟩ := List.mem_map.1 hevent
        cases hfinal
      · have hrun : item.run = last.run := congrArg (·.run) (List.mem_singleton.1 hclosing)
        rw [hrun]
        exact errorsTold_iff h hlast

end

/-- **When the error of an agent is told.**  `items` is what has arrived at `Runner.Prompt` of the
items of the supervisor, for any events of the agent.

If the last item ends the run with an error, then the run of this item, the run that
`Runner.Prompt` returns, the one with which `NodeServer.Prompt` closes its stream, the one that
`RemoteNodeClient.Prompt` returns and the one that the activity stores have failed, or are
cancelled by a cancelled event, if and only if the event has the type `failed` or `cancelled`.  The
run that the activity stores hides no error if and only if the same holds.  And if it holds of all
the streams that are opened, no run of the store is ever completed and has an error. -/
theorem agentErrors_told_iff {b : PromptStart} {items : List PromptStreamItem}
    (hitems : Arrives b items) (err : Err) :
    (∀ last, items.getLast? = some last → (ErrorsTold items last.run ↔ ErrorsTyped b items)) ∧
    (∀ {σ : Type} (publish : Publish σ) (s : σ),
      (∀ run, (Runner.prompt publish (.ok (items, err)) s).2 = .ok run → ErrorsTold items run) ↔
        (publish.accepts s items = true → ErrorsTyped b items)) ∧
    (∀ item ∈ (NodeServer.prompt (.ok (items, err))).1, item.final = true →
      (ErrorsTold items item.run ↔ ErrorsTyped b items)) ∧
    (∀ {σ : Type} (publish : Publish σ) (s : σ) (wire : List PromptStreamItem) (err' : Err),
      wire <+: (NodeServer.prompt (.ok (items, err))).1 →
      ((∀ run, (RemoteNodeClient.prompt publish (wire, err') s).2 = .ok run →
          ErrorsTold items run) ↔
        (wire = (NodeServer.prompt (.ok (items, err))).1 ∧ publish.accepts s items = true →
          ErrorsTyped b items))) ∧
    (∀ (w : World) (req : PromptRequest) (l : List RunLabel) (p : Pool World RunActivity) (i : ℕ)
        (r : Relay) (c : NodeCall) (sess : Session) (run final : Run),
      exec runStep (prompting w req) l = some p → p.threads[i]? = some (.prompt r) →
      r.activity = .upsertFinalRun sess run final → r.call = some c →
      NodeStream b items c.client c.opened →
      (ErrorsTold items final ↔ ErrorsTyped b items) ∧ (NoHiddenError final ↔ ErrorsTyped b items)) ∧
    (∀ (w : World) (req : PromptRequest) (l : List RunLabel) (p : Pool World RunActivity),
      NoHiddenErrors w.store → (∀ label ∈ l, TypedErrors label) →
      exec runStep (prompting w req) l = some p → NoHiddenErrors p.shared.store) := by
  have hs := hitems.streams
  refine ⟨fun last hlast => errorsTold_iff hitems hlast, fun publish s => ?_,
    NodeServer.told_iff hitems err, fun publish s wire err' hwire => ?_, ?_, ?_⟩
  · simp only [Runner.prompt_eq_ok_iff hs]
    exact arrives_told_iff hitems _
  · simp only [RemoteNodeClient.prompt_eq_ok_iff hs hwire, ← and_assoc]
    exact arrives_told_iff hitems _
  · intro w req l p i r c sess run final h hi hx hc hnode
    obtain ⟨c', hc', hout⟩ := (relay_reads h hi).outcome hx
    obtain rfl := Option.mem_unique hc hc'
    obtain ⟨-, last, hlast, rfl⟩ := NodeCall.last_of_outcome hout hnode
    exact ⟨errorsTold_iff hitems hlast, noHiddenError_iff_errorsTyped hitems hlast⟩
  · intro w req l p hw hl h
    have hforth : Forthright p := exec_invariant (C := fun _ label => TypedErrors label)
      (fun _ _ _ hp hC hq => Forthright.step hp hC hq) (.prompting hw req) (along_of_forall hl) h
    exact hforth.store

/-- The agent accepts the prompt and ends the run with an error, in an event of this type. -/
def agentErrs (type : String) : List HandleLabel :=
  [promptStep 0 .subscribe, promptStep 0 (.answered none 1),
    .route { sessionID := "sess_1", runID := "run_1", type, final := true
             error := "context too long" },
    promptStep 0 (.recv 2), promptStep 0 (.sent none), promptStep 0 .unsubscribe]

/-- An event of type `failed` is told, and the store hides no error. -/
theorem failedEvent_told :
    (∃ run, (Runner.prompt (none : Publish Unit)
        (.ok (sentAfter (agentErrs "failed"), eof)) ()).2 = .ok run ∧
      ErrorsTold (sentAfter (agentErrs "failed")) run) ∧
    ∃ p ∈ exec runStep
        (prompting (.serving waitingSession) { sessionID := "sess_1", runID := "run_1" })
        (prompted (sentAfter (agentErrs "failed")) 4),
      NoHiddenErrors p.shared.store := by
  have harr : Arrives openedPrompt (sentAfter (agentErrs "failed")) := arrives_sentAfter rfl
  have htyped : ErrorsTyped openedPrompt (sentAfter (agentErrs "failed")) := by
    intro last hlast event hevent _ _
    obtain rfl := Option.some.inj (Option.mem_def.1 hlast)
    exact Or.inl hevent.type.symm
  obtain ⟨-, hrunner, -, -, -, hstore⟩ := agentErrors_told_iff harr eof
  obtain ⟨p, hp⟩ : ∃ p, exec runStep
      (prompting (.serving waitingSession) { sessionID := "sess_1", runID := "run_1" })
      (prompted (sentAfter (agentErrs "failed")) 4) = some p := ⟨_, rfl⟩
  refine ⟨⟨_, rfl, (hrunner none ()).2 (fun _ => htyped) _ rfl⟩, p, hp, ?_⟩
  refine hstore _ _ _ p (fun id run hget => by cases hget) ?_ hp
  intro label hmem
  rcases List.mem_append.1 hmem with hcall | hmem
  · rw [List.eq_of_mem_replicate hcall]
    trivial
  · rcases List.mem_cons.1 hmem with rfl | hcall
    · have hnode := NodeStream.direct harr (.other "connection reset")
      exact ⟨openedPrompt, sentAfter (agentErrs "failed"), hnode, htyped⟩
    · rw [List.eq_of_mem_replicate hcall]
      trivial

/-- **An error that is reported as a success.**  The agent ends the run with an event of another
type and an error.  `Manager.Prompt` sends a completed run, `Runner.Prompt` returns it, and the
activity stores it with its error. -/
theorem erredRun_completed :
    Arrives openedPrompt (sentAfter (agentErrs "error")) ∧
      (∃ last ∈ (sentAfter (agentErrs "error")).getLast?, last.EndsInError ∧
        last.run.state = .completed) ∧
      (∃ run, (Runner.prompt (none : Publish Unit)
          (.ok (sentAfter (agentErrs "error"), eof)) ()).2 = .ok run ∧
        run.state = .completed ∧ run.error = "context too long") ∧
      ∃ p ∈ exec runStep
          (prompting (.serving waitingSession) { sessionID := "sess_1", runID := "run_1" })
          (prompted (sentAfter (agentErrs "error")) 4),
        (p.shared.store.runs.get "run_1").map (fun run => (run.state, run.error)) =
          some (.completed, "context too long") := by
  refine ⟨arrives_sentAfter rfl, ⟨_, rfl, ⟨rfl, by decide⟩, rfl⟩, ⟨_, rfl, rfl, rfl⟩, ?_⟩
  decide +kernel

end Workflows
end Agentd
