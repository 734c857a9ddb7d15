/-
# The workflow of a session

`workflows/workflows.go`: `SessionWorkflow`.  Its handlers run `Prompt` and
`Cancel` and then set the state of the workflow's own copy of the session; the
activities set the state of the stored row.  Nothing ties the two together but
that both compute the state from the same result.

The copies differ when a handler ends with an error after its activity wrote the
row, as a `Cancel` does when the node refuses it (`refusedCancel_splits_state`),
or when two handlers end in another order than they wrote.
`statesAgree_of_inOrder` says that these are the only ways.  To say it, a run is
watched together with the handler that wrote the row last (`Watched`).

The cancellation of the workflow from outside and its queries are left out.
-/

import Agentd.Workflows.SessionRuns
import Agentd.Workflows.Handler

namespace Agentd
namespace Workflows

open Control Store NodeRuntime Concurrency

/-- `sessionState`. -/
structure SessionWorkflowState where
  session : Session
  lastRun : Run := {}

/-- The variables of `SessionWorkflow`, its result once it returned, and the
world its activities work on. -/
structure SessionWorkflow where
  world : World
  state : SessionWorkflowState
  returned : Option Session := none

/-- The session a call is about. -/
def SessionCall.sessionID : SessionCall → String
  | .prompt req => req.sessionID
  | .cancel req => req.sessionID

/-- What an activity on a session returns. -/
inductive SessionResult
  | run (run : Run)
  | cancelled

/-- The result of an activity that has returned. -/
def SessionActivity.result : SessionActivity → Option (Except Err SessionResult)
  | .prompt (.returned res) => some (res.map .run)
  | .cancel (.returned res) => some (res.map fun _ => .cancelled)
  | _ => none

/-- The session state after a run. -/
def endState (run : Run) : SessionState :=
  if run.state = .failed then .failed else .waitingInput

/-- The variables after the activity of a handler succeeded. -/
def SessionWorkflowState.succeed (s : SessionWorkflowState) (now : Time) :
    SessionResult → SessionWorkflowState
  | .run run =>
      { s with
        lastRun := run
        session.activeRunID := ""
        session.updatedAt := now
        session.state := endState run }
  | .cancelled =>
      { s with
        session.state := .cancelling
        session.updatedAt := now }

/-- The rest of a handler after its activity succeeded. -/
def SessionWorkflow.succeed (s : SessionWorkflow) (now : Time) (r : SessionResult) : SessionWorkflow :=
  { s with state := s.state.succeed now r }

/-- The update handlers of `SessionWorkflow`.  A client sends an update to the
workflow of the session it names. -/
def sessionHandlers : HandlerCode SessionWorkflow SessionCall SessionActivity SessionResult where
  accepts s u := s.returned.isNone && u.sessionID = s.state.session.id
  execute _ u := u.activity
  step s a x := (x.step s.world a).map fun r => ({ s with world := r.1 }, r.2)
  result := SessionActivity.result
  succeed s now r := s.succeed now r

/-- A workflow with its handlers. -/
abbrev SessionRun : Type := Pool SessionWorkflow (Handler SessionCall SessionActivity)

/-- What happens next in a workflow. -/
inductive SessionLabel
  | handler (l : PoolLabel SessionCall HandlerLabel)
  | await

/-- One step of a workflow. -/
def SessionRun.step (p : SessionRun) : SessionLabel → Option SessionRun
  | .handler l => Pool.step sessionHandlers.machine p l
  | .await =>
      if p.shared.returned.isNone ∧ p.shared.state.session.state = .archived then
        some { p with shared.returned := some p.shared.state.session }
      else none

/-- The next call of the activity writes the session row. -/
def SessionActivity.writesSession : SessionActivity → Bool
  | .prompt (.upsertSession ..) | .prompt (.upsertFailedSession ..)
  | .prompt (.upsertFinalSession ..) | .cancel (.upsertSession ..) => true
  | _ => false

/-- A run, and the handler that wrote the session row last, while that handler
is under way. -/
structure Watched where
  run : SessionRun
  last : Option ℕ := none

/-- The handler that wrote the row last, after one more step. -/
def Watched.lastWriter (t : Watched) : SessionLabel → Option ℕ
  | .handler (.step i (.act a)) =>
      if (∃ h ∈ t.run.threads[i]?, h.activity.writesSession = true) ∧ a.outcome.took then some i
      else t.last
  | .handler (.step i (.deliver _)) => if t.last = some i then none else t.last
  | _ => t.last

/-- One step of a run that is watched. -/
def Watched.step (t : Watched) (l : SessionLabel) : Option Watched :=
  (t.run.step l).map fun q => ⟨q, t.lastWriter l⟩

/-- While no handler is under way, the workflow and the row have the same
state. -/
def StatesAgree (t : Watched) : Prop :=
  (∀ h ∈ t.run.threads, h.done = true) →
    (t.run.shared.world.store.sessions.get t.run.shared.state.session.id).map (·.state) =
      some t.run.shared.state.session.state

instance (t : Watched) : Decidable (StatesAgree t) := inferInstanceAs (Decidable (_ → _))

/-- No write to the store fails. -/
def WritesSucceed (t : Watched) : SessionLabel → Prop
  | .handler (.step i (.act a)) => ∀ h ∈ t.run.threads[i]?,
      h.activity.atStoreWrite = true → a.outcome = .ok
  | _ => True

/-- When handler `i` may end with the given result.  With a success, while the
handler that wrote the row last has not ended before it; with an error, when it
did not write the row last itself. -/
def MayEnd (last : Option ℕ) (i : ℕ) : Option (Except Err SessionResult) → Prop
  | some (.ok _) => last ≠ none
  | some (.error _) => last ≠ some i
  | none => True

/-- Store writes succeed, and handlers end only when they may. -/
def EndsInOrder (t : Watched) (l : SessionLabel) : Prop :=
  WritesSucceed t l ∧
    match l with
    | .handler (.step i (.deliver _)) => ∀ h ∈ t.run.threads[i]?,
        MayEnd t.last i h.activity.result
    | _ => True

instance (t : Watched) : DecidablePred (WritesSucceed t)
  | .handler (.step i (.act _)) => inferInstanceAs (Decidable (∀ h ∈ t.run.threads[i]?, _ → _))
  | .handler (.step _ (.deliver _)) | .handler (.step _ .retry) | .handler (.spawn _) | .await =>
      isTrue trivial

instance (last : Option ℕ) (i : ℕ) : DecidablePred (MayEnd last i)
  | some (.ok _) => inferInstanceAs (Decidable (_ ≠ _))
  | some (.error _) => inferInstanceAs (Decidable (_ ≠ _))
  | none => isTrue trivial

instance (t : Watched) : DecidablePred (EndsInOrder t)
  | .handler (.step i (.deliver _)) =>
      inferInstanceAs (Decidable (_ ∧ ∀ h ∈ t.run.threads[i]?, MayEnd t.last i h.activity.result))
  | .handler (.step _ (.act _)) | .handler (.step _ .retry) | .handler (.spawn _) | .await =>
      inferInstanceAs (Decidable (_ ∧ True))

/-- The state an activity wrote last, once it needs no further session write to
succeed. -/
def SessionActivity.wrote : SessionActivity → Option SessionState
  | .prompt (.appendAudit final) => some (endState final)
  | .prompt (.returned (.ok run)) => some (endState run)
  | .cancel (.publishCancelling ..) | .cancel (.nodeCancel ..) | .cancel (.returned (.ok _)) =>
      some .cancelling
  | _ => none

/-- What holds of a `Prompt` on the session `id` at each of its calls: its copy
is of that session, and a row for the end of a run has the state of that run. -/
def Prompt.CopyOf (id : String) : Prompt → Prop
  | .getSession req => req.sessionID = id
  | .containerNode _ sess | .upsertSession _ sess _ _ | .upsertRun _ sess _ _
  | .publishStarted _ sess _ _ | .nodePrompt _ sess _ _ | .upsertFinalRun sess _ _ => sess.id = id
  | .upsertFailedRun sess run => sess.id = id ∧ run.state = .failed
  | .upsertFailedSession sess run => sess.id = id ∧ sess.state = endState run
  | .upsertFinalSession sess _ final => sess.id = id ∧ sess.state = endState final
  | .appendAudit _ | .returned _ => True

/-- What holds of a `Cancel` on the session `id` at each of its calls. -/
def Cancel.CopyOf (id : String) : Cancel → Prop
  | .getSession req => req.sessionID = id
  | .containerNode _ sess => sess.id = id
  | .upsertSession _ sess _ => sess.id = id ∧ sess.state = .cancelling
  | .publishCancelling .. | .nodeCancel .. | .returned _ => True

/-- What holds of an activity on the session `id` at each of its calls. -/
def SessionActivity.CopyOf (id : String) : SessionActivity → Prop
  | .prompt x => x.CopyOf id
  | .cancel x => x.CopyOf id

/-- A step of an activity, as the row sees it: the rows stay, or the row of the
session is written with the state the activity then wrote last. -/
inductive RowStep (id : String) (w w' : World) (x x' : SessionActivity) : Prop
  | keep (hx : x.writesSession = false) (hs : w'.store.sessions = w.store.sessions)
      (hw : ∀ st, x'.wrote = some st → x.wrote = some st)
  | write (sess : Session) (hx : x.writesSession = true) (hid : sess.id = id)
      (hs : w'.store.sessions = w.store.sessions.upsert sess)
      (hw : ∀ st, x'.wrote = some st → sess.state = st)

section

variable {id : String} {w w' : World} {a : Answer}

/-- The rows stay, and the activity has a session write ahead or has failed. -/
theorem RowStep.keep_of_none {x x' : SessionActivity} (hx : x.writesSession = false)
    (hs : w'.store.sessions = w.store.sessions) (hw : x'.wrote = none) : RowStep id w w' x x' := by
  refine .keep hx hs fun st hst => ?_
  rw [hw] at hst
  cases hst

/-- **One step of `Prompt`, as the row sees it.** -/
theorem Prompt.rowStep {x x' : Prompt} (h : x.step w a = some (w', x')) (hx : x.CopyOf id)
    (ho : (SessionActivity.prompt x).atStoreWrite = true → a.outcome = .ok) :
    x'.CopyOf id ∧ RowStep id w w' (.prompt x) (.prompt x') := by
  obtain ⟨hnext, hstore⟩ := Prompt.step_next h
  have hs := (congrArg MemoryStore.sessions hstore).trans (stored_sessions ..)
  cases hnext with
  | notRead | noNode | runNotStored => exact ⟨trivial, .keep_of_none rfl hs rfl⟩
  | read req sess hget =>
      have hkey := Table.key_of_get hget
      exact ⟨hkey.trans hx, .keep_of_none rfl hs rfl⟩
  | begun | runWritten | announced | event | ended => exact ⟨hx, .keep_of_none rfl hs rfl⟩
  | sessionWritten req sess k run =>
      exact ⟨hx, .write sess rfl hx (sessions_of_ok (ho rfl) hs) fun st hst => by cases hst⟩
  | failed | runStored => exact ⟨⟨hx, rfl⟩, .keep_of_none rfl hs rfl⟩
  | failedRunWritten sess run =>
      have hend : endState run = .failed := if_pos hx.2
      exact ⟨⟨hx.1, hend.symm⟩, .keep_of_none rfl hs rfl⟩
  | failedSessionWritten sess run | sessionStored sess run final =>
      refine ⟨trivial, .write sess rfl hx.1 (sessions_of_ok (ho rfl) hs) fun st hst => ?_⟩
      exact hx.2.trans (Option.some.inj hst)
  | sessionNotStored sess run final =>
      refine ⟨trivial, .write sess rfl hx.1 (sessions_of_ok (ho rfl) hs) fun st hst => ?_⟩
      cases hst
  | audited => exact ⟨trivial, .keep rfl hs fun st hst => hst⟩

/-- **One step of `Cancel`, as the row sees it.** -/
theorem Cancel.rowStep {x x' : Cancel} (h : x.step w a = some (w', x')) (hx : x.CopyOf id)
    (ho : (SessionActivity.cancel x).atStoreWrite = true → a.outcome = .ok) :
    x'.CopyOf id ∧ RowStep id w w' (.cancel x) (.cancel x') := by
  obtain ⟨hnext, hstore⟩ := Cancel.step_next h
  have hs := (congrArg MemoryStore.sessions hstore).trans (stored_sessions ..)
  cases hnext with
  | notRead | noNode => exact ⟨trivial, .keep_of_none rfl hs rfl⟩
  | read req sess hget =>
      have hkey := Table.key_of_get hget
      exact ⟨hkey.trans hx, .keep_of_none rfl hs rfl⟩
  | begun => exact ⟨⟨hx, rfl⟩, .keep_of_none rfl hs rfl⟩
  | sessionWritten req sess k =>
      refine ⟨trivial, .write sess rfl hx.1 (sessions_of_ok (ho rfl) hs) fun st hst => ?_⟩
      exact hx.2.trans (Option.some.inj hst)
  | announced => exact ⟨trivial, .keep rfl hs fun st hst => hst⟩
  | ended req k res =>
      refine ⟨trivial, .keep rfl hs fun st hst => ?_⟩
      cases res with
      | error e => cases hst
      | ok u => exact hst

/-- **One step of an activity, as the row sees it.** -/
theorem SessionActivity.rowStep {x x' : SessionActivity} (h : x.step w a = some (w', x'))
    (hx : x.CopyOf id) (ho : x.atStoreWrite = true → a.outcome = .ok) :
    x'.CopyOf id ∧ RowStep id w w' x x' := by
  cases x with
  | prompt x =>
      obtain ⟨v, y, hy, rfl, rfl⟩ := map_eq_some_pair h
      exact Prompt.rowStep hy hx ho
  | cancel x =>
      obtain ⟨v, y, hy, rfl, rfl⟩ := map_eq_some_pair h
      exact Cancel.rowStep hy hx ho

end

theorem SessionActivity.atStoreWrite_of_writesSession {x : SessionActivity}
    (h : x.writesSession = true) : x.atStoreWrite = true := by
  unfold SessionActivity.writesSession at h
  split at h
  · rfl
  · rfl
  · rfl
  · rfl
  · cases h

/-- The state a handler gives to the workflow's session is the one its activity
wrote. -/
theorem SessionWorkflow.succeed_state {s : SessionWorkflow} {x : SessionActivity}
    {r : SessionResult} (now : Time) (h : x.result = some (.ok r)) :
    (s.succeed now r).world = s.world ∧
      (s.succeed now r).state.session.id = s.state.session.id ∧
        x.wrote = some (s.succeed now r).state.session.state := by
  unfold SessionActivity.result at h
  split at h
  · next res =>
      cases res with
      | error e => cases h
      | ok run =>
          obtain rfl := Except.ok.inj (Option.some.inj h)
          exact ⟨rfl, rfl, rfl⟩
  · next res =>
      cases res with
      | error e => cases h
      | ok u =>
          obtain rfl := Except.ok.inj (Option.some.inj h)
          exact ⟨rfl, rfl, rfl⟩
  · cases h

/-- The invariant.  The handlers work on the session `id`; the last writer is
under way, and if it needs no further write the row has the state it wrote;
without a last writer the row has the state of the workflow. -/
structure Agrees (id : String) (t : Watched) : Prop where
  session : t.run.shared.state.session.id = id
  handlers : ∀ (i : ℕ) h, t.run.threads[i]? = some h →
    h.update.sessionID = id ∧ h.activity.CopyOf id
  inFlight : ∀ i, t.last = some i → ∃ h, t.run.threads[i]? = some h ∧ h.done = false
  row : ∃ sess, t.run.shared.world.store.sessions.get id = some sess ∧
    (t.last = none → sess.state = t.run.shared.state.session.state) ∧
      ∀ i h, t.last = some i → t.run.threads[i]? = some h →
        ∀ st, h.activity.wrote = some st → sess.state = st

theorem SessionCall.activity_copyOf {id : String} {u : SessionCall} (h : u.sessionID = id) :
    u.activity.CopyOf id := by
  cases u with
  | prompt req => exact h
  | cancel req => exact h

theorem SessionCall.activity_wrote (u : SessionCall) : u.activity.wrote = none := by
  cases u <;> rfl

namespace Agrees

variable {id : String} {t : Watched} {i : ℕ} {h : Handler SessionCall SessionActivity}

/-- The last writer is under way after a step in which no other handler ends. -/
theorem inFlight_set {h' : Handler SessionCall SessionActivity} {j : ℕ} (ht : Agrees id t)
    (hi : t.run.threads[i]? = some h) (hd : h'.done = false) (hj : t.last = some j) :
    ∃ g, (t.run.threads.set i h')[j]? = some g ∧ g.done = false := by
  by_cases hji : j = i
  · subst hji
    exact ⟨h', getElem?_set_of_some h' hi, hd⟩
  · obtain ⟨g, hg, hgd⟩ := ht.inFlight j hj
    exact ⟨g, by rw [List.getElem?_set_ne (Ne.symm hji), hg], hgd⟩

/-- The handlers after a step of handler `i`. -/
theorem handlers_set {h' : Handler SessionCall SessionActivity} (ht : Agrees id t)
    (hu : h'.update.sessionID = id) (hx : h'.activity.CopyOf id) (j : ℕ)
    (g : Handler SessionCall SessionActivity) (hg : (t.run.threads.set i h')[j]? = some g) :
    g.update.sessionID = id ∧ g.activity.CopyOf id := by
  rcases getElem?_set_cases hg with ⟨-, rfl⟩ | ⟨-, hg⟩
  · exact ⟨hu, hx⟩
  · exact ht.handlers j g hg

/-- A call of an activity. -/
theorem act {a : Answer} {w' : World} {x : SessionActivity} (ht : Agrees id t)
    (hi : t.run.threads[i]? = some h) (hd : h.done = false)
    (hx : h.activity.step t.run.shared.world a = some (w', x))
    (ho : h.activity.atStoreWrite = true → a.outcome = .ok) :
    Agrees id
      ⟨⟨{ t.run.shared with world := w' }, t.run.threads.set i { h with activity := x }⟩,
        t.lastWriter (.handler (.step i (.act a)))⟩ := by
  obtain ⟨hu, hcopy⟩ := ht.handlers i h hi
  obtain ⟨hcopy', hrow⟩ := SessionActivity.rowStep hx hcopy ho
  have hlast : t.lastWriter (.handler (.step i (.act a))) =
      if h.activity.writesSession = true ∧ a.outcome.took then some i else t.last := by
    show (if (∃ g ∈ t.run.threads[i]?, _) ∧ _ then _ else _) = _
    simp only [hi, Option.mem_def, Option.some.injEq, exists_eq_left']
  rw [hlast]
  cases hrow with
  | keep hw hs hwrote =>
      rw [if_neg (fun hboth => by rw [hw] at hboth; exact Bool.false_ne_true hboth.1)]
      obtain ⟨sess, hget, hnone, hsome⟩ := ht.row
      refine ⟨ht.session, ht.handlers_set hu hcopy', fun j hj => ht.inFlight_set hi hd hj,
        sess, ?_, hnone, fun j g hj hg st hst => ?_⟩
      · show w'.store.sessions.get id = some sess
        rw [hs]
        exact hget
      · rcases getElem?_set_cases hg with ⟨rfl, rfl⟩ | ⟨-, hg⟩
        · exact hsome j h hj hi st (hwrote st hst)
        · exact hsome j g hj hg st hst
  | write sess hw hid hs hwrote =>
      have htook : a.outcome.took = true := by
        rw [ho (SessionActivity.atStoreWrite_of_writesSession hw)]
        rfl
      rw [if_pos ⟨hw, htook⟩]
      refine ⟨ht.session, ht.handlers_set hu hcopy', fun j hj => ?_, sess, ?_, fun hn => ?_,
        fun j g hj hg st hst => ?_⟩
      · obtain rfl := Option.some.inj hj
        exact ⟨{ h with activity := x }, getElem?_set_of_some _ hi, hd⟩
      · show w'.store.sessions.get id = some sess
        rw [hs, ← hid]
        exact Table.get_upsert_self _ sess
      · cases hn
      · obtain rfl := Option.some.inj hj
        rcases getElem?_set_cases hg with ⟨-, rfl⟩ | ⟨hne, -⟩
        · exact hwrote st hst
        · exact absurd rfl hne

theorem retry (ht : Agrees id t) (hi : t.run.threads[i]? = some h) (hd : h.done = false) :
    Agrees id ⟨⟨t.run.shared, t.run.threads.set i
      { h with attempt := h.attempt + 1, activity := h.update.activity }⟩, t.last⟩ := by
  obtain ⟨hu, -⟩ := ht.handlers i h hi
  obtain ⟨sess, hget, hnone, hsome⟩ := ht.row
  refine ⟨ht.session, ht.handlers_set hu (SessionCall.activity_copyOf hu),
    fun j hj => ht.inFlight_set hi hd hj, sess, hget, hnone, fun j g hj hg st hst => ?_⟩
  rcases getElem?_set_cases hg with ⟨-, rfl⟩ | ⟨-, hg⟩
  · have hst' : h.update.activity.wrote = some st := hst
    rw [h.update.activity_wrote] at hst'
    cases hst'
  · exact hsome j g hj hg st hst

theorem inFlight_other {j : ℕ} (ht : Agrees id t) (hj : t.last = some j) (hji : j ≠ i) :
    ∃ g, (t.run.threads.set i { h with done := true })[j]? = some g ∧ g.done = false := by
  obtain ⟨g, hg, hgd⟩ := ht.inFlight j hj
  exact ⟨g, by rw [List.getElem?_set_ne (Ne.symm hji), hg], hgd⟩

/-- The end of a handler with a success. -/
theorem success {r : SessionResult} {now : Time} (ht : Agrees id t)
    (hi : t.run.threads[i]? = some h) (hr : h.activity.result = some (.ok r))
    (hlast : t.last ≠ none) :
    Agrees id ⟨⟨t.run.shared.succeed now r, t.run.threads.set i { h with done := true }⟩,
      if t.last = some i then none else t.last⟩ := by
  obtain ⟨hu, hcopy⟩ := ht.handlers i h hi
  obtain ⟨sess, hget, -, hsome⟩ := ht.row
  obtain ⟨hworld, hid, hwrote⟩ := SessionWorkflow.succeed_state (s := t.run.shared) now hr
  have hget' : (t.run.shared.succeed now r).world.store.sessions.get id = some sess := by
    rw [hworld]
    exact hget
  split_ifs with hl
  · -- it wrote the row last, so the row has the state it now gives to the workflow
    refine ⟨hid.trans ht.session, ht.handlers_set hu hcopy, fun j hj => ?_, sess, hget',
      fun _ => hsome i h hl hi _ hwrote, fun j g hj => ?_⟩
    · cases hj
    · cases hj
  · refine ⟨hid.trans ht.session, ht.handlers_set hu hcopy, fun j hj => ?_, sess, hget',
      fun hn => absurd hn hlast, fun j g hj hg st hst => ?_⟩
    · exact ht.inFlight_other hj fun hji => hl (hji ▸ hj)
    · rcases getElem?_set_cases hg with ⟨rfl, -⟩ | ⟨-, hg⟩
      · exact absurd hj hl
      · exact hsome j g hj hg st hst

theorem failure (ht : Agrees id t) (hi : t.run.threads[i]? = some h) (hlast : t.last ≠ some i) :
    Agrees id ⟨⟨t.run.shared, t.run.threads.set i { h with done := true }⟩,
      if t.last = some i then none else t.last⟩ := by
  obtain ⟨hu, hcopy⟩ := ht.handlers i h hi
  obtain ⟨sess, hget, hnone, hsome⟩ := ht.row
  rw [if_neg hlast]
  refine ⟨ht.session, ht.handlers_set hu hcopy, fun j hj => ?_, sess, hget, hnone,
    fun j g hj hg st hst => ?_⟩
  · exact ht.inFlight_other hj fun hji => hlast (hji ▸ hj)
  · rcases getElem?_set_cases hg with ⟨rfl, -⟩ | ⟨-, hg⟩
    · exact absurd hj hlast
    · exact hsome j g hj hg st hst

/-- **One step of a run.** -/
theorem step {t' : Watched} {l : SessionLabel} (ht : Agrees id t) (hC : EndsInOrder t l)
    (hstep : t.step l = some t') : Agrees id t' := by
  obtain ⟨q, hq, rfl⟩ := Option.map_eq_some_iff.1 hstep
  obtain ⟨hwrites, hends⟩ := hC
  cases l with
  | await =>
      obtain ⟨-, hq⟩ := Option.ite_none_right_eq_some.1 hq
      obtain rfl := Option.some.inj hq
      exact ⟨ht.session, ht.handlers, ht.inFlight, ht.row⟩
  | handler l =>
      cases l with
      | spawn u =>
          obtain ⟨h, hstart, rfl⟩ := Pool.step_spawn.1 hq
          obtain ⟨hacc, rfl⟩ := HandlerCode.start_eq_some hstart
          have hu : u.sessionID = id :=
            (of_decide_eq_true (Bool.and_eq_true_iff.1 hacc).2).trans ht.session
          obtain ⟨sess, hget, hnone, hsome⟩ := ht.row
          refine ⟨ht.session, fun j g hg => ?_, fun j hj => ?_, sess, hget, hnone,
            fun j g hj hg st hst => ?_⟩
          · rcases getElem?_concat_cases hg with ⟨-, rfl⟩ | hg
            · exact ⟨hu, SessionCall.activity_copyOf hu⟩
            · exact ht.handlers j g hg
          · obtain ⟨g, hg, hgd⟩ := ht.inFlight j hj
            exact ⟨g, getElem?_append_of_some _ hg, hgd⟩
          · rcases getElem?_concat_cases hg with ⟨-, rfl⟩ | hg
            · have hst' : u.activity.wrote = some st := hst
              rw [u.activity_wrote] at hst'
              cases hst'
            · exact hsome j g hj hg st hst
      | step i l =>
          obtain ⟨h, s', h', hi, hrun, rfl⟩ := Pool.step_run.1 hq
          obtain ⟨hd, hcases⟩ := HandlerCode.run_cases hrun
          rcases hcases with ⟨a, x, rfl, hx, rfl⟩ | ⟨e, rfl, -, -, rfl, rfl⟩ |
            ⟨now, r, rfl, hr, rfl, rfl⟩ | ⟨now, e, rfl, hr, -, rfl, rfl⟩
          · obtain ⟨w', y, hy, rfl, rfl⟩ := map_eq_some_pair hx
            exact ht.act hi hd hy (hwrites h hi)
          · exact ht.retry hi hd
          · have hmay : MayEnd t.last i h.activity.result := hends h hi
            rw [show h.activity.result = some (.ok r) from hr] at hmay
            exact ht.success hi hr hmay
          · have hmay : MayEnd t.last i h.activity.result := hends h hi
            rw [show h.activity.result = some (.error e) from hr] at hmay
            exact ht.failure hi hmay

end Agrees

/-- **Handlers that end in order keep workflow and store together.**  Start a
workflow with the stored session.  In every run along which store writes
succeed, no handler that ends with a success is overtaken by a later writer, and
no handler ends with an error after it wrote the row last, the workflow and the
row have the same state whenever no handler is under way. -/
theorem statesAgree_of_inOrder {w : World} {sess : Session} {t : Watched} {l : List SessionLabel}
    (hw : w.store.sessions.get sess.id = some sess)
    (hl : Along Watched.step EndsInOrder
      { run := ⟨{ world := w, state := { session := sess } }, []⟩ } l)
    (h : exec Watched.step { run := ⟨{ world := w, state := { session := sess } }, []⟩ } l =
      some t) : StatesAgree t := by
  have hinit : Agrees sess.id { run := ⟨{ world := w, state := { session := sess } }, []⟩ } := by
    refine ⟨rfl, fun i h hi => by simp at hi, fun i hi => ?_, sess, hw, fun _ => rfl,
      fun i h hi => ?_⟩
    · cases hi
    · cases hi
  have ht : Agrees sess.id t := exec_invariant (fun _ _ _ hs hC hq => hs.step hC hq) hinit hl h
  intro hdone
  obtain ⟨row, hget, hnone, -⟩ := ht.row
  have hlast : t.last = none := by
    rw [Option.eq_none_iff_forall_ne_some]
    intro i hi
    obtain ⟨g, hg, hgd⟩ := ht.inFlight i hi
    rw [hdone g (List.mem_of_getElem? hg)] at hgd
    cases hgd
  rw [ht.session, hget, Option.map_some, hnone hlast]

/-- The workflow of a session that waits for input, without handlers. -/
def waitingWorkflow : Watched where
  run := ⟨{ world := .serving waitingSession, state := { session := waitingSession } }, []⟩

/-- A step of the activity of handler `i`. -/
def act (i : ℕ) (a : Answer) : SessionLabel := .handler (.step i (.act a))

/-- A run that is cancelled while it is executed, and a run whose activity fails
once before it starts and then fails at the node; the handlers end in the order
of their last writes. -/
def updatesInOrder : List SessionLabel :=
  [.handler (.spawn (.prompt { sessionID := "sess_1" })),
    .handler (.spawn (.cancel { sessionID := "sess_1" })),
    act 0 {}, act 0 { raw := "1" }, act 0 {}, act 0 {}, act 0 {},
    act 1 {}, act 1 {}, act 1 {}, act 1 {}, act 1 {}, .handler (.step 1 (.deliver 1)),
    act 0 { reply := .run { id := "run_1", state := .cancelled } }, act 0 {}, act 0 {}, act 0 {},
    .handler (.step 0 (.deliver 2)),
    .handler (.spawn (.prompt { sessionID := "sess_1" })),
    act 2 { outcome := .fail (.other "unavailable") }, .handler (.step 2 .retry),
    act 2 {}, act 2 { raw := "2" }, act 2 {}, act 2 {}, act 2 {},
    act 2 { outcome := .fail (.other "unavailable") }, act 2 {}, act 2 {},
    .handler (.step 2 (.deliver 3))]

/-- `statesAgree_of_inOrder` applies to handlers that end in order. -/
theorem updatesInOrder_agree :
    ∃ t ∈ exec Watched.step waitingWorkflow updatesInOrder, StatesAgree t := by
  obtain ⟨t, ht⟩ := Option.isSome_iff_exists.1
    (show (exec Watched.step waitingWorkflow updatesInOrder).isSome = true by decide)
  have hrow : (World.serving waitingSession).store.sessions.get waitingSession.id =
      some waitingSession := Table.get_upsert_self _ waitingSession
  exact ⟨t, ht, statesAgree_of_inOrder hrow (by decide) ht⟩

/-- One attempt at a `Cancel` that the node refuses. -/
def refused : List SessionLabel :=
  [act 0 {}, act 0 {}, act 0 {}, act 0 {}, act 0 { outcome := .fail (.other "no such run") }]

/-- A `Cancel` that the node refuses at every attempt. -/
def refusedCancel : List SessionLabel :=
  .handler (.spawn (.cancel { sessionID := "sess_1" })) :: refused ++
    .handler (.step 0 .retry) :: refused ++ .handler (.step 0 .retry) :: refused ++
    .handler (.step 0 .retry) :: refused ++ .handler (.step 0 .retry) :: refused ++
    [.handler (.step 0 (.deliver 1))]

/-- **A `Cancel` that the node refuses splits the state.**  All store writes
succeed; afterwards no handler is under way, the row is `cancelling` and the
workflow still waits for input. -/
theorem refusedCancel_splits_state :
    Along Watched.step WritesSucceed waitingWorkflow refusedCancel ∧
      ∃ t ∈ exec Watched.step waitingWorkflow refusedCancel, ¬StatesAgree t := by
  decide

end Workflows
end Agentd
