/-
# What a prompt leaves in the store

`Activities.Prompt` (`workflows/activities.go`) writes the row of its session three times and that
of its run twice.  The rows after it has returned a run are what `SessionWorkflow` and the API go
by: the row of the run is to be the run that was returned, and the session is to be as before,
but for its state and for the run that was active.

The activity has two exits.  Where the node has returned a run, `ActiveRunID` is cleared; where it
has returned an error, `ActiveRunID` keeps the id of the run that has failed.  All else is the
same for both: `prompt_bookkeeping`.

The activity is alone on its session here: others may leave any world behind them in which the
row of the session and that of the run are the same.
-/

import Agentd.Workflows.SessionActivities
import Agentd.Concurrency.Runs

namespace Agentd
namespace Workflows

open Control Store Concurrency

/-- What happens next: a call of the `Prompt` ends, or others leave the world `w`. -/
inductive BookLabel
  | call (a : Answer)
  | others (w : World)

def bookStep (s : World × Prompt) : BookLabel → Option (World × Prompt)
  | .call a => s.2.step s.1 a
  | .others w => some (w, s.2)

/-- The run of a `Prompt`: the one that it has made, and at its end the one that it returns. -/
def Prompt.runID : Prompt → Option String
  | .upsertSession _ _ _ run | .upsertRun _ _ _ run | .publishStarted _ _ _ run
  | .nodePrompt _ _ _ run | .upsertFailedRun _ run | .upsertFailedSession _ run
  | .upsertFinalRun _ run _ | .upsertFinalSession _ run _ => some run.id
  | .appendAudit final => some final.id
  | .returned (.ok run) => some run.id
  | .getSession _ | .containerNode .. | .returned (.error _) => none

/-- The run that the node is asked for. -/
def Prompt.asked : Prompt → Option String
  | .nodePrompt _ _ _ run => some run.id
  | _ => none

/-- The id of the run in a reply. -/
def Reply.runID : Reply → Option String
  | .run r => some r.id
  | .none | .agent _ | .session _ | .event _ => Option.none

/-- A write of the `Prompt` succeeds, and the node returns the run that it was asked for. -/
def Prompt.Answered (x : Prompt) (a : Answer) : Prop :=
  ((SessionActivity.prompt x).atStoreWrite = true → a.outcome = .ok) ∧
    ∀ rid ∈ x.asked, ∀ fid ∈ a.reply.runID, fid = rid

instance (x : Prompt) (a : Answer) : Decidable (x.Answered a) :=
  inferInstanceAs (Decidable (_ ∧ _))

/-- The calls of the `Prompt` are answered, and others leave the rows of the session and of the
run alone. -/
def Alone (id : String) (s : World × Prompt) : BookLabel → Prop
  | .call a => s.2.Answered a
  | .others w =>
      w.store.sessions.get id = s.1.store.sessions.get id ∧
        ∀ rid ∈ s.2.runID, w.store.runs.get rid = s.1.store.runs.get rid

/-- `node.Prompt` returns an error, its own or that of its callback. -/
def NodeErrs (s : World × Prompt) : BookLabel → Prop
  | .call a => s.2.asked ≠ none ∧ a.outcome.err ≠ none
  | .others _ => False

instance (s : World × Prompt) (l : BookLabel) : Decidable (NodeErrs s l) :=
  match l with
  | .call a => inferInstanceAs (Decidable (s.2.asked ≠ none ∧ a.outcome.err ≠ none))
  | .others _ => inferInstanceAs (Decidable False)

/-- It has done so in the past. -/
def NodeErred (past : List ((World × Prompt) × BookLabel)) : Prop :=
  ∃ p ∈ past, NodeErrs p.1 p.2

instance (past : List ((World × Prompt) × BookLabel)) : Decidable (NodeErred past) :=
  inferInstanceAs (Decidable (∃ p ∈ past, NodeErrs p.1 p.2))

/-- The row of a session `sess` after a prompt that has returned `run`, but for the run that is
active. -/
structure Balanced (sess : Session) (run : Run) (sess' : Session) : Prop where
  state : sess'.state = if run.state = .failed then .failed else .waitingInput
  frame : sess' =
    { sess with
      state := sess'.state, activeRunID := sess'.activeRunID, updatedAt := sess'.updatedAt }

/-- What the place of a `Prompt` says about the rows, when its session was stored as `sess`;
`erred` says that the node has returned an error. -/
def Book (sess : Session) (erred : Prop) (s : World × Prompt) : Prop :=
  match s.2 with
  | .getSession req =>
      req.sessionID = sess.id ∧ s.1.store.sessions.get sess.id = some sess ∧ ¬ erred
  | .containerNode _ sess' => sess' = sess ∧ ¬ erred
  | .upsertSession _ sess' _ run | .upsertRun _ sess' _ run | .publishStarted _ sess' _ run
  | .nodePrompt _ sess' _ run =>
      (∃ t, sess' = Prompt.streaming sess run t) ∧ run.id ≠ "" ∧ ¬ erred
  | .upsertFailedRun sess' run =>
      (∃ t, sess' = Prompt.streaming sess run t) ∧ run.id ≠ "" ∧ run.state = .failed ∧ erred
  | .upsertFailedSession sess' run =>
      (∃ t t', sess' = Prompt.failed (Prompt.streaming sess run t) t') ∧ run.id ≠ "" ∧
        run.state = .failed ∧ s.1.store.runs.get run.id = some run ∧ erred
  | .upsertFinalRun sess' run final =>
      (∃ t, sess' = Prompt.streaming sess run t) ∧ final.id = run.id ∧ ¬ erred
  | .upsertFinalSession sess' run final =>
      (∃ t t', sess' = Prompt.ended (Prompt.streaming sess run t) final t') ∧
        final.id = run.id ∧ s.1.store.runs.get final.id = some final ∧ ¬ erred
  | .appendAudit final =>
      s.1.store.runs.get final.id = some final ∧
        (∃ sess', s.1.store.sessions.get sess.id = some sess' ∧ Balanced sess final sess' ∧
          sess'.activeRunID = "") ∧ ¬ erred
  | .returned (.ok run) =>
      s.1.store.runs.get run.id = some run ∧
        ∃ sess', s.1.store.sessions.get sess.id = some sess' ∧ Balanced sess run sess' ∧
          (sess'.activeRunID = "" ↔ ¬ erred)
  | .returned (.error _) => True

section

variable {sess : Session} {erred : Prop} {s s' : World × Prompt} {w : World} {a : Answer}

theorem balanced_failed {run : Run} (hrun : run.state = .failed) (t t' : Time) :
    Balanced sess run (Prompt.failed (Prompt.streaming sess run t) t') where
  state := by rw [hrun]; rfl
  frame := rfl

theorem balanced_ended (run final : Run) (t t' : Time) :
    Balanced sess final (Prompt.ended (Prompt.streaming sess run t) final t') where
  state := rfl
  frame := rfl

/-- **Others keep the books**, since they leave the two rows alone. -/
theorem Book.others (h : Book sess erred s) (hl : Alone sess.id s (.others w)) :
    Book sess erred (w, s.2) := by
  obtain ⟨hsession, hrun⟩ := hl
  obtain ⟨w₀, x⟩ := s
  cases x with
  | getSession req => exact ⟨h.1, hsession.trans h.2.1, h.2.2⟩
  | containerNode | upsertSession | upsertRun | publishStarted | nodePrompt | upsertFailedRun
  | upsertFinalRun => exact h
  | upsertFailedSession sess' run =>
      obtain ⟨hsess, hid, hstate, hget, herred⟩ := h
      exact ⟨hsess, hid, hstate, (hrun run.id rfl).trans hget, herred⟩
  | upsertFinalSession sess' run final =>
      obtain ⟨hsess, hid, hget, herred⟩ := h
      exact ⟨hsess, hid, (hrun final.id (congrArg some hid.symm)).trans hget, herred⟩
  | appendAudit final =>
      obtain ⟨hget, ⟨sess', hget', hbalanced⟩, herred⟩ := h
      exact ⟨(hrun final.id rfl).trans hget, ⟨sess', hsession.trans hget', hbalanced⟩, herred⟩
  | returned res =>
      cases res with
      | error e => trivial
      | ok run =>
          obtain ⟨hget, sess', hget', hbalanced⟩ := h
          exact ⟨(hrun run.id rfl).trans hget, sess', hsession.trans hget', hbalanced⟩

/-- The session and the runs after a write of the session that succeeds. -/
theorem write_session (w : World) (sess' : Session) :
    (w.write .ok (·.upsertSession sess')).store.sessions.get sess'.id = some sess' ∧
      (w.write .ok (·.upsertSession sess')).store.runs = w.store.runs :=
  ⟨Table.get_upsert_self _ _, rfl⟩

/-- **A call of the node** that ends, or publishes an event. -/
theorem Book.nodePrompt {req : PromptRequest} {sess' : Session} {node : String} {run : Run}
    (h : Book sess erred (w, .nodePrompt req sess' node run))
    (hl : Alone sess.id (w, .nodePrompt req sess' node run) (.call a))
    (hstep : Prompt.step w a (.nodePrompt req sess' node run) = some s') :
    Book sess (erred ∨ NodeErrs (w, .nodePrompt req sess' node run) (.call a)) s' := by
  obtain ⟨⟨t, hsess⟩, hid, herred⟩ := h
  have herrs : NodeErrs (w, .nodePrompt req sess' node run) (.call a) ↔ a.outcome.err ≠ none :=
    ⟨fun h => h.2, fun h => ⟨Option.some_ne_none _, h⟩⟩
  rw [herrs]
  have hfailed (w' : World) (e : Err) (he : a.outcome.err = some e) :
      Book sess (erred ∨ a.outcome.err ≠ none)
        (w', .upsertFailedRun sess' (Prompt.failedRun run e a.now)) :=
    ⟨⟨t, hsess⟩, hid, rfl, Or.inr (by rw [he]; exact Option.some_ne_none e)⟩
  have hok (he : a.outcome.err = none) : ¬ (erred ∨ a.outcome.err ≠ none) := by
    rintro (h | h)
    · exact herred h
    · exact h he
  simp only [Prompt.step] at hstep
  split at hstep
  · next event _ =>
      obtain rfl := Option.some.inj hstep
      cases he : a.outcome.err with
      | none => exact ⟨⟨t, hsess⟩, hid, he ▸ hok he⟩
      | some e =>
          have hbook := hfailed (w.publish a.outcome a.now event) e he
          rw [he] at hbook
          exact hbook
  · next final ho hreply =>
      obtain rfl := Option.some.inj hstep
      have hnone : a.outcome.err = none := by rw [ho]; rfl
      exact ⟨⟨t, hsess⟩, hl.2 run.id rfl final.id (by rw [hreply]; rfl), hok hnone⟩
  · cases hstep
  · next e ho _ =>
      obtain rfl := Option.some.inj hstep
      exact hfailed w e (by rw [ho]; rfl)
  · next e ho _ =>
      obtain rfl := Option.some.inj hstep
      exact hfailed w e (by rw [ho]; rfl)

theorem Book.quiet {x : Prompt} (h : Book sess erred (w, x)) (hl : Alone sess.id (w, x) (.call a))
    (hasked : x.asked = none) (hstep : x.step w a = some s') : Book sess erred s' := by
  cases x with
  | getSession req =>
      obtain ⟨hreq, hget, herred⟩ := h
      obtain rfl := Option.some.inj hstep
      cases hs : w.getSession a.outcome req.sessionID with
      | error e => trivial
      | ok sess' =>
          have hrow := World.getSession_eq_ok hs
          rw [hreq] at hrow
          exact ⟨Option.mem_unique hrow hget, herred⟩
  | containerNode req sess' =>
      obtain ⟨rfl, herred⟩ := h
      obtain rfl := Option.some.inj hstep
      cases w.containerNode a.outcome sess'.containerID with
      | error e => trivial
      | ok r => exact ⟨⟨a.now, rfl⟩, Prompt.newRun_id_ne_empty req sess' a, herred⟩
  | upsertSession | upsertRun | publishStarted =>
      obtain rfl := Option.some.inj hstep
      exact h
  | nodePrompt req sess' node run => cases hasked
  | upsertFailedRun sess' run =>
      obtain ⟨⟨t, rfl⟩, hid, hstate, herred⟩ := h
      obtain rfl := Option.some.inj hstep
      rw [hl.1 rfl]
      exact ⟨⟨t, a.now, rfl⟩, hid, hstate, Table.get_upsert_self _ _, herred⟩
  | upsertFailedSession sess' run =>
      obtain ⟨⟨t, t', rfl⟩, hid, hstate, hget, herred⟩ := h
      obtain rfl := Option.some.inj hstep
      rw [hl.1 rfl]
      refine ⟨hget, _, (write_session w _).1, balanced_failed hstate t t', ?_⟩
      exact ⟨fun hempty => absurd hempty hid, fun hno => absurd herred hno⟩
  | upsertFinalRun sess' run final =>
      obtain ⟨⟨t, rfl⟩, hid, herred⟩ := h
      obtain rfl := Option.some.inj hstep
      rw [hl.1 rfl]
      exact ⟨⟨t, a.now, rfl⟩, hid, Table.get_upsert_self _ _, herred⟩
  | upsertFinalSession sess' run final =>
      obtain ⟨⟨t, t', rfl⟩, hid, hget, herred⟩ := h
      obtain rfl := Option.some.inj hstep
      rw [hl.1 rfl]
      exact ⟨hget, ⟨_, (write_session w _).1, balanced_ended run final t t', rfl⟩, herred⟩
  | appendAudit final =>
      obtain ⟨hget, ⟨sess', hget', hbalanced, hactive⟩, herred⟩ := h
      obtain rfl := Option.some.inj hstep
      rw [hl.1 rfl]
      exact ⟨hget, sess', hget', hbalanced, fun _ => herred, fun _ => hactive⟩
  | returned res => cases hstep

/-- **A call of a `Prompt` keeps the books.** -/
theorem Book.call (h : Book sess erred s) (hl : Alone sess.id s (.call a))
    (hstep : s.2.step s.1 a = some s') : Book sess (erred ∨ NodeErrs s (.call a)) s' := by
  obtain ⟨w, x⟩ := s
  by_cases hasked : x.asked = none
  · rw [propext (or_iff_left fun herrs : NodeErrs (w, x) (.call a) => herrs.1 hasked)]
    exact h.quiet hl hasked hstep
  · cases x with
    | nodePrompt req sess' node run => exact h.nodePrompt hl hstep
    | getSession | containerNode | upsertSession | upsertRun | publishStarted | upsertFailedRun
    | upsertFailedSession | upsertFinalRun | upsertFinalSession | appendAudit | returned =>
        exact absurd rfl hasked

end

/-- Of a `Prompt` alone on its session, what it leaves in the rows, step by step. -/
theorem book_of_exec {w : World} {req : PromptRequest} {sess : Session} {l : List BookLabel}
    {s : World × Prompt} (hreq : req.sessionID = sess.id)
    (hsess : w.store.sessions.get sess.id = some sess)
    (hl : Along bookStep (Alone sess.id) (w, .getSession req) l)
    (h : exec bookStep (w, .getSession req) l = some s) :
    Book sess (NodeErred (history bookStep (w, .getSession req) l)) s := by
  have hstart : Book sess (NodeErred []) (w, .getSession req) :=
    ⟨hreq, hsess, fun ⟨_, hmem, _⟩ => by cases hmem⟩
  refine exec_invariant_history (I := fun s past => Book sess (NodeErred past) s) ?_ hstart hl h
  intro s past a t hs hC hstep
  have hpast : NodeErred (past ++ [(s, a)]) = (NodeErred past ∨ NodeErrs s a) := by
    simp [NodeErred, or_and_right, exists_or]
  rw [hpast]
  cases a with
  | call a => exact hs.call hC hstep
  | others w' =>
      obtain rfl := Option.some.inj hstep
      have hnone : (NodeErred past ∨ NodeErrs s (.others w')) = NodeErred past :=
        propext (or_iff_left id)
      rw [hnone]
      exact hs.others hC

/-- **What a prompt leaves in the store.**  A session is stored, a prompt for it runs alone on it
with writes that succeed, and the node returns an error or a run with the id that it was given.
When the prompt has returned a run without an error, the row of the run is that run; the session
has failed if the run has and waits for input otherwise, and its other fields are as before; and
no run is active in it if and only if the node has not returned an error. -/
theorem prompt_bookkeeping {w : World} {req : PromptRequest} {sess : Session} {l : List BookLabel}
    {w' : World} {run : Run} (hsess : w.store.sessions.get req.sessionID = some sess)
    (hl : Along bookStep (Alone sess.id) (w, .getSession req) l)
    (h : exec bookStep (w, .getSession req) l = some (w', .returned (.ok run))) :
    w'.store.runs.get run.id = some run ∧
      ∃ sess', w'.store.sessions.get sess.id = some sess' ∧
        sess'.state = (if run.state = .failed then .failed else .waitingInput) ∧
        sess' = { sess with
          state := sess'.state, activeRunID := sess'.activeRunID, updatedAt := sess'.updatedAt } ∧
        (sess'.activeRunID = "" ↔ ¬ NodeErred (history bookStep (w, .getSession req) l)) := by
  have hreq : sess.id = req.sessionID := Table.key_of_get hsess
  obtain ⟨hrun, sess', hget, hbalanced, hactive⟩ :=
    book_of_exec hreq.symm (hreq ▸ hsess) hl h
  exact ⟨hrun, sess', hget, hbalanced.state, hbalanced.frame, hactive⟩

/-- A run of a `Prompt` with nobody else. -/
theorem along_calls {id : String} {answers : List Answer} {s : World × Prompt}
    (h : Along (fun (s : World × Prompt) a => s.2.step s.1 a) (fun s a => s.2.Answered a) s
      answers) :
    Along bookStep (Alone id) s (answers.map .call) := by
  induction answers generalizing s with
  | nil => trivial
  | cons a rest ih => exact ⟨h.1, fun t ht => ih (h.2 t ht)⟩

/-- The answers of a prompt to which the node gives the answer `a`. -/
def answersWith (a : Answer) (n : ℕ) : List Answer :=
  List.replicate 5 ({} : Answer) ++ a :: List.replicate n ({} : Answer)

/-- The prompt of a session that waits for input. -/
def waitingPrompt : World × Prompt :=
  (.serving waitingSession, .getSession { sessionID := waitingSession.id, runID := "run_1" })

/-- A run that has completed leaves the session waiting for input, without an active run. -/
theorem completedRun_books : ∃ w run sess',
    exec bookStep waitingPrompt
        ((answersWith { reply := .run { id := "run_1", state := .completed } } 3).map .call) =
      some (w, .returned (.ok run)) ∧
    w.store.sessions.get waitingSession.id = some sess' ∧ sess'.state = .waitingInput ∧
      sess'.activeRunID = "" := by
  have hl : Along bookStep (Alone waitingSession.id) waitingPrompt
      ((answersWith { reply := .run { id := "run_1", state := .completed } } 3).map .call) :=
    along_calls (by decide)
  obtain ⟨-, sess', hget, hstate, -, hactive⟩ := prompt_bookkeeping rfl hl rfl
  exact ⟨_, _, sess', rfl, hget, hstate, hactive.2 (by decide)⟩

/-- **A failed run stays active.**  The node returns an error; the run is stored as failed and the
session too, and the failed run is still the active one of the session. -/
theorem failedRun_active :
    Along bookStep (Alone waitingSession.id) waitingPrompt
      ((answersWith { outcome := .fail (.other "connection refused") } 2).map .call) ∧
    ∃ w run sess',
      exec bookStep waitingPrompt
          ((answersWith { outcome := .fail (.other "connection refused") } 2).map .call) =
        some (w, .returned (.ok run)) ∧
      w.store.runs.get "run_1" = some run ∧ run.state = .failed ∧
      w.store.sessions.get waitingSession.id = some sess' ∧ sess'.activeRunID = "run_1" :=
  ⟨along_calls (by decide), _, _, _, rfl, rfl, rfl, rfl, rfl⟩

end Workflows
end Agentd
