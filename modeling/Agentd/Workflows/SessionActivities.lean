/-
# The activities on a session

`workflows/activities.go`: `Prompt` and `Cancel`, one call to the store, the
broker or the node at a time.  Both read the session row at their start and
write the whole row back from that copy: `Prompt` before its call of the node
and again after it, `Cancel` before its call of the node.

`node.Prompt` is the long call.  While it runs, each event of the node is
published through the callback of the activity, and an error of the callback
ends the call; so the activity stays at the call until the node answers with
the final run or an error.
-/

import Agentd.Workflows.ContainerActivities

namespace Agentd
namespace Workflows

open Control Store NodeRuntime

/-- `GetSession`, a read of the store, which may fail. -/
def World.getSession (w : World) (o : Outcome) (id : String) : Except Err Session :=
  match o.err with
  | some e => .error e
  | none => w.store.getSession id

/-- Where a `Prompt` activity stands.  `sess` and `run` are the variables of the
source as they are at that call. -/
inductive Prompt
  | getSession (req : PromptRequest)
  | containerNode (req : PromptRequest) (sess : Session)
  | upsertSession (req : PromptRequest) (sess : Session) (node : String) (run : Run)
  | upsertRun (req : PromptRequest) (sess : Session) (node : String) (run : Run)
  | publishStarted (req : PromptRequest) (sess : Session) (node : String) (run : Run)
  | nodePrompt (req : PromptRequest) (sess : Session) (node : String) (run : Run)
  | upsertFailedRun (sess : Session) (run : Run)
  | upsertFailedSession (sess : Session) (run : Run)
  | upsertFinalRun (sess : Session) (run final : Run)
  | upsertFinalSession (sess : Session) (run final : Run)
  | appendAudit (final : Run)
  | returned (res : Except Err Run)

namespace Prompt

/-- The run as `Prompt` creates it. -/
def newRun (req : PromptRequest) (sess : Session) (a : Answer) : Run where
  id := if req.runID = "" then newID "run" a.raw else req.runID
  sessionID := sess.id
  containerID := sess.containerID
  agentInstanceID := sess.agentInstanceID
  state := .dispatching
  input := req.input
  startedAt := a.now

/-- The session while the run is executed. -/
def streaming (sess : Session) (run : Run) (now : Time) : Session :=
  { sess with state := .streaming, activeRunID := run.id, updatedAt := now }

/-- The run after the node returned an error. -/
def failedRun (run : Run) (e : Err) (now : Time) : Run :=
  { run with
    state := .failed
    error := e.error
    completedAt := some now
    sequence := run.sequence + 1 }

/-- The session after the node returned an error.  `ActiveRunID` stays. -/
def failed (sess : Session) (now : Time) : Session :=
  { sess with state := .failed, updatedAt := now }

/-- The session after the node returned the final run. -/
def ended (sess : Session) (final : Run) (now : Time) : Session :=
  { sess with
    activeRunID := ""
    updatedAt := now
    state := if final.state = .failed then .failed else .waitingInput }

/-- One call of `Prompt`.  The errors of the writes before the call of the node
and of those after its failure are dropped, as in the source. -/
def step (w : World) (a : Answer) : Prompt → Option (World × Prompt)
  | .getSession req =>
      some (w,
        match w.getSession a.outcome req.sessionID with
        | .error e => .returned (.error e)
        | .ok sess => .containerNode req sess)
  | .containerNode req sess =>
      some (w,
        match w.containerNode a.outcome sess.containerID with
        | .error e => .returned (.error e)
        | .ok (_, node) =>
            let run := newRun req sess a
            .upsertSession { req with runID := run.id } (streaming sess run a.now) node run)
  | .upsertSession req sess node run =>
      some (w.write a.outcome (·.upsertSession sess), .upsertRun req sess node run)
  | .upsertRun req sess node run =>
      some (w.write a.outcome (·.upsertRun run), .publishStarted req sess node run)
  | .publishStarted req sess node run =>
      some (w.publish a.outcome a.now
          { sessionID := sess.id, runID := run.id, type := "run.started", sequence := 1,
            time := a.now },
        .nodePrompt req sess node run)
  | .nodePrompt req sess node run =>
      match a.outcome, a.reply with
      | o, .event event =>
          some (w.publish o a.now event,
            match o.err with
            | some e => .upsertFailedRun sess (failedRun run e a.now)
            | none => .nodePrompt req sess node run)
      | .ok, .run final => some (w, .upsertFinalRun sess run final)
      | .ok, _ => none
      | .fail e, _ | .failAfter e, _ => some (w, .upsertFailedRun sess (failedRun run e a.now))
  | .upsertFailedRun sess run =>
      some (w.write a.outcome (·.upsertRun run), .upsertFailedSession (failed sess a.now) run)
  | .upsertFailedSession sess run =>
      some (w.write a.outcome (·.upsertSession sess), .returned (.ok run))
  | .upsertFinalRun sess run final =>
      some (w.write a.outcome (·.upsertRun final),
        match a.outcome.err with
        | some e => .returned (.error e)
        | none => .upsertFinalSession (ended sess final a.now) run final)
  | .upsertFinalSession sess _ final =>
      some (w.write a.outcome (·.upsertSession sess),
        match a.outcome.err with
        | some e => .returned (.error e)
        | none => .appendAudit final)
  | .appendAudit final =>
      some (w.write a.outcome (·.appendAudit (audit "run" final.id final.state.string a)),
        .returned (.ok final))
  | .returned _ => none

end Prompt

/-- Where a `Cancel` activity stands. -/
inductive Cancel
  | getSession (req : CancelRequest)
  | containerNode (req : CancelRequest) (sess : Session)
  | upsertSession (req : CancelRequest) (sess : Session) (node : String)
  | publishCancelling (req : CancelRequest) (node : String)
  | nodeCancel (req : CancelRequest) (node : String)
  | returned (res : Except Err Unit)

namespace Cancel

/-- The session as `Cancel` writes it back. -/
def cancelling (sess : Session) (now : Time) : Session :=
  { sess with state := .cancelling, updatedAt := now }

/-- One call of `Cancel`. -/
def step (w : World) (a : Answer) : Cancel → Option (World × Cancel)
  | .getSession req =>
      some (w,
        match w.getSession a.outcome req.sessionID with
        | .error e => .returned (.error e)
        | .ok sess => .containerNode req sess)
  | .containerNode req sess =>
      some (w,
        match w.containerNode a.outcome sess.containerID with
        | .error e => .returned (.error e)
        | .ok (_, node) => .upsertSession req (cancelling sess a.now) node)
  | .upsertSession req sess node =>
      some (w.write a.outcome (·.upsertSession sess), .publishCancelling req node)
  | .publishCancelling req node =>
      some (w.publish a.outcome a.now
          { sessionID := req.sessionID, runID := req.runID, type := "run.cancelling",
            time := a.now },
        .nodeCancel req node)
  | .nodeCancel _ _ =>
      some (w,
        match a.outcome.err with
        | some e => .returned (.error e)
        | none => .returned (.ok ()))
  | .returned _ => none

end Cancel

/-- An activity on a session. -/
inductive SessionActivity
  | prompt (x : Prompt)
  | cancel (x : Cancel)

namespace SessionActivity

/-- One call of an activity on a session. -/
def step (w : World) (a : Answer) : SessionActivity → Option (World × SessionActivity)
  | .prompt x => (x.step w a).map fun r => (r.1, .prompt r.2)
  | .cancel x => (x.step w a).map fun r => (r.1, .cancel r.2)

/-- The call the activity is about to make writes to the store. -/
def atStoreWrite : SessionActivity → Bool
  | .prompt (.upsertSession ..) | .prompt (.upsertRun ..) | .prompt (.upsertFailedRun ..)
  | .prompt (.upsertFailedSession ..) | .prompt (.upsertFinalRun ..)
  | .prompt (.upsertFinalSession ..) | .prompt (.appendAudit _) | .cancel (.upsertSession ..) =>
      true
  | _ => false

/-- The session and the run that a `Prompt` is executing: it has written the
session row for its start and not yet the one for its end. -/
def executing : SessionActivity → Option (String × String)
  | .prompt (.upsertRun _ sess _ run) | .prompt (.publishStarted _ sess _ run)
  | .prompt (.nodePrompt _ sess _ run) | .prompt (.upsertFailedRun sess run)
  | .prompt (.upsertFailedSession sess run) | .prompt (.upsertFinalRun sess run _)
  | .prompt (.upsertFinalSession sess run _) => some (sess.id, run.id)
  | _ => none

end SessionActivity

theorem Prompt.newRun_id_ne_empty (req : PromptRequest) (sess : Session) (a : Answer) :
    (Prompt.newRun req sess a).id ≠ "" := by
  show (if req.runID = "" then newID "run" a.raw else req.runID) ≠ ""
  split_ifs with h
  · exact newID_ne_empty _ _
  · exact h

theorem World.getSession_eq_ok {w : World} {o : Outcome} {id : String} {sess : Session}
    (h : w.getSession o id = .ok sess) : w.store.sessions.get id = some sess := by
  unfold World.getSession at h
  split at h
  · cases h
  · exact MemoryStore.found_eq_ok.1 h

end Workflows
end Agentd
