/-
# The workflows of a Temporal namespace

`workflows/workflows.go` and `workflows/client.go` together: the container and session
workflows that are under way, their update handlers, and the calls of `Client` that start a
workflow or send it an update.  Unlike `ContainerWorkflow` and `SessionWorkflow`, which look at
one workflow and its activities, this is the whole namespace: a `CreateSession` or `LoadSession`
handler starts a `SessionWorkflow` as a child, and all activities work on one `World`.

What Temporal does is taken as its defaults say, since the code sets no policy: a workflow
cannot start under the id of one that is running; an update of a workflow that is not running
is refused; a child is terminated some time after its parent has closed.  For an
update-with-start on a running workflow the policy of the server is a field, `conflict`.
A handler is run only while its workflow is; an activity that has begun goes on to its end.
A call that is refused changes nothing and is no step.  A session workflow that is cancelled from
outside returns from its `Await` and leaves its handlers where they are.  The cancellation of a
container workflow, and an attempt of an activity that is lost or runs into its timeout, are left
out.
-/

import Agentd.Workflows.ActivitySteps
import Agentd.Workflows.ContainerWorkflow
import Agentd.Workflows.SessionWorkflow

namespace Agentd
namespace Workflows

open Control Store NodeRuntime Supervisor Concurrency

/-- `ContainerWorkflowID`. -/
def containerWorkflowID (containerID : String) : String := "container/" ++ containerID

/-- `SessionWorkflowID`. -/
def sessionWorkflowID (sessionID : String) : String := "session/" ++ sessionID

theorem containerWorkflowID_inj {a b : String} :
    containerWorkflowID a = containerWorkflowID b ↔ a = b := by
  simp [containerWorkflowID]

theorem sessionWorkflowID_inj {a b : String} :
    sessionWorkflowID a = sessionWorkflowID b ↔ a = b := by
  simp [sessionWorkflowID]

theorem sessionWorkflowID_ne_container (a b : String) :
    sessionWorkflowID a ≠ containerWorkflowID b := by
  intro h
  have hlist := congrArg String.toList h
  rw [sessionWorkflowID, containerWorkflowID, String.toList_append, String.toList_append] at hlist
  exact absurd (List.cons.inj hlist).1 (by decide)

/-- `containerState` with all its fields. -/
structure ContainerVars extends ContainerWorkflowState where
  sessions : GoMap String Session := ∅

/-- The variables after the activity of a handler succeeded; `state.Sessions` stays. -/
def ContainerVars.succeed (s : ContainerVars) (r : ContainerResult) : ContainerVars :=
  { s with toContainerWorkflowState := s.toContainerWorkflowState.succeed r }

/-- The variables of a workflow: those of `ContainerWorkflow`, with its input, or those of
`SessionWorkflow`. -/
inductive Body
  | container (containerID : String) (state : ContainerVars)
  | session (state : SessionWorkflowState)

/-- How far an execution is. -/
inductive Status
  | running
  | completed
  | terminated
  deriving DecidableEq

/-- An execution of a workflow; `parent` is the number of the execution that started it. -/
structure Execution where
  workflowID : String
  parent : Option ℕ := none
  body : Body
  status : Status := .running

/-- The updates that the workflows handle, by the names of `names.go`. -/
inductive Update
  | start (req : CreateContainerRequest)
  | installAgent (req : InstallAgentRequest)
  | startAgent (req : InstallAgentRequest)
  | createSession (req : CreateSessionRequest)
  | loadSession (req : LoadSessionRequest)
  | hibernate
  | delete
  | prompt (req : PromptRequest)
  | cancel (req : CancelRequest)

/-- What a handler returns. -/
inductive UpdateResult
  | container (container : Container)
  | agent (agent : AgentInstance)
  | session (sess : Session)
  | run (run : Run)
  | deleted
  | cancelled

/-- The activity that the handler of the update executes; `none` when the workflow has no such
handler. -/
def Body.request : Body → Update → Option Request
  | .container id _, .start req =>
      some (.provisionContainer { req with id := if req.id = "" then id else req.id })
  | .container _ _, .installAgent req | .container _ _, .startAgent req => some (.ensureAgent req)
  | .container _ _, .createSession req => some (.createSession req)
  | .container _ _, .loadSession req => some (.loadSession req)
  | .container id _, .hibernate => some (.hibernate id)
  | .container id _, .delete => some (.delete id)
  | .session _, .prompt req => some (.prompt req)
  | .session _, .cancel req => some (.cancel req)
  | _, _ => none

/-- The updates that `ContainerWorkflow` is looked at with. -/
def ContainerUpdate.update : ContainerUpdate → Update
  | .installAgent req => .installAgent req
  | .startAgent req => .startAgent req
  | .hibernate => .hibernate
  | .delete => .delete

/-- The updates of `SessionWorkflow`. -/
def SessionCall.update : SessionCall → Update
  | .prompt req => .prompt req
  | .cancel req => .cancel req

/-- The handlers of a container workflow execute what those of `ContainerWorkflow` do. -/
theorem Body.request_container (u : ContainerUpdate) (id : String) (s : ContainerVars) :
    ((Body.container id s).request u.update).map Request.start = some (.container (u.activity id)) := by
  cases u <;> rfl

/-- The handlers of a session workflow execute what those of `SessionWorkflow` do. -/
theorem Body.request_session (u : SessionCall) (s : SessionWorkflowState) :
    ((Body.session s).request u.update).map Request.start = some (.session u.activity) := by
  cases u <;> rfl

/-- The result of an activity that has returned. -/
def Activity.returns : Activity → Option (Except Err UpdateResult)
  | .provision (.returned res) => some (res.map .container)
  | .openSession (.returned _ res) => some (res.map .session)
  | .container (.ensureAgent (.returned _ res)) => some (res.map .agent)
  | .container (.hibernate (.returned res)) => some (res.map .container)
  | .container (.delete (.returned res)) => some (res.map fun _ => .deleted)
  | .session (.prompt (.returned res)) => some (res.map .run)
  | .session (.cancel (.returned res)) => some (res.map fun _ => .cancelled)
  | _ => none

/-- The variables of a workflow after a handler has got the result of its activity.  A session
handler has yet to start the child, and changes nothing here. -/
def Body.succeed (now : Time) : Body → UpdateResult → Body
  | .container id s, .container c => .container id (s.succeed (.container c))
  | .container id s, .agent agent => .container id (s.succeed (.agent agent))
  | .container id s, .deleted => .container id (s.succeed .deleted)
  | .session s, .run run => .session (s.succeed now (.run run))
  | .session s, .cancelled => .session (s.succeed now .cancelled)
  | body, _ => body

/-- `state.Sessions[sess.ID] = sess`. -/
def Body.recordSession (sess : Session) : Body → Body
  | .container id s => .container id { s with sessions := s.sessions.insert sess.id sess }
  | body => body

/-- Where an update handler stands: at its activity, in some attempt; before the start of the
child workflow; waiting for `GetChildWorkflowExecution`; or at its end. -/
inductive UpdatePC
  | execute (attempt : ℕ) (x : Activity)
  | executeChild (sess : Session)
  | childExecution (sess : Session)
  | returned (res : Except Err UpdateResult)

/-- An update handler of the execution with that number.  `child` is the number of the execution
that it has started. -/
structure UpdateHandler where
  execution : ℕ
  update : Update
  child : Option ℕ := none
  pc : UpdatePC

/-- What an update-with-start does when the workflow is running. -/
inductive ConflictPolicy
  | fail
  | useExisting

/-- A namespace: what the activities work on, the executions in the order of their starts, and
the update handlers in the order in which the updates were accepted. -/
structure Temporal where
  world : World
  conflict : ConflictPolicy := .fail
  executions : List Execution := []
  handlers : List UpdateHandler := []

/-- The methods of `Client` that send an update to a workflow.  No method sends `StartAgent`, which
goes the way of `InstallAgent`. -/
inductive ClientCall
  | installAgent (req : InstallAgentRequest)
  | startAgent (req : InstallAgentRequest)
  | createSession (req : CreateSessionRequest)
  | loadSession (req : LoadSessionRequest)
  | prompt (req : PromptRequest)
  | cancel (req : CancelRequest)
  | hibernateContainer (containerID : String)
  | deleteContainer (containerID : String)

/-- The workflow that the method sends its update to. -/
def ClientCall.workflowID : ClientCall → String
  | .installAgent req | .startAgent req => containerWorkflowID req.containerID
  | .createSession req => containerWorkflowID req.containerID
  | .loadSession req => containerWorkflowID req.containerID
  | .prompt req => sessionWorkflowID req.sessionID
  | .cancel req => sessionWorkflowID req.sessionID
  | .hibernateContainer id | .deleteContainer id => containerWorkflowID id

/-- The update that the method sends. -/
def ClientCall.update : ClientCall → Update
  | .installAgent req => .installAgent req
  | .startAgent req => .startAgent req
  | .createSession req => .createSession req
  | .loadSession req => .loadSession req
  | .prompt req => .prompt req
  | .cancel req => .cancel req
  | .hibernateContainer _ => .hibernate
  | .deleteContainer _ => .delete

/-- What happens next in a namespace: `Client.StartContainer`, another method of `Client`; the
activity of a handler makes a call, is tried again, or its result reaches the handler; the server
starts the child of a handler, or refuses for a reason of its own; the handler learns of the
start; an `Await` returns, because its condition holds or, in a session workflow, because the
workflow is cancelled; or the server terminates the child of a closed parent. -/
inductive TemporalLabel
  | startContainer (req : CreateContainerRequest) (raw : String)
  | client (c : ClientCall)
  | act (i : ℕ) (a : Answer)
  | retry (i : ℕ)
  | deliver (i : ℕ) (now : Time)
  | startChild (i : ℕ) (err : Option Err)
  | childStarted (i : ℕ)
  | await (n : ℕ)
  | cancelSession (n : ℕ)
  | terminate (n : ℕ)

/-- The handler that moves. -/
def TemporalLabel.mover : TemporalLabel → Option ℕ
  | .act i _ | .retry i | .deliver i _ | .startChild i _ | .childStarted i => some i
  | .startContainer _ _ | .client _ | .await _ | .cancelSession _ | .terminate _ => none

/-- The execution of a container workflow at its start. -/
def newContainer (id : String) : Execution where
  workflowID := containerWorkflowID id
  body := .container id { container := { id, state := .requested } }

/-- The execution of a session workflow at its start. -/
def newSessionWorkflow (sess : Session) (parent : ℕ) : Execution where
  workflowID := sessionWorkflowID sess.id
  parent := some parent
  body := .session { session := sess }

/-- The error of the start of a child under the id of a running workflow. -/
def alreadyStarted : Err := .other "child workflow execution already started"

namespace Temporal

/-- The number of the running execution under the workflow id. -/
def running (t : Temporal) (workflowID : String) : Option ℕ :=
  t.executions.findIdx? fun e => e.workflowID = workflowID ∧ e.status = .running

/-- The execution with that number, while it is running. -/
def live (t : Temporal) (n : ℕ) : Option Execution :=
  t.executions[n]?.filter fun e => e.status = .running

/-- The activity that handler `i` is executing. -/
def executing (t : Temporal) (i : ℕ) : Option Activity :=
  t.handlers[i]?.bind fun h =>
    match h.pc with
    | .execute _ x => some x
    | _ => none

/-- What a call is answered is as `R` says. -/
def Answers (R : Answer → Activity → Prop) (t : Temporal) : TemporalLabel → Prop
  | .act i a => ∀ x ∈ t.executing i, R a x
  | _ => True

/-- Execution `n` takes the update, when it has a handler for it. -/
def accept (t : Temporal) (n : ℕ) (u : Update) : Option Temporal :=
  (t.live n).bind fun e =>
    (e.body.request u).map fun req =>
      { t with
        handlers := t.handlers ++ [{ execution := n, update := u, pc := .execute 1 req.start }] }

/-- The condition of the `Await` of execution `n`. -/
def awaits (t : Temporal) (n : ℕ) : Body → Bool
  | .container _ s =>
      s.deleted && t.handlers.all fun h =>
        h.execution ≠ n || match h.pc with | .returned _ => true | _ => false
  | .session s => s.session.state = .archived

/-- The execution that has started execution `n` is closed. -/
def parentClosed (t : Temporal) (e : Execution) : Bool :=
  (e.parent.bind fun p => t.executions[p]?).any fun p => p.status ≠ .running

/-- One step in a namespace. -/
def step (t : Temporal) : TemporalLabel → Option Temporal
  | .startContainer req raw =>
      let id := if req.id = "" then newID "ctr" raw else req.id
      match t.running (containerWorkflowID id), t.conflict with
      | none, _ =>
          ({ t with executions := t.executions ++ [newContainer id] } : Temporal).accept
            t.executions.length (.start { req with id })
      | some n, .useExisting => t.accept n (.start { req with id })
      | some _, .fail => none
  | .client c => (t.running c.workflowID).bind fun n => t.accept n c.update
  | .act i a =>
      t.handlers[i]?.bind fun h =>
        match h.pc with
        | .execute k x =>
            (x.step t.world a).map fun r =>
              { t with
                world := r.1
                handlers := t.handlers.set i { h with pc := .execute k r.2 } }
        | _ => none
  | .retry i =>
      t.handlers[i]?.bind fun h =>
        match h.pc, t.live h.execution with
        | .execute k x, some e =>
            match x.returns, e.body.request h.update with
            | some (.error _), some req =>
                if k < maximumAttempts then
                  some { t with handlers := t.handlers.set i { h with pc := .execute (k + 1) req.start } }
                else none
            | _, _ => none
        | _, _ => none
  | .deliver i now =>
      t.handlers[i]?.bind fun h =>
        match h.pc, t.live h.execution with
        | .execute k x, some e =>
            match x.returns with
            | some (.ok (.session sess)) =>
                some { t with handlers := t.handlers.set i { h with pc := .executeChild sess } }
            | some (.ok res) =>
                some
                  { t with
                    executions := t.executions.set h.execution { e with body := e.body.succeed now res }
                    handlers := t.handlers.set i { h with pc := .returned (.ok res) } }
            | some (.error err) =>
                if k < maximumAttempts then none
                else some { t with handlers := t.handlers.set i { h with pc := .returned (.error err) } }
            | none => none
        | _, _ => none
  | .startChild i err =>
      t.handlers[i]?.bind fun h =>
        match h.pc, t.live h.execution with
        | .executeChild sess, some _ =>
            match err.or ((t.running (sessionWorkflowID sess.id)).map fun _ => alreadyStarted) with
            | some e => some { t with handlers := t.handlers.set i { h with pc := .returned (.error e) } }
            | none =>
                some
                  { t with
                    executions := t.executions ++ [newSessionWorkflow sess h.execution]
                    handlers := t.handlers.set i
                      { h with child := some t.executions.length, pc := .childExecution sess } }
        | _, _ => none
  | .childStarted i =>
      t.handlers[i]?.bind fun h =>
        match h.pc, t.live h.execution with
        | .childExecution sess, some e =>
            some
              { t with
                executions := t.executions.set h.execution { e with body := e.body.recordSession sess }
                handlers := t.handlers.set i { h with pc := .returned (.ok (.session sess)) } }
        | _, _ => none
  | .await n =>
      (t.live n).bind fun e =>
        if t.awaits n e.body then
          some { t with executions := t.executions.set n { e with status := .completed } }
        else none
  | .cancelSession n =>
      (t.live n).bind fun e =>
        match e.body with
        | .session _ => some { t with executions := t.executions.set n { e with status := .completed } }
        | .container _ _ => none
  | .terminate n =>
      (t.live n).bind fun e =>
        if t.parentClosed e then
          some { t with executions := t.executions.set n { e with status := .terminated } }
        else none

end Temporal

/-- The workflow id is that of the container or session that the update names. -/
def Update.IsFor (workflowID : String) : Update → Prop
  | .start req => workflowID = containerWorkflowID req.id ∧ req.id ≠ ""
  | .installAgent req | .startAgent req => workflowID = containerWorkflowID req.containerID
  | .createSession req => workflowID = containerWorkflowID req.containerID
  | .loadSession req => workflowID = containerWorkflowID req.containerID
  | .prompt req => workflowID = sessionWorkflowID req.sessionID
  | .cancel req => workflowID = sessionWorkflowID req.sessionID
  | .hibernate | .delete => True

theorem ClientCall.isFor (c : ClientCall) : c.update.IsFor c.workflowID := by
  cases c <;> first | exact rfl | exact trivial

/-- **What a step in a namespace can be**, with what has to hold for it. -/
inductive Temporal.Step (t : Temporal) : TemporalLabel → Temporal → Prop
  | started (id : String) (req : CreateContainerRequest) (req' : CreateContainerRequest) (raw : String)
      (hid : req'.id = id) (hne : id ≠ "") (hnone : t.running (containerWorkflowID id) = none) :
      Step t (.startContainer req raw)
        { t with
          executions := t.executions ++ [newContainer id]
          handlers := t.handlers ++
            [{ execution := t.executions.length, update := .start req',
               pc := .execute 1 (Request.provisionContainer req').start }] }
  | accepted (l : TemporalLabel) (n : ℕ) (e : Execution) (u : Update) (req : Request)
      (he : t.executions[n]? = some e) (hrun : e.status = .running) (hfor : u.IsFor e.workflowID)
      (hreq : e.body.request u = some req) (hl : l.mover = none) :
      Step t l
        { t with
          handlers := t.handlers ++ [{ execution := n, update := u, pc := .execute 1 req.start }] }
  | acted (i : ℕ) (h : UpdateHandler) (k : ℕ) (x x' : Activity) (a : Answer) (w : World)
      (hi : t.handlers[i]? = some h) (hpc : h.pc = .execute k x) (hx : x.step t.world a = some (w, x')) :
      Step t (.act i a)
        { t with world := w, handlers := t.handlers.set i { h with pc := .execute k x' } }
  | retried (i : ℕ) (h : UpdateHandler) (e : Execution) (k : ℕ) (x : Activity) (err : Err)
      (req : Request) (hi : t.handlers[i]? = some h) (hpc : h.pc = .execute k x)
      (he : t.executions[h.execution]? = some e) (hrun : e.status = .running)
      (hres : x.returns = some (.error err)) (hreq : e.body.request h.update = some req)
      (hk : k < maximumAttempts) :
      Step t (.retry i)
        { t with handlers := t.handlers.set i { h with pc := .execute (k + 1) req.start } }
  | opened (i : ℕ) (now : Time) (h : UpdateHandler) (k : ℕ) (x : Activity) (sess : Session)
      (hi : t.handlers[i]? = some h) (hpc : h.pc = .execute k x)
      (hres : x.returns = some (.ok (.session sess))) :
      Step t (.deliver i now) { t with handlers := t.handlers.set i { h with pc := .executeChild sess } }
  | succeeded (i : ℕ) (now : Time) (h : UpdateHandler) (e : Execution) (k : ℕ) (x : Activity)
      (res : UpdateResult) (hi : t.handlers[i]? = some h) (hpc : h.pc = .execute k x)
      (he : t.executions[h.execution]? = some e) (hrun : e.status = .running)
      (hres : x.returns = some (.ok res)) (hsess : ∀ sess, res ≠ .session sess) :
      Step t (.deliver i now)
        { t with
          executions := t.executions.set h.execution { e with body := e.body.succeed now res }
          handlers := t.handlers.set i { h with pc := .returned (.ok res) } }
  | failed (i : ℕ) (now : Time) (h : UpdateHandler) (k : ℕ) (x : Activity) (err : Err)
      (hi : t.handlers[i]? = some h) (hpc : h.pc = .execute k x)
      (hres : x.returns = some (.error err)) :
      Step t (.deliver i now)
        { t with handlers := t.handlers.set i { h with pc := .returned (.error err) } }
  | childRefused (i : ℕ) (err : Option Err) (h : UpdateHandler) (sess : Session) (e : Err)
      (hi : t.handlers[i]? = some h) (hpc : h.pc = .executeChild sess)
      (hwhy : err = some e ∨ ∃ n, t.running (sessionWorkflowID sess.id) = some n) :
      Step t (.startChild i err)
        { t with handlers := t.handlers.set i { h with pc := .returned (.error e) } }
  | childMade (i : ℕ) (h : UpdateHandler) (sess : Session) (e : Execution)
      (hi : t.handlers[i]? = some h) (hpc : h.pc = .executeChild sess)
      (he : t.executions[h.execution]? = some e) (hrun : e.status = .running)
      (hnone : t.running (sessionWorkflowID sess.id) = none) :
      Step t (.startChild i none)
        { t with
          executions := t.executions ++ [newSessionWorkflow sess h.execution]
          handlers := t.handlers.set i
            { h with child := some t.executions.length, pc := .childExecution sess } }
  | recorded (i : ℕ) (h : UpdateHandler) (sess : Session) (e : Execution)
      (hi : t.handlers[i]? = some h) (hpc : h.pc = .childExecution sess)
      (he : t.executions[h.execution]? = some e) (hrun : e.status = .running) :
      Step t (.childStarted i)
        { t with
          executions := t.executions.set h.execution { e with body := e.body.recordSession sess }
          handlers := t.handlers.set i { h with pc := .returned (.ok (.session sess)) } }
  | completed (n : ℕ) (e : Execution) (he : t.executions[n]? = some e) (hrun : e.status = .running)
      (hawait : t.awaits n e.body = true) :
      Step t (.await n) { t with executions := t.executions.set n { e with status := .completed } }
  | cancelled (n : ℕ) (e : Execution) (s : SessionWorkflowState) (he : t.executions[n]? = some e)
      (hrun : e.status = .running) (hbody : e.body = .session s) :
      Step t (.cancelSession n)
        { t with executions := t.executions.set n { e with status := .completed } }
  | terminated (n p : ℕ) (e e' : Execution) (he : t.executions[n]? = some e)
      (hrun : e.status = .running) (hp : e.parent = some p) (he' : t.executions[p]? = some e')
      (hclosed : e'.status ≠ .running) :
      Step t (.terminate n) { t with executions := t.executions.set n { e with status := .terminated } }

namespace Temporal

variable {t t' : Temporal} {l : TemporalLabel}

theorem live_eq_some {n : ℕ} {e : Execution} :
    t.live n = some e ↔ t.executions[n]? = some e ∧ e.status = .running := by
  simp [live, Option.filter_eq_some_iff]

theorem executing_eq {i k : ℕ} {h : UpdateHandler} {x : Activity} (hi : t.handlers[i]? = some h)
    (hpc : h.pc = .execute k x) : t.executing i = some x := by
  rw [executing, hi, Option.bind_some, hpc]

theorem running_eq_some {workflowID : String} {n : ℕ} (h : t.running workflowID = some n) :
    ∃ e, t.executions[n]? = some e ∧ e.workflowID = workflowID ∧ e.status = .running := by
  obtain ⟨hlt, hp, -⟩ := List.findIdx?_eq_some_iff_getElem.1 h
  obtain ⟨hid, hrun⟩ := of_decide_eq_true hp
  exact ⟨t.executions[n], List.getElem?_eq_getElem hlt, hid, hrun⟩

/-- When `running` finds nothing, no execution under the id is running. -/
theorem running_eq_none {workflowID : String} (h : t.running workflowID = none) {n : ℕ}
    {e : Execution} (he : t.executions[n]? = some e) (hid : e.workflowID = workflowID) :
    e.status ≠ .running := by
  have hnot := List.findIdx?_eq_none_iff.1 h e (List.mem_of_getElem? he)
  intro hrun
  rw [decide_eq_false_iff_not] at hnot
  exact hnot ⟨hid, hrun⟩

/-- An update that is accepted has a handler from then on. -/
theorem accept_eq_some {n : ℕ} {u : Update} (h : t.accept n u = some t') :
    ∃ e req, t.executions[n]? = some e ∧ e.status = .running ∧ e.body.request u = some req ∧
      t' = { t with
        handlers := t.handlers ++ [{ execution := n, update := u, pc := .execute 1 req.start }] } := by
  obtain ⟨e, he, h⟩ := Option.bind_eq_some_iff.1 h
  obtain ⟨req, hreq, rfl⟩ := Option.map_eq_some_iff.1 h
  obtain ⟨hget, hrun⟩ := live_eq_some.1 he
  exact ⟨e, req, hget, hrun, hreq, rfl⟩

theorem containerID_ne_empty (id raw : String) : (if id = "" then newID "ctr" raw else id) ≠ "" := by
  split_ifs with h
  · simp [newID]
  · exact h

/-- **A step in a namespace is one of `Temporal.Step`.** -/
theorem step_spec (h : t.step l = some t') : t.Step l t' := by
  cases l with
  | startContainer req raw =>
      simp only [step] at h
      have hne := containerID_ne_empty req.id raw
      split at h
      · next hnone =>
          obtain ⟨e, r, he, -, hreq, rfl⟩ := accept_eq_some h
          dsimp only at he
          rw [List.getElem?_concat_length] at he
          obtain rfl := Option.some.inj he
          obtain rfl : _ = r := Option.some.inj hreq
          rw [show ({ t with executions := t.executions ++ [newContainer _] } : Temporal).handlers =
            t.handlers from rfl, if_neg hne]
          exact .started _ req _ raw rfl hne hnone
      · next n hn _ =>
          obtain ⟨e, r, he, hrun, hreq, rfl⟩ := accept_eq_some h
          obtain ⟨e', he', hid, -⟩ := running_eq_some hn
          obtain rfl := Option.mem_unique he he'
          exact .accepted _ n e _ r he hrun ⟨hid, hne⟩ hreq rfl
      · cases h
  | client c =>
      obtain ⟨n, hn, h⟩ := Option.bind_eq_some_iff.1 h
      obtain ⟨e, r, he, hrun, hreq, rfl⟩ := accept_eq_some h
      obtain ⟨e', he', hid, -⟩ := running_eq_some hn
      obtain rfl := Option.mem_unique he he'
      exact .accepted _ n e _ r he hrun (hid ▸ c.isFor) hreq rfl
  | act i a =>
      obtain ⟨h', hi, h⟩ := Option.bind_eq_some_iff.1 h
      split at h
      · next k x hpc =>
          obtain ⟨r, hr, rfl⟩ := Option.map_eq_some_iff.1 h
          exact .acted i h' k x r.2 a r.1 hi hpc hr
      · cases h
  | retry i =>
      obtain ⟨h', hi, h⟩ := Option.bind_eq_some_iff.1 h
      split at h
      · next k x e hpc he =>
          obtain ⟨hget, hrun⟩ := live_eq_some.1 he
          split at h
          · next err req hres hreq =>
              obtain ⟨hk, h⟩ := Option.ite_none_right_eq_some.1 h
              obtain rfl := Option.some.inj h
              exact .retried i h' e k x err req hi hpc hget hrun hres hreq hk
          · cases h
      · cases h
  | deliver i now =>
      obtain ⟨h', hi, h⟩ := Option.bind_eq_some_iff.1 h
      split at h
      · next k x e hpc he =>
          obtain ⟨hget, hrun⟩ := live_eq_some.1 he
          split at h
          · next sess hres =>
              obtain rfl := Option.some.inj h
              exact .opened i now h' k x sess hi hpc hres
          · next res hsess hres =>
              obtain rfl := Option.some.inj h
              exact .succeeded i now h' e k x res hi hpc hget hrun hres
                fun sess hs => hsess sess (hs ▸ rfl)
          · next err hres =>
              obtain ⟨-, h⟩ := Option.ite_none_left_eq_some.1 h
              obtain rfl := Option.some.inj h
              exact .failed i now h' k x err hi hpc hres
          · cases h
      · cases h
  | startChild i err =>
      obtain ⟨h', hi, h⟩ := Option.bind_eq_some_iff.1 h
      split at h
      · next sess e hpc he =>
          obtain ⟨hget, hrun⟩ := live_eq_some.1 he
          split at h
          · next e' hwhy =>
              obtain rfl := Option.some.inj h
              refine .childRefused i err h' sess e' hi hpc ?_
              rcases Option.or_eq_some_iff.1 hwhy with hwhy | ⟨-, hwhy⟩
              · exact Or.inl hwhy
              · obtain ⟨n, hn, -⟩ := Option.map_eq_some_iff.1 hwhy
                exact Or.inr ⟨n, hn⟩
          · next hnone =>
              obtain rfl := Option.some.inj h
              obtain ⟨rfl, hnone⟩ := Option.or_eq_none_iff.1 hnone
              exact .childMade i h' sess e hi hpc hget hrun (Option.map_eq_none_iff.1 hnone)
      · cases h
  | childStarted i =>
      obtain ⟨h', hi, h⟩ := Option.bind_eq_some_iff.1 h
      split at h
      · next sess e hpc he =>
          obtain ⟨hget, hrun⟩ := live_eq_some.1 he
          obtain rfl := Option.some.inj h
          exact .recorded i h' sess e hi hpc hget hrun
      · cases h
  | await n =>
      obtain ⟨e, he, h⟩ := Option.bind_eq_some_iff.1 h
      obtain ⟨hget, hrun⟩ := live_eq_some.1 he
      obtain ⟨hawait, h⟩ := Option.ite_none_right_eq_some.1 h
      obtain rfl := Option.some.inj h
      exact .completed n e hget hrun hawait
  | cancelSession n =>
      obtain ⟨e, he, h⟩ := Option.bind_eq_some_iff.1 h
      obtain ⟨hget, hrun⟩ := live_eq_some.1 he
      split at h
      · next s hbody =>
          obtain rfl := Option.some.inj h
          exact .cancelled n e s hget hrun hbody
      · cases h
  | terminate n =>
      obtain ⟨e, he, h⟩ := Option.bind_eq_some_iff.1 h
      obtain ⟨hget, hrun⟩ := live_eq_some.1 he
      obtain ⟨hclosed, h⟩ := Option.ite_none_right_eq_some.1 h
      obtain rfl := Option.some.inj h
      obtain ⟨e', he', hst⟩ := (Option.any_eq_true _ _).1 hclosed
      obtain ⟨p, hp, hget'⟩ := Option.bind_eq_some_iff.1 he'
      exact .terminated n p e e' hget hrun hp hget' (of_decide_eq_true hst)

/-- How a step changes execution `n`. -/
inductive Becomes (t : Temporal) (l : TemporalLabel) (n : ℕ) (e : Execution) : Execution → Prop
  | same : Becomes t l n e e
  | succeeded (h : UpdateHandler) (k : ℕ) (x : Activity) (now : Time) (res : UpdateResult)
      (hh : h ∈ t.handlers) (hn : h.execution = n) (hpc : h.pc = .execute k x)
      (hres : x.returns = some (.ok res)) :
      Becomes t l n e { e with body := e.body.succeed now res }
  | recorded (h : UpdateHandler) (sess : Session) (hh : h ∈ t.handlers) (hn : h.execution = n)
      (hpc : h.pc = .childExecution sess) :
      Becomes t l n e { e with body := e.body.recordSession sess }
  | closed (status : Status) (hst : status ≠ .running) (hl : l.mover = none)
      (hwhy : t.awaits n e.body = true ∨ (∃ s, l = .cancelSession n ∧ e.body = .session s) ∨
        ∃ p f, e.parent = some p ∧ t.executions[p]? = some f ∧ f.status ≠ .running) :
      Becomes t l n e { e with status }

/-- An execution that a step can start. -/
inductive Begun (t t' : Temporal) : Execution → Prop
  | container (id : String) : Begun t t' (newContainer id)
  | session (h h' : UpdateHandler) (sess : Session) (e : Execution) (hh : h ∈ t.handlers)
      (hpc : h.pc = .executeChild sess) (he : t.executions[h.execution]? = some e)
      (hh' : h' ∈ t'.handlers) (hpc' : h'.pc = .childExecution sess) :
      Begun t t' (newSessionWorkflow sess h.execution)

/-- How a step changes the handler that moves. -/
inductive Moves (t : Temporal) (l : TemporalLabel) (t' : Temporal) (i : ℕ) (h : UpdateHandler) :
    UpdateHandler → Prop
  | acted (k : ℕ) (x x' : Activity) (a : Answer) (hl : l = .act i a) (hpc : h.pc = .execute k x)
      (hx : x.step t.world a = some (t'.world, x')) : Moves t l t' i h { h with pc := .execute k x' }
  | retried (e : Execution) (k : ℕ) (x : Activity) (err : Err) (req : Request)
      (hpc : h.pc = .execute k x) (he : t.executions[h.execution]? = some e)
      (hres : x.returns = some (.error err)) (hreq : e.body.request h.update = some req)
      (hk : k < maximumAttempts) : Moves t l t' i h { h with pc := .execute (k + 1) req.start }
  | opened (k : ℕ) (x : Activity) (sess : Session) (hpc : h.pc = .execute k x)
      (hres : x.returns = some (.ok (.session sess))) :
      Moves t l t' i h { h with pc := .executeChild sess }
  | childMade (sess : Session) (hpc : h.pc = .executeChild sess)
      (he : t'.executions[t.executions.length]? = some (newSessionWorkflow sess h.execution)) :
      Moves t l t' i h { h with child := some t.executions.length, pc := .childExecution sess }
  | returned (res : Except Err UpdateResult) (hpc : ∀ r, h.pc ≠ .returned r)
      (hsess : ∀ sess, res = .ok (.session sess) → h.pc = .childExecution sess) :
      Moves t l t' i h { h with pc := .returned res }

/-- What a step does to the list of the handlers. -/
inductive Handlers (t : Temporal) (l : TemporalLabel) (t' : Temporal) : Prop
  | same (hl : l.mover = none) (hh : t'.handlers = t.handlers)
  | added (n : ℕ) (e : Execution) (u : Update) (req : Request) (hl : l.mover = none)
      (he : t'.executions[n]? = some e) (hrun : e.status = .running) (hfor : u.IsFor e.workflowID)
      (hreq : e.body.request u = some req)
      (hh : t'.handlers = t.handlers ++ [{ execution := n, update := u, pc := .execute 1 req.start }])
  | moved (i : ℕ) (h h' : UpdateHandler) (hl : l.mover = some i) (hi : t.handlers[i]? = some h)
      (hm : t.Moves l t' i h h') (hh : t'.handlers = t.handlers.set i h')

/-- Where a handler comes from in a step. -/
inductive Handles (t : Temporal) (l : TemporalLabel) (t' : Temporal) : UpdateHandler → Prop
  | kept {h : UpdateHandler} (hh : h ∈ t.handlers) : Handles t l t' h
  | begun (n : ℕ) (e : Execution) (u : Update) (req : Request) (he : t'.executions[n]? = some e)
      (hrun : e.status = .running) (hfor : u.IsFor e.workflowID) (hreq : e.body.request u = some req) :
      Handles t l t' { execution := n, update := u, pc := .execute 1 req.start }
  | moved (i : ℕ) {h h' : UpdateHandler} (hl : l.mover = some i) (hi : t.handlers[i]? = some h)
      (hm : t.Moves l t' i h h') : Handles t l t' h'

/-- **An execution goes on** in a step. -/
theorem Step.becomes (hs : t.Step l t') {n : ℕ} {e : Execution} (he : t.executions[n]? = some e) :
    ∃ e', t'.executions[n]? = some e' ∧ t.Becomes l n e e' := by
  have hset : ∀ (m : ℕ) (f f' : Execution), t.executions[m]? = some f →
      t'.executions = t.executions.set m f' → t.Becomes l m f f' →
        ∃ e', t'.executions[n]? = some e' ∧ t.Becomes l n e e' := by
    intro m f f' hf heq hb
    rw [heq]
    by_cases hm : n = m
    · subst hm
      obtain rfl := Option.mem_unique he hf
      exact ⟨f', getElem?_set_of_some f' he, hb⟩
    · exact ⟨e, (List.getElem?_set_ne (Ne.symm hm)).trans he, .same⟩
  cases hs with
  | started | childMade => exact ⟨e, getElem?_append_of_some _ he, .same⟩
  | accepted | acted | retried | opened | failed | childRefused => exact ⟨e, he, .same⟩
  | succeeded i now h f k x res hi hpc hf hrun hres =>
      exact hset _ f _ hf rfl (.succeeded h k x now res (List.mem_of_getElem? hi) rfl hpc hres)
  | recorded i h sess f hi hpc hf =>
      exact hset _ f _ hf rfl (.recorded h sess (List.mem_of_getElem? hi) rfl hpc)
  | completed m f hf hrun hawait => exact hset m f _ hf rfl (.closed _ (by decide) rfl (.inl hawait))
  | cancelled m f s hf hrun hbody =>
      exact hset m f _ hf rfl (.closed _ (by decide) rfl (.inr (.inl ⟨s, rfl, hbody⟩)))
  | terminated m p f f' hf hrun hp hf' hst =>
      exact hset m f _ hf rfl (.closed _ (by decide) rfl (.inr (.inr ⟨p, f', hp, hf', hst⟩)))

/-- **An execution after a step** was there before, or has just been started, under an id under
which nothing was running. -/
theorem Step.execution (hs : t.Step l t') {n : ℕ} {e' : Execution}
    (he' : t'.executions[n]? = some e') :
    (∃ e, t.executions[n]? = some e ∧ t.Becomes l n e e') ∨
      n = t.executions.length ∧ t.running e'.workflowID = none ∧ t.Begun t' e' := by
  rcases Nat.lt_or_ge n t.executions.length with hn | hn
  · obtain ⟨e'', hget, hb⟩ := hs.becomes (List.getElem?_eq_getElem hn)
    obtain rfl := Option.mem_unique hget he'
    exact Or.inl ⟨_, List.getElem?_eq_getElem hn, hb⟩
  · have hlt := (List.getElem?_eq_some_iff.1 he').1
    cases hs with
    | started id req req' raw hid hne hnone =>
        rcases getElem?_concat_cases he' with ⟨hn', rfl⟩ | hold
        · exact Or.inr ⟨hn', hnone, .container id⟩
        · exact Or.inl ⟨e', hold, .same⟩
    | childMade i h sess e hi hpc he hrun hnone =>
        rcases getElem?_concat_cases he' with ⟨hn', rfl⟩ | hold
        · exact Or.inr ⟨hn', hnone, .session h _ sess e (List.mem_of_getElem? hi) hpc he
            (List.mem_of_getElem? (getElem?_set_of_some _ hi)) rfl⟩
        · exact Or.inl ⟨e', hold, .same⟩
    | accepted | acted | retried | opened | failed | childRefused | succeeded | recorded | completed
    | cancelled | terminated => exact absurd hlt (by simpa using hn)

/-- **A step moves one handler** at most, or adds one. -/
theorem Step.handlers (hs : t.Step l t') : t.Handlers l t' := by
  cases hs with
  | started id req req' raw hid hne =>
      subst hid
      refine .added _ (newContainer req'.id) (.start req') (.provisionContainer req') rfl
        List.getElem?_concat_length rfl ⟨rfl, hne⟩ ?_ rfl
      simp [newContainer, Body.request, hne]
  | accepted _ n e u req he hrun hfor hreq hl => exact .added n e u req hl he hrun hfor hreq rfl
  | acted i h k x x' a w hi hpc hx => exact .moved i h _ rfl hi (.acted k x x' a rfl hpc hx) rfl
  | retried i h e k x err req hi hpc he hrun hres hreq hk =>
      exact .moved i h _ rfl hi (.retried e k x err req hpc he hres hreq hk) rfl
  | opened i now h k x sess hi hpc hres => exact .moved i h _ rfl hi (.opened k x sess hpc hres) rfl
  | childMade i h sess e hi hpc =>
      exact .moved i h _ rfl hi (.childMade sess hpc List.getElem?_concat_length) rfl
  | succeeded i now h e k x res hi hpc he hrun hres hsess =>
      refine .moved i h _ rfl hi (.returned _ (by simp [hpc]) fun sess hr => ?_) rfl
      exact (hsess sess (Except.ok.inj hr)).elim
  | failed i now h k x err hi hpc | childRefused i err' h x err hi hpc =>
      exact .moved i h _ rfl hi (.returned _ (by simp [hpc]) fun sess hr => by cases hr) rfl
  | recorded i h sess e hi hpc =>
      exact .moved i h _ rfl hi (.returned _ (by simp [hpc]) fun sess' hr => by cases hr; exact hpc) rfl
  | completed | cancelled | terminated => exact .same rfl rfl

/-- **A handler after a step** was there before, or has just begun, or has moved. -/
theorem Step.handles (hs : t.Step l t') {g : UpdateHandler} (hg : g ∈ t'.handlers) :
    t.Handles l t' g := by
  cases hs.handlers with
  | same hl hh => exact .kept (hh ▸ hg)
  | added n e u req hl he hrun hfor hreq hh =>
      rcases List.mem_append.1 (hh ▸ hg) with hg | hg
      · exact .kept hg
      · exact List.mem_singleton.1 hg ▸ .begun n e u req he hrun hfor hreq
  | moved i h h' hl hi hm hh =>
      rcases List.mem_or_eq_of_mem_set (hh ▸ hg) with hg | rfl
      · exact .kept hg
      · exact .moved i hl hi hm

theorem Moves.execution_eq {i : ℕ} {h h' : UpdateHandler} (hm : t.Moves l t' i h h') :
    h'.execution = h.execution := by
  cases hm <;> rfl

theorem Moves.ne_returned {i : ℕ} {h h' : UpdateHandler} (hm : t.Moves l t' i h h')
    (r : Except Err UpdateResult) : h.pc ≠ .returned r := by
  cases hm with
  | acted _ _ _ _ _ hpc | retried _ _ _ _ _ hpc | opened _ _ _ hpc | childMade _ hpc => simp [hpc]
  | returned _ hpc => exact hpc r

end Temporal

end Workflows
end Agentd
