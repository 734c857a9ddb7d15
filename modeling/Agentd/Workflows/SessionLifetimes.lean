/-
# How long a session workflow lives

A `SessionWorkflow` waits for its session to be archived, and no handler ever archives a session.
So it returns only when it is cancelled from outside, which no code of the repository does.  As long
as it is not, it runs while the `ContainerWorkflow` does that has started it, and is terminated some
time after that has returned.  Two things follow for the openings of
sessions (`sessionsBound`).  A session that was opened takes prompts as long as the workflow of
its container is running.  And of all the openings of one session id, by `CreateSession` or
`LoadSession` and for any containers, at most one belongs to a container whose workflow is
running: the start of a second child fails, so a session cannot be loaded again while it is live.

A step adds at most one execution and keeps what the others are about (`Execution.Keeps`), so
what is known of an execution stays known.
-/

import Agentd.Workflows.Temporal
import Agentd.Workflows.Lifecycle

namespace Agentd
namespace Workflows

open Control Store NodeRuntime Supervisor Concurrency

/-- The container of a container workflow. -/
def Body.containerID : Body → Option String
  | .container id _ => some id
  | .session _ => none

/-- The session of a session workflow. -/
def Body.sessionID : Body → Option String
  | .container _ _ => none
  | .session s => some s.session.id

/-- The workflow's own copy of the session is archived. -/
def Body.archived : Body → Bool
  | .container _ _ => false
  | .session s => s.session.state = .archived

/-- The node answers a handler what a node can answer, and no session workflow is cancelled. -/
def Undisturbed (t : Temporal) (l : TemporalLabel) : Prop :=
  t.Answers NodeReplies l ∧ ∀ n, l ≠ .cancelSession n

/-- What an execution keeps in a step: its id, its parent and what it is about.  A session is not
archived, and an execution that is closed stays as it is. -/
structure Execution.Keeps (e e' : Execution) : Prop where
  workflowID : e'.workflowID = e.workflowID
  parent : e'.parent = e.parent
  containerID : e'.body.containerID = e.body.containerID
  sessionID : e'.body.sessionID = e.body.sessionID
  archived : e.body.archived = false → e'.body.archived = false
  closed : e.status ≠ .running → e'.status ≠ .running

theorem Execution.Keeps.refl (e : Execution) : e.Keeps e :=
  ⟨rfl, rfl, rfl, rfl, id, id⟩

theorem Execution.Keeps.running {e e' : Execution} (h : e.Keeps e') (hrun : e'.status = .running) :
    e.status = .running := by_contra fun hc => h.closed hc hrun

section

variable (b : Body)

theorem Body.succeed_containerID (now : Time) (res : UpdateResult) :
    (b.succeed now res).containerID = b.containerID := by
  cases b <;> cases res <;> rfl

theorem Body.succeed_sessionID (now : Time) (res : UpdateResult) :
    (b.succeed now res).sessionID = b.sessionID := by
  cases b <;> cases res <;> rfl

theorem Body.succeed_archived (now : Time) (res : UpdateResult) (h : b.archived = false) :
    (b.succeed now res).archived = false := by
  cases b with
  | container id s => cases res <;> rfl
  | session s =>
      cases res with
      | run run =>
          simp only [Body.succeed, SessionWorkflowState.succeed, Body.archived, endState]
          split_ifs <;> rfl
      | cancelled => rfl
      | container | agent | session | deleted => exact h

theorem Body.recordSession_containerID (sess : Session) :
    (b.recordSession sess).containerID = b.containerID := by
  cases b <;> rfl

theorem Body.recordSession_sessionID (sess : Session) :
    (b.recordSession sess).sessionID = b.sessionID := by
  cases b <;> rfl

theorem Body.recordSession_archived (sess : Session) (h : b.archived = false) :
    (b.recordSession sess).archived = false := by
  cases b with
  | container => rfl
  | session => exact h

end

/-- An activity that opens a session. -/
def Activity.opens : Activity → Bool
  | .openSession _ => true
  | _ => false

/-- The session that the activity has in its hands is not archived. -/
def Activity.Unarchived : Activity → Prop
  | .openSession (.upsertSession _ sess) | .openSession (.appendAudit _ sess)
  | .openSession (.returned _ (.ok sess)) => sess.state ≠ .archived
  | _ => True

namespace Temporal

variable {t t' : Temporal} {l : TemporalLabel}

/-- Execution `n` is one of a container workflow. -/
def IsContainer (t : Temporal) (n : ℕ) : Prop :=
  ∃ e id, t.executions[n]? = some e ∧ e.body.containerID = some id

/-- Execution `m` is a session workflow for the session, started by execution `n`. -/
def IsChild (t : Temporal) (m n : ℕ) (sessionID : String) : Prop :=
  ∃ e, t.executions[m]? = some e ∧ e.body.sessionID = some sessionID ∧ e.parent = some n

/-- The executions go on: each of them keeps what it is about. -/
def GoesOn (t t' : Temporal) : Prop :=
  ∀ (n : ℕ) (e : Execution), t.executions[n]? = some e →
    ∃ e', t'.executions[n]? = some e' ∧ e.Keeps e'

theorem Becomes.keeps {n : ℕ} {e e' : Execution} (h : t.Becomes l n e e') : e.Keeps e' := by
  cases h with
  | same => exact .refl e
  | succeeded _ _ _ now res =>
      exact ⟨rfl, rfl, e.body.succeed_containerID now res, e.body.succeed_sessionID now res,
        e.body.succeed_archived now res, id⟩
  | recorded _ sess =>
      exact ⟨rfl, rfl, e.body.recordSession_containerID sess, e.body.recordSession_sessionID sess,
        e.body.recordSession_archived sess, id⟩
  | closed status hst => exact ⟨rfl, rfl, rfl, rfl, id, fun _ => hst⟩

theorem Step.goesOn (hs : t.Step l t') : t.GoesOn t' := fun _ _ he => by
  obtain ⟨e', he', hb⟩ := hs.becomes he
  exact ⟨e', he', hb.keeps⟩

/-- **An execution closes** when its `Await` returns, or after its parent has closed, unless it is
cancelled. -/
theorem Becomes.why {n : ℕ} {e e' : Execution} (h : t.Becomes l n e e') (hrun : e.status = .running)
    (hclosed : e'.status ≠ .running) (hl : l ≠ .cancelSession n) :
    t.awaits n e.body = true ∨
      ∃ p f, e.parent = some p ∧ t.executions[p]? = some f ∧ f.status ≠ .running := by
  cases h with
  | same | succeeded | recorded => exact absurd hrun hclosed
  | closed _ _ _ hwhy => exact hwhy.imp_right fun h => h.resolve_left fun ⟨_, hcancel, _⟩ => hl hcancel

end Temporal

section

variable {w : World} {a : Answer} {x x' : Activity}

theorem Activity.Next.opens (h : x.Next w a x') : x'.opens = x.opens := by
  cases h <;> rfl

theorem Activity.Next.unarchived (h : x.Next w a x') (hreplies : NodeReplies a x)
    (hx : x.Unarchived) : x'.Unarchived := by
  cases h with
  | openSession h =>
      cases h with
      | opened req k sess ho hreply =>
          have hactive := (hreplies sess hreply).active.1
          intro harch
          rw [hactive] at harch
          cases harch
      | stored | audited => exact hx
      | notRead | read | failed | notStored => trivial
  | provision | ensureAgent | hibernate | delete | prompt | cancel => trivial

theorem Request.start_unarchived (req : Request) : req.start.Unarchived := by
  cases req <;> trivial

theorem Body.container_of_opens {b : Body} {u : Update} {req : Request}
    (h : b.request u = some req) (hopens : req.start.opens = true) : ∃ id, b.containerID = some id := by
  cases b with
  | container id s => exact ⟨id, rfl⟩
  | session s => cases u <;> cases h <;> cases hopens

theorem Activity.returns_session {sess : Session} (h : x.returns = some (.ok (.session sess))) :
    ∃ req, x = .openSession (.returned req (.ok sess)) := by
  unfold Activity.returns at h
  split at h
  case h_2 req res =>
    cases res with
    | error e => cases h
    | ok s =>
        cases h
        exact ⟨req, rfl⟩
  case h_8 => cases h
  all_goals
    next res =>
      cases res <;> cases h

end

/-- What holds of a session workflow for the session: it runs while the container workflow does
that has started it. -/
structure Execution.Bound (t : Temporal) (e : Execution) (sessionID : String) : Prop where
  workflowID : e.workflowID = sessionWorkflowID sessionID
  unarchived : e.body.archived = false
  parent : ∃ p f, e.parent = some p ∧ t.executions[p]? = some f ∧
    (f.status = .running → e.status = .running)

/-- What holds of a handler of execution `n`: the session in its hands is not archived, it works for
a container workflow when it opens a session, and the child that it has started is a workflow for
that session. -/
def UpdatePC.Placed (t : Temporal) (n : ℕ) (child : Option ℕ) : UpdatePC → Prop
  | .execute _ x => x.Unarchived ∧ (x.opens = true → t.IsContainer n)
  | .executeChild sess => sess.state ≠ .archived ∧ t.IsContainer n
  | .childExecution sess | .returned (.ok (.session sess)) =>
      ∃ m, child = some m ∧ t.IsChild m n sess.id
  | _ => True

/-- The same with the number of its child. -/
structure UpdateHandler.Placed (t : Temporal) (h : UpdateHandler) : Prop where
  child : ∀ m, h.child = some m → m < t.executions.length
  pc : h.pc.Placed t h.execution h.child

/-- **The invariant**: one running execution for an id, the session workflows bound to their
parents, the handlers in their places, and for each child one handler that has started it. -/
structure LifetimesOk (t : Temporal) : Prop where
  unique : ∀ (i j : ℕ) e f, t.executions[i]? = some e → t.executions[j]? = some f →
    e.status = .running → f.status = .running → e.workflowID = f.workflowID → i = j
  sessions : ∀ (n : ℕ) e id, t.executions[n]? = some e → e.body.sessionID = some id → e.Bound t id
  handlers : ∀ h ∈ t.handlers, h.Placed t
  children : ∀ (i j : ℕ) g h m, t.handlers[i]? = some g → t.handlers[j]? = some h →
    g.child = some m → h.child = some m → i = j

section

variable {t t' : Temporal} {l : TemporalLabel} {h : UpdateHandler}

theorem Temporal.GoesOn.isContainer (hgo : t.GoesOn t') {n : ℕ} (h : t.IsContainer n) :
    t'.IsContainer n := by
  obtain ⟨e, id, he, hid⟩ := h
  obtain ⟨e', he', hk⟩ := hgo n e he
  exact ⟨e', id, he', hk.containerID.trans hid⟩

theorem Temporal.GoesOn.isChild (hgo : t.GoesOn t') {m n : ℕ} {id : String}
    (h : t.IsChild m n id) : t'.IsChild m n id := by
  obtain ⟨e, he, hid, hp⟩ := h
  obtain ⟨e', he', hk⟩ := hgo m e he
  exact ⟨e', he', hk.sessionID.trans hid, hk.parent.trans hp⟩

theorem Temporal.GoesOn.length (hgo : t.GoesOn t') {m : ℕ} (h : m < t.executions.length) :
    m < t'.executions.length := by
  obtain ⟨e', he', -⟩ := hgo m _ (List.getElem?_eq_getElem h)
  exact (List.getElem?_eq_some_iff.1 he').1

theorem UpdateHandler.Placed.mono (hp : h.Placed t) (hgo : t.GoesOn t') : h.Placed t' := by
  refine ⟨fun m hm => hgo.length (hp.child m hm), ?_⟩
  have hpc := hp.pc
  unfold UpdatePC.Placed at hpc ⊢
  split at hpc
  · exact ⟨hpc.1, fun ho => hgo.isContainer (hpc.2 ho)⟩
  · exact ⟨hpc.1, hgo.isContainer hpc.2⟩
  all_goals first | trivial | exact hpc.imp fun m hm => ⟨hm.1, hgo.isChild hm.2⟩

/-- **The handlers after a step** are in their places. -/
theorem LifetimesOk.handlers_step (hok : LifetimesOk t) (hs : t.Step l t')
    (hreplies : t.Answers NodeReplies l) : ∀ g ∈ t'.handlers, g.Placed t' := by
  intro g hg
  have hgo := hs.goesOn
  have hmono : ∀ h ∈ t.handlers, h.Placed t' := fun h hh => (hok.handlers h hh).mono hgo
  cases hs.handles hg with
  | kept hh => exact hmono g hh
  | begun n e u req he hrun hfor hreq =>
      refine ⟨(fun _ hm => by cases hm), req.start_unarchived, fun hopens => ?_⟩
      obtain ⟨id, hid⟩ := Body.container_of_opens hreq hopens
      exact ⟨e, id, he, hid⟩
  | moved i hl hi hm =>
      obtain ⟨hchild, hpl⟩ := hmono _ (List.mem_of_getElem? hi)
      cases hm with
      | acted k x x' a hl hpc hx =>
          subst hl
          rw [hpc] at hpl
          have hnext := (Activity.step_spec hx).1
          exact ⟨hchild, hnext.unarchived (hreplies x (Temporal.executing_eq hi hpc)) hpl.1,
            fun hopens => hpl.2 (hnext.opens ▸ hopens)⟩
      | retried e k x err req hpc he hres hreq =>
          refine ⟨hchild, req.start_unarchived, fun hopens => ?_⟩
          obtain ⟨id, hid⟩ := Body.container_of_opens hreq hopens
          exact hgo.isContainer ⟨e, id, he, hid⟩
      | opened k x sess hpc hres =>
          obtain ⟨req, rfl⟩ := Activity.returns_session hres
          rw [hpc] at hpl
          exact ⟨hchild, hpl.1, hpl.2 rfl⟩
      | childMade sess hpc he =>
          refine ⟨fun m hm => ?_, _, rfl, _, he, rfl, rfl⟩
          obtain rfl := Option.some.inj hm
          exact (List.getElem?_eq_some_iff.1 he).1
      | returned res hpc hsess =>
          refine ⟨hchild, ?_⟩
          unfold UpdatePC.Placed
          split
          case h_4 sess heq =>
            rw [hsess sess (UpdatePC.returned.inj heq)] at hpl
            exact hpl
          case h_5 => trivial
          all_goals next heq => cases heq

/-- **At most one execution is running under an id**, also after a step. -/
theorem LifetimesOk.unique_step (hok : LifetimesOk t) (hs : t.Step l t') (i j : ℕ) (e f : Execution)
    (he : t'.executions[i]? = some e) (hf : t'.executions[j]? = some f) (herun : e.status = .running)
    (hfrun : f.status = .running) (hid : e.workflowID = f.workflowID) : i = j := by
  rcases hs.execution he with ⟨e₀, he₀, hb⟩ | ⟨rfl, hnone, -⟩
  · have hke := hb.keeps
    have he₀run := hke.running herun
    rcases hs.execution hf with ⟨f₀, hf₀, hb'⟩ | ⟨-, hnone, -⟩
    · have hkf := hb'.keeps
      exact hok.unique i j e₀ f₀ he₀ hf₀ he₀run (hkf.running hfrun)
        (hke.workflowID.symm.trans (hid.trans hkf.workflowID))
    · exact absurd he₀run (Temporal.running_eq_none hnone he₀ (hke.workflowID.symm.trans hid))
  · rcases hs.execution hf with ⟨f₀, hf₀, hb'⟩ | ⟨rfl, -, -⟩
    · have hkf := hb'.keeps
      exact absurd (hkf.running hfrun)
        (Temporal.running_eq_none hnone hf₀ (hkf.workflowID.symm.trans hid.symm))
    · rfl

theorem Temporal.awaits_session {n : ℕ} {b : Body} {id : String} (hb : b.sessionID = some id)
    (harch : b.archived = false) : t.awaits n b = false := by
  cases b with
  | container => cases hb
  | session s => exact harch

/-- **The session workflows are bound to their parents**, also after a step. -/
theorem LifetimesOk.sessions_step (hok : LifetimesOk t) (hs : t.Step l t')
    (hl : ∀ n, l ≠ .cancelSession n) (n : ℕ) (e : Execution) (id : String)
    (he : t'.executions[n]? = some e) (hid : e.body.sessionID = some id) : e.Bound t' id := by
  rcases hs.execution he with ⟨e₀, he₀, hb⟩ | ⟨-, -, hbegun⟩
  · have hk := hb.keeps
    have hid₀ := hk.sessionID.symm.trans hid
    obtain ⟨hw, harch, p, f₀, hp, hf₀, hlive⟩ := hok.sessions n e₀ id he₀ hid₀
    obtain ⟨f, hf, hkf⟩ := hs.goesOn p f₀ hf₀
    refine ⟨hk.workflowID.trans hw, hk.archived harch, p, f, hk.parent.trans hp, hf, fun hfrun => ?_⟩
    have hf₀run := hkf.running hfrun
    -- it has not been closed in this step: it does not return, and its parent is running
    by_contra hclosed
    rcases hb.why (hlive hf₀run) hclosed (hl n) with hawait | ⟨p', f', hp', hf', hst⟩
    · rw [Temporal.awaits_session hid₀ harch] at hawait
      cases hawait
    · obtain rfl := Option.mem_unique hp hp'
      obtain rfl := Option.mem_unique hf₀ hf'
      exact hst hf₀run
  · cases hbegun with
    | container => cases hid
    | session h _ sess f hh hpc hf =>
        obtain rfl := Option.some.inj hid
        obtain ⟨f', hf', -⟩ := hs.goesOn _ f hf
        refine ⟨rfl, ?_, h.execution, f', rfl, hf', fun _ => rfl⟩
        have hpl := (hok.handlers h hh).pc
        rw [hpc] at hpl
        exact decide_eq_false hpl.1

/-- **A child belongs to one handler**, also after a step. -/
theorem LifetimesOk.children_step (hok : LifetimesOk t) (hs : t.Step l t') (i j : ℕ)
    (g h : UpdateHandler) (m : ℕ) (hi : t'.handlers[i]? = some g) (hj : t'.handlers[j]? = some h)
    (hg : g.child = some m) (hh : h.child = some m) : i = j := by
  -- the child of a handler is its old one, or the execution that has just been started
  have hchild : ∀ (q : ℕ) f, t'.handlers[q]? = some f → f.child = some m →
      (∃ f₀, t.handlers[q]? = some f₀ ∧ f₀.child = some m) ∨
        m = t.executions.length ∧ l.mover = some q := by
    intro q f hq hf
    cases hs.handlers with
    | same hl hh => exact Or.inl ⟨f, hh ▸ hq, hf⟩
    | added n e u req hl he hrun hfor hreq hh =>
        rcases getElem?_concat_cases (hh ▸ hq) with ⟨-, rfl⟩ | hq
        · cases hf
        · exact Or.inl ⟨f, hq, hf⟩
    | moved k h₀ h' hl hk hm hh =>
        rcases getElem?_set_cases (hh ▸ hq) with ⟨rfl, rfl⟩ | ⟨-, hq⟩
        · cases hm with
          | childMade => exact Or.inr ⟨(Option.some.inj hf).symm, hl⟩
          | acted | retried | opened | returned => exact Or.inl ⟨h₀, hk, hf⟩
        · exact Or.inl ⟨f, hq, hf⟩
  have hlt : ∀ (q : ℕ) f, t.handlers[q]? = some f → f.child = some m → m < t.executions.length :=
    fun q f hq hf => (hok.handlers f (List.mem_of_getElem? hq)).child m hf
  rcases hchild i g hi hg with ⟨g₀, hi₀, hg₀⟩ | ⟨hm, hmi⟩
  · rcases hchild j h hj hh with ⟨h₀, hj₀, hh₀⟩ | ⟨hm, -⟩
    · exact hok.children i j g₀ h₀ m hi₀ hj₀ hg₀ hh₀
    · exact absurd hm (hlt i g₀ hi₀ hg₀).ne
  · rcases hchild j h hj hh with ⟨h₀, hj₀, hh₀⟩ | ⟨-, hmj⟩
    · exact absurd hm (hlt j h₀ hj₀ hh₀).ne
    · exact Option.mem_unique hmi hmj

/-- **A step keeps the invariant.** -/
theorem LifetimesOk.step (hok : LifetimesOk t) (hl : Undisturbed t l) (h : t.step l = some t') :
    LifetimesOk t' :=
  have hs := Temporal.step_spec h
  ⟨hok.unique_step hs, hok.sessions_step hs hl.2, hok.handlers_step hs hl.1, hok.children_step hs⟩

end

/-- How the sessions that have been opened depend on the workflows of their containers. -/
structure SessionsBound (t : Temporal) : Prop where
  /-- while the workflow of its container is running, an opened session takes prompts -/
  promptable : ∀ (i : ℕ) h sess, t.handlers[i]? = some h → h.pc = .returned (.ok (.session sess)) →
    (t.live h.execution).isSome → ∀ req : PromptRequest, req.sessionID = sess.id →
      (t.step (.client (.prompt req))).isSome
  /-- of two openings of a session, one belongs to a workflow that is not running -/
  once : ∀ (i j : ℕ) g h sess sess', i ≠ j → t.handlers[i]? = some g → t.handlers[j]? = some h →
    g.pc = .returned (.ok (.session sess)) → h.pc = .returned (.ok (.session sess')) →
      sess.id = sess'.id → (t.live g.execution).isSome → t.live h.execution = none
  /-- a session workflow is closed only after the workflow that has started it -/
  outlived : ∀ (n : ℕ) e id, t.executions[n]? = some e → e.body.sessionID = some id →
    e.status ≠ .running → ∃ p, e.parent = some p ∧ t.live p = none

section

variable {t : Temporal}

/-- The child of a running container workflow is running. -/
theorem LifetimesOk.child_running (hok : LifetimesOk t) {m n : ℕ} {id : String}
    (hc : t.IsChild m n id) (hlive : (t.live n).isSome) :
    ∃ e, t.executions[m]? = some e ∧ e.body.sessionID = some id ∧
      e.workflowID = sessionWorkflowID id ∧ e.status = .running := by
  obtain ⟨e, he, hid, hp⟩ := hc
  obtain ⟨hw, -, p, f, hp', hf, hrun⟩ := hok.sessions m e id he hid
  obtain ⟨f', hf'⟩ := Option.isSome_iff_exists.1 hlive
  obtain ⟨hf', hfrun⟩ := Temporal.live_eq_some.1 hf'
  obtain rfl := Option.mem_unique hp hp'
  obtain rfl := Option.mem_unique hf hf'
  exact ⟨e, he, hid, hw, hrun hfrun⟩

/-- A session workflow that is running takes prompts for its session. -/
theorem LifetimesOk.step_prompt (hok : LifetimesOk t) {m : ℕ} {e : Execution} {req : PromptRequest}
    (he : t.executions[m]? = some e) (hid : e.body.sessionID = some req.sessionID)
    (hw : e.workflowID = sessionWorkflowID req.sessionID) (hrun : e.status = .running) :
    (t.step (.client (.prompt req))).isSome := by
  cases hn : t.running (sessionWorkflowID req.sessionID) with
  | none => exact absurd hrun (Temporal.running_eq_none hn he hw)
  | some n =>
      obtain ⟨e', he', hw', hrun'⟩ := Temporal.running_eq_some hn
      obtain rfl := hok.unique m n e e' he he' hrun hrun' (hw.trans hw'.symm)
      have hlive : t.live m = some e := Temporal.live_eq_some.2 ⟨he, hrun⟩
      show ((t.running _).bind fun n => t.accept n _).isSome = true
      rw [ClientCall.workflowID, hn, Option.bind_some, Temporal.accept, hlive, Option.bind_some]
      cases hb : e.body with
      | container => rw [hb] at hid; cases hid
      | session s => rfl

theorem LifetimesOk.child_of (hok : LifetimesOk t) {i : ℕ} {h : UpdateHandler} {sess : Session}
    (hi : t.handlers[i]? = some h) (hpc : h.pc = .returned (.ok (.session sess))) :
    ∃ m, h.child = some m ∧ t.IsChild m h.execution sess.id := by
  have hpl := (hok.handlers h (List.mem_of_getElem? hi)).pc
  rw [hpc] at hpl
  exact hpl

theorem LifetimesOk.bound (hok : LifetimesOk t) : SessionsBound t where
  promptable i h sess hi hpc hlive req hreq := by
    obtain ⟨m, -, hc⟩ := hok.child_of hi hpc
    obtain ⟨e, he, hid, hw, hrun⟩ := hok.child_running hc hlive
    rw [← hreq] at hid hw
    exact hok.step_prompt he hid hw hrun
  once i j g h sess sess' hne hi hj hg hh hid hlive := by
    obtain ⟨m, hm, hc⟩ := hok.child_of hi hg
    obtain ⟨m', hm', hc'⟩ := hok.child_of hj hh
    by_contra hlive'
    obtain ⟨e, he, -, hw, hrun⟩ := hok.child_running hc hlive
    obtain ⟨e', he', -, hw', hrun'⟩ :=
      hok.child_running hc' (Option.isSome_iff_ne_none.2 hlive')
    obtain rfl := hok.unique m m' e e' he he' hrun hrun' (by rw [hw, hw', hid])
    exact hne (hok.children i j g h m hi hj hm hm')
  outlived n e id he hid hclosed := by
    obtain ⟨-, -, p, f, hp, hf, hrun⟩ := hok.sessions n e id he hid
    refine ⟨p, hp, Option.eq_none_iff_forall_ne_some.2 fun f' hf' => ?_⟩
    obtain ⟨hf', hfrun⟩ := Temporal.live_eq_some.1 hf'
    obtain rfl := Option.mem_unique hf hf'
    exact hclosed (hrun hfrun)

theorem LifetimesOk.new (w : World) (conflict : ConflictPolicy) :
    LifetimesOk { world := w, conflict } where
  unique i j e f he := by cases he
  sessions n e id he := by cases he
  handlers h hh := by cases hh
  children i j g h m hi := by cases hi

end

/-- **A session lives as long as the workflow of its container.**  In every state that a namespace
can reach, by any interleaving of client calls, handlers, activities and the server's own steps in
which no session workflow is cancelled, the sessions are bound to the container workflows that have
opened them. -/
theorem sessionsBound {w : World} {conflict : ConflictPolicy} {l : List TemporalLabel} {t : Temporal}
    (hl : Along Temporal.step Undisturbed { world := w, conflict } l)
    (h : exec Temporal.step { world := w, conflict } l = some t) : SessionsBound t :=
  (exec_invariant (fun _ _ _ hok hC hs => LifetimesOk.step hok hC hs) (LifetimesOk.new w conflict)
    hl h).bound

/-- The label brings no reply of a supervisor, no failure and no cancellation. -/
def TemporalLabel.Plain : TemporalLabel → Prop
  | .act _ a => a.reply = .none ∧ a.outcome = .ok
  | .startChild _ err => err = none
  | .cancelSession _ => False
  | _ => True

/-- A condition on what is answered that a call without a reply and without a failure meets. -/
theorem Temporal.Answers.of_plain {R : Answer → Activity → Prop} {t : Temporal} {lab : TemporalLabel}
    (hR : ∀ a x, a.reply = .none → a.outcome = .ok → R a x) (hp : lab.Plain) : t.Answers R lab := by
  cases lab with
  | act i a => exact fun x _ => hR a x hp.1 hp.2
  | startContainer | client | retry | deliver | startChild | childStarted | await | cancelSession
  | terminate => trivial

/-- Handler `i` makes a call that goes through. -/
def actCall (i : ℕ) (reply : Reply) : TemporalLabel := .act i { now := 9, raw := "1", reply }

/-- A container is started, and a `CreateSession` comes as far as the node. -/
def startsContainer : List TemporalLabel :=
  [.startContainer { id := "ctr_1" } "", actCall 0 .none, actCall 0 .none, actCall 0 .none,
    .deliver 0 9, .client (.createSession { containerID := "ctr_1", agentInstanceID := "agent_1" }),
    actCall 1 .none]

/-- The supervisor has opened the session, and its workflow is started. -/
def startsSession : List TemporalLabel :=
  [actCall 1 .none, actCall 1 .none, .deliver 1 9, .startChild 1 none, .childStarted 1]

/-- A run in which the session is opened meets a condition when its one reply does, and the other
steps are plain. -/
theorem along_opening {C : Temporal → TemporalLabel → Prop} {rest : List TemporalLabel}
    (hC : ∀ t lab, TemporalLabel.Plain lab → C t lab)
    (hreply : ∀ t ∈ exec Temporal.step { world := emptyWorld } startsContainer,
      C t (actCall 1 (.session openedSession))) (hrest : ∀ lab ∈ rest, lab.Plain) :
    Along Temporal.step C { world := emptyWorld }
      (startsContainer ++ actCall 1 (.session openedSession) :: rest) := by
  have hquiet : ∀ {l : List TemporalLabel} {t : Temporal}, (∀ lab ∈ l, lab.Plain) →
      Along Temporal.step C t l := fun h => (along_of_forall h).mono hC
  have hfirst : ∀ lab ∈ startsContainer, lab.Plain := by
    simp [startsContainer, actCall, TemporalLabel.Plain]
  exact (hquiet hfirst).append fun t ht => ⟨hreply t ht, fun u _ => hquiet hrest⟩

theorem startsSession_plain : ∀ lab ∈ startsSession, lab.Plain := by
  simp [startsSession, actCall, TemporalLabel.Plain]

/-- `sessionsBound` applies to a session that has been opened: it takes a prompt. -/
theorem startsSession_promptable :
    ∃ t ∈ exec Temporal.step { world := emptyWorld }
        (startsContainer ++ actCall 1 (.session openedSession) :: startsSession),
      (t.step (.client (.prompt { sessionID := "sess_1" }))).isSome := by
  have hl : Along Temporal.step Undisturbed { world := emptyWorld }
      (startsContainer ++ actCall 1 (.session openedSession) :: startsSession) := by
    refine along_opening (fun t lab hp => ⟨.of_plain (fun a x hr _ => ?_) hp, ?_⟩)
      (fun t ht => ⟨fun x hx => ?_, by simp [actCall]⟩) startsSession_plain
    · unfold NodeReplies
      split <;> simp [hr]
    · rintro n rfl
      exact hp
    · obtain rfl := Option.some.inj ht
      obtain rfl := Option.some.inj hx
      exact fun s hs => Reply.session.inj hs ▸ openedSession_reply
  exact ⟨_, rfl, (sessionsBound hl rfl).promptable 1 _ openedSession rfl rfl rfl _ rfl⟩

end Workflows
end Agentd
