/-
# What the updates of a session find in the store

A `Prompt` or `Cancel` activity begins with two reads of the metadata store, of the row of the
session and of the row of its container, and either may find nothing.  It does not happen to an
activity that a workflow executes (`acceptedUpdates_find`): an update is accepted only by a
running `SessionWorkflow`, that is started only after the activity which opened the session has
stored its row, and the session was opened through the row of its container.  No row is ever
taken out.  So `ErrNotFound` never comes from these reads, however the updates of all workflows
are interleaved and whichever writes fail, when the supervisor of a container opens sessions of
that container.
-/

import Agentd.Workflows.SessionLifetimes
import Agentd.Workflows.Integrity

namespace Agentd
namespace Workflows

open Control Store NodeRuntime Supervisor Concurrency

/-- The supervisor that is asked replies with a session of its container. -/
def OwnContainer (a : Answer) : Activity → Prop
  | .openSession (.nodeOpen req _) =>
      ∀ sess, a.reply = .session sess → sess.containerID = req.containerID
  | _ => True

/-- What the activity is about to read is stored, and so is what it has in its hands. -/
def Activity.Finds (s : MemoryStore) : Activity → Prop
  | .openSession (.nodeOpen req _) => HasContainer s req.containerID
  | .openSession (.upsertSession _ sess) => HasContainer s sess.containerID
  | .openSession (.appendAudit _ sess) | .openSession (.returned _ (.ok sess)) =>
      HasSession s sess.id
  | .session (.prompt (.getSession req)) => HasSession s req.sessionID
  | .session (.prompt (.containerNode _ sess)) | .session (.prompt (.upsertSession _ sess _ _))
  | .session (.prompt (.upsertRun _ sess _ _)) | .session (.prompt (.publishStarted _ sess _ _))
  | .session (.prompt (.nodePrompt _ sess _ _)) | .session (.prompt (.upsertFailedRun sess _))
  | .session (.prompt (.upsertFailedSession sess _)) | .session (.prompt (.upsertFinalRun sess _ _))
  | .session (.prompt (.upsertFinalSession sess _ _)) => HasContainer s sess.containerID
  | .session (.cancel (.getSession req)) => HasSession s req.sessionID
  | .session (.cancel (.containerNode _ sess)) | .session (.cancel (.upsertSession _ sess _)) =>
      HasContainer s sess.containerID
  | _ => True

/-- The same of a handler. -/
def UpdatePC.Finds (s : MemoryStore) : UpdatePC → Prop
  | .execute _ x => x.Finds s
  | .executeChild sess => HasSession s sess.id
  | .childExecution _ | .returned _ => True

/-- What is stored of containers and sessions stays stored. -/
structure StoreGrows (s s' : MemoryStore) : Prop where
  containers : ∀ id, HasContainer s id → HasContainer s' id
  sessions : ∀ id, HasSession s id → HasSession s' id

section

variable {s s' : MemoryStore} {a : Answer} {row : Option Row} {w : World} {x x' : Activity}

theorem StoreGrows.refl (s : MemoryStore) : StoreGrows s s := ⟨fun _ h => h, fun _ h => h⟩

theorem storeGrows_stored (a : Answer) (row : Option Row) (s : MemoryStore) :
    StoreGrows s (stored a row s) where
  containers id h := by
    unfold HasContainer
    rw [stored_containers]
    exact exists_storedIn _ h
  sessions id h := by
    unfold HasSession
    rw [stored_sessions]
    exact exists_storedIn _ h

theorem Activity.Finds.mono (hg : StoreGrows s s') (h : x.Finds s) : x.Finds s' := by
  unfold Activity.Finds at h ⊢
  split
  all_goals first | exact hg.containers _ h | exact hg.sessions _ h | trivial

theorem UpdatePC.Finds.mono {pc : UpdatePC} (hg : StoreGrows s s') (h : pc.Finds s) : pc.Finds s' := by
  cases pc with
  | execute k x => exact Activity.Finds.mono hg h
  | executeChild sess => exact hg.sessions _ h
  | childExecution | returned => trivial

theorem hasSession_of_stored {sess : Session} (ho : a.outcome = .ok) :
    HasSession (stored a (some (.session sess)) s) sess.id := by
  unfold HasSession
  rw [stored_sessions]
  refine ⟨sess, ?_⟩
  show (storedIn a (some sess) s.sessions).get sess.id = some sess
  unfold storedIn
  rw [ho]
  exact Table.get_upsert_self ..

/-- **After a call** the activity finds what it reads next. -/
theorem Activity.Next.finds (h : x.Next w a x') (hown : OwnContainer a x)
    (hrows : ∀ id sess, w.store.sessions.get id = some sess → HasContainer w.store sess.containerID)
    (hx : x.Finds w.store) : x'.Finds (stored a (x.writes a) w.store) := by
  have hg := storeGrows_stored a (x.writes a) w.store
  cases h with
  | provision | ensureAgent | hibernate | delete => trivial
  | openSession h =>
      cases h with
      | notRead | failed | notStored => trivial
      | read req c k hget => exact hg.containers _ ⟨c, hget⟩
      | opened req k sess ho hreply =>
          refine hg.containers _ ?_
          rw [hown sess hreply]
          exact hx
      | stored req sess ho => exact hasSession_of_stored ho
      | audited req sess => exact hg.sessions _ hx
  | prompt h =>
      cases h with
      | notRead | noNode | runNotStored | sessionNotStored | sessionStored | failedSessionWritten
      | audited => trivial
      | read req sess hget => exact hg.containers _ (hrows _ sess hget)
      | begun | sessionWritten | runWritten | announced | event | failed | ended
      | failedRunWritten | runStored => exact hg.containers _ hx
  | cancel h =>
      cases h with
      | notRead | noNode | sessionWritten | announced | ended => trivial
      | read req sess hget => exact hg.containers _ (hrows _ sess hget)
      | begun => exact hg.containers _ hx

theorem Activity.Finds.writes {sess : Session} (hx : x.Finds s)
    (hw : x.writes a = some (.session sess)) : HasContainer s sess.containerID := by
  cases x with
  | provision x => cases x <;> cases hw
  | openSession x =>
      cases x with
      | upsertSession req sess' =>
          cases hw
          exact hx
      | containerNode | nodeOpen | appendAudit | returned => cases hw
  | container x =>
      cases x with
      | ensureAgent x | hibernate x | delete x => cases x <;> cases hw
  | session x =>
      cases x with
      | prompt x | cancel x => cases x <;> cases hw <;> exact hx

end

/-- A handler finds what it reads next, and handles an update for the workflow that it belongs
to. -/
structure UpdateHandler.Found (t : Temporal) (h : UpdateHandler) : Prop where
  finds : h.pc.Finds t.world.store
  addressed : ∃ e, t.executions[h.execution]? = some e ∧ h.update.IsFor e.workflowID

/-- **The invariant**: the session rows are of stored containers, a session workflow is for a
stored session, and the handlers find what they read. -/
structure FoundOk (t : Temporal) : Prop where
  rows : ∀ id sess, t.world.store.sessions.get id = some sess →
    HasContainer t.world.store sess.containerID
  workflows : ∀ (n : ℕ) e id, t.executions[n]? = some e → e.body.sessionID = some id →
    e.workflowID = sessionWorkflowID id ∧ HasSession t.world.store id
  handlers : ∀ h ∈ t.handlers, h.Found t

section

variable {t t' : Temporal} {l : TemporalLabel}

/-- An activity that a workflow begins for an update finds what it reads, when a session workflow is
for a stored session. -/
theorem Request.start_finds {s : MemoryStore} {e : Execution} {u : Update} {req : Request}
    (hw : ∀ id, e.body.sessionID = some id → e.workflowID = sessionWorkflowID id ∧ HasSession s id)
    (hfor : u.IsFor e.workflowID) (hreq : e.body.request u = some req) : req.start.Finds s := by
  cases hb : e.body with
  | container id st =>
      rw [hb] at hreq
      cases u <;> cases hreq <;> trivial
  | session st =>
      obtain ⟨hid, hhas⟩ := hw st.session.id (by rw [hb]; rfl)
      rw [hb] at hreq
      cases u with
      | prompt r | cancel r =>
          cases hreq
          have hsess : st.session.id = r.sessionID := sessionWorkflowID_inj.1 (hid.symm.trans hfor)
          show HasSession s r.sessionID
          exact hsess ▸ hhas
      | start | installAgent | startAgent | createSession | loadSession | hibernate | delete =>
          cases hreq

theorem Temporal.Step.storeGrows (hs : t.Step l t') : StoreGrows t.world.store t'.world.store := by
  cases hs with
  | acted _ _ _ x _ a _ _ _ hx => exact (Activity.step_spec hx).2 ▸ storeGrows_stored ..
  | started | accepted | retried | opened | succeeded | failed | childRefused | childMade | recorded
  | completed | cancelled | terminated => exact .refl _

theorem FoundOk.rows_step (hok : FoundOk t) (hs : t.Step l t') (id : String) (sess : Session)
    (hget : t'.world.store.sessions.get id = some sess) :
    HasContainer t'.world.store sess.containerID := by
  have hg := hs.storeGrows
  cases hs with
  | acted i h k x x' a w hi hpc hx =>
      have hst := (Activity.step_spec hx).2
      dsimp only at hget
      rw [hst, stored_sessions] at hget
      rcases storedIn_cases hget with hold | ⟨hnew, -, -⟩
      · exact hg.containers _ (hok.rows id sess hold)
      · have hfinds := (hok.handlers h (List.mem_of_getElem? hi)).finds
        rw [hpc] at hfinds
        exact hg.containers _ (Activity.Finds.writes hfinds (RowKind.sessions.eq hnew))
  | started | accepted | retried | opened | succeeded | failed | childRefused | childMade | recorded
  | completed | cancelled | terminated => exact hok.rows id sess hget

theorem Temporal.Step.addressed (hs : t.Step l t') {h : UpdateHandler}
    (ha : ∃ e, t.executions[h.execution]? = some e ∧ h.update.IsFor e.workflowID) :
    ∃ e, t'.executions[h.execution]? = some e ∧ h.update.IsFor e.workflowID := by
  obtain ⟨e, he, hfor⟩ := ha
  obtain ⟨e', he', hk⟩ := hs.goesOn _ e he
  exact ⟨e', he', hk.workflowID ▸ hfor⟩

/-- The session workflows after a step are for stored sessions. -/
theorem FoundOk.workflows_step (hok : FoundOk t) (hs : t.Step l t') (n : ℕ) (e : Execution)
    (id : String) (he : t'.executions[n]? = some e) (hid : e.body.sessionID = some id) :
    e.workflowID = sessionWorkflowID id ∧ HasSession t'.world.store id := by
  rcases hs.execution he with ⟨e₀, he₀, hb⟩ | ⟨-, -, hbegun⟩
  · have hk := hb.keeps
    obtain ⟨hw, hhas⟩ := hok.workflows n e₀ id he₀ (hk.sessionID.symm.trans hid)
    exact ⟨hk.workflowID.trans hw, hs.storeGrows.sessions id hhas⟩
  · cases hbegun with
    | container => cases hid
    | session h _ sess f hh hpc =>
        obtain rfl := Option.some.inj hid
        have hfinds := (hok.handlers h hh).finds
        rw [hpc] at hfinds
        exact ⟨rfl, hs.storeGrows.sessions _ hfinds⟩

/-- **The handlers after a step** find what they read. -/
theorem FoundOk.handlers_step (hok : FoundOk t) (hs : t.Step l t') (hown : t.Answers OwnContainer l) :
    ∀ h ∈ t'.handlers, h.Found t' := by
  intro g hg
  have hgrows := hs.storeGrows
  cases hs.handles hg with
  | kept hh => exact ⟨(hok.handlers g hh).finds.mono hgrows, hs.addressed (hok.handlers g hh).addressed⟩
  | begun n e u req he hrun hfor hreq =>
      exact ⟨Request.start_finds (fun id => hok.workflows_step hs n e id he) hfor hreq, e, he, hfor⟩
  | moved i hl hi hm =>
      obtain ⟨hfinds, haddr⟩ := hok.handlers _ (List.mem_of_getElem? hi)
      cases hm with
      | acted k x x' a hl hpc hx =>
          subst hl
          rw [hpc] at hfinds
          obtain ⟨hnext, hst⟩ := Activity.step_spec hx
          refine ⟨?_, hs.addressed haddr⟩
          show x'.Finds t'.world.store
          rw [hst]
          exact hnext.finds (hown x (Temporal.executing_eq hi hpc)) hok.rows hfinds
      | retried e k x err req hpc he hres hreq =>
          obtain ⟨e', he', hfor⟩ := haddr
          obtain rfl := Option.mem_unique he he'
          have hstart := Request.start_finds (fun id => hok.workflows _ e id he) hfor hreq
          exact ⟨hstart.mono hgrows, hs.addressed ⟨e, he, hfor⟩⟩
      | opened k x sess hpc hres =>
          obtain ⟨req, rfl⟩ := Activity.returns_session hres
          rw [hpc] at hfinds
          exact ⟨hgrows.sessions _ hfinds, hs.addressed haddr⟩
      | childMade | returned => exact ⟨trivial, hs.addressed haddr⟩

theorem FoundOk.new {w : World} {conflict : ConflictPolicy} (hw : w.store.sessions = Table.empty) :
    FoundOk { world := w, conflict } := by
  refine ⟨fun id sess hget => ?_, (fun n e id he => by cases he), fun h hh => by cases hh⟩
  dsimp only at hget
  rw [hw] at hget
  cases hget

theorem FoundOk.step (hok : FoundOk t) (hown : t.Answers OwnContainer l) (h : t.step l = some t') :
    FoundOk t' :=
  have hs := Temporal.step_spec h
  ⟨hok.rows_step hs, hok.workflows_step hs, hok.handlers_step hs hown⟩

end

/-- What the activities of a session's updates read is stored. -/
structure UpdatesFind (t : Temporal) : Prop where
  promptSession : ∀ h ∈ t.handlers, ∀ k req,
    h.pc = .execute k (.session (.prompt (.getSession req))) → HasSession t.world.store req.sessionID
  promptContainer : ∀ h ∈ t.handlers, ∀ k req sess,
    h.pc = .execute k (.session (.prompt (.containerNode req sess))) →
      HasContainer t.world.store sess.containerID
  cancelSession : ∀ h ∈ t.handlers, ∀ k req,
    h.pc = .execute k (.session (.cancel (.getSession req))) → HasSession t.world.store req.sessionID
  cancelContainer : ∀ h ∈ t.handlers, ∀ k req sess,
    h.pc = .execute k (.session (.cancel (.containerNode req sess))) →
      HasContainer t.world.store sess.containerID

/-- **The updates of a session find their rows.**  In every state that a namespace can reach from a
store without sessions, a `Prompt` or `Cancel` activity that is about to read the row of its
session, or of the session's container, finds it. -/
theorem acceptedUpdates_find {w : World} {conflict : ConflictPolicy} {l : List TemporalLabel}
    {t : Temporal} (hw : w.store.sessions = Table.empty)
    (hl : Along Temporal.step (Temporal.Answers OwnContainer) { world := w, conflict } l)
    (h : exec Temporal.step { world := w, conflict } l = some t) : UpdatesFind t := by
  have hok : FoundOk t :=
    exec_invariant (fun _ _ _ hok hC hs => FoundOk.step hok hC hs) (.new hw) hl h
  have hfinds : ∀ h ∈ t.handlers, ∀ k x, h.pc = .execute k x → x.Finds t.world.store := by
    intro h hh k x hpc
    have hf := (hok.handlers h hh).finds
    rw [hpc] at hf
    exact hf
  exact ⟨fun h hh k req hpc => hfinds h hh k _ hpc, fun h hh k req sess hpc => hfinds h hh k _ hpc,
    fun h hh k req hpc => hfinds h hh k _ hpc, fun h hh k req sess hpc => hfinds h hh k _ hpc⟩

/-- The workflow of the session is started and takes a prompt, which comes as far as the row of
the container. -/
def startsPrompt : List TemporalLabel :=
  startsSession ++ [.client (.prompt { sessionID := "sess_1", runID := "run_1" }), actCall 2 .none]

/-- `acceptedUpdates_find` applies to the prompt of a session that has been opened. -/
theorem startsPrompt_finds :
    ∃ t ∈ exec Temporal.step { world := emptyWorld }
        (startsContainer ++ actCall 1 (.session openedSession) :: startsPrompt),
      ∃ sess, t.executing 2 =
          some (.session (.prompt (.containerNode { sessionID := "sess_1", runID := "run_1" } sess))) ∧
        HasContainer t.world.store sess.containerID := by
  have hl : Along Temporal.step (Temporal.Answers OwnContainer) { world := emptyWorld }
      (startsContainer ++ actCall 1 (.session openedSession) :: startsPrompt) := by
    refine along_opening (fun t lab => .of_plain fun a x hr _ => ?_) (fun t ht x hx => ?_)
      (by simp [startsPrompt, startsSession, actCall, TemporalLabel.Plain])
    · unfold OwnContainer
      split <;> simp [hr]
    · obtain rfl := Option.some.inj ht
      obtain rfl := Option.some.inj hx
      exact fun s hs => Reply.session.inj hs ▸ rfl
  refine ⟨_, rfl, _, rfl, ?_⟩
  exact (acceptedUpdates_find rfl hl rfl).promptContainer _ (List.mem_of_getElem? (i := 2) rfl)
    1 _ _ rfl

end Workflows
end Agentd
