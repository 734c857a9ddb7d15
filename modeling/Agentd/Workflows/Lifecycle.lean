/-
# The lifecycles that the rows go through

`control/state.go` says which state of a container, a session or a run may follow which,
and nothing asks it: the activities write the states they write.  `Conforms` says that
what a call does to the store is in the tables.

Some calls are not, whatever the node does.  `Delete` writes `deleted` over `ready`, with no
`deleting` between; a `Prompt` begins on a session that is `failed` or `cancelling`, and at
its end writes `waiting_input` over the `cancelling` that a `Cancel` has left; a `Cancel`
comes to a session that has failed; a session is created again under an id in use; and a
`Prompt` uses the id of an earlier run.  `Lawful` excludes these, and
`lifecycle_conforms_of_lawful` says that nothing else goes wrong: in every run of the
activities in which no call is one of them, every call conforms.
-/

import Agentd.Workflows.ActivitySteps
import Agentd.Control.State
import Agentd.NodeRuntime.Replies
import Agentd.Supervisor.EnsureAgent
import Agentd.Supervisor.ManagerReplies

namespace Agentd
namespace Workflows

open Control Store NodeRuntime Supervisor Concurrency

/-- The states of the rows follow the tables of `control/state.go`. -/
structure Conforms (s s' : MemoryStore) : Prop where
  container : ∀ id c c', s.containers.get id = some c → s'.containers.get id = some c' →
    validateContainerTransition c.state c'.state = .ok ()
  session : ∀ id x x', s.sessions.get id = some x → s'.sessions.get id = some x' →
    validateSessionTransition x.state x'.state = .ok ()
  run : ∀ id r r', s.runs.get id = some r → s'.runs.get id = some r' →
    validateRunTransition r.state r'.state = .ok ()

/-- The run id of a `Prompt` that may still write the run. -/
def Activity.runID : Activity → Option String
  | .session (.prompt (.upsertSession _ _ _ run)) | .session (.prompt (.upsertRun _ _ _ run))
  | .session (.prompt (.publishStarted _ _ _ run)) | .session (.prompt (.nodePrompt _ _ _ run))
  | .session (.prompt (.upsertFailedRun _ run)) | .session (.prompt (.upsertFinalRun _ run _)) =>
      some run.id
  | _ => none

/-- The run id is not that of a stored run and not that of another `Prompt`. -/
def FreeRunID (p : Pool World Activity) (id : String) : Prop :=
  p.shared.store.runs.get id = none ∧ ∀ y ∈ p.threads, y.runID ≠ some id

/-- No row of the session is in one of the states. -/
def NotIn (s : MemoryStore) (id : String) (states : List SessionState) : Prop :=
  ∀ row, s.sessions.get id = some row → row.state ∉ states

/-- The call is none of those that break a lifecycle: a row of `Delete` that is written; a
session opened under the id of one that waits for input or is being cancelled; a `Prompt` that has
found its node, with the id of another run; a `Prompt` that writes the session for its start, or for its end
without a failure, over `cancelling` or `failed`; a `Cancel` that writes over `failed`. -/
def Lawful (p : Pool World Activity) (a : Answer) : Activity → Prop
  | .container (.delete (.upsertContainer _)) => a.outcome.took = false
  | .openSession (.upsertSession _ sess) =>
      a.outcome.took = true → NotIn p.shared.store sess.id [.waitingInput, .cancelling]
  | .session (.prompt (.containerNode req sess)) =>
      (∃ r, p.shared.containerNode a.outcome sess.containerID = .ok r) →
        FreeRunID p (Prompt.newRun req sess a).id
  | .session (.prompt (.upsertSession _ sess _ _)) =>
      a.outcome.took = true → NotIn p.shared.store sess.id [.cancelling, .failed]
  | .session (.prompt (.upsertFinalSession sess _ final)) =>
      a.outcome.took = true → final.state ≠ .failed →
        NotIn p.shared.store sess.id [.cancelling, .failed]
  | .session (.cancel (.upsertSession _ sess _)) =>
      a.outcome.took = true → NotIn p.shared.store sess.id [.failed]
  | _ => True

/-- What the call is answered is something that a node can reply. -/
def NodeReplies (a : Answer) : Activity → Prop
  | .openSession (.nodeOpen req _) => ∀ sess, a.reply = .session sess → SessionReply req sess
  | .session (.prompt (.nodePrompt req _ _ _)) => ∀ run, a.reply = .run run → PromptReply req run
  | _ => True

/-- The condition on a run: the node replies what a node can reply, and the call is lawful. -/
def LawfulStep (p : Pool World Activity) : PoolLabel Request Answer → Prop
  | .spawn _ => True
  | .step i a => ∀ x, p.threads[i]? = some x → NodeReplies a x ∧ Lawful p a x

/-- The states in which a container is stored while no `Delete` writes. -/
def Settled (state : ContainerState) : Prop := state = .ready ∨ state = .hibernating

/-- The states in which a session is stored. -/
def Lived (state : SessionState) : Prop :=
  state ∈ [SessionState.active, .waitingInput, .streaming, .cancelling, .failed]

/-- The states that an activity has in its hands. -/
def Activity.Stated : Activity → Prop
  | .provision (.upsertContainer c) => c.state = .ready
  | .openSession (.upsertSession _ sess) => sess.state = .active
  | .container (.ensureAgent (.nodeEnsureAgent _ c _))
  | .container (.ensureAgent (.upsertAgentInstance _ c _))
  | .container (.ensureAgent (.upsertContainer _ c _)) => Settled c.state
  | .container (.hibernate (.upsertContainer _ updated)) => updated.state = .hibernating
  | .session (.prompt (.upsertSession req sess _ run)) =>
      sess.state = .streaming ∧ run.state = .dispatching ∧ req.runID = run.id
  | .session (.prompt (.upsertRun req _ _ run)) => run.state = .dispatching ∧ req.runID = run.id
  | .session (.prompt (.publishStarted req _ _ run))
  | .session (.prompt (.nodePrompt req _ _ run)) => req.runID = run.id
  | .session (.prompt (.upsertFailedRun _ run)) => run.state = .failed
  | .session (.prompt (.upsertFailedSession sess _)) => sess.state = .failed
  | .session (.prompt (.upsertFinalRun _ run final)) =>
      final.id = run.id ∧ IsReported final.state
  | .session (.prompt (.upsertFinalSession sess _ final)) =>
      sess.state = if final.state = .failed then .failed else .waitingInput
  | .session (.cancel (.upsertSession _ sess _)) => sess.state = .cancelling
  | _ => True

/-- What is stored of the run of a `Prompt`: nothing before its first write, and `dispatching`
up to its last. -/
def Activity.OwnsRun (s : MemoryStore) : Activity → Prop
  | .session (.prompt (.upsertSession _ _ _ run)) | .session (.prompt (.upsertRun _ _ _ run)) =>
      s.runs.get run.id = none
  | .session (.prompt (.publishStarted _ _ _ run)) | .session (.prompt (.nodePrompt _ _ _ run))
  | .session (.prompt (.upsertFailedRun _ run)) | .session (.prompt (.upsertFinalRun _ run _)) =>
      ∀ row, s.runs.get run.id = some row → row.state = .dispatching
  | _ => True

/-- **The invariant.** -/
structure LifecycleOk (p : Pool World Activity) : Prop where
  containers : ∀ id c, p.shared.store.containers.get id = some c → Settled c.state
  sessions : ∀ id x, p.shared.store.sessions.get id = some x → Lived x.state
  stated : ∀ (i : ℕ) x, p.threads[i]? = some x → x.Stated
  owns : ∀ (i : ℕ) x, p.threads[i]? = some x → x.OwnsRun p.shared.store
  once : ∀ (i j : ℕ) x y id, p.threads[i]? = some x → p.threads[j]? = some y →
    x.runID = some id → y.runID = some id → i = j

section

variable {s t : SessionState}

instance : DecidablePred Lived := fun s => inferInstanceAs (Decidable (s ∈ List.cons _ _))

theorem Settled.valid {s t : ContainerState} (hs : Settled s) (ht : Settled t) :
    validateContainerTransition s t = .ok () := by
  rcases hs with rfl | rfl <;> rcases ht with rfl | rfl <;> rfl

/-- A `Prompt` may begin, and end without a failure, on a session that is neither being
cancelled nor failed. -/
theorem Lived.valid_prompt (h : Lived s) (hs : s ∉ [SessionState.cancelling, .failed])
    (ht : t = .streaming ∨ t = .waitingInput) : validateSessionTransition s t = .ok () := by
  rw [validateSessionTransition_eq_ok]
  rcases ht with rfl | rfl <;> revert h hs <;> cases s <;> decide

theorem Lived.valid_failed (h : Lived s) : validateSessionTransition s .failed = .ok () := by
  rw [validateSessionTransition_eq_ok]
  revert h
  cases s <;> decide

theorem Lived.valid_cancelling (h : Lived s) (hs : s ∉ [SessionState.failed]) :
    validateSessionTransition s .cancelling = .ok () := by
  rw [validateSessionTransition_eq_ok]
  revert h hs
  cases s <;> decide

theorem Lived.valid_active (h : Lived s) (hs : s ∉ [SessionState.waitingInput, .cancelling]) :
    validateSessionTransition s .active = .ok () := by
  rw [validateSessionTransition_eq_ok]
  revert h hs
  cases s <;> decide

theorem isReported_valid {state : RunState} (h : IsReported state) :
    validateRunTransition .dispatching state = .ok () := by
  rcases h with rfl | rfl | rfl | rfl <;> rfl

end

/-- The row follows the one that is stored in its place. -/
def Row.Follows (s : MemoryStore) : Row → Prop
  | .container c =>
      ∀ old, s.containers.get c.id = some old →
        validateContainerTransition old.state c.state = .ok ()
  | .session x =>
      ∀ old, s.sessions.get x.id = some old → validateSessionTransition old.state x.state = .ok ()
  | .run r =>
      ∀ old, s.runs.get r.id = some old → validateRunTransition old.state r.state = .ok ()
  | .agent _ | .audit _ => True

section

variable {a : Answer} {row : Option Row} {s : MemoryStore}

theorem Conforms.refl (s : MemoryStore) : Conforms s s where
  container _ _ _ hc hc' :=
    Option.mem_unique hc hc' ▸ validateContainerTransition_eq_ok.2 (Or.inl rfl)
  session _ _ _ hx hx' :=
    Option.mem_unique hx hx' ▸ validateSessionTransition_eq_ok.2 (Or.inl rfl)
  run _ _ _ hr hr' :=
    Option.mem_unique hr hr' ▸ validateRunTransition_eq_ok.2 (Or.inl rfl)

/-- **A call conforms when its row follows.** -/
theorem conforms_stored (h : a.outcome.took = true → ∀ r, row = some r → r.Follows s) :
    Conforms s (stored a row s) where
  container id c c' hc hc' := by
    rw [stored_containers] at hc'
    rcases storedIn_cases hc' with hold | ⟨hrow, rfl, htook⟩
    · exact (Conforms.refl s).container id c c' hc hold
    · exact h htook _ (RowKind.containers.eq hrow) c hc
  session id x x' hx hx' := by
    rw [stored_sessions] at hx'
    rcases storedIn_cases hx' with hold | ⟨hrow, rfl, htook⟩
    · exact (Conforms.refl s).session id x x' hx hold
    · exact h htook _ (RowKind.sessions.eq hrow) x hx
  run id r r' hr hr' := by
    rw [stored_runs] at hr'
    rcases storedIn_cases hr' with hold | ⟨hrow, rfl, htook⟩
    · exact (Conforms.refl s).run id r r' hr hold
    · exact h htook _ (RowKind.runs.eq hrow) r hr

end

section

variable {p : Pool World Activity} {i : ℕ} {a : Answer} {x x' : Activity}

/-- **The row of a lawful call follows.** -/
theorem LifecycleOk.follows (hok : LifecycleOk p) (hi : p.threads[i]? = some x)
    (hlaw : Lawful p a x) (htook : a.outcome.took = true) {row : Row}
    (hrow : x.writes a = some row) : row.Follows p.shared.store := by
  have hst := hok.stated i x hi
  have hown := hok.owns i x hi
  cases x with
  | provision x =>
      cases x with
      | upsertContainer c =>
          obtain rfl := Option.some.inj hrow
          exact fun old hold => (hok.containers _ old hold).valid (Or.inl hst)
      | appendAudit c =>
          obtain rfl := Option.some.inj hrow
          trivial
      | nodeProvision | returned => cases hrow
  | openSession x =>
      cases x with
      | upsertSession req sess =>
          obtain rfl := Option.some.inj hrow
          intro old hold
          rw [show sess.state = .active from hst]
          exact (hok.sessions _ old hold).valid_active (hlaw htook old hold)
      | appendAudit req sess =>
          obtain rfl := Option.some.inj hrow
          trivial
      | containerNode | nodeOpen | returned => cases hrow
  | container x =>
      cases x with
      | ensureAgent x =>
          cases x with
          | upsertContainer req c agent =>
              obtain rfl := Option.some.inj hrow
              exact fun old hold => (hok.containers _ old hold).valid hst
          | upsertAgentInstance req c agent =>
              obtain rfl := Option.some.inj hrow
              trivial
          | appendAudit req agent =>
              obtain rfl := Option.some.inj hrow
              trivial
          | containerNode | nodeEnsureAgent | returned => cases hrow
      | hibernate x =>
          cases x with
          | upsertContainer c updated =>
              obtain rfl := Option.some.inj hrow
              exact fun old hold => (hok.containers _ old hold).valid (Or.inr hst)
          | containerNode | nodeHibernate | returned => cases hrow
      | delete x =>
          cases x with
          | upsertContainer c =>
              rw [show a.outcome.took = false from hlaw] at htook
              cases htook
          | containerNode | nodeDelete | returned => cases hrow
  | session x =>
      cases x with
      | prompt x =>
          cases x with
          | upsertSession req sess k run =>
              obtain rfl := Option.some.inj hrow
              exact fun old hold =>
                (hok.sessions _ old hold).valid_prompt (hlaw htook old hold) (Or.inl hst.1)
          | upsertRun req sess k run =>
              obtain rfl := Option.some.inj hrow
              intro old hold
              rw [show p.shared.store.runs.get run.id = none from hown] at hold
              cases hold
          | upsertFailedRun sess run =>
              obtain rfl := Option.some.inj hrow
              intro old hold
              rw [hown old hold, show run.state = .failed from hst]
              rfl
          | upsertFailedSession sess run =>
              obtain rfl := Option.some.inj hrow
              intro old hold
              rw [show sess.state = .failed from hst]
              exact (hok.sessions _ old hold).valid_failed
          | upsertFinalRun sess run final =>
              obtain rfl := Option.some.inj hrow
              intro old hold
              rw [hst.1] at hold
              rw [hown old hold]
              exact isReported_valid hst.2
          | upsertFinalSession sess run final =>
              obtain rfl := Option.some.inj hrow
              intro old hold
              have hstate : sess.state =
                  if final.state = .failed then .failed else .waitingInput := hst
              by_cases hf : final.state = .failed
              · rw [hstate, if_pos hf]
                exact (hok.sessions _ old hold).valid_failed
              · rw [hstate, if_neg hf]
                exact (hok.sessions _ old hold).valid_prompt (hlaw htook hf old hold) (Or.inr rfl)
          | appendAudit final =>
              obtain rfl := Option.some.inj hrow
              trivial
          | getSession | containerNode | publishStarted | nodePrompt | returned => cases hrow
      | cancel x =>
          cases x with
          | upsertSession req sess k =>
              obtain rfl := Option.some.inj hrow
              intro old hold
              rw [show sess.state = .cancelling from hst]
              exact (hok.sessions _ old hold).valid_cancelling (hlaw htook old hold)
          | getSession | containerNode | publishCancelling | nodeCancel | returned => cases hrow

/-- **The states that an activity has in its hands after a call.** -/
theorem LifecycleOk.stated_next (hok : LifecycleOk p) (hi : p.threads[i]? = some x)
    (hreplies : NodeReplies a x) (hnext : x.Next p.shared a x') : x'.Stated := by
  have hst := hok.stated i x hi
  cases hnext with
  | provision h =>
      cases h with
      | provisioned req k hnode ho => rfl
      | failed | notStored | stored | audited => trivial
  | openSession h =>
      cases h with
      | opened req k sess ho hreply => exact (hreplies sess hreply).active.1
      | notRead | read | failed | notStored | stored | audited => trivial
  | ensureAgent h =>
      cases h with
      | read req c k hget hnode => exact hok.containers _ c hget
      | ensured | added => exact hst
      | notRead | failed | notStored | known | digested | audited => trivial
  | hibernate h =>
      cases h with
      | hibernated id c k hd ho hget => rfl
      | notRead | read | failed | notStored | stored => trivial
  | delete h => cases h <;> trivial
  | prompt h =>
      cases h with
      | begun req sess k => exact ⟨rfl, rfl, rfl⟩
      | sessionWritten => exact hst.2
      | runWritten => exact hst.2
      | announced | event => exact hst
      | failed | failedRunWritten | runStored => rfl
      | ended req sess k run final ho hreply =>
          obtain ⟨hid, hreported⟩ := (hreplies final hreply).reported
          exact ⟨hid.trans hst, hreported⟩
      | notRead | read | noNode | failedSessionWritten | runNotStored | sessionNotStored
      | sessionStored | audited => trivial
  | cancel h =>
      cases h with
      | begun req sess k => rfl
      | notRead | read | noNode | sessionWritten | announced | ended => trivial

theorem Activity.Stated.run_id {r : Run} (hst : x.Stated) (hrow : x.writes a = some (.run r)) :
    x.runID = some r.id := by
  cases x with
  | provision x => cases x <;> cases hrow
  | openSession x => cases x <;> cases hrow
  | container x =>
      cases x with
      | ensureAgent x => cases x <;> cases hrow
      | hibernate x => cases x <;> cases hrow
      | delete x => cases x <;> cases hrow
  | session x =>
      cases x with
      | prompt x =>
          cases x <;> cases hrow
          · rfl
          · rfl
          · exact congrArg some hst.1.symm
      | cancel x => cases x <;> cases hrow

theorem Activity.OwnsRun.frame {s s' : MemoryStore} (h : x.OwnsRun s)
    (hruns : ∀ id, x.runID = some id → s'.runs.get id = s.runs.get id) : x.OwnsRun s' := by
  unfold Activity.OwnsRun at h ⊢
  split
  case h_7 => trivial
  all_goals
    rw [hruns _ rfl]
    exact h

/-- A call leads to the run id that the activity has, to none, or to a new one. -/
theorem Activity.Next.runID {w : World} (hnext : x.Next w a x') {id : String}
    (hid : x'.runID = some id) :
    x.runID = some id ∨
      ∃ req sess, x = .session (.prompt (.containerNode req sess)) ∧
        id = (Prompt.newRun req sess a).id ∧
          ∃ r, w.containerNode a.outcome sess.containerID = .ok r := by
  cases hnext with
  | provision h => cases hid
  | openSession h => cases hid
  | ensureAgent h => cases hid
  | hibernate h => cases hid
  | delete h => cases hid
  | cancel h => cases hid
  | prompt h =>
      cases h with
      | begun req sess k c hnode =>
          exact Or.inr ⟨req, sess, rfl, (Option.some.inj hid).symm, _, hnode⟩
      | sessionWritten | runWritten | announced | event | failed | ended => exact Or.inl hid
      | notRead | read | noNode | failedRunWritten | failedSessionWritten | runNotStored
      | runStored | sessionNotStored | sessionStored | audited => cases hid

/-- **The run of an activity after a call.** -/
theorem LifecycleOk.owns_next (hok : LifecycleOk p) (hi : p.threads[i]? = some x)
    (hlaw : Lawful p a x) (hnext : x.Next p.shared a x') :
    x'.OwnsRun (stored a (x.writes a) p.shared.store) := by
  have hst := hok.stated i x hi
  have hown := hok.owns i x hi
  cases hnext with
  | provision h => cases h <;> trivial
  | openSession h => cases h <;> trivial
  | ensureAgent h => cases h <;> trivial
  | hibernate h => cases h <;> trivial
  | delete h => cases h <;> trivial
  | cancel h => cases h <;> trivial
  | prompt h =>
      cases h with
      | begun req sess k c hnode => exact (hlaw ⟨_, hnode⟩).1
      | sessionWritten req sess k run =>
          have hruns : (stored a (some (.session sess)) p.shared.store).runs =
              p.shared.store.runs := stored_runs ..
          show (stored a (some (.session sess)) p.shared.store).runs.get run.id = none
          rw [hruns]
          exact hown
      | runWritten req sess k run =>
          intro row hrow
          rw [stored_runs] at hrow
          rcases storedIn_cases hrow with hold | ⟨hnew, -, -⟩
          · rw [show p.shared.store.runs.get run.id = none from hown] at hold
            cases hold
          · obtain rfl := Option.some.inj hnew
            exact hst.1
      | announced | event | failed | ended => exact hown
      | notRead | read | noNode | failedRunWritten | failedSessionWritten | runNotStored
      | runStored | sessionNotStored | sessionStored | audited => trivial

theorem Activity.Stated.settled (hst : x.Stated) (hlaw : Lawful p a x)
    (htook : a.outcome.took = true) {c : Container} (hrow : x.writes a = some (.container c)) :
    Settled c.state := by
  cases x with
  | provision x =>
      cases x <;> cases hrow
      exact Or.inl hst
  | openSession x => cases x <;> cases hrow
  | container x =>
      cases x with
      | ensureAgent x =>
          cases x <;> cases hrow
          exact hst
      | hibernate x =>
          cases x <;> cases hrow
          exact Or.inr hst
      | delete x =>
          cases x <;> cases hrow
          rw [show a.outcome.took = false from hlaw] at htook
          cases htook
  | session x =>
      cases x with
      | prompt x => cases x <;> cases hrow
      | cancel x => cases x <;> cases hrow

/-- A session row that a call writes is in one of the states of stored sessions. -/
theorem Activity.Stated.lived (hst : x.Stated) {sess : Session}
    (hrow : x.writes a = some (.session sess)) : Lived sess.state := by
  cases x with
  | provision x => cases x <;> cases hrow
  | openSession x =>
      cases x <;> cases hrow
      rw [show sess.state = .active from hst]
      decide
  | container x =>
      cases x with
      | ensureAgent x => cases x <;> cases hrow
      | hibernate x => cases x <;> cases hrow
      | delete x => cases x <;> cases hrow
  | session x =>
      cases x with
      | prompt x =>
          cases x <;> cases hrow
          · rw [hst.1]
            decide
          · rw [show sess.state = .failed from hst]
            decide
          · next run final =>
              rw [show sess.state = if final.state = .failed then .failed else .waitingInput
                from hst]
              split_ifs <;> decide
      | cancel x =>
          cases x <;> cases hrow
          rw [show sess.state = .cancelling from hst]
          decide

/-- **A lawful call conforms**, and keeps the invariant. -/
theorem LifecycleOk.call {w' : World} (hok : LifecycleOk p) (hi : p.threads[i]? = some x)
    (hreplies : NodeReplies a x) (hlaw : Lawful p a x) (hs : x.step p.shared a = some (w', x')) :
    Conforms p.shared.store w'.store ∧
      LifecycleOk { shared := w', threads := p.threads.set i x' } := by
  obtain ⟨hnext, hstore⟩ := Activity.step_spec hs
  have hst := hok.stated i x hi
  -- the run rows of the other activities are not written
  have hothers : ∀ (j : ℕ) y id, j ≠ i → p.threads[j]? = some y → y.runID = some id →
      w'.store.runs.get id = p.shared.store.runs.get id := by
    intro j y id hji hj hid
    rw [hstore, stored_runs]
    cases hr : (x.writes a).bind Row.run? with
    | none => rfl
    | some r =>
        have hxid := hst.run_id (RowKind.runs.eq hr)
        have hne : id ≠ r.id := by
          rintro rfl
          exact hji (hok.once j i y x _ hj hi hid hxid)
        unfold storedIn
        dsimp only
        split_ifs
        · exact Table.get_upsert_of_ne _ hne
        · rfl
  refine ⟨?_, ?_, ?_, ?_, ?_, ?_⟩
  · rw [hstore]
    exact conforms_stored fun htook row hrow => hok.follows hi hlaw htook hrow
  · intro id c hc
    rw [hstore, stored_containers] at hc
    rcases storedIn_cases hc with hold | ⟨hrow, -, htook⟩
    · exact hok.containers id c hold
    · exact hst.settled hlaw htook (RowKind.containers.eq hrow)
  · intro id sess hsess
    rw [hstore, stored_sessions] at hsess
    rcases storedIn_cases hsess with hold | ⟨hrow, -, -⟩
    · exact hok.sessions id sess hold
    · exact hst.lived (RowKind.sessions.eq hrow)
  · intro j y hj
    rcases getElem?_set_cases hj with ⟨-, rfl⟩ | ⟨-, hj⟩
    · exact hok.stated_next hi hreplies hnext
    · exact hok.stated j y hj
  · intro j y hj
    rcases getElem?_set_cases hj with ⟨-, rfl⟩ | ⟨hji, hj⟩
    · rw [hstore]
      exact hok.owns_next hi hlaw hnext
    · exact (hok.owns j y hj).frame fun id hid => hothers j y id hji hj hid
  · -- a run id that the call takes is free, and the others are as they were
    have hnew : ∀ (j : ℕ) y id, j ≠ i → p.threads[j]? = some y → x'.runID = some id →
        y.runID ≠ some id := by
      intro j y id hji hj hid hyid
      rcases hnext.runID hid with hxid | ⟨req, sess, rfl, rfl, hnode⟩
      · exact hji (hok.once j i y x id hj hi hyid hxid)
      · exact (hlaw hnode).2 y (List.mem_of_getElem? hj) hyid
    intro j j' y y' id hj hj' hid hid'
    rcases getElem?_set_cases hj with ⟨rfl, rfl⟩ | ⟨hji, hold⟩
    · rcases getElem?_set_cases hj' with ⟨rfl, -⟩ | ⟨hji', hold'⟩
      · rfl
      · exact absurd hid' (hnew j' y' id hji' hold' hid)
    · rcases getElem?_set_cases hj' with ⟨rfl, rfl⟩ | ⟨-, hold'⟩
      · exact absurd hid (hnew j y id hji hold hid')
      · exact hok.once j j' y y' id hold hold' hid hid'

theorem Request.start_stated (req : Request) :
    req.start.Stated ∧ req.start.runID = none ∧ ∀ s, req.start.OwnsRun s := by
  cases req <;> exact ⟨trivial, rfl, fun _ => trivial⟩

/-- **A step of the activities**, when it is lawful. -/
theorem LifecycleOk.step {q : Pool World Activity} {l : PoolLabel Request Answer}
    (hok : LifecycleOk p) (hl : LawfulStep p l) (hq : p.step activityMachine l = some q) :
    Conforms p.shared.store q.shared.store ∧ LifecycleOk q := by
  cases l with
  | spawn req =>
      obtain ⟨x, hx, rfl⟩ := Pool.step_spawn.1 hq
      obtain rfl := Option.some.inj hx
      obtain ⟨hst, hid, hown⟩ := req.start_stated
      refine ⟨Conforms.refl _, hok.containers, hok.sessions, ?_, ?_, ?_⟩
      · intro j y hj
        rcases getElem?_concat_cases hj with ⟨-, rfl⟩ | hj
        · exact hst
        · exact hok.stated j y hj
      · intro j y hj
        rcases getElem?_concat_cases hj with ⟨-, rfl⟩ | hj
        · exact hown _
        · exact hok.owns j y hj
      · intro j j' y y' id hj hj' hjid hjid'
        rcases getElem?_concat_cases hj with ⟨-, rfl⟩ | hj
        · rw [hid] at hjid
          cases hjid
        · rcases getElem?_concat_cases hj' with ⟨-, rfl⟩ | hj'
          · rw [hid] at hjid'
            cases hjid'
          · exact hok.once j j' y y' id hj hj' hjid hjid'
  | step i a =>
      obtain ⟨x, w', x', hi, hrun, rfl⟩ := Pool.step_run.1 hq
      obtain ⟨hreplies, hlaw⟩ := hl x hi
      exact hok.call hi hreplies hlaw hrun

theorem LifecycleOk.new {w : World} (hw : w.store = {}) : LifecycleOk ⟨w, []⟩ where
  containers id c hc := by
    rw [hw] at hc
    cases hc
  sessions id x hx := by
    rw [hw] at hx
    cases hx
  stated i x hx := by cases hx
  owns i x hx := by cases hx
  once i j x y id hx := by cases hx

end

/-- **Lawful activities keep to the lifecycles.**  In every run of the activities from an empty
store, whatever their order and whatever fails, in which the nodes reply what a node can
reply and every call is lawful, each call changes the states of the rows only as
`control/state.go` allows. -/
theorem lifecycle_conforms_of_lawful {w : World} (hw : w.store = {})
    {l l' : List (PoolLabel Request Answer)} {lab : PoolLabel Request Answer}
    {p q : Pool World Activity} (hl : Along (Pool.step activityMachine) LawfulStep ⟨w, []⟩ l)
    (hl' : l' ++ [lab] <+: l) (hp : exec (Pool.step activityMachine) ⟨w, []⟩ l' = some p)
    (hq : p.step activityMachine lab = some q) : Conforms p.shared.store q.shared.store := by
  obtain ⟨rest, rfl⟩ := hl'
  rw [List.append_assoc] at hl
  have hok := exec_invariant (fun _ _ _ hok hC hs => (LifecycleOk.step hok hC hs).2)
    (LifecycleOk.new hw) hl.of_append hp
  exact (hok.step (hl.here hp) hq).1

section

variable {p : Pool World Activity} {l : List (PoolLabel Request Answer)}

theorem along_spawn (req : Request)
    (h : Along (Pool.step activityMachine) LawfulStep
      { p with threads := p.threads ++ [req.start] } l) :
    Along (Pool.step activityMachine) LawfulStep p (.spawn req :: l) :=
  ⟨trivial, fun _ ht => Option.some.inj ht ▸ h⟩

/-- A run goes on with a lawful call. -/
theorem along_call {i : ℕ} {a : Answer} {x x' : Activity} {w' : World}
    (hi : p.threads[i]? = some x) (hs : x.step p.shared a = some (w', x'))
    (hC : NodeReplies a x ∧ Lawful p a x)
    (h : Along (Pool.step activityMachine) LawfulStep ⟨w', p.threads.set i x'⟩ l) :
    Along (Pool.step activityMachine) LawfulStep p (.step i a :: l) := by
  refine ⟨fun y hy => Option.mem_unique hi hy ▸ hC, fun t ht => ?_⟩
  have hq := Pool.step_run (M := activityMachine) |>.2 ⟨x, w', x', hi, hs, rfl⟩
  exact Option.mem_unique hq ht ▸ h

end

/-- A call of activity `i` that goes through. -/
def called (i : ℕ) (reply : Reply) : PoolLabel Request Answer :=
  .step i { now := 9, raw := "1", reply }

/-- A container is provisioned and a session opened in it. -/
def opensSession : List (PoolLabel Request Answer) :=
  [.spawn (.provisionContainer { id := "ctr_1" }), called 0 .none, called 0 .none, called 0 .none,
    .spawn (.createSession { containerID := "ctr_1", agentInstanceID := "agent_1" }),
    called 1 .none, called 1 (.session openedSession), called 1 .none, called 1 .none]

/-- The session is prompted, the run completes, and the container hibernates. -/
def promptsSession : List (PoolLabel Request Answer) :=
  [.spawn (.prompt { sessionID := "sess_1", runID := "run_1" }), called 2 .none, called 2 .none,
    called 2 .none, called 2 .none, called 2 .none, called 2 (.run completedRun), called 2 .none,
    called 2 .none, called 2 .none, .spawn (.hibernate "ctr_1"), called 3 .none, called 3 .none,
    called 3 .none]

/-- The manager's part in the opening of the session. -/
def managerOpens : List ManagerLabel :=
  [ensure "echo" "sha256:1", callStep 0 .lookup, callStep 0 (.started none "1" 1),
    callStep 0 (.answered (.ok {}) 2), callStep 0 .insert, callStep 0 .snapshot,
    .calls (.spawn (.session
      (.create { containerID := "ctr_1", agentInstanceID := "agent_1" }))),
    callStep 1 (.agentByID "1"), callStep 1 (.answered (.ok {}) 3), callStep 1 .insert]

theorem openedSession_reply :
    SessionReply (.create { containerID := "ctr_1", agentInstanceID := "agent_1" })
      openedSession := by
  obtain ⟨p, hp, hthread⟩ := Option.bind_eq_some_iff.1
    (show (exec managerStep ⟨newManager "ctr_1" [], []⟩ managerOpens).bind (·.threads[1]?) =
      some (.session _ (.returned (.ok openedSession))) from rfl)
  exact .intro hp (List.mem_of_getElem? hthread)

/-- A session that is opened and prompted keeps to what is lawful. -/
theorem promptsSession_lawful :
    Along (Pool.step activityMachine) LawfulStep ⟨emptyWorld, []⟩
      (opensSession ++ promptsSession) := by
  -- the container
  refine along_spawn _ (along_call rfl rfl ⟨trivial, trivial⟩ ?_)
  refine along_call rfl rfl ⟨trivial, trivial⟩ (along_call rfl rfl ⟨trivial, trivial⟩ ?_)
  -- the session
  refine along_spawn _ (along_call rfl rfl ⟨trivial, trivial⟩ ?_)
  refine along_call rfl rfl ⟨fun s hs => Reply.session.inj hs ▸ openedSession_reply, trivial⟩ ?_
  refine along_call rfl rfl ⟨trivial, fun _ row hrow => by cases hrow⟩ ?_
  refine along_call rfl rfl ⟨trivial, trivial⟩ ?_
  -- the prompt
  refine along_spawn _ (along_call rfl rfl ⟨trivial, trivial⟩ ?_)
  refine along_call rfl rfl ⟨trivial, fun _ => ⟨rfl, by decide⟩⟩ ?_
  refine along_call rfl rfl ⟨trivial, fun _ row hrow => ?_⟩ ?_
  · obtain rfl := Option.some.inj hrow
    decide
  refine along_call rfl rfl ⟨trivial, trivial⟩ (along_call rfl rfl ⟨trivial, trivial⟩ ?_)
  refine along_call rfl rfl
    ⟨fun r hr => Reply.run.inj hr ▸ completedRun_reply.promptReply rfl, trivial⟩ ?_
  refine along_call rfl rfl ⟨trivial, trivial⟩ ?_
  refine along_call rfl rfl ⟨trivial, fun _ _ row hrow => ?_⟩ ?_
  · obtain rfl := Option.some.inj hrow
    decide
  refine along_call rfl rfl ⟨trivial, trivial⟩ ?_
  -- the container again
  refine along_spawn _ (along_call rfl rfl ⟨trivial, trivial⟩ ?_)
  exact along_call rfl rfl ⟨trivial, trivial⟩ (along_call rfl rfl ⟨trivial, trivial⟩ trivial)

/-- `lifecycle_conforms_of_lawful` applies to the end of the prompt. -/
theorem promptsSession_conforms :
    ∃ p ∈ exec (Pool.step activityMachine) ⟨emptyWorld, []⟩
        (opensSession ++ promptsSession.take 8),
      ∃ q ∈ p.step activityMachine (called 2 .none),
        Conforms p.shared.store q.shared.store := by
  have hprefix : opensSession ++ promptsSession.take 8 ++ [called 2 .none] <+:
      opensSession ++ promptsSession := ⟨promptsSession.drop 9, rfl⟩
  obtain ⟨p, hp, q, hq⟩ : ∃ p ∈ exec (Pool.step activityMachine) ⟨emptyWorld, []⟩
      (opensSession ++ promptsSession.take 8), ∃ q, q ∈ p.step activityMachine (called 2 .none) :=
    ⟨_, rfl, _, rfl⟩
  exact ⟨p, hp, q, hq, lifecycle_conforms_of_lawful rfl promptsSession_lawful hprefix hp hq⟩

/-- A container is provisioned, and a `Delete` comes as far as its row. -/
def deletesContainer : List (PoolLabel Request Answer) :=
  [.spawn (.provisionContainer { id := "ctr_1" }), called 0 .none, called 0 .none, called 0 .none,
    .spawn (.delete "ctr_1"), called 1 .none, called 1 .none]

/-- A session is prompted, cancelled before the agent has ended, and the `Prompt` comes as far
as its last row of the session. -/
def cancelsPrompt : List (PoolLabel Request Answer) :=
  opensSession ++
    [.spawn (.prompt { sessionID := "sess_1", runID := "run_1" }), called 2 .none, called 2 .none,
      called 2 .none, called 2 .none, called 2 .none,
      .spawn (.cancel { sessionID := "sess_1", runID := "run_1" }), called 3 .none,
      called 3 .none, called 3 .none, called 2 (.run completedRun), called 2 .none]

/-- **`Delete` and `Cancel` leave the tables.**  The row of a container goes from `ready` to
`deleted`, and that of a session from `cancelling` to `waiting_input`. -/
theorem deletesContainer_leaves_lifecycle :
    (∃ p ∈ exec (Pool.step activityMachine) ⟨emptyWorld, []⟩ deletesContainer,
      ∃ q ∈ p.step activityMachine (called 1 .none), ¬Conforms p.shared.store q.shared.store) ∧
    ∃ p ∈ exec (Pool.step activityMachine) ⟨emptyWorld, []⟩ cancelsPrompt,
      ∃ q ∈ p.step activityMachine (called 2 .none), ¬Conforms p.shared.store q.shared.store := by
  refine ⟨⟨_, rfl, _, rfl, fun h => ?_⟩, _, rfl, _, rfl, fun h => ?_⟩
  · have hdelete : validateContainerTransition .ready .deleted = .ok () :=
      h.container "ctr_1" _ _ rfl rfl
    cases hdelete
  · have hcancel : validateSessionTransition .cancelling .waitingInput = .ok () :=
      h.session "sess_1" _ _ rfl rfl
    cases hcancel

end Workflows
end Agentd
