/-
# Sessions and the runs they execute

A session row in state `streaming` or `cancelling` says that the run in
`ActiveRunID` is being executed, and the `Prompt` activities are what executes
runs.  This is a lease: the row is the table's record of it, the activity is the
holder.  `Prompt` takes the lease with its first session write and gives it back
with its last; `Cancel` writes the record again.

None of the three writes looks at the row it overwrites.  So a `Cancel` of a
session at rest leaves it `cancelling` with no run (`idleCancel_strands_session`),
and of two `Prompt`s that overlap the first to end takes the other's record away
(`overlappingPrompts_lose_run`).  `sessionsConsistent_of_inTurn` says that under
the conditions of the lease rules the records and the activities agree.
-/

import Agentd.Workflows.ActivitySteps
import Agentd.Concurrency.Lease

namespace Agentd
namespace Workflows

open Control Store NodeRuntime Concurrency

/-- A call of an activity on a session. -/
inductive SessionCall
  | prompt (req : PromptRequest)
  | cancel (req : CancelRequest)

/-- The activity, at its first call. -/
def SessionCall.activity : SessionCall → SessionActivity
  | .prompt req => .prompt (.getSession req)
  | .cancel req => .cancel (.getSession req)

/-- `Prompt` and `Cancel` activities on any sessions. -/
def sessionMachine : Machine World SessionActivity SessionCall Answer where
  start _ b := some b.activity
  run _ w x a := x.step w a

/-- The row says that a run is being executed. -/
def Busy (sess : Session) : Prop := sess.state = .streaming ∨ sess.state = .cancelling

instance : DecidablePred Busy := fun _ => inferInstanceAs (Decidable (_ ∨ _))

/-- The rows and the activities agree: the run of a busy session is executed by
some `Prompt`, and the session of a `Prompt` that executes a run is busy, with
an `ActiveRunID`. -/
def SessionsConsistent (p : Pool World SessionActivity) : Prop :=
  (∀ id sess, p.shared.store.sessions.get id = some sess → Busy sess →
      ∃ x ∈ p.threads, x.executing = some (id, sess.activeRunID)) ∧
    ∀ x ∈ p.threads, ∀ id run, x.executing = some (id, run) →
      ∃ sess, p.shared.store.sessions.get id = some sess ∧ Busy sess ∧ sess.activeRunID ≠ ""

/-- When an activity may write the session row.  A `Prompt` starts a run only
while no `Prompt` executes one on the session, and a `Cancel` writes back a copy
only while the run the copy names is being executed. -/
def MayWrite (threads : List SessionActivity) : SessionActivity → Prop
  | .prompt (.upsertSession _ sess _ _) =>
      ∀ y ∈ threads, ∀ e ∈ y.executing, e.1 ≠ sess.id
  | .cancel (.upsertSession _ sess _) =>
      ∃ y ∈ threads, y.executing = some (sess.id, sess.activeRunID)
  | _ => True

instance (threads : List SessionActivity) : DecidablePred (MayWrite threads)
  | .prompt (.upsertSession ..) => inferInstanceAs (Decidable (∀ y ∈ threads, ∀ e ∈ _, _))
  | .cancel (.upsertSession ..) => inferInstanceAs (Decidable (∃ y ∈ threads, _))
  | .prompt (.getSession _) | .prompt (.containerNode ..) | .prompt (.upsertRun ..)
  | .prompt (.publishStarted ..) | .prompt (.nodePrompt ..) | .prompt (.upsertFailedRun ..)
  | .prompt (.upsertFailedSession ..) | .prompt (.upsertFinalRun ..)
  | .prompt (.upsertFinalSession ..) | .prompt (.appendAudit _) | .prompt (.returned _)
  | .cancel (.getSession _) | .cancel (.containerNode ..) | .cancel (.publishCancelling ..)
  | .cancel (.nodeCancel ..) | .cancel (.returned _) => isTrue trivial

/-- Store writes succeed, and session rows are written only when they may be. -/
def RunsInTurn (p : Pool World SessionActivity) : PoolLabel SessionCall Answer → Prop
  | .spawn _ => True
  | .step i a => ∀ x ∈ p.threads[i]?,
      (x.atStoreWrite = true → a.outcome = .ok) ∧ MayWrite p.threads x

instance (p : Pool World SessionActivity) : DecidablePred (RunsInTurn p)
  | .spawn _ => isTrue trivial
  | .step i _ => inferInstanceAs (Decidable (∀ x ∈ p.threads[i]?, (_ → _) ∧ _))

/-- No session is busy. -/
def AtRest (w : World) : Prop :=
  ∀ id sess, w.store.sessions.get id = some sess → ¬Busy sess

/-- The run that a row records as being executed. -/
def recorded (sess : Session) : Option String :=
  if Busy sess then some sess.activeRunID else none

/-- The record of every session. -/
def lease (w : World) (id : String) : Option String :=
  (w.store.sessions.get id).bind recorded

theorem lease_eq_of_sessions {w w' : World} (h : w'.store.sessions = w.store.sessions) :
    lease w' = lease w := by
  funext id
  unfold lease
  rw [h]

theorem lease_of_upsert {w w' : World} {sess : Session}
    (h : w'.store.sessions = w.store.sessions.upsert sess) :
    lease w' = Function.update (lease w) sess.id (recorded sess) := by
  funext id
  unfold lease
  rw [h]
  by_cases hid : id = sess.id
  · rw [hid, Function.update_self]
    exact congrArg (Option.bind · recorded) (Table.get_upsert_self w.store.sessions sess)
  · rw [Function.update_of_ne hid, Table.get_upsert_of_ne _ hid]

theorem lease_eq_some {w : World} {id run : String} (h : lease w id = some run) :
    ∃ sess, w.store.sessions.get id = some sess ∧ Busy sess ∧ sess.activeRunID = run := by
  obtain ⟨sess, hget, hrec⟩ := Option.bind_eq_some_iff.1 h
  obtain ⟨hbusy, hrun⟩ := Option.ite_none_right_eq_some.1 hrec
  exact ⟨sess, hget, hbusy, Option.some.inj hrun⟩

theorem lease_of_busy {w : World} {id : String} {sess : Session}
    (hget : w.store.sessions.get id = some sess) (hb : Busy sess) :
    lease w id = some sess.activeRunID := by
  unfold lease
  rw [hget]
  exact if_pos hb

/-- What holds of a `Prompt` at each of its calls: its run has an id, and the
row it is about to write says what the write is for. -/
def Prompt.RowOk : Prompt → Prop
  | .upsertSession _ sess _ run =>
      run.id ≠ "" ∧ sess.state = .streaming ∧ sess.activeRunID = run.id
  | .upsertRun _ _ _ run | .publishStarted _ _ _ run | .nodePrompt _ _ _ run
  | .upsertFailedRun _ run | .upsertFinalRun _ run _ => run.id ≠ ""
  | .upsertFailedSession sess run | .upsertFinalSession sess run _ => run.id ≠ "" ∧ ¬Busy sess
  | _ => True

/-- What holds of an activity at each of its calls. -/
def SessionActivity.RowOk : SessionActivity → Prop
  | .prompt x => x.RowOk
  | .cancel (.upsertSession _ sess _) => sess.state = .cancelling
  | .cancel _ => True

/-- A step of an activity, as a step on the leases: it leaves them, takes one,
gives its own back, or writes a record again. -/
inductive LeaseStep (w w' : World) (x x' : SessionActivity) : Prop
  | keep (hs : lease w' = lease w) (hx : x'.executing = x.executing)
  | acquire (id run : String) (hx : x.executing = none) (hx' : x'.executing = some (id, run))
      (hs : lease w' = Function.update (lease w) id (some run))
      (hfree : ∀ threads, MayWrite threads x → ∀ y ∈ threads, ∀ e ∈ y.executing, e.1 ≠ id)
  | release (id run : String) (hx : x.executing = some (id, run)) (hx' : x'.executing = none)
      (hs : lease w' = Function.update (lease w) id none)
  | renew (id run : String) (hx : x'.executing = x.executing)
      (hs : lease w' = Function.update (lease w) id (some run))
      (hheld : ∀ threads, MayWrite threads x → ∃ y ∈ threads, y.executing = some (id, run))

section

variable {w w' : World} {a : Answer}

/-- A write that takes effect, when the store answers `ok`. -/
theorem sessions_of_ok {sess : Session} (ho : a.outcome = .ok)
    (h : w'.store.sessions =
      if a.outcome.took then w.store.sessions.upsert sess else w.store.sessions) :
    w'.store.sessions = w.store.sessions.upsert sess := by
  have htook : a.outcome.took = true := by rw [ho]; rfl
  rwa [if_pos htook] at h

theorem Prompt.not_busy_ended (sess : Session) (final : Run) (now : Time) :
    ¬Busy (Prompt.ended sess final now) := by
  show ¬((if final.state = .failed then SessionState.failed else .waitingInput) = .streaming ∨
    (if final.state = .failed then SessionState.failed else .waitingInput) = .cancelling)
  split_ifs <;> decide

/-- **One step of `Prompt`, on the leases.** -/
theorem Prompt.leaseStep {x x' : Prompt} (h : x.step w a = some (w', x')) (hx : x.RowOk)
    (ho : (SessionActivity.prompt x).atStoreWrite = true → a.outcome = .ok) :
    x'.RowOk ∧ LeaseStep w w' (.prompt x) (.prompt x') := by
  obtain ⟨hnext, hstore⟩ := Prompt.step_next h
  have hs := (congrArg MemoryStore.sessions hstore).trans (stored_sessions ..)
  cases hnext with
  | notRead | read | noNode | audited => exact ⟨trivial, .keep (lease_eq_of_sessions hs) rfl⟩
  | begun req sess k =>
      exact ⟨⟨Prompt.newRun_id_ne_empty req sess a, rfl, rfl⟩, .keep (lease_eq_of_sessions hs) rfl⟩
  | sessionWritten req sess k run =>
      obtain ⟨hrun, hstate, hactive⟩ := hx
      have hbusy : Busy sess := Or.inl hstate
      have hrec : recorded sess = some run.id := by
        unfold recorded
        rw [if_pos hbusy, hactive]
      refine ⟨hrun, .acquire sess.id run.id rfl rfl ?_ fun threads hmay => hmay⟩
      rw [lease_of_upsert (sessions_of_ok (ho rfl) hs), hrec]
  | runWritten | announced | event | failed | ended =>
      exact ⟨hx, .keep (lease_eq_of_sessions hs) rfl⟩
  | failedRunWritten sess run =>
      have hfailed : ¬Busy (Prompt.failed sess a.now) := by
        rintro (hst | hst) <;> cases hst
      exact ⟨⟨hx, hfailed⟩, .keep (lease_eq_of_sessions hs) rfl⟩
  | failedSessionWritten sess run =>
      have hrec : recorded sess = none := if_neg hx.2
      refine ⟨trivial, .release sess.id run.id rfl rfl ?_⟩
      rw [lease_of_upsert (sessions_of_ok (ho rfl) hs), hrec]
  | runNotStored sess run final e he =>
      -- the store answered `ok`, so there is no error
      rw [ho rfl] at he
      cases he
  | runStored sess run final =>
      exact ⟨⟨hx, Prompt.not_busy_ended sess final a.now⟩, .keep (lease_eq_of_sessions hs) rfl⟩
  | sessionNotStored sess run final | sessionStored sess run final =>
      have hrec : recorded sess = none := if_neg hx.2
      refine ⟨trivial, .release sess.id run.id rfl rfl ?_⟩
      rw [lease_of_upsert (sessions_of_ok (ho rfl) hs), hrec]

/-- **One step of `Cancel`, on the leases.** -/
theorem Cancel.leaseStep {x x' : Cancel} (h : x.step w a = some (w', x'))
    (hx : (SessionActivity.cancel x).RowOk)
    (ho : (SessionActivity.cancel x).atStoreWrite = true → a.outcome = .ok) :
    (SessionActivity.cancel x').RowOk ∧ LeaseStep w w' (.cancel x) (.cancel x') := by
  obtain ⟨hnext, hstore⟩ := Cancel.step_next h
  have hs := (congrArg MemoryStore.sessions hstore).trans (stored_sessions ..)
  cases hnext with
  | notRead | read | noNode | announced | ended =>
      exact ⟨trivial, .keep (lease_eq_of_sessions hs) rfl⟩
  | begun => exact ⟨rfl, .keep (lease_eq_of_sessions hs) rfl⟩
  | sessionWritten req sess k =>
      have hrec : recorded sess = some sess.activeRunID := if_pos (Or.inr hx)
      refine ⟨trivial, .renew sess.id sess.activeRunID rfl ?_ fun threads hmay => hmay⟩
      rw [lease_of_upsert (sessions_of_ok (ho rfl) hs), hrec]

/-- **One step of an activity, on the leases.** -/
theorem SessionActivity.leaseStep {x x' : SessionActivity} (h : x.step w a = some (w', x'))
    (hx : x.RowOk) (ho : x.atStoreWrite = true → a.outcome = .ok) :
    x'.RowOk ∧ LeaseStep w w' x x' := by
  cases x with
  | prompt x =>
      obtain ⟨v, y, hy, rfl, rfl⟩ := map_eq_some_pair h
      exact Prompt.leaseStep hy hx ho
  | cancel x =>
      obtain ⟨v, y, hy, rfl, rfl⟩ := map_eq_some_pair h
      exact Cancel.leaseStep hy hx ho

end

theorem SessionActivity.RowOk.run_ne_empty {x : SessionActivity} {id run : String} (hx : x.RowOk)
    (h : x.executing = some (id, run)) : run ≠ "" := by
  cases x with
  | cancel x => cases h
  | prompt x =>
      cases x with
      | getSession req | containerNode req sess | upsertSession req sess node run
      | appendAudit final | returned res => cases h
      | upsertRun req sess node run | publishStarted req sess node run
      | nodePrompt req sess node run | upsertFailedRun sess run | upsertFinalRun sess run final =>
          exact (some_pair_inj h).2 ▸ hx
      | upsertFailedSession sess run | upsertFinalSession sess run final =>
          exact (some_pair_inj h).2 ▸ hx.1

/-- The invariant: each activity is as it should be, and the leases are
exclusive. -/
structure LeasesOk (p : Pool World SessionActivity) : Prop where
  rowOk : ∀ (i : ℕ) x, p.threads[i]? = some x → x.RowOk
  leases : Exclusive (p.view SessionActivity.executing) (lease p.shared)

theorem view_eq_some {p : Pool World SessionActivity} {i : ℕ} {e : String × String}
    (h : p.view SessionActivity.executing i = some e) : ∃ x ∈ p.threads, x.executing = some e := by
  obtain ⟨x, hx, he⟩ := Option.bind_eq_some_iff.1 h
  exact ⟨x, List.mem_of_getElem? hx, he⟩

theorem exists_view {p : Pool World SessionActivity} {x : SessionActivity} {e : String × String}
    (hx : x ∈ p.threads) (he : x.executing = some e) :
    ∃ i, p.view SessionActivity.executing i = some e := by
  obtain ⟨i, hi⟩ := List.mem_iff_getElem?.1 hx
  exact ⟨i, Option.bind_eq_some_iff.2 ⟨x, hi, he⟩⟩

/-- **A step that keeps to the lease rules keeps the leases exclusive.** -/
theorem LeasesOk.step {p q : Pool World SessionActivity} {l : PoolLabel SessionCall Answer}
    (hp : LeasesOk p) (hC : RunsInTurn p l) (hq : p.step sessionMachine l = some q) :
    LeasesOk q := by
  cases l with
  | spawn b =>
      obtain ⟨t, ht, rfl⟩ := Pool.step_spawn.1 hq
      obtain rfl := Option.some.inj ht
      have hnone : b.activity.executing = none := by cases b <;> rfl
      refine ⟨fun i x hx => ?_, ?_⟩
      · rcases getElem?_concat_cases hx with ⟨-, rfl⟩ | hx
        · cases b <;> trivial
        · exact hp.rowOk i x hx
      · rw [Pool.view_spawn p hnone]
        exact hp.leases
  | step i a =>
      obtain ⟨x, w', x', hi, hrun, rfl⟩ := Pool.step_run.1 hq
      obtain ⟨ho, hmay⟩ := hC x hi
      obtain ⟨hok, hlease⟩ := SessionActivity.leaseStep hrun (hp.rowOk i x hi) ho
      have hview : p.view SessionActivity.executing i = x.executing := Pool.view_eq hi
      refine ⟨fun j y hy => ?_, ?_⟩
      · rcases getElem?_set_cases hy with ⟨-, rfl⟩ | ⟨-, hy⟩
        · exact hok
        · exact hp.rowOk j y hy
      · rw [Pool.view_set w' hi]
        cases hlease with
        | keep hs hx =>
            rw [hx, ← hview, Function.update_eq_self, show lease w' = lease p.shared from hs]
            exact hp.leases
        | acquire id run hx hx' hs hfree =>
            rw [hx', show lease w' = _ from hs]
            refine hp.leases.acquire (hview.trans hx) fun j r' hj => ?_
            obtain ⟨y, hy, he⟩ := view_eq_some hj
            exact hfree p.threads hmay y hy (id, r') he rfl
        | release id run hx hx' hs =>
            rw [hx', show lease w' = _ from hs]
            exact hp.leases.release (hview.trans hx)
        | renew id run hx hs hheld =>
            obtain ⟨y, hy, he⟩ := hheld p.threads hmay
            rw [hx, ← hview, Function.update_eq_self, show lease w' = _ from hs]
            exact hp.leases.renew (exists_view hy he)

/-- **Runs in turn keep the sessions consistent.**  Start with no session busy.
In every run along which store writes succeed, a `Prompt` starts only while none
executes a run on its session, and a `Cancel` writes only while the run it read
is being executed, the rows and the activities agree in the state reached. -/
theorem sessionsConsistent_of_inTurn {w : World} {p : Pool World SessionActivity}
    {l : List (PoolLabel SessionCall Answer)} (hw : AtRest w)
    (hl : Along (Pool.step sessionMachine) RunsInTurn ⟨w, []⟩ l)
    (h : exec (Pool.step sessionMachine) ⟨w, []⟩ l = some p) : SessionsConsistent p := by
  have hlease : ∀ id, lease w id = none := by
    intro id
    rw [Option.eq_none_iff_forall_ne_some]
    intro run hrun
    obtain ⟨sess, hget, hbusy, -⟩ := lease_eq_some hrun
    exact hw id sess hget hbusy
  have hinit : LeasesOk ⟨w, []⟩ :=
    ⟨fun i x hx => by simp at hx, Exclusive.none_held (fun _ => rfl) hlease⟩
  have hp : LeasesOk p := exec_invariant (fun _ _ _ hs hC hq => hs.step hC hq) hinit hl h
  refine ⟨fun id sess hget hbusy => ?_, fun x hx id run he => ?_⟩
  · obtain ⟨i, hi⟩ := (hp.leases.lease_iff id sess.activeRunID).1 (lease_of_busy hget hbusy)
    exact view_eq_some hi
  · have hrun : lease p.shared id = some run := (hp.leases.lease_iff id run).2 (exists_view hx he)
    obtain ⟨sess, hget, hbusy, hactive⟩ := lease_eq_some hrun
    obtain ⟨i, hi⟩ := List.mem_iff_getElem?.1 hx
    exact ⟨sess, hget, hbusy, hactive ▸ (hp.rowOk i x hi).run_ne_empty he⟩

theorem atRest_serving {sess : Session} (h : ¬Busy sess) : AtRest (.serving sess) := by
  intro id s hget
  have hrow : (World.serving sess).store.sessions.get id =
      if id = sess.id then some sess else none := Table.get_upsert _ sess id
  rw [hrow] at hget
  obtain ⟨-, hs⟩ := Option.ite_none_right_eq_some.1 hget
  exact Option.some.inj hs ▸ h

/-- A run that is cancelled while it is executed, and after its end a run that
fails at the node. -/
def promptsInTurn : List (PoolLabel SessionCall Answer) :=
  [.spawn (.prompt { sessionID := "sess_1" }), .spawn (.cancel { sessionID := "sess_1" }),
    .step 0 {}, .step 0 { raw := "1" }, .step 0 {}, .step 0 {}, .step 0 {},
    .step 1 {}, .step 1 {}, .step 1 {}, .step 1 {}, .step 1 {},
    .step 0 { reply := .event { sessionID := "sess_1", runID := "run_1" } },
    .step 0 { reply := .run { id := "run_1", state := .cancelled } },
    .step 0 {}, .step 0 {}, .step 0 {},
    .spawn (.prompt { sessionID := "sess_1", runID := "mine" }),
    .step 2 {}, .step 2 {}, .step 2 {}, .step 2 {}, .step 2 {},
    .step 2 { outcome := .fail (.other "unavailable") }, .step 2 {}, .step 2 {}]

/-- `sessionsConsistent_of_inTurn` applies to runs taken in turn. -/
theorem promptsInTurn_consistent :
    ∃ p ∈ exec (Pool.step sessionMachine) ⟨.serving waitingSession, []⟩ promptsInTurn,
      SessionsConsistent p := by
  obtain ⟨p, hp⟩ := Option.isSome_iff_exists.1 (show (exec (Pool.step sessionMachine)
    ⟨.serving waitingSession, []⟩ promptsInTurn).isSome = true by decide)
  exact ⟨p, hp, sessionsConsistent_of_inTurn (atRest_serving (by decide)) (by decide) hp⟩

/-- Two `Prompt`s that overlap. -/
def overlappingPrompts : List (PoolLabel SessionCall Answer) :=
  [.spawn (.prompt { sessionID := "sess_1", runID := "a" }),
    .spawn (.prompt { sessionID := "sess_1", runID := "b" }),
    .step 0 {}, .step 0 {}, .step 0 {}, .step 0 {}, .step 0 {},
    .step 1 {}, .step 1 {}, .step 1 {}, .step 1 {}, .step 1 {},
    .step 0 { reply := .run { id := "a", state := .completed } }, .step 0 {}, .step 0 {}]

/-- **Of two `Prompt`s that overlap, the first to end takes the other's record
away.**  Every call succeeds, and the session waits for input while its run `b`
is being executed. -/
theorem overlappingPrompts_lose_run :
    ∃ p ∈ exec (Pool.step sessionMachine) ⟨.serving waitingSession, []⟩ overlappingPrompts,
      ¬SessionsConsistent p := by
  obtain ⟨p, hp, ⟨x, hx, he⟩, hrow⟩ : ∃ p ∈ exec (Pool.step sessionMachine)
      ⟨.serving waitingSession, []⟩ overlappingPrompts,
      (∃ x ∈ p.threads, x.executing = some ("sess_1", "b")) ∧
        ∀ sess ∈ p.shared.store.sessions.get "sess_1", ¬Busy sess := by
    decide
  refine ⟨p, hp, fun hcons => ?_⟩
  obtain ⟨sess, hget, hbusy, -⟩ := hcons.2 x hx "sess_1" "b" he
  exact hrow sess hget hbusy

/-- A `Cancel` of a session that executes no run. -/
def idleCancel : List (PoolLabel SessionCall Answer) :=
  [.spawn (.cancel { sessionID := "sess_1" }),
    .step 0 {}, .step 0 {}, .step 0 {}, .step 0 {}, .step 0 {}]

/-- A `Cancel` of a session at rest leaves it `cancelling` with no run being
executed. -/
theorem idleCancel_strands_session :
    ∃ p ∈ exec (Pool.step sessionMachine) ⟨.serving waitingSession, []⟩ idleCancel,
      ¬SessionsConsistent p := by
  obtain ⟨p, hp, hnone, sess, hget, hstate⟩ : ∃ p ∈ exec (Pool.step sessionMachine)
      ⟨.serving waitingSession, []⟩ idleCancel, (∀ x ∈ p.threads, x.executing = none) ∧
        ∃ sess ∈ p.shared.store.sessions.get "sess_1", sess.state = .cancelling := by
    decide
  refine ⟨p, hp, fun hcons => ?_⟩
  obtain ⟨x, hx, he⟩ := hcons.1 "sess_1" sess hget (Or.inr hstate)
  rw [hnone x hx] at he
  cases he

end Workflows
end Agentd
