/-
# Every update is answered

A container workflow returns when its container is deleted and `AllHandlersFinished` holds, and
each handler executes one activity, in at most five attempts, and may start a child.  So no update
of a container is left without an answer (`updates_answered`): a container workflow that has
returned has answered all it accepted; an update of a running workflow can be answered by moves of
its own handler alone, whatever the store, the nodes and the other handlers do; a handler makes a
bounded number of moves, apart from the events of a run that it relays; and the workflow of a
container that is deleted can always be brought to its end.

A session workflow gives no such promise when it is terminated with its container or cancelled:
what its handlers were at stays as it was.
-/

import Agentd.Workflows.SessionLifetimes

namespace Agentd
namespace Workflows

open Control Store NodeRuntime Supervisor Concurrency

/-- The calls that the activity makes at most before it returns, apart from the events that a
`Prompt` relays. -/
def Activity.calls : Activity → ℕ
  | .provision x =>
      match x with
      | .nodeProvision _ => 3
      | .upsertContainer _ => 2
      | .appendAudit _ => 1
      | .returned _ => 0
  | .openSession x =>
      match x with
      | .containerNode _ => 4
      | .nodeOpen _ _ => 3
      | .upsertSession _ _ => 2
      | .appendAudit _ _ => 1
      | .returned _ _ => 0
  | .container (.ensureAgent x) =>
      match x with
      | .containerNode _ => 5
      | .nodeEnsureAgent .. => 4
      | .upsertAgentInstance .. => 3
      | .upsertContainer .. => 2
      | .appendAudit _ _ => 1
      | .returned _ _ => 0
  | .container (.hibernate x) =>
      match x with
      | .containerNode _ => 3
      | .nodeHibernate .. => 2
      | .upsertContainer _ _ => 1
      | .returned _ => 0
  | .container (.delete x) =>
      match x with
      | .containerNode _ => 3
      | .nodeDelete .. => 2
      | .upsertContainer _ => 1
      | .returned _ => 0
  | .session (.prompt x) =>
      match x with
      | .getSession _ => 9
      | .containerNode _ _ => 8
      | .upsertSession .. => 7
      | .upsertRun .. => 6
      | .publishStarted .. => 5
      | .nodePrompt .. => 4
      | .upsertFinalRun .. => 3
      | .upsertFailedRun _ _ | .upsertFinalSession .. => 2
      | .upsertFailedSession _ _ | .appendAudit _ => 1
      | .returned _ => 0
  | .session (.cancel x) =>
      match x with
      | .getSession _ => 5
      | .containerNode _ _ => 4
      | .upsertSession .. => 3
      | .publishCancelling _ _ => 2
      | .nodeCancel _ _ => 1
      | .returned _ => 0

/-- The calls of an attempt at most, and its result. -/
def attemptMoves : ℕ := 10

/-- The moves that a handler makes at most before it returns. -/
def UpdatePC.moves : UpdatePC → ℕ
  | .execute k x => (maximumAttempts - k) * attemptMoves + x.calls + 3
  | .executeChild _ => 2
  | .childExecution _ => 1
  | .returned _ => 0

/-- The moves that a handler makes at most for an update. -/
def updateMoves : ℕ := (maximumAttempts - 1) * attemptMoves + 9 + 3

/-- The event of a run is relayed by handler `i`. -/
def TemporalLabel.relays (i : ℕ) : TemporalLabel → Bool
  | .act j a => j = i && match a.reply with | .event _ => true | _ => false
  | _ => false

/-- An answer that fails every call. -/
def failing : Answer := { outcome := .fail (.other "unavailable") }

section

variable {w : World} {a : Answer} {x x' : Activity}

theorem Activity.calls_le (x : Activity) : x.calls ≤ 9 := by
  unfold Activity.calls
  split
  all_goals
    split
    all_goals decide

/-- **A call comes nearer to the end**, except that an event may leave a `Prompt` where it is. -/
theorem Activity.Next.calls (h : x.Next w a x') :
    x'.calls < x.calls ∨ x'.calls = x.calls ∧ ∃ e, a.reply = .event e := by
  cases h with
  | provision h | openSession h | ensureAgent h | hibernate h | delete h | cancel h =>
      cases h <;> exact Or.inl (by simp only [Activity.calls]; decide)
  | prompt h =>
      cases h with
      | event req sess k run e hreply => exact Or.inr ⟨rfl, e, hreply⟩
      | notRead | read | noNode | begun | sessionWritten | runWritten | announced | failed | ended
      | failedRunWritten | failedSessionWritten | runNotStored | runStored | sessionNotStored
      | sessionStored | audited => exact Or.inl (by simp only [Activity.calls]; decide)

theorem Activity.step_failing (w : World) (hx : x.returns = none) : (x.step w failing).isSome := by
  cases x with
  | provision x =>
      cases x with
      | returned => cases hx
      | nodeProvision req =>
          simp only [Activity.step, Provision.step, Option.isSome_map]
          split <;> rfl
      | upsertContainer | appendAudit => rfl
  | openSession x => cases x <;> first | rfl | cases hx
  | container x =>
      cases x with
      | ensureAgent x | hibernate x | delete x => cases x <;> first | rfl | cases hx
  | session x =>
      cases x with
      | prompt x | cancel x => cases x <;> first | rfl | cases hx

end

/-- A handler is in an attempt, and its workflow handles its update. -/
structure UpdateHandler.Served (t : Temporal) (h : UpdateHandler) : Prop where
  attempt : ∀ k x, h.pc = .execute k x → 1 ≤ k
  handled : ∃ e, t.executions[h.execution]? = some e ∧ (e.body.request h.update).isSome

/-- **The invariant**: the handlers are served; a container workflow has no parent, so it is not
terminated, and when it is closed its handlers have returned. -/
structure ServedOk (t : Temporal) : Prop where
  handlers : ∀ h ∈ t.handlers, h.Served t
  orphan : ∀ (n : ℕ) e id, t.executions[n]? = some e → e.body.containerID = some id → e.parent = none
  closed : ∀ h ∈ t.handlers, ∀ e id, t.executions[h.execution]? = some e →
    e.body.containerID = some id → e.status ≠ .running → ∃ res, h.pc = .returned res

section

variable {t t' : Temporal} {l : TemporalLabel}

theorem Execution.Keeps.request {e e' : Execution} (hk : e.Keeps e') {u : Update}
    (h : (e.body.request u).isSome) : (e'.body.request u).isSome := by
  have hc := hk.containerID
  have hsess := hk.sessionID
  cases hb : e.body with
  | container id s =>
      cases hb' : e'.body with
      | container id' s' =>
          rw [hb] at h
          cases u <;> first | rfl | cases h
      | session s' => rw [hb, hb'] at hc; cases hc
  | session s =>
      cases hb' : e'.body with
      | container id' s' => rw [hb, hb'] at hc; cases hc
      | session s' =>
          rw [hb] at h
          cases u <;> first | rfl | cases h

/-- A step changes a handler only as one that moves, and keeps what it handles. -/
theorem ServedOk.handlers_step (hok : ServedOk t) (hs : t.Step l t') :
    ∀ h ∈ t'.handlers, h.Served t' := by
  have hhandled : ∀ (n : ℕ) (u : Update),
      (∃ e, t.executions[n]? = some e ∧ (e.body.request u).isSome) →
        ∃ e, t'.executions[n]? = some e ∧ (e.body.request u).isSome := by
    rintro n u ⟨e, he, hreq⟩
    obtain ⟨e', he', hk⟩ := hs.goesOn n e he
    exact ⟨e', he', hk.request hreq⟩
  have hold : ∀ h ∈ t.handlers, h.Served t' := fun h hh =>
    ⟨(hok.handlers h hh).attempt, hhandled _ _ (hok.handlers h hh).handled⟩
  intro g hg
  cases hs.handles hg with
  | kept hh => exact hold g hh
  | begun n e u req he hrun hfor hreq =>
      exact ⟨fun k x hpc => (UpdatePC.execute.inj hpc).1 ▸ le_rfl, e, he, by rw [hreq]; rfl⟩
  | moved i hl hi hm =>
      obtain ⟨hk, hserved⟩ := hold _ (List.mem_of_getElem? hi)
      cases hm with
      | acted k x x' a _ hpc =>
          exact ⟨fun k' y hpc' => (UpdatePC.execute.inj hpc').1 ▸ hk k x hpc, hserved⟩
      | retried =>
          exact ⟨fun k' y hpc' => (UpdatePC.execute.inj hpc').1 ▸ Nat.le_add_left .., hserved⟩
      | opened | childMade | returned => exact ⟨(fun k y hpc' => by cases hpc'), hserved⟩

theorem ServedOk.orphan_step (hok : ServedOk t) (hs : t.Step l t') (n : ℕ) (e : Execution)
    (id : String) (he : t'.executions[n]? = some e) (hid : e.body.containerID = some id) :
    e.parent = none := by
  rcases hs.execution he with ⟨e₀, he₀, hb⟩ | ⟨-, -, hbegun⟩
  · exact hb.keeps.parent.trans (hok.orphan n e₀ id he₀ (hb.keeps.containerID.symm.trans hid))
  · cases hbegun with
    | container => rfl
    | session => cases hid

/-- The `Await` of a container workflow has seen that its handlers have finished. -/
theorem Temporal.returned_of_awaits {b : Body} {id : String} {h : UpdateHandler}
    (hid : b.containerID = some id) (hawait : t.awaits h.execution b = true) (hh : h ∈ t.handlers) :
    ∃ res, h.pc = .returned res := by
  cases b with
  | session s => cases hid
  | container id' s =>
      have hdone := List.all_eq_true.1 (Bool.and_eq_true_iff.1 hawait).2 h hh
      cases hpc : h.pc with
      | returned res => exact ⟨res, rfl⟩
      | execute | executeChild | childExecution => simp [hpc] at hdone

/-- **A container workflow that is closed has answered its updates**, also after a step: it closes
when all its handlers have returned, and accepts no update after that. -/
theorem ServedOk.closed_step (hok : ServedOk t) (hs : t.Step l t') :
    ∀ h ∈ t'.handlers, ∀ e id, t'.executions[h.execution]? = some e →
      e.body.containerID = some id → e.status ≠ .running → ∃ res, h.pc = .returned res := by
  intro g hg e id he hid hclosed
  rcases hs.execution he with ⟨e₀, he₀, hb⟩ | ⟨-, -, hbegun⟩
  · have hid₀ := hb.keeps.containerID.symm.trans hid
    by_cases hrun : e₀.status = .running
    · -- it closes in this step, in which no handler moves
      cases hb with
      | same | succeeded | recorded => exact absurd hrun hclosed
      | closed _ _ hl hwhy =>
          have hkept : g ∈ t.handlers := by
            cases hs.handlers with
            | same _ hh => exact hh ▸ hg
            | added n f u req _ hf hfrun _ _ hh =>
                rcases List.mem_append.1 (hh ▸ hg) with hg | hg
                · exact hg
                · obtain rfl := List.mem_singleton.1 hg
                  obtain rfl := Option.mem_unique hf he
                  exact absurd hfrun hclosed
            | moved i h h' hl' => cases hl.symm.trans hl'
          rcases hwhy with hawait | ⟨s, -, hbody⟩ | ⟨p, f, hp, -⟩
          · exact Temporal.returned_of_awaits hid₀ hawait hkept
          · rw [hbody] at hid₀
            cases hid₀
          · cases hp.symm.trans (hok.orphan _ e₀ id he₀ hid₀)
    · cases hs.handles hg with
      | kept hh => exact hok.closed g hh e₀ id he₀ hid₀ hrun
      | begun n f u req hf hfrun =>
          obtain rfl := Option.mem_unique hf he
          exact absurd hfrun hclosed
      | moved i hl hi hm =>
          rw [hm.execution_eq] at he₀
          obtain ⟨res, hres⟩ := hok.closed _ (List.mem_of_getElem? hi) e₀ id he₀ hid₀ hrun
          exact absurd hres (hm.ne_returned res)
  · cases hbegun <;> exact absurd rfl hclosed

theorem ServedOk.step (hok : ServedOk t) (h : t.step l = some t') : ServedOk t' :=
  have hs := Temporal.step_spec h
  ⟨hok.handlers_step hs, hok.orphan_step hs, hok.closed_step hs⟩

theorem ServedOk.new (w : World) (conflict : ConflictPolicy) : ServedOk { world := w, conflict } where
  handlers h hh := by cases hh
  orphan n e id he := by cases he
  closed h hh := by cases hh

end

section

variable {t t' : Temporal} {l : TemporalLabel} {i : ℕ} {h : UpdateHandler}

/-- A move comes nearer to the answer, except that an event may leave a handler where it is. -/
theorem Temporal.Moves.moves_lt {h' : UpdateHandler} (hm : t.Moves l t' i h h') :
    h'.pc.moves + 1 ≤ h.pc.moves + (if l.relays i then 1 else 0) := by
  cases hm with
  | acted k x x' a hl hpc hx =>
      rw [hpc]
      simp only [UpdatePC.moves]
      rcases (Activity.step_spec hx).1.calls with hlt | ⟨heq, e, hreply⟩
      · omega
      · have hrelays : l.relays i = true := by simp [hl, TemporalLabel.relays, hreply]
        rw [if_pos hrelays]
        omega
  | retried e k x err req hpc he hres hreq hk =>
      rw [hpc]
      have hcalls := req.start.calls_le
      simp only [UpdatePC.moves, attemptMoves]
      omega
  | opened k x sess hpc | childMade sess hpc =>
      rw [hpc]
      simp only [UpdatePC.moves]
      omega
  | returned res hpc =>
      cases hpc' : h.pc with
      | returned r => exact absurd hpc' (hpc r)
      | execute | executeChild | childExecution =>
          simp only [UpdatePC.moves]
          omega

/-- **A handler in a step**: it comes nearer to its answer when it moves, and what others do changes
nothing. -/
theorem Temporal.Step.moves (hs : t.Step l t') (hi : t.handlers[i]? = some h) :
    ∃ h', t'.handlers[i]? = some h' ∧ h'.execution = h.execution ∧
      (l.mover = some i → t'.handlers = t.handlers.set i h') ∧
      h'.pc.moves + (if l.mover = some i then 1 else 0) ≤
        h.pc.moves + (if l.relays i then 1 else 0) := by
  by_cases hmover : l.mover = some i
  · cases hs.handlers with
    | same hl | added _ _ _ _ hl => cases hl.symm.trans hmover
    | moved j g g' hl hj hm hh =>
        obtain rfl := Option.mem_unique hl hmover
        obtain rfl := Option.mem_unique hi hj
        rw [hh, if_pos hmover]
        exact ⟨g', getElem?_set_of_some g' hi, hm.execution_eq, fun _ => rfl, hm.moves_lt⟩
  · rw [if_neg hmover]
    refine ⟨h, ?_, rfl, fun hm => absurd hm hmover, Nat.le_add_right ..⟩
    cases hs.handlers with
    | same _ hh => rw [hh, hi]
    | added _ _ _ _ _ _ _ _ _ hh => exact hh ▸ getElem?_append_of_some _ hi
    | moved j g g' hl hj hm hh =>
        have hji : j ≠ i := fun heq => hmover (heq ▸ hl)
        rw [hh, List.getElem?_set_ne hji, hi]

theorem ServedOk.moves_le (hok : ServedOk t) (hi : t.handlers[i]? = some h) :
    h.pc.moves ≤ updateMoves := by
  have hserved := hok.handlers h (List.mem_of_getElem? hi)
  cases hpc : h.pc with
  | execute k x =>
      have hk := hserved.attempt k x hpc
      have hcalls := x.calls_le
      simp only [UpdatePC.moves, updateMoves, attemptMoves]
      omega
  | executeChild | childExecution | returned => simp [UpdatePC.moves, updateMoves]

/-- **A handler of a running workflow is never stuck**: until it has returned, it can move. -/
theorem ServedOk.enabled (hok : ServedOk t) (hi : t.handlers[i]? = some h)
    (hlive : (t.live h.execution).isSome) (hpc : ∀ res, h.pc ≠ .returned res) :
    ∃ lab t', lab.mover = some i ∧ lab.relays i = false ∧ t.step lab = some t' := by
  obtain ⟨e, he⟩ := Option.isSome_iff_exists.1 hlive
  cases hpc' : h.pc with
  | returned res => exact absurd hpc' (hpc res)
  | executeChild sess =>
      refine ⟨.startChild i none, ?_⟩
      simp only [Temporal.step, hi, Option.bind_some, hpc', he]
      split <;> exact ⟨_, rfl, rfl, rfl⟩
  | childExecution sess =>
      refine ⟨.childStarted i, ?_⟩
      simp only [Temporal.step, hi, Option.bind_some, hpc', he]
      exact ⟨_, rfl, rfl, rfl⟩
  | execute k x =>
      cases hres : x.returns with
      | none =>
          obtain ⟨r, hr⟩ := Option.isSome_iff_exists.1 (Activity.step_failing t.world hres)
          refine ⟨.act i failing, ?_⟩
          simp only [Temporal.step, hi, Option.bind_some, hpc', hr, Option.map_some]
          exact ⟨_, rfl, by simp [TemporalLabel.relays, failing], rfl⟩
      | some res =>
          cases res with
          | ok res =>
              refine ⟨.deliver i 0, ?_⟩
              simp only [Temporal.step, hi, Option.bind_some, hpc', he, hres]
              cases res <;> exact ⟨_, rfl, rfl, rfl⟩
          | error err =>
              by_cases hk : k < maximumAttempts
              · obtain ⟨e', he', hreq⟩ := (hok.handlers h (List.mem_of_getElem? hi)).handled
                obtain rfl := Option.some.inj ((Temporal.live_eq_some.1 he).1.symm.trans he')
                obtain ⟨req, hreq⟩ := Option.isSome_iff_exists.1 hreq
                refine ⟨.retry i, ?_⟩
                simp only [Temporal.step, hi, Option.bind_some, hpc', he, hres, hreq, if_pos hk]
                exact ⟨_, rfl, rfl, rfl⟩
              · refine ⟨.deliver i 0, ?_⟩
                simp only [Temporal.step, hi, Option.bind_some, hpc', he, hres, if_neg hk]
                exact ⟨_, rfl, rfl, rfl⟩

/-- The container of the workflow is deleted. -/
def Body.deleted : Body → Bool
  | .container _ s => s.deleted
  | .session _ => false

theorem Body.deleted_succeed {b : Body} (hd : b.deleted = true) (now : Time) (res : UpdateResult) :
    (b.succeed now res).deleted = true := by
  cases b with
  | container id s => cases res <;> first | rfl | exact hd
  | session s => cases hd

/-- **A move of a handler closes no workflow** and takes no deletion back. -/
theorem Temporal.Step.live_of_mover (hs : t.Step l t') (hmover : l.mover = some i) {n : ℕ}
    {e : Execution} (he : t.live n = some e) :
    ∃ e', t'.live n = some e' ∧ (e.body.deleted = true → e'.body.deleted = true) := by
  obtain ⟨hget, hrun⟩ := Temporal.live_eq_some.1 he
  obtain ⟨e', he', hb⟩ := hs.becomes hget
  cases hb with
  | same => exact ⟨e, Temporal.live_eq_some.2 ⟨he', hrun⟩, fun hd => hd⟩
  | succeeded _ _ _ now res =>
      exact ⟨_, Temporal.live_eq_some.2 ⟨he', hrun⟩, fun hd => Body.deleted_succeed hd now res⟩
  | recorded _ sess =>
      refine ⟨_, Temporal.live_eq_some.2 ⟨he', hrun⟩, fun hd => ?_⟩
      cases hb : e.body with
      | container id s => rw [hb] at hd; exact hd
      | session s => rw [hb] at hd; cases hd
  | closed _ _ hl => cases hl.symm.trans hmover

/-- **An update is answered** by at most so many moves of its handler. -/
theorem ServedOk.answers (hok : ServedOk t) (hi : t.handlers[i]? = some h)
    (hlive : (t.live h.execution).isSome) :
    ∃ l t', (∀ lab ∈ l, TemporalLabel.mover lab = some i) ∧ l.length ≤ h.pc.moves ∧
      exec Temporal.step t l = some t' ∧ ∃ h' res, t'.handlers[i]? = some h' ∧
        h'.pc = .returned res := by
  -- the states in which the handler is there and its workflow is running
  let P : Temporal → Prop := fun u =>
    ServedOk u ∧ ∃ g, u.handlers[i]? = some g ∧ (u.live g.execution).isSome
  have hstep : ∀ u, P u → ¬ (∃ g res, u.handlers[i]? = some g ∧ g.pc = .returned res) →
      ∃ lab u', TemporalLabel.mover lab = some i ∧ u.step lab = some u' ∧ P u' ∧
        (u'.handlers[i]?.elim 0 fun g => g.pc.moves) < u.handlers[i]?.elim 0 fun g => g.pc.moves := by
    rintro u ⟨hu, g, hg, hglive⟩ hnot
    obtain ⟨lab, u', hmover, hrelays, hu'⟩ :=
      hu.enabled hg hglive fun res hres => hnot ⟨g, res, hg, hres⟩
    have hs := Temporal.step_spec hu'
    obtain ⟨g', hg', hexec, -, hlow⟩ := hs.moves hg
    obtain ⟨e, he⟩ := Option.isSome_iff_exists.1 hglive
    obtain ⟨e', he', -⟩ := hs.live_of_mover hmover he
    refine ⟨lab, u', hmover, hu', ⟨hu.step hu', g', hg', by rw [hexec, he']; rfl⟩, ?_⟩
    rw [if_pos hmover, hrelays] at hlow
    rw [hg', hg]
    exact hlow
  obtain ⟨l, t', hl, hlen, ht', -, hgoal⟩ := exec_reaches hstep ⟨hok, h, hi, hlive⟩
  rw [hi] at hlen
  exact ⟨l, t', hl, hlen, ht', hgoal⟩

/-- What the handlers of execution `n` have yet to do. -/
def Temporal.unanswered (t : Temporal) (n : ℕ) : ℕ :=
  t.handlers.foldr (fun h k => (if h.execution = n then h.pc.moves else 0) + k) 0

/-- A move of a handler of execution `n` lowers what they have yet to do. -/
theorem Temporal.Step.unanswered_lt (hs : t.Step l t') (hi : t.handlers[i]? = some h)
    (hmover : l.mover = some i) (hrelays : l.relays i = false) :
    t'.unanswered h.execution < t.unanswered h.execution := by
  obtain ⟨h', -, hexec, hset, hlow⟩ := hs.moves hi
  rw [if_pos hmover, hrelays] at hlow
  rw [Temporal.unanswered, hset hmover]
  refine foldr_add_set_lt (f := fun g => if g.execution = h.execution then g.pc.moves else 0) hi ?_
  rw [if_pos hexec, if_pos rfl]
  exact hlow

/-- The `Await` of a deleted container returns when its handlers have. -/
theorem Temporal.awaits_of_returned {n : ℕ} {b : Body} (hd : b.deleted = true)
    (hdone : ∀ h ∈ t.handlers, h.execution = n → ∃ res, h.pc = .returned res) :
    t.awaits n b = true := by
  cases b with
  | session s => cases hd
  | container id s =>
      refine Bool.and_eq_true_iff.2 ⟨hd, List.all_eq_true.2 fun h hh => ?_⟩
      by_cases hn : h.execution = n
      · obtain ⟨res, hpc⟩ := hdone h hh hn
        simp [hpc]
      · simp [hn]

/-- **The workflow of a deleted container can be brought to its end**: its handlers answer, and then
its `Await` returns. -/
theorem ServedOk.closes (hok : ServedOk t) {n : ℕ} {e : Execution} (he : t.live n = some e)
    (hd : e.body.deleted = true) :
    ∃ l t' e', exec Temporal.step t l = some t' ∧ t'.executions[n]? = some e' ∧
      e'.status = .completed := by
  let P : Temporal → Prop := fun u => ServedOk u ∧ ∃ f, u.live n = some f ∧ f.body.deleted = true
  have hstep : ∀ u, P u → ¬ (∀ h ∈ u.handlers, h.execution = n → ∃ res, h.pc = .returned res) →
      ∃ lab u', True ∧ u.step lab = some u' ∧ P u' ∧ u'.unanswered n < u.unanswered n := by
    rintro u ⟨hu, f, hf, hfd⟩ hnot
    push Not at hnot
    obtain ⟨g, hg, rfl, hpc⟩ := hnot
    obtain ⟨i, hi⟩ := List.mem_iff_getElem?.1 hg
    obtain ⟨lab, u', hmover, hrelays, hu'⟩ := hu.enabled hi (by rw [hf]; rfl) hpc
    have hs := Temporal.step_spec hu'
    obtain ⟨f', hf', hkeep⟩ := hs.live_of_mover hmover hf
    exact ⟨lab, u', trivial, hu', ⟨hu.step hu', f', hf', hkeep hfd⟩,
      hs.unanswered_lt hi hmover hrelays⟩
  obtain ⟨l, u, -, -, hu, ⟨-, f, hf, hfd⟩, hdone⟩ := exec_reaches hstep ⟨hok, e, he, hd⟩
  have hawait := Temporal.awaits_of_returned hfd hdone
  have hlast : u.step (.await n) =
      some { u with executions := u.executions.set n { f with status := .completed } } := by
    simp only [Temporal.step, hf, Option.bind_some, if_pos hawait]
  exact ⟨l ++ [.await n], _, { f with status := .completed },
    exec_append_eq_some.2 ⟨u, hu, exec_cons_eq_some.2 ⟨_, hlast, rfl⟩⟩,
    getElem?_set_of_some _ (Temporal.live_eq_some.1 hf).1, rfl⟩

end

/-- What the clients of a namespace can count on. -/
structure UpdatesAnswered (t : Temporal) : Prop where
  /-- a container workflow that has returned has answered its updates -/
  closed : ∀ h ∈ t.handlers, ∀ e id, t.executions[h.execution]? = some e →
    e.body.containerID = some id → e.status ≠ .running → ∃ res, h.pc = .returned res
  /-- an update of a running workflow can be answered by moves of its handler -/
  progress : ∀ (i : ℕ) h, t.handlers[i]? = some h → (t.live h.execution).isSome →
    ∃ l t', (∀ lab ∈ l, TemporalLabel.mover lab = some i) ∧ l.length ≤ updateMoves ∧
      exec Temporal.step t l = some t' ∧ ∃ h' res, t'.handlers[i]? = some h' ∧ h'.pc = .returned res
  /-- no handler moves for ever: apart from the events it relays, its moves are bounded -/
  bounded : ∀ (i : ℕ) h l t', t.handlers[i]? = some h → exec Temporal.step t l = some t' →
    l.countP (fun lab => lab.mover = some i) ≤ updateMoves + l.countP (TemporalLabel.relays i)
  /-- the workflow of a deleted container can return -/
  closes : ∀ (n : ℕ) e, t.live n = some e → e.body.deleted = true →
    ∃ l t' e', exec Temporal.step t l = some t' ∧ t'.executions[n]? = some e' ∧ e'.status = .completed

/-- **Every update is answered.**  In every state that a namespace can reach, whatever the stores
and nodes answer, no update of a container is lost, and none waits for anything but its own
handler. -/
theorem updates_answered {w : World} {conflict : ConflictPolicy} {l : List TemporalLabel}
    {t : Temporal} (h : exec Temporal.step { world := w, conflict } l = some t) :
    UpdatesAnswered t := by
  have hok : ServedOk t :=
    exec_invariant_of_step (fun _ _ _ hok hs => hok.step hs) (ServedOk.new w conflict) h
  refine ⟨hok.closed, fun i h hi hlive => ?_, fun i h l t' hi ht' => ?_,
    fun n e he hd => hok.closes he hd⟩
  · obtain ⟨l, t', hl, hlen, hrest⟩ := hok.answers hi hlive
    exact ⟨l, t', hl, hlen.trans (hok.moves_le hi), hrest⟩
  · have hstep : ∀ (u : Temporal) (lab : TemporalLabel) (u' : Temporal),
        (u.handlers[i]?).isSome → u.step lab = some u' → (u'.handlers[i]?).isSome ∧
          (u'.handlers[i]?.elim 0 fun g => g.pc.moves) +
              (if decide (lab.mover = some i) then 1 else 0) ≤
            (u.handlers[i]?.elim 0 fun g => g.pc.moves) + (if lab.relays i then 1 else 0) := by
      intro u lab u' hu hu'
      obtain ⟨g, hg⟩ := Option.isSome_iff_exists.1 hu
      obtain ⟨g', hg', -, -, hle⟩ := (Temporal.step_spec hu').moves hg
      rw [hg', hg]
      exact ⟨rfl, by simpa using hle⟩
    have hle := exec_countP_le hstep (by rw [hi]; rfl) ht'
    have hbound := hok.moves_le hi
    rw [hi, Option.elim_some] at hle
    omega

/-- `updates_answered` applies to a `CreateSession` that has come as far as the node. -/
theorem startsContainer_answered :
    ∃ t ∈ exec Temporal.step { world := emptyWorld } startsContainer, ∃ l t',
      exec Temporal.step t l = some t' ∧
        ∃ h' res, t'.handlers[1]? = some h' ∧ h'.pc = .returned res := by
  have hanswered : ∀ t, exec Temporal.step { world := emptyWorld } startsContainer = some t →
      ∀ h, t.handlers[1]? = some h → (t.live h.execution).isSome →
        ∃ l t', exec Temporal.step t l = some t' ∧
          ∃ h' res, t'.handlers[1]? = some h' ∧ h'.pc = .returned res := by
    intro t ht h hi hlive
    obtain ⟨l, t', -, -, hrest⟩ := (updates_answered ht).progress 1 h hi hlive
    exact ⟨l, t', hrest⟩
  exact ⟨_, rfl, hanswered _ rfl _ rfl rfl⟩

end Workflows
end Agentd
