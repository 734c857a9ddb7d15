/-
# What a failed activity leaves in the store

An activity that returns an error may have written rows before.  Most have not: the call
that fails is the one before their first write, or that write itself.  `Prompt` and `Cancel`
write before they call the node, so that the session shows what is going on, and a failure
after that leaves the rows as they are: a session that is `streaming` or `cancelling`, and a
run that is `dispatching` or has its final state.  They do so only once they have read the
session and found its node (`Began`).  `Leaves` lists these rows, and
`rows_of_failed` says that every other row is as it was before the activity, whatever fails
and wherever, except the row of a write that took effect although an error came back.
-/

import Agentd.Workflows.ActivitySteps

namespace Agentd
namespace Workflows

open Control Store NodeRuntime Supervisor Concurrency

/-- The calls of one activity, with nothing between them. -/
def Activity.advance (s : World × Activity) (a : Answer) : Option (World × Activity) :=
  s.2.step s.1 a

/-- The activity has returned an error. -/
def Activity.Failed : Activity → Prop
  | .provision (.returned (.error _)) | .openSession (.returned _ (.error _))
  | .container (.ensureAgent (.returned _ (.error _)))
  | .container (.hibernate (.returned (.error _))) | .container (.delete (.returned (.error _)))
  | .session (.prompt (.returned (.error _))) | .session (.cancel (.returned (.error _))) => True
  | _ => False

/-- The rows of a table are as they were, except for those that are allowed. -/
def SameIn {κ ρ : Type} [DecidableEq κ] {key : ρ → κ} (but : ρ → Prop) (t t' : Table κ ρ key) :
    Prop :=
  ∀ k, t'.get k = t.get k ∨ ∃ x, t'.get k = some x ∧ but x

/-- The container, agent, session and run rows are as they were, except for those that are
allowed. -/
structure SameRows (but : Row → Prop) (s s' : MemoryStore) : Prop where
  containers : SameIn (fun c => but (.container c)) s.containers s'.containers
  agents : SameIn (fun i => but (.agent i)) s.agents s'.agents
  sessions : SameIn (fun x => but (.session x)) s.sessions s'.sessions
  runs : SameIn (fun r => but (.run r)) s.runs s'.runs

/-- A `Prompt` or `Cancel` that begins in `w` and meets the answers `as` gets past its first two
calls: it reads the row `sess` of its session, and `containerNode`, which is answered `a`, finds the
node.  `rest` is what it is answered after that. -/
structure Began (w : World) (as : List Answer) (sessionID : String) (sess : Session) (a : Answer)
    (rest : List Answer) : Prop where
  read : w.store.sessions.get sessionID = some sess
  answers : ∃ a₀, as = a₀ :: a :: rest
  node : ∃ c k, w.containerNode a.outcome sess.containerID = .ok (c, k)

/-- The rows that the request can leave behind when it fails, after it began in `w` and met the
answers `as`. -/
inductive Leaves (w : World) (as : List Answer) : Request → Row → Prop
  | streaming (req : PromptRequest) {sess : Session} {a : Answer} {rest : List Answer}
      (hbegan : Began w as req.sessionID sess a rest) :
      Leaves w as (.prompt req)
        (.session (Prompt.streaming sess (Prompt.newRun req sess a) a.now))
  | dispatching (req : PromptRequest) {sess : Session} {a : Answer} {rest : List Answer}
      (hbegan : Began w as req.sessionID sess a rest) :
      Leaves w as (.prompt req) (.run (Prompt.newRun req sess a))
  | final (req : PromptRequest) {sess : Session} {a : Answer} {rest : List Answer} (run : Run)
      (b : Answer) (hbegan : Began w as req.sessionID sess a rest) (hb : b ∈ rest)
      (hreply : b.reply = .run run) : Leaves w as (.prompt req) (.run run)
  | cancelling (req : CancelRequest) {sess : Session} {a : Answer} {rest : List Answer}
      (hbegan : Began w as req.sessionID sess a rest) :
      Leaves w as (.cancel req) (.session (Cancel.cancelling sess a.now))

/-- The last call of the activity was the write of the row, and it took effect although it
returned an error. -/
def LateWrite (w : World) (req : Request) (as : List Answer) (row : Row) : Prop :=
  ∃ as' a w₁ x₁, as = as' ++ [a] ∧ exec Activity.advance (w, req.start) as' = some (w₁, x₁) ∧
    x₁.writes a = some row ∧ ∃ e, a.outcome = .failAfter e

section

variable {κ ρ : Type} [DecidableEq κ] {key : ρ → κ} {P : ρ → Prop} {t t' : Table κ ρ key}

theorem SameIn.storedIn {a : Answer} {r : Option ρ} (h : SameIn P t t')
    (hr : a.outcome.took = true → ∀ x, r = some x → P x) : SameIn P t (storedIn a r t') := by
  intro k
  unfold Workflows.storedIn
  split
  · exact h k
  · next x =>
      split_ifs with htook
      · by_cases hk : k = key x
        · subst hk
          exact Or.inr ⟨x, Table.get_upsert_self _ _, hr htook x rfl⟩
        · rw [Table.get_upsert_of_ne _ hk]
          exact h k
      · exact h k

end

section

variable {but : Row → Prop} {s s' : MemoryStore}

theorem SameRows.refl (s : MemoryStore) : SameRows but s s :=
  ⟨fun _ => Or.inl rfl, fun _ => Or.inl rfl, fun _ => Or.inl rfl, fun _ => Or.inl rfl⟩

theorem SameRows.mono {but' : Row → Prop} (h : SameRows but s s') (hb : ∀ r, but r → but' r) :
    SameRows but' s s' where
  containers k := (h.containers k).imp_right fun ⟨x, hx, hb'⟩ => ⟨x, hx, hb _ hb'⟩
  agents k := (h.agents k).imp_right fun ⟨x, hx, hb'⟩ => ⟨x, hx, hb _ hb'⟩
  sessions k := (h.sessions k).imp_right fun ⟨x, hx, hb'⟩ => ⟨x, hx, hb _ hb'⟩
  runs k := (h.runs k).imp_right fun ⟨x, hx, hb'⟩ => ⟨x, hx, hb _ hb'⟩

/-- **The rows stay as they were when a call writes an allowed row or none.** -/
theorem SameRows.stored {a : Answer} {row : Option Row} (h : SameRows but s s')
    (hrow : a.outcome.took = true → ∀ r, row = some r → but r) :
    SameRows but s (stored a row s') where
  containers := by
    rw [stored_containers]
    exact h.containers.storedIn fun ht c hc => hrow ht _ (RowKind.containers.eq hc)
  agents := by
    rw [stored_agents]
    exact h.agents.storedIn fun ht i hi => hrow ht _ (RowKind.agents.eq hi)
  sessions := by
    rw [stored_sessions]
    exact h.sessions.storedIn fun ht x hx => hrow ht _ (RowKind.sessions.eq hx)
  runs := by
    rw [stored_runs]
    exact h.runs.storedIn fun ht r hr => hrow ht _ (RowKind.runs.eq hr)

end

/-- The activity has not returned, and may still return an error. -/
def Activity.CanFail : Activity → Prop
  | .provision (.appendAudit _) | .provision (.returned _)
  | .openSession (.appendAudit _ _) | .openSession (.returned _ _)
  | .container (.ensureAgent (.upsertContainer _ _ _))
  | .container (.ensureAgent (.appendAudit _ _)) | .container (.ensureAgent (.returned _ _))
  | .container (.hibernate (.returned _)) | .container (.delete (.returned _))
  | .session (.prompt (.upsertFailedRun _ _)) | .session (.prompt (.upsertFailedSession _ _))
  | .session (.prompt (.appendAudit _)) | .session (.prompt (.returned _))
  | .session (.cancel (.returned _)) => False
  | _ => True

/-- The `Prompt` for the request is past its first two calls. -/
def PromptBegan (w : World) (as : List Answer) (req : Request) : Prop :=
  ∃ r sess a rest, req = .prompt r ∧ Began w as r.sessionID sess a rest

/-- What a `Prompt` or a `Cancel` that began in `w₀` has in its hands after the answers `as`: the
request, the row that it has read, and rows that it may leave.  `w` is the world as it is now; the
first call leaves it. -/
def Activity.Holds (w₀ : World) (as : List Answer) (req : Request) (w : World) : Activity → Prop
  | .session (.prompt (.getSession r)) => req = .prompt r ∧ as = [] ∧ w = w₀
  | .session (.prompt (.containerNode r sess)) =>
      req = .prompt r ∧ (∃ a₀, as = [a₀]) ∧ w = w₀ ∧ w₀.store.sessions.get r.sessionID = some sess
  | .session (.prompt (.upsertSession _ sess _ run)) =>
      PromptBegan w₀ as req ∧ Leaves w₀ as req (.session sess) ∧ Leaves w₀ as req (.run run)
  | .session (.prompt (.upsertRun _ _ _ run)) => PromptBegan w₀ as req ∧ Leaves w₀ as req (.run run)
  | .session (.prompt (.publishStarted _ _ _ _)) | .session (.prompt (.nodePrompt _ _ _ _)) =>
      PromptBegan w₀ as req
  | .session (.prompt (.upsertFinalRun _ _ final)) => Leaves w₀ as req (.run final)
  | .session (.cancel (.getSession r)) => req = .cancel r ∧ as = [] ∧ w = w₀
  | .session (.cancel (.containerNode r sess)) =>
      req = .cancel r ∧ (∃ a₀, as = [a₀]) ∧ w = w₀ ∧ w₀.store.sessions.get r.sessionID = some sess
  | .session (.cancel (.upsertSession _ sess _)) => Leaves w₀ as req (.session sess)
  | _ => True

/-- **The invariant** of an activity that began in `w₀`. -/
structure FailOk (w₀ : World) (as : List Answer) (req : Request) (t : World × Activity) : Prop where
  rows : t.2.CanFail → SameRows (Leaves w₀ as req) w₀.store t.1.store
  holds : t.2.Holds w₀ as req t.1

section

variable {w₀ w w' : World} {as : List Answer} {req : Request} {a : Answer} {x x' : Activity}

theorem Began.append {sessionID : String} {sess : Session} {rest : List Answer}
    (h : Began w₀ as sessionID sess a rest) (bs : List Answer) :
    Began w₀ (as ++ bs) sessionID sess a (rest ++ bs) := by
  obtain ⟨hread, ⟨a₀, rfl⟩, hnode⟩ := h
  exact ⟨hread, ⟨a₀, rfl⟩, hnode⟩

theorem Leaves.append {row : Row} (h : Leaves w₀ as req row) (bs : List Answer) :
    Leaves w₀ (as ++ bs) req row := by
  cases h with
  | streaming r hbegan => exact .streaming r (hbegan.append bs)
  | dispatching r hbegan => exact .dispatching r (hbegan.append bs)
  | final r run b hbegan hb hreply =>
      exact .final r run b (hbegan.append bs) (List.mem_append_left _ hb) hreply
  | cancelling r hbegan => exact .cancelling r (hbegan.append bs)

theorem PromptBegan.append (h : PromptBegan w₀ as req) (bs : List Answer) :
    PromptBegan w₀ (as ++ bs) req := by
  obtain ⟨r, sess, a, rest, hreq, hbegan⟩ := h
  exact ⟨r, sess, a, rest ++ bs, hreq, hbegan.append bs⟩

/-- An activity that may fail after a call could fail before it, and the row that the call
writes is one that it may leave. -/
theorem Activity.Next.leaves (hnext : x.Next w a x') (hh : x.Holds w₀ as req w)
    (hcan : x'.CanFail) :
    x.CanFail ∧ ∀ row, x.writes a = some row → Leaves w₀ as req row := by
  cases hnext with
  | provision h =>
      cases h with
      | provisioned => exact ⟨trivial, fun _ hrow => by cases hrow⟩
      | failed | notStored | stored | audited => exact hcan.elim
  | openSession h =>
      cases h with
      | read | opened => exact ⟨trivial, fun _ hrow => by cases hrow⟩
      | notRead | failed | notStored | stored | audited => exact hcan.elim
  | ensureAgent h =>
      cases h with
      | read | ensured => exact ⟨trivial, fun _ hrow => by cases hrow⟩
      | notRead | failed | notStored | known | added | digested | audited => exact hcan.elim
  | hibernate h =>
      cases h with
      | read | hibernated => exact ⟨trivial, fun _ hrow => by cases hrow⟩
      | notRead | failed | notStored | stored => exact hcan.elim
  | delete h =>
      cases h with
      | read | deleted => exact ⟨trivial, fun _ hrow => by cases hrow⟩
      | notRead | failed | notStored | stored => exact hcan.elim
  | prompt h =>
      cases h with
      | sessionWritten =>
          refine ⟨trivial, fun row hrow => ?_⟩
          obtain rfl := Option.some.inj hrow
          exact hh.2.1
      | runWritten =>
          refine ⟨trivial, fun row hrow => ?_⟩
          obtain rfl := Option.some.inj hrow
          exact hh.2
      | runStored =>
          refine ⟨trivial, fun row hrow => ?_⟩
          obtain rfl := Option.some.inj hrow
          exact hh
      | read | begun | announced | event | ended => exact ⟨trivial, fun _ hrow => by cases hrow⟩
      | notRead | noNode | failed | failedRunWritten | failedSessionWritten | runNotStored
      | sessionNotStored | sessionStored | audited => exact hcan.elim
  | cancel h =>
      cases h with
      | sessionWritten =>
          refine ⟨trivial, fun row hrow => ?_⟩
          obtain rfl := Option.some.inj hrow
          exact hh
      | read | begun | announced => exact ⟨trivial, fun _ hrow => by cases hrow⟩
      | notRead | noNode | ended => exact hcan.elim

theorem Activity.Holds.next (hh : x.Holds w₀ as req w) (hstep : x.step w a = some (w', x')) :
    x'.Holds w₀ (as ++ [a]) req w' := by
  cases (Activity.step_spec hstep).1 with
  | provision h => cases h <;> trivial
  | openSession h => cases h <;> trivial
  | ensureAgent h => cases h <;> trivial
  | hibernate h => cases h <;> trivial
  | delete h => cases h <;> trivial
  | prompt h =>
      cases h with
      | read r sess hget =>
          obtain ⟨hreq, rfl, rfl⟩ := hh
          exact ⟨hreq, ⟨a, rfl⟩, (some_pair_inj hstep).1.symm, hget⟩
      | begun r sess k c hnode =>
          obtain ⟨rfl, ⟨a₀, rfl⟩, rfl, hget⟩ := hh
          have hbegan : Began w ([a₀] ++ [a]) r.sessionID sess a [] := ⟨hget, ⟨a₀, rfl⟩, c, k, hnode⟩
          exact ⟨⟨r, sess, a, [], rfl, hbegan⟩, .streaming r hbegan, .dispatching r hbegan⟩
      | sessionWritten => exact ⟨hh.1.append _, hh.2.2.append _⟩
      | runWritten => exact hh.1.append _
      | announced | event => exact PromptBegan.append hh _
      | ended r sess k run final ho hreply =>
          obtain ⟨r', sess', a', rest, rfl, hbegan⟩ := hh
          exact .final r' final a (hbegan.append [a])
            (List.mem_append_right _ (List.mem_singleton_self _)) hreply
      | notRead | noNode | failed | failedRunWritten | failedSessionWritten | runNotStored
      | runStored | sessionNotStored | sessionStored | audited => trivial
  | cancel h =>
      cases h with
      | read r sess hget =>
          obtain ⟨hreq, rfl, rfl⟩ := hh
          exact ⟨hreq, ⟨a, rfl⟩, (some_pair_inj hstep).1.symm, hget⟩
      | begun r sess k c hnode =>
          obtain ⟨rfl, ⟨a₀, rfl⟩, rfl, hget⟩ := hh
          have hbegan : Began w ([a₀] ++ [a]) r.sessionID sess a [] := ⟨hget, ⟨a₀, rfl⟩, c, k, hnode⟩
          exact .cancelling r hbegan
      | notRead | noNode | sessionWritten | announced | ended => trivial

/-- **A call of the activity** keeps the invariant. -/
theorem FailOk.step {t t' : World × Activity} (hok : FailOk w₀ as req t)
    (ht : Activity.advance t a = some t') : FailOk w₀ (as ++ [a]) req t' := by
  obtain ⟨hnext, hstore⟩ := Activity.step_spec ht
  refine ⟨fun hcan => ?_, hok.holds.next ht⟩
  obtain ⟨hcan', hleaves⟩ := hnext.leaves hok.holds hcan
  rw [hstore]
  exact ((hok.rows hcan').stored fun _ => hleaves).mono fun _ hrow => hrow.append _

theorem FailOk.start (w : World) (req : Request) : FailOk w [] req (w, req.start) := by
  refine ⟨fun _ => .refl _, ?_⟩
  cases req with
  | prompt | cancel => exact ⟨rfl, rfl, rfl⟩
  | provisionContainer | ensureAgent | createSession | loadSession | hibernate | delete => trivial

/-- A call after which the activity has failed: it could fail, and if the call was a write, the
write returned an error. -/
theorem Activity.Next.of_failed (hnext : x.Next w a x') (hfailed : x'.Failed) :
    x.CanFail ∧ ∀ row, x.writes a = some row → ∃ e, a.outcome.err = some e := by
  cases hnext with
  | provision h =>
      cases h with
      | failed => exact ⟨trivial, fun _ hrow => by cases hrow⟩
      | notStored c e he => exact ⟨trivial, fun _ _ => ⟨e, he⟩⟩
      | provisioned | stored | audited => exact hfailed.elim
  | openSession h =>
      cases h with
      | notRead | failed => exact ⟨trivial, fun _ hrow => by cases hrow⟩
      | notStored req sess e he => exact ⟨trivial, fun _ _ => ⟨e, he⟩⟩
      | read | opened | stored | audited => exact hfailed.elim
  | ensureAgent h =>
      cases h with
      | notRead | failed => exact ⟨trivial, fun _ hrow => by cases hrow⟩
      | notStored req c agent e he => exact ⟨trivial, fun _ _ => ⟨e, he⟩⟩
      | read | ensured | known | added | digested | audited => exact hfailed.elim
  | hibernate h =>
      cases h with
      | notRead | failed => exact ⟨trivial, fun _ hrow => by cases hrow⟩
      | notStored c updated e he => exact ⟨trivial, fun _ _ => ⟨e, he⟩⟩
      | read | hibernated | stored => exact hfailed.elim
  | delete h =>
      cases h with
      | notRead | failed => exact ⟨trivial, fun _ hrow => by cases hrow⟩
      | notStored c e he => exact ⟨trivial, fun _ _ => ⟨e, he⟩⟩
      | read | deleted | stored => exact hfailed.elim
  | prompt h =>
      cases h with
      | notRead | noNode => exact ⟨trivial, fun _ hrow => by cases hrow⟩
      | runNotStored sess run final e he => exact ⟨trivial, fun _ _ => ⟨e, he⟩⟩
      | sessionNotStored sess run final e he => exact ⟨trivial, fun _ _ => ⟨e, he⟩⟩
      | read | begun | sessionWritten | runWritten | announced | event | failed | ended
      | failedRunWritten | failedSessionWritten | runStored | sessionStored | audited =>
          exact hfailed.elim
  | cancel h =>
      cases h with
      | notRead | noNode | ended => exact ⟨trivial, fun _ hrow => by cases hrow⟩
      | read | begun | sessionWritten | announced => exact hfailed.elim

end

theorem Outcome.eq_failAfter {o : Outcome} {e : Err} (htook : o.took = true)
    (herr : o.err = some e) : o = .failAfter e := by
  cases o with
  | ok => cases herr
  | fail e' => cases htook
  | failAfter e' => rw [Option.some.inj herr]

/-- **The rows after a failed activity.**  Whatever the request and the store, and whatever call
fails: when the activity returns an error, every container, agent, session and run row is as
it was before, except the rows that a `Prompt` or a `Cancel` leaves that has read its session and
found the node, and the row of a last write that took effect although it returned an error. -/
theorem rows_of_failed {w w' : World} {req : Request} {as : List Answer} {x : Activity}
    (hexec : exec Activity.advance (w, req.start) as = some (w', x)) (hfailed : x.Failed) :
    SameRows (fun row => Leaves w as req row ∨ LateWrite w req as row)
      w.store w'.store := by
  rcases List.eq_nil_or_concat as with rfl | ⟨as', a, rfl⟩
  · obtain ⟨rfl, rfl⟩ := some_pair_inj hexec
    exact .refl _
  · rw [List.concat_eq_append] at hexec ⊢
    obtain ⟨⟨w₁, x₁⟩, hbefore, hlast⟩ := exec_concat_eq_some hexec
    have hok : FailOk w as' req (w₁, x₁) := by
      have hpast := exec_history_of_step (I := fun t past => FailOk w (past.map Prod.snd) req t)
        (fun t past a t' hok ht => by
          rw [List.map_append]
          exact hok.step ht) (.start w req) hbefore
      rwa [map_snd_history hbefore] at hpast
    obtain ⟨hnext, hstore⟩ := Activity.step_spec hlast
    obtain ⟨hcan, hwrite⟩ := hnext.of_failed hfailed
    rw [hstore]
    refine ((hok.rows hcan).mono fun row hrow => Or.inl (hrow.append _)).stored
      fun htook row hrow => Or.inr ?_
    obtain ⟨e, he⟩ := hwrite row hrow
    exact ⟨as', a, w₁, x₁, rfl, hbefore, hrow, e, Outcome.eq_failAfter htook he⟩

/-- A prompt of the session in `World.serving waitingSession`. -/
def promptRequest : Request := .prompt { sessionID := "sess_1", runID := "run_1" }

/-- The node completes the run, and the write of the run fails. -/
def finalRunNotStored : List Answer :=
  [{}, {}, {}, {}, {}, { reply := .run { id := "run_1", state := .completed } },
    { outcome := .fail (.other "connection refused") }]

/-- `rows_of_failed` applies to the `Prompt`. -/
theorem finalRunNotStored_rows :
    ∃ w' x, exec Activity.advance (World.serving waitingSession, promptRequest.start)
        finalRunNotStored = some (w', x) ∧ x.Failed ∧
      SameRows (fun row =>
          Leaves (World.serving waitingSession) finalRunNotStored promptRequest row ∨
            LateWrite (World.serving waitingSession) promptRequest finalRunNotStored row)
        (World.serving waitingSession).store w'.store := by
  refine ⟨_, _, rfl, trivial, ?_⟩
  exact rows_of_failed rfl trivial

/-- **A failed `Prompt` leaves its session `streaming` and its run `dispatching`, and a failed
`Cancel` leaves its session `cancelling`.** -/
theorem finalRunNotStored_leaves_rows :
    (World.serving waitingSession).store.sessions.get "sess_1" = some waitingSession ∧
      (World.serving waitingSession).store.runs.get "run_1" = none ∧
      (∃ w' x, exec Activity.advance (World.serving waitingSession, promptRequest.start)
          finalRunNotStored = some (w', x) ∧ x.Failed ∧
        (w'.store.sessions.get "sess_1").map (·.state) = some .streaming ∧
        (w'.store.runs.get "run_1").map (·.state) = some .dispatching) ∧
      ∃ w' x, exec Activity.advance
          (World.serving waitingSession, Request.start (.cancel { sessionID := "sess_1" }))
          [{}, {}, {}, {}, { outcome := .fail .notFound }] = some (w', x) ∧ x.Failed ∧
        (w'.store.sessions.get "sess_1").map (·.state) = some .cancelling :=
  ⟨rfl, rfl, ⟨_, _, rfl, trivial, rfl, rfl⟩, _, _, rfl, trivial, rfl⟩

end Workflows
end Agentd
