/-
# The two listings of a container

The agents and sessions of a container are kept twice.  The activities write rows to the metadata
store, which `handleGetContainer` lists; the handlers of `ContainerWorkflow` keep `state.Agents` and
`state.Sessions`, which the queries `ListAgents` and `ListSessions` return.  A row is written some
time before the handler learns of it, and the session handlers start a child in between, which may
fail.  Nevertheless the two agree whenever no update of the container's workflow is under way
(`listings_agree`): the rows of a container are those of the agents and sessions that the workflows
of the container list, up to then.  The prompts of its sessions, and what happens in other
containers, do not matter.

What may happen is any interleaving of any client calls for any number of containers, with retries,
failures of the node and failures of writes that do not take effect.  A session of which a second
opening fails is listed all the same, by the workflow whose child is running.  The ids are supposed
to belong to one container each (`Homes`), as the ids of `NewID` do, and a write not to fail after
it has taken effect.
-/

import Agentd.Workflows.AcceptedUpdates
import Agentd.Workflows.AnsweredUpdates

namespace Agentd
namespace Workflows

open Control Store NodeRuntime Supervisor Concurrency

/-- `mapsValues`. -/
def mapsValues {ν : Type} (m : GoMap String ν) : List ν := m.entries.map fun e => e.2

/-- `state.Agents` of a workflow. -/
def Body.agents : Body → GoMap String AgentInstance
  | .container _ s => s.agents
  | .session _ => ∅

/-- `state.Sessions` of a workflow. -/
def Body.sessions : Body → GoMap String Session
  | .container _ s => s.sessions
  | .session _ => ∅

/-- The query `ListAgents`. -/
def Body.listAgents (b : Body) : List AgentInstance := mapsValues b.agents

/-- The query `ListSessions`. -/
def Body.listSessions (b : Body) : List Session := mapsValues b.sessions

/-- The container of each agent instance and of each session. -/
structure Homes where
  agent : String → String
  session : String → String

/-- A write to the store does not fail after it has taken effect. -/
def Outcome.Definite (o : Outcome) : Prop := ∀ e, o ≠ .failAfter e

/-- What the call is answered: the supervisor replies with an agent or a session of its own
container, and a row of either is written or not. -/
def Housed (homes : Homes) (a : Answer) : Activity → Prop
  | .openSession (.nodeOpen req _) => ∀ sess, a.reply = .session sess →
      sess.containerID = req.containerID ∧ homes.session sess.id = req.containerID
  | .container (.ensureAgent (.nodeEnsureAgent req _ _)) => ∀ inst, a.reply = .agent inst →
      inst.containerID = req.containerID ∧ homes.agent inst.id = req.containerID
  | .openSession (.upsertSession _ _) | .container (.ensureAgent (.upsertAgentInstance _ _ _)) =>
      a.outcome.Definite
  | _ => True

/-- The condition on a step of a namespace; the server starts a child when it can. -/
def HousedStep (homes : Homes) (t : Temporal) (l : TemporalLabel) : Prop :=
  t.Answers (Housed homes) l ∧ ∀ i err, l = .startChild i err → err = none

/-- What is listed twice. -/
inductive Listed
  | agent
  | session

namespace Listed

/-- The container of the row that the store has for the id. -/
def row (s : MemoryStore) (id : String) : Listed → Option String
  | agent => (s.agents.get id).map (·.containerID)
  | session => (s.sessions.get id).map (·.containerID)

/-- There is a row for the id. -/
def Has (s : MemoryStore) (id : String) (κ : Listed) : Prop := (κ.row s id).isSome

/-- The id and the container of a row. -/
def entry : Row → Listed → Option (String × String)
  | .agent inst, agent => some (inst.id, inst.containerID)
  | .session sess, session => some (sess.id, sess.containerID)
  | _, _ => none

/-- The workflow lists the id. -/
def Shows (b : Body) (id : String) : Listed → Prop
  | agent => ∃ inst, b.agents.lookup id = some inst
  | session => ∃ sess, b.sessions.lookup id = some sess

/-- The container of the id. -/
def home (homes : Homes) (id : String) : Listed → String
  | agent => homes.agent id
  | session => homes.session id

/-- The id of the first row that the activity is about to write. -/
def writing : Activity → Listed → Option String
  | .container (.ensureAgent (.upsertAgentInstance _ _ inst)), agent => some inst.id
  | .openSession (.upsertSession _ sess), session => some sess.id
  | _, _ => none

/-- The id of the row that the activity has written and that its workflow does not list yet. -/
def written : Activity → Listed → Option String
  | .container (.ensureAgent (.upsertContainer _ _ inst)), agent
  | .container (.ensureAgent (.appendAudit _ inst)), agent
  | .container (.ensureAgent (.returned _ (.ok inst))), agent => some inst.id
  | .openSession (.appendAudit _ sess), session
  | .openSession (.returned _ (.ok sess)), session => some sess.id
  | _, _ => none

/-- The same of a handler. -/
def held (pc : UpdatePC) (κ : Listed) : Option String :=
  match pc, κ with
  | .execute _ x, κ => κ.written x
  | .executeChild sess, session | .childExecution sess, session => some sess.id
  | _, _ => none

end Listed

/-- What an activity of a workflow for the container `cid` has in its hands: an agent instance or a
session of that container, which is stored once it is written, and copies of session rows. -/
def Activity.Lists (homes : Homes) (s : MemoryStore) (cid : Option String) : Activity → Prop
  | .container (.ensureAgent (.containerNode req))
  | .container (.ensureAgent (.nodeEnsureAgent req _ _)) => cid = some req.containerID
  | .container (.ensureAgent (.upsertAgentInstance _ _ inst)) =>
      cid = some (homes.agent inst.id) ∧ inst.containerID = homes.agent inst.id
  | .container (.ensureAgent (.upsertContainer _ _ inst))
  | .container (.ensureAgent (.appendAudit _ inst))
  | .container (.ensureAgent (.returned _ (.ok inst))) =>
      cid = some (homes.agent inst.id) ∧ Listed.agent.Has s inst.id
  | .openSession (.containerNode req) | .openSession (.nodeOpen req _) => cid = some req.containerID
  | .openSession (.upsertSession _ sess) =>
      cid = some (homes.session sess.id) ∧ sess.containerID = homes.session sess.id
  | .openSession (.appendAudit _ sess) | .openSession (.returned _ (.ok sess)) =>
      cid = some (homes.session sess.id) ∧ Listed.session.Has s sess.id
  | .session (.prompt (.containerNode _ sess)) | .session (.prompt (.upsertSession _ sess _ _))
  | .session (.prompt (.upsertRun _ sess _ _)) | .session (.prompt (.publishStarted _ sess _ _))
  | .session (.prompt (.nodePrompt _ sess _ _)) | .session (.prompt (.upsertFailedRun sess _))
  | .session (.prompt (.upsertFailedSession sess _)) | .session (.prompt (.upsertFinalRun sess _ _))
  | .session (.prompt (.upsertFinalSession sess _ _))
  | .session (.cancel (.containerNode _ sess)) | .session (.cancel (.upsertSession _ sess _)) =>
      sess.containerID = homes.session sess.id ∧ Listed.session.Has s sess.id
  | _ => True

/-- The same of a handler. -/
def UpdatePC.Lists (homes : Homes) (s : MemoryStore) (cid : Option String) : UpdatePC → Prop
  | .execute _ x => x.Lists homes s cid
  | .executeChild sess | .childExecution sess =>
      cid = some (homes.session sess.id) ∧ Listed.session.Has s sess.id
  | .returned _ => True

section

variable {s : MemoryStore} {a : Answer} {row : Option Row} {κ : Listed} {id : String}

theorem Listed.Has.stored (h : κ.Has s id) : κ.Has (stored a row s) id := by
  cases κ with
  | agent =>
      simp only [Listed.Has, Listed.row, Option.isSome_map, stored_agents] at h ⊢
      exact storedIn_isSome _ h
  | session =>
      simp only [Listed.Has, Listed.row, Option.isSome_map, stored_sessions] at h ⊢
      exact storedIn_isSome _ h

theorem Listed.row_stored {cid : String} (h : κ.row (stored a row s) id = some cid) :
    κ.row s id = some cid ∨
      (a.outcome.took = true ∧ ∃ r, row = some r ∧ κ.entry r = some (id, cid)) := by
  cases κ with
  | agent =>
      obtain ⟨inst, hget, rfl⟩ := Option.map_eq_some_iff.1 h
      rw [stored_agents] at hget
      rcases storedIn_cases hget with hold | ⟨hnew, rfl, htook⟩
      · exact Or.inl (Option.map_eq_some_iff.2 ⟨inst, hold, rfl⟩)
      · exact Or.inr ⟨htook, _, RowKind.agents.eq hnew, rfl⟩
  | session =>
      obtain ⟨sess, hget, rfl⟩ := Option.map_eq_some_iff.1 h
      rw [stored_sessions] at hget
      rcases storedIn_cases hget with hold | ⟨hnew, rfl, htook⟩
      · exact Or.inl (Option.map_eq_some_iff.2 ⟨sess, hold, rfl⟩)
      · exact Or.inr ⟨htook, _, RowKind.sessions.eq hnew, rfl⟩

theorem Listed.has_of_written {r : Row} {cid : String} (ho : a.outcome = .ok)
    (he : κ.entry r = some (id, cid)) : κ.Has (Workflows.stored a (some r) s) id := by
  have hput : Workflows.stored a (some r) s = r.put s := by simp [Workflows.stored, ho, Outcome.took]
  rw [hput]
  cases κ with
  | agent =>
      cases r with
      | agent inst =>
          cases he
          simp [Listed.Has, Listed.row, Row.put, MemoryStore.upsertAgentInstance]
      | container | session | run | audit => cases he
  | session =>
      cases r with
      | session sess =>
          cases he
          simp [Listed.Has, Listed.row, Row.put, MemoryStore.upsertSession]
      | container | agent | run | audit => cases he

end

section

variable {homes : Homes} {s s' : MemoryStore} {cid : Option String} {a : Answer} {w : World}
  {x x' : Activity} {κ : Listed} {id : String}

theorem Activity.Lists.mono (hg : ∀ (κ : Listed) id, κ.Has s id → κ.Has s' id)
    (h : x.Lists homes s cid) : x.Lists homes s' cid := by
  unfold Activity.Lists at h ⊢
  split
  all_goals first | exact h | exact ⟨h.1, hg _ _ h.2⟩ | trivial

theorem UpdatePC.Lists.mono {pc : UpdatePC} (hg : ∀ (κ : Listed) id, κ.Has s id → κ.Has s' id)
    (h : pc.Lists homes s cid) : pc.Lists homes s' cid := by
  cases pc with
  | execute k x => exact Activity.Lists.mono hg h
  | executeChild | childExecution => exact ⟨h.1, hg _ _ h.2⟩
  | returned => trivial

/-- What a handler has in its hands is of the container of its workflow, and has a row. -/
theorem UpdatePC.Lists.of_held {pc : UpdatePC} (h : pc.Lists homes s cid)
    (hid : κ.held pc = some id) : cid = some (κ.home homes id) ∧ κ.Has s id := by
  cases pc with
  | returned res => cases κ <;> cases hid
  | executeChild sess | childExecution sess =>
      cases κ with
      | agent => cases hid
      | session => exact Option.some.inj hid ▸ h
  | execute k x =>
      have hw : κ.written x = some id := hid
      unfold Listed.written at hw
      split at hw
      all_goals first | exact Option.some.inj hw ▸ h | cases hw

/-- **After a call** the activity has in its hands what it should. -/
theorem Activity.Next.lists (h : x.Next w a x') (hhoused : Housed homes a x)
    (hrows : ∀ (κ : Listed) id c, κ.row w.store id = some c → c = κ.home homes id)
    (hx : x.Lists homes w.store cid) :
    x'.Lists homes (stored a (x.writes a) w.store) cid := by
  have hread : ∀ (id : String) (sess : Session), w.store.sessions.get id = some sess →
      sess.containerID = homes.session sess.id ∧
        Listed.session.Has (stored a (x.writes a) w.store) sess.id := by
    intro id sess hget
    obtain rfl : sess.id = id := Table.key_of_get hget
    have hrow : Listed.session.row w.store sess.id = some sess.containerID := by simp [Listed.row, hget]
    exact ⟨hrows .session sess.id _ hrow, Listed.Has.stored (Option.isSome_of_eq_some hrow)⟩
  have hkeep : x.Lists homes (stored a (x.writes a) w.store) cid := hx.mono fun _ _ hhas => hhas.stored
  cases h with
  | provision | hibernate | delete => trivial
  | ensureAgent h =>
      cases h with
      | notRead | failed | notStored => trivial
      | read => exact hx
      | ensured req c k inst ho hreply =>
          obtain ⟨hcid, hhome⟩ := hhoused inst hreply
          exact ⟨by rw [hhome]; exact hx, by rw [hhome]; exact hcid⟩
      | known req c inst ho | added req c inst ho =>
          exact ⟨hx.1, Listed.has_of_written (κ := .agent) ho rfl⟩
      | digested | audited => exact hkeep
  | openSession h =>
      cases h with
      | notRead | failed | notStored => trivial
      | read => exact hx
      | opened req k sess ho hreply =>
          obtain ⟨hcid, hhome⟩ := hhoused sess hreply
          exact ⟨by rw [hhome]; exact hx, by rw [hhome]; exact hcid⟩
      | stored req sess ho => exact ⟨hx.1, Listed.has_of_written (κ := .session) ho rfl⟩
      | audited => exact hkeep
  | prompt h =>
      cases h with
      | notRead | noNode | runNotStored | sessionNotStored | sessionStored | failedSessionWritten
      | audited => trivial
      | read req sess hget => exact hread _ sess hget
      | begun | sessionWritten | runWritten | announced | event | failed | ended
      | failedRunWritten | runStored => exact hkeep
  | cancel h =>
      cases h with
      | notRead | noNode | sessionWritten | announced | ended => trivial
      | read req sess hget => exact hread _ sess hget
      | begun => exact hkeep

/-- What an activity has written stays in its hands, and so does what it writes. -/
theorem Activity.Next.written (h : x.Next w a x')
    (hid : κ.written x = some id ∨ κ.writing x = some id ∧ a.outcome = .ok) :
    κ.written x' = some id := by
  cases h with
  | provision | hibernate | delete | prompt | cancel =>
      cases κ <;> rcases hid with hid | ⟨hid, -⟩ <;> cases hid
  | ensureAgent h =>
      cases κ with
      | session => cases h <;> rcases hid with hid | ⟨hid, -⟩ <;> cases hid
      | agent =>
          cases h with
          | digested | audited => exact hid.resolve_right fun hw => by cases hw.1
          | known | added => exact (hid.resolve_left fun hw => by cases hw).1
          | notStored _ _ _ err herr =>
              have ho := (hid.resolve_left fun hw => by cases hw).2
              rw [ho] at herr
              cases herr
          | notRead | read | failed | ensured => rcases hid with hid | ⟨hid, -⟩ <;> cases hid
  | openSession h =>
      cases κ with
      | agent => cases h <;> rcases hid with hid | ⟨hid, -⟩ <;> cases hid
      | session =>
          cases h with
          | audited => exact hid.resolve_right fun hw => by cases hw.1
          | stored => exact (hid.resolve_left fun hw => by cases hw).1
          | notStored _ _ err herr =>
              have ho := (hid.resolve_left fun hw => by cases hw).2
              rw [ho] at herr
              cases herr
          | notRead | read | failed | opened => rcases hid with hid | ⟨hid, -⟩ <;> cases hid

/-- A row that is written is one of its container, and it is the first of its id only when the agent
is being started or the session opened. -/
theorem Activity.Lists.writes {r : Row} {c : String} (hx : x.Lists homes s cid)
    (hw : x.writes a = some r) (he : κ.entry r = some (id, c)) :
    c = κ.home homes id ∧ (κ.Has s id ∨ κ.writing x = some id) := by
  cases x with
  | provision x => cases x <;> cases hw <;> cases κ <;> cases he
  | openSession x =>
      cases x with
      | upsertSession req sess =>
          cases hw
          cases κ <;> cases he
          exact ⟨hx.2, Or.inr rfl⟩
      | containerNode | nodeOpen | appendAudit | returned => cases hw <;> cases κ <;> cases he
  | container x =>
      cases x with
      | ensureAgent x =>
          cases x with
          | upsertAgentInstance req row inst =>
              cases hw
              cases κ <;> cases he
              exact ⟨hx.2, Or.inr rfl⟩
          | containerNode | nodeEnsureAgent | upsertContainer | appendAudit | returned =>
              cases hw <;> cases κ <;> cases he
      | hibernate x | delete x =>
          cases x <;> cases hw
          cases κ <;> cases he
  | session x =>
      cases x with
      | prompt x | cancel x =>
          cases x <;> cases hw <;> cases κ <;> cases he <;> exact ⟨hx.1, Or.inl hx.2⟩

theorem Housed.ok_of_writing (h : Housed homes a x) (hw : κ.writing x = some id)
    (htook : a.outcome.took = true) : a.outcome = .ok := by
  have hdef : a.outcome.Definite := by
    unfold Listed.writing at hw
    split at hw
    · exact h
    · exact h
    · cases hw
  cases ho : a.outcome with
  | ok => rfl
  | fail => rw [ho] at htook; cases htook
  | failAfter e => exact absurd ho (hdef e)

end

/-- The entries of a workflow's maps are under their own ids. -/
structure Body.Keyed (b : Body) : Prop where
  agents : ∀ id inst, b.agents.lookup id = some inst → inst.id = id
  sessions : ∀ id sess, b.sessions.lookup id = some sess → sess.id = id

section

variable {b : Body} {κ : Listed} {id : String}

theorem lookup_insert_iff {ν : Type} {m : GoMap String ν} {k : String} {v : ν} :
    (∃ v', (m.insert k v).lookup id = some v') ↔ id = k ∨ ∃ v', m.lookup id = some v' := by
  by_cases h : id = k
  · subst h
    exact ⟨fun _ => Or.inl rfl, fun _ => ⟨v, AList.lookup_insert _⟩⟩
  · rw [AList.lookup_insert_ne h]
    exact ⟨Or.inr, fun hor => hor.resolve_left h⟩

/-- **What a workflow lists after a result**: what it listed, and the agent of the result. -/
theorem Listed.shows_succeed {now : Time} {res : UpdateResult} :
    κ.Shows (b.succeed now res) id ↔
      κ.Shows b id ∨ ∃ inst cid, κ = .agent ∧ res = .agent inst ∧ inst.id = id ∧
        b.containerID = some cid := by
  cases b with
  | session st =>
      have hsame : κ.Shows ((Body.session st).succeed now res) id ↔ κ.Shows (.session st) id := by
        cases res <;> cases κ <;> exact Iff.rfl
      refine hsame.trans ⟨Or.inl, ?_⟩
      rintro (h | ⟨_, _, -, -, -, hcid⟩)
      · exact h
      · cases hcid
  | container cid st =>
      cases res with
      | agent inst =>
          cases κ with
          | agent =>
              refine lookup_insert_iff.trans ⟨?_, ?_⟩
              · rintro (rfl | h)
                · exact Or.inr ⟨inst, cid, rfl, rfl, rfl, rfl⟩
                · exact Or.inl h
              · rintro (h | ⟨inst', _, -, hres, rfl, -⟩)
                · exact Or.inr h
                · cases hres
                  exact Or.inl rfl
          | session => simp [Body.succeed, ContainerVars.succeed, Listed.Shows, Body.sessions]
      | container | session | run | deleted | cancelled =>
          cases κ <;> simp [Body.succeed, ContainerVars.succeed, ContainerWorkflowState.succeed,
            Listed.Shows, Body.sessions, Body.agents]

/-- **What a workflow lists after a session is recorded.** -/
theorem Listed.shows_recordSession {sess : Session} :
    κ.Shows (b.recordSession sess) id ↔
      κ.Shows b id ∨ ∃ cid, κ = .session ∧ sess.id = id ∧ b.containerID = some cid := by
  cases b with
  | session st =>
      refine ⟨Or.inl, ?_⟩
      rintro (h | ⟨cid, -, -, hcid⟩)
      · exact h
      · cases hcid
  | container cid st =>
      cases κ with
      | agent => simp [Body.recordSession, Listed.Shows, Body.agents]
      | session =>
          refine lookup_insert_iff.trans ⟨?_, ?_⟩
          · rintro (rfl | h)
            · exact Or.inr ⟨cid, rfl, rfl, rfl⟩
            · exact Or.inl h
          · rintro (h | ⟨_, -, rfl, -⟩)
            · exact Or.inr h
            · exact Or.inl rfl

theorem Body.Keyed.succeed (h : b.Keyed) (now : Time) (res : UpdateResult) :
    (b.succeed now res).Keyed := by
  cases b with
  | session st =>
      cases res <;> exact ⟨h.agents, h.sessions⟩
  | container cid st =>
      cases res with
      | agent inst =>
          refine ⟨fun id inst' hl => ?_, h.sessions⟩
          rcases GoMap.lookup_insert_cases hl with ⟨rfl, rfl⟩ | ⟨-, hold⟩
          · rfl
          · exact h.agents id inst' hold
      | container | session | run | deleted | cancelled => exact ⟨h.agents, h.sessions⟩

theorem Body.Keyed.recordSession (h : b.Keyed) (sess : Session) : (b.recordSession sess).Keyed := by
  cases b with
  | session st => exact h
  | container cid st =>
      refine ⟨h.agents, fun id sess' hl => ?_⟩
      rcases GoMap.lookup_insert_cases hl with ⟨rfl, rfl⟩ | ⟨-, hold⟩
      · rfl
      · exact h.sessions id sess' hold

end

/-- Some workflow lists the id. -/
def Temporal.Shows (t : Temporal) (κ : Listed) (id : String) : Prop :=
  ∃ (n : ℕ) (e : Execution), t.executions[n]? = some e ∧ κ.Shows e.body id

/-- Some workflow lists the id, or a handler has it in its hands. -/
def Temporal.Accounts (t : Temporal) (κ : Listed) (id : String) : Prop :=
  t.Shows κ id ∨ ∃ h ∈ t.handlers, κ.held h.pc = some id

/-- Some workflow lists the session, or a handler that has started its workflow is about to. -/
def Temporal.Records (t : Temporal) (id : String) : Prop :=
  t.Shows .session id ∨ ∃ h ∈ t.handlers, ∃ sess, h.pc = .childExecution sess ∧ sess.id = id

/-- **The invariant.**  The rows are of the containers that their ids belong to; what a workflow
lists is of its own container and has a row; and what has a row is listed by a workflow or in the
hands of a handler. -/
structure ListingsOk (homes : Homes) (t : Temporal) : Prop where
  found : FoundOk t
  names : ∀ (n : ℕ) e id, t.executions[n]? = some e → e.body.containerID = some id →
    e.workflowID = containerWorkflowID id
  keyed : ∀ (n : ℕ) e, t.executions[n]? = some e → e.body.Keyed
  rows : ∀ (κ : Listed) id cid, κ.row t.world.store id = some cid → cid = κ.home homes id
  shown : ∀ (κ : Listed) (n : ℕ) e id, t.executions[n]? = some e → κ.Shows e.body id →
    e.body.containerID = some (κ.home homes id) ∧ κ.Has t.world.store id
  lists : ∀ h ∈ t.handlers, ∃ e, t.executions[h.execution]? = some e ∧
    h.pc.Lists homes t.world.store e.body.containerID
  complete : ∀ (κ : Listed) id, κ.Has t.world.store id → t.Accounts κ id
  children : ∀ (n : ℕ) e id, t.executions[n]? = some e → e.body.sessionID = some id → t.Records id

section

variable {homes : Homes} {t t' : Temporal} {l : TemporalLabel} {κ : Listed} {id : String}

theorem HousedStep.container (h : HousedStep homes t l) : t.Answers OwnContainer l := by
  cases l with
  | act i a =>
      intro x hx
      have hh := h.1 x hx
      unfold OwnContainer
      split
      · exact fun sess hr => (hh sess hr).1
      · trivial
  | startContainer | client | retry | deliver | startChild | childStarted | await | cancelSession
  | terminate => trivial

/-- What a call has written when it returns is what it returns. -/
theorem Listed.written_of_returns {x : Activity} {r : Except Err UpdateResult}
    (hw : κ.written x = some id) (hr : x.returns = some r) :
    (κ = .agent ∧ ∃ inst, r = .ok (.agent inst) ∧ inst.id = id) ∨
      κ = .session ∧ ∃ sess, r = .ok (.session sess) ∧ sess.id = id := by
  unfold Listed.written at hw
  split at hw
  · cases hr
  · cases hr
  · cases hr
    exact Or.inl ⟨rfl, _, rfl, Option.some.inj hw⟩
  · cases hr
  · cases hr
    exact Or.inr ⟨rfl, _, rfl, Option.some.inj hw⟩
  · cases hw

theorem Listed.written_of_agent {x : Activity} {inst : AgentInstance}
    (hr : x.returns = some (.ok (.agent inst))) : Listed.agent.written x = some inst.id := by
  unfold Activity.returns at hr
  split at hr
  case h_3 req res =>
    cases res with
    | error e => cases hr
    | ok i =>
        cases hr
        rfl
  case h_8 => cases hr
  all_goals
    next res =>
      cases res <;> cases hr

/-- **What a workflow lists it lists after a step.** -/
theorem Temporal.Step.shows (hs : t.Step l t') (h : t.Shows κ id) : t'.Shows κ id := by
  obtain ⟨n, e, he, h⟩ := h
  obtain ⟨e', he', hb⟩ := hs.becomes he
  refine ⟨n, e', he', ?_⟩
  cases hb with
  | same | closed => exact h
  | succeeded => exact Listed.shows_succeed.2 (Or.inl h)
  | recorded => exact Listed.shows_recordSession.2 (Or.inl h)

/-- **What a workflow lists after a step** it listed before, or a handler had it in its hands. -/
theorem Temporal.Becomes.shows_cases {n : ℕ} {e e' : Execution} (hb : t.Becomes l n e e')
    (h : κ.Shows e'.body id) :
    κ.Shows e.body id ∨ ∃ g ∈ t.handlers, g.execution = n ∧ κ.held g.pc = some id := by
  cases hb with
  | same | closed => exact Or.inl h
  | succeeded g k x now res hg hn hpc hres =>
      rcases Listed.shows_succeed.1 h with hsh | ⟨inst, cid, rfl, rfl, rfl, -⟩
      · exact Or.inl hsh
      · exact Or.inr ⟨g, hg, hn, by rw [hpc]; exact Listed.written_of_agent hres⟩
  | recorded g sess hg hn hpc =>
      rcases Listed.shows_recordSession.1 h with hsh | ⟨cid, rfl, rfl, -⟩
      · exact Or.inl hsh
      · exact Or.inr ⟨g, hg, hn, by rw [hpc]; rfl⟩

theorem Temporal.Becomes.keyed {n : ℕ} {e e' : Execution} (hb : t.Becomes l n e e')
    (h : e.body.Keyed) : e'.body.Keyed := by
  cases hb with
  | same | closed => exact h
  | succeeded _ _ _ now res => exact h.succeed now res
  | recorded _ sess => exact h.recordSession sess

theorem Temporal.Begun.not_shows {e : Execution} (hb : t.Begun t' e) : ¬ κ.Shows e.body id := by
  rintro h
  cases hb <;> cases κ <;> obtain ⟨v, hv⟩ := h <;> cases hv

theorem Temporal.Step.has (hs : t.Step l t') (h : κ.Has t.world.store id) :
    κ.Has t'.world.store id := by
  cases hs with
  | acted _ _ _ x _ a w _ _ hx =>
      show κ.Has w.store id
      rw [(Activity.step_spec hx).2]
      exact h.stored
  | started | accepted | retried | opened | succeeded | failed | childRefused | childMade | recorded
  | completed | cancelled | terminated => exact h

theorem ListingsOk.names_step (hok : ListingsOk homes t) (hs : t.Step l t') (n : ℕ) (e : Execution)
    (cid : String) (he : t'.executions[n]? = some e) (hid : e.body.containerID = some cid) :
    e.workflowID = containerWorkflowID cid := by
  rcases hs.execution he with ⟨e₀, he₀, hb⟩ | ⟨-, -, hbegun⟩
  · exact hb.keeps.workflowID.trans (hok.names n e₀ cid he₀ (hb.keeps.containerID.symm.trans hid))
  · cases hbegun with
    | container => exact congrArg containerWorkflowID (Option.some.inj hid)
    | session => cases hid

theorem ListingsOk.keyed_step (hok : ListingsOk homes t) (hs : t.Step l t') (n : ℕ) (e : Execution)
    (he : t'.executions[n]? = some e) : e.body.Keyed := by
  rcases hs.execution he with ⟨e₀, he₀, hb⟩ | ⟨-, -, hbegun⟩
  · exact hb.keyed (hok.keyed n e₀ he₀)
  · cases hbegun <;> exact ⟨(fun _ _ hl => by cases hl), fun _ _ hl => by cases hl⟩

/-- The activity of a handler has in its hands what it should. -/
theorem ListingsOk.lists_of (hok : ListingsOk homes t) {i k : ℕ} {h : UpdateHandler} {x : Activity}
    (hi : t.handlers[i]? = some h) (hpc : h.pc = .execute k x) :
    ∃ cid, x.Lists homes t.world.store cid := by
  obtain ⟨e, -, hl⟩ := hok.lists h (List.mem_of_getElem? hi)
  rw [hpc] at hl
  exact ⟨_, hl⟩

theorem ListingsOk.rows_step (hok : ListingsOk homes t) (hs : t.Step l t') (κ : Listed)
    (id cid : String) (hrow : κ.row t'.world.store id = some cid) : cid = κ.home homes id := by
  cases hs with
  | acted i h k x x' a w hi hpc hx =>
      dsimp only at hrow
      rw [(Activity.step_spec hx).2] at hrow
      rcases Listed.row_stored hrow with hold | ⟨-, r, hw, he⟩
      · exact hok.rows κ id cid hold
      · obtain ⟨_, hl⟩ := hok.lists_of hi hpc
        exact (hl.writes hw he).1
  | started | accepted | retried | opened | succeeded | failed | childRefused | childMade | recorded
  | completed | cancelled | terminated => exact hok.rows κ id cid hrow

theorem ListingsOk.shown_step (hok : ListingsOk homes t) (hs : t.Step l t') (κ : Listed) (n : ℕ)
    (e : Execution) (id : String) (he : t'.executions[n]? = some e) (hsh : κ.Shows e.body id) :
    e.body.containerID = some (κ.home homes id) ∧ κ.Has t'.world.store id := by
  rcases hs.execution he with ⟨e₀, he₀, hb⟩ | ⟨-, -, hbegun⟩
  · have hold : e₀.body.containerID = some (κ.home homes id) ∧ κ.Has t.world.store id := by
      rcases hb.shows_cases hsh with hold | ⟨g, hg, rfl, hheld⟩
      · exact hok.shown κ n e₀ id he₀ hold
      · obtain ⟨e₁, he₁, hl⟩ := hok.lists g hg
        obtain rfl := Option.mem_unique he₀ he₁
        exact hl.of_held hheld
    exact ⟨hb.keeps.containerID.trans hold.1, hs.has hold.2⟩
  · exact absurd hsh hbegun.not_shows

/-- An activity that a workflow begins is for its own container. -/
theorem Request.start_lists {s : MemoryStore} {e : Execution} {u : Update} {req : Request}
    (hname : ∀ id, e.body.containerID = some id → e.workflowID = containerWorkflowID id)
    (hfor : u.IsFor e.workflowID) (hreq : e.body.request u = some req) :
    req.start.Lists homes s e.body.containerID := by
  cases hb : e.body with
  | session st =>
      rw [hb] at hreq
      cases u <;> cases hreq <;> trivial
  | container id st =>
      have hw := hname id (by rw [hb]; rfl)
      rw [hb] at hreq
      have hcid : ∀ id', e.workflowID = containerWorkflowID id' → some id = some id' := fun id' h =>
        congrArg some (containerWorkflowID_inj.1 (hw.symm.trans h))
      cases u with
      | start | hibernate | delete => cases hreq; trivial
      | installAgent r | startAgent r | createSession r | loadSession r =>
          cases hreq
          exact hcid _ hfor
      | prompt | cancel => cases hreq

/-- **The handlers after a step** have in their hands what they should. -/
theorem ListingsOk.lists_step (hok : ListingsOk homes t) (hs : t.Step l t')
    (hhoused : HousedStep homes t l) : ∀ g ∈ t'.handlers, ∃ e, t'.executions[g.execution]? = some e ∧
      g.pc.Lists homes t'.world.store e.body.containerID := by
  intro g hg
  -- what holds of a handler's variables for the old workflow holds for the new one
  have hmove : ∀ (n : ℕ) (pc : UpdatePC), (∃ e, t.executions[n]? = some e ∧
      pc.Lists homes t'.world.store e.body.containerID) → ∃ e, t'.executions[n]? = some e ∧
        pc.Lists homes t'.world.store e.body.containerID := by
    rintro n pc ⟨e, he, hl⟩
    obtain ⟨e', he', hk⟩ := hs.goesOn n e he
    exact ⟨e', he', hk.containerID ▸ hl⟩
  have hgrows : ∀ (κ : Listed) id, κ.Has t.world.store id → κ.Has t'.world.store id :=
    fun κ id => hs.has
  cases hs.handles hg with
  | kept hh =>
      obtain ⟨e, he, hl⟩ := hok.lists g hh
      exact hmove _ _ ⟨e, he, hl.mono hgrows⟩
  | begun n e u req he hrun hfor hreq =>
      exact ⟨e, he, Request.start_lists (fun id => hok.names_step hs n e id he) hfor hreq⟩
  | moved i _ hi hm =>
      have hh := List.mem_of_getElem? hi
      obtain ⟨e, he, hl⟩ := hok.lists _ hh
      rw [hm.execution_eq]
      refine hmove _ _ ⟨e, he, ?_⟩
      cases hm with
      | acted k x x' a hlab hpc hx =>
          subst hlab
          rw [hpc] at hl
          obtain ⟨hnext, hst⟩ := Activity.step_spec hx
          show x'.Lists homes t'.world.store _
          rw [hst]
          exact hnext.lists (hhoused.1 x (Temporal.executing_eq hi hpc)) hok.rows hl
      | retried f k x err req hpc hf hres hreq =>
          obtain ⟨f', hf', hfor⟩ := (hok.found.handlers _ hh).addressed
          obtain rfl := Option.mem_unique hf hf'
          obtain rfl := Option.mem_unique hf he
          exact Request.start_lists (fun id => hok.names _ f id hf) hfor hreq
      | opened k x sess hpc hres =>
          obtain ⟨req, rfl⟩ := Activity.returns_session hres
          rw [hpc] at hl
          exact hl.mono hgrows
      | childMade sess hpc =>
          rw [hpc] at hl
          exact hl.mono hgrows
      | returned => trivial

theorem Temporal.Records.accounts (h : t.Records id) : t.Accounts .session id := by
  rcases h with h | ⟨g, hg, sess, hpc, rfl⟩
  · exact Or.inl h
  · exact Or.inr ⟨g, hg, by rw [hpc]; rfl⟩

/-- A handler that records the session it has opened has its workflow list it. -/
theorem ListingsOk.shows_recorded (hok : ListingsOk homes t) {i : ℕ} {h : UpdateHandler}
    {sess : Session} {e : Execution} (hi : t.handlers[i]? = some h)
    (hpc : h.pc = .childExecution sess) (he : t.executions[h.execution]? = some e) :
    Listed.session.Shows (e.body.recordSession sess) sess.id := by
  obtain ⟨e', he', hl⟩ := hok.lists h (List.mem_of_getElem? hi)
  obtain rfl := Option.mem_unique he he'
  rw [hpc] at hl
  exact Listed.shows_recordSession.2 (Or.inr ⟨_, rfl, rfl, hl.1⟩)

/-- **A step keeps the record of a session**: only the handler that has started the session's
workflow can lose it, and it does when the workflow of the container lists the session. -/
theorem ListingsOk.records_step (hok : ListingsOk homes t) (hs : t.Step l t') (h : t.Records id) :
    t'.Records id := by
  rcases h with h | ⟨g, hg, sess, hpc, rfl⟩
  · exact Or.inl (hs.shows h)
  · -- a handler that moves from another place is not this one
    have hother : ∀ (i : ℕ) (h h' : UpdateHandler), t.handlers[i]? = some h →
        t'.handlers = t.handlers.set i h' → h.pc ≠ .childExecution sess → t'.Records sess.id := by
      intro i h h' hi heq hne
      refine Or.inr ⟨g, ?_, sess, hpc, rfl⟩
      rw [heq]
      exact mem_set_of_ne h' hi hg fun hgh => hne (hgh ▸ hpc)
    cases hs with
    | started | accepted => exact Or.inr ⟨g, List.mem_append_left _ hg, sess, hpc, rfl⟩
    | acted i h _ _ _ _ _ hi hpc' | retried i h _ _ _ _ _ hi hpc' | opened i _ h _ _ _ hi hpc'
    | succeeded i _ h _ _ _ _ hi hpc' | failed i _ h _ _ _ hi hpc' | childRefused i _ h _ _ hi hpc'
    | childMade i h _ _ hi hpc' =>
        exact hother i h _ hi rfl (by rw [hpc']; simp)
    | recorded i h sess' e hi hpc' he =>
        by_cases hgh : g = h
        · subst hgh
          obtain rfl := UpdatePC.childExecution.inj (hpc.symm.trans hpc')
          exact Or.inl ⟨_, _, getElem?_set_of_some _ he, hok.shows_recorded hi hpc he⟩
        · exact Or.inr ⟨g, mem_set_of_ne _ hi hg hgh, sess, hpc, rfl⟩
    | completed | cancelled | terminated => exact Or.inr ⟨g, hg, sess, hpc, rfl⟩

theorem ListingsOk.children_step (hok : ListingsOk homes t) (hs : t.Step l t') (n : ℕ)
    (e : Execution) (id : String) (he : t'.executions[n]? = some e)
    (hid : e.body.sessionID = some id) : t'.Records id := by
  rcases hs.execution he with ⟨e₀, he₀, hb⟩ | ⟨-, -, hbegun⟩
  · exact hok.records_step hs (hok.children n e₀ id he₀ (hb.keeps.sessionID.symm.trans hid))
  · cases hbegun with
    | container => cases hid
    | session _ h' sess _ _ _ _ hh' hpc' => exact Or.inr ⟨h', hh', sess, hpc', Option.some.inj hid⟩

theorem ListingsOk.records_of_running (hok : ListingsOk homes t) {n : ℕ}
    (hn : t.running (sessionWorkflowID id) = some n) : t.Records id := by
  obtain ⟨e, he, hw, -⟩ := Temporal.running_eq_some hn
  cases hb : e.body with
  | container cid s =>
      have hname := hok.names n e cid he (by rw [hb]; rfl)
      exact absurd (hw.symm.trans hname) (sessionWorkflowID_ne_container id cid)
  | session s =>
      have hid : e.body.sessionID = some s.session.id := by rw [hb]; rfl
      have hname := (hok.found.workflows n e _ he hid).1
      obtain rfl := sessionWorkflowID_inj.1 (hw.symm.trans hname)
      exact hok.children n e _ he hid

/-- **A step keeps what is accounted for.**  The handler that has the row in its hands keeps it
until its workflow lists it, or finds that the session has a running workflow. -/
theorem ListingsOk.accounts_step (hok : ListingsOk homes t) (hs : t.Step l t')
    (hhoused : HousedStep homes t l) (h : t.Accounts κ id) : t'.Accounts κ id := by
  rcases h with h | ⟨g, hg, hheld⟩
  · exact Or.inl (hs.shows h)
  · have hrecords : t.Records id → t'.Records id := hok.records_step hs
    -- it is enough to look at the handler when it is the one that moves
    have hmoves : ∀ (i : ℕ) (h h' : UpdateHandler), t.handlers[i]? = some h →
        t'.handlers = t.handlers.set i h' →
          (κ.held h.pc = some id → t'.Accounts κ id ∨ κ.held h'.pc = some id) → t'.Accounts κ id := by
      intro i h h' hi heq hmove
      by_cases hgh : g = h
      · subst hgh
        rcases hmove hheld with hacc | hheld'
        · exact hacc
        · exact Or.inr ⟨h', heq ▸ List.mem_of_getElem? (getElem?_set_of_some h' hi), hheld'⟩
      · exact Or.inr ⟨g, heq ▸ mem_set_of_ne h' hi hg hgh, hheld⟩
    cases hs with
    | started | accepted => exact Or.inr ⟨g, List.mem_append_left _ hg, hheld⟩
    | acted i h k x x' a w hi hpc hx =>
        refine hmoves i h _ hi rfl fun hw => Or.inr ?_
        rw [hpc] at hw
        exact (Activity.step_spec hx).1.written (Or.inl hw)
    | retried i h e k x err req hi hpc he hrun hres | failed i now h k x err hi hpc hres =>
        refine hmoves i h _ hi rfl fun hw => ?_
        rw [hpc] at hw
        rcases Listed.written_of_returns hw hres with ⟨-, inst, hr, -⟩ | ⟨-, sess, hr, -⟩ <;> cases hr
    | opened i now h k x sess hi hpc hres =>
        refine hmoves i h _ hi rfl fun hw => Or.inr ?_
        rw [hpc] at hw
        rcases Listed.written_of_returns hw hres with ⟨-, inst, hr, -⟩ | ⟨rfl, sess', hr, rfl⟩
        · cases hr
        · cases hr
          rfl
    | succeeded i now h e k x res hi hpc he hrun hres hsess =>
        refine hmoves i h _ hi rfl fun hw => Or.inl (Or.inl ?_)
        rw [hpc] at hw
        rcases Listed.written_of_returns hw hres with ⟨rfl, inst, hr, rfl⟩ | ⟨-, sess, hr, -⟩
        · cases hr
          obtain ⟨e', he', hl⟩ := hok.lists h (List.mem_of_getElem? hi)
          obtain rfl := Option.mem_unique he he'
          have hcid : e.body.containerID = some (Listed.agent.home homes inst.id) :=
            (hl.of_held (by rw [hpc]; exact hw)).1
          exact ⟨_, _, getElem?_set_of_some _ he,
            Listed.shows_succeed.2 (Or.inr ⟨inst, _, rfl, rfl, rfl, hcid⟩)⟩
        · cases hr
          exact absurd rfl (hsess sess)
    | childRefused i err h sess e hi hpc hwhy =>
        refine hmoves i h _ hi rfl fun hw => Or.inl ?_
        rw [hpc] at hw
        cases κ with
        | agent => cases hw
        | session =>
            obtain rfl := Option.some.inj hw
            rcases hwhy with rfl | ⟨n, hn⟩
            · cases hhoused.2 i _ rfl
            · exact (hrecords (hok.records_of_running hn)).accounts
    | childMade i h sess e hi hpc =>
        refine hmoves i h _ hi rfl fun hw => Or.inr ?_
        rw [hpc] at hw
        cases κ with
        | agent => cases hw
        | session => exact hw
    | recorded i h sess e hi hpc he =>
        refine hmoves i h _ hi rfl fun hw => Or.inl (Or.inl ?_)
        rw [hpc] at hw
        cases κ with
        | agent => cases hw
        | session =>
            obtain rfl := Option.some.inj hw
            exact ⟨_, _, getElem?_set_of_some _ he, hok.shows_recorded hi hpc he⟩
    | completed | cancelled | terminated => exact Or.inr ⟨g, hg, hheld⟩

/-- **A row after a step** was there, or it is in the hands of the handler that has written it. -/
theorem ListingsOk.has_step (hok : ListingsOk homes t) (hs : t.Step l t')
    (hhoused : HousedStep homes t l) (h : κ.Has t'.world.store id) :
    κ.Has t.world.store id ∨ t'.Accounts κ id := by
  cases hs with
  | acted i g k x x' a w hi hpc hx =>
      obtain ⟨hnext, hst⟩ := Activity.step_spec hx
      obtain ⟨cid, hl⟩ := hok.lists_of hi hpc
      obtain ⟨c, hrow⟩ := Option.isSome_iff_exists.1 h
      dsimp only at hrow
      rw [hst] at hrow
      rcases Listed.row_stored hrow with hold | ⟨htook, r, hw, he⟩
      · exact Or.inl (Option.isSome_of_eq_some hold)
      · rcases (hl.writes hw he).2 with hhas | hwriting
        · exact Or.inl hhas
        · have ho := (hhoused.1 x (Temporal.executing_eq hi hpc)).ok_of_writing hwriting htook
          exact Or.inr (Or.inr ⟨_, List.mem_of_getElem? (getElem?_set_of_some _ hi),
            hnext.written (Or.inr ⟨hwriting, ho⟩)⟩)
  | started | accepted | retried | opened | succeeded | failed | childRefused | childMade | recorded
  | completed | cancelled | terminated => exact Or.inl h

theorem ListingsOk.step (hok : ListingsOk homes t) (hhoused : HousedStep homes t l)
    (h : t.step l = some t') : ListingsOk homes t' :=
  have hs := Temporal.step_spec h
  { found := hok.found.step hhoused.container h
    names := hok.names_step hs
    keyed := hok.keyed_step hs
    rows := hok.rows_step hs
    shown := hok.shown_step hs
    lists := hok.lists_step hs hhoused
    complete := fun κ id hhas =>
      (hok.has_step hs hhoused hhas).elim
        (fun hold => hok.accounts_step hs hhoused (hok.complete κ id hold)) fun hnew => hnew
    children := hok.children_step hs }

end

/-- No update of the container's running workflow is under way. -/
def Temporal.AtRest (t : Temporal) (containerID : String) : Prop :=
  ∀ h ∈ t.handlers, ∀ e, t.live h.execution = some e → e.body.containerID = some containerID →
    ∃ res, h.pc = .returned res

/-- What the store lists for a container is what the workflows of the container list. -/
structure ListingsAgree (t : Temporal) (containerID : String) : Prop where
  agents : ∀ id, (∃ row ∈ t.world.store.listAgentInstances containerID, row.id = id) ↔
    ∃ e ∈ t.executions, e.body.containerID = some containerID ∧
      ∃ inst ∈ e.body.listAgents, inst.id = id
  sessions : ∀ id, (∃ row ∈ t.world.store.listSessions containerID, row.id = id) ↔
    ∃ e ∈ t.executions, e.body.containerID = some containerID ∧
      ∃ sess ∈ e.body.listSessions, sess.id = id

section

variable {homes : Homes} {t : Temporal} {containerID id : String}

theorem mem_listBy_iff {ρ : Type} {key ref : ρ → String} {tbl : Table String ρ key}
    (hne : containerID ≠ "") : (∃ row ∈ MemoryStore.listBy tbl ref containerID, key row = id) ↔
      (tbl.get id).map ref = some containerID := by
  have hmem : ∀ row, row ∈ MemoryStore.listBy tbl ref containerID ↔
      tbl.get (key row) = some row ∧ ref row = containerID := by
    intro row
    simp [MemoryStore.listBy, List.mem_filter, Table.mem_toList, hne]
  rw [Option.map_eq_some_iff]
  constructor
  · rintro ⟨row, hrow, rfl⟩
    exact ⟨row, (hmem row).1 hrow⟩
  · rintro ⟨row, hget, href⟩
    obtain rfl := Table.key_of_get hget
    exact ⟨row, (hmem row).2 ⟨hget, href⟩, rfl⟩

/-- The values of a map whose entries are under their own ids. -/
theorem mem_mapsValues_iff {ν : Type} {m : GoMap String ν} {key : ν → String}
    (hkey : ∀ k v, m.lookup k = some v → key v = k) :
    (∃ v ∈ mapsValues m, key v = id) ↔ ∃ v, m.lookup id = some v := by
  constructor
  · rintro ⟨v, hv, rfl⟩
    obtain ⟨⟨k, v'⟩, hkv, rfl⟩ := List.mem_map.1 hv
    have hl : m.lookup k = some v' := AList.mem_lookup_iff.2 hkv
    exact ⟨v', (hkey k v' hl).symm ▸ hl⟩
  · rintro ⟨v, hl⟩
    exact ⟨v, List.mem_map.2 ⟨⟨id, v⟩, AList.mem_lookup_iff.1 hl, rfl⟩, hkey id v hl⟩

/-- A handler that has a row of the container in its hands is one of its running workflow: the
handlers of a workflow that is closed have returned. -/
theorem ListingsOk.not_held (hok : ListingsOk homes t) (hserved : ServedOk t) {κ : Listed}
    (hrest : t.AtRest (κ.home homes id)) {h : UpdateHandler} (hh : h ∈ t.handlers) :
    κ.held h.pc ≠ some id := by
  intro hheld
  obtain ⟨e, he, hl⟩ := hok.lists h hh
  have hcid := (hl.of_held hheld).1
  obtain ⟨res, hpc⟩ : ∃ res, h.pc = .returned res := by
    by_cases hrun : e.status = .running
    · exact hrest h hh e (Temporal.live_eq_some.2 ⟨he, hrun⟩) hcid
    · exact hserved.closed h hh e _ he hcid hrun
  rw [hpc] at hheld
  cases κ <;> cases hheld

/-- **When no update is under way** what has a row for the container is listed by a workflow of the
container, and the other way round. -/
theorem ListingsOk.agree (hok : ListingsOk homes t) (hserved : ServedOk t)
    (hrest : t.AtRest containerID) (κ : Listed) :
    κ.row t.world.store id = some containerID ↔
      ∃ e ∈ t.executions, e.body.containerID = some containerID ∧ κ.Shows e.body id := by
  constructor
  · intro hrow
    obtain rfl := hok.rows κ id containerID hrow
    rcases hok.complete κ id (Option.isSome_of_eq_some hrow) with ⟨n, e, he, hsh⟩ | ⟨h, hh, hheld⟩
    · exact ⟨e, List.mem_of_getElem? he, (hok.shown κ n e id he hsh).1, hsh⟩
    · exact absurd hheld (hok.not_held hserved hrest hh)
  · rintro ⟨e, he, hcid, hsh⟩
    obtain ⟨n, hn⟩ := List.mem_iff_getElem?.1 he
    obtain ⟨hhome, hhas⟩ := hok.shown κ n e id hn hsh
    obtain ⟨c, hrow⟩ := Option.isSome_iff_exists.1 hhas
    rw [hrow, hok.rows κ id c hrow, ← hhome, hcid]

theorem ListingsOk.listingsAgree (hok : ListingsOk homes t) (hserved : ServedOk t)
    (hne : containerID ≠ "") (hrest : t.AtRest containerID) : ListingsAgree t containerID where
  agents id := by
    refine (mem_listBy_iff hne).trans ((hok.agree hserved hrest .agent).trans ?_)
    refine exists_congr fun e => and_congr_right fun he => and_congr_right fun _ => ?_
    obtain ⟨n, hn⟩ := List.mem_iff_getElem?.1 he
    exact (mem_mapsValues_iff (hok.keyed n e hn).agents).symm
  sessions id := by
    refine (mem_listBy_iff hne).trans ((hok.agree hserved hrest .session).trans ?_)
    refine exists_congr fun e => and_congr_right fun he => and_congr_right fun _ => ?_
    obtain ⟨n, hn⟩ := List.mem_iff_getElem?.1 he
    exact (mem_mapsValues_iff (hok.keyed n e hn).sessions).symm

theorem ListingsOk.new {w : World} {conflict : ConflictPolicy} (ha : w.store.agents = Table.empty)
    (hw : w.store.sessions = Table.empty) : ListingsOk homes { world := w, conflict } := by
  have hnone : ∀ (κ : Listed) id, κ.row w.store id = none := by
    intro κ id
    cases κ with
    | agent => rw [Listed.row, ha]; rfl
    | session => rw [Listed.row, hw]; rfl
  exact
    { found := .new hw
      names := fun n e id he => by cases he
      keyed := fun n e he => by cases he
      rows := fun κ id cid hrow => by cases (hnone κ id).symm.trans hrow
      shown := fun κ n e id he => by cases he
      lists := fun h hh => by cases hh
      complete := fun κ id hhas => by
        rw [Listed.Has, hnone κ id] at hhas
        cases hhas
      children := fun n e id he => by cases he }

end

/-- **The two listings agree.**  Whenever no update of a container's running workflow is under way,
by whatever interleaving of client calls, retries, failures, cancellations of session workflows and
terminations the namespace was reached, the agents and sessions that the metadata store lists for
the container are those that the workflows of the container list. -/
theorem listings_agree {homes : Homes} {w : World} {conflict : ConflictPolicy}
    {l : List TemporalLabel} {t : Temporal} (ha : w.store.agents = Table.empty)
    (hw : w.store.sessions = Table.empty)
    (hl : Along Temporal.step (HousedStep homes) { world := w, conflict } l)
    (h : exec Temporal.step { world := w, conflict } l = some t) {containerID : String}
    (hne : containerID ≠ "") (hrest : t.AtRest containerID) : ListingsAgree t containerID := by
  have hok : ListingsOk homes t :=
    exec_invariant (fun _ _ _ hok hC hs => ListingsOk.step hok hC hs) (.new ha hw) hl h
  have hserved : ServedOk t :=
    exec_invariant_of_step (fun _ _ _ hok hs => hok.step hs) (ServedOk.new w conflict) h
  exact hok.listingsAgree hserved hne hrest

/-- All agents and sessions belong to one container. -/
def oneHome : Homes := ⟨fun _ => "ctr_1", fun _ => "ctr_1"⟩

/-- `listings_agree` applies when the session has been opened: the workflow of the container lists
it, and so does the store. -/
theorem startsSession_listed :
    ∃ t ∈ exec Temporal.step { world := emptyWorld }
        (startsContainer ++ actCall 1 (.session openedSession) :: startsSession),
      ∃ row ∈ t.world.store.listSessions "ctr_1", row.id = "sess_1" := by
  have hl : Along Temporal.step (HousedStep oneHome) { world := emptyWorld }
      (startsContainer ++ actCall 1 (.session openedSession) :: startsSession) := by
    refine along_opening (fun t lab hp => ⟨.of_plain (fun a x hr ho => ?_) hp, ?_⟩)
      (fun t ht => ⟨fun x hx => ?_, by simp [actCall]⟩) startsSession_plain
    · unfold Housed
      split <;> simp [hr, ho, Outcome.Definite]
    · rintro i err rfl
      exact hp
    · obtain rfl := Option.some.inj ht
      obtain rfl := Option.some.inj hx
      exact fun s hs => Reply.session.inj hs ▸ ⟨rfl, rfl⟩
  have hrest : ∀ t ∈ exec Temporal.step { world := emptyWorld }
      (startsContainer ++ actCall 1 (.session openedSession) :: startsSession), t.AtRest "ctr_1" := by
    intro t ht h hh _ _ _
    obtain rfl := Option.some.inj ht
    rcases List.mem_cons.1 hh with rfl | hh
    · exact ⟨_, rfl⟩
    · obtain rfl := List.mem_singleton.1 hh
      exact ⟨_, rfl⟩
  exact ⟨_, rfl, ((listings_agree rfl rfl hl rfl (by decide) (hrest _ rfl)).sessions "sess_1").2
    ⟨_, List.mem_of_getElem? (i := 0) rfl, rfl, openedSession, List.mem_singleton.2 rfl, rfl⟩⟩

end Workflows
end Agentd
