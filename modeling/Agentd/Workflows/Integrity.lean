/-
# The rows of the store refer to each other

A session row names a container and an agent instance, a run row a session, a container and
an agent instance.  The rows are written by different activities, from records that were
made in a supervisor, with copies that were read long before, and with errors that are
dropped.  They agree nevertheless (`integral_of_disciplined`), in every state that the
activities and the nodes can reach, provided that a session is created with a new id and
for an agent instance that an `EnsureAgent` for the container has returned, as
`handleCreateSession` does, and that the containers of a node have sockets of their own.
Nothing sees to the last: with the ids `ctr_1` and `./ctr_1` the calls for one container reach the
supervisor of the other, and a session row names a container that is not stored
(`aliasedSession_not_integral`).

The reason is that a row is only ever replaced by one for the same things: an id of an
agent instance or a session stands for what it was made for (`IDs`), wherever it is.  An
activity has a row of a session in its hands only when the rows that it names are stored,
and no row is ever taken out.
-/

import Agentd.Workflows.NamedIDs
import Agentd.Supervisor.EnsureAgent

namespace Agentd
namespace Workflows

open Control Store NodeRuntime Supervisor Concurrency

/-- A container is stored under the id. -/
def HasContainer (s : MemoryStore) (id : String) : Prop := ∃ c, s.containers.get id = some c

/-- An agent instance of the container is stored under the id. -/
def HasAgent (s : MemoryStore) (id container : String) : Prop :=
  ∃ i, s.agents.get id = some i ∧ i.containerID = container

/-- A session is stored under the id. -/
def HasSession (s : MemoryStore) (id : String) : Prop := ∃ x, s.sessions.get id = some x

/-- What the session names is stored: its container, and an agent instance of that. -/
def Grounded (s : MemoryStore) (x : Session) : Prop :=
  HasContainer s x.containerID ∧ HasAgent s x.agentInstanceID x.containerID

/-- The run names the session, and its container and agent instance. -/
structure OfSession (x : Session) (r : Run) : Prop where
  sessionID : r.sessionID = x.id
  containerID : r.containerID = x.containerID
  agentInstanceID : r.agentInstanceID = x.agentInstanceID

/-- **Referential integrity**: each session row names a stored container and a stored agent
instance of that container, and each run row a stored session with the run's container and
agent instance. -/
structure Integral (s : MemoryStore) : Prop where
  sessions : ∀ id x, s.sessions.get id = some x → Grounded s x
  runs : ∀ id r, s.runs.get id = some r → ∃ x, s.sessions.get r.sessionID = some x ∧ OfSession x r

/-- The container and the agent instance of an `EnsureAgent` that has succeeded. -/
def Activity.ensured : Activity → Option (String × String)
  | .container (.ensureAgent (.returned req (.ok inst))) => some (req.containerID, inst.id)
  | _ => none

/-- The condition on what is asked for and made: `NewID` is fresh; `CreateSession` comes without
a session id, and with the id of an agent instance that an `EnsureAgent` for the container has
returned; and `LoadSession` does not come. -/
def Orderly (p : Pool Site Job) : SiteLabel → Prop
  | .jobs (.spawn (.createSession req)) =>
      req.sessionID = "" ∧
        ∃ job ∈ p.threads, job.activity.ensured = some (req.containerID, req.agentInstanceID)
  | .jobs (.spawn (.loadSession _)) => False
  | .jobs _ => True
  | .supervisor _ _ l => FreshID p.shared.ids l

/-- `Runner.Prompt` returns what it can return for the `Prompt` that has begun. -/
def Prompts (p : Pool Site Job) : SiteLabel → Prop
  | .jobs (.step i (.finish run)) =>
      ∀ job b, p.threads[i]? = some job → job.waiting = some (.prompted b) → RunReply b run
  | _ => True

/-- A condition on the steps of the site. -/
def OnSite (C : Pool Site Job → SiteLabel → Prop) (p : Pool Site Job) : LinkedLabel → Prop
  | .site l => C p l
  | .listen _ _ | .redial _ _ | .findThrough _ _ _ => True

/-- A call goes out through a socket of a node where containers have sockets of their own. -/
def Separate (p : Pool Site Job) : LinkedLabel → Prop
  | .redial i _ => ∀ job ∈ p.threads[i]?, ∀ k ∈ job.activity.callsNode, p.shared.SocketsApart k
  | .site _ | .listen _ _ | .findThrough _ _ _ => True

/-- The condition on a run. -/
structure Disciplined (p : Pool Site Job) (l : LinkedLabel) : Prop where
  orderly : OnSite Orderly p l
  prompts : OnSite Prompts p l
  separate : Separate p l

/-- The rows of a store are integral and have known ids. -/
structure StoreOk (ids : IDs) (s : MemoryStore) : Prop extends Integral s where
  agentIDs : ∀ id i, s.agents.get id = some i → ids.KnowsAgent i
  sessionIDs : ∀ id x, s.sessions.get id = some x → ids.KnowsSession x

/-- A row that may be written. -/
def RowOk (ids : IDs) (s : MemoryStore) : Row → Prop
  | .agent i => ids.KnowsAgent i
  | .session x => ids.KnowsSession x ∧ Grounded s x
  | .run r => ∃ x, s.sessions.get r.sessionID = some x ∧ OfSession x r
  | .container _ | .audit _ => True

/-- What is stored stays stored. -/
structure Preserves (s s' : MemoryStore) : Prop where
  containers : ∀ id, HasContainer s id → HasContainer s' id
  agents : ∀ id c, HasAgent s id c → HasAgent s' id c
  sessions : ∀ id, HasSession s id → HasSession s' id

theorem Preserves.refl (s : MemoryStore) : Preserves s s :=
  ⟨fun _ h => h, fun _ _ h => h, fun _ h => h⟩

section

variable {ids ids' : IDs} {s s' : MemoryStore} {a : Answer} {row : Option Row}

theorem Preserves.grounded {x : Session} (hk : Preserves s s') (h : Grounded s x) :
    Grounded s' x := ⟨hk.containers _ h.1, hk.agents _ _ h.2⟩

theorem exists_storedIn {κ ρ : Type} [DecidableEq κ] {key : ρ → κ} {t : Table κ ρ key}
    (r : Option ρ) {k : κ} (h : ∃ x, t.get k = some x) : ∃ x, (storedIn a r t).get k = some x :=
  Option.isSome_iff_exists.1 (storedIn_isSome r (Option.isSome_iff_exists.2 h))

/-- A written row keeps what is stored. -/
theorem StoreOk.preserves (h : StoreOk ids s)
    (hrow : a.outcome.took = true → ∀ r, row = some r → RowOk ids s r) :
    Preserves s (stored a row s) where
  containers id hc := by
    unfold HasContainer
    rw [stored_containers]
    exact exists_storedIn _ hc
  agents id c := by
    rintro ⟨i, hget, rfl⟩
    unfold HasAgent
    rw [stored_agents]
    obtain ⟨i', hget'⟩ := exists_storedIn (a := a) (row.bind Row.agent?) ⟨i, hget⟩
    refine ⟨i', hget', ?_⟩
    rcases storedIn_cases hget' with hold | ⟨hnew, hid, htook⟩
    · rw [Option.mem_unique hget hold]
    · have hknown : ids.KnowsAgent i' := hrow htook _ (RowKind.agents.eq hnew)
      exact hknown.containerID (h.agentIDs id i hget) (hid.trans (Table.key_of_get hget).symm)
  sessions id hx := by
    unfold HasSession
    rw [stored_sessions]
    exact exists_storedIn _ hx

/-- A run of a session is one of every session that has the known id. -/
theorem OfSession.transport {x x' : Session} {r : Run} (h : OfSession x r)
    (hx : ids.KnowsSession x) (hx' : ids.KnowsSession x') (hid : x'.id = x.id) :
    OfSession x' r := by
  obtain ⟨hc, ha⟩ := hx'.same hx hid
  exact ⟨h.sessionID.trans hid.symm, h.containerID.trans hc.symm, h.agentInstanceID.trans ha.symm⟩

/-- **A written row leaves the store in order.** -/
theorem StoreOk.stored (h : StoreOk ids s)
    (hrow : a.outcome.took = true → ∀ r, row = some r → RowOk ids s r) :
    StoreOk ids (stored a row s) := by
  have hk := h.preserves hrow
  have hsessionIDs : ∀ id x, (Workflows.stored a row s).sessions.get id = some x →
      ids.KnowsSession x := by
    intro id x hget
    rw [stored_sessions] at hget
    rcases storedIn_cases hget with hold | ⟨hnew, -, htook⟩
    · exact h.sessionIDs id x hold
    · exact (hrow htook _ (RowKind.sessions.eq hnew)).1
  have hrun : ∀ r, (∃ x, s.sessions.get r.sessionID = some x ∧ OfSession x r) →
      ∃ x, (Workflows.stored a row s).sessions.get r.sessionID = some x ∧ OfSession x r := by
    rintro r ⟨x, hget, hof⟩
    obtain ⟨x', hget'⟩ := hk.sessions _ ⟨x, hget⟩
    exact ⟨x', hget', hof.transport (h.sessionIDs _ x hget) (hsessionIDs _ x' hget')
      ((Table.key_of_get hget').trans (Table.key_of_get hget).symm)⟩
  refine ⟨⟨?_, ?_⟩, ?_, hsessionIDs⟩
  · intro id x hget
    rw [stored_sessions] at hget
    rcases storedIn_cases hget with hold | ⟨hnew, -, htook⟩
    · exact hk.grounded (h.sessions id x hold)
    · exact hk.grounded (hrow htook _ (RowKind.sessions.eq hnew)).2
  · intro id r hget
    rw [stored_runs] at hget
    rcases storedIn_cases hget with hold | ⟨hnew, -, htook⟩
    · exact hrun r (h.runs id r hold)
    · exact hrun r (hrow htook _ (RowKind.runs.eq hnew))
  · intro id i hget
    rw [stored_agents] at hget
    rcases storedIn_cases hget with hold | ⟨hnew, -, htook⟩
    · exact h.agentIDs id i hold
    · exact hrow htook _ (RowKind.agents.eq hnew)

theorem StoreOk.empty (ids : IDs) : StoreOk ids {} where
  sessions id x hget := by cases hget
  runs id r hget := by cases hget
  agentIDs id i hget := by cases hget
  sessionIDs id x hget := by cases hget

theorem StoreOk.grows (h : StoreOk ids s) (hg : ids.Grows ids') : StoreOk ids' s where
  toIntegral := h.toIntegral
  agentIDs id i hget := hg.agent (h.agentIDs id i hget)
  sessionIDs id x hget := hg.session (h.sessionIDs id x hget)

end

/-- A copy of a session row that is stored: its id is known, and it is grounded. -/
structure Copied (ids : IDs) (s : MemoryStore) (x : Session) : Prop where
  known : ids.KnowsSession x
  grounded : Grounded s x
  stored : HasSession s x.id

/-- A request for a session, of an agent instance that is stored. -/
def AskedFor (s : MemoryStore) (req : SessionRequest) : Prop :=
  Unnamed req ∧ HasAgent s req.agentInstanceID req.containerID

/-- **What an activity has in its hands** is known and stored. -/
def Activity.Sound (ids : IDs) (s : MemoryStore) : Activity → Prop
  | .container (.ensureAgent (.upsertAgentInstance req _ agent)) =>
      ids.KnowsAgent agent ∧ agent.containerID = req.containerID
  | .container (.ensureAgent (.upsertContainer req _ agent))
  | .container (.ensureAgent (.appendAudit req agent))
  | .container (.ensureAgent (.returned req (.ok agent))) => HasAgent s agent.id req.containerID
  | .openSession (.containerNode req) => AskedFor s req
  | .openSession (.nodeOpen req _) => AskedFor s req ∧ HasContainer s req.containerID
  | .openSession (.upsertSession _ sess) => ids.KnowsSession sess ∧ Grounded s sess
  | .session (.prompt (.containerNode req sess)) => Copied ids s sess ∧ req.sessionID = sess.id
  | .session (.prompt (.upsertSession req sess _ run))
  | .session (.prompt (.upsertRun req sess _ run))
  | .session (.prompt (.publishStarted req sess _ run))
  | .session (.prompt (.nodePrompt req sess _ run)) =>
      Copied ids s sess ∧ req.sessionID = sess.id ∧ OfSession sess run
  | .session (.prompt (.upsertFailedRun sess run))
  | .session (.prompt (.upsertFinalRun sess _ run)) => Copied ids s sess ∧ OfSession sess run
  | .session (.prompt (.upsertFailedSession sess _))
  | .session (.prompt (.upsertFinalSession sess _ _))
  | .session (.cancel (.containerNode _ sess))
  | .session (.cancel (.upsertSession _ sess _)) => Copied ids s sess
  | _ => True

/-- What a supervisor may return for the call that the activity is in. -/
def ReplyOk (ids : IDs) (a : Answer) : Activity → Prop
  | .container (.ensureAgent (.nodeEnsureAgent req _ _)) =>
      ∀ inst, a.reply = .agent inst → ids.KnowsAgent inst ∧ inst.containerID = req.containerID
  | .openSession (.nodeOpen req _) =>
      ∀ sess, a.reply = .session sess → ids.KnowsSession sess ∧
        sess.containerID = req.containerID ∧ sess.agentInstanceID = req.agentInstanceID
  | .session (.prompt (.nodePrompt _ sess _ _)) =>
      ∀ final, a.reply = .run final → OfSession sess final
  | _ => True

section

variable {ids ids' : IDs} {s s' : MemoryStore} {w : World} {a : Answer} {x x' : Activity}

theorem Copied.mono {sess : Session} (h : Copied ids s sess) (hg : ids.Grows ids')
    (hk : Preserves s s') : Copied ids' s' sess :=
  ⟨hg.session h.known, hk.grounded h.grounded, hk.sessions _ h.stored⟩

theorem Activity.Sound.mono (h : x.Sound ids s) (hg : ids.Grows ids') (hk : Preserves s s') :
    x.Sound ids' s' := by
  unfold Activity.Sound at h ⊢
  split
  all_goals first
    | exact hk.agents _ _ h
    | exact ⟨hg.agent h.1, h.2⟩
    | exact ⟨h.1, hk.agents _ _ h.2⟩
    | exact ⟨⟨h.1.1, hk.agents _ _ h.1.2⟩, hk.containers _ h.2⟩
    | exact ⟨hg.session h.1, hk.grounded h.2⟩
    | exact ⟨h.1.mono hg hk, h.2⟩
    | exact Copied.mono h hg hk
    | trivial

theorem Copied.runRow {sess : Session} {run : Run} (h : Copied ids s sess) (hs : StoreOk ids s)
    (hrun : OfSession sess run) : RowOk ids s (.run run) := by
  obtain ⟨row, hget⟩ := h.stored
  refine ⟨row, hrun.sessionID ▸ hget, ?_⟩
  exact hrun.transport h.known (hs.sessionIDs _ row hget) (Table.key_of_get hget)

/-- **The row that an activity writes** is one that may be written. -/
theorem Activity.Sound.row (h : x.Sound ids s) (hs : StoreOk ids s) {row : Row}
    (hrow : x.writes a = some row) : RowOk ids s row := by
  cases x with
  | provision x => cases x <;> cases hrow <;> trivial
  | openSession x =>
      cases x with
      | upsertSession req sess => exact Option.some.inj hrow ▸ h
      | appendAudit req sess => exact Option.some.inj hrow ▸ trivial
      | containerNode | nodeOpen | returned => cases hrow
  | container x =>
      cases x with
      | ensureAgent x =>
          cases x with
          | upsertAgentInstance req c agent => exact Option.some.inj hrow ▸ h.1
          | upsertContainer req c agent => exact Option.some.inj hrow ▸ trivial
          | appendAudit req agent => exact Option.some.inj hrow ▸ trivial
          | containerNode | nodeEnsureAgent | returned => cases hrow
      | hibernate x =>
          cases x with
          | upsertContainer c updated => exact Option.some.inj hrow ▸ trivial
          | containerNode | nodeHibernate | returned => cases hrow
      | delete x =>
          cases x with
          | upsertContainer c => exact Option.some.inj hrow ▸ trivial
          | containerNode | nodeDelete | returned => cases hrow
  | session x =>
      cases x with
      | prompt x =>
          cases x with
          | upsertSession req sess k run =>
              exact Option.some.inj hrow ▸ ⟨h.1.known, h.1.grounded⟩
          | upsertRun req sess k run => exact Option.some.inj hrow ▸ h.1.runRow hs h.2.2
          | upsertFailedRun sess run => exact Option.some.inj hrow ▸ h.1.runRow hs h.2
          | upsertFailedSession sess run =>
              exact Option.some.inj hrow ▸ ⟨Copied.known h, Copied.grounded h⟩
          | upsertFinalRun sess run final => exact Option.some.inj hrow ▸ h.1.runRow hs h.2
          | upsertFinalSession sess run final =>
              exact Option.some.inj hrow ▸ ⟨Copied.known h, Copied.grounded h⟩
          | appendAudit final => exact Option.some.inj hrow ▸ trivial
          | getSession | containerNode | publishStarted | nodePrompt | returned => cases hrow
      | cancel x =>
          cases x with
          | upsertSession req sess k =>
              exact Option.some.inj hrow ▸ ⟨Copied.known h, Copied.grounded h⟩
          | getSession | containerNode | publishCancelling | nodeCancel | returned => cases hrow

theorem Copied.congr {sess sess' : Session} (h : Copied ids s sess) (hid : sess'.id = sess.id)
    (hc : sess'.containerID = sess.containerID)
    (ha : sess'.agentInstanceID = sess.agentInstanceID) : Copied ids s sess' := by
  refine ⟨?_, ?_, hid ▸ h.stored⟩
  · unfold IDs.KnowsSession
    rw [hid, hc, ha]
    exact h.known
  · unfold Grounded
    rw [hc, ha]
    exact h.grounded

theorem StoreOk.copied (hs : StoreOk ids s) {id : String} {sess : Session}
    (hget : s.sessions.get id = some sess) : Copied ids s sess ∧ id = sess.id := by
  have hid : sess.id = id := Table.key_of_get hget
  exact ⟨⟨hs.sessionIDs id sess hget, hs.sessions id sess hget, sess, hid ▸ hget⟩, hid.symm⟩

/-- The row of an agent instance is stored after a write that went through. -/
theorem hasAgent_stored {agent : AgentInstance} {c : String} (ho : a.outcome = .ok)
    (hc : agent.containerID = c) : HasAgent (stored a (some (.agent agent)) s) agent.id c := by
  refine ⟨agent, ?_, hc⟩
  rw [stored_agents]
  simp only [Option.bind_some, Row.agent?, storedIn, ho, Outcome.took, if_true]
  exact Table.get_upsert_self _ _

/-- **What an activity has in its hands after a call.** -/
theorem Activity.Next.sound (hnext : x.Next w a x') (hs : StoreOk ids w.store)
    (hx : x.Sound ids w.store) (hreply : ReplyOk ids a x) :
    x'.Sound ids (stored a (x.writes a) w.store) := by
  have hk : Preserves w.store (stored a (x.writes a) w.store) :=
    hs.preserves fun _ row hrow => hx.row hs hrow
  cases hnext with
  | provision h => cases h <;> trivial
  | openSession h =>
      cases h with
      | read req c k hget hnode => exact ⟨hx, c, hget⟩
      | opened req k sess ho hr =>
          obtain ⟨hknown, hc, ha⟩ := hreply sess hr
          refine ⟨hknown, ?_⟩
          unfold Grounded
          rw [hc, ha]
          exact ⟨hx.2, hx.1.2⟩
      | notRead | failed | notStored | stored | audited => trivial
  | ensureAgent h =>
      cases h with
      | ensured req c k agent ho hr => exact hreply agent hr
      | known req c agent ho hmem => exact hasAgent_stored ho hx.2
      | added req c agent ho hmem => exact hasAgent_stored ho hx.2
      | digested req c agent => exact hk.agents _ _ hx
      | audited req agent => exact hk.agents _ _ hx
      | notRead | read | failed | notStored => trivial
  | hibernate h => cases h <;> trivial
  | delete h => cases h <;> trivial
  | prompt h =>
      cases h with
      | read req sess hget => exact hs.copied hget
      | begun req sess k =>
          exact ⟨hx.1.congr rfl rfl rfl, hx.2, rfl, rfl, rfl⟩
      | sessionWritten req sess k run => exact ⟨hx.1.mono (.refl ids) hk, hx.2⟩
      | runWritten req sess k run => exact ⟨hx.1.mono (.refl ids) hk, hx.2⟩
      | announced | event => exact hx
      | failed req sess k run e =>
          exact ⟨hx.1, hx.2.2.sessionID, hx.2.2.containerID, hx.2.2.agentInstanceID⟩
      | ended req sess k run final ho hr => exact ⟨hx.1, hreply final hr⟩
      | failedRunWritten sess run => exact (hx.1.mono (.refl ids) hk).congr rfl rfl rfl
      | runStored sess run final ho => exact (hx.1.mono (.refl ids) hk).congr rfl rfl rfl
      | notRead | noNode | failedSessionWritten | runNotStored | sessionNotStored
      | sessionStored | audited => trivial
  | cancel h =>
      cases h with
      | read req sess hget => exact (hs.copied hget).1
      | begun req sess k => exact Copied.congr hx rfl rfl rfl
      | notRead | noNode | sessionWritten | announced | ended => trivial

/-- **What a call of an activity leaves in the store.** -/
theorem StoreOk.call (hs : StoreOk ids w.store) (hx : x.Sound ids w.store) :
    Preserves w.store (Workflows.stored a (x.writes a) w.store) ∧
      StoreOk ids (Workflows.stored a (x.writes a) w.store) :=
  ⟨hs.preserves fun _ _ hrow => hx.row hs hrow, hs.stored fun _ _ hrow => hx.row hs hrow⟩

end

/-- How far the call of an activity has got: the supervisor that was found is that of the
container; the call that is served is the one that was asked for; and the `Prompt` has begun
with the session that was asked for. -/
structure Job.Waits (s : Site) (job : Job) : Prop where
  found : ∀ k req n, job.activity.asks = some (k, req) → job.waiting = some (.found n) →
    ∃ sup, s.supervisor? k n = some sup ∧ containerOf req = sup.shared.containerID
  served : ∀ k req n j, job.activity.asks = some (k, req) → job.waiting = some (.served n j) →
    ∃ sup c, s.supervisor? k n = some sup ∧ sup.threads[j]? = some c ∧ requestOf c = req
  prompted : ∀ req sess k run b, job.activity = .session (.prompt (.nodePrompt req sess k run)) →
    job.waiting = some (.prompted b) →
    b.sess.id = req.sessionID ∧
      s.ids.sessions.lookup b.sess.id = some (b.containerID, b.sess.agentInstanceID)

/-- **The invariant.** -/
structure SiteOk (p : Pool Site Job) : Prop where
  runners : ∀ k, RunnerOk p.shared.ids (p.shared.world.runner k)
  store : StoreOk p.shared.ids p.shared.world.store
  sound : ∀ (i : ℕ) job, p.threads[i]? = some job →
    job.activity.Sound p.shared.ids p.shared.world.store
  waits : ∀ (i : ℕ) job, p.threads[i]? = some job → job.Waits p.shared

/-- A site goes on: nothing that the ids stand for is lost, nothing that is stored, and no
supervisor. -/
structure SiteGoesOn (s s' : Site) : Prop where
  ids : s.ids.Grows s'.ids
  store : Preserves s.world.store s'.world.store
  runners : ∀ k, Continues (s.world.runner k) (s'.world.runner k)

section

variable {s s' : Site} {job job' : Job} {p q : Pool Site Job} {i : ℕ}

theorem Job.Waits.of_none (h : job.waiting = none) : job.Waits s where
  found k req n _ hw := by
    rw [h] at hw
    cases hw
  served k req n j _ hw := by
    rw [h] at hw
    cases hw
  prompted req sess k run b _ hw := by
    rw [h] at hw
    cases hw

theorem Job.Waits.goesOn (h : job.Waits s) (hs : SiteGoesOn s s') : job.Waits s' where
  found k req n hasks hw := by
    obtain ⟨sup, hsup, hid⟩ := h.found k req n hasks hw
    obtain ⟨sup', hsup', hgo⟩ := hs.runners k n sup hsup
    exact ⟨sup', hsup', hid.trans hgo.containerID.symm⟩
  served k req n j hasks hw := by
    obtain ⟨sup, c, hsup, hc, hreq⟩ := h.served k req n j hasks hw
    obtain ⟨sup', hsup', hgo⟩ := hs.runners k n sup hsup
    obtain ⟨c', hc', hreq'⟩ := hgo.calls j c hc
    exact ⟨sup', c', hsup', hc', hreq'.trans hreq⟩
  prompted req sess k run b hx hw := by
    obtain ⟨hid, hlookup⟩ := h.prompted req sess k run b hx hw
    exact ⟨hid, hs.ids.sessions _ _ hlookup⟩

/-- The activities after a step that leaves them where they are. -/
theorem SiteOk.goesOn (h : SiteOk p) (hs : SiteGoesOn p.shared s')
    (hrunners : ∀ k, RunnerOk s'.ids (s'.world.runner k))
    (hstore : StoreOk s'.ids s'.world.store) : SiteOk { p with shared := s' } where
  runners := hrunners
  store := hstore
  sound j d hd := (h.sound j d hd).mono hs.ids hs.store
  waits j d hd := (h.waits j d hd).goesOn hs

theorem SiteOk.withPrompts (h : SiteOk p) (prompts : List PromptStart) :
    SiteOk { p with shared := { p.shared with prompts } } :=
  h.goesOn ⟨.refl _, .refl _, fun _ => .of_eq rfl⟩ h.runners h.store

theorem SiteOk.set (h : SiteOk p) (hsound : job'.activity.Sound p.shared.ids p.shared.world.store)
    (hwaits : job'.Waits p.shared) : SiteOk { p with threads := p.threads.set i job' } where
  runners := h.runners
  store := h.store
  sound j d hd := by
    rcases getElem?_set_cases hd with ⟨-, rfl⟩ | ⟨-, hd⟩
    · exact hsound
    · exact h.sound j d hd
  waits j d hd := by
    rcases getElem?_set_cases hd with ⟨-, rfl⟩ | ⟨-, hd⟩
    · exact hwaits
    · exact h.waits j d hd

/-- The runner of a node goes on. -/
theorem SiteOk.setRunner {k : String} {r : Runner} {ids' : IDs} (h : SiteOk p)
    (hgo : Continues (p.shared.world.runner k) r) (hg : p.shared.ids.Grows ids')
    (hok : RunnerOk ids' r) :
    SiteOk { p with
      shared := { p.shared with world := p.shared.world.setRunner k r, ids := ids' } } := by
  refine h.goesOn ⟨hg, .refl _, fun k' => ?_⟩ (fun k' => ?_) (h.store.grows hg)
  · by_cases hk : k' = k
    · subst hk
      simpa only [World.setRunner, Function.update_self] using hgo
    · simp only [World.setRunner, Function.update_of_ne hk]
      exact .of_eq rfl
  · by_cases hk : k' = k
    · subst hk
      simpa only [World.setRunner, Function.update_self] using hok
    · simp only [World.setRunner, Function.update_of_ne hk]
      exact (h.runners k').grows hg

/-- A supervisor of the site moves. -/
theorem SiteOk.setSupervisor {k : String} {n : ℕ} {sup sup' : Pool Manager ManagerCall}
    {ids' : IDs} (h : SiteOk p) (hsup : p.shared.supervisor? k n = some sup)
    (hgo : GoesOn sup sup') (hg : p.shared.ids.Grows ids') (hok : SupervisorOk ids' sup') :
    SiteOk { p with shared := { p.shared.setSupervisor k n sup' with ids := ids' } } :=
  h.setRunner (.set hsup hgo) hg ((h.runners k).set hg hsup hgo hok)

theorem Activity.Sound.asked {x : Activity} {ids : IDs} {store : MemoryStore} {k : String}
    {req : ManagerRequest} {m : Manager} (h : x.Sound ids store) (hasks : x.asks = some (k, req))
    (hm : containerOf req = m.containerID) : Asked m req := by
  unfold Activity.asks at hasks
  split at hasks
  · obtain ⟨rfl, rfl⟩ := some_pair_inj hasks
    exact hm
  · obtain ⟨rfl, rfl⟩ := some_pair_inj hasks
    exact ⟨h.1.1, hm⟩
  · cases hasks

/-- **What a supervisor has returned** for the call that the activity is in. -/
theorem SupervisorOk.replyOk {ids : IDs} {sup : Pool Manager ManagerCall} {j : ℕ}
    {c : ManagerCall} {reply : Reply} {x : Activity} {k : String} (h : SupervisorOk ids sup)
    (hc : sup.threads[j]? = some c) (hreply : replyOf c = some reply)
    (hasks : x.asks = some (k, requestOf c)) : ReplyOk ids { reply } x := by
  have hnamed := h.calls j c hc
  have hspeaks := h.replies.calls j c hc
  unfold replyOf at hreply
  split at hreply
  · next req inst =>
      obtain rfl := Option.some.inj hreply
      unfold Activity.asks at hasks
      split at hasks
      · obtain ⟨-, hreq⟩ := some_pair_inj hasks
        obtain rfl := ManagerRequest.ensureAgent.inj hreq
        rintro inst' hinst
        obtain rfl := Reply.agent.inj hinst
        exact ⟨hnamed.2, Eq.trans hspeaks hnamed.1.symm⟩
      · cases (some_pair_inj hasks).2
      · cases hasks
  · next req sess =>
      obtain rfl := Option.some.inj hreply
      unfold Activity.asks at hasks
      split at hasks
      · cases (some_pair_inj hasks).2
      · obtain ⟨-, hreq⟩ := some_pair_inj hasks
        obtain rfl := ManagerRequest.session.inj hreq
        rintro sess' hsess
        obtain rfl := Reply.session.inj hsess
        obtain ⟨-, hcontainer, hagent⟩ := hspeaks
        exact ⟨hnamed.2.2, hcontainer.trans hnamed.2.1.symm, hagent⟩
      · cases hasks
  · cases hreply

theorem replyOk_of_plain {ids : IDs} {a : Answer} (h : a.reply.fromSupervisor = false)
    (x : Activity) : ReplyOk ids a x := by
  unfold ReplyOk
  split
  · intro inst hr
    rw [hr] at h
    cases h
  · intro sess hr
    rw [hr] at h
    cases h
  · intro run hr
    rw [hr] at h
    cases h
  · trivial

/-- **What `Runner.Prompt` returns** for the prompt that the activity is in. -/
theorem Job.Waits.replyOk {b : PromptStart} {run : Run} (h : job.Waits s)
    {store : MemoryStore} (hx : job.activity.Sound s.ids store)
    (hw : job.waiting = some (.prompted b)) (hrun : RunReply b run) :
    ReplyOk s.ids { reply := .run run } job.activity := by
  unfold ReplyOk
  split
  · intro inst hr
    cases hr
  · intro sess hr
    cases hr
  · next req sess k r hact =>
      intro run' hr
      obtain rfl := Reply.run.inj hr
      rw [hact] at hx
      obtain ⟨hcopied, hid, -⟩ := hx
      obtain ⟨hbid, hlookup⟩ := h.prompted req sess k r b hact hw
      have hsess : b.sess.id = sess.id := hbid.trans hid
      rw [hsess] at hlookup
      obtain ⟨hc, ha⟩ := Prod.mk.inj (Option.mem_unique hlookup hcopied.known)
      have hof := hrun.runOf
      exact ⟨hof.sessionID.trans hsess, hof.containerID.trans hc, hof.agentInstanceID.trans ha⟩
  · trivial

/-- An activity that stays in the call of a supervisor stays where it is. -/
theorem Activity.Next.atSupervisor {w : World} {a : Answer} {x x' : Activity}
    (hnext : x.Next w a x') (hx : x.atSupervisor = true) (hx' : x'.atSupervisor = true) :
    x' = x := by
  cases hnext with
  | provision h => cases hx
  | openSession h =>
      cases h with
      | failed | opened => cases hx'
      | notRead | read | notStored | stored | audited => cases hx
  | ensureAgent h =>
      cases h with
      | failed | ensured => cases hx'
      | notRead | read | notStored | known | added | digested | audited => cases hx
  | hibernate h => cases hx
  | delete h => cases hx
  | prompt h =>
      cases h with
      | event => rfl
      | failed | ended => cases hx'
      | notRead | read | noNode | begun | sessionWritten | runWritten | announced
      | failedRunWritten | failedSessionWritten | runNotStored | runStored | sessionNotStored
      | sessionStored | audited => cases hx
  | cancel h => cases hx

/-- **A call of an activity** that no supervisor answers. -/
theorem SiteOk.called {a : Answer} {w' : World} {x' : Activity} (h : SiteOk p)
    (hi : p.threads[i]? = some job) (hreply : a.reply.fromSupervisor = false)
    (hstep : job.activity.step p.shared.world a = some (w', x')) :
    SiteOk
      { shared := { p.shared with world := w' }
        threads := p.threads.set i
          { activity := x'
            waiting :=
              if job.activity.atSupervisor && x'.atSupervisor then job.waiting else none } } := by
  obtain ⟨hnext, hstore⟩ := Activity.step_spec hstep
  have hrunner := (Activity.step_moved hstep).runner
  have hx := h.sound i job hi
  obtain ⟨hpres, hstoreOk⟩ := h.store.call (a := a) hx
  have hnodes := Activity.nodes_ok a job.activity h.runners
  have hgo : SiteGoesOn p.shared { p.shared with world := w' } := by
    refine ⟨.refl _, ?_, fun k => ?_⟩
    · exact hstore ▸ hpres
    · exact hrunner ▸ (hnodes k).2
  have hon : SiteOk { p with shared := { p.shared with world := w' } } := by
    refine h.goesOn hgo (fun k => ?_) ?_
    · exact hrunner ▸ (hnodes k).1
    · exact hstore ▸ hstoreOk
  refine hon.set ?_ ?_
  · exact hstore ▸ hnext.sound h.store hx (replyOk_of_plain hreply job.activity)
  · by_cases hat : (job.activity.atSupervisor && x'.atSupervisor) = true
    · obtain ⟨hat₁, hat₂⟩ := Bool.and_eq_true_iff.1 hat
      obtain rfl := hnext.atSupervisor hat₁ hat₂
      rw [if_pos hat]
      exact hon.waits i job hi
    · rw [if_neg hat]
      exact .of_none rfl

/-- An activity receives what a supervisor has returned. -/
theorem SiteOk.receives {reply : Reply} {x' : Activity} (h : SiteOk p)
    (hi : p.threads[i]? = some job) (hreply : ReplyOk p.shared.ids { reply } job.activity)
    (hx' : job.activity.receives reply = some x') :
    SiteOk { p with threads := p.threads.set i { activity := x' } } := by
  obtain ⟨hnext, hwrites⟩ := Activity.receives_next hx' p.shared.world
  refine h.set ?_ (.of_none rfl)
  have hsound := hnext.sound h.store (h.sound i job hi) hreply
  rw [hwrites] at hsound
  exact hsound

/-- An activity has found supervisor `n`, which is that of the container if it names one. -/
theorem SiteOk.find {n : ℕ} (h : SiteOk p) (hi : p.threads[i]? = some job)
    (hfound : ∀ k req, job.activity.asks = some (k, req) →
      ∃ sup, p.shared.supervisor? k n = some sup ∧ containerOf req = sup.shared.containerID) :
    SiteOk { p with threads := p.threads.set i { job with waiting := some (.found n) } } := by
  refine h.set (h.sound i job hi) ⟨fun k req n' hasks hw => ?_, fun _ _ _ _ _ hw => ?_,
    fun _ _ _ _ _ _ hw => ?_⟩
  · obtain rfl := Waiting.found.inj (Option.some.inj hw)
    exact hfound k req hasks
  · cases hw
  · cases hw

/-- **A step of an activity**, when `Runner.Prompt` returns what it can. -/
theorem SiteOk.jobStep {l : JobLabel} (h : SiteOk p) (hi : p.threads[i]? = some job)
    (hC : Prompts p (.jobs (.step i l))) (hs : JobStep p.shared job l s' job') :
    SiteOk { shared := s', threads := p.threads.set i job' } := by
  have hx := h.sound i job hi
  cases hs with
  | called a w' x' hreply hstep => exact h.called hi hreply hstep
  | found k req hd hasks _ hget =>
      obtain ⟨sup, hsup, hid⟩ := (h.runners k).handles _ hd hget
      refine h.find hi fun k' req' hasks' => ?_
      obtain ⟨rfl, rfl⟩ := Prod.mk.inj (Option.mem_unique hasks hasks')
      exact ⟨sup, hsup, hid.symm⟩
  | foundSession req sess k run id hd sup hact _ hget hsup hsess =>
      refine h.find hi fun k' req' hasks' => ?_
      rw [hact] at hasks'
      cases hasks'
  | served k req n sup q raw now hasks hw hsup hq =>
      obtain ⟨sup', hsup', hid⟩ := (h.waits i job hi).found k req n hasks hw
      obtain rfl := Option.mem_unique hsup hsup'
      have hok := (h.runners k).supervisors n sup hsup
      have hon := h.setSupervisor hsup (managerStep_goesOn hq) (.refl _)
        (hok.spawn (hx.asked hasks hid) hq)
      refine hon.set hx ⟨fun _ _ _ _ hw' => ?_, fun k' req' n' j' hasks' hw' => ?_,
        fun _ _ _ _ _ _ hw' => ?_⟩
      · cases hw'
      · obtain ⟨rfl, rfl⟩ := Prod.mk.inj (Option.mem_unique hasks hasks')
        obtain ⟨rfl, rfl⟩ := Waiting.served.inj (Option.some.inj hw')
        obtain ⟨c, hc, rfl⟩ := Pool.step_spawn.1 (show sup.step _ _ = some q from hq)
        refine ⟨⟨sup.shared, sup.threads ++ [c]⟩, c, ?_, List.getElem?_concat_length, ?_⟩
        · simp only [Site.supervisor?, Site.setSupervisor, World.setRunner, Function.update_self]
          exact getElem?_set_of_some _ hsup
        · cases req <;> exact Option.some.inj hc ▸ rfl
      · cases hw'
  | prompted req sess k run n sup sess' hd raw now hact _ hsup hsess =>
      have hok := (h.runners k).supervisors n sup hsup
      have hget := Manager.sessionAgent_eq_ok hsess
      have hon := h.withPrompts
        (p.shared.prompts ++ [{ containerID := sup.shared.containerID, sess := sess', req, raw, now }])
      refine hon.set hx ⟨fun k' req' n' hasks' _ => ?_, fun _ _ _ _ hasks' _ => ?_,
        fun req' _ _ _ b hact' hw' => ?_⟩
      · rw [hact] at hasks'
        cases hasks'
      · rw [hact] at hasks'
        cases hasks'
      · obtain rfl := Waiting.prompted.inj (Option.some.inj hw')
        rw [hact] at hact'
        cases hact'
        refine ⟨Table.key_of_get hget, ?_⟩
        have hknown := hok.sessions _ sess' hget
        rw [IDs.KnowsSession, hok.replies.sessions _ sess' hget] at hknown
        exact hknown
  | received k req n j sup c reply x' hasks hw hsup hc hreply hx' =>
      obtain ⟨sup', c', hsup', hc', hreq⟩ := (h.waits i job hi).served k req n j hasks hw
      obtain rfl := Option.mem_unique hsup hsup'
      obtain rfl := Option.mem_unique hc hc'
      have hok := (h.runners k).supervisors n sup hsup
      exact h.receives hi (hok.replyOk hc hreply (hreq ▸ hasks)) hx'
  | finished b run x' hw hx' =>
      exact h.receives hi ((h.waits i job hi).replyOk hx hw (hC job b hi hw)) hx'

theorem SiteOk.start {req : Request} (h : SiteOk p) (hC : Orderly p (.jobs (.spawn req))) :
    req.start.Sound p.shared.ids p.shared.world.store := by
  cases req with
  | createSession r =>
      obtain ⟨hunnamed, job, hjob, hensured⟩ := hC
      obtain ⟨i, hi⟩ := List.mem_iff_getElem?.1 hjob
      have hx := h.sound i job hi
      refine ⟨hunnamed, ?_⟩
      unfold Activity.ensured at hensured
      split at hensured
      · next req' inst hact =>
          rw [hact] at hx
          obtain ⟨hc, ha⟩ := some_pair_inj hensured
          show HasAgent p.shared.world.store r.agentInstanceID r.containerID
          rw [← hc, ← ha]
          exact hx
      · cases hensured
  | loadSession r => exact hC.elim
  | provisionContainer | ensureAgent | prompt | cancel | hibernate | delete => trivial

/-- **A step of a site** keeps the invariant, when it is orderly. -/
theorem SiteOk.site {l : SiteLabel} (h : SiteOk p) (hC : Orderly p l) (hC' : Prompts p l)
    (hq : siteStep p l = some q) : SiteOk q := by
  cases l with
  | jobs l =>
      have hpool : p.step jobMachine l = some q := hq
      cases l with
      | spawn req =>
          obtain ⟨job, hjob, rfl⟩ := Pool.step_spawn.1 hpool
          obtain rfl := Option.some.inj hjob
          refine ⟨h.runners, h.store, fun j d hd => ?_, fun j d hd => ?_⟩
          · rcases getElem?_concat_cases hd with ⟨-, rfl⟩ | hd
            · exact h.start hC
            · exact h.sound j d hd
          · rcases getElem?_concat_cases hd with ⟨-, rfl⟩ | hd
            · exact .of_none rfl
            · exact h.waits j d hd
      | step i l =>
          obtain ⟨job, s', job', hi, hrun, rfl⟩ := Pool.step_run.1 hpool
          exact h.jobStep hi hC' (Job.step_spec hrun)
  | supervisor k n l =>
      obtain ⟨s', hs', rfl⟩ := Option.map_eq_some_iff.1 hq
      obtain ⟨sup, hsup, hrest⟩ := Option.bind_eq_some_iff.1 hs'
      obtain ⟨sup', hstep, rfl⟩ := Option.map_eq_some_iff.1 hrest
      obtain ⟨hg, hok⟩ := ((h.runners k).supervisors n sup hsup).step hC hstep
      exact h.setSupervisor hsup (managerStep_goesOn hstep) hg hok

theorem SiteOk.listen (h : SiteOk p) (k : String) (host : Host) (id : String) :
    SiteOk { p with
      shared := { p.shared with
        world := p.shared.world.setRunner k ((p.shared.world.runner k).listen host id) } } :=
  h.setRunner (.listen _ host id) (.refl _) ((h.runners k).listen host id)

theorem Activity.callsNode_of_asks {x : Activity} {k : String} {req : ManagerRequest}
    (h : x.asks = some (k, req)) : x.callsNode = some k := by
  unfold Activity.callsNode
  split
  · cases h
  · rw [h, Option.map_some]

/-- **A step of a site whose calls go out through sockets** keeps the invariant, when it is
disciplined. -/
theorem SiteOk.step {l : LinkedLabel} (h : SiteOk p) (hC : Disciplined p l)
    (hq : linkedStep p l = some q) : SiteOk q := by
  cases linkedStep_spec hq with
  | site l q hq => exact h.site hC.orderly hC.prompts hq
  | listens i raw k id => exact h.listen k _ id
  | redialled i n n' job k sup sup' hi hw hk hsup hsup' hsocket =>
      refine h.find hi fun k' req hasks => ?_
      obtain rfl : k = k' := Option.some.inj (hk.symm.trans (Activity.callsNode_of_asks hasks))
      obtain ⟨sup₀, hsup₀, hid⟩ := (h.waits i job hi).found k req n hasks hw
      obtain rfl := Option.mem_unique hsup hsup₀
      -- the sockets are apart, so the other supervisor is one of the same container
      have hsame := hC.separate job hi k hk sup (List.mem_of_getElem? hsup) sup'
        (List.mem_of_getElem? hsup') hsocket
      exact ⟨sup', hsup', hid.trans hsame⟩
  | foundThrough i n id job hi hasks =>
      refine h.find hi fun k req hasks' => ?_
      rw [hasks] at hasks'
      cases hasks'

theorem SiteOk.new {w : World} (hstore : w.store = {})
    (hrunner : ∀ k, ∃ root, w.runner k = newRunner k root) : SiteOk ⟨{ world := w }, []⟩ where
  runners k := by
    obtain ⟨root, hr⟩ := hrunner k
    show RunnerOk {} (w.runner k)
    rw [hr]
    exact .new {} k root
  store := by
    show StoreOk {} w.store
    rw [hstore]
    exact .empty {}
  sound i job hi := by cases hi
  waits i job hi := by cases hi

end

/-- **The metadata keep their integrity.**  From an empty store and nodes without containers,
in every state that the activities and the nodes reach, however their steps interleave, whatever
calls and writes fail, and whichever supervisor listens on a socket, while no two containers of a
node share one: each session row names a stored container and a stored agent
instance of that container, and each run row names a stored session and has its container and
agent instance. -/
theorem integral_of_disciplined {w : World} (hstore : w.store = {})
    (hrunner : ∀ k, ∃ root, w.runner k = newRunner k root) {l : List LinkedLabel}
    {p : Pool Site Job} (hl : Along linkedStep Disciplined ⟨{ world := w }, []⟩ l)
    (hp : exec linkedStep ⟨{ world := w }, []⟩ l = some p) : Integral p.shared.world.store := by
  have hok := exec_invariant (fun _ _ _ hok hC hs => SiteOk.step hok hC hs)
    (SiteOk.new hstore hrunner) hl hp
  exact hok.store.toIntegral

instance (ids : IDs) : DecidablePred (FreshID ids)
  | .step _ (.started _ raw _) =>
      inferInstanceAs (Decidable (ids.agents.lookup (newID "agent" raw) = none))
  | .step _ (.agentByID raw) =>
      inferInstanceAs (Decidable (ids.sessions.lookup (newID "sess" raw) = none))
  | .step _ .lookup | .step _ (.answered _ _) | .step _ .insert | .step _ .snapshot
  | .exit _ | .waited _ _ => isTrue trivial

instance (p : Pool Site Job) : DecidablePred (Orderly p)
  | .jobs (.spawn (.createSession req)) =>
      inferInstanceAs (Decidable (req.sessionID = "" ∧ ∃ job ∈ p.threads,
        job.activity.ensured = some (req.containerID, req.agentInstanceID)))
  | .jobs (.spawn (.loadSession _)) => isFalse id
  | .jobs (.spawn (.provisionContainer _)) | .jobs (.spawn (.ensureAgent _))
  | .jobs (.spawn (.prompt _)) | .jobs (.spawn (.cancel _)) | .jobs (.spawn (.hibernate _))
  | .jobs (.spawn (.delete _)) | .jobs (.step _ _) => isTrue trivial
  | .supervisor _ _ l => inferInstanceAs (Decidable (FreshID p.shared.ids l))

/-- A step of activity `i`, and a call of it that goes through. -/
def jobStep (i : ℕ) (l : JobLabel) : SiteLabel := .jobs (.step i l)

def jobCall (i : ℕ) : SiteLabel := jobStep i (.call {})

/-- A step of call `j` in the first supervisor. -/
def supervised (j : ℕ) (l : CallLabel) : SiteLabel := .supervisor "node-1" 0 (.step j l)

/-- A container is provisioned, an agent started and a session created; the session is prompted,
and the `Prompt` begins in its supervisor. -/
def promptsNewSession : List SiteLabel :=
  [.jobs (.spawn (.provisionContainer { id := "ctr_1" })), jobCall 0, jobCall 0, jobCall 0,
    .jobs (.spawn (.ensureAgent { containerID := "ctr_1", plan := planOf "echo" "sha256:1" })),
    jobCall 1, jobStep 1 (.find "ctr_1"), jobStep 1 (.serve "" 0), supervised 0 .lookup,
    supervised 0 (.started none "1" 1), supervised 0 (.answered (.ok {}) 2), supervised 0 .insert,
    supervised 0 .snapshot, jobStep 1 .receive, jobCall 1, jobCall 1, jobCall 1,
    .jobs (.spawn (.createSession { containerID := "ctr_1", agentInstanceID := "agent_1" })),
    jobCall 2, jobStep 2 (.find "ctr_1"), jobStep 2 (.serve "" 0), supervised 1 (.agentByID "1"),
    supervised 1 (.answered (.ok {}) 3), supervised 1 .insert, jobStep 2 .receive, jobCall 2,
    jobCall 2, .jobs (.spawn (.prompt { sessionID := "sess_1", runID := "run_1" })), jobCall 3,
    jobCall 3, jobCall 3, jobCall 3, jobCall 3, jobStep 3 (.find "ctr_1"), jobStep 3 (.serve "" 0)]

/-- The run completes, and its row is written. -/
def promptEnds : List SiteLabel := [jobStep 3 (.finish completedRun), jobCall 3]

/-- The prompt, with the connection of the container made anew before the agent is started. -/
def redialledPrompt : List LinkedLabel :=
  (promptsNewSession.take 7).map .site ++ .redial 1 0 :: (promptsNewSession.drop 7).map .site

instance (C : Pool Site Job → SiteLabel → Prop) [∀ p l, Decidable (C p l)] (p : Pool Site Job) :
    DecidablePred (OnSite C p)
  | .site l => inferInstanceAs (Decidable (C p l))
  | .listen _ _ | .redial _ _ | .findThrough _ _ _ => isTrue trivial

instance (p : Pool Site Job) : DecidablePred (Separate p)
  | .redial i _ => inferInstanceAs (Decidable (∀ job ∈ p.threads[i]?, ∀ k ∈ job.activity.callsNode,
      p.shared.SocketsApart k))
  | .site _ | .listen _ _ | .findThrough _ _ _ => isTrue trivial

theorem promptEnds_disciplined :
    Along linkedStep Disciplined ⟨{ world := emptyWorld }, []⟩
      (redialledPrompt ++ promptEnds.map .site) := by
  have hdec : Along linkedStep (fun p l => OnSite Orderly p l ∧ Separate p l)
      ⟨{ world := emptyWorld }, []⟩ (redialledPrompt ++ promptEnds.map .site) := by
    decide +kernel
  refine (hdec.and (Along.append (C := OnSite Prompts) ?_ fun p hp => ?_)).mono
    fun _ _ h => ⟨h.1.1, h.2, h.1.2⟩
  · -- no `Runner.Prompt` returns in the first part
    refine (along_of_forall (P := fun l => ∀ p, OnSite Prompts p l) ?_).mono fun p l h => h p
    simp [redialledPrompt, promptsNewSession, jobStep, jobCall, supervised, OnSite, Prompts]
  · have hwaiting : (exec linkedStep ⟨{ world := emptyWorld }, []⟩ redialledPrompt).bind
        (fun p => p.threads[3]?.bind (·.waiting)) = some (.prompted openedPrompt) := rfl
    rw [hp, Option.bind_some] at hwaiting
    refine ⟨fun job b hjob hb => ?_, fun _ _ => ⟨trivial, fun _ _ => trivial⟩⟩
    obtain ⟨job', hjob', hb'⟩ := Option.bind_eq_some_iff.1 hwaiting
    obtain rfl := Option.mem_unique hjob hjob'
    obtain rfl := Waiting.prompted.inj (Option.mem_unique hb hb')
    exact completedRun_reply

/-- `integral_of_disciplined` applies to the prompt. -/
theorem promptEnds_integral :
    ∃ p ∈ exec linkedStep ⟨{ world := emptyWorld }, []⟩ (redialledPrompt ++ promptEnds.map .site),
      Integral p.shared.world.store := by
  obtain ⟨p, hp⟩ := Option.isSome_iff_exists.1
    (show (exec linkedStep ⟨{ world := emptyWorld }, []⟩
      (redialledPrompt ++ promptEnds.map .site)).isSome = true by decide +kernel)
  exact ⟨p, hp, integral_of_disciplined rfl (fun k => ⟨"/var/agentd", rfl⟩)
    promptEnds_disciplined hp⟩

/-- A step of call `j` in the second supervisor. -/
def aliased (j : ℕ) (l : CallLabel) : LinkedLabel := .site (.supervisor "node-1" 1 (.step j l))

/-- The containers `ctr_1` and `./ctr_1` are provisioned, and the row of the second is not written.
The calls for `ctr_1` that start an agent and create a session go out through the socket that the
supervisor of the second listens on. -/
def aliasedSession : List LinkedLabel :=
  (promptsNewSession.take 4).map .site ++
    [.site (.jobs (.spawn (.provisionContainer { id := "./ctr_1" }))), .site (jobCall 1),
      .site (jobStep 1 (.call { outcome := .fail (.other "store") })),
      .site (.jobs (.spawn (.ensureAgent
        { containerID := "ctr_1", plan := planOf "echo" "sha256:1" }))),
      .site (jobCall 2), .site (jobStep 2 (.find "ctr_1")), .redial 2 1,
      .site (jobStep 2 (.serve "" 0)), aliased 0 .lookup, aliased 0 (.started none "1" 1),
      aliased 0 (.answered (.ok {}) 2), aliased 0 .insert, aliased 0 .snapshot,
      .site (jobStep 2 .receive), .site (jobCall 2), .site (jobCall 2), .site (jobCall 2),
      .site (.jobs (.spawn (.createSession
        { containerID := "ctr_1", agentInstanceID := "agent_1" }))),
      .site (jobCall 3), .site (jobStep 3 (.find "ctr_1")), .redial 3 1,
      .site (jobStep 3 (.serve "" 0)), aliased 1 (.agentByID "1"),
      aliased 1 (.answered (.ok {}) 3), aliased 1 .insert, .site (jobStep 3 .receive),
      .site (jobCall 3)]

/-- **Two ids with one socket.**  The session of `ctr_1` is stored as one of `./ctr_1`, which has no
row. -/
theorem aliasedSession_not_integral :
    Along linkedStep (fun p l => OnSite Orderly p l ∧ OnSite Prompts p l)
        ⟨{ world := emptyWorld }, []⟩ aliasedSession ∧
      ∃ p ∈ exec linkedStep ⟨{ world := emptyWorld }, []⟩ aliasedSession,
        ¬Integral p.shared.world.store := by
  refine ⟨Along.and (by decide +kernel) ?_, ?_⟩
  · refine (along_of_forall (P := fun l => ∀ p, OnSite Prompts p l) ?_).mono fun p l h => h p
    simp [aliasedSession, promptsNewSession, jobStep, jobCall, aliased, OnSite, Prompts]
  · obtain ⟨p, hp, x, hx, hnone⟩ : ∃ p ∈ exec linkedStep ⟨{ world := emptyWorld }, []⟩
        aliasedSession, ∃ x ∈ p.shared.world.store.sessions.get "sess_1",
          (p.shared.world.store.containers.get x.containerID).isNone = true := by
      decide +kernel
    refine ⟨p, hp, fun hint => ?_⟩
    obtain ⟨⟨c, hc⟩, -⟩ := hint.sessions _ x hx
    rw [hc] at hnone
    cases hnone

end Workflows
end Agentd
