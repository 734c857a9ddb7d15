/-
# What a call of an activity can do

For each activity, `Next` lists where a call can lead, with what has been read or answered;
what the call does to the store is `Activity.writes`.  `Activity.step_spec` says both at
once, and the results about the activities use nothing else of their code.
-/

import Agentd.Workflows.Activities

namespace Agentd
namespace Workflows

open Control Store NodeRuntime Supervisor Concurrency

/-- The store after a call that writes the row, if there is one. -/
def stored (a : Answer) (row : Option Row) (s : MemoryStore) : MemoryStore :=
  match row with
  | none => s
  | some row => if a.outcome.took then row.put s else s

section

variable (w : World) (a : Answer)

/-- Where a call of `ProvisionContainer` leads. -/
inductive Provision.Next : Provision → Provision → Prop
  | failed (req : CreateContainerRequest) (e : Err) :
      Next (.nodeProvision req) (.returned (.error e))
  | provisioned (req : CreateContainerRequest) (k : String)
      (hnode : w.node req.profile.nodeID = .ok k) (ho : a.outcome = .ok) :
      Next (.nodeProvision req)
        (.upsertContainer ((w.runner k).newHandle (w.host k) req a.raw a.now).container)
  | notStored (c : Container) (e : Err) (he : a.outcome.err = some e) :
      Next (.upsertContainer c) (.returned (.error e))
  | stored (c : Container) (ho : a.outcome = .ok) : Next (.upsertContainer c) (.appendAudit c)
  | audited (c : Container) : Next (.appendAudit c) (.returned (.ok c))

/-- Where a call of `CreateSession` or `LoadSession` leads. -/
inductive OpenSession.Next : OpenSession → OpenSession → Prop
  | notRead (req : SessionRequest) (e : Err) : Next (.containerNode req) (.returned req (.error e))
  | read (req : SessionRequest) (c : Container) (k : String)
      (hget : w.store.containers.get req.containerID = some c) (hnode : w.node c.nodeID = .ok k) :
      Next (.containerNode req) (.nodeOpen req k)
  | failed (req : SessionRequest) (k : String) (e : Err) :
      Next (.nodeOpen req k) (.returned req (.error e))
  | opened (req : SessionRequest) (k : String) (sess : Session) (ho : a.outcome = .ok)
      (hreply : a.reply = .session sess) : Next (.nodeOpen req k) (.upsertSession req sess)
  | notStored (req : SessionRequest) (sess : Session) (e : Err) (he : a.outcome.err = some e) :
      Next (.upsertSession req sess) (.returned req (.error e))
  | stored (req : SessionRequest) (sess : Session) (ho : a.outcome = .ok) :
      Next (.upsertSession req sess) (.appendAudit req sess)
  | audited (req : SessionRequest) (sess : Session) :
      Next (.appendAudit req sess) (.returned req (.ok sess))

/-- Where a call of `EnsureAgent` leads. -/
inductive EnsureAgent.Next : EnsureAgent → EnsureAgent → Prop
  | notRead (req : InstallAgentRequest) (e : Err) :
      Next (.containerNode req) (.returned req (.error e))
  | read (req : InstallAgentRequest) (c : Container) (k : String)
      (hget : w.store.containers.get req.containerID = some c) (hnode : w.node c.nodeID = .ok k) :
      Next (.containerNode req) (.nodeEnsureAgent req c k)
  | failed (req : InstallAgentRequest) (c : Container) (k : String) (e : Err) :
      Next (.nodeEnsureAgent req c k) (.returned req (.error e))
  | ensured (req : InstallAgentRequest) (c : Container) (k : String) (agent : AgentInstance)
      (ho : a.outcome = .ok) (hreply : a.reply = .agent agent) :
      Next (.nodeEnsureAgent req c k) (.upsertAgentInstance req c agent)
  | notStored (req : InstallAgentRequest) (c : Container) (agent : AgentInstance) (e : Err)
      (he : a.outcome.err = some e) :
      Next (.upsertAgentInstance req c agent) (.returned req (.error e))
  | known (req : InstallAgentRequest) (c : Container) (agent : AgentInstance)
      (ho : a.outcome = .ok) (hmem : req.plan.bundle.digest ∈ c.bundleDigests) :
      Next (.upsertAgentInstance req c agent) (.appendAudit req agent)
  | added (req : InstallAgentRequest) (c : Container) (agent : AgentInstance)
      (ho : a.outcome = .ok) (hmem : req.plan.bundle.digest ∉ c.bundleDigests) :
      Next (.upsertAgentInstance req c agent) (.upsertContainer req c agent)
  | digested (req : InstallAgentRequest) (c : Container) (agent : AgentInstance) :
      Next (.upsertContainer req c agent) (.appendAudit req agent)
  | audited (req : InstallAgentRequest) (agent : AgentInstance) :
      Next (.appendAudit req agent) (.returned req (.ok agent))

/-- Where a call of `Hibernate` leads. -/
inductive Hibernate.Next : Hibernate → Hibernate → Prop
  | notRead (id : String) (e : Err) : Next (.containerNode id) (.returned (.error e))
  | read (id : String) (c : Container) (k : String)
      (hget : w.store.containers.get id = some c) (hnode : w.node c.nodeID = .ok k) :
      Next (.containerNode id) (.nodeHibernate id c k)
  | failed (id : String) (c : Container) (k : String) (e : Err) :
      Next (.nodeHibernate id c k) (.returned (.error e))
  | hibernated (id : String) (c : Container) (k : String) (h : ContainerHandle)
      (ho : a.outcome = .ok) (hget : (w.runner k).containers.get id = some h) :
      Next (.nodeHibernate id c k)
        (.upsertContainer c { h.container with state := .hibernating, updatedAt := a.now })
  | notStored (c updated : Container) (e : Err) (he : a.outcome.err = some e) :
      Next (.upsertContainer c updated) (.returned (.error e))
  | stored (c updated : Container) (ho : a.outcome = .ok) :
      Next (.upsertContainer c updated) (.returned (.ok (Hibernate.row c updated)))

/-- Where a call of `Delete` leads. -/
inductive Delete.Next : Delete → Delete → Prop
  | notRead (id : String) (e : Err) : Next (.containerNode id) (.returned (.error e))
  | read (id : String) (c : Container) (k : String)
      (hget : w.store.containers.get id = some c) (hnode : w.node c.nodeID = .ok k) :
      Next (.containerNode id) (.nodeDelete id c k)
  | failed (id : String) (c : Container) (k : String) (e : Err) :
      Next (.nodeDelete id c k) (.returned (.error e))
  | deleted (id : String) (c : Container) (k : String) (ho : a.outcome = .ok)
      (hget : ∃ h, (w.runner k).containers.get id = some h) :
      Next (.nodeDelete id c k) (.upsertContainer c)
  | notStored (c : Container) (e : Err) (he : a.outcome.err = some e) :
      Next (.upsertContainer c) (.returned (.error e))
  | stored (c : Container) (ho : a.outcome = .ok) : Next (.upsertContainer c) (.returned (.ok ()))

/-- Where a call of `Prompt` leads. -/
inductive Prompt.Next : Prompt → Prompt → Prop
  | notRead (req : PromptRequest) (e : Err) : Next (.getSession req) (.returned (.error e))
  | read (req : PromptRequest) (sess : Session)
      (hget : w.store.sessions.get req.sessionID = some sess) :
      Next (.getSession req) (.containerNode req sess)
  | noNode (req : PromptRequest) (sess : Session) (e : Err) :
      Next (.containerNode req sess) (.returned (.error e))
  | begun (req : PromptRequest) (sess : Session) (k : String) (c : Container)
      (hnode : w.containerNode a.outcome sess.containerID = .ok (c, k)) :
      Next (.containerNode req sess)
        (.upsertSession { req with runID := (Prompt.newRun req sess a).id }
          (Prompt.streaming sess (Prompt.newRun req sess a) a.now) k (Prompt.newRun req sess a))
  | sessionWritten (req : PromptRequest) (sess : Session) (k : String) (run : Run) :
      Next (.upsertSession req sess k run) (.upsertRun req sess k run)
  | runWritten (req : PromptRequest) (sess : Session) (k : String) (run : Run) :
      Next (.upsertRun req sess k run) (.publishStarted req sess k run)
  | announced (req : PromptRequest) (sess : Session) (k : String) (run : Run) :
      Next (.publishStarted req sess k run) (.nodePrompt req sess k run)
  | event (req : PromptRequest) (sess : Session) (k : String) (run : Run) (e : Event)
      (hreply : a.reply = .event e) :
      Next (.nodePrompt req sess k run) (.nodePrompt req sess k run)
  | failed (req : PromptRequest) (sess : Session) (k : String) (run : Run) (e : Err) :
      Next (.nodePrompt req sess k run) (.upsertFailedRun sess (Prompt.failedRun run e a.now))
  | ended (req : PromptRequest) (sess : Session) (k : String) (run final : Run)
      (ho : a.outcome = .ok) (hreply : a.reply = .run final) :
      Next (.nodePrompt req sess k run) (.upsertFinalRun sess run final)
  | failedRunWritten (sess : Session) (run : Run) :
      Next (.upsertFailedRun sess run) (.upsertFailedSession (Prompt.failed sess a.now) run)
  | failedSessionWritten (sess : Session) (run : Run) :
      Next (.upsertFailedSession sess run) (.returned (.ok run))
  | runNotStored (sess : Session) (run final : Run) (e : Err) (he : a.outcome.err = some e) :
      Next (.upsertFinalRun sess run final) (.returned (.error e))
  | runStored (sess : Session) (run final : Run) (ho : a.outcome = .ok) :
      Next (.upsertFinalRun sess run final)
        (.upsertFinalSession (Prompt.ended sess final a.now) run final)
  | sessionNotStored (sess : Session) (run final : Run) (e : Err) (he : a.outcome.err = some e) :
      Next (.upsertFinalSession sess run final) (.returned (.error e))
  | sessionStored (sess : Session) (run final : Run) (ho : a.outcome = .ok) :
      Next (.upsertFinalSession sess run final) (.appendAudit final)
  | audited (final : Run) : Next (.appendAudit final) (.returned (.ok final))

/-- Where a call of `Cancel` leads. -/
inductive Cancel.Next : Cancel → Cancel → Prop
  | notRead (req : CancelRequest) (e : Err) : Next (.getSession req) (.returned (.error e))
  | read (req : CancelRequest) (sess : Session)
      (hget : w.store.sessions.get req.sessionID = some sess) :
      Next (.getSession req) (.containerNode req sess)
  | noNode (req : CancelRequest) (sess : Session) (e : Err) :
      Next (.containerNode req sess) (.returned (.error e))
  | begun (req : CancelRequest) (sess : Session) (k : String) (c : Container)
      (hnode : w.containerNode a.outcome sess.containerID = .ok (c, k)) :
      Next (.containerNode req sess) (.upsertSession req (Cancel.cancelling sess a.now) k)
  | sessionWritten (req : CancelRequest) (sess : Session) (k : String) :
      Next (.upsertSession req sess k) (.publishCancelling req k)
  | announced (req : CancelRequest) (k : String) :
      Next (.publishCancelling req k) (.nodeCancel req k)
  | ended (req : CancelRequest) (k : String) (res : Except Err Unit) :
      Next (.nodeCancel req k) (.returned res)

/-- Where a call of an activity leads. -/
inductive Activity.Next : Activity → Activity → Prop
  | provision {x x' : Provision} (h : x.Next w a x') : Next (.provision x) (.provision x')
  | openSession {x x' : OpenSession} (h : x.Next w a x') : Next (.openSession x) (.openSession x')
  | ensureAgent {x x' : EnsureAgent} (h : x.Next w a x') :
      Next (.container (.ensureAgent x)) (.container (.ensureAgent x'))
  | hibernate {x x' : Hibernate} (h : x.Next w a x') :
      Next (.container (.hibernate x)) (.container (.hibernate x'))
  | delete {x x' : Delete} (h : x.Next w a x') :
      Next (.container (.delete x)) (.container (.delete x'))
  | prompt {x x' : Prompt} (h : x.Next w a x') :
      Next (.session (.prompt x)) (.session (.prompt x'))
  | cancel {x x' : Cancel} (h : x.Next w a x') :
      Next (.session (.cancel x)) (.session (.cancel x'))

end

section

variable {w w' : World} {a : Answer}

theorem Outcome.eq_ok_of_err {o : Outcome} (h : o.err = none) : o = .ok := by
  cases o with
  | ok => rfl
  | fail e => cases h
  | failAfter e => cases h

theorem World.write_stored (w : World) (a : Answer) (row : Row) :
    (w.write a.outcome row.put).store = stored a (some row) w.store := by
  rw [World.write_store]
  rfl

theorem World.outcome_of_call {β : Type} {k : String} {o : Outcome}
    {f : Runner → Runner × Except Err β} {b : β} (h : (w.call k o f).2 = .ok b) : o = .ok := by
  cases o with
  | ok => rfl
  | fail e => cases h
  | failAfter e => cases h

theorem answer_of_map {α β : Type} {e : Except Err α} {answer b : β}
    (h : (e.map fun _ => answer) = .ok b) : answer = b := by
  cases e with
  | error e => cases h
  | ok x => exact Except.ok.inj h

/-- **A call of `ProvisionContainer`** is one of `Next` and writes what `writes` says. -/
theorem Provision.step_next {x x' : Provision} (h : x.step w a = some (w', x')) :
    x.Next w a x' ∧ w'.store = stored a (x.writes a) w.store := by
  cases x with
  | nodeProvision req =>
      simp only [Provision.step] at h
      split at h
      · next e he =>
          obtain ⟨rfl, rfl⟩ := some_pair_inj h
          exact ⟨.failed req e, rfl⟩
      · next k hk =>
          obtain ⟨rfl, rfl⟩ := some_pair_inj h
          refine ⟨?_, World.call_store ..⟩
          cases ho : a.outcome with
          | ok => exact .provisioned req k hk ho
          | fail e => exact .failed req e
          | failAfter e => exact .failed req e
  | upsertContainer c =>
      obtain ⟨rfl, rfl⟩ := some_pair_inj h
      refine ⟨?_, w.write_stored a (.container c)⟩
      cases he : a.outcome.err with
      | some e => exact .notStored c e he
      | none => exact .stored c (Outcome.eq_ok_of_err he)
  | appendAudit c =>
      obtain ⟨rfl, rfl⟩ := some_pair_inj h
      exact ⟨.audited c, w.write_stored a (.audit _)⟩
  | returned res => cases h

/-- **A call of `CreateSession` or `LoadSession`.** -/
theorem OpenSession.step_next {x x' : OpenSession} (h : x.step w a = some (w', x')) :
    x.Next w a x' ∧ w'.store = stored a (x.writes a) w.store := by
  cases x with
  | containerNode req =>
      obtain ⟨rfl, rfl⟩ := some_pair_inj h
      refine ⟨?_, rfl⟩
      cases hc : w.containerNode a.outcome req.containerID with
      | error e => exact .notRead req e
      | ok r =>
          obtain ⟨hget, hnode⟩ := World.containerNode_eq_ok hc
          exact .read req r.1 r.2 hget hnode
  | nodeOpen req k =>
      simp only [OpenSession.step] at h
      split at h
      · next answer ho hr =>
          obtain ⟨rfl, rfl⟩ := some_pair_inj h
          refine ⟨?_, World.call_store ..⟩
          cases hc : (w.call k .ok (·.openSession req answer)).2 with
          | error e => exact .failed req k e
          | ok sess =>
              obtain rfl := answer_of_map (World.call_eq_ok hc)
              exact .opened req k answer ho hr
      · cases h
      · obtain ⟨rfl, rfl⟩ := some_pair_inj h
        exact ⟨.failed req k _, rfl⟩
      · obtain ⟨rfl, rfl⟩ := some_pair_inj h
        exact ⟨.failed req k _, rfl⟩
  | upsertSession req sess =>
      obtain ⟨rfl, rfl⟩ := some_pair_inj h
      refine ⟨?_, w.write_stored a (.session sess)⟩
      cases he : a.outcome.err with
      | some e => exact .notStored req sess e he
      | none => exact .stored req sess (Outcome.eq_ok_of_err he)
  | appendAudit req sess =>
      obtain ⟨rfl, rfl⟩ := some_pair_inj h
      exact ⟨.audited req sess, w.write_stored a (.audit _)⟩
  | returned req res => cases h

/-- **A call of `EnsureAgent`.** -/
theorem EnsureAgent.step_next {x x' : EnsureAgent} (h : x.step w a = some (w', x')) :
    x.Next w a x' ∧
      w'.store = stored a (ContainerActivity.writes a (.ensureAgent x)) w.store := by
  cases x with
  | containerNode req =>
      obtain ⟨rfl, rfl⟩ := some_pair_inj h
      refine ⟨?_, rfl⟩
      cases hc : w.containerNode a.outcome req.containerID with
      | error e => exact .notRead req e
      | ok r =>
          obtain ⟨hget, hnode⟩ := World.containerNode_eq_ok hc
          exact .read req r.1 r.2 hget hnode
  | nodeEnsureAgent req c k =>
      simp only [EnsureAgent.step] at h
      split at h
      · next answer ho hr =>
          obtain ⟨rfl, rfl⟩ := some_pair_inj h
          refine ⟨?_, World.call_store ..⟩
          cases hc : (w.call k .ok (·.ensureAgent req answer)).2 with
          | error e => exact .failed req c k e
          | ok agent =>
              obtain rfl := answer_of_map (World.call_eq_ok hc)
              exact .ensured req c k answer ho hr
      · cases h
      · obtain ⟨rfl, rfl⟩ := some_pair_inj h
        exact ⟨.failed req c k _, rfl⟩
      · obtain ⟨rfl, rfl⟩ := some_pair_inj h
        exact ⟨.failed req c k _, rfl⟩
  | upsertAgentInstance req c agent =>
      obtain ⟨rfl, rfl⟩ := some_pair_inj h
      refine ⟨?_, w.write_stored a (.agent agent)⟩
      cases he : a.outcome.err with
      | some e => exact .notStored req c agent e he
      | none =>
          dsimp only
          split_ifs with hmem
          · exact .known req c agent (Outcome.eq_ok_of_err he) hmem
          · exact .added req c agent (Outcome.eq_ok_of_err he) hmem
  | upsertContainer req c agent =>
      obtain ⟨rfl, rfl⟩ := some_pair_inj h
      exact ⟨.digested req c agent, w.write_stored a (.container _)⟩
  | appendAudit req agent =>
      obtain ⟨rfl, rfl⟩ := some_pair_inj h
      exact ⟨.audited req agent, w.write_stored a (.audit _)⟩
  | returned req res => cases h

/-- **A call of `Hibernate`.** -/
theorem Hibernate.step_next {x x' : Hibernate} (h : x.step w a = some (w', x')) :
    x.Next w a x' ∧ w'.store = stored a (ContainerActivity.writes a (.hibernate x)) w.store := by
  cases x with
  | containerNode id =>
      obtain ⟨rfl, rfl⟩ := some_pair_inj h
      refine ⟨?_, rfl⟩
      cases hc : w.containerNode a.outcome id with
      | error e => exact .notRead id e
      | ok r =>
          obtain ⟨hget, hnode⟩ := World.containerNode_eq_ok hc
          exact .read id r.1 r.2 hget hnode
  | nodeHibernate id c k =>
      obtain ⟨rfl, rfl⟩ := some_pair_inj h
      refine ⟨?_, World.call_store ..⟩
      cases hc : (w.call k a.outcome (·.hibernateContainer id a.now)).2 with
      | error e => exact .failed id c k e
      | ok updated =>
          obtain ⟨hd, hget, rfl⟩ := Runner.hibernateContainer_eq_ok (World.call_eq_ok hc)
          exact .hibernated id c k hd (World.outcome_of_call hc) hget
  | upsertContainer c updated =>
      obtain ⟨rfl, rfl⟩ := some_pair_inj h
      refine ⟨?_, w.write_stored a (.container _)⟩
      cases he : a.outcome.err with
      | some e => exact .notStored c updated e he
      | none => exact .stored c updated (Outcome.eq_ok_of_err he)
  | returned res => cases h

/-- **A call of `Delete`.** -/
theorem Delete.step_next {x x' : Delete} (h : x.step w a = some (w', x')) :
    x.Next w a x' ∧ w'.store = stored a (ContainerActivity.writes a (.delete x)) w.store := by
  cases x with
  | containerNode id =>
      obtain ⟨rfl, rfl⟩ := some_pair_inj h
      refine ⟨?_, rfl⟩
      cases hc : w.containerNode a.outcome id with
      | error e => exact .notRead id e
      | ok r =>
          obtain ⟨hget, hnode⟩ := World.containerNode_eq_ok hc
          exact .read id r.1 r.2 hget hnode
  | nodeDelete id c k =>
      obtain ⟨rfl, rfl⟩ := some_pair_inj h
      refine ⟨?_, World.call_store ..⟩
      cases hc : (w.call k a.outcome (·.deleteContainer id)).2 with
      | error e => exact .failed id c k e
      | ok _ =>
          exact .deleted id c k (World.outcome_of_call hc)
            (Runner.deleteContainer_eq_ok (World.call_eq_ok hc))
  | upsertContainer c =>
      obtain ⟨rfl, rfl⟩ := some_pair_inj h
      refine ⟨?_, w.write_stored a (.container _)⟩
      cases he : a.outcome.err with
      | some e => exact .notStored c e he
      | none => exact .stored c (Outcome.eq_ok_of_err he)
  | returned res => cases h

/-- **A call of `Prompt`.** -/
theorem Prompt.step_next {x x' : Prompt} (h : x.step w a = some (w', x')) :
    x.Next w a x' ∧ w'.store = stored a (SessionActivity.writes a (.prompt x)) w.store := by
  cases x with
  | getSession req =>
      obtain ⟨rfl, rfl⟩ := some_pair_inj h
      refine ⟨?_, rfl⟩
      cases hs : w.getSession a.outcome req.sessionID with
      | error e => exact .notRead req e
      | ok sess => exact .read req sess (World.getSession_eq_ok hs)
  | containerNode req sess =>
      obtain ⟨rfl, rfl⟩ := some_pair_inj h
      refine ⟨?_, rfl⟩
      cases hnode : w.containerNode a.outcome sess.containerID with
      | error e => exact .noNode req sess e
      | ok r => exact .begun req sess r.2 r.1 hnode
  | upsertSession req sess k run =>
      obtain ⟨rfl, rfl⟩ := some_pair_inj h
      exact ⟨.sessionWritten req sess k run, w.write_stored a (.session sess)⟩
  | upsertRun req sess k run =>
      obtain ⟨rfl, rfl⟩ := some_pair_inj h
      exact ⟨.runWritten req sess k run, w.write_stored a (.run run)⟩
  | publishStarted req sess k run =>
      obtain ⟨rfl, rfl⟩ := some_pair_inj h
      exact ⟨.announced req sess k run, World.publish_store ..⟩
  | nodePrompt req sess k run =>
      simp only [Prompt.step] at h
      split at h
      · next event hr =>
          obtain ⟨rfl, rfl⟩ := some_pair_inj h
          refine ⟨?_, World.publish_store ..⟩
          cases a.outcome.err with
          | some e => exact .failed req sess k run e
          | none => exact .event req sess k run event hr
      · next final ho hr =>
          obtain ⟨rfl, rfl⟩ := some_pair_inj h
          exact ⟨.ended req sess k run final ho hr, rfl⟩
      · cases h
      · obtain ⟨rfl, rfl⟩ := some_pair_inj h
        exact ⟨.failed req sess k run _, rfl⟩
      · obtain ⟨rfl, rfl⟩ := some_pair_inj h
        exact ⟨.failed req sess k run _, rfl⟩
  | upsertFailedRun sess run =>
      obtain ⟨rfl, rfl⟩ := some_pair_inj h
      exact ⟨.failedRunWritten sess run, w.write_stored a (.run run)⟩
  | upsertFailedSession sess run =>
      obtain ⟨rfl, rfl⟩ := some_pair_inj h
      exact ⟨.failedSessionWritten sess run, w.write_stored a (.session sess)⟩
  | upsertFinalRun sess run final =>
      obtain ⟨rfl, rfl⟩ := some_pair_inj h
      refine ⟨?_, w.write_stored a (.run final)⟩
      cases he : a.outcome.err with
      | some e => exact .runNotStored sess run final e he
      | none => exact .runStored sess run final (Outcome.eq_ok_of_err he)
  | upsertFinalSession sess run final =>
      obtain ⟨rfl, rfl⟩ := some_pair_inj h
      refine ⟨?_, w.write_stored a (.session sess)⟩
      cases he : a.outcome.err with
      | some e => exact .sessionNotStored sess run final e he
      | none => exact .sessionStored sess run final (Outcome.eq_ok_of_err he)
  | appendAudit final =>
      obtain ⟨rfl, rfl⟩ := some_pair_inj h
      exact ⟨.audited final, w.write_stored a (.audit _)⟩
  | returned res => cases h

/-- **A call of `Cancel`.** -/
theorem Cancel.step_next {x x' : Cancel} (h : x.step w a = some (w', x')) :
    x.Next w a x' ∧ w'.store = stored a (SessionActivity.writes a (.cancel x)) w.store := by
  cases x with
  | getSession req =>
      obtain ⟨rfl, rfl⟩ := some_pair_inj h
      refine ⟨?_, rfl⟩
      cases hs : w.getSession a.outcome req.sessionID with
      | error e => exact .notRead req e
      | ok sess => exact .read req sess (World.getSession_eq_ok hs)
  | containerNode req sess =>
      obtain ⟨rfl, rfl⟩ := some_pair_inj h
      refine ⟨?_, rfl⟩
      cases hnode : w.containerNode a.outcome sess.containerID with
      | error e => exact .noNode req sess e
      | ok r => exact .begun req sess r.2 r.1 hnode
  | upsertSession req sess k =>
      obtain ⟨rfl, rfl⟩ := some_pair_inj h
      exact ⟨.sessionWritten req sess k, w.write_stored a (.session sess)⟩
  | publishCancelling req k =>
      obtain ⟨rfl, rfl⟩ := some_pair_inj h
      exact ⟨.announced req k, World.publish_store ..⟩
  | nodeCancel req k =>
      obtain ⟨rfl, rfl⟩ := some_pair_inj h
      refine ⟨?_, rfl⟩
      cases a.outcome.err with
      | some e => exact .ended req k _
      | none => exact .ended req k _
  | returned res => cases h

/-- **What a call of an activity can do**: it leads where `Next` says, and it changes the store
by the row that `writes` says or not at all. -/
theorem Activity.step_spec {x x' : Activity} (h : x.step w a = some (w', x')) :
    x.Next w a x' ∧ w'.store = stored a (x.writes a) w.store := by
  cases x with
  | provision x =>
      obtain ⟨w'', y, hs, rfl, rfl⟩ := map_eq_some_pair h
      exact ⟨.provision (Provision.step_next hs).1, (Provision.step_next hs).2⟩
  | openSession x =>
      obtain ⟨w'', y, hs, rfl, rfl⟩ := map_eq_some_pair h
      exact ⟨.openSession (OpenSession.step_next hs).1, (OpenSession.step_next hs).2⟩
  | container x =>
      obtain ⟨w'', y, hs, rfl, rfl⟩ := map_eq_some_pair h
      cases x with
      | ensureAgent x =>
          obtain ⟨w₂, z, hz, rfl, rfl⟩ := map_eq_some_pair hs
          exact ⟨.ensureAgent (EnsureAgent.step_next hz).1, (EnsureAgent.step_next hz).2⟩
      | hibernate x =>
          obtain ⟨w₂, z, hz, rfl, rfl⟩ := map_eq_some_pair hs
          exact ⟨.hibernate (Hibernate.step_next hz).1, (Hibernate.step_next hz).2⟩
      | delete x =>
          obtain ⟨w₂, z, hz, rfl, rfl⟩ := map_eq_some_pair hs
          exact ⟨.delete (Delete.step_next hz).1, (Delete.step_next hz).2⟩
  | session x =>
      obtain ⟨w'', y, hs, rfl, rfl⟩ := map_eq_some_pair h
      cases x with
      | prompt x =>
          obtain ⟨w₂, z, hz, rfl, rfl⟩ := map_eq_some_pair hs
          exact ⟨.prompt (Prompt.step_next hz).1, (Prompt.step_next hz).2⟩
      | cancel x =>
          obtain ⟨w₂, z, hz, rfl, rfl⟩ := map_eq_some_pair hs
          exact ⟨.cancel (Cancel.step_next hz).1, (Cancel.step_next hz).2⟩

end

section

variable {κ ρ : Type} [DecidableEq κ] {key : ρ → κ} {a : Answer}

/-- A table after a call that writes the row, if there is one. -/
def storedIn (a : Answer) (r : Option ρ) (t : Table κ ρ key) : Table κ ρ key :=
  match r with
  | none => t
  | some r => if a.outcome.took then t.upsert r else t

/-- A row after a call was there before, or the call has written it. -/
theorem storedIn_cases {r : Option ρ} {t : Table κ ρ key} {k : κ} {x : ρ}
    (h : (storedIn a r t).get k = some x) :
    t.get k = some x ∨ (r = some x ∧ key x = k ∧ a.outcome.took = true) := by
  unfold storedIn at h
  split at h
  · exact Or.inl h
  · split_ifs at h with htook
    · rw [Table.get_upsert] at h
      split_ifs at h with hk
      · obtain rfl := Option.some.inj h
        exact Or.inr ⟨rfl, hk.symm, htook⟩
      · exact Or.inl h
    · exact Or.inl h

theorem storedIn_isSome (r : Option ρ) {t : Table κ ρ key} {k : κ} (h : (t.get k).isSome = true) :
    ((storedIn a r t).get k).isSome = true := by
  unfold storedIn
  split
  · exact h
  · split_ifs
    · rw [Table.get_upsert]
      split_ifs
      · rfl
      · exact h
    · exact h

end

/-- The container row that is written. -/
def Row.container? : Row → Option Container
  | .container c => some c
  | _ => none

/-- The agent row that is written. -/
def Row.agent? : Row → Option AgentInstance
  | .agent i => some i
  | _ => none

/-- The session row that is written. -/
def Row.session? : Row → Option Session
  | .session x => some x
  | _ => none

/-- The run row that is written. -/
def Row.run? : Row → Option Run
  | .run r => some r
  | _ => none

/-- A kind of row: its table in the store, and the rows that are written to it. -/
structure RowKind (ρ : Type) (key : ρ → String) where
  table : MemoryStore → Table String ρ key
  row : ρ → Row
  row? : Row → Option ρ
  eq_row : ∀ {r x}, row? r = some x → r = row x
  table_put : ∀ r s, table (r.put s) = ((row? r).map (table s).upsert).getD (table s)

def RowKind.containers : RowKind Container Container.id where
  table := MemoryStore.containers
  row := .container
  row? := Row.container?
  eq_row {r _} h := by cases r <;> cases h; rfl
  table_put r _ := by cases r <;> rfl

def RowKind.agents : RowKind AgentInstance AgentInstance.id where
  table := MemoryStore.agents
  row := .agent
  row? := Row.agent?
  eq_row {r _} h := by cases r <;> cases h; rfl
  table_put r _ := by cases r <;> rfl

def RowKind.sessions : RowKind Session Session.id where
  table := MemoryStore.sessions
  row := .session
  row? := Row.session?
  eq_row {r _} h := by cases r <;> cases h; rfl
  table_put r _ := by cases r <;> rfl

def RowKind.runs : RowKind Run Run.id where
  table := MemoryStore.runs
  row := .run
  row? := Row.run?
  eq_row {r _} h := by cases r <;> cases h; rfl
  table_put r _ := by cases r <;> rfl

section

variable {ρ : Type} {key : ρ → String} (K : RowKind ρ key) (a : Answer) (row : Option Row)
  (s : MemoryStore)

variable {row} in
theorem RowKind.eq {x : ρ} (h : row.bind K.row? = some x) : row = some (K.row x) := by
  obtain ⟨r, rfl, hr⟩ := Option.bind_eq_some_iff.1 h
  rw [K.eq_row hr]

/-- The table after a call holds the row, where it is of the table's kind. -/
theorem RowKind.table_stored :
    K.table (stored a row s) = storedIn a (row.bind K.row?) (K.table s) := by
  cases row with
  | none => rfl
  | some r =>
      unfold stored storedIn
      rw [Option.bind_some]
      split_ifs with htook
      · rw [K.table_put]
        cases K.row? r <;> rfl
      · cases K.row? r <;> rfl

theorem stored_containers :
    (stored a row s).containers = storedIn a (row.bind Row.container?) s.containers :=
  RowKind.containers.table_stored a row s

theorem stored_agents : (stored a row s).agents = storedIn a (row.bind Row.agent?) s.agents :=
  RowKind.agents.table_stored a row s

theorem stored_sessions :
    (stored a row s).sessions = storedIn a (row.bind Row.session?) s.sessions :=
  RowKind.sessions.table_stored a row s

theorem stored_runs : (stored a row s).runs = storedIn a (row.bind Row.run?) s.runs :=
  RowKind.runs.table_stored a row s

end

end Workflows
end Agentd
