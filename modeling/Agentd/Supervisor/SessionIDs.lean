/-
# The session ids that an agent knows

What a `Manager` sends to its agents with a session id in it: `CreateSession` proposes the id in
`session/new`, `LoadSession` names a session of the agent in `session/load`, and `Prompt` and
`Cancel` name the session in `session/prompt` and `session/cancel` (`runtime/supervisor/manager.go`
and the methods of `StdioClient` in `acp/stdio.go`).  An agent knows the ids of the first two
calls, where they have succeeded.

`CreateSession` stores the session under the id that it has sent.  `LoadSession` sends the
`ResumeID` and stores the session under the `SessionID` of the request, if there is one; `Prompt`
and `Cancel` then send that, which the agent has never heard of (`aliasedLoad_disagrees`).
`agreed_of_sameID` says that nothing else goes wrong.
-/

import Agentd.Supervisor.Manager

namespace Agentd
namespace Supervisor

open Control Concurrency

/-- The calls that name a session of the agent. -/
inductive Method
  | prompt
  | cancel
  deriving DecidableEq

/-- What passes between the supervisor and its agents: process `cmd` has accepted the id in a
`session/new` or `session/load`, or the id is sent to it in a `session/prompt` or
`session/cancel`. -/
inductive Message
  | accepted (cmd : ℕ) (sessionID : String)
  | sent (method : Method) (cmd : ℕ) (sessionID : String)
  deriving DecidableEq

/-- A `Prompt` or `Cancel` after `sessionAgent`, with the process of the agent and the id that it
sends. -/
structure SendCall where
  method : Method
  cmd : ℕ
  sessionID : String
  sent : Bool := false

/-- A manager with its `Prompt` and `Cancel` calls and all messages so far.  `made` are the ids
that `NewID` has made for agent instances, one for each process; the code does not read it. -/
structure Wire where
  manager : Pool Manager ManagerCall
  calls : List SendCall := []
  log : List Message := []
  made : List String := []

/-- What happens next: something in the manager, `sessionAgent` of a `Prompt` or `Cancel`, or the
message of one. -/
inductive WireLabel
  | manager (l : ManagerLabel)
  | sessionAgent (method : Method) (sessionID : String)
  | send (i : ℕ)

/-- The id that the agent is sent for the session: in `session/new` that of the session, in
`session/load` the one to resume. -/
def SessionRequest.proposed (sessionID : String) : SessionRequest → String
  | .create _ => sessionID
  | .load req => req.resumeID

/-- The id that an agent accepts in the step. -/
def accepts (p : Pool Manager ManagerCall) : ManagerLabel → Option Message
  | .calls (.step i (.answered (.ok _) _)) =>
      match p.threads[i]? with
      | some (.session req (.callAgent h sessionID)) =>
          p.shared.handles[h]?.map fun handle => .accepted handle.cmd (req.proposed sessionID)
      | _ => none
  | _ => none

/-- The id of the agent instance whose process has been started in the step that led to `q`. -/
def makes (q : Pool Manager ManagerCall) : ManagerLabel → Option String
  | .calls (.step i (.started _ _ _)) =>
      match q.threads[i]? with
      | some (.ensure _ (.clientInitialize inst _)) => some inst.id
      | _ => none
  | _ => none

namespace Wire

/-- One step. -/
def step (w : Wire) : WireLabel → Option Wire
  | .manager l =>
      (managerStep w.manager l).map fun q =>
        { w with
          manager := q
          log := w.log ++ (accepts w.manager l).toList
          made := w.made ++ (makes q l).toList }
  | .sessionAgent method sessionID =>
      match w.manager.shared.sessionAgent sessionID with
      | .error _ => some w
      | .ok (sess, h) =>
          w.manager.shared.handles[h]?.map fun handle =>
            { w with calls := w.calls ++ [{ method, cmd := handle.cmd, sessionID := sess.id }] }
  | .send i =>
      w.calls[i]?.bind fun c =>
        if c.sent then none
        else
          some { w with
            calls := w.calls.set i { c with sent := true }
            log := w.log ++ [.sent c.method c.cmd c.sessionID] }

/-- A new manager. -/
def new (containerID : String) (environ : List String) : Wire :=
  { manager := ⟨newManager containerID environ, []⟩ }

/-- A `LoadSession` that succeeds stores the session under the id that the agent was sent, or
under one that the agent knows already. -/
def SameID (w : Wire) : WireLabel → Prop
  | .manager (.calls (.step i (.answered (.ok _) _))) =>
      match w.manager.threads[i]? with
      | some (.session (.load req) (.callAgent h sessionID)) =>
          sessionID = req.resumeID ∨
            ∀ handle ∈ w.manager.shared.handles[h]?, .accepted handle.cmd sessionID ∈ w.log
      | _ => True
  | _ => True

/-- `NewID` does not repeat the id of an agent instance. -/
def FreshAgent (w : Wire) : WireLabel → Prop
  | .manager (.calls (.step _ (.started _ raw _))) => newID "agent" raw ∉ w.made
  | _ => True

end Wire

/-- **Supervisor and agent agree on session ids**: every id that is sent to an agent in a
`session/prompt` or `session/cancel` has been accepted by that agent before. -/
def Agreed (log : List Message) : Prop :=
  ∀ before method cmd sessionID after, log = before ++ .sent method cmd sessionID :: after →
    .accepted cmd sessionID ∈ before

/-- Of the session, its agent instance and its id are known to the process. -/
def Known (made : List String) (log : List Message) (sess : Session) : Prop :=
  ∃ cmd : ℕ, made[cmd]? = some sess.agentInstanceID ∧ .accepted cmd sess.id ∈ log

/-- What holds of a call of the manager at each of its steps: the instance that it has made is
that of its process, and a session that it is about to enter is known. -/
def ManagerCall.Wired (made : List String) (log : List Message) : ManagerCall → Prop
  | .ensure _ (.clientInitialize inst cmd) | .ensure _ (.insert inst cmd) =>
      made[cmd]? = some inst.id
  | .session _ (.insert sess) => Known made log sess
  | _ => True

/-- The manager agrees with the messages: each process has the id that was made for it, and each
session is known to the process of its agent. -/
structure PoolWired (p : Pool Manager ManagerCall) (made : List String) (log : List Message) :
    Prop where
  length : made.length = p.shared.processes.length
  handles : ∀ (h : ℕ) handle, p.shared.handles[h]? = some handle →
    made[handle.cmd]? = some handle.inst.id
  threads : ∀ c ∈ p.threads, c.Wired made log
  sessions : ∀ id sess, p.shared.sessions.get id = some sess → Known made log sess

/-- **The invariant.** -/
structure WireOk (w : Wire) : Prop where
  nodup : w.made.Nodup
  pool : PoolWired w.manager w.made w.log
  calls : ∀ c ∈ w.calls, .accepted c.cmd c.sessionID ∈ w.log
  agreed : Agreed w.log

section

variable {made made' : List String} {log log' : List Message}

theorem Agreed.nil : Agreed [] := by
  intro before method cmd sessionID after h
  cases before <;> cases h

/-- One more message, which is not sent unless its id is accepted. -/
theorem Agreed.concat {m : Message} (h : Agreed log)
    (hm : ∀ method cmd sessionID, m = .sent method cmd sessionID → .accepted cmd sessionID ∈ log) :
    Agreed (log ++ [m]) := by
  intro before method cmd sessionID after heq
  rcases List.eq_nil_or_concat after with rfl | ⟨after', m', rfl⟩
  · obtain ⟨rfl, hlast⟩ := List.append_inj' heq rfl
    exact hm method cmd sessionID (List.singleton_inj.1 hlast)
  · rw [List.concat_eq_append, ← List.cons_append, ← List.append_assoc] at heq
    obtain ⟨hlog, -⟩ := List.append_inj' heq rfl
    exact h before method cmd sessionID after' hlog

theorem Known.append {sess : Session} (h : Known made log sess) :
    Known (made ++ made') (log ++ log') sess := by
  obtain ⟨cmd, hcmd, hmem⟩ := h
  exact ⟨cmd, getElem?_append_of_some _ hcmd, List.mem_append_left _ hmem⟩

theorem ManagerCall.Wired.append {c : ManagerCall} (h : c.Wired made log) :
    c.Wired (made ++ made') (log ++ log') := by
  unfold ManagerCall.Wired at h ⊢
  split
  · exact getElem?_append_of_some _ h
  · exact getElem?_append_of_some _ h
  · exact Known.append h
  · trivial

end

section

variable {p q : Pool Manager ManagerCall} {made : List String} {log : List Message}

theorem PoolWired.logged (h : PoolWired p made log) (log' : List Message) :
    PoolWired p made (log ++ log') := by
  refine ⟨h.length, h.handles, fun c hc => ?_, fun id sess hget => ?_⟩
  · have hwired : c.Wired (made ++ []) (log ++ log') := (h.threads c hc).append
    rwa [List.append_nil] at hwired
  · have hknown : Known (made ++ []) (log ++ log') sess := (h.sessions id sess hget).append
    rwa [List.append_nil] at hknown

/-- A step of one call: the manager keeps what is known, and so does the call. -/
theorem PoolWired.set {i : ℕ} {c' : ManagerCall} {m' : Manager} {made' : List String}
    {log' : List Message} (h : PoolWired p made log)
    (hlen : (made ++ made').length = m'.processes.length)
    (hhandles : ∀ (k : ℕ) handle, m'.handles[k]? = some handle →
      p.shared.handles[k]? = some handle ∨ (made ++ made')[handle.cmd]? = some handle.inst.id)
    (hsessions : ∀ id sess, m'.sessions.get id = some sess →
      p.shared.sessions.get id = some sess ∨ Known (made ++ made') (log ++ log') sess)
    (hc : c'.Wired (made ++ made') (log ++ log')) :
    PoolWired ⟨m', p.threads.set i c'⟩ (made ++ made') (log ++ log') := by
  refine ⟨hlen, fun k handle hget => ?_, fun c hmem => ?_, fun id sess hget => ?_⟩
  · rcases hhandles k handle hget with hold | hnew
    · exact getElem?_append_of_some _ (h.handles k handle hold)
    · exact hnew
  · rcases List.mem_or_eq_of_mem_set hmem with hold | rfl
    · exact (h.threads c hold).append
    · exact hc
  · rcases hsessions id sess hget with hold | hnew
    · exact (h.sessions id sess hold).append
    · exact hnew

/-- A step of one call that makes nothing and gets nothing accepted. -/
theorem PoolWired.quiet {i : ℕ} {c' : ManagerCall} {m' : Manager} {l : ManagerLabel}
    (h : PoolWired p made log) (hq : q = ⟨m', p.threads.set i c'⟩) (hmakes : makes q l = none)
    (haccepts : accepts p l = none) (hproc : m'.processes.length = p.shared.processes.length)
    (hhandles : ∀ (k : ℕ) handle, m'.handles[k]? = some handle →
      p.shared.handles[k]? = some handle ∨ made[handle.cmd]? = some handle.inst.id)
    (hsessions : ∀ id sess, m'.sessions.get id = some sess →
      p.shared.sessions.get id = some sess ∨ Known made log sess)
    (hc : c'.Wired made log) :
    PoolWired q (made ++ (makes q l).toList) (log ++ (accepts p l).toList) := by
  rw [hmakes, haccepts, hq]
  refine h.set ?_ ?_ ?_ ?_
  · rw [Option.toList_none, List.append_nil, hproc]
    exact h.length
  · simpa only [Option.toList_none, List.append_nil] using hhandles
  · simpa only [Option.toList_none, List.append_nil] using hsessions
  · simpa only [Option.toList_none, List.append_nil] using hc

/-- **A step of `EnsureAgent`.** -/
theorem PoolWired.ensure {i : ℕ} {a : CallLabel} {req : InstallAgentRequest} {pc pc' : EnsurePC}
    {m' : Manager} (h : PoolWired p made log) (hi : p.threads[i]? = some (.ensure req pc))
    (hs : EnsureStep p.shared req.plan pc a m' pc')
    (hq : q = ⟨m', p.threads.set i (.ensure req pc')⟩) :
    PoolWired q (made ++ (makes q (.calls (.step i a))).toList)
      (log ++ (accepts p (.calls (.step i a))).toList) := by
  have hself := h.threads _ (List.mem_of_getElem? hi)
  have hi' : q.threads[i]? = some (.ensure req pc') := by
    rw [hq]
    exact getElem?_set_of_some _ hi
  have hnone : accepts p (.calls (.step i a)) = none := by
    cases a with
    | answered res now => cases res <;> simp only [accepts, hi]
    | lookup | started | insert | snapshot | agentByID => rfl
  cases hs with
  | found | absent | snapshot =>
      exact h.quiet hq rfl hnone rfl (fun _ _ hget => Or.inl hget) (fun _ _ hget => Or.inl hget)
        trivial
  | noEntrypoint | notStarted =>
      have hmakes : ∀ err raw now, makes q (.calls (.step i (.started err raw now))) = none := by
        intro err raw now
        simp only [makes, hi']
      exact h.quiet hq (hmakes ..) hnone rfl (fun _ _ hget => Or.inl hget) (fun _ _ hget => Or.inl hget)
        trivial
  | started command args raw now =>
      have hmakes : makes q (.calls (.step i (.started none raw now))) =
          some (newInstance p.shared req.plan raw now).id := by
        simp only [makes, hi']
      rw [hmakes, hnone, hq]
      refine h.set ?_ (fun _ _ hget => Or.inl hget) (fun _ _ hget => Or.inl hget) ?_
      · rw [List.length_append, List.length_append, h.length]
        rfl
      · show (made ++ [_])[p.shared.processes.length]? = some _
        rw [← h.length]
        exact List.getElem?_concat_length
  | refused inst cmd err now =>
      refine h.quiet hq rfl hnone ?_ (fun _ _ hget => Or.inl hget) (fun _ _ hget => Or.inl hget)
        trivial
      exact List.length_modify ..
  | negotiated inst cmd =>
      exact h.quiet hq rfl hnone rfl (fun _ _ hget => Or.inl hget) (fun _ _ hget => Or.inl hget)
        hself
  | inserted inst cmd =>
      refine h.quiet hq rfl hnone rfl (fun k handle hget => ?_) (fun _ _ hget => Or.inl hget)
        trivial
      rcases getElem?_concat_cases hget with ⟨-, rfl⟩ | hold
      · exact Or.inr hself
      · exact Or.inl hold

/-- **A step of `CreateSession` or `LoadSession`**, which enters the session under an id that the
agent knows. -/
theorem PoolWired.session {i : ℕ} {a : CallLabel} {req : SessionRequest} {pc pc' : SessionPC}
    {m' : Manager} (h : PoolWired p made log) (hi : p.threads[i]? = some (.session req pc))
    (hs : SessionStep p.shared req pc a m' pc')
    (hsame : ∀ k sessionID, pc = .callAgent k sessionID → ∀ res now, a = .answered (.ok res) now →
      sessionID = req.proposed sessionID ∨
        ∀ handle ∈ p.shared.handles[k]?, .accepted handle.cmd sessionID ∈ log)
    (hq : q = ⟨m', p.threads.set i (.session req pc')⟩) :
    PoolWired q (made ++ (makes q (.calls (.step i a))).toList)
      (log ++ (accepts p (.calls (.step i a))).toList) := by
  have hself := h.threads _ (List.mem_of_getElem? hi)
  cases hs with
  | notFound | found | refused =>
      exact h.quiet hq rfl rfl rfl (fun _ _ hget => Or.inl hget) (fun _ _ hget => Or.inl hget)
        trivial
  | accepted k sessionID handle hget negotiated now =>
      have haccepts : accepts p (.calls (.step i (.answered (.ok negotiated) now))) =
          some (.accepted handle.cmd (req.proposed sessionID)) := by
        simp only [accepts, hi, hget, Option.map_some]
      have hmakes : makes q (.calls (.step i (.answered (.ok negotiated) now))) = none := rfl
      rw [haccepts, hmakes, hq]
      refine h.set ?_ (fun _ _ hold => Or.inl hold) (fun _ _ hold => Or.inl hold) ?_
      · rw [Option.toList_none, List.append_nil]
        exact h.length
      · refine ⟨handle.cmd, getElem?_append_of_some _ (h.handles k handle hget), ?_⟩
        show Message.accepted handle.cmd sessionID ∈ log ++ _
        rcases hsame k sessionID rfl negotiated now rfl with heq | hold
        · rw [← heq]
          exact List.mem_append_right _ (List.mem_singleton_self _)
        · exact List.mem_append_left _ (hold handle hget)
  | inserted sess =>
      refine h.quiet hq rfl rfl rfl (fun _ _ hold => Or.inl hold) (fun id sess' hget => ?_) trivial
      rw [Table.get_upsert] at hget
      split_ifs at hget
      · obtain rfl := Option.some.inj hget
        exact Or.inr hself
      · exact Or.inl hget

/-- **A step of the manager**, in which a `LoadSession` stores the session under an id that the
agent knows. -/
theorem PoolWired.step {l : ManagerLabel} (h : PoolWired p made log)
    (hsame : ∀ (i : ℕ) req k sessionID res now, l = .calls (.step i (.answered (.ok res) now)) →
      p.threads[i]? = some (.session req (.callAgent k sessionID)) →
        sessionID = req.proposed sessionID ∨
          ∀ handle ∈ p.shared.handles[k]?, .accepted handle.cmd sessionID ∈ log)
    (hq : managerStep p l = some q) :
    PoolWired q (made ++ (makes q l).toList) (log ++ (accepts p l).toList) := by
  have hquiet : ∀ l, makes q l = none → accepts p l = none → PoolWired q made log →
      PoolWired q (made ++ (makes q l).toList) (log ++ (accepts p l).toList) := by
    intro l hmakes haccepts hwired
    rw [hmakes, haccepts]
    simpa only [Option.toList_none, List.append_nil] using hwired
  cases l with
  | calls l =>
      cases l with
      | spawn req =>
          obtain ⟨c, hc, rfl⟩ := Pool.step_spawn.1 (show p.step _ _ = some q from hq)
          refine hquiet _ rfl rfl ⟨h.length, h.handles, fun d hmem => ?_, h.sessions⟩
          rcases List.mem_append.1 hmem with hold | hnew
          · exact h.threads d hold
          · obtain rfl := List.mem_singleton.1 hnew
            cases req <;> cases hc <;> trivial
      | step i a =>
          obtain ⟨c, m', c', hi, hq', hstep⟩ := managerStep_call hq
          rcases hstep with ⟨req, pc, pc', rfl, rfl, hs⟩ | ⟨req, pc, pc', rfl, rfl, hs⟩
          · exact h.ensure hi hs hq'
          · refine h.session hi hs (fun k sessionID hpc res now ha => ?_) hq'
            subst hpc ha
            exact hsame i req k sessionID res now rfl hi
  | exit n =>
      obtain rfl := Option.some.inj hq
      exact hquiet _ rfl rfl ⟨h.length.trans (List.length_modify ..).symm, h.handles, h.threads,
        h.sessions⟩
  | waited n now =>
      obtain ⟨m', hm', rfl⟩ := Option.map_eq_some_iff.1 hq
      obtain ⟨_, _, rfl⟩ := Manager.waited_eq_some hm'
      refine hquiet _ rfl rfl ⟨h.length, fun k handle' hget' => ?_, h.threads, h.sessions⟩
      obtain ⟨handle, _, _, hget, rfl⟩ := Manager.handle_of_waited hm' hget'
      exact h.handles k handle hget

end

section

variable {w w' : Wire} {l : WireLabel}

/-- The id of a started process is the one that `NewID` has made. -/
theorem makes_eq_some {p q : Pool Manager ManagerCall} {l : ManagerLabel} {id : String}
    (hq : managerStep p l = some q) (hid : makes q l = some id) :
    ∃ i err raw now, l = .calls (.step i (.started err raw now)) ∧ id = newID "agent" raw := by
  unfold makes at hid
  split at hid
  · next i err raw now =>
      obtain ⟨c, m', c', hi, rfl, hstep⟩ := managerStep_call hq
      rw [getElem?_set_of_some _ hi] at hid
      rcases hstep with ⟨req, pc, pc', rfl, rfl, hs⟩ | ⟨req, pc, pc', rfl, rfl, hs⟩
      · cases hs with
        | noEntrypoint | notStarted => cases hid
        | started command args => exact ⟨i, none, raw, now, rfl, (Option.some.inj hid).symm⟩
      · cases hs
  · cases hid

/-- What a process has accepted, and the id that was made for it, tell the process. -/
theorem WireOk.accepted (hw : WireOk w) {sess : Session} {h : ℕ} {handle : Handle}
    {sessionID : String} (hfound : w.manager.shared.sessionAgent sessionID = .ok (sess, h))
    (hget : w.manager.shared.handles[h]? = some handle) :
    .accepted handle.cmd sess.id ∈ w.log := by
  have hsess := Manager.sessionAgent_eq_ok hfound
  obtain ⟨cmd, hcmd, hmem⟩ := hw.pool.sessions sessionID sess hsess
  have hagent : w.manager.shared.agentByID sess.agentInstanceID = .ok h := by
    simp only [Manager.sessionAgent, hsess] at hfound
    cases hag : w.manager.shared.agentByID sess.agentInstanceID with
    | error e =>
        rw [hag] at hfound
        cases hfound
    | ok n =>
        rw [hag] at hfound
        exact congrArg Except.ok (Prod.mk.inj (Except.ok.inj hfound)).2
  obtain ⟨key, handle', -, hget', hid⟩ := Manager.agentByID_eq_ok hagent
  obtain rfl := Option.mem_unique hget hget'
  -- the ids are distinct, so it is the process that has accepted the session
  have hsame := hw.pool.handles h handle hget
  rw [hid] at hsame
  obtain ⟨hlt, hval⟩ := List.getElem?_eq_some_iff.1 hcmd
  obtain ⟨hlt', hval'⟩ := List.getElem?_eq_some_iff.1 hsame
  have hcmds : cmd = handle.cmd := (hw.nodup.getElem_inj_iff).1 (hval.trans hval'.symm)
  exact hcmds ▸ hmem

/-- **A step keeps supervisor and agents in agreement.** -/
theorem WireOk.step (hw : WireOk w) (hfresh : w.FreshAgent l) (hsame : w.SameID l)
    (h : w.step l = some w') : WireOk w' := by
  cases l with
  | manager l =>
      obtain ⟨q, hq, rfl⟩ := Option.map_eq_some_iff.1 h
      refine ⟨?_, hw.pool.step ?_ hq, fun c hc => List.mem_append_left _ (hw.calls c hc), ?_⟩
      · cases hmakes : makes q l with
        | none => simpa only [Option.toList_none, List.append_nil] using hw.nodup
        | some id =>
            obtain ⟨i, err, raw, now, rfl, rfl⟩ := makes_eq_some hq hmakes
            exact List.nodup_append.2 ⟨hw.nodup, List.nodup_singleton _, by
              rintro a ha b hb rfl
              obtain rfl := List.mem_singleton.1 hb
              exact hfresh ha⟩
      · rintro i req k sessionID res now rfl hi
        cases req with
        | create req => exact Or.inl rfl
        | load req =>
            simp only [Wire.SameID, hi] at hsame
            exact hsame
      · cases haccepts : accepts w.manager l with
        | none => simpa only [Option.toList_none, List.append_nil] using hw.agreed
        | some m =>
            refine hw.agreed.concat fun method cmd sessionID hm => ?_
            subst hm
            unfold accepts at haccepts
            split at haccepts
            · split at haccepts
              · obtain ⟨handle, -, hmsg⟩ := Option.map_eq_some_iff.1 haccepts
                cases hmsg
              · cases haccepts
            · cases haccepts
  | sessionAgent method sessionID =>
      simp only [Wire.step] at h
      split at h
      · exact Option.some.inj h ▸ hw
      · next sess k hfound =>
          obtain ⟨handle, hget, rfl⟩ := Option.map_eq_some_iff.1 h
          refine ⟨hw.nodup, hw.pool, fun c hc => ?_, hw.agreed⟩
          rcases List.mem_append.1 hc with hold | hnew
          · exact hw.calls c hold
          · obtain rfl := List.mem_singleton.1 hnew
            exact hw.accepted hfound hget
  | send i =>
      obtain ⟨c, hi, hrest⟩ := Option.bind_eq_some_iff.1 h
      split_ifs at hrest
      obtain rfl := Option.some.inj hrest
      have hmem := hw.calls c (List.mem_of_getElem? hi)
      refine ⟨hw.nodup, ?_, fun d hd => List.mem_append_left _ ?_, hw.agreed.concat ?_⟩
      · exact hw.pool.logged _
      · rcases List.mem_or_eq_of_mem_set hd with hold | rfl
        · exact hw.calls d hold
        · exact hmem
      · rintro method cmd sessionID ⟨⟩
        exact hmem

theorem WireOk.new (containerID : String) (environ : List String) :
    WireOk (.new containerID environ) where
  nodup := List.nodup_nil
  pool :=
    { length := rfl
      handles := fun _ _ hget => by cases hget
      threads := fun _ hc => by cases hc
      sessions := fun _ _ hget => by cases hget }
  calls _ hc := by cases hc
  agreed := .nil

/-- **Supervisor and agents agree on session ids** in every run of a new manager in which `NewID`
does not repeat the id of an agent instance, and a `LoadSession` that succeeds stores the session
under the id that the agent was sent, or under one that it knows already. -/
theorem agreed_of_sameID {containerID : String} {environ : List String} {l : List WireLabel}
    (hl : Along Wire.step (fun w l => w.FreshAgent l ∧ w.SameID l) (.new containerID environ) l)
    (h : exec Wire.step (.new containerID environ) l = some w) : Agreed w.log := by
  have hw : WireOk w :=
    exec_invariant (fun _ _ _ hw hC hs => hw.step hC.1 hC.2 hs) (.new containerID environ) hl h
  exact hw.agreed

end

/-- An agent is started, loads a session of its own, and is prompted for it. -/
def loadAndPrompt (sessionID : String) : List WireLabel :=
  [.manager (.calls (.spawn (.ensureAgent { plan := { bundle := { entrypoint := ["echo"] } } }))),
    .manager (.calls (.step 0 .lookup)), .manager (.calls (.step 0 (.started none "1" 1))),
    .manager (.calls (.step 0 (.answered (.ok {}) 2))), .manager (.calls (.step 0 .insert)),
    .manager (.calls (.spawn (.session
      (.load { agentInstanceID := "agent_1", sessionID, resumeID := "sess_0" })))),
    .manager (.calls (.step 1 (.agentByID ""))), .manager (.calls (.step 1 (.answered (.ok {}) 3))),
    .manager (.calls (.step 1 .insert)),
    .sessionAgent .prompt (if sessionID = "" then "sess_0" else sessionID), .send 0]

/-- A session that keeps its id is prompted under an id that the agent knows. -/
theorem plainLoad_agrees : ∃ w, exec Wire.step (.new "ctr_1" []) (loadAndPrompt "") = some w ∧
    w.log = [.accepted 0 "sess_0", .sent .prompt 0 "sess_0"] ∧ Agreed w.log := by
  have hl : Along Wire.step (fun w l => w.FreshAgent l ∧ w.SameID l) (.new "ctr_1" [])
      (loadAndPrompt "") := by
    refine .cons ⟨trivial, trivial⟩ rfl (.cons ⟨trivial, trivial⟩ rfl (.cons ⟨?_, trivial⟩ rfl
      (.cons ⟨trivial, trivial⟩ rfl (.cons ⟨trivial, trivial⟩ rfl (.cons ⟨trivial, trivial⟩ rfl
      (.cons ⟨trivial, trivial⟩ rfl (.cons ⟨trivial, Or.inl rfl⟩ rfl (.cons ⟨trivial, trivial⟩ rfl
      (.cons ⟨trivial, trivial⟩ rfl (.cons ⟨trivial, trivial⟩ rfl trivial))))))))))
    exact List.not_mem_nil
  exact ⟨_, rfl, rfl, agreed_of_sameID hl rfl⟩

/-- **A session is loaded under a new id**: the agent has loaded `sess_0`, and is then prompted
for `sess_1`. -/
theorem aliasedLoad_disagrees :
    ∃ w, exec Wire.step (.new "ctr_1" []) (loadAndPrompt "sess_1") = some w ∧ ¬Agreed w.log := by
  refine ⟨_, rfl, fun hagreed => ?_⟩
  have hmem := hagreed [.accepted 0 "sess_0"] .prompt 0 "sess_1" [] rfl
  simp at hmem

end Supervisor
end Agentd
