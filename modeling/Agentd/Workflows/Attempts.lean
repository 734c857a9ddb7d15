/-
# Attempts

`withActivityOptions` of `workflows/workflows.go`: an activity that returns an error is
started again with the same request, five times at most.  An attempt is an activity that
runs alone: its own steps, and the steps of the call that a supervisor serves for it.  So an
attempt is a run of the site in which nothing else happens (`attempt_run`).

Before the node has answered, an attempt stands at one of `Pre`; when it has, the attempt is
about to write what came back (`Reached`), and from there on it calls the store alone.
`attempt_progress` says this of every attempt of the activities that work on containers,
agents and new sessions, whatever its calls meet.
-/

import Agentd.Workflows.Site
import Agentd.Workflows.FailedActivities

namespace Agentd
namespace Workflows

open Control Store NodeRuntime Supervisor Concurrency

/-- What happens next in an attempt: a step of the activity, or a step of the call that it
waits for. -/
inductive AttemptLabel
  | job (l : JobLabel)
  | call (l : CallLabel)

/-- One step of an attempt. -/
def attemptStep (t : Site × Job) : AttemptLabel → Option (Site × Job)
  | .job l => t.2.step t.1 l
  | .call l =>
      match t.2.waiting with
      | some (.served n j) =>
          t.2.activity.asks.bind fun r =>
            (t.1.supervisorStep r.1 n (.step j l)).map fun s => (s, t.2)
      | _ => none

/-- An attempt at its start. -/
def Request.attempt (req : Request) (s : Site) : Site × Job := (s, { activity := req.start })

/-- The activity has returned a value. -/
def Activity.Succeeded : Activity → Prop
  | .provision (.returned (.ok _)) | .openSession (.returned _ (.ok _))
  | .container (.ensureAgent (.returned _ (.ok _)))
  | .container (.hibernate (.returned (.ok _))) | .container (.delete (.returned (.ok _)))
  | .session (.prompt (.returned (.ok _))) | .session (.cancel (.returned (.ok _))) => True
  | _ => False

/-- The call has returned an error. -/
def Refused : ManagerCall → Prop
  | .ensure _ (.returned (.error _)) | .session _ (.returned (.error _)) => True
  | _ => False

/-- The node has no such container, or its supervisor has answered with an error. -/
def Refuses (t : Site × Job) : Prop :=
  ∃ k req, t.2.activity.asks = some (k, req) ∧
    match t.2.waiting with
    | none => (t.1.world.runner k).containers.get (containerOf req) = none
    | some (.served n j) =>
        ∃ sup c, t.1.supervisor? k n = some sup ∧ sup.threads[j]? = some c ∧ Refused c
    | _ => False

/-- The process starts and the agent accepts. -/
def CleanCall : CallLabel → Prop
  | .started err _ _ => err = none
  | .answered res _ => ∃ negotiated, res = .ok negotiated
  | .lookup | .insert | .snapshot | .agentByID _ => True

/-- Nothing fails in the step: not the call, unless it is the node that refuses it, and neither
the start of a process nor what the agent is asked. -/
def Clean (t : Site × Job) : AttemptLabel → Prop
  | .job (.call a) => a.outcome = .ok ∨ Refuses t
  | .job (.find _) | .job (.serve _ _) | .job .receive | .job (.finish _) => True
  | .call l => CleanCall l

/-- An id that `NewID` makes for a container or for a session is not in use. -/
def Fresh (t : Site × Job) : AttemptLabel → Prop
  | .job (.call a) =>
      match t.2.activity with
      | .provision (.nodeProvision req) =>
          req.id = "" → ∀ k, (t.1.world.runner k).containers.get (newID "ctr" a.raw) = none
      | _ => True
  | .call (.agentByID raw) =>
      match t.2.activity with
      | .openSession (.nodeOpen (.create req) _) =>
          req.sessionID = "" → ∀ k n sup, t.1.supervisor? k n = some sup →
            sup.shared.sessions.get (newID "sess" raw) = none
      | _ => True
  | _ => True

/-- An attempt from `s` comes to `t`, and nothing fails in it. -/
def CleanRun (s : Site) (req : Request) (t : Site × Job) : Prop :=
  ∃ l, Along attemptStep (fun t l => Clean t l ∧ Fresh t l) (req.attempt s) l ∧
    exec attemptStep (req.attempt s) l = some t

/-- An attempt in which nothing fails, from `s` to its return in `s'`. -/
def Completes (s : Site) (req : Request) (s' : Site) (x : Activity) : Prop :=
  ∃ w, CleanRun s req (s', ⟨x, w⟩) ∧ (x.Succeeded ∨ x.Failed)

/-- An attempt from `s` to `s'` that returns an error because a write of it failed. -/
def WriteFails (s : Site) (req : Request) (s' : Site) : Prop :=
  ∃ l a s₁ job₁ job', Along attemptStep Fresh (req.attempt s) l ∧
    exec attemptStep (req.attempt s) l = some (s₁, job₁) ∧
    (job₁.activity.writes a).isSome = true ∧ job₁.step s₁ (.call a) = some (s', job') ∧
    job'.activity.Failed

/-- `n` attempts, one after the other, that each return an error because a write failed. -/
inductive Retried (req : Request) : ℕ → Site → Site → Prop
  | zero (s : Site) : Retried req 0 s s
  | succ {n : ℕ} {s s₁ s' : Site} (h : Retried req n s s₁) (hlast : WriteFails s₁ req s') :
      Retried req (n + 1) s s'

/-- What a runner shows of a container: its record and directories, and the agents and sessions
of its supervisor. -/
def shows (r : Runner) (id : String) :
    Option (Container × String × String × String × Option Manager) :=
  (r.containers.get id).map fun h =>
    (h.container, h.root, h.workspace, h.socket,
      r.supervisors[h.supervisor]?.map fun sup => sup.shared)

/-- The same rows are stored, the nodes show the same containers, agents and sessions, and the
same prompts have been sent to the agents. -/
structure SameState (s s' : Site) : Prop where
  store : s.world.store = s'.world.store
  nodes : ∀ k id, shows (s.world.runner k) id = shows (s'.world.runner k) id
  prompts : s.prompts.map (fun b => b.sess.id) = s'.prompts.map fun b => b.sess.id

section

variable {s s' : Site} {job job' : Job} {lab : AttemptLabel}

theorem attemptStep_run (h : attemptStep (s, job) lab = some (s', job')) (js : List Job) :
    ∃ l, siteStep ⟨s, js ++ [job]⟩ l = some ⟨s', js ++ [job']⟩ := by
  cases lab with
  | job l =>
      refine ⟨.jobs (.step js.length l), Pool.step_run.2 ⟨job, s', job', ?_, h, ?_⟩⟩
      · exact List.getElem?_concat_length
      · simp
  | call l =>
      simp only [attemptStep] at h
      split at h
      · next n j hw =>
          obtain ⟨r, hasks, hrest⟩ := Option.bind_eq_some_iff.1 h
          obtain ⟨s₁, hs₁, heq⟩ := Option.map_eq_some_iff.1 hrest
          obtain ⟨rfl, rfl⟩ := Prod.mk.inj heq
          exact ⟨.supervisor r.1 n (.step j l), Option.map_eq_some_iff.2 ⟨s₁, hs₁, rfl⟩⟩
      · cases h

/-- **An attempt is a run of the site** in which nothing else happens. -/
theorem attempt_run (js : List Job) {l : List AttemptLabel} :
    ∀ {s : Site} {job : Job}, exec attemptStep (s, job) l = some (s', job') →
      ∃ l', exec siteStep ⟨s, js ++ [job]⟩ l' = some ⟨s', js ++ [job']⟩ := by
  induction l with
  | nil =>
      intro s job h
      obtain ⟨rfl, rfl⟩ := some_pair_inj h
      exact ⟨[], rfl⟩
  | cons lab l ih =>
      intro s job h
      obtain ⟨⟨s₁, job₁⟩, hstep, hrest⟩ := exec_cons_eq_some.1 h
      obtain ⟨lab', hlab⟩ := attemptStep_run hstep js
      obtain ⟨l', hl'⟩ := ih hrest
      exact ⟨lab' :: l', exec_cons_eq_some.2 ⟨_, hlab, hl'⟩⟩

/-- An activity that is in no call of a supervisor goes on by its own calls. -/
theorem attemptStep_quiet (hx : job.activity.atSupervisor = false)
    (h : attemptStep (s, job) lab = some (s', job')) :
    ∃ a w' x', lab = .job (.call a) ∧ a.reply.fromSupervisor = false ∧
      job.activity.step s.world a = some (w', x') ∧ s' = { s with world := w' } ∧
      job' = { activity := x' } := by
  have hasks : job.activity.asks = none := by
    unfold Activity.atSupervisor at hx
    unfold Activity.asks
    split at hx
    · cases hx
    · cases hx
    · cases hx
    · next h₁ h₂ _ =>
        split
        · next req c k hact => exact (h₁ req c k hact).elim
        · next req k hact => exact (h₂ req k hact).elim
        · rfl
  have hprompt : ∀ req sess k run, job.activity ≠ .session (.prompt (.nodePrompt req sess k run)) := by
    intro req sess k run hact
    rw [hact] at hx
    cases hx
  cases lab with
  | job l =>
      cases Job.step_spec h with
      | called a w' x' hreply hstep =>
          refine ⟨a, w', x', rfl, hreply, hstep, rfl, ?_⟩
          rw [hx, Bool.false_and]
          rfl
      | found k req h hasks' => exact absurd (hasks.symm.trans hasks') nofun
      | foundSession req sess k run id hd sup hact => exact (hprompt _ _ _ _ hact).elim
      | served k req n sup q raw now hasks' => exact absurd (hasks.symm.trans hasks') nofun
      | prompted req sess k run n sup sess' hd raw now hact => exact (hprompt _ _ _ _ hact).elim
      | received k req n j sup c reply x' hasks' => exact absurd (hasks.symm.trans hasks') nofun
      | finished b run x' hw hx' =>
          generalize hact : job.activity = x at hx'
          cases Activity.received_of_receives hx' with
          | run => exact (hprompt _ _ _ _ hact).elim
  | call l =>
      simp only [attemptStep] at h
      split at h
      · rw [hasks] at h
        cases h
      · cases h

end

/-- The call as it begins. -/
def beginCall : ManagerRequest → ManagerCall
  | .ensureAgent req => .ensure req .lookup
  | .session req => .session req .agentByID

theorem beginCall_start {m : Manager} {r : ManagerRequest} {c : ManagerCall}
    (h : managerMachine.start m r = some c) : beginCall r = c := by
  cases r <;> exact Option.some.inj h

/-- One step of a call, with its manager. -/
def serveStep (t : Manager × ManagerCall) (l : CallLabel) : Option (Manager × ManagerCall) :=
  managerMachine.run 0 t.1 t.2 l

/-- `EnsureAgent` and `CreateSession` at their call of node `k`, with the row `c` they have
read, and what they ask of the manager. -/
inductive Asks : Request → Container → String → Activity → ManagerRequest → Prop
  | ensureAgent (req : InstallAgentRequest) (c : Container) (k : String) :
      Asks (.ensureAgent req) c k (.container (.ensureAgent (.nodeEnsureAgent req c k)))
        (.ensureAgent req)
  | createSession (req : CreateSessionRequest) (c : Container) (k : String) :
      Asks (.createSession req) c k (.openSession (.nodeOpen (.create req) k))
        (.session (.create req))

/-- The site `s'` has the clients, hosts and prompts of `s`, and these runners and this
store. -/
structure Stands (s : Site) (runner : String → Runner) (store : MemoryStore) (s' : Site) :
    Prop where
  moved : s.world.Moved runner s'.world
  store : s'.world.store = store
  prompts : s'.prompts = s.prompts

/-- Supervisor `n` of node `k` serves the request from `s` on: the steps `ls`, all as `P` says,
have led the call to `c` and the manager to `m`. -/
structure Serves (P : CallLabel → Prop) (s : Site) (k : String) (n : ℕ) (r : ManagerRequest)
    (ls : List CallLabel) (sup : Pool Manager ManagerCall) (m : Manager) (c : ManagerCall) : Prop where
  supervisor : s.supervisor? k n = some sup
  run : exec serveStep (sup.shared, beginCall r) ls = some (m, c)
  steps : ∀ l ∈ ls, P l
  fresh : ∀ req raw, r = .session (.create req) → .agentByID raw ∈ ls → req.sessionID = "" →
    sup.shared.sessions.get (newID "sess" raw) = none

theorem Serves.weaken {P : CallLabel → Prop} {s : Site} {k : String} {n : ℕ} {r : ManagerRequest}
    {ls : List CallLabel} {sup : Pool Manager ManagerCall} {m : Manager} {c : ManagerCall}
    (h : Serves P s k n r ls sup m c) : Serves (fun _ => True) s k n r ls sup m c :=
  ⟨h.supervisor, h.run, fun _ _ => trivial, h.fresh⟩

/-- A supervisor that has begun to serve a request. -/
theorem Serves.begun {P : CallLabel → Prop} {s : Site} {k : String} {n : ℕ}
    {sup : Pool Manager ManagerCall} (r : ManagerRequest) (hsup : s.supervisor? k n = some sup) :
    Serves P s k n r [] sup sup.shared (beginCall r) where
  supervisor := hsup
  run := exec_nil _
  steps l hl := by cases hl
  fresh req raw hr hmem := by cases hmem

/-- An attempt from `s` that the node has not answered yet. -/
inductive Pre (P : CallLabel → Prop) (s : Site) : Request → Site → Job → Prop
  | provision (req : CreateContainerRequest) :
      Pre P s (.provisionContainer req) s { activity := .provision (.nodeProvision req) }
  | readHibernate (id : String) :
      Pre P s (.hibernate id) s { activity := .container (.hibernate (.containerNode id)) }
  | hibernate (id : String) (c : Container) (k : String)
      (hrow : s.world.store.containers.get id = some c) (hnode : s.world.node c.nodeID = .ok k) :
      Pre P s (.hibernate id) s { activity := .container (.hibernate (.nodeHibernate id c k)) }
  | readDelete (id : String) :
      Pre P s (.delete id) s { activity := .container (.delete (.containerNode id)) }
  | delete (id : String) (c : Container) (k : String)
      (hrow : s.world.store.containers.get id = some c) (hnode : s.world.node c.nodeID = .ok k) :
      Pre P s (.delete id) s { activity := .container (.delete (.nodeDelete id c k)) }
  | readEnsureAgent (req : InstallAgentRequest) :
      Pre P s (.ensureAgent req) s { activity := .container (.ensureAgent (.containerNode req)) }
  | readCreateSession (req : CreateSessionRequest) :
      Pre P s (.createSession req) s { activity := .openSession (.containerNode (.create req)) }
  | asked {req : Request} {c : Container} {k : String} {x : Activity} {r : ManagerRequest}
      (hasks : Asks req c k x r) (hrow : s.world.store.containers.get (containerOf r) = some c)
      (hnode : s.world.node c.nodeID = .ok k) : Pre P s req s { activity := x }
  | found {req : Request} {c : Container} {k : String} {x : Activity} {r : ManagerRequest}
      {h : ContainerHandle} (hasks : Asks req c k x r)
      (hrow : s.world.store.containers.get (containerOf r) = some c)
      (hnode : s.world.node c.nodeID = .ok k)
      (hget : (s.world.runner k).containers.get (containerOf r) = some h) :
      Pre P s req s { activity := x, waiting := some (.found h.supervisor) }
  | served {req : Request} {c : Container} {k : String} {x : Activity} {r : ManagerRequest}
      {h : ContainerHandle} {ls : List CallLabel} {sup : Pool Manager ManagerCall} {m : Manager}
      {call : ManagerCall} {s₁ : Site} (hasks : Asks req c k x r)
      (hrow : s.world.store.containers.get (containerOf r) = some c)
      (hnode : s.world.node c.nodeID = .ok k)
      (hget : (s.world.runner k).containers.get (containerOf r) = some h)
      (hserves : Serves P s k h.supervisor r ls sup m call)
      (hs : Stands s (s.setSupervisor k h.supervisor ⟨m, sup.threads ++ [call]⟩).world.runner
        s.world.store s₁) :
      Pre P s req s₁ { activity := x, waiting := some (.served h.supervisor sup.threads.length) }

/-- An attempt from `s` has its answer from the node and is about to store it. -/
inductive Reached (s : Site) : Request → Site → Activity → Prop
  | provision {req : CreateContainerRequest} {k : String} {a : Answer} {s₁ : Site}
      (hnode : s.world.node req.profile.nodeID = .ok k)
      (hfresh : req.id = "" → ∀ k', (s.world.runner k').containers.get (newID "ctr" a.raw) = none)
      (hs : Stands s (Function.update s.world.runner k
        ((s.world.runner k).provisionContainer (s.world.host k) req a.raw a.now).1)
          s.world.store s₁) :
      Reached s (.provisionContainer req) s₁ (.provision (.upsertContainer
        ((s.world.runner k).newHandle (s.world.host k) req a.raw a.now).container))
  | hibernate {id : String} {c : Container} {k : String} {h : ContainerHandle} {now : Time}
      {s₁ : Site} (hrow : s.world.store.containers.get id = some c)
      (hnode : s.world.node c.nodeID = .ok k)
      (hget : (s.world.runner k).containers.get id = some h)
      (hs : Stands s (Function.update s.world.runner k
        ((s.world.runner k).hibernateContainer id now).1) s.world.store s₁) :
      Reached s (.hibernate id) s₁ (.container (.hibernate (.upsertContainer c
        { h.container with state := .hibernating, updatedAt := now })))
  | delete {id : String} {c : Container} {k : String} {h : ContainerHandle} {s₁ : Site}
      (hrow : s.world.store.containers.get id = some c) (hnode : s.world.node c.nodeID = .ok k)
      (hget : (s.world.runner k).containers.get id = some h)
      (hs : Stands s (Function.update s.world.runner k ((s.world.runner k).deleteContainer id).1)
        s.world.store s₁) :
      Reached s (.delete id) s₁ (.container (.delete (.upsertContainer c)))
  | served {req : Request} {c : Container} {k : String} {x x' : Activity} {r : ManagerRequest}
      {h : ContainerHandle} {ls : List CallLabel} {sup : Pool Manager ManagerCall} {m : Manager}
      {call : ManagerCall} {reply : Reply} {s₁ : Site} (hasks : Asks req c k x r)
      (hrow : s.world.store.containers.get (containerOf r) = some c)
      (hnode : s.world.node c.nodeID = .ok k)
      (hget : (s.world.runner k).containers.get (containerOf r) = some h)
      (hserves : Serves (fun _ => True) s k h.supervisor r ls sup m call)
      (hs : Stands s (s.setSupervisor k h.supervisor ⟨m, sup.threads ++ [call]⟩).world.runner
        s.world.store s₁)
      (hreply : replyOf call = some reply) (hx : x.receives reply = some x') :
      Reached s req s₁ x'

/-- The activity has its answer from the node, and only the store is left to call. -/
def Activity.storing : Activity → Bool
  | .provision (.upsertContainer _) | .provision (.appendAudit _) | .provision (.returned _)
  | .openSession (.upsertSession _ _) | .openSession (.appendAudit _ _)
  | .openSession (.returned _ _) | .container (.ensureAgent (.upsertAgentInstance _ _ _))
  | .container (.ensureAgent (.upsertContainer _ _ _))
  | .container (.ensureAgent (.appendAudit _ _)) | .container (.ensureAgent (.returned _ _))
  | .container (.hibernate (.upsertContainer _ _)) | .container (.hibernate (.returned _))
  | .container (.delete (.upsertContainer _)) | .container (.delete (.returned _)) => true
  | _ => false

/-- How far an attempt from `s` has got: the node has not answered; it has, and the store calls
`as` were made since; or it has returned an error. -/
inductive Progress (P : CallLabel → Prop) (Q : Answer → Prop) (s : Site) (req : Request) :
    Site × Job → Prop
  | pre {s₁ : Site} {job : Job} (h : Pre P s req s₁ job) : Progress P Q s req (s₁, job)
  | storing {s₁ s₂ : Site} {x₁ x : Activity} (h : Reached s req s₁ x₁) (as : List Answer)
      (has : ∀ a ∈ as, Q a ∧ a.reply.fromSupervisor = false)
      (hexec : exec Activity.advance (s₁.world, x₁) as = some (s₂.world, x))
      (hprompts : s₂.prompts = s₁.prompts) : Progress P Q s req (s₂, { activity := x })
  | failed {s₁ : Site} {job : Job} (h : job.activity.Failed) : Progress P Q s req (s₁, job)

section

variable {s s₁ s₂ : Site} {req : Request} {job job' : Job} {lab : AttemptLabel} {c : Container}
  {k : String} {x x' : Activity} {r : ManagerRequest} {w w' : World} {a : Answer}

/-- A call that writes the row, with all that it leaves alone. -/
theorem World.write_step {β : Type} (w : World) (a : Answer) (row : Row) (y : β) :
    some (w.write a.outcome row.put, y) =
      some ({ w with store := stored a (some row) w.store }, y) := by
  unfold World.write stored
  dsimp only
  split_ifs <;> rfl

/-- **What is left to do once the node has answered** depends on no node and no row: from every
world the activity goes on in the same way, and writes the same row. -/
theorem Activity.step_storing (hx : x.storing = true) (h : x.step w a = some (w', x')) :
    x'.storing = true ∧
      ∀ v : World, x.step v a = some ({ v with store := stored a (x.writes a) v.store }, x') := by
  unfold Activity.storing at hx
  split at hx
  · next c =>
      obtain ⟨-, rfl⟩ := some_pair_inj h
      refine ⟨?_, fun v => v.write_step a (.container c) _⟩
      cases a.outcome.err <;> rfl
  · obtain ⟨-, rfl⟩ := some_pair_inj h
    exact ⟨rfl, fun v => v.write_step a (.audit _) _⟩
  · cases h
  · next req sess =>
      obtain ⟨-, rfl⟩ := some_pair_inj h
      refine ⟨?_, fun v => v.write_step a (.session sess) _⟩
      cases a.outcome.err <;> rfl
  · obtain ⟨-, rfl⟩ := some_pair_inj h
    exact ⟨rfl, fun v => v.write_step a (.audit _) _⟩
  · cases h
  · next req c agent =>
      obtain ⟨-, rfl⟩ := some_pair_inj h
      refine ⟨?_, fun v => v.write_step a (.agent agent) _⟩
      cases a.outcome.err with
      | some e => rfl
      | none =>
          dsimp only
          split_ifs <;> rfl
  · obtain ⟨-, rfl⟩ := some_pair_inj h
    exact ⟨rfl, fun v => v.write_step a (.container _) _⟩
  · obtain ⟨-, rfl⟩ := some_pair_inj h
    exact ⟨rfl, fun v => v.write_step a (.audit _) _⟩
  · cases h
  · obtain ⟨-, rfl⟩ := some_pair_inj h
    refine ⟨?_, fun v => v.write_step a (.container _) _⟩
    cases a.outcome.err <;> rfl
  · cases h
  · obtain ⟨-, rfl⟩ := some_pair_inj h
    refine ⟨?_, fun v => v.write_step a (.container _) _⟩
    cases a.outcome.err <;> rfl
  · cases h
  · cases hx

theorem Activity.storing_quiet (hx : x.storing = true) : x.atSupervisor = false := by
  unfold Activity.storing at hx
  split at hx <;> first | rfl | cases hx

theorem Asks.asks (h : Asks req c k x r) : x.asks = some (k, r) := by
  cases h <;> rfl

theorem Asks.failed (h : Asks req c k x r) (hreply : a.reply.fromSupervisor = false)
    (hstep : x.step w a = some (w', x')) : x'.Failed := by
  have hnext := (Activity.step_spec hstep).1
  cases h with
  | ensureAgent req c k =>
      cases hnext with
      | ensureAgent hn =>
          cases hn with
          | failed => trivial
          | ensured _ _ _ agent _ hr =>
              rw [hr] at hreply
              cases hreply
  | createSession req c k =>
      cases hnext with
      | openSession hn =>
          cases hn with
          | failed => trivial
          | opened _ _ sess _ hr =>
              rw [hr] at hreply
              cases hreply

end

section

variable {s s₁ s₂ : Site} {req : Request} {job job' : Job} {lab : AttemptLabel} {c : Container}
  {k : String} {x x' : Activity} {r : ManagerRequest} {w w' : World} {a : Answer}

theorem Stands.called (hstep : x.step s.world a = some (w', x')) (hw : x.writes a = none)
    {runner : String → Runner} (hr : x.nodes s.world a = runner) :
    Stands s runner s.world.store { s with world := w' } := by
  refine ⟨hr ▸ Activity.step_moved hstep, ?_, rfl⟩
  rw [(Activity.step_spec hstep).2, hw]
  rfl

/-- **The node provisions a container.** -/
theorem Pre.provision_step {req : CreateContainerRequest}
    (hfresh : req.id = "" → ∀ k, (s.world.runner k).containers.get (newID "ctr" a.raw) = none)
    (hstep : (Activity.provision (.nodeProvision req)).step s.world a = some (w', x')) :
    Reached s (.provisionContainer req) { s with world := w' } x' ∨ x'.Failed := by
  cases (Activity.step_spec hstep).1 with
  | provision hn =>
      cases hn with
      | failed req e => exact Or.inr trivial
      | provisioned req k hnode ho =>
          refine Or.inl (.provision hnode hfresh (.called hstep rfl ?_))
          simp only [Activity.nodes, hnode]
          exact World.reached_ok _ ho _ _

/-- **The node hibernates a container.** -/
theorem Pre.hibernate_step {id : String} (hrow : s.world.store.containers.get id = some c)
    (hnode : s.world.node c.nodeID = .ok k)
    (hstep : (Activity.container (.hibernate (.nodeHibernate id c k))).step s.world a =
      some (w', x')) :
    Reached s (.hibernate id) { s with world := w' } x' ∨ x'.Failed := by
  cases (Activity.step_spec hstep).1 with
  | hibernate hn =>
      cases hn with
      | failed => exact Or.inr trivial
      | hibernated _ _ _ h ho hget =>
          exact Or.inl (.hibernate hrow hnode hget
            (.called hstep rfl (World.reached_ok s.world ho k fun r =>
              (r.hibernateContainer id a.now).1)))

/-- **The node deletes a container.** -/
theorem Pre.delete_step {id : String} (hrow : s.world.store.containers.get id = some c)
    (hnode : s.world.node c.nodeID = .ok k)
    (hstep : (Activity.container (.delete (.nodeDelete id c k))).step s.world a =
      some (w', x')) :
    Reached s (.delete id) { s with world := w' } x' ∨ x'.Failed := by
  cases (Activity.step_spec hstep).1 with
  | delete hn =>
      cases hn with
      | failed => exact Or.inr trivial
      | deleted _ _ _ ho hget =>
          obtain ⟨h, hget⟩ := hget
          exact Or.inl (.delete hrow hnode hget
            (.called hstep rfl (World.reached_ok s.world ho k fun r => (r.deleteContainer id).1)))

end

section

variable {s s₁ s₂ : Site} {k : String} {n : ℕ} {q q' sup : Pool Manager ManagerCall}

theorem Site.supervisor?_set (hsup : s.supervisor? k n = some sup)
    (hr : s₁.world.runner = (s.setSupervisor k n q).world.runner) :
    s₁.supervisor? k n = some q := by
  simp only [Site.supervisor?, hr, Site.setSupervisor, World.setRunner, Function.update_self]
  exact getElem?_set_of_some q hsup

theorem Site.setSupervisor_set (hr : s₁.world.runner = (s.setSupervisor k n q).world.runner) :
    (s₁.setSupervisor k n q').world.runner = (s.setSupervisor k n q').world.runner := by
  simp only [Site.setSupervisor, World.setRunner, hr, Function.update_self, Function.update_idem,
    List.set_set]

end

section

variable {r : ManagerRequest} {m m' : Manager} {c c' : ManagerCall} {l : CallLabel}
  {ls : List CallLabel}

/-- A step of a call is one of `EnsureStep` or of `SessionStep`. -/
theorem serveStep_spec (h : serveStep (m, c) l = some (m', c')) :
    (∃ req pc pc', c = .ensure req pc ∧ c' = .ensure req pc' ∧
        EnsureStep m req.plan pc l m' pc') ∨
      ∃ req pc pc', c = .session req pc ∧ c' = .session req pc' ∧ SessionStep m req pc l m' pc' := by
  cases c with
  | ensure req pc =>
      obtain ⟨m'', pc', hpc', rfl, rfl⟩ := map_eq_some_pair h
      exact Or.inl ⟨req, pc, pc', rfl, rfl, ensureStep_spec hpc'⟩
  | session req pc =>
      obtain ⟨m'', pc', hpc', rfl, rfl⟩ := map_eq_some_pair h
      exact Or.inr ⟨req, pc, pc', rfl, rfl, sessionStep_spec hpc'⟩

theorem serve_agentByID {raw : String} (h : exec serveStep (m, beginCall r) ls = some (m', c))
    (hstep : (serveStep (m', c) (.agentByID raw)).isSome = true) : m' = m := by
  rcases List.eq_nil_or_concat ls with rfl | ⟨ls, l, rfl⟩
  · exact (some_pair_inj h).1.symm
  · rw [List.concat_eq_append] at h
    obtain ⟨⟨m₁, c₁⟩, -, hlast⟩ := exec_concat_eq_some h
    obtain ⟨⟨m₂, c₂⟩, hnext⟩ := Option.isSome_iff_exists.1 hstep
    -- no step leads to the place where `agentByID` is called
    rcases serveStep_spec hnext with ⟨req, pc, pc', rfl, -, hn⟩ | ⟨req, pc, pc', rfl, -, hn⟩
    · cases hn
    · rcases serveStep_spec hlast with ⟨req', pc₁, pc₁', -, heq, -⟩ | ⟨req', pc₁, pc₁', -, heq, hl⟩
      · cases heq
      · obtain ⟨rfl, rfl⟩ := ManagerCall.session.inj heq
        cases hn <;> cases hl

/-- The call has not gone wrong. -/
def Going : ManagerCall → Prop
  | .ensure _ (.returned (.error _)) | .ensure _ .panic | .session _ (.returned (.error _)) => False
  | _ => True

theorem Going.step (h : serveStep (m, c) l = some (m', c')) (hc : Going c') :
    Going c ∧ CleanCall l := by
  rcases serveStep_spec h with ⟨req, pc, pc', rfl, rfl, hn⟩ | ⟨req, pc, pc', rfl, rfl, hn⟩
  · cases hn with
    | found | absent | inserted | snapshot => exact ⟨trivial, trivial⟩
    | started => exact ⟨trivial, rfl⟩
    | negotiated inst cmd negotiated now => exact ⟨trivial, negotiated, rfl⟩
    | noEntrypoint | notStarted | refused => exact hc.elim
  · cases hn with
    | found | inserted => exact ⟨trivial, trivial⟩
    | accepted _ _ _ _ negotiated => exact ⟨trivial, negotiated, rfl⟩
    | notFound | refused => exact hc.elim

/-- The steps of a call that has not gone wrong are clean. -/
theorem Going.run : ∀ {ls : List CallLabel} {m : Manager} {c : ManagerCall},
    exec serveStep (m, c) ls = some (m', c') → Going c' → Going c ∧ ∀ l ∈ ls, CleanCall l
  | [], m, c, h, hc => by
      obtain ⟨-, rfl⟩ := some_pair_inj h
      exact ⟨hc, fun l hl => by cases hl⟩
  | l :: ls, m, c, h, hc => by
      obtain ⟨⟨m₁, c₁⟩, hstep, hrest⟩ := exec_cons_eq_some.1 h
      obtain ⟨hc₁, hls⟩ := Going.run hrest hc
      obtain ⟨hc₀, hl⟩ := Going.step hstep hc₁
      exact ⟨hc₀, List.forall_mem_cons.2 ⟨hl, hls⟩⟩

end

section

variable {s s₁ s₂ : Site} {req : Request} {job job' : Job} {lab : AttemptLabel} {c : Container}
  {k : String} {x x' : Activity} {r : ManagerRequest} {w w' : World} {a : Answer}
  {P : CallLabel → Prop}

/-- What an attempt from `s` has come to: the node has not answered, it has just answered, or the
attempt has returned an error. -/
def Comes (P : CallLabel → Prop) (s : Site) (req : Request) (s' : Site) (job : Job) : Prop :=
  Pre P s req s' job ∨ (∃ x, Reached s req s' x ∧ job = { activity := x }) ∨ job.activity.Failed

/-- **A call of an attempt** before it asks a supervisor. -/
theorem Pre.call_step (h : Pre P s req s₁ job) (hx : job.activity.atSupervisor = false)
    (hfresh : Fresh (s₁, job) (.job (.call a)))
    (hstep : job.activity.step s₁.world a = some (w', x')) :
    Comes P s req { s₁ with world := w' } { activity := x' } := by
  cases h with
  | provision req =>
      rcases Pre.provision_step hfresh hstep with hr | hf
      · exact Or.inr (Or.inl ⟨x', hr, rfl⟩)
      · exact Or.inr (Or.inr hf)
  | hibernate id c k hrow hnode =>
      rcases Pre.hibernate_step hrow hnode hstep with hr | hf
      · exact Or.inr (Or.inl ⟨x', hr, rfl⟩)
      · exact Or.inr (Or.inr hf)
  | delete id c k hrow hnode =>
      rcases Pre.delete_step hrow hnode hstep with hr | hf
      · exact Or.inr (Or.inl ⟨x', hr, rfl⟩)
      · exact Or.inr (Or.inr hf)
  | readHibernate id =>
      obtain rfl := (some_pair_inj hstep).1
      cases (Activity.step_spec hstep).1 with
      | hibernate hn =>
          cases hn with
          | notRead => exact Or.inr (Or.inr trivial)
          | read _ c k hrow hnode => exact Or.inl (.hibernate id c k hrow hnode)
  | readDelete id =>
      obtain rfl := (some_pair_inj hstep).1
      cases (Activity.step_spec hstep).1 with
      | delete hn =>
          cases hn with
          | notRead => exact Or.inr (Or.inr trivial)
          | read _ c k hrow hnode => exact Or.inl (.delete id c k hrow hnode)
  | readEnsureAgent req =>
      obtain rfl := (some_pair_inj hstep).1
      cases (Activity.step_spec hstep).1 with
      | ensureAgent hn =>
          cases hn with
          | notRead => exact Or.inr (Or.inr trivial)
          | read _ c k hrow hnode => exact Or.inl (.asked (.ensureAgent req c k) hrow hnode)
  | readCreateSession req =>
      obtain rfl := (some_pair_inj hstep).1
      cases (Activity.step_spec hstep).1 with
      | openSession hn =>
          cases hn with
          | notRead => exact Or.inr (Or.inr trivial)
          | read _ c k hrow hnode => exact Or.inl (.asked (.createSession req c k) hrow hnode)
  | asked hasks | found hasks | served hasks => cases hasks <;> cases hx

/-- **A step of an attempt in the call of a supervisor.** -/
theorem Pre.served_step {h : ContainerHandle} {ls : List CallLabel}
    {sup : Pool Manager ManagerCall} {m : Manager} {call : ManagerCall} {l : CallLabel}
    (hasks : Asks req c k x r)
    (hrow : s.world.store.containers.get (containerOf r) = some c)
    (hnode : s.world.node c.nodeID = .ok k)
    (hget : (s.world.runner k).containers.get (containerOf r) = some h)
    (hserves : Serves P s k h.supervisor r ls sup m call)
    (hs : Stands s (s.setSupervisor k h.supervisor ⟨m, sup.threads ++ [call]⟩).world.runner
      s.world.store s₁)
    (hfresh : Fresh (s₁, ⟨x, some (.served h.supervisor sup.threads.length)⟩) (.call l))
    (hl : P l)
    (hstep : s₁.supervisorStep k h.supervisor (.step sup.threads.length l) = some s₂) :
    Pre P s req s₂ ⟨x, some (.served h.supervisor sup.threads.length)⟩ := by
  have hsup := Site.supervisor?_set hserves.supervisor hs.moved.runner
  obtain ⟨p, hp, hrest⟩ := Option.bind_eq_some_iff.1 hstep
  obtain rfl := Option.mem_unique hsup hp
  obtain ⟨q, hq, rfl⟩ := Option.map_eq_some_iff.1 hrest
  obtain ⟨call₁, m', call', hcall, hrun, rfl⟩ :=
    Pool.step_run.1 (show Pool.step managerMachine _ _ = some q from hq)
  obtain rfl := Option.mem_unique List.getElem?_concat_length hcall
  have hserve : serveStep (m, call) l = some (m', call') := by
    cases call <;> exact hrun
  have hthreads : (sup.threads ++ [call]).set sup.threads.length call' =
      sup.threads ++ [call'] := by simp
  have hserves' : Serves P s k h.supervisor r (ls ++ [l]) sup m' call' := by
    refine ⟨hserves.supervisor, ?_, ?_, fun req' raw hr hmem hempty => ?_⟩
    · exact exec_append_eq_some.2 ⟨_, hserves.run, exec_cons_eq_some.2 ⟨_, hserve, rfl⟩⟩
    · exact List.forall_mem_append.2 ⟨hserves.steps, List.forall_mem_singleton.2 hl⟩
    · rcases List.mem_append.1 hmem with hmem | hmem
      · exact hserves.fresh req' raw hr hmem hempty
      · obtain rfl := List.mem_singleton.1 hmem
        obtain rfl := serve_agentByID hserves.run (Option.isSome_iff_exists.2 ⟨_, hserve⟩)
        subst hr
        cases hasks with
        | createSession _ c k =>
            exact hfresh hempty k h.supervisor ⟨sup.shared, sup.threads ++ [call]⟩ hsup
  refine .served hasks hrow hnode hget hserves'
    ⟨⟨?_, hs.moved.nodes, hs.moved.host⟩, hs.store, hs.prompts⟩
  rw [hthreads]
  exact Site.setSupervisor_set hs.moved.runner

end

section

variable {s s₁ s₂ : Site} {req : Request} {job job' : Job} {lab : AttemptLabel} {c : Container}
  {k : String} {x x' : Activity} {r : ManagerRequest} {P : CallLabel → Prop}

/-- **A step of an attempt at a supervisor.** -/
theorem Pre.asking_step (h : Pre P s req s₁ job) (hx : job.activity.atSupervisor = true)
    (hfresh : Fresh (s₁, job) lab) (hP : ∀ l, lab = .call l → P l)
    (hstep : attemptStep (s₁, job) lab = some (s₂, job')) : Comes P s req s₂ job' := by
  cases lab with
  | job l =>
      have hjob := Job.step_spec hstep
      cases h with
      | provision | readHibernate | hibernate | readDelete | delete | readEnsureAgent
      | readCreateSession => cases hx
      | asked hasks hrow hnode =>
          cases hjob with
          | called a w' x' hreply hcall =>
              exact Or.inr (Or.inr (hasks.failed hreply hcall))
          | found k' r' h hasks' hw hget =>
              obtain ⟨rfl, rfl⟩ := Prod.mk.inj (Option.mem_unique hasks.asks hasks')
              exact Or.inl (.found hasks hrow hnode hget)
          | foundSession _ _ _ _ _ _ _ hact | prompted _ _ _ _ _ _ _ _ _ _ hact =>
              cases hasks <;> cases hact
          | served _ _ _ _ _ _ _ _ hw | received _ _ _ _ _ _ _ _ _ hw | finished _ _ _ hw => cases hw
      | found hasks hrow hnode hget =>
          cases hjob with
          | called a w' x' hreply hcall =>
              exact Or.inr (Or.inr (hasks.failed hreply hcall))
          | served k' r' n sup q raw now hasks' hw hsup hq =>
              obtain ⟨rfl, rfl⟩ := Prod.mk.inj (Option.mem_unique hasks.asks hasks')
              obtain rfl := Waiting.found.inj (Option.some.inj hw)
              obtain ⟨call, hcall, rfl⟩ := Pool.step_spawn.1 (show sup.step _ _ = some q from hq)
              obtain rfl := beginCall_start hcall
              exact Or.inl (.served hasks hrow hnode hget
                (.begun _ hsup)
                ⟨⟨rfl, rfl, rfl⟩, rfl, rfl⟩)
          | foundSession _ _ _ _ _ _ _ hact | prompted _ _ _ _ _ _ _ _ _ _ hact =>
              cases hasks <;> cases hact
          | found _ _ _ _ hw | received _ _ _ _ _ _ _ _ _ hw | finished _ _ _ hw => cases hw
      | served hasks hrow hnode hget hserves hs =>
          cases hjob with
          | called a w' x' hreply hcall =>
              exact Or.inr (Or.inr (hasks.failed hreply hcall))
          | received k' r' n j sup c' reply x' hasks' hw hsup hc hreply hx' =>
              obtain ⟨rfl, rfl⟩ := Prod.mk.inj (Option.mem_unique hasks.asks hasks')
              obtain ⟨rfl, rfl⟩ := Waiting.served.inj (Option.some.inj hw)
              have hsup' := Site.supervisor?_set hserves.supervisor hs.moved.runner
              obtain rfl := Option.mem_unique hsup hsup'
              obtain rfl := Option.mem_unique List.getElem?_concat_length hc
              exact Or.inr (Or.inl ⟨x', .served hasks hrow hnode hget hserves.weaken hs hreply hx', rfl⟩)
          | foundSession _ _ _ _ _ _ _ hact | prompted _ _ _ _ _ _ _ _ _ _ hact =>
              cases hasks <;> cases hact
          | found _ _ _ _ hw | served _ _ _ _ _ _ _ _ hw | finished _ _ _ hw => cases hw
  | call l =>
      cases h with
      | provision | readHibernate | hibernate | readDelete | delete | readEnsureAgent
      | readCreateSession => cases hx
      | asked | found => cases hstep
      | served hasks hrow hnode hget hserves hs =>
          simp only [attemptStep, hasks.asks, Option.bind_some] at hstep
          obtain ⟨s₃, hs₃, heq⟩ := Option.map_eq_some_iff.1 hstep
          obtain ⟨rfl, rfl⟩ := Prod.mk.inj heq
          exact Or.inl (Pre.served_step hasks hrow hnode hget hserves hs hfresh (hP l rfl) hs₃)

/-- **A step of an attempt that the node has not answered.** -/
theorem Pre.step (h : Pre P s req s₁ job) (hfresh : Fresh (s₁, job) lab)
    (hP : ∀ l, lab = .call l → P l) (hstep : attemptStep (s₁, job) lab = some (s₂, job')) :
    Comes P s req s₂ job' := by
  cases hx : job.activity.atSupervisor with
  | true => exact h.asking_step hx hfresh hP hstep
  | false =>
      obtain ⟨a, w', x', rfl, -, hcall, rfl, rfl⟩ := attemptStep_quiet hx hstep
      exact h.call_step hx hfresh hcall

theorem Reached.storing (h : Reached s req s₁ x) : x.storing = true := by
  cases h with
  | provision | hibernate | delete => rfl
  | served hasks _ _ _ _ _ _ hx =>
      cases hasks with
      | ensureAgent req c k =>
          cases Activity.received_of_receives hx
          rfl
      | createSession req c k =>
          cases Activity.received_of_receives hx
          rfl

theorem Reached.exec_storing (h : Reached s req s₁ x) {w w' : World} {as : List Answer}
    (hexec : exec Activity.advance (w, x) as = some (w', x')) : x'.storing = true :=
  exec_invariant_of_step (I := fun t : World × Activity => t.2.storing = true)
    (fun _ _ _ hx hs => (Activity.step_storing hx hs).1) h.storing hexec

theorem attemptStep_call {w : World} {a : Answer} (hreply : a.reply.fromSupervisor = false)
    (hx : x.atSupervisor = false) (hstep : x.step s.world a = some (w, x')) :
    attemptStep (s, { activity := x }) (.job (.call a)) =
      some ({ s with world := w }, { activity := x' }) := by
  simp only [attemptStep, Job.step, hreply, hstep, hx, Option.map_some, Bool.false_and]
  rfl

theorem Fresh.of_storing {a : Answer} (hx : x.storing = true) :
    Fresh (s, { activity := x }) (.job (.call a)) := by
  simp only [Fresh]
  split
  · next req =>
      cases hx
  · trivial

theorem Activity.Failed.quiet (hx : x.Failed) : x.atSupervisor = false := by
  unfold Activity.Failed at hx
  split at hx <;> first | rfl | exact hx.elim

theorem Activity.Failed.no_step {w w' : World} {a : Answer} (hx : x.Failed) :
    x.step w a ≠ some (w', x') := by
  intro h
  unfold Activity.Failed at hx
  split at hx <;> first | exact hx.elim | cases h

end

/-- The requests whose attempts are followed here: not those for prompts and for loading a
session. -/
def Request.Followed : Request → Prop
  | .provisionContainer _ | .ensureAgent _ | .createSession _ | .hibernate _ | .delete _ => True
  | .loadSession _ | .prompt _ | .cancel _ => False

section

variable {s : Site} {req : Request} {P : CallLabel → Prop} {Q : Answer → Prop}
  {C : Site × Job → AttemptLabel → Prop}

/-- **A step of an attempt.** -/
theorem Progress.step {t t' : Site × Job} {lab : AttemptLabel} (h : Progress P Q s req t)
    (hfresh : Fresh t lab) (hP : ∀ l, lab = .call l → P l)
    (hQ : ∀ a, lab = .job (.call a) → t.2.activity.storing = true → Q a)
    (hstep : attemptStep t lab = some t') : Progress P Q s req t' := by
  obtain ⟨s', job'⟩ := t'
  cases h with
  | pre h =>
      rcases h.step hfresh hP hstep with hpre | ⟨x, hr, rfl⟩ | hf
      · exact .pre hpre
      · exact .storing hr [] (fun a ha => by cases ha) rfl rfl
      · exact .failed hf
  | storing h as has hexec hprompts =>
      have hx := h.exec_storing hexec
      obtain ⟨a, w', x', rfl, hreply, hcall, rfl, rfl⟩ :=
        attemptStep_quiet (Activity.storing_quiet hx) hstep
      refine .storing h (as ++ [a]) ?_ ?_ hprompts
      · refine List.forall_mem_append.2 ⟨has, fun b hb => ?_⟩
        obtain rfl := List.mem_singleton.1 hb
        exact ⟨hQ b rfl hx, hreply⟩
      · exact exec_append_eq_some.2 ⟨_, hexec, exec_cons_eq_some.2 ⟨_, hcall, rfl⟩⟩
  | failed hf =>
      obtain ⟨a, w', x', rfl, -, hcall, -⟩ := attemptStep_quiet hf.quiet hstep
      exact (hf.no_step hcall).elim

/-- **How far an attempt gets**, whatever its calls meet. -/
theorem attempt_progress (hreq : req.Followed) (hfresh : ∀ t lab, C t lab → Fresh t lab)
    (hP : ∀ t l, C t (.call l) → P l)
    (hQ : ∀ t a, C t (.job (.call a)) → t.2.activity.storing = true → Q a)
    {l : List AttemptLabel} {t : Site × Job} (hl : Along attemptStep C (req.attempt s) l)
    (h : exec attemptStep (req.attempt s) l = some t) : Progress P Q s req t := by
  refine exec_invariant (I := Progress P Q s req) ?_ ?_ hl h
  · intro t lab t' ht hC hstep
    exact ht.step (hfresh t lab hC) (fun l hl => hP t l (hl ▸ hC))
      (fun a ha hx => hQ t a (ha ▸ hC) hx) hstep
  · refine .pre ?_
    cases req with
    | provisionContainer req => exact .provision req
    | ensureAgent req => exact .readEnsureAgent req
    | createSession req => exact .readCreateSession req
    | hibernate id => exact .readHibernate id
    | delete id => exact .readDelete id
    | loadSession | prompt | cancel => exact hreq.elim

end

end Workflows
end Agentd
