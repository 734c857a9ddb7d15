/-
# The activities and their nodes

The activities and the nodes that they call, as one system.  `ProvisionContainer`,
`HibernateContainer` and `DeleteContainer` of a runner are calls of an activity like those
to the store.  `EnsureAgent`, `CreateSession` and `Prompt` go on to a supervisor: the runner
finds the handle of the container (`handle`, `handleBySession`), the supervisor serves the
call in as many steps as it takes, and what it returns is what the activity receives.
Between these steps the other activities, the other calls and the processes go on, and a
call can fail at any time, whatever it has done by then.  A call goes to the supervisor that was
started for its handle; `SocketCalls` adds those that the socket leads to another one.

`IDs` records what `NewID` has made for agent instances and for sessions, and
`Site.prompts` the `Prompt`s that have begun.  The code reads neither.
-/

import Agentd.Workflows.ActivityNodes
import Agentd.NodeRuntime.Node
import Agentd.NodeRuntime.Replies

namespace Agentd
namespace Workflows

open Control Store NodeRuntime Supervisor Concurrency

/-- The ids that `NewID` has made: those of agent instances, each with the container of the
instance, and those of sessions, each with the container and the agent instance. -/
structure IDs where
  agents : GoMap String String := ∅
  sessions : GoMap String (String × String) := ∅

/-- The nodes with the store, and what has been made and begun there. -/
structure Site where
  world : World
  ids : IDs := {}
  prompts : List PromptStart := []

/-- How far the call of a supervisor has got: the runner has found supervisor `n`; it serves
the call as its call `j`; or `Manager.Prompt` has begun with `b`. -/
inductive Waiting
  | found (n : ℕ)
  | served (n j : ℕ)
  | prompted (b : PromptStart)

/-- An activity, and how far the call is that it waits for. -/
structure Job where
  activity : Activity
  waiting : Option Waiting := none

/-- What happens next to an activity: a call that no supervisor answers; the runner finds the
handle of container `id`; the supervisor begins to serve the call; the activity receives what
the call has returned; or `Runner.Prompt` returns the run. -/
inductive JobLabel
  | call (a : Answer)
  | find (id : String)
  | serve (raw : String) (now : Time)
  | receive
  | finish (run : Run)

/-- What happens next: something to the activities, or in supervisor `n` of node `k`. -/
inductive SiteLabel
  | jobs (l : PoolLabel Request JobLabel)
  | supervisor (k : String) (n : ℕ) (l : SupervisorLabel)

/-- The reply holds what only a supervisor can return. -/
def Reply.fromSupervisor : Reply → Bool
  | .agent _ | .session _ | .run _ => true
  | .none | .event _ => false

/-- The activity is in a call that a supervisor answers. -/
def Activity.atSupervisor : Activity → Bool
  | .container (.ensureAgent (.nodeEnsureAgent ..)) | .openSession (.nodeOpen ..)
  | .session (.prompt (.nodePrompt ..)) => true
  | _ => false

/-- The node that the activity calls, and what it asks of a manager there. -/
def Activity.asks : Activity → Option (String × ManagerRequest)
  | .container (.ensureAgent (.nodeEnsureAgent req _ k)) => some (k, .ensureAgent req)
  | .openSession (.nodeOpen req k) => some (k, .session req)
  | _ => none

/-- What a call of a manager has returned, unless it is an error. -/
def replyOf : ManagerCall → Option Reply
  | .ensure _ (.returned (.ok inst)) => some (.agent inst)
  | .session _ (.returned (.ok sess)) => some (.session sess)
  | _ => none

/-- The activity after the reply. -/
def Activity.receives : Activity → Reply → Option Activity
  | .container (.ensureAgent (.nodeEnsureAgent req c _)), .agent inst =>
      some (.container (.ensureAgent (.upsertAgentInstance req c inst)))
  | .openSession (.nodeOpen req _), .session sess => some (.openSession (.upsertSession req sess))
  | .session (.prompt (.nodePrompt _ sess _ run)), .run final =>
      some (.session (.prompt (.upsertFinalRun sess run final)))
  | _, _ => none

def World.setRunner (w : World) (k : String) (r : Runner) : World :=
  { w with runner := Function.update w.runner k r }

/-- Supervisor `n` of node `k`. -/
def Site.supervisor? (s : Site) (k : String) (n : ℕ) : Option (Pool Manager ManagerCall) :=
  (s.world.runner k).supervisors[n]?

/-- Supervisor `n` of node `k` becomes `q`. -/
def Site.setSupervisor (s : Site) (k : String) (n : ℕ) (q : Pool Manager ManagerCall) : Site :=
  { s with
    world := s.world.setRunner k
      { s.world.runner k with supervisors := (s.world.runner k).supervisors.set n q } }

/-- What `NewID` has made after the step of a call that led to `c`: the step that starts the
process of an agent makes the id of the instance, the one that finds the agent of a new session
that of the session. -/
def IDs.mint (ids : IDs) (m : Manager) : CallLabel → ManagerCall → IDs
  | .started _ _ _, .ensure _ (.clientInitialize inst _) =>
      { ids with agents := ids.agents.insert inst.id inst.containerID }
  | .agentByID _, .session req (.callAgent _ id) =>
      { ids with sessions := ids.sessions.insert id (m.containerID, req.agentInstanceID) }
  | _, _ => ids

/-- What `NewID` has made after a step that led to `q`. -/
def IDs.minted (ids : IDs) (q : Pool Manager ManagerCall) : SupervisorLabel → IDs
  | .step j l =>
      match q.threads[j]? with
      | some c => ids.mint q.shared l c
      | none => ids
  | .exit _ | .waited _ _ => ids

namespace Job

/-- The supervisor whose handle the runner finds: `handle` for a request that names its
container, `handleBySession` for a prompt. -/
def finds (s : Site) (id : String) (job : Job) : Option ℕ :=
  match job.activity with
  | .session (.prompt (.nodePrompt req _ k _)) =>
      ((s.world.runner k).containers.get id).bind fun h =>
        (s.supervisor? k h.supervisor).bind fun sup =>
          if (sup.shared.sessions.get req.sessionID).isSome then some h.supervisor else none
  | x =>
      x.asks.bind fun r =>
        if containerOf r.2 = id then
          ((s.world.runner r.1).containers.get id).map fun h => h.supervisor
        else none

/-- Supervisor `n` begins to serve the call.  When `sessionAgent` fails, so does the call. -/
def serve (s : Site) (n : ℕ) (raw : String) (now : Time) (job : Job) : Option (Site × Job) :=
  match job.activity with
  | .session (.prompt (.nodePrompt req _ k _)) =>
      (s.supervisor? k n).bind fun sup =>
        match sup.shared.sessionAgent req.sessionID with
        | .error _ => none
        | .ok r =>
            let b : PromptStart :=
              { containerID := sup.shared.containerID, sess := r.1, req, raw, now }
            some ({ s with prompts := s.prompts ++ [b] },
              { job with waiting := some (.prompted b) })
  | x =>
      x.asks.bind fun r =>
        (s.supervisor? r.1 n).bind fun sup =>
          (managerStep sup (.calls (.spawn r.2))).map fun q =>
            (s.setSupervisor r.1 n q, { job with waiting := some (.served n sup.threads.length) })

/-- One step of an activity. -/
def step (s : Site) (job : Job) : JobLabel → Option (Site × Job)
  | .call a =>
      if a.reply.fromSupervisor then none
      else
        (job.activity.step s.world a).map fun r =>
          ({ s with world := r.1 },
            { activity := r.2
              waiting :=
                if job.activity.atSupervisor && r.2.atSupervisor then job.waiting else none })
  | .find id =>
      match job.waiting with
      | none => (job.finds s id).map fun n => (s, { job with waiting := some (.found n) })
      | some _ => none
  | .serve raw now =>
      match job.waiting with
      | some (.found n) => job.serve s n raw now
      | _ => none
  | .receive =>
      match job.waiting with
      | some (.served n j) =>
          job.activity.asks.bind fun r =>
            (s.supervisor? r.1 n).bind fun sup =>
              sup.threads[j]?.bind fun c =>
                (replyOf c).bind fun reply =>
                  (job.activity.receives reply).map fun x => (s, { activity := x })
      | _ => none
  | .finish run =>
      match job.waiting with
      | some (.prompted _) =>
          (job.activity.receives (.run run)).map fun x => (s, { activity := x })
      | _ => none

end Job

/-- The activities of a site. -/
def jobMachine : Machine Site Job Request JobLabel where
  start _ req := some { activity := req.start }
  run _ s job l := job.step s l

/-- A step in a supervisor of the site. -/
def Site.supervisorStep (s : Site) (k : String) (n : ℕ) (l : SupervisorLabel) : Option Site :=
  (s.supervisor? k n).bind fun sup =>
    (managerStep sup l.label).map fun q =>
      { s.setSupervisor k n q with ids := s.ids.minted q l }

/-- One step of a site. -/
def siteStep (p : Pool Site Job) : SiteLabel → Option (Pool Site Job)
  | .jobs l => p.step jobMachine l
  | .supervisor k n l => (p.shared.supervisorStep k n l).map fun s => { p with shared := s }

/-- What a step of an activity can do. -/
inductive JobStep (s : Site) (job : Job) : JobLabel → Site → Job → Prop
  | called (a : Answer) (w' : World) (x' : Activity) (hreply : a.reply.fromSupervisor = false)
      (hstep : job.activity.step s.world a = some (w', x')) :
      JobStep s job (.call a) { s with world := w' }
        { activity := x'
          waiting := if job.activity.atSupervisor && x'.atSupervisor then job.waiting else none }
  | found (k : String) (req : ManagerRequest) (h : ContainerHandle)
      (hasks : job.activity.asks = some (k, req)) (hw : job.waiting = none)
      (hget : (s.world.runner k).containers.get (containerOf req) = some h) :
      JobStep s job (.find (containerOf req)) s { job with waiting := some (.found h.supervisor) }
  | foundSession (req : PromptRequest) (sess : Session) (k : String) (run : Run) (id : String)
      (h : ContainerHandle) (sup : Pool Manager ManagerCall)
      (hx : job.activity = .session (.prompt (.nodePrompt req sess k run)))
      (hw : job.waiting = none)
      (hget : (s.world.runner k).containers.get id = some h)
      (hsup : s.supervisor? k h.supervisor = some sup)
      (hsess : (sup.shared.sessions.get req.sessionID).isSome = true) :
      JobStep s job (.find id) s { job with waiting := some (.found h.supervisor) }
  | served (k : String) (req : ManagerRequest) (n : ℕ) (sup q : Pool Manager ManagerCall)
      (raw : String) (now : Time) (hasks : job.activity.asks = some (k, req))
      (hw : job.waiting = some (.found n)) (hsup : s.supervisor? k n = some sup)
      (hq : managerStep sup (.calls (.spawn req)) = some q) :
      JobStep s job (.serve raw now) (s.setSupervisor k n q)
        { job with waiting := some (.served n sup.threads.length) }
  | prompted (req : PromptRequest) (sess : Session) (k : String) (run : Run) (n : ℕ)
      (sup : Pool Manager ManagerCall) (sess' : Session) (h : ℕ) (raw : String) (now : Time)
      (hx : job.activity = .session (.prompt (.nodePrompt req sess k run)))
      (hw : job.waiting = some (.found n)) (hsup : s.supervisor? k n = some sup)
      (hsess : sup.shared.sessionAgent req.sessionID = .ok (sess', h)) :
      JobStep s job (.serve raw now)
        { s with
          prompts := s.prompts ++
            [{ containerID := sup.shared.containerID, sess := sess', req, raw, now }] }
        { job with
          waiting := some (.prompted
            { containerID := sup.shared.containerID, sess := sess', req, raw, now }) }
  | received (k : String) (req : ManagerRequest) (n j : ℕ) (sup : Pool Manager ManagerCall)
      (c : ManagerCall) (reply : Reply) (x' : Activity)
      (hasks : job.activity.asks = some (k, req)) (hw : job.waiting = some (.served n j))
      (hsup : s.supervisor? k n = some sup) (hc : sup.threads[j]? = some c)
      (hreply : replyOf c = some reply) (hx : job.activity.receives reply = some x') :
      JobStep s job .receive s { activity := x' }
  | finished (b : PromptStart) (run : Run) (x' : Activity)
      (hw : job.waiting = some (.prompted b))
      (hx : job.activity.receives (.run run) = some x') :
      JobStep s job (.finish run) s { activity := x' }

section

variable {s s' : Site} {job job' : Job}

theorem Job.finds_spec {id : String} {n : ℕ} (hw : job.waiting = none)
    (h : job.finds s id = some n) :
    JobStep s job (.find id) s { job with waiting := some (.found n) } := by
  unfold Job.finds at h
  split at h
  · next req sess k run hx =>
      obtain ⟨hd, hget, hrest⟩ := Option.bind_eq_some_iff.1 h
      obtain ⟨sup, hsup, hif⟩ := Option.bind_eq_some_iff.1 hrest
      split_ifs at hif with hsess
      obtain rfl := Option.some.inj hif
      exact .foundSession req sess k run id hd sup hx hw hget hsup hsess
  · obtain ⟨⟨k, req⟩, hasks, hif⟩ := Option.bind_eq_some_iff.1 h
    split_ifs at hif with hid
    obtain ⟨hd, hget, rfl⟩ := Option.map_eq_some_iff.1 hif
    subst hid
    exact .found k req hd hasks hw hget

theorem Job.serve_spec {n : ℕ} {raw : String} {now : Time} (hw : job.waiting = some (.found n))
    (h : job.serve s n raw now = some (s', job')) : JobStep s job (.serve raw now) s' job' := by
  unfold Job.serve at h
  split at h
  · next req sess k run hx =>
      obtain ⟨sup, hsup, hrest⟩ := Option.bind_eq_some_iff.1 h
      split at hrest
      · cases hrest
      · next r hr =>
          obtain ⟨rfl, rfl⟩ := some_pair_inj hrest
          exact .prompted req sess k run n sup r.1 r.2 raw now hx hw hsup hr
  · obtain ⟨⟨k, req⟩, hasks, hrest⟩ := Option.bind_eq_some_iff.1 h
    obtain ⟨sup, hsup, hrest⟩ := Option.bind_eq_some_iff.1 hrest
    obtain ⟨q, hq, heq⟩ := Option.map_eq_some_iff.1 hrest
    obtain ⟨rfl, rfl⟩ := Prod.mk.inj heq
    exact .served k req n sup q raw now hasks hw hsup hq

/-- **A step of an activity is one of `JobStep`.** -/
theorem Job.step_spec {l : JobLabel} (h : job.step s l = some (s', job')) :
    JobStep s job l s' job' := by
  cases l with
  | call a =>
      simp only [Job.step] at h
      split_ifs at h with hreply
      obtain ⟨⟨w', x'⟩, hstep, heq⟩ := Option.map_eq_some_iff.1 h
      obtain ⟨rfl, rfl⟩ := Prod.mk.inj heq
      exact .called a w' x' (Bool.eq_false_iff.2 hreply) hstep
  | find id =>
      simp only [Job.step] at h
      split at h
      · next hw =>
          obtain ⟨n, hn, heq⟩ := Option.map_eq_some_iff.1 h
          obtain ⟨rfl, rfl⟩ := Prod.mk.inj heq
          exact Job.finds_spec hw hn
      · cases h
  | serve raw now =>
      simp only [Job.step] at h
      split at h
      · next n hw => exact Job.serve_spec hw h
      · cases h
  | receive =>
      simp only [Job.step] at h
      split at h
      · next n j hw =>
          obtain ⟨⟨k, req⟩, hasks, hrest⟩ := Option.bind_eq_some_iff.1 h
          obtain ⟨sup, hsup, hrest⟩ := Option.bind_eq_some_iff.1 hrest
          obtain ⟨c, hc, hrest⟩ := Option.bind_eq_some_iff.1 hrest
          obtain ⟨reply, hreply, hrest⟩ := Option.bind_eq_some_iff.1 hrest
          obtain ⟨x', hx, heq⟩ := Option.map_eq_some_iff.1 hrest
          obtain ⟨rfl, rfl⟩ := Prod.mk.inj heq
          exact .received k req n j sup c reply x' hasks hw hsup hc hreply hx
      · cases h
  | finish run =>
      simp only [Job.step] at h
      split at h
      · next b hw =>
          obtain ⟨x', hx, heq⟩ := Option.map_eq_some_iff.1 h
          obtain ⟨rfl, rfl⟩ := Prod.mk.inj heq
          exact .finished b run x' hw hx
      · cases h

/-- What an activity can receive, and where it goes on. -/
inductive Activity.Received : Activity → Reply → Activity → Prop
  | agent (req : InstallAgentRequest) (c : Container) (k : String) (inst : AgentInstance) :
      Received (.container (.ensureAgent (.nodeEnsureAgent req c k))) (.agent inst)
        (.container (.ensureAgent (.upsertAgentInstance req c inst)))
  | session (req : SessionRequest) (k : String) (sess : Session) :
      Received (.openSession (.nodeOpen req k)) (.session sess)
        (.openSession (.upsertSession req sess))
  | run (req : PromptRequest) (sess : Session) (k : String) (run final : Run) :
      Received (.session (.prompt (.nodePrompt req sess k run))) (.run final)
        (.session (.prompt (.upsertFinalRun sess run final)))

theorem Activity.received_of_receives {x x' : Activity} {reply : Reply}
    (h : x.receives reply = some x') : x.Received reply x' := by
  unfold Activity.receives at h
  split at h
  · exact Option.some.inj h ▸ .agent ..
  · exact Option.some.inj h ▸ .session ..
  · exact Option.some.inj h ▸ .run ..
  · cases h

/-- **What an activity receives** leads where a call with that reply leads, and nothing is
written. -/
theorem Activity.receives_next {x x' : Activity} {reply : Reply} (h : x.receives reply = some x')
    (w : World) : x.Next w { reply } x' ∧ ∀ a, x.writes a = none := by
  cases Activity.received_of_receives h with
  | agent => exact ⟨.ensureAgent (.ensured _ _ _ _ rfl rfl), fun _ => rfl⟩
  | session => exact ⟨.openSession (.opened _ _ _ rfl rfl), fun _ => rfl⟩
  | run => exact ⟨.prompt (.ended _ _ _ _ _ rfl rfl), fun _ => rfl⟩

end

end Workflows
end Agentd
