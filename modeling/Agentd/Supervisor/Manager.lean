/-
# The agents and sessions of a container

`runtime/supervisor/manager.go`: `Manager.EnsureAgent`, `CreateSession`, `LoadSession`,
`agentByID` and `sessionAgent`.  A container runs one process for an agent and a
bundle; `EnsureAgent` starts it and enters its handle into `m.agents`, unless a handle
is there already.  A session is entered into `m.sessions` with the id of the agent
instance it belongs to, and found again through that id.

The critical sections of `m.mu` are one step each: the lookup of `EnsureAgent`, its
insert, `agentByID`, the insert of a session.  Between the lookup and the insert
`EnsureAgent` starts a process and calls `initialize` on it, with no lock held, and
these are steps of their own.  A handle is a pointer, so it is modelled by its number
in the list of all handles made; a process is a number too.  The label of a step
holds what the surroundings decide: the result of `StartCommand` and of the calls to
the agent, the text of `NewID`, the time, and when a process exits.

The streams of a handle are in `AgentHandle`.  What is sent to the agent is left out,
and so is the logging of its stderr.
-/

import Agentd.Control.Types
import Agentd.Concurrency.Pool

namespace Agentd
namespace Supervisor

open Control Concurrency

/-- `agentKey`. -/
def agentKey (plan : ExecutionPlan) : String := plan.agent.id ++ ":" ++ plan.bundle.digest

/-- The key and the value of an entry `key=value` of an environment: the text before and
after the first `=`. -/
def splitEnv (kv : String) : Option (String × String) :=
  match kv.toList.span (· ≠ '=') with
  | (key, _ :: value) => some (String.ofList key, String.ofList value)
  | (_, []) => none

/-- `mergeEnv`, as a map: the base, and then layer by layer what it adds or
overwrites. -/
def mergeEnv (base : List String) (layers : List StringMap) : StringMap :=
  let fromBase := (base.filterMap splitEnv).foldl (fun m kv => m.insert kv.1 kv.2) ∅
  layers.foldl (fun m layer => layer.entries.foldl (fun m e => m.insert e.1 e.2) m) fromBase

/-- A process that `StartCommand` has started for the key. -/
structure Process where
  key : String
  command : String := ""
  args : List String := []
  dir : String := ""
  env : StringMap := ∅
  running : Bool := true

/-- `agentHandle`, without its streams: `cmd` is the number of the process. -/
structure Handle where
  inst : AgentInstance
  plan : ExecutionPlan := {}
  cmd : ℕ

/-- `Manager`, with the environment of the supervisor, all handles made and all
processes started so far. -/
structure Manager where
  containerID : String := ""
  environ : List String := []
  agents : GoMap String ℕ := ∅
  sessions : Table String Session Session.id := .empty
  handles : List Handle := []
  processes : List Process := []

/-- `NewManager`. -/
def newManager (containerID : String) (environ : List String) : Manager := { containerID, environ }

/-- `agentByID`. -/
def Manager.agentByID (m : Manager) (agentID : String) : Except Err ℕ :=
  match (m.agents.entries.map fun e => e.2).find? fun h =>
      m.handles[h]?.any fun handle => handle.inst.id = agentID with
  | some h => .ok h
  | none => .error .notFound

/-- `sessionAgent`. -/
def Manager.sessionAgent (m : Manager) (sessionID : String) : Except Err (Session × ℕ) :=
  match m.sessions.get sessionID with
  | none => .error .notFound
  | some sess => (m.agentByID sess.agentInstanceID).map fun h => (sess, h)

theorem Manager.sessionAgent_eq_ok {m : Manager} {sessionID : String} {sess : Session} {h : ℕ}
    (hfound : m.sessionAgent sessionID = .ok (sess, h)) : m.sessions.get sessionID = some sess := by
  unfold Manager.sessionAgent at hfound
  split at hfound
  · cases hfound
  · next sess' hget =>
      cases hagent : m.agentByID sess'.agentInstanceID with
      | error e =>
          rw [hagent] at hfound
          cases hfound
      | ok n =>
          rw [hagent] at hfound
          obtain ⟨rfl, -⟩ := Prod.mk.inj (Except.ok.inj hfound)
          exact hget

/-- Where `EnsureAgent` stands: before the lookup; before `StartCommand`; in `Initialize`;
before the insert; before `snapshot`; at its end; or after the panic of an empty
entrypoint. -/
inductive EnsurePC
  | lookup
  | start
  | clientInitialize (inst : AgentInstance) (cmd : ℕ)
  | insert (inst : AgentInstance) (cmd : ℕ)
  | snapshot (h : ℕ)
  | returned (res : Except String AgentInstance)
  | panic

/-- A request for a session, by `CreateSession` or by `LoadSession`. -/
inductive SessionRequest
  | create (req : CreateSessionRequest)
  | load (req : LoadSessionRequest)

namespace SessionRequest

def containerID : SessionRequest → String
  | .create req => req.containerID
  | .load req => req.containerID

def agentInstanceID : SessionRequest → String
  | .create req => req.agentInstanceID
  | .load req => req.agentInstanceID

/-- The id of the session: `CreateSession` makes one up where none is given, and
`LoadSession` takes the id to resume. -/
def sessionID (raw : String) : SessionRequest → String
  | .create req => if req.sessionID = "" then newID "sess" raw else req.sessionID
  | .load req => if req.sessionID = "" then req.resumeID else req.sessionID

def metadata : SessionRequest → AnyMap
  | .create req => req.plan.session.metadata
  | .load req => req.spec.metadata

def mcpServers : SessionRequest → List MCPServerSpec
  | .create req => req.plan.session.mcpServers
  | .load req => req.spec.mcpServers

end SessionRequest

/-- Where `CreateSession` or `LoadSession` stands: before `agentByID`; in the call to the
agent; before the insert; or at its end. -/
inductive SessionPC
  | agentByID
  | callAgent (h : ℕ) (sessionID : String)
  | insert (sess : Session)
  | returned (res : Except Err Session)

/-- A call of the manager. -/
inductive ManagerCall
  | ensure (req : InstallAgentRequest) (pc : EnsurePC)
  | session (req : SessionRequest) (pc : SessionPC)

/-- What the manager is asked to do. -/
inductive ManagerRequest
  | ensureAgent (req : InstallAgentRequest)
  | session (req : SessionRequest)

/-- What happens next to a call: `started` is the return of `StartCommand` and `answered` that
of the call to the agent, with their errors. -/
inductive CallLabel
  | lookup
  | started (err : Option String) (raw : String) (now : Time)
  | answered (res : Except String ACPNegotiation) (now : Time)
  | insert
  | snapshot
  | agentByID (raw : String)

/-- The instance that `EnsureAgent` makes. -/
def newInstance (m : Manager) (plan : ExecutionPlan) (raw : String) (now : Time) :
    AgentInstance where
  id := newID "agent" raw
  containerID := m.containerID
  agentID := plan.agent.id
  version := plan.agent.version
  bundleDigest := plan.bundle.digest
  state := .installing
  cwd := plan.session.workingDir
  env := plan.injectionEnv
  limits := plan.containerProfile.resourceLimits
  createdAt := now
  updatedAt := now

/-- The process of a plan with the entrypoint `command :: args`. -/
def newProcess (m : Manager) (plan : ExecutionPlan) (command : String) (args : List String) :
    Process where
  key := agentKey plan
  command := command
  args := args
  dir := plan.session.workingDir
  env := mergeEnv m.environ [plan.containerProfile.env, plan.bundle.env, plan.injectionEnv]

/-- The process has ended. -/
def Manager.stop (m : Manager) (n : ℕ) : Manager :=
  { m with processes := m.processes.modify n fun x => { x with running := false } }

/-- The session that `CreateSession` and `LoadSession` enter. -/
def newSession (m : Manager) (req : SessionRequest) (handle : Handle) (sessionID : String)
    (negotiated : ACPNegotiation) (now : Time) : Session where
  id := sessionID
  containerID := m.containerID
  agentInstanceID := handle.inst.id
  state := .active
  metadata := req.metadata
  negotiated := negotiated
  mcpServers := req.mcpServers
  createdAt := now
  updatedAt := now

/-- One step of `EnsureAgent`. -/
def ensureStep (m : Manager) (plan : ExecutionPlan) (pc : EnsurePC) (l : CallLabel) :
    Option (Manager × EnsurePC) :=
  match pc, l with
  | .lookup, .lookup =>
      match m.agents.lookup (agentKey plan) with
      | some h => some (m, .snapshot h)
      | none => some (m, .start)
  | .start, .started err raw now =>
      match plan.bundle.entrypoint, err with
      | [], _ => some (m, .panic)
      | _ :: _, some err => some (m, .returned (.error err))
      | command :: args, none =>
          some ({ m with processes := m.processes ++ [newProcess m plan command args] },
            .clientInitialize (newInstance m plan raw now) m.processes.length)
  | .clientInitialize _ cmd, .answered (.error err) _ =>
      some (m.stop cmd, .returned (.error err))
  | .clientInitialize inst cmd, .answered (.ok negotiated) now =>
      some (m, .insert { inst with state := .ready, negotiated, updatedAt := now } cmd)
  | .insert inst cmd, .insert =>
      some ({ m with agents := m.agents.insert (agentKey plan) m.handles.length
                     handles := m.handles ++ [{ inst, plan, cmd }] },
        .snapshot m.handles.length)
  | .snapshot h, .snapshot => m.handles[h]?.map fun handle => (m, .returned (.ok handle.inst))
  | _, _ => none

/-- One step of `CreateSession` or `LoadSession`. -/
def sessionStep (m : Manager) (req : SessionRequest) (pc : SessionPC) (l : CallLabel) :
    Option (Manager × SessionPC) :=
  match pc, l with
  | .agentByID, .agentByID raw =>
      match m.agentByID req.agentInstanceID with
      | .error err => some (m, .returned (.error err))
      | .ok h => some (m, .callAgent h (req.sessionID raw))
  | .callAgent _ _, .answered (.error err) _ => some (m, .returned (.error (.other err)))
  | .callAgent h sessionID, .answered (.ok negotiated) now =>
      m.handles[h]?.map fun handle =>
        (m, .insert (newSession m req handle sessionID negotiated now))
  | .insert sess, .insert =>
      some ({ m with sessions := m.sessions.upsert sess }, .returned (.ok sess))
  | _, _ => none

/-- The calls of a manager. -/
def managerMachine : Machine Manager ManagerCall ManagerRequest CallLabel where
  start
    | _, .ensureAgent req => some (.ensure req .lookup)
    | _, .session req => some (.session req .agentByID)
  run
    | _, m, .ensure req pc, l => (ensureStep m req.plan pc l).map fun r => (r.1, .ensure req r.2)
    | _, m, .session req pc, l => (sessionStep m req pc l).map fun r => (r.1, .session req r.2)

/-- What happens next in a container: something to the calls of its manager; a process
exits; or `wait` of a handle, whose process has exited, records that. -/
inductive ManagerLabel
  | calls (l : PoolLabel ManagerRequest CallLabel)
  | exit (n : ℕ)
  | waited (h : ℕ) (now : Time)

/-- `wait` of a handle, after the exit of its process. -/
def Manager.waited (m : Manager) (h : ℕ) (now : Time) : Option Manager :=
  m.handles[h]?.bind fun handle =>
    m.processes[handle.cmd]?.bind fun x =>
      if x.running then none
      else
        some { m with
          handles := m.handles.set h
            { handle with inst := { handle.inst with state := .exited, updatedAt := now } } }

/-- One step in a container. -/
def managerStep (p : Pool Manager ManagerCall) : ManagerLabel → Option (Pool Manager ManagerCall)
  | .calls l => p.step managerMachine l
  | .exit n => some { p with shared := p.shared.stop n }
  | .waited h now => (p.shared.waited h now).map fun m => { p with shared := m }

/-- What a step of `EnsureAgent` can do. -/
inductive EnsureStep (m : Manager) (plan : ExecutionPlan) :
    EnsurePC → CallLabel → Manager → EnsurePC → Prop
  | found (h : ℕ) (hlookup : m.agents.lookup (agentKey plan) = some h) :
      EnsureStep m plan .lookup .lookup m (.snapshot h)
  | absent (hlookup : m.agents.lookup (agentKey plan) = none) :
      EnsureStep m plan .lookup .lookup m .start
  | noEntrypoint (err : Option String) (raw : String) (now : Time) :
      EnsureStep m plan .start (.started err raw now) m .panic
  | notStarted (err raw : String) (now : Time) :
      EnsureStep m plan .start (.started (some err) raw now) m (.returned (.error err))
  | started (command : String) (args : List String) (raw : String) (now : Time) :
      EnsureStep m plan .start (.started none raw now)
        { m with processes := m.processes ++ [newProcess m plan command args] }
        (.clientInitialize (newInstance m plan raw now) m.processes.length)
  | refused (inst : AgentInstance) (cmd : ℕ) (err : String) (now : Time) :
      EnsureStep m plan (.clientInitialize inst cmd) (.answered (.error err) now) (m.stop cmd)
        (.returned (.error err))
  | negotiated (inst : AgentInstance) (cmd : ℕ) (negotiated : ACPNegotiation) (now : Time) :
      EnsureStep m plan (.clientInitialize inst cmd) (.answered (.ok negotiated) now) m
        (.insert { inst with state := .ready, negotiated, updatedAt := now } cmd)
  | inserted (inst : AgentInstance) (cmd : ℕ) :
      EnsureStep m plan (.insert inst cmd) .insert
        { m with agents := m.agents.insert (agentKey plan) m.handles.length
                 handles := m.handles ++ [{ inst, plan, cmd }] }
        (.snapshot m.handles.length)
  | snapshot (h : ℕ) (handle : Handle) (hget : m.handles[h]? = some handle) :
      EnsureStep m plan (.snapshot h) .snapshot m (.returned (.ok handle.inst))

/-- What a step of `CreateSession` or `LoadSession` can do. -/
inductive SessionStep (m : Manager) (req : SessionRequest) :
    SessionPC → CallLabel → Manager → SessionPC → Prop
  | notFound (err : Err) (raw : String) (herr : m.agentByID req.agentInstanceID = .error err) :
      SessionStep m req .agentByID (.agentByID raw) m (.returned (.error err))
  | found (h : ℕ) (raw : String) (hfound : m.agentByID req.agentInstanceID = .ok h) :
      SessionStep m req .agentByID (.agentByID raw) m (.callAgent h (req.sessionID raw))
  | refused (h : ℕ) (sessionID err : String) (now : Time) :
      SessionStep m req (.callAgent h sessionID) (.answered (.error err) now) m
        (.returned (.error (.other err)))
  | accepted (h : ℕ) (sessionID : String) (handle : Handle) (hget : m.handles[h]? = some handle)
      (negotiated : ACPNegotiation) (now : Time) :
      SessionStep m req (.callAgent h sessionID) (.answered (.ok negotiated) now) m
        (.insert (newSession m req handle sessionID negotiated now))
  | inserted (sess : Session) :
      SessionStep m req (.insert sess) .insert { m with sessions := m.sessions.upsert sess }
        (.returned (.ok sess))

section

variable {m m' : Manager} {l : CallLabel}

/-- **A step of `EnsureAgent` is one of `EnsureStep`.** -/
theorem ensureStep_spec {plan : ExecutionPlan} {pc pc' : EnsurePC}
    (h : ensureStep m plan pc l = some (m', pc')) : EnsureStep m plan pc l m' pc' := by
  unfold ensureStep at h
  split at h
  · split at h
    · next n hn =>
        obtain ⟨rfl, rfl⟩ := some_pair_inj h
        exact .found n hn
    · next hn =>
        obtain ⟨rfl, rfl⟩ := some_pair_inj h
        exact .absent hn
  · split at h
    · obtain ⟨rfl, rfl⟩ := some_pair_inj h
      exact .noEntrypoint _ _ _
    · obtain ⟨rfl, rfl⟩ := some_pair_inj h
      exact .notStarted _ _ _
    · next command args _ =>
        obtain ⟨rfl, rfl⟩ := some_pair_inj h
        exact .started command args _ _
  · obtain ⟨rfl, rfl⟩ := some_pair_inj h
    exact .refused _ _ _ _
  · obtain ⟨rfl, rfl⟩ := some_pair_inj h
    exact .negotiated _ _ _ _
  · obtain ⟨rfl, rfl⟩ := some_pair_inj h
    exact .inserted _ _
  · obtain ⟨handle, hget, hr⟩ := Option.map_eq_some_iff.1 h
    obtain ⟨rfl, rfl⟩ := Prod.mk.inj hr
    exact .snapshot _ handle hget
  · cases h

/-- **A step of `CreateSession` or `LoadSession` is one of `SessionStep`.** -/
theorem sessionStep_spec {req : SessionRequest} {pc pc' : SessionPC}
    (h : sessionStep m req pc l = some (m', pc')) : SessionStep m req pc l m' pc' := by
  unfold sessionStep at h
  split at h
  · split at h
    · next err herr =>
        obtain ⟨rfl, rfl⟩ := some_pair_inj h
        exact .notFound err _ herr
    · next n hn =>
        obtain ⟨rfl, rfl⟩ := some_pair_inj h
        exact .found n _ hn
  · obtain ⟨rfl, rfl⟩ := some_pair_inj h
    exact .refused _ _ _ _
  · obtain ⟨handle, hget, hr⟩ := Option.map_eq_some_iff.1 h
    obtain ⟨rfl, rfl⟩ := Prod.mk.inj hr
    exact .accepted _ _ handle hget _ _
  · obtain ⟨rfl, rfl⟩ := some_pair_inj h
    exact .inserted _
  · cases h

/-- **A step of a call** is one of `EnsureStep` or of `SessionStep`. -/
theorem managerStep_call {p q : Pool Manager ManagerCall} {i : ℕ}
    (h : managerStep p (.calls (.step i l)) = some q) :
    ∃ c m' c', p.threads[i]? = some c ∧ q = { shared := m', threads := p.threads.set i c' } ∧
      ((∃ req pc pc', c = .ensure req pc ∧ c' = .ensure req pc' ∧
          EnsureStep p.shared req.plan pc l m' pc') ∨
        (∃ req pc pc', c = .session req pc ∧ c' = .session req pc' ∧
          SessionStep p.shared req pc l m' pc')) := by
  obtain ⟨c, m', c', hi, hrun, rfl⟩ := Pool.step_run.1 (show p.step _ _ = some q from h)
  cases c with
  | ensure req pc =>
      obtain ⟨m'', pc', hpc', rfl, rfl⟩ := map_eq_some_pair hrun
      exact ⟨_, m'', _, hi, rfl, Or.inl ⟨req, pc, pc', rfl, rfl, ensureStep_spec hpc'⟩⟩
  | session req pc =>
      obtain ⟨m'', pc', hpc', rfl, rfl⟩ := map_eq_some_pair hrun
      exact ⟨_, m'', _, hi, rfl, Or.inr ⟨req, pc, pc', rfl, rfl, sessionStep_spec hpc'⟩⟩

/-- A handle with this instance id is entered. -/
def Manager.Knows (m : Manager) (agentID : String) : Prop :=
  ∃ key h handle, m.agents.lookup key = some h ∧ m.handles[h]? = some handle ∧
    handle.inst.id = agentID

theorem Manager.agentByID_eq_ok {agentID : String} {h : ℕ} (hfound : m.agentByID agentID = .ok h) :
    ∃ key handle, m.agents.lookup key = some h ∧ m.handles[h]? = some handle ∧
      handle.inst.id = agentID := by
  unfold Manager.agentByID at hfound
  split at hfound
  · next n hn =>
      obtain rfl := Except.ok.inj hfound
      obtain ⟨e, he, rfl⟩ := List.mem_map.1 (List.mem_of_find?_eq_some hn)
      have hany := List.find?_some hn
      obtain ⟨handle, hget, hid⟩ := (Option.any_eq_true _ _).1 hany
      exact ⟨e.1, handle, AList.mem_lookup_iff.2 he, hget, of_decide_eq_true hid⟩
  · cases hfound

theorem Manager.Knows.found {agentID : String} (hk : m.Knows agentID) :
    ∃ h, m.agentByID agentID = .ok h := by
  obtain ⟨key, h, handle, hlookup, hget, hid⟩ := hk
  unfold Manager.agentByID
  split
  · next n hn => exact ⟨n, rfl⟩
  · next hn =>
      have hmem : h ∈ m.agents.entries.map fun e => e.2 :=
        List.mem_map.2 ⟨⟨key, h⟩, AList.mem_lookup_iff.1 hlookup, rfl⟩
      have hany := List.find?_eq_none.1 hn h hmem
      rw [hget, Option.any_some, hid] at hany
      exact absurd (decide_eq_true rfl) hany

/-- **What no step changes.**  The container and the environment; of a handle all but the
state and the time of its instance; of a process all but whether it runs. -/
structure Manager.Keeps (m m' : Manager) : Prop where
  containerID : m'.containerID = m.containerID
  environ : m'.environ = m.environ
  handles : ∀ (h : ℕ) handle, m.handles[h]? = some handle → ∃ state now,
    m'.handles[h]? = some { handle with inst := { handle.inst with state, updatedAt := now } }
  processes : ∀ (n : ℕ) x, m.processes[n]? = some x → ∃ running,
    m'.processes[n]? = some { x with running }

/-- What only appends handles and processes. -/
theorem Manager.keeps_of_append {hs : List Handle} {xs : List Process}
    (hid : m'.containerID = m.containerID) (henv : m'.environ = m.environ)
    (hhandles : m'.handles = m.handles ++ hs) (hproc : m'.processes = m.processes ++ xs) :
    m.Keeps m' := by
  refine ⟨hid, henv, fun h handle hget => ⟨handle.inst.state, handle.inst.updatedAt, ?_⟩,
    fun n x hx => ⟨x.running, ?_⟩⟩
  · rw [hhandles]
    exact getElem?_append_of_some _ hget
  · rw [hproc]
    exact getElem?_append_of_some _ hx

theorem Manager.keeps_refl (m : Manager) : m.Keeps m :=
  keeps_of_append rfl rfl (List.append_nil _).symm (List.append_nil _).symm

theorem Manager.keeps_stop (m : Manager) (n : ℕ) : m.Keeps (m.stop n) where
  containerID := rfl
  environ := rfl
  handles h handle hget := ⟨handle.inst.state, handle.inst.updatedAt, hget⟩
  processes k x hx := by
    have hmod : (m.stop n).processes[k]? =
        some (if n = k then { x with running := false } else x) := by
      show (m.processes.modify n _)[k]? = _
      rw [List.getElem?_modify, hx]
      split_ifs <;> rfl
    by_cases hk : n = k
    · exact ⟨false, by rw [hmod, if_pos hk]⟩
    · exact ⟨x.running, by rw [hmod, if_neg hk]⟩

/-- `wait` of a handle: its process has exited, and its instance says so. -/
theorem Manager.waited_eq_some {h : ℕ} {now : Time} (hw : m.waited h now = some m') :
    ∃ handle, m.handles[h]? = some handle ∧
      m' = { m with
        handles := m.handles.set h
          { handle with inst := { handle.inst with state := .exited, updatedAt := now } } } := by
  obtain ⟨handle, hget, hw⟩ := Option.bind_eq_some_iff.1 hw
  obtain ⟨x, -, hw⟩ := Option.bind_eq_some_iff.1 hw
  split_ifs at hw
  exact ⟨handle, hget, (Option.some.inj hw).symm⟩

/-- A handle after a `wait` is one from before, up to the state of its instance. -/
theorem Manager.handle_of_waited {h k : ℕ} {now : Time} {handle' : Handle}
    (hw : m.waited h now = some m') (hget' : m'.handles[k]? = some handle') :
    ∃ handle state updatedAt, m.handles[k]? = some handle ∧
      handle' = { handle with inst := { handle.inst with state, updatedAt } } := by
  obtain ⟨handle, hget, rfl⟩ := Manager.waited_eq_some hw
  rcases getElem?_set_cases hget' with ⟨rfl, rfl⟩ | ⟨-, hget'⟩
  · exact ⟨handle, _, _, hget, rfl⟩
  · exact ⟨handle', _, _, hget', rfl⟩

theorem Manager.keeps_waited {h : ℕ} {now : Time} (hw : m.waited h now = some m') :
    m.Keeps m' := by
  obtain ⟨handle, hget, rfl⟩ := Manager.waited_eq_some hw
  refine ⟨rfl, rfl, fun k handle' hget' => ?_, fun n x hx => ⟨x.running, hx⟩⟩
  by_cases hk : k = h
  · subst hk
    obtain rfl := Option.mem_unique hget hget'
    exact ⟨.exited, now, getElem?_set_of_some _ hget⟩
  · exact ⟨_, _, (List.getElem?_set_ne (Ne.symm hk)).trans hget'⟩

theorem EnsureStep.keeps {plan : ExecutionPlan} {pc pc' : EnsurePC}
    (hs : EnsureStep m plan pc l m' pc') : m.Keeps m' := by
  cases hs with
  | found | absent | noEntrypoint | notStarted | negotiated | snapshot => exact m.keeps_refl
  | started command args => exact Manager.keeps_of_append rfl rfl (List.append_nil _).symm rfl
  | refused inst cmd => exact m.keeps_stop cmd
  | inserted inst cmd => exact Manager.keeps_of_append rfl rfl rfl (List.append_nil _).symm

theorem SessionStep.agents_eq {req : SessionRequest} {pc pc' : SessionPC}
    (hs : SessionStep m req pc l m' pc') : m'.agents = m.agents := by
  cases hs <;> rfl

theorem SessionStep.keeps {req : SessionRequest} {pc pc' : SessionPC}
    (hs : SessionStep m req pc l m' pc') : m.Keeps m' := by
  cases hs with
  | notFound | found | refused | accepted => exact m.keeps_refl
  | inserted sess =>
      exact Manager.keeps_of_append rfl rfl (List.append_nil _).symm (List.append_nil _).symm

end

end Supervisor
end Agentd
