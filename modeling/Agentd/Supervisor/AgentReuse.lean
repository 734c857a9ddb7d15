/-
# What an agent that is used again was started from

`EnsureAgent` returns the instance of a handle that is entered under the key of the
plan, and the key is made of the agent id and the bundle digest only.  The process of
such a handle was started from the plan of the call that entered it: its environment,
its directory and its limits are those of that plan, which may differ from the plan of
the call that uses it again (`reuse_keeps_old_environment`).

What holds in every run, however the calls overlap, is that the plan has the same key
(`ensureAgent_started_from_found_plan`): an instance was started from the plan of the
handle that the lookup of the call found, or from the call's own plan where the lookup
found none.
-/

import Agentd.Supervisor.EnsureAgent

namespace Agentd
namespace Supervisor

open Control Concurrency

/-- The working directory and the limits of the instance, and the environment of process
`cmd`, are those of the plan. -/
structure Configured (m : Manager) (plan : ExecutionPlan) (inst : AgentInstance) (cmd : ℕ) :
    Prop where
  cwd : inst.cwd = plan.session.workingDir
  limits : inst.limits = plan.containerProfile.resourceLimits
  env : ∃ x, m.processes[cmd]? = some x ∧
    x.env = mergeEnv m.environ [plan.containerProfile.env, plan.bundle.env, plan.injectionEnv]

/-- The instance was started from the plan: it is the instance of a handle, and that
handle's process and the instance itself are configured as the plan has it. -/
def StartedFrom (m : Manager) (inst : AgentInstance) (plan : ExecutionPlan) : Prop :=
  ∃ (h : ℕ) (handle : Handle), m.handles[h]? = some handle ∧ handle.inst.id = inst.id ∧
    Configured m plan inst handle.cmd

/-- The lookup of call `i` met this plan: the plan of the handle that it found, or the
call's own where no handle was entered. -/
def LookedUp (past : List (Pool Manager ManagerCall × ManagerLabel)) (i : ℕ)
    (req : InstallAgentRequest) (plan : ExecutionPlan) : Prop :=
  ∃ q, (q, .calls (.step i .lookup)) ∈ past ∧
    match q.shared.agents.lookup (agentKey req.plan) with
    | none => plan = req.plan
    | some h => ∃ handle, q.shared.handles[h]? = some handle ∧ handle.plan = plan

/-- A call of `EnsureAgent` has this plan. -/
def Requested (threads : List ManagerCall) (plan : ExecutionPlan) : Prop :=
  ∃ (j : ℕ) (req : InstallAgentRequest) (pc : EnsurePC),
    threads[j]? = some (.ensure req pc) ∧ req.plan = plan

/-- Handle `h` is one of the plan. -/
def Manager.HandleOf (m : Manager) (h : ℕ) (plan : ExecutionPlan) : Prop :=
  ∃ handle, m.handles[h]? = some handle ∧ handle.plan = plan ∧
    Configured m plan handle.inst handle.cmd

/-- What a call holds on to: a plan that it met with its lookup, and from there on a
process or a handle of that plan. -/
def ManagerCall.Holds (m : Manager) (met : InstallAgentRequest → ExecutionPlan → Prop) :
    ManagerCall → Prop
  | .ensure req .start => met req req.plan
  | .ensure req (.clientInitialize inst cmd) | .ensure req (.insert inst cmd) =>
      met req req.plan ∧ Configured m req.plan inst cmd
  | .ensure req (.snapshot h) =>
      ∃ plan, met req plan ∧ agentKey plan = agentKey req.plan ∧ m.HandleOf h plan
  | .ensure req (.returned (.ok inst)) =>
      ∃ plan, met req plan ∧ agentKey plan = agentKey req.plan ∧ StartedFrom m inst plan
  | _ => True

/-- The invariant: a handle is entered under the key of its plan, which some call has, and
the calls hold on to what they met. -/
structure ReuseOk (p : Pool Manager ManagerCall)
    (past : List (Pool Manager ManagerCall × ManagerLabel)) : Prop where
  entered : ∀ key h, p.shared.agents.lookup key = some h →
    ∃ plan, Requested p.threads plan ∧ agentKey plan = key ∧ p.shared.HandleOf h plan
  calls : ∀ (i : ℕ) c, p.threads[i]? = some c →
    c.Holds p.shared fun req plan => LookedUp past i req plan ∧ Requested p.threads plan

section

variable {m m' : Manager} {plan : ExecutionPlan} {inst : AgentInstance}

theorem Manager.Keeps.configured {cmd : ℕ} (hk : m.Keeps m') (h : Configured m plan inst cmd) :
    Configured m' plan inst cmd := by
  obtain ⟨x, hx, henv⟩ := h.env
  obtain ⟨running, hx'⟩ := hk.processes cmd x hx
  exact ⟨h.cwd, h.limits, _, hx', by rw [hk.environ, ← henv]⟩

theorem Manager.Keeps.handleOf {n : ℕ} (hk : m.Keeps m') (h : m.HandleOf n plan) :
    m'.HandleOf n plan := by
  obtain ⟨handle, hget, hplan, hconf⟩ := h
  obtain ⟨state, now, hget'⟩ := hk.handles n handle hget
  have hconf' := hk.configured hconf
  exact ⟨_, hget', hplan, hconf'.cwd, hconf'.limits, hconf'.env⟩

theorem Manager.Keeps.startedFrom (hk : m.Keeps m') (h : StartedFrom m inst plan) :
    StartedFrom m' inst plan := by
  obtain ⟨n, handle, hget, hid, hconf⟩ := h
  obtain ⟨state, now, hget'⟩ := hk.handles n handle hget
  exact ⟨n, _, hget', hid, hk.configured hconf⟩

theorem Manager.Keeps.holds {met met' : InstallAgentRequest → ExecutionPlan → Prop}
    {c : ManagerCall} (hk : m.Keeps m') (hmet : ∀ req plan, met req plan → met' req plan)
    (hc : c.Holds m met) : c.Holds m' met' := by
  unfold ManagerCall.Holds at hc ⊢
  split
  · exact hmet _ _ hc
  · exact ⟨hmet _ _ hc.1, hk.configured hc.2⟩
  · exact ⟨hmet _ _ hc.1, hk.configured hc.2⟩
  · obtain ⟨plan, hplan, hkey, hhandle⟩ := hc
    exact ⟨plan, hmet _ _ hplan, hkey, hk.handleOf hhandle⟩
  · obtain ⟨plan, hplan, hkey, hfrom⟩ := hc
    exact ⟨plan, hmet _ _ hplan, hkey, hk.startedFrom hfrom⟩
  · trivial

end

section

variable {p q : Pool Manager ManagerCall} {i : ℕ} {l : CallLabel} {m' : Manager}
  {past : List (Pool Manager ManagerCall × ManagerLabel)}

theorem LookedUp.later {req : InstallAgentRequest} {plan : ExecutionPlan}
    (h : LookedUp past i req plan) (s : Pool Manager ManagerCall × ManagerLabel) :
    LookedUp (past ++ [s]) i req plan := by
  obtain ⟨q, hmem, hq⟩ := h
  exact ⟨q, List.mem_append_left _ hmem, hq⟩

/-- A call keeps its request. -/
theorem Requested.set {threads : List ManagerCall} {plan : ExecutionPlan} {c : ManagerCall}
    (h : Requested threads plan)
    (hc : ∀ req pc, threads[i]? = some (.ensure req pc) → ∃ pc', c = .ensure req pc') :
    Requested (threads.set i c) plan := by
  obtain ⟨j, req, pc, hj, hplan⟩ := h
  by_cases hji : j = i
  · subst hji
    obtain ⟨pc', rfl⟩ := hc req pc hj
    exact ⟨j, req, pc', getElem?_set_of_some _ hj, hplan⟩
  · exact ⟨j, req, pc, (List.getElem?_set_ne (Ne.symm hji)).trans hj, hplan⟩

theorem Requested.spawn {threads : List ManagerCall} {plan : ExecutionPlan}
    (h : Requested threads plan) (c : ManagerCall) : Requested (threads ++ [c]) plan := by
  obtain ⟨j, req, pc, hj, hplan⟩ := h
  exact ⟨j, req, pc, getElem?_append_of_some _ hj, hplan⟩

theorem ReuseOk.of_keeps (h : ReuseOk p past) (hk : p.shared.Keeps m')
    (hagents : m'.agents = p.shared.agents) (s : Pool Manager ManagerCall × ManagerLabel) :
    ReuseOk { p with shared := m' } (past ++ [s]) where
  entered key n hn := by
    obtain ⟨plan, hreq, hkey, hhandle⟩ := h.entered key n (hagents ▸ hn)
    exact ⟨plan, hreq, hkey, hk.handleOf hhandle⟩
  calls j c hc := hk.holds (fun _ _ hmet => ⟨hmet.1.later s, hmet.2⟩) (h.calls j c hc)

/-- A call moves: what it holds on to is stated with the calls as they were. -/
theorem ReuseOk.move {c c' : ManagerCall} (h : ReuseOk p past) (hi : p.threads[i]? = some c)
    (hk : p.shared.Keeps m') (hsame : ∀ req pc, c = .ensure req pc → ∃ pc', c' = .ensure req pc')
    (hent : ∀ key n, m'.agents.lookup key = some n →
      ∃ plan, Requested p.threads plan ∧ agentKey plan = key ∧ m'.HandleOf n plan)
    (s : Pool Manager ManagerCall × ManagerLabel)
    (hc' : c'.Holds m' fun req plan =>
      LookedUp (past ++ [s]) i req plan ∧ Requested p.threads plan) :
    ReuseOk { shared := m', threads := p.threads.set i c' } (past ++ [s]) := by
  have hset : ∀ {plan}, Requested p.threads plan → Requested (p.threads.set i c') plan := by
    intro plan hreq
    refine hreq.set fun req pc hpc => hsame req pc ?_
    exact Option.mem_unique hi hpc
  refine ⟨fun key n hn => ?_, fun j d hd => ?_⟩
  · obtain ⟨plan, hreq, hkey, hhandle⟩ := hent key n hn
    exact ⟨plan, hset hreq, hkey, hhandle⟩
  · rcases getElem?_set_cases hd with ⟨rfl, rfl⟩ | ⟨-, hd⟩
    · exact m'.keeps_refl.holds (fun _ _ hmet => ⟨hmet.1, hset hmet.2⟩) hc'
    · exact hk.holds (fun _ _ hmet => ⟨hmet.1.later s, hset hmet.2⟩) (h.calls j d hd)

/-- A step that enters no handle keeps the entries in order. -/
theorem ReuseOk.entered_of_eq (h : ReuseOk p past) (hk : p.shared.Keeps m')
    (hagents : m'.agents = p.shared.agents) (key : String) (n : ℕ)
    (hn : m'.agents.lookup key = some n) :
    ∃ plan, Requested p.threads plan ∧ agentKey plan = key ∧ m'.HandleOf n plan := by
  obtain ⟨plan, hreq, hkey, hhandle⟩ := h.entered key n (hagents ▸ hn)
  exact ⟨plan, hreq, hkey, hk.handleOf hhandle⟩

/-- **A step of `EnsureAgent`** holds on to the plan that its lookup met. -/
theorem ReuseOk.ensure {req : InstallAgentRequest} {pc pc' : EnsurePC} (h : ReuseOk p past)
    (hi : p.threads[i]? = some (.ensure req pc)) (hs : EnsureStep p.shared req.plan pc l m' pc') :
    ReuseOk { shared := m', threads := p.threads.set i (.ensure req pc') }
      (past ++ [(p, .calls (.step i l))]) := by
  have hown : Requested p.threads req.plan := ⟨i, req, pc, hi, rfl⟩
  have hlast : (p, ManagerLabel.calls (.step i l)) ∈ past ++ [(p, .calls (.step i l))] :=
    List.mem_append_right _ (List.mem_singleton.2 rfl)
  have hk := hs.keeps
  have hc := h.calls i _ hi
  have hsame : ∀ req' pc'', ManagerCall.ensure req pc = .ensure req' pc'' →
      ∃ pc₁, ManagerCall.ensure req pc' = .ensure req' pc₁ := by
    rintro req' pc'' ⟨⟩
    exact ⟨pc', rfl⟩
  cases hs with
  | found n hn =>
      obtain ⟨plan, hreq, hkey, handle, hget, hplan, hconf⟩ := h.entered _ n hn
      refine h.move hi hk hsame (h.entered_of_eq hk rfl) _
        ⟨plan, ⟨⟨p, hlast, ?_⟩, hreq⟩, hkey, handle, hget, hplan, hconf⟩
      rw [hn]
      exact ⟨handle, hget, hplan⟩
  | absent hn =>
      refine h.move hi hk hsame (h.entered_of_eq hk rfl) _ ⟨⟨p, hlast, ?_⟩, hown⟩
      rw [hn]
  | noEntrypoint | notStarted => exact h.move hi hk hsame (h.entered_of_eq hk rfl) _ trivial
  | started command args raw now =>
      refine h.move hi hk hsame (h.entered_of_eq hk rfl) _ ⟨⟨hc.1.later _, hown⟩, rfl, rfl, ?_⟩
      exact ⟨_, List.getElem?_concat_length, rfl⟩
  | refused inst cmd => exact h.move hi hk hsame (h.entered_of_eq hk rfl) _ trivial
  | negotiated inst cmd =>
      obtain ⟨hmet, hconf⟩ := hc
      exact h.move hi hk hsame (h.entered_of_eq hk rfl) _
        ⟨⟨hmet.1.later _, hown⟩, hconf.cwd, hconf.limits, hconf.env⟩
  | inserted inst cmd =>
      obtain ⟨hmet, hconf⟩ := hc
      have hnew : Manager.HandleOf { p.shared with
          agents := p.shared.agents.insert (agentKey req.plan) p.shared.handles.length
          handles := p.shared.handles ++ [{ inst, plan := req.plan, cmd }] }
          p.shared.handles.length req.plan :=
        ⟨_, List.getElem?_concat_length, rfl, hk.configured hconf⟩
      refine h.move hi hk hsame (fun key n hn => ?_) _
        ⟨req.plan, ⟨hmet.1.later _, hown⟩, rfl, hnew⟩
      rcases GoMap.lookup_insert_cases hn with ⟨rfl, rfl⟩ | ⟨-, hn⟩
      · exact ⟨req.plan, hown, rfl, hnew⟩
      · obtain ⟨plan, hreq, hkey, hhandle⟩ := h.entered key n hn
        exact ⟨plan, hreq, hkey, hk.handleOf hhandle⟩
  | snapshot n handle hget =>
      obtain ⟨plan, hmet, hkey, handle', hget', hplan, hconf⟩ := hc
      obtain rfl := Option.mem_unique hget hget'
      exact h.move hi hk hsame (h.entered_of_eq hk rfl) _
        ⟨plan, ⟨hmet.1.later _, hmet.2⟩, hkey, n, handle, hget, rfl, hconf⟩

/-- **Every step holds on to the plans that were met.** -/
theorem ReuseOk.step {l : ManagerLabel} (h : ReuseOk p past) (hq : managerStep p l = some q) :
    ReuseOk q (past ++ [(p, l)]) := by
  cases l with
  | exit n =>
      obtain rfl := Option.some.inj hq
      exact h.of_keeps (p.shared.keeps_stop n) rfl _
  | waited n now =>
      obtain ⟨m, hm, rfl⟩ := Option.map_eq_some_iff.1 hq
      exact h.of_keeps (Manager.keeps_waited hm) (Manager.grows_waited hm).2.1 _
  | calls l =>
      have hstep : p.step managerMachine l = some q := hq
      cases l with
      | spawn b =>
          obtain ⟨c, hc, rfl⟩ := Pool.step_spawn.1 hstep
          refine ⟨fun key n hn => ?_, fun j d hd => ?_⟩
          · obtain ⟨plan, hreq, hrest⟩ := h.entered key n hn
            exact ⟨plan, hreq.spawn c, hrest⟩
          · rcases getElem?_concat_cases hd with ⟨-, rfl⟩ | hd
            · cases b with
              | ensureAgent req => exact Option.some.inj hc ▸ trivial
              | session req => exact Option.some.inj hc ▸ trivial
            · exact p.shared.keeps_refl.holds (fun _ _ hmet => ⟨hmet.1.later _, hmet.2.spawn c⟩)
                (h.calls j d hd)
      | step i l =>
          obtain ⟨c, m', c', hi, hrun, rfl⟩ := Pool.step_run.1 hstep
          cases c with
          | ensure req pc =>
              obtain ⟨m'', pc', hpc', rfl, rfl⟩ := map_eq_some_pair hrun
              exact h.ensure hi (ensureStep_spec hpc')
          | session req pc =>
              obtain ⟨m'', pc', hpc', rfl, rfl⟩ := map_eq_some_pair hrun
              have hs := sessionStep_spec hpc'
              refine h.move hi hs.keeps ?_ (h.entered_of_eq hs.keeps hs.agents_eq) _ trivial
              rintro req' pc'' ⟨⟩

end

theorem ReuseOk.new (containerID : String) (environ : List String) :
    ReuseOk ⟨newManager containerID environ, []⟩ [] where
  entered key h hk := by simp [newManager] at hk
  calls i c hc := by simp at hc

/-- **An agent is used again for its key only.**  In every run of a new manager, however its
calls overlap, the instance that a call returns was started from the plan that the
lookup of the call met: the plan of the handle entered at that moment, or its own plan
when there was none.  It is the plan of a call of `EnsureAgent`, and its key, the agent
id and the bundle digest, is that of the call. -/
theorem ensureAgent_started_from_found_plan {containerID : String} {environ : List String}
    {p : Pool Manager ManagerCall} {l : List ManagerLabel} {i : ℕ} {req : InstallAgentRequest}
    {inst : AgentInstance}
    (h : exec managerStep ⟨newManager containerID environ, []⟩ l = some p)
    (hi : p.threads[i]? = some (.ensure req (.returned (.ok inst)))) :
    ∃ plan, LookedUp (history managerStep ⟨newManager containerID environ, []⟩ l) i req plan ∧
      Requested p.threads plan ∧ agentKey plan = agentKey req.plan ∧
      StartedFrom p.shared inst plan := by
  have hp : ReuseOk p (history managerStep ⟨newManager containerID environ, []⟩ l) :=
    exec_history_of_step (fun _ _ _ _ hs hq => hs.step hq) (.new containerID environ) h
  obtain ⟨plan, ⟨hmet, hreq⟩, hkey, hfrom⟩ := hp.calls i _ hi
  exact ⟨plan, hmet, hreq, hkey, hfrom⟩

/-- A plan of the agent with this token in its injected environment. -/
def tokenPlan (token : String) : ExecutionPlan :=
  { planOf "echo" "sha256:1" with
    injectionEnv := (∅ : StringMap).insert "TOKEN" token
    session := { workingDir := "/work" } }

def ensureToken (token : String) : ManagerLabel :=
  .calls (.spawn (.ensureAgent { plan := tokenPlan token }))

/-- One call after the other, for one agent and one bundle and with different tokens. -/
def tokensInTurn : List ManagerLabel :=
  [ensureToken "a", callStep 0 .lookup, callStep 0 (.started none "1" 1),
    callStep 0 (.answered (.ok {}) 2), callStep 0 .insert, callStep 0 .snapshot,
    ensureToken "b", callStep 1 .lookup, callStep 1 .snapshot]

/-- `ensureAgent_started_from_found_plan` applies to the second call of `tokensInTurn`. -/
theorem tokensInTurn_started_from_plan :
    ∃ p ∈ exec managerStep ⟨newManager "ctr_1" ["TOKEN=os"], []⟩ tokensInTurn,
      ∃ inst, p.threads[1]? = some (.ensure { plan := tokenPlan "b" } (.returned (.ok inst))) ∧
        ∃ plan, LookedUp (history managerStep ⟨newManager "ctr_1" ["TOKEN=os"], []⟩ tokensInTurn) 1
            { plan := tokenPlan "b" } plan ∧
          Requested p.threads plan ∧ agentKey plan = agentKey (tokenPlan "b") ∧
          StartedFrom p.shared inst plan :=
  ⟨_, rfl, _, rfl, ensureAgent_started_from_found_plan rfl rfl⟩

/-- **An agent is used again with another environment.**  The second call of `tokensInTurn`
returns an instance whose process has the token of the first call, and not the one of its
own plan. -/
theorem reuse_keeps_old_environment :
    ∃ p ∈ exec managerStep ⟨newManager "ctr_1" ["TOKEN=os"], []⟩ tokensInTurn,
      ∃ inst, p.threads[1]? = some (.ensure { plan := tokenPlan "b" } (.returned (.ok inst))) ∧
        ¬StartedFrom p.shared inst (tokenPlan "b") := by
  have hfirst : ∀ p ∈ exec managerStep ⟨newManager "ctr_1" ["TOKEN=os"], []⟩ tokensInTurn,
      p.shared.environ = ["TOKEN=os"] ∧ ∀ handle ∈ p.shared.handles,
        ∀ x ∈ p.shared.processes[handle.cmd]?, x.env.lookup "TOKEN" = some "a" := by
    decide
  refine ⟨_, rfl, _, rfl, ?_⟩
  obtain ⟨hos, htoken⟩ := hfirst _ rfl
  rintro ⟨h, handle, hget, -, -, -, x, hx, henv⟩
  have hx := htoken handle (List.mem_of_getElem? hget) x hx
  rw [henv, hos] at hx
  revert hx
  decide

end Supervisor
end Agentd
