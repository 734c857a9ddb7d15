/-
# Agents that have exited

`EnsureAgent` (`runtime/supervisor/manager.go`) returns the handle that is entered under the key,
and `wait` of a handle does no more than set the state of its instance when the process has
exited: the handle stays entered.  So an agent whose process has exited is handed out again, as
`exited` or, before `wait` has come to it, as `ready`, and no new process is started
(`deadAgent_handed_out`).

`agentsAlive_of_outlives` gives the histories in which this does not happen: the process recorded
under a key runs whenever a call looks the key up, and no process exits between the moment when a
call takes it, by its lookup or by starting it, and the moment when the call reads the state of
the handle.  That nothing else ends a process that a call has taken is `LiveOk`: the processes
that `EnsureAgent` kills itself, when `initialize` fails, are in no handle and in no other call.
-/

import Agentd.Supervisor.EnsureAgent

namespace Agentd
namespace Supervisor

open Control Concurrency

/-- The process runs. -/
def Manager.Runs (m : Manager) (n : ℕ) : Prop := ∃ x ∈ m.processes[n]?, x.running = true

instance (m : Manager) (n : ℕ) : Decidable (m.Runs n) :=
  inferInstanceAs (Decidable (∃ x ∈ m.processes[n]?, x.running = true))

/-- The process that is recorded under the key. -/
def Manager.recorded (m : Manager) (key : String) : Option ℕ :=
  (m.agents.lookup key).bind fun k => m.handles[k]?.map Handle.cmd

/-- The process recorded under the key that a call is about to look up. -/
def ManagerCall.looksUp (m : Manager) : ManagerCall → Option ℕ
  | .ensure req .lookup => m.recorded (agentKey req.plan)
  | _ => none

/-- The process that a call has taken: the one it has started, or that of the handle whose state
it is about to read. -/
def ManagerCall.takes (m : Manager) : ManagerCall → Option ℕ
  | .ensure _ (.clientInitialize _ n) | .ensure _ (.insert _ n) => some n
  | .ensure _ (.snapshot k) => m.handles[k]?.map Handle.cmd
  | _ => none

/-- A process that is looked up runs, and none exits that a call has taken. -/
def Outlives (p : Pool Manager ManagerCall) : ManagerLabel → Prop
  | .calls (.step i .lookup) => ∀ c ∈ p.threads[i]?, ∀ n ∈ c.looksUp p.shared, p.shared.Runs n
  | .exit n => ∀ c ∈ p.threads, c.takes p.shared ≠ some n
  | _ => True

instance (p : Pool Manager ManagerCall) : DecidablePred (Outlives p)
  | .calls (.step i .lookup) =>
      inferInstanceAs (Decidable (∀ c ∈ p.threads[i]?, ∀ n ∈ c.looksUp p.shared, p.shared.Runs n))
  | .exit n => inferInstanceAs (Decidable (∀ c ∈ p.threads, c.takes p.shared ≠ some n))
  | .calls (.step _ (.started _ _ _)) | .calls (.step _ (.answered _ _)) | .calls (.step _ .insert)
  | .calls (.step _ .snapshot) | .calls (.step _ (.agentByID _)) | .calls (.spawn _)
  | .waited _ _ => inferInstanceAs (Decidable True)

/-- Call `i` has read the instance from the handle of process `n`, in this state and after this
past. -/
structure ReadAt (i : ℕ) (req : InstallAgentRequest) (inst : AgentInstance) (n : ℕ)
    (p : Pool Manager ManagerCall) (before past : List (Pool Manager ManagerCall × ManagerLabel)) :
    Prop where
  here : before ++ [(p, .calls (.step i .snapshot))] <+: past
  handle : ∃ h handle, p.threads[i]? = some (.ensure req (.snapshot h)) ∧
    p.shared.handles[h]? = some handle ∧ handle.inst = inst ∧ handle.cmd = n

/-- **No dead agent is handed out.**  The instance that a call of `EnsureAgent` has returned was
ready and its process running when the call read its state; and a lookup leads to the start of a
process exactly when none that runs is recorded under the key. -/
structure AgentsAlive (p : Pool Manager ManagerCall)
    (past : List (Pool Manager ManagerCall × ManagerLabel)) : Prop where
  alive : ∀ (i : ℕ) req inst, p.threads[i]? = some (.ensure req (.returned (.ok inst))) →
    ∃ n q before, ReadAt i req inst n q before past ∧ inst.state = .ready ∧ q.shared.Runs n
  starts : ∀ (i : ℕ) req q q', (q, .calls (.step i .lookup)) ∈ past →
    q.threads[i]? = some (.ensure req .lookup) →
    managerStep q (.calls (.step i .lookup)) = some q' →
    (q'.threads[i]? = some (.ensure req .start) ↔
      ¬ ∃ n ∈ q.shared.recorded (agentKey req.plan), q.shared.Runs n)

/-- What is said of a call: the instance that it enters is ready; and what it has returned was
read from a handle, ready and with its process running. -/
def ManagerCall.Lives (past : List (Pool Manager ManagerCall × ManagerLabel)) (i : ℕ) :
    ManagerCall → Prop
  | .ensure _ (.insert inst _) => inst.state = .ready
  | .ensure req (.returned (.ok inst)) => ∃ n p before, ReadAt i req inst n p before past ∧
      inst.state = .ready ∧ p.shared.Runs n
  | _ => True

/-- The handle is that of a process that was started, and ready as long as that runs. -/
structure Recorded (m : Manager) (handle : Handle) : Prop where
  started : handle.cmd < m.processes.length
  ready : m.Runs handle.cmd → handle.inst.state = .ready

/-- No handle is that of process `n`. -/
def Unrecorded (m : Manager) (n : ℕ) : Prop := ∀ handle ∈ m.handles, handle.cmd ≠ n

/-- A call other than `i` has process `n` in flight. -/
def OthersHold (p : Pool Manager ManagerCall) (i n : ℕ) : Prop :=
  ∃ (j : ℕ) (d : ManagerCall) (key : String), j ≠ i ∧ p.threads[j]? = some d ∧
    d.flight = some (key, n)

/-- The invariant. -/
structure LiveOk (p : Pool Manager ManagerCall)
    (past : List (Pool Manager ManagerCall × ManagerLabel)) : Prop where
  entered : ∀ key k, p.shared.agents.lookup key = some k → k < p.shared.handles.length
  handles : ∀ handle ∈ p.shared.handles, Recorded p.shared handle
  taken : ∀ c ∈ p.threads, ∀ n, c.takes p.shared = some n → p.shared.Runs n
  own : ∀ (i : ℕ) c key n, p.threads[i]? = some c → c.flight = some (key, n) →
    Unrecorded p.shared n ∧ ¬ OthersHold p i n
  calls : ∀ (i : ℕ) c, p.threads[i]? = some c → c.Lives past i

section

variable {p q : Pool Manager ManagerCall}
  {past : List (Pool Manager ManagerCall × ManagerLabel)} {m m' : Manager} {i n : ℕ}

theorem Manager.Runs.lt (h : m.Runs n) : n < m.processes.length := by
  obtain ⟨x, hx, -⟩ := h
  exact (List.getElem?_eq_some_iff.1 hx).1

theorem Manager.length_stop (m : Manager) (k : ℕ) :
    (m.stop k).processes.length = m.processes.length :=
  List.length_modify ..

theorem Manager.runs_stop {k : ℕ} : (m.stop k).Runs n ↔ k ≠ n ∧ m.Runs n := by
  constructor
  · rintro ⟨x, hx, hrun⟩
    obtain ⟨hne, hold⟩ := Manager.running_of_stop hx hrun
    exact ⟨Ne.symm hne, x, hold, hrun⟩
  · rintro ⟨hne, x, hx, hrun⟩
    refine ⟨x, ?_, hrun⟩
    show (m.processes.modify k _)[n]? = some x
    rw [List.getElem?_modify, Option.mem_def.1 hx]
    simp [hne]

theorem Manager.runs_of_eq (hproc : m'.processes = m.processes) : m'.Runs n ↔ m.Runs n := by
  unfold Manager.Runs
  rw [hproc]

/-- A process that runs is among those that were started before the last one. -/
theorem Manager.Runs.append (h : m.Runs n) (xs : List Process) :
    Manager.Runs { m with processes := m.processes ++ xs } n := by
  obtain ⟨x, hx, hrun⟩ := h
  exact ⟨x, getElem?_append_of_some _ hx, hrun⟩

theorem ManagerCall.takes_of_eq (c : ManagerCall)
    (h : m'.handles.map Handle.cmd = m.handles.map Handle.cmd) : c.takes m' = c.takes m := by
  unfold ManagerCall.takes
  split
  · rfl
  · rfl
  · rw [← List.getElem?_map, ← List.getElem?_map, h]
  · rfl

theorem ManagerCall.takes_of_flight {c : ManagerCall} {key : String}
    (h : c.flight = some (key, n)) : c.takes m = some n := by
  unfold ManagerCall.flight at h
  split at h
  · exact congrArg (Option.map Prod.snd) h
  · exact congrArg (Option.map Prod.snd) h
  · cases h

theorem ManagerCall.takes_cases {c : ManagerCall} (h : c.takes m = some n) :
    (∃ key, c.flight = some (key, n)) ∨ ∃ handle ∈ m.handles, handle.cmd = n := by
  unfold ManagerCall.takes at h
  split at h
  · exact Or.inl ⟨_, congrArg (Option.map _) h⟩
  · exact Or.inl ⟨_, congrArg (Option.map _) h⟩
  · obtain ⟨handle, hget, hcmd⟩ := Option.map_eq_some_iff.1 h
    exact Or.inr ⟨handle, List.mem_of_getElem? hget, hcmd⟩
  · cases h

/-- What a call has taken after a handle is entered. -/
theorem ManagerCall.takes_insert {c : ManagerCall} {agents : GoMap String ℕ} {handle : Handle}
    (h : c.takes { m with agents, handles := m.handles ++ [handle] } = some n) :
    c.takes m = some n ∨ n = handle.cmd := by
  unfold ManagerCall.takes at h ⊢
  split at h
  · exact Or.inl h
  · exact Or.inl h
  · obtain ⟨handle', hget, rfl⟩ := Option.map_eq_some_iff.1 h
    rcases getElem?_concat_cases hget with ⟨-, rfl⟩ | hget
    · exact Or.inr rfl
    · exact Or.inl (congrArg (Option.map _) hget)
  · cases h

theorem ManagerCall.Lives.later {c : ManagerCall} (h : c.Lives past i)
    (s : Pool Manager ManagerCall × ManagerLabel) : c.Lives (past ++ [s]) i := by
  unfold ManagerCall.Lives at h ⊢
  split
  · exact h
  · obtain ⟨n, p, before, hread, halive⟩ := h
    exact ⟨n, p, before, ⟨hread.here.trans (List.prefix_append ..), hread.handle⟩, halive⟩
  · trivial

/-- **A call moves.**  The handles are in order after the step, the processes that other calls
have taken or in flight are as before, and so are those of the call itself. -/
theorem LiveOk.move {c' : ManagerCall} (h : LiveOk p past)
    (s : Pool Manager ManagerCall × ManagerLabel)
    (hentered : ∀ key k, m'.agents.lookup key = some k → k < m'.handles.length)
    (hhandles : ∀ handle ∈ m'.handles, Recorded m' handle)
    (htaken : ∀ (j : ℕ) d n, j ≠ i → p.threads[j]? = some d → d.takes m' = some n → m'.Runs n)
    (hfree : ∀ n, OthersHold p i n → Unrecorded p.shared n → Unrecorded m' n)
    (htakes : ∀ n, c'.takes m' = some n → m'.Runs n)
    (hown : ∀ key n, c'.flight = some (key, n) → Unrecorded m' n ∧ ¬ OthersHold p i n)
    (hlives : c'.Lives (past ++ [s]) i) :
    LiveOk { shared := m', threads := p.threads.set i c' } (past ++ [s]) := by
  refine ⟨hentered, hhandles, fun d hd n hn => ?_, fun j d key n hd hflight => ?_,
    fun j d hd => ?_⟩
  · obtain ⟨j, hd⟩ := List.getElem?_of_mem hd
    rcases getElem?_set_cases hd with ⟨rfl, rfl⟩ | ⟨hj, hd⟩
    · exact htakes n hn
    · exact htaken j d n hj hd hn
  · rcases getElem?_set_cases hd with ⟨rfl, rfl⟩ | ⟨hj, hold⟩
    · refine ⟨(hown key n hflight).1, ?_⟩
      rintro ⟨k, e, key', hk, he, hflight'⟩
      rcases getElem?_set_cases he with ⟨rfl, -⟩ | ⟨-, hold'⟩
      · exact hk rfl
      · exact (hown key n hflight).2 ⟨k, e, key', hk, hold', hflight'⟩
    · obtain ⟨hrec, hothers⟩ := h.own j d key n hold hflight
      refine ⟨hfree n ⟨j, d, key, hj, hold, hflight⟩ hrec, ?_⟩
      rintro ⟨k, e, key', hk, he, hflight'⟩
      rcases getElem?_set_cases he with ⟨rfl, rfl⟩ | ⟨-, hold'⟩
      · exact (hown key' n hflight').2 ⟨j, d, key, hj, hold, hflight⟩
      · exact hothers ⟨k, e, key', hk, hold', hflight'⟩
  · rcases getElem?_set_cases hd with ⟨rfl, rfl⟩ | ⟨-, hd⟩
    · exact hlives
    · exact (h.calls j d hd).later s

/-- A call moves and has nothing in flight afterwards; the handles and the processes are as
before. -/
theorem LiveOk.still {c' : ManagerCall} (h : LiveOk p past)
    (s : Pool Manager ManagerCall × ManagerLabel) (hagents : m'.agents = p.shared.agents)
    (hhandles : m'.handles = p.shared.handles) (hproc : m'.processes = p.shared.processes)
    (htakes : ∀ n, c'.takes p.shared = some n → p.shared.Runs n) (hflight : c'.flight = none)
    (hlives : c'.Lives (past ++ [s]) i) :
    LiveOk { shared := m', threads := p.threads.set i c' } (past ++ [s]) := by
  have hsame (d : ManagerCall) : d.takes m' = d.takes p.shared :=
    d.takes_of_eq (congrArg (List.map _) hhandles)
  refine h.move s ?_ (fun handle hmem => ?_) (fun j d n _ hd hn => ?_) (fun n _ hn => ?_)
    (fun n hn => ?_) (fun key n hsome => ?_) hlives
  · rw [hagents, hhandles]
    exact h.entered
  · obtain ⟨hlt, hready⟩ := h.handles handle (hhandles ▸ hmem)
    exact ⟨hproc ▸ hlt, fun hrun => hready ((Manager.runs_of_eq hproc).1 hrun)⟩
  · rw [hsame] at hn
    exact (Manager.runs_of_eq hproc).2 (h.taken d (List.mem_of_getElem? hd) n hn)
  · exact fun handle hmem => hn handle (hhandles ▸ hmem)
  · rw [hsame] at hn
    exact (Manager.runs_of_eq hproc).2 (htakes n hn)
  · rw [hflight] at hsome
    cases hsome

/-- A process is started.  It is in no handle and in no other call, since those were there
before. -/
theorem LiveOk.started (h : LiveOk p past) (req : InstallAgentRequest) (inst : AgentInstance)
    (x : Process) (s : Pool Manager ManagerCall × ManagerLabel) (hx : x.running = true) :
    LiveOk { shared := { p.shared with processes := p.shared.processes ++ [x] }
             threads := p.threads.set i
               (.ensure req (.clientInitialize inst p.shared.processes.length)) } (past ++ [s]) := by
  refine h.move _ h.entered (fun handle hmem => ?_) (fun j d n _ hd hn => ?_)
    (fun n _ hn => hn) (fun n hn => ?_) (fun key n hflight => ?_) trivial
  · obtain ⟨hlt, hready⟩ := h.handles handle hmem
    refine ⟨?_, fun ⟨x, hx, hrun⟩ => hready ⟨x, ?_, hrun⟩⟩
    · show _ < (p.shared.processes ++ [_]).length
      rw [List.length_append]
      omega
    · exact (List.getElem?_append_left hlt).symm.trans hx
  · exact (h.taken d (List.mem_of_getElem? hd) n hn).append _
  · obtain rfl := Option.some.inj hn
    exact ⟨_, List.getElem?_concat_length, hx⟩
  · obtain ⟨-, rfl⟩ := some_pair_inj hflight
    refine ⟨fun handle hmem => Nat.ne_of_lt (h.handles handle hmem).started, ?_⟩
    rintro ⟨j, d, key', -, hd, hflight'⟩
    exact Nat.lt_irrefl _
      (h.taken d (List.mem_of_getElem? hd) _ (ManagerCall.takes_of_flight hflight')).lt

/-- A call enters the handle of the process that it has in flight. -/
theorem LiveOk.inserted {req : InstallAgentRequest} {inst : AgentInstance} {cmd : ℕ}
    (h : LiveOk p past) (hi : p.threads[i]? = some (.ensure req (.insert inst cmd)))
    (s : Pool Manager ManagerCall × ManagerLabel) :
    LiveOk
      { shared := { p.shared with
          agents := p.shared.agents.insert (agentKey req.plan) p.shared.handles.length
          handles := p.shared.handles ++ [{ inst, plan := req.plan, cmd }] }
        threads := p.threads.set i (.ensure req (.snapshot p.shared.handles.length)) }
      (past ++ [s]) := by
  have hrun : p.shared.Runs cmd := h.taken _ (List.mem_of_getElem? hi) cmd rfl
  obtain ⟨-, hothers⟩ := h.own i _ _ cmd hi rfl
  have hready : inst.state = .ready := h.calls i _ hi
  refine h.move _ (fun key k hk => ?_) (fun handle hmem => ?_) (fun j d n _ hd hn => ?_)
    (fun n hhold hn => ?_) (fun n hn => ?_) (fun key n hflight => by cases hflight) trivial
  · rw [List.length_append, List.length_singleton]
    rcases GoMap.lookup_insert_cases hk with ⟨-, rfl⟩ | ⟨-, hk⟩
    · exact Nat.lt_succ_self _
    · exact Nat.lt_succ_of_lt (h.entered key k hk)
  · rcases List.mem_append.1 hmem with hmem | hnew
    · have hold := h.handles handle hmem
      exact ⟨hold.started, hold.ready⟩
    · obtain rfl := List.mem_singleton.1 hnew
      exact ⟨hrun.lt, fun _ => hready⟩
  · rcases ManagerCall.takes_insert hn with hn | rfl
    · exact h.taken d (List.mem_of_getElem? hd) n hn
    · exact hrun
  · intro handle hmem
    rcases List.mem_append.1 hmem with hmem | hnew
    · exact hn handle hmem
    · obtain rfl := List.mem_singleton.1 hnew
      rintro rfl
      exact hothers hhold
  · obtain ⟨handle, hget, rfl⟩ := Option.map_eq_some_iff.1 hn
    rw [List.getElem?_concat_length] at hget
    exact Option.some.inj hget ▸ hrun

/-- **A step of `EnsureAgent`** keeps the processes that calls have taken running. -/
theorem LiveOk.ensure {req : InstallAgentRequest} {pc pc' : EnsurePC} {l : CallLabel}
    (h : LiveOk p past) (hi : p.threads[i]? = some (.ensure req pc))
    (hC : Outlives p (.calls (.step i l))) (hs : EnsureStep p.shared req.plan pc l m' pc') :
    LiveOk { shared := m', threads := p.threads.set i (.ensure req pc') }
      (past ++ [(p, .calls (.step i l))]) := by
  have htakes := h.taken _ (List.mem_of_getElem? hi)
  have hown := fun key n => h.own i _ key n hi
  cases hs with
  | absent | noEntrypoint | notStarted =>
      exact h.still _ rfl rfl rfl (fun n hn => by cases hn) rfl trivial
  | found k hlookup =>
      refine h.still _ rfl rfl rfl (fun n hn => hC _ hi n ?_) rfl trivial
      exact (congrArg (Option.bind · _) hlookup).trans hn
  | snapshot k handle hget =>
      have hrun : p.shared.Runs handle.cmd := htakes _ (congrArg (Option.map _) hget)
      have hready := (h.handles handle (List.mem_of_getElem? hget)).ready hrun
      refine h.still _ rfl rfl rfl (fun n hn => by cases hn) rfl
        ⟨handle.cmd, p, past, ⟨List.prefix_rfl, ?_⟩, hready, hrun⟩
      exact ⟨k, handle, hi, hget, rfl, rfl⟩
  | started command args raw now => exact h.started req _ _ _ rfl
  | refused inst cmd err now =>
      -- the process that is killed is in no handle and in no other call
      obtain ⟨hfree, hothers⟩ := hown _ cmd rfl
      refine h.move _ h.entered (fun handle hmem => ?_) (fun j d n hj hd hn => ?_)
        (fun n _ hn => hn) (fun n hn => by cases hn) (fun key n hflight => by cases hflight) trivial
      · obtain ⟨hlt, hready⟩ := h.handles handle hmem
        exact ⟨p.shared.length_stop cmd ▸ hlt, fun hrun => hready (Manager.runs_stop.1 hrun).2⟩
      · refine Manager.runs_stop.2 ⟨?_, h.taken d (List.mem_of_getElem? hd) n hn⟩
        rintro rfl
        rcases ManagerCall.takes_cases hn with ⟨key, hflight⟩ | ⟨handle, hmem, hcmd⟩
        · exact hothers ⟨j, d, key, hj, hd, hflight⟩
        · exact hfree handle hmem hcmd
  | negotiated inst cmd negotiated now =>
      exact h.move _ h.entered h.handles
        (fun j d n _ hd hn => h.taken d (List.mem_of_getElem? hd) n hn) (fun n _ hn => hn)
        htakes hown rfl
  | inserted inst cmd => exact h.inserted hi _

theorem Manager.waited_not_runs {k : ℕ} {now : Time} (hw : m.waited k now = some m') :
    ∀ handle, m.handles[k]? = some handle → ¬ m.Runs handle.cmd := by
  intro handle hget
  unfold Manager.waited at hw
  rw [hget, Option.bind_some] at hw
  obtain ⟨x, hx, hw⟩ := Option.bind_eq_some_iff.1 hw
  split_ifs at hw with hrunning
  rintro ⟨y, hy, hrun⟩
  obtain rfl := Option.mem_unique hx hy
  exact hrunning hrun

/-- **A process exits** that no call has taken. -/
theorem LiveOk.exit (h : LiveOk p past) {k : ℕ} (hC : Outlives p (.exit k)) :
    LiveOk { p with shared := p.shared.stop k } (past ++ [(p, .exit k)]) where
  entered := h.entered
  handles handle hmem := by
    obtain ⟨hlt, hready⟩ := h.handles handle hmem
    exact ⟨p.shared.length_stop k ▸ hlt, fun hrun => hready (Manager.runs_stop.1 hrun).2⟩
  taken c hc n hn := by
    refine Manager.runs_stop.2 ⟨?_, h.taken c hc n hn⟩
    rintro rfl
    exact hC c hc hn
  own := h.own
  calls j d hd := (h.calls j d hd).later _

/-- **`wait` records the exit of a process.** -/
theorem LiveOk.waited {k : ℕ} {now : Time} (h : LiveOk p past)
    (hw : p.shared.waited k now = some m') :
    LiveOk { p with shared := m' } (past ++ [(p, .waited k now)]) := by
  have hstopped := Manager.waited_not_runs hw
  obtain ⟨handle, hget, rfl⟩ := Manager.waited_eq_some hw
  have hold := h.handles handle (List.mem_of_getElem? hget)
  refine ⟨fun key j hj => ?_, fun handle' hmem => ?_, fun c hc n hn => ?_,
    fun j d key n hd hflight => ?_, fun j d hd => (h.calls j d hd).later _⟩
  · rw [List.length_set]
    exact h.entered key j hj
  · rcases List.mem_or_eq_of_mem_set hmem with hmem | rfl
    · have hold' := h.handles handle' hmem
      exact ⟨hold'.started, hold'.ready⟩
    · exact ⟨hold.started, fun hrun => absurd hrun (hstopped handle hget)⟩
  · refine h.taken c hc n ((c.takes_of_eq ?_).symm.trans hn)
    obtain ⟨hlt, rfl⟩ := List.getElem?_eq_some_iff.1 hget
    rw [List.map_set]
    exact (congrArg _ (List.getElem_map _).symm).trans (List.set_getElem_self (by simpa using hlt))
  · obtain ⟨hfree, hothers⟩ := h.own j d key n hd hflight
    refine ⟨fun handle' hmem => ?_, hothers⟩
    rcases List.mem_or_eq_of_mem_set hmem with hmem | rfl
    · exact hfree handle' hmem
    · exact hfree handle (List.mem_of_getElem? hget)

theorem LiveOk.spawn {b : ManagerRequest} {c : ManagerCall} (h : LiveOk p past)
    (hc : managerMachine.start p.shared b = some c) :
    LiveOk { p with threads := p.threads ++ [c] } (past ++ [(p, .calls (.spawn b))]) := by
  have hnew : c.flight = none ∧ c.takes p.shared = none ∧ ∀ past j, c.Lives past j := by
    cases b with
    | ensureAgent req => exact Option.some.inj hc ▸ ⟨rfl, rfl, fun _ _ => trivial⟩
    | session req => exact Option.some.inj hc ▸ ⟨rfl, rfl, fun _ _ => trivial⟩
  have hold (j : ℕ) (d : ManagerCall) (key : String) (n : ℕ)
      (hd : (p.threads ++ [c])[j]? = some d) (hflight : d.flight = some (key, n)) :
      p.threads[j]? = some d := by
    rcases getElem?_concat_cases hd with ⟨-, rfl⟩ | hd
    · rw [hnew.1] at hflight
      cases hflight
    · exact hd
  refine ⟨h.entered, h.handles, fun d hd n hn => ?_, fun j d key n hd hflight => ?_,
    fun j d hd => ?_⟩
  · rcases List.mem_append.1 hd with hd | hd
    · exact h.taken d hd n hn
    · obtain rfl := List.mem_singleton.1 hd
      rw [hnew.2.1] at hn
      cases hn
  · obtain ⟨hfree, hothers⟩ := h.own j d key n (hold j d key n hd hflight) hflight
    refine ⟨hfree, ?_⟩
    rintro ⟨k, e, key', hk, he, hflight'⟩
    exact hothers ⟨k, e, key', hk, hold k e key' n he hflight', hflight'⟩
  · rcases getElem?_concat_cases hd with ⟨-, rfl⟩ | hd
    · exact hnew.2.2 _ _
    · exact (h.calls j d hd).later _

/-- **Every step keeps the processes that calls have taken running.** -/
theorem LiveOk.step {l : ManagerLabel} (h : LiveOk p past) (hC : Outlives p l)
    (hq : managerStep p l = some q) : LiveOk q (past ++ [(p, l)]) := by
  cases l with
  | exit n =>
      obtain rfl := Option.some.inj hq
      exact h.exit hC
  | waited n now =>
      obtain ⟨m, hm, rfl⟩ := Option.map_eq_some_iff.1 hq
      exact h.waited hm
  | calls l =>
      cases l with
      | spawn b =>
          obtain ⟨c, hc, rfl⟩ := Pool.step_spawn.1 (show p.step managerMachine _ = some q from hq)
          exact h.spawn hc
      | step i l =>
          obtain ⟨c, m', c', hi, rfl, hstep⟩ := managerStep_call hq
          rcases hstep with ⟨req, pc, pc', rfl, rfl, hs⟩ | ⟨req, pc, pc', rfl, rfl, hs⟩
          · exact h.ensure hi hC hs
          · obtain ⟨hagents, hhandles, hproc⟩ : m'.agents = p.shared.agents ∧
                m'.handles = p.shared.handles ∧ m'.processes = p.shared.processes := by
              cases hs <;> exact ⟨rfl, rfl, rfl⟩
            exact h.still _ hagents hhandles hproc (fun n hn => by cases hn) rfl trivial

/-- A lookup, where the process that it finds runs. -/
theorem LiveOk.lookup_starts {req : InstallAgentRequest} (h : LiveOk p past)
    (hC : Outlives p (.calls (.step i .lookup)))
    (hi : p.threads[i]? = some (.ensure req .lookup))
    (hq : managerStep p (.calls (.step i .lookup)) = some q) :
    q.threads[i]? = some (.ensure req .start) ↔
      ¬ ∃ n ∈ p.shared.recorded (agentKey req.plan), p.shared.Runs n := by
  obtain ⟨c, m', c', hc, rfl, hstep⟩ := managerStep_call hq
  obtain rfl := Option.mem_unique hi hc
  rcases hstep with ⟨req', pc, pc', heq, rfl, hs⟩ | ⟨req', pc, pc', heq, -, -⟩
  · cases heq
    rw [getElem?_set_of_some _ hi]
    cases hs with
    | found k hk =>
        obtain ⟨handle, hget⟩ : ∃ handle, p.shared.handles[k]? = some handle :=
          ⟨_, List.getElem?_eq_getElem (h.entered _ k hk)⟩
        have hrec : p.shared.recorded (agentKey req.plan) = some handle.cmd := by
          rw [Manager.recorded, hk, Option.bind_some, hget, Option.map_some]
        exact iff_of_false (fun hstart => by cases hstart)
          (not_not.2 ⟨_, hrec, hC _ hi _ hrec⟩)
    | absent hnone =>
        have hrec : p.shared.recorded (agentKey req.plan) = none := by
          rw [Manager.recorded, hnone, Option.bind_none]
        refine iff_of_true rfl ?_
        rintro ⟨n, hn, -⟩
        cases hrec.symm.trans hn
  · cases heq

end

theorem LiveOk.new (containerID : String) (environ : List String) :
    LiveOk ⟨newManager containerID environ, []⟩ [] where
  entered key k hk := by cases hk
  handles handle hmem := by cases hmem
  taken c hc := by cases hc
  own i c key n hc := by cases hc
  calls i c hc := by cases hc

/-- **When `EnsureAgent` hands out live agents.**  In every run of a new manager, however its calls
overlap, in which the process recorded under a key runs whenever a call looks the key up and no
process exits while a call has it taken, no dead agent is handed out. -/
theorem agentsAlive_of_outlives {containerID : String} {environ : List String}
    {p : Pool Manager ManagerCall} {l : List ManagerLabel}
    (hl : Along managerStep Outlives ⟨newManager containerID environ, []⟩ l)
    (h : exec managerStep ⟨newManager containerID environ, []⟩ l = some p) :
    AgentsAlive p (history managerStep ⟨newManager containerID environ, []⟩ l) := by
  have hlive {l' : List ManagerLabel} {q : Pool Manager ManagerCall}
      (hl' : Along managerStep Outlives ⟨newManager containerID environ, []⟩ l')
      (hq : exec managerStep ⟨newManager containerID environ, []⟩ l' = some q) :=
    exec_invariant_history (fun _ _ _ _ hs hC hq => LiveOk.step hs hC hq)
      (.new containerID environ) hl' hq
  refine ⟨fun i req inst hi => (hlive hl h).calls i _ hi, fun i req q q' hmem hi hq => ?_⟩
  -- the run up to the lookup meets the condition, and so does the lookup
  obtain ⟨before, after, hsplit⟩ := List.append_of_mem hmem
  have hbefore := exec_of_history_eq hsplit
  have hrun := congrArg (List.map Prod.snd) hsplit
  rw [map_snd_history h, List.map_append, List.map_cons] at hrun
  rw [hrun] at hl
  exact (hlive hl.of_append hbefore).lookup_starts (hl.here hbefore) hi hq

/-- An agent is started. -/
def agentStarts : List ManagerLabel :=
  [ensure "echo" "sha256:1", callStep 0 .lookup, callStep 0 (.started none "1" 1),
    callStep 0 (.answered (.ok {}) 2), callStep 0 .insert, callStep 0 .snapshot]

/-- The agent is ensured once more. -/
def agentAgain : List ManagerLabel :=
  [ensure "echo" "sha256:1", callStep 1 .lookup, callStep 1 .snapshot]

/-- An agent that is ensured twice and exits only then is handed out alive, both times. -/
theorem agentAgain_alive : ∃ p ∈ exec managerStep ⟨newManager "ctr_1" [], []⟩
      (agentStarts ++ agentAgain ++ [.exit 0]),
    AgentsAlive p (history managerStep ⟨newManager "ctr_1" [], []⟩
        (agentStarts ++ agentAgain ++ [.exit 0])) ∧
      ∃ inst, p.threads[1]? =
        some (.ensure { plan := planOf "echo" "sha256:1" } (.returned (.ok inst))) :=
  ⟨_, rfl, agentsAlive_of_outlives (by decide +kernel) rfl, _, rfl⟩

/-- **A dead agent is handed out.**  The process of the agent exits between two calls.  The second
one returns the instance, as `ready` while `wait` has not come to it and as `exited` afterwards,
and no second process is started. -/
theorem deadAgent_handed_out :
    (∃ p ∈ exec managerStep ⟨newManager "ctr_1" [], []⟩ (agentStarts ++ .exit 0 :: agentAgain),
      ∃ inst, p.threads[1]? =
          some (.ensure { plan := planOf "echo" "sha256:1" } (.returned (.ok inst))) ∧
        inst.state = .ready ∧ p.shared.processes.map (·.running) = [false]) ∧
    ∃ p ∈ exec managerStep ⟨newManager "ctr_1" [], []⟩
        (agentStarts ++ .exit 0 :: .waited 0 3 :: agentAgain),
      ∃ inst, p.threads[1]? =
          some (.ensure { plan := planOf "echo" "sha256:1" } (.returned (.ok inst))) ∧
        inst.state = .exited ∧ p.shared.processes.map (·.running) = [false] :=
  ⟨⟨_, rfl, _, rfl, rfl, rfl⟩, _, rfl, _, rfl, rfl, rfl⟩

end Supervisor
end Agentd
