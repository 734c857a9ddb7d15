/-
# One process for an agent

`EnsureAgent` looks for a handle under the key of a plan, and when there is none it
starts a process, initializes it and enters its handle.  It does not look again
before it enters the handle, so two calls for one key that overlap start two
processes, and the handle of the second replaces the first: the instance that the
first call has returned is not found any more (`overlappingEnsures_lose_agent`).

A process that is running belongs to the handle under its key or is in flight, that
is in the hands of a call between its start and its insert.  `Flights` keeps the two
apart: while a process for a key is in flight, it is the only one and no handle is
entered under the key.  Under the condition that a process is started only for a key
without a handle and without a process in flight, an insert never replaces a handle,
so the manager only ever grows (`Manager.Grows`), and what was found once is found for
ever (`agentsSafe_of_startsAlone`).
-/

import Agentd.Supervisor.Manager
import Agentd.Concurrency.Lease

namespace Agentd
namespace Supervisor

open Control Concurrency

/-- The process that a call has started and not entered yet, with its key. -/
def ManagerCall.flight : ManagerCall → Option (String × ℕ)
  | .ensure req (.clientInitialize _ cmd) | .ensure req (.insert _ cmd) =>
      some (agentKey req.plan, cmd)
  | _ => none

/-- **The agents of a manager are safe.**  The instance of every `EnsureAgent` that has
returned is found, every session resolves, and no two processes run for one key. -/
structure AgentsSafe (p : Pool Manager ManagerCall) : Prop where
  found : ∀ req inst, .ensure req (.returned (.ok inst)) ∈ p.threads →
    ∃ h, p.shared.agentByID inst.id = .ok h
  resolves : ∀ id sess, p.shared.sessions.get id = some sess →
    ∃ h, p.shared.sessionAgent id = .ok (sess, h)
  once : ∀ (n n' : ℕ) x x', p.shared.processes[n]? = some x → p.shared.processes[n']? = some x' →
    x.running = true → x'.running = true → x.key = x'.key → n = n'

/-- No handle is entered under the key of the call and no call has a process for it in
flight. -/
def Alone (p : Pool Manager ManagerCall) : ManagerCall → Prop
  | .ensure req _ =>
      p.shared.agents.lookup (agentKey req.plan) = none ∧
        ∀ d ∈ p.threads, ∀ f ∈ d.flight, f.1 ≠ agentKey req.plan
  | .session _ _ => True

/-- A call starts a process only when it is alone on its key. -/
def StartsAlone (p : Pool Manager ManagerCall) : ManagerLabel → Prop
  | .calls (.step i (.started none _ _)) => ∀ c ∈ p.threads[i]?, Alone p c
  | _ => True

instance (p : Pool Manager ManagerCall) : DecidablePred (Alone p)
  | .ensure _ _ => inferInstanceAs (Decidable (_ ∧ _))
  | .session _ _ => inferInstanceAs (Decidable True)

instance (p : Pool Manager ManagerCall) : DecidablePred (StartsAlone p)
  | .calls (.step i (.started none _ _)) =>
      inferInstanceAs (Decidable (∀ c ∈ p.threads[i]?, Alone p c))
  | .calls (.step _ (.started (some _) _ _)) | .calls (.step _ .lookup) | .calls (.step _ (.answered _ _)) | .calls (.step _ .insert)
  | .calls (.step _ .snapshot) | .calls (.step _ (.agentByID _)) | .calls (.spawn _)
  | .exit _ | .waited _ _ => inferInstanceAs (Decidable True)

/-- The manager has lost nothing: its entries are as before, and its handles have the
same instances and processes. -/
structure Manager.Grows (m m' : Manager) : Prop where
  agents : ∀ key h, m.agents.lookup key = some h → m'.agents.lookup key = some h
  handles : ∀ (h : ℕ) handle, m.handles[h]? = some handle → ∃ handle', m'.handles[h]? = some handle' ∧
    handle'.inst.id = handle.inst.id ∧ handle'.cmd = handle.cmd

/-- The handle of process `n` is entered under the key. -/
def Manager.Entered (m : Manager) (key : String) (n : ℕ) : Prop :=
  ∃ h handle, m.agents.lookup key = some h ∧ m.handles[h]? = some handle ∧ handle.cmd = n

/-- What a call relies on: a handle it holds is entered, and an instance it names is
known. -/
def ManagerCall.Relies (m : Manager) : ManagerCall → Prop
  | .ensure _ (.snapshot h) => ∃ key, m.agents.lookup key = some h
  | .ensure _ (.returned (.ok inst)) => m.Knows inst.id
  | .session _ (.callAgent h _) => ∃ key, m.agents.lookup key = some h
  | .session _ (.insert sess) => m.Knows sess.agentInstanceID
  | _ => True

/-- The processes in flight, by the number of the call.  Under the key of one of them no
handle is entered and there is no other; and a process that is running is entered or
in flight. -/
structure Flights (m : Manager) (flight : ℕ → Option (String × ℕ)) : Prop where
  absent : ∀ i key n, flight i = some (key, n) → m.agents.lookup key = none
  alone : ∀ i j key n n', flight i = some (key, n) → flight j = some (key, n') → i = j
  owned : ∀ (n : ℕ) x, m.processes[n]? = some x → x.running = true →
    m.Entered x.key n ∨ ∃ i, flight i = some (x.key, n)

/-- The invariant. -/
structure AgentsOk (p : Pool Manager ManagerCall) : Prop where
  entered : ∀ key h, p.shared.agents.lookup key = some h → ∃ handle, p.shared.handles[h]? = some handle
  flights : Flights p.shared (p.view ManagerCall.flight)
  relies : ∀ (i : ℕ) c, p.threads[i]? = some c → c.Relies p.shared
  sessions : ∀ id sess, p.shared.sessions.get id = some sess → p.shared.Knows sess.agentInstanceID

section

variable {m m' : Manager} {flight : ℕ → Option (String × ℕ)} {i n : ℕ} {key : String}

theorem Manager.grows_of_eq (hagents : m'.agents = m.agents) (hhandles : m'.handles = m.handles) :
    m.Grows m' :=
  ⟨fun _ _ h => hagents ▸ h, fun _ handle h => ⟨handle, hhandles ▸ h, rfl, rfl⟩⟩

theorem Manager.Grows.knows (h : m.Grows m') {agentID : String} (hk : m.Knows agentID) :
    m'.Knows agentID := by
  obtain ⟨key, n, handle, hlookup, hget, hid⟩ := hk
  obtain ⟨handle', hget', hid', -⟩ := h.handles n handle hget
  exact ⟨key, n, handle', h.agents key n hlookup, hget', hid'.trans hid⟩

theorem Manager.Grows.entered (h : m.Grows m') (he : m.Entered key n) : m'.Entered key n := by
  obtain ⟨k, handle, hlookup, hget, hcmd⟩ := he
  obtain ⟨handle', hget', -, hcmd'⟩ := h.handles k handle hget
  exact ⟨k, handle', h.agents key k hlookup, hget', hcmd'.trans hcmd⟩

theorem Manager.Grows.relies (h : m.Grows m') {c : ManagerCall} (hc : c.Relies m) :
    c.Relies m' := by
  unfold ManagerCall.Relies at hc ⊢
  split
  · obtain ⟨key, hkey⟩ := hc
    exact ⟨key, h.agents key _ hkey⟩
  · exact h.knows hc
  · obtain ⟨key, hkey⟩ := hc
    exact ⟨key, h.agents key _ hkey⟩
  · exact h.knows hc
  · trivial

theorem Manager.grows_insert (m : Manager) (handle : Handle) (hfree : m.agents.lookup key = none) :
    m.Grows { m with agents := m.agents.insert key m.handles.length
                     handles := m.handles ++ [handle] } where
  agents key' h hlookup := by
    have hne : key' ≠ key := by
      rintro rfl
      rw [hfree] at hlookup
      cases hlookup
    exact (AList.lookup_insert_ne hne).trans hlookup
  handles h handle' hget := by
    refine ⟨handle', ?_, rfl, rfl⟩
    exact getElem?_append_of_some _ hget

/-- A step that changes of the handles only the state of their instances, and no entry. -/
theorem Manager.Keeps.grows (hk : m.Keeps m') (hagents : m'.agents = m.agents) : m.Grows m' where
  agents key h hlookup := hagents ▸ hlookup
  handles h handle hget := by
    obtain ⟨state, now, hget'⟩ := hk.handles h handle hget
    exact ⟨_, hget', rfl, rfl⟩

theorem Manager.grows_waited {h : ℕ} {now : Time} (hw : m.waited h now = some m') :
    m.Grows m' ∧ m'.agents = m.agents ∧ m'.processes = m.processes ∧ m'.sessions = m.sessions := by
  have hk := Manager.keeps_waited hw
  obtain ⟨handle, -, rfl⟩ := Manager.waited_eq_some hw
  exact ⟨hk.grows rfl, rfl, rfl, rfl⟩

/-- A process that runs after one was stopped is another one, and ran before. -/
theorem Manager.running_of_stop {k : ℕ} {x : Process}
    (hx : (m.stop n).processes[k]? = some x) (hrun : x.running = true) :
    k ≠ n ∧ m.processes[k]? = some x := by
  have hmod : (m.processes.modify n fun x => { x with running := false })[k]? = some x := hx
  rw [List.getElem?_modify] at hmod
  obtain ⟨y, hy, hyx⟩ := Option.map_eq_some_iff.1 hmod
  by_cases hk : n = k
  · rw [if_pos hk] at hyx
    subst hyx
    cases hrun
  · rw [if_neg hk] at hyx
    exact ⟨Ne.symm hk, hyx ▸ hy⟩

/-- A change of the manager that leaves the entries and the processes alone. -/
theorem Flights.of_grows (h : Flights m flight) (hgrow : m.Grows m') (hagents : m'.agents = m.agents)
    (hproc : m'.processes = m.processes) : Flights m' flight where
  absent j key' n' hj := by
    rw [hagents]
    exact h.absent j key' n' hj
  alone := h.alone
  owned k x hx hrun := by
    rw [hproc] at hx
    rcases h.owned k x hx hrun with hent | hfl
    · exact Or.inl (hgrow.entered hent)
    · exact Or.inr hfl

theorem Flights.stop (h : Flights m flight) (n : ℕ) : Flights (m.stop n) flight where
  absent := h.absent
  alone := h.alone
  owned k x hx hrun := h.owned k x (Manager.running_of_stop hx hrun).2 hrun

theorem Flights.fail (h : Flights m flight) (hi : flight i = some (key, n)) :
    Flights (m.stop n) (Function.update flight i none) := by
  refine ⟨fun j key' n' hj => h.absent j key' n' (update_none_eq_some hj).2,
    fun j j' key' n' n'' hj hj' =>
      h.alone j j' key' n' n'' (update_none_eq_some hj).2 (update_none_eq_some hj').2,
    fun k x hx hrun => ?_⟩
  obtain ⟨hkn, hx⟩ := Manager.running_of_stop hx hrun
  rcases h.owned k x hx hrun with hent | ⟨j, hj⟩
  · exact Or.inl hent
  · have hji : j ≠ i := by
      rintro rfl
      rw [hi] at hj
      exact hkn (some_pair_inj hj).2.symm
    exact Or.inr ⟨j, by rw [Function.update_of_ne hji, hj]⟩

/-- A call that is alone on a key starts a process for it. -/
theorem Flights.start (h : Flights m flight) (hi : flight i = none)
    (hfree : m.agents.lookup key = none) (halone : ∀ j n', flight j ≠ some (key, n')) {x : Process}
    (hx : x.key = key) :
    Flights { m with processes := m.processes ++ [x] }
      (Function.update flight i (some (key, m.processes.length))) := by
  have hnew : ∀ {j key' n'},
      Function.update flight i (some (key, m.processes.length)) j = some (key', n') →
        j = i ∧ key' = key ∨ j ≠ i ∧ key' ≠ key ∧ flight j = some (key', n') := by
    intro j key' n' hj
    rcases update_some_eq_some hj with ⟨hji, heq⟩ | ⟨hji, hj⟩
    · exact Or.inl ⟨hji, (Prod.mk.inj heq).1⟩
    · exact Or.inr ⟨hji, fun hk => halone j n' (hk ▸ hj), hj⟩
  refine ⟨fun j key' n' hj => ?_, fun j j' key' n' n'' hj hj' => ?_, fun k y hy hrun => ?_⟩
  · rcases hnew hj with ⟨-, rfl⟩ | ⟨-, -, hj⟩
    · exact hfree
    · exact h.absent j key' n' hj
  · rcases hnew hj with ⟨rfl, hk⟩ | ⟨-, hk, hj⟩
    · rcases hnew hj' with ⟨rfl, -⟩ | ⟨-, hk', -⟩
      · rfl
      · exact absurd hk hk'
    · rcases hnew hj' with ⟨-, hk'⟩ | ⟨-, -, hj'⟩
      · exact absurd hk' hk
      · exact h.alone j j' key' n' n'' hj hj'
  · rcases getElem?_concat_cases hy with ⟨rfl, rfl⟩ | hy
    · exact Or.inr ⟨i, by rw [Function.update_self, hx]⟩
    · rcases h.owned k y hy hrun with hent | ⟨j, hj⟩
      · exact Or.inl hent
      · have hji : j ≠ i := by
          rintro rfl
          rw [hi] at hj
          cases hj
        exact Or.inr ⟨j, by rw [Function.update_of_ne hji, hj]⟩

theorem Flights.insert (h : Flights m flight) (hi : flight i = some (key, n)) {handle : Handle}
    (hcmd : handle.cmd = n) :
    Flights { m with agents := m.agents.insert key m.handles.length
                     handles := m.handles ++ [handle] } (Function.update flight i none) := by
  refine ⟨fun j key' n' hj => ?_,
    fun j j' key' n' n'' hj hj' =>
      h.alone j j' key' n' n'' (update_none_eq_some hj).2 (update_none_eq_some hj').2,
    fun k x hx hrun => ?_⟩
  · obtain ⟨hji, hj⟩ := update_none_eq_some hj
    have hne : key' ≠ key := by
      rintro rfl
      exact hji (h.alone j i key' n' n hj hi)
    exact (AList.lookup_insert_ne hne).trans (h.absent j key' n' hj)
  · rcases h.owned k x hx hrun with hent | ⟨j, hj⟩
    · exact Or.inl ((m.grows_insert handle (h.absent i key n hi)).entered hent)
    · by_cases hji : j = i
      · -- the process that is entered now
        subst hji
        obtain ⟨rfl, rfl⟩ := Prod.mk.inj (Option.mem_unique hi hj)
        exact Or.inl ⟨m.handles.length, handle, AList.lookup_insert _,
          List.getElem?_concat_length, hcmd⟩
      · exact Or.inr ⟨j, by rw [Function.update_of_ne hji, hj]⟩

end

section

variable {p q : Pool Manager ManagerCall} {i : ℕ} {l : CallLabel} {m' : Manager}

/-- A call moves and the manager grows: what the other calls rely on is still there. -/
theorem AgentsOk.move {c c' : ManagerCall} (h : AgentsOk p) (hi : p.threads[i]? = some c)
    (hgrow : p.shared.Grows m')
    (hent : ∀ key h, m'.agents.lookup key = some h → ∃ handle, m'.handles[h]? = some handle)
    (hfl : Flights m' (Function.update (p.view ManagerCall.flight) i c'.flight))
    (hrel : c'.Relies m')
    (hsess : ∀ id sess, m'.sessions.get id = some sess → m'.Knows sess.agentInstanceID) :
    AgentsOk { shared := m', threads := p.threads.set i c' } := by
  refine ⟨hent, ?_, fun j d hd => ?_, hsess⟩
  · rw [Pool.view_set m' hi]
    exact hfl
  · rcases getElem?_set_cases hd with ⟨-, rfl⟩ | ⟨-, hd⟩
    · exact hrel
    · exact hgrow.relies (h.relies j d hd)

/-- A call moves, with its process if it has one in flight, and the manager is as it
was. -/
theorem AgentsOk.keep {c c' : ManagerCall} (h : AgentsOk p) (hi : p.threads[i]? = some c)
    (hflight : c'.flight = c.flight) (hrel : c'.Relies p.shared) :
    AgentsOk { shared := p.shared, threads := p.threads.set i c' } := by
  have hview : p.view ManagerCall.flight i = c.flight := Pool.view_eq hi
  refine h.move hi (Manager.grows_of_eq rfl rfl) h.entered ?_ hrel h.sessions
  rw [hflight, ← hview, Function.update_eq_self]
  exact h.flights

/-- **A step of `EnsureAgent`** keeps the agents in order, when it starts no process unless
it is alone on its key. -/
theorem AgentsOk.ensure {req : InstallAgentRequest} {pc pc' : EnsurePC} (h : AgentsOk p)
    (hi : p.threads[i]? = some (.ensure req pc)) (hC : StartsAlone p (.calls (.step i l)))
    (hs : EnsureStep p.shared req.plan pc l m' pc') :
    AgentsOk { shared := m', threads := p.threads.set i (.ensure req pc') } := by
  have hview := Pool.view_eq (f := ManagerCall.flight) hi
  cases hs with
  | found n hn => exact h.keep hi rfl ⟨agentKey req.plan, hn⟩
  | absent | noEntrypoint | notStarted | negotiated => exact h.keep hi rfl trivial
  | snapshot n handle hget =>
      obtain ⟨key, hkey⟩ := h.relies i _ hi
      exact h.keep hi rfl ⟨key, n, handle, hkey, hget, rfl⟩
  | started command args raw now =>
      obtain ⟨hfree, halone⟩ := hC _ hi
      refine h.move hi (Manager.grows_of_eq rfl rfl) h.entered ?_ trivial h.sessions
      refine h.flights.start hview hfree (fun j n hj => ?_) rfl
      obtain ⟨d, hd, hfl⟩ := Option.bind_eq_some_iff.1 hj
      exact halone d (List.mem_of_getElem? hd) _ hfl rfl
  | refused inst cmd err now =>
      refine h.move hi (Manager.grows_of_eq rfl rfl) h.entered ?_ trivial h.sessions
      exact h.flights.fail hview
  | inserted inst cmd =>
      have hfree := h.flights.absent i _ _ hview
      have hgrow := p.shared.grows_insert { inst, plan := req.plan, cmd } hfree
      refine h.move hi hgrow (fun key n hn => ?_) (h.flights.insert hview rfl)
        ⟨agentKey req.plan, AList.lookup_insert _⟩
        fun id sess hget => hgrow.knows (h.sessions id sess hget)
      rcases GoMap.lookup_insert_cases hn with ⟨-, rfl⟩ | ⟨-, hn⟩
      · exact ⟨_, List.getElem?_concat_length⟩
      · obtain ⟨handle, hget⟩ := h.entered key n hn
        obtain ⟨handle', hget', -⟩ := hgrow.handles n handle hget
        exact ⟨handle', hget'⟩

/-- **A step of `CreateSession` or `LoadSession`** enters only sessions of agents that are
known. -/
theorem AgentsOk.session {req : SessionRequest} {pc pc' : SessionPC} (h : AgentsOk p)
    (hi : p.threads[i]? = some (.session req pc)) (hs : SessionStep p.shared req pc l m' pc') :
    AgentsOk { shared := m', threads := p.threads.set i (.session req pc') } := by
  cases hs with
  | notFound | refused => exact h.keep hi rfl trivial
  | found n raw hfound =>
      obtain ⟨key, handle, hkey, -⟩ := Manager.agentByID_eq_ok hfound
      exact h.keep hi rfl ⟨key, hkey⟩
  | accepted n sessionID handle hget negotiated now =>
      obtain ⟨key, hkey⟩ := h.relies i _ hi
      exact h.keep hi rfl ⟨key, n, handle, hkey, hget, rfl⟩
  | inserted sess =>
      have hknown : p.shared.Knows sess.agentInstanceID := h.relies i _ hi
      have hgrow : p.shared.Grows { p.shared with sessions := p.shared.sessions.upsert sess } :=
        Manager.grows_of_eq rfl rfl
      refine h.move hi hgrow h.entered ?_ trivial fun id sess' hget => ?_
      · have hview : p.view ManagerCall.flight i = none := Pool.view_eq hi
        rw [show ManagerCall.flight (.session req (.returned (.ok sess))) = none from rfl,
          ← hview, Function.update_eq_self]
        exact h.flights.of_grows hgrow rfl rfl
      · have hrow : (p.shared.sessions.upsert sess).get id = some sess' := hget
        rw [Table.get_upsert] at hrow
        split_ifs at hrow
        · exact Option.some.inj hrow ▸ hgrow.knows hknown
        · exact hgrow.knows (h.sessions id sess' hrow)

/-- **A step that starts no process beside another keeps the agents in order.** -/
theorem AgentsOk.step {l : ManagerLabel} (h : AgentsOk p) (hC : StartsAlone p l)
    (hq : managerStep p l = some q) : AgentsOk q := by
  cases l with
  | exit n =>
      obtain rfl := Option.some.inj hq
      exact ⟨h.entered, h.flights.stop n, h.relies, h.sessions⟩
  | waited n now =>
      obtain ⟨m, hm, rfl⟩ := Option.map_eq_some_iff.1 hq
      obtain ⟨hgrow, hagents, hproc, hsess⟩ := Manager.grows_waited hm
      refine ⟨fun key k hk => ?_, h.flights.of_grows hgrow hagents hproc,
        fun j c hc => hgrow.relies (h.relies j c hc), fun id sess hget => ?_⟩
      · have hk' : p.shared.agents.lookup key = some k := hagents ▸ hk
        obtain ⟨handle, hget⟩ := h.entered key k hk'
        obtain ⟨handle', hget', -⟩ := hgrow.handles k handle hget
        exact ⟨handle', hget'⟩
      · exact hgrow.knows (h.sessions id sess (hsess ▸ hget))
  | calls l =>
      have hstep : p.step managerMachine l = some q := hq
      cases l with
      | spawn b =>
          obtain ⟨c, hc, rfl⟩ := Pool.step_spawn.1 hstep
          have hnew : c.flight = none ∧ c.Relies p.shared := by
            cases b with
            | ensureAgent req => exact Option.some.inj hc ▸ ⟨rfl, trivial⟩
            | session req => exact Option.some.inj hc ▸ ⟨rfl, trivial⟩
          refine ⟨h.entered, ?_, fun j d hd => ?_, h.sessions⟩
          · rw [Pool.view_spawn p hnew.1]
            exact h.flights
          · rcases getElem?_concat_cases hd with ⟨-, rfl⟩ | hd
            · exact hnew.2
            · exact h.relies j d hd
      | step i l =>
          obtain ⟨c, m', c', hi, hrun, rfl⟩ := Pool.step_run.1 hstep
          cases c with
          | ensure req pc =>
              obtain ⟨m'', pc', hpc', rfl, rfl⟩ := map_eq_some_pair hrun
              exact h.ensure hi hC (ensureStep_spec hpc')
          | session req pc =>
              obtain ⟨m'', pc', hpc', rfl, rfl⟩ := map_eq_some_pair hrun
              exact h.session hi (sessionStep_spec hpc')

theorem AgentsOk.safe (h : AgentsOk p) : AgentsSafe p where
  found req inst hmem := by
    obtain ⟨i, hi⟩ := List.mem_iff_getElem?.1 hmem
    exact (h.relies i _ hi).found
  resolves id sess hget := by
    obtain ⟨n, hn⟩ := (h.sessions id sess hget).found
    refine ⟨n, ?_⟩
    rw [Manager.sessionAgent, hget]
    show (p.shared.agentByID sess.agentInstanceID).map _ = _
    rw [hn]
    rfl
  once n n' x x' hx hx' hrun hrun' hkey := by
    rcases h.flights.owned n x hx hrun with ⟨k, handle, hk, hget, hcmd⟩ | ⟨i, hi⟩
    · rcases h.flights.owned n' x' hx' hrun' with ⟨k', handle', hk', hget', hcmd'⟩ | ⟨j, hj⟩
      · rw [hkey, hk'] at hk
        obtain rfl := Option.some.inj hk
        obtain rfl := Option.mem_unique hget hget'
        exact hcmd.symm.trans hcmd'
      · rw [hkey, h.flights.absent j _ _ hj] at hk
        cases hk
    · rcases h.flights.owned n' x' hx' hrun' with ⟨k', handle', hk', -⟩ | ⟨j, hj⟩
      · rw [← hkey, h.flights.absent i _ _ hi] at hk'
        cases hk'
      · rw [hkey] at hi
        obtain rfl := h.flights.alone i j _ _ _ hi hj
        exact (Prod.mk.inj (Option.mem_unique hi hj)).2

end

theorem AgentsOk.new (containerID : String) (environ : List String) :
    AgentsOk ⟨newManager containerID environ, []⟩ where
  entered key h hk := by simp [newManager] at hk
  flights :=
    { absent := fun i key n hi => by cases hi
      alone := fun i j key n n' hi => by cases hi
      owned := fun n x hx => by simp [newManager] at hx }
  relies i c hc := by simp at hc
  sessions id sess hget := by simp [newManager, Table.get, Table.empty] at hget

/-- **Starts in turn keep the agents safe.**  In every run of a new manager along which
`EnsureAgent` starts a process only for a key without a handle and without a process in
flight, every instance that was returned is found, every session resolves and at most
one process runs for a key, in the state reached. -/
theorem agentsSafe_of_startsAlone {containerID : String} {environ : List String}
    {p : Pool Manager ManagerCall} {l : List ManagerLabel}
    (hl : Along managerStep StartsAlone ⟨newManager containerID environ, []⟩ l)
    (h : exec managerStep ⟨newManager containerID environ, []⟩ l = some p) : AgentsSafe p := by
  have hp : AgentsOk p :=
    exec_invariant (fun _ _ _ hs hC hq => hs.step hC hq) (.new containerID environ) hl h
  exact hp.safe

/-- The plan of an agent whose bundle has an entrypoint. -/
def planOf (agentID digest : String) : ExecutionPlan :=
  { agent := { id := agentID }, bundle := { digest, entrypoint := ["agent"] } }

def ensure (agentID digest : String) : ManagerLabel :=
  .calls (.spawn (.ensureAgent { plan := planOf agentID digest }))

def callStep (i : ℕ) (l : CallLabel) : ManagerLabel := .calls (.step i l)

/-- Two agents at a time, of which one fails to initialize; a session; the exit of the
agent; and a second call that finds its handle. -/
def ensuresInTurn : List ManagerLabel :=
  [ensure "echo" "sha256:1", ensure "claude" "sha256:2", callStep 0 .lookup, callStep 1 .lookup,
    callStep 0 (.started none "1" 1), callStep 1 (.started none "2" 1),
    callStep 1 (.answered (.error "acp subprocess exited") 2), callStep 0 (.answered (.ok {}) 2),
    callStep 0 .insert, callStep 0 .snapshot,
    .calls (.spawn (.session (.create { agentInstanceID := "agent_1" }))),
    callStep 2 (.agentByID "1"), callStep 2 (.answered (.ok {}) 3), callStep 2 .insert,
    .exit 0, .waited 0 4, ensure "echo" "sha256:1", callStep 3 .lookup, callStep 3 .snapshot]

/-- `agentsSafe_of_startsAlone` applies to starts in turn. -/
theorem ensuresInTurn_safe :
    ∃ p ∈ exec managerStep ⟨newManager "ctr_1" ["PATH=/bin"], []⟩ ensuresInTurn, AgentsSafe p := by
  obtain ⟨p, hp⟩ := Option.isSome_iff_exists.1 (show (exec managerStep
    ⟨newManager "ctr_1" ["PATH=/bin"], []⟩ ensuresInTurn).isSome = true by decide)
  exact ⟨p, hp, agentsSafe_of_startsAlone (by decide) hp⟩

/-- Two calls for one key that look it up before either has entered its handle; a session
of the instance that the first returns. -/
def overlappingEnsures : List ManagerLabel :=
  [ensure "echo" "sha256:1", ensure "echo" "sha256:1", callStep 0 .lookup, callStep 1 .lookup,
    callStep 0 (.started none "1" 1), callStep 1 (.started none "2" 1),
    callStep 0 (.answered (.ok {}) 2), callStep 0 .insert, callStep 0 .snapshot,
    .calls (.spawn (.session (.create { agentInstanceID := "agent_1" }))),
    callStep 2 (.agentByID "1"), callStep 2 (.answered (.ok {}) 3), callStep 2 .insert,
    callStep 1 (.answered (.ok {}) 4), callStep 1 .insert, callStep 1 .snapshot]

/-- **Calls for one key that overlap lose an agent.**  Two processes run for the key; the
instance of the first call, `agent_1`, is not found any more; and its session, which is
entered, does not resolve. -/
theorem overlappingEnsures_lose_agent :
    ∃ p ∈ exec managerStep ⟨newManager "ctr_1" [], []⟩ overlappingEnsures,
      ¬AgentsSafe p ∧ (p.shared.agentByID "agent_1").isOk = false ∧
        (p.shared.sessions.get "sess_1").isSome = true ∧
        (p.shared.sessionAgent "sess_1").isOk = false := by
  obtain ⟨p, hp, ⟨x, hx, x', hx', hrun, hrun', hkey⟩, hlost⟩ :
      ∃ p ∈ exec managerStep ⟨newManager "ctr_1" [], []⟩ overlappingEnsures,
        (∃ x ∈ p.shared.processes[0]?, ∃ x' ∈ p.shared.processes[1]?, x.running = true ∧
          x'.running = true ∧ x.key = x'.key) ∧
        (p.shared.agentByID "agent_1").isOk = false ∧
        (p.shared.sessions.get "sess_1").isSome = true ∧
        (p.shared.sessionAgent "sess_1").isOk = false := by
    decide
  refine ⟨p, hp, fun hsafe => ?_, hlost⟩
  cases hsafe.once 0 1 x x' hx hx' hrun hrun' hkey

end Supervisor
end Agentd
