/-
# Agents and sessions made again

`EnsureAgent`, `CreateSession` and `Prompt`, repeated after a write that failed.  A second
`EnsureAgent` finds the agent that the first has started and returns it.  A second
`CreateSession` that names its session enters it over the first.  Without an id every attempt
enters a session of its own, and every attempt of a `Prompt` sends the prompt to the agent.
-/

import Agentd.Workflows.RetriedContainers

namespace Agentd
namespace Workflows

open Control Store NodeRuntime Supervisor Concurrency

/-- The instance is that of the handle entered for the plan. -/
def Holds (m : Manager) (plan : ExecutionPlan) (inst : AgentInstance) : Prop :=
  ∃ h handle, m.agents.lookup (agentKey plan) = some h ∧ m.handles[h]? = some handle ∧
    handle.inst = inst

/-- What `EnsureAgent` has found or entered by now is there. -/
def HoldsAt (m : Manager) (plan : ExecutionPlan) : EnsurePC → Prop
  | .snapshot h => m.agents.lookup (agentKey plan) = some h
  | .returned (.ok inst) => Holds m plan inst
  | _ => True

section

variable {req : InstallAgentRequest} {m m' : Manager} {ls : List CallLabel} {pc : EnsurePC}
  {inst : AgentInstance}

theorem serve_holds (h : exec serveStep (m, .ensure req .lookup) ls =
    some (m', .ensure req (.returned (.ok inst)))) : Holds m' req.plan inst := by
  have hinv := exec_invariant_of_step (I := fun t : Manager × ManagerCall =>
    ∃ pc, t.2 = .ensure req pc ∧ HoldsAt t.1 req.plan pc) ?_ ⟨.lookup, rfl, trivial⟩ h
  · obtain ⟨pc, heq, hpc⟩ := hinv
    obtain ⟨-, rfl⟩ := ManagerCall.ensure.inj heq
    exact hpc
  · rintro ⟨m₁, c₁⟩ l ⟨m₂, c₂⟩ ⟨pc, rfl, hpc⟩ hstep
    rcases serveStep_spec hstep with ⟨req', pc', pc'', heq, rfl, hs⟩ | ⟨_, _, _, heq, -⟩
    · obtain ⟨rfl, rfl⟩ := ManagerCall.ensure.inj heq
      refine ⟨pc'', rfl, ?_⟩
      cases hs with
      | found h hlookup => exact hlookup
      | inserted inst cmd => exact AList.lookup_insert _
      | snapshot h handle hget => exact ⟨h, handle, hpc, hget, rfl⟩
      | absent | noEntrypoint | notStarted | started | refused | negotiated => trivial
    · cases heq

/-- **`EnsureAgent` of an agent that is entered** changes nothing and returns its instance. -/
theorem serve_held (hm : Holds m req.plan inst)
    (h : exec serveStep (m, .ensure req .lookup) ls = some (m', .ensure req pc)) :
    m' = m ∧ (pc = .lookup ∨ (∃ h, pc = .snapshot h) ∨ pc = .returned (.ok inst)) := by
  obtain ⟨h₀, handle, hlookup, hget, rfl⟩ := hm
  have hinv := exec_invariant_of_step (I := fun t : Manager × ManagerCall =>
    t.1 = m ∧ ∃ pc, t.2 = .ensure req pc ∧
      (pc = .lookup ∨ pc = .snapshot h₀ ∨ pc = .returned (.ok handle.inst)))
    ?_ ⟨rfl, .lookup, rfl, Or.inl rfl⟩ h
  · obtain ⟨hm', pc', heq, hpc⟩ := hinv
    obtain ⟨-, rfl⟩ := ManagerCall.ensure.inj heq
    refine ⟨hm', hpc.imp_right (Or.imp_left fun h => ⟨h₀, h⟩)⟩
  · rintro ⟨m₁, c₁⟩ l ⟨m₂, c₂⟩ ⟨rfl, pc, rfl, hpc⟩ hstep
    rcases serveStep_spec hstep with ⟨req', pc', pc'', heq, rfl, hs⟩ | ⟨_, _, _, heq, -⟩
    · obtain ⟨rfl, rfl⟩ := ManagerCall.ensure.inj heq
      rcases hpc with rfl | rfl | rfl
      · cases hs with
        | found h hlookup' =>
            obtain rfl := Option.mem_unique hlookup hlookup'
            exact ⟨rfl, _, rfl, Or.inr (Or.inl rfl)⟩
        | absent hlookup' => exact absurd (hlookup.symm.trans hlookup') nofun
      · cases hs with
        | snapshot h handle' hget' =>
            obtain rfl := Option.mem_unique hget hget'
            exact ⟨rfl, _, rfl, Or.inr (Or.inr rfl)⟩
      · cases hs
    · cases heq

end

section

variable {req : SessionRequest} {m m' : Manager} {ls : List CallLabel} {sess : Session}

theorem serve_session_cons {pc : SessionPC} {l : CallLabel} {t : Manager × ManagerCall}
    (h : exec serveStep (m, .session req pc) (l :: ls) = some t) :
    ∃ m₁ pc₁, SessionStep m req pc l m₁ pc₁ ∧ exec serveStep (m₁, .session req pc₁) ls = some t := by
  obtain ⟨⟨m₁, c₁⟩, hstep, hrest⟩ := exec_cons_eq_some.1 h
  rcases serveStep_spec hstep with ⟨_, _, _, heq, -⟩ | ⟨_, _, pc₁, heq, rfl, hs⟩
  · cases heq
  · obtain ⟨rfl, rfl⟩ := ManagerCall.session.inj heq
    exact ⟨m₁, pc₁, hs, hrest⟩

theorem serve_session_returned {res : Except Err Session} {t : Manager × ManagerCall}
    (h : exec serveStep (m, .session req (.returned res)) ls = some t) :
    ls = [] ∧ t = (m, .session req (.returned res)) := by
  cases ls with
  | nil => exact ⟨rfl, (Option.some.inj h).symm⟩
  | cons l ls =>
      obtain ⟨m₁, pc₁, hs, -⟩ := serve_session_cons h
      cases hs

/-- **The steps of a call for a session that succeeds.** -/
theorem serve_created (h : exec serveStep (m, .session req .agentByID) ls =
    some (m', .session req (.returned (.ok sess)))) :
    ∃ raw negotiated now h handle, ls = [.agentByID raw, .answered (.ok negotiated) now, .insert] ∧
      m.agentByID req.agentInstanceID = .ok h ∧ m.handles[h]? = some handle ∧
      sess = newSession m req handle (req.sessionID raw) negotiated now ∧
      m' = { m with sessions := m.sessions.upsert sess } := by
  rcases ls with - | ⟨l₁, ls⟩
  · cases h
  obtain ⟨m₁, pc₁, hs₁, h⟩ := serve_session_cons h
  cases hs₁ with
  | notFound => cases (serve_session_returned h).2
  | found hd raw hfound =>
      rcases ls with - | ⟨l₂, ls⟩
      · cases h
      obtain ⟨m₂, pc₂, hs₂, h⟩ := serve_session_cons h
      cases hs₂ with
      | refused => cases (serve_session_returned h).2
      | accepted _ _ handle hget negotiated now =>
          rcases ls with - | ⟨l₃, ls⟩
          · cases h
          obtain ⟨m₃, pc₃, hs₃, h⟩ := serve_session_cons h
          cases hs₃ with
          | inserted =>
              obtain ⟨rfl, heq⟩ := serve_session_returned h
              obtain ⟨rfl, heq⟩ := Prod.mk.inj heq
              cases heq
              exact ⟨raw, negotiated, now, hd, handle, rfl, hfound, hget, rfl, rfl⟩

/-- The steps of a call for a session whose agent is entered. -/
theorem serve_creates {h : ℕ} {handle : Handle} (hfound : m.agentByID req.agentInstanceID = .ok h)
    (hget : m.handles[h]? = some handle) (raw : String) (negotiated : ACPNegotiation) (now : Time) :
    exec serveStep (m, .session req .agentByID)
        [.agentByID raw, .answered (.ok negotiated) now, .insert] =
      some ({ m with
          sessions := m.sessions.upsert (newSession m req handle (req.sessionID raw) negotiated now) },
        .session req (.returned
          (.ok (newSession m req handle (req.sessionID raw) negotiated now)))) := by
  simp only [exec, serveStep, managerMachine, sessionStep, hfound, hget, Option.map_some,
    Option.bind_some]

/-- A call for a session whose agent is entered is not refused, when the agent accepts. -/
theorem serve_not_refused {h : ℕ} {c : ManagerCall}
    (hfound : m.agentByID req.agentInstanceID = .ok h) (hclean : ∀ l ∈ ls, CleanCall l)
    (hrun : exec serveStep (m, .session req .agentByID) ls = some (m', c)) : ¬ Refused c := by
  rcases ls with - | ⟨l₁, ls⟩
  · obtain ⟨-, rfl⟩ := some_pair_inj hrun
    exact id
  obtain ⟨m₁, pc₁, hs₁, hrun⟩ := serve_session_cons hrun
  have hls := (List.forall_mem_cons.1 hclean).2
  refine (exec_invariant (I := fun t : Manager × ManagerCall =>
    ¬ Refused t.2 ∧ ∃ pc, t.2 = .session req pc ∧ pc ≠ .agentByID)
    (C := fun _ l => CleanCall l) ?_ ?_ (along_of_forall hls) hrun).1
  · rintro ⟨m₂, c₂⟩ l ⟨m₃, c₃⟩ ⟨-, pc, rfl, hpc⟩ hl hstep
    rcases serveStep_spec hstep with ⟨_, _, _, heq, -⟩ | ⟨_, _, pc', heq, rfl, hs⟩
    · cases heq
    · obtain ⟨rfl, rfl⟩ := ManagerCall.session.inj heq
      cases hs with
      | notFound | found => exact (hpc rfl).elim
      | refused =>
          obtain ⟨_, heq⟩ := hl
          cases heq
      | accepted | inserted => exact ⟨id, _, rfl, nofun⟩
  · cases hs₁ with
    | notFound err raw herr => exact absurd (hfound.symm.trans herr) nofun
    | found => exact ⟨id, _, rfl, nofun⟩

end

section

variable {s s₁ t₀ : Site} {req : Request} {c : Container} {k : String} {x x' : Activity}
  {r : ManagerRequest} {hd : ContainerHandle} {sup : Pool Manager ManagerCall}
  {m m' : Manager} {call call' : ManagerCall} {reply : Reply} {P : CallLabel → Prop}

theorem CleanRun.asked (hasks : Asks req c k x r)
    (hrow : s.world.store.containers.get (containerOf r) = some c)
    (hnode : s.world.node c.nodeID = .ok k) : CleanRun s req (s, { activity := x }) := by
  cases hasks with
  | ensureAgent q c k =>
      have hcn : s.world.containerNode .ok q.containerID = .ok (c, k) :=
        World.containerNode_ok (a := {}) rfl hrow hnode
      have hread : (Activity.container (.ensureAgent (.containerNode q))).step s.world {} =
          some (s.world, .container (.ensureAgent (.nodeEnsureAgent q c k))) := by
        simp only [Activity.step, ContainerActivity.step, EnsureAgent.step, hcn, Option.map_some]
      exact (CleanRun.start s _).step (attemptStep_call (a := {}) rfl rfl hread) (Or.inl rfl) trivial
  | createSession q c k =>
      have hcn : s.world.containerNode .ok q.containerID = .ok (c, k) :=
        World.containerNode_ok (a := {}) rfl hrow hnode
      have hread : (Activity.openSession (.containerNode (.create q))).step s.world {} =
          some (s.world, .openSession (.nodeOpen (.create q) k)) := by
        simp only [Activity.step, OpenSession.step, SessionRequest.containerID, hcn,
          Option.map_some]
      exact (CleanRun.start s _).step (attemptStep_call (a := {}) rfl rfl hread) (Or.inl rfl) trivial

theorem CleanRun.begun (hasks : Asks req c k x r) (hrun : CleanRun s req (s, { activity := x }))
    (hget : (s.world.runner k).containers.get (containerOf r) = some hd)
    (hsup : s.supervisor? k hd.supervisor = some sup) :
    ∃ s₁, CleanRun s req (s₁, ⟨x, some (.served hd.supervisor sup.threads.length)⟩) ∧
      Stands s (s.setSupervisor k hd.supervisor
        ⟨sup.shared, sup.threads ++ [beginCall r]⟩).world.runner s.world.store s₁ := by
  have hfind : attemptStep (s, { activity := x }) (.job (.find (containerOf r))) =
      some (s, ⟨x, some (.found hd.supervisor)⟩) := by
    cases hasks <;>
      simp only [attemptStep, Job.step, Job.finds, Activity.asks, Option.bind_some, if_true, hget,
        Option.map_some]
  have hspawn : managerStep sup (.calls (.spawn r)) =
      some ⟨sup.shared, sup.threads ++ [beginCall r]⟩ := by
    cases r <;> rfl
  have hserve : attemptStep (s, ⟨x, some (.found hd.supervisor)⟩) (.job (.serve "" 0)) =
      some (s.setSupervisor k hd.supervisor ⟨sup.shared, sup.threads ++ [beginCall r]⟩,
        ⟨x, some (.served hd.supervisor sup.threads.length)⟩) := by
    cases hasks <;>
      simp only [attemptStep, Job.step, Job.serve, Activity.asks, Option.bind_some, hsup, hspawn,
        Option.map_some]
  exact ⟨_, (hrun.step hfind trivial trivial).step hserve trivial trivial,
    ⟨rfl, rfl, rfl⟩, rfl, rfl⟩

/-- A step of the call. -/
theorem CleanRun.serve (hasks : Asks req c k x r)
    (hid : ∀ q, r = .session (.create q) → q.sessionID ≠ "")
    (hsup : s.supervisor? k hd.supervisor = some sup)
    (hrun : CleanRun s req (s₁, ⟨x, some (.served hd.supervisor sup.threads.length)⟩))
    (hs₁ : Stands s (s.setSupervisor k hd.supervisor ⟨m, sup.threads ++ [call]⟩).world.runner
      s.world.store s₁) {l : CallLabel} (hl : CleanCall l)
    (hstep : serveStep (m, call) l = some (m', call')) :
    ∃ s₂, CleanRun s req (s₂, ⟨x, some (.served hd.supervisor sup.threads.length)⟩) ∧
      Stands s (s.setSupervisor k hd.supervisor ⟨m', sup.threads ++ [call']⟩).world.runner
        s.world.store s₂ := by
  have hsup₁ := Site.supervisor?_set hsup hs₁.moved.runner
  have hmanager : managerStep ⟨m, sup.threads ++ [call]⟩ (.calls (.step sup.threads.length l)) =
      some ⟨m', sup.threads ++ [call']⟩ := by
    refine Pool.step_run.2 ⟨call, m', call', List.getElem?_concat_length, ?_, ?_⟩
    · cases call <;> exact hstep
    · simp
  have hsupervisor : s₁.supervisorStep k hd.supervisor (.step sup.threads.length l) =
      some { s₁.setSupervisor k hd.supervisor ⟨m', sup.threads ++ [call']⟩ with
        ids := s₁.ids.minted ⟨m', sup.threads ++ [call']⟩ (.step sup.threads.length l) } := by
    simp only [Site.supervisorStep, hsup₁, Option.bind_some, SupervisorLabel.label, hmanager,
      Option.map_some]
  have hattempt : attemptStep (s₁, ⟨x, some (.served hd.supervisor sup.threads.length)⟩) (.call l) =
      some ({ s₁.setSupervisor k hd.supervisor ⟨m', sup.threads ++ [call']⟩ with
        ids := s₁.ids.minted ⟨m', sup.threads ++ [call']⟩ (.step sup.threads.length l) },
        ⟨x, some (.served hd.supervisor sup.threads.length)⟩) := by
    simp only [attemptStep, hasks.asks, Option.bind_some, hsupervisor, Option.map_some]
  have hfresh : Fresh (s₁, ⟨x, some (.served hd.supervisor sup.threads.length)⟩) (.call l) := by
    cases l with
    | agentByID raw =>
        cases hasks with
        | ensureAgent => trivial
        | createSession q c k => exact fun hempty => (hid q rfl hempty).elim
    | lookup | started | answered | insert | snapshot => trivial
  refine ⟨_, hrun.step hattempt hl hfresh, ⟨?_, hs₁.moved.nodes, hs₁.moved.host⟩, hs₁.store,
    hs₁.prompts⟩
  exact Site.setSupervisor_set hs₁.moved.runner

/-- The steps of the call. -/
theorem CleanRun.serves (hasks : Asks req c k x r)
    (hid : ∀ q, r = .session (.create q) → q.sessionID ≠ "")
    (hsup : s.supervisor? k hd.supervisor = some sup) :
    ∀ {ls : List CallLabel} {s₁ : Site} {m : Manager} {call : ManagerCall},
      CleanRun s req (s₁, ⟨x, some (.served hd.supervisor sup.threads.length)⟩) →
        Stands s (s.setSupervisor k hd.supervisor ⟨m, sup.threads ++ [call]⟩).world.runner
          s.world.store s₁ →
        (∀ l ∈ ls, CleanCall l) → exec serveStep (m, call) ls = some (m', call') →
          ∃ s₂, CleanRun s req (s₂, ⟨x, some (.served hd.supervisor sup.threads.length)⟩) ∧
            Stands s (s.setSupervisor k hd.supervisor ⟨m', sup.threads ++ [call']⟩).world.runner
              s.world.store s₂
  | [], s₁, m, call, hrun, hs₁, _, hexec => by
      obtain ⟨rfl, rfl⟩ := some_pair_inj hexec
      exact ⟨s₁, hrun, hs₁⟩
  | l :: ls, s₁, m, call, hrun, hs₁, hls, hexec => by
      obtain ⟨⟨m₁, call₁⟩, hstep, hrest⟩ := exec_cons_eq_some.1 hexec
      obtain ⟨hl, hls⟩ := List.forall_mem_cons.1 hls
      obtain ⟨s₂, hrun₂, hs₂⟩ := CleanRun.serve hasks hid hsup hrun hs₁ hl hstep
      exact CleanRun.serves hasks hid hsup hrun₂ hs₂ hls hrest

/-- **A clean attempt up to the answer of a supervisor.** -/
theorem CleanRun.served {ls : List CallLabel} (hasks : Asks req c k x r)
    (hid : ∀ q, r = .session (.create q) → q.sessionID ≠ "")
    (hrow : s.world.store.containers.get (containerOf r) = some c)
    (hnode : s.world.node c.nodeID = .ok k)
    (hget : (s.world.runner k).containers.get (containerOf r) = some hd)
    (hsup : s.supervisor? k hd.supervisor = some sup)
    (hexec : exec serveStep (sup.shared, beginCall r) ls = some (m, call))
    (hgoing : Going call) (hreply : replyOf call = some reply) (hx : x.receives reply = some x') :
    ∃ t₀, CleanRun s req (t₀, { activity := x' }) ∧
      Stands s (s.setSupervisor k hd.supervisor ⟨m, sup.threads ++ [call]⟩).world.runner
        s.world.store t₀ := by
  obtain ⟨s₁, hrun₁, hs₁⟩ := CleanRun.begun hasks (CleanRun.asked hasks hrow hnode) hget hsup
  obtain ⟨s₂, hrun₂, hs₂⟩ :=
    CleanRun.serves hasks hid hsup hrun₁ hs₁ (Going.run hexec hgoing).2 hexec
  have hsup₂ := Site.supervisor?_set hsup hs₂.moved.runner
  have hreceive : attemptStep (s₂, ⟨x, some (.served hd.supervisor sup.threads.length)⟩)
      (.job .receive) = some (s₂, { activity := x' }) := by
    simp only [attemptStep, Job.step, hasks.asks, Option.bind_some, hsup₂,
      List.getElem?_concat_length, hreply, hx, Option.map_some]
  exact ⟨s₂, hrun₂.step hreceive trivial trivial, hs₂⟩

end

/-- A row that is written again under the same key takes the place of the first. -/
theorem stored_agent_absorbs {a : Answer} {i i' : AgentInstance} (s : MemoryStore)
    (h : i.id = i'.id) :
    (stored a (some (.agent i)) s).upsertAgentInstance i' = s.upsertAgentInstance i' := by
  unfold stored
  dsimp only
  split_ifs
  · show ({ s with agents := (s.agents.upsert i).upsert i' } : MemoryStore) = _
    rw [Table.upsert_upsert _ h]
    rfl
  · rfl

theorem stored_session_absorbs {a : Answer} {x x' : Session} (s : MemoryStore) (h : x.id = x'.id) :
    (stored a (some (.session x)) s).upsertSession x' = s.upsertSession x' := by
  unfold stored
  dsimp only
  split_ifs
  · show ({ s with sessions := (s.sessions.upsert x).upsert x' } : MemoryStore) = _
    rw [Table.upsert_upsert _ h]
    rfl
  · rfl

theorem Site.get_set {s s₁ : Site} {k : String} {n : ℕ} {q : Pool Manager ManagerCall}
    (hr : s₁.world.runner = (s.setSupervisor k n q).world.runner) (id : String) :
    (s₁.world.runner k).containers.get id = (s.world.runner k).containers.get id := by
  simp only [hr, Site.setSupervisor, World.setRunner, Function.update_self]

/-- What the nodes show depends on the managers of their supervisors, not on the calls these have
served. -/
theorem shows_setSupervisor {s s₁ s₂ : Site} {k : String} {n : ℕ} {m : Manager}
    {cs cs' : List ManagerCall}
    (h₁ : s₁.world.runner = (s.setSupervisor k n ⟨m, cs⟩).world.runner)
    (h₂ : s₂.world.runner = (s.setSupervisor k n ⟨m, cs'⟩).world.runner) (k' id : String) :
    shows (s₁.world.runner k') id = shows (s₂.world.runner k') id := by
  rw [h₁, h₂]
  by_cases hk : k' = k
  · subst hk
    simp only [Site.setSupervisor, World.setRunner, Function.update_self]
    refine shows_congr rfl fun hd _ => ?_
    dsimp only
    by_cases hn : hd.supervisor = n
    · rw [hn, List.getElem?_set_self', List.getElem?_set_self']
      cases (s.world.runner k').supervisors[n]? <;> rfl
    · rw [List.getElem?_set_ne (Ne.symm hn), List.getElem?_set_ne (Ne.symm hn)]
  · simp only [Site.setSupervisor, World.setRunner, Function.update_of_ne hk]

/-- Where a container is found: its row, the client of its node, its handle there and the
supervisor of the handle. -/
structure Located (s : Site) (id : String) (c : Container) (k : String) (hd : ContainerHandle)
    (sup : Pool Manager ManagerCall) : Prop where
  row : s.world.store.containers.get id = some c
  node : s.world.node c.nodeID = .ok k
  handle : (s.world.runner k).containers.get id = some hd
  supervisor : s.supervisor? k hd.supervisor = some sup

section

variable {s s₁ : Site} {id k k' : String} {c c' : Container} {hd hd' : ContainerHandle}
  {sup sup' : Pool Manager ManagerCall}

/-- A container is found where it was after its supervisor was set. -/
theorem Located.set (h : Located s id c k hd sup) {q : Pool Manager ManagerCall}
    (hcontainers : s₁.world.store.containers = s.world.store.containers)
    (hnodes : s₁.world.nodes = s.world.nodes)
    (hrunner : s₁.world.runner = (s.setSupervisor k hd.supervisor q).world.runner) :
    Located s₁ id c k hd q where
  row := hcontainers ▸ h.row
  node := (World.node_congr hnodes _).trans h.node
  handle := (Site.get_set hrunner _).trans h.handle
  supervisor := Site.supervisor?_set h.supervisor hrunner

theorem Located.unique (h : Located s id c k hd sup) (h' : Located s id c' k' hd' sup') :
    c' = c ∧ k' = k ∧ hd' = hd ∧ sup' = sup := by
  obtain rfl := Option.mem_unique h.row h'.row
  obtain rfl := Except.ok.inj (h.node.symm.trans h'.node)
  obtain rfl := Option.mem_unique h.handle h'.handle
  obtain rfl := Option.mem_unique h.supervisor h'.supervisor
  exact ⟨rfl, rfl, rfl, rfl⟩

end

/-- What failed attempts of `EnsureAgent` leave of the site `s₀`: the supervisor `n` of node `k` has
the manager `m`, and all else is as it was but for the row of the agent `inst`. -/
structure EnsuresAgain (s₀ : Site) (k : String) (n : ℕ) (m : Manager) (inst : AgentInstance)
    (s : Site) : Prop where
  nodes : s.world.nodes = s₀.world.nodes
  host : s.world.host = s₀.world.host
  prompts : s.prompts = s₀.prompts
  containers : s.world.store.containers = s₀.world.store.containers
  runner : ∃ cs, s.world.runner = (s₀.setSupervisor k n ⟨m, cs⟩).world.runner
  store : s.world.store.upsertAgentInstance inst = s₀.world.store.upsertAgentInstance inst

section

variable {s₀ s s' s₂ : Site} {req : InstallAgentRequest} {c : Container} {k : String}
  {hd : ContainerHandle} {sup : Pool Manager ManagerCall} {m : Manager} {inst : AgentInstance}
  {x : Activity} {ls : List CallLabel}

/-- The answer of the node to one more attempt is the agent that is entered. -/
theorem EnsuresAgain.reached (h : EnsuresAgain s₀ k hd.supervisor m inst s)
    (hat : Located s₀ req.containerID c k hd sup) (hm : Holds m req.plan inst)
    {t : Site} (hr : Reached s (.ensureAgent req) t x) :
    x = .container (.ensureAgent (.upsertAgentInstance req c inst)) ∧
      ∃ cs, Stands s (s₀.setSupervisor k hd.supervisor ⟨m, cs⟩).world.runner s.world.store t := by
  obtain ⟨c₁, k₁, hd₁, ls₁, sup₁, m₁, inst₁, hrow₁, hnode₁, hget₁, hserves, hs, rfl⟩ :=
    hr.ensureAgent
  obtain ⟨cs, hrunner⟩ := h.runner
  obtain ⟨rfl, rfl, rfl, rfl⟩ := (hat.set h.containers h.nodes hrunner).unique
    ⟨hrow₁, hnode₁, hget₁, hserves.supervisor⟩
  obtain ⟨rfl, hpc⟩ := serve_held hm hserves.run
  rcases hpc with hpc | ⟨_, hpc⟩ | hpc
  · cases hpc
  · cases hpc
  · obtain rfl := Except.ok.inj (EnsurePC.returned.inj hpc)
    have hrunner' := hs.moved.runner.trans (Site.setSupervisor_set hrunner)
    exact ⟨rfl, _, ⟨hrunner', hs.moved.nodes, hs.moved.host⟩, hs.store, hs.prompts⟩

/-- After the first attempt that a write has failed. -/
theorem EnsuresAgain.first {call : ManagerCall} {t : Site} {a : Answer}
    (hs : Stands s₀ (s₀.setSupervisor k hd.supervisor ⟨m, sup.threads ++ [call]⟩).world.runner
      s₀.world.store t)
    (hs' : Stands t t.world.runner (stored a (some (.agent inst)) t.world.store) s') :
    EnsuresAgain s₀ k hd.supervisor m inst s' where
  nodes := hs'.moved.nodes.trans hs.moved.nodes
  host := hs'.moved.host.trans hs.moved.host
  prompts := hs'.prompts.trans hs.prompts
  containers := by
    rw [hs'.store, hs.store, stored_containers]
    rfl
  runner := ⟨_, hs'.moved.runner.trans hs.moved.runner⟩
  store := by rw [hs'.store, hs.store, stored_agent_absorbs _ rfl]

/-- After one more. -/
theorem EnsuresAgain.again (h : EnsuresAgain s₀ k hd.supervisor m inst s)
    (hat : Located s₀ req.containerID c k hd sup) (hm : Holds m req.plan inst)
    (hfails : WriteFails s (.ensureAgent req) s') :
    EnsuresAgain s₀ k hd.supervisor m inst s' := by
  have hreq : (Request.ensureAgent req).Followed := trivial
  obtain ⟨t, x, a, row, hr, hrow', hs'⟩ := hfails.reached hreq
  obtain ⟨rfl, cs, hs⟩ := h.reached hat hm hr
  obtain rfl := Option.some.inj hrow'
  refine ⟨hs'.moved.nodes.trans (hs.moved.nodes.trans h.nodes),
    hs'.moved.host.trans (hs.moved.host.trans h.host),
    hs'.prompts.trans (hs.prompts.trans h.prompts), ?_, ⟨cs, hs'.moved.runner.trans hs.moved.runner⟩,
    ?_⟩
  · rw [hs'.store, hs.store, stored_containers]
    exact h.containers
  · rw [hs'.store, hs.store, stored_agent_absorbs _ rfl, h.store]

/-- **An agent ensured again** is as after a single attempt. -/
theorem EnsuresAgain.completes (h : EnsuresAgain s₀ k hd.supervisor m inst s)
    (hat : Located s₀ req.containerID c k hd sup)
    (hserves : Serves (fun _ => True) s₀ k hd.supervisor (.ensureAgent req) ls sup m
      (.ensure req (.returned (.ok inst))))
    (hlast : Completes s (.ensureAgent req) s₂ x) :
    x.Succeeded ∧ ∃ s', Completes s₀ (.ensureAgent req) s' x ∧ SameState s' s₂ := by
  have hreq : (Request.ensureAgent req).Followed := trivial
  have hm : Holds m req.plan inst := serve_holds hserves.run
  obtain ⟨cs, hrunner⟩ := h.runner
  have hagain := hat.set h.containers h.nodes hrunner
  have hready : Ready s (.ensureAgent req) := by
    refine .served (.ensureAgent req c k) hagain.row hagain.node hagain.handle hagain.supervisor ?_
    intro ls m' call _ hexec
    obtain ⟨pc, rfl⟩ := serve_ensure hexec
    rcases (serve_held hm hexec).2 with rfl | ⟨_, rfl⟩ | rfl <;> exact id
  have hx : x.Succeeded := hready.succeeds hreq hlast
  refine ⟨hx, ?_⟩
  obtain ⟨t₁, x₁, as, hr, has, hcalls, hprompts⟩ := hlast.reached hreq hx
  have hreached := hr
  obtain ⟨rfl, cs₁, hs₁⟩ := h.reached hat hm hr
  obtain ⟨t₀, hrun, hs₀⟩ := CleanRun.served (.ensureAgent req c k) (fun q hq => by cases hq)
    hat.row hat.node hat.handle hat.supervisor hserves.run trivial rfl rfl
  refine hrun.completes hreached rfl (fun _ _ => rfl) (fun a ho => ?_) ?_ ?_ has hcalls hprompts hx
  · show stored a (some (.agent inst)) _ = stored a (some (.agent inst)) _
    rw [stored_ok ho, stored_ok ho, hs₀.store, hs₁.store]
    exact h.store.symm
  · exact shows_setSupervisor hs₀.moved.runner hs₁.moved.runner
  · exact hs₀.prompts.trans (h.prompts.symm.trans hs₁.prompts.symm)

end

/-- What failed attempts to create a session leave of the site `s₀`, in which supervisor `n` of node
`k` has the manager `m₀`: all is as it was but for the sessions of that manager, and the session
rows. -/
structure CreatesAgain (s₀ : Site) (k : String) (n : ℕ) (m₀ : Manager)
    (R : Table String Session Session.id → Prop) (s : Site) : Prop where
  nodes : s.world.nodes = s₀.world.nodes
  host : s.world.host = s₀.world.host
  prompts : s.prompts = s₀.prompts
  containers : s.world.store.containers = s₀.world.store.containers
  runner : ∃ cs sessions, s.world.runner =
    (s₀.setSupervisor k n ⟨{ m₀ with sessions }, cs⟩).world.runner ∧ R sessions

section

variable {s₀ s s' s₂ : Site} {req : CreateSessionRequest} {c : Container} {k : String}
  {hd : ContainerHandle} {sup : Pool Manager ManagerCall} {x : Activity}
  {R R' : Table String Session Session.id → Prop}

theorem Site.setSupervisor_self {n : ℕ} (hsup : s.supervisor? k n = some sup) :
    (s.setSupervisor k n sup).world.runner = s.world.runner := by
  have hset : (s.world.runner k).supervisors.set n sup = (s.world.runner k).supervisors := by
    refine List.ext_getElem? fun i => ?_
    by_cases hi : i = n
    · subst hi
      rw [getElem?_set_of_some sup hsup]
      exact hsup.symm
    · rw [List.getElem?_set_ne (Ne.symm hi)]
  simp only [Site.setSupervisor, World.setRunner, hset]
  exact Function.update_eq_self k s.world.runner

theorem CreatesAgain.refl (hsup : s₀.supervisor? k hd.supervisor = some sup)
    (hR : R sup.shared.sessions) : CreatesAgain s₀ k hd.supervisor sup.shared R s₀ :=
  ⟨rfl, rfl, rfl, rfl, sup.threads, sup.shared.sessions, (Site.setSupervisor_self hsup).symm, hR⟩

/-- **The answer of the node to one more attempt**: a session of the agent that the request
names. -/
theorem CreatesAgain.reached (h : CreatesAgain s₀ k hd.supervisor sup.shared R s)
    (hat : Located s₀ req.containerID c k hd sup)
    {t : Site} (hr : Reached s (.createSession req) t x) :
    ∃ raw negotiated now hidx handle cs sessions,
      sup.shared.agentByID req.agentInstanceID = .ok hidx ∧
      sup.shared.handles[hidx]? = some handle ∧ R sessions ∧
      (req.sessionID = "" → sessions.get (newID "sess" raw) = none) ∧
      x = .openSession (.upsertSession (.create req) (newSession sup.shared (.create req) handle
        ((SessionRequest.create req).sessionID raw) negotiated now)) ∧
      Stands s (s₀.setSupervisor k hd.supervisor
        ⟨{ sup.shared with
          sessions := sessions.upsert (newSession sup.shared (.create req) handle
            ((SessionRequest.create req).sessionID raw) negotiated now) }, cs⟩).world.runner
        s.world.store t := by
  obtain ⟨c₁, k₁, hd₁, ls₁, sup₁, m₁, sess, hrow₁, hnode₁, hget₁, hserves, hs, rfl⟩ :=
    hr.createSession
  obtain ⟨cs, sessions, hrunner, hR⟩ := h.runner
  obtain ⟨rfl, rfl, rfl, rfl⟩ := (hat.set h.containers h.nodes hrunner).unique
    ⟨hrow₁, hnode₁, hget₁, hserves.supervisor⟩
  obtain ⟨raw, negotiated, now, hidx, handle, rfl, hfound, hhandle, rfl, rfl⟩ :=
    serve_created hserves.run
  have hrunner' := hs.moved.runner.trans (Site.setSupervisor_set hrunner)
  exact ⟨raw, negotiated, now, hidx, handle, _, sessions, hfound, hhandle, hR,
    hserves.fresh req raw rfl (List.mem_cons_self ..), rfl,
    ⟨hrunner', hs.moved.nodes, hs.moved.host⟩, hs.store, hs.prompts⟩

/-- After one more attempt that a write has failed. -/
theorem CreatesAgain.again (h : CreatesAgain s₀ k hd.supervisor sup.shared R s)
    (hat : Located s₀ req.containerID c k hd sup)
    (hfails : WriteFails s (.createSession req) s') :
    ∃ raw sess a sessions, sess.id = (SessionRequest.create req).sessionID raw ∧ R sessions ∧
      (req.sessionID = "" → sessions.get (newID "sess" raw) = none) ∧
      (∃ hidx handle, sup.shared.agentByID req.agentInstanceID = .ok hidx ∧
        sup.shared.handles[hidx]? = some handle) ∧
      s'.world.store = stored a (some (.session sess)) s.world.store ∧
      CreatesAgain s₀ k hd.supervisor sup.shared (fun t => t = sessions.upsert sess) s' := by
  have hreq : (Request.createSession req).Followed := trivial
  obtain ⟨t, x, a, row, hr, hrow', hs'⟩ := hfails.reached hreq
  obtain ⟨raw, negotiated, now, hidx, handle, cs, sessions, hfound, hhandle, hR, hfresh, rfl, hs⟩ :=
    h.reached hat hr
  obtain rfl := Option.some.inj hrow'
  refine ⟨raw, _, a, sessions, rfl, hR, hfresh, ⟨hidx, handle, hfound, hhandle⟩,
    by rw [hs'.store, hs.store], hs'.moved.nodes.trans (hs.moved.nodes.trans h.nodes),
    hs'.moved.host.trans (hs.moved.host.trans h.host),
    hs'.prompts.trans (hs.prompts.trans h.prompts), ?_,
    cs, _, hs'.moved.runner.trans hs.moved.runner, rfl⟩
  rw [hs'.store, hs.store, stored_containers]
  exact h.containers

end

theorem Retried.first {req : Request} {n : ℕ} {s s' : Site} (h : Retried req n s s')
    (hn : n ≠ 0) : ∃ s₁, WriteFails s req s₁ := by
  induction h with
  | zero => exact (hn rfl).elim
  | @succ n s s₁ s' h hlast ih =>
      cases n with
      | zero =>
          cases h
          exact ⟨s', hlast⟩
      | succ n => exact ih (Nat.succ_ne_zero n)

/-- The sessions are as they were, but for the one with this id. -/
def SameBut (id : String) (t t' : Table String Session Session.id) : Prop :=
  ∀ sess : Session, sess.id = id → t'.upsert sess = t.upsert sess

section

variable {s₀ s s' s₂ : Site} {req : CreateSessionRequest} {c : Container} {k : String} {n : ℕ}
  {hd : ContainerHandle} {sup : Pool Manager ManagerCall} {x : Activity}

theorem sessionID_of_ne (hid : req.sessionID ≠ "") (raw : String) :
    (SessionRequest.create req).sessionID raw = req.sessionID := if_neg hid

/-- After failed attempts to create a session that is named. -/
theorem CreatesAgain.of_retried (hid : req.sessionID ≠ "")
    (hat : Located s₀ req.containerID c k hd sup)
    (h : Retried (.createSession req) n s₀ s) :
    CreatesAgain s₀ k hd.supervisor sup.shared (SameBut req.sessionID sup.shared.sessions) s ∧
      ∀ sess : Session, sess.id = req.sessionID →
        s.world.store.upsertSession sess = s₀.world.store.upsertSession sess := by
  induction h with
  | zero => exact ⟨.refl hat.supervisor fun _ _ => rfl, fun _ _ => rfl⟩
  | succ h hlast ih =>
      obtain ⟨hagain, hstore⟩ := ih hat
      obtain ⟨raw, sess, a, sessions, hsess, hsame, -, -, hstore', hnext⟩ :=
        hagain.again hat hlast
      rw [sessionID_of_ne hid] at hsess
      refine ⟨⟨hnext.nodes, hnext.host, hnext.prompts, hnext.containers, ?_⟩, fun sess' hid' => ?_⟩
      · obtain ⟨cs, sessions', hrunner, rfl⟩ := hnext.runner
        refine ⟨cs, _, hrunner, fun sess' hid' => ?_⟩
        rw [Table.upsert_upsert _ (hsess.trans hid'.symm)]
        exact hsame sess' hid'
      · rw [hstore', stored_session_absorbs _ (hsess.trans hid'.symm)]
        exact hstore sess' hid'

/-- **A session created again under its id** is as after a single attempt. -/
theorem Retried.create_completes (hid : req.sessionID ≠ "")
    (h : Retried (.createSession req) n s₀ s) (hn : n ≠ 0)
    (hlast : Completes s (.createSession req) s₂ x) :
    x.Succeeded ∧ ∃ s', Completes s₀ (.createSession req) s' x ∧ SameState s' s₂ := by
  have hreq : (Request.createSession req).Followed := trivial
  obtain ⟨s₁, hfirst⟩ := h.first hn
  obtain ⟨t, y, a, row, hr, -, -⟩ := hfirst.reached hreq
  obtain ⟨c, k, hd, ls, sup, m, sess, hrow, hnode, hget, hserves, -, -⟩ := hr.createSession
  have hat : Located s₀ req.containerID c k hd sup := ⟨hrow, hnode, hget, hserves.supervisor⟩
  obtain ⟨raw, negotiated, now, hidx, handle, -, hfound, hhandle, -, -⟩ := serve_created hserves.run
  obtain ⟨hagain, hstore⟩ := CreatesAgain.of_retried hid hat h
  obtain ⟨cs, sessions, hrunner, hsame⟩ := hagain.runner
  have hat' := hat.set hagain.containers hagain.nodes hrunner
  have hready : Ready s (.createSession req) := by
    refine .served (.createSession req c k) hat'.row hat'.node hat'.handle hat'.supervisor ?_
    intro ls' m' call hclean hexec
    -- the agents are those of `sup`, whatever sessions there are
    have hfound' : ({ sup.shared with sessions } : Manager).agentByID
        (SessionRequest.create req).agentInstanceID = .ok hidx := hfound
    exact serve_not_refused hfound' hclean hexec
  have hx : x.Succeeded := hready.succeeds hreq hlast
  refine ⟨hx, ?_⟩
  obtain ⟨t₁, x₁, as, hr₁, has, hcalls, hprompts⟩ := hlast.reached hreq hx
  have hreached := hr₁
  obtain ⟨raw₁, negotiated₁, now₁, hidx₁, handle₁, cs₁, sessions₁, hfound₁, hhandle₁, hsame₁, -, rfl,
    hs₁⟩ := hagain.reached hat hr₁
  have hfound₁' : sup.shared.agentByID (SessionRequest.create req).agentInstanceID = .ok hidx₁ :=
    hfound₁
  have hexec := serve_creates hfound₁' hhandle₁ raw₁ negotiated₁ now₁
  obtain ⟨t₀, hrun, hs₀⟩ := CleanRun.served (.createSession req c k)
    (fun q hq => by cases hq; exact hid) hat.row hat.node hat.handle hat.supervisor hexec trivial rfl rfl
  rw [hsame₁ _ (sessionID_of_ne hid raw₁)] at hs₁
  refine hrun.completes hreached rfl (fun _ _ => rfl) (fun a ho => ?_) ?_ ?_ has hcalls hprompts hx
  · show stored a (some (.session _)) _ = stored a (some (.session _)) _
    rw [stored_ok ho, stored_ok ho, hs₀.store, hs₁.store]
    exact (hstore _ (sessionID_of_ne hid raw₁)).symm
  · exact shows_setSupervisor hs₀.moved.runner hs₁.moved.runner
  · exact hs₀.prompts.trans (hagain.prompts.symm.trans hs₁.prompts.symm)

end

/-- The sessions that were there still are, and when `n` is not `0` there is one that was not. -/
def Grown (n : ℕ) (t t' : Table String Session Session.id) : Prop :=
  (∀ id, t'.get id = none → t.get id = none) ∧
    (n ≠ 0 → ∃ id sess, t.get id = none ∧ t'.get id = some sess)

section

variable {s₀ s s' s₂ : Site} {req : CreateSessionRequest} {c : Container} {k : String} {n : ℕ}
  {hd : ContainerHandle} {sup : Pool Manager ManagerCall} {x : Activity}

theorem sessionID_of_empty (hid : req.sessionID = "") (raw : String) :
    (SessionRequest.create req).sessionID raw = newID "sess" raw := if_pos hid

theorem Grown.upsert {t t' : Table String Session Session.id} {sess : Session} {n : ℕ}
    (h : Grown n t t') (hsess : t'.get sess.id = none) : Grown (n + 1) t (t'.upsert sess) := by
  refine ⟨fun id hnone => ?_, fun _ => ⟨sess.id, sess, h.1 _ hsess, Table.get_upsert_self _ _⟩⟩
  rw [Table.get_upsert] at hnone
  split_ifs at hnone
  exact h.1 id hnone

/-- Every failed attempt enters a session. -/
theorem CreatesAgain.more_of_retried (hid : req.sessionID = "")
    (hat : Located s₀ req.containerID c k hd sup)
    (h : Retried (.createSession req) n s₀ s) :
    CreatesAgain s₀ k hd.supervisor sup.shared (Grown n sup.shared.sessions) s := by
  induction h with
  | zero => exact .refl hat.supervisor ⟨fun _ h => h, fun h => (h rfl).elim⟩
  | succ h hlast ih =>
      obtain ⟨raw, sess, a, sessions, hsess, hgrown, hfresh, -, -, hnext⟩ :=
        (ih hat).again hat hlast
      rw [sessionID_of_empty hid] at hsess
      refine ⟨hnext.nodes, hnext.host, hnext.prompts, hnext.containers, ?_⟩
      obtain ⟨cs, sessions', hrunner, rfl⟩ := hnext.runner
      exact ⟨cs, _, hrunner, hgrown.upsert (hsess ▸ hfresh hid)⟩

/-- The manager that a node shows for the container of a supervisor that was set. -/
theorem shows_manager {s₁ : Site} {q : Pool Manager ManagerCall} {id : String}
    (hat : Located s₀ id c k hd sup)
    (hr : s₁.world.runner = (s₀.setSupervisor k hd.supervisor q).world.runner) :
    shows (s₁.world.runner k) id =
      some (hd.container, hd.root, hd.workspace, hd.socket, some q.shared) := by
  have hsup₁ : (s₁.world.runner k).supervisors[hd.supervisor]? = some q :=
    Site.supervisor?_set hat.supervisor hr
  rw [shows, Site.get_set hr, hat.handle, Option.map_some, hsup₁, Option.map_some]

/-- **Sessions without an id pile up**: no single attempt leaves what an attempt leaves after a
failed one. -/
theorem Retried.create_differs (hid : req.sessionID = "")
    (h : Retried (.createSession req) n s₀ s) (hn : n ≠ 0)
    (hlast : Completes s (.createSession req) s₂ x) (hx : x.Succeeded)
    {x' : Activity} (hone : Completes s₀ (.createSession req) s' x') (hx' : x'.Succeeded) :
    ¬ SameState s' s₂ := by
  have hreq : (Request.createSession req).Followed := trivial
  intro hsame
  obtain ⟨t', y', as', hr', -, hcalls', -⟩ := hone.reached hreq hx'
  obtain ⟨c, k, hd, ls, sup, m, sess, hrow, hnode, hget, hserves, -, -⟩ := hr'.createSession
  have hat : Located s₀ req.containerID c k hd sup := ⟨hrow, hnode, hget, hserves.supervisor⟩
  have hbase : CreatesAgain s₀ k hd.supervisor sup.shared (fun t => t = sup.shared.sessions) s₀ :=
    .refl hat.supervisor rfl
  obtain ⟨raw', neg', now', hidx', handle', cs', sessions', -, -, rfl, -, -, hs'⟩ :=
    hbase.reached hat hr'
  have hmore := CreatesAgain.more_of_retried hid hat h
  obtain ⟨t₂, y₂, as₂, hr₂, -, hcalls₂, -⟩ := hlast.reached hreq hx
  obtain ⟨raw₂, neg₂, now₂, hidx₂, handle₂, cs₂, sessions₂, -, -, hgrown, hfresh, -, hs₂⟩ :=
    hmore.reached hat hr₂
  -- the two managers show the same sessions
  have hshows := hsame.nodes k req.containerID
  rw [Completes.runner hr' hcalls', Completes.runner hr₂ hcalls₂,
    shows_manager hat hs'.moved.runner, shows_manager hat hs₂.moved.runner] at hshows
  have htables := congrArg (fun o => o.bind fun p => p.2.2.2.2.map fun m : Manager => m.sessions)
    hshows
  have htables : sup.shared.sessions.upsert _ = sessions₂.upsert _ := Option.some.inj htables
  obtain ⟨id₁, sess₁, hnone₁, hsome₁⟩ := hgrown.2 hn
  have hfresh₂ := hfresh hid
  have honly : ∀ id sess, sup.shared.sessions.get id = none →
      (sessions₂.upsert (newSession sup.shared (.create req) handle₂
        ((SessionRequest.create req).sessionID raw₂) neg₂ now₂)).get id = some sess →
        id = (SessionRequest.create req).sessionID raw' := by
    intro id sess hnone hsome
    by_contra hne
    rw [← htables, Table.get_upsert, if_neg (show ¬ id = Session.id _ from hne), hnone] at hsome
    cases hsome
  have hne : id₁ ≠ newID "sess" raw₂ := by
    rintro rfl
    rw [hfresh₂] at hsome₁
    cases hsome₁
  have hid₂ := sessionID_of_empty hid raw₂
  have heq₁ := honly id₁ sess₁ hnone₁ (by
    rw [Table.get_upsert, if_neg (show ¬ id₁ = Session.id _ from hid₂ ▸ hne)]
    exact hsome₁)
  have heq₂ := honly (newID "sess" raw₂) _ (hgrown.1 _ hfresh₂) (by
    rw [Table.get_upsert, if_pos (show newID "sess" raw₂ = Session.id _ from hid₂.symm)])
  exact hne (heq₁.trans heq₂.symm)

end

/-- How many prompts an attempt of `Prompt` has sent by now: none before `Manager.Prompt` begins, and
one from then on.  Of an attempt whose node call has failed, or that has returned, nothing is
said. -/
def sent (job : Job) : Option ℕ :=
  match job.activity with
  | .session (.prompt (.getSession _)) | .session (.prompt (.containerNode _ _))
  | .session (.prompt (.upsertSession _ _ _ _)) | .session (.prompt (.upsertRun _ _ _ _))
  | .session (.prompt (.publishStarted _ _ _ _)) => some 0
  | .session (.prompt (.nodePrompt _ _ _ _)) =>
      match job.waiting with
      | some (.prompted _) => some 1
      | _ => some 0
  | .session (.prompt (.upsertFinalRun _ _ _)) | .session (.prompt (.upsertFinalSession _ _ _))
  | .session (.prompt (.appendAudit _)) => some 1
  | _ => none

/-- An attempt of `Prompt` from `s₀`, and what it has sent. -/
structure Prompting (s₀ : Site) (t : Site × Job) : Prop where
  prompt : ∃ x, t.2.activity = .session (.prompt x)
  sent : ∀ m, sent t.2 = some m → t.1.prompts.length = s₀.prompts.length + m

section

variable {s₀ s s' s₂ : Site} {req : PromptRequest} {t t' : Site × Job} {lab : AttemptLabel}
  {x : Activity} {n : ℕ}

/-- **A step of an attempt of `Prompt`.** -/
theorem Prompting.step (h : Prompting s₀ t) (hstep : attemptStep t lab = some t') :
    Prompting s₀ t' := by
  obtain ⟨s, ⟨act, wait⟩⟩ := t
  obtain ⟨s', job'⟩ := t'
  obtain ⟨⟨x, hact⟩, hsent⟩ := h
  obtain rfl : act = .session (.prompt x) := hact
  cases lab with
  | call l =>
      simp only [attemptStep] at hstep
      split at hstep <;> cases hstep
  | job l =>
      cases Job.step_spec hstep with
      | found _ _ _ hasks | served _ _ _ _ _ _ _ hasks | received _ _ _ _ _ _ _ _ hasks =>
          cases hasks
      | foundSession q sess k run id hd sup hx hw =>
          cases hx
          obtain rfl : wait = none := hw
          exact ⟨⟨_, rfl⟩, hsent⟩
      | prompted q sess k run m sup sess' hd raw now hx hw =>
          cases hx
          obtain rfl : wait = some (.found m) := hw
          refine ⟨⟨_, rfl⟩, fun j hj => ?_⟩
          obtain rfl := Option.some.inj (show some 1 = some j from hj)
          have hbefore := hsent 0 rfl
          rw [List.length_append, List.length_singleton]
          exact congrArg (· + 1) hbefore
      | finished b run x' hw hx' =>
          obtain rfl : wait = some (.prompted b) := hw
          cases Activity.received_of_receives hx' with
          | run => exact ⟨⟨_, rfl⟩, hsent⟩
      | called a w' x' hreply hcall =>
          cases (Activity.step_spec hcall).1 with
          | prompt hn =>
              refine ⟨⟨_, rfl⟩, ?_⟩
              cases hn with
              | ended _ _ _ _ final _ hr =>
                  rw [hr] at hreply
                  cases hreply
              | notRead | noNode | failed | failedRunWritten | failedSessionWritten | runNotStored
              | sessionNotStored | audited => exact fun m hm => by cases hm
              | read | begun | sessionWritten | runWritten | announced | event | runStored
              | sessionStored => exact hsent

theorem Prompting.run {l : List AttemptLabel}
    (h : exec attemptStep ((Request.prompt req).attempt s) l = some t) : Prompting s t :=
  exec_invariant_of_step (fun _ _ _ h hs => h.step hs)
    ⟨⟨_, rfl⟩, fun _ hm => (Option.some.inj (show some 0 = some _ from hm)) ▸ rfl⟩ h

/-- **A prompt whose final write has failed was sent once.** -/
theorem WriteFails.sent_once (h : WriteFails s (.prompt req) s') :
    s'.prompts.length = s.prompts.length + 1 := by
  obtain ⟨l, a, s₁, ⟨act, wait⟩, job', -, hexec, hw, hstep, hf⟩ := h
  have hprompting := Prompting.run hexec
  obtain ⟨x, hact⟩ := hprompting.prompt
  obtain rfl : act = .session (.prompt x) := hact
  have hjob : JobStep s₁ ⟨.session (.prompt x), wait⟩ (.call a) s' job' := Job.step_spec hstep
  cases hjob with
  | called _ w' x' hreply hcall =>
      cases (Activity.step_spec hcall).1 with
      | prompt hn =>
          cases hn with
          | runNotStored | sessionNotStored => exact hprompting.sent 1 rfl
          | notRead | noNode => cases hw
          | read | begun | sessionWritten | runWritten | announced | event | failed | ended
          | failedRunWritten | failedSessionWritten | runStored | sessionStored | audited =>
              exact hf.elim

theorem Retried.sent (h : Retried (.prompt req) n s s') :
    s'.prompts.length = s.prompts.length + n := by
  induction h with
  | zero => rfl
  | succ h hlast ih => rw [hlast.sent_once, ih, Nat.add_assoc]

end

/-- The node call of the `Prompt` has not failed. -/
def OnTrack : Activity → Prop
  | .session (.prompt (.upsertFailedRun _ _)) | .session (.prompt (.upsertFailedSession _ _)) => False
  | _ => True

section

variable {s₀ s s' s₂ : Site} {req : PromptRequest} {t t' : Site × Job} {lab : AttemptLabel}
  {x : Activity} {n : ℕ} {a : Answer}

/-- A `Prompt` waits for a node call that does not fail. -/
theorem Prompt.nodePrompt_waits {q : PromptRequest} {sess : Session} {k : String} {run : Run}
    {w w' : World} {x' : Prompt} (ho : a.outcome = .ok) (hreply : a.reply.fromSupervisor = false)
    (hstep : (Prompt.nodePrompt q sess k run).step w a = some (w', x')) :
    x' = .nodePrompt q sess k run := by
  obtain ⟨now, raw, outcome, reply⟩ := a
  obtain rfl : outcome = .ok := ho
  cases reply with
  | event e => exact (some_pair_inj hstep).2.symm
  | none => cases hstep
  | agent | session | run => exact absurd hreply nofun

/-- A call in which nothing fails goes through, when no supervisor is asked. -/
theorem Clean.ok_of_prompt {x : Prompt} {wait : Option Waiting}
    (h : Clean (s, ⟨.session (.prompt x), wait⟩) (.job (.call a))) : a.outcome = .ok := by
  refine h.resolve_right ?_
  rintro ⟨k, r, hasks, -⟩
  cases hasks

theorem CleanRun.onTrack (h : CleanRun s (.prompt req) t) :
    Prompting s t ∧ OnTrack t.2.activity := by
  obtain ⟨l, hl, hexec⟩ := h
  refine exec_invariant (I := fun t => Prompting s t ∧ OnTrack t.2.activity) ?_
    ⟨Prompting.run (exec_nil _), trivial⟩ hl hexec
  rintro ⟨s₁, ⟨act, wait⟩⟩ lab ⟨s', job'⟩ ⟨hprompting, htrack⟩ ⟨hclean, -⟩ hstep
  refine ⟨hprompting.step hstep, ?_⟩
  obtain ⟨x, hact⟩ := hprompting.prompt
  obtain rfl : act = .session (.prompt x) := hact
  cases lab with
  | call l =>
      simp only [attemptStep] at hstep
      split at hstep <;> cases hstep
  | job l =>
      cases Job.step_spec hstep with
      | found | foundSession | served | prompted => exact htrack
      | received _ _ _ _ _ _ _ _ hasks => cases hasks
      | finished b run x' hw hx' =>
          cases Activity.received_of_receives hx' with
          | run => trivial
      | called a w' x' hreply hcall =>
          have ho := hclean.ok_of_prompt
          cases (Activity.step_spec hcall).1 with
          | prompt hn =>
              cases hn with
              | failed q sess k run e =>
                  obtain ⟨w₁, y, hy, -, heq⟩ := map_eq_some_pair hcall
                  obtain ⟨w₂, z, hz, -, heq'⟩ := map_eq_some_pair hy
                  obtain rfl := Prompt.nodePrompt_waits ho hreply hz
                  subst heq'
                  cases heq
              | failedRunWritten => exact htrack.elim
              | notRead | noNode | runNotStored | sessionNotStored | audited | read | begun
              | sessionWritten | runWritten | announced | event | ended | runStored
              | sessionStored | failedSessionWritten => trivial

/-- **An attempt of `Prompt` in which nothing fails sends the prompt once.** -/
theorem Completes.sent_once (h : Completes s (.prompt req) s' x) (hx : x.Succeeded) :
    s'.prompts.length = s.prompts.length + 1 := by
  obtain ⟨wait, hrun, -⟩ := h
  rcases hrun.cases_last with heq | ⟨⟨u, ⟨act, wait'⟩⟩, lab, hu, hclean, hstep⟩
  · obtain ⟨-, hjob⟩ := Prod.mk.inj heq
    obtain ⟨rfl, -⟩ := Job.mk.inj hjob
    exact hx.elim
  · obtain ⟨hprompting, htrack⟩ := hu.onTrack
    obtain ⟨y, hact⟩ := hprompting.prompt
    obtain rfl : act = .session (.prompt y) := hact
    cases lab with
    | call l =>
        simp only [attemptStep] at hstep
        split at hstep <;> cases hstep
    | job l =>
        have hjob : JobStep u ⟨.session (.prompt y), wait'⟩ l s' ⟨x, wait⟩ := Job.step_spec hstep
        cases hjob with
        | found _ _ _ hasks | served _ _ _ _ _ _ _ hasks | received _ _ _ _ _ _ _ _ hasks =>
            cases hasks
        | foundSession _ _ _ _ _ _ _ hact | prompted _ _ _ _ _ _ _ _ _ _ hact =>
            cases hact
            exact hx.elim
        | finished b run x' hw hx' => exact (Activity.receives_not_succeeded hx' hx).elim
        | called a w' x' hreply hcall =>
            cases (Activity.step_spec hcall).1 with
            | prompt hn =>
                cases hn with
                | audited => exact hprompting.sent 1 rfl
                | failedSessionWritten => exact htrack.elim
                | notRead | noNode | runNotStored | sessionNotStored | read | begun
                | sessionWritten | runWritten | announced | event | failed | ended | runStored
                | sessionStored | failedRunWritten => exact hx.elim

/-- **A prompt is sent with every attempt**: no single attempt leaves what an attempt leaves after a
failed one. -/
theorem Retried.prompt_differs (h : Retried (.prompt req) n s₀ s) (hn : n ≠ 0)
    (hlast : Completes s (.prompt req) s₂ x) (hx : x.Succeeded) {x' : Activity}
    (hone : Completes s₀ (.prompt req) s' x') (hx' : x'.Succeeded) : ¬ SameState s' s₂ := by
  intro hsame
  have hlengths := congrArg List.length hsame.prompts
  rw [List.length_map, List.length_map, hone.sent_once hx', hlast.sent_once hx, h.sent] at hlengths
  omega

end

end Workflows
end Agentd
