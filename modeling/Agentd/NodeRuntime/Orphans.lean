/-
# Agents without a container

A node starts the processes of its agents, and it is the handle in the `agents` map of a
supervisor that holds the function to cancel one.  `Runner.NoOrphan` says that every
process that runs has such a handle, in the supervisor of a container that is there.

`EnsureAgent` keeps it: it enters the process that it has started, or kills it.  But
`DeleteContainer` and a second `ProvisionContainer` for an id take the supervisor out of
the node and cancel nothing, so the processes of its agents go on.
`noOrphan_iff_takesNone`: when the operations come one after the other, there is no
orphan between them exactly when each of these finds the agents of the container
ended.
-/

import Agentd.NodeRuntime.Node
import Agentd.Supervisor.EnsureAgent

namespace Agentd
namespace NodeRuntime

open Control Supervisor Concurrency

/-- The call has returned. -/
def returned : ManagerCall → Bool
  | .ensure _ (.returned _) | .session _ (.returned _) => true
  | _ => false

namespace Runner

/-- No operation is under way. -/
def Idle (r : Runner) : Prop := ∀ p ∈ r.supervisors, ∀ c ∈ p.threads, returned c = true

/-- The operations come one after the other. -/
def OneByOne (r : Runner) : NodeLabel → Prop
  | .runner _ | .call _ => r.Idle
  | .supervisor _ _ => True

/-- The supervisor with this number is that of a container. -/
def Hosts (r : Runner) (n : ℕ) : Prop :=
  ∃ id h, r.containers.get id = some h ∧ h.supervisor = n

/-- **No orphan.**  A process that runs has a handle that is entered, in the supervisor of a
container. -/
def NoOrphan (r : Runner) : Prop :=
  ∀ (n : ℕ) p (k : ℕ) x, r.supervisors[n]? = some p → p.shared.processes[k]? = some x →
    x.running = true → r.Hosts n ∧ ∃ key, p.shared.Entered key k

/-- No agent of the container runs, if there is one. -/
def Silent (r : Runner) (id : String) : Prop :=
  ∀ h ∈ r.containers.get id, ∀ p ∈ r.supervisors[h.supervisor]?,
    ∀ x ∈ p.shared.processes, x.running = false

/-- The step takes no container away whose agents run. -/
def TakesNone (r : Runner) : NodeLabel → Prop
  | .runner (.provision req raw _ none) => r.Silent (containerID req raw)
  | .runner (.delete id) => r.Silent id
  | _ => True

instance (r : Runner) : Decidable r.Idle :=
  inferInstanceAs (Decidable (∀ p ∈ r.supervisors, ∀ c ∈ p.threads, returned c = true))

instance (r : Runner) : DecidablePred r.OneByOne
  | .runner _ | .call _ => inferInstanceAs (Decidable r.Idle)
  | .supervisor _ _ => inferInstanceAs (Decidable True)

instance (r : Runner) (id : String) : Decidable (r.Silent id) :=
  inferInstanceAs (Decidable (∀ h ∈ r.containers.get id, ∀ p ∈ r.supervisors[h.supervisor]?,
    ∀ x ∈ p.shared.processes, x.running = false))

instance (r : Runner) : DecidablePred r.TakesNone
  | .runner (.provision req raw _ none) =>
      inferInstanceAs (Decidable (r.Silent (containerID req raw)))
  | .runner (.delete id) => inferInstanceAs (Decidable (r.Silent id))
  | .runner (.provision _ _ _ (some _)) | .call _ | .supervisor _ _ =>
      inferInstanceAs (Decidable True)

/-- The call `c` is under way, as number `i` in supervisor `n`. -/
def Busy (r : Runner) (n i : ℕ) (c : ManagerCall) : Prop :=
  ∃ p, r.supervisors[n]? = some p ∧ p.threads[i]? = some c ∧ returned c = false

/-- **The invariant.**  Each supervisor has its agents in order; at most one call is under way;
a call that is about to start a process has found its key free; where a call is under way or a
process runs there is a container; and no two containers share a supervisor. -/
structure NodeOk (r : Runner) : Prop where
  agents : ∀ (n : ℕ) p, r.supervisors[n]? = some p → AgentsOk p
  single : ∀ n i c n' i' c', r.Busy n i c → r.Busy n' i' c' → n = n' ∧ i = i'
  absent : ∀ (n : ℕ) p req, r.supervisors[n]? = some p → .ensure req .start ∈ p.threads →
    p.shared.agents.lookup (agentKey req.plan) = none
  serves : ∀ n i c, r.Busy n i c → r.Hosts n
  hosted : ∀ (n : ℕ) p (k : ℕ) x, r.supervisors[n]? = some p →
    p.shared.processes[k]? = some x → x.running = true → r.Hosts n
  apart : ∀ id h id' h', r.containers.get id = some h → r.containers.get id' = some h' →
    h.supervisor = h'.supervisor → id = id'
  started : ∀ id h, r.containers.get id = some h → h.supervisor < r.supervisors.length

end Runner

section

variable {m m' : Manager} {p q : Pool Manager ManagerCall} {a : CallLabel} {l : SupervisorLabel}

theorem returned_of_step {i : ℕ} (hq : managerStep p (.calls (.step i a)) = some q)
    {c : ManagerCall} (hi : p.threads[i]? = some c) : returned c = false := by
  obtain ⟨c', m', c'', hi', -, hstep⟩ := managerStep_call hq
  obtain rfl := Option.mem_unique hi hi'
  rcases hstep with ⟨req, pc, pc', rfl, -, hs⟩ | ⟨req, pc, pc', rfl, -, hs⟩
  · cases hs <;> rfl
  · cases hs <;> rfl

theorem returned_of_flight {c : ManagerCall} {f : String × ℕ} (hf : c.flight = some f) :
    returned c = false := by
  unfold ManagerCall.flight at hf
  split at hf
  · rfl
  · rfl
  · cases hf

/-- A call that is under way after a step of its supervisor was so before. -/
theorem busy_before (hq : managerStep p l.label = some q) {j : ℕ} {d : ManagerCall}
    (hd : q.threads[j]? = some d) (hbusy : returned d = false) :
    ∃ c, p.threads[j]? = some c ∧ returned c = false := by
  cases l with
  | step i a =>
      obtain ⟨c, m', c', hi, rfl, -⟩ := managerStep_call hq
      rcases getElem?_set_cases hd with ⟨rfl, -⟩ | ⟨-, hd⟩
      · exact ⟨c, hi, returned_of_step hq hi⟩
      · exact ⟨d, hd, hbusy⟩
  | exit k =>
      obtain rfl := Option.some.inj hq
      exact ⟨d, hd, hbusy⟩
  | waited h now =>
      obtain ⟨m', -, rfl⟩ := Option.map_eq_some_iff.1 hq
      exact ⟨d, hd, hbusy⟩

/-- A process that runs after a step of its supervisor ran before, or a call is under way. -/
theorem running_before (hq : managerStep p l.label = some q) {k : ℕ} {x : Process}
    (hx : q.shared.processes[k]? = some x) (hrun : x.running = true) :
    p.shared.processes[k]? = some x ∨ ∃ (i : ℕ) (c : ManagerCall), p.threads[i]? = some c ∧
      returned c = false := by
  cases l with
  | step i a =>
      obtain ⟨c, m', c', hi, rfl, -⟩ := managerStep_call hq
      exact Or.inr ⟨i, c, hi, returned_of_step hq hi⟩
  | exit n =>
      obtain rfl := Option.some.inj hq
      exact Or.inl (Manager.running_of_stop hx hrun).2
  | waited h now =>
      obtain ⟨m', hm', rfl⟩ := Option.map_eq_some_iff.1 hq
      obtain ⟨-, -, hproc, -⟩ := Manager.grows_waited hm'
      exact Or.inl (hproc ▸ hx)

end

namespace Runner

variable {host : Host} {r r' : Runner} {n : ℕ} {p q : Pool Manager ManagerCall}

theorem busy_set {n' i : ℕ} {c : ManagerCall}
    (h : Busy { r with supervisors := r.supervisors.set n q } n' i c) :
    (n' = n ∧ q.threads[i]? = some c ∧ returned c = false) ∨ (n' ≠ n ∧ r.Busy n' i c) := by
  obtain ⟨p', hp', hc, hbusy⟩ := h
  rcases getElem?_set_cases hp' with ⟨rfl, rfl⟩ | ⟨hne, hp'⟩
  · exact Or.inl ⟨rfl, hc, hbusy⟩
  · exact Or.inr ⟨hne, p', hp', hc, hbusy⟩

/-- A call that starts a process, when the operations come one after the other, is alone on its
key. -/
theorem NodeOk.startsAlone (hok : r.NodeOk) {l : SupervisorLabel} (hp : r.supervisors[n]? = some p)
    (hq : managerStep p l.label = some q) : StartsAlone p l.label := by
  cases l with
  | exit k => trivial
  | waited h now => trivial
  | step i a =>
      obtain ⟨c, m', c', hi, -, hstep⟩ := managerStep_call hq
      cases a with
      | lookup | answered | insert | snapshot | agentByID => trivial
      | started err raw now =>
          cases err with
          | some err => trivial
          | none =>
              intro d hd
              obtain rfl := Option.mem_unique hi hd
              rcases hstep with ⟨req, pc, pc', rfl, -, hs⟩ | ⟨req, pc, pc', rfl, -, hs⟩
              · have hpc : pc = .start := by cases hs <;> rfl
                subst hpc
                refine ⟨hok.absent n p req hp (List.mem_of_getElem? hi), fun d hd f hf => ?_⟩
                -- a call with a process in flight is under way, so it is this one
                obtain ⟨j, hj⟩ := List.mem_iff_getElem?.1 hd
                have hbusy := returned_of_flight hf
                obtain ⟨-, rfl⟩ := hok.single n i _ n j d ⟨p, hp, hi, rfl⟩ ⟨p, hp, hj, hbusy⟩
                obtain rfl := Option.mem_unique hi hj
                cases hf
              · trivial

/-- After a step, a call that is about to start a process has found its key free. -/
theorem NodeOk.absent_step (hok : r.NodeOk) {l : SupervisorLabel}
    (hp : r.supervisors[n]? = some p) (hq : managerStep p l.label = some q)
    {req : InstallAgentRequest} (hmem : .ensure req .start ∈ q.threads) :
    q.shared.agents.lookup (agentKey req.plan) = none := by
  cases l with
  | exit k =>
      obtain rfl := Option.some.inj hq
      exact hok.absent n p req hp hmem
  | waited h now =>
      obtain ⟨m', hm', rfl⟩ := Option.map_eq_some_iff.1 hq
      obtain ⟨-, hagents, -⟩ := Manager.grows_waited hm'
      show m'.agents.lookup _ = none
      rw [hagents]
      exact hok.absent n p req hp hmem
  | step i a =>
      obtain ⟨c, m', c', hi, rfl, hstep⟩ := managerStep_call hq
      obtain ⟨j, hj⟩ := List.mem_iff_getElem?.1 hmem
      have hci := returned_of_step hq hi
      rcases getElem?_set_cases hj with ⟨-, hc'⟩ | ⟨hji, hj⟩
      · rcases hstep with ⟨req', pc, pc', rfl, rfl, hs⟩ | ⟨req', pc, pc', rfl, rfl, -⟩
        · obtain ⟨rfl, rfl⟩ := ManagerCall.ensure.inj hc'
          cases hs with
          | absent hlookup => exact hlookup
        · cases hc'
      · obtain ⟨-, rfl⟩ := hok.single n i c n j _ ⟨p, hp, hi, hci⟩ ⟨p, hp, hj, rfl⟩
        exact absurd rfl hji

/-- **A step of a supervisor** keeps the node in order. -/
theorem NodeOk.moved (hok : r.NodeOk) {l : SupervisorLabel} (hp : r.supervisors[n]? = some p)
    (hq : managerStep p l.label = some q) :
    NodeOk { r with supervisors := r.supervisors.set n q } := by
  have hback : ∀ {n' i c}, Busy { r with supervisors := r.supervisors.set n q } n' i c →
      ∃ d, r.Busy n' i d := by
    intro n' i c hbusy
    rcases busy_set hbusy with ⟨rfl, hc, hc'⟩ | ⟨-, hold⟩
    · obtain ⟨d, hd, hd'⟩ := busy_before hq hc hc'
      exact ⟨d, p, hp, hd, hd'⟩
    · exact ⟨c, hold⟩
  refine ⟨?_, ?_, ?_, ?_, ?_, hok.apart, ?_⟩
  · intro n' p' hp'
    rcases getElem?_set_cases hp' with ⟨-, rfl⟩ | ⟨-, hp'⟩
    · exact (hok.agents n p hp).step (hok.startsAlone hp hq) hq
    · exact hok.agents n' p' hp'
  · intro n₁ i₁ c₁ n₂ i₂ c₂ h₁ h₂
    obtain ⟨d₁, h₁⟩ := hback h₁
    obtain ⟨d₂, h₂⟩ := hback h₂
    exact hok.single n₁ i₁ d₁ n₂ i₂ d₂ h₁ h₂
  · intro n' p' req hp' hmem
    rcases getElem?_set_cases hp' with ⟨-, rfl⟩ | ⟨-, hp'⟩
    · exact hok.absent_step hp hq hmem
    · exact hok.absent n' p' req hp' hmem
  · intro n' i c hbusy
    obtain ⟨d, hbusy⟩ := hback hbusy
    exact hok.serves n' i d hbusy
  · intro n' p' k x hp' hx hrun
    rcases getElem?_set_cases hp' with ⟨rfl, rfl⟩ | ⟨-, hp'⟩
    · rcases running_before hq hx hrun with hx | ⟨i, c, hc, hbusy⟩
      · exact hok.hosted n' p k x hp hx hrun
      · exact hok.serves n' i c ⟨p, hp, hc, hbusy⟩
    · exact hok.hosted n' p' k x hp' hx hrun
  · intro id h hget
    rw [List.length_set]
    exact hok.started id h hget

theorem Idle.not_busy (hidle : r.Idle) {i : ℕ} {c : ManagerCall} : ¬r.Busy n i c := by
  rintro ⟨p, hp, hc, hbusy⟩
  rw [hidle p (List.mem_of_getElem? hp) c (List.mem_of_getElem? hc)] at hbusy
  cases hbusy

/-- **A call that begins** while no other is under way. -/
theorem NodeOk.began (hok : r.NodeOk) (hidle : r.Idle) {req : ManagerRequest} (hhost : r.Hosts n)
    (hp : r.supervisors[n]? = some p) (hq : managerStep p (.calls (.spawn req)) = some q) :
    NodeOk { r with supervisors := r.supervisors.set n q } := by
  have hagents : AgentsOk q := (hok.agents n p hp).step (l := .calls (.spawn req)) trivial hq
  obtain ⟨c, hc, hq'⟩ := Pool.step_spawn.1 (show p.step _ _ = some q from hq)
  have hshared : q.shared = p.shared := hq' ▸ rfl
  have hthreads : q.threads = p.threads ++ [c] := hq' ▸ rfl
  -- the call that begins is the only one
  have honly : ∀ {n' i d}, Busy { r with supervisors := r.supervisors.set n q } n' i d →
      n' = n ∧ i = p.threads.length := by
    intro n' i d hbusy
    rcases busy_set hbusy with ⟨rfl, hd, hd'⟩ | ⟨-, hold⟩
    · rw [hthreads] at hd
      rcases getElem?_concat_cases hd with ⟨hi, -⟩ | hd
      · exact ⟨rfl, hi⟩
      · exact absurd ⟨p, hp, hd, hd'⟩ hidle.not_busy
    · exact absurd hold hidle.not_busy
  refine ⟨?_, ?_, ?_, ?_, ?_, hok.apart, ?_⟩
  · intro n' p' hp'
    rcases getElem?_set_cases hp' with ⟨-, rfl⟩ | ⟨-, hp'⟩
    · exact hagents
    · exact hok.agents n' p' hp'
  · intro n₁ i₁ c₁ n₂ i₂ c₂ h₁ h₂
    exact ⟨(honly h₁).1.trans (honly h₂).1.symm, (honly h₁).2.trans (honly h₂).2.symm⟩
  · intro n' p' req' hp' hmem
    rcases getElem?_set_cases hp' with ⟨-, rfl⟩ | ⟨-, hp'⟩
    · rw [hthreads] at hmem
      rw [hshared]
      rcases List.mem_append.1 hmem with hmem | hmem
      · exact hok.absent n p req' hp hmem
      · obtain rfl := List.mem_singleton.1 hmem
        cases req <;> cases hc
    · exact hok.absent n' p' req' hp' hmem
  · intro n' i d hbusy
    rw [(honly hbusy).1]
    exact hhost
  · intro n' p' k x hp' hx hrun
    rcases getElem?_set_cases hp' with ⟨rfl, rfl⟩ | ⟨-, hp'⟩
    · rw [hshared] at hx
      exact hok.hosted n' p k x hp hx hrun
    · exact hok.hosted n' p' k x hp' hx hrun
  · intro id h hget
    rw [List.length_set]
    exact hok.started id h hget

/-- The handle under `id` is taken away, and new supervisors may be started; if there is a
handle under `id` again, its supervisor is a new one. -/
structure Taken (r : Runner) (id : String) (new : List (Pool Manager ManagerCall)) (r' : Runner) :
    Prop where
  supervisors : r'.supervisors = r.supervisors ++ new
  fresh : ∀ p ∈ new, p.threads = [] ∧ p.shared.processes = [] ∧ AgentsOk p
  kept : ∀ id', id' ≠ id → r'.containers.get id' = r.containers.get id'
  own : ∀ h, r'.containers.get id = some h →
    r.supervisors.length ≤ h.supervisor ∧ h.supervisor < r'.supervisors.length

theorem taken_provision (host : Host) (r : Runner) (req : CreateContainerRequest) (raw : String)
    (now : Time) :
    r.Taken (containerID req raw) [⟨newManager (containerID req raw) host.environ, []⟩]
      (r.provisionContainer host req raw now).1 where
  supervisors := by
    show r.supervisors ++ [_] = _
    rw [newHandle_id]
  fresh p hp := by
    obtain rfl := List.mem_singleton.1 hp
    exact ⟨rfl, rfl, AgentsOk.new _ _⟩
  kept id' hid' := by
    rw [provisionContainer_containers]
    exact Table.get_upsert_of_ne _ (by rwa [newHandle_id])
  own h hget := by
    rcases r.provisionContainer_get host req raw now hget with ⟨-, rfl⟩ | ⟨hne, -⟩
    · rw [newHandle_supervisor]
      refine ⟨le_rfl, ?_⟩
      show _ < (r.supervisors ++ [_]).length
      rw [List.length_append]
      exact Nat.lt_succ_self _
    · exact absurd rfl hne

theorem taken_delete (r : Runner) (id : String) : r.Taken id [] (r.deleteContainer id).1 where
  supervisors := by
    unfold deleteContainer
    split <;> exact (List.append_nil _).symm
  fresh p hp := by cases hp
  kept id' hid' := by
    unfold deleteContainer
    split
    · exact Table.get_erase_of_ne _ hid'
    · rfl
  own h hget := by
    rw [deleteContainer_get_self] at hget
    cases hget

section

variable {id : String} {new : List (Pool Manager ManagerCall)}

theorem Taken.cases (ht : r.Taken id new r') (hp : r'.supervisors[n]? = some p) :
    r.supervisors[n]? = some p ∨ p ∈ new := by
  rw [ht.supervisors] at hp
  by_cases hn : n < r.supervisors.length
  · exact Or.inl (by rwa [List.getElem?_append_left hn] at hp)
  · rw [List.getElem?_append_right (Nat.le_of_not_lt hn)] at hp
    exact Or.inr (List.mem_of_getElem? hp)

theorem Taken.supervisor_eq (ht : r.Taken id new r') (hp : r.supervisors[n]? = some p) :
    r'.supervisors[n]? = some p := by
  rw [ht.supervisors]
  exact getElem?_append_of_some _ hp

theorem Taken.idle (ht : r.Taken id new r') (hidle : r.Idle) : r'.Idle := by
  intro p hp c hc
  rw [ht.supervisors] at hp
  rcases List.mem_append.1 hp with hp | hp
  · exact hidle p hp c hc
  · rw [(ht.fresh p hp).1] at hc
    cases hc

/-- **A container is taken away** whose agents have ended. -/
theorem NodeOk.taken (hok : r.NodeOk) (hidle : r.Idle) (ht : r.Taken id new r')
    (hsilent : r.Silent id) : r'.NodeOk := by
  have hidle' := ht.idle hidle
  refine ⟨?_, fun n i c n' i' c' h => absurd h hidle'.not_busy, ?_,
    fun n i c h => absurd h hidle'.not_busy, ?_, ?_, ?_⟩
  · intro n p hp
    rcases ht.cases hp with hp | hp
    · exact hok.agents n p hp
    · exact (ht.fresh p hp).2.2
  · intro n p req hp hmem
    have hret : returned (.ensure req .start) = true :=
      hidle' p (List.mem_of_getElem? hp) _ hmem
    cases hret
  · intro n p k x hp hx hrun
    rcases ht.cases hp with hp | hp
    · obtain ⟨id', h, hget, rfl⟩ := hok.hosted n p k x hp hx hrun
      by_cases hid : id' = id
      · subst hid
        rw [hsilent h hget p hp x (List.mem_of_getElem? hx)] at hrun
        cases hrun
      · exact ⟨id', h, (ht.kept id' hid).trans hget, rfl⟩
    · rw [(ht.fresh p hp).2.1] at hx
      cases hx
  · -- the supervisor of the handle that is new is not that of an old one
    intro id₁ h₁ id₂ h₂ hget₁ hget₂ heq
    by_cases hid₁ : id₁ = id
    · by_cases hid₂ : id₂ = id
      · exact hid₁.trans hid₂.symm
      · rw [ht.kept id₂ hid₂] at hget₂
        have hlt := hok.started id₂ h₂ hget₂
        have hle := (ht.own h₁ (hid₁ ▸ hget₁)).1
        omega
    · rw [ht.kept id₁ hid₁] at hget₁
      have hlt := hok.started id₁ h₁ hget₁
      by_cases hid₂ : id₂ = id
      · have hle := (ht.own h₂ (hid₂ ▸ hget₂)).1
        omega
      · rw [ht.kept id₂ hid₂] at hget₂
        exact hok.apart id₁ h₁ id₂ h₂ hget₁ hget₂ heq
  · intro id' h hget
    by_cases hid : id' = id
    · exact (ht.own h (hid ▸ hget)).2
    · rw [ht.kept id' hid] at hget
      have hlt := hok.started id' h hget
      rw [ht.supervisors, List.length_append]
      omega

/-- **A container is taken away** and leaves no orphan: its agents have ended. -/
theorem NodeOk.silent_of_noOrphan (hok : r.NodeOk) (ht : r.Taken id new r')
    (hno : r'.NoOrphan) : r.Silent id := by
  intro h hget p hp x hx
  by_contra hrun
  obtain ⟨k, hk⟩ := List.mem_iff_getElem?.1 hx
  obtain ⟨⟨id', h', hget', heq⟩, -⟩ :=
    hno h.supervisor p k x (ht.supervisor_eq hp) hk (eq_true_of_ne_false hrun)
  by_cases hid : id' = id
  · have hle := (ht.own h' (hid ▸ hget')).1
    have hlt := hok.started id h hget
    omega
  · rw [ht.kept id' hid] at hget'
    exact hid (hok.apart id' h' id h hget' hget heq)

end

/-- **A step of the operations one after the other**, which takes no container away whose
agents run. -/
theorem NodeOk.step {l : NodeLabel} (hok : r.NodeOk) (hone : r.OneByOne l) (htakes : r.TakesNone l)
    (hs : r.nodeStep host l = some r') : r'.NodeOk := by
  cases nodeStep_spec hs with
  | provisioned req raw now => exact hok.taken hone (r.taken_provision host req raw now) htakes
  | refused req raw now err => exact hok
  | deleted id => exact hok.taken hone (r.taken_delete id) htakes
  | notFound req => exact hok
  | began req h p q hget hp hq => exact hok.began hone ⟨_, h, hget, rfl⟩ hp hq
  | moved n l p q hp hq => exact hok.moved hp hq

/-- A step that leaves no orphan takes no container away whose agents run. -/
theorem NodeOk.takesNone {l : NodeLabel} (hok : r.NodeOk) (hone : r.OneByOne l)
    (hs : r.nodeStep host l = some r') (hno : r'.Idle → r'.NoOrphan) : r.TakesNone l := by
  cases nodeStep_spec hs with
  | provisioned req raw now =>
      have ht := r.taken_provision host req raw now
      exact hok.silent_of_noOrphan ht (hno (ht.idle hone))
  | deleted id =>
      have ht := r.taken_delete id
      exact hok.silent_of_noOrphan ht (hno (ht.idle hone))
  | refused | notFound | began | moved => trivial

theorem NodeOk.noOrphan (hok : r.NodeOk) (hidle : r.Idle) : r.NoOrphan := by
  intro n p k x hp hx hrun
  refine ⟨hok.hosted n p k x hp hx hrun, x.key, ?_⟩
  rcases (hok.agents n p hp).flights.owned k x hx hrun with hent | ⟨i, hi⟩
  · exact hent
  · obtain ⟨c, hc, hfl⟩ := Option.bind_eq_some_iff.1 hi
    exact absurd ⟨p, hp, hc, returned_of_flight hfl⟩ hidle.not_busy

theorem not_noOrphan (hrun : ∃ p ∈ r.supervisors[n]?, ∃ x ∈ p.shared.processes, x.running = true)
    (hnone : ∀ h ∈ r.containers.toList, h.supervisor ≠ n) : ¬r.NoOrphan := by
  obtain ⟨p, hp, x, hx, hxrun⟩ := hrun
  obtain ⟨k, hk⟩ := List.mem_iff_getElem?.1 hx
  intro hno
  obtain ⟨⟨id, h, hget, heq⟩, -⟩ := hno n p k x hp hk hxrun
  obtain rfl := Table.key_of_get hget
  exact hnone h (Table.mem_toList.2 hget) heq

theorem NodeOk.new (nodeID root : String) : (newRunner nodeID root).NodeOk where
  agents n p hp := by cases hp
  single n i c n' i' c' h := by
    obtain ⟨p, hp, -⟩ := h
    cases hp
  absent n p req hp := by cases hp
  serves n i c h := by
    obtain ⟨p, hp, -⟩ := h
    cases hp
  hosted n p k x hp := by cases hp
  apart id h id' h' hget := by cases hget
  started id h hget := by cases hget

end Runner

open Runner

/-- **Orphans come from containers that are taken away.**  In a run of a new node, in which
the operations come one after the other, there is no orphan between two of them exactly when
`DeleteContainer`, and `ProvisionContainer` for an id that is in use, are called only for
containers whose agents have all ended. -/
theorem noOrphan_iff_takesNone {host : Host} {nodeID root : String} {l : List NodeLabel}
    {r : Runner} (hl : Along (nodeStep host) OneByOne (newRunner nodeID root) l)
    (h : exec (nodeStep host) (newRunner nodeID root) l = some r) :
    (∀ l' r', l' <+: l → exec (nodeStep host) (newRunner nodeID root) l' = some r' →
        r'.Idle → r'.NoOrphan) ↔
      Along (nodeStep host) TakesNone (newRunner nodeID root) l := by
  constructor
  · intro hall
    exact along_of_good (I := NodeOk) (G := fun r => r.Idle → r.NoOrphan)
      (fun s a t hok hone htakes hs => hok.step hone htakes hs)
      (fun s a t hok hone hs hno => hok.takesNone hone hs hno) (NodeOk.new nodeID root) hl h hall
  · rintro htakes l' r' ⟨l'', rfl⟩ h' hidle
    have hboth := hl.of_append.and htakes.of_append
    exact (exec_invariant (fun s a t hok hC hs => hok.step hC.1 hC.2 hs)
      (NodeOk.new nodeID root) hboth h').noOrphan hidle

/-- A container is provisioned and an agent is started in it, by the first call of supervisor
`n`. -/
def startAgent (id : String) (n : ℕ) : List NodeLabel :=
  [.runner (.provision { id } "" 1 none),
    .call (.ensureAgent { containerID := id, plan := planOf "echo" "sha256:1" }),
    .supervisor n (.step 0 .lookup), .supervisor n (.step 0 (.started none "1" 2)),
    .supervisor n (.step 0 (.answered (.ok {}) 3)), .supervisor n (.step 0 .insert),
    .supervisor n (.step 0 .snapshot)]

/-- The agent of a container ends before the container is deleted, and the agent of the next
one before it is provisioned again. -/
def agentsEnd : List NodeLabel :=
  startAgent "ctr_1" 0 ++ [.supervisor 0 (.exit 0), .runner (.delete "ctr_1")] ++
    startAgent "ctr_1" 1 ++ [.supervisor 1 (.exit 0)] ++ startAgent "ctr_1" 2

/-- No process is orphaned in that run. -/
theorem agentsEnd_noOrphan :
    (exec (nodeStep {}) (newRunner "node-1" "/var/agentd") agentsEnd).isSome = true ∧
      ∀ l' r', l' <+: agentsEnd →
        exec (nodeStep {}) (newRunner "node-1" "/var/agentd") l' = some r' →
          r'.Idle → r'.NoOrphan := by
  have hsome : (exec (nodeStep {}) (newRunner "node-1" "/var/agentd") agentsEnd).isSome = true := by
    decide +kernel
  obtain ⟨r, hr⟩ := Option.isSome_iff_exists.1 hsome
  exact ⟨hsome, (noOrphan_iff_takesNone (by decide +kernel) hr).2 (by decide +kernel)⟩

/-- **A container is deleted, and its agent goes on**: the process runs and no container is
left that it could belong to.  The same when the container is provisioned again. -/
theorem deletedContainer_orphans_agent :
    (∃ r ∈ exec (nodeStep {}) (newRunner "node-1" "/var/agentd")
        (startAgent "ctr_1" 0 ++ [.runner (.delete "ctr_1")]), r.Idle ∧ ¬r.NoOrphan) ∧
      ∃ r ∈ exec (nodeStep {}) (newRunner "node-1" "/var/agentd")
        (startAgent "ctr_1" 0 ++ [.runner (.provision { id := "ctr_1" } "" 4 none)]),
        r.Idle ∧ ¬r.NoOrphan := by
  constructor
  · obtain ⟨r, hr, hidle, hrun, hnone⟩ : ∃ r ∈ exec (nodeStep {})
        (newRunner "node-1" "/var/agentd") (startAgent "ctr_1" 0 ++ [.runner (.delete "ctr_1")]),
        r.Idle ∧ (∃ p ∈ r.supervisors[0]?, ∃ x ∈ p.shared.processes, x.running = true) ∧
          ∀ h ∈ r.containers.toList, h.supervisor ≠ 0 := by
      decide +kernel
    exact ⟨r, hr, hidle, not_noOrphan hrun hnone⟩
  · obtain ⟨r, hr, hidle, hrun, hnone⟩ : ∃ r ∈ exec (nodeStep {})
        (newRunner "node-1" "/var/agentd")
        (startAgent "ctr_1" 0 ++ [.runner (.provision { id := "ctr_1" } "" 4 none)]),
        r.Idle ∧ (∃ p ∈ r.supervisors[0]?, ∃ x ∈ p.shared.processes, x.running = true) ∧
          ∀ h ∈ r.containers.toList, h.supervisor ≠ 0 := by
      decide +kernel
    exact ⟨r, hr, hidle, not_noOrphan hrun hnone⟩

end NodeRuntime
end Agentd
