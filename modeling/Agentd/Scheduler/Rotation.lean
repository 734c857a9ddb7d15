/-
# The rotation of the nodes

The fallback of `SelectPlacement` (`scheduler/round_robin.go`) while any number of calls are
under way.  Up to the mutex a call only reads, so that part is one step, and the critical
section, which takes the next node and counts on, is another.  The order in which the calls take
the mutex is the order of these steps in the run.

`next` is never reset, so it overflows in the end; then the remainder is negative and the index is
out of range.  `rotation_fair` says what happens before that: the calls get the nodes in turn, and
any two positions of the list are taken equally often, up to one.
-/

import Agentd.Concurrency.Pool
import Agentd.Scheduler.RoundRobin
import Mathlib.Data.Int.CardIntervalMod

namespace Agentd
namespace Scheduler

open Control Concurrency

/-- Where a call stands: before `ListContainers`; before `s.mu.Lock()`; at its end, with the index
at which it has read `s.Nodes`, if it has; or after the panic of an index out of range. -/
inductive SelectPC
  | listContainers
  | lock
  | returned (index : Option ℕ) (res : Except Err Placement)
  | panic

/-- A call of `SelectPlacement`. -/
structure SelectCall where
  plan : ExecutionPlan
  pc : SelectPC := .listContainers

/-- What happens next to a call: `ListContainers` answers, or it has its turn with the mutex. -/
inductive SelectLabel
  | listed (answer : Except Err (List Container))
  | turn

/-- One step of `SelectPlacement`. -/
def SelectCall.run (s : RoundRobin) (c : SelectCall) (l : SelectLabel) :
    Option (RoundRobin × SelectCall) :=
  match c.pc, l with
  | .listContainers, .listed answer =>
      match scan s.nodes answer c.plan with
      | some res => some (s, { c with pc := .returned none res })
      | none => some (s, { c with pc := .lock })
  | .lock, .turn =>
      match s.turn with
      | none => some (s, { c with pc := .panic })
      | some node =>
          some ({ s with next := s.next + 1 },
            { c with pc := .returned (some s.index.toNat) (.ok (onNode node)) })
  | _, _ => none

/-- The calls of a scheduler. -/
def selectMachine : Machine RoundRobin SelectCall ExecutionPlan SelectLabel where
  start _ plan := some { plan }
  run _ := SelectCall.run

/-- The calls that have taken the mutex, in the order in which they took it. -/
def takers (l : List (PoolLabel ExecutionPlan SelectLabel)) : List ℕ :=
  l.filterMap fun
    | .step t .turn => some t
    | _ => none

/-- The index at which the call has read `s.Nodes`. -/
def SelectCall.index (c : SelectCall) : Option ℕ :=
  match c.pc with
  | .returned index _ => index
  | .listContainers | .lock | .panic => none

/-- How many calls have taken the node at this position. -/
def picks (calls : List SelectCall) (position : ℕ) : ℕ :=
  calls.countP fun c => c.index = some position

/-- What a step of `SelectPlacement` can do. -/
inductive SelectStep (s : RoundRobin) (c : SelectCall) :
    SelectLabel → RoundRobin → SelectCall → Prop
  | scanned (answer : Except Err (List Container)) (res : Except Err Placement)
      (hpc : c.pc = .listContainers) (hscan : scan s.nodes answer c.plan = some res) :
      SelectStep s c (.listed answer) s { c with pc := .returned none res }
  | fallback (answer : Except Err (List Container)) (hpc : c.pc = .listContainers)
      (hscan : scan s.nodes answer c.plan = none) :
      SelectStep s c (.listed answer) s { c with pc := .lock }
  | panic (hpc : c.pc = .lock) (hturn : s.turn = none) :
      SelectStep s c .turn s { c with pc := .panic }
  | turned (node : String) (hpc : c.pc = .lock) (hturn : s.turn = some node) :
      SelectStep s c .turn { s with next := s.next + 1 }
        { c with pc := .returned (some s.index.toNat) (.ok (onNode node)) }

section

variable {s s' : RoundRobin} {c c' : SelectCall} {l : SelectLabel}

/-- **A step of `SelectPlacement` is one of `SelectStep`.** -/
theorem SelectCall.run_spec (h : c.run s l = some (s', c')) : SelectStep s c l s' c' := by
  unfold SelectCall.run at h
  split at h
  · next answer hpc =>
      split at h
      · next res hscan =>
          obtain ⟨rfl, rfl⟩ := some_pair_inj h
          exact .scanned answer res hpc hscan
      · next hscan =>
          obtain ⟨rfl, rfl⟩ := some_pair_inj h
          exact .fallback answer hpc hscan
  · next hpc =>
      split at h
      · next hturn =>
          obtain ⟨rfl, rfl⟩ := some_pair_inj h
          exact .panic hpc hturn
      · next node hturn =>
          obtain ⟨rfl, rfl⟩ := some_pair_inj h
          exact .turned node hpc hturn
  · cases h

theorem SelectCall.run_turn {node : String} (hpc : c.pc = .lock) (hturn : s.turn = some node) :
    c.run s .turn = some ({ s with next := s.next + 1 },
      { c with pc := .returned (some s.index.toNat) (.ok (onNode node)) }) := by
  simp only [SelectCall.run, hpc, hturn]

/-- **Before the overflow** the index is the remainder of the counter, and in range. -/
theorem RoundRobin.turn_of_next {k : ℕ} (hnodes : s.nodes ≠ []) (hk : s.next.toInt = k) :
    s.index = (k % s.nodes.length : ℕ) ∧ ∃ node, s.nodes[k % s.nodes.length]? = some node ∧
      s.turn = some node := by
  have hpos : 0 < s.nodes.length := List.length_pos_iff.2 hnodes
  have hlt : k % s.nodes.length < s.nodes.length := Nat.mod_lt k hpos
  have hindex : s.index = (k % s.nodes.length : ℕ) := by
    rw [RoundRobin.index, hk, Int.ofNat_tmod]
  refine ⟨hindex, s.nodes[k % s.nodes.length], List.getElem?_eq_getElem hlt, ?_⟩
  rw [RoundRobin.turn, hindex, if_neg (by omega), Int.toNat_natCast]
  exact List.getElem?_eq_getElem hlt

theorem toInt_next {n : Int64} {k : ℕ} (hk : n.toInt = k) (hroom : (k : ℤ) < Int64.maxValue.toInt) :
    (n + 1).toInt = (k + 1 : ℕ) := by
  have hmax : Int64.maxValue.toInt = 2 ^ 63 - 1 := by decide
  have hone : (1 : Int64).toInt = 1 := by decide
  rw [Int64.toInt_add, hk, hone, Int.bmod_eq_of_le (by omega) (by omega)]
  omega

end

/-- The number of `i < m` for which `k + i` has the remainder `a`. -/
theorem count_window (n k m a : ℕ) :
    m.count (fun i => (k + i) % n = a) =
      (k + m).count (fun i => i % n = a) - k.count (fun i => i % n = a) := by
  rw [Nat.count_add, Nat.add_sub_cancel_left]

theorem count_remainder {n a : ℕ} (ha : a < n) (b : ℕ) :
    b.count (fun i => i % n = a) = b / n + if a < b % n then 1 else 0 := by
  have hmod := Nat.count_modEq_card (b := b) (r := n) (by omega) a
  simp only [Nat.ModEq, Nat.mod_eq_of_lt ha] at hmod
  exact hmod

/-- **Any `m` numbers in a row** have any two remainders equally often, up to one. -/
theorem count_remainders_balanced {n a b : ℕ} (k m : ℕ) (ha : a < n) (hb : b < n) :
    m.count (fun i => (k + i) % n = a) ≤ m.count (fun i => (k + i) % n = b) + 1 := by
  have hle : k / n ≤ (k + m) / n := Nat.div_le_div_right (Nat.le_add_right k m)
  have hmono : k / n = (k + m) / n → k % n ≤ (k + m) % n := by
    intro heq
    have hk := Nat.div_add_mod k n
    have hkm := Nat.div_add_mod (k + m) n
    rw [← heq] at hkm
    omega
  rw [count_window n k m a, count_window n k m b, count_remainder ha, count_remainder ha,
    count_remainder hb, count_remainder hb]
  split_ifs <;> omega

/-- The call has got the node at this position. -/
def Got (nodes : List String) (position : ℕ) (c : SelectCall) : Prop :=
  ∃ node, nodes[position]? = some node ∧
    c.pc = .returned (some position) (.ok (onNode node))

/-- After a run of `past`, from the counter `k`. -/
structure RotaOk (nodes : List String) (k : ℕ) (past : List (PoolLabel ExecutionPlan SelectLabel))
    (q : Pool RoundRobin SelectCall) : Prop where
  same : q.shared.nodes = nodes
  next : q.shared.next.toInt = (k + (takers past).length : ℕ)
  taken : ∀ (i t : ℕ), (takers past)[i]? = some t →
    ∃ c, q.threads[t]? = some c ∧ Got nodes ((k + i) % nodes.length) c
  positions : (q.threads.filterMap SelectCall.index).Perm
    ((List.range (takers past).length).map fun i => (k + i) % nodes.length)
  inRange : ∀ c ∈ q.threads, c.pc ≠ .panic

section

variable {nodes : List String} {k : ℕ} {past : List (PoolLabel ExecutionPlan SelectLabel)}
  {q q' : Pool RoundRobin SelectCall}

theorem takers_concat (past : List (PoolLabel ExecutionPlan SelectLabel))
    (l : PoolLabel ExecutionPlan SelectLabel) :
    takers (past ++ [l]) = takers past ++ takers [l] := List.filterMap_append

theorem Got.not_run {s : RoundRobin} {c : SelectCall} {position : ℕ} {l : SelectLabel}
    (h : Got nodes position c) : c.run s l = none := by
  obtain ⟨node, -, hpc⟩ := h
  unfold SelectCall.run
  rw [hpc]

/-- A step of a call that is not its turn. -/
theorem RotaOk.move (h : RotaOk nodes k past q) {t : ℕ} {c c' : SelectCall} {l : SelectLabel}
    (ht : q.threads[t]? = some c) (hrun : c.run q.shared l = some (q.shared, c'))
    (hindex : c'.index = c.index) (hpanic : c'.pc ≠ .panic) (htakers : takers [.step t l] = []) :
    RotaOk nodes k (past ++ [.step t l]) { q with threads := q.threads.set t c' } := by
  have hsame : takers (past ++ [.step t l]) = takers past := by
    rw [takers_concat, htakers, List.append_nil]
  refine ⟨h.same, ?_, ?_, ?_, ?_⟩
  · rw [hsame]
    exact h.next
  · intro i t' hi
    rw [hsame] at hi
    obtain ⟨d, hd, hgot⟩ := h.taken i t' hi
    have hne : t' ≠ t := by
      rintro rfl
      obtain rfl := Option.mem_unique hd ht
      rw [hgot.not_run] at hrun
      cases hrun
    exact ⟨d, (List.getElem?_set_ne (Ne.symm hne)).trans hd, hgot⟩
  · rw [hsame]
    show ((q.threads.set t c').filterMap _).Perm _
    rw [filterMap_set_of_eq ht hindex]
    exact h.positions
  · intro d hd
    rcases List.mem_or_eq_of_mem_set hd with hd | rfl
    · exact h.inRange d hd
    · exact hpanic

/-- **The turn of a call**: it gets the node at the position of the counter. -/
theorem RotaOk.turn (h : RotaOk nodes k past q) (hnodes : nodes ≠ []) {t : ℕ} {c : SelectCall}
    {node : String} (hroom : ((k + (takers past).length : ℕ) : ℤ) < Int64.maxValue.toInt)
    (ht : q.threads[t]? = some c) (hpc : c.pc = .lock) (hturn : q.shared.turn = some node) :
    RotaOk nodes k (past ++ [.step t .turn])
      { shared := { q.shared with next := q.shared.next + 1 },
        threads := q.threads.set t
          { c with pc := .returned (some q.shared.index.toNat) (.ok (onNode node)) } } := by
  obtain ⟨hindex, node', hnode', hturn'⟩ :=
    RoundRobin.turn_of_next (h.same.symm ▸ hnodes : q.shared.nodes ≠ []) h.next
  obtain rfl : node = node' := Option.mem_unique hturn hturn'
  rw [h.same] at hindex hnode'
  have hposition : q.shared.index.toNat = (k + (takers past).length) % nodes.length := by
    rw [hindex, Int.toNat_natCast]
  have htakers : takers (past ++ [.step t .turn]) = takers past ++ [t] := takers_concat _ _
  rw [hposition]
  refine ⟨h.same, ?_, ?_, ?_, ?_⟩
  · show (q.shared.next + 1).toInt = _
    rw [toInt_next h.next hroom, htakers, List.length_append, List.length_singleton]
    rfl
  · intro i t' hi
    rw [htakers] at hi
    rcases getElem?_concat_cases hi with ⟨rfl, rfl⟩ | hi
    · exact ⟨_, getElem?_set_of_some _ ht, node, hnode', rfl⟩
    · obtain ⟨d, hd, hgot⟩ := h.taken i t' hi
      have hne : t' ≠ t := by
        rintro rfl
        obtain rfl := Option.mem_unique hd ht
        obtain ⟨_, -, hret⟩ := hgot
        rw [hpc] at hret
        cases hret
      exact ⟨d, (List.getElem?_set_ne (Ne.symm hne)).trans hd, hgot⟩
  · have hnone : c.index = none := by
      rw [SelectCall.index, hpc]
    rw [htakers, List.length_append, List.length_singleton, List.range_succ, List.map_append]
    exact (filterMap_set_perm ht hnone rfl).trans (h.positions.append_right _)
  · intro d hd
    rcases List.mem_or_eq_of_mem_set hd with hd | rfl
    · exact h.inRange d hd
    · exact SelectPC.noConfusion

/-- **A step of the calls.** -/
theorem RotaOk.step (h : RotaOk nodes k past q) (hnodes : nodes ≠ [])
    {l : PoolLabel ExecutionPlan SelectLabel}
    (hroom : ((k + (takers (past ++ [l])).length : ℕ) : ℤ) < Int64.maxValue.toInt)
    (hstep : q.step selectMachine l = some q') : RotaOk nodes k (past ++ [l]) q' := by
  cases l with
  | spawn plan =>
      obtain ⟨c, hc, rfl⟩ := Pool.step_spawn.1 hstep
      obtain rfl := Option.some.inj hc
      have hsame : takers (past ++ [.spawn plan]) = takers past := by
        rw [takers_concat]
        exact List.append_nil _
      refine ⟨h.same, ?_, ?_, ?_, ?_⟩
      · rw [hsame]
        exact h.next
      · intro i t hi
        rw [hsame] at hi
        obtain ⟨d, hd, hgot⟩ := h.taken i t hi
        exact ⟨d, getElem?_append_of_some _ hd, hgot⟩
      · rw [hsame, List.filterMap_append]
        exact (List.append_nil _).symm ▸ h.positions
      · intro d hd
        rcases List.mem_append.1 hd with hd | hd
        · exact h.inRange d hd
        · obtain rfl := List.mem_singleton.1 hd
          exact SelectPC.noConfusion
  | step t l =>
      obtain ⟨c, s', c', ht, hrun, rfl⟩ := Pool.step_run.1 hstep
      have hrun' : c.run q.shared l = some (s', c') := hrun
      cases SelectCall.run_spec hrun with
      | scanned answer res hpc hscan =>
          have hindex : c.index = none := by
            rw [SelectCall.index, hpc]
          exact h.move ht hrun' hindex.symm SelectPC.noConfusion rfl
      | fallback answer hpc hscan =>
          have hindex : c.index = none := by
            rw [SelectCall.index, hpc]
          exact h.move ht hrun' hindex.symm SelectPC.noConfusion rfl
      | panic hpc hturn =>
          obtain ⟨-, node, -, hturn'⟩ :=
            RoundRobin.turn_of_next (h.same.symm ▸ hnodes : q.shared.nodes ≠ []) h.next
          rw [hturn] at hturn'
          cases hturn'
      | turned node hpc hturn =>
          refine h.turn hnodes ?_ ht hpc hturn
          rw [takers_concat, List.length_append] at hroom
          omega

/-- **A run of the calls.** -/
theorem rotaOk_of_exec {c : Int64} {l : List (PoolLabel ExecutionPlan SelectLabel)}
    (hnodes : nodes ≠ []) (hc : c.toInt = k)
    (hroom : ((k + (takers l).length : ℕ) : ℤ) < Int64.maxValue.toInt)
    (h : exec (Pool.step selectMachine) ⟨{ nodes, next := c }, []⟩ l = some q) :
    RotaOk nodes k l q := by
  have hrun := exec_history_of_step
    (I := fun q past => ((k + (takers (past.map Prod.snd)).length : ℕ) : ℤ) < Int64.maxValue.toInt →
      RotaOk nodes k (past.map Prod.snd) q)
    (fun s past a t hs hstep hlt => ?_) ?_ h
  · rw [map_snd_history h] at hrun
    exact hrun hroom
  · rw [List.map_append, List.map_singleton] at hlt ⊢
    refine (hs ?_).step hnodes hlt hstep
    rw [takers_concat, List.length_append] at hlt
    omega
  · intro _
    refine ⟨rfl, hc, ?_, List.Perm.refl _, ?_⟩
    · intro i t hi
      cases hi
    · intro d hd
      cases hd

theorem RotaOk.picks_eq (h : RotaOk nodes k past q) (position : ℕ) :
    picks q.threads position =
      (takers past).length.count fun i => (k + i) % nodes.length = position := by
  have hcount := h.positions.countP_eq fun j => j = position
  rw [List.countP_filterMap, List.countP_map] at hcount
  refine Eq.trans (List.countP_congr fun c _ => ?_) hcount
  cases c.index <;> simp

end

/-- **The rotation is in bounds, in turn and fair.**  The nodes are not empty, the counter begins at
`c ≥ 0`, and any calls run at once, of which so many have taken the mutex that the counter stays
below the greatest `int`.  Then no index is out of range; the call that took the mutex as number
`i` has returned the node at position `(c + i) % n`; a call that waits for the mutex can have it;
and any two positions have been taken equally often, up to one. -/
theorem rotation_fair {nodes : List String} {c : Int64} {q : Pool RoundRobin SelectCall}
    {l : List (PoolLabel ExecutionPlan SelectLabel)} (hnodes : nodes ≠ []) (hc : 0 ≤ c.toInt)
    (h : exec (Pool.step selectMachine) ⟨{ nodes, next := c }, []⟩ l = some q)
    (hroom : c.toInt + (takers l).length < Int64.maxValue.toInt) :
    (∀ call ∈ q.threads, call.pc ≠ .panic) ∧
      (∀ (i t : ℕ), (takers l)[i]? = some t → ∃ call node, q.threads[t]? = some call ∧
        nodes[(c.toInt.toNat + i) % nodes.length]? = some node ∧
          call.pc = .returned (some ((c.toInt.toNat + i) % nodes.length)) (.ok (onNode node))) ∧
      (∀ (t : ℕ) call, q.threads[t]? = some call → call.pc = .lock →
        ∃ q', q.step selectMachine (.step t .turn) = some q') ∧
      ∀ a b, a < nodes.length → b < nodes.length →
        picks q.threads a ≤ picks q.threads b + 1 := by
  have hk : c.toInt = (c.toInt.toNat : ℕ) := (Int.toNat_of_nonneg hc).symm
  have hroom' : ((c.toInt.toNat + (takers l).length : ℕ) : ℤ) < Int64.maxValue.toInt := by omega
  have hok := rotaOk_of_exec hnodes hk hroom' h
  refine ⟨hok.inRange, ?_, ?_, ?_⟩
  · intro i t hi
    obtain ⟨call, hcall, node, hnode, hpc⟩ := hok.taken i t hi
    exact ⟨call, node, hcall, hnode, hpc⟩
  · intro t call ht hpc
    obtain ⟨-, node, -, hturn⟩ :=
      RoundRobin.turn_of_next (hok.same.symm ▸ hnodes : q.shared.nodes ≠ []) hok.next
    have hrun := SelectCall.run_turn hpc hturn
    exact ⟨_, Pool.step_run.2 ⟨call, _, _, ht, hrun, rfl⟩⟩
  · intro a b ha hb
    rw [hok.picks_eq, hok.picks_eq]
    exact count_remainders_balanced _ _ ha hb

/-- Three calls: the second takes the mutex first, and the third does not need it. -/
def threeCalls : List (PoolLabel ExecutionPlan SelectLabel) :=
  [.spawn {}, .spawn {}, .spawn { placement := { nodeID := "node-3" } },
    .step 0 (.listed (.ok [])), .step 1 (.listed (.ok [])), .step 2 (.listed (.ok [])),
    .step 1 .turn, .step 0 .turn]

/-- From the counter seven, over two nodes: the second call gets the second node, and the first
call the first. -/
theorem threeCalls_fair : ∃ q,
    exec (Pool.step selectMachine) ⟨{ nodes := ["node-1", "node-2"], next := 7 }, []⟩ threeCalls =
      some q ∧ takers threeCalls = [1, 0] ∧
    (∃ call, q.threads[1]? = some call ∧ call.pc = .returned (some 1) (.ok (onNode "node-2"))) ∧
      picks q.threads 0 ≤ picks q.threads 1 + 1 := by
  refine ⟨_, rfl, rfl, ?_⟩
  obtain ⟨-, htaken, -, hfair⟩ := @rotation_fair ["node-1", "node-2"] 7 _ threeCalls (by decide)
    (by decide) rfl (by decide)
  refine ⟨?_, hfair 0 1 (by decide) (by decide)⟩
  obtain ⟨call, node, hcall, hnode, hpc⟩ := htaken 0 1 rfl
  obtain rfl : "node-2" = node := Option.some.inj hnode
  exact ⟨call, hcall, hpc⟩

end Scheduler
end Agentd
