/-
# Threads over a shared state

A `Machine` is the code of the threads: `run i s t a` is what thread number `i`
does in one step from its own state `t` and the shared state `s` when its
surroundings answer `a`, and `start s b` is the state in which a thread that is
asked to do `b` begins, where such a request is taken at all.
A `Pool` is a shared state with any number of threads.  Its labels either add
a thread or let one thread take one step, so a run of a pool is an arbitrary
interleaving of the steps of arbitrarily many threads.  A thread that is done
stays in the list, at the state it ended in.

`Pool.step_modular` is the rule for invariants that speak of one thread at a
time: a step owes the assertion of the thread that moves and of the threads it
disturbs, and the list bookkeeping is done here.  `Pool.exec_modular` is the same
rule for a whole run.  For invariants that relate the threads to each other,
`Pool.view` is what they show of themselves, as a function of their number.
-/

import Agentd.Concurrency.Runs
import Mathlib.Data.List.Basic
import Mathlib.Logic.Function.Basic

namespace Agentd
namespace Concurrency

/-- The code of the threads of a pool. -/
structure Machine (σ τ β α : Type*) where
  start : σ → β → Option τ
  run : ℕ → σ → τ → α → Option (σ × τ)

/-- A shared state and the threads that work on it. -/
structure Pool (σ τ : Type*) where
  shared : σ
  threads : List τ

/-- What happens next in a pool: a thread begins, asked to do `b`, or thread `i`
takes a step and is answered `a`. -/
inductive PoolLabel (β α : Type*)
  | spawn (b : β)
  | step (i : ℕ) (a : α)

variable {σ τ β α : Type*} {M : Machine σ τ β α}

/-- One step of a pool. -/
def Pool.step (M : Machine σ τ β α) (p : Pool σ τ) : PoolLabel β α → Option (Pool σ τ)
  | .spawn b => (M.start p.shared b).map fun t => { p with threads := p.threads ++ [t] }
  | .step i a =>
      p.threads[i]?.bind fun t =>
        (M.run i p.shared t a).map fun r => { shared := r.1, threads := p.threads.set i r.2 }

/-- A step that adds a thread appends it to the list. -/
theorem Pool.step_spawn {p q : Pool σ τ} {b : β} :
    p.step M (.spawn b) = some q ↔
      ∃ t, M.start p.shared b = some t ∧ { p with threads := p.threads ++ [t] } = q := by
  simp only [Pool.step, Option.map_eq_some_iff]

/-- A step of thread `i` runs it once and puts it back in its place. -/
theorem Pool.step_run {p q : Pool σ τ} {i : ℕ} {a : α} :
    p.step M (.step i a) = some q ↔
      ∃ t s' t', p.threads[i]? = some t ∧ M.run i p.shared t a = some (s', t') ∧
        { shared := s', threads := p.threads.set i t' } = q := by
  simp only [Pool.step, Option.bind_eq_some_iff, Option.map_eq_some_iff, Prod.exists]
  constructor
  · rintro ⟨t, ht, s', t', hr, rfl⟩
    exact ⟨t, s', t', ht, hr, rfl⟩
  · rintro ⟨t, s', t', ht, hr, rfl⟩
    exact ⟨t, ht, s', t', hr, rfl⟩

/-- The threads after a step of thread `i`: the one that moved, and the others
as they were. -/
theorem getElem?_set_cases {l : List τ} {i j : ℕ} {t u : τ} (h : (l.set i t)[j]? = some u) :
    j = i ∧ u = t ∨ j ≠ i ∧ l[j]? = some u := by
  by_cases hj : j = i
  · subst hj
    rw [List.getElem?_set_self'] at h
    obtain ⟨_, _, hu⟩ := Option.map_eq_some_iff.1 h
    exact Or.inl ⟨rfl, hu.symm⟩
  · rw [List.getElem?_set_ne (Ne.symm hj)] at h
    exact Or.inr ⟨hj, h⟩

/-- The thread that moved is in its place. -/
theorem getElem?_set_of_some {l : List τ} {i : ℕ} {t : τ} (u : τ) (h : l[i]? = some t) :
    (l.set i u)[i]? = some u :=
  List.getElem?_set_self (List.getElem?_eq_some_iff.1 h).1

/-- What is appended leaves the others in their places. -/
theorem getElem?_append_of_some {l : List τ} {i : ℕ} {t : τ} (l' : List τ) (h : l[i]? = some t) :
    (l ++ l')[i]? = some t :=
  (List.getElem?_append_left (List.getElem?_eq_some_iff.1 h).1).trans h

/-- The threads after one is added: the new one at the end, and the others. -/
theorem getElem?_concat_cases {l : List τ} {j : ℕ} {t u : τ} (h : (l ++ [t])[j]? = some u) :
    j = l.length ∧ u = t ∨ l[j]? = some u := by
  rcases Nat.lt_or_ge j l.length with hj | hj
  · rw [List.getElem?_append_left hj] at h
    exact Or.inr h
  · rw [List.getElem?_append_right hj, List.getElem?_singleton] at h
    split at h
    · exact Or.inl ⟨by omega, (Option.some.inj h).symm⟩
    · cases h

/-- A thread that is not the one that moves is still there. -/
theorem mem_set_of_ne {l : List τ} {i : ℕ} {t u : τ} (v : τ) (hi : l[i]? = some t) (hu : u ∈ l)
    (hne : u ≠ t) : u ∈ l.set i v := by
  obtain ⟨j, hj⟩ := List.mem_iff_getElem?.1 hu
  have hji : i ≠ j := by
    rintro rfl
    exact hne (Option.mem_unique hj hi)
  exact List.mem_of_getElem? ((List.getElem?_set_ne hji).trans hj)

/-- What all threads weigh is less when one of them weighs less. -/
theorem foldr_add_set_lt {l : List τ} {i : ℕ} {t t' : τ} {f : τ → ℕ} (hi : l[i]? = some t)
    (hlt : f t' < f t) :
    (l.set i t').foldr (fun u n => f u + n) 0 < l.foldr (fun u n => f u + n) 0 := by
  induction l generalizing i with
  | nil => cases hi
  | cons u l ih =>
      cases i with
      | zero =>
          obtain rfl := Option.some.inj hi
          simpa using hlt
      | succ i =>
          have hrest := ih (i := i) hi
          simpa using hrest

/-- A thread that moves and shows the same of itself leaves what all of them show. -/
theorem filterMap_set_of_eq {γ : Type*} {f : τ → Option γ} {l : List τ} {i : ℕ} {t u : τ}
    (hi : l[i]? = some t) (hf : f u = f t) : (l.set i u).filterMap f = l.filterMap f := by
  obtain ⟨hlt, rfl⟩ := List.getElem?_eq_some_iff.1 hi
  conv_rhs => rw [← List.take_append_drop i l, List.drop_eq_getElem_cons hlt]
  rw [List.set_eq_take_append_cons_drop, if_pos hlt]
  simp only [List.filterMap_append, List.filterMap_cons, hf]

/-- A thread that moves and shows something for the first time adds that to what all of them
show. -/
theorem filterMap_set_perm {γ : Type*} {f : τ → Option γ} {l : List τ} {i : ℕ} {t u : τ} {x : γ}
    (hi : l[i]? = some t) (ht : f t = none) (hu : f u = some x) :
    ((l.set i u).filterMap f).Perm (l.filterMap f ++ [x]) := by
  obtain ⟨hlt, rfl⟩ := List.getElem?_eq_some_iff.1 hi
  conv_rhs => rw [← List.take_append_drop i l, List.drop_eq_getElem_cons hlt]
  rw [List.set_eq_take_append_cons_drop, if_pos hlt]
  simp only [List.filterMap_append, List.filterMap_cons, ht, hu, List.append_assoc]
  exact List.Perm.append_left _ (List.perm_append_singleton x _).symm

/-- **The rule for assertions on single threads.**  `I` speaks of the shared
state, `T i` of the state of thread `i` in it.  A step keeps all of them when
a new thread begins with its assertion true, and a thread that moves keeps `I`,
establishes its own assertion again and leaves those of the others true. -/
theorem Pool.step_modular {I : σ → Prop} {T : ℕ → σ → τ → Prop} {p q : Pool σ τ}
    {l : PoolLabel β α} (h : p.step M l = some q) (hI : I p.shared)
    (hT : ∀ i t, p.threads[i]? = some t → T i p.shared t)
    (hspawn : ∀ b t, l = .spawn b → M.start p.shared b = some t → T p.threads.length p.shared t)
    (hrun : ∀ i a t s' t', l = .step i a → p.threads[i]? = some t →
      M.run i p.shared t a = some (s', t') →
        I s' ∧ T i s' t' ∧ ∀ j u, j ≠ i → p.threads[j]? = some u → T j s' u) :
    I q.shared ∧ ∀ i t, q.threads[i]? = some t → T i q.shared t := by
  cases l with
  | spawn b =>
      obtain ⟨t, ht, rfl⟩ := Pool.step_spawn.1 h
      refine ⟨hI, fun i u hu => ?_⟩
      rcases getElem?_concat_cases hu with ⟨rfl, rfl⟩ | hu
      · exact hspawn b u rfl ht
      · exact hT i u hu
  | step i a =>
      obtain ⟨t, s', t', ht, hr, rfl⟩ := Pool.step_run.1 h
      obtain ⟨hI', hT', hothers⟩ := hrun i a t s' t' rfl ht hr
      refine ⟨hI', fun j u hu => ?_⟩
      rcases getElem?_set_cases hu with ⟨rfl, rfl⟩ | ⟨hj, hu⟩
      · exact hT'
      · exact hothers j u hj hu

/-- **The rule for whole runs.**  In a run of a pool that starts without
threads, `I` and the assertions `T` hold in the state reached when they hold of
the start and every step that meets `C` keeps them. -/
theorem Pool.exec_modular {I : σ → Prop} {T : ℕ → σ → τ → Prop}
    {C : Pool σ τ → PoolLabel β α → Prop} {s : σ} {p : Pool σ τ} {l : List (PoolLabel β α)}
    (hspawn : ∀ i s b t, I s → M.start s b = some t → T i s t)
    (hrun : ∀ (p : Pool σ τ) i a t s' t', I p.shared →
      (∀ j u, p.threads[j]? = some u → T j p.shared u) → C p (.step i a) →
        p.threads[i]? = some t → M.run i p.shared t a = some (s', t') →
          I s' ∧ T i s' t' ∧ ∀ j u, j ≠ i → p.threads[j]? = some u → T j s' u)
    (hI : I s) (hl : Along (Pool.step M) C ⟨s, []⟩ l)
    (h : exec (Pool.step M) ⟨s, []⟩ l = some p) :
    I p.shared ∧ ∀ i t, p.threads[i]? = some t → T i p.shared t := by
  refine exec_invariant
    (I := fun p : Pool σ τ => I p.shared ∧ ∀ i t, p.threads[i]? = some t → T i p.shared t)
    ?_ ⟨hI, fun i t ht => by simp at ht⟩ hl h
  intro p lab q hp hC hstep
  refine Pool.step_modular hstep hp.1 hp.2 (fun b t _ ht => hspawn _ _ b t hp.1 ht) ?_
  rintro i a t s' t' rfl ht hr
  exact hrun p i a t s' t' hp.1 hp.2 hC ht hr

/-- What the threads show of themselves through `f`, by their numbers. -/
def Pool.view {γ : Type*} (f : τ → Option γ) (p : Pool σ τ) (i : ℕ) : Option γ :=
  p.threads[i]?.bind f

/-- What the view shows of a thread that is there. -/
theorem Pool.view_eq {γ : Type*} {f : τ → Option γ} {p : Pool σ τ} {i : ℕ} {t : τ}
    (hi : p.threads[i]? = some t) : p.view f i = f t := by
  rw [Pool.view, hi, Option.bind_some]

/-- A new thread that shows nothing leaves the view as it is. -/
theorem Pool.view_spawn {γ : Type*} {f : τ → Option γ} (p : Pool σ τ) {t : τ} (ht : f t = none) :
    Pool.view f { p with threads := p.threads ++ [t] } = p.view f := by
  funext j
  unfold Pool.view
  rcases Nat.lt_trichotomy j p.threads.length with hj | hj | hj
  · rw [List.getElem?_append_left hj]
  · rw [hj, List.getElem?_concat_length, List.getElem?_eq_none (Nat.le_refl _)]
    exact ht
  · have hlen : (p.threads ++ [t]).length ≤ j := by
      rw [List.length_append, List.length_singleton]
      omega
    rw [List.getElem?_eq_none hlen, List.getElem?_eq_none (by omega)]

/-- A thread that moves changes the view at its own number. -/
theorem Pool.view_set {γ : Type*} {f : τ → Option γ} {p : Pool σ τ} {i : ℕ} {t t' : τ} (s : σ)
    (hi : p.threads[i]? = some t) :
    Pool.view f { shared := s, threads := p.threads.set i t' } =
      Function.update (p.view f) i (f t') := by
  funext j
  unfold Pool.view
  by_cases hj : j = i
  · subst hj
    rw [Function.update_self, getElem?_set_of_some t' hi, Option.bind_some]
  · rw [Function.update_of_ne hj, List.getElem?_set_ne (Ne.symm hj)]

end Concurrency
end Agentd
