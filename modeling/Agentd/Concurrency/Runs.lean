/-
# Runs of a labelled system

A system is a partial step function `step : σ → α → Option σ`: the label says
which party moves and what its surroundings answer, and `none` says that the
move is not possible in the state at hand.  A run is a list of labels.

`exec` takes the steps of a run in order, so a state is reached from `s` when
it is `exec step s l` for some `l`.  `Along step C s l` says that every step of
the run `l` from `s` is taken in a state that meets the condition `C`; a
property of the runs in which some accident does not happen is a property of
the runs along which `C` excludes the accident.

`exec_invariant` is the induction over a run, done once: what holds at the
start and is kept by every step that meets `C` holds in the state reached.
`history` lists the steps of a run with the states they were taken in, and
`exec_invariant_history` is the same rule for what relates the state reached to
the steps that led to it.
-/

import Mathlib.Data.Nat.Notation
import Mathlib.Data.Option.Basic

namespace Agentd
namespace Concurrency

variable {σ α : Type*} {step : σ → α → Option σ} {C D : σ → α → Prop}

/-- The state after the steps of `l`, taken in order from `s`; `none` when one
of them is not possible. -/
def exec (step : σ → α → Option σ) : σ → List α → Option σ
  | s, [] => some s
  | s, a :: l => (step s a).bind fun t => exec step t l

/-- Every step of the run `l` from `s` is taken in a state that meets `C`. -/
def Along (step : σ → α → Option σ) (C : σ → α → Prop) : σ → List α → Prop
  | _, [] => True
  | s, a :: l => C s a ∧ ∀ t ∈ step s a, Along step C t l

instance Along.decidable [∀ s a, Decidable (C s a)] : ∀ s l, Decidable (Along step C s l)
  | _, [] => isTrue trivial
  | s, a :: l =>
      have : ∀ t, Decidable (Along step C t l) := fun t => Along.decidable t l
      inferInstanceAs (Decidable (C s a ∧ ∀ t ∈ step s a, Along step C t l))

theorem exec_nil (s : σ) : exec step s [] = some s := rfl

theorem exec_cons (s : σ) (a : α) (l : List α) :
    exec step s (a :: l) = (step s a).bind fun t => exec step t l := rfl

/-- A run that starts with `a` makes that step and goes on from its result. -/
theorem exec_cons_eq_some {s u : σ} {a : α} {l : List α} :
    exec step s (a :: l) = some u ↔ ∃ t, step s a = some t ∧ exec step t l = some u := by
  rw [exec_cons, Option.bind_eq_some_iff]

/-- A run in two parts goes on from what the first reaches. -/
theorem exec_append_eq_some {l l' : List α} {u : σ} :
    ∀ {s : σ}, exec step s (l ++ l') = some u ↔
      ∃ t, exec step s l = some t ∧ exec step t l' = some u := by
  induction l with
  | nil => simp [exec]
  | cons a l ih =>
      intro s
      rw [List.cons_append, exec_cons_eq_some]
      constructor
      · rintro ⟨t, ht, hrest⟩
        obtain ⟨v, hv, hu⟩ := ih.1 hrest
        exact ⟨v, exec_cons_eq_some.2 ⟨t, ht, hv⟩, hu⟩
      · rintro ⟨v, hv, hu⟩
        obtain ⟨t, ht, hrest⟩ := exec_cons_eq_some.1 hv
        exact ⟨t, ht, ih.2 ⟨v, hrest, hu⟩⟩

/-- A run that ends with `a` makes that step last. -/
theorem exec_concat_eq_some {s u : σ} {a : α} {l : List α} (h : exec step s (l ++ [a]) = some u) :
    ∃ t, exec step s l = some t ∧ step t a = some u := by
  obtain ⟨t, ht, hlast⟩ := exec_append_eq_some.1 h
  obtain ⟨v, hv, hu⟩ := exec_cons_eq_some.1 hlast
  exact ⟨t, ht, hv.trans hu⟩

/-- The results of a step are what it led to. -/
theorem some_pair_inj {τ : Type*} {s s' : σ} {t t' : τ} (h : some (s, t) = some (s', t')) :
    s = s' ∧ t = t' :=
  Prod.mk.inj (Option.some.inj h)

/-- A step of a component, made into a step of what the component is part of. -/
theorem map_eq_some_pair {τ σ' τ' : Type*} {o : Option (σ × τ)} {f : σ × τ → σ' × τ'} {s' : σ'}
    {t' : τ'} (h : o.map f = some (s', t')) :
    ∃ s t, o = some (s, t) ∧ (f (s, t)).1 = s' ∧ (f (s, t)).2 = t' := by
  obtain ⟨⟨s, t⟩, ho, hf⟩ := Option.map_eq_some_iff.1 h
  exact ⟨s, t, ho, congrArg Prod.fst hf, congrArg Prod.snd hf⟩

/-- A run that meets a condition meets every weaker one. -/
theorem Along.mono (h : ∀ s a, C s a → D s a) :
    ∀ {s : σ} {l : List α}, Along step C s l → Along step D s l
  | _, [], _ => trivial
  | s, a :: _, hl => ⟨h s a hl.1, fun t ht => (hl.2 t ht).mono h⟩

/-- A run that meets two conditions meets both at every step. -/
theorem Along.and : ∀ {l : List α} {s : σ}, Along step C s l → Along step D s l →
    Along step (fun s a => C s a ∧ D s a) s l
  | [], _, _, _ => trivial
  | _ :: _, _, hC, hD => ⟨⟨hC.1, hD.1⟩, fun t ht => (hC.2 t ht).and (hD.2 t ht)⟩

/-- **The invariant rule.**  What holds at the start of a run, and is kept by
every step taken in a state that meets `C`, holds in the state a run along `C`
reaches. -/
theorem exec_invariant {I : σ → Prop}
    (hstep : ∀ s a t, I s → C s a → step s a = some t → I t) :
    ∀ {l : List α} {s t : σ}, I s → Along step C s l → exec step s l = some t → I t
  | [], s, t, hs, _, h => by
      rw [exec_nil] at h
      exact Option.some.inj h ▸ hs
  | a :: l, s, t, hs, hl, h => by
      obtain ⟨u, hu, hrest⟩ := exec_cons_eq_some.1 h
      exact exec_invariant hstep (hstep s a u hs hl.1 hu) (hl.2 u hu) hrest

/-- A run that meets a condition meets it up to any point. -/
theorem Along.of_append {l l' : List α} : ∀ {s : σ}, Along step C s (l ++ l') → Along step C s l := by
  induction l with
  | nil => exact fun _ => trivial
  | cons a l ih => exact fun h => ⟨h.1, fun t ht => ih (h.2 t ht)⟩

/-- A run in two parts meets a condition when the first part does, and the second from what
the first reaches. -/
theorem Along.append {l l' : List α} : ∀ {s : σ}, Along step C s l →
    (∀ t, exec step s l = some t → Along step C t l') → Along step C s (l ++ l') := by
  induction l with
  | nil => exact fun _ h' => h' _ rfl
  | cons a l ih =>
      intro s h h'
      refine ⟨h.1, fun t ht => ih (h.2 t ht) fun u hu => h' u ?_⟩
      exact exec_cons_eq_some.2 ⟨t, ht, hu⟩

/-- A run that meets a condition meets it at the step it takes after some of its steps. -/
theorem Along.here {l l' : List α} {a : α} {t : σ} :
    ∀ {s : σ}, Along step C s (l ++ a :: l') → exec step s l = some t → C t a := by
  induction l with
  | nil =>
      intro s h ht
      exact Option.some.inj ht ▸ h.1
  | cons b l ih =>
      intro s h ht
      obtain ⟨u, hu, hrest⟩ := exec_cons_eq_some.1 ht
      exact ih (h.2 u hu) hrest

/-- **The rule for a condition that cannot be left out.**  When a step that does not meet `C`
leads to a state that is not `G`, a run with nothing but `G` states meets `C`. -/
theorem along_of_good {I G : σ → Prop}
    (hstep : ∀ s a t, I s → D s a → C s a → step s a = some t → I t)
    (hgood : ∀ s a t, I s → D s a → step s a = some t → G t → C s a) :
    ∀ {l : List α} {s u : σ}, I s → Along step D s l → exec step s l = some u →
      (∀ l' t, l' <+: l → exec step s l' = some t → G t) → Along step C s l
  | [], _, _, _, _, _, _ => trivial
  | a :: l, s, u, hs, hl, h, hall => by
      obtain ⟨t, ht, hrest⟩ := exec_cons_eq_some.1 h
      have hfirst : exec step s [a] = some t := exec_cons_eq_some.2 ⟨t, ht, rfl⟩
      have hC : C s a := hgood s a t hs hl.1 ht (hall [a] t ⟨l, rfl⟩ hfirst)
      refine ⟨hC, fun t' ht' => ?_⟩
      obtain rfl := Option.mem_unique ht ht'
      refine along_of_good hstep hgood (hstep s a t hs hl.1 hC ht) (hl.2 t ht) hrest ?_
      intro l' v hl' hv
      exact hall (a :: l') v (List.cons_prefix_cons.2 ⟨rfl, hl'⟩)
        (exec_cons_eq_some.2 ⟨t, ht, hv⟩)

/-- The steps of a run, each with the state it was taken in. -/
def history (step : σ → α → Option σ) : σ → List α → List (σ × α)
  | _, [] => []
  | s, a :: l => (s, a) :: ((step s a).elim [] fun t => history step t l)

/-- The labels of the steps of a run that goes through are the run. -/
theorem map_snd_history {l : List α} {s t : σ} (h : exec step s l = some t) :
    (history step s l).map Prod.snd = l := by
  induction l generalizing s with
  | nil => rfl
  | cons a l ih =>
      obtain ⟨u, hu, hrest⟩ := exec_cons_eq_some.1 h
      rw [history, hu, Option.elim_some, List.map_cons, ih hrest]

/-- A step of the history was taken in the state that the steps before it lead to. -/
theorem exec_of_history_eq {l : List α} {s : σ} {before after : List (σ × α)} {x : σ × α}
    (h : history step s l = before ++ x :: after) :
    exec step s (before.map Prod.snd) = some x.1 := by
  induction before generalizing s l with
  | nil =>
      cases l with
      | nil => cases h
      | cons a l => exact congrArg (some ∘ Prod.fst) (List.cons.inj h).1
  | cons y before ih =>
      cases l with
      | nil => cases h
      | cons a l =>
          obtain ⟨rfl, hrest⟩ := List.cons.inj h
          cases ht : step s a with
          | none =>
              rw [ht] at hrest
              exact absurd hrest.symm (by simp)
          | some t =>
              rw [ht] at hrest
              exact exec_cons_eq_some.2 ⟨t, ht, ih hrest⟩

/-- **The invariant rule, with the history.**  `I t past` relates a state to the
steps that led to it; a step appends itself to the past. -/
theorem exec_invariant_history {I : σ → List (σ × α) → Prop}
    (hstep : ∀ s past a t, I s past → C s a → step s a = some t → I t (past ++ [(s, a)])) :
    ∀ {l : List α} {s t : σ} {past : List (σ × α)}, I s past → Along step C s l →
      exec step s l = some t → I t (past ++ history step s l)
  | [], s, t, past, hs, _, h => by
      rw [exec_nil] at h
      rw [history, List.append_nil]
      exact Option.some.inj h ▸ hs
  | a :: l, s, t, past, hs, hl, h => by
      obtain ⟨u, hu, hrest⟩ := exec_cons_eq_some.1 h
      have hnext := exec_invariant_history hstep (hstep s past a u hs hl.1 hu) (hl.2 u hu) hrest
      rw [history, hu, Option.elim_some, List.append_cons]
      exact hnext

/-- Every run meets the condition that asks for nothing. -/
theorem along_true : ∀ (l : List α) (s : σ), Along step (fun _ _ => True) s l
  | [], _ => trivial
  | _ :: l, _ => ⟨trivial, fun t _ => along_true l t⟩

/-- One more step in front of a run that meets a condition. -/
theorem Along.cons {s t : σ} {a : α} {l : List α} (hC : C s a) (ht : step s a = some t)
    (h : Along step C t l) : Along step C s (a :: l) :=
  ⟨hC, fun _ ht' => Option.mem_unique ht ht' ▸ h⟩

/-- A run meets at every step what all its labels meet. -/
theorem along_of_forall {P : α → Prop} : ∀ {l : List α} {s : σ}, (∀ a ∈ l, P a) →
    Along step (fun _ a => P a) s l
  | [], _, _ => trivial
  | _ :: _, _, h => ⟨h _ (List.mem_cons_self ..), fun _ _ =>
      along_of_forall fun a ha => h a (List.mem_cons_of_mem _ ha)⟩

/-- The invariant rule for runs without a condition. -/
theorem exec_invariant_of_step {I : σ → Prop}
    (hstep : ∀ s a t, I s → step s a = some t → I t) {l : List α} {s t : σ} (hs : I s)
    (h : exec step s l = some t) : I t :=
  exec_invariant (C := fun _ _ => True) (fun s a t hs _ => hstep s a t hs) hs (along_true l s) h

/-- The invariant rule with the history, for runs without a condition, from their start. -/
theorem exec_history_of_step {I : σ → List (σ × α) → Prop}
    (hstep : ∀ s past a t, I s past → step s a = some t → I t (past ++ [(s, a)])) {l : List α}
    {s t : σ} (hs : I s []) (h : exec step s l = some t) : I t (history step s l) :=
  exec_invariant_history (C := fun _ _ => True) (fun s past a t hs _ => hstep s past a t hs) hs
    (along_true l s) h

/-- **A bound on runs.**  When every step lowers a measure, a run is no longer than the
measure of its start. -/
theorem exec_length_le {μ : σ → ℕ} (hstep : ∀ s a t, step s a = some t → μ t < μ s)
    {l : List α} {s t : σ} (h : exec step s l = some t) : l.length + μ t ≤ μ s := by
  induction l generalizing s with
  | nil =>
      obtain rfl := Option.some.inj h
      simp
  | cons a l ih =>
      obtain ⟨u, hu, hrest⟩ := exec_cons_eq_some.1 h
      have hlow := hstep s a u hu
      have hle := ih hrest
      rw [List.length_cons]
      omega

/-- **The variant rule.**  When in every state of `P` that is not a goal some step with a label of
`A` stays in `P` and lowers a measure, then a goal is reached by such steps, no more of them than
the measure of the start. -/
theorem exec_reaches {P goal : σ → Prop} {A : α → Prop} {μ : σ → ℕ}
    (hstep : ∀ s, P s → ¬ goal s → ∃ a t, A a ∧ step s a = some t ∧ P t ∧ μ t < μ s) {s : σ}
    (hs : P s) :
    ∃ l t, (∀ a ∈ l, A a) ∧ l.length ≤ μ s ∧ exec step s l = some t ∧ P t ∧ goal t := by
  induction hμ : μ s using Nat.strongRecOn generalizing s with
  | ind m ih =>
      subst hμ
      by_cases hgoal : goal s
      · exact ⟨[], s, by simp, Nat.zero_le _, rfl, hs, hgoal⟩
      · obtain ⟨a, t, ha, ht, hP, hlow⟩ := hstep s hs hgoal
        obtain ⟨l, u, hl, hlen, hu, hPu, hgoal⟩ := ih (μ t) hlow hP rfl
        refine ⟨a :: l, u, ?_, ?_, exec_cons_eq_some.2 ⟨t, ht, hu⟩, hPu, hgoal⟩
        · exact List.forall_mem_cons.2 ⟨ha, hl⟩
        · rw [List.length_cons]
          omega

/-- **A bound on some of the steps.**  When every step of a kind lowers a measure, unless it is one
that pays for itself, and no other step raises it, there are no more steps of the kind in a run
than the measure of its start and the steps that pay. -/
theorem exec_countP_le {I : σ → Prop} {μ : σ → ℕ} {moves pays : α → Bool}
    (hstep : ∀ s a t, I s → step s a = some t →
      I t ∧ μ t + (if moves a then 1 else 0) ≤ μ s + (if pays a then 1 else 0))
    {l : List α} {s t : σ} (hs : I s) (h : exec step s l = some t) :
    l.countP moves + μ t ≤ μ s + l.countP pays := by
  induction l generalizing s with
  | nil =>
      obtain rfl := Option.some.inj h
      simp
  | cons a l ih =>
      obtain ⟨u, hu, hrest⟩ := exec_cons_eq_some.1 h
      obtain ⟨hI, hle⟩ := hstep s a u hs hu
      have hle' := ih hI hrest
      rw [List.countP_cons, List.countP_cons]
      omega

end Concurrency
end Agentd
