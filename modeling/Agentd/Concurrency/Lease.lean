/-
# Leases

A resource `k` is leased to a holder for a purpose `r`.  Two records are kept of
it: every holder knows what it holds (`held i = some (k, r)`), and a table says
of every resource what it is leased for (`lease k = some r`).  `Exclusive` says
that the two agree and that no resource has two holders.

The three things that can happen to a lease keep `Exclusive` under the
condition one expects: a resource is taken only while nobody holds it, it is
given back by its holder, and its entry in the table is written again only for
the purpose somebody holds it for.
-/

import Mathlib.Logic.Function.Basic
import Mathlib.Data.Option.Basic

namespace Agentd
namespace Concurrency

variable {ι κ ρ : Type*}

/-- What is held after one holder gave up what it held. -/
theorem update_none_eq_some {α : Type*} [DecidableEq ι] {f : ι → Option α} {i j : ι} {v : α}
    (h : Function.update f i none j = some v) : j ≠ i ∧ f j = some v := by
  by_cases hj : j = i
  · rw [hj, Function.update_self] at h
    cases h
  · rw [Function.update_of_ne hj] at h
    exact ⟨hj, h⟩

/-- What is held after one holder took something. -/
theorem update_some_eq_some {α : Type*} [DecidableEq ι] {f : ι → Option α} {i j : ι} {u v : α}
    (h : Function.update f i (some u) j = some v) : j = i ∧ v = u ∨ j ≠ i ∧ f j = some v := by
  by_cases hj : j = i
  · rw [hj, Function.update_self] at h
    exact Or.inl ⟨hj, (Option.some.inj h).symm⟩
  · rw [Function.update_of_ne hj] at h
    exact Or.inr ⟨hj, h⟩

/-- The holders and the table agree, and no resource has two holders. -/
structure Exclusive (held : ι → Option (κ × ρ)) (lease : κ → Option ρ) : Prop where
  lease_iff : ∀ k r, lease k = some r ↔ ∃ i, held i = some (k, r)
  once : ∀ i j k r r', held i = some (k, r) → held j = some (k, r') → i = j

namespace Exclusive

variable {held : ι → Option (κ × ρ)} {lease : κ → Option ρ}

/-- Nothing is held and nothing is leased. -/
theorem none_held (hh : ∀ i, held i = none) (hl : ∀ k, lease k = none) : Exclusive held lease where
  lease_iff k r := by
    constructor
    · intro h
      rw [hl] at h
      cases h
    · rintro ⟨i, hi⟩
      rw [hh] at hi
      cases hi
  once i j k r r' hi _ := by
    rw [hh] at hi
    cases hi

variable [DecidableEq ι] [DecidableEq κ] {i : ι} {k : κ} {r : ρ}

/-- A holder without a lease takes a resource that nobody holds. -/
theorem acquire (h : Exclusive held lease) (hi : held i = none)
    (hfree : ∀ j r', held j ≠ some (k, r')) :
    Exclusive (Function.update held i (some (k, r))) (Function.update lease k (some r)) where
  lease_iff k' r' := by
    by_cases hk : k' = k
    · subst hk
      rw [Function.update_self]
      constructor
      · intro hr
        exact ⟨i, by rw [Function.update_self, Option.some.inj hr]⟩
      · rintro ⟨j, hj⟩
        rcases update_some_eq_some hj with ⟨-, heq⟩ | ⟨-, hj⟩
        · rw [(Prod.mk.inj heq).2]
        · exact absurd hj (hfree j r')
    · rw [Function.update_of_ne hk, h.lease_iff]
      constructor
      · rintro ⟨j, hj⟩
        have hji : j ≠ i := by
          rintro rfl
          rw [hi] at hj
          cases hj
        exact ⟨j, by rw [Function.update_of_ne hji, hj]⟩
      · rintro ⟨j, hj⟩
        rcases update_some_eq_some hj with ⟨-, heq⟩ | ⟨-, hj⟩
        · exact absurd (Prod.mk.inj heq).1 hk
        · exact ⟨j, hj⟩
  once j j' k' s s' hj hj' := by
    -- the new holder has `k`, and by `hfree` no other holder has it
    have hnew : ∀ m t, Function.update held i (some (k, r)) m = some (k', t) →
        m = i ∧ k' = k ∨ m ≠ i ∧ k' ≠ k ∧ held m = some (k', t) := by
      intro m t hm
      rcases update_some_eq_some hm with ⟨hmi, heq⟩ | ⟨hmi, hm⟩
      · exact Or.inl ⟨hmi, (Prod.mk.inj heq).1⟩
      · exact Or.inr ⟨hmi, fun hk => hfree m t (hk ▸ hm), hm⟩
    rcases hnew j s hj with ⟨rfl, hk⟩ | ⟨-, hk, hj⟩
    · rcases hnew j' s' hj' with ⟨rfl, -⟩ | ⟨-, hk', -⟩
      · rfl
      · exact absurd hk hk'
    · rcases hnew j' s' hj' with ⟨-, hk'⟩ | ⟨-, -, hj'⟩
      · exact absurd hk' hk
      · exact h.once j j' k' s s' hj hj'

/-- A holder gives its resource back. -/
theorem release (h : Exclusive held lease) (hi : held i = some (k, r)) :
    Exclusive (Function.update held i none) (Function.update lease k none) where
  lease_iff k' r' := by
    by_cases hk : k' = k
    · subst hk
      rw [Function.update_self]
      constructor
      · intro hr
        cases hr
      · rintro ⟨j, hj⟩
        obtain ⟨hji, hj⟩ := update_none_eq_some hj
        exact absurd (h.once j i k' r' r hj hi) hji
    · rw [Function.update_of_ne hk, h.lease_iff]
      constructor
      · rintro ⟨j, hj⟩
        have hji : j ≠ i := by
          rintro rfl
          rw [hi] at hj
          exact hk (Prod.mk.inj (Option.some.inj hj)).1.symm
        exact ⟨j, by rw [Function.update_of_ne hji, hj]⟩
      · rintro ⟨j, hj⟩
        exact ⟨j, (update_none_eq_some hj).2⟩
  once j j' k' s s' hj hj' :=
    h.once j j' k' s s' (update_none_eq_some hj).2 (update_none_eq_some hj').2

omit [DecidableEq ι] in
/-- An entry is written again for the purpose somebody holds it for. -/
theorem renew (h : Exclusive held lease) (hj : ∃ j, held j = some (k, r)) :
    Exclusive held (Function.update lease k (some r)) := by
  have hk : Function.update lease k (some r) = lease := by
    rw [← (h.lease_iff k r).2 hj]
    exact Function.update_eq_self k lease
  rw [hk]
  exact h

end Exclusive
end Concurrency
end Agentd
