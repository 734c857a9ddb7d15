/-
# Update handlers of a workflow

`workflows/workflows.go`: every update handler of a workflow has one shape.  It
executes one activity, waits for the result, returns the error if there is one,
and otherwise changes the variables of the workflow and returns.  The handlers
of a workflow interleave wherever they wait.

`withActivityOptions` retries an activity that returns an error, five attempts
in all; a retry starts the activity from its first call.  The result of the
last attempt reaches the handler some time after the activity returned.  An
attempt that runs into `StartToCloseTimeout` is left out.
-/

import Agentd.Workflows.World
import Agentd.Concurrency.Pool

namespace Agentd
namespace Workflows

open Control Concurrency

/-- `MaximumAttempts` of the retry policy. -/
def maximumAttempts : ℕ := 5

/-- A handler: the update it serves and the current attempt at its activity. -/
structure Handler (υ ξ : Type) where
  update : υ
  attempt : ℕ := 1
  activity : ξ
  done : Bool := false

/-- What happens next to a handler: its activity makes a call and is answered,
a failed activity is tried again, or the result reaches the handler. -/
inductive HandlerLabel
  | act (a : Answer)
  | retry
  | deliver (now : Time)

/-- What the handlers of a workflow do.  `σ` is the workflow with the world its
activities work on, `υ` its updates, `ξ` the activities and `ρ` their results. -/
structure HandlerCode (σ υ ξ ρ : Type) where
  /-- the workflow takes the update -/
  accepts : σ → υ → Bool
  /-- the activity the handler executes -/
  execute : σ → υ → ξ
  /-- one call of the activity -/
  step : σ → Answer → ξ → Option (σ × ξ)
  /-- what the activity returned, once it has -/
  result : ξ → Option (Except Err ρ)
  /-- the rest of the handler, after a success -/
  succeed : σ → Time → ρ → σ

variable {σ υ ξ ρ : Type} (c : HandlerCode σ υ ξ ρ)

/-- One step of a handler. -/
def HandlerCode.run (s : σ) (h : Handler υ ξ) : HandlerLabel → Option (σ × Handler υ ξ)
  | .act a =>
      if h.done then none
      else (c.step s a h.activity).map fun r => (r.1, { h with activity := r.2 })
  | .retry =>
      match h.done, c.result h.activity with
      | false, some (.error _) =>
          if h.attempt < maximumAttempts then
            some (s, { h with attempt := h.attempt + 1, activity := c.execute s h.update })
          else none
      | _, _ => none
  | .deliver now =>
      match h.done, c.result h.activity with
      | false, some (.ok r) => some (c.succeed s now r, { h with done := true })
      | false, some (.error _) =>
          if h.attempt < maximumAttempts then none else some (s, { h with done := true })
      | _, _ => none

/-- The handlers of a workflow, as the threads of a pool. -/
def HandlerCode.machine : Machine σ (Handler υ ξ) υ HandlerLabel where
  start s u := if c.accepts s u then some { update := u, activity := c.execute s u } else none
  run _ s h l := c.run s h l

variable {c}

theorem HandlerCode.start_eq_some {s : σ} {u : υ} {h : Handler υ ξ}
    (hs : c.machine.start s u = some h) :
    c.accepts s u = true ∧ h = { update := u, activity := c.execute s u } := by
  obtain ⟨hacc, hh⟩ := Option.ite_none_right_eq_some.1 hs
  exact ⟨hacc, (Option.some.inj hh).symm⟩

/-- **What a step of a handler can be.** -/
theorem HandlerCode.run_cases {s s' : σ} {h h' : Handler υ ξ} {l : HandlerLabel}
    (hr : c.run s h l = some (s', h')) :
    h.done = false ∧
      ((∃ a x, l = .act a ∧ c.step s a h.activity = some (s', x) ∧ h' = { h with activity := x }) ∨
        (∃ e, l = .retry ∧ c.result h.activity = some (.error e) ∧ h.attempt < maximumAttempts ∧
          s' = s ∧ h' = { h with attempt := h.attempt + 1, activity := c.execute s h.update }) ∨
        (∃ now r, l = .deliver now ∧ c.result h.activity = some (.ok r) ∧
          s' = c.succeed s now r ∧ h' = { h with done := true }) ∨
        ∃ now e, l = .deliver now ∧ c.result h.activity = some (.error e) ∧
          ¬h.attempt < maximumAttempts ∧ s' = s ∧ h' = { h with done := true }) := by
  cases l with
  | act a =>
      simp only [HandlerCode.run, Option.ite_none_left_eq_some, Option.map_eq_some_iff,
        Prod.exists, Prod.mk.injEq] at hr
      obtain ⟨hd, v, x, hx, rfl, rfl⟩ := hr
      exact ⟨Bool.eq_false_iff.2 hd, Or.inl ⟨a, x, rfl, hx, rfl⟩⟩
  | retry =>
      simp only [HandlerCode.run] at hr
      split at hr
      · next e hd he =>
          obtain ⟨hlt, hr⟩ := Option.ite_none_right_eq_some.1 hr
          obtain ⟨rfl, rfl⟩ := some_pair_inj hr
          exact ⟨hd, Or.inr (Or.inl ⟨e, rfl, he, hlt, rfl, rfl⟩)⟩
      · cases hr
  | deliver now =>
      simp only [HandlerCode.run] at hr
      split at hr
      · next r hd hok =>
          obtain ⟨rfl, rfl⟩ := some_pair_inj hr
          exact ⟨hd, Or.inr (Or.inr (Or.inl ⟨now, r, rfl, hok, rfl, rfl⟩))⟩
      · next e hd he =>
          obtain ⟨hlt, hr⟩ := Option.ite_none_left_eq_some.1 hr
          obtain ⟨rfl, rfl⟩ := some_pair_inj hr
          exact ⟨hd, Or.inr (Or.inr (Or.inr ⟨now, e, rfl, he, hlt, rfl, rfl⟩))⟩
      · cases hr

end Workflows
end Agentd
