/-
# The lifecycle of containers, sessions and runs

`control/state.go`: for each state the states that may follow it, and the functions that
check a transition.  A state may always be kept.  A table of the source is a function to
the list of the states that it allows; a state without an entry in the table allows
none.  Nothing in the source calls these functions: the activities write the states
they write, and whether these conform is a matter of the order of their writes.

The table of the agent instances is left out, since no row of the metadata store is said
to follow it.
-/

import Agentd.Control.Types

namespace Agentd
namespace Control

/-- `string(state)`. -/
def ContainerState.string : ContainerState → String
  | .requested => "requested"
  | .provisioning => "provisioning"
  | .starting => "starting"
  | .ready => "ready"
  | .busy => "busy"
  | .idle => "idle"
  | .hibernating => "hibernating"
  | .stopped => "stopped"
  | .deleting => "deleting"
  | .deleted => "deleted"

/-- `string(state)`. -/
def SessionState.string : SessionState → String
  | .creating => "creating"
  | .active => "active"
  | .waitingInput => "waiting_input"
  | .streaming => "streaming"
  | .cancelling => "cancelling"
  | .completed => "completed"
  | .failed => "failed"
  | .archived => "archived"

/-- `containerTransitions`. -/
def containerTransitions : ContainerState → List ContainerState
  | .requested => [.provisioning, .deleting]
  | .provisioning => [.starting, .deleting]
  | .starting => [.ready, .stopped, .deleting]
  | .ready => [.busy, .idle, .hibernating, .deleting]
  | .busy => [.ready, .idle, .hibernating, .deleting]
  | .idle => [.ready, .busy, .hibernating, .deleting]
  | .hibernating => [.stopped, .ready, .deleting]
  | .stopped => [.starting, .deleting]
  | .deleting => [.deleted]
  | .deleted => []

/-- `sessionTransitions`. -/
def sessionTransitions : SessionState → List SessionState
  | .creating => [.active, .failed]
  | .active => [.waitingInput, .streaming, .cancelling, .completed, .failed, .archived]
  | .waitingInput => [.streaming, .cancelling, .completed, .failed, .archived]
  | .streaming => [.waitingInput, .active, .cancelling, .completed, .failed]
  | .cancelling => [.completed, .failed, .archived]
  | .completed => [.archived, .active]
  | .failed => [.archived, .active]
  | .archived => []

/-- `runTransitions`. -/
def runTransitions : RunState → List RunState
  | .queued => [.dispatching, .cancelled, .failed]
  | .dispatching => [.streaming, .completed, .cancelled, .failed]
  | .streaming => [.completed, .cancelled, .failed]
  | .unset | .completed | .cancelled | .failed => []

/-- A run in this state has ended. -/
def RunState.isTerminal : RunState → Bool
  | .completed | .cancelled | .failed => true
  | .unset | .queued | .dispatching | .streaming => false

/-- `validateTransition`. -/
def validateTransition {σ : Type} [DecidableEq σ] (kind : String) (string : σ → String)
    (current next : σ) (allowed : List σ) : Except Err Unit :=
  if current = next then .ok ()
  else if next ∈ allowed then .ok ()
  else .error (.other
    ("invalid " ++ kind ++ " transition: " ++ string current ++ " -> " ++ string next))

/-- `ValidateContainerTransition`. -/
def validateContainerTransition (current next : ContainerState) : Except Err Unit :=
  validateTransition "container" ContainerState.string current next (containerTransitions current)

/-- `ValidateSessionTransition`. -/
def validateSessionTransition (current next : SessionState) : Except Err Unit :=
  validateTransition "session" SessionState.string current next (sessionTransitions current)

/-- `ValidateRunTransition`. -/
def validateRunTransition (current next : RunState) : Except Err Unit :=
  validateTransition "run" RunState.string current next (runTransitions current)

/-- A transition is accepted when it changes nothing or is in the table. -/
@[simp] theorem validateTransition_eq_ok {σ : Type} [DecidableEq σ] {kind : String}
    {string : σ → String} {current next : σ} {allowed : List σ} :
    validateTransition kind string current next allowed = .ok () ↔
      current = next ∨ next ∈ allowed := by
  unfold validateTransition
  split_ifs with heq hmem
  · simp [heq]
  · simp [hmem]
  · simp [heq, hmem]

theorem validateContainerTransition_eq_ok {s t : ContainerState} :
    validateContainerTransition s t = .ok () ↔ s = t ∨ t ∈ containerTransitions s :=
  validateTransition_eq_ok

theorem validateSessionTransition_eq_ok {s t : SessionState} :
    validateSessionTransition s t = .ok () ↔ s = t ∨ t ∈ sessionTransitions s :=
  validateTransition_eq_ok

theorem validateRunTransition_eq_ok {s t : RunState} :
    validateRunTransition s t = .ok () ↔ s = t ∨ t ∈ runTransitions s :=
  validateTransition_eq_ok

end Control
end Agentd
