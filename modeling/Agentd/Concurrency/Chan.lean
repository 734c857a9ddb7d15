/-
# Buffered channels

The channels of Go: a FIFO of at most `cap` values that can be closed once.
The bound on the buffer is part of the type, so no value of `Chan α cap` holds
more than `cap` values.  The three operations report what would go wrong:

* `send` is refused by a full channel (a blocking sender waits, a sender with
  a `default` branch goes on without sending) and panics on a closed one;
* `recv` takes the oldest value; on an empty channel it waits while the channel
  is open, and once it is closed it returns at once with the zero value;
* `close` panics on a channel that is closed already.
-/

import Mathlib.Data.List.Basic

namespace Agentd
namespace Concurrency

variable {α : Type*} {cap : ℕ}

/-- A channel with room for `cap` values. -/
structure Chan (α : Type*) (cap : ℕ) where
  buf : List α
  closed : Bool
  bounded : buf.length ≤ cap

/-- `make(chan α, cap)`. -/
def Chan.make (α : Type*) (cap : ℕ) : Chan α cap := ⟨[], false, Nat.zero_le cap⟩

/-- What a send meets. -/
inductive Sent (α : Type*) (cap : ℕ)
  | ok (c : Chan α cap)
  | full
  | panic

/-- What a receive meets. -/
inductive Received (α : Type*) (cap : ℕ)
  | value (a : α) (c : Chan α cap)
  | closed
  | empty

/-- `c <- a`. -/
def Chan.send (c : Chan α cap) (a : α) : Sent α cap :=
  if c.closed then .panic
  else if h : c.buf.length < cap then
    .ok ⟨c.buf ++ [a], false, by rw [List.length_append, List.length_singleton]; exact h⟩
  else .full

/-- `<-c`. -/
def Chan.recv (c : Chan α cap) : Received α cap :=
  match h : c.buf with
  | a :: rest =>
      .value a ⟨rest, c.closed, by
        have := c.bounded
        rw [h, List.length_cons] at this
        exact Nat.le_of_succ_le this⟩
  | [] => if c.closed then .closed else .empty

/-- `close(c)`; `none` is the panic of a second close. -/
def Chan.close (c : Chan α cap) : Option (Chan α cap) :=
  if c.closed then none else some { c with closed := true }

/-- A send goes through exactly on an open channel with a free slot, and puts
the value behind the others. -/
theorem Chan.send_eq_ok {c d : Chan α cap} {a : α} :
    c.send a = .ok d ↔
      c.closed = false ∧ c.buf.length < cap ∧ d.buf = c.buf ++ [a] ∧ d.closed = false := by
  obtain ⟨dbuf, dclosed, hd⟩ := d
  unfold Chan.send
  split_ifs with hc hl
  · simp [hc]
  · simp only [Sent.ok.injEq, Chan.mk.injEq]
    simp only [Bool.not_eq_true] at hc
    simp only [hc, hl, true_and, eq_comm]
  · simp [hl]

/-- A send panics exactly on a closed channel. -/
theorem Chan.send_eq_panic {c : Chan α cap} {a : α} : c.send a = .panic ↔ c.closed = true := by
  unfold Chan.send
  split_ifs <;> simp_all

/-- A send is refused exactly by an open channel without a free slot. -/
theorem Chan.send_eq_full {c : Chan α cap} {a : α} :
    c.send a = .full ↔ c.closed = false ∧ cap ≤ c.buf.length := by
  unfold Chan.send
  split_ifs <;> simp_all

/-- A receive returns the oldest value. -/
theorem Chan.recv_eq_value {c d : Chan α cap} {a : α} :
    c.recv = .value a d ↔ c.buf = a :: d.buf ∧ d.closed = c.closed := by
  obtain ⟨dbuf, dclosed, hd⟩ := d
  unfold Chan.recv
  split
  · next b rest hb =>
      simp only [Received.value.injEq, Chan.mk.injEq, hb, List.cons.injEq, and_assoc]
      exact ⟨fun h => ⟨h.1, h.2.1, h.2.2.symm⟩, fun h => ⟨h.1, h.2.1, h.2.2.symm⟩⟩
  · next hb =>
      split_ifs <;> simp [hb]

/-- A receive finds the channel closed exactly when it is closed and drained. -/
theorem Chan.recv_eq_closed {c : Chan α cap} :
    c.recv = .closed ↔ c.buf = [] ∧ c.closed = true := by
  unfold Chan.recv
  split
  · next b rest hb => simp [hb]
  · next hb => split_ifs <;> simp_all

theorem Chan.close_eq_none {c : Chan α cap} : c.close = none ↔ c.closed = true := by
  simp [Chan.close]

/-- A close goes through exactly on an open channel and keeps its values. -/
theorem Chan.close_eq_some {c d : Chan α cap} :
    c.close = some d ↔ c.closed = false ∧ d.buf = c.buf ∧ d.closed = true := by
  obtain ⟨dbuf, dclosed, hd⟩ := d
  unfold Chan.close
  split_ifs with hc
  · simp [hc]
  · simp only [Bool.not_eq_true] at hc
    simp only [hc, Option.some.injEq, Chan.mk.injEq, true_and, eq_comm]

end Concurrency
end Agentd
