/-
# Feeds that drop what does not fit

A producer that must not wait offers its values to a channel with a `select` that
has a `default` branch: a value that finds the channel full is dropped.  A
record of what was offered keeps each value with the number of unread values it
found, so `kept cap arrived` are the values that found a free slot.

`Chan.offer_kept` is the law of such a feed: what was taken out so far followed
by what is unread is what was kept, in the order of arrival.  A consumer that
stops at the first value with the property `p` takes out `through p` of what was
kept, no more and no less.
-/

import Agentd.Concurrency.Chan

namespace Agentd
namespace Concurrency

variable {α : Type*} {cap : ℕ}

/-- `select { case c <- a: default: }`; `none` is the panic of a send on a closed
channel. -/
def Chan.offer (c : Chan α cap) (a : α) : Option (Chan α cap) :=
  match c.send a with
  | .ok d => some d
  | .full => some c
  | .panic => none

/-- The values that found a free slot: each value of `arrived` comes with the
number of unread values it found. -/
def kept (cap : ℕ) (arrived : List (α × ℕ)) : List α :=
  (arrived.filter fun x => x.2 < cap).map Prod.fst

/-- The values up to the first one with the property `p`, that one included. -/
def through (p : α → Bool) : List α → List α
  | [] => []
  | a :: l => if p a then [a] else a :: through p l

/-- A value that finds a free slot is kept behind the others. -/
theorem kept_concat_of_lt {arrived : List (α × ℕ)} {a : α} {n : ℕ} (h : n < cap) :
    kept cap (arrived ++ [(a, n)]) = kept cap arrived ++ [a] := by
  simp [kept, h]

/-- A value that finds no free slot is dropped. -/
theorem kept_concat_of_le {arrived : List (α × ℕ)} {a : α} {n : ℕ} (h : cap ≤ n) :
    kept cap (arrived ++ [(a, n)]) = kept cap arrived := by
  simp [kept, h]

/-- When every value found a free slot, all are kept. -/
theorem kept_eq_map {arrived : List (α × ℕ)} (h : ∀ x ∈ arrived, x.2 < cap) :
    kept cap arrived = arrived.map Prod.fst := by
  have hall : arrived.filter (fun x => x.2 < cap) = arrived :=
    List.filter_eq_self.2 fun x hx => by simpa using h x hx
  rw [kept, hall]

/-- An open channel takes an offer, and stays open. -/
theorem Chan.offer_of_open {c : Chan α cap} (h : c.closed = false) (a : α) :
    ∃ d, c.offer a = some d ∧ d.closed = false := by
  unfold Chan.offer
  cases hs : c.send a with
  | ok d => exact ⟨d, rfl, (Chan.send_eq_ok.1 hs).2.2.2⟩
  | full => exact ⟨c, rfl, h⟩
  | panic =>
      rw [Chan.send_eq_panic.1 hs] at h
      cases h

/-- An offer to an open channel either finds a free slot or changes nothing. -/
theorem Chan.offer_eq_some {c d : Chan α cap} {a : α} (h : c.offer a = some d) :
    c.buf.length < cap ∧ d.buf = c.buf ++ [a] ∨ cap ≤ c.buf.length ∧ d = c := by
  unfold Chan.offer at h
  cases hs : c.send a with
  | ok d' =>
      rw [hs] at h
      obtain rfl := Option.some.inj h
      obtain ⟨-, hroom, hbuf, -⟩ := Chan.send_eq_ok.1 hs
      exact Or.inl ⟨hroom, hbuf⟩
  | full =>
      rw [hs] at h
      exact Or.inr ⟨(Chan.send_eq_full.1 hs).2, (Option.some.inj h).symm⟩
  | panic =>
      rw [hs] at h
      cases h

/-- What is unread after an offer was unread before it, or is the value. -/
theorem Chan.mem_of_offer {c d : Chan α cap} {a b : α} (h : c.offer a = some d) (hb : b ∈ d.buf) :
    b ∈ c.buf ∨ b = a := by
  rcases Chan.offer_eq_some h with ⟨-, hbuf⟩ | ⟨-, rfl⟩
  · rw [hbuf, List.mem_append, List.mem_singleton] at hb
    exact hb
  · exact Or.inl hb

/-- **The law of a feed.**  An offer, recorded with the number of unread values
it finds, keeps the values taken and the values unread in line with the
values kept. -/
theorem Chan.offer_kept {c d : Chan α cap} {a : α} {taken : List α} {arrived : List (α × ℕ)}
    (hkept : taken ++ c.buf = kept cap arrived) (h : c.offer a = some d) :
    taken ++ d.buf = kept cap (arrived ++ [(a, c.buf.length)]) := by
  rcases Chan.offer_eq_some h with ⟨hroom, hbuf⟩ | ⟨hfull, rfl⟩
  · rw [kept_concat_of_lt hroom, hbuf, ← hkept, List.append_assoc]
  · rw [kept_concat_of_le hfull, hkept]

/-- A consumer takes out nothing else. -/
theorem mem_of_mem_through {p : α → Bool} {a : α} :
    ∀ {l : List α}, a ∈ through p l → a ∈ l
  | [], h => h
  | b :: l, h => by
      rw [through] at h
      split_ifs at h
      · rw [List.mem_singleton.1 h]
        exact List.mem_cons_self
      · rcases List.mem_cons.1 h with rfl | h
        · exact List.mem_cons_self
        · exact List.mem_cons_of_mem b (mem_of_mem_through h)

/-- A consumer that has met no value with the property has yet to take what
remains. -/
theorem through_append_of_forall_not {p : α → Bool} {l : List α} (h : ∀ a ∈ l, p a = false)
    (m : List α) : through p (l ++ m) = l ++ through p m := by
  induction l with
  | nil => rfl
  | cons a l ih =>
      have ha : p a = false := h a List.mem_cons_self
      rw [List.cons_append, through, ha, ih fun b hb => h b (List.mem_cons_of_mem a hb)]
      rfl

/-- A consumer that has met its first value with the property is at the end. -/
theorem through_of_last {p : α → Bool} {l : List α} {a : α} (h : ∀ b ∈ l, p b = false)
    (ha : p a = true) (m : List α) : through p (l ++ [a] ++ m) = l ++ [a] := by
  rw [List.append_assoc, through_append_of_forall_not h, List.singleton_append, through, ha]
  rfl

end Concurrency
end Agentd
