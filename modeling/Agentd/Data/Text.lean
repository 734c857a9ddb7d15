/-
# Trimming and cutting

`trim` takes what satisfies a predicate away at the two ends of a list, and `cut` splits it at the
first place of a separator.  What is put around a text is trimmed away again (`trim_append_append`);
a text around a character that stays is trimmed on its outer sides only (`trim_append_cons`), which
is how trimming a whole line and then its two fields comes to the same as trimming the fields.
-/

import Mathlib.Data.List.DropRight
import Mathlib.Data.List.TakeDrop
import Mathlib.Data.List.TakeWhile

namespace Agentd

variable {α : Type} {p : α → Bool} {a b l : List α} {c : α}

/-- The list without what satisfies `p` at its two ends. -/
def trim (p : α → Bool) (l : List α) : List α := (l.dropWhile p).rdropWhile p

/-- The list neither begins nor ends with something that satisfies `p`. -/
def Trimmed (p : α → Bool) (l : List α) : Prop :=
  (∀ c ∈ l.head?, p c = false) ∧ ∀ c ∈ l.getLast?, p c = false

instance (p : α → Bool) (l : List α) : Decidable (Trimmed p l) :=
  inferInstanceAs (Decidable ((∀ c ∈ l.head?, p c = false) ∧ ∀ c ∈ l.getLast?, p c = false))

/-- What satisfies `p` is trimmed away at the end. -/
theorem rdropWhile_append_of_pos (hb : ∀ c ∈ b, p c) :
    (l ++ b).rdropWhile p = l.rdropWhile p := by
  unfold List.rdropWhile
  rw [List.reverse_append, List.dropWhile_append_of_pos fun c hc => hb c (List.mem_reverse.1 hc)]

/-- **What is put around a text** is trimmed away again. -/
theorem trim_append_append (ha : ∀ c ∈ a, p c) (hb : ∀ c ∈ b, p c) :
    trim p (a ++ l ++ b) = trim p l := by
  unfold trim
  rw [List.append_assoc, List.dropWhile_append_of_pos ha, List.dropWhile_append]
  split_ifs with hl
  · -- nothing of the text stays, and nothing of what follows it
    rw [List.isEmpty_iff.1 hl, List.dropWhile_eq_nil_iff.2 hb]
  · exact rdropWhile_append_of_pos hb

/-- A text without such ends stays as it is. -/
theorem Trimmed.trim_eq (h : Trimmed p l) : trim p l = l := by
  have hfirst : l.dropWhile p = l := by
    cases l with
    | nil => rfl
    | cons x l =>
        have hx : p x = false := h.1 x rfl
        exact List.dropWhile_cons_of_neg (by simp [hx])
  unfold trim
  rw [hfirst, List.rdropWhile_eq_self_iff]
  intro hne hlast
  rw [h.2 _ (List.getLast?_eq_getLast_of_ne_nil hne)] at hlast
  cases hlast

/-- Trimming the front first changes nothing. -/
theorem trim_dropWhile : trim p (l.dropWhile p) = trim p l := by
  have hfront : ∀ c ∈ l.takeWhile p, p c := fun c hc => List.mem_takeWhile_imp hc
  conv_rhs => rw [← List.takeWhile_append_dropWhile (p := p) (l := l)]
  have h := trim_append_append (l := l.dropWhile p) (b := []) hfront (by simp)
  rw [List.append_nil] at h
  exact h.symm

/-- Trimming the end first changes nothing. -/
theorem trim_rdropWhile : trim p (l.rdropWhile p) = trim p l := by
  have hend : ∀ c ∈ l.rtakeWhile p, p c := fun c hc => List.mem_rtakeWhile_imp hc
  conv_rhs => rw [← List.rdropWhile_append_rtakeWhile (p := p) (l := l)]
  exact (trim_append_append (a := []) (l := l.rdropWhile p) (by simp) hend).symm

/-- A text around a character that stays is trimmed on its outer sides. -/
theorem trim_append_cons (hc : p c = false) :
    trim p (a ++ c :: b) = a.dropWhile p ++ c :: b.rdropWhile p := by
  have hback : (a.dropWhile p ++ c :: b).rdropWhile p = a.dropWhile p ++ c :: b.rdropWhile p := by
    unfold List.rdropWhile
    rw [List.reverse_append, List.reverse_cons, List.append_assoc, List.dropWhile_append]
    split_ifs with hb
    · rw [List.isEmpty_iff.1 hb, List.singleton_append,
        List.dropWhile_cons_of_neg (by simp [hc])]
      simp
    · simp
  have hfront : (a ++ c :: b).dropWhile p = a.dropWhile p ++ c :: b := by
    rw [List.dropWhile_append]
    split_ifs with ha
    · rw [List.isEmpty_iff.1 ha, List.dropWhile_cons_of_neg (by simp [hc]), List.nil_append]
    · rfl
  unfold trim
  rw [hfront, hback]

section

variable [DecidableEq α] {sep : α}

/-- What stands before the first separator, and what stands after it. -/
def cut (sep : α) (l : List α) : Option (List α × List α) :=
  match l.span (· ≠ sep) with
  | (before, _ :: after) => some (before, after)
  | (_, []) => none

/-- The two parts and the separator make up the text. -/
theorem append_of_cut (h : cut sep l = some (a, b)) : l = a ++ sep :: b := by
  unfold cut at h
  rw [List.span_eq_takeWhile_dropWhile] at h
  split at h
  · next before x after heq =>
      obtain ⟨hbefore, hafter⟩ := Prod.mk.inj heq
      obtain ⟨rfl, rfl⟩ := Prod.mk.inj (Option.some.inj h)
      have hne : l.dropWhile (fun c => decide (c ≠ sep)) ≠ [] := by
        rw [hafter]
        exact List.cons_ne_nil _ _
      have hx : x = sep := by
        have hstop := List.head_dropWhile_not (fun c => decide (c ≠ sep)) hne
        simp only [hafter, List.head_cons] at hstop
        simpa using hstop
      rw [hx] at hafter
      rw [← hbefore, ← hafter, List.takeWhile_append_dropWhile]
  · cases h

/-- The first separator stands after a text that has none. -/
theorem span_append_cons (h : sep ∉ a) :
    (a ++ sep :: b).span (· ≠ sep) = (a, sep :: b) := by
  have hall : ∀ c ∈ a, decide (c ≠ sep) = true := by
    intro c hc
    simpa using fun heq : c = sep => h (heq ▸ hc)
  rw [List.span_eq_takeWhile_dropWhile, List.takeWhile_append_of_pos hall,
    List.dropWhile_append_of_pos hall, List.takeWhile_cons_of_neg (by simp),
    List.dropWhile_cons_of_neg (by simp), List.append_nil]

/-- **A text is cut at its first separator.** -/
theorem cut_append_cons (h : sep ∉ a) : cut sep (a ++ sep :: b) = some (a, b) := by
  unfold cut
  rw [span_append_cons h]

end

/-- A natural number is written in digits. -/
theorem isDigit_of_mem_toString_nat {n : ℕ} {c : Char} (h : c ∈ (toString n).toList) :
    c.isDigit = true := by
  rw [Nat.toString_eq_repr, Nat.toList_repr] at h
  exact Nat.isDigit_of_mem_toDigits (by decide) (by decide) h

/-- An integer is written in digits, with a minus in front if it is negative. -/
theorem isDigit_of_mem_toString {n : ℤ} {c : Char} (h : c ∈ (toString n).toList) :
    c = '-' ∨ c.isDigit = true := by
  cases n with
  | ofNat m => exact Or.inr (isDigit_of_mem_toString_nat h)
  | negSucc m =>
      have htext : toString (Int.negSucc m) = "-" ++ toString (m + 1) := rfl
      rw [htext, String.toList_append, List.mem_append] at h
      obtain h | h := h
      · exact Or.inl (by simpa using h)
      · exact Or.inr (isDigit_of_mem_toString_nat h)

end Agentd
