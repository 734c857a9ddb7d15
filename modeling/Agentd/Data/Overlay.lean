/-
# Laying maps over one another

`for k, v := range layer { m[k] = v }` copies one map over another.  The order in which a map is
visited is not determined, so a loop is given the pairs in the order in which it meets them
(`GoMap.Ranges`), and `GoMap.assign` is what it leaves.  A list of pairs may name a key more than
once, and then the last one counts (`lastValue`); the pairs of a map do not, and what is found
after the loop does not depend on their order (`GoMap.lookup_assign_of_ranges`).

`highest` is the value of a key in a list of layers, the highest one first.
-/

import Agentd.Data.Table
import Mathlib.Data.List.Induction

namespace Agentd

variable {κ ν : Type} [DecidableEq κ]

/-- The value of the last pair with the key. -/
def lastValue (l : List (κ × ν)) (k : κ) : Option ν :=
  (l.reverse.find? fun kv => kv.1 = k).map fun kv => kv.2

@[simp] theorem lastValue_nil (k : κ) : lastValue ([] : List (κ × ν)) k = none := rfl

theorem lastValue_concat (l : List (κ × ν)) (kv : κ × ν) (k : κ) :
    lastValue (l ++ [kv]) k = if kv.1 = k then some kv.2 else lastValue l k := by
  unfold lastValue
  rw [List.reverse_append, List.reverse_singleton, List.singleton_append, List.find?_cons]
  by_cases hk : kv.1 = k
  · simp [hk]
  · simp [hk]

/-- The value of a key stands in the list. -/
theorem mem_of_lastValue {l : List (κ × ν)} {k : κ} {v : ν} (h : lastValue l k = some v) :
    (k, v) ∈ l := by
  obtain ⟨kv, hfind, rfl⟩ := Option.map_eq_some_iff.1 h
  obtain rfl : kv.1 = k := by simpa using List.find?_some hfind
  exact List.mem_reverse.1 (List.mem_of_find?_eq_some hfind)

/-- A key that is not named has no value. -/
theorem lastValue_eq_none {l : List (κ × ν)} {k : κ} (h : k ∉ l.map Prod.fst) :
    lastValue l k = none := by
  refine Option.eq_none_iff_forall_ne_some.2 fun v hv => h ?_
  exact List.mem_map.2 ⟨(k, v), mem_of_lastValue hv, rfl⟩

/-- A key that is named has a value. -/
theorem exists_lastValue {l : List (κ × ν)} {k : κ} (h : k ∈ l.map Prod.fst) :
    ∃ v, lastValue l k = some v := by
  obtain ⟨kv, hkv, rfl⟩ := List.mem_map.1 h
  have hfind : (l.reverse.find? fun kv' => kv'.1 = kv.1).isSome := by
    rw [List.find?_isSome]
    exact ⟨kv, List.mem_reverse.2 hkv, by simp⟩
  obtain ⟨kv', hkv'⟩ := Option.isSome_iff_exists.1 hfind
  exact ⟨kv'.2, by rw [lastValue, hkv', Option.map_some]⟩

/-- The values may be changed before or after. -/
theorem lastValue_map {μ : Type} (f : ν → μ) (l : List (κ × ν)) (k : κ) :
    lastValue (l.map fun kv => (kv.1, f kv.2)) k = (lastValue l k).map f := by
  induction l using List.reverseRecOn with
  | nil => rfl
  | append_singleton l kv ih =>
      rw [List.map_append, List.map_singleton, lastValue_concat, lastValue_concat, ih]
      split_ifs
      · rfl
      · rfl

/-- Where no key is named twice, the pairs say what the value of a key is. -/
theorem lastValue_eq_some_iff {l : List (κ × ν)} (h : (l.map Prod.fst).Nodup) {k : κ} {v : ν} :
    lastValue l k = some v ↔ (k, v) ∈ l := by
  induction l using List.reverseRecOn with
  | nil => simp
  | append_singleton l kv ih =>
      rw [List.map_append, List.map_singleton, List.nodup_append] at h
      obtain ⟨hl, -, hdisjoint⟩ := h
      have hnew : kv.1 ∉ l.map Prod.fst := fun hmem =>
        hdisjoint kv.1 hmem kv.1 (List.mem_singleton_self _) rfl
      rw [lastValue_concat, List.mem_append, List.mem_singleton]
      split_ifs with hk
      · constructor
        · intro hv
          exact Or.inr (Prod.ext hk.symm (Option.some.inj hv).symm)
        · rintro (hmem | rfl)
          · exact absurd (List.mem_map.2 ⟨(k, v), hmem, rfl⟩) (hk ▸ hnew)
          · rfl
      · rw [ih hl]
        constructor
        · exact Or.inl
        · rintro (hmem | rfl)
          · exact hmem
          · exact absurd rfl hk

/-- Where no key is named twice, a key has one pair or none. -/
theorem filter_eq_lastValue {l : List (κ × ν)} (h : (l.map Prod.fst).Nodup) (k : κ) :
    (l.filter fun kv => kv.1 = k) = (lastValue l k).toList.map fun v => (k, v) := by
  induction l using List.reverseRecOn with
  | nil => rfl
  | append_singleton l kv ih =>
      rw [List.map_append, List.map_singleton, List.nodup_append] at h
      obtain ⟨hl, -, hdisjoint⟩ := h
      rw [List.filter_append, lastValue_concat, ih hl]
      by_cases hk : kv.1 = k
      · have hnew : k ∉ l.map Prod.fst := fun hmem =>
          hdisjoint k hmem kv.1 (List.mem_singleton_self _) hk.symm
        rw [lastValue_eq_none hnew, if_pos hk, List.filter_cons_of_pos (by simpa using hk)]
        exact congrArg (fun kv => [kv]) (Prod.ext hk rfl)
      · rw [if_neg hk, List.filter_cons_of_neg (by simpa using hk), List.filter_nil,
          List.append_nil]

namespace GoMap

/-- The pairs of a map. -/
def pairs (m : GoMap κ ν) : List (κ × ν) := m.entries.map fun e => (e.1, e.2)

/-- `range m` may meet the pairs of the map in this order. -/
def Ranges (m : GoMap κ ν) (l : List (κ × ν)) : Prop := l.Perm m.pairs

/-- The loop `for k, v := range … { m[k] = v }`, with the pairs that it meets. -/
def assign (m : GoMap κ ν) (l : List (κ × ν)) : GoMap κ ν :=
  l.foldl (fun m kv => m.insert kv.1 kv.2) m

/-- An assignment under a condition. -/
theorem ite_insert_eq_assign (m : GoMap κ ν) (p : Prop) [Decidable p] (k : κ) (v : ν) :
    (if p then m.insert k v else m) = m.assign (if p then [(k, v)] else []) := by
  split_ifs <;> rfl

theorem assign_append (m : GoMap κ ν) (l l' : List (κ × ν)) :
    m.assign (l ++ l') = (m.assign l).assign l' := List.foldl_append

section

variable {m m' : GoMap κ ν} {l : List (κ × ν)} {k : κ} {v : ν}

omit [DecidableEq κ] in
theorem ranges_pairs (m : GoMap κ ν) : m.Ranges m.pairs := List.Perm.refl _

omit [DecidableEq κ] in
theorem forall₂_ranges_pairs (layers : List (GoMap κ ν)) :
    List.Forall₂ Ranges layers (layers.map pairs) :=
  List.forall₂_map_right_iff.2 (List.forall₂_same.2 fun m _ => m.ranges_pairs)

omit [DecidableEq κ] in
/-- A map has no key twice. -/
theorem Ranges.nodup (h : m.Ranges l) : (l.map Prod.fst).Nodup := by
  have hkeys : (m.pairs.map Prod.fst).Nodup := by
    rw [pairs, List.map_map]
    exact m.nodupKeys
  exact (h.map Prod.fst).nodup_iff.2 hkeys

/-- The loop meets the pairs of the map. -/
theorem Ranges.mem_iff (h : m.Ranges l) : (k, v) ∈ l ↔ m.lookup k = some v := by
  rw [List.Perm.mem_iff h, ← Option.mem_def, AList.mem_lookup_iff, pairs, List.mem_map]
  constructor
  · rintro ⟨e, he, heq⟩
    obtain ⟨rfl, rfl⟩ := Prod.mk.inj heq
    exact he
  · intro he
    exact ⟨⟨k, v⟩, he, rfl⟩

/-- In whatever order a map is visited, the last value of a key is its value. -/
theorem Ranges.lastValue (h : m.Ranges l) (k : κ) : lastValue l k = m.lookup k := by
  refine Option.ext fun v => ?_
  rw [lastValue_eq_some_iff h.nodup, h.mem_iff]

/-- **What a loop of assignments leaves** under a key: the last value that it met, and where it
met none what was there. -/
theorem lookup_assign (m : GoMap κ ν) (l : List (κ × ν)) (k : κ) :
    (m.assign l).lookup k = (Agentd.lastValue l k).or (m.lookup k) := by
  induction l using List.reverseRecOn with
  | nil => rfl
  | append_singleton l kv ih =>
      rw [assign_append, lastValue_concat]
      show ((m.assign l).insert kv.1 kv.2).lookup k = _
      split_ifs with hk
      · rw [← hk, AList.lookup_insert, Option.some_or]
      · rw [AList.lookup_insert_ne (Ne.symm hk), ih]

/-- **A map that is copied over another** hides it, in whatever order it is visited. -/
theorem lookup_assign_of_ranges (h : m'.Ranges l) (m : GoMap κ ν) (k : κ) :
    (m.assign l).lookup k = (m'.lookup k).or (m.lookup k) := by
  rw [lookup_assign, h.lastValue]

/-- The union of two maps prefers the first. -/
theorem lookup_union (m m' : GoMap κ ν) (k : κ) :
    (m ∪ m').lookup k = (m.lookup k).or (m'.lookup k) := by
  by_cases hk : k ∈ m
  · obtain ⟨v, hv⟩ := Option.isSome_iff_exists.1 (AList.lookup_isSome.2 hk)
    rw [AList.lookup_union_left hk, hv, Option.some_or]
  · rw [AList.lookup_union_right hk, AList.lookup_eq_none.2 hk, Option.none_or]

end

end GoMap

/-- **What a loop of upserts leaves** under a key: the last row with that key, and where there is
none what was there. -/
theorem Table.get_foldl_upsert {ρ : Type} {key : ρ → κ} (t : Table κ ρ key) (rows : List ρ)
    (k : κ) :
    (rows.foldl Table.upsert t).get k =
      (lastValue (rows.map fun r => (key r, r)) k).or (t.get k) := by
  induction rows using List.reverseRecOn with
  | nil => rfl
  | append_singleton rows r ih =>
      rw [List.foldl_append, List.map_append, List.map_singleton, lastValue_concat]
      show ((rows.foldl Table.upsert t).upsert r).get k = _
      rw [Table.get_upsert, ih]
      by_cases hk : k = key r
      · rw [if_pos hk, if_pos hk.symm, Option.some_or]
      · rw [if_neg hk, if_neg (Ne.symm hk)]

/-- The value of the key in the highest layer that has one; the highest layer stands first. -/
def highest (layers : List (κ → Option ν)) (k : κ) : Option ν :=
  layers.findSome? fun layer => layer k

omit [DecidableEq κ] in
theorem highest_cons (layer : κ → Option ν) (layers : List (κ → Option ν)) (k : κ) :
    highest (layer :: layers) k = (layer k).or (highest layers k) := by
  unfold highest
  rw [List.findSome?_cons]
  cases layer k <;> rfl

omit [DecidableEq κ] in
theorem highest_append (layers layers' : List (κ → Option ν)) (k : κ) :
    highest (layers ++ layers') k = (highest layers k).or (highest layers' k) := by
  unfold highest
  rw [List.findSome?_append]

omit [DecidableEq κ] in
@[simp] theorem highest_singleton (layer : κ → Option ν) (k : κ) : highest [layer] k = layer k := by
  rw [highest_cons]
  exact Option.or_none

/-- **Maps that are copied over one another** hide each other, the last one on top. -/
theorem GoMap.lookup_foldl_assign {layers : List (GoMap κ ν)} {orders : List (List (κ × ν))}
    (h : List.Forall₂ GoMap.Ranges layers orders) (m : GoMap κ ν) (k : κ) :
    (orders.foldl GoMap.assign m).lookup k =
      highest ((layers.reverse.map fun layer k => layer.lookup k) ++ [fun k => m.lookup k]) k := by
  induction h generalizing m with
  | nil => exact (highest_singleton _ _).symm
  | cons hfirst _ ih =>
      rw [List.foldl_cons, ih, List.reverse_cons, List.map_append, List.append_assoc,
        highest_append, highest_append, highest_append, highest_singleton,
        List.map_singleton, highest_singleton, highest_singleton,
        GoMap.lookup_assign_of_ranges hfirst]

end Agentd
