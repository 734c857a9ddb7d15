/-
# Keyed tables

`GoMap κ ν` is a finite map.  `Table κ ρ key` is a map from keys to rows in
which every row stands under its own key: a set of rows in which the key of a
row is a field of the row.  That the key of a stored row is the key it is
stored under is part of the type, so it is never proved about a particular
table.  `upsert` stores a row under its key, whatever was there before.
-/

import Mathlib.Data.List.AList
import Mathlib.Logic.Function.Basic

namespace Agentd

/-- A finite map from `κ` to `ν`. -/
abbrev GoMap (κ ν : Type) : Type := AList fun _ : κ => ν

/-- What is found after an insertion: the new value, or what was there. -/
theorem GoMap.lookup_insert_cases {κ ν : Type} [DecidableEq κ] {m : GoMap κ ν} {k k' : κ} {v v' : ν}
    (h : (m.insert k v).lookup k' = some v') :
    k' = k ∧ v' = v ∨ k' ≠ k ∧ m.lookup k' = some v' := by
  by_cases hk : k' = k
  · subst hk
    rw [AList.lookup_insert] at h
    exact Or.inl ⟨rfl, (Option.some.inj h).symm⟩
  · rw [AList.lookup_insert_ne hk] at h
    exact Or.inr ⟨hk, h⟩

/-- What is found after a deletion was there, under another key. -/
theorem GoMap.lookup_erase_some {κ ν : Type} [DecidableEq κ] {m : GoMap κ ν} {k k' : κ} {v : ν}
    (h : (m.erase k).lookup k' = some v) : k' ≠ k ∧ m.lookup k' = some v := by
  by_cases hk : k' = k
  · subst hk
    rw [AList.lookup_erase] at h
    cases h
  · rw [AList.lookup_erase_ne hk] at h
    exact ⟨hk, h⟩

/-- A map as a function, after an insertion. -/
theorem GoMap.lookup_insert_eq_update {κ ν : Type} [DecidableEq κ] (m : GoMap κ ν) (k : κ) (v : ν) :
    (fun k' => (m.insert k v).lookup k') = Function.update (fun k' => m.lookup k') k (some v) := by
  funext k'
  by_cases hk : k' = k
  · subst hk
    rw [AList.lookup_insert, Function.update_self]
  · rw [AList.lookup_insert_ne hk, Function.update_of_ne hk]

/-- A map as a function, after a deletion. -/
theorem GoMap.lookup_erase_eq_update {κ ν : Type} [DecidableEq κ] (m : GoMap κ ν) (k : κ) :
    (fun k' => (m.erase k).lookup k') = Function.update (fun k' => m.lookup k') k none := by
  funext k'
  by_cases hk : k' = k
  · subst hk
    rw [AList.lookup_erase, Function.update_self]
  · rw [AList.lookup_erase_ne hk, Function.update_of_ne hk]

/-- The deletion of an absent key changes nothing. -/
theorem GoMap.erase_of_lookup_none {κ ν : Type} [DecidableEq κ] {m : GoMap κ ν} {k : κ}
    (h : m.lookup k = none) : m.erase k = m := by
  have hk : k ∉ m.entries.keys := AList.lookup_eq_none.1 h
  exact AList.ext (List.kerase_of_notMem_keys hk)

/-- A finite map from keys to rows in which every row stands under its own
key. -/
structure Table (κ ρ : Type) [DecidableEq κ] (key : ρ → κ) where
  rows : GoMap κ ρ
  keyed : ∀ k r, rows.lookup k = some r → key r = k

namespace Table

variable {κ ρ : Type} [DecidableEq κ] {key : ρ → κ}

/-- The table without rows. -/
def empty : Table κ ρ key := ⟨∅, fun k r h => by simp at h⟩

/-- The row stored under `k`. -/
def get (t : Table κ ρ key) (k : κ) : Option ρ := t.rows.lookup k

/-- Store a row under its key. -/
def upsert (t : Table κ ρ key) (r : ρ) : Table κ ρ key where
  rows := t.rows.insert (key r) r
  keyed := by
    intro k r' h
    by_cases hk : k = key r
    · subst hk
      rw [AList.lookup_insert] at h
      exact congrArg key (Option.some.inj h).symm
    · rw [AList.lookup_insert_ne hk] at h
      exact t.keyed k r' h

/-- Remove the row stored under `k`, if there is one. -/
def erase (t : Table κ ρ key) (k : κ) : Table κ ρ key where
  rows := t.rows.erase k
  keyed := by
    intro k' r h
    by_cases hk : k' = k
    · subst hk
      rw [AList.lookup_erase] at h
      cases h
    · rw [AList.lookup_erase_ne hk] at h
      exact t.keyed k' r h

/-- A stored row carries the key it is stored under. -/
theorem key_of_get {t : Table κ ρ key} {k : κ} {r : ρ} (h : t.get k = some r) : key r = k :=
  t.keyed k r h

@[simp] theorem get_upsert_self (t : Table κ ρ key) (r : ρ) :
    (t.upsert r).get (key r) = some r := AList.lookup_insert _

theorem get_upsert_of_ne (t : Table κ ρ key) {r : ρ} {k : κ} (h : k ≠ key r) :
    (t.upsert r).get k = t.get k := AList.lookup_insert_ne h

/-- After an upsert a key holds the new row or what it held before. -/
theorem get_upsert (t : Table κ ρ key) (r : ρ) (k : κ) :
    (t.upsert r).get k = if k = key r then some r else t.get k := by
  split_ifs with h
  · subst h
    exact get_upsert_self t r
  · exact get_upsert_of_ne t h

/-- An upsert takes the place of an earlier one under the same key. -/
theorem upsert_upsert (t : Table κ ρ key) {r r' : ρ} (h : key r = key r') :
    (t.upsert r).upsert r' = t.upsert r' := by
  have hrows : ((t.upsert r).upsert r').rows = (t.upsert r').rows := by
    show (t.rows.insert (key r) r).insert (key r') r' = t.rows.insert (key r') r'
    rw [h, AList.insert_insert]
  cases hleft : (t.upsert r).upsert r' with
  | mk rows keyed =>
      cases hright : t.upsert r' with
      | mk rows' keyed' =>
          rw [hleft, hright] at hrows
          obtain rfl : rows = rows' := hrows
          rfl

@[simp] theorem get_erase_self (t : Table κ ρ key) (k : κ) : (t.erase k).get k = none :=
  AList.lookup_erase k t.rows

theorem get_erase_of_ne (t : Table κ ρ key) {k k' : κ} (h : k' ≠ k) :
    (t.erase k).get k' = t.get k' := AList.lookup_erase_ne h

/-- The rows, in an order of the table's own. -/
def toList (t : Table κ ρ key) : List ρ := t.rows.entries.map fun e => e.2

theorem mem_toList {t : Table κ ρ key} {r : ρ} : r ∈ t.toList ↔ t.get (key r) = some r := by
  constructor
  · intro h
    obtain ⟨⟨k, r'⟩, he, rfl⟩ := List.mem_map.1 h
    have hget : t.get k = some r' := AList.mem_lookup_iff.2 he
    rw [key_of_get hget]
    exact hget
  · intro h
    exact List.mem_map.2 ⟨⟨key r, r⟩, AList.mem_lookup_iff.1 h, rfl⟩

/-- No row is listed twice. -/
theorem nodup_toList (t : Table κ ρ key) : t.toList.Nodup := by
  refine List.Nodup.map_on (fun e he e' he' heq => ?_) t.rows.nodupKeys.nodup
  have hkey : ∀ e ∈ t.rows.entries, e.1 = key e.2 :=
    fun e he => (key_of_get (t := t) (AList.mem_lookup_iff.2 he)).symm
  refine Sigma.ext ?_ (heq_of_eq heq)
  rw [hkey e he, hkey e' he', heq]

/-- Two tables whose rows correspond to each other, key by key, list corresponding rows. -/
theorem toList_perm_map {ρ' : Type} {key' : ρ' → κ} {t : Table κ ρ key} {t' : Table κ ρ' key'}
    {f : ρ → ρ'} (hkey : ∀ r, key' (f r) = key r) (h : ∀ k, t'.get k = (t.get k).map f) :
    t'.toList.Perm (t.toList.map f) := by
  have hinj : ∀ r ∈ t.toList, ∀ r' ∈ t.toList, f r = f r' → r = r' := by
    intro r hr r' hr' heq
    have hsame : key r = key r' := by rw [← hkey, heq, hkey]
    have hr := mem_toList.1 hr
    rw [hsame, mem_toList.1 hr'] at hr
    exact (Option.some.inj hr).symm
  refine (List.perm_ext_iff_of_nodup t'.nodup_toList (t.nodup_toList.map_on hinj)).2 fun r' => ?_
  rw [mem_toList, h, Option.map_eq_some_iff, List.mem_map]
  constructor
  · rintro ⟨r, hget, rfl⟩
    rw [hkey] at hget
    exact ⟨r, mem_toList.2 hget, rfl⟩
  · rintro ⟨r, hr, rfl⟩
    rw [hkey]
    exact ⟨r, mem_toList.1 hr, rfl⟩

end Table
end Agentd
