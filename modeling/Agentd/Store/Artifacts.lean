/-
# Artifacts in the file system

`store/fs_artifact.go`: `FSArtifactStore` and `cleanKey`.  An artifact is a file below the root of
the store; its path is the root joined with the key, after one slash is taken from the key and the
rest is cleaned.  What the operating system answers is an input, and what `Put` makes of
directories is left out.

`Clean` keeps the `..` that a relative path starts with, and the join takes them back from the
root.  So a key stays in the store only if it comes down by the names that it went up, and where
the root is the empty text it must not become absolute (`Contained`).  `artifacts_contained_iff`
says that this is what containment of the path comes to, and equally the containment of what `Put`
writes and of what `Get` reads.
-/

import Agentd.Control.Types
import Agentd.Data.Path

namespace Agentd
namespace Store

open Control Filepath

/-- `FSArtifactStore`. -/
structure FSArtifactStore where
  root : String

/-- The files, by where their paths lead. -/
abbrev Files : Type := GoMap Path (List UInt8)

/-- `strings.TrimPrefix(key, "/")`. -/
def trimSlash : List Char → List Char
  | '/' :: rest => rest
  | key => key

/-- Where a key leads. -/
def keyPath (key : String) : Path := clean (trimSlash key.toList)

/-- `cleanKey`. -/
def cleanKey (key : String) : String := String.ofList (keyPath key).render

/-- How `Put` ends: `MkdirAll` or `Create` fails, the copy breaks off after so many bytes, or all
is written. -/
inductive PutOutcome
  | mkdirAll (err : Err)
  | create (err : Err)
  | copy (written : ℕ) (err : Err)
  | ok

namespace FSArtifactStore

/-- The path of an artifact. -/
def path (s : FSArtifactStore) (key : String) : String := joinPath s.root (cleanKey key)

/-- `FSArtifactStore.Put`. -/
def put (s : FSArtifactStore) (fs : Files) (key : String) (body : List UInt8) :
    PutOutcome → Files × Except Err Unit
  | .mkdirAll err | .create err => (fs, .error err)
  | .copy written err => (fs.insert (cleanPath (s.path key)) (body.take written), .error err)
  | .ok => (fs.insert (cleanPath (s.path key)) body, .ok ())

/-- `FSArtifactStore.Get`, with the error of `os.Open` on a file that is there. -/
def get (s : FSArtifactStore) (fs : Files) (key : String) (err : Option String) :
    Except Err (List UInt8 × String) :=
  match fs.lookup (cleanPath (s.path key)), err with
  | none, _ =>
      .error (.other
        ("open " ++ s.path key ++ ": open " ++ s.path key ++ ": no such file or directory"))
  | some _, some err => .error (.other ("open " ++ s.path key ++ ": " ++ err))
  | some body, none => .ok (body, "application/octet-stream")

/-- `Put` changes no file outside the root. -/
def WritesWithin (s : FSArtifactStore) (key : String) : Prop :=
  ∀ fs body outcome p, ¬p.Within (cleanPath s.root) →
    (s.put fs key body outcome).1.lookup p = fs.lookup p

/-- What `Get` returns does not depend on a file outside the root. -/
def ReadsWithin (s : FSArtifactStore) (key : String) : Prop :=
  ∀ (fs fs' : Files) err, (∀ p : Path, p.Within (cleanPath s.root) → fs.lookup p = fs'.lookup p) →
    s.get fs key err = s.get fs' key err

end FSArtifactStore

/-- The key comes down by the names that it goes up, it does not go up beyond a relative root, and
it is not absolute where there is no root to join it to. -/
structure Contained (root key : String) : Prop where
  relative : root = "" → (keyPath key).rooted = false
  ups_le : (cleanPath root).rooted = true ∨ (keyPath key).ups ≤ (cleanPath root).names.length
  leaves : (cleanPath root).leaves (keyPath key).ups <+: (keyPath key).names

section

variable {s : FSArtifactStore} {key root : String}

/-- **Where the path of an artifact leads.** -/
theorem cleanPath_path (s : FSArtifactStore) (key : String) :
    cleanPath (s.path key) =
      if s.root = "" then keyPath key else (cleanPath s.root).go (keyPath key) :=
  cleanPath_joinPath_render s.root (keyPath key)

/-- Without a root, the files of the store are those below the current directory. -/
theorem within_empty_iff {p : Path} :
    p.Within (cleanPath "") ↔ p.rooted = false ∧ p.ups = 0 := by
  constructor
  · rintro ⟨hrooted, hups, -⟩
    exact ⟨hrooted, hups⟩
  · rintro ⟨hrooted, hups⟩
    exact ⟨hrooted, hups, List.nil_prefix⟩

/-- **The path of an artifact is in the store** if the key is contained. -/
theorem path_within_iff :
    (cleanPath (s.path key)).Within (cleanPath s.root) ↔ Contained s.root key := by
  rw [cleanPath_path]
  by_cases hroot : s.root = ""
  · rw [if_pos hroot, hroot, within_empty_iff]
    constructor
    · rintro ⟨hrooted, hups⟩
      refine ⟨fun _ => hrooted, Or.inr hups.le, ?_⟩
      rw [hups]
      exact List.nil_prefix
    · rintro ⟨hrooted, hups, -⟩
      rcases hups with hbase | hups
      · cases hbase
      · exact ⟨hrooted rfl, Nat.le_zero.1 hups⟩
  · rw [if_neg hroot, Path.go_within_iff]
    constructor
    · rintro ⟨hups, hleaves⟩
      exact ⟨fun h => absurd h hroot, hups, hleaves⟩
    · rintro ⟨-, hups, hleaves⟩
      exact ⟨hups, hleaves⟩

/-- It is strictly below the root if the key names more than it gave up. -/
theorem path_inside_iff :
    (cleanPath (s.path key)).Inside (cleanPath s.root) ↔
      Contained s.root key ∧
        (keyPath key).names ≠ (cleanPath s.root).leaves (keyPath key).ups := by
  rw [Path.Inside, path_within_iff]
  refine and_congr_right fun hcontained => not_congr ?_
  have hwithin := path_within_iff.2 hcontained
  rw [cleanPath_path] at hwithin ⊢
  by_cases hroot : s.root = ""
  · rw [if_pos hroot, hroot, within_empty_iff] at hwithin
    rw [if_pos hroot, hroot, hwithin.2]
    constructor
    · intro heq
      rw [heq]
      rfl
    · exact Filepath.Path.ext hwithin.1 hwithin.2
  · rw [if_neg hroot] at hwithin ⊢
    exact Path.go_eq_self_iff hwithin

theorem put_lookup_of_ne (fs : Files) (body : List UInt8) (outcome : PutOutcome) {p : Path}
    (h : p ≠ cleanPath (s.path key)) : (s.put fs key body outcome).1.lookup p = fs.lookup p := by
  cases outcome with
  | mkdirAll err | create err => rfl
  | copy written err => exact AList.lookup_insert_ne h
  | ok => exact AList.lookup_insert_ne h

/-- **What `Put` writes is in the store** if the path is. -/
theorem writesWithin_iff :
    s.WritesWithin key ↔ (cleanPath (s.path key)).Within (cleanPath s.root) := by
  constructor
  · intro h
    by_contra hout
    have hwritten := h ∅ [] .ok _ hout
    rw [show (s.put ∅ key [] .ok).1 = (∅ : Files).insert (cleanPath (s.path key)) [] from rfl,
      AList.lookup_insert, AList.lookup_empty] at hwritten
    cases hwritten
  · intro hin fs body outcome p hout
    refine put_lookup_of_ne fs body outcome ?_
    rintro rfl
    exact hout hin

/-- **What `Get` reads is in the store** if the path is. -/
theorem readsWithin_iff :
    s.ReadsWithin key ↔ (cleanPath (s.path key)).Within (cleanPath s.root) := by
  constructor
  · intro h
    by_contra hout
    -- the file is there, or it is not
    have hread := h ∅ ((∅ : Files).insert (cleanPath (s.path key)) []) none fun p hp => by
      have hne : p ≠ cleanPath (s.path key) := by
        rintro rfl
        exact hout hp
      rw [AList.lookup_insert_ne hne]
    simp only [FSArtifactStore.get, AList.lookup_insert, AList.lookup_empty] at hread
    cases hread
  · intro hin fs fs' err hsame
    unfold FSArtifactStore.get
    rw [hsame _ hin]

/-- **Which keys stay inside the store.**  For every root and every key, the path of `Put` and
`Get` is the root or below it if and only if the key is contained, and strictly below it if the
key then names more than the root again; and in the same case, and in no other, `Put` changes no
file outside the root and `Get` returns nothing that depends on one. -/
theorem artifacts_contained_iff (s : FSArtifactStore) (key : String) :
    ((cleanPath (s.path key)).Within (cleanPath s.root) ↔ Contained s.root key) ∧
      ((cleanPath (s.path key)).Inside (cleanPath s.root) ↔
        Contained s.root key ∧
          (keyPath key).names ≠ (cleanPath s.root).leaves (keyPath key).ups) ∧
      (s.WritesWithin key ↔ Contained s.root key) ∧ (s.ReadsWithin key ↔ Contained s.root key) :=
  ⟨path_within_iff, path_inside_iff, writesWithin_iff.trans path_within_iff,
    readsWithin_iff.trans path_within_iff⟩

end

/-- A store below a directory of its own. -/
def artifacts : FSArtifactStore := ⟨"/var/agentd/artifacts"⟩

/-- A key with a slash, a double slash and a `..` that goes back to a name of its own. -/
theorem logKey_contained :
    Contained "/var/agentd/artifacts" "/runs//run_1/../run_2/log.txt" ∧
      artifacts.path "/runs//run_1/../run_2/log.txt" =
        "/var/agentd/artifacts/runs/run_2/log.txt" ∧
      artifacts.WritesWithin "/runs//run_1/../run_2/log.txt" ∧
      artifacts.ReadsWithin "/runs//run_1/../run_2/log.txt" := by
  have hkey : Contained "/var/agentd/artifacts" "/runs//run_1/../run_2/log.txt" :=
    ⟨fun h => absurd h (by decide), Or.inl (by decide +kernel), by decide +kernel⟩
  obtain ⟨-, -, hwrites, hreads⟩ :=
    artifacts_contained_iff artifacts "/runs//run_1/../run_2/log.txt"
  exact ⟨hkey, by decide +kernel, hwrites.2 hkey, hreads.2 hkey⟩

/-- **A key that leads up** is read and written where it leads: here the file of the passwords,
from a store three directories below the root.  Without a root, two slashes make the key
absolute. -/
theorem dotDotKey_escapes :
    artifacts.path "../../../etc/passwd" = "/etc/passwd" ∧
      ¬(cleanPath (artifacts.path "../../../etc/passwd")).Within (cleanPath artifacts.root) ∧
      (∀ fs : Files, ∀ body, fs.lookup (cleanPath "/etc/passwd") = some body →
        artifacts.get fs "../../../etc/passwd" none = .ok (body, "application/octet-stream")) ∧
      (∀ fs body, (artifacts.put fs "../../../etc/passwd" body .ok).1.lookup
        (cleanPath "/etc/passwd") = some body) ∧
      (FSArtifactStore.mk "").path "//etc/passwd" = "/etc/passwd" := by
  have hpath : artifacts.path "../../../etc/passwd" = "/etc/passwd" := by decide +kernel
  refine ⟨hpath, by decide +kernel, fun fs body hbody => ?_, fun fs body => ?_, by decide +kernel⟩
  · unfold FSArtifactStore.get
    rw [hpath, hbody]
  · unfold FSArtifactStore.put
    rw [hpath]
    exact AList.lookup_insert _

end Store
end Agentd
