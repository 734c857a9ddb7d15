/-
# The directories of the containers of a node

`ProvisionContainer` joins the id of a container to the root of the runner, as
`filepath.Join` does it, and makes that the directory of the container;
`DeleteContainer` removes it with all that is in it, and the socket of the
supervisor.  The id is a text of the client's choice, and nothing looks at it:
`..` makes the parent of the root the directory of a container, and `a/b` lies in
the directory of `a`.

`Runner.Isolated` is what the directories are for: each strictly below the root,
none within another, and nothing removed that lies elsewhere.
`directories_isolated_of_plain_ids` says that a runner keeps it for as long as the
ids it accepts name a directory below the root that neither holds nor lies in that of
a live container, and whose path is short enough for the socket: the socket of a directory
with a long path is not in the directory but in the temporary directory of the host, and
`DeleteContainer` removes it there.
-/

import Agentd.NodeRuntime.Runner

namespace Agentd
namespace NodeRuntime

open Control Filepath Concurrency

/-- What `DeleteContainer` removes with a handle: the socket, and the directory with all that
is in it. -/
def ContainerHandle.Removes (h : ContainerHandle) (p : Path) : Prop :=
  p = cleanPath h.socket ∨ p.Within (cleanPath h.root)

/-- The socket of the directory has too long a path to be in it. -/
def LongSocket (root : String) : Prop := 96 ≤ (joinPath root "supervisor.sock").utf8ByteSize

instance (root : String) : Decidable (LongSocket root) := inferInstanceAs (Decidable (_ ≤ _))

/-- **Containers have directories of their own**, strictly below the root, none within another,
and the end of one container touches nothing outside the root and nothing of another
container. -/
structure Runner.Isolated (root : String) (r : Runner) : Prop where
  inside : ∀ id h, r.containers.get id = some h → (cleanPath h.root).Inside (cleanPath root)
  apart : ∀ id h id' h', r.containers.get id = some h → r.containers.get id' = some h' →
    id ≠ id' → ¬(cleanPath h.root).Within (cleanPath h'.root)
  removes : ∀ id h p, r.containers.get id = some h → h.Removes p →
    p.Inside (cleanPath root) ∧
      ∀ id' h', r.containers.get id' = some h' → id ≠ id' → ¬h'.Removes p

/-- The names of an id, read as a relative path. -/
def idNames (id : String) : List (List Char) := (relative id.toList).names

/-- The id names a directory below the root: it has a name in it and nowhere leads up, and it
is not absolute where there is no root to join it to. -/
def PlainID (root id : String) : Prop :=
  (relative id.toList).ups = 0 ∧ idNames id ≠ [] ∧ (root = "" → id.toList.head? ≠ some '/')

/-- Neither id names a directory that holds that of the other. -/
def Unnested (id id' : String) : Prop :=
  ¬idNames id <+: idNames id' ∧ ¬idNames id' <+: idNames id

instance (root id : String) : Decidable (PlainID root id) := inferInstanceAs (Decidable (_ ∧ _))

instance (id id' : String) : Decidable (Unnested id id') := inferInstanceAs (Decidable (_ ∧ _))

/-- The call provisions no container, or one with a plain id that is not nested with that of
another live container, in whose directory there is room for the socket. -/
def Runner.Admits (r : Runner) : RunnerCall → Prop
  | .provision req raw _ none =>
      PlainID r.root (containerID req raw) ∧ ¬LongSocket (joinPath r.root (containerID req raw)) ∧
        ∀ h ∈ r.containers.toList, h.container.id ≠ containerID req raw →
          Unnested (containerID req raw) h.container.id
  | .provision _ _ _ (some _) => True
  | .delete _ => True

instance (r : Runner) : DecidablePred r.Admits
  | .provision _ _ _ none => inferInstanceAs (Decidable (_ ∧ _))
  | .provision _ _ _ (some _) => inferInstanceAs (Decidable True)
  | .delete _ => inferInstanceAs (Decidable True)

/-- **The invariant.**  Every handle has the directory and the socket that its id gives, the
ids are plain, and no two of them are nested. -/
structure Runner.DirsOk (host : Host) (root : String) (r : Runner) : Prop where
  root_eq : r.root = root
  dir : ∀ {id h}, r.containers.get id = some h → h.root = joinPath root id
  socket : ∀ {id h}, r.containers.get id = some h → h.socket = supervisorSocket host h.root
  plain : ∀ {id h}, r.containers.get id = some h → PlainID root id
  short : ∀ {id h}, r.containers.get id = some h → ¬LongSocket (joinPath root id)
  unnested : ∀ {id h id' h'}, r.containers.get id = some h → r.containers.get id' = some h' →
    id ≠ id' → Unnested id id'

section

variable {host : Host} {root id id' : String} {r r' : Runner}

theorem Unnested.symm (h : Unnested id id') : Unnested id' id := ⟨h.2, h.1⟩

/-- The directory of a plain id lies where its names lead from the root. -/
theorem cleanPath_of_plain (h : PlainID root id) :
    cleanPath (joinPath root id) = (cleanPath root).go (relative id.toList) := by
  rw [cleanPath_joinPath]
  split_ifs with hroot
  · have hhead : decide (id.toList.head? = some '/') = false := decide_eq_false (h.2.2 hroot)
    rw [cleanPath, clean_eq_go, hhead, hroot]
    rfl
  · rfl

/-- The socket lies in the directory of its container, unless the path is too long. -/
theorem socket_within (host : Host) (h : ¬LongSocket root) (hroot : root ≠ "") :
    (cleanPath (supervisorSocket host root)).Within (cleanPath root) := by
  unfold supervisorSocket
  dsimp only
  rw [if_pos (Nat.lt_of_not_le h), cleanPath_joinPath, if_neg hroot]
  exact Path.go_within _ (by decide +kernel)

theorem PlainID.ne_empty (h : PlainID root id) : id ≠ "" := by
  rintro rfl
  exact h.2.1 (by decide +kernel)

/-- A new container with a plain id that is not nested with another one. -/
theorem Runner.DirsOk.provision {req : CreateContainerRequest} {raw : String} {now : Time}
    (hok : r.DirsOk host root) (hadm : r.Admits (.provision req raw now none)) :
    (r.provisionContainer host req raw now).1.DirsOk host root := by
  obtain ⟨hplain, hshort, hothers⟩ := hadm
  rw [hok.root_eq] at hplain hshort
  have hapart : ∀ {id h}, r.containers.get id = some h → id ≠ containerID req raw →
      Unnested (containerID req raw) id := by
    intro id h hold hne
    obtain rfl := Table.key_of_get hold
    exact hothers h (Table.mem_toList.2 hold) hne
  refine ⟨hok.root_eq, ?_, ?_, ?_, ?_, ?_⟩
  · intro id h hnew
    rcases r.provisionContainer_get host req raw now hnew with ⟨rfl, rfl⟩ | ⟨-, hold⟩
    · rw [Runner.newHandle_root, hok.root_eq]
    · exact hok.dir hold
  · intro id h hnew
    rcases r.provisionContainer_get host req raw now hnew with ⟨rfl, rfl⟩ | ⟨-, hold⟩
    · exact Runner.newHandle_socket ..
    · exact hok.socket hold
  · intro id h hnew
    rcases r.provisionContainer_get host req raw now hnew with ⟨rfl, rfl⟩ | ⟨-, hold⟩
    · exact hplain
    · exact hok.plain hold
  · intro id h hnew
    rcases r.provisionContainer_get host req raw now hnew with ⟨rfl, rfl⟩ | ⟨-, hold⟩
    · exact hshort
    · exact hok.short hold
  · intro id h id' h' hnew hnew' hne
    rcases r.provisionContainer_get host req raw now hnew with ⟨rfl, -⟩ | ⟨hid, hold⟩
    · rcases r.provisionContainer_get host req raw now hnew' with ⟨rfl, -⟩ | ⟨hid', hold'⟩
      · exact absurd rfl hne
      · exact hapart hold' hid'
    · rcases r.provisionContainer_get host req raw now hnew' with ⟨rfl, -⟩ | ⟨hid', hold'⟩
      · exact (hapart hold hid).symm
      · exact hok.unnested hold hold' hne

theorem Runner.DirsOk.delete (hok : r.DirsOk host root) (id : String) :
    (r.deleteContainer id).1.DirsOk host root := by
  have hget : ∀ {id' h}, (r.deleteContainer id).1.containers.get id' = some h →
      r.containers.get id' = some h := fun h => (Runner.deleteContainer_get h).2
  have hroot : (r.deleteContainer id).1.root = r.root := by
    unfold Runner.deleteContainer
    split <;> rfl
  exact ⟨hroot.trans hok.root_eq, fun h => hok.dir (hget h), fun h => hok.socket (hget h),
    fun h => hok.plain (hget h), fun h => hok.short (hget h), fun h h' => hok.unnested (hget h) (hget h')⟩

theorem Runner.DirsOk.step {a : RunnerCall} (hok : r.DirsOk host root) (hadm : r.Admits a)
    (hs : r.step host a = some r') : r'.DirsOk host root := by
  cases a with
  | provision req raw now err =>
      cases err with
      | none =>
          obtain rfl := Option.some.inj hs
          exact hok.provision hadm
      | some err =>
          obtain rfl := Option.some.inj hs
          exact hok
  | delete id =>
      obtain rfl := Option.some.inj hs
      exact hok.delete id

/-- **What the invariant gives.** -/
theorem Runner.DirsOk.isolated (hok : r.DirsOk host root) : r.Isolated root := by
  have hpath : ∀ {id h}, r.containers.get id = some h →
      cleanPath h.root = (cleanPath root).go (relative id.toList) := by
    intro id h hget
    rw [hok.dir hget, cleanPath_of_plain (hok.plain hget)]
  have hinside : ∀ {id h}, r.containers.get id = some h →
      (cleanPath h.root).Inside (cleanPath root) := by
    intro id h hget
    rw [hpath hget]
    exact Path.go_inside _ (hok.plain hget).1 (hok.plain hget).2.1
  -- a path in two of the directories would make one of the ids lead into the other
  have hapart : ∀ {id h id' h'} {p : Path}, r.containers.get id = some h →
      r.containers.get id' = some h' → id ≠ id' → p.Within (cleanPath h.root) →
      ¬p.Within (cleanPath h'.root) := by
    intro id h id' h' p hget hget' hne hp hp'
    rw [hpath hget] at hp
    rw [hpath hget'] at hp'
    have hun := hok.unnested hget hget' hne
    rcases Path.names_of_within_go (hok.plain hget).1 (hok.plain hget').1 hp hp' with hle | hle
    · exact hun.1 hle
    · exact hun.2 hle
  -- the socket lies in the directory too
  have hremoves : ∀ {id h} {p : Path}, r.containers.get id = some h → h.Removes p →
      p.Within (cleanPath h.root) := by
    rintro id h p hget (rfl | hp)
    · rw [hok.socket hget, hok.dir hget]
      exact socket_within host (hok.short hget) (joinPath_ne_empty root (hok.plain hget).ne_empty)
    · exact hp
  refine ⟨fun id h hget => hinside hget,
    fun id h id' h' hget hget' hne => hapart hget hget' hne (Path.Within.refl _),
    fun id h p hget hp => ⟨(hremoves hget hp).inside (hinside hget), fun id' h' hget' hne hp' => ?_⟩⟩
  exact hapart hget hget' hne (hremoves hget hp) (hremoves hget' hp')

theorem Runner.DirsOk.new (host : Host) (nodeID root : String) :
    (newRunner nodeID root).DirsOk host root :=
  ⟨rfl, nofun, nofun, nofun, nofun, nofun⟩

/-- **Directories of their own.**  In every state that a new runner reaches with plain ids,
none nested with that of a live container and all with room for the socket, the containers have
directories of their own. -/
theorem directories_isolated_of_plain_ids {nodeID : String} {l : List RunnerCall}
    (hl : Along (Runner.step host) Runner.Admits (newRunner nodeID root) l)
    (h : exec (Runner.step host) (newRunner nodeID root) l = some r) : r.Isolated root :=
  (exec_invariant (fun _ _ _ hok hadm hs => hok.step hadm hs)
    (Runner.DirsOk.new host nodeID root) hl h).isolated

end

/-- Containers with ids of one name, of two names and without a given id, one of which is
deleted and provisioned again. -/
def plainCalls : List RunnerCall :=
  [.provision { id := "team/build" } "" 1 none, .provision { id := "team/test" } "" 2 none,
    .provision {} "5f1d22c09ab3e847" 3 none, .delete "team/build",
    .provision { id := "team" } "" 4 (some (.other "address already in use")),
    .provision { id := "team/./build/" } "" 5 none]

/-- These containers have directories of their own. -/
theorem plainCalls_isolated :
    ∃ r, exec (Runner.step {}) (newRunner "node-1" "/var/agentd") plainCalls = some r ∧
      r.Isolated "/var/agentd" :=
  ⟨_, rfl, @directories_isolated_of_plain_ids {} "/var/agentd" _ "node-1" plainCalls
    (by decide +kernel) rfl⟩

/-- **An id that leads up** makes the parent of the root the directory of a container, which
goes with the container; and **an id that leads into another container** is accepted too. -/
theorem dotDotID_not_isolated :
    (∃ r h, exec (Runner.step {}) (newRunner "node-1" "/var/agentd")
        [.provision { id := ".." } "" 1 none] = some r ∧
      r.containers.get ".." = some h ∧ h.Removes (cleanPath "/var/log") ∧
      ¬r.Isolated "/var/agentd") ∧
    (∃ r, exec (Runner.step {}) (newRunner "node-1" "/var/agentd")
        [.provision { id := "a" } "" 1 none, .provision { id := "a/b" } "" 2 none] = some r ∧
      ¬r.Isolated "/var/agentd") := by
  refine ⟨⟨_, _, rfl, rfl, Or.inr (by decide +kernel), fun h => ?_⟩, ⟨_, rfl, fun h => ?_⟩⟩
  · have hinside := h.inside ".." _ rfl
    revert hinside
    decide +kernel
  · have hapart := h.apart "a/b" _ "a" _ rfl rfl (by decide)
    revert hapart
    decide +kernel

end NodeRuntime
end Agentd
