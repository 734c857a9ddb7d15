/-
# The containers of a node

`runtime/local/runner.go`: `Runner` and the operations on its containers,
`ProvisionContainer`, `HibernateContainer` and `DeleteContainer`, with
`SupervisorSocket` and `EnsureWorkspace` of `runtime/supervisor/manager.go`.  A
handle is kept under the id of its container.  It holds the directory of the
container, the socket of its supervisor, and the number of that supervisor among
all that the node has started: a supervisor is not gone when its handle is.

What a supervisor answers is an input of the caller here.  The gRPC server, its
listener and the connection of a handle are left out, and so are the calls to the
operating system, which can fail: a call that fails is an outcome the caller
meets.
-/

import Agentd.Data.Path
import Agentd.Supervisor.Manager

namespace Agentd
namespace NodeRuntime

open Control Filepath Supervisor Concurrency

/-- What the operating system tells a node: `os.TempDir()`, `os.Environ()`, and the hex digits
of the first four bytes of the SHA-1 sum of a text. -/
structure Host where
  tempDir : String := "/tmp"
  environ : List String := []
  sum : String → String := fun _ => "da39a3ee"

/-- `SupervisorSocket`: the file in the directory of the container, unless its path is too
long for a socket. -/
def supervisorSocket (host : Host) (root : String) : String :=
  let path := joinPath root "supervisor.sock"
  if path.utf8ByteSize < 96 then path
  else joinPath host.tempDir ("agd-" ++ host.sum root ++ ".sock")

/-- `EnsureWorkspace`, as the directory it makes. -/
def ensureWorkspace (root : String) : String := joinPath root "workspace"

/-- `containerHandle`: `supervisor` is the number of the supervisor. -/
structure ContainerHandle where
  container : Container
  root : String := ""
  workspace : String := ""
  socket : String := ""
  supervisor : ℕ := 0

/-- `Runner`, with all supervisors started so far. -/
structure Runner where
  nodeID : String
  root : String := ""
  containers : Table String ContainerHandle (·.container.id) := .empty
  supervisors : List (Pool Manager ManagerCall) := []

/-- `NewRunner`. -/
def newRunner (nodeID root : String) : Runner := { nodeID, root }

/-- A call of a runner that changes its containers, with the error that the operating system
may answer `ProvisionContainer` with. -/
inductive RunnerCall
  | provision (req : CreateContainerRequest) (raw : String) (now : Time) (err : Option Err)
  | delete (id : String)

/-- The id of the container: one is made up where none is given. -/
def containerID (req : CreateContainerRequest) (raw : String) : String :=
  if req.id = "" then newID "ctr" raw else req.id

/-- The container is the other one but for its state, its bundles and the time of its last
change: what neither a node nor an activity changes once a container is provisioned. -/
def Carries (c d : Container) : Prop :=
  c = { d with state := c.state, bundleDigests := c.bundleDigests, updatedAt := c.updatedAt }

namespace Carries

variable {c d : Container}

protected theorem refl (c : Container) : Carries c c := rfl

theorem id (h : Carries c d) : c.id = d.id := congrArg (·.id) h

theorem nodeID (h : Carries c d) : c.nodeID = d.nodeID := congrArg (·.nodeID) h

theorem currentRuns (h : Carries c d) : c.currentRuns = d.currentRuns := congrArg (·.currentRuns) h

end Carries

namespace Runner

/-- The handle that `ProvisionContainer` enters. -/
def newHandle (host : Host) (r : Runner) (req : CreateContainerRequest) (raw : String)
    (now : Time) : ContainerHandle :=
  let id := containerID req raw
  let root := joinPath r.root id
  let workspace := ensureWorkspace root
  { container :=
      { id
        nodeID := r.nodeID
        state := .ready
        pinned := req.pinned
        profile :=
          if req.profile.workspaceRoot = "" then { req.profile with workspaceRoot := workspace }
          else req.profile
        metadata := req.metadata
        capacity := if req.capacity = 0 then 4 else req.capacity
        createdAt := now
        updatedAt := now
        lastActiveAt := now }
    root
    workspace
    socket := supervisorSocket host root
    supervisor := r.supervisors.length }

/-- `Runner.ProvisionContainer`: a new supervisor, and a handle in place of the one that may
be there under the id. -/
def provisionContainer (host : Host) (r : Runner) (req : CreateContainerRequest) (raw : String)
    (now : Time) : Runner × Except Err Container :=
  let handle := newHandle host r req raw now
  ({ r with
      containers := r.containers.upsert handle
      supervisors := r.supervisors ++ [⟨newManager handle.container.id host.environ, []⟩] },
    .ok handle.container)

section

variable (host : Host) (r : Runner) (req : CreateContainerRequest) (raw : String) (now : Time)

@[simp] theorem newHandle_id :
    (newHandle host r req raw now).container.id = containerID req raw := by rw [newHandle]

@[simp] theorem newHandle_root :
    (newHandle host r req raw now).root = joinPath r.root (containerID req raw) := by
  rw [newHandle]

@[simp] theorem newHandle_socket :
    (newHandle host r req raw now).socket =
      supervisorSocket host (newHandle host r req raw now).root := by
  rw [newHandle]

@[simp] theorem newHandle_supervisor :
    (newHandle host r req raw now).supervisor = r.supervisors.length := by
  rw [newHandle]

@[simp] theorem provisionContainer_containers :
    (provisionContainer host r req raw now).1.containers =
      r.containers.upsert (newHandle host r req raw now) := rfl

/-- After `ProvisionContainer`, a handle is the new one, or one of the others. -/
theorem provisionContainer_get {id : String} {h : ContainerHandle}
    (hget : (provisionContainer host r req raw now).1.containers.get id = some h) :
    (id = containerID req raw ∧ h = newHandle host r req raw now) ∨
      (id ≠ containerID req raw ∧ r.containers.get id = some h) := by
  rw [provisionContainer_containers, Table.get_upsert, newHandle_id] at hget
  split_ifs at hget with hid
  · exact Or.inl ⟨hid, (Option.some.inj hget).symm⟩
  · exact Or.inr ⟨hid, hget⟩

end

/-- `Runner.handle`. -/
def handle (r : Runner) (containerID : String) : Except Err ContainerHandle :=
  match r.containers.get containerID with
  | some h => .ok h
  | none => .error .notFound

/-- `Runner.HibernateContainer`: the container of the handle is changed in
place and returned. -/
def hibernateContainer (r : Runner) (containerID : String) (now : Time) :
    Runner × Except Err Container :=
  match r.containers.get containerID with
  | some h =>
      let container := { h.container with state := .hibernating, updatedAt := now }
      ({ r with containers := r.containers.upsert { h with container } }, .ok container)
  | none => (r, .error .notFound)

/-- `Runner.DeleteContainer`: the handle goes out of the map first.  An error of
`os.RemoveAll` comes after that and is an outcome of the call. -/
def deleteContainer (r : Runner) (containerID : String) : Runner × Except Err Unit :=
  match r.containers.get containerID with
  | some _ => ({ r with containers := r.containers.erase containerID }, .ok ())
  | none => (r, .error .notFound)

/-- A call of a runner that changes its containers. -/
def step (host : Host) (r : Runner) : RunnerCall → Option Runner
  | .provision req raw now none => some (r.provisionContainer host req raw now).1
  | .provision _ _ _ (some _) => some r
  | .delete id => some (r.deleteContainer id).1

/-- `Runner.EnsureAgent`, with the supervisor's answer given. -/
def ensureAgent (r : Runner) (req : InstallAgentRequest) (answer : AgentInstance) :
    Runner × Except Err AgentInstance :=
  (r, (r.handle req.containerID).map fun _ => answer)

/-- `Runner.CreateSession` and `Runner.LoadSession`, with the supervisor's answer given. -/
def openSession (r : Runner) (req : SessionRequest) (answer : Session) :
    Runner × Except Err Session :=
  (r, (r.handle req.containerID).map fun _ => answer)

/-- `HibernateContainer` succeeds exactly on a container that is there, and
returns it in state `hibernating`. -/
theorem hibernateContainer_eq_ok {r : Runner} {id : String} {now : Time} {updated : Container}
    (h : (r.hibernateContainer id now).2 = .ok updated) :
    ∃ hd, r.containers.get id = some hd ∧
      updated = { hd.container with state := .hibernating, updatedAt := now } := by
  unfold hibernateContainer at h
  split at h
  · next hd hget => exact ⟨hd, hget, (Except.ok.inj h).symm⟩
  · cases h

/-- After `HibernateContainer` the same containers are there, each with the supervisor it had. -/
theorem hibernateContainer_get {r : Runner} {id : String} {now : Time} {id' : String}
    {hd' : ContainerHandle} (h : (r.hibernateContainer id now).1.containers.get id' = some hd') :
    ∃ hd, r.containers.get id' = some hd ∧ Carries hd'.container hd.container ∧
      hd'.supervisor = hd.supervisor := by
  unfold hibernateContainer at h
  split at h
  · next hd hget =>
      rw [Table.get_upsert] at h
      split_ifs at h with hid
      · have hkey := Table.key_of_get hget
        obtain rfl := Option.some.inj h
        refine ⟨hd, ?_, rfl, rfl⟩
        rw [show id' = id from hid.trans hkey, hget]
      · exact ⟨hd', h, rfl, rfl⟩
  · exact ⟨hd', h, rfl, rfl⟩

theorem hibernateContainer_supervisors (r : Runner) (id : String) (now : Time) :
    (r.hibernateContainer id now).1.supervisors = r.supervisors := by
  unfold hibernateContainer
  split <;> rfl

theorem hibernateContainer_nodeID (r : Runner) (id : String) (now : Time) :
    (r.hibernateContainer id now).1.nodeID = r.nodeID := by
  unfold hibernateContainer
  split <;> rfl

theorem deleteContainer_eq_ok {r : Runner} {id : String} {u : Unit}
    (h : (r.deleteContainer id).2 = .ok u) : ∃ hd, r.containers.get id = some hd := by
  unfold deleteContainer at h
  split at h
  · next hd hget => exact ⟨hd, hget⟩
  · cases h

theorem deleteContainer_get_self (r : Runner) (id : String) :
    (r.deleteContainer id).1.containers.get id = none := by
  unfold deleteContainer
  split
  · exact Table.get_erase_self _ _
  · next h => exact h

theorem deleteContainer_supervisors (r : Runner) (id : String) :
    (r.deleteContainer id).1.supervisors = r.supervisors := by
  unfold deleteContainer
  split <;> rfl

theorem deleteContainer_nodeID (r : Runner) (id : String) :
    (r.deleteContainer id).1.nodeID = r.nodeID := by
  unfold deleteContainer
  split <;> rfl

theorem deleteContainer_get {r : Runner} {id id' : String} {h : ContainerHandle}
    (hget : (r.deleteContainer id).1.containers.get id' = some h) :
    id' ≠ id ∧ r.containers.get id' = some h := by
  have hne : id' ≠ id := by
    rintro rfl
    rw [deleteContainer_get_self] at hget
    cases hget
  refine ⟨hne, ?_⟩
  unfold deleteContainer at hget
  split at hget
  · rwa [Table.get_erase_of_ne _ hne] at hget
  · exact hget

end Runner
end NodeRuntime
end Agentd
