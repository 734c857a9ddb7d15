/-
# The metadata store

`store/memory.go`: `MemoryStore`, one keyed table per kind of record and the
list of audit records.  Each method holds the lock of the store from its first
line to its last, so a method is one step of whoever calls it.  `Get` of an
absent key is `ErrNotFound`.  The artifacts of the store are not part of the
metadata and are left out.

Records are values here, so a `Get` hands out a copy.  In the source the slices and
maps of a record that was read are still those of the stored one; of the modelled
callers only `EnsureAgent` writes to one of them, by its `append` to `BundleDigests`.
-/

import Agentd.Control.Types

namespace Agentd
namespace Store

open Control

/-- `MemoryStore`. -/
structure MemoryStore where
  registry : Table String AgentCatalogEntry (·.id) := .empty
  bundles : Table String Bundle (·.digest) := .empty
  containers : Table String Container (·.id) := .empty
  agents : Table String AgentInstance (·.id) := .empty
  sessions : Table String Session (·.id) := .empty
  runs : Table String Run (·.id) := .empty
  audits : List AuditRecord := []

namespace MemoryStore

/-- A lookup as the store answers it. -/
def found {ρ : Type} : Option ρ → Except Err ρ
  | some r => .ok r
  | none => .error .notFound

/-- The rows of a table that a list operation returns: those that refer to `id`, and all of
them when no id is given. -/
def listBy {ρ : Type} {key : ρ → String} (t : Table String ρ key) (ref : ρ → String) (id : String) :
    List ρ :=
  t.toList.filter fun r => id = "" || ref r = id

def upsertCatalog (s : MemoryStore) (entries : List AgentCatalogEntry) : MemoryStore :=
  { s with registry := entries.foldl Table.upsert s.registry }

def listCatalog (s : MemoryStore) : List AgentCatalogEntry := s.registry.toList

def getCatalogEntry (s : MemoryStore) (id : String) : Except Err AgentCatalogEntry :=
  found (s.registry.get id)

def putBundle (s : MemoryStore) (bundle : Bundle) : MemoryStore :=
  { s with bundles := s.bundles.upsert bundle }

def getBundle (s : MemoryStore) (digest : String) : Except Err Bundle :=
  found (s.bundles.get digest)

def listBundles (s : MemoryStore) : List Bundle := s.bundles.toList

def upsertContainer (s : MemoryStore) (container : Container) : MemoryStore :=
  { s with containers := s.containers.upsert container }

def getContainer (s : MemoryStore) (id : String) : Except Err Container :=
  found (s.containers.get id)

def listContainers (s : MemoryStore) : List Container := s.containers.toList

def upsertAgentInstance (s : MemoryStore) (agent : AgentInstance) : MemoryStore :=
  { s with agents := s.agents.upsert agent }

def getAgentInstance (s : MemoryStore) (id : String) : Except Err AgentInstance :=
  found (s.agents.get id)

def listAgentInstances (s : MemoryStore) (containerID : String) : List AgentInstance :=
  listBy s.agents (·.containerID) containerID

def upsertSession (s : MemoryStore) (session : Session) : MemoryStore :=
  { s with sessions := s.sessions.upsert session }

def getSession (s : MemoryStore) (id : String) : Except Err Session :=
  found (s.sessions.get id)

def listSessions (s : MemoryStore) (containerID : String) : List Session :=
  listBy s.sessions (·.containerID) containerID

def upsertRun (s : MemoryStore) (run : Run) : MemoryStore :=
  { s with runs := s.runs.upsert run }

def getRun (s : MemoryStore) (id : String) : Except Err Run := found (s.runs.get id)

def listRuns (s : MemoryStore) (sessionID : String) : List Run :=
  listBy s.runs (·.sessionID) sessionID

def appendAudit (s : MemoryStore) (record : AuditRecord) : MemoryStore :=
  { s with audits := s.audits ++ [record] }

def listAudit (s : MemoryStore) (entityType entityID : String) : List AuditRecord :=
  s.audits.filter fun record =>
    (entityType = "" || record.entityType = entityType) &&
      (entityID = "" || record.entityID = entityID)

@[simp] theorem found_eq_ok {ρ : Type} {o : Option ρ} {r : ρ} : found o = .ok r ↔ o = some r := by
  cases o <;> simp [found]

end MemoryStore
end Store
end Agentd
