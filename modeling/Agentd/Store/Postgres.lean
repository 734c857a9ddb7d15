/-
# The metadata store on Postgres

`store/postgres.go`: `PostgresStore`.  Its tables are keyed relations: `insert .. on
conflict do update` is an upsert, a row has the primary key, a copy of the field that a
list operation selects by, and the record as JSON.  `audits` has no `on conflict` clause,
so an insert under an id that is there fails, and its columns are copies of three fields
of the record.  The order of a list is left to the table.

JSON is a type of its own, with an encoder and a decoder for every kind of record
(`Codec`); `back` is the record as it comes back from a round trip, which need not be the
record that went in.  The database itself does not fail.
-/

import Agentd.Control.Types
import Mathlib.Data.List.Nodup

namespace Agentd
namespace Store

open Control

/-- The encoding of a kind of record as JSON. -/
structure Codec (ρ Json : Type) where
  encode : ρ → Json
  decode : Json → Option ρ
  back : ρ → ρ
  decode_encode : ∀ r, decode (encode r) = some (back r)

/-- The encodings of all records. -/
structure Codecs (Json : Type) where
  entry : Codec AgentCatalogEntry Json
  bundle : Codec Bundle Json
  container : Codec Container Json
  agent : Codec AgentInstance Json
  session : Codec Session Json
  run : Codec Run Json
  audit : Codec AuditRecord Json

/-- A row: the primary key, the column that lists are selected by, where the table has
one, and the record. -/
structure PgRow (Json : Type) where
  key : String
  ref : String := ""
  body : Json

abbrev PgTable (Json : Type) : Type := Table String (PgRow Json) PgRow.key

/-- A row of `audits`. -/
structure AuditRow (Json : Type) where
  id : String
  entityType : String
  entityID : String
  body : Json

/-- `PostgresStore`, with its tables. -/
structure PostgresStore (Json : Type) where
  registryAgents : PgTable Json := .empty
  bundles : PgTable Json := .empty
  containers : PgTable Json := .empty
  agentInstances : PgTable Json := .empty
  sessions : PgTable Json := .empty
  runs : PgTable Json := .empty
  audits : List (AuditRow Json) := []
  audits_key : (audits.map AuditRow.id).Nodup := by exact List.nodup_nil

section

variable {Json ρ : Type}

/-- `getJSON`: no row is `pgx.ErrNoRows`, which is wrapped and is not `ErrNotFound`. -/
def getJSON (codec : Codec ρ Json) (t : PgTable Json) (key : String) : Except Err ρ :=
  match t.get key with
  | none => .error (.other "query row: no rows in result set")
  | some row =>
      match codec.decode row.body with
      | some r => .ok r
      | none => .error (.other "decode row")

/-- `listJSON`, over the bodies of the selected rows. -/
def listJSON (codec : Codec ρ Json) (bodies : List Json) : Except Err (List ρ) :=
  bodies.mapM fun body =>
    match codec.decode body with
    | some r => .ok r
    | none => .error (.other "decode row")

/-- `select body from t`, and with an id `where ref=$1`. -/
def selectBy (t : PgTable Json) (id : String) : List Json :=
  if id = "" then t.toList.map PgRow.body
  else (t.toList.filter fun row => row.ref = id).map PgRow.body

namespace PostgresStore

variable (codecs : Codecs Json) (s : PostgresStore Json)

def upsertCatalog (entries : List AgentCatalogEntry) : PostgresStore Json :=
  { s with
    registryAgents := entries.foldl
      (fun t entry => t.upsert { key := entry.id, body := codecs.entry.encode entry })
      s.registryAgents }

def listCatalog : Except Err (List AgentCatalogEntry) :=
  listJSON codecs.entry (s.registryAgents.toList.map PgRow.body)

def getCatalogEntry (id : String) : Except Err AgentCatalogEntry :=
  getJSON codecs.entry s.registryAgents id

def putBundle (bundle : Bundle) : PostgresStore Json :=
  { s with bundles := s.bundles.upsert { key := bundle.digest, body := codecs.bundle.encode bundle } }

def getBundle (digest : String) : Except Err Bundle := getJSON codecs.bundle s.bundles digest

def listBundles : Except Err (List Bundle) :=
  listJSON codecs.bundle (s.bundles.toList.map PgRow.body)

def upsertContainer (container : Container) : PostgresStore Json :=
  { s with
    containers := s.containers.upsert
      { key := container.id, body := codecs.container.encode container } }

def getContainer (id : String) : Except Err Container := getJSON codecs.container s.containers id

def listContainers : Except Err (List Container) :=
  listJSON codecs.container (s.containers.toList.map PgRow.body)

def upsertAgentInstance (agent : AgentInstance) : PostgresStore Json :=
  { s with
    agentInstances := s.agentInstances.upsert
      { key := agent.id, ref := agent.containerID, body := codecs.agent.encode agent } }

def getAgentInstance (id : String) : Except Err AgentInstance :=
  getJSON codecs.agent s.agentInstances id

def listAgentInstances (containerID : String) : Except Err (List AgentInstance) :=
  listJSON codecs.agent (selectBy s.agentInstances containerID)

def upsertSession (session : Session) : PostgresStore Json :=
  { s with
    sessions := s.sessions.upsert
      { key := session.id, ref := session.containerID, body := codecs.session.encode session } }

def getSession (id : String) : Except Err Session := getJSON codecs.session s.sessions id

def listSessions (containerID : String) : Except Err (List Session) :=
  listJSON codecs.session (selectBy s.sessions containerID)

def upsertRun (run : Run) : PostgresStore Json :=
  { s with
    runs := s.runs.upsert { key := run.id, ref := run.sessionID, body := codecs.run.encode run } }

def getRun (id : String) : Except Err Run := getJSON codecs.run s.runs id

def listRuns (sessionID : String) : Except Err (List Run) :=
  listJSON codecs.run (selectBy s.runs sessionID)

/-- The row of an audit record. -/
def auditRow (record : AuditRecord) : AuditRow Json where
  id := record.id
  entityType := record.entityType
  entityID := record.entityID
  body := codecs.audit.encode record

/-- The primary key of `audits` after an insert under a new id. -/
theorem nodup_concat {rows : List (AuditRow Json)} {row : AuditRow Json}
    (hkey : (rows.map AuditRow.id).Nodup) (hrow : row.id ∉ rows.map AuditRow.id) :
    ((rows ++ [row]).map AuditRow.id).Nodup := by
  rw [List.map_append]
  refine List.nodup_append.2 ⟨hkey, List.nodup_singleton _, ?_⟩
  rintro a ha b hb rfl
  exact hrow (List.mem_singleton.1 hb ▸ ha)

/-- `AppendAudit`: the primary key refuses an id that is there. -/
def appendAudit (record : AuditRecord) : PostgresStore Json × Except Err Unit :=
  if h : record.id ∈ s.audits.map AuditRow.id then
    (s, .error (.other "duplicate key value violates unique constraint"))
  else
    ({ s with
        audits := s.audits ++ [auditRow codecs record]
        audits_key := nodup_concat s.audits_key h }, .ok ())

/-- `ListAudit`: both columns are selected by, unless both filters are empty. -/
def listAudit (entityType entityID : String) : Except Err (List AuditRecord) :=
  if entityType = "" ∧ entityID = "" then listJSON codecs.audit (s.audits.map AuditRow.body)
  else
    listJSON codecs.audit
      ((s.audits.filter fun row => row.entityType = entityType ∧ row.entityID = entityID).map
        AuditRow.body)

end PostgresStore

end

end Store
end Agentd
