/-
# The two stores side by side

The operations of `store/interfaces.go` (`RegistryStore`, `BundleStore`, `ContainerStore` and
`SessionStore`) on a `MemoryStore` and on a `PostgresStore`, call by call.  Two replies
agree when both are lists with the same records in some order, or the same record, each
as it comes back from a JSON round trip, or errors of which both or neither are
`ErrNotFound`.

`StoreSim` relates the two stores: table by table the same keys, with the columns of a row
copied from its record.  The replies of an operation on related stores agree unless it is
one of three (`Diverges`): a `Get` of an absent key, which Postgres does not report as
`ErrNotFound`; an `AppendAudit` under an id that is there, which Postgres refuses; and a
`ListAudit` with exactly one empty filter, which Postgres takes for the empty string.
`stores_agree_iff` is the result for sequences of operations: the replies agree call by
call exactly when no operation is one of these in the state it meets.
-/

import Agentd.Concurrency.Runs
import Agentd.Store.Memory
import Agentd.Store.Postgres

namespace Agentd
namespace Store

open Control Concurrency

/-- A record of any kind. -/
inductive Record
  | entry (r : AgentCatalogEntry)
  | bundle (r : Bundle)
  | container (r : Container)
  | agent (r : AgentInstance)
  | session (r : Session)
  | run (r : Run)
  | audit (r : AuditRecord)

/-- The record as it comes back from a JSON round trip. -/
def Codecs.back {Json : Type} (codecs : Codecs Json) : Record → Record
  | .entry r => .entry (codecs.entry.back r)
  | .bundle r => .bundle (codecs.bundle.back r)
  | .container r => .container (codecs.container.back r)
  | .agent r => .agent (codecs.agent.back r)
  | .session r => .session (codecs.session.back r)
  | .run r => .run (codecs.run.back r)
  | .audit r => .audit (codecs.audit.back r)

/-- An operation of a metadata store. -/
inductive StoreOp
  | upsertCatalog (entries : List AgentCatalogEntry)
  | listCatalog
  | getCatalogEntry (id : String)
  | putBundle (bundle : Bundle)
  | getBundle (digest : String)
  | listBundles
  | upsertContainer (container : Container)
  | getContainer (id : String)
  | listContainers
  | upsertAgentInstance (agent : AgentInstance)
  | getAgentInstance (id : String)
  | listAgentInstances (containerID : String)
  | upsertSession (session : Session)
  | getSession (id : String)
  | listSessions (containerID : String)
  | upsertRun (run : Run)
  | getRun (id : String)
  | listRuns (sessionID : String)
  | appendAudit (record : AuditRecord)
  | listAudit (entityType entityID : String)

/-- What an operation returns. -/
inductive Reply
  | done (res : Except Err Unit)
  | row (res : Except Err Record)
  | rows (res : Except Err (List Record))

namespace Reply

variable {ρ : Type}

/-- The reply of a `Get`, and of a `List`. -/
def ofRow (kind : ρ → Record) (res : Except Err ρ) : Reply := .row (res.map kind)

def ofRows (kind : ρ → Record) (res : Except Err (List ρ)) : Reply :=
  .rows (res.map (List.map kind))

end Reply

/-- An operation on a `MemoryStore`. -/
def MemoryStore.apply (s : MemoryStore) : StoreOp → MemoryStore × Reply
  | .upsertCatalog entries => (s.upsertCatalog entries, .done (.ok ()))
  | .listCatalog => (s, .ofRows .entry (.ok s.listCatalog))
  | .getCatalogEntry id => (s, .ofRow .entry (s.getCatalogEntry id))
  | .putBundle bundle => (s.putBundle bundle, .done (.ok ()))
  | .getBundle digest => (s, .ofRow .bundle (s.getBundle digest))
  | .listBundles => (s, .ofRows .bundle (.ok s.listBundles))
  | .upsertContainer container => (s.upsertContainer container, .done (.ok ()))
  | .getContainer id => (s, .ofRow .container (s.getContainer id))
  | .listContainers => (s, .ofRows .container (.ok s.listContainers))
  | .upsertAgentInstance agent => (s.upsertAgentInstance agent, .done (.ok ()))
  | .getAgentInstance id => (s, .ofRow .agent (s.getAgentInstance id))
  | .listAgentInstances containerID => (s, .ofRows .agent (.ok (s.listAgentInstances containerID)))
  | .upsertSession session => (s.upsertSession session, .done (.ok ()))
  | .getSession id => (s, .ofRow .session (s.getSession id))
  | .listSessions containerID => (s, .ofRows .session (.ok (s.listSessions containerID)))
  | .upsertRun run => (s.upsertRun run, .done (.ok ()))
  | .getRun id => (s, .ofRow .run (s.getRun id))
  | .listRuns sessionID => (s, .ofRows .run (.ok (s.listRuns sessionID)))
  | .appendAudit record => (s.appendAudit record, .done (.ok ()))
  | .listAudit entityType entityID => (s, .ofRows .audit (.ok (s.listAudit entityType entityID)))

/-- An operation on a `PostgresStore`. -/
def PostgresStore.apply {Json : Type} (codecs : Codecs Json) (s : PostgresStore Json) :
    StoreOp → PostgresStore Json × Reply
  | .upsertCatalog entries => (s.upsertCatalog codecs entries, .done (.ok ()))
  | .listCatalog => (s, .ofRows .entry (s.listCatalog codecs))
  | .getCatalogEntry id => (s, .ofRow .entry (s.getCatalogEntry codecs id))
  | .putBundle bundle => (s.putBundle codecs bundle, .done (.ok ()))
  | .getBundle digest => (s, .ofRow .bundle (s.getBundle codecs digest))
  | .listBundles => (s, .ofRows .bundle (s.listBundles codecs))
  | .upsertContainer container => (s.upsertContainer codecs container, .done (.ok ()))
  | .getContainer id => (s, .ofRow .container (s.getContainer codecs id))
  | .listContainers => (s, .ofRows .container (s.listContainers codecs))
  | .upsertAgentInstance agent => (s.upsertAgentInstance codecs agent, .done (.ok ()))
  | .getAgentInstance id => (s, .ofRow .agent (s.getAgentInstance codecs id))
  | .listAgentInstances containerID => (s, .ofRows .agent (s.listAgentInstances codecs containerID))
  | .upsertSession session => (s.upsertSession codecs session, .done (.ok ()))
  | .getSession id => (s, .ofRow .session (s.getSession codecs id))
  | .listSessions containerID => (s, .ofRows .session (s.listSessions codecs containerID))
  | .upsertRun run => (s.upsertRun codecs run, .done (.ok ()))
  | .getRun id => (s, .ofRow .run (s.getRun codecs id))
  | .listRuns sessionID => (s, .ofRows .run (s.listRuns codecs sessionID))
  | .appendAudit record =>
      ((s.appendAudit codecs record).1, .done (s.appendAudit codecs record).2)
  | .listAudit entityType entityID => (s, .ofRows .audit (s.listAudit codecs entityType entityID))

/-- Two results agree: both are values that agree, or errors of which both or neither are
`ErrNotFound`. -/
def ResultAgrees {α β : Type} (R : α → β → Prop) : Except Err α → Except Err β → Prop
  | .ok a, .ok b => R a b
  | .error e, .error e' => e = .notFound ↔ e' = .notFound
  | _, _ => False

/-- The reply of the `MemoryStore` agrees with that of the `PostgresStore`. -/
def Reply.Agrees {Json : Type} (codecs : Codecs Json) : Reply → Reply → Prop
  | .done res, .done res' => ResultAgrees (fun _ _ => True) res res'
  | .row res, .row res' => ResultAgrees (fun r r' => r' = codecs.back r) res res'
  | .rows res, .rows res' => ResultAgrees (fun l l' => l'.Perm (l.map codecs.back)) res res'
  | _, _ => False

/-- The replies to a sequence of operations. -/
def replies {σ α β : Type} (apply : σ → α → σ × β) : σ → List α → List β
  | _, [] => []
  | s, op :: ops => (apply s op).2 :: replies apply (apply s op).1 ops

/-- The operations on which the stores part: a `Get` of an absent key; an `AppendAudit`
under an id that is there; a `ListAudit` with exactly one empty filter, when a record that
passes the other has a field that is not empty there. -/
def Diverges (s : MemoryStore) : StoreOp → Prop
  | .getCatalogEntry id => s.registry.get id = none
  | .getBundle digest => s.bundles.get digest = none
  | .getContainer id => s.containers.get id = none
  | .getAgentInstance id => s.agents.get id = none
  | .getSession id => s.sessions.get id = none
  | .getRun id => s.runs.get id = none
  | .appendAudit record => ∃ r ∈ s.audits, r.id = record.id
  | .listAudit entityType entityID =>
      (entityType = "" ∧ entityID ≠ "" ∧
          ∃ r ∈ s.audits, r.entityID = entityID ∧ r.entityType ≠ "") ∨
        entityType ≠ "" ∧ entityID = "" ∧
          ∃ r ∈ s.audits, r.entityType = entityType ∧ r.entityID ≠ ""
  | _ => False

section

variable {Json ρ : Type} {key : ρ → String}

/-- The row of a record. -/
def rowOf (codec : Codec ρ Json) (key ref : ρ → String) (r : ρ) : PgRow Json where
  key := key r
  ref := ref r
  body := codec.encode r

/-- A table of the one store and the table of the other have corresponding rows. -/
def TableSim (codec : Codec ρ Json) (ref : ρ → String) (t : Table String ρ key)
    (t' : PgTable Json) : Prop :=
  ∀ k, t'.get k = (t.get k).map (rowOf codec key ref)

variable {codec : Codec ρ Json} {ref : ρ → String} {t : Table String ρ key} {t' : PgTable Json}
  {kind : ρ → Record} {codecs : Codecs Json}

theorem TableSim.upsert (h : TableSim codec ref t t') (r : ρ) :
    TableSim codec ref (t.upsert r) (t'.upsert (rowOf codec key ref r)) := by
  intro k
  rw [Table.get_upsert, Table.get_upsert, h k]
  show (if k = key r then _ else _) = _
  split_ifs <;> rfl

theorem TableSim.foldl_upsert (h : TableSim codec ref t t') (rs : List ρ) :
    TableSim codec ref (rs.foldl Table.upsert t)
      (rs.foldl (fun t' r => t'.upsert (rowOf codec key ref r)) t') := by
  induction rs generalizing t t' with
  | nil => exact h
  | cons r rs ih => exact ih (h.upsert r)

/-- **A `Get`** agrees exactly when the key is there. -/
theorem TableSim.get_agrees (h : TableSim codec ref t t') (k : String)
    (hkind : ∀ r, codecs.back (kind r) = kind (codec.back r)) :
    Reply.Agrees codecs (.ofRow kind (MemoryStore.found (t.get k)))
      (.ofRow kind (getJSON codec t' k)) ↔ t.get k ≠ none := by
  unfold getJSON
  rw [h k]
  cases hget : t.get k with
  | none => simp [Reply.Agrees, Reply.ofRow, MemoryStore.found, Except.map, ResultAgrees]
  | some r =>
      simp [Reply.Agrees, Reply.ofRow, MemoryStore.found, Except.map, ResultAgrees, rowOf,
        codec.decode_encode, hkind]

theorem listJSON_eq_ok {bodies : List Json} (h : ∀ body ∈ bodies, ∃ r, body = codec.encode r) :
    listJSON codec bodies = .ok (bodies.filterMap codec.decode) := by
  unfold listJSON
  induction bodies with
  | nil => rfl
  | cons body bodies ih =>
      obtain ⟨r, rfl⟩ := h body (List.mem_cons_self ..)
      rw [List.mapM_cons, ih fun body' hmem => h body' (List.mem_cons_of_mem _ hmem),
        List.filterMap_cons, codec.decode_encode]
      rfl

theorem filterMap_decode (codec : Codec ρ Json) (rs : List ρ) :
    (rs.map codec.encode).filterMap codec.decode = rs.map codec.back := by
  rw [List.filterMap_map, ← List.filterMap_eq_map]
  congr 1
  funext r
  exact codec.decode_encode r

theorem listJSON_map_encode (codec : Codec ρ Json) (rs : List ρ) :
    listJSON codec (rs.map codec.encode) = .ok (rs.map codec.back) := by
  rw [listJSON_eq_ok fun body hmem => ?_, filterMap_decode]
  obtain ⟨r, -, rfl⟩ := List.mem_map.1 hmem
  exact ⟨r, rfl⟩

/-- The bodies of some records, in any order, are decoded to these records as they come
back. -/
theorem listJSON_of_perm {bodies : List Json} {rs : List ρ}
    (h : bodies.Perm (rs.map codec.encode)) :
    ∃ rs', listJSON codec bodies = .ok rs' ∧ rs'.Perm (rs.map codec.back) := by
  refine ⟨bodies.filterMap codec.decode, listJSON_eq_ok fun body hmem => ?_, ?_⟩
  · obtain ⟨r, -, rfl⟩ := List.mem_map.1 (h.mem_iff.1 hmem)
    exact ⟨r, rfl⟩
  · exact filterMap_decode codec rs ▸ h.filterMap codec.decode

/-- Lists of corresponding records agree. -/
theorem rows_agree_of_perm {bodies : List Json} {rs : List ρ}
    (hkind : ∀ r, codecs.back (kind r) = kind (codec.back r))
    (h : bodies.Perm (rs.map codec.encode)) :
    Reply.Agrees codecs (.ofRows kind (.ok rs)) (.ofRows kind (listJSON codec bodies)) := by
  obtain ⟨rs', hlist, hperm⟩ := listJSON_of_perm h
  rw [hlist]
  show (rs'.map kind).Perm ((rs.map kind).map codecs.back)
  have hmap : (rs.map kind).map codecs.back = (rs.map codec.back).map kind := by
    simp [hkind]
  exact hmap ▸ hperm.map kind

theorem TableSim.bodies_perm (h : TableSim codec ref t t') :
    (t'.toList.map PgRow.body).Perm (t.toList.map codec.encode) := by
  have hperm := (Table.toList_perm_map (fun r => rfl) h).map PgRow.body
  rwa [List.map_map] at hperm

/-- **A `List` without a filter** agrees. -/
theorem TableSim.list_agrees (h : TableSim codec ref t t')
    (hkind : ∀ r, codecs.back (kind r) = kind (codec.back r)) :
    Reply.Agrees codecs (.ofRows kind (.ok t.toList))
      (.ofRows kind (listJSON codec (t'.toList.map PgRow.body))) :=
  rows_agree_of_perm hkind h.bodies_perm

/-- **A `List` with a filter** agrees: the column is a copy of the field. -/
theorem TableSim.listBy_agrees (h : TableSim codec ref t t') (id : String)
    (hkind : ∀ r, codecs.back (kind r) = kind (codec.back r)) :
    Reply.Agrees codecs (.ofRows kind (.ok (MemoryStore.listBy t ref id)))
      (.ofRows kind (listJSON codec (selectBy t' id))) := by
  unfold selectBy MemoryStore.listBy
  split_ifs with hid
  · have hall : (t.toList.filter fun r => id = "" || ref r = id) = t.toList := by simp [hid]
    rw [hall]
    exact h.list_agrees hkind
  · refine rows_agree_of_perm hkind ?_
    have hfilter : (t.toList.filter fun r => id = "" || ref r = id) =
        t.toList.filter fun r => ref r = id := by simp [hid]
    have hperm := ((Table.toList_perm_map (fun r => rfl) h).filter
      fun row => row.ref = id).map PgRow.body
    rw [hfilter]
    rwa [List.filter_map, List.map_map] at hperm

/-- The two stores hold the same, table by table. -/
structure StoreSim (codecs : Codecs Json) (s : MemoryStore) (p : PostgresStore Json) : Prop where
  registry : TableSim codecs.entry (fun _ => "") s.registry p.registryAgents
  bundles : TableSim codecs.bundle (fun _ => "") s.bundles p.bundles
  containers : TableSim codecs.container (fun _ => "") s.containers p.containers
  agents : TableSim codecs.agent (·.containerID) s.agents p.agentInstances
  sessions : TableSim codecs.session (·.containerID) s.sessions p.sessions
  runs : TableSim codecs.run (·.sessionID) s.runs p.runs
  audits : p.audits = s.audits.map (PostgresStore.auditRow codecs)

variable {s : MemoryStore} {p : PostgresStore Json}

theorem storeSim_new (codecs : Codecs Json) : StoreSim codecs {} {} where
  registry _ := rfl
  bundles _ := rfl
  containers _ := rfl
  agents _ := rfl
  sessions _ := rfl
  runs _ := rfl
  audits := rfl

theorem StoreSim.audit_ids (h : StoreSim codecs s p) (id : String) :
    id ∈ p.audits.map AuditRow.id ↔ ∃ r ∈ s.audits, r.id = id := by
  rw [h.audits, List.map_map, List.mem_map]
  rfl

/-- **`AppendAudit`** agrees exactly when the id is new. -/
theorem StoreSim.appendAudit_agrees (h : StoreSim codecs s p) (record : AuditRecord) :
    Reply.Agrees codecs (.done (.ok ())) (.done (p.appendAudit codecs record).2) ↔
      ¬∃ r ∈ s.audits, r.id = record.id := by
  rw [← h.audit_ids]
  unfold PostgresStore.appendAudit
  split_ifs with hid
  · simp [Reply.Agrees, ResultAgrees, hid]
  · simp [Reply.Agrees, ResultAgrees, hid]

/-- Of two filters of which one passes less, both pass the same exactly when the other
passes no more. -/
theorem filter_map_perm_iff {α β : Type} {f : α → β} {l : List α} {p q : α → Bool}
    (hpq : ∀ a, p a = true → q a = true) :
    ((l.filter p).map f).Perm ((l.filter q).map f) ↔ ∀ a ∈ l, q a = true → p a = true := by
  constructor
  · intro hperm a ha hqa
    have hlen := hperm.length_eq
    rw [List.length_map, List.length_map] at hlen
    have htwice : (l.filter q).filter p = l.filter p := by
      rw [List.filter_filter]
      refine List.filter_congr fun b _ => ?_
      cases hb : p b with
      | false => rfl
      | true => simp [hpq b hb]
    rw [← htwice, List.length_filter_eq_length_iff] at hlen
    exact hlen a (List.mem_filter.2 ⟨ha, hqa⟩)
  · intro hqp
    have heq : l.filter p = l.filter q := by
      refine List.filter_congr fun a ha => ?_
      rw [Bool.eq_iff_iff]
      exact ⟨hpq a, hqp a ha⟩
    rw [heq]

/-- The records that `ListAudit` of Postgres selects. -/
def selected (entityType entityID : String) (r : AuditRecord) : Bool :=
  (entityType = "" ∧ entityID = "") ∨ (r.entityType = entityType ∧ r.entityID = entityID)

theorem StoreSim.listAudit_eq (h : StoreSim codecs s p) (entityType entityID : String) :
    p.listAudit codecs entityType entityID =
      .ok ((s.audits.filter (selected entityType entityID)).map codecs.audit.back) := by
  have hbodies : ∀ rs : List AuditRecord,
      listJSON codecs.audit ((rs.map (PostgresStore.auditRow codecs)).map AuditRow.body) =
        .ok (rs.map codecs.audit.back) := by
    intro rs
    rw [List.map_map]
    exact listJSON_map_encode codecs.audit rs
  unfold PostgresStore.listAudit
  split_ifs with hempty
  · have hall : s.audits.filter (selected entityType entityID) = s.audits := by
      simp [selected, hempty]
    rw [hall, h.audits, hbodies]
  · rw [h.audits, List.filter_map, hbodies]
    have hfilter : s.audits.filter ((fun row : AuditRow Json =>
        decide (row.entityType = entityType ∧ row.entityID = entityID)) ∘
          PostgresStore.auditRow codecs) = s.audits.filter (selected entityType entityID) := by
      refine List.filter_congr fun r _ => ?_
      show decide (r.entityType = entityType ∧ r.entityID = entityID) = _
      rw [selected, Bool.eq_iff_iff, decide_eq_true_iff, decide_eq_true_iff]
      exact ⟨Or.inr, fun hr => hr.resolve_left hempty⟩
    rw [hfilter]

/-- **`ListAudit`** agrees unless exactly one filter is empty and a record passes the other
whose own field there is not. -/
theorem StoreSim.listAudit_agrees (h : StoreSim codecs s p) (entityType entityID : String) :
    Reply.Agrees codecs (.ofRows .audit (.ok (s.listAudit entityType entityID)))
      (.ofRows .audit (p.listAudit codecs entityType entityID)) ↔
        ¬Diverges s (.listAudit entityType entityID) := by
  rw [h.listAudit_eq]
  have hmap : ∀ rs : List AuditRecord,
      (rs.map codecs.audit.back).map Record.audit =
        rs.map fun r => Record.audit (codecs.audit.back r) := fun rs => List.map_map
  show ((_ : List AuditRecord).map Record.audit).Perm (((_ : List AuditRecord).map _).map _) ↔ _
  rw [hmap, List.map_map]
  show (List.map (fun r => Record.audit (codecs.audit.back r)) _).Perm
    (List.map (fun r => Record.audit (codecs.audit.back r)) _) ↔ _
  rw [MemoryStore.listAudit, filter_map_perm_iff]
  · unfold Diverges selected
    by_cases hT : entityType = "" <;> by_cases hI : entityID = ""
    · simp [hT, hI]
    · have hid : (∀ r ∈ s.audits, r.entityID = entityID →
          r.entityType = "" ∧ r.entityID = entityID) ↔
          ∀ r ∈ s.audits, r.entityID = entityID → r.entityType = "" :=
        ⟨fun h r hr he => (h r hr he).1, fun h r hr he => ⟨h r hr he, he⟩⟩
      simpa [hT, hI] using hid
    · have htype : (∀ r ∈ s.audits, r.entityType = entityType →
          r.entityType = entityType ∧ r.entityID = "") ↔
          ∀ r ∈ s.audits, r.entityType = entityType → r.entityID = "" :=
        ⟨fun h r hr he => (h r hr he).2, fun h r hr he => ⟨he, h r hr he⟩⟩
      simpa [hT, hI] using htype
    · simp [hT, hI]
  · intro r hr
    have hsel := of_decide_eq_true hr
    rcases hsel with ⟨hT, hI⟩ | ⟨hT, hI⟩ <;> simp [hT, hI]

theorem iff_not_false {P : Prop} (h : P) : P ↔ ¬False := ⟨fun _ => id, fun _ => h⟩

/-- **The replies to one operation** on related stores agree exactly when they do not part
on it. -/
theorem StoreSim.apply_agrees (h : StoreSim codecs s p) (op : StoreOp) :
    Reply.Agrees codecs (s.apply op).2 (p.apply codecs op).2 ↔ ¬Diverges s op := by
  cases op with
  | upsertCatalog | putBundle | upsertContainer | upsertAgentInstance | upsertSession
  | upsertRun => exact iff_not_false trivial
  | listCatalog => exact iff_not_false (h.registry.list_agrees fun _ => rfl)
  | listBundles => exact iff_not_false (h.bundles.list_agrees fun _ => rfl)
  | listContainers => exact iff_not_false (h.containers.list_agrees fun _ => rfl)
  | listAgentInstances id => exact iff_not_false (h.agents.listBy_agrees id fun _ => rfl)
  | listSessions id => exact iff_not_false (h.sessions.listBy_agrees id fun _ => rfl)
  | listRuns id => exact iff_not_false (h.runs.listBy_agrees id fun _ => rfl)
  | getCatalogEntry id => exact h.registry.get_agrees id fun _ => rfl
  | getBundle id => exact h.bundles.get_agrees id fun _ => rfl
  | getContainer id => exact h.containers.get_agrees id fun _ => rfl
  | getAgentInstance id => exact h.agents.get_agrees id fun _ => rfl
  | getSession id => exact h.sessions.get_agrees id fun _ => rfl
  | getRun id => exact h.runs.get_agrees id fun _ => rfl
  | appendAudit record => exact h.appendAudit_agrees record
  | listAudit entityType entityID => exact h.listAudit_agrees entityType entityID

/-- **One operation** on which the stores do not part keeps them related. -/
theorem StoreSim.apply_sim (h : StoreSim codecs s p) {op : StoreOp} (hop : ¬Diverges s op) :
    StoreSim codecs (s.apply op).1 (p.apply codecs op).1 := by
  cases op with
  | upsertCatalog entries => exact { h with registry := h.registry.foldl_upsert entries }
  | putBundle bundle => exact { h with bundles := h.bundles.upsert bundle }
  | upsertContainer container => exact { h with containers := h.containers.upsert container }
  | upsertAgentInstance agent => exact { h with agents := h.agents.upsert agent }
  | upsertSession session => exact { h with sessions := h.sessions.upsert session }
  | upsertRun run => exact { h with runs := h.runs.upsert run }
  | appendAudit record =>
      have hnew : record.id ∉ p.audits.map AuditRow.id := fun hid => hop ((h.audit_ids _).1 hid)
      show StoreSim codecs (s.appendAudit record) (p.appendAudit codecs record).1
      rw [PostgresStore.appendAudit, dif_neg hnew]
      refine { h with audits := ?_ }
      show p.audits ++ [_] = (s.audits ++ [record]).map _
      rw [h.audits, List.map_append]
      rfl
  | listCatalog | listBundles | listContainers | listAgentInstances | listSessions | listRuns
  | getCatalogEntry | getBundle | getContainer | getAgentInstance | getSession | getRun
  | listAudit => exact h

/-- The states that a sequence of operations goes through. -/
def MemoryStore.next (s : MemoryStore) (op : StoreOp) : Option MemoryStore := some (s.apply op).1

/-- The replies on related stores, from here on. -/
theorem StoreSim.replies_agree_iff (h : StoreSim codecs s p) (ops : List StoreOp) :
    List.Forall₂ (Reply.Agrees codecs) (replies MemoryStore.apply s ops)
        (replies (PostgresStore.apply codecs) p ops) ↔
      Along MemoryStore.next (fun s op => ¬Diverges s op) s ops := by
  induction ops generalizing s p with
  | nil => exact ⟨fun _ => trivial, fun _ => .nil⟩
  | cons op ops ih =>
      rw [replies, replies, List.forall₂_cons, h.apply_agrees op]
      show _ ↔ _ ∧ ∀ t ∈ some (s.apply op).1, _
      constructor
      · rintro ⟨hop, hrest⟩
        refine ⟨hop, ?_⟩
        rintro t ⟨⟩
        exact (ih (h.apply_sim hop)).1 hrest
      · rintro ⟨hop, hrest⟩
        exact ⟨hop, (ih (h.apply_sim hop)).2 (hrest _ rfl)⟩

end

/-- **When the two stores are interchangeable.**  For every encoding of the records and every
sequence of operations on new stores, the replies of the `MemoryStore` and of the
`PostgresStore` agree call by call exactly when no operation of the sequence is one on
which they part: a `Get` of an absent key, an `AppendAudit` under an id that is there, or a
`ListAudit` with exactly one empty filter that leaves out what Postgres takes it for. -/
theorem stores_agree_iff {Json : Type} (codecs : Codecs Json) (ops : List StoreOp) :
    List.Forall₂ (Reply.Agrees codecs) (replies MemoryStore.apply {} ops)
        (replies (PostgresStore.apply codecs) {} ops) ↔
      Along MemoryStore.next (fun s op => ¬Diverges s op) {} ops :=
  (storeSim_new codecs).replies_agree_iff ops

/-- Records as they are, for JSON. -/
def plainCodecs : Codecs Record where
  entry := ⟨.entry, fun | .entry r => some r | _ => none, id, fun _ => rfl⟩
  bundle := ⟨.bundle, fun | .bundle r => some r | _ => none, id, fun _ => rfl⟩
  container := ⟨.container, fun | .container r => some r | _ => none, id, fun _ => rfl⟩
  agent := ⟨.agent, fun | .agent r => some r | _ => none, id, fun _ => rfl⟩
  session := ⟨.session, fun | .session r => some r | _ => none, id, fun _ => rfl⟩
  run := ⟨.run, fun | .run r => some r | _ => none, id, fun _ => rfl⟩
  audit := ⟨.audit, fun | .audit r => some r | _ => none, id, fun _ => rfl⟩

/-- The audit record of a delete. -/
def deleteRecord : AuditRecord :=
  { id := "aud_1", entityType := "container", entityID := "ctr_1", action := "delete" }

/-- **The stores part.**  On new stores `GetContainer` of an absent id is `ErrNotFound` on
the one only; after an `AppendAudit`, `ListAudit` by the entity type alone finds the record
on the one only; and a second `AppendAudit` under the same id fails on the other only. -/
theorem stores_part :
    (¬List.Forall₂ (Reply.Agrees plainCodecs)
        (replies MemoryStore.apply {} [.getContainer "ctr_1"])
        (replies (PostgresStore.apply plainCodecs) {} [.getContainer "ctr_1"])) ∧
      (¬List.Forall₂ (Reply.Agrees plainCodecs)
        (replies MemoryStore.apply {} [.appendAudit deleteRecord, .listAudit "container" ""])
        (replies (PostgresStore.apply plainCodecs) {}
          [.appendAudit deleteRecord, .listAudit "container" ""])) ∧
      ¬List.Forall₂ (Reply.Agrees plainCodecs)
        (replies MemoryStore.apply {} [.appendAudit deleteRecord, .appendAudit deleteRecord])
        (replies (PostgresStore.apply plainCodecs) {}
          [.appendAudit deleteRecord, .appendAudit deleteRecord]) := by
  refine ⟨?_, ?_, ?_⟩
  · rw [(storeSim_new plainCodecs).replies_agree_iff]
    exact fun h => h.1 rfl
  · rw [(storeSim_new plainCodecs).replies_agree_iff]
    intro h
    refine (h.2 _ rfl).1 (Or.inr ⟨by decide, rfl, deleteRecord, ?_, rfl, by decide⟩)
    exact List.mem_singleton.2 rfl
  · rw [(storeSim_new plainCodecs).replies_agree_iff]
    intro h
    exact (h.2 _ rfl).1 ⟨deleteRecord, List.mem_singleton.2 rfl, rfl⟩

end Store
end Agentd
