/-
# What a sync leaves in the catalog

`Syncer.Sync` (`registry/sync.go`) reads a document, parses it and hands all of its entries to
`UpsertCatalog`.  The `MemoryStore` enters them under its lock, and that does not fail.  The
`PostgresStore` has one statement for each of them and no transaction around the loop, so it may
fail in the middle, with the rows before that written (`executed`).

In both stores the last entry with an id counts, and `Parse` does not mind two agents with one id.
`sync_kept_iff` says when a sync is all or nothing and leaves what it returned: in the
`MemoryStore` exactly if no two different entries have one id, and in the `PostgresStore` exactly
if, besides, every entry comes back from its JSON as it was; and if a statement failed, exactly if
the statements before it wrote what was there.
-/

import Agentd.Data.Overlay
import Agentd.Registry.Parser
import Agentd.Store.Interchange

namespace Agentd
namespace Registry

open Control Store

/-! ### The stores -/

section

variable {Json : Type} (codecs : Codecs Json) (fail : ℕ → Option Err)

/-- The row of an entry in `registry_agents`. -/
def catalogRow (entry : AgentCatalogEntry) : PgRow Json :=
  { key := entry.id, body := codecs.entry.encode entry }

/-- The loop of `UpsertCatalog` on Postgres, from statement `n` on; `fail` has the errors of the
statements.  A statement that fails changes nothing. -/
def upsertRows (n : ℕ) (t : PgTable Json) : List AgentCatalogEntry → PgTable Json × Except Err Unit
  | [] => (t, .ok ())
  | entry :: rest =>
      match fail n with
      | some e => (t, .error e)
      | none => upsertRows (n + 1) (t.upsert (catalogRow codecs entry)) rest

/-- The `PostgresStore`, whose statements may fail. -/
def postgresCatalog : CatalogStore (PostgresStore Json) (PgRow Json) where
  upsertCatalog p entries :=
    ({ p with registryAgents := (upsertRows codecs fail 0 p.registryAgents entries).1 },
      (upsertRows codecs fail 0 p.registryAgents entries).2)
  row p id := p.registryAgents.get id
  getCatalogEntry p id := p.getCatalogEntry codecs id

/-- The entries whose statements are carried out, from statement `n` on: those before the first
failure. -/
def executed (n : ℕ) : List AgentCatalogEntry → List AgentCatalogEntry
  | [] => []
  | entry :: rest =>
      match fail n with
      | some _ => []
      | none => entry :: executed (n + 1) rest

end

/-! ### What is expected of it -/

/-- The ids of the agents of the document. -/
def documentIDs : Except Err (Except String Document) → List String
  | .ok (.ok doc) => doc.map fun agent => agent.1.id
  | _ => []

/-- A sync is all or nothing, and leaves what it returned: with an error, all rows are as they
were; with entries, each of them is found under its id, and the rows of other ids are as they
were. -/
def Kept {σ ρ : Type} (parseURL : String → Option String) (store : CatalogStore σ ρ) (s : σ)
    (source : Except Err (Except String Document)) : Prop :=
  match sync parseURL store s source with
  | (s', .error _) => ∀ id, store.row s' id = store.row s id
  | (s', .ok entries) =>
      (∀ entry ∈ entries, store.getCatalogEntry s' entry.id = .ok entry) ∧
        ∀ id, id ∉ documentIDs source → store.row s' id = store.row s id

/-- The last entry with an id. -/
def lastEntry (entries : List AgentCatalogEntry) (id : String) : Option AgentCatalogEntry :=
  lastValue (entries.map fun entry => (entry.id, entry)) id

/-- No two different entries have one id. -/
def Unambiguous (entries : List AgentCatalogEntry) : Prop :=
  ∀ entry ∈ entries, ∀ other ∈ entries, entry.id = other.id → entry = other

section

variable {entries : List AgentCatalogEntry} {entry : AgentCatalogEntry} {id : String}

theorem lastEntry_eq_some (h : lastEntry entries id = some entry) :
    entry ∈ entries ∧ entry.id = id := by
  obtain ⟨other, hmem, heq⟩ := List.mem_map.1 (mem_of_lastValue h)
  obtain ⟨rfl, rfl⟩ := Prod.mk.inj heq
  exact ⟨hmem, rfl⟩

theorem exists_lastEntry (h : entry ∈ entries) :
    ∃ last, lastEntry entries entry.id = some last := by
  refine exists_lastValue ?_
  rw [List.map_map]
  exact List.mem_map.2 ⟨entry, h, rfl⟩

theorem lastEntry_eq_none (h : id ∉ entries.map AgentCatalogEntry.id) :
    lastEntry entries id = none := by
  refine lastValue_eq_none ?_
  rw [List.map_map]
  exact h

/-- **Every entry is what is found under its id**, if what is found is the last entry with that id
as it comes back: exactly if no two different entries have one id, and all come back as they
were. -/
theorem forall_lastEntry_iff {back : AgentCatalogEntry → AgentCatalogEntry} :
    (∀ entry ∈ entries, ∀ last, lastEntry entries entry.id = some last → back last = entry) ↔
      Unambiguous entries ∧ ∀ entry ∈ entries, back entry = entry := by
  constructor
  · intro h
    -- the last entry with an id is its own last one, and so is every entry with that id
    have hlast : ∀ entry ∈ entries, ∀ last, lastEntry entries entry.id = some last →
        entry = last ∧ back last = last := by
      intro entry hentry last hsome
      obtain ⟨hmem, hid⟩ := lastEntry_eq_some hsome
      have hback : back last = last := h last hmem last (by rw [hid, hsome])
      exact ⟨(h entry hentry last hsome).symm.trans hback, hback⟩
    refine ⟨fun entry hentry other hother hid => ?_, fun entry hentry => ?_⟩
    · obtain ⟨last, hsome⟩ := exists_lastEntry hentry
      rw [(hlast entry hentry last hsome).1, (hlast other hother last (hid ▸ hsome)).1]
    · obtain ⟨last, hsome⟩ := exists_lastEntry hentry
      obtain ⟨rfl, hback⟩ := hlast entry hentry last hsome
      exact hback
  · rintro ⟨hone, hback⟩ entry hentry last hsome
    obtain ⟨hmem, hid⟩ := lastEntry_eq_some hsome
    rw [hback last hmem]
    exact hone last hmem entry hentry hid

end

/-! ### What the stores do -/

section

variable {Json : Type} {codecs : Codecs Json} {fail : ℕ → Option Err} {s : MemoryStore}
  {p : PostgresStore Json} {entries : List AgentCatalogEntry} {id : String}

theorem memory_row_upsertCatalog (s : MemoryStore) (entries : List AgentCatalogEntry)
    (id : String) :
    (s.upsertCatalog entries).registry.get id = (lastEntry entries id).or (s.registry.get id) :=
  Table.get_foldl_upsert s.registry entries id

theorem upsertRows_fst (n : ℕ) (t : PgTable Json) (entries : List AgentCatalogEntry) :
    (upsertRows codecs fail n t entries).1 =
      ((executed fail n entries).map (catalogRow codecs)).foldl Table.upsert t := by
  induction entries generalizing n t with
  | nil => rfl
  | cons entry rest ih =>
      unfold upsertRows executed
      split
      · rfl
      · exact ih (n + 1) _

/-- What is left is the store after these entries, as if nothing could fail. -/
theorem postgresCatalog_upsertCatalog (p : PostgresStore Json) (entries : List AgentCatalogEntry) :
    ((postgresCatalog codecs fail).upsertCatalog p entries).1 =
      p.upsertCatalog codecs (executed fail 0 entries) := by
  unfold postgresCatalog PostgresStore.upsertCatalog
  dsimp only
  rw [upsertRows_fst, List.foldl_map]
  rfl

theorem upsertRows_snd (n : ℕ) (t : PgTable Json) (entries : List AgentCatalogEntry) :
    (upsertRows codecs fail n t entries).2 = .ok () ↔ executed fail n entries = entries := by
  induction entries generalizing n t with
  | nil => exact ⟨fun _ => rfl, fun _ => rfl⟩
  | cons entry rest ih =>
      unfold upsertRows executed
      split
      · constructor
        · intro h
          cases h
        · intro h
          cases h
      · rw [ih, List.cons.injEq]
        exact ⟨fun h => ⟨rfl, h⟩, fun h => h.2⟩

/-- The rows of the `PostgresStore` after an `UpsertCatalog`. -/
theorem postgres_row_upsertCatalog (p : PostgresStore Json) (entries : List AgentCatalogEntry)
    (id : String) :
    (upsertRows codecs fail 0 p.registryAgents entries).1.get id =
      ((lastEntry (executed fail 0 entries) id).map (catalogRow codecs)).or
        (p.registryAgents.get id) := by
  rw [upsertRows_fst, Table.get_foldl_upsert, List.map_map, lastEntry, ← lastValue_map,
    List.map_map]
  rfl

/-- What is found in the `PostgresStore` after an `UpsertCatalog`. -/
theorem postgres_get_upsertCatalog {entry : AgentCatalogEntry}
    (h : lastEntry (executed fail 0 entries) id = some entry) :
    getJSON codecs.entry (upsertRows codecs fail 0 p.registryAgents entries).1 id =
      .ok (codecs.entry.back entry) := by
  unfold getJSON
  rw [postgres_row_upsertCatalog, h]
  simp [catalogRow, codecs.entry.decode_encode]

end

/-! ### What a sync leaves -/

/-- What `UpsertCatalog` does to the rows of a store: it enters those entries that are written,
and succeeds if these are all.  `back` is an entry as it is found. -/
structure Enters {σ ρ : Type} (store : CatalogStore σ ρ) (rowOf : AgentCatalogEntry → ρ)
    (back : AgentCatalogEntry → AgentCatalogEntry) (s : σ)
    (entries written : List AgentCatalogEntry) : Prop where
  ok_iff : (store.upsertCatalog s entries).2 = .ok () ↔ written = entries
  row : ∀ id, store.row (store.upsertCatalog s entries).1 id =
    ((lastEntry written id).map rowOf).or (store.row s id)
  get : ∀ id entry, lastEntry written id = some entry →
    store.getCatalogEntry (store.upsertCatalog s entries).1 id = .ok (back entry)

theorem memoryCatalog_enters (s : MemoryStore) (entries : List AgentCatalogEntry) :
    Enters memoryCatalog id id s entries entries where
  ok_iff := ⟨fun _ => rfl, fun _ => rfl⟩
  row id := by
    rw [Option.map_id]
    exact memory_row_upsertCatalog s entries id
  get id entry h := by
    show MemoryStore.found ((s.upsertCatalog entries).registry.get id) = .ok entry
    rw [memory_row_upsertCatalog, h]
    rfl

theorem postgresCatalog_enters {Json : Type} (codecs : Codecs Json) (fail : ℕ → Option Err)
    (p : PostgresStore Json) (entries : List AgentCatalogEntry) :
    Enters (postgresCatalog codecs fail) (catalogRow codecs) codecs.entry.back p entries
      (executed fail 0 entries) where
  ok_iff := upsertRows_snd 0 p.registryAgents entries
  row id := postgres_row_upsertCatalog p entries id
  get _ _ h := postgres_get_upsertCatalog h

section

variable {σ ρ : Type} {parseURL : String → Option String} {store : CatalogStore σ ρ} {s : σ}
  {rowOf : AgentCatalogEntry → ρ} {back : AgentCatalogEntry → AgentCatalogEntry}
  {source : Except Err (Except String Document)} {entries written : List AgentCatalogEntry}

theorem documentIDs_eq (h : readCatalog parseURL source = .ok entries) :
    documentIDs source = entries.map AgentCatalogEntry.id := by
  cases source with
  | error e => cases h
  | ok raw =>
      cases raw with
      | error e => cases h
      | ok doc =>
          obtain ⟨-, rfl⟩ := parseAgents_eq_ok h
          rw [List.map_map]
          rfl

/-- All rows are as they were exactly if the last rows that were written were there. -/
theorem Enters.unchanged_iff (h : Enters store rowOf back s entries written) :
    (∀ id, store.row (store.upsertCatalog s entries).1 id = store.row s id) ↔
      ∀ id entry, lastEntry written id = some entry → store.row s id = some (rowOf entry) := by
  constructor
  · intro hsame id entry hlast
    rw [← hsame, h.row, hlast]
    rfl
  · intro hwritten id
    rw [h.row]
    cases hlast : lastEntry written id with
    | none => rfl
    | some entry => exact (hwritten id entry hlast).symm

/-- What is found under the ids of the entries, if all of them were written. -/
theorem Enters.found_iff (h : Enters store rowOf back s entries entries) :
    (∀ entry ∈ entries,
        store.getCatalogEntry (store.upsertCatalog s entries).1 entry.id = .ok entry) ↔
      Unambiguous entries ∧ ∀ entry ∈ entries, back entry = entry := by
  rw [← forall_lastEntry_iff]
  constructor
  · intro hfound entry hentry last hlast
    exact Except.ok.inj ((h.get entry.id last hlast).symm.trans (hfound entry hentry))
  · intro hback entry hentry
    obtain ⟨last, hlast⟩ := exists_lastEntry hentry
    rw [h.get entry.id last hlast, hback entry hentry last hlast]

/-- The rows of the ids that are not in the document are as they were. -/
theorem Enters.row_of_notMem (h : Enters store rowOf back s entries entries) (id : String)
    (hid : id ∉ entries.map AgentCatalogEntry.id) :
    store.row (store.upsertCatalog s entries).1 id = store.row s id := by
  rw [h.row, lastEntry_eq_none hid]
  rfl

/-- **When a sync is all or nothing**, for a store of which is known what it enters. -/
theorem kept_iff {written : List AgentCatalogEntry → List AgentCatalogEntry}
    (h : ∀ entries, Enters store rowOf back s entries (written entries)) :
    Kept parseURL store s source ↔
      ∀ entries, readCatalog parseURL source = .ok entries →
        (written entries = entries →
          Unambiguous entries ∧ ∀ entry ∈ entries, back entry = entry) ∧
        (written entries ≠ entries → ∀ id entry, lastEntry (written entries) id = some entry →
          store.row s id = some (rowOf entry)) := by
  unfold Kept sync
  cases hread : readCatalog parseURL source with
  | error e => simp
  | ok entries =>
      have henters := h entries
      have hok := henters.ok_iff
      have hunchanged := henters.unchanged_iff
      simp only [Except.ok.injEq, forall_eq']
      cases hup : store.upsertCatalog s entries with
      | mk s' result =>
          rw [hup] at hok hunchanged
          cases result with
          | error e =>
              have hne : written entries ≠ entries := fun heq => by cases hok.2 heq
              simp [hne, ← hunchanged]
          | ok _ =>
              have hall : written entries = entries := hok.1 rfl
              rw [hall] at henters
              have hfound := henters.found_iff
              have hother := henters.row_of_notMem
              rw [hup] at hfound hother
              simp only [hall, documentIDs_eq hread, ne_eq, not_true_eq_false, false_implies,
                and_true, true_implies, ← hfound]
              exact ⟨fun hkept => hkept.1, fun hkept => ⟨hkept, hother⟩⟩

end

/-- **When a sync is all or nothing**, for every document, every catalog and all failures of
statements. -/
theorem sync_kept_iff {Json : Type} (parseURL : String → Option String) (codecs : Codecs Json)
    (fail : ℕ → Option Err) (s : MemoryStore) (p : PostgresStore Json)
    (source : Except Err (Except String Document)) :
    (Kept parseURL memoryCatalog s source ↔
      ∀ entries, readCatalog parseURL source = .ok entries → Unambiguous entries) ∧
    (Kept parseURL (postgresCatalog codecs fail) p source ↔
      ∀ entries, readCatalog parseURL source = .ok entries →
        (executed fail 0 entries = entries →
          Unambiguous entries ∧ ∀ entry ∈ entries, codecs.entry.back entry = entry) ∧
        (executed fail 0 entries ≠ entries →
          ∀ id entry, lastEntry (executed fail 0 entries) id = some entry →
            p.registryAgents.get id = some (catalogRow codecs entry))) := by
  refine ⟨?_, kept_iff (postgresCatalog_enters codecs fail p)⟩
  rw [kept_iff (memoryCatalog_enters s)]
  simp

/-- An agent that `Parse` accepts. -/
def npxAgent (id version : String) : Agent where
  id := id
  version := version
  distribution := { type := .npx, npx := some { package := "agent" } }

/-- Two agents. -/
def twoAgents : Document := [(npxAgent "a" "1", 0), (npxAgent "b" "1", 0)]

/-- Two versions of one agent. -/
def twoVersions : Document := [(npxAgent "a" "1", 0), (npxAgent "a" "2", 0)]

/-- The second statement fails. -/
def secondFails (n : ℕ) : Option Err := if n = 1 then some (.other "conn closed") else none

/-- **A sync that fails and has written**: in an empty `PostgresStore` the second statement fails,
and the first agent is in the catalog.  **A sync that succeeds and does not keep what it returns**:
the `MemoryStore` has the second of two versions. -/
theorem sync_notKept :
    (sync (fun _ => none) (postgresCatalog plainCodecs secondFails) {}
        (.ok (.ok twoAgents))).2 = .error (.other "conn closed") ∧
      (sync (fun _ => none) (postgresCatalog plainCodecs secondFails) {}
        (.ok (.ok twoAgents))).1.getCatalogEntry plainCodecs "a" =
          .ok (entryOf (npxAgent "a" "1") 0) ∧
      ¬Kept (fun _ => none) (postgresCatalog plainCodecs secondFails) {} (.ok (.ok twoAgents)) ∧
      (sync (fun _ => none) memoryCatalog {} (.ok (.ok twoVersions))).2 =
        .ok [entryOf (npxAgent "a" "1") 0, entryOf (npxAgent "a" "2") 0] ∧
      (sync (fun _ => none) memoryCatalog {} (.ok (.ok twoVersions))).1.getCatalogEntry "a" =
        .ok (entryOf (npxAgent "a" "2") 0) ∧
      ¬Kept (fun _ => none) memoryCatalog {} (.ok (.ok twoVersions)) := by
  refine ⟨rfl, rfl, ?_, rfl, rfl, ?_⟩
  · intro hkept
    have hrow : some _ = none := hkept "a"
    cases hrow
  · intro hkept
    have hfound := hkept.1 (entryOf (npxAgent "a" "1") 0) (List.mem_cons_self ..)
    have hversion : "2" = "1" := congrArg AgentCatalogEntry.version (Except.ok.inj hfound)
    exact absurd hversion (by decide)

end Registry
end Agentd
