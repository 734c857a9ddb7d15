/-
# Reading a registry

`registry/parser.go`: `Parse` and `validateAgent`, and `Syncer.Sync` of `registry/sync.go`.  A
registry is a document of agents; `Parse` takes all of them or none, and `Sync` enters what it
took into the catalog.  Decoding the JSON and `url.Parse` are not modelled: what they return is
an input.

`Sync` works with any store (`CatalogStore`).  However often a registry is read into a
`MemoryStore`, the catalog holds only entries of agents that `validateAgent` accepts
(`registered_of_syncs`).
-/

import Agentd.Control.Plan
import Agentd.Data.Overlay
import Agentd.Store.Memory

namespace Agentd
namespace Registry

open Control Store

/-- `Agent` of a registry document. -/
structure Agent where
  id : String := ""
  version : String := ""
  name : String := ""
  description : String := ""
  platforms : List String := []
  priv : Bool := false
  metadata : StringMap := ∅
  defaultEnv : StringMap := ∅
  protocol : ACPProtocol := {}
  distribution : DistributionSpec := {}

/-- The agents of a `Document`, each with the time at which it is turned into an entry. -/
abbrev Document : Type := List (Agent × Time)

/-- The error of `validateAgent` about the agent. -/
def agentErr (agent : Agent) (text : String) : Except Err Unit :=
  .error (.other ("registry agent " ++ agent.id ++ " " ++ text))

/-- The check of a package that a runner fetches. -/
def validatePackage (agent : Agent) (name : String) (spec : Option PackageDistribution) :
    Except Err Unit :=
  match spec with
  | none => agentErr agent (name ++ " distribution missing package")
  | some spec =>
      if spec.package = "" then agentErr agent (name ++ " distribution missing package")
      else .ok ()

/-- `validateAgent`; `parseURL` is the error of `url.Parse`. -/
def validateAgent (parseURL : String → Option String) (agent : Agent) : Except Err Unit :=
  if blank agent.id then .error (.other "registry agent missing id")
  else if blank agent.version then agentErr agent "missing version"
  else
    match agent.distribution.type with
    | .binary =>
        match agent.distribution.binary with
        | none => agentErr agent "binary distribution missing payload"
        | some spec =>
            match parseURL spec.url with
            | some e => agentErr agent ("invalid binary url: " ++ e)
            | none => .ok ()
    | .npx => validatePackage agent "npx" agent.distribution.npx
    | .uvx => validatePackage agent "uvx" agent.distribution.uvx
    | .other text => agentErr agent ("unsupported distribution " ++ text.quote)

/-- The entry of an agent. -/
def entryOf (agent : Agent) (now : Time) : AgentCatalogEntry where
  id := agent.id
  version := agent.version
  name := agent.name
  description := agent.description
  source := .registry
  protocol := agent.protocol
  distribution := agent.distribution
  defaultEnv := agent.defaultEnv
  metadata := agent.metadata
  platforms := agent.platforms
  priv := agent.priv
  updatedAt := now

/-- The loop of `Parse`. -/
def parseAgents (parseURL : String → Option String) : Document →
    Except Err (List AgentCatalogEntry)
  | [] => .ok []
  | (agent, now) :: rest =>
      match validateAgent parseURL agent with
      | .error e => .error e
      | .ok () => (parseAgents parseURL rest).map (entryOf agent now :: ·)

/-- `Parse`, with what `json.Unmarshal` returns. -/
def parse (parseURL : String → Option String) (raw : Except String Document) :
    Except Err (List AgentCatalogEntry) :=
  match raw with
  | .error e => .error (.other ("decode registry: " ++ e))
  | .ok doc => parseAgents parseURL doc

/-- A `RegistryStore`: `UpsertCatalog`, the row that is stored under an id, and
`GetCatalogEntry`. -/
structure CatalogStore (σ ρ : Type) where
  upsertCatalog : σ → List AgentCatalogEntry → σ × Except Err Unit
  row : σ → String → Option ρ
  getCatalogEntry : σ → String → Except Err AgentCatalogEntry

/-- What `Sync` hands to the store, with what `readSource` returns. -/
def readCatalog (parseURL : String → Option String) (source : Except Err (Except String Document)) :
    Except Err (List AgentCatalogEntry) :=
  match source with
  | .error e => .error e
  | .ok raw => parse parseURL raw

/-- `Syncer.Sync`, with any store. -/
def sync {σ ρ : Type} (parseURL : String → Option String) (store : CatalogStore σ ρ) (s : σ)
    (source : Except Err (Except String Document)) : σ × Except Err (List AgentCatalogEntry) :=
  match readCatalog parseURL source with
  | .error e => (s, .error e)
  | .ok entries =>
      match store.upsertCatalog s entries with
      | (s', .error e) => (s', .error e)
      | (s', .ok ()) => (s', .ok entries)

/-- The `MemoryStore`, whose `UpsertCatalog` does not fail. -/
def memoryCatalog : CatalogStore MemoryStore AgentCatalogEntry where
  upsertCatalog s entries := (s.upsertCatalog entries, .ok ())
  row s id := s.registry.get id
  getCatalogEntry := MemoryStore.getCatalogEntry

/-- The entry is that of an agent that `validateAgent` accepts. -/
def Accepted (parseURL : String → Option String) (entry : AgentCatalogEntry) : Prop :=
  ∃ agent now, validateAgent parseURL agent = .ok () ∧ entry = entryOf agent now

/-- The catalog of the store has only entries of accepted agents. -/
def Registered (parseURL : String → Option String) (s : MemoryStore) : Prop :=
  ∀ id entry, s.registry.get id = some entry → Accepted parseURL entry

section

variable {parseURL : String → Option String} {s : MemoryStore}

/-- `Parse` accepts every agent, and returns their entries in order. -/
theorem parseAgents_eq_ok {doc : Document} {entries : List AgentCatalogEntry}
    (h : parseAgents parseURL doc = .ok entries) :
    (∀ agent ∈ doc, validateAgent parseURL agent.1 = .ok ()) ∧
      entries = doc.map fun agent => entryOf agent.1 agent.2 := by
  induction doc generalizing entries with
  | nil =>
      obtain rfl := Except.ok.inj h
      exact ⟨by simp, rfl⟩
  | cons pair rest ih =>
      obtain ⟨agent, now⟩ := pair
      unfold parseAgents at h
      split at h
      · cases h
      · next hvalid =>
          cases hrest : parseAgents parseURL rest with
          | error e =>
              rw [hrest] at h
              cases h
          | ok tail =>
              rw [hrest] at h
              obtain rfl := Except.ok.inj h
              obtain ⟨hall, rfl⟩ := ih hrest
              exact ⟨List.forall_mem_cons.2 ⟨hvalid, hall⟩, rfl⟩

theorem accepted_of_parseAgents {doc : Document} {entries : List AgentCatalogEntry}
    (h : parseAgents parseURL doc = .ok entries) : ∀ entry ∈ entries, Accepted parseURL entry := by
  obtain ⟨hvalid, rfl⟩ := parseAgents_eq_ok h
  rw [List.forall_mem_map]
  exact fun agent hagent => ⟨agent.1, agent.2, hvalid agent hagent, rfl⟩

theorem Registered.upsertCatalog (hs : Registered parseURL s) {entries : List AgentCatalogEntry}
    (h : ∀ entry ∈ entries, Accepted parseURL entry) :
    Registered parseURL (s.upsertCatalog entries) := by
  intro id entry hget
  have hlast : (lastValue (entries.map fun entry => (entry.id, entry)) id).or (s.registry.get id) =
      some entry := (Table.get_foldl_upsert s.registry entries id).symm.trans hget
  obtain hnew | ⟨-, hold⟩ := Option.or_eq_some_iff.1 hlast
  · obtain ⟨other, hother, heq⟩ := List.mem_map.1 (mem_of_lastValue hnew)
    obtain ⟨-, rfl⟩ := Prod.mk.inj heq
    exact h other hother
  · exact hs id entry hold

theorem Registered.sync (hs : Registered parseURL s)
    (source : Except Err (Except String Document)) :
    Registered parseURL (sync parseURL memoryCatalog s source).1 := by
  unfold Registry.sync
  cases hread : readCatalog parseURL source with
  | error e => exact hs
  | ok entries =>
      refine hs.upsertCatalog ?_
      cases source with
      | error e => cases hread
      | ok raw =>
          cases raw with
          | error e => cases hread
          | ok doc => exact accepted_of_parseAgents hread

/-- **The catalog of a store** into which registries were read, one after the other, has only
entries of agents that `validateAgent` accepts. -/
theorem registered_of_syncs (hs : s.registry = .empty)
    (sources : List (Except Err (Except String Document))) :
    Registered parseURL
      (sources.foldl (fun s source => (Registry.sync parseURL memoryCatalog s source).1) s) := by
  have hempty : Registered parseURL s := by
    intro id entry hget
    rw [hs] at hget
    cases hget
  clear hs
  induction sources generalizing s with
  | nil => exact hempty
  | cons source rest ih => exact ih (hempty.sync source)

end

/-- **What `validateAgent` establishes** of an accepted entry: an id, and the payload that its
type names. -/
theorem Accepted.checked {parseURL : String → Option String} {entry : AgentCatalogEntry}
    (h : Accepted parseURL entry) :
    entry.id ≠ "" ∧
      (entry.distribution.type = .binary ∧ entry.distribution.binary.isSome ∨
        entry.distribution.type = .npx ∧ entry.distribution.npx.isSome ∨
          entry.distribution.type = .uvx ∧ entry.distribution.uvx.isSome) := by
  obtain ⟨agent, now, hvalid, rfl⟩ := h
  have hpackage : ∀ {name : String} {spec : Option PackageDistribution},
      validatePackage agent name spec = .ok () → spec.isSome := by
    intro name spec hok
    cases spec with
    | none => cases hok
    | some spec => rfl
  show agent.id ≠ "" ∧ _
  unfold validateAgent at hvalid
  by_cases hid : blank agent.id
  · rw [if_pos hid] at hvalid
    cases hvalid
  · rw [if_neg hid] at hvalid
    by_cases hversion : blank agent.version
    · rw [if_pos hversion] at hvalid
      cases hvalid
    · rw [if_neg hversion] at hvalid
      refine ⟨fun hempty => hid (by rw [hempty]; rfl), ?_⟩
      cases htype : agent.distribution.type with
      | binary =>
          rw [htype] at hvalid
          refine Or.inl ⟨htype, ?_⟩
          cases hbinary : agent.distribution.binary with
          | none =>
              rw [hbinary] at hvalid
              cases hvalid
          | some spec => simp [entryOf, hbinary]
      | npx =>
          rw [htype] at hvalid
          exact Or.inr (Or.inl ⟨htype, hpackage hvalid⟩)
      | uvx =>
          rw [htype] at hvalid
          exact Or.inr (Or.inr ⟨htype, hpackage hvalid⟩)
      | other text =>
          rw [htype] at hvalid
          cases hvalid

end Registry
end Agentd
