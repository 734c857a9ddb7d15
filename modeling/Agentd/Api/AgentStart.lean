/-
# From a request to the start of an agent

A request names an agent of the catalog or brings its own; `resolveAgentBundle` (`api/server.go`)
has the bundle of the agent resolved, `CompileExecutionPlan` puts it into a plan, and
`EnsureAgent` (`runtime/supervisor/manager.go`) starts the first word of its entrypoint.
`Resolve` follows the payload of the distribution without a check, compilation asks for an
entrypoint that is not empty, and `EnsureAgent` takes the first word of the one in the plan.

The registry is checked when it is read (`Registry.validateAgent`), and an agent that comes with
a request is not.  So the payload may be missing there, and in both cases the executable of a
binary may be the empty text: `agentStart_defined_iff`.
-/

import Agentd.Api.InstallAgent
import Agentd.Bundles.ContentAddressed
import Agentd.Registry.Parser
import Agentd.Supervisor.Manager

namespace Agentd
namespace Api

open Control Store Bundles Registry Supervisor Workflows

/-- The workflow of `resolveAgentBundle` returns only what `Resolve` has returned. -/
def Resolves (rt : GoRuntime) (a : Answers) : Prop :=
  ∀ agent platform bundle, a.resolveBundle agent platform = .ok bundle →
    ∃ now, resolve rt agent platform now = some (.ok bundle)

/-- `EnsureAgent` finds a program in the plan, in whatever state the manager is. -/
structure StartsProgram (plan : ExecutionPlan) : Prop where
  program : ∃ program args, plan.bundle.entrypoint = program :: args ∧ program ≠ ""
  ensure : ∀ m err raw now, ∃ m' pc,
    ensureStep m plan .start (.started err raw now) = some (m', pc) ∧ pc ≠ .panic

/-- The stages from the agent to its start are defined: `Resolve` has a result, and what is
compiled from it, with any profile, session and policy, can be started. -/
def RunsThrough (rt : GoRuntime) (agent : AgentCatalogEntry) (platform : String) : Prop :=
  ∀ now, ∃ res, resolve rt agent platform now = some res ∧
    ∀ bundle, res = .ok bundle → ∀ input raw t plan, input.agent = agent →
      input.bundle = bundle → compileExecutionPlan input raw t = .ok plan → StartsProgram plan

/-- The distribution has the payload that its type names, and the binary a name. -/
def HasProgram (d : DistributionSpec) : Prop :=
  match d.type with
  | .binary => ∃ spec, d.binary = some spec ∧ spec.executable ≠ ""
  | .npx => d.npx.isSome
  | .uvx => d.uvx.isSome
  | .other _ => True

/-- The agent can be resolved and started on the platform, or is turned down before that. -/
def Startable (rt : GoRuntime) (agent : AgentCatalogEntry) (platform : String) : Prop :=
  excludes rt agent (platformOf rt platform) = true ∨ HasProgram agent.distribution

section

variable {rt : GoRuntime} {s : Server} {a : Answers} {agentID platform : String}
  {manual : Option AgentCatalogEntry} {agent : AgentCatalogEntry} {bundle : Bundle}

theorem resolveAgent_id {parseURL : String → Option String}
    (hreg : Registered parseURL s.world.store) (h : resolveAgent s a agentID manual = .ok agent) :
    agent.id ≠ "" := by
  unfold resolveAgent at h
  cases manual with
  | some given =>
      obtain rfl := Except.ok.inj h
      dsimp only
      split_ifs with hid
      · exact newID_ne_empty _ _
      · exact hid
  | none =>
      have hget := reads_eq_ok h
      unfold MemoryStore.getCatalogEntry MemoryStore.found at hget
      split at hget
      · next entry hentry =>
          obtain rfl := Except.ok.inj hget
          exact (hreg _ _ hentry).checked.1
      · cases hget

end

/-- Any agent with an id compiles with some profile and policy, if the bundle has a digest and an
entrypoint. -/
theorem exists_compiled {agent : AgentCatalogEntry} {bundle : Bundle} (hid : agent.id ≠ "")
    (hdigest : bundle.digest ≠ "") (hentry : bundle.entrypoint ≠ []) :
    ∃ input plan, input.agent = agent ∧ input.bundle = bundle ∧
      compileExecutionPlan input "" 0 = .ok plan := by
  refine ⟨⟨agent, bundle, {}, {}, none, {}, {}⟩, ?_⟩
  unfold compileExecutionPlan
  rw [if_neg hid, if_neg hdigest, if_neg (by simp), if_neg hentry]
  exact ⟨_, rfl, rfl, rfl⟩

theorem withDigest_digest_ne (b : Bundle) : (withDigest b).digest ≠ "" := by
  intro h
  have hlength := congrArg String.length h
  simp [withDigest, String.length_append] at hlength

/-- `EnsureAgent` starts what is there: only an empty entrypoint makes it panic. -/
theorem startsProgram_iff {plan : ExecutionPlan} :
    StartsProgram plan ↔ ∃ program args, plan.bundle.entrypoint = program :: args ∧
      program ≠ "" := by
  constructor
  · exact StartsProgram.program
  · rintro ⟨program, args, hentry, hne⟩
    refine ⟨⟨program, args, hentry, hne⟩, fun m err raw now => ?_⟩
    cases err with
    | none =>
        refine ⟨_, _, by simp only [ensureStep, hentry]; rfl, fun h => ?_⟩
        cases h
    | some err =>
        refine ⟨_, _, by simp only [ensureStep, hentry]; rfl, fun h => ?_⟩
        cases h

section

variable {rt : GoRuntime} {agent : AgentCatalogEntry} {platform : String} {now : Time}

theorem HasProgram.bundleOf {b : Bundle} (h : HasProgram b.manifest) :
    ∃ res, bundleOf b = some res := by
  unfold HasProgram at h
  unfold Bundles.bundleOf
  cases htype : b.manifest.type with
  | binary =>
      rw [htype] at h
      obtain ⟨spec, hspec, -⟩ := h
      exact ⟨_, congrArg (Option.map _) hspec⟩
  | npx =>
      rw [htype] at h
      obtain ⟨spec, hspec⟩ := Option.isSome_iff_exists.1 h
      exact ⟨_, congrArg (Option.map _) hspec⟩
  | uvx =>
      rw [htype] at h
      obtain ⟨spec, hspec⟩ := Option.isSome_iff_exists.1 h
      exact ⟨_, congrArg (Option.map _) hspec⟩
  | other text => exact ⟨_, rfl⟩

theorem HasProgram.entrypoint {b c : Bundle} (h : HasProgram b.manifest) (hc : Resolved b c) :
    ∃ program args, c.entrypoint = program :: args ∧ program ≠ "" := by
  unfold HasProgram at h
  cases hc with
  | binary spec htype hspec =>
      rw [htype] at h
      obtain ⟨spec', hspec', hne⟩ := h
      obtain rfl := Option.mem_unique hspec hspec'
      exact ⟨_, _, rfl, hne⟩
  | npx spec htype hspec => exact ⟨_, _, rfl, by decide⟩
  | uvx spec htype hspec => exact ⟨_, _, rfl, by decide⟩

/-- **An agent that can be started runs through all stages.** -/
theorem Startable.runsThrough (h : Startable rt agent platform) :
    RunsThrough rt agent platform := by
  intro now
  by_cases hexcludes : excludes rt agent (platformOf rt platform) = true
  · refine ⟨_, by unfold resolve; dsimp only; rw [if_pos hexcludes], fun bundle hok => ?_⟩
    cases hok
  · have hprogram : HasProgram (start rt agent platform now).manifest :=
      h.resolve_left hexcludes
    obtain ⟨res, hres⟩ := hprogram.bundleOf
    have hresolve : resolve rt agent platform now = some (res.map withDigest) := by
      rw [resolve_of_not_excludes hexcludes, hres]
      rfl
    refine ⟨_, hresolve, fun bundle hok input raw t plan _ hbundle hplan => ?_⟩
    rw [hok] at hresolve
    obtain ⟨c, hc, rfl⟩ := resolve_eq_ok hresolve
    rw [startsProgram_iff, (compiled_of_eq_ok hplan).bundle, hbundle]
    show ∃ program args, c.entrypoint = program :: args ∧ program ≠ ""
    exact hprogram.entrypoint hc

/-- **An agent that runs through all stages can be started.**  Of a binary with no name a plan
is compiled, and its entrypoint is the empty text. -/
theorem RunsThrough.startable (hid : agent.id ≠ "") (h : RunsThrough rt agent platform) :
    Startable rt agent platform := by
  by_cases hexcludes : excludes rt agent (platformOf rt platform) = true
  · exact Or.inl hexcludes
  · refine Or.inr ?_
    obtain ⟨res, hres, hstarts⟩ := h 0
    rw [resolve_of_not_excludes hexcludes] at hres
    obtain ⟨found, hfound, rfl⟩ := Option.map_eq_some_iff.1 hres
    show HasProgram (start rt agent platform 0).manifest
    unfold HasProgram
    unfold bundleOf at hfound
    cases htype : (start rt agent platform 0).manifest.type with
    | binary =>
        rw [htype] at hfound
        obtain ⟨spec, hspec, rfl⟩ := Option.map_eq_some_iff.1 hfound
        refine ⟨spec, hspec, fun hempty => ?_⟩
        obtain ⟨input, plan, hagent, hbundle, hplan⟩ :=
          exists_compiled hid
            (withDigest_digest_ne (binaryBundle (start rt agent platform 0) spec))
            (List.cons_ne_nil _ _)
        obtain ⟨program, args, hentry, hne⟩ :=
          (hstarts _ rfl input "" 0 plan hagent hbundle hplan).program
        rw [(compiled_of_eq_ok hplan).bundle, hbundle] at hentry
        exact hne ((List.cons.inj hentry).1 ▸ hempty)
    | npx =>
        rw [htype] at hfound
        obtain ⟨spec, hspec, -⟩ := Option.map_eq_some_iff.1 hfound
        exact Option.isSome_iff_exists.2 ⟨spec, hspec⟩
    | uvx =>
        rw [htype] at hfound
        obtain ⟨spec, hspec, -⟩ := Option.map_eq_some_iff.1 hfound
        exact Option.isSome_iff_exists.2 ⟨spec, hspec⟩
    | other text => trivial

end

section

variable {rt : GoRuntime} {s : Server} {a : Answers} {agentID platform : String}
  {manual : Option AgentCatalogEntry}

/-- What is compiled for an agent that can be started, with the bundle that was resolved for it,
starts a program. -/
theorem Startable.startsProgram {agent : AgentCatalogEntry} {bundle : Bundle}
    {policy : ExecutionPolicy} {plan : ExecutionPlan} (h : Startable rt agent platform)
    (hresolves : Resolves rt a) (hbundle : a.resolveBundle agent platform = .ok bundle)
    (hplan : CompiledFor agent bundle policy plan) : StartsProgram plan := by
  obtain ⟨now, hresolve⟩ := hresolves agent platform bundle hbundle
  obtain ⟨res, hres, hstarts⟩ := h.runsThrough now
  obtain rfl := Option.mem_unique hresolve hres
  obtain ⟨input, raw, t, hcompile, hagent, hbundle', -⟩ := hplan
  exact hstarts bundle rfl input raw t plan hagent hbundle' hcompile

/-- A handler that installs an agent has had its bundle resolved. -/
theorem resolveAgentBundle_eq_ok {agent : AgentCatalogEntry} {bundle : Bundle}
    (h : resolveAgentBundle s a agentID manual platform = .ok (agent, bundle)) :
    resolveAgent s a agentID manual = .ok agent ∧ a.resolveBundle agent platform = .ok bundle := by
  obtain ⟨agent', hagent, hrest⟩ := except_bind_eq_ok.1 h
  obtain ⟨bundle', hbundle, hpair⟩ := except_bind_eq_ok.1 hrest
  obtain ⟨rfl, rfl⟩ := Prod.mk.inj (Except.ok.inj hpair)
  exact ⟨hagent, hbundle⟩

/-- **What `handleCreateSession` installs** starts a program, if the agent of the request can be
started. -/
theorem startsProgram_of_create {req : CreateSessionRequest} (hresolves : Resolves rt a)
    (hstart : ∀ agent, resolveAgent s a req.agentID req.manualAgent = .ok agent →
      Startable rt agent req.platform) {i : Control.InstallAgentRequest}
    (hi : .installAgent i ∈ (handleCreateSession s a req).2.1) : StartsProgram i.plan := by
  obtain ⟨_, _, hplan, -⟩ := installAgent_mem hi
  obtain ⟨⟨agent, bundle⟩, hresolve, -⟩ := except_bind_eq_ok.1 hplan
  obtain ⟨hagent, hbundle⟩ := resolveAgentBundle_eq_ok hresolve
  obtain ⟨plan, placement, hcompiled, hi⟩ := compiled_of_create hresolve hi
  have hstarts := (hstart agent hagent).startsProgram hresolves hbundle hcompiled
  -- the placement is no part of what `EnsureAgent` looks at
  rw [hi]
  exact startsProgram_iff.2 hstarts.program

/-- **What `handleInstallAgent` installs** starts a program, if the agent of the request can be
started. -/
theorem startsProgram_of_install {id : String} {req : InstallAgentRequest}
    (hresolves : Resolves rt a)
    (hstart : ∀ agent, resolveAgent s a req.agentID req.manualAgent = .ok agent →
      Startable rt agent req.platform) {i : Control.InstallAgentRequest}
    (hi : .installAgent i ∈ (handleInstallAgent s a id req).1) : StartsProgram i.plan := by
  obtain ⟨agent, bundle, hresolve⟩ := resolved_of_install hi
  obtain ⟨hagent, hbundle⟩ := resolveAgentBundle_eq_ok hresolve
  exact (hstart agent hagent).startsProgram hresolves hbundle (compiled_of_install hresolve hi)

end

/-- **When a request cannot crash the start of an agent.**  Take a catalog into which registries
were read, and the agent and the platform of a request.  Every stage from the agent to its start
is defined, whatever else the request asks for, if and only if the platform is excluded, the
type of the distribution is unknown, or the payload of the type is there and, for a binary, names
an executable; and then what the handlers install begins with a program that has a name. -/
theorem agentStart_defined_iff (rt : GoRuntime) {parseURL : String → Option String} {s : Server}
    (hreg : Registered parseURL s.world.store) {a : Answers} (hresolves : Resolves rt a)
    (agentID platform : String) (manual : Option AgentCatalogEntry) :
    ((∀ agent, resolveAgent s a agentID manual = .ok agent → RunsThrough rt agent platform) ↔
      ∀ agent, resolveAgent s a agentID manual = .ok agent → Startable rt agent platform) ∧
    ((∀ agent, resolveAgent s a agentID manual = .ok agent → Startable rt agent platform) →
      (∀ req : CreateSessionRequest, req.agentID = agentID → req.manualAgent = manual →
        req.platform = platform → ∀ i, .installAgent i ∈ (handleCreateSession s a req).2.1 →
          StartsProgram i.plan) ∧
      ∀ id (req : InstallAgentRequest), req.agentID = agentID → req.manualAgent = manual →
        req.platform = platform → ∀ i, .installAgent i ∈ (handleInstallAgent s a id req).1 →
          StartsProgram i.plan) := by
  refine ⟨⟨?_, ?_⟩, fun hstart => ⟨?_, ?_⟩⟩
  · intro h agent hagent
    exact (h agent hagent).startable (resolveAgent_id hreg hagent)
  · intro h agent hagent
    exact (h agent hagent).runsThrough
  · rintro req rfl rfl rfl i hi
    exact startsProgram_of_create hresolves hstart hi
  · rintro id req rfl rfl rfl i hi
    exact startsProgram_of_install hresolves hstart hi

/-- The workflow of `resolveAgentBundle` in a run where the store takes the bundle: a panic of
the activity reaches the handler as an error. -/
def resolvedBundle (rt : GoRuntime) (agent : AgentCatalogEntry) (platform : String) :
    Except Err Bundle :=
  (resolve rt agent platform 0).getD (.error (.other "activity panicked"))

theorem resolves_resolvedBundle (rt : GoRuntime) (a : Answers) :
    Resolves rt { a with resolveBundle := resolvedBundle rt } := by
  intro agent platform bundle h
  refine ⟨0, ?_⟩
  change (resolve rt agent platform 0).getD _ = .ok bundle at h
  cases hres : resolve rt agent platform 0 with
  | none =>
      rw [hres] at h
      cases h
  | some res =>
      rw [hres] at h
      exact congrArg some h

/-- An agent of the request's own with a distribution. -/
def manualWith (d : DistributionSpec) : AgentCatalogEntry := { id := "echo", distribution := d }

/-- An agent of the request's own that comes as a package is resolved and started. -/
theorem packagedAgent_defined :
    RunsThrough linux
      { manualWith { type := .npx, npx := some { package := "echo" } } with
        source := .manual, version := "manual" } "" := by
  have hreg : Registered (fun _ => none) (serverWith {}).world.store := by
    intro id entry hget
    cases hget
  refine (agentStart_defined_iff linux hreg (resolves_resolvedBundle linux goesThrough) "" ""
    (some (manualWith { type := .npx, npx := some { package := "echo" } }))).1.2 ?_ _ rfl
  intro agent hagent
  obtain rfl := Except.ok.inj hagent
  exact Or.inr rfl

/-- An agent of a registry whose binary has no name. -/
def namelessAgent : Agent where
  id := "echo"
  version := "1"
  distribution := { type := .binary, binary := some { url := "/agents/echo" } }

/-- **A request that crashes `Resolve`, and an agent with an empty program.**  A binary agent of
the request's own without payload makes `Resolve` follow a nil pointer; and a binary agent with
no executable, which the registry accepts too, is resolved and compiled, and its program is the
empty text. -/
theorem payload_unchecked :
    (∃ agent, resolveAgent (serverWith {}) goesThrough "" (some (manualWith { type := .binary })) =
      .ok agent ∧ ∀ now, resolve linux agent "" now = none) ∧
    validateAgent (fun _ => none) namelessAgent = .ok () ∧
      ∀ now, ∃ bundle, resolve linux (entryOf namelessAgent now) "" now = some (.ok bundle) ∧
        ∃ input plan, input.agent = entryOf namelessAgent now ∧ input.bundle = bundle ∧
          compileExecutionPlan input "" 0 = .ok plan ∧ plan.bundle.entrypoint = [""] := by
  refine ⟨⟨_, rfl, fun now => rfl⟩, rfl, fun now => ⟨_, rfl, ?_⟩⟩
  have hid : (entryOf namelessAgent now).id ≠ "" := by
    show "echo" ≠ ""
    decide
  obtain ⟨input, plan, hagent, hbundle, hplan⟩ := exists_compiled hid
    (withDigest_digest_ne (binaryBundle (start linux (entryOf namelessAgent now) "" now)
      { url := "/agents/echo" })) (List.cons_ne_nil _ _)
  refine ⟨input, plan, hagent, hbundle, hplan, ?_⟩
  rw [(compiled_of_eq_ok hplan).bundle, hbundle]
  rfl

end Api
end Agentd
