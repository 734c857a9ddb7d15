/-
# Creating a session

`api/server.go`: `handleCreateSession`, with `resolveAgentBundle`, `normalizePolicy` and
`StartContainer` of `workflows/client.go`.  The handler compiles a plan, finds a container for
it if the request names none, and then asks for the agent to be installed there and for the
session to be created.  What its calls meet is an input (`Answers`); `StartContainer` runs the
`ProvisionContainer` activity, with the answers of every attempt.

The plan is compiled before a container is chosen, from the profile of the request unless the
request names the container.  `installedPlan_matches_iff` says when it is nevertheless the plan
that the profile of the container would have given.
-/

import Agentd.Control.Plan
import Agentd.Scheduler.RoundRobin
import Agentd.Workflows.ActivitySteps

namespace Agentd
namespace Api

open Control Store NodeRuntime Workflows Scheduler

/-- `CreateSessionRequest` of the API. -/
structure CreateSessionRequest where
  agentID : String := ""
  manualAgent : Option AgentCatalogEntry := none
  containerID : String := ""
  platform : String := ""
  containerProfile : ContainerProfile := {}
  session : SessionSpec := {}
  llmProfile : Option LLMProfile := none
  policy : ExecutionPolicy := {}

/-- `Server`, as far as the handler uses it: the store and the nodes behind the workflows, and
the scheduler. -/
structure Server where
  world : World
  scheduler : RoundRobin

/-- What the calls of the handler meet. -/
structure Answers where
  agentRaw : String := ""
  agentNow : Time := 0
  registry : Outcome := .ok
  resolveBundle : AgentCatalogEntry → String → Except Err Bundle
  getContainer : Outcome := .ok
  planRaw : String := ""
  planNow : Time := 0
  listContainers : Except Err Order
  containerRaw : String := ""
  /-- The calls of each attempt to provision a container. -/
  attempts : List (List Answer) := []
  /-- The error of a workflow in which no attempt has succeeded. -/
  workflowErr : Err := .other "workflow failed"
  installAgent : Except Err AgentInstance
  createSession : Except Err Session

/-- A request that the handler sends to the workflow of a container. -/
inductive Call
  | installAgent (req : InstallAgentRequest)
  | createSession (req : Control.CreateSessionRequest)

/-- A read that may fail. -/
def reads {α : Type} (o : Outcome) (r : Except Err α) : Except Err α :=
  match o.err with
  | some e => .error e
  | none => r

/-- `normalizePolicy`. -/
def normalizePolicy (policy : ExecutionPolicy) : ExecutionPolicy :=
  if !policy.hostedMode && !policy.allowPrivateAgents && !policy.allowTerminalAuth then
    { hostedMode := true, allowTerminalAuth := false, allowPrivateAgents := true }
  else policy

/-- The agent of `resolveAgentBundle`: the one that the request brings, or an entry of the
catalog. -/
def resolveAgent (s : Server) (a : Answers) (agentID : String)
    (manual : Option AgentCatalogEntry) : Except Err AgentCatalogEntry :=
  match manual with
  | some agent =>
      .ok
        { agent with
          source := .manual
          id := if agent.id = "" then newID "agent" a.agentRaw else agent.id
          version := defaulted "" "manual" agent.version
          updatedAt := a.agentNow }
  | none => reads a.registry (s.world.store.getCatalogEntry agentID)

/-- `resolveAgentBundle`. -/
def resolveAgentBundle (s : Server) (a : Answers) (agentID : String)
    (manual : Option AgentCatalogEntry) (platform : String) :
    Except Err (AgentCatalogEntry × Bundle) := do
  let agent ← resolveAgent s a agentID manual
  let bundle ← a.resolveBundle agent platform
  return (agent, bundle)

/-- Where the request wants the session, and the profile that the plan is compiled from. -/
def wanted (s : Server) (a : Answers) (req : CreateSessionRequest) :
    Except Err (Placement × ContainerProfile) :=
  if req.containerID ≠ "" then do
    let container ← reads a.getContainer (s.world.store.getContainer req.containerID)
    return ({ containerID := req.containerID, nodeID := container.nodeID }, container.profile)
  else .ok ({ containerID := req.containerID }, req.containerProfile)

/-- `handleCreateSession` up to the plan. -/
def planSession (s : Server) (a : Answers) (req : CreateSessionRequest) :
    Except Err ExecutionPlan := do
  let (agent, bundle) ← resolveAgentBundle s a req.agentID req.manualAgent req.platform
  let (placement, profile) ← wanted s a req
  compileExecutionPlan
    { agent
      bundle
      containerProfile := profile
      session := req.session
      llmProfile := req.llmProfile
      placement
      policy := normalizePolicy req.policy }
    a.planRaw a.planNow

/-- An attempt of `ProvisionContainer`, as far as its calls are answered. -/
def attempt (w : World) (x : Provision) : List Answer → World × Provision
  | [] => (w, x)
  | a :: as =>
      match x.step w a with
      | none => (w, x)
      | some (w', x') => attempt w' x' as

/-- The attempts of `ProvisionContainer`, until one succeeds. -/
def provisionAttempts (req : CreateContainerRequest) (e : Err) (w : World) :
    List (List Answer) → World × Except Err Container
  | [] => (w, .error e)
  | as :: rest =>
      match attempt w (.nodeProvision req) as with
      | (w', .returned (.ok container)) => (w', .ok container)
      | (w', _) => provisionAttempts req e w' rest

/-- `StartContainer`: five attempts at most. -/
def startContainer (w : World) (a : Answers) (req : CreateContainerRequest) :
    World × Except Err Container :=
  let req := { req with id := if req.id = "" then newID "ctr" a.containerRaw else req.id }
  provisionAttempts req a.workflowErr w (a.attempts.take 5)

/-- `createReq`: the request for a new container. -/
def createReq (plan : ExecutionPlan) (placement : Placement) : CreateContainerRequest :=
  { profile := { plan.containerProfile with nodeID := placement.nodeID }, capacity := 4 }

/-- `handleCreateSession` from the plan to a container: the one that the plan names, the one
that the scheduler chooses, or a new one. -/
def placeSession (s : Server) (a : Answers) (plan : ExecutionPlan) :
    Server × Except Err ExecutionPlan :=
  if plan.placement.containerID ≠ "" then (s, .ok plan)
  else
    match s.scheduler.selectPlacement (listed s.world.store a.listContainers) plan with
    | (scheduler, .error e) => ({ s with scheduler }, .error e)
    | (scheduler, .ok placement) =>
        if placement.containerID ≠ "" then ({ s with scheduler }, .ok { plan with placement })
        else
          match startContainer s.world a (createReq plan placement) with
          | (world, .error e) => ({ world, scheduler }, .error e)
          | (world, .ok container) =>
              ({ world, scheduler }, .ok
                { plan with
                  placement :=
                    { placement with containerID := container.id, nodeID := container.nodeID } })

/-- `handleCreateSession`: the state in which it leaves the server before the workflow of the
container is asked, what it asks of that workflow, and what it returns. -/
def handleCreateSession (s : Server) (a : Answers) (req : CreateSessionRequest) :
    Server × List Call × Except Err Session :=
  match planSession s a req with
  | .error e => (s, [], .error e)
  | .ok plan =>
      match placeSession s a plan with
      | (s', .error e) => (s', [], .error e)
      | (s', .ok plan) =>
          let containerID := plan.placement.containerID
          match a.installAgent with
          | .error e => (s', [.installAgent { containerID, plan }], .error e)
          | .ok agent =>
              (s',
                [.installAgent { containerID, plan },
                  .createSession { containerID, agentInstanceID := agent.id, plan }],
                a.createSession)

/-- The plan of the request has the profile that is compiled from the stored profile of the
container it is installed in. -/
def PlanMatches (w : World) (i : InstallAgentRequest) : Prop :=
  ∃ c, w.store.containers.get i.containerID = some c ∧
    SameProfile i.plan.containerProfile (compileProfile i.plan.policy c.profile)

/-- The first container in the listing that can take the session. -/
def chosen (s : Server) (a : Answers) (req : CreateSessionRequest) : Option Container :=
  match listed s.world.store a.listContainers with
  | .ok containers => containers.find? (eligible req.containerProfile.nodeID)
  | .error _ => none

/-- The profile of the request fits the container: the request names the container; or it asks
for what the first container that can take the session has; or a new container is needed, and
the request names the very node on which it is created.  A row without an id cannot be taken,
and only its node is used. -/
def Fits (s : Server) (a : Answers) (req : CreateSessionRequest) : Prop :=
  req.containerID ≠ "" ∨
    match chosen s a req with
    | some c =>
        c.id ≠ "" ∧ Agrees (normalizePolicy req.policy) req.containerProfile c.profile ∨
          c.id = "" ∧ req.containerProfile.nodeID = c.nodeID
    | none => s.scheduler.turn = some req.containerProfile.nodeID

/-- The container is one that a runner provisions for the request. -/
def Made (req : CreateContainerRequest) (c : Container) : Prop :=
  ∃ host r raw now, c = (Runner.newHandle host r req raw now).container

/-- What holds of the store while `ProvisionContainer` works on a request. -/
def Provisions (req : CreateContainerRequest) (w : World) : Provision → Prop
  | .nodeProvision req' => req' = req
  | .upsertContainer c => Made req c
  | .appendAudit c | .returned (.ok c) => Made req c ∧ w.store.containers.get c.id = some c
  | .returned (.error _) => True

section

variable {w w' : World} {req : CreateContainerRequest}

/-- **A call of `ProvisionContainer`**: what is returned is what the runner made, and it is
stored. -/
theorem Provisions.step {a : Answer} {x x' : Provision} (h : Provisions req w x)
    (hstep : x.step w a = some (w', x')) : Provisions req w' x' := by
  obtain ⟨hnext, hstore⟩ := Provision.step_next hstep
  cases hnext with
  | failed | notStored => trivial
  | provisioned req' k hnode ho =>
      obtain rfl : req' = req := h
      exact ⟨_, _, _, _, rfl⟩
  | stored c ho =>
      refine ⟨h, ?_⟩
      rw [hstore]
      simp only [stored, Provision.writes, ho, Outcome.took, if_true]
      exact Table.get_upsert_self _ c
  | audited c =>
      refine ⟨h.1, ?_⟩
      have hsame : w'.store.containers = w.store.containers := by
        rw [hstore]
        simp only [stored, Provision.writes]
        split_ifs <;> rfl
      rw [hsame]
      exact h.2

/-- **An attempt of `ProvisionContainer`.** -/
theorem Provisions.attempt {as : List Answer} {x x' : Provision} (h : Provisions req w x)
    (hrun : attempt w x as = (w', x')) : Provisions req w' x' := by
  induction as generalizing w x with
  | nil =>
      obtain ⟨rfl, rfl⟩ := Prod.mk.inj hrun
      exact h
  | cons a as ih =>
      unfold Api.attempt at hrun
      split at hrun
      · obtain ⟨rfl, rfl⟩ := Prod.mk.inj hrun
        exact h
      · next w₁ x₁ hstep => exact ih (h.step hstep) hrun

/-- **A container that has been provisioned** was made by a runner for the request, and it is
stored. -/
theorem provisionAttempts_eq_ok {e : Err} {attempts : List (List Answer)} {c : Container}
    (h : provisionAttempts req e w attempts = (w', .ok c)) :
    Made req c ∧ w'.store.containers.get c.id = some c := by
  induction attempts generalizing w with
  | nil => cases (Prod.mk.inj h).2
  | cons as rest ih =>
      unfold provisionAttempts at h
      split at h
      · next w₁ container hrun =>
          obtain ⟨rfl, hc⟩ := Prod.mk.inj h
          obtain rfl := Except.ok.inj hc
          have hstart : Provisions req w (.nodeProvision req) := rfl
          exact hstart.attempt hrun
      · exact ih h

/-- A container is made with the profile of the request, if that names a workspace. -/
theorem Made.profile {c : Container} (h : Made req c) (hroot : req.profile.workspaceRoot ≠ "") :
    c.profile = req.profile := by
  obtain ⟨host, r, raw, now, rfl⟩ := h
  exact if_neg hroot

/-- **`StartContainer`** returns a container that is stored and has the profile of the request. -/
theorem startContainer_eq_ok {a : Answers} {c : Container}
    (hroot : req.profile.workspaceRoot ≠ "") (h : startContainer w a req = (w', .ok c)) :
    w'.store.containers.get c.id = some c ∧ c.profile = req.profile := by
  obtain ⟨hmade, hget⟩ := provisionAttempts_eq_ok h
  exact ⟨hget, hmade.profile hroot⟩

end

section

variable {s s' : Server} {a : Answers} {req : CreateSessionRequest} {plan plan' : ExecutionPlan}

theorem except_bind_eq_ok {α β : Type} {x : Except Err α} {f : α → Except Err β} {b : β} :
    x >>= f = .ok b ↔ ∃ y, x = .ok y ∧ f y = .ok b := by
  cases x <;> simp [bind, Except.bind]

theorem reads_eq_ok {α : Type} {o : Outcome} {r : Except Err α} {x : α} (h : reads o r = .ok x) :
    r = .ok x := by
  unfold reads at h
  split at h
  · cases h
  · exact h

/-- Where the request wants the session. -/
theorem wanted_eq_ok {placement : Placement} {profile : ContainerProfile}
    (h : wanted s a req = .ok (placement, profile)) :
    placement.containerID = req.containerID ∧
      (req.containerID ≠ "" ∧ (∃ c, s.world.store.containers.get req.containerID = some c ∧
          profile = c.profile) ∨
        req.containerID = "" ∧ placement.nodeID = "" ∧ profile = req.containerProfile) := by
  unfold wanted at h
  split_ifs at h with hid
  · obtain ⟨c, hread, hpair⟩ := except_bind_eq_ok.1 h
    obtain ⟨rfl, rfl⟩ := Prod.mk.inj (Except.ok.inj hpair)
    exact ⟨rfl, Or.inl ⟨hid, c, MemoryStore.found_eq_ok.1 (reads_eq_ok hread), rfl⟩⟩
  · obtain ⟨rfl, rfl⟩ := Prod.mk.inj (Except.ok.inj h)
    exact ⟨rfl, Or.inr ⟨not_not.1 hid, rfl, rfl⟩⟩

/-- **The plan of a request** has the profile of the container that the request names, or the
profile of the request, compiled. -/
theorem planSession_eq_ok (h : planSession s a req = .ok plan) :
    plan.policy = normalizePolicy req.policy ∧ plan.placement.containerID = req.containerID ∧
      (req.containerID ≠ "" ∧ (∃ c, s.world.store.containers.get req.containerID = some c ∧
          plan.containerProfile = compileProfile plan.policy c.profile) ∨
        req.containerID = "" ∧ plan.placement.nodeID = "" ∧
          plan.containerProfile = compileProfile plan.policy req.containerProfile) := by
  obtain ⟨⟨agent, bundle⟩, -, hrest⟩ := except_bind_eq_ok.1 h
  obtain ⟨⟨placement, profile⟩, hwanted, hcompile⟩ := except_bind_eq_ok.1 hrest
  have hplan := compiled_of_eq_ok hcompile
  obtain ⟨hid, hcase⟩ := wanted_eq_ok hwanted
  rw [hplan.containerProfile, hplan.placement, hplan.policy]
  refine ⟨rfl, hid, ?_⟩
  rcases hcase with ⟨hne, c, hget, rfl⟩ | ⟨hempty, hnode, rfl⟩
  · exact Or.inl ⟨hne, c, hget, rfl⟩
  · exact Or.inr ⟨hempty, hnode, rfl⟩

theorem placeSession_plan (h : placeSession s a plan = (s', .ok plan')) :
    plan' = { plan with placement := plan'.placement } := by
  unfold placeSession at h
  split_ifs at h
  · obtain rfl := Except.ok.inj (Prod.mk.inj h).2
    rfl
  · split at h
    · cases (Prod.mk.inj h).2
    · split_ifs at h
      · obtain rfl := Except.ok.inj (Prod.mk.inj h).2
        rfl
      · split at h
        · cases (Prod.mk.inj h).2
        · obtain rfl := Except.ok.inj (Prod.mk.inj h).2
          rfl

/-- **A container for a plan that names none**: the scheduler's choice, or a new container with
the profile of the plan on the node that the scheduler gives. -/
theorem placeSession_eq_ok (hplan : plan.placement.containerID = "")
    (hroot : plan.containerProfile.workspaceRoot ≠ "")
    (h : placeSession s a plan = (s', .ok plan')) :
    plan'.containerProfile = plan.containerProfile ∧ plan'.policy = plan.policy ∧
      ∃ containers placement, listed s.world.store a.listContainers = .ok containers ∧
        Selected s.scheduler containers plan placement ∧
        (placement.containerID ≠ "" ∧ s'.world = s.world ∧ plan'.placement = placement ∨
          placement.containerID = "" ∧
            ∃ c, s'.world.store.containers.get plan'.placement.containerID = some c ∧
              c.profile = { plan.containerProfile with nodeID := placement.nodeID }) := by
  unfold placeSession at h
  rw [if_neg (not_not_intro hplan)] at h
  split at h
  · cases (Prod.mk.inj h).2
  · next scheduler placement hsel =>
      have hok : (s.scheduler.selectPlacement (listed s.world.store a.listContainers) plan).2 =
          .ok placement := congrArg Prod.snd hsel
      obtain ⟨containers, hlisted, hselected⟩ := RoundRobin.selectPlacement_eq_ok hplan hok
      split_ifs at h with hid
      · obtain ⟨rfl, hplan'⟩ := Prod.mk.inj h
        obtain rfl := Except.ok.inj hplan'
        exact ⟨rfl, rfl, containers, placement, hlisted, hselected, Or.inl ⟨hid, rfl, rfl⟩⟩
      · split at h
        · cases (Prod.mk.inj h).2
        · next world c hstart =>
            obtain ⟨rfl, hplan'⟩ := Prod.mk.inj h
            obtain rfl := Except.ok.inj hplan'
            obtain ⟨hget, hprofile⟩ := startContainer_eq_ok hroot hstart
            exact ⟨rfl, rfl, containers, placement, hlisted, hselected,
              Or.inr ⟨not_not.1 hid, c, hget, hprofile⟩⟩

/-- **The request to install the agent** is for the container of the plan. -/
theorem installAgent_mem {i : InstallAgentRequest}
    (h : .installAgent i ∈ (handleCreateSession s a req).2.1) :
    ∃ plan plan', planSession s a req = .ok plan ∧
      placeSession s a plan = ((handleCreateSession s a req).1, .ok plan') ∧
        i = { containerID := plan'.placement.containerID, plan := plan' } := by
  unfold handleCreateSession at h ⊢
  split at h
  · cases h
  · next plan hplan =>
      split at h
      · cases h
      · next s' plan' hplace =>
          refine ⟨plan, plan', hplan, ?_⟩
          rw [hplace]
          dsimp only at h ⊢
          split at h
          · obtain rfl := Call.installAgent.inj (List.mem_singleton.1 h)
            exact ⟨rfl, rfl⟩
          · rcases List.mem_cons.1 h with hi | hi
            · obtain rfl := Call.installAgent.inj hi
              exact ⟨rfl, rfl⟩
            · cases List.mem_singleton.1 hi

theorem sameProfile_onNode_iff {p : ContainerProfile} {k : String} :
    SameProfile p { p with nodeID := k } ↔ p.nodeID = k := by
  constructor
  · intro h
    exact h.nodeID
  · rintro rfl
    exact SameProfile.refl p

section

variable {w : World} {i : InstallAgentRequest} {p : ContainerProfile} {c : Container}

theorem planMatches_of_get (hget : w.store.containers.get i.containerID = some c) :
    PlanMatches w i ↔
      SameProfile i.plan.containerProfile (compileProfile i.plan.policy c.profile) := by
  constructor
  · rintro ⟨c', hget', hsame⟩
    obtain rfl : c' = c := Option.mem_unique hget' hget
    exact hsame
  · intro hsame
    exact ⟨c, hget, hsame⟩

/-- **In a container that was there** a plan matches if the profile it was compiled from agrees
with the container's. -/
theorem planMatches_existing (hget : w.store.containers.get i.containerID = some c)
    (hcompiled : i.plan.containerProfile = compileProfile i.plan.policy p) :
    PlanMatches w i ↔ Agrees i.plan.policy p c.profile := by
  rw [planMatches_of_get hget, hcompiled, sameProfile_compileProfile_iff]

/-- **In a new container** a plan matches if the profile it was compiled from names the node of
the container. -/
theorem planMatches_new {k : String} (hget : w.store.containers.get i.containerID = some c)
    (hcompiled : i.plan.containerProfile = compileProfile i.plan.policy p)
    (hprofile : c.profile = { i.plan.containerProfile with nodeID := k }) :
    PlanMatches w i ↔ p.nodeID = k := by
  rw [planMatches_of_get hget, hprofile, hcompiled, compileProfile_compiled,
    sameProfile_onNode_iff]
  exact Iff.rfl

end

theorem planMatches_named (hplan : planSession s a req = .ok plan) (hne : req.containerID ≠ "")
    (hplace : placeSession s a plan = (s', .ok plan')) :
    PlanMatches s'.world { containerID := plan'.placement.containerID, plan := plan' } := by
  obtain ⟨-, hid, ⟨-, c, hget, hprofile⟩ | ⟨hempty, -⟩⟩ := planSession_eq_ok hplan
  · unfold placeSession at hplace
    rw [if_pos (by rw [hid]; exact hne)] at hplace
    obtain ⟨rfl, hok⟩ := Prod.mk.inj hplace
    obtain rfl := Except.ok.inj hok
    refine ⟨c, ?_, hprofile ▸ SameProfile.refl _⟩
    rw [hid]
    exact hget
  · exact absurd hempty hne

/-- **When the plan matches the container.**  Whenever a session is created and the agent is to
be installed, the container profile of the plan is compiled from the stored profile of the
container if and only if the profile of the request fits the container. -/
theorem installedPlan_matches_iff {i : InstallAgentRequest}
    (h : .installAgent i ∈ (handleCreateSession s a req).2.1) :
    PlanMatches (handleCreateSession s a req).1.world i ↔ Fits s a req := by
  obtain ⟨plan, plan', hplan, hplace, rfl⟩ := installAgent_mem h
  by_cases hne : req.containerID ≠ ""
  · exact iff_of_true (planMatches_named hplan hne hplace) (Or.inl hne)
  · obtain ⟨hpolicy, hid, ⟨hne', -⟩ | ⟨hempty, hnode, hprofile⟩⟩ := planSession_eq_ok hplan
    · exact absurd hne' hne
    have hroot : plan.containerProfile.workspaceRoot ≠ "" := by
      rw [hprofile]
      exact compileProfile_workspaceRoot_ne _ _
    obtain ⟨hprofile', hpolicy', containers, placement, hlisted, hselected, hplaced⟩ :=
      placeSession_eq_ok (hid.trans hempty) hroot hplace
    have hcompiled : plan'.containerProfile =
        compileProfile plan'.policy req.containerProfile := by
      rw [hprofile', hprofile, hpolicy']
    have hchosen : chosen s a req = containers.find? (eligible plan.containerProfile.nodeID) := by
      rw [chosen, hlisted, hprofile]
      rfl
    have hnew : ∀ c, (handleCreateSession s a req).1.world.store.containers.get
        plan'.placement.containerID = some c →
        c.profile = { plan.containerProfile with nodeID := placement.nodeID } →
        (PlanMatches (handleCreateSession s a req).1.world
            { containerID := plan'.placement.containerID, plan := plan' } ↔
          req.containerProfile.nodeID = placement.nodeID) := by
      intro c hget hc
      refine planMatches_new hget hcompiled ?_
      rw [hc, hprofile']
    unfold Fits
    rw [or_iff_right hne, hchosen]
    cases hselected with
    | existing c hfind =>
        rw [hfind]
        dsimp only at hplaced hnew ⊢
        rcases hplaced with ⟨hcid, hworld, hp⟩ | ⟨hcid, c', hget, hc'⟩
        · -- the scheduler's choice is a row of the store
          have hget : (handleCreateSession s a req).1.world.store.containers.get
              plan'.placement.containerID = some c := by
            rw [hworld, hp]
            exact get_of_listed hlisted (List.mem_of_find?_eq_some hfind)
          rw [or_iff_left fun h => hcid h.1, and_iff_right hcid, ← hpolicy, ← hpolicy']
          exact planMatches_existing hget hcompiled
        · rw [or_iff_right fun h => h.1 hcid, and_iff_right hcid]
          exact hnew c' hget hc'
    | placed hfind hne' => exact absurd hnode hne'
    | turned node hfind _ hturn =>
        rw [hfind, hturn]
        dsimp only at hplaced hnew ⊢
        rcases hplaced with ⟨hcid, -⟩ | ⟨-, c', hget, hc'⟩
        · exact absurd rfl hcid
        · rw [hnew c' hget hc', Option.some_inj]
          exact eq_comm

end

/-- A server whose only container is ready and has the profile. -/
def serverWith (profile : ContainerProfile) : Server where
  world := .hosting { readyContainer with profile }
  scheduler := { nodes := ["node-1"] }

/-- Every call of the handler goes through. -/
def goesThrough : Answers where
  resolveBundle := fun agent platform =>
    .ok { digest := "sha256:1", agentID := agent.id, platform, entrypoint := ["echo"] }
  listContainers := .ok asStored
  installAgent := .ok { id := "agent_1", state := .ready }
  createSession := .ok waitingSession

/-- A session for an agent of the request's own, with terminal authentication. -/
def terminalRequest : CreateSessionRequest where
  manualAgent := some { id := "echo" }
  containerProfile := { allowTerminalAuth := true }
  policy := { hostedMode := true, allowTerminalAuth := true }

/-- In a container that allows terminal authentication and has the default workspace, the plan
matches. -/
theorem terminalRequest_matches : ∃ i,
    Call.installAgent i ∈ (handleCreateSession
      (serverWith { workspaceRoot := "/workspace", allowTerminalAuth := true }) goesThrough
      terminalRequest).2.1 ∧ i.containerID = "ctr_1" ∧
    PlanMatches (handleCreateSession
      (serverWith { workspaceRoot := "/workspace", allowTerminalAuth := true }) goesThrough
      terminalRequest).1.world i := by
  refine ⟨_, List.mem_cons_self, rfl, (installedPlan_matches_iff List.mem_cons_self).2 (Or.inr ?_)⟩
  exact Or.inl ⟨by decide, rfl, rfl, rfl, rfl, fun _ => rfl, rfl, rfl, Or.inl rfl, rfl⟩

/-- **A plan that the container does not allow.**  The container was created without terminal
authentication; the scheduler chooses it for a session whose request asks for that, and the
plan that is installed in it allows it. -/
theorem terminalRequest_mismatched : ∃ i,
    Call.installAgent i ∈ (handleCreateSession (serverWith {}) goesThrough terminalRequest).2.1 ∧
      i.containerID = "ctr_1" ∧ i.plan.containerProfile.allowTerminalAuth = true ∧
        ¬ PlanMatches (handleCreateSession (serverWith {}) goesThrough terminalRequest).1.world
          i := by
  refine ⟨_, List.mem_cons_self, rfl, rfl, ?_⟩
  rintro ⟨c, hget, hsame⟩
  obtain rfl := Option.some.inj hget
  exact Bool.noConfusion hsame.allowTerminalAuth

end Api
end Agentd
