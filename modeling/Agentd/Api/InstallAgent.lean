/-
# Installing an agent

`api/server.go`: `handleInstallAgent`.  The container is named by the path of the request, and
the plan is compiled from its stored profile.  What the calls of the handler meet is an input
(`Answers`), as for `handleCreateSession`.

`Api.compiled_of_install` and `Api.compiled_of_create` say of both handlers what the plan that
they install was compiled from.
-/

import Agentd.Api.CreateSession

namespace Agentd
namespace Api

open Control Store Workflows

/-- `InstallAgentRequest` of the API. -/
structure InstallAgentRequest where
  agentID : String := ""
  manualAgent : Option AgentCatalogEntry := none
  platform : String := ""
  workingDir : String := ""
  env : StringMap := ∅
  llmProfile : Option LLMProfile := none
  policy : ExecutionPolicy := {}

/-- `handleInstallAgent` up to the plan, with the container of the path. -/
def planInstall (s : Server) (a : Answers) (id : String) (req : InstallAgentRequest) :
    Except Err (Container × ExecutionPlan) := do
  let container ← reads a.getContainer (s.world.store.getContainer id)
  let (agent, bundle) ← resolveAgentBundle s a req.agentID req.manualAgent req.platform
  let plan ← compileExecutionPlan
    { agent
      bundle
      containerProfile := container.profile
      session := { workingDir := req.workingDir, env := req.env }
      llmProfile := req.llmProfile
      placement := { containerID := container.id, nodeID := container.nodeID }
      policy := normalizePolicy req.policy }
    a.planRaw a.planNow
  return (container, plan)

/-- `handleInstallAgent`: what it asks of the workflow of the container, and what it returns. -/
def handleInstallAgent (s : Server) (a : Answers) (id : String) (req : InstallAgentRequest) :
    List Call × Except Err AgentInstance :=
  match planInstall s a id req with
  | .error e => ([], .error e)
  | .ok (container, plan) =>
      ([.installAgent { containerID := container.id, plan }], a.installAgent)

/-- The plan was compiled for the agent and the bundle under the policy. -/
def CompiledFor (agent : AgentCatalogEntry) (bundle : Bundle) (policy : ExecutionPolicy)
    (plan : ExecutionPlan) : Prop :=
  ∃ input raw now, compileExecutionPlan input raw now = .ok plan ∧ input.agent = agent ∧
    input.bundle = bundle ∧ input.policy = policy

section

variable {s : Server} {a : Answers} {agent : AgentCatalogEntry} {bundle : Bundle}
  {i : Control.InstallAgentRequest}

/-- A handler that installs an agent has resolved its bundle. -/
theorem resolved_of_install {id : String} {req : InstallAgentRequest}
    (h : .installAgent i ∈ (handleInstallAgent s a id req).1) :
    ∃ agent bundle, resolveAgentBundle s a req.agentID req.manualAgent req.platform =
      .ok (agent, bundle) := by
  unfold handleInstallAgent at h
  split at h
  · cases h
  · next container plan hplan =>
      obtain ⟨c, -, hrest⟩ := except_bind_eq_ok.1 hplan
      obtain ⟨⟨agent, bundle⟩, hresolve, -⟩ := except_bind_eq_ok.1 hrest
      exact ⟨agent, bundle, hresolve⟩

/-- **What `handleInstallAgent` installs** is compiled for the agent that was resolved. -/
theorem compiled_of_install {id : String} {req : InstallAgentRequest}
    (hresolve : resolveAgentBundle s a req.agentID req.manualAgent req.platform =
      .ok (agent, bundle)) (h : .installAgent i ∈ (handleInstallAgent s a id req).1) :
    CompiledFor agent bundle (normalizePolicy req.policy) i.plan := by
  unfold handleInstallAgent at h
  split at h
  · cases h
  · next container plan hplan =>
      obtain rfl := Call.installAgent.inj (List.mem_singleton.1 h)
      obtain ⟨c, -, hrest⟩ := except_bind_eq_ok.1 hplan
      obtain ⟨resolved, hresolve', hrest⟩ := except_bind_eq_ok.1 hrest
      obtain rfl := Except.ok.inj (hresolve.symm.trans hresolve')
      obtain ⟨plan', hcompile, hpair⟩ := except_bind_eq_ok.1 hrest
      obtain ⟨-, rfl⟩ := Prod.mk.inj (Except.ok.inj hpair)
      exact ⟨_, _, _, hcompile, rfl, rfl, rfl⟩

/-- **What `handleCreateSession` installs** is compiled for the agent that was resolved, up to the
placement. -/
theorem compiled_of_create {req : CreateSessionRequest}
    (hresolve : resolveAgentBundle s a req.agentID req.manualAgent req.platform =
      .ok (agent, bundle)) (h : .installAgent i ∈ (handleCreateSession s a req).2.1) :
    ∃ plan placement, CompiledFor agent bundle (normalizePolicy req.policy) plan ∧
      i.plan = { plan with placement } := by
  obtain ⟨plan, plan', hplan, hplace, rfl⟩ := installAgent_mem h
  obtain ⟨resolved, hresolve', hrest⟩ := except_bind_eq_ok.1 hplan
  obtain rfl := Except.ok.inj (hresolve.symm.trans hresolve')
  obtain ⟨⟨placement, profile⟩, -, hcompile⟩ := except_bind_eq_ok.1 hrest
  refine ⟨plan, plan'.placement, ⟨_, _, _, hcompile, rfl, rfl, rfl⟩, ?_⟩
  exact placeSession_plan hplace

end

end Api
end Agentd
