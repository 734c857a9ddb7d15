/-
# What a hosted policy forbids

A policy in hosted mode says whether agents with terminal authentication and whether private
agents may be installed (`ExecutionPolicy` in `control/types.go`).  `CompileExecutionPlan`
(`control/plan.go`) turns an agent with terminal authentication down when its container profile
does not allow it, and then takes the permission out of the profile of the plan where the policy
does not allow it; so the policy's own answer comes after the check.  Whether the agent is
private is not looked at.

`hostedPolicy_obeyed_iff` says when a plan nevertheless obeys the policy, for the compilation and
for both handlers that install agents.
-/

import Agentd.Api.InstallAgent

namespace Agentd
namespace Api

open Control Store Workflows

/-- The agent asks for terminal authentication. -/
def usesTerminal (agent : AgentCatalogEntry) : Prop := .terminal ∈ agent.protocol.authModes

instance (agent : AgentCatalogEntry) : Decidable (usesTerminal agent) :=
  inferInstanceAs (Decidable (.terminal ∈ agent.protocol.authModes))

/-- The plan obeys its policy, as the plan itself says. -/
structure Lawful (plan : ExecutionPlan) : Prop where
  terminal : usesTerminal plan.agent → plan.containerProfile.allowTerminalAuth = true
  priv : plan.agent.priv = true → plan.policy.allowPrivateAgents = true

/-- The plan obeys its policy and the profile that it was compiled from. -/
structure Obeys (profile : ContainerProfile) (plan : ExecutionPlan) : Prop extends Lawful plan where
  profile : usesTerminal plan.agent → profile.allowTerminalAuth = true
  policy : usesTerminal plan.agent → plan.policy.allowTerminalAuth = true

/-- The policy has nothing against the agent. -/
structure Admits (policy : ExecutionPolicy) (agent : AgentCatalogEntry) : Prop where
  terminal : usesTerminal agent → policy.allowTerminalAuth = true
  priv : agent.priv = true → policy.allowPrivateAgents = true

section

variable {input : CompileInput} {raw : String} {now : Time} {plan : ExecutionPlan}

/-- **A compiled plan obeys a hosted policy** if and only if the policy has nothing against the
agent. -/
theorem obeys_iff_admits (hhosted : input.policy.hostedMode = true)
    (h : compileExecutionPlan input raw now = .ok plan) :
    Obeys input.containerProfile plan ↔ Admits input.policy input.agent := by
  have hcompiled := compiled_of_eq_ok h
  have hagent := hcompiled.agent
  have hpolicy := hcompiled.policy
  constructor
  · intro hobeys
    refine ⟨fun hterminal => ?_, fun hpriv => ?_⟩
    · rw [← hpolicy]
      exact hobeys.policy (hagent.symm ▸ hterminal)
    · rw [← hpolicy]
      exact hobeys.priv (hagent.symm ▸ hpriv)
  · intro hadmits
    refine ⟨⟨fun hterminal => ?_, fun hpriv => ?_⟩, fun hterminal => ?_, fun hterminal => ?_⟩
    · rw [hagent] at hterminal
      rw [hcompiled.allowTerminalAuth hhosted, hadmits.terminal hterminal,
        hcompiled.terminal hhosted hterminal]
      rfl
    · rw [hpolicy]
      exact hadmits.priv (hagent ▸ hpriv)
    · exact hcompiled.terminal hhosted (hagent ▸ hterminal)
    · rw [hpolicy]
      exact hadmits.terminal (hagent ▸ hterminal)

theorem lawful_iff_admits (hhosted : input.policy.hostedMode = true)
    (h : compileExecutionPlan input raw now = .ok plan) :
    Lawful plan ↔ Admits input.policy input.agent := by
  rw [← obeys_iff_admits hhosted h]
  have hcompiled := compiled_of_eq_ok h
  have hagent := hcompiled.agent
  have hpolicy := hcompiled.policy
  constructor
  · intro hlawful
    refine ⟨hlawful, fun hterminal => hcompiled.terminal hhosted (hagent ▸ hterminal),
      fun hterminal => ?_⟩
    have hplan := hlawful.terminal hterminal
    rw [hcompiled.allowTerminalAuth hhosted, Bool.and_eq_true] at hplan
    rw [hpolicy]
    exact hplan.1
  · exact Obeys.toLawful

end

/-- **When a hosted policy is obeyed.**  A plan that is compiled for an agent under a policy in
hosted mode obeys it, and the profile it was compiled from, if and only if the policy allows
terminal authentication to an agent that uses it, and private agents where the agent is private;
and the same decides whether what `handleCreateSession` and `handleInstallAgent` install is
lawful. -/
theorem hostedPolicy_obeyed_iff {policy : ExecutionPolicy} (hhosted : policy.hostedMode = true)
    (agent : AgentCatalogEntry) :
    (∀ input raw now plan, input.policy = policy → input.agent = agent →
      compileExecutionPlan input raw now = .ok plan →
        (Obeys input.containerProfile plan ↔ Admits policy agent)) ∧
    (∀ s a (req : CreateSessionRequest) bundle i, normalizePolicy req.policy = policy →
      resolveAgentBundle s a req.agentID req.manualAgent req.platform = .ok (agent, bundle) →
      .installAgent i ∈ (handleCreateSession s a req).2.1 →
        (Lawful i.plan ↔ Admits policy agent)) ∧
    ∀ s a id (req : InstallAgentRequest) bundle i, normalizePolicy req.policy = policy →
      resolveAgentBundle s a req.agentID req.manualAgent req.platform = .ok (agent, bundle) →
      .installAgent i ∈ (handleInstallAgent s a id req).1 →
        (Lawful i.plan ↔ Admits policy agent) := by
  refine ⟨?_, ?_, ?_⟩
  · rintro input raw now plan rfl rfl hcompile
    exact obeys_iff_admits hhosted hcompile
  · rintro s a req bundle i rfl hresolve hi
    obtain ⟨plan, placement, ⟨input, raw, now, hcompile, rfl, rfl, hpolicy⟩, hplan⟩ :=
      compiled_of_create hresolve hi
    rw [← hpolicy] at hhosted ⊢
    rw [← lawful_iff_admits hhosted hcompile, hplan]
    exact ⟨fun h => ⟨h.terminal, h.priv⟩, fun h => ⟨h.terminal, h.priv⟩⟩
  · rintro s a id req bundle i rfl hresolve hi
    obtain ⟨input, raw, now, hcompile, rfl, rfl, hpolicy⟩ := compiled_of_install hresolve hi
    rw [← hpolicy] at hhosted ⊢
    exact lawful_iff_admits hhosted hcompile

/-- A session of an agent with terminal authentication, in a container that would allow it, under
the default policy. -/
def unasked : CreateSessionRequest where
  manualAgent := some { id := "echo", protocol := { authModes := [.terminal] } }
  containerProfile := { allowTerminalAuth := true }

/-- A session of a private agent, under a hosted policy that allows nothing. -/
def privateRequest : CreateSessionRequest where
  manualAgent := some { id := "echo", priv := true }
  policy := { hostedMode := true }

/-- The same session under a policy that allows terminal authentication. -/
def asked : CreateSessionRequest :=
  { unasked with policy := { hostedMode := true, allowTerminalAuth := true } }

/-- The policy of the request allows terminal authentication, and what is installed is lawful. -/
theorem terminalAgent_lawful : ∃ i,
    .installAgent i ∈ (handleCreateSession (serverWith {}) goesThrough asked).2.1 ∧
      usesTerminal i.plan.agent ∧ Lawful i.plan := by
  refine ⟨_, List.mem_cons_self, by decide, ?_⟩
  have hhosted : (normalizePolicy asked.policy).hostedMode = true := rfl
  refine ((hostedPolicy_obeyed_iff hhosted _).2.1 (serverWith {}) goesThrough asked _ _ rfl rfl
    List.mem_cons_self).2 ⟨?_, ?_⟩
  · intro _
    rfl
  · intro hpriv
    cases hpriv

/-- **A hosted policy that is not enforced.**  By the default policy, which is hosted and allows no
terminal authentication, an agent that uses it is installed all the same; and so is a private
agent under a hosted policy that does not allow private agents. -/
theorem hostedPolicy_not_enforced :
    (∃ i, .installAgent i ∈ (handleCreateSession (serverWith {}) goesThrough unasked).2.1 ∧
      i.plan.policy.hostedMode = true ∧ usesTerminal i.plan.agent ∧
        i.plan.policy.allowTerminalAuth = false ∧
          i.plan.containerProfile.allowTerminalAuth = false) ∧
    ∃ i, .installAgent i ∈ (handleCreateSession (serverWith {}) goesThrough privateRequest).2.1 ∧
      i.plan.policy.hostedMode = true ∧ i.plan.agent.priv = true ∧
        i.plan.policy.allowPrivateAgents = false :=
  ⟨⟨_, List.mem_cons_self, rfl, by decide, rfl, rfl⟩, _, List.mem_cons_self, rfl, rfl, rfl⟩

end Api
end Agentd
