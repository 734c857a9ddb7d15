/-
# Execution plans

`control/plan.go`: `CompileExecutionPlan` and `injectLLMProfileEnv`.  A plan is compiled from
an agent, a bundle, a container profile, a session, a profile of the language model, a
placement and a policy; compiling fills in the defaults of the container profile and takes
terminal authentication out of it where a hosted policy does not allow it.

`compileProfile` is what becomes of the container profile, and nothing else of the input has a
part in it but the policy.  `sameProfile_compileProfile_iff` says which profiles compile to the
same one.
-/

import Agentd.Control.Types

namespace Agentd
namespace Control

/-- The value, or `d` where it is the zero value of its type. -/
def defaulted {α : Type} [DecidableEq α] (zero d x : α) : α := if x = zero then d else x

/-- `15 * time.Minute`, in nanoseconds. -/
def defaultTTL : ℤ := 15 * 60 * 1000000000

/-- `unicode.IsSpace`. -/
def isSpace (c : Char) : Bool :=
  c.toNat ∈ [0x20, 0x85, 0xA0, 0x1680, 0x2028, 0x2029, 0x202F, 0x205F, 0x3000] ||
    (9 ≤ c.toNat && c.toNat ≤ 13) || (0x2000 ≤ c.toNat && c.toNat ≤ 0x200A)

/-- `strings.TrimSpace(s) == ""`. -/
def blank (s : String) : Bool := s.toList.all isSpace

/-- `injectLLMProfileEnv`. -/
def injectLLMProfileEnv : Option LLMProfile → StringMap
  | none => ∅
  | some profile =>
      let env : StringMap :=
        ((∅ : StringMap).insert "ACP_LLM_PROVIDER" profile.provider).insert "ACP_LLM_MODEL"
          profile.model
      let env :=
        if profile.baseURL ≠ "" then env.insert "ACP_LLM_BASE_URL" profile.baseURL else env
      -- a loop that assigns the entries of a map is the union that prefers them
      let env := profile.defaultEnv ∪ env
      let env :=
        if profile.apiKey.envVar ≠ "" then env.insert "ACP_LLM_API_KEY_ENV" profile.apiKey.envVar
        else env
      if profile.apiKey.name ≠ "" then env.insert "ACP_LLM_API_KEY_REF" profile.apiKey.name else env

/-- `CompileInput`. -/
structure CompileInput where
  agent : AgentCatalogEntry
  bundle : Bundle
  containerProfile : ContainerProfile
  session : SessionSpec
  llmProfile : Option LLMProfile
  placement : Placement
  policy : ExecutionPolicy

/-- The container profile of the plan. -/
def compileProfile (policy : ExecutionPolicy) (profile : ContainerProfile) : ContainerProfile :=
  { profile with
    workspaceRoot := defaulted "" "/workspace" profile.workspaceRoot
    networkPolicy := defaulted "" "default" profile.networkPolicy
    ttl := defaulted 0 defaultTTL profile.ttl
    allowTerminalAuth :=
      if policy.hostedMode then policy.allowTerminalAuth && profile.allowTerminalAuth
      else profile.allowTerminalAuth }

/-- `CompileExecutionPlan`. -/
def compileExecutionPlan (input : CompileInput) (raw : String) (now : Time) :
    Except Err ExecutionPlan :=
  if input.agent.id = "" then .error (.other "agent id required")
  else if input.bundle.digest = "" then .error (.other "bundle digest required")
  else if input.containerProfile.allowTerminalAuth = false ∧
      .terminal ∈ input.agent.protocol.authModes ∧ input.policy.hostedMode = true then
    .error (.other "unsupported auth mode: terminal auth disabled in hosted mode")
  else if input.bundle.entrypoint = [] then
    .error (.other ("bundle " ++ input.bundle.digest ++ " has no entrypoint"))
  else
    let containerProfile := compileProfile input.policy input.containerProfile
    .ok
      { id := newID "plan" raw
        agent := input.agent
        bundle := input.bundle
        containerProfile
        session :=
          if blank input.session.workingDir then
            { input.session with workingDir := containerProfile.workspaceRoot }
          else input.session
        llmProfile := input.llmProfile
        injectionEnv :=
          injectLLMProfileEnv input.llmProfile ∪ (input.session.env ∪ input.agent.defaultEnv)
        placement := input.placement
        policy := input.policy
        createdAt := now }

/-- What a compiled plan has of its input, and what compilation has checked. -/
structure Compiled (input : CompileInput) (plan : ExecutionPlan) : Prop where
  agent : plan.agent = input.agent
  bundle : plan.bundle = input.bundle
  containerProfile : plan.containerProfile = compileProfile input.policy input.containerProfile
  injectionEnv : plan.injectionEnv =
    injectLLMProfileEnv input.llmProfile ∪ (input.session.env ∪ input.agent.defaultEnv)
  placement : plan.placement = input.placement
  policy : plan.policy = input.policy
  terminal : input.policy.hostedMode = true → .terminal ∈ input.agent.protocol.authModes →
    input.containerProfile.allowTerminalAuth = true

/-- Two profiles with the same fields, the environments compared as maps. -/
structure SameProfile (p q : ContainerProfile) : Prop where
  image : p.image = q.image
  nodeID : p.nodeID = q.nodeID
  sandboxClass : p.sandboxClass = q.sandboxClass
  workspaceRoot : p.workspaceRoot = q.workspaceRoot
  env : ∀ k, p.env.lookup k = q.env.lookup k
  resourceLimits : p.resourceLimits = q.resourceLimits
  networkPolicy : p.networkPolicy = q.networkPolicy
  allowTerminalAuth : p.allowTerminalAuth = q.allowTerminalAuth
  ttl : p.ttl = q.ttl

/-- Two profiles that ask for the same under a policy: where a field has a default, the default
may stand for itself, and the permission of terminal authentication does not count where a
hosted policy takes it away. -/
structure Agrees (policy : ExecutionPolicy) (p q : ContainerProfile) : Prop where
  image : p.image = q.image
  nodeID : p.nodeID = q.nodeID
  sandboxClass : p.sandboxClass = q.sandboxClass
  workspaceRoot : defaulted "" "/workspace" p.workspaceRoot =
    defaulted "" "/workspace" q.workspaceRoot
  env : ∀ k, p.env.lookup k = q.env.lookup k
  resourceLimits : p.resourceLimits = q.resourceLimits
  networkPolicy : defaulted "" "default" p.networkPolicy = defaulted "" "default" q.networkPolicy
  allowTerminalAuth : p.allowTerminalAuth = q.allowTerminalAuth ∨
    policy.hostedMode = true ∧ policy.allowTerminalAuth = false
  ttl : defaulted 0 defaultTTL p.ttl = defaulted 0 defaultTTL q.ttl

section

variable {policy : ExecutionPolicy} {p q : ContainerProfile}

/-- A default is filled in once. -/
@[simp] theorem defaulted_defaulted {α : Type} [DecidableEq α] (zero d x : α) :
    defaulted zero d (defaulted zero d x) = defaulted zero d x := by
  unfold defaulted
  split_ifs <;> rfl

/-- What a plan keeps of the permission of terminal authentication. -/
theorem compileProfile_allowTerminalAuth_eq_iff :
    (compileProfile policy p).allowTerminalAuth = (compileProfile policy q).allowTerminalAuth ↔
      p.allowTerminalAuth = q.allowTerminalAuth ∨
        policy.hostedMode = true ∧ policy.allowTerminalAuth = false := by
  unfold compileProfile
  cases policy.hostedMode with
  | false => simp
  | true => cases policy.allowTerminalAuth <;> simp

/-- **Profiles that compile to the same one** are those that agree. -/
theorem sameProfile_compileProfile_iff :
    SameProfile (compileProfile policy p) (compileProfile policy q) ↔ Agrees policy p q := by
  constructor
  · intro h
    exact ⟨h.image, h.nodeID, h.sandboxClass, h.workspaceRoot, h.env, h.resourceLimits,
      h.networkPolicy, compileProfile_allowTerminalAuth_eq_iff.1 h.allowTerminalAuth, h.ttl⟩
  · intro h
    exact ⟨h.image, h.nodeID, h.sandboxClass, h.workspaceRoot, h.env, h.resourceLimits,
      h.networkPolicy, compileProfile_allowTerminalAuth_eq_iff.2 h.allowTerminalAuth, h.ttl⟩

theorem SameProfile.refl (p : ContainerProfile) : SameProfile p p :=
  ⟨rfl, rfl, rfl, rfl, fun _ => rfl, rfl, rfl, rfl, rfl⟩

/-- **A compiled profile is compiled already**, on whatever node it is put. -/
theorem compileProfile_compiled (policy : ExecutionPolicy) (p : ContainerProfile) (k : String) :
    compileProfile policy { compileProfile policy p with nodeID := k } =
      { compileProfile policy p with nodeID := k } := by
  have hauth : ∀ h a b : Bool,
      (if h then a && (if h then a && b else b) else if h then a && b else b) =
        if h then a && b else b := by decide
  simp only [compileProfile, defaulted_defaulted, hauth]

theorem compileProfile_workspaceRoot_ne (policy : ExecutionPolicy) (p : ContainerProfile) :
    (compileProfile policy p).workspaceRoot ≠ "" := by
  show defaulted "" "/workspace" p.workspaceRoot ≠ ""
  unfold defaulted
  split_ifs with h
  · decide
  · exact h

/-- **A plan that is compiled** is as `Compiled` says. -/
theorem compiled_of_eq_ok {input : CompileInput} {raw : String} {now : Time}
    {plan : ExecutionPlan} (h : compileExecutionPlan input raw now = .ok plan) :
    Compiled input plan := by
  unfold compileExecutionPlan at h
  split_ifs at h with hid hdigest hrefused hentry hblank
  all_goals
    have hterminal (hhosted : input.policy.hostedMode = true)
        (hmode : .terminal ∈ input.agent.protocol.authModes) :
        input.containerProfile.allowTerminalAuth = true := by
      by_contra hne
      exact hrefused ⟨Bool.eq_false_iff.2 hne, hmode, hhosted⟩
    obtain rfl := Except.ok.inj h
    exact ⟨rfl, rfl, rfl, rfl, rfl, rfl, hterminal⟩

/-- What a plan says about terminal authentication in hosted mode. -/
theorem Compiled.allowTerminalAuth {input : CompileInput} {plan : ExecutionPlan}
    (h : Compiled input plan) (hhosted : input.policy.hostedMode = true) :
    plan.containerProfile.allowTerminalAuth =
      (input.policy.allowTerminalAuth && input.containerProfile.allowTerminalAuth) := by
  rw [h.containerProfile, compileProfile, hhosted]
  rfl

end

end Control
end Agentd
