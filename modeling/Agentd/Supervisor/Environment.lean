/-
# The environment of an agent

The environment that an agent is started with is put together in two places:
`CompileExecutionPlan` (`control/plan.go`) lays the environment of the session and that of the
language model over the one of the agent, and `mergeEnv` (`runtime/supervisor/manager.go`) lays
the container profile, the bundle and this over the environment of the supervisor.  All of these
are maps that Go visits in no particular order, and the result is a list in no particular order.

Here the loops are given the order in which they meet the pairs of a map.  For every order the
list has one entry for each name, with the value of the highest layer that has the name, and no
other entry (`environment_precedence`).
-/

import Agentd.Control.Plan
import Agentd.Data.Overlay
import Agentd.Data.Text
import Agentd.Supervisor.Manager
import Mathlib.Data.List.TakeDrop
import Mathlib.Data.List.TakeWhile

namespace Agentd
namespace Supervisor

open Control

/-- `k+"="+v`. -/
def envEntry (kv : String × String) : String := kv.1 ++ "=" ++ kv.2

/-- The map of `mergeEnv`, with the pairs of the layers as they are met. -/
def mergedValues (base : List String) (layers : List (List (String × String))) : StringMap :=
  layers.foldl GoMap.assign ((∅ : StringMap).assign (base.filterMap splitEnv))

/-- `mergeEnv` may return this list: the layers and then the result are visited in some order. -/
def Merges (base : List String) (layers : List StringMap) (out : List String) : Prop :=
  ∃ orders order, List.Forall₂ GoMap.Ranges layers orders ∧
    GoMap.Ranges (mergedValues base orders) order ∧ out = order.map envEntry

/-- The provider, the model and the base URL of the language model, as `injectLLMProfileEnv`
writes them. -/
def llmNames (profile : LLMProfile) : List (String × String) :=
  [("ACP_LLM_PROVIDER", profile.provider), ("ACP_LLM_MODEL", profile.model)] ++
    if profile.baseURL ≠ "" then [("ACP_LLM_BASE_URL", profile.baseURL)] else []

/-- The references to the key of the language model, as `injectLLMProfileEnv` writes them. -/
def apiKeyRefs (profile : LLMProfile) : List (String × String) :=
  (if profile.apiKey.envVar ≠ "" then [("ACP_LLM_API_KEY_ENV", profile.apiKey.envVar)] else []) ++
    if profile.apiKey.name ≠ "" then [("ACP_LLM_API_KEY_REF", profile.apiKey.name)] else []

/-- `injectLLMProfileEnv` may return this map: `DefaultEnv` is visited in some order. -/
def InjectsLLM : Option LLMProfile → StringMap → Prop
  | none, env => env = ∅
  | some profile, env => ∃ order, profile.defaultEnv.Ranges order ∧
      env = (((∅ : StringMap).assign (llmNames profile)).assign order).assign (apiKeyRefs profile)

/-- `CompileExecutionPlan` may compute this `InjectionEnv`. -/
def Injects (input : CompileInput) (env : StringMap) : Prop :=
  ∃ llm agentOrder sessionOrder llmOrder, InjectsLLM input.llmProfile llm ∧
    input.agent.defaultEnv.Ranges agentOrder ∧ input.session.env.Ranges sessionOrder ∧
      llm.Ranges llmOrder ∧
        env = (((∅ : StringMap).assign agentOrder).assign sessionOrder).assign llmOrder

/-- The layers over the base, the highest one first. -/
def overBase (input : CompileInput) : List (String → Option String) :=
  [fun k => input.llmProfile.bind fun profile => lastValue (apiKeyRefs profile) k,
    fun k => input.llmProfile.bind fun profile => profile.defaultEnv.lookup k,
    fun k => input.llmProfile.bind fun profile => lastValue (llmNames profile) k,
    fun k => input.session.env.lookup k,
    fun k => input.agent.defaultEnv.lookup k,
    fun k => input.bundle.env.lookup k,
    fun k => input.containerProfile.env.lookup k]

/-- The value that a name is to have: that of the highest layer, and below all of them the last
entry of the base with the name. -/
def envValue (base : List String) (input : CompileInput) (name : String) : Option String :=
  highest (overBase input ++ [lastValue (base.filterMap splitEnv)]) name

section

variable {input : CompileInput} {env llm : StringMap} {base : List String} {k : String}

/-- **The three layers of the language model**, in whatever order they are visited. -/
theorem InjectsLLM.lookup {profile : Option LLMProfile} (h : InjectsLLM profile llm) (k : String) :
    llm.lookup k = highest
      [fun k => profile.bind fun p => lastValue (apiKeyRefs p) k,
        fun k => profile.bind fun p => p.defaultEnv.lookup k,
        fun k => profile.bind fun p => lastValue (llmNames p) k] k := by
  cases profile with
  | none =>
      obtain rfl : llm = ∅ := h
      rfl
  | some profile =>
      obtain ⟨order, horder, rfl⟩ := h
      rw [GoMap.lookup_assign, GoMap.lookup_assign_of_ranges horder, GoMap.lookup_assign,
        AList.lookup_empty, Option.or_none, highest_cons, highest_cons, highest_singleton]
      rfl

/-- **The layers of the plan**, in whatever order they are visited. -/
theorem Injects.lookup (h : Injects input env) (k : String) :
    env.lookup k = highest ((overBase input).take 5) k := by
  obtain ⟨llm, agentOrder, sessionOrder, llmOrder, hllm, hagent, hsession, horder, rfl⟩ := h
  rw [GoMap.lookup_assign_of_ranges horder, GoMap.lookup_assign_of_ranges hsession,
    GoMap.lookup_assign_of_ranges hagent, AList.lookup_empty, Option.or_none, hllm.lookup]
  show _ = highest ([_, _, _] ++ [_, _]) k
  rw [highest_append]
  congr 1
  rw [highest_cons, highest_singleton]

/-- `injectLLMProfileEnv`, whose model is a map, agrees with all orders. -/
theorem lookup_injectLLMProfileEnv {profile : Option LLMProfile} (h : InjectsLLM profile llm)
    (k : String) : (injectLLMProfileEnv profile).lookup k = llm.lookup k := by
  cases profile with
  | none =>
      obtain rfl : llm = ∅ := h
      rfl
  | some profile =>
      obtain ⟨order, horder, rfl⟩ := h
      have hnames : (if profile.baseURL ≠ "" then
          (((∅ : StringMap).insert "ACP_LLM_PROVIDER" profile.provider).insert "ACP_LLM_MODEL"
            profile.model).insert "ACP_LLM_BASE_URL" profile.baseURL
          else ((∅ : StringMap).insert "ACP_LLM_PROVIDER" profile.provider).insert "ACP_LLM_MODEL"
            profile.model) = (∅ : StringMap).assign (llmNames profile) := by
        rw [GoMap.ite_insert_eq_assign, llmNames, GoMap.assign_append]
        rfl
      unfold injectLLMProfileEnv
      dsimp only
      rw [hnames, GoMap.ite_insert_eq_assign, GoMap.ite_insert_eq_assign, ← GoMap.assign_append,
        ← apiKeyRefs, GoMap.lookup_assign, GoMap.lookup_assign, GoMap.lookup_union,
        GoMap.lookup_assign_of_ranges horder]

/-- **The environment of a compiled plan**, whose model is a map, agrees with all orders. -/
theorem lookup_injectionEnv {raw : String} {now : Time} {plan : ExecutionPlan}
    (hplan : compileExecutionPlan input raw now = .ok plan) (h : Injects input env) (k : String) :
    plan.injectionEnv.lookup k = env.lookup k := by
  obtain ⟨llm, agentOrder, sessionOrder, llmOrder, hllm, hagent, hsession, horder, rfl⟩ := h
  rw [(compiled_of_eq_ok hplan).injectionEnv, GoMap.lookup_union, GoMap.lookup_union,
    lookup_injectLLMProfileEnv hllm,
    GoMap.lookup_assign_of_ranges horder, GoMap.lookup_assign_of_ranges hsession,
    GoMap.lookup_assign_of_ranges hagent, AList.lookup_empty, Option.or_none]

end

/-! ### The list -/

theorem toList_envEntry (k v : String) :
    (envEntry (k, v)).toList = k.toList ++ '=' :: v.toList := by
  simp [envEntry, String.toList_append]

theorem splitEnv_envEntry {k : String} (hk : '=' ∉ k.toList) (v : String) :
    splitEnv (envEntry (k, v)) = some (k, v) := by
  unfold splitEnv
  rw [toList_envEntry, span_append_cons hk]
  simp

theorem splitEnv_name {kv k v : String} (h : splitEnv kv = some (k, v)) : '=' ∉ k.toList := by
  unfold splitEnv at h
  rw [List.span_eq_takeWhile_dropWhile] at h
  split at h
  · next key c value heq =>
      obtain ⟨rfl, -⟩ := Prod.mk.inj (Option.some.inj h)
      rw [String.toList_ofList, ← (Prod.mk.inj heq).1]
      intro hmem
      simpa using List.mem_takeWhile_imp hmem
  · cases h

section

variable {base out : List String} {layers : List StringMap}

/-- What `mergeEnv` finds under a name, in whatever order the layers are visited. -/
theorem lookup_mergedValues {orders : List (List (String × String))}
    (h : List.Forall₂ GoMap.Ranges layers orders) (k : String) :
    (mergedValues base orders).lookup k =
      highest ((layers.reverse.map fun layer k => layer.lookup k) ++
        [lastValue (base.filterMap splitEnv)]) k := by
  rw [mergedValues, GoMap.lookup_foldl_assign h, highest_append, highest_append,
    highest_singleton, highest_singleton, GoMap.lookup_assign, AList.lookup_empty, Option.or_none]

/-- The map that the manager keeps for a process has what the list has. -/
theorem mergeEnv_eq_mergedValues (base : List String) (layers : List StringMap) :
    mergeEnv base layers = mergedValues base (layers.map GoMap.pairs) := by
  unfold mergeEnv mergedValues
  rw [List.foldl_map]
  refine congrArg (fun f => List.foldl f _ layers) (funext fun m => funext fun layer => ?_)
  show _ = (layer.entries.map _).foldl _ m
  rw [List.foldl_map]

/-- **What `mergeEnv` returns**, in whatever order it visits the maps: for every name the entry of
the highest layer and no second one, and nothing else.  The names of the layers have no `=`. -/
theorem Merges.entries (h : Merges base layers out)
    (hkeys : ∀ layer ∈ layers, ∀ k v, layer.lookup k = some v → '=' ∉ k.toList) :
    (∀ name, ((out.filterMap splitEnv).filter fun kv => kv.1 = name) =
        ((mergeEnv base layers).lookup name).toList.map fun v => (name, v)) ∧
      ∀ e ∈ out, ∃ name value, (mergeEnv base layers).lookup name = some value ∧
        e = envEntry (name, value) := by
  obtain ⟨orders, order, horders, horder, rfl⟩ := h
  have hsame : ∀ k, (mergedValues base orders).lookup k = (mergeEnv base layers).lookup k := by
    intro k
    rw [lookup_mergedValues horders, mergeEnv_eq_mergedValues,
      lookup_mergedValues (GoMap.forall₂_ranges_pairs layers)]
  have hname : ∀ k v, (k, v) ∈ order → '=' ∉ k.toList := by
    intro k v hmem
    have hlookup := horder.mem_iff.1 hmem
    rw [lookup_mergedValues horders] at hlookup
    obtain ⟨layer, hlayer, hvalue⟩ := List.exists_of_findSome?_eq_some hlookup
    rcases List.mem_append.1 hlayer with hmap | hbase
    · obtain ⟨m, hm, rfl⟩ := List.mem_map.1 hmap
      exact hkeys m (List.mem_reverse.1 hm) k v hvalue
    · obtain rfl := List.mem_singleton.1 hbase
      obtain ⟨e, -, hsplit⟩ := List.mem_filterMap.1 (mem_of_lastValue hvalue)
      exact splitEnv_name hsplit
  have hread : (order.map envEntry).filterMap splitEnv = order := by
    rw [List.filterMap_map]
    refine (List.filterMap_congr fun kv hkv => ?_).trans List.filterMap_some
    exact splitEnv_envEntry (hname kv.1 kv.2 hkv) kv.2
  refine ⟨fun name => ?_, fun e he => ?_⟩
  · rw [hread, filter_eq_lastValue horder.nodup, horder.lastValue, hsame]
  · obtain ⟨⟨k, v⟩, hkv, rfl⟩ := List.mem_map.1 he
    exact ⟨k, v, (hsame k).symm.trans (horder.mem_iff.1 hkv), rfl⟩

end

section

variable {input : CompileInput} {raw : String} {now : Time} {plan : ExecutionPlan} {env : StringMap}

/-- The map of `mergeEnv` for the plan has the values that the names are to have. -/
theorem lookup_mergeEnv (hinject : Injects input env) (base : List String) (name : String) :
    (mergeEnv base [input.containerProfile.env, input.bundle.env, env]).lookup name =
      envValue base input name := by
  rw [mergeEnv_eq_mergedValues, lookup_mergedValues (GoMap.forall₂_ranges_pairs _), envValue,
    highest_append, highest_append]
  congr 1
  have hover : overBase input = (overBase input).take 5 ++
      [fun k => input.bundle.env.lookup k, fun k => input.containerProfile.env.lookup k] := rfl
  rw [hover, highest_append, ← hinject.lookup]
  exact highest_cons _ _ _

/-- **The environment of an agent.**  Take an input that compiles, an `InjectionEnv` and a list of
`mergeEnv` that are computed for it with the maps visited in any order, and let no name of the
layers have an `=`.  The list has, for each name, the one entry with the value of the highest
layer that has the name, and none where no layer has it; and it has no other entry.  The
`InjectionEnv` is that of the plan, as a map. -/
theorem environment_precedence {base out : List String}
    (hplan : compileExecutionPlan input raw now = .ok plan) (hinject : Injects input env)
    (hmerge : Merges base [plan.containerProfile.env, plan.bundle.env, env] out)
    (hkeys : ∀ layer ∈ overBase input, ∀ k v, layer k = some v → '=' ∉ k.toList) :
    (∀ name, ((out.filterMap splitEnv).filter fun kv => kv.1 = name) =
        (envValue base input name).toList.map fun v => (name, v)) ∧
      (∀ e ∈ out, ∃ name value, envValue base input name = some value ∧
        e = envEntry (name, value)) ∧
      ∀ k, plan.injectionEnv.lookup k = env.lookup k := by
  have hcompiled := compiled_of_eq_ok hplan
  have hprofile : plan.containerProfile.env = input.containerProfile.env := by
    rw [hcompiled.containerProfile]
    rfl
  rw [hprofile, hcompiled.bundle] at hmerge
  have hnames : ∀ layer ∈ [input.containerProfile.env, input.bundle.env, env], ∀ k v,
      layer.lookup k = some v → '=' ∉ k.toList := by
    intro layer hlayer k v hlookup
    simp only [List.mem_cons, List.not_mem_nil, or_false] at hlayer
    rcases hlayer with rfl | rfl | rfl
    · exact hkeys (fun k => input.containerProfile.env.lookup k) (by simp [overBase]) k v hlookup
    · exact hkeys (fun k => input.bundle.env.lookup k) (by simp [overBase]) k v hlookup
    · -- the layers of the plan
      rw [hinject.lookup] at hlookup
      obtain ⟨layer, hmem, hvalue⟩ := List.exists_of_findSome?_eq_some hlookup
      exact hkeys layer (List.mem_of_mem_take hmem) k v hvalue
  obtain ⟨hone, hother⟩ := hmerge.entries hnames
  refine ⟨fun name => ?_, fun e he => ?_, lookup_injectionEnv hplan hinject⟩
  · rw [hone, lookup_mergeEnv hinject]
  · obtain ⟨name, value, hvalue, rfl⟩ := hother e he
    exact ⟨name, value, (lookup_mergeEnv hinject base name).symm.trans hvalue, rfl⟩

end

/-- An agent with an environment of its own and a language model, in a session that has another
value for one of the names. -/
def layered : CompileInput where
  agent :=
    { id := "echo", defaultEnv := ((∅ : StringMap).insert "TOOL" "agent").insert "LOG" "agent" }
  bundle := { digest := "sha256:1", entrypoint := ["echo"] }
  containerProfile := {}
  session := { env := (∅ : StringMap).insert "TOOL" "session" }
  llmProfile := some { provider := "local", model := "small" }
  placement := {}
  policy := {}

theorem layered_names : ∀ layer ∈ overBase layered, ∀ k v, layer k = some v → '=' ∉ k.toList := by
  have hmap : ∀ m : StringMap, (∀ kv ∈ m.pairs, '=' ∉ kv.1.toList) →
      ∀ k v, m.lookup k = some v → '=' ∉ k.toList :=
    fun m h k v hv => h (k, v) (m.ranges_pairs.mem_iff.2 hv)
  have hlist : ∀ l : List (String × String), (∀ kv ∈ l, '=' ∉ kv.1.toList) →
      ∀ k v, lastValue l k = some v → '=' ∉ k.toList :=
    fun l h k v hv => h (k, v) (mem_of_lastValue hv)
  intro layer hlayer
  simp only [overBase, List.mem_cons, List.not_mem_nil, or_false] at hlayer
  rcases hlayer with rfl | rfl | rfl | rfl | rfl | rfl | rfl
  · exact hlist [] (by decide)
  · exact hmap ∅ (by decide)
  · exact hlist [("ACP_LLM_PROVIDER", "local"), ("ACP_LLM_MODEL", "small")] (by decide)
  · exact hmap layered.session.env (by decide)
  · exact hmap layered.agent.defaultEnv (by decide)
  · exact hmap ∅ (by decide)
  · exact hmap ∅ (by decide)

/-- The session has the value of `TOOL`, the agent that of `LOG` and the base that of `HOME`; the
entry of the base without `=` is left out. -/
theorem layered_environment : ∃ plan env out, compileExecutionPlan layered "" 0 = .ok plan ∧
    Injects layered env ∧
    Merges ["TOOL=base", "HOME=/", "HOME=/root", "junk"]
      [plan.containerProfile.env, plan.bundle.env, env] out ∧
    ((out.filterMap splitEnv).filter fun kv => kv.1 = "TOOL") = [("TOOL", "session")] ∧
    ((out.filterMap splitEnv).filter fun kv => kv.1 = "HOME") = [("HOME", "/root")] ∧
    ((out.filterMap splitEnv).filter fun kv => kv.1 = "junk") = [] := by
  have hinject : Injects layered
      ((((∅ : StringMap).assign layered.agent.defaultEnv.pairs).assign
        layered.session.env.pairs).assign (injectLLMProfileEnv layered.llmProfile).pairs) :=
    ⟨_, _, _, _, ⟨_, GoMap.ranges_pairs _, rfl⟩, GoMap.ranges_pairs _, GoMap.ranges_pairs _,
      GoMap.ranges_pairs _, rfl⟩
  have hmerge := fun layers : List StringMap =>
    (⟨_, _, GoMap.forall₂_ranges_pairs layers, GoMap.ranges_pairs _, rfl⟩ :
      Merges ["TOOL=base", "HOME=/", "HOME=/root", "junk"] layers _)
  obtain ⟨hone, -, -⟩ := environment_precedence rfl hinject (hmerge _) layered_names
  refine ⟨_, _, _, rfl, hinject, hmerge _, (hone "TOOL").trans ?_, (hone "HOME").trans ?_,
    (hone "junk").trans ?_⟩
  · decide
  · decide
  · decide

end Supervisor
end Agentd
