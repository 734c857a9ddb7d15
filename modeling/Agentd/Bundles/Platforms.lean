/-
# The spelling of platforms

`Resolve` (`bundle/resolver.go`) brings the platforms that an entry names into a normal form, and
the platform of the machine too: lower case, with `-` for `/` and `_`.  The platform that is asked
for is compared with these as it stands, and as it stands it goes into the bundle and its digest.

So two spellings of one platform are the same to `Resolve` only where the platform makes no
difference (`platformSpelling_iff`), and a platform that an entry names is turned down unless it is
itself the normal form of one.
-/

import Agentd.Bundles.ContentAddressed

namespace Agentd
namespace Bundles

open Control

/-- Both fail, or both return a bundle, with the same platform and the same digest. -/
def SameOutcome (res res' : Option (Except Err Bundle)) : Prop :=
  ((∀ b, res ≠ some (.ok b)) ∧ ∀ b, res' ≠ some (.ok b)) ∨
    ∃ b b', res = some (.ok b) ∧ res' = some (.ok b') ∧ b.platform = b'.platform ∧
      b.digest = b'.digest

/-- The platform is turned down, whatever the entry distributes. -/
def Rejected (rt : GoRuntime) (entry : AgentCatalogEntry) (platform : String) : Prop :=
  ∀ d now, resolve rt { entry with distribution := d } platform now =
    some (.error (.other ("unsupported bundle: platform " ++ platformOf rt platform ++
      " for agent " ++ entry.id)))

/-- The platform is the normal form of one that the entry names. -/
def Listed (rt : GoRuntime) (entry : AgentCatalogEntry) (platform : String) : Prop :=
  ∃ p ∈ entry.platforms, normalizePlatform rt p = platform

/-- The type of the distribution is known, and the payload that it names is there. -/
def Bundled (d : DistributionSpec) : Prop :=
  d.type = .binary ∧ d.binary.isSome ∨ d.type = .npx ∧ d.npx.isSome ∨ d.type = .uvx ∧ d.uvx.isSome

section

variable {rt : GoRuntime} {entry : AgentCatalogEntry} {platform p q : String} {now now' : Time}
  {b : Bundle}

theorem excludes_iff :
    excludes rt entry platform = true ↔ entry.platforms ≠ [] ∧ ¬Listed rt entry platform := by
  simp [excludes, Listed]

theorem bundleOf_ok_iff (b : Bundle) : (∃ c, bundleOf b = some (.ok c)) ↔ Bundled b.manifest := by
  constructor
  · rintro ⟨c, hc⟩
    cases bundleOf_eq_ok hc with
    | binary spec htype hspec => exact Or.inl ⟨htype, by rw [hspec]; rfl⟩
    | npx spec htype hspec => exact Or.inr (Or.inl ⟨htype, by rw [hspec]; rfl⟩)
    | uvx spec htype hspec => exact Or.inr (Or.inr ⟨htype, by rw [hspec]; rfl⟩)
  · rintro (⟨htype, hspec⟩ | ⟨htype, hspec⟩ | ⟨htype, hspec⟩)
    all_goals
      obtain ⟨spec, hspec⟩ := Option.isSome_iff_exists.1 hspec
      unfold bundleOf
      rw [htype]
      exact ⟨_, congrArg (Option.map _) hspec⟩

/-- **When `Resolve` returns a bundle**: the platform is not excluded, and the distribution has
one. -/
theorem resolve_ok_iff :
    (∃ b, resolve rt entry platform now = some (.ok b)) ↔
      ¬excludes rt entry (platformOf rt platform) = true ∧ Bundled entry.distribution := by
  constructor
  · rintro ⟨b, hb⟩
    have hexcludes : ¬excludes rt entry (platformOf rt platform) = true := by
      intro hexcludes
      unfold resolve at hb
      dsimp only at hb
      rw [if_pos hexcludes] at hb
      cases Option.some.inj hb
    refine ⟨hexcludes, (bundleOf_ok_iff (start rt entry platform now)).1 ?_⟩
    rw [resolve_of_not_excludes hexcludes] at hb
    obtain ⟨res, hres, heq⟩ := Option.map_eq_some_iff.1 hb
    cases res with
    | error e => cases heq
    | ok c => exact ⟨c, hres⟩
  · rintro ⟨hexcludes, hbundled⟩
    obtain ⟨c, hc⟩ := (bundleOf_ok_iff (start rt entry platform now)).2 hbundled
    rw [resolve_of_not_excludes hexcludes, hc]
    exact ⟨_, rfl⟩

theorem platform_of_resolve (h : resolve rt entry platform now = some (.ok b)) :
    b.platform = platformOf rt platform := by
  obtain ⟨c, hc, rfl⟩ := resolve_eq_ok h
  exact hc.names.2.2

theorem sameOutcome_self (rt : GoRuntime) (entry : AgentCatalogEntry) (platform : String)
    (now now' : Time) :
    SameOutcome (resolve rt entry platform now) (resolve rt entry platform now') := by
  by_cases hok : ∃ b, resolve rt entry platform now = some (.ok b)
  · obtain ⟨b', hb'⟩ := (@resolve_ok_iff rt entry platform now').2 (resolve_ok_iff.1 hok)
    obtain ⟨b, hb⟩ := hok
    refine Or.inr ⟨b, b', hb, hb', ?_, ?_⟩
    · rw [platform_of_resolve hb, platform_of_resolve hb']
    · obtain ⟨c, hc, rfl⟩ := resolve_eq_ok hb
      obtain ⟨c', hc', rfl⟩ := resolve_eq_ok hb'
      have hpayload := hc.payload_eq hc' rfl rfl rfl rfl
      exact withDigest_digest_eq_iff.2 (by rw [hpayload])
  · have hok' : ¬∃ b, resolve rt entry platform now' = some (.ok b) :=
      fun h => hok (resolve_ok_iff.2 (resolve_ok_iff.1 h))
    exact Or.inl ⟨not_exists.1 hok, not_exists.1 hok'⟩

/-- **Outcomes for two platforms** are the same if these are one text, or if neither gets a
bundle. -/
theorem sameOutcome_iff (hp : p ≠ "") (hq : q ≠ "") :
    SameOutcome (resolve rt entry p now) (resolve rt entry q now') ↔
      p = q ∨ ¬Bundled entry.distribution ∨
        excludes rt entry p = true ∧ excludes rt entry q = true := by
  have hfails : ∀ {r t}, r ≠ "" → ((∀ b, resolve rt entry r t ≠ some (.ok b)) ↔
      excludes rt entry r = true ∨ ¬Bundled entry.distribution) := by
    intro r t hr
    rw [← not_exists, resolve_ok_iff, platformOf, if_neg hr, not_and_or, not_not]
  constructor
  · rintro (⟨hfail, hfail'⟩ | ⟨b, b', hb, hb', hsame, -⟩)
    · rcases (hfails hp).1 hfail with hex | hnone
      · rcases (hfails hq).1 hfail' with hex' | hnone
        · exact Or.inr (Or.inr ⟨hex, hex'⟩)
        · exact Or.inr (Or.inl hnone)
      · exact Or.inr (Or.inl hnone)
    · rw [platform_of_resolve hb, platform_of_resolve hb', platformOf, platformOf, if_neg hp,
        if_neg hq] at hsame
      exact Or.inl hsame
  · rintro (rfl | hnone | ⟨hex, hex'⟩)
    · exact sameOutcome_self rt entry p now now'
    · exact Or.inl ⟨(hfails hp).2 (Or.inr hnone), (hfails hq).2 (Or.inr hnone)⟩
    · exact Or.inl ⟨(hfails hp).2 (Or.inl hex), (hfails hq).2 (Or.inl hex')⟩

theorem rejected_iff :
    Rejected rt entry platform ↔ excludes rt entry (platformOf rt platform) = true := by
  constructor
  · intro h
    by_contra hexcludes
    -- an entry with the same list and a package gets a bundle
    let d : DistributionSpec := { type := .npx, npx := some {} }
    obtain ⟨b, hb⟩ := (@resolve_ok_iff rt { entry with distribution := d } platform 0).2
      ⟨hexcludes, Or.inr (Or.inl ⟨rfl, rfl⟩)⟩
    rw [h d 0] at hb
    cases Option.some.inj hb
  · intro h d now
    exact if_pos h

/-- **When the spelling of a platform does not matter.**  Two platforms have the same outcome if
and only if they are spelled alike, or no bundle can be made for the entry on any platform, or
neither is the normal form of a platform that the entry names; and a platform that the entry names
is not turned down if and only if it is the normal form of one of them. -/
theorem platformSpelling_iff (hp : p ≠ "") (hq : q ≠ "") :
    (SameOutcome (resolve rt entry p now) (resolve rt entry q now') ↔
      p = q ∨ ¬Bundled entry.distribution ∨
        entry.platforms ≠ [] ∧ ¬Listed rt entry p ∧ ¬Listed rt entry q) ∧
      ∀ named ∈ entry.platforms,
        (¬Rejected rt entry named ↔ Listed rt entry (platformOf rt named)) := by
  refine ⟨?_, fun named hnamed => ?_⟩
  · rw [sameOutcome_iff hp hq, excludes_iff, excludes_iff]
    tauto
  · rw [rejected_iff, excludes_iff, not_and, not_not]
    exact ⟨fun h => h (List.ne_nil_of_mem hnamed), fun h _ => h⟩

end

/-- An agent that names these platforms. -/
def onPlatforms (platforms : List String) : AgentCatalogEntry :=
  { packaged "1.0.0" "Echo" with platforms }

/-- Two spellings of a platform that the entry does not name both fail, and a platform in normal
form that it names is not turned down. -/
theorem otherPlatform_rejected :
    normalizePlatform linux "Linux/amd64" = normalizePlatform linux "linux_amd64" ∧
      SameOutcome (resolve linux (onPlatforms ["darwin-arm64"]) "Linux/amd64" 1)
        (resolve linux (onPlatforms ["darwin-arm64"]) "linux_amd64" 2) ∧
      ¬Rejected linux (onPlatforms ["darwin-arm64"]) "darwin-arm64" := by
  have hspelling := @platformSpelling_iff linux (onPlatforms ["darwin-arm64"]) "Linux/amd64"
    "linux_amd64" 1 2 (by decide) (by decide)
  have hnot : ∀ p, p ≠ "darwin-arm64" → ¬Listed linux (onPlatforms ["darwin-arm64"]) p := by
    rintro p hne ⟨named, hnamed, rfl⟩
    rw [List.mem_singleton.1 hnamed] at hne
    exact hne (by decide +kernel)
  refine ⟨by decide +kernel, hspelling.1.2 (Or.inr (Or.inr ⟨List.cons_ne_nil _ _, ?_, ?_⟩)), ?_⟩
  · exact hnot _ (by decide)
  · exact hnot _ (by decide)
  · have hself := List.mem_singleton_self "darwin-arm64"
    exact (hspelling.2 _ hself).2 ⟨_, hself, by decide +kernel⟩

/-- **The spelling matters.**  Of two spellings of one platform that the entry names, the one that
it names is turned down and the other one gets a bundle; and where no platform is named, both get a
bundle, for different platforms. -/
theorem namedPlatform_rejected :
    normalizePlatform linux "linux/amd64" = normalizePlatform linux "linux-amd64" ∧
      Rejected linux (onPlatforms ["linux/amd64"]) "linux/amd64" ∧
      ¬SameOutcome (resolve linux (onPlatforms ["linux/amd64"]) "linux/amd64" 1)
        (resolve linux (onPlatforms ["linux/amd64"]) "linux-amd64" 1) ∧
      ¬SameOutcome (resolve linux (onPlatforms []) "linux/amd64" 1)
        (resolve linux (onPlatforms []) "linux-amd64" 1) := by
  have hbundled : ∀ platforms, Bundled (onPlatforms platforms).distribution :=
    fun _ => Or.inr (Or.inl ⟨rfl, rfl⟩)
  have hdiffer : ∀ platforms, excludes linux (onPlatforms platforms) "linux-amd64" = false →
      ¬SameOutcome (resolve linux (onPlatforms platforms) "linux/amd64" 1)
        (resolve linux (onPlatforms platforms) "linux-amd64" 1) := by
    intro platforms hex h
    rcases (sameOutcome_iff (by decide) (by decide)).1 h with hsame | hnone | ⟨-, hex'⟩
    · exact absurd hsame (by decide)
    · exact hnone (hbundled platforms)
    · rw [hex] at hex'
      cases hex'
  refine ⟨by decide +kernel, rejected_iff.2 (by decide +kernel), hdiffer _ (by decide +kernel),
    hdiffer _ rfl⟩

end Bundles
end Agentd
