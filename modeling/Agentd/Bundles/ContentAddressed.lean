/-
# Bundles are content-addressed

Two bundles that `Resolve` (`bundle/resolver.go`) returns have the same digest if and only if they
have the same content, provided that SHA-256 does not collide on the two payloads
(`digest_eq_iff`).  The mode and the environment of a bundle are not part of the payload: they
follow from the distribution, which is.  That the payload determines its record is the injectivity
of the JSON (`Json.marshal_injective`) and of the fields in it.
-/

import Agentd.Bundles.Resolver

namespace Agentd
namespace Bundles

open Control Encoding

/-- Two bundles with the same content, the environments compared as maps. -/
structure SameContent (b c : Bundle) : Prop where
  agentID : b.agentID = c.agentID
  version : b.version = c.version
  platform : b.platform = c.platform
  mode : b.mode = c.mode
  materialized : b.materialized = c.materialized
  entrypoint : b.entrypoint = c.entrypoint
  env : ∀ k, b.env.lookup k = c.env.lookup k
  manifest : b.manifest = c.manifest

/-- What `Resolve` makes of the distribution that the bundle begins with. -/
inductive Resolved (b : Bundle) : Bundle → Prop
  | binary (spec : BinaryDistribution) (htype : b.manifest.type = .binary)
      (hspec : b.manifest.binary = some spec) : Resolved b (binaryBundle b spec)
  | npx (spec : PackageDistribution) (htype : b.manifest.type = .npx)
      (hspec : b.manifest.npx = some spec) : Resolved b (packageBundle ["npx", "-y"] b spec)
  | uvx (spec : PackageDistribution) (htype : b.manifest.type = .uvx)
      (hspec : b.manifest.uvx = some spec) : Resolved b (packageBundle ["uvx"] b spec)

/-- What `Resolve` begins with. -/
def start (rt : GoRuntime) (entry : AgentCatalogEntry) (platform : String) (now : Time) :
    Bundle where
  agentID := entry.id
  version := entry.version
  platform := platformOf rt platform
  manifest := entry.distribution
  createdAt := now

section

variable {rt : GoRuntime} {entry : AgentCatalogEntry} {platform : String} {now : Time}
  {b b' c : Bundle}

/-- **The bundle of a distribution** is one of `Resolved`. -/
theorem bundleOf_eq_ok (h : bundleOf b = some (.ok c)) : Resolved b c := by
  unfold bundleOf at h
  split at h
  · next htype =>
      obtain ⟨spec, hspec, heq⟩ := Option.map_eq_some_iff.1 h
      obtain rfl := Except.ok.inj heq
      exact .binary spec htype hspec
  · next htype =>
      obtain ⟨spec, hspec, heq⟩ := Option.map_eq_some_iff.1 h
      obtain rfl := Except.ok.inj heq
      exact .npx spec htype hspec
  · next htype =>
      obtain ⟨spec, hspec, heq⟩ := Option.map_eq_some_iff.1 h
      obtain rfl := Except.ok.inj heq
      exact .uvx spec htype hspec
  · cases h

/-- Where the platform is not excluded, `Resolve` goes by the distribution. -/
theorem resolve_of_not_excludes (h : ¬ excludes rt entry (platformOf rt platform) = true) :
    resolve rt entry platform now =
      (bundleOf (start rt entry platform now)).map fun res => res.map withDigest := by
  unfold resolve
  dsimp only
  rw [if_neg h]
  rfl

/-- **A resolved bundle** is the bundle of the distribution, with its digest. -/
theorem resolve_eq_ok (h : resolve rt entry platform now = some (.ok b)) :
    ∃ c, Resolved (start rt entry platform now) c ∧ b = withDigest c := by
  unfold resolve at h
  dsimp only at h
  split_ifs at h with hexcludes
  · cases Option.some.inj h
  · obtain ⟨res, hres, heq⟩ := Option.map_eq_some_iff.1 h
    cases res with
    | error e => cases heq
    | ok c => exact ⟨c, bundleOf_eq_ok hres, (Except.ok.inj heq).symm⟩

/-- **A digest has a fixed length**: the name of the hash function and sixty-four digits. -/
theorem digest_of_resolve (h : resolve rt entry platform now = some (.ok b)) :
    ∃ digits : List Char, b.digest = "sha256:" ++ String.ofList digits ∧ digits.length = 64 ∧
      ∀ c ∈ digits, c ∈ hexDigits := by
  obtain ⟨c, -, rfl⟩ := resolve_eq_ok h
  refine ⟨_, rfl, ?_, fun c hc => mem_hexBytes hc⟩
  rw [length_hexBytes, Sha256.length_sum256]

theorem Resolved.manifest (h : Resolved b c) : c.manifest = b.manifest := by
  cases h <;> rfl

theorem Resolved.names (h : Resolved b c) :
    c.agentID = b.agentID ∧ c.version = b.version ∧ c.platform = b.platform := by
  cases h <;> exact ⟨rfl, rfl, rfl⟩

theorem Resolved.known (h : Resolved b c) :
    c.manifest.type = .binary ∨ c.manifest.type = .npx ∨ c.manifest.type = .uvx := by
  cases h with
  | binary spec htype => exact Or.inl htype
  | npx spec htype => exact Or.inr (Or.inl htype)
  | uvx spec htype => exact Or.inr (Or.inr htype)

/-- The mode and the environment follow from the distribution. -/
theorem Resolved.determined (h : Resolved b c) {d : Bundle} (h' : Resolved b' d)
    (hmanifest : c.manifest = d.manifest) (hmaterialized : b.materialized = b'.materialized)
    (henv : b.env = b'.env) :
    c.mode = d.mode ∧ c.materialized = d.materialized ∧ c.env = d.env := by
  have hsame : b.manifest = b'.manifest := by
    rw [← h.manifest, hmanifest, h'.manifest]
  cases h with
  | binary spec htype hspec =>
      cases h' with
      | binary spec' htype' hspec' =>
          rw [hsame] at hspec
          obtain rfl := Option.mem_unique hspec hspec'
          exact ⟨rfl, rfl, rfl⟩
      | npx spec' htype' | uvx spec' htype' =>
          rw [hsame, htype'] at htype
          cases htype
  | npx spec htype =>
      cases h' with
      | npx spec' | uvx spec' => exact ⟨rfl, hmaterialized, henv⟩
      | binary spec' htype' =>
          rw [hsame, htype'] at htype
          cases htype
  | uvx spec htype =>
      cases h' with
      | npx spec' | uvx spec' => exact ⟨rfl, hmaterialized, henv⟩
      | binary spec' htype' =>
          rw [hsame, htype'] at htype
          cases htype

end

/-- The fields of a record. -/
def fieldsOf : Json → List (String × Json)
  | .obj fields => fields
  | .str _ | .arr _ => []

/-- The fields of a binary distribution. -/
theorem lookup_binaryJson (d : BinaryDistribution) :
    (fieldsOf (binaryJson d)).lookup "url" = some (.str d.url) ∧
      (fieldsOf (binaryJson d)).lookup "executable" = some (.str d.executable) ∧
      ((fieldsOf (binaryJson d)).lookup "args" =
        if d.args ≠ [] then some (.arr (d.args.map .str)) else none) ∧
      (fieldsOf (binaryJson d)).lookup "sha256" =
        if d.sha256 ≠ "" then some (.str d.sha256) else none := by
  simp [fieldsOf, binaryJson, List.lookup_cons, List.lookup_append]

/-- The fields of a package. -/
theorem lookup_packageJson (d : PackageDistribution) :
    (fieldsOf (packageJson d)).lookup "package" = some (.str d.package) ∧
      ((fieldsOf (packageJson d)).lookup "version" =
        if d.version ≠ "" then some (.str d.version) else none) ∧
      (fieldsOf (packageJson d)).lookup "args" =
        if d.args ≠ [] then some (.arr (d.args.map .str)) else none := by
  simp [fieldsOf, packageJson, List.lookup_cons, List.lookup_append]

/-- The fields of a distribution. -/
theorem lookup_distributionJson (d : DistributionSpec) :
    (fieldsOf (distributionJson d)).lookup "type" = some (.str (typeText d.type)) ∧
      (fieldsOf (distributionJson d)).lookup "binary" = d.binary.map binaryJson ∧
      (fieldsOf (distributionJson d)).lookup "npx" = d.npx.map packageJson ∧
      (fieldsOf (distributionJson d)).lookup "uvx" = d.uvx.map packageJson := by
  simp [fieldsOf, distributionJson, List.lookup_cons, List.lookup_append]

/-- **The JSON of a binary distribution determines it.** -/
theorem binaryJson_injective : Function.Injective binaryJson := by
  intro d e h
  obtain ⟨hurl, hexecutable, hargs, hsha⟩ := lookup_binaryJson d
  obtain ⟨hurl', hexecutable', hargs', hsha'⟩ := lookup_binaryJson e
  rw [h] at hurl hexecutable hargs hsha
  have hurl : d.url = e.url := Json.str.inj (Option.mem_unique hurl hurl')
  have hexecutable : d.executable = e.executable :=
    Json.str.inj (Option.mem_unique hexecutable hexecutable')
  have hargs : d.args = e.args := texts_of_omit (hargs.symm.trans hargs')
  have hsha : d.sha256 = e.sha256 := text_of_omit (hsha.symm.trans hsha')
  cases d
  cases e
  simp_all only

/-- **The JSON of a package determines it.** -/
theorem packageJson_injective : Function.Injective packageJson := by
  intro d e h
  obtain ⟨hpackage, hversion, hargs⟩ := lookup_packageJson d
  obtain ⟨hpackage', hversion', hargs'⟩ := lookup_packageJson e
  rw [h] at hpackage hversion hargs
  have hpackage : d.package = e.package :=
    Json.str.inj (Option.mem_unique hpackage hpackage')
  have hversion : d.version = e.version := text_of_omit (hversion.symm.trans hversion')
  have hargs : d.args = e.args := texts_of_omit (hargs.symm.trans hargs')
  cases d
  cases e
  simp_all only

theorem typeText_inj {t u : DistributionType} (ht : t = .binary ∨ t = .npx ∨ t = .uvx)
    (hu : u = .binary ∨ u = .npx ∨ u = .uvx) (h : typeText t = typeText u) : t = u := by
  rcases ht with rfl | rfl | rfl <;> rcases hu with rfl | rfl | rfl <;>
    first | rfl | (revert h; decide)

/-- **The JSON of a distribution of a known type determines it.** -/
theorem distributionJson_inj {d e : DistributionSpec}
    (hd : d.type = .binary ∨ d.type = .npx ∨ d.type = .uvx)
    (he : e.type = .binary ∨ e.type = .npx ∨ e.type = .uvx)
    (h : distributionJson d = distributionJson e) : d = e := by
  obtain ⟨htype, hbinary, hnpx, huvx⟩ := lookup_distributionJson d
  obtain ⟨htype', hbinary', hnpx', huvx'⟩ := lookup_distributionJson e
  rw [h] at htype hbinary hnpx huvx
  have htype : d.type = e.type :=
    typeText_inj hd he (Json.str.inj (Option.mem_unique htype htype'))
  have hbinary : d.binary = e.binary :=
    Option.map_injective binaryJson_injective (hbinary.symm.trans hbinary')
  have hnpx : d.npx = e.npx :=
    Option.map_injective packageJson_injective (hnpx.symm.trans hnpx')
  have huvx : d.uvx = e.uvx :=
    Option.map_injective packageJson_injective (huvx.symm.trans huvx')
  cases d
  cases e
  simp_all only

/-- **The payload determines** the agent, the platform, the entrypoint and the distribution, where
that has a known type. -/
theorem payload_inj {b c : Bundle}
    (hb : b.manifest.type = .binary ∨ b.manifest.type = .npx ∨ b.manifest.type = .uvx)
    (hc : c.manifest.type = .binary ∨ c.manifest.type = .npx ∨ c.manifest.type = .uvx)
    (h : payload b = payload c) :
    b.agentID = c.agentID ∧ b.version = c.version ∧ b.platform = c.platform ∧
      b.entrypoint = c.entrypoint ∧ b.manifest = c.manifest := by
  have hfields := Json.obj.inj h
  simp only [List.cons.injEq, Prod.mk.injEq, Json.str.injEq, Json.arr.injEq, true_and,
    and_true] at hfields
  obtain ⟨hid, hversion, hplatform, hentry, hmanifest⟩ := hfields
  exact ⟨hid, hversion, hplatform, map_str_injective hentry, distributionJson_inj hb hc hmanifest⟩

/-- The digests of two bundles are equal if their payloads have the same SHA-256. -/
theorem withDigest_digest_eq_iff {b c : Bundle} :
    (withDigest b).digest = (withDigest c).digest ↔
      Sha256.sum256 (payload b).marshal = Sha256.sum256 (payload c).marshal := by
  constructor
  · intro h
    have htext :
        ("sha256:" ++ String.ofList (hexBytes (Sha256.sum256 (payload b).marshal))).toList =
        ("sha256:" ++ String.ofList (hexBytes (Sha256.sum256 (payload c).marshal))).toList :=
      congrArg String.toList h
    simp only [String.toList_append, String.toList_ofList] at htext
    exact hexBytes_injective (List.append_cancel_left htext)
  · intro h
    show "sha256:" ++ String.ofList (hexBytes (Sha256.sum256 (payload b).marshal)) = _
    rw [h]
    rfl

/-- Bundles with the same content have the same payload. -/
theorem payload_congr {b c : Bundle} (hid : b.agentID = c.agentID)
    (hversion : b.version = c.version) (hplatform : b.platform = c.platform)
    (hentry : b.entrypoint = c.entrypoint) (hmanifest : b.manifest = c.manifest) :
    payload b = payload c := by
  rw [payload, hid, hversion, hplatform, hentry, hmanifest]
  rfl

theorem Resolved.entrypoint_eq {b b' c c' : Bundle} (h : Resolved b c) (h' : Resolved b' c')
    (hmanifest : b.manifest = b'.manifest) : c.entrypoint = c'.entrypoint := by
  cases h with
  | binary spec htype hspec =>
      rw [hmanifest] at htype hspec
      cases h' with
      | binary spec' htype' hspec' =>
          obtain rfl := Option.mem_unique hspec hspec'
          rfl
      | npx spec' htype' | uvx spec' htype' => cases htype.symm.trans htype'
  | npx spec htype hspec =>
      rw [hmanifest] at htype hspec
      cases h' with
      | npx spec' htype' hspec' =>
          obtain rfl := Option.mem_unique hspec hspec'
          rfl
      | binary spec' htype' | uvx spec' htype' => cases htype.symm.trans htype'
  | uvx spec htype hspec =>
      rw [hmanifest] at htype hspec
      cases h' with
      | uvx spec' htype' hspec' =>
          obtain rfl := Option.mem_unique hspec hspec'
          rfl
      | binary spec' htype' | npx spec' htype' => cases htype.symm.trans htype'

/-- Bundles of one agent, platform and distribution have the same payload. -/
theorem Resolved.payload_eq {b b' c c' : Bundle} (h : Resolved b c) (h' : Resolved b' c')
    (hid : b.agentID = b'.agentID) (hversion : b.version = b'.version)
    (hplatform : b.platform = b'.platform) (hmanifest : b.manifest = b'.manifest) :
    payload c = payload c' := by
  obtain ⟨hcid, hcversion, hcplatform⟩ := h.names
  obtain ⟨hcid', hcversion', hcplatform'⟩ := h'.names
  refine payload_congr ?_ ?_ ?_ (h.entrypoint_eq h' hmanifest) ?_
  · rw [hcid, hcid', hid]
  · rw [hcversion, hcversion', hversion]
  · rw [hcplatform, hcplatform', hplatform]
  · rw [h.manifest, h'.manifest, hmanifest]

/-- **Bundles are content-addressed.**  Where SHA-256 does not collide on the payloads of two
resolved bundles, their digests are equal if and only if they have the same content; and the
digests of entries with the same id, version and distribution are equal on the same platform,
whatever the time and the other fields of the entries. -/
theorem digest_eq_iff {rt rt' : GoRuntime} {e e' : AgentCatalogEntry} {p p' : String}
    {now now' : Time} {b b' : Bundle} (h : resolve rt e p now = some (.ok b))
    (h' : resolve rt' e' p' now' = some (.ok b'))
    (hfree : Sha256.sum256 (payload b).marshal = Sha256.sum256 (payload b').marshal →
      (payload b).marshal = (payload b').marshal) :
    (b.digest = b'.digest ↔ SameContent b b') ∧
      (e.id = e'.id → e.version = e'.version → e.distribution = e'.distribution →
        b.platform = b'.platform → b.digest = b'.digest) := by
  obtain ⟨c, hc, rfl⟩ := resolve_eq_ok h
  obtain ⟨c', hc', rfl⟩ := resolve_eq_ok h'
  refine ⟨⟨fun hdigest => ?_, fun hsame => ?_⟩, fun hid hversion hdistribution hplatform => ?_⟩
  · -- equal digests: equal bytes, equal payloads, equal fields
    have hbytes := hfree (withDigest_digest_eq_iff.1 hdigest)
    have hpayload : payload c = payload c' := Json.marshal_injective hbytes
    obtain ⟨hid, hversion, hplatform, hentry, hmanifest⟩ := payload_inj hc.known hc'.known hpayload
    obtain ⟨hmode, hmaterialized, henv⟩ := hc.determined hc' hmanifest rfl rfl
    exact ⟨hid, hversion, hplatform, hmode, hmaterialized, hentry,
      fun k => congrArg (fun env => env.lookup k) henv, hmanifest⟩
  · have hpayload : payload c = payload c' :=
      payload_congr hsame.agentID hsame.version hsame.platform hsame.entrypoint hsame.manifest
    exact withDigest_digest_eq_iff.2 (by rw [hpayload])
  · have hstart : (start rt e p now).platform = (start rt' e' p' now').platform := by
      rw [← hc.names.2.2, ← hc'.names.2.2]
      exact hplatform
    have hpayload := hc.payload_eq hc' hid hversion hstart hdistribution
    exact withDigest_digest_eq_iff.2 (by rw [hpayload])

/-- Linux on a sixty-four bit processor. -/
def linux : GoRuntime where
  goos := "linux"
  goarch := "amd64"
  toLower := Char.toLower

/-- An agent that is fetched as a package, in this version. -/
def packaged (version name : String) : AgentCatalogEntry where
  id := "echo"
  version := version
  name := name
  distribution := { type := .npx, npx := some { package := "echo", version := version } }

/-- Two entries of one version have the same digest under different names and at different times,
and another version has another digest. -/
theorem packaged_digests : ∃ b b' c,
    resolve linux (packaged "1.0.0" "Echo") "" 1 = some (.ok b) ∧
    resolve linux (packaged "1.0.0" "Reply") "" 2 = some (.ok b') ∧
    resolve linux (packaged "1.0.1" "Echo") "" 1 = some (.ok c) ∧
      b.digest = b'.digest ∧ b.digest ≠ c.digest := by
  refine ⟨_, _, _, rfl, rfl, rfl, ?_, ?_⟩
  · have hsame := @digest_eq_iff linux linux (packaged "1.0.0" "Echo") (packaged "1.0.0" "Reply") ""
      "" 1 2 _ _ rfl rfl fun _ => rfl
    exact hsame.2 rfl rfl rfl rfl
  · intro hdigest
    have hother := @digest_eq_iff linux linux (packaged "1.0.0" "Echo") (packaged "1.0.1" "Echo") ""
      "" 1 1 _ _ rfl rfl (by decide +kernel)
    have hversion := (hother.1.1 hdigest).version
    revert hversion
    decide

end Bundles
end Agentd
