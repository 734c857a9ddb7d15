/-
# Resolving bundles

`bundle/resolver.go`: `Resolver.Resolve`, `normalizePlatform` and `packageRef`.  The distribution
of an agent becomes an entrypoint and an environment, and the digest of the bundle is the SHA-256
of a JSON record of the agent, the platform, the entrypoint and the distribution.

The payload of a distribution is a pointer, and `Resolve` follows the one that the type names
without a check; where it is nil there is no result.  What is read of the machine and of the
Go library is an input (`GoRuntime`).
-/

import Agentd.Control.Types
import Agentd.Encoding.Json

namespace Agentd
namespace Bundles

open Control Encoding

/-- `runtime.GOOS`, `runtime.GOARCH` and `unicode.ToLower`. -/
structure GoRuntime where
  goos : String
  goarch : String
  toLower : Char → Char

/-- `normalizePlatform`. -/
def normalizePlatform (rt : GoRuntime) (platform : String) : String :=
  String.ofList ((platform.toList.map rt.toLower).map fun c =>
    if c = '/' || c = '_' then '-' else c)

/-- `packageRef`. -/
def packageRef (pkg version : String) : String :=
  if version = "" then pkg else pkg ++ "@" ++ version

/-- `string(type)`. -/
def typeText : DistributionType → String
  | .binary => "binary"
  | .npx => "npx"
  | .uvx => "uvx"
  | .other text => text

/-- The JSON of a `BinaryDistribution`. -/
def binaryJson (d : BinaryDistribution) : Json :=
  .obj ([("url", .str d.url), ("executable", .str d.executable)] ++
    (omitTexts "args" d.args ++ omitText "sha256" d.sha256))

/-- The JSON of a `PackageDistribution`. -/
def packageJson (d : PackageDistribution) : Json :=
  .obj ([("package", .str d.package)] ++ (omitText "version" d.version ++ omitTexts "args" d.args))

/-- The JSON of a `DistributionSpec`. -/
def distributionJson (d : DistributionSpec) : Json :=
  .obj ([("type", .str (typeText d.type))] ++
    (omitNil "binary" (d.binary.map binaryJson) ++
      (omitNil "npx" (d.npx.map packageJson) ++ omitNil "uvx" (d.uvx.map packageJson))))

/-- The record whose JSON is hashed. -/
def payload (b : Bundle) : Json :=
  .obj
    [("agent_id", .str b.agentID), ("version", .str b.version), ("platform", .str b.platform),
      ("entrypoint", .arr (b.entrypoint.map .str)), ("manifest", distributionJson b.manifest)]

/-- The bundle with its digest. -/
def withDigest (b : Bundle) : Bundle :=
  { b with digest := "sha256:" ++ String.ofList (hexBytes (Sha256.sum256 (payload b).marshal)) }

/-- The bundle of a binary distribution. -/
def binaryBundle (b : Bundle) (spec : BinaryDistribution) : Bundle :=
  let env : StringMap := (∅ : StringMap).insert "AGENTD_BINARY_URL" spec.url
  { b with
    mode := .materialized
    materialized := true
    entrypoint := spec.executable :: spec.args
    env := if spec.sha256 ≠ "" then env.insert "AGENTD_BINARY_SHA256" spec.sha256 else env }

/-- The bundle of a package that a runner fetches: `command` begins its entrypoint. -/
def packageBundle (command : List String) (b : Bundle) (spec : PackageDistribution) : Bundle :=
  { b with
    mode := .lazy
    entrypoint := command ++ packageRef spec.package spec.version :: spec.args }

/-- The bundle of the distribution: an error for a type that is not known, and no result where
the payload of the type is missing. -/
def bundleOf (b : Bundle) : Option (Except Err Bundle) :=
  match b.manifest.type with
  | .binary => b.manifest.binary.map fun spec => .ok (binaryBundle b spec)
  | .npx => b.manifest.npx.map fun spec => .ok (packageBundle ["npx", "-y"] b spec)
  | .uvx => b.manifest.uvx.map fun spec => .ok (packageBundle ["uvx"] b spec)
  | .other text => some (.error (.other ("unsupported bundle: " ++ text)))

/-- The platform that is asked for, or that of the machine. -/
def platformOf (rt : GoRuntime) (platform : String) : String :=
  if platform = "" then normalizePlatform rt (rt.goos ++ "-" ++ rt.goarch) else platform

/-- The entry names platforms, and this is none of them. -/
def excludes (rt : GoRuntime) (entry : AgentCatalogEntry) (platform : String) : Bool :=
  entry.platforms ≠ [] && !(entry.platforms.any fun p => normalizePlatform rt p = platform)

/-- `Resolver.Resolve`.  `json.Marshal` has no error for such a record. -/
def resolve (rt : GoRuntime) (entry : AgentCatalogEntry) (platform : String) (now : Time) :
    Option (Except Err Bundle) :=
  let platform := platformOf rt platform
  if excludes rt entry platform then
    some (.error (.other
      ("unsupported bundle: platform " ++ platform ++ " for agent " ++ entry.id)))
  else
    (bundleOf
      { agentID := entry.id
        version := entry.version
        platform
        manifest := entry.distribution
        createdAt := now }).map fun res => res.map withDigest

end Bundles
end Agentd
