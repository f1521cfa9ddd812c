import Conformance.ForStd.Machine
import Conformance.Native.ReleaseMetadata

/-!
# The beta alias

`scripts/update_beta_latest.py` and the publication step of the promotion workflow: an image that
was validated is pushed under its exact tags, and after the attestations the beta alias may be
moved to it. Promotions run one at a time. A registry is the tags with the digests of their
manifests; a call of `docker` fails when `DockerFaults` says so, or when its tag is missing.
-/

namespace Conformance.ReleaseMetadata

def MVP_BETA_TAG : String := MVP_RELEASE ++ "-beta-latest"

/-- The tags of the image repository. -/
abbrev Registry := Dict String String

/-- Which of the `docker` calls of an update fail. -/
structure DockerFaults where
  inspectVersion : Bool
  create : Bool
  inspectAlias : Bool
  deriving DecidableEq, Repr

/-- What `update_beta_latest` raises. -/
inductive AliasError where
  | release (error : ReleaseError)
  | calledProcessError
  deriving DecidableEq, Repr

/-- The object `update_beta_latest` returns. -/
structure AliasResult where
  updated : Bool
  notice : String
  deriving DecidableEq, Repr

/-- `_inspect_digest`. -/
def inspectDigest (registry : Registry) (fails : Bool) (tag : String) : Except AliasError String :=
  match fails, registry.get? tag with
  | false, some digest => .ok digest
  | _, _ => .error .calledProcessError

section Alias

variable {V : Type} (library : ReleaseLibrary V)

/-- `update_beta_latest` up to the call that moves the alias; `none` when it is not to be moved. -/
def checkBetaLatest (registry : Registry) (faults : DockerFaults)
    (rawVersion publishedDigest : String) : Except AliasError Bool := do
  let metadata ← (classifyRawVersion library rawVersion).mapError .release
  Except.raiseIf (metadata.channel ≠ .beta)
    (.release (.releaseMetadataError ("Only beta promotions may update " ++ MVP_BETA_TAG ++ ".")))
  Except.raiseIf (isDigest publishedDigest = false)
    (.release (.releaseMetadataError
      "Published manifest digest must be a lowercase SHA-256 digest."))
  Except.raiseIf (rawVersion ∉ registry.keys)
    (.release (.releaseMetadataError ("Exact beta version " ++ quoted library rawVersion ++
      " is not visible in Docker Hub.")))
  let eligible ← (shouldUpdateBetaLatest library metadata registry.keys).mapError .release
  if eligible then do
    let digest ← inspectDigest registry faults.inspectVersion rawVersion
    Except.raiseIf (digest ≠ publishedDigest)
      (.release (.releaseMetadataError
        "Exact beta version no longer matches the attested manifest digest."))
    Except.raiseIf (faults.create = true) .calledProcessError
    return true
  else return false

/-- `update_beta_latest`, with the registry it leaves. -/
def updateBetaLatest (registry : Registry) (faults : DockerFaults)
    (rawVersion publishedDigest : String) : Except AliasError AliasResult × Registry :=
  match checkBetaLatest library registry faults rawVersion publishedDigest with
  | .error error => (.error error, registry)
  | .ok false =>
    (.ok ⟨false, rawVersion ++ " is not eligible: " ++ MVP_BETA_TAG ++ " left unchanged " ++
      "(older backfill, another release series, or formal MVP release already published)."⟩,
      registry)
  | .ok true =>
    let registry := registry.set MVP_BETA_TAG publishedDigest
    let verified := do
      let digest ← inspectDigest registry faults.inspectAlias MVP_BETA_TAG
      Except.raiseIf (digest ≠ publishedDigest)
        (.release (.releaseMetadataError (MVP_BETA_TAG ++
          " does not match the attested multi-architecture manifest digest.")))
      return ⟨true, MVP_BETA_TAG ++ " now points to " ++ rawVersion ++ " at " ++ publishedDigest ++
        "."⟩
    (verified, registry)

/-- A tag the registry takes: `[A-Za-z0-9_.-]`, not empty. -/
def isTagName (tag : String) : Bool := tag ≠ "" && tag.toList.all isFeatureChar

/-- The publication step of the workflow: every expected tag of a promotion that
    `validate_promotion` let through is pushed with the digest of the image. -/
def pushTags (registry : Registry) (output : PromotionOutput) (digest : String) : Registry :=
  output.expectedTags.foldl (fun registry tag => registry.set tag digest) registry

/-! ## Promotions -/

/-- What a promotion does to the registry. -/
inductive PromotionEvent where
  | publish (args : PromotionArgs) (digest : String)
  | updateBetaLatest (faults : DockerFaults) (rawVersion publishedDigest : String)

/-- The file of published versions names the tags that are in the registry, in any order. -/
def PromotionArgs.ListsTags (args : PromotionArgs) (registry : Registry) : Prop :=
  (∀ tag ∈ args.publishedVersions, tag ∈ registry.keys) ∧
    ∀ tag ∈ registry.keys, tag ∈ args.publishedVersions

instance (args : PromotionArgs) (registry : Registry) : Decidable (args.ListsTags registry) :=
  inferInstanceAs (Decidable (_ ∧ _))

/-- The registry after an event, if the event can happen: a publication is validated against the
    tags there are, and the registry takes its tags. -/
def promotionStep (registry : Registry) : PromotionEvent → Option Registry
  | .publish args digest =>
    match validatePromotion library args with
    | .ok output =>
      if args.ListsTags registry ∧ output.expectedTags.all isTagName = true then
        some (pushTags registry output digest)
      else none
    | .error _ => none
  | .updateBetaLatest faults rawVersion publishedDigest =>
    some (updateBetaLatest library registry faults rawVersion publishedDigest).2

end Alias

end Conformance.ReleaseMetadata
