import Conformance.ForStd.Except
import Conformance.Native.Python

/-!
# Release metadata

`scripts/release_metadata.py` and `main` of `scripts/validate_promotion.py`: the classification of
a raw version, the checks of a promotion manifest against what a workflow asks for, and the tags
that are published. The patterns are anchored by `$`, which also matches before a line feed at the
end. `packaging.version.Version` is a field of `ReleaseLibrary`; the rendering of the summary is
left out.
-/

namespace Conformance.ReleaseMetadata

/-- The exceptions of the modelled functions. -/
inductive ReleaseError where
  | releaseMetadataError (message : String)
  | keyError (key : String)
  | typeError (message : String)
  | attributeError (message : String)
  | valueError (message : String)
  deriving DecidableEq, Repr

/-- Whether `main` catches an exception. -/
def ReleaseError.isCaught : ReleaseError → Bool
  | .releaseMetadataError _ => true
  | .keyError _ => true
  | _ => false

/-- What `Version` raises: an `InvalidVersion`, or the `ValueError` of a number with more than
    4300 digits. -/
inductive VersionError where
  | invalidVersion (message : String)
  | valueError (message : String)

/-- `Version`, its `>=`, `repr` of a decoded value, `sorted` of a set of such values in a message
    (`none` when they cannot be compared), and the order in which a set of strings is iterated. -/
structure ReleaseLibrary (V : Type) where
  version : String → Except VersionError V
  ge : V → V → Bool
  repr : Json → String
  sortedText : List Json → Option String
  setOrder : List String → List String

inductive ReleaseChannel where
  | preview
  | beta
  | ga
  deriving DecidableEq, Repr

/-- `ReleaseChannel.value`. -/
def ReleaseChannel.value : ReleaseChannel → String
  | .preview => "preview"
  | .beta => "beta"
  | .ga => "ga"

def IMAGE_NAME : String := "docker.io/openbanking/conformance-suite-v2"

def MVP_RELEASE : String := "2.0.0"

/-! ## The patterns -/

/-- `\d`. -/
def isDecimalChar (c : Char) : Bool := (decimalDigit? c).isSome

/-- `[1-9]\d*`, with what follows. -/
def positivePart : List Char → Option (List Char × List Char)
  | [] => none
  | c :: rest =>
    if '1' ≤ c ∧ c ≤ '9' then
      some (c :: rest.takeWhile isDecimalChar, rest.dropWhile isDecimalChar)
    else none

/-- `(?:0|[1-9]\d*)`, with what follows. -/
def numericPart : List Char → Option (List Char × List Char)
  | '0' :: rest => some (['0'], rest)
  | cs => positivePart cs

/-- A literal text, with what follows. -/
def literalPart (text : List Char) (cs : List Char) : Option (List Char) :=
  if text.isPrefixOf cs then some (cs.drop text.length) else none

/-- The groups `major`, `minor` and `patch` of a match. -/
structure ReleaseParts where
  major : List Char
  minor : List Char
  patch : List Char
  deriving DecidableEq, Repr

/-- The part of the patterns before the suffix, with what follows. No part can give back a digit:
    what has to follow it is none. -/
def releaseParts (cs : List Char) : Option (ReleaseParts × List Char) := do
  let (major, cs) ← numericPart cs
  let cs ← literalPart ['.'] cs
  let (minor, cs) ← numericPart cs
  let cs ← literalPart ['.'] cs
  let (patch, cs) ← numericPart cs
  return (⟨major, minor, patch⟩, cs)

/-- Where `$` matches. -/
def atEnd (cs : List Char) : Bool := cs = [] || cs = ['\n']

/-- `_GA_PATTERN.match`. -/
def gaMatch (rawVersion : String) : Option ReleaseParts := do
  let (parts, cs) ← releaseParts rawVersion.toList
  if atEnd cs then some parts else none

/-- The pattern of a version with a suffix, which ends where `finished` says. -/
def suffixMatch (finished : List Char → Bool) (suffix : List Char) (rawVersion : String) :
    Option ReleaseParts := do
  let (parts, cs) ← releaseParts rawVersion.toList
  let cs ← literalPart suffix cs
  let (_, cs) ← positivePart cs
  if finished cs then some parts else none

/-- `_PREVIEW_PATTERN.match`. -/
def previewMatch (rawVersion : String) : Option ReleaseParts :=
  suffixMatch atEnd "-dev.".toList rawVersion

/-- `_BETA_PATTERN.match`. -/
def betaMatch (rawVersion : String) : Option ReleaseParts :=
  suffixMatch atEnd "-beta.".toList rawVersion

/-- `_BETA_PATTERN.fullmatch`. -/
def betaFullmatch (rawVersion : String) : Option ReleaseParts :=
  suffixMatch List.isEmpty "-beta.".toList rawVersion

/-- `[A-Za-z0-9._-]`. -/
def isFeatureChar (c : Char) : Bool :=
  ('A' ≤ c && c ≤ 'Z') || ('a' ≤ c && c ≤ 'z') || ('0' ≤ c && c ≤ '9') || c = '.' || c = '_' ||
    c = '-'

/-- `_PREVIEW_BRANCH_PATTERN.match`. -/
def previewBranchMatch (branch : String) : Bool :=
  match literalPart "preview/".toList branch.toList with
  | some name =>
    !(name.takeWhile isFeatureChar).isEmpty && atEnd (name.dropWhile isFeatureChar)
  | none => false

/-- `_DIGEST_PATTERN.fullmatch`. -/
def isDigest (text : String) : Bool :=
  match literalPart "sha256:".toList text.toList with
  | some digits => digits.length = 64 && digits.all fun c =>
      ('0' ≤ c && c ≤ '9') || ('a' ≤ c && c ≤ 'f')
  | none => false

/-! ## Classification -/

/-- `ReleaseMetadata`. -/
structure Metadata (V : Type) where
  rawVersion : String
  comparisonVersion : V
  channel : ReleaseChannel
  baseRelease : String

/-- `f"{match['major']}.{match['minor']}.{match['patch']}"`. -/
def ReleaseParts.base (parts : ReleaseParts) : String :=
  String.ofList (parts.major ++ '.' :: (parts.minor ++ '.' :: parts.patch))

section Release

variable {V : Type} (library : ReleaseLibrary V)

/-- `repr` of a string. -/
def quoted (text : String) : String := library.repr (.str text)

/-- The channel and the groups of the first pattern that matches. -/
def classifyMatch (rawVersion : String) : Option (ReleaseChannel × ReleaseParts) :=
  ((gaMatch rawVersion).map fun parts => (.ga, parts)).or
    (((previewMatch rawVersion).map fun parts => (.preview, parts)).or
      ((betaMatch rawVersion).map fun parts => (.beta, parts)))

/-- `_parse_comparable`. -/
def parseComparable (rawVersion : String) : Except ReleaseError V :=
  match library.version rawVersion with
  | .ok version => .ok version
  | .error (.invalidVersion error) => .error (.releaseMetadataError ("Raw version " ++
      quoted library rawVersion ++ " is not a valid version: " ++ error))
  | .error (.valueError message) => .error (.valueError message)

/-- `classify_raw_version`. -/
def classifyRawVersion (rawVersion : String) : Except ReleaseError (Metadata V) :=
  match classifyMatch rawVersion with
  | some (channel, parts) => do
    let comparisonVersion ← parseComparable library rawVersion
    return { rawVersion, comparisonVersion, channel, baseRelease := parts.base }
  | none => .error (.releaseMetadataError ("Raw version " ++ quoted library rawVersion ++
      " does not match an allowed publication format (GA 'X.Y.Z', beta 'X.Y.Z-beta.N', or " ++
      "preview 'X.Y.Z-dev.N')."))

/-- `validate_branch_compatibility`. -/
def validateBranchCompatibility (metadata : Metadata V) (branch : String) :
    Except ReleaseError Unit :=
  match metadata.channel with
  | .preview => Except.raiseIf (previewBranchMatch branch = false)
      (.releaseMetadataError ("Preview version " ++ quoted library metadata.rawVersion ++
        " must be published from a 'preview/<feature>' branch, not " ++ quoted library branch ++
        "."))
  | .beta =>
    let expectedBranch := "release/" ++ metadata.baseRelease
    Except.raiseIf (branch ≠ expectedBranch)
      (.releaseMetadataError ("Beta version " ++ quoted library metadata.rawVersion ++
        " must be published from " ++ quoted library expectedBranch ++ ", not " ++
        quoted library branch ++ "."))
  | .ga => Except.raiseIf (branch ≠ "main")
      (.releaseMetadataError ("GA version " ++ quoted library metadata.rawVersion ++
        " must be published from 'main', not " ++ quoted library branch ++ "."))

/-- `validate_release_tag`. -/
def validateReleaseTag (metadata : Metadata V) (tag : String) : Except ReleaseError Unit := do
  Except.raiseIf (metadata.channel ≠ .ga)
    (.releaseMetadataError "Only GA releases require a Git tag check.")
  let expectedTag := "v" ++ metadata.rawVersion
  Except.raiseIf (tag ≠ expectedTag)
    (.releaseMetadataError ("GA release tag must be exactly " ++ quoted library expectedTag ++
      ", got " ++ quoted library tag ++ "."))

/-- `require_not_already_published`. -/
def requireNotAlreadyPublished (rawVersion : String) (publishedVersions : List String) :
    Except ReleaseError Unit :=
  Except.raiseIf (rawVersion ∈ publishedVersions)
    (.releaseMetadataError ("Version " ++ quoted library rawVersion ++
      " has already been published and is immutable."))

/-- `publication_tags`. -/
def publicationTags (metadata : Metadata V) : List String :=
  if metadata.channel = .ga then [metadata.rawVersion, "latest"] else [metadata.rawVersion]

/-- The `all` of `should_update_beta_latest`, which stops at the first tag that is higher. -/
def noneHigher (metadata : Metadata V) : List String → Except ReleaseError Bool
  | [] => .ok true
  | tag :: rest =>
    if (betaFullmatch tag).isSome then do
      let published ← classifyRawVersion library tag
      if published.baseRelease = MVP_RELEASE ∧
          library.ge metadata.comparisonVersion published.comparisonVersion = false then .ok false
      else noneHigher metadata rest
    else noneHigher metadata rest

/-- `should_update_beta_latest`. -/
def shouldUpdateBetaLatest (metadata : Metadata V) (publishedTags : List String) :
    Except ReleaseError Bool :=
  if metadata.channel ≠ .beta ∨ metadata.baseRelease ≠ MVP_RELEASE ∨ MVP_RELEASE ∈ publishedTags
  then .ok false
  else noneHigher library metadata (library.setOrder publishedTags)

/-! ## The published versions -/

/-- The characters `str.splitlines` splits at. -/
def isLineBreak (c : Char) : Bool :=
  c.toNat ∈ [0x0a, 0x0b, 0x0c, 0x0d, 0x1c, 0x1d, 0x1e, 0x85, 0x2028, 0x2029]

/-- `str.splitlines`. -/
def splitLines : List Char → List (List Char)
  | [] => []
  | '\r' :: '\n' :: rest => [] :: splitLines rest
  | c :: rest =>
    if isLineBreak c then [] :: splitLines rest
    else match splitLines rest with
      | [] => [[c]]
      | line :: lines => (c :: line) :: lines

/-- The versions of the published versions file. -/
def publishedVersionsOf (text : String) : List String :=
  ((splitLines text.toList).map fun line => strip (String.ofList line)).filter (· ≠ "")

/-! ## The manifest -/

/-- The manifest that was read, and the other arguments of `main`. -/
structure PromotionArgs where
  manifest : JsonObject
  sourceSha : String
  branch : String
  channel : String
  tag : Option String
  publishedVersionsFile : Option String
  summaryFile : Bool
  environmentName : Option String

/-- The local `published_versions`. -/
def PromotionArgs.publishedVersions (args : PromotionArgs) : List String :=
  (args.publishedVersionsFile.map publishedVersionsOf).getD []

/-- `manifest[key]`. -/
def subscript (manifest : JsonObject) (key : String) : Except ReleaseError Json :=
  match manifest.lookup key with
  | some value => .ok value
  | none => .error (.keyError key)

/-- `frozenset(value)`. -/
def frozensetOf : Json → Except ReleaseError (List Json)
  | .obj fields => .ok (fields.map fun field => .str field.1)
  | .arr items =>
    if items.any fun item => item matches .arr _ | .obj _ then
      .error (.typeError "unhashable type")
    else .ok items
  | .str text => .ok (text.toList.map fun c => .str (String.ofList [c]))
  | _ => .error (.typeError "object is not iterable")

/-- `_REQUIRED_PLATFORMS`. -/
def REQUIRED_PLATFORMS : List Json := [.str "linux/amd64", .str "linux/arm64"]

/-- `platforms == _REQUIRED_PLATFORMS`. -/
def isRequiredPlatforms (platforms : List Json) : Bool :=
  platforms.all (fun platform => REQUIRED_PLATFORMS.any platform.pyEq) &&
    REQUIRED_PLATFORMS.all fun required => platforms.any required.pyEq

/-- The check of `source_sha`. -/
def checkSourceSha (args : PromotionArgs) : Except ReleaseError Unit := do
  let sourceSha ← subscript args.manifest "source_sha"
  Except.raiseIf (sourceSha.pyEq (.str args.sourceSha) = false)
    (.releaseMetadataError ("Manifest source_sha " ++ library.repr sourceSha ++
      " does not match requested " ++ quoted library args.sourceSha ++ "."))

/-- The check of the platforms. -/
def checkPlatforms (args : PromotionArgs) : Except ReleaseError Unit := do
  let platformDigests ← subscript args.manifest "platform_digests"
  let platforms ← frozensetOf platformDigests
  if isRequiredPlatforms platforms then .ok ()
  else match library.sortedText platforms with
    | some text => .error (.releaseMetadataError ("Manifest platform set " ++ text ++
        " must be exactly ['linux/amd64', 'linux/arm64']."))
    | none => .error (.typeError "'<' not supported")

/-- `classify_raw_version(manifest["raw_version"])`. -/
def classifyManifest (args : PromotionArgs) : Except ReleaseError (Metadata V) := do
  let rawVersion ← subscript args.manifest "raw_version"
  match rawVersion with
  | .str rawVersion => classifyRawVersion library rawVersion
  | _ => .error (.typeError "expected string or bytes-like object")

/-- `manifest.get("oci_labels", {}).get(label) != expected`. -/
def checkLabel (args : PromotionArgs) (label expected message : String) :
    Except ReleaseError Unit :=
  match (args.manifest.lookup "oci_labels").getD (.obj []) with
  | .obj labels =>
    Except.raiseIf (((labels.lookup label).getD .null).pyEq (.str expected) = false)
      (.releaseMetadataError message)
  | _ => .error (.attributeError "object has no attribute 'get'")

/-- `_DIGEST_PATTERN.fullmatch(digest)`. -/
def digestMatches : Json → Except ReleaseError Bool
  | .str digest => .ok (isDigest digest)
  | _ => .error (.typeError "expected string or bytes-like object")

/-- The check of the digests. -/
def checkDigests (args : PromotionArgs) : Except ReleaseError Unit := do
  let platformDigests ← subscript args.manifest "platform_digests"
  match platformDigests with
  | .obj fields => do
    let matched ← fields.mapM fun field => digestMatches field.2
    Except.raiseIf (matched.all id = false)
      (.releaseMetadataError "Manifest contains an invalid platform image digest.")
  | _ => .error (.attributeError "object has no attribute 'values'")

/-- The check of the tag of a GA release. -/
def checkTag (args : PromotionArgs) (metadata : Metadata V) : Except ReleaseError Unit :=
  if metadata.channel = .ga then
    match args.tag with
    | none => .error (.releaseMetadataError "GA promotions require --tag <vX.Y.Z>.")
    | some tag => validateReleaseTag library metadata tag
  else .ok ()

/-- What `main` prints. -/
structure PromotionOutput where
  rawVersion : Json
  channel : String
  imageName : Json
  platformDigests : Json
  expectedTags : List String
  updateBetaLatest : Bool

/-- The body of the `try` of `main`, and what is printed after it. -/
def validatePromotion (args : PromotionArgs) : Except ReleaseError PromotionOutput := do
  checkSourceSha library args
  checkPlatforms library args
  let metadata ← classifyManifest library args
  validateBranchCompatibility library metadata args.branch
  Except.raiseIf (metadata.channel.value ≠ args.channel)
    (.releaseMetadataError ("Manifest version belongs to channel " ++
      quoted library metadata.channel.value ++ ", not requested " ++
      quoted library args.channel ++ "."))
  let imageName ← subscript args.manifest "image_name"
  Except.raiseIf (imageName.pyEq (.str IMAGE_NAME) = false)
    (.releaseMetadataError ("Manifest image_name must be exactly " ++
      quoted library IMAGE_NAME ++ "."))
  checkLabel args "org.opencontainers.image.revision" args.sourceSha
    "Manifest revision label does not match the requested source SHA."
  checkLabel args "org.opencontainers.image.version" metadata.rawVersion
    "Manifest version label does not match its raw release version."
  checkDigests args
  checkTag library args metadata
  requireNotAlreadyPublished library metadata.rawVersion args.publishedVersions
  let updateBetaLatest ← shouldUpdateBetaLatest library metadata args.publishedVersions
  Except.raiseIf (args.summaryFile ∧ args.environmentName.getD "" = "")
    (.releaseMetadataError "--environment-name is required with --summary-file.")
  let rawVersion ← subscript args.manifest "raw_version"
  let platformDigests ← subscript args.manifest "platform_digests"
  return { rawVersion, channel := metadata.channel.value, imageName, platformDigests,
           expectedTags := publicationTags metadata, updateBetaLatest }

/-- `main`. -/
def main (args : PromotionArgs) : Except ReleaseError Nat :=
  match validatePromotion library args with
  | .ok _ => .ok 0
  | .error error => if error.isCaught then .ok 1 else .error error

end Release

end Conformance.ReleaseMetadata
