import Conformance.ForStd.Except
import Conformance.Native.JsonText

/-!
# Manifests

`parse_manifest` of `conformance/manifest.py`: from a decoded JSON object to a
validated manifest, step by step, with the checks in the order the source makes
them and the texts of its errors.

The parsers of a step's request, assertions, signing policies and PSU request
object, the placeholder and URL checks, and Python's `repr` are the fields of
`FieldParsers`. The functions here, and the theorems about them, take an
arbitrary one.
-/

namespace Conformance

/-- The parsers and checks below the level of a step, under the source's names. -/
structure FieldParsers where
  Request : Type
  Assertion : Type
  TokenEndpointAuthPolicy : Type
  RequestObject : Type
  Test : Type
  repr : Json → String
  parseV1Request : JsonObject → String → List String → Except PyError Request
  parseOptionalTokenEndpointAuthPolicy :
    JsonObject → Request → String → List String → Except PyError (Option TokenEndpointAuthPolicy)
  validateConstantManifestString : String → String → List String → Except PyError Unit
  requiredTokenIdFromAuthorizationHeader : Request → Option String
  parseAssertion : JsonObject → String → Except PyError Assertion
  validatePlaceholderSyntax : String → String → List String → Except PyError Unit
  validateHttpsUrl : String → String → Except PyError Unit
  validateOauthRedirectUri : String → String → Except PyError Unit
  parsePsuOptionalRequestObject :
    JsonObject → String → List String → Except PyError (Option RequestObject)
  parseTest : JsonObject → Nat → Except PyError Test

/-- Manifest schema versions accepted by the parser. -/
inductive ManifestSchemaVersion where
  | v0
  | v1
  deriving DecidableEq, Repr

/-- Whether a manifest declares full certification coverage. -/
inductive CertificationCoverage where
  | partialCoverage
  | complete
  deriving DecidableEq, Repr

/-- Scheduling phase of a step. -/
inductive StepPhase where
  | setup
  | execution
  deriving DecidableEq, Repr

/-- How the engine completes a PSU authorisation step. -/
inductive PsuAuthorizationMode where
  | manual
  | headless
  deriving DecidableEq, Repr

/-- A plain HTTP step. -/
structure ManifestStep (p : FieldParsers) where
  id : String
  name : String
  request : p.Request
  assertions : List p.Assertion
  warning : Option String
  mandatory : Bool
  optional : Bool
  group : String
  phase : StepPhase
  tokenEndpointAuthPolicy : Option p.TokenEndpointAuthPolicy
  requiredTokenId : Option String
  producesTokenId : Option String

/-- A PSU authorisation step. -/
structure PsuAuthorizationStep (p : FieldParsers) where
  id : String
  name : String
  mode : PsuAuthorizationMode
  authorizationEndpoint : String
  clientId : String
  redirectUri : String
  responseType : String
  scope : String
  state : Option String
  nonce : Option String
  requestObject : Option p.RequestObject
  mandatory : Bool
  optional : Bool
  group : String
  phase : StepPhase

/-- The two kinds of v1 step. -/
inductive V1Step (p : FieldParsers) where
  | http (step : ManifestStep p)
  | psuAuthorization (step : PsuAuthorizationStep p)

namespace V1Step

variable {p : FieldParsers}

/-- `step.id`. -/
def id : V1Step p → String
  | .http step => step.id
  | .psuAuthorization step => step.id

/-- `step.name`. -/
def name : V1Step p → String
  | .http step => step.name
  | .psuAuthorization step => step.name

/-- `step.mandatory`. -/
def mandatory : V1Step p → Bool
  | .http step => step.mandatory
  | .psuAuthorization step => step.mandatory

/-- `step.optional`. -/
def optional : V1Step p → Bool
  | .http step => step.optional
  | .psuAuthorization step => step.optional

/-- `step.group`. -/
def group : V1Step p → String
  | .http step => step.group
  | .psuAuthorization step => step.group

/-- `step.phase`. -/
def phase : V1Step p → StepPhase
  | .http step => step.phase
  | .psuAuthorization step => step.phase

end V1Step

/-- A validated manifest. -/
structure Manifest (p : FieldParsers) where
  schemaVersion : ManifestSchemaVersion
  name : String
  certificationCoverage : CertificationCoverage := .partialCoverage
  tests : List p.Test := []
  steps : List (V1Step p) := []

/-! ## Reading fields -/

/-- `_required_string`. -/
def requiredString (raw : JsonObject) (key location : String) : Except PyError String :=
  match raw.lookup key with
  | some (.str value) =>
    if strip value = "" then
      .error (.manifestError s!"{location}.{key} must be a non-empty string")
    else .ok (strip value)
  | _ => .error (.manifestError s!"{location}.{key} must be a non-empty string")

/-- `_required_object`. -/
def requiredObject (raw : JsonObject) (key location : String) : Except PyError JsonObject :=
  match raw.lookup key with
  | some (.obj fields) => .ok fields
  | _ => .error (.manifestError s!"{location}.{key} must be a JSON object")

/-- `_required_object_array`. -/
def requiredObjectArray (raw : JsonObject) (key location : String) :
    Except PyError (List JsonObject) :=
  match raw.lookup key with
  | some (.arr (item :: items)) =>
    (item :: items).zipIdx.mapM fun entry =>
      let index := entry.2
      match entry.1 with
      | .obj fields => .ok fields
      | _ => .error (.manifestError s!"{location}.{key}[{index}] must be a JSON object")
  | _ => .error (.manifestError s!"{location}.{key} must be a non-empty array")

/-- `_reject_unknown_keys`. -/
def rejectUnknownKeys (raw : JsonObject) (allowedKeys : List String) (location : String) :
    Except PyError Unit :=
  let unknownKeys := sorted ((raw.map Prod.fst).dedup.filter fun key => key ∉ allowedKeys)
  Except.raiseIf (unknownKeys ≠ [])
    (.manifestError (s!"Unknown {location} field(s): " ++ ", ".intercalate unknownKeys))

/-- A field that may be absent and must be a non-empty string when present
    (`_parse_optional_warning`, `_parse_psu_optional_string` and the first half of
    the optional token fields). -/
def optionalString (raw : JsonObject) (key location : String) : Except PyError (Option String) :=
  match raw.lookup key with
  | none => .ok none
  | some (.str value) =>
    if strip value = "" then
      .error (.manifestError s!"{location}.{key} must be a non-empty string when present")
    else .ok (some (strip value))
  | some _ => .error (.manifestError s!"{location}.{key} must be a non-empty string when present")

/-- A flag that defaults to `False` and must be a JSON boolean when present. -/
def optionalFlag (raw : JsonObject) (key location : String) : Except PyError Bool :=
  match raw.lookup key with
  | none => .ok false
  | some (.bool value) => .ok value
  | some _ => .error (.manifestError s!"{location}.{key} must be a JSON boolean when present")

/-- `_parse_optional_warning`. -/
def parseOptionalWarning (rawStep : JsonObject) (location : String) :
    Except PyError (Option String) :=
  optionalString rawStep "warning" location

/-- `_parse_optional_mandatory`. -/
def parseOptionalMandatory (rawStep : JsonObject) (location : String) : Except PyError Bool :=
  optionalFlag rawStep "mandatory" location

/-- `_parse_optional_optional`. -/
def parseOptionalOptional (rawStep : JsonObject) (location : String) : Except PyError Bool :=
  optionalFlag rawStep "optional" location

/-! ## Identifiers -/

/-- A character of `[A-Za-z0-9]`. -/
def isAsciiAlphanumeric (c : Char) : Bool :=
  ('A' ≤ c && c ≤ 'Z') || ('a' ≤ c && c ≤ 'z') || ('0' ≤ c && c ≤ '9')

/-- `[A-Za-z0-9][A-Za-z0-9_-]*`, matched against the whole of the characters. -/
def matchesStepIdCharClass : List Char → Bool
  | [] => false
  | c :: cs => isAsciiAlphanumeric c && cs.all fun d => isAsciiAlphanumeric d || d == '_' || d == '-'

/-- `_STEP_ID_PATTERN.match`: the `$` of the pattern also matches before a final
    line feed. -/
def stepIdPatternMatch (s : String) : Bool :=
  matchesStepIdCharClass s.toList ||
    (s.toList.getLast? == some '\n' && matchesStepIdCharClass s.toList.dropLast)

/-- `_validate_step_id`. -/
def validateStepId (stepId location : String) : Except PyError Unit :=
  Except.raiseIf (stepIdPatternMatch stepId = false)
    (.manifestError (s!"{location}.id '{stepId}' contains invalid characters " ++
      "(must match [A-Za-z0-9][A-Za-z0-9_-]*)"))

/-- `_validate_group_id`. -/
def validateGroupId (group location : String) : Except PyError Unit :=
  Except.raiseIf (stepIdPatternMatch group = false)
    (.manifestError (s!"{location}.group '{group}' contains invalid characters " ++
      "(must match [A-Za-z0-9][A-Za-z0-9_-]*)"))

/-- The id of a step: a stripped, well-formed string that no earlier step has. -/
def parseStepId (rawStep : JsonObject) (location : String) (seenIds : List String) :
    Except PyError String := do
  let stepId ← requiredString rawStep "id" location
  validateStepId stepId location
  Except.raiseIf (stepId ∈ seenIds) (.manifestError s!"{location}.id '{stepId}' is a duplicate")
  return stepId

/-- `_parse_optional_group`. -/
def parseOptionalGroup (rawStep : JsonObject) (location : String) : Except PyError String :=
  match rawStep.lookup "group" with
  | none => .ok "default"
  | some _ => do
    let group ← requiredString rawStep "group" location
    validateGroupId group location
    return group

/-- `_parse_optional_phase`. -/
def parseOptionalPhase (p : FieldParsers) (rawStep : JsonObject) (location : String) :
    Except PyError StepPhase :=
  match rawStep.lookup "phase" with
  | none => .ok .execution
  | some _ => do
    let phase ← requiredString rawStep "phase" location
    if phase = "setup" then return .setup
    if phase = "execution" then return .execution
    let got := p.repr (.str phase)
    throw (.manifestError s!"{location}.phase must be one of: setup, execution (got: {got})")

/-- `_parse_optional_token_id`. -/
def parseOptionalTokenId (p : FieldParsers) (rawStep : JsonObject) (key location : String)
    (seenIds : List String) : Except PyError (Option String) := do
  match ← optionalString rawStep key location with
  | none => return none
  | some tokenId =>
    p.validateConstantManifestString tokenId s!"{location}.{key}" seenIds
    Except.raiseIf (matchesStepIdCharClass tokenId.toList = false)
      (.manifestError (s!"{location}.{key} must match pattern '[A-Za-z0-9][A-Za-z0-9_-]*' " ++
        "(letters/digits, optional internal '_' or '-')"))
    return some tokenId

/-! ## HTTP steps -/

/-- The `requiredTokenId` of a step, given or read off its `Authorization` header. -/
def resolveRequiredTokenId (declared inferred : Option String) (location : String) :
    Except PyError (Option String) := do
  let requiredTokenId ← match declared, inferred with
    | none, _ => Except.ok inferred
    | some tokenId, none => .ok (some tokenId)
    | some tokenId, some inferredId =>
      if inferredId ≠ tokenId then
        .error (.manifestError (s!"{location}.requiredTokenId must match Authorization token " ++
          s!"placeholder id '{inferredId}'"))
      else .ok (some tokenId)
  -- a declared id without a header to use it in is refused
  match requiredTokenId, inferred with
  | some tokenId, none =>
    throw (.manifestError (s!"{location}.requiredTokenId requires Authorization header value " ++
      "'Bearer $\x7btokens." ++ tokenId ++ ".access_token\x7d'"))
  | _, _ => return requiredTokenId

/-- `_parse_v1_http_step`. -/
def parseV1HttpStep (p : FieldParsers) (rawStep : JsonObject) (index : Nat)
    (seenIds : List String) : Except PyError (ManifestStep p) := do
  let location := s!"steps[{index}]"
  rejectUnknownKeys rawStep
    ["kind", "id", "name", "request", "assertions", "warning", "mandatory", "optional", "group",
      "phase", "tokenEndpointAuthPolicy", "requiredTokenId", "producesTokenId"] location
  let stepId ← parseStepId rawStep location seenIds
  let stepName ← requiredString rawStep "name" location
  let rawRequest ← requiredObject rawStep "request" location
  let request ← p.parseV1Request rawRequest s!"{location}.request" seenIds
  let assertions ← requiredObjectArray rawStep "assertions" location
  let warning ← parseOptionalWarning rawStep location
  let mandatory ← parseOptionalMandatory rawStep location
  let optional ← parseOptionalOptional rawStep location
  let group ← parseOptionalGroup rawStep location
  let phase ← parseOptionalPhase p rawStep location
  let tokenEndpointAuthPolicy ←
    p.parseOptionalTokenEndpointAuthPolicy rawStep request location seenIds
  let declaredTokenId ← parseOptionalTokenId p rawStep "requiredTokenId" location seenIds
  let producesTokenId ← parseOptionalTokenId p rawStep "producesTokenId" location seenIds
  let requiredTokenId ← resolveRequiredTokenId declaredTokenId
    (p.requiredTokenIdFromAuthorizationHeader request) location
  Except.raiseIf (mandatory && optional)
    (.manifestError s!"{location}: 'mandatory' and 'optional' must not both be true")
  let parsedAssertions ← assertions.zipIdx.mapM fun entry =>
    let assertionIndex := entry.2
    p.parseAssertion entry.1 s!"{location}.assertions[{assertionIndex}]"
  return {
    id := stepId, name := stepName, request := request, assertions := parsedAssertions,
    warning := warning, mandatory := mandatory, optional := optional, group := group,
    phase := phase, tokenEndpointAuthPolicy := tokenEndpointAuthPolicy,
    requiredTokenId := requiredTokenId, producesTokenId := producesTokenId }

/-! ## PSU authorisation steps -/

/-- `_PLACEHOLDER_FIND_PATTERN.search`: some `$\x7b` is followed by a closing
    brace. -/
def containsPlaceholder : List Char → Bool
  | [] => false
  | '$' :: '{' :: rest => rest.contains '}' || containsPlaceholder ('{' :: rest)
  | _ :: rest => containsPlaceholder rest

/-- `except HttpsUrlValidationError as error: raise ManifestError(str(error))`. -/
def reraiseAsManifestError (check : Except PyError Unit) : Except PyError Unit :=
  match check with
  | .error (.httpsUrlValidationError message) => .error (.manifestError message)
  | check => check

/-- `_parse_psu_mode`. -/
def parsePsuMode (p : FieldParsers) (rawStep : JsonObject) (location : String) :
    Except PyError PsuAuthorizationMode := do
  let mode ← requiredString rawStep "mode" location
  if mode = "manual" then return .manual
  if mode = "headless" then return .headless
  let got := p.repr (.str mode)
  throw (.manifestError s!"{location}.mode must be one of: manual, headless (got: {got})")

/-- `_parse_psu_optional_string`. -/
def parsePsuOptionalString (rawStep : JsonObject) (key default location : String) :
    Except PyError String := do
  let value ← optionalString rawStep key location
  return value.getD default

/-- `_PSU_AUTH_MIN_STATE_LENGTH`. -/
def psuAuthMinStateLength : Nat := 32

/-- `_parse_psu_optional_token`. -/
def parsePsuOptionalToken (p : FieldParsers) (rawStep : JsonObject) (key location : String)
    (seenIds : List String) : Except PyError (Option String) := do
  match ← optionalString rawStep key location with
  | none => return none
  | some tokenValue =>
    p.validatePlaceholderSyntax tokenValue s!"{location}.{key}" seenIds
    -- the length of a placeholder's value is not known yet
    Except.raiseIf
      (containsPlaceholder tokenValue.toList = false ∧ tokenValue.length < psuAuthMinStateLength)
      (.manifestError (s!"{location}.{key} must be at least 32 characters " ++
        "(matches AuthSessionStore minimum caller-supplied entropy)"))
    return some tokenValue

/-- The checks on `authorizationEndpoint`. -/
def checkAuthorizationEndpoint (p : FieldParsers) (authorizationEndpoint location : String)
    (seenIds : List String) : Except PyError Unit := do
  p.validatePlaceholderSyntax authorizationEndpoint s!"{location}.authorizationEndpoint" seenIds
  if containsPlaceholder authorizationEndpoint.toList = false then
    reraiseAsManifestError
      (p.validateHttpsUrl authorizationEndpoint s!"{location}.authorizationEndpoint")

/-- The checks on `redirectUri`. -/
def checkRedirectUri (p : FieldParsers) (redirectUri location : String) (seenIds : List String) :
    Except PyError Unit :=
  if containsPlaceholder redirectUri.toList then do
    p.validatePlaceholderSyntax redirectUri s!"{location}.redirectUri" seenIds
    Except.raiseIf (redirectUri ≠ "$\x7bconfig.oauth.redirectUri\x7d")
      (.manifestError (s!"{location}.redirectUri may only use the config placeholder " ++
        "$\x7bconfig.oauth.redirectUri\x7d or a literal HTTPS URL"))
  else
    reraiseAsManifestError (p.validateOauthRedirectUri redirectUri s!"{location}.redirectUri")

/-- `_parse_v1_psu_authorization_step`. -/
def parseV1PsuAuthorizationStep (p : FieldParsers) (rawStep : JsonObject) (index : Nat)
    (seenIds : List String) : Except PyError (PsuAuthorizationStep p) := do
  let location := s!"steps[{index}]"
  rejectUnknownKeys rawStep
    ["kind", "id", "name", "mode", "authorizationEndpoint", "clientId", "redirectUri",
      "responseType", "scope", "state", "nonce", "requestObject", "mandatory", "optional", "group",
      "phase"] location
  let stepId ← parseStepId rawStep location seenIds
  let stepName ← requiredString rawStep "name" location
  let mode ← parsePsuMode p rawStep location
  let authorizationEndpoint ← requiredString rawStep "authorizationEndpoint" location
  checkAuthorizationEndpoint p authorizationEndpoint location seenIds
  let clientId ← requiredString rawStep "clientId" location
  p.validatePlaceholderSyntax clientId s!"{location}.clientId" seenIds
  let redirectUri ← requiredString rawStep "redirectUri" location
  checkRedirectUri p redirectUri location seenIds
  let responseType ← parsePsuOptionalString rawStep "responseType" "code id_token" location
  Except.raiseIf (containsPlaceholder responseType.toList)
    (.manifestError s!"{location}.responseType must not contain placeholders")
  let scope ← parsePsuOptionalString rawStep "scope" "openid" location
  Except.raiseIf (containsPlaceholder scope.toList)
    (.manifestError s!"{location}.scope must not contain placeholders")
  let state ← parsePsuOptionalToken p rawStep "state" location seenIds
  let nonce ← parsePsuOptionalToken p rawStep "nonce" location seenIds
  let requestObject ← p.parsePsuOptionalRequestObject rawStep location seenIds
  let mandatory ← parseOptionalMandatory rawStep location
  let optional ← parseOptionalOptional rawStep location
  let group ← parseOptionalGroup rawStep location
  let phase ← parseOptionalPhase p rawStep location
  Except.raiseIf (mandatory && optional)
    (.manifestError s!"{location}: 'mandatory' and 'optional' must not both be true")
  return {
    id := stepId, name := stepName, mode := mode, authorizationEndpoint := authorizationEndpoint,
    clientId := clientId, redirectUri := redirectUri, responseType := responseType,
    scope := scope, state := state, nonce := nonce, requestObject := requestObject,
    mandatory := mandatory, optional := optional, group := group, phase := phase }

/-! ## Manifests -/

/-- `_parse_v1_step`: dispatch on the optional `kind`. -/
def parseV1Step (p : FieldParsers) (rawStep : JsonObject) (index : Nat) (seenIds : List String) :
    Except PyError (V1Step p) :=
  match (rawStep.lookup "kind").getD (.str "http") with
  | .str kind =>
    if kind = "http" then do
      let step ← parseV1HttpStep p rawStep index seenIds
      return .http step
    else if kind = "psu-authorization" then do
      let step ← parseV1PsuAuthorizationStep p rawStep index seenIds
      return .psuAuthorization step
    else
      let got := p.repr (.str kind)
      .error (.manifestError
        s!"steps[{index}].kind must be one of: http, psu-authorization (got: {got})")
  | _ => .error (.manifestError s!"steps[{index}].kind must be a string when present")

/-- The loop of `_parse_v1_manifest` over the raw steps, with the ids seen so far. -/
def parseV1Steps (p : FieldParsers) (rawSteps : List JsonObject) :
    Except PyError (List String × List (V1Step p)) :=
  rawSteps.zipIdx.foldlM (fun acc entry => do
    let step ← parseV1Step p entry.1 entry.2 acc.1
    return (acc.1 ++ [step.id], acc.2 ++ [step])) ([], [])

/-- `_parse_certification_coverage`. -/
def parseCertificationCoverage (p : FieldParsers) (raw : JsonObject) (location : String) :
    Except PyError CertificationCoverage :=
  match raw.lookup "certificationCoverage" with
  | none => .ok .partialCoverage
  | some (.str "partial") => .ok .partialCoverage
  | some (.str "complete") => .ok .complete
  | some value => do
    let got ← reprText p.repr value
    throw (.manifestError
      s!"{location}.certificationCoverage must be one of: partial, complete (got: {got})")

/-- `_parse_v1_manifest`. -/
def parseV1Manifest (p : FieldParsers) (raw : JsonObject) : Except PyError (Manifest p) := do
  rejectUnknownKeys raw ["schemaVersion", "name", "certificationCoverage", "steps"] "manifest"
  let name ← requiredString raw "name" "manifest"
  let certificationCoverage ← parseCertificationCoverage p raw "manifest"
  let rawSteps ← requiredObjectArray raw "steps" "manifest"
  let parsed ← parseV1Steps p rawSteps
  return {
    schemaVersion := .v1, name := name, certificationCoverage := certificationCoverage,
    steps := parsed.2 }

/-- `_parse_v0_manifest`. -/
def parseV0Manifest (p : FieldParsers) (raw : JsonObject) : Except PyError (Manifest p) := do
  rejectUnknownKeys raw ["schemaVersion", "name", "tests"] "manifest"
  let name ← requiredString raw "name" "manifest"
  let rawTests ← requiredObjectArray raw "tests" "manifest"
  let tests ← rawTests.zipIdx.mapM fun entry => p.parseTest entry.1 entry.2
  return { schemaVersion := .v0, name := name, tests := tests }

/-- `parse_manifest`. -/
def parseManifest (p : FieldParsers) (raw : JsonObject) : Except PyError (Manifest p) := do
  let schemaVersion ← requiredString raw "schemaVersion" "manifest"
  if schemaVersion = "v0" then parseV0Manifest p raw
  else if schemaVersion = "v1" then parseV1Manifest p raw
  else throw (.manifestError "schemaVersion must be v0 or v1")

end Conformance
