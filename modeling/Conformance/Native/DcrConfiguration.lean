import Conformance.Native.PlanSnapshot
import Conformance.Native.UrlValidation

/-!
# Typed DCR configuration

`conformance/plan_configuration.py`: the canonical sections of a DCR plan are parsed into a typed
configuration, flattened to dotted runtime inputs, and parsed again when the run starts. With it
`PurePosixPath` of `pathlib` and `prepare_test_plan_for_run` of
`conformance/test_plan_validation.py`, which does the first two.

`validate_https_url` can raise a `ValueError` that is no `HttpsUrlValidationError`; it is not
caught here, so it is a second kind of failure beside `ConfigError`.
-/

namespace Conformance

/-! ## Paths -/

/-- `PurePosixPath`. -/
structure PosixPath where
  root : List Char
  parts : List (List Char)
  deriving DecidableEq, Repr

namespace PosixPath

/-- `posixpath.splitroot`: the root, and what follows it. -/
def splitroot : List Char → List Char × List Char
  | '/' :: '/' :: '/' :: rest => (['/'], '/' :: '/' :: rest)
  | '/' :: '/' :: rest => (['/', '/'], rest)
  | '/' :: rest => (['/'], rest)
  | rest => ([], rest)

/-- `Path(text)`. -/
def ofText (text : String) : PosixPath :=
  let (root, rest) := splitroot text.toList
  { root := root, parts := (rest.splitOn '/').filter fun part => part ≠ [] ∧ part ≠ ['.'] }

/-- `str(path)`. -/
def text (path : PosixPath) : String :=
  if path.root = [] ∧ path.parts = [] then "."
  else String.ofList (path.root ++ ['/'].intercalate path.parts)

/-- `path.is_absolute()`. -/
def isAbsolute (path : PosixPath) : Bool := path.root ≠ []

end PosixPath

namespace PlanConfiguration

open PlanConfig

/-! ## The typed configuration -/

/-- What the functions below raise: `ConfigError`, or what they do not catch. -/
inductive ConfigFailure where
  | configError (message : String)
  | other (error : PyError)
  deriving DecidableEq, Repr

/-- `ClientAuthMethod`. -/
inductive ClientAuthMethod where
  | tlsClientAuth
  | privateKeyJwt
  | clientSecretJwt
  | clientSecretBasic
  deriving DecidableEq, Repr

/-- The text of a client authentication method. -/
def ClientAuthMethod.text : ClientAuthMethod → String
  | .tlsClientAuth => "tls_client_auth"
  | .privateKeyJwt => "private_key_jwt"
  | .clientSecretJwt => "client_secret_jwt"
  | .clientSecretBasic => "client_secret_basic"

/-- `_CLIENT_AUTH_METHODS`. -/
def CLIENT_AUTH_METHODS : List ClientAuthMethod :=
  [.tlsClientAuth, .privateKeyJwt, .clientSecretJwt, .clientSecretBasic]

/-- The method of a text. -/
def clientAuthMethodOf (text : String) : Option ClientAuthMethod :=
  CLIENT_AUTH_METHODS.find? fun method => method.text = text

/-- `TlsConfig` of `conformance/model_bank_config.py`. -/
structure TlsConfig where
  caBundlePath : Option PosixPath
  clientCertificatePath : Option PosixPath
  clientPrivateKeyPath : Option PosixPath
  deriving DecidableEq, Repr

/-- `SharedSigningConfig`. -/
structure SharedSigningConfig where
  privateKeyPath : Option PosixPath
  keyId : Option String
  algorithm : Option String
  deriving DecidableEq, Repr

/-- `ReportingMetadataConfig`. -/
structure ReportingMetadataConfig where
  aspspName : Option String
  brandName : Option String
  environmentName : Option String
  deriving DecidableEq, Repr

/-- `SharedPlanConfiguration`. -/
structure SharedPlanConfiguration where
  discoveryUrl : Option String
  mtls : TlsConfig
  signing : SharedSigningConfig
  clientAuthMethod : Option ClientAuthMethod
  metadata : ReportingMetadataConfig
  deriving DecidableEq, Repr

/-- `DynamicClientRegistrationConfig`. -/
structure DynamicClientRegistrationConfig where
  softwareStatementAssertionPath : PosixPath
  registrationAudience : String
  registrationIssuerOverride : Option String
  redirectUrisOverride : List String
  signingCertificatePath : Option PosixPath
  transportCertificateSubjectDnOverride : Option String
  useNumericOidSubjectDn : Bool
  disableKeepAlive : Bool
  deriving DecidableEq, Repr

/-- `DcrPlanConfiguration`. -/
structure DcrPlanConfiguration where
  shared : SharedPlanConfiguration
  dynamicClientRegistration : DynamicClientRegistrationConfig
  deriving DecidableEq, Repr

/-! ## Reading fields -/

/-- `raise ConfigError(message)` when the condition holds. -/
def refuse (p : Prop) [Decidable p] (message : String) : Except ConfigFailure Unit :=
  Except.raiseIf p (.configError message)

/-- `_optional_string`. -/
def optionalString (config : JsonObject) (key location : String) :
    Except ConfigFailure (Option String) :=
  match getField config key with
  | .null => .ok none
  | .str text =>
    if strip text = "" then
      .error (.configError s!"{location}.{key} must be a non-empty string when present")
    else .ok (some (strip text))
  | _ => .error (.configError s!"{location}.{key} must be a non-empty string when present")

/-- `_optional_absolute_path`. -/
def optionalAbsolutePath (config : JsonObject) (key location : String) :
    Except ConfigFailure (Option PosixPath) := do
  let value ← optionalString config key location
  match value with
  | none => return none
  | some text => do
    let path := PosixPath.ofText text
    refuse (path.isAbsolute = false) s!"{location}.{key} must be an absolute path"
    return some path

/-- `_required_absolute_path`. -/
def requiredAbsolutePath (config : JsonObject) (key location : String) :
    Except ConfigFailure PosixPath := do
  let value ← optionalAbsolutePath config key location
  match value with
  | none => .error (.configError s!"{location}.{key} is required")
  | some path => return path

/-- `except HttpsUrlValidationError as error: raise ConfigError(str(error))`. -/
def urlChecked (checked : Except PyError Unit) : Except ConfigFailure Unit :=
  match checked with
  | .ok _ => .ok ()
  | .error (.httpsUrlValidationError message) => .error (.configError message)
  | .error error => .error (.other error)

section Parsing

variable (urls : UrlText)

/-- `_optional_https_url`. -/
def optionalHttpsUrl (config : JsonObject) (key location : String) :
    Except ConfigFailure (Option String) := do
  let value ← optionalString config key location
  match value with
  | none => return none
  | some url => do
    urlChecked (validateHttpsUrl urls url s!"{location}.{key}")
    return some url

/-- A non-empty array of non-empty strings, each without the white space around it. -/
def redirectTexts : Json → Option (List String)
  | .arr [] => none
  | .arr items => items.mapM fun
    | .str text => if strip text = "" then none else some (strip text)
    | _ => none
  | _ => none

/-- `_optional_redirect_uris`. -/
def optionalRedirectUris (config : JsonObject) : Except ConfigFailure (List String) :=
  match getField config "redirectUrisOverride" with
  | .null => .ok []
  | value =>
    match redirectTexts value with
    | none => .error (.configError
        "dynamicClientRegistration.redirectUrisOverride must be a non-empty string array")
    | some redirects => do
      redirects.forM fun redirect => urlChecked (validateOauthRedirectUri urls redirect
        "dynamicClientRegistration.redirectUrisOverride")
      return redirects

/-- `_optional_boolean`. -/
def optionalBoolean (config : JsonObject) (key location : String) (default : Bool) :
    Except ConfigFailure Bool :=
  match getField config key with
  | .null => .ok default
  | .bool value => .ok value
  | _ => .error (.configError s!"{location}.{key} must be a JSON boolean")

/-! ## The sections -/

/-- `mtls` of the security environment; an absent one has no fields. -/
def mtlsFields (securityEnvironment : JsonObject) : Except ConfigFailure JsonObject :=
  match getField securityEnvironment "mtls" with
  | .null => .ok []
  | .obj mtls => .ok mtls
  | _ => .error (.configError "securityEnvironment.mtls must be a JSON object")

/-- The check of `clientAuthMethod`. -/
def parseClientAuthMethod (value : Option String) :
    Except ConfigFailure (Option ClientAuthMethod) :=
  match value with
  | none => .ok none
  | some text =>
    match clientAuthMethodOf text with
    | some method => .ok (some method)
    | none => .error (.configError ("securityEnvironment.clientAuthMethod must be one of: " ++
        "client_secret_basic, client_secret_jwt, private_key_jwt, tls_client_auth"))

/-- `parse_shared_plan_configuration`. -/
def parseSharedPlanConfiguration (securityEnvironment metadata : JsonObject) :
    Except ConfigFailure SharedPlanConfiguration := do
  let discoveryUrl ← optionalHttpsUrl urls securityEnvironment "discoveryUrl" "securityEnvironment"
  let mtls ← mtlsFields securityEnvironment
  let certificatePath ← optionalAbsolutePath mtls "certificatePath" "securityEnvironment.mtls"
  let privateKeyPath ← optionalAbsolutePath mtls "privateKeyPath" "securityEnvironment.mtls"
  refuse (certificatePath.isNone ≠ privateKeyPath.isNone)
    "securityEnvironment.mtls.certificatePath and privateKeyPath must be supplied together"
  let methodValue ← optionalString securityEnvironment "clientAuthMethod" "securityEnvironment"
  let clientAuthMethod ← parseClientAuthMethod methodValue
  let caBundlePath ← optionalAbsolutePath mtls "caBundlePath" "securityEnvironment.mtls"
  let signingPrivateKeyPath ←
    optionalAbsolutePath securityEnvironment "signingPrivateKeyPath" "securityEnvironment"
  let keyId ← optionalString securityEnvironment "signingKeyId" "securityEnvironment"
  let algorithm ←
    optionalString securityEnvironment "clientAuthSigningAlgorithm" "securityEnvironment"
  let aspspName ← optionalString metadata "aspspName" "metadata"
  let brandName ← optionalString metadata "brandName" "metadata"
  let environmentName ← optionalString metadata "environmentName" "metadata"
  return { discoveryUrl
           mtls := ⟨caBundlePath, certificatePath, privateKeyPath⟩
           signing := ⟨signingPrivateKeyPath, keyId, algorithm⟩
           clientAuthMethod
           metadata := ⟨aspspName, brandName, environmentName⟩ }

/-- `re.fullmatch(r"[0-9A-Za-z]{1,18}", audience)`. -/
def isBase62 (audience : String) : Bool :=
  audience ≠ "" && audience.length ≤ 18 && audience.toList.all isAsciiAlphanumeric

/-- What `parse_dcr_plan_configuration` accepts as a subject DN. -/
def isSubjectDnText (subjectDn : String) : Bool :=
  subjectDn.length ≤ 512 && '=' ∈ subjectDn.toList && subjectDn.toList.all fun c => 32 ≤ c.toNat

/-- The shared fields that a DCR plan must have. -/
def checkRequiredShared (shared : SharedPlanConfiguration) : Except ConfigFailure Unit := do
  refuse (shared.discoveryUrl = none) "securityEnvironment.discoveryUrl is required for DCR"
  refuse (shared.mtls.clientCertificatePath = none ∨ shared.mtls.clientPrivateKeyPath = none)
    "securityEnvironment.mtls certificatePath and privateKeyPath are required for DCR"
  refuse (shared.signing.privateKeyPath = none)
    "securityEnvironment.signingPrivateKeyPath is required for DCR"
  refuse (shared.signing.keyId = none) "securityEnvironment.signingKeyId is required for DCR"
  refuse (shared.clientAuthMethod = none)
    "securityEnvironment.clientAuthMethod is required for DCR"

/-- The check of `registrationAudience`. -/
def parseAudience (audience : Option String) : Except ConfigFailure String :=
  match audience with
  | some audience =>
    if isBase62 audience then .ok audience
    else .error (.configError ("dynamicClientRegistration.registrationAudience must be a 1 to 18 " ++
      "character Base62 ASPSP identifier"))
  | none => .error (.configError ("dynamicClientRegistration.registrationAudience must be a 1 to " ++
      "18 character Base62 ASPSP identifier"))

/-- `parse_dcr_plan_configuration`. -/
def parseDcrPlanConfiguration (securityEnvironment dynamicClientRegistration metadata : JsonObject) :
    Except ConfigFailure DcrPlanConfiguration := do
  let shared ← parseSharedPlanConfiguration urls securityEnvironment metadata
  checkRequiredShared shared
  let location := "dynamicClientRegistration"
  let softwareStatementAssertionPath ←
    requiredAbsolutePath dynamicClientRegistration "softwareStatementAssertionPath" location
  let audienceValue ← optionalString dynamicClientRegistration "registrationAudience" location
  let registrationAudience ← parseAudience audienceValue
  let registrationIssuerOverride ←
    optionalString dynamicClientRegistration "registrationIssuerOverride" location
  let redirectUrisOverride ← optionalRedirectUris urls dynamicClientRegistration
  let subjectDn ←
    optionalString dynamicClientRegistration "transportCertificateSubjectDnOverride" location
  refuse (subjectDn.any (fun subjectDn => !isSubjectDnText subjectDn) = true)
    ("dynamicClientRegistration.transportCertificateSubjectDnOverride must be an RFC 2253-style " ++
      "subject DN no longer than 512 characters")
  let signingCertificatePath ←
    optionalAbsolutePath dynamicClientRegistration "signingCertificatePath" location
  let useNumericOidSubjectDn ←
    optionalBoolean dynamicClientRegistration "useNumericOidSubjectDn" location false
  let disableKeepAlive ← optionalBoolean dynamicClientRegistration "disableKeepAlive" location false
  return { shared
           dynamicClientRegistration :=
             { softwareStatementAssertionPath, registrationAudience, registrationIssuerOverride,
               redirectUrisOverride, signingCertificatePath,
               transportCertificateSubjectDnOverride := subjectDn, useNumericOidSubjectDn,
               disableKeepAlive } }

/-! ## The dotted runtime inputs -/

/-- `str(path)` of a path that may be missing. -/
def pathText (path : Option PosixPath) : Json := .str ((path.map PosixPath.text).getD "None")

/-- A text that may be missing. -/
def textOrNull (text : Option String) : Json := (text.map Json.str).getD .null

/-- A value under its key, if there is one. -/
def optionalEntry (key : String) (value : Option Json) : JsonObject :=
  (value.map fun value => (key, value)).toList

/-- `dcr_execution_runtime_inputs`. -/
def dcrExecutionRuntimeInputs (config : DcrPlanConfiguration) : JsonObject :=
  let shared := config.shared
  let dcr := config.dynamicClientRegistration
  [("securityEnvironment.discoveryUrl", textOrNull shared.discoveryUrl),
    ("securityEnvironment.mtls.certificatePath", pathText shared.mtls.clientCertificatePath),
    ("securityEnvironment.mtls.privateKeyPath", pathText shared.mtls.clientPrivateKeyPath),
    ("securityEnvironment.signingPrivateKeyPath", pathText shared.signing.privateKeyPath),
    ("securityEnvironment.signingKeyId", textOrNull shared.signing.keyId),
    ("securityEnvironment.clientAuthMethod",
      textOrNull (shared.clientAuthMethod.map ClientAuthMethod.text)),
    ("dynamicClientRegistration.softwareStatementAssertionPath",
      .str dcr.softwareStatementAssertionPath.text),
    ("dynamicClientRegistration.registrationAudience", .str dcr.registrationAudience),
    ("dynamicClientRegistration.useNumericOidSubjectDn", .bool dcr.useNumericOidSubjectDn),
    ("dynamicClientRegistration.disableKeepAlive", .bool dcr.disableKeepAlive)] ++
  optionalEntry "securityEnvironment.mtls.caBundlePath"
    (shared.mtls.caBundlePath.map fun path => .str path.text) ++
  optionalEntry "securityEnvironment.clientAuthSigningAlgorithm"
    (shared.signing.algorithm.map .str) ++
  optionalEntry "dynamicClientRegistration.registrationIssuerOverride"
    (dcr.registrationIssuerOverride.map .str) ++
  optionalEntry "dynamicClientRegistration.signingCertificatePath"
    (dcr.signingCertificatePath.map fun path => .str path.text) ++
  optionalEntry "dynamicClientRegistration.transportCertificateSubjectDnOverride"
    (dcr.transportCertificateSubjectDnOverride.map .str) ++
  (if dcr.redirectUrisOverride = [] then []
    else [("dynamicClientRegistration.redirectUrisOverride",
      .arr (dcr.redirectUrisOverride.map .str))])

/-- The sections that dotted keys are sorted into. -/
structure DottedSections where
  security : JsonObject := []
  mtls : JsonObject := []
  dcr : JsonObject := []

/-- What follows a prefix of a key. -/
def afterPrefix (start key : String) : Option String :=
  if start.toList.isPrefixOf key.toList then some (String.ofList (key.toList.drop start.length))
  else none

/-- One round of the loop of `parse_dcr_execution_runtime_inputs`. -/
def addDotted (sections : DottedSections) (entry : String × Json) : DottedSections :=
  match afterPrefix "securityEnvironment.mtls." entry.1 with
  | some key => { sections with mtls := setField sections.mtls key entry.2 }
  | none =>
    match afterPrefix "securityEnvironment." entry.1 with
    | some key => { sections with security := setField sections.security key entry.2 }
    | none =>
      match afterPrefix "dynamicClientRegistration." entry.1 with
      | some key => { sections with dcr := setField sections.dcr key entry.2 }
      | none => sections

/-- `parse_dcr_execution_runtime_inputs`. -/
def parseDcrExecutionRuntimeInputs (runtimeInputs : Dict String Json) :
    Except ConfigFailure DcrPlanConfiguration :=
  let sections := runtimeInputs.entries.foldl addDotted {}
  let security :=
    if sections.mtls = [] then sections.security
    else setField sections.security "mtls" (.obj sections.mtls)
  parseDcrPlanConfiguration urls security sections.dcr []

end Parsing

end PlanConfiguration

end Conformance
