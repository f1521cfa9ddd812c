import Conformance.ForStd.Effect
import Conformance.Native.DcrConfiguration
import Conformance.Native.DcrExecution
import Conformance.Native.ResponseSignature

/-!
# The operations of a DCR run

The rest of `conformance/dcr_execution.py`: discovery, the registration JOSE, the requests of a
scenario and the checks on their answers. `dcrOperations` puts them together as the operations
that the loops of `DcrCatalogueExecutionAdapter` run.

The bank, the clock, the files and the JOSE library are a `DcrEnvironment`. An operation keeps
its changes of the state when it raises, so it is an `Effect`.
-/

namespace Conformance.DcrExecution

open PlanConfiguration PlanConfig

/-! ## Data -/

/-- `DcrDiscoveryMetadata`. -/
structure DcrDiscoveryMetadata where
  issuer : String
  registrationEndpoint : String
  tokenEndpoint : String
  jwksUri : String
  tokenAuthMethods : List String
  tokenAuthSigningAlgorithms : List String
  jwks : JsonObject

/-- `DcrScenarioState`. -/
structure DcrScenarioState where
  signedRegistrationJose : Option String := none
  registrationClaims : Option JsonObject := none
  clientId : Option String := none
  clientSecret : Option String := none
  registrationAccessToken : Option String := none
  clientCredentialsAccessToken : Option String := none
  registrationResponse : Option JsonObject := none
  tokenResponse : Option JsonObject := none
  managementUrl : Option String := none
  lastResponse : Option JsonHttpResponse := none
  deleted : Bool := false

/-- What is handed to `send_json`. -/
structure DcrRequest where
  method : HttpMethod
  url : String
  headers : List (String × String) := []
  formBody : Option (List (String × String)) := none
  rawBody : Option String := none
  deriving DecidableEq, Repr

/-- A request and what `send_json` returned, if it did. -/
structure DcrExchange where
  request : DcrRequest
  response : Option JsonHttpResponse

/-- What `client.request` does. Another exception than a `RequestError` ends the run with no
    result at all, and is left out. -/
inductive DcrAnswer where
  | requestError (message : String)
  | response (url : String) (statusCode : Int) (headers : List (String × String))
      (body : Option Json)

/-- The answer, as `send_json` reads it. -/
def DcrAnswer.toClientAnswer : DcrAnswer → ClientAnswer
  | .requestError message => .requestError message
  | .response url statusCode headers body => .response url statusCode headers body

/-- What the adapter uses outside the repository: the client and what it reaches, the clock in
    microseconds (`none` without a time zone), the files and `joserfc`. -/
structure DcrEnvironment where
  Outside : Type
  Key : Type
  urls : UrlText
  lower : String → String
  pyStr : Json → String
  request : DcrRequest → Outside → DcrAnswer × Outside
  clock : Outside → Option Int × Outside
  jwtIdFactory : Outside → String × Outside
  readText : PosixPath → Outside → Attempt String × Outside
  loadRsaKey : PosixPath → Outside → Attempt Key × Outside
  certificateSubject : PosixPath → Bool → Outside → Attempt String × Outside
  importOctKey : String → Except PyError Key
  encode : JsonObject → JsonObject → Key → String → Except PyError String
  importKey : JsonObject → Except PyError Unit
  jsonLoads : List UInt8 → Except PyError Json

variable (environment : DcrEnvironment)

/-- What outlives a scenario: the outside, the caches of the adapter, its log, and the exchanges
    so far. -/
structure DcrWorld where
  outside : environment.Outside
  discovery : Option DcrDiscoveryMetadata := none
  signingKey : Option environment.Key := none
  log : List ExecutionEvent := []
  exchanges : List DcrExchange := []

/-- An operation of the adapter. -/
abbrev DcrEffect (α : Type) := Effect PyError (DcrWorld environment × DcrScenarioState) α

/-! ## Reading fields -/

/-- `raise DcrExecutionError(message)`. -/
def dcrError {α : Type} (message : String) : Except PyError α := .error (.dcrExecutionError message)

/-- `raise DcrExecutionError(message)` when the condition holds. -/
def refuse (p : Prop) [Decidable p] (message : String) : Except PyError Unit :=
  Except.raiseIf p (.dcrExecutionError message)

/-- A non-empty string. -/
def nonEmptyText? : Json → Option String
  | .str text => if text = "" then none else some text
  | _ => none

/-- The items of an array of non-empty strings. -/
def nonEmptyTexts? : Json → Option (List String)
  | .arr items => items.mapM nonEmptyText?
  | _ => none

/-- The value, or a `DcrExecutionError`. -/
def orError {α : Type} (value : Option α) (message : String) : Except PyError α :=
  value.elim (dcrError message) .ok

/-- `_required_string`. -/
def requiredString (body : JsonObject) (key location : String) : Except PyError String :=
  orError (nonEmptyText? (getField body key)) s!"{location}.{key} must be a non-empty string"

/-- `_optional_string`. -/
def optionalString (body : JsonObject) (key location : String) : Except PyError (Option String) :=
  (body.lookup key).elim (.ok none) fun value => do
    let text ← orError (nonEmptyText? value) s!"{location}.{key} must be a non-empty string"
    return some text

/-- `_required_string_array`. -/
def requiredStringArray (body : JsonObject) (key location : String) :
    Except PyError (List String) :=
  orError ((nonEmptyTexts? (getField body key)).filter (· ≠ []))
    s!"{location}.{key} must be a non-empty string array"

/-- `_optional_string_array`. -/
def optionalStringArray (body : JsonObject) (key location : String) :
    Except PyError (List String) :=
  (body.lookup key).elim (.ok []) fun value =>
    orError (nonEmptyTexts? value) s!"{location}.{key} must be a string array"

/-- `_required_jose_algorithm`. -/
def requiredJoseAlgorithm (body : JsonObject) (key : String) : Except PyError String := do
  let algorithm ← requiredString body key "registration response"
  refuse (algorithm.length > 5 ∨
      (algorithm.toList.all fun c => isAsciiAlphanumeric c || c == '-') = false)
    s!"Registration response {key} must be a valid 1 to 5 character JOSE algorithm"
  return algorithm

/-- `except HttpsUrlValidationError as error: raise DcrExecutionError(str(error))`. -/
def urlError (checked : Except PyError Unit) : Except PyError Unit :=
  match checked with
  | .error (.httpsUrlValidationError message) => dcrError message
  | checked => checked

/-- `_validated_endpoint`. -/
def validatedEndpoint (urls : UrlText) (body : JsonObject) (key location : String) :
    Except PyError String := do
  let value ← requiredString body key location
  urlError (validateHttpsUrl urls value s!"{location}.{key}")
  let url ← urlsplit urls value
  refuse (url.fragment ≠ []) s!"{location}.{key} must not include a URL fragment"
  return value

/-- `_required_state`. -/
def requiredState (value : Option String) (name : String) : Except PyError String :=
  orError (value.filter (· ≠ "")) s!"DCR scenario state {name} is unavailable"

/-- `_required_state_allow_empty`. -/
def requiredStateAllowEmpty (value : Option String) (name : String) : Except PyError String :=
  orError value s!"DCR scenario state {name} is unavailable"

/-- `_required_response`. -/
def requiredResponse (state : DcrScenarioState) : Except PyError JsonHttpResponse :=
  orError state.lastResponse "DCR scenario has no response for this assertion"

/-- `except (JoseError, TypeError, ValueError)`; a `DcrExecutionError` is a `ValueError`. -/
def joseMessage (message : String) : PyError → PyError
  | .joseError _ => .dcrExecutionError message
  | .typeError _ => .dcrExecutionError message
  | .valueError _ => .dcrExecutionError message
  | .dcrExecutionError _ => .dcrExecutionError message
  | error => error

/-- `except (ValueError, ...)` around `json.loads`. -/
def loadsMessage (message : String) : PyError → PyError
  | .valueError _ => .dcrExecutionError message
  | error => error

/-- An `except` clause around a call. -/
def catchAttempt {α : Type} (attempt : Attempt α) (message : String) : Except PyError α :=
  match attempt with
  | .value value => .ok value
  | .caught _ => dcrError message
  | .raised error => .error error

/-! ## Subject names -/

/-- `(?:(?i:CN)|2\.5\.4\.3)=[^,]+`, on a text without a comma. -/
def isCommonNamePart (part : List Char) : Bool :=
  let (name, value) := partitionAt '=' part
  (name.map Char.toLower == "cn".toList || name == "2.5.4.3".toList) && '=' ∈ part && value ≠ []

/-- `[^,\s]+=[^,]+`, on a text without a comma. -/
def isNamePart (part : List Char) : Bool :=
  (List.range part.length).any fun i =>
    0 < i && part[i]? == some '=' && (part.take i).all (fun c => !isSpace c) && i + 1 < part.length

/-- `_DCR_DN_PATTERN.fullmatch(value)`. -/
def matchesDnPattern (value : List Char) : Bool :=
  match value.splitOn ',' with
  | [] => false
  | first :: rest => isCommonNamePart first && rest.all isNamePart

/-- `re.split(r"(?<!\\),", value)`, with the characters since the last cut in reverse. -/
def splitComponents (current : List Char) : List Char → List (List Char)
  | [] => [current.reverse]
  | c :: rest =>
    if c = ',' ∧ current.head? ≠ some '\\' then current.reverse :: splitComponents [] rest
    else splitComponents (c :: current) rest

/-- The checks of one component of a subject name. -/
def isComponent (component : List Char) : Bool :=
  let (name, value) := partitionAt '=' component
  '=' ∈ component && strip (String.ofList name) ≠ "" && value ≠ [] && value.getLast? ≠ some '\\'

/-- `validate_dcr_subject_dn`. -/
def validateDcrSubjectDn (value : String) : Except PyError Unit := do
  refuse (value = "" ∨ value.length > 512 ∨
      (value.toList.any fun c => c.toNat < 32 || c.toNat == 127) = true)
    "DCR tls_client_auth_subject_dn must contain 1 to 512 printable characters"
  refuse (matchesDnPattern value.toList = false)
    "DCR tls_client_auth_subject_dn does not match the required DN pattern"
  refuse ((splitComponents [] value.toList).all isComponent = false)
    "DCR tls_client_auth_subject_dn is not valid RFC 2253 syntax"

/-! ## Tokens and keys -/

/-- `decode_compact_jwt_claims`. -/
def decodeCompactJwtClaims (token : String) : Except PyError JsonObject := do
  let parts := token.toList.splitOn '.'
  let problem := "Software statement assertion payload must be a JSON object"
  refuse (parts.length ≠ 3 ∨ [] ∈ parts)
    "Software statement assertion must be a compact three-part JWT"
  let decoded ← orError (base64urlDecode (parts.getD 1 [])) problem
  let claims ← (environment.jsonLoads decoded).mapError (loadsMessage problem)
  match claims with
  | .obj fields => return fields
  | _ => dcrError problem

/-- The members of a private key. -/
def privateMembers : List String := ["d", "p", "q", "dp", "dq", "qi", "oth", "k"]

/-- A string or an array of strings. -/
def isKeyMember : Json → Bool
  | .str _ => true
  | .arr items => items.all fun
    | .str _ => true
    | _ => false
  | _ => false

/-- `key_data.get("is_private") in {None, False}`; an array or an object is no member of a set. -/
def isPrivateFlag : Json → Except PyError Bool
  | .arr _ => .error (.typeError "unhashable type: 'list'")
  | .obj _ => .error (.typeError "unhashable type: 'dict'")
  | value => .ok (!(value.pyEq .null || value.pyEq (.bool false)))

/-- `use` as `joserfc` is given it. -/
def dropForeignUse (key : JsonObject) : Except PyError JsonObject :=
  match getField key "use" with
  | .arr _ => .error (.typeError "unhashable type: 'list'")
  | .str "sig" => .ok key
  | .str "enc" => .ok key
  | _ => .ok (eraseField key "use")

/-- One key of `_validate_jwks`. -/
def validateJwk (entry : Json × Nat) : Except PyError Unit :=
  match entry.1 with
  | .obj key => do
    refuse (privateMembers.any (fun name => (key.lookup name).isSome) = true)
      s!"DCR JWKS key {entry.2} must be a public JSON object"
    let isPrivate ← isPrivateFlag (getField key "is_private")
    refuse (isPrivate = true) s!"DCR JWKS key {entry.2} must not contain private key material"
    let normalized := eraseField key "is_private"
    refuse ((normalized.all fun field => isKeyMember field.2) = false)
      s!"DCR JWKS key {entry.2} contains unsupported member types"
    let validation ← dropForeignUse normalized
    (environment.importKey validation).mapError
      (joseMessage s!"DCR JWKS key {entry.2} is invalid")
  | _ => dcrError s!"DCR JWKS key {entry.2} must be a public JSON object"

/-- `_validate_jwks`. -/
def validateJwks (body : JsonObject) : Except PyError Unit :=
  match getField body "keys" with
  | .arr [] => dcrError "DCR JWKS response must contain a non-empty keys array"
  | .arr keys => keys.zipIdx.forM (validateJwk environment)
  | _ => dcrError "DCR JWKS response must contain a non-empty keys array"

/-! ## Effects -/

section Effects

variable {environment}

/-- Read the state of the scenario. -/
def scenario : DcrEffect environment DcrScenarioState := Effect.reads fun s => s.2

/-- Read what outlives the scenario. -/
def world : DcrEffect environment (DcrWorld environment) := Effect.reads fun s => s.1

/-- Assign fields of the state of the scenario. -/
def assign (change : DcrScenarioState → DcrScenarioState) : DcrEffect environment Unit :=
  Effect.update fun s => (s.1, change s.2)

/-- Ask the outside. -/
def ask {α : Type} (question : environment.Outside → α × environment.Outside) :
    DcrEffect environment α :=
  Effect.ofRun fun s =>
    (.ok (question s.1.outside).1, ({ s.1 with outside := (question s.1.outside).2 }, s.2))

/-- `self.execution_logger.emit(...)`. -/
def logEvent (type : EventType) (stepId : String) (payload : JsonObject) :
    DcrEffect environment Unit :=
  Effect.update fun s => ({ s.1 with log := s.1.log ++
    [⟨type, stepId, maskPayload environment.lower environment.pyStr payload⟩] }, s.2)

/-- The world after `send_json`, with the exchange noted. -/
def DcrWorld.exchanged (world : DcrWorld environment) (request : DcrRequest)
    (response : Option JsonHttpResponse) : DcrWorld environment :=
  { world with
    outside := (environment.request request world.outside).2
    exchanges := world.exchanges ++ [⟨request, response⟩] }

/-- `send_json(self.client, ...)`. -/
def sendRequest (request : DcrRequest) (allowNonJsonResponse : Bool) :
    DcrEffect environment JsonHttpResponse :=
  Effect.ofRun fun s =>
    match sendJson request.url allowNonJsonResponse
        (environment.request request s.1.outside).1.toClientAnswer with
    | .response response => (.ok response, (s.1.exchanged request (some response), s.2))
    | .clientError message _ =>
      (.error (.jsonHttpClientError message), (s.1.exchanged request none, s.2))
    | .raised error => (.error error, (s.1.exchanged request none, s.2))

end Effects

/-! ## Requests -/

section Requests

variable (config : DcrPlanConfiguration)

/-- `_JWT_LIFETIME`, in seconds. -/
def jwtLifetime : Int := 300

/-- `_ASSERTION_TYPE`. -/
def assertionType : String := "urn:ietf:params:oauth:client-assertion-type:jwt-bearer"

/-- `int(now.timestamp())`, of a time in microseconds. -/
def timestamp (now : Int) : Int := now.tdiv 1000000

/-- `_auth_method`. -/
def authMethod : Except PyError ClientAuthMethod :=
  orError config.shared.clientAuthMethod
    "DCR client auth method must be one of the four executable methods"

/-- The methods that sign a client assertion. -/
def ClientAuthMethod.signsAssertion : ClientAuthMethod → Bool
  | .privateKeyJwt => true
  | .clientSecretJwt => true
  | .tlsClientAuth => false
  | .clientSecretBasic => false

/-- `required_algorithm`. -/
def requiredAlgorithm (method : ClientAuthMethod) : String :=
  if method = .privateKeyJwt then "PS256" else "HS256"

/-- The checks that `_require_discovery` makes of a discovery document, in their order. -/
def readDiscovery (body : JsonObject) : Except PyError DcrDiscoveryMetadata := do
  let issuer ← validatedEndpoint environment.urls body "issuer" "discovery"
  let registrationEndpoint ←
    validatedEndpoint environment.urls body "registration_endpoint" "discovery"
  let tokenEndpoint ← validatedEndpoint environment.urls body "token_endpoint" "discovery"
  let jwksUri ← validatedEndpoint environment.urls body "jwks_uri" "discovery"
  let methods ← requiredStringArray body "token_endpoint_auth_methods_supported" "discovery"
  let method ← authMethod config
  refuse (method.text ∉ methods)
    s!"Discovery does not advertise configured DCR auth method {method.text}"
  let algorithms ←
    requiredStringArray body "token_endpoint_auth_signing_alg_values_supported" "discovery"
  refuse (ClientAuthMethod.signsAssertion method = true ∧ requiredAlgorithm method ∉ algorithms)
    s!"Discovery does not advertise required {requiredAlgorithm method} client assertion signing"
  let configured := config.shared.signing.algorithm
  refuse (ClientAuthMethod.signsAssertion method = true ∧
      configured.any (· ≠ requiredAlgorithm method) = true)
    (s!"Configured DCR client-auth signing algorithm must be {requiredAlgorithm method} for " ++
      method.text)
  refuse (configured.any (· ∉ algorithms) = true)
    ("Discovery does not advertise configured client-auth signing algorithm " ++
      configured.getD "")
  return { issuer, registrationEndpoint, tokenEndpoint, jwksUri, tokenAuthMethods := methods,
           tokenAuthSigningAlgorithms := algorithms, jwks := [] }

/-- A `GET` of a metadata document, with its log events. -/
def fetchMetadata (stepId url : String) : DcrEffect environment JsonHttpResponse := do
  logEvent .requestSent stepId [("method", .str "GET"), ("url", .str url)]
  let response ← sendRequest { method := .get, url := url } false
  logEvent .responseReceived stepId
    [("statusCode", .int response.statusCode), ("url", .str response.url)]
  return response

/-- `_require_discovery` when nothing is cached. -/
def fetchDiscovery (stepId : String) : DcrEffect environment DcrDiscoveryMetadata := do
  let discoveryUrl ← Effect.of (orError config.shared.discoveryUrl "DCR discovery URL is required")
  Effect.of (validateHttpsUrl environment.urls discoveryUrl "DCR discovery URL")
  let response ← fetchMetadata environment stepId discoveryUrl
  Effect.of (refuse (response.statusCode ≠ 200)
    s!"DCR discovery returned HTTP {response.statusCode}, expected 200")
  let metadata ← Effect.of (readDiscovery environment config response.body)
  let jwksResponse ← fetchMetadata environment stepId metadata.jwksUri
  Effect.of (refuse (jwksResponse.statusCode ≠ 200)
    s!"DCR JWKS returned HTTP {jwksResponse.statusCode}, expected 200")
  Effect.of (validateJwks environment jwksResponse.body)
  let discovery := { metadata with jwks := jwksResponse.body }
  Effect.update fun s => ({ s.1 with discovery := some discovery }, s.2)
  return discovery

/-- `_require_discovery`. -/
def requireDiscovery (stepId : String) : DcrEffect environment DcrDiscoveryMetadata := do
  let current ← world
  current.discovery.elim (fetchDiscovery environment config stepId) pure

/-- The `step_id` of a fetch outside the discovery step. -/
def discoveryStepId : String := "dcr-discovery"

/-- The request evidence of `_send`. -/
def requestEvidence (request : DcrRequest) : JsonObject :=
  [("method", .str request.method.text), ("url", .str request.url)] ++
  (if request.headers = [] then []
    else [("headers", .obj (maskHeaders environment.lower request.headers))]) ++
  optionalEntry "form" (request.formBody.map fun form =>
    .obj (maskFormFields environment.lower form)) ++
  optionalEntry "signedRegistrationJose" (request.rawBody.map fun _ => .str maskedValue)

/-- The response evidence of `_send`. -/
def dcrResponseEvidence (response : JsonHttpResponse) : JsonObject :=
  [("statusCode", .int response.statusCode),
    ("body", maskJsonValue environment.lower (.obj response.body))] ++
  (if response.headers = [] then []
    else [("headers", .obj (maskHeaders environment.lower response.headers))])

/-- `_send`. -/
def send (step : CatalogueExecutionStep) (request : DcrRequest) :
    DcrEffect environment (JsonHttpResponse × JsonObject) := do
  Effect.of (validateHttpsUrl environment.urls request.url s!"DCR step {step.stepId} URL")
  logEvent .requestSent step.stepId (requestEvidence environment request)
  let response ← sendRequest request true
  logEvent .responseReceived step.stepId
    [("statusCode", .int response.statusCode), ("url", .str response.url)]
  return (response, [("request", .obj (requestEvidence environment request)),
    ("response", .obj (dcrResponseEvidence environment response))])

/-- The `Authorization` header of a bearer token, which may be empty. -/
def bearer (token : String) : String := if token = "" then "Bearer" else s!"Bearer {token}"

/-- `_management_request`. -/
def managementRequest (step : CatalogueExecutionStep) (method : HttpMethod)
    (rawBody : Option String) : DcrEffect environment (JsonHttpResponse × JsonObject) := do
  let state ← scenario
  let managementUrl ←
    Effect.of (requiredState state.managementUrl "registration management URL")
  let token ← Effect.of (requiredStateAllowEmpty state.clientCredentialsAccessToken
    "clientCredentialsAccessToken")
  send environment step
    { method := method
      url := managementUrl
      headers := [("Accept", "application/json"), ("Authorization", bearer token)] ++
        (rawBody.map fun _ => ("Content-Type", "application/jose")).toList
      rawBody := rawBody }

/-! ## Keys and times -/

/-- `_utc_now`, in microseconds. -/
def utcNow : DcrEffect environment Int := do
  let now ← ask environment.clock
  Effect.of (orError now "DCR signing clock must return a timezone-aware datetime")

/-- `_jwt_id`. -/
def jwtId : DcrEffect environment String := do
  let value ← ask environment.jwtIdFactory
  Effect.of (refuse (strip value = "") "DCR JWT id factory must return a non-empty string")
  return strip value

/-- `_load_signing_key`. -/
def loadSigningKey : DcrEffect environment environment.Key := do
  let current ← world
  current.signingKey.elim (do
    let path ← Effect.of (orError config.shared.signing.privateKeyPath
      "DCR signing private key path is required")
    let loaded ← ask (environment.loadRsaKey path)
    let key ← Effect.of
      (catchAttempt loaded "Unable to load configured DCR RSA private signing key")
    Effect.update fun s => ({ s.1 with signingKey := some key }, s.2)
    return key) pure

/-- `_read_ssa`. -/
def readSsa : DcrEffect environment String := do
  let read ← ask
    (environment.readText config.dynamicClientRegistration.softwareStatementAssertionPath)
  let value ← Effect.of
    (catchAttempt read "Unable to read configured software statement assertion")
  Effect.of (refuse (strip value = "")
    "Configured software statement assertion must not be empty")
  return strip value

/-- `certificate_subject_dn`. -/
def certificateSubjectDn : DcrEffect environment String := do
  let registration := config.dynamicClientRegistration
  registration.transportCertificateSubjectDnOverride.elim (do
    let path ← Effect.of (orError config.shared.mtls.clientCertificatePath
      "DCR mTLS certificate path is required for subject-DN derivation")
    let subject ← ask (environment.certificateSubject path registration.useNumericOidSubjectDn)
    let value ← Effect.of
      (catchAttempt subject "Unable to parse configured DCR mTLS certificate")
    Effect.of (validateDcrSubjectDn value)
    return value) fun override => do
      Effect.of (validateDcrSubjectDn override)
      return override

/-! ## The registration JOSE -/

/-- The replacements of `_apply_registration_variant`. -/
def registrationVariants (now : Int) : List (String × String × Json) :=
  [("expired-one-hour", "exp", .int (timestamp (now - 3600000000))),
    ("issuer-foo.is/invalid", "iss", .str "foo.is/invalid"),
    ("issuer-empty", "iss", .str ""),
    ("issuer-30-characters", "iss", .str "123456789012345678901234567890"),
    ("response-types-id_token-token", "response_types", .arr [.str "id_token", .str "token"])]

/-- `_apply_registration_variant`. -/
def applyRegistrationVariant (claims : JsonObject) (variant : String) (now : Int) :
    Except PyError JsonObject :=
  if variant = "valid" then .ok claims
  else
    ((registrationVariants now).lookup variant).elim
      (dcrError s!"Unsupported DCR registration JOSE variant: {variant}")
      fun replacement => .ok (setField claims replacement.1 replacement.2)

/-- `redirect_uris`. -/
def registrationRedirects (ssaClaims : JsonObject) : Except PyError (List String) :=
  if config.dynamicClientRegistration.redirectUrisOverride = [] then
    requiredStringArray ssaClaims "software_redirect_uris" "software statement"
  else .ok config.dynamicClientRegistration.redirectUrisOverride

/-- The claims about the method of client authentication. -/
def authMethodClaims (claims : JsonObject) (method : ClientAuthMethod) :
    DcrEffect environment JsonObject :=
  match method with
  | .tlsClientAuth => do
    let subjectDn ← certificateSubjectDn environment config
    return setField claims "tls_client_auth_subject_dn" (.str subjectDn)
  | .privateKeyJwt => return setField claims "token_endpoint_auth_signing_alg" (.str "PS256")
  | .clientSecretJwt => return setField claims "token_endpoint_auth_signing_alg" (.str "HS256")
  | .clientSecretBasic => return claims

/-- The claims, their algorithm and the variant applied to them. -/
def variantClaims (claims : JsonObject) (variant : String) (now : Int) :
    Except PyError (String × JsonObject) :=
  if variant = "registration-signing-alg-rs256" then
    .ok ("RS256", setField claims "id_token_signed_response_alg" (.str "RS256"))
  else do
    let claims ← applyRegistrationVariant claims variant now
    return ("PS256", claims)

/-- `build_registration_jose`, without overrides. -/
def buildRegistrationJose (variant : String) : DcrEffect environment (String × JsonObject) := do
  let _ ← requireDiscovery environment config discoveryStepId
  let now ← utcNow environment
  let ssa ← readSsa environment config
  let ssaClaims ← Effect.of (decodeCompactJwtClaims environment ssa)
  let issuer ← Effect.of (config.dynamicClientRegistration.registrationIssuerOverride.elim
    (requiredString ssaClaims "software_id" "software statement") .ok)
  let redirectUris ← Effect.of (registrationRedirects config ssaClaims)
  Effect.of (redirectUris.forM fun redirectUri =>
    urlError (validateOauthRedirectUri environment.urls redirectUri "DCR redirect_uri"))
  let method ← Effect.of (authMethod config)
  let jti ← jwtId environment
  let claims ← authMethodClaims environment config
    [("iss", .str issuer), ("aud", .str config.dynamicClientRegistration.registrationAudience),
      ("iat", .int (timestamp now)), ("exp", .int (timestamp (now + jwtLifetime * 1000000))),
      ("jti", .str jti), ("software_statement", .str ssa), ("application_type", .str "web"),
      ("redirect_uris", .arr (redirectUris.map Json.str)),
      ("grant_types", .arr [.str "client_credentials", .str "authorization_code"]),
      ("response_types", .arr [.str "code id_token"]), ("scope", .str "accounts openid"),
      ("token_endpoint_auth_method", .str method.text),
      ("id_token_signed_response_alg", .str "PS256"),
      ("request_object_signing_alg", .str "PS256")] method
  let (algorithm, claims) ← Effect.of (variantClaims claims variant now)
  let keyId ← Effect.of (orError config.shared.signing.keyId "DCR signing key id is required")
  -- the key is loaded inside the `try`
  let compact ← Effect.mapError
    (joseMessage "Unable to sign DCR registration JOSE with the configured key") (do
      let key ← loadSigningKey environment config
      Effect.of (environment.encode
        [("alg", .str algorithm), ("kid", .str keyId), ("typ", .str "JWT")] claims key algorithm))
  return (compact, claims)

/-! ## Registration responses -/

/-- `_DCR_AUTH_METHODS` holds the texts of every method. -/
def checkResponseMethod (body : JsonObject) : Except PyError ClientAuthMethod := do
  let method ← requiredString body "token_endpoint_auth_method" "registration response"
  let known ← orError (clientAuthMethodOf method)
    "Registration response contains an unexecutable token auth method"
  let configured ← authMethod config
  refuse (known ≠ configured) "Registration response token auth method differs from the request"
  return known

/-- A timestamp, where there is one. -/
def checkTimestamp (body : JsonObject) (key : String) : Except PyError Unit :=
  match body.lookup key with
  | none => .ok ()
  | some (.int _) => .ok ()
  | some _ => dcrError s!"Registration response {key} must be an integer"

/-- The checks of one registered redirect. -/
def checkRedirect (redirect : String) : Except PyError Unit := do
  refuse (redirect.length > 256)
    "Registration response redirect_uris entries must not exceed 256 characters"
  urlError (validateOauthRedirectUri environment.urls redirect
    "registration response redirect_uri")

/-- `allowed_grants`. -/
def allowedGrants : List String :=
  ["authorization_code", "client_credentials", "refresh_token",
    "urn:openid:params:grant-type:ciba", "urn:ietf:params:oauth:grant-type:jwt-bearer"]

/-- `allowed_response_types`. -/
def allowedResponseTypes : List String := ["code", "code id_token"]

/-- `response_type.split()`. -/
def words (text : String) : List String :=
  ((text.toList.splitOnP isSpace).filter (· ≠ [])).map String.ofList

/-- `registration_uri`, where the response has one. -/
def readRegistrationUri (body : JsonObject) : Except PyError (Option String) :=
  if (body.lookup "registration_client_uri").isSome = true then do
    let uri ← validatedEndpoint environment.urls body "registration_client_uri"
      "registration response"
    return some uri
  else .ok none

/-- The identifiers and the method of a response: `client_id`, `registration_client_uri`, the
    method and what stands before `application_type`. -/
def readIdentifiers (body : JsonObject) :
    Except PyError (String × Option String × ClientAuthMethod) := do
  let location := "registration response"
  let clientId ← requiredString body "client_id" location
  refuse (clientId.length > 36) "Registration response client_id must contain 1 to 36 characters"
  let registrationUri ← readRegistrationUri environment body
  let _ ← optionalString body "registration_access_token" location
  let method ← checkResponseMethod config body
  ["client_id_issued_at", "client_secret_expires_at"].forM (checkTimestamp body)
  let clientSecret ← optionalString body "client_secret" location
  refuse (clientSecret.any (fun secret => 36 < secret.length) = true)
    "Registration response client_secret must contain 1 to 36 characters"
  return (clientId, registrationUri, method)

/-- The redirects of a response. -/
def readRedirects (body : JsonObject) : Except PyError (List String) := do
  let location := "registration response"
  let applicationType ← requiredString body "application_type" location
  refuse (applicationType ∉ ["web", "native"])
    "Registration response application_type must be web or native"
  let redirects ← requiredStringArray body "redirect_uris" location
  refuse (¬ redirects.Nodup) "Registration response redirect_uris must not contain duplicates"
  redirects.forM (checkRedirect environment)
  return redirects

/-- The grant types of a response. -/
def readGrantTypes (body : JsonObject) : Except PyError (List String) := do
  let grantTypes ← requiredStringArray body "grant_types" "registration response"
  refuse (¬ ∀ grant ∈ grantTypes, grant ∈ allowedGrants ∧ grant.length ≤ 128)
    "Registration response grant_types violates DCR 3.4 constraints"
  refuse (¬ grantTypes.Nodup) "Registration response grant_types must not contain duplicates"
  return grantTypes

/-- The response types of a response. -/
def readResponseTypes (body : JsonObject) : Except PyError (List String) := do
  let responseTypes ← optionalStringArray body "response_types" "registration response"
  refuse (¬ ∀ responseType ∈ responseTypes,
      responseType ∈ allowedResponseTypes ∧ responseType.length ≤ 32)
    "Registration response response_types violates DCR 3.4 constraints"
  refuse (¬ responseTypes.Nodup) "Registration response response_types must not contain duplicates"
  return responseTypes

/-- `software_id`, which may be missing or `null`. -/
def readSoftwareId (body : JsonObject) : Except PyError (Option String) :=
  match getField body "software_id" with
  | .null => .ok none
  | .str softwareId =>
    if softwareId ≠ "" ∧ softwareId.length ≤ 22 ∧
        softwareId.toList.all isAsciiAlphanumeric = true then .ok (some softwareId)
    else dcrError "Registration response software_id must be 1 to 22 alphanumeric characters"
  | _ => dcrError "Registration response software_id must be 1 to 22 alphanumeric characters"

/-- What the cross-field checks use of a response. -/
structure RegistrationFields where
  scope : String
  softwareId : Option String
  idTokenAlgorithm : String
  requestObjectAlgorithm : String
  redirects : List String
  method : ClientAuthMethod
  subjectDn : Option String

/-- `subject_dn`, for the method that has one. -/
def readSubjectDn (body : JsonObject) (method : ClientAuthMethod) :
    Except PyError (Option String) :=
  if method = .tlsClientAuth then do
    let subjectDn ← requiredString body "tls_client_auth_subject_dn" "registration response"
    validateDcrSubjectDn subjectDn
    return some subjectDn
  else .ok none

/-- The algorithm of the client assertions, for the methods that sign them. -/
def checkAssertionAlgorithm (body : JsonObject) (method : ClientAuthMethod) :
    Except PyError Unit :=
  if ClientAuthMethod.signsAssertion method = true then do
    let algorithm ←
      requiredString body "token_endpoint_auth_signing_alg" "registration response"
    refuse (algorithm ≠ requiredAlgorithm method)
      ("Registration response token auth signing algorithm must be " ++ requiredAlgorithm method)
  else .ok ()

/-- The checks of `_validate_registration_response` that need nothing but the response: its
    `client_id`, its `registration_client_uri` and the fields that are compared. -/
def readRegistrationResponse (body : JsonObject) :
    Except PyError (String × Option String × RegistrationFields) := do
  let (clientId, registrationUri, method) ← readIdentifiers environment config body
  let redirects ← readRedirects environment body
  let grantTypes ← readGrantTypes body
  let responseTypes ← readResponseTypes body
  let scope ← requiredString body "scope" "registration response"
  refuse (scope.length > 256) "Registration response scope must contain 1 to 256 characters"
  let _ ← requiredString body "software_statement" "registration response"
  let softwareId ← readSoftwareId body
  let idTokenAlgorithm ← requiredJoseAlgorithm body "id_token_signed_response_alg"
  let requestObjectAlgorithm ← requiredJoseAlgorithm body "request_object_signing_alg"
  let registered := if responseTypes = [] then ["code id_token"] else responseTypes
  refuse ("authorization_code" ∈ grantTypes ∧ ¬ ∃ type ∈ registered, "code" ∈ words type)
    "Registration response grant_types and response_types are inconsistent"
  let subjectDn ← readSubjectDn body method
  checkAssertionAlgorithm body method
  return (clientId, registrationUri,
    { scope, softwareId, idTokenAlgorithm, requestObjectAlgorithm, redirects, method, subjectDn })

/-- The comparison of a response with the signed claims. -/
def checkConsistency (body : JsonObject) (fields : RegistrationFields) (claims : JsonObject) :
    Except PyError Unit := do
  let differs (name : String) := s!"Registration response {name} differs from the signed request"
  ["application_type", "token_endpoint_auth_method"].forM fun name =>
    refuse ((getField body name).pyEq (getField claims name) = false) (differs name)
  [("scope", fields.scope), ("id_token_signed_response_alg", fields.idTokenAlgorithm),
    ("request_object_signing_alg", fields.requestObjectAlgorithm)].forM fun entry =>
    refuse ((getField claims entry.1).pyEq (.str entry.2) = false) (differs entry.1)
  refuse (fields.subjectDn.any (fun subjectDn =>
      !(getField claims "tls_client_auth_subject_dn").pyEq (.str subjectDn)) = true)
    (differs "tls_client_auth_subject_dn")
  let softwareStatement ← requiredString claims "software_statement" "signed registration request"
  let statementClaims ← decodeCompactJwtClaims environment softwareStatement
  let statementSoftwareId ← requiredString statementClaims "software_id" "software statement"
  refuse (fields.softwareId.any (· ≠ statementSoftwareId) = true)
    "Registration response software_id differs from the software statement"
  let statementRedirects ←
    requiredStringArray statementClaims "software_redirect_uris" "software statement"
  refuse (¬ ∀ redirect ∈ fields.redirects, redirect ∈ statementRedirects)
    "Registration response redirect_uris must match or be a subset of the software statement"

/-- The management URL of a client. -/
def managementUrlOf (discovery : DcrDiscoveryMetadata) (clientId : String) : String :=
  String.ofList (discovery.registrationEndpoint.toList.rdropWhile (· == '/')) ++ "/" ++ clientId

/-- `_validate_registration_response`, with `require_consistency`. -/
def validateRegistrationResponse (body : JsonObject) (state : DcrScenarioState) :
    DcrEffect environment Unit := do
  let (clientId, registrationUri, fields) ←
    Effect.of (readRegistrationResponse environment config body)
  let discovery ← requireDiscovery environment config discoveryStepId
  Effect.of (refuse (registrationUri.any (· ≠ managementUrlOf discovery clientId) = true)
    "registration_client_uri must be the discovered registration endpoint plus client_id")
  Effect.of (state.registrationClaims.elim (.ok ()) (checkConsistency environment body fields))

/-! ## Client authentication -/

/-- `base64.b64encode(text.encode()).decode("ascii")`. -/
def b64encode (text : String) : String :=
  let encoded := Base64.encode text.toUTF8.toList
  String.ofList ((encoded ++ Base64.padding encoded).map fun c =>
    if c = '-' then '+' else if c = '_' then '/' else c)

/-- The key of `_client_assertion_form` and its id. -/
def assertionKey (method : ClientAuthMethod) (secret : Option String) :
    DcrEffect environment (environment.Key × Option String) :=
  if method = .privateKeyJwt then do
    let key ← loadSigningKey environment config
    return (key, config.shared.signing.keyId)
  else do
    let secret ← Effect.of (requiredState secret "clientSecret")
    let key ← Effect.of (environment.importOctKey secret)
    return (key, none)

/-- `_client_assertion_form`, for a method that signs assertions. -/
def clientAssertionForm (clientId : String) (discovery : DcrDiscoveryMetadata)
    (method : ClientAuthMethod) (secret : Option String) :
    DcrEffect environment (List (String × String)) := do
  let now ← utcNow environment
  let algorithm := requiredAlgorithm method
  let (key, keyId) ← assertionKey environment config method secret
  Effect.of (refuse (algorithm ∉ discovery.tokenAuthSigningAlgorithms)
    s!"Discovery does not advertise required {algorithm} client assertion signing")
  let header : JsonObject := [("alg", .str algorithm), ("typ", .str "JWT")] ++
    optionalEntry "kid" (keyId.map Json.str)
  let jti ← jwtId environment
  let claims : JsonObject :=
    [("iss", .str clientId), ("sub", .str clientId), ("aud", .str discovery.tokenEndpoint),
      ("iat", .int (timestamp now)), ("exp", .int (timestamp (now + jwtLifetime * 1000000))),
      ("jti", .str jti)]
  let assertion ← Effect.of ((environment.encode header claims key algorithm).mapError
    (joseMessage "Unable to sign DCR token client assertion"))
  return [("client_id", clientId), ("client_assertion_type", assertionType),
    ("client_assertion", assertion)]

/-- The form fields and headers that a method adds. -/
def authenticate (method : ClientAuthMethod) (clientId : String) (clientSecret : Option String)
    (discovery : DcrDiscoveryMetadata) :
    DcrEffect environment (List (String × String) × List (String × String)) :=
  match method with
  | .tlsClientAuth => return ([("client_id", clientId)], [])
  | .clientSecretBasic => do
    let secret ← Effect.of (requiredState clientSecret "clientSecret")
    return ([], [("Authorization", "Basic " ++ b64encode s!"{clientId}:{secret}")])
  | .privateKeyJwt => do
    let form ← clientAssertionForm environment config clientId discovery method none
    return (form, [])
  | .clientSecretJwt => do
    let form ← clientAssertionForm environment config clientId discovery method clientSecret
    return (form, [])

/-- `_token_request`. -/
def tokenRequest (state : DcrScenarioState) (discovery : DcrDiscoveryMetadata) :
    DcrEffect environment DcrRequest := do
  let clientId ← Effect.of (requiredState state.clientId "clientId")
  let method ← Effect.of (authMethod config)
  Effect.of (refuse (method ∈ [.clientSecretJwt, .clientSecretBasic] ∧
      (state.clientSecret = none ∨ state.clientSecret = some ""))
    ("Registration response omitted client_secret required for " ++ method.text ++
      " token authentication"))
  let (form, headers) ← authenticate environment config method clientId state.clientSecret discovery
  return { method := .post
           url := discovery.tokenEndpoint
           headers := [("Accept", "application/json")] ++ headers
           formBody := some ([("grant_type", "client_credentials")] ++ form) }

end Requests

/-! ## The operations -/

section Handlers

variable (config : DcrPlanConfiguration)

/-- `_result` of a passed step. -/
def passedStep (message : String) (response : Option JsonHttpResponse) (details : JsonObject) :
    DcrOutcome where
  passed := true
  message := message
  url := response.map (·.url)
  statusCode := response.map (·.statusCode)
  details := details

/-- `_validate_discovery_step`. -/
def validateDiscoveryStep (step : CatalogueExecutionStep) : DcrEffect environment DcrOutcome := do
  let discovery ← requireDiscovery environment config step.stepId
  return { passed := true
           message :=
            "DCR discovery registration, token, and JWKS endpoints are valid HTTPS URLs"
           url := config.shared.discoveryUrl
           details := [("discovery", .obj
            [("issuer", .str discovery.issuer),
              ("registrationEndpoint", .str discovery.registrationEndpoint),
              ("tokenEndpoint", .str discovery.tokenEndpoint),
              ("jwksUri", .str discovery.jwksUri)])] }

/-- `step.variant or "valid"`. -/
def variantOf (step : CatalogueExecutionStep) : String :=
  (step.variant.filter (· ≠ "")).getD "valid"

/-- `_generate_registration_step`. -/
def generateRegistrationStep (step : CatalogueExecutionStep) :
    DcrEffect environment DcrOutcome := do
  let (compact, claims) ← buildRegistrationJose environment config (variantOf step)
  assign fun state => { state with
    signedRegistrationJose := some compact, registrationClaims := some claims }
  return passedStep s!"Generated compact PS256 registration JOSE variant {variantOf step}" none
    [("algorithm", .str "PS256"), ("keyIdConfigured", .bool true),
      ("variant", .str (variantOf step))]

/-- `_post_registration_step`. -/
def postRegistrationStep (step : CatalogueExecutionStep) : DcrEffect environment DcrOutcome := do
  let discovery ← requireDiscovery environment config discoveryStepId
  let state ← scenario
  let jose ← Effect.of (requiredState state.signedRegistrationJose "signedRegistrationJose")
  let (response, evidence) ← send environment step
    { method := .post
      url := discovery.registrationEndpoint
      headers := [("Accept", "application/json"), ("Content-Type", "application/jose")]
      rawBody := some jose }
  assign fun state => { state with
    lastResponse := some response, registrationResponse := some response.body }
  return passedStep s!"Registration endpoint returned HTTP {response.statusCode}" (some response)
    evidence

/-- `_parse_registration_step`. -/
def parseRegistrationStep : DcrEffect environment DcrOutcome := do
  let state ← scenario
  let response ← Effect.of (requiredResponse state)
  validateRegistrationResponse environment config response.body state
  let location := "registration response"
  let clientId ← Effect.of (requiredString response.body "client_id" location)
  assign fun state => { state with clientId := some clientId }
  let clientSecret ← Effect.of (optionalString response.body "client_secret" location)
  assign fun state => { state with clientSecret := clientSecret }
  let token ← Effect.of (optionalString response.body "registration_access_token" location)
  assign fun state => { state with registrationAccessToken := token }
  let registrationUri ←
    Effect.of (optionalString response.body "registration_client_uri" location)
  let managementUrl ← registrationUri.elim (do
    let discovery ← requireDiscovery environment config discoveryStepId
    return managementUrlOf discovery clientId) pure
  assign fun state => { state with managementUrl := some managementUrl }
  return passedStep "Captured scenario-local dynamic client state" none
    [("clientId", .str clientId), ("clientSecretCaptured", .bool clientSecret.isSome),
      ("managementUrl", .str managementUrl)]

/-- `_token_step`. -/
def tokenStep (step : CatalogueExecutionStep) : DcrEffect environment DcrOutcome := do
  let discovery ← requireDiscovery environment config discoveryStepId
  let state ← scenario
  let request ← tokenRequest environment config state discovery
  let (response, evidence) ← send environment step request
  assign fun state => { state with
    lastResponse := some response, tokenResponse := some response.body }
  if response.statusCode ≠ 200 then
    return { passed := false
             message := s!"Client-credentials token endpoint returned HTTP {response.statusCode}, expected 200"
             url := some response.url
             statusCode := some response.statusCode
             details := evidence }
  else do
    let token ← Effect.of (requiredString response.body "access_token" "token response")
    assign fun state => { state with clientCredentialsAccessToken := some token }
    return passedStep "Client-credentials access token acquired" (some response) evidence

/-- `_delete_step`. -/
def deleteStep (step : CatalogueExecutionStep) : DcrEffect environment DcrOutcome := do
  let (response, evidence) ← managementRequest environment step .delete none
  let passed : Bool := response.statusCode = 204
  assign fun state => { state with
    lastResponse := some response, deleted := state.deleted || passed }
  return { passed := passed
           message := if passed then "Dynamic registration deleted"
            else s!"DELETE returned HTTP {response.statusCode}, expected 204"
           url := some response.url
           statusCode := some response.statusCode
           details := evidence }

/-- `_get_step`. -/
def getStep (step : CatalogueExecutionStep) : DcrEffect environment DcrOutcome := do
  let (response, evidence) ← managementRequest environment step .get none
  assign fun state => { state with
    lastResponse := some response, registrationResponse := some response.body }
  return passedStep s!"Registration management GET returned HTTP {response.statusCode}"
    (some response) evidence

/-- The check of the answer to a `PUT`. -/
def checkUpdate (response : JsonHttpResponse) (state : DcrScenarioState) :
    DcrEffect environment Unit :=
  if response.statusCode = 200 then
    validateRegistrationResponse environment config response.body state
  else pure ()

/-- `_put_step`. -/
def putStep (step : CatalogueExecutionStep) : DcrEffect environment DcrOutcome := do
  let state ← scenario
  let jose ← Effect.of (requiredState state.signedRegistrationJose "signedRegistrationJose")
  let (response, evidence) ← managementRequest environment step .put (some jose)
  assign fun state => { state with
    lastResponse := some response, registrationResponse := some response.body }
  let state ← scenario
  checkUpdate environment config response state
  return passedStep s!"Registration management PUT returned HTTP {response.statusCode}"
    (some response) evidence

/-- `_assert_status_step`. -/
def assertStatusStep (step : CatalogueExecutionStep) : DcrEffect environment DcrOutcome := do
  let state ← scenario
  let response ← Effect.of (requiredResponse state)
  let expected ← Effect.of (orError step.expectedStatus
    s!"DCR status assertion {step.stepId} has no expected status")
  let passed : Bool := response.statusCode = expected
  let detail : JsonObject :=
    [("status", .str (if passed then "passed" else "failed")),
      ("message", .str s!"Expected HTTP {expected}; received HTTP {response.statusCode}")]
  logEvent .assertionEvaluated step.stepId detail
  return { passed := passed
           message := if passed then s!"HTTP status is {expected}"
            else s!"HTTP status {response.statusCode} did not match {expected}"
           url := some response.url
           statusCode := some response.statusCode
           details := [("assertions", .arr [.obj detail])] }

/-- `_validate_response_step`. -/
def validateResponseStep : DcrEffect environment DcrOutcome := do
  let state ← scenario
  let response ← Effect.of (requiredResponse state)
  validateRegistrationResponse environment config response.body state
  return passedStep "Registration response satisfies DCR 3.4 schema and cross-field rules"
    (some response) []

/-- `_parse_retrieved_step`. -/
def parseRetrievedStep : DcrEffect environment DcrOutcome := do
  let state ← scenario
  let response ← Effect.of (requiredResponse state)
  Effect.of (refuse ((getField response.body "client_id").pyEq (textOrNull state.clientId) = false)
    "Retrieved DCR client_id does not match scenario-local registration state")
  let method ← Effect.of (authMethod config)
  Effect.of (refuse ((getField response.body "token_endpoint_auth_method").pyEq
      (.str method.text) = false)
    "Retrieved token_endpoint_auth_method does not match the registered method")
  return passedStep "Retrieved client is consistent with registration and token metadata"
    (some response) []

/-- `_empty_bearer_step`. -/
def emptyBearerStep : DcrEffect environment DcrOutcome := do
  assign fun state => { state with clientCredentialsAccessToken := some "" }
  return passedStep "Configured an empty bearer token for the negative request" none []

/-- `_validate_error_step`. -/
def validateErrorStep : DcrEffect environment DcrOutcome := do
  let state ← scenario
  let response ← Effect.of (requiredResponse state)
  let _ ← Effect.of (requiredString response.body "error" "registration error response")
  Effect.of (refuse ((response.body.lookup "client_id").isSome = true)
    "Registration error response must not be decoded as successful client state")
  return passedStep "Registration error response is a valid RFC 7591 error" (some response) []

/-- `handlers` of `_execute_step_inner`. -/
def dcrHandlers (step : CatalogueExecutionStep) :
    List (String × DcrEffect environment DcrOutcome) :=
  [("validate-registration-endpoint", validateDiscoveryStep environment config step),
    ("generate-registration-jose", generateRegistrationStep environment config step),
    ("post-registration", postRegistrationStep environment config step),
    ("parse-registration-success", parseRegistrationStep environment config),
    ("request-client-credentials-token", tokenStep environment config step),
    ("delete-client", deleteStep environment step),
    ("get-client", getStep environment step),
    ("put-client", putStep environment config step),
    ("validate-registration-response-34", validateResponseStep environment config),
    ("parse-retrieved-client", parseRetrievedStep environment config),
    ("set-empty-bearer-token", emptyBearerStep environment),
    ("validate-registration-error", validateErrorStep environment)]

/-- `step.definition_id.startswith("assert-status-")`. -/
def assertsStatus (definitionId : String) : Bool :=
  "assert-status-".toList.isPrefixOf definitionId.toList

/-- `_execute_step_inner`. -/
def executeStepInner (step : CatalogueExecutionStep) : DcrEffect environment DcrOutcome :=
  if assertsStatus step.definitionId then assertStatusStep environment step
  else
    ((dcrHandlers environment config step).lookup step.definitionId).elim
      (Effect.of (dcrError s!"Unsupported DCR execution operation: {step.definitionId}")) id

/-- Whether `_best_effort_cleanup` deletes the client of a scenario. -/
def needsCleanup (selectsDelete : Bool) (state : DcrScenarioState) : Bool :=
  selectsDelete && !state.deleted && state.managementUrl.isSome &&
    (state.clientCredentialsAccessToken.filter (· ≠ "")).isSome

/-- The request of `_best_effort_cleanup`. -/
def cleanupRequest (state : DcrScenarioState) : DcrRequest where
  method := .delete
  url := state.managementUrl.getD ""
  headers :=
    let token := state.clientCredentialsAccessToken.getD ""
    [("Accept", "application/json"), ("Authorization", s!"Bearer {token}")]

/-- The `DELETE` of `_best_effort_cleanup`. -/
def cleanup (scenarioId : String) (state : DcrScenarioState) : DcrEffect environment Unit := do
  let request := cleanupRequest state
  let stepId := scenarioId ++ "-cleanup"
  logEvent .requestSent stepId
    [("method", .str "DELETE"), ("url", .str request.url),
      ("headers", .obj (maskHeaders environment.lower request.headers)),
      ("bestEffort", .bool true)]
  let response ← sendRequest request true
  logEvent .responseReceived stepId
    [("statusCode", .int response.statusCode), ("url", .str response.url),
      ("bestEffort", .bool true)]

/-- `_best_effort_cleanup`; the state of the scenario is not read again. -/
def bestEffortCleanup (selectsDelete : Bool) (scenarioId : String)
    (s : DcrWorld environment × DcrScenarioState) : DcrWorld environment :=
  if needsCleanup selectsDelete s.2 = false then s.1
  else
    match Effect.exec (cleanup environment scenarioId s.2) s with
    | (.ok _, s') => s'.1
    | (.error error, s') =>
      let message := (error.dcrFailure?).getD ""
      (Effect.exec (logEvent .applicationError (scenarioId ++ "-cleanup")
        [("message", .str s!"Best-effort DCR cleanup failed: {message}")]) s').2.1

/-- Whether the participant selected a `DELETE` endpoint. -/
def selectsDelete (plan : CompiledTestPlan) : Bool :=
  plan.traceability.selectedEndpoints.any fun endpoint => endpoint.ref.method = .delete

/-- The operations of the adapter of a plan, from the state `outside` of the outside. -/
def dcrOperations (plan : CompiledTestPlan) (client : Except PyError environment.Outside) :
    DcrOperations where
  World := DcrWorld environment
  ScenarioState := DcrScenarioState
  newScenarioState := {}
  buildDcrMtlsClient := client.map fun outside => { outside := outside }
  executeStepInner := fun _ step s => Effect.exec (executeStepInner environment config step) s
  bestEffortCleanup := bestEffortCleanup environment (selectsDelete plan)

end Handlers

end Conformance.DcrExecution
