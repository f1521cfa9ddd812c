import Conformance.Native.HttpExchange
import Conformance.Native.JsonText

/-!
# Signed requests

`_maybe_apply_ob_detached_jws`, `_apply_token_endpoint_auth_policy` and the dispatch of
`_execute_v1_step_inner` of `conformance/executor.py`, with the request that `send_json`
of `conformance/http.py` makes of its arguments. The JSON body is written once: what is
signed are the bytes that are sent.

The private key is behind `FapiSigningService`; a call of it is recorded with what it
returned. The header map of `httpx` is a field of `StepSigning`.
-/

namespace Conformance

/-! ## Eligible paths -/

/-- `_OB_ACCOUNT_ACCESS_CONSENTS_PATHS`. -/
def obAccountAccessConsentsPaths : List String :=
  ["/open-banking/v3.1/aisp/account-access-consents",
   "/open-banking/v4.0/aisp/account-access-consents"]

/-- `_OB_PIS_PATH_PREFIXES`. -/
def obPisPathPrefixes : List String := ["/open-banking/v3.1/pisp/", "/open-banking/v4.0/pisp/"]

/-- `_OB_VRP_RESOURCE_PATH_PREFIXES`. -/
def obVrpResourcePathPrefixes : List String := ["/domestic-vrp-consents", "/domestic-vrps"]

/-- `_normalize_url_path_for_match`. -/
def normalizeUrlPathForMatch (path : String) : List Char :=
  let normalizedSegments := (path.toList.splitOn '/').filter (· ≠ [])
  if normalizedSegments = [] then ['/'] else '/' :: ['/'].intercalate normalizedSegments

/-- `_is_ob_vrp_path` for one resource. -/
def isObVrpResource (normalizedPath resourcePrefix : List Char) : Bool :=
  let versionedPispPrefix := "/pisp".toList ++ resourcePrefix
  normalizedPath = resourcePrefix || (resourcePrefix ++ ['/']).isPrefixOf normalizedPath ||
    versionedPispPrefix.isSuffixOf normalizedPath ||
    normalizedPath.tails.any ((versionedPispPrefix ++ ['/']).isPrefixOf ·)

/-- `_is_ob_vrp_path`. -/
def isObVrpPath (normalizedPath : List Char) : Bool :=
  obVrpResourcePathPrefixes.any fun resourcePrefix =>
    isObVrpResource normalizedPath resourcePrefix.toList

/-- Whether a path starts with one of `_OB_PIS_PATH_PREFIXES`. -/
def isObPisPath (normalizedPath : List Char) : Bool :=
  obPisPathPrefixes.any fun pathPrefix => pathPrefix.toList.isPrefixOf normalizedPath

/-- Whether a normalised path is one that requests are signed for. -/
def isSignedPath (normalizedPath : List Char) : Bool :=
  obAccountAccessConsentsPaths.any (·.toList = normalizedPath) || isObPisPath normalizedPath ||
    isObVrpPath normalizedPath

/-! ## Headers of a request -/

/-- The fields of a request, in their order. -/
abbrev HeaderFields := List (String × String)

/-- The key under which `httpx` looks a header up. -/
def headerKey (name : String) : List Char := name.toList.map Char.toLower

/-- Whether two header names differ in case at most. -/
def sameHeaderName (name other : String) : Bool := headerKey name == headerKey other

/-- The fields of a name. -/
def fieldsNamed (headers : HeaderFields) (name : String) : HeaderFields :=
  headers.filter fun header => sameHeaderName header.1 name

/-- What `send_json` uses of `httpx.Headers`: `update` with a mapping, `headers[name] = value`
    and `name in headers`. -/
structure HttpxHeaders where
  update : HeaderFields → HeaderFields → HeaderFields
  set : HeaderFields → String → String → HeaderFields
  contains : HeaderFields → String → Bool

/-- `httpx.Headers` as of httpx 0.28: `update` drops the fields of every name that it is given and
    appends all those that it is given, also where two of these differ in case only. -/
structure HttpxHeaders.Lawful (httpx : HttpxHeaders) : Prop where
  update : ∀ headers others name, fieldsNamed (httpx.update headers others) name =
    if fieldsNamed others name = [] then fieldsNamed headers name else fieldsNamed others name
  set : ∀ headers name value other, fieldsNamed (httpx.set headers name value) other =
    if sameHeaderName name other then [(name, value)] else fieldsNamed headers other
  contains : ∀ headers name, httpx.contains headers name = true ↔ fieldsNamed headers name ≠ []

/-! ## Detached signatures -/

/-- The arguments of `sign_detached_json_payload`. -/
structure SigningInput where
  payload : ByteArray
  profile : DetachedJwsProfile
  omitProtectedHeaders : List String

/-- A call of `sign_detached_json_payload`, with what it returned. -/
structure SigningCall where
  input : SigningInput
  outcome : Except PyError String

/-- `FapiSigningService`, as far as a step uses it; its errors are `ValueError`s. -/
structure FapiSigningService where
  signDetachedJsonPayload : SigningInput → Except PyError String
  signClientAssertion : String → Except PyError String

/-- `token_endpoint_auth_method`. -/
inductive TokenEndpointAuthMethod where
  | privateKeyJwt
  | tlsClientAuth
  deriving DecidableEq, Repr

/-- What a step of a run is given for signing. -/
structure StepSigning where
  /-- The authentication method of `fapi_signing_config`. -/
  fapiSigningConfig : Option TokenEndpointAuthMethod
  /-- What `fapi_signing_service.get()` returns. -/
  fapiSigningService : Option (Except PyError (Option FapiSigningService))
  mtlsClientConfigured : Bool
  /-- `urlsplit(url).path`. -/
  urlPath : String → Except PyError String
  floats : FloatText
  httpx : HttpxHeaders

/-- `_requires_ob_detached_jws`. -/
def requiresObDetachedJws (signing : StepSigning) (method : HttpMethod) (resolvedUrl : String) :
    Except PyError Bool :=
  if method ∈ [HttpMethod.post, .put, .patch] then do
    let path ← signing.urlPath resolvedUrl
    return isSignedPath (normalizeUrlPathForMatch path)
  else .ok false

/-- `_detached_jws_profile_for_request`. -/
def detachedJwsProfileForRequest (signing : StepSigning) (resolvedUrl : String) :
    Except PyError DetachedJwsProfile := do
  let path ← signing.urlPath resolvedUrl
  let normalizedPath := normalizeUrlPathForMatch path
  return if isObPisPath normalizedPath || isObVrpPath normalizedPath then .obV314Plus
    else .legacyB64False

/-- The profile that a policy names, or else the one of the URL. -/
def detachedJwsProfile (signing : StepSigning) (policy : DetachedJwsPolicy) (resolvedUrl : String) :
    Except PyError DetachedJwsProfile :=
  match policy.profile with
  | some profile => .ok profile
  | none => detachedJwsProfileForRequest signing resolvedUrl

/-- The text of the `ValueError` without a signing service. -/
def requiresFapiSigning : PyError :=
  .valueError "Detached request signing requires fapiSigning configuration"

/-- `_serialize_json_request_body`. -/
def serializeJsonRequestBody (floats : FloatText) (body : Json) : Except PyError ByteArray := do
  let text ← jsonDumps floats body
  return (String.ofList text).toUTF8

/-- `_maybe_apply_ob_detached_jws` up to the signature: the service and what it is to sign. -/
def detachedSigningInput (signing : StepSigning) (policy : DetachedJwsPolicy) (method : HttpMethod)
    (resolvedUrl : String) (resolvedJsonBody : Option Json) :
    Except PyError (FapiSigningService × SigningInput) :=
  match signing.fapiSigningConfig, signing.fapiSigningService with
  | none, _ | _, none => .error requiresFapiSigning
  | some _, some getService => do
    let required ← requiresObDetachedJws signing method resolvedUrl
    Except.raiseIf (required = false) (.valueError
      "Detached request signing is only supported for AIS consent, PIS, and VRP write requests")
    match resolvedJsonBody with
    | none => .error (.valueError "Detached request signing requires a JSON request body")
    | some value => do
      let serializedJsonBody ← serializeJsonRequestBody signing.floats value
      match ← getService with
      | none => .error requiresFapiSigning
      | some service => do
        let profile ← detachedJwsProfile signing policy resolvedUrl
        return (service, { payload := serializedJsonBody, profile := profile,
                           omitProtectedHeaders := policy.omitProtectedHeaders })

/-- `signed_headers["x-jws-signature"] = detached_signature`. -/
def signHeaders (resolvedHeaders : HeaderFields) (signature : String) : HeaderFields :=
  if "x-jws-signature" ∈ resolvedHeaders.map Prod.fst then
    resolvedHeaders.map fun header =>
      if header.1 = "x-jws-signature" then ("x-jws-signature", signature) else header
  else resolvedHeaders ++ [("x-jws-signature", signature)]

/-- `_maybe_apply_ob_detached_jws` from the signature on. -/
def applySignature (stepId : String) (resolvedHeaders : Option HeaderFields) (call : SigningCall) :
    Except PyError (Option HeaderFields × Option ByteArray) := do
  let detachedSignature ← call.outcome
  validateHeaderValue detachedSignature s!"step '{stepId}' generated header x-jws-signature"
  return (some (signHeaders (resolvedHeaders.getD []) detachedSignature), some call.input.payload)

/-- `_maybe_apply_ob_detached_jws`: the headers and the bytes of the body, and the calls of
    the signing service. -/
def maybeApplyObDetachedJws (signing : StepSigning) (policy : Option DetachedJwsPolicy)
    (stepId : String) (method : HttpMethod) (resolvedUrl : String)
    (resolvedHeaders : Option HeaderFields) (resolvedJsonBody : Option Json) :
    Except PyError (Option HeaderFields × Option ByteArray) × List SigningCall :=
  match policy with
  | none => (.ok (resolvedHeaders, none), [])
  | some policy =>
    match detachedSigningInput signing policy method resolvedUrl resolvedJsonBody with
    | .error error => (.error error, [])
    | .ok (service, input) =>
      let call : SigningCall := ⟨input, service.signDetachedJsonPayload input⟩
      (applySignature stepId resolvedHeaders call, [call])

/-! ## Client authentication -/

/-- The text of the `ValueError` of a token request without its configuration. -/
def requiresParticipantConfig : PyError :=
  .valueError "Token endpoint auth policy requires participant fapiSigning config"

/-- `form[name] = value`. -/
def setFormField (form : List (String × String)) (name value : String) : List (String × String) :=
  if name ∈ form.map Prod.fst then
    form.map fun field => if field.1 = name then (name, value) else field
  else form ++ [(name, value)]

/-- `_apply_token_endpoint_auth_policy`; the source of a policy is always `fapi-signing`. -/
def applyTokenEndpointAuthPolicy (signing : StepSigning) (policy : Option TokenEndpointAuthPolicy)
    (resolvedFormBody : Option (List (String × String))) (resolvedUrl : String) :
    Except PyError (Option (List (String × String))) :=
  match policy, resolvedFormBody, signing.fapiSigningConfig with
  | none, form, _ => .ok form
  | some _, none, _ =>
    .error (.valueError "Token endpoint auth policy requires a form-encoded request body")
  | some _, some _, none => .error requiresParticipantConfig
  | some _, some form, some .privateKeyJwt => do
    let conflictingFields := ["client_assertion", "client_assertion_type"].filter
      (· ∈ form.map Prod.fst)
    let reservedFields := ", ".intercalate conflictingFields
    Except.raiseIf (conflictingFields ≠ []) (.valueError ("Token endpoint auth policy reserves " ++
      s!"these form fields for runtime FAPI signing: {reservedFields}"))
    match signing.fapiSigningService with
    | none => .error requiresParticipantConfig
    | some getService =>
      match ← getService with
      | none => .error requiresParticipantConfig
      | some service => do
        let clientAssertion ← service.signClientAssertion resolvedUrl
        return some (setFormField (setFormField form "client_assertion_type"
          "urn:ietf:params:oauth:client-assertion-type:jwt-bearer") "client_assertion"
          clientAssertion)
  | some _, some form, some .tlsClientAuth => do
    Except.raiseIf (signing.mtlsClientConfigured = false) (.valueError
      "Token endpoint auth policy requires a configured TLS client certificate and private key")
    return some form

/-! ## Sending -/

/-- The arguments of `client.request`. -/
structure ClientRequest where
  method : HttpMethod
  url : String
  headers : HeaderFields
  json : Option Json
  content : Option ByteArray
  data : Option (List (String × String))

/-- The four bodies that `send_json` takes, of which it allows one. -/
structure RequestBodies where
  jsonBody : Option Json := none
  jsonBodyBytes : Option ByteArray := none
  formBody : Option (List (String × String)) := none
  rawBody : Option ByteArray := none

/-- `supplied_body_encodings`. -/
def RequestBodies.supplied (bodies : RequestBodies) : Nat :=
  [bodies.jsonBody.isSome, bodies.jsonBodyBytes.isSome, bodies.formBody.isSome,
    bodies.rawBody.isSome].countP id

/-- The `Accept` field that `send_json` starts from. -/
def acceptJson : String × String := ("Accept", "application/json")

/-- The `Content-Type` field that `send_json` gives a form. -/
def formContentType : String × String := ("Content-Type", "application/x-www-form-urlencoded")

/-- `send_json` up to the call of the client. -/
def sendJsonRequest (httpx : HttpxHeaders) (method : HttpMethod) (url : String)
    (headers : Option HeaderFields) (bodies : RequestBodies) : Except PyError ClientRequest := do
  Except.raiseIf (bodies.supplied > 1) (.valueError
    "send_json: json_body, json_body_bytes, form_body, and raw_body are mutually exclusive")
  let given := headers.getD []
  let requestHeaders := if given = [] then [acceptJson] else httpx.update [acceptJson] given
  let bodies := if method ∈ [.post, .put, .patch, .delete] then bodies else {}
  let requestHeaders :=
    if bodies.jsonBodyBytes.isSome && !httpx.contains requestHeaders "content-type" then
      httpx.set requestHeaders "Content-Type" "application/json"
    else requestHeaders
  let requestHeaders :=
    if bodies.formBody.isSome && !httpx.contains requestHeaders "content-type" then
      httpx.set requestHeaders formContentType.1 formContentType.2
    else requestHeaders
  Except.raiseIf (bodies.rawBody.isSome && !httpx.contains requestHeaders "content-type")
    (.valueError "send_json: raw_body requires an explicit Content-Type header")
  return { method := method, url := url, headers := requestHeaders, json := bodies.jsonBody,
           content := bodies.jsonBodyBytes.or bodies.rawBody, data := bodies.formBody }

/-! ## The dispatch of a step -/

variable {external : ExternalParsers}

/-- `_execute_v1_step_inner` from the resolved request to the call of the client. -/
def dispatchPrepared (signing : StepSigning) (manifestStep : ManifestStep (requestParsers external))
    (prepared : PreparedRequest) : Except PyError ClientRequest × List SigningCall :=
  let request : ManifestRequest := manifestStep.request
  let resolvedJsonBody := jsonBody prepared.body
  let (signed, calls) := maybeApplyObDetachedJws signing request.detachedJws manifestStep.id
    request.method prepared.url prepared.headers resolvedJsonBody
  (do
    let (resolvedHeaders, serializedJsonBody) ← signed
    let resolvedFormBody ← applyTokenEndpointAuthPolicy signing manifestStep.tokenEndpointAuthPolicy
      (formBody prepared.body) prepared.url
    sendJsonRequest signing.httpx request.method prepared.url resolvedHeaders
      { jsonBody := if serializedJsonBody.isSome then none else resolvedJsonBody,
        jsonBodyBytes := serializedJsonBody, formBody := resolvedFormBody }, calls)

end Conformance
