import Conformance.Native.Assertions
import Conformance.Native.StepExecution

/-!
# The exchange of an HTTP step

The second half of `_execute_v1_step_inner` of `conformance/executor.py`: a resolved
request is signed, sent and answered, and the answer is checked. With it the masking
of evidence (`conformance/masking.py`), `send_json` of `conformance/http.py` and the
buffered execution log (`conformance/execution_log.py`), outside developer mode.

What signs, what answers and what evaluates an assertion are fields of `HttpServices`.
-/

namespace Conformance

/-! ## Masking -/

/-- `MASKED_VALUE`. -/
def maskedValue : String := "***"

/-- `SENSITIVE_JSON_KEYS`. -/
def sensitiveJsonKeys : List String :=
  ["access_token", "refresh_token", "id_token", "client_secret", "code", "client_assertion",
    "assertion", "authorization", "request", "request_object", "software_statement",
    "softwarestatementassertion", "signedregistrationjose", "registration_access_token",
    "registrationaccesstoken", "clientcredentialsaccesstoken", "clientassertions",
    "tokenresponse", "password", "private_key", "privatekeys"]

/-- `SENSITIVE_HEADER_NAMES`. -/
def sensitiveHeaderNames : List String :=
  ["authorization", "proxy-authorization", "cookie", "set-cookie", "x-api-key",
    "x-fapi-customer-ip-address", "x-fapi-financial-id", "x-jws-signature"]

section Masking

variable (lower : String → String)

mutual

/-- `mask_json_value`. -/
def maskJsonValue : Json → Json
  | .obj fields => .obj (maskObject fields)
  | .arr items => .arr (maskItems items)
  | value => value

/-- `_mask_object`. -/
def maskObject : List (String × Json) → List (String × Json)
  | [] => []
  | (key, value) :: rest =>
    (key, if lower key ∈ sensitiveJsonKeys then .str maskedValue else maskJsonValue value) ::
      maskObject rest

def maskItems : List Json → List Json
  | [] => []
  | item :: rest => maskJsonValue item :: maskItems rest

end

/-- `mask_headers` and `mask_form_fields`: the values of the sensitive names are masked. -/
def maskNamed (sensitiveNames : List String) (fields : List (String × String)) : JsonObject :=
  fields.map fun field =>
    (field.1, .str (if lower field.1 ∈ sensitiveNames then maskedValue else field.2))

/-- `mask_headers`. -/
def maskHeaders (headers : List (String × String)) : JsonObject :=
  maskNamed lower sensitiveHeaderNames headers

/-- `mask_form_fields`. -/
def maskFormFields (fields : List (String × String)) : JsonObject :=
  maskNamed lower sensitiveJsonKeys fields

end Masking

/-! ## The execution log -/

/-- The event types of an HTTP step. -/
inductive EventType where
  | stepStarted
  | stepCompleted
  | requestSent
  | responseReceived
  | assertionEvaluated
  | responseSignatureValidated
  | responseSignatureInvalid
  | placeholderError
  | applicationError
  deriving DecidableEq, Repr

/-- `ExecutionEvent`, its time and its run apart. -/
structure ExecutionEvent where
  type : EventType
  stepId : String
  payload : JsonObject

/-- One entry of `_mask_payload`, of an event that is no PSU authorisation URL. -/
def maskPayloadEntry (lower : String → String) (pyStr : Json → String) (entry : String × Json) :
    Json :=
  match entry.1, entry.2 with
  | "headers", .obj fields =>
    .obj (maskHeaders lower (fields.map fun field => (field.1, pyStr field.2)))
  | key, value =>
    if lower key ∈ sensitiveJsonKeys then .str maskedValue else maskJsonValue lower value

/-- `_mask_payload`. -/
def maskPayload (lower : String → String) (pyStr : Json → String) (payload : JsonObject) :
    JsonObject :=
  payload.map fun entry => (entry.1, maskPayloadEntry lower pyStr entry)

/-! ## Sending -/

/-- What `client.request` does: a `RequestError`, another exception, or a response with
    its decoded body, if that is JSON. -/
inductive ClientAnswer where
  | requestError (message : String)
  | raised (error : PyError)
  | response (url : String) (statusCode : Int) (headers : List (String × String))
      (body : Option Json)

/-- `JsonHttpResponse`; what the checks read of its bytes is left to them. -/
structure JsonHttpResponse where
  url : String
  statusCode : Int
  headers : List (String × String)
  body : JsonObject

/-- How `send_json` ends: with a response, with a `JsonHttpClientError`, or with an
    exception that the executor does not expect. -/
inductive SendOutcome where
  | response (response : JsonHttpResponse)
  | clientError (message : String) (statusCode : Option Int)
  | raised (error : PyError)

/-- `send_json` from the answer of the client on. -/
def sendJson (url : String) (allowNonJsonResponse : Bool) : ClientAnswer → SendOutcome
  | .requestError message => .clientError s!"Request failed for {url}: {message}" none
  | .raised error => .raised error
  | .response responseUrl statusCode headers body =>
    if statusCode ∈ [204, 205, 304] then .response ⟨responseUrl, statusCode, headers, []⟩
    else
      match body with
      | none =>
        if allowNonJsonResponse then .response ⟨responseUrl, statusCode, headers, []⟩
        else .clientError s!"Response from {url} was not valid JSON" (some statusCode)
      | some (.obj fields) => .response ⟨responseUrl, statusCode, headers, fields⟩
      | some _ => .clientError s!"Response from {url} must be a JSON object" (some statusCode)

/-! ## Services -/

/-- A call with an `except` clause around it: a value, a caught exception with its text,
    or an exception that is not caught. -/
inductive Attempt (α : Type) where
  | value (a : α)
  | caught (message : String)
  | raised (error : PyError)

/-- The outside of an HTTP step. -/
structure HttpServices (external : ExternalParsers) where
  lower : String → String
  pyStr : Json → String
  maskUrlQuery : String → String
  /-- The headers of `_maybe_apply_ob_detached_jws`; the bytes are those of the JSON body. -/
  maybeApplyObDetachedJws : ManifestStep (requestParsers external) → String →
    Option (List (String × String)) → Option Json → Attempt (Option (List (String × String)))
  /-- `_apply_token_endpoint_auth_policy`. -/
  applyTokenEndpointAuthPolicy : ManifestStep (requestParsers external) →
    Option (List (String × String)) → String → Attempt (Option (List (String × String)))
  /-- `client.request`. -/
  request : HttpMethod → String → Option (List (String × String)) → Option ManifestBody →
    ClientAnswer
  assertionsRequireJsonBody : List external.Assertion → Bool
  /-- `_validate_response_signature_if_required`. -/
  validateResponseSignature : ManifestStep (requestParsers external) → JsonHttpResponse →
    ExecutionContext → Attempt (Option JsonObject)
  /-- `evaluate_assertion`, on the status, the headers and the body of the response. -/
  evaluateAssertion : external.Assertion → JsonHttpResponse → Except PyError AssertionResult

/-- `_assertions_require_json_body`. -/
def assertionsRequireJsonBody (assertions : List ManifestAssertion) : Bool :=
  assertions.any fun
    | .jsonField _ | .responseSchema _ => true
    | .httpStatus _ | .header _ | .legacyFcs _ => false

/-- The services of the steps of a parsed manifest, which evaluate its assertions. -/
def HttpServices.evaluating {urls : UrlText} {repr : Json → String}
    (services : HttpServices (manifestParsers urls repr)) (library : AssertionLibrary) :
    HttpServices (manifestParsers urls repr) :=
  { services with
    assertionsRequireJsonBody := Conformance.assertionsRequireJsonBody
    evaluateAssertion := fun assertion response => Conformance.evaluateAssertion library assertion
      response.statusCode response.headers response.body }

variable {external : ExternalParsers} (services : HttpServices external)

/-- `BufferedExecutionLogger.emit`. -/
def emit (log : List ExecutionEvent) (type : EventType) (stepId : String)
    (payload : JsonObject) : List ExecutionEvent :=
  log ++ [⟨type, stepId, maskPayload services.lower services.pyStr payload⟩]

/-! ## Results -/

/-- `_attach_evidence`. -/
def attachEvidence (step : StepOutcome) (requestEvidence : JsonObject)
    (responseEvidence : Option JsonObject) : StepOutcome :=
  let details := setField step.details "request" (.obj requestEvidence)
  { step with details := responseEvidence.elim details fun evidence =>
      setField details "response" (.obj evidence) }

/-- `_assertion_result_to_json`. -/
def assertionResultToJson (result : AssertionResult) : JsonObject :=
  [("status", .str (if result.passed then "passed" else "failed")),
   ("message", .str result.message)]

/-- `_build_assertion_step`. -/
def buildAssertionStep (name : String) (results : List AssertionResult) (warning : Option String)
    (response : JsonHttpResponse) : StepOutcome :=
  let passed := results.all (·.passed)
  let details : JsonObject :=
    [("assertions", .arr (results.map fun result => .obj (assertionResultToJson result)))]
  let url := some response.url
  let statusCode := some response.statusCode
  match passed, warning with
  | true, some warning =>
    { status := .warn, message := s!"{name} passed (warning: {warning})", url := url,
      statusCode := statusCode, details := setField details "warning" (.str warning) }
  | true, none =>
    { status := .passed, message := s!"{name} passed", url := url, statusCode := statusCode,
      details := details }
  | false, _ =>
    { status := .failed, message := s!"{name} failed", url := url, statusCode := statusCode,
      details := details }

/-- A failed step after its request was resolved. -/
def failedStep (message url : String) (statusCode : Option Int) (requestEvidence : JsonObject)
    (responseEvidence : Option JsonObject) : StepOutcome :=
  attachEvidence { status := .failed, message := message, url := some url,
                   statusCode := statusCode } requestEvidence responseEvidence

/-- The status code of an event or of the evidence, if there is one. -/
def statusCodeField (statusCode : Option Int) : JsonObject :=
  statusCode.elim [] fun statusCode => [("statusCode", .int statusCode)]

/-- `resolved_json_body`: a JSON `null` counts as none. -/
def jsonBody : Option ManifestBody → Option Json
  | some (.json .null) => none
  | some (.json value) => some value
  | _ => none

/-- The form part of a body. -/
def formBody : Option ManifestBody → Option (List (String × String))
  | some (.form fields) => some fields
  | _ => none

/-- The masked evidence of a response. -/
def responseEvidence (response : JsonHttpResponse) : JsonObject :=
  let evidence : JsonObject := [("statusCode", .int response.statusCode),
    ("body", maskJsonValue services.lower (.obj response.body))]
  if response.headers = [] then evidence
  else setField evidence "headers" (.obj (maskHeaders services.lower response.headers))

/-! ## The exchange -/

/-- The masking and resolving part of the services as a transport; the rest of it is not
    used by HTTP steps. -/
def HttpServices.transportWith
    (exchange : ManifestStep (requestParsers external) → String →
      Option (List (String × String)) → Option ManifestBody → JsonObject → ExecutionContext →
      List ExecutionEvent → Except PyError Exchange × List ExecutionEvent) :
    StepTransport external where
  World := List ExecutionEvent
  pyStr := services.pyStr
  maskHeaders := maskHeaders services.lower
  maskJson := maskJsonValue services.lower
  maskForm := maskFormFields services.lower
  maskUrlQuery := services.maskUrlQuery
  exchange := exchange
  registerSession _ log := (.error "", log)
  generateRequestObject _ _ _ _ log := (.error "", log)
  authorize _ _ _ _ log := (.error (.valueError ""), log)

/-- One `assertion-evaluated` event for each assertion of a response. -/
def emitAssertions (log : List ExecutionEvent) (stepId : String) (results : List AssertionResult) :
    List ExecutionEvent :=
  results.zipIdx.foldl (fun log entry => emit services log .assertionEvaluated stepId
    (("index", .int entry.2) :: assertionResultToJson entry.1)) log

/-- The results of `_build_assertion_step`. -/
def evaluateAssertions (manifestStep : ManifestStep (requestParsers external))
    (response : JsonHttpResponse) : Except PyError (List AssertionResult) :=
  manifestStep.assertions.mapM fun assertion => services.evaluateAssertion assertion response

/-- `_execute_v1_step_inner` once the response is recorded. -/
def checkResponse (manifestStep : ManifestStep (requestParsers external)) (url : String)
    (requestEvidence : JsonObject) (context : ExecutionContext) (response : JsonHttpResponse)
    (log : List ExecutionEvent) : Except PyError Exchange × List ExecutionEvent :=
  let stepId := manifestStep.id
  let record : ResponseRecord := ⟨response.statusCode, response.headers, response.body⟩
  let evidence := responseEvidence services response
  let log := emit services log .responseReceived stepId
    [("statusCode", .int response.statusCode), ("url", .str response.url)]
  match services.validateResponseSignature manifestStep response context with
  | .raised error => (.error error, log)
  | .caught message =>
    let log := emit services log .responseSignatureInvalid stepId [("message", .str message)]
    let evidence := setField evidence "responseSignature"
      (.obj [("status", .str "failed"), ("message", .str message)])
    (.ok (.answered record (failedStep s!"Response signature validation failed: {message}" url
      (some response.statusCode) requestEvidence (some evidence))), log)
  | .value signature =>
    let log := signature.elim log (emit services log .responseSignatureValidated stepId)
    let evidence := signature.elim evidence fun signature =>
      setField evidence "responseSignature"
        (.obj (PlanConfig.updateFields [("status", .str "passed")] signature))
    match evaluateAssertions services manifestStep response with
    | .error error => (.error error, log)
    | .ok results =>
      (.ok (.answered record (attachEvidence
        (buildAssertionStep manifestStep.name results manifestStep.warning response)
        requestEvidence (some evidence))), emitAssertions services log stepId results)

/-- `_execute_v1_step_inner` from the signed and authenticated request on. -/
def sendRequest (manifestStep : ManifestStep (requestParsers external)) (url : String)
    (headers : Option (List (String × String))) (body : Option ManifestBody)
    (requestEvidence : JsonObject) (context : ExecutionContext) (log : List ExecutionEvent) :
    Except PyError Exchange × List ExecutionEvent :=
  let stepId := manifestStep.id
  let method := (manifestStep.request : ManifestRequest).method
  let log := emit services log .requestSent stepId requestEvidence
  let allowNonJsonResponse := !services.assertionsRequireJsonBody manifestStep.assertions
  match sendJson url allowNonJsonResponse (services.request method url headers body) with
  | .raised error => (.error error, log)
  | .clientError message statusCode =>
    let log := emit services log .applicationError stepId
      (("message", .str message) :: statusCodeField statusCode)
    (.ok (.failed (failedStep message url statusCode requestEvidence
      (statusCode.map fun statusCode => statusCodeField (some statusCode)))), log)
  | .response response =>
    checkResponse services manifestStep url requestEvidence context response log

/-- `_execute_v1_step_inner` from the resolved request on: detached signature, client
    authentication, the request and the checks on its response. -/
def exchangeHttp (manifestStep : ManifestStep (requestParsers external)) (url : String)
    (headers : Option (List (String × String))) (body : Option ManifestBody)
    (evidence : JsonObject) (context : ExecutionContext) (log : List ExecutionEvent) :
    Except PyError Exchange × List ExecutionEvent :=
  match services.maybeApplyObDetachedJws manifestStep url headers (jsonBody body) with
  | .raised error => (.error error, log)
  | .caught message =>
    (.ok (.failed (failedStep s!"Unable to apply request signing: {message}" url none evidence
      none)), log)
  | .value headers =>
    let evidence := headers.elim evidence fun headers =>
      setField evidence "headers" (.obj (maskHeaders services.lower headers))
    match services.applyTokenEndpointAuthPolicy manifestStep (formBody body) url with
    | .raised error => (.error error, log)
    | .caught message =>
      (.ok (.failed (failedStep
        s!"Unable to apply token endpoint client authentication: {message}" url none evidence
        none)), log)
    | .value form =>
      match jsonBody body, form with
      | some value, _ =>
        sendRequest services manifestStep url headers (some (.json value))
          (setField evidence "body" (maskJsonValue services.lower value)) context log
      | none, some fields =>
        sendRequest services manifestStep url headers (some (.form fields))
          (setField evidence "form" (.obj (maskFormFields services.lower fields))) context log
      | none, none => sendRequest services manifestStep url headers none evidence context log

/-- The services as the transport of HTTP steps. -/
def HttpServices.transport : StepTransport external :=
  services.transportWith (exchangeHttp services)

/-! ## The step with its events -/

/-- The `placeholder-error` event of a resolution that fails. -/
def placeholderErrorPayload (location : String) : PlaceholderError → JsonObject
  | .missingPredecessor message =>
    [("reason", .str "missing-predecessor-response"), ("message", .str message)]
  | error => [("location", .str location), ("message", .str error.message)]

/-- The events of the first resolution of a step that fails: of the URL, of the headers,
    or, when the resolved headers are valid, of the body. -/
def placeholderEvents (manifestStep : ManifestStep (requestParsers external))
    (context : ExecutionContext) : Option JsonObject :=
  let request : ManifestRequest := manifestStep.request
  match resolvePlaceholders services.pyStr request.url context with
  | .error error => some (placeholderErrorPayload "url" error)
  | .ok _ =>
    match resolveHeaders services.transport request.headers context with
    | .error error => some (placeholderErrorPayload "headers" error)
    | .ok headers =>
      if (headers.getD []).forM (fun header => validateHeaderValue header.2
          s!"step '{manifestStep.id}' resolved header {header.1}") ≠ .ok () then none
      else
        match resolveBody services.transport request.body context with
        | .error error => some (placeholderErrorPayload "body" error)
        | .ok _ => none

/-- `_execute_v1_step` with the events it adds to the log. -/
def executeV1StepLogged (manifestStep : ManifestStep (requestParsers external))
    (context : ExecutionContext) (log : List ExecutionEvent) :
    StepReturn × List ExecutionEvent :=
  let stepId := manifestStep.id
  let log := emit services log .stepStarted stepId []
  let log := (placeholderEvents services manifestStep context).elim log
    (emit services log .placeholderError stepId)
  match executeV1Step services.transport manifestStep context log with
  | (.error error, log) => (.error error, log)
  | (.ok (outcome, context), log) =>
    (.ok (outcome, context), emit services log .stepCompleted stepId
      ([("status", .str outcome.status.text), ("message", .str outcome.message)] ++
        statusCodeField outcome.statusCode))

end Conformance
