import Conformance.Native.ConcurrentExecutor
import Conformance.Native.ManifestRequest
import Conformance.Native.PlanConfig

/-!
# Executing manifest steps

`_execute_v1_step` and `_execute_v1_psu_step` of `conformance/executor.py`: the
placeholders of a step are resolved against its execution context, the request is
sent, and the step is recorded in the context that the next step is given.

What happens between a resolved request and its response (signing, client
authentication, the exchange with the bank, the checks on the response) and the
masking of evidence are fields of `StepTransport`.
-/

namespace Conformance

variable (external : ExternalParsers)

/-- How an exchange that was started ends. -/
inductive Exchange where
  | failed (outcome : StepOutcome)
  | answered (response : ResponseRecord) (outcome : StepOutcome)

/-- A PSU authorisation with its placeholders resolved. Without a nonce one is drawn at
    random. -/
structure PsuRequest where
  authorizationEndpoint : String
  clientId : String
  redirectUri : String
  state : Option String
  nonce : Option String

/-- The outside of a step. -/
structure StepTransport where
  World : Type
  pyStr : Json → String
  maskHeaders : List (String × String) → JsonObject
  maskJson : Json → Json
  maskForm : List (String × String) → JsonObject
  maskUrlQuery : String → String
  exchange : ManifestStep (requestParsers external) → String → Option (List (String × String)) →
    Option ManifestBody → JsonObject → ExecutionContext → World → Except PyError Exchange × World
  registerSession : Option String → World → Except String String × World
  generateRequestObject : PsuAuthorizationStep (requestParsers external) → PsuRequest → String →
    Option String → World → Except String String × World
  authorize : PsuAuthorizationStep (requestParsers external) → PsuRequest → Option String →
    ExecutionContext → World → Except PyError (String × Exchange) × World

variable {external} (transport : StepTransport external)

/-- What a step returns, or the exception it leaves with. -/
abbrev StepReturn := Except PyError (StepOutcome × ExecutionContext)

/-! ## Early returns -/

/-- The result of a step that sent nothing, recorded without a response. -/
def returnWithoutResponse (status : CheckStatus) (message : String) (context : ExecutionContext)
    (stepId method url : String) (evidence : JsonObject) : StepReturn :=
  .ok ({ status := status, message := message, url := some url,
         details := [("request", .obj evidence)] },
    recordStep context stepId ⟨method, url⟩ none)

/-- The two `except` clauses around a resolution: a missing response of an earlier step
    skips the step (`_skipped_step`), anything else fails it. -/
def returnUnresolved (context : ExecutionContext) (stepId method url : String)
    (evidence : JsonObject) (error : PlaceholderError) : StepReturn :=
  let message := error.message
  match error with
  | .missingPredecessor _ =>
    returnWithoutResponse .skipped s!"Skipped: {message}" context stepId method url evidence
  | _ =>
    returnWithoutResponse .failed s!"Placeholder resolution failed: {message}" context stepId method
      url evidence

/-- A resolution whose failure ends the step. -/
def orReturn {α : Type} (resolved : Except PlaceholderError α)
    (onError : PlaceholderError → StepReturn) : Except StepReturn α :=
  match resolved with
  | .ok value => .ok value
  | .error error => .error (onError error)

/-- A URL check whose failure ends the step. -/
def checkUrlOrReturn (check : Except PyError Unit) (onError : String → StepReturn) :
    Except StepReturn Unit :=
  match check with
  | .ok () => .ok ()
  | .error (.httpsUrlValidationError message) => .error (onError message)
  | .error error => .error (.error error)

/-! ## HTTP steps -/

/-- A request with its placeholders resolved, and the masked evidence of it. -/
structure PreparedRequest where
  url : String
  headers : Option (List (String × String))
  body : Option ManifestBody
  evidence : JsonObject

/-- The values of a string-valued mapping, resolved. -/
def resolveMapping (fields : List (String × String)) (context : ExecutionContext) :
    Except PlaceholderError (List (String × String)) :=
  fields.mapM fun field => do
    let value ← resolvePlaceholders transport.pyStr field.2 context
    return (field.1, value)

/-- The headers, resolved. -/
def resolveHeaders (headers : Option (List (String × String))) (context : ExecutionContext) :
    Except PlaceholderError (Option (List (String × String))) :=
  match headers with
  | none => .ok none
  | some headers => do
    let resolved ← resolveMapping transport headers context
    return some resolved

/-- The body, resolved. -/
def resolveBody (body : Option ManifestBody) (context : ExecutionContext) :
    Except PlaceholderError (Option ManifestBody) :=
  match body with
  | none => .ok none
  | some (.json value) => do
    let resolved ← resolveInStructure transport.pyStr context value
    return some (.json resolved)
  | some (.form fields) => do
    let resolved ← resolveMapping transport fields context
    return some (.form resolved)

/-- The evidence of resolved headers. -/
def headersEvidence (evidence : JsonObject) : Option (List (String × String)) → JsonObject
  | none => evidence
  | some headers => setField evidence "headers" (.obj (transport.maskHeaders headers))

/-- The evidence of a resolved body; a JSON `null` counts as none. -/
def bodyEvidence (evidence : JsonObject) : Option ManifestBody → JsonObject
  | none | some (.json .null) => evidence
  | some (.json value) => setField evidence "body" (transport.maskJson value)
  | some (.form fields) => setField evidence "form" (.obj (transport.maskForm fields))

/-- A resolved header value is checked like a literal one. -/
def checkResolvedHeader (context : ExecutionContext) (stepId method url : String)
    (evidence : JsonObject) (header : String × String) : Except StepReturn Unit :=
  match validateHeaderValue header.2 s!"step '{stepId}' resolved header {header.1}" with
  | .ok () => .ok ()
  | .error (.manifestError message) => .error (returnWithoutResponse .failed
      s!"Resolved header validation failed: {message}" context stepId method url evidence)
  | .error error => .error (.error error)

/-- `_execute_v1_step_inner` up to the exchange. A method outside the supported set cannot
    be written. -/
def prepareRequest (manifestStep : ManifestStep (requestParsers external))
    (context : ExecutionContext) : Except StepReturn PreparedRequest := do
  let request : ManifestRequest := manifestStep.request
  let stepId := manifestStep.id
  let method := request.method.text
  let evidence : JsonObject := [("method", .str method), ("url", .str request.url)]
  let url ← orReturn (resolvePlaceholders transport.pyStr request.url context)
    (returnUnresolved context stepId method request.url evidence)
  let evidence := setField evidence "url" (.str url)
  let headers ← orReturn (resolveHeaders transport request.headers context)
    (returnUnresolved context stepId method url evidence)
  let evidence := headersEvidence transport evidence headers
  (headers.getD []).forM (checkResolvedHeader context stepId method url evidence)
  let body ← orReturn (resolveBody transport request.body context)
    (returnUnresolved context stepId method url evidence)
  let evidence := bodyEvidence transport evidence body
  checkUrlOrReturn (external.validateHttpsUrl url s!"Step '{stepId}' request URL")
    fun message => returnWithoutResponse .failed message context stepId method url evidence
  return { url := url, headers := headers, body := body, evidence := evidence }

/-- `_record_runtime_token_if_present`. -/
def recordRuntimeTokenIfPresent (context : ExecutionContext)
    (manifestStep : ManifestStep (requestParsers external)) (response : ResponseRecord) :
    ExecutionContext :=
  match manifestStep.producesTokenId, response.body.lookup "access_token" with
  | some tokenId, some (.str accessToken) =>
    if accessToken = "" then context else recordToken context tokenId accessToken
  | _, _ => context

/-- `_execute_v1_step`. -/
def executeV1Step (manifestStep : ManifestStep (requestParsers external))
    (context : ExecutionContext) (world : transport.World) : StepReturn × transport.World :=
  match prepareRequest transport manifestStep context with
  | .error returned => (returned, world)
  | .ok prepared =>
    let request : ManifestRequest := manifestStep.request
    let record : RequestRecord := ⟨request.method.text, prepared.url⟩
    match transport.exchange manifestStep prepared.url prepared.headers prepared.body
        prepared.evidence context world with
    | (.error error, world) => (.error error, world)
    | (.ok (.failed outcome), world) =>
      (.ok (outcome, recordStep context manifestStep.id record none), world)
    | (.ok (.answered response outcome), world) =>
      (.ok (outcome, recordRuntimeTokenIfPresent
        (recordStep context manifestStep.id record (some response)) manifestStep response), world)

/-! ## PSU authorisation steps -/

/-- An optional template, resolved. -/
def resolveOptional (template : Option String) (context : ExecutionContext) :
    Except PlaceholderError (Option String) :=
  match template with
  | none => .ok none
  | some template => do
    let value ← resolvePlaceholders transport.pyStr template context
    return some value

/-- The templates of a PSU step, resolved in the order of the source. A configured
    authorisation endpoint takes the place of the resolved one. -/
def resolvePsuRequest (manifestStep : PsuAuthorizationStep (requestParsers external))
    (context : ExecutionContext) : Except PlaceholderError PsuRequest := do
  let endpoint ← resolvePlaceholders transport.pyStr manifestStep.authorizationEndpoint context
  let clientId ← resolvePlaceholders transport.pyStr manifestStep.clientId context
  let redirectUri ← resolvePlaceholders transport.pyStr manifestStep.redirectUri context
  let state ← resolveOptional transport manifestStep.state context
  let nonce ← resolveOptional transport manifestStep.nonce context
  let configured := context.config.bind (·.oauthAuthorizationEndpoint)
  return { authorizationEndpoint := configured.getD endpoint, clientId := clientId,
           redirectUri := redirectUri, state := state, nonce := nonce }

/-- The resolved parts of a request object: a literal, or an audience and an intent id to
    generate one from. -/
def resolveRequestObjectTemplates (requestObject : Option RequestObjectValue)
    (context : ExecutionContext) : Except PlaceholderError (Option RequestObjectValue) :=
  match requestObject with
  | none => .ok none
  | some (.literal text) => do
    let value ← resolvePlaceholders transport.pyStr text context
    return some (.literal value)
  | some (.generated audience openbankingIntentId) => do
    let audience ← resolveOptional transport audience context
    let openbankingIntentId ← resolveOptional transport openbankingIntentId context
    return some (.generated audience openbankingIntentId)

/-- `_resolve_psu_request_object` once its templates are resolved. -/
def buildRequestObject (manifestStep : PsuAuthorizationStep (requestParsers external))
    (request : PsuRequest) (requestObject : Option RequestObjectValue) (world : transport.World) :
    Except String (Option String) × transport.World :=
  match requestObject with
  | none => (.ok none, world)
  | some (.literal text) => (.ok (some text), world)
  | some (.generated audience openbankingIntentId) =>
    let (generated, world) := transport.generateRequestObject manifestStep request
      (audience.getD request.authorizationEndpoint) openbankingIntentId world
    (generated.map some, world)

/-- The checks on the resolved URLs of a PSU step. -/
def checkPsuUrls (external : ExternalParsers) (stepId : String) (request : PsuRequest) (onError : String → StepReturn) :
    Except StepReturn Unit := do
  checkUrlOrReturn (external.validateHttpsUrl request.authorizationEndpoint
    s!"Step '{stepId}' authorizationEndpoint") onError
  checkUrlOrReturn (external.validateOauthRedirectUri request.redirectUri
    s!"Step '{stepId}' redirectUri") onError

/-- `_execute_v1_psu_step_inner` from the resolved request on. -/
def authorizePsu (manifestStep : PsuAuthorizationStep (requestParsers external))
    (context : ExecutionContext) (request : PsuRequest) (world : transport.World) :
    StepReturn × transport.World :=
  let stepId := manifestStep.id
  let url := transport.maskUrlQuery request.authorizationEndpoint
  let evidence : JsonObject := [("method", .str "GET"), ("url", .str url)]
  let returnFailed := fun message =>
    returnWithoutResponse .failed message context stepId "GET" url evidence
  match transport.registerSession request.state world with
  | (.error message, world) =>
    (returnFailed s!"Unable to register PSU authorisation session: {message}", world)
  | (.ok state, world) =>
    match resolveRequestObjectTemplates transport manifestStep.requestObject context with
    | .error error => (returnUnresolved context stepId "GET" url evidence error, world)
    | .ok templates =>
      let request := { request with state := some state }
      match buildRequestObject transport manifestStep request templates world with
      | (.error message, world) =>
        (returnFailed s!"Unable to build PSU request object: {message}", world)
      | (.ok requestObject, world) =>
        match transport.authorize manifestStep request requestObject context world with
        | (.error error, world) => (.error error, world)
        | (.ok (resultUrl, .failed outcome), world) =>
          (.ok (outcome, recordStep context stepId ⟨"GET", resultUrl⟩ none), world)
        | (.ok (resultUrl, .answered response outcome), world) =>
          (.ok (outcome, recordStep context stepId ⟨"GET", resultUrl⟩ (some response)), world)

/-- `_execute_v1_psu_step`. -/
def executeV1PsuStep (manifestStep : PsuAuthorizationStep (requestParsers external))
    (context : ExecutionContext) (world : transport.World) : StepReturn × transport.World :=
  let stepId := manifestStep.id
  let initialUrl := transport.maskUrlQuery manifestStep.authorizationEndpoint
  let evidence : JsonObject := [("method", .str "GET"), ("url", .str initialUrl)]
  match resolvePsuRequest transport manifestStep context with
  | .error error => (returnUnresolved context stepId "GET" initialUrl evidence error, world)
  | .ok request =>
    let url := transport.maskUrlQuery request.authorizationEndpoint
    let evidence := setField evidence "url" (.str url)
    match checkPsuUrls external stepId request fun message =>
        returnWithoutResponse .failed message context stepId "GET" url evidence with
    | .error returned => (returned, world)
    | .ok () => authorizePsu transport manifestStep context request world

/-- The step executors of a run under a runtime config. -/
def manifestExecutor (config : Option RuntimeConfig) :
    SharedExecutor (requestParsers external) where
  World := transport.World
  Context := ExecutionContext
  initialContext := { config := config }
  executeV1Step := executeV1Step transport
  executeV1PsuStep := executeV1PsuStep transport

end Conformance
