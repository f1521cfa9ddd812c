import Conformance.Native.HttpExchange
import Conformance.Native.PsuAuthorization

/-!
# The two ways a redirect is captured

An ASPSP answers a PSU authorisation with a redirect. The participant's browser
follows it to `callback_view` of `conformance/api/callback_views.py`; a headless step
reads it from the `Location` header in `_execute_headless_psu_authorization` of
`conformance/executor.py`. Both write to the session store.

A query is the list of its parameters, blank values and duplicates included. The two
log events are returned with their payloads as they are before masking.
-/

namespace Conformance

/-- An event and its payload. -/
abbrev LogEntry := String × JsonObject

/-! ## The callback endpoint -/

/-- `request.GET.get(name)`: the last value. -/
def lastValue (parameters : List (String × String)) (name : String) : Option String :=
  (parameters.reverse.find? fun parameter => parameter.1 = name).map Prod.snd

/-- The status and the template fields of the landing page. -/
structure CallbackPage where
  status : Nat
  outcome : String
  errorCode : Option String := none
  message : Option String := none

/-- `_GENERIC_FAILURE_MESSAGE`. -/
def genericFailureMessage : String := "Invalid or expired callback."

/-- `_render_failure`. -/
def renderFailure : CallbackPage where
  status := 400
  outcome := "failure"
  message := some genericFailureMessage

/-- `_render_fragment_bridge`. -/
def renderFragmentBridge : CallbackPage where
  status := 200
  outcome := "fragment_bridge"

/-- The payload of `_emit_callback_event`: what the session holds, not the query. -/
def callbackPayload (session : AuthSession) (state : String) : JsonObject :=
  ("state", .str state) ::
    match session.status, session.code, session.error with
    | .captured, some code, _ => [("code", .str code)]
    | .error, _, some error =>
      ("error", .str error) ::
        (session.errorDescription.map fun description =>
          ("error_description", Json.str description)).toList
    | _, _, _ => []

/-- `_emit_callback_event`; `hasLogger` says whether the run is there and has a log. -/
def emitCallbackEvent (hasLogger : String → Bool) (session : AuthSession) (state : String) :
    List LogEntry :=
  if hasLogger session.runId = true then
    [("auth-callback-received", callbackPayload session state)]
  else []

/-- What `callback_view` asks of the store: the error of a redirect comes before its
    code, and an empty string is no value. -/
def callbackCapture (parameters : List (String × String)) (state : String) (now : Timestamp) :
    Option (AuthSessionStoreM AuthSession) :=
  let error := (lastValue parameters "error").filter (· ≠ "")
  let code := (lastValue parameters "code").filter (· ≠ "")
  match error, code with
  | some error, _ => some (AuthSessionStore.captureError state error
      (lastValue parameters "error_description") now)
  | none, some code => some (AuthSessionStore.captureCode state code now)
  | none, none => none

/-- `callback_view`. -/
def callbackView (hasLogger : String → Bool) (parameters : List (String × String))
    (now : Timestamp) (store : AuthSessionStore) :
    CallbackPage × List LogEntry × AuthSessionStore :=
  let state := (lastValue parameters "state").getD ""
  let error := lastValue parameters "error"
  if state = "" then
    (if parameters = [] then renderFragmentBridge else renderFailure, [], store)
  else
    match callbackCapture parameters state now with
    | none => (renderFailure, [], store)
    | some capture =>
      match capture.run store with
      -- an unknown state and a used one give the same page
      | .error _ store => (renderFailure, [], store)
      | .ok session store =>
        let page := { status := 200, errorCode := error,
                      outcome := if error.any (· ≠ "") = true then "error" else "success" }
        (page, emitCallbackEvent hasLogger session state, store)

/-! ## The headless redirect -/

/-- `urlsplit(url)`; reading the port can raise. -/
structure SplitUrl where
  scheme : String
  hostname : Option String
  port : Except PyError (Option Nat)
  path : String
  query : String

/-- What is used of `urllib.parse`. -/
structure UrlLibrary where
  urlsplit : String → Except PyError SplitUrl
  /-- `parse_qsl(query, keep_blank_values=True)`. -/
  parseQsl : String → List (String × String)

section Headless

variable (urls : UrlLibrary)

/-- `_effective_port`. -/
def effectivePort (scheme : String) (parsedPort : Option Nat) : Option Nat :=
  match parsedPort with
  | some port => some port
  | none => if scheme = "https" then some 443 else if scheme = "http" then some 80 else none

/-- `redirect_matches_registered_uri`. -/
def redirectMatchesRegisteredUri (location redirectUri : String) : Except PyError Bool := do
  let location ← urls.urlsplit location
  let redirect ← urls.urlsplit redirectUri
  if location.scheme = redirect.scheme ∧ location.hostname = redirect.hostname then
    let locationPort ← location.port
    let redirectPort ← redirect.port
    return effectivePort location.scheme locationPort = effectivePort redirect.scheme redirectPort ∧
      location.path = redirect.path
  else return false

/-- `dict(parameters)`: a later value replaces an earlier one. -/
def redirectParameters (parameters : List (String × String)) : Dict String String :=
  parameters.foldl (fun redirect parameter => redirect.set parameter.1 parameter.2) .empty

/-- `extract_redirect_parameters`. -/
def extractRedirectParameters (location : String) : Except PyError (Dict String String) := do
  let parts ← urls.urlsplit location
  return redirectParameters (urls.parseQsl parts.query)

/-- What the headless request ends with: an `httpx.HTTPError`, another exception, or a
    response with its `Location` header. -/
inductive HeadlessAnswer where
  | httpError (message : String)
  | raised (error : PyError)
  | response (statusCode : Int) (location : Option String)

/-- `synthesize_psu_response`. -/
def synthesizePsuResponse (code state : String) : ResponseRecord :=
  ⟨200, [], [("code", .str code), ("state", .str state)]⟩

/-- `_complete_psu_step_from_session`. -/
def completePsuStepFromSession (stepId stepName : String) (context : ExecutionContext)
    (request : RequestRecord) (requestEvidence : JsonObject) (resultUrl : String)
    (session : AuthSession) : StepOutcome × ExecutionContext :=
  match session.status, session.code with
  | .captured, some code =>
    let response := synthesizePsuResponse code session.state
    ({ status := .passed, message := s!"{stepName} captured authorization code",
       url := some resultUrl, statusCode := some response.statusCode },
      recordStep context stepId request (some response))
  | _, _ =>
    let error := (session.error.filter (· ≠ "")).getD "authorization_error"
    let details := ("error", Json.str error) ::
      (session.errorDescription.map fun description =>
        ("error_description", Json.str description)).toList
    let outcome := { status := .failed, details := details, url := some resultUrl,
                     message := s!"{stepName} returned an authorization error" }
    (attachEvidence outcome requestEvidence none, recordStep context stepId request none)

/-- What the headless step asks of the store: the error of a redirect comes before its
    code, and an empty code is no value. -/
def headlessCapture (parameters : Dict String String) (state : String) (now : Timestamp) :
    Option (AuthSessionStoreM AuthSession) :=
  match parameters.get? "error", parameters.get? "code" with
  | some error, _ =>
    some (AuthSessionStore.captureError state error (parameters.get? "error_description") now)
  | none, some code => if code ≠ "" then some (AuthSessionStore.captureCode state code now) else none
  | none, none => none

/-- What `auth_session_store.get(run_id, state)` returns; it never raises. -/
def readSession (runId state : String) (store : AuthSessionStore) : Option AuthSession :=
  match (AuthSessionStore.get runId state).run store with
  | .ok session _ => session
  | .error _ _ => none

/-- What the headless step knows before it asks the bank. -/
structure HeadlessStep where
  stepId : String
  stepName : String
  context : ExecutionContext
  runId : String
  resultUrl : String
  request : RequestRecord
  requestEvidence : JsonObject
  registeredState : String
  redirectUri : String

/-- A step that fails with the response, recorded without it. -/
def HeadlessStep.failed (step : HeadlessStep) (message : String) (statusCode : Option Int) :
    StepOutcome × ExecutionContext :=
  let outcome := { status := .failed, message := message, url := some step.resultUrl,
                   statusCode := statusCode }
  (attachEvidence outcome step.requestEvidence
      (statusCode.map fun code => [("statusCode", Json.int code)]),
    recordStep step.context step.stepId step.request none)

/-- `_execute_headless_psu_authorization`. -/
def executeHeadlessPsuAuthorization (repr : Json → String) (step : HeadlessStep)
    (answer : HeadlessAnswer) (now : Timestamp) (store : AuthSessionStore) :
    StepReturn × List LogEntry × AuthSessionStore :=
  match answer with
  | .raised error => (.error error, [], store)
  | .httpError message =>
    (.ok (step.failed s!"PSU authorisation headless request failed: {message}" none), [], store)
  | .response statusCode location =>
    let failed := fun message => (.ok (step.failed message (some statusCode)) : StepReturn)
    if ¬(300 ≤ statusCode ∧ statusCode < 400) then
      (failed ("PSU authorisation headless request did not return a redirect " ++
        s!"(got HTTP {statusCode})"), [], store)
    else
      match location with
      | none =>
        (failed "PSU authorisation headless redirect was missing a Location header", [], store)
      | some location =>
        match redirectMatchesRegisteredUri urls location step.redirectUri with
        | .error error => (.error error, [], store)
        | .ok false =>
          (failed "PSU authorisation redirect target did not match the configured redirectUri", [],
            store)
        | .ok true =>
          match extractRedirectParameters urls location with
          | .error error => (.error error, [], store)
          | .ok parameters =>
            if parameters.get? "state" ≠ some step.registeredState then
              (failed "PSU authorisation redirect state did not match the registered session", [],
                store)
            else
              let state := step.registeredState
              let events := [("psu-authorization-redirect-received",
                [("state", .str state), ("status", Json.int statusCode)])]
              match headlessCapture parameters state now with
              | none =>
                (failed "PSU authorisation redirect did not include a code or error", events, store)
              | some capture =>
                match capture.run store with
                | .error raised store =>
                  let message := raised.message repr
                  (failed s!"Unable to capture PSU authorisation redirect: {message}", events, store)
                | .ok _ store =>
                  match readSession step.runId state store with
                  | none =>
                    (failed "PSU authorisation redirect did not resolve a session for this run",
                      events, store)
                  | some session =>
                    (.ok (completePsuStepFromSession step.stepId step.stepName step.context
                      step.request step.requestEvidence step.resultUrl session), events, store)

end Headless

end Conformance
