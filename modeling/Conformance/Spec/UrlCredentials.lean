import Conformance.Native.HttpExchange
import Conformance.Spec.JsonObjects
import Conformance.Spec.StepContexts

/-!
# Credentials in the URL of an HTTP step

The evidence of a step masks headers, bodies and forms by their names. The resolved
URL is attached as it is, at every exit of the step, and logged as it is when the
request is sent; a PSU step passes it through `mask_url_query`.

## Key results

- `executeV1StepLogged_shows`: every result of a step shows the resolved URL
- `requestSent_shows`: so does the event of every request
- `credentials_shown`: runs with different credentials in the URL leave different results
-/

namespace Conformance

open Except

variable {external : ExternalParsers} {services : HttpServices external}

/-! ## Evidence -/

/-- The evidence of a request shows its URL. -/
def HasUrl (evidence : JsonObject) (url : String) : Prop :=
  evidence.lookup "url" = some (.str url)

/-- Setting another field keeps the URL. -/
theorem HasUrl.setField {evidence : JsonObject} {url key : String} (h : HasUrl evidence url)
    (value : Json) (hkey : key ≠ "url") : HasUrl (setField evidence key value) url := by
  rw [HasUrl, lookup_setField, if_neg hkey.symm]
  exact h

/-- The details of a result show a URL. -/
def Shows (outcome : StepOutcome) (url : String) : Prop :=
  ∃ evidence, outcome.details.lookup "request" = some (.obj evidence) ∧ HasUrl evidence url

/-- A result with the evidence attached shows its URL. -/
theorem shows_attachEvidence {evidence : JsonObject} {url : String} (h : HasUrl evidence url)
    (step : StepOutcome) (responseEvidence : Option JsonObject) :
    Shows (attachEvidence step evidence responseEvidence) url := by
  refine ⟨evidence, ?_, h⟩
  cases responseEvidence with
  | none => simp [attachEvidence]
  | some response => simp [attachEvidence]

/-- What an exchange shows. -/
def Exchange.Shows (exchange : Exchange) (url : String) : Prop :=
  match exchange with
  | .failed outcome => Conformance.Shows outcome url
  | .answered _ outcome => Conformance.Shows outcome url

/-- Every end of checking a response shows the URL. -/
theorem checkResponse_shows {manifestStep : ManifestStep (requestParsers external)}
    {url : String} {evidence : JsonObject} (h : HasUrl evidence url) (context : ExecutionContext)
    (response : JsonHttpResponse) (log : List ExecutionEvent) :
    Ensures (Exchange.Shows · url)
      (checkResponse services manifestStep url evidence context response log).1 := by
  unfold checkResponse
  simp only
  split
  · exact .error
  · exact .ok (shows_attachEvidence h _ _)
  · split
    · exact .error
    · exact .ok (shows_attachEvidence h _ _)

/-- So does every end of sending a request. -/
theorem sendRequest_shows {manifestStep : ManifestStep (requestParsers external)} {url : String}
    {headers : Option (List (String × String))} {body : Option ManifestBody}
    {evidence : JsonObject} (h : HasUrl evidence url) (context : ExecutionContext)
    (log : List ExecutionEvent) :
    Ensures (Exchange.Shows · url)
      (sendRequest services manifestStep url headers body evidence context log).1 := by
  unfold sendRequest
  simp only
  split
  · exact .error
  · exact .ok (shows_attachEvidence h _ _)
  · exact checkResponse_shows h _ _ _

/-- So does every end of an exchange. -/
theorem exchangeHttp_shows {manifestStep : ManifestStep (requestParsers external)} {url : String}
    {headers : Option (List (String × String))} {body : Option ManifestBody}
    {evidence : JsonObject} (h : HasUrl evidence url) (context : ExecutionContext)
    (log : List ExecutionEvent) :
    Ensures (Exchange.Shows · url)
      (exchangeHttp services manifestStep url headers body evidence context log).1 := by
  unfold exchangeHttp
  split
  · exact .error
  · exact .ok (shows_attachEvidence h _ _)
  · rename_i headers _
    simp only
    have hevidence : HasUrl (headers.elim evidence fun headers =>
        setField evidence "headers" (.obj (maskHeaders services.lower headers))) url := by
      cases headers with
      | none => exact h
      | some headers => exact h.setField _ (by decide)
    split
    · exact .error
    · exact .ok (shows_attachEvidence hevidence _ _)
    · split
      · exact sendRequest_shows (hevidence.setField _ (by decide)) _ _
      · exact sendRequest_shows (hevidence.setField _ (by decide)) _ _
      · exact sendRequest_shows hevidence _ _

/-! ## Early returns -/

/-- What a step returns shows a URL. -/
def StepReturn.Shows (returned : StepReturn) (url : String) : Prop :=
  Ensures (fun result => Conformance.Shows result.1 url) returned

/-- A return without a response shows the URL. -/
theorem returnWithoutResponse_shows {evidence : JsonObject} {url : String}
    (h : HasUrl evidence url) (status : CheckStatus) (message : String)
    (context : ExecutionContext) (stepId method recorded : String) :
    StepReturn.Shows (returnWithoutResponse status message context stepId method recorded evidence)
      url :=
  .ok ⟨evidence, rfl, h⟩

/-- So does a return on a placeholder that is not resolved. -/
theorem orReturn_shows {α : Type} {evidence : JsonObject} {url : String}
    (h : HasUrl evidence url) (resolved : Except PlaceholderError α) (context : ExecutionContext)
    (stepId method recorded : String) :
    RaisesOnly (StepReturn.Shows · url)
      (orReturn resolved (returnUnresolved context stepId method recorded evidence)) := by
  cases resolved with
  | ok value => exact .ok value
  | error error =>
    refine .error ?_
    cases error <;> exact returnWithoutResponse_shows h _ _ _ _ _ _

/-- So does a return on a header that is refused. -/
theorem checkResolvedHeader_shows {evidence : JsonObject} {url : String} (h : HasUrl evidence url)
    (context : ExecutionContext) (stepId method recorded : String) (header : String × String) :
    RaisesOnly (StepReturn.Shows · url)
      (checkResolvedHeader context stepId method recorded evidence header) := by
  unfold checkResolvedHeader
  split
  · exact .ok ()
  · exact .error (returnWithoutResponse_shows h _ _ _ _ _ _)
  · exact .error .error

/-- So does a return on a URL that is refused. -/
theorem checkUrlOrReturn_shows {evidence : JsonObject} {url : String} (h : HasUrl evidence url)
    (check : Except PyError Unit) (context : ExecutionContext)
    (stepId method recorded : String) :
    RaisesOnly (StepReturn.Shows · url) (checkUrlOrReturn check fun message =>
      returnWithoutResponse .failed message context stepId method recorded evidence) := by
  unfold checkUrlOrReturn
  split
  · exact .ok ()
  · exact .error (returnWithoutResponse_shows h _ _ _ _ _ _)
  · exact .error .error

/-- The headers leave the URL in the evidence. -/
theorem HasUrl.headersEvidence {transport : StepTransport external} {evidence : JsonObject}
    {url : String} (h : HasUrl evidence url) (headers : Option (List (String × String))) :
    HasUrl (headersEvidence transport evidence headers) url := by
  cases headers with
  | none => exact h
  | some headers => exact h.setField _ (by decide)

/-- The body leaves the URL in the evidence. -/
theorem HasUrl.bodyEvidence {transport : StepTransport external} {evidence : JsonObject}
    {url : String} (h : HasUrl evidence url) (body : Option ManifestBody) :
    HasUrl (bodyEvidence transport evidence body) url := by
  unfold Conformance.bodyEvidence
  split
  · exact h
  · exact h
  · exact h.setField _ (by decide)
  · exact h.setField _ (by decide)

/-- Once the URL is resolved, every early return shows it, and so does the evidence of a
    request that is ready. -/
theorem prepareRequest_shows {transport : StepTransport external}
    {manifestStep : ManifestStep (requestParsers external)} {context : ExecutionContext}
    {url : String}
    (hurl : resolvePlaceholders transport.pyStr (manifestStep.request : ManifestRequest).url
      context = .ok url) :
    RaisesOnly (StepReturn.Shows · url) (prepareRequest transport manifestStep context) ∧
      Ensures (fun prepared => prepared.url = url ∧ HasUrl prepared.evidence url)
        (prepareRequest transport manifestStep context) := by
  have hresolved (onError : PlaceholderError → StepReturn) :
      orReturn (resolvePlaceholders transport.pyStr
        (manifestStep.request : ManifestRequest).url context) onError = .ok url := by
    rw [hurl]
    rfl
  have hevidence (method : String) (initial : Json) :
      HasUrl (setField [("method", .str method), ("url", initial)] "url" (.str url)) url := by
    simp [HasUrl]
  constructor
  · refine .bind (fun e he => absurd ((hresolved _).symm.trans he) (by simp)) fun url' hurl' => ?_
    obtain rfl := Except.ok.inj ((hresolved _).symm.trans hurl')
    exact .bind (orReturn_shows (hevidence _ _) _ _ _ _ _) fun headers _ =>
      .bind (List.raisesOnly_forM fun header _ =>
        checkResolvedHeader_shows ((hevidence _ _).headersEvidence _) _ _ _ _ _) fun _ _ =>
      .bind (orReturn_shows ((hevidence _ _).headersEvidence _) _ _ _ _ _) fun body _ =>
      .bind (checkUrlOrReturn_shows (((hevidence _ _).headersEvidence _).bodyEvidence _) _ _ _ _ _)
        fun _ _ => .ok _
  · refine .bind fun url' hurl' => .bind fun headers _ => .bind fun _ _ => .bind fun body _ =>
      .bind fun _ _ => .ok ?_
    obtain rfl := Except.ok.inj ((hresolved _).symm.trans hurl')
    exact ⟨rfl, ((hevidence _ _).headersEvidence _).bodyEvidence _⟩

/-- Every result of a step whose URL is resolved shows that URL. -/
theorem executeV1Step_shows {manifestStep : ManifestStep (requestParsers external)}
    {context : ExecutionContext} {url : String}
    (hurl : resolvePlaceholders services.pyStr (manifestStep.request : ManifestRequest).url
      context = .ok url) (log : List ExecutionEvent) :
    StepReturn.Shows (executeV1Step services.transport manifestStep context log).1 url := by
  have hprepare : RaisesOnly (StepReturn.Shows · url)
        (prepareRequest services.transport manifestStep context) ∧
      Ensures (fun prepared => prepared.url = url ∧ HasUrl prepared.evidence url)
        (prepareRequest services.transport manifestStep context) := prepareRequest_shows hurl
  unfold executeV1Step
  split
  · exact hprepare.1 _ ‹_›
  · rename_i prepared hok
    obtain ⟨rfl, hevidence⟩ := hprepare.2 prepared hok
    have hexchange : Ensures (Exchange.Shows · prepared.url)
        (services.transport.exchange manifestStep prepared.url prepared.headers prepared.body
          prepared.evidence context log).1 := exchangeHttp_shows hevidence context log
    simp only
    split
    · exact .error
    · rename_i hfailed
      rw [hfailed] at hexchange
      exact .ok (hexchange _ rfl)
    · rename_i hanswered
      rw [hanswered] at hexchange
      exact .ok (hexchange _ rfl)

/-- Every result of a step shows the resolved URL. -/
theorem executeV1StepLogged_shows {manifestStep : ManifestStep (requestParsers external)}
    {context : ExecutionContext} {url : String}
    (hurl : resolvePlaceholders services.pyStr (manifestStep.request : ManifestRequest).url
      context = .ok url) (log : List ExecutionEvent) :
    StepReturn.Shows (executeV1StepLogged services manifestStep context log).1 url := by
  unfold executeV1StepLogged
  simp only
  split
  · exact .error
  · rename_i hstep
    have hshows := executeV1Step_shows hurl
      ((placeholderEvents services manifestStep context).elim
        (emit services log .stepStarted manifestStep.id [])
        (emit services (emit services log .stepStarted manifestStep.id []) .placeholderError
          manifestStep.id))
    rw [hstep] at hshows
    exact .ok (hshows _ rfl)

/-- A result shows one URL. -/
theorem Shows.unique {outcome : StepOutcome} {url url' : String} (h : Shows outcome url)
    (h' : Shows outcome url') : url = url' := by
  obtain ⟨evidence, hevidence, hurl⟩ := h
  obtain ⟨evidence', hevidence', hurl'⟩ := h'
  obtain rfl := Json.obj.inj (Option.some.inj (hevidence.symm.trans hevidence'))
  exact Json.str.inj (Option.some.inj (hurl.symm.trans hurl'))

/-! ## Events -/

/-- Every request that a log reports shows a URL. -/
def RequestsShow (log : List ExecutionEvent) (url : String) : Prop :=
  ∀ event ∈ log, event.type = .requestSent → HasUrl event.payload url

/-- Masking a payload leaves its URL. -/
theorem HasUrl.maskPayload {payload : JsonObject} {url : String} (h : HasUrl payload url)
    (hlower : services.lower "url" = "url") :
    HasUrl (maskPayload services.lower services.pyStr payload) url := by
  have hlookup := lookup_map_value
    (fun key value => maskPayloadEntry services.lower services.pyStr (key, value)) payload "url"
  rw [h] at hlookup
  have hsensitive : "url" ∉ sensitiveJsonKeys := by decide
  simpa [HasUrl, Conformance.maskPayload, maskPayloadEntry, hlower, hsensitive, maskJsonValue]
    using hlookup

/-- An event keeps the requests showing the URL if it shows it itself. -/
theorem RequestsShow.emit {log : List ExecutionEvent} {url : String} (h : RequestsShow log url)
    (type : EventType) (stepId : String) {payload : JsonObject}
    (hpayload : type = .requestSent → HasUrl payload url)
    (hlower : services.lower "url" = "url") :
    RequestsShow (emit services log type stepId payload) url := by
  intro event hevent htype
  rcases List.mem_append.mp hevent with hevent | hevent
  · exact h event hevent htype
  · obtain rfl := List.mem_singleton.mp hevent
    exact (hpayload htype).maskPayload hlower

section Log

variable {url : String} {log : List ExecutionEvent} (hlower : services.lower "url" = "url")

include hlower

/-- An event of another kind does. -/
theorem RequestsShow.emitOther (h : RequestsShow log url) (type : EventType)
    (htype : type ≠ .requestSent) (stepId : String) (payload : JsonObject) :
    RequestsShow (Conformance.emit services log type stepId payload) url :=
  h.emit type stepId (fun heq => absurd heq htype) hlower

/-- The events of the assertions do. -/
theorem RequestsShow.emitAssertions (h : RequestsShow log url) (stepId : String)
    (results : List AssertionResult) :
    RequestsShow (Conformance.emitAssertions services log stepId results) url := by
  unfold Conformance.emitAssertions
  generalize results.zipIdx = entries
  induction entries generalizing log with
  | nil => exact h
  | cons entry rest ih => exact ih (h.emitOther hlower .assertionEvaluated (by decide) _ _)

/-- The events of checking a response do. -/
theorem RequestsShow.checkResponse (h : RequestsShow log url)
    (manifestStep : ManifestStep (requestParsers external)) (requested : String)
    (evidence : JsonObject) (context : ExecutionContext) (response : JsonHttpResponse) :
    RequestsShow (Conformance.checkResponse services manifestStep requested evidence context response log).2
      url := by
  unfold Conformance.checkResponse
  have hreceived := h.emitOther hlower .responseReceived (by decide) manifestStep.id
    [("statusCode", .int response.statusCode), ("url", .str response.url)]
  simp only
  split
  · exact hreceived
  · exact hreceived.emitOther hlower .responseSignatureInvalid (by decide) _ _
  · rename_i signature _
    cases signature with
    | none =>
      split
      · exact hreceived
      · exact hreceived.emitAssertions hlower _ _
    | some signature =>
      have hvalidated := hreceived.emitOther hlower .responseSignatureValidated (by decide)
        manifestStep.id signature
      split
      · exact hvalidated
      · exact hvalidated.emitAssertions hlower _ _

/-- The events of sending a request do. -/
theorem RequestsShow.sendRequest (h : RequestsShow log url)
    (manifestStep : ManifestStep (requestParsers external))
    (headers : Option (List (String × String))) (body : Option ManifestBody)
    {evidence : JsonObject} (hevidence : HasUrl evidence url) (context : ExecutionContext) :
    RequestsShow (Conformance.sendRequest services manifestStep url headers body evidence context log).2
      url := by
  unfold Conformance.sendRequest
  have hsent := h.emit .requestSent manifestStep.id (fun _ => hevidence) hlower
  simp only
  split
  · exact hsent
  · exact hsent.emitOther hlower .applicationError (by decide) _ _
  · exact hsent.checkResponse hlower _ _ _ _ _

/-- The events of an exchange do. -/
theorem RequestsShow.exchangeHttp (h : RequestsShow log url)
    (manifestStep : ManifestStep (requestParsers external))
    (headers : Option (List (String × String))) (body : Option ManifestBody)
    {evidence : JsonObject} (hevidence : HasUrl evidence url) (context : ExecutionContext) :
    RequestsShow (Conformance.exchangeHttp services manifestStep url headers body evidence context log).2
      url := by
  unfold Conformance.exchangeHttp
  split
  · exact h
  · exact h
  · rename_i headers _
    simp only
    have hmasked : HasUrl (headers.elim evidence fun headers =>
        setField evidence "headers" (.obj (maskHeaders services.lower headers))) url := by
      cases headers with
      | none => exact hevidence
      | some headers => exact hevidence.setField _ (by decide)
    split
    · exact h
    · exact h
    · split
      · exact h.sendRequest hlower _ _ _ (hmasked.setField _ (by decide)) _
      · exact h.sendRequest hlower _ _ _ (hmasked.setField _ (by decide)) _
      · exact h.sendRequest hlower _ _ _ hmasked _

/-- The events of a step do. -/
theorem RequestsShow.executeV1Step (h : RequestsShow log url)
    {manifestStep : ManifestStep (requestParsers external)} {context : ExecutionContext}
    (hurl : resolvePlaceholders services.pyStr (manifestStep.request : ManifestRequest).url
      context = .ok url) :
    RequestsShow (Conformance.executeV1Step services.transport manifestStep context log).2 url := by
  have hprepare : Ensures (fun prepared => prepared.url = url ∧ HasUrl prepared.evidence url)
      (prepareRequest services.transport manifestStep context) := (prepareRequest_shows hurl).2
  unfold Conformance.executeV1Step
  split
  · exact h
  · rename_i prepared hok
    obtain ⟨rfl, hevidence⟩ := hprepare prepared hok
    have hexchange : RequestsShow (services.transport.exchange manifestStep prepared.url
        prepared.headers prepared.body prepared.evidence context log).2 prepared.url :=
      h.exchangeHttp hlower manifestStep prepared.headers prepared.body hevidence context
    simp only
    split
    · rename_i hended
      rw [hended] at hexchange
      exact hexchange
    · rename_i hended
      rw [hended] at hexchange
      exact hexchange
    · rename_i hended
      rw [hended] at hexchange
      exact hexchange

/-- The event of every request that a step sends shows the resolved URL. -/
theorem requestSent_shows {manifestStep : ManifestStep (requestParsers external)}
    {context : ExecutionContext}
    (hurl : resolvePlaceholders services.pyStr (manifestStep.request : ManifestRequest).url
      context = .ok url) :
    RequestsShow (executeV1StepLogged services manifestStep context []).2 url := by
  have hempty : RequestsShow [] url := by
    intro event hevent
    cases hevent
  have hstarted := hempty.emitOther hlower .stepStarted (by decide) manifestStep.id []
  have hplaceholder : RequestsShow ((placeholderEvents services manifestStep context).elim
      (emit services [] .stepStarted manifestStep.id [])
      (emit services (emit services [] .stepStarted manifestStep.id []) .placeholderError
        manifestStep.id)) url := by
    cases placeholderEvents services manifestStep context with
    | none => exact hstarted
    | some payload => exact hstarted.emitOther hlower .placeholderError (by decide) _ _
  have hstep := RequestsShow.executeV1Step hlower hplaceholder hurl
  unfold executeV1StepLogged
  simp only
  split
  · rename_i hreturned
    rw [hreturned] at hstep
    exact hstep
  · rename_i hreturned
    rw [hreturned] at hstep
    exact hstep.emitOther hlower .stepCompleted (by decide) _ _

end Log

/-! ## Credentials -/

/-- A URL with the value of one parameter of its query left out. -/
structure QueryParameter where
  before : List Char
  name : List Char
  after : List Char
  query : '?' ∈ before ∧ '#' ∉ before
  opens : before.getLast? = some '?' ∨ before.getLast? = some '&'
  oneName : ∀ c ∈ name, c ∉ ['&', '=', '#']
  ends : ∀ c ∈ after.head?, c ∈ ['&', '#']

/-- The URL with a value of the parameter. -/
def QueryParameter.url (parameter : QueryParameter) (value : List Char) : String :=
  String.ofList (parameter.before ++ parameter.name ++ '=' :: value ++ parameter.after)

/-- A value that ends where the next parameter or the fragment begins. -/
def IsQueryValue (value : List Char) : Prop := ∀ c ∈ value, c ∉ ['&', '#']

/-- Two URLs differ only in the value of one parameter, and its name is sensitive.
    `decode` reads the name as `mask_url_query` does. -/
structure CredentialsDiffer (decode : List Char → String) (url url' : String) : Prop where
  differ : ∃ (parameter : QueryParameter) (value value' : List Char),
    decode parameter.name ∈ sensitiveJsonKeys ∧ IsQueryValue value ∧ IsQueryValue value' ∧
      value ≠ value' ∧ url = parameter.url value ∧ url' = parameter.url value'

/-- URLs with different credentials are different. -/
theorem CredentialsDiffer.ne {decode : List Char → String} {url url' : String}
    (h : CredentialsDiffer decode url url') : url ≠ url' := by
  obtain ⟨parameter, value, value', -, -, -, hne, rfl, rfl⟩ := h.differ
  intro heq
  have hlist := congrArg String.toList heq
  exact hne (by simpa [QueryParameter.url] using hlist)

/-- Two runs of a step leave the same result and the same log behind. -/
def Conceals (run run' : StepReturn × List ExecutionEvent) : Prop :=
  run.1.map Prod.fst = run'.1.map Prod.fst ∧ run.2 = run'.2

/-- A credential in the query of the URL tells two runs apart by the result of the step,
    whatever was answered: no step that returns a result conceals one. -/
theorem credentials_shown {decode : List Char → String} {url url' : String}
    (hdiffer : CredentialsDiffer decode url url')
    {manifestStep : ManifestStep (requestParsers external)} {context context' : ExecutionContext}
    (hurl : resolvePlaceholders services.pyStr (manifestStep.request : ManifestRequest).url
      context = .ok url)
    (hurl' : resolvePlaceholders services.pyStr (manifestStep.request : ManifestRequest).url
      context' = .ok url')
    (log : List ExecutionEvent) {result : StepOutcome × ExecutionContext}
    (hresult : (executeV1StepLogged services manifestStep context log).1 = .ok result) :
    ¬Conceals (executeV1StepLogged services manifestStep context log)
      (executeV1StepLogged services manifestStep context' log) := by
  rintro ⟨houtcome, -⟩
  have hshows := executeV1StepLogged_shows hurl log result hresult
  rw [hresult] at houtcome
  -- the other run returns as well, and each outcome shows its own URL
  cases hrun : (executeV1StepLogged services manifestStep context' log).1 with
  | error e =>
    rw [hrun] at houtcome
    cases houtcome
  | ok result' =>
    have hshows' := executeV1StepLogged_shows hurl' log result' hrun
    rw [hrun] at houtcome
    rw [Except.ok.inj houtcome] at hshows
    exact hdiffer.ne (hshows.unique hshows')

/-! ## An authorisation code -/

/-- The parameter `code` of a callback. -/
def codeParameter : QueryParameter where
  before := "https://bank.example/callback?".toList
  name := "code".toList
  after := []
  query := by decide
  opens := by decide
  oneName := by decide
  ends := by simp

/-- The URL of a callback with a captured authorisation code. -/
def callbackUrl : String :=
  "https://bank.example/callback?code=$\x7bsteps.login.response.body.code\x7d"

/-- A step that sends a captured authorisation code in its URL. -/
def callbackStep : ManifestStep (requestParsers literalParsers) where
  id := "callback"
  name := "Callback"
  request := ({ method := .get, url := callbackUrl } : ManifestRequest)
  assertions := []
  warning := none
  mandatory := false
  optional := false
  group := "callback"
  phase := .execution
  tokenEndpointAuthPolicy := none
  requiredTokenId := none
  producesTokenId := none

/-- A bank that answers every request with no content. -/
def noContentServices : HttpServices literalParsers where
  lower text := String.ofList (text.toList.map Char.toLower)
  pyStr
    | .str text => text
    | _ => ""
  maskUrlQuery := id
  maybeApplyObDetachedJws _ _ headers _ := .value headers
  applyTokenEndpointAuthPolicy _ form _ := .value form
  request _ url _ _ := .response url 204 [] none
  assertionsRequireJsonBody _ := false
  validateResponseSignature _ _ _ := .value none
  evaluateAssertion _ _ := .ok ⟨true, "ok"⟩

/-- A context in which a login answered with an authorisation code. -/
def loginContext (code : String) : ExecutionContext where
  steps := Dict.empty.set "login"
    ⟨⟨"POST", "https://bank.example/login"⟩, some ⟨200, [], [("code", .str code)]⟩⟩

/-- The run of the callback after a login that answered with a code. -/
def callbackRun (code : String) : StepReturn × List ExecutionEvent :=
  executeV1StepLogged noContentServices callbackStep (loginContext code) []

/-- The two callbacks differ in their codes. -/
theorem callback_differs : CredentialsDiffer String.ofList (codeParameter.url "first".toList)
    (codeParameter.url "second".toList) := by
  refine ⟨codeParameter, _, _, ?_, ?_, ?_, ?_, rfl, rfl⟩
  · decide +kernel
  · unfold IsQueryValue
    decide +kernel
  · unfold IsQueryValue
    decide +kernel
  · decide +kernel

/-- The URL of the callback resolves to the code of the login. -/
theorem callback_resolves :
    resolvePlaceholders noContentServices.pyStr (callbackStep.request : ManifestRequest).url
        (loginContext "first") = .ok (codeParameter.url "first".toList) ∧
      resolvePlaceholders noContentServices.pyStr (callbackStep.request : ManifestRequest).url
        (loginContext "second") = .ok (codeParameter.url "second".toList) := by
  decide +kernel

/-- Two authorisation codes show in the results of the step, and each in the event of the
    request. -/
theorem callback_reveals :
    CredentialsDiffer String.ofList (codeParameter.url "first".toList)
        (codeParameter.url "second".toList) ∧
      ¬Conceals (callbackRun "first") (callbackRun "second") ∧
      RequestsShow (callbackRun "first").2 (codeParameter.url "first".toList) ∧
      RequestsShow (callbackRun "second").2 (codeParameter.url "second".toList) := by
  have hlower : noContentServices.lower "url" = "url" := by decide +kernel
  refine ⟨callback_differs, fun h => ?_, requestSent_shows hlower callback_resolves.1,
    requestSent_shows hlower callback_resolves.2⟩
  have hfirst : (callbackRun "first").1.toOption.any
      (fun result => result.1.url = some "https://bank.example/callback?code=first") = true := by
    decide +kernel
  have hsecond : (callbackRun "second").1.toOption.any
      (fun result => result.1.url = some "https://bank.example/callback?code=second") = true := by
    decide +kernel
  obtain ⟨result, hresult, hurl⟩ := exists_ok_of_any hfirst
  obtain ⟨result', hresult', hurl'⟩ := exists_ok_of_any hsecond
  have houtcome := h.1
  rw [hresult, hresult'] at houtcome
  have hurls := congrArg StepOutcome.url (Except.ok.inj houtcome)
  rw [of_decide_eq_true hurl, of_decide_eq_true hurl'] at hurls
  exact absurd hurls (by decide +kernel)

/-- The theorem at the callback. -/
theorem credentials_shown_callback : ¬Conceals (callbackRun "first") (callbackRun "second") := by
  have hreturns : (callbackRun "first").1.toOption.any (fun _ => true) = true := by
    decide +kernel
  obtain ⟨result, hresult, -⟩ := exists_ok_of_any hreturns
  unfold callbackRun at hresult ⊢
  refine credentials_shown callback_differs ?_ ?_ [] hresult
  · exact callback_resolves.1
  · exact callback_resolves.2

end Conformance
