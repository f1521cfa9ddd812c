import Conformance.Spec.DnsTargets
import Conformance.Spec.InertInputs
import Conformance.Spec.SentHeaders

/-!
# Runtime inputs are data

A catalogue step is executed as a manifest step: its texts are resolved, and the URL and the
header values are checked. An input is data when it reaches the wire as it is, and when it is
not what a check refuses: with other characters in place of those that no URL or no header
value may have, the check would refuse the request as well.

## Key results

- `prepareRequest_iff`: a step is ready when its texts resolve and the checks accept them
- `transportable_of_accepted`: what the checks accept has no such character of an input
- `inert_iff_clear`: when inputs are data
-/

namespace Conformance.CatalogueRequest

open Except

/-! ## Characters of inputs that are refused -/

/-- A character that may stand in a URL. -/
def isUrlChar (c : Char) : Bool := !isUnsafeUrlChar c

/-- A character that may stand in a header value. -/
def isHeaderValueChar (c : Char) : Bool := c.toNat == 0x09 || (0x20 ≤ c.toNat && c.toNat ≤ 0x7e)

/-- A text with `a` in place of the characters of inputs that are not allowed. -/
def harmlessText (allowed : Char → Bool) (cs : List (Char × Origin)) : List (Char × Origin) :=
  cs.map fun c => if c.2 = .input ∧ allowed c.1 = false then ('a', .input) else c

/-- The request with `a` in place of the characters of inputs that no URL or no header value
    may have. -/
def RequestText.harmless (request : RequestText (Char × Origin)) : RequestText (Char × Origin) where
  url := harmlessText isUrlChar request.url
  headers := request.headers.map fun header => (header.1, harmlessText isHeaderValueChar header.2)
  body := request.body

/-- Every character of an input is allowed. -/
def InputsAllowed (allowed : Char → Bool) (cs : List (Char × Origin)) : Prop :=
  ∀ c ∈ cs, c.2 = .input → allowed c.1 = true

instance (allowed : Char → Bool) (cs : List (Char × Origin)) :
    Decidable (InputsAllowed allowed cs) :=
  inferInstanceAs (Decidable (∀ c ∈ cs, c.2 = .input → allowed c.1 = true))

/-- The characters of inputs may stand where they do in the URL and in the header values. -/
structure RequestText.Transportable (request : RequestText (Char × Origin)) : Prop where
  url : InputsAllowed isUrlChar request.url
  headers : ∀ header ∈ request.headers, InputsAllowed isHeaderValueChar header.2

instance (request : RequestText (Char × Origin)) : Decidable request.Transportable :=
  decidable_of_iff (InputsAllowed isUrlChar request.url ∧
      ∀ header ∈ request.headers, InputsAllowed isHeaderValueChar header.2)
    ⟨fun h => ⟨h.1, h.2⟩, fun h => ⟨h.url, h.headers⟩⟩

/-- A text whose inputs are allowed is harmless as it stands. -/
theorem harmlessText_eq_self {allowed : Char → Bool} {cs : List (Char × Origin)}
    (h : InputsAllowed allowed cs) : harmlessText allowed cs = cs := by
  rw [harmlessText]
  refine (List.map_congr_left fun c hc => if_neg fun hrefused => ?_).trans (List.map_id cs)
  rw [h c hc hrefused.1] at hrefused
  cases hrefused.2

/-- A request whose inputs are allowed is its own harmless form. -/
theorem RequestText.Transportable.harmless_eq {request : RequestText (Char × Origin)}
    (h : request.Transportable) : request.harmless = request := by
  have hheaders : (request.headers.map fun header =>
      (header.1, harmlessText isHeaderValueChar header.2)) = request.headers := by
    refine (List.map_congr_left fun header hheader => ?_).trans (List.map_id _)
    rw [harmlessText_eq_self (h.headers header hheader), id_eq]
  rw [RequestText.harmless, harmlessText_eq_self h.url, hheaders]

/-! ## The checks of a step -/

/-- The checks that a resolved request has to pass. -/
structure Wire.Accepted (urls : UrlText) (wire : Wire) : Prop where
  url : ∀ label, validateHttpsUrl urls wire.url label = .ok ()
  headers : ∀ header ∈ wire.headers.getD [], IsHeaderValue header.2

/-- `request` of `_catalogue_request_step_to_manifest_step`. -/
def manifestRequest (method : HttpMethod) (request : RequestText Char)
    (detachedJws : Option DetachedJwsPolicy) : ManifestRequest where
  method := method
  url := String.ofList request.url
  headers := headersOrNone (plainFields request.headers)
  body := request.body.map BodyText.manifestBody
  detachedJws := detachedJws

/-- A valid URL is valid under each label. -/
theorem validateHttpsUrl_label {urls : UrlText} {value label : String}
    (h : validateHttpsUrl urls value label = .ok ()) (label' : String) :
    validateHttpsUrl urls value label' = .ok () :=
  validateHttpsUrl_eq_ok.mpr (validateHttpsUrl_eq_ok.mp h)

section Steps

variable {urls : UrlText} {repr : Json → String} (transport : StepTransport (manifestParsers urls repr))

variable {transport} in
/-- A step is ready exactly when its texts resolve to a request that the checks accept. -/
theorem prepareRequest_iff {method : HttpMethod} {request : RequestText Char}
    {detachedJws : Option DetachedJwsPolicy}
    {manifestStep : ManifestStep (requestParsers (manifestParsers urls repr))}
    (hrequest : manifestStep.request = manifestRequest method request detachedJws)
    {context : ExecutionContext} {wire : Wire} :
    (∃ evidence, prepareRequest transport manifestStep context =
        .ok { url := wire.url, headers := wire.headers, body := wire.body, evidence := evidence }) ↔
      sentWire transport context request = .ok wire ∧ wire.Accepted urls := by
  refine exists_prepareRequest_iff.trans ?_
  rw [hrequest]
  constructor
  · rintro ⟨hurl, hheaders, hvalid, hbody, haccepted⟩
    refine ⟨?_, validateHttpsUrl_label haccepted, fun header hheader => ?_⟩
    · exact bind_eq_ok.mpr ⟨wire.url, hurl, bind_eq_ok.mpr ⟨wire.headers, hheaders,
        bind_eq_ok.mpr ⟨wire.body, hbody, rfl⟩⟩⟩
    · exact validateHeaderValue_eq_ok.mp (hvalid header hheader)
  · rintro ⟨hsent, haccepted⟩
    obtain ⟨url, hurl, hsent⟩ := bind_eq_ok.mp hsent
    obtain ⟨headers, hheaders, hsent⟩ := bind_eq_ok.mp hsent
    obtain ⟨body, hbody, hsent⟩ := bind_eq_ok.mp hsent
    obtain rfl := Except.ok.inj hsent
    exact ⟨hurl, hheaders, fun header hheader =>
      validateHeaderValue_eq_ok.mpr (haccepted.headers header hheader), hbody, haccepted.url _⟩

/-- Runtime inputs are data: wherever the request is intended to be sent, it is sent so, and
    where the checks accept the harmless form of the request, the step is ready to send it. -/
structure Inert (inputs : RequestInputs) (step : RequestTemplate) : Prop where
  resolves : ∀ tracked, intendedRequest inputs step = .ok tracked →
    ∀ context wire, intendedWire transport.pyStr context tracked = .ok wire →
      ∃ request, catalogueRequestText inputs step = .ok request ∧
        sentWire transport context request = .ok wire
  prepares : ∀ tracked, intendedRequest inputs step = .ok tracked →
    ∀ context harmless, intendedWire transport.pyStr context tracked.harmless = .ok harmless →
      harmless.Accepted urls →
      ∃ request wire, catalogueRequestText inputs step = .ok request ∧
        intendedWire transport.pyStr context tracked = .ok wire ∧
        ∀ (manifestStep : ManifestStep (requestParsers (manifestParsers urls repr)))
          (detachedJws : Option DetachedJwsPolicy),
          manifestStep.request = manifestRequest step.method request detachedJws →
          ∃ evidence, prepareRequest transport manifestStep context =
            .ok { url := wire.url, headers := wire.headers, body := wire.body,
                  evidence := evidence }

/-- A manifest step with a request. -/
def stepWithRequest (stepId : String) (request : ManifestRequest) :
    ManifestStep (requestParsers (manifestParsers urls repr)) where
  id := stepId
  name := stepId
  request := request
  assertions := []
  warning := none
  mandatory := true
  optional := false
  group := "catalogue"
  phase := .execution
  tokenEndpointAuthPolicy := none
  requiredTokenId := none
  producesTokenId := none

/-! ## What the checks say of inputs -/

variable {transport} {context : ExecutionContext}

/-- The characters of inputs stay in a text that is resolved. -/
theorem mem_of_mapOwn {pyStr : Json → String} (run : List Char) {cs : List (Char × Origin)}
    {resolved : List Char}
    (h : mapOwn (resolveText pyStr context) id run cs = .ok resolved) {c : Char × Origin}
    (hc : c ∈ cs) (hinput : c.2 = .input) : c.1 ∈ resolved := by
  induction cs generalizing run resolved with
  | nil => cases hc
  | cons d rest ih =>
    obtain ⟨d, origin⟩ := d
    cases origin with
    | own =>
      refine ih (d :: run) h ((List.mem_cons.mp hc).resolve_left ?_)
      rintro rfl
      cases hinput
    | input =>
      obtain ⟨before, -, h⟩ := bind_eq_ok.mp h
      obtain ⟨after, hafter, h⟩ := bind_eq_ok.mp h
      obtain rfl := Except.ok.inj h
      rcases List.mem_cons.mp hc with rfl | hc
      · exact List.mem_append_right before List.mem_cons_self
      · exact List.mem_append_right before (List.mem_cons_of_mem _ (ih [] hafter hc))

/-- The inputs of an intended text are allowed when its characters are. -/
theorem inputsAllowed_of_intendedText {pyStr : Json → String} {allowed : Char → Bool}
    {cs : List (Char × Origin)} {text : String}
    (h : intendedText pyStr context cs = .ok text)
    (hallowed : ∀ c ∈ text.toList, allowed c = true) : InputsAllowed allowed cs := by
  obtain ⟨resolved, hresolved, h⟩ := bind_eq_ok.mp h
  obtain rfl := Except.ok.inj h
  rw [String.toList_ofList] at hallowed
  exact fun c hc hinput => hallowed c.1 (mem_of_mapOwn [] hresolved hc hinput)

/-- The characters of inputs of an accepted request are allowed. -/
theorem transportable_of_accepted {pyStr : Json → String}
    {tracked : RequestText (Char × Origin)} {wire : Wire}
    (h : intendedWire pyStr context tracked = .ok wire) (haccepted : wire.Accepted urls) :
    tracked.Transportable := by
  obtain ⟨url, hurl, h⟩ := bind_eq_ok.mp h
  obtain ⟨headers, hheaders, h⟩ := bind_eq_ok.mp h
  obtain ⟨body, hbody, h⟩ := bind_eq_ok.mp h
  obtain rfl := Except.ok.inj h
  refine ⟨inputsAllowed_of_intendedText hurl fun c hc => ?_, fun header hheader => ?_⟩
  -- the URL
  · have hsafe := (validateHttpsUrl_eq_ok.mp (haccepted.url "")).1
    rw [List.any_eq_false] at hsafe
    exact Bool.not_eq_true' _ ▸ Bool.eq_false_iff.mpr (hsafe c hc)
  -- the headers
  · obtain ⟨field, hfield, hround⟩ := (List.mapM_eq_ok.mp hheaders).exists_of_mem_left hheader
    obtain ⟨value, hvalue, hpair⟩ := bind_eq_ok.mp hround
    obtain rfl := Except.ok.inj hpair
    have hne : headers ≠ [] := List.ne_nil_of_mem hfield
    have hvalid : IsHeaderValue value := by
      refine haccepted.headers (header.1, value) ?_
      rw [headersOrNone, if_neg hne]
      exact hfield
    refine inputsAllowed_of_intendedText hvalue fun c hc => ?_
    simpa [isHeaderValueChar] using hvalid.2 c hc

/-! ## Harmless requests resolve where the requests do -/

/-- The own text resolves when it does with harmless inputs. -/
theorem exists_mapOwn_harmless {pyStr : Json → String} {allowed : Char → Bool} (run : List Char)
    {cs : List (Char × Origin)} {resolved : List Char}
    (h : mapOwn (resolveText pyStr context) id run (harmlessText allowed cs) = .ok resolved) :
    ∃ resolved, mapOwn (resolveText pyStr context) id run cs = .ok resolved := by
  induction cs generalizing run resolved with
  | nil => exact ⟨resolved, h⟩
  | cons c rest ih =>
    obtain ⟨c, origin⟩ := c
    cases origin with
    | own => exact ih (c :: run) h
    | input =>
      -- the character may be another one, but it is still an input's
      obtain ⟨d, hd⟩ : ∃ d, harmlessText allowed ((c, .input) :: rest) =
          (d, .input) :: harmlessText allowed rest := by
        rw [harmlessText, List.map_cons]
        split
        · exact ⟨'a', rfl⟩
        · exact ⟨c, rfl⟩
      rw [hd] at h
      obtain ⟨before, hbefore, h⟩ := bind_eq_ok.mp h
      obtain ⟨after, hafter, -⟩ := bind_eq_ok.mp h
      obtain ⟨after', hafter'⟩ := ih [] hafter
      exact ⟨_, bind_eq_ok.mpr ⟨before, hbefore, bind_eq_ok.mpr ⟨after', hafter', rfl⟩⟩⟩

/-- A text is intended when it is with harmless inputs. -/
theorem exists_intendedText_harmless {pyStr : Json → String} {allowed : Char → Bool}
    {cs : List (Char × Origin)} {text : String}
    (h : intendedText pyStr context (harmlessText allowed cs) = .ok text) :
    ∃ text, intendedText pyStr context cs = .ok text := by
  obtain ⟨resolved, hresolved, -⟩ := bind_eq_ok.mp h
  obtain ⟨resolved', hresolved'⟩ := exists_mapOwn_harmless [] hresolved
  exact ⟨_, bind_eq_ok.mpr ⟨resolved', hresolved', rfl⟩⟩

/-- A request resolves where its harmless form does. -/
theorem exists_intendedWire_harmless {pyStr : Json → String}
    {tracked : RequestText (Char × Origin)} {harmless : Wire}
    (h : intendedWire pyStr context tracked.harmless = .ok harmless) :
    ∃ wire, intendedWire pyStr context tracked = .ok wire := by
  obtain ⟨url, hurl, h⟩ := bind_eq_ok.mp h
  obtain ⟨headers, hheaders, h⟩ := bind_eq_ok.mp h
  obtain ⟨body, hbody, -⟩ := bind_eq_ok.mp h
  obtain ⟨url', hurl'⟩ := exists_intendedText_harmless hurl
  obtain ⟨headers', hheaders'⟩ : ∃ headers, intendedMapping pyStr context tracked.headers =
      .ok headers := by
    refine List.exists_mapM_eq_ok.mpr fun header hheader => ?_
    obtain ⟨_, -, hround⟩ := (List.mapM_eq_ok.mp hheaders).exists_of_mem_left
      (List.mem_map_of_mem hheader)
    obtain ⟨value, hvalue, -⟩ := bind_eq_ok.mp hround
    obtain ⟨value', hvalue'⟩ := exists_intendedText_harmless hvalue
    exact ⟨_, bind_eq_ok.mpr ⟨value', hvalue', rfl⟩⟩
  exact ⟨_, bind_eq_ok.mpr ⟨url', hurl', bind_eq_ok.mpr ⟨headers', hheaders',
    bind_eq_ok.mpr ⟨body, hbody, rfl⟩⟩⟩⟩

/-! ## Exactness -/

/-- Where inputs are data and something can be sent, no opening has a character of an
    input: in the blank context none is left on the wire. -/
theorem clear_of_inert (hpyStr : WritesDigits transport.pyStr) {inputs : RequestInputs}
    {step : RequestTemplate} (hinert : Inert transport inputs step)
    {tracked : RequestText (Char × Origin)} (htracked : intendedRequest inputs step = .ok tracked)
    {wire : Wire} (hwire : intendedWire transport.pyStr context tracked = .ok wire) :
    tracked.Clear := by
  -- in the blank context no value brings an opening of its own
  obtain ⟨blank, hblank⟩ := intendedWire_blank hpyStr hwire
  obtain ⟨request, -, hsent⟩ := hinert.resolves tracked htracked context.blank blank hblank
  exact clear_of_intendedWire hblank (noOpening_of_sentWire (plainContext_blank hpyStr) hsent)

/-- Where inputs are data and the checks accept the harmless form of a request, they accept
    the request. -/
theorem transportable_of_inert {inputs : RequestInputs} {step : RequestTemplate}
    (hinert : Inert transport inputs step) {tracked : RequestText (Char × Origin)}
    (htracked : intendedRequest inputs step = .ok tracked) {harmless : Wire}
    (hharmless : intendedWire transport.pyStr context tracked.harmless = .ok harmless)
    (haccepted : harmless.Accepted urls) : tracked.Transportable := by
  obtain ⟨request, wire, -, hwire, hprepares⟩ :=
    hinert.prepares tracked htracked context harmless hharmless haccepted
  have hprepared := hprepares (stepWithRequest step.stepId
    (manifestRequest step.method request none)) none rfl
  exact transportable_of_accepted hwire ((prepareRequest_iff rfl).mp hprepared).2

variable (transport) in
/-- The request is not sent in any context: the catalogue's own placeholders do not resolve. -/
def NeverSent (tracked : RequestText (Char × Origin)) : Prop :=
  ∀ context wire, intendedWire transport.pyStr context tracked ≠ .ok wire

variable (transport) in
/-- The checks refuse the harmless form of the request in every context. -/
def AlwaysRefused (tracked : RequestText (Char × Origin)) : Prop :=
  ∀ context harmless, intendedWire transport.pyStr context tracked.harmless = .ok harmless →
    ¬harmless.Accepted urls

end Steps

/-! ## A debtor name and an account id -/

/-- A bank that answers nothing, with Python's `str` of texts and integers. -/
def silentTransport : StepTransport (manifestParsers asciiUrlText fun _ => "") where
  World := Unit
  pyStr
    | .str text => text
    | .int n => toString n
    | _ => ""
  maskHeaders headers := headers.map fun header => (header.1, .str header.2)
  maskJson := id
  maskForm fields := fields.map fun field => (field.1, .str field.2)
  maskUrlQuery := id
  exchange _ _ _ _ _ _ world := (.ok (.failed ⟨.failed, "no answer", none, none, []⟩), world)
  registerSession _ world := (.error "no session store", world)
  generateRequestObject _ _ _ _ world := (.error "no signing credentials", world)
  authorize _ _ _ _ world := (.ok ("", .failed ⟨.failed, "timed out", none, none, []⟩), world)

/-- `_CBPII_CONSENT_REQUEST_TEMPLATE` without its generated date. -/
def consentRequestTemplate : Json :=
  .obj [("Data", .obj [("DebtorAccount", .obj [
    ("SchemeName", .str "$\x7bruntime.debtorAccountSchemeName\x7d"),
    ("Identification", .str "$\x7bruntime.debtorAccountIdentification\x7d"),
    ("Name", .str "$\x7bruntime.debtorAccountName\x7d")])])]

/-- The step that creates a funds confirmation consent. -/
def consentStep : RequestTemplate where
  stepId := "cbpii-consent-create-core-request"
  method := .post
  path := "/funds-confirmation-consents"
  runtimeInputRefs := ["debtorAccountSchemeName", "debtorAccountIdentification",
    "debtorAccountName"]
  bodyTemplate := some consentRequestTemplate
  requiredTokenId := some "cbpii-client-credentials"

/-- A step that reads an account without a token. -/
def accountStep : RequestTemplate where
  stepId := "ais-at-legacy-account-acc-101000-request"
  method := .get
  path := "/open-banking/v4.0/aisp/accounts/\x7bAccountId\x7d"
  runtimeInputRefs := ["consentedAccountId"]

/-- The inputs of a participant with a debtor name and an account id. -/
def debtorInputs (debtorAccountName consentedAccountId : String) : RequestInputs where
  runtimeInputs := Dict.empty
    |>.set "resourceBaseUrl" (.str "https://bank.example")
    |>.set "debtorAccountSchemeName" (.str "UK.OBIE.SortCodeAccountNumber")
    |>.set "debtorAccountIdentification" (.str "70000170000001")
    |>.set "debtorAccountName" (.str debtorAccountName)
    |>.set "consentedAccountId" (.str consentedAccountId)
  requirements := .empty
  discoveryUrl := none
  generatedHeaderValues _ := ""
  generatedRuntimeValues := .empty
  readRuntimeFileText _ := .error (.valueError "no file")
  readRuntimeJsonFile _ := .error (.valueError "no file")
  lower text := String.ofList (text.toList.map Char.toLower)

/-- The inputs whose name is a placeholder and whose account id holds a blank. -/
def strayInputs : RequestInputs :=
  debtorInputs "$\x7btokens.cbpii-client-credentials.access_token\x7d" "700 170"

/-- A context with the client's access token. -/
def clientContext : ExecutionContext where
  tokens := Dict.empty.set "cbpii-client-credentials" "secret"

/-- The URL of the harmless account id is accepted. -/
theorem accepted_accountUrl :
    Wire.Accepted asciiUrlText
      ⟨"https://bank.example/open-banking/v4.0/aisp/accounts/700a170", none, none⟩ where
  url := by
    have haccepted : validateHttpsUrl asciiUrlText
        "https://bank.example/open-banking/v4.0/aisp/accounts/700a170" "" = .ok () := by
      decide +kernel
    exact validateHttpsUrl_label haccepted
  headers := by simp

end Conformance.CatalogueRequest
