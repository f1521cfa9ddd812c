import Conformance.Spec.DcrRuns

/-!
# What the scenarios of a run keep

A credential goes back only to where it was obtained, a verdict says what the exchanges show, and
a client that was registered is asked to be deleted.

## Key results

- `Permitted.confined`: where the credentials of a permitted request go
- `dcrScenario_confined`, `dcrScenario_shown`: every scenario of a run that returns
- `dcrScenario_cleanup`: what it leaves at the bank
-/

namespace Conformance.DcrExecution

open PlanConfiguration PlanConfig

variable {environment : DcrEnvironment} {config : DcrPlanConfiguration} {plan : CompiledTestPlan}

/-! ## Credentials -/

variable (environment config) in
/-- Where a request may take its credentials: a bearer token to the management URL of a client
    of the scenario, the secret and the assertion of a client to the token endpoint, the
    registration JOSE to the registration endpoint or a management URL. What carries none is a
    `GET` of the discovery document or of the keys that it names. -/
structure Confined (cached : Option DcrDiscoveryMetadata) (earlier : List DcrExchange)
    (request : DcrRequest) : Prop where
  bearer : ∀ token : String, ("Authorization", "Bearer " ++ token) ∈ request.headers →
    ∃ discovery clientId, cached = some discovery ∧ Checked environment config discovery ∧
      request.url = managementUrlOf discovery clientId ∧
      Issued environment config earlier clientId ∧ Granted discovery earlier token
  basic : ∀ text : String, ("Authorization", "Basic " ++ text) ∈ request.headers →
    ∃ discovery clientId, cached = some discovery ∧ Checked environment config discovery ∧
      request.url = discovery.tokenEndpoint ∧ Issued environment config earlier clientId ∧
      ∃ secret : String, text = b64encode s!"{clientId}:{secret}"
  form : ∀ fields, request.formBody = some fields →
    ∃ discovery clientId, cached = some discovery ∧ Checked environment config discovery ∧
      request.url = discovery.tokenEndpoint ∧ Issued environment config earlier clientId
  jose : ∀ jose, request.rawBody = some jose →
    ∃ discovery, cached = some discovery ∧ Checked environment config discovery ∧
      (request.url = discovery.registrationEndpoint ∨ ∃ clientId,
        Issued environment config earlier clientId ∧
          request.url = managementUrlOf discovery clientId)
  plain : request.headers = [] → request = metadataRequest request.url ∧
    (config.shared.discoveryUrl = some request.url ∨ ∃ e ∈ earlier, ∃ response metadata,
      config.shared.discoveryUrl = some e.request.url ∧ e.response = some response ∧
        readDiscovery environment config response.body = .ok metadata ∧
        request.url = metadata.jwksUri)

/-- `Authorization` schemes that differ. -/
theorem basic_ne_bearer (text token : String) : "Basic " ++ text ≠ "Bearer " ++ token := by
  intro h
  have hchars := congrArg (fun s : String => s.toList[1]?) h
  simp [String.toList_append] at hchars

/-- A bearer header has one token. -/
theorem bearer_inj {token token' : String} (h : bearer token = "Bearer " ++ token') :
    token = token' := by
  unfold bearer at h
  split at h
  · have hlength := congrArg String.length h
    have hshort : "Bearer".length = 6 := rfl
    have hlong : "Bearer ".length = 7 := rfl
    rw [String.length_append] at hlength
    omega
  · change "Bearer " ++ token = "Bearer " ++ token' at h
    exact (String.append_right_inj _).mp h

/-- A bearer header is no basic one. -/
theorem bearer_ne_basic (token text : String) : bearer token ≠ "Basic " ++ text := by
  unfold bearer
  split
  · intro h
    have hchars := congrArg (fun s : String => s.toList[1]?) h
    simp [String.toList_append] at hchars
  · exact (basic_ne_bearer text token).symm

/-- What the permitted requests carry. -/
theorem Permitted.confined {cached : Option DcrDiscoveryMetadata} {earlier : List DcrExchange}
    {request : DcrRequest} (h : Permitted environment config cached earlier request)
    (hchecked : ∀ discovery, cached = some discovery → Checked environment config discovery) :
    Confined environment config cached earlier request := by
  cases h with
  | discovery url hurl => exact ⟨by simp [metadataRequest], by simp [metadataRequest],
      by simp [metadataRequest], by simp [metadataRequest], fun _ => ⟨rfl, .inl hurl⟩⟩
  | keys url e response metadata hurl hmem hrequest hresponse hread =>
    refine ⟨by simp [metadataRequest], by simp [metadataRequest], by simp [metadataRequest],
      by simp [metadataRequest], fun _ => ⟨rfl, .inr ⟨e, hmem, response, metadata, ?_, hresponse,
        hread, rfl⟩⟩⟩
    rw [hrequest]
    exact hurl
  | registration discovery jose hcached =>
    refine ⟨by simp, by simp, nofun, fun _ _ => ?_, nofun⟩
    exact ⟨discovery, hcached, hchecked _ hcached, .inl rfl⟩
  -- a token request has a basic header at most, so no bearer token
  | token discovery clientId request hcached hissued htoken =>
    refine ⟨fun token hmem => ?_, fun text hmem => ?_, fun fields _ => ?_, fun jose hjose => ?_,
      fun hheaders => ?_⟩
    · rcases htoken.headers with hheaders | ⟨secret, hheaders⟩
      · simp [hheaders] at hmem
      · rw [hheaders] at hmem
        have heq : "Bearer " ++ token = "Basic " ++ b64encode s!"{clientId}:{secret}" := by
          simpa using hmem
        exact absurd heq.symm (basic_ne_bearer _ _)
    · refine ⟨discovery, clientId, hcached, hchecked _ hcached, htoken.url, hissued, ?_⟩
      rcases htoken.headers with hheaders | ⟨secret, hheaders⟩
      · simp [hheaders] at hmem
      · rw [hheaders] at hmem
        have heq : "Basic " ++ text = "Basic " ++ b64encode s!"{clientId}:{secret}" := by
          simpa using hmem
        exact ⟨secret, (String.append_right_inj _).mp heq⟩
    · exact ⟨discovery, clientId, hcached, hchecked _ hcached, htoken.url, hissued⟩
    · exact nomatch htoken.rawBody.symm.trans hjose
    · rcases htoken.headers with hheaders' | ⟨secret, hheaders'⟩
      · exact nomatch hheaders'.symm.trans hheaders
      · exact nomatch hheaders'.symm.trans hheaders
  -- a management request has one bearer header, whose token was granted or is the empty one
  | management discovery clientId token method rawBody hcached hissued hgranted hmethod =>
    have hauthorization : ∀ value : String, ("Authorization", value) ∈
        [("Accept", "application/json"),
            ("Authorization", Conformance.DcrExecution.bearer token)] ++
          (rawBody.map fun _ => ("Content-Type", "application/jose")).toList →
        value = Conformance.DcrExecution.bearer token := by
      intro value hmem
      simpa using hmem
    refine ⟨fun token' hmem => ?_, fun text hmem => ?_, nofun, fun jose hjose => ?_, nofun⟩
    · obtain rfl := bearer_inj (hauthorization _ hmem).symm
      refine ⟨discovery, clientId, hcached, hchecked _ hcached, rfl, hissued,
        hgranted.resolve_left ?_⟩
      rintro rfl
      have hlength := congrArg String.length (hauthorization _ hmem)
      exact absurd hlength (by decide)
    · exact absurd (hauthorization _ hmem).symm (bearer_ne_basic _ _)
    · exact ⟨discovery, hcached, hchecked _ hcached, .inr ⟨clientId, hissued, rfl⟩⟩

/-! ## A run -/

/-- The answers of a bank: its two metadata documents, one client, one token. -/
def exampleAnswer (request : DcrRequest) : DcrAnswer :=
  if request.url = "https://a/d" then
    .response request.url 200 [] (some (.obj
      [("issuer", .str "https://a"),
        ("registration_endpoint", .str "https://a/r"),
        ("token_endpoint", .str "https://a/t"),
        ("jwks_uri", .str "https://a/k"),
        ("token_endpoint_auth_methods_supported", .arr [.str "client_secret_basic"]),
        ("token_endpoint_auth_signing_alg_values_supported", .arr [.str "PS256"])]))
  else if request.url = "https://a/k" then
    .response request.url 200 [] (some (.obj [("keys", .arr [.obj [("kty", .str "RSA")]])]))
  else if request.url = "https://a/r" then
    .response request.url 201 [] (some (.obj
      [("client_id", .str "client-1"), ("client_secret", .str "secret"),
        ("token_endpoint_auth_method", .str "client_secret_basic"),
        ("application_type", .str "web"), ("redirect_uris", .arr [.str "https://b"]),
        ("grant_types", .arr [.str "client_credentials"]), ("scope", .str "accounts openid"),
        ("software_statement", .str "e30.e30.e30"),
        ("id_token_signed_response_alg", .str "PS256"),
        ("request_object_signing_alg", .str "PS256")]))
  else if request.url = "https://a/t" then
    .response request.url 200 [] (some (.obj [("access_token", .str "token-1")]))
  else .response request.url 204 [] none

/-- That bank, with a software statement whose claims are always the same. -/
def exampleBank : DcrEnvironment where
  Outside := Unit
  Key := Unit
  urls := ⟨fun cs => cs.map Char.toLower, id, String.ofList⟩
  lower := id
  pyStr _ := ""
  request request outside := (exampleAnswer request, outside)
  clock outside := (some 0, outside)
  jwtIdFactory outside := ("jti", outside)
  readText _ outside := (.value "e30.e30.e30", outside)
  loadRsaKey _ outside := (.value (), outside)
  certificateSubject _ _ outside := (.value "CN=tpp", outside)
  importOctKey _ := .ok ()
  encode _ _ _ _ := .ok "header.claims.signature"
  importKey _ := .ok ()
  jsonLoads _ := .ok (.obj [("software_id", .str "software1"),
    ("software_redirect_uris", .arr [.str "https://b"])])

/-- A participant of that bank. -/
def exampleConfig : DcrPlanConfiguration where
  shared := {
    discoveryUrl := some "https://a/d"
    mtls := ⟨none, some (.ofText "/tls.pem"), some (.ofText "/tls.key")⟩
    signing := ⟨some (.ofText "/sign.key"), some "kid", none⟩
    clientAuthMethod := some .clientSecretBasic
    metadata := ⟨none, none, none⟩ }
  dynamicClientRegistration := {
    softwareStatementAssertionPath := .ofText "/ssa.jwt"
    registrationAudience := "aspsp"
    registrationIssuerOverride := none
    redirectUrisOverride := []
    signingCertificatePath := none
    transportCertificateSubjectDnOverride := none
    useNumericOidSubjectDn := false
    disableKeepAlive := false }

/-- An operation of the catalogue. -/
def exampleStep (definitionId : String) : CatalogueExecutionStep where
  stepId := definitionId
  definitionId := definitionId
  name := definitionId
  kind := .http
  expectedStatus := some 201

/-- A case that registers a client and gets a token for it. -/
def exampleCase : CatalogueTestCase where
  testCaseId := "register"
  applicability := ⟨⟨[.all]⟩, [], [], []⟩
  mandatory := true
  traceGroup := some { groupId := "scenario" }
  executionSteps := ["validate-registration-endpoint", "generate-registration-jose",
    "post-registration", "assert-status-201", "parse-registration-success",
    "request-client-credentials-token"].map exampleStep

/-- The plan of that case, with `DELETE` selected. -/
def exampleDcrPlan : CompiledTestPlan where
  catalogueKey := ⟨"open-banking", "v3.4", "dcr"⟩
  catalogueVersion := "1"
  securityProfile := .fapi1Advanced
  testCases := [exampleCase]
  traceability := {
    catalogueKey := ⟨"open-banking", "v3.4", "dcr"⟩, catalogueVersion := "1",
    securityProfile := .fapi1Advanced,
    selectedEndpoints := [⟨.delete, "/register", "dcr", none, []⟩], selectedCapabilities := [],
    applicabilityDecisions := [], generatedTestCaseIds := [],
    runtimeInputSnapshot := [], nonCertifyingReasons := [], provenance := none }
  certifying := false
  skippedTestCases := []

/-- The operations of a run of it. -/
abbrev exampleOperations : DcrOperations :=
  operations exampleBank exampleConfig exampleDcrPlan (.ok ())

/-- A run of it that begins. -/
abbrev exampleStart : DcrRun exampleOperations := { world := startWorld exampleBank () }

/-- The cases of its one scenario. -/
abbrev exampleCases : Except PyError (DcrRun exampleOperations × DcrScenarioState) :=
  [exampleCase].foldlM (runDcrScenarioCase exampleOperations) (exampleStart, {})

/-- Every step passes and a client and a token are there at the end, in five exchanges: the
    metadata, the keys, the client, the token and the `DELETE` of the cleanup. -/
theorem exampleCases_passed : exampleCases.toOption.any (fun ended =>
    ended.1.results.all (fun result => result.status = .passed) &&
      (ended.2.managementUrl == some "https://a/r/client-1" &&
        (ended.2.clientCredentialsAccessToken == some "token-1" &&
          (bestEffortCleanup exampleBank (selectsDelete exampleDcrPlan) "scenario"
            (ended.1.world, ended.2)).exchanges.length == 5))) = true := by
  decide +kernel

/-- The sample bank passes the sample scenario in five exchanges. -/
theorem exists_exampleRun : ∃ ended run, exampleCases = .ok ended ∧
    runDcrScenario exampleOperations exampleStart ("scenario", [exampleCase]) = .ok run ∧
    (∀ result ∈ run.results, result.status = .passed) ∧
    ended.2.managementUrl = some "https://a/r/client-1" ∧
    ended.2.clientCredentialsAccessToken = some "token-1" ∧
    (run.world : DcrWorld exampleBank).exchanges.length = 5 := by
  obtain ⟨ended, hended, hpassed⟩ := Except.exists_ok_of_any exampleCases_passed
  simp only [Bool.and_eq_true, beq_iff_eq, List.all_eq_true, decide_eq_true_eq] at hpassed
  obtain ⟨hresults, hurl, htoken, hlength⟩ := hpassed
  refine ⟨ended, { ended.1 with
    world := exampleOperations.bestEffortCleanup "scenario" (ended.1.world, ended.2) }, hended, ?_,
    hresults, hurl, htoken, hlength⟩
  unfold runDcrScenario
  exact Except.bind_eq_ok.mpr ⟨ended, hended, rfl⟩

/-- Its scenarios. -/
def exampleScenarios : Dict String (List CatalogueTestCase) :=
  ⟨[("scenario", [exampleCase])], by decide⟩

theorem dcrScenarios_example : dcrScenarios exampleDcrPlan = .ok exampleScenarios := rfl

theorem exampleScenarios_entries :
    exampleScenarios.entries = [] ++ ("scenario", [exampleCase]) :: [] := rfl

theorem exampleRun_start :
    ([] : List (String × List CatalogueTestCase)).foldlM (runDcrScenario exampleOperations)
      { world := startWorld exampleBank () } = .ok exampleStart := rfl

/-! ## The scenarios of a run -/

section Scenarios

variable {client : Except PyError environment.Outside} {outside : environment.Outside}
  {scenarios : Dict String (List CatalogueTestCase)}
  {earlier later : List (String × List CatalogueTestCase)}
  {scenario : String × List CatalogueTestCase}
  {run run' : DcrRun (operations environment config plan client)}

/-- A scenario of a run sends its credentials where it got them, and nowhere else. -/
theorem dcrScenario_confined (hscenarios : dcrScenarios plan = .ok scenarios)
    (hsplit : scenarios.entries = earlier ++ scenario :: later)
    (hearlier : earlier.foldlM (runDcrScenario (operations environment config plan client))
      { world := startWorld environment outside } = .ok run)
    (hrun : runDcrScenario (operations environment config plan client) run scenario = .ok run') :
    ∃ during, (run'.world : DcrWorld environment).exchanges =
        (run.world : DcrWorld environment).exchanges ++ during ∧
      ∀ before e after, during = before ++ e :: after →
        Confined environment config (run'.world : DcrWorld environment).discovery before
          e.request := by
  have hplan := mem_testCases_of_dcrScenarios hscenarios
  rw [hsplit] at hplan
  obtain ⟨during, _, hexchanges, -, -, hchecked, hdisciplined, -⟩ := runDcrScenario_run
    (hplan scenario (by simp))
    (checked_of_run (fun other hother => hplan other (List.mem_append_left _ hother)) hearlier) hrun
  exact ⟨during, hexchanges, fun before e after heq =>
    (hdisciplined before e after heq).confined hchecked⟩

/-- The requests of the sample scenario are confined. -/
theorem dcrScenario_confined_example : ∃ run : DcrRun exampleOperations,
    runDcrScenario exampleOperations exampleStart ("scenario", [exampleCase]) = .ok run ∧
    (run.world : DcrWorld exampleBank).exchanges.length = 5 ∧
    ∃ during, (run.world : DcrWorld exampleBank).exchanges = [] ++ during ∧
      ∀ before e after, during = before ++ e :: after →
        Confined exampleBank exampleConfig (run.world : DcrWorld exampleBank).discovery before
          e.request := by
  obtain ⟨_, run, -, hrun, -, -, -, hlength⟩ := exists_exampleRun
  exact ⟨run, hrun, hlength, dcrScenario_confined dcrScenarios_example exampleScenarios_entries
    exampleRun_start hrun⟩

/-- A scenario that ends with a client it can manage, in a plan that may delete clients, leaves
    after a `DELETE` of a client of its own: one that the bank confirmed, or its last request. -/
theorem dcrScenario_cleanup {run₁ : DcrRun (operations environment config plan client)}
    {state : DcrScenarioState} {url token : String} (hscenarios : dcrScenarios plan = .ok scenarios)
    (hsplit : scenarios.entries = earlier ++ scenario :: later)
    (hearlier : earlier.foldlM (runDcrScenario (operations environment config plan client))
      { world := startWorld environment outside } = .ok run)
    (hcases : scenario.2.foldlM (runDcrScenarioCase (operations environment config plan client))
      (run, {}) = .ok (run₁, state))
    (hselected : selectsDelete plan = true) (hurl : state.managementUrl = some url)
    (htoken : state.clientCredentialsAccessToken = some token) (hvalue : token ≠ "")
    (hrun : runDcrScenario (operations environment config plan client) run scenario = .ok run') :
    ∃ during, (run'.world : DcrWorld environment).exchanges =
        (run.world : DcrWorld environment).exchanges ++ during ∧
      ∃ e ∈ during, ∃ discovery clientId,
        (run'.world : DcrWorld environment).discovery = some discovery ∧
        Issued environment config during clientId ∧ e.request.method = .delete ∧
          e.request.url = managementUrlOf discovery clientId ∧
          (during.getLast? = some e ∨
            ∃ response, e.response = some response ∧ response.statusCode = 204) := by
  have hplan := mem_testCases_of_dcrScenarios hscenarios
  rw [hsplit] at hplan
  have hchecked := checked_of_run
    (fun other hother => hplan other (List.mem_append_left _ hother)) hearlier
  obtain ⟨_, -, during, hexchanges, hinv, -⟩ :=
    dcrScenarioCases_run (hplan scenario (by simp)) hchecked hcases
  unfold runDcrScenario at hrun
  obtain ⟨ended, hended, hpair⟩ := Except.bind_eq_ok.mp hrun
  obtain rfl := Except.ok.inj (hcases.symm.trans hended)
  obtain rfl := Except.ok.inj hpair
  obtain ⟨hdiscovery, answered, hcleanup⟩ :=
    bestEffortCleanup_exchanges (selectsDelete plan) scenario.1 (run₁.world, state)
  refine ⟨during ++ _, (hcleanup.trans (congrArg (· ++ _) hexchanges)).trans
    (List.append_assoc _ _ _), ?_⟩
  -- either a step has deleted the client, or the cleanup asks for it last
  by_cases hdeleted : state.deleted = true
  · obtain ⟨discovery, clientId, request, response, hcached, hmem, hissued, hmethod, hrequest,
      hstatus⟩ := hinv.deleted hdeleted
    exact ⟨_, List.mem_append_left _ hmem, discovery, clientId, hdiscovery.trans hcached,
      hissued.append _, hmethod, hrequest, .inr ⟨response, rfl, hstatus⟩⟩
  · have hneeds : needsCleanup (selectsDelete plan) state = true := by
      simp [needsCleanup, hselected, hurl, htoken, hvalue, hdeleted]
    obtain ⟨discovery, clientId, hcached, hissued, heq⟩ := hinv.management url hurl
    simp only [hneeds, if_true]
    exact ⟨_, List.mem_append_right _ List.mem_cons_self, discovery, clientId,
      hdiscovery.trans hcached, hissued.append _, rfl, by simp [cleanupRequest, hurl, heq],
      .inl (List.getLast?_concat ..)⟩

/-- The sample scenario deletes the client that it registered. -/
theorem dcrScenario_cleanup_example : ∃ run : DcrRun exampleOperations,
    runDcrScenario exampleOperations exampleStart ("scenario", [exampleCase]) = .ok run ∧
    (run.world : DcrWorld exampleBank).exchanges.length = 5 ∧
    ∃ during, (run.world : DcrWorld exampleBank).exchanges = [] ++ during ∧
      ∃ e ∈ during, ∃ discovery clientId,
        (run.world : DcrWorld exampleBank).discovery = some discovery ∧
        Issued exampleBank exampleConfig during clientId ∧ e.request.method = .delete ∧
          e.request.url = managementUrlOf discovery clientId ∧
            (during.getLast? = some e ∨
              ∃ response, e.response = some response ∧ response.statusCode = 204) := by
  obtain ⟨ended, run, hcases, hrun, -, hurl, htoken, hlength⟩ := exists_exampleRun
  exact ⟨run, hrun, hlength, dcrScenario_cleanup dcrScenarios_example exampleScenarios_entries
    exampleRun_start hcases rfl hurl htoken (by decide) hrun⟩

end Scenarios

end Conformance.DcrExecution
