import Conformance.Native.Catalogue
import Conformance.Native.Manifest

/-!
# The synthetic manifest of a compiled plan

`_compiled_plan_to_manifest` of `conformance/executor.py`: the request steps of the
compiled cases become manifest steps, together with the token, consent, PSU
authorisation and token exchange steps that the plan needs and no case declares.

How a request, an assertion or a signing directive is represented is left to
`CatalogueRequests`, as it is in `FieldParsers`; building the request of a
catalogue step from the runtime inputs may raise. The functions here decide which
steps there are, in which order, and under which ids.
-/

namespace Conformance

/-! ## Step and token identifiers -/

/-- `_AIS_CLIENT_CREDENTIALS_TOKEN_ID`. -/
def aisClientCredentialsTokenId : String := "ais-client-credentials"

/-- `_CBPII_CLIENT_CREDENTIALS_TOKEN_ID`. -/
def cbpiiClientCredentialsTokenId : String := "cbpii-client-credentials"

/-- `_CBPII_FUNDS_CONFIRMATION_TOKEN_ID`. -/
def cbpiiFundsConfirmationTokenId : String := "cbpii-funds-confirmation"

/-- `_CBPII_CONSENT_CREATE_STEP_ID`. -/
def cbpiiConsentCreateStepId : String := "cbpii-consent-create-core-request"

/-- `_CBPII_AUTHORIZATION_STEP_ID`. -/
def cbpiiAuthorizationStepId : String := "setup-cbpii-consent-authorisation"

/-- `_CBPII_AUTHORIZATION_TOKEN_STEP_ID`. -/
def cbpiiAuthorizationTokenStepId : String := "setup-token-cbpii-funds-confirmation"

/-- `_CBPII_AUTHORISED_RESOURCE_STEP_IDS`. -/
def cbpiiAuthorisedResourceStepIds : List String :=
  ["cbpii-consent-get-authorised-request", "cbpii-funds-confirmation-create-request"]

/-- `_AIS_CONSENT_CREATE_STEP_ID`. -/
def aisConsentCreateStepId : String := "ais-at-setup-consent-request"

/-- `_AIS_ACCOUNT_ACCESS_TOKEN_STEP_ID`. -/
def aisAccountAccessTokenStepId : String := "ais-at-setup-token-request"

/-- `_AIS_PERMISSION_PROFILE_TOKEN_IDS`, in insertion order. -/
def aisPermissionProfileTokenIds : List (String × String) :=
  [("basic", "ais-account-access-basic"), ("detail", "ais-account-access-detail")]

/-- `_VRP_CONSENT_AUTHORIZATION_STEP_IDS`. -/
def vrpConsentAuthorizationStepIds : List String :=
  ["vrp-consent-create-awaiting-authorisation-v31-pre-3111-request",
    "vrp-consent-create-awaiting-authorisation-v31-3111-request",
    "vrp-consent-create-awaiting-authorisation-v4-request",
    "cvrp-consent-create-awaiting-authorisation-v4-request"]

/-- `_CATALOGUE_TOKEN_SCOPES`. -/
def catalogueTokenScopes : List (String × String) :=
  [(aisClientCredentialsTokenId, "accounts"),
    (cbpiiClientCredentialsTokenId, "fundsconfirmations"),
    ("pis-payment-access", "payments"),
    ("vrp-payment-access", "payments")]

/-- `str.removesuffix`. -/
def removeSuffix (s suffix : String) : String :=
  if suffix.toList <:+ s.toList then
    String.ofList (s.toList.take (s.toList.length - suffix.toList.length))
  else s

/-- `_vrp_authorization_step_id`. -/
def vrpAuthorizationStepId (consentStepId : String) : String :=
  removeSuffix consentStepId "-request" ++ "-authorisation"

/-- `_vrp_authorization_token_step_id`. -/
def vrpAuthorizationTokenStepId (consentStepId : String) : String :=
  removeSuffix consentStepId "-request" ++ "-psu-payment-token"

/-- `_vrp_psu_payment_access_token_id`. -/
def vrpPsuPaymentAccessTokenId (consentStepId : String) : String :=
  removeSuffix consentStepId "-request" ++ "-psu-payment-access"

/-- `_ais_profile_consent_step_id`. -/
def aisProfileConsentStepId (profile : String) : String :=
  "ais-at-setup-" ++ profile ++ "-consent-request"

/-- `_ais_profile_authorization_step_id`. -/
def aisProfileAuthorizationStepId (profile : String) : String :=
  "setup-ais-" ++ profile ++ "-consent-authorisation"

/-- `_ais_profile_token_step_id`. -/
def aisProfileTokenStepId (profile : String) : String :=
  "ais-at-setup-" ++ profile ++ "-token-request"

/-- The id of a client-credentials token setup step. -/
def tokenSetupStepId (tokenId : String) : String := "setup-token-" ++ tokenId

/-! ## What a compiled plan requires -/

namespace CompiledTestPlan

/-- The request steps of the compiled cases, in order. -/
def requestSteps (plan : CompiledTestPlan) : List CatalogueRequestStep :=
  plan.testCases.flatMap (·.requestSteps)

/-- Whether a compiled request step consumes the token. -/
def requiresToken (plan : CompiledTestPlan) (tokenId : String) : Bool :=
  plan.requestSteps.any fun requestStep => requestStep.requiredTokenId = some tokenId

end CompiledTestPlan

/-- `_compiled_plan_ais_permission_profiles`. -/
def compiledPlanAisPermissionProfiles (plan : CompiledTestPlan) : List String :=
  (aisPermissionProfileTokenIds.filter fun entry => plan.requiresToken entry.2).map Prod.fst

/-- `_compiled_plan_requires_pis_consent_authorization`. -/
def compiledPlanRequiresPisConsentAuthorization (plan : CompiledTestPlan)
    (consentStep : CatalogueRequestStep) : Bool :=
  plan.requestSteps.any fun requestStep =>
    requestStep.requiredPsuAuthorizationStepId = some consentStep.stepId

/-- `_compiled_plan_requires_vrp_consent_authorization`. -/
def compiledPlanRequiresVrpConsentAuthorization (plan : CompiledTestPlan)
    (consentStepId : String) : Bool :=
  plan.requiresToken (vrpPsuPaymentAccessTokenId consentStepId)

/-- `_compiled_plan_requires_cbpii_consent_authorization`. -/
def compiledPlanRequiresCbpiiConsentAuthorization (plan : CompiledTestPlan) : Bool :=
  plan.requestSteps.any fun requestStep => requestStep.stepId ∈ cbpiiAuthorisedResourceStepIds

/-- `required_token_ids` of `_catalogue_synthetic_token_steps`, in first-use order. -/
def requiredTokenIds (plan : CompiledTestPlan) : List String :=
  plan.requestSteps.foldl (fun tokenIds requestStep =>
    match requestStep.requiredTokenId with
    | some tokenId => if tokenId ∈ tokenIds then tokenIds else tokenIds ++ [tokenId]
    | none => tokenIds) []

/-- `produced_token_ids` of `_catalogue_synthetic_token_steps`. -/
def producedTokenIds (plan : CompiledTestPlan) : List String :=
  plan.requestSteps.filterMap (·.producedTokenId)

/-! ## Manifest values -/

/-- How the values below the level of a step are built, and the request building of the
    executor: `_catalogue_request_url`, `_catalogue_request_headers`,
    `_catalogue_request_body` and the assertion conversion, which read the runtime inputs. -/
structure CatalogueRequests (p : FieldParsers) where
  formRequest : (method : HttpMethod) → (url : String) → (fields : List (String × String)) →
    p.Request
  httpStatusAssertion : Int → p.Assertion
  fapiSigningPolicy : p.TokenEndpointAuthPolicy
  generatedRequestObject : (audience openbankingIntentId : String) → p.RequestObject
  aisProfileConsentRequest : CatalogueTestCase → CatalogueRequestStep → (profile : String) →
    Except PyError p.Request
  catalogueRequest : CatalogueTestCase → CatalogueRequestStep → Except PyError p.Request
  catalogueAssertions : CatalogueTestCase → CatalogueRequestStep →
    Except PyError (List p.Assertion)

/-- The placeholder of the consent id that a step's response carries. -/
def capturedConsentId (consentStepId : String) : String :=
  "$\x7bsteps." ++ consentStepId ++ ".response.body.Data.ConsentId\x7d"

section Steps

variable {p : FieldParsers} (requests : CatalogueRequests p)

/-- The PSU authorisation step shared by the four API families: they differ in id, name,
    scope, the consent that is authorised, and the phase. -/
def psuAuthorizationStep (id name scope intentId : String) (phase : StepPhase) :
    PsuAuthorizationStep p where
  id := id
  name := name
  mode := .manual
  authorizationEndpoint := "$\x7bconfig.oauth.authorizationEndpoint\x7d"
  clientId := "$\x7bconfig.oauth.clientId\x7d"
  redirectUri := "$\x7bconfig.oauth.redirectUri\x7d"
  responseType := "code id_token"
  scope := scope
  state := none
  nonce := none
  requestObject := some (requests.generatedRequestObject "$\x7bconfig.oauth.issuer\x7d" intentId)
  mandatory := true
  optional := false
  group := "catalogue"
  phase := phase

/-- The token step shared by the client-credentials and authorisation-code exchanges. -/
def tokenStep (id name : String) (fields : List (String × String)) (group : String)
    (phase : StepPhase) (tokenId : String) : ManifestStep p where
  id := id
  name := name
  request := requests.formRequest .post "$\x7bconfig.oauth.tokenEndpoint\x7d" fields
  assertions := [requests.httpStatusAssertion 200]
  warning := none
  mandatory := true
  optional := false
  group := group
  phase := phase
  tokenEndpointAuthPolicy := some requests.fapiSigningPolicy
  requiredTokenId := none
  producesTokenId := some tokenId

/-- The form fields of an authorisation-code exchange. -/
def authorizationCodeFields (authorizationStepId : String) : List (String × String) :=
  [("grant_type", "authorization_code"),
    ("code", "$\x7bsteps." ++ authorizationStepId ++ ".response.body.code\x7d"),
    ("redirect_uri", "$\x7bconfig.oauth.redirectUri\x7d"),
    ("client_id", "$\x7bconfig.oauth.clientId\x7d")]

/-- `_catalogue_client_credentials_token_step`. -/
def catalogueClientCredentialsTokenStep (tokenId scope : String) : ManifestStep p :=
  tokenStep requests (tokenSetupStepId tokenId) s!"Acquire {scope} access token"
    [("grant_type", "client_credentials"), ("scope", scope),
      ("client_id", "$\x7bconfig.oauth.clientId\x7d")] "setup" .setup tokenId

/-- `_cbpii_psu_authorization_step`. -/
def cbpiiPsuAuthorizationStep : PsuAuthorizationStep p :=
  psuAuthorizationStep requests cbpiiAuthorizationStepId
    "Authorise CBPII funds-confirmation consent" "openid fundsconfirmations"
    (capturedConsentId cbpiiConsentCreateStepId) .execution

/-- `_cbpii_authorization_code_token_step`. -/
def cbpiiAuthorizationCodeTokenStep : ManifestStep p :=
  tokenStep requests cbpiiAuthorizationTokenStepId
    "Exchange CBPII authorisation code for funds-confirmation token"
    (authorizationCodeFields cbpiiAuthorizationStepId) "catalogue" .execution
    cbpiiFundsConfirmationTokenId

/-- `_pis_psu_authorization_step`. -/
def pisPsuAuthorizationStep (consentStep : CatalogueRequestStep)
    (metadata : CataloguePsuAuthorization) : PsuAuthorizationStep p :=
  psuAuthorizationStep requests metadata.authorizationStepId metadata.authorizationStepName
    "openid payments" (capturedConsentId consentStep.stepId) .execution

/-- `_pis_authorization_code_token_step`. -/
def pisAuthorizationCodeTokenStep (metadata : CataloguePsuAuthorization) : ManifestStep p :=
  let flowLabel := metadata.flowLabel
  tokenStep requests metadata.tokenStepId
    s!"Exchange PIS {flowLabel} authorisation code for payments token"
    (authorizationCodeFields metadata.authorizationStepId) "catalogue" .execution
    metadata.tokenId

/-- `_vrp_psu_authorization_step`. -/
def vrpPsuAuthorizationStep (consentStepId : String) : PsuAuthorizationStep p :=
  psuAuthorizationStep requests (vrpAuthorizationStepId consentStepId) "Authorise VRP consent"
    "openid payments" (capturedConsentId consentStepId) .execution

/-- `_vrp_authorization_code_token_step`. -/
def vrpAuthorizationCodeTokenStep (consentStepId : String) : ManifestStep p :=
  tokenStep requests (vrpAuthorizationTokenStepId consentStepId)
    "Exchange VRP authorisation code for payments token"
    (authorizationCodeFields (vrpAuthorizationStepId consentStepId)) "catalogue" .execution
    (vrpPsuPaymentAccessTokenId consentStepId)

/-- `_ais_psu_authorization_step`. -/
def aisPsuAuthorizationStep (profile : String) : PsuAuthorizationStep p :=
  psuAuthorizationStep requests (aisProfileAuthorizationStepId profile)
    s!"Authorise AIS {profile} account-access consent" "openid accounts"
    (capturedConsentId (aisProfileConsentStepId profile)) .setup

/-- `_ais_authorization_code_token_step`. -/
def aisAuthorizationCodeTokenStep (profile : String) : ManifestStep p :=
  tokenStep requests (aisProfileTokenStepId profile)
    s!"Exchange AIS {profile} authorisation code for account-access token"
    (authorizationCodeFields (aisProfileAuthorizationStepId profile)) "catalogue" .setup
    ((aisPermissionProfileTokenIds.lookup profile).getD "")

/-- `_ais_profile_consent_step`. -/
def aisProfileConsentStep (testCase : CatalogueTestCase) (requestStep : CatalogueRequestStep)
    (profile : String) : Except PyError (ManifestStep p) := do
  let request ← requests.aisProfileConsentRequest testCase requestStep profile
  return {
    id := aisProfileConsentStepId profile
    name := s!"Create AIS {profile} account-access consent"
    request := request
    assertions := [requests.httpStatusAssertion 201]
    warning := none
    mandatory := true
    optional := false
    group := "catalogue"
    phase := .setup
    tokenEndpointAuthPolicy := none
    requiredTokenId := requestStep.requiredTokenId
    producesTokenId := none }

/-- `_catalogue_step_phase`. -/
def catalogueStepPhase (testCase : CatalogueTestCase) (requestStep : CatalogueRequestStep) :
    StepPhase :=
  if requestStep.stepId = aisConsentCreateStepId then .setup
  else if testCase.role ∈ [TestCaseRole.setup, .security, .token] then .setup
  else .execution

/-- `_catalogue_request_step_to_manifest_step`. -/
def catalogueRequestStepToManifestStep (testCase : CatalogueTestCase)
    (requestStep : CatalogueRequestStep) : Except PyError (ManifestStep p) := do
  let request ← requests.catalogueRequest testCase requestStep
  let assertions ← requests.catalogueAssertions testCase requestStep
  return {
    id := requestStep.stepId
    name := requestStep.name
    request := request
    assertions := assertions
    warning := none
    mandatory := testCase.mandatory
    optional := false
    group := "catalogue"
    phase := catalogueStepPhase testCase requestStep
    -- `_catalogue_token_endpoint_auth_policy`
    tokenEndpointAuthPolicy :=
      if requestStep.stepId = aisAccountAccessTokenStepId then some requests.fapiSigningPolicy
      else none
    requiredTokenId := requestStep.requiredTokenId
    producesTokenId := requestStep.producedTokenId }

/-! ## Synthetic steps -/

/-- `_catalogue_synthetic_token_steps`. -/
def catalogueSyntheticTokenSteps (plan : CompiledTestPlan) : List (ManifestStep p) :=
  (requiredTokenIds plan).filterMap fun tokenId =>
    if tokenId ∈ producedTokenIds plan then none
    else (catalogueTokenScopes.lookup tokenId).map
      (catalogueClientCredentialsTokenStep requests tokenId)

/-- `compiled_plan_synthetic_setup_steps`. -/
def compiledPlanSyntheticSetupSteps (plan : CompiledTestPlan) : List (ManifestStep p) :=
  catalogueSyntheticTokenSteps requests plan

/-- `_pis_inline_authorization_steps`. -/
def pisInlineAuthorizationSteps (plan : CompiledTestPlan) (requestStep : CatalogueRequestStep) :
    List (V1Step p) :=
  match requestStep.psuAuthorization with
  | none => []
  | some metadata =>
    if compiledPlanRequiresPisConsentAuthorization plan requestStep then
      [.psuAuthorization (pisPsuAuthorizationStep requests requestStep metadata),
        .http (pisAuthorizationCodeTokenStep requests metadata)]
    else []

/-- `_vrp_inline_authorization_steps`. -/
def vrpInlineAuthorizationSteps (plan : CompiledTestPlan) (requestStep : CatalogueRequestStep) :
    List (V1Step p) :=
  if requestStep.stepId ∉ vrpConsentAuthorizationStepIds then []
  else if compiledPlanRequiresVrpConsentAuthorization plan requestStep.stepId then
    [.psuAuthorization (vrpPsuAuthorizationStep requests requestStep.stepId),
      .http (vrpAuthorizationCodeTokenStep requests requestStep.stepId)]
  else []

/-- `_catalogue_inline_authorization_steps`. -/
def catalogueInlineAuthorizationSteps (plan : CompiledTestPlan)
    (requestStep : CatalogueRequestStep) : List (V1Step p) :=
  if requestStep.stepId ≠ cbpiiConsentCreateStepId then
    match pisInlineAuthorizationSteps requests plan requestStep with
    | [] => vrpInlineAuthorizationSteps requests plan requestStep
    | pisSteps => pisSteps
  else if compiledPlanRequiresCbpiiConsentAuthorization plan then
    [.psuAuthorization (cbpiiPsuAuthorizationStep requests),
      .http (cbpiiAuthorizationCodeTokenStep requests)]
  else []

/-- `compiled_plan_synthetic_inline_steps`. -/
def compiledPlanSyntheticInlineSteps (plan : CompiledTestPlan)
    (requestStep : CatalogueRequestStep) : List (V1Step p) :=
  catalogueInlineAuthorizationSteps requests plan requestStep

/-! ## The manifest -/

/-- The manifest steps that one catalogue request step expands to: the two AIS templates
    stand for one flow for each required permission profile. -/
def manifestStepsOfRequestStep (plan : CompiledTestPlan) (testCase : CatalogueTestCase)
    (requestStep : CatalogueRequestStep) : Except PyError (List (V1Step p)) :=
  if requestStep.stepId = aisConsentCreateStepId then do
    let flows ← (compiledPlanAisPermissionProfiles plan).mapM fun profile => do
      let consentStep ← aisProfileConsentStep requests testCase requestStep profile
      return [V1Step.http consentStep,
        .psuAuthorization (aisPsuAuthorizationStep requests profile)]
    return flows.flatten
  else if requestStep.stepId = aisAccountAccessTokenStepId then
    .ok ((compiledPlanAisPermissionProfiles plan).map fun profile =>
      .http (aisAuthorizationCodeTokenStep requests profile))
  else do
    let manifestStep ← catalogueRequestStepToManifestStep requests testCase requestStep
    return .http manifestStep :: compiledPlanSyntheticInlineSteps requests plan requestStep

/-- `_compiled_plan_to_manifest`. -/
def compiledPlanToManifest (plan : CompiledTestPlan) : Except PyError (Manifest p) := do
  let expanded ← plan.testCases.mapM fun testCase => do
    let steps ← testCase.requestSteps.mapM (manifestStepsOfRequestStep requests plan testCase)
    return steps.flatten
  return {
    schemaVersion := .v1
    name := plan.catalogueKey.standard ++ " " ++ plan.catalogueKey.version ++ " " ++
      plan.catalogueKey.api
    certificationCoverage := .complete
    steps := (catalogueSyntheticTokenSteps requests plan).map V1Step.http ++ expanded.flatten }

end Steps

end Conformance
