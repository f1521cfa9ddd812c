import Conformance.ForStd.Except
import Conformance.Native.Python

/-!
# Plan configuration

The sections of a plan document of `conformance/catalogue.py` and the executable
configuration: `securityEnvironment` and `businessTestData` are mapped to a
model-bank config and back, and the runtime inputs are read off the config.

`copy.deepcopy` of a JSON value is the value itself.
-/

namespace Conformance.PlanConfig

/-- `fields.pop(key, None)`, the rest. -/
def eraseField (fields : JsonObject) (key : String) : JsonObject :=
  fields.filter fun field => field.1 ≠ key

/-- `fields.update(others)`. -/
def updateFields (fields others : JsonObject) : JsonObject :=
  others.foldl (fun fields field => setField fields field.1 field.2) fields

/-- Whether a value is `None` or a blank string. -/
def isBlank : Json → Bool
  | .null => true
  | .str text => strip text = ""
  | _ => false

/-- `isinstance(value, dict | list)`. -/
def isContainer : Json → Bool
  | .arr _ => true
  | .obj _ => true
  | _ => false

/-- The fields of a value that is an object, and none of another. -/
def fieldsOf : Json → JsonObject
  | .obj fields => fields
  | _ => []

/-- `_copy_optional_top_level_value`. -/
def copyOptionalTopLevelValue (target source : JsonObject) (sourceKey targetKey : String) :
    JsonObject :=
  if isBlank (getField source sourceKey) then target
  else setField target targetKey (getField source sourceKey)

/-- A run of `_copy_optional_top_level_value` calls, each with its source and target key. -/
def copyOptionalTopLevelValues (target source : JsonObject) (keys : List (String × String)) :
    JsonObject :=
  keys.foldl (fun target (sourceKey, targetKey) =>
    copyOptionalTopLevelValue target source sourceKey targetKey) target

/-- `fields[key] = section` for a section that is not empty. -/
def setSection (fields : JsonObject) (key : String) (entries : JsonObject) : JsonObject :=
  if entries = [] then fields else setField fields key (.obj entries)

/-! ## From the security environment to config -/

/-- `_oauth_config_from_security_environment`. -/
def oauthConfigFromSecurityEnvironment (securityEnvironment : JsonObject) : JsonObject :=
  let oauth := copyOptionalTopLevelValues [] securityEnvironment [
    ("clientId", "clientId"),
    ("redirectUri", "redirectUri"),
    ("authorizationEndpoint", "authorizationEndpoint"),
    ("issuer", "issuer"),
    ("tokenEndpoint", "tokenEndpoint"),
    ("resourceBaseUrl", "resourceBaseUrl"),
    ("responseType", "responseType"),
    ("signingAlgorithm", "requestObjectSigningAlg")]
  if (oauth.lookup "clientId").isNone || (oauth.lookup "redirectUri").isNone then [] else oauth

/-- The fields a FAPI signing config must have. -/
def requiredSigningFields : List String :=
  ["signingCertificatePath", "signingPrivateKeyPath", "kid", "clientAssertionIssuer",
    "clientAssertionSubject", "tokenEndpointAuthMethod"]

/-- `_fapi_signing_config_from_security_environment`. -/
def fapiSigningConfigFromSecurityEnvironment (securityEnvironment : JsonObject) : JsonObject :=
  let signing := copyOptionalTopLevelValues [] securityEnvironment [
    ("signingCertificatePath", "signingCertificatePath"),
    ("signingPrivateKeyPath", "signingPrivateKeyPath"),
    ("signingKeyId", "kid"),
    ("clientAssertionIssuer", "clientAssertionIssuer"),
    ("clientAssertionSubject", "clientAssertionSubject"),
    ("clientAuthMethod", "tokenEndpointAuthMethod")]
  if requiredSigningFields.all fun field => (signing.lookup field).isSome then signing else []

/-- `_tls_config_from_security_environment`. -/
def tlsConfigFromSecurityEnvironment (securityEnvironment : JsonObject) : JsonObject :=
  copyOptionalTopLevelValues [] (fieldsOf (getField securityEnvironment "mtls")) [
    ("caBundlePath", "caBundlePath"),
    ("certificatePath", "clientCertificatePath"),
    ("privateKeyPath", "clientPrivateKeyPath")]

/-- `_resource_server_config_from_security_environment`. -/
def resourceServerConfigFromSecurityEnvironment (securityEnvironment : JsonObject) : JsonObject :=
  copyOptionalTopLevelValue [] securityEnvironment "resourceBaseUrl" "baseUrl"

/-- `config["discoveryUrl"] = discovery_url` unless it is `None`. -/
def discoveryUrlConfig (securityEnvironment : JsonObject) : JsonObject :=
  match getField securityEnvironment "discoveryUrl" with
  | .null => []
  | discoveryUrl => [("discoveryUrl", discoveryUrl)]

/-- `_config_from_security_environment`. -/
def configFromSecurityEnvironment (securityEnvironment : JsonObject) : JsonObject :=
  let config := discoveryUrlConfig securityEnvironment
  let config := setSection config "oauth" (oauthConfigFromSecurityEnvironment securityEnvironment)
  let config :=
    setSection config "fapiSigning" (fapiSigningConfigFromSecurityEnvironment securityEnvironment)
  let config := setSection config "tls" (tlsConfigFromSecurityEnvironment securityEnvironment)
  setSection config "resourceServer"
    (resourceServerConfigFromSecurityEnvironment securityEnvironment)

/-! ## From the business test data to config -/

/-- One entry of `_account_id_objects`. -/
def accountIdObject (entry : Json × Nat) : Except PyError Json :=
  let index := entry.2
  let problem : PyError := .catalogueError
    s!"testPlan.businessTestData.ais.accountIds[{index}] must be a non-empty string or JSON object"
  match entry.1 with
  | .str accountId =>
    if strip accountId = "" then .error problem
    else .ok (.obj [("accountId", .str (strip accountId))])
  | .obj fields => .ok (.obj fields)
  | _ => .error problem

/-- `_account_id_objects`. -/
def accountIdObjects (rawAccountIds : Json) : Except PyError (List Json) :=
  match rawAccountIds with
  | .arr items => items.zipIdx.mapM accountIdObject
  | _ => .error (.catalogueError "testPlan.businessTestData.ais.accountIds must be an array")

/-- `_ais_config_from_business_data`. -/
def aisConfigFromBusinessData (aisData : JsonObject) : Except PyError JsonObject :=
  match getField aisData "accountIds" with
  | .null => .ok (eraseField aisData "accountIds")
  | rawAccountIds => do
    let accountIds ← accountIdObjects rawAccountIds
    return setField (eraseField aisData "accountIds") "resourceIds"
      (.obj [("accountIds", .arr accountIds)])

/-- `_business_section_object`. -/
def businessSectionObject (businessTestData : JsonObject) (key : String) :
    Except PyError JsonObject :=
  match getField businessTestData key with
  | .null => .ok []
  | .obj fields => .ok fields
  | _ => .error (.catalogueError s!"testPlan.businessTestData.{key} must be a JSON object")

/-- The business sections that config has under the same name. -/
def copiedBusinessSections : List String :=
  ["pis", "cbpii", "vrp", "inputs", "runtimeInputs", "conditionalProperties"]

/-- `target[key] = source[key]` for the keys whose value is not `None`. -/
def copySections (target source : JsonObject) (keys : List String) : JsonObject :=
  keys.foldl (fun target key =>
    match getField source key with
    | .null => target
    | value => setField target key value) target

/-- `_config_from_business_test_data`. -/
def configFromBusinessTestData (businessTestData : JsonObject) : Except PyError JsonObject := do
  let ais ← businessSectionObject businessTestData "ais"
  let aisConfig ← aisConfigFromBusinessData ais
  return copySections (if ais = [] then [] else [("ais", .obj aisConfig)]) businessTestData
    copiedBusinessSections

/-- `_canonical_plan_config`. -/
def canonicalPlanConfig (securityEnvironment businessTestData : JsonObject) :
    Except PyError JsonObject := do
  let business ← configFromBusinessTestData businessTestData
  return updateFields (configFromSecurityEnvironment securityEnvironment) business

/-! ## From config back to the sections -/

/-- `_security_environment_has_discovery_url`. -/
def securityEnvironmentHasDiscoveryUrl (securityEnvironment : JsonObject) : Bool :=
  match getField securityEnvironment "discoveryUrl" with
  | .str discoveryUrl => strip discoveryUrl ≠ ""
  | _ => false

/-- The stripped discovery URL of a config that has one. -/
def discoveryUrlSection (config : JsonObject) : JsonObject :=
  match getField config "discoveryUrl" with
  | .str discoveryUrl =>
    if strip discoveryUrl = "" then [] else [("discoveryUrl", .str (strip discoveryUrl))]
  | _ => []

/-- `_merge_mtls_export`. -/
def mergeMtlsExport (securityEnvironment config : JsonObject) : JsonObject :=
  let mtls := copyOptionalTopLevelValues [] (fieldsOf (getField config "tls")) [
    ("caBundlePath", "caBundlePath"),
    ("clientCertificatePath", "certificatePath"),
    ("clientPrivateKeyPath", "privateKeyPath")]
  if mtls = [] then securityEnvironment
  else setField securityEnvironment "mtls" (.obj (setField mtls "enabled"
    (.bool ((mtls.lookup "certificatePath").isSome && (mtls.lookup "privateKeyPath").isSome))))

/-- `_security_environment_from_plan_config`. A config section that is not an object has no
    fields to copy. -/
def securityEnvironmentFromPlanConfig (config : JsonObject) : JsonObject :=
  let securityEnvironment := discoveryUrlSection config
  let securityEnvironment :=
    copyOptionalTopLevelValues securityEnvironment (fieldsOf (getField config "oauth")) [
      ("issuer", "issuer"),
      ("authorizationEndpoint", "authorizationEndpoint"),
      ("tokenEndpoint", "tokenEndpoint"),
      ("clientId", "clientId"),
      ("redirectUri", "redirectUri"),
      ("resourceBaseUrl", "resourceBaseUrl"),
      ("responseType", "responseType"),
      ("requestObjectSigningAlg", "signingAlgorithm")]
  let securityEnvironment :=
    copyOptionalTopLevelValues securityEnvironment (fieldsOf (getField config "fapiSigning")) [
      ("tokenEndpointAuthMethod", "clientAuthMethod"),
      ("signingCertificatePath", "signingCertificatePath"),
      ("signingPrivateKeyPath", "signingPrivateKeyPath"),
      ("kid", "signingKeyId"),
      ("clientAssertionIssuer", "clientAssertionIssuer"),
      ("clientAssertionSubject", "clientAssertionSubject")]
  let securityEnvironment := mergeMtlsExport securityEnvironment config
  copyOptionalTopLevelValue securityEnvironment (fieldsOf (getField config "resourceServer"))
    "baseUrl" "resourceBaseUrl"

/-- `_optional_security_environment_from_plan_config`. -/
def optionalSecurityEnvironmentFromPlanConfig (config : JsonObject) : JsonObject :=
  if securityEnvironmentHasDiscoveryUrl config then securityEnvironmentFromPlanConfig config else []

/-- One account id of `_ais_business_data_from_config`. -/
def businessAccountId : Json → Json
  | .obj fields =>
    match getField fields "accountId" with
    | .str accountId => .str accountId
    | _ => .obj fields
  | accountId => accountId

/-- `_ais_business_data_from_config`. -/
def aisBusinessDataFromConfig (aisConfig : JsonObject) : JsonObject :=
  let aisData := eraseField aisConfig "resourceIds"
  match getField aisConfig "resourceIds" with
  | .obj resourceIds =>
    match getField resourceIds "accountIds" with
    | .arr accountIds => setField aisData "accountIds" (.arr (accountIds.map businessAccountId))
    | _ => setField aisData "resourceIds" (.obj resourceIds)
  | _ => aisData

/-- `_MODEL_BANK_CONFIG_KEYS`. -/
def modelBankConfigKeys : List String :=
  ["discoveryUrl", "followUp", "tls", "fapiSigning", "resultOutputPath", "executionLogPath",
    "approvedReleasePolicyPath", "oauth", "resourceServer", "ais", "pis", "cbpii", "vrp",
    "conditionalProperties"]

/-- `_OBSOLETE_MODEL_BANK_CONFIG_KEYS`. -/
def obsoleteModelBankConfigKeys : List String := ["timeoutSeconds"]

/-- The scalars of a config that are runtime inputs. -/
def topLevelRuntimeInputs (config : JsonObject) : JsonObject :=
  config.filter fun field =>
    field.1 ∉ modelBankConfigKeys ++ obsoleteModelBankConfigKeys ++ ["inputs", "runtimeInputs"] &&
      !isContainer field.2

/-- `_business_test_data_from_plan_config`. -/
def businessTestDataFromPlanConfig (config : JsonObject) : JsonObject :=
  let ais : JsonObject :=
    match getField config "ais" with
    | .obj ais => [("ais", .obj (aisBusinessDataFromConfig ais))]
    | _ => []
  let businessTestData := copySections ais config copiedBusinessSections
  if (businessTestData.lookup "runtimeInputs").isSome then businessTestData
  else setSection businessTestData "runtimeInputs" (topLevelRuntimeInputs config)

/-! ## Runtime inputs -/

/-- `_merge_plan_config_runtime_input`. -/
def mergePlanConfigRuntimeInput (runtimeInputs : Dict String Json) (inputId : String)
    (value : Json) (location : String) : Except PyError (Dict String Json) :=
  if strip inputId = "" then
    .error (.catalogueError s!"{location} contains an empty runtime input id")
  else
    match runtimeInputs.get? inputId with
    | some existing =>
      if existing.pyEq value then .ok (runtimeInputs.set inputId value)
      else .error (.catalogueError s!"{location}.{inputId} conflicts with another config value")
    | none => .ok (runtimeInputs.set inputId value)

/-- `_merge_optional_structured_runtime_input`. -/
def mergeOptionalStructuredRuntimeInput (runtimeInputs : Dict String Json) (inputId : String)
    (value : Json) (location : String) : Except PyError (Dict String Json) :=
  if isBlank value then .ok runtimeInputs
  else mergePlanConfigRuntimeInput runtimeInputs inputId value location

/-- The fields of one structured section, each with the id of its runtime input. -/
def mergeFields (runtimeInputs : Dict String Json) (fields : JsonObject) (location : String)
    (inputs : List (String × String)) : Except PyError (Dict String Json) :=
  inputs.foldlM (fun runtimeInputs (inputId, key) =>
    mergeOptionalStructuredRuntimeInput runtimeInputs inputId (getField fields key)
      s!"{location}.{key}") runtimeInputs

/-- `_optional_runtime_config_object`; an absent section has no fields. -/
def optionalRuntimeConfigObject (config : JsonObject) (key : String) : Except PyError JsonObject :=
  match getField config key with
  | .null => .ok []
  | .obj fields => .ok fields
  | _ => .error (.catalogueError s!"planSpec.config.{key} must be a JSON object")

/-- `_optional_nested_runtime_config_object`; an absent section has no fields. -/
def optionalNestedRuntimeConfigObject (fields : JsonObject) (key : String) :
    Except PyError JsonObject :=
  match getField fields key with
  | .null => .ok []
  | .obj nested => .ok nested
  | _ => .error (.catalogueError s!"Structured config field '{key}' must be a JSON object")

/-- The fields of a nested structured section. -/
def mergeNestedFields (runtimeInputs : Dict String Json) (fields : JsonObject)
    (key location : String) (inputs : List (String × String)) :
    Except PyError (Dict String Json) := do
  let nested ← optionalNestedRuntimeConfigObject fields key
  mergeFields runtimeInputs nested s!"{location}.{key}" inputs

/-- `_first_object_string`. -/
def firstObjectString (value : Json) (key : String) : Except PyError Json :=
  match value with
  | .null => .ok .null
  | .arr [] => .ok .null
  | .arr (.obj first :: _) =>
    match getField first key with
    | .null => .ok .null
    | .str text => .ok (.str text)
    | _ => .error (.catalogueError s!"Structured config field '{key}' must be a string")
  | .arr _ =>
    .error (.catalogueError s!"Structured config field '{key}' source must contain JSON objects")
  | _ => .error (.catalogueError s!"Structured config field '{key}' source must be a JSON array")

/-- The `ais` part of `_merge_structured_runtime_inputs`. -/
def mergeAisRuntimeInputs (runtimeInputs : Dict String Json) (ais : JsonObject) :
    Except PyError (Dict String Json) := do
  let resourceIds ← optionalNestedRuntimeConfigObject ais "resourceIds"
  let accountId ← firstObjectString (getField resourceIds "accountIds") "accountId"
  let runtimeInputs ← mergeOptionalStructuredRuntimeInput runtimeInputs "consentedAccountId"
    accountId "planSpec.config.ais.resourceIds.accountIds[0].accountId"
  mergeFields runtimeInputs ais "planSpec.config.ais" [
    ("fromBookingDateTime", "transactionFromDate"),
    ("toBookingDateTime", "transactionToDate")]

/-- The `pis` part of `_merge_structured_runtime_inputs`. -/
def mergePisRuntimeInputs (runtimeInputs : Dict String Json) (pis : JsonObject) :
    Except PyError (Dict String Json) := do
  let location := "planSpec.config.pis"
  let runtimeInputs ← mergeNestedFields runtimeInputs pis "creditorAccount" location [
    ("pisCreditorAccountSchemeName", "schemeName"),
    ("pisCreditorAccountIdentification", "identification"),
    ("pisCreditorAccountName", "name")]
  let runtimeInputs ← mergeNestedFields runtimeInputs pis "internationalCreditorAccount" location [
    ("pisInternationalCreditorAccountSchemeName", "schemeName"),
    ("pisInternationalCreditorAccountIdentification", "identification"),
    ("pisInternationalCreditorAccountName", "name")]
  let runtimeInputs ← mergeNestedFields runtimeInputs pis "instructedAmount" location [
    ("pisInstructedAmountAmount", "amount"),
    ("pisInstructedAmountCurrency", "currency")]
  let runtimeInputs ← mergeNestedFields runtimeInputs pis "standingOrderFrequency" location [
    ("pisStandingOrderFrequencyType", "type"),
    ("pisStandingOrderFrequencyPointInTime", "pointInTime")]
  mergeFields runtimeInputs pis location [
    ("pisStandingOrderFrequencyV31", "standingOrderFrequencyV31"),
    ("pisCurrencyOfTransfer", "currencyOfTransfer"),
    ("pisRequestedExecutionDateTime", "requestedExecutionDateTime"),
    ("pisFirstPaymentDateTime", "firstPaymentDateTime")]

/-- The `vrp` part of `_merge_structured_runtime_inputs`. -/
def mergeVrpRuntimeInputs (runtimeInputs : Dict String Json) (vrp : JsonObject) :
    Except PyError (Dict String Json) := do
  let location := "planSpec.config.vrp"
  let runtimeInputs ← mergeNestedFields runtimeInputs vrp "creditorAccount" location [
    ("vrpCreditorAccountSchemeName", "schemeName"),
    ("vrpCreditorAccountIdentification", "identification"),
    ("vrpCreditorAccountName", "name")]
  let runtimeInputs ← mergeNestedFields runtimeInputs vrp "instructedAmount" location [
    ("vrpInstructedAmountAmount", "amount"),
    ("vrpInstructedAmountCurrency", "currency")]
  mergeFields runtimeInputs vrp location [
    ("vrpValidFromDateTime", "validFromDateTime"),
    ("vrpValidToDateTime", "validToDateTime")]

/-- `_merge_structured_runtime_inputs`. -/
def mergeStructuredRuntimeInputs (runtimeInputs : Dict String Json) (config : JsonObject) :
    Except PyError (Dict String Json) := do
  let resourceServer ← optionalRuntimeConfigObject config "resourceServer"
  let runtimeInputs ← mergeFields runtimeInputs resourceServer "planSpec.config.resourceServer"
    [("resourceBaseUrl", "baseUrl")]
  let oauth ← optionalRuntimeConfigObject config "oauth"
  let runtimeInputs ← mergeFields runtimeInputs oauth "planSpec.config.oauth"
    [("resourceBaseUrl", "resourceBaseUrl")]
  let cbpii ← optionalRuntimeConfigObject config "cbpii"
  let runtimeInputs ← mergeNestedFields runtimeInputs cbpii "debtorAccount"
    "planSpec.config.cbpii" [
      ("debtorAccountSchemeName", "schemeName"),
      ("debtorAccountIdentification", "identification"),
      ("debtorAccountName", "name")]
  let ais ← optionalRuntimeConfigObject config "ais"
  let runtimeInputs ← mergeAisRuntimeInputs runtimeInputs ais
  let pis ← optionalRuntimeConfigObject config "pis"
  let runtimeInputs ← mergePisRuntimeInputs runtimeInputs pis
  let vrp ← optionalRuntimeConfigObject config "vrp"
  mergeVrpRuntimeInputs runtimeInputs vrp

/-- The scalars of a config, the start of the runtime inputs. -/
def scalarRuntimeInputs (config : JsonObject) : Dict String Json :=
  config.foldl (fun runtimeInputs (key, value) =>
    if key ∈ ["inputs", "runtimeInputs"] ∨ isContainer value = true then runtimeInputs
    else runtimeInputs.set key value) .empty

/-- `_runtime_value_from_plan_config_input`. -/
def runtimeValueFromPlanConfigInput : Json → Json
  | .obj fields => (fields.lookup "value").getD (.obj fields)
  | value => value

/-- The entries of `config[key]`, each read by `valueOf`. -/
def mergeInputSection (runtimeInputs : Dict String Json) (config : JsonObject) (key : String)
    (valueOf : Json → Json) : Except PyError (Dict String Json) :=
  match config.lookup key with
  | none => .ok runtimeInputs
  | some (.obj rawInputs) =>
    rawInputs.foldlM (fun runtimeInputs (inputId, rawValue) =>
      mergePlanConfigRuntimeInput runtimeInputs inputId (valueOf rawValue)
        s!"planSpec.config.{key}") runtimeInputs
  | some _ => .error (.catalogueError s!"planSpec.config.{key} must be a JSON object")

/-- `_runtime_inputs_from_plan_config`. -/
def runtimeInputsFromPlanConfig (config : JsonObject) : Except PyError (Dict String Json) := do
  let runtimeInputs ← mergeStructuredRuntimeInputs (scalarRuntimeInputs config) config
  let runtimeInputs ← mergeInputSection runtimeInputs config "runtimeInputs" id
  mergeInputSection runtimeInputs config "inputs" runtimeValueFromPlanConfigInput

end Conformance.PlanConfig
