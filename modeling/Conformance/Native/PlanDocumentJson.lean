import Conformance.Native.PlanConfig
import Conformance.Native.PlanDocument

/-!
# Plan documents as JSON

`parse_test_plan_document` and `plan_document_to_json_object` of
`conformance/catalogue.py`: the v1 plan specification, the legacy v2 document and
the canonical `"1.0"` document are parsed, and a shared document is exported in
the canonical shape.
-/

namespace Conformance.PlanJson

open PlanConfig

/-! ## Reading fields -/

/-- `_json_object`. -/
def jsonObject (value : Json) (location : String) : Except PyError JsonObject :=
  match value with
  | .obj fields => .ok fields
  | _ => .error (.catalogueError s!"{location} must be a JSON object")

/-- `_reject_unknown_keys`. -/
def rejectUnknownKeys (raw : JsonObject) (allowedKeys : List String) (location : String) :
    Except PyError Unit :=
  let unknownKeys := sorted ((raw.map Prod.fst).dedup.filter fun key => key ∉ allowedKeys)
  Except.raiseIf (unknownKeys ≠ [])
    (.catalogueError (s!"Unknown {location} field(s): " ++ ", ".intercalate unknownKeys))

/-- `_required_object`. -/
def requiredObject (raw : JsonObject) (key location : String) : Except PyError JsonObject :=
  match raw.lookup key with
  | none => .error (.catalogueError s!"{location}.{key} is required")
  | some value => jsonObject value s!"{location}.{key}"

/-- `value.strip()` of a string that is not blank. -/
def nonEmptyString (value : Json) (problem : PyError) : Except PyError String :=
  match value with
  | .str text => if strip text = "" then .error problem else .ok (strip text)
  | _ => .error problem

/-- `_required_string`. -/
def requiredString (raw : JsonObject) (key location : String) : Except PyError String :=
  match raw.lookup key with
  | none => .error (.catalogueError s!"{location}.{key} is required")
  | some value =>
    nonEmptyString value (.catalogueError s!"{location}.{key} must be a non-empty string")

/-- `_optional_string`. -/
def optionalString (raw : JsonObject) (key location : String) : Except PyError (Option String) :=
  match raw.lookup key with
  | none => .ok none
  | some value => do
    let text ← nonEmptyString value
      (.catalogueError s!"{location}.{key} must be a non-empty string when present")
    return some text

/-- `_optional_object_array`. -/
def optionalObjectArray (raw : JsonObject) (key location : String) :
    Except PyError (List JsonObject) :=
  match raw.lookup key with
  | none => .ok []
  | some (.arr items) => items.zipIdx.mapM fun entry =>
    let index := entry.2
    jsonObject entry.1 s!"{location}.{key}[{index}]"
  | some _ => .error (.catalogueError s!"{location}.{key} must be an array")

/-- `_required_object_array`. -/
def requiredObjectArray (raw : JsonObject) (key location : String) :
    Except PyError (List JsonObject) :=
  match raw.lookup key with
  | none => .error (.catalogueError s!"{location}.{key} is required")
  | some _ => optionalObjectArray raw key location

/-- `_parse_optional_string_array`. -/
def parseOptionalStringArray (raw : JsonObject) (key location : String) :
    Except PyError (List String) :=
  match raw.lookup key with
  | none => .ok []
  | some (.arr items) => items.zipIdx.mapM fun entry =>
    let index := entry.2
    nonEmptyString entry.1
      (.catalogueError s!"{location}.{key}[{index}] must be a non-empty string")
  | some _ => .error (.catalogueError s!"{location}.{key} must be an array")

/-- `_required_boolean`. -/
def requiredBoolean (raw : JsonObject) (key location : String) : Except PyError Bool :=
  match getField raw key with
  | .bool value => .ok value
  | _ => .error (.catalogueError s!"{location}.{key} must be a boolean")

/-! ## Endpoints -/

/-- `str.upper` of one character. What is left out never yields only letters of a method
    name. -/
def upperChar (c : Char) : List Char :=
  if 'a' ≤ c ∧ c ≤ 'z' then [Char.ofNat (c.toNat - 32)]
  else if c = 'ſ' then ['S']
  else if c = 'ﬅ' ∨ c = 'ﬆ' then ['S', 'T']
  else [c]

/-- `str.upper`, as far as `_parse_http_method` can tell. -/
def upper (text : String) : String := String.ofList (text.toList.flatMap upperChar)

/-- `_SUPPORTED_HTTP_METHODS`, sorted. -/
def supportedHttpMethods : List HttpMethod := [.delete, .get, .patch, .post, .put]

/-- `_parse_http_method`. -/
def parseHttpMethod (value location : String) : Except PyError HttpMethod :=
  match supportedHttpMethods.find? fun method => method.text = upper value with
  | some method => .ok method
  | none =>
    let supported := ", ".intercalate (supportedHttpMethods.map HttpMethod.text)
    .error (.catalogueError s!"{location} must be one of: {supported}")

/-- The segments of `value.split("/")` that are not empty. -/
def pathSegments (value : String) : List (List Char) :=
  (value.toList.splitOn '/').filter fun segment => segment ≠ []

/-- `"/" + "/".join(...)` of segments. -/
def joinSegments (segments : List (List Char)) : List Char :=
  '/' :: List.intercalate ['/'] segments

/-- `_parse_absolute_path`. -/
def parseAbsolutePath (value location : String) : Except PyError String :=
  if value.toList.head? ≠ some '/' then
    .error (.catalogueError s!"{location} must be an absolute path")
  else
    let normalized := joinSegments (pathSegments value)
    if normalized = ['/'] then .ok "/"
    else .ok (String.ofList (normalized.rdropWhile (· = '/')))

/-- One round of `_parse_endpoint_capability_ids`. -/
def addCapabilityId (location : String) (seen : List String) (entry : String × Nat) :
    Except PyError (List String) :=
  let (capabilityId, index) := entry
  if capabilityId ∈ seen then
    .error (.catalogueError
      s!"{location}.capabilities[{index}] duplicates capability '{capabilityId}'")
  else .ok (seen ++ [capabilityId])

/-- `_parse_endpoint_capability_ids`. -/
def parseEndpointCapabilityIds (raw : JsonObject) (location : String) :
    Except PyError (List String) := do
  let capabilityIds ← parseOptionalStringArray raw "capabilities" location
  capabilityIds.zipIdx.foldlM (addCapabilityId location) []

/-- The method and the path of a raw endpoint. -/
def parseEndpointRef (raw : JsonObject) (location : String) : Except PyError EndpointRef := do
  let method ← requiredString raw "method" location
  let method ← parseHttpMethod method s!"{location}.method"
  let path ← requiredString raw "path" location
  let path ← parseAbsolutePath path s!"{location}.path"
  return ⟨method, path⟩

/-- `_parse_plan_document_v2_endpoint`. -/
def parsePlanDocumentV2Endpoint (raw : JsonObject) (location : String)
    (seenRefs : List EndpointRef) : Except PyError PlanDocumentEndpoint := do
  rejectUnknownKeys raw ["method", "path", "operationId", "capabilities"] location
  let ref ← parseEndpointRef raw location
  let method := ref.method.text
  let path := ref.path
  Except.raiseIf (ref ∈ seenRefs) (.catalogueError
    s!"{location} duplicates implemented endpoint {method} {path}")
  let operationId ← optionalString raw "operationId" location
  let capabilityIds ← parseEndpointCapabilityIds raw location
  return { method := ref.method, path := ref.path, operationId := operationId,
           capabilityIds := capabilityIds }

/-- The operation a selected endpoint names. -/
def endpointRef (endpoint : PlanDocumentEndpoint) : EndpointRef := ⟨endpoint.method, endpoint.path⟩

/-- The endpoints of a group, with the refs seen so far. -/
def parsePlanDocumentV2Endpoints (rawEndpoints : List JsonObject) (location : String) :
    Except PyError (List PlanDocumentEndpoint) :=
  rawEndpoints.zipIdx.foldlM (fun endpoints entry => do
    let index := entry.2
    let endpoint ← parsePlanDocumentV2Endpoint entry.1 s!"{location}.endpoints[{index}]"
      (endpoints.map endpointRef)
    return endpoints ++ [endpoint]) []

/-! ## Specification plans -/

/-- `_SUPPORTED_SECURITY_PROFILES`, sorted. -/
def supportedSecurityProfiles : List SecurityProfile := [.all, .fapi1Advanced, .fapi2]

/-- `_parse_security_profile`. -/
def parseSecurityProfile (value location : String) : Except PyError SecurityProfile :=
  match supportedSecurityProfiles.find? fun profile => profile.text = value with
  | some profile => .ok profile
  | none =>
    let supported := ", ".intercalate (supportedSecurityProfiles.map SecurityProfile.text)
    .error (.catalogueError s!"{location} must be one of: {supported}")

/-- `_parse_catalogue_key`. -/
def parseCatalogueKey (raw : JsonObject) : Except PyError CatalogueKey := do
  rejectUnknownKeys raw ["standard", "version", "api"] "planSpec.catalogue"
  let standard ← requiredString raw "standard" "planSpec.catalogue"
  let version ← requiredString raw "version" "planSpec.catalogue"
  let api ← requiredString raw "api" "planSpec.catalogue"
  return ⟨standard, version, api⟩

/-- One round of `_parse_implemented_endpoints`. -/
def parseImplementedEndpoint (endpoints : List ImplementedEndpoint) (entry : JsonObject × Nat) :
    Except PyError (List ImplementedEndpoint) := do
  let raw := entry.1
  let index := entry.2
  let location := s!"planSpec.implementedEndpoints[{index}]"
  rejectUnknownKeys raw ["method", "path", "resourceGroup", "operationId", "capabilities"] location
  let ref ← parseEndpointRef raw location
  let resourceGroup ← requiredString raw "resourceGroup" location
  let operationId ← optionalString raw "operationId" location
  let capabilityIds ← parseEndpointCapabilityIds raw location
  let method := ref.method.text
  let path := ref.path
  Except.raiseIf (ref ∈ endpoints.map (·.ref)) (.catalogueError
    s!"{location} duplicates implemented endpoint {method} {path}")
  return endpoints ++ [{ method := ref.method, path := ref.path, resourceGroup := resourceGroup,
                         operationId := operationId, capabilityIds := capabilityIds }]

/-- `_parse_runtime_inputs`. -/
def parseRuntimeInputs (raw : JsonObject) : Except PyError (Dict String Json) :=
  match raw.lookup "runtimeInputs" with
  | none => .ok .empty
  | some value => do
    let rawInputs ← jsonObject value "planSpec.runtimeInputs"
    return rawInputs.foldl (fun inputs (key, value) => inputs.set key value) .empty

/-- One round of `_parse_assertion_overrides`. -/
def parseAssertionOverride (overrides : List AssertionOverride) (entry : JsonObject × Nat) :
    Except PyError (List AssertionOverride) := do
  let raw := entry.1
  let index := entry.2
  let location := s!"planSpec.assertionOverrides[{index}]"
  rejectUnknownKeys raw ["testCaseId", "assertionId", "reason"] location
  let testCaseId ← requiredString raw "testCaseId" location
  let assertionId ← requiredString raw "assertionId" location
  let reason ← requiredString raw "reason" location
  Except.raiseIf
    ((testCaseId, assertionId) ∈ overrides.map fun seen => (seen.testCaseId, seen.assertionId))
    (.catalogueError s!"{location} duplicates override for {testCaseId}.{assertionId}")
  return overrides ++ [⟨testCaseId, assertionId, reason⟩]

/-- `parse_test_plan_spec`. -/
def parseTestPlanSpec (spec : JsonObject) : Except PyError TestPlanSpec := do
  rejectUnknownKeys spec ["schemaVersion", "catalogue", "securityProfile", "implementedEndpoints",
    "runtimeInputs", "deselectedTestCaseIds", "assertionOverrides"] "planSpec"
  let schemaVersion ← requiredString spec "schemaVersion" "planSpec"
  Except.raiseIf (schemaVersion ≠ "v1") (.catalogueError "planSpec.schemaVersion must be v1")
  let rawKey ← requiredObject spec "catalogue" "planSpec"
  let catalogueKey ← parseCatalogueKey rawKey
  let rawProfile ← requiredString spec "securityProfile" "planSpec"
  let securityProfile ← parseSecurityProfile rawProfile "planSpec.securityProfile"
  let rawEndpoints ← optionalObjectArray spec "implementedEndpoints" "planSpec"
  let implementedEndpoints ← rawEndpoints.zipIdx.foldlM parseImplementedEndpoint []
  let runtimeInputs ← parseRuntimeInputs spec
  let deselectedTestCaseIds ← parseOptionalStringArray spec "deselectedTestCaseIds" "planSpec"
  let rawOverrides ← optionalObjectArray spec "assertionOverrides" "planSpec"
  let assertionOverrides ← rawOverrides.zipIdx.foldlM parseAssertionOverride []
  return { catalogueKey := catalogueKey, securityProfile := securityProfile,
           implementedEndpoints := implementedEndpoints, runtimeInputs := runtimeInputs,
           deselectedTestCaseIds := deselectedTestCaseIds, assertionOverrides := assertionOverrides }

/-! ## Legacy documents -/

/-- `_parse_plan_document_v2_resource_group`. -/
def parsePlanDocumentV2ResourceGroup (raw : JsonObject) (location : String) :
    Except PyError PlanResourceGroup := do
  rejectUnknownKeys raw ["id", "label", "endpoints"] location
  let rawEndpoints ← requiredObjectArray raw "endpoints" location
  let endpoints ← parsePlanDocumentV2Endpoints rawEndpoints location
  let resourceGroupId ← requiredString raw "id" location
  let label ← optionalString raw "label" location
  return { resourceGroupId := resourceGroupId, endpoints := endpoints, label := label }

/-- One round of `_parse_plan_document_v2_resource_groups`. -/
def addPlanDocumentV2ResourceGroup (groups : List PlanResourceGroup) (entry : JsonObject × Nat) :
    Except PyError (List PlanResourceGroup) := do
  let index := entry.2
  let location := s!"planSpec.scope.resourceGroups[{index}]"
  let group ← parsePlanDocumentV2ResourceGroup entry.1 location
  let groupId := group.resourceGroupId
  Except.raiseIf (groupId ∈ groups.map PlanResourceGroup.resourceGroupId)
    (.catalogueError s!"{location}.id duplicates resource group '{groupId}'")
  return groups ++ [group]

/-- `_parse_plan_document_v2_resource_groups`. -/
def parsePlanDocumentV2ResourceGroups (rawScope : JsonObject) :
    Except PyError (List PlanResourceGroup) := do
  rejectUnknownKeys rawScope ["resourceGroups"] "planSpec.scope"
  let rawGroups ← requiredObjectArray rawScope "resourceGroups" "planSpec.scope"
  rawGroups.zipIdx.foldlM addPlanDocumentV2ResourceGroup []

/-- `_parse_plan_document_v2`. -/
def parsePlanDocumentV2 (spec : JsonObject) : Except PyError PlanDocumentV2 := do
  rejectUnknownKeys spec ["schemaVersion", "scheme", "specification", "version", "securityProfile",
    "scope", "config"] "planSpec"
  let rawConfig ← requiredObject spec "config" "planSpec"
  let config := obsoleteModelBankConfigKeys.foldl eraseField (eraseField rawConfig "environment")
  let scheme ← requiredString spec "scheme" "planSpec"
  let specification ← requiredString spec "specification" "planSpec"
  let version ← requiredString spec "version" "planSpec"
  let rawProfile ← requiredString spec "securityProfile" "planSpec"
  let securityProfile ← parseSecurityProfile rawProfile "planSpec.securityProfile"
  let rawScope ← requiredObject spec "scope" "planSpec"
  let resourceGroups ← parsePlanDocumentV2ResourceGroups rawScope
  let runtimeInputs ← runtimeInputsFromPlanConfig config
  return { scheme := scheme, specification := specification, version := version,
           securityProfile := securityProfile, resourceGroups := resourceGroups,
           runtimeInputs := runtimeInputs, config := config,
           securityEnvironment := optionalSecurityEnvironmentFromPlanConfig config,
           businessTestData := businessTestDataFromPlanConfig config }

/-! ## Canonical documents -/

/-- `_CANONICAL_RESOURCE_GROUPS_BY_API`: API family, canonical id, builder id and label. -/
def canonicalResourceGroups : List (String × String × String × String) :=
  [("ais", "AIS", "account-and-transaction", "Account and Transaction"),
    ("pis", "PIS", "payment-initiation", "Payment Initiation"),
    ("cbpii", "CBPII", "confirmation-of-funds", "Confirmation of Funds"),
    ("vrp", "VRP", "variable-recurring-payments", "Variable Recurring Payments")]

/-- `_canonical_group_for_id`. -/
def canonicalGroupForId (groupId location : String) (selectAll : Bool) :
    Except PyError PlanResourceGroup :=
  match (apiForPlanResourceGroupId groupId).bind fun api => canonicalResourceGroups.lookup api with
  | some (_, builderId, label) =>
    .ok { resourceGroupId := builderId, label := some label, endpoints := [], selectAll := selectAll }
  | none =>
    let supported := ", ".intercalate (sorted (canonicalResourceGroups.map (·.2.1)))
    .error (.catalogueError s!"{location} must be one of: {supported}")

/-- `_parse_canonical_resource_group_string`. -/
def parseCanonicalResourceGroupString (raw : Json) (location : String) :
    Except PyError PlanResourceGroup := do
  let groupId ← nonEmptyString raw
    (.catalogueError s!"{location} must be a non-empty string or JSON object")
  canonicalGroupForId groupId location true

/-- `_parse_canonical_resource_group_object`. -/
def parseCanonicalResourceGroupObject (raw : JsonObject) (location : String) :
    Except PyError PlanResourceGroup := do
  rejectUnknownKeys raw ["id", "label", "endpoints"] location
  let groupId ← requiredString raw "id" location
  let group ← canonicalGroupForId groupId location false
  let rawEndpoints ← optionalObjectArray raw "endpoints" location
  let endpoints ← parsePlanDocumentV2Endpoints rawEndpoints location
  let label ← optionalString raw "label" location
  return { group with
    label := label <|> group.label, endpoints := endpoints, selectAll := endpoints.isEmpty }

/-- A resource group in either of its forms. -/
def parseCanonicalResourceGroup (raw : Json) (location : String) :
    Except PyError PlanResourceGroup :=
  match raw with
  | .obj fields => parseCanonicalResourceGroupObject fields location
  | _ => parseCanonicalResourceGroupString raw location

/-- One round of `_parse_canonical_resource_groups`. -/
def addCanonicalResourceGroup (groups : List PlanResourceGroup) (entry : Json × Nat) :
    Except PyError (List PlanResourceGroup) := do
  let index := entry.2
  let location := s!"testPlan.resourceGroups[{index}]"
  let group ← parseCanonicalResourceGroup entry.1 location
  let groupId := group.resourceGroupId
  Except.raiseIf (groupId ∈ groups.map PlanResourceGroup.resourceGroupId)
    (.catalogueError s!"{location} duplicates resource group '{groupId}'")
  return groups ++ [group]

/-- `_parse_canonical_resource_groups`. -/
def parseCanonicalResourceGroups (rawPlan : JsonObject) :
    Except PyError (List PlanResourceGroup) :=
  match getField rawPlan "resourceGroups" with
  | .arr [] =>
    .error (.catalogueError "testPlan.resourceGroups must contain at least one item")
  | .arr rawGroups => rawGroups.zipIdx.foldlM addCanonicalResourceGroup []
  | _ => .error (.catalogueError "testPlan.resourceGroups must be an array")

/-- `endpoint_policy`: the `required` and `locked` flags of the DCR endpoints. -/
def endpointPolicy : List (EndpointRef × Bool × Bool) :=
  [(⟨.post, "/register"⟩, true, true),
    (⟨.get, "/register/\x7bClientId\x7d"⟩, false, false),
    (⟨.put, "/register/\x7bClientId\x7d"⟩, false, false),
    (⟨.delete, "/register/\x7bClientId\x7d"⟩, false, false)]

/-- `str(flag).lower()`. -/
def flagText (flag : Bool) : String := if flag then "true" else "false"

/-- `_parse_canonical_direct_endpoint`. -/
def parseCanonicalDirectEndpoint (raw : JsonObject) (location : String)
    (seenRefs : List EndpointRef) : Except PyError PlanDocumentEndpoint := do
  rejectUnknownKeys raw ["method", "path", "operationId", "required", "locked"] location
  let ref ← parseEndpointRef raw location
  let method := ref.method.text
  let path := ref.path
  match endpointPolicy.lookup ref with
  | none => .error (.catalogueError
      s!"{location} is not a selectable Open Banking DCR 3.4 endpoint: {method} {path}")
  | some expectedFlags =>
    Except.raiseIf (ref ∈ seenRefs)
      (.catalogueError s!"{location} duplicates direct endpoint {method} {path}")
    let required ← requiredBoolean raw "required" location
    let locked ← requiredBoolean raw "locked" location
    let expectedRequired := flagText expectedFlags.1
    let expectedLocked := flagText expectedFlags.2
    Except.raiseIf ((required, locked) ≠ expectedFlags) (.catalogueError
      s!"{location} must set required={expectedRequired} and locked={expectedLocked}")
    let operationId ← optionalString raw "operationId" location
    return { method := ref.method, path := ref.path, operationId := operationId,
             required := some required, locked := some locked }

/-- One round of `_parse_canonical_direct_endpoints`. -/
def addCanonicalDirectEndpoint (endpoints : List PlanDocumentEndpoint)
    (entry : JsonObject × Nat) : Except PyError (List PlanDocumentEndpoint) := do
  let index := entry.2
  let endpoint ← parseCanonicalDirectEndpoint entry.1 s!"testPlan.endpoints[{index}]"
    (endpoints.map endpointRef)
  return endpoints ++ [endpoint]

/-- `_parse_canonical_direct_endpoints`. -/
def parseCanonicalDirectEndpoints (rawPlan : JsonObject) :
    Except PyError (List PlanDocumentEndpoint) := do
  let rawEndpoints ← requiredObjectArray rawPlan "endpoints" "testPlan"
  let endpoints ← rawEndpoints.zipIdx.foldlM addCanonicalDirectEndpoint []
  Except.raiseIf (⟨.post, "/register"⟩ ∉ endpoints.map endpointRef) (.catalogueError
    "testPlan.endpoints must include required locked endpoint POST /register")
  return endpoints

/-- `_canonical_security_profile`. -/
def canonicalSecurityProfile : SecurityProfile → String
  | .fapi1Advanced => "FAPI1_ADVANCED"
  | .fapi2 => "FAPI2"
  | .all => "ALL"

/-- `profile_map` of `_parse_canonical_security_profile`. -/
def profileMap : List (String × SecurityProfile) :=
  [("FAPI1_ADVANCED", .fapi1Advanced), ("FAPI2", .fapi2), ("ALL", .all),
    ("fapi1-advanced", .fapi1Advanced), ("fapi2", .fapi2), ("all", .all)]

/-- `_parse_canonical_security_profile`. -/
def parseCanonicalSecurityProfile (value : Json) (location : String) :
    Except PyError SecurityProfile :=
  match value with
  | .null => .ok .fapi1Advanced
  | value => do
    let normalized ← nonEmptyString value
      (.catalogueError s!"{location} must be a non-empty string when present")
    match profileMap.lookup normalized with
    | some profile => .ok profile
    | none =>
      let supported := ", ".intercalate (sorted (profileMap.map Prod.fst))
      .error (.catalogueError s!"{location} must be one of: {supported}")

/-- `specification_for_family`, with its `ValueError` already turned into the
    `CatalogueError` of `_parse_canonical_specification`. -/
def specificationForFamily (family : String) : Except PyError SpecificationDefinition :=
  match supportedSpecifications.find? fun definition => definition.family = family with
  | some definition => .ok definition
  | none =>
    let supported := ", ".intercalate (supportedSpecifications.map SpecificationDefinition.family)
    .error (.catalogueError s!"testPlan.specification.family must be one of: {supported}")

/-- `derived_security_profile_for_boundary`, likewise. -/
def derivedSecurityProfile (binding : SpecificationVersionDefinition) :
    Except PyError SecurityProfile :=
  match binding.securityProfiles with
  | [profile] => .ok profile
  | profiles =>
    let count := profiles.length
    .error (.catalogueError ("testPlan.specification boundary must declare exactly one " ++
      s!"security profile for automatic derivation; found {count}"))

/-- The security profile a read-write specification section declares. -/
def declaredSecurityProfile (raw : JsonObject) (binding : SpecificationVersionDefinition) :
    Except PyError SecurityProfile :=
  let location := "testPlan.specification"
  match getField raw "profile", getField raw "securityProfile" with
  | .null, .null => derivedSecurityProfile binding
  | .null, legacy => parseCanonicalSecurityProfile legacy s!"{location}.securityProfile"
  | profile, .null => parseCanonicalSecurityProfile profile s!"{location}.profile"
  | profile, legacy => do
    let securityProfile ← parseCanonicalSecurityProfile profile s!"{location}.profile"
    let legacyProfile ← parseCanonicalSecurityProfile legacy s!"{location}.securityProfile"
    Except.raiseIf (legacyProfile ≠ securityProfile) (.catalogueError
      ("testPlan.specification.profile and testPlan.specification.securityProfile must match " ++
        "when both are supplied"))
    return securityProfile

/-- The security profile of a specification section: derived for a direct family, declared
    for one with resource groups. -/
def specificationSecurityProfile (raw : JsonObject) (definition : SpecificationDefinition)
    (binding : SpecificationVersionDefinition) : Except PyError SecurityProfile :=
  if definition.usesResourceGroups then do
    let securityProfile ← declaredSecurityProfile raw binding
    let supported := ", ".intercalate (binding.securityProfiles.map canonicalSecurityProfile)
    let family := definition.family
    let version := binding.version
    Except.raiseIf (securityProfile ∉ binding.securityProfiles) (.catalogueError
      s!"testPlan.specification.profile must be one of: {supported} for {family} {version}")
    return securityProfile
  else do
    let scheme ← requiredString raw "scheme" "testPlan.specification"
    let name ← requiredString raw "name" "testPlan.specification"
    let expectedScheme := definition.scheme
    let expectedName := definition.specification
    Except.raiseIf (scheme ≠ definition.scheme)
      (.catalogueError s!"testPlan.specification.scheme must be {expectedScheme}")
    Except.raiseIf (name ≠ definition.specification)
      (.catalogueError s!"testPlan.specification.name must be {expectedName}")
    derivedSecurityProfile binding

/-- The keys of a specification section. -/
def specificationKeys (definition : SpecificationDefinition) : List String :=
  if definition.usesResourceGroups then ["family", "version", "profile", "securityProfile"]
  else ["family", "scheme", "name", "version"]

/-- `_parse_canonical_specification`: the family, the version and the security profile. -/
def parseCanonicalSpecification (raw : JsonObject) :
    Except PyError (SpecificationDefinition × String × SecurityProfile) := do
  let family ← requiredString raw "family" "testPlan.specification"
  let definition ← specificationForFamily family
  rejectUnknownKeys raw (specificationKeys definition) "testPlan.specification"
  let version ← requiredString raw "version" "testPlan.specification"
  let binding ← specificationBindingForPlanBoundary definition.scheme definition.specification
    version
  let securityProfile ← specificationSecurityProfile raw definition binding
  return (definition, version, securityProfile)

/-- `_validate_canonical_scope_shape`. -/
def validateCanonicalScopeShape (rawPlan : JsonObject) (definition : SpecificationDefinition) :
    Except PyError Unit :=
  let present := fun key => (rawPlan.lookup key).isSome = true
  if definition.usesResourceGroups then do
    Except.raiseIf (present "endpoints")
      (.catalogueError "testPlan.endpoints is forbidden for OBL_READ_WRITE")
    Except.raiseIf (present "dynamicClientRegistration")
      (.catalogueError "testPlan.dynamicClientRegistration is forbidden for OBL_READ_WRITE")
    Except.raiseIf (¬ present "resourceGroups")
      (.catalogueError "testPlan.resourceGroups is required for OBL_READ_WRITE")
  else do
    Except.raiseIf (present "resourceGroups")
      (.catalogueError "testPlan.resourceGroups is forbidden for OBL_DCR")
    Except.raiseIf (present "businessTestData")
      (.catalogueError "testPlan.businessTestData is forbidden for OBL_DCR")
    Except.raiseIf (¬ present "endpoints")
      (.catalogueError "testPlan.endpoints is required for OBL_DCR")

/-- The literal an execution mode is written as. -/
def modeText : PlanExecutionMode → String
  | .certification => "certification"
  | .development => "development"

/-- `_parse_execution_mode`. -/
def parseExecutionMode (rawPlan : JsonObject) : Except PyError PlanExecutionMode :=
  match getField rawPlan "executionMode" with
  | .null => .ok .certification
  | .str "certification" => .ok .certification
  | .str "development" => .ok .development
  | _ => .error (.catalogueError
      "testPlan.executionMode must be one of: certification, development")

/-- One path of `_parse_canonical_mtls`. -/
def checkMtlsPath (rawMtls : JsonObject) (key : String) : Except PyError Unit :=
  match getField rawMtls key with
  | .null => .ok ()
  | value => do
    let _ ← nonEmptyString value (.catalogueError
      s!"testPlan.securityEnvironment.mtls.{key} must be a non-empty string when present")
    return ()

/-- The `enabled` flag of `_parse_canonical_mtls`. -/
def checkMtlsEnabled (rawMtls : JsonObject) : Except PyError Unit :=
  match getField rawMtls "enabled" with
  | .null => .ok ()
  | .bool _ => .ok ()
  | _ => .error (.catalogueError
      "testPlan.securityEnvironment.mtls.enabled must be a JSON boolean")

/-- `_parse_canonical_mtls`. -/
def parseCanonicalMtls (rawMtls : JsonObject) : Except PyError Unit := do
  rejectUnknownKeys rawMtls ["enabled", "certificatePath", "privateKeyPath", "caBundlePath"]
    "testPlan.securityEnvironment.mtls"
  checkMtlsEnabled rawMtls
  ["certificatePath", "privateKeyPath", "caBundlePath"].forM (checkMtlsPath rawMtls)

/-- The `mtls` check of `_parse_canonical_security_environment`. -/
def checkMtls (environment : JsonObject) : Except PyError Unit :=
  match environment.lookup "mtls" with
  | none => .ok ()
  | some value => do
    let rawMtls ← jsonObject value "testPlan.securityEnvironment.mtls"
    parseCanonicalMtls rawMtls

/-- The accepted values of `clientAuthMethod`. -/
def clientAuthMethods : List String :=
  ["private_key_jwt", "tls_client_auth", "client_secret_jwt", "client_secret_basic"]

/-- `_parse_canonical_client_auth_method`, for a document that has one. -/
def checkClientAuthMethod (environment : JsonObject) : Except PyError Unit :=
  let location := "testPlan.securityEnvironment.clientAuthMethod"
  match environment.lookup "clientAuthMethod" with
  | none => .ok ()
  | some (.str value) => do
    Except.raiseIf (strip value = "")
      (.catalogueError s!"{location} must be a non-empty string when present")
    Except.raiseIf (value ∉ clientAuthMethods) (.catalogueError
      (s!"{location} must be one of: client_secret_basic, " ++
        "client_secret_jwt, private_key_jwt, tls_client_auth"))
  | some _ =>
    .error (.catalogueError s!"{location} must be a non-empty string when present")

/-- The keys of a security environment. -/
def securityEnvironmentKeys : List String :=
  ["name", "discoveryUrl", "issuer", "authorizationEndpoint", "tokenEndpoint", "clientAuthMethod",
    "clientAuthSigningAlgorithm", "signingAlgorithm", "mtls", "clientId", "redirectUri",
    "resourceBaseUrl", "responseType", "signingCertificatePath", "signingPrivateKeyPath",
    "signingKeyId", "clientAssertionIssuer", "clientAssertionSubject"]

section Documents

variable (validateHttpsUrl : String → String → Except PyError Unit)

/-- The security environment with its discovery URL checked and stripped. -/
def parseDiscoveryUrl (environment : JsonObject) : Except PyError JsonObject :=
  let location := "testPlan.securityEnvironment.discoveryUrl"
  match getField environment "discoveryUrl" with
  | .null => .ok environment
  | value => do
    let discoveryUrl ← nonEmptyString value
      (.catalogueError s!"{location} must be a non-empty string")
    match validateHttpsUrl discoveryUrl location with
    | .error (.httpsUrlValidationError message) => .error (.catalogueError message)
    | .error error => .error error
    | .ok () => .ok (setField environment "discoveryUrl" (.str discoveryUrl))

/-- `_parse_canonical_security_environment`. -/
def parseCanonicalSecurityEnvironment (raw : JsonObject) : Except PyError JsonObject := do
  rejectUnknownKeys raw securityEnvironmentKeys "testPlan.securityEnvironment"
  let parsed ← parseDiscoveryUrl validateHttpsUrl raw
  checkMtls parsed
  checkClientAuthMethod parsed
  return parsed

/-- The optional `dynamicClientRegistration` section. -/
def parseDynamicClientRegistration (spec : JsonObject) : Except PyError JsonObject :=
  match spec.lookup "dynamicClientRegistration" with
  | none => .ok []
  | some value => jsonObject value "testPlan.dynamicClientRegistration"

/-- The keys of a canonical document. -/
def canonicalPlanKeys : List String :=
  ["schemaVersion", "specification", "securityEnvironment", "resourceGroups", "endpoints",
    "businessTestData", "dynamicClientRegistration", "metadata", "executionMode"]

/-- `_parse_canonical_plan_document`. -/
def parseCanonicalPlanDocument (spec : JsonObject) : Except PyError PlanDocumentV2 := do
  rejectUnknownKeys spec canonicalPlanKeys "testPlan"
  let rawSpecification ← requiredObject spec "specification" "testPlan"
  let (definition, version, securityProfile) ← parseCanonicalSpecification rawSpecification
  validateCanonicalScopeShape spec definition
  let executionMode ← parseExecutionMode spec
  let rawEnvironment ← requiredObject spec "securityEnvironment" "testPlan"
  let securityEnvironment ← parseCanonicalSecurityEnvironment validateHttpsUrl rawEnvironment
  let businessTestData ←
    if definition.usesResourceGroups then requiredObject spec "businessTestData" "testPlan"
    else .ok []
  let metadata ← requiredObject spec "metadata" "testPlan"
  let config ← canonicalPlanConfig securityEnvironment businessTestData
  let resourceGroups ←
    if definition.usesResourceGroups then parseCanonicalResourceGroups spec else .ok []
  let runtimeInputs ← runtimeInputsFromPlanConfig config
  let endpoints ←
    if definition.usesResourceGroups then .ok [] else parseCanonicalDirectEndpoints spec
  let dynamicClientRegistration ← parseDynamicClientRegistration spec
  return { scheme := definition.scheme, specification := definition.specification,
           version := version, securityProfile := securityProfile,
           resourceGroups := resourceGroups, runtimeInputs := runtimeInputs,
           endpoints := endpoints, config := config, securityEnvironment := securityEnvironment,
           businessTestData := businessTestData, metadata := metadata,
           executionMode := executionMode,
           dynamicClientRegistration := dynamicClientRegistration }

/-- `parse_test_plan_document`. -/
def parseTestPlanDocument (rawSpec : Json) : Except PyError ParsedPlanDocument := do
  let spec ← jsonObject rawSpec "planDocument"
  let schemaVersion ← requiredString spec "schemaVersion" "planDocument"
  if schemaVersion = "v1" then do
    let parsed ← parseTestPlanSpec spec
    return .spec parsed
  else if schemaVersion = "1.0" then do
    let parsed ← parseCanonicalPlanDocument validateHttpsUrl spec
    return .shared parsed
  else if schemaVersion = "v2" then do
    let parsed ← parsePlanDocumentV2 spec
    return .shared parsed
  else .error (.catalogueError "planDocument.schemaVersion must be one of: 1.0, v1, v2")

end Documents

/-! ## Export -/

/-- `_canonical_family_for_plan_document`. -/
def canonicalFamilyForPlanDocument (document : PlanDocumentV2) : String :=
  if document.scheme = "open-banking-uk" ∧ document.specification = "read-write" then
    "OBL_READ_WRITE"
  else if document.scheme = "open-banking-uk" ∧
      document.specification = "dynamic-client-registration" then "OBL_DCR"
  else document.scheme ++ ":" ++ document.specification

/-- `_canonical_resource_group_id`. -/
def canonicalResourceGroupId (resourceGroupId : String) : String :=
  match apiForPlanResourceGroupId resourceGroupId with
  | none => resourceGroupId
  | some api => ((canonicalResourceGroups.lookup api).map Prod.fst).getD resourceGroupId

/-- The optional `operationId` field of an exported endpoint. -/
def operationIdField (endpoint : PlanDocumentEndpoint) : JsonObject :=
  (endpoint.operationId.map fun operationId => ("operationId", Json.str operationId)).toList

/-- One endpoint of `_canonical_resource_group_for_export`. -/
def groupEndpointForExport (endpoint : PlanDocumentEndpoint) : JsonObject :=
  [("method", .str endpoint.method.text), ("path", .str endpoint.path)] ++
    operationIdField endpoint ++
    (if endpoint.capabilityIds = [] then []
      else [("capabilities", .arr (endpoint.capabilityIds.map Json.str))])

/-- `_canonical_resource_group_for_export`. -/
def canonicalResourceGroupForExport (resourceGroup : PlanResourceGroup) : Json :=
  let groupId := canonicalResourceGroupId resourceGroup.resourceGroupId
  if resourceGroup.selectAll then .str groupId
  else .obj ([("id", .str groupId)] ++
    (resourceGroup.label.map fun label => ("label", Json.str label)).toList ++
    [("endpoints", .arr (resourceGroup.endpoints.map fun endpoint =>
      .obj (groupEndpointForExport endpoint)))])

/-- `_canonical_direct_endpoint_for_export`. -/
def canonicalDirectEndpointForExport (endpoint : PlanDocumentEndpoint) : JsonObject :=
  [("method", .str endpoint.method.text), ("path", .str endpoint.path),
    ("required", .bool (endpoint.required == some true)),
    ("locked", .bool (endpoint.locked == some true))] ++
    operationIdField endpoint

/-- `_security_environment_for_export`. -/
def securityEnvironmentForExport (document : PlanDocumentV2) : JsonObject :=
  if securityEnvironmentHasDiscoveryUrl document.securityEnvironment then
    document.securityEnvironment
  else securityEnvironmentFromPlanConfig document.config

/-- `_exportable_business_test_data`. -/
def exportableBusinessTestData (businessTestData : JsonObject) : JsonObject :=
  eraseField businessTestData "inputs"

/-- `_business_test_data_for_export`. -/
def businessTestDataForExport (document : PlanDocumentV2) : JsonObject :=
  if document.businessTestData = [] then
    exportableBusinessTestData (businessTestDataFromPlanConfig document.config)
  else exportableBusinessTestData document.businessTestData

/-- `specification` of an exported document. -/
def specificationForExport (document : PlanDocumentV2) : JsonObject :=
  [("family", .str (canonicalFamilyForPlanDocument document)), ("version", .str document.version)] ++
    (if document.specification = "read-write" then
      [("profile", .str (canonicalSecurityProfile document.securityProfile))]
    else [("scheme", .str document.scheme), ("name", .str document.specification)])

/-- The sections of an exported document that depend on its specification. -/
def scopeForExport (document : PlanDocumentV2) : JsonObject :=
  if document.specification = "read-write" then
    [("resourceGroups", .arr (document.resourceGroups.map canonicalResourceGroupForExport)),
      ("businessTestData", .obj (businessTestDataForExport document))]
  else
    [("endpoints", .arr (document.endpoints.map fun endpoint =>
      .obj (canonicalDirectEndpointForExport endpoint)))] ++
      (if document.dynamicClientRegistration = [] then []
        else [("dynamicClientRegistration", .obj document.dynamicClientRegistration)])

/-- `plan_document_to_json_object`. -/
def planDocumentToJsonObject (document : PlanDocumentV2) : JsonObject :=
  [("schemaVersion", .str "1.0"),
    ("specification", .obj (specificationForExport document)),
    ("executionMode", .str (modeText document.executionMode)),
    ("securityEnvironment", .obj (securityEnvironmentForExport document)),
    ("metadata", .obj document.metadata)] ++
    scopeForExport document

/-- `model_bank_config_from_plan_document`. -/
def modelBankConfigFromPlanDocument (document : PlanDocumentV2) : JsonObject :=
  document.config.filter fun field => field.1 ∈ modelBankConfigKeys

end Conformance.PlanJson
