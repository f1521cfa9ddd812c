import Conformance.ForStd.DepthFirst
import Conformance.Native.Catalogue

/-!
# The plan compiler

`compile_test_plan` of `conformance/catalogue.py`, function by function and with
every exception it raises. Python sets that are only tested for membership are
lists here; dictionaries keep their insertion order.

Pipeline: canonicalise endpoints → index cases and capabilities → normalise
capability selections → decide direct applicability → reject bad deselections →
order the dependency closure → validate runtime inputs and overrides → trace.
-/

namespace Conformance

/-- `_canonical_implemented_endpoint`: the legacy spelling of the products
    endpoint becomes the canonical one and loses its operation id and its
    capability ids. -/
def canonicalImplementedEndpoint (endpoint : ImplementedEndpoint) : ImplementedEndpoint :=
  if endpoint.method = .get ∧ endpoint.path = "/open-banking/v4.0/aisp/product" then
    { method := endpoint.method
      path := "/open-banking/v4.0/aisp/products"
      resourceGroup := endpoint.resourceGroup }
  else endpoint

/-! ## Catalogue indexes -/

/-- `_catalogue_cases_by_id`. -/
def catalogueCasesById (catalogue : TestCatalogue) :
    Except PyError (Dict String CatalogueTestCase) :=
  catalogue.testCases.foldlM (fun casesById testCase =>
    if casesById.contains testCase.testCaseId then
      .error (.catalogueError s!"Catalogue test case id '{testCase.testCaseId}' is a duplicate")
    else .ok (casesById.set testCase.testCaseId testCase)) .empty

/-- The checks `_catalogue_capability_indexes` makes on one capability. -/
def checkCapability (capabilitiesById : Dict String EndpointCapability)
    (capability : EndpointCapability) : Except PyError Unit := do
  Except.raiseIf (strip capability.capabilityId = "")
    (.catalogueError "Catalogue capability id must be a non-empty string")
  Except.raiseIf (strip capability.label = "")
    (.catalogueError s!"Catalogue capability '{capability.capabilityId}' label must be non-empty")
  Except.raiseIf (strip capability.description = "")
    (.catalogueError
      s!"Catalogue capability '{capability.capabilityId}' description must be non-empty")
  Except.raiseIf (capability.endpointRefs = [])
    (.catalogueError
      s!"Catalogue capability '{capability.capabilityId}' must apply to at least one endpoint")
  Except.raiseIf (capabilitiesById.contains capability.capabilityId = true)
    (.catalogueError s!"Catalogue capability id '{capability.capabilityId}' is a duplicate")

/-- Capabilities by id, and by endpoint and id. -/
structure CapabilityIndexes where
  byId : Dict String EndpointCapability := .empty
  byRef : Dict EndpointRef (Dict String EndpointCapability) := .empty

/-- `capabilities_by_ref.get(ref, {})`. -/
def CapabilityIndexes.forRef (indexes : CapabilityIndexes) (ref : EndpointRef) :
    Dict String EndpointCapability :=
  (indexes.byRef.get? ref).getD .empty

/-- `_catalogue_capability_indexes`. -/
def catalogueCapabilityIndexes (catalogue : TestCatalogue) : Except PyError CapabilityIndexes :=
  catalogue.capabilities.foldlM (fun indexes capability => do
    checkCapability indexes.byId capability
    return {
      byId := indexes.byId.set capability.capabilityId capability
      byRef := capability.endpointRefs.foldl (fun byRef ref =>
        byRef.set ref (((byRef.get? ref).getD .empty).set capability.capabilityId capability))
        indexes.byRef }) {}

/-! ## Endpoint and capability selection -/

/-- The checks `_selected_capabilities_by_endpoint` makes on one declared capability id
    of the endpoint at position `index`. -/
def checkDeclaredCapability (indexes : CapabilityIndexes) (index : Nat)
    (endpoint : ImplementedEndpoint) (capabilityId : String) : Except PyError Unit := do
  Except.raiseIf (indexes.byId.contains capabilityId = false)
    (.catalogueError (s!"planSpec.implementedEndpoints[{index}].capabilities contains unknown " ++
      s!"capability '{capabilityId}'"))
  Except.raiseIf ((indexes.forRef endpoint.ref).contains capabilityId = false)
    (.catalogueError (s!"Capability '{capabilityId}' does not apply to implemented endpoint " ++
      endpoint.method.text ++ " " ++ endpoint.path))

/-- `normalised_ids`: the required capabilities of the endpoint and the declared ones. -/
def normalisedCapabilityIds (indexes : CapabilityIndexes) (endpoint : ImplementedEndpoint) :
    List String :=
  ((indexes.forRef endpoint.ref).values.filter fun capability =>
    capability.required || capability.capabilityId ∈ endpoint.capabilityIds).map
      (·.capabilityId)

/-- The trace entries of one endpoint, in catalogue capability order. -/
def capabilitySelections (indexes : CapabilityIndexes)
    (catalogueCapabilities : List EndpointCapability) (endpoint : ImplementedEndpoint) :
    List EndpointCapabilitySelection :=
  (catalogueCapabilities.filter fun capability =>
    endpoint.ref ∈ capability.endpointRefs &&
      capability.capabilityId ∈ normalisedCapabilityIds indexes endpoint).map fun capability =>
    { method := endpoint.method
      path := endpoint.path
      capabilityId := capability.capabilityId
      label := capability.label
      required := capability.required }

/-- The two results of `_selected_capabilities_by_endpoint`. -/
structure SelectedCapabilities where
  byRef : Dict EndpointRef (List String) := .empty
  selections : List EndpointCapabilitySelection := []

/-- `_selected_capabilities_by_endpoint`. -/
def selectedCapabilitiesByEndpoint (indexes : CapabilityIndexes)
    (catalogueCapabilities : List EndpointCapability) (endpoints : List ImplementedEndpoint) :
    Except PyError SelectedCapabilities :=
  endpoints.zipIdx.foldlM (fun selected (endpoint, index) => do
    forM endpoint.capabilityIds (checkDeclaredCapability indexes index endpoint)
    return {
      byRef := selected.byRef.set endpoint.ref (normalisedCapabilityIds indexes endpoint)
      selections := selected.selections ++
        capabilitySelections indexes catalogueCapabilities endpoint }) {}

/-- What `_validate_test_case_capability_references` checks of one required capability. -/
def checkCapabilityReference (capabilitiesById : Dict String EndpointCapability)
    (testCase : CatalogueTestCase) (capabilityId : String) : Except PyError Unit :=
  match capabilitiesById.get? capabilityId with
  | none => .error (.catalogueError
      (s!"Catalogue test case '{testCase.testCaseId}' references unknown capability " ++
        s!"'{capabilityId}'"))
  | some capability =>
    Except.raiseIf (∀ ref ∈ testCase.applicability.endpointRefs, ref ∉ capability.endpointRefs)
      (.catalogueError (s!"Catalogue test case '{testCase.testCaseId}' references capability " ++
        s!"'{capabilityId}' outside its endpoint applicability"))

/-- `_validate_test_case_capability_references`. -/
def validateTestCaseCapabilityReferences (catalogue : TestCatalogue)
    (capabilitiesById : Dict String EndpointCapability) : Except PyError Unit :=
  forM catalogue.testCases fun testCase =>
    if testCase.applicability.requiredCapabilityIds = [] then .ok ()
    else do
      Except.raiseIf (testCase.applicability.endpointRefs = [])
        (.catalogueError (s!"Catalogue test case '{testCase.testCaseId}' cannot require " ++
          "capabilities without endpoint refs"))
      forM testCase.applicability.requiredCapabilityIds
        (checkCapabilityReference capabilitiesById testCase)

/-- `_implemented_endpoint_refs`. -/
def implementedEndpointRefs (endpoints : List ImplementedEndpoint) : List EndpointRef :=
  endpoints.map (·.ref)

/-! ## Direct applicability -/

/-- `_test_case_applies_to_specification_version`. -/
def testCaseAppliesToSpecificationVersion (testCase : CatalogueTestCase)
    (specificationVersion : Option String) : Bool :=
  match specificationVersion with
  | none => true
  | some version =>
    testCase.applicability.specificationVersions = [] ||
      version ∈ testCase.applicability.specificationVersions

/-- `_selected_capability_ids_for_refs`. -/
def selectedCapabilityIdsForRefs (refs : List EndpointRef)
    (selectedByRef : Dict EndpointRef (List String)) : List String :=
  refs.flatMap fun ref => (selectedByRef.get? ref).getD []

/-- `missing_capability_ids` of a test case. -/
def missingCapabilityIds (testCase : CatalogueTestCase)
    (selectedByRef : Dict EndpointRef (List String)) : List String :=
  sorted ((testCase.applicability.requiredCapabilityIds.filter fun capabilityId =>
    capabilityId ∉ selectedCapabilityIdsForRefs testCase.applicability.endpointRefs
      selectedByRef).dedup)

/-- The decision `_directly_applicable_case_ids` records for one test case. -/
def directDecision (spec : TestPlanSpec) (implementedRefs : List EndpointRef)
    (selectedByRef : Dict EndpointRef (List String)) (testCase : CatalogueTestCase) :
    ApplicabilityDecision :=
  let decision (selected : Bool) (reason : String) : ApplicabilityDecision :=
    { testCaseId := testCase.testCaseId, selected := selected, reason := reason }
  if testCase.applicability.securityProfiles.appliesTo spec.securityProfile = false then
    decision false ("not applicable to security profile " ++ spec.securityProfile.text)
  else if testCaseAppliesToSpecificationVersion testCase spec.specificationVersion = false then
    decision false
      ("not applicable to specification version " ++ spec.specificationVersion.getD "None")
  else if testCase.applicability.endpointRefs = [] then
    decision true "applicable to selected profile and implemented endpoints"
  else if ¬ ∀ ref ∈ testCase.applicability.endpointRefs, ref ∈ implementedRefs then
    decision false "no matching implemented endpoint"
  else if missingCapabilityIds testCase selectedByRef ≠ [] then
    decision false ("required capability not selected: " ++
      ", ".intercalate (missingCapabilityIds testCase selectedByRef))
  else if testCase.applicability.requiredCapabilityIds ≠ [] then
    decision true
      "applicable to selected profile, implemented endpoints, and selected capabilities"
  else
    decision true "applicable to selected profile and implemented endpoints"

/-- The two results of `_directly_applicable_case_ids`. -/
structure DirectCases where
  selectedIds : List String := []
  decisions : Dict String ApplicabilityDecision := .empty

/-- Record the decision of one test case. -/
def DirectCases.record (direct : DirectCases) (testCase : CatalogueTestCase)
    (decision : ApplicabilityDecision) : DirectCases where
  selectedIds :=
    if decision.selected then direct.selectedIds.insert testCase.testCaseId
    else direct.selectedIds
  decisions := direct.decisions.set testCase.testCaseId decision

/-- `_directly_applicable_case_ids`. -/
def directlyApplicableCaseIds (catalogue : TestCatalogue) (spec : TestPlanSpec)
    (implementedRefs : List EndpointRef) (selectedByRef : Dict EndpointRef (List String)) :
    DirectCases :=
  catalogue.testCases.foldl (fun direct testCase =>
    direct.record testCase (directDecision spec implementedRefs selectedByRef testCase)) {}

/-- The checks `_reject_invalid_deselection` makes on one deselected id. -/
def checkDeselection (casesById : Dict String CatalogueTestCase) (directIds : List String)
    (caseId : String) : Except PyError Unit :=
  match casesById.get? caseId with
  | none => .error (.catalogueError s!"Cannot deselect unknown test case '{caseId}'")
  | some testCase => do
    Except.raiseIf (caseId ∉ directIds)
      (.catalogueError s!"Cannot deselect inapplicable test case '{caseId}'")
    Except.raiseIf (testCase.mandatory = true)
      (.catalogueError s!"Mandatory applicable test case '{caseId}' cannot be deselected")

/-- `_reject_invalid_deselection`. -/
def rejectInvalidDeselection (deselectedIds : List String)
    (casesById : Dict String CatalogueTestCase) (directIds : List String) :
    Except PyError Unit :=
  forM deselectedIds (checkDeselection casesById directIds)

/-! ## Dependency order -/

/-- The dependency graph `_ordered_case_ids` searches: a case must exist and apply
    to the selected profile. -/
def caseGraph (casesById : Dict String CatalogueTestCase) (profile : SecurityProfile) :
    DepthFirst.Graph String PyError where
  deps caseId := (casesById.get? caseId).map (·.dependencies)
  admits caseId :=
    ((casesById.get? caseId).map fun testCase =>
      testCase.applicability.securityProfiles.appliesTo profile).getD true
  missing caseId := .catalogueError s!"Catalogue dependency '{caseId}' does not exist"
  cyclic caseId := .catalogueError s!"Catalogue dependency cycle includes '{caseId}'"
  refused caseId := .catalogueError
    (s!"Catalogue dependency '{caseId}' is not applicable to security profile " ++ profile.text)
  tooDeep := .recursionError

/-- `_ordered_case_ids`. The recursion is bounded by the number of cases plus one,
    a depth that no search exceeds. -/
def orderedCaseIds (casesById : Dict String CatalogueTestCase) (directIds : List String)
    (profile : SecurityProfile) : Except PyError (DepthFirst.State String) :=
  (caseGraph casesById profile).order (casesById.size + 1)
    (casesById.keys.filter fun caseId => caseId ∈ directIds)

/-! ## Runtime inputs -/

/-- `_REQUEST_HEADER_RUNTIME_INPUT_IDS`. -/
def requestHeaderRuntimeInputIds : List String :=
  ["idempotencyKey", "xCustomerUserAgent", "xFapiAuthDate", "xFapiCustomerIpAddress",
    "xFapiFinancialId", "xFapiInteractionId"]

/-- Python's `or` on two optional strings: an empty string is falsy. -/
def stringOr : Option String → Option String → Option String
  | some s, other => if s = "" then other else some s
  | none, other => other

/-- How `_combined_runtime_requirements` merges a requirement into the one already
    recorded under its id. -/
def mergeRequirement (existing requirement : RuntimeInputRequirement) :
    Except PyError RuntimeInputRequirement := do
  Except.raiseIf (existing.inputType ≠ requirement.inputType)
    (.catalogueError
      s!"Runtime input '{requirement.inputId}' has conflicting catalogue requirements")
  Except.raiseIf (existing.source ≠ requirement.source)
    (.catalogueError
      s!"Runtime input '{requirement.inputId}' has conflicting catalogue data sources")
  return { existing with
    required := existing.required || requirement.required
    sensitive := existing.sensitive || requirement.sensitive
    description := stringOr existing.description requirement.description }

/-- One round of the loop of `_combined_runtime_requirements`. -/
def addRequirement (requirements : Dict String RuntimeInputRequirement)
    (requirement : RuntimeInputRequirement) :
    Except PyError (Dict String RuntimeInputRequirement) :=
  match requirement.inputType with
  | .unsupported name => .error (.catalogueError
      s!"Runtime input '{requirement.inputId}' has unsupported type '{name}'")
  | _ =>
    match requirements.get? requirement.inputId with
    | none => .ok (requirements.set requirement.inputId requirement)
    | some existing => do
      let merged ← mergeRequirement existing requirement
      return requirements.set requirement.inputId merged

/-- `_combined_runtime_requirements`, in first-use order. Assigning to a key that is
    present keeps its place, as replacing an element of `ordered_requirements` does. -/
def combinedRuntimeRequirements (testCases : List CatalogueTestCase) :
    Except PyError (Dict String RuntimeInputRequirement) :=
  (testCases.flatMap (·.runtimeInputRequirements)).foldlM addRequirement .empty

/-- `_reject_unsupported_request_header_runtime_inputs`. -/
def rejectUnsupportedRequestHeaderRuntimeInputs
    (requirements : Dict String RuntimeInputRequirement) (runtimeInputs : Dict String Json) :
    Except PyError Unit :=
  let unsupported := sorted (runtimeInputs.keys.filter fun inputId =>
    inputId ∈ requestHeaderRuntimeInputIds && requirements.contains inputId = false)
  Except.raiseIf (unsupported ≠ []) (.catalogueError
    ("Unsupported request header runtime input(s) for selected scope: " ++
      ", ".intercalate unsupported))

/-- `_validate_runtime_input_value`. `validateHttpsUrl value label` stands for
    `validate_https_url`; its own error becomes a `CatalogueError`, anything else it
    raises passes through. -/
def validateRuntimeInputValue (validateHttpsUrl : String → String → Except PyError Unit)
    (requirement : RuntimeInputRequirement) (value : Json) : Except PyError Unit :=
  let mustBe (what : String) : PyError :=
    .catalogueError (s!"Runtime input '{requirement.inputId}' must be a " ++ what)
  match requirement.inputType, value with
  | .string, .str s | .fileReference, .str s =>
    Except.raiseIf (strip s = "") (mustBe "non-empty string")
  | .string, _ | .fileReference, _ => .error (mustBe "non-empty string")
  | .url, .str s =>
    if strip s = "" then .error (mustBe "non-empty HTTPS URL")
    else
      match validateHttpsUrl (strip s) s!"Runtime input '{requirement.inputId}'" with
      | .error (.httpsUrlValidationError message) => .error (.catalogueError message)
      | outcome => outcome
  | .url, _ => .error (mustBe "non-empty HTTPS URL")
  | .number, .int _ | .number, .float _ => .ok ()
  | .number, _ => .error (mustBe "JSON number")
  | .boolean, .bool _ => .ok ()
  | .boolean, _ => .error (mustBe "JSON boolean")
  | .json, _ | .unsupported _, _ => .ok ()

/-- The value supplied for an input: absent and `null` both count as not provided. -/
def providedValue (runtimeInputs : Dict String Json) (inputId : String) : Option Json :=
  match runtimeInputs.get? inputId with
  | none | some .null => none
  | some value => some value

/-- The snapshot entry of one requirement. -/
def runtimeInputTrace (validateHttpsUrl : String → String → Except PyError Unit)
    (runtimeInputs : Dict String Json) (requirement : RuntimeInputRequirement) :
    Except PyError RuntimeInputTrace := do
  let value := providedValue runtimeInputs requirement.inputId
  -- inputs that a test case produces are never taken from the plan
  if requirement.source ≠ .plan then
    Except.raiseIf (value.isSome = true) (.catalogueError
      (s!"Runtime input '{requirement.inputId}' is " ++ requirement.source.text ++
        "-sourced and cannot be supplied in test plan config"))
    return {
      inputId := requirement.inputId
      inputType := requirement.inputType
      required := false
      sensitive := requirement.sensitive
      provided := false
      value := none }
  else
    Except.raiseIf (requirement.required = true ∧ value.isNone = true)
      (.catalogueError s!"Required runtime input '{requirement.inputId}' is missing")
    forM value.toList (validateRuntimeInputValue validateHttpsUrl requirement)
    return {
      inputId := requirement.inputId
      inputType := requirement.inputType
      required := requirement.required
      sensitive := requirement.sensitive
      provided := value.isSome
      -- the snapshot says that a sensitive value was there, not what it was
      value := if requirement.sensitive then none else value }

/-- `_runtime_input_snapshot`. -/
def runtimeInputSnapshot (validateHttpsUrl : String → String → Except PyError Unit)
    (testCases : List CatalogueTestCase) (runtimeInputs : Dict String Json) :
    Except PyError (List RuntimeInputTrace) := do
  let requirements ← combinedRuntimeRequirements testCases
  rejectUnsupportedRequestHeaderRuntimeInputs requirements runtimeInputs
  requirements.values.mapM (runtimeInputTrace validateHttpsUrl runtimeInputs)

/-! ## Overrides and traceability -/

/-- What `_validate_assertion_overrides` does with one override. -/
def assertionOverrideReason (casesById : Dict String CatalogueTestCase)
    (orderedIds : List String) (override : AssertionOverride) : Except PyError String := do
  Except.raiseIf (override.testCaseId ∉ orderedIds) (.catalogueError
    s!"Assertion override targets uncompiled test case '{override.testCaseId}'")
  let assertions := ((casesById.get? override.testCaseId).map (·.assertions)).getD []
  Except.raiseIf (override.assertionId ∉ assertions.map (·.assertionId)) (.catalogueError
    (s!"Assertion override targets unknown assertion '{override.testCaseId}" ++
      s!".{override.assertionId}'"))
  return s!"Assertion override supplied for {override.testCaseId}" ++
    s!".{override.assertionId}: {override.reason}"

/-- `_validate_assertion_overrides`. -/
def validateAssertionOverrides (casesById : Dict String CatalogueTestCase)
    (orderedIds : List String) (overrides : List AssertionOverride) :
    Except PyError (List String) :=
  overrides.mapM (assertionOverrideReason casesById orderedIds)

/-- `tuple(sorted(dependency_edges.get(case_id, set())))`. -/
def dependencyOf (dependencyEdges : List (String × String)) (caseId : String) : List String :=
  sorted ((dependencyEdges.filter fun edge => edge.1 = caseId).map Prod.snd)

/-- The final decision `_traceability_decisions` derives from a base decision. -/
def traceabilityDecision (selectedIds : List String) (dependencyEdges : List (String × String))
    (deselectedIds : List String) (caseId : String) (decision : ApplicabilityDecision) :
    ApplicabilityDecision :=
  let dependents := dependencyOf dependencyEdges caseId
  if caseId ∈ deselectedIds then
    { testCaseId := caseId
      selected := false
      reason := "deselected by participant"
      dependencyOf := dependents }
  else if caseId ∈ selectedIds then
    { testCaseId := caseId
      selected := true
      reason :=
        if dependents ≠ [] ∧ decision.selected = false then "included as dependency"
        else decision.reason
      dependencyOf := dependents }
  else decision

/-- `_traceability_decisions`. -/
def traceabilityDecisions (baseDecisions : Dict String ApplicabilityDecision)
    (selectedIds : List String) (dependencyEdges : List (String × String))
    (deselectedIds : List String) : List ApplicabilityDecision :=
  baseDecisions.entries.map fun entry =>
    traceabilityDecision selectedIds dependencyEdges deselectedIds entry.1 entry.2

/-- Whether an uncompiled case is kept for skipped traceability. -/
def keptAsSkipped (baseDecisions : Dict String ApplicabilityDecision)
    (selectedIds : List String) (testCase : CatalogueTestCase) : Bool :=
  testCase.testCaseId ∉ selectedIds &&
    (baseDecisions.get? testCase.testCaseId).map (·.reason) ==
      some "no matching implemented endpoint" &&
    (testCase.gateAbsenceBehavior = .skip ||
      testCase.traceGroup.map (·.absenceBehavior) == some .skip)

/-! ## Compilation -/

/-- `compile_test_plan`. -/
def compileTestPlan (validateHttpsUrl : String → String → Except PyError Unit)
    (catalogue : TestCatalogue) (spec : TestPlanSpec) : Except PyError CompiledTestPlan := do
  Except.raiseIf (catalogue.key ≠ spec.catalogueKey)
    (.catalogueError "planSpec.catalogue does not match the supplied catalogue")
  let implementedEndpoints := spec.implementedEndpoints.map canonicalImplementedEndpoint
  let casesById ← catalogueCasesById catalogue
  let indexes ← catalogueCapabilityIndexes catalogue
  let implementedRefs := implementedEndpointRefs implementedEndpoints
  let selected ←
    selectedCapabilitiesByEndpoint indexes catalogue.capabilities implementedEndpoints
  validateTestCaseCapabilityReferences catalogue indexes.byId
  let direct := directlyApplicableCaseIds catalogue spec implementedRefs selected.byRef
  rejectInvalidDeselection spec.deselectedTestCaseIds casesById direct.selectedIds
  let search ← orderedCaseIds casesById
    (direct.selectedIds.filter fun caseId => caseId ∉ spec.deselectedTestCaseIds)
    spec.securityProfile
  let orderedIds := search.ordered
  -- a deselected case can come back as a dependency of one that was kept
  let dependencyDeselections :=
    orderedIds.filter fun caseId => caseId ∈ spec.deselectedTestCaseIds
  Except.raiseIf (dependencyDeselections ≠ []) (.catalogueError
    ("Cannot deselect dependency test case(s): " ++
      ", ".intercalate (sorted dependencyDeselections)))
  let selectedCases := orderedIds.filterMap casesById.get?
  let runtimeSnapshot ←
    runtimeInputSnapshot validateHttpsUrl selectedCases spec.runtimeInputs
  let nonCertifyingReasons ←
    validateAssertionOverrides casesById orderedIds spec.assertionOverrides
  return {
    catalogueKey := catalogue.key
    catalogueVersion := catalogue.catalogueVersion
    securityProfile := spec.securityProfile
    testCases := selectedCases
    traceability := {
      catalogueKey := catalogue.key
      catalogueVersion := catalogue.catalogueVersion
      securityProfile := spec.securityProfile
      selectedEndpoints := implementedEndpoints
      selectedCapabilities := selected.selections
      applicabilityDecisions :=
        traceabilityDecisions direct.decisions orderedIds search.edges
          spec.deselectedTestCaseIds
      generatedTestCaseIds := orderedIds
      runtimeInputSnapshot := runtimeSnapshot
      nonCertifyingReasons := nonCertifyingReasons
      provenance := catalogue.provenance }
    certifying := nonCertifyingReasons = []
    skippedTestCases :=
      catalogue.testCases.filter (keptAsSkipped direct.decisions orderedIds) }

end Conformance
