import Conformance.Native.CompilePlan

/-!
# Shared plan documents

`_compile_plan_document_v2` of `conformance/catalogue.py`: a plan document selects
endpoints in resource groups, the endpoints are partitioned over the catalogue
areas that own them, each area is compiled on its own, and the compiled areas are
merged into one plan.
-/

namespace Conformance

/-! ## Plan documents -/

/-- Endpoint selection inside a plan document (`PlanDocumentEndpoint`). -/
structure PlanDocumentEndpoint where
  method : HttpMethod
  path : String
  operationId : Option String := none
  capabilityIds : List String := []
  required : Option Bool := none
  locked : Option Bool := none
  deriving DecidableEq, Repr

/-- Resource-group scope inside a plan document (`PlanResourceGroup`). -/
structure PlanResourceGroup where
  resourceGroupId : String
  endpoints : List PlanDocumentEndpoint
  selectAll : Bool := false
  label : Option String := none
  deriving DecidableEq, Repr

/-- `PlanExecutionMode`. -/
inductive PlanExecutionMode where
  | certification
  | development
  deriving DecidableEq, Repr

/-- Shared plan document (`PlanDocumentV2`). -/
structure PlanDocumentV2 where
  scheme : String
  specification : String
  version : String
  securityProfile : SecurityProfile
  resourceGroups : List PlanResourceGroup
  runtimeInputs : Dict String Json
  endpoints : List PlanDocumentEndpoint := []
  config : JsonObject := []
  securityEnvironment : JsonObject := []
  businessTestData : JsonObject := []
  metadata : JsonObject := []
  executionMode : PlanExecutionMode := .certification
  dynamicClientRegistration : JsonObject := []

/-! ## Specification registry -/

/-- Catalogue binding of one specification version (`SpecificationVersionDefinition`). -/
structure SpecificationVersionDefinition where
  version : String
  catalogueStandard : String
  catalogueVersion : String
  catalogueApis : List String
  securityProfiles : List SecurityProfile

/-- Supported specification family (`SpecificationDefinition`). -/
structure SpecificationDefinition where
  scheme : String
  family : String
  specification : String
  versions : List SpecificationVersionDefinition
  usesResourceGroups : Bool

/-- `_SPECIFICATIONS`. -/
def supportedSpecifications : List SpecificationDefinition :=
  [{ scheme := "open-banking-uk"
     family := "OBL_READ_WRITE"
     specification := "read-write"
     versions :=
      (["4.0.1", "4.0.0", "4.0"].map fun version =>
        { version := version
          catalogueStandard := "open-banking"
          catalogueVersion := "v4.0"
          catalogueApis := ["ais", "pis", "cbpii", "vrp"]
          securityProfiles := [.fapi1Advanced] }) ++
      [{ version := "3.1.11"
         catalogueStandard := "open-banking"
         catalogueVersion := "v3.1"
         catalogueApis := ["ais", "pis", "cbpii", "vrp"]
         securityProfiles := [.fapi1Advanced] }]
     usesResourceGroups := true },
   { scheme := "open-banking-uk"
     family := "OBL_DCR"
     specification := "dynamic-client-registration"
     versions := [
      { version := "3.4"
        catalogueStandard := "open-banking"
        catalogueVersion := "v3.4"
        catalogueApis := ["dcr"]
        securityProfiles := [.all] }]
     usesResourceGroups := false }]

/-- `specification_for_boundary`, with its `ValueError` already turned into the
    `CatalogueError` of `_specification_binding_for_plan_boundary`. -/
def specificationBindingForPlanBoundary (scheme specification version : String) :
    Except PyError SpecificationVersionDefinition :=
  match supportedSpecifications.find? fun definition =>
      definition.scheme = scheme ∧ definition.specification = specification with
  | none =>
    let supported := ", ".intercalate (supportedSpecifications.map fun item =>
      item.scheme ++ "/" ++ item.specification)
    .error (.catalogueError s!"specification boundary must be one of: {supported}")
  | some definition =>
    match definition.versions.find? fun item => item.version = version with
    | none =>
      let supported := ", ".intercalate (definition.versions.map (·.version))
      .error (.catalogueError s!"specification.version must be one of: {supported}")
    | some versionDefinition => .ok versionDefinition

/-- `catalogue_areas_for_plan_document_boundary`. -/
def catalogueAreasForPlanDocumentBoundary (scheme specification version : String)
    (catalogues : List TestCatalogue) : Except PyError (List TestCatalogue) := do
  let binding ← specificationBindingForPlanBoundary scheme specification version
  let candidates := catalogues.filter fun catalogue =>
    catalogue.key.standard = binding.catalogueStandard ∧
      catalogue.key.version = binding.catalogueVersion ∧
      catalogue.key.api ∈ binding.catalogueApis
  if candidates.isEmpty then
    .error (.catalogueError
      s!"No catalogues are available for {scheme}/{specification}/{version}")
  else .ok candidates

/-! ## Resource groups -/

/-- `_api_for_plan_resource_group_id`: canonical ids, builder ids, and ids of the
    `api.slug` shape. -/
def apiForPlanResourceGroupId (resourceGroupId : String) : Option String :=
  match resourceGroupId with
  | "AIS" | "account-and-transaction" => some "ais"
  | "PIS" | "payment-initiation" => some "pis"
  | "CBPII" | "confirmation-of-funds" => some "cbpii"
  | "VRP" | "variable-recurring-payments" => some "vrp"
  | _ =>
    let api := String.ofList (resourceGroupId.toList.takeWhile (· ≠ '.'))
    if '.' ∈ resourceGroupId.toList ∧ api ≠ "" then some api else none

/-- The endpoint refs of the cases and then of the capabilities of a catalogue. -/
def allEndpointRefs (catalogue : TestCatalogue) : List EndpointRef :=
  catalogue.testCases.flatMap (·.applicability.endpointRefs) ++
    catalogue.capabilities.flatMap (·.endpointRefs)

/-- `_ordered_catalogue_endpoint_refs`: without repetitions, in first-use order. -/
def orderedCatalogueEndpointRefs (catalogue : TestCatalogue) : List EndpointRef :=
  (allEndpointRefs catalogue).foldl (fun refs ref =>
    if ref ∈ refs then refs else refs ++ [ref]) []

/-- `catalogues_by_api`: the last catalogue of an API family counts. -/
def cataloguesByApi (catalogues : List TestCatalogue) : Dict String TestCatalogue :=
  catalogues.foldl (fun byApi catalogue => byApi.set catalogue.key.api catalogue) .empty

/-- `_all_endpoints_for_resource_group`. -/
def allEndpointsForResourceGroup (catalogues : List TestCatalogue)
    (resourceGroup : PlanResourceGroup) : Except PyError (List ImplementedEndpoint) :=
  match (apiForPlanResourceGroupId resourceGroup.resourceGroupId).bind
      (cataloguesByApi catalogues).get? with
  | none => .error (.catalogueError
      s!"No catalogue area owns resource group '{resourceGroup.resourceGroupId}'")
  | some catalogue => .ok ((orderedCatalogueEndpointRefs catalogue).map fun ref =>
      { method := ref.method
        path := ref.path
        resourceGroup := resourceGroup.resourceGroupId })

/-- The compiler declaration of an endpoint selected in `resourceGroup`. -/
def PlanDocumentEndpoint.implemented (endpoint : PlanDocumentEndpoint) (resourceGroup : String) :
    ImplementedEndpoint where
  method := endpoint.method
  path := endpoint.path
  resourceGroup := resourceGroup
  operationId := endpoint.operationId
  capabilityIds := endpoint.capabilityIds

/-- The compiler declarations of one resource group. -/
def endpointsOfResourceGroup (catalogues : List TestCatalogue)
    (resourceGroup : PlanResourceGroup) : Except PyError (List ImplementedEndpoint) :=
  if resourceGroup.selectAll then allEndpointsForResourceGroup catalogues resourceGroup
  else .ok (resourceGroup.endpoints.map (·.implemented resourceGroup.resourceGroupId))

/-- `_implemented_endpoints_from_plan_document_v2`. -/
def implementedEndpointsFromPlanDocumentV2 (document : PlanDocumentV2)
    (catalogues : List TestCatalogue) : Except PyError (List ImplementedEndpoint) :=
  if document.endpoints ≠ [] then
    .ok (document.endpoints.map (·.implemented document.specification))
  else do
    let groups ← document.resourceGroups.mapM (endpointsOfResourceGroup catalogues)
    return groups.flatten

/-! ## Partition over catalogue areas -/

/-- `catalogue_indexes_by_api`: the last catalogue of an API family counts. -/
def catalogueIndexesByApi (catalogues : List TestCatalogue) : Dict String Nat :=
  catalogues.zipIdx.foldl (fun byApi (catalogue, index) => byApi.set catalogue.key.api index)
    .empty

/-- `_catalogue_index_for_resource_group`. -/
def catalogueIndexForResourceGroup (catalogues : List TestCatalogue) (resourceGroup : String) :
    Except PyError (Option Nat) :=
  match apiForPlanResourceGroupId resourceGroup with
  | none => .ok none
  | some api =>
    match (catalogueIndexesByApi catalogues).get? api with
    | some index => .ok (some index)
    | none =>
      let availableApis := ", ".intercalate (sorted (catalogueIndexesByApi catalogues).keys)
      .error (.catalogueError
        (s!"Resource group '{resourceGroup}' is not available for this plan boundary. " ++
          s!"Available API families: {availableApis}"))

/-- `_catalogue_endpoint_refs` of the catalogue at `index`. -/
def endpointRefsAt (catalogues : List TestCatalogue) (index : Nat) : List EndpointRef :=
  ((catalogues[index]?).map allEndpointRefs).getD []

/-- The catalogue area that a canonical endpoint declaration belongs to: the one its
    resource group names, else the only one that owns the operation. -/
def owningCatalogueIndex (catalogues : List TestCatalogue) (endpoint : ImplementedEndpoint) :
    Except PyError Nat := do
  let method := endpoint.method.text
  match ← catalogueIndexForResourceGroup catalogues endpoint.resourceGroup with
  | some index =>
    Except.raiseIf (endpoint.ref ∉ endpointRefsAt catalogues index) (.catalogueError
      (s!"Resource group '{endpoint.resourceGroup}' does not contain endpoint " ++
        s!"{method} {endpoint.path}"))
    return index
  -- no resource group is named: the operation itself has to decide
  | none =>
    match (List.range catalogues.length).filter fun index =>
        endpoint.ref ∈ endpointRefsAt catalogues index with
    | [] => .error (.catalogueError
        s!"No catalogue area owns endpoint {method} {endpoint.path}")
    | [index] => .ok index
    | owners =>
      let ownerKeys := ", ".intercalate (owners.filterMap fun index =>
        (catalogues[index]?).map (·.key.api))
      .error (.catalogueError
        (s!"Endpoint {method} {endpoint.path} is ambiguous across catalogues: " ++
          s!"{ownerKeys}"))

/-- The accumulators of one catalogue area. `seen_refs_by_catalogue_index` holds the
    refs of the appended endpoints, so it is read off them. -/
structure Area where
  endpoints : List ImplementedEndpoint := []
  aliasRefs : List EndpointRef := []

/-- Whether an area has an endpoint for `ref`. -/
def Area.seen (area : Area) (ref : EndpointRef) : Prop :=
  ref ∈ area.endpoints.map (·.ref)

instance (area : Area) (ref : EndpointRef) : Decidable (area.seen ref) :=
  inferInstanceAs (Decidable (ref ∈ area.endpoints.map (·.ref)))

/-- The accumulators of the area at `index`. -/
def areaAt (areas : Dict Nat Area) (index : Nat) : Area := (areas.get? index).getD {}

/-- Whether canonicalisation changed the path of a declaration. -/
def ImplementedEndpoint.IsAlias (raw : ImplementedEndpoint) : Prop :=
  raw.path ≠ (canonicalImplementedEndpoint raw).path

instance (raw : ImplementedEndpoint) : Decidable raw.IsAlias :=
  inferInstanceAs (Decidable (raw.path ≠ (canonicalImplementedEndpoint raw).path))

/-- Add a declaration to the area at `index` (`_append_partitioned_endpoint` and the
    alias bookkeeping around it): a declaration of a seen operation is skipped when
    either of the two is an alias, and rejected otherwise. -/
def addToArea (catalogues : List TestCatalogue) (areas : Dict Nat Area) (index : Nat)
    (raw : ImplementedEndpoint) : Except PyError (Dict Nat Area) :=
  let endpoint := canonicalImplementedEndpoint raw
  let area := areaAt areas index
  if area.seen endpoint.ref ∧ (raw.IsAlias ∨ endpoint.ref ∈ area.aliasRefs) then .ok areas
  else if area.seen endpoint.ref then
    let method := endpoint.method.text
    let api := ((catalogues[index]?).map (·.key.api)).getD ""
    .error (.catalogueError
      (s!"planSpec scope duplicates implemented endpoint {method} {endpoint.path} " ++
        s!"in catalogue area {api}"))
  else .ok (areas.set index {
    endpoints := area.endpoints ++ [endpoint]
    aliasRefs := if raw.IsAlias then area.aliasRefs.insert endpoint.ref else area.aliasRefs })

/-- One round of the partition loop. -/
def placeEndpoint (catalogues : List TestCatalogue) (areas : Dict Nat Area)
    (raw : ImplementedEndpoint) : Except PyError (Dict Nat Area) := do
  let index ← owningCatalogueIndex catalogues (canonicalImplementedEndpoint raw)
  addToArea catalogues areas index raw

/-- `_partition_implemented_endpoints_by_catalogue`. -/
def partitionImplementedEndpointsByCatalogue (endpoints : List ImplementedEndpoint)
    (catalogues : List TestCatalogue) :
    Except PyError (List (TestCatalogue × List ImplementedEndpoint)) := do
  let areas ← endpoints.foldlM (placeEndpoint catalogues) .empty
  return catalogues.zipIdx.filterMap fun (catalogue, index) =>
    (areas.get? index).map fun area => (catalogue, area.endpoints)

/-! ## Merging compiled areas -/

/-- `_merge_compiled_test_cases`. -/
def mergeCompiledTestCases (compiledPlans : List CompiledTestPlan) :
    Except PyError (List CatalogueTestCase) :=
  (compiledPlans.flatMap (·.testCases)).foldlM (fun merged testCase =>
    if testCase.testCaseId ∈ merged.map (·.testCaseId) then
      .error (.catalogueError
        s!"Compiled test case id '{testCase.testCaseId}' is duplicated across catalogues")
    else .ok (merged ++ [testCase])) []

/-- `_merged_runtime_input_trace_value`. -/
def mergedRuntimeInputTraceValue (existing incoming : RuntimeInputTrace) (sensitive : Bool) :
    Except PyError (Option Json) :=
  if sensitive then .ok none
  else
    match existing.value, incoming.value with
    | none, value => .ok value
    | some value, none => .ok (some value)
    | some value, some value' =>
      if value.pyEq value' then .ok (some value)
      else .error (.catalogueError
        s!"Runtime input '{existing.inputId}' has conflicting trace values")

/-- `_merge_runtime_input_trace`. -/
def mergeRuntimeInputTrace (existing incoming : RuntimeInputTrace) :
    Except PyError RuntimeInputTrace := do
  Except.raiseIf (existing.inputType ≠ incoming.inputType) (.catalogueError
    s!"Runtime input '{existing.inputId}' has conflicting catalogue types")
  let sensitive := existing.sensitive || incoming.sensitive
  let value ← mergedRuntimeInputTraceValue existing incoming sensitive
  return {
    inputId := existing.inputId
    inputType := existing.inputType
    required := existing.required || incoming.required
    sensitive := sensitive
    provided := existing.provided || incoming.provided
    value := value }

/-- `_merge_runtime_input_snapshots`, in first-use order. -/
def mergeRuntimeInputSnapshots (compiledPlans : List CompiledTestPlan) :
    Except PyError (Dict String RuntimeInputTrace) :=
  (compiledPlans.flatMap (·.traceability.runtimeInputSnapshot)).foldlM (fun traces trace =>
    match traces.get? trace.inputId with
    | none => .ok (traces.set trace.inputId trace)
    | some existing => do
      let merged ← mergeRuntimeInputTrace existing trace
      return traces.set trace.inputId merged) .empty

/-- `_aggregate_catalogue_provenance`. -/
def aggregateCatalogueProvenance (compiledPlans : List CompiledTestPlan) :
    Except PyError (Option CatalogueProvenance) :=
  match compiledPlans.filterMap (·.traceability.provenance) with
  | [] => .ok none
  | first :: rest =>
    if rest.any fun candidate => !candidate.pyEq first then
      .error (.catalogueError
        "Cannot aggregate catalogue areas with different source provenance")
    else .ok (some first)

/-- `_aggregate_catalogue_version`. -/
def aggregateCatalogueVersion (compiledPlans : List CompiledTestPlan) : String :=
  "; ".intercalate (compiledPlans.map fun compiledPlan =>
    compiledPlan.traceability.catalogueKey.api ++ ":" ++ compiledPlan.catalogueVersion)

/-- `_merge_compiled_plan_documents_v2`. -/
def mergeCompiledPlanDocumentsV2 (document : PlanDocumentV2)
    (compiledPlans : List CompiledTestPlan) (implementedEndpoints : List ImplementedEndpoint) :
    Except PyError CompiledTestPlan := do
  let aggregateKey : CatalogueKey := ⟨document.scheme, document.version, document.specification⟩
  let testCases ← mergeCompiledTestCases compiledPlans
  let runtimeSnapshot ← mergeRuntimeInputSnapshots compiledPlans
  let provenance ← aggregateCatalogueProvenance compiledPlans
  return {
    catalogueKey := aggregateKey
    catalogueVersion := aggregateCatalogueVersion compiledPlans
    securityProfile := document.securityProfile
    testCases := testCases
    traceability := {
      catalogueKey := aggregateKey
      catalogueVersion := aggregateCatalogueVersion compiledPlans
      securityProfile := document.securityProfile
      selectedEndpoints := implementedEndpoints
      selectedCapabilities := compiledPlans.flatMap (·.traceability.selectedCapabilities)
      applicabilityDecisions := compiledPlans.flatMap (·.traceability.applicabilityDecisions)
      generatedTestCaseIds := testCases.map (·.testCaseId)
      runtimeInputSnapshot := runtimeSnapshot.values
      nonCertifyingReasons := compiledPlans.flatMap (·.traceability.nonCertifyingReasons)
      provenance := provenance }
    certifying := compiledPlans.all (·.certifying)
    skippedTestCases := compiledPlans.flatMap (·.skippedTestCases) }

/-! ## Compilation -/

/-- The plan specification of one catalogue area. -/
def areaSpec (document : PlanDocumentV2) (catalogue : TestCatalogue)
    (endpoints : List ImplementedEndpoint) : TestPlanSpec where
  catalogueKey := catalogue.key
  securityProfile := document.securityProfile
  implementedEndpoints := endpoints
  runtimeInputs := document.runtimeInputs
  specificationVersion := some document.version

/-- `_compile_plan_document_v2`. -/
def compilePlanDocumentV2 (validateHttpsUrl : String → String → Except PyError Unit)
    (document : PlanDocumentV2) (catalogues : List TestCatalogue) :
    Except PyError CompiledTestPlan := do
  let candidates ← catalogueAreasForPlanDocumentBoundary document.scheme document.specification
    document.version catalogues
  let implementedEndpoints ← implementedEndpointsFromPlanDocumentV2 document candidates
  -- the message names the block of the document that was read
  let scopeLocation := if document.resourceGroups ≠ [] then "resourceGroups" else "endpoints"
  Except.raiseIf (implementedEndpoints = []) (.catalogueError
    s!"testPlan.{scopeLocation} must select at least one endpoint")
  let areas ← partitionImplementedEndpointsByCatalogue implementedEndpoints candidates
  let compiledPlans ← areas.mapM fun (catalogue, endpoints) =>
    compileTestPlan validateHttpsUrl catalogue (areaSpec document catalogue endpoints)
  mergeCompiledPlanDocumentsV2 document compiledPlans implementedEndpoints

/-! ## Plan documents of both schemas -/

/-- A parsed plan document (`ParsedPlanDocument`): a v1 plan specification or a shared
    plan document. -/
inductive ParsedPlanDocument where
  | spec (spec : TestPlanSpec)
  | shared (document : PlanDocumentV2)

/-- `_resolve_catalogue_from_collection`. -/
def resolveCatalogueFromCollection (key : CatalogueKey) (catalogues : List TestCatalogue) :
    Except PyError TestCatalogue :=
  match catalogues.find? fun catalogue => catalogue.key = key with
  | some catalogue => .ok catalogue
  | none =>
    let supported := ", ".intercalate (catalogues.map fun catalogue =>
      catalogue.key.standard ++ "/" ++ catalogue.key.version ++ "/" ++ catalogue.key.api)
    let requested := key.standard ++ "/" ++ key.version ++ "/" ++ key.api
    .error (.catalogueError
      s!"Unsupported catalogue: {requested}. Supported catalogues: {supported}")

/-- `compile_test_plan_document`. -/
def compileTestPlanDocument (validateHttpsUrl : String → String → Except PyError Unit)
    (document : ParsedPlanDocument) (catalogues : List TestCatalogue) :
    Except PyError CompiledTestPlan :=
  match document with
  | .spec spec => do
    let catalogue ← resolveCatalogueFromCollection spec.catalogueKey catalogues
    compileTestPlan validateHttpsUrl catalogue spec
  | .shared document => compilePlanDocumentV2 validateHttpsUrl document catalogues

end Conformance
