import Conformance.Native.Python

/-!
# Catalogue domain model

The records of `conformance/catalogue.py` that the plan compiler reads and
returns: catalogues with their test cases and capabilities, plan
specifications, and compiled plans with their traceability.
-/

namespace Conformance

/-- Security profile selectors (`SecurityProfile`). -/
inductive SecurityProfile where
  | all
  | fapi1Advanced
  | fapi2
  deriving DecidableEq, Repr

/-- The literal a security profile is written as. -/
def SecurityProfile.text : SecurityProfile → String
  | .all => "all"
  | .fapi1Advanced => "fapi1-advanced"
  | .fapi2 => "fapi2"

/-- HTTP methods of implemented endpoints and request steps (`HttpMethod`). -/
inductive HttpMethod where
  | get
  | post
  | put
  | patch
  | delete
  deriving DecidableEq, Repr

/-- The literal a method is written as. -/
def HttpMethod.text : HttpMethod → String
  | .get => "GET"
  | .post => "POST"
  | .put => "PUT"
  | .patch => "PATCH"
  | .delete => "DELETE"

/-- Runtime input value types (`RuntimeInputType`). The compiler still checks the
    name at run time, so a name outside the literal type can be expressed. -/
inductive RuntimeInputType where
  | string
  | number
  | boolean
  | json
  | url
  | fileReference
  | unsupported (name : String)
  deriving DecidableEq, Repr

/-- Runtime data source categories (`RuntimeInputSource`). -/
inductive RuntimeInputSource where
  | plan
  | fixture
  | generated
  | captured
  | token
  deriving DecidableEq, Repr

/-- The literal a value type is written as. -/
def RuntimeInputType.text : RuntimeInputType → String
  | .string => "string"
  | .number => "number"
  | .boolean => "boolean"
  | .json => "json"
  | .url => "url"
  | .fileReference => "file_reference"
  | .unsupported name => name

/-- The literal a data source is written as. -/
def RuntimeInputSource.text : RuntimeInputSource → String
  | .plan => "plan"
  | .fixture => "fixture"
  | .generated => "generated"
  | .captured => "captured"
  | .token => "token"

/-- Execution role of a test case (`TestCaseRole`). -/
inductive TestCaseRole where
  | setup
  | security
  | resource
  | consent
  | token
  deriving DecidableEq, Repr

/-- The literal a role is written as. -/
def TestCaseRole.text : TestCaseRole → String
  | .setup => "setup"
  | .security => "security"
  | .resource => "resource"
  | .consent => "consent"
  | .token => "token"

/-- Protocol-neutral kinds of execution step (`CatalogueExecutionStepKind`). -/
inductive ExecutionStepKind where
  | assertion
  | http
  | state
  deriving DecidableEq, Repr

/-- The literal a kind is written as. -/
def ExecutionStepKind.text : ExecutionStepKind → String
  | .assertion => "assertion"
  | .http => "http"
  | .state => "state"

/-- Result policy of a gated case or group (`CatalogueGateAbsenceBehavior`). -/
inductive GateAbsenceBehavior where
  | exclude
  | skip
  deriving DecidableEq, Repr

/-- Catalogue boundary selected before endpoint applicability (`CatalogueKey`). -/
structure CatalogueKey where
  standard : String
  version : String
  api : String
  deriving DecidableEq, Repr

/-- Exact HTTP operation reference (`EndpointRef`). -/
structure EndpointRef where
  method : HttpMethod
  path : String
  deriving DecidableEq, Repr

/-- Participant-declared implemented endpoint (`ImplementedEndpoint`). -/
structure ImplementedEndpoint where
  method : HttpMethod
  path : String
  resourceGroup : String
  operationId : Option String := none
  capabilityIds : List String := []
  deriving DecidableEq, Repr

/-- The operation an endpoint declaration is about. -/
def ImplementedEndpoint.ref (e : ImplementedEndpoint) : EndpointRef := ⟨e.method, e.path⟩

/-- Security profile filter carried by test cases. -/
structure SecurityProfileApplicability where
  profiles : List SecurityProfile
  deriving DecidableEq, Repr

/-- Whether the filter includes `all` or the selected profile. -/
def SecurityProfileApplicability.appliesTo (a : SecurityProfileApplicability)
    (profile : SecurityProfile) : Bool :=
  .all ∈ a.profiles || profile ∈ a.profiles

/-- Applicability rules of a test case (`TestCaseApplicability`). -/
structure TestCaseApplicability where
  securityProfiles : SecurityProfileApplicability
  endpointRefs : List EndpointRef := []
  requiredCapabilityIds : List String := []
  specificationVersions : List String := []
  deriving DecidableEq, Repr

/-- Implementation capability scoped to endpoint operations (`EndpointCapability`). -/
structure EndpointCapability where
  capabilityId : String
  label : String
  description : String
  required : Bool
  endpointRefs : List EndpointRef
  deriving DecidableEq, Repr

/-- Runtime data required to execute a test case (`RuntimeInputRequirement`). -/
structure RuntimeInputRequirement where
  inputId : String
  inputType : RuntimeInputType
  label : String
  required : Bool := true
  sensitive : Bool := false
  description : Option String := none
  source : RuntimeInputSource := .plan
  deriving DecidableEq, Repr

/-- Parent-group metadata of related cases (`CatalogueTraceGroup`). -/
structure CatalogueTraceGroup where
  groupId : String := ""
  name : String := ""
  intent : String := ""
  sourceSymbol : String := ""
  normativeReferenceIds : List String := []
  absenceBehavior : GateAbsenceBehavior := .exclude
  deriving DecidableEq, Repr

/-- Ordered step of an adapter-executed case (`CatalogueExecutionStep`). -/
structure CatalogueExecutionStep where
  stepId : String
  definitionId : String
  name : String
  kind : ExecutionStepKind
  expectedStatus : Option Int := none
  variant : Option String := none
  deviationId : Option String := none
  deriving DecidableEq, Repr

/-- Metadata of a generated PSU authorisation flow (`CataloguePsuAuthorization`). -/
structure CataloguePsuAuthorization where
  authorizationStepId : String
  authorizationStepName : String
  tokenStepId : String
  tokenId : String
  flowLabel : String
  deriving DecidableEq, Repr

/-- Request skeleton of a test case (`CatalogueRequestStep`), with the fields that decide
    which steps a plan expands to. -/
structure CatalogueRequestStep where
  stepId : String
  name : String
  method : HttpMethod
  path : String
  requiredTokenId : Option String := none
  producedTokenId : Option String := none
  psuAuthorization : Option CataloguePsuAuthorization := none
  requiredPsuAuthorizationStepId : Option String := none
  deriving DecidableEq, Repr

/-- Assertion attached to a test case (`CatalogueAssertion`). -/
structure CatalogueAssertion where
  assertionId : String
  deriving DecidableEq, Repr

/-- Conformance test case selected by the compiler (`CatalogueTestCase`). -/
structure CatalogueTestCase where
  testCaseId : String
  name : String := ""
  role : TestCaseRole := .resource
  complianceScope : List String := []
  applicability : TestCaseApplicability
  mandatory : Bool
  dependencies : List String := []
  runtimeInputRequirements : List RuntimeInputRequirement := []
  requestSteps : List CatalogueRequestStep := []
  assertions : List CatalogueAssertion := []
  traceGroup : Option CatalogueTraceGroup := none
  executionSteps : List CatalogueExecutionStep := []
  expectedHttpStatuses : List Int := []
  gateAbsenceBehavior : GateAbsenceBehavior := .exclude
  deriving DecidableEq, Repr

/-- Pinned source provenance of a catalogue (`CatalogueProvenance`). -/
structure CatalogueProvenance where
  repository : String
  release : String
  commit : String
  sourcePaths : List String
  references : Dict String String := .empty

/-- `==` on two provenance records. -/
def CatalogueProvenance.pyEq (a b : CatalogueProvenance) : Bool :=
  a.repository == b.repository && a.release == b.release && a.commit == b.commit &&
    a.sourcePaths == b.sourcePaths && mappingEq a.references b.references

/-- Versioned catalogue of one standard/version/API boundary (`TestCatalogue`). -/
structure TestCatalogue where
  key : CatalogueKey
  catalogueVersion : String
  testCases : List CatalogueTestCase
  capabilities : List EndpointCapability := []
  provenance : Option CatalogueProvenance := none

/-- Assertion override request (`AssertionOverride`). -/
structure AssertionOverride where
  testCaseId : String
  assertionId : String
  reason : String
  deriving DecidableEq, Repr

/-- Participant-authored input to the compiler (`TestPlanSpec`). -/
structure TestPlanSpec where
  catalogueKey : CatalogueKey
  securityProfile : SecurityProfile
  implementedEndpoints : List ImplementedEndpoint
  runtimeInputs : Dict String Json
  specificationVersion : Option String := none
  deselectedTestCaseIds : List String := []
  assertionOverrides : List AssertionOverride := []

/-- Trace-safe runtime input snapshot entry (`RuntimeInputTrace`). -/
structure RuntimeInputTrace where
  inputId : String
  inputType : RuntimeInputType
  required : Bool
  sensitive : Bool
  provided : Bool
  value : Option Json

/-- Normalised endpoint capability of a compiled plan (`EndpointCapabilitySelection`). -/
structure EndpointCapabilitySelection where
  method : HttpMethod
  path : String
  capabilityId : String
  label : String
  required : Bool
  deriving DecidableEq, Repr

/-- Traceability decision for one test case (`ApplicabilityDecision`). -/
structure ApplicabilityDecision where
  testCaseId : String
  selected : Bool
  reason : String
  dependencyOf : List String := []
  deriving DecidableEq, Repr

/-- Audit metadata of a compiled plan (`CompilerTraceability`). -/
structure CompilerTraceability where
  catalogueKey : CatalogueKey
  catalogueVersion : String
  securityProfile : SecurityProfile
  selectedEndpoints : List ImplementedEndpoint
  selectedCapabilities : List EndpointCapabilitySelection
  applicabilityDecisions : List ApplicabilityDecision
  generatedTestCaseIds : List String
  runtimeInputSnapshot : List RuntimeInputTrace
  nonCertifyingReasons : List String
  provenance : Option CatalogueProvenance

/-- Executable graph generated from a catalogue and a plan spec (`CompiledTestPlan`). -/
structure CompiledTestPlan where
  catalogueKey : CatalogueKey
  catalogueVersion : String
  securityProfile : SecurityProfile
  testCases : List CatalogueTestCase
  traceability : CompilerTraceability
  certifying : Bool
  skippedTestCases : List CatalogueTestCase

end Conformance
