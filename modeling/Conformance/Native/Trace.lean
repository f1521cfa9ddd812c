import Conformance.Native.CompiledManifest
import Conformance.Native.Results

/-!
# The catalogue block of a report

`_compiled_plan_to_json_object` of `conformance/results.py`: the traceability of a
compiled plan, with the outcome of every traced scenario, case and step.
-/

namespace Conformance

/-- `_aggregate_trace_status`. -/
def aggregateTraceStatus (statuses : List CheckStatus) : CheckStatus :=
  if .failed ∈ statuses then .failed
  else if .warn ∈ statuses then .warn
  else if .passed ∈ statuses then .passed
  else .skipped

/-- `result_by_step_id`: the last result of a name counts. -/
def resultByStepId (steps : List StepResult) : Dict String StepResult :=
  steps.foldl (fun byId step => byId.set step.name step) .empty

/-- An entry that is present when its value is. -/
def optionalField {α : Type} (key : String) (render : α → Json) (value : Option α) : JsonObject :=
  (value.map fun v => (key, render v)).toList

/-- `{"skipReason": "endpoint-not-selected"}` of an unselected case. -/
def skipReasonField (unselected : Bool) : JsonObject :=
  if unselected then [("skipReason", .str "endpoint-not-selected")] else []

/-! ## Steps and cases -/

/-- The status a traced step is shown with. -/
def traceStepStatus (caseIsUnselected : Bool) (stepResult : Option StepResult) : CheckStatus :=
  if caseIsUnselected then .skipped else (stepResult.map (·.status)).getD .skipped

/-- The trace entry of one execution step. -/
def renderTraceStep (caseIsUnselected : Bool) (results : Dict String StepResult)
    (executionStep : CatalogueExecutionStep) : JsonObject :=
  let stepResult := results.get? executionStep.stepId
  [("stepId", .str executionStep.stepId),
    ("definitionId", .str executionStep.definitionId),
    ("name", .str executionStep.name),
    ("kind", .str executionStep.kind.text),
    ("status", .str (traceStepStatus caseIsUnselected stepResult).text)] ++
  optionalField "expectedStatus" Json.int executionStep.expectedStatus ++
  optionalField "actualStatusCode" Json.int (stepResult.bind (·.statusCode)) ++
  optionalField "message" Json.str (stepResult.map (·.message)) ++
  optionalField "variant" Json.str executionStep.variant ++
  optionalField "deviationId" Json.str executionStep.deviationId ++
  skipReasonField caseIsUnselected

/-- `skipped_ids`. -/
def CompiledTestPlan.skippedIds (plan : CompiledTestPlan) : List String :=
  plan.skippedTestCases.map (·.testCaseId)

/-- Whether a traced case was left out because its endpoint is not selected. -/
def CompiledTestPlan.caseIsUnselected (plan : CompiledTestPlan) (testCase : CatalogueTestCase) :
    Bool :=
  testCase.testCaseId ∈ plan.skippedIds

/-- `case_status`. -/
def traceCaseStatus (plan : CompiledTestPlan) (results : Dict String StepResult)
    (testCase : CatalogueTestCase) : CheckStatus :=
  aggregateTraceStatus (testCase.executionSteps.map fun executionStep =>
    traceStepStatus (plan.caseIsUnselected testCase) (results.get? executionStep.stepId))

/-- The trace entry of one case. -/
def renderTraceCase (plan : CompiledTestPlan) (results : Dict String StepResult)
    (testCase : CatalogueTestCase) : JsonObject :=
  [("testCaseId", .str testCase.testCaseId),
    ("name", .str testCase.name),
    ("role", .str testCase.role.text),
    ("mandatory", .bool testCase.mandatory),
    ("status", .str (traceCaseStatus plan results testCase).text),
    ("complianceScope", .arr (testCase.complianceScope.map Json.str)),
    ("expectedHttpStatuses", .arr (testCase.expectedHttpStatuses.map Json.int))] ++
  skipReasonField (plan.caseIsUnselected testCase) ++
  [("steps", .arr (testCase.executionSteps.map fun executionStep =>
    .obj (renderTraceStep (plan.caseIsUnselected testCase) results executionStep)))]

/-! ## Groups -/

/-- A trace group with the cases gathered under its id. Its metadata are those of the
    first case. -/
structure TracedGroup where
  metadata : CatalogueTraceGroup
  testCases : List CatalogueTestCase

/-- `trace_cases`: the compiled and the skipped cases, sorted by id. -/
def traceCases (plan : CompiledTestPlan) : List CatalogueTestCase :=
  (plan.testCases ++ plan.skippedTestCases).insertionSort fun a b => a.testCaseId ≤ b.testCaseId

/-- One round of the loop over the traced cases. -/
def addTracedCase (groups : Dict String TracedGroup) (testCase : CatalogueTestCase) :
    Dict String TracedGroup :=
  match testCase.traceGroup with
  | none => groups
  | some traceGroup =>
    match groups.get? traceGroup.groupId with
    | none => groups.set traceGroup.groupId ⟨traceGroup, [testCase]⟩
    | some group =>
      groups.set traceGroup.groupId { group with testCases := group.testCases ++ [testCase] }

/-- `grouped_cases`, `group_metadata` and `group_order`, as one dictionary. -/
def tracedGroups (plan : CompiledTestPlan) : Dict String TracedGroup :=
  (traceCases plan).foldl addTracedCase .empty

/-- `group_status`, from the statuses the cases were rendered with. -/
def traceGroupStatus (plan : CompiledTestPlan) (results : Dict String StepResult)
    (group : TracedGroup) : CheckStatus :=
  aggregateTraceStatus (group.testCases.map (traceCaseStatus plan results))

/-- The trace entry of one group. -/
def renderTraceGroup (plan : CompiledTestPlan) (results : Dict String StepResult)
    (group : TracedGroup) : JsonObject :=
  [("traceGroupId", .str group.metadata.groupId),
    ("name", .str group.metadata.name),
    ("intent", .str group.metadata.intent),
    ("sourceSymbol", .str group.metadata.sourceSymbol),
    ("normativeReferenceIds", .arr (group.metadata.normativeReferenceIds.map Json.str)),
    ("status", .str (traceGroupStatus plan results group).text)] ++
  skipReasonField (traceGroupStatus plan results group = .skipped) ++
  [("testCases", .arr (group.testCases.map fun testCase =>
    .obj (renderTraceCase plan results testCase)))]

/-- `_compiled_trace_groups_to_json_object`. -/
def compiledTraceGroupsToJsonObject (plan : CompiledTestPlan) (steps : List StepResult) :
    List Json :=
  (tracedGroups plan).values.map fun group =>
    .obj (renderTraceGroup plan (resultByStepId steps) group)

/-! ## The block -/

/-- The report entry of a selected endpoint. -/
def ImplementedEndpoint.toJsonObject (endpoint : ImplementedEndpoint) : JsonObject :=
  [("method", .str endpoint.method.text), ("path", .str endpoint.path),
    ("resourceGroup", .str endpoint.resourceGroup)] ++
  (if endpoint.capabilityIds = [] then []
    else [("capabilities", .arr (endpoint.capabilityIds.map Json.str))]) ++
  optionalField "operationId" Json.str endpoint.operationId

/-- The report entry of a selected capability. -/
def EndpointCapabilitySelection.toJsonObject (selection : EndpointCapabilitySelection) :
    JsonObject :=
  [("method", .str selection.method.text), ("path", .str selection.path),
    ("capabilityId", .str selection.capabilityId), ("label", .str selection.label),
    ("required", .bool selection.required)]

/-- The report entry of an applicability decision. -/
def ApplicabilityDecision.toJsonObject (decision : ApplicabilityDecision) : JsonObject :=
  [("testCaseId", .str decision.testCaseId), ("selected", .bool decision.selected),
    ("reason", .str decision.reason), ("dependencyOf", .arr (decision.dependencyOf.map Json.str))]

/-- The report entry of a runtime input. -/
def RuntimeInputTrace.toJsonObject (trace : RuntimeInputTrace) : JsonObject :=
  [("inputId", .str trace.inputId), ("inputType", .str trace.inputType.text),
    ("required", .bool trace.required), ("sensitive", .bool trace.sensitive),
    ("provided", .bool trace.provided)] ++
  optionalField "value" (fun value => value) trace.value

/-- The report entry of a catalogue's provenance. -/
def CatalogueProvenance.toJsonObject (provenance : CatalogueProvenance) : JsonObject :=
  [("repository", .str provenance.repository), ("release", .str provenance.release),
    ("commit", .str provenance.commit), ("sourcePaths", .arr (provenance.sourcePaths.map Json.str)),
    ("references", .obj (provenance.references.entries.map fun entry => (entry.1, .str entry.2)))]

/-- `_compiled_plan_to_json_object`. -/
def compiledPlanToJsonObject (plan : CompiledTestPlan) (steps : List StepResult) : JsonObject :=
  let traceability := plan.traceability
  let traceGroups := compiledTraceGroupsToJsonObject plan steps
  [("standard", .str traceability.catalogueKey.standard),
    ("version", .str traceability.catalogueKey.version),
    ("api", .str traceability.catalogueKey.api),
    ("catalogueVersion", .str traceability.catalogueVersion),
    ("securityProfile", .str traceability.securityProfile.text),
    ("certifying", .bool plan.certifying),
    ("generatedTestCaseIds", .arr (traceability.generatedTestCaseIds.map Json.str)),
    ("skippedTestCaseIds", .arr (plan.skippedIds.map Json.str)),
    ("selectedEndpoints", .arr (traceability.selectedEndpoints.map fun endpoint =>
      .obj endpoint.toJsonObject)),
    ("selectedCapabilities", .arr (traceability.selectedCapabilities.map fun selection =>
      .obj selection.toJsonObject)),
    ("applicabilityDecisions", .arr (traceability.applicabilityDecisions.map fun decision =>
      .obj decision.toJsonObject)),
    ("runtimeInputSnapshot", .arr (traceability.runtimeInputSnapshot.map fun trace =>
      .obj trace.toJsonObject)),
    ("nonCertifyingReasons", .arr (traceability.nonCertifyingReasons.map Json.str))] ++
  optionalField "provenance" (fun provenance => .obj provenance.toJsonObject)
    traceability.provenance ++
  (if traceGroups = [] then [] else [("traceGroups", .arr traceGroups)])

end Conformance
