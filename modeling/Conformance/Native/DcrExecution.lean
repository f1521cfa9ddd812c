import Conformance.Native.Results
import Conformance.Native.CompiledManifest

/-!
# Dynamic client registration runs

`DcrCatalogueExecutionAdapter` of `conformance/dcr_execution.py`: the scenarios of
a compiled DCR plan are run one after the other, each with a protocol state of its
own; a case is skipped when one of its prerequisites did not pass, and a case skips
its remaining steps after the first one that fails.

What one operation does against the bank is a `DcrOperations`, arbitrary in every
theorem. Its handlers report a step as passed or failed, nothing else.
-/

namespace Conformance

/-- What a handler reports about its step: every `_result` call of the handlers is made
    with status `passed` or `failed`. -/
structure DcrOutcome where
  passed : Bool
  message : String
  url : Option String := none
  statusCode : Option Int := none
  details : JsonObject := []
  deriving Repr

/-- The operations of the adapter below the level of a step. `World` holds what outlives
    a scenario: the discovery and key caches, the HTTP client and the bank itself. -/
structure DcrOperations where
  World : Type
  ScenarioState : Type
  newScenarioState : ScenarioState
  buildDcrMtlsClient : Except PyError World
  executeStepInner : CatalogueTestCase → CatalogueExecutionStep → World × ScenarioState →
    Except PyError DcrOutcome × (World × ScenarioState)
  bestEffortCleanup : String → World × ScenarioState → World

/-- `details.catalogue` of a DCR result. -/
def dcrCatalogueDetails (testCase : CatalogueTestCase) (step : CatalogueExecutionStep) :
    JsonObject :=
  [("testCaseId", .str testCase.testCaseId), ("executionStepId", .str step.stepId),
    ("role", .str testCase.role.text),
    ("complianceScope", .arr (testCase.complianceScope.map Json.str))] ++
  (testCase.traceGroup.map fun group => ("traceGroupId", Json.str group.groupId)).toList

/-- `_result`. -/
def dcrResult (testCase : CatalogueTestCase) (step : CatalogueExecutionStep) (status : CheckStatus)
    (message : String) (url : Option String) (statusCode : Option Int) (details : JsonObject) :
    StepResult where
  name := step.stepId
  status := status
  message := message
  url := url
  statusCode := statusCode
  details := setField details "catalogue" (.obj (dcrCatalogueDetails testCase step))
  mandatory := testCase.mandatory

/-- `_skipped_result`. -/
def dcrSkippedResult (testCase : CatalogueTestCase) (reason : String)
    (step : CatalogueExecutionStep) : StepResult :=
  dcrResult testCase step .skipped s!"Skipped: {reason}" none none
    [("skipReason", .str "failed-prerequisite")]

/-- The text of an exception that `_execute_step` turns into a failed result. -/
def PyError.dcrFailure? : PyError → Option String
  | .dcrExecutionError message => some message
  | .jsonHttpClientError message => some message
  | .httpsUrlValidationError message => some message
  | _ => none

section Adapter

variable (operations : DcrOperations)

/-- The mutable values of a running scenario. -/
abbrev DcrState := operations.World × operations.ScenarioState

/-- `_execute_step`. -/
def executeDcrStep (testCase : CatalogueTestCase) (step : CatalogueExecutionStep)
    (state : DcrState operations) : Except PyError (StepResult × DcrState operations) :=
  match operations.executeStepInner testCase step state with
  | (.ok outcome, state') =>
    .ok (dcrResult testCase step (if outcome.passed then .passed else .failed) outcome.message
      outcome.url outcome.statusCode outcome.details, state')
  | (.error error, state') =>
    match error.dcrFailure? with
    | some message => .ok (dcrResult testCase step .failed message none none [], state')
    | none => .error error

/-- The variables of the loop of `_run_case`. -/
structure DcrCaseRun where
  results : List StepResult := []
  failureStep : Option String := none
  state : DcrState operations

/-- One round of the loop of `_run_case`. -/
def runDcrCaseStep (testCase : CatalogueTestCase) (run : DcrCaseRun operations)
    (step : CatalogueExecutionStep) : Except PyError (DcrCaseRun operations) :=
  match run.failureStep with
  | some failureStep =>
    .ok { run with results := run.results ++
      [dcrSkippedResult testCase s!"earlier step {failureStep} failed" step] }
  | none => do
    let (result, state) ← executeDcrStep operations testCase step run.state
    return {
      results := run.results ++ [result]
      failureStep := if result.status ≠ .passed then some step.stepId else none
      state := state }

/-- `_run_case`. -/
def runDcrCase (testCase : CatalogueTestCase) (state : DcrState operations) :
    Except PyError (DcrCaseRun operations) :=
  testCase.executionSteps.foldlM (runDcrCaseStep operations testCase) { state := state }

/-- The variables of the loops of `_run_scenarios`. -/
structure DcrRun where
  results : List StepResult := []
  caseStatuses : Dict String CheckStatus := .empty
  world : operations.World

/-- `dependency_failure`: the first prerequisite that has not passed. -/
def dependencyFailure (caseStatuses : Dict String CheckStatus) (testCase : CatalogueTestCase) :
    Option String :=
  testCase.dependencies.find? fun dependency => caseStatuses.get? dependency ≠ some .passed

/-- The results of one case and the state it leaves. -/
def dcrCaseResults (caseStatuses : Dict String CheckStatus) (testCase : CatalogueTestCase)
    (state : DcrState operations) : Except PyError (List StepResult × DcrState operations) :=
  match dependencyFailure caseStatuses testCase with
  | some dependency =>
    .ok (testCase.executionSteps.map
      (dcrSkippedResult testCase s!"prerequisite case {dependency} did not pass"), state)
  | none => do
    let caseRun ← runDcrCase operations testCase state
    return (caseRun.results, caseRun.state)

/-- The loop over the cases of one scenario. -/
def runDcrScenarioCase (acc : DcrRun operations × operations.ScenarioState)
    (testCase : CatalogueTestCase) :
    Except PyError (DcrRun operations × operations.ScenarioState) := do
  let (run, scenarioState) := acc
  let (caseResults, state) ←
    dcrCaseResults operations run.caseStatuses testCase (run.world, scenarioState)
  return ({
    results := run.results ++ caseResults
    caseStatuses := run.caseStatuses.set testCase.testCaseId
      (if caseResults.all fun result => result.status = .passed then .passed else .failed)
    world := state.1 }, state.2)

/-- One round of the loop over the scenarios. -/
def runDcrScenario (run : DcrRun operations) (scenario : String × List CatalogueTestCase) :
    Except PyError (DcrRun operations) := do
  let (run, scenarioState) ←
    scenario.2.foldlM (runDcrScenarioCase operations) (run, operations.newScenarioState)
  return { run with
    world := operations.bestEffortCleanup scenario.1 (run.world, scenarioState) }

end Adapter

/-- `grouped_cases` of `_run_scenarios`. -/
def dcrScenarios (plan : CompiledTestPlan) :
    Except PyError (Dict String (List CatalogueTestCase)) :=
  plan.testCases.foldlM (fun grouped testCase =>
    match testCase.traceGroup with
    | none => .error (.dcrExecutionError
        s!"DCR case {testCase.testCaseId} is missing scenario trace metadata")
    | some group => .ok (grouped.set group.groupId
        ((grouped.get? group.groupId).getD [] ++ [testCase]))) .empty

/-- `_run_scenarios`. -/
def runDcrScenarios (operations : DcrOperations) (plan : CompiledTestPlan)
    (world : operations.World) : Except PyError (List StepResult) := do
  let scenarios ← dcrScenarios plan
  let run ← scenarios.entries.foldlM (runDcrScenario operations) { world := world }
  return run.results

/-- The step ids of the compiled cases. -/
def CompiledTestPlan.executionStepIds (plan : CompiledTestPlan) : List String :=
  plan.testCases.flatMap fun testCase => testCase.executionSteps.map (·.stepId)

/-- The endpoint gate of one compiled case. -/
def checkDcrEndpointGate (selectedRefs : List EndpointRef) (testCase : CatalogueTestCase) :
    Except PyError Unit :=
  Except.raiseIf (¬ ∀ ref ∈ testCase.applicability.endpointRefs, ref ∈ selectedRefs)
    (.dcrExecutionError (s!"Compiled DCR case {testCase.testCaseId} violates participant " ++
      "endpoint selection"))

/-- `_validate_plan_boundary`. -/
def validateDcrPlanBoundary (plan : CompiledTestPlan) : Except PyError Unit := do
  let key := plan.catalogueKey
  Except.raiseIf (key.api ∉ ["dcr", "dynamic-client-registration"] ∨ key.version ∉ ["v3.4", "3.4"])
    (.dcrExecutionError "DCR execution adapter requires the Open Banking DCR 3.4 catalogue")
  let selectedRefs : List EndpointRef := plan.traceability.selectedEndpoints.map (·.ref)
  let caseIds : List String := plan.testCases.map (·.testCaseId)
  let stepIds : List String := plan.executionStepIds
  Except.raiseIf (¬ caseIds.Nodup ∨ ¬ stepIds.Nodup)
    (.dcrExecutionError "Compiled DCR catalogue contains duplicate case or step identifiers")
  forM plan.testCases (checkDcrEndpointGate selectedRefs)
  -- a full selection has to compile the pinned inventory
  let selectedMethods : List HttpMethod := selectedRefs.map (·.method)
  let scenarioIds := (plan.testCases.filterMap fun testCase =>
    testCase.traceGroup.map (·.groupId)).dedup
  Except.raiseIf (.post ∈ selectedMethods ∧ .get ∈ selectedMethods ∧ .put ∈ selectedMethods ∧
      .delete ∈ selectedMethods ∧ .patch ∉ selectedMethods ∧
      (scenarioIds.length ≠ 10 ∨ caseIds.length ≠ 34 ∨ stepIds.length ≠ 79))
    (.dcrExecutionError
      "Full DCR endpoint selection must compile exactly 10 scenarios, 34 cases, 79 steps")

/-- `DcrCatalogueExecutionAdapter.run`. -/
def runDcrAdapter (operations : DcrOperations) (plan : CompiledTestPlan)
    (approvedReleasePolicy : Option ApprovedReleasePolicy) (startedAt finishedAt : String) :
    Except PyError SmokeCheckResult := do
  validateDcrPlanBoundary plan
  let world ← operations.buildDcrMtlsClient
  let steps ← runDcrScenarios operations plan world
  return buildSmokeCheckResult steps startedAt finishedAt none approvedReleasePolicy .complete
    (some plan) plan.traceability.nonCertifyingReasons

end Conformance
