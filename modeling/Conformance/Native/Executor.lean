import Conformance.ForStd.Except
import Conformance.Native.Results

/-!
# Manifest runs

`run_manifest` of `conformance/executor.py`: the selected setup steps one after
the other, then the execution groups, each from the context the setup left,
their results merged in manifest order.

What one step does over HTTP or through a PSU authorisation is a `StepExecutor`,
arbitrary in every theorem. A step is executed at most once in a run, so whatever
the groups, the clock and the bank under test do meanwhile, the outcomes of a run
are those of some executor.
-/

namespace Conformance

/-- What executing a step yields besides its name: the fields of the `StepResult`
    that every return of the step executors fills in. -/
structure StepOutcome where
  status : CheckStatus
  message : String
  url : Option String := none
  statusCode : Option Int := none
  details : JsonObject := []
  deriving Repr

/-- The per-step executors: `_execute_v1_step`, `_execute_v1_psu_step` and the loop of
    `_run_manifest_v0` over the tests of a v0 manifest. -/
structure StepExecutor (p : FieldParsers) where
  Context : Type
  initialContext : Context
  executeV1Step : ManifestStep p → Context → Except PyError (StepOutcome × Context)
  executeV1PsuStep : PsuAuthorizationStep p → Context → Except PyError (StepOutcome × Context)
  executeV0Tests : List p.Test → Context → Except PyError (List StepResult)

/-- `StepResult(name=manifest_step.id, ...)`. -/
def StepOutcome.toStepResult (outcome : StepOutcome) (name : String) : StepResult :=
  { name := name, status := outcome.status, message := outcome.message, url := outcome.url,
    statusCode := outcome.statusCode, details := outcome.details }

variable {p : FieldParsers} (executor : StepExecutor p)

/-- Dispatch on the kind of a step. -/
def dispatchStep (manifestStep : V1Step p) (context : executor.Context) :
    Except PyError (StepOutcome × executor.Context) :=
  match manifestStep with
  | .http step => executor.executeV1Step step context
  | .psuAuthorization step => executor.executeV1PsuStep step context

/-- `_execute_v1_manifest_step`. -/
def executeV1ManifestStep (manifestStep : V1Step p) (context : executor.Context) :
    Except PyError (StepResult × executor.Context) := do
  let (outcome, newContext) ← dispatchStep executor manifestStep context
  let stepResult := outcome.toStepResult manifestStep.id
  return (if manifestStep.mandatory then { stepResult with mandatory := true } else stepResult,
    newContext)

/-- `_execute_v1_step_sequence`. -/
def executeV1StepSequence (manifestSteps : List (V1Step p)) (context : executor.Context) :
    Except PyError (List StepResult × executor.Context) :=
  manifestSteps.foldlM (fun acc manifestStep => do
    let (stepResult, newContext) ← executeV1ManifestStep executor manifestStep acc.2
    return (acc.1 ++ [stepResult], newContext)) ([], context)

/-- `_execute_v1_group`. -/
def executeV1Group (manifestSteps : List (V1Step p)) (setupContext : executor.Context) :
    Except PyError (List StepResult) := do
  let (groupSteps, _) ← executeV1StepSequence executor manifestSteps setupContext
  return groupSteps

/-- `manifest_order`: the position of each step id. -/
def manifestOrder (manifest : Manifest p) : Dict String Nat :=
  manifest.steps.zipIdx.foldl (fun order entry => order.set entry.1.id entry.2) .empty

/-- The key the merged results are sorted by. -/
def manifestIndex (manifest : Manifest p) (step : StepResult) : Nat :=
  ((manifestOrder manifest).get? step.name).getD (manifestOrder manifest).size

/-- `_execute_v1_execution_groups_concurrently`. Every group starts from the setup
    context and shares nothing mutable; the futures are read in group order, and
    `list.sort` is stable. -/
def executeV1ExecutionGroupsConcurrently (groups : List (ExecutionGroup p))
    (setupContext : executor.Context) (manifest : Manifest p) :
    Except PyError (List StepResult) := do
  let completed ← groups.mapM fun group => executeV1Group executor group.steps setupContext
  return completed.flatten.insertionSort fun a b =>
    manifestIndex manifest a ≤ manifestIndex manifest b

/-- The step results of `_run_manifest_v1`. -/
def executeSchedule (manifest : Manifest p) (plan : TestPlan) : Except PyError (List StepResult) := do
  let schedule := buildExecutionSchedule manifest plan
  let (setupSteps, context) ←
    executeV1StepSequence executor schedule.setupSteps executor.initialContext
  let executionSteps ←
    executeV1ExecutionGroupsConcurrently executor schedule.executionGroups context manifest
  return setupSteps ++ executionSteps

/-- `_run_manifest_v1`, for a run without a compiled plan. -/
def runManifestV1 (manifest : Manifest p) (plan : TestPlan)
    (approvedReleasePolicy : Option ApprovedReleasePolicy) (startedAt finishedAt : String) :
    Except PyError SmokeCheckResult := do
  let steps ← executeSchedule executor manifest plan
  return buildSmokeCheckResult steps startedAt finishedAt (some plan) approvedReleasePolicy
    manifest.certificationCoverage none []

/-- `_run_manifest_v0`. -/
def runManifestV0 (manifest : Manifest p) (approvedReleasePolicy : Option ApprovedReleasePolicy)
    (startedAt finishedAt : String) : Except PyError SmokeCheckResult := do
  let steps ← executor.executeV0Tests manifest.tests executor.initialContext
  return buildSmokeCheckResult steps startedAt finishedAt none approvedReleasePolicy
    .partialCoverage none []

/-- `run_manifest`. -/
def runManifest (manifest : Manifest p) (plan : Option TestPlan)
    (approvedReleasePolicy : Option ApprovedReleasePolicy) (startedAt finishedAt : String) :
    Except PyError SmokeCheckResult :=
  if manifest.schemaVersion = .v1 then
    runManifestV1 executor manifest (plan.getD (.defaultPlanFromManifest manifest))
      approvedReleasePolicy startedAt finishedAt
  else runManifestV0 executor manifest approvedReleasePolicy startedAt finishedAt

end Conformance
