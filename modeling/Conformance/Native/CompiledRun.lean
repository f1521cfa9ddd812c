import Conformance.Native.DcrExecution
import Conformance.Native.Executor
import Conformance.Native.Trace

/-!
# Runs of a compiled plan

`run_compiled_test_plan` of `conformance/executor.py`: a DCR plan goes to its
adapter, every other plan through the synthetic manifest and the manifest executor.
-/

namespace Conformance

/-- `request_metadata`: the last request step of an id counts. -/
def requestMetadata (plan : CompiledTestPlan) : Dict String JsonObject :=
  (plan.testCases.flatMap fun testCase =>
    testCase.requestSteps.map fun requestStep => (testCase, requestStep)).foldl
    (fun metadata entry => metadata.set entry.2.stepId
      [("testCaseId", .str entry.1.testCaseId), ("requestStepId", .str entry.2.stepId),
        ("role", .str entry.1.role.text),
        ("complianceScope", .arr (entry.1.complianceScope.map Json.str))]) .empty

/-- `_attach_catalogue_evidence_to_steps`. -/
def attachCatalogueEvidenceToSteps (steps : List StepResult) (plan : CompiledTestPlan) :
    List StepResult :=
  steps.map fun step =>
    match (requestMetadata plan).get? step.name with
    | none => step
    | some metadata => { step with details := setField step.details "catalogue" (.obj metadata) }

/-- `catalogue_key.api in {"dcr", "dynamic-client-registration"}`. -/
def CatalogueKey.IsDcr (key : CatalogueKey) : Prop :=
  key.api ∈ ["dcr", "dynamic-client-registration"]

instance (key : CatalogueKey) : Decidable key.IsDcr :=
  inferInstanceAs (Decidable (key.api ∈ ["dcr", "dynamic-client-registration"]))

/-- `_run_manifest_v1` for a compiled plan. -/
def runCompiledManifest {p : FieldParsers} (executor : StepExecutor p) (manifest : Manifest p)
    (testPlan : TestPlan) (approvedReleasePolicy : Option ApprovedReleasePolicy)
    (plan : CompiledTestPlan) (startedAt finishedAt : String) : Except PyError SmokeCheckResult := do
  let steps ← executeSchedule executor manifest testPlan
  return buildSmokeCheckResult (attachCatalogueEvidenceToSteps steps plan) startedAt finishedAt
    (some testPlan) approvedReleasePolicy manifest.certificationCoverage (some plan)
    plan.traceability.nonCertifyingReasons

/-- `run_compiled_test_plan`. -/
def runCompiledTestPlan {p : FieldParsers} (requests : CatalogueRequests p)
    (executor : StepExecutor p) (operations : DcrOperations) (plan : CompiledTestPlan)
    (approvedReleasePolicy : Option ApprovedReleasePolicy) (startedAt finishedAt : String) :
    Except PyError SmokeCheckResult := do
  let manifest ← compiledPlanToManifest requests plan
  if plan.catalogueKey.IsDcr then
    runDcrAdapter operations plan approvedReleasePolicy startedAt finishedAt
  else
    runCompiledManifest executor manifest (.defaultPlanFromManifest manifest)
      approvedReleasePolicy plan startedAt finishedAt

end Conformance
