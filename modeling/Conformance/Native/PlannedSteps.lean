import Conformance.Native.CompiledManifest
import Conformance.Native.RunStore

/-!
# Planned-step snapshots

`_compiled_plan_steps_snapshot` of `conformance/api/run_lifecycle.py`: the rows a
run record shows before the run starts. The module re-derives the expansion of the
compiled plan with its own constants; only the synthetic token steps and the inline
authorisation steps come from the executor.
-/

namespace Conformance.PlannedSteps

/-- `_AIS_CONSENT_TEMPLATE_STEP_ID`. -/
def aisConsentTemplateStepId : String := "ais-at-setup-consent-request"

/-- `_AIS_TOKEN_TEMPLATE_STEP_ID`. -/
def aisTokenTemplateStepId : String := "ais-at-setup-token-request"

/-- `_AIS_PERMISSION_PROFILE_TOKEN_IDS`, in insertion order. -/
def aisPermissionProfileTokenIds : List (String × String) :=
  [("basic", "ais-account-access-basic"), ("detail", "ais-account-access-detail")]

/-- `_manifest_step_kind`. -/
def manifestStepKind {p : FieldParsers} : V1Step p → String
  | .psuAuthorization _ => "psu-authorization"
  | .http _ => "http"

/-- The text of a phase in run records. -/
def phaseText : StepPhase → String
  | .setup => "setup"
  | .execution => "execution"

/-- `_compiled_plan_ais_permission_profiles`. -/
def compiledPlanAisPermissionProfiles (plan : CompiledTestPlan) : List String :=
  (aisPermissionProfileTokenIds.filter fun entry => plan.requiresToken entry.2).map Prod.fst

/-- The row of a manifest step. -/
def rowOfManifestStep {p : FieldParsers} (step : V1Step p) (order : Nat) : RunPlanStep where
  stepId := step.id
  name := step.name
  kind := manifestStepKind step
  group := some step.group
  phase := some (phaseText step.phase)
  mandatory := step.mandatory
  optional := step.optional
  order := order

/-- Rows numbered from `startOrder` on. -/
def numbered (rows : List (Nat → RunPlanStep)) (startOrder : Nat) : List RunPlanStep :=
  (rows.zipIdx startOrder).map fun entry => entry.1 entry.2

/-- A row that replaces an AIS template step for one permission profile. -/
def replacementRow (stepId name kind group : String) (order : Nat) : RunPlanStep where
  stepId := stepId
  name := name
  kind := kind
  group := some group
  phase := some "setup"
  mandatory := true
  optional := false
  order := order

/-- `_compiled_plan_replacement_steps_snapshot`. -/
def compiledPlanReplacementStepsSnapshot (plan : CompiledTestPlan)
    (requestStep : CatalogueRequestStep) (startOrder : Nat) : List RunPlanStep :=
  let profiles := compiledPlanAisPermissionProfiles plan
  if requestStep.stepId = aisConsentTemplateStepId then
    numbered (profiles.flatMap fun profile =>
      [replacementRow s!"ais-at-setup-{profile}-consent-request"
          s!"Create AIS {profile} account-access consent" "http"
          s!"ais-at-setup-{profile}-consent",
        replacementRow s!"setup-ais-{profile}-consent-authorisation"
          s!"Authorise AIS {profile} account-access consent" "psu-authorization"
          s!"ais-at-setup-{profile}-consent"]) startOrder
  else if requestStep.stepId = aisTokenTemplateStepId then
    numbered (profiles.map fun profile =>
      replacementRow s!"ais-at-setup-{profile}-token-request"
        s!"Exchange AIS {profile} authorisation code for account-access token" "http"
        s!"ais-at-setup-{profile}-token") startOrder
  else []

/-- The row of a request step that is executed as it stands. -/
def requestStepRow (testCase : CatalogueTestCase) (requestStep : CatalogueRequestStep)
    (order : Nat) : RunPlanStep where
  stepId := requestStep.stepId
  name := requestStep.name
  kind := "http"
  group := some testCase.testCaseId
  phase := some (if testCase.role ∈ [TestCaseRole.setup, .security, .token] then "setup"
    else "execution")
  mandatory := testCase.mandatory
  optional := !testCase.mandatory
  order := order

/-- The row of an adapter-executed step. -/
def executionStepRow (testCase : CatalogueTestCase) (executionStep : CatalogueExecutionStep)
    (order : Nat) : RunPlanStep :=
  let traceGroupId := (testCase.traceGroup.map (·.groupId)).getD "catalogue"
  { stepId := executionStep.stepId
    name := executionStep.name
    kind := executionStep.kind.text
    group := some (traceGroupId ++ " / " ++ testCase.testCaseId)
    phase := some testCase.role.text
    mandatory := testCase.mandatory
    optional := !testCase.mandatory
    order := order }

section Snapshot

variable {p : FieldParsers} (requests : CatalogueRequests p)

/-- `_compiled_plan_inline_steps_snapshot`. -/
def compiledPlanInlineStepsSnapshot (plan : CompiledTestPlan) (requestStep : CatalogueRequestStep)
    (startOrder : Nat) : List RunPlanStep :=
  numbered ((compiledPlanSyntheticInlineSteps requests plan requestStep).map rowOfManifestStep)
    startOrder

/-- The body of the loop over the request steps of a case. -/
def addRequestStep (plan : CompiledTestPlan) (testCase : CatalogueTestCase)
    (plannedSteps : List RunPlanStep) (requestStep : CatalogueRequestStep) : List RunPlanStep :=
  match compiledPlanReplacementStepsSnapshot plan requestStep plannedSteps.length with
  -- no replacement: the step is listed as it stands
  | [] =>
    let listed := plannedSteps ++ [requestStepRow testCase requestStep plannedSteps.length]
    listed ++ compiledPlanInlineStepsSnapshot requests plan requestStep listed.length
  | replacementSteps => plannedSteps ++ replacementSteps

/-- The body of the loop over the compiled cases. -/
def addTestCase (plan : CompiledTestPlan) (plannedSteps : List RunPlanStep)
    (testCase : CatalogueTestCase) : List RunPlanStep :=
  if testCase.executionSteps ≠ [] then
    plannedSteps ++ numbered (testCase.executionSteps.map (executionStepRow testCase))
      plannedSteps.length
  else testCase.requestSteps.foldl (addRequestStep requests plan testCase) plannedSteps

/-- `_compiled_plan_steps_snapshot`. -/
def compiledPlanStepsSnapshot (plan : CompiledTestPlan) : List RunPlanStep :=
  plan.testCases.foldl (addTestCase requests plan)
    (numbered ((compiledPlanSyntheticSetupSteps requests plan).map fun step =>
      rowOfManifestStep (.http step)) 0)

end Snapshot

end Conformance.PlannedSteps
