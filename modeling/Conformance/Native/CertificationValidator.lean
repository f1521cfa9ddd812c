import Conformance.ForStd.Except
import Conformance.Native.Results

/-!
# Certification validation

`conformance/certification_validator.py`: a submitted report JSON is parsed again
from scratch and judged against the manifest of the run and the release policy,
without looking at the eligibility the report claims for itself.
-/

namespace Conformance.CertificationValidator

/-- One step of a submitted report. -/
structure ReportStep where
  stepId : String
  status : CheckStatus
  deriving DecidableEq, Repr

/-- A submitted report, as far as the validator reads it. -/
structure SubmittedReport where
  reportVersion : String
  toolVersion : String
  steps : List ReportStep
  deriving DecidableEq, Repr

/-- The status of a mandatory step in a submitted report. -/
inductive MandatoryValidationStatus where
  | reported (status : CheckStatus)
  | missing
  deriving DecidableEq, Repr

/-- Machine-readable blocking reasons. -/
inductive CertificationValidationReason where
  | toolVersionNotApproved
  | mandatoryStepMissing
  | mandatoryStepFailed
  | mandatoryStepSkipped
  | manifestCoveragePartial
  deriving DecidableEq, Repr

/-- The outcome for one mandatory manifest step. -/
structure MandatoryStepValidation where
  stepId : String
  status : MandatoryValidationStatus
  reason : Option CertificationValidationReason := none
  deriving DecidableEq, Repr

/-- The structured result of a validation. -/
structure CertificationValidationResult where
  valid : Bool
  reportVersion : String
  toolVersion : String
  toolVersionApproved : Bool
  policySchemaVersion : String
  mandatorySteps : List MandatoryStepValidation
  reasons : List CertificationValidationReason
  manifestCoverage : CertificationCoverage
  deriving DecidableEq, Repr

/-! ## Reading fields -/

/-- `_as_object`. Decoded JSON objects have string keys, so the check of the keys
    never fires. -/
def asObject (value : Json) (location : String) : Except PyError JsonObject :=
  match value with
  | .obj fields => .ok fields
  | _ => .error (.certificationValidationError s!"{location} must be a JSON object")

/-- `parent[key]` of a required key. -/
def requiredField (parent : JsonObject) (key location : String) : Except PyError Json :=
  match parent.lookup key with
  | none => .error (.certificationValidationError s!"{location}.{key} is required")
  | some value => .ok value

/-- `_required_object`. -/
def requiredObject (parent : JsonObject) (key location : String) : Except PyError JsonObject := do
  let value ← requiredField parent key location
  asObject value s!"{location}.{key}"

/-- `_required_array`. -/
def requiredArray (parent : JsonObject) (key location : String) : Except PyError (List Json) := do
  match ← requiredField parent key location with
  | .arr items => return items
  | _ => throw (.certificationValidationError s!"{location}.{key} must be a JSON array")

/-- `_required_non_empty_string`. -/
def requiredNonEmptyString (parent : JsonObject) (key location : String) :
    Except PyError String := do
  match ← requiredField parent key location with
  | .str value =>
    if strip value = "" then
      throw (.certificationValidationError s!"{location}.{key} must not be empty")
    else return strip value
  | _ => throw (.certificationValidationError s!"{location}.{key} must be a string")

/-- Membership in `VALID_REPORT_STEP_STATUSES`. -/
def reportStepStatus? (text : String) : Option CheckStatus :=
  [CheckStatus.passed, .failed, .warn, .skipped].find? fun status => status.text = text

/-- `_required_report_step_status`. -/
def requiredReportStepStatus (parent : JsonObject) (key location : String) :
    Except PyError CheckStatus := do
  let value ← requiredNonEmptyString parent key location
  match reportStepStatus? value with
  | some status => return status
  | none => throw (.certificationValidationError
      s!"{location}.{key} must be one of: failed, passed, skipped, warn")

/-! ## Submitted reports -/

/-- One round of the loop of `_parse_report_steps`, with `repr` for the `!r` of its
    message. -/
def parseReportStep (repr : Json → String) (steps : List ReportStep) (entry : Json × Nat) :
    Except PyError (List ReportStep) := do
  let index := entry.2
  let location := s!"report.steps[{index}]"
  let step ← asObject entry.1 location
  let stepId ← requiredNonEmptyString step "name" location
  let quoted := repr (.str stepId)
  Except.raiseIf (stepId ∈ steps.map ReportStep.stepId)
    (.certificationValidationError s!"{location}.name {quoted} is duplicated")
  let status ← requiredReportStepStatus step "status" location
  return steps ++ [⟨stepId, status⟩]

/-- `_parse_report_steps`. -/
def parseReportSteps (repr : Json → String) (rawSteps : List Json) :
    Except PyError (List ReportStep) :=
  rawSteps.zipIdx.foldlM (parseReportStep repr) []

/-- `parse_submitted_report`. -/
def parseSubmittedReport (repr : Json → String) (rawReport : Json) :
    Except PyError SubmittedReport := do
  let report ← asObject rawReport "report"
  let metadata ← requiredObject report "metadata" "report"
  let tool ← requiredObject report "tool" "report"
  let rawSteps ← requiredArray report "steps" "report"
  let reportVersion ← requiredNonEmptyString metadata "reportVersion" "report.metadata"
  let toolVersion ← requiredNonEmptyString tool "version" "report.tool"
  let steps ← parseReportSteps repr rawSteps
  return ⟨reportVersion, toolVersion, steps⟩

/-! ## Validation -/

/-- `mandatory_step_ids_from_manifest`. -/
def mandatoryStepIdsFromManifest {p : FieldParsers} (manifest : Manifest p) : List String :=
  if manifest.schemaVersion ≠ .v1 then []
  else (manifest.steps.filter V1Step.mandatory).map V1Step.id

/-- `_report_steps_by_id`. -/
def reportStepsById (steps : List ReportStep) : Dict String CheckStatus :=
  steps.foldl (fun byId step => byId.set step.stepId step.status) .empty

/-- `_validate_mandatory_step`. -/
def validateMandatoryStep (reportSteps : Dict String CheckStatus) (stepId : String) :
    MandatoryStepValidation :=
  match reportSteps.get? stepId with
  | none => ⟨stepId, .missing, some .mandatoryStepMissing⟩
  | some .failed => ⟨stepId, .reported .failed, some .mandatoryStepFailed⟩
  | some .skipped => ⟨stepId, .reported .skipped, some .mandatoryStepSkipped⟩
  | some status => ⟨stepId, .reported status, none⟩

/-- Append a reason that is not listed yet. -/
def addReason (reasons : List CertificationValidationReason) (step : MandatoryStepValidation) :
    List CertificationValidationReason :=
  match step.reason with
  | some reason => if reason ∈ reasons then reasons else reasons ++ [reason]
  | none => reasons

/-- `_validation_reasons`. -/
def validationReasons (mandatorySteps : List MandatoryStepValidation) (toolVersionApproved : Bool)
    (manifestCoveragePartial : Bool) : List CertificationValidationReason :=
  mandatorySteps.foldl addReason (if toolVersionApproved then [] else [.toolVersionNotApproved]) ++
    if manifestCoveragePartial then [.manifestCoveragePartial] else []

/-- `validate_report`. -/
def validateReport {p : FieldParsers} (report : SubmittedReport) (manifest : Manifest p)
    (policy : ApprovedReleasePolicy) : Except PyError CertificationValidationResult := do
  let mandatoryStepIds := mandatoryStepIdsFromManifest manifest
  Except.raiseIf (mandatoryStepIds = []) (.certificationValidationError
    "manifest does not declare any mandatory certification steps")
  let reportSteps := reportStepsById report.steps
  let mandatoryStepResults := mandatoryStepIds.map (validateMandatoryStep reportSteps)
  let toolVersionApproved := policy.isToolVersionApproved report.toolVersion
  let reasons := validationReasons mandatoryStepResults toolVersionApproved
    (manifest.certificationCoverage ≠ .complete)
  return {
    valid := reasons.isEmpty, reportVersion := report.reportVersion,
    toolVersion := report.toolVersion, toolVersionApproved := toolVersionApproved,
    policySchemaVersion := policy.schemaVersion, mandatorySteps := mandatoryStepResults,
    reasons := reasons, manifestCoverage := manifest.certificationCoverage }

end Conformance.CertificationValidator
