import Conformance.Native.Catalogue
import Conformance.Native.TestPlan

/-!
# Result reports

`conformance/results.py`, with the release policy of
`conformance/approved_releases.py` and the tool version of
`conformance/version.py`: from the outcomes of a run's steps to the report JSON
and its `certificationEligibility` block.
-/

namespace Conformance

/-- The four outcomes of a step. -/
inductive CheckStatus where
  | passed
  | failed
  | warn
  | skipped
  deriving DecidableEq, Repr

/-- The text of a status in reports. -/
def CheckStatus.text : CheckStatus → String
  | .passed => "passed"
  | .failed => "failed"
  | .warn => "warn"
  | .skipped => "skipped"

/-- The text of a coverage declaration in reports. -/
def CertificationCoverage.text : CertificationCoverage → String
  | .partialCoverage => "partial"
  | .complete => "complete"

/-! ## Release policy and tool version -/

/-- The tool versions approved for certification. -/
structure ApprovedReleasePolicy where
  schemaVersion : String
  approvedToolVersions : List String
  deriving DecidableEq, Repr

/-- `ApprovedReleasePolicy.is_tool_version_approved`. -/
def ApprovedReleasePolicy.isToolVersionApproved (policy : ApprovedReleasePolicy)
    (toolVersion : String) : Bool :=
  toolVersion ∈ policy.approvedToolVersions

/-- `REPORT_METADATA_VERSION`. -/
def REPORT_METADATA_VERSION : String := "1.0"

/-- `UNKNOWN_TOOL_VERSION`. -/
def UNKNOWN_TOOL_VERSION : String := "0+unknown"

/-- Where the tool version is read from: the value of `CONFORMANCE_TOOL_VERSION`
    when it is set, and the string `[project].version` of a readable, well-formed
    `pyproject.toml`. -/
structure VersionSources where
  configuredVersion : Option String
  rawProjectVersion : Option String
  deriving DecidableEq, Repr

/-- A text without its surrounding white space, when something is left of it. -/
def strippedNonEmpty (text : Option String) : Option String :=
  text.bind fun value => if strip value = "" then none else some (strip value)

/-- `resolve_conformance_tool_version`. -/
def resolveConformanceToolVersion (sources : VersionSources) : String :=
  match strippedNonEmpty sources.configuredVersion with
  | some version => version
  | none => (strippedNonEmpty sources.rawProjectVersion).getD UNKNOWN_TOOL_VERSION

/-! ## Step results -/

/-- The result of one observable step. -/
structure StepResult where
  name : String
  status : CheckStatus
  message : String
  url : Option String := none
  statusCode : Option Int := none
  details : JsonObject := []
  mandatory : Bool := false
  deriving Repr

/-- `StepResult.to_json_object`. -/
def StepResult.toJsonObject (step : StepResult) : JsonObject :=
  [("name", .str step.name), ("status", .str step.status.text), ("message", .str step.message)] ++
    (step.url.map fun url => ("url", Json.str url)).toList ++
    (step.statusCode.map fun code => ("statusCode", Json.int code)).toList ++
    (if step.details.isEmpty then [] else [("details", .obj step.details)])

/-- The number of steps with a given status. -/
def countStatus (steps : List StepResult) (status : CheckStatus) : Nat :=
  steps.countP fun step => step.status = status

/-! ## The eligibility block -/

/-- The reasons `_build_eligibility` collects, in the order it appends them. -/
def eligibilityReasons (steps : List StepResult) (deselectedMandatoryStepIds : List String)
    (approvedReleasePolicy : Option ApprovedReleasePolicy) (toolVersion : String)
    (certificationCoverage : CertificationCoverage) (nonCertifyingReasons : List String) :
    List String :=
  let mandatorySteps := steps.filter StepResult.mandatory
  let mandatoryFailed := countStatus mandatorySteps .failed
  let mandatorySkipped := countStatus mandatorySteps .skipped
  let mandatoryTotal := mandatorySteps.length + deselectedMandatoryStepIds.length
  (if deselectedMandatoryStepIds.length ≠ 0 then
    ["Mandatory steps were deselected from the plan"] else []) ++
  (if mandatoryFailed ≠ 0 then [s!"{mandatoryFailed} mandatory step(s) failed"] else []) ++
  (if mandatorySkipped ≠ 0 then
    [s!"{mandatorySkipped} mandatory step(s) skipped due to earlier failures"] else []) ++
  (if mandatoryTotal = 0 then ["No mandatory steps declared"] else []) ++
  (if certificationCoverage ≠ .complete then
    ["Manifest is not marked as complete certification coverage"] else []) ++
  nonCertifyingReasons ++
  match approvedReleasePolicy with
  | some policy =>
    if policy.isToolVersionApproved toolVersion then []
    else [s!"Tool version is not in the approved-release policy: {toolVersion}"]
  | none => ["Approved-release policy was not supplied"]

/-- `_build_approved_release_eligibility`. -/
def buildApprovedReleaseEligibility (approvedReleasePolicy : Option ApprovedReleasePolicy)
    (toolVersion : String) : JsonObject :=
  match approvedReleasePolicy with
  | none => [("checked", .bool false), ("approved", .bool false), ("toolVersion", .str toolVersion)]
  | some policy =>
    [("checked", .bool true), ("approved", .bool (policy.isToolVersionApproved toolVersion)),
      ("toolVersion", .str toolVersion), ("policySchemaVersion", .str policy.schemaVersion)]

/-- `_build_eligibility`. -/
def buildEligibility (steps : List StepResult) (deselectedMandatoryStepIds : List String)
    (approvedReleasePolicy : Option ApprovedReleasePolicy) (toolVersion : String)
    (certificationCoverage : CertificationCoverage) (nonCertifyingReasons : List String) :
    JsonObject :=
  let mandatorySteps := steps.filter StepResult.mandatory
  let mandatoryDeselected := deselectedMandatoryStepIds.length
  let reasons := eligibilityReasons steps deselectedMandatoryStepIds approvedReleasePolicy
    toolVersion certificationCoverage nonCertifyingReasons
  [("eligible", .bool reasons.isEmpty),
    ("mandatoryTotal", .int (mandatorySteps.length + mandatoryDeselected : Nat)),
    ("mandatoryPassed", .int (countStatus mandatorySteps .passed)),
    ("mandatoryFailed", .int (countStatus mandatorySteps .failed)),
    ("mandatoryWarn", .int (countStatus mandatorySteps .warn)),
    ("mandatorySkipped", .int (countStatus mandatorySteps .skipped)),
    ("mandatoryDeselected", .int mandatoryDeselected),
    ("mandatoryDeselectedStepIds", .arr (deselectedMandatoryStepIds.map Json.str)),
    ("certificationCoverage", .obj [("value", .str certificationCoverage.text)]),
    ("approvedRelease", .obj (buildApprovedReleaseEligibility approvedReleasePolicy toolVersion))] ++
  match reasons with
  | [] => []
  | reason :: _ => [("reason", .str reason), ("reasons", .arr (reasons.map Json.str))]

/-! ## The report -/

/-- `plan_summary` as a JSON object. -/
def PlanSummary.toJsonObject (summary : PlanSummary) : JsonObject :=
  [("totalSteps", .int summary.totalSteps), ("selectedSteps", .int summary.selectedSteps),
    ("deselectedSteps", .int summary.deselectedSteps),
    ("mandatorySelected", .int summary.mandatorySelected),
    ("mandatoryDeselected", .int summary.mandatoryDeselected)]

/-- The complete result of a run. The two timestamps are kept as their ISO texts. -/
structure SmokeCheckResult where
  status : CheckStatus
  startedAt : String
  finishedAt : String
  steps : List StepResult
  planSummary : Option PlanSummary
  deselectedMandatoryStepIds : List String
  approvedReleasePolicy : Option ApprovedReleasePolicy
  certificationCoverage : CertificationCoverage
  compiledPlan : Option CompiledTestPlan
  nonCertifyingReasons : List String

/-- `SmokeCheckResult.to_json_object`. The `catalogue` block of a compiled plan is
    rendered by `compiledPlanToJsonObject`; a manifest run has none. -/
def SmokeCheckResult.toJsonObject
    (compiledPlanToJsonObject : CompiledTestPlan → List StepResult → JsonObject)
    (sources : VersionSources) (result : SmokeCheckResult) : JsonObject :=
  let toolVersion := resolveConformanceToolVersion sources
  [("metadata", .obj [("reportVersion", .str REPORT_METADATA_VERSION)]),
    ("tool", .obj [("version", .str toolVersion)]),
    ("status", .str result.status.text),
    ("startedAt", .str result.startedAt),
    ("finishedAt", .str result.finishedAt),
    ("summary", .obj [
      ("total", .int result.steps.length),
      ("passed", .int (countStatus result.steps .passed)),
      ("failed", .int (countStatus result.steps .failed)),
      ("warn", .int (countStatus result.steps .warn)),
      ("skipped", .int (countStatus result.steps .skipped))]),
    ("certificationEligibility", .obj (buildEligibility result.steps
      result.deselectedMandatoryStepIds result.approvedReleasePolicy toolVersion
      result.certificationCoverage result.nonCertifyingReasons)),
    ("steps", .arr (result.steps.map fun step => .obj step.toJsonObject))] ++
  (result.planSummary.map fun summary => ("plan", Json.obj summary.toJsonObject)).toList ++
  (result.compiledPlan.map fun plan =>
    ("catalogue", Json.obj (compiledPlanToJsonObject plan result.steps))).toList

/-- `build_smoke_check_result`, with the finishing timestamp it reads off the clock. -/
def buildSmokeCheckResult (steps : List StepResult) (startedAt finishedAt : String)
    (plan : Option TestPlan) (approvedReleasePolicy : Option ApprovedReleasePolicy)
    (certificationCoverage : CertificationCoverage) (compiledPlan : Option CompiledTestPlan)
    (nonCertifyingReasons : List String) : SmokeCheckResult :=
  { status :=
      if steps.all fun step => step.status = .passed ∨ step.status = .warn then .passed else .failed
    startedAt := startedAt
    finishedAt := finishedAt
    steps := steps
    planSummary := plan.map TestPlan.summary
    deselectedMandatoryStepIds := (plan.map TestPlan.deselectedMandatoryStepIds).getD []
    approvedReleasePolicy := approvedReleasePolicy
    certificationCoverage := certificationCoverage
    compiledPlan := compiledPlan
    nonCertifyingReasons := nonCertifyingReasons }

/-! ## Development evidence -/

/-- The reason of `mark_development_result_evidence`. -/
def developmentReason : String := "Development-mode run is not certification evidence"

/-- `text in items`. -/
def containsText (items : List Json) (text : String) : Bool :=
  items.any fun item => item.pyEq (.str text)

/-- One round of the loop over `raw_issues`. -/
def addWarning (reasons : List Json) (rawIssue : Json) : List Json :=
  match rawIssue with
  | .obj issue =>
    match issue.lookup "severity", issue.lookup "message" with
    | some (.str "warning"), some (.str message) =>
      if containsText reasons message then reasons else reasons ++ [.str message]
    | _, _ => reasons
  | _ => reasons

/-- The reasons of `mark_development_result_evidence`. -/
def developmentReasons (validationResult eligibility : JsonObject) : List Json :=
  let rawReasons := listField eligibility "reasons"
  let reasons := if containsText rawReasons developmentReason then rawReasons
    else .str developmentReason :: rawReasons
  (listField validationResult "issues").foldl addWarning reasons

/-- The `metadata` of a marked result. -/
def developmentMetadata (metadata : Option Json) : Json :=
  match metadata with
  | some (.obj fields) => .obj (setField fields "executionMode" (.str "development"))
  | _ => .obj [("executionMode", .str "development")]

/-- `mark_development_result_evidence`, with the result object it leaves. -/
def markDevelopmentResultEvidence (validationResult resultObject : JsonObject) : JsonObject :=
  match validationResult.lookup "executionMode" with
  | some (.str "development") =>
    let resultObject :=
      setField resultObject "metadata" (developmentMetadata (resultObject.lookup "metadata"))
    match resultObject.lookup "certificationEligibility" with
    | some (.obj eligibility) =>
      let reasons := developmentReasons validationResult eligibility
      setField resultObject "certificationEligibility" (.obj (setField (setField (setField
        eligibility "eligible" (.bool false)) "reason" (.str developmentReason)) "reasons"
        (.arr reasons)))
    | _ => resultObject
  | _ => resultObject

/-- `report["certificationEligibility"]["eligible"]`. -/
def eligibleFlag (report : JsonObject) : Option Bool :=
  match report.lookup "certificationEligibility" with
  | some (.obj block) =>
    match block.lookup "eligible" with
    | some (.bool eligible) => some eligible
    | _ => none
  | _ => none

end Conformance
