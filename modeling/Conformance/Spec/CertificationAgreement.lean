import Conformance.Native.CertificationValidator
import Conformance.Spec.ManifestRun

/-!
# The report and the validator agree

The participant-side rule of `conformance/results.py` judges the step results and the
plan it has in memory; the validator judges the report JSON, parsed again, against
the manifest. This module proves that a manifest run's report can always be parsed,
that both rules come to the same verdict, and that the validator names every
mandatory step that keeps a report from being eligible.
-/

namespace Conformance

open Except CertificationValidator

/-! ## The participant's rule -/

/-- A count of a status is zero exactly when no step has it. -/
theorem countStatus_eq_zero_iff {steps : List StepResult} {status : CheckStatus} :
    countStatus steps status = 0 ↔ ∀ step ∈ steps, step.status ≠ status := by
  simp [countStatus, List.countP_eq_zero]

/-- A mandatory step that does not stand in the way of certification. -/
def CheckStatus.Acceptable (status : CheckStatus) : Prop :=
  status ≠ .failed ∧ status ≠ .skipped

/-- A list that may hold one reason holds none exactly when its condition fails. -/
private theorem ite_singleton_eq_nil {c : Prop} [Decidable c] {reason : String} :
    (if c then [reason] else []) = [] ↔ ¬c := by
  by_cases hc : c <;> simp [hc]

/-- When the participant's rule finds no blocking reason. -/
theorem eligibilityReasons_eq_nil_iff {steps : List StepResult} {deselected : List String}
    {policy : ApprovedReleasePolicy} {toolVersion : String} {coverage : CertificationCoverage} :
    eligibilityReasons steps deselected (some policy) toolVersion coverage [] = [] ↔
      deselected = [] ∧ (∀ step ∈ steps, step.mandatory = true → step.status.Acceptable) ∧
        (∃ step ∈ steps, step.mandatory = true) ∧ coverage = .complete ∧
        policy.isToolVersionApproved toolVersion = true := by
  have hpolicy : (if policy.isToolVersionApproved toolVersion = true then []
      else [s!"Tool version is not in the approved-release policy: {toolVersion}"]) = [] ↔
      policy.isToolVersionApproved toolVersion = true := by
    by_cases happroved : policy.isToolVersionApproved toolVersion = true <;> simp [happroved]
  simp only [eligibilityReasons, List.append_eq_nil_iff, ite_singleton_eq_nil, hpolicy, not_not,
    ne_eq, countStatus_eq_zero_iff, List.length_eq_zero_iff, List.mem_filter, and_imp, and_true,
    Nat.add_eq_zero_iff, List.filter_eq_nil_iff, CheckStatus.Acceptable]
  constructor
  · rintro ⟨⟨⟨⟨⟨hdeselected, hfailed⟩, hskipped⟩, htotal⟩, hcoverage⟩, happroved⟩
    refine ⟨hdeselected, fun step hstep hm => ⟨hfailed step hstep hm, hskipped step hstep hm⟩,
      ?_, hcoverage, happroved⟩
    by_contra hnone
    exact htotal ⟨fun step hstep hm => hnone ⟨step, hstep, hm⟩, hdeselected⟩
  · rintro ⟨hdeselected, hacceptable, ⟨step, hstep, hmandatory⟩, hcoverage, happroved⟩
    exact ⟨⟨⟨⟨⟨hdeselected, fun step hstep hm => (hacceptable step hstep hm).1⟩,
      fun step hstep hm => (hacceptable step hstep hm).2⟩,
      fun hzero => hzero.1 step hstep hmandatory⟩, hcoverage⟩, happroved⟩

/-- The flag in the report says whether there are blocking reasons. -/
theorem eligibleFlag_toJsonObject
    (render : CompiledTestPlan → List StepResult → JsonObject) (sources : VersionSources)
    (result : SmokeCheckResult) :
    eligibleFlag (result.toJsonObject render sources) =
      some (eligibilityReasons result.steps result.deselectedMandatoryStepIds
        result.approvedReleasePolicy (resolveConformanceToolVersion sources)
        result.certificationCoverage result.nonCertifyingReasons).isEmpty := rfl

/-! ## Reports can be submitted -/

/-- The tool version of a report is stripped and not empty. -/
theorem resolveConformanceToolVersion_stripped (sources : VersionSources) :
    Stripped (resolveConformanceToolVersion sources) := by
  have hstripped : ∀ {text : Option String} {version : String},
      strippedNonEmpty text = some version → Stripped version := by
    intro text version h
    obtain ⟨value, -, hvalue⟩ := Option.bind_eq_some_iff.mp h
    -- an empty text counts as absent
    by_cases hempty : strip value = ""
    · rw [if_pos hempty] at hvalue
      cases hvalue
    · rw [if_neg hempty] at hvalue
      exact Option.some.inj hvalue ▸ ⟨strip_strip value, hempty⟩
  unfold resolveConformanceToolVersion
  split
  · rename_i version hconfigured
    exact hstripped hconfigured
  · cases hproject : strippedNonEmpty sources.rawProjectVersion with
    | none => exact ⟨by decide, by decide⟩
    | some version => exact hstripped hproject

/-- A stripped string field is read back as it is. -/
theorem requiredNonEmptyString_eq_ok {parent : JsonObject} {key location value : String}
    (hlookup : parent.lookup key = some (.str value)) (hvalue : Stripped value) :
    requiredNonEmptyString parent key location = .ok value := by
  simp only [requiredNonEmptyString, requiredField, hlookup, bind, Except.bind, hvalue.strip_eq,
    if_neg hvalue.ne_empty]
  rfl

/-- A status is read back from its text. -/
theorem requiredReportStepStatus_eq_ok {parent : JsonObject} {key location : String}
    {status : CheckStatus} (hlookup : parent.lookup key = some (.str status.text)) :
    requiredReportStepStatus parent key location = .ok status := by
  have htext : Stripped status.text := by
    cases status <;> exact ⟨by decide, by decide⟩
  have hstatus : reportStepStatus? status.text = some status := by
    cases status <;> rfl
  simp only [requiredReportStepStatus, requiredNonEmptyString_eq_ok hlookup htext]
  simp [bind, Except.bind, hstatus, pure, Except.pure]

/-- The validator's view of a step result. -/
def StepResult.toReportStep (result : StepResult) : ReportStep := ⟨result.name, result.status⟩

/-- A serialised step result with a new name is appended. -/
theorem parseReportStep_toJsonObject (repr : Json → String) (steps : List ReportStep)
    (result : StepResult) (index : Nat) (hname : Stripped result.name)
    (hfresh : result.name ∉ steps.map ReportStep.stepId) :
    parseReportStep repr steps (.obj result.toJsonObject, index) =
      .ok (steps ++ [result.toReportStep]) := by
  have hlookupName : result.toJsonObject.lookup "name" = some (.str result.name) := rfl
  have hlookupStatus : result.toJsonObject.lookup "status" = some (.str result.status.text) := rfl
  simp only [parseReportStep, asObject, requiredNonEmptyString_eq_ok hlookupName hname,
    requiredReportStepStatus_eq_ok hlookupStatus, bind, Except.bind, raiseIf, if_neg hfresh]
  rfl

/-- The serialised steps of a report with distinct names are all parsed, in order. -/
theorem parseReportSteps_toJsonObject (repr : Json → String) {results : List StepResult}
    (hnames : ∀ result ∈ results, Stripped result.name)
    (hnodup : (results.map StepResult.name).Nodup) :
    parseReportSteps repr (results.map fun result => .obj result.toJsonObject) =
      .ok (results.map StepResult.toReportStep) := by
  -- the loop has already parsed `done` when it reaches position `index`
  suffices ∀ (rest done : List StepResult) (index : Nat),
      (∀ result ∈ rest, Stripped result.name) → ((done ++ rest).map StepResult.name).Nodup →
      ((rest.map fun result => Json.obj result.toJsonObject).zipIdx index).foldlM
        (parseReportStep repr) (done.map StepResult.toReportStep) =
        .ok ((done ++ rest).map StepResult.toReportStep) from
    this results [] 0 hnames hnodup
  intro rest
  induction rest with
  | nil =>
    intro done _ _ _
    simp [pure, Except.pure]
  | cons result rest ih =>
    intro done index hnames hnodup
    have hfresh : result.name ∉ (done.map StepResult.toReportStep).map ReportStep.stepId := by
      rw [List.map_map]
      rw [List.map_append, List.map_cons, List.nodup_append] at hnodup
      intro hmem
      exact hnodup.2.2 _ hmem _ List.mem_cons_self rfl
    rw [List.map_cons, List.zipIdx_cons, List.foldlM_cons,
      parseReportStep_toJsonObject repr _ result index (hnames result List.mem_cons_self) hfresh]
    have hrest := ih (done ++ [result]) (index + 1)
      (fun other hother => hnames other (List.mem_cons_of_mem _ hother)) (by simpa using hnodup)
    simpa [bind, Except.bind] using hrest

/-- The validator reads the versions of a report and then parses its steps. -/
theorem parseSubmittedReport_eq_map
    (render : CompiledTestPlan → List StepResult → JsonObject) (sources : VersionSources)
    (repr : Json → String) (result : SmokeCheckResult) :
    parseSubmittedReport repr (.obj (result.toJsonObject render sources)) =
      (parseReportSteps repr (result.steps.map fun step => .obj step.toJsonObject)).map
        fun steps => ⟨REPORT_METADATA_VERSION, resolveConformanceToolVersion sources, steps⟩ := by
  have hmetadata : (result.toJsonObject render sources).lookup "metadata" =
      some (.obj [("reportVersion", .str REPORT_METADATA_VERSION)]) := rfl
  have htool : (result.toJsonObject render sources).lookup "tool" =
      some (.obj [("version", .str (resolveConformanceToolVersion sources))]) := rfl
  have hsteps : (result.toJsonObject render sources).lookup "steps" =
      some (.arr (result.steps.map fun step => .obj step.toJsonObject)) := rfl
  have hreportVersion : requiredNonEmptyString [("reportVersion", .str REPORT_METADATA_VERSION)]
      "reportVersion" "report.metadata" = .ok REPORT_METADATA_VERSION :=
    requiredNonEmptyString_eq_ok rfl ⟨by decide, by decide⟩
  have htoolVersion : requiredNonEmptyString
      [("version", .str (resolveConformanceToolVersion sources))] "version" "report.tool" =
      .ok (resolveConformanceToolVersion sources) :=
    requiredNonEmptyString_eq_ok rfl (resolveConformanceToolVersion_stripped sources)
  simp only [parseSubmittedReport, CertificationValidator.requiredObject, requiredArray,
    requiredField, asObject, hmetadata, htool, hsteps, bind, Except.bind, pure, Except.pure,
    hreportVersion, htoolVersion]
  cases parseReportSteps repr (result.steps.map fun step => .obj step.toJsonObject) <;> rfl

/-- A report whose steps have distinct, stripped names is accepted, and the validator
    sees its tool version and the status of every step. -/
theorem parseSubmittedReport_toJsonObject
    (render : CompiledTestPlan → List StepResult → JsonObject) (sources : VersionSources)
    (repr : Json → String) {result : SmokeCheckResult}
    (hnames : ∀ step ∈ result.steps, Stripped step.name)
    (hnodup : (result.steps.map StepResult.name).Nodup) :
    parseSubmittedReport repr (.obj (result.toJsonObject render sources)) =
      .ok ⟨REPORT_METADATA_VERSION, resolveConformanceToolVersion sources,
        result.steps.map StepResult.toReportStep⟩ := by
  rw [parseSubmittedReport_eq_map, parseReportSteps_toJsonObject repr hnames hnodup]
  rfl

/-! ## The validator's rule -/

/-- What `validate_report` returns once it has found mandatory steps. -/
def judgement {p : FieldParsers} (report : SubmittedReport) (manifest : Manifest p)
    (policy : ApprovedReleasePolicy) : CertificationValidationResult :=
  let mandatorySteps := (mandatoryStepIdsFromManifest manifest).map
    (validateMandatoryStep (reportStepsById report.steps))
  let reasons := validationReasons mandatorySteps (policy.isToolVersionApproved report.toolVersion)
    (manifest.certificationCoverage ≠ .complete)
  { valid := reasons.isEmpty
    reportVersion := report.reportVersion
    toolVersion := report.toolVersion
    toolVersionApproved := policy.isToolVersionApproved report.toolVersion
    policySchemaVersion := policy.schemaVersion
    mandatorySteps := mandatorySteps
    reasons := reasons
    manifestCoverage := manifest.certificationCoverage }

/-- The loop over the mandatory steps gathers their reasons. -/
theorem mem_foldl_addReason {steps : List MandatoryStepValidation}
    {reasons : List CertificationValidationReason} {reason : CertificationValidationReason} :
    reason ∈ steps.foldl addReason reasons ↔
      reason ∈ reasons ∨ ∃ step ∈ steps, step.reason = some reason := by
  have hround : ∀ (acc : List CertificationValidationReason) (step : MandatoryStepValidation),
      reason ∈ addReason acc step ↔ reason ∈ acc ∨ step.reason = some reason := by
    intro acc step
    unfold addReason
    split
    -- a reason that is listed already is not listed twice
    · rename_i found hfound
      by_cases hmem : found ∈ acc
      · rw [if_pos hmem, hfound, Option.some.injEq]
        exact ⟨.inl, fun h => h.elim id fun heq => heq ▸ hmem⟩
      · rw [if_neg hmem, hfound, List.mem_append, List.mem_singleton, Option.some.injEq,
          eq_comm (a := reason)]
    · rename_i hnone
      simp [hnone]
  induction steps generalizing reasons with
  | nil => simp
  | cons step rest ih =>
    rw [List.foldl_cons]
    refine ih.trans ?_
    rw [hround]
    simp [or_assoc]

/-- Which reasons a validation lists. -/
theorem mem_validationReasons_iff {steps : List MandatoryStepValidation} {approved coverage : Bool}
    {reason : CertificationValidationReason} :
    reason ∈ validationReasons steps approved coverage ↔
      (approved = false ∧ reason = .toolVersionNotApproved) ∨
        (∃ step ∈ steps, step.reason = some reason) ∨
        (coverage = true ∧ reason = .manifestCoveragePartial) := by
  rw [validationReasons, List.mem_append, mem_foldl_addReason, or_assoc]
  cases approved <;> cases coverage <;> simp

/-- When a validation lists no reason. -/
theorem validationReasons_eq_nil_iff {steps : List MandatoryStepValidation}
    {approved coverage : Bool} :
    validationReasons steps approved coverage = [] ↔
      approved = true ∧ (∀ step ∈ steps, step.reason = none) ∧ coverage = false := by
  rw [List.eq_nil_iff_forall_not_mem]
  simp only [mem_validationReasons_iff, not_or, not_and, not_exists]
  constructor
  · intro hnone
    refine ⟨?_, ?_, ?_⟩
    · by_contra happroved
      exact (hnone .toolVersionNotApproved).1 (by simpa using happroved) rfl
    · intro step hstep
      by_contra hreason
      obtain ⟨reason, hreason⟩ := Option.ne_none_iff_exists'.mp hreason
      exact (hnone reason).2.1 step hstep hreason
    · by_contra hcoverage
      exact (hnone .manifestCoveragePartial).2.2 (by simpa using hcoverage) rfl
  · rintro ⟨rfl, hsteps, rfl⟩ reason
    refine ⟨nofun, fun step hstep hreason => ?_, nofun⟩
    rw [hsteps step hstep] at hreason
    cases hreason

/-- A manifest with mandatory steps is always judged. -/
theorem validateReport_eq_ok {p : FieldParsers} {manifest : Manifest p} (report : SubmittedReport)
    (policy : ApprovedReleasePolicy) (hids : mandatoryStepIdsFromManifest manifest ≠ []) :
    validateReport report manifest policy = .ok (judgement report manifest policy) := by
  simp only [validateReport, raiseIf, if_neg hids]
  rfl

/-- The mandatory ids of a v1 manifest. -/
theorem mandatoryStepIdsFromManifest_eq {p : FieldParsers} {manifest : Manifest p}
    (hv1 : manifest.schemaVersion = .v1) :
    mandatoryStepIdsFromManifest manifest =
      (manifest.steps.filter V1Step.mandatory).map V1Step.id := by
  rw [mandatoryStepIdsFromManifest, if_neg (not_not_intro hv1)]

/-- A mandatory step raises no reason when it was reported with an acceptable status. -/
theorem validateMandatoryStep_reason_eq_none_iff {reportSteps : Dict String CheckStatus}
    {stepId : String} :
    (validateMandatoryStep reportSteps stepId).reason = none ↔
      ∃ status, reportSteps.get? stepId = some status ∧ status.Acceptable := by
  unfold validateMandatoryStep
  cases hget : reportSteps.get? stepId with
  | none => simp
  | some status => cases status <;> simp [CheckStatus.Acceptable]

/-- The status the validator finds for a reported step. -/
theorem get?_reportStepsById_of_mem {results : List StepResult}
    (hnodup : (results.map StepResult.name).Nodup) {result : StepResult}
    (hresult : result ∈ results) :
    (reportStepsById (results.map StepResult.toReportStep)).get? result.name =
      some result.status := by
  rw [reportStepsById, List.foldl_map]
  exact Dict.get?_foldl_set_of_mem StepResult.status hnodup hresult .empty

/-- The validator finds no status for a step that was not reported. -/
theorem get?_reportStepsById_of_notMem {results : List StepResult} {stepId : String}
    (hstepId : stepId ∉ results.map StepResult.name) :
    (reportStepsById (results.map StepResult.toReportStep)).get? stepId = none := by
  rw [reportStepsById, List.foldl_map]
  exact Dict.get?_foldl_set_of_notMem StepResult.status hstepId .empty

/-! ## Agreement -/

/-- The validator lists `reason`, and names `stepId` as a step it applies to. -/
def CertificationValidator.CertificationValidationResult.Names
    (outcome : CertificationValidationResult) (stepId : String)
    (status : MandatoryValidationStatus) (reason : CertificationValidationReason) : Prop :=
  ⟨stepId, status, some reason⟩ ∈ outcome.mandatorySteps ∧ reason ∈ outcome.reasons

/-- The validator names every mandatory step that is missing from the results,
    deselected from the plan, failed or skipped. -/
structure CertificationValidator.CertificationValidationResult.Covers {p : FieldParsers}
    (outcome : CertificationValidationResult) (manifest : Manifest p) (plan : TestPlan)
    (results : List StepResult) : Prop where
  missing : ∀ step ∈ manifest.steps, step.mandatory = true →
    step.id ∉ results.map StepResult.name → outcome.Names step.id .missing .mandatoryStepMissing
  deselected : ∀ step ∈ manifest.steps, step.mandatory = true →
    step.id ∉ plan.selectedStepIds → outcome.Names step.id .missing .mandatoryStepMissing
  failed : ∀ step ∈ manifest.steps, step.mandatory = true → ∀ result ∈ results,
    result.name = step.id → result.status = .failed →
      outcome.Names step.id (.reported .failed) .mandatoryStepFailed
  skipped : ∀ step ∈ manifest.steps, step.mandatory = true → ∀ result ∈ results,
    result.name = step.id → result.status = .skipped →
      outcome.Names step.id (.reported .skipped) .mandatoryStepSkipped

/-- The reason a mandatory step raises is listed, under the step's own entry. -/
theorem judgement_names {p : FieldParsers} {manifest : Manifest p} {report : SubmittedReport}
    (policy : ApprovedReleasePolicy) (hv1 : manifest.schemaVersion = .v1) {step : V1Step p}
    (hstep : step ∈ manifest.steps) (hmandatory : step.mandatory = true)
    {status : MandatoryValidationStatus} {reason : CertificationValidationReason}
    (hvalidate : validateMandatoryStep (reportStepsById report.steps) step.id =
      ⟨step.id, status, some reason⟩) :
    (judgement report manifest policy).Names step.id status reason := by
  have hid : step.id ∈ mandatoryStepIdsFromManifest manifest := by
    rw [mandatoryStepIdsFromManifest_eq hv1]
    exact List.mem_map_of_mem (List.mem_filter.mpr ⟨hstep, hmandatory⟩)
  have hentry : ⟨step.id, status, some reason⟩ ∈
      (judgement report manifest policy).mandatorySteps := by
    rw [← hvalidate]
    exact List.mem_map_of_mem hid
  exact ⟨hentry, mem_validationReasons_iff.mpr (.inr (.inl ⟨_, hentry, rfl⟩))⟩

section Run

variable {p : FieldParsers} {manifest : Manifest p} {plan : TestPlan} {results : List StepResult}

/-- The facts about a manifest run that the two rules are compared on. -/
structure RunFacts (manifest : Manifest p) (plan : TestPlan) (results : List StepResult) :
    Prop where
  v1 : manifest.schemaVersion = .v1
  ids : manifest.WellFormedIds
  derived : TestPlan.Derived manifest plan
  keys : (results.map StepResult.key).Perm
    ((manifest.steps.filter fun step => step.id ∈ plan.selectedStepIds).map V1Step.key)

namespace RunFacts

/-- The result names are the ids of the selected steps. -/
theorem names_perm (hrun : RunFacts manifest plan results) :
    (results.map StepResult.name).Perm
      ((manifest.steps.filter fun step => step.id ∈ plan.selectedStepIds).map V1Step.id) := by
  have hfst := hrun.keys.map Prod.fst
  rw [List.map_map, List.map_map] at hfst
  exact hfst

/-- No two results have the same name. -/
theorem names_nodup (hrun : RunFacts manifest plan results) :
    (results.map StepResult.name).Nodup :=
  hrun.names_perm.nodup_iff.mpr (hrun.ids.nodup.sublist (List.filter_sublist.map _))

/-- The names of the results are stripped and not empty. -/
theorem names_stripped (hrun : RunFacts manifest plan results) :
    ∀ result ∈ results, Stripped result.name := by
  intro result hresult
  obtain ⟨step, hstep, hid⟩ :=
    List.mem_map.mp (hrun.names_perm.mem_iff.mp (List.mem_map_of_mem hresult))
  exact hid ▸ hrun.ids.stripped step (List.mem_filter.mp hstep).1

/-- A manifest step is reported exactly when it is selected. -/
theorem mem_names_iff (hrun : RunFacts manifest plan results) {step : V1Step p}
    (hstep : step ∈ manifest.steps) :
    step.id ∈ results.map StepResult.name ↔ step.id ∈ plan.selectedStepIds := by
  rw [hrun.names_perm.mem_iff, List.mem_map]
  constructor
  · rintro ⟨other, hother, hid⟩
    rw [← hid]
    exact of_decide_eq_true (List.mem_filter.mp hother).2
  · intro hselected
    exact ⟨step, List.mem_filter.mpr ⟨hstep, decide_eq_true hselected⟩, rfl⟩

/-- A mandatory result belongs to a mandatory step. -/
theorem exists_step (hrun : RunFacts manifest plan results) {result : StepResult}
    (hresult : result ∈ results) (hmandatory : result.mandatory = true) :
    ∃ step ∈ manifest.steps, step.mandatory = true ∧ step.id = result.name := by
  obtain ⟨step, hstep, hkey⟩ :=
    List.mem_map.mp (hrun.keys.mem_iff.mp (List.mem_map_of_mem hresult))
  exact ⟨step, (List.mem_filter.mp hstep).1, (congrArg Prod.snd hkey).trans hmandatory,
    congrArg Prod.fst hkey⟩

/-- A selected mandatory step has a mandatory result. -/
theorem exists_result (hrun : RunFacts manifest plan results) {step : V1Step p}
    (hstep : step ∈ manifest.steps) (hmandatory : step.mandatory = true)
    (hselected : step.id ∈ plan.selectedStepIds) :
    ∃ result ∈ results, result.mandatory = true ∧ result.name = step.id := by
  have hkey : step.key ∈ results.map StepResult.key := by
    rw [hrun.keys.mem_iff]
    exact List.mem_map_of_mem (List.mem_filter.mpr ⟨hstep, decide_eq_true hselected⟩)
  obtain ⟨result, hresult, heq⟩ := List.mem_map.mp hkey
  exact ⟨result, hresult, (congrArg Prod.snd heq).trans hmandatory, congrArg Prod.fst heq⟩

/-- The participant's conditions on the steps are the validator's: nothing mandatory
    is deselected and every mandatory result is acceptable, exactly when every mandatory
    manifest step is found in the report with an acceptable status. -/
theorem acceptable_iff (hrun : RunFacts manifest plan results) :
    (plan.deselectedMandatoryStepIds = [] ∧
      ∀ result ∈ results, result.mandatory = true → result.status.Acceptable) ↔
    ∀ step ∈ manifest.steps, step.mandatory = true → ∃ status,
      (reportStepsById (results.map StepResult.toReportStep)).get? step.id = some status ∧
        status.Acceptable := by
  rw [hrun.derived.deselectedMandatoryStepIds_eq_nil_iff hrun.v1 hrun.ids]
  constructor
  · rintro ⟨hselected, hacceptable⟩ step hstep hmandatory
    -- a selected mandatory step was run, and the validator looks it up by its id
    obtain ⟨result, hresult, hflag, hname⟩ :=
      hrun.exists_result hstep hmandatory (hselected step hstep hmandatory)
    refine ⟨result.status, ?_, hacceptable result hresult hflag⟩
    rw [← hname]
    exact get?_reportStepsById_of_mem hrun.names_nodup hresult
  · intro hfound
    refine ⟨?_, ?_⟩
    · intro step hstep hmandatory
      -- a step that was not selected has no result, so it is not in the report
      by_contra hnot
      obtain ⟨status, hget, -⟩ := hfound step hstep hmandatory
      rw [get?_reportStepsById_of_notMem (mt (hrun.mem_names_iff hstep).mp hnot)] at hget
      cases hget
    · intro result hresult hflag
      obtain ⟨step, hstep, hmandatory, hid⟩ := hrun.exists_step hresult hflag
      obtain ⟨status, hget, hacceptable⟩ := hfound step hstep hmandatory
      rw [hid, get?_reportStepsById_of_mem hrun.names_nodup hresult] at hget
      exact Option.some.inj hget ▸ hacceptable

/-- The verdict of the validator on the report of a run. -/
theorem judgement_valid_iff (hrun : RunFacts manifest plan results) (report : SubmittedReport)
    (hreport : report.steps = results.map StepResult.toReportStep)
    (policy : ApprovedReleasePolicy) :
    (judgement report manifest policy).valid = true ↔
      policy.isToolVersionApproved report.toolVersion = true ∧
      (plan.deselectedMandatoryStepIds = [] ∧
        ∀ result ∈ results, result.mandatory = true → result.status.Acceptable) ∧
      manifest.certificationCoverage = .complete := by
  rw [judgement, List.isEmpty_iff, validationReasons_eq_nil_iff, hrun.acceptable_iff, ← hreport]
  simp only [mandatoryStepIdsFromManifest_eq hrun.v1, List.forall_mem_map, List.mem_filter,
    and_imp, validateMandatoryStep_reason_eq_none_iff, decide_eq_false_iff_not, not_not, ne_eq]

/-- The validator's judgement of the report of a run covers every mandatory step that
    blocks it. -/
theorem covers (hrun : RunFacts manifest plan results) (report : SubmittedReport)
    (hreport : report.steps = results.map StepResult.toReportStep)
    (policy : ApprovedReleasePolicy) :
    (judgement report manifest policy).Covers manifest plan results := by
  have hmissing : ∀ step ∈ manifest.steps, step.mandatory = true →
      step.id ∉ results.map StepResult.name →
      (judgement report manifest policy).Names step.id .missing .mandatoryStepMissing := by
    intro step hstep hmandatory hnot
    refine judgement_names policy hrun.v1 hstep hmandatory ?_
    rw [validateMandatoryStep, hreport, get?_reportStepsById_of_notMem hnot]
  refine ⟨hmissing, ?_, ?_, ?_⟩
  · intro step hstep hmandatory hnot
    exact hmissing step hstep hmandatory (mt (hrun.mem_names_iff hstep).mp hnot)
  · intro step hstep hmandatory result hresult hname hstatus
    refine judgement_names policy hrun.v1 hstep hmandatory ?_
    rw [validateMandatoryStep, hreport, ← hname,
      get?_reportStepsById_of_mem hrun.names_nodup hresult, hstatus]
  · intro step hstep hmandatory result hresult hname hstatus
    refine judgement_names policy hrun.v1 hstep hmandatory ?_
    rw [validateMandatoryStep, hreport, ← hname,
      get?_reportStepsById_of_mem hrun.names_nodup hresult, hstatus]

/-- The verdict of the participant on a run of a manifest with a mandatory step. -/
theorem eligibilityReasons_eq_nil_iff_acceptable (hrun : RunFacts manifest plan results)
    (hmandatory : ∃ step ∈ manifest.steps, step.mandatory = true) (policy : ApprovedReleasePolicy)
    (toolVersion : String) :
    eligibilityReasons results plan.deselectedMandatoryStepIds (some policy) toolVersion
        manifest.certificationCoverage [] = [] ↔
      policy.isToolVersionApproved toolVersion = true ∧
      (plan.deselectedMandatoryStepIds = [] ∧
        ∀ result ∈ results, result.mandatory = true → result.status.Acceptable) ∧
      manifest.certificationCoverage = .complete := by
  rw [eligibilityReasons_eq_nil_iff]
  constructor
  · rintro ⟨hdeselected, hacceptable, -, hcoverage, happroved⟩
    exact ⟨happroved, ⟨hdeselected, hacceptable⟩, hcoverage⟩
  · rintro ⟨happroved, ⟨hdeselected, hacceptable⟩, hcoverage⟩
    -- with nothing deselected, the mandatory step of the manifest has run
    obtain ⟨step, hstep, hstepMandatory⟩ := hmandatory
    have hselected := (hrun.derived.deselectedMandatoryStepIds_eq_nil_iff hrun.v1 hrun.ids).mp
      hdeselected step hstep hstepMandatory
    obtain ⟨result, hresult, hflag, -⟩ := hrun.exists_result hstep hstepMandatory hselected
    exact ⟨hdeselected, hacceptable, ⟨result, hresult, hflag⟩, hcoverage, happroved⟩

end RunFacts

/-- A manifest with a mandatory step was parsed as v1, so a run of it is a v1 run. -/
theorem runFacts_of_runManifest {raw : JsonObject} (hparse : parseManifest p raw = .ok manifest)
    (hmandatory : ∃ step ∈ manifest.steps, step.mandatory = true)
    (hplan : TestPlan.Derived manifest plan) {policy : Option ApprovedReleasePolicy}
    {executor : StepExecutor p} {startedAt finishedAt : String} {result : SmokeCheckResult}
    (hresult : runManifest executor manifest (some plan) policy startedAt finishedAt = .ok result) :
    ∃ steps, RunFacts manifest plan steps ∧
      result = buildSmokeCheckResult steps startedAt finishedAt (some plan) policy
        manifest.certificationCoverage none [] := by
  rcases parseManifest_cases hparse with ⟨hv1, hids⟩ | ⟨-, hnil⟩
  · obtain ⟨steps, hsteps, hbuilt⟩ := runManifest_eq_ok executor hresult hv1
    exact ⟨steps, ⟨hv1, hids, hplan, executeSchedule_keys executor hsteps hv1⟩, hbuilt⟩
  · obtain ⟨step, hstep, -⟩ := hmandatory
    rw [hnil] at hstep
    exact absurd hstep List.not_mem_nil

/-- The report of a manifest run is accepted by the validator, which declares it valid
    exactly when the report declares itself eligible; and whenever it does not, the
    validator gives a reason and names every mandatory step that is missing,
    deselected, failed or skipped. -/
theorem eligible_iff_validateReport_valid {raw : JsonObject}
    (hparse : parseManifest p raw = .ok manifest)
    (hmandatory : ∃ step ∈ manifest.steps, step.mandatory = true)
    (hplan : TestPlan.Derived manifest plan) (policy : ApprovedReleasePolicy)
    (executor : StepExecutor p) (startedAt finishedAt : String) {result : SmokeCheckResult}
    (hresult : runManifest executor manifest (some plan) (some policy) startedAt finishedAt =
      .ok result)
    (render : CompiledTestPlan → List StepResult → JsonObject) (sources : VersionSources)
    (repr : Json → String) :
    ∃ eligible submitted outcome,
      eligibleFlag (result.toJsonObject render sources) = some eligible ∧
      parseSubmittedReport repr (.obj (result.toJsonObject render sources)) = .ok submitted ∧
      validateReport submitted manifest policy = .ok outcome ∧
      (eligible = true ↔ outcome.valid = true) ∧
      (eligible = false → outcome.reasons ≠ [] ∧ outcome.Covers manifest plan result.steps) := by
  obtain ⟨steps, hrun, rfl⟩ := runFacts_of_runManifest hparse hmandatory hplan hresult
  -- a manifest with a mandatory step is not refused by the validator
  have hids : mandatoryStepIdsFromManifest manifest ≠ [] := by
    obtain ⟨step, hstep, hstepMandatory⟩ := hmandatory
    rw [mandatoryStepIdsFromManifest_eq hrun.v1]
    exact List.ne_nil_of_mem (List.mem_map_of_mem (List.mem_filter.mpr ⟨hstep, hstepMandatory⟩))
  let report : SubmittedReport := ⟨REPORT_METADATA_VERSION, resolveConformanceToolVersion sources,
    steps.map StepResult.toReportStep⟩
  -- both rules come down to the same three conditions
  have hverdict :=
    (hrun.eligibilityReasons_eq_nil_iff_acceptable hmandatory policy report.toolVersion).trans
      (hrun.judgement_valid_iff report rfl policy).symm
  refine ⟨_, report, _, eligibleFlag_toJsonObject render sources _,
    parseSubmittedReport_toJsonObject render sources repr hrun.names_stripped hrun.names_nodup,
    validateReport_eq_ok report policy hids, ?_, ?_⟩
  · rw [List.isEmpty_iff]
    exact hverdict
  · intro hnotEligible
    refine ⟨?_, hrun.covers report rfl policy⟩
    intro hnone
    have heligible := List.isEmpty_iff.mpr (hverdict.mpr (List.isEmpty_iff.mpr hnone))
    exact absurd (hnotEligible.symm.trans heligible) nofun

end Run

/-! ## A run with a deselected and a failed mandatory step -/

/-- Parsers that keep every object as it was written and accept every text. -/
def verbatimParsers : FieldParsers where
  Request := JsonObject
  Assertion := JsonObject
  TokenEndpointAuthPolicy := JsonObject
  RequestObject := JsonObject
  Test := JsonObject
  repr
    | .str text => "'" ++ text ++ "'"
    | _ => ""
  parseV1Request raw _ _ := .ok raw
  parseOptionalTokenEndpointAuthPolicy _ _ _ _ := .ok none
  validateConstantManifestString _ _ _ := .ok ()
  requiredTokenIdFromAuthorizationHeader _ := none
  parseAssertion raw _ := .ok raw
  validatePlaceholderSyntax _ _ _ := .ok ()
  validateHttpsUrl _ _ := .ok ()
  validateOauthRedirectUri _ _ := .ok ()
  parsePsuOptionalRequestObject _ _ _ := .ok none
  parseTest raw _ := .ok raw

/-- The JSON of a step that sends a GET request. -/
def getStepJson (stepId url : String) (fields : JsonObject) : Json :=
  .obj ([("id", .str stepId), ("name", .str stepId),
    ("request", .obj [("method", .str "GET"), ("url", .str url)]),
    ("assertions", .arr [.obj [("type", .str "http_status"), ("expected", .int 200)]])] ++ fields)

/-- A manifest with two mandatory steps and an optional one. -/
def accountsManifestJson : JsonObject :=
  [("schemaVersion", .str "v1"), ("name", .str "Accounts"),
    ("certificationCoverage", .str "complete"),
    ("steps", .arr [
      getStepJson "discovery" "https://bank.example.com/discovery"
        [("mandatory", .bool true), ("phase", .str "setup")],
      getStepJson "accounts" "https://bank.example.com/accounts" [("mandatory", .bool true)],
      getStepJson "offers" "https://bank.example.com/offers" [("optional", .bool true)]])]

/-- A step of that manifest, parsed. -/
def getStep (stepId url : String) (mandatory optional : Bool) (phase : StepPhase) :
    V1Step verbatimParsers :=
  .http {
    id := stepId, name := stepId,
    request := [("method", .str "GET"), ("url", .str url)],
    assertions := [[("type", .str "http_status"), ("expected", .int 200)]],
    warning := none, mandatory := mandatory, optional := optional, group := "default",
    phase := phase, tokenEndpointAuthPolicy := none, requiredTokenId := none,
    producesTokenId := none }

/-- That manifest, parsed. -/
def accountsManifest : Manifest verbatimParsers where
  schemaVersion := .v1
  name := "Accounts"
  certificationCoverage := .complete
  steps := [
    getStep "discovery" "https://bank.example.com/discovery" true false .setup,
    getStep "accounts" "https://bank.example.com/accounts" true false .execution,
    getStep "offers" "https://bank.example.com/offers" false true .execution]

/-- Every request fails. -/
def failingExecutor : StepExecutor verbatimParsers where
  Context := Unit
  initialContext := ()
  executeV1Step _ _ := .ok (⟨.failed, "HTTP status 500", none, some 500, []⟩, ())
  executeV1PsuStep _ _ := .ok (⟨.failed, "Authorisation timed out", none, none, []⟩, ())
  executeV0Tests _ _ := .ok []

/-- The manifest is accepted, its `discovery` step is deselected and `accounts` fails:
    the report is not eligible, and the validator agrees and names both steps. -/
theorem eligible_iff_validateReport_valid_accounts :
    ∃ plan result,
      parseManifest verbatimParsers accountsManifestJson = .ok accountsManifest ∧
      (TestPlan.defaultPlanFromManifest accountsManifest).withDeselection ["discovery"] =
        .ok plan ∧
      runManifest failingExecutor accountsManifest (some plan) (some ⟨"v1", ["2.0.0"]⟩)
        "2026-01-01T00:00:00+00:00" "2026-01-01T00:01:00+00:00" = .ok result ∧
      ∃ eligible submitted outcome,
        eligibleFlag (result.toJsonObject (fun _ _ => []) ⟨some "2.0.0", none⟩) = some eligible ∧
        parseSubmittedReport verbatimParsers.repr
          (.obj (result.toJsonObject (fun _ _ => []) ⟨some "2.0.0", none⟩)) = .ok submitted ∧
        validateReport submitted accountsManifest ⟨"v1", ["2.0.0"]⟩ = .ok outcome ∧
        (eligible = true ↔ outcome.valid = true) ∧
        (eligible = false →
          outcome.reasons ≠ [] ∧ outcome.Covers accountsManifest plan result.steps) := by
  refine ⟨_, _, rfl, rfl, rfl, ?_⟩
  have hparse : parseManifest verbatimParsers accountsManifestJson = .ok accountsManifest := rfl
  exact eligible_iff_validateReport_valid hparse ⟨_, List.mem_cons_self, rfl⟩
    (.deselect ["discovery"] .default rfl) _ failingExecutor _ _ rfl _ _ _

end Conformance
