import Conformance.Native.CompilePlan
import Conformance.Native.CompiledRun
import Conformance.Spec.TraceGroups
import Mathlib.Data.List.Forall2

/-!
# Skip reasons in the trace

The trace marks steps and cases as `endpoint-not-selected` by looking at the
selection. A group is marked when its aggregate status is `skipped`, which also
happens when its selected cases were all skipped after a failed prerequisite.

## Key results

- `runDcrScenarios_reports`: what an adapter run reports, case by case
- `runDcrAdapter_skipReasons_iff`: when the marks of a trace are truthful
-/

namespace Conformance

open Except ResultGate

/-! ## What a run reports -/

/-- The results of one case: one for each step, all of them skipped, all of them passed,
    or a failed one among them. -/
structure DcrCaseReport (testCase : CatalogueTestCase) (results : List StepResult) : Prop where
  names : results.map StepResult.name = testCase.executionSteps.map (·.stepId)
  statuses : (∀ result ∈ results, result.status = .skipped) ∨
    (∀ result ∈ results, result.status = .passed) ∨ ∃ result ∈ results, result.status = .failed

section Run

variable {operations : DcrOperations} {testCase : CatalogueTestCase}

/-- An executed step has passed or failed. -/
private theorem executeDcrStep_ok {step : CatalogueExecutionStep} {state : DcrState operations}
    {result : StepResult} {state' : DcrState operations}
    (h : executeDcrStep operations testCase step state = .ok (result, state')) :
    result.name = step.stepId ∧ (result.status = .passed ∨ result.status = .failed) := by
  unfold executeDcrStep at h
  split at h
  · rename_i outcome _ _
    obtain ⟨rfl, rfl⟩ := Prod.mk.inj (Except.ok.inj h)
    cases outcome.passed <;> simp [dcrResult]
  · split at h
    · obtain ⟨rfl, rfl⟩ := Prod.mk.inj (Except.ok.inj h)
      exact ⟨rfl, .inr rfl⟩
    · cases h

/-- A case that is run reports a failed step or has passed. -/
private theorem runDcrCase_report {state : DcrState operations} {run : DcrCaseRun operations}
    (h : runDcrCase operations testCase state = .ok run) :
    run.results.map StepResult.name = testCase.executionSteps.map (·.stepId) ∧
      ((∀ result ∈ run.results, result.status = .passed) ∨
        ∃ result ∈ run.results, result.status = .failed) := by
  -- `failure_step` is set as soon as there is a failed result
  have hinv := List.foldlM_ok_induction (P := fun seen (run : DcrCaseRun operations) =>
    run.results.map StepResult.name = seen.map (·.stepId) ∧
      (run.failureStep = none ∧ (∀ result ∈ run.results, result.status = .passed) ∨
        ∃ result ∈ run.results, result.status = .failed)) h ⟨rfl, .inl ⟨rfl, by simp⟩⟩ ?_
  · exact ⟨hinv.1, hinv.2.imp_left And.right⟩
  · rintro seen step run run' - ⟨hnames, hstatuses⟩ hround
    unfold runDcrCaseStep at hround
    split at hround
    · rename_i failureStep hfailure
      obtain rfl := Except.ok.inj hround
      refine ⟨by simp [hnames, dcrSkippedResult, dcrResult], .inr ?_⟩
      rcases hstatuses with ⟨hnone, -⟩ | ⟨result, hmem, hfailed⟩
      · rw [hnone] at hfailure
        cases hfailure
      · exact ⟨result, List.mem_append_left _ hmem, hfailed⟩
    · obtain ⟨⟨result, state⟩, hexecute, hround⟩ := bind_eq_ok.mp hround
      obtain rfl := Except.ok.inj hround
      obtain ⟨hname, hstatus⟩ := executeDcrStep_ok hexecute
      refine ⟨by simp [hnames, hname], ?_⟩
      rcases hstatus with hpassed | hfailed
      · refine hstatuses.imp ?_ ?_
        · rintro ⟨-, hall⟩
          refine ⟨by simp [hpassed], ?_⟩
          intro other hother
          rcases List.mem_append.mp hother with hother | hother
          · exact hall other hother
          · rw [List.mem_singleton.mp hother, hpassed]
        · rintro ⟨other, hmem, hother⟩
          exact ⟨other, List.mem_append_left _ hmem, hother⟩
      · exact .inr ⟨result, List.mem_append_right _ List.mem_cons_self, hfailed⟩

/-- The results of a case report it. -/
private theorem dcrCaseResults_report {caseStatuses : Dict String CheckStatus}
    {state state' : DcrState operations} {results : List StepResult}
    (h : dcrCaseResults operations caseStatuses testCase state = .ok (results, state')) :
    DcrCaseReport testCase results := by
  unfold dcrCaseResults at h
  split at h
  · obtain ⟨rfl, -⟩ := Prod.mk.inj (Except.ok.inj h)
    refine ⟨by rw [List.map_map]; rfl, .inl ?_⟩
    intro result hresult
    obtain ⟨step, -, rfl⟩ := List.mem_map.mp hresult
    rfl
  · obtain ⟨caseRun, hrun, hresults⟩ := bind_eq_ok.mp h
    obtain ⟨rfl, -⟩ := Prod.mk.inj (Except.ok.inj hresults)
    obtain ⟨hnames, hstatuses⟩ := runDcrCase_report hrun
    exact ⟨hnames, .inr hstatuses⟩

/-- A scenario adds the reports of its cases. -/
private theorem runDcrScenario_reports {run run' : DcrRun operations}
    {scenario : String × List CatalogueTestCase}
    (h : runDcrScenario operations run scenario = .ok run') :
    ∃ reports, run'.results = run.results ++ reports.flatten ∧
      List.Forall₂ DcrCaseReport scenario.2 reports := by
  obtain ⟨⟨last, scenarioState⟩, hloop, hrun⟩ := bind_eq_ok.mp h
  obtain rfl := Except.ok.inj hrun
  refine List.foldlM_ok_induction
    (P := fun seen (acc : DcrRun operations × operations.ScenarioState) =>
      ∃ reports, acc.1.results = run.results ++ reports.flatten ∧
        List.Forall₂ DcrCaseReport seen reports) hloop ⟨[], by simp, .nil⟩ ?_
  rintro seen testCase ⟨current, currentState⟩ acc - ⟨reports, hresults, hreports⟩ hround
  obtain ⟨⟨caseResults, state⟩, hcase, hround⟩ := bind_eq_ok.mp hround
  obtain rfl := Except.ok.inj hround
  have hcurrent : current.results = run.results ++ reports.flatten := hresults
  refine ⟨reports ++ [caseResults], ?_, ?_⟩
  · simp [hcurrent]
  · exact List.rel_append hreports (.cons (dcrCaseResults_report hcase) .nil)

end Run

/-- The scenarios hold the compiled cases. -/
private theorem dcrScenarios_perm {plan : CompiledTestPlan}
    {scenarios : Dict String (List CatalogueTestCase)} (h : dcrScenarios plan = .ok scenarios) :
    scenarios.values.flatten.Perm plan.testCases := by
  refine List.foldlM_ok_induction (P := fun seen (grouped : Dict String (List CatalogueTestCase)) =>
    grouped.values.flatten.Perm seen) h (.refl _) ?_
  intro seen testCase grouped grouped' _ hperm hround
  split at hround
  · cases hround
  · obtain rfl := Except.ok.inj hround
    exact (Dict.flatten_values_set_snoc _ _ _).trans (hperm.append_right _)

/-- What an adapter run reports, case by case. -/
theorem runDcrScenarios_reports {operations : DcrOperations} {plan : CompiledTestPlan}
    {world : operations.World} {results : List StepResult}
    (h : runDcrScenarios operations plan world = .ok results) :
    ∃ cases reports, cases.Perm plan.testCases ∧ results = reports.flatten ∧
      List.Forall₂ DcrCaseReport cases reports := by
  obtain ⟨scenarios, hscenarios, h⟩ := bind_eq_ok.mp h
  obtain ⟨run, hloop, hresults⟩ := bind_eq_ok.mp h
  obtain rfl := Except.ok.inj hresults
  have hinv := List.foldlM_ok_induction
    (P := fun (seen : List (String × List CatalogueTestCase)) (run : DcrRun operations) =>
      ∃ reports, run.results = reports.flatten ∧
        List.Forall₂ DcrCaseReport (seen.map Prod.snd).flatten reports) hloop ⟨[], rfl, .nil⟩ ?_
  · obtain ⟨reports, hresults, hreports⟩ := hinv
    exact ⟨_, reports, dcrScenarios_perm hscenarios, hresults, hreports⟩
  · rintro seen scenario current next - ⟨reports, hresults, hreports⟩ hround
    obtain ⟨added, hnext, hadded⟩ := runDcrScenario_reports hround
    refine ⟨reports ++ added, by rw [hnext, hresults, List.flatten_append], ?_⟩
    rw [List.map_append, List.flatten_append]
    simpa using List.rel_append hreports hadded

/-- What the trace relies on: distinct result names, and a report for every compiled case. -/
structure DcrRunFacts (plan : CompiledTestPlan) (results : List StepResult) : Prop where
  names_nodup : (results.map StepResult.name).Nodup
  report : ∀ testCase ∈ plan.testCases, ∃ report, DcrCaseReport testCase report ∧
    ∀ result ∈ report, result ∈ results

/-- The boundary check makes the step ids distinct, and with them the result names. -/
theorem runDcrAdapter_facts {operations : DcrOperations} {plan : CompiledTestPlan}
    {approvedReleasePolicy : Option ApprovedReleasePolicy} {startedAt finishedAt : String}
    {result : SmokeCheckResult}
    (h : runDcrAdapter operations plan approvedReleasePolicy startedAt finishedAt = .ok result) :
    DcrRunFacts plan result.steps := by
  obtain ⟨⟨⟩, hboundary, h⟩ := bind_eq_ok.mp h
  obtain ⟨world, -, h⟩ := bind_eq_ok.mp h
  obtain ⟨steps, hsteps, hresult⟩ := bind_eq_ok.mp h
  obtain rfl := Except.ok.inj hresult
  obtain ⟨⟨⟩, -, hboundary⟩ := bind_eq_ok.mp hboundary
  obtain ⟨⟨⟩, hdistinct, -⟩ := bind_eq_ok.mp hboundary
  rw [raiseIf_eq_ok, not_or, not_not, not_not] at hdistinct
  obtain ⟨cases, reports, hperm, rfl, hreports⟩ := runDcrScenarios_reports hsteps
  refine ⟨?_, ?_⟩
  · have hnames : reports.flatten.map StepResult.name =
        cases.flatMap fun testCase => testCase.executionSteps.map (·.stepId) := by
      rw [List.map_flatten, List.flatMap_def]
      exact congrArg List.flatten (List.Forall₂.map_eq hreports fun _ _ hreport =>
        hreport.names.symm).symm
    refine (hnames ▸ (hperm.flatMap_right _).nodup_iff).mpr ?_
    exact hdistinct.2
  · intro testCase hmem
    obtain ⟨report, hreport, hcase⟩ :=
      List.Forall₂.exists_of_mem_left hreports (hperm.mem_iff.mpr hmem)
    exact ⟨report, hcase, fun result hresult => List.mem_flatten_of_mem hreport hresult⟩

/-! ## Truthful marks -/

/-- Marked as `endpoint-not-selected`. -/
def Json.CarriesSkipReason (value : Json) : Prop :=
  value.field "skipReason" = .str "endpoint-not-selected"

/-- The trace entry of a case that was not selected. -/
def IsSkippedCase (plan : CompiledTestPlan) (testCase : Json) : Prop :=
  ∃ skipped ∈ plan.skippedTestCases, testCase.field "testCaseId" = .str skipped.testCaseId

/-- A trace whose marks say what was selected and whose passed cases have passed. -/
structure TruthfulTrace (plan : CompiledTestPlan) (traceGroups : List Json) : Prop where
  step : ∀ group ∈ traceGroups, ∀ testCase ∈ group.items "testCases",
    ∀ step ∈ testCase.items "steps", step.CarriesSkipReason ↔ IsSkippedCase plan testCase
  testCase : ∀ group ∈ traceGroups, ∀ testCase ∈ group.items "testCases",
    testCase.CarriesSkipReason ↔ IsSkippedCase plan testCase
  group : ∀ group ∈ traceGroups,
    group.CarriesSkipReason ↔ ∀ testCase ∈ group.items "testCases", IsSkippedCase plan testCase
  passed : ∀ group ∈ traceGroups, ∀ testCase ∈ group.items "testCases",
    testCase.field "status" = .str "passed" → ∀ step ∈ testCase.items "steps",
      step.field "status" = .str "passed" ∨ step.field "status" = .str "warn"

/-- The compiled cases that the trace does not take for unselected. -/
def CompiledTestPlan.selectedCases (plan : CompiledTestPlan) : List CatalogueTestCase :=
  plan.testCases.filter fun testCase => !plan.caseIsUnselected testCase

/-- In every trace group with a selected case, some step of a selected case was executed. -/
def SelectedGroupsExecuted (plan : CompiledTestPlan) (results : List StepResult) : Prop :=
  ∀ testCase ∈ plan.selectedCases, ∀ traceGroup ∈ testCase.traceGroup,
    ∃ executed ∈ plan.selectedCases, executed.inTraceGroup traceGroup.groupId = true ∧
      ∃ step ∈ executed.executionSteps, ∃ result ∈ results,
        result.name = step.stepId ∧ result.status ≠ .skipped

/-! ## Rendered marks -/

/-- An optional field has its own name only. -/
private theorem lookup_optionalField {α : Type} {key other : String} {render : α → Json}
    {value : Option α} (hne : other ≠ key) : (optionalField key render value).lookup other = none := by
  cases value with
  | none => rfl
  | some v =>
    have hbeq : (other == key) = false := by simpa using hne
    simp [optionalField, List.lookup_cons, hbeq]

section Marks

variable (plan : CompiledTestPlan) (results : Dict String StepResult)

/-- A step of the trace carries a reason when its case is not selected. -/
private theorem carriesSkipReason_step {unselected : Bool} {step : CatalogueExecutionStep} :
    (Json.obj (renderTraceStep unselected results step)).CarriesSkipReason ↔
      unselected = true := by
  have hlookup : (renderTraceStep unselected results step).lookup "skipReason" =
      (skipReasonField unselected).lookup "skipReason" := by
    unfold renderTraceStep
    simp only [List.lookup_append, lookup_optionalField (by decide : "skipReason" ≠ "expectedStatus"),
      lookup_optionalField (by decide : "skipReason" ≠ "actualStatusCode"),
      lookup_optionalField (by decide : "skipReason" ≠ "message"),
      lookup_optionalField (by decide : "skipReason" ≠ "variant"),
      lookup_optionalField (by decide : "skipReason" ≠ "deviationId")]
    rfl
  rw [Json.CarriesSkipReason, Json.field, getField, hlookup]
  cases unselected <;> simp [skipReasonField]

/-- So does a case. -/
private theorem carriesSkipReason_case {testCase : CatalogueTestCase} :
    (Json.obj (renderTraceCase plan results testCase)).CarriesSkipReason ↔
      plan.caseIsUnselected testCase = true := by
  have hfield : (Json.obj (renderTraceCase plan results testCase)).field "skipReason" =
      if plan.caseIsUnselected testCase then .str "endpoint-not-selected" else .null := by
    unfold renderTraceCase skipReasonField
    split <;> rfl
  rw [Json.CarriesSkipReason, hfield]
  cases plan.caseIsUnselected testCase <;> simp

/-- A group carries one when it is skipped. -/
private theorem carriesSkipReason_group {group : TracedGroup} :
    (Json.obj (renderTraceGroup plan results group)).CarriesSkipReason ↔
      traceGroupStatus plan results group = .skipped := by
  have hfield : (Json.obj (renderTraceGroup plan results group)).field "skipReason" =
      if traceGroupStatus plan results group = .skipped then .str "endpoint-not-selected"
      else .null := by
    unfold renderTraceGroup skipReasonField
    by_cases hskipped : traceGroupStatus plan results group = .skipped
    · simp only [hskipped, decide_true, if_true]
      rfl
    · simp only [hskipped, decide_false, if_false]
      rfl
  rw [Json.CarriesSkipReason, hfield]
  by_cases hskipped : traceGroupStatus plan results group = .skipped <;> simp [hskipped]

/-- The skipped cases of a trace are those not selected. -/
private theorem isSkippedCase_iff {testCase : CatalogueTestCase} :
    IsSkippedCase plan (.obj (renderTraceCase plan results testCase)) ↔
      plan.caseIsUnselected testCase = true := by
  have hfield : (Json.obj (renderTraceCase plan results testCase)).field "testCaseId" =
      .str testCase.testCaseId := rfl
  rw [IsSkippedCase, CompiledTestPlan.caseIsUnselected, decide_eq_true_iff,
    CompiledTestPlan.skippedIds, List.mem_map, hfield]
  simp only [Json.str.injEq, eq_comm]

end Marks

/-! ## When the marks are truthful -/

section Truthful

variable {plan : CompiledTestPlan} {results : List StepResult}

/-- The traced statuses of a compiled case are those of its report. -/
private theorem DcrRunFacts.exists_statuses (hfacts : DcrRunFacts plan results)
    {testCase : CatalogueTestCase} (hmem : testCase ∈ plan.testCases) :
    ∃ report, DcrCaseReport testCase report ∧ testCase.executionSteps.map (fun executionStep =>
      traceStepStatus false ((resultByStepId results).get? executionStep.stepId)) =
        report.map StepResult.status := by
  obtain ⟨report, hreport, hsub⟩ := hfacts.report testCase hmem
  refine ⟨report, hreport, ?_⟩
  have hsteps : testCase.executionSteps.map (fun executionStep =>
      traceStepStatus false ((resultByStepId results).get? executionStep.stepId)) =
      (testCase.executionSteps.map (·.stepId)).map fun stepId =>
        traceStepStatus false ((resultByStepId results).get? stepId) := by
    rw [List.map_map]
    rfl
  rw [hsteps, ← hreport.names, List.map_map]
  refine List.map_congr_left fun result hresult => ?_
  rw [Function.comp_apply, get?_resultByStepId_of_mem hfacts.names_nodup (hsub result hresult)]
  rfl

/-- A traced case that is not unselected is a selected case. -/
private theorem mem_selectedCases {testCase : CatalogueTestCase} :
    testCase ∈ plan.selectedCases ↔
      testCase ∈ traceCases plan ∧ plan.caseIsUnselected testCase = false := by
  rw [CompiledTestPlan.selectedCases, List.mem_filter, Bool.not_eq_true', mem_traceCases,
    List.mem_append]
  refine ⟨fun h => ⟨.inl h.1, h.2⟩, fun h => ⟨h.1.resolve_right fun hskipped => ?_, h.2⟩⟩
  have hunselected : plan.caseIsUnselected testCase = true :=
    decide_eq_true (List.mem_map_of_mem hskipped)
  rw [h.2] at hunselected
  cases hunselected

/-- A passed case of the trace has only passed steps. -/
private theorem DcrRunFacts.steps_passed (hfacts : DcrRunFacts plan results)
    {testCase : CatalogueTestCase} (hmem : testCase ∈ traceCases plan)
    (hpassed : traceCaseStatus plan (resultByStepId results) testCase = .passed) :
    ∀ executionStep ∈ testCase.executionSteps, traceStepStatus (plan.caseIsUnselected testCase)
      ((resultByStepId results).get? executionStep.stepId) = .passed := by
  obtain ⟨hfailed, hsome⟩ := mem_of_aggregateTraceStatus_eq_passed hpassed
  cases hunselected : plan.caseIsUnselected testCase with
  | true => simp [hunselected, traceStepStatus] at hsome
  | false =>
    obtain ⟨report, hreport, hstatuses⟩ := hfacts.exists_statuses
      (List.mem_of_mem_filter (mem_selectedCases.mpr ⟨hmem, hunselected⟩))
    rw [hunselected, hstatuses] at hfailed hsome
    have hall : ∀ status ∈ report.map StepResult.status, status = .passed := by
      rcases hreport.statuses with hskipped | hall | ⟨result, hresult, hstatus⟩
      · obtain ⟨result, hresult, hstatus⟩ := List.mem_map.mp hsome
        rw [hskipped result hresult] at hstatus
        cases hstatus
      · exact List.forall_mem_map.mpr hall
      · exact absurd (List.mem_map.mpr ⟨result, hresult, hstatus⟩) hfailed
    intro executionStep hstep
    exact hall _ (hstatuses ▸ List.mem_map_of_mem hstep)

/-- A case is shown as skipped exactly when none of its steps was executed, or it is
    unselected. -/
private theorem traceCaseStatus_eq_skipped_iff (hnodup : (results.map StepResult.name).Nodup)
    {testCase : CatalogueTestCase} :
    traceCaseStatus plan (resultByStepId results) testCase = .skipped ↔
      (plan.caseIsUnselected testCase = false → ∀ step ∈ testCase.executionSteps,
        ∀ result ∈ results, result.name = step.stepId → result.status = .skipped) := by
  rw [traceCaseStatus, aggregateTraceStatus_eq_skipped_iff, List.forall_mem_map]
  cases plan.caseIsUnselected testCase with
  | true => simp [traceStepStatus]
  | false =>
    simp only [true_implies]
    refine forall₂_congr fun step _ => ?_
    constructor
    · intro hskipped result hresult hname
      rw [← hname, get?_resultByStepId_of_mem hnodup hresult] at hskipped
      exact hskipped
    · intro hall
      cases hget : (resultByStepId results).get? step.stepId with
      | none => rfl
      | some result =>
        obtain ⟨hresult, hname⟩ := mem_of_get?_resultByStepId hget
        exact hall result hresult hname

/-- The marks of the groups are truthful exactly when no selected group was skipped as a
    whole. -/
private theorem groupMarks_iff (hnodup : (results.map StepResult.name).Nodup) :
    (∀ group ∈ (tracedGroups plan).values,
      traceGroupStatus plan (resultByStepId results) group = .skipped ↔
        ∀ testCase ∈ group.testCases, plan.caseIsUnselected testCase = true) ↔
      SelectedGroupsExecuted plan results := by
  have hstatus : ∀ group : TracedGroup,
      traceGroupStatus plan (resultByStepId results) group = .skipped ↔
        ∀ testCase ∈ group.testCases, plan.caseIsUnselected testCase = false →
          ∀ step ∈ testCase.executionSteps, ∀ result ∈ results, result.name = step.stepId →
            result.status = .skipped := by
    intro group
    rw [traceGroupStatus, aggregateTraceStatus_eq_skipped_iff, List.forall_mem_map]
    exact forall₂_congr fun testCase _ => traceCaseStatus_eq_skipped_iff hnodup
  simp only [hstatus]
  constructor
  · intro hmarks testCase hselected traceGroup hmem
    have htraceGroup : testCase.traceGroup = some traceGroup := hmem
    have htrace := mem_selectedCases.mp hselected
    obtain ⟨group, hgroup, hcase⟩ := exists_tracedGroup htrace.1 (by simp [htraceGroup])
    obtain ⟨-, groupId, hcases⟩ := mem_tracedGroups hgroup
    have hid : groupId = traceGroup.groupId := by
      have hin := (List.mem_filter.mp (hcases ▸ hcase)).2
      simpa [CatalogueTestCase.inTraceGroup, htraceGroup, eq_comm] using hin
    by_contra hnone
    have hunselected := (hmarks group hgroup).mp ?_ testCase hcase
    · rw [htrace.2] at hunselected
      cases hunselected
    · intro other hother hnot step hstep result hresult hname
      by_contra hne
      have hmem := List.mem_filter.mp (hcases ▸ hother)
      exact hnone ⟨other, mem_selectedCases.mpr ⟨hmem.1, hnot⟩, hid ▸ hmem.2, step, hstep, result,
        hresult, hname, hne⟩
  · intro hexecuted group hgroup
    obtain ⟨-, groupId, hcases⟩ := mem_tracedGroups hgroup
    constructor
    · intro hskipped testCase hcase
      by_contra hselected
      have hmem := List.mem_filter.mp (hcases ▸ hcase)
      obtain ⟨traceGroup, htraceGroup, hid⟩ : ∃ traceGroup,
          testCase.traceGroup = some traceGroup ∧ traceGroup.groupId = groupId := by
        simpa [CatalogueTestCase.inTraceGroup] using hmem.2
      obtain ⟨executed, hselected', hin, step, hstep, result, hresult, hname, hne⟩ :=
        hexecuted testCase (mem_selectedCases.mpr ⟨hmem.1, by simpa using hselected⟩) traceGroup
          htraceGroup
      have htrace := mem_selectedCases.mp hselected'
      refine hne (hskipped executed ?_ htrace.2 step hstep result hresult hname)
      rw [hcases]
      exact List.mem_filter.mpr ⟨htrace.1, hid ▸ hin⟩
    · intro hunselected testCase hcase hnot
      rw [hunselected testCase hcase] at hnot
      cases hnot

end Truthful

/-- The marks of the trace of an adapter run are truthful exactly when every trace group
    with a selected case has a selected case with an executed step. -/
theorem runDcrAdapter_skipReasons_iff (operations : DcrOperations) (plan : CompiledTestPlan)
    (approvedReleasePolicy : Option ApprovedReleasePolicy) (startedAt finishedAt : String)
    (result : SmokeCheckResult)
    (hrun : runDcrAdapter operations plan approvedReleasePolicy startedAt finishedAt =
      .ok result) :
    TruthfulTrace plan (compiledTraceGroupsToJsonObject plan result.steps) ↔
      SelectedGroupsExecuted plan result.steps := by
  have hfacts := runDcrAdapter_facts hrun
  -- what is said of the rendered trace, about the groups, cases and steps it renders
  have hgroups : ∀ {P : Json → Prop},
      (∀ group ∈ compiledTraceGroupsToJsonObject plan result.steps, P group) ↔
        ∀ group ∈ (tracedGroups plan).values,
          P (.obj (renderTraceGroup plan (resultByStepId result.steps) group)) :=
    List.forall_mem_map
  have hcases : ∀ {P : Json → Prop} {group : TracedGroup},
      (∀ testCase ∈ (Json.obj (renderTraceGroup plan (resultByStepId result.steps) group)).items
        "testCases", P testCase) ↔ ∀ testCase ∈ group.testCases,
          P (.obj (renderTraceCase plan (resultByStepId result.steps) testCase)) := by
    intro P group
    rw [Json.items, field_testCases_renderTraceGroup]
    exact List.forall_mem_map
  have hsteps : ∀ {P : Json → Prop} {testCase : CatalogueTestCase},
      (∀ step ∈ (Json.obj (renderTraceCase plan (resultByStepId result.steps) testCase)).items
        "steps", P step) ↔ ∀ step ∈ testCase.executionSteps,
          P (.obj (renderTraceStep (plan.caseIsUnselected testCase)
            (resultByStepId result.steps) step)) := by
    intro P testCase
    rw [Json.items, field_steps_renderTraceCase]
    exact List.forall_mem_map
  have hgroupMarks : (∀ group ∈ compiledTraceGroupsToJsonObject plan result.steps,
      group.CarriesSkipReason ↔ ∀ testCase ∈ group.items "testCases",
        IsSkippedCase plan testCase) ↔ SelectedGroupsExecuted plan result.steps := by
    rw [hgroups, ← groupMarks_iff hfacts.names_nodup]
    simp only [hcases, carriesSkipReason_group, isSkippedCase_iff]
  refine ⟨fun h => hgroupMarks.mp h.group, fun h => ⟨?_, ?_, hgroupMarks.mpr h, ?_⟩⟩
  · simp only [hgroups, hcases, hsteps, carriesSkipReason_step, isSkippedCase_iff, implies_true]
  · simp only [hgroups, hcases, carriesSkipReason_case, isSkippedCase_iff, implies_true]
  · simp only [hgroups, hcases, hsteps]
    intro group hgroup testCase hcase hpassed step hstep
    have hstatus : traceCaseStatus plan (resultByStepId result.steps) testCase = .passed := by
      have htext : (traceCaseStatus plan (resultByStepId result.steps) testCase).text = "passed" :=
        Json.str.inj hpassed
      cases hvalue : traceCaseStatus plan (resultByStepId result.steps) testCase with
      | passed => rfl
      | failed | warn | skipped =>
        rw [hvalue] at htext
        exact absurd htext (by decide)
    obtain ⟨-, groupId, hmembers⟩ := mem_tracedGroups hgroup
    have hmem := (List.mem_filter.mp (hmembers ▸ hcase)).1
    exact .inl (congrArg (fun status => Json.str (CheckStatus.text status))
      (hfacts.steps_passed hmem hstatus step hstep))

/-- A DCR catalogue of two scenarios, the second of which depends on the first. -/
def twoScenarioCatalogue : TestCatalogue where
  key := ⟨"open-banking", "v3.4", "dcr"⟩
  catalogueVersion := "1.0"
  testCases := [("DCR-001-TC-1", "DCR-001", []), ("DCR-002-TC-1", "DCR-002", ["DCR-001-TC-1"])].map
    fun (testCaseId, groupId, dependencies) =>
      { testCaseId := testCaseId
        mandatory := true
        dependencies := dependencies
        applicability := {
          securityProfiles := ⟨[.all]⟩
          endpointRefs := [⟨.post, "/register"⟩] }
        executionSteps := [
          { stepId := testCaseId ++ "-register"
            definitionId := "register-client"
            name := "Register a client"
            kind := .http }]
        traceGroup := some { groupId := groupId } }

/-- The two scenarios, compiled for a bank that implements registration. -/
def twoScenarioPlan : Except PyError CompiledTestPlan :=
  compileTestPlan (fun _ _ => .ok ()) twoScenarioCatalogue {
    catalogueKey := ⟨"open-banking", "v3.4", "dcr"⟩
    securityProfile := .fapi1Advanced
    implementedEndpoints := [{ method := .post, path := "/register", resourceGroup := "DCR" }]
    runtimeInputs := .empty }

/-- Operations that all pass or all fail. -/
def uniformOperations (passed : Bool) : DcrOperations where
  World := Unit
  ScenarioState := Unit
  newScenarioState := ()
  buildDcrMtlsClient := .ok ()
  executeStepInner _ _ state := (.ok ⟨passed, "Registration endpoint answered", none, none, []⟩, state)
  bestEffortCleanup _ _ := ()

/-- A run of the two scenarios. -/
def twoScenarioRun (passed : Bool) (plan : CompiledTestPlan) : Except PyError SmokeCheckResult :=
  runDcrAdapter (uniformOperations passed) plan none "2026-01-01T00:00:00+00:00"
    "2026-01-01T00:01:00+00:00"

instance (plan : CompiledTestPlan) (results : List StepResult) :
    Decidable (SelectedGroupsExecuted plan results) :=
  inferInstanceAs (Decidable (∀ testCase ∈ plan.selectedCases, ∀ traceGroup ∈ testCase.traceGroup,
    ∃ executed ∈ plan.selectedCases, executed.inTraceGroup traceGroup.groupId = true ∧
      ∃ step ∈ executed.executionSteps, ∃ result ∈ results,
        result.name = step.stepId ∧ result.status ≠ .skipped))

/-- When both scenarios pass, the marks are truthful. -/
theorem runDcrAdapter_skipReasons_passed :
    ∃ plan result, twoScenarioPlan = .ok plan ∧ twoScenarioRun true plan = .ok result ∧
      TruthfulTrace plan (compiledTraceGroupsToJsonObject plan result.steps) := by
  obtain ⟨plan, hplan, hcheck⟩ := exists_ok_of_any (x := twoScenarioPlan)
    (p := fun plan => (twoScenarioRun true plan).toOption.any fun result =>
      SelectedGroupsExecuted plan result.steps) (by decide +kernel)
  obtain ⟨result, hrun, hexecuted⟩ := exists_ok_of_any hcheck
  exact ⟨plan, result, hplan, hrun, (runDcrAdapter_skipReasons_iff (uniformOperations true) plan
    none _ _ result hrun).mpr (of_decide_eq_true hexecuted)⟩

/-- When the first scenario fails, the second is marked as `endpoint-not-selected` although
    its case is selected. -/
theorem runDcrAdapter_skipReasons_prerequisite_fails :
    ¬ ∀ (validateHttpsUrl : String → String → Except PyError Unit) (catalogue : TestCatalogue)
      (spec : TestPlanSpec) (plan : CompiledTestPlan) (operations : DcrOperations)
      (approvedReleasePolicy : Option ApprovedReleasePolicy) (startedAt finishedAt : String)
      (result : SmokeCheckResult),
      compileTestPlan validateHttpsUrl catalogue spec = .ok plan →
      runDcrAdapter operations plan approvedReleasePolicy startedAt finishedAt = .ok result →
      TruthfulTrace plan (compiledTraceGroupsToJsonObject plan result.steps) := by
  intro hall
  obtain ⟨plan, hplan, hcheck⟩ := exists_ok_of_any (x := twoScenarioPlan)
    (p := fun plan => (twoScenarioRun false plan).toOption.any fun result =>
      plan.skippedTestCases = [] &&
        (compiledTraceGroupsToJsonObject plan result.steps).any fun group =>
          (group.field "skipReason").pyEq (.str "endpoint-not-selected") &&
            !(group.items "testCases").isEmpty) (by decide +kernel)
  obtain ⟨result, hrun, hmarked⟩ := exists_ok_of_any hcheck
  rw [Bool.and_eq_true, List.any_eq_true] at hmarked
  obtain ⟨hselected, group, hgroup, hmark⟩ := hmarked
  rw [Bool.and_eq_true, Json.pyEq_str_iff] at hmark
  obtain ⟨hmark, hcases⟩ := hmark
  obtain ⟨testCase, hcase⟩ := List.exists_mem_of_ne_nil (group.items "testCases")
    (by simpa using hcases)
  -- no case of the plan was left out, and yet the group carries the reason
  have htruthful := hall _ _ _ plan (uniformOperations false) none _ _ result hplan hrun
  obtain ⟨skipped, hskipped, -⟩ := (htruthful.group group hgroup).mp hmark testCase hcase
  rw [of_decide_eq_true hselected] at hskipped
  exact absurd hskipped List.not_mem_nil

end Conformance
