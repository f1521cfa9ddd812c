import Conformance.Native.Executor
import Conformance.Spec.ManifestCorrect

/-!
# What a manifest run reports

A plan derived from a manifest has one row per manifest step, the schedule holds
exactly the selected steps, and a run returns exactly one result per selected step,
under the step's id and with its `mandatory` flag.
-/

namespace Conformance

open Except

variable {p : FieldParsers}

/-! ## Plan rows -/

/-- The id and the `mandatory` flag of a step, which its plan row and its result repeat. -/
def V1Step.key (step : V1Step p) : String × Bool := (step.id, step.mandatory)

/-- The id and the `mandatory` flag of a plan row. -/
def TestPlanEntry.key (entry : TestPlanEntry) : String × Bool := (entry.stepId, entry.mandatory)

/-- The id and the `mandatory` flag of a step result. -/
def StepResult.key (result : StepResult) : String × Bool := (result.name, result.mandatory)

namespace TestPlan

/-- Deselection keeps the rows and only clears flags. -/
theorem withDeselection_keys {plan plan' : TestPlan} {stepIds : List String}
    (h : plan.withDeselection stepIds = .ok plan') :
    plan'.entries.map TestPlanEntry.key = plan.entries.map TestPlanEntry.key := by
  obtain ⟨-, hok⟩ := ite_error_eq_ok.mp h
  rw [← Except.ok.inj hok, List.map_map]
  rfl

/-- A derived plan has one row per manifest step, in manifest order. -/
theorem Derived.keys {manifest : Manifest p} {plan : TestPlan} (hplan : Derived manifest plan)
    (hv1 : manifest.schemaVersion = .v1) :
    plan.entries.map TestPlanEntry.key = manifest.steps.map V1Step.key := by
  induction hplan with
  | default =>
    rw [defaultPlanFromManifest, if_neg (not_not_intro hv1), List.map_map]
    rfl
  | deselect stepIds _ hdeselect ih => exact (withDeselection_keys hdeselect).trans ih

/-- Every manifest step has a row. -/
theorem Derived.exists_entry {manifest : Manifest p} {plan : TestPlan}
    (hplan : Derived manifest plan) (hv1 : manifest.schemaVersion = .v1) {step : V1Step p}
    (hstep : step ∈ manifest.steps) :
    ∃ entry ∈ plan.entries, entry.stepId = step.id ∧ entry.mandatory = step.mandatory := by
  have hkey : step.key ∈ plan.entries.map TestPlanEntry.key := by
    rw [hplan.keys hv1]
    exact List.mem_map_of_mem hstep
  obtain ⟨entry, hentry, heq⟩ := List.mem_map.mp hkey
  exact ⟨entry, hentry, congrArg Prod.fst heq, congrArg Prod.snd heq⟩

/-- Every row belongs to a manifest step. -/
theorem Derived.exists_step {manifest : Manifest p} {plan : TestPlan}
    (hplan : Derived manifest plan) (hv1 : manifest.schemaVersion = .v1) {entry : TestPlanEntry}
    (hentry : entry ∈ plan.entries) :
    ∃ step ∈ manifest.steps, step.id = entry.stepId ∧ step.mandatory = entry.mandatory := by
  have hkey : entry.key ∈ manifest.steps.map V1Step.key := by
    rw [← hplan.keys hv1]
    exact List.mem_map_of_mem hentry
  obtain ⟨step, hstep, heq⟩ := List.mem_map.mp hkey
  exact ⟨step, hstep, congrArg Prod.fst heq, congrArg Prod.snd heq⟩

/-- The rows of a derived plan have distinct ids. -/
theorem Derived.stepIds_nodup {manifest : Manifest p} {plan : TestPlan}
    (hplan : Derived manifest plan) (hv1 : manifest.schemaVersion = .v1)
    (hids : manifest.WellFormedIds) : (plan.entries.map TestPlanEntry.stepId).Nodup := by
  have hstepIds : plan.entries.map TestPlanEntry.stepId = manifest.steps.map V1Step.id := by
    have hfst := congrArg (List.map Prod.fst) (hplan.keys hv1)
    rw [List.map_map, List.map_map] at hfst
    exact hfst
  rw [hstepIds]
  exact hids.nodup

/-- A mandatory step is either selected or listed as a deselected mandatory step. -/
theorem Derived.mem_deselectedMandatoryStepIds_iff {manifest : Manifest p} {plan : TestPlan}
    (hplan : Derived manifest plan) (hv1 : manifest.schemaVersion = .v1)
    (hids : manifest.WellFormedIds) {step : V1Step p} (hstep : step ∈ manifest.steps)
    (hmandatory : step.mandatory = true) :
    step.id ∈ plan.deselectedMandatoryStepIds ↔ step.id ∉ plan.selectedStepIds := by
  constructor
  · intro hdeselected hselected
    obtain ⟨entry, hentry, hid⟩ := List.mem_map.mp hdeselected
    obtain ⟨other, hother, hid'⟩ := List.mem_map.mp hselected
    rw [List.mem_filter] at hentry hother
    have heq : entry = other := List.inj_on_of_nodup_map (hplan.stepIds_nodup hv1 hids) hentry.1
      hother.1 (hid.trans hid'.symm)
    simp [heq, hother.2] at hentry
  · intro hnotSelected
    obtain ⟨entry, hentry, hid, hflag⟩ := hplan.exists_entry hv1 hstep
    have hnot : entry.selected = false := by
      by_contra hsel
      exact hnotSelected (List.mem_map.mpr
        ⟨entry, List.mem_filter.mpr ⟨hentry, by simpa using hsel⟩, hid⟩)
    exact List.mem_map.mpr
      ⟨entry, List.mem_filter.mpr ⟨hentry, by simp [hflag, hmandatory, hnot]⟩, hid⟩

/-- No mandatory step is deselected exactly when all of them are selected. -/
theorem Derived.deselectedMandatoryStepIds_eq_nil_iff {manifest : Manifest p} {plan : TestPlan}
    (hplan : Derived manifest plan) (hv1 : manifest.schemaVersion = .v1)
    (hids : manifest.WellFormedIds) :
    plan.deselectedMandatoryStepIds = [] ↔
      ∀ step ∈ manifest.steps, step.mandatory = true → step.id ∈ plan.selectedStepIds := by
  constructor
  · intro hnil step hstep hmandatory
    have hiff := hplan.mem_deselectedMandatoryStepIds_iff hv1 hids hstep hmandatory
    rw [hnil] at hiff
    by_contra hnot
    exact absurd (hiff.mpr hnot) List.not_mem_nil
  · intro hall
    rw [List.eq_nil_iff_forall_not_mem]
    intro stepId hmem
    obtain ⟨entry, hentry, rfl⟩ := List.mem_map.mp hmem
    rw [List.mem_filter, Bool.and_eq_true] at hentry
    obtain ⟨step, hstep, hid, hflag⟩ := hplan.exists_step hv1 hentry.1
    have hmandatory : step.mandatory = true := hflag.trans hentry.2.1
    rw [← hid] at hmem
    exact (hplan.mem_deselectedMandatoryStepIds_iff hv1 hids hstep hmandatory).mp hmem
      (hall step hstep hmandatory)

end TestPlan

/-! ## Schedules -/

/-- The steps a schedule accumulator holds. -/
def ScheduleAccumulator.steps (acc : ScheduleAccumulator p) : List (V1Step p) :=
  acc.setupSteps ++ acc.groupedSteps.values.flatten

/-- One round of the schedule loop adds the step if it is selected. -/
theorem scheduleStep_perm (selectedStepIds : List String) (acc : ScheduleAccumulator p)
    (step : V1Step p) :
    (scheduleStep selectedStepIds acc step).steps.Perm
      (acc.steps ++ [step].filter fun step => step.id ∈ selectedStepIds) := by
  unfold scheduleStep
  by_cases hselected : step.id ∈ selectedStepIds
  · rw [if_neg (not_not_intro hselected)]
    simp only [hselected, decide_true, List.filter_cons_of_pos, List.filter_nil]
    by_cases hsetup : step.phase = .setup
    · rw [if_pos hsetup]
      simp only [ScheduleAccumulator.steps, List.append_assoc]
      exact List.Perm.append_left _ List.perm_append_comm
    · rw [if_neg hsetup]
      simp only [ScheduleAccumulator.steps, List.append_assoc]
      exact List.Perm.append_left _ (Dict.flatten_values_set_snoc _ _ _)
  · rw [if_pos hselected]
    simp [hselected]

/-- The loop over the manifest gathers exactly the selected steps. -/
theorem foldl_scheduleStep_perm (selectedStepIds : List String) (steps : List (V1Step p))
    (acc : ScheduleAccumulator p) :
    (steps.foldl (scheduleStep selectedStepIds) acc).steps.Perm
      (acc.steps ++ steps.filter fun step => step.id ∈ selectedStepIds) := by
  induction steps generalizing acc with
  | nil => simp
  | cons step rest ih =>
    rw [List.foldl_cons]
    refine (ih _).trans ?_
    have hround := (scheduleStep_perm selectedStepIds acc step).append_right
      (rest.filter fun step => step.id ∈ selectedStepIds)
    rwa [List.append_assoc, ← List.filter_append] at hround

/-- A schedule holds exactly the selected steps. -/
theorem buildExecutionSchedule_perm {manifest : Manifest p} (plan : TestPlan)
    (hv1 : manifest.schemaVersion = .v1) :
    ((buildExecutionSchedule manifest plan).setupSteps ++
      ((buildExecutionSchedule manifest plan).executionGroups.map ExecutionGroup.steps).flatten).Perm
      (manifest.steps.filter fun step => step.id ∈ plan.selectedStepIds) := by
  have hloop := foldl_scheduleStep_perm plan.selectedStepIds manifest.steps {}
  rw [buildExecutionSchedule, if_neg (not_not_intro hv1)]
  simp only [List.map_map]
  exact hloop

/-! ## Runs -/

variable (executor : StepExecutor p)

/-- A step's result repeats its id and its `mandatory` flag. -/
theorem executeV1ManifestStep_key {step : V1Step p} {context newContext : executor.Context}
    {result : StepResult}
    (h : executeV1ManifestStep executor step context = .ok (result, newContext)) :
    result.key = step.key := by
  obtain ⟨⟨outcome, newContext'⟩, -, hresult⟩ := bind_eq_ok.mp h
  obtain ⟨rfl, -⟩ := Prod.mk.inj (Except.ok.inj hresult)
  by_cases hmandatory : step.mandatory = true
  · rw [if_pos hmandatory]
    simp [StepResult.key, V1Step.key, StepOutcome.toStepResult, hmandatory]
  · rw [if_neg hmandatory]
    simp [StepResult.key, V1Step.key, StepOutcome.toStepResult, hmandatory]

/-- A sequence of steps yields their results, one each and in order. -/
theorem executeV1StepSequence_keys {steps : List (V1Step p)} {context newContext : executor.Context}
    {results : List StepResult}
    (h : executeV1StepSequence executor steps context = .ok (results, newContext)) :
    results.map StepResult.key = steps.map V1Step.key := by
  have hacc : ((results, newContext).1).map StepResult.key = steps.map V1Step.key := by
    refine List.foldlM_ok_induction
      (P := fun done acc => acc.1.map StepResult.key = done.map V1Step.key) h rfl ?_
    intro done step acc acc' _ hacc hround
    obtain ⟨⟨result, newContext'⟩, hstep, hnext⟩ := bind_eq_ok.mp hround
    rw [← Except.ok.inj hnext]
    simp [hacc, executeV1ManifestStep_key executor hstep]
  exact hacc

/-- The groups together yield one result per scheduled step. -/
theorem executeV1ExecutionGroupsConcurrently_keys {groups : List (ExecutionGroup p)}
    {context : executor.Context} {manifest : Manifest p} {results : List StepResult}
    (h : executeV1ExecutionGroupsConcurrently executor groups context manifest = .ok results) :
    (results.map StepResult.key).Perm ((groups.map ExecutionGroup.steps).flatten.map V1Step.key) := by
  obtain ⟨completed, hcompleted, hresults⟩ := bind_eq_ok.mp h
  have hgroups : completed.map (List.map StepResult.key) =
      groups.map fun group => group.steps.map V1Step.key := by
    refine (List.Forall₂.map_eq (List.mapM_eq_ok.mp hcompleted) ?_).symm
    intro group groupResults hgroup
    obtain ⟨⟨groupSteps, newContext⟩, hsequence, hreturn⟩ := bind_eq_ok.mp hgroup
    rw [← Except.ok.inj hreturn]
    exact (executeV1StepSequence_keys executor hsequence).symm
  rw [← Except.ok.inj hresults]
  refine ((List.perm_insertionSort _ completed.flatten).map StepResult.key).trans ?_
  rw [List.map_flatten, List.map_flatten, hgroups, List.map_map]
  rfl

/-- The results of a run are those of the selected steps, one each. -/
theorem executeSchedule_keys {manifest : Manifest p} {plan : TestPlan} {results : List StepResult}
    (h : executeSchedule executor manifest plan = .ok results)
    (hv1 : manifest.schemaVersion = .v1) :
    (results.map StepResult.key).Perm
      ((manifest.steps.filter fun step => step.id ∈ plan.selectedStepIds).map V1Step.key) := by
  obtain ⟨⟨setupSteps, context⟩, hsetup, h⟩ := bind_eq_ok.mp h
  obtain ⟨executionSteps, hgroups, hresults⟩ := bind_eq_ok.mp h
  rw [← Except.ok.inj hresults, List.map_append, executeV1StepSequence_keys executor hsetup]
  refine ((executeV1ExecutionGroupsConcurrently_keys executor hgroups).append_left _).trans ?_
  rw [← List.map_append]
  exact (buildExecutionSchedule_perm plan hv1).map V1Step.key

/-- A v1 run that returns has executed its schedule and built its result from it. -/
theorem runManifest_eq_ok {manifest : Manifest p} {plan : TestPlan}
    {policy : Option ApprovedReleasePolicy} {startedAt finishedAt : String}
    {result : SmokeCheckResult}
    (h : runManifest executor manifest (some plan) policy startedAt finishedAt = .ok result)
    (hv1 : manifest.schemaVersion = .v1) :
    ∃ steps, executeSchedule executor manifest plan = .ok steps ∧
      result = buildSmokeCheckResult steps startedAt finishedAt (some plan) policy
        manifest.certificationCoverage none [] := by
  rw [runManifest, if_pos hv1] at h
  obtain ⟨steps, hsteps, hresult⟩ := bind_eq_ok.mp h
  exact ⟨steps, hsteps, (Except.ok.inj hresult).symm⟩

end Conformance
