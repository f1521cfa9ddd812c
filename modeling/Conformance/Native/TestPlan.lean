import Conformance.Native.Manifest

/-!
# Test plans and execution schedules

`conformance/test_plan.py` and `conformance/execution_schedule.py`: which steps
of a manifest a participant runs, and in which setup sequence and execution
groups the selected ones are run.
-/

namespace Conformance

/-- One row of a test plan. -/
structure TestPlanEntry where
  stepId : String
  mandatory : Bool
  optional : Bool
  selected : Bool
  deriving DecidableEq, Repr

/-- The ordered plan of which manifest steps to execute. -/
structure TestPlan where
  entries : List TestPlanEntry
  deriving DecidableEq, Repr

/-- `TestPlan.summary()`, the report's `plan` block. -/
structure PlanSummary where
  totalSteps : Nat
  selectedSteps : Nat
  deselectedSteps : Nat
  mandatorySelected : Nat
  mandatoryDeselected : Nat
  deriving DecidableEq, Repr

namespace TestPlan

/-- `TestPlan.default_plan_from_manifest`. -/
def defaultPlanFromManifest {p : FieldParsers} (manifest : Manifest p) : TestPlan :=
  if manifest.schemaVersion ≠ .v1 then ⟨[]⟩
  else ⟨manifest.steps.map fun step =>
    { stepId := step.id, mandatory := step.mandatory, optional := step.optional,
      selected := step.mandatory || !step.optional }⟩

/-- `TestPlan.with_deselection`. -/
def withDeselection (plan : TestPlan) (stepIds : List String) : Except PyError TestPlan :=
  let knownIds := plan.entries.map TestPlanEntry.stepId
  let unknown := stepIds.dedup.filter fun stepId => stepId ∉ knownIds
  if unknown ≠ [] then
    .error (.valueError ("Unknown step id(s) in deselection: " ++
      ", ".intercalate (sorted unknown)))
  else .ok ⟨plan.entries.map fun entry =>
    { entry with selected := if entry.stepId ∈ stepIds then false else entry.selected }⟩

/-- `TestPlan.selected_step_ids`. -/
def selectedStepIds (plan : TestPlan) : List String :=
  (plan.entries.filter TestPlanEntry.selected).map TestPlanEntry.stepId

/-- `TestPlan.deselected_mandatory_step_ids`. -/
def deselectedMandatoryStepIds (plan : TestPlan) : List String :=
  (plan.entries.filter fun entry => entry.mandatory && !entry.selected).map TestPlanEntry.stepId

/-- `TestPlan.summary`. -/
def summary (plan : TestPlan) : PlanSummary :=
  let total := plan.entries.length
  let selected := plan.entries.countP TestPlanEntry.selected
  { totalSteps := total
    selectedSteps := selected
    deselectedSteps := total - selected
    mandatorySelected := plan.entries.countP fun entry => entry.mandatory && entry.selected
    mandatoryDeselected := plan.entries.countP fun entry => entry.mandatory && !entry.selected }

/-- The plans that `with_deselection` reaches from the default plan of a manifest. -/
inductive Derived {p : FieldParsers} (manifest : Manifest p) : TestPlan → Prop where
  | default : Derived manifest (defaultPlanFromManifest manifest)
  | deselect {plan plan' : TestPlan} (stepIds : List String) :
      Derived manifest plan → plan.withDeselection stepIds = .ok plan' → Derived manifest plan'

end TestPlan

/-! ## Schedules -/

/-- Selected steps of one execution group, in manifest order. -/
structure ExecutionGroup (p : FieldParsers) where
  groupId : String
  steps : List (V1Step p)

/-- Setup steps first, then the execution groups in order of first appearance. -/
structure ExecutionSchedule (p : FieldParsers) where
  setupSteps : List (V1Step p)
  executionGroups : List (ExecutionGroup p)

/-- The accumulators of the loop of `build_execution_schedule`. The insertion order
    of `grouped_steps` is the source's `group_order`. -/
structure ScheduleAccumulator (p : FieldParsers) where
  setupSteps : List (V1Step p) := []
  groupedSteps : Dict String (List (V1Step p)) := .empty

/-- One round of the loop of `build_execution_schedule`. -/
def scheduleStep {p : FieldParsers} (selectedStepIds : List String) (acc : ScheduleAccumulator p)
    (step : V1Step p) : ScheduleAccumulator p :=
  if step.id ∉ selectedStepIds then acc
  else if step.phase = .setup then { acc with setupSteps := acc.setupSteps ++ [step] }
  else { acc with
    groupedSteps := acc.groupedSteps.set step.group
      ((acc.groupedSteps.get? step.group).getD [] ++ [step]) }

/-- `build_execution_schedule`. -/
def buildExecutionSchedule {p : FieldParsers} (manifest : Manifest p) (plan : TestPlan) :
    ExecutionSchedule p :=
  if manifest.schemaVersion ≠ .v1 then ⟨[], []⟩
  else
    let acc := manifest.steps.foldl (scheduleStep plan.selectedStepIds) {}
    ⟨acc.setupSteps, acc.groupedSteps.entries.map fun entry => ⟨entry.1, entry.2⟩⟩

end Conformance
