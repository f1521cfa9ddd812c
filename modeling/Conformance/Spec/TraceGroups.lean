import Conformance.Native.ResultGate
import Conformance.Native.Trace

/-!
# The scenario trace

What the trace of a report is made of: the groups that `grouped_cases` holds and the
results that `result_by_step_id` finds.

## Key results

- `get?_tracedGroups`: a group holds the cases of its id, in trace order
- `mem_tracedGroups`: so every group of a trace has at least one case
-/

namespace Conformance

open ResultGate

/-! ## Reading decoded JSON -/

/-- The value of a field, `null` where there is none. -/
def Json.field (value : Json) (key : String) : Json :=
  match value with
  | .obj fields => getField fields key
  | _ => .null

/-- The items of an array field, none where there is no array. -/
def Json.items (value : Json) (key : String) : List Json :=
  match value.field key with
  | .arr items => items
  | _ => []

/-! ## Results by step id -/

/-- A result found by its id is a result of the run. -/
theorem mem_of_get?_resultByStepId {steps : List StepResult} {stepId : String}
    {result : StepResult} (h : (resultByStepId steps).get? stepId = some result) :
    result ∈ steps ∧ result.name = stepId := by
  unfold resultByStepId at h
  induction steps using List.reverseRecOn with
  | nil => simp at h
  | append_singleton steps step ih =>
    rw [List.foldl_append, List.foldl_cons, List.foldl_nil, Dict.get?_set] at h
    split at h
    · rename_i hname
      obtain rfl := Option.some.inj h
      exact ⟨List.mem_append_right _ List.mem_cons_self, hname.symm⟩
    · exact ⟨List.mem_append_left _ (ih h).1, (ih h).2⟩

/-- With distinct names, every result is found. -/
theorem get?_resultByStepId_of_mem {steps : List StepResult}
    (hnodup : (steps.map StepResult.name).Nodup) {result : StepResult} (hmem : result ∈ steps) :
    (resultByStepId steps).get? result.name = some result :=
  Dict.get?_foldl_set_of_mem (fun step => step) hnodup hmem .empty

/-! ## Groups -/

/-- Whether a case belongs to the trace group of the given id. -/
def CatalogueTestCase.inTraceGroup (groupId : String) (testCase : CatalogueTestCase) : Bool :=
  testCase.traceGroup.map (·.groupId) = some groupId

/-- The group of a list of cases: the first one gives its metadata. -/
def tracedGroupOf : List CatalogueTestCase → Option TracedGroup
  | [] => none
  | testCase :: rest => testCase.traceGroup.map fun metadata => ⟨metadata, testCase :: rest⟩

/-- One more case joins its group. -/
private theorem tracedGroupOf_append {cases : List CatalogueTestCase} {group : TracedGroup}
    (testCase : CatalogueTestCase) (h : tracedGroupOf cases = some group) :
    tracedGroupOf (cases ++ [testCase]) =
      some { group with testCases := group.testCases ++ [testCase] } := by
  cases cases with
  | nil => cases h
  | cons first rest =>
    obtain ⟨metadata, hmetadata, rfl⟩ := Option.map_eq_some_iff.mp h
    rw [List.cons_append, tracedGroupOf, hmetadata]
    rfl

/-- Under each id the loop has gathered the cases of that id, in order. -/
private theorem get?_foldl_addTracedCase (cases : List CatalogueTestCase) (groupId : String) :
    (cases.foldl addTracedCase .empty).get? groupId =
      tracedGroupOf (cases.filter (·.inTraceGroup groupId)) := by
  induction cases using List.reverseRecOn with
  | nil => rfl
  | append_singleton cases testCase ih =>
    rw [List.foldl_append, List.foldl_cons, List.foldl_nil, List.filter_append]
    cases hgroup : testCase.traceGroup with
    | none =>
      have hnot : testCase.inTraceGroup groupId = false := by
        simp [CatalogueTestCase.inTraceGroup, hgroup]
      rw [addTracedCase, hgroup, List.filter_singleton, hnot, ih]
      exact congrArg tracedGroupOf (List.append_nil _).symm
    | some metadata =>
      by_cases hid : metadata.groupId = groupId
      · have hin : testCase.inTraceGroup groupId = true := by
          simp [CatalogueTestCase.inTraceGroup, hgroup, hid]
        rw [List.filter_singleton, hin]
        simp only [addTracedCase, hgroup, hid, ih, cond_true]
        -- the first case of an id opens the group, the others join it
        cases hfound : tracedGroupOf (cases.filter (·.inTraceGroup groupId)) with
        | none =>
          have hnil : cases.filter (·.inTraceGroup groupId) = [] := by
            cases hcases : cases.filter (·.inTraceGroup groupId) with
            | nil => rfl
            | cons first rest =>
              have hfirst : first.inTraceGroup groupId = true :=
                (List.mem_filter.mp (hcases ▸ List.mem_cons_self)).2
              rw [hcases, tracedGroupOf, Option.map_eq_none_iff] at hfound
              simp [CatalogueTestCase.inTraceGroup, hfound] at hfirst
          rw [hnil, Dict.get?_set, if_pos rfl, List.nil_append, tracedGroupOf, hgroup]
          rfl
        | some group =>
          simp [tracedGroupOf_append testCase hfound]
      · have hnot : testCase.inTraceGroup groupId = false := by
          simp [CatalogueTestCase.inTraceGroup, hgroup, hid]
        rw [List.filter_singleton, hnot, cond_false, List.append_nil, ← ih]
        simp only [addTracedCase, hgroup]
        split <;> rw [Dict.get?_set, if_neg (Ne.symm hid)]

/-- A group holds the cases of its id, in trace order. -/
theorem get?_tracedGroups (plan : CompiledTestPlan) (groupId : String) :
    (tracedGroups plan).get? groupId =
      tracedGroupOf ((traceCases plan).filter (·.inTraceGroup groupId)) :=
  get?_foldl_addTracedCase (traceCases plan) groupId

/-- The traced cases are the selected and the skipped ones. -/
theorem mem_traceCases {plan : CompiledTestPlan} {testCase : CatalogueTestCase} :
    testCase ∈ traceCases plan ↔ testCase ∈ plan.testCases ++ plan.skippedTestCases :=
  List.mem_insertionSort _

/-- A group of the trace is not empty, and its cases are those of one id. -/
theorem mem_tracedGroups {plan : CompiledTestPlan} {group : TracedGroup}
    (h : group ∈ (tracedGroups plan).values) :
    group.testCases ≠ [] ∧ ∃ groupId,
      group.testCases = (traceCases plan).filter (·.inTraceGroup groupId) := by
  obtain ⟨groupId, hget⟩ := Dict.mem_values_iff.mp h
  rw [get?_tracedGroups] at hget
  cases hcases : (traceCases plan).filter (·.inTraceGroup groupId) with
  | nil =>
    rw [hcases] at hget
    cases hget
  | cons first rest =>
    rw [hcases, tracedGroupOf, Option.map_eq_some_iff] at hget
    obtain ⟨metadata, -, rfl⟩ := hget
    exact ⟨List.cons_ne_nil _ _, groupId, hcases.symm⟩

/-- A case with a trace group is in a group of the trace. -/
theorem exists_tracedGroup {plan : CompiledTestPlan} {testCase : CatalogueTestCase}
    (hmem : testCase ∈ traceCases plan) (hgroup : testCase.traceGroup ≠ none) :
    ∃ group ∈ (tracedGroups plan).values, testCase ∈ group.testCases := by
  obtain ⟨metadata, hmetadata⟩ := Option.ne_none_iff_exists'.mp hgroup
  have hin : testCase ∈ (traceCases plan).filter (·.inTraceGroup metadata.groupId) :=
    List.mem_filter.mpr ⟨hmem, by simp [CatalogueTestCase.inTraceGroup, hmetadata]⟩
  have hget := get?_tracedGroups plan metadata.groupId
  cases hcases : (traceCases plan).filter (·.inTraceGroup metadata.groupId) with
  | nil => simp [hcases] at hin
  | cons first rest =>
    have hfirst : first.inTraceGroup metadata.groupId = true :=
      (List.mem_filter.mp (hcases ▸ List.mem_cons_self)).2
    obtain ⟨firstMetadata, hfirst⟩ : ∃ firstMetadata, first.traceGroup = some firstMetadata := by
      cases hnone : first.traceGroup with
      | none => simp [CatalogueTestCase.inTraceGroup, hnone] at hfirst
      | some firstMetadata => exact ⟨firstMetadata, rfl⟩
    rw [hcases, tracedGroupOf, hfirst] at hget
    exact ⟨_, Dict.mem_values_iff.mpr ⟨_, hget⟩, hcases ▸ hin⟩

/-! ## Statuses -/

/-- A group fails when one of its cases does. -/
theorem aggregateTraceStatus_eq_failed_iff {statuses : List CheckStatus} :
    aggregateTraceStatus statuses = .failed ↔ .failed ∈ statuses := by
  unfold aggregateTraceStatus
  split
  · simp_all
  · split
    · simp_all
    · split <;> simp_all

/-- A group is skipped when all of its cases are. -/
theorem aggregateTraceStatus_eq_skipped_iff {statuses : List CheckStatus} :
    aggregateTraceStatus statuses = .skipped ↔ ∀ status ∈ statuses, status = .skipped := by
  constructor
  · intro h status hstatus
    unfold aggregateTraceStatus at h
    repeat' split at h
    all_goals cases h
    cases status with
    | skipped => rfl
    | passed | failed | warn => contradiction
  · intro h
    unfold aggregateTraceStatus
    have hnot : ∀ status, status ≠ .skipped → status ∉ statuses := fun status hne hmem =>
      hne (h status hmem)
    rw [if_neg (hnot _ (by decide)), if_neg (hnot _ (by decide)), if_neg (hnot _ (by decide))]

/-- A passed aggregate has a passed status and no failed one. -/
theorem mem_of_aggregateTraceStatus_eq_passed {statuses : List CheckStatus}
    (h : aggregateTraceStatus statuses = .passed) : .failed ∉ statuses ∧ .passed ∈ statuses := by
  unfold aggregateTraceStatus at h
  split at h
  · cases h
  · split at h
    · cases h
    · split at h
      · exact ⟨‹_›, ‹_›⟩
      · cases h

/-! ## Rendered entries -/

section Rendered

variable (plan : CompiledTestPlan) (results : Dict String StepResult)

/-- The steps of a rendered case. -/
theorem field_steps_renderTraceCase (testCase : CatalogueTestCase) :
    (Json.obj (renderTraceCase plan results testCase)).field "steps" =
      .arr (testCase.executionSteps.map fun executionStep =>
        .obj (renderTraceStep (plan.caseIsUnselected testCase) results executionStep)) := by
  unfold renderTraceCase skipReasonField
  split <;> rfl

/-- The cases of a rendered group. -/
theorem field_testCases_renderTraceGroup (group : TracedGroup) :
    (Json.obj (renderTraceGroup plan results group)).field "testCases" =
      .arr (group.testCases.map fun testCase => .obj (renderTraceCase plan results testCase)) := by
  unfold renderTraceGroup skipReasonField
  split <;> rfl

end Rendered

end Conformance
