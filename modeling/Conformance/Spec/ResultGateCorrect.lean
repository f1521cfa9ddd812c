import Conformance.Native.CompiledRun
import Conformance.Native.ResultGate
import Conformance.Spec.TraceGroups

/-!
# What the result gate accepts

The gate derives its verdict again from the JSON. On reports that the suite writes,
its verdict is the aggregate one, with a trace required of DCR plans. On other JSON,
a failed status at any of the four levels makes it raise, and the exception is its
own except where `api` is a value that cannot be looked up in a set.

## Key results

- `validateStructuredConformanceResult_ok_iff`: what the gate accepts, over all JSON
- `validateStructuredConformanceResult_report_iff`: which reports it accepts
- `validateStructuredConformanceResult_verdict`: both halves of the gate's contract
-/

namespace Conformance

open Except ResultGate

/-! ## Statuses in decoded JSON -/

/-- A value with status `failed`. -/
def Json.Failed (value : Json) : Prop := value.field "status" = .str "failed"

/-- A step, a trace group, a case of one or a step of such a case has failed. -/
def HasFailedOutcome (result : Json) : Prop :=
  (∃ step ∈ result.items "steps", step.Failed) ∨
  ∃ group ∈ (result.field "catalogue").items "traceGroups", group.Failed ∨
    ∃ testCase ∈ group.items "testCases", testCase.Failed ∨
      ∃ step ∈ testCase.items "steps", step.Failed

/-- An object with a known status that is not `failed`. -/
def Json.Clean (value : Json) : Prop :=
  ∃ fields status, value = .obj fields ∧ status ≠ CheckStatus.failed ∧
    getField fields "status" = .str status.text

/-- A case whose status and whose steps are clean. -/
structure CleanCase (value : Json) : Prop where
  clean : value.Clean
  steps : ∃ steps, value.field "steps" = .arr steps
  steps_clean : ∀ step ∈ value.items "steps", step.Clean

/-- A group whose status and whose cases are clean. -/
structure CleanGroup (value : Json) : Prop where
  clean : value.Clean
  cases : ∃ cases, value.field "testCases" = .arr cases
  cases_clean : ∀ testCase ∈ value.items "testCases", CleanCase testCase

/-- A clean value has not failed. -/
theorem Json.Clean.not_failed {value : Json} (h : value.Clean) : ¬ value.Failed := by
  obtain ⟨fields, status, rfl, hstatus, hfield⟩ := h
  intro hfailed
  rw [Json.Failed, Json.field, hfield] at hfailed
  cases status with
  | failed => exact hstatus rfl
  | passed | warn | skipped => exact absurd (Json.str.inj hfailed) (by decide)

/-- Nothing in a clean group has failed. -/
theorem CleanGroup.not_failed {group : Json} (h : CleanGroup group) :
    ¬ (group.Failed ∨ ∃ testCase ∈ group.items "testCases", testCase.Failed ∨
      ∃ step ∈ testCase.items "steps", step.Failed) := by
  rintro (hfailed | ⟨testCase, hcase, hfailed | ⟨step, hstep, hfailed⟩⟩)
  · exact h.clean.not_failed hfailed
  · exact (h.cases_clean testCase hcase).clean.not_failed hfailed
  · exact ((h.cases_clean testCase hcase).steps_clean step hstep).not_failed hfailed

/-! ## The readers of the gate -/

/-- The gate's own exception. -/
def PyError.IsGateError : PyError → Prop
  | .structuredResultGateError _ => True
  | _ => False

/-- A value is read as an object exactly when it is one. -/
theorem object_eq_ok {value : Json} {location : String} {fields : JsonObject} :
    object value location = .ok fields ↔ value = .obj fields := by
  unfold object
  split <;> simp_all

/-- A value is read as an array exactly when it is one. -/
theorem array_eq_ok {value : Json} {location : String} {items : List Json} :
    array value location = .ok items ↔ value = .arr items := by
  unfold array
  split <;> simp_all

/-- A status is read from its text. -/
theorem resultStatus?_eq_some {value : Json} {status : CheckStatus} :
    resultStatus? value = some status ↔ value = .str status.text := by
  constructor
  · intro h
    unfold resultStatus? at h
    split at h
    · have htext := List.find?_some h
      exact congrArg Json.str (of_decide_eq_true htext).symm
    · cases h
  · rintro rfl
    cases status <;> rfl

/-- The status of an object is its field. -/
theorem readStatus_eq_ok {fields : JsonObject} {location : String} {status : CheckStatus} :
    readStatus fields location = .ok status ↔ getField fields "status" = .str status.text := by
  rw [← resultStatus?_eq_some]
  unfold readStatus
  split <;> simp_all

section RaisesOnly

variable {value : Json} {location : String}

/-- Reading an object raises errors of the gate only. -/
theorem object_raisesOnly : RaisesOnly PyError.IsGateError (object value location) := by
  unfold object
  split
  · exact .ok _
  · exact .error trivial

/-- So does reading an array. -/
theorem array_raisesOnly : RaisesOnly PyError.IsGateError (array value location) := by
  unfold array
  split
  · exact .ok _
  · exact .error trivial

/-- So does reading a status. -/
theorem readStatus_raisesOnly {fields : JsonObject} :
    RaisesOnly PyError.IsGateError (readStatus fields location) := by
  unfold readStatus
  split
  · exact .ok _
  · exact .error trivial

/-- So does reading the statuses of a list. -/
theorem statuses_raisesOnly {values : List Json} :
    RaisesOnly PyError.IsGateError (statuses values location) :=
  List.raisesOnly_mapM fun _ _ => .bind object_raisesOnly fun _ _ => readStatus_raisesOnly

/-- So does reading a count. -/
theorem nonNegativeInteger_raisesOnly :
    RaisesOnly PyError.IsGateError (nonNegativeInteger value location) := by
  unfold nonNegativeInteger
  split
  · split
    · exact .error trivial
    · exact .ok _
  · exact .error trivial

/-- So do the checks of the steps. -/
theorem checkSteps_raisesOnly {result : JsonObject} :
    RaisesOnly PyError.IsGateError (checkSteps result) :=
  .bind (.raiseIf trivial) fun _ _ => .bind object_raisesOnly fun _ _ =>
    .bind nonNegativeInteger_raisesOnly fun _ _ => .bind (.raiseIf trivial) fun _ _ =>
    .bind array_raisesOnly fun _ _ => .bind (.raiseIf trivial) fun _ _ =>
    .bind statuses_raisesOnly fun _ _ => .bind (.raiseIf trivial) fun _ _ =>
    .bind (.raiseIf trivial) fun _ _ => .ok _

/-- So do the checks of a group. -/
theorem traceGroupCases_raisesOnly {entry : Json × Nat} :
    RaisesOnly PyError.IsGateError (traceGroupCases entry) := by
  refine .bind object_raisesOnly fun _ _ => .bind readStatus_raisesOnly fun _ _ =>
    .bind (.raiseIf trivial) fun _ _ => .bind array_raisesOnly fun _ _ =>
    .bind (List.raisesOnly_forM fun _ _ => ?_) fun _ _ => .ok _
  exact .bind object_raisesOnly fun _ _ => .bind readStatus_raisesOnly fun _ _ =>
    .bind (.raiseIf trivial) fun _ _ => .bind array_raisesOnly fun _ _ =>
    .bind statuses_raisesOnly fun _ _ => .raiseIf trivial

end RaisesOnly

/-! ## What the checks accept -/

/-- A status list without `failed` is read exactly off clean values. -/
theorem statuses_eq_ok_iff {values : List Json} {location : String} :
    (∃ out, statuses values location = .ok out ∧ CheckStatus.failed ∉ out) ↔
      ∀ value ∈ values, value.Clean := by
  -- the values of the entries are the values of the list
  have hentry : ∀ {value : Json}, value ∈ values → ∃ index, (value, index) ∈ values.zipIdx := by
    intro value hvalue
    rw [← List.zipIdx_map_fst 0 values] at hvalue
    obtain ⟨⟨value', index⟩, hmem, rfl⟩ := List.mem_map.mp hvalue
    exact ⟨index, hmem⟩
  constructor
  · rintro ⟨out, hout, hfailed⟩ value hvalue
    obtain ⟨index, hmem⟩ := hentry hvalue
    obtain ⟨status, hstatus, hread⟩ :=
      List.Forall₂.exists_of_mem_left (List.mapM_eq_ok.mp hout) hmem
    obtain ⟨fields, hfields, hread⟩ := bind_eq_ok.mp hread
    exact ⟨fields, status, object_eq_ok.mp hfields, fun heq => hfailed (heq ▸ hstatus),
      readStatus_eq_ok.mp hread⟩
  · intro hclean
    have hall : ∀ entry ∈ values.zipIdx, ∃ status, status ≠ CheckStatus.failed ∧ (do
        let fields ← object entry.1 s!"{location}[{entry.2}]"
        readStatus fields s!"{location}[{entry.2}]") = .ok status := by
      intro entry hmem
      obtain ⟨fields, status, hobj, hne, hfield⟩ := hclean entry.1 (List.fst_mem_of_mem_zipIdx hmem)
      exact ⟨status, hne, bind_eq_ok.mpr ⟨fields, object_eq_ok.mpr hobj,
        readStatus_eq_ok.mpr hfield⟩⟩
    obtain ⟨out, hout⟩ := List.exists_mapM_eq_ok.mpr fun entry hmem =>
      (hall entry hmem).imp fun _ h => h.2
    refine ⟨out, hout, fun hfailed => ?_⟩
    obtain ⟨entry, hmem, hread⟩ :=
      List.Forall₂.exists_of_mem_right (List.mapM_eq_ok.mp hout) hfailed
    obtain ⟨status, hne, hread'⟩ := hall entry hmem
    exact hne (Except.ok.inj (hread'.symm.trans hread))

/-- The aggregate, the summary and the steps that the gate requires. -/
structure PassesStepChecks (result : JsonObject) : Prop where
  status : getField result "status" = .str "passed"
  summary : (getField result "summary").field "failed" = .int 0
  steps : ∃ steps, getField result "steps" = .arr steps ∧ steps ≠ [] ∧
    ∀ step ∈ steps, step.Clean

/-- A count is an integer that is not negative. -/
private theorem nonNegativeInteger_eq_ok {value : Json} {location : String} {n : Int} :
    nonNegativeInteger value location = .ok n ↔ value = .int n ∧ 0 ≤ n := by
  unfold nonNegativeInteger
  split
  · rename_i m
    by_cases hm : m < 0
    · simp only [hm, if_true, Json.int.injEq]
      constructor
      · intro h
        cases h
      · rintro ⟨rfl, hn⟩
        omega
    · simp only [hm, if_false, Except.ok.injEq, Json.int.injEq]
      exact ⟨fun h => ⟨h, by omega⟩, fun h => h.1⟩
  · simp_all

/-- When the checks of the steps pass. -/
theorem checkSteps_ok_iff {result : JsonObject} :
    (∃ steps, checkSteps result = .ok steps) ↔ PassesStepChecks result := by
  constructor
  · rintro ⟨steps, h⟩
    obtain ⟨⟨⟩, hstatus, h⟩ := bind_eq_ok.mp h
    obtain ⟨summary, hsummary, h⟩ := bind_eq_ok.mp h
    obtain ⟨reportedFailed, hfailed, h⟩ := bind_eq_ok.mp h
    obtain ⟨⟨⟩, hzero, h⟩ := bind_eq_ok.mp h
    obtain ⟨steps, hsteps, h⟩ := bind_eq_ok.mp h
    obtain ⟨⟨⟩, hne, h⟩ := bind_eq_ok.mp h
    obtain ⟨stepStatuses, hstatuses, h⟩ := bind_eq_ok.mp h
    obtain ⟨⟨⟩, hcomputed, -⟩ := bind_eq_ok.mp h
    rw [raiseIf_eq_ok, not_not] at hstatus hzero hcomputed
    rw [raiseIf_eq_ok] at hne
    refine ⟨Json.pyEq_str_iff.mp hstatus, ?_, steps, array_eq_ok.mp hsteps, hne, ?_⟩
    · rw [object_eq_ok.mp hsummary, Json.field, ← hzero]
      exact (nonNegativeInteger_eq_ok.mp hfailed).1
    · refine statuses_eq_ok_iff.mp ⟨stepStatuses, hstatuses, fun hmem => ?_⟩
      have hnone := List.countP_eq_zero.mp hcomputed _ hmem
      simp at hnone
  · rintro ⟨hstatus, hsummary, steps, hsteps, hne, hclean⟩
    obtain ⟨summary, hsummary, hfailed⟩ : ∃ summary,
        getField result "summary" = .obj summary ∧ getField summary "failed" = .int 0 := by
      cases hvalue : getField result "summary" with
      | obj summary => exact ⟨summary, rfl, by simpa [Json.field, hvalue] using hsummary⟩
      | null | bool | int | float | str | arr => simp [Json.field, hvalue] at hsummary
    obtain ⟨stepStatuses, hstatuses, hnone⟩ : ∃ out, statuses steps "result.steps" = .ok out ∧
        CheckStatus.failed ∉ out := statuses_eq_ok_iff.mpr hclean
    have hcomputed : (stepStatuses.countP fun status => status = .failed) = 0 :=
      List.countP_eq_zero.mpr fun status hmem heq => hnone (of_decide_eq_true heq ▸ hmem)
    exact ⟨steps, bind_eq_ok.mpr ⟨(), raiseIf_eq_ok.mpr (not_not_intro (Json.pyEq_str_iff.mpr hstatus)),
      bind_eq_ok.mpr ⟨summary, object_eq_ok.mpr hsummary,
      bind_eq_ok.mpr ⟨0, nonNegativeInteger_eq_ok.mpr ⟨hfailed, le_rfl⟩,
      bind_eq_ok.mpr ⟨(), raiseIf_eq_ok.mpr (not_not_intro rfl),
      bind_eq_ok.mpr ⟨steps, array_eq_ok.mpr hsteps,
      bind_eq_ok.mpr ⟨(), raiseIf_eq_ok.mpr hne,
      bind_eq_ok.mpr ⟨stepStatuses, hstatuses,
      bind_eq_ok.mpr ⟨(), raiseIf_eq_ok.mpr (not_not_intro hcomputed),
      bind_eq_ok.mpr ⟨(), raiseIf_eq_ok.mpr (by rw [hcomputed]; exact not_not_intro rfl),
        rfl⟩⟩⟩⟩⟩⟩⟩⟩⟩⟩

/-- A case is accepted exactly when it is clean. -/
private theorem rejectFailedTraceCase_eq_ok {groupIndex : Nat} {entry : Json × Nat} :
    rejectFailedTraceCase groupIndex entry = .ok () ↔ CleanCase entry.1 := by
  constructor
  · intro h
    obtain ⟨fields, hfields, h⟩ := bind_eq_ok.mp h
    obtain ⟨status, hstatus, h⟩ := bind_eq_ok.mp h
    obtain ⟨⟨⟩, hne, h⟩ := bind_eq_ok.mp h
    obtain ⟨nestedSteps, hsteps, h⟩ := bind_eq_ok.mp h
    obtain ⟨nestedStatuses, hstatuses, hnone⟩ := bind_eq_ok.mp h
    have hobj := object_eq_ok.mp hfields
    have hfield : entry.1.field "steps" = .arr nestedSteps := by
      rw [hobj]
      exact array_eq_ok.mp hsteps
    refine ⟨⟨fields, status, hobj, raiseIf_eq_ok.mp hne, readStatus_eq_ok.mp hstatus⟩,
      ⟨nestedSteps, hfield⟩, ?_⟩
    rw [Json.items, hfield]
    exact statuses_eq_ok_iff.mp ⟨nestedStatuses, hstatuses, raiseIf_eq_ok.mp hnone⟩
  · rintro ⟨⟨fields, status, hobj, hne, hfield⟩, ⟨steps, hsteps⟩, hclean⟩
    rw [Json.items, hsteps] at hclean
    rw [hobj] at hsteps
    obtain ⟨nestedStatuses, hstatuses, hnone⟩ := statuses_eq_ok_iff.mpr hclean
    exact bind_eq_ok.mpr ⟨fields, object_eq_ok.mpr hobj,
      bind_eq_ok.mpr ⟨status, readStatus_eq_ok.mpr hfield,
      bind_eq_ok.mpr ⟨(), raiseIf_eq_ok.mpr hne,
      bind_eq_ok.mpr ⟨steps, array_eq_ok.mpr hsteps,
      bind_eq_ok.mpr ⟨nestedStatuses, hstatuses, raiseIf_eq_ok.mpr hnone⟩⟩⟩⟩⟩

/-- A group is accepted exactly when it is clean, and its cases are counted. -/
theorem traceGroupCases_eq_ok {entry : Json × Nat} {count : Nat} :
    traceGroupCases entry = .ok count ↔
      CleanGroup entry.1 ∧ count = (entry.1.items "testCases").length := by
  constructor
  · intro h
    obtain ⟨fields, hfields, h⟩ := bind_eq_ok.mp h
    obtain ⟨status, hstatus, h⟩ := bind_eq_ok.mp h
    obtain ⟨⟨⟩, hne, h⟩ := bind_eq_ok.mp h
    obtain ⟨cases, hcases, h⟩ := bind_eq_ok.mp h
    obtain ⟨⟨⟩, hreject, hcount⟩ := bind_eq_ok.mp h
    have hobj := object_eq_ok.mp hfields
    have hfield : entry.1.field "testCases" = .arr cases := by
      rw [hobj]
      exact array_eq_ok.mp hcases
    have hitems : entry.1.items "testCases" = cases := by rw [Json.items, hfield]
    refine ⟨⟨⟨fields, status, hobj, raiseIf_eq_ok.mp hne, readStatus_eq_ok.mp hstatus⟩,
      ⟨cases, hfield⟩, ?_⟩, ?_⟩
    · intro testCase hmem
      rw [hitems, ← List.zipIdx_map_fst 0 cases] at hmem
      obtain ⟨caseEntry, hentry, rfl⟩ := List.mem_map.mp hmem
      exact rejectFailedTraceCase_eq_ok.mp (List.forM_eq_ok.mp hreject caseEntry hentry)
    · rw [hitems]
      exact (Except.ok.inj hcount).symm
  · rintro ⟨⟨⟨fields, status, hobj, hne, hfield⟩, ⟨cases, hcases⟩, hclean⟩, rfl⟩
    rw [Json.items, hcases] at hclean ⊢
    rw [hobj] at hcases
    have hreject : rejectFailedTraceCases cases entry.2 = .ok () :=
      List.forM_eq_ok.mpr fun caseEntry hmem => rejectFailedTraceCase_eq_ok.mpr
        (hclean caseEntry.1 (List.fst_mem_of_mem_zipIdx hmem))
    exact bind_eq_ok.mpr ⟨fields, object_eq_ok.mpr hobj,
      bind_eq_ok.mpr ⟨status, readStatus_eq_ok.mpr hfield,
      bind_eq_ok.mpr ⟨(), raiseIf_eq_ok.mpr hne,
      bind_eq_ok.mpr ⟨cases, array_eq_ok.mpr hcases,
      bind_eq_ok.mpr ⟨(), hreject, rfl⟩⟩⟩⟩⟩

/-- The trace that the gate requires of a catalogue block: every group is clean, and a
    DCR result has at least one case. -/
structure PassesTraceChecks (catalogue : JsonObject) (isDcr : Bool) : Prop where
  api : isDcrResult (getField catalogue "api") = .ok isDcr
  groups : getField catalogue "traceGroups" = .null ∨
    ∃ groups, getField catalogue "traceGroups" = .arr groups
  clean : ∀ group ∈ (Json.obj catalogue).items "traceGroups", CleanGroup group
  traced : isDcr = true → ∃ group ∈ (Json.obj catalogue).items "traceGroups",
    group.items "testCases" ≠ []

/-- The groups are checked one by one and their cases counted. -/
private theorem mapM_traceGroupCases_eq_ok {groups : List Json} {counts : List Nat} :
    groups.zipIdx.mapM traceGroupCases = .ok counts ↔
      (∀ group ∈ groups, CleanGroup group) ∧
        counts = groups.map fun group => (group.items "testCases").length := by
  rw [List.mapM_eq_ok]
  simp only [traceGroupCases_eq_ok]
  generalize 0 = start
  induction groups generalizing counts start with
  | nil => simp
  | cons group rest ih =>
    rw [List.zipIdx_cons, List.forall₂_cons_left_iff]
    constructor
    · rintro ⟨count, restCounts, ⟨hgroup, rfl⟩, hrest, rfl⟩
      obtain ⟨hclean, rfl⟩ := (ih (start + 1)).mp hrest
      exact ⟨List.forall_mem_cons.mpr ⟨hgroup, hclean⟩, rfl⟩
    · rintro ⟨hclean, rfl⟩
      obtain ⟨hgroup, hclean⟩ := List.forall_mem_cons.mp hclean
      exact ⟨_, _, ⟨hgroup, rfl⟩, (ih (start + 1)).mpr ⟨hclean, rfl⟩, rfl⟩

/-- The number of cases in a list of trace groups. -/
def tracedCaseCount (groups : List Json) : Nat :=
  (groups.map fun group => (group.items "testCases").length).sum

private theorem tracedCaseCount_eq_zero_iff {groups : List Json} :
    tracedCaseCount groups = 0 ↔ ∀ group ∈ groups, group.items "testCases" = [] := by
  simp [tracedCaseCount, List.sum_eq_zero_iff_forall_eq_nat]

/-- When the cases of a trace are counted. -/
private theorem countTracedCases_eq_ok {isDcr : Bool} {traceGroups : Json} {count : Nat} :
    countTracedCases isDcr traceGroups = .ok count ↔
      (traceGroups = .null ∧ isDcr = false ∧ count = 0) ∨ ∃ groups, traceGroups = .arr groups ∧
        (∀ group ∈ groups, CleanGroup group) ∧ count = tracedCaseCount groups := by
  cases traceGroups with
  | null => cases isDcr <;> simp [countTracedCases, eq_comm]
  | bool | int | float | str | obj => simp [countTracedCases, array, bind, Except.bind]
  | arr groups =>
    simp only [reduceCtorEq, false_and, false_or, Json.arr.injEq, exists_eq_left']
    constructor
    · intro h
      obtain ⟨groups', hgroups, h⟩ := bind_eq_ok.mp h
      obtain rfl := Json.arr.inj (array_eq_ok.mp hgroups)
      obtain ⟨counts, hcounts, hsum⟩ := bind_eq_ok.mp h
      obtain ⟨hclean, rfl⟩ := mapM_traceGroupCases_eq_ok.mp hcounts
      exact ⟨hclean, (Except.ok.inj hsum).symm⟩
    · rintro ⟨hclean, rfl⟩
      exact bind_eq_ok.mpr ⟨groups, rfl,
        bind_eq_ok.mpr ⟨_, mapM_traceGroupCases_eq_ok.mpr ⟨hclean, rfl⟩, rfl⟩⟩

/-- When the checks of the catalogue pass. -/
theorem checkCatalogue_ok_iff {catalogue : Json} :
    (∃ count, checkCatalogue catalogue = .ok count) ↔
      catalogue = .null ∨ ∃ fields isDcr, catalogue = .obj fields ∧
        PassesTraceChecks fields isDcr := by
  cases catalogue with
  | null => simp [checkCatalogue]
  | bool | int | float | str | arr => simp [checkCatalogue, object, bind, Except.bind]
  | obj fields =>
    have hnull : getField fields "traceGroups" = .null →
        (Json.obj fields).items "traceGroups" = [] := by
      intro h
      rw [Json.items, Json.field, h]
    have harr : ∀ {groups}, getField fields "traceGroups" = .arr groups →
        (Json.obj fields).items "traceGroups" = groups := by
      intro groups h
      rw [Json.items, Json.field, h]
    simp only [reduceCtorEq, false_or, Json.obj.injEq, exists_and_left, exists_eq_left']
    constructor
    · rintro ⟨count, h⟩
      obtain ⟨fields', hfields, h⟩ := bind_eq_ok.mp h
      obtain rfl := Json.obj.inj (object_eq_ok.mp hfields)
      obtain ⟨isDcr, hapi, h⟩ := bind_eq_ok.mp h
      obtain ⟨caseCount, hcount, h⟩ := bind_eq_ok.mp h
      obtain ⟨⟨⟩, htraced, -⟩ := bind_eq_ok.mp h
      rw [raiseIf_eq_ok, not_and] at htraced
      rcases countTracedCases_eq_ok.mp hcount with ⟨hgroups, hdcr, -⟩ | ⟨groups, hgroups, hclean, rfl⟩
      · exact ⟨isDcr, hapi, .inl hgroups, by simp [hnull hgroups], by simp [hdcr]⟩
      · refine ⟨isDcr, hapi, .inr ⟨groups, hgroups⟩, by rwa [harr hgroups], fun hdcr => ?_⟩
        have hcases := htraced hdcr
        rw [tracedCaseCount_eq_zero_iff] at hcases
        push Not at hcases
        rwa [harr hgroups]
    · rintro ⟨isDcr, hapi, hgroups, hclean, htraced⟩
      have hcount : ∃ count, countTracedCases isDcr (getField fields "traceGroups") = .ok count ∧
          ¬ (isDcr = true ∧ count = 0) := by
        simp only [countTracedCases_eq_ok]
        rcases hgroups with hgroups | ⟨groups, hgroups⟩
        · rw [hnull hgroups] at htraced
          have hdcr : isDcr = false := by
            cases isDcr with
            | false => rfl
            | true => simpa using htraced rfl
          exact ⟨0, .inl ⟨hgroups, hdcr, rfl⟩, by simp [hdcr]⟩
        · rw [harr hgroups] at hclean htraced
          refine ⟨_, .inr ⟨groups, hgroups, hclean, rfl⟩, ?_⟩
          rintro ⟨hdcr, hzero⟩
          obtain ⟨group, hmem, hne⟩ := htraced hdcr
          exact hne (tracedCaseCount_eq_zero_iff.mp hzero group hmem)
      obtain ⟨count, hcount, htraced⟩ := hcount
      exact ⟨count, bind_eq_ok.mpr ⟨fields, rfl, bind_eq_ok.mpr ⟨isDcr, hapi,
        bind_eq_ok.mpr ⟨count, hcount, bind_eq_ok.mpr ⟨(), raiseIf_eq_ok.mpr htraced, rfl⟩⟩⟩⟩⟩

/-- What the gate accepts, over all decoded JSON. -/
theorem validateStructuredConformanceResult_ok_iff {raw : Json} :
    (∃ counts, validateStructuredConformanceResult raw = .ok counts) ↔
      ∃ result, raw = .obj result ∧ PassesStepChecks result ∧
        (getField result "catalogue" = .null ∨ ∃ fields isDcr,
          getField result "catalogue" = .obj fields ∧ PassesTraceChecks fields isDcr) := by
  simp only [← checkSteps_ok_iff, ← checkCatalogue_ok_iff]
  constructor
  · rintro ⟨counts, h⟩
    obtain ⟨result, hresult, h⟩ := bind_eq_ok.mp h
    obtain ⟨steps, hsteps, h⟩ := bind_eq_ok.mp h
    obtain ⟨caseCount, hcount, -⟩ := bind_eq_ok.mp h
    exact ⟨result, object_eq_ok.mp hresult, ⟨steps, hsteps⟩, caseCount, hcount⟩
  · rintro ⟨result, rfl, ⟨steps, hsteps⟩, caseCount, hcount⟩
    exact ⟨_, bind_eq_ok.mpr ⟨result, rfl, bind_eq_ok.mpr ⟨steps, hsteps,
      bind_eq_ok.mpr ⟨caseCount, hcount, rfl⟩⟩⟩⟩

/-- The gate accepts nothing that has failed anywhere. -/
theorem not_hasFailedOutcome_of_ok {raw : Json} {counts : JsonObject}
    (h : validateStructuredConformanceResult raw = .ok counts) : ¬ HasFailedOutcome raw := by
  obtain ⟨result, rfl, hsteps, hcatalogue⟩ :=
    validateStructuredConformanceResult_ok_iff.mp ⟨counts, h⟩
  rintro (⟨step, hmem, hfailed⟩ | ⟨group, hmem, hfailed⟩)
  · obtain ⟨steps, harr, -, hclean⟩ := hsteps.steps
    rw [Json.items, Json.field, harr] at hmem
    exact (hclean step hmem).not_failed hfailed
  · rw [Json.field] at hmem
    rcases hcatalogue with hnull | ⟨fields, isDcr, hobj, htrace⟩
    · rw [hnull] at hmem
      exact absurd hmem List.not_mem_nil
    · rw [hobj] at hmem
      exact (htrace.clean group hmem).not_failed hfailed

/-! ## Generated reports -/

/-- A step is rendered clean exactly when it has not failed. -/
private theorem clean_step_iff {step : StepResult} :
    (Json.obj step.toJsonObject).Clean ↔ step.status ≠ .failed := by
  have hfield : getField step.toJsonObject "status" = .str step.status.text := rfl
  constructor
  · rintro ⟨fields, status, hobj, hne, hstatus⟩ hfailed
    rw [← Json.obj.inj hobj, hfield, hfailed] at hstatus
    cases status with
    | failed => exact hne rfl
    | passed | warn | skipped => exact absurd (Json.str.inj hstatus) (by decide)
  · intro hne
    exact ⟨_, step.status, rfl, hne, hfield⟩

/-- A step that counts as conformant. -/
def CheckStatus.IsConformant (status : CheckStatus) : Prop := status = .passed ∨ status = .warn

instance (status : CheckStatus) : Decidable status.IsConformant :=
  inferInstanceAs (Decidable (_ ∨ _))

section Trace

variable (plan : CompiledTestPlan) {steps : List StepResult}

/-- A run without failed results traces no failed step. -/
private theorem traceStepStatus_ne_failed (h : ∀ step ∈ steps, step.status ≠ .failed)
    (unselected : Bool) (stepId : String) :
    traceStepStatus unselected ((resultByStepId steps).get? stepId) ≠ .failed := by
  unfold traceStepStatus
  split
  · decide
  · cases hget : (resultByStepId steps).get? stepId with
    | none => decide
    | some result => exact h result (mem_of_get?_resultByStepId hget).1

/-- Without a failed step no case has failed. -/
private theorem traceCaseStatus_ne_failed (h : ∀ step ∈ steps, step.status ≠ .failed)
    (testCase : CatalogueTestCase) :
    traceCaseStatus plan (resultByStepId steps) testCase ≠ .failed := by
  intro hfailed
  obtain ⟨executionStep, -, hstatus⟩ :=
    List.mem_map.mp (aggregateTraceStatus_eq_failed_iff.mp hfailed)
  exact traceStepStatus_ne_failed h _ _ hstatus

/-- Without a failed step every case is rendered clean. -/
private theorem cleanCase_renderTraceCase (h : ∀ step ∈ steps, step.status ≠ .failed)
    (testCase : CatalogueTestCase) :
    CleanCase (.obj (renderTraceCase plan (resultByStepId steps) testCase)) := by
  have hfield := field_steps_renderTraceCase plan (resultByStepId steps) testCase
  refine ⟨⟨_, _, rfl, traceCaseStatus_ne_failed plan h testCase, rfl⟩, ⟨_, hfield⟩, ?_⟩
  intro step hstep
  rw [Json.items, hfield] at hstep
  obtain ⟨executionStep, -, rfl⟩ := List.mem_map.mp hstep
  exact ⟨_, _, rfl, traceStepStatus_ne_failed h _ executionStep.stepId, rfl⟩

/-- Without a failed step every group is rendered clean. -/
private theorem cleanGroup_renderTraceGroup (h : ∀ step ∈ steps, step.status ≠ .failed)
    (group : TracedGroup) :
    CleanGroup (.obj (renderTraceGroup plan (resultByStepId steps) group)) := by
  have hstatus : traceGroupStatus plan (resultByStepId steps) group ≠ .failed := by
    intro hfailed
    obtain ⟨testCase, -, hcase⟩ := List.mem_map.mp (aggregateTraceStatus_eq_failed_iff.mp hfailed)
    exact traceCaseStatus_ne_failed plan h testCase hcase
  have hfield := field_testCases_renderTraceGroup plan (resultByStepId steps) group
  refine ⟨⟨_, _, rfl, hstatus, rfl⟩, ⟨_, hfield⟩, ?_⟩
  intro value hvalue
  rw [Json.items, hfield] at hvalue
  obtain ⟨testCase, -, rfl⟩ := List.mem_map.mp hvalue
  exact cleanCase_renderTraceCase plan h testCase

/-- The trace of a catalogue block, left out when there are no groups. -/
private theorem getField_traceGroups (steps : List StepResult) :
    getField (compiledPlanToJsonObject plan steps) "traceGroups" =
      if compiledTraceGroupsToJsonObject plan steps = [] then .null
      else .arr (compiledTraceGroupsToJsonObject plan steps) := by
  unfold compiledPlanToJsonObject optionalField
  dsimp only
  cases plan.traceability.provenance <;> split <;> rfl

/-- The groups of the rendered trace. -/
private theorem items_traceGroups (steps : List StepResult) :
    (Json.obj (compiledPlanToJsonObject plan steps)).items "traceGroups" =
      compiledTraceGroupsToJsonObject plan steps := by
  rw [Json.items, Json.field, getField_traceGroups]
  split
  · rename_i hnil heq
    split at heq <;> simp_all
  · rename_i hne
    split at hne <;> simp_all

end Trace

section Report

variable (steps : List StepResult) (startedAt finishedAt : String) (testPlan : Option TestPlan)
  (approvedReleasePolicy : Option ApprovedReleasePolicy)
  (certificationCoverage : CertificationCoverage) (compiledPlan : Option CompiledTestPlan)
  (nonCertifyingReasons : List String) (sources : VersionSources)

/-- `build_smoke_check_result(...).to_json_object()`. -/
def smokeCheckReport : JsonObject :=
  (buildSmokeCheckResult steps startedAt finishedAt testPlan approvedReleasePolicy
    certificationCoverage compiledPlan nonCertifyingReasons).toJsonObject compiledPlanToJsonObject
    sources

/-- The catalogue block of a report. -/
private theorem getField_catalogue :
    getField (smokeCheckReport steps startedAt finishedAt testPlan approvedReleasePolicy
      certificationCoverage compiledPlan nonCertifyingReasons sources) "catalogue" =
      (compiledPlan.map fun plan => Json.obj (compiledPlanToJsonObject plan steps)).getD .null := by
  cases testPlan <;> cases compiledPlan <;> rfl

/-- The aggregate and the summary follow from the steps. -/
private theorem passesStepChecks_iff :
    PassesStepChecks (smokeCheckReport steps startedAt finishedAt testPlan approvedReleasePolicy
      certificationCoverage compiledPlan nonCertifyingReasons sources) ↔
      steps ≠ [] ∧ ∀ step ∈ steps, step.status.IsConformant := by
  have hstatus : getField (smokeCheckReport steps startedAt finishedAt testPlan
      approvedReleasePolicy certificationCoverage compiledPlan nonCertifyingReasons sources)
      "status" = .str (if steps.all fun step => step.status = .passed ∨ step.status = .warn
        then CheckStatus.passed else .failed).text := rfl
  have hsummary : (getField (smokeCheckReport steps startedAt finishedAt testPlan
      approvedReleasePolicy certificationCoverage compiledPlan nonCertifyingReasons sources)
      "summary").field "failed" = .int (countStatus steps .failed) := rfl
  have hsteps : getField (smokeCheckReport steps startedAt finishedAt testPlan
      approvedReleasePolicy certificationCoverage compiledPlan nonCertifyingReasons sources)
      "steps" = .arr (steps.map fun step => .obj step.toJsonObject) := rfl
  constructor
  · rintro ⟨hpassed, -, ⟨items, hitems, hne, -⟩⟩
    rw [hsteps] at hitems
    obtain rfl := Json.arr.inj hitems
    refine ⟨fun hnil => hne (by rw [hnil]; rfl), ?_⟩
    rw [hstatus] at hpassed
    by_cases hall : (steps.all fun step => step.status = .passed ∨ step.status = .warn) = true
    · intro step hmem
      exact of_decide_eq_true (List.all_eq_true.mp hall step hmem)
    · rw [if_neg hall] at hpassed
      exact absurd (Json.str.inj hpassed) (by decide)
  · rintro ⟨hne, hconformant⟩
    have hnotFailed : ∀ step ∈ steps, step.status ≠ .failed := by
      intro step hmem hfailed
      rcases hconformant step hmem with h | h <;> rw [hfailed] at h <;> cases h
    have hall : (steps.all fun step => step.status = .passed ∨ step.status = .warn) = true :=
      List.all_eq_true.mpr fun step hmem => decide_eq_true (hconformant step hmem)
    refine ⟨?_, ?_, _, hsteps, by simpa using hne, ?_⟩
    · rw [hstatus, if_pos hall]
      rfl
    · rw [hsummary, countStatus, List.countP_eq_zero.mpr fun step hmem hfailed =>
        hnotFailed step hmem (of_decide_eq_true hfailed)]
      rfl
    · intro value hvalue
      obtain ⟨step, hmem, rfl⟩ := List.mem_map.mp hvalue
      exact clean_step_iff.mpr (hnotFailed step hmem)

/-- The trace of a report without failed steps passes the checks of the gate exactly when
    a DCR plan has a case with a trace group. -/
private theorem passesTraceChecks_iff {steps : List StepResult} (plan : CompiledTestPlan)
    (h : ∀ step ∈ steps, step.status ≠ .failed) :
    (∃ isDcr, PassesTraceChecks (compiledPlanToJsonObject plan steps) isDcr) ↔
      (plan.traceability.catalogueKey.IsDcr →
        ∃ testCase ∈ plan.testCases ++ plan.skippedTestCases, testCase.traceGroup ≠ none) := by
  have hapi : isDcrResult (getField (compiledPlanToJsonObject plan steps) "api") =
      .ok (plan.traceability.catalogueKey.IsDcr : Bool) := rfl
  constructor
  · rintro ⟨isDcr, hisDcr, -, -, htraced⟩ hdcr
    rw [hapi] at hisDcr
    obtain ⟨value, hvalue, -⟩ := htraced ((Except.ok.inj hisDcr).symm.trans (decide_eq_true hdcr))
    rw [items_traceGroups] at hvalue
    obtain ⟨group, hgroup, -⟩ := List.mem_map.mp hvalue
    obtain ⟨hne, groupId, hcases⟩ := mem_tracedGroups hgroup
    obtain ⟨testCase, hmem⟩ := List.exists_mem_of_ne_nil _ hne
    rw [hcases, List.mem_filter] at hmem
    refine ⟨testCase, mem_traceCases.mp hmem.1, fun hnone => ?_⟩
    simp [CatalogueTestCase.inTraceGroup, hnone] at hmem
  · intro htraced
    refine ⟨_, hapi, ?_, ?_, ?_⟩
    · rw [getField_traceGroups]
      split
      · exact .inl rfl
      · exact .inr ⟨_, rfl⟩
    · intro value hvalue
      rw [items_traceGroups] at hvalue
      obtain ⟨group, -, rfl⟩ := List.mem_map.mp hvalue
      exact cleanGroup_renderTraceGroup plan h group
    · intro hdcr
      obtain ⟨testCase, hmem, hgroup⟩ := htraced (of_decide_eq_true hdcr)
      obtain ⟨group, hgroup, hcase⟩ := exists_tracedGroup (mem_traceCases.mpr hmem) hgroup
      refine ⟨.obj (renderTraceGroup plan (resultByStepId steps) group), ?_, ?_⟩
      · rw [items_traceGroups]
        exact List.mem_map_of_mem hgroup
      · rw [Json.items, field_testCases_renderTraceGroup]
        simpa using List.ne_nil_of_mem hcase

/-- The gate accepts a generated report exactly when it has steps, each passed or warned,
    and a trace if its plan is a DCR plan. -/
theorem validateStructuredConformanceResult_report_iff :
    (∃ counts, validateStructuredConformanceResult (.obj (smokeCheckReport steps startedAt
        finishedAt testPlan approvedReleasePolicy certificationCoverage compiledPlan
        nonCertifyingReasons sources)) = .ok counts) ↔
      steps ≠ [] ∧ (∀ step ∈ steps, step.status.IsConformant) ∧
        ∀ plan ∈ compiledPlan, plan.traceability.catalogueKey.IsDcr →
          ∃ testCase ∈ plan.testCases ++ plan.skippedTestCases, testCase.traceGroup ≠ none := by
  rw [validateStructuredConformanceResult_ok_iff, ← and_assoc, ← passesStepChecks_iff steps
    startedAt finishedAt testPlan approvedReleasePolicy certificationCoverage compiledPlan
    nonCertifyingReasons sources]
  simp only [Json.obj.injEq, exists_eq_left', getField_catalogue]
  refine and_congr_right fun hsteps => ?_
  have hnotFailed : ∀ step ∈ steps, step.status ≠ .failed := by
    intro step hmem hfailed
    rcases ((passesStepChecks_iff ..).mp hsteps).2 step hmem with h | h <;>
      rw [hfailed] at h <;> cases h
  cases compiledPlan with
  | none => simp
  | some plan =>
    rw [Option.map_some, Option.getD_some]
    simp only [reduceCtorEq, false_or, Json.obj.injEq, exists_and_left, exists_eq_left',
      Option.mem_some_iff, forall_eq']
    exact passesTraceChecks_iff plan hnotFailed

end Report

/-! ## Failed outcomes -/

/-- The value of `api` is a list or a dictionary, and everything the gate looks at before
    it is in order. -/
def ReachesUnhashableApi (raw : Json) : Prop :=
  ∃ result catalogue, raw = .obj result ∧ PassesStepChecks result ∧
    getField result "catalogue" = .obj catalogue ∧
    ((∃ items, getField catalogue "api" = .arr items) ∨
      ∃ fields, getField catalogue "api" = .obj fields)

/-- The lookup of `api` raises a `TypeError` exactly on lists and dictionaries. -/
private theorem isDcrResult_cases (api : Json) :
    ((∃ items, api = .arr items) ∨ ∃ fields, api = .obj fields) ∧
        (∃ message, isDcrResult api = .error (.typeError message)) ∨
      ∃ isDcr, isDcrResult api = .ok isDcr := by
  cases api with
  | arr items => exact .inl ⟨.inl ⟨items, rfl⟩, _, rfl⟩
  | obj fields => exact .inl ⟨.inr ⟨fields, rfl⟩, _, rfl⟩
  | null | bool | int | float | str => exact .inr ⟨_, rfl⟩

/-- Apart from the lookup of `api`, the catalogue checks raise only the gate's own
    exception. -/
private theorem checkCatalogue_error {catalogue : Json} {e : PyError}
    (h : checkCatalogue catalogue = .error e) : e.IsGateError ∨
      ∃ fields, catalogue = .obj fields ∧ ((∃ items, getField fields "api" = .arr items) ∨
        ∃ nested, getField fields "api" = .obj nested) := by
  cases catalogue with
  | null => cases h
  | bool | int | float | str | arr =>
    left
    obtain rfl := Except.error.inj h
    trivial
  | obj fields =>
    rcases isDcrResult_cases (getField fields "api") with ⟨hunhashable, -⟩ | ⟨isDcr, hisDcr⟩
    · exact .inr ⟨fields, rfl, hunhashable⟩
    · left
      have hraises : RaisesOnly PyError.IsGateError
          (countTracedCases isDcr (getField fields "traceGroups") >>= fun caseCount => do
            Except.raiseIf (isDcr = true ∧ caseCount = 0) (.structuredResultGateError
              "DCR result must contain traceable conformance cases")
            return caseCount) := by
        refine .bind ?_ fun _ _ => .bind (.raiseIf trivial) fun _ _ => .ok _
        unfold countTracedCases
        split
        · split
          · exact .error trivial
          · exact .ok _
        · exact .bind array_raisesOnly fun _ _ =>
            .bind (List.raisesOnly_mapM fun _ _ => traceGroupCases_raisesOnly) fun _ _ => .ok _
      simp only [checkCatalogue, object, bind, Except.bind, hisDcr] at h
      exact hraises e h

/-- The gate raises its own exception, or a `TypeError` at the lookup of `api`. -/
private theorem validateStructuredConformanceResult_error {raw : Json} {e : PyError}
    (h : validateStructuredConformanceResult raw = .error e) :
    e.IsGateError ∨ ReachesUnhashableApi raw := by
  rcases bind_eq_error.mp h with h | ⟨result, hresult, h⟩
  · exact .inl (object_raisesOnly e h)
  · rcases bind_eq_error.mp h with h | ⟨steps, hsteps, h⟩
    · exact .inl (checkSteps_raisesOnly e h)
    · rcases bind_eq_error.mp h with h | ⟨caseCount, -, h⟩
      · refine (checkCatalogue_error h).imp_right ?_
        rintro ⟨fields, hfields, hapi⟩
        exact ⟨result, fields, object_eq_ok.mp hresult, checkSteps_ok_iff.mp ⟨steps, hsteps⟩,
          hfields, hapi⟩
      · cases h

/-- An unhashable `api` that is reached is not reported as a gate error. -/
private theorem not_gateError_of_unhashable {raw : Json} {message : String}
    (h : ReachesUnhashableApi raw) :
    validateStructuredConformanceResult raw ≠ .error (.structuredResultGateError message) := by
  obtain ⟨result, fields, rfl, hsteps, hfields, hapi⟩ := h
  obtain ⟨steps, hsteps⟩ := checkSteps_ok_iff.mpr hsteps
  obtain ⟨typeMessage, htype⟩ : ∃ typeMessage,
      isDcrResult (getField fields "api") = .error (.typeError typeMessage) := by
    rcases isDcrResult_cases (getField fields "api") with ⟨-, htype⟩ | ⟨isDcr, hisDcr⟩
    · exact htype
    · rcases hapi with ⟨items, hitems⟩ | ⟨nested, hnested⟩
      · rw [hitems] at hisDcr
        cases hisDcr
      · rw [hnested] at hisDcr
        cases hisDcr
  have hvalidate : validateStructuredConformanceResult (.obj result) =
      .error (.typeError typeMessage) := by
    simp only [validateStructuredConformanceResult, object, hsteps, hfields, checkCatalogue, bind,
      Except.bind, htype]
  rw [hvalidate]
  intro heq
  cases heq

/-- The gate's contract. On generated reports it accepts exactly the passing ones; on any
    JSON value with a failed outcome it raises `StructuredResultGateError`, except that a
    list or dictionary in `api`, reached with everything before it in order, makes it raise
    a `TypeError`. -/
theorem validateStructuredConformanceResult_verdict (raw : Json) :
    (∀ (steps : List StepResult) (startedAt finishedAt : String) (testPlan : Option TestPlan)
      (approvedReleasePolicy : Option ApprovedReleasePolicy)
      (certificationCoverage : CertificationCoverage) (compiledPlan : Option CompiledTestPlan)
      (nonCertifyingReasons : List String) (sources : VersionSources),
      (∃ counts, validateStructuredConformanceResult (.obj (smokeCheckReport steps startedAt
        finishedAt testPlan approvedReleasePolicy certificationCoverage compiledPlan
        nonCertifyingReasons sources)) = .ok counts) ↔
      steps ≠ [] ∧ (∀ step ∈ steps, step.status.IsConformant) ∧
        ∀ plan ∈ compiledPlan, plan.traceability.catalogueKey.IsDcr →
          ∃ testCase ∈ plan.testCases ++ plan.skippedTestCases, testCase.traceGroup ≠ none) ∧
    (HasFailedOutcome raw →
      ((∃ message, validateStructuredConformanceResult raw =
        .error (.structuredResultGateError message)) ↔ ¬ ReachesUnhashableApi raw)) := by
  refine ⟨validateStructuredConformanceResult_report_iff, fun hfailed => ⟨?_, ?_⟩⟩
  · rintro ⟨message, hmessage⟩ hunhashable
    exact not_gateError_of_unhashable hunhashable hmessage
  · intro hhashable
    -- a failed outcome is not accepted, and every other error is the gate's
    cases hvalidate : validateStructuredConformanceResult raw with
    | ok counts => exact absurd hfailed (not_hasFailedOutcome_of_ok hvalidate)
    | error e =>
      have hgate := (validateStructuredConformanceResult_error hvalidate).resolve_right hhashable
      cases e with
      | structuredResultGateError message => exact ⟨message, rfl⟩
      | catalogueError | httpsUrlValidationError | manifestError | certificationValidationError
      | dcrExecutionError | jsonHttpClientError | responseSignatureValidationError
      | jwtSigningError | joseError | schemaValidationConfigurationError | valueError | typeError
      | keyError | recursionError =>
        exact absurd hgate id

/-- A result whose step passed, with one trace group, under the given `api`. -/
def tracedResult (api : Json) (groupStatus : String) : Json :=
  .obj [("status", .str "passed"), ("summary", .obj [("failed", .int 0)]),
    ("steps", .arr [.obj [("name", .str "register"), ("status", .str "passed")]]),
    ("catalogue", .obj [("api", api), ("traceGroups", .arr [
      .obj [("traceGroupId", .str "DCR-001"), ("status", .str groupStatus),
        ("testCases", .arr [])]])])]

/-- A failed scenario under a readable `api` is rejected by the gate. -/
theorem validateStructuredConformanceResult_failed_group :
    HasFailedOutcome (tracedResult (.str "dcr") "failed") ∧
      ∃ message, validateStructuredConformanceResult (tracedResult (.str "dcr") "failed") =
        .error (.structuredResultGateError message) := by
  have hfailed : HasFailedOutcome (tracedResult (.str "dcr") "failed") :=
    .inr ⟨_, List.mem_cons_self, .inl rfl⟩
  refine ⟨hfailed, ((validateStructuredConformanceResult_verdict _).2 hfailed).mpr ?_⟩
  rintro ⟨result, catalogue, hresult, -, hcatalogue, hapi⟩
  obtain rfl := Json.obj.inj hresult
  obtain rfl := Json.obj.inj hcatalogue
  rcases hapi with ⟨items, hitems⟩ | ⟨fields, hfields⟩
  · cases hitems
  · cases hfields

/-- A failed scenario under a list as `api` makes the gate raise a `TypeError`. -/
theorem validateStructuredConformanceResult_unhashable_fails :
    ¬ ∀ raw, HasFailedOutcome raw → ∃ message, validateStructuredConformanceResult raw =
      .error (.structuredResultGateError message) := by
  intro hall
  obtain ⟨message, hmessage⟩ :=
    hall (tracedResult (.arr []) "failed") (.inr ⟨_, List.mem_cons_self, .inl rfl⟩)
  cases hmessage

end Conformance
