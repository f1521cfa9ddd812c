import Conformance.ForStd.Except
import Conformance.Native.Results

/-!
# The result gate

`conformance/result_gate.py`: the check that automation makes of a structured
result before it counts as conformance evidence. It reads the aggregate status,
the summary, the steps and the scenario trace of decoded JSON, whatever wrote it.
-/

namespace Conformance.ResultGate

/-! ## Reading fields -/

/-- `_object`. -/
def object (value : Json) (location : String) : Except PyError JsonObject :=
  match value with
  | .obj fields => .ok fields
  | _ => .error (.structuredResultGateError s!"{location} must be a JSON object")

/-- `_array`. -/
def array (value : Json) (location : String) : Except PyError (List Json) :=
  match value with
  | .arr items => .ok items
  | _ => .error (.structuredResultGateError s!"{location} must be a JSON array")

/-- Membership in `_RESULT_STATUSES`. -/
def resultStatus? (value : Json) : Option CheckStatus :=
  match value with
  | .str text => [CheckStatus.passed, .failed, .warn, .skipped].find? fun status =>
      status.text = text
  | _ => none

/-- `_status`. -/
def readStatus (fields : JsonObject) (location : String) : Except PyError CheckStatus :=
  match resultStatus? (getField fields "status") with
  | some status => .ok status
  | none => .error (.structuredResultGateError
      s!"{location}.status must be one of: failed, passed, skipped, warn")

/-- `_statuses`. -/
def statuses (values : List Json) (location : String) : Except PyError (List CheckStatus) :=
  values.zipIdx.mapM fun entry => do
    let index := entry.2
    let fields ← object entry.1 s!"{location}[{index}]"
    readStatus fields s!"{location}[{index}]"

/-- `_non_negative_integer`. -/
def nonNegativeInteger (value : Json) (location : String) : Except PyError Int :=
  match value with
  | .int n =>
    if n < 0 then
      .error (.structuredResultGateError s!"{location} must be a non-negative integer")
    else .ok n
  | _ => .error (.structuredResultGateError s!"{location} must be a non-negative integer")

/-- `api in {"dcr", "dynamic-client-registration"}`. A list or a dictionary cannot be
    looked up in a set. -/
def isDcrResult (api : Json) : Except PyError Bool :=
  match api with
  | .str text => .ok (text ∈ ["dcr", "dynamic-client-registration"])
  | .arr _ => .error (.typeError "cannot use 'list' as a set element (unhashable type: 'list')")
  | .obj _ => .error (.typeError "cannot use 'dict' as a set element (unhashable type: 'dict')")
  | _ => .ok false

/-! ## The checks -/

/-- One round of the loop of `_reject_failed_trace_cases`. -/
def rejectFailedTraceCase (groupIndex : Nat) (entry : Json × Nat) : Except PyError Unit := do
  let caseIndex := entry.2
  let location := s!"result.catalogue.traceGroups[{groupIndex}].testCases[{caseIndex}]"
  let fields ← object entry.1 location
  let status ← readStatus fields location
  Except.raiseIf (status = .failed)
    (.structuredResultGateError s!"{location} is a failed conformance case")
  let nestedSteps ← array (getField fields "steps") s!"{location}.steps"
  let nestedStatuses ← statuses nestedSteps s!"{location}.steps"
  Except.raiseIf (.failed ∈ nestedStatuses)
    (.structuredResultGateError s!"{location}.steps contains a failed conformance step")

/-- `_reject_failed_trace_cases`. -/
def rejectFailedTraceCases (cases : List Json) (groupIndex : Nat) : Except PyError Unit :=
  cases.zipIdx.forM (rejectFailedTraceCase groupIndex)

/-- The check of one trace group, with the number of its cases. -/
def traceGroupCases (entry : Json × Nat) : Except PyError Nat := do
  let groupIndex := entry.2
  let location := s!"result.catalogue.traceGroups[{groupIndex}]"
  let group ← object entry.1 location
  let groupStatus ← readStatus group location
  Except.raiseIf (groupStatus = .failed)
    (.structuredResultGateError s!"{location} is a failed conformance scenario")
  let cases ← array (getField group "testCases") s!"{location}.testCases"
  rejectFailedTraceCases cases groupIndex
  return cases.length

/-- The check of the aggregate, the summary and the steps. -/
def checkSteps (result : JsonObject) : Except PyError (List Json) := do
  Except.raiseIf (¬ (getField result "status").pyEq (.str "passed"))
    (.structuredResultGateError "result.status must be 'passed'")
  let summary ← object (getField result "summary") "result.summary"
  let reportedFailed ← nonNegativeInteger (getField summary "failed") "result.summary.failed"
  Except.raiseIf (reportedFailed ≠ 0)
    (.structuredResultGateError "result.summary.failed must be zero")
  let steps ← array (getField result "steps") "result.steps"
  Except.raiseIf (steps = [])
    (.structuredResultGateError "result.steps must contain at least one conformance step")
  let stepStatuses ← statuses steps "result.steps"
  let computedFailed : Nat := stepStatuses.countP fun status => status = .failed
  Except.raiseIf (computedFailed ≠ 0)
    (.structuredResultGateError
      s!"result.steps contains {computedFailed} failed conformance step(s)")
  Except.raiseIf ((computedFailed : Int) ≠ reportedFailed)
    (.structuredResultGateError "result.summary.failed does not match result.steps")
  return steps

/-- The check of `traceGroups`, with the number of traced cases. -/
def countTracedCases (isDcr : Bool) (traceGroups : Json) : Except PyError Nat :=
  match traceGroups with
  | .null =>
    if isDcr then
      .error (.structuredResultGateError "DCR result.catalogue.traceGroups is required")
    else .ok 0
  | _ => do
    let groups ← array traceGroups "result.catalogue.traceGroups"
    let counts ← groups.zipIdx.mapM traceGroupCases
    return counts.sum

/-- The check of the catalogue block, with the number of traced cases. -/
def checkCatalogue (catalogue : Json) : Except PyError Nat :=
  match catalogue with
  | .null => .ok 0
  | _ => do
    let fields ← object catalogue "result.catalogue"
    let isDcr ← isDcrResult (getField fields "api")
    let caseCount ← countTracedCases isDcr (getField fields "traceGroups")
    Except.raiseIf (isDcr = true ∧ caseCount = 0)
      (.structuredResultGateError "DCR result must contain traceable conformance cases")
    return caseCount

/-- `validate_structured_conformance_result`. -/
def validateStructuredConformanceResult (rawResult : Json) : Except PyError JsonObject := do
  let result ← object rawResult "result"
  let steps ← checkSteps result
  let caseCount ← checkCatalogue (getField result "catalogue")
  return [("status", .str "passed"), ("failed", .int 0), ("stepCount", .int steps.length),
    ("caseCount", .int caseCount)]

end Conformance.ResultGate
