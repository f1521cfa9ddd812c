import Conformance.Native.Python

/-!
# The run store

The in-memory store of `conformance/api/run_store.py`: one record per run, at most
one of them active, and the participant actions a browser run waits for.

Each method of the class is an `EStateM` program. A Python method that raises
after an assignment leaves the assignment in place, and so does `EStateM`: the
state travels with the exception. Every method body runs under the store's lock,
so one method call is one atomic step.

`uuid.uuid4().hex` and `datetime.now(UTC)` are arguments of the methods that
call them.
-/

namespace Conformance

/-- A UTC timestamp, in microseconds after `datetime.min`. -/
abbrev Timestamp := Nat

/-- `datetime.min.replace(tzinfo=UTC)`. -/
def datetimeMin : Timestamp := 0

/-- Lifecycle states for a conformance run. -/
inductive RunStatus where
  | pending
  | running
  | completed
  | failed
  deriving DecidableEq, Repr

/-- `status in _TERMINAL_STATUSES`. -/
def RunStatus.isTerminal : RunStatus → Bool
  | .pending => false
  | .running => false
  | .completed => true
  | .failed => true

/-- Cap on completed/failed records retained in memory. -/
def MAX_TERMINAL_RECORDS : Nat := 10

/-- Browser participant action kinds supported by the run store. -/
inductive ParticipantActionType where
  | psuAuthorizationUrl
  deriving DecidableEq, Repr

/-- Lifecycle states for browser participant actions. -/
inductive ParticipantActionStatus where
  | pending
  | completed
  deriving DecidableEq, Repr

/-- In-memory action required from the browser participant. -/
structure ParticipantAction where
  type : ParticipantActionType
  stepId : String
  url : String
  status : ParticipantActionStatus
  createdAt : Timestamp
  completedAt : Option Timestamp := none
  deriving DecidableEq, Repr

/-- Immutable snapshot of one selected plan step at run launch. -/
structure RunPlanStep where
  stepId : String
  name : String
  kind : String
  group : Option String
  phase : Option String
  mandatory : Bool
  optional : Bool
  order : Nat
  deriving DecidableEq, Repr

/-- State of a single conformance run. -/
structure RunRecord where
  runId : String
  status : RunStatus
  createdAt : Timestamp
  startedAt : Option Timestamp := none
  finishedAt : Option Timestamp := none
  result : Option Json := none
  error : Option String := none
  participantActions : Dict String ParticipantAction := Dict.empty
  participantAction : Option ParticipantAction := none
  plannedSteps : List RunPlanStep := []
  planSnapshot : Option Json := none
  validationResult : Option Json := none

/-- The exceptions raised by the store's methods. -/
inductive RunStoreError where
  | runConflictError (activeRunId : String)
  | keyError (key : String)
  deriving DecidableEq, Repr

/-- The store: its records in creation order and the id of the active run. -/
structure RunStore where
  runs : Dict String RunRecord
  activeRunId : Option String

/-- A method of the store. -/
abbrev RunStoreM := EStateM RunStoreError RunStore

/-! ## Participant actions of a record -/

/-- `(a.created_at, a.step_id) < (b.created_at, b.step_id)`. -/
def ParticipantAction.before (a b : ParticipantAction) : Bool :=
  a.createdAt < b.createdAt || (a.createdAt == b.createdAt && a.stepId < b.stepId)

namespace RunRecord

/-- The oldest pending action; `min` returns the first of several minimal ones. -/
def firstPendingActionLocked (record : RunRecord) : Option ParticipantAction :=
  match record.participantActions.values.filter fun action => action.status = .pending with
  | [] => none
  | action :: actions =>
    some (actions.foldl (fun best next => if next.before best then next else best) action)

/-- Synchronise the legacy `participant_action` compatibility alias. -/
def syncLegacyParticipantActionLocked (record : RunRecord) : RunRecord :=
  { record with participantAction := record.firstPendingActionLocked }

/-- `record.participant_actions.clear(); record.participant_action = None`. -/
def clearParticipantActions (record : RunRecord) : RunRecord :=
  { record with participantActions := Dict.empty, participantAction := none }

/-- Detached copy of a record; values are immutable here, so copying is the
    identity except for the recomputed legacy alias. -/
def snapshotLocked (record : RunRecord) : RunRecord :=
  { record with participantAction := record.firstPendingActionLocked }

end RunRecord

namespace RunStore

/-- `RunStore()`. -/
def init : RunStore := ⟨Dict.empty, none⟩

/-- Ids of the completed and failed records, in creation order. -/
def terminalIds (store : RunStore) : List String :=
  (store.runs.entries.filter fun e => e.2.status.isTerminal).map Prod.fst

/-- The eviction key: `finished_at or datetime.min`. -/
def finishedKey (store : RunStore) (runId : String) : Timestamp :=
  ((store.runs.get? runId).bind RunRecord.finishedAt).getD datetimeMin

/-- Drop oldest terminal records beyond `MAX_TERMINAL_RECORDS`. -/
def pruneTerminalRecordsLocked (store : RunStore) : RunStore :=
  let terminalIds := store.terminalIds
  if terminalIds.length ≤ MAX_TERMINAL_RECORDS then store
  else
    -- `list.sort` is stable, and so is insertion with a reflexive comparison
    let oldestFirst := terminalIds.insertionSort fun a b => store.finishedKey a ≤ store.finishedKey b
    let evictCount := terminalIds.length - MAX_TERMINAL_RECORDS
    { store with runs := (oldestFirst.take evictCount).foldl Dict.erase store.runs }

/-- Reserve a new run slot if no run is currently active. -/
def createRun (uuid : String) (now : Timestamp) (plannedSteps : List RunPlanStep)
    (planSnapshot validationResult : Option Json) : RunStoreM RunRecord := do
  let store ← get
  match store.activeRunId with
  | some activeRunId => throw (.runConflictError activeRunId)
  | none =>
    let record : RunRecord :=
      { runId := uuid, status := .pending, createdAt := now, plannedSteps := plannedSteps,
        planSnapshot := planSnapshot, validationResult := validationResult }
    set { store with runs := store.runs.set uuid record, activeRunId := some uuid }
    modify pruneTerminalRecordsLocked
    return record

/-- Look up a run record by id. -/
def getRun (runId : String) : RunStoreM (Option RunRecord) := do
  let store ← get
  return (store.runs.get? runId).map RunRecord.snapshotLocked

/-- Snapshot the oldest pending browser participant action for a run. -/
def getParticipantAction (runId : String) : RunStoreM (Option ParticipantAction) := do
  let store ← get
  return (store.runs.get? runId).bind RunRecord.firstPendingActionLocked

/-- Store a pending raw PSU authorisation URL for browser launch. An unknown run
    id is a `KeyError`: the subscript is not guarded. -/
def setParticipantAction (runId stepId url : String) (now : Timestamp) : RunStoreM Unit := do
  let store ← get
  match store.runs.get? runId with
  | none => throw (.keyError runId)
  | some record =>
    let action : ParticipantAction :=
      { type := .psuAuthorizationUrl, stepId := stepId, url := url, status := .pending,
        createdAt := now }
    let record :=
      { record with participantActions := record.participantActions.set stepId action }
    set { store with runs := store.runs.set runId record.syncLegacyParticipantActionLocked }

/-- Clear the actions of a run, or mark the action of one step completed. -/
def clearParticipantAction (runId : String) (stepId : Option String) (now : Timestamp) :
    RunStoreM Unit := do
  let store ← get
  match store.runs.get? runId with
  | none => return
  | some record =>
    match stepId with
    | none => set { store with runs := store.runs.set runId record.clearParticipantActions }
    | some stepId =>
      match record.participantActions.get? stepId with
      | none => return
      | some action =>
        let action := { action with status := .completed, completedAt := some now }
        let record :=
          { record with participantActions := record.participantActions.set stepId action }
        set { store with runs := store.runs.set runId record.syncLegacyParticipantActionLocked }

/-- Transition a pending run to running state. -/
def markRunning (runId : String) (now : Timestamp) : RunStoreM Unit := do
  let store ← get
  match store.runs.get? runId with
  | none => return
  | some record =>
    set { store with
      runs := store.runs.set runId { record with status := .running, startedAt := some now } }

/-- `if self._active_run_id == run_id: self._active_run_id = None`. -/
def releaseActive (store : RunStore) (runId : String) : RunStore :=
  if store.activeRunId = some runId then { store with activeRunId := none } else store

/-- Transition a running run to completed state with its result. -/
def markCompleted (runId : String) (now : Timestamp) (result : Json) : RunStoreM Unit := do
  let store ← get
  match store.runs.get? runId with
  | none => return
  | some record =>
    let record :=
      { record with status := .completed, finishedAt := some now, result := some result }
    let store := { store with runs := store.runs.set runId record.clearParticipantActions }
    set (store.releaseActive runId)

/-- Transition a run to failed state with an error message. -/
def markFailed (runId : String) (now : Timestamp) (error : String) : RunStoreM Unit := do
  let store ← get
  match store.runs.get? runId with
  | none => return
  | some record =>
    let record :=
      { record with status := .failed, finishedAt := some now, error := some error }
    let store := { store with runs := store.runs.set runId record.clearParticipantActions }
    set (store.releaseActive runId)

/-! ## Sequences of method calls -/

/-- One call of a method of the store, with its arguments. -/
inductive Op where
  | createRun (uuid : String) (now : Timestamp) (plannedSteps : List RunPlanStep)
      (planSnapshot validationResult : Option Json)
  | markRunning (runId : String) (now : Timestamp)
  | markCompleted (runId : String) (now : Timestamp) (result : Json)
  | markFailed (runId : String) (now : Timestamp) (error : String)
  | setParticipantAction (runId stepId url : String) (now : Timestamp)
  | clearParticipantAction (runId : String) (stepId : Option String) (now : Timestamp)
  | getRun (runId : String)
  | getParticipantAction (runId : String)

/-- The method call, its result dropped. -/
def Op.call : Op → RunStoreM Unit
  | .createRun uuid now plannedSteps planSnapshot validationResult => do
    let _ ← RunStore.createRun uuid now plannedSteps planSnapshot validationResult
  | .markRunning runId now => RunStore.markRunning runId now
  | .markCompleted runId now result => RunStore.markCompleted runId now result
  | .markFailed runId now error => RunStore.markFailed runId now error
  | .setParticipantAction runId stepId url now => RunStore.setParticipantAction runId stepId url now
  | .clearParticipantAction runId stepId now => RunStore.clearParticipantAction runId stepId now
  | .getRun runId => do let _ ← RunStore.getRun runId
  | .getParticipantAction runId => do let _ ← RunStore.getParticipantAction runId

/-- The store a call leaves behind, whether it returns or raises. -/
def after (store : RunStore) (op : Op) : RunStore :=
  match op.call.run store with
  | .ok _ store' => store'
  | .error _ store' => store'

/-- The store after a sequence of calls on a new one. -/
def exec (ops : List Op) : RunStore := ops.foldl after init

end RunStore

end Conformance
