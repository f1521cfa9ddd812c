import Conformance.Native.RunStore
import Mathlib.Logic.Function.Basic

/-!
# The objects of the run store

`RunStore` keeps Python objects: a record, the dictionary of its participant
actions and every action are objects of their own, changed in place by the
methods (`action.status = "completed"`, `participant_actions.clear()`), and a
reader that was handed one of them would see the change. Whether `get_run` and
`get_participant_actions` hand out copies or the objects themselves is a question
about identities, so this model of `conformance/api/run_store.py` has addresses:
an attribute that holds an object holds its address, a constructor call and
`dataclasses.replace` take a new one.

`ObjectStore.view` reads the value-level store `RunStore` back. The JSON values of
a record are never written in place by a method and stay values here.
-/

namespace Conformance

/-- The identity of an object. -/
abbrev Address := Nat

/-- A `RunRecord` object. -/
structure RecordObject where
  runId : String
  status : RunStatus
  createdAt : Timestamp
  startedAt : Option Timestamp := none
  finishedAt : Option Timestamp := none
  result : Option Json := none
  error : Option String := none
  participantActions : Address
  participantAction : Option Address := none
  plannedSteps : List RunPlanStep := []
  planSnapshot : Option Json := none
  validationResult : Option Json := none

/-- The objects below `next`, and the attributes of the store. -/
structure ObjectStore where
  next : Address
  action : Address → ParticipantAction
  actions : Address → Dict String Address
  record : Address → RecordObject
  runs : Dict String Address
  activeRunId : Option String

namespace ObjectStore

/-- `RunStore()`. No object has been made, so nothing at any address is ever read. -/
def init : ObjectStore where
  next := 0
  action _ := { type := .psuAuthorizationUrl, stepId := "", url := "", status := .completed,
                createdAt := datetimeMin }
  actions _ := Dict.empty
  record _ := { runId := "", status := .failed, createdAt := datetimeMin, participantActions := 0 }
  runs := Dict.empty
  activeRunId := none

/-! ## Making and writing objects -/

/-- `ParticipantAction(...)`. -/
def newAction (store : ObjectStore) (action : ParticipantAction) : Address × ObjectStore :=
  (store.next, { store with
    next := store.next + 1, action := Function.update store.action store.next action })

/-- `{...}`. -/
def newActions (store : ObjectStore) (actions : Dict String Address) : Address × ObjectStore :=
  (store.next, { store with
    next := store.next + 1, actions := Function.update store.actions store.next actions })

/-- `RunRecord(...)`. -/
def newRecord (store : ObjectStore) (record : RecordObject) : Address × ObjectStore :=
  (store.next, { store with
    next := store.next + 1, record := Function.update store.record store.next record })

/-- Write the attributes of an action. -/
def writeAction (store : ObjectStore) (a : Address) (action : ParticipantAction) : ObjectStore :=
  { store with action := Function.update store.action a action }

/-- Write the items of a dictionary of actions. -/
def writeActions (store : ObjectStore) (a : Address) (actions : Dict String Address) :
    ObjectStore :=
  { store with actions := Function.update store.actions a actions }

/-- Write the attributes of a record. -/
def writeRecord (store : ObjectStore) (a : Address) (record : RecordObject) : ObjectStore :=
  { store with record := Function.update store.record a record }

/-! ## Participant actions of a record -/

/-- The oldest pending action of the record at `a`. -/
def firstPendingActionLocked (store : ObjectStore) (a : Address) : Option Address :=
  match (store.actions (store.record a).participantActions).values.filter
      fun action => (store.action action).status = .pending with
  | [] => none
  | action :: actions => some (actions.foldl (fun best next =>
      if (store.action next).before (store.action best) then next else best) action)

/-- Synchronise the legacy `participant_action` compatibility alias. -/
def syncLegacyParticipantActionLocked (store : ObjectStore) (a : Address) : ObjectStore :=
  store.writeRecord a
    { store.record a with participantAction := store.firstPendingActionLocked a }

/-- `record.participant_actions.clear(); record.participant_action = None`. -/
def clearParticipantActions (store : ObjectStore) (a : Address) : ObjectStore :=
  (store.writeActions (store.record a).participantActions Dict.empty).writeRecord a
    { store.record a with participantAction := none }

/-- `dataclasses.replace(action) if action is not None else None`. -/
def snapshotParticipantAction (store : ObjectStore) :
    Option Address → Option Address × ObjectStore
  | none => (none, store)
  | some a =>
    let (copy, store) := store.newAction (store.action a)
    (some copy, store)

/-- One item of the comprehension: a copy of the action under the same step id. -/
def snapshotItem (copied : ObjectStore × Dict String Address) (item : String × Address) :
    ObjectStore × Dict String Address :=
  let (copy, store) := copied.1.newAction (copied.1.action item.2)
  (store, copied.2.set item.1 copy)

/-- `{step_id: dataclasses.replace(action) for step_id, action in actions.items()}`. -/
def snapshotParticipantActions (store : ObjectStore) (actions : Dict String Address) :
    Address × ObjectStore :=
  let (store, copies) := actions.entries.foldl snapshotItem (store, Dict.empty)
  store.newActions copies

/-- Create a detached run record snapshot. -/
def snapshotRecordLocked (store : ObjectStore) (a : Address) : Address × ObjectStore :=
  let record := store.record a
  let (snapshotActions, store) :=
    store.snapshotParticipantActions (store.actions record.participantActions)
  let (legacyAction, store) :=
    store.snapshotParticipantAction (store.firstPendingActionLocked a)
  store.newRecord
    { record with participantActions := snapshotActions, participantAction := legacyAction }

/-! ## The methods -/

/-- Ids of the completed and failed records, in creation order. -/
def terminalIds (store : ObjectStore) : List String :=
  (store.runs.entries.filter fun e => (store.record e.2).status.isTerminal).map Prod.fst

/-- The eviction key: `finished_at or datetime.min`. -/
def finishedKey (store : ObjectStore) (runId : String) : Timestamp :=
  ((store.runs.get? runId).bind fun a => (store.record a).finishedAt).getD datetimeMin

/-- Drop oldest terminal records beyond `MAX_TERMINAL_RECORDS`. -/
def pruneTerminalRecordsLocked (store : ObjectStore) : ObjectStore :=
  let terminalIds := store.terminalIds
  if terminalIds.length ≤ MAX_TERMINAL_RECORDS then store
  else
    let oldestFirst := terminalIds.insertionSort fun a b => store.finishedKey a ≤ store.finishedKey b
    let evictCount := terminalIds.length - MAX_TERMINAL_RECORDS
    { store with runs := (oldestFirst.take evictCount).foldl Dict.erase store.runs }

/-- Reserve a new run slot; `RunConflictError` is raised before anything is made. -/
def createRun (uuid : String) (now : Timestamp) (plannedSteps : List RunPlanStep)
    (planSnapshot validationResult : Option Json) (store : ObjectStore) : ObjectStore :=
  match store.activeRunId with
  | some _ => store
  | none =>
    -- `field(default_factory=dict)`
    let (actions, store) := store.newActions Dict.empty
    let (record, store) := store.newRecord
      { runId := uuid, status := .pending, createdAt := now, participantActions := actions,
        plannedSteps := plannedSteps, planSnapshot := planSnapshot,
        validationResult := validationResult }
    pruneTerminalRecordsLocked
      { store with runs := store.runs.set uuid record, activeRunId := some uuid }

/-- Look up a run record by id. -/
def getRun (runId : String) (store : ObjectStore) : Option Address × ObjectStore :=
  match store.runs.get? runId with
  | none => (none, store)
  | some a =>
    let (copy, store) := store.snapshotRecordLocked a
    (some copy, store)

/-- Snapshot the oldest pending browser participant action for a run. -/
def getParticipantAction (runId : String) (store : ObjectStore) : Option Address × ObjectStore :=
  match store.runs.get? runId with
  | none => (none, store)
  | some a => store.snapshotParticipantAction (store.firstPendingActionLocked a)

/-- Snapshot all browser participant actions for a run, by creation time then step id. -/
def getParticipantActions (runId : String) (store : ObjectStore) : List Address × ObjectStore :=
  match store.runs.get? runId with
  | none => ([], store)
  | some a =>
    let (copies, store) :=
      store.snapshotParticipantActions (store.actions (store.record a).participantActions)
    ((store.actions copies).values.insertionSort fun x y =>
      (store.action y).before (store.action x) = false, store)

/-- Store a pending raw PSU authorisation URL for browser launch. The `KeyError`
    of an unknown run id is raised before anything is made. -/
def setParticipantAction (runId stepId url : String) (now : Timestamp) (store : ObjectStore) :
    ObjectStore :=
  match store.runs.get? runId with
  | none => store
  | some a =>
    let (action, store) := store.newAction
      { type := .psuAuthorizationUrl, stepId := stepId, url := url, status := .pending,
        createdAt := now }
    let actions := (store.record a).participantActions
    let store := store.writeActions actions ((store.actions actions).set stepId action)
    store.syncLegacyParticipantActionLocked a

/-- Clear the actions of a run, or mark the action of one step completed. -/
def clearParticipantAction (runId : String) (stepId : Option String) (now : Timestamp)
    (store : ObjectStore) : ObjectStore :=
  match store.runs.get? runId with
  | none => store
  | some a =>
    match stepId with
    | none => store.clearParticipantActions a
    | some stepId =>
      match (store.actions (store.record a).participantActions).get? stepId with
      | none => store
      | some action =>
        let store := store.writeAction action
          { store.action action with status := .completed, completedAt := some now }
        store.syncLegacyParticipantActionLocked a

/-- Transition a pending run to running state. -/
def markRunning (runId : String) (now : Timestamp) (store : ObjectStore) : ObjectStore :=
  match store.runs.get? runId with
  | none => store
  | some a =>
    store.writeRecord a { store.record a with status := .running, startedAt := some now }

/-- `if self._active_run_id == run_id: self._active_run_id = None`. -/
def releaseActive (store : ObjectStore) (runId : String) : ObjectStore :=
  if store.activeRunId = some runId then { store with activeRunId := none } else store

/-- Transition a running run to completed state with its result. -/
def markCompleted (runId : String) (now : Timestamp) (result : Json) (store : ObjectStore) :
    ObjectStore :=
  match store.runs.get? runId with
  | none => store
  | some a =>
    let store := store.writeRecord a
      { store.record a with status := .completed, finishedAt := some now, result := some result }
    (store.clearParticipantActions a).releaseActive runId

/-- Transition a run to failed state with an error message. -/
def markFailed (runId : String) (now : Timestamp) (error : String) (store : ObjectStore) :
    ObjectStore :=
  match store.runs.get? runId with
  | none => store
  | some a =>
    let store := store.writeRecord a
      { store.record a with status := .failed, finishedAt := some now, error := some error }
    (store.clearParticipantActions a).releaseActive runId

/-- Wipe all run state. -/
def reset (store : ObjectStore) : ObjectStore :=
  { store with runs := Dict.empty, activeRunId := none }

/-! ## Sequences of method calls -/

/-- One call of a method of the store: one of those `RunStore.Op` lists, or one of
    the two it leaves out. -/
inductive Call where
  | op (op : RunStore.Op)
  | getParticipantActions (runId : String)
  | reset

/-- The store a call leaves behind, whether it returns or raises. -/
def after (store : ObjectStore) : Call → ObjectStore
  | .op (.createRun uuid now plannedSteps planSnapshot validationResult) =>
    store.createRun uuid now plannedSteps planSnapshot validationResult
  | .op (.markRunning runId now) => store.markRunning runId now
  | .op (.markCompleted runId now result) => store.markCompleted runId now result
  | .op (.markFailed runId now error) => store.markFailed runId now error
  | .op (.setParticipantAction runId stepId url now) =>
    store.setParticipantAction runId stepId url now
  | .op (.clearParticipantAction runId stepId now) =>
    store.clearParticipantAction runId stepId now
  | .op (.getRun runId) => (store.getRun runId).2
  | .op (.getParticipantAction runId) => (store.getParticipantAction runId).2
  | .getParticipantActions runId => (store.getParticipantActions runId).2
  | .reset => store.reset

/-- The store after a sequence of calls on a new one. -/
def exec (calls : List Call) : ObjectStore := calls.foldl after init

/-! ## Reading objects -/

/-- The attributes of the record at `a`, with the objects they lead to. -/
def readRecord (store : ObjectStore) (a : Address) : RunRecord :=
  let record := store.record a
  { runId := record.runId
    status := record.status
    createdAt := record.createdAt
    startedAt := record.startedAt
    finishedAt := record.finishedAt
    result := record.result
    error := record.error
    participantActions := (store.actions record.participantActions).mapValues store.action
    participantAction := record.participantAction.map store.action
    plannedSteps := record.plannedSteps
    planSnapshot := record.planSnapshot
    validationResult := record.validationResult }

/-- The store as values. -/
def view (store : ObjectStore) : RunStore where
  runs := store.runs.mapValues store.readRecord
  activeRunId := store.activeRunId

end ObjectStore

end Conformance
