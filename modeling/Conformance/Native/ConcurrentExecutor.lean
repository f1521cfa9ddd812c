import Conformance.ForStd.Machine
import Conformance.Native.Executor

/-!
# Concurrent manifest runs

`_run_manifest_v1` of `conformance/executor.py` as the thread pool runs it. Setup is
one thread; then every execution group is a thread that starts from the context the
setup left. A thread executes its own steps one after the other, and between two of
them any other thread may run. The bank, the HTTP client, the session store, the key
cache and the clock are one `World` that all threads change.

A run is given by the threads that take a step, in order. The pool bounds how many
threads are active at once, which only leaves out some of these orders.
-/

namespace Conformance

/-- The per-step executors with the world they share. -/
structure SharedExecutor (p : FieldParsers) where
  World : Type
  Context : Type
  initialContext : Context
  executeV1Step : ManifestStep p → Context → World → Except PyError (StepOutcome × Context) × World
  executeV1PsuStep :
    PsuAuthorizationStep p → Context → World → Except PyError (StepOutcome × Context) × World

variable {p : FieldParsers} (executor : SharedExecutor p)

/-- Dispatch on the kind of a step. -/
def dispatchSharedStep (manifestStep : V1Step p) (context : executor.Context)
    (world : executor.World) : Except PyError (StepOutcome × executor.Context) × executor.World :=
  match manifestStep with
  | .http step => executor.executeV1Step step context world
  | .psuAuthorization step => executor.executeV1PsuStep step context world

/-- `_execute_v1_manifest_step`, in a shared world. -/
def executeSharedStep (manifestStep : V1Step p) (context : executor.Context)
    (world : executor.World) : Except PyError (StepResult × executor.Context) × executor.World :=
  let (outcome, world) := dispatchSharedStep executor manifestStep context world
  (outcome.map fun (outcome, newContext) =>
    let stepResult := outcome.toStepResult manifestStep.id
    (if manifestStep.mandatory then { stepResult with mandatory := true } else stepResult,
      newContext), world)

/-! ## Threads -/

/-- A running `_execute_v1_step_sequence`: the steps it still has to execute, its own
    context, the results so far, and the exception that ended it. -/
structure StepThread where
  remaining : List (V1Step p)
  context : executor.Context
  results : List StepResult := []
  failure : Option PyError := none

/-- The threads of a phase and the world between them. -/
structure ThreadsState where
  threads : List (StepThread executor)
  world : executor.World

/-- The next step of a thread. An exception ends the thread. -/
def StepThread.advance (thread : StepThread executor) (world : executor.World) :
    Option (StepThread executor × executor.World) :=
  match thread.remaining with
  | [] => none
  | step :: rest =>
    match executeSharedStep executor step thread.context world with
    | (.ok (result, context), world) =>
      some ({ thread with
        remaining := rest, context := context, results := thread.results ++ [result] }, world)
    | (.error error, world) => some ({ thread with remaining := [], failure := some error }, world)

/-- One step of the thread at an index. -/
def advanceThread (state : ThreadsState executor) (index : Nat) : Option (ThreadsState executor) :=
  match state.threads[index]? with
  | none => none
  | some thread =>
    (thread.advance executor state.world).map fun (thread, world) =>
      ⟨state.threads.set index thread, world⟩

/-- The states of a phase under an order of steps. -/
def runThreads (start : ThreadsState executor) (order : List Nat) : Option (ThreadsState executor) :=
  Machine.run (advanceThread executor) start order

/-- Whether every thread has ended. -/
def ThreadsState.finished (state : ThreadsState executor) : Bool :=
  state.threads.all fun thread => thread.remaining.isEmpty

/-- `future.result()`. -/
def StepThread.result (thread : StepThread executor) : Except PyError (List StepResult) :=
  match thread.failure with
  | some error => .error error
  | none => .ok thread.results

/-! ## Runs -/

/-- The start of the setup sequence. -/
def setupStart (manifest : Manifest p) (plan : TestPlan) (world : executor.World) :
    ThreadsState executor :=
  ⟨[{ remaining := (buildExecutionSchedule manifest plan).setupSteps
      context := executor.initialContext }], world⟩

/-- The start of the execution groups, each from the setup context. -/
def groupsStart (manifest : Manifest p) (plan : TestPlan) (context : executor.Context)
    (world : executor.World) : ThreadsState executor :=
  ⟨(buildExecutionSchedule manifest plan).executionGroups.map fun group =>
    { remaining := group.steps, context := context }, world⟩

/-- The merged results of the execution groups: the futures are read in group order and
    `list.sort` is stable. -/
def mergeGroups (manifest : Manifest p) (threads : List (StepThread executor)) :
    Except PyError (List StepResult) := do
  let completed ← threads.mapM (StepThread.result executor)
  return completed.flatten.insertionSort fun a b =>
    manifestIndex manifest a ≤ manifestIndex manifest b

/-- The result list of `_run_manifest_v1` under an order of the setup steps and one of the
    steps of the groups, or `none` if one of them is not the order of a complete run. -/
def executeInterleaved (manifest : Manifest p) (plan : TestPlan) (world : executor.World)
    (setupOrder groupOrder : List Nat) : Option (Except PyError (List StepResult)) := do
  let setup ← runThreads executor (setupStart executor manifest plan world) setupOrder
  guard (setup.finished executor)
  let thread ← setup.threads[0]?
  match thread.result executor with
  | .error error => return .error error
  | .ok setupSteps => do
    let groups ← runThreads executor
      (groupsStart executor manifest plan thread.context setup.world) groupOrder
    guard (groups.finished executor)
    return do
      let executionSteps ← mergeGroups executor manifest groups.threads
      return setupSteps ++ executionSteps

end Conformance
