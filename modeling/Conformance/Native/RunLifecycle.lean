import Conformance.Native.AuthSessionStore
import Conformance.ForStd.Machine
import Mathlib.Logic.Function.Basic

/-!
# The run lifecycle

The parties that share the run store and the auth-session store, and how their
atomic steps interleave: `start_run` calls and the `_execute_run` threads they
start (`conformance/api/run_lifecycle.py`), `register_auth_session` requests
(`conformance/api/views.py`) and ASPSP callbacks
(`conformance/api/callback_views.py`).

Each store method runs under its store's lock, so a party takes at most one store
call per step. What the environment decides is in the event: whether
`Thread.start()`, the HTTP client, the engine, the serialisation or the
persistence fails, what the engine asks of the stores, and the values of
`uuid4`, `token_urlsafe` and the clock.
-/

namespace Conformance

/-- The two process-wide stores. -/
structure Stores where
  runs : RunStore
  sessions : AuthSessionStore

namespace Stores

/-- `run_store.get_run(run_id)`. -/
def getRun (stores : Stores) (runId : String) : Option RunRecord :=
  match (RunStore.getRun runId).run stores.runs with
  | .ok record _ => record
  | .error _ _ => none

/-- The stores after a call on the run store. -/
def callRuns (stores : Stores) (op : RunStore.Op) : Stores :=
  { stores with runs := stores.runs.after op }

/-- The stores after a call on the auth-session store. -/
def callSessions (stores : Stores) (op : AuthSessionStore.Op) : Stores :=
  { stores with sessions := stores.sessions.after op }

end Stores

/-! ## `start_run` -/

/-- What `start_run` reads of its arguments before it reserves the slot.
    `plannedSteps` is the launch snapshot, `none` when taking it raises. -/
structure LaunchArguments where
  compiledPlan : Bool
  runtimeInputs : Bool
  runtimeInputBaseDir : Bool
  manifest : Bool
  plannedSteps : Option (List RunPlanStep)
  planSnapshot : Option Json
  validationResult : Option Json

/-- The exceptions `start_run` lets through. -/
inductive LaunchError where
  | valueError (message : String)
  | snapshotError
  | runConflictError (activeRunId : String)
  | threadStartError
  deriving DecidableEq, Repr

/-- Where a `start_run` call stands. -/
inductive LaunchPc where
  | idle
  | validated (arguments : LaunchArguments) (plannedSteps : List RunPlanStep)
  | created (arguments : LaunchArguments) (runId : String)
  | returned (runId : String)
  /-- Raised, with the run it had created by then. -/
  | raised (error : LaunchError) (runId : Option String)

/-- The steps of a `start_run` call. -/
inductive LaunchEvent where
  | validate (arguments : LaunchArguments)
  | create (uuid : String) (now : Timestamp)
  | startThread (started : Bool)

/-- Argument checks and the launch snapshot: nothing is reserved yet. -/
def validateLaunch (arguments : LaunchArguments) : LaunchPc :=
  if arguments.compiledPlan && (!arguments.runtimeInputs || !arguments.runtimeInputBaseDir) then
    .raised (.valueError
      "compiled_plan launches require runtime_inputs and runtime_input_base_dir") none
  else
    match arguments.plannedSteps with
    | none => .raised .snapshotError none
    | some plannedSteps => .validated arguments plannedSteps

/-- One step of a `start_run` call; `none` when the event is not its next one. -/
def launchStep (stores : Stores) : LaunchPc → LaunchEvent → Option (Stores × LaunchPc)
  | .idle, .validate arguments => some (stores, validateLaunch arguments)
  | .validated arguments plannedSteps, .create uuid now =>
    match (RunStore.createRun uuid now plannedSteps arguments.planSnapshot
        arguments.validationResult).run stores.runs with
    | .ok record runs => some ({ stores with runs := runs }, .created arguments record.runId)
    | .error (.runConflictError activeRunId) runs =>
      some ({ stores with runs := runs }, .raised (.runConflictError activeRunId) none)
    | .error (.keyError _) _ => none
  | .created _ runId, .startThread started =>
    -- nothing undoes the reservation when `Thread.start()` raises
    some (stores, if started then .returned runId else .raised .threadStartError (some runId))
  | _, _ => none

/-! ## `_execute_run` -/

/-- How building the HTTP client ends. -/
inductive ClientOutcome where
  | ok
  | valueError (message : String)
  | exception

/-- How writing the configured artifacts ends. -/
inductive PersistOutcome where
  | ok
  | osError (message : String)
  | exception

/-- What the engine asks of the stores while it runs. -/
inductive EngineOp where
  | register (state : Option String) (token : String) (now : Timestamp)
  | captureCode (state code : String) (now : Timestamp)
  | captureError (state error : String) (description : Option String) (now : Timestamp)
  | getSession (state : String)
  | setParticipantAction (stepId url : String) (now : Timestamp)
  | clearParticipantAction (stepId : Option String) (now : Timestamp)

/-- Where an `_execute_run` thread stands. -/
inductive ThreadPc where
  | absent
  | starting (smokeCheck : Bool)
  | marked (smokeCheck : Bool)
  | connecting
  | engine
  | serialising
  | persisting (result : Json)
  | completing (result : Json)
  | failing (error : String)
  | sweeping
  | finished

/-- Whether the thread is running. -/
def ThreadPc.alive : ThreadPc → Bool
  | .absent => false
  | .finished => false
  | _ => true

/-- The steps of an `_execute_run` thread. -/
inductive ThreadEvent where
  | markRunning (now : Timestamp)
  | readRecord
  | buildClient (outcome : ClientOutcome)
  | engineOp (op : EngineOp)
  | engineReturns
  | engineRaises
  | serialise (result : Option Json)
  | persist (outcome : PersistOutcome)
  | mark (now : Timestamp)
  | sweep

/-- The message of the handler for any other exception. -/
def internalError : String := "An internal error occurred"

/-- The store call behind an engine request of the run `runId`. -/
def engineCall (runId : String) (stores : Stores) : EngineOp → Stores
  | .register state token now => stores.callSessions (.register runId state token now)
  | .captureCode state code now => stores.callSessions (.captureCode state code now)
  | .captureError state error description now =>
    stores.callSessions (.captureError state error description now)
  | .getSession state => stores.callSessions (.get runId state)
  | .setParticipantAction stepId url now =>
    stores.callRuns (.setParticipantAction runId stepId url now)
  | .clearParticipantAction stepId now => stores.callRuns (.clearParticipantAction runId stepId now)

/-- One step of the thread of `runId`; `none` when the event is not a next one. -/
def threadStep (runId : String) (stores : Stores) : ThreadPc → ThreadEvent → Option (Stores × ThreadPc)
  | .starting smokeCheck, .markRunning now =>
    some (stores.callRuns (.markRunning runId now), .marked smokeCheck)
  | .marked smokeCheck, .readRecord =>
    match stores.getRun runId with
    -- the run disappeared: return, through `finally`
    | none => some (stores, .sweeping)
    | some _ => some (stores, if smokeCheck then .engine else .connecting)
  | .connecting, .buildClient outcome =>
    match outcome with
    | .ok => some (stores, .engine)
    | .valueError message => some (stores, .failing ("HTTP client setup failed: " ++ message))
    | .exception => some (stores, .failing internalError)
  | .engine, .engineOp op => some (engineCall runId stores op, .engine)
  | .engine, .engineReturns => some (stores, .serialising)
  | .engine, .engineRaises => some (stores, .failing internalError)
  | .serialising, .serialise result =>
    match result with
    | some result => some (stores, .persisting result)
    | none => some (stores, .failing internalError)
  | .persisting result, .persist outcome =>
    match outcome with
    | .ok => some (stores, .completing result)
    | .osError message => some (stores, .failing ("Artifact persistence failed: " ++ message))
    | .exception => some (stores, .failing internalError)
  | .completing result, .mark now =>
    some (stores.callRuns (.markCompleted runId now result), .sweeping)
  | .failing error, .mark now => some (stores.callRuns (.markFailed runId now error), .sweeping)
  | .sweeping, .sweep => some (stores.callSessions (.discardForRun runId), .finished)
  | _, _ => none

/-! ## `register_auth_session` -/

/-- The responses of the view. -/
inductive RegisterAnswer where
  | created (session : AuthSession)
  | malformedBody
  | runNotFound
  | runNotActive (status : RunStatus)
  | rejected (error : AuthSessionError)
  deriving DecidableEq, Repr

/-- The HTTP status of a response. -/
def RegisterAnswer.httpStatus : RegisterAnswer → Nat
  | .created _ => 201
  | .malformedBody => 400
  | .runNotFound => 404
  | .runNotActive _ => 409
  | .rejected (.invalidAuthSessionStateError _) => 400
  | .rejected (.duplicateAuthSessionError _) => 409
  | .rejected (.authSessionLimitError _) => 400
  | .rejected _ => 500

/-- Where a registration request stands. -/
inductive RequestPc where
  | unseen
  | received (runId : String) (rawState : Option String)
  | admitted (runId : String) (rawState : Option String)
  | registered (runId : String) (session : AuthSession)
  | rollback (runId : String) (session : AuthSession) (answer : RegisterAnswer)
  | answered (runId : String) (answer : RegisterAnswer)

/-- The steps of a registration request. The body is `none` when it is malformed. -/
inductive RequestEvent where
  | receive (runId : String) (body : Option (Option String))
  | readRun
  | register (token : String) (now : Timestamp)
  | rereadRun
  | discard

/-- The answer to a run record that is absent or terminal. -/
def refusal (record : Option RunRecord) : Option RegisterAnswer :=
  match record with
  | none => some .runNotFound
  | some record => if record.status.isTerminal then some (.runNotActive record.status) else none

/-- One step of a registration request; `none` when the event is not its next one. -/
def requestStep (stores : Stores) : RequestPc → RequestEvent → Option (Stores × RequestPc)
  | .unseen, .receive runId body =>
    match body with
    | none => some (stores, .answered runId .malformedBody)
    | some rawState => some (stores, .received runId rawState)
  | .received runId rawState, .readRun =>
    match refusal (stores.getRun runId) with
    | some answer => some (stores, .answered runId answer)
    | none => some (stores, .admitted runId rawState)
  | .admitted runId rawState, .register token now =>
    match (AuthSessionStore.register runId rawState token now).run stores.sessions with
    | .ok session sessions => some ({ stores with sessions := sessions }, .registered runId session)
    | .error error sessions =>
      some ({ stores with sessions := sessions }, .answered runId (.rejected error))
  -- the run may have been swept between the first look and the registration
  | .registered runId session, .rereadRun =>
    match refusal (stores.getRun runId) with
    | some answer => some (stores, .rollback runId session answer)
    | none => some (stores, .answered runId (.created session))
  | .rollback runId session answer, .discard =>
    some (stores.callSessions (.discard runId session.state), .answered runId answer)
  | _, _ => none

/-! ## The interleaving -/

/-- What an ASPSP redirect carries. -/
inductive Redirect where
  | code (code : String)
  | error (error : String) (description : Option String)

/-- The process: the stores and where each party stands. `engineRegistered` is a
    history variable: whether the engine, and not a request, registered the
    session last stored under a state. -/
structure System where
  stores : Stores
  launches : Nat → LaunchPc
  threads : String → ThreadPc
  requests : Nat → RequestPc
  engineRegistered : String → Bool

/-- One atomic step of one party. -/
inductive Event where
  | launch (call : Nat) (event : LaunchEvent)
  | thread (runId : String) (event : ThreadEvent)
  | request (request : Nat) (event : RequestEvent)
  | callback (state : String) (redirect : Redirect) (now : Timestamp)

namespace System

/-- The process after start-up. -/
def init : System where
  stores := ⟨RunStore.init, AuthSessionStore.init⟩
  launches := fun _ => .idle
  threads := fun _ => .absent
  requests := fun _ => .unseen
  engineRegistered := fun _ => false

/-- The thread a `start_run` call that returns has started. -/
def startedThreads (threads : String → ThreadPc) (before after : LaunchPc) : String → ThreadPc :=
  match before, after with
  | .created arguments _, .returned runId =>
    Function.update threads runId (.starting (!arguments.compiledPlan && !arguments.manifest))
  | _, _ => threads

/-- The history variable after a store call, when `byEngine` made it. -/
def noteRegistration (engineRegistered : String → Bool) (before after : Stores) (byEngine : Bool) :
    String → Bool := fun state =>
  match before.sessions.sessions.get? state, after.sessions.sessions.get? state with
  | none, some _ => byEngine
  | _, _ => engineRegistered state

/-- One step of the process; `none` when the event is not enabled. -/
def step (system : System) : Event → Option System
  | .launch call event => do
    let (stores, pc) ← launchStep system.stores (system.launches call) event
    some { system with
      stores := stores
      launches := Function.update system.launches call pc
      threads := startedThreads system.threads (system.launches call) pc }
  | .thread runId event => do
    let (stores, pc) ← threadStep runId system.stores (system.threads runId) event
    some { system with
      stores := stores
      threads := Function.update system.threads runId pc
      engineRegistered := noteRegistration system.engineRegistered system.stores stores true }
  | .request request event => do
    let (stores, pc) ← requestStep system.stores (system.requests request) event
    some { system with
      stores := stores
      requests := Function.update system.requests request pc
      engineRegistered := noteRegistration system.engineRegistered system.stores stores false }
  | .callback state redirect now =>
    match redirect with
    | .code code =>
      some { system with stores := system.stores.callSessions (.captureCode state code now) }
    | .error error description =>
      some { system with
        stores := system.stores.callSessions (.captureError state error description now) }

/-- The process after a sequence of steps, if each was enabled. -/
def exec (events : List Event) : Option System := Machine.run step init events

end System

end Conformance
