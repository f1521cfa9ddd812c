import Conformance.Native.RunStore

/-!
# The auth-session store

The in-memory store of `conformance/api/auth_session_store.py`: the `state`
tokens the suite expects back from an ASPSP redirect, each owned by one run.

As in `Conformance.Native.RunStore` a method is an `EStateM` program, a raised
exception keeps the assignments made before it, and one call is one atomic step.
`secrets.token_urlsafe(32)` and `datetime.now(UTC)` are arguments.
-/

namespace Conformance

/-- Lifecycle states for a single PSU authorization session. -/
inductive AuthSessionStatus where
  | awaiting
  | captured
  | error
  deriving DecidableEq, Repr

/-- Cap on auth sessions retained per run. -/
def MAX_SESSIONS_PER_RUN : Nat := 8

/-- Minimum length for a caller-supplied `state` token. -/
def MIN_CALLER_SUPPLIED_STATE_LENGTH : Nat := 32

/-- State of a single PSU authorization session. -/
structure AuthSession where
  state : String
  runId : String
  status : AuthSessionStatus
  createdAt : Timestamp
  capturedAt : Option Timestamp := none
  code : Option String := none
  error : Option String := none
  errorDescription : Option String := none
  deriving DecidableEq, Repr

/-- The exceptions raised by the store's methods. -/
inductive AuthSessionError where
  | unknownAuthSessionError (state : String)
  | duplicateAuthSessionError (state : String)
  | invalidAuthSessionStateError (state : String)
  | authSessionLimitError (runId : String)
  | authSessionAlreadyResolvedError (state : String) (status : AuthSessionStatus)
  deriving DecidableEq, Repr

/-- The store: its sessions in registration order, keyed by `state`. -/
structure AuthSessionStore where
  sessions : Dict String AuthSession
  deriving DecidableEq

/-- A method of the store. -/
abbrev AuthSessionStoreM := EStateM AuthSessionError AuthSessionStore

namespace AuthSessionStore

/-- `AuthSessionStore()`. -/
def init : AuthSessionStore := ⟨Dict.empty⟩

/-- The sessions owned by a run, in registration order. -/
def ownedBy (store : AuthSessionStore) (runId : String) : List AuthSession :=
  store.sessions.values.filter fun session => session.runId = runId

/-- Register a new auth session for a run. `token` is the value
    `secrets.token_urlsafe(32)` would return. -/
def register (runId : String) (state : Option String) (token : String) (now : Timestamp) :
    AuthSessionStoreM AuthSession := do
  match state with
  | some supplied =>
    if supplied.length < MIN_CALLER_SUPPLIED_STATE_LENGTH then
      throw (.invalidAuthSessionStateError supplied)
  | none => pure ()
  let store ← MonadState.get
  let resolvedState := state.getD token
  if store.sessions.contains resolvedState then
    throw (.duplicateAuthSessionError resolvedState)
  if (store.ownedBy runId).length ≥ MAX_SESSIONS_PER_RUN then
    throw (.authSessionLimitError runId)
  let session : AuthSession :=
    { state := resolvedState, runId := runId, status := .awaiting, createdAt := now }
  set (AuthSessionStore.mk (store.sessions.set resolvedState session))
  return session

/-- The session a capture may write to: registered and still awaiting. -/
def awaitingSession (state : String) : AuthSessionStoreM AuthSession := do
  let store ← MonadState.get
  match store.sessions.get? state with
  | none => throw (.unknownAuthSessionError state)
  | some session =>
    if session.status ≠ .awaiting then
      throw (.authSessionAlreadyResolvedError state session.status)
    return session

/-- Record an authorization code captured from the ASPSP redirect. -/
def captureCode (state code : String) (now : Timestamp) : AuthSessionStoreM AuthSession := do
  let session ← awaitingSession state
  let session := { session with status := .captured, code := some code, capturedAt := some now }
  modify fun store => AuthSessionStore.mk (store.sessions.set state session)
  return session

/-- Record an error captured from the ASPSP redirect. -/
def captureError (state error : String) (description : Option String) (now : Timestamp) :
    AuthSessionStoreM AuthSession := do
  let session ← awaitingSession state
  let session := { session with
    status := .error, error := some error, errorDescription := description, capturedAt := some now }
  modify fun store => AuthSessionStore.mk (store.sessions.set state session)
  return session

/-- Look up an auth session by `(run_id, state)`. -/
def get (runId state : String) : AuthSessionStoreM (Option AuthSession) := do
  let store ← MonadState.get
  return (store.sessions.get? state).filter fun session => session.runId = runId

/-- List all auth sessions registered against a run. -/
def forRun (runId : String) : AuthSessionStoreM (List AuthSession) := do
  let store ← MonadState.get
  return store.ownedBy runId

/-- Drop all auth sessions belonging to a run. -/
def discardForRun (runId : String) : AuthSessionStoreM Nat := do
  let store ← MonadState.get
  let toDrop := (store.sessions.entries.filter fun e => e.2.runId = runId).map Prod.fst
  set (AuthSessionStore.mk (toDrop.foldl Dict.erase store.sessions))
  return toDrop.length

/-- Drop a single auth session identified by `(run_id, state)`. -/
def discard (runId state : String) : AuthSessionStoreM Bool := do
  let store ← MonadState.get
  match store.sessions.get? state with
  | none => return false
  | some session =>
    if session.runId ≠ runId then return false
    set (AuthSessionStore.mk (store.sessions.erase state))
    return true

/-! ## Sequences of method calls -/

/-- One call of a method of the store, with its arguments. -/
inductive Op where
  | register (runId : String) (state : Option String) (token : String) (now : Timestamp)
  | captureCode (state code : String) (now : Timestamp)
  | captureError (state error : String) (description : Option String) (now : Timestamp)
  | get (runId state : String)
  | forRun (runId : String)
  | discard (runId state : String)
  | discardForRun (runId : String)
  deriving DecidableEq, Repr

/-- The method call, its result dropped. -/
def Op.call : Op → AuthSessionStoreM Unit
  | .register runId state token now => do let _ ← AuthSessionStore.register runId state token now
  | .captureCode state code now => do let _ ← AuthSessionStore.captureCode state code now
  | .captureError state error description now => do
    let _ ← AuthSessionStore.captureError state error description now
  | .get runId state => do let _ ← AuthSessionStore.get runId state
  | .forRun runId => do let _ ← AuthSessionStore.forRun runId
  | .discard runId state => do let _ ← AuthSessionStore.discard runId state
  | .discardForRun runId => do let _ ← AuthSessionStore.discardForRun runId

/-- The store a call leaves behind, whether it returns or raises. -/
def after (store : AuthSessionStore) (op : Op) : AuthSessionStore :=
  match op.call.run store with
  | .ok _ store' => store'
  | .error _ store' => store'

/-- The store after a sequence of calls on a new one. -/
def exec (ops : List Op) : AuthSessionStore := ops.foldl after init

end AuthSessionStore

end Conformance
