import Conformance.Native.AuthSessionStore
import Conformance.Native.StepExecution

/-!
# PSU authorisation and the session store

`_execute_v1_psu_step_inner` of `conformance/executor.py` with the auth-session
store it registers in. `psuTransport` is a `StepTransport` whose world holds the
store and the `psu-authorization-url` events, so that `executeV1PsuStep` and
`manifestExecutor` run against the store of `Conformance.Native.AuthSessionStore`.

Random tokens, the clock, the signing service, the bank and the waiting for a
callback are fields of `PsuEnvironment`. Other threads and the callback endpoint
call the store while a step waits; those calls are listed by the environment.
-/

namespace Conformance

/-- The text of an exception of the store. -/
def AuthSessionError.message (repr : Json → String) : AuthSessionError → String
  | .unknownAuthSessionError state =>
    let state := repr (.str state)
    s!"Unknown auth-session state: {state}"
  | .duplicateAuthSessionError state =>
    let state := repr (.str state)
    s!"Auth-session state already registered: {state}"
  | .invalidAuthSessionStateError _ =>
    s!"Caller-supplied state must be at least {MIN_CALLER_SUPPLIED_STATE_LENGTH} characters"
  | .authSessionLimitError runId =>
    s!"Run {runId} already has {MAX_SESSIONS_PER_RUN} auth sessions"
  | .authSessionAlreadyResolvedError state status =>
    let state := repr (.str state)
    let status := match status with
      | .awaiting => "awaiting"
      | .captured => "captured"
      | .error => "error"
    s!"Auth session {state} already resolved (status={status})"

/-- The outside of the steps of a run, the session store apart. -/
structure PsuEnvironment (external : ExternalParsers) where
  Outside : Type
  runId : String
  pyStr : Json → String
  maskHeaders : List (String × String) → JsonObject
  maskJson : Json → Json
  maskForm : List (String × String) → JsonObject
  maskUrlQuery : String → String
  exchange : ManifestStep (requestParsers external) → String → Option (List (String × String)) →
    Option ManifestBody → JsonObject → ExecutionContext → Outside →
    Except PyError Exchange × List AuthSessionStore.Op × Outside
  tokenUrlsafe : Outside → String × Outside
  now : Outside → Timestamp × Outside
  generateRequestObject : PsuAuthorizationStep (requestParsers external) → PsuRequest → String →
    Option String → Outside → Except String String × Outside
  buildAuthorizationUrl : PsuAuthorizationStep (requestParsers external) → PsuRequest →
    Option String → String
  awaitCallback : PsuAuthorizationStep (requestParsers external) → String → ExecutionContext →
    AuthSessionStore → Outside →
    Except PyError (String × Exchange) × List AuthSessionStore.Op × Outside

/-- The store, the URLs of the `psu-authorization-url` events, and the rest. -/
structure PsuWorld (Outside : Type) where
  sessions : AuthSessionStore
  emitted : List String := []
  outside : Outside

variable {external : ExternalParsers} (environment : PsuEnvironment external)

/-- The state token of a registration: the store draws one if none is supplied. -/
def drawState (state : Option String) (outside : environment.Outside) :
    String × environment.Outside :=
  match state with
  | some state => (state, outside)
  | none => environment.tokenUrlsafe outside

/-- `auth_session_store.register(run_id, state=resolved_state)`. -/
def registerPsuSession (state : Option String) (world : PsuWorld environment.Outside) :
    Except AuthSessionError String × PsuWorld environment.Outside :=
  let (token, outside) := drawState environment state world.outside
  let (now, outside) := environment.now outside
  match (AuthSessionStore.register environment.runId state token now).run world.sessions with
  | .ok session sessions => (.ok session.state, { world with sessions := sessions, outside := outside })
  | .error raised sessions => (.error raised, { world with sessions := sessions, outside := outside })

/-- The store after the calls that others make while a step waits. -/
def applyCalls (sessions : AuthSessionStore) (calls : List AuthSessionStore.Op) :
    AuthSessionStore :=
  calls.foldl AuthSessionStore.after sessions

/-- The steps of a run with their session store. -/
def psuTransport : StepTransport external where
  World := PsuWorld environment.Outside
  pyStr := environment.pyStr
  maskHeaders := environment.maskHeaders
  maskJson := environment.maskJson
  maskForm := environment.maskForm
  maskUrlQuery := environment.maskUrlQuery
  exchange step url headers body evidence context world :=
    let (exchange, calls, outside) :=
      environment.exchange step url headers body evidence context world.outside
    (exchange, { world with sessions := applyCalls world.sessions calls, outside := outside })
  registerSession state world :=
    let (registered, world) := registerPsuSession environment state world
    match registered with
    | .ok state => (.ok state, world)
    | .error raised => (.error (raised.message external.repr), world)
  generateRequestObject step request audience openbankingIntentId world :=
    let (generated, outside) := environment.generateRequestObject step request audience
      openbankingIntentId world.outside
    (generated, { world with outside := outside })
  -- the URL is emitted before the step waits for its callback
  authorize step request requestObject context world :=
    let url := environment.buildAuthorizationUrl step request requestObject
    let (answer, calls, outside) :=
      environment.awaitCallback step url context world.sessions world.outside
    (answer, {
      sessions := applyCalls world.sessions calls, emitted := world.emitted ++ [url],
      outside := outside })

end Conformance
