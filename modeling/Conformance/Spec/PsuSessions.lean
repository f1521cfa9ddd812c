import Conformance.Native.PsuAuthorization
import Conformance.Spec.AuthSessionInvariant
import Conformance.Spec.StepContexts

/-!
# Sessions of PSU steps

What a PSU authorisation step leaves in the session store. A session is registered
after the templates and URLs of the step are checked and before its request object
is built; nothing takes it back if that fails.

## Key results

- `registerPsuSession_ok`, `registerPsuSession_refused`: when the store takes a session
- `leavesNoSession_iff`: when a step without an authorisation URL leaves no session
-/

namespace Conformance

open Except

variable {external : ExternalParsers} {environment : PsuEnvironment external}

/-! ## Registration -/

/-- The store accepts a registration: a supplied state is long enough, the state is new,
    and the run is below its cap. -/
def Registrable (environment : PsuEnvironment external) (state : Option String)
    (world : PsuWorld environment.Outside) : Prop :=
  (state.any fun supplied => supplied.length < MIN_CALLER_SUPPLIED_STATE_LENGTH) = false ∧
    world.sessions.sessions.contains (drawState environment state world.outside).1 = false ∧
    (world.sessions.ownedBy environment.runId).length < MAX_SESSIONS_PER_RUN

/-- The world after a registration, with the store left as given. -/
def afterDraw (environment : PsuEnvironment external) (state : Option String)
    (world : PsuWorld environment.Outside) (sessions : AuthSessionStore) :
    PsuWorld environment.Outside :=
  { world with
    sessions := sessions
    outside := (environment.now (drawState environment state world.outside).2).2 }

/-- The request with the state of its registered session. -/
def withDrawnState (environment : PsuEnvironment external) (request : PsuRequest)
    (world : PsuWorld environment.Outside) : PsuRequest :=
  { request with state := some (drawState environment request.state world.outside).1 }

/-- The state under which a session is registered. -/
theorem getD_drawState (state : Option String) (outside : environment.Outside) :
    state.getD (drawState environment state outside).1 = (drawState environment state outside).1 := by
  cases state <;> rfl

/-- A registration that is accepted adds one session under the state. -/
theorem registerPsuSession_ok {state : Option String} {world : PsuWorld environment.Outside}
    (h : Registrable environment state world) :
    ∃ session : AuthSession, session.runId = environment.runId ∧
      registerPsuSession environment state world =
        (.ok (drawState environment state world.outside).1, afterDraw environment state world
          ⟨world.sessions.sessions.set (drawState environment state world.outside).1 session⟩) := by
  obtain ⟨hlong, hnew, hcap⟩ := h
  refine ⟨AuthSessionStore.registered environment.runId state
    (drawState environment state world.outside).1
    (environment.now (drawState environment state world.outside).2).1, rfl, ?_⟩
  unfold registerPsuSession
  simp only [AuthSessionStore.register_run, getD_drawState]
  rw [if_neg (by simp [hlong]), if_neg (by simp [hnew]), if_neg (Nat.not_le.mpr hcap)]
  simp only [AuthSessionStore.registered, getD_drawState]
  rfl

/-- A registration that is refused leaves the store alone. -/
theorem registerPsuSession_refused {state : Option String} {world : PsuWorld environment.Outside}
    (h : ¬ Registrable environment state world) :
    ∃ raised, registerPsuSession environment state world =
      (.error raised, afterDraw environment state world world.sessions) := by
  unfold registerPsuSession
  simp only [AuthSessionStore.register_run, getD_drawState]
  by_cases hshort : (state.any fun supplied =>
      supplied.length < MIN_CALLER_SUPPLIED_STATE_LENGTH) = true
  · exact ⟨_, by rw [if_pos hshort]; rfl⟩
  by_cases hdup : world.sessions.sessions.contains (drawState environment state world.outside).1 = true
  · exact ⟨_, by rw [if_neg hshort, if_pos hdup]; rfl⟩
  by_cases hcap : MAX_SESSIONS_PER_RUN ≤ (world.sessions.ownedBy environment.runId).length
  · exact ⟨_, by rw [if_neg hshort, if_neg hdup, if_pos hcap]; rfl⟩
  · exact absurd ⟨by simpa using hshort, by simpa using hdup, Nat.lt_of_not_le hcap⟩ h

/-! ## Steps without an authorisation URL -/

/-- The request object of a step cannot be built: its templates do not resolve, or it is to
    be generated and cannot be signed. -/
def RequestObjectFails (environment : PsuEnvironment external)
    (manifestStep : PsuAuthorizationStep (requestParsers external)) (context : ExecutionContext)
    (request : PsuRequest) (outside : environment.Outside) : Prop :=
  (∃ raised, resolveRequestObjectTemplates (psuTransport environment) manifestStep.requestObject
    context = .error raised) ∨
  ∃ audience openbankingIntentId message,
    resolveRequestObjectTemplates (psuTransport environment) manifestStep.requestObject context =
      .ok (some (.generated audience openbankingIntentId)) ∧
    (environment.generateRequestObject manifestStep request
      (audience.getD request.authorizationEndpoint) openbankingIntentId outside).1 = .error message

/-- The templates of a step resolve, its URLs are valid and the store accepts its session,
    but its request object cannot be built. -/
def RegistersInVain (environment : PsuEnvironment external)
    (manifestStep : PsuAuthorizationStep (requestParsers external)) (context : ExecutionContext)
    (world : PsuWorld environment.Outside) : Prop :=
  ∃ request, resolvePsuRequest (psuTransport environment) manifestStep context = .ok request ∧
    external.validateHttpsUrl request.authorizationEndpoint
      s!"Step '{manifestStep.id}' authorizationEndpoint" = .ok () ∧
    external.validateOauthRedirectUri request.redirectUri s!"Step '{manifestStep.id}' redirectUri" =
      .ok () ∧
    Registrable environment request.state world ∧
    RequestObjectFails environment manifestStep context (withDrawnState environment request world)
      (environment.now (drawState environment request.state world.outside).2).2

/-- If the step fails or is skipped and no authorisation URL was emitted, the store is as it
    was. -/
def LeavesNoSession (environment : PsuEnvironment external)
    (manifestStep : PsuAuthorizationStep (requestParsers external)) (context : ExecutionContext)
    (world : PsuWorld environment.Outside) : Prop :=
  ∀ outcome context' world',
    executeV1PsuStep (psuTransport environment) manifestStep context world =
      (.ok (outcome, context'), world') →
    outcome.status = .failed ∨ outcome.status = .skipped →
    world'.emitted = world.emitted → world'.sessions = world.sessions

/-- The checks on the URLs of a PSU step. -/
theorem checkPsuUrls_eq_ok {stepId : String} {request : PsuRequest}
    {onError : String → StepReturn} :
    checkPsuUrls external stepId request onError = .ok () ↔
      external.validateHttpsUrl request.authorizationEndpoint
        s!"Step '{stepId}' authorizationEndpoint" = .ok () ∧
      external.validateOauthRedirectUri request.redirectUri s!"Step '{stepId}' redirectUri" =
        .ok () := by
  have hcheck : ∀ check, checkUrlOrReturn check onError = .ok () ↔ check = .ok () := by
    intro check
    unfold checkUrlOrReturn
    split <;> simp_all
  unfold checkPsuUrls
  rw [bind_eq_ok]
  constructor
  · rintro ⟨⟨⟩, hendpoint, hredirect⟩
    exact ⟨(hcheck _).mp hendpoint, (hcheck _).mp hredirect⟩
  · rintro ⟨hendpoint, hredirect⟩
    exact ⟨(), (hcheck _).mpr hendpoint, (hcheck _).mpr hredirect⟩

section Authorize

variable {manifestStep : PsuAuthorizationStep (requestParsers external)}
  {context : ExecutionContext} {request : PsuRequest} {world : PsuWorld environment.Outside}

/-- A step whose session is refused leaves the store alone. -/
theorem authorizePsu_refused (h : ¬ Registrable environment request.state world) :
    (authorizePsu (psuTransport environment) manifestStep context request world).2.sessions =
      world.sessions := by
  obtain ⟨raised, hregister⟩ := registerPsuSession_refused h
  have hsession : (psuTransport environment).registerSession request.state world =
      (.error (raised.message external.repr),
        afterDraw environment request.state world world.sessions) := by
    simp only [psuTransport, hregister]
  unfold authorizePsu
  simp only [hsession]
  rfl

/-- A new session changes the store. -/
private theorem set_sessions_ne {store : AuthSessionStore} {state : String} (session : AuthSession)
    (hnew : store.sessions.contains state = false) :
    (⟨store.sessions.set state session⟩ : AuthSessionStore) ≠ store := by
  intro heq
  have hget := congrArg (fun store : AuthSessionStore => store.sessions.contains state) heq
  simp [Dict.contains] at hget
  simp [Dict.contains, hget] at hnew

/-- The registration as the step sees it. -/
private theorem registerSession_of_ok {state : Option String} {registered : String}
    {world' : PsuWorld environment.Outside}
    (h : registerPsuSession environment state world = (.ok registered, world')) :
    (psuTransport environment).registerSession state world = (.ok registered, world') := by
  simp only [psuTransport, h]

/-- Building a request object leaves the store and the events alone. -/
theorem buildRequestObject_world {manifestStep : PsuAuthorizationStep (requestParsers external)}
    {request : PsuRequest} {templates : Option RequestObjectValue}
    {world world' : PsuWorld environment.Outside} {built : Except String (Option String)}
    (h : buildRequestObject (psuTransport environment) manifestStep request templates world =
      (built, world')) :
    world'.sessions = world.sessions ∧ world'.emitted = world.emitted := by
  rw [← (Prod.mk.inj h).2]
  cases templates with
  | none => exact ⟨rfl, rfl⟩
  | some requestObject =>
    cases requestObject with
    | literal text => exact ⟨rfl, rfl⟩
    | generated audience intentId => exact ⟨rfl, rfl⟩

/-- Only a generated request object fails once its templates are resolved. -/
private theorem buildRequestObject_error {manifestStep : PsuAuthorizationStep (requestParsers external)}
    {request : PsuRequest} {templates : Option RequestObjectValue}
    {world : PsuWorld environment.Outside} {message : String} :
    (buildRequestObject (psuTransport environment) manifestStep request templates world).1 =
      .error message ↔
    ∃ audience intentId, templates = some (.generated audience intentId) ∧
      (environment.generateRequestObject manifestStep request
        (audience.getD request.authorizationEndpoint) intentId world.outside).1 = .error message := by
  cases templates with
  | none => simp [buildRequestObject]
  | some requestObject =>
    cases requestObject with
    | literal text => simp [buildRequestObject]
    | generated audience intentId =>
      cases hgenerate : environment.generateRequestObject manifestStep request
          (audience.getD request.authorizationEndpoint) intentId world.outside with
      | mk generated outside =>
        cases generated with
        | error raised => simp [buildRequestObject, psuTransport, hgenerate, Except.map]
        | ok text => simp [buildRequestObject, psuTransport, hgenerate, Except.map]

/-- Waiting for a callback comes after the event. -/
private theorem authorize_emitted {manifestStep : PsuAuthorizationStep (requestParsers external)}
    {request : PsuRequest} {requestObject : Option String} {context : ExecutionContext}
    {world world' : PsuWorld environment.Outside} {answer : Except PyError (String × Exchange)}
    (h : (psuTransport environment).authorize manifestStep request requestObject context world =
      (answer, world')) : world'.emitted.length = world.emitted.length + 1 := by
  rw [← (Prod.mk.inj h).2]
  exact List.length_append

/-- A step whose request object cannot be built has registered its session. -/
theorem authorizePsu_vain (hregistrable : Registrable environment request.state world)
    (hfails : RequestObjectFails environment manifestStep context
      (withDrawnState environment request world)
      (environment.now (drawState environment request.state world.outside).2).2) :
    ∃ outcome context' world',
      authorizePsu (psuTransport environment) manifestStep context request world =
        (.ok (outcome, context'), world') ∧
      (outcome.status = .failed ∨ outcome.status = .skipped) ∧
      world'.emitted = world.emitted ∧ world'.sessions ≠ world.sessions := by
  obtain ⟨session, -, hregister⟩ := registerPsuSession_ok hregistrable
  have hchanged := set_sessions_ne session hregistrable.2.1
  unfold authorizePsu
  simp only [registerSession_of_ok hregister]
  rcases hfails with ⟨raised, htemplates⟩ | ⟨audience, intentId, message, htemplates, hgenerate⟩
  · simp only [htemplates]
    cases raised with
    | missingPredecessor _ => exact ⟨_, _, _, rfl, .inr rfl, rfl, hchanged⟩
    | unknownStep _ => exact ⟨_, _, _, rfl, .inl rfl, rfl, hchanged⟩
    | unresolved _ => exact ⟨_, _, _, rfl, .inl rfl, rfl, hchanged⟩
  · simp only [htemplates]
    split
    · rename_i hbuild
      obtain ⟨hsessions, hemitted⟩ := buildRequestObject_world hbuild
      refine ⟨_, _, _, rfl, .inl rfl, hemitted, ?_⟩
      rw [hsessions]
      exact hchanged
    · rename_i hbuild
      have herror : (buildRequestObject (psuTransport environment) manifestStep
          (withDrawnState environment request world) (some (.generated audience intentId))
          (afterDraw environment request.state world ⟨world.sessions.sessions.set
            (drawState environment request.state world.outside).1 session⟩)).1 = .error message :=
        buildRequestObject_error.mpr ⟨audience, intentId, rfl, hgenerate⟩
      exact absurd (herror.symm.trans (congrArg Prod.fst hbuild)) (by simp)

/-- A step whose request object is built emits its URL. -/
theorem authorizePsu_emits (hregistrable : Registrable environment request.state world)
    (hbuilt : ¬ RequestObjectFails environment manifestStep context
      (withDrawnState environment request world)
      (environment.now (drawState environment request.state world.outside).2).2) :
    (authorizePsu (psuTransport environment) manifestStep context request world).2.emitted ≠
      world.emitted := by
  obtain ⟨session, -, hregister⟩ := registerPsuSession_ok hregistrable
  rw [RequestObjectFails, not_or] at hbuilt
  unfold authorizePsu
  simp only [registerSession_of_ok hregister]
  cases htemplates : resolveRequestObjectTemplates (psuTransport environment)
      manifestStep.requestObject context with
  | error raised => exact absurd ⟨raised, htemplates⟩ hbuilt.1
  | ok templates =>
    simp only
    split
    · rename_i hbuild
      obtain ⟨audience, intentId, rfl, hgenerate⟩ :=
        buildRequestObject_error.mp (congrArg Prod.fst hbuild)
      exact absurd ⟨audience, intentId, _, htemplates, hgenerate⟩ hbuilt.2
    · rename_i hbuild
      have hemitted := (buildRequestObject_world hbuild).2
      -- whatever the callback brings, the URL has been emitted
      split
      all_goals
        rename_i hauthorize
        intro heq
        have hlonger := authorize_emitted hauthorize
        rw [heq, hemitted] at hlonger
        simp [afterDraw] at hlonger

end Authorize

/-- A PSU step that emits no authorisation URL leaves no session behind exactly when it does
    not register one in vain. -/
theorem leavesNoSession_iff (environment : PsuEnvironment external)
    (manifestStep : PsuAuthorizationStep (requestParsers external)) (context : ExecutionContext)
    (world : PsuWorld environment.Outside) :
    LeavesNoSession environment manifestStep context world ↔
      ¬ RegistersInVain environment manifestStep context world := by
  unfold LeavesNoSession
  unfold executeV1PsuStep
  constructor
  · rintro hleaves ⟨request, hrequest, hendpoint, hredirect, hregistrable, hfails⟩
    obtain ⟨outcome, context', world', hreturned, hstatus, hemitted, hchanged⟩ :=
      authorizePsu_vain hregistrable hfails
    refine hchanged (hleaves outcome context' world' ?_ hstatus hemitted)
    simp only [hrequest, checkPsuUrls_eq_ok.mpr ⟨hendpoint, hredirect⟩]
    exact hreturned
  · intro hvain outcome context' world' hreturned _ hemitted
    simp only at hreturned
    split at hreturned
    · rw [(Prod.mk.inj hreturned).2]
    · rename_i request hrequest
      split at hreturned
      · rw [(Prod.mk.inj hreturned).2]
      · rename_i hurls
        obtain ⟨hendpoint, hredirect⟩ := checkPsuUrls_eq_ok.mp hurls
        have hworld := congrArg Prod.snd hreturned
        -- the session is refused, or registered and then shown or left over
        by_cases hregistrable : Registrable environment request.state world
        · by_cases hfails : RequestObjectFails environment manifestStep context
              (withDrawnState environment request world)
              (environment.now (drawState environment request.state world.outside).2).2
          · exact absurd ⟨request, hrequest, hendpoint, hredirect, hregistrable, hfails⟩ hvain
          · refine absurd ?_ (authorizePsu_emits hregistrable hfails)
            rw [hworld]
            exact hemitted
        · have hkept : (authorizePsu (psuTransport environment) manifestStep context request
              world).2.sessions = world.sessions := authorizePsu_refused hregistrable
          rw [hworld] at hkept
          exact hkept

/-- A run without signing credentials, whose PSUs answer at once. -/
def unsignedEnvironment : PsuEnvironment literalParsers where
  Outside := Nat
  runId := "run-1"
  pyStr := followUpTransport.pyStr
  maskHeaders := followUpTransport.maskHeaders
  maskJson := id
  maskForm := followUpTransport.maskForm
  maskUrlQuery := id
  exchange _ _ _ _ _ _ drawn :=
    (.ok (.answered ⟨200, [], []⟩ ⟨.passed, "passed", none, some 200, []⟩), [], drawn)
  tokenUrlsafe drawn := (toString drawn, drawn + 1)
  now drawn := (0, drawn)
  generateRequestObject _ _ _ _ drawn := (.error "FAPI signing config is required", drawn)
  buildAuthorizationUrl step _ _ := step.authorizationEndpoint
  awaitCallback step url _ sessions drawn :=
    (.ok (url, .answered ⟨200, [], []⟩ ⟨.passed, "passed", none, none, []⟩),
      sessions.sessions.keys.map fun state => .captureCode state step.id 0, drawn)

/-- A PSU step whose request object is to be signed. -/
def signedRequestStep : PsuAuthorizationStep (requestParsers literalParsers) where
  id := "authorise"
  name := "Authorise consent"
  mode := .manual
  authorizationEndpoint := "https://a"
  clientId := "c"
  redirectUri := "https://b"
  responseType := "code id_token"
  scope := "openid"
  state := none
  nonce := none
  requestObject := some (.generated none none : RequestObjectValue)
  mandatory := false
  optional := false
  group := "default"
  phase := .execution

/-- Without credentials the step fails after its session is registered. -/
theorem leavesNoSession_unsigned :
    ¬ LeavesNoSession unsignedEnvironment signedRequestStep {}
      { sessions := AuthSessionStore.init, outside := (0 : Nat) } := by
  intro hleaves
  have hkept := hleaves _ _ _ rfl (.inl rfl) rfl
  exact absurd (congrArg (fun store => store.sessions.size) hkept) (by decide)

end Conformance
