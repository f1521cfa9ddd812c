import Conformance.Native.CompilePlan
import Conformance.Native.CompiledManifest
import Conformance.Spec.PsuSessions
import Mathlib.Algebra.Order.BigOperators.Group.List

/-!
# The cap on the sessions of a run

A run may hold eight sessions. Sessions are dropped when the run ends, so those
that are captured or failed still count, and the ninth PSU step of a run cannot
register. Each PSU step registers one session at most: along every run the sessions
so far and the PSU steps still to come are no more than the PSU steps of the
manifest.

## Key results

- `limitRefused_iff`: when a PSU step is refused for the cap
- `sessions_within_steps`: no step of a run with eight PSU steps is
-/

namespace Conformance

open Except

variable {external : ExternalParsers} {environment : PsuEnvironment external}

/-! ## Sessions of a run -/

/-- The number of sessions of the run. -/
def sessionCount (environment : PsuEnvironment external) (world : PsuWorld environment.Outside) :
    Nat :=
  (world.sessions.ownedBy environment.runId).length

/-- The sessions of the run are registered by its PSU steps alone. -/
structure PsuEnvironment.RegistersNothing (environment : PsuEnvironment external) : Prop where
  exchange : ∀ step url headers body evidence context outside,
    ∀ call ∈ (environment.exchange step url headers body evidence context outside).2.1,
      call.registersFor environment.runId = false
  awaitCallback : ∀ step url context sessions outside,
    ∀ call ∈ (environment.awaitCallback step url context sessions outside).2.1,
      call.registersFor environment.runId = false

/-- Calls that register nothing for a run add no session to it. -/
theorem applyCalls_le {runId : String} {calls : List AuthSessionStore.Op}
    (h : ∀ call ∈ calls, call.registersFor runId = false) (store : AuthSessionStore) :
    ((applyCalls store calls).ownedBy runId).length ≤ (store.ownedBy runId).length := by
  unfold applyCalls
  induction calls generalizing store with
  | nil => exact Nat.le_refl _
  | cons call rest ih =>
    rw [List.forall_mem_cons] at h
    exact (ih h.2 _).trans (AuthSessionStore.ownedBy_after_le h.1)

/-- A registration adds one session at most. -/
theorem registerPsuSession_count (state : Option String) (world : PsuWorld environment.Outside) :
    sessionCount environment (registerPsuSession environment state world).2 ≤
      sessionCount environment world + 1 := by
  by_cases h : Registrable environment state world
  · obtain ⟨session, howner, hregister⟩ := registerPsuSession_ok h
    have hnew : world.sessions.sessions.get? (drawState environment state world.outside).1 = none := by
      simpa [Dict.contains] using h.2.1
    rw [hregister]
    simp only [sessionCount, afterDraw]
    rw [AuthSessionStore.ownedBy_set_new hnew, if_pos howner]
  · obtain ⟨raised, hregister⟩ := registerPsuSession_refused h
    rw [hregister]
    exact Nat.le_succ _

/-- An HTTP step adds no session. -/
theorem executeV1Step_count (hown : environment.RegistersNothing)
    (manifestStep : ManifestStep (requestParsers external)) (context : ExecutionContext)
    (world : PsuWorld environment.Outside) :
    sessionCount environment
      (executeV1Step (psuTransport environment) manifestStep context world).2 ≤
      sessionCount environment world := by
  unfold executeV1Step
  split
  · exact Nat.le_refl _
  · rename_i prepared _
    have hexchange : sessionCount environment ((psuTransport environment).exchange manifestStep
        prepared.url prepared.headers prepared.body prepared.evidence context world).2 ≤
        sessionCount environment world :=
      applyCalls_le (hown.exchange _ _ _ _ _ _ _) world.sessions
    simp only
    split
    all_goals
      rename_i hanswer
      rw [hanswer] at hexchange
      exact hexchange

/-- Building a request object adds no session. -/
private theorem buildRequestObject_count
    {manifestStep : PsuAuthorizationStep (requestParsers external)} {request : PsuRequest}
    {templates : Option RequestObjectValue} {world world' : PsuWorld environment.Outside}
    {built : Except String (Option String)}
    (h : buildRequestObject (psuTransport environment) manifestStep request templates world =
      (built, world')) : sessionCount environment world' = sessionCount environment world := by
  rw [sessionCount, (buildRequestObject_world h).1, sessionCount]

/-- Waiting for a callback adds no session. -/
private theorem authorize_count (hown : environment.RegistersNothing)
    {manifestStep : PsuAuthorizationStep (requestParsers external)} {request : PsuRequest}
    {requestObject : Option String} {context : ExecutionContext}
    {world world' : PsuWorld environment.Outside} {answer : Except PyError (String × Exchange)}
    (h : (psuTransport environment).authorize manifestStep request requestObject context world =
      (answer, world')) : sessionCount environment world' ≤ sessionCount environment world := by
  rw [← (Prod.mk.inj h).2]
  exact applyCalls_le (hown.awaitCallback _ _ _ _ _) world.sessions

/-- A PSU step adds one session at most once its request is resolved. -/
private theorem authorizePsu_count (hown : environment.RegistersNothing)
    (manifestStep : PsuAuthorizationStep (requestParsers external)) (context : ExecutionContext)
    (request : PsuRequest) (world : PsuWorld environment.Outside) :
    sessionCount environment
      (authorizePsu (psuTransport environment) manifestStep context request world).2 ≤
      sessionCount environment world + 1 := by
  have hregistered : ((psuTransport environment).registerSession request.state world).2 =
      (registerPsuSession environment request.state world).2 := by
    simp only [psuTransport]
    split <;> rfl
  have hcount := registerPsuSession_count request.state world
  rw [← hregistered] at hcount
  unfold authorizePsu
  simp only
  split
  · rename_i hregister
    rw [hregister] at hcount
    exact hcount
  · rename_i hregister
    rw [hregister] at hcount
    split
    · exact hcount
    · split
      · rename_i hbuild
        exact (buildRequestObject_count hbuild).le.trans hcount
      · rename_i hbuild
        have hbuilt := (buildRequestObject_count hbuild).le.trans hcount
        split
        all_goals
          rename_i hanswer
          exact (authorize_count hown hanswer).trans hbuilt

/-- A PSU step adds one session at most. -/
theorem executeV1PsuStep_count (hown : environment.RegistersNothing)
    (manifestStep : PsuAuthorizationStep (requestParsers external)) (context : ExecutionContext)
    (world : PsuWorld environment.Outside) :
    sessionCount environment
      (executeV1PsuStep (psuTransport environment) manifestStep context world).2 ≤
      sessionCount environment world + 1 := by
  unfold executeV1PsuStep
  simp only
  split
  · exact Nat.le_succ _
  · split
    · exact Nat.le_succ _
    · exact authorizePsu_count hown manifestStep context _ world

/-! ## Sessions along a run -/

/-- Whether a step is a PSU authorisation. -/
def V1Step.isPsuAuthorization {p : FieldParsers} : V1Step p → Bool
  | .http _ => false
  | .psuAuthorization _ => true

/-- The number of PSU steps. -/
def psuStepCount {p : FieldParsers} (steps : List (V1Step p)) : Nat :=
  steps.countP V1Step.isPsuAuthorization

/-- The PSU steps that the threads have left. -/
def pendingPsuSteps {p : FieldParsers} {executor : SharedExecutor p}
    (threads : List (StepThread executor)) : Nat :=
  (threads.map fun thread => psuStepCount thread.remaining).sum

variable {config : Option RuntimeConfig}

/-- A step adds no more sessions than it is a PSU step. -/
theorem executeSharedStep_count (hown : environment.RegistersNothing)
    (step : V1Step (requestParsers external)) (context : ExecutionContext)
    (world : PsuWorld environment.Outside) :
    sessionCount environment
      (executeSharedStep (manifestExecutor (psuTransport environment) config) step context world).2 ≤
      sessionCount environment world + psuStepCount [step] := by
  cases step with
  | http step => exact executeV1Step_count hown step context world
  | psuAuthorization step => exact executeV1PsuStep_count hown step context world

/-- Replacing one summand. -/
private theorem sum_set_add {l : List Nat} {i a b : Nat} (h : l[i]? = some a) :
    (l.set i b).sum + a = l.sum + b := by
  induction l generalizing i with
  | nil => cases h
  | cons c rest ih =>
    cases i with
    | zero =>
      obtain rfl : c = a := Option.some.inj h
      simp only [List.set_cons_zero, List.sum_cons]
      omega
    | succ i =>
      have hrest := ih (i := i) (by simpa using h)
      simp only [List.set_cons_succ, List.sum_cons]
      omega

/-- A step of a phase trades a PSU step for a session at most. -/
theorem advanceThread_count (hown : environment.RegistersNothing)
    {state state' : ThreadsState (manifestExecutor (psuTransport environment) config)} {index : Nat}
    (h : advanceThread (manifestExecutor (psuTransport environment) config) state index =
      some state') :
    sessionCount environment state'.world + pendingPsuSteps state'.threads ≤
      sessionCount environment state.world + pendingPsuSteps state.threads := by
  unfold advanceThread at h
  split at h
  · cases h
  · rename_i thread hthread
    obtain ⟨⟨thread', world'⟩, hadvance, rfl⟩ := Option.map_eq_some_iff.mp h
    obtain ⟨step, rest, hremaining, hcases⟩ := StepThread.advance_cases hadvance
    have hsum : pendingPsuSteps (state.threads.set index thread') + psuStepCount thread.remaining =
        pendingPsuSteps state.threads + psuStepCount thread'.remaining := by
      unfold pendingPsuSteps
      rw [List.map_set]
      exact sum_set_add (by rw [List.getElem?_map, hthread]; rfl)
    have hcount : sessionCount environment world' ≤
        sessionCount environment state.world + psuStepCount [step] := by
      have hstep : sessionCount environment (executeSharedStep
          (manifestExecutor (psuTransport environment) config) step thread.context state.world).2 ≤
          sessionCount environment state.world + psuStepCount [step] :=
        executeSharedStep_count hown step thread.context state.world
      rcases hcases with ⟨_, _, hexecute, -⟩ | ⟨_, hexecute, -⟩
      all_goals
        rw [hexecute] at hstep
        exact hstep
    have hrest : psuStepCount [step] + psuStepCount thread'.remaining ≤
        psuStepCount thread.remaining := by
      have hcons : psuStepCount (step :: rest) = psuStepCount [step] + psuStepCount rest := by
        simp only [psuStepCount, List.countP_cons, List.countP_nil]
        omega
      rw [hremaining, hcons]
      rcases hcases with ⟨_, _, -, rfl⟩ | ⟨_, -, rfl⟩
      · exact Nat.le_refl _
      · exact Nat.add_le_add_left (Nat.zero_le _) _
    simp only
    omega

/-- Along a phase the sessions and the PSU steps left do not grow. -/
theorem runThreads_count (hown : environment.RegistersNothing)
    {start state : ThreadsState (manifestExecutor (psuTransport environment) config)}
    {order : List Nat}
    (h : runThreads (manifestExecutor (psuTransport environment) config) start order = some state) :
    sessionCount environment state.world + pendingPsuSteps state.threads ≤
      sessionCount environment start.world + pendingPsuSteps start.threads := by
  refine Machine.run_induction (P := fun _ state =>
    sessionCount environment state.world + pendingPsuSteps state.threads ≤
      sessionCount environment start.world + pendingPsuSteps start.threads) (Nat.le_refl _) ?_ h
  intro _ state index state' _ hstate hadvance
  exact (advanceThread_count hown hadvance).trans hstate

/-- When a phase takes a PSU step, that step is among those left. -/
theorem takes_count (hown : environment.RegistersNothing)
    {start : ThreadsState (manifestExecutor (psuTransport environment) config)} {order : List Nat}
    {step : PsuAuthorizationStep (requestParsers external)} {context : ExecutionContext}
    {world : PsuWorld environment.Outside}
    (h : Takes start order (.psuAuthorization step) context world) :
    sessionCount environment world + 1 ≤
      sessionCount environment start.world + pendingPsuSteps start.threads := by
  obtain ⟨before, index, after, state, thread, rest, -, hrun, hthread, hremaining, -, rfl⟩ := h
  have hcount := runThreads_count hown hrun
  have hpending : psuStepCount thread.remaining ≤ pendingPsuSteps state.threads :=
    List.le_sum_of_mem (List.mem_map_of_mem (List.mem_of_getElem? hthread))
  have hstep : 1 ≤ psuStepCount thread.remaining := by
    rw [hremaining, psuStepCount, List.countP_cons_of_pos rfl]
    exact Nat.le_add_left 1 _
  omega

/-- The PSU steps of the two phases are PSU steps of the manifest. -/
private theorem psuStepCount_phases (manifest : Manifest (requestParsers external))
    (plan : TestPlan) :
    psuStepCount (manifest.steps.filter plan.runsInSetup) +
      psuStepCount (manifest.steps.filter plan.runsInExecution) ≤ psuStepCount manifest.steps := by
  unfold psuStepCount
  induction manifest.steps with
  | nil => exact Nat.le_refl _
  | cons step rest ih =>
    have hdisjoint : plan.runsInSetup step = true → plan.runsInExecution step = false := by
      intro hsetup
      simp only [TestPlan.runsInSetup, Bool.and_eq_true, decide_eq_true_eq] at hsetup
      simp [TestPlan.runsInExecution, hsetup.2]
    by_cases hsetup : plan.runsInSetup step = true
    · rw [List.filter_cons_of_pos hsetup, List.filter_cons_of_neg (by simp [hdisjoint hsetup])]
      simp only [List.countP_cons]
      omega
    · rw [List.filter_cons_of_neg hsetup]
      by_cases hexecution : plan.runsInExecution step = true
      · rw [List.filter_cons_of_pos hexecution]
        simp only [List.countP_cons]
        omega
      · rw [List.filter_cons_of_neg hexecution, List.countP_cons]
        omega

/-- The PSU steps of all groups together. -/
private theorem pendingPsuSteps_groups {manifest : Manifest (requestParsers external)}
    (plan : TestPlan) (hv1 : manifest.schemaVersion = .v1) (context : ExecutionContext)
    (world : PsuWorld environment.Outside) :
    pendingPsuSteps (groupsStart (manifestExecutor (psuTransport environment) config) manifest plan
      context world).threads = psuStepCount (manifest.steps.filter plan.runsInExecution) := by
  unfold psuStepCount
  rw [← (buildExecutionSchedule_groups plan hv1).countP_eq, List.countP_flatten, List.map_map]
  simp only [pendingPsuSteps, groupsStart, List.map_map]
  rfl

/-- In a run, a PSU step finds fewer sessions than the manifest has PSU steps. -/
theorem executes_count (hown : environment.RegistersNothing)
    {manifest : Manifest (requestParsers external)} {plan : TestPlan}
    {world stepWorld : PsuWorld environment.Outside} {setupOrder groupOrder : List Nat}
    {step : PsuAuthorizationStep (requestParsers external)} {context : ExecutionContext}
    (h : Executes (manifestExecutor (psuTransport environment) config) manifest plan world
      setupOrder groupOrder (.psuAuthorization step) context stepWorld) :
    sessionCount environment stepWorld + 1 ≤
      sessionCount environment world + psuStepCount manifest.steps := by
  have hv1 := executes_v1 h
  have hphases := psuStepCount_phases manifest plan
  have hsetup : pendingPsuSteps (setupStart (manifestExecutor (psuTransport environment) config)
      manifest plan world).threads = psuStepCount (manifest.steps.filter plan.runsInSetup) := by
    simp only [pendingPsuSteps, setupStart, List.map_singleton, List.sum_singleton,
      buildExecutionSchedule_setupSteps plan hv1]
  rcases h.phase with htakes | ⟨base, world', hleaves, htakes⟩
  · have hcount := takes_count hown htakes
    rw [hsetup] at hcount
    simp only [setupStart] at hcount
    omega
  · have hcount := takes_count hown htakes
    rw [pendingPsuSteps_groups plan hv1 base world'] at hcount
    obtain ⟨setup, _, hrun, -, -, -, -, rfl⟩ := hleaves
    have hleft := runThreads_count hown hrun
    rw [hsetup] at hleft
    simp only [setupStart, groupsStart] at hcount hleft
    omega

/-! ## Refusals -/

/-- The templates of the step resolve, its URLs are valid, and the store refuses its session
    for the cap of the run. -/
def LimitRefused (environment : PsuEnvironment external)
    (manifestStep : PsuAuthorizationStep (requestParsers external)) (context : ExecutionContext)
    (world : PsuWorld environment.Outside) : Prop :=
  ∃ request, resolvePsuRequest (psuTransport environment) manifestStep context = .ok request ∧
    external.validateHttpsUrl request.authorizationEndpoint
      s!"Step '{manifestStep.id}' authorizationEndpoint" = .ok () ∧
    external.validateOauthRedirectUri request.redirectUri s!"Step '{manifestStep.id}' redirectUri" =
      .ok () ∧
    (registerPsuSession environment request.state world).1 =
      .error (.authSessionLimitError environment.runId)

/-- The store refuses an acceptable state for the cap exactly if the run has as many sessions,
    resolved or not. -/
theorem registerPsuSession_limit_iff {state : Option String}
    {world : PsuWorld environment.Outside} :
    (registerPsuSession environment state world).1 =
        .error (.authSessionLimitError environment.runId) ↔
      (state.any fun supplied => supplied.length < MIN_CALLER_SUPPLIED_STATE_LENGTH) = false ∧
        world.sessions.sessions.contains (drawState environment state world.outside).1 = false ∧
        MAX_SESSIONS_PER_RUN ≤ sessionCount environment world := by
  unfold registerPsuSession sessionCount
  simp only [AuthSessionStore.register_run, getD_drawState]
  by_cases hshort : (state.any fun supplied =>
      supplied.length < MIN_CALLER_SUPPLIED_STATE_LENGTH) = true
  · rw [if_pos hshort]
    simp [hshort]
  rw [if_neg hshort]
  by_cases hdup : world.sessions.sessions.contains (drawState environment state world.outside).1 =
      true
  · rw [if_pos hdup]
    simp [hdup]
  rw [if_neg hdup]
  by_cases hcap : MAX_SESSIONS_PER_RUN ≤ (world.sessions.ownedBy environment.runId).length
  · rw [if_pos hcap]
    simp [hcap, hshort, hdup]
  · rw [if_neg hcap]
    simp [hcap]

/-- The templates of the step resolve, its URLs are valid, and its state is new and long
    enough. -/
def ReachesRegistration (environment : PsuEnvironment external)
    (manifestStep : PsuAuthorizationStep (requestParsers external)) (context : ExecutionContext)
    (world : PsuWorld environment.Outside) : Prop :=
  ∃ request, resolvePsuRequest (psuTransport environment) manifestStep context = .ok request ∧
    external.validateHttpsUrl request.authorizationEndpoint
      s!"Step '{manifestStep.id}' authorizationEndpoint" = .ok () ∧
    external.validateOauthRedirectUri request.redirectUri s!"Step '{manifestStep.id}' redirectUri" =
      .ok () ∧
    (request.state.any fun supplied =>
      supplied.length < MIN_CALLER_SUPPLIED_STATE_LENGTH) = false ∧
    world.sessions.sessions.contains (drawState environment request.state world.outside).1 = false

/-- A PSU step is refused for the cap exactly if it gets that far and the run has as many
    sessions. -/
theorem limitRefused_iff {manifestStep : PsuAuthorizationStep (requestParsers external)}
    {context : ExecutionContext} {world : PsuWorld environment.Outside} :
    LimitRefused environment manifestStep context world ↔
      ReachesRegistration environment manifestStep context world ∧
        MAX_SESSIONS_PER_RUN ≤ sessionCount environment world := by
  constructor
  · rintro ⟨request, hrequest, hendpoint, hredirect, hrefused⟩
    obtain ⟨hlong, hnew, hcap⟩ := registerPsuSession_limit_iff.mp hrefused
    exact ⟨⟨request, hrequest, hendpoint, hredirect, hlong, hnew⟩, hcap⟩
  · rintro ⟨⟨request, hrequest, hendpoint, hredirect, hlong, hnew⟩, hcap⟩
    exact ⟨request, hrequest, hendpoint, hredirect,
      registerPsuSession_limit_iff.mpr ⟨hlong, hnew, hcap⟩⟩

/-- A step that is refused fails, naming the cap. -/
theorem LimitRefused.fails {manifestStep : PsuAuthorizationStep (requestParsers external)}
    {context : ExecutionContext} {world : PsuWorld environment.Outside}
    (h : LimitRefused environment manifestStep context world) :
    ∃ outcome context' world',
      executeV1PsuStep (psuTransport environment) manifestStep context world =
        (.ok (outcome, context'), world') ∧ outcome.status = .failed ∧
      outcome.message = "Unable to register PSU authorisation session: " ++
        (AuthSessionError.authSessionLimitError environment.runId).message external.repr := by
  obtain ⟨request, hrequest, hendpoint, hredirect, hrefused⟩ := h
  cases hregister : registerPsuSession environment request.state world with
  | mk registered world' =>
    rw [hregister] at hrefused
    obtain rfl : registered = _ := hrefused
    have hsession : (psuTransport environment).registerSession request.state world =
        (.error ((AuthSessionError.authSessionLimitError environment.runId).message external.repr),
          world') := by
      simp only [psuTransport, hregister]
    unfold executeV1PsuStep authorizePsu
    simp only [hrequest, checkPsuUrls_eq_ok.mpr ⟨hendpoint, hredirect⟩, hsession]
    exact ⟨_, _, _, rfl, rfl, rfl⟩

/-- In every run, a PSU step whose state the store would take is refused exactly when the run
    has eight sessions, captured and failed ones included. If the sessions of a run are
    registered by its PSU steps alone, starting from none, and the manifest has at most eight
    of them, then no PSU step is refused. -/
theorem sessions_within_steps (environment : PsuEnvironment external)
    (config : Option RuntimeConfig) (manifest : Manifest (requestParsers external))
    (plan : TestPlan) (world : PsuWorld environment.Outside) (setupOrder groupOrder : List Nat)
    (step : PsuAuthorizationStep (requestParsers external)) (context : ExecutionContext)
    (stepWorld : PsuWorld environment.Outside)
    (h : Executes (manifestExecutor (psuTransport environment) config) manifest plan world
      setupOrder groupOrder (.psuAuthorization step) context stepWorld) :
    (LimitRefused environment step context stepWorld ↔
      ReachesRegistration environment step context stepWorld ∧
        MAX_SESSIONS_PER_RUN ≤ sessionCount environment stepWorld) ∧
    (environment.RegistersNothing → sessionCount environment world = 0 →
      psuStepCount manifest.steps ≤ MAX_SESSIONS_PER_RUN →
      ¬ LimitRefused environment step context stepWorld) := by
  refine ⟨limitRefused_iff, fun hown hfresh hsteps hrefused => ?_⟩
  have hfull := (limitRefused_iff.mp hrefused).2
  have hcount := executes_count hown h
  omega

/-! ## A plan with nine consents -/

/-- Requests that carry nothing but their method. -/
def bareRequests : CatalogueRequests (requestParsers literalParsers) where
  formRequest method _ fields :=
    ({ method := method, url := "https://a", body := some (.form fields) } : ManifestRequest)
  httpStatusAssertion status := ([("expected", .int status)] : JsonObject)
  fapiSigningPolicy := ({} : TokenEndpointAuthPolicy)
  generatedRequestObject audience intentId :=
    (.generated (some audience) (some intentId) : RequestObjectValue)
  aisProfileConsentRequest _ step _ :=
    .ok ({ method := step.method, url := "https://a" } : ManifestRequest)
  catalogueRequest _ step := .ok ({ method := step.method, url := "https://a" } : ManifestRequest)
  catalogueAssertions _ _ := .ok []

/-- A request step of a resource that needs a token or an authorised consent. -/
def resourceStep (stepId : String) (tokenId consentStepId : Option String) :
    CatalogueRequestStep where
  stepId := stepId
  name := stepId
  method := .get
  path := "/"
  requiredTokenId := tokenId
  requiredPsuAuthorizationStepId := consentStepId

/-- The consent of a payment flow. -/
def paymentConsentStep (flow : String) : CatalogueRequestStep where
  stepId := flow ++ "-consent"
  name := flow
  method := .post
  path := "/"
  psuAuthorization := some {
    authorizationStepId := "setup-" ++ flow ++ "-authorisation"
    authorizationStepName := flow
    tokenStepId := "setup-token-" ++ flow
    tokenId := flow
    flowLabel := flow }

/-- The six payment flows. -/
def paymentFlows : List String := ["dp", "ds", "dso", "ip", "is", "dsl"]

/-- The case of a resource that is read, with the steps that consent to it. -/
def consentCase (testCaseId : String) (requestSteps : List CatalogueRequestStep) :
    CatalogueTestCase where
  testCaseId := testCaseId
  applicability := { securityProfiles := ⟨[.all]⟩, endpointRefs := [⟨.get, "/" ++ testCaseId⟩] }
  mandatory := true
  requestSteps := requestSteps

/-- The AIS consents of both permission profiles, a CBPII consent, and the consents of some
    payment flows, each with a resource that needs it. -/
def consentsCatalogue (flows : List String) : TestCatalogue where
  key := ⟨"obie-read-write", "v4.0", "all"⟩
  catalogueVersion := "1"
  testCases :=
    consentCase "ais" [resourceStep aisConsentCreateStepId none none,
      resourceStep aisAccountAccessTokenStepId none none,
      resourceStep "accounts" (some "ais-account-access-basic") none,
      resourceStep "balances" (some "ais-account-access-detail") none] ::
    consentCase "cbpii" [resourceStep cbpiiConsentCreateStepId none none,
      resourceStep "cbpii-funds-confirmation-create-request" none none] ::
    flows.map fun flow =>
      consentCase flow [paymentConsentStep flow, resourceStep flow none (some (flow ++ "-consent"))]

/-- A bank that implements every one of these resources. -/
def consentsSpec (flows : List String) : TestPlanSpec where
  catalogueKey := ⟨"obie-read-write", "v4.0", "all"⟩
  securityProfile := .fapi1Advanced
  implementedEndpoints := ("ais" :: "cbpii" :: flows).map fun resource =>
    { method := .get, path := "/" ++ resource, resourceGroup := resource }
  runtimeInputs := .empty

/-- The plan that is compiled for that bank. -/
def consentsPlan (flows : List String) : Except PyError CompiledTestPlan :=
  compileTestPlan (fun _ _ => .ok ()) (consentsCatalogue flows) (consentsSpec flows)

/-- A bank whose answers carry a consent id and a token, and PSUs that authorise at once. -/
def promptEnvironment : PsuEnvironment literalParsers where
  Outside := Nat
  runId := "run-1"
  pyStr := followUpTransport.pyStr
  maskHeaders := followUpTransport.maskHeaders
  maskJson := id
  maskForm := followUpTransport.maskForm
  maskUrlQuery := id
  exchange _ _ _ _ _ _ drawn :=
    (.ok (.answered ⟨200, [], [("Data", .obj [("ConsentId", .str "id")]),
      ("access_token", .str "token")]⟩ ⟨.passed, "passed", none, some 200, []⟩), [], drawn)
  tokenUrlsafe drawn := (String.ofList (List.replicate drawn 's'), drawn + 1)
  now drawn := (0, drawn)
  generateRequestObject _ _ _ _ drawn := (.ok "jwt", drawn)
  buildAuthorizationUrl step _ _ := step.authorizationEndpoint
  awaitCallback step url _ sessions drawn :=
    (.ok (url, .answered ⟨200, [], [("code", .str "code")]⟩ ⟨.passed, "passed", none, none, []⟩),
      sessions.sessions.keys.map fun state => .captureCode state step.id 0, drawn)

/-- The client of that run. -/
def promptConfig : RuntimeConfig where
  oauthClientId := some "c"
  oauthRedirectUri := some "https://b"
  oauthAuthorizationEndpoint := some "https://c"
  oauthIssuer := some "https://d"
  oauthTokenEndpoint := some "https://e"

/-- The world before the run. -/
def promptWorld : PsuWorld promptEnvironment.Outside :=
  { sessions := AuthSessionStore.init, outside := (0 : Nat) }

/-- Whether a step is a PSU step that is refused for the cap, in a world where every session of
    the run has been captured. -/
def isRefusedThoughCaptured (step : V1Step (requestParsers literalParsers))
    (context : ExecutionContext) (world : PsuWorld promptEnvironment.Outside) : Bool :=
  match step with
  | .http _ => false
  | .psuAuthorization step =>
    match resolvePsuRequest (psuTransport promptEnvironment) step context with
    | .error _ => false
    | .ok request =>
      "https://".toList.isPrefixOf request.authorizationEndpoint.toList &&
        (world.sessions.ownedBy "run-1").all (fun session => session.status = .captured) &&
        match (registerPsuSession promptEnvironment request.state world).1 with
        | .error (.authSessionLimitError runId) => runId = "run-1"
        | _ => false

/-- What the test finds. -/
private theorem of_isRefusedThoughCaptured {step : V1Step (requestParsers literalParsers)}
    {context : ExecutionContext} {world : PsuWorld promptEnvironment.Outside}
    (h : isRefusedThoughCaptured step context world = true) :
    ∃ psuStep, step = .psuAuthorization psuStep ∧
      (∀ session ∈ world.sessions.ownedBy "run-1", session.status = .captured) ∧
      LimitRefused promptEnvironment psuStep context world := by
  cases step with
  | http _ => cases h
  | psuAuthorization psuStep =>
    unfold isRefusedThoughCaptured at h
    simp only at h
    split at h
    · cases h
    · rename_i request hrequest
      rw [Bool.and_eq_true, Bool.and_eq_true] at h
      obtain ⟨⟨hhttps, hcaptured⟩, hlimit⟩ := h
      split at hlimit
      · rename_i runId hregister
        obtain rfl := of_decide_eq_true hlimit
        refine ⟨psuStep, rfl, fun session hsession => ?_, request, hrequest, if_pos hhttps, rfl,
          hregister⟩
        exact of_decide_eq_true (List.all_eq_true.mp hcaptured session hsession)
      · cases hlimit

/-- The manifest of that plan. -/
def consentsManifest (flows : List String) :
    Except PyError (Manifest (requestParsers literalParsers)) :=
  (consentsPlan flows).bind (compiledPlanToManifest bareRequests)

/-- The run of that manifest in which every step follows the one before it, up to the step after
    some operations of the group. -/
abbrev ConsentsRun (manifest : Manifest (requestParsers literalParsers)) (operations : Nat)
    (step : V1Step (requestParsers literalParsers)) (context : ExecutionContext)
    (world : PsuWorld promptEnvironment.Outside) : Prop :=
  Executes (manifestExecutor (psuTransport promptEnvironment) (some promptConfig)) manifest
    (TestPlan.defaultPlanFromManifest manifest) promptWorld (List.replicate 6 0)
    (List.replicate operations 0 ++ [0]) step context world

/-- What a test of the next step finds. -/
private theorem consentsRun_of_any {flows : List String} {operations : Nat}
    (test : Manifest (requestParsers literalParsers) → V1Step (requestParsers literalParsers) →
      ExecutionContext → PsuWorld promptEnvironment.Outside → Bool)
    (h : (consentsManifest flows).toOption.any (fun manifest =>
      (nextStep (manifestExecutor (psuTransport promptEnvironment) (some promptConfig)) manifest
        (TestPlan.defaultPlanFromManifest manifest) promptWorld (List.replicate 6 0)
        (List.replicate operations 0) 0).any fun next =>
          test manifest next.1 next.2.1 next.2.2) = true) :
    ∃ plan manifest step context world,
      consentsPlan flows = .ok plan ∧ compiledPlanToManifest bareRequests plan = .ok manifest ∧
      ConsentsRun manifest operations step context world ∧
      test manifest step context world = true := by
  obtain ⟨manifest, hcompiled, hnext⟩ := exists_ok_of_any h
  obtain ⟨plan, hplan, hmanifest⟩ := bind_eq_ok.mp hcompiled
  obtain ⟨⟨step, context, world⟩, hstep, htest⟩ := (Option.any_eq_true _ _).mp hnext
  exact ⟨plan, manifest, step, context, world, hplan, hmanifest, executes_of_nextStep hstep, htest⟩

/-- The ninth PSU step of the plan with six payment flows. -/
private theorem ninth_refused :
    ∃ plan manifest step context world,
      consentsPlan paymentFlows = .ok plan ∧
      compiledPlanToManifest bareRequests plan = .ok manifest ∧
      ConsentsRun manifest 27 (.psuAuthorization step) context world ∧
      (∀ session ∈ world.sessions.ownedBy "run-1", session.status = .captured) ∧
      LimitRefused promptEnvironment step context world := by
  have hrun : (consentsManifest paymentFlows).toOption.any (fun manifest =>
      (nextStep (manifestExecutor (psuTransport promptEnvironment) (some promptConfig)) manifest
        (TestPlan.defaultPlanFromManifest manifest) promptWorld (List.replicate 6 0)
        (List.replicate 27 0) 0).any fun next =>
          isRefusedThoughCaptured next.1 next.2.1 next.2.2) = true := by
    decide +kernel
  obtain ⟨plan, manifest, step, context, world, hplan, hmanifest, hexecutes, hrefused⟩ :=
    consentsRun_of_any (fun _ => isRefusedThoughCaptured) hrun
  obtain ⟨psuStep, rfl, hcaptured, hlimit⟩ := of_isRefusedThoughCaptured hrefused
  exact ⟨plan, manifest, psuStep, context, world, hplan, hmanifest, hexecutes, hcaptured, hlimit⟩

/-- Whether a step is the eighth PSU step of a manifest, and the run has seven sessions. -/
def isEighthPsuStep (manifest : Manifest (requestParsers literalParsers))
    (step : V1Step (requestParsers literalParsers)) (_ : ExecutionContext)
    (world : PsuWorld promptEnvironment.Outside) : Bool :=
  step.isPsuAuthorization && psuStepCount manifest.steps = 8 &&
    sessionCount promptEnvironment world = 7

/-- The eighth PSU step of the plan with five payment flows. -/
private theorem eighth_taken :
    ∃ plan manifest step context world,
      consentsPlan (paymentFlows.take 5) = .ok plan ∧
      compiledPlanToManifest bareRequests plan = .ok manifest ∧
      ConsentsRun manifest 23 (.psuAuthorization step) context world ∧
      psuStepCount manifest.steps = 8 ∧ sessionCount promptEnvironment world = 7 := by
  have hrun : (consentsManifest (paymentFlows.take 5)).toOption.any (fun manifest =>
      (nextStep (manifestExecutor (psuTransport promptEnvironment) (some promptConfig)) manifest
        (TestPlan.defaultPlanFromManifest manifest) promptWorld (List.replicate 6 0)
        (List.replicate 23 0) 0).any fun next =>
          isEighthPsuStep manifest next.1 next.2.1 next.2.2) = true := by
    decide +kernel
  obtain ⟨plan, manifest, step, context, world, hplan, hmanifest, hexecutes, htest⟩ :=
    consentsRun_of_any isEighthPsuStep hrun
  simp only [isEighthPsuStep, Bool.and_eq_true, decide_eq_true_eq] at htest
  obtain ⟨⟨hpsu, hsteps⟩, hsessions⟩ := htest
  cases step with
  | http _ => cases hpsu
  | psuAuthorization step =>
    exact ⟨plan, manifest, step, context, world, hplan, hmanifest, hexecutes, hsteps, hsessions⟩

/-- Nine consents authorised one after the other: every session but the last is captured, and
    the last PSU step is refused. -/
theorem nineConsents_exhaust :
    ∃ plan manifest step context world,
      consentsPlan paymentFlows = .ok plan ∧
      compiledPlanToManifest bareRequests plan = .ok manifest ∧
      Executes (manifestExecutor (psuTransport promptEnvironment) (some promptConfig)) manifest
        (TestPlan.defaultPlanFromManifest manifest) promptWorld (List.replicate 6 0)
        (List.replicate 27 0 ++ [0]) (.psuAuthorization step) context world ∧
      (∀ session ∈ world.sessions.ownedBy "run-1", session.status = .captured) ∧
      LimitRefused promptEnvironment step context world :=
  ninth_refused

/-- The sessions of a run against the prompt bank are registered by its PSU steps alone. -/
private theorem promptEnvironment_registersNothing : promptEnvironment.RegistersNothing := by
  constructor
  · intro _ _ _ _ _ _ _ call hcall
    cases hcall
  · intro _ _ _ _ _ call hcall
    obtain ⟨_, -, rfl⟩ := List.mem_map.mp hcall
    rfl

/-- With nine consents the last PSU step gets as far as registration, finds eight sessions and
    is refused; with eight consents the last PSU step finds seven and is not. -/
theorem sessions_within_steps_consents :
    (∃ plan manifest step context world,
      consentsPlan paymentFlows = .ok plan ∧
      compiledPlanToManifest bareRequests plan = .ok manifest ∧
      ConsentsRun manifest 27 (.psuAuthorization step) context world ∧
      LimitRefused promptEnvironment step context world ∧
      ReachesRegistration promptEnvironment step context world ∧
      MAX_SESSIONS_PER_RUN ≤ sessionCount promptEnvironment world) ∧
    ∃ plan manifest step context world,
      consentsPlan (paymentFlows.take 5) = .ok plan ∧
      compiledPlanToManifest bareRequests plan = .ok manifest ∧
      ConsentsRun manifest 23 (.psuAuthorization step) context world ∧
      psuStepCount manifest.steps = 8 ∧ sessionCount promptEnvironment world = 7 ∧
      ¬ LimitRefused promptEnvironment step context world := by
  constructor
  · obtain ⟨plan, manifest, step, context, world, hplan, hmanifest, hexecutes, -, hrefused⟩ :=
      ninth_refused
    have hfull := (sessions_within_steps promptEnvironment (some promptConfig) manifest _ promptWorld
      _ _ step context world hexecutes).1.mp hrefused
    exact ⟨plan, manifest, step, context, world, hplan, hmanifest, hexecutes, hrefused, hfull⟩
  · obtain ⟨plan, manifest, step, context, world, hplan, hmanifest, hexecutes, hsteps, hsessions⟩ :=
      eighth_taken
    refine ⟨plan, manifest, step, context, world, hplan, hmanifest, hexecutes, hsteps, hsessions, ?_⟩
    exact (sessions_within_steps promptEnvironment (some promptConfig) manifest _ promptWorld
      _ _ step context world hexecutes).2 promptEnvironment_registersNothing rfl hsteps.le

end Conformance
