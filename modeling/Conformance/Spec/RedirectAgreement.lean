import Conformance.Native.RedirectCapture
import Conformance.Spec.AuthSessionInvariant

/-!
# Browser callback and headless redirect

The same redirect, captured in the two ways. Both take the last value of a repeated
parameter and both prefer an error to a code; but an `error` without a value is an
error for the headless step and none for the callback.

## Key results

- `callbackView_store`, `executeHeadless_store`: what each leaves of the session
- `captures_agree_iff`: they agree exactly when there is no `error` without a value
-/

namespace Conformance

/-! ## Parameters -/

/-- The parameter that is read is the last of its name. -/
theorem get?_redirectParameters (parameters : List (String × String)) (name : String) :
    (redirectParameters parameters).get? name = lastValue parameters name := by
  unfold redirectParameters lastValue
  induction parameters using List.reverseRecOn with
  | nil => rfl
  | append_singleton rest parameter ih =>
    rw [List.foldl_append, List.foldl_cons, List.foldl_nil, Dict.get?_set, ih,
      List.reverse_append, List.reverse_singleton, List.singleton_append, List.find?_cons]
    by_cases hname : parameter.1 = name
    · simp [hname]
    · simp [hname, Ne.symm hname]

/-! ## Sessions -/

/-- What a redirect may leave of a session. -/
structure CaptureResult where
  status : AuthSessionStatus
  code : Option String
  error : Option String
  errorDescription : Option String
  deriving DecidableEq

/-- The status, the code, the error and its description. -/
def AuthSession.result (session : AuthSession) : CaptureResult :=
  ⟨session.status, session.code, session.error, session.errorDescription⟩

namespace AuthSessionStore

/-- What the store holds under a state. -/
def result (store : AuthSessionStore) (state : String) : Option CaptureResult :=
  (store.sessions.get? state).map AuthSession.result

variable {store : AuthSessionStore} {state : String} {session : AuthSession}

/-- A code is recorded in an awaiting session. -/
theorem captureCode_run (h : store.sessions.get? state = some session)
    (hst : session.status = .awaiting) (code : String) (now : Timestamp) :
    ∃ session' store', (captureCode state code now).run store = .ok session' store' ∧
      store'.result state =
        some ⟨.captured, some code, session.error, session.errorDescription⟩ := by
  refine ⟨_, _, by simp only [captureCode, EStateM.run_bind, awaitingSession_run, h, hst]; rfl, ?_⟩
  simp [result, AuthSession.result]

/-- An error is recorded in an awaiting session. -/
theorem captureError_run (h : store.sessions.get? state = some session)
    (hst : session.status = .awaiting) (error : String) (description : Option String)
    (now : Timestamp) :
    ∃ session' store', (captureError state error description now).run store =
        .ok session' store' ∧
      store'.result state = some ⟨.error, session.code, some error, description⟩ := by
  refine ⟨_, _, by simp only [captureError, EStateM.run_bind, awaitingSession_run, h, hst]; rfl, ?_⟩
  simp [result, AuthSession.result]

/-- An empty state is not registered unless it is drawn at random. -/
theorem lookup_empty_after {op : Op} (h : (store.after op).sessions.get? "" = some session) :
    (∃ session₀, store.sessions.get? "" = some session₀) ∨
      ∃ runId now, op = .register runId none "" now := by
  rcases lookup_after h with hsame | ⟨hnew, runId, supplied, token, now, rfl, hstate, -⟩ |
    ⟨session₀, hsession₀, -⟩
  · exact .inl ⟨session, hsame⟩
  · cases supplied with
    | none =>
      obtain rfl : "" = token := hstate
      exact .inr ⟨runId, now, rfl⟩
    | some supplied =>
      obtain rfl : "" = supplied := hstate
      -- a supplied state has a minimal length
      have hafter : store.after (.register runId (some "") token now) = store := by
        have hshort : (some "").any (fun s : String =>
            decide (s.length < MIN_CALLER_SUPPLIED_STATE_LENGTH)) = true := by decide
        simp only [after, Op.call, EStateM.run_bind, register_run]
        rw [if_pos hshort]
      rw [hafter, hnew] at h
      cases h
  · exact .inl ⟨session₀, hsession₀⟩

/-- No random token of a run of calls is empty, as `secrets.token_urlsafe(32)` has it. -/
def TokensDrawn (ops : List Op) : Prop :=
  ∀ op ∈ ops, ∀ runId now, op ≠ .register runId none "" now

/-- No state of a session is empty. -/
theorem state_ne_empty {ops : List Op} (htokens : TokensDrawn ops)
    (h : (exec ops).sessions.get? state = some session) : state ≠ "" := by
  rintro rfl
  induction ops using List.reverseRecOn generalizing session with
  | nil => simp [init] at h
  | append_singleton ops op ih =>
    rw [exec_snoc] at h
    rcases lookup_empty_after h with ⟨session₀, hsession₀⟩ | ⟨runId, now, rfl⟩
    · exact ih (fun op hop => htokens op (List.mem_append_left _ hop)) hsession₀
    · exact htokens _ (by simp) runId now rfl

/-- The store after a capture, if there is one. -/
def afterCapture (capture : Option (AuthSessionStoreM AuthSession)) (store : AuthSessionStore) :
    AuthSessionStore :=
  match capture with
  | none => store
  | some capture =>
    match capture.run store with
    | .ok _ store => store
    | .error _ store => store

/-- A waiting session captures the code. -/
theorem afterCapture_code (h : store.sessions.get? state = some session)
    (hst : session.status = .awaiting) (code : String) (now : Timestamp) :
    (afterCapture (some (captureCode state code now)) store).result state =
      some ⟨.captured, some code, session.error, session.errorDescription⟩ := by
  obtain ⟨session', store', hrun, hresult⟩ := captureCode_run h hst code now
  rw [afterCapture, hrun]
  exact hresult

/-- A waiting session captures the error. -/
theorem afterCapture_error (h : store.sessions.get? state = some session)
    (hst : session.status = .awaiting) (error : String) (description : Option String)
    (now : Timestamp) :
    (afterCapture (some (captureError state error description now)) store).result state =
      some ⟨.error, session.code, some error, description⟩ := by
  obtain ⟨session', store', hrun, hresult⟩ := captureError_run h hst error description now
  rw [afterCapture, hrun]
  exact hresult

end AuthSessionStore

/-! ## Both captures -/

section Captures

variable {parameters : List (String × String)} {state : String}

/-- The callback makes its capture and nothing else. -/
theorem callbackView_store {hasLogger : String → Bool} {now : Timestamp} {store : AuthSessionStore}
    (hstate : lastValue parameters "state" = some state) (hne : state ≠ "") :
    (callbackView hasLogger parameters now store).2.2 =
      AuthSessionStore.afterCapture (callbackCapture parameters state now) store := by
  unfold callbackView AuthSessionStore.afterCapture
  simp only [hstate, Option.getD_some, if_neg hne]
  cases callbackCapture parameters state now with
  | none => rfl
  | some capture =>
    simp only
    cases capture.run store <;> rfl

/-- A redirect that a headless step follows to the end: the bank answers with a location
    that is the registered one and carries these parameters. -/
structure Redirects (urls : UrlLibrary) (step : HeadlessStep) (statusCode : Int)
    (location : String) (parameters : List (String × String)) : Prop where
  status : 300 ≤ statusCode ∧ statusCode < 400
  registered : redirectMatchesRegisteredUri urls location step.redirectUri = .ok true
  query : ∃ parts, urls.urlsplit location = .ok parts ∧ urls.parseQsl parts.query = parameters

/-- The headless step makes its capture and nothing else. -/
theorem executeHeadless_store {urls : UrlLibrary} {repr : Json → String} {step : HeadlessStep}
    {statusCode : Int} {location : String} {now : Timestamp} {store : AuthSessionStore}
    (hstate : lastValue parameters "state" = some step.registeredState)
    (hredirects : Redirects urls step statusCode location parameters) :
    (executeHeadlessPsuAuthorization urls repr step (.response statusCode (some location)) now
        store).2.2 =
      AuthSessionStore.afterCapture
        (headlessCapture (redirectParameters parameters) step.registeredState now) store := by
  obtain ⟨parts, hparts, hquery⟩ := hredirects.query
  have hextract : extractRedirectParameters urls location = .ok (redirectParameters parameters) := by
    rw [extractRedirectParameters, hparts, ← hquery]
    rfl
  have hget : (redirectParameters parameters).get? "state" = some step.registeredState := by
    rw [get?_redirectParameters, hstate]
  unfold executeHeadlessPsuAuthorization AuthSessionStore.afterCapture
  simp only [hredirects.status, and_self, not_true_eq_false, if_false, hredirects.registered,
    hextract, hget, ne_eq]
  cases headlessCapture (redirectParameters parameters) step.registeredState now with
  | none => rfl
  | some capture =>
    simp only
    cases capture.run store with
    | error raised store => rfl
    | ok session store =>
      simp only
      cases readSession step.runId step.registeredState store <;> rfl

variable {store : AuthSessionStore} {session : AuthSession}

/-- A redirect with an error that is not blank captures it. -/
theorem callbackCapture_error {error : String} {now : Timestamp}
    (herror : lastValue parameters "error" = some error) (hne : error ≠ "") :
    callbackCapture parameters state now = some (AuthSessionStore.captureError state error
      (lastValue parameters "error_description") now) := by
  unfold callbackCapture
  rw [herror, Option.filter_some, if_pos (by simpa using hne)]

/-- Without an error that has a value, the callback looks at the code. -/
theorem callbackCapture_code {now : Timestamp}
    (herror : (lastValue parameters "error").filter (· ≠ "") = none) :
    callbackCapture parameters state now =
      ((lastValue parameters "code").filter (· ≠ "")).map fun code =>
        AuthSessionStore.captureCode state code now := by
  unfold callbackCapture
  rw [herror]
  cases (lastValue parameters "code").filter (· ≠ "") <;> rfl

/-- The headless path captures each error. -/
theorem headlessCapture_error {error : String} {now : Timestamp}
    (herror : lastValue parameters "error" = some error) :
    headlessCapture (redirectParameters parameters) state now =
      some (AuthSessionStore.captureError state error
        (lastValue parameters "error_description") now) := by
  simp only [headlessCapture, get?_redirectParameters, herror]

/-- Without an error at all, the headless step does. -/
theorem headlessCapture_code {now : Timestamp} (herror : lastValue parameters "error" = none) :
    headlessCapture (redirectParameters parameters) state now =
      ((lastValue parameters "code").filter (· ≠ "")).map fun code =>
        AuthSessionStore.captureCode state code now := by
  simp only [headlessCapture, get?_redirectParameters, herror]
  cases lastValue parameters "code" with
  | none => rfl
  | some code =>
    rw [Option.filter_some]
    by_cases hblank : code = "" <;> simp [hblank]

/-- The two captures leave the same session exactly when no `error` is without a value. -/
theorem captures_agree (h : store.sessions.get? state = some session)
    (hst : session.status = .awaiting) (now now' : Timestamp) :
    (AuthSessionStore.afterCapture (callbackCapture parameters state now) store).result state =
        (AuthSessionStore.afterCapture
          (headlessCapture (redirectParameters parameters) state now') store).result state ↔
      lastValue parameters "error" ≠ some "" := by
  cases herror : lastValue parameters "error" with
  | none =>
    rw [callbackCapture_code (by rw [herror]; rfl), headlessCapture_code herror]
    cases (lastValue parameters "code").filter (· ≠ "") with
    | none => simp
    | some code => simp [AuthSessionStore.afterCapture_code h hst]
  | some error =>
    rw [headlessCapture_error herror, AuthSessionStore.afterCapture_error h hst]
    by_cases hblank : error = ""
    -- the headless step records the empty error, the callback looks for a code
    · subst hblank
      rw [callbackCapture_code (by rw [herror]; rfl)]
      cases (lastValue parameters "code").filter (· ≠ "") with
      | none => simp [AuthSessionStore.afterCapture, AuthSessionStore.result, h,
          AuthSession.result, hst]
      | some code => simp [AuthSessionStore.afterCapture_code h hst]
    · rw [callbackCapture_error herror hblank, AuthSessionStore.afterCapture_error h hst]
      simpa using hblank

end Captures

/-- A redirect to an awaiting session of the run leaves it the same in both ways exactly
    when its last `error`, if it has one, is not empty. -/
theorem captures_agree_iff (ops : List AuthSessionStore.Op) (urls : UrlLibrary)
    (repr : Json → String) (hasLogger : String → Bool) (step : HeadlessStep) (statusCode : Int)
    (location : String) (parameters : List (String × String)) (session : AuthSession)
    (now now' : Timestamp) (htokens : AuthSessionStore.TokensDrawn ops)
    (hsession : (AuthSessionStore.exec ops).sessions.get? step.registeredState = some session)
    (hawaiting : session.status = .awaiting)
    (hstate : lastValue parameters "state" = some step.registeredState)
    (hredirects : Redirects urls step statusCode location parameters) :
    (callbackView hasLogger parameters now (AuthSessionStore.exec ops)).2.2.result
          step.registeredState =
        (executeHeadlessPsuAuthorization urls repr step (.response statusCode (some location)) now'
          (AuthSessionStore.exec ops)).2.2.result step.registeredState ↔
      lastValue parameters "error" ≠ some "" := by
  rw [callbackView_store hstate (AuthSessionStore.state_ne_empty htokens hsession),
    executeHeadless_store hstate hredirects]
  exact captures_agree hsession hawaiting now now'

/-! ## A registered session -/

/-- The state of a session that one call has registered. -/
def sampleState : String := "0123456789abcdef0123456789abcdef"

def sampleOps : List AuthSessionStore.Op := [.register "run-1" (some sampleState) "" 0]

def sampleSession : AuthSession :=
  { state := sampleState, runId := "run-1", status := .awaiting, createdAt := 0 }

def sampleStep : HeadlessStep where
  stepId := "authorise"
  stepName := "Authorise"
  context := {}
  runId := "run-1"
  resultUrl := "https://bank.example/authorize"
  request := ⟨"GET", "https://bank.example/authorize"⟩
  requestEvidence := []
  registeredState := sampleState
  redirectUri := "https://tpp.example/callback"

/-- The redirect URI with a query. -/
def sampleLocation (query : String) : String := "https://tpp.example/callback?" ++ query

/-- `urllib.parse` on the redirect URI, with and without the query. -/
def sampleUrls (query : String) (parameters : List (String × String)) : UrlLibrary where
  urlsplit url := .ok ⟨"https", some "tpp.example", .ok none, "/callback",
    if url = sampleLocation query then query else ""⟩
  parseQsl text := if text = query then parameters else []

/-- The state of the sample session is a drawn token. -/
theorem sampleOps_tokensDrawn : AuthSessionStore.TokensDrawn sampleOps := by
  intro op hop runId now heq
  obtain rfl := List.mem_singleton.mp hop
  cases heq

theorem sampleOps_session :
    (AuthSessionStore.exec sampleOps).sessions.get? sampleState = some sampleSession := by
  decide +kernel

/-- The sample redirect. -/
theorem sampleUrls_redirects (query : String) (parameters : List (String × String)) :
    Redirects (sampleUrls query parameters) sampleStep 302 (sampleLocation query) parameters where
  status := by decide
  registered := by rfl
  query := ⟨_, rfl, by simp [sampleUrls]⟩

/-- A redirect with a code. -/
theorem captures_agree_iff_code :
    (callbackView (fun _ => false) [("state", sampleState), ("code", "abc")] 1
          (AuthSessionStore.exec sampleOps)).2.2.result sampleState =
        (executeHeadlessPsuAuthorization
          (sampleUrls "state=0123456789abcdef0123456789abcdef&code=abc"
            [("state", sampleState), ("code", "abc")])
          (fun _ => "") sampleStep
          (.response 302 (some (sampleLocation "state=0123456789abcdef0123456789abcdef&code=abc"))) 2
          (AuthSessionStore.exec sampleOps)).2.2.result sampleState ↔
      lastValue [("state", sampleState), ("code", "abc")] "error" ≠ some "" :=
  captures_agree_iff sampleOps _ _ _ sampleStep 302 _ _ sampleSession 1 2 sampleOps_tokensDrawn
    sampleOps_session rfl (by decide +kernel) (sampleUrls_redirects _ _)

/-- `state=..&error=&code=abc`: the callback captures the code, the headless step an
    error. -/
theorem blankError_captured_differently :
    (callbackView (fun _ => false) [("state", sampleState), ("error", ""), ("code", "abc")] 1
        (AuthSessionStore.exec sampleOps)).2.2.result sampleState =
      some ⟨.captured, some "abc", none, none⟩ ∧
    (executeHeadlessPsuAuthorization
        (sampleUrls "state=0123456789abcdef0123456789abcdef&error=&code=abc"
          [("state", sampleState), ("error", ""), ("code", "abc")])
        (fun _ => "") sampleStep
        (.response 302
          (some (sampleLocation "state=0123456789abcdef0123456789abcdef&error=&code=abc"))) 1
        (AuthSessionStore.exec sampleOps)).2.2.result sampleState =
      some ⟨.error, none, some "", none⟩ := by
  decide +kernel

end Conformance
