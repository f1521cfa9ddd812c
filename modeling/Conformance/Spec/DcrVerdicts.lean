import Conformance.Spec.DcrScenario

/-!
# What the verdicts of a DCR run show

A handler keeps the invariant of its scenario, and reports a step as passed only when the
exchanges of the scenario show it: the answer with the expected status, the accepted
registration, the granted token, the answered `DELETE`.

## Key results

- `parseRegistrationStep_spec`, `tokenStep_spec`: the handlers that capture credentials
- `executeStepInner_spec`: every operation
-/

namespace Conformance.DcrExecution

open PlanConfiguration PlanConfig

variable {environment : DcrEnvironment} {config : DcrPlanConfiguration}

/-! ## Registration responses -/

/-- A required text is an optional one that is there. -/
theorem optionalString_of_requiredString {body : JsonObject} {key location value : String}
    (h : requiredString body key location = .ok value) :
    optionalString body key location = .ok (some value) := by
  have htext := orError_eq_ok.mp h
  unfold getField at htext
  unfold optionalString
  cases hlookup : body.lookup key with
  | none =>
    rw [hlookup] at htext
    cases htext
  | some json =>
    rw [hlookup] at htext
    have hjson : nonEmptyText? json = some value := htext
    simp only [Option.elim_some, hjson, orError]
    rfl

/-- The client id and the management URL of a response that was read are those of its fields. -/
theorem readIdentifiers_fields {body : JsonObject} {clientId : String} {uri : Option String}
    {method : ClientAuthMethod}
    (h : readIdentifiers environment config body = .ok (clientId, uri, method)) :
    requiredString body "client_id" "registration response" = .ok clientId ∧
      optionalString body "registration_client_uri" "registration response" = .ok uri := by
  unfold readIdentifiers at h
  obtain ⟨clientId', hclient, h⟩ := Except.bind_eq_ok.mp h
  obtain ⟨_, -, h⟩ := Except.bind_eq_ok.mp h
  obtain ⟨uri', huri, h⟩ := Except.bind_eq_ok.mp h
  obtain ⟨_, -, h⟩ := Except.bind_eq_ok.mp h
  obtain ⟨_, -, h⟩ := Except.bind_eq_ok.mp h
  obtain ⟨_, -, h⟩ := Except.bind_eq_ok.mp h
  obtain ⟨_, -, h⟩ := Except.bind_eq_ok.mp h
  obtain ⟨_, -, h⟩ := Except.bind_eq_ok.mp h
  obtain ⟨rfl, hrest⟩ := Prod.mk.inj (Except.ok.inj h)
  obtain ⟨rfl, rfl⟩ := Prod.mk.inj hrest
  refine ⟨hclient, ?_⟩
  unfold readRegistrationUri at huri
  split at huri
  · obtain ⟨value, hvalue, hsome⟩ := Except.bind_eq_ok.mp huri
    obtain rfl := Except.ok.inj hsome
    obtain ⟨value', hrequired, hrest⟩ := Except.bind_eq_ok.mp hvalue
    obtain ⟨_, -, hrest⟩ := Except.bind_eq_ok.mp hrest
    obtain ⟨_, -, hrest⟩ := Except.bind_eq_ok.mp hrest
    obtain ⟨_, -, hrest⟩ := Except.bind_eq_ok.mp hrest
    obtain rfl := Except.ok.inj hrest
    exact optionalString_of_requiredString hrequired
  · rename_i habsent
    obtain rfl := Except.ok.inj huri
    have hnone : body.lookup "registration_client_uri" = none :=
      Option.not_isSome_iff_eq_none.mp habsent
    simp [optionalString, hnone]

/-- What is read of a registration response. -/
theorem readRegistrationResponse_fields {body : JsonObject} {clientId : String}
    {uri : Option String} {fields : RegistrationFields}
    (h : readRegistrationResponse environment config body = .ok (clientId, uri, fields)) :
    requiredString body "client_id" "registration response" = .ok clientId ∧
      optionalString body "registration_client_uri" "registration response" = .ok uri := by
  unfold readRegistrationResponse at h
  obtain ⟨identifiers, hread, h⟩ := Except.bind_eq_ok.mp h
  have hfields : (clientId, uri) = (identifiers.1, identifiers.2.1) := by
    iterate 12 obtain ⟨_, -, h⟩ := Except.bind_eq_ok.mp h
    obtain ⟨rfl, hrest⟩ := Prod.mk.inj (Except.ok.inj h)
    obtain ⟨rfl, -⟩ := Prod.mk.inj hrest
    rfl
  obtain ⟨rfl, rfl⟩ := Prod.mk.inj hfields
  exact readIdentifiers_fields hread

section Responses

variable {base : Moment} {before during : List DcrExchange} {cached : Option DcrDiscoveryMetadata}
  {state : DcrScenarioState}

variable (environment config) in
/-- A registration response that was read, and names the management URL of its client. -/
def Accepted (discovery : DcrDiscoveryMetadata) (body : JsonObject) (clientId : String)
    (uri : Option String) : Prop :=
  (∃ fields, readRegistrationResponse environment config body = .ok (clientId, uri, fields)) ∧
    ∀ value, uri = some value → value = managementUrlOf discovery clientId

/-- A registration response that passes is accepted by the cached discovery document. -/
theorem validateRegistrationResponse_spec
    (hinv : ScenarioInv environment config base during cached state) (body : JsonObject)
    (requested : DcrScenarioState) :
    Effect.Spec (At environment before during cached state)
      (validateRegistrationResponse environment config body requested)
      (fun _ s => ∃ discovery clientId uri,
        Accepted environment config discovery body clientId uri ∧
          Discovered environment config base before state discovery s)
      (Safe environment config before base) := by
  refine (of_spec hinv _).bind fun ⟨clientId, uri, fields⟩ => .of_fact fun hread => ?_
  refine (requireDiscovery_spec hinv _).bind fun discovery => .of_exists fun during' =>
    .of_fact fun hinv' => ?_
  refine (of_spec hinv' _).bind fun _ => .of_fact fun huri => ?_
  refine (of_spec hinv' _).post fun _ s hs => ⟨discovery, clientId, uri, ⟨⟨fields, hread⟩, ?_⟩,
    during', hinv', hs.2⟩
  intro value hvalue
  rw [refuse_eq_ok, hvalue] at huri
  simpa using huri

end Responses

/-! ## What a passed step shows -/

variable (environment config)

/-- What the exchanges of a scenario show when a step of it passed. -/
inductive Shown (cached : Option DcrDiscoveryMetadata) (during : List DcrExchange)
    (step : CatalogueExecutionStep) : Prop
  | prepared (discovery : DcrDiscoveryMetadata)
      (hstep : step.definitionId ∈ ["validate-registration-endpoint", "generate-registration-jose"])
      (hcached : cached = some discovery) (hchecked : Checked environment config discovery)
  | posted (discovery : DcrDiscoveryMetadata) (request : DcrRequest)
      (response : JsonHttpResponse) (hstep : step.definitionId = "post-registration")
      (hcached : cached = some discovery) (hlast : lastAnswered during = some (request, response))
      (hmethod : request.method = .post) (hurl : request.url = discovery.registrationEndpoint)
  | registered (discovery : DcrDiscoveryMetadata) (request : DcrRequest)
      (response : JsonHttpResponse) (clientId : String) (uri : Option String)
      (hstep : step.definitionId ∈
        ["parse-registration-success", "validate-registration-response-34"])
      (hcached : cached = some discovery) (hlast : lastAnswered during = some (request, response))
      (haccepted : Accepted environment config discovery response.body clientId uri)
  | token (discovery : DcrDiscoveryMetadata) (clientId token : String) (request : DcrRequest)
      (response : JsonHttpResponse)
      (hstep : step.definitionId = "request-client-credentials-token")
      (hcached : cached = some discovery) (hlast : lastAnswered during = some (request, response))
      (hissued : Issued environment config during clientId)
      (htoken : IsTokenRequest discovery clientId request) (hstatus : response.statusCode = 200)
      (hgranted : getField response.body "access_token" = .str token) (hvalue : token ≠ "")
  | managed (discovery : DcrDiscoveryMetadata) (method : HttpMethod) (request : DcrRequest)
      (response : JsonHttpResponse)
      (hstep : (step.definitionId, method) ∈ [("get-client", HttpMethod.get), ("put-client", .put)])
      (hcached : cached = some discovery) (hlast : lastAnswered during = some (request, response))
      (hrequest : IsManagementRequest environment config discovery during method request)
  | deleted (discovery : DcrDiscoveryMetadata) (request : DcrRequest)
      (response : JsonHttpResponse) (hstep : step.definitionId = "delete-client")
      (hcached : cached = some discovery) (hlast : lastAnswered during = some (request, response))
      (hrequest : IsManagementRequest environment config discovery during .delete request)
      (hstatus : response.statusCode = 204)
  | status (request : DcrRequest) (response : JsonHttpResponse)
      (hstep : assertsStatus step.definitionId = true)
      (hlast : lastAnswered during = some (request, response))
      (hstatus : step.expectedStatus = some response.statusCode)
  | retrieved (request : DcrRequest) (response : JsonHttpResponse) (clientId : Option String)
      (method : ClientAuthMethod) (hstep : step.definitionId = "parse-retrieved-client")
      (hlast : lastAnswered during = some (request, response))
      (hissued : ∀ id, clientId = some id → Issued environment config during id)
      (hclient : (getField response.body "client_id").pyEq (textOrNull clientId) = true)
      (hmethod : config.shared.clientAuthMethod = some method)
      (hregistered : (getField response.body "token_endpoint_auth_method").pyEq
        (.str method.text) = true)
  | emptied (hstep : step.definitionId = "set-empty-bearer-token")
  | refused (request : DcrRequest) (response : JsonHttpResponse) (error : String)
      (hstep : step.definitionId = "validate-registration-error")
      (hlast : lastAnswered during = some (request, response))
      (herror : getField response.body "error" = .str error) (hvalue : error ≠ "")
      (hclient : response.body.lookup "client_id" = none)

/-- What holds after a handler: the invariant, and what a passed step shows. -/
def After (before : List DcrExchange) (base : Moment) (step : CatalogueExecutionStep)
    (outcome : DcrOutcome) (s : DcrWorld environment × DcrScenarioState) : Prop :=
  ∃ during, s.1.exchanges = before ++ during ∧
    ScenarioInv environment config base during s.1.discovery s.2 ∧
      (outcome.passed = true → Shown environment config s.1.discovery during step)

variable {environment config}

section Handlers

variable {base : Moment} {before during : List DcrExchange} {cached : Option DcrDiscoveryMetadata}
  {state : DcrScenarioState}

/-- A step that sends nothing ends as it began. -/
theorem Now.after {s : DcrWorld environment × DcrScenarioState} {step : CatalogueExecutionStep}
    {outcome : DcrOutcome} (h : At environment before during cached state s)
    (hinv : ScenarioInv environment config base during cached state)
    (hshown : outcome.passed = true → Shown environment config cached during step) :
    After environment config before base step outcome s :=
  ⟨during, h.exchanges, by rw [h.discovery, h.state]; exact ⟨hinv, hshown⟩⟩

/-- A string that was read is in its field. -/
theorem requiredString_field {body : JsonObject} {key location value : String}
    (h : requiredString body key location = .ok value) :
    getField body key = .str value ∧ value ≠ "" := by
  have htext := orError_eq_ok.mp h
  cases hfield : getField body key with
  | str text =>
    rw [hfield] at htext
    have hif : (if text = "" then none else some text) = some value := htext
    split at hif
    · cases hif
    · obtain rfl := Option.some.inj hif
      exact ⟨rfl, ‹_›⟩
  | _ => rw [hfield] at htext; cases htext

/-- The step that validates the registration endpoint. -/
theorem validateDiscoveryStep_spec
    (hinv : ScenarioInv environment config base during cached state)
    {step : CatalogueExecutionStep} (hstep : step.definitionId = "validate-registration-endpoint") :
    Effect.Spec (At environment before during cached state)
      (validateDiscoveryStep environment config step)
      (After environment config before base step) (Safe environment config before base) := by
  refine (requireDiscovery_spec hinv _).bind fun discovery => .of_exists fun during' =>
    .of_fact fun hinv' => .pure fun s hs => hs.after hinv' fun _ => ?_
  exact .prepared discovery (by simp [hstep]) rfl (hinv'.checked discovery rfl)

/-- The registration JOSE is made after discovery, without any request of its own. -/
theorem buildRegistrationJose_spec
    (hinv : ScenarioInv environment config base during cached state) (variant : String) :
    Effect.Spec (At environment before during cached state)
      (buildRegistrationJose environment config variant)
      (fun _ s => ∃ discovery, Discovered environment config base before state discovery s)
      (Safe environment config before base) := by
  refine (requireDiscovery_spec hinv _).bind fun discovery => .of_exists fun during' =>
    .of_fact fun hinv' => ?_
  suffices hquiet : ∀ m : DcrEffect environment (String × JsonObject), Quiet config m →
      Effect.Spec (At environment before during' (some discovery) state) m
        (fun _ s => ∃ discovery, Discovered environment config base before state discovery s)
        (Safe environment config before base) by
    refine hquiet _ ?_
    refine quiet_utcNow.bind fun now => quiet_readSsa.bind fun ssa => (Quiet.of _).bind fun _ => ?_
    refine (Quiet.of _).bind fun issuer => (Quiet.of _).bind fun redirects => ?_
    refine (Quiet.of _).bind fun _ => (Quiet.of _).bind fun method => quiet_jwtId.bind fun jti => ?_
    refine (quiet_authMethodClaims _ _).bind fun claims => (Quiet.of _).bind fun _ => ?_
    refine (Quiet.of _).bind fun keyId => .bind (.mapError ?_ _) fun compact => .pure _
    exact quiet_loadSigningKey.bind fun key => .of _
  intro m hm
  exact (hm hinv').post fun _ s hs => ⟨discovery, during', hinv', hs⟩

/-- The step that generates the registration JOSE. -/
theorem generateRegistrationStep_spec
    (hinv : ScenarioInv environment config base during cached state)
    {step : CatalogueExecutionStep} (hstep : step.definitionId = "generate-registration-jose") :
    Effect.Spec (At environment before during cached state)
      (generateRegistrationStep environment config step)
      (After environment config before base step) (Safe environment config before base) := by
  refine (buildRegistrationJose_spec hinv _).bind fun _ => .of_exists fun discovery =>
    .of_exists fun during' => .of_fact fun hinv' => ?_
  refine (assign_spec _).bind fun _ => .pure fun s hs =>
    hs.after (hinv'.frame rfl rfl rfl rfl rfl) fun _ => ?_
  exact .prepared discovery (by simp [hstep]) rfl (hinv'.checked discovery rfl)

/-- The step that posts it. -/
theorem postRegistrationStep_spec
    (hinv : ScenarioInv environment config base during cached state)
    {step : CatalogueExecutionStep} (hstep : step.definitionId = "post-registration") :
    Effect.Spec (At environment before during cached state)
      (postRegistrationStep environment config step)
      (After environment config before base step) (Safe environment config before base) := by
  refine (requireDiscovery_spec hinv _).bind fun discovery => .of_exists fun during' =>
    .of_fact fun hinv' => ?_
  refine scenario_spec.bind fun _ => .of_fact fun hstate => ?_
  refine (of_spec hinv' _).bind fun jose => .of_fact fun _ => ?_
  have hrequest : Permitted environment config (some discovery) during' _ :=
    .registration discovery jose rfl
  refine (send_spec hinv' step hrequest).bind fun ⟨response, _⟩ => ?_
  have hinv'' := hinv'.answered hrequest (List.cons_ne_nil _ _) response
  refine (assign_spec _).bind fun _ => .pure fun s hs =>
    hs.after (hinv''.frame rfl rfl rfl rfl rfl) fun _ => ?_
  exact .posted discovery _ response hstep rfl
    (lastAnswered_answered (List.cons_ne_nil _ _) response) rfl rfl

/-- The response of an assertion step is the last one that was answered. -/
theorem requiredResponse_last {response : JsonHttpResponse}
    (hinv : ScenarioInv environment config base during cached state)
    (h : requiredResponse state = .ok response) :
    ∃ request, lastAnswered during = some (request, response) := by
  have hlast := orError_eq_ok.mp h
  rw [hinv.last] at hlast
  obtain ⟨⟨request, _⟩, hanswered, rfl⟩ := Option.map_eq_some_iff.mp hlast
  exact ⟨request, hanswered⟩

/-- A response that was accepted issues its client id. -/
theorem issued_of_accepted {discovery : DcrDiscoveryMetadata} {request : DcrRequest}
    {response : JsonHttpResponse} {clientId : String} {uri : Option String}
    (hlast : lastAnswered during = some (request, response))
    (haccepted : Accepted environment config discovery response.body clientId uri) :
    Issued environment config during clientId := by
  obtain ⟨⟨fields, hread⟩, -⟩ := haccepted
  exact ⟨_, exists_of_lastAnswered hlast, response, uri, fields, rfl, hread⟩

/-- The invariant with an issued client. -/
theorem ScenarioInv.setClient {clientId : String} {state' : DcrScenarioState}
    (h : ScenarioInv environment config base during cached state)
    (hissued : Issued environment config during clientId)
    (htoken : state'.clientCredentialsAccessToken = state.clientCredentialsAccessToken)
    (hclient : state'.clientId = some clientId)
    (hmanagement : state'.managementUrl = state.managementUrl)
    (hlast : state'.lastResponse = state.lastResponse)
    (hdeleted : state'.deleted = state.deleted) :
    ScenarioInv environment config base during cached state' where
  grown := h.grown
  kept := h.kept
  disciplined := h.disciplined
  checked := h.checked
  token := by rw [htoken]; exact h.token
  client id hid := Option.some.inj (hclient.symm.trans hid) ▸ hissued
  management := by rw [hmanagement]; exact h.management
  last := by rw [hlast]; exact h.last
  deleted := by rw [hdeleted]; exact h.deleted

/-- The invariant with the management URL of an issued client. -/
theorem ScenarioInv.setManagement {clientId : String} {discovery : DcrDiscoveryMetadata}
    (h : ScenarioInv environment config base during (some discovery) state)
    (hissued : Issued environment config during clientId) :
    ScenarioInv environment config base during (some discovery)
      { state with managementUrl := some (managementUrlOf discovery clientId) } where
  grown := h.grown
  kept := h.kept
  disciplined := h.disciplined
  checked := h.checked
  token := h.token
  client := h.client
  management _ hurl := ⟨discovery, clientId, rfl, hissued, (Option.some.inj hurl).symm⟩
  last := h.last
  deleted := h.deleted

/-- The invariant with a granted token. -/
theorem ScenarioInv.setToken {token : String} {state' : DcrScenarioState}
    (h : ScenarioInv environment config base during cached state)
    (hgranted : token = "" ∨ ∃ discovery, cached = some discovery ∧
      Granted discovery during token)
    (htoken : state' = { state with clientCredentialsAccessToken := some token }) :
    ScenarioInv environment config base during cached state' where
  grown := h.grown
  kept := h.kept
  disciplined := h.disciplined
  checked := h.checked
  token other hother := by
    rw [htoken] at hother
    exact Option.some.inj hother ▸ hgranted
  client := by rw [htoken]; exact h.client
  management := by rw [htoken]; exact h.management
  last := by rw [htoken]; exact h.last
  deleted := by rw [htoken]; exact h.deleted

/-- The step that parses a registration. -/
theorem parseRegistrationStep_spec
    (hinv : ScenarioInv environment config base during cached state)
    {step : CatalogueExecutionStep} (hstep : step.definitionId = "parse-registration-success") :
    Effect.Spec (At environment before during cached state)
      (parseRegistrationStep environment config)
      (After environment config before base step) (Safe environment config before base) := by
  refine scenario_spec.bind fun _ => .of_fact fun hstate => ?_
  subst hstate
  refine (of_spec hinv _).bind fun response => .of_fact fun hresponse => ?_
  -- what the response was is known by what it is after discovery too
  have hstored := orError_eq_ok.mp hresponse
  refine (validateRegistrationResponse_spec hinv _ _).bind fun _ => .of_exists fun discovery =>
    .of_exists fun clientId => .of_exists fun uri => .of_fact fun haccepted =>
    .of_exists fun during' => .of_fact fun hinv' => ?_
  obtain ⟨request, hlast⟩ := requiredResponse_last hinv' hresponse
  have hissued := issued_of_accepted hlast haccepted
  obtain ⟨hclient, huri⟩ := readRegistrationResponse_fields haccepted.1.choose_spec
  refine (of_spec hinv' _).bind fun clientId' => .of_fact fun hclient' => ?_
  obtain rfl := Except.ok.inj (hclient.symm.trans hclient')
  have hinv₁ : ScenarioInv environment config base during' (some discovery)
      { state with clientId := some clientId } := hinv'.setClient hissued rfl rfl rfl rfl rfl
  refine (assign_spec _).bind fun _ => (of_spec hinv₁ _).bind fun secret => .of_fact fun _ => ?_
  have hinv₂ : ScenarioInv environment config base during' (some discovery) { state with
      clientId := some clientId, clientSecret := secret } := hinv₁.frame rfl rfl rfl rfl rfl
  refine (assign_spec _).bind fun _ => (of_spec hinv₂ _).bind fun token => .of_fact fun _ => ?_
  have hinv₃ : ScenarioInv environment config base during' (some discovery) { state with
      clientId := some clientId, clientSecret := secret, registrationAccessToken := token } :=
    hinv₂.frame rfl rfl rfl rfl rfl
  refine (assign_spec _).bind fun _ => (of_spec hinv₃ _).bind fun uri' => .of_fact fun huri' => ?_
  obtain rfl := Except.ok.inj (huri.symm.trans huri')
  have hurl : Effect.Spec (At environment before during' (some discovery) { state with
        clientId := some clientId, clientSecret := secret, registrationAccessToken := token })
      (uri.elim (do
        let discovery ← requireDiscovery environment config discoveryStepId
        return managementUrlOf discovery clientId) pure)
      (fun url s => url = managementUrlOf discovery clientId ∧
        At environment before during' (some discovery) { state with
          clientId := some clientId, clientSecret := secret, registrationAccessToken := token } s)
      (Safe environment config before base) := by
    cases uri with
    | some value => exact .pure fun _ hs => ⟨haccepted.2 value rfl, hs⟩
    | none =>
      -- the metadata is cached by now
      refine (requireDiscovery_cached _).bind fun found => .of_fact fun hfound => ?_
      exact .pure fun _ hs => ⟨congrArg (managementUrlOf · clientId) hfound.symm, hs⟩
  refine hurl.bind fun _ => .of_fact fun hvalue => ?_
  subst hvalue
  refine (assign_spec _).bind fun _ => .pure fun s hs =>
    hs.after (hinv₃.setManagement hissued) fun _ => ?_
  exact .registered discovery request response clientId uri (by simp [hstep]) rfl hlast haccepted

/-- Making an assertion form sends nothing. -/
theorem quiet_clientAssertionForm (clientId : String) (discovery : DcrDiscoveryMetadata)
    (method : ClientAuthMethod) (secret : Option String) :
    Quiet config (clientAssertionForm environment config clientId discovery method secret) := by
  refine quiet_utcNow.bind fun now => (quiet_assertionKey _ _).bind fun key => ?_
  refine (Quiet.of _).bind fun _ => quiet_jwtId.bind fun jti => ?_
  exact (Quiet.of _).bind fun assertion => .pure _

/-- The one header that client authentication may add names the client. -/
theorem authenticate_spec (hinv : ScenarioInv environment config base during cached state)
    (method : ClientAuthMethod) (clientId : String) (clientSecret : Option String)
    (discovery : DcrDiscoveryMetadata) :
    Effect.Spec (At environment before during cached state)
      (authenticate environment config method clientId clientSecret discovery)
      (fun added s => (added.2 = [] ∨ ∃ secret : String, added.2 =
          [("Authorization", "Basic " ++ b64encode s!"{clientId}:{secret}")]) ∧
        At environment before during cached state s)
      (Safe environment config before base) := by
  cases method with
  | tlsClientAuth => exact .pure fun s hs => ⟨.inl rfl, hs⟩
  | clientSecretBasic =>
    refine (of_spec hinv _).bind fun secret => .of_fact fun _ => ?_
    exact .pure fun s hs => ⟨.inr ⟨secret, rfl⟩, hs⟩
  | privateKeyJwt =>
    exact (quiet_clientAssertionForm _ _ _ _ hinv).bind fun form => .pure fun s hs => ⟨.inl rfl, hs⟩
  | clientSecretJwt =>
    exact (quiet_clientAssertionForm _ _ _ _ hinv).bind fun form => .pure fun s hs => ⟨.inl rfl, hs⟩

/-- A token request is one of an issued client. -/
theorem tokenRequest_spec (hinv : ScenarioInv environment config base during cached state)
    (discovery : DcrDiscoveryMetadata) :
    Effect.Spec (At environment before during cached state)
      (tokenRequest environment config state discovery)
      (fun request s => ∃ clientId, (Issued environment config during clientId ∧
          IsTokenRequest discovery clientId request ∧ request.headers ≠ []) ∧
        At environment before during cached state s)
      (Safe environment config before base) := by
  refine (of_spec hinv _).bind fun clientId => .of_fact fun hclient => ?_
  have hissued := hinv.client clientId (Option.filter_eq_some_iff.mp (orError_eq_ok.mp hclient)).1
  refine (of_spec hinv _).bind fun method => .of_fact fun _ => ?_
  refine (of_spec hinv _).bind fun _ => .of_fact fun _ => ?_
  refine (authenticate_spec hinv _ _ _ _).bind fun ⟨form, headers⟩ => .of_fact fun hheaders => ?_
  refine .pure fun s hs => ⟨clientId, ⟨hissued, ⟨rfl, rfl, rfl, ⟨form, rfl⟩, ?_⟩,
    List.cons_ne_nil _ _⟩, hs⟩
  rcases hheaders with rfl | ⟨secret, rfl⟩
  · exact .inl rfl
  · exact .inr ⟨secret, rfl⟩

/-- The step that requests a token. -/
theorem tokenStep_spec (hinv : ScenarioInv environment config base during cached state)
    {step : CatalogueExecutionStep}
    (hstep : step.definitionId = "request-client-credentials-token") :
    Effect.Spec (At environment before during cached state) (tokenStep environment config step)
      (After environment config before base step) (Safe environment config before base) := by
  refine (requireDiscovery_spec hinv _).bind fun discovery => .of_exists fun during' =>
    .of_fact fun hinv' => ?_
  refine scenario_spec.bind fun _ => .of_fact fun hstate => ?_
  subst hstate
  refine (tokenRequest_spec hinv' discovery).bind fun request => .of_exists fun clientId =>
    .of_fact fun ⟨hissued, htoken, hheaders⟩ => ?_
  have hrequest : Permitted environment config (some discovery) during' request :=
    .token discovery clientId request rfl hissued htoken
  refine (send_spec hinv' step hrequest).bind fun ⟨response, evidence⟩ => ?_
  have hinv'' := hinv'.answered hrequest hheaders response
  refine (assign_spec _).bind fun _ => ?_
  have hanswered : ScenarioInv environment config base (during' ++ [⟨request, some response⟩])
      (some discovery) { state with
        lastResponse := some response, tokenResponse := some response.body } :=
    hinv''.frame rfl rfl rfl rfl rfl
  split
  · exact .pure fun s hs => hs.after hanswered nofun
  -- the answer was 200, so the token that is read was granted
  · rename_i hstatus
    refine (of_spec hanswered _).bind fun token => .of_fact fun hread => ?_
    obtain ⟨hfield, hvalue⟩ := requiredString_field hread
    have hgranted : Granted discovery (during' ++ [⟨request, some response⟩]) token :=
      ⟨⟨request, some response⟩, List.mem_append_right _ List.mem_cons_self, response,
        htoken.method, htoken.url, rfl, not_not.mp hstatus, hfield⟩
    refine (assign_spec _).bind fun _ => .pure fun s hs => hs.after
      (hanswered.setToken (.inr ⟨discovery, rfl, hgranted⟩) rfl) fun _ => ?_
    exact .token discovery clientId token request response hstep rfl
      (lastAnswered_answered hheaders response) (hissued.append _) htoken (not_not.mp hstatus)
      hfield hvalue

/-- A management request that was answered. -/
theorem managed_spec (hinv : ScenarioInv environment config base during cached state)
    (step : CatalogueExecutionStep) {method : HttpMethod}
    (hmethod : method ∈ [HttpMethod.get, .put, .delete]) (rawBody : Option String) :
    Effect.Spec (At environment before during cached state)
      (managementRequest environment step method rawBody)
      (fun answer s => ∃ discovery request during', (cached = some discovery ∧
          ScenarioInv environment config base during' cached
            { state with lastResponse := some answer.1 } ∧
          lastAnswered during' = some (request, answer.1) ∧
          IsManagementRequest environment config discovery during' method request) ∧
        At environment before during' cached state s)
      (Safe environment config before base) := by
  refine (managementRequest_spec hinv step hmethod rawBody).post fun answer s h => ?_
  obtain ⟨request, discovery, ⟨hcached, hrequest, hmethod', hheaders, hmanaged⟩, hs⟩ := h
  obtain ⟨clientId, hissued, hurl⟩ := hmanaged
  exact ⟨discovery, request, _, ⟨hcached, hinv.answered hrequest hheaders answer.1,
    lastAnswered_answered hheaders answer.1, hmethod', hheaders, clientId, hissued.append _, hurl⟩,
    hs⟩

/-- A `DELETE` that the bank confirmed. -/
theorem ScenarioInv.remove {removed : Bool}
    (h : ScenarioInv environment config base during cached state)
    (hremoved : removed = true → Removed environment config cached during) :
    ScenarioInv environment config base during cached
      { state with deleted := state.deleted || removed } where
  grown := h.grown
  kept := h.kept
  disciplined := h.disciplined
  checked := h.checked
  token := h.token
  client := h.client
  management := h.management
  last := h.last
  deleted hdeleted := ((Bool.or_eq_true _ _).mp hdeleted).elim h.deleted hremoved

/-- The step that deletes the client. -/
theorem deleteStep_spec (hinv : ScenarioInv environment config base during cached state)
    {step : CatalogueExecutionStep} (hstep : step.definitionId = "delete-client") :
    Effect.Spec (At environment before during cached state) (deleteStep environment step)
      (After environment config before base step) (Safe environment config before base) := by
  refine (managed_spec hinv step (by simp) none).bind fun ⟨response, evidence⟩ =>
    .of_exists fun discovery => .of_exists fun request => .of_exists fun during' =>
    .of_fact fun ⟨hcached, hinv', hlast, hrequest⟩ => ?_
  have hremoved : decide (response.statusCode = 204) = true →
      Removed environment config cached during' := fun hstatus => by
    obtain ⟨hmethod, -, clientId, hissued, hurl⟩ := hrequest
    exact ⟨discovery, clientId, request, response, hcached, exists_of_lastAnswered hlast, hissued,
      hmethod, hurl, of_decide_eq_true hstatus⟩
  refine (assign_spec _).bind fun _ => .pure fun s hs =>
    hs.after (hinv'.remove hremoved) fun hpassed => ?_
  exact .deleted discovery request response hstep hcached hlast hrequest
    (of_decide_eq_true hpassed)

/-- The step that gets the client. -/
theorem getStep_spec (hinv : ScenarioInv environment config base during cached state)
    {step : CatalogueExecutionStep} (hstep : step.definitionId = "get-client") :
    Effect.Spec (At environment before during cached state) (getStep environment step)
      (After environment config before base step) (Safe environment config before base) := by
  refine (managed_spec hinv step (by simp) none).bind fun ⟨response, evidence⟩ =>
    .of_exists fun discovery => .of_exists fun request => .of_exists fun during' =>
    .of_fact fun ⟨hcached, hinv', hlast, hrequest⟩ => ?_
  refine (assign_spec _).bind fun _ => .pure fun s hs =>
    hs.after (hinv'.frame rfl rfl rfl rfl rfl) fun _ => ?_
  exact .managed discovery .get request response (by simp [hstep]) hcached hlast hrequest

/-- An answer that was checked is still the last one of the scenario. -/
theorem putStep_spec (hinv : ScenarioInv environment config base during cached state)
    {step : CatalogueExecutionStep} (hstep : step.definitionId = "put-client") :
    Effect.Spec (At environment before during cached state) (putStep environment config step)
      (After environment config before base step) (Safe environment config before base) := by
  refine scenario_spec.bind fun _ => .of_fact fun hstate => ?_
  subst hstate
  refine (of_spec hinv _).bind fun jose => .of_fact fun _ => ?_
  refine (managed_spec hinv step (by simp) (some jose)).bind fun ⟨response, evidence⟩ =>
    .of_exists fun discovery => .of_exists fun request => .of_exists fun during' =>
    .of_fact fun ⟨hcached, hinv', hlast, hrequest⟩ => ?_
  have hinv'' : ScenarioInv environment config base during' cached { state with
      lastResponse := some response, registrationResponse := some response.body } :=
    hinv'.frame rfl rfl rfl rfl rfl
  refine (assign_spec _).bind fun _ => scenario_spec.bind fun _ => .of_fact fun hstate => ?_
  subst hstate hcached
  -- checking the answer sends nothing more
  have hcheck : Effect.Spec (At environment before during' (some discovery) { state with
        lastResponse := some response, registrationResponse := some response.body })
      (checkUpdate environment config response { state with
        lastResponse := some response, registrationResponse := some response.body })
      (fun _ => At environment before during' (some discovery) { state with
        lastResponse := some response, registrationResponse := some response.body })
      (Safe environment config before base) := by
    unfold checkUpdate
    split
    · refine (of_spec hinv'' _).bind fun ⟨clientId, uri, fields⟩ => .of_fact fun _ => ?_
      refine (requireDiscovery_cached _).bind fun found => .of_fact fun _ => ?_
      refine (of_spec hinv'' _).bind fun _ => .of_fact fun _ => ?_
      exact (of_spec hinv'' _).post fun _ s hs => hs.2
    · exact .pure fun s hs => hs
  refine hcheck.bind fun _ => .pure fun s hs => hs.after hinv'' fun _ => ?_
  exact .managed discovery .put request response (by simp [hstep]) rfl hlast hrequest

/-- The steps that assert a status. -/
theorem assertStatusStep_spec (hinv : ScenarioInv environment config base during cached state)
    {step : CatalogueExecutionStep} (hstep : assertsStatus step.definitionId = true) :
    Effect.Spec (At environment before during cached state) (assertStatusStep environment step)
      (After environment config before base step) (Safe environment config before base) := by
  refine scenario_spec.bind fun _ => .of_fact fun hstate => ?_
  subst hstate
  refine (of_spec hinv _).bind fun response => .of_fact fun hresponse => ?_
  refine (of_spec hinv _).bind fun expected => .of_fact fun hexpected => ?_
  refine (logEvent_spec _ _ _).bind fun _ => .pure fun s hs => hs.after hinv fun hpassed => ?_
  obtain ⟨request, hlast⟩ := requiredResponse_last hinv hresponse
  refine .status request response hstep hlast ?_
  rw [orError_eq_ok.mp hexpected, of_decide_eq_true hpassed]

/-- The step that validates a registration response. -/
theorem validateResponseStep_spec (hinv : ScenarioInv environment config base during cached state)
    {step : CatalogueExecutionStep}
    (hstep : step.definitionId = "validate-registration-response-34") :
    Effect.Spec (At environment before during cached state)
      (validateResponseStep environment config)
      (After environment config before base step) (Safe environment config before base) := by
  refine scenario_spec.bind fun _ => .of_fact fun hstate => ?_
  subst hstate
  refine (of_spec hinv _).bind fun response => .of_fact fun hresponse => ?_
  refine (validateRegistrationResponse_spec hinv _ _).bind fun _ => .of_exists fun discovery =>
    .of_exists fun clientId => .of_exists fun uri => .of_fact fun haccepted =>
    .of_exists fun during' => .of_fact fun hinv' => .pure fun s hs => hs.after hinv' fun _ => ?_
  obtain ⟨request, hlast⟩ := requiredResponse_last hinv' hresponse
  exact .registered discovery request response clientId uri (by simp [hstep]) rfl hlast haccepted

/-- The step that parses a retrieved client. -/
theorem parseRetrievedStep_spec (hinv : ScenarioInv environment config base during cached state)
    {step : CatalogueExecutionStep} (hstep : step.definitionId = "parse-retrieved-client") :
    Effect.Spec (At environment before during cached state)
      (parseRetrievedStep environment config)
      (After environment config before base step) (Safe environment config before base) := by
  refine scenario_spec.bind fun _ => .of_fact fun hstate => ?_
  subst hstate
  refine (of_spec hinv _).bind fun response => .of_fact fun hresponse => ?_
  refine (of_spec hinv _).bind fun _ => .of_fact fun hclient => ?_
  refine (of_spec hinv _).bind fun method => .of_fact fun hmethod => ?_
  refine (of_spec hinv _).bind fun _ => .of_fact fun hregistered => ?_
  refine .pure fun s hs => hs.after hinv fun _ => ?_
  obtain ⟨request, hlast⟩ := requiredResponse_last hinv hresponse
  exact .retrieved request response state.clientId method hstep hlast hinv.client
    (by simpa using hclient) (orError_eq_ok.mp hmethod) (by simpa using hregistered)

/-- The step that sets an empty token. -/
theorem emptyBearerStep_spec (hinv : ScenarioInv environment config base during cached state)
    {step : CatalogueExecutionStep} (hstep : step.definitionId = "set-empty-bearer-token") :
    Effect.Spec (At environment before during cached state) (emptyBearerStep environment)
      (After environment config before base step) (Safe environment config before base) :=
  (assign_spec _).bind fun _ => .pure fun _ hs =>
    hs.after (hinv.setToken (.inl rfl) rfl) fun _ => .emptied hstep

/-- The step that validates an error. -/
theorem validateErrorStep_spec (hinv : ScenarioInv environment config base during cached state)
    {step : CatalogueExecutionStep} (hstep : step.definitionId = "validate-registration-error") :
    Effect.Spec (At environment before during cached state) (validateErrorStep environment)
      (After environment config before base step) (Safe environment config before base) := by
  refine scenario_spec.bind fun _ => .of_fact fun hstate => ?_
  subst hstate
  refine (of_spec hinv _).bind fun response => .of_fact fun hresponse => ?_
  refine (of_spec hinv _).bind fun error => .of_fact fun herror => ?_
  refine (of_spec hinv _).bind fun _ => .of_fact fun hclient => ?_
  refine .pure fun s hs => hs.after hinv fun _ => ?_
  obtain ⟨request, hlast⟩ := requiredResponse_last hinv hresponse
  obtain ⟨hfield, hvalue⟩ := requiredString_field herror
  exact .refused request response error hstep hlast hfield hvalue
    (Option.not_isSome_iff_eq_none.mp (refuse_eq_ok.mp hclient))

/-- One operation keeps the invariant, and what it reports is shown by the exchanges. -/
theorem executeStepInner_spec (hinv : ScenarioInv environment config base during cached state)
    (step : CatalogueExecutionStep) :
    Effect.Spec (At environment before during cached state)
      (executeStepInner environment config step)
      (After environment config before base step) (Safe environment config before base) := by
  unfold executeStepInner
  split
  · exact assertStatusStep_spec hinv ‹_›
  · cases hhandler : (dcrHandlers environment config step).lookup step.definitionId with
    | none => exact .of (fun _ _ h => nomatch h) fun _ hs => hs.safe hinv
    | some handler =>
      obtain ⟨earlier, later, hsplit, -⟩ := List.lookup_eq_some_iff.mp hhandler
      have hmem : (step.definitionId, handler) ∈ dcrHandlers environment config step :=
        hsplit ▸ List.mem_append_right _ List.mem_cons_self
      simp only [dcrHandlers, List.mem_cons, Prod.mk.injEq, List.not_mem_nil, or_false] at hmem
      -- one case for each handler of the table
      rcases hmem with ⟨h, rfl⟩ | ⟨h, rfl⟩ | ⟨h, rfl⟩ | ⟨h, rfl⟩ | ⟨h, rfl⟩ | ⟨h, rfl⟩ | ⟨h, rfl⟩ |
        ⟨h, rfl⟩ | ⟨h, rfl⟩ | ⟨h, rfl⟩ | ⟨h, rfl⟩ | ⟨h, rfl⟩
      · exact validateDiscoveryStep_spec hinv h
      · exact generateRegistrationStep_spec hinv h
      · exact postRegistrationStep_spec hinv h
      · exact parseRegistrationStep_spec hinv h
      · exact tokenStep_spec hinv h
      · exact deleteStep_spec hinv h
      · exact getStep_spec hinv h
      · exact putStep_spec hinv h
      · exact validateResponseStep_spec hinv h
      · exact parseRetrievedStep_spec hinv h
      · exact emptyBearerStep_spec hinv h
      · exact validateErrorStep_spec hinv h

end Handlers

end Conformance.DcrExecution
