import Conformance.Native.DcrProtocol

/-!
# Where the credentials of a DCR run go

Every request of a scenario is one of five kinds: the two metadata documents, a registration, a
token request, and the management of a client. The last two carry credentials, and these go
only to the endpoints of the discovery document that was checked, and only in the scenario that
was given them.

## Key results

- `ScenarioInv.exchanged`, `ScenarioInv.cache`: what keeps the invariant of a scenario
- `requireDiscovery_spec`, `send_spec`, `managementRequest_spec`: the requests of an operation
- `Quiet.bind`: computations that send nothing
-/

namespace Conformance.DcrExecution

open PlanConfiguration PlanConfig

variable (environment : DcrEnvironment) (config : DcrPlanConfiguration)

/-! ## What a request may be -/

/-- A `GET` without headers. -/
def metadataRequest (url : String) : DcrRequest := { method := .get, url := url }

/-- A client id of a registration response that was accepted. -/
def Issued (earlier : List DcrExchange) (clientId : String) : Prop :=
  ∃ e ∈ earlier, ∃ response registrationUri fields, e.response = some response ∧
    readRegistrationResponse environment config response.body =
      .ok (clientId, registrationUri, fields)

/-- An access token that the token endpoint granted. -/
def Granted (discovery : DcrDiscoveryMetadata) (earlier : List DcrExchange) (token : String) :
    Prop :=
  ∃ e ∈ earlier, ∃ response, e.request.method = .post ∧ e.request.url = discovery.tokenEndpoint ∧
    e.response = some response ∧ response.statusCode = 200 ∧
      getField response.body "access_token" = .str token

/-- A request for a token of a client: it names the client in its form, or in its header next to
    the secret. -/
structure IsTokenRequest (discovery : DcrDiscoveryMetadata) (clientId : String)
    (request : DcrRequest) : Prop where
  method : request.method = .post
  url : request.url = discovery.tokenEndpoint
  rawBody : request.rawBody = none
  form : ∃ fields, request.formBody = some (("grant_type", "client_credentials") :: fields)
  headers : request.headers = [("Accept", "application/json")] ∨
    ∃ secret : String, request.headers = [("Accept", "application/json"),
      ("Authorization", "Basic " ++ b64encode s!"{clientId}:{secret}")]

/-- The requests that a scenario may make after the exchanges `earlier`. -/
inductive Permitted (cached : Option DcrDiscoveryMetadata) (earlier : List DcrExchange) :
    DcrRequest → Prop
  | discovery (url : String) (hurl : config.shared.discoveryUrl = some url) :
      Permitted cached earlier (metadataRequest url)
  | keys (url : String) (e : DcrExchange) (response : JsonHttpResponse)
      (metadata : DcrDiscoveryMetadata) (hurl : config.shared.discoveryUrl = some url)
      (hmem : e ∈ earlier) (hrequest : e.request = metadataRequest url)
      (hresponse : e.response = some response)
      (hread : readDiscovery environment config response.body = .ok metadata) :
      Permitted cached earlier (metadataRequest metadata.jwksUri)
  | registration (discovery : DcrDiscoveryMetadata) (jose : String)
      (hcached : cached = some discovery) :
      Permitted cached earlier
        { method := .post
          url := discovery.registrationEndpoint
          headers := [("Accept", "application/json"), ("Content-Type", "application/jose")]
          rawBody := some jose }
  | token (discovery : DcrDiscoveryMetadata) (clientId : String) (request : DcrRequest)
      (hcached : cached = some discovery)
      (hissued : Issued environment config earlier clientId)
      (htoken : IsTokenRequest discovery clientId request) : Permitted cached earlier request
  | management (discovery : DcrDiscoveryMetadata) (clientId token : String) (method : HttpMethod)
      (rawBody : Option String) (hcached : cached = some discovery)
      (hissued : Issued environment config earlier clientId)
      (hgranted : token = "" ∨ Granted discovery earlier token)
      (hmethod : method ∈ [HttpMethod.get, .put, .delete]) :
      Permitted cached earlier
        { method := method
          url := managementUrlOf discovery clientId
          headers := [("Accept", "application/json"), ("Authorization", bearer token)] ++
            (rawBody.map fun _ => ("Content-Type", "application/jose")).toList
          rawBody := rawBody }

/-- Every request of a scenario may be made after the exchanges before it. -/
def Disciplined (cached : Option DcrDiscoveryMetadata) (during : List DcrExchange) : Prop :=
  ∀ earlier e later, during = earlier ++ e :: later →
    Permitted environment config cached earlier e.request

/-- The last exchange that was answered, the metadata documents apart. -/
def lastAnswered (during : List DcrExchange) : Option (DcrRequest × JsonHttpResponse) :=
  (during.filterMap fun e => if e.request.headers = [] then none
    else e.response.map fun response => (e.request, response)).getLast?

/-- Discovery metadata whose fields were read from a document that passed the checks. -/
def Checked (discovery : DcrDiscoveryMetadata) : Prop :=
  ∃ body jwks, readDiscovery environment config body = .ok { discovery with jwks := jwks }

/-- The bank confirmed that a client of the scenario is gone. -/
def Removed (cached : Option DcrDiscoveryMetadata) (during : List DcrExchange) : Prop :=
  ∃ discovery clientId request response, cached = some discovery ∧
    (⟨request, some response⟩ : DcrExchange) ∈ during ∧
      Issued environment config during clientId ∧ request.method = .delete ∧
        request.url = managementUrlOf discovery clientId ∧ response.statusCode = 204

variable {environment config}

/-- A client stays issued. -/
theorem Issued.append {earlier : List DcrExchange} {clientId : String}
    (h : Issued environment config earlier clientId) (later : List DcrExchange) :
    Issued environment config (earlier ++ later) clientId := by
  obtain ⟨e, hmem, hrest⟩ := h
  exact ⟨e, List.mem_append_left later hmem, hrest⟩

/-- A deletion stays confirmed. -/
theorem Removed.append {cached : Option DcrDiscoveryMetadata} {earlier : List DcrExchange}
    (h : Removed environment config cached earlier) (later : List DcrExchange) :
    Removed environment config cached (earlier ++ later) := by
  obtain ⟨discovery, clientId, request, response, hcached, hmem, hissued, hrest⟩ := h
  exact ⟨discovery, clientId, request, response, hcached, List.mem_append_left later hmem,
    hissued.append later, hrest⟩

/-- A token stays granted. -/
theorem Granted.append {discovery : DcrDiscoveryMetadata} {earlier : List DcrExchange}
    {token : String} (h : Granted discovery earlier token) (later : List DcrExchange) :
    Granted discovery (earlier ++ later) token := by
  obtain ⟨e, hmem, hrest⟩ := h
  exact ⟨e, List.mem_append_left later hmem, hrest⟩

/-- What may be asked before the metadata is known may be asked after. -/
theorem Permitted.cache {earlier : List DcrExchange} {request : DcrRequest}
    (h : Permitted environment config none earlier request)
    (cached : Option DcrDiscoveryMetadata) :
    Permitted environment config cached earlier request := by
  cases h with
  | discovery url hurl => exact .discovery url hurl
  | keys url e response metadata hurl hmem hrequest hresponse hread =>
    exact .keys url e response metadata hurl hmem hrequest hresponse hread
  | registration _ _ hcached => cases hcached
  | token _ _ _ hcached => cases hcached
  | management _ _ _ _ _ hcached => cases hcached

/-- A scenario begins with no request. -/
theorem Disciplined.nil {cached : Option DcrDiscoveryMetadata} :
    Disciplined environment config cached [] := by
  intro earlier e later h
  simp at h

/-- A permitted request may follow. -/
theorem Disciplined.snoc {cached : Option DcrDiscoveryMetadata} {during : List DcrExchange}
    {e : DcrExchange} (h : Disciplined environment config cached during)
    (he : Permitted environment config cached during e.request) :
    Disciplined environment config cached (during ++ [e]) := by
  intro earlier e' later heq
  rcases List.eq_nil_or_concat later with rfl | ⟨later, last, rfl⟩
  · obtain ⟨rfl, hsingle⟩ := List.append_inj' heq rfl
    rw [← List.singleton_inj.mp hsingle]
    exact he
  · rw [List.concat_eq_append, ← List.cons_append, ← List.append_assoc] at heq
    exact h earlier e' later (List.append_inj' heq rfl).1

/-- What was permitted without metadata is permitted with it. -/
theorem Disciplined.cache {during : List DcrExchange}
    (h : Disciplined environment config none during) (cached : Option DcrDiscoveryMetadata) :
    Disciplined environment config cached during :=
  fun earlier e later heq => (h earlier e later heq).cache cached

/-- A request without headers is not the one that was answered last. -/
theorem lastAnswered_metadata {during : List DcrExchange} {e : DcrExchange}
    (h : e.request.headers = []) : lastAnswered (during ++ [e]) = lastAnswered during := by
  simp [lastAnswered, List.filterMap_append, h]

/-- Nor is a request that failed. -/
theorem lastAnswered_failed {during : List DcrExchange} {request : DcrRequest} :
    lastAnswered (during ++ [⟨request, none⟩]) = lastAnswered during := by
  simp [lastAnswered, List.filterMap_append]

/-- Any other request that is answered is. -/
theorem lastAnswered_answered {during : List DcrExchange} {request : DcrRequest}
    (h : request.headers ≠ []) (response : JsonHttpResponse) :
    lastAnswered (during ++ [⟨request, some response⟩]) = some (request, response) := by
  simp [lastAnswered, List.filterMap_append, h]

/-- What was answered last was exchanged. -/
theorem exists_of_lastAnswered {during : List DcrExchange} {request : DcrRequest}
    {response : JsonHttpResponse} (h : lastAnswered during = some (request, response)) :
    (⟨request, some response⟩ : DcrExchange) ∈ during := by
  obtain ⟨e, hmem, he⟩ := List.mem_filterMap.mp (List.mem_of_getLast? h)
  split at he
  · cases he
  · obtain ⟨_, hresponse, heq⟩ := Option.map_eq_some_iff.mp he
    obtain ⟨rfl, rfl⟩ := Prod.mk.inj heq
    rw [← hresponse]
    exact hmem

/-! ## The invariant of a scenario -/

variable (environment config)

/-- Exchanges of a scenario and the metadata cached then. -/
abbrev Moment := List DcrExchange × Option DcrDiscoveryMetadata

/-- What holds of the exchanges of a scenario, the cached metadata and the state, since the
    moment `base`. -/
structure ScenarioInv (base : Moment) (during : List DcrExchange)
    (cached : Option DcrDiscoveryMetadata) (state : DcrScenarioState) : Prop where
  grown : base.1 <+: during
  kept : ∀ discovery, base.2 = some discovery → cached = some discovery
  disciplined : Disciplined environment config cached during
  checked : ∀ discovery, cached = some discovery → Checked environment config discovery
  token : ∀ token, state.clientCredentialsAccessToken = some token →
    token = "" ∨ ∃ discovery, cached = some discovery ∧ Granted discovery during token
  client : ∀ clientId, state.clientId = some clientId →
    Issued environment config during clientId
  management : ∀ url, state.managementUrl = some url → ∃ discovery clientId,
    cached = some discovery ∧ Issued environment config during clientId ∧
      url = managementUrlOf discovery clientId
  last : state.lastResponse = (lastAnswered during).map Prod.snd
  deleted : state.deleted = true → Removed environment config cached during

variable {environment config}

section Invariant

variable {base : Moment} {during : List DcrExchange} {cached : Option DcrDiscoveryMetadata}
  {state : DcrScenarioState}

/-- The invariant holds when a scenario begins. -/
theorem ScenarioInv.start (hchecked : ∀ discovery, cached = some discovery →
    Checked environment config discovery) :
    ScenarioInv environment config ([], cached) [] cached {} where
  grown := List.prefix_refl _
  kept _ heq := heq
  disciplined := .nil
  checked := hchecked
  token := nofun
  client := nofun
  management := nofun
  last := rfl
  deleted := nofun

/-- One more exchange, and what it makes the last response. -/
theorem ScenarioInv.exchanged {e : DcrExchange} {response : Option JsonHttpResponse}
    (h : ScenarioInv environment config base during cached state)
    (he : Permitted environment config cached during e.request)
    (hlast : response = (lastAnswered (during ++ [e])).map Prod.snd) :
    ScenarioInv environment config base (during ++ [e]) cached
      { state with lastResponse := response } where
  grown := h.grown.trans (List.prefix_append _ _)
  kept := h.kept
  disciplined := h.disciplined.snoc he
  checked := h.checked
  token token htoken := by
    rcases h.token token htoken with hempty | ⟨discovery, hcached, hgranted⟩
    · exact .inl hempty
    · exact .inr ⟨discovery, hcached, hgranted.append _⟩
  client clientId hclient := (h.client clientId hclient).append _
  management url hurl := by
    obtain ⟨discovery, clientId, hcached, hissued, heq⟩ := h.management url hurl
    exact ⟨discovery, clientId, hcached, hissued.append _, heq⟩
  last := hlast
  deleted hdeleted := (h.deleted hdeleted).append _

/-- The invariant reads five fields of the state. -/
theorem ScenarioInv.frame {state' : DcrScenarioState}
    (h : ScenarioInv environment config base during cached state)
    (htoken : state'.clientCredentialsAccessToken = state.clientCredentialsAccessToken)
    (hclient : state'.clientId = state.clientId)
    (hmanagement : state'.managementUrl = state.managementUrl)
    (hlast : state'.lastResponse = state.lastResponse)
    (hdeleted : state'.deleted = state.deleted) :
    ScenarioInv environment config base during cached state' where
  grown := h.grown
  kept := h.kept
  disciplined := h.disciplined
  checked := h.checked
  token := by rw [htoken]; exact h.token
  client := by rw [hclient]; exact h.client
  management := by rw [hmanagement]; exact h.management
  last := by rw [hlast]; exact h.last
  deleted := by rw [hdeleted]; exact h.deleted

/-- A metadata document is no response of the scenario. -/
theorem ScenarioInv.metadata {url : String} {response : Option JsonHttpResponse}
    (h : ScenarioInv environment config base during cached state)
    (hrequest : Permitted environment config cached during (metadataRequest url)) :
    ScenarioInv environment config base (during ++ [⟨metadataRequest url, response⟩]) cached
      state :=
  (h.exchanged (e := ⟨metadataRequest url, response⟩) hrequest
    (h.last.trans (congrArg _ (lastAnswered_metadata rfl).symm))).frame rfl rfl rfl rfl rfl

/-- A request without an answer. -/
theorem ScenarioInv.failed {request : DcrRequest}
    (h : ScenarioInv environment config base during cached state)
    (hrequest : Permitted environment config cached during request) :
    ScenarioInv environment config base (during ++ [⟨request, none⟩]) cached state :=
  (h.exchanged (e := ⟨request, none⟩) hrequest
    (h.last.trans (congrArg _ lastAnswered_failed.symm))).frame rfl rfl rfl rfl rfl

/-- An answered request of the scenario. -/
theorem ScenarioInv.answered {request : DcrRequest}
    (h : ScenarioInv environment config base during cached state)
    (hrequest : Permitted environment config cached during request)
    (hheaders : request.headers ≠ []) (response : JsonHttpResponse) :
    ScenarioInv environment config base (during ++ [⟨request, some response⟩]) cached
      { state with lastResponse := some response } :=
  h.exchanged (e := ⟨request, some response⟩) hrequest
    (congrArg (Option.map Prod.snd) (lastAnswered_answered hheaders response).symm)

/-- Metadata is cached once, when nothing was. -/
theorem ScenarioInv.cache {discovery : DcrDiscoveryMetadata}
    (h : ScenarioInv environment config base during none state)
    (hchecked : Checked environment config discovery) :
    ScenarioInv environment config base during (some discovery) state where
  grown := h.grown
  kept _ heq := nomatch h.kept _ heq
  disciplined := h.disciplined.cache _
  checked _ heq := Option.some.inj heq ▸ hchecked
  token token htoken := by
    rcases h.token token htoken with hempty | ⟨_, hcached, -⟩
    · exact .inl hempty
    · cases hcached
  client := h.client
  management url hurl := by
    obtain ⟨_, _, hcached, -⟩ := h.management url hurl
    cases hcached
  last := h.last
  deleted hdeleted := by
    obtain ⟨_, _, _, _, hcached, -⟩ := h.deleted hdeleted
    cases hcached

end Invariant

/-! ## Rules for the effects -/

/-- What the invariant is about, of the values of a running scenario. -/
structure Now (exchanges : List DcrExchange) (cached : Option DcrDiscoveryMetadata)
    (state : DcrScenarioState) (s : DcrWorld environment × DcrScenarioState) : Prop where
  exchanges : s.1.exchanges = exchanges
  discovery : s.1.discovery = cached
  state : s.2 = state

variable (environment config) in
/-- A state of a scenario that began after the exchanges `before`, since the moment `base`. -/
def Safe (before : List DcrExchange) (base : Moment)
    (s : DcrWorld environment × DcrScenarioState) : Prop :=
  ∃ during, s.1.exchanges = before ++ during ∧
    ScenarioInv environment config base during s.1.discovery s.2

variable (environment) in
/-- The states at which the parts of the invariant are known. -/
abbrev At (before during : List DcrExchange) (cached : Option DcrDiscoveryMetadata)
    (state : DcrScenarioState) : DcrWorld environment × DcrScenarioState → Prop :=
  Now (before ++ during) cached state

section Rules

variable {base : Moment} {before during : List DcrExchange} {cached : Option DcrDiscoveryMetadata}
  {state : DcrScenarioState}

/-- The world of now is safe to raise in. -/
theorem Now.safe {s : DcrWorld environment × DcrScenarioState}
    (h : Now (before ++ during) cached state s)
    (hinv : ScenarioInv environment config base during cached state) :
    Safe environment config before base s :=
  ⟨during, h.exchanges, by rw [h.discovery, h.state]; exact hinv⟩

/-- Assigning to the state of the scenario changes nothing else. -/
theorem assign_spec (change : DcrScenarioState → DcrScenarioState) :
    Effect.Spec (At environment before during cached state) (assign change)
      (fun _ => At environment before during cached (change state))
      (Safe environment config before base) :=
  .update fun _ hs => ⟨hs.exchanges, hs.discovery, congrArg change hs.state⟩

variable (hinv : ScenarioInv environment config base during cached state)

include hinv

/-- An outcome leaves the world as it is. -/
theorem of_spec {α : Type} (x : Except PyError α) :
    Effect.Spec (At environment before during cached state) (Effect.of x)
      (fun a s => x = .ok a ∧ At environment before during cached state s)
      (Safe environment config before base) :=
  .of (fun _ _ hx hs => ⟨hx, hs⟩) fun _ hs => hs.safe hinv

omit hinv in
/-- Reading the state of the scenario returns it. -/
theorem scenario_spec : Effect.Spec (At environment before during cached state) scenario
    (fun a s => state = a ∧ At environment before during cached state s)
    (Safe environment config before base) :=
  .reads fun _ hs => ⟨hs.state.symm, hs⟩

omit hinv in
/-- Logging an event leaves the exchanges as they are. -/
theorem logEvent_spec (type : EventType) (stepId : String) (payload : JsonObject) :
    Effect.Spec (At environment before during cached state) (logEvent type stepId payload)
      (fun _ => At environment before during cached state) (Safe environment config before base) :=
  .update fun _ hs => ⟨hs.exchanges, hs.discovery, hs.state⟩

/-- A permitted request that is answered is the next exchange. -/
theorem sendRequest_spec {request : DcrRequest} (allowNonJsonResponse : Bool)
    (hrequest : Permitted environment config cached during request) :
    Effect.Spec (At environment before during cached state)
      (sendRequest request allowNonJsonResponse)
      (fun response =>
        At environment before (during ++ [⟨request, some response⟩]) cached state)
      (Safe environment config before base) := by
  -- answered or not, the request is one more exchange
  have hafter : ∀ (response : Option JsonHttpResponse)
      (s : DcrWorld environment × DcrScenarioState), At environment before during cached state s →
      At environment before (during ++ [⟨request, response⟩]) cached state
        (s.1.exchanged request response, s.2) := by
    intro response s hs
    refine ⟨?_, hs.discovery, hs.state⟩
    rw [← List.append_assoc, ← hs.exchanges]
    rfl
  refine .ofRun ?_ ?_
  · intro s response s' hs hrun
    split at hrun
    · obtain ⟨hresponse, rfl⟩ := Prod.mk.inj hrun
      obtain rfl := Except.ok.inj hresponse
      exact hafter _ s hs
    · cases (Prod.mk.inj hrun).1
    · cases (Prod.mk.inj hrun).1
  · intro s error s' hs hrun
    split at hrun
    · cases (Prod.mk.inj hrun).1
    · obtain ⟨-, rfl⟩ := Prod.mk.inj hrun
      exact (hafter none s hs).safe (hinv.failed hrequest)
    · obtain ⟨-, rfl⟩ := Prod.mk.inj hrun
      exact (hafter none s hs).safe (hinv.failed hrequest)

end Rules

/-! ## Computations without requests -/

variable (config) in
/-- A computation that leaves the exchanges, the metadata and the state of the scenario alone. -/
def Quiet {α : Type} (m : DcrEffect environment α) : Prop :=
  ∀ ⦃base before during cached state⦄, ScenarioInv environment config base during cached state →
    Effect.Spec (At environment before during cached state) m
      (fun _ => At environment before during cached state) (Safe environment config before base)

theorem Quiet.pure {α : Type} (a : α) : Quiet config (pure a : DcrEffect environment α) :=
  fun _ _ _ _ _ _ => .pure fun _ hs => hs

theorem Quiet.of {α : Type} (x : Except PyError α) :
    Quiet config (Effect.of x : DcrEffect environment α) :=
  fun _ _ _ _ _ hinv => (of_spec hinv x).post fun _ _ h => h.2

/-- Asking the outside sends nothing. -/
theorem Quiet.ask {α : Type} (question : environment.Outside → α × environment.Outside) :
    Quiet config (ask question) := by
  intro base before during cached state hinv
  refine .ofRun ?_ ?_
  · intro s a s' hs hrun
    obtain ⟨-, rfl⟩ := Prod.mk.inj hrun
    exact ⟨hs.exchanges, hs.discovery, hs.state⟩
  · intro s e s' hs hrun
    cases (Prod.mk.inj hrun).1

/-- Two computations send nothing when neither does. -/
theorem Quiet.bind {α β : Type} {m : DcrEffect environment α}
    {f : α → DcrEffect environment β} (hm : Quiet config m) (hf : ∀ a, Quiet config (f a)) :
    Quiet config (m >>= f) :=
  fun _ _ _ _ _ hinv => (hm hinv).bind fun a => hf a hinv

theorem Quiet.mapError {α : Type} {m : DcrEffect environment α} (hm : Quiet config m)
    (f : PyError → PyError) : Quiet config (Effect.mapError f m) :=
  fun _ _ _ _ _ hinv => (hm hinv).mapError f

/-- A choice sends nothing when neither branch does. -/
theorem Quiet.elim {α β : Type} {value : Option β} {m : DcrEffect environment α}
    {f : β → DcrEffect environment α} (hm : Quiet config m) (hf : ∀ b, Quiet config (f b)) :
    Quiet config (value.elim m f) := by
  cases value with
  | none => exact hm
  | some b => exact hf b

theorem Quiet.world : Quiet config (world : DcrEffect environment _) :=
  fun _ _ _ _ _ _ => .reads fun _ hs => hs

/-- Remembering the signing key sends nothing. -/
theorem Quiet.rememberKey (key : environment.Key) :
    Quiet config (Effect.update fun s : DcrWorld environment × DcrScenarioState =>
      ({ s.1 with signingKey := some key }, s.2)) :=
  fun _ _ _ _ _ _ => .update fun _ hs => ⟨hs.exchanges, hs.discovery, hs.state⟩

theorem quiet_utcNow : Quiet config (utcNow environment) :=
  (Quiet.ask _).bind fun _ => .of _

theorem quiet_jwtId : Quiet config (jwtId environment) :=
  (Quiet.ask _).bind fun _ => (Quiet.of _).bind fun _ => .pure _

/-- Loading the signing key sends nothing. -/
theorem quiet_loadSigningKey : Quiet config (loadSigningKey environment config) := by
  refine Quiet.world.bind fun current => .elim ?_ fun key => .pure key
  refine (Quiet.of _).bind fun path => (Quiet.ask _).bind fun loaded => ?_
  exact (Quiet.of _).bind fun key => (Quiet.rememberKey key).bind fun _ => .pure key

theorem quiet_readSsa : Quiet config (readSsa environment config) :=
  (Quiet.ask _).bind fun _ => (Quiet.of _).bind fun _ => (Quiet.of _).bind fun _ => .pure _

/-- Reading the certificate sends nothing. -/
theorem quiet_certificateSubjectDn : Quiet config (certificateSubjectDn environment config) := by
  refine .elim ?_ fun override => (Quiet.of _).bind fun _ => .pure override
  refine (Quiet.of _).bind fun path => (Quiet.ask _).bind fun subject => ?_
  exact (Quiet.of _).bind fun value => (Quiet.of _).bind fun _ => .pure value

/-- The claims of an authentication method send nothing. -/
theorem quiet_authMethodClaims (claims : JsonObject) (method : ClientAuthMethod) :
    Quiet config (authMethodClaims environment config claims method) := by
  cases method with
  | tlsClientAuth => exact quiet_certificateSubjectDn.bind fun _ => .pure _
  | privateKeyJwt => exact .pure _
  | clientSecretJwt => exact .pure _
  | clientSecretBasic => exact .pure _

/-- Choosing the key of an assertion sends nothing. -/
theorem quiet_assertionKey (method : ClientAuthMethod) (secret : Option String) :
    Quiet config (assertionKey environment config method secret) := by
  unfold assertionKey
  split
  · exact quiet_loadSigningKey.bind fun _ => .pure _
  · exact (Quiet.of _).bind fun _ => (Quiet.of _).bind fun _ => .pure _

/-! ## Discovery and requests -/

@[simp] theorem orError_eq_ok {α : Type} {value : Option α} {message : String} {a : α} :
    orError value message = .ok a ↔ value = some a := by
  cases value <;> simp [orError, dcrError]

@[simp] theorem refuse_eq_ok {p : Prop} [Decidable p] {message : String} {u : Unit} :
    refuse p message = .ok u ↔ ¬p := Except.raiseIf_eq_ok

section Requests

variable {base : Moment} {before during : List DcrExchange} {cached : Option DcrDiscoveryMetadata}
  {state : DcrScenarioState}

/-- A metadata request that is answered is the next exchange. -/
theorem fetchMetadata_spec (hinv : ScenarioInv environment config base during cached state)
    (stepId : String) {url : String}
    (hrequest : Permitted environment config cached during (metadataRequest url)) :
    Effect.Spec (At environment before during cached state) (fetchMetadata environment stepId url)
      (fun response =>
        At environment before (during ++ [⟨metadataRequest url, some response⟩]) cached state)
      (Safe environment config before base) := by
  refine (logEvent_spec _ _ _).bind fun _ => ?_
  refine (sendRequest_spec hinv false hrequest).bind fun response => ?_
  exact (logEvent_spec _ _ _).bind fun _ => .pure fun _ hs => hs

variable (environment config before base state) in
/-- The metadata is there, after what it took to get it. -/
def Discovered (discovery : DcrDiscoveryMetadata) (s : DcrWorld environment × DcrScenarioState) :
    Prop :=
  ∃ during, ScenarioInv environment config base during (some discovery) state ∧
    At environment before during (some discovery) state s

/-- Fetching the discovery document leaves it cached and checked. -/
theorem fetchDiscovery_spec (hinv : ScenarioInv environment config base during none state)
    (stepId : String) :
    Effect.Spec (At environment before during none state)
      (fetchDiscovery environment config stepId) (Discovered environment config base before state)
      (Safe environment config before base) := by
  refine (of_spec hinv _).bind fun url => .of_fact fun hurl => ?_
  have hurl := orError_eq_ok.mp hurl
  refine (of_spec hinv _).bind fun _ => .of_fact fun _ => ?_
  refine (fetchMetadata_spec hinv stepId (.discovery url hurl)).bind fun response => ?_
  have hinv' : ScenarioInv environment config base
      (during ++ [⟨metadataRequest url, some response⟩]) none state :=
    hinv.metadata (.discovery url hurl)
  refine (of_spec hinv' _).bind fun _ => .of_fact fun _ => ?_
  refine (of_spec hinv' _).bind fun metadata => .of_fact fun hread => ?_
  -- the keys are asked for at the address that the answer names
  have hkeys : Permitted environment config none
      (during ++ [⟨metadataRequest url, some response⟩]) (metadataRequest metadata.jwksUri) :=
    .keys url ⟨metadataRequest url, some response⟩ response metadata hurl
      (List.mem_append_right _ List.mem_cons_self) rfl rfl hread
  refine (fetchMetadata_spec hinv' stepId hkeys).bind fun jwksResponse => ?_
  have hinv'' : ScenarioInv environment config base (during ++
      [⟨metadataRequest url, some response⟩] ++
        [⟨metadataRequest metadata.jwksUri, some jwksResponse⟩]) none state :=
    hinv'.metadata hkeys
  refine (of_spec hinv'' _).bind fun _ => .of_fact fun _ => ?_
  refine (of_spec hinv'' _).bind fun _ => .of_fact fun _ => ?_
  -- the metadata is cached once it has passed the checks
  have hchecked : Checked environment config { metadata with jwks := jwksResponse.body } :=
    ⟨response.body, metadata.jwks, hread⟩
  refine .bind (.update (Q := fun _ => Discovered environment config base before state
    { metadata with jwks := jwksResponse.body }) ?_) fun _ => .pure fun _ hs => hs
  intro s hs
  exact ⟨_, hinv''.cache hchecked, hs.exchanges, rfl, hs.state⟩

/-- Metadata that is cached is returned. -/
theorem requireDiscovery_cached {discovery : DcrDiscoveryMetadata} (stepId : String) :
    Effect.Spec (At environment before during (some discovery) state)
      (requireDiscovery environment config stepId)
      (fun found s => discovery = found ∧ At environment before during (some discovery) state s)
      (Safe environment config before base) := by
  refine .bind (.reads (Q := fun current s => current.discovery = some discovery ∧
    At environment before during (some discovery) state s) fun s hs => ⟨hs.discovery, hs⟩)
    fun current => .of_fact fun hcurrent => ?_
  rw [hcurrent]
  exact .pure fun s hs => ⟨rfl, hs⟩

/-- The discovery document that a step requires is cached and checked. -/
theorem requireDiscovery_spec (hinv : ScenarioInv environment config base during cached state)
    (stepId : String) :
    Effect.Spec (At environment before during cached state)
      (requireDiscovery environment config stepId) (Discovered environment config base before state)
      (Safe environment config before base) := by
  cases cached with
  | some discovery =>
    exact (requireDiscovery_cached stepId).post fun _ s hs => hs.1 ▸ ⟨during, hinv, hs.2⟩
  | none =>
    refine .bind (.reads (Q := fun current s => current.discovery = none ∧
      At environment before during none state s) fun s hs => ⟨hs.discovery, hs⟩) fun current =>
      .of_fact fun hcurrent => ?_
    rw [hcurrent]
    exact fetchDiscovery_spec hinv stepId

/-- A permitted request of a step that is answered is the next exchange. -/
theorem send_spec (hinv : ScenarioInv environment config base during cached state)
    (step : CatalogueExecutionStep) {request : DcrRequest}
    (hrequest : Permitted environment config cached during request) :
    Effect.Spec (At environment before during cached state) (send environment step request)
      (fun answer => At environment before (during ++ [⟨request, some answer.1⟩]) cached state)
      (Safe environment config before base) := by
  refine (of_spec hinv _).bind fun _ => .of_fact fun _ => ?_
  refine (logEvent_spec _ _ _).bind fun _ => ?_
  refine (sendRequest_spec hinv true hrequest).bind fun response => ?_
  exact (logEvent_spec _ _ _).bind fun _ => .pure fun _ hs => hs

variable (environment config) in
/-- The request of a management step. -/
def IsManagementRequest (discovery : DcrDiscoveryMetadata) (during : List DcrExchange)
    (method : HttpMethod) (request : DcrRequest) : Prop :=
  request.method = method ∧ request.headers ≠ [] ∧
    ∃ clientId, Issued environment config during clientId ∧
      request.url = managementUrlOf discovery clientId

/-- A management request goes out when its URL and its token are there. -/
theorem managementRequest_spec (hinv : ScenarioInv environment config base during cached state)
    (step : CatalogueExecutionStep) {method : HttpMethod}
    (hmethod : method ∈ [HttpMethod.get, .put, .delete]) (rawBody : Option String) :
    Effect.Spec (At environment before during cached state)
      (managementRequest environment step method rawBody)
      (fun answer s => ∃ request discovery,
        (cached = some discovery ∧ Permitted environment config cached during request ∧
          IsManagementRequest environment config discovery during method request) ∧
        At environment before (during ++ [⟨request, some answer.1⟩]) cached state s)
      (Safe environment config before base) := by
  refine scenario_spec.bind fun _ => .of_fact fun hstate => ?_
  subst hstate
  refine (of_spec hinv _).bind fun url => .of_fact fun hurl => ?_
  refine (of_spec hinv _).bind fun token => .of_fact fun htoken => ?_
  obtain ⟨discovery, clientId, hcached, hissued, rfl⟩ :=
    hinv.management url (Option.filter_eq_some_iff.mp (orError_eq_ok.mp hurl)).1
  have hgranted : token = "" ∨ Granted discovery during token := by
    rcases hinv.token token (orError_eq_ok.mp htoken) with hempty | ⟨_, hcached', hgranted⟩
    · exact .inl hempty
    · obtain rfl := Option.some.inj (hcached.symm.trans hcached')
      exact .inr hgranted
  have hrequest : Permitted environment config cached during _ :=
    .management discovery clientId token method rawBody hcached hissued hgranted hmethod
  refine (send_spec hinv step hrequest).post fun answer s hs =>
    ⟨_, discovery, ⟨hcached, hrequest, ?_⟩, hs⟩
  exact ⟨rfl, List.cons_ne_nil _ _, clientId, hissued, rfl⟩

end Requests

end Conformance.DcrExecution
