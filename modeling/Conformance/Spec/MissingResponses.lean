import Conformance.Spec.StepContexts

/-!
# Missing responses

A step that refers to a response or a token which an earlier step failed to produce
is skipped: it sends nothing and is recorded without a response, so that the steps
that refer to it are skipped as well.

## Key results

- `executeV1Step_awaits`: a step that waits in vain is skipped
- `missing_responses_skip`: along a chain of references the first failure skips the rest
-/

namespace Conformance

open Except

/-! ## References that wait -/

/-- The token refers to the response of a step. -/
def RefersToResponse (token : List Char) (stepId : String) : Prop :=
  ∃ field path,
    (tokenSegments token).map String.ofList = "steps" :: stepId :: "response" :: field :: path

/-- The token refers to a recorded token. -/
def RefersToToken (token : List Char) (tokenId : String) : Prop :=
  ∃ field, (tokenSegments token).map String.ofList = ["tokens", tokenId, field]

/-- The token refers to a step that is recorded without a response, or to a token that was
    never recorded. -/
def WaitsFor (context : ExecutionContext) (token : List Char) : Prop :=
  (∃ stepId record, RefersToResponse token stepId ∧ context.steps.get? stepId = some record ∧
    record.response = none) ∨
  ∃ tokenId, RefersToToken token tokenId ∧ context.tokens.get? tokenId = none

/-- A `MissingPredecessorResponseError`. -/
def PlaceholderError.IsMissing (error : PlaceholderError) : Prop :=
  ∃ message, error = .missingPredecessor message

section Resolution

variable {pyStr : Json → String} {context : ExecutionContext}

/-- A token that waits is missing its predecessor. -/
theorem resolveDotPath_waitsFor {token : List Char} (h : WaitsFor context token) :
    ∃ raised, resolveDotPath pyStr token context = .error raised ∧ raised.IsMissing := by
  rcases h with ⟨stepId, record, ⟨field, path, hsegments⟩, hrecord, hresponse⟩ |
    ⟨tokenId, ⟨field, hsegments⟩, htoken⟩
  · refine ⟨.missingPredecessor s!"Step '{stepId}' has no response (request may have failed)", ?_,
      _, rfl⟩
    simp only [resolveDotPath, hsegments, resolveStepPath, hrecord]
    rw [if_neg (by decide), if_pos trivial, hresponse]
  · refine ⟨.missingPredecessor s!"Token '{tokenId}' not found in execution context", ?_, _, rfl⟩
    simp only [resolveDotPath, hsegments, resolveTokenPath, htoken]

/-- Every token of a text resolves or waits. -/
def FailsOnlyWaiting (pyStr : Json → String) (context : ExecutionContext) (template : String) :
    Prop :=
  ∀ token ∈ placeholderTokens template, ∀ raised,
    resolveDotPath pyStr token context = .error raised → WaitsFor context token

/-- A computation that raises nothing but a missing predecessor, and does so if it has a
    reason to. -/
structure FailsMissing {α : Type} (reason : Prop) (x : Except PlaceholderError α) : Prop where
  raises : RaisesOnly PlaceholderError.IsMissing x
  fails : reason → ∃ raised, x = .error raised

theorem FailsMissing.ok {α : Type} {reason : Prop} (hreason : ¬ reason) (a : α) :
    FailsMissing reason (.ok a : Except PlaceholderError α) :=
  ⟨.ok a, fun h => absurd h hreason⟩

/-- One reason after the other. -/
theorem FailsMissing.bind {α β : Type} {first second : Prop} {x : Except PlaceholderError α}
    {f : α → Except PlaceholderError β} (hx : FailsMissing first x)
    (hf : ∀ a, x = .ok a → FailsMissing second (f a)) :
    FailsMissing (first ∨ second) (x >>= f) := by
  refine ⟨.bind hx.raises fun a ha => (hf a ha).raises, fun hreason => ?_⟩
  cases hvalue : x with
  | error raised => exact ⟨raised, rfl⟩
  | ok a =>
    rcases hreason with hfirst | hsecond
    · obtain ⟨raised, hraised⟩ := hx.fails hfirst
      rw [hvalue] at hraised
      cases hraised
    · exact (hf a hvalue).fails hsecond

theorem FailsMissing.imp {α : Type} {reason reason' : Prop} {x : Except PlaceholderError α}
    (h : FailsMissing reason x) (himp : reason' → reason) : FailsMissing reason' x :=
  ⟨h.raises, fun hreason => h.fails (himp hreason)⟩

/-- What follows a computation does not remove its failure. -/
theorem FailsMissing.map {α β : Type} {reason : Prop} {x : Except PlaceholderError α}
    {f : α → β} (hx : FailsMissing reason x) : FailsMissing reason (x >>= fun a => .ok (f a)) :=
  (hx.bind fun a _ => FailsMissing.ok not_false (f a)).imp .inl

/-- A substitution fails if one of its tokens waits. -/
theorem substituteTokens_failsMissing (inside : Option (List Char)) (cs : List Char)
    (hwaiting : ∀ token ∈ scanTokens inside cs, ∀ raised,
      resolveDotPath pyStr token context = .error raised → WaitsFor context token) :
    FailsMissing (∃ token ∈ scanTokens inside cs, WaitsFor context token)
      (substituteTokens pyStr context inside cs) := by
  induction inside, cs using substituteTokens.induct with
  | case1 inside => exact .ok (by simp [scanTokens]) _
  | case2 rest token ih =>
    rw [scanTokens, if_pos rfl, List.forall_mem_cons] at hwaiting
    rw [scanTokens, if_pos rfl, substituteTokens, if_pos rfl]
    have hhead : FailsMissing (WaitsFor context token.reverse)
        (resolveDotPath pyStr token.reverse context) := by
      refine ⟨fun raised hraised => ?_, fun hwaits => ?_⟩
      · obtain ⟨_, hmissing, hisMissing⟩ := resolveDotPath_waitsFor (hwaiting.1 raised hraised)
        rw [hraised] at hmissing
        exact Except.error.inj hmissing ▸ hisMissing
      · obtain ⟨raised, hraised, -⟩ := resolveDotPath_waitsFor hwaits
        exact ⟨raised, hraised⟩
    refine (hhead.bind fun value _ => (ih hwaiting.2).map).imp ?_
    rintro ⟨waiting, hmem, hwaits⟩
    rcases List.mem_cons.mp hmem with rfl | hmem
    · exact .inl hwaits
    · exact .inr ⟨waiting, hmem, hwaits⟩
  | case3 c rest token hc ih =>
    rw [scanTokens, if_neg hc] at hwaiting
    rw [scanTokens, if_neg hc, substituteTokens, if_neg hc]
    exact ih hwaiting
  | case4 c hc => exact absurd hc.2 (by simp)
  | case5 c opening rest hc ih =>
    unfold scanTokens at hwaiting
    unfold scanTokens substituteTokens
    rw [if_pos hc] at hwaiting
    rw [if_pos hc, if_pos hc]
    exact ih hwaiting
  | case6 c rest hc ih =>
    unfold scanTokens at hwaiting
    unfold scanTokens substituteTokens
    rw [if_neg hc] at hwaiting
    rw [if_neg hc, if_neg hc]
    exact (ih hwaiting).map

/-- A template that waits in one of its tokens. -/
def TemplateWaits (context : ExecutionContext) (template : String) : Prop :=
  ∃ token ∈ placeholderTokens template, WaitsFor context token

/-- A text without openings has no tokens. -/
private theorem scanTokens_of_countOpenings {cs : List Char} (h : countOpenings cs = 0) :
    scanTokens none cs = [] := by
  induction cs with
  | nil => rfl
  | cons c rest ih =>
    rw [countOpenings, Nat.add_eq_zero_iff] at h
    have hopen : ¬ (c = '$' ∧ rest.head? = some '{') := by
      intro hopen
      rw [if_pos hopen] at h
      exact absurd h.1 (by decide)
    unfold scanTokens
    rw [if_neg hopen]
    exact ih h.2

/-- Resolving a well-formed template fails, for a missing predecessor, if it waits. -/
theorem resolvePlaceholders_failsMissing {template : String}
    (hsyntaxOk : validateTemplate template.toList = .ok ())
    (hwaiting : FailsOnlyWaiting pyStr context template) :
    FailsMissing (TemplateWaits context template)
      (resolvePlaceholders pyStr template context) := by
  unfold resolvePlaceholders
  split
  · rename_i hnone
    refine .ok ?_ _
    rintro ⟨token, htoken, -⟩
    rw [placeholderTokens, scanTokens_of_countOpenings hnone] at htoken
    cases htoken
  · rw [hsyntaxOk]
    exact (substituteTokens_failsMissing none _ hwaiting).map

/-- Texts that are well formed and fail only by waiting. -/
def Undisturbed (pyStr : Json → String) (context : ExecutionContext) (texts : List String) : Prop :=
  ∀ text ∈ texts, validateTemplate text.toList = .ok () ∧ FailsOnlyWaiting pyStr context text

/-- Some text waits. -/
def SomeWaits (context : ExecutionContext) (texts : List String) : Prop :=
  ∃ text ∈ texts, TemplateWaits context text

private theorem someWaits_append {first second : List String} :
    SomeWaits context (first ++ second) ↔ SomeWaits context first ∨ SomeWaits context second := by
  simp only [SomeWaits, List.mem_append, or_and_right, exists_or]

mutual

/-- Resolving a value fails if one of its texts waits. -/
theorem resolveInStructure_failsMissing :
    ∀ {value : Json}, Undisturbed pyStr context (jsonTexts value) →
      FailsMissing (SomeWaits context (jsonTexts value)) (resolveInStructure pyStr context value)
  | .str text, h => by
    rw [jsonTexts] at h ⊢
    rw [resolveInStructure]
    obtain ⟨hsyntaxOk, hwaiting⟩ := h text (List.mem_singleton_self text)
    refine ((resolvePlaceholders_failsMissing hsyntaxOk hwaiting).map).imp ?_
    rintro ⟨_, hmem, hwaits⟩
    exact List.mem_singleton.mp hmem ▸ hwaits
  | .obj fields, h => by
    rw [jsonTexts] at h ⊢
    rw [resolveInStructure]
    exact (resolveInFields_failsMissing h).map
  | .arr items, h => by
    rw [jsonTexts] at h ⊢
    rw [resolveInStructure]
    exact (resolveInItems_failsMissing h).map
  | .null, _ => .ok (by simp [SomeWaits, jsonTexts]) _
  | .bool _, _ => .ok (by simp [SomeWaits, jsonTexts]) _
  | .int _, _ => .ok (by simp [SomeWaits, jsonTexts]) _
  | .float _, _ => .ok (by simp [SomeWaits, jsonTexts]) _

/-- Resolving members fails if one of their texts waits. -/
theorem resolveInFields_failsMissing :
    ∀ {fields : List (String × Json)}, Undisturbed pyStr context (fieldTexts fields) →
      FailsMissing (SomeWaits context (fieldTexts fields)) (resolveInFields pyStr context fields)
  | [], _ => .ok (by simp [SomeWaits, fieldTexts]) _
  | (_, _) :: _, h => by
    rw [fieldTexts] at h ⊢
    obtain ⟨hchild, hrest⟩ := List.forall_mem_append.mp h
    rw [resolveInFields, someWaits_append]
    exact (resolveInStructure_failsMissing hchild).bind fun _ _ =>
      (resolveInFields_failsMissing hrest).map

/-- Resolving items fails if one of their texts waits. -/
theorem resolveInItems_failsMissing :
    ∀ {items : List Json}, Undisturbed pyStr context (itemTexts items) →
      FailsMissing (SomeWaits context (itemTexts items)) (resolveInItems pyStr context items)
  | [], _ => .ok (by simp [SomeWaits, itemTexts]) _
  | _ :: _, h => by
    rw [itemTexts] at h ⊢
    obtain ⟨hchild, hrest⟩ := List.forall_mem_append.mp h
    rw [resolveInItems, someWaits_append]
    exact (resolveInStructure_failsMissing hchild).bind fun _ _ =>
      (resolveInItems_failsMissing hrest).map

end

end Resolution

/-! ## Steps that wait -/

section Steps

variable {external : ExternalParsers} {transport : StepTransport external}
  {context : ExecutionContext}

/-- Resolving a mapping fails if one of its values waits. -/
theorem resolveMapping_failsMissing {fields : List (String × String)}
    (h : Undisturbed transport.pyStr context (fields.map Prod.snd)) :
    FailsMissing (SomeWaits context (fields.map Prod.snd))
      (resolveMapping transport fields context) := by
  unfold resolveMapping
  induction fields with
  | nil => exact .ok (by simp [SomeWaits]) _
  | cons field rest ih =>
    rw [List.map_cons] at h
    obtain ⟨⟨hsyntaxOk, hwaiting⟩, hrest⟩ := List.forall_mem_cons.mp h
    rw [List.mapM_cons]
    refine (((resolvePlaceholders_failsMissing hsyntaxOk hwaiting).map).bind fun _ _ =>
      (ih hrest).map).imp ?_
    rintro ⟨text, htext, hwaits⟩
    rcases List.mem_cons.mp htext with rfl | htext
    · exact .inl hwaits
    · exact .inr ⟨text, htext, hwaits⟩

/-- Resolving headers fails if one of their values waits. -/
theorem resolveHeaders_failsMissing {headers : Option (List (String × String))}
    (h : Undisturbed transport.pyStr context ((headers.getD []).map Prod.snd)) :
    FailsMissing (SomeWaits context ((headers.getD []).map Prod.snd))
      (resolveHeaders transport headers context) := by
  cases headers with
  | none => exact .ok (by simp [SomeWaits]) _
  | some headers => exact (resolveMapping_failsMissing h).map

/-- Resolving a body fails if one of its texts waits. -/
theorem resolveBody_failsMissing {body : Option ManifestBody}
    (h : Undisturbed transport.pyStr context ((body.map (·.texts)).getD [])) :
    FailsMissing (SomeWaits context ((body.map (·.texts)).getD []))
      (resolveBody transport body context) := by
  cases body with
  | none => exact .ok (by simp [SomeWaits]) _
  | some body =>
    cases body with
    | json value => exact (resolveInStructure_failsMissing h).map
    | form fields => exact (resolveMapping_failsMissing h).map

/-- The header values that resolve may be sent. -/
def HeadersResolveValid (transport : StepTransport external) (request : ManifestRequest)
    (context : ExecutionContext) : Prop :=
  ∀ header ∈ request.headers.getD [], ∀ value,
    resolvePlaceholders transport.pyStr header.2 context = .ok value →
    ∀ location, validateHeaderValue value location = .ok ()

/-- The step is skipped: nothing is sent, and it is recorded without a response. -/
def IsSkipped (transport : StepTransport external)
    (manifestStep : ManifestStep (requestParsers external)) (context : ExecutionContext)
    (world : transport.World) : Prop :=
  ∃ outcome request, executeV1Step transport manifestStep context world =
      (.ok (outcome, recordStep context manifestStep.id request none), world) ∧
    outcome.status = .skipped

/-- A step whose predecessor is missing is skipped, and records its request. -/
private theorem returnUnresolved_isMissing {stepId method url : String} {evidence : JsonObject}
    {raised : PlaceholderError} (h : raised.IsMissing) :
    ∃ outcome request, returnUnresolved context stepId method url evidence raised =
      .ok (outcome, recordStep context stepId request none) ∧ outcome.status = .skipped := by
  obtain ⟨message, rfl⟩ := h
  exact ⟨_, _, rfl, rfl⟩

/-- Resolved headers pass their check. -/
private theorem forM_checkResolvedHeader_ok {request : ManifestRequest}
    {headers : Option (List (String × String))}
    (hheaders : HeadersResolveValid transport request context)
    (h : resolveHeaders transport request.headers context = .ok headers)
    (stepId method url : String) (evidence : JsonObject) :
    (headers.getD []).forM (checkResolvedHeader context stepId method url evidence) = .ok () := by
  refine List.forM_eq_ok.mpr fun header hheader => ?_
  suffices hvalid : ∀ location, validateHeaderValue header.2 location = .ok () by
    rw [checkResolvedHeader, hvalid]
  cases hgiven : request.headers with
  | none =>
    rw [hgiven] at h
    rw [← Except.ok.inj h] at hheader
    cases hheader
  | some given =>
    rw [hgiven] at h
    obtain ⟨resolved, hmapping, hreturn⟩ := bind_eq_ok.mp h
    rw [← Except.ok.inj hreturn] at hheader
    obtain ⟨source, hsource, hfield⟩ := (List.mapM_eq_ok.mp hmapping).exists_of_mem_right hheader
    obtain ⟨value, hvalue, hpair⟩ := bind_eq_ok.mp hfield
    rw [← Except.ok.inj hpair]
    exact hheaders source (by rw [hgiven]; exact hsource) value hvalue

/-- A step of which one text waits and no text fails otherwise is skipped. -/
theorem executeV1Step_awaits {manifestStep : ManifestStep (requestParsers external)}
    (hundisturbed : Undisturbed transport.pyStr context
      (ManifestRequest.templates manifestStep.request))
    (hheaders : HeadersResolveValid transport manifestStep.request context)
    (hwaits : SomeWaits context (ManifestRequest.templates manifestStep.request))
    (world : transport.World) : IsSkipped transport manifestStep context world := by
  suffices hprepare : ∃ returned, prepareRequest transport manifestStep context = .error returned ∧
      ∃ outcome request, returned =
        .ok (outcome, recordStep context manifestStep.id request none) ∧
        outcome.status = .skipped by
    obtain ⟨_, hprepare, outcome, request, rfl, hskipped⟩ := hprepare
    refine ⟨outcome, request, ?_, hskipped⟩
    rw [executeV1Step, hprepare]
  obtain ⟨hurlHeaders, hbody⟩ := List.forall_mem_append.mp hundisturbed
  obtain ⟨⟨hurlSyntax, hurlWaiting⟩, hheaderTexts⟩ := List.forall_mem_cons.mp hurlHeaders
  have hurlFails := resolvePlaceholders_failsMissing hurlSyntax hurlWaiting
  have hheadersFails := resolveHeaders_failsMissing hheaderTexts
  have hbodyFails := resolveBody_failsMissing hbody
  unfold prepareRequest
  simp only
  cases hurl : resolvePlaceholders transport.pyStr
      (manifestStep.request : ManifestRequest).url context with
  | error raised =>
    exact ⟨_, rfl, returnUnresolved_isMissing (hurlFails.raises raised hurl)⟩
  | ok url =>
    simp only [orReturn, bind, Except.bind]
    cases hresolved : resolveHeaders transport
        (manifestStep.request : ManifestRequest).headers context with
    | error raised =>
      exact ⟨_, rfl, returnUnresolved_isMissing (hheadersFails.raises raised hresolved)⟩
    | ok headers =>
      simp only
      -- neither the URL nor a header waits, so the body does
      have hbodyWaits : SomeWaits context
          (((manifestStep.request : ManifestRequest).body.map (·.texts)).getD []) := by
        rcases someWaits_append.mp hwaits with hwaits | hwaits
        · exfalso
          obtain ⟨text, htext, hwaits⟩ := hwaits
          rcases List.mem_cons.mp htext with rfl | htext
          · obtain ⟨_, hraised⟩ := hurlFails.fails hwaits
            rw [hurl] at hraised
            cases hraised
          · obtain ⟨_, hraised⟩ := hheadersFails.fails ⟨text, htext, hwaits⟩
            rw [hresolved] at hraised
            cases hraised
        · exact hwaits
      obtain ⟨raised, hraised⟩ := hbodyFails.fails hbodyWaits
      rw [forM_checkResolvedHeader_ok hheaders hresolved]
      simp only [hraised]
      exact ⟨_, rfl, returnUnresolved_isMissing (hbodyFails.raises raised hraised)⟩

end Steps

/-! ## Chains of references -/

section Chains

variable {external : ExternalParsers} {transport : StepTransport external}
  {config : Option RuntimeConfig} {manifest : Manifest (requestParsers external)}

/-- The later step refers to the response of the earlier one, or to a token that no other
    step produces. -/
def DependsOn (manifest : Manifest (requestParsers external))
    (earlier later : ManifestStep (requestParsers external)) : Prop :=
  ∃ template ∈ ManifestRequest.templates later.request, ∃ token ∈ placeholderTokens template,
    RefersToResponse token earlier.id ∨
      ∃ tokenId, RefersToToken token tokenId ∧
        ∀ step ∈ manifest.steps, step.producesTokenId = some tokenId → step.id = earlier.id

/-- Nothing that a step produces is in the context. -/
def Unproductive (manifest : Manifest (requestParsers external))
    (manifestStep : ManifestStep (requestParsers external)) (context : ExecutionContext) : Prop :=
  (∀ record, context.steps.get? manifestStep.id = some record → record.response = none) ∧
    ∀ tokenId, (∀ step ∈ manifest.steps, step.producesTokenId = some tokenId →
      step.id = manifestStep.id) → context.tokens.get? tokenId = none

/-- A step keeps what another step has not produced. -/
theorem Unproductive.records_other {manifestStep : ManifestStep (requestParsers external)}
    {step : V1Step (requestParsers external)} {context context' : ExecutionContext}
    {record : StepRecord} (h : Unproductive manifest manifestStep context)
    (hstep : step ∈ manifest.steps) (hne : step.id ≠ manifestStep.id)
    (hrecords : Records step context context' record) :
    Unproductive manifest manifestStep context' := by
  refine ⟨fun other hother => ?_, fun tokenId hproducers => ?_⟩
  · rw [hrecords.steps, Dict.get?_set, if_neg (Ne.symm hne)] at hother
    exact h.1 other hother
  · rcases hrecords.tokens with htokens | ⟨produced, accessToken, hproduces, -, htokens⟩
    · rw [htokens]
      exact h.2 tokenId hproducers
    · rw [htokens, Dict.get?_set, if_neg]
      · exact h.2 tokenId hproducers
      · rintro rfl
        exact hne (hproducers step hstep hproduces)

/-- A step that ends without a response produces nothing. -/
theorem Unproductive.records_self {manifestStep : ManifestStep (requestParsers external)}
    {context context' : ExecutionContext} {record : StepRecord}
    (h : Unproductive manifest manifestStep context) (hresponse : record.response = none)
    (hrecords : Records (.http manifestStep) context context' record) :
    Unproductive manifest manifestStep context' := by
  refine ⟨fun other hother => ?_, fun tokenId hproducers => ?_⟩
  · rw [hrecords.steps, V1Step.id, Dict.get?_set, if_pos rfl] at hother
    rw [← Option.some.inj hother]
    exact hresponse
  · rcases hrecords.tokens with htokens | ⟨_, _, _, hanswered, _⟩
    · rw [htokens]
      exact h.2 tokenId hproducers
    · exact absurd hresponse hanswered

/-- A step whose predecessor has produced nothing waits. -/
theorem someWaits_of_dependsOn {earlier later : ManifestStep (requestParsers external)}
    {context : ExecutionContext} (hdepends : DependsOn manifest earlier later)
    (hearlier : Unproductive manifest earlier context)
    (hundisturbed : Undisturbed transport.pyStr context
      (ManifestRequest.templates later.request)) :
    SomeWaits context (ManifestRequest.templates later.request) := by
  obtain ⟨template, htemplate, token, htoken, hrefers⟩ := hdepends
  refine ⟨template, htemplate, token, htoken, ?_⟩
  rcases hrefers with hresponse | ⟨tokenId, hrefers, hproducers⟩
  · cases hrecord : context.steps.get? earlier.id with
    | some record => exact .inl ⟨earlier.id, record, hresponse, hrecord, hearlier.1 record hrecord⟩
    | none =>
      -- an unknown step is a failure, and the only failures are those of waiting
      obtain ⟨field, path, hsegments⟩ := hresponse
      refine (hundisturbed template htemplate).2 token htoken (.unknownStep earlier.id) ?_
      simp only [resolveDotPath, hsegments, resolveStepPath, hrecord]
  · exact .inr ⟨tokenId, hrefers, hearlier.2 tokenId hproducers⟩

/-- Each later member of a chain has one before it. -/
private theorem exists_predecessor {α : Type} {R : α → α → Prop} {first : α} {later : List α}
    (h : List.IsChain R (first :: later)) {b : α} (hb : b ∈ later) :
    ∃ a ∈ first :: later, R a b := by
  induction later generalizing first with
  | nil => cases hb
  | cons second rest ih =>
    rw [List.isChain_cons_cons] at h
    rcases List.mem_cons.mp hb with rfl | hb
    · exact ⟨first, List.mem_cons_self, h.1⟩
    · obtain ⟨a, ha, hR⟩ := ih h.2 hb
      exact ⟨a, List.mem_cons_of_mem _ ha, hR⟩

/-- The response that an HTTP step is recorded with, from what the step returns. -/
private theorem executeSharedStep_http {manifestStep : ManifestStep (requestParsers external)}
    {context context' : ExecutionContext} {world world' : transport.World} {result : StepResult}
    (h : executeSharedStep (manifestExecutor transport config) (.http manifestStep) context world =
      (.ok (result, context'), world')) :
    ∃ outcome, executeV1Step transport manifestStep context world =
      (.ok (outcome, context'), world') := by
  have hdispatch : dispatchSharedStep (manifestExecutor transport config) (.http manifestStep)
      context world = executeV1Step transport manifestStep context world := rfl
  unfold executeSharedStep at h
  rw [hdispatch] at h
  cases hreturned : executeV1Step transport manifestStep context world with
  | mk returned newWorld =>
    rw [hreturned] at h
    obtain ⟨hreturn, rfl⟩ := Prod.mk.inj h
    cases returned with
    | error raised => cases hreturn
    | ok value =>
      obtain ⟨-, rfl⟩ := Prod.mk.inj (Except.ok.inj hreturn)
      exact ⟨value.1, rfl⟩

/-- A step that waits for a response that an earlier step was recorded without, or for a
    token that was never recorded, is skipped: it sends nothing and is recorded without a
    response. Hence in every run, if the first step of a chain of references ends without a
    response, every later step of the chain that is executed is skipped. -/
theorem missing_responses_skip (transport : StepTransport external) (config : Option RuntimeConfig)
    {payload : JsonObject} {manifest : Manifest (requestParsers external)}
    (hparse : parseManifest (requestParsers external) payload = .ok manifest) (plan : TestPlan)
    (world : transport.World) (setupOrder groupOrder : List Nat) :
    (∀ (manifestStep : ManifestStep (requestParsers external)) (context : ExecutionContext)
        (stepWorld : transport.World),
      Undisturbed transport.pyStr context (ManifestRequest.templates manifestStep.request) →
      HeadersResolveValid transport manifestStep.request context →
      SomeWaits context (ManifestRequest.templates manifestStep.request) →
      IsSkipped transport manifestStep context stepWorld) ∧
    ∀ (first : ManifestStep (requestParsers external))
        (later : List (ManifestStep (requestParsers external))),
      (∀ manifestStep ∈ first :: later, V1Step.http manifestStep ∈ manifest.steps) →
      List.IsChain (DependsOn manifest) (first :: later) →
      (∀ context stepWorld outcome context' world',
        Executes (manifestExecutor transport config) manifest plan world setupOrder groupOrder
          (.http first) context stepWorld →
        executeV1Step transport first context stepWorld = (.ok (outcome, context'), world') →
        ∃ record, context'.steps.get? first.id = some record ∧ record.response = none) →
      (∀ manifestStep ∈ later, ∀ context stepWorld,
        Executes (manifestExecutor transport config) manifest plan world setupOrder groupOrder
          (.http manifestStep) context stepWorld →
        Undisturbed transport.pyStr context (ManifestRequest.templates manifestStep.request) ∧
          HeadersResolveValid transport manifestStep.request context) →
      ∀ manifestStep ∈ later, ∀ context stepWorld,
        Executes (manifestExecutor transport config) manifest plan world setupOrder groupOrder
          (.http manifestStep) context stepWorld →
        IsSkipped transport manifestStep context stepWorld := by
  refine ⟨fun manifestStep context stepWorld hundisturbed hheaders hwaits =>
    executeV1Step_awaits hundisturbed hheaders hwaits stepWorld, ?_⟩
  intro first later hmem hchain hfirst hlater
  have hskips : ∀ manifestStep ∈ later, ∀ context stepWorld,
      Executes (manifestExecutor transport config) manifest plan world setupOrder groupOrder
        (.http manifestStep) context stepWorld →
      (∀ manifestStep ∈ first :: later, Unproductive manifest manifestStep context) →
      IsSkipped transport manifestStep context stepWorld := by
    intro manifestStep hstep context stepWorld hexecutes hcontext
    obtain ⟨hundisturbed, hheaders⟩ := hlater manifestStep hstep context stepWorld hexecutes
    obtain ⟨earlier, hearlier, hdepends⟩ := exists_predecessor hchain hstep
    exact executeV1Step_awaits hundisturbed hheaders
      (someWaits_of_dependsOn hdepends (hcontext earlier hearlier) hundisturbed) stepWorld
  intro manifestStep hstep context stepWorld hexecutes
  refine hskips manifestStep hstep context stepWorld hexecutes ?_
  have hids := parseManifest_wellFormedIds hparse (executes_v1 hexecutes)
  -- along the run no step of the chain produces anything
  refine executes_context_induction (P := fun context =>
    ∀ manifestStep ∈ first :: later, Unproductive manifest manifestStep context) ?_ ?_ hexecutes
  · intro _ _
    exact ⟨fun _ hrecord => (by cases hrecord), fun _ _ => rfl⟩
  · intro step context stepWorld result context' world' hexecutes hcontext hexecute member hmember
    obtain ⟨record, hrecords⟩ := executeSharedStep_records hexecute
    have hstep := (executes_keys hids hexecutes).1
    -- the step is a member of the chain, or it leaves the member's record alone
    by_cases hid : step.id = member.id
    · obtain rfl := List.inj_on_of_nodup_map hids.nodup hstep (hmem member hmember) hid
      obtain ⟨outcome, hreturned⟩ := executeSharedStep_http hexecute
      have hget : context'.steps.get? member.id = some record := by
        rw [hrecords.steps, V1Step.id, Dict.get?_set, if_pos rfl]
      -- the first member has no response by assumption, a later one because it is skipped
      have hresponse : record.response = none := by
        rcases List.mem_cons.mp hmember with rfl | hlaterMember
        · obtain ⟨other, hother, hnone⟩ := hfirst _ _ _ _ _ hexecutes hreturned
          rw [hget] at hother
          rw [Option.some.inj hother]
          exact hnone
        · obtain ⟨_, request, hskipped, -⟩ := hskips member hlaterMember _ _ hexecutes hcontext
          rw [hreturned] at hskipped
          rw [(Prod.mk.inj (Except.ok.inj (Prod.mk.inj hskipped).1)).2] at hget
          have hrecorded : (recordStep context member.id request none).steps.get? member.id =
              some ⟨request, none⟩ := by simp [recordStep]
          rw [← Option.some.inj (hrecorded.symm.trans hget)]
      exact (hcontext member hmember).records_self hresponse hrecords
    · exact (hcontext member hmember).records_other hstep hid hrecords

end Chains

/-! ## A chain of two steps -/

/-- A bank that cannot be reached. -/
def unreachableTransport : StepTransport literalParsers :=
  { followUpTransport with
    exchange := fun _ _ _ _ _ _ world =>
      (.ok (.failed ⟨.failed, "HTTP request failed", none, none, []⟩), world) }

/-- A request that is sent as it stands, parsed. -/
def sourceStep : ManifestStep (requestParsers literalParsers) where
  id := "source"
  name := "source"
  request := ({ method := .get, url := "https://example.com/alpha" } : ManifestRequest)
  assertions := [([("type", .str "http_status"), ("expected", .int 200)] : JsonObject)]
  warning := none
  mandatory := false
  optional := false
  group := "alpha"
  phase := .execution
  tokenEndpointAuthPolicy := none
  requiredTokenId := none
  producesTokenId := none

/-- A request to where the answer to it points, parsed. -/
def dependentStep : ManifestStep (requestParsers literalParsers) :=
  { sourceStep with
    id := "dependent"
    name := "dependent"
    request := ({ method := .get, url := "$\x7bsteps.source.response.body.next_url\x7d" } :
      ManifestRequest) }

/-- The JSON of a manifest with both. -/
def chainManifestJson : JsonObject :=
  [("schemaVersion", .str "v1"), ("name", .str "chain"),
    ("steps", .arr [
      .obj (crossGroupFields "source" "https://example.com/alpha" "alpha"),
      .obj (crossGroupFields "dependent" "$\x7bsteps.source.response.body.next_url\x7d" "alpha")])]

/-- That manifest, parsed. -/
def chainManifest : Manifest (requestParsers literalParsers) where
  schemaVersion := .v1
  name := "chain"
  certificationCoverage := .partialCoverage
  steps := [.http sourceStep, .http dependentStep]

/-- The sample manifest parses. -/
private theorem chainManifest_parses :
    parseManifest (requestParsers literalParsers) chainManifestJson = .ok chainManifest := by
  have hsource : parseV1Step (requestParsers literalParsers) _ 0 [] = .ok (.http sourceStep) :=
    parseV1Step_get "source" "https://example.com/alpha" "alpha" 0
      ⟨by decide +kernel, by decide, by decide +kernel⟩ (by simp)
      ⟨by decide +kernel, by decide, by decide +kernel⟩ ⟨by decide +kernel, by decide⟩
      (validatePlaceholderSyntax_of (by decide +kernel) (by decide +kernel))
      (.inr (by decide +kernel))
  have hdependent : parseV1Step (requestParsers literalParsers) _ 1 ["source"] =
      .ok (.http dependentStep) :=
    parseV1Step_get "dependent" "$\x7bsteps.source.response.body.next_url\x7d" "alpha" 1
      ⟨by decide +kernel, by decide, by decide +kernel⟩ (by simp)
      ⟨by decide +kernel, by decide, by decide +kernel⟩ ⟨by decide +kernel, by decide⟩
      (validatePlaceholderSyntax_of (by decide +kernel) (by decide +kernel))
      (.inl (by decide +kernel))
  refine bind_eq_ok.mpr ⟨"v1", rfl, ?_⟩
  refine bind_eq_ok.mpr ⟨(), rfl, bind_eq_ok.mpr ⟨_, rfl, bind_eq_ok.mpr ⟨_, rfl,
    bind_eq_ok.mpr ⟨_, rfl, bind_eq_ok.mpr
      ⟨(["source", "dependent"], [.http sourceStep, .http dependentStep]), ?_, rfl⟩⟩⟩⟩⟩
  refine bind_eq_ok.mpr ⟨(["source"], [.http sourceStep]), bind_eq_ok.mpr ⟨_, hsource, rfl⟩, ?_⟩
  exact bind_eq_ok.mpr ⟨_, bind_eq_ok.mpr ⟨_, hdependent, rfl⟩, rfl⟩

/-- The context after the first step. -/
def sourceContext : ExecutionContext :=
  recordStep {} "source" ⟨"GET", "https://example.com/alpha"⟩ none

/-- The plan of that manifest. -/
def chainPlan : TestPlan := TestPlan.defaultPlanFromManifest chainManifest

/-- The contexts of the run of that manifest against an unreachable bank. -/
private theorem chain_executes {step : V1Step (requestParsers literalParsers)}
    {context : ExecutionContext} {world : Unit}
    (h : Executes (manifestExecutor unreachableTransport none) chainManifest chainPlan () [] [0, 0]
      step context world) :
    (step = .http sourceStep ∧ context = {}) ∨
      (step = .http dependentStep ∧ context = sourceContext) := by
  rcases h.phase with htakes | ⟨base, world', hleaves, htakes⟩
  · obtain ⟨before, index, after, -, -, -, horder, -⟩ := htakes
    simp at horder
  · obtain ⟨setup, thread, hsetup, -, hthread, -, rfl, rfl⟩ := hleaves
    obtain rfl := Option.some.inj hsetup
    obtain rfl := Option.some.inj hthread
    obtain ⟨before, index, after, state, thread, rest, horder, hrun, hthread, hremaining, rfl, -⟩ :=
      htakes
    -- the step is the first or the second that the only thread takes
    rcases before with _ | ⟨first, _ | ⟨second, others⟩⟩
    · obtain ⟨rfl, -⟩ := List.cons.inj horder
      obtain rfl := Option.some.inj hrun
      obtain rfl := Option.some.inj hthread
      obtain ⟨rfl, -⟩ := List.cons.inj hremaining
      exact .inl ⟨rfl, rfl⟩
    · obtain ⟨rfl, hrest⟩ := List.cons.inj horder
      obtain ⟨rfl, -⟩ := List.cons.inj hrest
      obtain rfl := Option.some.inj hrun
      obtain rfl := Option.some.inj hthread
      obtain ⟨rfl, -⟩ := List.cons.inj hremaining
      exact .inr ⟨rfl, rfl⟩
    · simp at horder

/-- Its second step is executed. -/
private theorem dependentStep_executes :
    Executes (manifestExecutor unreachableTransport none) chainManifest chainPlan () [] [0, 0]
      (.http dependentStep) sourceContext () := by
  have hleaves : SetupLeaves (manifestExecutor unreachableTransport none) chainManifest chainPlan
      () [] ({} : ExecutionContext) () :=
    ⟨_, _, rfl, rfl, rfl, rfl, rfl, rfl⟩
  refine .execution hleaves ?_
  exact ⟨[0], 0, [], _, _, [], rfl, rfl, rfl, rfl, rfl, rfl⟩

/-- The second step waits in the context of the run. -/
private theorem dependentStep_undisturbed :
    Undisturbed unreachableTransport.pyStr sourceContext
      (ManifestRequest.templates dependentStep.request) := by
  intro text htext
  obtain rfl := List.mem_singleton.mp htext
  refine ⟨by decide +kernel, fun token htoken _ _ => ?_⟩
  have htokens : placeholderTokens (dependentStep.request : ManifestRequest).url =
      ["steps.source.response.body.next_url".toList] := by decide +kernel
  rw [htokens, List.mem_singleton] at htoken
  rw [htoken]
  exact .inl ⟨"source", _, ⟨"body", ["next_url"], by decide +kernel⟩, rfl, rfl⟩

/-- In the run of that manifest against an unreachable bank the second step is skipped. -/
theorem missing_responses_skip_chain :
    parseManifest (requestParsers literalParsers) chainManifestJson = .ok chainManifest ∧
    Executes (manifestExecutor unreachableTransport none) chainManifest chainPlan () [] [0, 0]
      (.http dependentStep) sourceContext () ∧
    IsSkipped unreachableTransport dependentStep sourceContext () := by
  refine ⟨chainManifest_parses, dependentStep_executes, ?_⟩
  refine (missing_responses_skip unreachableTransport none chainManifest_parses chainPlan () []
    [0, 0]).2 sourceStep [dependentStep] ?_ ?_ ?_ ?_ dependentStep (List.mem_singleton_self _)
    sourceContext () dependentStep_executes
  · intro member hmember
    rcases List.mem_cons.mp hmember with rfl | hmember
    · exact List.mem_cons_self
    · obtain rfl := List.mem_singleton.mp hmember
      exact List.mem_cons_of_mem _ List.mem_cons_self
  · refine .cons_cons ⟨_, List.mem_cons_self, "steps.source.response.body.next_url".toList,
      by decide +kernel, .inl ⟨"body", ["next_url"], by decide +kernel⟩⟩ (.singleton _)
  · intro context stepWorld outcome context' world' hexecutes hreturned
    rcases chain_executes hexecutes with ⟨-, rfl⟩ | ⟨hstep, -⟩
    · obtain rfl : recordStep {} "source" ⟨"GET", "https://example.com/alpha"⟩ none = context' :=
        (Prod.mk.inj (Except.ok.inj (Prod.mk.inj hreturned).1)).2
      exact ⟨_, rfl, rfl⟩
    · exact absurd (congrArg V1Step.id hstep) (by decide)
  · intro member hmember context stepWorld hexecutes
    obtain rfl := List.mem_singleton.mp hmember
    rcases chain_executes hexecutes with ⟨hstep, -⟩ | ⟨-, rfl⟩
    · exact absurd (congrArg V1Step.id hstep) (by decide)
    · exact ⟨dependentStep_undisturbed, fun header hheader => (by cases hheader)⟩

end Conformance
