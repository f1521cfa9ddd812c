import Conformance.Native.ManifestRequest
import Conformance.Spec.ManifestCorrect

/-!
# References between steps

The steps that the templates of a step refer to. A reference is what the resolver
looks up in the execution context. When a manifest is parsed, every reference is
checked to name a step that was parsed before.

## Key results

- `resolvePlaceholders_unknownStep`: an unknown-step error names a reference that the
  context does not have
- `references_of_parseManifest`: the references of an accepted manifest go backwards
-/

namespace Conformance

open Except

/-! ## References of a template -/

/-- The step that a token refers to, as the resolver reads it. -/
def referencedStep (token : List Char) : Option String :=
  match (tokenSegments token).map String.ofList with
  | "steps" :: stepId :: _ :: _ :: _ => some stepId
  | _ => none

/-- The steps that a template refers to. -/
def stepReferences (template : String) : List String :=
  (placeholderTokens template).filterMap referencedStep

/-- An error that blames a step only for being among the references and not in the
    context. -/
def BlamesMissing (references : List String) (context : ExecutionContext)
    (error : PlaceholderError) : Prop :=
  ∀ stepId, error = .unknownStep stepId →
    stepId ∈ references ∧ context.steps.get? stepId = none

section Resolution

variable {pyStr : Json → String} {references : List String} {context : ExecutionContext}

/-- An unresolved placeholder blames no step. -/
theorem blamesMissing_unresolved (message : String) :
    BlamesMissing references context (.unresolved message) := by
  intro _ h
  cases h

/-- Nor does a missing predecessor. -/
theorem blamesMissing_missingPredecessor (message : String) :
    BlamesMissing references context (.missingPredecessor message) := by
  intro _ h
  cases h

/-- Nor does a value of the configuration. -/
theorem raisesOnly_configValue (value : Option String) (unavailable : String) :
    RaisesOnly (BlamesMissing references context) (configValue value unavailable) := by
  cases value with
  | none => exact .error (blamesMissing_unresolved _)
  | some value => exact .ok value

/-- Nor does a path into the configuration. -/
theorem raisesOnly_resolveConfigPath (segments : List String) (dotPath : String) :
    RaisesOnly (BlamesMissing references context)
      (resolveConfigPath segments context dotPath) := by
  unfold resolveConfigPath
  simp only
  split
  · exact .error (blamesMissing_unresolved _)
  split
  · exact .error (blamesMissing_unresolved _)
  · split <;> exact raisesOnly_configValue _ _

/-- Nor does a path into the tokens. -/
theorem raisesOnly_resolveTokenPath (segments : List String) (dotPath : String) :
    RaisesOnly (BlamesMissing references context) (resolveTokenPath segments context dotPath) := by
  unfold resolveTokenPath
  split
  · split
    · exact .error (blamesMissing_missingPredecessor _)
    · split
      · exact .error (blamesMissing_unresolved _)
      · exact .ok _
  · exact .error (blamesMissing_unresolved _)

/-- Nor does a path into a request. -/
theorem raisesOnly_resolveRequestPath (request : RequestRecord) (fieldName : String)
    (remaining : List String) (dotPath : String) :
    RaisesOnly (BlamesMissing references context)
      (resolveRequestPath request fieldName remaining dotPath) := by
  unfold resolveRequestPath
  split
  · exact .ok _
  split
  · exact .ok _
  · exact .error (blamesMissing_unresolved _)

/-- Nor does a segment of a body path. -/
theorem raisesOnly_resolveBodySegment (dotPath : String) (current : Json) (part : String) :
    RaisesOnly (BlamesMissing references context) (resolveBodySegment dotPath current part) := by
  unfold resolveBodySegment resolveListSegment
  simp only
  split
  · split
    · exact .ok _
    · exact .error (blamesMissing_unresolved _)
  · split
    · split
      · exact .ok _
      · exact .error (blamesMissing_unresolved _)
    · exact .error (blamesMissing_unresolved _)
  · exact .error (blamesMissing_unresolved _)

/-- Nor does a path into a response. -/
theorem raisesOnly_resolveResponsePath (response : ResponseRecord) (fieldName : String)
    (remaining : List String) (dotPath : String) :
    RaisesOnly (BlamesMissing references context)
      (resolveResponsePath pyStr response fieldName remaining dotPath) := by
  unfold resolveResponsePath
  split
  · exact .ok _
  split
  · unfold resolveBodyPath
    refine .bind (List.raisesOnly_foldlM (fun current part _ =>
      raisesOnly_resolveBodySegment dotPath current part) _) fun value _ => ?_
    split
    · exact .error (blamesMissing_unresolved _)
    · exact .error (blamesMissing_unresolved _)
    · exact .ok _
    · exact .ok _
  · exact .error (blamesMissing_unresolved _)

/-- A token blames nothing but the step it refers to. -/
theorem raisesOnly_resolveDotPath {token : List Char}
    (hreferences : ∀ stepId, referencedStep token = some stepId → stepId ∈ references) :
    RaisesOnly (BlamesMissing references context) (resolveDotPath pyStr token context) := by
  unfold resolveDotPath
  unfold referencedStep at hreferences
  simp only
  split
  · exact raisesOnly_resolveConfigPath _ _
  · exact raisesOnly_resolveTokenPath _ _
  · rename_i stepId direction fieldName remaining hsegments
    rw [hsegments] at hreferences
    unfold resolveStepPath
    split
    · rename_i hnone
      refine .error ?_
      intro _ heq
      obtain rfl := PlaceholderError.unknownStep.inj heq
      exact ⟨hreferences stepId rfl, hnone⟩
    · split
      · exact raisesOnly_resolveRequestPath _ _ _ _
      split
      · split
        · exact .error (blamesMissing_missingPredecessor _)
        · exact raisesOnly_resolveResponsePath _ _ _ _
      · exact .error (blamesMissing_unresolved _)
  · exact .error (blamesMissing_unresolved _)

/-- The substitution resolves the tokens that the scan finds. -/
theorem raisesOnly_substituteTokens (inside : Option (List Char)) (cs : List Char)
    (hreferences : ∀ token ∈ scanTokens inside cs, ∀ stepId,
      referencedStep token = some stepId → stepId ∈ references) :
    RaisesOnly (BlamesMissing references context) (substituteTokens pyStr context inside cs) := by
  induction inside, cs using substituteTokens.induct with
  | case1 inside => exact .ok _
  | case2 rest token ih =>
    rw [scanTokens, if_pos rfl, List.forall_mem_cons] at hreferences
    rw [substituteTokens, if_pos rfl]
    exact .bind (raisesOnly_resolveDotPath hreferences.1) fun _ _ =>
      .bind (ih hreferences.2) fun _ _ => .ok _
  | case3 c rest token hc ih =>
    rw [scanTokens, if_neg hc] at hreferences
    rw [substituteTokens, if_neg hc]
    exact ih hreferences
  | case4 c hc => exact absurd hc.2 (by simp)
  | case5 c opening rest hc ih =>
    unfold scanTokens at hreferences
    unfold substituteTokens
    rw [if_pos hc] at hreferences ⊢
    exact ih hreferences
  | case6 c rest hc ih =>
    unfold scanTokens at hreferences
    unfold substituteTokens
    rw [if_neg hc] at hreferences ⊢
    exact .bind (ih hreferences) fun _ _ => .ok _

/-- Resolving a template blames nothing but the steps it refers to. -/
theorem raisesOnly_resolvePlaceholders {template : String}
    (hreferences : stepReferences template ⊆ references) :
    RaisesOnly (BlamesMissing references context)
      (resolvePlaceholders pyStr template context) := by
  unfold resolvePlaceholders
  split
  · exact .ok _
  refine .bind ?_ fun _ _ => .bind (raisesOnly_substituteTokens none _ ?_) fun _ _ => .ok _
  · unfold validateTemplate
    exact .bind (.raiseIf (blamesMissing_unresolved _)) fun _ _ =>
      .raiseIf (blamesMissing_unresolved _)
  · intro token htoken stepId hstep
    exact hreferences (List.mem_filterMap.mpr ⟨token, htoken, hstep⟩)

/-- An unknown-step error names a reference of the template that the context does not have. -/
theorem resolvePlaceholders_unknownStep {template stepId : String}
    (h : resolvePlaceholders pyStr template context = .error (.unknownStep stepId)) :
    stepId ∈ stepReferences template ∧ context.steps.get? stepId = none :=
  raisesOnly_resolvePlaceholders (List.Subset.refl _) _ h stepId rfl

end Resolution

/-! ## Templates of a step -/

mutual

/-- The string leaves of a JSON value, where `resolve_in_structure` looks. -/
def jsonTexts : Json → List String
  | .str text => [text]
  | .obj fields => fieldTexts fields
  | .arr items => itemTexts items
  | _ => []

/-- The string leaves of the members. -/
def fieldTexts : List (String × Json) → List String
  | [] => []
  | (_, child) :: rest => jsonTexts child ++ fieldTexts rest

/-- The string leaves of the items. -/
def itemTexts : List Json → List String
  | [] => []
  | child :: rest => jsonTexts child ++ itemTexts rest

end

/-- The texts of a body. -/
def ManifestBody.texts : ManifestBody → List String
  | .json value => jsonTexts value
  | .form fields => fields.map Prod.snd

/-- The URL, the header values and the texts of the body. -/
def ManifestRequest.templates (request : ManifestRequest) : List String :=
  request.url :: (request.headers.getD []).map Prod.snd ++ (request.body.map (·.texts)).getD []

/-- The texts of a request object. -/
def RequestObjectValue.templates : RequestObjectValue → List String
  | .literal text => [text]
  | .generated audience openbankingIntentId => audience.toList ++ openbankingIntentId.toList

variable {external : ExternalParsers}

/-- The strings of a step that are resolved when it is executed. -/
def V1Step.templates : V1Step (requestParsers external) → List String
  | .http step => ManifestRequest.templates step.request
  | .psuAuthorization step =>
    [step.authorizationEndpoint, step.clientId, step.redirectUri] ++ step.state.toList ++
      step.nonce.toList ++
      ((step.requestObject : Option RequestObjectValue).map (·.templates)).getD []

/-! ## Checks at parse time -/

/-- A text that refers to known steps only. -/
def RefersTo (seenIds : List String) (template : String) : Prop :=
  ∀ stepId ∈ stepReferences template, stepId ∈ seenIds

/-- The segments of a token that refers to a step. -/
theorem referencedStep_segments {token : List Char} {stepId : String}
    (h : referencedStep token = some stepId) :
    ∃ direction field path,
      tokenSegments token = segment "steps" :: segment stepId :: direction :: field :: path := by
  unfold referencedStep at h
  split at h
  · rename_i referenced direction field path hmap
    obtain rfl := Option.some.inj h
    obtain ⟨first, rest, htoken, hfirst, hsecond⟩ := List.map_eq_cons_iff.mp hmap
    obtain ⟨second, rest, rfl, rfl, hthird⟩ := List.map_eq_cons_iff.mp hsecond
    obtain ⟨third, rest, rfl, -, hfourth⟩ := List.map_eq_cons_iff.mp hthird
    obtain ⟨fourth, rest, rfl, -, -⟩ := List.map_eq_cons_iff.mp hfourth
    refine ⟨third, fourth, rest, ?_⟩
    rw [htoken, segment, segment, ← hfirst, String.toList_ofList, String.toList_ofList]
  · cases h

/-- The keys that a config placeholder may name stand under `config`. -/
private theorem configPlaceholderKeys_segments : ∀ key ∈ configPlaceholderKeys,
    (tokenSegments ("config." ++ key).toList).head? = some (segment "config") := by
  decide +kernel

/-- A valid token refers to an earlier step. -/
theorem validateToken_refersTo {location : String} {seenIds : List String} {token : List Char}
    (h : validateToken location seenIds token = .ok ()) {stepId : String}
    (hstep : referencedStep token = some stepId) : stepId ∈ seenIds := by
  obtain ⟨_, _, path, hsegments⟩ := referencedStep_segments hstep
  have hnotConfig : isConfigPlaceholder token = false := by
    rw [isConfigPlaceholder, List.any_eq_false]
    intro key hkey heq
    have hhead := configPlaceholderKeys_segments key hkey
    rw [← of_decide_eq_true heq, hsegments, List.head?_cons, Option.some.injEq] at hhead
    exact absurd hhead (by decide)
  have hnotToken : tokenPlaceholder? token = none := by
    rw [tokenPlaceholder?, hsegments]
  unfold validateToken at h
  rw [if_neg (by simp [hnotConfig, hnotToken])] at h
  cases hplaceholder : stepPlaceholder? token with
  | none =>
    simp only [hplaceholder] at h
    split at h
    · cases h
    · split at h <;> cases h
  | some referenced =>
    simp only [hplaceholder, raiseIf_eq_ok] at h
    rw [stepPlaceholder?, hsegments] at hplaceholder
    simp only [Option.ite_none_right_eq_some, Option.some.injEq] at hplaceholder
    rw [← hplaceholder.2, segment, String.ofList_toList] at h
    simpa using h

/-- A valid text refers to earlier steps. -/
theorem validatePlaceholderSyntax_refersTo {value location : String} {seenIds : List String}
    (h : validatePlaceholderSyntax value location seenIds = .ok ()) : RefersTo seenIds value := by
  unfold validatePlaceholderSyntax at h
  rw [bind_eq_ok] at h
  obtain ⟨-, -, htokens⟩ := h
  intro stepId hstep
  obtain ⟨token, htoken, hreferenced⟩ := List.mem_filterMap.mp hstep
  exact validateToken_refersTo (List.forM_eq_ok.mp htokens token htoken) hreferenced

/-- A token that is not closed is not found. -/
private theorem scanTokens_inside {cs : List Char} (hclose : '}' ∉ cs) (token : List Char) :
    scanTokens (some token) cs = [] := by
  induction cs generalizing token with
  | nil => rfl
  | cons c rest ih =>
    rw [List.mem_cons, not_or] at hclose
    rw [scanTokens, if_neg (Ne.symm hclose.1)]
    exact ih hclose.2 _

/-- What the search does not find the scan does not find either. -/
private theorem scanTokens_eq_nil {cs : List Char} (h : containsPlaceholder cs = false) :
    scanTokens none cs = [] := by
  induction cs using containsPlaceholder.induct with
  | case1 => rfl
  | case2 rest ih =>
    rw [containsPlaceholder, Bool.or_eq_false_iff] at h
    have hclose : '}' ∉ rest := by simpa using h.1
    rw [scanTokens, if_pos ⟨rfl, rfl⟩]
    exact scanTokens_inside hclose []
  | case3 c rest hopen ih =>
    have hnot : ¬ (c = '$' ∧ rest.head? = some '{') := by
      rintro ⟨rfl, hhead⟩
      obtain ⟨tail, rfl⟩ := List.head?_eq_some_iff.mp hhead
      exact hopen tail rfl rfl
    rw [containsPlaceholder] at h
    · unfold scanTokens
      rw [if_neg hnot]
      exact ih h
    · exact hopen

/-- A text without placeholders refers to nothing. -/
theorem refersTo_of_not_containsPlaceholder {seenIds : List String} {template : String}
    (h : containsPlaceholder template.toList = false) : RefersTo seenIds template := by
  intro stepId hstep
  rw [stepReferences, placeholderTokens, scanTokens_eq_nil h] at hstep
  cases hstep

/-! ## Parsed requests -/

mutual

/-- The texts of a checked value refer to known steps. -/
theorem validatePlaceholdersInStructure_refersTo {location : String} {seenIds : List String} :
    ∀ {value : Json}, validatePlaceholdersInStructure location seenIds value = .ok () →
      ∀ text ∈ jsonTexts value, RefersTo seenIds text
  | .str _, h, _, htext => by
    rw [validatePlaceholdersInStructure] at h
    rw [jsonTexts, List.mem_singleton] at htext
    rw [htext]
    exact validatePlaceholderSyntax_refersTo h
  | .obj _, h, text, htext => by
    rw [validatePlaceholdersInStructure] at h
    rw [jsonTexts] at htext
    exact validatePlaceholdersInFields_refersTo h text htext
  | .arr _, h, text, htext => by
    rw [validatePlaceholdersInStructure] at h
    rw [jsonTexts] at htext
    exact validatePlaceholdersInItems_refersTo h text htext
  | .null, _, _, htext => by simp [jsonTexts] at htext
  | .bool _, _, _, htext => by simp [jsonTexts] at htext
  | .int _, _, _, htext => by simp [jsonTexts] at htext
  | .float _, _, _, htext => by simp [jsonTexts] at htext

/-- The texts of checked members refer to known steps. -/
theorem validatePlaceholdersInFields_refersTo {location : String} {seenIds : List String} :
    ∀ {fields : List (String × Json)},
      validatePlaceholdersInFields location seenIds fields = .ok () →
      ∀ text ∈ fieldTexts fields, RefersTo seenIds text
  | [], _, _, htext => by simp [fieldTexts] at htext
  | (_, _) :: _, h, text, htext => by
    rw [validatePlaceholdersInFields] at h
    obtain ⟨⟨⟩, hchild, hrest⟩ := bind_eq_ok.mp h
    rw [fieldTexts, List.mem_append] at htext
    rcases htext with htext | htext
    · exact validatePlaceholdersInStructure_refersTo hchild text htext
    · exact validatePlaceholdersInFields_refersTo hrest text htext

/-- The texts of checked items refer to known steps. -/
theorem validatePlaceholdersInItems_refersTo {location : String} {seenIds : List String} :
    ∀ {items : List Json} {index : Nat},
      validatePlaceholdersInItems location seenIds index items = .ok () →
      ∀ text ∈ itemTexts items, RefersTo seenIds text
  | [], _, _, _, htext => by simp [itemTexts] at htext
  | _ :: _, _, h, text, htext => by
    rw [validatePlaceholdersInItems] at h
    obtain ⟨⟨⟩, hchild, hrest⟩ := bind_eq_ok.mp h
    rw [itemTexts, List.mem_append] at htext
    rcases htext with htext | htext
    · exact validatePlaceholdersInStructure_refersTo hchild text htext
    · exact validatePlaceholdersInItems_refersTo hrest text htext

end

section Parsing

variable {location : String} {seenIds : List String}

/-- A mapping whose members are checked one by one. -/
private theorem mapM_refersTo {f : String × Json → Except PyError (String × String)}
    (hf : ∀ entry, Ensures (fun field => RefersTo seenIds field.2) (f entry))
    (entries : List (String × Json)) :
    Ensures (fun fields => ∀ field ∈ fields, RefersTo seenIds field.2) (entries.mapM f) := by
  intro fields h field hfield
  obtain ⟨entry, -, hentry⟩ := (List.mapM_eq_ok.mp h).exists_of_mem_right hfield
  exact hf entry field hentry

/-- Header values refer to known steps. -/
theorem parseV1Headers_refersTo (rawRequest : JsonObject) :
    Ensures (fun headers => ∀ header ∈ headers.getD [], RefersTo seenIds header.2)
      (parseV1Headers rawRequest location seenIds) := by
  unfold parseV1Headers
  split
  · exact .ok (by simp)
  · refine .bind fun headers hheaders => .ok ?_
    refine mapM_refersTo (fun entry => ?_) _ headers hheaders
    refine .bind fun _ _ => ?_
    split
    · exact .bind fun _ _ => .bind fun ⟨⟩ hsyntaxOk => .ok (validatePlaceholderSyntax_refersTo hsyntaxOk)
    · exact .error
  · exact .error

/-- Form fields refer to known steps. -/
theorem parseFormBody_refersTo (body : JsonObject) :
    Ensures (fun body => ∀ text ∈ body.texts, RefersTo seenIds text)
      (parseFormBody body location seenIds) := by
  refine .bind fun _ _ => ?_
  split
  · exact .error
  · exact .error
  · refine .bind fun fields hfields => .ok ?_
    rw [ManifestBody.texts, List.forall_mem_map]
    refine mapM_refersTo (fun entry => ?_) _ fields hfields
    refine .bind fun _ _ => ?_
    split
    · exact .bind fun ⟨⟩ hsyntaxOk => .ok (validatePlaceholderSyntax_refersTo hsyntaxOk)
    · exact .error
  · exact .error

/-- The texts of a JSON body refer to known steps. -/
theorem parseBareBody_refersTo (body : Json) :
    Ensures (fun body => ∀ text ∈ body.texts, RefersTo seenIds text)
      (parseBareBody body location seenIds) :=
  .bind fun ⟨⟩ hcheck => .ok (validatePlaceholdersInStructure_refersTo hcheck)

/-- The texts of a body refer to known steps, whatever its shape. -/
theorem parseV1Body_refersTo (repr : Json → String) (rawRequest : JsonObject)
    (method : HttpMethod) :
    Ensures (fun body => ∀ text ∈ (body.map (·.texts)).getD [], RefersTo seenIds text)
      (parseV1Body repr rawRequest method location seenIds) := by
  unfold parseV1Body
  split
  · exact .ok (by simp)
  split
  · exact .error
  refine .bind fun parsed hparsed => .ok ?_
  rw [Option.map_some, Option.getD_some]
  revert hparsed
  suffices hgiven : ∀ body location, Ensures
      (fun body => ∀ text ∈ body.texts, RefersTo seenIds text)
      (parseGivenBody repr body location seenIds) from hgiven _ _ parsed
  intro body location
  unfold parseGivenBody
  split
  · exact .error
  · split
    · unfold parseTaggedBody
      split
      · refine .bind fun _ _ => ?_
        split
        · exact .error
        · exact .error
        · exact .bind fun ⟨⟩ hcheck => .ok (validatePlaceholdersInStructure_refersTo hcheck)
      · exact parseFormBody_refersTo _
      · exact .bind fun _ _ => .error
    · exact parseBareBody_refersTo _
  · exact parseBareBody_refersTo _

/-- The templates of a request refer to known steps. -/
theorem parseV1Request_refersTo (external : ExternalParsers) (rawRequest : JsonObject) :
    Ensures (fun request => ∀ template ∈ request.templates, RefersTo seenIds template)
      (parseV1Request external rawRequest location seenIds) := by
  refine .bind fun _ _ => .bind fun method _ => .bind fun url _ => .bind fun ⟨⟩ hurl => ?_
  have htail : Ensures (fun request => ∀ template ∈ request.templates, RefersTo seenIds template)
      (do
        let headers ← parseV1Headers rawRequest location seenIds
        let body ← parseV1Body external.repr rawRequest method location seenIds
        let detachedJws ← parseOptionalDetachedJws rawRequest method location seenIds
        return ({ method := method, url := url, headers := headers, body := body,
                  detachedJws := detachedJws } : ManifestRequest)) := by
    refine .bind fun headers hheaders => .bind fun body hbody => .bind fun _ _ => .ok ?_
    rw [ManifestRequest.templates, List.forall_mem_append, List.forall_mem_cons,
      List.forall_mem_map]
    exact ⟨⟨validatePlaceholderSyntax_refersTo hurl, parseV1Headers_refersTo _ headers hheaders⟩,
      parseV1Body_refersTo _ _ _ body hbody⟩
  -- the URL check is made or not, and the rest is the same
  split
  · exact .bind fun _ _ => htail
  · exact htail

/-- An optional template refers to known steps. -/
theorem parseOptionalTemplate_refersTo (raw : JsonObject) (key : String) :
    Ensures (fun template => ∀ text ∈ template.toList, RefersTo seenIds text)
      (parseOptionalTemplate raw key location seenIds) := by
  unfold parseOptionalTemplate
  split
  · exact .ok (by simp)
  · split
    · exact .error
    · refine .bind fun ⟨⟩ hsyntaxOk => .ok ?_
      simpa using validatePlaceholderSyntax_refersTo hsyntaxOk
  · exact .error

/-- The templates of a request object refer to known steps. -/
theorem parsePsuOptionalRequestObject_refersTo (rawStep : JsonObject) :
    Ensures (fun requestObject => ∀ template ∈
        (requestObject.map RequestObjectValue.templates).getD [], RefersTo seenIds template)
      (parsePsuOptionalRequestObject rawStep location seenIds) := by
  unfold parsePsuOptionalRequestObject
  simp only
  split
  · exact .ok (by simp)
  · split
    · exact .error
    · refine .bind fun ⟨⟩ hsyntaxOk => .ok ?_
      simpa [RequestObjectValue.templates] using validatePlaceholderSyntax_refersTo hsyntaxOk
  · refine .bind fun requestObject hobject => .ok ?_
    rw [Option.map_some, Option.getD_some]
    unfold parseGeneratedRequestObject at hobject
    simp only [bind_eq_ok] at hobject
    obtain ⟨-, -, source, -, -, -, -, -, audience, haudience, intentId, hintentId, hreturn⟩ := hobject
    rw [← Except.ok.inj hreturn, RequestObjectValue.templates, List.forall_mem_append]
    exact ⟨parseOptionalTemplate_refersTo _ _ audience haudience,
      parseOptionalTemplate_refersTo _ _ intentId hintentId⟩
  · exact .error

/-- A caller-supplied `state` or `nonce` refers to known steps. -/
theorem parsePsuOptionalToken_refersTo (rawStep : JsonObject) (key : String) :
    Ensures (fun token => ∀ text ∈ token.toList, RefersTo seenIds text)
      (parsePsuOptionalToken (requestParsers external) rawStep key location seenIds) := by
  refine .bind fun token _ => ?_
  split
  · exact .ok (by simp)
  · refine .bind fun ⟨⟩ hsyntaxOk => .bind fun _ _ => .ok ?_
    simpa using validatePlaceholderSyntax_refersTo hsyntaxOk

/-- The endpoint refers to known steps. -/
theorem checkAuthorizationEndpoint_refersTo {endpoint : String}
    (h : checkAuthorizationEndpoint (requestParsers external) endpoint location seenIds = .ok ()) :
    RefersTo seenIds endpoint := by
  obtain ⟨⟨⟩, hsyntaxOk, -⟩ := bind_eq_ok.mp h
  exact validatePlaceholderSyntax_refersTo hsyntaxOk

/-- The redirect URI refers to known steps. -/
theorem checkRedirectUri_refersTo {redirectUri : String}
    (h : checkRedirectUri (requestParsers external) redirectUri location seenIds = .ok ()) :
    RefersTo seenIds redirectUri := by
  unfold checkRedirectUri at h
  split at h
  · obtain ⟨⟨⟩, hsyntaxOk, -⟩ := bind_eq_ok.mp h
    exact validatePlaceholderSyntax_refersTo hsyntaxOk
  · exact refersTo_of_not_containsPlaceholder (Bool.eq_false_of_not_eq_true ‹_›)

/-- The templates of an HTTP step refer to known steps. -/
theorem parseV1HttpStep_refersTo (rawStep : JsonObject) (index : Nat) :
    Ensures (fun step => ∀ template ∈ (V1Step.http step).templates, RefersTo seenIds template)
      (parseV1HttpStep (requestParsers external) rawStep index seenIds) := by
  refine .bind fun _ _ => .bind fun _ _ => .bind fun _ _ => .bind fun _ _ =>
    .bind fun request hrequest => ?_
  have htemplates := parseV1Request_refersTo _ _ request hrequest
  iterate 12 refine .bind fun _ _ => ?_
  exact .ok htemplates

/-- The templates of a PSU step refer to known steps. -/
theorem parseV1PsuAuthorizationStep_refersTo (rawStep : JsonObject) (index : Nat) :
    Ensures (fun step => ∀ template ∈ (V1Step.psuAuthorization step).templates,
        RefersTo seenIds template)
      (parseV1PsuAuthorizationStep (requestParsers external) rawStep index seenIds) := by
  refine .bind fun _ _ => .bind fun _ _ => .bind fun _ _ => .bind fun _ _ =>
    .bind fun endpoint _ => .bind fun ⟨⟩ hendpoint => .bind fun clientId _ =>
    .bind fun ⟨⟩ hclientId => .bind fun redirectUri _ => .bind fun ⟨⟩ hredirectUri => ?_
  iterate 4 refine .bind fun _ _ => ?_
  refine .bind fun state hstate => .bind fun nonce hnonce => .bind fun requestObject hobject => ?_
  iterate 5 refine .bind fun _ _ => ?_
  refine .ok ?_
  simp only [V1Step.templates, List.forall_mem_append, List.forall_mem_cons,
    List.not_mem_nil, false_implies, implies_true, and_true]
  exact ⟨⟨⟨⟨checkAuthorizationEndpoint_refersTo hendpoint,
    validatePlaceholderSyntax_refersTo hclientId, checkRedirectUri_refersTo hredirectUri⟩,
    parsePsuOptionalToken_refersTo _ _ state hstate⟩,
    parsePsuOptionalToken_refersTo _ _ nonce hnonce⟩,
    parsePsuOptionalRequestObject_refersTo _ requestObject hobject⟩

/-- The templates of a parsed step refer to the steps before it. -/
theorem parseV1Step_refersTo (rawStep : JsonObject) (index : Nat) :
    Ensures (fun step => ∀ template ∈ step.templates, RefersTo seenIds template)
      (parseV1Step (requestParsers external) rawStep index seenIds) := by
  unfold parseV1Step
  split
  · split
    · exact .bind fun step hstep => .ok (parseV1HttpStep_refersTo _ _ step hstep)
    · split
      · exact .bind fun step hstep => .ok (parseV1PsuAuthorizationStep_refersTo _ _ step hstep)
      · exact .error
  · exact .error

end Parsing

/-! ## Parsed manifests -/

/-- Every step refers to steps before it. -/
def ReferBackwards (steps : List (V1Step (requestParsers external))) : Prop :=
  ∀ before step after, steps = before ++ step :: after →
    ∀ template ∈ step.templates, RefersTo (before.map V1Step.id) template

/-- A step that refers to the steps parsed so far may follow them. -/
theorem ReferBackwards.snoc {steps : List (V1Step (requestParsers external))}
    {step : V1Step (requestParsers external)} (hsteps : ReferBackwards steps)
    (hstep : ∀ template ∈ step.templates, RefersTo (steps.map V1Step.id) template) :
    ReferBackwards (steps ++ [step]) := by
  intro before other after heq template htemplate
  rcases List.eq_nil_or_concat after with rfl | ⟨init, last, rfl⟩
  · obtain ⟨rfl, hlast⟩ := List.append_inj' heq rfl
    obtain rfl := List.singleton_inj.mp hlast
    exact hstep template htemplate
  · have hregroup : steps ++ [step] = (before ++ other :: init) ++ [last] := by
      simpa using heq
    exact hsteps before other init (List.append_inj' hregroup rfl).1 template htemplate

/-- The loop over the raw steps keeps the references going backwards. -/
theorem parseV1Steps_referBackwards {rawSteps : List JsonObject}
    {acc : List String × List (V1Step (requestParsers external))}
    (h : parseV1Steps (requestParsers external) rawSteps = .ok acc) :
    acc.1 = acc.2.map V1Step.id ∧ ReferBackwards acc.2 := by
  refine List.foldlM_ok_induction
    (P := fun _ acc => acc.1 = acc.2.map V1Step.id ∧ ReferBackwards acc.2) h ?_ ?_
  · refine ⟨rfl, fun before step after heq => ?_⟩
    simp at heq
  · rintro _ entry acc acc' _ ⟨hseen, hacc⟩ hround
    obtain ⟨step, hstep, hnext⟩ := bind_eq_ok.mp hround
    have hrefers := parseV1Step_refersTo _ _ step hstep
    rw [hseen] at hrefers
    rw [← Except.ok.inj hnext]
    exact ⟨by simp [hseen], hacc.snoc hrefers⟩

/-- The references of an accepted manifest go backwards. -/
theorem references_of_parseManifest {raw : JsonObject}
    {manifest : Manifest (requestParsers external)}
    (h : parseManifest (requestParsers external) raw = .ok manifest) :
    ReferBackwards manifest.steps := by
  obtain ⟨schemaVersion, -, h⟩ := bind_eq_ok.mp h
  split at h
  · have hv0 : Ensures (fun m => m.steps = []) (parseV0Manifest (requestParsers external) raw) :=
      .bind fun _ _ => .bind fun _ _ => .bind fun _ _ => .bind fun _ _ => .ok rfl
    rw [hv0 manifest h]
    intro before step after heq
    simp at heq
  split at h
  · have hv1 : Ensures (fun m => ReferBackwards m.steps)
        (parseV1Manifest (requestParsers external) raw) :=
      .bind fun _ _ => .bind fun _ _ => .bind fun _ _ => .bind fun _ _ =>
        .bind fun _ hparsed => .ok (parseV1Steps_referBackwards hparsed).2
    exact hv1 manifest h
  · cases h

end Conformance
