import Conformance.Native.RequestSigning
import Conformance.Spec.JsonTextRoundTrip
import Conformance.Spec.StepContexts

/-!
# Signed requests as they are sent

A dispatched step with a detached signature sends the bytes that were signed, and they
decode to its resolved body. Its `x-jws-signature` field is the signature, and the only one
of that name exactly when the manifest gives no header with that name in another case: the
mapping keeps both, and so does the request.

## Key results

- `fieldsNamed_signHeaders`: the signature among the fields of its name
- `dispatchPrepared_eq_ok`: what a signed step sends
- `DispatchesSigned.signedAsSent_iff`: when the signature covers what is sent
-/

namespace Conformance

open Except

/-! ## Headers -/

theorem sameHeaderName_iff {name other : String} :
    sameHeaderName name other = true ↔ headerKey name = headerKey other := beq_iff_eq

/-- The first field of a name is one of its fields. -/
theorem fieldsNamed_cons (header : String × String) (headers : HeaderFields) (name : String) :
    fieldsNamed (header :: headers) name =
      if sameHeaderName header.1 name then header :: fieldsNamed headers name
      else fieldsNamed headers name := List.filter_cons

theorem fieldsNamed_append (headers others : HeaderFields) (name : String) :
    fieldsNamed (headers ++ others) name = fieldsNamed headers name ++ fieldsNamed others name :=
  List.filter_append ..

theorem fieldsNamed_ne_nil {headers : HeaderFields} {name : String} :
    fieldsNamed headers name ≠ [] ↔ ∃ field ∈ headers, sameHeaderName field.1 name = true := by
  simp [fieldsNamed, List.filter_eq_nil_iff]

/-- `x-jws-signature`. -/
def signatureHeader : String := "x-jws-signature"

/-- A header has the name of the signature in another case. -/
def HasOtherCase (names : List String) : Prop :=
  ∃ name ∈ names, name ≠ signatureHeader ∧ sameHeaderName name signatureHeader = true

instance (names : List String) : Decidable (HasOtherCase names) :=
  inferInstanceAs (Decidable (∃ name ∈ names, _))

theorem signHeaders_of_notMem {headers : HeaderFields}
    (h : signatureHeader ∉ headers.map Prod.fst) (signature : String) :
    signHeaders headers signature = headers ++ [(signatureHeader, signature)] := if_neg h

/-- A signature takes the place of a header of exactly its name. -/
theorem signHeaders_append {before after : HeaderFields} {value : String}
    (hbefore : signatureHeader ∉ before.map Prod.fst)
    (hafter : signatureHeader ∉ after.map Prod.fst) (signature : String) :
    signHeaders (before ++ (signatureHeader, value) :: after) signature =
      before ++ (signatureHeader, signature) :: after := by
  have hkeep : ∀ headers : HeaderFields, signatureHeader ∉ headers.map Prod.fst →
      (headers.map fun header =>
        if header.1 = signatureHeader then (signatureHeader, signature) else header) = headers := by
    intro headers hnotMem
    refine (List.map_congr_left fun header hheader => ?_).trans (List.map_id headers)
    exact if_neg fun heq : header.1 = signatureHeader => hnotMem (heq ▸ List.mem_map_of_mem hheader)
  have hmem : signatureHeader ∈ (before ++ (signatureHeader, value) :: after).map Prod.fst := by
    simp
  refine (if_pos hmem).trans ?_
  rw [List.map_append, List.map_cons]
  exact congrArg₂ (· ++ ·) (hkeep before hbefore) (congrArg₂ List.cons (if_pos rfl) (hkeep after hafter))

/-- Headers with an `x-jws-signature`, cut at it. -/
theorem exists_signature_split {headers : HeaderFields}
    (hnodup : (headers.map Prod.fst).Nodup) (h : signatureHeader ∈ headers.map Prod.fst) :
    ∃ before value after, headers = before ++ (signatureHeader, value) :: after ∧
      signatureHeader ∉ before.map Prod.fst ∧ signatureHeader ∉ after.map Prod.fst := by
  obtain ⟨⟨_, value⟩, hmem, rfl⟩ := List.mem_map.mp h
  obtain ⟨before, after, rfl⟩ := List.append_of_mem hmem
  rw [List.map_append, List.map_cons, List.nodup_append, List.nodup_cons] at hnodup
  exact ⟨before, value, after, rfl,
    fun hbefore => hnodup.2.2 _ hbefore _ List.mem_cons_self rfl, hnodup.2.1.1⟩

/-- Without a header of exactly that name, those in another case are the fields of the name. -/
theorem hasOtherCase_iff {headers : HeaderFields} (h : signatureHeader ∉ headers.map Prod.fst) :
    HasOtherCase (headers.map Prod.fst) ↔ fieldsNamed headers signatureHeader ≠ [] := by
  rw [fieldsNamed_ne_nil]
  constructor
  · rintro ⟨name, hname, -, hsame⟩
    obtain ⟨field, hfield, rfl⟩ := List.mem_map.mp hname
    exact ⟨field, hfield, hsame⟩
  · rintro ⟨field, hfield, hsame⟩
    have hmem : field.1 ∈ headers.map Prod.fst := List.mem_map_of_mem hfield
    exact ⟨field.1, hmem, fun heq => h (heq ▸ hmem), hsame⟩

/-- The signature stands among the fields of its name, beside the headers that have it in
    another case. -/
theorem fieldsNamed_signHeaders {headers : HeaderFields} (hnodup : (headers.map Prod.fst).Nodup)
    (signature : String) :
    ∃ before after, fieldsNamed (signHeaders headers signature) signatureHeader =
        before ++ (signatureHeader, signature) :: after ∧
      (HasOtherCase (headers.map Prod.fst) ↔ before ≠ [] ∨ after ≠ []) := by
  have hsigned : ∀ rest : HeaderFields,
      fieldsNamed ((signatureHeader, signature) :: rest) signatureHeader =
        (signatureHeader, signature) :: fieldsNamed rest signatureHeader := by
    intro rest
    rw [fieldsNamed_cons, if_pos (sameHeaderName_iff.mpr rfl)]
  by_cases hmem : signatureHeader ∈ headers.map Prod.fst
  · obtain ⟨before, value, after, rfl, hbefore, hafter⟩ := exists_signature_split hnodup hmem
    refine ⟨fieldsNamed before signatureHeader, fieldsNamed after signatureHeader, ?_, ?_⟩
    · rw [signHeaders_append hbefore hafter, fieldsNamed_append, hsigned]
    · rw [← hasOtherCase_iff hbefore, ← hasOtherCase_iff hafter]
      simp only [HasOtherCase, List.map_append, List.map_cons, List.mem_append, List.mem_cons]
      constructor
      · rintro ⟨name, hname | rfl | hname, hother, hsame⟩
        · exact .inl ⟨name, hname, hother, hsame⟩
        · exact absurd rfl hother
        · exact .inr ⟨name, hname, hother, hsame⟩
      · rintro (⟨name, hname, hother⟩ | ⟨name, hname, hother⟩)
        · exact ⟨name, .inl hname, hother⟩
        · exact ⟨name, .inr (.inr hname), hother⟩
  · refine ⟨fieldsNamed headers signatureHeader, [], ?_, ?_⟩
    · rw [signHeaders_of_notMem hmem, fieldsNamed_append, hsigned]
      rfl
    · rw [hasOtherCase_iff hmem]
      simp

/-- The signature is the one field of its name exactly if no header has it in another case. -/
theorem exists_fieldsNamed_signHeaders_iff {headers : HeaderFields}
    (hnodup : (headers.map Prod.fst).Nodup) (signature : String) :
    (∃ name, fieldsNamed (signHeaders headers signature) signatureHeader = [(name, signature)]) ↔
      ¬HasOtherCase (headers.map Prod.fst) := by
  obtain ⟨before, after, hfields, hother⟩ := fieldsNamed_signHeaders hnodup signature
  rw [hfields, hother]
  constructor
  · rintro ⟨name, hone⟩
    have hlength := congrArg List.length hone
    simp only [List.length_append, List.length_cons, List.length_nil] at hlength
    have hbefore : before = [] := List.length_eq_zero_iff.mp (by omega)
    have hafter : after = [] := List.length_eq_zero_iff.mp (by omega)
    simp [hbefore, hafter]
  · intro h
    rw [not_or, not_ne_iff, not_ne_iff] at h
    exact ⟨signatureHeader, by rw [h.1, h.2]; rfl⟩

/-! ## What is sent -/

section Sent

variable {httpx : HttpxHeaders}

/-- Fields of another name are left alone. -/
theorem HttpxHeaders.Lawful.set_of_ne (h : httpx.Lawful) (headers : HeaderFields)
    {name other : String} (value : String) (hdiffer : sameHeaderName name other = false) :
    fieldsNamed (httpx.set headers name value) other = fieldsNamed headers other := by
  rw [h.set, if_neg (by simp [hdiffer])]

/-- The fields that `send_json` starts with, of a name that is given. -/
theorem HttpxHeaders.Lawful.update_given (h : httpx.Lawful) {headers : HeaderFields} {name : String}
    (hgiven : fieldsNamed headers name ≠ []) :
    fieldsNamed (if headers = [] then [acceptJson] else httpx.update [acceptJson] headers) name =
      fieldsNamed headers name := by
  rw [if_neg (by rintro rfl; exact hgiven rfl), h.update, if_neg hgiven]

/-- Bytes with nothing beside them are sent as they are. -/
theorem sendJsonRequest_bytes (hhttpx : httpx.Lawful) {method : HttpMethod} {url : String}
    {headers : HeaderFields} {payload : ByteArray} {form : Option (List (String × String))}
    {request : ClientRequest} (hmethod : method ∈ [HttpMethod.post, .put, .patch])
    (hgiven : fieldsNamed headers signatureHeader ≠ [])
    (h : sendJsonRequest httpx method url (some headers)
      { jsonBodyBytes := some payload, formBody := form } = .ok request) :
    request.content = some payload ∧ request.json = none ∧ request.data = none ∧
      fieldsNamed request.headers signatureHeader = fieldsNamed headers signatureHeader := by
  unfold sendJsonRequest at h
  obtain ⟨_, hone, h⟩ := bind_eq_ok.mp h
  cases form with
  | some form => exact absurd (Nat.lt_succ_self 1) (raiseIf_eq_ok.mp hone)
  | none =>
    have hallows : method ∈ [HttpMethod.post, .put, .patch, .delete] := by
      cases method <;> simp_all
    obtain ⟨_, -, h⟩ := bind_eq_ok.mp h
    obtain rfl := Except.ok.inj h
    rw [if_pos hallows]
    refine ⟨rfl, rfl, rfl, ?_⟩
    have hstart := hhttpx.update_given hgiven
    simp only [Option.getD_some, Option.isSome_none, Bool.false_and, Bool.false_eq_true, if_false]
    generalize (if headers = [] then [acceptJson] else httpx.update [acceptJson] headers) = start
      at hstart ⊢
    rw [← hstart]
    split
    · exact hhttpx.set_of_ne start _ (by decide +kernel)
    · rfl

end Sent

/-- What is signed is the body, of a request that can have one. -/
theorem detachedSigningInput_eq_ok {signing : StepSigning} {policy : DetachedJwsPolicy}
    {method : HttpMethod} {url : String} {body : Option Json} {service : FapiSigningService}
    {input : SigningInput}
    (h : detachedSigningInput signing policy method url body = .ok (service, input)) :
    method ∈ [HttpMethod.post, .put, .patch] ∧ ∃ value, body = some value ∧
      serializeJsonRequestBody signing.floats value = .ok input.payload := by
  unfold detachedSigningInput at h
  split at h
  · cases h
  · cases h
  obtain ⟨required, hrequired, h⟩ := bind_eq_ok.mp h
  obtain ⟨_, htrue, h⟩ := bind_eq_ok.mp h
  have hmethod : method ∈ [HttpMethod.post, .put, .patch] := by
    rw [raiseIf_eq_ok] at htrue
    by_contra hnot
    rw [requiresObDetachedJws, if_neg hnot] at hrequired
    exact htrue (Except.ok.inj hrequired).symm
  cases body with
  | none => cases h
  | some value =>
    obtain ⟨payload, hpayload, h⟩ := bind_eq_ok.mp h
    obtain ⟨found, -, h⟩ := bind_eq_ok.mp h
    split at h
    · cases h
    obtain ⟨profile, -, h⟩ := bind_eq_ok.mp h
    obtain ⟨-, rfl⟩ := Prod.mk.inj (Except.ok.inj h)
    exact ⟨hmethod, value, rfl, hpayload⟩

section Dispatch

variable {external : ExternalParsers} {signing : StepSigning}
  {manifestStep : ManifestStep (requestParsers external)} {prepared : PreparedRequest}

/-- A dispatched step with a detached signature: what was signed, and what went out. -/
structure DispatchesSigned (signing : StepSigning)
    (manifestStep : ManifestStep (requestParsers external)) (policy : DetachedJwsPolicy)
    (prepared : PreparedRequest) (service : FapiSigningService) (input : SigningInput)
    (signature : String) (form : Option (List (String × String))) (request : ClientRequest) :
    Prop where
  signed : detachedSigningInput signing policy (manifestStep.request : ManifestRequest).method
    prepared.url (jsonBody prepared.body) = .ok (service, input)
  returned : service.signDetachedJsonPayload input = .ok signature
  valid : validateHeaderValue signature
    s!"step '{manifestStep.id}' generated header x-jws-signature" = .ok ()
  authenticated : applyTokenEndpointAuthPolicy signing manifestStep.tokenEndpointAuthPolicy
    (formBody prepared.body) prepared.url = .ok form
  sent : sendJsonRequest signing.httpx (manifestStep.request : ManifestRequest).method prepared.url
    (some (signHeaders (prepared.headers.getD []) signature))
    { jsonBodyBytes := some input.payload, formBody := form } = .ok request

/-- The dispatch of a step with a detached signature. -/
theorem dispatchPrepared_eq_ok {policy : DetachedJwsPolicy}
    (hpolicy : (manifestStep.request : ManifestRequest).detachedJws = some policy)
    {request : ClientRequest} {calls : List SigningCall} :
    dispatchPrepared signing manifestStep prepared = (.ok request, calls) ↔
      ∃ service input signature form, calls = [⟨input, .ok signature⟩] ∧
        DispatchesSigned signing manifestStep policy prepared service input signature form
          request := by
  unfold dispatchPrepared maybeApplyObDetachedJws
  simp only [hpolicy]
  constructor
  · intro h
    cases hsigned : detachedSigningInput signing policy
        (manifestStep.request : ManifestRequest).method prepared.url (jsonBody prepared.body) with
    | error error =>
      rw [hsigned] at h
      cases (Prod.mk.inj h).1
    | ok signed =>
      obtain ⟨service, input⟩ := signed
      rw [hsigned] at h
      obtain ⟨hsent, rfl⟩ := Prod.mk.inj h
      obtain ⟨⟨resolvedHeaders, serialized⟩, happlied, hsent⟩ := bind_eq_ok.mp hsent
      obtain ⟨form, hform, hsent⟩ := bind_eq_ok.mp hsent
      obtain ⟨signature, hreturned, happlied⟩ := bind_eq_ok.mp happlied
      obtain ⟨_, hvalid, happlied⟩ := bind_eq_ok.mp happlied
      obtain ⟨rfl, rfl⟩ := Prod.mk.inj (Except.ok.inj happlied)
      refine ⟨service, input, signature, form, ?_, hsigned, hreturned, hvalid, hform, hsent⟩
      rw [← hreturned]
  · rintro ⟨service, input, signature, form, rfl, h⟩
    rw [h.signed]
    simp only [h.returned]
    rw [Prod.mk.injEq]
    refine ⟨?_, rfl⟩
    refine bind_eq_ok.mpr ⟨(some (signHeaders (prepared.headers.getD []) signature),
      some input.payload), ?_, bind_eq_ok.mpr ⟨form, h.authenticated, h.sent⟩⟩
    exact bind_eq_ok.mpr ⟨signature, rfl, bind_eq_ok.mpr ⟨(), h.valid, rfl⟩⟩

/-- What was signed is what is sent. -/
structure SignedAsSent (floats : FloatText) (body : Option Json) (request : ClientRequest)
    (input : SigningInput) (signature : String) : Prop where
  content : request.content = some input.payload
  json : request.json = none
  data : request.data = none
  decodes : (String.fromUTF8? input.payload).bind (jsonLoads floats) = body.map Json.toPy
  signature : ∃ name, fieldsNamed request.headers signatureHeader = [(name, signature)]

/-- The signing service was called once, and the signature covers what is sent. -/
def SignatureCovers (floats : FloatText) (body : Option Json) (request : ClientRequest)
    (calls : List SigningCall) : Prop :=
  ∃ input signature, calls = [⟨input, .ok signature⟩] ∧
    SignedAsSent floats body request input signature

/-- The bytes of a body decode to it. -/
theorem jsonLoads_serialized {floats : FloatText} {value : Json} (hvalue : value.Decoded)
    (hfloats : value.FloatsRead floats) {payload : ByteArray}
    (h : serializeJsonRequestBody floats value = .ok payload) :
    (String.fromUTF8? payload).bind (jsonLoads floats) = some value.toPy := by
  obtain ⟨text, htext, h⟩ := bind_eq_ok.mp h
  obtain rfl := Except.ok.inj h
  rw [fromUTF8?_toUTF8]
  exact jsonLoads_jsonDumps hvalue hfloats htext

/-- What goes out is what was signed exactly if no header has the name of the signature in
    another case. -/
theorem DispatchesSigned.signedAsSent_iff {policy : DetachedJwsPolicy}
    {service : FapiSigningService} {input : SigningInput} {signature : String}
    {form : Option (List (String × String))} {request : ClientRequest}
    (h : DispatchesSigned signing manifestStep policy prepared service input signature form request)
    (hhttpx : signing.httpx.Lawful)
    (hbody : ∀ value ∈ jsonBody prepared.body, value.Decoded ∧ value.FloatsRead signing.floats)
    (hnames : ((prepared.headers.getD []).map Prod.fst).Nodup) :
    SignedAsSent signing.floats (jsonBody prepared.body) request input signature ↔
      ¬HasOtherCase ((prepared.headers.getD []).map Prod.fst) := by
  obtain ⟨hmethod, value, hvalue, hpayload⟩ := detachedSigningInput_eq_ok h.signed
  obtain ⟨before, after, hfields, -⟩ := fieldsNamed_signHeaders hnames signature
  obtain ⟨hcontent, hjson, hdata, hheaders⟩ :=
    sendJsonRequest_bytes hhttpx hmethod (by rw [hfields]; simp) h.sent
  obtain ⟨hdecoded, hfloats⟩ := hbody value hvalue
  have hdecodes := jsonLoads_serialized hdecoded hfloats hpayload
  rw [← exists_fieldsNamed_signHeaders_iff hnames signature, ← hheaders]
  exact ⟨fun hsent => hsent.signature,
    fun hsignature => ⟨hcontent, hjson, hdata, hdecodes.trans (congrArg (Option.map Json.toPy) hvalue.symm),
      hsignature⟩⟩

end Dispatch

/-! ## Resolved requests -/

section Resolved

variable {external : ExternalParsers} {transport : StepTransport external}
  {context : ExecutionContext}

mutual

/-- A resolved value has the keys of its template. -/
theorem decoded_resolveInStructure {pyStr : Json → String} : ∀ {value resolved : Json},
    value.Decoded → resolveInStructure pyStr context value = .ok resolved → resolved.Decoded
  | .null, _, hdecoded, h => by
    cases h
    exact hdecoded
  | .bool _, _, hdecoded, h => by
    cases h
    exact hdecoded
  | .int _, _, hdecoded, h => by
    cases h
    exact hdecoded
  | .float _, _, hdecoded, h => by
    cases h
    exact hdecoded
  | .str _, _, _, h => by
    rw [resolveInStructure] at h
    obtain ⟨text, -, h⟩ := bind_eq_ok.mp h
    cases h
    exact .str text
  | .arr items, _, hdecoded, h => by
    rw [resolveInStructure] at h
    obtain ⟨resolved, hresolved, h⟩ := bind_eq_ok.mp h
    cases h
    cases hdecoded with
    | arr hitems => exact .arr (decoded_resolveInItems hitems hresolved)
  | .obj fields, _, hdecoded, h => by
    rw [resolveInStructure] at h
    obtain ⟨resolved, hresolved, h⟩ := bind_eq_ok.mp h
    cases h
    cases hdecoded with
    | obj hnodup hfields =>
      obtain ⟨hkeys, hvalues⟩ := decoded_resolveInFields hfields hresolved
      exact .obj (hkeys ▸ hnodup) hvalues

/-- Resolved items are decoded. -/
theorem decoded_resolveInItems {pyStr : Json → String} : ∀ {items resolved : List Json},
    (∀ item ∈ items, item.Decoded) → resolveInItems pyStr context items = .ok resolved →
      ∀ item ∈ resolved, item.Decoded
  | [], _, _, h => by
    cases h
    simp
  | child :: rest, _, hdecoded, h => by
    rw [resolveInItems] at h
    obtain ⟨resolved, hchild, h⟩ := bind_eq_ok.mp h
    obtain ⟨tail, htail, h⟩ := bind_eq_ok.mp h
    cases h
    rw [List.forall_mem_cons] at hdecoded ⊢
    exact ⟨decoded_resolveInStructure hdecoded.1 hchild, decoded_resolveInItems hdecoded.2 htail⟩

/-- Resolved members are decoded, under the same keys. -/
theorem decoded_resolveInFields {pyStr : Json → String} : ∀ {fields resolved : JsonObject},
    (∀ field ∈ fields, field.2.Decoded) → resolveInFields pyStr context fields = .ok resolved →
      fields.map Prod.fst = resolved.map Prod.fst ∧ ∀ field ∈ resolved, field.2.Decoded
  | [], _, _, h => by
    cases h
    simp
  | (key, child) :: rest, _, hdecoded, h => by
    rw [resolveInFields] at h
    obtain ⟨resolved, hchild, h⟩ := bind_eq_ok.mp h
    obtain ⟨tail, htail, h⟩ := bind_eq_ok.mp h
    cases h
    rw [List.forall_mem_cons] at hdecoded ⊢
    obtain ⟨hkeys, hvalues⟩ := decoded_resolveInFields hdecoded.2 htail
    exact ⟨congrArg (key :: ·) hkeys, decoded_resolveInStructure hdecoded.1 hchild, hvalues⟩

end

mutual

/-- A resolved value has the floats of its template. -/
theorem floatsIn_resolveInStructure {pyStr : Json → String} : ∀ {value resolved : Json},
    resolveInStructure pyStr context value = .ok resolved → resolved.floatsIn = value.floatsIn
  | .null, _, h => by
    cases h
    rfl
  | .bool _, _, h => by
    cases h
    rfl
  | .int _, _, h => by
    cases h
    rfl
  | .float _, _, h => by
    cases h
    rfl
  | .str _, _, h => by
    rw [resolveInStructure] at h
    obtain ⟨text, -, h⟩ := bind_eq_ok.mp h
    cases h
    rfl
  | .arr items, _, h => by
    rw [resolveInStructure] at h
    obtain ⟨resolved, hresolved, h⟩ := bind_eq_ok.mp h
    cases h
    exact floatsIn_resolveInItems hresolved
  | .obj fields, _, h => by
    rw [resolveInStructure] at h
    obtain ⟨resolved, hresolved, h⟩ := bind_eq_ok.mp h
    cases h
    exact floatsIn_resolveInFields hresolved

/-- Resolving items leaves their floats. -/
theorem floatsIn_resolveInItems {pyStr : Json → String} : ∀ {items resolved : List Json},
    resolveInItems pyStr context items = .ok resolved →
      floatsInItems resolved = floatsInItems items
  | [], _, h => by
    cases h
    rfl
  | child :: rest, _, h => by
    rw [resolveInItems] at h
    obtain ⟨resolved, hchild, h⟩ := bind_eq_ok.mp h
    obtain ⟨tail, htail, h⟩ := bind_eq_ok.mp h
    cases h
    rw [floatsInItems, floatsInItems, floatsIn_resolveInStructure hchild,
      floatsIn_resolveInItems htail]

/-- Resolving members leaves their floats. -/
theorem floatsIn_resolveInFields {pyStr : Json → String} : ∀ {fields resolved : JsonObject},
    resolveInFields pyStr context fields = .ok resolved →
      floatsInFields resolved = floatsInFields fields
  | [], _, h => by
    cases h
    rfl
  | (key, child) :: rest, _, h => by
    rw [resolveInFields] at h
    obtain ⟨resolved, hchild, h⟩ := bind_eq_ok.mp h
    obtain ⟨tail, htail, h⟩ := bind_eq_ok.mp h
    cases h
    rw [floatsInFields, floatsInFields, floatsIn_resolveInStructure hchild,
      floatsIn_resolveInFields htail]

end

/-- The headers of a step as they are in the manifest, by name. -/
def headerNames (request : ManifestRequest) : List String :=
  (request.headers.getD []).map Prod.fst

/-- Resolving a mapping leaves its names. -/
theorem resolveMapping_names {fields resolved : List (String × String)}
    (h : resolveMapping transport fields context = .ok resolved) :
    fields.map Prod.fst = resolved.map Prod.fst := by
  refine (List.mapM_eq_ok.mp h).map_eq fun field field' hfield => ?_
  obtain ⟨value, -, hfield⟩ := bind_eq_ok.mp hfield
  rw [← Except.ok.inj hfield]

/-- Resolving headers leaves their names. -/
theorem resolveHeaders_names {request : ManifestRequest}
    {headers : Option (List (String × String))}
    (h : resolveHeaders transport request.headers context = .ok headers) :
    headerNames request = (headers.getD []).map Prod.fst := by
  unfold headerNames
  cases hgiven : request.headers with
  | none =>
    rw [hgiven] at h
    cases h
    rfl
  | some given =>
    rw [hgiven] at h
    obtain ⟨resolved, hresolved, h⟩ := bind_eq_ok.mp h
    cases h
    exact resolveMapping_names hresolved

/-- A resolved body can be read back if its template can. -/
theorem resolveBody_readable {floats : FloatText} {body resolved : Option ManifestBody}
    (hbody : ∀ value, body = some (.json value) → value.Decoded ∧ value.FloatsRead floats)
    (h : resolveBody transport body context = .ok resolved) :
    ∀ value ∈ jsonBody resolved, value.Decoded ∧ value.FloatsRead floats := by
  intro value hvalue
  rcases body with _ | (given | fields)
  · cases h
    cases hvalue
  · obtain ⟨result, hresult, h⟩ := bind_eq_ok.mp h
    cases h
    obtain ⟨hdecoded, hfloats⟩ := hbody given rfl
    have hread : result.Decoded ∧ result.FloatsRead floats :=
      ⟨decoded_resolveInStructure hdecoded hresult,
        fun q hq => hfloats q (floatsIn_resolveInStructure hresult ▸ hq)⟩
    unfold jsonBody at hvalue
    split at hvalue
    · cases hvalue
    · rename_i heq
      cases heq
      cases hvalue
      exact hread
    · cases hvalue
  · obtain ⟨result, -, h⟩ := bind_eq_ok.mp h
    cases h
    cases hvalue

end Resolved

/-! ## Runs of a step -/

section Runs

variable {external : ExternalParsers} (transport : StepTransport external) (signing : StepSigning)
  (manifestStep : ManifestStep (requestParsers external)) (context : ExecutionContext)

/-- A step is dispatched: its request is resolved, and `client.request` is called. -/
def Dispatches (prepared : PreparedRequest) (request : ClientRequest) (calls : List SigningCall) :
    Prop :=
  prepareRequest transport manifestStep context = .ok prepared ∧
    dispatchPrepared signing manifestStep prepared = (.ok request, calls)

variable {transport signing manifestStep context}

/-- The signature covers what a dispatched step sends exactly if the manifest gives no header
    with the name of the signature in another case. -/
theorem signatureCovers_iff (hpolicy : (manifestStep.request : ManifestRequest).detachedJws ≠ none)
    (hnames : (headerNames manifestStep.request).Nodup)
    (hbody : ∀ value, (manifestStep.request : ManifestRequest).body = some (.json value) →
      value.Decoded ∧ value.FloatsRead signing.floats)
    (hhttpx : signing.httpx.Lawful)
    {prepared : PreparedRequest} {request : ClientRequest} {calls : List SigningCall}
    (hdispatches : Dispatches transport signing manifestStep context prepared request calls) :
    SignatureCovers signing.floats (jsonBody prepared.body) request calls ↔
      ¬HasOtherCase (headerNames manifestStep.request) := by
  obtain ⟨policy, hpolicy⟩ := Option.ne_none_iff_exists'.mp hpolicy
  obtain ⟨hprepared, hdispatch⟩ := hdispatches
  obtain ⟨-, hheaders, hresolved⟩ := prepareRequest_resolves hprepared
  obtain ⟨service, input, signature, form, rfl, hsigned⟩ :=
    (dispatchPrepared_eq_ok hpolicy).mp hdispatch
  rw [resolveHeaders_names hheaders] at hnames ⊢
  -- one signature was made, and it is the one to be sent
  rw [← hsigned.signedAsSent_iff hhttpx (resolveBody_readable hbody hresolved) hnames]
  constructor
  · rintro ⟨input', signature', hcalls, hsent⟩
    obtain ⟨rfl, hsignature⟩ := SigningCall.mk.inj (List.singleton_inj.mp hcalls)
    obtain rfl := Except.ok.inj hsignature
    exact hsent
  · exact fun hsent => ⟨input, signature, rfl, hsent⟩

end Runs

/-! ## A payment -/

/-- A signed payment with given headers. -/
def paymentStep (headers : List (String × String)) :
    ManifestStep (requestParsers literalParsers) where
  id := "payment"
  name := "payment"
  request := ({ method := .post
                url := "https://bank.example/open-banking/v4.0/pisp/domestic-payments"
                headers := some headers
                body := some (.json (.obj [("Amount", .str "1.00")]))
                detachedJws := some {} } : ManifestRequest)
  assertions := []
  warning := none
  mandatory := false
  optional := false
  group := "payment"
  phase := .execution
  tokenEndpointAuthPolicy := none
  requiredTokenId := none
  producesTokenId := none

/-- `httpx.Headers.__setitem__`: the first field of the name is replaced, the others go. -/
def setHeader (headers : HeaderFields) (name value : String) : HeaderFields :=
  match headers with
  | [] => [(name, value)]
  | header :: rest =>
    if sameHeaderName header.1 name then
      (name, value) :: rest.filter fun other => !sameHeaderName other.1 name
    else header :: setHeader rest name value

/-- The header map of httpx 0.28. -/
def httpxHeaders : HttpxHeaders where
  update headers others := headers.filter (fun header => fieldsNamed others header.1 = []) ++ others
  set := setHeader
  contains headers name := headers.any fun header => sameHeaderName header.1 name

/-- A header map whose `update` sets one field after the other. -/
def headersInTurn : HttpxHeaders :=
  { httpxHeaders with
    update := fun headers others => others.foldl (fun fields other =>
      setHeader fields other.1 other.2) headers }

theorem fieldsNamed_congr {name other : String} (h : sameHeaderName name other = true)
    (headers : HeaderFields) : fieldsNamed headers name = fieldsNamed headers other := by
  simp only [fieldsNamed, sameHeaderName, sameHeaderName_iff.mp h]

/-- The fields of a name once those of another are removed. -/
theorem fieldsNamed_filter (headers : HeaderFields) (name other : String) :
    fieldsNamed (headers.filter fun header => !sameHeaderName header.1 name) other =
      if sameHeaderName name other then [] else fieldsNamed headers other := by
  rw [fieldsNamed, List.filter_filter]
  split
  · rename_i hsame
    rw [sameHeaderName_iff] at hsame
    rw [List.filter_eq_nil_iff]
    intro field _
    simp [sameHeaderName, hsame]
  · rename_i hdiffer
    rw [sameHeaderName_iff] at hdiffer
    apply List.filter_congr
    intro field _
    by_cases hfield : headerKey field.1 = headerKey other
    · simp [sameHeaderName, hfield, Ne.symm hdiffer]
    · simp [sameHeaderName, hfield]

/-- A header that is set is the only field of its name. -/
theorem fieldsNamed_setHeader (headers : HeaderFields) (name value other : String) :
    fieldsNamed (setHeader headers name value) other =
      if sameHeaderName name other then [(name, value)] else fieldsNamed headers other := by
  induction headers with
  | nil => exact fieldsNamed_cons (name, value) [] other
  | cons header headers ih =>
    rw [setHeader, fieldsNamed_cons header]
    by_cases hsame : sameHeaderName header.1 name
    · rw [if_pos hsame, fieldsNamed_cons, fieldsNamed_filter]
      have hsame : sameHeaderName header.1 other = sameHeaderName name other := by
        rw [sameHeaderName, sameHeaderName_iff.mp hsame]
        rfl
      rw [hsame]
      by_cases hother : sameHeaderName name other
      · rw [if_pos hother, if_pos hother, if_pos hother]
      · rw [if_neg hother, if_neg hother, if_neg hother, if_neg hother]
    · rw [if_neg hsame, fieldsNamed_cons, ih]
      rw [sameHeaderName_iff] at hsame
      by_cases hother : sameHeaderName name other
      · rw [if_pos hother, if_pos hother, if_neg]
        rw [sameHeaderName_iff] at hother ⊢
        exact fun h => hsame (h.trans hother.symm)
      · rw [if_neg hother, if_neg hother]

/-- The fields of a name that `update` keeps. -/
theorem fieldsNamed_dropped (headers others : HeaderFields) (name : String) :
    fieldsNamed (headers.filter fun header => fieldsNamed others header.1 = []) name =
      if fieldsNamed others name = [] then fieldsNamed headers name else [] := by
  rw [fieldsNamed, List.filter_filter]
  split
  · rename_i hnone
    apply List.filter_congr
    intro field _
    by_cases hfield : sameHeaderName field.1 name
    · simp [fieldsNamed_congr hfield, hnone, hfield]
    · simp [hfield]
  · rename_i hsome
    rw [List.filter_eq_nil_iff]
    intro field _
    by_cases hfield : sameHeaderName field.1 name
    · simp [fieldsNamed_congr hfield, hsome]
    · simp [hfield]

/-- The headers of `httpx` are lawful. -/
theorem httpxHeaders_lawful : httpxHeaders.Lawful where
  update headers others name := by
    show fieldsNamed (headers.filter (fun header => fieldsNamed others header.1 = []) ++ others)
      name = _
    rw [fieldsNamed_append, fieldsNamed_dropped]
    split
    · rename_i hnone
      rw [hnone, List.append_nil]
    · exact List.nil_append _
  set := fieldsNamed_setHeader
  contains headers name := by
    rw [fieldsNamed_ne_nil]
    exact List.any_eq_true

/-- A signing service that is configured. -/
def paymentSigning (httpx : HttpxHeaders) : StepSigning where
  fapiSigningConfig := some .tlsClientAuth
  fapiSigningService := some (.ok (some ⟨fun _ => .ok "header..signature", fun _ => .ok "token"⟩))
  mtlsClientConfigured := true
  urlPath url := .ok (String.ofList (((url.toList.drop 8).dropWhile (· ≠ '/')).takeWhile
    fun c => c ≠ '?' && c ≠ '#'))
  floats := ratioText
  httpx := httpx

/-- What the client is given for a payment. -/
def sentPayment (httpx : HttpxHeaders) (headers : HeaderFields) (prepared : PreparedRequest) :
    Option (HeaderFields × List (Option String)) :=
  let (request, calls) := dispatchPrepared (paymentSigning httpx) (paymentStep headers) prepared
  request.toOption.map fun request =>
    (fieldsNamed request.headers signatureHeader, calls.map (·.outcome.toOption))

/-- The payment is sent, with the fields and the signature that are given. -/
theorem payment_dispatches (httpx : HttpxHeaders) (headers : HeaderFields)
    (sent : HeaderFields × List (Option String))
    (h : (prepareRequest followUpTransport (paymentStep headers) {}).toOption.any
      (fun prepared => sentPayment httpx headers prepared == some sent) = true) :
    ∃ prepared request calls, Dispatches followUpTransport (paymentSigning httpx)
      (paymentStep headers) {} prepared request calls ∧
        fieldsNamed request.headers signatureHeader = sent.1 ∧
        calls.map (·.outcome.toOption) = sent.2 := by
  obtain ⟨prepared, hprepared, hsent⟩ := exists_ok_of_any h
  unfold sentPayment at hsent
  cases hdispatch : dispatchPrepared (paymentSigning httpx) (paymentStep headers) prepared with
  | mk request calls =>
    rw [hdispatch] at hsent
    cases request with
    | error error => cases hsent
    | ok request =>
      obtain rfl := Option.some.inj (eq_of_beq hsent)
      exact ⟨prepared, request, calls, ⟨hprepared, hdispatch⟩, rfl, rfl⟩

theorem paymentStep_detachedJws (headers : HeaderFields) :
    ((paymentStep headers).request : ManifestRequest).detachedJws ≠ none :=
  Option.some_ne_none _

/-- The body of the payment is decoded and its floats are read back. -/
theorem paymentStep_body (headers : HeaderFields) (value : Json)
    (h : ((paymentStep headers).request : ManifestRequest).body = some (.json value)) :
    value.Decoded ∧ value.FloatsRead ratioText := by
  obtain rfl := ManifestBody.json.inj (Option.some.inj h)
  exact ⟨Json.decoded_of_isDecoded (by decide +kernel), fun q _ => ratioText_reads q⟩

/-- Headers of a payment with a signature of their own. -/
def ownSignature : HeaderFields := [("x-jws-signature", "old"), ("x-idempotency-key", "key")]

/-- Headers of a payment with its signature in both cases. -/
def bothCases : HeaderFields := [("x-jws-signature", "old"), ("X-JWS-Signature", "other")]

/-- A payment with a signature header of its own is covered. -/
theorem signatureCovers_iff_payment :
    ∃ prepared request calls, Dispatches followUpTransport (paymentSigning httpxHeaders)
      (paymentStep ownSignature) {} prepared request calls ∧
        fieldsNamed request.headers signatureHeader =
          [("x-jws-signature", "header..signature")] ∧
        SignatureCovers ratioText (jsonBody prepared.body) request calls := by
  obtain ⟨prepared, request, calls, hdispatches, hfields, -⟩ := payment_dispatches httpxHeaders
    ownSignature ([("x-jws-signature", "header..signature")], [some "header..signature"])
    (by decide +kernel)
  have hnames : (headerNames (paymentStep ownSignature).request).Nodup := by decide +kernel
  have hnot : ¬HasOtherCase (headerNames (paymentStep ownSignature).request) := by decide +kernel
  exact ⟨prepared, request, calls, hdispatches, hfields,
    (signatureCovers_iff (paymentStep_detachedJws ownSignature) hnames
      (paymentStep_body ownSignature) httpxHeaders_lawful hdispatches).mpr hnot⟩

/-- A field of another value than the signature. -/
theorem not_signatureCovers {floats : FloatText} {body : Option Json} {request : ClientRequest}
    {calls : List SigningCall} {field : String × String} {signature : String}
    (hfield : field ∈ fieldsNamed request.headers signatureHeader)
    (hcalls : calls.map (·.outcome.toOption) = [some signature]) (h : field.2 ≠ signature) :
    ¬SignatureCovers floats body request calls := by
  rintro ⟨input, returned, rfl, hsent⟩
  obtain ⟨name, hname⟩ := hsent.signature
  rw [hname, List.mem_singleton] at hfield
  subst hfield
  exact h (Option.some.inj (List.singleton_inj.mp hcalls))

/-- The signature does not cover a payment that is sent with another `X-JWS-Signature`. -/
theorem exists_uncovered {httpx : HttpxHeaders} {sent : HeaderFields}
    (hother : ("X-JWS-Signature", "other") ∈ sent)
    (hsent : (prepareRequest followUpTransport (paymentStep bothCases) {}).toOption.any
      (fun prepared => sentPayment httpx bothCases prepared ==
        some (sent, [some "header..signature"])) = true) :
    ∃ prepared request calls, Dispatches followUpTransport (paymentSigning httpx)
      (paymentStep bothCases) {} prepared request calls ∧
        fieldsNamed request.headers signatureHeader = sent ∧
        ¬SignatureCovers ratioText (jsonBody prepared.body) request calls := by
  obtain ⟨prepared, request, calls, hdispatches, hfields, hcalls⟩ :=
    payment_dispatches httpx bothCases (sent, [some "header..signature"]) hsent
  have hfield : ("X-JWS-Signature", "other") ∈ fieldsNamed request.headers signatureHeader := by
    rw [hfields]
    exact hother
  exact ⟨prepared, request, calls, hdispatches, hfields,
    not_signatureCovers hfield hcalls (by decide +kernel)⟩

/-- An `X-JWS-Signature` behind an `x-jws-signature` is sent beside the signature, and in its
    place if `update` sets one field after the other. -/
theorem payment_not_covered :
    (∃ prepared request calls, Dispatches followUpTransport (paymentSigning httpxHeaders)
      (paymentStep bothCases) {} prepared request calls ∧
        fieldsNamed request.headers signatureHeader =
          [("x-jws-signature", "header..signature"), ("X-JWS-Signature", "other")] ∧
        ¬SignatureCovers ratioText (jsonBody prepared.body) request calls) ∧
    ∃ prepared request calls, Dispatches followUpTransport (paymentSigning headersInTurn)
      (paymentStep bothCases) {} prepared request calls ∧
        fieldsNamed request.headers signatureHeader = [("X-JWS-Signature", "other")] ∧
        ¬SignatureCovers ratioText (jsonBody prepared.body) request calls := by
  constructor
  · exact exists_uncovered (by decide) (by decide +kernel)
  · exact exists_uncovered (by decide) (by decide +kernel)

end Conformance
