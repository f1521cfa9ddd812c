import Conformance.Spec.SignedRequests

/-!
# Headers as they are sent

The names and the values of the headers of a manifest are checked when it is parsed, and
the values once more when they are resolved. The fields of the request that goes out are
those headers, and the defaults of `send_json` for names that the manifest leaves out. The
pattern of a name also matches before a line feed at its end, and names that differ in case
are sent beside each other.

## Key results

- `headerNamePatternMatch_iff`, `validateHeaderValue_eq_ok`: what is accepted
- `fieldsNamed_sendJsonRequest`: the fields that are sent
- `Dispatches.sentAsGiven_iff`: when a dispatched step sends one field of each name
-/

namespace Conformance

open Except

/-! ## Names and values -/

/-- An RFC 7230 token. -/
def IsHeaderName (name : String) : Prop :=
  name.toList ≠ [] ∧ ∀ c ∈ name.toList, isHeaderNameChar c = true

/-- Tabs and printable ASCII characters, of which not all are blank. -/
def IsHeaderValue (value : String) : Prop :=
  strip value ≠ "" ∧ ∀ c ∈ value.toList, c.toNat = 0x09 ∨ (0x20 ≤ c.toNat ∧ c.toNat ≤ 0x7e)

/-- A line feed ends a name. -/
def EndsWithLineFeed (name : String) : Prop := name.toList.getLast? = some '\n'

instance (name : String) : Decidable (EndsWithLineFeed name) :=
  inferInstanceAs (Decidable (_ = _))

/-- A header name does not end in a line feed. -/
theorem IsHeaderName.not_endsWithLineFeed {name : String} (h : IsHeaderName name) :
    ¬EndsWithLineFeed name := fun hlast => by
  have hchar := h.2 '\n' (List.mem_of_getLast? hlast)
  revert hchar
  decide

/-- The pattern accepts the tokens, and no other name but with a line feed at its end. -/
theorem headerNamePatternMatch_iff {name : String} (h : headerNamePatternMatch name = true) :
    IsHeaderName name ↔ ¬EndsWithLineFeed name := by
  refine ⟨IsHeaderName.not_endsWithLineFeed, fun hlast => ?_⟩
  simp only [headerNamePatternMatch, Bool.or_eq_true, Bool.and_eq_true, Bool.not_eq_true',
    List.isEmpty_eq_false_iff, List.all_eq_true, beq_iff_eq] at h
  exact h.elim id fun hfeed => absurd hfeed.1 hlast

/-- The header values that are accepted. -/
theorem validateHeaderValue_eq_ok {value location : String} :
    validateHeaderValue value location = .ok () ↔ IsHeaderValue value := by
  simp only [validateHeaderValue, bind_eq_ok, raiseIf_eq_ok, exists_const, IsHeaderValue]
  refine and_congr Iff.rfl ?_
  cases hfind : value.toList.find? fun c =>
      !(c.toNat == 0x09 || (0x20 ≤ c.toNat && c.toNat ≤ 0x7e)) with
  | none =>
    rw [List.find?_eq_none] at hfind
    simpa [or_iff_not_imp_left] using hfind
  | some badChar =>
    have hbad := List.find?_some hfind
    refine iff_of_false (by simp) fun hall => ?_
    have hchar := hall badChar (List.mem_of_find?_eq_some hfind)
    simp at hbad
    omega

/-- What `_parse_v1_headers` accepts. -/
theorem parseV1Header_eq_ok {location : String} {seenIds : List String} {field : String × Json}
    {header : String × String} (h : parseV1Header location seenIds field = .ok header) :
    header.1 = field.1 ∧ headerNamePatternMatch header.1 = true ∧ IsHeaderValue header.2 := by
  unfold parseV1Header at h
  obtain ⟨_, hname, h⟩ := bind_eq_ok.mp h
  rw [raiseIf_eq_ok, Bool.not_eq_false] at hname
  cases hvalue : field.2 with
  | str value =>
    rw [hvalue] at h
    obtain ⟨_, hvalid, h⟩ := bind_eq_ok.mp h
    obtain ⟨_, -, h⟩ := bind_eq_ok.mp h
    obtain rfl := Except.ok.inj h
    exact ⟨rfl, hname, validateHeaderValue_eq_ok.mp hvalid⟩
  | null | bool | int | float | arr | obj =>
    rw [hvalue] at h
    cases h

/-- The names that a raw request gives headers. -/
def rawHeaderNames (rawRequest : JsonObject) : List String :=
  match rawRequest.lookup "headers" with
  | some (.obj rawHeaders) => rawHeaders.map Prod.fst
  | _ => []

/-- The headers that are parsed are those of the request, and each is checked. -/
theorem parseV1Headers_eq_ok {rawRequest : JsonObject} {location : String} {seenIds : List String}
    {headers : Option (List (String × String))}
    (h : parseV1Headers rawRequest location seenIds = .ok headers) :
    (headers.getD []).map Prod.fst = rawHeaderNames rawRequest ∧
      ∀ header ∈ headers.getD [],
        headerNamePatternMatch header.1 = true ∧ IsHeaderValue header.2 := by
  unfold parseV1Headers at h
  unfold rawHeaderNames
  cases hraw : rawRequest.lookup "headers" with
  | none =>
    rw [hraw] at h
    obtain rfl := Except.ok.inj h
    simp
  | some value =>
    rw [hraw] at h
    cases value with
    | obj rawHeaders =>
      obtain ⟨parsed, hparsed, h⟩ := bind_eq_ok.mp h
      obtain rfl := Except.ok.inj h
      have hpairs := List.mapM_eq_ok.mp hparsed
      refine ⟨(hpairs.map_eq fun field header hheader => (parseV1Header_eq_ok hheader).1.symm).symm,
        fun header hheader => ?_⟩
      obtain ⟨field, -, hfield⟩ := hpairs.exists_of_mem_right hheader
      exact (parseV1Header_eq_ok hfield).2
    | null | bool | int | float | str | arr => cases h

/-! ## The fields of a request -/

/-- Fields related one by one are related name by name. -/
theorem fieldsNamed_forall₂ {R : String × String → String × String → Prop}
    {fields sent : HeaderFields} (h : List.Forall₂ R fields sent)
    (hname : ∀ field other, R field other → field.1 = other.1) (name : String) :
    List.Forall₂ R (fieldsNamed fields name) (fieldsNamed sent name) := by
  induction h with
  | nil => exact .nil
  | @cons field other _ _ hfield _ ih =>
    rw [fieldsNamed_cons, fieldsNamed_cons, ← hname field other hfield]
    split
    · exact .cons hfield ih
    · exact ih

/-- The headers of a name resolve to the resolved headers of that name. -/
theorem resolveMapping_fieldsNamed {external : ExternalParsers} {transport : StepTransport external}
    {context : ExecutionContext} {fields resolved : HeaderFields}
    (h : resolveMapping transport fields context = .ok resolved) (name : String) :
    List.Forall₂ (fun field sent => field.1 = sent.1 ∧
        resolvePlaceholders transport.pyStr field.2 context = .ok sent.2)
      (fieldsNamed fields name) (fieldsNamed resolved name) := by
  refine fieldsNamed_forall₂ ((List.mapM_eq_ok.mp h).imp fun field sent hsent => ?_)
    (fun _ _ hfield => hfield.1) name
  obtain ⟨value, hvalue, hsent⟩ := bind_eq_ok.mp hsent
  obtain rfl := Except.ok.inj hsent
  exact ⟨rfl, hvalue⟩

/-- No two header names are equal up to case. -/
def CaseDistinct (names : List String) : Prop := (names.map headerKey).Nodup

instance (names : List String) : Decidable (CaseDistinct names) :=
  inferInstanceAs (Decidable (List.Nodup _))

/-- The fields of a name are as many as its spellings. -/
theorem length_fieldsNamed (headers : HeaderFields) (name : String) :
    (fieldsNamed headers name).length =
      ((headers.map Prod.fst).map headerKey).count (headerKey name) := by
  induction headers with
  | nil => rfl
  | cons header rest ih =>
    rw [fieldsNamed_cons, List.map_cons, List.map_cons, List.count_cons, ← ih]
    split
    · rename_i hsame
      rw [sameHeaderName] at hsame
      rw [if_pos hsame, List.length_cons]
    · rename_i hdiffer
      rw [sameHeaderName] at hdiffer
      rw [if_neg hdiffer, Nat.add_zero]

/-- Names are distinct up to case exactly if each of them has one field. -/
theorem caseDistinct_iff {headers : HeaderFields} :
    CaseDistinct (headers.map Prod.fst) ↔ ∀ name, (fieldsNamed headers name).length ≤ 1 := by
  rw [CaseDistinct, List.nodup_iff_count_le_one]
  constructor
  · intro h name
    rw [length_fieldsNamed]
    exact h _
  · intro h key
    by_cases hkey : key ∈ (headers.map Prod.fst).map headerKey
    · obtain ⟨name, -, rfl⟩ := List.mem_map.mp hkey
      rw [← length_fieldsNamed]
      exact h name
    · rw [List.count_eq_zero_of_not_mem hkey]
      exact Nat.zero_le _

/-- The defaults with the `Content-Type` field of a form. -/
theorem fieldsNamed_defaults (name : String) :
    fieldsNamed [acceptJson, formContentType] name =
      if sameHeaderName formContentType.1 name then [formContentType]
      else fieldsNamed [acceptJson] name := by
  have hdiffer : headerKey "Accept" ≠ headerKey "Content-Type" := by decide +kernel
  rw [← List.singleton_append, fieldsNamed_append, fieldsNamed_cons formContentType]
  by_cases hname : sameHeaderName formContentType.1 name
  · have haccept : ¬sameHeaderName acceptJson.1 name := fun h =>
      hdiffer ((sameHeaderName_iff.mp h).trans (sameHeaderName_iff.mp hname).symm)
    rw [if_pos hname, if_pos hname, fieldsNamed_cons, if_neg haccept]
    rfl
  · rw [if_neg hname, if_neg hname]
    exact List.append_nil _

/-- The fields that `send_json` starts with. -/
theorem fieldsNamed_start {httpx : HttpxHeaders} (hhttpx : httpx.Lawful) (headers : HeaderFields)
    (name : String) :
    fieldsNamed (if headers = [] then [acceptJson] else httpx.update [acceptJson] headers) name =
      if fieldsNamed headers name = [] then fieldsNamed [acceptJson] name
      else fieldsNamed headers name := by
  split
  · rename_i hnone
    subst hnone
    exact (if_pos rfl).symm
  · exact hhttpx.update _ _ _

/-- The fields of each name that is given, and the defaults for other names. -/
theorem fieldsNamed_sendJsonRequest {httpx : HttpxHeaders} (hhttpx : httpx.Lawful)
    {method : HttpMethod} {url : String} {headers : Option HeaderFields}
    {form : Option (List (String × String))} {body : Option Json} {request : ClientRequest}
    (h : sendJsonRequest httpx method url headers { jsonBody := body, formBody := form } =
      .ok request) :
    ∃ defaults ∈ [[acceptJson], [acceptJson, formContentType]], ∀ name,
      fieldsNamed request.headers name =
        if fieldsNamed (headers.getD []) name = [] then fieldsNamed defaults name
        else fieldsNamed (headers.getD []) name := by
  unfold sendJsonRequest at h
  obtain ⟨_, -, h⟩ := bind_eq_ok.mp h
  obtain ⟨_, -, h⟩ := bind_eq_ok.mp h
  obtain rfl := Except.ok.inj h
  dsimp only
  have hbytes : (if method ∈ [HttpMethod.post, .put, .patch, .delete] then
      ({ jsonBody := body, formBody := form } : RequestBodies) else {}).jsonBodyBytes = none := by
    split <;> rfl
  generalize (if method ∈ [HttpMethod.post, .put, .patch, .delete] then
      ({ jsonBody := body, formBody := form } : RequestBodies) else {}) = bodies at hbytes ⊢
  rw [hbytes]
  simp only [Option.isSome_none, Bool.false_and, Bool.false_eq_true, if_false]
  have hstart := fieldsNamed_start hhttpx (headers.getD [])
  generalize (if headers.getD [] = [] then [acceptJson]
    else httpx.update [acceptJson] (headers.getD [])) = start at hstart ⊢
  split
  · rename_i hcontent
    rw [Bool.and_eq_true, Bool.not_eq_true', ← Bool.not_eq_true, hhttpx.contains, not_not]
      at hcontent
    refine ⟨[acceptJson, formContentType], by simp, fun name => ?_⟩
    rw [hhttpx.set, fieldsNamed_defaults]
    -- the content type of a form is set only where none was given
    by_cases hname : sameHeaderName formContentType.1 name
    · have hlower : sameHeaderName "content-type" name = true := by
        have hkey : headerKey "content-type" = headerKey "Content-Type" := by decide +kernel
        exact sameHeaderName_iff.mpr (hkey.trans (sameHeaderName_iff.mp hname))
      have hnone : fieldsNamed (headers.getD []) name = [] := by
        have hstart := hstart name
        rw [← fieldsNamed_congr hlower, hcontent.2] at hstart
        by_contra hsome
        rw [if_neg hsome] at hstart
        exact hsome hstart.symm
      rw [if_pos hname, if_pos hnone, if_pos hname]
    · rw [if_neg hname, if_neg hname]
      exact hstart name
  · exact ⟨[acceptJson], by simp, hstart⟩

/-! ## Dispatched steps -/

/-- The fields that are sent for headers of a manifest: for each of their names one, the
    last, with its value in the context, and the defaults for other names. -/
def SentAsGiven (pyStr : Json → String) (context : ExecutionContext)
    (headers sent : HeaderFields) : Prop :=
  ∃ defaults ∈ [[acceptJson], [acceptJson, formContentType]], ∀ name,
    match (fieldsNamed headers name).getLast? with
    | some header => ∃ value, resolvePlaceholders pyStr header.2 context = .ok value ∧
        fieldsNamed sent name = [(header.1, value)]
    | none => fieldsNamed sent name = fieldsNamed defaults name

section Dispatched

variable {external : ExternalParsers} {transport : StepTransport external} {signing : StepSigning}
  {manifestStep : ManifestStep (requestParsers external)} {context : ExecutionContext}
  {prepared : PreparedRequest} {request : ClientRequest} {calls : List SigningCall}

/-- The headers of a step, resolved. -/
theorem prepareRequest_headers
    (h : prepareRequest transport manifestStep context = .ok prepared) :
    resolveMapping transport ((manifestStep.request : ManifestRequest).headers.getD []) context =
      .ok (prepared.headers.getD []) := by
  obtain ⟨-, hheaders, -⟩ := prepareRequest_resolves h
  cases hgiven : (manifestStep.request : ManifestRequest).headers with
  | none =>
    rw [hgiven] at hheaders
    obtain hnone : none = prepared.headers := Except.ok.inj hheaders
    rw [← hnone]
    rfl
  | some fields =>
    rw [hgiven] at hheaders
    obtain ⟨resolved, hmapping, hsome⟩ := bind_eq_ok.mp hheaders
    rw [← Except.ok.inj hsome]
    exact hmapping

/-- A step without a detached signature sends the headers of its manifest as they are given exactly
    if no two of their names are equal up to case. -/
theorem Dispatches.sentAsGiven_iff (hhttpx : signing.httpx.Lawful)
    (h : Dispatches transport signing manifestStep context prepared request calls)
    (hunsigned : (manifestStep.request : ManifestRequest).detachedJws = none) :
    SentAsGiven transport.pyStr context
        ((manifestStep.request : ManifestRequest).headers.getD []) request.headers ↔
      CaseDistinct (headerNames manifestStep.request) := by
  obtain ⟨hprepared, hdispatch⟩ := h
  have hresolved := resolveMapping_fieldsNamed (prepareRequest_headers hprepared)
  dsimp only [dispatchPrepared] at hdispatch
  rw [hunsigned] at hdispatch
  obtain ⟨signed, hsigned, hsent⟩ := bind_eq_ok.mp (Prod.mk.inj hdispatch).1
  obtain rfl := Except.ok.inj hsigned
  obtain ⟨form, -, hsent⟩ := bind_eq_ok.mp hsent
  obtain ⟨defaults, hdefaults, hfields⟩ := fieldsNamed_sendJsonRequest hhttpx hsent
  unfold headerNames
  rw [caseDistinct_iff]
  constructor
  · rintro ⟨_, -, hgiven⟩ name
    -- one field is sent for the name, so no more than one was given
    have hone := hgiven name
    have hpairs := hresolved name
    cases hlast : (fieldsNamed ((manifestStep.request : ManifestRequest).headers.getD []) name).getLast?
      with
    | none => simp [List.getLast?_eq_none_iff.mp hlast]
    | some header =>
      rw [hlast] at hone
      obtain ⟨value, -, hone⟩ := hone
      rw [hfields name] at hone
      split at hone
      · rename_i hnone
        rw [hpairs.length_eq, hnone]
        exact Nat.zero_le _
      · rw [hpairs.length_eq, hone]
        exact le_refl _
  · intro hdistinct
    refine ⟨defaults, hdefaults, fun name => ?_⟩
    -- at most one field was given, and it is sent as it resolves
    have hone := hdistinct name
    have hpairs := hresolved name
    rw [hfields name]
    revert hone hpairs
    generalize fieldsNamed ((manifestStep.request : ManifestRequest).headers.getD []) name = given
    generalize fieldsNamed (prepared.headers.getD []) name = sent
    intro hone hpairs
    cases hpairs with
    | nil => rfl
    | @cons header field given sent hpair hrest =>
      obtain rfl : given = [] := List.length_eq_zero_iff.mp (by simpa using hone)
      cases hrest
      refine ⟨field.2, hpair.2, (if_neg (List.cons_ne_nil _ _)).trans ?_⟩
      show [field] = [(header.1, field.2)]
      rw [hpair.1]

end Dispatched

/-- The headers resolve to values that may be sent, in some context. -/
def Resolvable (headers : HeaderFields) : Prop :=
  ∃ pyStr context, ∀ header ∈ headers, ∃ value,
    resolvePlaceholders pyStr header.2 context = .ok value ∧ IsHeaderValue value

/-- A dispatched step shows that its headers can be resolved. -/
theorem Dispatches.resolvable {external : ExternalParsers} {transport : StepTransport external}
    {signing : StepSigning} {manifestStep : ManifestStep (requestParsers external)}
    {context : ExecutionContext} {prepared : PreparedRequest} {request : ClientRequest}
    {calls : List SigningCall}
    (h : Dispatches transport signing manifestStep context prepared request calls) :
    Resolvable ((manifestStep.request : ManifestRequest).headers.getD []) := by
  have hresolved := List.mapM_eq_ok.mp (prepareRequest_headers h.1)
  obtain ⟨-, -, hvalid, -⟩ := exists_prepareRequest_iff.mp ⟨prepared.evidence, h.1⟩
  refine ⟨transport.pyStr, context, fun header hheader => ?_⟩
  obtain ⟨field, hfield, hround⟩ := hresolved.exists_of_mem_left hheader
  obtain ⟨value, hvalue, hpair⟩ := bind_eq_ok.mp hround
  have hfieldValue : value = field.2 := congrArg Prod.snd (Except.ok.inj hpair)
  subst hfieldValue
  exact ⟨field.2, hvalue, validateHeaderValue_eq_ok.mp (hvalid field hfield)⟩

/-- A `GET` with given headers. -/
def headersStep (headers : Option HeaderFields) : ManifestStep (requestParsers literalParsers) :=
  { paymentStep [] with
    request := ({ method := .get, url := "https://bank.example/accounts", headers := headers,
                  body := none, detachedJws := none } : ManifestRequest) }

/-- A step with headers that can be resolved can be dispatched. -/
theorem Resolvable.dispatches {headers : Option HeaderFields} (h : Resolvable (headers.getD [])) :
    ∃ (transport : StepTransport literalParsers) (context : ExecutionContext)
      (prepared : PreparedRequest) (request : ClientRequest) (calls : List SigningCall),
      Dispatches transport (paymentSigning httpxHeaders) (headersStep headers) context prepared
        request calls := by
  obtain ⟨pyStr, context, hvalues⟩ := h
  let transport : StepTransport literalParsers := { followUpTransport with pyStr := pyStr }
  have hresolves : ∃ resolved, resolveHeaders transport headers context = .ok resolved ∧
      ∀ header ∈ resolved.getD [], IsHeaderValue header.2 := by
    cases headers with
    | none => exact ⟨none, rfl, by simp⟩
    | some given =>
      obtain ⟨resolved, hresolved⟩ := (List.exists_mapM_eq_ok
        (f := fun field : String × String => do
          let value ← resolvePlaceholders pyStr field.2 context
          return (field.1, value)) (l := given)).mpr fun header hheader => by
        obtain ⟨value, hvalue, -⟩ := hvalues header hheader
        exact ⟨(header.1, value), bind_eq_ok.mpr ⟨value, hvalue, rfl⟩⟩
      refine ⟨some resolved, bind_eq_ok.mpr ⟨resolved, hresolved, rfl⟩, fun field hfield => ?_⟩
      obtain ⟨header, hheader, hround⟩ :=
        (List.mapM_eq_ok.mp hresolved).exists_of_mem_right hfield
      obtain ⟨value, hvalue, hpair⟩ := bind_eq_ok.mp hround
      obtain rfl := Except.ok.inj hpair
      obtain ⟨value', hvalue', hvalid⟩ := hvalues header hheader
      exact Except.ok.inj (hvalue'.symm.trans hvalue) ▸ hvalid
  obtain ⟨resolved, hheaders, hvalid⟩ := hresolves
  have hurl : resolvePlaceholders pyStr "https://bank.example/accounts" context =
      .ok "https://bank.example/accounts" := if_pos (by decide +kernel)
  have hready : ∃ evidence, prepareRequest transport (headersStep headers) context =
      .ok { url := "https://bank.example/accounts", headers := resolved, body := none,
            evidence := evidence } :=
    exists_prepareRequest_iff.mpr ⟨hurl, hheaders, fun header hheader =>
      validateHeaderValue_eq_ok.mpr (hvalid header hheader), rfl, rfl⟩
  obtain ⟨evidence, hprepared⟩ := hready
  exact ⟨transport, context, _, _, [], hprepared, rfl⟩

/-- The headers of a request are transportable and unambiguous. -/
structure HeadersSentAsGiven (headers : Option HeaderFields) : Prop where
  names : ∀ header ∈ headers.getD [], IsHeaderName header.1
  values : ∀ header ∈ headers.getD [], IsHeaderValue header.2
  sent : ∀ {external : ExternalParsers} (transport : StepTransport external)
    (signing : StepSigning) (manifestStep : ManifestStep (requestParsers external))
    (context : ExecutionContext) (prepared : PreparedRequest) (request : ClientRequest)
    (calls : List SigningCall), signing.httpx.Lawful →
      (manifestStep.request : ManifestRequest).headers = headers →
      (manifestStep.request : ManifestRequest).detachedJws = none →
      Dispatches transport signing manifestStep context prepared request calls →
      SentAsGiven transport.pyStr context (headers.getD []) request.headers

/-- Accepted headers are sent as they are given exactly if no name ends with a line feed and no two
    names are equal up to case, or no context gives values for them. -/
theorem headersSentAsGiven_iff {rawRequest : JsonObject} {location : String}
    {seenIds : List String} {headers : Option HeaderFields}
    (hparsed : parseV1Headers rawRequest location seenIds = .ok headers) :
    HeadersSentAsGiven headers ↔
      (∀ name ∈ rawHeaderNames rawRequest, ¬EndsWithLineFeed name) ∧
        (CaseDistinct (rawHeaderNames rawRequest) ∨ ¬Resolvable (headers.getD [])) := by
  obtain ⟨hraw, hheaders⟩ := parseV1Headers_eq_ok hparsed
  rw [← hraw]
  constructor
  · intro h
    refine ⟨fun name hname => ?_, ?_⟩
    · obtain ⟨header, hheader, rfl⟩ := List.mem_map.mp hname
      exact (h.names header hheader).not_endsWithLineFeed
    -- headers that resolve are dispatched by some step, which shows their names
    · rw [or_iff_not_imp_right, not_not]
      intro hresolvable
      obtain ⟨transport, context, prepared, request, calls, hdispatches⟩ := hresolvable.dispatches
      exact (hdispatches.sentAsGiven_iff httpxHeaders_lawful rfl).mp
        (h.sent _ _ _ _ _ _ _ httpxHeaders_lawful rfl rfl hdispatches)
  · rintro ⟨hfeed, hdistinct⟩
    exact {
      names := fun header hmem => (headerNamePatternMatch_iff (hheaders header hmem).1).mpr
        (hfeed header.1 (List.mem_map_of_mem hmem))
      values := fun header hmem => (hheaders header hmem).2
      sent := by
        rintro _ transport signing manifestStep context prepared request calls hhttpx rfl hunsigned
          hdispatches
        exact (hdispatches.sentAsGiven_iff hhttpx hunsigned).mpr
          (hdistinct.resolve_right fun hnot => hnot hdispatches.resolvable) }

/-- Two headers of different names. -/
theorem headersSentAsGiven_iff_accept :
    HeadersSentAsGiven (some [("Accept", "text/plain"), ("X-Trace", "1")]) := by
  refine (@headersSentAsGiven_iff [("headers", .obj [("Accept", .str "text/plain"),
    ("X-Trace", .str "1")])] "request" [] _ (by decide +kernel)).mpr ⟨?_, .inl ?_⟩
  · decide +kernel
  · decide +kernel

/-- A name with a line feed at its end is accepted. -/
theorem lineFeedName_accepted :
    parseV1Headers [("headers", .obj [("X-Trace\n", .str "1")])] "request" [] =
        .ok (some [("X-Trace\n", "1")]) ∧
      ¬HeadersSentAsGiven (some [("X-Trace\n", "1")]) :=
  ⟨by decide +kernel, fun h => (h.names _ (List.mem_singleton.mpr rfl)).not_endsWithLineFeed
    (by decide)⟩

end Conformance
