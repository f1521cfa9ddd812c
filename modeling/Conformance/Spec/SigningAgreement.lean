import Conformance.Native.SigningService
import Conformance.Spec.JsonObjects
import Conformance.Spec.SignatureErrors

/-!
# Signing and verification agree

The protected header of the signing service is accepted by the response validation exactly
when it is the complete header of the v3.1.4+ profile. A signature under it is accepted for
its own payload alone, and with those JWKS documents whose first key with the key id is
the public key.

## Key results

- `protectedHeader_accepted_iff`: the headers that are accepted
- `selectVerificationKey_eq_ok_iff`: the key that is used
- `validateObResponseSignature_signed_iff`: the signatures that are accepted
-/

namespace Conformance

open Except

/-! ## Accepted headers -/

/-- An accepted header lists every Open Banking header as critical. -/
theorem mem_criticalHeaders_of_validate {header : PyObject}
    {validation : ResponseSignatureValidation}
    (h : validateProtectedHeader header = .ok validation) :
    ∃ critHeader, criticalHeaders (headerValue header "crit") = .ok critHeader ∧
      ∀ name ∈ requiredOpenBankingCriticalHeaders, PyStr.ofString name ∈ critHeader := by
  unfold validateProtectedHeader at h
  obtain ⟨_, -, h⟩ := bind_eq_ok.mp h
  obtain ⟨_, -, h⟩ := bind_eq_ok.mp h
  obtain ⟨_, -, h⟩ := bind_eq_ok.mp h
  obtain ⟨_, -, h⟩ := bind_eq_ok.mp h
  obtain ⟨critHeader, hcrit, h⟩ := bind_eq_ok.mp h
  obtain ⟨_, -, h⟩ := bind_eq_ok.mp h
  obtain ⟨_, hmissing, -⟩ := bind_eq_ok.mp h
  rw [raiseIf_eq_ok, not_not, List.filter_eq_nil_iff] at hmissing
  exact ⟨critHeader, hcrit, fun name hname => by simpa using hmissing name hname⟩

/-- The list of a `crit` header. -/
def critItems (texts : List String) : Json := .arr (texts.map .str)

/-- A field of a header that was written, as it is read. -/
theorem headerValue_fieldsToPy (header : JsonObject) (key : String) :
    headerValue (fieldsToPy header) key = ((header.lookup key).map Json.toPy).getD .null := by
  unfold headerValue
  induction header with
  | nil => rfl
  | cons field rest ih =>
    obtain ⟨name, value⟩ := field
    rw [fieldsToPy, List.lookup_cons, List.lookup_cons]
    by_cases hname : key = name
    · subst hname
      simp
    · have hpy : (PyStr.ofString key == PyStr.ofString name) = false := by
        rw [beq_eq_false_iff_ne]
        exact fun heq => hname (PyStr.ofString_injective heq)
      rw [hpy, beq_false_of_ne hname]
      exact ih

/-- A list of texts is a list of strings. -/
theorem stringItems_map (texts : List String) :
    stringItems (itemsToPy (texts.map .str)) = some (texts.map .ofString) := by
  induction texts with
  | nil => rfl
  | cons text texts ih =>
    rw [List.map_cons, itemsToPy, Json.toPy, stringItems, ih, Option.map_some, List.map_cons]

theorem criticalHeaders_critItems (texts : List String) :
    criticalHeaders (critItems texts).toPy = .ok (texts.map .ofString) := by
  rw [critItems, Json.toPy, criticalHeaders, stringItems_map]

/-- Stripping a text is stripping its string. -/
theorem PyStr.strip_ofString (text : String) :
    (PyStr.ofString text).strip = .ofString (Conformance.strip text) := by
  have hspace : CodePoint.isSpace ∘ CodePoint.scalar = isSpace := rfl
  rw [PyStr.strip, PyStr.ofString, PyStr.ofString, Conformance.strip, String.toList_ofList,
    List.dropWhile_map, hspace, List.rdropWhile, List.rdropWhile, ← List.map_reverse,
    List.dropWhile_map, hspace, List.map_reverse]

theorem PyStr.ofString_eq_nil {text : String} : PyStr.ofString text = [] ↔ text = "" := by
  rw [PyStr.ofString, List.map_eq_nil_iff, ← String.toList_eq_nil_iff]

/-- A required header that was written as a text. -/
theorem requiredHeaderString_eq_ok {header : JsonObject} {key value : String} {text : PyStr}
    (h : header.lookup key = some (.str value)) :
    requiredHeaderString (fieldsToPy header) key = .ok text ↔
      strip value ≠ "" ∧ .ofString (strip value) = text := by
  rw [requiredHeaderString, headerValue_fieldsToPy, h, Option.map_some, Option.getD_some,
    Json.toPy]
  simp only [PyStr.strip_ofString, PyStr.ofString_eq_nil]
  split
  · rename_i hblank
    exact iff_of_false (fun h => by cases h) (fun h => h.1 hblank)
  · rename_i hblank
    exact ⟨fun h => ⟨hblank, Except.ok.inj h⟩, fun h => congrArg Except.ok h.2⟩

/-- What is read from the complete header. -/
def completeValidation (keyId issuer : String) : ResponseSignatureValidation :=
  ⟨.ofString (strip keyId), .ofString (strip issuer), .ofString openBankingTrustAnchor⟩

@[simp] theorem completeValidation_keyId (keyId issuer : String) :
    (completeValidation keyId issuer).keyId = .ofString (strip keyId) := rfl

/-- The complete header has no `b64`, so that its critical headers need not name it. -/
theorem validateB64Profile_obProtectedHeader {keyId issuer : String} {issuedAt : Int} :
    validateB64Profile (fieldsToPy (obProtectedHeader keyId issuer issuedAt))
      (requiredOpenBankingCriticalHeaders.map .ofString) = .ok () := by
  have hb64 : headerValue (fieldsToPy (obProtectedHeader keyId issuer issuedAt)) "b64" = .null := by
    rw [headerValue_fieldsToPy]
    rfl
  unfold validateB64Profile
  rw [hb64, raiseIf_eq_ok, List.mem_map_of_injective PyStr.ofString_injective]
  decide

/-- The complete header is accepted with a key id and an issuer that are not blank. -/
theorem validate_obProtectedHeader_iff {keyId issuer : String} {issuedAt : Int}
    {validation : ResponseSignatureValidation} :
    validateProtectedHeader (fieldsToPy (obProtectedHeader keyId issuer issuedAt)) =
        .ok validation ↔
      strip keyId ≠ "" ∧ strip issuer ≠ "" ∧ validation = completeValidation keyId issuer := by
  have hkid : (obProtectedHeader keyId issuer issuedAt).lookup "kid" = some (.str keyId) := rfl
  have hiss : (obProtectedHeader keyId issuer issuedAt).lookup openBankingIss =
    some (.str issuer) := rfl
  have htan : (obProtectedHeader keyId issuer issuedAt).lookup openBankingTan =
    some (.str openBankingTrustAnchor) := rfl
  have hfield : ∀ key value, (obProtectedHeader keyId issuer issuedAt).lookup key = some value →
      headerValue (fieldsToPy (obProtectedHeader keyId issuer issuedAt)) key = value.toPy := by
    intro key value hvalue
    rw [headerValue_fieldsToPy, hvalue, Option.map_some, Option.getD_some]
  have halg := hfield "alg" (.str "PS256") rfl
  have htyp := hfield "typ" (.str "JOSE") rfl
  have hcty := hfield "cty" (.str "application/json") rfl
  have hcrit := hfield "crit" (critItems requiredOpenBankingCriticalHeaders) rfl
  have hiat := hfield openBankingIat (.int issuedAt) rfl
  have hanchor : strip openBankingTrustAnchor ≠ "" ∧
      strip openBankingTrustAnchor = openBankingTrustAnchor := by
    decide +kernel
  unfold validateProtectedHeader
  rw [halg, htyp, hcty, hcrit, hiat]
  constructor
  · intro h
    obtain ⟨_, -, h⟩ := bind_eq_ok.mp h
    obtain ⟨kid, hkidOk, h⟩ := bind_eq_ok.mp h
    obtain ⟨_, -, h⟩ := bind_eq_ok.mp h
    obtain ⟨_, -, h⟩ := bind_eq_ok.mp h
    obtain ⟨_, -, h⟩ := bind_eq_ok.mp h
    obtain ⟨_, -, h⟩ := bind_eq_ok.mp h
    obtain ⟨_, -, h⟩ := bind_eq_ok.mp h
    obtain ⟨_, -, h⟩ := bind_eq_ok.mp h
    obtain ⟨iss, hissOk, h⟩ := bind_eq_ok.mp h
    obtain ⟨tan, htanOk, h⟩ := bind_eq_ok.mp h
    -- only the key id and the issuer are not fixed by the profile
    obtain ⟨hkidNe, rfl⟩ := (requiredHeaderString_eq_ok hkid).mp hkidOk
    obtain ⟨hissNe, rfl⟩ := (requiredHeaderString_eq_ok hiss).mp hissOk
    obtain ⟨-, rfl⟩ := (requiredHeaderString_eq_ok htan).mp htanOk
    refine ⟨hkidNe, hissNe, ?_⟩
    rw [← Except.ok.inj h, hanchor.2, completeValidation]
  · rintro ⟨hkidNe, hissNe, rfl⟩
    refine bind_eq_ok.mpr ⟨(), raiseIf_eq_ok.mpr (by simp [Json.toPy, isText]), ?_⟩
    refine bind_eq_ok.mpr ⟨_, (requiredHeaderString_eq_ok hkid).mpr ⟨hkidNe, rfl⟩, ?_⟩
    refine bind_eq_ok.mpr ⟨(), raiseIf_eq_ok.mpr (by simp [Json.toPy, isText]), ?_⟩
    refine bind_eq_ok.mpr ⟨(), raiseIf_eq_ok.mpr (by simp), ?_⟩
    refine bind_eq_ok.mpr ⟨_, criticalHeaders_critItems _, ?_⟩
    refine bind_eq_ok.mpr ⟨(), validateB64Profile_obProtectedHeader, ?_⟩
    refine bind_eq_ok.mpr ⟨(), raiseIf_eq_ok.mpr ?_, ?_⟩
    · rw [not_not, List.filter_eq_nil_iff]
      intro name hname
      simpa using ⟨name, hname, rfl⟩
    refine bind_eq_ok.mpr ⟨(), rfl, ?_⟩
    refine bind_eq_ok.mpr ⟨_, (requiredHeaderString_eq_ok hiss).mpr ⟨hissNe, rfl⟩, ?_⟩
    refine bind_eq_ok.mpr ⟨_, (requiredHeaderString_eq_ok htan).mpr ⟨hanchor.1, rfl⟩, ?_⟩
    rw [hanchor.2]
    rfl

/-! ## Omitted headers -/

/-- Removing a name from a list of texts erases it. -/
theorem removeItem_map {name : String} {texts : List String} {rest : List Json}
    (h : removeItem name (texts.map .str) = .ok rest) :
    rest = (texts.erase name).map .str := by
  induction texts generalizing rest with
  | nil => cases h
  | cons text texts ih =>
    rw [List.map_cons, removeItem] at h
    by_cases hsame : text = name
    · have htext : (Json.str text).pyEq (.str name) = true :=
        Json.pyEq_str_iff.mpr (congrArg Json.str hsame)
      rw [if_pos htext] at h
      obtain rfl := Except.ok.inj h
      rw [hsame, List.erase_cons_head]
    · rw [if_neg fun htext => hsame (Json.str.inj (Json.pyEq_str_iff.mp htext))] at h
      obtain ⟨others, hothers, h⟩ := bind_eq_ok.mp h
      obtain rfl := Except.ok.inj h
      rw [ih hothers, List.erase_cons_tail (by simpa using hsame), List.map_cons]

/-- One omission takes the header out of `crit`. -/
theorem omitProtectedHeader_crit {header header' : JsonObject} {name : String}
    {texts : List String} (hname : name ≠ "crit")
    (hcrit : header.lookup "crit" = some (critItems texts))
    (h : omitProtectedHeader header name = .ok header') :
    header'.lookup "crit" = some (critItems (texts.erase name)) := by
  unfold omitProtectedHeader at h
  split at h
  · have herase : (PlanConfig.eraseField header name).lookup "crit" = some (critItems texts) := by
      rw [lookup_eraseField, if_neg (Ne.symm hname), hcrit]
    simp only [herase, critItems] at h
    obtain ⟨crit, hremove, h⟩ := bind_eq_ok.mp h
    obtain rfl := Except.ok.inj h
    rw [lookup_setField, if_pos rfl, removeItem_map hremove]
    rfl
  · cases h

/-- An omitted header is in `crit` no more. -/
theorem foldlM_omitProtectedHeader_crit {names : List String} {header header' : JsonObject}
    {texts : List String} (hnames : "crit" ∉ names) (htexts : texts.Nodup)
    (hcrit : header.lookup "crit" = some (critItems texts))
    (h : names.foldlM omitProtectedHeader header = .ok header') :
    ∃ left, header'.lookup "crit" = some (critItems left) ∧ left.Nodup ∧
      (∀ name ∈ left, name ∈ texts) ∧ ∀ name ∈ names, name ∉ left := by
  induction names generalizing header texts with
  | nil =>
    cases h
    exact ⟨texts, hcrit, htexts, fun _ h => h, by simp⟩
  | cons name names ih =>
    rw [List.foldlM_cons] at h
    obtain ⟨next, hnext, h⟩ := bind_eq_ok.mp h
    rw [List.mem_cons, not_or] at hnames
    obtain ⟨left, hleft, hnodup, hsub, hgone⟩ := ih hnames.2 (htexts.erase name)
      (omitProtectedHeader_crit (Ne.symm hnames.1) hcrit hnext) h
    refine ⟨left, hleft, hnodup, fun other hother => List.mem_of_mem_erase (hsub other hother), ?_⟩
    rw [List.forall_mem_cons]
    exact ⟨fun hmem => htexts.not_mem_erase (hsub name hmem), hgone⟩

/-- The headers that have an alias are required. -/
theorem headerNamesByAlias_required {headerAlias name : String}
    (h : headerNamesByAlias.lookup headerAlias = some name) :
    name ∈ requiredOpenBankingCriticalHeaders := by
  have hall : ∀ entry ∈ headerNamesByAlias, entry.2 ∈ requiredOpenBankingCriticalHeaders := by
    decide +kernel
  obtain ⟨before, after, hsplit, -⟩ := List.lookup_eq_some_iff.mp h
  exact hall (headerAlias, name) (hsplit ▸ List.mem_append_right before List.mem_cons_self)

/-- Omitting a header adds a required one. -/
theorem appendOmittedHeader_eq_ok {names names' : List String} {headerAlias : String}
    (h : appendOmittedHeader names headerAlias = .ok names') :
    names' ≠ [] ∧ ∀ name ∈ names', name ∈ names ∨ name ∈ requiredOpenBankingCriticalHeaders := by
  unfold appendOmittedHeader at h
  split at h
  · cases h
  rename_i name hname
  split at h
  · rename_i hmem
    cases h
    exact ⟨List.ne_nil_of_mem hmem, fun other hother => .inl hother⟩
  · cases h
    refine ⟨by simp, fun other hother => ?_⟩
    rcases List.mem_append.mp hother with hother | hother
    · exact .inl hother
    · rw [List.mem_singleton.mp hother]
      exact .inr (headerNamesByAlias_required hname)

/-- Some header is omitted, and only required ones are. -/
theorem headersToOmit_eq_ok {aliases names : List String} (haliases : aliases ≠ [])
    (h : openBankingProtectedHeadersToOmit aliases = .ok names) :
    names ≠ [] ∧ ∀ name ∈ names, name ∈ requiredOpenBankingCriticalHeaders := by
  have hloop : (aliases ≠ [] → names ≠ []) ∧
      ∀ name ∈ names, name ∈ requiredOpenBankingCriticalHeaders := by
    refine List.foldlM_ok_induction (P := fun seen names => (seen ≠ [] → names ≠ []) ∧
      ∀ name ∈ names, name ∈ requiredOpenBankingCriticalHeaders) h ?_ ?_
    · exact ⟨fun hne => absurd rfl hne, by simp⟩
    · intro seen headerAlias names names' _ hnames hstep
      obtain ⟨hne, hsub⟩ := appendOmittedHeader_eq_ok hstep
      exact ⟨fun _ => hne, fun name hname => (hsub name hname).elim (hnames.2 name) id⟩
  exact ⟨hloop.1 haliases, hloop.2⟩

/-- With a header omitted, no header of the v3.1.4+ profile is accepted. -/
theorem not_accepted_of_omitted {keyId issuer : String} {issuedAt : Int} {aliases : List String}
    (haliases : aliases ≠ []) {header : JsonObject}
    (h : detachedJwsProtectedHeader keyId .obV314Plus issuer issuedAt aliases = .ok header)
    (validation : ResponseSignatureValidation) :
    validateProtectedHeader (fieldsToPy header) ≠ .ok validation := by
  intro hvalidate
  obtain ⟨_, -, h⟩ := bind_eq_ok.mp h
  obtain ⟨names, hnames, h⟩ := bind_eq_ok.mp h
  obtain ⟨hne, hrequired⟩ := headersToOmit_eq_ok haliases hnames
  have hcritName : "crit" ∉ requiredOpenBankingCriticalHeaders := by decide +kernel
  have hnodup : requiredOpenBankingCriticalHeaders.Nodup := by decide +kernel
  obtain ⟨left, hleft, -, -, hgone⟩ := foldlM_omitProtectedHeader_crit
    (fun hmem => hcritName (hrequired _ hmem)) hnodup rfl h
  obtain ⟨critHeader, hcrit, hall⟩ := mem_criticalHeaders_of_validate hvalidate
  rw [headerValue_fieldsToPy, hleft, Option.map_some, Option.getD_some, criticalHeaders_critItems]
    at hcrit
  obtain rfl := Except.ok.inj hcrit
  obtain ⟨name, hname⟩ := List.exists_mem_of_ne_nil names hne
  have hmem := hall name (hrequired name hname)
  exact hgone name hname ((List.mem_map_of_injective PyStr.ofString_injective).mp hmem)

/-- No header of the legacy profile is accepted. -/
theorem not_accepted_of_legacy {keyId issuer : String} {issuedAt : Int} {aliases : List String}
    {header : JsonObject}
    (h : detachedJwsProtectedHeader keyId .legacyB64False issuer issuedAt aliases = .ok header)
    (validation : ResponseSignatureValidation) :
    validateProtectedHeader (fieldsToPy header) ≠ .ok validation := by
  intro hvalidate
  obtain ⟨_, -, h⟩ := bind_eq_ok.mp h
  obtain rfl := Except.ok.inj h
  obtain ⟨critHeader, hcrit, hall⟩ := mem_criticalHeaders_of_validate hvalidate
  have hb64 : criticalHeaders (critItems ["b64"]).toPy = .ok critHeader := hcrit
  rw [criticalHeaders_critItems] at hb64
  obtain rfl := Except.ok.inj hb64
  have hiat := hall openBankingIat List.mem_cons_self
  rw [List.mem_map_of_injective PyStr.ofString_injective] at hiat
  exact absurd hiat (by decide)

/-- The complete header is what the v3.1.4+ profile has with nothing omitted. -/
theorem detachedJwsProtectedHeader_complete (keyId issuer : String) (issuedAt : Int) :
    detachedJwsProtectedHeader keyId .obV314Plus issuer issuedAt [] =
      .ok (obProtectedHeader keyId issuer issuedAt) := rfl

/-- The header of a signature is complete: of the v3.1.4+ profile with nothing omitted, and
    with a key id and an issuer that are not blank. -/
def IsComplete (keyId : String) (profile : DetachedJwsProfile) (issuer : String)
    (omitProtectedHeaders : List String) : Prop :=
  profile = .obV314Plus ∧ omitProtectedHeaders = [] ∧ strip keyId ≠ "" ∧ strip issuer ≠ ""

/-- What the validation reads from a header is the key id and the issuer without white
    space around them. -/
theorem validate_eq_ok_iff {keyId issuer : String} {profile : DetachedJwsProfile}
    {issuedAt : Int} {aliases : List String} {header : JsonObject}
    (h : detachedJwsProtectedHeader keyId profile issuer issuedAt aliases = .ok header)
    {validation : ResponseSignatureValidation} :
    validateProtectedHeader (fieldsToPy header) = .ok validation ↔
      IsComplete keyId profile issuer aliases ∧ validation = completeValidation keyId issuer := by
  unfold IsComplete
  cases profile with
  | legacyB64False =>
    exact iff_of_false (not_accepted_of_legacy h validation) (fun h => by cases h.1.1)
  | obV314Plus =>
    by_cases haliases : aliases = []
    · subst haliases
      rw [detachedJwsProtectedHeader_complete] at h
      obtain rfl := Except.ok.inj h
      rw [validate_obProtectedHeader_iff]
      exact ⟨fun h => ⟨⟨rfl, rfl, h.1, h.2.1⟩, h.2.2⟩, fun h => ⟨h.1.2.2.1, h.1.2.2.2, h.2⟩⟩
    · exact iff_of_false (not_accepted_of_omitted haliases h validation)
        (fun h => haliases h.1.2.1)

/-- A header is built and accepted exactly when it is complete. -/
theorem protectedHeader_accepted_iff (keyId : String) (profile : DetachedJwsProfile)
    (issuer : String) (issuedAt : Int) (omitProtectedHeaders : List String) :
    (∃ header validation,
      detachedJwsProtectedHeader keyId profile issuer issuedAt omitProtectedHeaders = .ok header ∧
        validateProtectedHeader (fieldsToPy header) = .ok validation) ↔
      IsComplete keyId profile issuer omitProtectedHeaders := by
  constructor
  · rintro ⟨header, validation, hheader, hvalidate⟩
    exact ((validate_eq_ok_iff hheader).mp hvalidate).1
  · intro h
    obtain ⟨rfl, rfl, -⟩ := id h
    have hheader := detachedJwsProtectedHeader_complete keyId issuer issuedAt
    exact ⟨_, _, hheader, (validate_eq_ok_iff hheader).mpr ⟨h, rfl⟩⟩

/-! ## Signatures -/

/-- A key is selected when the JWKS has it and it is imported. -/
theorem selectVerificationKey_eq_ok_iff {jose : Jose} {jwks : PyObject} {keyId : PyStr}
    {key : jose.Key} : selectVerificationKey jose jwks keyId = .ok key ↔
      ∃ rawKey ∈ selectedKey jwks keyId, importVerificationKey jose rawKey keyId = .ok key := by
  rcases selectVerificationKey_cases jose jwks keyId with ⟨rawKey, hselected, hselect⟩ |
    ⟨hselected, message, hselect⟩
  · rw [hselect, hselected]
    simp
  · rw [hselect, hselected]
    exact iff_of_false (fun h => by cases h) (by simp)

/-- A signature is verified when the library deserialises it. -/
theorem verify_eq_ok_iff {jose : Jose} {signature : String} {key : jose.Key}
    {payload : ByteArray} {u : Unit} : verify jose signature key payload = .ok u ↔
      jose.deserializeCompact signature key payload = .ok () := by
  unfold verify signatureError
  split <;> simp_all

/-- `joserfc` signs with a private key and verifies with its public key. A compact JWS has
    the JSON of its protected header in its first segment; detached, it is verified with
    the public key and the payload that was signed only. -/
structure SignsAndVerifies (jose : Jose) (signer : JoseSigner) (signingKey : signer.SigningKey)
    (publicKey : jose.Key) : Prop where
  compact : ∀ header payload compactJws,
    signer.serializeCompact header payload signingKey = .ok compactJws →
    ∃ text signature, signer.detachContent compactJws = String.ofList (detachedJws text signature) ∧
      (∀ c ∈ signature, Base64.IsVisible c) ∧ jose.tooDeep text = false ∧
      jsonLoads jose.floats text = some (Json.obj header).toPy
  verifies : ∀ header payload compactJws,
    signer.serializeCompact header payload signingKey = .ok compactJws →
    ∀ key payload', jose.deserializeCompact (signer.detachContent compactJws) key payload' =
      .ok () ↔ key = publicKey ∧ payload' = payload

/-- The handler does not change what is returned. -/
theorem catchSigning_eq_ok {α : Type} {outcome : Except PyError α} {a : α} :
    catchSigning outcome = .ok a ↔ outcome = .ok a := by
  unfold catchSigning
  split <;> simp_all

/-- Nor does a call of the library. -/
theorem signingCall_eq_ok {α : Type} {outcome : Except JoseException α} {a : α} :
    signingCall outcome = .ok a ↔ outcome = .ok a := by
  unfold signingCall
  split <;> simp_all

/-- A signature is accepted exactly when its header is complete, the first key of the JWKS
    with its key id is imported as the public key, and the payload is the one that was
    signed. -/
theorem validateObResponseSignature_signed_iff {jose : Jose} {signer : JoseSigner}
    {privateKeyPem : ByteArray} {signingKey : signer.SigningKey} {publicKey : jose.Key}
    (hkey : signer.importKey privateKeyPem = .ok signingKey)
    (hjose : SignsAndVerifies jose signer signingKey publicKey) {keyId issuer : String}
    {payload : ByteArray} {profile : DetachedJwsProfile} {issuedAt : Int}
    {omitProtectedHeaders : List String} {signature : String}
    (hsign : signPs256DetachedJws signer privateKeyPem keyId payload profile issuer issuedAt
      omitProtectedHeaders = .ok signature) (payload' : ByteArray) (jwks : PyObject) :
    (∃ validation, validateObResponseSignature jose (some signature) payload' jwks =
        .ok validation) ↔
      IsComplete keyId profile issuer omitProtectedHeaders ∧
      (∃ rawKey ∈ selectedKey jwks (.ofString (strip keyId)),
        importVerificationKey jose rawKey (.ofString (strip keyId)) = .ok publicKey) ∧
      payload' = payload := by
  obtain ⟨key, hkey', hsign⟩ := bind_eq_ok.mp (catchSigning_eq_ok.mp hsign)
  obtain rfl := Except.ok.inj (hkey.symm.trans (signingCall_eq_ok.mp hkey'))
  obtain ⟨header, hheader, hsign⟩ := bind_eq_ok.mp hsign
  obtain ⟨compactJws, hcompact, hsign⟩ := bind_eq_ok.mp hsign
  rw [signingCall_eq_ok] at hcompact
  obtain rfl := Except.ok.inj hsign
  have hverifies := hjose.verifies header payload compactJws hcompact
  obtain ⟨text, tail, hdetached, hvisible, hdepth, hloads⟩ :=
    hjose.compact header payload compactJws hcompact
  rw [hdetached] at hverifies ⊢
  rw [validateObResponseSignature_detachedJws jose hvisible hdepth hloads]
  constructor
  · rintro ⟨validation, h⟩
    obtain ⟨read, hread, h⟩ := bind_eq_ok.mp h
    obtain ⟨key, hselected, h⟩ := bind_eq_ok.mp h
    obtain ⟨_, hverify, -⟩ := bind_eq_ok.mp h
    obtain ⟨hcomplete, rfl⟩ := (validate_eq_ok_iff hheader).mp hread
    obtain ⟨rfl, hpayload⟩ := (hverifies key payload').mp (verify_eq_ok_iff.mp hverify)
    rw [completeValidation_keyId] at hselected
    exact ⟨hcomplete, selectVerificationKey_eq_ok_iff.mp hselected, hpayload⟩
  · rintro ⟨hcomplete, hselected, hpayload⟩
    refine ⟨completeValidation keyId issuer,
      bind_eq_ok.mpr ⟨_, (validate_eq_ok_iff hheader).mpr ⟨hcomplete, rfl⟩, ?_⟩⟩
    rw [completeValidation_keyId]
    refine bind_eq_ok.mpr ⟨publicKey, selectVerificationKey_eq_ok_iff.mpr hselected, ?_⟩
    exact bind_eq_ok.mpr ⟨(), verify_eq_ok_iff.mpr ((hverifies publicKey payload').mpr
      ⟨rfl, hpayload⟩), rfl⟩

/-- Signing and verification agree on the header, on the key and on the payload. -/
theorem signing_agrees {jose : Jose} {signer : JoseSigner} {privateKeyPem : ByteArray}
    {signingKey : signer.SigningKey} {publicKey : jose.Key}
    (hkey : signer.importKey privateKeyPem = .ok signingKey)
    (hjose : SignsAndVerifies jose signer signingKey publicKey) (keyId issuer : String)
    (profile : DetachedJwsProfile) (issuedAt : Int) (omitProtectedHeaders : List String) :
    ((∃ header validation,
        detachedJwsProtectedHeader keyId profile issuer issuedAt omitProtectedHeaders =
          .ok header ∧ validateProtectedHeader (fieldsToPy header) = .ok validation) ↔
      IsComplete keyId profile issuer omitProtectedHeaders) ∧
    ∀ payload signature, signPs256DetachedJws signer privateKeyPem keyId payload profile issuer
        issuedAt omitProtectedHeaders = .ok signature →
      ∀ payload' jwks,
        (∃ validation, validateObResponseSignature jose (some signature) payload' jwks =
          .ok validation) ↔
        IsComplete keyId profile issuer omitProtectedHeaders ∧
        (∃ rawKey ∈ selectedKey jwks (.ofString (strip keyId)),
          importVerificationKey jose rawKey (.ofString (strip keyId)) = .ok publicKey) ∧
        payload' = payload :=
  ⟨protectedHeader_accepted_iff keyId profile issuer issuedAt omitProtectedHeaders,
    fun _ _ hsign payload' jwks =>
      validateObResponseSignature_signed_iff hkey hjose hsign payload' jwks⟩

/-! ## A key of another type -/

/-- The segments of a compact JWS, without the payload. -/
def withoutPayload (compactJws : String) : String :=
  match compactJws.toList.splitOn '.' with
  | [header, _, signature] => String.ofList (['.'].intercalate [header, [], signature])
  | _ => compactJws

/-- A `joserfc` with one key pair, whose signatures repeat the payload. -/
def echoSigner : JoseSigner where
  SigningKey := Unit
  importKey _ := .ok ()
  serializeCompact header payload _ :=
    match jsonDumps ratioText (.obj header), Json.isDecoded (.obj header) with
    | .ok text, true => .ok (String.ofList (['.'].intercalate
        [Base64.encode (String.ofList text).toUTF8.data.toList,
          Base64.encode payload.data.toList, Base64.encode payload.data.toList]))
    | _, _ => .error (.valueError "Out of range float values are not JSON compliant")
  detachContent := withoutPayload

/-- The other half of it: an RSA key is imported as the public key. -/
def echoJose : Jose where
  Key := Unit
  importKey
    | .parameters fields =>
      if isText (.ofString "RSA") (headerValue fields "kty") then .ok ()
      else .error (.valueError "Invalid key type")
    | .certificate _ => .ok ()
  deserializeCompact signature _ payload :=
    match signature.toList.splitOn '.' with
    | [_, [], segment] =>
      if segment = Base64.encode payload.data.toList then .ok ()
      else .error (.joseError "bad_signature")
    | _ => .error (.joseError "decode_error")
  wrap text := [text]
  floats := ratioText
  tooDeep _ := false

/-- Different bytes are encoded differently. -/
theorem encode_inj {bytes bytes' : List UInt8} :
    Base64.encode bytes = Base64.encode bytes' ↔ bytes = bytes' := by
  refine ⟨fun h => ?_, congrArg Base64.encode⟩
  have hdecode := Base64.decode_encode bytes
  rw [h, Base64.decode_encode bytes'] at hdecode
  exact (Option.some.inj hdecode).symm

theorem dot_notMem_encode (bytes : List UInt8) : '.' ∉ Base64.encode bytes :=
  fun h => (Base64.isVisible_encode bytes '.' h).2.2 rfl

/-- What the sample signer writes. -/
theorem echoSigner_serialize {header : JsonObject} {payload : ByteArray} {compactJws : String}
    (h : echoSigner.serializeCompact header payload () = .ok compactJws) :
    ∃ text, jsonDumps ratioText (.obj header) = .ok text ∧ Json.Decoded (.obj header) ∧
      echoSigner.detachContent compactJws = String.ofList
        (detachedJws (String.ofList text) (Base64.encode payload.data.toList)) := by
  simp only [echoSigner] at h
  split at h
  · rename_i text htext hdecoded
    refine ⟨text, htext, Json.decoded_of_isDecoded hdecoded, ?_⟩
    obtain rfl := Except.ok.inj h
    simp only [echoSigner, withoutPayload, String.toList_ofList]
    rw [List.splitOn_intercalate '.' ?_ (List.cons_ne_nil _ _)]
    · rfl
    · simp only [List.forall_mem_cons, List.not_mem_nil, false_implies, implies_true, and_true]
      exact ⟨dot_notMem_encode _, dot_notMem_encode _, dot_notMem_encode _⟩
  · cases h

/-- The sample library verifies what it signs. -/
theorem echo_signsAndVerifies : SignsAndVerifies echoJose echoSigner () () where
  compact header payload compactJws h := by
    obtain ⟨text, htext, hdecoded, hdetached⟩ := echoSigner_serialize h
    exact ⟨_, _, hdetached, Base64.isVisible_encode _, rfl,
      jsonLoads_jsonDumps hdecoded (fun q _ => ratioText_reads q) htext⟩
  verifies header payload compactJws h key payload' := by
    obtain ⟨text, -, -, hdetached⟩ := echoSigner_serialize h
    rw [hdetached]
    simp only [echoJose, String.toList_ofList, splitOn_detachedJws _ (dot_notMem_encode _),
      encode_inj]
    split
    · rename_i heq
      exact iff_of_true rfl ⟨rfl, ByteArray.ext (Array.toList_inj.mp heq.symm)⟩
    · rename_i hne
      refine iff_of_false (fun h => by cases h) ?_
      rintro ⟨-, rfl⟩
      exact hne rfl

/-- An RSA key and an elliptic-curve key with one key id. -/
def rsaKey : PyObject := fieldsToPy [("kty", .str "RSA"), ("kid", .str "key")]

/-- The elliptic-curve key. -/
def ellipticKey : PyObject := fieldsToPy [("kty", .str "EC"), ("kid", .str "key")]

/-- A JWKS document with these keys. -/
def jwksOf (keys : List PyObject) : PyObject := [(.ofString "keys", .arr (keys.map .obj))]

theorem strip_key : strip "key" = "key" := by decide +kernel

theorem echo_isComplete : IsComplete "key" .obV314Plus "issuer" [] :=
  ⟨rfl, rfl, by decide +kernel, by decide +kernel⟩

/-- The echo signs every payload. -/
theorem echo_signs (payload : ByteArray) :
    ∃ signature, signPs256DetachedJws echoSigner ByteArray.empty "key" payload .obV314Plus "issuer"
      0 [] = .ok signature := by
  obtain ⟨text, htext⟩ : ∃ text, jsonDumps ratioText (.obj (obProtectedHeader "key" "issuer" 0)) =
      .ok text := ⟨_, rfl⟩
  have hdecoded : Json.isDecoded (.obj (obProtectedHeader "key" "issuer" 0)) = true := by
    decide +kernel
  obtain ⟨compactJws, hcompact⟩ : ∃ compactJws,
      echoSigner.serializeCompact (obProtectedHeader "key" "issuer" 0) payload () =
        .ok compactJws := by
    simp only [echoSigner, htext, hdecoded]
    exact ⟨_, rfl⟩
  exact ⟨echoSigner.detachContent compactJws, catchSigning_eq_ok.mpr (bind_eq_ok.mpr ⟨(), rfl,
    bind_eq_ok.mpr ⟨_, detachedJwsProtectedHeader_complete "key" "issuer" 0,
      bind_eq_ok.mpr ⟨compactJws, signingCall_eq_ok.mpr hcompact, rfl⟩⟩⟩)⟩

theorem echoSigner_importKey : echoSigner.importKey ByteArray.empty = .ok () := rfl

/-- A signature of the sample signer is validated. -/
theorem signing_agrees_echo :
    ∃ signature, signPs256DetachedJws echoSigner ByteArray.empty "key" "payload".toUTF8 .obV314Plus
        "issuer" 0 [] = .ok signature ∧
      ∃ validation, validateObResponseSignature echoJose (some signature) "payload".toUTF8
        (jwksOf [rsaKey, ellipticKey]) = .ok validation := by
  obtain ⟨signature, hsign⟩ := echo_signs "payload".toUTF8
  refine ⟨signature, hsign, ((signing_agrees echoSigner_importKey echo_signsAndVerifies "key"
    "issuer" .obV314Plus 0 []).2 _ signature hsign _ _).mpr ⟨echo_isComplete, ⟨rsaKey, ?_, ?_⟩, rfl⟩⟩
  · rw [strip_key]
    rfl
  · rw [strip_key]
    rfl

/-- A key of another type in front of the public key, with its key id, hides it. -/
theorem ellipticKey_hides_rsaKey : SignsAndVerifies echoJose echoSigner () () ∧
    ∃ signature, signPs256DetachedJws echoSigner ByteArray.empty "key" "payload".toUTF8 .obV314Plus
        "issuer" 0 [] = .ok signature ∧
      importVerificationKey echoJose rsaKey (.ofString "key") = .ok () ∧
      ¬∃ validation, validateObResponseSignature echoJose (some signature) "payload".toUTF8
        (jwksOf [ellipticKey, rsaKey]) = .ok validation := by
  obtain ⟨signature, hsign⟩ := echo_signs "payload".toUTF8
  refine ⟨echo_signsAndVerifies, signature, hsign, rfl, fun haccepted => ?_⟩
  obtain ⟨-, ⟨rawKey, hselected, himport⟩, -⟩ :=
    (validateObResponseSignature_signed_iff echoSigner_importKey echo_signsAndVerifies hsign _
      _).mp haccepted
  rw [strip_key] at hselected himport
  -- the first key with the id is the elliptic one, which is not imported
  have hfirst : selectedKey (jwksOf [ellipticKey, rsaKey]) (.ofString "key") =
    some ellipticKey := rfl
  obtain rfl := Option.some.inj (hfirst.symm.trans hselected)
  cases himport

end Conformance
