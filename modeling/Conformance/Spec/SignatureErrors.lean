import Conformance.Native.ResponseSignature
import Conformance.Spec.JsonTextRoundTrip

/-!
# Exceptions of response signatures

Which exceptions leave `validate_ob_response_signature`. Its own error is the only one
unless the content type of a protected header that is checked so far is a list or an
object, the header is nested too deeply to be decoded, or `joserfc` raises what is not
expected of the call: a `JoseError` on importing a key, anything else on verification.

## Key results

- `raisesOnly_validateProtectedHeader_iff`: the protected header
- `raisesOnly_selectVerificationKey_iff`: the JWKS
- `raisesOnly_validateObResponseSignature_iff`: the whole validation
-/

namespace Conformance

open Except

/-- A `ResponseSignatureValidationError`. -/
def IsSignatureError : PyError → Prop
  | .responseSignatureValidationError _ => True
  | _ => False

theorem raisesOnly_signatureError {α : Type} (message : String) :
    RaisesOnly IsSignatureError (signatureError (α := α) message) := .error trivial

/-! ## The protected header -/

/-- A list or a dictionary. -/
def Unhashable : PyJson → Prop
  | .arr _ | .obj _ => True
  | _ => False

instance (value : PyJson) : Decidable (Unhashable value) := by
  cases value <;> unfold Unhashable <;> infer_instance

/-- A header that is missing raises it. -/
theorem raisesOnly_requiredHeaderString (protectedHeader : PyObject) (key : String) :
    RaisesOnly IsSignatureError (requiredHeaderString protectedHeader key) := by
  unfold requiredHeaderString
  split
  · split
    · exact raisesOnly_signatureError _
    · exact .ok _
  · exact raisesOnly_signatureError _

/-- So does a type that is not supported. -/
theorem raisesOnly_checkType (jwsType : PyJson) :
    RaisesOnly IsSignatureError (checkType jwsType) := by
  unfold checkType
  split
  · exact .ok ()
  · exact .raiseIf trivial

/-- The check of a content type raises nothing else unless it cannot be hashed. -/
theorem raisesOnly_checkContentType_iff {contentType : PyJson} :
    RaisesOnly IsSignatureError (checkContentType contentType) ↔ ¬Unhashable contentType := by
  cases contentType with
  | null => exact iff_of_true (.ok ()) id
  | str text => exact iff_of_true (.raiseIf trivial) id
  | arr items => exact iff_of_false (fun h => h _ rfl) (not_not_intro trivial)
  | obj fields => exact iff_of_false (fun h => h _ rfl) (not_not_intro trivial)
  | bool | int | float => exact iff_of_true (raisesOnly_signatureError _) id

/-- The check of the critical headers raises nothing else. -/
theorem raisesOnly_criticalHeaders (critHeader : PyJson) :
    RaisesOnly IsSignatureError (criticalHeaders critHeader) := by
  unfold criticalHeaders
  split
  · split
    · exact .ok _
    · exact raisesOnly_signatureError _
  · exact raisesOnly_signatureError _

/-- Nor does the check of the `b64` profile. -/
theorem raisesOnly_validateB64Profile (protectedHeader : PyObject) (critHeader : List PyStr) :
    RaisesOnly IsSignatureError (validateB64Profile protectedHeader critHeader) := by
  unfold validateB64Profile
  split
  · exact .raiseIf trivial
  · exact .raiseIf trivial
  · exact raisesOnly_signatureError _

/-- Nor does the check of the time of issue. -/
theorem raisesOnly_checkIssuedAt (issuedAt : PyJson) :
    RaisesOnly IsSignatureError (checkIssuedAt issuedAt) := by
  unfold checkIssuedAt
  split
  · exact .ok ()
  · exact raisesOnly_signatureError _

/-- The checks up to `cty` pass, and it is a list or an object. -/
structure ReachesUnhashableContentType (protectedHeader : PyObject) : Prop where
  alg : isText (.ofString "PS256") (headerValue protectedHeader "alg") = true
  kid : ∃ keyId, requiredHeaderString protectedHeader "kid" = .ok keyId
  typ : checkType (headerValue protectedHeader "typ") = .ok ()
  cty : Unhashable (headerValue protectedHeader "cty")

/-- A protected header is rejected with the validation's own error, unless its content type
    is reached and cannot be hashed. -/
theorem raisesOnly_validateProtectedHeader_iff {protectedHeader : PyObject} :
    RaisesOnly IsSignatureError (validateProtectedHeader protectedHeader) ↔
      ¬ReachesUnhashableContentType protectedHeader := by
  unfold validateProtectedHeader
  constructor
  · rintro h ⟨halg, ⟨keyId, hkid⟩, htyp, hcty⟩
    refine raisesOnly_checkContentType_iff.mp (fun error herror => ?_) hcty
    refine h error (bind_eq_error.mpr (.inr ⟨(), raiseIf_eq_ok.mpr (by simp [halg]), ?_⟩))
    refine bind_eq_error.mpr (.inr ⟨keyId, hkid, bind_eq_error.mpr (.inr ⟨(), htyp, ?_⟩)⟩)
    exact bind_eq_error.mpr (.inl herror)
  · intro h
    refine .bind (.raiseIf trivial) fun _ halg => ?_
    refine .bind (raisesOnly_requiredHeaderString _ _) fun keyId hkid => ?_
    refine .bind (raisesOnly_checkType _) fun _ htyp => ?_
    refine .bind (raisesOnly_checkContentType_iff.mpr fun hcty => h ⟨?_, ⟨keyId, hkid⟩, htyp, hcty⟩)
      fun _ _ => ?_
    · simpa using halg
    refine .bind (raisesOnly_criticalHeaders _) fun critHeader _ => ?_
    refine .bind (raisesOnly_validateB64Profile _ _) fun _ _ => ?_
    refine .bind (.raiseIf trivial) fun _ _ => ?_
    refine .bind (raisesOnly_checkIssuedAt _) fun _ _ => ?_
    refine .bind (raisesOnly_requiredHeaderString _ _) fun _ _ => ?_
    exact .bind (raisesOnly_requiredHeaderString _ _) fun _ _ => .ok _

/-- The text that is decoded as a protected header. -/
def headerText (signature : String) : Option String :=
  match signature.toList.splitOn '.' with
  | [first, [], _] => protectedHeaderText first
  | _ => none

/-- Decoding a segment raises nothing else unless it is nested too deeply. -/
theorem raisesOnly_decodeSegment_iff {jose : Jose} {segment : List Char} :
    RaisesOnly IsSignatureError (decodeSegment jose segment) ↔
      ∀ text ∈ protectedHeaderText segment, jose.tooDeep text = false := by
  unfold decodeSegment
  cases protectedHeaderText segment with
  | none => exact iff_of_true (raisesOnly_signatureError _) (by simp)
  | some text =>
    simp only [Option.mem_def, Option.some.injEq, forall_eq']
    by_cases hdeep : jose.tooDeep text = true
    · rw [if_pos hdeep]
      exact iff_of_false (fun h => h _ rfl) (by simp [hdeep])
    · rw [if_neg hdeep]
      refine iff_of_true ?_ (by simpa using hdeep)
      split
      · exact raisesOnly_signatureError _
      · exact .ok _
      · exact raisesOnly_signatureError _

/-- So it is with the protected header. -/
theorem raisesOnly_decodeProtectedHeader_iff {jose : Jose} {signature : String} :
    RaisesOnly IsSignatureError (decodeProtectedHeader jose signature) ↔
      ∀ text ∈ headerText signature, jose.tooDeep text = false := by
  unfold decodeProtectedHeader headerText
  split
  · rename_i first second third hsegments
    rw [hsegments]
    cases second with
    | nil =>
      rw [if_neg (by simp)]
      exact raisesOnly_decodeSegment_iff
    | cons c second =>
      rw [if_pos (List.cons_ne_nil c second)]
      exact iff_of_true (raisesOnly_signatureError _) (by simp)
  · rename_i hsegments
    refine iff_of_true (raisesOnly_signatureError _) ?_
    split
    · rename_i heq
      exact absurd heq (hsegments _ _ _)
    · simp

/-! ## Keys -/

/-- A call of `joserfc` that raises a `JoseError`. -/
def RaisesJoseError {α : Type} (outcome : Except JoseException α) : Prop :=
  ∃ message, outcome = .error (.joseError message)

/-- The handler around the import lets a `JoseError` through. -/
theorem raisesOnly_catchImport_iff {α : Type} {outcome : Except JoseException α}
    {handler : Except PyError α} : RaisesOnly IsSignatureError (catchImport outcome handler) ↔
      ¬RaisesJoseError outcome ∧
        (outcome.toOption = none → RaisesOnly IsSignatureError handler) := by
  unfold catchImport RaisesJoseError
  cases outcome with
  | ok key => exact iff_of_true (.ok key) ⟨by simp, by simp [Except.toOption]⟩
  | error exception =>
    cases exception with
    | joseError message =>
      exact iff_of_false (fun h => h _ rfl) (fun h => h.1 ⟨message, rfl⟩)
    | valueError message | typeError message => simp [Except.toOption]

/-- Importing a key raises no `JoseError`: neither from its parameters, nor, where these are
    no RSA key, from its certificate. -/
structure ImportsContained (jose : Jose) (rawKey : PyObject) : Prop where
  parameters : ¬RaisesJoseError (jose.importKey (.parameters (stringKeyParameters rawKey)))
  certificate :
    (jose.importKey (.parameters (stringKeyParameters rawKey))).toOption = none →
      ∀ certificate ∈ firstCertificate rawKey,
        ¬RaisesJoseError (x5cCertificatePem jose certificate >>= jose.importKey)

/-- When importing a key raises nothing else. -/
theorem raisesOnly_importVerificationKey_iff {jose : Jose} {rawKey : PyObject}
    {keyId : PyStr} : RaisesOnly IsSignatureError (importVerificationKey jose rawKey keyId) ↔
      ImportsContained jose rawKey := by
  unfold importVerificationKey
  rw [raisesOnly_catchImport_iff]
  cases hcertificate : firstCertificate rawKey with
  | none =>
    constructor
    · rintro ⟨hparameters, -⟩
      exact ⟨hparameters, fun _ certificate h => by rw [hcertificate] at h; cases h⟩
    · exact fun h => ⟨h.parameters, fun _ => raisesOnly_signatureError _⟩
  | some certificate =>
    simp only [raisesOnly_catchImport_iff]
    constructor
    · rintro ⟨hparameters, hhandler⟩
      refine ⟨hparameters, fun hfailed other hother => ?_⟩
      rw [hcertificate] at hother
      obtain rfl := Option.some.inj hother
      exact (hhandler hfailed).1
    · exact fun h => ⟨h.parameters, fun hfailed =>
        ⟨h.certificate hfailed certificate hcertificate, fun _ => raisesOnly_signatureError _⟩⟩

/-- The key that is selected: the first of the JWKS with the key id. -/
def selectedKey (jwks : PyObject) (keyId : PyStr) : Option PyObject :=
  match headerValue jwks "keys" with
  | .arr keys =>
    match keys.find? (hasKeyId keyId) with
    | some (.obj rawKey) => some rawKey
    | _ => none
  | _ => none

/-- Selecting a key imports the selected one, or finds none. -/
theorem selectVerificationKey_cases (jose : Jose) (jwks : PyObject) (keyId : PyStr) :
    (∃ rawKey, selectedKey jwks keyId = some rawKey ∧
        selectVerificationKey jose jwks keyId = importVerificationKey jose rawKey keyId) ∨
      (selectedKey jwks keyId = none ∧
        ∃ message, selectVerificationKey jose jwks keyId = signatureError message) := by
  unfold selectVerificationKey selectedKey
  cases headerValue jwks "keys" with
  | arr keys =>
    dsimp only
    cases keys.find? (hasKeyId keyId) with
    | none => exact .inr ⟨rfl, _, rfl⟩
    | some key =>
      cases key with
      | obj rawKey => exact .inl ⟨rawKey, rfl, rfl⟩
      | null | bool | int | float | str | arr => exact .inr ⟨rfl, _, rfl⟩
  | null | bool | int | float | str | obj => exact .inr ⟨rfl, _, rfl⟩

/-- When selecting a key raises nothing else. -/
theorem raisesOnly_selectVerificationKey_iff {jose : Jose} {jwks : PyObject} {keyId : PyStr} :
    RaisesOnly IsSignatureError (selectVerificationKey jose jwks keyId) ↔
      ∀ rawKey ∈ selectedKey jwks keyId, ImportsContained jose rawKey := by
  rcases selectVerificationKey_cases jose jwks keyId with ⟨rawKey, hselected, hselect⟩ |
    ⟨hselected, message, hselect⟩
  · rw [hselect, hselected]
    simp [raisesOnly_importVerificationKey_iff]
  · rw [hselect, hselected]
    exact iff_of_true (raisesOnly_signatureError _) (by simp)

/-! ## Validation -/

/-- Verification ends, or raises a `JoseError`. -/
def VerifyContained (jose : Jose) (signature : String) (key : jose.Key) (payload : ByteArray) :
    Prop :=
  jose.deserializeCompact signature key payload = .ok () ∨
    RaisesJoseError (jose.deserializeCompact signature key payload)

/-- When verification raises nothing else. -/
theorem raisesOnly_verify_iff {jose : Jose} {signature : String} {key : jose.Key}
    {payload : ByteArray} : RaisesOnly IsSignatureError (verify jose signature key payload) ↔
      VerifyContained jose signature key payload := by
  unfold verify VerifyContained RaisesJoseError
  cases jose.deserializeCompact signature key payload with
  | ok _ => exact iff_of_true (.ok ()) (.inl rfl)
  | error exception =>
    cases exception with
    | joseError message => exact iff_of_true (raisesOnly_signatureError _) (.inr ⟨message, rfl⟩)
    | valueError message | typeError message =>
      exact iff_of_false (fun h => h _ rfl) (by simp)

/-- What has to hold of a signature, a payload and a JWKS for validation to raise its own
    error only. -/
structure Contained (jose : Jose) (signature : String) (payload : ByteArray) (jwks : PyObject) :
    Prop where
  depth : ∀ text ∈ headerText signature, jose.tooDeep text = false
  contentType : ∀ protectedHeader, decodeProtectedHeader jose signature = .ok protectedHeader →
    ¬ReachesUnhashableContentType protectedHeader
  imports : ∀ protectedHeader validation,
    decodeProtectedHeader jose signature = .ok protectedHeader →
    validateProtectedHeader protectedHeader = .ok validation →
    ∀ rawKey ∈ selectedKey jwks validation.keyId, ImportsContained jose rawKey
  verifies : ∀ protectedHeader validation key,
    decodeProtectedHeader jose signature = .ok protectedHeader →
    validateProtectedHeader protectedHeader = .ok validation →
    selectVerificationKey jose jwks validation.keyId = .ok key →
    VerifyContained jose signature key payload

/-- When the validation of a signature that is there raises nothing else. -/
theorem raisesOnly_validateSuppliedSignature_iff {jose : Jose} {signature : String}
    {payload : ByteArray} {jwks : PyObject} :
    RaisesOnly IsSignatureError (validateSuppliedSignature jose signature payload jwks) ↔
      Contained jose signature payload jwks := by
  unfold validateSuppliedSignature
  simp only [raisesOnly_bind_iff, raisesOnly_decodeProtectedHeader_iff,
    raisesOnly_validateProtectedHeader_iff, raisesOnly_selectVerificationKey_iff,
    raisesOnly_verify_iff]
  constructor
  · rintro ⟨hdepth, hrest⟩
    exact ⟨hdepth, fun header hheader => (hrest header hheader).1,
      fun header validation hheader hvalidation =>
        ((hrest header hheader).2 validation hvalidation).1,
      fun header validation key hheader hvalidation hkey =>
        (((hrest header hheader).2 validation hvalidation).2 key hkey).1⟩
  · intro h
    exact ⟨h.depth, fun header hheader => ⟨h.contentType header hheader,
      fun validation hvalidation => ⟨h.imports header validation hheader hvalidation,
        fun key hkey => ⟨h.verifies header validation key hheader hvalidation hkey,
          fun _ _ => .ok validation⟩⟩⟩⟩

/-- With a JWKS that was fetched, a step requires what the validation does. -/
theorem requireResponseSignature_eq (jose : Jose) (signature : String) (payload : ByteArray)
    (jwks : PyObject) :
    requireResponseSignature jose (some signature) payload (.ok jwks) =
      validateObResponseSignature jose (some signature) payload jwks := by
  unfold requireResponseSignature validateObResponseSignature
  by_cases hblank : strip signature = ""
  · simp only [if_pos hblank]
  · simp only [if_neg hblank]
    exact pure_bind jwks _

/-- The handler of a step lets no exception of a validation through that raises its own only. -/
theorem handleSignature_of_raisesOnly {outcome : Except PyError ResponseSignatureValidation}
    (h : RaisesOnly IsSignatureError outcome) (error : PyError) :
    handleSignature outcome ≠ .raised error := by
  cases outcome with
  | ok validation => exact nofun
  | error raised =>
    have hown := h raised rfl
    cases raised with
    | responseSignatureValidationError message => exact nofun
    | catalogueError | httpsUrlValidationError | manifestError | certificationValidationError
    | structuredResultGateError | dcrExecutionError | jsonHttpClientError | jwtSigningError
    | joseError | schemaValidationConfigurationError | valueError | typeError | keyError
    | recursionError => exact absurd hown id

/-- Validation returns or raises its own error exactly when the signature is blank or its
    signature, payload and JWKS are contained, and then the step that required it handles what
    is raised. -/
theorem raisesOnly_validateObResponseSignature_iff (jose : Jose) (signature : String)
    (payload : ByteArray) (jwks : PyObject) :
    (RaisesOnly IsSignatureError
        (validateObResponseSignature jose (some signature) payload jwks) ↔
      strip signature = "" ∨ Contained jose (strip signature) payload jwks) ∧
    (strip signature = "" ∨ Contained jose (strip signature) payload jwks → ∀ error,
      handleSignature (requireResponseSignature jose (some signature) payload (.ok jwks)) ≠
        .raised error) := by
  have hiff : RaisesOnly IsSignatureError
      (validateObResponseSignature jose (some signature) payload jwks) ↔
        strip signature = "" ∨ Contained jose (strip signature) payload jwks := by
    unfold validateObResponseSignature
    by_cases hblank : strip signature = ""
    · simp only [if_pos hblank]
      exact iff_of_true (raisesOnly_signatureError _) (.inl hblank)
    · simp only [if_neg hblank, raisesOnly_validateSuppliedSignature_iff]
      exact (or_iff_right hblank).symm
  refine ⟨hiff, fun h error => ?_⟩
  rw [requireResponseSignature_eq]
  exact handleSignature_of_raisesOnly (hiff.mpr h) error

/-! ## Encoded headers -/

/-- A compact JWS with a text as its protected header, detached from its payload. -/
def detachedJws (header : String) (signature : List Char) : List Char :=
  ['.'].intercalate [Base64.encode header.toUTF8.data.toList, [], signature]

/-- A detached JWS has its header before two dots and its signature behind them. -/
theorem detachedJws_eq (header : String) (signature : List Char) :
    detachedJws header signature =
      Base64.encode header.toUTF8.data.toList ++ '.' :: '.' :: signature := by
  simp [detachedJws, List.intercalate, List.intersperse]

/-- The header of a detached JWS is decoded to its text. -/
theorem protectedHeaderText_encode (header : String) :
    protectedHeaderText (Base64.encode header.toUTF8.data.toList) = some header := by
  have hascii : (Base64.encode header.toUTF8.data.toList ++
      Base64.padding (Base64.encode header.toUTF8.data.toList)).all
        (fun c => decide (c.toNat < 128)) = true := by
    rw [List.all_eq_true]
    intro c hc
    rw [decide_eq_true_eq]
    rcases List.mem_append.mp hc with hc | hc
    · have hvisible := (Base64.isVisible_encode _ c hc).2.1
      omega
    · rw [List.eq_of_mem_replicate hc]
      decide
  unfold protectedHeaderText base64urlDecode
  simp only [hascii, if_true, Base64.decode_encode]
  exact fromUTF8?_toUTF8 header

/-- A detached JWS has three segments. -/
theorem splitOn_detachedJws (header : String) {signature : List Char} (h : '.' ∉ signature) :
    (detachedJws header signature).splitOn '.' =
      [Base64.encode header.toUTF8.data.toList, [], signature] := by
  refine List.splitOn_intercalate '.' ?_ (List.cons_ne_nil _ _)
  simp only [List.forall_mem_cons, List.not_mem_nil, not_false_iff, false_implies, implies_true,
    and_true, true_and]
  exact ⟨fun hdot => (Base64.isVisible_encode _ '.' hdot).2.2 rfl, h⟩

/-- The protected header of a detached JWS is the JSON of its text. -/
theorem decodeProtectedHeader_detachedJws {jose : Jose} {header : String} {signature : List Char}
    {fields : PyObject} (hsignature : '.' ∉ signature) (hdepth : jose.tooDeep header = false)
    (hloads : jsonLoads jose.floats header = some (.obj fields)) :
    decodeProtectedHeader jose (String.ofList (detachedJws header signature)) = .ok fields := by
  unfold decodeProtectedHeader
  rw [String.toList_ofList, splitOn_detachedJws header hsignature]
  simp only [ne_eq, not_true_eq_false, if_false]
  unfold decodeSegment
  rw [protectedHeaderText_encode]
  simp only [hdepth, hloads, Bool.false_eq_true, if_false]

/-- A visible character is no white space. -/
theorem isSpace_of_visible {c : Char} (h : Base64.IsVisible c) : isSpace c = false := by
  obtain ⟨hlow, hhigh, -⟩ := h
  simp only [isSpace, Bool.or_eq_false_iff, Bool.and_eq_false_iff, decide_eq_false_iff_not,
    beq_eq_false_iff_ne]
  omega

/-- A text without white space is stripped. -/
theorem strip_of_not_space {cs : List Char} (h : ∀ c ∈ cs, isSpace c = false) :
    strip (String.ofList cs) = String.ofList cs := by
  have hdrop : cs.dropWhile isSpace = cs := by
    cases cs with
    | nil => rfl
    | cons c cs => exact List.dropWhile_cons_of_neg (by simp [h c List.mem_cons_self])
  rw [strip, String.toList_ofList, hdrop, List.rdropWhile_eq_self_iff.mpr]
  intro hne
  simp [h _ (List.getLast_mem hne)]

/-- The validation of a detached JWS, from its protected header on. -/
theorem validateObResponseSignature_detachedJws (jose : Jose) {header : String}
    {signature : List Char} {fields : PyObject}
    (hsignature : ∀ c ∈ signature, Base64.IsVisible c) (hdepth : jose.tooDeep header = false)
    (hloads : jsonLoads jose.floats header = some (.obj fields)) (payload : ByteArray)
    (jwks : PyObject) :
    let text := String.ofList (detachedJws header signature)
    validateObResponseSignature jose (some text) payload jwks = (do
      let validation ← validateProtectedHeader fields
      let verificationKey ← selectVerificationKey jose jwks validation.keyId
      verify jose text verificationKey payload
      return validation) := by
  intro text
  have hdot : '.' ∉ signature := fun hmem => (hsignature '.' hmem).2.2 rfl
  have hstrip : strip text = text := by
    apply strip_of_not_space
    rw [detachedJws_eq]
    intro c hc
    rcases List.mem_append.mp hc with hc | hc
    · exact isSpace_of_visible (Base64.isVisible_encode _ c hc)
    · rcases List.mem_cons.mp hc with rfl | hc
      · rfl
      · rcases List.mem_cons.mp hc with rfl | hc
        · rfl
        · exact isSpace_of_visible (hsignature c hc)
  have hblank : text ≠ "" := by
    intro hempty
    have hlist := congrArg String.toList hempty
    rw [String.toList_ofList, detachedJws_eq] at hlist
    exact List.append_ne_nil_of_right_ne_nil _ (List.cons_ne_nil _ _) hlist
  unfold validateObResponseSignature validateSuppliedSignature
  simp only [hstrip, if_neg hblank, text, decodeProtectedHeader_detachedJws hdot hdepth hloads]
  rfl

/-! ## A list as a content type -/

/-- A `joserfc` that imports no key and verifies nothing. -/
def rejectingJose : Jose where
  Key := Unit
  importKey _ := .error (.valueError "Invalid key")
  deserializeCompact _ _ _ := .error (.joseError "bad_signature")
  wrap text := [text]
  floats := ratioText
  tooDeep _ := false

/-- A protected header with a list as its content type. -/
def listContentType : JsonObject :=
  [("alg", .str "PS256"), ("kid", .str "key"), ("cty", .arr [.str "json"])]

/-- The `TypeError` of the set lookup leaves the validation. -/
theorem validateObResponseSignature_raises_typeError :
    ∃ (jose : Jose) (signature : String) (payload : ByteArray) (jwks : PyObject),
      ¬RaisesOnly IsSignatureError
        (validateObResponseSignature jose (some signature) payload jwks) := by
  obtain ⟨text, htext⟩ : ∃ text, jsonDumps ratioText (.obj listContentType) = .ok text :=
    ⟨_, rfl⟩
  have hloads := jsonLoads_jsonDumps
    (Json.decoded_of_isDecoded (show Json.isDecoded (.obj listContentType) = true by decide +kernel))
    (fun q _ => ratioText_reads q) htext
  -- the content type is a list, and a list is no member of a set
  have hheader : validateProtectedHeader (fieldsToPy listContentType) = .error (.typeError
      "cannot use 'list' as a set element (unhashable type: 'list')") := by
    decide +kernel
  refine ⟨rejectingJose, String.ofList (detachedJws (String.ofList text) []), ByteArray.empty, [],
    fun h => h (.typeError "cannot use 'list' as a set element (unhashable type: 'list')") ?_⟩
  refine (validateObResponseSignature_detachedJws rejectingJose (by simp) rfl hloads _ []).trans
    ?_
  rw [hheader]
  rfl

end Conformance
