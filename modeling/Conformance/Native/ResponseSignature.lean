import Conformance.ForStd.Base64
import Conformance.ForStd.Except
import Conformance.Native.HttpExchange
import Conformance.Native.JsonText

/-!
# Response signatures

`conformance/response_signature.py`: the detached JWS of a response, checked against the
keys of a JWKS document. The calls of `joserfc` are fields of `Jose`, with the exceptions
that they raise. `_validate_response_signature_if_required` of `conformance/executor.py`
catches some of these and lets the others through. A lone surrogate of a key id stands in
messages and details as its escape.
-/

namespace Conformance

/-- `_OPEN_BANKING_IAT`. -/
def openBankingIat : String := "http://openbanking.org.uk/iat"

/-- `_OPEN_BANKING_ISS`. -/
def openBankingIss : String := "http://openbanking.org.uk/iss"

/-- `_OPEN_BANKING_TAN`. -/
def openBankingTan : String := "http://openbanking.org.uk/tan"

/-- `sorted(_REQUIRED_OPEN_BANKING_CRITICAL_HEADERS)`. -/
def requiredOpenBankingCriticalHeaders : List String :=
  [openBankingIat, openBankingIss, openBankingTan]

/-- `ResponseSignatureValidation`. -/
structure ResponseSignatureValidation where
  keyId : PyStr
  issuer : PyStr
  trustAnchor : PyStr
  deriving DecidableEq, Repr

/-- An exception of `joserfc`. -/
inductive JoseException where
  | joseError (message : String)
  | valueError (message : String)
  | typeError (message : String)
  deriving DecidableEq, Repr

/-- What `jwk.import_key` is given: JWK parameters or a PEM certificate. -/
inductive KeyMaterial where
  | parameters (fields : PyObject)
  | certificate (pem : String)

/-- What validation uses outside the repository: `joserfc`, `textwrap.wrap` to 64 columns,
    the floats of `json`, and whether the interpreter's recursion limit stops the decoding
    of a text. -/
structure Jose where
  Key : Type
  importKey : KeyMaterial → Except JoseException Key
  deserializeCompact : String → Key → ByteArray → Except JoseException Unit
  wrap : PyStr → List PyStr
  floats : FloatText
  tooDeep : String → Bool

/-- A `ResponseSignatureValidationError`. -/
def signatureError {α : Type} (message : String) : Except PyError α :=
  .error (.responseSignatureValidationError message)

/-! ## The protected header -/

/-- `_base64url_decode`. -/
def base64urlDecode (value : List Char) : Option (List UInt8) :=
  let padded := value ++ Base64.padding value
  if padded.all fun c => decide (c.toNat < 128) then Base64.decode padded else none

/-- The text of the first segment. -/
def protectedHeaderText (segment : List Char) : Option String := do
  let protectedBytes ← base64urlDecode segment
  String.fromUTF8? ⟨protectedBytes.toArray⟩

/-- The JSON of the first segment. -/
def decodeSegment (jose : Jose) (segment : List Char) : Except PyError PyObject :=
  match protectedHeaderText segment with
  | none => signatureError "x-jws-signature protected header is invalid"
  | some text =>
    if jose.tooDeep text then .error .recursionError
    else
      match jsonLoads jose.floats text with
      | none => signatureError "x-jws-signature protected header is invalid"
      | some (.obj fields) => .ok fields
      | some _ => signatureError "x-jws-signature protected header must be a JSON object"

/-- `_decode_protected_header`. -/
def decodeProtectedHeader (jose : Jose) (signature : String) : Except PyError PyObject :=
  match signature.toList.splitOn '.' with
  | [first, second, _] =>
    if second ≠ [] then signatureError "x-jws-signature must use detached payload form"
    else decodeSegment jose first
  | _ => signatureError "x-jws-signature must contain three compact JWS segments"

/-- `protected_header.get(key)`, where a `null` and a missing key are both `None`. -/
def headerValue (protectedHeader : PyObject) (key : String) : PyJson :=
  (protectedHeader.lookup (.ofString key)).getD .null

/-- `_required_header_string`. -/
def requiredHeaderString (protectedHeader : PyObject) (key : String) : Except PyError PyStr :=
  match headerValue protectedHeader key with
  | .str value =>
    if value.strip = [] then signatureError s!"x-jws-signature {key} must be a non-empty string"
    else .ok value.strip
  | _ => signatureError s!"x-jws-signature {key} must be a non-empty string"

/-- `value == text`. -/
def isText (text : PyStr) : PyJson → Bool
  | .str value => value == text
  | _ => false

/-- The check of `typ`. -/
def checkType (jwsType : PyJson) : Except PyError Unit :=
  match jwsType with
  | .null => .ok ()
  | value => Except.raiseIf (isText (.ofString "JOSE") value = false)
      (.responseSignatureValidationError "x-jws-signature typ must be JOSE when supplied")

/-- The check of `cty`. A list or a dictionary cannot be looked up in a set. -/
def checkContentType (contentType : PyJson) : Except PyError Unit :=
  match contentType with
  | .null => .ok ()
  | .str text =>
    Except.raiseIf (text ∉ ["json", "application/json"].map PyStr.ofString)
      (.responseSignatureValidationError
        "x-jws-signature cty must be json or application/json when supplied")
  | .arr _ => .error (.typeError "cannot use 'list' as a set element (unhashable type: 'list')")
  | .obj _ => .error (.typeError "cannot use 'dict' as a set element (unhashable type: 'dict')")
  | _ => signatureError "x-jws-signature cty must be json or application/json when supplied"

/-- The texts of a list of strings. -/
def stringItems : List PyJson → Option (List PyStr)
  | [] => some []
  | .str text :: rest => (stringItems rest).map (text :: ·)
  | _ => none

/-- The check of `crit`. -/
def criticalHeaders (critHeader : PyJson) : Except PyError (List PyStr) :=
  match critHeader with
  | .arr items =>
    match stringItems items with
    | some texts => .ok texts
    | none => signatureError "x-jws-signature crit must be a string array"
  | _ => signatureError "x-jws-signature crit must be a string array"

/-- `_validate_b64_profile`. -/
def validateB64Profile (protectedHeader : PyObject) (critHeader : List PyStr) :
    Except PyError Unit :=
  match headerValue protectedHeader "b64" with
  | .bool false =>
    Except.raiseIf (.ofString "b64" ∉ critHeader)
      (.responseSignatureValidationError "x-jws-signature crit must include: b64")
  | .null =>
    Except.raiseIf (.ofString "b64" ∈ critHeader) (.responseSignatureValidationError
      "x-jws-signature crit must not include b64 unless b64 is false")
  | _ => signatureError "x-jws-signature b64 must be false when supplied"

/-- The check of `iat`. -/
def checkIssuedAt : PyJson → Except PyError Unit
  | .int _ => .ok ()
  | _ => signatureError s!"x-jws-signature {openBankingIat} must be a JSON integer"

/-- `_validate_protected_header`. -/
def validateProtectedHeader (protectedHeader : PyObject) :
    Except PyError ResponseSignatureValidation := do
  Except.raiseIf (isText (.ofString "PS256") (headerValue protectedHeader "alg") = false)
    (.responseSignatureValidationError "x-jws-signature alg must be PS256")
  let keyId ← requiredHeaderString protectedHeader "kid"
  checkType (headerValue protectedHeader "typ")
  checkContentType (headerValue protectedHeader "cty")
  let critHeader ← criticalHeaders (headerValue protectedHeader "crit")
  validateB64Profile protectedHeader critHeader
  let missing := requiredOpenBankingCriticalHeaders.filter (.ofString · ∉ critHeader)
  let missingText := ", ".intercalate missing
  Except.raiseIf (missing ≠ [])
    (.responseSignatureValidationError s!"x-jws-signature crit must include: {missingText}")
  checkIssuedAt (headerValue protectedHeader openBankingIat)
  let issuer ← requiredHeaderString protectedHeader openBankingIss
  let trustAnchor ← requiredHeaderString protectedHeader openBankingTan
  return { keyId := keyId, issuer := issuer, trustAnchor := trustAnchor }

/-! ## Keys -/

/-- `_string_key_parameters`. -/
def stringKeyParameters (rawKey : PyObject) : PyObject :=
  rawKey.filter fun entry =>
    match entry.2 with
    | .str _ => true
    | .arr items => (stringItems items).isSome
    | _ => false

/-- `_x5c_certificate_pem`. -/
def x5cCertificatePem (jose : Jose) (encodedCertificate : PyStr) :
    Except JoseException KeyMaterial :=
  let wrapped : PyStr := [CodePoint.scalar '\n'].intercalate (jose.wrap encodedCertificate.strip)
  if wrapped.all CodePoint.isAscii then
    .ok (.certificate
      s!"-----BEGIN CERTIFICATE-----\n{wrapped.text}\n-----END CERTIFICATE-----\n")
  else .error (.valueError "'ascii' codec can't encode characters")

/-- The first entry of `x5c`. -/
def firstCertificate (rawKey : PyObject) : Option PyStr :=
  match headerValue rawKey "x5c" with
  | .arr (.str certificate :: _) => some certificate
  | _ => none

/-- An `except (ValueError, TypeError)` clause around a call of `joserfc`. -/
def catchImport {α : Type} (outcome : Except JoseException α) (handler : Except PyError α) :
    Except PyError α :=
  match outcome with
  | .ok key => .ok key
  | .error (.joseError message) => .error (.joseError message)
  | .error (.valueError _) | .error (.typeError _) => handler

/-- `_import_verification_key`. -/
def importVerificationKey (jose : Jose) (rawKey : PyObject) (keyId : PyStr) :
    Except PyError jose.Key :=
  catchImport (jose.importKey (.parameters (stringKeyParameters rawKey)))
    (match firstCertificate rawKey with
    | none => signatureError s!"JWKS key {keyId.text} is not an importable RSA public key"
    | some certificate =>
      catchImport (x5cCertificatePem jose certificate >>= jose.importKey)
        (signatureError s!"JWKS x5c certificate for kid {keyId.text} is invalid"))

/-- Whether a key of the JWKS has a key id. -/
def hasKeyId (keyId : PyStr) : PyJson → Bool
  | .obj rawKey => isText keyId (headerValue rawKey "kid")
  | _ => false

/-- `_select_verification_key`. -/
def selectVerificationKey (jose : Jose) (jwks : PyObject) (keyId : PyStr) :
    Except PyError jose.Key :=
  match headerValue jwks "keys" with
  | .arr keys =>
    match keys.find? (hasKeyId keyId) with
    | some (.obj rawKey) => importVerificationKey jose rawKey keyId
    | _ => signatureError s!"JWKS does not contain a key for kid {keyId.text}"
  | _ => signatureError "JWKS response must contain a keys array"

/-! ## Validation -/

/-- The `except JoseError` clause around the verification. -/
def verify (jose : Jose) (signature : String) (key : jose.Key) (payload : ByteArray) :
    Except PyError Unit :=
  match jose.deserializeCompact signature key payload with
  | .ok () => .ok ()
  | .error (.joseError _) => signatureError "x-jws-signature failed PS256 verification"
  | .error (.valueError message) => .error (.valueError message)
  | .error (.typeError message) => .error (.typeError message)

/-- `validate_ob_response_signature` of a signature that is there. -/
def validateSuppliedSignature (jose : Jose) (signature : String) (payload : ByteArray)
    (jwks : PyObject) : Except PyError ResponseSignatureValidation := do
  let protectedHeader ← decodeProtectedHeader jose signature
  let validation ← validateProtectedHeader protectedHeader
  let verificationKey ← selectVerificationKey jose jwks validation.keyId
  verify jose signature verificationKey payload
  return validation

/-- `validate_ob_response_signature`. -/
def validateObResponseSignature (jose : Jose) (signature : Option String) (payload : ByteArray)
    (jwks : PyObject) : Except PyError ResponseSignatureValidation :=
  match signature with
  | none => signatureError "x-jws-signature header is missing"
  | some signature =>
    if strip signature = "" then signatureError "x-jws-signature header is missing"
    else validateSuppliedSignature jose (strip signature) payload jwks

/-! ## The handler of a step -/

/-- `ResponseSignatureValidation.to_json_object`, in texts of scalar values. -/
def ResponseSignatureValidation.toJsonObject (validation : ResponseSignatureValidation) :
    JsonObject :=
  [("kid", .str validation.keyId.text), ("issuer", .str validation.issuer.text),
    ("trustAnchor", .str validation.trustAnchor.text)]

/-- The text of an exception that the handler catches: a `JsonHttpClientError`, or one of
    the classes under `ValueError`. -/
def caughtText : PyError → Option String
  | .jsonHttpClientError message | .responseSignatureValidationError message
  | .httpsUrlValidationError message | .valueError message | .catalogueError message
  | .manifestError message | .certificationValidationError message
  | .structuredResultGateError message | .dcrExecutionError message
  | .jwtSigningError message => some message
  | .joseError _ | .schemaValidationConfigurationError _ | .typeError _ | .keyError _
  | .recursionError => none

/-- The `except` clause of `_execute_v1_step_inner` around the validation. -/
def handleSignature : Except PyError ResponseSignatureValidation → Attempt (Option JsonObject)
  | .ok validation => .value (some validation.toJsonObject)
  | .error error => (caughtText error).elim (.raised error) .caught

/-- `_validate_response_signature_if_required` of a step with a policy, given what the cache
    of JWKS documents returns. -/
def requireResponseSignature (jose : Jose) (signature : Option String) (payload : ByteArray)
    (jwks : Except PyError PyObject) : Except PyError ResponseSignatureValidation :=
  match signature with
  | none => signatureError "x-jws-signature header is missing"
  | some text =>
    if strip text = "" then signatureError "x-jws-signature header is missing"
    else do
      let jwks ← jwks
      validateObResponseSignature jose (some text) payload jwks

end Conformance
