import Conformance.Native.PlanConfig
import Conformance.Native.RequestSigning
import Conformance.Native.ResponseSignature

/-!
# The signing service

The detached signatures of `conformance/signing_service.py`: the protected header of each
profile, less the headers that a manifest asks to omit, and its signature by `joserfc`,
whose calls are fields of `JoseSigner`.
-/

namespace Conformance

/-- `_OPEN_BANKING_TRUST_ANCHOR`. -/
def openBankingTrustAnchor : String := "openbanking.org.uk"

/-- The calls of `joserfc` that sign. -/
structure JoseSigner where
  SigningKey : Type
  importKey : ByteArray → Except JoseException SigningKey
  serializeCompact : JsonObject → ByteArray → SigningKey → Except JoseException String
  detachContent : String → String

/-- `header_names_by_alias`. -/
def headerNamesByAlias : List (String × String) :=
  [("iat", openBankingIat), ("iss", openBankingIss), ("tan", openBankingTan)]

/-- One round of the loop of `_open_banking_protected_headers_to_omit`. -/
def appendOmittedHeader (omittedHeaders : List String) (headerAlias : String) :
    Except PyError (List String) :=
  match headerNamesByAlias.lookup headerAlias with
  | none => .error (.jwtSigningError
      s!"Unsupported Open Banking protected-header omission '{headerAlias}'")
  | some omittedHeader =>
    if omittedHeader ∈ omittedHeaders then .ok omittedHeaders
    else .ok (omittedHeaders ++ [omittedHeader])

/-- `_open_banking_protected_headers_to_omit`. -/
def openBankingProtectedHeadersToOmit (omitProtectedHeaders : List String) :
    Except PyError (List String) :=
  omitProtectedHeaders.foldlM appendOmittedHeader []

/-- `crit.remove(name)`. -/
def removeItem (name : String) : List Json → Except PyError (List Json)
  | [] => .error (.valueError "list.remove(x): x not in list")
  | item :: rest =>
    if item.pyEq (.str name) then .ok rest
    else do
      let rest ← removeItem name rest
      return item :: rest

/-- One round of the loop that omits protected headers. -/
def omitProtectedHeader (header : JsonObject) (protectedHeader : String) :
    Except PyError JsonObject :=
  if protectedHeader ∈ header.map Prod.fst then
    let header := PlanConfig.eraseField header protectedHeader
    match header.lookup "crit" with
    | some (.arr crit) => do
      let crit ← removeItem protectedHeader crit
      return setField header "crit" (.arr crit)
    | _ => .ok header
  else .error (.keyError protectedHeader)

/-- The protected header of the v3.1.4+ profile with nothing omitted. -/
def obProtectedHeader (keyId issuer : String) (issuedAt : Int) : JsonObject :=
  [("alg", .str "PS256"), ("kid", .str keyId), ("typ", .str "JOSE"),
    ("cty", .str "application/json"), (openBankingIat, .int issuedAt),
    (openBankingIss, .str issuer), (openBankingTan, .str openBankingTrustAnchor),
    ("crit", .arr [.str openBankingIat, .str openBankingIss, .str openBankingTan])]

/-- `_detached_jws_protected_header`. -/
def detachedJwsProtectedHeader (keyId : String) (profile : DetachedJwsProfile) (issuer : String)
    (issuedAt : Int) (omitProtectedHeaders : List String) : Except PyError JsonObject := do
  Except.raiseIf (omitProtectedHeaders ≠ [] ∧ profile ≠ .obV314Plus) (.jwtSigningError
    "Protected-header omission is only supported for the OB v3.1.4+ detached-JWS profile")
  match profile with
  | .legacyB64False =>
    return [("alg", .str "PS256"), ("kid", .str keyId), ("b64", .bool false),
      ("crit", .arr [.str "b64"])]
  | .obV314Plus => do
    let omitted ← openBankingProtectedHeadersToOmit omitProtectedHeaders
    omitted.foldlM omitProtectedHeader (obProtectedHeader keyId issuer issuedAt)

/-- A call of `joserfc` inside the `try` block of `_sign_ps256_detached_jws`. -/
def signingCall {α : Type} (outcome : Except JoseException α) : Except PyError α :=
  match outcome with
  | .ok value => .ok value
  | .error (.joseError message) => .error (.joseError message)
  | .error (.valueError message) => .error (.valueError message)
  | .error (.typeError message) => .error (.typeError message)

/-- The `except` clause of `_sign_ps256_detached_jws`; a `JwtSigningError` is a
    `ValueError`. -/
def catchSigning {α : Type} : Except PyError α → Except PyError α
  | .error (.joseError _) | .error (.valueError _) | .error (.typeError _)
  | .error (.jwtSigningError _) =>
    .error (.jwtSigningError "Unable to sign PS256 detached JWS with configured FAPI signing key")
  | outcome => outcome

/-- `_sign_ps256_detached_jws`. -/
def signPs256DetachedJws (signer : JoseSigner) (privateKeyPem : ByteArray) (keyId : String)
    (payload : ByteArray) (profile : DetachedJwsProfile) (issuer : String) (issuedAt : Int)
    (omitProtectedHeaders : List String) : Except PyError String :=
  catchSigning do
    let signingKey ← signingCall (signer.importKey privateKeyPem)
    let header ← detachedJwsProtectedHeader keyId profile issuer issuedAt omitProtectedHeaders
    let compactJws ← signingCall (signer.serializeCompact header payload signingKey)
    return signer.detachContent compactJws

end Conformance
