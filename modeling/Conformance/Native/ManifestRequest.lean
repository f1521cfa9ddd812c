import Conformance.Native.Catalogue
import Conformance.Native.Placeholders

/-!
# Manifest requests

The parsers of `conformance/manifest.py` below the level of a step: the request of
an HTTP step with its headers, body and signing policies, and the request object
of a PSU authorisation step. `requestParsers` makes them the field parsers of
`parse_manifest`; assertions, v0 tests, the URL checks and Python's `repr` stay
parameters.
-/

namespace Conformance

/-- `ManifestBody`. -/
inductive ManifestBody where
  | json (value : Json)
  | form (fields : List (String × String))

/-- `DetachedJwsProfile`. -/
inductive DetachedJwsProfile where
  | legacyB64False
  | obV314Plus
  deriving DecidableEq, Repr

/-- `DetachedJwsPolicy`; its source is always `fapi-signing`. -/
structure DetachedJwsPolicy where
  omitProtectedHeaders : List String := []
  profile : Option DetachedJwsProfile := none

/-- `ManifestRequest`. -/
structure ManifestRequest where
  method : HttpMethod
  url : String
  headers : Option (List (String × String)) := none
  body : Option ManifestBody := none
  detachedJws : Option DetachedJwsPolicy := none

/-- `TokenEndpointAuthPolicy`; its source is always `fapi-signing`. -/
structure TokenEndpointAuthPolicy where
  deriving DecidableEq, Repr

/-- `RequestObjectValue`: an opaque string or a `GeneratedRequestObject`. -/
inductive RequestObjectValue where
  | literal (text : String)
  | generated (audience openbankingIntentId : Option String)

/-! ## Headers -/

/-- A character of an RFC 7230 token. -/
def isHeaderNameChar (c : Char) : Bool :=
  isAsciiAlphanumeric c || "!#$%&'*+-.^_`|~".toList.contains c

/-- `_HEADER_NAME_PATTERN.match`: the `$` of the pattern also matches before a final
    line feed. -/
def headerNamePatternMatch (name : String) : Bool :=
  let proper := fun cs : List Char => !cs.isEmpty && cs.all isHeaderNameChar
  proper name.toList || (name.toList.getLast? == some '\n' && proper name.toList.dropLast)

/-- A number written in base 16 with at least four digits. -/
def codePointText (n : Nat) : String :=
  let digits := (Nat.toDigits 16 n).map Char.toUpper
  String.ofList (List.replicate (4 - digits.length) '0' ++ digits)

/-- `validate_header_value`. -/
def validateHeaderValue (value location : String) : Except PyError Unit := do
  Except.raiseIf (strip value = "") (.manifestError s!"{location} must not be empty")
  match value.toList.find? fun c => !(c.toNat == 0x09 || (0x20 ≤ c.toNat && c.toNat ≤ 0x7e)) with
  | none => .ok ()
  | some badChar =>
    let codePoint := codePointText badChar.toNat
    .error (.manifestError (s!"{location} contains non-transportable character U+{codePoint} " ++
      "(only HTAB, SP, and VCHAR 0x21-0x7E are permitted)"))

/-- One header of `_parse_v1_headers`. -/
def parseV1Header (location : String) (seenIds : List String) (header : String × Json) :
    Except PyError (String × String) := do
  let name := header.1
  let headerLocation := s!"{location}.headers.{name}"
  Except.raiseIf (headerNamePatternMatch name = false) (.manifestError
    s!"{headerLocation} is not a valid HTTP header name (RFC 7230 token)")
  match header.2 with
  | .str value =>
    validateHeaderValue value headerLocation
    validatePlaceholderSyntax value headerLocation seenIds
    return (name, value)
  | _ => .error (.manifestError s!"{headerLocation} must be a string value")

/-- `_parse_v1_headers`. -/
def parseV1Headers (rawRequest : JsonObject) (location : String) (seenIds : List String) :
    Except PyError (Option (List (String × String))) :=
  match rawRequest.lookup "headers" with
  | none => .ok none
  | some (.obj rawHeaders) => do
    let headers ← rawHeaders.mapM (parseV1Header location seenIds)
    return some headers
  | some _ => .error (.manifestError s!"{location}.headers must be a JSON object")

/-! ## Bodies -/

/-- One field of a form body. -/
def parseFormField (location : String) (seenIds : List String) (field : String × Json) :
    Except PyError (String × String) := do
  let fieldName := field.1
  let fieldLocation := s!"{location}.fields.{fieldName}"
  Except.raiseIf (fieldName = "")
    (.manifestError s!"{location}.fields contains an empty field name")
  match field.2 with
  | .str value =>
    validatePlaceholderSyntax value fieldLocation seenIds
    return (fieldName, value)
  | _ => .error (.manifestError s!"{fieldLocation} must be a string value")

/-- The form shape of `_parse_tagged_body`. -/
def parseFormBody (body : JsonObject) (location : String) (seenIds : List String) :
    Except PyError ManifestBody := do
  rejectUnknownKeys body ["encoding", "fields"] location
  match body.lookup "fields" with
  | none => .error (.manifestError s!"{location}: form body must include a 'fields' object")
  | some (.obj []) => .error (.manifestError s!"{location}.fields must not be empty")
  | some (.obj rawFields) => do
    let fields ← rawFields.mapM (parseFormField location seenIds)
    return .form fields
  | some _ => .error (.manifestError s!"{location}.fields must be a JSON object")

/-- The JSON shape of `_parse_tagged_body`. -/
def parseTaggedJsonBody (body : JsonObject) (location : String) (seenIds : List String) :
    Except PyError ManifestBody := do
  rejectUnknownKeys body ["encoding", "value"] location
  match body.lookup "value" with
  | none => .error (.manifestError s!"{location}: tagged JSON body must include a 'value' key")
  | some .null => .error (.manifestError
      s!"{location}.value must not be null (omit the body key to send no body)")
  | some value =>
    validatePlaceholdersInStructure s!"{location}.value" seenIds value
    return .json value

/-- `_parse_tagged_body`, for a body with an encoding. -/
def parseTaggedBody (repr : Json → String) (encoding : Json) (body : JsonObject)
    (location : String) (seenIds : List String) : Except PyError ManifestBody :=
  match encoding with
  | .str "json" => parseTaggedJsonBody body location seenIds
  | .str "form" => parseFormBody body location seenIds
  | _ => do
    let got ← reprText repr encoding
    throw (.manifestError s!"{location}.encoding must be one of: json, form (got: {got})")

/-- A body without an encoding: implicit JSON. -/
def parseBareBody (body : Json) (location : String) (seenIds : List String) :
    Except PyError ManifestBody := do
  validatePlaceholdersInStructure location seenIds body
  return .json body

/-- The body that is given, tagged or bare. -/
def parseGivenBody (repr : Json → String) (body : Json) (location : String)
    (seenIds : List String) : Except PyError ManifestBody :=
  match body with
  | .null => .error (.manifestError
      s!"{location} must not be null (omit the key to send no body)")
  | .obj fields =>
    match fields.lookup "encoding" with
    | some encoding => parseTaggedBody repr encoding fields location seenIds
    | none => parseBareBody body location seenIds
  | _ => parseBareBody body location seenIds

/-- `_parse_v1_body`. -/
def parseV1Body (repr : Json → String) (rawRequest : JsonObject) (method : HttpMethod)
    (location : String) (seenIds : List String) : Except PyError (Option ManifestBody) :=
  match rawRequest.lookup "body" with
  | none => .ok none
  | some body =>
    if method = .get then
      .error (.manifestError s!"{location}: GET requests must not declare a body")
    else do
      let parsed ← parseGivenBody repr body s!"{location}.body" seenIds
      return some parsed

/-! ## Signing policies -/

/-- One round of `_parse_detached_jws_omitted_headers`. -/
def addOmittedHeader (location : String) (parsed : List String) (entry : Json × Nat) :
    Except PyError (List String) :=
  let index := entry.2
  match entry.1 with
  | .str rawHeader =>
    let header := strip rawHeader
    if header ∉ ["iat", "iss", "tan"] then
      .error (.manifestError s!"{location}[{index}] must be one of 'iat', 'iss', or 'tan'")
    else if header ∈ parsed then
      .error (.manifestError s!"{location} must not contain duplicate header '{header}'")
    else .ok (parsed ++ [header])
  | _ => .error (.manifestError s!"{location}[{index}] must be a string")

/-- `_parse_detached_jws_omitted_headers`. -/
def parseDetachedJwsOmittedHeaders (rawPolicy : JsonObject) (location : String) :
    Except PyError (List String) :=
  let headersLocation := s!"{location}.omitProtectedHeaders"
  match rawPolicy.lookup "omitProtectedHeaders" with
  | none => .ok []
  | some (.arr rawHeaders) => rawHeaders.zipIdx.foldlM (addOmittedHeader headersLocation) []
  | some _ => .error (.manifestError
      s!"{headersLocation} must be an array of strings when present")

/-- `_parse_detached_jws_profile`. -/
def parseDetachedJwsProfile (rawPolicy : JsonObject) (location : String) :
    Except PyError (Option DetachedJwsProfile) :=
  match rawPolicy.lookup "profile" with
  | none => .ok none
  | some _ => do
    let profile ← requiredString rawPolicy "profile" location
    if profile = "legacy-b64-false" then return some .legacyB64False
    else if profile = "ob-v3.1.4+" then return some .obV314Plus
    else throw (.manifestError
      s!"{location}.profile must be one of: legacy-b64-false, ob-v3.1.4+")

/-- `_parse_optional_detached_jws`. -/
def parseOptionalDetachedJws (rawRequest : JsonObject) (method : HttpMethod) (location : String)
    (seenIds : List String) : Except PyError (Option DetachedJwsPolicy) :=
  let policyLocation := s!"{location}.detachedJws"
  match rawRequest.lookup "detachedJws" with
  | none => .ok none
  | some value =>
    if method ∉ [HttpMethod.post, .put, .patch] then
      .error (.manifestError
        s!"{location}.detachedJws is only valid on POST, PUT, or PATCH requests")
    else
      match value with
      | .obj rawPolicy => do
        rejectUnknownKeys rawPolicy ["source", "omitProtectedHeaders", "profile"] policyLocation
        let source ← requiredString rawPolicy "source" policyLocation
        validatePlaceholderSyntax source s!"{policyLocation}.source" seenIds
        Except.raiseIf (source ≠ "fapi-signing")
          (.manifestError s!"{policyLocation}.source must be 'fapi-signing'")
        let omitted ← parseDetachedJwsOmittedHeaders rawPolicy policyLocation
        let profile ← parseDetachedJwsProfile rawPolicy policyLocation
        return some { omitProtectedHeaders := omitted, profile := profile }
      | _ => .error (.manifestError s!"{policyLocation} must be a JSON object when present")

/-- `_parse_optional_token_endpoint_auth_policy`. -/
def parseOptionalTokenEndpointAuthPolicy (rawStep : JsonObject) (request : ManifestRequest)
    (location : String) (seenIds : List String) :
    Except PyError (Option TokenEndpointAuthPolicy) :=
  let policyLocation := s!"{location}.tokenEndpointAuthPolicy"
  match rawStep.lookup "tokenEndpointAuthPolicy" with
  | none => .ok none
  | some (.obj rawPolicy) => do
    rejectUnknownKeys rawPolicy ["source"] policyLocation
    let source ← requiredString rawPolicy "source" policyLocation
    validateConstantManifestString source s!"{policyLocation}.source" seenIds
    Except.raiseIf (source ≠ "fapi-signing")
      (.manifestError s!"{policyLocation}.source must be 'fapi-signing'")
    let problem : PyError := .manifestError
      s!"{policyLocation} is only valid on POST requests with a form body"
    match request.method, request.body with
    | .post, some (.form _) => return some {}
    | _, _ => throw problem
  | some _ => .error (.manifestError s!"{policyLocation} must be a JSON object when present")

/-! ## Requests -/

/-- `_required_v1_method`. -/
def requiredV1Method (rawConfig : JsonObject) (location : String) : Except PyError HttpMethod := do
  let method ← requiredString rawConfig "method" location
  match [HttpMethod.get, .post, .put, .patch, .delete].find? fun allowed => allowed.text = method with
  | some method => return method
  | none => throw (.manifestError
      s!"{location}.method must be one of: GET, POST, PUT, PATCH, DELETE")

/-- `_required_token_id_from_authorization_header`. Header names are ASCII. -/
def requiredTokenIdFromAuthorizationHeader (request : ManifestRequest) : Option String := do
  let headers ← request.headers
  let header ← headers.find? fun header => header.1.toLower = "authorization"
  let value := (strip header.2).toList
  guard ("Bearer".toList.isPrefixOf value = true)
  let rest := value.drop 6
  guard ((rest.head?.any isSpace) = true)
  let tokenId ← (placeholderTokens (String.ofList rest)).head?.bind tokenPlaceholder?
  -- nothing but white space stands before the placeholder, and nothing after it
  guard (rest.dropWhile isSpace =
    (bracedToken (segment "tokens." ++ tokenId ++ segment ".access_token")).toList)
  return String.ofList tokenId

/-- The parts of `parse_manifest` outside these modules. -/
structure ExternalParsers where
  Assertion : Type
  Test : Type
  repr : Json → String
  parseAssertion : JsonObject → String → Except PyError Assertion
  parseTest : JsonObject → Nat → Except PyError Test
  validateHttpsUrl : String → String → Except PyError Unit
  validateOauthRedirectUri : String → String → Except PyError Unit

/-- `_parse_v1_request`. -/
def parseV1Request (external : ExternalParsers) (rawRequest : JsonObject) (location : String)
    (seenIds : List String) : Except PyError ManifestRequest := do
  rejectUnknownKeys rawRequest ["method", "url", "headers", "body", "detachedJws"] location
  let method ← requiredV1Method rawRequest location
  let url ← requiredString rawRequest "url" location
  validatePlaceholderSyntax url s!"{location}.url" seenIds
  -- a URL with placeholders is checked once they are resolved
  if containsPlaceholder url.toList = false then
    reraiseAsManifestError (external.validateHttpsUrl url s!"{location}.url")
  let headers ← parseV1Headers rawRequest location seenIds
  let body ← parseV1Body external.repr rawRequest method location seenIds
  let detachedJws ← parseOptionalDetachedJws rawRequest method location seenIds
  return { method := method, url := url, headers := headers, body := body,
           detachedJws := detachedJws }

/-! ## Request objects -/

/-- An optional text of `_parse_generated_request_object`. -/
def parseOptionalTemplate (raw : JsonObject) (key location : String) (seenIds : List String) :
    Except PyError (Option String) :=
  match (raw.lookup key).getD .null with
  | .null => .ok none
  | .str text =>
    if strip text = "" then
      .error (.manifestError s!"{location}.{key} must be a non-empty string when present")
    else do
      validatePlaceholderSyntax (strip text) s!"{location}.{key}" seenIds
      return some (strip text)
  | _ => .error (.manifestError s!"{location}.{key} must be a non-empty string when present")

/-- `_parse_generated_request_object`. -/
def parseGeneratedRequestObject (raw : JsonObject) (location : String) (seenIds : List String) :
    Except PyError RequestObjectValue := do
  rejectUnknownKeys raw ["source", "audience", "openbankingIntentId"] location
  let source ← requiredString raw "source" location
  validateConstantManifestString source s!"{location}.source" seenIds
  Except.raiseIf (source ≠ "fapi-signing")
    (.manifestError s!"{location}.source must be 'fapi-signing'")
  let audience ← parseOptionalTemplate raw "audience" location seenIds
  let openbankingIntentId ← parseOptionalTemplate raw "openbankingIntentId" location seenIds
  return .generated audience openbankingIntentId

/-- `_parse_psu_optional_request_object`. -/
def parsePsuOptionalRequestObject (rawStep : JsonObject) (location : String)
    (seenIds : List String) : Except PyError (Option RequestObjectValue) :=
  let objectLocation := s!"{location}.requestObject"
  match rawStep.lookup "requestObject" with
  | none => .ok none
  | some (.str value) =>
    if strip value = "" then
      .error (.manifestError s!"{objectLocation} must be a non-empty string when present")
    else do
      validatePlaceholderSyntax (strip value) objectLocation seenIds
      return some (.literal (strip value))
  | some (.obj raw) => do
    let requestObject ← parseGeneratedRequestObject raw objectLocation seenIds
    return some requestObject
  | some _ => .error (.manifestError (s!"{objectLocation} must be either a non-empty string or " ++
      "a JSON object directive when present"))

/-- The field parsers of `parse_manifest`. -/
def requestParsers (external : ExternalParsers) : FieldParsers where
  Request := ManifestRequest
  Assertion := external.Assertion
  TokenEndpointAuthPolicy := TokenEndpointAuthPolicy
  RequestObject := RequestObjectValue
  Test := external.Test
  repr := external.repr
  parseV1Request := parseV1Request external
  parseOptionalTokenEndpointAuthPolicy := parseOptionalTokenEndpointAuthPolicy
  validateConstantManifestString := validateConstantManifestString
  requiredTokenIdFromAuthorizationHeader := requiredTokenIdFromAuthorizationHeader
  parseAssertion := external.parseAssertion
  validatePlaceholderSyntax := validatePlaceholderSyntax
  validateHttpsUrl := external.validateHttpsUrl
  validateOauthRedirectUri := external.validateOauthRedirectUri
  parsePsuOptionalRequestObject := parsePsuOptionalRequestObject
  parseTest := external.parseTest

end Conformance
