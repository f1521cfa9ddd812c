import Conformance.Native.ManifestRequest
import Conformance.Native.UrlValidation

/-!
# Manifest assertions

The assertion parsers of `conformance/manifest.py`, with their five kinds and the rules
of each, and the tests of a v0 manifest. `manifestParsers` makes them, and the URL
checks, the external parsers of a manifest.
-/

namespace Conformance

/-! ## The data -/

/-- `HttpStatusAssertion`. -/
structure HttpStatusAssertion where
  expected : Option Int := none
  expectedOneOf : List Int := []

/-- `JsonFieldRule`. -/
inductive JsonFieldRule where
  | required
  | httpsUrl
  | array
  | absent
  | string
  | number
  | boolean
  | object
  | nonEmptyArray
  | minItems
  | equals
  | oneOf
  | allItemsHaveField
  | allItemsAbsentFields
  deriving DecidableEq, Repr

/-- `JsonFieldAssertion`. -/
structure JsonFieldAssertion where
  path : String
  rule : JsonFieldRule
  value : Option Json := none
  values : Option (List Json) := none
  minItems : Option Int := none
  field : Option String := none
  fields : List String := []

/-- `HeaderRule`. -/
inductive HeaderRule where
  | present
  | absent
  | equals
  | contains
  deriving DecidableEq, Repr

/-- `HeaderAssertion`. -/
structure HeaderAssertion where
  name : String
  rule : HeaderRule
  value : Option String := none

/-- `ResponseSchemaAssertion`; its source is always `bundled_openapi`. -/
structure ResponseSchemaAssertion where
  document : String
  schemaRef : Option String := none
  schema : Option JsonObject := none
  bodyPath : Option String := none

/-- `LegacyFcsAssertion`. -/
structure LegacyFcsAssertion where
  rowKey : String
  allOf : List JsonObject := []
  oneOf : List JsonObject := []
  lastIfAll : List JsonObject := []
  schemaDocument : Option String := none
  schemaRefs : Dict Nat String := .empty

/-- `ManifestAssertion`. -/
inductive ManifestAssertion where
  | httpStatus (assertion : HttpStatusAssertion)
  | jsonField (assertion : JsonFieldAssertion)
  | header (assertion : HeaderAssertion)
  | responseSchema (assertion : ResponseSchemaAssertion)
  | legacyFcs (assertion : LegacyFcsAssertion)

/-- `ManifestFollowUp`: its type is `jwks`, its URL is `response.body.jwks_uri` and its
    method is `GET`. -/
structure ManifestFollowUp where
  assertions : List ManifestAssertion

/-- `ManifestTest`. -/
structure ManifestTest where
  id : String
  name : String
  request : ManifestRequest
  assertions : List ManifestAssertion
  followUp : Option ManifestFollowUp := none

/-! ## Reading fields -/

/-- `_reject_unknown_keys_with_singular_message`. -/
def rejectUnknownKeysWithSingularMessage (raw : JsonObject) (allowedKeys : List String)
    (location : String) : Except PyError Unit :=
  match sorted ((raw.map Prod.fst).dedup.filter fun key => key ∉ allowedKeys) with
  | [] => .ok ()
  | [key] => .error (.manifestError s!"Unknown {location} field: {key}")
  | unknownKeys =>
    .error (.manifestError (s!"Unknown {location} field(s): " ++ ", ".intercalate unknownKeys))

/-- One entry of an array of strings. -/
def requiredEntry (location : String) (entry : Json × Nat) : Except PyError String :=
  let index := entry.2
  match entry.1 with
  | .str item =>
    if strip item = "" then
      .error (.manifestError s!"{location}[{index}] must be a non-empty string")
    else .ok (strip item)
  | _ => .error (.manifestError s!"{location}[{index}] must be a non-empty string")

/-- `_required_string_array`. -/
def requiredStringArray (raw : JsonObject) (key location : String) :
    Except PyError (List String) :=
  match raw.lookup key with
  | some (.arr (item :: items)) =>
    (item :: items).zipIdx.mapM (requiredEntry s!"{location}.{key}")
  | _ => .error (.manifestError s!"{location}.{key} must be a non-empty array of strings")

/-- A required string that names one of `choices`. -/
def requiredChoice {α : Type} (choices : List (String × α)) (raw : JsonObject)
    (key location allowed : String) : Except PyError α := do
  let value ← requiredString raw key location
  match choices.lookup value with
  | some choice => return choice
  | none => throw (.manifestError s!"{location}.{key} must be one of: {allowed}")

/-- A required string without placeholders. -/
def requiredPlainString (raw : JsonObject) (key location : String) : Except PyError String := do
  let value ← requiredString raw key location
  Except.raiseIf (containsPlaceholder value.toList = true)
    (.manifestError s!"{location}.{key} must not contain placeholders")
  return value

mutual

/-- `_is_json_compatible_value`. -/
def isJsonCompatibleValue : Json → Bool
  | .null | .bool _ | .int _ | .str _ => true
  | .float _ => true
  | .arr items => areJsonCompatibleItems items
  | .obj fields => areJsonCompatibleFields fields

/-- The items of a list. -/
def areJsonCompatibleItems : List Json → Bool
  | [] => true
  | item :: rest => isJsonCompatibleValue item && areJsonCompatibleItems rest

/-- The members of a dictionary. -/
def areJsonCompatibleFields : List (String × Json) → Bool
  | [] => true
  | (_, value) :: rest => isJsonCompatibleValue value && areJsonCompatibleFields rest

end

/-! ## Status codes -/

/-- An integer from 100 to 599 that is no boolean. -/
def statusCode? : Json → Option Int
  | .int n => if 100 ≤ n ∧ n ≤ 599 then some n else none
  | _ => none

/-- `_required_status_code`. -/
def requiredStatusCode (raw : JsonObject) (location : String) : Except PyError Int :=
  match (raw.lookup "expected").bind statusCode? with
  | some code => .ok code
  | none => .error (.manifestError s!"{location}.expected must be an HTTP status code")

/-- One round of `_required_status_codes`. -/
def addStatusCode (location : String) (parsed : List Int) (entry : Json × Nat) :
    Except PyError (List Int) :=
  let index := entry.2
  match statusCode? entry.1 with
  | some code => .ok (if code ∈ parsed then parsed else parsed ++ [code])
  | none =>
    .error (.manifestError s!"{location}.expectedOneOf[{index}] must be an HTTP status code")

/-- `_required_status_codes`. -/
def requiredStatusCodes (raw : JsonObject) (location : String) : Except PyError (List Int) :=
  match raw.lookup "expectedOneOf" with
  | some (.arr (value :: values)) => (value :: values).zipIdx.foldlM (addStatusCode location) []
  | _ => .error (.manifestError
      s!"{location}.expectedOneOf must be a non-empty array of HTTP status codes")

/-- The `http_status` branch of `_parse_assertion`. -/
def parseHttpStatusAssertion (raw : JsonObject) (location : String) :
    Except PyError HttpStatusAssertion := do
  rejectUnknownKeys raw ["type", "expected", "expectedOneOf"] location
  let hasExpected := (raw.lookup "expected").isSome
  let hasExpectedOneOf := (raw.lookup "expectedOneOf").isSome
  Except.raiseIf (hasExpected = hasExpectedOneOf)
    (.manifestError s!"{location} must provide exactly one of expected or expectedOneOf")
  if hasExpectedOneOf then
    let codes ← requiredStatusCodes raw location
    return { expectedOneOf := codes }
  else
    let code ← requiredStatusCode raw location
    return { expected := some code }

/-! ## JSON fields -/

/-- The rules by their names. -/
def jsonFieldRules : List (String × JsonFieldRule) :=
  [("required", .required), ("https_url", .httpsUrl), ("array", .array), ("absent", .absent),
    ("string", .string), ("number", .number), ("boolean", .boolean), ("object", .object),
    ("non_empty_array", .nonEmptyArray), ("min_items", .minItems), ("equals", .equals),
    ("one_of", .oneOf), ("all_items_have_field", .allItemsHaveField),
    ("all_items_absent_fields", .allItemsAbsentFields)]

/-- `_required_json_field_rule`. -/
def requiredJsonFieldRule (raw : JsonObject) (location : String) : Except PyError JsonFieldRule :=
  requiredChoice jsonFieldRules raw "rule" location
    ("required, https_url, array, absent, string, number, boolean, object, non_empty_array, " ++
      "min_items, equals, one_of, all_items_have_field, all_items_absent_fields")

/-- `_required_json_compatible_value`, for the value of `equals`. -/
def requiredJsonCompatibleValue (raw : JsonObject) (location : String) : Except PyError Json :=
  match raw.lookup "value" with
  | none => .error (.manifestError
      s!"{location}.value must be present for json_field rule equals")
  | some value =>
    if isJsonCompatibleValue value then .ok value
    else .error (.manifestError s!"{location}.value must be valid JSON-compatible data")

/-- One entry of `_required_json_compatible_values`. -/
def requiredJsonCompatibleEntry (location : String) (entry : Json × Nat) : Except PyError Json :=
  let index := entry.2
  if isJsonCompatibleValue entry.1 then .ok entry.1
  else .error (.manifestError s!"{location}.values[{index}] must be valid JSON-compatible data")

/-- `_required_json_compatible_values`. -/
def requiredJsonCompatibleValues (raw : JsonObject) (location : String) :
    Except PyError (List Json) :=
  match raw.lookup "values" with
  | some (.arr (value :: values)) =>
    (value :: values).zipIdx.mapM (requiredJsonCompatibleEntry location)
  | _ => .error (.manifestError s!"{location}.values must be a non-empty array")

/-- `_required_min_items`. -/
def requiredMinItems (raw : JsonObject) (location : String) : Except PyError Int :=
  let problem : PyError :=
    .manifestError s!"{location}.minItems must be an integer greater than or equal to 1"
  match raw.lookup "minItems" with
  | some (.int n) => if n < 1 then .error problem else .ok n
  | _ => .error problem

/-- The key a rule takes besides `type`, `path` and `rule`. -/
def JsonFieldRule.extraKeys : JsonFieldRule → List String
  | .equals => ["value"]
  | .oneOf => ["values"]
  | .minItems => ["minItems"]
  | .allItemsHaveField => ["field"]
  | .allItemsAbsentFields => ["fields"]
  | _ => []

/-- `_parse_json_field_assertion`. -/
def parseJsonFieldAssertion (raw : JsonObject) (location : String) :
    Except PyError JsonFieldAssertion := do
  let rule ← requiredJsonFieldRule raw location
  rejectUnknownKeys raw (["type", "path", "rule"] ++ rule.extraKeys) location
  let path ← requiredString raw "path" location
  match rule with
  | .equals =>
    let value ← requiredJsonCompatibleValue raw location
    return { path := path, rule := rule, value := some value }
  | .oneOf =>
    let values ← requiredJsonCompatibleValues raw location
    return { path := path, rule := rule, values := some values }
  | .minItems =>
    let minItems ← requiredMinItems raw location
    return { path := path, rule := rule, minItems := some minItems }
  | .allItemsHaveField =>
    let field ← requiredString raw "field" location
    return { path := path, rule := rule, field := some field }
  | .allItemsAbsentFields =>
    let fields ← requiredStringArray raw "fields" location
    return { path := path, rule := rule, fields := fields }
  | _ => return { path := path, rule := rule }

/-! ## Headers -/

/-- `_required_header_rule`. -/
def requiredHeaderRule (raw : JsonObject) (location : String) : Except PyError HeaderRule :=
  requiredChoice [("present", .present), ("absent", .absent), ("equals", .equals),
    ("contains", .contains)] raw "rule" location "present, absent, equals, contains"

/-- `_required_header_rule_value`. -/
def requiredHeaderRuleValue (raw : JsonObject) (rule location : String) :
    Except PyError String :=
  let problem : PyError :=
    .manifestError s!"{location}.value must be a non-empty string for header rule {rule}"
  match raw.lookup "value" with
  | some (.str value) => if strip value = "" then .error problem else .ok (strip value)
  | _ => .error problem

/-- The value of a header rule, with the check on the keys of the assertion. -/
def parseHeaderRuleValue (rule : HeaderRule) (raw : JsonObject) (location : String) :
    Except PyError (Option String) :=
  match rule with
  | .equals => do
    rejectUnknownKeys raw ["type", "name", "rule", "value"] location
    let value ← requiredHeaderRuleValue raw "equals" location
    return some value
  | .contains => do
    rejectUnknownKeys raw ["type", "name", "rule", "value"] location
    let value ← requiredHeaderRuleValue raw "contains" location
    return some value
  | _ => do
    rejectUnknownKeysWithSingularMessage raw ["type", "name", "rule"] location
    return none

/-- `_HEADER_NAME_PATTERN.fullmatch`. -/
def headerNamePatternFullmatch (name : String) : Bool :=
  !name.toList.isEmpty && name.toList.all isHeaderNameChar

/-- `_parse_header_assertion`. -/
def parseHeaderAssertion (raw : JsonObject) (location : String) :
    Except PyError HeaderAssertion := do
  let rule ← requiredHeaderRule raw location
  let value ← parseHeaderRuleValue rule raw location
  let name ← requiredString raw "name" location
  Except.raiseIf (headerNamePatternFullmatch name = false)
    (.manifestError s!"{location}.name is not a valid HTTP header name")
  return { name := name, rule := rule, value := value }

/-! ## Response schemas -/

/-- `_ALLOWED_RESPONSE_SCHEMA_DOCUMENTS`, in the order of `sorted`. -/
def allowedResponseSchemaDocuments : List String :=
  ["ob-read-write-v3.1.11-account-info-openapi",
    "ob-read-write-v3.1.11-confirmation-funds-openapi",
    "ob-read-write-v3.1.11-payment-initiation-openapi",
    "ob-read-write-v3.1.11-vrp-openapi",
    "ob-read-write-v4.0-account-info-openapi",
    "ob-read-write-v4.0-payment-initiation-openapi",
    "ob-read-write-v4.0.1-account-info-openapi",
    "ob-read-write-v4.0.1-payment-initiation-openapi"]

/-- `_required_response_schema_source`. -/
def requiredResponseSchemaSource (raw : JsonObject) (location : String) :
    Except PyError Unit := do
  let source ← requiredPlainString raw "source" location
  Except.raiseIf (source ≠ "bundled_openapi")
    (.manifestError s!"{location}.source must be one of: bundled_openapi")

/-- `_required_response_schema_document`. -/
def requiredResponseSchemaDocument (raw : JsonObject) (location : String) :
    Except PyError String := do
  let document ← requiredPlainString raw "document" location
  Except.raiseIf (document ∉ allowedResponseSchemaDocuments)
    (.manifestError (s!"{location}.document must be one of: " ++
      ", ".intercalate allowedResponseSchemaDocuments))
  return document

/-- `_optional_response_schema_body_path`. -/
def optionalResponseSchemaBodyPath (raw : JsonObject) (location : String) :
    Except PyError (Option String) :=
  match raw.lookup "bodyPath" with
  | none => .ok none
  | some _ => do
    let bodyPath ← requiredPlainString raw "bodyPath" location
    return some bodyPath

/-- The inline schema of an assertion. -/
def requiredInlineSchema (schema : Option Json) (location : String) :
    Except PyError JsonObject :=
  match schema with
  | some (.obj (field :: fields)) => .ok (field :: fields)
  | _ => .error (.manifestError s!"{location}.schema must be a non-empty JSON object")

/-- `_parse_response_schema_assertion`. -/
def parseResponseSchemaAssertion (raw : JsonObject) (location : String) :
    Except PyError ResponseSchemaAssertion := do
  rejectUnknownKeys raw ["type", "source", "document", "schemaRef", "schema", "bodyPath"] location
  requiredResponseSchemaSource raw location
  let document ← requiredResponseSchemaDocument raw location
  let bodyPath ← optionalResponseSchemaBodyPath raw location
  let hasSchemaRef := (raw.lookup "schemaRef").isSome
  let hasInlineSchema := (raw.lookup "schema").isSome
  Except.raiseIf (hasSchemaRef = hasInlineSchema)
    (.manifestError s!"{location} must provide exactly one of schemaRef or schema")
  if hasSchemaRef then
    let schemaRef ← requiredPlainString raw "schemaRef" location
    return { document := document, schemaRef := some schemaRef, bodyPath := bodyPath }
  else
    let schema ← requiredInlineSchema (raw.lookup "schema") location
    return { document := document, schema := some schema, bodyPath := bodyPath }

/-! ## Legacy bundles -/

/-- The digits of `str.isdigit` that are no decimal digits, as ranges. -/
def otherDigits : List (Nat × Nat) :=
  [(0xb2, 0xb3), (0xb9, 0xb9), (0x1369, 0x1371), (0x19da, 0x19da), (0x2070, 0x2070),
    (0x2074, 0x2079), (0x2080, 0x2089), (0x2460, 0x2468), (0x2474, 0x247c), (0x2488, 0x2490),
    (0x24ea, 0x24ea), (0x24f5, 0x24fd), (0x24ff, 0x24ff), (0x2776, 0x277e), (0x2780, 0x2788),
    (0x278a, 0x2792), (0x10a40, 0x10a43), (0x10e60, 0x10e68), (0x11052, 0x1105a),
    (0x1f100, 0x1f10a)]

/-- `str.isdigit`, of one character. -/
def isDigitChar (c : Char) : Bool :=
  (decimalDigit? c).isSome || otherDigits.any fun range => range.1 ≤ c.toNat && c.toNat ≤ range.2

/-- `str.isdigit`. -/
def isDigit (text : String) : Bool := !text.toList.isEmpty && text.toList.all isDigitChar

/-- `int` of a text for which `str.isdigit` holds. -/
def intOfDigits (repr : Json → String) (text : String) : Except PyError Nat :=
  match decimalValue? text with
  | some n => .ok n
  | none =>
    let got := repr (.str text)
    .error (.valueError s!"invalid literal for int() with base 10: {got}")

/-- One round of the loop over `schemaRefs`. -/
def addSchemaRef (repr : Json → String) (location : String) (schemaRefs : Dict Nat String)
    (entry : String × Json) : Except PyError (Dict Nat String) := do
  let problem : PyError := .manifestError
    s!"{location}.schemaRefs must map HTTP status strings to local JSON pointers"
  Except.raiseIf (isDigit entry.1 = false) problem
  match entry.2 with
  | .str ref =>
    Except.raiseIf ("#/".toList.isPrefixOf ref.toList = false) problem
    let status ← intOfDigits repr entry.1
    return schemaRefs.set status ref
  | _ => throw problem

/-- The `schemaRefs` of a bundle. -/
def parseSchemaRefs (repr : Json → String) (raw : JsonObject) (location : String) :
    Except PyError (Dict Nat String) :=
  match (raw.lookup "schemaRefs").getD (.obj []) with
  | .obj rawSchemaRefs => rawSchemaRefs.foldlM (addSchemaRef repr location) .empty
  | _ => .error (.manifestError s!"{location}.schemaRefs must be a JSON object")

/-- The `schemaDocument` of a bundle. -/
def parseSchemaDocument (raw : JsonObject) (location : String) :
    Except PyError (Option String) :=
  let problem : PyError := .manifestError
    s!"{location}.schemaDocument must name an allowlisted bundled document"
  match (raw.lookup "schemaDocument").getD .null with
  | .null => .ok none
  | .str document =>
    if document ∈ allowedResponseSchemaDocuments then .ok (some document) else .error problem
  | _ => .error problem

/-- One entry of `_parse_legacy_expectations`. -/
def parseLegacyExpectation (location : String) (entry : Json × Nat) :
    Except PyError JsonObject :=
  let index := entry.2
  match entry.1 with
  | .obj expectation => .ok expectation
  | _ => .error (.manifestError s!"{location}[{index}] must be a JSON object")

/-- `_parse_legacy_expectations`. -/
def parseLegacyExpectations (raw : JsonObject) (key location : String) :
    Except PyError (List JsonObject) :=
  match (raw.lookup key).getD (.arr []) with
  | .arr rawExpectations =>
    rawExpectations.zipIdx.mapM (parseLegacyExpectation s!"{location}.{key}")
  | _ => .error (.manifestError s!"{location}.{key} must be an array")

/-- `_parse_legacy_fcs_assertion`. -/
def parseLegacyFcsAssertion (repr : Json → String) (raw : JsonObject) (location : String) :
    Except PyError LegacyFcsAssertion := do
  rejectUnknownKeys raw
    ["type", "rowKey", "allOf", "oneOf", "lastIfAll", "schemaDocument", "schemaRefs"] location
  let rowKey ← requiredString raw "rowKey" location
  let schemaDocument ← parseSchemaDocument raw location
  let schemaRefs ← parseSchemaRefs repr raw location
  let allOf ← parseLegacyExpectations raw "allOf" location
  let oneOf ← parseLegacyExpectations raw "oneOf" location
  let lastIfAll ← parseLegacyExpectations raw "lastIfAll" location
  return { rowKey := rowKey, allOf := allOf, oneOf := oneOf, lastIfAll := lastIfAll,
           schemaDocument := schemaDocument, schemaRefs := schemaRefs }

/-! ## Assertions and tests -/

/-- `AssertionType`. -/
inductive AssertionType where
  | httpStatus
  | jsonField
  | header
  | responseSchema
  | legacyFcs
  deriving DecidableEq, Repr

/-- `_required_assertion_type`. -/
def requiredAssertionType (raw : JsonObject) (location : String) :
    Except PyError AssertionType :=
  requiredChoice [("http_status", .httpStatus), ("json_field", .jsonField), ("header", .header),
      ("response_schema", .responseSchema), ("legacy_fcs", .legacyFcs)] raw "type" location
    "http_status, json_field, header, response_schema, legacy_fcs"

/-- `_parse_assertion`. -/
def parseAssertion (repr : Json → String) (raw : JsonObject) (location : String) :
    Except PyError ManifestAssertion := do
  let assertionType ← requiredAssertionType raw location
  match assertionType with
  | .httpStatus =>
    let assertion ← parseHttpStatusAssertion raw location
    return .httpStatus assertion
  | .jsonField =>
    let assertion ← parseJsonFieldAssertion raw location
    return .jsonField assertion
  | .header =>
    let assertion ← parseHeaderAssertion raw location
    return .header assertion
  | .responseSchema =>
    let assertion ← parseResponseSchemaAssertion raw location
    return .responseSchema assertion
  | .legacyFcs =>
    let assertion ← parseLegacyFcsAssertion repr raw location
    return .legacyFcs assertion

/-- The assertions of a test, a step or a follow-up. -/
def parseAssertions (repr : Json → String) (assertions : List JsonObject) (location : String) :
    Except PyError (List ManifestAssertion) :=
  assertions.zipIdx.mapM fun entry =>
    let assertionIndex := entry.2
    parseAssertion repr entry.1 s!"{location}.assertions[{assertionIndex}]"

/-- `_required_get_method`. -/
def requiredGetMethod (raw : JsonObject) (location : String) : Except PyError Unit := do
  let method ← requiredString raw "method" location
  Except.raiseIf (method ≠ "GET") (.manifestError s!"{location}.method must be GET")

/-- `_required_https_url`. -/
def requiredHttpsUrl (text : UrlText) (raw : JsonObject) (key location : String) :
    Except PyError String := do
  let value ← requiredString raw key location
  reraiseAsManifestError (validateHttpsUrl text value s!"{location}.{key}")
  return value

/-- `_parse_request`. -/
def parseRequest (text : UrlText) (raw : JsonObject) (location : String) :
    Except PyError ManifestRequest := do
  rejectUnknownKeys raw ["method", "url"] location
  requiredGetMethod raw location
  let url ← requiredHttpsUrl text raw "url" location
  return { method := .get, url := url }

/-- `_parse_follow_up_request`. -/
def parseFollowUpRequest (raw : JsonObject) (location : String) : Except PyError Unit := do
  rejectUnknownKeys raw ["method"] location
  requiredGetMethod raw location

/-- `_parse_follow_up`. -/
def parseFollowUp (repr : Json → String) (rawFollowUp : Json) (location : String) :
    Except PyError ManifestFollowUp :=
  match rawFollowUp with
  | .obj raw => do
    rejectUnknownKeys raw ["type", "urlSource", "request", "assertions"] location
    let followUpType ← requiredString raw "type" location
    Except.raiseIf (followUpType ≠ "jwks") (.manifestError s!"{location}.type must be jwks")
    let urlSource ← requiredString raw "urlSource" location
    Except.raiseIf (urlSource ≠ "response.body.jwks_uri")
      (.manifestError s!"{location}.urlSource must be response.body.jwks_uri")
    let assertions ← requiredObjectArray raw "assertions" location
    let rawRequest ← requiredObject raw "request" location
    parseFollowUpRequest rawRequest s!"{location}.request"
    let parsedAssertions ← parseAssertions repr assertions location
    return { assertions := parsedAssertions }
  | _ => .error (.manifestError s!"{location} must be a JSON object")

/-- The optional follow-up of a test. -/
def parseOptionalFollowUp (repr : Json → String) (rawTest : JsonObject) (location : String) :
    Except PyError (Option ManifestFollowUp) :=
  match rawTest.lookup "followUp" with
  | none => .ok none
  | some rawFollowUp => do
    let followUp ← parseFollowUp repr rawFollowUp s!"{location}.followUp"
    return some followUp

/-- `_parse_test`. -/
def parseTest (text : UrlText) (repr : Json → String) (rawTest : JsonObject) (index : Nat) :
    Except PyError ManifestTest := do
  let location := s!"tests[{index}]"
  rejectUnknownKeys rawTest ["id", "name", "request", "assertions", "followUp"] location
  let assertions ← requiredObjectArray rawTest "assertions" location
  let testId ← requiredString rawTest "id" location
  validateStepId testId location
  let name ← requiredString rawTest "name" location
  let rawRequest ← requiredObject rawTest "request" location
  let request ← parseRequest text rawRequest s!"{location}.request"
  let parsedAssertions ← parseAssertions repr assertions location
  let followUp ← parseOptionalFollowUp repr rawTest location
  return { id := testId, name := name, request := request, assertions := parsedAssertions,
           followUp := followUp }

/-- The parsers of `manifest.py`, with `repr` and the URL library left open. -/
def manifestParsers (text : UrlText) (repr : Json → String) : ExternalParsers where
  Assertion := ManifestAssertion
  Test := ManifestTest
  repr := repr
  parseAssertion := parseAssertion repr
  parseTest := parseTest text repr
  validateHttpsUrl := validateHttpsUrl text
  validateOauthRedirectUri := validateOauthRedirectUri text

end Conformance
