import Conformance.Native.SchemaValidation

/-!
# Assertions

`conformance/assertions.py`: a manifest assertion is evaluated against the status, the
headers and the JSON object body of a response. A missing value is `none`. Writing an
integer of more than 4300 digits, reading one from a path, and parsing a URL can raise
a `ValueError`.
-/

namespace Conformance

/-- `AssertionResult`. -/
structure AssertionResult where
  passed : Bool
  message : String
  deriving DecidableEq, Repr

/-- What the evaluation uses of Python and of other modules: `str.lower`, the texts of
    values, the compact `json.dumps`, URLs and response schemas. -/
structure AssertionLibrary where
  lower : String → String
  repr : Json → String
  pyStr : Json → String
  floats : FloatText
  urls : UrlText
  schemas : SchemaLibrary

/-! ## Values -/

mutual

/-- `_json_values_equal`; there is no NaN. -/
def jsonValuesEqual : Json → Json → Bool
  | .bool left, .bool right => left == right
  | .bool _, _ => false
  | .arr left, .arr right => itemsEqual left right
  | .obj left, .obj right =>
    (left.all fun field => (right.lookup field.1).isSome) &&
      (right.all fun field => (left.lookup field.1).isSome) && fieldsEqual left right
  | left, right => if right matches .bool _ then false else left.pyEq right

/-- The items of two arrays of one length. -/
def itemsEqual : List Json → List Json → Bool
  | [], [] => true
  | left :: lefts, right :: rights => jsonValuesEqual left right && itemsEqual lefts rights
  | _, _ => false

/-- The members of an object against those of another under the same keys. -/
def fieldsEqual : List (String × Json) → List (String × Json) → Bool
  | [], _ => true
  | (key, left) :: rest, rights =>
    (match rights.lookup key with
      | some right => jsonValuesEqual left right
      | none => false) && fieldsEqual rest rights

end

/-- `str.isdecimal`. -/
def isDecimal (text : String) : Bool :=
  !text.toList.isEmpty && text.toList.all fun c => (decimalDigit? c).isSome

section Paths

variable (repr : Json → String)

/-- One round of `_resolve_json_path`. -/
def resolvePathSegment (current : Option Json) (pathPart : String) :
    Except PyError (Option Json) :=
  match current with
  | some (.obj fields) => .ok (fields.lookup pathPart)
  | some (.arr items) =>
    if isDecimal pathPart then do
      let index ← intOfDigits repr pathPart
      return items[index]?
    else .ok none
  | _ => .ok none

/-- `_resolve_json_path`. Once a value is missing it stays missing. -/
def resolveJsonPath (body : JsonObject) (path : String) : Except PyError (Option Json) :=
  ((path.toList.splitOn '.').map String.ofList).foldlM (resolvePathSegment repr) (some (.obj body))

end Paths

/-! ## Texts -/

/-- The text of an integer. -/
def intText (n : Int) : Except PyError String := do
  let digits ← dumpInt n
  return String.ofList digits

/-- `_format_json_value`. -/
def formatJsonValue (floats : FloatText) (value : Option Json) : Except PyError String :=
  match value with
  | some (.str text) => .ok text
  | value => do
    let text ← jsonDumps floats (value.getD .null)
    return String.ofList text

/-- `_format_json_value_list`. -/
def formatJsonValueList (floats : FloatText) (values : List Json) : Except PyError String := do
  let texts ← values.mapM fun value => formatJsonValue floats (some value)
  return ", ".intercalate texts

/-- `_format_field_names`. -/
def formatFieldNames (fieldNames : List String) : String := ", ".intercalate fieldNames

/-! ## JSON fields -/

/-- A passed or a failed assertion, by a test. -/
def passedIf (passed : Bool) (onPass onFail : String) : AssertionResult :=
  if passed then ⟨true, onPass⟩ else ⟨false, onFail⟩

/-- `_evaluate_https_url`. -/
def evaluateHttpsUrl (urls : UrlText) (path : String) (value : Json) :
    Except PyError AssertionResult :=
  let problem : AssertionResult := ⟨false, s!"JSON field {path} must be a non-empty HTTPS URL string"⟩
  match value with
  | .str text =>
    if strip text = "" then .ok problem
    else
      match validateHttpsUrl urls (strip text) s!"JSON field {path}" with
      | .ok () => .ok ⟨true, s!"JSON field {path} is an HTTPS URL"⟩
      | .error (.httpsUrlValidationError message) => .ok ⟨false, message⟩
      | .error error => .error error
  | _ => .ok problem

/-- `_evaluate_array`. -/
def evaluateArray (path : String) (value : Json) : AssertionResult :=
  passedIf (value matches .arr _) s!"JSON field {path} is an array"
    s!"JSON field {path} must be an array"

/-- `_evaluate_json_string`. -/
def evaluateJsonString (path : String) (value : Json) : AssertionResult :=
  passedIf (value matches .str _) s!"JSON field {path} is a string"
    s!"JSON field {path} must be a string"

/-- `_evaluate_json_number`. -/
def evaluateJsonNumber (path : String) (value : Json) : AssertionResult :=
  passedIf (value matches .int _ | .float _) s!"JSON field {path} is a number"
    s!"JSON field {path} must be a number"

/-- `_evaluate_json_boolean`. -/
def evaluateJsonBoolean (path : String) (value : Json) : AssertionResult :=
  passedIf (value matches .bool _) s!"JSON field {path} is a boolean"
    s!"JSON field {path} must be a boolean"

/-- `_evaluate_json_object`. -/
def evaluateJsonObject (path : String) (value : Json) : AssertionResult :=
  passedIf (value matches .obj _) s!"JSON field {path} is an object"
    s!"JSON field {path} must be an object"

/-- `_evaluate_non_empty_array`. -/
def evaluateNonEmptyArray (path : String) (value : Json) : AssertionResult :=
  passedIf (value matches .arr (_ :: _)) s!"JSON field {path} is a non-empty array"
    s!"JSON field {path} must be a non-empty array"

/-- `_evaluate_min_items`. -/
def evaluateMinItems (path : String) (value : Json) (minimum : Option Int) :
    Except PyError AssertionResult :=
  match value, minimum with
  | .arr _, none => .ok ⟨false, s!"JSON field {path} has an invalid minimum item count"⟩
  | .arr items, some minimum => do
    let text ← intText minimum
    return passedIf (minimum ≤ items.length) s!"JSON field {path} contains at least {text} items"
      s!"JSON field {path} must contain at least {text} items"
  | _, _ => .ok ⟨false, s!"JSON field {path} must be an array"⟩

/-- `_evaluate_json_equals`. -/
def evaluateJsonEquals (floats : FloatText) (path : String) (value : Json)
    (expected : Option Json) : Except PyError AssertionResult := do
  let text ← formatJsonValue floats expected
  return passedIf (jsonValuesEqual value (expected.getD .null)) s!"JSON field {path} equals {text}"
    s!"JSON field {path} must equal {text}"

/-- `_evaluate_json_one_of`. -/
def evaluateJsonOneOf (floats : FloatText) (path : String) (value : Json)
    (candidates : Option (List Json)) : Except PyError AssertionResult :=
  match candidates with
  | none => .ok ⟨false, s!"JSON field {path} has no allowed values"⟩
  | some candidates => do
    let text ← formatJsonValueList floats candidates
    return passedIf (candidates.any (jsonValuesEqual value)) s!"JSON field {path} equals one of: {text}"
      s!"JSON field {path} must equal one of: {text}"

/-- Whether a value is an object with a field. -/
def hasField (fieldName : String) : Json → Bool
  | .obj fields => (fields.lookup fieldName).isSome
  | _ => false

/-- `_evaluate_all_items_have_field`. -/
def evaluateAllItemsHaveField (path : String) (value : Json) (fieldName : Option String) :
    AssertionResult :=
  match value with
  | .arr items =>
    let fieldName := fieldName.getD ""
    if fieldName = "" then ⟨false, s!"JSON field {path} has an invalid required item field"⟩
    else
      passedIf (items.all (hasField fieldName))
        s!"Every item in JSON field {path} contains field {fieldName}"
        s!"Every item in JSON field {path} must contain field {fieldName}"
  | _ => ⟨false, s!"JSON field {path} must be an array"⟩

/-- `_evaluate_object_absent_fields`. -/
def evaluateObjectAbsentFields (path : String) (value : JsonObject) (fieldNames : List String) :
    AssertionResult :=
  match fieldNames.find? fun fieldName => (value.lookup fieldName).isSome with
  | some fieldName => ⟨false, s!"JSON field {path}.{fieldName} must be absent"⟩
  | none =>
    let names := formatFieldNames fieldNames
    ⟨true, s!"JSON field {path} omits fields: {names}"⟩

/-- One item of `_evaluate_all_items_absent_fields`. -/
def evaluateItemAbsentFields (path : String) (fieldNames : List String) (entry : Json × Nat) :
    AssertionResult :=
  let index := entry.2
  match entry.1 with
  | .obj fields => evaluateObjectAbsentFields s!"{path}[{index}]" fields fieldNames
  | _ => ⟨false, s!"JSON field {path}[{index}] must be an object"⟩

/-- `_evaluate_all_items_absent_fields`. -/
def evaluateAllItemsAbsentFields (path : String) (value : Json) (fieldNames : List String) :
    AssertionResult :=
  if fieldNames = [] then ⟨false, s!"JSON field {path} has no forbidden item fields"⟩
  else
    match value with
    | .obj fields => evaluateObjectAbsentFields path fields fieldNames
    | .arr items =>
      match (items.zipIdx.map (evaluateItemAbsentFields path fieldNames)).find? fun result =>
          !result.passed with
      | some result => result
      | none =>
        let names := formatFieldNames fieldNames
        ⟨true, s!"Every item in JSON field {path} omits fields: {names}"⟩
    | _ => ⟨false, s!"JSON field {path} must be an object or array"⟩

section Evaluation

variable (library : AssertionLibrary)

/-- The rules of `_evaluate_json_field`, on a value that is there. -/
def evaluatePresentField (assertion : JsonFieldAssertion) (value : Json) :
    Except PyError AssertionResult :=
  let path := assertion.path
  match assertion.rule with
  | .absent => .ok ⟨false, s!"JSON field {path} must be absent"⟩
  | .required => .ok ⟨true, s!"JSON field {path} is present"⟩
  | .httpsUrl => evaluateHttpsUrl library.urls path value
  | .array => .ok (evaluateArray path value)
  | .string => .ok (evaluateJsonString path value)
  | .number => .ok (evaluateJsonNumber path value)
  | .boolean => .ok (evaluateJsonBoolean path value)
  | .object => .ok (evaluateJsonObject path value)
  | .nonEmptyArray => .ok (evaluateNonEmptyArray path value)
  | .minItems => evaluateMinItems path value assertion.minItems
  | .equals => evaluateJsonEquals library.floats path value assertion.value
  | .oneOf => evaluateJsonOneOf library.floats path value assertion.values
  | .allItemsAbsentFields => .ok (evaluateAllItemsAbsentFields path value assertion.fields)
  | .allItemsHaveField => .ok (evaluateAllItemsHaveField path value assertion.field)

/-- `_evaluate_json_field`. -/
def evaluateJsonField (assertion : JsonFieldAssertion) (body : JsonObject) :
    Except PyError AssertionResult := do
  let path := assertion.path
  let resolved ← resolveJsonPath library.repr body path
  match resolved with
  | some value => evaluatePresentField library assertion value
  | none =>
    return if assertion.rule = .absent then ⟨true, s!"JSON field {path} is absent"⟩
      else ⟨false, s!"JSON field {path} is missing"⟩

/-! ## Status and headers -/

/-- `_evaluate_http_status`. -/
def evaluateHttpStatus (assertion : HttpStatusAssertion) (statusCode : Int) : AssertionResult :=
  let matched : AssertionResult := ⟨true, s!"HTTP status was {statusCode}"⟩
  if assertion.expectedOneOf ≠ [] then
    let expected := " or ".intercalate (assertion.expectedOneOf.map fun code => s!"{code}")
    if statusCode ∈ assertion.expectedOneOf then matched
    else ⟨false, s!"Expected HTTP status {expected}, got {statusCode}"⟩
  else if some statusCode = assertion.expected then matched
  else
    let expected := assertion.expected.elim "None" fun code => s!"{code}"
    ⟨false, s!"Expected HTTP status {expected}, got {statusCode}"⟩

/-- `_resolve_header_value`. -/
def resolveHeaderValue (headers : List (String × String)) (name : String) : Option String :=
  (headers.find? fun header => library.lower header.1 = library.lower name).map Prod.snd

/-- Whether a text is in another. -/
def isSubstring (text within : String) : Bool :=
  within.toList.tails.any fun suffix => text.toList.isPrefixOf suffix

/-- `_evaluate_header`. -/
def evaluateHeader (assertion : HeaderAssertion) (headers : List (String × String)) :
    AssertionResult :=
  let name := assertion.name
  match assertion.rule, resolveHeaderValue library headers name with
  | .present, none => ⟨false, s!"Header {name} is missing"⟩
  | .present, some _ => ⟨true, s!"Header {name} is present"⟩
  | .absent, none => ⟨true, s!"Header {name} is absent"⟩
  | .absent, some _ => ⟨false, s!"Header {name} must be absent"⟩
  | _, none => ⟨false, s!"Header {name} is missing"⟩
  | .equals, some value =>
    passedIf (assertion.value = some value) s!"Header {name} equals the expected value"
      s!"Header {name} must equal the expected value"
  | .contains, some value =>
    passedIf (assertion.value.any fun expected => isSubstring expected value)
      s!"Header {name} contains the expected value"
      s!"Header {name} must contain the expected value"

/-! ## Response schemas -/

/-- `_describe_response_schema`. -/
def describeResponseSchema (assertion : ResponseSchemaAssertion) : String :=
  match assertion.schemaRef with
  | some schemaRef => s!"{schemaRef} from {assertion.document}"
  | none => s!"inline schema from {assertion.document}"

/-- `_evaluate_response_schema` from the selected value on. -/
def evaluateSelectedSchema (assertion : ResponseSchemaAssertion) (value : Json)
    (location : String) : Except PyError AssertionResult := do
  let problem ← validateJsonInstanceAgainstResponseSchema library.schemas library.repr
    "bundled_openapi" assertion.document assertion.schemaRef assertion.schema value
  let description := describeResponseSchema assertion
  return match problem with
    | none => ⟨true, s!"{location} matches schema {description}"⟩
    | some message => ⟨false, s!"{location} failed schema validation: {message}"⟩

/-- `_evaluate_response_schema`. -/
def evaluateResponseSchema (assertion : ResponseSchemaAssertion) (body : JsonObject) :
    Except PyError AssertionResult :=
  match assertion.bodyPath with
  | none => evaluateSelectedSchema library assertion (.obj body) "Response body"
  | some bodyPath => do
    let selected ← resolveJsonPath library.repr body bodyPath
    match selected with
    | none => return ⟨false, s!"Response body path {bodyPath} is missing"⟩
    | some value => evaluateSelectedSchema library assertion value s!"Response body path {bodyPath}"

/-! ## Legacy paths -/

/-- The state of `_legacy_json_path_segments`: the segments so far, the current one, the
    depth of brackets and whether a quotation is open. -/
structure LegacySplit where
  segments : List (List Char) := []
  current : List Char := []
  bracketDepth : Int := 0
  quoted : Bool := false

/-- One character of `_legacy_json_path_segments`. -/
def legacySplitChar (state : LegacySplit) (c : Char) : LegacySplit :=
  let quoted := if c = '"' then !state.quoted else state.quoted
  let bracketDepth :=
    if c = '[' ∧ state.quoted = false then state.bracketDepth + 1
    else if c = ']' ∧ state.quoted = false then state.bracketDepth - 1
    else state.bracketDepth
  if c = '.' ∧ bracketDepth = 0 ∧ quoted = false then
    ⟨state.segments ++ [state.current], [], bracketDepth, quoted⟩
  else ⟨state.segments, state.current ++ [c], bracketDepth, quoted⟩

/-- `_legacy_json_path_segments`. -/
def legacyJsonPathSegments (path : String) : List (List Char) :=
  let state := path.toList.foldl legacySplitChar {}
  state.segments ++ [state.current]

/-- `re.fullmatch(r"#\(([^)]+)\)", segment)`. -/
def presenceMatch (segment : List Char) : Option String :=
  match segment with
  | '#' :: '(' :: rest =>
    let name := rest.takeWhile (· ≠ ')')
    if name ≠ [] ∧ rest.drop name.length = [')'] then some (String.ofList name) else none
  | _ => none

/-- `re.fullmatch(r'#\[([^=]+)="([^"]*)"\]', segment)`. -/
def filterMatch (segment : List Char) : Option (String × String) :=
  match segment with
  | '#' :: '[' :: rest =>
    let name := rest.takeWhile (· ≠ '=')
    match rest.drop name.length with
    | '=' :: '"' :: rest =>
      let expected := rest.takeWhile (· ≠ '"')
      if name ≠ [] ∧ rest.drop expected.length = ['"', ']'] then
        some (String.ofList name, String.ofList expected)
      else none
    | _ => none
  | _ => none

/-- The field of an item that is an object. -/
def itemField? (fieldName : String) : Json → Option Json
  | .obj fields => fields.lookup fieldName
  | _ => none

/-- One round of `_resolve_legacy_json_path`. -/
def resolveLegacySegment (current : Option Json) (segment : List Char) : Option Json :=
  match current, presenceMatch segment, filterMatch segment with
  | some (.arr items), some fieldName, _ =>
    match items.filterMap (itemField? fieldName) with
    | [] => none
    | values => some (.arr values)
  | some (.arr items), none, some (fieldName, expected) =>
    items.find? fun item => (itemField? fieldName item).any (isTextValue expected)
  | some (.obj fields), none, none => fields.lookup (String.ofList segment)
  | _, _, _ => none

/-- `_resolve_legacy_json_path`. -/
def resolveLegacyJsonPath (body : JsonObject) (path : String) : Option Json :=
  (legacyJsonPathSegments path).foldl resolveLegacySegment (some (.obj body))

/-- `_legacy_scalar_text`. -/
def legacyScalarText (value : Json) : Except PyError String :=
  match value with
  | .bool true => .ok "true"
  | .bool false => .ok "false"
  | .null => .ok "null"
  | value => reprText library.pyStr value

/-! ## Legacy bundles -/

/-- A text among the fields of an expectation. -/
def textField? (fields : JsonObject) (key : String) : Option String :=
  match fields.lookup key with
  | some (.str text) => some text
  | _ => none

/-- Whether the `Value` of a match accepts a value. -/
def legacyValueAccepts (expected : Json) (value : Json) : Except PyError Bool :=
  match expected with
  | .str text => do
    let actual ← legacyScalarText library value
    return actual == text
  | expected => .ok (value.pyEq expected)

/-- The `header` branch of `_evaluate_legacy_match`; the names of the headers are in lower
    case. -/
def evaluateLegacyHeader (legacyMatch : JsonObject) (headerName : String)
    (headers : Dict String String) : Bool × String :=
  match headers.get? (library.lower headerName) with
  | none => (false, s!"response header {headerName} is missing")
  | some actual =>
    match textField? legacyMatch "value" with
    | some expected =>
      if actual ≠ expected then (false, s!"response header {headerName} did not match")
      else (true, s!"response header {headerName} matched")
    | none => (true, s!"response header {headerName} matched")

/-- The `JSON` branch of `_evaluate_legacy_match`. -/
def evaluateLegacyJson (legacyMatch : JsonObject) (jsonPath : String) (body : JsonObject) :
    Except PyError (Bool × String) :=
  match resolveLegacyJsonPath body jsonPath with
  | none => .ok (false, s!"JSON field {jsonPath} is missing")
  | some value =>
    match legacyMatch.lookup "Value" with
    | none => .ok (true, s!"JSON field {jsonPath} matched")
    | some expected => do
      let accepted ← legacyValueAccepts library expected value
      return if accepted then (true, s!"JSON field {jsonPath} matched")
        else (false, s!"JSON field {jsonPath} did not match")

/-- `_evaluate_legacy_match`. -/
def evaluateLegacyMatch (legacyMatch : JsonObject) (headers : Dict String String)
    (body : JsonObject) : Except PyError (Bool × String) :=
  match textField? legacyMatch "header-present", textField? legacyMatch "header",
      textField? legacyMatch "JSON", textField? legacyMatch "JSON-NOT-PRESENT" with
  | some name, _, _, _ =>
    .ok (if headers.contains (library.lower name) then
        (true, s!"response header {name} is present")
      else (false, s!"response header {name} is missing"))
  | none, some headerName, _, _ => .ok (evaluateLegacyHeader library legacyMatch headerName headers)
  | none, none, some jsonPath, _ => evaluateLegacyJson library legacyMatch jsonPath body
  | none, none, none, some absentPath =>
    .ok (if (resolveLegacyJsonPath body absentPath).isSome then
        (false, s!"JSON field {absentPath} must be absent")
      else (true, s!"JSON field {absentPath} is absent"))
  | none, none, none, none => .ok (false, "legacy match has no supported selector")

/-- The loop over the matches of an expectation. -/
def evaluateLegacyMatches (headers : Dict String String) (body : JsonObject) :
    List Json → Except PyError (Bool × String)
  | [] => .ok (true, "expectation passed")
  | .obj legacyMatch :: rest => do
    let result ← evaluateLegacyMatch library legacyMatch headers body
    if result.1 then evaluateLegacyMatches headers body rest else return (false, result.2)
  | _ :: _ => .ok (false, "legacy expectation match must be an object")

/-- The integer that an expected status compares as. -/
def expectedStatus? : Json → Option Int
  | .int n => some n
  | .bool b => some (if b then 1 else 0)
  | _ => none

/-- The text of an expected status. -/
def expectedStatusText : Json → Except PyError String
  | .int n => intText n
  | .bool b => .ok (if b then "True" else "False")
  | _ => .ok ""

/-- `_evaluate_legacy_expectation`. -/
def evaluateLegacyExpectation (statusCode : Int) (headers : Dict String String)
    (body : JsonObject) (expectation : JsonObject) : Except PyError (Bool × String) :=
  let expected := (expectation.lookup "status-code").getD .null
  if (expectedStatus? expected).any (· ≠ statusCode) then do
    let text ← expectedStatusText expected
    return (false, s!"expected HTTP {text}, got {statusCode}")
  else
    match (expectation.lookup "matches").getD (.arr []) with
    | .arr matchList => evaluateLegacyMatches library headers body matchList
    | _ => .ok (false, "legacy expectation matches must be an array")

/-- The loop over `all_of`: the message of the first expectation that fails. -/
def firstFailure (evaluate : JsonObject → Except PyError (Bool × String)) :
    List JsonObject → Except PyError (Option String)
  | [] => .ok none
  | expectation :: rest => do
    let result ← evaluate expectation
    if result.1 then firstFailure evaluate rest else return some result.2

/-- `any` over expectations. -/
def anyPasses (evaluate : JsonObject → Except PyError (Bool × String)) :
    List JsonObject → Except PyError Bool
  | [] => .ok false
  | expectation :: rest => do
    let result ← evaluate expectation
    if result.1 then return true else anyPasses evaluate rest

/-- The message of a final expectation that fails although all conditions pass. -/
def lastFailure (evaluate : JsonObject → Except PyError (Bool × String))
    (lastIfAll : List JsonObject) : Except PyError (Option String) :=
  match lastIfAll.getLast? with
  | none => .ok none
  | some last =>
    if lastIfAll.length > 1 then do
      let failed ← firstFailure evaluate lastIfAll.dropLast
      if failed.isSome then return none else firstFailure evaluate [last]
    else .ok none

/-- The schema part of `_evaluate_legacy_fcs_assertion`: the message of a failure. -/
def evaluateLegacySchema (assertion : LegacyFcsAssertion) (statusCode : Int)
    (body : JsonObject) : Except PyError (Option String) :=
  match assertion.schemaDocument with
  | none => .ok none
  | some document =>
    match if 0 ≤ statusCode then assertion.schemaRefs.get? statusCode.toNat else none with
    | none =>
      .ok (if statusCode ≠ 204 then some s!"no response schema is defined for HTTP {statusCode}"
        else none)
    | some schemaRef => do
      let problem ← validateJsonInstanceAgainstResponseSchema library.schemas library.repr
        "bundled_openapi" document (some schemaRef) none (.obj body)
      return problem.map fun message => s!"response schema validation failed: {message}"

/-- `_evaluate_legacy_fcs_assertion` up to its schema: the message of a failure. -/
def evaluateLegacyGroups (assertion : LegacyFcsAssertion) (statusCode : Int)
    (headers : List (String × String)) (body : JsonObject) :
    Except PyError (Option String) := do
  let normalizedHeaders := headers.foldl (fun lowered header =>
    lowered.set (library.lower header.1) header.2) Dict.empty
  let evaluate := evaluateLegacyExpectation library statusCode normalizedHeaders body
  let failed ← firstFailure evaluate assertion.allOf
  if failed.isSome then return failed
  else
    let matched ← if assertion.oneOf = [] then .ok true else anyPasses evaluate assertion.oneOf
    if matched = false then return some "no one-of expectation matched"
    else lastFailure evaluate assertion.lastIfAll

/-- `_evaluate_legacy_fcs_assertion`. -/
def evaluateLegacyFcsAssertion (assertion : LegacyFcsAssertion) (statusCode : Int)
    (headers : List (String × String)) (body : JsonObject) : Except PyError AssertionResult := do
  let rowKey := assertion.rowKey
  let failed ← evaluateLegacyGroups library assertion statusCode headers body
  match failed with
  | some message => return ⟨false, s!"{rowKey}: {message}"⟩
  | none =>
    let failed ← evaluateLegacySchema library assertion statusCode body
    return match failed with
      | some message => ⟨false, s!"{rowKey}: {message}"⟩
      | none => ⟨true, s!"{rowKey}: legacy FCS expectations passed"⟩

/-- `evaluate_assertion`. -/
def evaluateAssertion (assertion : ManifestAssertion) (statusCode : Int)
    (headers : List (String × String)) (body : JsonObject) : Except PyError AssertionResult :=
  match assertion with
  | .httpStatus assertion => .ok (evaluateHttpStatus assertion statusCode)
  | .responseSchema assertion => evaluateResponseSchema library assertion body
  | .header assertion => .ok (evaluateHeader library assertion headers)
  | .legacyFcs assertion => evaluateLegacyFcsAssertion library assertion statusCode headers body
  | .jsonField assertion => evaluateJsonField library assertion body

end Evaluation

end Conformance
