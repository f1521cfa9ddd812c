import Conformance.Native.ManifestAssertions

/-!
# Response schemas

`conformance/schema_validation.py`: a schema of a bundled OpenAPI document, or an inline
one, is freed of its references and of the keywords that JSON Schema does not have, and
a response is checked against it. The bundled documents and `Draft4Validator` are the
fields of `SchemaLibrary`. Every dictionary that the source changes in place is a fresh
copy, so the functions here return new values.
-/

namespace Conformance

/-- A `SchemaValidationConfigurationError`. -/
def schemaError {α : Type} (message : String) : Except PyError α :=
  .error (.schemaValidationConfigurationError message)

/-! ## JSON pointers -/

/-- `segment.replace("~" + digit, replacement)`. -/
def replaceEscape (digit replacement : Char) : List Char → List Char
  | [] => []
  | [c] => [c]
  | c :: d :: rest =>
    if c = '~' ∧ d = digit then replacement :: replaceEscape digit replacement rest
    else c :: replaceEscape digit replacement (d :: rest)

/-- A raw segment of a pointer, unescaped. -/
def unescapeSegment (rawSegment : List Char) : String :=
  String.ofList (replaceEscape '0' '~' (replaceEscape '1' '/' rawSegment))

section Pointers

variable (repr : Json → String)

/-- One round of `_resolve_json_pointer`. -/
def resolvePointerSegment (pointer : String) (current : Json) (rawSegment : List Char) :
    Except PyError Json :=
  let name := repr (.str pointer)
  let segment := unescapeSegment rawSegment
  match current with
  | .obj fields =>
    match fields.lookup segment with
    | some value => .ok value
    | none => schemaError s!"Schema reference {name} was not found"
  | .arr items => do
    let segmentName := repr (.str segment)
    Except.raiseIf (isDigit segment = false) (.schemaValidationConfigurationError
      s!"Schema reference {name} segment {segmentName} is not a list index")
    let index ← intOfDigits repr segment
    match items[index]? with
    | some item => return item
    | none => schemaError s!"Schema reference {name} was not found"
  | _ => schemaError s!"Schema reference {name} could not be resolved"

/-- `_resolve_json_pointer`. -/
def resolveJsonPointer (document : Json) (pointer : String) : Except PyError Json :=
  match pointer.toList with
  | '#' :: '/' :: path => (path.splitOn '/').foldlM (resolvePointerSegment repr pointer) document
  | _ =>
    let name := repr (.str pointer)
    schemaError s!"Schema reference {name} must be a local '#/' pointer"

end Pointers

/-! ## Keywords -/

/-- What `schema.pop(key, None)` leaves. -/
def popField (schema : JsonObject) (key : String) : JsonObject :=
  schema.filter fun field => field.1 ≠ key

/-- `isinstance(value, str)`. -/
def isString : Json → Bool
  | .str _ => true
  | _ => false

/-- `value == text`. -/
def isTextValue (text : String) : Json → Bool
  | .str value => value == text
  | _ => false

/-- The first half of `_normalize_openapi_schema_keywords`. -/
def normalizeNamespacedEnum (schema : JsonObject) : JsonObject :=
  let rest := popField schema "x-namespaced-enum"
  match schema.lookup "x-namespaced-enum" with
  | some (.arr items) =>
    if (rest.lookup "enum").isNone ∧ items.all isString then rest ++ [("enum", .arr items)]
    else rest
  | _ => rest

/-- The second half of `_normalize_openapi_schema_keywords`. -/
def normalizeNullable (schema : JsonObject) : JsonObject :=
  let rest := popField schema "nullable"
  match schema.lookup "nullable" with
  | some (.bool true) =>
    match rest.lookup "type" with
    | some (.str schemaType) => setField rest "type" (.arr [.str schemaType, .str "null"])
    | some (.arr schemaTypes) =>
      if schemaTypes.any (isTextValue "null") = false ∧ schemaTypes.all isString then
        setField rest "type" (.arr (schemaTypes ++ [.str "null"]))
      else rest
    | _ => rest
  | _ => rest

/-- `_normalize_openapi_schema_keywords`. -/
def normalizeOpenapiSchemaKeywords (schema : JsonObject) : JsonObject :=
  normalizeNullable (normalizeNamespacedEnum schema)

/-! ## Preparing a schema -/

/-- `merged_schema[key] = member`, for every sibling of a reference. -/
def mergeSiblings (schema siblings : JsonObject) : JsonObject :=
  siblings.foldl (fun merged sibling => setField merged sibling.1 sibling.2) schema

/-- A reference with what was resolved for it and its prepared siblings. -/
def mergeReference (resolved : Json) (siblings : Except PyError JsonObject) (hasSiblings : Bool) :
    Except PyError Json :=
  if hasSiblings = false then .ok resolved
  else
    match resolved with
    | .obj fields => do
      let siblings ← siblings
      return .obj (normalizeOpenapiSchemaKeywords (mergeSiblings fields siblings))
    | _ => schemaError "Schema reference with sibling keywords must resolve to an object"

mutual

/-- `_prepare_openapi_schema`, where `resolve` prepares what a reference points to. -/
def prepareValue (resolve : String → Except PyError Json) : Json → Except PyError Json
  | .obj fields =>
    match fields.lookup "$ref" with
    | some (.str rawRef) => do
      Except.raiseIf (rawRef = "") (.schemaValidationConfigurationError
        "Schema reference must be a non-empty string")
      let resolved ← resolve rawRef
      mergeReference resolved (prepareFields resolve fields)
        (fields.any fun field => field.1 ≠ "$ref")
    | some _ => schemaError "Schema reference must be a non-empty string"
    | none => do
      let prepared ← prepareFields resolve fields
      return .obj (normalizeOpenapiSchemaKeywords prepared)
  | .arr items => do
    let prepared ← prepareItems resolve items
    return .arr prepared
  | value => .ok value

/-- The members of an object besides a reference. -/
def prepareFields (resolve : String → Except PyError Json) :
    List (String × Json) → Except PyError JsonObject
  | [] => .ok []
  | (key, member) :: rest =>
    if key = "$ref" then prepareFields resolve rest
    else do
      let prepared ← prepareValue resolve member
      let others ← prepareFields resolve rest
      return (key, prepared) :: others

/-- The items of an array. -/
def prepareItems (resolve : String → Except PyError Json) :
    List Json → Except PyError (List Json)
  | [] => .ok []
  | item :: rest => do
    let prepared ← prepareValue resolve item
    let others ← prepareItems resolve rest
    return prepared :: others

end

mutual

/-- The reference strings in a value. -/
def references : Json → List String
  | .obj fields => fieldReferences fields
  | .arr items => itemReferences items
  | _ => []

/-- The reference strings in the members of an object. -/
def fieldReferences : List (String × Json) → List String
  | [] => []
  | (key, member) :: rest =>
    match key, member with
    | "$ref", .str rawRef => rawRef :: fieldReferences rest
    | _, member => references member ++ fieldReferences rest

/-- The reference strings in the items of an array. -/
def itemReferences : List Json → List String
  | [] => []
  | item :: rest => references item ++ itemReferences rest

end

section Preparing

variable (repr : Json → String)

/-- `_prepare_openapi_schema` under the references that are being resolved. The budget
    bounds how many there are. -/
def prepareUnder (document : Json) : Nat → List String → Json → Except PyError Json
  | 0, _, _ => .error .recursionError
  | budget + 1, seenRefs, value =>
    prepareValue (fun rawRef => do
      let joinedRefs := " -> ".intercalate (seenRefs ++ [rawRef])
      Except.raiseIf (rawRef ∈ seenRefs) (.schemaValidationConfigurationError
        s!"Circular schema reference is not supported: {joinedRefs}")
      let target ← resolveJsonPointer repr document rawRef
      prepareUnder document budget (seenRefs ++ [rawRef]) target) value

/-- `_prepare_openapi_schema`. A reference is resolved once at most at a time, so the
    budget is never spent. -/
def prepareOpenapiSchema (document value : Json) : Except PyError Json :=
  prepareUnder repr document ((references document ++ references value).dedup.length + 1) [] value

end Preparing

/-! ## Validating an instance -/

/-- A segment of an error path. -/
inductive PathPart where
  | key (name : String)
  | index (n : Nat)
  deriving DecidableEq, Repr

/-- A `ValidationError`, with its schema path as texts. -/
structure ValidationError where
  absolutePath : List PathPart
  absoluteSchemaPath : List String
  validator : String
  message : String
  deriving DecidableEq, Repr

/-- What is used of the bundled documents and of `Draft4Validator`. -/
structure SchemaLibrary where
  /-- The JSON of a bundled document, where its file is there. -/
  document : String → Option Json
  /-- `Draft4Validator(schema).iter_errors(instance)`. -/
  iterErrors : JsonObject → Json → Except PyError (List ValidationError)

/-- `_BUNDLED_OPENAPI_DOCUMENT_PATHS`. -/
def bundledOpenapiDocuments : List String :=
  ["ob-read-write-v3.1.11-account-info-openapi",
    "ob-read-write-v3.1.11-payment-initiation-openapi",
    "ob-read-write-v3.1.11-confirmation-funds-openapi",
    "ob-read-write-v3.1.11-vrp-openapi",
    "ob-read-write-v4.0-account-info-openapi",
    "ob-read-write-v4.0-payment-initiation-openapi",
    "ob-read-write-v4.0-confirmation-funds-openapi",
    "ob-read-write-v4.0-vrp-openapi",
    "ob-read-write-v4.0.1-account-info-openapi",
    "ob-read-write-v4.0.1-payment-initiation-openapi",
    "ob-read-write-v4.0.1-confirmation-funds-openapi",
    "ob-read-write-v4.0.1-vrp-openapi"]

/-- `_format_error_path`. -/
def formatErrorPath : List PathPart → String
  | [] => "$"
  | part :: parts =>
    let first := match part with
      | .key name => name
      | .index n => s!"[{n}]"
    parts.foldl (fun text part => match part with
      | .key name => s!"{text}.{name}"
      | .index n => s!"{text}[{n}]") first

/-- `_missing_required_property_name`. -/
def missingRequiredPropertyName (message : String) : Option String :=
  match message.toList with
  | '\'' :: rest =>
    let name := rest.takeWhile (· ≠ '\'')
    if name ≠ [] ∧ rest.drop name.length = "' is a required property".toList then
      some (String.ofList name)
    else none
  | _ => none

/-- `_format_validation_error`. -/
def formatValidationError (error : ValidationError) : String :=
  let path := formatErrorPath error.absolutePath
  let plain := if path = "$" then error.message else s!"at {path}: {error.message}"
  match error.validator, missingRequiredPropertyName error.message with
  | "required", some property =>
    let requiredPath := if path = "$" then property else s!"{path}.{property}"
    s!"at {requiredPath}: {error.message}"
  | _, _ => plain

/-- `_validation_error_sort_key`, as one list. -/
def validationErrorSortKey (error : ValidationError) : String × List String × String :=
  (formatErrorPath error.absolutePath, error.absoluteSchemaPath, error.message)

/-- Whether an error comes before another. -/
def sortsBefore (error other : ValidationError) : Bool :=
  let key := validationErrorSortKey error
  let otherKey := validationErrorSortKey other
  key.1 < otherKey.1 || (key.1 == otherKey.1 && (key.2.1 < otherKey.2.1 ||
    (key.2.1 == otherKey.2.1 && key.2.2 < otherKey.2.2)))

/-- `sorted(errors, key=_validation_error_sort_key)[0]`. -/
def firstError : List ValidationError → Option ValidationError
  | [] => none
  | error :: rest => some (rest.foldl (fun least next =>
      if sortsBefore next least then next else least) error)

section Validating

variable (library : SchemaLibrary) (repr : Json → String)

/-- `_load_bundled_document`. -/
def loadBundledDocument (document : String) : Except PyError JsonObject :=
  let name := repr (.str document)
  if document ∉ bundledOpenapiDocuments then
    schemaError s!"Schema document {name} is not available"
  else
    match library.document document with
    | none => schemaError s!"Bundled schema document {name} is missing from disk"
    | some (.obj fields) => .ok fields
    | some _ => schemaError s!"Bundled schema document {name} must be a JSON object"

/-- A prepared schema that is an object. -/
def requirePreparedObject : Json → Except PyError JsonObject
  | .obj fields => .ok fields
  | _ => schemaError "Resolved response schema must be a JSON object"

/-- `_prepared_schema_ref`. -/
def preparedSchemaRef (document schemaRef : String) : Except PyError JsonObject := do
  let documentRoot ← loadBundledDocument library repr document
  let resolvedSchema ← resolveJsonPointer repr (.obj documentRoot) schemaRef
  let prepared ← prepareOpenapiSchema repr (.obj documentRoot) resolvedSchema
  requirePreparedObject prepared

/-- `_prepared_schema`. -/
def preparedSchema (source document : String) (schemaRef : Option String)
    (inlineSchema : Option JsonObject) : Except PyError JsonObject :=
  let name := repr (.str source)
  if source ≠ "bundled_openapi" then schemaError s!"Schema source {name} is not supported"
  else
    match schemaRef, inlineSchema with
    | some schemaRef, _ => preparedSchemaRef library repr document schemaRef
    | none, none => schemaError "Response schema assertion is missing schema configuration"
    | none, some inlineSchema => do
      let documentRoot ← loadBundledDocument library repr document
      let prepared ← prepareOpenapiSchema repr (.obj documentRoot) (.obj inlineSchema)
      requirePreparedObject prepared

/-- `validate_json_instance_against_response_schema`. -/
def validateJsonInstanceAgainstResponseSchema (source document : String)
    (schemaRef : Option String) (inlineSchema : Option JsonObject) (value : Json) :
    Except PyError (Option String) :=
  match preparedSchema library repr source document schemaRef inlineSchema with
  | .error (.schemaValidationConfigurationError message) => .ok (some message)
  | .error error => .error error
  | .ok schema => do
    let errors ← library.iterErrors schema value
    return (firstError errors).map formatValidationError

end Validating

end Conformance
