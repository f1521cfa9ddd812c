import Conformance.Native.CompiledManifest
import Conformance.Native.ManifestRequest
import Conformance.Native.PlanSnapshot

/-!
# The requests of catalogue steps

How `conformance/executor.py` turns a catalogue request step and the runtime inputs
of a plan into the request of a manifest step: `_catalogue_request_url`,
`_catalogue_request_headers` and `_catalogue_request_body`. The placeholders that
name captured responses, tokens or config values are left in the texts and resolved
when the step runs (`Native.Placeholders`).

A text is a list of characters of a type `β`. The code's own texts are plain
(`Marks.plain`); with `Marks.tracked` the same functions also say of every character
whether it is the catalogue's or a runtime input's.
-/

namespace Conformance.CatalogueRequest

/-- How a character of the catalogue and a character of a runtime input are written. -/
structure Marks (β : Type) where
  own : Char → β
  input : Char → β
  char : β → Char
  /-- The characters that stand for a character once it is encoded. -/
  encode : (Char → List Char) → β → List β

/-- Plain characters. -/
def Marks.plain : Marks Char := ⟨id, id, id, fun encoding c => encoding c⟩

/-- Where a character comes from. -/
inductive Origin where
  | own
  | input
  deriving DecidableEq, Repr

/-- Characters that keep their origin. -/
def Marks.tracked : Marks (Char × Origin) :=
  ⟨fun c => (c, .own), fun c => (c, .input), Prod.fst,
    fun encoding c => (encoding c.1).map fun d => (d, c.2)⟩

/-! ## Catalogue data -/

/-- Outbound request header (`CatalogueRequestHeader`). -/
structure CatalogueRequestHeader where
  name : String
  inputId : Option String := none
  generatedValue : Option String := none
  deriving DecidableEq, Repr

/-- The fields of a `CatalogueRequestStep` that its request is built from. -/
structure RequestTemplate where
  stepId : String
  method : HttpMethod
  path : String
  queryParameters : List (String × String) := []
  runtimeInputRefs : List String := []
  headers : List CatalogueRequestHeader := []
  bodyTemplate : Option Json := none
  requiredTokenId : Option String := none

/-- What the request builder reads besides the step: the runtime inputs and their
    requirements, the values drawn for this request from `uuid`, `secrets` and the
    clock, the files of the plan, and `str.lower`. -/
structure RequestInputs where
  runtimeInputs : Dict String Json
  requirements : Dict String RuntimeInputRequirement
  discoveryUrl : Option String
  generatedHeaderValues : String → String
  generatedRuntimeValues : Dict String String
  readRuntimeFileText : String → Except PyError String
  readRuntimeJsonFile : String → Except PyError Json
  lower : String → String

/-- `_required_runtime_string`. -/
def requiredRuntimeString (inputs : RequestInputs) (inputId : String) : Except PyError String :=
  match inputs.runtimeInputs.get? inputId with
  | some (.str value) =>
    if strip value = "" then
      .error (.valueError s!"Runtime input '{inputId}' must be a non-empty string")
    else .ok (strip value)
  | _ => .error (.valueError s!"Runtime input '{inputId}' must be a non-empty string")

/-! ## Substitution -/

/-- The group of `start([^}]+)\x7d` at the beginning of a text. -/
def matchAt (start text : List Char) : Option (List Char) :=
  let rest := text.drop start.length
  let group := rest.takeWhile (· ≠ '}')
  if start.isPrefixOf text ∧ group ≠ [] ∧ '}' ∈ rest then some group else none

section Building

variable {β : Type} (marks : Marks β)

def ownText (text : String) : List β := text.toList.map marks.own

def inputText (text : String) : List β := text.toList.map marks.input

/-- `pattern.sub(replace, text)` for a pattern `start([^}]+)\x7d`, from a position on of
    which `skip` characters belong to the last match. -/
def substitute (start : List Char) (replace : String → Except PyError (List β)) :
    (skip : Nat) → List Char → Except PyError (List β)
  | _, [] => .ok []
  | skip + 1, _ :: rest => substitute start replace skip rest
  | 0, c :: rest =>
    match matchAt start (c :: rest) with
    | none => do
      let tail ← substitute start replace 0 rest
      return marks.own c :: tail
    | some group => do
      let value ← replace (String.ofList group)
      let tail ← substitute start replace (start.length + group.length) rest
      return value ++ tail

/-- `_CATALOGUE_PATH_VARIABLE_PATTERN.sub(replace, path)`: as `substitute`, but an opening
    brace after a dollar sign is no variable. -/
def substituteVariables (replace : String → Except PyError (List β)) :
    (before : Option Char) → (skip : Nat) → List Char → Except PyError (List β)
  | _, _, [] => .ok []
  | _, skip + 1, c :: rest => substituteVariables replace (some c) skip rest
  | before, 0, c :: rest =>
    match if before = some '$' then none else matchAt ['{'] (c :: rest) with
    | none => do
      let tail ← substituteVariables replace (some c) 0 rest
      return marks.own c :: tail
    | some group => do
      let value ← replace (String.ofList group)
      let tail ← substituteVariables replace (some c) (1 + group.length) rest
      return value ++ tail

variable (inputs : RequestInputs)

/-- `_path_variable_input_candidates`. -/
def pathVariableInputCandidates (name : String) (runtimeInputRefs : List String) :
    List String :=
  let lowerCamel := inputs.lower (String.ofList (name.toList.take 1)) ++
    String.ofList (name.toList.drop 1)
  let suffixMatches := runtimeInputRefs.filter fun ref =>
    (inputs.lower lowerCamel).toList.isSuffixOf (inputs.lower ref).toList
  let semanticMatches := if lowerCamel = "accountId" then ["consentedAccountId"] else []
  [name, lowerCamel] ++ semanticMatches ++ suffixMatches

/-- `replace_variable` of `_resolve_catalogue_path_variables`. -/
def replaceVariable (runtimeInputRefs : List String) (name : String) :
    Except PyError (List β) :=
  match (pathVariableInputCandidates inputs name runtimeInputRefs).findSome? fun candidate =>
      match inputs.runtimeInputs.get? candidate with
      | some (.str value) => if value = "" then none else some value
      | _ => none with
  | some value => .ok (inputText marks value)
  | none => .error (.valueError s!"Runtime input for path variable \x7b{name}\x7d is missing")

/-- `_resolve_catalogue_path_variables`. -/
def resolveCataloguePathVariables (step : RequestTemplate) : Except PyError (List β) :=
  substituteVariables marks (replaceVariable marks inputs step.runtimeInputRefs) none 0
    step.path.toList

/-- `replace_generated` of `_resolve_catalogue_template_string`. -/
def replaceGenerated (valueId : String) : Except PyError (List Char) :=
  match inputs.generatedRuntimeValues.get? valueId with
  | some value => .ok value.toList
  | none => .error (.valueError
      s!"Generated runtime value '{valueId}' is not declared for this request step")

/-- `replace_runtime` of `_resolve_catalogue_template_string`. -/
def replaceRuntime (inputId : String) : Except PyError (List β) :=
  match inputs.runtimeInputs.get? inputId with
  | none | some .null => .error (.valueError
      s!"Runtime input '{inputId}' is required for this request template")
  | some (.str value) =>
    if strip value = "" then
      .error (.valueError s!"Runtime input '{inputId}' is required for this request template")
    else .ok (inputText marks (strip value))
  | some _ => .error (.valueError s!"Runtime input '{inputId}' must be a string")

/-- `_CATALOGUE_GENERATED_VALUE_PATTERN` up to its group. -/
def generatedStart : List Char := "$\x7bgenerated.".toList

/-- `_CATALOGUE_RUNTIME_VALUE_PATTERN` up to its group. -/
def runtimeStart : List Char := "$\x7bruntime.".toList

/-- `_resolve_catalogue_template_string`, of a text all of whose characters are read. -/
def resolveCatalogueTemplateString (value : List Char) : Except PyError (List β) := do
  let generatedResolved ← substitute .plain generatedStart (replaceGenerated inputs) 0 value
  substitute marks runtimeStart (replaceRuntime marks inputs) 0 generatedResolved

/-! ## URL -/

/-- A character that `urllib.parse.quote` never encodes. -/
def isUnreserved (c : Char) : Bool :=
  isAsciiAlphanumeric c || c == '_' || c == '.' || c == '-' || c == '~'

/-- One digit of a percent escape. -/
def hexDigit (n : Nat) : Char := if n < 10 then Char.ofNat (48 + n) else Char.ofNat (55 + n)

/-- `urllib.parse.quote_plus` of one character: its UTF-8 bytes as percent escapes. -/
def quotePlus (c : Char) : List Char :=
  if isUnreserved c then [c]
  else if c = ' ' then ['+']
  else (String.utf8EncodeChar c).flatMap fun byte =>
    ['%', hexDigit (byte.toNat / 16), hexDigit (byte.toNat % 16)]

/-- One `name=value` of `urlencode`. -/
def queryPair (parameter : String × List β) : List β :=
  parameter.1.toList.flatMap (marks.encode quotePlus ∘ marks.own) ++
    marks.own '=' :: parameter.2.flatMap (marks.encode quotePlus)

/-- `"?" + urlencode(...)`, or nothing without parameters. -/
def queryText (step : RequestTemplate) : Except PyError (List β) := do
  let parameters ← step.queryParameters.mapM fun parameter => do
    let value ← resolveCatalogueTemplateString marks inputs parameter.2.toList
    return (parameter.1, value)
  match parameters with
  | [] => return []
  | first :: rest =>
    return marks.own '?' :: queryPair marks first ++
      rest.flatMap fun parameter => marks.own '&' :: queryPair marks parameter

/-- `f"{base_url.rstrip('/')}/{resolved_path.lstrip('/')}"`. -/
def joinUrl (baseUrl : String) (resolvedPath : List β) : List β :=
  (baseUrl.toList.rdropWhile (· = '/')).map marks.input ++
    marks.own '/' :: resolvedPath.dropWhile fun c => marks.char c = '/'

/-- The steps that are sent to the token endpoint. -/
def isTokenExchange (step : RequestTemplate) : Prop :=
  step.stepId = aisAccountAccessTokenStepId ∨
    step.stepId ∈ aisPermissionProfileTokenIds.map fun entry => aisProfileTokenStepId entry.1

instance (step : RequestTemplate) : Decidable (isTokenExchange step) :=
  inferInstanceAs (Decidable (_ ∨ _))

/-- `_catalogue_request_url`, with the second pass over the path left open. -/
def requestUrlWith (resolveAgain : List β → Except PyError (List β)) (step : RequestTemplate) :
    Except PyError (List β) :=
  if step.path = "/.well-known/openid-configuration" then
    match inputs.discoveryUrl with
    | none => .error (.valueError "Discovery catalogue step requires runtime config discoveryUrl")
    | some discoveryUrl => .ok (ownText marks discoveryUrl)
  else if isTokenExchange step then .ok (ownText marks "$\x7bconfig.oauth.tokenEndpoint\x7d")
  else do
    let baseUrl ← requiredRuntimeString inputs "resourceBaseUrl"
    let resolvedPath ← resolveCataloguePathVariables marks inputs step
    let resolvedPath ← resolveAgain resolvedPath
    let query ← queryText marks inputs step
    return joinUrl marks baseUrl (resolvedPath ++ query)

/-- `_catalogue_request_url`: the path is read again once its variables are in place. -/
def catalogueRequestUrl (step : RequestTemplate) : Except PyError (List Char) :=
  requestUrlWith .plain inputs (resolveCatalogueTemplateString .plain inputs) step

/-! ## Headers -/

/-- `headers[name] = value`. -/
def setHeader (headers : List (String × List β)) (name : String) (value : List β) :
    List (String × List β) :=
  if name ∈ headers.map Prod.fst then
    headers.map fun header => if header.1 = name then (name, value) else header
  else headers ++ [(name, value)]

/-- `_catalogue_request_header_value`. -/
def catalogueRequestHeaderValue (inputId : String) : Except PyError (Option String) :=
  let omitted : Except PyError (Option String) :=
    if (inputs.requirements.get? inputId).any fun requirement => requirement.required then
      (requiredRuntimeString inputs inputId).map some
    else .ok none
  match inputs.runtimeInputs.get? inputId with
  | none | some .null => omitted
  | some (.str value) => if strip value = "" then omitted else .ok (some (strip value))
  | some _ => .error (.valueError s!"Runtime input '{inputId}' must be a string")

/-- `_optional_access_token`. -/
def optionalAccessToken (step : RequestTemplate) : Except PyError (Option String) :=
  match step.runtimeInputRefs.find? fun inputId =>
      inputId ∈ ["accessToken", "accessTokenRef", "invalidAccessToken"] with
  | none => .ok none
  | some inputId =>
    if (inputs.requirements.get? inputId).any fun requirement =>
        requirement.inputType = .fileReference then
      (inputs.readRuntimeFileText inputId).map some
    else (requiredRuntimeString inputs inputId).map some

/-- The value of one declared header. -/
def declaredHeaderValue (header : CatalogueRequestHeader) : Except PyError (Option (List β)) :=
  match header.generatedValue, header.inputId with
  | some _, _ =>
    .ok (some (ownText marks (inputs.generatedHeaderValues (inputs.lower header.name))))
  | none, none => .error (.valueError
      s!"Catalogue request header '{header.name}' has no value source")
  | none, some inputId => do
    let value ← catalogueRequestHeaderValue inputs inputId
    return value.map (inputText marks)

/-- The body of `for request_header in request_step.headers`. -/
def addDeclaredHeader (headers : List (String × List β)) (header : CatalogueRequestHeader) :
    Except PyError (List (String × List β)) := do
  match ← declaredHeaderValue marks inputs header with
  | none => return headers
  | some value => return setHeader headers header.name value

/-- The `Authorization` header, before the declared ones. -/
def authorizationHeaders (step : RequestTemplate) (accessToken : Option String) :
    List (String × List β) :=
  match step.requiredTokenId with
  | some tokenId =>
    [("Authorization", ownText marks ("Bearer $\x7btokens." ++ tokenId ++ ".access_token\x7d"))]
  | none =>
    let headers := accessToken.elim [] fun accessToken =>
      [("Authorization", ownText marks "Bearer " ++ inputText marks accessToken)]
    match inputs.generatedRuntimeValues.get? "invalidAccessToken" with
    | none => headers
    | some token => setHeader headers "Authorization" (ownText marks ("Bearer " ++ token))

/-- `_catalogue_request_headers`; no header at all is `None`. -/
def catalogueRequestHeaders (step : RequestTemplate) : Except PyError (List (String × List β)) := do
  let accessToken ← optionalAccessToken inputs step
  step.headers.foldlM (addDeclaredHeader marks inputs)
    (authorizationHeaders marks inputs step accessToken)

/-! ## Body -/

/-- A JSON value whose texts are lists of characters of type `β`. -/
inductive TextTree (β : Type) where
  | text (cs : List β)
  | arr (items : List (TextTree β))
  | obj (fields : List (String × TextTree β))
  | value (v : Json)

/-- The body of a request. -/
inductive BodyText (β : Type) where
  | json (tree : TextTree β)
  | form (fields : List (String × List β))

mutual

/-- `_resolve_catalogue_template_values`. -/
def resolveCatalogueTemplateValues : Json → Except PyError (TextTree β)
  | .str template => do
    let text ← resolveCatalogueTemplateString marks inputs template.toList
    return .text text
  | .arr items => do
    let resolved ← resolveTemplateItems items
    return .arr resolved
  | .obj fields => do
    let resolved ← resolveTemplateFields fields
    return .obj resolved
  | value => .ok (.value value)

/-- The items of a list. -/
def resolveTemplateItems : List Json → Except PyError (List (TextTree β))
  | [] => .ok []
  | item :: rest => do
    let resolved ← resolveCatalogueTemplateValues item
    let tail ← resolveTemplateItems rest
    return resolved :: tail

/-- The members of a dictionary. -/
def resolveTemplateFields : List (String × Json) → Except PyError (List (String × TextTree β))
  | [] => .ok []
  | (key, item) :: rest => do
    let resolved ← resolveCatalogueTemplateValues item
    let tail ← resolveTemplateFields rest
    return (key, resolved) :: tail

end

mutual

/-- A JSON value all of whose texts are `marks.own`. -/
def ownTree : Json → TextTree β
  | .str text => .text (ownText marks text)
  | .arr items => .arr (ownItems items)
  | .obj fields => .obj (ownFields fields)
  | value => .value value

def ownItems : List Json → List (TextTree β)
  | [] => []
  | item :: rest => ownTree item :: ownItems rest

def ownFields : List (String × Json) → List (String × TextTree β)
  | [] => []
  | (key, item) :: rest => (key, ownTree item) :: ownFields rest

end

/-- `_AIS_BASIC_ACCOUNT_ACCESS_CONSENT_BODY`. -/
def aisBasicAccountAccessConsentBody : Json :=
  .obj [("Data", .obj [("Permissions", .arr (["ReadAccountsBasic", "ReadBalances",
      "ReadBeneficiariesBasic", "ReadDirectDebits", "ReadOffers", "ReadParty", "ReadPartyPSU",
      "ReadProducts", "ReadScheduledPaymentsBasic", "ReadStandingOrdersBasic",
      "ReadStatementsBasic", "ReadTransactionsBasic", "ReadTransactionsCredits",
      "ReadTransactionsDebits"].map .str))]),
    ("Risk", .obj [])]

/-- The form of the AIS account access token exchange. -/
def aisTokenExchangeFields : List (String × String) :=
  [("grant_type", "authorization_code"),
   ("code", "$\x7bsteps." ++ aisProfileAuthorizationStepId "basic" ++ ".response.body.code\x7d"),
   ("redirect_uri", "$\x7bconfig.oauth.redirectUri\x7d"),
   ("client_id", "$\x7bconfig.oauth.clientId\x7d")]

/-- The first referenced file that holds a request body. -/
def requestFileInput (step : RequestTemplate) : Option String :=
  step.runtimeInputRefs.find? fun inputId =>
    (inputs.requirements.get? inputId).any (fun requirement =>
      requirement.inputType = .fileReference) &&
      PlanSnapshot.contains (inputs.lower inputId).toList "request"

/-- `_catalogue_request_body`. A body read from a file of the plan is a template of the
    participant's, not of the catalogue's, and its texts are not told apart. -/
def catalogueRequestBody (step : RequestTemplate) : Except PyError (Option (BodyText β)) :=
  if step.method ∉ [HttpMethod.post, .put, .patch, .delete] then .ok none
  else if step.stepId = aisConsentCreateStepId then
    .ok (some (.json (ownTree marks aisBasicAccountAccessConsentBody)))
  else if step.stepId = aisAccountAccessTokenStepId then
    .ok (some (.form (aisTokenExchangeFields.map fun field => (field.1, ownText marks field.2))))
  else
    match step.bodyTemplate with
    | some template => do
      let tree ← resolveCatalogueTemplateValues marks inputs template
      return some (.json tree)
    | none =>
      match requestFileInput inputs step with
      | none => .ok none
      | some inputId => do
        let value ← inputs.readRuntimeJsonFile inputId
        return some (.json (ownTree marks value))

/-! ## The request -/

/-- The texts of a request. -/
structure RequestText (β : Type) where
  url : List β
  headers : List (String × List β)
  body : Option (BodyText β)

/-- The request part of `_catalogue_request_step_to_manifest_step`, with the second pass
    over the path left open. -/
def requestTextWith (resolveAgain : List β → Except PyError (List β)) (step : RequestTemplate) :
    Except PyError (RequestText β) := do
  let url ← requestUrlWith marks inputs resolveAgain step
  let headers ← catalogueRequestHeaders marks inputs step
  let body ← catalogueRequestBody marks inputs step
  return ⟨url, headers, body⟩

/-- The request part of `_catalogue_request_step_to_manifest_step`. -/
def catalogueRequestText (step : RequestTemplate) : Except PyError (RequestText Char) :=
  requestTextWith .plain inputs (resolveCatalogueTemplateString .plain inputs) step

end Building

/-! ## As a manifest request -/

mutual

/-- The JSON value of plain texts. -/
def TextTree.toJson : TextTree Char → Json
  | .text cs => .str (String.ofList cs)
  | .arr items => .arr (TextTree.itemsToJson items)
  | .obj fields => .obj (TextTree.fieldsToJson fields)
  | .value v => v

def TextTree.itemsToJson : List (TextTree Char) → List Json
  | [] => []
  | item :: rest => item.toJson :: TextTree.itemsToJson rest

def TextTree.fieldsToJson : List (String × TextTree Char) → List (String × Json)
  | [] => []
  | (key, item) :: rest => (key, item.toJson) :: TextTree.fieldsToJson rest

end

/-- Named texts as strings. -/
def plainFields (fields : List (String × List Char)) : List (String × String) :=
  fields.map fun field => (field.1, String.ofList field.2)

/-- The body of the manifest request. -/
def BodyText.manifestBody : BodyText Char → ManifestBody
  | .json tree => .json tree.toJson
  | .form fields => .form (plainFields fields)

/-- `headers or None`. -/
def headersOrNone (headers : List (String × String)) : Option (List (String × String)) :=
  if headers = [] then none else some headers

end Conformance.CatalogueRequest
