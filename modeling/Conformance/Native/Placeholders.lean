import Conformance.Native.Manifest

/-!
# Placeholders

The `$\x7b...\x7d` tokens of manifest strings: how `conformance/manifest.py` checks
them when a manifest is parsed, and how `conformance/context.py` resolves them
against the execution context of a run.
-/

namespace Conformance

/-! ## Tokens -/

/-- The tokens that `_PLACEHOLDER_FIND_PATTERN` finds from a position on, without their
    braces. Inside a token, `inside` holds its characters so far in reverse. An opening
    without a closing brace is no token. -/
def scanTokens (inside : Option (List Char)) : List Char → List (List Char)
  | [] => []
  | c :: rest =>
    match inside with
    | some token =>
      if c = '}' then token.reverse :: scanTokens none rest
      else scanTokens (some (c :: token)) rest
    | none =>
      if c = '$' ∧ rest.head? = some '{' then
        match rest with
        | [] => []
        | _ :: rest => scanTokens (some []) rest
      else scanTokens none rest

/-- The tokens of a string. -/
def placeholderTokens (value : String) : List (List Char) := scanTokens none value.toList

/-- `value.count("$\x7b")`. -/
def countOpenings : List Char → Nat
  | [] => 0
  | c :: rest => (if c = '$' ∧ rest.head? = some '{' then 1 else 0) + countOpenings rest

/-- `dot_path.split(".")`. -/
def tokenSegments (token : List Char) : List (List Char) := token.splitOn '.'

/-- A text as the characters of a segment. -/
def segment (text : String) : List Char := text.toList

/-- A segment of `[A-Za-z0-9_-]+`. -/
def isBodySegment (cs : List Char) : Bool :=
  !cs.isEmpty && cs.all fun c => isAsciiAlphanumeric c || c == '_' || c == '-'

/-! ## Checks at parse time -/

/-- `_CONFIG_PLACEHOLDER_KEYS`. -/
def configPlaceholderKeys : List String :=
  ["discoveryUrl", "oauth.clientId", "oauth.redirectUri", "oauth.authorizationEndpoint",
    "oauth.issuer", "oauth.tokenEndpoint", "oauth.resourceBaseUrl", "oauth.responseType",
    "oauth.requestObjectSigningAlg"]

/-- `_CONFIG_PLACEHOLDER_PATTERN.fullmatch`. -/
def isConfigPlaceholder (token : List Char) : Bool :=
  configPlaceholderKeys.any fun key => token = ("config." ++ key).toList

/-- `_TOKEN_PLACEHOLDER_PATTERN.fullmatch`, with the id of the token. No class of the
    pattern has a dot, so the token is matched segment by segment. -/
def tokenPlaceholder? (token : List Char) : Option (List Char) :=
  match tokenSegments token with
  | [head, tokenId, field] =>
    if head = segment "tokens" ∧ matchesStepIdCharClass tokenId = true ∧
        field = segment "access_token" then some tokenId
    else none
  | _ => none

/-- What follows the step id in `_STEP_PLACEHOLDER_PATTERN`. -/
def isStepPath (path : List (List Char)) : Bool :=
  path = [segment "request", segment "method"] ∨ path = [segment "request", segment "url"] ∨
    path = [segment "response", segment "status_code"] ∨
    (path.take 2 = [segment "response", segment "body"] ∧ path.drop 2 ≠ [] ∧
      (path.drop 2).all isBodySegment = true)

/-- `_STEP_PLACEHOLDER_PATTERN.fullmatch`, with the referenced step id. -/
def stepPlaceholder? (token : List Char) : Option (List Char) :=
  match tokenSegments token with
  | head :: stepId :: path =>
    if head = segment "steps" ∧ matchesStepIdCharClass stepId = true ∧ isStepPath path = true then
      some stepId
    else none
  | _ => none

/-- A token with its braces. -/
def bracedToken (token : List Char) : String := "$\x7b" ++ String.ofList token ++ "\x7d"

/-- The check of `_validate_placeholder_syntax` on one token. -/
def validateToken (location : String) (seenIds : List String) (token : List Char) :
    Except PyError Unit :=
  if isConfigPlaceholder token ∨ (tokenPlaceholder? token).isSome = true then .ok ()
  else
    let text := bracedToken token
    match stepPlaceholder? token with
    | none =>
      if (segment "config.").isPrefixOf token then
        let allowed := ", ".intercalate
          (configPlaceholderKeys.map fun key => "$\x7bconfig." ++ key ++ "\x7d")
        .error (.manifestError
          s!"{location} contains unsupported config placeholder: {text} (allowed: {allowed})")
      else if (segment "tokens.").isPrefixOf token then
        .error (.manifestError (s!"{location} contains unsupported token placeholder: {text} " ++
          "(allowed: $\x7btokens.<tokenId>.access_token\x7d)"))
      else .error (.manifestError s!"{location} contains malformed placeholder: {text}")
    | some stepId =>
      let referencedId := String.ofList stepId
      Except.raiseIf (referencedId ∉ seenIds)
        (.manifestError s!"{location} references undefined step '{referencedId}'")

/-- `_validate_placeholder_syntax` of `conformance/manifest.py`. -/
def validatePlaceholderSyntax (value location : String) (seenIds : List String) :
    Except PyError Unit := do
  let tokens := placeholderTokens value
  Except.raiseIf (countOpenings value.toList > tokens.length) (.manifestError
    s!"{location} contains an unterminated placeholder (missing closing '\x7d')")
  tokens.forM (validateToken location seenIds)

mutual

/-- `_validate_placeholders_in_structure`. -/
def validatePlaceholdersInStructure (location : String) (seenIds : List String) :
    Json → Except PyError Unit
  | .str value => validatePlaceholderSyntax value location seenIds
  | .obj fields => validatePlaceholdersInFields location seenIds fields
  | .arr items => validatePlaceholdersInItems location seenIds 0 items
  | _ => .ok ()

/-- The members of an object. -/
def validatePlaceholdersInFields (location : String) (seenIds : List String) :
    List (String × Json) → Except PyError Unit
  | [] => .ok ()
  | (key, child) :: rest => do
    validatePlaceholdersInStructure s!"{location}.{key}" seenIds child
    validatePlaceholdersInFields location seenIds rest

/-- The items of an array, from an index on. -/
def validatePlaceholdersInItems (location : String) (seenIds : List String) (index : Nat) :
    List Json → Except PyError Unit
  | [] => .ok ()
  | child :: rest => do
    validatePlaceholdersInStructure s!"{location}[{index}]" seenIds child
    validatePlaceholdersInItems location seenIds (index + 1) rest

end

/-- `_validate_constant_manifest_string`. -/
def validateConstantManifestString (value location : String) (seenIds : List String) :
    Except PyError Unit := do
  validatePlaceholderSyntax value location seenIds
  Except.raiseIf (containsPlaceholder value.toList)
    (.manifestError s!"{location} must not contain placeholders")

/-! ## Execution context -/

/-- Captured HTTP request (`RequestRecord`). -/
structure RequestRecord where
  method : String
  url : String

/-- Captured HTTP response (`ResponseRecord`). -/
structure ResponseRecord where
  statusCode : Int
  headers : List (String × String)
  body : JsonObject

/-- Captured request and response of a step (`StepRecord`). -/
structure StepRecord where
  request : RequestRecord
  response : Option ResponseRecord := none

/-- The config values that placeholders may name (`RuntimeConfig`). -/
structure RuntimeConfig where
  discoveryUrl : Option String := none
  oauthClientId : Option String := none
  oauthRedirectUri : Option String := none
  oauthAuthorizationEndpoint : Option String := none
  oauthIssuer : Option String := none
  oauthTokenEndpoint : Option String := none
  oauthResourceBaseUrl : Option String := none
  oauthResponseType : Option String := none
  oauthRequestObjectSigningAlg : Option String := none

/-- `ExecutionContext`. A token record holds the access token alone. -/
structure ExecutionContext where
  steps : Dict String StepRecord := .empty
  tokens : Dict String String := .empty
  config : Option RuntimeConfig := none

/-- `record_step`. -/
def recordStep (context : ExecutionContext) (stepId : String) (request : RequestRecord)
    (response : Option ResponseRecord) : ExecutionContext :=
  { context with steps := context.steps.set stepId ⟨request, response⟩ }

/-- `record_token`. -/
def recordToken (context : ExecutionContext) (tokenId accessToken : String) : ExecutionContext :=
  { context with tokens := context.tokens.set tokenId accessToken }

/-! ## Resolution -/

/-- Why a placeholder has no value: a `MissingPredecessorResponseError`, the
    `PlaceholderResolutionError` of a step that the context does not have, or any other
    `PlaceholderResolutionError`. -/
inductive PlaceholderError where
  | missingPredecessor (message : String)
  | unknownStep (stepId : String)
  | unresolved (message : String)
  deriving DecidableEq, Repr

/-- The text of the exception. -/
def PlaceholderError.message : PlaceholderError → String
  | .missingPredecessor message => message
  | .unknownStep stepId => s!"Step '{stepId}' not found in execution context"
  | .unresolved message => message

/-- The value of an optional config field. -/
def configValue (value : Option String) (unavailable : String) : Except PlaceholderError String :=
  match value with
  | some value => .ok value
  | none => .error (.unresolved unavailable)

/-- Whether a config path is on the allow-list. -/
def isAllowedConfigPath : List String → Bool
  | [_, "discoveryUrl"] => true
  | [_, "oauth", subField] =>
    subField ∈ ["clientId", "redirectUri", "authorizationEndpoint", "issuer", "tokenEndpoint",
      "resourceBaseUrl", "responseType", "requestObjectSigningAlg"]
  | _ => false

/-- `_resolve_config_path`. -/
def resolveConfigPath (segments : List String) (context : ExecutionContext) (dotPath : String) :
    Except PlaceholderError String :=
  let token := bracedToken dotPath.toList
  let allowed := ", ".intercalate
    (configPlaceholderKeys.map fun key => "$\x7bconfig." ++ key ++ "\x7d")
  if isAllowedConfigPath segments = false then
    .error (.unresolved s!"Unsupported config placeholder: {token} (allowed: {allowed})")
  else
    match context.config with
    | none => .error (.unresolved s!"Runtime config is not available for placeholder: {token}")
    | some config =>
      let noOauth := s!"OAuth config is not available for placeholder: {token}"
      let unavailable := fun key => s!"oauth.{key} is not available for placeholder: {token}"
      -- without a client id and a redirect URI the whole section is missing
      let sectionOr := fun key =>
        if config.oauthClientId.isSome ∨ config.oauthRedirectUri.isSome then unavailable key
        else noOauth
      match segments with
      | [_, "discoveryUrl"] => configValue config.discoveryUrl
          s!"config.discoveryUrl is not available for placeholder: {token}"
      | [_, _, "clientId"] => configValue config.oauthClientId noOauth
      | [_, _, "resourceBaseUrl"] =>
        configValue config.oauthResourceBaseUrl (sectionOr "resourceBaseUrl")
      | [_, _, "authorizationEndpoint"] =>
        configValue config.oauthAuthorizationEndpoint (sectionOr "authorizationEndpoint")
      | [_, _, "issuer"] => configValue config.oauthIssuer (unavailable "issuer")
      | [_, _, "tokenEndpoint"] => configValue config.oauthTokenEndpoint (unavailable "tokenEndpoint")
      | [_, _, "responseType"] => configValue config.oauthResponseType (unavailable "responseType")
      | [_, _, "requestObjectSigningAlg"] =>
        configValue config.oauthRequestObjectSigningAlg (unavailable "requestObjectSigningAlg")
      | _ => configValue config.oauthRedirectUri noOauth

/-- `_resolve_token_path`. -/
def resolveTokenPath (segments : List String) (context : ExecutionContext) (dotPath : String) :
    Except PlaceholderError String :=
  let token := bracedToken dotPath.toList
  match segments with
  | [_, tokenId, fieldName] =>
    match context.tokens.get? tokenId with
    | none => .error (.missingPredecessor s!"Token '{tokenId}' not found in execution context")
    | some accessToken =>
      if fieldName ≠ "access_token" then
        .error (.unresolved s!"Unsupported token field '{fieldName}': {token}")
      else .ok accessToken
  | _ => .error (.unresolved s!"Unsupported token placeholder: {token}")

/-- `_resolve_request_path`. -/
def resolveRequestPath (request : RequestRecord) (fieldName : String) (remaining : List String)
    (dotPath : String) : Except PlaceholderError String :=
  if fieldName = "method" ∧ remaining = [] then .ok request.method
  else if fieldName = "url" ∧ remaining = [] then .ok request.url
  else
    let token := bracedToken dotPath.toList
    .error (.unresolved s!"Cannot resolve request path: {token}")

/-- `_resolve_list_segment`. A segment with too many digits for `int` is reported as one
    that is no number. -/
def resolveListSegment (items : List Json) (part dotPath : String) :
    Except PlaceholderError Json :=
  let token := bracedToken dotPath.toList
  match decimalValue? part with
  | some index =>
    match items[index]? with
    | some item => .ok item
    | none => .error (.unresolved s!"Array index {index} out of bounds: {token}")
  | none =>
    .error (.unresolved s!"Cannot traverse array with non-numeric segment '{part}': {token}")

/-- One round of `_resolve_body_path`. -/
def resolveBodySegment (dotPath : String) (current : Json) (part : String) :
    Except PlaceholderError Json :=
  let token := bracedToken dotPath.toList
  match current with
  | .obj fields =>
    match fields.lookup part with
    | some value => .ok value
    | none => .error (.unresolved s!"Path segment '{part}' not found: {token}")
  | .arr items => resolveListSegment items part dotPath
  | _ => .error (.unresolved s!"Cannot traverse non-object at '{part}': {token}")

section Resolution

variable (pyStr : Json → String)

/-- `_resolve_body_path`; `pyStr` is `str` of a primitive value that is not `None`. -/
def resolveBodyPath (body : JsonObject) (segments : List String) (dotPath : String) :
    Except PlaceholderError String := do
  let token := bracedToken dotPath.toList
  match ← segments.foldlM (resolveBodySegment dotPath) (.obj body) with
  | .obj _ => .error (.unresolved s!"Resolved value is not a primitive (got object): {token}")
  | .arr _ => .error (.unresolved s!"Resolved value is not a primitive (got array): {token}")
  | .null => .ok "null"
  | value => .ok (pyStr value)

/-- `_resolve_response_path`. -/
def resolveResponsePath (response : ResponseRecord) (fieldName : String) (remaining : List String)
    (dotPath : String) : Except PlaceholderError String :=
  if fieldName = "status_code" ∧ remaining = [] then .ok (pyStr (.int response.statusCode))
  else if fieldName = "body" then resolveBodyPath pyStr response.body remaining dotPath
  else
    let token := bracedToken dotPath.toList
    .error (.unresolved s!"Cannot resolve response path: {token}")

/-- The step part of `_resolve_dot_path`. -/
def resolveStepPath (stepId direction fieldName : String) (remaining : List String)
    (context : ExecutionContext) (dotPath : String) : Except PlaceholderError String :=
  match context.steps.get? stepId with
  | none => .error (.unknownStep stepId)
  | some record =>
    if direction = "request" then resolveRequestPath record.request fieldName remaining dotPath
    else if direction = "response" then
      match record.response with
      | none => .error (.missingPredecessor
          s!"Step '{stepId}' has no response (request may have failed)")
      | some response => resolveResponsePath pyStr response fieldName remaining dotPath
    else
      let token := bracedToken dotPath.toList
      .error (.unresolved s!"Invalid placeholder path segment '{direction}': {token}")

/-- `_resolve_dot_path`. -/
def resolveDotPath (token : List Char) (context : ExecutionContext) :
    Except PlaceholderError String :=
  let dotPath := String.ofList token
  match (tokenSegments token).map String.ofList with
  | "config" :: rest => resolveConfigPath ("config" :: rest) context dotPath
  | "tokens" :: rest => resolveTokenPath ("tokens" :: rest) context dotPath
  | "steps" :: stepId :: direction :: fieldName :: remaining =>
    resolveStepPath pyStr stepId direction fieldName remaining context dotPath
  | _ =>
    let text := bracedToken token
    .error (.unresolved s!"Invalid placeholder path: {text}")

/-- `_MALFORMED_PLACEHOLDER_PATTERN.search`: some opening is followed by the end of a line
    or of the string before a closing brace. -/
def hasUnterminated : List Char → Bool
  | [] => false
  | c :: rest =>
    (c = '$' ∧ rest.head? = some '{' ∧ ('\n' ∈ rest.takeWhile (· ≠ '}') ∨ '}' ∉ rest)) ||
      hasUnterminated rest

/-- Whether `"$\x7b\x7d"` is in the characters. -/
def hasEmptyPlaceholder : List Char → Bool
  | [] => false
  | c :: rest => (c = '$' ∧ rest.take 2 = ['{', '}']) || hasEmptyPlaceholder rest

/-- `_truncate_around_malformed`: at most twenty characters from the last opening on. -/
def truncateAroundMalformed (template : List Char) : String :=
  match template.tails.reverse.find? fun suffix => suffix.take 2 = ['$', '{'] with
  | none => "..."
  | some suffix =>
    String.ofList (suffix.take 22) ++ (if suffix.length > 22 then "..." else "")

/-- `_validate_placeholder_syntax` of `conformance/context.py`. -/
def validateTemplate (template : List Char) : Except PlaceholderError Unit := do
  Except.raiseIf (hasEmptyPlaceholder template) (.unresolved
    "Empty placeholder '$\x7b\x7d' is not valid — provide a dot-path expression")
  let contextWindow := truncateAroundMalformed template
  Except.raiseIf (hasUnterminated template) (.unresolved
    s!"Unterminated placeholder in template (missing closing '\x7d'): {contextWindow}")

/-- `_PLACEHOLDER_PATTERN.sub` from a position on, with `inside` as in `scanTokens`. -/
def substituteTokens (context : ExecutionContext) (inside : Option (List Char)) :
    List Char → Except PlaceholderError (List Char)
  | [] => .ok (inside.elim [] fun token => '$' :: '{' :: token.reverse)
  | c :: rest =>
    match inside with
    | some token =>
      if c = '}' then do
        let value ← resolveDotPath pyStr token.reverse context
        let tail ← substituteTokens context none rest
        return value.toList ++ tail
      else substituteTokens context (some (c :: token)) rest
    | none =>
      if c = '$' ∧ rest.head? = some '{' then
        match rest with
        | [] => .ok [c]
        | _ :: rest => substituteTokens context (some []) rest
      else do
        let tail ← substituteTokens context none rest
        return c :: tail

/-- `resolve_placeholders`. -/
def resolvePlaceholders (template : String) (context : ExecutionContext) :
    Except PlaceholderError String :=
  if countOpenings template.toList = 0 then .ok template
  else do
    validateTemplate template.toList
    let resolved ← substituteTokens pyStr context none template.toList
    return String.ofList resolved

mutual

/-- `resolve_in_structure`. -/
def resolveInStructure (context : ExecutionContext) : Json → Except PlaceholderError Json
  | .str template => do
    let resolved ← resolvePlaceholders pyStr template context
    return .str resolved
  | .obj fields => do
    let resolved ← resolveInFields context fields
    return .obj resolved
  | .arr items => do
    let resolved ← resolveInItems context items
    return .arr resolved
  | value => .ok value

/-- The members of an object. -/
def resolveInFields (context : ExecutionContext) :
    List (String × Json) → Except PlaceholderError (List (String × Json))
  | [] => .ok []
  | (key, child) :: rest => do
    let resolved ← resolveInStructure context child
    let tail ← resolveInFields context rest
    return (key, resolved) :: tail

/-- The items of an array. -/
def resolveInItems (context : ExecutionContext) : List Json → Except PlaceholderError (List Json)
  | [] => .ok []
  | child :: rest => do
    let resolved ← resolveInStructure context child
    let tail ← resolveInItems context rest
    return resolved :: tail

end

end Resolution

end Conformance
