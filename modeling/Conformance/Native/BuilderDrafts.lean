import Conformance.ForStd.Newest
import Conformance.Native.PlanDocumentJson

/-!
# Builder drafts

`conformance/api/builder_draft_store.py`: the drafts of the browser wizard, their form in a Django
session, and the store that reads the whole session on every access. A JSON value is its own deep
copy. The clock and `uuid4` are arguments, and the warnings about malformed records are left out.
-/

namespace Conformance

/-- `BuilderDraft`. -/
structure BuilderDraft where
  draftId : String
  scheme : Option String
  specification : Option String
  version : Option String
  securityProfile : SecurityProfile
  resourceGroupIds : List String
  endpointIds : List String
  endpointCapabilityIds : Dict String (List String)
  config : JsonObject
  securityEnvironment : JsonObject
  businessTestData : JsonObject
  dynamicClientRegistration : JsonObject
  metadata : JsonObject
  executionMode : PlanExecutionMode
  discoveryMetadata : JsonObject
  createdAt : String
  updatedAt : String

namespace BuilderDraft

/-! ## Decoding of session values -/

/-- `_optional_string`. -/
def optionalString (value : Json) : Option String :=
  match value with
  | .str text => if text = "" then none else some text
  | _ => none

/-- The loop of `_string_tuple`. -/
def stringItems : List Json → Option (List String)
  | [] => some []
  | .str item :: rest => (stringItems rest).map (item :: ·)
  | _ :: _ => none

/-- `_string_tuple`. -/
def stringTuple (value : Json) : List String :=
  match value with
  | .arr items => (stringItems items).getD []
  | _ => []

/-- One round of `_string_tuple_mapping`: `none` for a malformed list. -/
def addStringTuple (decoded : Dict String (List String)) (entry : String × Json) :
    Option (Dict String (List String)) :=
  let items := stringTuple entry.2
  if ¬(entry.2 matches .null) ∧ items = [] ∧ entry.2.pyEq (.arr []) = false then none
  else some (decoded.set entry.1 items)

/-- `_string_tuple_mapping`. -/
def stringTupleMapping (value : Json) : Dict String (List String) :=
  match value with
  | .obj fields => (fields.foldlM addStringTuple Dict.empty).getD Dict.empty
  | _ => Dict.empty

/-- `_json_object`. -/
def jsonObject (value : Json) : JsonObject :=
  match value with
  | .obj fields => fields
  | _ => []

/-- `_config_object`. -/
def configObject (value : Json) : JsonObject :=
  (jsonObject value).filter fun field => field.1 ≠ "environment"

/-- `PlanExecutionMode` as it is written. -/
def executionModeText : PlanExecutionMode → String
  | .certification => "certification"
  | .development => "development"

/-- `_execution_mode`. -/
def executionModeOf (value : Json) : PlanExecutionMode :=
  if value.pyEq (.str "development") then .development else .certification

/-- The security profiles that `from_session_object` accepts. -/
def profileOf (value : Json) : Option SecurityProfile :=
  match value with
  | .str text => [SecurityProfile.fapi1Advanced, .fapi2, .all].find? fun profile =>
      profile.text = text
  | _ => none

/-- `isinstance(value, str)`, with the string. -/
def text? (value : Json) : Option String :=
  match value with
  | .str text => some text
  | _ => none

/-- `raw_value.get(key)`. -/
def rawField (fields : JsonObject) (key : String) : Json := (fields.lookup key).getD .null

/-- `from_session_object`. -/
def fromSessionObject (rawValue : Json) : Option BuilderDraft :=
  match rawValue with
  | .obj fields => do
    let draftId ← text? (rawField fields "draftId")
    let securityProfile ← profileOf (rawField fields "securityProfile")
    let createdAt ← text? (rawField fields "createdAt")
    let updatedAt ← text? (rawField fields "updatedAt")
    return {
      draftId
      scheme := optionalString (rawField fields "scheme")
      specification := optionalString (rawField fields "specification")
      version := optionalString (rawField fields "version")
      securityProfile
      resourceGroupIds := stringTuple (rawField fields "resourceGroupIds")
      endpointIds := stringTuple (rawField fields "endpointIds")
      endpointCapabilityIds := stringTupleMapping (rawField fields "endpointCapabilityIds")
      config := configObject (rawField fields "config")
      securityEnvironment := jsonObject (rawField fields "securityEnvironment")
      businessTestData := jsonObject (rawField fields "businessTestData")
      dynamicClientRegistration := jsonObject (rawField fields "dynamicClientRegistration")
      metadata := jsonObject (rawField fields "metadata")
      executionMode := executionModeOf (rawField fields "executionMode")
      discoveryMetadata := jsonObject (rawField fields "discoveryMetadata")
      createdAt
      updatedAt }
  | _ => none

/-- `None`, or a string. -/
def optionalJson : Option String → Json
  | some text => .str text
  | none => .null

/-- `list` of a tuple of strings. -/
def stringsJson (items : List String) : Json := .arr (items.map Json.str)

/-- `to_session_object`. -/
def toSessionObject (draft : BuilderDraft) : JsonObject := [
  ("draftId", .str draft.draftId),
  ("scheme", optionalJson draft.scheme),
  ("specification", optionalJson draft.specification),
  ("version", optionalJson draft.version),
  ("securityProfile", .str draft.securityProfile.text),
  ("resourceGroupIds", stringsJson draft.resourceGroupIds),
  ("endpointIds", stringsJson draft.endpointIds),
  ("endpointCapabilityIds", .obj (draft.endpointCapabilityIds.entries.map fun entry =>
    (entry.1, stringsJson entry.2))),
  ("config", .obj (configObject (.obj draft.config))),
  ("securityEnvironment", .obj (jsonObject (.obj draft.securityEnvironment))),
  ("businessTestData", .obj (jsonObject (.obj draft.businessTestData))),
  ("dynamicClientRegistration", .obj (jsonObject (.obj draft.dynamicClientRegistration))),
  ("metadata", .obj (jsonObject (.obj draft.metadata))),
  ("executionMode", .str (executionModeText draft.executionMode)),
  ("discoveryMetadata", .obj (jsonObject (.obj draft.discoveryMetadata))),
  ("createdAt", .str draft.createdAt),
  ("updatedAt", .str draft.updatedAt)]

/-! ## The steps of the wizard -/

/-- `create`. -/
def create (draftId timestamp : String) : BuilderDraft where
  draftId
  scheme := none
  specification := none
  version := none
  securityProfile := .fapi1Advanced
  resourceGroupIds := []
  endpointIds := []
  endpointCapabilityIds := Dict.empty
  config := []
  securityEnvironment := []
  businessTestData := []
  dynamicClientRegistration := []
  metadata := []
  executionMode := .certification
  discoveryMetadata := []
  createdAt := timestamp
  updatedAt := timestamp

/-- `derived_security_profile_for_boundary`. -/
def derivedSecurityProfileForBoundary (scheme specification version : String) :
    Except PyError SecurityProfile :=
  match specificationBindingForPlanBoundary scheme specification version with
  | .error (.catalogueError message) => .error (.valueError message)
  | .error error => .error error
  | .ok binding =>
    match binding.securityProfiles with
    | [profile] => .ok profile
    | profiles => .error (.valueError ("specification boundary must declare exactly one security " ++
        s!"profile for automatic derivation; found {profiles.length}"))

/-- `with_catalogue_boundary`. -/
def withCatalogueBoundary (draft : BuilderDraft) (scheme specification version timestamp : String) :
    Except PyError BuilderDraft := do
  let securityProfile ← derivedSecurityProfileForBoundary scheme specification version
  return { draft with
    scheme := some scheme, specification := some specification, version := some version
    securityProfile, updatedAt := timestamp }

/-- `with_scope_selection`. -/
def withScopeSelection (draft : BuilderDraft) (resourceGroupIds endpointIds : List String)
    (endpointCapabilityIds : Dict String (List String)) (timestamp : String) : BuilderDraft :=
  { draft with resourceGroupIds, endpointIds, endpointCapabilityIds, updatedAt := timestamp }

/-- `with_config`. -/
def withConfig (draft : BuilderDraft) (config : JsonObject) (timestamp : String) : BuilderDraft :=
  { draft with config := configObject (.obj config), updatedAt := timestamp }

/-- `with_plan_context`. -/
def withPlanContext (draft : BuilderDraft) (securityEnvironment businessTestData metadata : JsonObject)
    (executionMode : PlanExecutionMode) (dynamicClientRegistration : Option JsonObject)
    (timestamp : String) : BuilderDraft :=
  { draft with
    securityEnvironment := jsonObject (.obj securityEnvironment)
    businessTestData := jsonObject (.obj businessTestData)
    dynamicClientRegistration := match dynamicClientRegistration with
      | none => draft.dynamicClientRegistration
      | some registration => jsonObject (.obj registration)
    metadata := jsonObject (.obj metadata)
    executionMode
    updatedAt := timestamp }

/-- `with_discovery_metadata`. -/
def withDiscoveryMetadata (draft : BuilderDraft) (discoveryMetadata : JsonObject)
    (timestamp : String) : BuilderDraft :=
  { draft with discoveryMetadata := jsonObject (.obj discoveryMetadata), updatedAt := timestamp }

end BuilderDraft

/-! ## The store -/

namespace SessionBuilderDraftStore

/-- `_MAX_SESSION_DRAFTS`. -/
def MAX_SESSION_DRAFTS : Nat := 5

/-- One round of the loop of `_drafts`. -/
def addDraft (drafts : Dict String BuilderDraft) (entry : String × Json) :
    Dict String BuilderDraft :=
  match BuilderDraft.fromSessionObject entry.2 with
  | some draft => if draft.draftId = entry.1 then drafts.set entry.1 draft else drafts
  | none => drafts

/-- `_drafts`, over the value of the session key. -/
def drafts (session : Option Json) : Dict String BuilderDraft :=
  match session with
  | some (.obj rawState) =>
    match rawState.lookup "drafts" with
    | some (.obj rawDrafts) => rawDrafts.foldl addDraft Dict.empty
    | _ => Dict.empty
  | _ => Dict.empty

/-- The value that `save` stores; the ids of the drafts are distinct. -/
def sessionState (limitedDrafts : List BuilderDraft) : Json :=
  .obj [("drafts", .obj (limitedDrafts.map fun candidate =>
    (candidate.draftId, .obj candidate.toSessionObject)))]

/-- `save`. -/
def save (session : Option Json) (draft : BuilderDraft) : Option Json :=
  let drafts := (drafts session).set draft.draftId draft
  some (sessionState (drafts.values.newest BuilderDraft.updatedAt MAX_SESSION_DRAFTS))

/-- `get`. -/
def get (session : Option Json) (draftId : String) : Option BuilderDraft :=
  (drafts session).get? draftId

/-- `create`. -/
def create (session : Option Json) (draftId timestamp : String) : Option Json × BuilderDraft :=
  let draft := BuilderDraft.create draftId timestamp
  (save session draft, draft)

end SessionBuilderDraftStore

end Conformance
