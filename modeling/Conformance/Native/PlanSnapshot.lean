import Conformance.Native.PlanDocumentJson

/-!
# Persisted plan snapshots

`safe_test_plan_snapshot` of `conformance/test_plan_validation.py`: the canonical
JSON of a plan document with the values under sensitive keys redacted, and the
account ids and key paths that are needed to rerun it put back.
-/

namespace Conformance.PlanSnapshot

open PlanConfig PlanJson

/-! ## Sensitive keys -/

/-- `str.lower` of one character. What is left out yields no ASCII letter. -/
def lowerChar (c : Char) : List Char :=
  if 'A' ≤ c ∧ c ≤ 'Z' then [Char.ofNat (c.toNat + 32)]
  else if c.toNat = 0x212a then ['k']
  else if c.toNat = 0x130 then ['i', Char.ofNat 0x307]
  else [c]

/-- `key.replace("-", "").replace("_", "").lower()`. -/
def normalizedKey (key : String) : List Char :=
  (key.toList.filter fun c => c ≠ '-' ∧ c ≠ '_').flatMap lowerChar

/-- `part in text`. -/
def contains (text : List Char) (part : String) : Bool :=
  text.tails.any fun tail => part.toList.isPrefixOf tail

/-- `_is_sensitive_key`. -/
def isSensitiveKey (key : String) : Bool :=
  let normalized := normalizedKey key
  "token".toList.isSuffixOf normalized || contains normalized "secret" ||
    contains normalized "password" || contains normalized "privatekey" ||
    String.ofList normalized ∈ ["accountid", "accountids", "identification",
      "xfapicustomeripaddress", "xfapifinancialid"]

/-- The sensitive runtime input ids of a compiled plan and those of the caller. -/
def sensitiveInputIds (compiledPlan : Option CompiledTestPlan) (inputIds : List String) :
    List String :=
  ((compiledPlan.map fun plan => plan.traceability.runtimeInputSnapshot).getD []).filterMap
    (fun trace => if trace.sensitive then some trace.inputId else none) ++ inputIds

/-- `key in sensitive_input_ids or _is_sensitive_key(key)`. -/
def isSensitive (inputIds : List String) (key : String) : Bool :=
  key ∈ inputIds || isSensitiveKey key

/-! ## Redaction -/

section Redaction

variable (sensitive : String → Bool)

mutual

/-- `_safe_json_value`. -/
def safeJsonValue (key : String) : Json → Json
  | .obj fields =>
    if sensitive key && (fields.lookup "value").isSome then
      .obj (setField (safeJsonObject fields) "value" (.str ""))
    else .obj (safeJsonObject fields)
  | .str text => if sensitive key then .str "" else .str text
  | .arr items => .arr (safeJsonItems key items)
  | value => value

/-- `_safe_json_object`. -/
def safeJsonObject : List (String × Json) → List (String × Json)
  | [] => []
  | (key, value) :: fields => (key, safeJsonValue key value) :: safeJsonObject fields

/-- The items of a list, under the key of the list. -/
def safeJsonItems (key : String) : List Json → List Json
  | [] => []
  | item :: items => safeJsonValue key item :: safeJsonItems key items

end

end Redaction

/-! ## Restored values -/

/-- Change a value that is an object; anything else stays. -/
def editObject (edit : JsonObject → JsonObject) : Json → Json
  | .obj fields => .obj (edit fields)
  | value => value

/-- Change the object under a key. -/
def modifyObject (fields : JsonObject) (key : String) (edit : JsonObject → JsonObject) :
    JsonObject :=
  fields.map fun field =>
    (field.1, if field.1 = key then editObject edit field.2 else field.2)

/-- `_restore_ais_business_account_ids`. -/
def restoreAisBusinessAccountIds (snapshot : JsonObject) (document : PlanDocumentV2) :
    JsonObject :=
  match (fieldsOf (getField document.businessTestData "ais")).lookup "accountIds" with
  | none => snapshot
  | some accountIds =>
    modifyObject snapshot "businessTestData" fun businessTestData =>
      modifyObject businessTestData "ais" fun ais => setField ais "accountIds" accountIds

/-- `fields[key] = path` for a value that is a string. -/
def restorePath (fields source : JsonObject) (key : String) : JsonObject :=
  match getField source key with
  | .str path => setField fields key (.str path)
  | _ => fields

/-- `_restore_dcr_file_references`. -/
def restoreDcrFileReferences (snapshot : JsonObject) (document : PlanDocumentV2) : JsonObject :=
  if document.specification ≠ "dynamic-client-registration" then snapshot
  else
    let source := document.securityEnvironment
    modifyObject snapshot "securityEnvironment" fun security =>
      modifyObject (restorePath security source "signingPrivateKeyPath") "mtls" fun mtls =>
        restorePath mtls (fieldsOf (getField source "mtls")) "privateKeyPath"

/-- `safe_test_plan_snapshot`. -/
def safeTestPlanSnapshot (document : PlanDocumentV2) (compiledPlan : Option CompiledTestPlan)
    (sensitiveRuntimeInputIds : List String) : JsonObject :=
  let sensitive := isSensitive (sensitiveInputIds compiledPlan sensitiveRuntimeInputIds)
  let snapshot := safeJsonObject sensitive (planDocumentToJsonObject document)
  restoreDcrFileReferences (restoreAisBusinessAccountIds snapshot document) document

end Conformance.PlanSnapshot
