import Conformance.Spec.ConfiguredEnvironment
import Conformance.Spec.PlanDocumentRoundTrip
import Conformance.Spec.Redaction

/-!
# What a plan snapshot shows of a document

A snapshot is made from the exported document: header, scope and JSON sections. Some
values are put back into it so that the plan can be run again; without them an
exported document consists of the sections below, each described by the fields of the
document that it is read from.

## Key results

- `withoutRestored_restore`: leaving the restored values out undoes restoring them
- `withoutRestored_export`: what is left of an exported document
- `lookup_shownSections`: its members
-/

namespace Conformance.PlanSnapshot

open Except PlanConfig PlanJson

/-! ## Restored values -/

theorem editObject_editObject (edit edit' : JsonObject → JsonObject) (value : Json) :
    editObject edit (editObject edit' value) = editObject (fun fields => edit (edit' fields)) value := by
  cases value <;> rfl

/-- Two edits under a key are one. -/
theorem modifyObject_modifyObject (fields : JsonObject) (key : String)
    (edit edit' : JsonObject → JsonObject) :
    modifyObject (modifyObject fields key edit') key edit =
      modifyObject fields key fun fields => edit (edit' fields) := by
  simp only [modifyObject, List.map_map]
  refine List.map_congr_left fun field _ => ?_
  by_cases hkey : field.1 = key
  · simp [hkey, editObject_editObject]
  · simp [hkey]

/-- Edits under different keys can be swapped. -/
theorem modifyObject_comm (fields : JsonObject) {key key' : String} (hne : key ≠ key')
    (edit edit' : JsonObject → JsonObject) :
    modifyObject (modifyObject fields key' edit') key edit =
      modifyObject (modifyObject fields key edit) key' edit' := by
  simp only [modifyObject, List.map_map]
  refine List.map_congr_left fun field _ => ?_
  by_cases hkey : field.1 = key
  · simp [hkey, hne]
  · by_cases hkey' : field.1 = key'
    · simp [hkey', hne.symm]
    · simp [hkey, hkey']

/-- The business test data without the account ids that are restored. -/
def withoutAccountIds (json : JsonObject) : JsonObject :=
  modifyObject json "businessTestData" fun businessTestData =>
    modifyObject businessTestData "ais" fun ais => eraseField ais "accountIds"

/-- The security environment without the key paths that are restored. -/
def withoutKeyPaths (json : JsonObject) : JsonObject :=
  modifyObject json "securityEnvironment" fun security =>
    modifyObject (eraseField security "signingPrivateKeyPath") "mtls" fun mtls =>
      eraseField mtls "privateKeyPath"

/-- A plan without what a snapshot of the document restores. -/
def withoutRestored (document : PlanDocumentV2) (json : JsonObject) : JsonObject :=
  if document.specification ≠ "dynamic-client-registration" then withoutAccountIds json
  else withoutKeyPaths (withoutAccountIds json)

/-- Restored account ids are left out again. -/
theorem withoutAccountIds_restore (snapshot : JsonObject) (document : PlanDocumentV2) :
    withoutAccountIds (restoreAisBusinessAccountIds snapshot document) =
      withoutAccountIds snapshot := by
  unfold restoreAisBusinessAccountIds withoutAccountIds
  split
  · rfl
  · simp only [modifyObject_modifyObject, eraseField_setField]

/-- A restored path is left out again. -/
theorem eraseField_restorePath (fields source : JsonObject) (key : String) :
    eraseField (restorePath fields source key) key = eraseField fields key := by
  unfold restorePath
  split
  · exact eraseField_setField fields key _
  · rfl

/-- Leaving a key out and editing under another can be swapped. -/
theorem eraseField_modifyObject (fields : JsonObject) (key other : String)
    (edit : JsonObject → JsonObject) :
    eraseField (modifyObject fields key edit) other =
      modifyObject (eraseField fields other) key edit :=
  eraseField_map (fun name value => if name = key then editObject edit value else value) fields other

/-- Leaving the restored values out undoes restoring them. -/
theorem withoutRestored_restore (snapshot : JsonObject) (document : PlanDocumentV2) :
    withoutRestored document
        (restoreDcrFileReferences (restoreAisBusinessAccountIds snapshot document) document) =
      withoutRestored document snapshot := by
  unfold withoutRestored restoreDcrFileReferences
  by_cases hdcr : document.specification ≠ "dynamic-client-registration"
  · rw [if_pos hdcr, if_pos hdcr, if_pos hdcr, withoutAccountIds_restore]
  · rw [if_neg hdcr, if_neg hdcr, if_neg hdcr, ← withoutAccountIds_restore snapshot document]
    unfold withoutKeyPaths
    rw [withoutAccountIds, modifyObject_comm _ (by decide), modifyObject_modifyObject]
    simp only [eraseField_modifyObject, modifyObject_modifyObject, eraseField_restorePath]
    exact modifyObject_comm _ (by decide) _ _

/-- Redaction does not see what is left out. -/
theorem safeJsonObject_withoutRestored (sensitive : String → Bool) (document : PlanDocumentV2)
    (json : JsonObject) :
    safeJsonObject sensitive (withoutRestored document json) =
      withoutRestored document (safeJsonObject sensitive json) := by
  have haccounts : Neutral sensitive withoutAccountIds :=
    .modifyObject (by decide) (.modifyObject (by decide) (.eraseField (by decide)))
  have hpaths : Neutral sensitive withoutKeyPaths :=
    .modifyObject (by decide) (.comp (.modifyObject (by decide) (.eraseField (by decide)))
      (.eraseField (by decide)))
  unfold withoutRestored
  by_cases hdcr : document.specification ≠ "dynamic-client-registration"
  · rw [if_pos hdcr, if_pos hdcr, haccounts.safe]
  · rw [if_neg hdcr, if_neg hdcr, hpaths.safe, haccounts.safe]

/-! ## What a snapshot shows of a document -/

/-- The members of a document that say what it is. -/
def documentHeader (document : PlanDocumentV2) : JsonObject :=
  [("schemaVersion", .str "1.0"), ("specification", .obj (specificationForExport document)),
    ("executionMode", .str (modeText document.executionMode))]

/-- The member that says what it selects. -/
def documentScope (document : PlanDocumentV2) : String × Json :=
  if document.specification = "read-write" then
    ("resourceGroups", .arr (document.resourceGroups.map canonicalResourceGroupForExport))
  else ("endpoints", .arr (document.endpoints.map fun endpoint =>
    .obj (canonicalDirectEndpointForExport endpoint)))

/-- What a document holds beside its JSON sections, under the keys it is written with. -/
def documentFrame (document : PlanDocumentV2) : JsonObject :=
  documentHeader document ++ [documentScope document]

/-- A field of the security environment: that of a document with a discovery URL of its own,
    else the one that config leads to. -/
def environmentField (document : PlanDocumentV2) (name : String) : Option Json :=
  if securityEnvironmentHasDiscoveryUrl document.securityEnvironment then
    document.securityEnvironment.lookup name
  else configuredEnvironment document.config name

/-- A field of the security environment without the key paths that are restored. -/
def shownEnvironment (document : PlanDocumentV2) (name : String) : Option Json :=
  if document.specification ≠ "dynamic-client-registration" then environmentField document name
  else if name = "signingPrivateKeyPath" then none
  else if name = "mtls" then
    (environmentField document name).map (editObject fun mtls => eraseField mtls "privateKeyPath")
  else environmentField document name

/-- The business test data without legacy inputs and the account ids that are restored. -/
def shownBusiness (document : PlanDocumentV2) : JsonObject :=
  modifyObject (eraseField document.businessTestData "inputs") "ais" fun ais =>
    eraseField ais "accountIds"

/-- The business test data of a read-write document. -/
def shownBusinessSection (document : PlanDocumentV2) : Option Json :=
  if document.specification = "read-write" then some (.obj (shownBusiness document)) else none

/-- The registration section of another document, unless it is empty. -/
def shownRegistration (document : PlanDocumentV2) : Option Json :=
  if document.specification = "read-write" ∨ document.dynamicClientRegistration = [] then none
  else some (.obj document.dynamicClientRegistration)

/-- The exported security environment without the key paths that are restored. -/
def shownSecurityEnvironment (document : PlanDocumentV2) : JsonObject :=
  if document.specification ≠ "dynamic-client-registration" then
    securityEnvironmentForExport document
  else modifyObject (eraseField (securityEnvironmentForExport document) "signingPrivateKeyPath")
    "mtls" fun mtls => eraseField mtls "privateKeyPath"

/-- An edited object has the edited member, and the others as they were. -/
theorem lookup_modifyObject (fields : JsonObject) (key : String) (edit : JsonObject → JsonObject)
    (name : String) :
    (modifyObject fields key edit).lookup name =
      if name = key then (fields.lookup name).map (editObject edit) else fields.lookup name := by
  unfold modifyObject
  rw [lookup_map_value fun name value => if name = key then editObject edit value else value]
  by_cases hname : name = key
  · simp [hname]
  · simp [hname]

/-- The members of the exported environment. -/
theorem lookup_securityEnvironmentForExport (document : PlanDocumentV2) (name : String) :
    (securityEnvironmentForExport document).lookup name = environmentField document name := by
  unfold securityEnvironmentForExport environmentField
  rw [← lookup_securityEnvironmentFromPlanConfig]
  split <;> rfl

/-- The members of the environment that is shown. -/
theorem lookup_shownSecurityEnvironment (document : PlanDocumentV2) (name : String) :
    (shownSecurityEnvironment document).lookup name = shownEnvironment document name := by
  unfold shownSecurityEnvironment shownEnvironment
  by_cases hdcr : document.specification ≠ "dynamic-client-registration"
  · rw [if_pos hdcr, if_pos hdcr, lookup_securityEnvironmentForExport]
  · rw [if_neg hdcr, if_neg hdcr, lookup_modifyObject, lookup_eraseField,
      lookup_securityEnvironmentForExport]
    by_cases hpath : name = "signingPrivateKeyPath"
    · simp [hpath]
    · rw [if_neg hpath, if_neg hpath]

/-- The members of an exported document, restored values apart. -/
def shownSections (document : PlanDocumentV2) : JsonObject :=
  documentHeader document ++
    [("securityEnvironment", .obj (shownSecurityEnvironment document)),
      ("metadata", .obj document.metadata), documentScope document] ++
    ((shownBusinessSection document).map fun value => ("businessTestData", value)).toList ++
    ((shownRegistration document).map fun value => ("dynamicClientRegistration", value)).toList

/-- The first member of its key is found. -/
theorem lookup_cons_eq_ite (name key : String) (value : Json) (fields : JsonObject) :
    List.lookup name ((key, value) :: fields) =
      if name = key then some value else fields.lookup name := by
  by_cases hname : name = key
  · simp [hname]
  · rw [List.lookup_cons, beq_eq_false_iff_ne.mpr hname, if_neg hname]

/-- The scope of a document is given by groups or by endpoints. -/
theorem key_documentScope (document : PlanDocumentV2) :
    (documentScope document).1 = "resourceGroups" ∨
      (documentScope document).1 = "endpoints" := by
  unfold documentScope
  split
  · exact .inl rfl
  · exact .inr rfl

/-- A member that may be left out is found under its key. -/
theorem lookup_toList_member (name key : String) (value : Option Json) :
    (value.map fun v => (key, v)).toList.lookup name = if name = key then value else none := by
  cases value with
  | none => simp
  | some v => simp [lookup_cons_eq_ite]

/-- The sections that are shown, one by one. -/
theorem lookup_shownSections (document : PlanDocumentV2) (name : String) :
    (shownSections document).lookup name =
      if name = "securityEnvironment" then some (.obj (shownSecurityEnvironment document))
      else if name = "metadata" then some (.obj document.metadata)
      else if name = "businessTestData" then shownBusinessSection document
      else if name = "dynamicClientRegistration" then shownRegistration document
      else (documentFrame document).lookup name := by
  unfold shownSections documentFrame documentHeader
  simp only [List.lookup_append, lookup_toList_member, lookup_cons_eq_ite, List.lookup_nil]
  obtain ⟨scope, heq⟩ : ∃ scope, documentScope document = scope := ⟨_, rfl⟩
  obtain ⟨key, value⟩ := scope
  have hkey := key_documentScope document
  simp only [heq] at hkey ⊢
  by_cases hsecurity : name = "securityEnvironment"
  · simp [hsecurity]
  by_cases hmetadata : name = "metadata"
  · simp [hmetadata]
  by_cases hbusiness : name = "businessTestData"
  · rcases hkey with rfl | rfl <;> simp [hbusiness, lookup_cons_eq_ite]
  by_cases hregistration : name = "dynamicClientRegistration"
  · rcases hkey with rfl | rfl <;> simp [hregistration, lookup_cons_eq_ite]
  simp [hsecurity, hmetadata, hbusiness, hregistration, lookup_cons_eq_ite]

/-- What is left of an exported document when the restored values are left out. -/
theorem withoutRestored_export {document : PlanDocumentV2}
    (hbusiness : businessTestDataForExport document =
      eraseField document.businessTestData "inputs") :
    withoutRestored document (planDocumentToJsonObject document) = shownSections document := by
  unfold withoutRestored planDocumentToJsonObject scopeForExport shownSections documentHeader
    documentScope shownBusinessSection shownRegistration shownSecurityEnvironment withoutKeyPaths
    withoutAccountIds
  by_cases hspec : document.specification = "read-write"
  · simp [hspec, hbusiness, modifyObject, editObject, shownBusiness]
  · by_cases hregistration : document.dynamicClientRegistration = [] <;>
      by_cases hdcr : document.specification = "dynamic-client-registration" <;>
      simp [hspec, hregistration, hdcr, modifyObject, editObject]

/-! ## Parsed documents -/

/-- A plan document that was parsed from JSON. -/
def Parsed (validateHttpsUrl : String → String → Except PyError Unit)
    (document : PlanDocumentV2) : Prop :=
  ∃ raw, Json.Decoded raw ∧ parseTestPlanDocument validateHttpsUrl raw = .ok (.shared document)

variable {validateHttpsUrl : String → String → Except PyError Unit}

/-- The environment and the test data of a document of version 2 come from its configuration. -/
theorem parsePlanDocumentV2_eq_ok {spec : JsonObject} {document : PlanDocumentV2}
    (h : parsePlanDocumentV2 spec = .ok document) :
    document.securityEnvironment = optionalSecurityEnvironmentFromPlanConfig document.config ∧
      document.businessTestData = businessTestDataFromPlanConfig document.config := by
  unfold parsePlanDocumentV2 at h
  simp only [bind_eq_ok] at h
  obtain ⟨-, -, rawConfig, -, scheme, -, specification, -, version, -, rawProfile, -, profile, -,
    rawScope, -, groups, -, inputs, -, heq⟩ := h
  obtain rfl := Except.ok.inj heq
  exact ⟨rfl, rfl⟩

/-- A parsed document is a canonical one, or its sections were made from its config. -/
theorem Parsed.cases {document : PlanDocumentV2} (h : Parsed validateHttpsUrl document) :
    (∃ spec definition, Json.Decoded (.obj spec) ∧
        ReadsDocument validateHttpsUrl spec definition document) ∨
      document.securityEnvironment = optionalSecurityEnvironmentFromPlanConfig document.config ∧
        document.businessTestData = businessTestDataFromPlanConfig document.config := by
  obtain ⟨raw, hdecoded, hparse⟩ := h
  unfold parseTestPlanDocument at hparse
  simp only [bind_eq_ok, jsonObject_eq_ok] at hparse
  obtain ⟨spec, rfl, schemaVersion, -, hrest⟩ := hparse
  split at hrest
  · obtain ⟨parsed, -, heq⟩ := bind_eq_ok.mp hrest
    cases heq
  split at hrest
  · obtain ⟨parsed, hparsed, heq⟩ := bind_eq_ok.mp hrest
    cases heq
    obtain ⟨definition, hreads⟩ := parseCanonicalPlanDocument_eq_ok.mp hparsed
    exact .inl ⟨spec, definition, hdecoded, hreads⟩
  split at hrest
  · obtain ⟨parsed, hparsed, heq⟩ := bind_eq_ok.mp hrest
    cases heq
    exact .inr (parsePlanDocumentV2_eq_ok hparsed)
  · cases hrest

/-- The business test data of a parsed document is exported without legacy inputs. -/
theorem Parsed.businessTestData {document : PlanDocumentV2} (h : Parsed validateHttpsUrl document) :
    businessTestDataForExport document = eraseField document.businessTestData "inputs" := by
  rcases h.cases with ⟨spec, definition, -, hreads⟩ | ⟨-, hbusiness⟩
  · exact businessTestDataForExport_of_config hreads.config
  · unfold businessTestDataForExport exportableBusinessTestData
    rw [← hbusiness, ite_self]

/-- The environment of a parsed document has distinct keys. -/
theorem Parsed.nodup_securityEnvironment {document : PlanDocumentV2}
    (h : Parsed validateHttpsUrl document) :
    (document.securityEnvironment.map Prod.fst).Nodup := by
  rcases h.cases with ⟨spec, definition, hdecoded, hreads⟩ | ⟨henvironment, -⟩
  · exact (hreads.decoded_securityEnvironment hdecoded).1.nodup
  · rw [henvironment, optionalSecurityEnvironmentFromPlanConfig]
    split
    · exact nodup_keys_securityEnvironmentFromPlanConfig _
    · exact List.nodup_nil

/-- So has what is shown of it. -/
theorem Parsed.nodup_shownSecurityEnvironment {document : PlanDocumentV2}
    (h : Parsed validateHttpsUrl document) :
    ((shownSecurityEnvironment document).map Prod.fst).Nodup := by
  have hexport : ((securityEnvironmentForExport document).map Prod.fst).Nodup := by
    unfold securityEnvironmentForExport
    split
    · exact h.nodup_securityEnvironment
    · exact nodup_keys_securityEnvironmentFromPlanConfig _
  unfold shownSecurityEnvironment
  split
  · exact hexport
  · rw [keys_modifyObject]
    exact hexport.sublist (List.filter_sublist.map _)

end Conformance.PlanSnapshot
