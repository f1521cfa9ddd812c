import Conformance.Spec.ShownSections

/-!
# What a plan snapshot reveals

A snapshot of a plan document should hide every value that is held under a
sensitive key, so that two documents that differ in such values only have
snapshots that differ in the shape of these values only. Two things break this:
scalars below a sensitive key that redaction leaves as they are, and fields that
are copied to the exported sections only when their values are not blank.

## Key results

- `snapshotsAgree_iff`: two snapshots section by section
- `shownAlike_of_discoveryUrl`: documents that state their sections themselves
- `safeTestPlanSnapshot_agree_iff`: when snapshots of documents that differ in
  sensitive values only agree
-/

namespace Conformance.PlanSnapshot

open PlanConfig PlanJson

variable {validateHttpsUrl : String → String → Except PyError Unit}

/-! ## Two snapshots -/

/-- Every scalar that an object holds under a sensitive key is the empty string. -/
def NothingRevealed (sensitive : String → Bool) (json : JsonObject) : Prop :=
  ∀ scalar ∈ guardedFields sensitive false json, scalar = .str ""

/-- Two snapshots, restored values apart, agree up to the shape of the values under
    sensitive keys: they are equal elsewhere, and no such value shows a scalar. -/
def SnapshotsAgree (sensitive : String → Bool) (document document' : PlanDocumentV2)
    (snapshot snapshot' : JsonObject) : Prop :=
  Json.AgreeOutside sensitive (.obj (withoutRestored document snapshot))
      (.obj (withoutRestored document' snapshot')) ∧
    NothingRevealed sensitive (withoutRestored document snapshot) ∧
    NothingRevealed sensitive (withoutRestored document' snapshot')

/-- The JSON sections of two documents differ only in values under sensitive keys. A document
    states its environment and its business test data itself, or its config states them. -/
structure DifferOnlyUnder (sensitive : String → Bool) (document document' : PlanDocumentV2) :
    Prop where
  metadata : Json.MemberAgrees sensitive "metadata" (some (.obj document.metadata))
    (some (.obj document'.metadata))
  registration : Json.MemberAgrees sensitive "dynamicClientRegistration"
    (some (.obj document.dynamicClientRegistration))
    (some (.obj document'.dynamicClientRegistration))
  sections :
    Json.MemberAgrees sensitive "securityEnvironment" (some (.obj document.securityEnvironment))
        (some (.obj document'.securityEnvironment)) ∧
      Json.MemberAgrees sensitive "businessTestData" (some (.obj document.businessTestData))
        (some (.obj document'.businessTestData)) ∨
    Json.MemberAgrees sensitive "config" (some (.obj document.config))
      (some (.obj document'.config))

/-- Every value that a document shows under a sensitive key is made of what redaction
    removes. -/
structure Redactable (sensitive : String → Bool) (document : PlanDocumentV2) : Prop where
  frame : redactableFields sensitive false false (documentFrame document) = true
  metadata : redactable sensitive (sensitive "metadata") "metadata" (.obj document.metadata) = true
  environment : ∀ name value, shownEnvironment document name = some value →
    sensitive "securityEnvironment" = true ∧ name = "value" ∨
      redactable sensitive (sensitive "securityEnvironment" || sensitive name) name value = true
  business : ∀ value ∈ shownBusinessSection document,
    redactable sensitive (sensitive "businessTestData") "businessTestData" value = true
  registration : ∀ value ∈ shownRegistration document,
    redactable sensitive (sensitive "dynamicClientRegistration") "dynamicClientRegistration" value =
      true

/-- Two documents show the same fields, with values that agree unless they are under
    sensitive keys. -/
structure ShownAlike (sensitive : String → Bool) (document document' : PlanDocumentV2) :
    Prop where
  frame : Json.AgreeOutside sensitive (.obj (documentFrame document))
    (.obj (documentFrame document'))
  environment : sensitive "securityEnvironment" = false → ∀ name,
    Json.MemberAgrees sensitive name (shownEnvironment document name)
      (shownEnvironment document' name)
  business : Json.MemberAgrees sensitive "businessTestData" (shownBusinessSection document)
    (shownBusinessSection document')
  registration : (shownRegistration document).isSome = (shownRegistration document').isSome

/-! ## Section by section -/

variable {sensitive : String → Bool} {document document' : PlanDocumentV2}

/-- The keys of the JSON sections are not among those of the frame. -/
theorem lookup_documentFrame_eq_none {name : String} (hname : name ∈ ["securityEnvironment",
    "metadata", "businessTestData", "dynamicClientRegistration"]) :
    (documentFrame document).lookup name = none := by
  rw [lookup_eq_none_iff_notMem_keys]
  intro hmem
  have hkeys : name ∈ ["schemaVersion", "specification", "executionMode",
      (documentScope document).1] := hmem
  have hapart : ∀ name ∈ ["securityEnvironment", "metadata", "businessTestData",
      "dynamicClientRegistration"], name ∉ ["schemaVersion", "specification", "executionMode",
        "resourceGroups"] ∧ name ∉ ["schemaVersion", "specification", "executionMode",
        "endpoints"] := by decide
  rcases key_documentScope document with hkey | hkey
  · exact (hapart name hname).1 (hkey ▸ hkeys)
  · exact (hapart name hname).2 (hkey ▸ hkeys)

/-- Two exported documents agree section by section. -/
theorem agreeOutside_shownSections_iff :
    Json.AgreeOutside sensitive (.obj (shownSections document))
        (.obj (shownSections document')) ↔
      Json.AgreeOutside sensitive (.obj (documentFrame document))
          (.obj (documentFrame document')) ∧
        Json.MemberAgrees sensitive "securityEnvironment"
          (some (.obj (shownSecurityEnvironment document)))
          (some (.obj (shownSecurityEnvironment document'))) ∧
        Json.MemberAgrees sensitive "metadata" (some (.obj document.metadata))
          (some (.obj document'.metadata)) ∧
        Json.MemberAgrees sensitive "businessTestData" (shownBusinessSection document)
          (shownBusinessSection document') ∧
        Json.MemberAgrees sensitive "dynamicClientRegistration" (shownRegistration document)
          (shownRegistration document') := by
  rw [Json.agreeOutside_obj_iff, Json.agreeOutside_obj_iff]
  simp only [lookup_shownSections]
  constructor
  · intro h
    refine ⟨fun name => ?_, h "securityEnvironment", h "metadata", h "businessTestData",
      h "dynamicClientRegistration"⟩
    by_cases hname : name ∈ ["securityEnvironment", "metadata", "businessTestData",
      "dynamicClientRegistration"]
    · rw [lookup_documentFrame_eq_none hname, lookup_documentFrame_eq_none hname]
      exact .refl name none
    · have hmember := h name
      simp only [List.mem_cons, List.not_mem_nil, or_false, not_or] at hname
      rwa [if_neg hname.1, if_neg hname.2.1, if_neg hname.2.2.1, if_neg hname.2.2.2,
        if_neg hname.1, if_neg hname.2.1, if_neg hname.2.2.1, if_neg hname.2.2.2] at hmember
  · rintro ⟨hframe, hsecurity, hmetadata, hbusiness, hregistration⟩ name
    split
    · rename_i hname
      exact hname ▸ hsecurity
    split
    · rename_i hname
      exact hname ▸ hmetadata
    split
    · rename_i hname
      exact hname ▸ hbusiness
    split
    · rename_i hname
      exact hname ▸ hregistration
    · exact hframe name

/-- Redaction of the environment field by field. -/
theorem redactable_shownSecurityEnvironment_iff
    (hnodup : ((shownSecurityEnvironment document).map Prod.fst).Nodup) {guarded : Bool}
    {key : String} :
    redactable sensitive guarded key (.obj (shownSecurityEnvironment document)) = true ↔
      ∀ name value, shownEnvironment document name = some value →
        sensitive key = true ∧ name = "value" ∨
          redactable sensitive (guarded || sensitive name) name value = true := by
  rw [redactable, redactableFields_iff]
  constructor
  · intro h name value hvalue
    rw [← lookup_shownSecurityEnvironment] at hvalue
    exact h (name, value) (mem_of_lookup hvalue)
  · intro h field hfield
    refine h field.1 field.2 ?_
    rw [← lookup_shownSecurityEnvironment]
    exact lookup_of_mem hnodup hfield

/-- Members outside a guarded section are redactable one by one. -/
theorem redactableFields_unguarded_iff {fields : JsonObject} :
    redactableFields sensitive false false fields = true ↔
      ∀ field ∈ fields, redactable sensitive (sensitive field.1) field.1 field.2 = true := by
  rw [redactableFields_iff]
  simp

/-- An exported document is redactable when its sections are. -/
theorem redactableFields_shownSections_iff
    (hnodup : ((shownSecurityEnvironment document).map Prod.fst).Nodup) :
    redactableFields sensitive false false (shownSections document) = true ↔
      Redactable sensitive document := by
  rw [redactableFields_unguarded_iff]
  constructor
  · intro h
    constructor
    case frame =>
      rw [redactableFields_unguarded_iff]
      intro field hfield
      apply h
      rcases List.mem_append.mp hfield with hheader | hscope
      · simp [shownSections, hheader]
      · simp [shownSections, List.mem_singleton.mp hscope]
    case metadata => exact h ("metadata", _) (by simp [shownSections])
    case environment =>
      exact (redactable_shownSecurityEnvironment_iff hnodup).mp
        (h ("securityEnvironment", _) (by simp [shownSections]))
    case business =>
      intro value hvalue
      exact h ("businessTestData", value) (by simp [shownSections, Option.mem_def.mp hvalue])
    case registration =>
      intro value hvalue
      exact h ("dynamicClientRegistration", value)
        (by simp [shownSections, Option.mem_def.mp hvalue])
  · intro h field hfield
    have hframe := redactableFields_unguarded_iff.mp h.frame
    simp only [shownSections, List.mem_append, List.mem_cons, List.not_mem_nil, or_false,
      Option.mem_toList, Option.map_eq_some_iff] at hfield
    rcases hfield with ((hheader | rfl | rfl | rfl) | ⟨value, hvalue, rfl⟩) | ⟨value, hvalue, rfl⟩
    · exact hframe field (List.mem_append_left _ hheader)
    · exact (redactable_shownSecurityEnvironment_iff hnodup).mpr h.environment
    · exact h.metadata
    · exact hframe _ (List.mem_append_right _ (List.mem_singleton_self _))
    · exact h.business value hvalue
    · exact h.registration value hvalue

/-- A safe object reveals nothing exactly when the object was redactable. -/
theorem nothingRevealed_safeJsonObject {json : JsonObject} :
    NothingRevealed sensitive (safeJsonObject sensitive json) ↔
      redactableFields sensitive false false json = true := by
  unfold NothingRevealed
  rw [safeJsonObject_eq, forall_guardedFields_iff, redactableFields_iff, List.forall_mem_map]
  refine forall₂_congr fun field _ => ?_
  rw [guardedScalars_safeJsonValue field.2 (by simp), or_iff_right (by simp)]

/-- A snapshot without what it restores is the redaction of the shown sections. -/
theorem withoutRestored_snapshot (h : Parsed validateHttpsUrl document)
    (compiledPlan : Option CompiledTestPlan) (inputIds : List String) :
    withoutRestored document (safeTestPlanSnapshot document compiledPlan inputIds) =
      safeJsonObject (isSensitive (sensitiveInputIds compiledPlan inputIds))
        (shownSections document) := by
  rw [safeTestPlanSnapshot, withoutRestored_restore, ← safeJsonObject_withoutRestored,
    withoutRestored_export h.businessTestData]

/-- Two environments agree field by field. -/
theorem agreeOutside_shownSecurityEnvironment_iff :
    Json.AgreeOutside sensitive (.obj (shownSecurityEnvironment document))
        (.obj (shownSecurityEnvironment document')) ↔
      ∀ name, Json.MemberAgrees sensitive name (shownEnvironment document name)
        (shownEnvironment document' name) := by
  rw [Json.agreeOutside_obj_iff]
  simp only [lookup_shownSecurityEnvironment]

/-- A section that differs in sensitive values only is shown alike when it is shown at all. -/
theorem memberAgrees_shownRegistration_iff
    (hregistration : Json.MemberAgrees sensitive "dynamicClientRegistration"
      (some (.obj document.dynamicClientRegistration))
      (some (.obj document'.dynamicClientRegistration))) :
    Json.MemberAgrees sensitive "dynamicClientRegistration" (shownRegistration document)
        (shownRegistration document') ↔
      (shownRegistration document).isSome = (shownRegistration document').isSome := by
  have hshown : ∀ {document : PlanDocumentV2} {value}, value ∈ shownRegistration document →
      value = .obj document.dynamicClientRegistration := by
    intro document value hvalue
    unfold shownRegistration at hvalue
    split at hvalue
    · cases hvalue
    · exact (Option.some.inj hvalue).symm
  refine ⟨And.left, fun h => ⟨h, fun hname value hvalue value' hvalue' => ?_⟩⟩
  rw [hshown hvalue, hshown hvalue']
  exact Json.memberAgrees_some.mp hregistration hname

/-- Two snapshots agree when the documents show the same outside the sensitive keys and all
    that they show under such keys is redactable. -/
theorem snapshotsAgree_iff (compiledPlan : Option CompiledTestPlan) (inputIds : List String)
    (hparsed : Parsed validateHttpsUrl document) (hparsed' : Parsed validateHttpsUrl document') :
    SnapshotsAgree (isSensitive (sensitiveInputIds compiledPlan inputIds)) document document'
        (safeTestPlanSnapshot document compiledPlan inputIds)
        (safeTestPlanSnapshot document' compiledPlan inputIds) ↔
      Json.AgreeOutside (isSensitive (sensitiveInputIds compiledPlan inputIds))
          (.obj (shownSections document)) (.obj (shownSections document')) ∧
        Redactable (isSensitive (sensitiveInputIds compiledPlan inputIds)) document ∧
        Redactable (isSensitive (sensitiveInputIds compiledPlan inputIds)) document' := by
  unfold SnapshotsAgree
  rw [withoutRestored_snapshot hparsed, withoutRestored_snapshot hparsed',
    nothingRevealed_safeJsonObject, nothingRevealed_safeJsonObject,
    redactableFields_shownSections_iff hparsed.nodup_shownSecurityEnvironment,
    redactableFields_shownSections_iff hparsed'.nodup_shownSecurityEnvironment,
    (agreeOutside_safeJsonObject _).congr (agreeOutside_safeJsonObject _)]

/-- Documents that differ in sensitive values only show the same when they show alike. -/
theorem DifferOnlyUnder.agreeOutside_iff (h : DifferOnlyUnder sensitive document document') :
    Json.AgreeOutside sensitive (.obj (shownSections document))
        (.obj (shownSections document')) ↔ ShownAlike sensitive document document' := by
  rw [agreeOutside_shownSections_iff, memberAgrees_shownRegistration_iff h.registration,
    Json.memberAgrees_some, agreeOutside_shownSecurityEnvironment_iff]
  constructor
  · rintro ⟨hframe, henvironment, -, hbusiness, hregistration⟩
    exact ⟨hframe, henvironment, hbusiness, hregistration⟩
  · rintro ⟨hframe, henvironment, hbusiness, hregistration⟩
    exact ⟨hframe, henvironment, h.metadata, hbusiness, hregistration⟩

/-! ## Documents with a discovery URL of their own -/

/-- Erasing the same member keeps the agreement. -/
theorem agreeOutside_editObject_eraseField {value value' : Json} (key : String)
    (h : Json.AgreeOutside sensitive value value') :
    Json.AgreeOutside sensitive (editObject (fun fields => eraseField fields key) value)
      (editObject (fun fields => eraseField fields key) value') := by
  cases h with
  | refl => exact .refl _
  | arr hlength hitems => exact .arr hlength hitems
  | obj hkeys hmembers =>
    rw [editObject, editObject, Json.agreeOutside_obj_iff]
    intro name
    rw [lookup_eraseField, lookup_eraseField]
    split
    · exact .refl name none
    · exact Json.agreeOutside_obj_iff.mp (.obj hkeys hmembers) name

/-- It does inside a member too. -/
theorem memberAgrees_map_eraseField {name : String} {value value' : Option Json} (key : String)
    (h : Json.MemberAgrees sensitive name value value') :
    Json.MemberAgrees sensitive name
      (value.map (editObject fun fields => eraseField fields key))
      (value'.map (editObject fun fields => eraseField fields key)) := by
  refine ⟨by simpa using h.1, fun hname v hv v' hv' => ?_⟩
  obtain ⟨w, hw, rfl⟩ := Option.map_eq_some_iff.mp hv
  obtain ⟨w', hw', rfl⟩ := Option.map_eq_some_iff.mp hv'
  exact agreeOutside_editObject_eraseField key (h.2 hname w hw w' hw')

/-- The business data that is shown agrees when the data does. -/
theorem agreeOutside_shownBusiness (h : Json.AgreeOutside sensitive
    (.obj document.businessTestData) (.obj document'.businessTestData)) :
    Json.AgreeOutside sensitive (.obj (shownBusiness document))
      (.obj (shownBusiness document')) := by
  rw [Json.agreeOutside_obj_iff]
  intro name
  have hmember := Json.agreeOutside_obj_iff.mp (agreeOutside_editObject_eraseField "inputs" h) name
  unfold shownBusiness
  rw [lookup_modifyObject, lookup_modifyObject]
  split
  · exact memberAgrees_map_eraseField "accountIds" hmember
  · exact hmember

/-- Documents that state their sections themselves show alike what they have in them. -/
theorem shownAlike_of_discoveryUrl (hspecification : document.specification = document'.specification)
    (hframe : Json.AgreeOutside sensitive (.obj (documentFrame document))
      (.obj (documentFrame document')))
    (henvironment : Json.MemberAgrees sensitive "securityEnvironment"
      (some (.obj document.securityEnvironment)) (some (.obj document'.securityEnvironment)))
    (hbusiness : Json.MemberAgrees sensitive "businessTestData"
      (some (.obj document.businessTestData)) (some (.obj document'.businessTestData)))
    (hregistration : document.dynamicClientRegistration = [] ↔
      document'.dynamicClientRegistration = [])
    (hurl : securityEnvironmentHasDiscoveryUrl document.securityEnvironment = true)
    (hurl' : securityEnvironmentHasDiscoveryUrl document'.securityEnvironment = true) :
    ShownAlike sensitive document document' where
  frame := hframe
  environment := by
    intro hname name
    have hmember := Json.agreeOutside_obj_iff.mp (Json.memberAgrees_some.mp henvironment hname) name
    unfold shownEnvironment environmentField
    -- each section is shown as it stands, up to the erased key path
    rw [if_pos hurl, if_pos hurl', ← hspecification]
    split
    · exact hmember
    split
    · exact .refl name none
    split
    · exact memberAgrees_map_eraseField "privateKeyPath" hmember
    · exact hmember
  business := by
    unfold shownBusinessSection
    rw [← hspecification]
    split
    · exact Json.memberAgrees_some.mpr fun hname =>
        agreeOutside_shownBusiness (Json.memberAgrees_some.mp hbusiness hname)
    · exact .refl _ none
  registration := by
    unfold shownRegistration
    rw [← hspecification]
    simp only [hregistration]
    split <;> rfl

/-! ## When snapshots agree -/

/-- Two snapshots of documents that differ in sensitive values only agree up to the shape of
    these values exactly when all of them are of the kinds that redaction removes and both
    documents show the same fields. -/
theorem safeTestPlanSnapshot_agree_iff (compiledPlan : Option CompiledTestPlan)
    (inputIds : List String) (hparsed : Parsed validateHttpsUrl document)
    (hparsed' : Parsed validateHttpsUrl document')
    (hdiffer : DifferOnlyUnder (isSensitive (sensitiveInputIds compiledPlan inputIds)) document
      document') :
    SnapshotsAgree (isSensitive (sensitiveInputIds compiledPlan inputIds)) document document'
        (safeTestPlanSnapshot document compiledPlan inputIds)
        (safeTestPlanSnapshot document' compiledPlan inputIds) ↔
      ShownAlike (isSensitive (sensitiveInputIds compiledPlan inputIds)) document document' ∧
        Redactable (isSensitive (sensitiveInputIds compiledPlan inputIds)) document ∧
        Redactable (isSensitive (sensitiveInputIds compiledPlan inputIds)) document' := by
  rw [snapshotsAgree_iff compiledPlan inputIds hparsed hparsed', hdiffer.agreeOutside_iff]

/-! ## Plans that hold secrets -/

/-- A plan for the payment API. -/
def paymentPlan (environment business metadata : JsonObject) : Json :=
  .obj [
    ("schemaVersion", .str "1.0"),
    ("specification", .obj [("family", .str "OBL_READ_WRITE"), ("version", .str "4.0.1")]),
    ("securityEnvironment", .obj environment),
    ("resourceGroups", .arr [.str "PIS"]),
    ("businessTestData", .obj business),
    ("metadata", .obj metadata)]

/-- The document that such a plan is parsed to. -/
structure PaymentDocument (environment business metadata : JsonObject)
    (document : PlanDocumentV2) : Prop where
  parsed : parseTestPlanDocument (fun _ _ => .ok ()) (paymentPlan environment business metadata) =
    .ok (.shared document)
  specification : document.specification = "read-write"
  frame : documentFrame document = [("schemaVersion", .str "1.0"),
    ("specification", .obj [("family", .str "OBL_READ_WRITE"), ("version", .str "4.0.1"),
      ("profile", .str "FAPI1_ADVANCED")]),
    ("executionMode", .str "certification"), ("resourceGroups", .arr [.str "PIS"])]
  environment : document.securityEnvironment = environment
  business : document.businessTestData = business
  metadata : document.metadata = metadata
  registration : document.dynamicClientRegistration = []

/-- A security environment with a key path. -/
def keyEnvironment (path : String) : JsonObject :=
  [("discoveryUrl", .str "https://bank.example.com/discovery"),
    ("signingPrivateKeyPath", .str path)]

/-- Business test data with the identification of an account. -/
def creditorData (identification : String) : JsonObject :=
  [("pis", .obj [("creditorAccount", .obj [("schemeName", .str "UK.OBIE.SortCodeAccountNumber"),
    ("identification", .str identification)])])]

/-- A security environment without a discovery URL, with everything a signing config needs. -/
def signingEnvironment (path : String) : JsonObject :=
  [("clientAuthMethod", .str "private_key_jwt"), ("signingCertificatePath", .str "cert.pem"),
    ("signingPrivateKeyPath", .str path), ("signingKeyId", .str "key-1"),
    ("clientAssertionIssuer", .str "client"), ("clientAssertionSubject", .str "client")]

section PaymentDocuments

variable {environment business metadata environment' business' metadata' : JsonObject}

/-- A payment document is parsed. -/
theorem PaymentDocument.isParsed (h : PaymentDocument environment business metadata document)
    (hdecoded : Json.isDecoded (paymentPlan environment business metadata) = true) :
    Parsed (fun _ _ => .ok ()) document :=
  ⟨_, Json.decoded_of_isDecoded hdecoded, h.parsed⟩

/-- Payment documents differ in secrets only when their sections do. -/
theorem PaymentDocument.differOnlyUnder
    (h : PaymentDocument environment business metadata document)
    (h' : PaymentDocument environment' business' metadata' document')
    (henvironment : Json.AgreeOutside sensitive (.obj environment) (.obj environment'))
    (hbusiness : Json.AgreeOutside sensitive (.obj business) (.obj business'))
    (hmetadata : Json.AgreeOutside sensitive (.obj metadata) (.obj metadata')) :
    DifferOnlyUnder sensitive document document' where
  metadata := by
    rw [h.metadata, h'.metadata]
    exact Json.memberAgrees_some.mpr fun _ => hmetadata
  registration := by
    rw [h.registration, h'.registration]
    exact .refl _ _
  sections := by
    rw [h.environment, h'.environment, h.business, h'.business]
    exact .inl ⟨Json.memberAgrees_some.mpr fun _ => henvironment,
      Json.memberAgrees_some.mpr fun _ => hbusiness⟩

/-- They are then shown alike. -/
theorem PaymentDocument.shownAlike
    (h : PaymentDocument environment business metadata document)
    (h' : PaymentDocument environment' business' metadata' document')
    (hurl : securityEnvironmentHasDiscoveryUrl environment = true)
    (hurl' : securityEnvironmentHasDiscoveryUrl environment' = true)
    (henvironment : Json.AgreeOutside sensitive (.obj environment) (.obj environment'))
    (hbusiness : Json.AgreeOutside sensitive (.obj business) (.obj business')) :
    ShownAlike sensitive document document' := by
  apply shownAlike_of_discoveryUrl
  case hspecification => rw [h.specification, h'.specification]
  case hframe =>
    rw [h.frame, h'.frame]
    exact .refl _
  case henvironment =>
    rw [h.environment, h'.environment]
    exact Json.memberAgrees_some.mpr fun _ => henvironment
  case hbusiness =>
    rw [h.business, h'.business]
    exact Json.memberAgrees_some.mpr fun _ => hbusiness
  case hregistration => rw [h.registration, h'.registration]
  case hurl => rwa [h.environment]
  case hurl' => rwa [h'.environment]

/-- A payment document is redactable when its sections are. -/
theorem PaymentDocument.redactable
    (h : PaymentDocument environment business metadata document)
    (hurl : securityEnvironmentHasDiscoveryUrl environment = true)
    (hsections : redactableFields sensitive false false
      [("schemaVersion", .str "1.0"),
        ("specification", .obj [("family", .str "OBL_READ_WRITE"), ("version", .str "4.0.1"),
          ("profile", .str "FAPI1_ADVANCED")]),
        ("executionMode", .str "certification"), ("resourceGroups", .arr [.str "PIS"]),
        ("securityEnvironment", .obj environment), ("metadata", .obj metadata),
        ("businessTestData", .obj (modifyObject (eraseField business "inputs") "ais" fun ais =>
          eraseField ais "accountIds"))] = true) :
    Redactable sensitive document := by
  -- the sections that are shown, one by one
  have hmembers := redactableFields_unguarded_iff.mp hsections
  have hother : document.specification ≠ "dynamic-client-registration" := by
    rw [h.specification]
    decide
  constructor
  case frame =>
    rw [h.frame, redactableFields_unguarded_iff]
    exact fun field hfield => hmembers field (List.mem_append_left
      [("securityEnvironment", _), ("metadata", _), ("businessTestData", _)] hfield)
  case metadata =>
    rw [h.metadata]
    exact hmembers ("metadata", _) (by simp)
  case environment =>
    intro name value hvalue
    have henvironment := hmembers ("securityEnvironment", .obj environment) (by simp)
    rw [PlanSnapshot.redactable, redactableFields_iff] at henvironment
    rw [shownEnvironment, if_pos hother, environmentField, h.environment, if_pos hurl] at hvalue
    exact henvironment (name, value) (mem_of_lookup hvalue)
  case business =>
    rw [shownBusinessSection, if_pos h.specification, shownBusiness, h.business]
    rintro _ ⟨⟩
    exact hmembers ("businessTestData", _) (by simp)
  case registration =>
    rw [shownRegistration, if_pos (.inl h.specification)]
    rintro _ ⟨⟩

end PaymentDocuments

/-- Key paths, accounts and tokens stand under sensitive keys. -/
theorem agreeOutside_secrets (path path' identification identification' : String)
    (token token' : Json) :
    Json.AgreeOutside (isSensitive (sensitiveInputIds none [])) (.obj (keyEnvironment path))
        (.obj (keyEnvironment path')) ∧
      Json.AgreeOutside (isSensitive (sensitiveInputIds none [])) (.obj (signingEnvironment path))
        (.obj (signingEnvironment path')) ∧
      Json.AgreeOutside (isSensitive (sensitiveInputIds none []))
        (.obj (creditorData identification)) (.obj (creditorData identification')) ∧
      Json.AgreeOutside (isSensitive (sensitiveInputIds none [])) (.obj [("apiToken", token)])
        (.obj [("apiToken", token')]) := by
  have hpath : isSensitive (sensitiveInputIds none []) "signingPrivateKeyPath" = true := by
    decide +kernel
  have haccount : isSensitive (sensitiveInputIds none []) "identification" = true := by
    decide +kernel
  have htoken : isSensitive (sensitiveInputIds none []) "apiToken" = true := by decide +kernel
  refine ⟨?_, ?_, ?_, .cons_hidden _ _ htoken (.refl _)⟩
  · exact .cons (fun _ => .refl _) (.cons_hidden _ _ hpath (.refl _))
  · exact .cons (fun _ => .refl _) (.cons (fun _ => .refl _) (.cons_hidden _ _ hpath (.refl _)))
  · exact .cons (fun _ => .cons (fun _ => .cons (fun _ => .refl _)
      (.cons_hidden _ _ haccount (.refl _))) (.refl _)) (.refl _)

/-- Two plans that differ in a key path, an account and a token only, all of them texts. -/
theorem safeTestPlanSnapshot_agree_iff_texts :
    ∃ document document',
      parseTestPlanDocument (fun _ _ => .ok ()) (paymentPlan (keyEnvironment "a.pem")
        (creditorData "20000000000001") [("apiToken", .str "abc")]) = .ok (.shared document) ∧
      parseTestPlanDocument (fun _ _ => .ok ()) (paymentPlan (keyEnvironment "b.pem")
        (creditorData "30000000000002") [("apiToken", .str "xyz")]) = .ok (.shared document') ∧
      SnapshotsAgree (isSensitive (sensitiveInputIds none [])) document document'
        (safeTestPlanSnapshot document none []) (safeTestPlanSnapshot document' none []) := by
  obtain ⟨document, h⟩ : ∃ document, PaymentDocument (keyEnvironment "a.pem")
      (creditorData "20000000000001") [("apiToken", .str "abc")] document :=
    ⟨_, rfl, rfl, rfl, rfl, rfl, rfl, rfl⟩
  obtain ⟨document', h'⟩ : ∃ document, PaymentDocument (keyEnvironment "b.pem")
      (creditorData "30000000000002") [("apiToken", .str "xyz")] document :=
    ⟨_, rfl, rfl, rfl, rfl, rfl, rfl, rfl⟩
  obtain ⟨henvironment, -, hbusiness, hmetadata⟩ := agreeOutside_secrets "a.pem" "b.pem"
    "20000000000001" "30000000000002" (.str "abc") (.str "xyz")
  refine ⟨document, document', h.parsed, h'.parsed, ?_⟩
  apply (safeTestPlanSnapshot_agree_iff none [] (h.isParsed (by decide +kernel))
    (h'.isParsed (by decide +kernel))
    (h.differOnlyUnder h' henvironment hbusiness hmetadata)).mpr
  refine ⟨?_, ?_, ?_⟩
  · exact h.shownAlike h' (by decide +kernel) (by decide +kernel) henvironment hbusiness
  · exact h.redactable (by decide +kernel) (by decide +kernel)
  · exact h'.redactable (by decide +kernel) (by decide +kernel)

/-- A numeric token stands in the snapshots; and a key path that is blank in one of two
    documents without a discovery URL takes its whole signing config out of the snapshot. -/
theorem safeTestPlanSnapshot_agree_fails :
    (∃ document document',
      parseTestPlanDocument (fun _ _ => .ok ()) (paymentPlan (keyEnvironment "a.pem") []
        [("apiToken", .int 1234)]) = .ok (.shared document) ∧
      parseTestPlanDocument (fun _ _ => .ok ()) (paymentPlan (keyEnvironment "a.pem") []
        [("apiToken", .int 5678)]) = .ok (.shared document') ∧
      documentFrame document = documentFrame document' ∧
      DifferOnlyUnder (isSensitive (sensitiveInputIds none [])) document document' ∧
      ¬ SnapshotsAgree (isSensitive (sensitiveInputIds none [])) document document'
        (safeTestPlanSnapshot document none []) (safeTestPlanSnapshot document' none [])) ∧
    ∃ document document',
      parseTestPlanDocument (fun _ _ => .ok ()) (paymentPlan (signingEnvironment "") [] []) =
        .ok (.shared document) ∧
      parseTestPlanDocument (fun _ _ => .ok ()) (paymentPlan (signingEnvironment "key.pem") [] []) =
        .ok (.shared document') ∧
      documentFrame document = documentFrame document' ∧
      DifferOnlyUnder (isSensitive (sensitiveInputIds none [])) document document' ∧
      ¬ SnapshotsAgree (isSensitive (sensitiveInputIds none [])) document document'
        (safeTestPlanSnapshot document none []) (safeTestPlanSnapshot document' none []) := by
  constructor
  · obtain ⟨document, h⟩ : ∃ document, PaymentDocument (keyEnvironment "a.pem") []
        [("apiToken", .int 1234)] document := ⟨_, rfl, rfl, rfl, rfl, rfl, rfl, rfl⟩
    obtain ⟨document', h'⟩ : ∃ document, PaymentDocument (keyEnvironment "a.pem") []
        [("apiToken", .int 5678)] document := ⟨_, rfl, rfl, rfl, rfl, rfl, rfl, rfl⟩
    -- the numbers are shown under a sensitive key
    obtain ⟨-, -, -, hmetadata⟩ := agreeOutside_secrets "" "" "" "" (.int 1234) (.int 5678)
    refine ⟨document, document', h.parsed, h'.parsed, h.frame.trans h'.frame.symm,
      h.differOnlyUnder h' (.refl _) (.refl _) hmetadata, fun hagree => ?_⟩
    have hredactable := ((snapshotsAgree_iff none [] (h.isParsed (by decide +kernel))
      (h'.isParsed (by decide +kernel))).mp hagree).2.1.metadata
    rw [h.metadata] at hredactable
    revert hredactable
    decide +kernel
  · obtain ⟨document, h, hblank⟩ : ∃ document,
        PaymentDocument (signingEnvironment "") [] [] document ∧
          (shownEnvironment document "signingKeyId").isSome = false :=
      ⟨_, ⟨rfl, rfl, rfl, rfl, rfl, rfl, rfl⟩, by decide +kernel⟩
    obtain ⟨document', h', hshown⟩ : ∃ document,
        PaymentDocument (signingEnvironment "key.pem") [] [] document ∧
          (shownEnvironment document "signingKeyId").isSome = true :=
      ⟨_, ⟨rfl, rfl, rfl, rfl, rfl, rfl, rfl⟩, by decide +kernel⟩
    -- one key path is blank, so that document shows no signing key id
    obtain ⟨-, henvironment, -, -⟩ := agreeOutside_secrets "" "key.pem" "" "" .null .null
    have hdiffer := h.differOnlyUnder h' henvironment (.refl (.obj [])) (.refl (.obj []))
    refine ⟨document, document', h.parsed, h'.parsed, h.frame.trans h'.frame.symm, hdiffer,
      fun hagree => ?_⟩
    have halike := hdiffer.agreeOutside_iff.mp ((snapshotsAgree_iff none []
      (h.isParsed (by decide +kernel)) (h'.isParsed (by decide +kernel))).mp hagree).1
    have hkeyId := (halike.environment (by decide +kernel) "signingKeyId").1
    rw [hblank, hshown] at hkeyId
    cases hkeyId

end Conformance.PlanSnapshot
