import Conformance.ForStd.List
import Conformance.Spec.PlanRoundTrip
import Conformance.Spec.SecurityEnvironmentExport

/-!
# Exporting a canonical plan and reading it again

What `plan_document_to_json_object` writes for a parsed canonical document, and when
`parse_test_plan_document` reads the same document back.

## Key results

- `parseCanonicalPlanDocument_eq_ok`: what an accepted document is read as
- `parseCanonicalSpecification_export`: the specification section comes back
- `roundTrips_iff`: when the whole document does
-/

namespace Conformance.PlanJson

open Except PlanConfig

variable {validateHttpsUrl : String → String → Except PyError Unit}

/-! ## The security environment -/

/-- An `mtls` path is accepted when it is missing or a text. -/
theorem checkMtlsPath_eq_ok {rawMtls : JsonObject} {key : String} {u : Unit} :
    checkMtlsPath rawMtls key = .ok u ↔
      getField rawMtls key = .null ∨ ∃ text, ReadsText (getField rawMtls key) text := by
  unfold checkMtlsPath
  cases getField rawMtls key with
  | null => simp
  | bool _ | int _ | float _ | str _ | arr _ | obj _ =>
    simp only [bind_eq_ok, nonEmptyString_eq_ok, reduceCtorEq, false_or]
    exact exists_congr fun text => and_iff_left rfl

/-- The `mtls` switch is accepted when it is missing or a boolean. -/
theorem checkMtlsEnabled_eq_ok {rawMtls : JsonObject} {u : Unit} :
    checkMtlsEnabled rawMtls = .ok u ↔ getField rawMtls "enabled" = .null ∨
      ∃ flag, getField rawMtls "enabled" = .bool flag := by
  unfold checkMtlsEnabled
  cases getField rawMtls "enabled" <;> simp

/-- Which `mtls` objects are accepted. -/
theorem parseCanonicalMtls_eq_ok {rawMtls : JsonObject} {u : Unit} :
    parseCanonicalMtls rawMtls = .ok u ↔ AcceptedMtls rawMtls := by
  have hloop : ["certificatePath", "privateKeyPath", "caBundlePath"].forM (checkMtlsPath rawMtls) =
      .ok () ↔ ∀ key ∈ mtlsPathKeys, getField rawMtls key = .null ∨
        ∃ text, ReadsText (getField rawMtls key) text := by
    have hperm : ["certificatePath", "privateKeyPath", "caBundlePath"].Perm mtlsPathKeys := by
      decide
    refine List.forM_eq_ok.trans ?_
    simp only [hperm.mem_iff, checkMtlsPath_eq_ok]
  unfold parseCanonicalMtls
  simp only [bind_eq_ok, rejectUnknownKeys_eq_ok, checkMtlsEnabled_eq_ok]
  constructor
  · rintro ⟨-, hkeys, -, henabled, hpaths⟩
    exact ⟨hkeys, henabled, hloop.mp hpaths⟩
  · rintro ⟨hkeys, henabled, hpaths⟩
    exact ⟨(), hkeys, (), henabled, hloop.mpr hpaths⟩

/-- The `mtls` object of an environment is accepted if there is one. -/
theorem checkMtls_eq_ok {environment : JsonObject} {u : Unit} :
    checkMtls environment = .ok u ↔ ∀ value, environment.lookup "mtls" = some value →
      ∃ mtls, value = .obj mtls ∧ AcceptedMtls mtls := by
  unfold checkMtls
  cases environment.lookup "mtls" with
  | none => simp
  | some value => simp [bind_eq_ok, jsonObject_eq_ok, parseCanonicalMtls_eq_ok]

/-- A discovery URL is missing, or a text that passes the check. -/
theorem parseDiscoveryUrl_eq_ok {environment parsed : JsonObject} :
    parseDiscoveryUrl validateHttpsUrl environment = .ok parsed ↔
      (getField environment "discoveryUrl" = .null ∧ parsed = environment) ∨
        ∃ url, ReadsText (getField environment "discoveryUrl") url ∧
          validateHttpsUrl url "testPlan.securityEnvironment.discoveryUrl" = .ok () ∧
          parsed = setField environment "discoveryUrl" (.str url) := by
  unfold parseDiscoveryUrl
  cases hvalue : getField environment "discoveryUrl" with
  | null =>
    simp only [Except.ok.injEq, true_and]
    constructor
    · rintro rfl
      exact .inl rfl
    · rintro (rfl | ⟨url, ⟨_, hstr, -⟩, -⟩)
      · rfl
      · cases hstr
  | bool _ | int _ | float _ | str _ | arr _ | obj _ =>
    simp only [bind_eq_ok, nonEmptyString_eq_ok, reduceCtorEq, false_and, false_or]
    refine exists_congr fun url => and_congr_right fun _ => ?_
    cases validateHttpsUrl url "testPlan.securityEnvironment.discoveryUrl" with
    | ok => simp [eq_comm]
    | error raised => cases raised <;> simp

/-- A security environment that is accepted without change. -/
structure AcceptedEnvironment (validateHttpsUrl : String → String → Except PyError Unit)
    (environment : JsonObject) : Prop where
  keys : ∀ key ∈ environment.map Prod.fst, key ∈ securityEnvironmentKeys
  discoveryUrl : getField environment "discoveryUrl" = .null ∨
    ∃ url, environment.lookup "discoveryUrl" = some (.str url) ∧ Stripped url ∧
      validateHttpsUrl url "testPlan.securityEnvironment.discoveryUrl" = .ok ()
  mtls : ∀ value, environment.lookup "mtls" = some value →
    ∃ mtls, value = .obj mtls ∧ AcceptedMtls mtls
  clientAuthMethod : checkClientAuthMethod environment = .ok ()

/-- An accepted environment parses to itself. -/
theorem AcceptedEnvironment.parse {environment : JsonObject}
    (h : AcceptedEnvironment validateHttpsUrl environment)
    (hnodup : (environment.map Prod.fst).Nodup) :
    parseCanonicalSecurityEnvironment validateHttpsUrl environment = .ok environment := by
  unfold parseCanonicalSecurityEnvironment
  simp only [bind_eq_ok, rejectUnknownKeys_eq_ok, parseDiscoveryUrl_eq_ok, checkMtls_eq_ok]
  refine ⟨(), h.keys, environment, ?_, (), h.mtls, (), h.clientAuthMethod, rfl⟩
  rcases h.discoveryUrl with hnull | ⟨url, hlookup, hstripped, hvalid⟩
  · exact .inl ⟨hnull, rfl⟩
  · refine .inr ⟨url, ?_, hvalid, (setField_self hnodup hlookup).symm⟩
    rw [getField, hlookup]
    exact hstripped.readsText

/-- A parsed security environment is accepted without change. -/
theorem acceptedEnvironment_of_parse {raw environment : JsonObject}
    (hdecoded : Json.Decoded (.obj raw))
    (h : parseCanonicalSecurityEnvironment validateHttpsUrl raw = .ok environment) :
    Json.Decoded (.obj environment) ∧ AcceptedEnvironment validateHttpsUrl environment := by
  unfold parseCanonicalSecurityEnvironment at h
  simp only [bind_eq_ok, rejectUnknownKeys_eq_ok, parseDiscoveryUrl_eq_ok, checkMtls_eq_ok] at h
  obtain ⟨-, hkeys, parsed, hparsed, -, hmtls, _, hclient, heq⟩ := h
  obtain rfl := Except.ok.inj heq
  rcases hparsed with ⟨hnull, rfl⟩ | ⟨url, hreads, hvalid, rfl⟩
  · exact ⟨hdecoded, hkeys, .inl hnull, hmtls, hclient⟩
  · refine ⟨hdecoded.setField _ (.str url), ?_, .inr ⟨url, by simp, hreads.stripped, hvalid⟩, hmtls,
      hclient⟩
    intro key hkey
    rcases mem_keys_setField.mp hkey with rfl | hkey
    · decide
    · exact hkeys key hkey

/-- The check reads nothing but `clientAuthMethod`. -/
theorem checkClientAuthMethod_congr {environment environment' : JsonObject}
    (h : environment.lookup "clientAuthMethod" = environment'.lookup "clientAuthMethod") :
    checkClientAuthMethod environment = checkClientAuthMethod environment' := by
  unfold checkClientAuthMethod
  rw [h]

/-- A section that survives is accepted again. -/
theorem AcceptedEnvironment.rebuilt {environment : JsonObject}
    (h : AcceptedEnvironment validateHttpsUrl environment) (hsurvives : Survives environment)
    (hnone : getField environment "discoveryUrl" = .null) :
    AcceptedEnvironment validateHttpsUrl (rebuiltEnvironment environment) where
  keys := by
    intro key hkey
    by_cases hmtls : key = "mtls"
    · rw [hmtls]
      decide
    · rw [← lookup_isSome_iff_mem_keys, hsurvives.lookup_eq hnone hmtls,
        lookup_isSome_iff_mem_keys] at hkey
      exact h.keys key hkey
  discoveryUrl := by
    left
    rw [getField, hsurvives.lookup_eq hnone (by decide)]
    exact hnone
  mtls := by
    intro value hvalue
    rw [lookup_mtls_rebuiltEnvironment hnone] at hvalue
    have hpaths : ∀ key ∈ mtlsPathKeys, getField (mtlsFields (rebuiltEnvironment environment)) key =
        getField (mtlsFields environment) key := fun key hkey =>
      hsurvives.getField_mtls hnone h.mtls hkey
    obtain ⟨mtls, rfl, hkeys, henabled⟩ := rebuiltMtlsField_cases hvalue
    rw [mtlsFields_of_lookup ((lookup_mtls_rebuiltEnvironment hnone).trans hvalue)] at hpaths
    refine ⟨mtls, rfl, hkeys, .inr henabled, fun key hkey => ?_⟩
    rw [hpaths key hkey]
    cases hlookup : environment.lookup "mtls" with
    | none =>
      rw [mtlsFields_of_lookup_none hlookup]
      exact .inl rfl
    | some value =>
      obtain ⟨mtls, rfl, haccepted⟩ := h.mtls value hlookup
      rw [mtlsFields_of_lookup hlookup]
      exact haccepted.paths key hkey
  clientAuthMethod := by
    rw [checkClientAuthMethod_congr (hsurvives.lookup_eq hnone (by decide))]
    exact h.clientAuthMethod

/-! ## The config -/

/-- Copied sections add their keys at most. -/
theorem mem_keys_copySections {target source : JsonObject} {keys : List String} {key : String}
    (h : key ∈ (copySections target source keys).map Prod.fst) :
    key ∈ target.map Prod.fst ∨ key ∈ keys := by
  unfold copySections at h
  induction keys generalizing target with
  | nil => exact .inl h
  | cons head rest ih =>
    rw [List.foldl_cons] at h
    rcases ih h with hkey | hkey
    · split at hkey
      · exact .inl hkey
      · rcases mem_keys_setField.mp hkey with rfl | hkey
        · exact .inr List.mem_cons_self
        · exact .inl hkey
    · exact .inr (List.mem_cons_of_mem _ hkey)

/-- The sections that business test data leads to. -/
theorem mem_keys_configFromBusinessTestData {businessTestData business : JsonObject}
    (h : configFromBusinessTestData businessTestData = .ok business) {key : String}
    (hkey : key ∈ business.map Prod.fst) : key ∈ "ais" :: copiedBusinessSections := by
  unfold configFromBusinessTestData at h
  simp only [bind_eq_ok] at h
  obtain ⟨ais, -, aisConfig, -, heq⟩ := h
  obtain rfl := Except.ok.inj heq
  rcases mem_keys_copySections hkey with hkey | hkey
  · split at hkey
    · cases hkey
    · exact List.mem_cons.mpr (.inl (List.mem_singleton.mp hkey))
  · exact List.mem_cons_of_mem _ hkey

/-- Business test data does not touch the sections of the security environment. -/
theorem getField_canonicalPlanConfig {securityEnvironment businessTestData config : JsonObject}
    (h : canonicalPlanConfig securityEnvironment businessTestData = .ok config) {key : String}
    (hkey : key ∉ "ais" :: copiedBusinessSections) :
    getField config key = getField (configFromSecurityEnvironment securityEnvironment) key := by
  unfold canonicalPlanConfig at h
  simp only [bind_eq_ok] at h
  obtain ⟨business, hbusiness, heq⟩ := h
  obtain rfl := Except.ok.inj heq
  rw [getField, lookup_updateFields_of_notMem, getField]
  intro hmem
  exact hkey (mem_keys_configFromBusinessTestData hbusiness hmem)

/-- The config of a plan leads back to the section that its security environment does. -/
theorem securityEnvironmentFromPlanConfig_canonicalPlanConfig
    {securityEnvironment businessTestData config : JsonObject}
    (h : canonicalPlanConfig securityEnvironment businessTestData = .ok config) :
    securityEnvironmentFromPlanConfig config = rebuiltEnvironment securityEnvironment := by
  unfold rebuiltEnvironment securityEnvironmentFromPlanConfig mergeMtlsExport discoveryUrlSection
  rw [getField_canonicalPlanConfig h (by decide), getField_canonicalPlanConfig h (by decide),
    getField_canonicalPlanConfig h (by decide), getField_canonicalPlanConfig h (by decide),
    getField_canonicalPlanConfig h (by decide)]

/-- A section adds its key at most. -/
theorem mem_keys_setSection {fields entries : JsonObject} {key other : String}
    (h : other ∈ (setSection fields key entries).map Prod.fst) :
    other = key ∨ other ∈ fields.map Prod.fst := by
  unfold setSection at h
  split at h
  · exact .inr h
  · exact mem_keys_setField.mp h

/-- The keys of the configuration of an environment. -/
theorem mem_keys_configFromSecurityEnvironment {environment : JsonObject} {key : String}
    (h : key ∈ (configFromSecurityEnvironment environment).map Prod.fst) :
    key ∈ ["discoveryUrl", "oauth", "fapiSigning", "tls", "resourceServer"] := by
  unfold configFromSecurityEnvironment at h
  rcases mem_keys_setSection h with rfl | h
  · decide
  rcases mem_keys_setSection h with rfl | h
  · decide
  rcases mem_keys_setSection h with rfl | h
  · decide
  rcases mem_keys_setSection h with rfl | h
  · decide
  unfold discoveryUrlConfig at h
  split at h
  · cases h
  · rw [List.mem_singleton.mp h]
    exact List.mem_cons_self

/-- Sections that are missing are not copied. -/
theorem copySections_eq_self {target source : JsonObject} {keys : List String}
    (h : ∀ key ∈ keys, getField source key = .null) : copySections target source keys = target := by
  unfold copySections
  induction keys with
  | nil => rfl
  | cons key rest ih =>
    rw [List.forall_mem_cons] at h
    rw [List.foldl_cons, h.1]
    exact ih h.2

/-- A plan without business test data exports none. -/
theorem businessTestDataFromPlanConfig_configFromSecurityEnvironment (environment : JsonObject) :
    businessTestDataFromPlanConfig (configFromSecurityEnvironment environment) = [] := by
  have hget : ∀ key ∉ ["discoveryUrl", "oauth", "fapiSigning", "tls", "resourceServer"],
      getField (configFromSecurityEnvironment environment) key = .null := by
    intro key hkey
    rw [getField, lookup_eq_none_iff_notMem_keys.mpr]
    · rfl
    · exact fun hmem => hkey (mem_keys_configFromSecurityEnvironment hmem)
  have hcopied : ∀ key ∈ copiedBusinessSections,
      key ∉ ["discoveryUrl", "oauth", "fapiSigning", "tls", "resourceServer"] := by decide
  have hinputs : topLevelRuntimeInputs (configFromSecurityEnvironment environment) = [] := by
    refine List.filter_eq_nil_iff.mpr fun field hfield => ?_
    have hmodel : ∀ key ∈ ["discoveryUrl", "oauth", "fapiSigning", "tls", "resourceServer"],
        key ∈ modelBankConfigKeys := by decide
    have hkey := hmodel _ (mem_keys_configFromSecurityEnvironment (List.mem_map_of_mem hfield))
    simp [hkey]
  unfold businessTestDataFromPlanConfig
  rw [hget "ais" (by decide), hinputs]
  simp only [copySections_eq_self fun key hkey => hget key (hcopied key hkey)]
  rfl

/-- The business test data is exported without legacy inputs. -/
theorem businessTestDataForExport_of_config {document : PlanDocumentV2}
    (hconfig : canonicalPlanConfig document.securityEnvironment document.businessTestData =
      .ok document.config) :
    businessTestDataForExport document = eraseField document.businessTestData "inputs" := by
  unfold businessTestDataForExport exportableBusinessTestData
  by_cases hempty : document.businessTestData = []
  · rw [hempty] at hconfig
    have hplain : document.config = configFromSecurityEnvironment document.securityEnvironment :=
      (Except.ok.inj hconfig).symm
    rw [if_pos hempty, hplain, businessTestDataFromPlanConfig_configFromSecurityEnvironment, hempty]
  · rw [if_neg hempty]

/-- Without legacy inputs the business test data is exported as it was parsed. -/
theorem businessTestDataForExport_eq {document : PlanDocumentV2}
    (hconfig : canonicalPlanConfig document.securityEnvironment document.businessTestData =
      .ok document.config)
    (hinputs : document.businessTestData.lookup "inputs" = none) :
    businessTestDataForExport document = document.businessTestData := by
  rw [businessTestDataForExport_of_config hconfig]
  exact eraseField_of_notMem (lookup_eq_none_iff_notMem_keys.mp hinputs)

/-! ## The specification section -/

/-- A supported specification, one of its versions and a security profile of that version. -/
def SupportedBoundary (definition : SpecificationDefinition) (version : String)
    (securityProfile : SecurityProfile) : Prop :=
  definition ∈ supportedSpecifications ∧ ∃ binding ∈ definition.versions,
    binding.version = version ∧ securityProfile ∈ binding.securityProfiles

/-- A plan is bound to a version of a supported specification. -/
theorem specificationBinding_eq_ok {scheme specification version : String}
    {binding : SpecificationVersionDefinition}
    (h : specificationBindingForPlanBoundary scheme specification version = .ok binding) :
    ∃ definition ∈ supportedSpecifications, definition.scheme = scheme ∧
      definition.specification = specification ∧ binding ∈ definition.versions ∧
      binding.version = version := by
  unfold specificationBindingForPlanBoundary at h
  split at h
  · cases h
  · rename_i definition hfind
    split at h
    · cases h
    · rename_i binding' hbinding
      obtain rfl := Except.ok.inj h
      have hboundary := List.find?_some hfind
      have hversion := List.find?_some hbinding
      simp only [decide_eq_true_eq] at hboundary hversion
      exact ⟨definition, List.mem_of_find?_eq_some hfind, hboundary.1, hboundary.2,
        List.mem_of_find?_eq_some hbinding, hversion⟩

/-- A boundary names one supported specification. -/
theorem eq_of_boundary {definition definition' : SpecificationDefinition}
    (h : definition ∈ supportedSpecifications) (h' : definition' ∈ supportedSpecifications)
    (hspecification : definition.specification = definition'.specification) :
    definition = definition' := by
  simp only [supportedSpecifications, List.mem_cons, List.not_mem_nil, or_false] at h h'
  rcases h with rfl | rfl <;> rcases h' with rfl | rfl <;> simp_all

/-- The derived profile is one of the version's. -/
theorem derivedSecurityProfile_mem {binding : SpecificationVersionDefinition}
    {securityProfile : SecurityProfile} (h : derivedSecurityProfile binding = .ok securityProfile) :
    securityProfile ∈ binding.securityProfiles := by
  unfold derivedSecurityProfile at h
  split at h
  · rename_i hprofiles
    rw [hprofiles, Except.ok.inj h]
    exact List.mem_singleton_self _
  · cases h

/-- A parsed specification section names a supported boundary. -/
theorem supportedBoundary_of_parse {raw : JsonObject} {definition : SpecificationDefinition}
    {version : String} {securityProfile : SecurityProfile}
    (h : parseCanonicalSpecification raw = .ok (definition, version, securityProfile)) :
    SupportedBoundary definition version securityProfile := by
  unfold parseCanonicalSpecification at h
  simp only [bind_eq_ok] at h
  obtain ⟨family, -, found, hfound, -, -, text, -, binding, hbinding, profile, hprofile, heq⟩ := h
  obtain ⟨rfl, rfl, rfl⟩ := Prod.mk.inj (Except.ok.inj heq)
  have hsupported : found ∈ supportedSpecifications := by
    unfold specificationForFamily at hfound
    split at hfound
    · rename_i hfind
      obtain rfl := Except.ok.inj hfound
      exact List.mem_of_find?_eq_some hfind
    · cases hfound
  obtain ⟨definition', hsupported', -, hspecification, hmem, hversion⟩ :=
    specificationBinding_eq_ok hbinding
  obtain rfl := eq_of_boundary hsupported' hsupported hspecification
  refine ⟨hsupported, binding, hmem, hversion, ?_⟩
  unfold specificationSecurityProfile at hprofile
  split at hprofile
  · simp only [bind_eq_ok, raiseIf_eq_ok, not_not] at hprofile
    obtain ⟨_, -, -, hmem, heq⟩ := hprofile
    exact Except.ok.inj heq ▸ hmem
  · simp only [bind_eq_ok] at hprofile
    obtain ⟨_, -, _, -, _, -, _, -, hderived⟩ := hprofile
    exact derivedSecurityProfile_mem hderived

/-- The exported specification section is read again as it was. -/
theorem parseCanonicalSpecification_export {document : PlanDocumentV2}
    {definition : SpecificationDefinition} (hscheme : document.scheme = definition.scheme)
    (hspecification : document.specification = definition.specification)
    (h : SupportedBoundary definition document.version document.securityProfile) :
    parseCanonicalSpecification (specificationForExport document) =
      .ok (definition, document.version, document.securityProfile) := by
  obtain ⟨hsupported, binding, hbinding, hversion, hprofile⟩ := h
  unfold specificationForExport canonicalFamilyForPlanDocument
  rw [hscheme, hspecification, ← hversion]
  simp only [supportedSpecifications, List.mem_cons, List.not_mem_nil, or_false] at hsupported
  rcases hsupported with rfl | rfl
  · simp only [List.map_cons, List.map_nil, List.cons_append, List.nil_append, List.mem_cons,
      List.not_mem_nil, or_false] at hbinding
    rcases hbinding with rfl | rfl | rfl | rfl
    all_goals
      rw [List.mem_singleton.mp hprofile]
      rfl
  · obtain rfl := List.mem_singleton.mp hbinding
    rw [List.mem_singleton.mp hprofile]
    rfl

/-! ## Documents -/

/-- A raw canonical document of a supported specification. -/
structure ReadsDocument (validateHttpsUrl : String → String → Except PyError Unit)
    (spec : JsonObject) (definition : SpecificationDefinition) (document : PlanDocumentV2) :
    Prop where
  keys : ∀ key ∈ spec.map Prod.fst, key ∈ canonicalPlanKeys
  scheme : document.scheme = definition.scheme
  specification : document.specification = definition.specification
  boundary : ∃ raw, spec.lookup "specification" = some (.obj raw) ∧
    parseCanonicalSpecification raw = .ok (definition, document.version, document.securityProfile)
  shape : validateCanonicalScopeShape spec definition = .ok ()
  executionMode : parseExecutionMode spec = .ok document.executionMode
  securityEnvironment : ∃ raw, spec.lookup "securityEnvironment" = some (.obj raw) ∧
    parseCanonicalSecurityEnvironment validateHttpsUrl raw = .ok document.securityEnvironment
  businessTestData :
    if definition.usesResourceGroups then
      spec.lookup "businessTestData" = some (.obj document.businessTestData)
    else document.businessTestData = []
  metadata : spec.lookup "metadata" = some (.obj document.metadata)
  config : canonicalPlanConfig document.securityEnvironment document.businessTestData =
    .ok document.config
  resourceGroups :
    if definition.usesResourceGroups then
      parseCanonicalResourceGroups spec = .ok document.resourceGroups
    else document.resourceGroups = []
  runtimeInputs : runtimeInputsFromPlanConfig document.config = .ok document.runtimeInputs
  endpoints :
    if definition.usesResourceGroups then document.endpoints = []
    else parseCanonicalDirectEndpoints spec = .ok document.endpoints
  dynamicClientRegistration :
    parseDynamicClientRegistration spec = .ok document.dynamicClientRegistration

/-- What a canonical document that is parsed is read from. -/
theorem parseCanonicalPlanDocument_eq_ok {spec : JsonObject} {document : PlanDocumentV2} :
    parseCanonicalPlanDocument validateHttpsUrl spec = .ok document ↔
      ∃ definition, ReadsDocument validateHttpsUrl spec definition document := by
  unfold parseCanonicalPlanDocument
  simp only [bind_eq_ok, rejectUnknownKeys_eq_ok, requiredObject_eq_ok]
  constructor
  · rintro ⟨-, hkeys, raw, hraw, ⟨definition, version, profile⟩, hspecification, ⟨⟩, hshape,
      mode, hmode, rawEnvironment, hrawEnvironment, environment, henvironment, hrest⟩
    refine ⟨definition, ?_⟩
    cases huses : definition.usesResourceGroups with
    | true =>
      simp only [huses, if_true, bind_eq_ok, requiredObject_eq_ok] at hrest
      obtain ⟨business, hbusiness, metadata, hmetadata, config, hconfig, groups, hgroups, inputs,
        hinputs, endpoints, hendpoints, registration, hregistration, heq⟩ := hrest
      obtain rfl := Except.ok.inj heq
      obtain rfl := Except.ok.inj hendpoints
      exact ⟨hkeys, rfl, rfl, ⟨raw, hraw, hspecification⟩, hshape, hmode,
        ⟨rawEnvironment, hrawEnvironment, henvironment⟩, by rwa [if_pos huses], hmetadata, hconfig,
        by rwa [if_pos huses], hinputs, by rw [if_pos huses], hregistration⟩
    | false =>
      simp only [huses, Bool.false_eq_true, if_false, bind_eq_ok, requiredObject_eq_ok] at hrest
      obtain ⟨business, hbusiness, metadata, hmetadata, config, hconfig, groups, hgroups, inputs,
        hinputs, endpoints, hendpoints, registration, hregistration, heq⟩ := hrest
      obtain rfl := Except.ok.inj heq
      obtain rfl := Except.ok.inj hbusiness
      obtain rfl := Except.ok.inj hgroups
      exact ⟨hkeys, rfl, rfl, ⟨raw, hraw, hspecification⟩, hshape, hmode,
        ⟨rawEnvironment, hrawEnvironment, henvironment⟩, by simp [huses], hmetadata, hconfig,
        by simp [huses], hinputs, by simpa [huses] using hendpoints, hregistration⟩
  · rintro ⟨definition, h⟩
    obtain ⟨raw, hraw, hspecification⟩ := h.boundary
    obtain ⟨rawEnvironment, hrawEnvironment, henvironment⟩ := h.securityEnvironment
    refine ⟨(), h.keys, raw, hraw, _, hspecification, (), h.shape, _, h.executionMode,
      rawEnvironment, hrawEnvironment, _, henvironment, ?_⟩
    obtain ⟨-, hscheme, hname, -, -, -, -, hbusiness, hmetadata, hconfig, hgroups, hinputs,
      hendpoints, hregistration⟩ := h
    obtain ⟨scheme, name, version, profile, groups, inputs, endpoints, config, environment, business,
      metadata, mode, registration⟩ := document
    simp only at hscheme hname hbusiness hmetadata hconfig hgroups hinputs hendpoints hregistration
    subst hscheme hname
    cases huses : definition.usesResourceGroups with
    | true =>
      simp only [huses, if_true] at hbusiness hgroups hendpoints
      simp only [if_true, bind_eq_ok, requiredObject_eq_ok]
      exact ⟨business, hbusiness, metadata, hmetadata, config, hconfig, groups, hgroups, inputs,
        hinputs, [], rfl, registration, hregistration, by rw [hendpoints]; rfl⟩
    | false =>
      simp only [huses, Bool.false_eq_true, if_false] at hbusiness hgroups hendpoints
      subst hbusiness
      simp only [Bool.false_eq_true, if_false, bind_eq_ok, requiredObject_eq_ok]
      exact ⟨[], rfl, metadata, hmetadata, config, hconfig, [], rfl, inputs, hinputs, endpoints,
        hendpoints, registration, hregistration, by rw [hgroups]; rfl⟩

/-- A document of version 1.0 is read as a canonical one. -/
theorem parseTestPlanDocument_canonical_iff {spec : JsonObject} {document : PlanDocumentV2}
    (hversion : requiredString spec "schemaVersion" "planDocument" = .ok "1.0") :
    parseTestPlanDocument validateHttpsUrl (.obj spec) = .ok (.shared document) ↔
      ∃ definition, ReadsDocument validateHttpsUrl spec definition document := by
  rw [← parseCanonicalPlanDocument_eq_ok]
  unfold parseTestPlanDocument
  have hobject : jsonObject (.obj spec) "planDocument" = .ok spec := rfl
  simp only [bind_eq_ok, hobject, hversion, Except.ok.injEq, exists_eq_left']
  rw [if_neg (by decide), if_pos trivial, bind_eq_ok]
  constructor
  · rintro ⟨parsed, hparsed, heq⟩
    obtain rfl := ParsedPlanDocument.shared.inj (Except.ok.inj heq)
    exact hparsed
  · intro hparsed
    exact ⟨document, hparsed, rfl⟩

/-- Of the supported specifications, read-write uses resource groups. -/
theorem SupportedBoundary.usesResourceGroups_iff {definition : SpecificationDefinition}
    {version : String} {securityProfile : SecurityProfile}
    (h : SupportedBoundary definition version securityProfile) :
    definition.usesResourceGroups = true ↔ definition.specification = "read-write" := by
  have hmem := h.1
  simp only [supportedSpecifications, List.mem_cons, List.not_mem_nil, or_false] at hmem
  rcases hmem with rfl | rfl <;> simp

namespace ReadsDocument

variable {spec : JsonObject} {definition : SpecificationDefinition} {document : PlanDocumentV2}

/-- A document that is read is of a supported specification. -/
theorem supported (h : ReadsDocument validateHttpsUrl spec definition document) :
    SupportedBoundary definition document.version document.securityProfile := by
  obtain ⟨raw, -, hraw⟩ := h.boundary
  exact supportedBoundary_of_parse hraw

/-- The exported scope has the shape that its specification asks for. -/
theorem shape_export (h : ReadsDocument validateHttpsUrl spec definition document) :
    validateCanonicalScopeShape (planDocumentToJsonObject document) definition = .ok () := by
  have huses := h.supported.usesResourceGroups_iff
  rw [← h.specification] at huses
  unfold validateCanonicalScopeShape planDocumentToJsonObject scopeForExport
  by_cases hname : document.specification = "read-write"
  · simp [huses.mpr hname, hname, bind_eq_ok, List.lookup_cons]
  · have hfalse : definition.usesResourceGroups = false := by simpa [← huses] using hname
    by_cases hempty : document.dynamicClientRegistration = []
    · simp [hfalse, hname, hempty, bind_eq_ok, List.lookup_cons]
    · simp [hfalse, hname, hempty, bind_eq_ok, List.lookup_cons]

/-- The keys of an exported document are canonical. -/
theorem keys_export (document : PlanDocumentV2) :
    ∀ key ∈ (planDocumentToJsonObject document).map Prod.fst, key ∈ canonicalPlanKeys := by
  unfold planDocumentToJsonObject scopeForExport canonicalPlanKeys
  by_cases hname : document.specification = "read-write"
  · simp [hname]
  · by_cases hempty : document.dynamicClientRegistration = [] <;> simp [hname, hempty]

/-- The execution mode is read back. -/
theorem parseExecutionMode_export (document : PlanDocumentV2) :
    parseExecutionMode (planDocumentToJsonObject document) = .ok document.executionMode := by
  have hlookup : getField (planDocumentToJsonObject document) "executionMode" =
      .str (modeText document.executionMode) := rfl
  unfold parseExecutionMode
  rw [hlookup]
  cases document.executionMode <;> rfl

/-- The registration section is read back. -/
theorem dynamicClientRegistration_export
    (h : ReadsDocument validateHttpsUrl spec definition document) :
    parseDynamicClientRegistration (planDocumentToJsonObject document) =
      .ok document.dynamicClientRegistration := by
  have huses := h.supported.usesResourceGroups_iff
  rw [← h.specification] at huses
  by_cases hname : document.specification = "read-write"
  · -- a read-write document cannot have the section
    have hshape := h.shape
    unfold validateCanonicalScopeShape at hshape
    simp only [huses.mpr hname, if_true, bind_eq_ok, raiseIf_eq_ok] at hshape
    obtain ⟨-, -, -, hnone, -⟩ := hshape
    have hregistration := h.dynamicClientRegistration
    unfold parseDynamicClientRegistration at hregistration
    rw [Bool.not_eq_true, Option.isSome_eq_false_iff, Option.isNone_iff_eq_none] at hnone
    rw [hnone] at hregistration
    rw [← Except.ok.inj hregistration]
    unfold parseDynamicClientRegistration planDocumentToJsonObject scopeForExport
    simp [hname, List.lookup_cons]
  · unfold parseDynamicClientRegistration planDocumentToJsonObject scopeForExport
    by_cases hempty : document.dynamicClientRegistration = []
    · simp [hname, hempty, List.lookup_cons]
    · simp [hname, hempty, List.lookup_cons, jsonObject_eq_ok]

/-- The endpoints of a direct family come back. -/
theorem endpoints_export (h : ReadsDocument validateHttpsUrl spec definition document)
    (hdirect : definition.usesResourceGroups = false) :
    parseCanonicalDirectEndpoints (planDocumentToJsonObject document) = .ok document.endpoints := by
  have hname : document.specification ≠ "read-write" := by
    rw [h.specification, ne_eq, ← h.supported.usesResourceGroups_iff, hdirect]
    decide
  have hendpoints := h.endpoints
  rw [hdirect, if_neg (by decide), parseCanonicalDirectEndpoints_eq_ok] at hendpoints
  obtain ⟨rawEndpoints, -, hreads, hnodup, hregister⟩ := hendpoints
  rw [parseCanonicalDirectEndpoints_eq_ok]
  refine ⟨document.endpoints.map canonicalDirectEndpointForExport, ?_, ?_, hnodup, hregister⟩
  · unfold planDocumentToJsonObject scopeForExport
    rw [if_neg hname, List.map_map]
    rfl
  · rw [List.forall₂_map_left_iff]
    refine List.forall₂_same.mpr fun endpoint hendpoint => ?_
    obtain ⟨_, _, hread⟩ := hreads.exists_of_mem_right hendpoint
    exact hread.export

/-- The resource groups of an exported read-write document. -/
theorem lookup_resourceGroups_export (hname : document.specification = "read-write") :
    (planDocumentToJsonObject document).lookup "resourceGroups" =
      some (.arr (document.resourceGroups.map canonicalResourceGroupForExport)) := by
  unfold planDocumentToJsonObject scopeForExport
  rw [if_pos hname]
  rfl

/-- The business test data of an exported read-write document. -/
theorem lookup_businessTestData_export (hname : document.specification = "read-write") :
    (planDocumentToJsonObject document).lookup "businessTestData" =
      some (.obj (businessTestDataForExport document)) := by
  unfold planDocumentToJsonObject scopeForExport
  rw [if_pos hname]
  rfl

/-- The environment of a document that is read is decoded and accepted. -/
theorem decoded_securityEnvironment (h : ReadsDocument validateHttpsUrl spec definition document)
    (hdecoded : Json.Decoded (.obj spec)) :
    Json.Decoded (.obj document.securityEnvironment) ∧
      AcceptedEnvironment validateHttpsUrl document.securityEnvironment := by
  obtain ⟨raw, hlookup, hparse⟩ := h.securityEnvironment
  exact acceptedEnvironment_of_parse (hdecoded.of_lookup hlookup) hparse

/-- The groups of a read-write document. -/
theorem parsedGroups (h : ReadsDocument validateHttpsUrl spec definition document)
    (huses : definition.usesResourceGroups = true) :
    document.resourceGroups ≠ [] ∧ (∀ group ∈ document.resourceGroups, ParsedGroup group) ∧
      (document.resourceGroups.map PlanResourceGroup.resourceGroupId).Nodup := by
  have hgroups := h.resourceGroups
  rw [if_pos huses, parseCanonicalResourceGroups_eq_ok] at hgroups
  obtain ⟨rawGroups, -, hne, hreads, hnodup⟩ := hgroups
  refine ⟨?_, ?_, hnodup⟩
  · intro hempty
    rw [hempty, List.forall₂_nil_right_iff] at hreads
    exact hne hreads
  · intro group hgroup
    obtain ⟨_, _, hread⟩ := hreads.exists_of_mem_right hgroup
    exact hread.parsed

end ReadsDocument

/-- No discovery URL in an accepted security environment. -/
theorem AcceptedEnvironment.getField_discoveryUrl {environment : JsonObject}
    (h : AcceptedEnvironment validateHttpsUrl environment)
    (hnone : securityEnvironmentHasDiscoveryUrl environment = false) :
    getField environment "discoveryUrl" = .null := by
  rcases h.discoveryUrl with hnull | ⟨url, hlookup, hstripped, -⟩
  · exact hnull
  · have hget : getField environment "discoveryUrl" = .str url := by rw [getField, hlookup]; rfl
    simp [securityEnvironmentHasDiscoveryUrl, hget, hstripped.1, hstripped.2] at hnone

/-! ## The round trip -/

/-- Two documents agree. Dictionaries compare as in Python where the two may differ in the
    order of their keys, and groups compare without their labels. -/
structure SameDocument (document document' : PlanDocumentV2) : Prop where
  scheme : document'.scheme = document.scheme
  specification : document'.specification = document.specification
  version : document'.version = document.version
  securityProfile : document'.securityProfile = document.securityProfile
  executionMode : document'.executionMode = document.executionMode
  resourceGroups : List.Forall₂ SameGroup document.resourceGroups document'.resourceGroups
  endpoints : document'.endpoints = document.endpoints
  securityEnvironment : Json.pyEq (.obj document.securityEnvironment)
    (.obj document'.securityEnvironment) = true
  businessTestData : document'.businessTestData = document.businessTestData
  runtimeInputs : document'.runtimeInputs = document.runtimeInputs
  metadata : document'.metadata = document.metadata
  dynamicClientRegistration :
    document'.dynamicClientRegistration = document.dynamicClientRegistration

/-- The exported document is read as the same document, whose export is the same JSON. -/
def RoundTrips (validateHttpsUrl : String → String → Except PyError Unit)
    (document : PlanDocumentV2) : Prop :=
  ∃ document', parseTestPlanDocument validateHttpsUrl (.obj (planDocumentToJsonObject document)) =
      .ok (.shared document') ∧
    SameDocument document document' ∧
    planDocumentToJsonObject document' = planDocumentToJsonObject document

/-- No path of a group ends with white space, and a security environment without a discovery
    URL survives. -/
structure Exportable (document : PlanDocumentV2) : Prop where
  paths : ∀ group ∈ document.resourceGroups, ∀ endpoint ∈ group.endpoints,
    strip endpoint.path = endpoint.path
  securityEnvironment :
    securityEnvironmentHasDiscoveryUrl document.securityEnvironment = true ∨
      Survives document.securityEnvironment

namespace ReadsDocument

variable {spec : JsonObject} {definition : SpecificationDefinition} {document : PlanDocumentV2}

/-- The section that a document without a discovery URL exports. -/
theorem securityEnvironmentForExport_eq
    (h : ReadsDocument validateHttpsUrl spec definition document) :
    securityEnvironmentForExport document =
      if securityEnvironmentHasDiscoveryUrl document.securityEnvironment then
        document.securityEnvironment
      else rebuiltEnvironment document.securityEnvironment := by
  unfold securityEnvironmentForExport
  rw [securityEnvironmentFromPlanConfig_canonicalPlanConfig h.config]

/-- An exportable document exports a section that is read as the one it was parsed from. -/
theorem securityEnvironment_export (h : ReadsDocument validateHttpsUrl spec definition document)
    (hdecoded : Json.Decoded (.obj spec)) (hexportable : Exportable document) :
    parseCanonicalSecurityEnvironment validateHttpsUrl (securityEnvironmentForExport document) =
        .ok (securityEnvironmentForExport document) ∧
      Json.pyEq (.obj document.securityEnvironment)
        (.obj (securityEnvironmentForExport document)) = true ∧
      canonicalPlanConfig (securityEnvironmentForExport document) document.businessTestData =
        .ok document.config := by
  obtain ⟨henvironment, haccepted⟩ := h.decoded_securityEnvironment hdecoded
  rw [h.securityEnvironmentForExport_eq]
  cases hurl : securityEnvironmentHasDiscoveryUrl document.securityEnvironment with
  | true =>
    rw [if_pos rfl]
    exact ⟨haccepted.parse henvironment.nodup, henvironment.pyEq_self, h.config⟩
  | false =>
    have hnone := haccepted.getField_discoveryUrl hurl
    have hsurvives : Survives document.securityEnvironment :=
      hexportable.securityEnvironment.resolve_left (by simp [hurl])
    rw [if_neg (by decide)]
    refine ⟨(haccepted.rebuilt hsurvives hnone).parse (nodup_keys_securityEnvironmentFromPlanConfig _),
      (pyEq_rebuiltEnvironment_iff henvironment hnone haccepted.mtls).mpr hsurvives, ?_⟩
    have hconfig := h.config
    unfold canonicalPlanConfig at hconfig ⊢
    rwa [hsurvives.config_eq hnone haccepted.mtls]

/-- A document with the exported section in place of its own exports the same section. -/
theorem securityEnvironmentForExport_idem (groups : List PlanResourceGroup) :
    securityEnvironmentForExport
        { document with
          resourceGroups := groups
          securityEnvironment := securityEnvironmentForExport document } =
      securityEnvironmentForExport document := by
  have hexport : securityEnvironmentForExport
      { document with
        resourceGroups := groups
        securityEnvironment := securityEnvironmentForExport document } =
      if securityEnvironmentHasDiscoveryUrl (securityEnvironmentForExport document) then
        securityEnvironmentForExport document
      else securityEnvironmentFromPlanConfig document.config := rfl
  rw [hexport]
  unfold securityEnvironmentForExport
  by_cases hurl : securityEnvironmentHasDiscoveryUrl document.securityEnvironment = true
  · rw [if_pos hurl, if_pos hurl]
  · rw [if_neg hurl, ite_self]

/-- The groups of an exportable document come back. -/
theorem resourceGroups_export (h : ReadsDocument validateHttpsUrl spec definition document)
    (hexportable : Exportable document) :
    ∃ groups,
      (if definition.usesResourceGroups then
        parseCanonicalResourceGroups (planDocumentToJsonObject document) = .ok groups
      else groups = []) ∧
      List.Forall₂ SameGroup document.resourceGroups groups ∧
      groups.map canonicalResourceGroupForExport =
        document.resourceGroups.map canonicalResourceGroupForExport := by
  by_cases huses : definition.usesResourceGroups = true
  · have hname : document.specification = "read-write" := by
      rwa [h.specification, ← h.supported.usesResourceGroups_iff]
    obtain ⟨hne, hparsed, hnodup⟩ := h.parsedGroups huses
    obtain ⟨groups, hgroups⟩ := List.exists_forall₂_of_forall fun group hgroup =>
      (hparsed group hgroup).readsGroup_export (hexportable.paths group hgroup)
    have hsame : List.Forall₂ SameGroup document.resourceGroups groups :=
      hgroups.imp fun _ _ hgroup => hgroup.2.1
    have hids : groups.map PlanResourceGroup.resourceGroupId =
        document.resourceGroups.map PlanResourceGroup.resourceGroupId :=
      (hsame.map_eq fun group group' hgroup => by
        unfold SameGroup at hgroup
        injection hgroup).symm
    refine ⟨groups, ?_, hsame,
      (hgroups.map_eq fun group group' hgroup => hgroup.2.2.symm).symm⟩
    rw [if_pos huses, parseCanonicalResourceGroups_eq_ok]
    refine ⟨document.resourceGroups.map canonicalResourceGroupForExport, ?_, ?_, ?_, ?_⟩
    · rw [getField, lookup_resourceGroups_export hname]
      rfl
    · simpa using hne
    · rw [List.forall₂_map_left_iff]
      exact hgroups.imp fun _ _ hgroup => hgroup.1
    · rwa [hids]
  · have hgroups := h.resourceGroups
    rw [if_neg huses] at hgroups
    exact ⟨[], by rw [if_neg huses], by rw [hgroups]; exact .nil, by rw [hgroups]⟩

/-- Groups that come back have no white space at the ends of their paths. -/
theorem strip_path {document' : PlanDocumentV2}
    (h : ReadsDocument validateHttpsUrl spec definition document)
    (h' : ReadsDocument validateHttpsUrl (planDocumentToJsonObject document) definition document')
    (hsame : List.Forall₂ SameGroup document.resourceGroups document'.resourceGroups) :
    ∀ group ∈ document.resourceGroups, ∀ endpoint ∈ group.endpoints,
      strip endpoint.path = endpoint.path := by
  by_cases huses : definition.usesResourceGroups = true
  · have hname : document.specification = "read-write" := by
      rwa [h.specification, ← h.supported.usesResourceGroups_iff]
    obtain ⟨-, hparsed, -⟩ := h.parsedGroups huses
    have hgroups := h'.resourceGroups
    rw [if_pos huses, parseCanonicalResourceGroups_eq_ok] at hgroups
    obtain ⟨rawGroups, hraw, -, hreads, -⟩ := hgroups
    rw [getField, lookup_resourceGroups_export hname] at hraw
    obtain rfl := Json.arr.inj hraw
    rw [List.forall₂_map_left_iff] at hreads
    intro group hgroup
    obtain ⟨group', -, hread, hgroupSame⟩ :=
      (hreads.mp (fun _ _ hread hsame => And.intro hread hsame) hsame).exists_of_mem_left hgroup
    exact (hparsed group hgroup).strip_path hread hgroupSame
  · have hgroups := h.resourceGroups
    rw [if_neg huses] at hgroups
    simp [hgroups]

/-- A security environment that comes back without a discovery URL survives. -/
theorem discoveryUrl_or_survives {environment : JsonObject}
    (h : ReadsDocument validateHttpsUrl spec definition document)
    (hdecoded : Json.Decoded (.obj spec))
    (hparse : parseCanonicalSecurityEnvironment validateHttpsUrl
      (securityEnvironmentForExport document) = .ok environment)
    (hequal : Json.pyEq (.obj document.securityEnvironment) (.obj environment) = true) :
    securityEnvironmentHasDiscoveryUrl document.securityEnvironment = true ∨
      Survives document.securityEnvironment := by
  obtain ⟨henvironment, haccepted⟩ := h.decoded_securityEnvironment hdecoded
  rw [h.securityEnvironmentForExport_eq] at hparse
  cases hurl : securityEnvironmentHasDiscoveryUrl document.securityEnvironment with
  | true => exact .inl rfl
  | false =>
    right
    have hnone := haccepted.getField_discoveryUrl hurl
    rw [hurl, if_neg (by decide)] at hparse
    unfold parseCanonicalSecurityEnvironment at hparse
    simp only [bind_eq_ok, parseDiscoveryUrl_eq_ok,
      getField_discoveryUrl_rebuiltEnvironment _ hnone] at hparse
    obtain ⟨-, -, parsed, hparsed, _, -, _, -, heq⟩ := hparse
    obtain rfl := Except.ok.inj heq
    rcases hparsed with ⟨-, rfl⟩ | ⟨_, ⟨_, hstr, -⟩, -⟩
    · exact (pyEq_rebuiltEnvironment_iff henvironment hnone haccepted.mtls).mp hequal
    · cases hstr

end ReadsDocument

namespace ReadsDocument

variable {spec : JsonObject} {definition : SpecificationDefinition} {document : PlanDocumentV2}

/-- A document that is read back is exportable. -/
theorem exportable_of_roundTrips (h : ReadsDocument validateHttpsUrl spec definition document)
    (hdecoded : Json.Decoded (.obj spec)) (hround : RoundTrips validateHttpsUrl document) :
    Exportable document := by
  obtain ⟨document', hparse, hsame, -⟩ := hround
  obtain ⟨definition', h'⟩ := (parseTestPlanDocument_canonical_iff rfl).mp hparse
  have hspecification := parseCanonicalSpecification_export h.scheme h.specification h.supported
  obtain ⟨raw, hraw, hraw'⟩ := h'.boundary
  obtain rfl : specificationForExport document = raw := Json.obj.inj (Option.some.inj hraw)
  rw [hspecification] at hraw'
  obtain ⟨rfl, -⟩ := Prod.mk.inj (Except.ok.inj hraw')
  obtain ⟨rawEnvironment, hlookup, henvironment⟩ := h'.securityEnvironment
  obtain rfl : securityEnvironmentForExport document = rawEnvironment :=
    Json.obj.inj (Option.some.inj hlookup)
  exact ⟨h.strip_path h' hsame.resourceGroups,
    h.discoveryUrl_or_survives hdecoded henvironment hsame.securityEnvironment⟩

/-- An exportable document without inputs of its own is read back. -/
theorem roundTrips_of_exportable (h : ReadsDocument validateHttpsUrl spec definition document)
    (hdecoded : Json.Decoded (.obj spec))
    (hinputs : document.businessTestData.lookup "inputs" = none)
    (hexportable : Exportable document) : RoundTrips validateHttpsUrl document := by
  have hspecification := parseCanonicalSpecification_export h.scheme h.specification h.supported
  have hbusiness := businessTestDataForExport_eq h.config hinputs
  obtain ⟨henvironment, hequal, hconfig⟩ := h.securityEnvironment_export hdecoded hexportable
  obtain ⟨groups, hgroups, hsame, hexports⟩ := h.resourceGroups_export hexportable
  refine ⟨{ document with
      resourceGroups := groups
      securityEnvironment := securityEnvironmentForExport document },
    (parseTestPlanDocument_canonical_iff rfl).mpr ⟨definition, ?_⟩, ?_, ?_⟩
  · refine ⟨ReadsDocument.keys_export document, h.scheme, h.specification,
      ⟨_, rfl, hspecification⟩, h.shape_export, ReadsDocument.parseExecutionMode_export document,
      ⟨_, rfl, henvironment⟩, ?_, rfl, hconfig, hgroups, h.runtimeInputs, ?_,
      h.dynamicClientRegistration_export⟩
    · have huses := h.supported.usesResourceGroups_iff
      rw [← h.specification] at huses
      by_cases hname : document.specification = "read-write"
      · rw [if_pos (huses.mpr hname), ReadsDocument.lookup_businessTestData_export hname, hbusiness]
      · have hdirect := h.businessTestData
        rw [if_neg (fun h => hname (huses.mp h))] at hdirect ⊢
        exact hdirect
    · have hendpoints := h.endpoints
      cases huses : definition.usesResourceGroups with
      | true =>
        rw [huses, if_pos rfl] at hendpoints
        rw [if_pos rfl]
        exact hendpoints
      | false =>
        rw [if_neg (by decide)]
        exact h.endpoints_export huses
  · exact ⟨rfl, rfl, rfl, rfl, rfl, hsame, rfl, hequal, rfl, rfl, rfl, rfl⟩
  · unfold planDocumentToJsonObject scopeForExport
    rw [ReadsDocument.securityEnvironmentForExport_idem, hexports]
    rfl

end ReadsDocument

/-- A parsed canonical document without legacy inputs round-trips exactly when no path of its
    groups ends with white space and its security environment has a discovery URL or
    survives. -/
theorem roundTrips_iff {spec : JsonObject} {document : PlanDocumentV2}
    (hdecoded : Json.Decoded (.obj spec))
    (hversion : requiredString spec "schemaVersion" "planDocument" = .ok "1.0")
    (hparse : parseTestPlanDocument validateHttpsUrl (.obj spec) = .ok (.shared document))
    (hinputs : ∀ business, spec.lookup "businessTestData" = some (.obj business) →
      business.lookup "inputs" = none) :
    RoundTrips validateHttpsUrl document ↔ Exportable document := by
  obtain ⟨definition, h⟩ := (parseTestPlanDocument_canonical_iff hversion).mp hparse
  have hnone : document.businessTestData.lookup "inputs" = none := by
    have hbusiness := h.businessTestData
    split at hbusiness
    · exact hinputs _ hbusiness
    · rw [hbusiness]
      rfl
  exact ⟨h.exportable_of_roundTrips hdecoded, h.roundTrips_of_exportable hdecoded hnone⟩

/-- A read-write plan for the accounts API and one payment endpoint. -/
def readWritePlan (securityEnvironment : JsonObject) : JsonObject :=
  [("schemaVersion", .str "1.0"),
    ("specification", .obj [("family", .str "OBL_READ_WRITE"), ("version", .str "4.0.1")]),
    ("securityEnvironment", .obj securityEnvironment),
    ("resourceGroups", .arr [.str "AIS", .obj [("id", .str "PIS"), ("endpoints", .arr [.obj [
      ("method", .str "POST"),
      ("path", .str "/open-banking/v4.0/pisp/domestic-payments")]])]]),
    ("businessTestData", .obj []),
    ("metadata", .obj [])]

/-- A document with a discovery URL is read back. -/
theorem roundTrips_iff_discoveryUrl :
    ∃ document, parseTestPlanDocument (fun _ _ => .ok ()) (.obj (readWritePlan
        [("discoveryUrl", .str "https://auth.example/.well-known/openid-configuration")])) =
      .ok (.shared document) ∧ RoundTrips (fun _ _ => .ok ()) document := by
  obtain ⟨document, hparse, hurl, hpaths⟩ : ∃ document, parseTestPlanDocument (fun _ _ => .ok ())
      (.obj (readWritePlan
        [("discoveryUrl", .str "https://auth.example/.well-known/openid-configuration")])) =
      .ok (.shared document) ∧
      securityEnvironmentHasDiscoveryUrl document.securityEnvironment = true ∧
      ∀ group ∈ document.resourceGroups, ∀ endpoint ∈ group.endpoints,
        strip endpoint.path = endpoint.path :=
    ⟨_, rfl, by decide +kernel, by decide +kernel⟩
  refine ⟨document, hparse, (roundTrips_iff ?_ rfl hparse ?_).mpr ⟨hpaths, .inl hurl⟩⟩
  · exact Json.decoded_of_isDecoded (by decide +kernel)
  · intro business hbusiness
    obtain rfl := Json.obj.inj (Option.some.inj hbusiness)
    rfl

/-- The issuer alone makes no `oauth` config, so it is lost. -/
theorem roundTrips_issuer_fails :
    Json.Decoded (.obj (readWritePlan [("issuer", .str "https://auth.example")])) ∧
    requiredString (readWritePlan [("issuer", .str "https://auth.example")]) "schemaVersion"
      "planDocument" = .ok "1.0" ∧
    ∃ document, parseTestPlanDocument (fun _ _ => .ok ()) (.obj (readWritePlan
        [("issuer", .str "https://auth.example")])) = .ok (.shared document) ∧
      document.businessTestData.lookup "inputs" = none ∧
      ¬ RoundTrips (fun _ _ => .ok ()) document := by
  have hdecoded : Json.Decoded (.obj (readWritePlan [("issuer", .str "https://auth.example")])) :=
    Json.decoded_of_isDecoded (by decide +kernel)
  refine ⟨hdecoded, rfl, _, rfl, rfl, fun hround => ?_⟩
  obtain ⟨definition, h⟩ := (parseTestPlanDocument_canonical_iff rfl).mp
    (show parseTestPlanDocument (fun _ _ => .ok ())
      (.obj (readWritePlan [("issuer", .str "https://auth.example")])) = _ from rfl)
  rcases (h.exportable_of_roundTrips hdecoded hround).securityEnvironment with hurl | hsurvives
  · cases hurl
  -- the issuer survives only beside the other OAuth fields
  · have hissuer : "issuer" ∈ oauthKeys := by decide
    have hcomplete := hsurvives.oauth "issuer" hissuer List.mem_cons_self
    cases hcomplete.1

end Conformance.PlanJson
