import Conformance.Spec.JsonEquality
import Conformance.Spec.PlanReaders

/-!
# Security environments without a discovery URL

A plan without a discovery URL exports the security environment that its config
leads back to. The config keeps the OAuth fields only with a client id and a
redirect URI, and the signing fields only all together, so this is the section
the plan was parsed from exactly under the conditions of `Survives`.

## Key results

- `lookup_rebuiltEnvironment`: the fields of the exported section
- `pyEq_rebuiltEnvironment_iff`: when it is the section that was parsed
-/

namespace Conformance.PlanConfig

/-! ## Copied fields -/

/-- The value under a key, unless it is `None` or a blank string. -/
def usable (fields : JsonObject) (key : String) : Option Json :=
  if isBlank (getField fields key) then none else some (getField fields key)

/-- A copy is found under its target key if the source has a value for it. -/
theorem lookup_copyOptionalTopLevelValue (target source : JsonObject)
    (sourceKey targetKey key : String) :
    (copyOptionalTopLevelValue target source sourceKey targetKey).lookup key =
      if key = targetKey then (usable source sourceKey).or (target.lookup key)
      else target.lookup key := by
  unfold copyOptionalTopLevelValue usable
  by_cases hblank : isBlank (getField source sourceKey) = true
  · simp [hblank]
  · by_cases hkey : key = targetKey <;> simp [hblank, hkey]

/-- What a run of copies leaves under a key that none of them writes. -/
theorem lookup_copyOptionalTopLevelValues_of_notMem (target source : JsonObject)
    {keys : List (String × String)} {key : String} (hkey : key ∉ keys.map Prod.snd) :
    (copyOptionalTopLevelValues target source keys).lookup key = target.lookup key := by
  unfold copyOptionalTopLevelValues
  induction keys generalizing target with
  | nil => rfl
  | cons pair rest ih =>
    rw [List.map_cons, List.mem_cons, not_or] at hkey
    rw [List.foldl_cons, ih _ hkey.2, lookup_copyOptionalTopLevelValue, if_neg hkey.1]

/-- What a run of copies to distinct keys leaves under one of them. -/
theorem lookup_copyOptionalTopLevelValues_of_mem (target source : JsonObject)
    {keys : List (String × String)} (hnodup : (keys.map Prod.snd).Nodup) {sourceKey key : String}
    (hmem : (sourceKey, key) ∈ keys) :
    (copyOptionalTopLevelValues target source keys).lookup key =
      (usable source sourceKey).or (target.lookup key) := by
  induction keys generalizing target with
  | nil => cases hmem
  | cons pair rest ih =>
    rw [List.map_cons, List.nodup_cons] at hnodup
    have hcons : copyOptionalTopLevelValues target source (pair :: rest) =
        copyOptionalTopLevelValues (copyOptionalTopLevelValue target source pair.1 pair.2) source
          rest := rfl
    rw [hcons]
    rcases List.mem_cons.mp hmem with rfl | hmem
    · rw [lookup_copyOptionalTopLevelValues_of_notMem _ source hnodup.1,
        lookup_copyOptionalTopLevelValue, if_pos rfl]
    · have hne : key ≠ pair.2 := by
        rintro rfl
        exact hnodup.1 (List.mem_map.mpr ⟨(sourceKey, pair.2), hmem, rfl⟩)
      rw [ih _ hnodup.2 hmem, lookup_copyOptionalTopLevelValue, if_neg hne]

/-- Copying a value keeps the keys distinct. -/
theorem nodup_keys_copyOptionalTopLevelValue {target : JsonObject} (source : JsonObject)
    (sourceKey targetKey : String) (h : (target.map Prod.fst).Nodup) :
    ((copyOptionalTopLevelValue target source sourceKey targetKey).map Prod.fst).Nodup := by
  unfold copyOptionalTopLevelValue
  by_cases hblank : isBlank (getField source sourceKey) = true
  · rwa [if_pos hblank]
  · rw [if_neg hblank]
    exact nodup_keys_setField _ _ h

/-- Copying values keeps the keys distinct. -/
theorem nodup_keys_copyOptionalTopLevelValues {target : JsonObject} (source : JsonObject)
    (keys : List (String × String)) (h : (target.map Prod.fst).Nodup) :
    ((copyOptionalTopLevelValues target source keys).map Prod.fst).Nodup := by
  unfold copyOptionalTopLevelValues
  induction keys generalizing target with
  | nil => exact h
  | cons pair rest ih => exact ih (nodup_keys_copyOptionalTopLevelValue source _ _ h)

/-- An object that holds only what was copied has nothing blank in it. -/
theorem usable_eq_lookup {fields : JsonObject} {key : String}
    (h : ∀ value, fields.lookup key = some value → isBlank value = false) :
    usable fields key = fields.lookup key := by
  unfold usable getField
  cases hvalue : fields.lookup key with
  | none => rfl
  | some value => simp [h value hvalue]

/-- A usable value is not blank. -/
theorem isBlank_of_usable {fields : JsonObject} {key : String} {value : Json}
    (h : usable fields key = some value) : isBlank value = false := by
  unfold usable at h
  by_cases hblank : isBlank (getField fields key) = true
  · simp [hblank] at h
  · rw [if_neg hblank] at h
    rw [← Option.some.inj h]
    simpa using hblank

/-- A field that a run of copies into an empty object wrote. -/
theorem usable_copyOptionalTopLevelValues (source : JsonObject) {keys : List (String × String)}
    (hnodup : (keys.map Prod.snd).Nodup) {sourceKey key : String}
    (hmem : (sourceKey, key) ∈ keys) :
    usable (copyOptionalTopLevelValues [] source keys) key = usable source sourceKey := by
  have hlookup := lookup_copyOptionalTopLevelValues_of_mem [] source hnodup hmem
  rw [List.lookup_nil, Option.or_none] at hlookup
  rw [usable_eq_lookup, hlookup]
  intro value hvalue
  exact isBlank_of_usable (hlookup.symm.trans hvalue)

/-- Fields copied into an empty object and from there back under their own keys. -/
theorem lookup_copyBack (target source : JsonObject) {copies exports : List (String × String)}
    (hcopies : (copies.map Prod.snd).Nodup) (hexports : (exports.map Prod.snd).Nodup)
    (hinverse : exports.Perm (copies.map Prod.swap)) (key : String) :
    (copyOptionalTopLevelValues target (copyOptionalTopLevelValues [] source copies)
        exports).lookup key =
      if key ∈ copies.map Prod.fst then (usable source key).or (target.lookup key)
      else target.lookup key := by
  by_cases hkey : key ∈ copies.map Prod.fst
  · rw [if_pos hkey]
    obtain ⟨pair, hpair, rfl⟩ := List.mem_map.mp hkey
    have hback : (pair.2, pair.1) ∈ exports :=
      hinverse.mem_iff.mpr (List.mem_map_of_mem hpair)
    rw [lookup_copyOptionalTopLevelValues_of_mem _ _ hexports hback,
      usable_copyOptionalTopLevelValues source hcopies hpair]
  · rw [if_neg hkey, lookup_copyOptionalTopLevelValues_of_notMem]
    intro hmem
    obtain ⟨pair, hpair, rfl⟩ := List.mem_map.mp hmem
    obtain ⟨copy, hcopy, rfl⟩ := List.mem_map.mp (hinverse.mem_iff.mp hpair)
    exact hkey (List.mem_map_of_mem hcopy)

/-- Nothing is copied from an empty object. -/
theorem copyOptionalTopLevelValues_nil (target : JsonObject) (keys : List (String × String)) :
    copyOptionalTopLevelValues target [] keys = target := by
  unfold copyOptionalTopLevelValues
  induction keys with
  | nil => rfl
  | cons pair rest ih => exact ih

/-! ## Sections of the config -/

/-- A section is found under its key unless it is empty. -/
theorem lookup_setSection (fields : JsonObject) (key : String) (entries : JsonObject)
    (other : String) :
    (setSection fields key entries).lookup other =
      if other = key ∧ entries ≠ [] then some (.obj entries) else fields.lookup other := by
  unfold setSection
  by_cases hempty : entries = []
  · simp [hempty]
  · by_cases hkey : other = key <;> simp [hempty, hkey]

/-- Only the discovery URL is kept as it is. -/
theorem lookup_discoveryUrlConfig {environment : JsonObject} {key : String}
    (hkey : key ≠ "discoveryUrl") : (discoveryUrlConfig environment).lookup key = none := by
  unfold discoveryUrlConfig
  split
  · rfl
  · simp [List.lookup_cons, beq_eq_false_iff_ne.mpr hkey]

/-- A section that was written is found again; one that was not reads as empty. -/
theorem fieldsOf_setSection (fields : JsonObject) {key : String} (entries : JsonObject)
    (hnone : fields.lookup key = none) :
    fieldsOf (getField (setSection fields key entries) key) = entries := by
  unfold getField
  rw [lookup_setSection]
  by_cases hempty : entries = []
  · simp [hempty, hnone, fieldsOf]
  · simp [hempty, fieldsOf]

/-- Setting a section leaves the other fields as they are. -/
theorem getField_setSection_of_ne (fields : JsonObject) {key other : String} (entries : JsonObject)
    (hne : other ≠ key) : getField (setSection fields key entries) other = getField fields other := by
  unfold getField
  rw [lookup_setSection, if_neg (fun h => hne h.1)]

section Config

variable (environment : JsonObject)

/-- The OAuth section of the configuration. -/
theorem fieldsOf_config_oauth :
    fieldsOf (getField (configFromSecurityEnvironment environment) "oauth") =
      oauthConfigFromSecurityEnvironment environment := by
  unfold configFromSecurityEnvironment
  rw [getField_setSection_of_ne _ _ (by decide), getField_setSection_of_ne _ _ (by decide),
    getField_setSection_of_ne _ _ (by decide),
    fieldsOf_setSection _ _ (lookup_discoveryUrlConfig (by decide))]

/-- The signing section of the configuration. -/
theorem fieldsOf_config_fapiSigning :
    fieldsOf (getField (configFromSecurityEnvironment environment) "fapiSigning") =
      fapiSigningConfigFromSecurityEnvironment environment := by
  unfold configFromSecurityEnvironment
  rw [getField_setSection_of_ne _ _ (by decide), getField_setSection_of_ne _ _ (by decide),
    fieldsOf_setSection]
  rw [lookup_setSection, if_neg (by simp), lookup_discoveryUrlConfig (by decide)]

/-- The TLS section of the configuration. -/
theorem fieldsOf_config_tls :
    fieldsOf (getField (configFromSecurityEnvironment environment) "tls") =
      tlsConfigFromSecurityEnvironment environment := by
  unfold configFromSecurityEnvironment
  rw [getField_setSection_of_ne _ _ (by decide), fieldsOf_setSection]
  rw [lookup_setSection, if_neg (by simp), lookup_setSection, if_neg (by simp),
    lookup_discoveryUrlConfig (by decide)]

/-- The resource server section of the configuration. -/
theorem fieldsOf_config_resourceServer :
    fieldsOf (getField (configFromSecurityEnvironment environment) "resourceServer") =
      resourceServerConfigFromSecurityEnvironment environment := by
  unfold configFromSecurityEnvironment
  rw [fieldsOf_setSection]
  rw [lookup_setSection, if_neg (by simp), lookup_setSection, if_neg (by simp), lookup_setSection,
    if_neg (by simp), lookup_discoveryUrlConfig (by decide)]

/-! ## What the config keeps -/

/-- The keys that the config has in its `oauth` section only. -/
def oauthKeys : List String :=
  ["issuer", "authorizationEndpoint", "tokenEndpoint", "clientId", "redirectUri", "responseType",
    "signingAlgorithm"]

/-- The keys of the `fapiSigning` section. -/
def signingKeys : List String :=
  ["clientAuthMethod", "signingCertificatePath", "signingPrivateKeyPath", "signingKeyId",
    "clientAssertionIssuer", "clientAssertionSubject"]

/-- The paths of an `mtls` object. -/
def mtlsPathKeys : List String := ["caBundlePath", "certificatePath", "privateKeyPath"]

/-- The `oauth` section needs a client id and a redirect URI. -/
def OauthComplete : Prop :=
  (usable environment "clientId").isSome = true ∧ (usable environment "redirectUri").isSome = true

instance : Decidable (OauthComplete environment) := inferInstanceAs (Decidable (_ ∧ _))

/-- The `fapiSigning` section needs all of its fields. -/
def SigningComplete : Prop := ∀ key ∈ signingKeys, (usable environment key).isSome = true

instance : Decidable (SigningComplete environment) :=
  inferInstanceAs (Decidable (∀ key ∈ signingKeys, _))

/-- The copies into the `oauth` section. -/
def oauthCopies : List (String × String) :=
  [("clientId", "clientId"), ("redirectUri", "redirectUri"),
    ("authorizationEndpoint", "authorizationEndpoint"), ("issuer", "issuer"),
    ("tokenEndpoint", "tokenEndpoint"), ("resourceBaseUrl", "resourceBaseUrl"),
    ("responseType", "responseType"), ("signingAlgorithm", "requestObjectSigningAlg")]

/-- The copies into the `fapiSigning` section. -/
def signingCopies : List (String × String) :=
  [("signingCertificatePath", "signingCertificatePath"),
    ("signingPrivateKeyPath", "signingPrivateKeyPath"), ("signingKeyId", "kid"),
    ("clientAssertionIssuer", "clientAssertionIssuer"),
    ("clientAssertionSubject", "clientAssertionSubject"),
    ("clientAuthMethod", "tokenEndpointAuthMethod")]

/-- A field of the OAuth section is copied from its source key. -/
theorem lookup_oauthCopies {sourceKey key : String} (hmem : (sourceKey, key) ∈ oauthCopies) :
    (copyOptionalTopLevelValues [] environment oauthCopies).lookup key =
      usable environment sourceKey := by
  rw [lookup_copyOptionalTopLevelValues_of_mem [] environment (by decide) hmem, List.lookup_nil,
    Option.or_none]

/-- A field of the signing section is copied from its source key. -/
theorem lookup_signingCopies {sourceKey key : String} (hmem : (sourceKey, key) ∈ signingCopies) :
    (copyOptionalTopLevelValues [] environment signingCopies).lookup key =
      usable environment sourceKey := by
  rw [lookup_copyOptionalTopLevelValues_of_mem [] environment (by decide) hmem, List.lookup_nil,
    Option.or_none]

/-- The OAuth section is copied when it is complete. -/
theorem oauthConfig_eq :
    oauthConfigFromSecurityEnvironment environment =
      if OauthComplete environment then copyOptionalTopLevelValues [] environment oauthCopies
      else [] := by
  have hclient := lookup_oauthCopies environment
    (show ("clientId", "clientId") ∈ oauthCopies by simp [oauthCopies])
  have hredirect := lookup_oauthCopies environment
    (show ("redirectUri", "redirectUri") ∈ oauthCopies by simp [oauthCopies])
  unfold oauthConfigFromSecurityEnvironment
  rw [← oauthCopies]
  simp only [hclient, hredirect]
  by_cases hcomplete : OauthComplete environment
  · rw [if_pos hcomplete, if_neg]
    simp [← Option.not_isSome, hcomplete.1, hcomplete.2]
  · rw [if_neg hcomplete, if_pos]
    unfold OauthComplete at hcomplete
    rw [not_and_or, Bool.not_eq_true, Bool.not_eq_true] at hcomplete
    rcases hcomplete with hnone | hnone <;> simp [← Option.not_isSome, hnone]

/-- The signing section is copied when it is complete. -/
theorem fapiSigningConfig_eq :
    fapiSigningConfigFromSecurityEnvironment environment =
      if SigningComplete environment then copyOptionalTopLevelValues [] environment signingCopies
      else [] := by
  have hlookup : ∀ pair ∈ signingCopies,
      (copyOptionalTopLevelValues [] environment signingCopies).lookup pair.2 =
        usable environment pair.1 := fun pair hpair => lookup_signingCopies environment hpair
  have hall : (requiredSigningFields.all fun field =>
      ((copyOptionalTopLevelValues [] environment signingCopies).lookup field).isSome) = true ↔
      SigningComplete environment := by
    have hfields : requiredSigningFields = signingCopies.map Prod.snd := rfl
    have hkeys : signingKeys.Perm (signingCopies.map Prod.fst) := by decide
    rw [List.all_eq_true, hfields, List.forall_mem_map]
    unfold SigningComplete
    simp only [hkeys.mem_iff]
    rw [List.forall_mem_map]
    exact forall₂_congr fun pair hpair => by rw [hlookup pair hpair]
  unfold fapiSigningConfigFromSecurityEnvironment
  rw [← signingCopies]
  by_cases hcomplete : SigningComplete environment
  · rw [if_pos hcomplete, if_pos (hall.mpr hcomplete)]
  · rw [if_neg hcomplete, if_neg (fun h => hcomplete (hall.mp h))]

/-! ## The exported section -/

/-- The section that a plan without a discovery URL exports. -/
def rebuiltEnvironment : JsonObject :=
  securityEnvironmentFromPlanConfig (configFromSecurityEnvironment environment)

/-- The fields of the `mtls` object of a security environment. -/
def mtlsFields : JsonObject := fieldsOf (getField environment "mtls")

/-- The `mtls` fields of an environment with an `mtls` object. -/
theorem mtlsFields_of_lookup {environment mtls : JsonObject}
    (h : environment.lookup "mtls" = some (.obj mtls)) : mtlsFields environment = mtls := by
  rw [mtlsFields, getField, h]
  rfl

/-- There are none without one. -/
theorem mtlsFields_of_lookup_none {environment : JsonObject}
    (h : environment.lookup "mtls" = none) : mtlsFields environment = [] := by
  rw [mtlsFields, getField, h]
  rfl

/-- The `mtls` object that is exported, if there is one. -/
def rebuiltMtls : JsonObject :=
  copyOptionalTopLevelValues [] (tlsConfigFromSecurityEnvironment environment)
    [("caBundlePath", "caBundlePath"), ("clientCertificatePath", "certificatePath"),
      ("clientPrivateKeyPath", "privateKeyPath")]

/-- A path of the rebuilt `mtls` object is the usable path that was given. -/
theorem lookup_rebuiltMtls (key : String) :
    (rebuiltMtls environment).lookup key =
      if key ∈ mtlsPathKeys then usable (mtlsFields environment) key else none := by
  unfold rebuiltMtls tlsConfigFromSecurityEnvironment
  rw [lookup_copyBack [] _ (by decide) (by decide) (by decide), List.lookup_nil, Option.or_none]
  rfl

/-- The fields that the `oauth` section leaves in an empty export. -/
theorem lookup_oauthExport (key : String) :
    (copyOptionalTopLevelValues [] (oauthConfigFromSecurityEnvironment environment)
      [("issuer", "issuer"), ("authorizationEndpoint", "authorizationEndpoint"),
        ("tokenEndpoint", "tokenEndpoint"), ("clientId", "clientId"),
        ("redirectUri", "redirectUri"), ("resourceBaseUrl", "resourceBaseUrl"),
        ("responseType", "responseType"),
        ("requestObjectSigningAlg", "signingAlgorithm")]).lookup key =
      if key ∈ "resourceBaseUrl" :: oauthKeys ∧ OauthComplete environment then
        usable environment key
      else none := by
  rw [oauthConfig_eq]
  by_cases hcomplete : OauthComplete environment
  · have hkeys : key ∈ oauthCopies.map Prod.fst ↔ key ∈ "resourceBaseUrl" :: oauthKeys :=
      List.Perm.mem_iff (by decide)
    rw [if_pos hcomplete, lookup_copyBack [] _ (by decide) (by decide) (by decide),
      List.lookup_nil, Option.or_none]
    simp only [hkeys, hcomplete, and_true]
  · rw [if_neg hcomplete, copyOptionalTopLevelValues_nil, if_neg (fun h => hcomplete h.2),
      List.lookup_nil]

/-- The fields that the `fapiSigning` section adds. -/
theorem lookup_signingExport (target : JsonObject) (key : String) :
    (copyOptionalTopLevelValues target (fapiSigningConfigFromSecurityEnvironment environment)
      [("tokenEndpointAuthMethod", "clientAuthMethod"),
        ("signingCertificatePath", "signingCertificatePath"),
        ("signingPrivateKeyPath", "signingPrivateKeyPath"), ("kid", "signingKeyId"),
        ("clientAssertionIssuer", "clientAssertionIssuer"),
        ("clientAssertionSubject", "clientAssertionSubject")]).lookup key =
      if key ∈ signingKeys ∧ SigningComplete environment then
        (usable environment key).or (target.lookup key)
      else target.lookup key := by
  rw [fapiSigningConfig_eq]
  by_cases hcomplete : SigningComplete environment
  · have hkeys : key ∈ signingCopies.map Prod.fst ↔ key ∈ signingKeys :=
      List.Perm.mem_iff (by decide)
    rw [if_pos hcomplete, lookup_copyBack target _ (by decide) (by decide) (by decide)]
    simp only [hkeys, hcomplete, and_true]
  · rw [if_neg hcomplete, copyOptionalTopLevelValues_nil, if_neg (fun h => hcomplete h.2)]

/-- The value of the exported `mtls` field. -/
def rebuiltMtlsField : Option Json :=
  if rebuiltMtls environment = [] then none
  else some (.obj (setField (rebuiltMtls environment) "enabled"
    (.bool (((rebuiltMtls environment).lookup "certificatePath").isSome &&
      ((rebuiltMtls environment).lookup "privateKeyPath").isSome))))

/-- Merging the exported `mtls` object sets it and nothing else. -/
theorem lookup_mergeMtlsExport (target : JsonObject) (key : String) :
    (mergeMtlsExport target (configFromSecurityEnvironment environment)).lookup key =
      if key = "mtls" then (rebuiltMtlsField environment).or (target.lookup key)
      else target.lookup key := by
  unfold mergeMtlsExport rebuiltMtlsField
  rw [fieldsOf_config_tls, ← rebuiltMtls]
  by_cases hempty : rebuiltMtls environment = []
  · simp [hempty]
  · by_cases hkey : key = "mtls" <;> simp [hempty, hkey]

/-- The base URL of the resource server is copied. -/
theorem usable_resourceServerConfig :
    usable (resourceServerConfigFromSecurityEnvironment environment) "baseUrl" =
      usable environment "resourceBaseUrl" := by
  have hmem : ("resourceBaseUrl", "baseUrl") ∈ [("resourceBaseUrl", "baseUrl")] :=
    List.mem_singleton_self _
  exact usable_copyOptionalTopLevelValues environment (by decide) hmem

/-- The discovery URL is copied. -/
theorem getField_config_discoveryUrl :
    getField (configFromSecurityEnvironment environment) "discoveryUrl" =
      getField environment "discoveryUrl" := by
  unfold configFromSecurityEnvironment
  rw [getField_setSection_of_ne _ _ (by decide), getField_setSection_of_ne _ _ (by decide),
    getField_setSection_of_ne _ _ (by decide), getField_setSection_of_ne _ _ (by decide)]
  unfold discoveryUrlConfig
  split
  · rename_i hnull
    rw [hnull]
    rfl
  · simp [getField]

/-- The fields of the exported section. -/
theorem lookup_rebuiltEnvironment (hnone : getField environment "discoveryUrl" = .null)
    (key : String) :
    (rebuiltEnvironment environment).lookup key =
      if key = "resourceBaseUrl" then usable environment key
      else if key ∈ oauthKeys then
        if OauthComplete environment then usable environment key else none
      else if key ∈ signingKeys then
        if SigningComplete environment then usable environment key else none
      else if key = "mtls" then rebuiltMtlsField environment
      else none := by
  have hsection : discoveryUrlSection (configFromSecurityEnvironment environment) = [] := by
    unfold discoveryUrlSection
    rw [getField_config_discoveryUrl, hnone]
  unfold rebuiltEnvironment securityEnvironmentFromPlanConfig
  simp only [lookup_copyOptionalTopLevelValue, lookup_mergeMtlsExport, fieldsOf_config_oauth,
    fieldsOf_config_fapiSigning, fieldsOf_config_resourceServer, hsection,
    lookup_signingExport, lookup_oauthExport, usable_resourceServerConfig]
  -- the keys of the four sections are apart
  by_cases hbase : key = "resourceBaseUrl"
  · have hsigning : "resourceBaseUrl" ∉ signingKeys := by decide
    subst hbase
    by_cases hcomplete : OauthComplete environment <;> simp [hsigning, hcomplete]
  by_cases hoauth : key ∈ oauthKeys
  · have hapart : ∀ key ∈ oauthKeys, key ∉ signingKeys ∧ key ≠ "mtls" := by decide
    obtain ⟨hsigning, hmtls⟩ := hapart key hoauth
    simp [hbase, hoauth, hsigning, hmtls]
  by_cases hsigning : key ∈ signingKeys
  · have hapart : ∀ key ∈ signingKeys, key ≠ "mtls" := by decide
    by_cases hcomplete : SigningComplete environment <;>
      simp [hbase, hoauth, hsigning, hapart key hsigning, hcomplete]
  by_cases hmtls : key = "mtls"
  · have hapart : "mtls" ∉ oauthKeys ∧ "mtls" ∉ signingKeys := by decide
    simp [hmtls, hapart.1, hapart.2]
  · simp [hbase, hoauth, hsigning, hmtls]

/-- Without a discovery URL none is rebuilt. -/
theorem getField_discoveryUrl_rebuiltEnvironment
    (hnone : getField environment "discoveryUrl" = .null) :
    getField (rebuiltEnvironment environment) "discoveryUrl" = .null := by
  have hapart : "discoveryUrl" ∉ oauthKeys ∧ "discoveryUrl" ∉ signingKeys := by decide
  rw [getField, lookup_rebuiltEnvironment environment hnone, if_neg (by decide), if_neg hapart.1,
    if_neg hapart.2, if_neg (by decide), Option.getD_none]

/-- Merging the exported `mtls` object keeps the keys distinct. -/
theorem nodup_keys_mergeMtlsExport {target : JsonObject} (config : JsonObject)
    (h : (target.map Prod.fst).Nodup) : ((mergeMtlsExport target config).map Prod.fst).Nodup := by
  unfold mergeMtlsExport
  simp only
  split
  · exact h
  · exact nodup_keys_setField _ _ h

/-- The section that a config leads back to has every key once. -/
theorem nodup_keys_securityEnvironmentFromPlanConfig (config : JsonObject) :
    ((securityEnvironmentFromPlanConfig config).map Prod.fst).Nodup := by
  unfold securityEnvironmentFromPlanConfig
  refine nodup_keys_copyOptionalTopLevelValue _ _ _ (nodup_keys_mergeMtlsExport _ ?_)
  refine nodup_keys_copyOptionalTopLevelValues _ _ (nodup_keys_copyOptionalTopLevelValues _ _ ?_)
  unfold discoveryUrlSection
  split
  · split <;> simp
  · simp

/-! ## When the exported section is the parsed one -/

/-- An `mtls` object that `_parse_canonical_mtls` accepts. -/
structure AcceptedMtls (mtls : JsonObject) : Prop where
  keys : ∀ key ∈ mtls.map Prod.fst, key ∈ ["enabled", "certificatePath", "privateKeyPath",
    "caBundlePath"]
  enabled : getField mtls "enabled" = .null ∨ ∃ flag, getField mtls "enabled" = .bool flag
  paths : ∀ key ∈ mtlsPathKeys, getField mtls key = .null ∨
    ∃ text, PlanJson.ReadsText (getField mtls key) text

/-- An `mtls` object that is exported as it is: no field is `null`, there is a path, and the
    flag says whether the certificate and its key are there. -/
structure MtlsSurvives (mtls : JsonObject) : Prop where
  nonNull : ∀ field ∈ mtls, field.2 ≠ .null
  path : ∃ key ∈ mtlsPathKeys, key ∈ mtls.map Prod.fst
  enabled : mtls.lookup "enabled" = some (.bool ((mtls.lookup "certificatePath").isSome &&
    (mtls.lookup "privateKeyPath").isSome))

/-- A security environment that a plan without a discovery URL exports as it is. -/
structure Survives : Prop where
  keys : ∀ field ∈ environment, isBlank field.2 = false ∧
    field.1 ∈ "resourceBaseUrl" :: "mtls" :: oauthKeys ++ signingKeys
  oauth : ∀ key ∈ oauthKeys, key ∈ environment.map Prod.fst → OauthComplete environment
  signing : ∀ key ∈ signingKeys, key ∈ environment.map Prod.fst → SigningComplete environment
  mtls : "mtls" ∈ environment.map Prod.fst → MtlsSurvives (mtlsFields environment)

variable {environment}

theorem usable_of_lookup_none {fields : JsonObject} {key : String}
    (hlookup : fields.lookup key = none) : usable fields key = none := by
  simp [usable, getField, hlookup, isBlank]

/-- An object is empty exactly when it has no member. -/
theorem eq_nil_iff_lookup {fields : JsonObject} : fields = [] ↔ ∀ key, fields.lookup key = none := by
  constructor
  · rintro rfl key
    rfl
  · intro h
    rw [List.eq_nil_iff_forall_not_mem]
    intro field hfield
    exact lookup_eq_none_iff_notMem_keys.mp (h field.1) (List.mem_map_of_mem hfield)

theorem nodup_keys_rebuiltMtls : ((rebuiltMtls environment).map Prod.fst).Nodup :=
  nodup_keys_copyOptionalTopLevelValues _ _ List.nodup_nil

/-- A path of an accepted `mtls` object without `null` is copied. -/
theorem AcceptedMtls.usable_eq {mtls : JsonObject} (h : AcceptedMtls mtls)
    (hnonNull : ∀ field ∈ mtls, field.2 ≠ .null) {key : String} (hkey : key ∈ mtlsPathKeys) :
    usable mtls key = mtls.lookup key := by
  refine usable_eq_lookup fun value hvalue => ?_
  have hget : getField mtls key = value := by rw [getField, hvalue, Option.getD_some]
  rcases h.paths key hkey with hnull | ⟨text, raw, hstr, hne, -⟩
  · exact absurd (hget.symm.trans hnull) (hnonNull _ (mem_of_lookup hvalue))
  · rw [← hget, hstr]
    simpa [isBlank] using hne

/-- An `mtls` object that survives is exported. -/
theorem rebuiltMtls_ne_nil {mtls : JsonObject} (haccepted : AcceptedMtls mtls)
    (hsurvives : MtlsSurvives mtls) (hmtls : mtlsFields environment = mtls) :
    rebuiltMtls environment ≠ [] := by
  obtain ⟨key, hkey, hpresent⟩ := hsurvives.path
  intro hempty
  have hnone := eq_nil_iff_lookup.mp hempty key
  rw [lookup_rebuiltMtls, if_pos hkey, hmtls, haccepted.usable_eq hsurvives.nonNull hkey,
    lookup_eq_none_iff_notMem_keys] at hnone
  exact hnone hpresent

/-- The `mtls` object is rebuilt equal exactly when it survives. -/
theorem rel_rebuiltMtlsField_iff {mtls : JsonObject} (hdecoded : Json.Decoded (.obj mtls))
    (haccepted : AcceptedMtls mtls) (hmtls : mtlsFields environment = mtls) :
    Option.Rel (fun x y => Json.pyEq x y = true) (some (.obj mtls))
      (rebuiltMtlsField environment) ↔ MtlsSurvives mtls := by
  have hlookup : ∀ key, (rebuiltMtls environment).lookup key =
      if key ∈ mtlsPathKeys then usable mtls key else none := fun key => by
    rw [lookup_rebuiltMtls, hmtls]
  have hcertificate : "certificatePath" ∈ mtlsPathKeys := by decide
  have hprivateKey : "privateKeyPath" ∈ mtlsPathKeys := by decide
  have henabled : "enabled" ∉ mtlsPathKeys := by decide
  unfold rebuiltMtlsField
  constructor
  · intro h
    by_cases hempty : rebuiltMtls environment = []
    · rw [if_pos hempty] at h
      cases h
    rw [if_neg hempty, Option.rel_some_some,
      Json.pyEq_obj_iff hdecoded.nodup (nodup_keys_setField _ _ nodup_keys_rebuiltMtls)] at h
    simp only [lookup_setField, hlookup, hcertificate, hprivateKey, if_true] at h
    have hnonNull : ∀ field ∈ mtls, field.2 ≠ .null := by
      intro field hfield hnull
      have hkey := h field.1
      rw [lookup_of_mem hdecoded.nodup hfield, hnull] at hkey
      by_cases hfieldKey : field.1 = "enabled"
      · rw [if_pos hfieldKey, Option.rel_some_some] at hkey
        cases hkey
      · rw [if_neg hfieldKey] at hkey
        have husable : usable mtls field.1 = none := by
          simp [usable, getField, lookup_of_mem hdecoded.nodup hfield, hnull, isBlank]
        rw [husable, ite_self] at hkey
        cases hkey
    refine ⟨hnonNull, ?_, ?_⟩
    · by_contra hnone
      push Not at hnone
      refine hempty (eq_nil_iff_lookup.mpr fun key => ?_)
      rw [hlookup]
      by_cases hkey : key ∈ mtlsPathKeys
      · rw [if_pos hkey]
        exact usable_of_lookup_none (lookup_eq_none_iff_notMem_keys.mpr (hnone key hkey))
      · rw [if_neg hkey]
    · have hflag := h "enabled"
      rw [if_pos rfl, haccepted.usable_eq hnonNull hcertificate,
        haccepted.usable_eq hnonNull hprivateKey] at hflag
      cases hvalue : mtls.lookup "enabled" with
      | none =>
        rw [hvalue] at hflag
        cases hflag
      | some value =>
        rw [hvalue, Option.rel_some_some] at hflag
        have hget : getField mtls "enabled" = value := by rw [getField, hvalue, Option.getD_some]
        rcases haccepted.enabled with hnull | ⟨flag, hbool⟩
        · exact absurd (hget.symm.trans hnull) (hnonNull _ (mem_of_lookup hvalue))
        · rw [hget] at hbool
          rw [hbool, Json.pyEq_bool_bool] at hflag
          rw [hbool, hflag]
  · intro hsurvives
    have hnonNull := hsurvives.nonNull
    rw [if_neg (rebuiltMtls_ne_nil haccepted hsurvives hmtls), Option.rel_some_some,
      Json.pyEq_obj_iff hdecoded.nodup (nodup_keys_setField _ _ nodup_keys_rebuiltMtls)]
    intro key
    have hsame : (setField (rebuiltMtls environment) "enabled"
        (.bool (((rebuiltMtls environment).lookup "certificatePath").isSome &&
          ((rebuiltMtls environment).lookup "privateKeyPath").isSome))).lookup key =
        mtls.lookup key := by
      rw [lookup_setField, hlookup, hlookup, hlookup, if_pos hcertificate, if_pos hprivateKey,
        haccepted.usable_eq hnonNull hcertificate, haccepted.usable_eq hnonNull hprivateKey]
      by_cases hkey : key ∈ mtlsPathKeys
      · have hfield : key ≠ "enabled" := by
          rintro rfl
          exact henabled hkey
        rw [if_neg hfield, if_pos hkey, haccepted.usable_eq hnonNull hkey]
      · rw [if_neg hkey]
        by_cases hfield : key = "enabled"
        · rw [if_pos hfield, hfield, hsurvives.enabled]
        · rw [if_neg hfield, eq_comm, lookup_eq_none_iff_notMem_keys]
          intro hmem
          have hkeys := haccepted.keys key hmem
          rw [List.mem_cons] at hkeys
          have hperm : key ∈ ["certificatePath", "privateKeyPath", "caBundlePath"] ↔
              key ∈ mtlsPathKeys := List.Perm.mem_iff (by decide)
          exact hkey (hperm.mp (hkeys.resolve_left hfield))
    rw [hsame]
    exact hdecoded.rel_lookup key

/-- An environment that survives has every field but `mtls` as it was. -/
theorem Survives.lookup_eq (h : Survives environment)
    (hnone : getField environment "discoveryUrl" = .null) {key : String} (hkey : key ≠ "mtls") :
    (rebuiltEnvironment environment).lookup key = environment.lookup key := by
  have husable : usable environment key = environment.lookup key :=
    usable_eq_lookup fun value hvalue => (h.keys _ (mem_of_lookup hvalue)).1
  rw [lookup_rebuiltEnvironment environment hnone, husable, if_neg hkey]
  cases hvalue : environment.lookup key with
  | none => simp
  | some value =>
    have hpresent : key ∈ environment.map Prod.fst :=
      lookup_isSome_iff_mem_keys.mp (by rw [hvalue]; rfl)
    have hknown := (h.keys _ (mem_of_lookup hvalue)).2
    simp only [List.cons_append, List.mem_cons, List.mem_append, hkey, false_or] at hknown
    by_cases hbase : key = "resourceBaseUrl"
    · rw [if_pos hbase]
    rw [if_neg hbase]
    by_cases hoauth : key ∈ oauthKeys
    · rw [if_pos hoauth, if_pos (h.oauth key hoauth hpresent)]
    · have hsigning : key ∈ signingKeys := (hknown.resolve_left hbase).resolve_left hoauth
      rw [if_neg hoauth, if_pos hsigning, if_pos (h.signing key hsigning hpresent)]

/-- Without a discovery URL the rebuilt environment has the rebuilt `mtls` object. -/
theorem lookup_mtls_rebuiltEnvironment (hnone : getField environment "discoveryUrl" = .null) :
    (rebuiltEnvironment environment).lookup "mtls" = rebuiltMtlsField environment := by
  have hapart : "mtls" ∉ oauthKeys ∧ "mtls" ∉ signingKeys := by decide
  rw [lookup_rebuiltEnvironment environment hnone, if_neg (by decide), if_neg hapart.1,
    if_neg hapart.2, if_pos rfl]

/-- No `mtls` object is rebuilt from none. -/
theorem rebuiltMtlsField_of_lookup_none (hlookup : environment.lookup "mtls" = none) :
    rebuiltMtlsField environment = none := by
  unfold rebuiltMtlsField
  rw [if_pos]
  refine eq_nil_iff_lookup.mpr fun key => ?_
  rw [lookup_rebuiltMtls, mtlsFields_of_lookup_none hlookup]
  split <;> rfl

/-- The exported `mtls` object has its four keys at most, and a flag. -/
theorem rebuiltMtlsField_cases {value : Json} (h : rebuiltMtlsField environment = some value) :
    ∃ mtls, value = .obj mtls ∧
      (∀ key ∈ mtls.map Prod.fst, key ∈ ["enabled", "certificatePath", "privateKeyPath",
        "caBundlePath"]) ∧
      ∃ flag, getField mtls "enabled" = .bool flag := by
  unfold rebuiltMtlsField at h
  split at h
  · cases h
  obtain rfl := Option.some.inj h
  refine ⟨_, rfl, ?_, ⟨_, by rw [getField_setField, if_pos rfl]⟩⟩
  intro key hkey
  rcases mem_keys_setField.mp hkey with rfl | hkey
  · exact List.mem_cons_self
  · rw [← lookup_isSome_iff_mem_keys, lookup_rebuiltMtls] at hkey
    split at hkey
    · have hpaths : ∀ key ∈ mtlsPathKeys, key ∈ ["enabled", "certificatePath", "privateKeyPath",
          "caBundlePath"] := by decide
      exact hpaths key ‹_›
    · cases hkey

/-- Which fields the exported section can have. -/
theorem rebuiltEnvironment_cases (hnone : getField environment "discoveryUrl" = .null)
    {key : String} (h : (rebuiltEnvironment environment).lookup key ≠ none) :
    key = "mtls" ∨ usable environment key ≠ none ∧
      (key = "resourceBaseUrl" ∨ key ∈ oauthKeys ∧ OauthComplete environment ∨
        key ∈ signingKeys ∧ SigningComplete environment) := by
  rw [lookup_rebuiltEnvironment environment hnone] at h
  split at h
  · exact .inr ⟨h, .inl ‹_›⟩
  split at h
  · split at h
    · exact .inr ⟨h, .inr (.inl ⟨‹_›, ‹_›⟩)⟩
    · exact absurd rfl h
  split at h
  · split at h
    · exact .inr ⟨h, .inr (.inr ⟨‹_›, ‹_›⟩)⟩
    · exact absurd rfl h
  split at h
  · exact .inl ‹_›
  · exact absurd rfl h

/-- A section whose fields all have their counterparts survives. -/
theorem survives_of_rel (hdecoded : Json.Decoded (.obj environment))
    (hnone : getField environment "discoveryUrl" = .null)
    (hmtls : ∀ value, environment.lookup "mtls" = some value →
      ∃ mtls, value = .obj mtls ∧ AcceptedMtls mtls)
    (h : ∀ key, Option.Rel (fun x y => Json.pyEq x y = true) (environment.lookup key)
      ((rebuiltEnvironment environment).lookup key)) :
    Survives environment := by
  -- every field has a counterpart, and only some fields can have one
  have hcases : ∀ key ∈ environment.map Prod.fst, key = "mtls" ∨
      usable environment key ≠ none ∧ (key = "resourceBaseUrl" ∨
        key ∈ oauthKeys ∧ OauthComplete environment ∨
        key ∈ signingKeys ∧ SigningComplete environment) := by
    intro key hkey
    refine rebuiltEnvironment_cases hnone fun hrebuilt => ?_
    obtain ⟨value, hvalue⟩ := Option.isSome_iff_exists.mp (lookup_isSome_iff_mem_keys.mpr hkey)
    have hrel := h key
    rw [hvalue, hrebuilt] at hrel
    cases hrel
  refine ⟨?_, ?_, ?_, ?_⟩
  · intro field hfield
    have hlookup := lookup_of_mem hdecoded.nodup hfield
    rcases hcases field.1 (List.mem_map_of_mem hfield) with hkey | ⟨husable, hkey⟩
    · rw [hkey] at hlookup
      obtain ⟨mtls, heq, -⟩ := hmtls field.2 hlookup
      exact ⟨by rw [heq]; rfl, by simp [hkey]⟩
    · refine ⟨?_, ?_⟩
      · by_contra hblank
        simp [usable, getField, hlookup, hblank] at husable
      · simp only [List.cons_append, List.mem_cons, List.mem_append]
        tauto
  · intro key hoauth hpresent
    have hapart : ∀ key ∈ oauthKeys, key ≠ "mtls" ∧ key ≠ "resourceBaseUrl" ∧
        key ∉ signingKeys := by decide
    obtain ⟨hmtlsKey, hbase, hsigning⟩ := hapart key hoauth
    have hkey := (hcases key hpresent).resolve_left hmtlsKey
    exact ((hkey.2.resolve_left hbase).resolve_right fun hsign => hsigning hsign.1).2
  · intro key hsigning hpresent
    have hapart : ∀ key ∈ signingKeys, key ≠ "mtls" ∧ key ≠ "resourceBaseUrl" ∧
        key ∉ oauthKeys := by decide
    obtain ⟨hmtlsKey, hbase, hoauth⟩ := hapart key hsigning
    have hkey := (hcases key hpresent).resolve_left hmtlsKey
    exact ((hkey.2.resolve_left hbase).resolve_left fun hauth => hoauth hauth.1).2
  · intro hpresent
    obtain ⟨value, hvalue⟩ := Option.isSome_iff_exists.mp
      (lookup_isSome_iff_mem_keys.mpr hpresent)
    obtain ⟨mtls, rfl, haccepted⟩ := hmtls value hvalue
    have hfields := mtlsFields_of_lookup hvalue
    have hrel := h "mtls"
    rw [hvalue, lookup_mtls_rebuiltEnvironment hnone,
      rel_rebuiltMtlsField_iff (hdecoded.of_lookup hvalue) haccepted hfields] at hrel
    rwa [hfields]

/-- The fields of a section that survives all have their counterparts. -/
theorem Survives.rel (h : Survives environment) (hdecoded : Json.Decoded (.obj environment))
    (hnone : getField environment "discoveryUrl" = .null)
    (hmtls : ∀ value, environment.lookup "mtls" = some value →
      ∃ mtls, value = .obj mtls ∧ AcceptedMtls mtls)
    (key : String) : Option.Rel (fun x y => Json.pyEq x y = true) (environment.lookup key)
      ((rebuiltEnvironment environment).lookup key) := by
  by_cases hkey : key = "mtls"
  · rw [hkey, lookup_mtls_rebuiltEnvironment hnone]
    cases hvalue : environment.lookup "mtls" with
    | none =>
      rw [rebuiltMtlsField_of_lookup_none hvalue]
      exact .none
    | some value =>
      obtain ⟨mtls, rfl, haccepted⟩ := hmtls value hvalue
      have hfields := mtlsFields_of_lookup hvalue
      rw [rel_rebuiltMtlsField_iff (hdecoded.of_lookup hvalue) haccepted hfields, ← hfields]
      exact h.mtls (lookup_isSome_iff_mem_keys.mp (by rw [hvalue]; rfl))
  · rw [h.lookup_eq hnone hkey]
    exact hdecoded.rel_lookup key

/-- Without a discovery URL the exported section equals the parsed one exactly when it
    survives. -/
theorem pyEq_rebuiltEnvironment_iff (hdecoded : Json.Decoded (.obj environment))
    (hnone : getField environment "discoveryUrl" = .null)
    (hmtls : ∀ value, environment.lookup "mtls" = some value →
      ∃ mtls, value = .obj mtls ∧ AcceptedMtls mtls) :
    Json.pyEq (.obj environment) (.obj (rebuiltEnvironment environment)) = true ↔
      Survives environment := by
  have hnodup : ((rebuiltEnvironment environment).map Prod.fst).Nodup :=
    nodup_keys_securityEnvironmentFromPlanConfig _
  rw [Json.pyEq_obj_iff hdecoded.nodup hnodup]
  exact ⟨survives_of_rel hdecoded hnone hmtls, fun h => h.rel hdecoded hnone hmtls⟩

/-! ## The config of the exported section -/

/-- A run of copies reads nothing but its own keys. -/
theorem copyOptionalTopLevelValues_congr {source source' : JsonObject}
    {keys : List (String × String)} (target : JsonObject)
    (h : ∀ pair ∈ keys, getField source pair.1 = getField source' pair.1) :
    copyOptionalTopLevelValues target source keys =
      copyOptionalTopLevelValues target source' keys := by
  unfold copyOptionalTopLevelValues
  refine List.foldl_ext _ _ _ fun target pair hpair => ?_
  simp only [copyOptionalTopLevelValue, h pair hpair]

/-- The `mtls` object that survives has the paths it had. -/
theorem Survives.getField_mtls (h : Survives environment)
    (hnone : getField environment "discoveryUrl" = .null)
    (hmtls : ∀ value, environment.lookup "mtls" = some value →
      ∃ mtls, value = .obj mtls ∧ AcceptedMtls mtls) {key : String} (hkey : key ∈ mtlsPathKeys) :
    getField (mtlsFields (rebuiltEnvironment environment)) key =
      getField (mtlsFields environment) key := by
  have henabled : "enabled" ∉ mtlsPathKeys := by decide
  have hne : key ≠ "enabled" := by
    rintro rfl
    exact henabled hkey
  cases hvalue : environment.lookup "mtls" with
  | none =>
    have hrebuilt := lookup_mtls_rebuiltEnvironment hnone
    rw [rebuiltMtlsField_of_lookup_none hvalue] at hrebuilt
    rw [mtlsFields_of_lookup_none hrebuilt, mtlsFields_of_lookup_none hvalue]
  | some value =>
    obtain ⟨mtls, rfl, haccepted⟩ := hmtls value hvalue
    have hfields := mtlsFields_of_lookup hvalue
    have hsurvives := h.mtls (lookup_isSome_iff_mem_keys.mp (by rw [hvalue]; rfl))
    rw [hfields] at hsurvives
    have hrebuilt : mtlsFields (rebuiltEnvironment environment) =
        setField (rebuiltMtls environment) "enabled"
          (.bool (((rebuiltMtls environment).lookup "certificatePath").isSome &&
            ((rebuiltMtls environment).lookup "privateKeyPath").isSome)) := by
      rw [mtlsFields, getField, lookup_mtls_rebuiltEnvironment hnone, rebuiltMtlsField,
        if_neg (rebuiltMtls_ne_nil haccepted hsurvives hfields)]
      rfl
    rw [hrebuilt, getField_setField, if_neg hne, hfields, getField, lookup_rebuiltMtls, if_pos hkey,
      hfields, haccepted.usable_eq hsurvives.nonNull hkey, getField]

/-- A section that survives leads to the config it came from. -/
theorem Survives.config_eq (h : Survives environment)
    (hnone : getField environment "discoveryUrl" = .null)
    (hmtls : ∀ value, environment.lookup "mtls" = some value →
      ∃ mtls, value = .obj mtls ∧ AcceptedMtls mtls) :
    configFromSecurityEnvironment (rebuiltEnvironment environment) =
      configFromSecurityEnvironment environment := by
  have hget : ∀ key, key ≠ "mtls" →
      getField (rebuiltEnvironment environment) key = getField environment key := by
    intro key hkey
    rw [getField, h.lookup_eq hnone hkey, getField]
  have hcopies : ∀ keys : List (String × String), (∀ pair ∈ keys, pair.1 ≠ "mtls") →
      copyOptionalTopLevelValues [] (rebuiltEnvironment environment) keys =
        copyOptionalTopLevelValues [] environment keys := fun keys hkeys =>
    copyOptionalTopLevelValues_congr [] fun pair hpair => hget pair.1 (hkeys pair hpair)
  have htls : tlsConfigFromSecurityEnvironment (rebuiltEnvironment environment) =
      tlsConfigFromSecurityEnvironment environment := by
    unfold tlsConfigFromSecurityEnvironment
    refine copyOptionalTopLevelValues_congr [] fun pair hpair => ?_
    have hpaths : ∀ pair ∈ [("caBundlePath", "caBundlePath"),
        ("certificatePath", "clientCertificatePath"), ("privateKeyPath", "clientPrivateKeyPath")],
        pair.1 ∈ mtlsPathKeys := by decide
    exact h.getField_mtls hnone hmtls (hpaths pair hpair)
  unfold configFromSecurityEnvironment
  rw [htls]
  unfold oauthConfigFromSecurityEnvironment fapiSigningConfigFromSecurityEnvironment
    resourceServerConfigFromSecurityEnvironment discoveryUrlConfig copyOptionalTopLevelValue
  rw [hcopies _ (by decide), hcopies _ (by decide), hget _ (by decide), hget _ (by decide)]

end Config

end Conformance.PlanConfig
