import Conformance.Spec.SecurityEnvironmentExport

/-!
# The security environment of a config

A plan document without a discovery URL of its own exports the security environment
that its config leads to. Field by field it is a config field that is not blank, the
first one in the order of `environmentSources`; `discoveryUrl` and `mtls` have rules of
their own.

## Key results

- `lookup_securityEnvironmentFromPlanConfig`: the fields of the exported section
-/

namespace Conformance.PlanConfig

/-! ## Where the fields come from -/

/-- A field of a config section, unless it is `None` or a blank string. -/
def configField (config : JsonObject) (sectionKey field : String) : Option Json :=
  usable (fieldsOf (getField config sectionKey)) field

/-- The fields that come from the `fapiSigning` section, each with its name there. -/
def signingFields : List (String × String) :=
  [("clientAuthMethod", "tokenEndpointAuthMethod"),
    ("signingCertificatePath", "signingCertificatePath"),
    ("signingPrivateKeyPath", "signingPrivateKeyPath"),
    ("signingKeyId", "kid"),
    ("clientAssertionIssuer", "clientAssertionIssuer"),
    ("clientAssertionSubject", "clientAssertionSubject")]

/-- The fields that come from the `oauth` section. -/
def oauthFields : List (String × String) :=
  [("issuer", "issuer"),
    ("authorizationEndpoint", "authorizationEndpoint"),
    ("tokenEndpoint", "tokenEndpoint"),
    ("clientId", "clientId"),
    ("redirectUri", "redirectUri"),
    ("resourceBaseUrl", "resourceBaseUrl"),
    ("responseType", "responseType"),
    ("signingAlgorithm", "requestObjectSigningAlg")]

/-- The config sections with their fields; the first one that has a field counts. -/
def environmentSources : List (String × List (String × String)) :=
  [("resourceServer", [("resourceBaseUrl", "baseUrl")]), ("fapiSigning", signingFields),
    ("oauth", oauthFields)]

/-- The paths of an `mtls` object and the fields of the `tls` section they are taken from. -/
def mtlsSources : List (String × String) :=
  [("caBundlePath", "caBundlePath"), ("certificatePath", "clientCertificatePath"),
    ("privateKeyPath", "clientPrivateKeyPath")]

/-- The discovery URL of a config, stripped, unless it is blank. -/
def configuredDiscoveryUrl (config : JsonObject) : Option Json :=
  match getField config "discoveryUrl" with
  | .str discoveryUrl =>
    if strip discoveryUrl = "" then none else some (.str (strip discoveryUrl))
  | _ => none

/-- The paths of a config for mutual TLS. -/
def configuredMtlsPaths (config : JsonObject) : JsonObject :=
  mtlsSources.filterMap fun (name, field) =>
    (configField config "tls" field).map fun path => (name, path)

/-- The `mtls` object of a config that has such paths: a certificate and its key enable it. -/
def configuredMtls (config : JsonObject) : Option Json :=
  let paths := configuredMtlsPaths config
  if paths = [] then none
  else some (.obj (paths ++ [("enabled",
    .bool ((paths.lookup "certificatePath").isSome && (paths.lookup "privateKeyPath").isSome))]))

/-- The field of a security environment that a config leads to. -/
def configuredEnvironment (config : JsonObject) (name : String) : Option Json :=
  if name = "discoveryUrl" then configuredDiscoveryUrl config
  else if name = "mtls" then configuredMtls config
  else environmentSources.findSome? fun (sectionKey, fields) =>
    (fields.lookup name).bind (configField config sectionKey)

/-! ## Runs of copies -/

/-- What a run of copies to distinct keys leaves: the copied value, or what was there. -/
theorem lookup_copyOptionalTopLevelValues (target source : JsonObject)
    {keys : List (String × String)} (hnodup : (keys.map Prod.snd).Nodup) (key : String) :
    (copyOptionalTopLevelValues target source keys).lookup key =
      (((keys.map Prod.swap).lookup key).bind (usable source)).or (target.lookup key) := by
  cases hlookup : (keys.map Prod.swap).lookup key with
  | none =>
    rw [Option.bind_none, Option.none_or, lookup_copyOptionalTopLevelValues_of_notMem]
    intro hmem
    obtain ⟨pair, hpair, rfl⟩ := List.mem_map.mp hmem
    have hne := List.lookup_eq_none_iff.mp hlookup pair.swap (List.mem_map_of_mem hpair)
    simp at hne
  | some sourceKey =>
    obtain ⟨before, after, heq, -⟩ := List.lookup_eq_some_iff.mp hlookup
    have hmem : (key, sourceKey) ∈ keys.map Prod.swap := by simp [heq]
    obtain ⟨pair, hpair, hswap⟩ := List.mem_map.mp hmem
    rw [Option.bind_some, lookup_copyOptionalTopLevelValues_of_mem target source hnodup]
    rwa [← Prod.swap_swap pair, hswap] at hpair

/-- A run of copies to distinct new keys appends the fields that are not blank. -/
theorem copyOptionalTopLevelValues_eq_append (target source : JsonObject)
    {keys : List (String × String)} (hnodup : (target.map Prod.fst ++ keys.map Prod.snd).Nodup) :
    copyOptionalTopLevelValues target source keys =
      target ++ keys.filterMap fun pair => (usable source pair.1).map fun value => (pair.2, value) := by
  induction keys generalizing target with
  | nil => simp [copyOptionalTopLevelValues]
  | cons pair rest ih =>
    have hnew : pair.2 ∉ target.map Prod.fst := by
      intro hmem
      exact (List.nodup_append.mp hnodup).2.2 _ hmem _ List.mem_cons_self rfl
    have hcons : copyOptionalTopLevelValues target source (pair :: rest) =
        copyOptionalTopLevelValues (copyOptionalTopLevelValue target source pair.1 pair.2) source
          rest := rfl
    rw [hcons, copyOptionalTopLevelValue]
    by_cases hblank : isBlank (getField source pair.1) = true
    · have husable : usable source pair.1 = none := by rw [usable, if_pos hblank]
      rw [if_pos hblank, List.filterMap_cons, husable]
      exact ih target (hnodup.sublist (List.Sublist.append_left (List.sublist_cons_self _ _) _))
    · have husable : usable source pair.1 = some (getField source pair.1) := by
        rw [usable, if_neg hblank]
      rw [if_neg hblank, setField_of_notMem _ hnew, ih, List.filterMap_cons, husable]
      · simp
      · simpa using hnodup

/-! ## The exported section -/

/-- The section of the discovery URL has that member only. -/
theorem lookup_discoveryUrlSection (config : JsonObject) (name : String) :
    (discoveryUrlSection config).lookup name =
      if name = "discoveryUrl" then configuredDiscoveryUrl config else none := by
  unfold discoveryUrlSection configuredDiscoveryUrl
  cases getField config "discoveryUrl" with
  | str discoveryUrl =>
    by_cases hblank : strip discoveryUrl = "" <;> by_cases hname : name = "discoveryUrl" <;>
      simp [hblank, hname, List.lookup_cons, beq_eq_false_iff_ne.mpr]
  | null | bool _ | int _ | float _ | arr _ | obj _ => simp

/-- The paths that are copied for mutual TLS. -/
theorem mtlsExport_eq (config : JsonObject) :
    copyOptionalTopLevelValues [] (fieldsOf (getField config "tls")) [
        ("caBundlePath", "caBundlePath"),
        ("clientCertificatePath", "certificatePath"),
        ("clientPrivateKeyPath", "privateKeyPath")] = configuredMtlsPaths config := by
  rw [copyOptionalTopLevelValues_eq_append [] _ (by decide)]
  rfl

/-- The mTLS paths do not include the flag. -/
theorem enabled_notMem_configuredMtlsPaths (config : JsonObject) :
    "enabled" ∉ (configuredMtlsPaths config).map Prod.fst := by
  intro hmem
  obtain ⟨entry, hentry, hname⟩ := List.mem_map.mp hmem
  obtain ⟨pair, hpair, hvalue⟩ := List.mem_filterMap.mp hentry
  obtain ⟨value, -, rfl⟩ := Option.map_eq_some_iff.mp hvalue
  have hapart : ∀ pair ∈ mtlsSources, pair.1 ≠ "enabled" := by decide
  exact hapart pair hpair hname

/-- Merging the mTLS export of a configuration changes that member only. -/
theorem lookup_mergeMtlsExport_config (target config : JsonObject) (name : String) :
    (mergeMtlsExport target config).lookup name =
      if name = "mtls" then (configuredMtls config).or (target.lookup name)
      else target.lookup name := by
  unfold mergeMtlsExport configuredMtls
  simp only [mtlsExport_eq]
  by_cases hpaths : configuredMtlsPaths config = []
  · rw [if_pos hpaths, if_pos hpaths, Option.none_or, ite_self]
  · rw [if_neg hpaths, if_neg hpaths, lookup_setField,
      setField_of_notMem _ (enabled_notMem_configuredMtlsPaths config), Option.some_or]

/-- The fields of the section that a config leads to. -/
theorem lookup_securityEnvironmentFromPlanConfig (config : JsonObject) (name : String) :
    (securityEnvironmentFromPlanConfig config).lookup name = configuredEnvironment config name := by
  have hoauth : ∀ target : JsonObject, (copyOptionalTopLevelValues target
      (fieldsOf (getField config "oauth")) (oauthFields.map Prod.swap)).lookup name =
        ((oauthFields.lookup name).bind (configField config "oauth")).or (target.lookup name) :=
    fun target => lookup_copyOptionalTopLevelValues target _ (by decide) name
  have hsigning : ∀ target : JsonObject, (copyOptionalTopLevelValues target
      (fieldsOf (getField config "fapiSigning")) (signingFields.map Prod.swap)).lookup name =
        ((signingFields.lookup name).bind (configField config "fapiSigning")).or
          (target.lookup name) :=
    fun target => lookup_copyOptionalTopLevelValues target _ (by decide) name
  change (copyOptionalTopLevelValue (mergeMtlsExport (copyOptionalTopLevelValues
    (copyOptionalTopLevelValues (discoveryUrlSection config) (fieldsOf (getField config "oauth"))
      (oauthFields.map Prod.swap)) (fieldsOf (getField config "fapiSigning"))
    (signingFields.map Prod.swap)) config) (fieldsOf (getField config "resourceServer")) "baseUrl"
    "resourceBaseUrl").lookup name = _
  rw [lookup_copyOptionalTopLevelValue, lookup_mergeMtlsExport_config, hsigning, hoauth,
    lookup_discoveryUrlSection, ← configField]
  unfold configuredEnvironment environmentSources
  simp only [List.findSome?_cons, List.findSome?_nil]
  -- the four sources have different names, except those of the two tables of fields
  by_cases hurl : name = "discoveryUrl"
  · have hnone : signingFields.lookup "discoveryUrl" = none ∧
        oauthFields.lookup "discoveryUrl" = none := by decide
    simp [hurl, hnone.1, hnone.2]
  by_cases hmtls : name = "mtls"
  · have hnone : signingFields.lookup "mtls" = none ∧ oauthFields.lookup "mtls" = none := by decide
    simp [hmtls, hnone.1, hnone.2]
  rw [if_neg hurl, if_neg hurl, if_neg hmtls, if_neg hmtls, Option.or_none]
  by_cases hbase : name = "resourceBaseUrl"
  · subst hbase
    rw [if_pos rfl, List.lookup_cons_self, Option.bind_some]
    cases configField config "resourceServer" "baseUrl" <;>
      cases (signingFields.lookup "resourceBaseUrl").bind (configField config "fapiSigning") <;>
      cases (oauthFields.lookup "resourceBaseUrl").bind (configField config "oauth") <;> rfl
  · rw [if_neg hbase, List.lookup_cons, beq_eq_false_iff_ne.mpr hbase]
    simp only [List.lookup_nil, Option.bind_none]
    cases (signingFields.lookup name).bind (configField config "fapiSigning") <;>
      cases (oauthFields.lookup name).bind (configField config "oauth") <;> rfl

end Conformance.PlanConfig
