import Conformance.ForStd.Except
import Conformance.ForStd.List
import Conformance.Spec.JsonObjects
import Conformance.Spec.PosixPaths

/-!
# The configuration of a DCR run

A DCR plan is parsed into a typed configuration, flattened to dotted runtime inputs and parsed
again when the run starts. The second parse finds the first configuration, its reporting metadata
apart, exactly when no configured path ends in white space.

## Key results

- `parseDcrPlanConfiguration_eq_ok`: what a configuration that was parsed was read from
- `lookup_security`, `lookup_mtls`, `lookup_dcr`: where a dotted key ends up
- `parseDcrExecutionRuntimeInputs_iff`: the round trip
-/

namespace Conformance.PlanConfiguration

open PlanConfig

/-! ## What the readers return -/

section Readers

variable {fields : JsonObject} {key location : String} {urls : UrlText}

/-- A text as the readers return it. -/
def IsRead (text : String) : Prop := strip text = text ∧ text ≠ ""

theorem refuse_eq_ok {p : Prop} [Decidable p] {message : String} {u : Unit} :
    refuse p message = .ok u ↔ ¬ p := Except.raiseIf_eq_ok

/-- A string that is read is one that is read again. -/
theorem optionalString_isRead {value : Option String}
    (h : optionalString fields key location = .ok value) :
    ∀ text, value = some text → IsRead text := by
  rintro text rfl
  unfold optionalString at h
  split at h
  · cases h
  · split at h
    · cases h
    · rename_i raw _ hne
      obtain rfl := Option.some.inj (Except.ok.inj h)
      exact ⟨strip_strip raw, hne⟩
  · cases h

/-- A string that can be read again is read from its field. -/
theorem optionalString_of_field {value : Option String} (hfield : getField fields key =
    textOrNull value) (hvalue : ∀ text, value = some text → IsRead text) :
    optionalString fields key location = .ok value := by
  unfold optionalString
  rw [hfield]
  cases value with
  | none => rfl
  | some text =>
    obtain ⟨hstrip, hne⟩ := hvalue text rfl
    simp [textOrNull, hstrip, hne]

/-- A path as the readers return it. -/
def IsReadPath (path : PosixPath) : Prop := path.Canonical ∧ path.isAbsolute = true

/-- A path that is read is one that is read again. -/
theorem optionalAbsolutePath_isRead {value : Option PosixPath}
    (h : optionalAbsolutePath fields key location = .ok value) :
    ∀ path, value = some path → IsReadPath path := by
  rintro path rfl
  unfold optionalAbsolutePath at h
  obtain ⟨text, -, h⟩ := Except.bind_eq_ok.mp h
  cases text with
  | none => cases h
  | some text =>
    obtain ⟨_, habsolute, h⟩ := Except.bind_eq_ok.mp h
    obtain rfl := Option.some.inj (Except.ok.inj h)
    exact ⟨PosixPath.canonical_ofText text, Bool.not_eq_false _ ▸ refuse_eq_ok.mp habsolute⟩

/-- A path is read from its own text exactly when no white space surrounds it. -/
theorem optionalAbsolutePath_of_field {value : Option PosixPath} (hfield : getField fields key =
    textOrNull (value.map PosixPath.text)) (hvalue : ∀ path, value = some path → IsReadPath path) :
    optionalAbsolutePath fields key location = .ok value ↔
      ∀ path, value = some path → strip path.text = path.text := by
  cases value with
  | none =>
    refine iff_of_true ?_ nofun
    have hnone : optionalString fields key location = .ok none :=
      optionalString_of_field hfield nofun
    exact Except.bind_eq_ok.mpr ⟨none, hnone, rfl⟩
  | some path =>
    obtain ⟨hcanonical, habsolute⟩ := hvalue path rfl
    unfold optionalAbsolutePath
    constructor
    -- a path that is read from the stripped text was not padded
    · intro h other hother
      obtain rfl := Option.some.inj hother
      obtain ⟨text, htext, h⟩ := Except.bind_eq_ok.mp h
      cases text with
      | none => cases h
      | some text =>
        obtain ⟨_, -, h⟩ := Except.bind_eq_ok.mp h
        have hpath := Option.some.inj (Except.ok.inj h)
        unfold optionalString at htext
        rw [hfield] at htext
        simp only [textOrNull, Option.map_some, Option.getD_some] at htext
        split at htext
        · cases htext
        · rw [← Option.some.inj (Except.ok.inj htext)] at hpath
          exact PosixPath.strip_text_of_ofText habsolute hpath
    · intro h
      have hstrip := h path rfl
      -- an absolute path has a root, so its text is not empty
      have hne : path.text ≠ "" := by
        rw [PosixPath.text_of_absolute habsolute]
        intro hempty
        have hlist := congrArg String.toList hempty
        rw [String.toList_ofList] at hlist
        have hroot : path.root ≠ [] := of_decide_eq_true habsolute
        exact hroot (List.append_eq_nil_iff.mp hlist).1
      refine Except.bind_eq_ok.mpr ⟨some path.text, optionalString_of_field hfield ?_, ?_⟩
      · exact fun text htext => Option.some.inj htext ▸ ⟨hstrip, hne⟩
      · refine Except.bind_eq_ok.mpr ⟨(), refuse_eq_ok.mpr ?_, ?_⟩
        · rw [PosixPath.ofText_text hcanonical habsolute]
          simp [habsolute]
        · rw [PosixPath.ofText_text hcanonical habsolute]
          rfl

/-- A URL is read as a string that passes the check. -/
theorem optionalHttpsUrl_eq_ok {value : Option String} :
    optionalHttpsUrl urls fields key location = .ok value ↔
      optionalString fields key location = .ok value ∧
        ∀ url, value = some url →
          urlChecked (validateHttpsUrl urls url s!"{location}.{key}") = .ok () := by
  unfold optionalHttpsUrl
  rw [Except.bind_eq_ok]
  constructor
  · rintro ⟨text, htext, h⟩
    cases text with
    | none =>
      obtain rfl := Except.ok.inj h
      exact ⟨htext, nofun⟩
    | some text =>
      obtain ⟨⟨⟩, hchecked, h⟩ := Except.bind_eq_ok.mp h
      obtain rfl := Except.ok.inj h
      exact ⟨htext, fun url hurl => Option.some.inj hurl ▸ hchecked⟩
  · rintro ⟨htext, hchecked⟩
    refine ⟨value, htext, ?_⟩
    cases value with
    | none => rfl
    | some url => exact Except.bind_eq_ok.mpr ⟨(), hchecked url rfl, rfl⟩

/-- Redirects that are read are some, and each can be read again. -/
theorem redirectTexts_isRead {value : Json} {redirects : List String}
    (h : redirectTexts value = some redirects) :
    redirects ≠ [] ∧ ∀ redirect ∈ redirects, IsRead redirect := by
  unfold redirectTexts at h
  split at h
  · cases h
  · rename_i items hne
    have hforall := List.mapM_eq_some_iff_forall₂.mp h
    constructor
    · rintro rfl
      cases hforall
      exact hne rfl
    · intro redirect hmem
      obtain ⟨item, -, hitem⟩ := List.Forall₂.exists_of_mem_right hforall hmem
      split at hitem
      · split at hitem
        · cases hitem
        · rename_i raw hraw
          obtain rfl := Option.some.inj hitem
          exact ⟨strip_strip raw, hraw⟩
      · cases hitem
  · cases h

/-- Redirects that can be read again are read from their list. -/
theorem redirectTexts_map {redirects : List String} (hne : redirects ≠ [])
    (h : ∀ redirect ∈ redirects, IsRead redirect) :
    redirectTexts (.arr (redirects.map Json.str)) = some redirects := by
  obtain ⟨first, rest, rfl⟩ := List.exists_cons_of_ne_nil hne
  simp only [List.map_cons, redirectTexts]
  rw [List.mapM_eq_some_iff_forall₂, ← List.map_cons, List.forall₂_map_left_iff]
  refine List.forall₂_same.mpr fun redirect hmem => ?_
  obtain ⟨hstrip, hempty⟩ := h redirect hmem
  simp [hstrip, hempty]

/-- The redirects of a configuration, read from a field. -/
theorem optionalRedirectUris_isRead {redirects : List String}
    (h : optionalRedirectUris urls fields = .ok redirects) :
    (∀ redirect ∈ redirects, IsRead redirect) ∧ ∀ redirect ∈ redirects,
      urlChecked (validateOauthRedirectUri urls redirect
        "dynamicClientRegistration.redirectUrisOverride") = .ok () := by
  unfold optionalRedirectUris at h
  split at h
  · obtain rfl := Except.ok.inj h
    exact ⟨nofun, nofun⟩
  · split at h
    · cases h
    · rename_i found hfound
      obtain ⟨⟨⟩, hchecked, h⟩ := Except.bind_eq_ok.mp h
      obtain rfl := Except.ok.inj h
      exact ⟨(redirectTexts_isRead hfound).2, List.forM_eq_ok.mp hchecked⟩

/-- Redirect overrides that were accepted are accepted again. -/
theorem optionalRedirectUris_of_field {redirects : List String}
    (hfield : getField fields "redirectUrisOverride" =
      if redirects = [] then .null else .arr (redirects.map Json.str))
    (hread : ∀ redirect ∈ redirects, IsRead redirect)
    (hchecked : ∀ redirect ∈ redirects, urlChecked (validateOauthRedirectUri urls redirect
      "dynamicClientRegistration.redirectUrisOverride") = .ok ()) :
    optionalRedirectUris urls fields = .ok redirects := by
  unfold optionalRedirectUris
  rw [hfield]
  by_cases hne : redirects = []
  · simp [hne]
  · simp only [hne, if_false, redirectTexts_map hne hread]
    exact Except.bind_eq_ok.mpr ⟨(), List.forM_eq_ok.mpr hchecked, rfl⟩

/-- A boolean is read from its field. -/
theorem optionalBoolean_of_field {value default : Bool}
    (hfield : getField fields key = .bool value) :
    optionalBoolean fields key location default = .ok value := by
  unfold optionalBoolean
  rw [hfield]

theorem clientAuthMethodOf_text (method : ClientAuthMethod) :
    clientAuthMethodOf method.text = some method := by
  cases method <;> decide

/-- A method is parsed from its text. -/
theorem parseClientAuthMethod_text (method : Option ClientAuthMethod) :
    parseClientAuthMethod (method.map ClientAuthMethod.text) = .ok method := by
  cases method with
  | none => rfl
  | some method => simp [parseClientAuthMethod, clientAuthMethodOf_text]

theorem isRead_text (method : ClientAuthMethod) : IsRead method.text := by
  cases method <;> exact ⟨by decide +kernel, by decide⟩

end Readers

/-! ## What a configuration was read from -/

section Parsed

variable {urls : UrlText} {security dcr metadata : JsonObject}

/-- The shared part of a configuration, read from its sections. -/
structure ReadsShared (urls : UrlText) (security mtls metadata : JsonObject)
    (shared : SharedPlanConfiguration) : Prop where
  discoveryUrl : optionalHttpsUrl urls security "discoveryUrl" "securityEnvironment" =
    .ok shared.discoveryUrl
  nested : mtlsFields security = .ok mtls
  certificatePath : optionalAbsolutePath mtls "certificatePath" "securityEnvironment.mtls" =
    .ok shared.mtls.clientCertificatePath
  privateKeyPath : optionalAbsolutePath mtls "privateKeyPath" "securityEnvironment.mtls" =
    .ok shared.mtls.clientPrivateKeyPath
  together : shared.mtls.clientCertificatePath.isNone = shared.mtls.clientPrivateKeyPath.isNone
  method : ∃ text, optionalString security "clientAuthMethod" "securityEnvironment" = .ok text ∧
    parseClientAuthMethod text = .ok shared.clientAuthMethod
  caBundlePath : optionalAbsolutePath mtls "caBundlePath" "securityEnvironment.mtls" =
    .ok shared.mtls.caBundlePath
  signingKey : optionalAbsolutePath security "signingPrivateKeyPath" "securityEnvironment" =
    .ok shared.signing.privateKeyPath
  keyId : optionalString security "signingKeyId" "securityEnvironment" = .ok shared.signing.keyId
  algorithm : optionalString security "clientAuthSigningAlgorithm" "securityEnvironment" =
    .ok shared.signing.algorithm
  aspspName : optionalString metadata "aspspName" "metadata" = .ok shared.metadata.aspspName
  brandName : optionalString metadata "brandName" "metadata" = .ok shared.metadata.brandName
  environmentName : optionalString metadata "environmentName" "metadata" =
    .ok shared.metadata.environmentName

/-- What a shared configuration that is accepted is read from. -/
theorem parseSharedPlanConfiguration_eq_ok {shared : SharedPlanConfiguration} :
    parseSharedPlanConfiguration urls security metadata = .ok shared ↔
      ∃ mtls, ReadsShared urls security mtls metadata shared := by
  unfold parseSharedPlanConfiguration
  constructor
  · intro h
    obtain ⟨_, hdiscovery, h⟩ := Except.bind_eq_ok.mp h
    obtain ⟨mtls, hmtls, h⟩ := Except.bind_eq_ok.mp h
    obtain ⟨_, hcertificate, h⟩ := Except.bind_eq_ok.mp h
    obtain ⟨_, hprivateKey, h⟩ := Except.bind_eq_ok.mp h
    obtain ⟨_, htogether, h⟩ := Except.bind_eq_ok.mp h
    obtain ⟨text, htext, h⟩ := Except.bind_eq_ok.mp h
    obtain ⟨_, hmethod, h⟩ := Except.bind_eq_ok.mp h
    obtain ⟨_, hcaBundle, h⟩ := Except.bind_eq_ok.mp h
    obtain ⟨_, hsigningKey, h⟩ := Except.bind_eq_ok.mp h
    obtain ⟨_, hkeyId, h⟩ := Except.bind_eq_ok.mp h
    obtain ⟨_, halgorithm, h⟩ := Except.bind_eq_ok.mp h
    obtain ⟨_, haspsp, h⟩ := Except.bind_eq_ok.mp h
    obtain ⟨_, hbrand, h⟩ := Except.bind_eq_ok.mp h
    obtain ⟨_, hname, h⟩ := Except.bind_eq_ok.mp h
    obtain rfl := Except.ok.inj h
    exact ⟨mtls, hdiscovery, hmtls, hcertificate, hprivateKey,
      not_not.mp (refuse_eq_ok.mp htogether), ⟨text, htext, hmethod⟩, hcaBundle, hsigningKey,
      hkeyId, halgorithm, haspsp, hbrand, hname⟩
  · rintro ⟨mtls, h⟩
    obtain ⟨text, htext, hmethod⟩ := h.method
    refine Except.bind_eq_ok.mpr ⟨_, h.discoveryUrl, Except.bind_eq_ok.mpr ⟨_, h.nested, ?_⟩⟩
    refine Except.bind_eq_ok.mpr ⟨_, h.certificatePath, ?_⟩
    refine Except.bind_eq_ok.mpr ⟨_, h.privateKeyPath, ?_⟩
    refine Except.bind_eq_ok.mpr ⟨(), refuse_eq_ok.mpr (not_not.mpr h.together), ?_⟩
    refine Except.bind_eq_ok.mpr ⟨_, htext, Except.bind_eq_ok.mpr ⟨_, hmethod, ?_⟩⟩
    refine Except.bind_eq_ok.mpr ⟨_, h.caBundlePath, Except.bind_eq_ok.mpr ⟨_, h.signingKey, ?_⟩⟩
    refine Except.bind_eq_ok.mpr ⟨_, h.keyId, Except.bind_eq_ok.mpr ⟨_, h.algorithm, ?_⟩⟩
    refine Except.bind_eq_ok.mpr ⟨_, h.aspspName, Except.bind_eq_ok.mpr ⟨_, h.brandName, ?_⟩⟩
    exact Except.bind_eq_ok.mpr ⟨_, h.environmentName, rfl⟩

/-- The DCR part of a configuration, read from its section. -/
structure ReadsDcr (urls : UrlText) (dcr : JsonObject)
    (config : DynamicClientRegistrationConfig) : Prop where
  statement : optionalAbsolutePath dcr "softwareStatementAssertionPath"
    "dynamicClientRegistration" = .ok (some config.softwareStatementAssertionPath)
  audience : optionalString dcr "registrationAudience" "dynamicClientRegistration" =
    .ok (some config.registrationAudience)
  base62 : isBase62 config.registrationAudience = true
  issuer : optionalString dcr "registrationIssuerOverride" "dynamicClientRegistration" =
    .ok config.registrationIssuerOverride
  redirects : optionalRedirectUris urls dcr = .ok config.redirectUrisOverride
  subjectDn : optionalString dcr "transportCertificateSubjectDnOverride"
    "dynamicClientRegistration" = .ok config.transportCertificateSubjectDnOverride
  subjectDnText : ¬ config.transportCertificateSubjectDnOverride.any
    (fun subjectDn => !isSubjectDnText subjectDn) = true
  certificate : optionalAbsolutePath dcr "signingCertificatePath" "dynamicClientRegistration" =
    .ok config.signingCertificatePath
  numericOids : optionalBoolean dcr "useNumericOidSubjectDn" "dynamicClientRegistration" false =
    .ok config.useNumericOidSubjectDn
  keepAlive : optionalBoolean dcr "disableKeepAlive" "dynamicClientRegistration" false =
    .ok config.disableKeepAlive

/-- An audience is accepted exactly when it is given in base 62. -/
theorem parseAudience_eq_ok {value : Option String} {audience : String} :
    parseAudience value = .ok audience ↔ value = some audience ∧ isBase62 audience = true := by
  unfold parseAudience
  cases value with
  | none => simp
  | some text =>
    by_cases htext : isBase62 text = true
    · simp only [htext, if_true, Except.ok.injEq, Option.some.injEq]
      exact ⟨fun h => ⟨h, h ▸ htext⟩, fun h => h.1⟩
    · simp only [htext, if_false, reduceCtorEq, Option.some.injEq, false_iff, not_and]
      exact fun h => h ▸ htext

/-- A required path is a path that is given. -/
theorem requiredAbsolutePath_eq_ok {fields : JsonObject} {key location : String}
    {path : PosixPath} : requiredAbsolutePath fields key location = .ok path ↔
      optionalAbsolutePath fields key location = .ok (some path) := by
  unfold requiredAbsolutePath
  rw [Except.bind_eq_ok]
  constructor
  · rintro ⟨value, hvalue, h⟩
    cases value with
    | none => cases h
    | some found => exact Except.ok.inj h ▸ hvalue
  · exact fun h => ⟨_, h, rfl⟩

/-- What a configuration that is accepted is read from. -/
theorem parseDcrPlanConfiguration_eq_ok {config : DcrPlanConfiguration} :
    parseDcrPlanConfiguration urls security dcr metadata = .ok config ↔
      (∃ mtls, ReadsShared urls security mtls metadata config.shared) ∧
        checkRequiredShared config.shared = .ok () ∧
          ReadsDcr urls dcr config.dynamicClientRegistration := by
  rw [← parseSharedPlanConfiguration_eq_ok]
  unfold parseDcrPlanConfiguration
  constructor
  · intro h
    obtain ⟨_, hshared, h⟩ := Except.bind_eq_ok.mp h
    obtain ⟨⟨⟩, hrequired, h⟩ := Except.bind_eq_ok.mp h
    obtain ⟨_, hstatement, h⟩ := Except.bind_eq_ok.mp h
    obtain ⟨_, haudience, h⟩ := Except.bind_eq_ok.mp h
    obtain ⟨_, hparsed, h⟩ := Except.bind_eq_ok.mp h
    obtain ⟨_, hissuer, h⟩ := Except.bind_eq_ok.mp h
    obtain ⟨_, hredirects, h⟩ := Except.bind_eq_ok.mp h
    obtain ⟨_, hsubjectDn, h⟩ := Except.bind_eq_ok.mp h
    obtain ⟨_, hsubjectDnText, h⟩ := Except.bind_eq_ok.mp h
    obtain ⟨_, hcertificate, h⟩ := Except.bind_eq_ok.mp h
    obtain ⟨_, hnumericOids, h⟩ := Except.bind_eq_ok.mp h
    obtain ⟨_, hkeepAlive, h⟩ := Except.bind_eq_ok.mp h
    obtain rfl := Except.ok.inj h
    obtain ⟨rfl, hbase62⟩ := parseAudience_eq_ok.mp hparsed
    exact ⟨hshared, hrequired, requiredAbsolutePath_eq_ok.mp hstatement, haudience, hbase62,
      hissuer, hredirects, hsubjectDn, refuse_eq_ok.mp hsubjectDnText, hcertificate, hnumericOids,
      hkeepAlive⟩
  · rintro ⟨hshared, hrequired, h⟩
    refine Except.bind_eq_ok.mpr ⟨_, hshared, Except.bind_eq_ok.mpr ⟨(), hrequired, ?_⟩⟩
    refine Except.bind_eq_ok.mpr ⟨_, requiredAbsolutePath_eq_ok.mpr h.statement, ?_⟩
    refine Except.bind_eq_ok.mpr ⟨_, h.audience, ?_⟩
    refine Except.bind_eq_ok.mpr ⟨_, parseAudience_eq_ok.mpr ⟨rfl, h.base62⟩, ?_⟩
    refine Except.bind_eq_ok.mpr ⟨_, h.issuer, Except.bind_eq_ok.mpr ⟨_, h.redirects, ?_⟩⟩
    refine Except.bind_eq_ok.mpr ⟨_, h.subjectDn, ?_⟩
    refine Except.bind_eq_ok.mpr ⟨(), refuse_eq_ok.mpr h.subjectDnText, ?_⟩
    refine Except.bind_eq_ok.mpr ⟨_, h.certificate, Except.bind_eq_ok.mpr ⟨_, h.numericOids, ?_⟩⟩
    exact Except.bind_eq_ok.mpr ⟨_, h.keepAlive, rfl⟩

end Parsed

/-! ## Dotted keys -/

section Dotted

variable {start key rest : String}

/-- What follows a prefix is the rest of the key. -/
theorem afterPrefix_eq_some : afterPrefix start key = some rest ↔ key = start ++ rest := by
  unfold afterPrefix
  have hdrop : ∀ tail : List Char, key.toList = start.toList ++ tail →
      key.toList.drop start.length = tail := by
    intro tail heq
    rw [heq, ← String.length_toList, List.drop_left]
  split
  · rename_i hprefix
    obtain ⟨tail, htail⟩ := List.isPrefixOf_iff_prefix.mp hprefix
    rw [hdrop tail htail.symm, Option.some.injEq, ← String.toList_inj, ← String.toList_inj,
      String.toList_append, String.toList_ofList, ← htail]
    exact ⟨fun h => congrArg _ h, fun h => List.append_cancel_left h⟩
  · rename_i hprefix
    simp only [reduceCtorEq, false_iff]
    rintro rfl
    exact hprefix (List.isPrefixOf_iff_prefix.mpr ⟨rest.toList, by rw [String.toList_append]⟩)

theorem afterPrefix_append : afterPrefix start (start ++ rest) = some rest :=
  afterPrefix_eq_some.mpr rfl

/-- Keys with one prefix are compared without it. -/
theorem ite_append_eq {other : String} {α : Type} (x y : α) :
    (if start ++ other = start ++ key then x else y) = if key = other then x else y := by
  by_cases hkey : key = other
  · simp [hkey]
  · rw [if_neg hkey, if_neg fun heq => hkey ((String.append_right_inj _).mp heq).symm]

/-- Where an entry of the runtime inputs is put. -/
theorem addDotted_security (sections : DottedSections) (entry : String × Json)
    (hkey : afterPrefix "mtls." key = none) :
    (addDotted sections entry).security.lookup key =
      if entry.1 = "securityEnvironment." ++ key then some entry.2
      else sections.security.lookup key := by
  unfold addDotted
  split
  · rename_i other hother
    rw [if_neg]
    intro heq
    have hother := afterPrefix_eq_some.mp hother
    have hsplit : "securityEnvironment." ++ key = "securityEnvironment." ++ ("mtls." ++ other) := by
      rw [← heq, hother, ← String.append_assoc]
      rfl
    rw [(String.append_right_inj _).mp hsplit, afterPrefix_append] at hkey
    cases hkey
  · split
    · rename_i other hother
      rw [lookup_setField, afterPrefix_eq_some.mp hother, ite_append_eq]
    · rename_i hother
      have hne : entry.1 ≠ "securityEnvironment." ++ key := by
        intro heq
        rw [heq, afterPrefix_append] at hother
        cases hother
      rw [if_neg hne]
      split <;> rfl

/-- A dotted entry below `mtls` is a field of that section. -/
theorem addDotted_mtls (sections : DottedSections) (entry : String × Json) :
    (addDotted sections entry).mtls.lookup key =
      if entry.1 = "securityEnvironment.mtls." ++ key then some entry.2
      else sections.mtls.lookup key := by
  unfold addDotted
  split
  · rename_i other hother
    rw [lookup_setField, afterPrefix_eq_some.mp hother, ite_append_eq]
  · rename_i hother
    have hne : entry.1 ≠ "securityEnvironment.mtls." ++ key := by
      intro heq
      rw [heq, afterPrefix_append] at hother
      cases hother
    rw [if_neg hne]
    split
    · rfl
    · split <;> rfl

/-- The two prefixes begin with different letters. -/
theorem security_ne_dcr {first : String} (hfirst : first.toList.head? = some 's') :
    first ++ rest ≠ "dynamicClientRegistration." ++ key := by
  intro heq
  have hhead := congrArg (fun text : String => text.toList.head?) heq
  simp [String.toList_append, List.head?_append, hfirst] at hhead

/-- A dotted entry of the registration is a field of its section. -/
theorem addDotted_dcr (sections : DottedSections) (entry : String × Json) :
    (addDotted sections entry).dcr.lookup key =
      if entry.1 = "dynamicClientRegistration." ++ key then some entry.2
      else sections.dcr.lookup key := by
  unfold addDotted
  split
  · rename_i other hother
    rw [if_neg (afterPrefix_eq_some.mp hother ▸ security_ne_dcr rfl)]
  · split
    · rename_i other hother
      rw [if_neg (afterPrefix_eq_some.mp hother ▸ security_ne_dcr rfl)]
    · split
      · rename_i other hother
        rw [lookup_setField, afterPrefix_eq_some.mp hother, ite_append_eq]
      · rename_i hother
        rw [if_neg]
        intro heq
        rw [heq, afterPrefix_append] at hother
        cases hother

/-- A section that takes the entries of one key holds the last of them. -/
theorem lookup_foldl_addDotted {f : DottedSections → Option Json} {full : String}
    (hread : ∀ sections entry, f (addDotted sections entry) =
      if entry.1 = full then some entry.2 else f sections)
    {entries : JsonObject} (hnodup : (entries.map Prod.fst).Nodup) (sections : DottedSections) :
    f (entries.foldl addDotted sections) = (entries.lookup full).or (f sections) := by
  induction entries generalizing sections with
  | nil => rfl
  | cons entry rest ih =>
    obtain ⟨hnotMem, hrest⟩ := List.nodup_cons.mp hnodup
    rw [List.foldl_cons, ih hrest, hread, List.lookup_cons]
    by_cases hfull : entry.1 = full
    · have hnone : rest.lookup full = none := by
        rw [List.lookup_eq_none_iff]
        intro other hmem
        refine bne_iff_ne.mpr fun heq => hnotMem (List.mem_map.mpr ⟨other, hmem, ?_⟩)
        exact heq.symm.trans hfull.symm
      rw [if_pos hfull, hnone, hfull, beq_self_eq_true]
      rfl
    · rw [if_neg hfull, beq_false_of_ne (Ne.symm hfull)]

end Dotted

/-- The keys of the runtime inputs of a DCR run. -/
def dottedKeys : List String :=
  ["securityEnvironment.discoveryUrl", "securityEnvironment.mtls.certificatePath",
    "securityEnvironment.mtls.privateKeyPath", "securityEnvironment.signingPrivateKeyPath",
    "securityEnvironment.signingKeyId", "securityEnvironment.clientAuthMethod",
    "dynamicClientRegistration.softwareStatementAssertionPath",
    "dynamicClientRegistration.registrationAudience",
    "dynamicClientRegistration.useNumericOidSubjectDn",
    "dynamicClientRegistration.disableKeepAlive", "securityEnvironment.mtls.caBundlePath",
    "securityEnvironment.clientAuthSigningAlgorithm",
    "dynamicClientRegistration.registrationIssuerOverride",
    "dynamicClientRegistration.signingCertificatePath",
    "dynamicClientRegistration.transportCertificateSubjectDnOverride",
    "dynamicClientRegistration.redirectUrisOverride"]

theorem keys_optionalEntry (key : String) (value : Option Json) :
    ((optionalEntry key value).map Prod.fst).Sublist [key] := by
  cases value <;> simp [optionalEntry]

/-- The runtime inputs have the dotted keys, in their order. -/
theorem keys_dcrExecutionRuntimeInputs (config : DcrPlanConfiguration) :
    ((dcrExecutionRuntimeInputs config).map Prod.fst).Sublist dottedKeys := by
  unfold dcrExecutionRuntimeInputs
  simp only [List.map_append, List.append_assoc]
  refine List.Sublist.append (List.Sublist.refl _) ?_
  refine (keys_optionalEntry _ _).append ((keys_optionalEntry _ _).append
    ((keys_optionalEntry _ _).append ((keys_optionalEntry _ _).append
      ((keys_optionalEntry _ _).append ?_))))
  split <;> simp

/-- `dcr_execution_runtime_inputs`, as the mapping that it returns. -/
def dottedInputs (config : DcrPlanConfiguration) : Dict String Json :=
  ⟨dcrExecutionRuntimeInputs config,
    (keys_dcrExecutionRuntimeInputs config).nodup (by decide)⟩

/-- An entry that may be left out is found under its key. -/
theorem lookup_optionalEntry (key other : String) (value : Option Json) :
    (optionalEntry key value).lookup other = if other = key then value else none := by
  cases value with
  | none => simp [optionalEntry]
  | some found =>
    by_cases hkey : other = key
    · simp [optionalEntry, hkey]
    · simp [optionalEntry, List.lookup_cons, hkey, beq_false_of_ne hkey]

/-- An entry under a condition is found under its key. -/
theorem lookup_ite_singleton {p : Prop} [Decidable p] (key other : String) (value : Json) :
    (if p then [] else [(key, value)] : JsonObject).lookup other =
      if other = key ∧ ¬ p then some value else none := by
  by_cases hp : p
  · simp [hp]
  · by_cases hkey : other = key
    · simp [hp, hkey]
    · simp [hp, hkey, List.lookup_cons, beq_false_of_ne hkey]

/-! ## The round trip -/

/-- The configuration without its reporting metadata. -/
def withoutMetadata (config : DcrPlanConfiguration) : DcrPlanConfiguration :=
  { config with shared := { config.shared with metadata := ⟨none, none, none⟩ } }

/-- The paths of a configuration. -/
def configuredPaths (config : DcrPlanConfiguration) : List PosixPath :=
  [config.shared.mtls.clientCertificatePath, config.shared.mtls.clientPrivateKeyPath,
    config.shared.mtls.caBundlePath, config.shared.signing.privateKeyPath,
    some config.dynamicClientRegistration.softwareStatementAssertionPath,
    config.dynamicClientRegistration.signingCertificatePath].filterMap id

/-- No white space surrounds the text of a path. -/
def Unpadded (path : Option PosixPath) : Prop :=
  ∀ found, path = some found → strip found.text = found.text

/-- The paths of a configuration, one by one. -/
theorem forall_mem_configuredPaths {config : DcrPlanConfiguration} :
    (∀ path ∈ configuredPaths config, strip path.text = path.text) ↔
      Unpadded config.shared.mtls.clientCertificatePath ∧
      Unpadded config.shared.mtls.clientPrivateKeyPath ∧
      Unpadded config.shared.mtls.caBundlePath ∧
      Unpadded config.shared.signing.privateKeyPath ∧
      Unpadded (some config.dynamicClientRegistration.softwareStatementAssertionPath) ∧
      Unpadded config.dynamicClientRegistration.signingCertificatePath := by
  simp only [configuredPaths, List.mem_filterMap, id, List.mem_cons, List.not_mem_nil, or_false,
    exists_eq_right, or_imp, forall_and, Unpadded, eq_comm]

/-- What a DCR run must be configured with is there. -/
structure Required (shared : SharedPlanConfiguration) : Prop where
  certificate : shared.mtls.clientCertificatePath ≠ none
  privateKey : shared.mtls.clientPrivateKeyPath ≠ none
  signingKey : shared.signing.privateKeyPath ≠ none

/-- The check of the shared configuration makes its parts present. -/
theorem required_of_check {shared : SharedPlanConfiguration}
    (h : checkRequiredShared shared = .ok ()) : Required shared := by
  obtain ⟨_, -, h⟩ := Except.bind_eq_ok.mp h
  obtain ⟨_, hmtls, h⟩ := Except.bind_eq_ok.mp h
  obtain ⟨_, hsigning, -⟩ := Except.bind_eq_ok.mp h
  obtain ⟨hcertificate, hprivateKey⟩ := not_or.mp (refuse_eq_ok.mp hmtls)
  exact ⟨hcertificate, hprivateKey, refuse_eq_ok.mp hsigning⟩

/-- The text of a path that is there. -/
theorem pathText_of_ne_none {path : Option PosixPath} (h : path ≠ none) :
    pathText path = textOrNull (path.map PosixPath.text) := by
  cases path with
  | none => exact absurd rfl h
  | some path => rfl

/-- The sections that the runtime inputs of a configuration are sorted into. -/
abbrev sectionsOf (config : DcrPlanConfiguration) : DottedSections :=
  (dottedInputs config).entries.foldl addDotted {}

section Sections

variable (config : DcrPlanConfiguration) {key : String}

/-- A field of the security section comes from its dotted input. -/
theorem lookup_security (hkey : afterPrefix "mtls." key = none) :
    (sectionsOf config).security.lookup key =
      (dcrExecutionRuntimeInputs config).lookup ("securityEnvironment." ++ key) :=
  (lookup_foldl_addDotted (f := fun sections => sections.security.lookup key)
    (fun sections entry => addDotted_security sections entry hkey) (dottedInputs config).nodup
    {}).trans (Option.or_none ..)

/-- A field of the `mtls` section comes from its dotted input. -/
theorem lookup_mtls : (sectionsOf config).mtls.lookup key =
    (dcrExecutionRuntimeInputs config).lookup ("securityEnvironment.mtls." ++ key) :=
  (lookup_foldl_addDotted (f := fun sections => sections.mtls.lookup key)
    addDotted_mtls (dottedInputs config).nodup {}).trans (Option.or_none ..)

/-- A field of the registration section comes from its dotted input. -/
theorem lookup_dcr : (sectionsOf config).dcr.lookup key =
    (dcrExecutionRuntimeInputs config).lookup ("dynamicClientRegistration." ++ key) :=
  (lookup_foldl_addDotted (f := fun sections => sections.dcr.lookup key)
    addDotted_dcr (dottedInputs config).nodup {}).trans (Option.or_none ..)

end Sections

/-- The fields of a configuration, where the second parse looks for them. -/
structure Rebuilt (config : DcrPlanConfiguration) (security mtls dcr : JsonObject) : Prop where
  discoveryUrl : getField security "discoveryUrl" = textOrNull config.shared.discoveryUrl
  nested : mtlsFields security = .ok mtls
  certificatePath : getField mtls "certificatePath" =
    textOrNull (config.shared.mtls.clientCertificatePath.map PosixPath.text)
  privateKeyPath : getField mtls "privateKeyPath" =
    textOrNull (config.shared.mtls.clientPrivateKeyPath.map PosixPath.text)
  caBundlePath : getField mtls "caBundlePath" =
    textOrNull (config.shared.mtls.caBundlePath.map PosixPath.text)
  method : getField security "clientAuthMethod" =
    textOrNull (config.shared.clientAuthMethod.map ClientAuthMethod.text)
  signingKey : getField security "signingPrivateKeyPath" =
    textOrNull (config.shared.signing.privateKeyPath.map PosixPath.text)
  keyId : getField security "signingKeyId" = textOrNull config.shared.signing.keyId
  algorithm : getField security "clientAuthSigningAlgorithm" =
    textOrNull config.shared.signing.algorithm
  statement : getField dcr "softwareStatementAssertionPath" = textOrNull
    (some config.dynamicClientRegistration.softwareStatementAssertionPath.text)
  audience : getField dcr "registrationAudience" =
    textOrNull (some config.dynamicClientRegistration.registrationAudience)
  issuer : getField dcr "registrationIssuerOverride" =
    textOrNull config.dynamicClientRegistration.registrationIssuerOverride
  redirects : getField dcr "redirectUrisOverride" =
    if config.dynamicClientRegistration.redirectUrisOverride = [] then .null
    else .arr (config.dynamicClientRegistration.redirectUrisOverride.map Json.str)
  subjectDn : getField dcr "transportCertificateSubjectDnOverride" =
    textOrNull config.dynamicClientRegistration.transportCertificateSubjectDnOverride
  certificate : getField dcr "signingCertificatePath" = textOrNull
    (config.dynamicClientRegistration.signingCertificatePath.map PosixPath.text)
  numericOids : getField dcr "useNumericOidSubjectDn" =
    .bool config.dynamicClientRegistration.useNumericOidSubjectDn
  keepAlive : getField dcr "disableKeepAlive" =
    .bool config.dynamicClientRegistration.disableKeepAlive

/-- The sections that are rebuilt hold what the configuration does. -/
theorem rebuilt_sectionsOf {config : DcrPlanConfiguration} (hrequired : Required config.shared) :
    Rebuilt config (setField (sectionsOf config).security "mtls" (.obj (sectionsOf config).mtls))
      (sectionsOf config).mtls (sectionsOf config).dcr := by
  -- each section reads the inputs whose names begin with its own
  have hsecurity : ∀ key, key ≠ "mtls" → afterPrefix "mtls." key = none →
      getField (setField (sectionsOf config).security "mtls" (.obj (sectionsOf config).mtls)) key =
        ((dcrExecutionRuntimeInputs config).lookup ("securityEnvironment." ++ key)).getD .null := by
    intro key hne hkey
    rw [getField_setField, if_neg hne, getField, lookup_security config hkey]
  have hmtls : ∀ key, getField (sectionsOf config).mtls key =
      ((dcrExecutionRuntimeInputs config).lookup ("securityEnvironment.mtls." ++ key)).getD .null :=
    fun key => by rw [getField, lookup_mtls config]
  have hdcr : ∀ key, getField (sectionsOf config).dcr key =
      ((dcrExecutionRuntimeInputs config).lookup ("dynamicClientRegistration." ++ key)).getD
        .null := fun key => by rw [getField, lookup_dcr config]
  constructor
  case nested => rw [mtlsFields, getField_setField, if_pos rfl]
  case discoveryUrl =>
    rw [hsecurity _ (by decide) (by decide)]
    simp [dcrExecutionRuntimeInputs]
  case certificatePath =>
    rw [hmtls, ← pathText_of_ne_none hrequired.certificate]
    simp [dcrExecutionRuntimeInputs, List.lookup_cons]
  case privateKeyPath =>
    rw [hmtls, ← pathText_of_ne_none hrequired.privateKey]
    simp [dcrExecutionRuntimeInputs, List.lookup_cons]
  case caBundlePath =>
    rw [hmtls, textOrNull, Option.map_map]
    simp [dcrExecutionRuntimeInputs, List.lookup_append, List.lookup_cons, lookup_optionalEntry,
      lookup_ite_singleton, Function.comp_def]
  case method =>
    rw [hsecurity _ (by decide) (by decide)]
    simp [dcrExecutionRuntimeInputs, List.lookup_cons]
  case signingKey =>
    rw [hsecurity _ (by decide) (by decide), ← pathText_of_ne_none hrequired.signingKey]
    simp [dcrExecutionRuntimeInputs, List.lookup_cons]
  case keyId =>
    rw [hsecurity _ (by decide) (by decide)]
    simp [dcrExecutionRuntimeInputs, List.lookup_cons]
  case algorithm =>
    rw [hsecurity _ (by decide) (by decide), textOrNull]
    simp [dcrExecutionRuntimeInputs, List.lookup_append, List.lookup_cons, lookup_optionalEntry,
      lookup_ite_singleton]
  case statement =>
    rw [hdcr, textOrNull]
    simp [dcrExecutionRuntimeInputs, List.lookup_cons]
  case audience =>
    rw [hdcr, textOrNull]
    simp [dcrExecutionRuntimeInputs, List.lookup_cons]
  case issuer =>
    rw [hdcr, textOrNull]
    simp [dcrExecutionRuntimeInputs, List.lookup_append, List.lookup_cons, lookup_optionalEntry,
      lookup_ite_singleton]
  case redirects =>
    rw [hdcr]
    simp [dcrExecutionRuntimeInputs, List.lookup_append, List.lookup_cons, lookup_optionalEntry,
      lookup_ite_singleton]
    split <;> rfl
  case subjectDn =>
    rw [hdcr, textOrNull]
    simp [dcrExecutionRuntimeInputs, List.lookup_append, List.lookup_cons, lookup_optionalEntry,
      lookup_ite_singleton]
  case certificate =>
    rw [hdcr, textOrNull, Option.map_map]
    simp [dcrExecutionRuntimeInputs, List.lookup_append, List.lookup_cons, lookup_optionalEntry,
      lookup_ite_singleton, Function.comp_def]
  case numericOids =>
    rw [hdcr]
    simp [dcrExecutionRuntimeInputs, List.lookup_cons]
  case keepAlive =>
    rw [hdcr]
    simp [dcrExecutionRuntimeInputs, List.lookup_cons]

/-- A configuration that was parsed is parsed again, without its reporting metadata, exactly when
    no white space surrounds the texts of its paths. -/
theorem parseDcrExecutionRuntimeInputs_iff {urls : UrlText} {security dcr metadata : JsonObject}
    {config : DcrPlanConfiguration}
    (hparse : parseDcrPlanConfiguration urls security dcr metadata = .ok config) :
    parseDcrExecutionRuntimeInputs urls (dottedInputs config) = .ok (withoutMetadata config) ↔
      ∀ path ∈ configuredPaths config, strip path.text = path.text := by
  obtain ⟨⟨mtls, hshared⟩, hchecked, hdcr⟩ := parseDcrPlanConfiguration_eq_ok.mp hparse
  have hrebuilt := rebuilt_sectionsOf (required_of_check hchecked)
  -- the mTLS section is there, since a configuration names its certificate
  have hne : (sectionsOf config).mtls ≠ [] := by
    intro hempty
    have hcertificate := hrebuilt.certificatePath
    rw [hempty] at hcertificate
    obtain ⟨path, hpath⟩ := Option.ne_none_iff_exists'.mp (required_of_check hchecked).certificate
    rw [hpath] at hcertificate
    cases hcertificate
  unfold parseDcrExecutionRuntimeInputs
  simp only [hne, if_false]
  rw [parseDcrPlanConfiguration_eq_ok]
  -- each of the six paths is read back exactly when it has no white space around it
  have hcertificate : optionalAbsolutePath (sectionsOf config).mtls "certificatePath"
      "securityEnvironment.mtls" = .ok config.shared.mtls.clientCertificatePath ↔
        Unpadded config.shared.mtls.clientCertificatePath :=
    optionalAbsolutePath_of_field hrebuilt.certificatePath
      (optionalAbsolutePath_isRead hshared.certificatePath)
  have hprivateKey : optionalAbsolutePath (sectionsOf config).mtls "privateKeyPath"
      "securityEnvironment.mtls" = .ok config.shared.mtls.clientPrivateKeyPath ↔
        Unpadded config.shared.mtls.clientPrivateKeyPath :=
    optionalAbsolutePath_of_field hrebuilt.privateKeyPath
      (optionalAbsolutePath_isRead hshared.privateKeyPath)
  have hcaBundle : optionalAbsolutePath (sectionsOf config).mtls "caBundlePath"
      "securityEnvironment.mtls" = .ok config.shared.mtls.caBundlePath ↔
        Unpadded config.shared.mtls.caBundlePath :=
    optionalAbsolutePath_of_field hrebuilt.caBundlePath
      (optionalAbsolutePath_isRead hshared.caBundlePath)
  have hsigningKey : optionalAbsolutePath (setField (sectionsOf config).security "mtls"
      (.obj (sectionsOf config).mtls)) "signingPrivateKeyPath" "securityEnvironment" =
        .ok config.shared.signing.privateKeyPath ↔
          Unpadded config.shared.signing.privateKeyPath :=
    optionalAbsolutePath_of_field hrebuilt.signingKey
      (optionalAbsolutePath_isRead hshared.signingKey)
  have hstatement : optionalAbsolutePath (sectionsOf config).dcr
      "softwareStatementAssertionPath" "dynamicClientRegistration" =
        .ok (some config.dynamicClientRegistration.softwareStatementAssertionPath) ↔
          Unpadded (some config.dynamicClientRegistration.softwareStatementAssertionPath) :=
    optionalAbsolutePath_of_field hrebuilt.statement (optionalAbsolutePath_isRead hdcr.statement)
  have hsigningCertificate : optionalAbsolutePath (sectionsOf config).dcr
      "signingCertificatePath" "dynamicClientRegistration" =
        .ok config.dynamicClientRegistration.signingCertificatePath ↔
          Unpadded config.dynamicClientRegistration.signingCertificatePath :=
    optionalAbsolutePath_of_field hrebuilt.certificate
      (optionalAbsolutePath_isRead hdcr.certificate)
  rw [forall_mem_configuredPaths]
  constructor
  · rintro ⟨⟨nested, hagain⟩, -, hagainDcr⟩
    obtain rfl := Except.ok.inj (hrebuilt.nested.symm.trans hagain.nested)
    exact ⟨hcertificate.mp hagain.certificatePath, hprivateKey.mp hagain.privateKeyPath,
      hcaBundle.mp hagain.caBundlePath, hsigningKey.mp hagain.signingKey,
      hstatement.mp hagainDcr.statement, hsigningCertificate.mp hagainDcr.certificate⟩
  · rintro ⟨hpath₁, hpath₂, hpath₃, hpath₄, hpath₅, hpath₆⟩
    -- the other fields are texts that were stripped once, so stripping keeps them
    obtain ⟨hurl, hurlChecked⟩ := optionalHttpsUrl_eq_ok.mp hshared.discoveryUrl
    obtain ⟨hredirects, hredirectsChecked⟩ := optionalRedirectUris_isRead hdcr.redirects
    refine ⟨⟨(sectionsOf config).mtls, ?_⟩, hchecked, ?_⟩
    · exact {
        discoveryUrl := optionalHttpsUrl_eq_ok.mpr ⟨optionalString_of_field hrebuilt.discoveryUrl
          (optionalString_isRead hurl), hurlChecked⟩
        nested := hrebuilt.nested
        certificatePath := hcertificate.mpr hpath₁
        privateKeyPath := hprivateKey.mpr hpath₂
        together := hshared.together
        method := ⟨config.shared.clientAuthMethod.map ClientAuthMethod.text,
          optionalString_of_field hrebuilt.method (fun text htext => by
            obtain ⟨method, -, rfl⟩ := Option.map_eq_some_iff.mp htext
            exact isRead_text method), parseClientAuthMethod_text _⟩
        caBundlePath := hcaBundle.mpr hpath₃
        signingKey := hsigningKey.mpr hpath₄
        keyId := optionalString_of_field hrebuilt.keyId (optionalString_isRead hshared.keyId)
        algorithm := optionalString_of_field hrebuilt.algorithm
          (optionalString_isRead hshared.algorithm)
        aspspName := rfl
        brandName := rfl
        environmentName := rfl }
    · exact {
        statement := hstatement.mpr hpath₅
        audience := optionalString_of_field hrebuilt.audience (optionalString_isRead hdcr.audience)
        base62 := hdcr.base62
        issuer := optionalString_of_field hrebuilt.issuer (optionalString_isRead hdcr.issuer)
        redirects := optionalRedirectUris_of_field hrebuilt.redirects hredirects hredirectsChecked
        subjectDn := optionalString_of_field hrebuilt.subjectDn
          (optionalString_isRead hdcr.subjectDn)
        subjectDnText := hdcr.subjectDnText
        certificate := hsigningCertificate.mpr hpath₆
        numericOids := optionalBoolean_of_field hrebuilt.numericOids
        keepAlive := optionalBoolean_of_field hrebuilt.keepAlive }

/-- Sections of a plan whose transport key is a file with a blank at the end of its name. -/
def paddedSections : JsonObject × JsonObject :=
  ([("discoveryUrl", .str "https://a"),
    ("mtls", .obj [("certificatePath", .str "/c"), ("privateKeyPath", .str "/k /.")]),
    ("signingPrivateKeyPath", .str "/s"), ("signingKeyId", .str "kid"),
    ("clientAuthMethod", .str "tls_client_auth")],
    [("softwareStatementAssertionPath", .str "/a"), ("registrationAudience", .str "aspsp")])

/-- Letters in lower case. -/
def asciiUrls : UrlText := ⟨fun cs => cs.map Char.toLower, id, String.ofList⟩

/-- A configuration with a padded path is accepted. -/
theorem paddedSections_parsed :
    (parseDcrPlanConfiguration asciiUrls paddedSections.1 paddedSections.2 []).toOption.any
      (fun config => (configuredPaths config).any fun path => strip path.text ≠ path.text) =
        true := by
  decide +kernel

/-- It does not come back from its runtime inputs. -/
theorem parseDcrExecutionRuntimeInputs_padded : ∃ config,
    parseDcrPlanConfiguration asciiUrls paddedSections.1 paddedSections.2 [] = .ok config ∧
    parseDcrExecutionRuntimeInputs asciiUrls (dottedInputs config) ≠
      .ok (withoutMetadata config) := by
  obtain ⟨config, hparse, hpadded⟩ := Except.exists_ok_of_any paddedSections_parsed
  refine ⟨config, hparse, fun hagain => ?_⟩
  obtain ⟨path, hmem, hpath⟩ := List.any_eq_true.mp hpadded
  exact of_decide_eq_true hpath
    ((parseDcrExecutionRuntimeInputs_iff hparse).mp hagain path hmem)

end Conformance.PlanConfiguration
