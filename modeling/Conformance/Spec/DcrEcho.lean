import Conformance.Spec.DcrConfigurationRoundTrip
import Conformance.Spec.DcrSafety
import Conformance.Spec.DevelopmentEvidence
import Conformance.Spec.DnsTargets
import Conformance.Spec.JsonObjects

/-!
# Registrations that are repeated

A bank that answers a registration with what was registered passes the validation of its answer
exactly when the redirects can be registered: short, distinct, and among those of the software
statement. So redirects of the participant's own that the statement lacks never pass.

## Key results

- `registered_of_build`: what the claims of a registration hold
- `readRegistrationResponse_echo`: what is read of an answer that repeats them
- `registration_echo_accepted_iff`
-/

namespace Conformance.DcrExecution

open PlanConfiguration PlanConfig

variable {environment : DcrEnvironment} {config : DcrPlanConfiguration}

/-! ## The claims of a registration -/

variable (environment config) in
/-- What the claims of a valid registration hold, for the claims of the software statement. -/
structure Registered (claims statement : JsonObject) (redirects : List String)
    (method : ClientAuthMethod) : Prop where
  configured : config.shared.clientAuthMethod = some method
  asserted : ∃ text, text ≠ "" ∧ claims.lookup "software_statement" = some (.str text) ∧
    decodeCompactJwtClaims environment text = .ok statement
  chosen : registrationRedirects config statement = .ok redirects
  checked : ∀ redirect ∈ redirects,
    validateOauthRedirectUri environment.urls redirect "DCR redirect_uri" = .ok ()
  listed : claims.lookup "redirect_uris" = some (.arr (redirects.map Json.str))
  applicationType : claims.lookup "application_type" = some (.str "web")
  grantTypes : claims.lookup "grant_types" =
    some (.arr [.str "client_credentials", .str "authorization_code"])
  responseTypes : claims.lookup "response_types" = some (.arr [.str "code id_token"])
  scope : claims.lookup "scope" = some (.str "accounts openid")
  authMethod : claims.lookup "token_endpoint_auth_method" = some (.str method.text)
  idToken : claims.lookup "id_token_signed_response_alg" = some (.str "PS256")
  requestObject : claims.lookup "request_object_signing_alg" = some (.str "PS256")
  subjectDn : method = .tlsClientAuth → ∃ subjectDn, validateDcrSubjectDn subjectDn = .ok () ∧
    claims.lookup "tls_client_auth_subject_dn" = some (.str subjectDn)
  algorithm : ClientAuthMethod.signsAssertion method = true →
    claims.lookup "token_endpoint_auth_signing_alg" = some (.str (requiredAlgorithm method))

/-- A URL is accepted exactly when its check passes. -/
theorem urlError_eq_ok {checked : Except PyError Unit} :
    urlError checked = .ok () ↔ checked = .ok () := by
  unfold urlError
  split
  · simp [dcrError]
  · rfl

/-- A statement that was read is not empty. -/
theorem readSsa_ne_empty {s s' : DcrWorld environment × DcrScenarioState} {text : String}
    (h : Effect.exec (readSsa environment config) s = (.ok text, s')) : text ≠ "" := by
  unfold readSsa at h
  obtain ⟨_, _, -, h⟩ := Effect.exec_bind_eq_ok.mp h
  obtain ⟨value, _, -, h⟩ := Effect.exec_bind_eq_ok.mp h
  obtain ⟨_, _, hrefuse, h⟩ := Effect.exec_bind_eq_ok.mp h
  obtain ⟨hvalue, -⟩ := Prod.mk.inj h
  have hkept := refuse_eq_ok.mp (Prod.mk.inj hrefuse).1
  exact Except.ok.inj hvalue ▸ hkept

/-- A subject name of the registration passes the checks, configured or derived. -/
theorem certificateSubjectDn_valid {s s' : DcrWorld environment × DcrScenarioState}
    {subjectDn : String}
    (h : Effect.exec (certificateSubjectDn environment config) s = (.ok subjectDn, s')) :
    validateDcrSubjectDn subjectDn = .ok () := by
  unfold certificateSubjectDn at h
  cases hoverride : config.dynamicClientRegistration.transportCertificateSubjectDnOverride with
  | some override =>
    simp only [hoverride, Option.elim_some] at h
    obtain ⟨⟨⟩, _, hvalid, h⟩ := Effect.exec_bind_eq_ok.mp h
    obtain rfl := Except.ok.inj (Prod.mk.inj h).1
    exact (Prod.mk.inj hvalid).1
  | none =>
    simp only [hoverride, Option.elim_none] at h
    obtain ⟨_, _, -, h⟩ := Effect.exec_bind_eq_ok.mp h
    obtain ⟨_, _, -, h⟩ := Effect.exec_bind_eq_ok.mp h
    obtain ⟨_, _, -, h⟩ := Effect.exec_bind_eq_ok.mp h
    obtain ⟨⟨⟩, _, hvalid, h⟩ := Effect.exec_bind_eq_ok.mp h
    obtain rfl := Except.ok.inj (Prod.mk.inj h).1
    exact (Prod.mk.inj hvalid).1

/-- What the method of client authentication adds to the claims. -/
theorem authMethodClaims_lookup {claims claims' : JsonObject} {method : ClientAuthMethod}
    {s s' : DcrWorld environment × DcrScenarioState}
    (h : Effect.exec (authMethodClaims environment config claims method) s = (.ok claims', s')) :
    (∀ key, key ≠ "tls_client_auth_subject_dn" → key ≠ "token_endpoint_auth_signing_alg" →
      claims'.lookup key = claims.lookup key) ∧
    (method = .tlsClientAuth → ∃ subjectDn, validateDcrSubjectDn subjectDn = .ok () ∧
      claims'.lookup "tls_client_auth_subject_dn" = some (.str subjectDn)) ∧
    (ClientAuthMethod.signsAssertion method = true →
      claims'.lookup "token_endpoint_auth_signing_alg" =
        some (.str (requiredAlgorithm method))) := by
  cases method with
  | tlsClientAuth =>
    obtain ⟨subjectDn, _, hsubject, h⟩ := Effect.exec_bind_eq_ok.mp h
    obtain rfl := Except.ok.inj (Prod.mk.inj h).1
    refine ⟨fun key hkey _ => by rw [lookup_setField, if_neg hkey], fun _ => ⟨subjectDn,
      certificateSubjectDn_valid hsubject, by rw [lookup_setField, if_pos rfl]⟩, nofun⟩
  | privateKeyJwt =>
    obtain rfl := Except.ok.inj (Prod.mk.inj h).1
    exact ⟨fun key _ hkey => by rw [lookup_setField, if_neg hkey], nofun,
      fun _ => by rw [lookup_setField, if_pos rfl]; rfl⟩
  | clientSecretJwt =>
    obtain rfl := Except.ok.inj (Prod.mk.inj h).1
    exact ⟨fun key _ hkey => by rw [lookup_setField, if_neg hkey], nofun,
      fun _ => by rw [lookup_setField, if_pos rfl]; rfl⟩
  | clientSecretBasic =>
    obtain rfl := Except.ok.inj (Prod.mk.inj h).1
    exact ⟨fun _ _ _ => rfl, nofun, nofun⟩

/-- What a valid registration registers. -/
theorem registered_of_build {s s' : DcrWorld environment × DcrScenarioState} {jose : String}
    {claims : JsonObject}
    (h : Effect.exec (buildRegistrationJose environment config "valid") s =
      (.ok (jose, claims), s')) :
    ∃ statement redirects method,
      Registered environment config claims statement redirects method := by
  unfold buildRegistrationJose at h
  obtain ⟨_, _, -, h⟩ := Effect.exec_bind_eq_ok.mp h
  obtain ⟨now, _, -, h⟩ := Effect.exec_bind_eq_ok.mp h
  obtain ⟨text, _, htext, h⟩ := Effect.exec_bind_eq_ok.mp h
  obtain ⟨statement, _, hstatement, h⟩ := Effect.exec_bind_eq_ok.mp h
  obtain ⟨issuer, _, -, h⟩ := Effect.exec_bind_eq_ok.mp h
  obtain ⟨redirects, _, hredirects, h⟩ := Effect.exec_bind_eq_ok.mp h
  obtain ⟨⟨⟩, _, hchecked, h⟩ := Effect.exec_bind_eq_ok.mp h
  obtain ⟨method, _, hmethod, h⟩ := Effect.exec_bind_eq_ok.mp h
  obtain ⟨jti, _, -, h⟩ := Effect.exec_bind_eq_ok.mp h
  obtain ⟨claims₁, _, hclaims, h⟩ := Effect.exec_bind_eq_ok.mp h
  obtain ⟨variant, _, hvariant, h⟩ := Effect.exec_bind_eq_ok.mp h
  obtain ⟨keyId, _, -, h⟩ := Effect.exec_bind_eq_ok.mp h
  obtain ⟨compact, _, -, h⟩ := Effect.exec_bind_eq_ok.mp h
  obtain rfl : variant = ("PS256", claims₁) :=
    (Except.ok.inj (Prod.mk.inj hvariant).1).symm
  obtain ⟨-, rfl⟩ := Prod.mk.inj (Except.ok.inj (Prod.mk.inj h).1)
  -- the claims of the method are added last and replace no other
  obtain ⟨hkept, hsubject, halgorithm⟩ := authMethodClaims_lookup hclaims
  refine ⟨statement, redirects, method, ?_⟩
  constructor
  case configured => exact orError_eq_ok.mp (Prod.mk.inj hmethod).1
  case asserted =>
    exact ⟨text, readSsa_ne_empty htext, (hkept _ (by decide) (by decide)).trans rfl,
      (Prod.mk.inj hstatement).1⟩
  case chosen => exact (Prod.mk.inj hredirects).1
  case checked =>
    intro redirect hmem
    exact urlError_eq_ok.mp (List.forM_eq_ok.mp (Prod.mk.inj hchecked).1 redirect hmem)
  case subjectDn => exact hsubject
  case algorithm => exact halgorithm
  all_goals exact (hkept _ (by decide) (by decide)).trans rfl

/-! ## The answer that repeats them -/

/-- The members of a registration that an answer repeats. -/
def repeatedMembers : List String :=
  ["application_type", "redirect_uris", "grant_types", "response_types", "scope",
    "software_statement", "token_endpoint_auth_method", "id_token_signed_response_alg",
    "request_object_signing_alg", "tls_client_auth_subject_dn", "token_endpoint_auth_signing_alg"]

/-- The members of an answer that no registration has, the secret apart. -/
def ownMembers : List String :=
  ["registration_client_uri", "registration_access_token", "client_id_issued_at",
    "client_secret_expires_at", "software_id"]

/-- An answer that issues a client id, and a secret at most, for the claims it repeats. -/
structure Echoes (claims body : JsonObject) (clientId : String) : Prop where
  client : body.lookup "client_id" = some (.str clientId)
  issued : clientId ≠ "" ∧ clientId.length ≤ 36
  repeated : ∀ key ∈ repeatedMembers, body.lookup key = claims.lookup key
  absent : ∀ key ∈ ownMembers, body.lookup key = none
  secret : ∀ value, body.lookup "client_secret" = some value →
    ∃ text : String, value = .str text ∧ text ≠ "" ∧ text.length ≤ 36

/-- Redirects that a registration response may list. -/
def Registrable (redirects : List String) : Prop :=
  redirects.Nodup ∧ ∀ redirect ∈ redirects, redirect ≠ "" ∧ redirect.length ≤ 256

section Readers

variable {body : JsonObject} {key location text : String}

theorem requiredString_of_lookup (h : body.lookup key = some (.str text)) (hne : text ≠ "") :
    requiredString body key location = .ok text := by
  simp [requiredString, getField, h, nonEmptyText?, hne]

/-- A list of texts is read when none of them is empty. -/
theorem nonEmptyTexts_map {texts : List String} :
    nonEmptyTexts? (.arr (texts.map Json.str)) =
      if ∀ text ∈ texts, text ≠ "" then some texts else none := by
  simp only [nonEmptyTexts?]
  induction texts with
  | nil => simp
  | cons first rest ih =>
    rw [List.map_cons, List.mapM_cons, ih]
    by_cases hfirst : first = ""
    · simp [nonEmptyText?, hfirst]
    · have hread : nonEmptyText? (.str first) = some first := by simp [nonEmptyText?, hfirst]
      rw [hread]
      have hcons : (∀ text ∈ first :: rest, text ≠ "") ↔ ∀ text ∈ rest, text ≠ "" := by
        simp [hfirst]
      by_cases hrest : ∀ text ∈ rest, text ≠ ""
      · rw [if_pos hrest, if_pos (hcons.mpr hrest)]
        rfl
      · rw [if_neg hrest, if_neg (hcons.not.mpr hrest)]
        rfl

/-- A list of texts is read from its field when it is not empty and none of them is. -/
theorem requiredStringArray_of_lookup {texts found : List String}
    (h : body.lookup key = some (.arr (texts.map Json.str))) :
    requiredStringArray body key location = .ok found ↔
      found = texts ∧ texts ≠ [] ∧ ∀ text ∈ texts, text ≠ "" := by
  simp only [requiredStringArray, getField, h, Option.getD_some, nonEmptyTexts_map, orError_eq_ok]
  by_cases htexts : ∀ text ∈ texts, text ≠ ""
  · rw [if_pos htexts, Option.filter_some]
    by_cases hne : texts = []
    · simp [hne]
    · simp only [hne, ne_eq, not_false_eq_true, decide_true, if_true, Option.some.injEq, true_and]
      exact ⟨fun heq => ⟨heq.symm, htexts⟩, fun heq => heq.1.symm⟩
  · simp [htexts]

end Readers

section Echo

variable {claims statement body : JsonObject} {redirects : List String}
  {method : ClientAuthMethod} {clientId : String}

/-- Some redirects are registered. -/
theorem Registered.redirects_ne_nil
    (h : Registered environment config claims statement redirects method) : redirects ≠ [] := by
  have hchosen := h.chosen
  unfold registrationRedirects at hchosen
  split at hchosen
  · exact of_decide_eq_true (Option.filter_eq_some_iff.mp (orError_eq_ok.mp hchosen)).2
  · rename_i hoverride
    exact Except.ok.inj hchosen ▸ hoverride

/-- The client id and the method of the answer are read. -/
theorem readIdentifiers_echo
    (hregistered : Registered environment config claims statement redirects method)
    (hecho : Echoes claims body clientId) :
    readIdentifiers environment config body = .ok (clientId, none, method) := by
  have hmethod : checkResponseMethod config body = .ok method := by
    have htext : requiredString body "token_endpoint_auth_method" "registration response" =
        .ok method.text :=
      requiredString_of_lookup ((hecho.repeated _ (by decide)).trans hregistered.authMethod)
        (by cases method <;> decide)
    refine Except.bind_eq_ok.mpr ⟨_, htext, Except.bind_eq_ok.mpr ⟨method, ?_, ?_⟩⟩
    · exact orError_eq_ok.mpr (clientAuthMethodOf_text method)
    · exact Except.bind_eq_ok.mpr ⟨method, orError_eq_ok.mpr hregistered.configured,
        Except.bind_eq_ok.mpr ⟨(), refuse_eq_ok.mpr (by simp), rfl⟩⟩
  have huri : readRegistrationUri environment body = .ok none := by
    simp [readRegistrationUri, hecho.absent "registration_client_uri" (by decide)]
  have htoken : optionalString body "registration_access_token" "registration response" =
      .ok none := by
    simp [optionalString, hecho.absent "registration_access_token" (by decide)]
  -- the bank adds no time stamp
  have htimes : ["client_id_issued_at", "client_secret_expires_at"].forM (checkTimestamp body) =
      .ok () := by
    refine List.forM_eq_ok.mpr fun key hkey => ?_
    have hown : key ∈ ownMembers := by
      rcases List.mem_pair.mp hkey with rfl | rfl <;> decide
    rw [checkTimestamp, hecho.absent key hown]
  obtain ⟨secret, hsecret, hshort⟩ : ∃ secret,
      optionalString body "client_secret" "registration response" = .ok secret ∧
        ¬ secret.any (fun secret => 36 < secret.length) = true := by
    cases hlookup : body.lookup "client_secret" with
    | none => exact ⟨none, by simp [optionalString, hlookup], by simp⟩
    | some value =>
      obtain ⟨text, rfl, hne, hlength⟩ := hecho.secret value hlookup
      exact ⟨some text, by simp [optionalString, hlookup, nonEmptyText?, hne, orError],
        by simpa using hlength⟩
  unfold readIdentifiers
  refine Except.bind_eq_ok.mpr ⟨_, requiredString_of_lookup hecho.client hecho.issued.1, ?_⟩
  refine Except.bind_eq_ok.mpr ⟨(), refuse_eq_ok.mpr (by have := hecho.issued.2; omega), ?_⟩
  refine Except.bind_eq_ok.mpr ⟨_, huri, Except.bind_eq_ok.mpr ⟨_, htoken, ?_⟩⟩
  refine Except.bind_eq_ok.mpr ⟨_, hmethod, Except.bind_eq_ok.mpr ⟨_, htimes, ?_⟩⟩
  exact Except.bind_eq_ok.mpr ⟨_, hsecret, Except.bind_eq_ok.mpr ⟨(), refuse_eq_ok.mpr hshort, rfl⟩⟩

/-- A redirect is accepted when it is short enough and valid. -/
theorem checkRedirect_eq_ok {redirect : String} :
    checkRedirect environment redirect = .ok () ↔ redirect.length ≤ 256 ∧
      validateOauthRedirectUri environment.urls redirect
        "registration response redirect_uri" = .ok () := by
  unfold checkRedirect
  rw [Except.bind_eq_ok]
  constructor
  · rintro ⟨_, hlength, hurl⟩
    exact ⟨not_lt.mp (refuse_eq_ok.mp hlength), urlError_eq_ok.mp hurl⟩
  · rintro ⟨hlength, hurl⟩
    exact ⟨(), refuse_eq_ok.mpr (not_lt.mpr hlength), urlError_eq_ok.mpr hurl⟩

/-- A redirect that was registered is a redirect that may be answered, whatever names it. -/
theorem validateOauthRedirectUri_label {text : UrlText} {value label other : String}
    (h : validateOauthRedirectUri text value label = .ok ()) :
    validateOauthRedirectUri text value other = .ok () := by
  rw [validateOauthRedirectUri_eq_ok] at h ⊢
  exact h.imp_left fun hurl => validateHttpsUrl_eq_ok.mpr (validateHttpsUrl_eq_ok.mp hurl)

/-- The redirects of the answer are read exactly when they may be registered. -/
theorem readRedirects_echo
    (hregistered : Registered environment config claims statement redirects method)
    (hecho : Echoes claims body clientId) {found : List String} :
    readRedirects environment body = .ok found ↔ found = redirects ∧ Registrable redirects := by
  have hweb : requiredString body "application_type" "registration response" = .ok "web" :=
    requiredString_of_lookup ((hecho.repeated _ (by decide)).trans hregistered.applicationType)
      (by decide)
  have hlisted : body.lookup "redirect_uris" = some (.arr (redirects.map Json.str)) :=
    (hecho.repeated _ (by decide)).trans hregistered.listed
  unfold readRedirects
  constructor
  · intro h
    obtain ⟨_, -, h⟩ := Except.bind_eq_ok.mp h
    obtain ⟨_, -, h⟩ := Except.bind_eq_ok.mp h
    obtain ⟨read, hread, h⟩ := Except.bind_eq_ok.mp h
    obtain ⟨rfl, -, hne⟩ := (requiredStringArray_of_lookup hlisted).mp hread
    obtain ⟨_, hnodup, h⟩ := Except.bind_eq_ok.mp h
    obtain ⟨⟨⟩, hchecked, h⟩ := Except.bind_eq_ok.mp h
    exact ⟨(Except.ok.inj h).symm, not_not.mp (refuse_eq_ok.mp hnodup), fun redirect hmem =>
      ⟨hne redirect hmem, (checkRedirect_eq_ok.mp (List.forM_eq_ok.mp hchecked redirect hmem)).1⟩⟩
  · rintro ⟨rfl, hnodup, hshort⟩
    refine Except.bind_eq_ok.mpr ⟨_, hweb, ?_⟩
    refine Except.bind_eq_ok.mpr ⟨(), refuse_eq_ok.mpr (by simp), ?_⟩
    refine Except.bind_eq_ok.mpr ⟨_, (requiredStringArray_of_lookup hlisted).mpr
      ⟨rfl, hregistered.redirects_ne_nil, fun redirect hmem => (hshort redirect hmem).1⟩, ?_⟩
    refine Except.bind_eq_ok.mpr ⟨(), refuse_eq_ok.mpr (not_not.mpr hnodup), ?_⟩
    refine Except.bind_eq_ok.mpr ⟨(), List.forM_eq_ok.mpr fun redirect hmem => ?_, rfl⟩
    exact checkRedirect_eq_ok.mpr ⟨(hshort redirect hmem).2,
      validateOauthRedirectUri_label (hregistered.checked redirect hmem)⟩

/-- The grant types of the answer are those that are registered. -/
theorem readGrantTypes_echo
    (hregistered : Registered environment config claims statement redirects method)
    (hecho : Echoes claims body clientId) :
    readGrantTypes body = .ok ["client_credentials", "authorization_code"] := by
  have hlisted : body.lookup "grant_types" =
      some (.arr (["client_credentials", "authorization_code"].map Json.str)) :=
    (hecho.repeated _ (by decide)).trans hregistered.grantTypes
  refine Except.bind_eq_ok.mpr ⟨_, (requiredStringArray_of_lookup hlisted).mpr
    ⟨rfl, by decide, by decide⟩, ?_⟩
  exact Except.bind_eq_ok.mpr ⟨(), refuse_eq_ok.mpr (by decide),
    Except.bind_eq_ok.mpr ⟨(), refuse_eq_ok.mpr (by decide), rfl⟩⟩

/-- So are its response types. -/
theorem readResponseTypes_echo
    (hregistered : Registered environment config claims statement redirects method)
    (hecho : Echoes claims body clientId) :
    readResponseTypes body = .ok ["code id_token"] := by
  have hlisted : body.lookup "response_types" = some (.arr (["code id_token"].map Json.str)) :=
    (hecho.repeated _ (by decide)).trans hregistered.responseTypes
  have hread : optionalStringArray body "response_types" "registration response" =
      .ok ["code id_token"] := by
    rw [optionalStringArray, hlisted, Option.elim_some, nonEmptyTexts_map, if_pos (by decide)]
    rfl
  refine Except.bind_eq_ok.mpr ⟨_, hread, ?_⟩
  exact Except.bind_eq_ok.mpr ⟨(), refuse_eq_ok.mpr (by decide),
    Except.bind_eq_ok.mpr ⟨(), refuse_eq_ok.mpr (by decide), rfl⟩⟩

/-- So are its algorithms. -/
theorem requiredJoseAlgorithm_echo {key : String} (h : body.lookup key = some (.str "PS256")) :
    requiredJoseAlgorithm body key = .ok "PS256" :=
  Except.bind_eq_ok.mpr ⟨_, requiredString_of_lookup h (by decide),
    Except.bind_eq_ok.mpr ⟨(), refuse_eq_ok.mpr (by decide), rfl⟩⟩

/-- The subject name of an answer is the one that was registered. -/
theorem readSubjectDn_echo
    (hregistered : Registered environment config claims statement redirects method)
    (hecho : Echoes claims body clientId) :
    ∃ subjectDn : Option String, readSubjectDn body method = .ok subjectDn ∧
      ∀ text, subjectDn = some text →
        claims.lookup "tls_client_auth_subject_dn" = some (.str text) := by
  by_cases hmethod : method = .tlsClientAuth
  · obtain ⟨text, hvalid, hlookup⟩ := hregistered.subjectDn hmethod
    have hne : text ≠ "" := by
      rintro rfl
      cases hvalid
    refine ⟨some text, ?_, fun other hother => Option.some.inj hother ▸ hlookup⟩
    rw [readSubjectDn, if_pos hmethod]
    exact Except.bind_eq_ok.mpr ⟨_, requiredString_of_lookup
      ((hecho.repeated _ (by decide)).trans hlookup) hne,
      Except.bind_eq_ok.mpr ⟨(), hvalid, rfl⟩⟩
  · exact ⟨none, by rw [readSubjectDn, if_neg hmethod], nofun⟩

/-- The algorithm of client assertions in the answer passes its check. -/
theorem checkAssertionAlgorithm_echo
    (hregistered : Registered environment config claims statement redirects method)
    (hecho : Echoes claims body clientId) : checkAssertionAlgorithm body method = .ok () := by
  unfold checkAssertionAlgorithm
  split
  · rename_i hsigns
    have hlookup := (hecho.repeated "token_endpoint_auth_signing_alg" (by decide)).trans
      (hregistered.algorithm hsigns)
    have hne : requiredAlgorithm method ≠ "" := by cases method <;> decide
    exact Except.bind_eq_ok.mpr ⟨_, requiredString_of_lookup hlookup hne,
      refuse_eq_ok.mpr (by simp)⟩
  · rfl

/-- The fields that are compared, of an answer that repeats a registration. -/
def echoFields (redirects : List String) (method : ClientAuthMethod) (subjectDn : Option String) :
    RegistrationFields where
  scope := "accounts openid"
  softwareId := none
  idTokenAlgorithm := "PS256"
  requestObjectAlgorithm := "PS256"
  redirects := redirects
  method := method
  subjectDn := subjectDn

/-- The answer is read exactly when its redirects may be registered. -/
theorem readRegistrationResponse_echo
    (hregistered : Registered environment config claims statement redirects method)
    (hecho : Echoes claims body clientId) :
    ∃ subjectDn : Option String, (∀ text, subjectDn = some text →
        claims.lookup "tls_client_auth_subject_dn" = some (.str text)) ∧
      ∀ read, readRegistrationResponse environment config body = .ok read ↔
        read = (clientId, none, echoFields redirects method subjectDn) ∧
          Registrable redirects := by
  obtain ⟨subjectDn, hsubject, hlookup⟩ := readSubjectDn_echo hregistered hecho
  refine ⟨subjectDn, hlookup, fun read => ?_⟩
  have hscope : requiredString body "scope" "registration response" = .ok "accounts openid" :=
    requiredString_of_lookup ((hecho.repeated _ (by decide)).trans hregistered.scope) (by decide)
  obtain ⟨ssa, hssa, hssaLookup, -⟩ := hregistered.asserted
  have hstatement : requiredString body "software_statement" "registration response" = .ok ssa :=
    requiredString_of_lookup ((hecho.repeated _ (by decide)).trans hssaLookup) hssa
  have hsoftware : readSoftwareId body = .ok none := by
    rw [readSoftwareId, getField, hecho.absent "software_id" (by decide)]
    rfl
  have hidToken := requiredJoseAlgorithm_echo
    ((hecho.repeated "id_token_signed_response_alg" (by decide)).trans hregistered.idToken)
  have hobject := requiredJoseAlgorithm_echo
    ((hecho.repeated "request_object_signing_alg" (by decide)).trans hregistered.requestObject)
  have hassertion := checkAssertionAlgorithm_echo hregistered hecho
  have hconsistent : ¬ ("authorization_code" ∈ ["client_credentials", "authorization_code"] ∧
      ¬ ∃ type ∈ ["code id_token"], "code" ∈ words type) := by decide
  -- every reader but that of the redirects succeeds
  unfold readRegistrationResponse
  constructor
  · intro h
    obtain ⟨_, hidentifiers', h⟩ := Except.bind_eq_ok.mp h
    obtain rfl := Except.ok.inj ((readIdentifiers_echo hregistered hecho).symm.trans hidentifiers')
    obtain ⟨_, hredirects, h⟩ := Except.bind_eq_ok.mp h
    obtain ⟨rfl, hregistrable⟩ := (readRedirects_echo hregistered hecho).mp hredirects
    obtain ⟨_, -, h⟩ := Except.bind_eq_ok.mp h
    obtain ⟨_, -, h⟩ := Except.bind_eq_ok.mp h
    obtain ⟨_, hscope', h⟩ := Except.bind_eq_ok.mp h
    obtain rfl := Except.ok.inj (hscope.symm.trans hscope')
    obtain ⟨_, -, h⟩ := Except.bind_eq_ok.mp h
    obtain ⟨_, -, h⟩ := Except.bind_eq_ok.mp h
    obtain ⟨_, hsoftware', h⟩ := Except.bind_eq_ok.mp h
    obtain rfl := Except.ok.inj (hsoftware.symm.trans hsoftware')
    obtain ⟨_, hidToken', h⟩ := Except.bind_eq_ok.mp h
    obtain rfl := Except.ok.inj (hidToken.symm.trans hidToken')
    obtain ⟨_, hobject', h⟩ := Except.bind_eq_ok.mp h
    obtain rfl := Except.ok.inj (hobject.symm.trans hobject')
    obtain ⟨_, -, h⟩ := Except.bind_eq_ok.mp h
    obtain ⟨_, hsubject', h⟩ := Except.bind_eq_ok.mp h
    obtain rfl := Except.ok.inj (hsubject.symm.trans hsubject')
    obtain ⟨_, -, h⟩ := Except.bind_eq_ok.mp h
    exact ⟨(Except.ok.inj h).symm, hregistrable⟩
  · rintro ⟨rfl, hregistrable⟩
    have hredirects := (readRedirects_echo hregistered hecho).mpr ⟨rfl, hregistrable⟩
    refine Except.bind_eq_ok.mpr ⟨_, readIdentifiers_echo hregistered hecho, ?_⟩
    refine Except.bind_eq_ok.mpr ⟨_, hredirects, ?_⟩
    refine Except.bind_eq_ok.mpr ⟨_, readGrantTypes_echo hregistered hecho, ?_⟩
    refine Except.bind_eq_ok.mpr ⟨_, readResponseTypes_echo hregistered hecho, ?_⟩
    refine Except.bind_eq_ok.mpr ⟨_, hscope, ?_⟩
    refine Except.bind_eq_ok.mpr ⟨(), refuse_eq_ok.mpr (by decide), ?_⟩
    refine Except.bind_eq_ok.mpr ⟨_, hstatement, Except.bind_eq_ok.mpr ⟨_, hsoftware, ?_⟩⟩
    refine Except.bind_eq_ok.mpr ⟨_, hidToken, Except.bind_eq_ok.mpr ⟨_, hobject, ?_⟩⟩
    refine Except.bind_eq_ok.mpr ⟨(), refuse_eq_ok.mpr hconsistent, ?_⟩
    exact Except.bind_eq_ok.mpr ⟨_, hsubject, Except.bind_eq_ok.mpr ⟨_, hassertion, rfl⟩⟩

/-- What the software statement must hold for redirects to be registered under it. -/
def Covers (statement : JsonObject) (redirects : List String) : Prop :=
  (∃ softwareId, requiredString statement "software_id" "software statement" = .ok softwareId) ∧
    ∃ listed, requiredStringArray statement "software_redirect_uris" "software statement" =
      .ok listed ∧ ∀ redirect ∈ redirects, redirect ∈ listed

/-- The answer is consistent exactly when the software statement covers the redirects. -/
theorem checkConsistency_echo
    (hregistered : Registered environment config claims statement redirects method)
    (hecho : Echoes claims body clientId) {subjectDn : Option String}
    (hsubject : ∀ text, subjectDn = some text →
      claims.lookup "tls_client_auth_subject_dn" = some (.str text)) :
    checkConsistency environment body (echoFields redirects method subjectDn) claims = .ok () ↔
      Covers statement redirects := by
  have hrepeated : ["application_type", "token_endpoint_auth_method"].forM (fun name =>
      refuse ((getField body name).pyEq (getField claims name) = false)
        s!"Registration response {name} differs from the signed request") = .ok () := by
    refine List.forM_eq_ok.mpr fun name hname => refuse_eq_ok.mpr ?_
    have htext : ∃ text, claims.lookup name = some (.str text) := by
      rcases List.mem_pair.mp hname with rfl | rfl
      · exact ⟨_, hregistered.applicationType⟩
      · exact ⟨_, hregistered.authMethod⟩
    have hrepeats : name ∈ repeatedMembers := by
      rcases List.mem_pair.mp hname with rfl | rfl <;> decide
    obtain ⟨text, htext⟩ := htext
    rw [getField, getField, hecho.repeated name hrepeats, htext, Option.getD_some,
      pyEq_str_str.mpr rfl]
    decide
  have hsame : ∀ name text : String, claims.lookup name = some (.str text) →
      (getField claims name).pyEq (.str text) = true := by
    intro name text hlookup
    rw [getField, hlookup, Option.getD_some]
    exact pyEq_str_str.mpr rfl
  have hread : [("scope", "accounts openid"), ("id_token_signed_response_alg", "PS256"),
      ("request_object_signing_alg", "PS256")].forM (fun entry =>
        refuse ((getField claims entry.1).pyEq (.str entry.2) = false)
          s!"Registration response {entry.1} differs from the signed request") = .ok () := by
    refine List.forM_eq_ok.mpr fun entry hentry => refuse_eq_ok.mpr ?_
    have hlookup : claims.lookup entry.1 = some (.str entry.2) := by
      simp only [List.mem_cons, List.not_mem_nil, or_false] at hentry
      rcases hentry with rfl | rfl | rfl
      · exact hregistered.scope
      · exact hregistered.idToken
      · exact hregistered.requestObject
    simp [hsame _ _ hlookup]
  have hdn : ¬ subjectDn.any (fun subjectDn =>
      !(getField claims "tls_client_auth_subject_dn").pyEq (.str subjectDn)) = true := by
    cases subjectDn with
    | none => simp
    | some text => simp [hsame _ _ (hsubject text rfl)]
  obtain ⟨ssa, hssa, hstatement, hdecoded⟩ := hregistered.asserted
  have hasserted : requiredString claims "software_statement" "signed registration request" =
      .ok ssa := requiredString_of_lookup hstatement hssa
  -- only the coverage of the redirects is left to check
  unfold checkConsistency
  constructor
  · intro h
    obtain ⟨_, -, h⟩ := Except.bind_eq_ok.mp h
    obtain ⟨_, -, h⟩ := Except.bind_eq_ok.mp h
    obtain ⟨_, -, h⟩ := Except.bind_eq_ok.mp h
    obtain ⟨_, hasserted', h⟩ := Except.bind_eq_ok.mp h
    obtain rfl := Except.ok.inj (hasserted.symm.trans hasserted')
    obtain ⟨_, hdecoded', h⟩ := Except.bind_eq_ok.mp h
    obtain rfl := Except.ok.inj (hdecoded.symm.trans hdecoded')
    obtain ⟨softwareId, hsoftware, h⟩ := Except.bind_eq_ok.mp h
    obtain ⟨_, -, h⟩ := Except.bind_eq_ok.mp h
    obtain ⟨listed, hlisted, h⟩ := Except.bind_eq_ok.mp h
    exact ⟨⟨softwareId, hsoftware⟩, listed, hlisted, not_not.mp (refuse_eq_ok.mp h)⟩
  · rintro ⟨⟨softwareId, hsoftware⟩, listed, hlisted, hsubset⟩
    refine Except.bind_eq_ok.mpr ⟨(), hrepeated, Except.bind_eq_ok.mpr ⟨(), hread, ?_⟩⟩
    refine Except.bind_eq_ok.mpr ⟨(), refuse_eq_ok.mpr hdn, ?_⟩
    refine Except.bind_eq_ok.mpr ⟨_, hasserted, Except.bind_eq_ok.mpr ⟨_, hdecoded, ?_⟩⟩
    refine Except.bind_eq_ok.mpr ⟨_, hsoftware, Except.bind_eq_ok.mpr ⟨(), ?_, ?_⟩⟩
    · exact refuse_eq_ok.mpr (by simp [echoFields])
    · exact Except.bind_eq_ok.mpr ⟨_, hlisted, refuse_eq_ok.mpr (not_not.mpr hsubset)⟩

/-- Metadata that is cached is not fetched again. -/
theorem exec_requireDiscovery {s : DcrWorld environment × DcrScenarioState}
    {discovery : DcrDiscoveryMetadata} (hcached : s.1.discovery = some discovery)
    (stepId : String) :
    Effect.exec (requireDiscovery environment config stepId) s = (.ok discovery, s) := by
  unfold requireDiscovery
  refine Effect.exec_bind_eq_ok.mpr ⟨s.1, s, rfl, ?_⟩
  rw [hcached]
  rfl

/-- What a registration registers, answered back, is accepted exactly when the redirects may be
    registered and the software statement covers them. -/
theorem registration_echo_accepted_iff {s s' t : DcrWorld environment × DcrScenarioState}
    {discovery : DcrDiscoveryMetadata} {jose : String} {state : DcrScenarioState}
    (hbuild : Effect.exec (buildRegistrationJose environment config "valid") s =
      (.ok (jose, claims), s'))
    (hecho : Echoes claims body clientId) (hcached : t.1.discovery = some discovery)
    (hstate : state.registrationClaims = some claims) :
    ∃ statement redirects,
      (∃ text, claims.lookup "software_statement" = some (.str text) ∧
        decodeCompactJwtClaims environment text = .ok statement) ∧
      registrationRedirects config statement = .ok redirects ∧
      ((Effect.exec (validateRegistrationResponse environment config body state) t).1 = .ok () ↔
        Registrable redirects ∧ Covers statement redirects) := by
  -- what the registration says, then what each reader makes of the same fields in the answer
  obtain ⟨statement, redirects, method, hregistered⟩ := registered_of_build hbuild
  obtain ⟨text, -, htext, hdecoded⟩ := hregistered.asserted
  obtain ⟨subjectDn, hsubject, hread⟩ := readRegistrationResponse_echo hregistered hecho
  refine ⟨statement, redirects, ⟨text, htext, hdecoded⟩, hregistered.chosen, ?_⟩
  have hconsistent := checkConsistency_echo hregistered hecho hsubject
  unfold validateRegistrationResponse
  constructor
  · intro h
    obtain ⟨read, _, hread', h⟩ := Effect.exec_bind_eq_ok.mp (Prod.ext h rfl)
    obtain ⟨rfl, hregistrable⟩ := (hread read).mp (Prod.mk.inj hread').1
    obtain ⟨_, _, -, h⟩ := Effect.exec_bind_eq_ok.mp h
    obtain ⟨_, _, -, h⟩ := Effect.exec_bind_eq_ok.mp h
    have hchecked := (Prod.mk.inj h).1
    rw [hstate] at hchecked
    exact ⟨hregistrable, hconsistent.mp hchecked⟩
  · rintro ⟨hregistrable, hcovers⟩
    have hok := (hread _).mpr ⟨rfl, hregistrable⟩
    have hrun : Effect.exec (validateRegistrationResponse environment config body state) t =
        (.ok (), t) := by
      refine Effect.exec_bind_eq_ok.mpr ⟨_, t, congrArg (·, t) hok, ?_⟩
      refine Effect.exec_bind_eq_ok.mpr ⟨discovery, t, exec_requireDiscovery hcached _, ?_⟩
      refine Effect.exec_bind_eq_ok.mpr ⟨(), t, rfl, ?_⟩
      rw [hstate]
      exact congrArg (·, t) (hconsistent.mpr hcovers)
    exact congrArg Prod.fst hrun

end Echo

/-- A run whose metadata was cached by an earlier step. -/
def exampleCached : DcrWorld exampleBank × DcrScenarioState :=
  ({ outside := ()
     discovery := some {
      issuer := "https://a", registrationEndpoint := "https://a/r", tokenEndpoint := "https://a/t",
      jwksUri := "https://a/k", tokenAuthMethods := ["client_secret_basic"],
      tokenAuthSigningAlgorithms := ["PS256"], jwks := [] } }, {})

/-- The sample registration has none of the members that the bank adds. -/
theorem exampleRegistration_own :
    (Effect.exec (buildRegistrationJose exampleBank exampleConfig "valid")
      exampleCached).1.toOption.any (fun built => ("client_secret" :: ownMembers).all fun key =>
        (built.2.lookup key).isNone) = true := by
  decide +kernel

/-- A registration by the sample bank. -/
theorem registration_echo_example : ∃ jose claims s' statement redirects,
    Effect.exec (buildRegistrationJose exampleBank exampleConfig "valid") exampleCached =
      (.ok (jose, claims), s') ∧
    (∃ text, claims.lookup "software_statement" = some (.str text) ∧
      decodeCompactJwtClaims exampleBank text = .ok statement) ∧
    registrationRedirects exampleConfig statement = .ok redirects ∧
    ((Effect.exec (validateRegistrationResponse exampleBank exampleConfig
        (("client_id", .str "client-1") :: claims) { registrationClaims := some claims })
      exampleCached).1 = .ok () ↔ Registrable redirects ∧ Covers statement redirects) := by
  obtain ⟨⟨jose, claims⟩, hbuilt, hown⟩ := Except.exists_ok_of_any exampleRegistration_own
  rw [List.all_eq_true] at hown
  have habsent : ∀ key ∈ "client_secret" :: ownMembers, claims.lookup key = none :=
    fun key hkey => Option.isNone_iff_eq_none.mp (hown key hkey)
  have hother : ∀ key, key ≠ "client_id" →
      List.lookup key (("client_id", Json.str "client-1") :: claims) = claims.lookup key := by
    intro key hkey
    rw [List.lookup_cons, beq_false_of_ne hkey]
  have hecho : Echoes claims (("client_id", .str "client-1") :: claims) "client-1" :=
    { client := rfl
      issued := by decide
      repeated := fun key hkey => hother key (by rintro rfl; revert hkey; decide)
      absent := fun key hkey => (hother key (by rintro rfl; revert hkey; decide)).trans
        (habsent key (List.mem_cons_of_mem _ hkey))
      secret := fun value hvalue => nomatch ((hother "client_secret" (by decide)).trans
        (habsent _ List.mem_cons_self)).symm.trans hvalue }
  have hstate : ({ registrationClaims := some claims } : DcrScenarioState).registrationClaims =
      some claims := rfl
  obtain ⟨statement, redirects, hstatement, hredirects, hiff⟩ := registration_echo_accepted_iff
    (Prod.ext hbuilt rfl) hecho (t := exampleCached) rfl hstate
  exact ⟨jose, claims, _, statement, redirects, Prod.ext hbuilt rfl, hstatement, hredirects, hiff⟩

end Conformance.DcrExecution
