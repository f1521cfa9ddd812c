import Conformance.ForStd.Except
import Conformance.ForStd.List
import Conformance.Native.UrlValidation

/-!
# Accepted HTTPS targets

A URL that `validate_https_url` accepts names its host by a DNS name. The check for IP
literals sees the host as it is in the URL and the check of the labels sees it without a
dot at its end, so an IPv4 literal with such a dot passes both. The callback of the
previous suite is recognised by its path without the parameters of the last segment.

## Key results

- `validateDnsHostname_eq_ok`, `validateParsedUrl_eq_ok`: what the checks accept
- `isDnsName_of_isIpv4`, `not_isIpv6_of_isDnsName`: literals and names
- `splitParams_cases`: the parameters of a path
- `onlyDnsTargets_iff`: when nothing else is accepted
-/

namespace Conformance

open Except

/-! ## Names -/

/-- A label of letters, digits and inner hyphens, of at most 63 characters. -/
structure IsDnsLabel (label : List Char) : Prop where
  nonempty : label ≠ []
  length_le : label.length ≤ 63
  chars : ∀ c ∈ label, isAsciiAlphanumeric c = true ∨ c = '-'
  head : label.head? ≠ some '-'
  last : label.getLast? ≠ some '-'

/-- A DNS name without a dot at its end. -/
structure IsDnsName (name : List Char) : Prop where
  nonempty : name ≠ []
  length_le : name.length ≤ 253
  ascii : ∀ c ∈ name, c.toNat < 128
  labels : ∀ label ∈ name.splitOn '.', IsDnsLabel label

/-- An IPv4 or an IPv6 literal. -/
def IsIpLiteral (name : List Char) : Prop := isIpv4 name = true ∨ isIpv6 name = true

/-- A host without the dot that may end it. -/
def trimmedHost (host : List Char) : List Char :=
  if host.getLast? = some '.' then host.dropLast else host

/-- The pattern of a label accepts the DNS labels. -/
theorem isHostnameLabel_iff {label : List Char} : isHostnameLabel label = true ↔ IsDnsLabel label := by
  simp only [isHostnameLabel, Bool.and_eq_true, Bool.not_eq_true', List.isEmpty_eq_false_iff,
    decide_eq_true_eq, bne_iff_ne, ne_eq, List.all_eq_true, Bool.or_eq_true, beq_iff_eq]
  exact ⟨fun ⟨⟨⟨⟨hne, hlength⟩, hhead⟩, hlast⟩, hchars⟩ => ⟨hne, hlength, hchars, hhead, hlast⟩,
    fun h => ⟨⟨⟨⟨h.nonempty, h.length_le⟩, h.head⟩, h.last⟩, h.chars⟩⟩

theorem trimmedHost_concat (host : List Char) : trimmedHost (host ++ ['.']) = host := by
  simp [trimmedHost]

/-- A host is its trimmed form or that with a dot. -/
theorem trimmedHost_cases (host : List Char) :
    trimmedHost host = host ∨ host = trimmedHost host ++ ['.'] := by
  unfold trimmedHost
  by_cases hlast : host.getLast? = some '.'
  · rw [if_pos hlast]
    exact .inr (List.dropLast_append_getLast? '.' hlast).symm
  · exact .inl (if_neg hlast)

/-- A host is accepted exactly when it is a DNS name. -/
theorem validateDnsHostname_eq_ok {host : List Char} {label : String} :
    validateDnsHostname host label = .ok () ↔ IsDnsName (trimmedHost host) := by
  have hascii : (∀ c ∈ host, c.toNat < 128) ↔ ∀ c ∈ trimmedHost host, c.toNat < 128 := by
    rcases trimmedHost_cases host with h | h
    · rw [h]
    · generalize trimmedHost host = trimmed at h
      subst h
      simp [or_imp, forall_and]
  have htrim : (if host.getLast? = some '.' then host.dropLast else host) = trimmedHost host := rfl
  simp only [validateDnsHostname, htrim, bind_eq_ok, raiseIf_eq_ok, exists_const, not_or,
    Bool.not_eq_false, List.all_eq_true, decide_eq_true_eq, isHostnameLabel_iff, Nat.not_lt]
  rw [hascii]
  constructor
  · rintro ⟨hchars, ⟨hnonempty, hlength⟩, hlabels⟩
    exact ⟨hnonempty, hlength, hchars, hlabels⟩
  · intro h
    exact ⟨h.ascii, ⟨h.nonempty, h.length_le⟩, h.labels⟩

/-! ## Literals -/

/-- An octet has one to three digits. -/
theorem isOctet_digits {octet : List Char} : isOctet octet = true →
    octet ≠ [] ∧ (∀ c ∈ octet, isAsciiDigit c = true) ∧ octet.length ≤ 3 := by
  simp only [isOctet, Bool.and_eq_true, Bool.not_eq_true', List.isEmpty_eq_false_iff,
    List.all_eq_true, decide_eq_true_eq]
  exact fun ⟨⟨⟨⟨hne, hdigits⟩, hlength⟩, _⟩, _⟩ => ⟨hne, hdigits, hlength⟩

/-- The codes of the digits. -/
theorem toNat_of_isAsciiDigit {c : Char} (h : isAsciiDigit c = true) :
    48 ≤ c.toNat ∧ c.toNat ≤ 57 := by
  simp only [isAsciiDigit, Bool.and_eq_true, decide_eq_true_eq] at h
  exact h

/-- A digit is no other character. -/
theorem isAsciiDigit_ne {c : Char} (h : isAsciiDigit c = true) {d : Char}
    (hd : d.toNat < 48 ∨ 57 < d.toNat) : c ≠ d := by
  rintro rfl
  have := toNat_of_isAsciiDigit h
  omega

/-- An octet is a DNS label. -/
theorem isDnsLabel_of_isOctet {octet : List Char} (h : isOctet octet = true) :
    IsDnsLabel octet := by
  obtain ⟨hne, hdigits, hlength⟩ := isOctet_digits h
  have hhyphen : ∀ c ∈ octet, c ≠ '-' := fun c hc => isAsciiDigit_ne (hdigits c hc) (by decide)
  exact {
    nonempty := hne
    length_le := by omega
    chars := fun c hc => .inl (by
      have hdigit := hdigits c hc
      simp only [isAsciiDigit] at hdigit
      simp [isAsciiAlphanumeric, hdigit])
    head := fun hhead => hhyphen '-' (List.mem_of_mem_head? hhead) rfl
    last := fun hlast => hhyphen '-' (List.mem_of_getLast? hlast) rfl }

/-- The characters of a text are in its parts or are separators. -/
theorem mem_splitOn_or (separator : Char) {c : Char} {cs : List Char} (hc : c ∈ cs) :
    c = separator ∨ ∃ part ∈ cs.splitOn separator, c ∈ part := by
  by_cases h : c = separator
  · exact .inl h
  · have hfilter : c ∈ cs.filter (· ≠ separator) := by simp [hc, h]
    rw [← List.flatten_splitOn] at hfilter
    exact .inr (List.mem_flatten.mp hfilter)

theorem isIpv4_iff {address : List Char} : isIpv4 address = true ↔
    (address.splitOn '.').length = 4 ∧ ∀ octet ∈ address.splitOn '.', isOctet octet = true := by
  simp [isIpv4]

/-- The characters of an IPv4 literal. -/
theorem chars_of_isIpv4 {address : List Char} (h : isIpv4 address = true) :
    ∀ c ∈ address, c = '.' ∨ isAsciiDigit c = true := by
  intro c hc
  rcases mem_splitOn_or '.' hc with rfl | ⟨octet, hoctet, hmem⟩
  · exact .inl rfl
  · exact .inr ((isOctet_digits ((isIpv4_iff.mp h).2 octet hoctet)).2.1 c hmem)

/-- An IPv4 address has at most 15 characters. -/
theorem length_le_of_isIpv4 {address : List Char} (h : isIpv4 address = true) :
    address.length ≤ 15 := by
  obtain ⟨hlength, hoctets⟩ := isIpv4_iff.mp h
  obtain ⟨a, b, c, d, hsplit⟩ := List.length_eq_four.mp hlength
  have hjoin : ['.'].intercalate (address.splitOn '.') = address := List.intercalate_splitOn '.'
  rw [hsplit] at hjoin hoctets
  have hbound := fun octet hoctet => (isOctet_digits (hoctets octet hoctet)).2.2
  have ha := hbound a (by simp)
  have hb := hbound b (by simp)
  have hc := hbound c (by simp)
  have hd := hbound d (by simp)
  rw [← hjoin]
  simp [List.intercalate]
  omega

/-- An IPv4 literal has the form of a DNS name. -/
theorem isDnsName_of_isIpv4 {address : List Char} (h : isIpv4 address = true) :
    IsDnsName address := by
  have hlength := length_le_of_isIpv4 h
  obtain ⟨hfour, hoctets⟩ := isIpv4_iff.mp h
  exact {
    nonempty := by
      rintro rfl
      cases hfour
    length_le := by omega
    ascii := fun c hc => (chars_of_isIpv4 h c hc).elim (fun hdot => hdot ▸ (by decide))
      fun hdigit => by
        have := toNat_of_isAsciiDigit hdigit
        omega
    labels := fun octet hoctet => isDnsLabel_of_isOctet (hoctets octet hoctet) }

/-- An IPv6 literal has a colon. -/
theorem colon_mem_of_isIpv6 {address : List Char} (h : isIpv6 address = true) : ':' ∈ address := by
  by_contra hcolon
  have hplain : ':' ∉ (partitionAt '%' address).1 := fun hmem =>
    hcolon (List.takeWhile_subset _ hmem)
  simp only [isIpv6, Bool.and_eq_true, Option.any_eq_true] at h
  obtain ⟨-, parts, hparts, hextets⟩ := h
  have hfew : parts.length ≤ 2 := by
    simp only [hextetParts, List.splitOn_eq_singleton hplain] at hparts
    split_ifs at hparts <;> simp [← Option.some.inj hparts]
  have hinner : parts.tail.dropLast = [] := by
    rw [← List.length_eq_zero_iff]
    simp
    omega
  simp only [areHextets, hinner, List.findIdx?_nil, Bool.and_eq_true, beq_iff_eq] at hextets
  omega

/-- A DNS name has no colon. -/
theorem colon_notMem_of_isDnsName {name : List Char} (h : IsDnsName name) : ':' ∉ name := by
  intro hmem
  rcases mem_splitOn_or '.' hmem with heq | ⟨label, hlabel, hc⟩
  · cases heq
  · rcases (h.labels label hlabel).chars ':' hc with h | h <;> cases h

theorem not_isIpv6_of_isDnsName {name : List Char} (h : IsDnsName name) : ¬isIpv6 name = true :=
  fun hipv6 => colon_notMem_of_isDnsName h (colon_mem_of_isIpv6 hipv6)

/-- With a dot at its end an IPv4 literal is none. -/
theorem not_isIpLiteral_concat {address : List Char} (h : isIpv4 address = true) :
    ¬IsIpLiteral (address ++ ['.']) := by
  rintro (hdotted | hdotted)
  · have hlength := (isIpv4_iff.mp hdotted).1
    rw [List.splitOn_append_cons_self, List.length_append, (isIpv4_iff.mp h).1] at hlength
    cases hlength
  · have hcolon := colon_mem_of_isIpv6 hdotted
    rw [List.mem_append, List.mem_singleton] at hcolon
    exact hcolon.elim (colon_notMem_of_isDnsName (isDnsName_of_isIpv4 h)) (by simp)

/-! ## Parsed URLs -/

/-- An HTTPS URL without userinfo, with an allowed port and with a host. -/
structure HttpsTarget (text : UrlText) (url : SplitResult) (host : List Char) : Prop where
  https : url.scheme = "https".toList
  noUserinfo : '@' ∉ url.netloc
  port : ∃ port, url.port = .ok port ∧ ∀ n ∈ port, 1 ≤ n ∧ n ≤ 65535
  hostname : url.hostname text = some host

/-- A target whose host is a DNS name. -/
def DnsTarget (text : UrlText) (url : SplitResult) : Prop :=
  ∃ host, HttpsTarget text url host ∧ IsDnsName (trimmedHost host) ∧
    ¬IsIpLiteral host ∧ ¬IsIpLiteral (trimmedHost host)

/-- An address is read exactly when it is a literal of either version. -/
theorem ipAddress_eq_ok_iff {text : UrlText} {host : List Char} :
    (∃ version, ipAddress text host = .ok version) ↔ IsIpLiteral host := by
  unfold ipAddress IsIpLiteral
  split_ifs <;> simp_all

/-- A hostname is accepted when it is a DNS name and no address. -/
theorem validateHostname_eq_ok {text : UrlText} {host : List Char} {label : String} :
    validateHostname text host label = .ok () ↔
      ¬IsIpLiteral host ∧ IsDnsName (trimmedHost host) := by
  rw [← @ipAddress_eq_ok_iff text, ← @validateDnsHostname_eq_ok _ label]
  unfold validateHostname
  cases ipAddress text host <;> simp

theorem username_eq_none_iff {url : SplitResult} : url.username = none ↔ '@' ∉ url.netloc := by
  simp [SplitResult.username]

/-- A port has sixteen bits. -/
theorem port_le {url : SplitResult} {n : Nat} (h : url.port = .ok (some n)) : n ≤ 65535 := by
  dsimp only [SplitResult.port] at h
  split_ifs at h with hempty hdigits
  · cases h
  · cases hvalue : decimalValue? (String.ofList url.hostinfo.2) with
    | none =>
      rw [hvalue] at h
      cases h
    | some value =>
      simp only [hvalue] at h
      split_ifs at h with hrange
      exact Option.some.inj (Except.ok.inj h) ▸ hrange

/-- The port is the URL's. -/
theorem parsedPort_eq_ok {url : SplitResult} {label : String} {port : Option Nat} :
    parsedPort url label = .ok port ↔ url.port = .ok port := by
  unfold parsedPort
  cases url.port <;> simp

/-- What the checks accept in a URL that was parsed. -/
theorem validateParsedUrl_eq_ok {text : UrlText} {url : SplitResult} {label : String} :
    validateParsedUrl text url label = .ok () ↔
      ∃ host, HttpsTarget text url host ∧ ¬IsIpLiteral host ∧ IsDnsName (trimmedHost host) := by
  simp only [validateParsedUrl, bind_eq_ok, raiseIf_eq_ok, exists_const, parsedPort_eq_ok]
  constructor
  · rintro ⟨port, hport, hzero, hscheme, hrest⟩
    cases hhost : url.hostname text with
    | none =>
      rw [hhost] at hrest
      cases hrest
    | some host =>
      rw [hhost] at hrest
      simp only [bind_eq_ok, raiseIf_eq_ok, exists_const, not_not, validateHostname_eq_ok] at hrest
      refine ⟨host, ⟨not_not.mp hscheme, username_eq_none_iff.mp hrest.1, ⟨port, hport, ?_⟩,
        hhost⟩, hrest.2⟩
      rintro n rfl
      exact ⟨Nat.pos_of_ne_zero fun h => hzero (h ▸ rfl), port_le hport⟩
  · rintro ⟨host, htarget, haccepted⟩
    obtain ⟨port, hport, hrange⟩ := htarget.port
    refine ⟨port, hport, fun hzero => ?_, not_not.mpr htarget.https, ?_⟩
    · have := (hrange 0 hzero).1
      omega
    · rw [htarget.hostname]
      simp only [bind_eq_ok, raiseIf_eq_ok, exists_const, not_not, validateHostname_eq_ok]
      exact ⟨username_eq_none_iff.mpr htarget.noUserinfo, haccepted⟩

/-- The checks of a URL that was parsed raise `HttpsUrlValidationError` alone. -/
theorem raisesOnly_validateParsedUrl {text : UrlText} {url : SplitResult} {label : String} :
    RaisesOnly (fun e => ∃ message, e = .httpsUrlValidationError message)
      (validateParsedUrl text url label) := by
  have hname : ∀ host, RaisesOnly (fun e => ∃ message, e = .httpsUrlValidationError message)
      (validateHostname text host label) := by
    intro host
    unfold validateHostname
    cases ipAddress text host with
    | ok => exact .error ⟨_, rfl⟩
    | error =>
      exact (RaisesOnly.raiseIf ⟨_, rfl⟩).bind fun _ _ =>
        (RaisesOnly.raiseIf ⟨_, rfl⟩).bind fun _ _ => .raiseIf ⟨_, rfl⟩
  have hport : RaisesOnly (fun e => ∃ message, e = .httpsUrlValidationError message)
      (parsedPort url label) := by
    unfold parsedPort
    cases url.port with
    | ok port => exact .ok port
    | error => exact .error ⟨_, rfl⟩
  refine hport.bind fun _ _ => (RaisesOnly.raiseIf ⟨_, rfl⟩).bind fun _ _ =>
    (RaisesOnly.raiseIf ⟨_, rfl⟩).bind fun _ _ => ?_
  cases url.hostname text with
  | none => exact .error ⟨_, rfl⟩
  | some host => exact (RaisesOnly.raiseIf ⟨_, rfl⟩).bind fun _ _ => hname host

/-! ## The parameters of a path -/

/-- A text is split at its first separator. -/
theorem partitionAt_append {c : Char} {before after : List Char} (h : c ∉ before) :
    partitionAt c (before ++ c :: after) = (before, after) := by
  have hall : ∀ d ∈ before, decide (d ≠ c) = true := by
    intro d hd
    simp only [ne_eq, decide_not, Bool.not_eq_true', decide_eq_false_iff_not]
    rintro rfl
    exact h hd
  have htake : (before ++ c :: after).takeWhile (· ≠ c) = before := by
    rw [List.takeWhile_append_of_pos hall]
    simp
  simp only [partitionAt, htake]
  simp

/-- A path is what goes before its last segment and that segment. -/
theorem take_append_afterLast (path : List Char) :
    path.take (path.length - (afterLast '/' path).length) ++ afterLast '/' path = path := by
  have hparts : path.rdropWhile (· ≠ '/') ++ afterLast '/' path = path :=
    List.rdropWhile_append_rtakeWhile
  have hlength := congrArg List.length hparts
  rw [List.length_append] at hlength
  have htake : path.take (path.length - (afterLast '/' path).length) =
      path.rdropWhile (· ≠ '/') := by
    rw [← hlength, Nat.add_sub_cancel]
    exact (List.prefix_iff_eq_take.mp (List.rdropWhile_prefix _ _)).symm
  rw [htake, hparts]

theorem slash_notMem_afterLast (path : List Char) : '/' ∉ afterLast '/' path := fun h => by
  simpa using List.mem_rtakeWhile_imp h

/-- A path with a semicolon in its last segment splits at it. -/
theorem splitParams_append {callback params : List Char} (hcallback : ';' ∉ callback)
    (hparams : '/' ∉ params) :
    splitParams (callback ++ ';' :: params) = (callback, params) := by
  have htail : ∀ c ∈ (';' :: params).reverse, decide (c ≠ '/') = true := by
    intro c hc
    rw [List.mem_reverse, List.mem_cons] at hc
    simp only [ne_eq, decide_not, Bool.not_eq_true', decide_eq_false_iff_not]
    rintro rfl
    exact hc.elim (by simp) hparams
  have hlast : afterLast '/' (callback ++ ';' :: params) =
      afterLast '/' callback ++ ';' :: params := by
    simp only [afterLast, List.rtakeWhile, List.reverse_append]
    rw [List.takeWhile_append_of_pos htail]
    simp
  have hplain : ';' ∉ afterLast '/' callback := fun hmem =>
    hcallback (List.IsSuffix.mem hmem (List.rtakeWhile_suffix _ _))
  have hinit : (callback ++ ';' :: params).take ((callback ++ ';' :: params).length -
      (afterLast '/' callback ++ ';' :: params).length) ++ afterLast '/' callback = callback := by
    have hparts := take_append_afterLast (callback ++ ';' :: params)
    rw [hlast, ← List.append_assoc] at hparts
    exact List.append_cancel_right hparts
  simp only [splitParams, hlast, partitionAt_append hplain]
  rw [if_pos (by simp), hinit]

/-- The last segment of a path has a semicolon, or the path has no parameters. -/
theorem splitParams_cases (path : List Char) :
    splitParams path = (path, []) ∨
      ∃ callback params, path = callback ++ ';' :: params ∧ '/' ∉ params ∧
        splitParams path = (callback, params) := by
  by_cases hmem : ';' ∈ afterLast '/' path
  · obtain ⟨before, params, hlast, hbefore⟩ := List.eq_append_cons_of_mem hmem
    refine .inr ⟨path.take (path.length - (afterLast '/' path).length) ++ before, params, ?_, ?_, ?_⟩
    · rw [List.append_assoc, ← hlast, take_append_afterLast]
    · have hslash := slash_notMem_afterLast path
      rw [hlast] at hslash
      exact fun h => hslash (by simp [h])
    · simp only [splitParams]
      rw [if_pos hmem, hlast, partitionAt_append hbefore]
  · exact .inl (if_neg hmem)

/-! ## Texts -/

/-- A URL is parsed when it is split. -/
theorem urlparse_eq_ok {text : UrlText} {value : String} {parsed : ParseResult} :
    urlparse text value = .ok parsed ↔
      ∃ url, urlsplit text value = .ok url ∧ url.parse = parsed := by
  unfold urlparse
  simp only [bind_eq_ok, pure, Except.pure, Except.ok.injEq]

/-- Parsing changes the path at most. -/
theorem parse_eq (url : SplitResult) : ∃ path, url.parse.toSplitResult = { url with path } := by
  unfold SplitResult.parse
  split_ifs <;> exact ⟨_, rfl⟩

/-- The parameters of a URL do not matter for its target. -/
theorem httpsTarget_parse_iff {text : UrlText} {url : SplitResult} {host : List Char} :
    HttpsTarget text url.parse.toSplitResult host ↔ HttpsTarget text url host := by
  obtain ⟨path, hpath⟩ := parse_eq url
  rw [hpath]
  exact ⟨fun h => ⟨h.1, h.2, h.3, h.4⟩, fun h => ⟨h.1, h.2, h.3, h.4⟩⟩

/-- The texts that `validate_https_url` accepts. -/
theorem validateHttpsUrl_eq_ok {text : UrlText} {value label : String} :
    validateHttpsUrl text value label = .ok () ↔ value.toList.any isUnsafeUrlChar = false ∧
      ∃ url, urlsplit text value = .ok url ∧
        ∃ host, HttpsTarget text url host ∧ ¬IsIpLiteral host ∧ IsDnsName (trimmedHost host) := by
  simp only [validateHttpsUrl, bind_eq_ok, raiseIf_eq_ok, exists_const, Bool.not_eq_true,
    urlparse_eq_ok, validateParsedUrl_eq_ok]
  constructor
  · rintro ⟨hsafe, parsed, ⟨url, hurl, rfl⟩, host, htarget, haccepted⟩
    exact ⟨hsafe, url, hurl, host, httpsTarget_parse_iff.mp htarget, haccepted⟩
  · rintro ⟨hsafe, url, hurl, host, htarget, haccepted⟩
    exact ⟨hsafe, _, ⟨url, hurl, rfl⟩, host, httpsTarget_parse_iff.mpr htarget, haccepted⟩

/-- The callback of the previous suite, as RFC 3986 reads its path. -/
structure IsLegacyCallback (text : UrlText) (url : SplitResult) : Prop where
  target : HttpsTarget text url "0.0.0.0".toList
  port : url.port = .ok (some 8443)
  path : url.path.rdropWhile (· == '/') = "/conformancesuite/callback".toList
  query : url.query = []
  fragment : url.fragment = []

/-- The test for the old callback accepts the old callbacks. -/
theorem isLegacyFcsCallback_iff {text : UrlText} {url : SplitResult} :
    isLegacyFcsCallback text url = true ↔ IsLegacyCallback text url := by
  unfold isLegacyFcsCallback
  constructor
  · intro h
    cases hport : url.port with
    | error e => simp [hport] at h
    | ok port =>
      simp only [hport, Bool.and_eq_true, beq_iff_eq, List.isEmpty_iff] at h
      obtain ⟨⟨⟨⟨⟨⟨hscheme, hhost⟩, rfl⟩, huser⟩, hpath⟩, hquery⟩, hfragment⟩ := h
      exact ⟨⟨hscheme, username_eq_none_iff.mp huser, ⟨_, hport, by simp⟩, hhost⟩, hport, hpath,
        hquery, hfragment⟩
  · intro h
    simp [h.port, h.target.https, h.target.hostname, username_eq_none_iff.mpr h.target.noUserinfo,
      h.path, h.query, h.fragment]

/-- The texts that `_is_legacy_fcs_redirect_uri` recognises. -/
theorem isLegacyFcsRedirectUri_eq_ok {text : UrlText} {value : String} :
    isLegacyFcsRedirectUri text value = .ok true ↔ value.toList.any isUnsafeUrlChar = false ∧
      ∃ url, urlsplit text value = .ok url ∧ IsLegacyCallback text url.parse.toSplitResult := by
  unfold isLegacyFcsRedirectUri
  cases hsafe : value.toList.any isUnsafeUrlChar with
  | true => simp
  | false =>
    simp only [Bool.false_eq_true, if_false, bind_eq_ok, urlparse_eq_ok, pure, Except.pure,
      Except.ok.injEq, isLegacyFcsCallback_iff, true_and]
    constructor
    · rintro ⟨parsed, ⟨url, hurl, rfl⟩, hcallback⟩
      exact ⟨url, hurl, hcallback⟩
    · rintro ⟨url, hurl, hcallback⟩
      exact ⟨_, ⟨url, hurl, rfl⟩, hcallback⟩

/-- The texts that `validate_oauth_redirect_uri` accepts. -/
theorem validateOauthRedirectUri_eq_ok {text : UrlText} {value label : String} :
    validateOauthRedirectUri text value label = .ok () ↔
      validateHttpsUrl text value label = .ok () ∨ isLegacyFcsRedirectUri text value = .ok true := by
  unfold validateOauthRedirectUri
  cases hchecked : validateHttpsUrl text value label with
  | ok => simp
  | error e =>
    constructor
    · intro h
      split at h
      · obtain ⟨legacy, hlegacy, hraise⟩ := bind_eq_ok.mp h
        rw [raiseIf_eq_ok, Bool.not_eq_false] at hraise
        exact .inr (hraise ▸ hlegacy)
      · cases h
    · rintro (h | hlegacy)
      · cases h
      · obtain ⟨hsafe, url, hurl, -⟩ := isLegacyFcsRedirectUri_eq_ok.mp hlegacy
        have hparsed : validateHttpsUrl text value label =
            validateParsedUrl text url.parse.toSplitResult label := by
          simp only [validateHttpsUrl, urlparse, hurl, hsafe]
          rfl
        obtain ⟨message, rfl⟩ := raisesOnly_validateParsedUrl e (hparsed ▸ hchecked)
        simp [hlegacy, bind, Except.bind, raiseIf]

/-! ## Accepted targets -/

/-- The two checks accept what they say: DNS names, and the callback of the previous suite. -/
def OnlyDnsTargets (text : UrlText) (value label : String) : Prop :=
  (validateHttpsUrl text value label = .ok () →
    ∃ url, urlsplit text value = .ok url ∧ DnsTarget text url) ∧
  (validateOauthRedirectUri text value label = .ok () →
    validateHttpsUrl text value label = .ok () ∨
      ∃ url, urlsplit text value = .ok url ∧ IsLegacyCallback text url)

/-- The host of an otherwise allowed URL is an IPv4 literal with a dot at its end. -/
def HasDottedIpv4Host (text : UrlText) (value : String) : Prop :=
  value.toList.any isUnsafeUrlChar = false ∧ ∃ url literal, urlsplit text value = .ok url ∧
    HttpsTarget text url (literal ++ ['.']) ∧ isIpv4 literal = true

/-- The path of an otherwise allowed callback has parameters. -/
def HasCallbackParameters (text : UrlText) (value : String) : Prop :=
  value.toList.any isUnsafeUrlChar = false ∧ ∃ url callback params,
    urlsplit text value = .ok url ∧ url.path = callback ++ ';' :: params ∧ '/' ∉ params ∧
      IsLegacyCallback text { url with path := callback }

/-- A path without the slashes at its end has no character that the callback has not. -/
theorem notMem_of_rdropWhile {c : Char} {path : List Char} (hc : c ≠ '/')
    (hpath : path.rdropWhile (· == '/') = "/conformancesuite/callback".toList)
    (hplain : c ∉ "/conformancesuite/callback".toList) : c ∉ path := by
  intro hmem
  rw [← List.rdropWhile_append_rtakeWhile (p := (· == '/')) (l := path), List.mem_append,
    hpath] at hmem
  exact hmem.elim hplain fun h => hc (by simpa using List.mem_rtakeWhile_imp h)

/-- Parsing drops the parameters of a callback. -/
theorem isLegacyCallback_parse_iff {text : UrlText} {url : SplitResult} :
    IsLegacyCallback text url.parse.toSplitResult ↔ IsLegacyCallback text url ∨
      ∃ callback params, url.path = callback ++ ';' :: params ∧ '/' ∉ params ∧
        IsLegacyCallback text { url with path := callback } := by
  -- `urlparse` cuts the last segment of an https path at its semicolon
  have hsemicolon : ';' ∉ "/conformancesuite/callback".toList := by decide
  have hparse (hsplit : String.ofList url.scheme ∈ usesParams ∧ ';' ∈ url.path) :
      url.parse.toSplitResult = { url with path := (splitParams url.path).1 } := by
    simp only [SplitResult.parse, if_pos hsplit]
  have hwhole (hsplit : ¬(String.ofList url.scheme ∈ usesParams ∧ ';' ∈ url.path)) :
      url.parse.toSplitResult = url := by
    simp only [SplitResult.parse, if_neg hsplit]
  constructor
  · intro h
    by_cases hsplit : String.ofList url.scheme ∈ usesParams ∧ ';' ∈ url.path
    · rw [hparse hsplit] at h
      rcases splitParams_cases url.path with hpair | ⟨callback, params, hpath, hparams, hpair⟩
      · rw [hpair] at h
        exact .inl h
      · rw [hpair] at h
        exact .inr ⟨callback, params, hpath, hparams, h⟩
    · rw [hwhole hsplit] at h
      exact .inl h
  · rintro (h | ⟨callback, params, hpath, hparams, h⟩)
    · rw [hwhole fun hsplit => notMem_of_rdropWhile (by decide) h.path hsemicolon hsplit.2]
      exact h
    · have hscheme : String.ofList url.scheme ∈ usesParams := by
        have hhttps : url.scheme = "https".toList := h.target.https
        rw [hhttps]
        decide
      rw [hparse ⟨hscheme, by simp [hpath]⟩, hpath,
        splitParams_append (notMem_of_rdropWhile (by decide) h.path hsemicolon) hparams]
      exact h

/-- A path ends at its last slash where parameters follow. -/
theorem not_isLegacyCallback_of_parameters {text : UrlText} {url : SplitResult}
    {callback params : List Char} (hpath : url.path = callback ++ ';' :: params) :
    ¬IsLegacyCallback text url := fun h =>
  notMem_of_rdropWhile (by decide) h.path (by decide) (show ';' ∈ url.path by simp [hpath])

/-- The checks accept nothing else unless an IPv4 literal with a dot at its end is the host
    of a URL, or parameters follow the path of the previous suite's callback. -/
theorem onlyDnsTargets_iff {text : UrlText} {value label : String} :
    OnlyDnsTargets text value label ↔
      ¬HasDottedIpv4Host text value ∧ ¬HasCallbackParameters text value := by
  constructor
  · rintro ⟨hnames, hredirects⟩
    constructor
    · rintro ⟨hsafe, url, literal, hurl, htarget, hliteral⟩
      -- with a dot at its end the address is a DNS name, and it is accepted
      have haccepted : validateHttpsUrl text value label = .ok () :=
        validateHttpsUrl_eq_ok.mpr ⟨hsafe, url, hurl, _, htarget, not_isIpLiteral_concat hliteral,
          (trimmedHost_concat literal).symm ▸ isDnsName_of_isIpv4 hliteral⟩
      obtain ⟨url', hurl', host, htarget', -, -, htrimmed⟩ := hnames haccepted
      obtain rfl : url = url' := Except.ok.inj (hurl.symm.trans hurl')
      obtain rfl : literal ++ ['.'] = host :=
        Option.some.inj (htarget.hostname.symm.trans htarget'.hostname)
      rw [trimmedHost_concat] at htrimmed
      exact htrimmed (.inl hliteral)
    · rintro ⟨hsafe, url, callback, params, hurl, hpath, hparams, hcallback⟩
      -- the parameters are cut off before the path is compared
      have hlegacy : isLegacyFcsRedirectUri text value = .ok true :=
        isLegacyFcsRedirectUri_eq_ok.mpr ⟨hsafe, url, hurl,
          isLegacyCallback_parse_iff.mpr (.inr ⟨callback, params, hpath, hparams, hcallback⟩)⟩
      rcases hredirects (validateOauthRedirectUri_eq_ok.mpr (.inr hlegacy)) with
        haccepted | ⟨url', hurl', hcallback'⟩
      · obtain ⟨-, url', hurl', host, htarget, hname, -⟩ := validateHttpsUrl_eq_ok.mp haccepted
        obtain rfl : url = url' := Except.ok.inj (hurl.symm.trans hurl')
        have hhost : url.hostname text = some "0.0.0.0".toList := hcallback.target.hostname
        obtain rfl : host = "0.0.0.0".toList :=
          Option.some.inj (htarget.hostname.symm.trans hhost)
        exact hname (.inl (by decide))
      · obtain rfl : url = url' := Except.ok.inj (hurl.symm.trans hurl')
        exact not_isLegacyCallback_of_parameters hpath hcallback'
  · rintro ⟨hdotted, hparameters⟩
    constructor
    · intro haccepted
      obtain ⟨hsafe, url, hurl, host, htarget, hhost, hname⟩ := validateHttpsUrl_eq_ok.mp haccepted
      refine ⟨url, hurl, host, htarget, hname, hhost, ?_⟩
      -- a DNS name has no colon, so only a dotted address is left
      rintro (hipv4 | hipv6)
      · rcases trimmedHost_cases host with htrimmed | htrimmed
        · exact hhost (.inl (htrimmed ▸ hipv4))
        · exact hdotted ⟨hsafe, url, _, hurl, htrimmed ▸ htarget, hipv4⟩
      · exact not_isIpv6_of_isDnsName hname hipv6
    · intro hredirect
      refine (validateOauthRedirectUri_eq_ok.mp hredirect).imp_right fun hlegacy => ?_
      obtain ⟨hsafe, url, hurl, hparsed⟩ := isLegacyFcsRedirectUri_eq_ok.mp hlegacy
      rcases isLegacyCallback_parse_iff.mp hparsed with
        hcallback | ⟨callback, params, hpath, hparams, hcallback⟩
      · exact ⟨url, hurl, hcallback⟩
      · exact absurd ⟨hsafe, url, callback, params, hurl, hpath, hparams, hcallback⟩ hparameters

/-- The tables of ASCII texts. -/
def asciiUrlText : UrlText where
  lower cs := cs.map Char.toLower
  normalizeNfkc cs := cs
  quoted cs := "'" ++ String.ofList cs ++ "'"

/-- The loopback address with a dot at its end is accepted. -/
theorem dottedLoopback_accepted :
    ¬OnlyDnsTargets asciiUrlText "https://127.0.0.1./" "discoveryUrl" := by
  rintro ⟨hnames, -⟩
  obtain ⟨url, hurl, host, htarget, -, -, htrimmed⟩ := hnames (by decide)
  have hsplit : urlsplit asciiUrlText "https://127.0.0.1./" =
      .ok ⟨"https".toList, "127.0.0.1.".toList, ['/'], [], []⟩ := by decide
  obtain rfl := Except.ok.inj (hsplit.symm.trans hurl)
  obtain rfl : "127.0.0.1.".toList = host := Option.some.inj
    (show some "127.0.0.1.".toList = some host from htarget.hostname)
  exact htrimmed (.inl (by decide))

end Conformance
