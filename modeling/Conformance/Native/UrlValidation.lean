import Conformance.Native.Manifest

/-!
# URL validation

`conformance/url_validation.py`, and `urlparse` of `urllib.parse` and `ip_address` of
`ipaddress`, which it rests on. `urlparse` raises a `ValueError` on some texts, and it is
called outside the `try` of `validate_https_url`. Unicode's case mapping and NFKC
normalisation, and the `repr` of a text, are the fields of `UrlText`.
-/

namespace Conformance

/-- What `urlparse` and `ip_address` take from Unicode tables. `quoted` is `repr` of a text. -/
structure UrlText where
  lower : List Char → List Char
  normalizeNfkc : List Char → List Char
  quoted : List Char → String

/-- `SplitResult`. -/
structure SplitResult where
  scheme : List Char
  netloc : List Char
  path : List Char
  query : List Char
  fragment : List Char
  deriving DecidableEq, Repr

/-- `ParseResult`: the path is without the parameters of its last segment. -/
structure ParseResult extends SplitResult where
  params : List Char
  deriving DecidableEq, Repr

/-! ## Splitting -/

/-- The parts of `cs.partition(c)` before and after the first `c`. -/
def partitionAt (c : Char) (cs : List Char) : List Char × List Char :=
  let before := cs.takeWhile (· ≠ c)
  (before, cs.drop (before.length + 1))

/-- `cs.rpartition(c)[2]`: what follows the last `c`. -/
def afterLast (c : Char) (cs : List Char) : List Char := cs.rtakeWhile (· ≠ c)

/-- A character of `scheme_chars`. -/
def isSchemeChar (c : Char) : Bool := isAsciiAlphanumeric c || "+-.".toList.contains c

/-- A letter of `[A-Za-z]`. -/
def isAsciiLetter (c : Char) : Bool := ('A' ≤ c && c ≤ 'Z') || ('a' ≤ c && c ≤ 'z')

/-- The scheme, in lower case, and what follows its colon. -/
def splitScheme (url : List Char) : List Char × List Char :=
  let scheme := (partitionAt ':' url).1
  if ':' ∈ url ∧ scheme.head?.any isAsciiLetter = true ∧ scheme.all isSchemeChar = true then
    (scheme.map Char.toLower, (partitionAt ':' url).2)
  else ([], url)

/-- `_splitnetloc`, where the text begins with two slashes. -/
def splitNetloc (url : List Char) : List Char × List Char :=
  match url with
  | '/' :: '/' :: rest =>
    let netloc := rest.takeWhile fun c => !"/?#".toList.contains c
    (netloc, rest.drop netloc.length)
  | _ => ([], url)

/-- A character of `[a-fA-F0-9]`. -/
def isHexDigit (c : Char) : Bool :=
  ('a' ≤ c && c ≤ 'f') || ('A' ≤ c && c ≤ 'F') || ('0' ≤ c && c ≤ '9')

/-- `re.match(r"\Av[a-fA-F0-9]+\..+\z", hostname)`. -/
def isIpvFuture (hostname : List Char) : Bool :=
  match hostname with
  | 'v' :: rest =>
    let version := rest.takeWhile isHexDigit
    match rest.drop version.length with
    | '.' :: address => !version.isEmpty && !address.isEmpty && address.all (· ≠ '\n')
    | _ => false
  | _ => false

/-! ## Addresses -/

/-- The kinds of address `ip_address` tells apart. -/
inductive IpVersion where
  | v4
  | v6
  deriving DecidableEq, Repr

/-- A digit of `[0-9]`. -/
def isAsciiDigit (c : Char) : Bool := '0' ≤ c && c ≤ '9'

/-- What `IPv4Address._parse_octet` accepts. -/
def isOctet (octet : List Char) : Bool :=
  !octet.isEmpty && octet.all isAsciiDigit && octet.length ≤ 3 &&
    (octet == ['0'] || octet.head? != some '0') && (decimalValue? (String.ofList octet)).any (· ≤ 255)

/-- The texts of an `IPv4Address`. -/
def isIpv4 (address : List Char) : Bool :=
  let octets := address.splitOn '.'
  octets.length == 4 && octets.all isOctet

/-- What `IPv6Address._parse_hextet` accepts. -/
def isHextet (hextet : List Char) : Bool :=
  !hextet.isEmpty && hextet.all isHexDigit && hextet.length ≤ 4

/-- The parts of an IPv6 address. An IPv4 address at the end is put as two hextets, whose
    digits do not matter here. -/
def hextetParts (address : List Char) : Option (List (List Char)) :=
  let parts := address.splitOn ':'
  let last := parts.getLastD []
  if '.' ∉ last then some parts
  else if isIpv4 last then some (parts.dropLast ++ [['0'], ['0']])
  else none

/-- Whether parts make up eight hextets, some of which `::` may stand for. -/
def areHextets (parts : List (List Char)) : Bool :=
  match parts.tail.dropLast.findIdx? (·.isEmpty) with
  | none => parts.length == 8 && parts.all isHextet
  | some index =>
    -- a second `::` or a single colon at an end leaves an empty part here
    let high := if index = 0 ∧ parts.head? = some [] then [] else parts.take (index + 1)
    let rest := parts.drop (index + 2)
    let low := if rest = [[]] then [] else rest
    high.length + low.length ≤ 7 && high.all isHextet && low.all isHextet

/-- The texts of an `IPv6Address`. -/
def isIpv6 (address : List Char) : Bool :=
  let parts := partitionAt '%' address
  !address.contains '/' && (!address.contains '%' || (!parts.2.isEmpty && !parts.2.contains '%')) &&
    (hextetParts parts.1).any areHextets

section UrlParse

variable (text : UrlText)

/-- `ip_address`, with the message of its `ValueError`. -/
def ipAddress (address : List Char) : Except String IpVersion :=
  if isIpv4 address then .ok .v4
  else if isIpv6 address then .ok .v6
  else .error (text.quoted address ++ " does not appear to be an IPv4 or IPv6 address")

/-- `_check_bracketed_host`. -/
def checkBracketedHost (hostname : List Char) : Except PyError Unit :=
  if hostname.head? = some 'v' then
    Except.raiseIf (isIpvFuture hostname = false) (.valueError "IPvFuture address is invalid")
  else
    match ipAddress text hostname with
    | .error message => .error (.valueError message)
    | .ok .v4 => .error (.valueError "An IPv4 address cannot be in brackets")
    | .ok .v6 => .ok ()

/-- `_check_bracketed_netloc`. -/
def checkBracketedNetloc (netloc : List Char) : Except PyError Unit := do
  let hostnameAndPort := afterLast '@' netloc
  if '[' ∈ hostnameAndPort then
    let bracketed := partitionAt '[' hostnameAndPort
    Except.raiseIf (bracketed.1 ≠ []) (.valueError "Invalid IPv6 URL")
    let hostname := partitionAt ']' bracketed.2
    Except.raiseIf (hostname.2 ≠ [] ∧ hostname.2.head? ≠ some ':') (.valueError "Invalid IPv6 URL")
    checkBracketedHost text hostname.1
  else checkBracketedHost text (partitionAt ':' hostnameAndPort).1

/-- The checks on the brackets of an authority. -/
def checkBrackets (netloc : List Char) : Except PyError Unit := do
  Except.raiseIf (('[' ∈ netloc ∧ ']' ∉ netloc) ∨ (']' ∈ netloc ∧ '[' ∉ netloc))
    (.valueError "Invalid IPv6 URL")
  if '[' ∈ netloc ∧ ']' ∈ netloc then checkBracketedNetloc text netloc

/-- `_checknetloc`. -/
def checkNetloc (netloc : List Char) : Except PyError Unit :=
  if netloc.all (fun c => c.toNat < 128) = true then .ok ()
  else
    let plain := netloc.filter fun c => !"@:#?".toList.contains c
    let normalized := text.normalizeNfkc plain
    Except.raiseIf (plain ≠ normalized ∧ (normalized.any fun c => "/?#@:".toList.contains c) = true)
      (.valueError ("netloc '" ++ String.ofList netloc ++ "' contains invalid characters " ++
        "under NFKC normalization"))

/-- `uses_params`. -/
def usesParams : List String :=
  ["", "ftp", "hdl", "prospero", "http", "https", "shttp", "rtsp", "rtsps", "rtspu", "sip", "sips",
    "mms", "sftp", "tel"]

/-- `_splitparams`, on a path with a semicolon: the parameters are those of the last
    segment. -/
def splitParams (path : List Char) : List Char × List Char :=
  let last := afterLast '/' path
  if ';' ∈ last then
    (path.take (path.length - last.length) ++ (partitionAt ';' last).1, (partitionAt ';' last).2)
  else (path, [])

/-- `urlsplit`. -/
def urlsplit (value : String) : Except PyError SplitResult := do
  let url := (value.toList.dropWhile fun c => c.toNat ≤ 0x20).filter fun c =>
    !"\t\r\n".toList.contains c
  let (scheme, rest) := splitScheme url
  let (netloc, rest) := splitNetloc rest
  checkBrackets text netloc
  let (rest, fragment) := partitionAt '#' rest
  let (path, query) := partitionAt '?' rest
  checkNetloc text netloc
  return { scheme := scheme, netloc := netloc, path := path, query := query,
           fragment := fragment }

/-- The step from `SplitResult` to `ParseResult`. -/
def SplitResult.parse (url : SplitResult) : ParseResult :=
  if String.ofList url.scheme ∈ usesParams ∧ ';' ∈ url.path then
    { url with path := (splitParams url.path).1, params := (splitParams url.path).2 }
  else { url with params := [] }

/-- `urlparse`. -/
def urlparse (value : String) : Except PyError ParseResult := do
  let url ← urlsplit text value
  return url.parse

end UrlParse

namespace SplitResult

variable (url : SplitResult)

/-- `_hostinfo`: the host and the text of the port, which may be empty. -/
def hostinfo : List Char × List Char :=
  let hostinfo := afterLast '@' url.netloc
  if '[' ∈ hostinfo then
    let bracketed := partitionAt ']' (partitionAt '[' hostinfo).2
    (bracketed.1, (partitionAt ':' bracketed.2).2)
  else partitionAt ':' hostinfo

/-- `hostname`: the zone of a scoped address keeps its case. -/
def hostname (text : UrlText) : Option (List Char) :=
  let host := url.hostinfo.1
  if host = [] then none
  else
    let name := host.takeWhile (· ≠ '%')
    some (text.lower name ++ host.drop name.length)

/-- `port`. -/
def port : Except PyError (Option Nat) :=
  let port := url.hostinfo.2
  if port = [] then .ok none
  else if port.all isAsciiDigit = false then
    .error (.valueError ("Port could not be cast to integer value as '" ++ String.ofList port ++ "'"))
  else
    match decimalValue? (String.ofList port) with
    | none => .error (.valueError "Exceeds the limit (4300 digits) for integer string conversion")
    | some port =>
      if port ≤ 65535 then .ok (some port) else .error (.valueError "Port out of range 0-65535")

/-- `username`. -/
def username : Option (List Char) :=
  if '@' ∈ url.netloc then
    some (partitionAt ':' (url.netloc.take (url.netloc.length -
      (afterLast '@' url.netloc).length - 1))).1
  else none

end SplitResult

/-! ## Hostnames -/

section Validation

variable (text : UrlText)

/-- A label of a DNS name. -/
def isHostnameLabel (label : List Char) : Bool :=
  !label.isEmpty && label.length ≤ 63 && label.head? != some '-' && label.getLast? != some '-' &&
    label.all fun c => isAsciiAlphanumeric c || c == '-'

/-- `_validate_dns_hostname`. -/
def validateDnsHostname (hostname : List Char) (label : String) : Except PyError Unit := do
  let problem : PyError := .httpsUrlValidationError s!"{label} must be a valid HTTPS URL"
  Except.raiseIf ((hostname.all fun c => c.toNat < 128) = false) problem
  let trimmedHostname := if hostname.getLast? = some '.' then hostname.dropLast else hostname
  Except.raiseIf (trimmedHostname = [] ∨ trimmedHostname.length > 253) problem
  Except.raiseIf ((trimmedHostname.splitOn '.').all isHostnameLabel = false) problem

/-- `_validate_hostname`. -/
def validateHostname (hostname : List Char) (label : String) : Except PyError Unit :=
  match ipAddress text hostname with
  | .ok _ =>
    .error (.httpsUrlValidationError s!"{label} must use a DNS hostname, not an IP literal")
  | .error _ => validateDnsHostname hostname label

/-! ## The two checks -/

/-- White space or a control character. -/
def isUnsafeUrlChar (c : Char) : Bool := isSpace c || c.toNat < 32 || c.toNat == 127

/-- `except ValueError as error: raise HttpsUrlValidationError(...)`, on reading the port. -/
def parsedPort (url : SplitResult) (label : String) : Except PyError (Option Nat) :=
  match url.port with
  | .ok port => .ok port
  | .error _ => .error (.httpsUrlValidationError s!"{label} must be a valid HTTPS URL")

/-- The checks of `validate_https_url` on a URL that was parsed. -/
def validateParsedUrl (url : SplitResult) (label : String) : Except PyError Unit := do
  let port ← parsedPort url label
  Except.raiseIf (port = some 0) (.httpsUrlValidationError s!"{label} must be a valid HTTPS URL")
  let notHttps : PyError := .httpsUrlValidationError s!"{label} must be an HTTPS URL"
  Except.raiseIf (url.scheme ≠ "https".toList) notHttps
  match url.hostname text with
  | none => throw notHttps
  | some hostname =>
    -- a password comes with a user name
    Except.raiseIf (url.username ≠ none)
      (.httpsUrlValidationError s!"{label} must not include credentials")
    validateHostname text hostname label

/-- `validate_https_url`. -/
def validateHttpsUrl (value label : String) : Except PyError Unit := do
  Except.raiseIf (value.toList.any isUnsafeUrlChar = true)
    (.httpsUrlValidationError s!"{label} must be a valid HTTPS URL")
  let url ← urlparse text value
  validateParsedUrl text url.toSplitResult label

/-- The host, port and path of the previous suite's callback, in a URL that was parsed. -/
def isLegacyFcsCallback (url : SplitResult) : Bool :=
  match url.port with
  | .error _ => false
  | .ok port =>
    url.scheme == "https".toList && url.hostname text == some "0.0.0.0".toList &&
      port == some 8443 && url.username == none &&
      url.path.rdropWhile (· == '/') == "/conformancesuite/callback".toList &&
      url.query.isEmpty && url.fragment.isEmpty

/-- `_is_legacy_fcs_redirect_uri`. -/
def isLegacyFcsRedirectUri (value : String) : Except PyError Bool :=
  if value.toList.any isUnsafeUrlChar then .ok false
  else do
    let url ← urlparse text value
    return isLegacyFcsCallback text url.toSplitResult

/-- `validate_oauth_redirect_uri`. -/
def validateOauthRedirectUri (value label : String) : Except PyError Unit :=
  match validateHttpsUrl text value label with
  | .error (.httpsUrlValidationError message) => do
    let legacy ← isLegacyFcsRedirectUri text value
    Except.raiseIf (legacy = false) (.httpsUrlValidationError message)
  | checked => checked

end Validation

end Conformance
