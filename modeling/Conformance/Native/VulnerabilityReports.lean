import Conformance.Native.UrlQuery
import Conformance.Native.VulnerabilityGate

/-!
# Scanner reports

The parsers of `scripts/vulnerability_gate.py` for the reports of Docker Scout, Snyk and
pip-audit, for the OpenVEX document and for the exceptions file, and `main` on the files that
are given. `None` and the JSON `null` are one Python value; a document that `json.loads`
returns holds no `int` of more than 4300 digits.
-/

namespace Conformance.VulnerabilityGate

/-- `GateInputError`, and the other exceptions that are raised in the parsers or in `main`. -/
inductive GateError where
  | gateInput (message : String)
  | osError (message : String)
  | decodeError (message : String)
  | unicodeDecodeError
  | recursionError
  | typeError (message : String)
  | valueError (message : String)
  | indexError
  deriving DecidableEq, Repr

/-! ## Documents -/

/-- What `json.loads` returns: it refuses an `int` of more than 4300 digits. -/
def LoadedJson := {value : Json // hasLongInt value = false}

/-- A value of a TOML document. -/
inductive Toml where
  | str (text : String)
  | int (n : Int)
  | float (q : Rat)
  | bool (b : Bool)
  | date (date : Date)
  | datetime (text : String)
  | time (text : String)
  | arr (items : List Toml)
  | table (fields : List (String × Toml))
  deriving Inhabited

/-- What `json.loads` and `tomllib.loads` raise: `JSONDecodeError` and `TOMLDecodeError`, the
    `ValueError` of an `int` of more than 4300 digits, and the `RecursionError` of a document
    that is nested too deeply. -/
inductive LoadError where
  | decodeError (message : String)
  | longInt (message : String)
  | recursionError
  deriving DecidableEq, Repr

/-- The exception in the parsers. -/
def LoadError.toGateError : LoadError → GateError
  | .decodeError message => .decodeError message
  | .longInt message => .valueError message
  | .recursionError => .recursionError

/-- What the parsers use besides the text functions: `json.loads` and `tomllib.loads`, `str` and
    `repr` of a value that is no string, and `date.fromisoformat`, with `none` for its
    `ValueError`. -/
structure ReportLibrary extends TextFunctions where
  jsonLoads : String → Except LoadError LoadedJson
  tomlLoads : String → Except LoadError (List (String × Toml))
  pyStr : Json → String
  pyRepr : Json → String
  fromisoformat : String → Option Date

/-! ## Narrowing -/

/-- `fields.get(key)`. -/
def getItem (fields : JsonObject) (key : String) : Json := (fields.lookup key).getD .null

/-- `_as_dict`. -/
def asDict (value : Json) (context : String) : Except GateError JsonObject :=
  match value with
  | .obj fields => .ok fields
  | _ => .error (.gateInput (context ++ ": expected an object."))

/-- `_as_list`. -/
def asList (value : Json) (context : String) : Except GateError (List Json) :=
  match value with
  | .arr items => .ok items
  | _ => .error (.gateInput (context ++ ": expected a list."))

/-- `isinstance(value, str)`. -/
def str? : Json → Option String
  | .str text => some text
  | _ => none

/-- `_strings`. -/
def strings : Json → List String
  | .str text => [text]
  | .arr items => (items.filterMap str?).filter (· ≠ "")
  | _ => []

/-- `bool(value)`. -/
def truthy : Json → Bool
  | .null => false
  | .bool b => b
  | .int n => n ≠ 0
  | .float q => q ≠ 0
  | .str text => text ≠ ""
  | .arr items => !items.isEmpty
  | .obj fields => !fields.isEmpty

/-- `first or second`. -/
def pyOr (first second : Json) : Json := if truthy first then first else second

/-- A text that is made of a value. -/
def madeText (write : Json → String) (value : Json) : Except GateError String :=
  if hasLongInt value then .error (.valueError ("Exceeds the limit (4300 digits) " ++
    "for integer string conversion; use sys.set_int_max_str_digits() to increase the limit"))
  else .ok (write value)

section Parsers

variable (library : ReportLibrary)

/-- `str(value)`. -/
def strOf : Json → Except GateError String
  | .str text => .ok text
  | value => madeText library.pyStr value

/-- `repr(value)`. -/
def reprOf : Json → Except GateError String
  | .str text => .ok (library.repr text)
  | value => madeText library.pyRepr value

/-! ## Package URLs and severities -/

/-- `_ECOSYSTEM_ALIASES`. -/
def ecosystemAliases : List (String × String) :=
  [("pip", "pypi"), ("poetry", "pypi"), ("pipenv", "pypi"), ("uv", "pypi"), ("python", "pypi"),
   ("pypi", "pypi"), ("deb", "deb"), ("apk", "apk"), ("rpm", "rpm")]

/-- `_ECOSYSTEM_ALIASES.get(name, name)`. -/
def ecosystemOf (name : String) : String := (ecosystemAliases.lookup name).getD name

/-- `parse_purl`. -/
def parsePurl (purl : String) : Option (String × String × String) :=
  if !("pkg:".toList.isPrefixOf purl.toList) then none
  else
    let body := ((purl.toList.drop 4).takeWhile (· ≠ '#')).takeWhile (· ≠ '?')
    if '/' ∉ body then none
    else
      let purlType := body.takeWhile (· ≠ '/')
      let remainder := (body.dropWhile (· ≠ '/')).drop 1
      let (namePart, version) :=
        if '@' ∈ remainder then
          ((remainder.rdropWhile (· ≠ '@')).dropLast, remainder.rtakeWhile (· ≠ '@'))
        else (remainder, [])
      let name := String.ofList (unquote (namePart.rtakeWhile (· ≠ '/')))
      let ecosystem := ecosystemOf (library.lower (String.ofList purlType))
      some (ecosystem, normalisePackage library.toTextFunctions ecosystem name,
        String.ofList (unquote version))

/-- `normalise_severity`. -/
def normaliseSeverity (value : Json) : Severity :=
  match value with
  | .str text =>
    let label := library.lower (strip text)
    if label = "critical" then .critical
    else if label = "high" then .high
    else if label = "medium" then .medium
    else if label = "low" then .low
    else .unknown
  | _ => .unknown

def APPLICATION_ROOT : String := "/app/"

/-- `text.startswith(APPLICATION_ROOT)`. -/
def isApplicationPath (text : String) : Bool := APPLICATION_ROOT.toList.isPrefixOf text.toList

/-! ## Docker Scout -/

/-- `isinstance(value, int)`, which a `bool` is too. -/
def int? : Json → Option Int
  | .int n => some n
  | .bool b => some (if b then 1 else 0)
  | _ => none

/-- `rules[rule_index]`. -/
def scoutRule (rules : List JsonObject) (ruleIndex : Json) : Except GateError JsonObject :=
  match (int? ruleIndex).bind fun n => if 0 ≤ n then rules[n.toNat]? else none with
  | some rule => .ok rule
  | none => .error (.gateInput "Scout SARIF result has no valid ruleIndex.")

/-- The `rule_id` of a rule. -/
def scoutRuleId (rule : JsonObject) : Except GateError String :=
  match (str? (getItem rule "id")).filter (· ≠ "") with
  | some ruleId => .ok ruleId
  | none => .error (.gateInput "Scout SARIF rule has no id.")

/-- The physical part of a location. -/
def physicalLocation (location : Json) : Except GateError JsonObject := do
  let fields ← asDict location "location"
  asDict ((fields.lookup "physicalLocation").getD (.obj [])) "physicalLocation"

/-- The `uri` of a location, when it is a string. -/
def locationUri (location : JsonObject) : Except GateError (Option String) := do
  let artifact ← asDict ((location.lookup "artifactLocation").getD (.obj [])) "artifact"
  return str? (getItem artifact "uri")

/-- The body of the loop over the package URLs of a rule. -/
def scoutFinding (ruleId : String) (severity : Json) (fixedVersions : Finset String)
    (application : Bool) (short : Json) (purl : String) : Except GateError RawFinding :=
  match parsePurl library purl with
  | none => .error (.gateInput ("Scout SARIF rule " ++ ruleId ++ " has an invalid package URL " ++
      library.repr purl ++ "."))
  | some (ecosystem, package, version) => .ok
    { source := "docker-scout", ids := {ruleId}, ecosystem, package, version,
      severity := normaliseSeverity library severity, fixedVersions, application,
      title := (str? short).getD "" }

/-- `fixed_versions` of a rule. -/
def scoutFixedVersions (fixed : Json) : Finset String :=
  match fixed with
  | .str text => if strip text ≠ "" ∧ library.lower (strip text) ≠ "not fixed" then {strip text}
      else ∅
  | _ => ∅

/-- The body of the loop over the results of a run. -/
def parseScoutResult (rules : List JsonObject) (resultValue : Json) :
    Except GateError (List RawFinding) := do
  let result ← asDict resultValue "Scout SARIF result"
  let rule ← scoutRule rules (getItem result "ruleIndex")
  let ruleId ← scoutRuleId rule
  let properties ← asDict ((rule.lookup "properties").getD (.obj []))
    "Scout SARIF rule properties"
  let locationValues ← asList ((result.lookup "locations").getD (.arr []))
    "Scout SARIF locations"
  let locations ← locationValues.mapM physicalLocation
  let uris ← locations.mapM locationUri
  let application := (uris.filterMap id).any isApplicationPath
  let purls := strings (getItem properties "purls")
  Except.raiseIf (purls = []) (.gateInput ("Scout SARIF rule " ++ ruleId ++
    " has no package URL."))
  let shortDescription ← asDict ((rule.lookup "shortDescription").getD (.obj []))
    "shortDescription"
  purls.mapM (scoutFinding library ruleId (getItem properties "cvssV3_severity")
    (scoutFixedVersions library (getItem properties "fixed_version")) application
    (getItem shortDescription "text"))

/-- The body of the loop over the runs. -/
def parseScoutRun (entry : Json × Nat) : Except GateError (List RawFinding) := do
  let run ← asDict entry.1 ("Scout SARIF run " ++ toString entry.2)
  let tool ← asDict (getItem run "tool") "Scout SARIF tool"
  let driver ← asDict (getItem tool "driver") "Scout SARIF driver"
  let ruleValues ← asList ((driver.lookup "rules").getD (.arr [])) "Scout rules"
  let rules ← ruleValues.mapM fun rule => asDict rule "Scout SARIF rule"
  let results ← asList ((run.lookup "results").getD (.arr [])) "Scout SARIF results"
  let findings ← results.mapM (parseScoutResult library rules)
  return findings.flatten

/-- `parse_scout_sarif`. -/
def parseScoutSarif (document : Json) : Except GateError (List RawFinding) := do
  let root ← asDict document "Scout SARIF"
  let runs ← asList (getItem root "runs") "Scout SARIF runs"
  let findings ← runs.zipIdx.mapM (parseScoutRun library)
  return findings.flatten

/-! ## Snyk -/

/-- `ids` of a Snyk vulnerability. -/
def snykIds (snykId : String) (identifiers : JsonObject) : Finset String :=
  (snykId :: ["CVE", "GHSA", "PYSEC"].flatMap fun key => strings (getItem identifiers key)).toFinset

/-- `snyk_id`, `name` and `version` of a vulnerability. -/
def snykTexts (vuln : JsonObject) : Except GateError (String × String × String) :=
  match str? (getItem vuln "id"), str? (getItem vuln "packageName"),
      str? (getItem vuln "version") with
  | some snykId, some name, some version => .ok (snykId, name, version)
  | _, _, _ => .error (.gateInput "Snyk vulnerability is missing id, packageName, or version.")

/-- The body of the loop over the vulnerabilities of a project. -/
def parseSnykVulnerability (ecosystem : String) (application : Bool) (vulnValue : Json) :
    Except GateError RawFinding := do
  let vuln ← asDict vulnValue "Snyk vulnerability"
  let (snykId, name, version) ← snykTexts vuln
  let identifiers ← asDict ((vuln.lookup "identifiers").getD (.obj [])) "Snyk identifiers"
  return { source := "snyk", ids := snykIds snykId identifiers, ecosystem,
           package := normalisePackage library.toTextFunctions ecosystem name, version,
           severity := normaliseSeverity library (getItem vuln "severity"),
           fixedVersions := (strings (getItem vuln "fixedIn")).toFinset, application,
           title := (str? (getItem vuln "title")).getD "" }

/-- A project that Snyk could not scan. -/
def projectFailed (project : JsonObject) : Bool :=
  (getItem project "ok" matches .bool false) && (project.lookup "vulnerabilities").isNone

/-- The error of a project that failed. -/
def checkProject (project : JsonObject) (index : Nat) : Except GateError Unit :=
  if projectFailed project then do
    let error ← strOf library ((project.lookup "error").getD (.str "unknown error"))
    .error (.gateInput ("Snyk project " ++ toString index ++ " failed: " ++ error))
  else .ok ()

/-- The body of the loop over the projects. -/
def parseSnykProject (entry : Json × Nat) : Except GateError (List RawFinding) := do
  let project ← asDict entry.1 ("Snyk project " ++ toString entry.2)
  checkProject library project entry.2
  let manager ← strOf library ((project.lookup "packageManager").getD (.str ""))
  let ecosystem := ecosystemOf (library.lower manager)
  let target ← strOf library (pyOr (pyOr (getItem project "displayTargetFile")
    (getItem project "targetFile")) (.str ""))
  let vulns ← asList ((project.lookup "vulnerabilities").getD (.arr [])) "Snyk vulnerabilities"
  vulns.mapM (parseSnykVulnerability library ecosystem (isApplicationPath target))

/-- The projects of a Snyk report. -/
def snykProjects : Json → List Json
  | .arr projects => projects
  | document => [document]

/-- `parse_snyk_json`. -/
def parseSnykJson (document : Json) : Except GateError (List RawFinding) := do
  let findings ← (snykProjects document).zipIdx.mapM (parseSnykProject library)
  return findings.flatten

/-! ## pip-audit -/

/-- `vuln_id` and `version` of a vulnerability. -/
def pipAuditTexts (name : String) (vuln : JsonObject) (version : Json) :
    Except GateError (String × String) :=
  match str? (getItem vuln "id"), str? version with
  | some vulnId, some version => .ok (vulnId, version)
  | _, _ => .error (.gateInput ("pip-audit vulnerability for " ++ name ++
      " has no id or version."))

/-- `ids` of a pip-audit vulnerability. -/
def pipAuditIds (vulnId : String) (vuln : JsonObject) : Finset String :=
  (vulnId :: strings (getItem vuln "aliases")).toFinset

/-- The body of the loop over the vulnerabilities of a dependency. -/
def parsePipAuditVuln (name : String) (version : Json) (vulnValue : Json) :
    Except GateError RawFinding := do
  let vuln ← asDict vulnValue "pip-audit vuln"
  let (vulnId, version) ← pipAuditTexts name vuln version
  return { source := "pip-audit", ids := pipAuditIds vulnId vuln, ecosystem := "pypi",
           package := normalisePackage library.toTextFunctions "pypi" name, version,
           severity := .unknown,
           fixedVersions := (strings (getItem vuln "fix_versions")).toFinset,
           application := true }

/-- `name` of a dependency. -/
def dependencyName (dependency : JsonObject) : Except GateError String :=
  match str? (getItem dependency "name") with
  | some name => .ok name
  | none => .error (.gateInput "pip-audit dependency has no name.")

/-- The error of a dependency that was skipped. -/
def checkNotSkipped (name : String) (dependency : JsonObject) : Except GateError Unit :=
  match dependency.lookup "skip_reason" with
  | some reason => do
    let reason ← strOf library reason
    .error (.gateInput ("pip-audit skipped " ++ name ++ ": " ++ reason))
  | none => .ok ()

/-- The body of the loop over the dependencies. -/
def parsePipAuditDependency (dependencyValue : Json) : Except GateError (List RawFinding) := do
  let dependency ← asDict dependencyValue "pip-audit dependency"
  let name ← dependencyName dependency
  checkNotSkipped library name dependency
  let vulns ← asList ((dependency.lookup "vulns").getD (.arr [])) "pip-audit vulns"
  vulns.mapM (parsePipAuditVuln library name (getItem dependency "version"))

/-- `parse_pip_audit_json`. -/
def parsePipAuditJson (document : Json) : Except GateError (List RawFinding) := do
  let root ← asDict document "pip-audit report"
  let dependencies ← asList (getItem root "dependencies") "pip-audit dependencies"
  let findings ← dependencies.mapM (parsePipAuditDependency library)
  return findings.flatten

/-! ## OpenVEX -/

/-- `status in VEX_SUPPRESSING_STATUSES`: a list or an object cannot be hashed. -/
def isSuppressing : Json → Except GateError Bool
  | .str status => .ok (status == "not_affected" || status == "fixed")
  | .arr _ => .error (.typeError "cannot use 'list' as a set element (unhashable type: 'list')")
  | .obj _ => .error (.typeError "cannot use 'dict' as a set element (unhashable type: 'dict')")
  | _ => .ok false

/-- The package version of a product, when it has one. -/
def vexProduct (productValue : Json) : Except GateError (Option (String × String × String)) := do
  let product ← asDict productValue "OpenVEX product"
  return ((str? (getItem product "@id")).bind (parsePurl library)).filter fun parsed =>
    parsed.2.2 ≠ ""

/-- A statement whose status suppresses; `none` when it names no identifier or no product. -/
def parseSuppressing (statement : JsonObject) : Except GateError (Option VexStatement) := do
  let vulnerability ← asDict (getItem statement "vulnerability") "OpenVEX vulnerability"
  let ids := (strings (getItem vulnerability "name") ++
    strings (getItem vulnerability "aliases")).toFinset
  let productValues ← asList ((statement.lookup "products").getD (.arr [])) "OpenVEX products"
  let parsed ← productValues.mapM (vexProduct library)
  let products := (parsed.filterMap id).toFinset
  if ids = ∅ ∨ products = ∅ then .ok none
  else do
    let status ← strOf library (getItem statement "status")
    let justification ← strOf library (pyOr (pyOr (getItem statement "justification")
      (getItem statement "status_justification")) (getItem statement "status"))
    return some { ids, products, status, justification }

/-- The body of the loop over the statements; `none` when it keeps nothing. -/
def parseVexStatement (statementValue : Json) : Except GateError (Option VexStatement) := do
  let statement ← asDict statementValue "OpenVEX statement"
  let suppressing ← isSuppressing (getItem statement "status")
  if suppressing then parseSuppressing library statement else .ok none

/-- The document is of the expected party. -/
def isTrustedAuthor (authorSuffix : String) (author : Json) : Bool :=
  (str? author).any fun name => authorSuffix.toList.isSuffixOf name.toList

/-- The error of a document by another author. -/
def checkAuthor (authorSuffix : String) (author : Json) : Except GateError Unit :=
  if isTrustedAuthor authorSuffix author then .ok ()
  else do
    let author ← reprOf library author
    .error (.gateInput ("OpenVEX author " ++ author ++ " is not trusted (expected suffix " ++
      library.repr authorSuffix ++ ")."))

/-- `parse_openvex`. -/
def parseOpenvex (authorSuffix : String) (document : Json) :
    Except GateError (List VexStatement) := do
  let root ← asDict document "OpenVEX document"
  checkAuthor library authorSuffix (getItem root "author")
  let statementValues ← asList (getItem root "statements") "OpenVEX statements"
  let statements ← statementValues.mapM (parseVexStatement library)
  return statements.filterMap id

/-! ## The exceptions file -/

/-- `_parse_date`; a `datetime` is a `date`, and is left out. -/
def parseDate (value : Option Toml) (fieldName context : String) : Except GateError Date :=
  let malformed := .error (.gateInput (context ++ ": " ++ fieldName ++
    " must be a YYYY-MM-DD date."))
  match value with
  | some (.date date) => .ok date
  | some (.str text) =>
    match library.fromisoformat text with
    | some date => .ok date
    | none => malformed
  | _ => malformed

/-- A required text of an entry. -/
def requiredText (entry : List (String × Toml)) (name context : String) :
    Except GateError String :=
  match entry.lookup name with
  | some (.str text) =>
    if strip text = "" then .error (.gateInput (context ++ ": " ++ name ++ " is required."))
    else .ok (strip text)
  | _ => .error (.gateInput (context ++ ": " ++ name ++ " is required."))

/-- The fields an entry may have. -/
def exceptionFields : List String :=
  ["id", "package", "reason", "owner", "approver", "created", "expires"]

/-- `repr` of a list of strings. -/
def reprStrings (texts : List String) : String :=
  "[" ++ ", ".intercalate (texts.map library.repr) ++ "]"

/-- `_as_dict` of an entry. -/
def asTable (value : Toml) (context : String) : Except GateError (List (String × Toml)) :=
  match value with
  | .table fields => .ok fields
  | _ => .error (.gateInput (context ++ ": expected an object."))

/-- The body of the loop over the entries. -/
def loadException (entry : Toml × Nat) : Except GateError VulnerabilityException := do
  let context := "exception #" ++ toString (entry.2 + 1)
  let fields ← asTable entry.1 context
  let unknown := (fields.map Prod.fst).filter (· ∉ exceptionFields)
  Except.raiseIf (unknown ≠ []) (.gateInput (context ++ ": unknown fields " ++
    reprStrings library (sorted unknown) ++ "."))
  let id ← requiredText fields "id" context
  let package ← requiredText fields "package" context
  let reason ← requiredText fields "reason" context
  let owner ← requiredText fields "owner" context
  let approver ← requiredText fields "approver" context
  let created ← parseDate library (fields.lookup "created") "created" context
  let expires ← parseDate library (fields.lookup "expires") "expires" context
  return { id, package, reason, owner, approver, created, expires }

/-- `load_exceptions`. -/
def loadExceptions (document : List (String × Toml)) :
    Except GateError (List VulnerabilityException) :=
  match (document.lookup "exception").getD (.arr []) with
  | .arr entries => entries.zipIdx.mapM (loadException library)
  | _ => .error (.gateInput "exceptions file 'exception' array: expected a list.")

/-! ## The gate -/

/-- A file: its path, and its bytes or the text of the `OSError` of reading them. -/
structure InputFile where
  path : String
  content : Except String ByteArray

/-- The line ends of a text that is read. -/
def universalNewlines : List Char → List Char
  | '\r' :: '\n' :: rest => '\n' :: universalNewlines rest
  | '\r' :: rest => '\n' :: universalNewlines rest
  | c :: rest => c :: universalNewlines rest
  | [] => []

/-- `path.read_text(encoding="utf-8")`. -/
def readText (file : InputFile) : Except GateError String :=
  match file.content with
  | .error message => .error (.osError message)
  | .ok bytes =>
    match String.fromUTF8? bytes with
    | none => .error .unicodeDecodeError
    | some text => .ok (String.ofList (universalNewlines text.toList))

/-- `loads(path.read_text(encoding="utf-8"))`. -/
def loadText {α : Type} (loads : String → Except LoadError α) (file : InputFile) :
    Except GateError α := do
  let text ← readText file
  (loads text).mapError LoadError.toGateError

/-- `except (OSError, DecodeError) as error`, where the message follows `context`. -/
def catchUnreadable {α : Type} (context : String) : Except GateError α → Except GateError α
  | .error (.osError message) => .error (.gateInput (context ++ ": " ++ message))
  | .error (.decodeError message) => .error (.gateInput (context ++ ": " ++ message))
  | outcome => outcome

/-- `_load_json`. -/
def loadJson (file : InputFile) (context : String) : Except GateError LoadedJson :=
  catchUnreadable (context ++ ": cannot read " ++ file.path) (loadText library.jsonLoads file)

/-- `exceptions_document` of `main`. -/
def loadToml (file : InputFile) : Except GateError (List (String × Toml)) :=
  catchUnreadable ("Exceptions file " ++ file.path) (loadText library.tomlLoads file)

/-- The arguments of `main`, with the files they name. -/
structure GateInputs where
  target : String
  scout : InputFile
  snyk : InputFile
  pipAudit : Option InputFile
  vex : Option InputFile
  vexAuthorSuffix : String
  exceptions : InputFile
  today : Date

/-- `parse(_load_json(path, context))`. -/
def readReport {α : Type} (parse : Json → Except GateError α) (file : InputFile)
    (context : String) : Except GateError α := do
  let document ← loadJson library file context
  parse document.val

/-- What is read of a file that may be left out. -/
def readOptional {α : Type} (parse : Json → Except GateError α) (context : String) :
    Option InputFile → Except GateError (Option α)
  | some file => (readReport library parse file context).map some
  | none => .ok none

/-- `exceptions` of `main`. -/
def readExceptions (file : InputFile) : Except GateError (List VulnerabilityException) := do
  let document ← loadToml library file
  loadExceptions library document

/-- The body of the `try` of `main`. -/
def readInputs (inputs : GateInputs) :
    Except GateError (List RawFinding × Option (List VexStatement) ×
      List VulnerabilityException) := do
  let scout ← readReport library (parseScoutSarif library) inputs.scout "Docker Scout"
  let snyk ← readReport library (parseSnykJson library) inputs.snyk "Snyk"
  let pipAudit ← readOptional library (parsePipAuditJson library) "pip-audit" inputs.pipAudit
  let vex ← readOptional library (parseOpenvex library inputs.vexAuthorSuffix) "OpenVEX" inputs.vex
  let exceptions ← readExceptions library inputs.exceptions
  return (scout ++ snyk ++ pipAudit.getD [], vex, exceptions)

/-- `main`: the exit code, without the rendering of the result. -/
def main (inputs : GateInputs) : Except GateError Nat :=
  match readInputs library inputs with
  | .error (.gateInput _) => .ok 2
  | .error error => .error error
  | .ok (raw, vex, exceptions) =>
    match evaluate library.toTextFunctions inputs.target raw vex exceptions inputs.today with
    | none => .error .indexError
    | some result => .ok (if result.passed then 0 else 1)

end Parsers

end Conformance.VulnerabilityGate
