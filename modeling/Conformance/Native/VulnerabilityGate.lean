import Conformance.Native.Python
import Mathlib.Data.Finset.Sort
import Mathlib.Data.Prod.Lex
import Mathlib.Data.String.Basic

/-!
# The container vulnerability gate

`scripts/vulnerability_gate.py` from the merging of the scanners' observations to
the decision: `merge_findings`, `apply_vex`, `validate_exception`,
`apply_exceptions`, `decide` and `evaluate`. The parsers of the scanner reports
and the rendering of the result are left out.

A Python `set` of strings is a `Finset`. The findings are objects that later
stages write in place; each is held by one list only, so a stage is a function of
that list. `TextFunctions` stands for the built-ins that depend on the Unicode
tables, whatever they compute.
-/

namespace Conformance.VulnerabilityGate

/-- `str.upper`, `str.lower` and `repr` of a string. -/
structure TextFunctions where
  upper : String → String
  lower : String → String
  repr : String → String

/-! ## Dates -/

/-- `datetime.date`. -/
structure Date where
  year : Nat
  month : Nat
  day : Nat
  deriving DecidableEq, Repr

namespace Date

/-- `date.__lt__`, on `(year, month, day)`. -/
def lt (a b : Date) : Bool :=
  a.year < b.year || (a.year == b.year &&
    (a.month < b.month || (a.month == b.month && a.day < b.day)))

/-- Days in the months before `month` of a year that is not a leap year. -/
def daysBeforeMonth (month : Nat) : Nat :=
  ([31, 28, 31, 30, 31, 30, 31, 31, 30, 31, 30, 31].take (month - 1)).sum

def isLeap (year : Nat) : Bool := year % 4 == 0 && (year % 100 != 0 || year % 400 == 0)

/-- `date.toordinal`: January 1 of year 1 is day 1. -/
def toordinal (date : Date) : Nat :=
  let before := date.year - 1
  before * 365 + before / 4 - before / 100 + before / 400 + daysBeforeMonth date.month +
    (if 2 < date.month && isLeap date.year then 1 else 0) + date.day

/-- `(a - b).days`. -/
def daysSince (a b : Date) : Int := (a.toordinal : Int) - b.toordinal

/-- A number in decimal, with zeros in front up to `width` digits. -/
def padded (width n : Nat) : String :=
  let digits := toString n
  String.ofList (List.replicate (width - digits.length) '0') ++ digits

/-- `date.__str__`. -/
def isoformat (date : Date) : String :=
  padded 4 date.year ++ "-" ++ padded 2 date.month ++ "-" ++ padded 2 date.day

end Date

/-! ## Findings -/

inductive Severity where
  | critical
  | high
  | medium
  | low
  | unknown
  deriving DecidableEq, Repr

inductive Status where
  | open
  | vex
  | accepted
  deriving DecidableEq, Repr

/-- `SEVERITY_ORDER`. -/
def Severity.order : Severity → Nat
  | .critical => 4
  | .high => 3
  | .unknown => 3
  | .medium => 2
  | .low => 1

/-- `severity in BLOCKING_UNFIXED`. -/
def Severity.blockingUnfixed : Severity → Bool
  | .critical => true
  | .high => true
  | .unknown => true
  | .medium => false
  | .low => false

def MAX_EXCEPTION_DAYS : Int := 90

/-- A single scanner observation before cross-scanner merging. -/
structure RawFinding where
  source : String
  ids : Finset String
  ecosystem : String
  package : String
  version : String
  severity : Severity
  fixedVersions : Finset String
  application : Bool
  title : String := ""
  deriving DecidableEq

/-- A vulnerability merged across scanners for one package version. -/
structure Finding where
  ids : Finset String
  ecosystem : String
  package : String
  version : String
  severity : Severity
  fixedVersions : Finset String
  application : Bool
  sources : Finset String
  title : String := ""
  status : Status := .open
  blocking : Bool := false
  note : String := ""
  deriving DecidableEq

namespace Finding

/-- The most recognisable identifier (CVE, then GHSA, then others); `none` is the
    `IndexError` of a finding without identifiers. -/
def primaryId (finding : Finding) : Option String :=
  (["CVE-", "GHSA-", "PYSEC-"].findSome? fun start =>
    (finding.ids.filter fun identifier => start.toList.isPrefixOf identifier.toList).sort.head?).or
      finding.ids.sort.head?

/-- Whether any scanner reports a fixed version. -/
def fixAvailable (finding : Finding) : Bool := finding.fixedVersions ≠ ∅

end Finding

/-- A suppressing OpenVEX statement bound to exact package versions. -/
structure VexStatement where
  ids : Finset String
  products : Finset (String × String × String)
  status : String
  justification : String
  deriving DecidableEq

/-- A reviewed, time-boxed acceptance of one unfixed vulnerability. -/
structure VulnerabilityException where
  id : String
  package : String
  reason : String
  owner : String
  approver : String
  created : Date
  expires : Date
  deriving DecidableEq

/-- A policy violation attributable to one exceptions-file entry. -/
structure ExceptionProblem where
  id : String
  package : String
  message : String
  deriving DecidableEq, Repr

/-- Outcome of applying the gate policy to a set of findings. -/
structure GateResult where
  target : String
  findings : List Finding
  exceptionErrors : List ExceptionProblem
  vexApplied : Bool

namespace GateResult

/-- The findings that block the image. -/
def blocking (result : GateResult) : List Finding := result.findings.filter Finding.blocking

/-- Whether the image may proceed. -/
def passed (result : GateResult) : Bool :=
  result.blocking.isEmpty && result.exceptionErrors.isEmpty

end GateResult

/-! ## Merging -/

/-- A run of `-`, `_` and `.` becomes one `-`; `inRun` says that one has just been written. -/
def collapseSeparators (inRun : Bool) : List Char → List Char
  | [] => []
  | c :: rest =>
    if c = '-' ∨ c = '_' ∨ c = '.' then
      if inRun then collapseSeparators true rest else '-' :: collapseSeparators true rest
    else c :: collapseSeparators false rest

/-- A comparable package name for `ecosystem`. -/
def normalisePackage (text : TextFunctions) (ecosystem name : String) : String :=
  let lowered := text.lower (strip name)
  if ecosystem = "pypi" then String.ofList (collapseSeparators false lowered.toList)
  -- `lowered.split("/", 1)[0]`, which is the whole text when there is no slash
  else if ecosystem = "deb" then String.ofList (lowered.toList.takeWhile (· ≠ '/'))
  else lowered

/-- `_max_severity`: a rating is authoritative over `unknown`. -/
def maxSeverity (first second : Severity) : Severity :=
  match [first, second].filter fun value => value ≠ .unknown with
  | [] => .unknown
  | value :: rest =>
    rest.foldl (fun best next => if best.order < next.order then next else best) value

/-- The finding of one observation. -/
def Finding.ofRaw (raw : RawFinding) : Finding where
  ids := raw.ids
  ecosystem := raw.ecosystem
  package := raw.package
  version := raw.version
  severity := raw.severity
  fixedVersions := raw.fixedVersions
  application := raw.application
  sources := {raw.source}
  title := raw.title

/-- What the body of `for match in matches` does to `target`. -/
def Finding.absorb (target other : Finding) : Finding :=
  { target with
    ids := target.ids ∪ other.ids
    fixedVersions := target.fixedVersions ∪ other.fixedVersions
    sources := target.sources ∪ other.sources
    application := target.application || other.application
    severity := maxSeverity target.severity other.severity
    title := if target.title = "" then other.title else target.title }

/-- The observation is of the finding's package version and shares an identifier. -/
def Finding.matchesRaw (finding : Finding) (raw : RawFinding) : Bool :=
  (finding.ecosystem, finding.package, finding.version) = (raw.ecosystem, raw.package, raw.version)
    && finding.ids ∩ raw.ids ≠ ∅

/-- The body of `for match in matches`; `list.remove` compares by value. -/
def removeAndAbsorb (state : List Finding × Finding) (other : Finding) : List Finding × Finding :=
  (state.1.erase other, state.2.absorb other)

/-- The body of `for raw in raw_findings`. -/
def mergeRaw (merged : List Finding) (raw : RawFinding) : List Finding :=
  let matched := merged.filter fun finding => finding.matchesRaw raw
  let (merged, target) := matched.foldl removeAndAbsorb (merged, .ofRaw raw)
  merged ++ [target]

/-- `finding.package, finding.version, finding.primary_id`. -/
def sortKey (finding : Finding) : Option (Lex (String × Lex (String × String))) := do
  let primaryId ← finding.primaryId
  return toLex (finding.package, toLex (finding.version, primaryId))

/-- `sorted(findings, key=...)`; `none` when computing a key raises. -/
def sortFindings (findings : List Finding) : Option (List Finding) := do
  let keyed ← findings.mapM fun finding => do
    let key ← sortKey finding
    return (key, finding)
  return (keyed.insertionSort fun a b => a.1 ≤ b.1).map Prod.snd

/-- Merge observations of the same vulnerability in the same package version. -/
def mergeFindings (rawFindings : List RawFinding) : Option (List Finding) :=
  sortFindings (rawFindings.foldl mergeRaw [])

/-! ## OpenVEX -/

/-- The statement covers the finding: a shared identifier and the exact package version. -/
def VexStatement.covers (statement : VexStatement) (finding : Finding) : Bool :=
  finding.ids ∩ statement.ids ≠ ∅ &&
    (finding.ecosystem, finding.package, finding.version) ∈ statement.products

/-- Mark base-image findings covered by an exact-version VEX statement. -/
def applyVex (statements : List VexStatement) (findings : List Finding) : List Finding :=
  findings.map fun finding =>
    if finding.application then finding
    else match statements.find? fun statement => statement.covers finding with
      | none => finding
      | some statement =>
        { finding with
          status := .vex
          note := "OpenVEX " ++ statement.status ++ ": " ++ statement.justification }

/-! ## Exceptions -/

/-- `[A-Za-z0-9]`. -/
def isAlphanumeric (c : Char) : Bool :=
  ('A' ≤ c && c ≤ 'Z') || ('a' ≤ c && c ≤ 'z') || ('0' ≤ c && c ≤ '9')

/-- `[A-Za-z0-9](?:[A-Za-z0-9-]*[A-Za-z0-9])?`, all of `name`. -/
def isHandleName (name : List Char) : Bool :=
  name.all (fun c => isAlphanumeric c || c = '-') && name.head?.any isAlphanumeric &&
    name.getLast?.any isAlphanumeric

/-- `_HANDLE.match(handle)`. Neither part of the pattern matches a slash, so the
    first one separates them; `$` also matches before a final newline. -/
def isHandle (handle : String) : Bool :=
  let chars := handle.toList
  let chars := if chars.getLast? = some '\n' then chars.dropLast else chars
  match chars with
  | '@' :: rest =>
    isHandleName (rest.takeWhile (· ≠ '/')) &&
      match rest.dropWhile (· ≠ '/') with
      | [] => true
      | _ :: team => team ≠ [] &&
          team.all fun c => isAlphanumeric c || c = '.' || c = '_' || c = '-'
  | _ => false

/-- The messages of one role's handle. -/
def handleMessages (text : TextFunctions) (role handle : String) : List String :=
  if isHandle handle then []
  else [role ++ " " ++ text.repr handle ++ " must be a GitHub @user or @org/team handle."]

/-- Policy violations for one exception, independent of findings. -/
def validateException (text : TextFunctions) (entry : VulnerabilityException) (today : Date) :
    List ExceptionProblem :=
  let messages :=
    handleMessages text "owner" entry.owner ++ handleMessages text "approver" entry.approver ++
    (if text.lower entry.owner = text.lower entry.approver then ["approver must differ from owner."]
      else []) ++
    (if today.lt entry.created then
      ["created date " ++ entry.created.isoformat ++ " is in the future."] else []) ++
    (if entry.created.lt entry.expires then [] else ["expires must be after created."]) ++
    (if MAX_EXCEPTION_DAYS < entry.expires.daysSince entry.created then
      ["exceptions may last at most " ++ toString MAX_EXCEPTION_DAYS ++ " days."] else []) ++
    (if entry.expires.lt today then ["expired on " ++ entry.expires.isoformat ++ "."] else [])
  messages.map fun message => ⟨entry.id, entry.package, message⟩

/-- The exception names an identifier and the package of the finding. -/
def VulnerabilityException.matchesFinding (text : TextFunctions) (entry : VulnerabilityException)
    (finding : Finding) : Bool :=
  text.upper entry.id ∈ finding.ids.image text.upper &&
    normalisePackage text finding.ecosystem entry.package = finding.package

/-- `problems`, `seen` and the findings, as the loop of `apply_exceptions` leaves them. -/
structure ExceptionState where
  problems : List ExceptionProblem
  seen : List (String × String)
  findings : List Finding

/-- Accept the open findings the exception matches. -/
def acceptFindings (text : TextFunctions) (entry : VulnerabilityException)
    (findings : List Finding) : List Finding :=
  findings.map fun finding =>
    if entry.matchesFinding text finding && finding.status = .open then
      { finding with
        status := .accepted
        note := "exception until " ++ entry.expires.isoformat ++ " (owner " ++ entry.owner ++
          "): " ++ entry.reason }
    else finding

/-- The body of `for exception in exceptions`. -/
def applyException (text : TextFunctions) (today : Date) (state : ExceptionState)
    (entry : VulnerabilityException) : ExceptionState :=
  let problem message : ExceptionProblem := ⟨entry.id, entry.package, message⟩
  let key := (text.upper entry.id, text.lower entry.package)
  if key ∈ state.seen then
    { state with problems := state.problems ++ [problem "duplicate exception entry."] }
  else
    let entryProblems := validateException text entry today
    let problems := state.problems ++ entryProblems
    let seen := state.seen ++ [key]
    let matched := state.findings.filter fun finding => entry.matchesFinding text finding
    let openMatches := matched.filter fun finding => finding.status = .open
    if openMatches = [] then
      let reason := if matched ≠ [] then "is covered by OpenVEX" else "no longer matches any finding"
      { state with
        problems := problems ++ [problem ("stale exception — the vulnerability " ++ reason ++
          "; remove the entry.")]
        seen := seen }
    else
      let fixable := openMatches.filter Finding.fixAvailable
      if fixable ≠ [] then
        let versions := fixable.foldl (fun versions finding => versions ∪ finding.fixedVersions) ∅
        { state with
          problems := problems ++ [problem ("a fix is now available (" ++
            ", ".intercalate versions.sort ++ "); upgrade and remove the exception.")]
          seen := seen }
      else if entryProblems ≠ [] then { state with problems := problems, seen := seen }
      else ⟨problems, seen, acceptFindings text entry state.findings⟩

/-- The findings an upgrade would fix. -/
def fixableFindings (text : TextFunctions) (findings : List Finding)
    (entry : VulnerabilityException) : List Finding :=
  ((findings.filter fun f => entry.matchesFinding text f).filter fun f => f.status = .open).filter
    Finding.fixAvailable

/-- The problem of a refused entry. -/
def fixProblem (text : TextFunctions) (findings : List Finding) (entry : VulnerabilityException) :
    ExceptionProblem :=
  let versions := (fixableFindings text findings entry).foldl
    (fun versions finding => versions ∪ finding.fixedVersions) ∅
  ⟨entry.id, entry.package, "a fix is now available (" ++
    ", ".intercalate versions.sort ++ "); upgrade and remove the exception."⟩

/-- Accept open findings covered by valid exceptions and return exception problems. -/
def applyExceptions (text : TextFunctions) (exceptions : List VulnerabilityException) (today : Date)
    (findings : List Finding) : ExceptionState :=
  exceptions.foldl (applyException text today) ⟨[], [], findings⟩

/-! ## The decision -/

/-- Set the `blocking` flag on every finding according to the policy. -/
def decide (findings : List Finding) : List Finding :=
  findings.map fun finding =>
    { finding with
      blocking := finding.status = .open &&
        (finding.fixAvailable || finding.severity.blockingUnfixed) }

/-- Run the full gate policy; `none` when merging raises. -/
def evaluate (text : TextFunctions) (target : String) (rawFindings : List RawFinding)
    (vexStatements : Option (List VexStatement)) (exceptions : List VulnerabilityException)
    (today : Date) : Option GateResult := do
  let findings ← mergeFindings rawFindings
  let findings := match vexStatements with
    | none => findings
    | some statements => applyVex statements findings
  let state := applyExceptions text exceptions today findings
  return { target, findings := decide state.findings, exceptionErrors := state.problems,
           vexApplied := vexStatements.isSome }

end Conformance.VulnerabilityGate
