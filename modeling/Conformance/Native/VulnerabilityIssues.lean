import Conformance.Native.Python

/-!
# Vulnerability issues

`scripts/vulnerability_issues.py`: the problems that a set of gate reports has, the
issues that are there, and the actions that bring the second in line with the first.
The key of a problem is kept in a comment of the issue body, and read back from there.

GitHub is a list of issues; `apply_actions` is what its commands do to that list. The
labels and the closing comment are left out.
-/

namespace Conformance.VulnerabilityIssues

/-! ## Problems -/

/-- A cell of a table, its bars escaped. -/
def escapeBars (cell : String) : String :=
  String.ofList (cell.toList.flatMap fun c => if c = '|' then ['\\', '|'] else [c])

/-- `"| " + " | ".join(cells) + " |"`. -/
def tableRow (cells : List String) : String := "| " ++ " | ".intercalate cells ++ " |"

/-- `"\n".join(lines) + "\n"` of at least one line. -/
def joinLines (lines : List String) : String :=
  lines.foldr (fun line text => line ++ "\n" ++ text) ""

/-- An actionable vulnerability or exception problem across targets (`Problem`). -/
structure Problem where
  key : String
  title : String
  header : List String
  guidance : String
  rows : List (List String) := []

/-- The first line of the body of a problem. -/
def markerLine (key : String) : String := "<!-- vulnerability-key: " ++ key ++ " -->"

/-- `Problem.body`. -/
def Problem.body (problem : Problem) : String :=
  joinLines
    ([markerLine problem.key,
      "Opened automatically by the scheduled vulnerability re-scan (`security-rescan.yml`).",
      "",
      problem.guidance,
      "",
      tableRow problem.header,
      "|" ++ String.join (problem.header.map fun _ => "---|")] ++
    (problem.rows.insertionSort (· ≤ ·)).map (fun row => tableRow (row.map escapeBars)) ++
    ["",
      "This issue is updated on every run and closed automatically once no scanned target reports it.",
      "See docs/CICD_STRATEGY.md §3.2 for the vulnerability policy and exception process."])

section Reports

variable (pyStr : Json → String)

/-- What one finding or one error adds: a new problem, for the case that its key is new,
    and a row. -/
structure Entry where
  problem : Problem
  row : List String

/-- A finding that blocks. -/
def findingEntry (target : String) : Json → Option Entry
  | .obj finding =>
    match getField finding "blocking" with
    | .bool true =>
      let vulnId := pyStr (getField finding "id")
      let package := pyStr (getField finding "package")
      let fixed := listField finding "fixed_versions"
      let otherIds := (listField finding "ids").filter fun item => !item.pyEq (.str vulnId)
      some {
        problem := {
          key := s!"vuln:{vulnId}:{package}"
          title := s!"[vulnerability] {vulnId} in {package}"
          header := ["Target", "Installed", "Severity", "Fixed in", "Also known as"]
          guidance := "Upgrade the package (or base image digest) to a fixed version. If no fix exists, " ++
            "record a reviewed, expiring entry in `security/vulnerability-exceptions.toml`." }
        row := [target, pyStr (getField finding "version"), pyStr (getField finding "severity"),
          if fixed = [] then "not fixed" else ", ".intercalate (fixed.map pyStr),
          ", ".intercalate (otherIds.map pyStr)] }
    | _ => none
  | _ => none

/-- An error of the exceptions file. -/
def exceptionEntry (target : String) : Json → Option Entry
  | .obj error =>
    let vulnId := pyStr (getField error "id")
    let package := pyStr (getField error "package")
    some {
      problem := {
        key := s!"exception:{vulnId}:{package}"
        title := s!"[vulnerability exception] {vulnId} in {package} needs attention"
        header := ["Target", "Problem"]
        guidance := "Fix or remove the entry in `security/vulnerability-exceptions.toml`." }
      row := [target, pyStr (getField error "message")] }
  | _ => none

/-- What one report adds, in its order. -/
def reportEntries (report : JsonObject) : List Entry :=
  let target := pyStr ((report.lookup "target").getD (.str "unknown target"))
  (listField report "findings").filterMap (findingEntry pyStr target) ++
    (listField report "exception_errors").filterMap (exceptionEntry pyStr target)

/-- `problems.setdefault(key, problem).rows.add(row)`. -/
def addEntry (problems : Dict String Problem) (entry : Entry) : Dict String Problem :=
  let problem := (problems.get? entry.problem.key).getD entry.problem
  problems.set entry.problem.key
    { problem with rows := if entry.row ∈ problem.rows then problem.rows
                           else problem.rows ++ [entry.row] }

/-- `collect_problems`. -/
def collectProblems (reports : List JsonObject) : Dict String Problem :=
  (reports.flatMap (reportEntries pyStr)).foldl addEntry .empty

end Reports

/-! ## Issues -/

/-- The text of `_KEY_MARKER` before the key. -/
def markerPrefix : List Char := "<!-- vulnerability-key: ".toList

/-- The text of `_KEY_MARKER` after the key. -/
def markerSuffix : List Char := " -->".toList

/-- `_KEY_MARKER.match`: as the suffix begins with a blank and the key has none, the key
    goes to the first blank. -/
def matchMarker (text : List Char) : Option (List Char) :=
  if markerPrefix <+: text then
    let tail := text.drop markerPrefix.length
    let key := tail.takeWhile (· ≠ ' ')
    if key ≠ [] ∧ markerSuffix <+: tail.dropWhile (· ≠ ' ') then some key else none
  else none

/-- `_KEY_MARKER.search`. -/
def searchMarker : List Char → Option (List Char)
  | [] => none
  | c :: rest => (matchMarker (c :: rest)).or (searchMarker rest)

/-- `Issue`. -/
structure Issue where
  number : Nat
  state : String
  body : String
  deriving DecidableEq

namespace Issue

/-- `Issue.key`. -/
def key (issue : Issue) : Option String := (searchMarker issue.body.toList).map String.ofList

/-- `issue.state.upper() == "OPEN"`. -/
def isOpen (issue : Issue) : Bool := issue.state.toUpper = "OPEN"

end Issue

/-! ## Actions -/

/-- `Action.kind`. -/
inductive ActionKind where
  | create
  | reopen
  | edit
  | close
  deriving DecidableEq

/-- A single GitHub issue mutation (`Action`). -/
structure Action where
  kind : ActionKind
  key : String
  number : Option Nat := none
  title : String := ""
  body : String := ""

/-- One round of the loop that fills `by_key`: an open issue replaces what is there. -/
def keepIssue (byKey : Dict String Issue) (issue : Issue) : Dict String Issue :=
  match issue.key with
  | none => byKey
  | some key => if byKey.contains key = false ∨ issue.isOpen = true then byKey.set key issue else byKey

/-- `by_key` of `plan_actions`. -/
def issuesByKey (issues : List Issue) : Dict String Issue :=
  (issues.insertionSort fun a b => a.number ≤ b.number).foldl keepIssue .empty

/-- The actions for a problem. -/
def problemActions (byKey : Dict String Issue) (key : String) (problem : Problem) : List Action :=
  match byKey.get? key with
  | none => [{ kind := .create, key := key, title := problem.title, body := problem.body }]
  | some existing =>
    (if existing.isOpen = false then
      [{ kind := .reopen, key := key, number := some existing.number }] else []) ++
    (if strip existing.body ≠ strip problem.body then
      [{ kind := .edit, key := key, number := some existing.number, body := problem.body }] else [])

/-- The closing of an issue whose key has no problem. -/
def closeActions (problems : Dict String Problem) (key : String) (issue : Issue) : List Action :=
  if problems.contains key = false ∧ issue.isOpen = true then
    [{ kind := .close, key := key, number := some issue.number }]
  else []

/-- `plan_actions`. -/
def planActions (problems : Dict String Problem) (issues : List Issue) (complete : Bool) :
    List Action :=
  let byKey := issuesByKey issues
  (sorted problems.keys).flatMap (fun key =>
      ((problems.get? key).map (problemActions byKey key)).getD []) ++
    if complete = true then
      (sorted byKey.keys).flatMap fun key => ((byKey.get? key).map (closeActions problems key)).getD []
    else []

/-! ## GitHub -/

/-- What a command does to the issue that it names. -/
def Action.update (action : Action) (issue : Issue) : Issue :=
  if action.number = some issue.number then
    match action.kind with
    | .create => issue
    | .reopen => { issue with state := "OPEN" }
    | .edit => { issue with body := action.body }
    | .close => { issue with state := "CLOSED" }
  else issue

/-- One command; `newNumber` is the number of a new issue. -/
def applyAction (newNumber : List Issue → Nat) (issues : List Issue) (action : Action) : List Issue :=
  match action.kind with
  | .create => issues ++ [⟨newNumber issues, "OPEN", action.body⟩]
  | _ => issues.map action.update

/-- `apply_actions`. -/
def applyActions (newNumber : List Issue → Nat) (issues : List Issue) (actions : List Action) :
    List Issue :=
  actions.foldl (applyAction newNumber) issues

end Conformance.VulnerabilityIssues
