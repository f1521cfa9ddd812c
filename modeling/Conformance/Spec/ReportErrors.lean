import Conformance.ForStd.Except
import Conformance.Native.VulnerabilityReports
import Conformance.Spec.VulnerabilityGateSound

/-!
# Malformed scanner reports

The parsers narrow every value before they use it, with two exceptions: the status of an
OpenVEX statement is looked up in a set before its type is known, and the identifier of a
vulnerability of Snyk or pip-audit may be empty, which Scout's may not. Each parser has a
predicate on its document that says when it accepts. A file is read in front of its parser,
and the reading catches two exceptions only, which leaves the bytes that are no UTF-8, the
`int` that is too long and the nesting that is too deep. From these follows when the gate
reports untrusted input as it should.

## Key results

- `raisesOnly_parseScoutSarif`, `raisesOnly_parseSnykJson`, `raisesOnly_parsePipAuditJson`,
  `raisesOnly_parseOpenvex_iff`, `raisesOnly_loadExceptions`: what the parsers raise
- `named_parseSnykJson_iff`, `named_parsePipAuditJson_iff`: when every finding has a name
- `raisesOnly_loadText_iff`: what the reading of a file raises
- `reportsUntrustedInput_iff`: when the gate reports all of it
-/

namespace Conformance.VulnerabilityGate

open Except

/-- Whether an exception is a `GateInputError`. -/
def GateError.IsGateInput : GateError → Prop
  | .gateInput _ => True
  | _ => False

/-- The finding has an identifier that is not empty. -/
def RawFinding.Named (finding : RawFinding) : Prop := ∃ identifier ∈ finding.ids, identifier ≠ ""

/-! ## Narrowing -/

theorem asDict_eq_ok {value : Json} {context : String} {fields : JsonObject} :
    asDict value context = .ok fields ↔ value = .obj fields := by
  cases value <;> simp [asDict]

theorem asList_eq_ok {value : Json} {context : String} {items : List Json} :
    asList value context = .ok items ↔ value = .arr items := by
  cases value <;> simp [asList]

/-- Reading an object refuses other values as input errors. -/
theorem raisesOnly_asDict (value : Json) (context : String) :
    RaisesOnly GateError.IsGateInput (asDict value context) := by
  cases value with
  | obj fields => exact .ok fields
  | _ => exact .error trivial

/-- Reading a list refuses other values as input errors. -/
theorem raisesOnly_asList (value : Json) (context : String) :
    RaisesOnly GateError.IsGateInput (asList value context) := by
  cases value with
  | arr items => exact .ok items
  | _ => exact .error trivial

/-- A field of an object without long integers has none, and so has a short default. -/
theorem hasLongInt_getD {fields : JsonObject} (h : hasLongInt (.obj fields) = false) (key : String)
    {default : Json} (hdefault : hasLongInt default = false) :
    hasLongInt ((fields.lookup key).getD default) = false := by
  cases hlookup : fields.lookup key with
  | none => exact hdefault
  | some value => exact hasLongInt_of_lookup h hlookup

theorem hasLongInt_getItem {fields : JsonObject} (h : hasLongInt (.obj fields) = false)
    (key : String) : hasLongInt (getItem fields key) = false :=
  hasLongInt_getD h key rfl

/-- `or` gives one of its operands. -/
theorem hasLongInt_pyOr {first second : Json} (h : hasLongInt first = false)
    (h' : hasLongInt second = false) : hasLongInt (pyOr first second) = false := by
  rw [pyOr]
  split <;> assumption

section Parsers

variable {library : ReportLibrary}

theorem madeText_eq {write : Json → String} {value : Json} (h : hasLongInt value = false) :
    madeText write value = .ok (write value) := by
  rw [madeText, if_neg (by simp [h])]

theorem exists_strOf (library : ReportLibrary) {value : Json} (h : hasLongInt value = false) :
    ∃ text, strOf library value = .ok text := by
  cases value <;> first | exact ⟨_, rfl⟩ | exact ⟨_, madeText_eq h⟩

theorem exists_reprOf (library : ReportLibrary) {value : Json} (h : hasLongInt value = false) :
    ∃ text, reprOf library value = .ok text := by
  cases value <;> first | exact ⟨_, rfl⟩ | exact ⟨_, madeText_eq h⟩

/-- A text that can be made is no reason to raise. -/
theorem raisesOnly_strOf {value : Json} (h : hasLongInt value = false) :
    RaisesOnly GateError.IsGateInput (strOf library value) := by
  obtain ⟨text, htext⟩ := exists_strOf library h
  rw [htext]
  exact .ok text

/-! ## Docker Scout -/

/-- A rule that cannot be found is an input error. -/
theorem raisesOnly_scoutRule (rules : List JsonObject) (index : Json) :
    RaisesOnly GateError.IsGateInput (scoutRule rules index) := by
  rw [scoutRule]
  split
  · exact .ok _
  · exact .error trivial

/-- A rule without an id is an input error. -/
theorem raisesOnly_scoutRuleId (rule : JsonObject) :
    RaisesOnly GateError.IsGateInput (scoutRuleId rule) := by
  rw [scoutRuleId]
  split
  · exact .ok _
  · exact .error trivial

/-- The id of a rule is not empty. -/
theorem scoutRuleId_ne_empty {rule : JsonObject} {ruleId : String}
    (h : scoutRuleId rule = .ok ruleId) : ruleId ≠ "" := by
  rw [scoutRuleId] at h
  split at h
  · rename_i heq
    obtain rfl := Except.ok.inj h
    exact of_decide_eq_true (Option.filter_eq_some_iff.mp heq).2
  · cases h

/-- A package URL that cannot be read is an input error. -/
theorem raisesOnly_scoutFinding {ruleId : String} {severity : Json} {fixed : Finset String}
    {application : Bool} {short : Json} (purl : String) :
    RaisesOnly GateError.IsGateInput
      (scoutFinding library ruleId severity fixed application short purl) := by
  rw [scoutFinding]
  cases parsePurl library purl with
  | none => exact .error trivial
  | some parsed => exact .ok _

/-- A Scout finding has the id of its rule. -/
theorem ids_scoutFinding {ruleId : String} {severity : Json} {fixed : Finset String}
    {application : Bool} {short : Json} {purl : String} {f : RawFinding}
    (h : scoutFinding library ruleId severity fixed application short purl = .ok f) :
    f.ids = {ruleId} := by
  rw [scoutFinding] at h
  cases hparsed : parsePurl library purl with
  | none =>
    rw [hparsed] at h
    cases h
  | some parsed =>
    rw [hparsed] at h
    exact Except.ok.inj h ▸ rfl

/-- A malformed Scout result is an input error. -/
theorem raisesOnly_parseScoutResult (rules : List JsonObject) (resultValue : Json) :
    RaisesOnly GateError.IsGateInput (parseScoutResult library rules resultValue) := by
  rw [parseScoutResult]
  refine .bind (raisesOnly_asDict _ _) fun result _ => .bind (raisesOnly_scoutRule _ _) fun rule _ =>
    .bind (raisesOnly_scoutRuleId _) fun ruleId _ => .bind (raisesOnly_asDict _ _) fun _ _ =>
    .bind (raisesOnly_asList _ _) fun locationValues _ => ?_
  refine .bind (List.raisesOnly_mapM fun location _ => ?_) fun locations _ => ?_
  · exact .bind (raisesOnly_asDict _ _) fun _ _ => raisesOnly_asDict _ _
  refine .bind (List.raisesOnly_mapM fun location _ => ?_) fun uris _ => ?_
  · exact .bind (raisesOnly_asDict _ _) fun _ _ => .ok _
  exact .bind (.raiseIf trivial) fun _ _ => .bind (raisesOnly_asDict _ _) fun _ _ =>
    List.raisesOnly_mapM fun purl _ => raisesOnly_scoutFinding purl

/-- The findings of a Scout result are named. -/
theorem named_parseScoutResult (rules : List JsonObject) (resultValue : Json) :
    Ensures (fun findings => ∀ f ∈ findings, f.Named)
      (parseScoutResult library rules resultValue) := by
  rw [parseScoutResult]
  refine .bind fun _ _ => .bind fun _ _ => .bind fun ruleId hruleId => .bind fun _ _ =>
    .bind fun _ _ => .bind fun _ _ => .bind fun _ _ => .bind fun _ _ => .bind fun _ _ => ?_
  intro findings hfindings f hf
  obtain ⟨purl, -, hfinding⟩ := (List.mapM_eq_ok.mp hfindings).exists_of_mem_right hf
  refine ⟨ruleId, ?_, scoutRuleId_ne_empty hruleId⟩
  rw [ids_scoutFinding hfinding]
  exact Finset.mem_singleton_self _

/-- Every malformed Scout report is refused as an input error. -/
theorem raisesOnly_parseScoutSarif (document : Json) :
    RaisesOnly GateError.IsGateInput (parseScoutSarif library document) := by
  rw [parseScoutSarif]
  refine .bind (raisesOnly_asDict _ _) fun _ _ => .bind (raisesOnly_asList _ _) fun _ _ =>
    .bind (List.raisesOnly_mapM fun entry _ => ?_) fun _ _ => .ok _
  rw [parseScoutRun]
  refine .bind (raisesOnly_asDict _ _) fun _ _ => .bind (raisesOnly_asDict _ _) fun _ _ =>
    .bind (raisesOnly_asDict _ _) fun _ _ => .bind (raisesOnly_asList _ _) fun _ _ => ?_
  refine .bind (List.raisesOnly_mapM fun _ _ => raisesOnly_asDict _ _) fun rules _ =>
    .bind (raisesOnly_asList _ _) fun _ _ => ?_
  exact .bind (List.raisesOnly_mapM fun result _ => raisesOnly_parseScoutResult rules result)
    fun _ _ => .ok _

/-- Every finding of a Scout report is named. -/
theorem named_parseScoutSarif (document : Json) :
    Ensures (fun findings => ∀ f ∈ findings, f.Named) (parseScoutSarif library document) := by
  rw [parseScoutSarif]
  refine .bind fun _ _ => .bind fun _ _ => .bind fun perRun hruns => .ok fun f hf => ?_
  obtain ⟨findings, hfindings, hf⟩ := List.mem_flatten.mp hf
  obtain ⟨entry, -, hrun⟩ := (List.mapM_eq_ok.mp hruns).exists_of_mem_right hfindings
  have hensures : Ensures (fun findings => ∀ f ∈ findings, f.Named)
      (parseScoutRun library entry) := by
    rw [parseScoutRun]
    refine .bind fun _ _ => .bind fun _ _ => .bind fun _ _ => .bind fun _ _ =>
      .bind fun rules _ => .bind fun _ _ => .bind fun perResult hresults => .ok fun f hf => ?_
    obtain ⟨findings, hfindings, hf⟩ := List.mem_flatten.mp hf
    obtain ⟨result, -, hresult⟩ := (List.mapM_eq_ok.mp hresults).exists_of_mem_right hfindings
    exact named_parseScoutResult rules result findings hresult f hf
  exact hensures findings hrun f hf

/-! ## Findings of a loop -/

/-- What the rounds of a loop say of their values is what the loop says of all of them. -/
theorem forall_mem_mapM_iff {α β : Type} {parse : α → Except GateError β} {Q : β → Prop}
    {C : α → Prop} {l : List α} {ys : List β} (hys : l.mapM parse = .ok ys)
    (h : ∀ a ∈ l, ∀ y, parse a = .ok y → (Q y ↔ C a)) : (∀ y ∈ ys, Q y) ↔ ∀ a ∈ l, C a := by
  have hrounds := List.mapM_eq_ok.mp hys
  constructor
  · intro hall a ha
    obtain ⟨y, hy, hparse⟩ := hrounds.exists_of_mem_left ha
    exact (h a ha y hparse).mp (hall y hy)
  · intro hall y hy
    obtain ⟨a, ha, hparse⟩ := hrounds.exists_of_mem_right hy
    exact (h a ha y hparse).mpr (hall a ha)

/-! ## Snyk -/

/-- The texts of a Snyk vulnerability are read exactly when all three are texts. -/
theorem snykTexts_eq_ok {vuln : JsonObject} {snykId name version : String} :
    snykTexts vuln = .ok (snykId, name, version) ↔ getItem vuln "id" = .str snykId ∧
      getItem vuln "packageName" = .str name ∧ getItem vuln "version" = .str version := by
  rw [snykTexts]
  cases getItem vuln "id" <;> cases getItem vuln "packageName" <;>
    cases getItem vuln "version" <;> simp [str?]

/-- A text that is missing is an input error. -/
theorem raisesOnly_snykTexts (vuln : JsonObject) :
    RaisesOnly GateError.IsGateInput (snykTexts vuln) := by
  rw [snykTexts]
  split
  · exact .ok _
  · exact .error trivial

/-- A vulnerability that is accepted in a Snyk report. -/
structure IsSnykVulnerability (vulnValue : Json) (vuln identifiers : JsonObject)
    (snykId : String) : Prop where
  value : vulnValue = .obj vuln
  id : getItem vuln "id" = .str snykId
  name : ∃ name, getItem vuln "packageName" = .str name
  version : ∃ version, getItem vuln "version" = .str version
  identifiers : (vuln.lookup "identifiers").getD (.obj []) = .obj identifiers

/-- It has an identifier that is not empty. -/
def SnykVulnerabilityNamed (vulnValue : Json) : Prop :=
  ∀ vuln identifiers snykId, IsSnykVulnerability vulnValue vuln identifiers snykId →
    snykId ≠ "" ∨ ∃ key ∈ ["CVE", "GHSA", "PYSEC"], ∃ text ∈ strings (getItem identifiers key),
      text ≠ ""

/-- Which Snyk vulnerabilities are parsed. -/
theorem exists_parseSnykVulnerability {ecosystem : String} {application : Bool} {vulnValue : Json} :
    (∃ f, parseSnykVulnerability library ecosystem application vulnValue = .ok f) ↔
      ∃ vuln identifiers snykId, IsSnykVulnerability vulnValue vuln identifiers snykId := by
  simp only [parseSnykVulnerability, bind_eq_ok, asDict_eq_ok, Prod.exists, snykTexts_eq_ok]
  constructor
  · rintro ⟨f, vuln, hvalue, snykId, name, version, ⟨hid, hname, hversion⟩, identifiers,
      hidentifiers, -⟩
    exact ⟨vuln, identifiers, snykId, hvalue, hid, ⟨name, hname⟩, ⟨version, hversion⟩,
      hidentifiers⟩
  · rintro ⟨vuln, identifiers, snykId, h⟩
    obtain ⟨name, hname⟩ := h.name
    obtain ⟨version, hversion⟩ := h.version
    exact ⟨_, vuln, h.value, snykId, name, version, ⟨h.id, hname, hversion⟩, identifiers,
      h.identifiers, rfl⟩

/-- When the finding of a Snyk vulnerability is named. -/
theorem named_parseSnykVulnerability {ecosystem : String} {application : Bool} {vulnValue : Json}
    {f : RawFinding} (h : parseSnykVulnerability library ecosystem application vulnValue = .ok f) :
    f.Named ↔ SnykVulnerabilityNamed vulnValue := by
  simp only [parseSnykVulnerability, bind_eq_ok, asDict_eq_ok, Prod.exists, snykTexts_eq_ok] at h
  obtain ⟨vuln, rfl, snykId, name, version, ⟨hid, hname, hversion⟩, identifiers, hidentifiers,
    hf⟩ := h
  obtain rfl := Except.ok.inj hf
  have hvuln : IsSnykVulnerability (.obj vuln) vuln identifiers snykId :=
    ⟨rfl, hid, ⟨name, hname⟩, ⟨version, hversion⟩, hidentifiers⟩
  have hnames : (∃ identifier ∈ snykIds snykId identifiers, identifier ≠ "") ↔
      snykId ≠ "" ∨ ∃ key ∈ ["CVE", "GHSA", "PYSEC"], ∃ text ∈ strings (getItem identifiers key),
        text ≠ "" := by
    rw [snykIds]
    generalize ["CVE", "GHSA", "PYSEC"] = keys
    simp only [List.mem_toFinset, List.mem_cons, List.mem_flatMap, exists_eq_or_imp]
    refine or_congr_right ⟨?_, ?_⟩
    · rintro ⟨text, ⟨key, hkey, htext⟩, hne⟩
      exact ⟨key, hkey, text, htext, hne⟩
    · rintro ⟨key, hkey, text, htext, hne⟩
      exact ⟨text, ⟨key, hkey, htext⟩, hne⟩
  rw [RawFinding.Named, hnames]
  constructor
  · intro hnamed vuln' identifiers' snykId' hvuln'
    obtain rfl : vuln = vuln' := Json.obj.inj hvuln'.value
    obtain rfl : identifiers = identifiers' :=
      Json.obj.inj (hidentifiers.symm.trans hvuln'.identifiers)
    obtain rfl : snykId = snykId' := Json.str.inj (hid.symm.trans hvuln'.id)
    exact hnamed
  · exact fun hnamed => hnamed vuln identifiers snykId hvuln

/-- A malformed Snyk vulnerability is an input error. -/
theorem raisesOnly_parseSnykVulnerability (ecosystem : String) (application : Bool)
    (vulnValue : Json) : RaisesOnly GateError.IsGateInput
      (parseSnykVulnerability library ecosystem application vulnValue) := by
  rw [parseSnykVulnerability]
  exact .bind (raisesOnly_asDict _ _) fun _ _ => .bind (raisesOnly_snykTexts _) fun _ _ =>
    .bind (raisesOnly_asDict _ _) fun _ _ => .ok _

/-- A project that is accepted in a Snyk report, with its vulnerabilities. -/
structure IsSnykProject (value : Json) (project : JsonObject) (vulns : List Json) : Prop where
  value : value = .obj project
  scanned : projectFailed project = false
  listed : (project.lookup "vulnerabilities").getD (.arr []) = .arr vulns
  accepted : ∀ v ∈ vulns, ∃ vuln identifiers snykId, IsSnykVulnerability v vuln identifiers snykId

/-- A project is accepted exactly when its scan did not fail. -/
theorem checkProject_eq_ok {project : JsonObject} {index : Nat} {u : Unit} :
    checkProject library project index = .ok u ↔ projectFailed project = false := by
  rw [checkProject]
  cases projectFailed project with
  | false => simp
  | true => simp [bind_eq_ok]

/-- A failed scan is an input error, once its message can be written. -/
theorem raisesOnly_checkProject {project : JsonObject} (h : hasLongInt (.obj project) = false)
    (index : Nat) : RaisesOnly GateError.IsGateInput (checkProject library project index) := by
  rw [checkProject]
  split
  · exact .bind (raisesOnly_strOf (hasLongInt_getD h _ rfl)) fun _ _ => .error trivial
  · exact .ok _

/-- A malformed Snyk project is an input error. -/
theorem raisesOnly_parseSnykProject {value : Json} (h : hasLongInt value = false) (index : Nat) :
    RaisesOnly GateError.IsGateInput (parseSnykProject library (value, index)) := by
  rw [parseSnykProject]
  refine .bind (raisesOnly_asDict _ _) fun project hproject => ?_
  obtain rfl : value = .obj project := asDict_eq_ok.mp hproject
  refine .bind (raisesOnly_checkProject h index) fun _ _ =>
    .bind (raisesOnly_strOf (hasLongInt_getD h _ rfl)) fun _ _ =>
    .bind (raisesOnly_strOf (hasLongInt_pyOr (hasLongInt_pyOr ?_ ?_) rfl)) fun _ _ =>
    .bind (raisesOnly_asList _ _) fun _ _ =>
    List.raisesOnly_mapM fun _ _ => raisesOnly_parseSnykVulnerability _ _ _
  · exact hasLongInt_getItem h _
  · exact hasLongInt_getItem h _

/-- The values of the texts of a project do not matter for what is accepted. -/
theorem parseSnykProject_eq_ok {value : Json} {index : Nat} {findings : List RawFinding}
    (h : parseSnykProject library (value, index) = .ok findings) :
    ∃ project vulns ecosystem application, value = .obj project ∧
      projectFailed project = false ∧
      (project.lookup "vulnerabilities").getD (.arr []) = .arr vulns ∧
      vulns.mapM (parseSnykVulnerability library ecosystem application) = .ok findings := by
  simp only [parseSnykProject, bind_eq_ok, asDict_eq_ok, asList_eq_ok, checkProject_eq_ok] at h
  obtain ⟨project, hproject, -, hscanned, manager, -, target, -, vulns, hvulns, hfindings⟩ := h
  exact ⟨project, vulns, _, _, hproject, hscanned, hvulns, hfindings⟩

/-- Which Snyk projects are parsed. -/
theorem exists_parseSnykProject {value : Json} (h : hasLongInt value = false) {index : Nat} :
    (∃ findings, parseSnykProject library (value, index) = .ok findings) ↔
      ∃ project vulns, IsSnykProject value project vulns := by
  constructor
  · rintro ⟨findings, hfindings⟩
    obtain ⟨project, vulns, ecosystem, application, hproject, hscanned, hvulns, hmapM⟩ :=
      parseSnykProject_eq_ok hfindings
    refine ⟨project, vulns, hproject, hscanned, hvulns, fun v hv => ?_⟩
    exact exists_parseSnykVulnerability.mp (List.exists_mapM_eq_ok.mp ⟨_, hmapM⟩ v hv)
  · rintro ⟨project, vulns, rfl, hscanned, hvulns, haccepted⟩
    obtain ⟨manager, hmanager⟩ := exists_strOf library
      (@hasLongInt_getD _ h "packageManager" (.str "") rfl)
    obtain ⟨target, htarget⟩ := exists_strOf library (@hasLongInt_pyOr _ (.str "")
      (hasLongInt_pyOr (hasLongInt_getItem h "displayTargetFile")
        (hasLongInt_getItem h "targetFile")) rfl)
    have hloop := List.exists_mapM_eq_ok.mpr fun v hv =>
      (@exists_parseSnykVulnerability library (ecosystemOf (library.lower manager))
        (isApplicationPath target) v).mpr (haccepted v hv)
    obtain ⟨findings, hfindings⟩ := hloop
    refine ⟨findings, ?_⟩
    simp only [parseSnykProject, bind_eq_ok, asDict_eq_ok, asList_eq_ok, checkProject_eq_ok]
    exact ⟨project, rfl, (), hscanned, manager, hmanager, target, htarget, vulns, hvulns, hfindings⟩

/-- Every vulnerability of the project has an identifier that is not empty. -/
def SnykProjectNamed (value : Json) : Prop :=
  ∀ project vulns, IsSnykProject value project vulns → ∀ v ∈ vulns, SnykVulnerabilityNamed v

/-- When the findings of a Snyk project are named. -/
theorem named_parseSnykProject {value : Json} {index : Nat} {findings : List RawFinding}
    (h : parseSnykProject library (value, index) = .ok findings) :
    (∀ f ∈ findings, f.Named) ↔ SnykProjectNamed value := by
  obtain ⟨project, vulns, ecosystem, application, rfl, hscanned, hvulns, hmapM⟩ :=
    parseSnykProject_eq_ok h
  rw [forall_mem_mapM_iff hmapM fun v _ f hf => named_parseSnykVulnerability hf]
  constructor
  · intro hnamed project' vulns' hproject
    obtain rfl : project = project' := Json.obj.inj hproject.value
    obtain rfl : vulns = vulns' := Json.arr.inj (hvulns.symm.trans hproject.listed)
    exact hnamed
  · intro hnamed
    refine hnamed project vulns ⟨rfl, hscanned, hvulns, fun v hv => ?_⟩
    exact exists_parseSnykVulnerability.mp (List.exists_mapM_eq_ok.mp ⟨_, hmapM⟩ v hv)

/-- The document is a Snyk report. -/
def IsSnykReport (document : Json) : Prop :=
  ∀ value ∈ snykProjects document, ∃ project vulns, IsSnykProject value project vulns

/-- In a Snyk report, every vulnerability has an identifier that is not empty. -/
def SnykReportNamed (document : Json) : Prop :=
  IsSnykReport document → ∀ value ∈ snykProjects document, SnykProjectNamed value

/-- The projects of a report without long integers have none. -/
theorem hasLongInt_snykProjects {document : Json} (h : hasLongInt document = false) :
    ∀ value ∈ snykProjects document, hasLongInt value = false := by
  intro value hvalue
  cases document with
  | arr projects => exact hasLongInt_of_mem h hvalue
  | _ => exact List.mem_singleton.mp hvalue ▸ h

/-- The elements that are numbered are those of the list. -/
theorem mem_zipIdx_fst {α : Type} {l : List α} {entry : α × Nat} (h : entry ∈ l.zipIdx) :
    entry.1 ∈ l := by
  rw [← List.zipIdx_map_fst 0 l]
  exact List.mem_map_of_mem h

/-- Every malformed Snyk report is refused as an input error. -/
theorem raisesOnly_parseSnykJson {document : Json} (h : hasLongInt document = false) :
    RaisesOnly GateError.IsGateInput (parseSnykJson library document) := by
  rw [parseSnykJson]
  refine .bind (List.raisesOnly_mapM fun entry hentry => ?_) fun _ _ => .ok _
  exact raisesOnly_parseSnykProject (hasLongInt_snykProjects h _ (mem_zipIdx_fst hentry)) _

/-- The findings of a Snyk report are named exactly when its vulnerabilities are. -/
theorem named_parseSnykJson_iff {document : Json} (h : hasLongInt document = false) :
    Ensures (fun findings => ∀ f ∈ findings, f.Named) (parseSnykJson library document) ↔
      SnykReportNamed document := by
  have hvalues : (∀ entry ∈ (snykProjects document).zipIdx, SnykProjectNamed entry.1) ↔
      ∀ value ∈ snykProjects document, SnykProjectNamed value := by
    conv_rhs => rw [← List.zipIdx_map_fst 0 (snykProjects document)]
    rw [List.forall_mem_map]
  have hreport : (∃ perProject, (snykProjects document).zipIdx.mapM
      (parseSnykProject library) = .ok perProject) ↔ IsSnykReport document := by
    rw [List.exists_mapM_eq_ok, IsSnykReport]
    conv_rhs => rw [← List.zipIdx_map_fst 0 (snykProjects document)]
    rw [List.forall_mem_map]
    refine forall₂_congr fun entry hentry => exists_parseSnykProject ?_
    exact hasLongInt_snykProjects h _ (mem_zipIdx_fst hentry)
  have hround : ∀ entry ∈ (snykProjects document).zipIdx, ∀ findings : List RawFinding,
      parseSnykProject library entry = .ok findings →
      ((∀ f ∈ findings, f.Named) ↔ SnykProjectNamed entry.1) := fun entry _ findings hfindings =>
    named_parseSnykProject hfindings
  rw [SnykReportNamed, ← hreport]
  constructor
  · rintro hensures ⟨perProject, hperProject⟩
    have hnamed := hensures perProject.flatten (by rw [parseSnykJson, hperProject]; rfl)
    rw [← hvalues, ← forall_mem_mapM_iff hperProject hround]
    exact fun findings hfindings f hf => hnamed f (List.mem_flatten_of_mem hfindings hf)
  · intro hnamed
    rw [parseSnykJson]
    refine .bind fun perProject hperProject => .ok fun f hf => ?_
    obtain ⟨findings, hfindings, hf⟩ := List.mem_flatten.mp hf
    have hall := (forall_mem_mapM_iff hperProject hround).mpr
      (hvalues.mpr (hnamed ⟨perProject, hperProject⟩))
    exact hall findings hfindings f hf

/-! ## pip-audit -/

/-- A vulnerability that is accepted in a pip-audit report, for a dependency of the version. -/
structure IsPipAuditVuln (version vulnValue : Json) (vuln : JsonObject) (vulnId : String) :
    Prop where
  value : vulnValue = .obj vuln
  id : getItem vuln "id" = .str vulnId
  version : ∃ text, version = .str text

/-- It has an identifier that is not empty. -/
def PipAuditVulnNamed (version vulnValue : Json) : Prop :=
  ∀ vuln vulnId, IsPipAuditVuln version vulnValue vuln vulnId →
    vulnId ≠ "" ∨ ∃ text ∈ strings (getItem vuln "aliases"), text ≠ ""

/-- The texts of a pip-audit vulnerability are read exactly when both are texts. -/
theorem pipAuditTexts_eq_ok {name : String} {vuln : JsonObject} {version : Json}
    {vulnId text : String} :
    pipAuditTexts name vuln version = .ok (vulnId, text) ↔
      getItem vuln "id" = .str vulnId ∧ version = .str text := by
  rw [pipAuditTexts]
  cases getItem vuln "id" <;> cases version <;> simp [str?]

/-- Which pip-audit vulnerabilities are parsed. -/
theorem exists_parsePipAuditVuln {name : String} {version vulnValue : Json} :
    (∃ f, parsePipAuditVuln library name version vulnValue = .ok f) ↔
      ∃ vuln vulnId, IsPipAuditVuln version vulnValue vuln vulnId := by
  simp only [parsePipAuditVuln, bind_eq_ok, asDict_eq_ok, Prod.exists, pipAuditTexts_eq_ok]
  constructor
  · rintro ⟨f, vuln, hvalue, vulnId, text, ⟨hid, hversion⟩, -⟩
    exact ⟨vuln, vulnId, hvalue, hid, text, hversion⟩
  · rintro ⟨vuln, vulnId, hvalue, hid, text, hversion⟩
    exact ⟨_, vuln, hvalue, vulnId, text, ⟨hid, hversion⟩, rfl⟩

/-- When the finding of a pip-audit vulnerability is named. -/
theorem named_parsePipAuditVuln {name : String} {version vulnValue : Json} {f : RawFinding}
    (h : parsePipAuditVuln library name version vulnValue = .ok f) :
    f.Named ↔ PipAuditVulnNamed version vulnValue := by
  simp only [parsePipAuditVuln, bind_eq_ok, asDict_eq_ok, Prod.exists, pipAuditTexts_eq_ok] at h
  obtain ⟨vuln, rfl, vulnId, text, ⟨hid, hversion⟩, hf⟩ := h
  obtain rfl := Except.ok.inj hf
  have hnames : (∃ identifier ∈ pipAuditIds vulnId vuln, identifier ≠ "") ↔
      vulnId ≠ "" ∨ ∃ text ∈ strings (getItem vuln "aliases"), text ≠ "" := by
    simp only [pipAuditIds, List.mem_toFinset, List.mem_cons, exists_eq_or_imp]
  rw [RawFinding.Named, hnames]
  constructor
  · intro hnamed vuln' vulnId' hvuln'
    obtain rfl : vuln = vuln' := Json.obj.inj hvuln'.value
    obtain rfl : vulnId = vulnId' := Json.str.inj (hid.symm.trans hvuln'.id)
    exact hnamed
  · exact fun hnamed => hnamed vuln vulnId ⟨rfl, hid, text, hversion⟩

/-- A malformed pip-audit vulnerability is an input error. -/
theorem raisesOnly_parsePipAuditVuln (name : String) (version vulnValue : Json) :
    RaisesOnly GateError.IsGateInput (parsePipAuditVuln library name version vulnValue) := by
  rw [parsePipAuditVuln]
  refine .bind (raisesOnly_asDict _ _) fun _ _ => .bind ?_ fun _ _ => .ok _
  rw [pipAuditTexts]
  split
  · exact .ok _
  · exact .error trivial

/-- A dependency that is accepted in a pip-audit report, with its vulnerabilities. -/
structure IsPipAuditDependency (value : Json) (dependency : JsonObject) (vulns : List Json) :
    Prop where
  value : value = .obj dependency
  name : ∃ name, getItem dependency "name" = .str name
  notSkipped : dependency.lookup "skip_reason" = none
  listed : (dependency.lookup "vulns").getD (.arr []) = .arr vulns
  accepted : ∀ v ∈ vulns, ∃ vuln vulnId,
    IsPipAuditVuln (getItem dependency "version") v vuln vulnId

/-- The name of a dependency is read exactly when it is a text. -/
theorem dependencyName_eq_ok {dependency : JsonObject} {name : String} :
    dependencyName dependency = .ok name ↔ getItem dependency "name" = .str name := by
  rw [dependencyName]
  cases getItem dependency "name" <;> simp [str?]

/-- A dependency without a name is an input error. -/
theorem raisesOnly_dependencyName (dependency : JsonObject) :
    RaisesOnly GateError.IsGateInput (dependencyName dependency) := by
  rw [dependencyName]
  split
  · exact .ok _
  · exact .error trivial

/-- A dependency is accepted exactly when it gives no reason for being skipped. -/
theorem checkNotSkipped_eq_ok {name : String} {dependency : JsonObject} {u : Unit} :
    checkNotSkipped library name dependency = .ok u ↔ dependency.lookup "skip_reason" = none := by
  rw [checkNotSkipped]
  cases dependency.lookup "skip_reason" <;> simp [bind_eq_ok]

/-- A skipped dependency is an input error, once its reason can be written. -/
theorem raisesOnly_checkNotSkipped {dependency : JsonObject}
    (h : hasLongInt (.obj dependency) = false) (name : String) :
    RaisesOnly GateError.IsGateInput (checkNotSkipped library name dependency) := by
  rw [checkNotSkipped]
  split
  · rename_i hreason
    exact .bind (raisesOnly_strOf (hasLongInt_of_lookup h hreason)) fun _ _ => .error trivial
  · exact .ok _

/-- A malformed dependency is an input error. -/
theorem raisesOnly_parsePipAuditDependency {value : Json} (h : hasLongInt value = false) :
    RaisesOnly GateError.IsGateInput (parsePipAuditDependency library value) := by
  rw [parsePipAuditDependency]
  refine .bind (raisesOnly_asDict _ _) fun dependency hdependency => ?_
  obtain rfl : value = .obj dependency := asDict_eq_ok.mp hdependency
  exact .bind (raisesOnly_dependencyName _) fun _ _ => .bind (raisesOnly_checkNotSkipped h _)
    fun _ _ => .bind (raisesOnly_asList _ _) fun _ _ =>
    List.raisesOnly_mapM fun _ _ => raisesOnly_parsePipAuditVuln _ _ _

/-- What a dependency that is parsed went through. -/
theorem parsePipAuditDependency_eq_ok {value : Json} {findings : List RawFinding} :
    parsePipAuditDependency library value = .ok findings ↔ ∃ dependency vulns name,
      value = .obj dependency ∧ getItem dependency "name" = .str name ∧
      dependency.lookup "skip_reason" = none ∧
      (dependency.lookup "vulns").getD (.arr []) = .arr vulns ∧
      vulns.mapM (parsePipAuditVuln library name (getItem dependency "version")) =
        .ok findings := by
  simp only [parsePipAuditDependency, bind_eq_ok, asDict_eq_ok, asList_eq_ok,
    dependencyName_eq_ok, checkNotSkipped_eq_ok]
  constructor
  · rintro ⟨dependency, hvalue, name, hname, -, hskipped, vulns, hvulns, hfindings⟩
    exact ⟨dependency, vulns, name, hvalue, hname, hskipped, hvulns, hfindings⟩
  · rintro ⟨dependency, vulns, name, hvalue, hname, hskipped, hvulns, hfindings⟩
    exact ⟨dependency, hvalue, name, hname, (), hskipped, vulns, hvulns, hfindings⟩

/-- Which dependencies are parsed. -/
theorem exists_parsePipAuditDependency {value : Json} :
    (∃ findings, parsePipAuditDependency library value = .ok findings) ↔
      ∃ dependency vulns, IsPipAuditDependency value dependency vulns := by
  simp only [parsePipAuditDependency_eq_ok]
  constructor
  · rintro ⟨findings, dependency, vulns, name, hvalue, hname, hskipped, hvulns, hmapM⟩
    refine ⟨dependency, vulns, hvalue, ⟨name, hname⟩, hskipped, hvulns, fun v hv => ?_⟩
    exact exists_parsePipAuditVuln.mp (List.exists_mapM_eq_ok.mp ⟨_, hmapM⟩ v hv)
  · rintro ⟨dependency, vulns, hvalue, ⟨name, hname⟩, hskipped, hvulns, haccepted⟩
    obtain ⟨findings, hfindings⟩ := List.exists_mapM_eq_ok.mpr fun v hv =>
      (@exists_parsePipAuditVuln library name _ v).mpr (haccepted v hv)
    exact ⟨findings, dependency, vulns, name, hvalue, hname, hskipped, hvulns, hfindings⟩

/-- Every vulnerability of the dependency has an identifier that is not empty. -/
def PipAuditDependencyNamed (value : Json) : Prop :=
  ∀ dependency vulns, IsPipAuditDependency value dependency vulns →
    ∀ v ∈ vulns, PipAuditVulnNamed (getItem dependency "version") v

/-- When the findings of a dependency are named. -/
theorem named_parsePipAuditDependency {value : Json} {findings : List RawFinding}
    (h : parsePipAuditDependency library value = .ok findings) :
    (∀ f ∈ findings, f.Named) ↔ PipAuditDependencyNamed value := by
  obtain ⟨dependency, vulns, name, rfl, hname, hskipped, hvulns, hmapM⟩ :=
    parsePipAuditDependency_eq_ok.mp h
  rw [forall_mem_mapM_iff hmapM fun v _ f hf => named_parsePipAuditVuln hf]
  constructor
  · intro hnamed dependency' vulns' hdependency
    obtain rfl : dependency = dependency' := Json.obj.inj hdependency.value
    obtain rfl : vulns = vulns' := Json.arr.inj (hvulns.symm.trans hdependency.listed)
    exact hnamed
  · intro hnamed
    refine hnamed dependency vulns ⟨rfl, ⟨name, hname⟩, hskipped, hvulns, fun v hv => ?_⟩
    exact exists_parsePipAuditVuln.mp (List.exists_mapM_eq_ok.mp ⟨_, hmapM⟩ v hv)

/-- The document is a pip-audit report on the dependencies. -/
structure IsPipAuditReport (document : Json) (dependencies : List Json) : Prop where
  listed : ∃ root, document = .obj root ∧ getItem root "dependencies" = .arr dependencies
  accepted : ∀ value ∈ dependencies, ∃ dependency vulns,
    IsPipAuditDependency value dependency vulns

/-- In a pip-audit report, every vulnerability has an identifier that is not empty. -/
def PipAuditReportNamed (document : Json) : Prop :=
  ∀ dependencies, IsPipAuditReport document dependencies →
    ∀ value ∈ dependencies, PipAuditDependencyNamed value

/-- Every malformed pip-audit report is refused as an input error. -/
theorem raisesOnly_parsePipAuditJson {document : Json} (h : hasLongInt document = false) :
    RaisesOnly GateError.IsGateInput (parsePipAuditJson library document) := by
  rw [parsePipAuditJson]
  refine .bind (raisesOnly_asDict _ _) fun root hroot => ?_
  obtain rfl : document = .obj root := asDict_eq_ok.mp hroot
  refine .bind (raisesOnly_asList _ _) fun dependencies hdependencies => ?_
  have hlist : hasLongInt (.arr dependencies) = false :=
    asList_eq_ok.mp hdependencies ▸ hasLongInt_getItem h _
  exact .bind (List.raisesOnly_mapM fun value hvalue =>
    raisesOnly_parsePipAuditDependency (hasLongInt_of_mem hlist hvalue)) fun _ _ => .ok _

/-- The findings of a pip-audit report are named exactly when its vulnerabilities are. -/
theorem named_parsePipAuditJson_iff {document : Json} :
    Ensures (fun findings => ∀ f ∈ findings, f.Named) (parsePipAuditJson library document) ↔
      PipAuditReportNamed document := by
  constructor
  · rintro hensures dependencies ⟨⟨root, rfl, hlisted⟩, haccepted⟩
    obtain ⟨perDependency, hloop⟩ := List.exists_mapM_eq_ok.mpr fun value hvalue =>
      (@exists_parsePipAuditDependency library value).mpr (haccepted value hvalue)
    have hparse : parsePipAuditJson library (.obj root) = .ok perDependency.flatten := by
      simp only [parsePipAuditJson, bind_eq_ok, asDict_eq_ok, asList_eq_ok]
      exact ⟨root, rfl, dependencies, hlisted, perDependency, hloop, rfl⟩
    have hnamed := hensures _ hparse
    rw [← forall_mem_mapM_iff hloop fun value _ findings h => named_parsePipAuditDependency h]
    exact fun findings hfindings f hf => hnamed f (List.mem_flatten_of_mem hfindings hf)
  · intro hnamed
    rw [parsePipAuditJson]
    refine .bind fun root hroot => .bind fun dependencies hdependencies =>
      .bind fun perDependency hloop => .ok fun f hf => ?_
    obtain ⟨findings, hfindings, hf⟩ := List.mem_flatten.mp hf
    have hreport : IsPipAuditReport document dependencies := by
      refine ⟨⟨root, asDict_eq_ok.mp hroot, asList_eq_ok.mp hdependencies⟩, fun value hvalue => ?_⟩
      exact exists_parsePipAuditDependency.mp (List.exists_mapM_eq_ok.mp ⟨_, hloop⟩ value hvalue)
    have hall := (forall_mem_mapM_iff hloop fun value _ findings h =>
      named_parsePipAuditDependency h).mpr (hnamed dependencies hreport)
    exact hall findings hfindings f hf

/-! ## OpenVEX -/

/-- A value that cannot be looked up in a set. -/
def Unhashable : Json → Prop
  | .arr _ => True
  | .obj _ => True
  | _ => False

/-- A status that suppresses. -/
def IsSuppressing (status : Json) : Prop :=
  status = .str "not_affected" ∨ status = .str "fixed"

/-- A status that can be looked up in the set suppresses exactly when it is in it. -/
theorem isSuppressing_eq_ok {status : Json} {suppressing : Bool} :
    isSuppressing status = .ok suppressing ↔
      ¬Unhashable status ∧ (suppressing = true ↔ IsSuppressing status) := by
  cases status <;> cases suppressing <;> simp [isSuppressing, Unhashable, IsSuppressing]

theorem isSuppressing_eq_error {status : Json} (h : Unhashable status) :
    ∃ message, isSuppressing status = .error (.typeError message) := by
  cases status <;> first | exact ⟨_, rfl⟩ | cases h

/-- A statement that is accepted in an OpenVEX document. -/
def IsVexStatement (value : Json) : Prop :=
  ∃ statement, value = .obj statement ∧ ¬Unhashable (getItem statement "status") ∧
    (IsSuppressing (getItem statement "status") →
      (∃ vulnerability, getItem statement "vulnerability" = .obj vulnerability) ∧
        ∃ products, (statement.lookup "products").getD (.arr []) = .arr products ∧
          ∀ product ∈ products, ∃ fields, product = .obj fields)

/-- A product of a statement is parsed exactly when it is an object. -/
theorem exists_vexProduct {value : Json} :
    (∃ product, vexProduct library value = .ok product) ↔ ∃ fields, value = .obj fields := by
  simp only [vexProduct, bind_eq_ok, asDict_eq_ok]
  constructor
  · rintro ⟨_, fields, hvalue, -⟩
    exact ⟨fields, hvalue⟩
  · rintro ⟨fields, hvalue⟩
    exact ⟨_, fields, hvalue, rfl⟩

/-- Which suppressing statements are parsed. -/
theorem exists_parseSuppressing {statement : JsonObject}
    (h : hasLongInt (.obj statement) = false) :
    (∃ parsed, parseSuppressing library statement = .ok parsed) ↔
      (∃ vulnerability, getItem statement "vulnerability" = .obj vulnerability) ∧
        ∃ products, (statement.lookup "products").getD (.arr []) = .arr products ∧
          ∀ product ∈ products, ∃ fields, product = .obj fields := by
  simp only [parseSuppressing, bind_eq_ok, asDict_eq_ok, asList_eq_ok]
  constructor
  · rintro ⟨_, vulnerability, hvulnerability, products, hproducts, parsed, hparsed, -⟩
    refine ⟨⟨vulnerability, hvulnerability⟩, products, hproducts, fun product hproduct => ?_⟩
    exact exists_vexProduct.mp (List.exists_mapM_eq_ok.mp ⟨_, hparsed⟩ product hproduct)
  · rintro ⟨⟨vulnerability, hvulnerability⟩, products, hproducts, hall⟩
    obtain ⟨parsed, hparsed⟩ := List.exists_mapM_eq_ok.mpr fun product hproduct =>
      (@exists_vexProduct library product).mpr (hall product hproduct)
    obtain ⟨status, hstatus⟩ := exists_strOf library (hasLongInt_getItem h "status")
    obtain ⟨justification, hjustification⟩ := exists_strOf library
      (hasLongInt_pyOr (hasLongInt_pyOr (hasLongInt_getItem h "justification")
        (hasLongInt_getItem h "status_justification")) (hasLongInt_getItem h "status"))
    let ids := (strings (getItem vulnerability "name") ++
      strings (getItem vulnerability "aliases")).toFinset
    let versions := (parsed.filterMap id).toFinset
    by_cases hempty : ids = ∅ ∨ versions = ∅
    · refine ⟨none, vulnerability, hvulnerability, products, hproducts, parsed, hparsed, ?_⟩
      rw [if_pos hempty]
    · refine ⟨some ⟨ids, versions, status, justification⟩, vulnerability, hvulnerability, products,
        hproducts, parsed, hparsed, ?_⟩
      rw [if_neg hempty]
      simp only [bind_eq_ok]
      exact ⟨status, hstatus, justification, hjustification, rfl⟩

/-- Which statements are parsed. -/
theorem exists_parseVexStatement {value : Json} (h : hasLongInt value = false) :
    (∃ parsed, parseVexStatement library value = .ok parsed) ↔ IsVexStatement value := by
  simp only [parseVexStatement, bind_eq_ok, asDict_eq_ok, isSuppressing_eq_ok, IsVexStatement]
  constructor
  · rintro ⟨parsed, statement, rfl, suppressing, ⟨hhashable, hiff⟩, hparsed⟩
    refine ⟨statement, rfl, hhashable, fun hsuppressing => ?_⟩
    rw [if_pos (hiff.mpr hsuppressing)] at hparsed
    exact (exists_parseSuppressing h).mp ⟨parsed, hparsed⟩
  · rintro ⟨statement, rfl, hhashable, hparts⟩
    by_cases hsuppressing : IsSuppressing (getItem statement "status")
    · obtain ⟨parsed, hparsed⟩ := (@exists_parseSuppressing library _ h).mpr
        (hparts hsuppressing)
      exact ⟨parsed, statement, rfl, true, ⟨hhashable, by simp [hsuppressing]⟩, hparsed⟩
    · exact ⟨none, statement, rfl, false, ⟨hhashable, by simp [hsuppressing]⟩, rfl⟩

/-- A malformed suppressing statement is an input error. -/
theorem raisesOnly_parseSuppressing {statement : JsonObject}
    (h : hasLongInt (.obj statement) = false) :
    RaisesOnly GateError.IsGateInput (parseSuppressing library statement) := by
  rw [parseSuppressing]
  refine .bind (raisesOnly_asDict _ _) fun _ _ => .bind (raisesOnly_asList _ _) fun _ _ =>
    .bind (List.raisesOnly_mapM fun _ _ => .bind (raisesOnly_asDict _ _) fun _ _ => .ok _)
      fun _ _ => ?_
  dsimp only
  split
  · exact .ok _
  · exact .bind (raisesOnly_strOf (hasLongInt_getItem h _)) fun _ _ =>
      .bind (raisesOnly_strOf (hasLongInt_pyOr (hasLongInt_pyOr (hasLongInt_getItem h _)
        (hasLongInt_getItem h _)) (hasLongInt_getItem h _))) fun _ _ => .ok _

/-- A statement with a list or an object as its status raises a `TypeError`. -/
theorem parseVexStatement_eq_error {statement : JsonObject}
    (h : Unhashable (getItem statement "status")) :
    ∃ message, parseVexStatement library (.obj statement) = .error (.typeError message) := by
  obtain ⟨message, herror⟩ := isSuppressing_eq_error h
  refine ⟨message, ?_⟩
  rw [parseVexStatement]
  exact bind_eq_error.mpr (.inr ⟨statement, rfl, bind_eq_error.mpr (.inl herror)⟩)

/-- A statement is a crash exactly when its status cannot be looked up. -/
theorem raisesOnly_parseVexStatement_iff {value : Json} (h : hasLongInt value = false) :
    RaisesOnly GateError.IsGateInput (parseVexStatement library value) ↔
      ∀ statement, value = .obj statement → ¬Unhashable (getItem statement "status") := by
  constructor
  · rintro hraises statement rfl hunhashable
    obtain ⟨message, herror⟩ := @parseVexStatement_eq_error library _ hunhashable
    exact hraises (.typeError message) herror
  · intro hhashable
    rw [parseVexStatement]
    refine .bind (raisesOnly_asDict _ _) fun statement hstatement => ?_
    obtain rfl : value = .obj statement := asDict_eq_ok.mp hstatement
    refine .bind ?_ fun suppressing _ => ?_
    · have hnot := hhashable statement rfl
      cases hstatus : getItem statement "status" <;> rw [hstatus] at hnot <;>
        first | exact .ok _ | exact absurd trivial hnot
    · cases suppressing with
      | true => exact raisesOnly_parseSuppressing h
      | false => exact .ok _

/-- The loop over the statements reaches one whose status cannot be looked up. -/
def ReachesUnhashable (authorSuffix : String) (document : Json) : Prop :=
  ∃ root before statement after, document = .obj root ∧
    isTrustedAuthor authorSuffix (getItem root "author") = true ∧
    getItem root "statements" = .arr (before ++ .obj statement :: after) ∧
    (∀ value ∈ before, IsVexStatement value) ∧ Unhashable (getItem statement "status")

/-- An author is accepted exactly when it is trusted. -/
theorem checkAuthor_eq_ok {authorSuffix : String} {author : Json} {u : Unit} :
    checkAuthor library authorSuffix author = .ok u ↔
      isTrustedAuthor authorSuffix author = true := by
  rw [checkAuthor]
  split
  · simp [*]
  · simp [bind_eq_ok, *]

/-- An author who is not trusted is an input error, once it can be written. -/
theorem raisesOnly_checkAuthor {authorSuffix : String} {author : Json}
    (h : hasLongInt author = false) :
    RaisesOnly GateError.IsGateInput (checkAuthor library authorSuffix author) := by
  rw [checkAuthor]
  split
  · exact .ok _
  · obtain ⟨text, htext⟩ := exists_reprOf library h
    rw [htext]
    exact .error trivial

/-- An OpenVEX document raises input errors only, unless a status that cannot be hashed is reached.
    -/
theorem raisesOnly_parseOpenvex_iff {authorSuffix : String} {document : Json}
    (h : hasLongInt document = false) :
    RaisesOnly GateError.IsGateInput (parseOpenvex library authorSuffix document) ↔
      ¬ReachesUnhashable authorSuffix document := by
  constructor
  · rintro hraises ⟨root, before, statement, after, rfl, htrusted, hstatements, hbefore,
      hunhashable⟩
    have hlist : hasLongInt (.arr (before ++ .obj statement :: after)) = false :=
      hstatements ▸ hasLongInt_getItem h _
    obtain ⟨message, hstep⟩ := @parseVexStatement_eq_error library _ hunhashable
    have hloop := List.mapM_eq_error.mpr ⟨before, .obj statement, after, rfl, fun value hvalue =>
      (exists_parseVexStatement (hasLongInt_of_mem hlist (by simp [hvalue]))).mpr
        (hbefore value hvalue), hstep⟩
    refine hraises (.typeError message) ?_
    rw [parseOpenvex, asDict_eq_ok.mpr rfl]
    refine bind_eq_error.mpr (.inr ⟨root, rfl, ?_⟩)
    refine bind_eq_error.mpr (.inr ⟨(), checkAuthor_eq_ok.mpr htrusted, ?_⟩)
    refine bind_eq_error.mpr (.inr ⟨_, asList_eq_ok.mpr hstatements, ?_⟩)
    exact bind_eq_error.mpr (.inl hloop)
  · intro hnot
    rw [parseOpenvex]
    refine .bind (raisesOnly_asDict _ _) fun root hroot => ?_
    obtain rfl : document = .obj root := asDict_eq_ok.mp hroot
    refine .bind (raisesOnly_checkAuthor (hasLongInt_getItem h _)) fun _ hauthor =>
      .bind (raisesOnly_asList _ _) fun values hvalues => .bind ?_ fun _ _ => .ok _
    have hstatements := asList_eq_ok.mp hvalues
    have hlist : hasLongInt (.arr values) = false := hstatements ▸ hasLongInt_getItem h _
    intro error herror
    obtain ⟨before, value, after, rfl, hbefore, herror⟩ := List.mapM_eq_error.mp herror
    refine (@raisesOnly_parseVexStatement_iff library _
      (hasLongInt_of_mem hlist (by simp))).mpr ?_ error herror
    rintro statement rfl hunhashable
    refine hnot ⟨root, before, statement, after, rfl, checkAuthor_eq_ok.mp hauthor, hstatements,
      fun b hb => ?_, hunhashable⟩
    exact (exists_parseVexStatement (hasLongInt_of_mem hlist (by simp [hb]))).mp (hbefore b hb)

/-- A statement that is kept names an identifier and package versions. -/
theorem bound_parseOpenvex (authorSuffix : String) (document : Json) :
    Ensures (fun statements => ∀ statement ∈ statements, statement.ids.Nonempty ∧
        ∀ product ∈ statement.products, product.2.2 ≠ "")
      (parseOpenvex library authorSuffix document) := by
  rw [parseOpenvex]
  refine .bind fun _ _ => .bind fun _ _ => .bind fun _ _ => .bind fun parsed hparsed =>
    .ok fun statement hstatement => ?_
  obtain ⟨_, hmem, rfl⟩ := List.mem_filterMap.mp hstatement
  obtain ⟨value, -, hvalue⟩ := (List.mapM_eq_ok.mp hparsed).exists_of_mem_right hmem
  simp only [parseVexStatement, bind_eq_ok] at hvalue
  obtain ⟨fields, -, suppressing, -, hvalue⟩ := hvalue
  cases suppressing with
  | false => cases hvalue
  | true =>
    simp only [if_true, parseSuppressing, bind_eq_ok] at hvalue
    obtain ⟨vulnerability, -, products, -, versions, hversions, hvalue⟩ := hvalue
    split at hvalue
    · cases hvalue
    · rename_i hne
      rw [not_or] at hne
      simp only [bind_eq_ok] at hvalue
      obtain ⟨status, -, justification, -, hvalue⟩ := hvalue
      obtain rfl := Option.some.inj (Except.ok.inj hvalue)
      refine ⟨Finset.nonempty_iff_ne_empty.mpr hne.1, fun product hproduct => ?_⟩
      obtain ⟨parsed, hmem, hparsed⟩ := List.mem_filterMap.mp (List.mem_toFinset.mp hproduct)
      obtain rfl : parsed = some product := hparsed
      obtain ⟨value, -, hproduct⟩ := (List.mapM_eq_ok.mp hversions).exists_of_mem_right hmem
      simp only [vexProduct, bind_eq_ok] at hproduct
      obtain ⟨fields, -, hproduct⟩ := hproduct
      have hkept := (Option.filter_eq_some_iff.mp (Except.ok.inj hproduct)).2
      exact of_decide_eq_true hkept

/-! ## The exceptions file -/

/-- A value that is no date is an input error. -/
theorem raisesOnly_parseDate (value : Option Toml) (fieldName context : String) :
    RaisesOnly GateError.IsGateInput (parseDate library value fieldName context) := by
  unfold parseDate
  dsimp only
  split
  · exact .ok _
  · split
    · exact .ok _
    · exact .error trivial
  · exact .error trivial

/-- A text that is missing is an input error. -/
theorem raisesOnly_requiredText (entry : List (String × Toml)) (name context : String) :
    RaisesOnly GateError.IsGateInput (requiredText entry name context) := by
  rw [requiredText]
  split
  · split
    · exact .error trivial
    · exact .ok _
  · exact .error trivial

/-- A malformed exception is an input error. -/
theorem raisesOnly_loadException (entry : Toml × Nat) :
    RaisesOnly GateError.IsGateInput (loadException library entry) := by
  rw [loadException]
  refine .bind ?_ fun fields _ => .bind (.raiseIf trivial) fun _ _ =>
    .bind (raisesOnly_requiredText _ _ _) fun _ _ => .bind (raisesOnly_requiredText _ _ _)
    fun _ _ => .bind (raisesOnly_requiredText _ _ _) fun _ _ =>
    .bind (raisesOnly_requiredText _ _ _) fun _ _ => .bind (raisesOnly_requiredText _ _ _)
    fun _ _ => .bind (raisesOnly_parseDate _ _ _) fun _ _ =>
    .bind (raisesOnly_parseDate _ _ _) fun _ _ => .ok _
  unfold asTable
  split
  · exact .ok _
  · exact .error trivial

/-- Every malformed table of exceptions is refused as an input error. -/
theorem raisesOnly_loadExceptions (document : List (String × Toml)) :
    RaisesOnly GateError.IsGateInput (loadExceptions library document) := by
  rw [loadExceptions]
  split
  · exact List.raisesOnly_mapM fun entry _ => raisesOnly_loadException entry
  · exact .error trivial

/-! ## Files -/

/-- `loads` returns the document of the file. -/
def Holds {α : Type} (loads : String → Except LoadError α) (file : InputFile) (document : α) :
    Prop :=
  ∃ bytes text, file.content = .ok bytes ∧ String.fromUTF8? bytes = some text ∧
    loads (String.ofList (universalNewlines text.toList)) = .ok document

/-- A file that is read is a UTF-8 text, and `loads` refuses it only as no document of its
    format: no `int` in it is too long, and it is not nested too deeply. -/
def Readable {α : Type} (loads : String → Except LoadError α) (file : InputFile) : Prop :=
  ∀ bytes, file.content = .ok bytes → ∃ text, String.fromUTF8? bytes = some text ∧
    ∀ error, loads (String.ofList (universalNewlines text.toList)) = .error error →
      ∃ message, error = .decodeError message

/-- A file is loaded exactly when it holds a document. -/
theorem loadText_eq_ok {α : Type} {loads : String → Except LoadError α} {file : InputFile}
    {document : α} : loadText loads file = .ok document ↔ Holds loads file document := by
  rw [loadText, bind_eq_ok]
  unfold Holds readText
  cases file.content with
  | error message => simp
  | ok bytes =>
    cases htext : String.fromUTF8? bytes with
    | none => simp [htext]
    | some text =>
      cases hloads : loads (String.ofList (universalNewlines text.toList)) with
      | error error => simp [htext, hloads, Except.mapError]
      | ok value => simp [htext, hloads, Except.mapError]

/-- The exceptions that are caught. -/
def GateError.IsCaught : GateError → Prop
  | .gateInput _ | .osError _ | .decodeError _ => True
  | _ => False

theorem isCaught_toGateError {error : LoadError} :
    error.toGateError.IsCaught ↔ ∃ message, error = .decodeError message := by
  cases error <;> simp [LoadError.toGateError, GateError.IsCaught]

/-- Loading raises what is caught exactly when the file is readable. -/
theorem raisesOnly_loadText_iff {α : Type} {loads : String → Except LoadError α}
    {file : InputFile} :
    RaisesOnly GateError.IsCaught (loadText loads file) ↔ Readable loads file := by
  rw [loadText, raisesOnly_bind_iff]
  unfold Readable readText
  cases hcontent : file.content with
  | error message =>
    exact iff_of_true ⟨.error trivial, fun _ h => by cases h⟩ (fun _ h => by cases h)
  | ok bytes =>
    cases htext : String.fromUTF8? bytes with
    | none =>
      refine iff_of_false (fun h => h.1 .unicodeDecodeError ?_) (fun h => ?_)
      · simp [htext]
      · obtain ⟨text, hsome, -⟩ := h bytes rfl
        rw [htext] at hsome
        cases hsome
    | some text =>
      cases hloads : loads (String.ofList (universalNewlines text.toList)) with
      | ok value => simp [htext, hloads, Except.mapError, RaisesOnly]
      | error error =>
        simp [htext, hloads, Except.mapError, RaisesOnly, isCaught_toGateError]

/-- The handler does not change what is returned. -/
theorem catchUnreadable_eq_ok {α : Type} {context : String} {outcome : Except GateError α}
    {a : α} : catchUnreadable context outcome = .ok a ↔ outcome = .ok a := by
  unfold catchUnreadable
  split <;> simp_all

/-- What is caught becomes a `GateInputError`, and nothing else does. -/
theorem raisesOnly_catchUnreadable_iff {α : Type} {context : String}
    {outcome : Except GateError α} :
    RaisesOnly GateError.IsGateInput (catchUnreadable context outcome) ↔
      RaisesOnly GateError.IsCaught outcome := by
  cases outcome with
  | ok a => exact iff_of_true (.ok a) (.ok a)
  | error error =>
    cases error <;> simp [catchUnreadable, RaisesOnly, GateError.IsGateInput, GateError.IsCaught]

/-- A JSON file raises input errors only exactly when it is readable. -/
theorem raisesOnly_loadJson_iff {file : InputFile} {context : String} :
    RaisesOnly GateError.IsGateInput (loadJson library file context) ↔
      Readable library.jsonLoads file := by
  rw [loadJson, raisesOnly_catchUnreadable_iff, raisesOnly_loadText_iff]

theorem loadJson_eq_ok {file : InputFile} {context : String} {document : LoadedJson} :
    loadJson library file context = .ok document ↔ Holds library.jsonLoads file document := by
  rw [loadJson, catchUnreadable_eq_ok, loadText_eq_ok]

/-- A report is read without a crash exactly when its file is, and then its document. -/
theorem raisesOnly_readReport_iff {α : Type} {parse : Json → Except GateError α}
    {file : InputFile} {context : String} :
    RaisesOnly GateError.IsGateInput (readReport library parse file context) ↔
      Readable library.jsonLoads file ∧ ∀ document, Holds library.jsonLoads file document →
        RaisesOnly GateError.IsGateInput (parse document.val) := by
  rw [readReport, raisesOnly_bind_iff, raisesOnly_loadJson_iff]
  simp only [loadJson_eq_ok]

/-- What holds of a report that is read, in terms of the document that the file holds. -/
theorem ensures_readReport_iff {α : Type} {Q : α → Prop} {parse : Json → Except GateError α}
    {file : InputFile} {context : String} :
    Ensures Q (readReport library parse file context) ↔
      ∀ document, Holds library.jsonLoads file document → Ensures Q (parse document.val) := by
  unfold Ensures
  simp only [readReport, bind_eq_ok, loadJson_eq_ok]
  exact ⟨fun h document hholds a ha => h a ⟨document, hholds, ha⟩,
    fun h a ⟨document, hholds, ha⟩ => h document hholds a ha⟩

/-- A file of exceptions raises input errors only exactly when it is readable. -/
theorem raisesOnly_readExceptions_iff {file : InputFile} :
    RaisesOnly GateError.IsGateInput (readExceptions library file) ↔
      Readable library.tomlLoads file := by
  rw [readExceptions, raisesOnly_bind_iff, loadToml, raisesOnly_catchUnreadable_iff,
    raisesOnly_loadText_iff]
  exact and_iff_left fun document _ => raisesOnly_loadExceptions document

/-- A report that is not given raises nothing. -/
theorem raisesOnly_readOptional {α : Type} {parse : Json → Except GateError α} {context : String}
    {file : Option InputFile}
    (h : ∀ given ∈ file, RaisesOnly GateError.IsGateInput (readReport library parse given context)) :
    RaisesOnly GateError.IsGateInput (readOptional library parse context file) := by
  cases file with
  | none => exact .ok none
  | some given =>
    have hgiven := h given rfl
    rw [readOptional]
    cases hread : readReport library parse given context with
    | ok value => exact .ok _
    | error error => exact .error (hgiven error hread)

/-! ## The gate -/

variable (library) in
/-- The files are read, and their documents parsed, or a `GateInputError` is raised; findings have
    names, VEX statements are bound to package versions, and `main` ends with exit code 2 where a
    file is refused. -/
structure ReportsUntrustedInput (inputs : GateInputs) : Prop where
  scout : RaisesOnly GateError.IsGateInput
      (readReport library (parseScoutSarif library) inputs.scout "Docker Scout") ∧
    Ensures (fun findings => ∀ f ∈ findings, f.Named)
      (readReport library (parseScoutSarif library) inputs.scout "Docker Scout")
  snyk : RaisesOnly GateError.IsGateInput
      (readReport library (parseSnykJson library) inputs.snyk "Snyk") ∧
    Ensures (fun findings => ∀ f ∈ findings, f.Named)
      (readReport library (parseSnykJson library) inputs.snyk "Snyk")
  pipAudit : ∀ file ∈ inputs.pipAudit,
    RaisesOnly GateError.IsGateInput
        (readReport library (parsePipAuditJson library) file "pip-audit") ∧
      Ensures (fun findings => ∀ f ∈ findings, f.Named)
        (readReport library (parsePipAuditJson library) file "pip-audit")
  vex : ∀ file ∈ inputs.vex,
    RaisesOnly GateError.IsGateInput
        (readReport library (parseOpenvex library inputs.vexAuthorSuffix) file "OpenVEX") ∧
      Ensures (fun statements => ∀ statement ∈ statements, statement.ids.Nonempty ∧
          ∀ product ∈ statement.products, product.2.2 ≠ "")
        (readReport library (parseOpenvex library inputs.vexAuthorSuffix) file "OpenVEX")
  exceptions : RaisesOnly GateError.IsGateInput (readExceptions library inputs.exceptions)
  refused : ∀ error, readInputs library inputs = .error error → main library inputs = .ok 2

variable (library) in
/-- The files are readable, no vulnerability of an accepted Snyk or pip-audit report has empty
    identifiers only, and no statement with a list or an object for its status is reached in the
    OpenVEX document. -/
structure Reportable (inputs : GateInputs) : Prop where
  scout : Readable library.jsonLoads inputs.scout
  snyk : Readable library.jsonLoads inputs.snyk ∧
    ∀ document, Holds library.jsonLoads inputs.snyk document → SnykReportNamed document.val
  pipAudit : ∀ file ∈ inputs.pipAudit, Readable library.jsonLoads file ∧
    ∀ document, Holds library.jsonLoads file document → PipAuditReportNamed document.val
  vex : ∀ file ∈ inputs.vex, Readable library.jsonLoads file ∧
    ∀ document, Holds library.jsonLoads file document →
      ¬ReachesUnhashable inputs.vexAuthorSuffix document.val
  exceptions : Readable library.tomlLoads inputs.exceptions

/-- An input error ends `main` with exit code 2. -/
theorem main_eq_of_error {inputs : GateInputs} {error : GateError}
    (h : readInputs library inputs = .error error) (herror : error.IsGateInput) :
    main library inputs = .ok 2 := by
  rw [main, h]
  cases error with
  | gateInput message => rfl
  | _ => cases herror

end Parsers

/-- The gate reports all untrusted input exactly when the input is reportable. -/
theorem reportsUntrustedInput_iff (library : ReportLibrary) (inputs : GateInputs) :
    ReportsUntrustedInput library inputs ↔ Reportable library inputs := by
  constructor
  · intro h
    refine ⟨(raisesOnly_readReport_iff.mp h.scout.1).1, ?_, fun file hfile => ?_,
      fun file hfile => ?_, raisesOnly_readExceptions_iff.mp h.exceptions⟩
    · refine ⟨(raisesOnly_readReport_iff.mp h.snyk.1).1, fun document hholds => ?_⟩
      have hnamed := ensures_readReport_iff.mp h.snyk.2 document hholds
      exact (named_parseSnykJson_iff document.property).mp hnamed
    · refine ⟨(raisesOnly_readReport_iff.mp (h.pipAudit file hfile).1).1,
        fun document hholds => ?_⟩
      have hnamed := ensures_readReport_iff.mp (h.pipAudit file hfile).2 document hholds
      exact named_parsePipAuditJson_iff.mp hnamed
    · obtain ⟨hreadable, hraises⟩ := raisesOnly_readReport_iff.mp (h.vex file hfile).1
      refine ⟨hreadable, fun document hholds => ?_⟩
      exact (raisesOnly_parseOpenvex_iff document.property).mp (hraises document hholds)
  · intro h
    -- each file is read and parsed, or refused
    have hscout : RaisesOnly GateError.IsGateInput
        (readReport library (parseScoutSarif library) inputs.scout "Docker Scout") :=
      raisesOnly_readReport_iff.mpr ⟨h.scout, fun document _ => raisesOnly_parseScoutSarif _⟩
    have hsnyk : RaisesOnly GateError.IsGateInput
        (readReport library (parseSnykJson library) inputs.snyk "Snyk") :=
      raisesOnly_readReport_iff.mpr
        ⟨h.snyk.1, fun document _ => raisesOnly_parseSnykJson document.property⟩
    have hpipAudit : ∀ file ∈ inputs.pipAudit, RaisesOnly GateError.IsGateInput
        (readReport library (parsePipAuditJson library) file "pip-audit") := fun file hfile =>
      raisesOnly_readReport_iff.mpr ⟨(h.pipAudit file hfile).1,
        fun document _ => raisesOnly_parsePipAuditJson document.property⟩
    have hvex : ∀ file ∈ inputs.vex, RaisesOnly GateError.IsGateInput
        (readReport library (parseOpenvex library inputs.vexAuthorSuffix) file "OpenVEX") :=
      fun file hfile => raisesOnly_readReport_iff.mpr ⟨(h.vex file hfile).1, fun document hholds =>
        (raisesOnly_parseOpenvex_iff document.property).mpr ((h.vex file hfile).2 document hholds)⟩
    have hexceptions := raisesOnly_readExceptions_iff.mpr h.exceptions
    -- so the whole of the inputs is read or refused, and the exit code is 2
    have hraises : RaisesOnly GateError.IsGateInput (readInputs library inputs) := by
      rw [readInputs]
      exact hscout.bind fun _ _ => hsnyk.bind fun _ _ =>
        .bind (raisesOnly_readOptional hpipAudit) fun _ _ =>
        .bind (raisesOnly_readOptional hvex) fun _ _ => hexceptions.bind fun _ _ => .ok _
    refine ⟨⟨hscout, ensures_readReport_iff.mpr fun document _ => named_parseScoutSarif _⟩,
      ⟨hsnyk, ensures_readReport_iff.mpr fun document hholds => ?_⟩,
      fun file hfile => ⟨hpipAudit file hfile, ensures_readReport_iff.mpr fun document hholds => ?_⟩,
      fun file hfile => ⟨hvex file hfile, ensures_readReport_iff.mpr fun _ _ =>
        bound_parseOpenvex _ _⟩, hexceptions, fun error herror => ?_⟩
    · exact (named_parseSnykJson_iff document.property).mpr (h.snyk.2 document hholds)
    · exact named_parsePipAuditJson_iff.mpr ((h.pipAudit file hfile).2 document hholds)
    · exact main_eq_of_error herror (hraises error herror)

/-! ## Files that are not reported -/

/-- A string without surrogates. -/
def scalarText? : PyStr → Option (List Char)
  | [] => some []
  | .scalar c :: rest => (scalarText? rest).map (c :: ·)
  | .surrogate _ :: _ => none

mutual

/-- A value that is read, where it is a JSON value. -/
def jsonOfPy? : PyJson → Option Json
  | .null => some .null
  | .bool b => some (.bool b)
  | .int n => some (.int n)
  | .float (.finite q) => some (.float q)
  | .float _ => none
  | .str s => (scalarText? s).map fun text => .str (String.ofList text)
  | .arr items => (itemsOfPy? items).map .arr
  | .obj fields => (fieldsOfPy? fields).map .obj

/-- The items of a list that is read. -/
def itemsOfPy? : List PyJson → Option (List Json)
  | [] => some []
  | item :: rest => do
    let item ← jsonOfPy? item
    let rest ← itemsOfPy? rest
    return item :: rest

/-- The members of an object that is read. -/
def fieldsOfPy? : PyObject → Option (List (String × Json))
  | [] => some []
  | (key, value) :: rest => do
    let key ← scalarText? key
    let value ← jsonOfPy? value
    let rest ← fieldsOfPy? rest
    return (String.ofList key, value) :: rest

end

/-- `json.loads` of a text without floats and without lone surrogates. -/
def loadsJson (text : String) : Except LoadError LoadedJson :=
  match (jsonLoads ⟨fun _ => [], fun _ => .nan⟩ text).bind jsonOfPy? with
  | some value =>
    if h : hasLongInt value = false then .ok ⟨value, h⟩ else .error (.longInt "")
  | none => .error (.decodeError "Expecting value")

/-- The text functions on ASCII, for documents whose values are strings and lists, and for an
    empty exceptions file. -/
def asciiLibrary : ReportLibrary where
  toTextFunctions := asciiText
  jsonLoads := loadsJson
  tomlLoads text := if text = "" then .ok [] else .error (.decodeError "Invalid statement")
  pyStr _ := ""
  pyRepr _ := ""
  fromisoformat _ := none

/-- A file with a text. -/
def textFile (path text : String) : InputFile := ⟨path, .ok text.toUTF8⟩

/-- The arguments with empty reports and exceptions, and without further files. -/
def emptyInputs : GateInputs where
  target := "image"
  scout := textFile "scout.json" "\x7b\"runs\": []\x7d"
  snyk := textFile "snyk.json" "[]"
  pipAudit := none
  vex := none
  vexAuthorSuffix := "@docker.com>"
  exceptions := textFile "exceptions.toml" ""
  today := ⟨2026, 2, 1⟩

/-- An OpenVEX statement whose status is a list. -/
def listStatusInputs : GateInputs :=
  { emptyInputs with
    vex := some (textFile "vex.json"
      ("\x7b\"author\": \"Docker <vex@docker.com>\", " ++
        "\"statements\": [\x7b\"status\": [\"fixed\"]\x7d]\x7d")) }

/-- A Snyk vulnerability without an identifier. -/
def blankIdInputs : GateInputs :=
  { emptyInputs with
    snyk := textFile "snyk.json"
      ("\x7b\"vulnerabilities\": [\x7b\"id\": \"\", " ++
        "\"packageName\": \"openssl\", \"version\": \"3.0\"\x7d]\x7d") }

/-- A Scout report whose bytes are no UTF-8. -/
def latinScoutInputs : GateInputs :=
  { emptyInputs with scout := ⟨"scout.json", .ok ⟨#[0xe9]⟩⟩ }

/-- `main` ends with a `TypeError` on the first and with a `UnicodeDecodeError` on the last, and
    the second has a finding whose only identifier is empty. -/
theorem untrustedInput_unreported :
    main asciiLibrary listStatusInputs =
        .error (.typeError "cannot use 'list' as a set element (unhashable type: 'list')") ∧
      ¬ReportsUntrustedInput asciiLibrary listStatusInputs ∧
      (readReport asciiLibrary (parseSnykJson asciiLibrary) blankIdInputs.snyk
          "Snyk").toOption.map (List.map RawFinding.ids) = some [{""}] ∧
      ¬ReportsUntrustedInput asciiLibrary blankIdInputs ∧
      main asciiLibrary latinScoutInputs = .error .unicodeDecodeError ∧
      ¬ReportsUntrustedInput asciiLibrary latinScoutInputs := by
  have hstatus : readInputs asciiLibrary listStatusInputs =
      .error (.typeError "cannot use 'list' as a set element (unhashable type: 'list')") := by
    decide +kernel
  have hmain : main asciiLibrary listStatusInputs =
      .error (.typeError "cannot use 'list' as a set element (unhashable type: 'list')") := by
    rw [main, hstatus]
  have hids : (readReport asciiLibrary (parseSnykJson asciiLibrary) blankIdInputs.snyk
      "Snyk").toOption.map (List.map RawFinding.ids) = some [{""}] := by decide +kernel
  have hlatin : readInputs asciiLibrary latinScoutInputs = .error .unicodeDecodeError := by
    decide +kernel
  have hlatinMain : main asciiLibrary latinScoutInputs = .error .unicodeDecodeError := by
    rw [main, hlatin]
  refine ⟨hmain, fun h => ?_, hids, fun h => ?_, hlatinMain, fun h => ?_⟩
  · have hcode := h.refused _ hstatus
    rw [hmain] at hcode
    cases hcode
  -- the only finding of the Snyk report has the empty identifier
  · obtain ⟨findings, hread, hmap⟩ := Option.map_eq_some_iff.mp hids
    have hok : readReport asciiLibrary (parseSnykJson asciiLibrary) blankIdInputs.snyk "Snyk" =
        .ok findings := by
      cases houtcome : readReport asciiLibrary (parseSnykJson asciiLibrary) blankIdInputs.snyk
          "Snyk" with
      | error error =>
        rw [houtcome] at hread
        cases hread
      | ok value =>
        rw [houtcome] at hread
        exact congrArg Except.ok (Option.some.inj hread)
    obtain ⟨f, rfl⟩ : ∃ f, findings = [f] := by
      rw [← List.length_eq_one_iff, ← List.length_map RawFinding.ids, hmap]
      rfl
    have hf : f.ids = {""} := List.singleton_inj.mp hmap
    obtain ⟨identifier, hidentifier, hne⟩ := h.snyk.2 [f] hok f (List.mem_singleton_self f)
    rw [hf, Finset.mem_singleton] at hidentifier
    exact hne hidentifier
  · have hcode := h.refused _ hlatin
    rw [hlatinMain] at hcode
    cases hcode

end Conformance.VulnerabilityGate
