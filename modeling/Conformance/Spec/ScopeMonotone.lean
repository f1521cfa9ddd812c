import Conformance.Spec.RuntimeInputsCorrect

/-!
# Compilation is monotone in scope

Declaring more endpoints, or more capabilities on an endpoint, only adds test
cases and runtime inputs. A case that was kept as skipped can turn into an
excluded one: once its endpoints are implemented, a capability it requires may
still be missing.

## Key results

- `compileTestPlan_mono`: what a larger scope preserves
- `compileTestPlan_mono_fails`: a skipped case need not stay skipped or become
  compiled, and a legacy alias beside its canonical path can lose a compiled case
-/

namespace Conformance

open Except

/-- `spec₂` is `spec₁` with more endpoints, each with at least the capability ids
    it had. Operations are declared once, and without deselections. -/
structure ScopeExtends (spec₁ spec₂ : TestPlanSpec) : Prop where
  rest : spec₂ = { spec₁ with implementedEndpoints := spec₂.implementedEndpoints }
  noDeselection : spec₁.deselectedTestCaseIds = []
  unique₁ : (spec₁.implementedEndpoints.map (·.ref)).Nodup
  unique₂ : (spec₂.implementedEndpoints.map (·.ref)).Nodup
  endpoints : ∀ endpoint ∈ spec₁.implementedEndpoints,
    ∃ endpoint' ∈ spec₂.implementedEndpoints,
      endpoint'.ref = endpoint.ref ∧ ∀ id ∈ endpoint.capabilityIds, id ∈ endpoint'.capabilityIds

namespace ScopeExtends

variable {spec₁ spec₂ : TestPlanSpec}

/-- A larger scope is of the same profile. -/
theorem securityProfile (h : ScopeExtends spec₁ spec₂) :
    spec₂.securityProfile = spec₁.securityProfile := by rw [h.rest]

/-- It is of the same version. -/
theorem specificationVersion (h : ScopeExtends spec₁ spec₂) :
    spec₂.specificationVersion = spec₁.specificationVersion := by rw [h.rest]

/-- It deselects nothing. -/
theorem deselectedTestCaseIds (h : ScopeExtends spec₁ spec₂) :
    spec₂.deselectedTestCaseIds = [] := by
  rw [h.rest]
  exact h.noDeselection

end ScopeExtends

/-! ## Declarations -/

/-- Canonicalisation sees a declaration through its operation: two declarations of
    one operation are rewritten alike, and capability ids are dropped alike. -/
private theorem canonical_mono {endpoint endpoint' : ImplementedEndpoint}
    (href : endpoint'.ref = endpoint.ref)
    (hcaps : ∀ id ∈ endpoint.capabilityIds, id ∈ endpoint'.capabilityIds) :
    (canonicalImplementedEndpoint endpoint').ref = (canonicalImplementedEndpoint endpoint).ref ∧
      ∀ id ∈ (canonicalImplementedEndpoint endpoint).capabilityIds,
        id ∈ (canonicalImplementedEndpoint endpoint').capabilityIds := by
  obtain ⟨hmethod, hpath⟩ := EndpointRef.mk.inj href
  unfold canonicalImplementedEndpoint
  rw [hmethod, hpath]
  split
  · exact ⟨by simp [ImplementedEndpoint.ref], by simp⟩
  · exact ⟨href, hcaps⟩

/-- A declaration of the smaller scope has its counterpart in the larger one. -/
private theorem declaration_mono {spec₁ spec₂ : TestPlanSpec} (h : ScopeExtends spec₁ spec₂)
    (hcanonical : (implementedEndpointRefs spec₂.endpoints).Nodup) {ref : EndpointRef}
    {endpoint : ImplementedEndpoint} (hdecl : declaration spec₁.endpoints ref = some endpoint) :
    ∃ endpoint', declaration spec₂.endpoints ref = some endpoint' ∧
      ∀ id ∈ endpoint.capabilityIds, id ∈ endpoint'.capabilityIds := by
  obtain ⟨hmem, rfl⟩ := declaration_ref hdecl
  obtain ⟨raw, hraw, rfl⟩ := List.mem_map.mp hmem
  obtain ⟨raw', hraw', href, hcaps⟩ := h.endpoints raw hraw
  obtain ⟨href', hcaps'⟩ := canonical_mono href hcaps
  exact ⟨_, href' ▸ declaration_eq_some hcanonical (List.mem_map_of_mem hraw'), hcaps'⟩

/-! ## Selection and closure -/

section

variable {catalogue : TestCatalogue} {spec₁ spec₂ : TestPlanSpec}

/-- It selects what the smaller one did. -/
private theorem capabilitySelected_mono (h : ScopeExtends spec₁ spec₂)
    (hcanonical : (implementedEndpointRefs spec₂.endpoints).Nodup) {ref : EndpointRef}
    {capabilityId : String}
    (hsel : CapabilitySelected catalogue spec₁.endpoints ref capabilityId) :
    CapabilitySelected catalogue spec₂.endpoints ref capabilityId := by
  obtain ⟨endpoint, hdecl, capability, hcap, hid, href, hwhy⟩ := hsel
  obtain ⟨endpoint', hdecl', hcaps⟩ := declaration_mono h hcanonical hdecl
  exact ⟨endpoint', hdecl', capability, hcap, hid, href, hwhy.imp id (hcaps _)⟩

/-- It names the endpoints that the smaller one did. -/
private theorem implementedRefs_mono (h : ScopeExtends spec₁ spec₂)
    (hcanonical : (implementedEndpointRefs spec₂.endpoints).Nodup) {ref : EndpointRef}
    (href : ref ∈ implementedEndpointRefs spec₁.endpoints) :
    ref ∈ implementedEndpointRefs spec₂.endpoints := by
  obtain ⟨endpoint, hdecl⟩ := declaration_isSome_iff.mpr href
  obtain ⟨endpoint', hdecl', -⟩ := declaration_mono h hcanonical hdecl
  exact declaration_isSome_iff.mp ⟨endpoint', hdecl'⟩

/-- The cases that were applicable are so. -/
private theorem directlyApplicable_mono (h : ScopeExtends spec₁ spec₂)
    (hcanonical : (implementedEndpointRefs spec₂.endpoints).Nodup)
    {testCase : CatalogueTestCase} (happ : DirectlyApplicable catalogue spec₁ testCase) :
    DirectlyApplicable catalogue spec₂ testCase where
  profile := h.securityProfile ▸ happ.profile
  version := h.specificationVersion ▸ happ.version
  endpoints ref href := implementedRefs_mono h hcanonical (happ.endpoints ref href)
  capabilities hne id hid := by
    obtain ⟨ref, href, hsel⟩ := happ.capabilities hne id hid
    exact ⟨ref, href, capabilitySelected_mono h hcanonical hsel⟩

/-- The closure grows with the scope. -/
theorem inClosure_mono (h : ScopeExtends spec₁ spec₂)
    (hcanonical : (implementedEndpointRefs spec₂.endpoints).Nodup) {caseId : String}
    (hclosure : InClosure catalogue spec₁ caseId) : InClosure catalogue spec₂ caseId := by
  obtain ⟨root, ⟨-, testCase, hcase, hid, happ⟩, hreach⟩ := hclosure
  refine ⟨root, ⟨?_, testCase, hcase, hid, directlyApplicable_mono h hcanonical happ⟩, hreach⟩
  simp [h.deselectedTestCaseIds]

end

/-! ## Runtime inputs and skipped cases -/

/-- A runtime input a subset of the cases asks for is asked for by all of them, and
    stays required. -/
private theorem snapshot_mono {validateHttpsUrl : String → String → Except PyError Unit}
    {cases₁ cases₂ : List CatalogueTestCase} {inputs₁ inputs₂ : Dict String Json}
    {snapshot₁ snapshot₂ : List RuntimeInputTrace} (hsub : ∀ c ∈ cases₁, c ∈ cases₂)
    (h₁ : runtimeInputSnapshot validateHttpsUrl cases₁ inputs₁ = .ok snapshot₁)
    (h₂ : runtimeInputSnapshot validateHttpsUrl cases₂ inputs₂ = .ok snapshot₂)
    {trace : RuntimeInputTrace} (htrace : trace ∈ snapshot₁) :
    ∃ trace' ∈ snapshot₂, trace'.inputId = trace.inputId ∧
      (trace.required = true → trace'.required = true) := by
  obtain ⟨hfrom₁, -⟩ := runtimeInputSnapshot_ok h₁
  obtain ⟨hfrom₂, hall₂⟩ := runtimeInputSnapshot_ok h₂
  have hmono : ∀ r ∈ cases₁.flatMap (·.runtimeInputRequirements),
      r ∈ cases₂.flatMap (·.runtimeInputRequirements) := by
    intro r hr
    obtain ⟨c, hc, hrc⟩ := List.mem_flatMap.mp hr
    exact List.mem_flatMap.mpr ⟨c, hsub c hc, hrc⟩
  obtain ⟨merged₁, hcomb₁, hid₁, hreq₁⟩ := hfrom₁ trace htrace
  obtain ⟨used, hused, husedId⟩ := hcomb₁.used
  obtain ⟨trace', htrace', hid'⟩ := hall₂ used (hmono used hused)
  obtain ⟨merged₂, hcomb₂, hid₂, hreq₂⟩ := hfrom₂ trace' htrace'
  refine ⟨trace', htrace', hid'.trans (husedId.trans hid₁.symm), fun hrequired => ?_⟩
  -- The requirement that makes it required is merged into the larger entry as well.
  obtain ⟨hsource, hmerged⟩ := hreq₁.mp hrequired
  obtain ⟨r, hr, hrId, hrRequired⟩ := hcomb₁.required_iff.mp hmerged
  have hids : r.inputId = merged₂.inputId := by
    rw [hrId, ← hid₂, hid', husedId]
  refine hreq₂.mpr ⟨?_, hcomb₂.required_iff.mpr ⟨r, hmono r hr, hids, hrRequired⟩⟩
  rw [← (hcomb₂.agree r (hmono r hr) hids).2, (hcomb₁.agree r hr hrId).2]
  exact hsource

/-- A case whose endpoints are implemented and that is not compiled is excluded for
    want of a capability, and the log says so. -/
private theorem excluded_of_not_compiled {validateHttpsUrl : String → String → Except PyError Unit}
    {catalogue : TestCatalogue} {spec : TestPlanSpec} {run : CompilerRun}
    (hrun : run.Of validateHttpsUrl catalogue spec) {testCase : CatalogueTestCase}
    (hcase : testCase ∈ catalogue.testCases)
    (hprofile : testCase.applicability.securityProfiles.appliesTo spec.securityProfile = true)
    (hversion : testCaseAppliesToSpecificationVersion testCase spec.specificationVersion = true)
    (hrefs : testCase.applicability.endpointRefs ≠ [])
    (hsub : ∀ ref ∈ testCase.applicability.endpointRefs,
      ref ∈ implementedEndpointRefs spec.endpoints)
    (hnodesel : testCase.testCaseId ∉ spec.deselectedTestCaseIds)
    (hcompiled : testCase.testCaseId ∉ run.search.ordered) :
    ∃ decision ∈ (run.plan catalogue spec).traceability.applicabilityDecisions,
      decision.testCaseId = testCase.testCaseId ∧ decision.selected = false ∧
      ∃ missing, missing ≠ [] ∧
        (∀ id ∈ missing, id ∈ testCase.applicability.requiredCapabilityIds) ∧
        decision.reason = "required capability not selected: " ++ ", ".intercalate missing := by
  -- with every capability selected the case would be a root of the search
  have hmissing : missingCapabilityIds testCase run.selected.byRef ≠ [] := by
    intro hnil
    have hsel := directDecision_selected.mpr ⟨hprofile, hversion, .inr ⟨hsub, hnil⟩⟩
    rw [directDecision_selected_iff hrun.indexes hrun.selected] at hsel
    exact hcompiled (hrun.mem_ordered_iff.mpr ⟨_, ⟨hnodesel, testCase, hcase, rfl, hsel⟩, .refl⟩)
  obtain ⟨hnot, htext⟩ :=
    directDecision_missingCapability hprofile hversion hrefs hsub hmissing
  have hfinal := CompilerRun.Of.finalDecision_of_notMem hcompiled hnodesel
  refine ⟨CompilerRun.Of.finalDecision run spec testCase, ?_, ?_, ?_,
    missingCapabilityIds testCase run.selected.byRef, hmissing, ?_, ?_⟩
  · rw [hrun.decisions_eq]
    exact List.mem_map_of_mem hcase
  · rw [hfinal, directDecision_testCaseId]
  · rw [hfinal]
    exact hnot
  · intro id hid
    simp only [missingCapabilityIds, mem_sorted, List.mem_dedup, List.mem_filter] at hid
    exact hid.1
  · rw [hfinal]
    exact htext

/-- `compile_test_plan` is monotone in scope, as long as no operation of the larger
    scope is declared both under its legacy alias and its canonical path. A skipped
    case is skipped again, compiled, or excluded for want of a capability. -/
theorem compileTestPlan_mono (validateHttpsUrl : String → String → Except PyError Unit)
    (catalogue : TestCatalogue) (spec₁ spec₂ : TestPlanSpec) (plan₁ plan₂ : CompiledTestPlan)
    (hscope : ScopeExtends spec₁ spec₂)
    (hcanonical : (implementedEndpointRefs spec₂.endpoints).Nodup)
    (h₁ : compileTestPlan validateHttpsUrl catalogue spec₁ = .ok plan₁)
    (h₂ : compileTestPlan validateHttpsUrl catalogue spec₂ = .ok plan₂) :
    (∀ testCase ∈ plan₁.testCases, testCase ∈ plan₂.testCases) ∧
    (∀ trace ∈ plan₁.traceability.runtimeInputSnapshot,
      ∃ trace' ∈ plan₂.traceability.runtimeInputSnapshot, trace'.inputId = trace.inputId ∧
        (trace.required = true → trace'.required = true)) ∧
    ∀ testCase ∈ plan₁.skippedTestCases,
      testCase ∈ plan₂.skippedTestCases ∨ testCase ∈ plan₂.testCases ∨
      ∃ decision ∈ plan₂.traceability.applicabilityDecisions,
        decision.testCaseId = testCase.testCaseId ∧ decision.selected = false ∧
        ∃ missing, missing ≠ [] ∧
          (∀ id ∈ missing, id ∈ testCase.applicability.requiredCapabilityIds) ∧
          decision.reason =
            "required capability not selected: " ++ ", ".intercalate missing := by
  obtain ⟨run₁, hrun₁, rfl⟩ := compileTestPlan_eq_ok.mp h₁
  obtain ⟨run₂, hrun₂, rfl⟩ := compileTestPlan_eq_ok.mp h₂
  have hcases : ∀ testCase ∈ run₁.selectedCases, testCase ∈ run₂.selectedCases := by
    intro testCase hmem
    obtain ⟨hcase, hordered⟩ := hrun₁.mem_selectedCases_iff.mp hmem
    rw [hrun₁.mem_ordered_iff] at hordered
    exact hrun₂.mem_selectedCases_iff.mpr
      ⟨hcase, hrun₂.mem_ordered_iff.mpr (inClosure_mono hscope hcanonical hordered)⟩
  refine ⟨hcases, fun trace htrace => snapshot_mono hcases hrun₁.snapshot hrun₂.snapshot htrace,
    fun testCase hskipped => ?_⟩
  obtain ⟨hcase, hkept⟩ := List.mem_filter.mp hskipped
  obtain ⟨hreason, hgate⟩ := hrun₁.keptAsSkipped_iff hcase |>.mp hkept |>.2
  obtain ⟨hprofile, hversion, hrefs, -⟩ := directDecision_noEndpoint.mp hreason
  rw [← hscope.securityProfile] at hprofile
  rw [← hscope.specificationVersion] at hversion
  -- the case is compiled now, or it is excluded for a capability, or skipped as before
  by_cases hcompiled : testCase.testCaseId ∈ run₂.search.ordered
  · exact .inr (.inl (hrun₂.mem_selectedCases_iff.mpr ⟨hcase, hcompiled⟩))
  · by_cases hsub : ∀ ref ∈ testCase.applicability.endpointRefs,
        ref ∈ implementedEndpointRefs spec₂.endpoints
    · have hnodesel : testCase.testCaseId ∉ spec₂.deselectedTestCaseIds := by
        simp [hscope.deselectedTestCaseIds]
      exact .inr (.inr (excluded_of_not_compiled hrun₂ hcase hprofile hversion hrefs hsub hnodesel
        hcompiled))
    -- an endpoint of the case is still missing, so the gate is the same one
    · exact .inl (List.mem_filter.mpr ⟨hcase, hrun₂.keptAsSkipped_iff hcase |>.mpr
        ⟨hcompiled, directDecision_noEndpoint.mpr ⟨hprofile, hversion, hrefs, hsub⟩, hgate⟩⟩)

/-- A catalogue with one case that needs an optional capability of the operation
    `ref` and is kept as skipped while the operation is not implemented. -/
def gatedCatalogue (ref : EndpointRef) : TestCatalogue where
  key := ⟨"open-banking", "v4.0", "ais"⟩
  catalogueVersion := "1.0"
  testCases := [
    { testCaseId := "file"
      mandatory := true
      gateAbsenceBehavior := .skip
      runtimeInputRequirements := [{ inputId := "fileId", inputType := .string, label := "" }]
      applicability := {
        securityProfiles := ⟨[.all]⟩
        endpointRefs := [ref]
        requiredCapabilityIds := ["file-download"] } }]
  capabilities := [
    { capabilityId := "file-download"
      label := "File download"
      description := "Files can be downloaded"
      required := false
      endpointRefs := [ref] }]

/-- A plan that implements `endpoints` and supplies a file id. -/
def gatedSpec (endpoints : List ImplementedEndpoint) : TestPlanSpec where
  catalogueKey := ⟨"open-banking", "v4.0", "ais"⟩
  securityProfile := .fapi1Advanced
  implementedEndpoints := endpoints
  runtimeInputs := ⟨[("fileId", .str "1")], by simp⟩

/-- A declaration of `GET path` with the capability ids `capabilityIds`. -/
def getEndpoint (path : String) (capabilityIds : List String) : ImplementedEndpoint where
  method := .get
  path := path
  resourceGroup := "AIS"
  capabilityIds := capabilityIds

/-- Declaring the optional capability as well compiles the case. -/
theorem compileTestPlan_mono_statements :
    ∃ plan₁ plan₂,
      compileTestPlan (fun _ _ => .ok ()) (gatedCatalogue ⟨.get, "/statements"⟩)
        (gatedSpec [getEndpoint "/statements" []]) = .ok plan₁ ∧
      compileTestPlan (fun _ _ => .ok ()) (gatedCatalogue ⟨.get, "/statements"⟩)
        (gatedSpec [getEndpoint "/statements" ["file-download"]]) = .ok plan₂ ∧
      plan₂.traceability.generatedTestCaseIds = ["file"] ∧
      ∀ testCase ∈ plan₁.testCases, testCase ∈ plan₂.testCases :=
  ⟨_, _, rfl, rfl, by decide +kernel,
    (compileTestPlan_mono (fun _ _ => .ok ()) (gatedCatalogue ⟨.get, "/statements"⟩)
      (gatedSpec [getEndpoint "/statements" []])
      (gatedSpec [getEndpoint "/statements" ["file-download"]]) _ _
      ⟨rfl, rfl, by decide, by decide, by decide⟩ (by decide) rfl rfl).1⟩

/-- Declaring the endpoint without the capability turns a skipped case into one that
    is neither skipped nor compiled, and declaring the legacy alias after its
    canonical path takes the capability away from a compiled case. -/
theorem compileTestPlan_mono_fails :
    (¬ ∀ (validateHttpsUrl : String → String → Except PyError Unit) (catalogue : TestCatalogue)
      (spec₁ spec₂ : TestPlanSpec) (plan₁ plan₂ : CompiledTestPlan), ScopeExtends spec₁ spec₂ →
      compileTestPlan validateHttpsUrl catalogue spec₁ = .ok plan₁ →
      compileTestPlan validateHttpsUrl catalogue spec₂ = .ok plan₂ →
      ∀ testCase ∈ plan₁.skippedTestCases,
        testCase ∈ plan₂.skippedTestCases ∨ testCase ∈ plan₂.testCases) ∧
    ¬ ∀ (validateHttpsUrl : String → String → Except PyError Unit) (catalogue : TestCatalogue)
      (spec₁ spec₂ : TestPlanSpec) (plan₁ plan₂ : CompiledTestPlan), ScopeExtends spec₁ spec₂ →
      compileTestPlan validateHttpsUrl catalogue spec₁ = .ok plan₁ →
      compileTestPlan validateHttpsUrl catalogue spec₂ = .ok plan₂ →
      ∀ testCase ∈ plan₁.testCases, testCase ∈ plan₂.testCases := by
  constructor
  · intro hall
    have hskipped := hall (fun _ _ => .ok ()) (gatedCatalogue ⟨.get, "/statements"⟩) (gatedSpec [])
      (gatedSpec [getEndpoint "/statements" []]) _ _ ⟨rfl, rfl, by decide, by decide, by decide⟩
      rfl rfl
    revert hskipped
    decide +kernel
  · intro hall
    have hcompiled := hall (fun _ _ => .ok ())
      (gatedCatalogue ⟨.get, "/open-banking/v4.0/aisp/products"⟩)
      (gatedSpec [getEndpoint "/open-banking/v4.0/aisp/products" ["file-download"]])
      (gatedSpec [getEndpoint "/open-banking/v4.0/aisp/products" ["file-download"],
        getEndpoint "/open-banking/v4.0/aisp/product" []]) _ _
      ⟨rfl, rfl, by decide, by decide, by decide⟩ rfl rfl
    revert hcompiled
    decide +kernel

end Conformance
