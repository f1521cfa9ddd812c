import Conformance.Spec.CompilePlanCorrect

/-!
# Equivalent scopes compile alike

The compiler reads the endpoint declarations of a plan only through the set of
operations they implement and the capabilities they select there. Two lists of
declarations that agree on these compile to the same plan, up to the order in
which the trace lists endpoints.

## Key results

- `compileTestPlan_congr`: equivalent scopes compile to the same plan
-/

namespace Conformance

open Except

/-- `id` can be declared on the operation `ref`: the catalogue defines it there. -/
def Declarable (catalogue : TestCatalogue) (ref : EndpointRef) (id : String) : Prop :=
  ∃ capability ∈ catalogue.capabilities, capability.capabilityId = id ∧
    ref ∈ capability.endpointRefs

/-- Two declarations of one operation select the same capabilities, and both or
    neither name a capability the operation does not have. -/
structure SameCapabilities (catalogue : TestCatalogue) (endpoint endpoint' : ImplementedEndpoint) :
    Prop where
  ref_eq : endpoint.ref = endpoint'.ref
  declarable : (∀ id ∈ endpoint.capabilityIds, Declarable catalogue endpoint.ref id) ↔
    ∀ id ∈ endpoint'.capabilityIds, Declarable catalogue endpoint'.ref id
  selected : ∀ capability ∈ catalogue.capabilities, endpoint.ref ∈ capability.endpointRefs →
    (capability.required = true ∨ capability.capabilityId ∈ endpoint.capabilityIds ↔
      capability.required = true ∨ capability.capabilityId ∈ endpoint'.capabilityIds)

/-- Two lists of declarations, each declaring an operation once, that declare the
    same operations with the same capabilities. -/
structure ScopeEquiv (catalogue : TestCatalogue) (endpoints endpoints' : List ImplementedEndpoint) :
    Prop where
  unique : (implementedEndpointRefs endpoints).Nodup
  unique' : (implementedEndpointRefs endpoints').Nodup
  forward : ∀ endpoint ∈ endpoints, ∃ endpoint' ∈ endpoints',
    SameCapabilities catalogue endpoint endpoint'
  backward : ∀ endpoint' ∈ endpoints', ∃ endpoint ∈ endpoints,
    SameCapabilities catalogue endpoint endpoint'

/-! ## Capability selection -/

section

variable {catalogue : TestCatalogue} {indexes : CapabilityIndexes}

/-- The checks of a declared capability id pass exactly when it is declarable. -/
private theorem checkDeclaredCapability_eq_ok
    (hindexes : catalogueCapabilityIndexes catalogue = .ok indexes) {index : Nat}
    {endpoint : ImplementedEndpoint} {id : String} :
    checkDeclaredCapability indexes index endpoint id = .ok () ↔
      Declarable catalogue endpoint.ref id := by
  obtain ⟨hId, hRef⟩ := catalogueCapabilityIndexes_ok hindexes
  simp only [checkDeclaredCapability, bind_eq_ok, raiseIf_eq_ok, Bool.not_eq_false,
    Dict.contains_iff, Dict.mem_keys_iff, hId, hRef, Declarable]
  constructor
  · rintro ⟨_, _, capability, hmem, hid, href⟩
    exact ⟨capability, hmem, hid, href⟩
  · rintro ⟨capability, hmem, hid, href⟩
    exact ⟨(), ⟨capability, hmem, hid⟩, capability, hmem, hid, href⟩

/-- The selection pass returns exactly when every declared id is declarable. -/
theorem selectedCapabilitiesByEndpoint_eq_ok
    (hindexes : catalogueCapabilityIndexes catalogue = .ok indexes)
    {capabilities : List EndpointCapability} {endpoints : List ImplementedEndpoint} :
    (∃ selected, selectedCapabilitiesByEndpoint indexes capabilities endpoints = .ok selected) ↔
      ∀ endpoint ∈ endpoints, ∀ id ∈ endpoint.capabilityIds,
        Declarable catalogue endpoint.ref id := by
  simp only [selectedCapabilitiesByEndpoint, List.foldlM_check_eq_ok, List.forM_eq_ok,
    checkDeclaredCapability_eq_ok hindexes, exists_and_left, exists_eq', and_true]
  constructor
  · intro hall endpoint hmem
    rw [← List.zipIdx_map_fst 0 endpoints, List.mem_map] at hmem
    obtain ⟨⟨_, index⟩, hmem, rfl⟩ := hmem
    exact hall _ hmem
  · rintro hall ⟨endpoint, index⟩ hmem
    exact hall endpoint (List.fst_mem_of_mem_zipIdx hmem)

/-- The trace entries are those of the endpoints, in declaration order. -/
theorem selectedCapabilities_selections {capabilities : List EndpointCapability}
    {endpoints : List ImplementedEndpoint} {selected : SelectedCapabilities}
    (h : selectedCapabilitiesByEndpoint indexes capabilities endpoints = .ok selected) :
    selected.selections = endpoints.flatMap (capabilitySelections indexes capabilities) := by
  have hloop := List.foldlM_ok_induction (P := fun seen c =>
    c.selections = (seen.map Prod.fst).flatMap (capabilitySelections indexes capabilities)) h rfl
    (by
    rintro seen ⟨endpoint, index⟩ c c' _ hP hstep
    rw [bind_eq_ok] at hstep
    obtain ⟨⟨⟩, -, hc'⟩ := hstep
    rw [← Except.ok.inj hc', hP]
    simp)
  rwa [List.zipIdx_map_fst] at hloop

end

/-- Endpoints have the same capabilities either way. -/
theorem SameCapabilities.symm {catalogue : TestCatalogue} {endpoint endpoint' : ImplementedEndpoint}
    (h : SameCapabilities catalogue endpoint endpoint') :
    SameCapabilities catalogue endpoint' endpoint where
  ref_eq := h.ref_eq.symm
  declarable := h.declarable.symm
  selected capability hmem href := (h.selected capability hmem (h.ref_eq ▸ href)).symm

/-- Scopes are equivalent either way. -/
theorem ScopeEquiv.symm {catalogue : TestCatalogue} {endpoints endpoints' : List ImplementedEndpoint}
    (h : ScopeEquiv catalogue endpoints endpoints') : ScopeEquiv catalogue endpoints' endpoints where
  unique := h.unique'
  unique' := h.unique
  forward endpoint' hmem := by
    obtain ⟨endpoint, hmem', hsame⟩ := h.backward endpoint' hmem
    exact ⟨endpoint, hmem', hsame.symm⟩
  backward endpoint hmem := by
    obtain ⟨endpoint', hmem', hsame⟩ := h.forward endpoint hmem
    exact ⟨endpoint', hmem', hsame.symm⟩

section

variable {catalogue : TestCatalogue} {endpoints endpoints' : List ImplementedEndpoint}

/-- Equivalent scopes name the same endpoints. -/
private theorem ScopeEquiv.mem_refs (h : ScopeEquiv catalogue endpoints endpoints')
    {ref : EndpointRef} (href : ref ∈ implementedEndpointRefs endpoints) :
    ref ∈ implementedEndpointRefs endpoints' := by
  obtain ⟨endpoint, hmem, rfl⟩ := List.mem_map.mp href
  obtain ⟨endpoint', hmem', hsame⟩ := h.forward endpoint hmem
  exact hsame.ref_eq ▸ List.mem_map_of_mem hmem'

/-- Equivalent scopes implement the same operations. -/
theorem ScopeEquiv.mem_refs_iff (h : ScopeEquiv catalogue endpoints endpoints')
    {ref : EndpointRef} :
    ref ∈ implementedEndpointRefs endpoints ↔ ref ∈ implementedEndpointRefs endpoints' :=
  ⟨h.mem_refs, h.symm.mem_refs⟩

/-- They select the same capabilities. -/
private theorem ScopeEquiv.capabilitySelected (h : ScopeEquiv catalogue endpoints endpoints')
    {ref : EndpointRef} {id : String} (hsel : CapabilitySelected catalogue endpoints ref id) :
    CapabilitySelected catalogue endpoints' ref id := by
  obtain ⟨endpoint, hdecl, capability, hcap, rfl, href, hwhy⟩ := hsel
  obtain ⟨hmem, rfl⟩ := declaration_ref hdecl
  obtain ⟨endpoint', hmem', hsame⟩ := h.forward endpoint hmem
  refine ⟨endpoint', ?_, capability, hcap, rfl, href, (hsame.selected capability hcap href).mp hwhy⟩
  rw [hsame.ref_eq]
  exact declaration_eq_some h.unique' hmem'

/-- Equivalent scopes select the same capabilities. -/
theorem ScopeEquiv.capabilitySelected_iff (h : ScopeEquiv catalogue endpoints endpoints')
    {ref : EndpointRef} {id : String} :
    CapabilitySelected catalogue endpoints ref id ↔ CapabilitySelected catalogue endpoints' ref id :=
  ⟨h.capabilitySelected, h.symm.capabilitySelected⟩

end

/-! ## Compilation -/

/-- The trace entries of one operation. -/
def selectionsAt (plan : CompiledTestPlan) (ref : EndpointRef) :
    List EndpointCapabilitySelection :=
  plan.traceability.selectedCapabilities.filter fun selection =>
    (⟨selection.method, selection.path⟩ : EndpointRef) = ref

/-- Two plans that differ at most in how the trace lists the endpoints. -/
structure SamePlan (plan plan' : CompiledTestPlan) : Prop where
  rest : plan' = { plan with traceability := { plan.traceability with
    selectedEndpoints := plan'.traceability.selectedEndpoints
    selectedCapabilities := plan'.traceability.selectedCapabilities } }
  selections : ∀ ref, selectionsAt plan ref = selectionsAt plan' ref

/-- The decision of a case depends on the declarations only through the implemented
    operations and the selected capabilities. -/
private theorem directDecision_congr {spec spec' : TestPlanSpec} {refs refs' : List EndpointRef}
    {selectedByRef selectedByRef' : Dict EndpointRef (List String)}
    (hrest : spec' = { spec with implementedEndpoints := spec'.implementedEndpoints })
    (hrefs : ∀ ref, ref ∈ refs ↔ ref ∈ refs')
    (hselected : ∀ ref id, id ∈ (selectedByRef.get? ref).getD [] ↔
      id ∈ (selectedByRef'.get? ref).getD []) (testCase : CatalogueTestCase) :
    directDecision spec refs selectedByRef testCase =
      directDecision spec' refs' selectedByRef' testCase := by
  have hmissing : missingCapabilityIds testCase selectedByRef =
      missingCapabilityIds testCase selectedByRef' := by
    simp only [missingCapabilityIds, selectedCapabilityIdsForRefs, List.mem_flatMap, hselected]
  have hprofile : spec'.securityProfile = spec.securityProfile := by rw [hrest]
  have hversion : spec'.specificationVersion = spec.specificationVersion := by rw [hrest]
  simp only [directDecision, hprofile, hversion, hmissing, hrefs]

/-- The trace entries of a list of declarations that belong to one operation. -/
private def entriesAt (indexes : CapabilityIndexes) (capabilities : List EndpointCapability)
    (endpoints : List ImplementedEndpoint) (ref : EndpointRef) : List EndpointCapabilitySelection :=
  (endpoints.flatMap (capabilitySelections indexes capabilities)).filter fun selection =>
    (⟨selection.method, selection.path⟩ : EndpointRef) = ref

/-- The selections at an endpoint, from the first declaration. -/
private theorem entriesAt_cons (indexes : CapabilityIndexes)
    (capabilities : List EndpointCapability) (endpoint : ImplementedEndpoint)
    (endpoints : List ImplementedEndpoint) (ref : EndpointRef) :
    entriesAt indexes capabilities (endpoint :: endpoints) ref =
      (if endpoint.ref = ref then capabilitySelections indexes capabilities endpoint else []) ++
        entriesAt indexes capabilities endpoints ref := by
  simp only [entriesAt, List.flatMap_cons, List.filter_append]
  congr 1
  split
  · rename_i href
    rw [List.filter_eq_self]
    intro selection hmem
    obtain ⟨capability, -, rfl⟩ := List.mem_map.mp hmem
    exact decide_eq_true href
  · rename_i href
    rw [List.filter_eq_nil_iff]
    intro selection hmem
    obtain ⟨capability, -, rfl⟩ := List.mem_map.mp hmem
    rw [decide_eq_true_eq]
    exact href

/-- An operation without a declaration has no entries. -/
private theorem entriesAt_of_notMem {indexes : CapabilityIndexes}
    {capabilities : List EndpointCapability} {endpoints : List ImplementedEndpoint}
    {ref : EndpointRef} (href : ref ∉ implementedEndpointRefs endpoints) :
    entriesAt indexes capabilities endpoints ref = [] := by
  induction endpoints with
  | nil => rfl
  | cons endpoint rest ih =>
    simp only [implementedEndpointRefs, List.map_cons, List.mem_cons, not_or] at href
    rw [entriesAt_cons, if_neg (Ne.symm href.1), ih href.2, List.nil_append]

/-- The entries of an operation are those of its declaration. -/
private theorem entriesAt_of_mem {indexes : CapabilityIndexes}
    {capabilities : List EndpointCapability} {endpoints : List ImplementedEndpoint}
    (hunique : (implementedEndpointRefs endpoints).Nodup) {endpoint : ImplementedEndpoint}
    (hmem : endpoint ∈ endpoints) :
    entriesAt indexes capabilities endpoints endpoint.ref =
      capabilitySelections indexes capabilities endpoint := by
  induction endpoints with
  | nil => exact absurd hmem List.not_mem_nil
  | cons head rest ih =>
    simp only [implementedEndpointRefs, List.map_cons, List.nodup_cons] at hunique
    rw [entriesAt_cons]
    rcases List.mem_cons.mp hmem with rfl | hmem
    · rw [if_pos rfl, entriesAt_of_notMem hunique.1, List.append_nil]
    · have hne : head.ref ≠ endpoint.ref :=
        fun heq => hunique.1 (heq ▸ List.mem_map_of_mem hmem)
      rw [if_neg hne, ih hunique.2 hmem, List.nil_append]

/-- Declarations with the same capabilities have the same trace entries. -/
private theorem SameCapabilities.capabilitySelections_eq {catalogue : TestCatalogue}
    {indexes : CapabilityIndexes} (hindexes : catalogueCapabilityIndexes catalogue = .ok indexes)
    {endpoint endpoint' : ImplementedEndpoint}
    (h : SameCapabilities catalogue endpoint endpoint') :
    capabilitySelections indexes catalogue.capabilities endpoint =
      capabilitySelections indexes catalogue.capabilities endpoint' := by
  have hids : ∀ id, id ∈ normalisedCapabilityIds indexes endpoint ↔
      id ∈ normalisedCapabilityIds indexes endpoint' := by
    intro id
    simp only [mem_normalisedCapabilityIds hindexes]
    constructor
    · rintro ⟨capability, hmem, rfl, href, hwhy⟩
      exact ⟨capability, hmem, rfl, h.ref_eq ▸ href, (h.selected capability hmem href).mp hwhy⟩
    · rintro ⟨capability, hmem, rfl, href, hwhy⟩
      rw [← h.ref_eq] at href
      exact ⟨capability, hmem, rfl, href, (h.selected capability hmem href).mpr hwhy⟩
  obtain ⟨hmethod, hpath⟩ := EndpointRef.mk.inj h.ref_eq
  simp only [capabilitySelections, hids, h.ref_eq, hmethod, hpath]

/-- Equivalent scopes select the same at each endpoint. -/
private theorem ScopeEquiv.entriesAt_eq {catalogue : TestCatalogue} {indexes : CapabilityIndexes}
    (hindexes : catalogueCapabilityIndexes catalogue = .ok indexes)
    {endpoints endpoints' : List ImplementedEndpoint}
    (h : ScopeEquiv catalogue endpoints endpoints') (ref : EndpointRef) :
    entriesAt indexes catalogue.capabilities endpoints ref =
      entriesAt indexes catalogue.capabilities endpoints' ref := by
  by_cases href : ref ∈ implementedEndpointRefs endpoints
  · obtain ⟨endpoint, hmem, rfl⟩ := List.mem_map.mp href
    obtain ⟨endpoint', hmem', hsame⟩ := h.forward endpoint hmem
    rw [entriesAt_of_mem h.unique hmem, hsame.capabilitySelections_eq hindexes, hsame.ref_eq,
      entriesAt_of_mem h.unique' hmem']
  · rw [entriesAt_of_notMem href, entriesAt_of_notMem (mt h.mem_refs_iff.mpr href)]

/-- The capabilities a compiled plan lists for an operation. -/
theorem mem_selectionsAt_iff {validateHttpsUrl : String → String → Except PyError Unit}
    {catalogue : TestCatalogue} {spec : TestPlanSpec} {plan : CompiledTestPlan}
    (h : compileTestPlan validateHttpsUrl catalogue spec = .ok plan) {ref : EndpointRef}
    {id : String} :
    id ∈ (selectionsAt plan ref).map (·.capabilityId) ↔
      ∃ endpoint ∈ spec.endpoints, endpoint.ref = ref ∧
        ∃ capability ∈ catalogue.capabilities, capability.capabilityId = id ∧
          ref ∈ capability.endpointRefs ∧
          (capability.required = true ∨ id ∈ endpoint.capabilityIds) := by
  obtain ⟨run, hrun, rfl⟩ := compileTestPlan_eq_ok.mp h
  simp only [selectionsAt, CompilerRun.plan, selectedCapabilities_selections hrun.selected,
    List.mem_map, List.mem_filter, List.mem_flatMap, decide_eq_true_eq, capabilitySelections,
    Bool.and_eq_true, mem_normalisedCapabilityIds hrun.indexes]
  constructor
  · rintro ⟨_, ⟨⟨endpoint, hmem, capability, ⟨hcap, href, capability', hcap', hid, -, hwhy⟩, rfl⟩,
      rfl⟩, rfl⟩
    obtain rfl := capability_unique hrun.indexes hcap' hcap hid
    exact ⟨endpoint, hmem, rfl, capability', hcap, rfl, href, hwhy⟩
  · rintro ⟨endpoint, hmem, rfl, capability, hcap, rfl, href, hwhy⟩
    exact ⟨_, ⟨⟨endpoint, hmem, capability, ⟨hcap, href, capability, hcap, rfl, href, hwhy⟩, rfl⟩,
      rfl⟩, rfl⟩

/-- What a compilation that returned has checked of declared capability ids. -/
theorem declarable_of_compile {validateHttpsUrl : String → String → Except PyError Unit}
    {catalogue : TestCatalogue} {spec : TestPlanSpec} {plan : CompiledTestPlan}
    (h : compileTestPlan validateHttpsUrl catalogue spec = .ok plan)
    {endpoint : ImplementedEndpoint} (hmem : endpoint ∈ spec.endpoints) {id : String}
    (hid : id ∈ endpoint.capabilityIds) : Declarable catalogue endpoint.ref id := by
  obtain ⟨run, hrun, -⟩ := compileTestPlan_eq_ok.mp h
  exact (selectedCapabilitiesByEndpoint_eq_ok hrun.indexes).mp ⟨_, hrun.selected⟩ endpoint hmem id
    hid

/-- Plan specifications with equivalent scopes compile to the same plan. -/
theorem compileTestPlan_congr {validateHttpsUrl : String → String → Except PyError Unit}
    {catalogue : TestCatalogue} {spec spec' : TestPlanSpec} {plan : CompiledTestPlan}
    (hrest : spec' = { spec with implementedEndpoints := spec'.implementedEndpoints })
    (hscope : ScopeEquiv catalogue spec.endpoints spec'.endpoints)
    (h : compileTestPlan validateHttpsUrl catalogue spec = .ok plan) :
    ∃ plan', compileTestPlan validateHttpsUrl catalogue spec' = .ok plan' ∧
      SamePlan plan plan' := by
  obtain ⟨run, hrun, rfl⟩ := compileTestPlan_eq_ok.mp h
  -- The selection pass succeeds for the other scope, with an equivalent selection.
  have hdeclarable := (selectedCapabilitiesByEndpoint_eq_ok hrun.indexes).mp ⟨_, hrun.selected⟩
  obtain ⟨selected', hselected'⟩ : ∃ selected',
      selectedCapabilitiesByEndpoint run.indexes catalogue.capabilities spec'.endpoints =
        .ok selected' := by
    refine (selectedCapabilitiesByEndpoint_eq_ok hrun.indexes).mpr ?_
    intro endpoint' hmem'
    obtain ⟨endpoint, hmem, hsame⟩ := hscope.backward endpoint' hmem'
    exact hsame.declarable.mp (hdeclarable endpoint hmem)
  have hdirect : run.direct catalogue spec =
      directlyApplicableCaseIds catalogue spec' (implementedEndpointRefs spec'.endpoints)
        selected'.byRef := by
    simp only [CompilerRun.direct, directlyApplicableCaseIds]
    congr 1
    funext direct testCase
    have hsame : ∀ ref id, id ∈ (run.selected.byRef.get? ref).getD [] ↔
        id ∈ (selected'.byRef.get? ref).getD [] := by
      intro ref id
      rw [mem_selected_iff hrun.indexes hrun.selected, mem_selected_iff hrun.indexes hselected',
        hscope.capabilitySelected_iff]
    rw [directDecision_congr hrest (fun ref => hscope.mem_refs_iff) hsame]
  -- Every other pass reads fields on which the two specifications agree.
  let run' : CompilerRun := { run with selected := selected' }
  have hdirect' : run'.direct catalogue spec' = run.direct catalogue spec := hdirect.symm
  have hprofile : spec'.securityProfile = spec.securityProfile := by rw [hrest]
  have hdesel : spec'.deselectedTestCaseIds = spec.deselectedTestCaseIds := by rw [hrest]
  have hinputs : spec'.runtimeInputs = spec.runtimeInputs := by rw [hrest]
  have hoverrides : spec'.assertionOverrides = spec.assertionOverrides := by rw [hrest]
  have hkey : spec'.catalogueKey = spec.catalogueKey := by rw [hrest]
  have hrun' : run'.Of validateHttpsUrl catalogue spec' :=
    { key := hkey ▸ hrun.key
      cases := hrun.cases
      indexes := hrun.indexes
      selected := hselected'
      references := hrun.references
      deselection := by rw [hdirect', hdesel]; exact hrun.deselection
      search := by rw [hdirect', hdesel, hprofile]; exact hrun.search
      kept := by rw [hdesel]; exact hrun.kept
      snapshot := by rw [hinputs]; exact hrun.snapshot
      overrides := by rw [hoverrides]; exact hrun.overrides }
  refine ⟨run'.plan catalogue spec', compileTestPlan_eq_ok.mpr ⟨run', hrun', rfl⟩, ?_, ?_⟩
  · simp only [CompilerRun.plan, hdirect', hprofile, hdesel]
    rfl
  · intro ref
    have hentries := hscope.entriesAt_eq hrun.indexes ref
    simp only [entriesAt, ← selectedCapabilities_selections hrun.selected,
      ← selectedCapabilities_selections hselected'] at hentries
    exact hentries

end Conformance
