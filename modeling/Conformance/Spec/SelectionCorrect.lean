import Conformance.Native.CompilePlan

/-!
# Direct selection

What it means for a test case to apply to a plan specification, stated without
indexes, loops or accumulators, and that the compiler's index and selection
passes compute exactly that.

## Key results

- `catalogueCasesById_ok`, `catalogueCapabilityIndexes_ok`: the indexes hold the
  catalogue's cases and capabilities, and ids are unique
- `selectedCapabilities_byRef`: the capabilities selected for an operation are
  those normalised for its last declaration
- `directDecision_selected_iff`: the loop selects exactly the cases that are
  `DirectlyApplicable`
-/

namespace Conformance

/-! ## What applicability means -/

/-- The endpoint declarations of a plan after alias normalisation. -/
def TestPlanSpec.endpoints (spec : TestPlanSpec) : List ImplementedEndpoint :=
  spec.implementedEndpoints.map canonicalImplementedEndpoint

/-- The declaration of `ref` that counts: the last one. -/
def declaration (endpoints : List ImplementedEndpoint) (ref : EndpointRef) :
    Option ImplementedEndpoint :=
  endpoints.reverse.find? fun endpoint => endpoint.ref = ref

/-- `capabilityId` is selected for the operation `ref`: the catalogue defines it
    there, and it is required or the declaration of `ref` names it. -/
def CapabilitySelected (catalogue : TestCatalogue) (endpoints : List ImplementedEndpoint)
    (ref : EndpointRef) (capabilityId : String) : Prop :=
  ∃ endpoint, declaration endpoints ref = some endpoint ∧
    ∃ capability ∈ catalogue.capabilities,
      capability.capabilityId = capabilityId ∧ ref ∈ capability.endpointRefs ∧
        (capability.required = true ∨ capabilityId ∈ endpoint.capabilityIds)

/-- A test case applies directly: profile and specification version match, every
    endpoint it uses is implemented, and every capability it requires is selected
    on one of these endpoints. A case without endpoints needs neither. -/
structure DirectlyApplicable (catalogue : TestCatalogue) (spec : TestPlanSpec)
    (testCase : CatalogueTestCase) : Prop where
  profile : testCase.applicability.securityProfiles.appliesTo spec.securityProfile = true
  version : testCaseAppliesToSpecificationVersion testCase spec.specificationVersion = true
  endpoints : ∀ ref ∈ testCase.applicability.endpointRefs,
    ref ∈ implementedEndpointRefs spec.endpoints
  capabilities : testCase.applicability.endpointRefs ≠ [] →
    ∀ capabilityId ∈ testCase.applicability.requiredCapabilityIds,
      ∃ ref ∈ testCase.applicability.endpointRefs,
        CapabilitySelected catalogue spec.endpoints ref capabilityId

/-! ## Index passes -/

/-- An index of the cases that was built lists every case under its id, in
    catalogue order. -/
theorem catalogueCasesById_ok {catalogue : TestCatalogue}
    {casesById : Dict String CatalogueTestCase} (h : catalogueCasesById catalogue = .ok casesById) :
    casesById.entries = catalogue.testCases.map fun testCase =>
      (testCase.testCaseId, testCase) := by
  refine List.foldlM_ok_induction (P := fun seen c =>
    c.entries = seen.map fun testCase : CatalogueTestCase =>
      (testCase.testCaseId, testCase)) h rfl ?_
  intro seen testCase c c' _ hP hstep
  rw [Except.ite_error_eq_ok, Dict.contains_iff] at hstep
  obtain ⟨hfresh, hc'⟩ := hstep
  rw [← Except.ok.inj hc', Dict.entries_set_of_notMem _ hfresh, hP, List.map_append]
  rfl

/-- The index of the cases has their ids as keys. -/
theorem casesById_keys {catalogue : TestCatalogue} {casesById : Dict String CatalogueTestCase}
    (h : catalogueCasesById catalogue = .ok casesById) :
    casesById.keys = catalogue.testCases.map (·.testCaseId) := by
  rw [Dict.keys, catalogueCasesById_ok h, List.map_map]
  rfl

/-- Test case ids are unique in a catalogue that could be indexed. -/
theorem testCaseIds_nodup {catalogue : TestCatalogue}
    {casesById : Dict String CatalogueTestCase} (h : catalogueCasesById catalogue = .ok casesById) :
    (catalogue.testCases.map (·.testCaseId)).Nodup :=
  casesById_keys h ▸ casesById.nodup

/-- It reads each case back. -/
theorem casesById_get? {catalogue : TestCatalogue} {casesById : Dict String CatalogueTestCase}
    (h : catalogueCasesById catalogue = .ok casesById) {caseId : String}
    {testCase : CatalogueTestCase} :
    casesById.get? caseId = some testCase ↔
      testCase ∈ catalogue.testCases ∧ testCase.testCaseId = caseId := by
  rw [← Dict.mem_entries_iff, catalogueCasesById_ok h, List.mem_map]
  constructor
  · rintro ⟨tc, htc, he⟩
    obtain ⟨rfl, rfl⟩ := Prod.mk.inj he
    exact ⟨htc, rfl⟩
  · rintro ⟨htc, rfl⟩
    exact ⟨testCase, htc, rfl⟩

/-- What the capability indexes hold after the capabilities `seen`. -/
private def Indexed (seen : List EndpointCapability) (indexes : CapabilityIndexes) : Prop :=
  (∀ id capability, indexes.byId.get? id = some capability ↔
    capability ∈ seen ∧ capability.capabilityId = id) ∧
  ∀ ref id capability, (indexes.forRef ref).get? id = some capability ↔
    capability ∈ seen ∧ capability.capabilityId = id ∧ ref ∈ capability.endpointRefs

/-- Filing one capability under the endpoints `refs`. -/
private theorem get?_fileCapability (byRef : Dict EndpointRef (Dict String EndpointCapability))
    (capability : EndpointCapability) (refs : List EndpointRef) (ref : EndpointRef) (id : String) :
    (((refs.foldl (fun byRef ref => byRef.set ref
        (((byRef.get? ref).getD .empty).set capability.capabilityId capability)) byRef).get?
      ref).getD .empty).get? id =
    if ref ∈ refs ∧ id = capability.capabilityId then some capability
    else ((byRef.get? ref).getD .empty).get? id := by
  induction refs generalizing byRef with
  | nil => simp
  | cons r refs ih =>
    rw [List.foldl_cons, ih, Dict.get?_set]
    by_cases hr : ref = r
    · subst hr
      by_cases hid : id = capability.capabilityId <;> simp [hid]
    · simp [hr]

/-- The capability indexes hold the catalogue's capabilities, by id and by the
    endpoints they apply to. -/
theorem catalogueCapabilityIndexes_ok {catalogue : TestCatalogue} {indexes : CapabilityIndexes}
    (h : catalogueCapabilityIndexes catalogue = .ok indexes) :
    (∀ id capability, indexes.byId.get? id = some capability ↔
      capability ∈ catalogue.capabilities ∧ capability.capabilityId = id) ∧
    ∀ ref id capability, (indexes.forRef ref).get? id = some capability ↔
      capability ∈ catalogue.capabilities ∧ capability.capabilityId = id ∧
        ref ∈ capability.endpointRefs := by
  refine List.foldlM_ok_induction (P := Indexed) h ?_ ?_
  · exact ⟨by simp, by simp [CapabilityIndexes.forRef]⟩
  · rintro seen capability c c' _ ⟨hId, hRef⟩ hstep
    rw [Except.bind_eq_ok] at hstep
    obtain ⟨⟨⟩, hcheck, hc'⟩ := hstep
    -- The last of the checks says that the id is new.
    have hfresh : ∀ cap ∈ seen, cap.capabilityId ≠ capability.capabilityId := by
      intro cap hcap heq
      have hget := (hId capability.capabilityId cap).mpr ⟨hcap, heq⟩
      simp only [checkCapability, Except.bind_eq_ok, Except.raiseIf_eq_ok, Dict.contains,
        hget] at hcheck
      obtain ⟨_, _, _, _, _, _, _, _, hdup⟩ := hcheck
      exact hdup rfl
    rw [← Except.ok.inj hc']
    constructor
    · intro id cap
      rw [Dict.get?_set]
      by_cases hid : id = capability.capabilityId
      · subst hid
        simp only [if_pos, Option.some.injEq, List.mem_append, List.mem_singleton]
        constructor
        · rintro rfl
          exact ⟨.inr rfl, rfl⟩
        · rintro ⟨hcap | rfl, heq⟩
          · exact absurd heq (hfresh cap hcap)
          · rfl
      · rw [if_neg hid, hId, List.mem_append, List.mem_singleton]
        constructor
        · rintro ⟨hcap, heq⟩
          exact ⟨.inl hcap, heq⟩
        · rintro ⟨hcap | rfl, heq⟩
          · exact ⟨hcap, heq⟩
          · exact absurd heq.symm hid
    · intro ref id cap
      simp only [CapabilityIndexes.forRef]
      rw [get?_fileCapability]
      have hold := hRef ref id cap
      simp only [CapabilityIndexes.forRef] at hold
      split
      · rename_i hnew
        obtain ⟨href, rfl⟩ := hnew
        simp only [Option.some.injEq, List.mem_append, List.mem_singleton]
        constructor
        · rintro rfl
          exact ⟨.inr rfl, rfl, href⟩
        · rintro ⟨hcap | rfl, heq, -⟩
          · exact absurd heq (hfresh cap hcap)
          · rfl
      · rename_i hnew
        rw [hold, List.mem_append, List.mem_singleton]
        constructor
        · rintro ⟨hcap, hrest⟩
          exact ⟨.inl hcap, hrest⟩
        · rintro ⟨hcap | rfl, heq, href⟩
          · exact ⟨hcap, heq, href⟩
          · exact absurd ⟨href, heq.symm⟩ hnew

/-- Capability ids are unique in a catalogue that could be indexed. -/
theorem capability_unique {catalogue : TestCatalogue} {indexes : CapabilityIndexes}
    (h : catalogueCapabilityIndexes catalogue = .ok indexes)
    {capability capability' : EndpointCapability} (hmem : capability ∈ catalogue.capabilities)
    (hmem' : capability' ∈ catalogue.capabilities)
    (hid : capability.capabilityId = capability'.capabilityId) : capability = capability' := by
  obtain ⟨hId, -⟩ := catalogueCapabilityIndexes_ok h
  have hget := (hId _ capability).mpr ⟨hmem, rfl⟩
  have hget' := (hId _ capability').mpr ⟨hmem', rfl⟩
  rw [hid, hget', Option.some.injEq] at hget
  exact hget.symm

/-! ## Capability selection -/

/-- The last declaration of an endpoint counts. -/
theorem declaration_append (endpoints : List ImplementedEndpoint) (endpoint : ImplementedEndpoint)
    (ref : EndpointRef) :
    declaration (endpoints ++ [endpoint]) ref =
      if endpoint.ref = ref then some endpoint else declaration endpoints ref := by
  simp only [declaration, List.reverse_append, List.reverse_cons, List.reverse_nil,
    List.nil_append, List.singleton_append, List.find?_cons]
  by_cases href : endpoint.ref = ref <;> simp [href]

/-- A declaration is one of the endpoints, and of that reference. -/
theorem declaration_ref {endpoints : List ImplementedEndpoint} {ref : EndpointRef}
    {endpoint : ImplementedEndpoint} (h : declaration endpoints ref = some endpoint) :
    endpoint ∈ endpoints ∧ endpoint.ref = ref := by
  have hmem := List.mem_of_find?_eq_some h
  have hp := List.find?_some h
  exact ⟨List.mem_reverse.mp hmem, of_decide_eq_true hp⟩

/-- The endpoints that are declared are those implemented. -/
theorem declaration_isSome_iff {endpoints : List ImplementedEndpoint} {ref : EndpointRef} :
    (∃ endpoint, declaration endpoints ref = some endpoint) ↔
      ref ∈ implementedEndpointRefs endpoints := by
  rw [← Option.isSome_iff_exists, declaration, List.find?_isSome]
  simp only [implementedEndpointRefs, List.mem_map, List.mem_reverse, decide_eq_true_eq]

/-- When operations are declared once, a declaration is the one that counts. -/
theorem declaration_eq_some {endpoints : List ImplementedEndpoint}
    (hunique : (implementedEndpointRefs endpoints).Nodup) {endpoint : ImplementedEndpoint}
    (hmem : endpoint ∈ endpoints) : declaration endpoints endpoint.ref = some endpoint := by
  obtain ⟨endpoint', hdecl⟩ := declaration_isSome_iff.mpr
    (List.mem_map_of_mem (f := ImplementedEndpoint.ref) hmem)
  obtain ⟨hmem', href⟩ := declaration_ref hdecl
  rw [hdecl, List.inj_on_of_nodup_map hunique hmem' hmem href]

/-- A selection pass that returned has recorded, for every operation, the
    capabilities normalised for its declaration, and every declared capability id
    passed its checks. -/
theorem selectedCapabilities_byRef {indexes : CapabilityIndexes}
    {capabilities : List EndpointCapability} {endpoints : List ImplementedEndpoint}
    {selected : SelectedCapabilities}
    (h : selectedCapabilitiesByEndpoint indexes capabilities endpoints = .ok selected)
    (ref : EndpointRef) :
    selected.byRef.get? ref =
      (declaration endpoints ref).map (normalisedCapabilityIds indexes) := by
  have hloop := List.foldlM_ok_induction (P := fun seen c =>
    c.byRef.get? ref =
      (declaration (seen.map Prod.fst) ref).map (normalisedCapabilityIds indexes)) h rfl (by
    rintro seen ⟨endpoint, index⟩ c c' _ hP hstep
    rw [Except.bind_eq_ok] at hstep
    obtain ⟨⟨⟩, -, hc'⟩ := hstep
    rw [← Except.ok.inj hc', Dict.get?_set, List.map_append, List.map_cons, List.map_nil,
      declaration_append, hP]
    by_cases href : ref = endpoint.ref
    · simp [href]
    · simp [href, Ne.symm href])
  rwa [List.zipIdx_map_fst] at hloop

/-- The normalised capabilities of a declaration are the required ones of its
    operation and the declared ones that exist there. -/
theorem mem_normalisedCapabilityIds {catalogue : TestCatalogue} {indexes : CapabilityIndexes}
    (hindexes : catalogueCapabilityIndexes catalogue = .ok indexes)
    {endpoint : ImplementedEndpoint} {capabilityId : String} :
    capabilityId ∈ normalisedCapabilityIds indexes endpoint ↔
      ∃ capability ∈ catalogue.capabilities,
        capability.capabilityId = capabilityId ∧ endpoint.ref ∈ capability.endpointRefs ∧
          (capability.required = true ∨ capabilityId ∈ endpoint.capabilityIds) := by
  obtain ⟨-, hRef⟩ := catalogueCapabilityIndexes_ok hindexes
  simp only [normalisedCapabilityIds, List.mem_map, List.mem_filter, Dict.mem_values_iff, hRef,
    Bool.or_eq_true, decide_eq_true_eq]
  constructor
  · rintro ⟨capability, ⟨⟨_, hmem, rfl, href⟩, hsel⟩, rfl⟩
    exact ⟨capability, hmem, rfl, href, hsel⟩
  · rintro ⟨capability, hmem, rfl, href, hsel⟩
    exact ⟨capability, ⟨⟨_, hmem, rfl, href⟩, hsel⟩, rfl⟩

/-- The recorded selection of an operation is the declarative one. -/
theorem mem_selected_iff {catalogue : TestCatalogue} {indexes : CapabilityIndexes}
    {endpoints : List ImplementedEndpoint} {selected : SelectedCapabilities}
    (hindexes : catalogueCapabilityIndexes catalogue = .ok indexes)
    (hselected : selectedCapabilitiesByEndpoint indexes catalogue.capabilities endpoints =
      .ok selected) {ref : EndpointRef} {capabilityId : String} :
    capabilityId ∈ (selected.byRef.get? ref).getD [] ↔
      CapabilitySelected catalogue endpoints ref capabilityId := by
  rw [selectedCapabilities_byRef hselected]
  simp only [CapabilitySelected]
  cases hdecl : declaration endpoints ref with
  | none => simp
  | some endpoint =>
    simp only [Option.map_some, Option.getD_some, Option.some.injEq, exists_eq_left',
      mem_normalisedCapabilityIds hindexes, (declaration_ref hdecl).2]

/-- No capability is missing when each is selected at an endpoint of the case. -/
theorem missingCapabilityIds_eq_nil {testCase : CatalogueTestCase}
    {selectedByRef : Dict EndpointRef (List String)} :
    missingCapabilityIds testCase selectedByRef = [] ↔
      ∀ capabilityId ∈ testCase.applicability.requiredCapabilityIds,
        ∃ ref ∈ testCase.applicability.endpointRefs,
          capabilityId ∈ (selectedByRef.get? ref).getD [] := by
  rw [List.eq_nil_iff_forall_not_mem]
  simp only [missingCapabilityIds, mem_sorted, List.mem_dedup, List.mem_filter,
    selectedCapabilityIdsForRefs, decide_eq_true_eq, not_and, not_not, List.mem_flatMap]

/-! ## The decision of one case -/

/-- A decision is about its case. -/
@[simp] theorem directDecision_testCaseId (spec : TestPlanSpec) (refs : List EndpointRef)
    (selectedByRef : Dict EndpointRef (List String)) (testCase : CatalogueTestCase) :
    (directDecision spec refs selectedByRef testCase).testCaseId = testCase.testCaseId := by
  unfold directDecision
  repeat' split
  all_goals rfl

/-- A direct decision names no dependent. -/
@[simp] theorem directDecision_dependencyOf (spec : TestPlanSpec) (refs : List EndpointRef)
    (selectedByRef : Dict EndpointRef (List String)) (testCase : CatalogueTestCase) :
    (directDecision spec refs selectedByRef testCase).dependencyOf = [] := by
  unfold directDecision
  repeat' split
  all_goals rfl

/-- The branches of `_directly_applicable_case_ids` that select. -/
theorem directDecision_selected {spec : TestPlanSpec} {refs : List EndpointRef}
    {selectedByRef : Dict EndpointRef (List String)} {testCase : CatalogueTestCase} :
    (directDecision spec refs selectedByRef testCase).selected = true ↔
      testCase.applicability.securityProfiles.appliesTo spec.securityProfile = true ∧
      testCaseAppliesToSpecificationVersion testCase spec.specificationVersion = true ∧
      (testCase.applicability.endpointRefs = [] ∨
        (∀ ref ∈ testCase.applicability.endpointRefs, ref ∈ refs) ∧
          missingCapabilityIds testCase selectedByRef = []) := by
  unfold directDecision
  -- profile, version, no endpoints at all, endpoints, capabilities: the loop's chain of tests
  split
  · rename_i hprofile
    simp [hprofile]
  · rename_i hprofile
    split
    · rename_i hversion
      simp [hversion]
    · rename_i hversion
      simp only [Bool.not_eq_false] at hprofile hversion
      split
      · rename_i hrefs
        simp [hprofile, hversion, hrefs]
      · rename_i hrefs
        split
        · rename_i hsub
          simp [hrefs, hsub]
        · rename_i hsub
          rw [not_not] at hsub
          split
          · rename_i hmissing
            simp [hrefs, hmissing]
          · rename_i hmissing
            rw [not_not] at hmissing
            split <;> simp only [true_iff] <;>
              exact ⟨hprofile, hversion, .inr ⟨hsub, hmissing⟩⟩

/-- The loop's test for one case is `DirectlyApplicable`. -/
theorem directDecision_selected_iff {catalogue : TestCatalogue} {spec : TestPlanSpec}
    {indexes : CapabilityIndexes} {selected : SelectedCapabilities}
    (hindexes : catalogueCapabilityIndexes catalogue = .ok indexes)
    (hselected : selectedCapabilitiesByEndpoint indexes catalogue.capabilities spec.endpoints =
      .ok selected) (testCase : CatalogueTestCase) :
    (directDecision spec (implementedEndpointRefs spec.endpoints) selected.byRef
      testCase).selected = true ↔ DirectlyApplicable catalogue spec testCase := by
  rw [directDecision_selected, missingCapabilityIds_eq_nil]
  simp only [mem_selected_iff hindexes hselected]
  constructor
  · rintro ⟨hprofile, hversion, hempty | ⟨hsub, hcaps⟩⟩
    · exact ⟨hprofile, hversion, by simp [hempty], fun hne => absurd hempty hne⟩
    · exact ⟨hprofile, hversion, hsub, fun _ => hcaps⟩
  · rintro ⟨hprofile, hversion, hsub, hcaps⟩
    refine ⟨hprofile, hversion, ?_⟩
    by_cases hempty : testCase.applicability.endpointRefs = []
    · exact .inl hempty
    · exact .inr ⟨hsub, hcaps hempty⟩

/-- A concatenation is told from a text that does not start with its first part. -/
theorem append_ne {s t u : String} (h : ¬ s.toList <+: u.toList) : s ++ t ≠ u := by
  rintro rfl
  exact h (by simp)

/-- No direct decision gives the reason reserved for dependencies. -/
theorem directDecision_reason_ne (spec : TestPlanSpec) (refs : List EndpointRef)
    (selectedByRef : Dict EndpointRef (List String)) (testCase : CatalogueTestCase) :
    (directDecision spec refs selectedByRef testCase).reason ≠ "included as dependency" := by
  unfold directDecision
  repeat' split
  all_goals dsimp only
  · exact append_ne (by decide)
  · exact append_ne (by decide)
  · decide
  · decide
  · exact append_ne (by decide)
  · decide
  · decide

/-- The reason of an endpoint gate is given by one branch only. -/
theorem directDecision_noEndpoint {spec : TestPlanSpec} {refs : List EndpointRef}
    {selectedByRef : Dict EndpointRef (List String)} {testCase : CatalogueTestCase} :
    (directDecision spec refs selectedByRef testCase).reason = "no matching implemented endpoint" ↔
      testCase.applicability.securityProfiles.appliesTo spec.securityProfile = true ∧
      testCaseAppliesToSpecificationVersion testCase spec.specificationVersion = true ∧
      testCase.applicability.endpointRefs ≠ [] ∧
      ¬ ∀ ref ∈ testCase.applicability.endpointRefs, ref ∈ refs := by
  unfold directDecision
  -- the texts of the other branches differ from this one in their first characters
  split
  · rename_i hprofile
    simp only [hprofile, Bool.false_eq_true, false_and, iff_false]
    exact append_ne (by decide)
  · rename_i hprofile
    rw [Bool.not_eq_false] at hprofile
    split
    · rename_i hversion
      simp only [hversion, Bool.false_eq_true, false_and, and_false, iff_false]
      exact append_ne (by decide)
    · rename_i hversion
      rw [Bool.not_eq_false] at hversion
      split
      · rename_i hrefs
        simp [hrefs]
      · rename_i hrefs
        split
        · rename_i hsub
          simp only [true_iff]
          exact ⟨hprofile, hversion, hrefs, hsub⟩
        · rename_i hsub
          simp only [hsub, and_false, iff_false]
          split
          · exact append_ne (by decide)
          · split
            · dsimp only
              decide
            · dsimp only
              decide

/-- An implemented case that lacks a capability is excluded for it. -/
theorem directDecision_missingCapability {spec : TestPlanSpec} {refs : List EndpointRef}
    {selectedByRef : Dict EndpointRef (List String)} {testCase : CatalogueTestCase}
    (hprofile : testCase.applicability.securityProfiles.appliesTo spec.securityProfile = true)
    (hversion : testCaseAppliesToSpecificationVersion testCase spec.specificationVersion = true)
    (hrefs : testCase.applicability.endpointRefs ≠ [])
    (hsub : ∀ ref ∈ testCase.applicability.endpointRefs, ref ∈ refs)
    (hmissing : missingCapabilityIds testCase selectedByRef ≠ []) :
    (directDecision spec refs selectedByRef testCase).selected = false ∧
      (directDecision spec refs selectedByRef testCase).reason =
        "required capability not selected: " ++
          ", ".intercalate (missingCapabilityIds testCase selectedByRef) := by
  unfold directDecision
  rw [if_neg (by simp [hprofile]), if_neg (by simp [hversion]), if_neg hrefs,
    if_neg (not_not.mpr hsub), if_pos hmissing]
  exact ⟨rfl, rfl⟩

/-! ## The selection loop -/

/-- The loop records one decision for each case, in catalogue order. -/
theorem directCases_decisions {catalogue : TestCatalogue} {spec : TestPlanSpec}
    {refs : List EndpointRef} {selectedByRef : Dict EndpointRef (List String)}
    (hnodup : (catalogue.testCases.map (·.testCaseId)).Nodup) :
    (directlyApplicableCaseIds catalogue spec refs selectedByRef).decisions.entries =
      catalogue.testCases.map fun testCase =>
        (testCase.testCaseId, directDecision spec refs selectedByRef testCase) := by
  unfold directlyApplicableCaseIds
  revert hnodup
  induction catalogue.testCases using List.reverseRecOn with
  | nil => exact fun _ => rfl
  | append_singleton seen testCase ih =>
    intro hnodup
    rw [List.map_append, List.nodup_append] at hnodup
    obtain ⟨hseen, -, hfresh⟩ := hnodup
    have hkeys := congrArg (List.map Prod.fst) (ih hseen)
    rw [List.map_map] at hkeys
    rw [List.foldl_append, List.foldl_cons, List.foldl_nil, DirectCases.record,
      Dict.entries_set_of_notMem, ih hseen, List.map_append]
    · rfl
    · rw [Dict.keys, hkeys]
      exact fun hmem => hfresh _ hmem _ (by simp) rfl

/-- The loop selects the ids of the cases whose decision is positive. -/
theorem mem_directCases_selectedIds {catalogue : TestCatalogue} {spec : TestPlanSpec}
    {refs : List EndpointRef} {selectedByRef : Dict EndpointRef (List String)}
    {caseId : String} :
    caseId ∈ (directlyApplicableCaseIds catalogue spec refs selectedByRef).selectedIds ↔
      ∃ testCase ∈ catalogue.testCases, testCase.testCaseId = caseId ∧
        (directDecision spec refs selectedByRef testCase).selected = true := by
  unfold directlyApplicableCaseIds
  induction catalogue.testCases using List.reverseRecOn with
  | nil => simp
  | append_singleton seen testCase ih =>
    rw [List.foldl_append, List.foldl_cons, List.foldl_nil, DirectCases.record]
    simp only [List.mem_append, List.mem_singleton, or_and_right, exists_or, exists_eq_left, ← ih]
    by_cases hsel : (directDecision spec refs selectedByRef testCase).selected = true
    · rw [if_pos hsel, List.mem_insert_iff]
      simp only [hsel, and_true]
      constructor
      · rintro (h | h)
        · exact .inr h.symm
        · exact .inl h
      · rintro (h | h)
        · exact .inr h
        · exact .inl h.symm
    · simp [hsel]

end Conformance
