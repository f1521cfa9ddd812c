import Conformance.Spec.PartitionCorrect
import Conformance.Spec.ScopeEquivalence

/-!
# Declaration order in plan documents

Permuting the endpoint declarations inside the resource groups of a plan document
changes nothing, except for one thing: when the products operation is declared
both under its legacy alias and under its canonical path, the first of the two
counts, and the alias carries no capabilities.

## Key results

- `compilePlanDocumentV2_order`: when two orders of one document compile alike
- `compilePlanDocumentV2_order_fails`: a document for which they do not
-/

namespace Conformance

open Except

/-! ## Orders of one document -/

/-- `document'` is `document` with the endpoints of each resource group, and the
    direct endpoints, in another order. -/
structure Reordered (document document' : PlanDocumentV2) : Prop where
  rest : document' = { document with
    resourceGroups := document'.resourceGroups, endpoints := document'.endpoints }
  groups : List.Forall₂ (fun group group' =>
    group' = { group with endpoints := group'.endpoints } ∧
      group.endpoints.Perm group'.endpoints) document.resourceGroups document'.resourceGroups
  direct : document.endpoints.Perm document'.endpoints

/-- Both compilations return or neither does, and they agree on the compiled ids, on
    the decisions, and on the capability ids selected for each endpoint. -/
structure SameOutcome (outcome outcome' : Except PyError CompiledTestPlan) : Prop where
  returns : (∃ plan, outcome = .ok plan) ↔ ∃ plan', outcome' = .ok plan'
  agree : ∀ plan plan', outcome = .ok plan → outcome' = .ok plan' →
    plan.traceability.generatedTestCaseIds = plan'.traceability.generatedTestCaseIds ∧
    plan.traceability.applicabilityDecisions = plan'.traceability.applicabilityDecisions ∧
    ∀ ref, (selectionsAt plan ref).map (·.capabilityId) =
      (selectionsAt plan' ref).map (·.capabilityId)

/-- The declaration of the products operation that counts in the area at `index`. -/
def firstProducts (catalogues : List TestCatalogue) (endpoints : List ImplementedEndpoint)
    (index : Nat) : Option ImplementedEndpoint :=
  (declared catalogues endpoints index productsRef).head?

/-- `id` is a capability of the products operation, and a required one. -/
def RequiredOnProducts (catalogue : TestCatalogue) (id : String) : Prop :=
  Declarable catalogue productsRef id ∧
    ∀ capability ∈ catalogue.capabilities, capability.capabilityId = id →
      productsRef ∈ capability.endpointRefs → capability.required = true

/-- An alias and a canonical declaration of the products operation are
    interchangeable as first declaration of an area: the canonical one is the only
    canonical one there, and names required capabilities only. -/
structure Interchangeable (catalogues : List TestCatalogue) (endpoints : List ImplementedEndpoint)
    (index : Nat) (catalogue : TestCatalogue) (canonical : ImplementedEndpoint) : Prop where
  single : (declared catalogues endpoints index productsRef).filter (fun raw => ¬ raw.IsAlias) =
    [canonical]
  required : ∀ id ∈ canonical.capabilityIds, RequiredOnProducts catalogue id

/-- Wherever two orders differ in whether the alias or the canonical declaration comes
    first, the two are interchangeable. -/
def AliasOrderIrrelevant (catalogues : List TestCatalogue)
    (endpoints endpoints' : List ImplementedEndpoint) : Prop :=
  ∀ index catalogue, catalogues[index]? = some catalogue →
    ∀ legacy canonical, legacy.IsAlias → ¬ canonical.IsAlias →
      (firstProducts catalogues endpoints index = some legacy ∧
          firstProducts catalogues endpoints' index = some canonical ∨
        firstProducts catalogues endpoints index = some canonical ∧
          firstProducts catalogues endpoints' index = some legacy) →
      Interchangeable catalogues endpoints index catalogue canonical

/-! ## Declarations of one operation, in two orders -/

section

variable {catalogues : List TestCatalogue} {endpoints endpoints' : List ImplementedEndpoint}

/-- A declaration belongs to an area that has its operation. -/
theorem mem_endpointRefsAt_of_ownerOf {raw : ImplementedEndpoint} {index : Nat}
    (h : ownerOf catalogues raw = .ok index) :
    (canonicalImplementedEndpoint raw).ref ∈ endpointRefsAt catalogues index := by
  unfold ownerOf owningCatalogueIndex at h
  dsimp only at h
  rw [bind_eq_ok] at h
  obtain ⟨groupIndex, -, h⟩ := h
  cases groupIndex with
  -- the named area was checked to have the operation; without a name it is the only one that has
  | some i =>
    simp only [bind_eq_ok, raiseIf_eq_ok, not_not] at h
    obtain ⟨_, hmem, hi⟩ := h
    obtain rfl := Except.ok.inj hi
    exact hmem
  | none =>
    dsimp only at h
    split at h
    · cases h
    · rename_i i howners
      obtain rfl := Except.ok.inj h
      have hmem : i ∈ (List.range catalogues.length).filter fun index =>
          (canonicalImplementedEndpoint raw).ref ∈ endpointRefsAt catalogues index := by
        rw [howners]
        simp
      simpa using (List.mem_filter.mp hmem).2
    · cases h

/-- The declarations of an operation belong to an area of the boundary. -/
private theorem exists_catalogue_of_declared {index : Nat} {ref : EndpointRef}
    (hne : declared catalogues endpoints index ref ≠ []) :
    ref ∈ endpointRefsAt catalogues index ∧ ∃ catalogue, catalogues[index]? = some catalogue := by
  obtain ⟨raw, hraw⟩ := List.exists_mem_of_ne_nil _ hne
  simp only [declared, List.mem_filter, decide_eq_true_eq] at hraw
  obtain ⟨-, howner, rfl⟩ := hraw
  have hmem := mem_endpointRefsAt_of_ownerOf howner
  refine ⟨hmem, ?_⟩
  unfold endpointRefsAt at hmem
  cases hget : catalogues[index]? with
  | none => simp [hget] at hmem
  | some catalogue => exact ⟨catalogue, rfl⟩

/-- Endpoints in another order declare the same. -/
private theorem declared_perm (hperm : endpoints.Perm endpoints') (index : Nat)
    (ref : EndpointRef) :
    (declared catalogues endpoints index ref).Perm (declared catalogues endpoints' index ref) :=
  hperm.filter _

/-- The canonical declarations among those of one operation. -/
private abbrev canonicals (l : List ImplementedEndpoint) : List ImplementedEndpoint :=
  l.filter fun raw => ¬ raw.IsAlias

/-- A list that starts with a canonical declaration is acceptable exactly when that
    is its only one. -/
private theorem acceptable_iff_canonicals {first : ImplementedEndpoint}
    {rest : List ImplementedEndpoint} (hfirst : ¬ first.IsAlias) :
    Acceptable (first :: rest) ↔ canonicals (first :: rest) = [first] := by
  simp only [Acceptable, hfirst, false_or, canonicals, List.filter_cons, not_false_eq_true,
    decide_true, if_true, List.cons.injEq, true_and, List.filter_eq_nil_iff, decide_eq_true_eq,
    not_not]

/-- Two orders of one list have the same canonical declarations, if there is at most
    one. -/
private theorem canonicals_eq_of_perm {l l' : List ImplementedEndpoint} (hperm : l.Perm l')
    {canonical : ImplementedEndpoint} (h : canonicals l = [canonical]) :
    canonicals l' = [canonical] := by
  have hfilter : (canonicals l).Perm (canonicals l') := hperm.filter _
  rw [h] at hfilter
  exact List.perm_singleton.mp hfilter.symm

/-- The order of aliases is irrelevant either way. -/
theorem AliasOrderIrrelevant.symm (h : AliasOrderIrrelevant catalogues endpoints endpoints')
    (hperm : endpoints.Perm endpoints') :
    AliasOrderIrrelevant catalogues endpoints' endpoints := by
  intro index catalogue hcat legacy canonical halias hcanonical hfirst
  obtain ⟨single, required⟩ := h index catalogue hcat legacy canonical halias hcanonical
    (hfirst.symm.imp And.symm And.symm)
  exact ⟨canonicals_eq_of_perm (declared_perm hperm index productsRef) single, required⟩

/-- An alias among the declarations of an operation makes it the products operation. -/
private theorem eq_productsRef_of_isAlias {index : Nat} {ref : EndpointRef}
    {raw : ImplementedEndpoint} (hmem : raw ∈ declared catalogues endpoints index ref)
    (halias : raw.IsAlias) : ref = productsRef := by
  simp only [declared, List.mem_filter, decide_eq_true_eq] at hmem
  exact hmem.2.2.symm.trans (canonical_of_isAlias halias).1

/-- Acceptability does not depend on the order. -/
private theorem acceptable_of_perm (hperm : endpoints.Perm endpoints')
    (hirr : AliasOrderIrrelevant catalogues endpoints endpoints') {index : Nat}
    {ref : EndpointRef} (h : Acceptable (declared catalogues endpoints index ref)) :
    Acceptable (declared catalogues endpoints' index ref) := by
  have hdecl : (declared catalogues endpoints index ref).Perm
      (declared catalogues endpoints' index ref) := declared_perm hperm index ref
  cases h' : declared catalogues endpoints' index ref with
  | nil => trivial
  | cons first' rest' =>
    by_cases hfirst' : first'.IsAlias
    · exact .inl hfirst'
    · rw [acceptable_iff_canonicals hfirst', ← h']
      cases hd : declared catalogues endpoints index ref with
      | nil =>
        rw [hd, h'] at hdecl
        exact absurd hdecl.symm.eq_nil (List.cons_ne_nil _ _)
      | cons first rest =>
        have hmem : first' ∈ declared catalogues endpoints' index ref := by rw [h']; simp
        by_cases hfirst : first.IsAlias
        · -- The first declarations differ in kind, so they are interchangeable.
          have hfirstMem : first ∈ declared catalogues endpoints index ref := by rw [hd]; simp
          obtain ⟨-, catalogue, hcat⟩ :=
            exists_catalogue_of_declared (List.ne_nil_of_mem hfirstMem)
          obtain rfl := eq_productsRef_of_isAlias hfirstMem hfirst
          obtain ⟨single, -⟩ := hirr index catalogue hcat first first' hfirst hfirst'
            (.inl ⟨by rw [firstProducts, hd]; rfl, by rw [firstProducts, h']; rfl⟩)
          exact canonicals_eq_of_perm hdecl single
        · rw [hd, acceptable_iff_canonicals hfirst] at h
          have hcan := canonicals_eq_of_perm hdecl (hd ▸ h)
          have hin : first' ∈ canonicals (declared catalogues endpoints' index ref) :=
            List.mem_filter.mpr ⟨hmem, by simpa using hfirst'⟩
          rw [hcan, List.mem_singleton] at hin
          rw [hcan, hin]

/-- An alias selects what a canonical declaration with required capabilities only
    selects. -/
private theorem sameCapabilities_alias {catalogue : TestCatalogue}
    {legacy canonical : ImplementedEndpoint} (href : legacy.ref = productsRef)
    (href' : canonical.ref = productsRef) (hcaps : legacy.capabilityIds = [])
    (required : ∀ id ∈ canonical.capabilityIds, RequiredOnProducts catalogue id) :
    SameCapabilities catalogue legacy canonical where
  ref_eq := href.trans href'.symm
  declarable := by
    simp only [hcaps, List.not_mem_nil, false_implies, implies_true, true_iff]
    exact fun id hid => href' ▸ (required id hid).1
  selected capability hmem hcapRef := by
    simp only [hcaps, List.not_mem_nil, or_false]
    constructor
    · exact .inl
    · rintro (hreq | hid)
      · exact hreq
      · exact (required _ hid).2 capability hmem rfl (href ▸ hcapRef)

/-- The first declarations of an operation in two orders select the same
    capabilities. -/
private theorem sameCapabilities_of_first (hperm : endpoints.Perm endpoints')
    (hirr : AliasOrderIrrelevant catalogues endpoints endpoints') {index : Nat}
    {ref : EndpointRef} {catalogue : TestCatalogue} (hcat : catalogues[index]? = some catalogue)
    (hok : Acceptable (declared catalogues endpoints index ref))
    {first first' : ImplementedEndpoint}
    (h : (declared catalogues endpoints index ref).head? = some first)
    (h' : (declared catalogues endpoints' index ref).head? = some first') :
    SameCapabilities catalogue (canonicalImplementedEndpoint first)
      (canonicalImplementedEndpoint first') := by
  have hmem := List.mem_of_mem_head? h
  have hmem' := List.mem_of_mem_head? h'
  have href : (canonicalImplementedEndpoint first).ref = ref := by
    simp only [declared, List.mem_filter, decide_eq_true_eq] at hmem
    exact hmem.2.2
  have href' : (canonicalImplementedEndpoint first').ref = ref := by
    simp only [declared, List.mem_filter, decide_eq_true_eq] at hmem'
    exact hmem'.2.2
  by_cases halias : first.IsAlias <;> by_cases halias' : first'.IsAlias
  -- Two aliases are rewritten to the same declaration without capability ids.
  · have hcaps := (canonical_of_isAlias halias).2
    have hcaps' := (canonical_of_isAlias halias').2
    exact ⟨href.trans href'.symm, by simp [hcaps, hcaps'], by simp [hcaps, hcaps']⟩
  · obtain rfl := eq_productsRef_of_isAlias hmem halias
    obtain ⟨-, required⟩ := hirr index catalogue hcat first first' halias halias' (.inl ⟨h, h'⟩)
    exact sameCapabilities_alias href href' (canonical_of_isAlias halias).2
      (by rwa [canonical_of_not_isAlias halias'])
  · obtain rfl := eq_productsRef_of_isAlias hmem' halias'
    obtain ⟨-, required⟩ := hirr index catalogue hcat first' first halias' halias (.inr ⟨h, h'⟩)
    exact (sameCapabilities_alias href' href (canonical_of_isAlias halias').2
      (by rwa [canonical_of_not_isAlias halias])).symm
  · -- Both are the only canonical declaration.
    obtain ⟨rest, hd⟩ : ∃ rest, declared catalogues endpoints index ref = first :: rest :=
      List.head?_eq_some_iff.mp h
    rw [hd, acceptable_iff_canonicals halias] at hok
    have hcan := canonicals_eq_of_perm (declared_perm hperm index ref) (hd ▸ hok)
    have hin : first' ∈ canonicals (declared catalogues endpoints' index ref) :=
      List.mem_filter.mpr ⟨hmem', by simpa using halias'⟩
    rw [hcan, List.mem_singleton] at hin
    rw [hin]
    exact ⟨rfl, Iff.rfl, fun _ _ _ => Iff.rfl⟩

end

/-! ## The partition, in two orders -/

/-- Two parts of a partition for one area, with equivalent canonical declarations. -/
private structure AreaEquiv (part part' : TestCatalogue × List ImplementedEndpoint) : Prop where
  catalogue_eq : part'.1 = part.1
  scope : ScopeEquiv part.1 part.2 part'.2
  canonical : ∀ endpoint ∈ part.2, canonicalImplementedEndpoint endpoint = endpoint
  canonical' : ∀ endpoint ∈ part'.2, canonicalImplementedEndpoint endpoint = endpoint

section

variable {catalogues : List TestCatalogue} {endpoints endpoints' : List ImplementedEndpoint}
  {areas areas' : Dict Nat Area}

/-- Every declaration an area holds has an equivalent one in the other order. -/
private theorem placed_forward (hperm : endpoints.Perm endpoints')
    (hirr : AliasOrderIrrelevant catalogues endpoints endpoints')
    (hplaced : Placed catalogues endpoints areas) (hplaced' : Placed catalogues endpoints' areas')
    (hok : ∀ index ref, Acceptable (declared catalogues endpoints index ref)) {index : Nat}
    {catalogue : TestCatalogue} (hcat : catalogues[index]? = some catalogue)
    {endpoint : ImplementedEndpoint} (hmem : endpoint ∈ (areaAt areas index).endpoints) :
    ∃ endpoint' ∈ (areaAt areas' index).endpoints,
      SameCapabilities catalogue endpoint endpoint' := by
  obtain ⟨raw, hhead, heq⟩ := (hplaced.mem index endpoint).mp hmem
  -- The operation is declared in the other order too, so it has a first declaration there.
  have hne : declared catalogues endpoints' index endpoint.ref ≠ [] := by
    intro hnil
    have hdecl : (declared catalogues endpoints index endpoint.ref).Perm
        (declared catalogues endpoints' index endpoint.ref) := declared_perm hperm _ _
    have hnil' := (hnil ▸ hdecl).eq_nil
    rw [hnil'] at hhead
    cases hhead
  obtain ⟨raw', rest', hcons⟩ := List.exists_cons_of_ne_nil hne
  have hhead' : (declared catalogues endpoints' index endpoint.ref).head? = some raw' := by
    rw [hcons]
    rfl
  have hsame := sameCapabilities_of_first hperm hirr hcat (hok index endpoint.ref) hhead hhead'
  rw [← heq] at hsame
  refine ⟨canonicalImplementedEndpoint raw', (hplaced'.mem index _).mpr ⟨raw', ?_, rfl⟩, hsame⟩
  rw [← hsame.ref_eq]
  exact hhead'

/-- What an area holds is canonical. -/
private theorem placed_canonical (hplaced : Placed catalogues endpoints areas) {index : Nat}
    {endpoint : ImplementedEndpoint} (hmem : endpoint ∈ (areaAt areas index).endpoints) :
    canonicalImplementedEndpoint endpoint = endpoint := by
  obtain ⟨raw, -, rfl⟩ := (hplaced.mem index endpoint).mp hmem
  exact canonical_canonical raw

/-- Reordering the declarations leaves the partition equivalent. -/
private theorem partition_equiv (hperm : endpoints.Perm endpoints')
    (hirr : AliasOrderIrrelevant catalogues endpoints endpoints')
    {parts : List (TestCatalogue × List ImplementedEndpoint)}
    (h : partitionImplementedEndpointsByCatalogue endpoints catalogues = .ok parts) :
    ∃ parts', partitionImplementedEndpointsByCatalogue endpoints' catalogues = .ok parts' ∧
      List.Forall₂ AreaEquiv parts parts' := by
  unfold partitionImplementedEndpointsByCatalogue at h ⊢
  rw [bind_eq_ok] at h
  obtain ⟨areas, hareas, hparts⟩ := h
  obtain ⟨hplaced, howners, hok⟩ := placeEndpoints_placed hareas
  have hok' : ∀ index ref, Acceptable (declared catalogues endpoints' index ref) :=
    fun index ref => acceptable_of_perm hperm hirr (hok index ref)
  obtain ⟨areas', hareas'⟩ := placeEndpoints_ok_iff.mpr
    ⟨fun raw hraw => howners raw (hperm.mem_iff.mpr hraw), hok'⟩
  obtain ⟨hplaced', -, -⟩ := placeEndpoints_placed hareas'
  refine ⟨_, bind_eq_ok.mpr ⟨areas', hareas', rfl⟩, ?_⟩
  rw [← Except.ok.inj hparts]
  -- The parts are listed in the order of the catalogues, so they are compared area by area.
  refine List.forall₂_filterMap ?_
  rintro ⟨catalogue, index⟩ hzip
  have hcat : catalogues[index]? = some catalogue := List.mem_zipIdx_iff_getElem?.mp hzip
  have hsome : (areas.get? index).isSome = true ↔ (areas'.get? index).isSome = true := by
    rw [hplaced.isSome, hplaced'.isSome]
    simp only [hperm.mem_iff]
  dsimp only
  cases hget : areas.get? index with
  | none =>
    cases hget' : areas'.get? index with
    | none => exact .none
    | some area' => simp [hget, hget'] at hsome
  | some area =>
    cases hget' : areas'.get? index with
    | none => simp [hget, hget'] at hsome
    | some area' =>
      have harea : areaAt areas index = area := by rw [areaAt, hget, Option.getD_some]
      have harea' : areaAt areas' index = area' := by rw [areaAt, hget', Option.getD_some]
      subst harea harea'
      refine .some ⟨rfl, ⟨hplaced.nodup index, hplaced'.nodup index, ?_, ?_⟩, ?_, ?_⟩
      · exact fun endpoint hmem => placed_forward hperm hirr hplaced hplaced' hok hcat hmem
      · intro endpoint' hmem'
        obtain ⟨endpoint, hmem, hsame⟩ := placed_forward hperm.symm (hirr.symm hperm) hplaced'
          hplaced hok' hcat hmem'
        exact ⟨endpoint, hmem, hsame.symm⟩
      · exact fun endpoint hmem => placed_canonical hplaced hmem
      · exact fun endpoint hmem => placed_canonical hplaced' hmem

end

/-! ## Merging -/

namespace SamePlan

variable {plan plan' : CompiledTestPlan}

theorem testCases (h : SamePlan plan plan') : plan.testCases = plan'.testCases := by rw [h.rest]

theorem skippedTestCases (h : SamePlan plan plan') :
    plan.skippedTestCases = plan'.skippedTestCases := by rw [h.rest]

theorem certifying (h : SamePlan plan plan') : plan.certifying = plan'.certifying := by
  rw [h.rest]

theorem decisions (h : SamePlan plan plan') :
    plan.traceability.applicabilityDecisions = plan'.traceability.applicabilityDecisions := by
  rw [h.rest]

theorem generatedTestCaseIds (h : SamePlan plan plan') :
    plan.traceability.generatedTestCaseIds = plan'.traceability.generatedTestCaseIds := by
  rw [h.rest]

theorem snapshot (h : SamePlan plan plan') :
    plan.traceability.runtimeInputSnapshot = plan'.traceability.runtimeInputSnapshot := by
  rw [h.rest]

theorem reasons (h : SamePlan plan plan') :
    plan.traceability.nonCertifyingReasons = plan'.traceability.nonCertifyingReasons := by
  rw [h.rest]

theorem provenance (h : SamePlan plan plan') :
    plan.traceability.provenance = plan'.traceability.provenance := by rw [h.rest]

theorem version (h : SamePlan plan plan') :
    plan.traceability.catalogueKey.api ++ ":" ++ plan.catalogueVersion =
      plan'.traceability.catalogueKey.api ++ ":" ++ plan'.catalogueVersion := by rw [h.rest]

end SamePlan

/-- Merging the same compiled areas gives the same plan. -/
private theorem merge_congr {document document' : PlanDocumentV2}
    {plans plans' : List CompiledTestPlan} {endpoints : List ImplementedEndpoint}
    (endpoints' : List ImplementedEndpoint) {plan : CompiledTestPlan}
    (hdoc : Reordered document document')
    (hplans : List.Forall₂ SamePlan plans plans')
    (h : mergeCompiledPlanDocumentsV2 document plans endpoints = .ok plan) :
    ∃ plan', mergeCompiledPlanDocumentsV2 document' plans' endpoints' = .ok plan' ∧
      SamePlan plan plan' := by
  -- Every merged field is read off the area plans, and they agree in it.
  have hflat : ∀ {β : Type} (f : CompiledTestPlan → List β),
      (∀ p p', SamePlan p p' → f p = f p') → plans.flatMap f = plans'.flatMap f := by
    intro β f hf
    rw [List.flatMap_def, List.flatMap_def, hplans.map_eq hf]
  have hcases := hflat (·.testCases) fun _ _ => SamePlan.testCases
  have hskipped := hflat (·.skippedTestCases) fun _ _ => SamePlan.skippedTestCases
  have hdecisions := hflat (·.traceability.applicabilityDecisions) fun _ _ => SamePlan.decisions
  have hsnapshot := hflat (·.traceability.runtimeInputSnapshot) fun _ _ => SamePlan.snapshot
  have hreasons := hflat (·.traceability.nonCertifyingReasons) fun _ _ => SamePlan.reasons
  have hprovenance : plans.filterMap (·.traceability.provenance) =
      plans'.filterMap (·.traceability.provenance) := by
    have hmap := congrArg (List.filterMap id) (hplans.map_eq fun _ _ => SamePlan.provenance)
    simpa only [List.filterMap_map, Function.id_comp] using hmap
  have hversion : aggregateCatalogueVersion plans = aggregateCatalogueVersion plans' := by
    simp only [aggregateCatalogueVersion, hplans.map_eq fun _ _ => SamePlan.version]
  have hcertifying : plans.all (·.certifying) = plans'.all (·.certifying) := by
    have hmap := congrArg (List.all · id) (hplans.map_eq fun _ _ => SamePlan.certifying)
    simpa only [List.all_map, Function.id_comp] using hmap
  have hscheme : document'.scheme = document.scheme := by rw [hdoc.rest]
  have hspecification : document'.specification = document.specification := by rw [hdoc.rest]
  have hdocVersion : document'.version = document.version := by rw [hdoc.rest]
  have hprofile : document'.securityProfile = document.securityProfile := by rw [hdoc.rest]
  simp only [mergeCompiledPlanDocumentsV2, mergeCompiledTestCases, mergeRuntimeInputSnapshots,
    aggregateCatalogueProvenance, bind_eq_ok, hscheme, hspecification, hdocVersion, hprofile,
    hcases, hskipped, hdecisions, hsnapshot, hreasons, hprovenance, hversion, hcertifying] at h ⊢
  obtain ⟨testCases, htestCases, snapshot, hsnap, provenance, hprov, hplan⟩ := h
  refine ⟨_, ⟨testCases, htestCases, snapshot, hsnap, provenance, hprov, rfl⟩, ?_, ?_⟩
  · rw [← Except.ok.inj hplan]
  · intro ref
    rw [← Except.ok.inj hplan]
    simp only [selectionsAt, List.filter_flatMap]
    exact hflat (fun p => selectionsAt p ref) fun _ _ hsame => hsame.selections ref

/-! ## Documents, in two orders -/

/-- Documents are reordered either way. -/
theorem Reordered.symm {document document' : PlanDocumentV2} (h : Reordered document document') :
    Reordered document' document where
  rest := by
    rw [h.rest]
  groups := by
    refine List.Forall₂.imp ?_ h.groups.flip
    rintro group' group ⟨hrest, hperm⟩
    exact ⟨by rw [hrest], hperm.symm⟩
  direct := h.direct.symm

/-- Lists that are permuted one by one are permuted as a whole. -/
private theorem flatten_perm {α : Type} {ls ls' : List (List α)}
    (h : List.Forall₂ List.Perm ls ls') : ls.flatten.Perm ls'.flatten := by
  induction h with
  | nil => exact .refl _
  | cons hab _ ih => exact hab.append ih

/-- Reordering a document reorders the declarations it flattens to. -/
private theorem implementedEndpoints_perm {document document' : PlanDocumentV2}
    (hdoc : Reordered document document') {candidates : List TestCatalogue}
    {endpoints : List ImplementedEndpoint}
    (h : implementedEndpointsFromPlanDocumentV2 document candidates = .ok endpoints) :
    ∃ endpoints', implementedEndpointsFromPlanDocumentV2 document' candidates = .ok endpoints' ∧
      endpoints.Perm endpoints' := by
  have hspecification : document'.specification = document.specification := by rw [hdoc.rest]
  unfold implementedEndpointsFromPlanDocumentV2 at h ⊢
  -- Declarations are permuted inside each resource group, or in the direct list.
  by_cases hdirect : document.endpoints = []
  · have hdirect' : document'.endpoints = [] := (hdirect ▸ hdoc.direct).symm.eq_nil
    rw [if_neg (not_not.mpr hdirect), bind_eq_ok] at h
    rw [if_neg (not_not.mpr hdirect')]
    obtain ⟨groups, hgroups, hflat⟩ := h
    obtain ⟨groups', hgroups', hperm⟩ := List.mapM_ok_of_forall₂ (S := List.Perm) hdoc.groups
      (g := endpointsOfResourceGroup candidates) (by
        rintro group group' ys ⟨hrest, hperm⟩ hys
        have hall : group'.selectAll = group.selectAll := by rw [hrest]
        have hid : group'.resourceGroupId = group.resourceGroupId := by rw [hrest]
        unfold endpointsOfResourceGroup at hys ⊢
        rw [hall]
        split at hys
        -- `all` takes the endpoints from the catalogue and reads no declaration.
        · rename_i hsel
          rw [if_pos hsel]
          refine ⟨ys, ?_, .refl _⟩
          simpa only [allEndpointsForResourceGroup, hid] using hys
        · rename_i hsel
          rw [if_neg hsel, hid]
          exact ⟨_, rfl, Except.ok.inj hys ▸ hperm.map _⟩) hgroups
    refine ⟨groups'.flatten, bind_eq_ok.mpr ⟨groups', hgroups', rfl⟩, ?_⟩
    rw [← Except.ok.inj hflat]
    exact flatten_perm hperm
  · have hdirect' : document'.endpoints ≠ [] :=
      fun hnil => hdirect (hnil ▸ hdoc.direct).eq_nil
    rw [if_pos hdirect] at h
    rw [if_pos hdirect', hspecification]
    exact ⟨_, rfl, Except.ok.inj h ▸ hdoc.direct.map _⟩

/-- What a document compilation that returned went through. -/
theorem compilePlanDocumentV2_eq_ok {validateHttpsUrl : String → String → Except PyError Unit}
    {document : PlanDocumentV2} {catalogues : List TestCatalogue} {plan : CompiledTestPlan} :
    compilePlanDocumentV2 validateHttpsUrl document catalogues = .ok plan ↔
      ∃ candidates endpoints parts plans,
        catalogueAreasForPlanDocumentBoundary document.scheme document.specification
          document.version catalogues = .ok candidates ∧
        implementedEndpointsFromPlanDocumentV2 document candidates = .ok endpoints ∧
        endpoints ≠ [] ∧
        partitionImplementedEndpointsByCatalogue endpoints candidates = .ok parts ∧
        (parts.mapM fun part => compileTestPlan validateHttpsUrl part.1
          (areaSpec document part.1 part.2)) = .ok plans ∧
        mergeCompiledPlanDocumentsV2 document plans endpoints = .ok plan := by
  unfold compilePlanDocumentV2
  simp only [bind_eq_ok, raiseIf_eq_ok]
  constructor
  · rintro ⟨candidates, hcandidates, endpoints, hendpoints, ⟨⟩, hne, parts, hparts, plans, hplans,
      hmerge⟩
    exact ⟨candidates, endpoints, parts, plans, hcandidates, hendpoints, hne, hparts, hplans,
      hmerge⟩
  · rintro ⟨candidates, endpoints, parts, plans, hcandidates, hendpoints, hne, hparts, hplans,
      hmerge⟩
    exact ⟨candidates, hcandidates, endpoints, hendpoints, (), hne, parts, hparts, plans, hplans,
      hmerge⟩

/-- `AliasOrderIrrelevant` for the declarations two documents flatten to. -/
def DocumentOrderIrrelevant (catalogues : List TestCatalogue)
    (document document' : PlanDocumentV2) : Prop :=
  ∀ candidates endpoints endpoints',
    catalogueAreasForPlanDocumentBoundary document.scheme document.specification
      document.version catalogues = .ok candidates →
    implementedEndpointsFromPlanDocumentV2 document candidates = .ok endpoints →
    implementedEndpointsFromPlanDocumentV2 document' candidates = .ok endpoints' →
    AliasOrderIrrelevant candidates endpoints endpoints'

section

variable {validateHttpsUrl : String → String → Except PyError Unit}
  {catalogues : List TestCatalogue} {document document' : PlanDocumentV2}

/-- A reordered document is of the same catalogue areas. -/
private theorem Reordered.areas (hdoc : Reordered document document') :
    catalogueAreasForPlanDocumentBoundary document'.scheme document'.specification
        document'.version catalogues =
      catalogueAreasForPlanDocumentBoundary document.scheme document.specification
        document.version catalogues := by
  rw [hdoc.rest]

/-- The order of a document is irrelevant either way. -/
theorem DocumentOrderIrrelevant.symm (h : DocumentOrderIrrelevant catalogues document document')
    (hdoc : Reordered document document') :
    DocumentOrderIrrelevant catalogues document' document := by
  intro candidates endpoints' endpoints hareas hendpoints' hendpoints
  rw [hdoc.areas] at hareas
  obtain ⟨endpoints'', hendpoints'', hperm⟩ := implementedEndpoints_perm hdoc hendpoints
  obtain rfl := Except.ok.inj (hendpoints'.symm.trans hendpoints'')
  exact (h candidates endpoints endpoints' hareas hendpoints hendpoints').symm hperm

/-- The compiler sees canonical declarations as they are. -/
private theorem areaSpec_endpoints {catalogue : TestCatalogue} {endpoints : List ImplementedEndpoint}
    (h : ∀ endpoint ∈ endpoints, canonicalImplementedEndpoint endpoint = endpoint) :
    (areaSpec document catalogue endpoints).endpoints = endpoints :=
  (List.map_congr_left h).trans (List.map_id' endpoints)

/-- An area compiles to the same plan from equivalent declarations. -/
private theorem AreaEquiv.compile (hdoc : Reordered document document')
    {part part' : TestCatalogue × List ImplementedEndpoint} (h : AreaEquiv part part')
    {plan : CompiledTestPlan}
    (hplan : compileTestPlan validateHttpsUrl part.1 (areaSpec document part.1 part.2) =
      .ok plan) :
    ∃ plan', compileTestPlan validateHttpsUrl part'.1 (areaSpec document' part'.1 part'.2) =
      .ok plan' ∧ SamePlan plan plan' := by
  rw [h.catalogue_eq]
  refine compileTestPlan_congr ?_ ?_ hplan
  · rw [areaSpec, areaSpec, hdoc.rest]
  · rw [areaSpec_endpoints h.canonical, areaSpec_endpoints h.canonical']
    exact h.scope

/-- A reordered document compiles to the same plan. -/
private theorem compile_reordered (hdoc : Reordered document document')
    (hirr : DocumentOrderIrrelevant catalogues document document') {plan : CompiledTestPlan}
    (h : compilePlanDocumentV2 validateHttpsUrl document catalogues = .ok plan) :
    ∃ plan', compilePlanDocumentV2 validateHttpsUrl document' catalogues = .ok plan' ∧
      SamePlan plan plan' := by
  obtain ⟨candidates, endpoints, parts, plans, hareas, hendpoints, hne, hparts, hplans, hmerge⟩ :=
    compilePlanDocumentV2_eq_ok.mp h
  obtain ⟨endpoints', hendpoints', hperm⟩ := implementedEndpoints_perm hdoc hendpoints
  obtain ⟨parts', hparts', hequiv⟩ := partition_equiv hperm
    (hirr candidates endpoints endpoints' hareas hendpoints hendpoints') hparts
  obtain ⟨plans', hplans', hsame⟩ := List.mapM_ok_of_forall₂ (S := SamePlan) hequiv
    (fun _ _ _ hequiv hplan => hequiv.compile hdoc hplan) hplans
  obtain ⟨plan', hplan', hsamePlan⟩ := merge_congr endpoints' hdoc hsame hmerge
  refine ⟨plan', compilePlanDocumentV2_eq_ok.mpr ⟨candidates, endpoints', parts', plans', ?_,
    hendpoints', ?_, hparts', hplans', hplan'⟩, hsamePlan⟩
  · rw [hdoc.areas]
    exact hareas
  · exact fun hnil => hne (hnil ▸ hperm).eq_nil

/-- Where the alias order is irrelevant, two orders of a document compile alike. -/
private theorem sameOutcome_of_irrelevant (hdoc : Reordered document document')
    (hirr : DocumentOrderIrrelevant catalogues document document') :
    SameOutcome (compilePlanDocumentV2 validateHttpsUrl document catalogues)
      (compilePlanDocumentV2 validateHttpsUrl document' catalogues) where
  returns := by
    constructor
    · rintro ⟨plan, hplan⟩
      obtain ⟨plan', hplan', -⟩ := compile_reordered hdoc hirr hplan
      exact ⟨plan', hplan'⟩
    · rintro ⟨plan', hplan'⟩
      obtain ⟨plan, hplan, -⟩ := compile_reordered hdoc.symm (hirr.symm hdoc) hplan'
      exact ⟨plan, hplan⟩
  agree plan plan' hplan hplan' := by
    obtain ⟨plan'', hplan'', hsame⟩ := compile_reordered hdoc hirr hplan
    obtain rfl := Except.ok.inj (hplan'.symm.trans hplan'')
    exact ⟨hsame.generatedTestCaseIds, hsame.decisions, fun ref => by rw [hsame.selections ref]⟩

/-- The parts of a partition are the first declarations of the areas. -/
private theorem mem_parts_iff {candidates : List TestCatalogue}
    {endpoints : List ImplementedEndpoint}
    {parts : List (TestCatalogue × List ImplementedEndpoint)}
    (h : partitionImplementedEndpointsByCatalogue endpoints candidates = .ok parts) :
    (∀ part ∈ parts, ∃ index, candidates[index]? = some part.1 ∧
      ∀ endpoint, endpoint ∈ part.2 ↔
        ∃ raw, (declared candidates endpoints index endpoint.ref).head? = some raw ∧
          endpoint = canonicalImplementedEndpoint raw) ∧
    ∀ index catalogue ref raw, candidates[index]? = some catalogue →
      (declared candidates endpoints index ref).head? = some raw →
      ∃ part ∈ parts, part.1 = catalogue ∧ canonicalImplementedEndpoint raw ∈ part.2 := by
  unfold partitionImplementedEndpointsByCatalogue at h
  rw [bind_eq_ok] at h
  obtain ⟨areas, hareas, hparts⟩ := h
  obtain ⟨hplaced, -, -⟩ := placeEndpoints_placed hareas
  rw [← Except.ok.inj hparts]
  constructor
  · rintro part hmem
    obtain ⟨⟨catalogue, index⟩, hzip, hpart⟩ := List.mem_filterMap.mp hmem
    obtain ⟨area, hget, rfl⟩ := Option.map_eq_some_iff.mp hpart
    refine ⟨index, List.mem_zipIdx_iff_getElem?.mp hzip, fun endpoint => ?_⟩
    rw [← hplaced.mem, areaAt, hget, Option.getD_some]
  · intro index catalogue ref raw hcat hhead
    have hraw := List.mem_of_mem_head? hhead
    simp only [declared, List.mem_filter, decide_eq_true_eq] at hraw
    obtain ⟨hraw, howner, rfl⟩ := hraw
    obtain ⟨area, hget⟩ := Option.isSome_iff_exists.mp ((hplaced.isSome index).mpr
      ⟨raw, hraw, howner⟩)
    refine ⟨(catalogue, area.endpoints), List.mem_filterMap.mpr ⟨(catalogue, index),
      List.mem_zipIdx_iff_getElem?.mpr hcat, by simp [hget]⟩, rfl, ?_⟩
    have hmem := (hplaced.mem index _).mpr ⟨raw, hhead, rfl⟩
    rwa [areaAt, hget, Option.getD_some] at hmem

/-- The area plan that stands behind a part of the document. -/
private theorem exists_plan_of_part {parts : List (TestCatalogue × List ImplementedEndpoint)}
    {plans : List CompiledTestPlan}
    (hplans : (parts.mapM fun part => compileTestPlan validateHttpsUrl part.1
      (areaSpec document part.1 part.2)) = .ok plans)
    {part : TestCatalogue × List ImplementedEndpoint} (hmem : part ∈ parts) :
    ∃ plan ∈ plans, compileTestPlan validateHttpsUrl part.1 (areaSpec document part.1 part.2) =
      .ok plan :=
  (List.mapM_eq_ok.mp hplans).exists_of_mem_left hmem

/-- The capabilities a compiled document lists for an operation are those of its first
    declarations in the areas. -/
private theorem mem_document_selectionsAt {candidates : List TestCatalogue}
    {endpoints : List ImplementedEndpoint} {plan : CompiledTestPlan}
    (h : compilePlanDocumentV2 validateHttpsUrl document catalogues = .ok plan)
    (hareas : catalogueAreasForPlanDocumentBoundary document.scheme document.specification
      document.version catalogues = .ok candidates)
    (hendpoints : implementedEndpointsFromPlanDocumentV2 document candidates = .ok endpoints)
    {ref : EndpointRef} {id : String} :
    id ∈ (selectionsAt plan ref).map (·.capabilityId) ↔
      ∃ index catalogue raw, candidates[index]? = some catalogue ∧
        (declared candidates endpoints index ref).head? = some raw ∧
        ∃ capability ∈ catalogue.capabilities, capability.capabilityId = id ∧
          ref ∈ capability.endpointRefs ∧
          (capability.required = true ∨
            id ∈ (canonicalImplementedEndpoint raw).capabilityIds) := by
  obtain ⟨candidates', endpoints', parts, plans, hareas', hendpoints', -, hparts, hplans, hmerge⟩ :=
    compilePlanDocumentV2_eq_ok.mp h
  obtain rfl := Except.ok.inj (hareas.symm.trans hareas')
  obtain rfl := Except.ok.inj (hendpoints.symm.trans hendpoints')
  obtain ⟨hfrom, hinto⟩ := mem_parts_iff hparts
  have hcanonical : ∀ part ∈ parts, (areaSpec document part.1 part.2).endpoints = part.2 := by
    intro part hpart
    refine areaSpec_endpoints fun endpoint hmem => ?_
    obtain ⟨index, -, hiff⟩ := hfrom part hpart
    obtain ⟨raw, -, rfl⟩ := (hiff endpoint).mp hmem
    exact canonical_canonical raw
  -- The merged trace lists what the area plans list.
  have hmerged : selectionsAt plan ref = plans.flatMap fun plan => selectionsAt plan ref := by
    simp only [mergeCompiledPlanDocumentsV2, bind_eq_ok] at hmerge
    obtain ⟨_, -, _, -, _, -, hplan⟩ := hmerge
    rw [← Except.ok.inj hplan]
    simp only [selectionsAt, List.filter_flatMap]
  rw [hmerged, List.map_flatMap, List.mem_flatMap]
  constructor
  · rintro ⟨areaPlan, hareaPlan, hid⟩
    obtain ⟨part, hpart, hcompile⟩ := (List.mapM_eq_ok.mp hplans).exists_of_mem_right hareaPlan
    rw [mem_selectionsAt_iff hcompile, hcanonical part hpart] at hid
    obtain ⟨endpoint, hmem, rfl, hcap⟩ := hid
    obtain ⟨index, hcat, hiff⟩ := hfrom part hpart
    obtain ⟨raw, hhead, rfl⟩ := (hiff endpoint).mp hmem
    exact ⟨index, part.1, raw, hcat, hhead, hcap⟩
  · rintro ⟨index, catalogue, raw, hcat, hhead, hcap⟩
    obtain ⟨part, hpart, rfl, hmem⟩ := hinto index catalogue ref raw hcat hhead
    obtain ⟨areaPlan, hareaPlan, hcompile⟩ := exists_plan_of_part hplans hpart
    refine ⟨areaPlan, hareaPlan, (mem_selectionsAt_iff hcompile).mpr ?_⟩
    rw [hcanonical part hpart]
    refine ⟨_, hmem, ?_, hcap⟩
    have hraw := List.mem_of_mem_head? hhead
    simp only [declared, List.mem_filter, decide_eq_true_eq] at hraw
    exact hraw.2.2

/-- At most one area of the boundary has the products operation. -/
def ProductsOwnedOnce (catalogues : List TestCatalogue) (document : PlanDocumentV2) : Prop :=
  ∀ candidates, catalogueAreasForPlanDocumentBoundary document.scheme document.specification
      document.version catalogues = .ok candidates →
    ∀ index index', productsRef ∈ endpointRefsAt candidates index →
      productsRef ∈ endpointRefsAt candidates index' → index = index'

/-- Putting a canonical declaration that is not interchangeable with the alias before
    it changes the outcome. -/
private theorem not_sameOutcome_of_first {candidates : List TestCatalogue}
    {endpoints endpoints' : List ImplementedEndpoint}
    (hareas : catalogueAreasForPlanDocumentBoundary document.scheme document.specification
      document.version catalogues = .ok candidates)
    (hareas' : catalogueAreasForPlanDocumentBoundary document'.scheme document'.specification
      document'.version catalogues = .ok candidates)
    (hendpoints : implementedEndpointsFromPlanDocumentV2 document candidates = .ok endpoints)
    (hendpoints' : implementedEndpointsFromPlanDocumentV2 document' candidates = .ok endpoints')
    {index : Nat} {catalogue : TestCatalogue} (hcat : candidates[index]? = some catalogue)
    {legacy canonical : ImplementedEndpoint} (halias : legacy.IsAlias)
    (hcanonical : ¬ canonical.IsAlias)
    (hfirst : firstProducts candidates endpoints index = some canonical)
    (hfirst' : firstProducts candidates endpoints' index = some legacy)
    (hnot : ¬ Interchangeable candidates endpoints index catalogue canonical)
    (honce : ProductsOwnedOnce catalogues document) {plan plan' : CompiledTestPlan}
    (h : compilePlanDocumentV2 validateHttpsUrl document catalogues = .ok plan)
    (h' : compilePlanDocumentV2 validateHttpsUrl document' catalogues = .ok plan') :
    ∃ id ∈ (selectionsAt plan productsRef).map (·.capabilityId),
      id ∉ (selectionsAt plan' productsRef).map (·.capabilityId) := by
  obtain ⟨candidates', endpoints'', parts, plans, hareas'', hendpoints'', -, hparts, hplans, -⟩ :=
    compilePlanDocumentV2_eq_ok.mp h
  obtain rfl := Except.ok.inj (hareas.symm.trans hareas'')
  obtain rfl := Except.ok.inj (hendpoints.symm.trans hendpoints'')
  -- The partition returned, so the canonical declaration is the only one.
  have hsingle : (declared candidates endpoints index productsRef).filter
      (fun raw => ¬ raw.IsAlias) = [canonical] := by
    have hpartition := hparts
    unfold partitionImplementedEndpointsByCatalogue at hpartition
    obtain ⟨areas, hplace, -⟩ := bind_eq_ok.mp hpartition
    have hok := (placeEndpoints_placed hplace).2.2 index productsRef
    obtain ⟨rest, hd⟩ := List.head?_eq_some_iff.mp hfirst
    rw [hd] at hok ⊢
    exact (acceptable_iff_canonicals hcanonical).mp hok
  -- So one of its capabilities is not a required one.
  obtain ⟨id, hid, hrequired⟩ : ∃ id ∈ canonical.capabilityIds,
      ¬ RequiredOnProducts catalogue id := by
    by_contra hall
    push Not at hall
    exact hnot ⟨hsingle, hall⟩
  have hcaps : (canonicalImplementedEndpoint canonical).capabilityIds = canonical.capabilityIds := by
    rw [canonical_of_not_isAlias hcanonical]
  -- The area compiled, so that capability exists there.
  obtain ⟨part, hpart, rfl, hmem⟩ := (mem_parts_iff hparts).2 index catalogue productsRef canonical
    hcat hfirst
  obtain ⟨areaPlan, -, hcompile⟩ := exists_plan_of_part hplans hpart
  obtain ⟨run, hrun, -⟩ := compileTestPlan_eq_ok.mp hcompile
  have href : (canonicalImplementedEndpoint canonical).ref = productsRef := by
    have hraw := List.mem_of_mem_head? hfirst
    simp only [declared, List.mem_filter, decide_eq_true_eq] at hraw
    exact hraw.2.2
  have hdecl : Declarable part.1 productsRef id := by
    rw [← href]
    refine declarable_of_compile hcompile ?_ (hcaps ▸ hid)
    exact List.mem_map.mpr ⟨_, hmem, canonical_canonical canonical⟩
  obtain ⟨capability, hcap, hcapId, hcapRef⟩ := hdecl
  refine ⟨id, (mem_document_selectionsAt h hareas hendpoints).mpr ⟨index, part.1, canonical, hcat,
    hfirst, capability, hcap, hcapId, hcapRef, .inr (hcaps ▸ hid)⟩, fun hid' => hrequired ?_⟩
  obtain ⟨index', catalogue', raw', hcat', hhead', capability', hcap', hcapId', hcapRef', hwhy⟩ :=
    (mem_document_selectionsAt h' hareas' hendpoints').mp hid'
  -- The products operation lives in one area, whose first declaration is the alias.
  obtain rfl : index' = index := by
    refine honce candidates hareas index' index ?_ ?_
    · exact (exists_catalogue_of_declared (fun hnil => by rw [hnil] at hhead'; cases hhead')).1
    · have hne : declared candidates endpoints index productsRef ≠ [] := by
        intro hnil
        rw [firstProducts, hnil] at hfirst
        cases hfirst
      exact (exists_catalogue_of_declared hne).1
  obtain rfl := Option.some.inj (hcat'.symm.trans hcat)
  obtain rfl := Option.some.inj (hhead'.symm.trans hfirst')
  have hreq' : capability'.required = true := by
    rcases hwhy with hreq | hin
    · exact hreq
    · rw [(canonical_of_isAlias halias).2] at hin
      exact absurd hin List.not_mem_nil
  refine ⟨⟨capability', hcap', hcapId', hcapRef'⟩, fun other hother hotherId _ => ?_⟩
  obtain rfl := capability_unique hrun.indexes hcap' hother (hcapId'.trans hotherId.symm)
  exact hreq'

end

/-- Two orders of one document compile alike when the alias order is irrelevant. When
    one of them compiles, and the products operation belongs to one area, that is also
    necessary. -/
theorem compilePlanDocumentV2_order (validateHttpsUrl : String → String → Except PyError Unit)
    (catalogues : List TestCatalogue) (document document' : PlanDocumentV2)
    (hdoc : Reordered document document') :
    (DocumentOrderIrrelevant catalogues document document' →
      SameOutcome (compilePlanDocumentV2 validateHttpsUrl document catalogues)
        (compilePlanDocumentV2 validateHttpsUrl document' catalogues)) ∧
    (ProductsOwnedOnce catalogues document →
      ((∃ plan, compilePlanDocumentV2 validateHttpsUrl document catalogues = .ok plan) ∨
        ∃ plan, compilePlanDocumentV2 validateHttpsUrl document' catalogues = .ok plan) →
      SameOutcome (compilePlanDocumentV2 validateHttpsUrl document catalogues)
        (compilePlanDocumentV2 validateHttpsUrl document' catalogues) →
      DocumentOrderIrrelevant catalogues document document') := by
  refine ⟨sameOutcome_of_irrelevant hdoc, fun honce hcompiles hsame => ?_⟩
  obtain ⟨⟨plan, hplan⟩, plan', hplan'⟩ :
      (∃ plan, compilePlanDocumentV2 validateHttpsUrl document catalogues = .ok plan) ∧
        ∃ plan', compilePlanDocumentV2 validateHttpsUrl document' catalogues = .ok plan' := by
    rcases hcompiles with hplan | hplan'
    · exact ⟨hplan, hsame.returns.mp hplan⟩
    · exact ⟨hsame.returns.mpr hplan', hplan'⟩
  -- the first declaration decides which capability of the products endpoint is selected
  have hcapabilities := (hsame.agree plan plan' hplan hplan').2.2 productsRef
  intro candidates endpoints endpoints' hareas hendpoints hendpoints'
  obtain ⟨endpoints'', hendpoints'', hperm⟩ := implementedEndpoints_perm hdoc hendpoints
  obtain rfl := Except.ok.inj (hendpoints'.symm.trans hendpoints'')
  have hareas' := hdoc.areas.trans hareas
  have honce' : ProductsOwnedOnce catalogues document' := by
    intro candidates' hareas''
    exact honce candidates' (hdoc.areas.symm.trans hareas'')
  intro index catalogue hcat legacy canonical halias hcanonical hfirst
  by_contra hnot
  rcases hfirst with ⟨hfirst, hfirst'⟩ | ⟨hfirst, hfirst'⟩
  · -- The canonical declaration comes first in the other order.
    have hnot' : ¬ Interchangeable candidates endpoints' index catalogue canonical :=
      fun h => hnot ⟨canonicals_eq_of_perm (declared_perm hperm.symm index productsRef) h.single,
        h.required⟩
    obtain ⟨id, hid', hid⟩ := not_sameOutcome_of_first hareas' hareas hendpoints' hendpoints hcat
      halias hcanonical hfirst' hfirst hnot' honce' hplan' hplan
    exact hid (hcapabilities ▸ hid')
  -- Or it comes first in this one.
  · obtain ⟨id, hid, hid'⟩ := not_sameOutcome_of_first hareas hareas' hendpoints hendpoints' hcat
      halias hcanonical hfirst hfirst' hnot honce hplan hplan'
    exact hid' (hcapabilities ▸ hid)

/-- A catalogue whose products case needs an optional capability. -/
def productsCatalogue : TestCatalogue where
  key := ⟨"open-banking", "v4.0", "ais"⟩
  catalogueVersion := "1.0"
  testCases := [
    { testCaseId := "product-details"
      mandatory := true
      applicability := {
        securityProfiles := ⟨[.all]⟩
        endpointRefs := [productsRef]
        requiredCapabilityIds := ["product-details"] } }]
  capabilities := [
    { capabilityId := "product-details"
      label := "Product details"
      description := "Products carry their details"
      required := false
      endpointRefs := [productsRef] }]

/-- The products endpoint under its legacy path. -/
def legacyProducts : PlanDocumentEndpoint where
  method := .get
  path := "/open-banking/v4.0/aisp/product"

/-- The products endpoint under its canonical path. -/
def canonicalProducts (capabilityIds : List String) : PlanDocumentEndpoint where
  method := .get
  path := "/open-banking/v4.0/aisp/products"
  capabilityIds := capabilityIds

/-- A read-write plan document that selects `endpoints` in one resource group. -/
def productsDocument (endpoints : List PlanDocumentEndpoint) : PlanDocumentV2 where
  scheme := "open-banking-uk"
  specification := "read-write"
  version := "4.0.1"
  securityProfile := .fapi1Advanced
  resourceGroups := [{ resourceGroupId := "account-and-transaction", endpoints := endpoints }]
  runtimeInputs := .empty

/-- Two endpoints, the other way round. -/
private theorem productsDocument_reordered (endpoint endpoint' : PlanDocumentEndpoint) :
    Reordered (productsDocument [endpoint, endpoint']) (productsDocument [endpoint', endpoint]) where
  rest := rfl
  groups := .cons ⟨rfl, .swap _ _ _⟩ .nil
  direct := .refl _

/-- Without capability ids the two orders compile alike. -/
theorem compilePlanDocumentV2_order_products :
    SameOutcome
      (compilePlanDocumentV2 (fun _ _ => .ok ())
        (productsDocument [legacyProducts, canonicalProducts []]) [productsCatalogue])
      (compilePlanDocumentV2 (fun _ _ => .ok ())
        (productsDocument [canonicalProducts [], legacyProducts]) [productsCatalogue]) := by
  refine (compilePlanDocumentV2_order (fun _ _ => .ok ()) [productsCatalogue] _ _
    (productsDocument_reordered legacyProducts (canonicalProducts []))).1 ?_
  intro candidates endpoints endpoints' hareas hendpoints hendpoints'
  obtain rfl : [productsCatalogue] = candidates := Except.ok.inj hareas
  obtain rfl := Except.ok.inj hendpoints
  obtain rfl := Except.ok.inj hendpoints'
  intro index catalogue hcat legacy canonical halias hcanonical hfirst
  obtain rfl : index = 0 := by
    have hlt := (List.getElem?_eq_some_iff.mp hcat).1
    simpa using hlt
  rcases hfirst with ⟨-, hfirst'⟩ | ⟨hfirst, -⟩
  · obtain rfl : (canonicalProducts []).implemented "account-and-transaction" = canonical :=
      Option.some.inj hfirst'
    exact ⟨by decide +kernel, by simp [canonicalProducts, PlanDocumentEndpoint.implemented]⟩
  · obtain rfl : legacyProducts.implemented "account-and-transaction" = canonical :=
      Option.some.inj hfirst
    exact absurd (by decide +kernel) hcanonical

/-- Declaring the alias first drops the capability of the canonical declaration. -/
theorem compilePlanDocumentV2_order_fails :
    ¬ ∀ (validateHttpsUrl : String → String → Except PyError Unit)
      (catalogues : List TestCatalogue) (document document' : PlanDocumentV2),
      Reordered document document' →
      SameOutcome (compilePlanDocumentV2 validateHttpsUrl document catalogues)
        (compilePlanDocumentV2 validateHttpsUrl document' catalogues) := by
  intro hall
  have hsame := hall (fun _ _ => .ok ()) [productsCatalogue] _ _
    (productsDocument_reordered legacyProducts (canonicalProducts ["product-details"]))
  have hids := (hsame.agree _ _ rfl rfl).1
  revert hids
  decide +kernel

end Conformance
