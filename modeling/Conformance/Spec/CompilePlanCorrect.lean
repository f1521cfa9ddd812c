import Conformance.Spec.SelectionCorrect

/-!
# The plan compiler computes the dependency closure

`compile_test_plan` returns the dependency closure of the directly applicable,
not deselected cases, in dependency order, with a decision log that agrees with
it; and it raises when that closure is malformed.

## Key results

- `compileTestPlan_eq_ok`: what a compilation that returns went through
- `compileTestPlan_closure`: the compiled ids are the ordered closure, and a
  malformed closure raises `CatalogueError`
- `compileTestPlan_traceability`: the decision log is truthful
- `compileTestPlan_specificationVersion_iff`: when every compiled case applies to
  the plan's specification version
-/

namespace Conformance

open Except

/-! ## The closure -/

/-- The case `u` names `v` as a dependency. -/
def TestCatalogue.DependsOn (catalogue : TestCatalogue) (u v : String) : Prop :=
  ∃ testCase ∈ catalogue.testCases, testCase.testCaseId = u ∧ v ∈ testCase.dependencies

/-- `v` is `u` or is reached from `u` through dependencies. -/
def TestCatalogue.Reaches (catalogue : TestCatalogue) : String → String → Prop :=
  Relation.ReflTransGen catalogue.DependsOn

/-- `caseId` is a directly applicable case that was not deselected. -/
def SelectedRoot (catalogue : TestCatalogue) (spec : TestPlanSpec) (caseId : String) : Prop :=
  caseId ∉ spec.deselectedTestCaseIds ∧
    ∃ testCase ∈ catalogue.testCases,
      testCase.testCaseId = caseId ∧ DirectlyApplicable catalogue spec testCase

/-- `caseId` is reached from a directly applicable case that was not deselected. -/
def InClosure (catalogue : TestCatalogue) (spec : TestPlanSpec) (caseId : String) : Prop :=
  ∃ root, SelectedRoot catalogue spec root ∧ catalogue.Reaches root caseId

/-- A case id that no plan may reach: it names no case, lies on a dependency
    cycle, or names a case of another security profile. -/
def Malformed (catalogue : TestCatalogue) (spec : TestPlanSpec) (caseId : String) : Prop :=
  caseId ∉ catalogue.testCases.map (·.testCaseId) ∨
  Relation.TransGen catalogue.DependsOn caseId caseId ∨
  ∃ testCase ∈ catalogue.testCases, testCase.testCaseId = caseId ∧
    testCase.applicability.securityProfiles.appliesTo spec.securityProfile = false

/-! ## A compilation that returns -/

/-- The intermediate results of a compilation. -/
structure CompilerRun where
  casesById : Dict String CatalogueTestCase
  indexes : CapabilityIndexes
  selected : SelectedCapabilities
  search : DepthFirst.State String
  runtimeSnapshot : List RuntimeInputTrace
  nonCertifyingReasons : List String

namespace CompilerRun

/-- The direct selection of a compilation. -/
def direct (run : CompilerRun) (catalogue : TestCatalogue) (spec : TestPlanSpec) : DirectCases :=
  directlyApplicableCaseIds catalogue spec (implementedEndpointRefs spec.endpoints)
    run.selected.byRef

/-- The cases a compilation emits. -/
def selectedCases (run : CompilerRun) : List CatalogueTestCase :=
  run.search.ordered.filterMap run.casesById.get?

/-- The plan a compilation assembles from its intermediate results. -/
def plan (run : CompilerRun) (catalogue : TestCatalogue) (spec : TestPlanSpec) :
    CompiledTestPlan where
  catalogueKey := catalogue.key
  catalogueVersion := catalogue.catalogueVersion
  securityProfile := spec.securityProfile
  testCases := run.selectedCases
  traceability := {
    catalogueKey := catalogue.key
    catalogueVersion := catalogue.catalogueVersion
    securityProfile := spec.securityProfile
    selectedEndpoints := spec.endpoints
    selectedCapabilities := run.selected.selections
    applicabilityDecisions :=
      traceabilityDecisions (run.direct catalogue spec).decisions run.search.ordered
        run.search.edges spec.deselectedTestCaseIds
    generatedTestCaseIds := run.search.ordered
    runtimeInputSnapshot := run.runtimeSnapshot
    nonCertifyingReasons := run.nonCertifyingReasons
    provenance := catalogue.provenance }
  certifying := run.nonCertifyingReasons = []
  skippedTestCases :=
    catalogue.testCases.filter
      (keptAsSkipped (run.direct catalogue spec).decisions run.search.ordered)

/-- `run` holds the intermediate results of compiling `spec`, none of which raised. -/
structure Of (run : CompilerRun) (validateHttpsUrl : String → String → Except PyError Unit)
    (catalogue : TestCatalogue) (spec : TestPlanSpec) : Prop where
  key : catalogue.key = spec.catalogueKey
  cases : catalogueCasesById catalogue = .ok run.casesById
  indexes : catalogueCapabilityIndexes catalogue = .ok run.indexes
  selected : selectedCapabilitiesByEndpoint run.indexes catalogue.capabilities spec.endpoints =
    .ok run.selected
  references : validateTestCaseCapabilityReferences catalogue run.indexes.byId = .ok ()
  deselection : rejectInvalidDeselection spec.deselectedTestCaseIds run.casesById
    (run.direct catalogue spec).selectedIds = .ok ()
  search : orderedCaseIds run.casesById
    ((run.direct catalogue spec).selectedIds.filter fun caseId =>
      caseId ∉ spec.deselectedTestCaseIds) spec.securityProfile = .ok run.search
  kept : ∀ caseId ∈ run.search.ordered, caseId ∉ spec.deselectedTestCaseIds
  snapshot : runtimeInputSnapshot validateHttpsUrl run.selectedCases spec.runtimeInputs =
    .ok run.runtimeSnapshot
  overrides : validateAssertionOverrides run.casesById run.search.ordered
    spec.assertionOverrides = .ok run.nonCertifyingReasons

end CompilerRun

/-- A compilation returns exactly when each of its passes does, and then with the
    plan assembled from their results. -/
theorem compileTestPlan_eq_ok {validateHttpsUrl : String → String → Except PyError Unit}
    {catalogue : TestCatalogue} {spec : TestPlanSpec} {plan : CompiledTestPlan} :
    compileTestPlan validateHttpsUrl catalogue spec = .ok plan ↔
      ∃ run : CompilerRun, run.Of validateHttpsUrl catalogue spec ∧
        plan = run.plan catalogue spec := by
  have hfilter : ∀ ordered : List String,
      (ordered.filter fun caseId => caseId ∈ spec.deselectedTestCaseIds) = [] ↔
        ∀ caseId ∈ ordered, caseId ∉ spec.deselectedTestCaseIds := by
    intro ordered
    simp only [List.filter_eq_nil_iff, decide_eq_true_eq]
  unfold compileTestPlan
  simp only [bind_eq_ok, raiseIf_eq_ok, not_not, hfilter]
  constructor
  · rintro ⟨⟨⟩, hkey, casesById, hcases, indexes, hindexes, selected, hselected, ⟨⟩, hrefs, ⟨⟩,
      hdesel, search, hsearch, ⟨⟩, hkept, snapshot, hsnapshot, reasons, hreasons, hplan⟩
    exact ⟨⟨casesById, indexes, selected, search, snapshot, reasons⟩,
      ⟨hkey, hcases, hindexes, hselected, hrefs, hdesel, hsearch, hkept, hsnapshot, hreasons⟩,
      (Except.ok.inj hplan).symm⟩
  · rintro ⟨run, hrun, rfl⟩
    exact ⟨(), hrun.key, _, hrun.cases, _, hrun.indexes, _, hrun.selected, (), hrun.references,
      (), hrun.deselection, _, hrun.search, (), hrun.kept, _, hrun.snapshot, _, hrun.overrides,
      rfl⟩

/-! ## The search -/

/-- The compiler's dependency graph is the catalogue's dependency relation. -/
theorem caseGraph_dep {catalogue : TestCatalogue} {casesById : Dict String CatalogueTestCase}
    (hcases : catalogueCasesById catalogue = .ok casesById) (profile : SecurityProfile) :
    (caseGraph casesById profile).Dep = catalogue.DependsOn := by
  funext u v
  apply propext
  simp only [DepthFirst.Graph.Dep, caseGraph, TestCatalogue.DependsOn, Option.map_eq_some_iff]
  constructor
  · rintro ⟨_, ⟨testCase, hget, rfl⟩, hv⟩
    obtain ⟨hmem, hid⟩ := (casesById_get? hcases).mp hget
    exact ⟨testCase, hmem, hid, hv⟩
  · rintro ⟨testCase, hmem, hid, hv⟩
    exact ⟨_, ⟨testCase, (casesById_get? hcases).mpr ⟨hmem, hid⟩, rfl⟩, hv⟩

/-- The cases without dependencies in the graph are those that the catalogue lacks. -/
theorem caseGraph_deps_eq_none {catalogue : TestCatalogue}
    {casesById : Dict String CatalogueTestCase}
    (hcases : catalogueCasesById catalogue = .ok casesById) {profile : SecurityProfile}
    {caseId : String} :
    (caseGraph casesById profile).deps caseId = none ↔
      caseId ∉ catalogue.testCases.map (·.testCaseId) := by
  rw [← casesById_keys hcases, ← Dict.get?_eq_none_iff]
  simp [caseGraph]

/-- The cases that the graph does not admit are those of other profiles. -/
theorem caseGraph_admits_eq_false {catalogue : TestCatalogue}
    {casesById : Dict String CatalogueTestCase}
    (hcases : catalogueCasesById catalogue = .ok casesById) {profile : SecurityProfile}
    {caseId : String} :
    (caseGraph casesById profile).admits caseId = false ↔
      ∃ testCase ∈ catalogue.testCases, testCase.testCaseId = caseId ∧
        testCase.applicability.securityProfiles.appliesTo profile = false := by
  simp only [caseGraph]
  cases hget : casesById.get? caseId with
  | none =>
    -- an unknown id is reported as such, not as a profile mismatch
    rw [Dict.get?_eq_none_iff, casesById_keys hcases] at hget
    simp only [Option.map_none, Option.getD_none, Bool.true_eq_false, false_iff]
    rintro ⟨testCase, hmem, rfl, -⟩
    exact hget (List.mem_map_of_mem hmem)
  | some testCase =>
    have hmem := (casesById_get? hcases).mp hget
    simp only [Option.map_some, Option.getD_some]
    constructor
    · exact fun h => ⟨testCase, hmem.1, hmem.2, h⟩
    · rintro ⟨testCase', hmem', hid, h⟩
      have hget' := (casesById_get? hcases).mpr ⟨hmem', hid⟩
      rw [hget, Option.some.injEq] at hget'
      exact hget' ▸ h

section Search

variable {catalogue : TestCatalogue} {spec : TestPlanSpec}
  {casesById : Dict String CatalogueTestCase} {indexes : CapabilityIndexes}
  {selected : SelectedCapabilities}

/-- The ids the search starts from. -/
private abbrev rootIds (catalogue : TestCatalogue) (spec : TestPlanSpec)
    (casesById : Dict String CatalogueTestCase) (selected : SelectedCapabilities) : List String :=
  casesById.keys.filter fun caseId =>
    caseId ∈ (directlyApplicableCaseIds catalogue spec (implementedEndpointRefs spec.endpoints)
      selected.byRef).selectedIds.filter fun caseId => caseId ∉ spec.deselectedTestCaseIds

/-- The search starts from the directly applicable cases that were not deselected. -/
private theorem mem_rootIds (hcases : catalogueCasesById catalogue = .ok casesById)
    (hindexes : catalogueCapabilityIndexes catalogue = .ok indexes)
    (hselected : selectedCapabilitiesByEndpoint indexes catalogue.capabilities spec.endpoints =
      .ok selected) {caseId : String} :
    caseId ∈ rootIds catalogue spec casesById selected ↔ SelectedRoot catalogue spec caseId := by
  simp only [rootIds, List.mem_filter, decide_eq_true_eq, mem_directCases_selectedIds,
    directDecision_selected_iff hindexes hselected, casesById_keys hcases, SelectedRoot]
  constructor
  · exact fun ⟨_, happ, hdesel⟩ => ⟨hdesel, happ⟩
  · rintro ⟨hdesel, testCase, hmem, rfl, happ⟩
    exact ⟨List.mem_map_of_mem hmem, ⟨testCase, hmem, rfl, happ⟩, hdesel⟩

/-- The nodes the search reaches are the closure. -/
private theorem reachedFrom_rootIds (hcases : catalogueCasesById catalogue = .ok casesById)
    (hindexes : catalogueCapabilityIndexes catalogue = .ok indexes)
    (hselected : selectedCapabilitiesByEndpoint indexes catalogue.capabilities spec.endpoints =
      .ok selected) {caseId : String} :
    (caseGraph casesById spec.securityProfile).ReachedFrom
      (rootIds catalogue spec casesById selected) caseId ↔ InClosure catalogue spec caseId := by
  simp only [DepthFirst.Graph.ReachedFrom, DepthFirst.Graph.Reaches, caseGraph_dep hcases,
    mem_rootIds hcases hindexes hselected, InClosure, TestCatalogue.Reaches]

/-- What the search of a compilation that returned has computed. -/
private theorem search_ordered {run : CompilerRun}
    {validateHttpsUrl : String → String → Except PyError Unit}
    (hrun : run.Of validateHttpsUrl catalogue spec) :
    DepthFirst.Ordered (caseGraph run.casesById spec.securityProfile)
      (rootIds catalogue spec run.casesById run.selected) run.search :=
  DepthFirst.order_ok hrun.search

end Search

namespace CompilerRun.Of

variable {validateHttpsUrl : String → String → Except PyError Unit} {catalogue : TestCatalogue}
  {spec : TestPlanSpec} {run : CompilerRun}

/-- The emitted ids are the closure. -/
theorem mem_ordered_iff (hrun : run.Of validateHttpsUrl catalogue spec) {caseId : String} :
    caseId ∈ run.search.ordered ↔ InClosure catalogue spec caseId := by
  rw [(search_ordered hrun).mem_iff,
    reachedFrom_rootIds hrun.cases hrun.indexes hrun.selected]

theorem nodup (hrun : run.Of validateHttpsUrl catalogue spec) : run.search.ordered.Nodup :=
  (search_ordered hrun).nodup

/-- Dependencies are emitted before their dependents. -/
theorem topological (hrun : run.Of validateHttpsUrl catalogue spec) {l₁ l₂ : List String}
    {caseId dependency : String} (hsplit : run.search.ordered = l₁ ++ caseId :: l₂)
    (hdep : catalogue.DependsOn caseId dependency) : dependency ∈ l₁ := by
  rw [← caseGraph_dep hrun.cases spec.securityProfile] at hdep
  exact (search_ordered hrun).topological l₁ caseId l₂ hsplit dependency hdep

/-- The recorded edges are the dependencies of the emitted cases. -/
theorem mem_edges_iff (hrun : run.Of validateHttpsUrl catalogue spec) {v u : String} :
    (v, u) ∈ run.search.edges ↔ u ∈ run.search.ordered ∧ catalogue.DependsOn u v := by
  rw [(search_ordered hrun).edges_iff, caseGraph_dep hrun.cases]

/-- The compiled cases are the cases of the emitted ids. -/
theorem mem_selectedCases_iff (hrun : run.Of validateHttpsUrl catalogue spec)
    {testCase : CatalogueTestCase} :
    testCase ∈ run.selectedCases ↔
      testCase ∈ catalogue.testCases ∧ testCase.testCaseId ∈ run.search.ordered := by
  simp only [selectedCases, List.mem_filterMap, casesById_get? hrun.cases]
  constructor
  · rintro ⟨_, hid, hmem, rfl⟩
    exact ⟨hmem, hid⟩
  · rintro ⟨hmem, hid⟩
    exact ⟨_, hid, hmem, rfl⟩

/-- An emitted id belongs to a case of the catalogue. -/
theorem exists_testCase (hrun : run.Of validateHttpsUrl catalogue spec) {caseId : String}
    (hmem : caseId ∈ run.search.ordered) :
    ∃ testCase ∈ catalogue.testCases, testCase.testCaseId = caseId := by
  have hgood := ((search_ordered hrun).good caseId hmem).1
  rw [Ne, caseGraph_deps_eq_none hrun.cases, not_not] at hgood
  exact List.mem_map.mp hgood

/-- Two cases of the catalogue with one id are the same case. -/
theorem testCase_unique (hrun : run.Of validateHttpsUrl catalogue spec)
    {testCase testCase' : CatalogueTestCase} (hmem : testCase ∈ catalogue.testCases)
    (hmem' : testCase' ∈ catalogue.testCases) (hid : testCase.testCaseId = testCase'.testCaseId) :
    testCase = testCase' := by
  have hget := (casesById_get? hrun.cases).mpr ⟨hmem, rfl⟩
  have hget' := (casesById_get? hrun.cases).mpr ⟨hmem', rfl⟩
  rw [hid, hget', Option.some.injEq] at hget
  exact hget.symm

end CompilerRun.Of

/-! ## The exceptions of the passes before and including the search -/

/-- Indexing the cases raises catalogue errors only. -/
private theorem casesById_raises (catalogue : TestCatalogue) :
    RaisesOnly PyError.IsCatalogueError (catalogueCasesById catalogue) := by
  refine List.raisesOnly_foldlM (fun c testCase _ => ?_) _
  split
  · exact .error trivial
  · exact .ok _

/-- So does indexing the capabilities. -/
private theorem capabilityIndexes_raises (catalogue : TestCatalogue) :
    RaisesOnly PyError.IsCatalogueError (catalogueCapabilityIndexes catalogue) := by
  refine List.raisesOnly_foldlM (fun c capability _ => .bind ?_ fun _ _ => .ok _) _
  exact .bind (.raiseIf trivial) fun _ _ => .bind (.raiseIf trivial) fun _ _ =>
    .bind (.raiseIf trivial) fun _ _ => .bind (.raiseIf trivial) fun _ _ => .raiseIf trivial

/-- So does selecting them. -/
private theorem selectedCapabilities_raises (indexes : CapabilityIndexes)
    (capabilities : List EndpointCapability) (endpoints : List ImplementedEndpoint) :
    RaisesOnly PyError.IsCatalogueError
      (selectedCapabilitiesByEndpoint indexes capabilities endpoints) :=
  List.raisesOnly_foldlM (fun _ _ _ => .bind
    (List.raisesOnly_forM fun _ _ => .bind (.raiseIf trivial) fun _ _ => .raiseIf trivial)
    fun _ _ => .ok _) _

/-- So does checking the references of the cases. -/
private theorem capabilityReferences_raises (catalogue : TestCatalogue)
    (capabilitiesById : Dict String EndpointCapability) :
    RaisesOnly PyError.IsCatalogueError
      (validateTestCaseCapabilityReferences catalogue capabilitiesById) := by
  refine List.raisesOnly_forM fun testCase _ => ?_
  split
  · exact .ok _
  · refine .bind (.raiseIf trivial) fun _ _ => List.raisesOnly_forM fun capabilityId _ => ?_
    unfold checkCapabilityReference
    split
    · exact .error trivial
    · exact .raiseIf trivial

/-- So does checking the deselection. -/
private theorem deselection_raises (deselectedIds directIds : List String)
    (casesById : Dict String CatalogueTestCase) :
    RaisesOnly PyError.IsCatalogueError
      (rejectInvalidDeselection deselectedIds casesById directIds) := by
  refine List.raisesOnly_forM fun caseId _ => ?_
  unfold checkDeselection
  split
  · exact .error trivial
  · exact .bind (.raiseIf trivial) fun _ _ => .raiseIf trivial

/-- The search raises `CatalogueError` only: its recursion never gets deeper than
    the number of cases. -/
theorem orderedCaseIds_raises (casesById : Dict String CatalogueTestCase)
    (directIds : List String) (profile : SecurityProfile) :
    RaisesOnly PyError.IsCatalogueError (orderedCaseIds casesById directIds profile) := by
  intro e he
  rcases DepthFirst.order_error he with ⟨_, rfl | rfl | rfl⟩ | rfl
  · trivial
  · trivial
  · trivial
  · refine absurd he (DepthFirst.order_ne_tooDeep casesById.keys ?_ ?_ ?_)
    · intro caseId hdeps
      rw [Dict.mem_keys_iff]
      simpa [caseGraph, Option.ne_none_iff_exists'] using hdeps
    · intro caseId
      simp [caseGraph]
    · simp [Dict.keys, Dict.size]

/-! ## The compiled ids -/

/-- A malformed id in the closure keeps the search from returning. -/
private theorem search_ne_ok {catalogue : TestCatalogue} {spec : TestPlanSpec}
    {casesById : Dict String CatalogueTestCase} {indexes : CapabilityIndexes}
    {selected : SelectedCapabilities} {search : DepthFirst.State String}
    (hcases : catalogueCasesById catalogue = .ok casesById)
    (hindexes : catalogueCapabilityIndexes catalogue = .ok indexes)
    (hselected : selectedCapabilitiesByEndpoint indexes catalogue.capabilities spec.endpoints =
      .ok selected) {caseId : String} (hclosure : InClosure catalogue spec caseId)
    (hbad : Malformed catalogue spec caseId) :
    (caseGraph casesById spec.securityProfile).order (casesById.size + 1)
      (rootIds catalogue spec casesById selected) ≠ .ok search := by
  have hreach := (reachedFrom_rootIds hcases hindexes hselected).mpr hclosure
  obtain ⟨e, he⟩ := DepthFirst.order_raises (casesById.size + 1) hreach (by
    rcases hbad with hmissing | hcycle | hprofile
    · exact .inl ((caseGraph_deps_eq_none hcases).mpr hmissing)
    · exact .inr (.inr (by rwa [caseGraph_dep hcases]))
    · exact .inr (.inl ((caseGraph_admits_eq_false hcases).mpr hprofile)))
  rw [he]
  exact nofun

/-- A compilation whose closure is malformed raises `CatalogueError`. -/
private theorem compileTestPlan_raises
    (validateHttpsUrl : String → String → Except PyError Unit) {catalogue : TestCatalogue}
    {spec : TestPlanSpec} {caseId : String} (hclosure : InClosure catalogue spec caseId)
    (hbad : Malformed catalogue spec caseId) :
    ∃ message, compileTestPlan validateHttpsUrl catalogue spec =
      .error (.catalogueError message) := by
  -- the passes up to the search raise `CatalogueError` only, and the search does not return
  have honly : RaisesOnly PyError.IsCatalogueError
      (compileTestPlan validateHttpsUrl catalogue spec) :=
    .bind (.raiseIf trivial) fun _ _ =>
    .bind (casesById_raises catalogue) fun casesById hcases =>
    .bind (capabilityIndexes_raises catalogue) fun indexes hindexes =>
    .bind (selectedCapabilities_raises _ _ _) fun selected hselected =>
    .bind (capabilityReferences_raises _ _) fun _ _ =>
    .bind (deselection_raises _ _ _) fun _ _ =>
    .bind (orderedCaseIds_raises _ _ _) fun search hsearch =>
      absurd hsearch (search_ne_ok hcases hindexes hselected hclosure hbad)
  cases hres : compileTestPlan validateHttpsUrl catalogue spec with
  | ok plan =>
    obtain ⟨run, hrun, -⟩ := compileTestPlan_eq_ok.mp hres
    exact absurd hrun.search (search_ne_ok hrun.cases hrun.indexes hrun.selected hclosure hbad)
  | error e =>
    have he := honly e hres
    cases e with
    | catalogueError message => exact ⟨message, rfl⟩
    | _ => exact he.elim

/-- `compile_test_plan` returns the ordered dependency closure of the directly
    applicable, not deselected cases, or raises `CatalogueError` when that closure
    is malformed. -/
theorem compileTestPlan_closure (validateHttpsUrl : String → String → Except PyError Unit)
    (catalogue : TestCatalogue) (spec : TestPlanSpec) :
    (∀ plan, compileTestPlan validateHttpsUrl catalogue spec = .ok plan →
      plan.traceability.generatedTestCaseIds.Nodup ∧
      (∀ caseId, caseId ∈ plan.traceability.generatedTestCaseIds ↔
        InClosure catalogue spec caseId) ∧
      (∀ l₁ caseId l₂, plan.traceability.generatedTestCaseIds = l₁ ++ caseId :: l₂ →
        ∀ dependency, catalogue.DependsOn caseId dependency → dependency ∈ l₁) ∧
      ∀ caseId ∈ spec.deselectedTestCaseIds,
        caseId ∉ plan.traceability.generatedTestCaseIds) ∧
    ((∃ caseId, InClosure catalogue spec caseId ∧ Malformed catalogue spec caseId) →
      ∃ message, compileTestPlan validateHttpsUrl catalogue spec =
        .error (.catalogueError message)) := by
  constructor
  · intro plan hplan
    obtain ⟨run, hrun, rfl⟩ := compileTestPlan_eq_ok.mp hplan
    refine ⟨hrun.nodup, fun caseId => hrun.mem_ordered_iff, ?_, ?_⟩
    · exact fun l₁ caseId l₂ hsplit dependency hdep => hrun.topological hsplit hdep
    · exact fun caseId hdesel hmem => hrun.kept caseId hmem hdesel
  · rintro ⟨caseId, hclosure, hbad⟩
    exact compileTestPlan_raises validateHttpsUrl hclosure hbad

/-! ## The decision log -/

namespace CompilerRun.Of

variable {validateHttpsUrl : String → String → Except PyError Unit} {catalogue : TestCatalogue}
  {spec : TestPlanSpec} {run : CompilerRun}

/-- The final decision of one case. -/
def finalDecision (run : CompilerRun) (spec : TestPlanSpec)
    (testCase : CatalogueTestCase) : ApplicabilityDecision :=
  traceabilityDecision run.search.ordered run.search.edges spec.deselectedTestCaseIds
    testCase.testCaseId (directDecision spec (implementedEndpointRefs spec.endpoints)
      run.selected.byRef testCase)

/-- The log holds the final decision of every case, in catalogue order. -/
theorem decisions_eq (hrun : run.Of validateHttpsUrl catalogue spec) :
    (run.plan catalogue spec).traceability.applicabilityDecisions =
      catalogue.testCases.map (finalDecision run spec) := by
  simp only [plan, traceabilityDecisions, direct,
    directCases_decisions (testCaseIds_nodup hrun.cases), List.map_map]
  rfl

/-- `dependency_of` lists the compiled dependents of a case. -/
private theorem mem_dependencyOf_edges (hrun : run.Of validateHttpsUrl catalogue spec)
    {caseId dependent : String} :
    dependent ∈ dependencyOf run.search.edges caseId ↔
      dependent ∈ run.search.ordered ∧ catalogue.DependsOn dependent caseId := by
  rw [← hrun.mem_edges_iff]
  simp only [dependencyOf, mem_sorted, List.mem_map, List.mem_filter, decide_eq_true_eq,
    Prod.exists, exists_eq_right]

/-- No dependent is named twice. -/
private theorem dependencyOf_nodup (hrun : run.Of validateHttpsUrl catalogue spec)
    (caseId : String) : (dependencyOf run.search.edges caseId).Nodup := by
  refine sorted_nodup (((search_ordered hrun).edges_nodup.filter _).map_on ?_)
  rintro ⟨v, u⟩ hv ⟨v', u'⟩ hv' hu
  simp only [List.mem_filter, decide_eq_true_eq] at hv hv'
  exact Prod.ext (hv.2.trans hv'.2.symm) hu

/-- A case that was not emitted has no compiled dependents. -/
private theorem dependencyOf_eq_nil (hrun : run.Of validateHttpsUrl catalogue spec)
    {caseId : String} (hnot : caseId ∉ run.search.ordered) :
    dependencyOf run.search.edges caseId = [] := by
  rw [List.eq_nil_iff_forall_not_mem]
  intro dependent hmem
  rw [mem_dependencyOf_edges hrun] at hmem
  obtain ⟨hdep, hedge⟩ := hmem
  obtain ⟨l₁, l₂, hsplit⟩ := List.append_of_mem hdep
  refine hnot ?_
  rw [hsplit]
  exact List.mem_append_left _ (hrun.topological hsplit hedge)

/-- What the final decision of a case records, whichever branch produced it. -/
private theorem finalDecision_spec (hrun : run.Of validateHttpsUrl catalogue spec)
    {testCase : CatalogueTestCase} (hcase : testCase ∈ catalogue.testCases) :
    (finalDecision run spec testCase).testCaseId = testCase.testCaseId ∧
    (finalDecision run spec testCase).dependencyOf =
      dependencyOf run.search.edges testCase.testCaseId ∧
    ((finalDecision run spec testCase).selected = true ↔
      testCase.testCaseId ∈ run.search.ordered) := by
  simp only [finalDecision, traceabilityDecision]
  by_cases hdesel : testCase.testCaseId ∈ spec.deselectedTestCaseIds
  · have hnot : testCase.testCaseId ∉ run.search.ordered :=
      fun hmem => hrun.kept _ hmem hdesel
    simp [hdesel, hnot]
  · by_cases hmem : testCase.testCaseId ∈ run.search.ordered
    · simp [hdesel, hmem]
    · simp only [hdesel, hmem, if_false, directDecision_testCaseId, directDecision_dependencyOf,
        dependencyOf_eq_nil hrun hmem, iff_false, true_and]
      -- A direct, not deselected case is a root of the search, hence emitted.
      intro hsel
      rw [directDecision_selected_iff hrun.indexes hrun.selected] at hsel
      exact hmem (hrun.mem_ordered_iff.mpr
        ⟨_, ⟨hdesel, testCase, hcase, rfl, hsel⟩, Relation.ReflTransGen.refl⟩)

/-- The decision of a case that was neither emitted nor deselected is the direct one. -/
theorem finalDecision_of_notMem {testCase : CatalogueTestCase}
    (hmem : testCase.testCaseId ∉ run.search.ordered)
    (hdesel : testCase.testCaseId ∉ spec.deselectedTestCaseIds) :
    finalDecision run spec testCase =
      directDecision spec (implementedEndpointRefs spec.endpoints) run.selected.byRef
        testCase := by
  simp only [finalDecision, traceabilityDecision, hmem, hdesel, if_false]

/-- The cases kept as skipped are those whose endpoint gate is closed. -/
theorem keptAsSkipped_iff (hrun : run.Of validateHttpsUrl catalogue spec)
    {testCase : CatalogueTestCase} (hcase : testCase ∈ catalogue.testCases) :
    keptAsSkipped (run.direct catalogue spec).decisions run.search.ordered testCase = true ↔
      testCase.testCaseId ∉ run.search.ordered ∧
      (directDecision spec (implementedEndpointRefs spec.endpoints) run.selected.byRef
        testCase).reason = "no matching implemented endpoint" ∧
      (testCase.gateAbsenceBehavior = .skip ∨
        testCase.traceGroup.map (·.absenceBehavior) = some .skip) := by
  have hget : (run.direct catalogue spec).decisions.get? testCase.testCaseId =
      some (directDecision spec (implementedEndpointRefs spec.endpoints) run.selected.byRef
        testCase) := by
    rw [← Dict.mem_entries_iff, direct, directCases_decisions (testCaseIds_nodup hrun.cases)]
    exact List.mem_map_of_mem
      (f := fun tc : CatalogueTestCase => (tc.testCaseId, directDecision spec _ _ tc)) hcase
  simp only [keptAsSkipped, hget, Option.map_some, Bool.and_eq_true, Bool.or_eq_true,
    decide_eq_true_eq, beq_iff_eq, Option.some.injEq, and_assoc]

/-- A case included as a dependency does not apply directly and was emitted for
    another emitted case. -/
private theorem finalDecision_dependency (hrun : run.Of validateHttpsUrl catalogue spec)
    {testCase : CatalogueTestCase}
    (hreason : (finalDecision run spec testCase).reason = "included as dependency") :
    ¬ DirectlyApplicable catalogue spec testCase ∧
      dependencyOf run.search.edges testCase.testCaseId ≠ [] := by
  have hbase := directDecision_reason_ne spec (implementedEndpointRefs spec.endpoints)
    run.selected.byRef testCase
  rw [← directDecision_selected_iff hrun.indexes hrun.selected, Bool.not_eq_true]
  simp only [finalDecision, traceabilityDecision] at hreason
  split at hreason
  · dsimp only at hreason
    exact absurd hreason (by decide)
  · split at hreason
    · dsimp only at hreason
      split at hreason
      · rename_i hboth
        exact ⟨hboth.2, hboth.1⟩
      · exact absurd hreason hbase
    · exact absurd hreason hbase

/-- The entries of the log are the final decisions of the cases. -/
private theorem mem_decisions_iff (hrun : run.Of validateHttpsUrl catalogue spec)
    {decision : ApplicabilityDecision} :
    decision ∈ (run.plan catalogue spec).traceability.applicabilityDecisions ↔
      ∃ testCase ∈ catalogue.testCases, finalDecision run spec testCase = decision := by
  rw [hrun.decisions_eq, List.mem_map]

/-- The ids of the compiled cases are the ids the search emitted. -/
private theorem mem_selectedCaseIds_iff (hrun : run.Of validateHttpsUrl catalogue spec)
    {caseId : String} :
    caseId ∈ run.selectedCases.map (·.testCaseId) ↔ caseId ∈ run.search.ordered := by
  simp only [List.mem_map, hrun.mem_selectedCases_iff]
  constructor
  · rintro ⟨testCase, ⟨-, hmem⟩, rfl⟩
    exact hmem
  · intro hmem
    obtain ⟨testCase, hcase, rfl⟩ := hrun.exists_testCase hmem
    exact ⟨testCase, ⟨hcase, hmem⟩, rfl⟩

/-- The deselection of a mandatory case is rejected. -/
private theorem not_deselected_of_mandatory (hrun : run.Of validateHttpsUrl catalogue spec)
    {testCase : CatalogueTestCase} (hcase : testCase ∈ catalogue.testCases)
    (hmandatory : testCase.mandatory = true) :
    testCase.testCaseId ∉ spec.deselectedTestCaseIds := by
  intro hdesel
  have hcheck := List.forM_eq_ok.mp hrun.deselection testCase.testCaseId hdesel
  have hget := (casesById_get? hrun.cases).mpr ⟨hcase, rfl⟩
  simp only [checkDeselection, hget, bind_eq_ok, raiseIf_eq_ok, hmandatory] at hcheck
  obtain ⟨_, _, hno⟩ := hcheck
  exact hno trivial

end CompilerRun.Of

/-- The decision log of a compiled plan agrees with what was compiled. -/
theorem compileTestPlan_traceability (validateHttpsUrl : String → String → Except PyError Unit)
    (catalogue : TestCatalogue) (spec : TestPlanSpec) (plan : CompiledTestPlan)
    (hplan : compileTestPlan validateHttpsUrl catalogue spec = .ok plan) :
    -- one decision for each case, in catalogue order
    (plan.traceability.applicabilityDecisions.map (·.testCaseId) =
        catalogue.testCases.map (·.testCaseId) ∧
      (catalogue.testCases.map (·.testCaseId)).Nodup) ∧
    -- selected exactly when compiled
    (∀ decision ∈ plan.traceability.applicabilityDecisions,
      (decision.selected = true ↔ decision.testCaseId ∈ plan.testCases.map (·.testCaseId))) ∧
    -- directly applicable mandatory cases are compiled
    (∀ testCase ∈ catalogue.testCases, testCase.mandatory = true →
      DirectlyApplicable catalogue spec testCase → testCase ∈ plan.testCases) ∧
    -- a dependency inclusion is not a direct one and has a selected dependent
    (∀ decision ∈ plan.traceability.applicabilityDecisions,
      decision.reason = "included as dependency" →
        (∀ testCase ∈ catalogue.testCases, testCase.testCaseId = decision.testCaseId →
          ¬ DirectlyApplicable catalogue spec testCase) ∧
        ∃ dependent ∈ decision.dependencyOf,
          ∃ decision' ∈ plan.traceability.applicabilityDecisions,
            decision'.testCaseId = dependent ∧ decision'.selected = true) ∧
    -- `dependency_of` is exact
    ∀ decision ∈ plan.traceability.applicabilityDecisions,
      decision.dependencyOf.Nodup ∧
      ∀ dependent, dependent ∈ decision.dependencyOf ↔
        ∃ testCase ∈ plan.testCases, testCase.testCaseId = dependent ∧
          decision.testCaseId ∈ testCase.dependencies := by
  obtain ⟨run, hrun, rfl⟩ := compileTestPlan_eq_ok.mp hplan
  refine ⟨⟨?_, testCaseIds_nodup hrun.cases⟩, ?_, ?_, ?_, ?_⟩
  · rw [hrun.decisions_eq, List.map_map]
    exact List.map_congr_left fun testCase hcase => (hrun.finalDecision_spec hcase).1
  · intro decision hdec
    obtain ⟨testCase, hcase, rfl⟩ := hrun.mem_decisions_iff.mp hdec
    obtain ⟨hid, -, hsel⟩ := hrun.finalDecision_spec hcase
    exact hsel.trans (hid ▸ hrun.mem_selectedCaseIds_iff.symm)
  · intro testCase hcase hmandatory happ
    rw [show (run.plan catalogue spec).testCases = run.selectedCases from rfl,
      hrun.mem_selectedCases_iff]
    -- The case is a root of the search, because it cannot have been deselected.
    have hroot : SelectedRoot catalogue spec testCase.testCaseId :=
      ⟨hrun.not_deselected_of_mandatory hcase hmandatory, testCase, hcase, rfl, happ⟩
    exact ⟨hcase, hrun.mem_ordered_iff.mpr ⟨_, hroot, .refl⟩⟩
  · intro decision hdec hreason
    obtain ⟨testCase, hcase, rfl⟩ := hrun.mem_decisions_iff.mp hdec
    obtain ⟨hid, hdeps, -⟩ := hrun.finalDecision_spec hcase
    -- the reason is given only where the case has a dependent and does not apply itself
    obtain ⟨hnot, hne⟩ := hrun.finalDecision_dependency hreason
    constructor
    · intro testCase' hcase' hid'
      obtain rfl := hrun.testCase_unique hcase' hcase (hid'.trans hid)
      exact hnot
    · obtain ⟨dependent, hmem⟩ := List.exists_mem_of_ne_nil _ hne
      have hordered := (hrun.mem_dependencyOf_edges.mp hmem).1
      obtain ⟨testCase', hcase', rfl⟩ := hrun.exists_testCase hordered
      obtain ⟨hid', -, hsel'⟩ := hrun.finalDecision_spec hcase'
      exact ⟨_, hdeps ▸ hmem, CompilerRun.Of.finalDecision run spec testCase',
        hrun.mem_decisions_iff.mpr ⟨testCase', hcase', rfl⟩, hid', hsel'.mpr hordered⟩
  · intro decision hdec
    obtain ⟨testCase, hcase, rfl⟩ := hrun.mem_decisions_iff.mp hdec
    obtain ⟨hid, hdeps, -⟩ := hrun.finalDecision_spec hcase
    rw [hdeps, hid]
    refine ⟨hrun.dependencyOf_nodup _, fun dependent => ?_⟩
    rw [hrun.mem_dependencyOf_edges]
    constructor
    · rintro ⟨hordered, testCase', hcase', rfl, hdep⟩
      exact ⟨testCase', hrun.mem_selectedCases_iff.mpr ⟨hcase', hordered⟩, rfl, hdep⟩
    · rintro ⟨testCase', hmem, rfl, hdep⟩
      obtain ⟨hcase', hordered⟩ := hrun.mem_selectedCases_iff.mp hmem
      exact ⟨hordered, testCase', hcase', rfl, hdep⟩

/-- A catalogue with an accounts case that depends on a token case. -/
def accountsCatalogue (tokenVersions : List String) : TestCatalogue where
  key := ⟨"open-banking", "v4.0", "ais"⟩
  catalogueVersion := "1.0"
  testCases := [
    { testCaseId := "token"
      mandatory := true
      applicability := {
        securityProfiles := ⟨[.all]⟩
        endpointRefs := [⟨.post, "/token"⟩]
        specificationVersions := tokenVersions } },
    { testCaseId := "accounts"
      mandatory := true
      dependencies := ["token"]
      applicability := {
        securityProfiles := ⟨[.fapi1Advanced]⟩
        endpointRefs := [⟨.get, "/accounts"⟩]
        specificationVersions := ["4.0.1"] } }]

/-- A plan for version 4.0.1 that implements the accounts endpoint only. -/
def accountsSpec : TestPlanSpec where
  catalogueKey := ⟨"open-banking", "v4.0", "ais"⟩
  securityProfile := .fapi1Advanced
  implementedEndpoints := [{ method := .get, path := "/accounts", resourceGroup := "AIS" }]
  runtimeInputs := .empty
  specificationVersion := some "4.0.1"

/-- The token case is logged as a dependency of the accounts case. -/
theorem compileTestPlan_traceability_accounts :
    ∃ plan, compileTestPlan (fun _ _ => .ok ()) (accountsCatalogue []) accountsSpec = .ok plan ∧
      plan.traceability.applicabilityDecisions.map (fun d => (d.reason, d.dependencyOf)) =
        [("included as dependency", ["accounts"]),
          ("applicable to selected profile and implemented endpoints", [])] ∧
      ∀ decision ∈ plan.traceability.applicabilityDecisions,
        (decision.selected = true ↔ decision.testCaseId ∈ plan.testCases.map (·.testCaseId)) :=
  ⟨_, rfl, by decide +kernel,
    (compileTestPlan_traceability (fun _ _ => .ok ()) (accountsCatalogue []) accountsSpec _ rfl).2.1⟩

/-! ## Specification versions -/

/-- Every compiled case applies to the plan's specification version exactly when
    every dependency named in the closure does: the search re-checks the security
    profile of a dependency but not its specification versions. -/
theorem compileTestPlan_specificationVersion_iff
    (validateHttpsUrl : String → String → Except PyError Unit) (catalogue : TestCatalogue)
    (spec : TestPlanSpec) (version : String) (plan : CompiledTestPlan)
    (hversion : spec.specificationVersion = some version)
    (hplan : compileTestPlan validateHttpsUrl catalogue spec = .ok plan) :
    (∀ testCase ∈ plan.testCases,
      testCaseAppliesToSpecificationVersion testCase spec.specificationVersion = true) ↔
    ∀ caseId, InClosure catalogue spec caseId →
      ∀ dependency ∈ catalogue.testCases, catalogue.DependsOn caseId dependency.testCaseId →
        dependency.applicability.specificationVersions = [] ∨
          version ∈ dependency.applicability.specificationVersions := by
  obtain ⟨run, hrun, rfl⟩ := compileTestPlan_eq_ok.mp hplan
  have happlies : ∀ testCase : CatalogueTestCase,
      testCaseAppliesToSpecificationVersion testCase spec.specificationVersion = true ↔
        testCase.applicability.specificationVersions = [] ∨
          version ∈ testCase.applicability.specificationVersions := by
    intro testCase
    simp only [testCaseAppliesToSpecificationVersion, hversion, Bool.or_eq_true, decide_eq_true_eq]
  constructor
  -- a dependency of the closure is in the closure
  · intro hall caseId hclosure dependency hcase hdep
    rw [← happlies]
    refine hall dependency (hrun.mem_selectedCases_iff.mpr ⟨hcase, ?_⟩)
    obtain ⟨root, hroot, hreach⟩ := hclosure
    exact hrun.mem_ordered_iff.mpr ⟨root, hroot, hreach.tail hdep⟩
  · intro hdeps testCase hmem
    obtain ⟨hcase, hordered⟩ := hrun.mem_selectedCases_iff.mp hmem
    obtain ⟨root, hroot, hreach⟩ := hrun.mem_ordered_iff.mp hordered
    -- The case is a root, which was selected by version, or a named dependency.
    rcases Relation.ReflTransGen.cases_tail hreach with heq | ⟨caseId, hreach', hdep⟩
    · obtain ⟨-, testCase', hcase', hid', happ⟩ := hroot
      obtain rfl := hrun.testCase_unique hcase hcase' (heq.trans hid'.symm)
      exact happ.version
    · exact (happlies testCase).mpr (hdeps caseId ⟨root, hroot, hreach'⟩ testCase hcase hdep)

/-- With an unrestricted token case, every compiled case applies to version 4.0.1. -/
theorem compileTestPlan_specificationVersion_accounts :
    ∃ plan, compileTestPlan (fun _ _ => .ok ()) (accountsCatalogue []) accountsSpec = .ok plan ∧
      ∀ testCase ∈ plan.testCases, testCaseAppliesToSpecificationVersion testCase
        accountsSpec.specificationVersion = true := by
  refine ⟨_, rfl, (compileTestPlan_specificationVersion_iff (fun _ _ => .ok ())
    (accountsCatalogue []) accountsSpec "4.0.1" _ rfl rfl).mpr ?_⟩
  intro caseId _ dependency hcase hdep
  obtain ⟨testCase, htestCase, -, hmem⟩ := hdep
  simp only [accountsCatalogue, List.mem_cons, List.not_mem_nil, or_false] at hcase htestCase
  rcases hcase with rfl | rfl
  · exact .inl rfl
  · exact .inr (by simp)

/-- A token case for version 3.1.11 only is compiled into a plan for 4.0.1. -/
theorem compileTestPlan_specificationVersion_fails :
    ¬ ∀ (validateHttpsUrl : String → String → Except PyError Unit) (catalogue : TestCatalogue)
      (spec : TestPlanSpec) (plan : CompiledTestPlan), spec.specificationVersion.isSome = true →
      compileTestPlan validateHttpsUrl catalogue spec = .ok plan →
      ∀ testCase ∈ plan.testCases,
        testCaseAppliesToSpecificationVersion testCase spec.specificationVersion = true := by
  intro hall
  have htoken := hall (fun _ _ => .ok ()) (accountsCatalogue ["3.1.11"]) accountsSpec _ rfl rfl
  revert htoken
  decide +kernel

end Conformance
