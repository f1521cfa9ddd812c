import Conformance.ForStd.List
import Conformance.Native.CompilePlan
import Conformance.Spec.CompiledManifestCorrect
import Conformance.Spec.CertificationAgreement

/-!
# Planned steps and executed steps

The snapshot of a run's planned steps against the synthetic manifest that the
executor runs. The two expansions agree on every request step but one kind: an AIS
template that no permission profile needs expands to nothing in the executor, while
the snapshot takes the empty replacement for "executed as it stands".

## Key results

- `compiledPlanStepsSnapshot_keys`: what the snapshot lists, in order
- `compiledPlanStepsSnapshot_iff`: it lists the executed steps exactly when no AIS
  template is left without a permission profile
-/

namespace Conformance

open Except PlannedSteps

variable {p : FieldParsers} {requests : CatalogueRequests p}

/-- The id, the kind and the `mandatory` flag of a planned row. -/
def RunPlanStep.stepKey (row : RunPlanStep) : StepKey := (row.stepId, row.kind, row.mandatory)

/-! ## Numbering -/

/-- A row that takes the number it is given and has one key for all numbers. -/
structure RowOf (key : StepKey) (row : Nat → RunPlanStep) : Prop where
  order : ∀ n, (row n).order = n
  stepKey : ∀ n, (row n).stepKey = key

/-- The rows listed so far are numbered from zero, and have the given keys. -/
structure Listed (keys : List StepKey) (plannedSteps : List RunPlanStep) : Prop where
  orders : plannedSteps.map RunPlanStep.order = List.range plannedSteps.length
  stepKeys : plannedSteps.map RunPlanStep.stepKey = keys

/-- Numbered rows keep their keys. -/
private theorem numbered_stepKeys {keys : List StepKey} {rows : List (Nat → RunPlanStep)}
    (h : List.Forall₂ RowOf keys rows) (start : Nat) :
    (numbered rows start).map RunPlanStep.stepKey = keys := by
  induction h generalizing start with
  | nil => rfl
  | cons hrow _ ih =>
    simp only [numbered, List.zipIdx_cons, List.map_cons, hrow.stepKey]
    exact congrArg _ (ih (start + 1))

/-- Rows are numbered in order. -/
private theorem numbered_orders {keys : List StepKey} {rows : List (Nat → RunPlanStep)}
    (h : List.Forall₂ RowOf keys rows) (start : Nat) :
    (numbered rows start).map RunPlanStep.order = List.range' start rows.length := by
  induction h generalizing start with
  | nil => rfl
  | cons hrow _ ih =>
    simp only [numbered, List.zipIdx_cons, List.map_cons, hrow.order, List.length_cons,
      List.range'_succ]
    exact congrArg _ (ih (start + 1))

/-- Appending rows numbered from the length on. -/
private theorem Listed.append {keys newKeys : List StepKey} {plannedSteps : List RunPlanStep}
    {rows : List (Nat → RunPlanStep)} (h : Listed keys plannedSteps)
    (hrows : List.Forall₂ RowOf newKeys rows) :
    Listed (keys ++ newKeys) (plannedSteps ++ numbered rows plannedSteps.length) where
  orders := by
    have hlen : (numbered rows plannedSteps.length).length = rows.length := by simp [numbered]
    rw [List.map_append, h.orders, numbered_orders hrows, List.length_append, hlen,
      List.range_eq_range', List.range_eq_range', ← List.range'_append_1, Nat.zero_add]
  stepKeys := by
    rw [List.map_append, h.stepKeys, numbered_stepKeys hrows]

/-- The row of a manifest step has its key. -/
private theorem rowOf_manifestStep (step : V1Step p) : RowOf step.stepKey (rowOfManifestStep step) :=
  ⟨fun _ => rfl, fun _ => rfl⟩

/-- The rows of the manifest's steps have their keys. -/
private theorem rowOf_manifestSteps (steps : List (V1Step p)) :
    List.Forall₂ RowOf (steps.map V1Step.stepKey) (steps.map rowOfManifestStep) := by
  rw [List.forall₂_map_left_iff, List.forall₂_map_right_iff, List.forall₂_same]
  exact fun step _ => rowOf_manifestStep step

/-! ## What the snapshot lists -/

/-- The keys that the snapshot lists for a request step. -/
def snapshotKeys (plan : CompiledTestPlan) (testCase : CatalogueTestCase)
    (requestStep : CatalogueRequestStep) : List StepKey :=
  if requestStep.IsAisTemplate ∧ compiledPlanAisPermissionProfiles plan = [] then
    (requestStep.stepId, "http", testCase.mandatory) :: inlineKeys plan requestStep
  else manifestKeys plan testCase requestStep

/-- The rows that replace an AIS template, if there are any. -/
private theorem replacementSteps_cases (plan : CompiledTestPlan) (testCase : CatalogueTestCase)
    (requestStep : CatalogueRequestStep) (start : Nat) :
    (compiledPlanReplacementStepsSnapshot plan requestStep start = [] ∧
      snapshotKeys plan testCase requestStep =
        (requestStep.stepId, "http", testCase.mandatory) :: inlineKeys plan requestStep) ∨
    ∃ rows, compiledPlanReplacementStepsSnapshot plan requestStep start = numbered rows start ∧
      numbered rows start ≠ [] ∧
      List.Forall₂ RowOf (snapshotKeys plan testCase requestStep) rows := by
  unfold compiledPlanReplacementStepsSnapshot
  dsimp only
  have hprofiles : PlannedSteps.compiledPlanAisPermissionProfiles plan =
      Conformance.compiledPlanAisPermissionProfiles plan := rfl
  rw [hprofiles]
  by_cases hconsent : requestStep.stepId = aisConsentCreateStepId
  · rw [if_pos (show requestStep.stepId = aisConsentTemplateStepId from hconsent)]
    by_cases hnone : Conformance.compiledPlanAisPermissionProfiles plan = []
    · exact .inl ⟨by rw [hnone]; rfl, if_pos ⟨.inl hconsent, hnone⟩⟩
    · refine .inr ⟨_, rfl, by simpa [numbered] using List.exists_mem_of_ne_nil _ hnone, ?_⟩
      rw [snapshotKeys, if_neg fun h => hnone h.2, manifestKeys, if_pos hconsent]
      refine List.rel_flatMap (R := Eq) (List.forall₂_refl _) ?_
      rintro profile _ rfl
      exact .cons ⟨fun _ => rfl, fun _ => rfl⟩ (.cons ⟨fun _ => rfl, fun _ => rfl⟩ .nil)
  · rw [if_neg (show ¬ requestStep.stepId = aisConsentTemplateStepId from hconsent)]
    by_cases htoken : requestStep.stepId = aisAccountAccessTokenStepId
    · rw [if_pos (show requestStep.stepId = aisTokenTemplateStepId from htoken)]
      by_cases hnone : Conformance.compiledPlanAisPermissionProfiles plan = []
      · exact .inl ⟨by rw [hnone]; rfl, if_pos ⟨.inr htoken, hnone⟩⟩
      · refine .inr ⟨_, rfl, by simpa [numbered] using hnone, ?_⟩
        rw [snapshotKeys, if_neg fun h => hnone h.2, manifestKeys, if_neg hconsent,
          if_pos htoken, List.forall₂_map_left_iff, List.forall₂_map_right_iff,
          List.forall₂_same]
        exact fun _ _ => ⟨fun _ => rfl, fun _ => rfl⟩
    · rw [if_neg (show ¬ requestStep.stepId = aisTokenTemplateStepId from htoken)]
      refine .inl ⟨rfl, ?_⟩
      rw [snapshotKeys, if_neg fun h => h.1.elim hconsent htoken, manifestKeys, if_neg hconsent,
        if_neg htoken]

/-- What the snapshot adds for one request step. -/
private theorem addRequestStep_listed {plan : CompiledTestPlan} {testCase : CatalogueTestCase}
    {keys : List StepKey} {plannedSteps : List RunPlanStep} (h : Listed keys plannedSteps)
    (requestStep : CatalogueRequestStep) :
    Listed (keys ++ snapshotKeys plan testCase requestStep)
      (addRequestStep requests plan testCase plannedSteps requestStep) := by
  unfold addRequestStep
  rcases replacementSteps_cases plan testCase requestStep plannedSteps.length with
    ⟨hnil, hkeys⟩ | ⟨rows, hrows, hne, hrel⟩
  · rw [hnil, hkeys]
    have hself : Listed (keys ++ [(requestStep.stepId, "http", testCase.mandatory)])
        (plannedSteps ++ [requestStepRow testCase requestStep plannedSteps.length]) :=
      @Listed.append _ _ _ [requestStepRow testCase requestStep] h
        (.cons ⟨fun _ => rfl, fun _ => rfl⟩ .nil)
    have hinline := hself.append
      (rowOf_manifestSteps (compiledPlanSyntheticInlineSteps requests plan requestStep))
    rw [compiledPlanSyntheticInlineSteps_keys, List.append_assoc] at hinline
    exact hinline
  · rw [hrows]
    split
    · rename_i hnil
      exact absurd hnil hne
    · exact h.append hrel

/-- What the snapshot adds for the request steps of one case. -/
private theorem addTestCase_listed {plan : CompiledTestPlan} {testCase : CatalogueTestCase}
    (hcase : testCase.executionSteps = []) {keys : List StepKey}
    {plannedSteps : List RunPlanStep} (h : Listed keys plannedSteps) :
    Listed (keys ++ testCase.requestSteps.flatMap (snapshotKeys plan testCase))
      (addTestCase requests plan plannedSteps testCase) := by
  unfold addTestCase
  rw [if_neg (not_not_intro hcase)]
  induction testCase.requestSteps generalizing keys plannedSteps with
  | nil => simpa using h
  | cons requestStep rest ih =>
    rw [List.foldl_cons, List.flatMap_cons, ← List.append_assoc]
    exact ih (addRequestStep_listed h requestStep)

/-- What the snapshot lists: rows numbered from zero, with the keys of the synthetic token
    steps and of what each request step is shown as. -/
theorem compiledPlanStepsSnapshot_keys (requests : CatalogueRequests p) {plan : CompiledTestPlan}
    (hplan : ∀ testCase ∈ plan.testCases, testCase.executionSteps = []) :
    Listed ((setupTokenIds plan).map tokenSetupKey ++ plan.testCases.flatMap fun testCase =>
      testCase.requestSteps.flatMap (snapshotKeys plan testCase))
      (compiledPlanStepsSnapshot requests plan) := by
  unfold compiledPlanStepsSnapshot
  have hempty : Listed [] [] := ⟨rfl, rfl⟩
  have hsetup := hempty.append (rowOf_manifestSteps
    ((compiledPlanSyntheticSetupSteps requests plan).map V1Step.http))
  rw [List.map_map, List.map_map, List.nil_append, List.nil_append] at hsetup
  have hkeys : (compiledPlanSyntheticSetupSteps requests plan).map (V1Step.stepKey ∘ V1Step.http) =
      (setupTokenIds plan).map tokenSetupKey := catalogueSyntheticTokenSteps_keys requests plan
  rw [hkeys] at hsetup
  -- Fold over the cases, each of which adds its own rows.
  suffices ∀ (testCases : List CatalogueTestCase) (keys : List StepKey)
      (plannedSteps : List RunPlanStep),
      (∀ testCase ∈ testCases, testCase.executionSteps = []) → Listed keys plannedSteps →
      Listed (keys ++ testCases.flatMap fun testCase =>
        testCase.requestSteps.flatMap (snapshotKeys plan testCase))
        (testCases.foldl (addTestCase requests plan) plannedSteps) from
    this plan.testCases _ _ hplan hsetup
  intro testCases
  induction testCases with
  | nil =>
    intro keys plannedSteps _ h
    simpa using h
  | cons testCase rest ih =>
    intro keys plannedSteps hcases h
    rw [List.foldl_cons, List.flatMap_cons, ← List.append_assoc]
    exact ih _ _ (fun other hmem => hcases other (List.mem_cons_of_mem _ hmem))
      (addTestCase_listed (hcases testCase List.mem_cons_self) h)

/-! ## Agreement -/

/-- A request step is shown as it is executed, unless it is an AIS template that no
    permission profile needs; then it is shown and nothing is executed. -/
private theorem snapshotKeys_eq_or_lt (plan : CompiledTestPlan) (testCase : CatalogueTestCase)
    (requestStep : CatalogueRequestStep) :
    snapshotKeys plan testCase requestStep = manifestKeys plan testCase requestStep ∨
      (manifestKeys plan testCase requestStep).length <
        (snapshotKeys plan testCase requestStep).length := by
  unfold snapshotKeys
  split
  · rename_i htemplate
    right
    obtain ⟨hid | hid, hprofiles⟩ := htemplate
    · simp [manifestKeys, hid, hprofiles]
    · simp [manifestKeys, hid, hprofiles]
  · exact .inl rfl

/-- The snapshot has the keys of the manifest, unless an AIS template has no permission profile. -/
private theorem snapshotKeys_eq_iff (plan : CompiledTestPlan) (testCase : CatalogueTestCase)
    (requestStep : CatalogueRequestStep) :
    snapshotKeys plan testCase requestStep = manifestKeys plan testCase requestStep ↔
      ¬ (requestStep.IsAisTemplate ∧ compiledPlanAisPermissionProfiles plan = []) := by
  unfold snapshotKeys
  split
  · rename_i htemplate
    obtain ⟨hid | hid, hprofiles⟩ := htemplate
    · simp [manifestKeys, hid, hprofiles, CatalogueRequestStep.IsAisTemplate]
    · simp [manifestKeys, hid, hprofiles, CatalogueRequestStep.IsAisTemplate]
  · rename_i htemplate
    exact iff_of_true rfl htemplate

/-- The planned rows are the steps that the executor runs, in order, exactly when the plan
    requires an AIS permission profile or selects no AIS template. The rows are always
    numbered from zero. -/
theorem compiledPlanStepsSnapshot_iff (requests : CatalogueRequests p) (plan : CompiledTestPlan)
    (manifest : Manifest p)
    (hplan : ∀ testCase ∈ plan.testCases, testCase.executionSteps = [])
    (hmanifest : compiledPlanToManifest requests plan = .ok manifest) :
    ((compiledPlanStepsSnapshot requests plan).map RunPlanStep.stepKey =
        (manifest.steps.filter fun step =>
          step.id ∈ (TestPlan.defaultPlanFromManifest manifest).selectedStepIds).map
            V1Step.stepKey ∧
      (compiledPlanStepsSnapshot requests plan).map RunPlanStep.order =
        List.range (compiledPlanStepsSnapshot requests plan).length) ↔
    ((∃ requestStep ∈ plan.requestSteps,
        requestStep.requiredTokenId = some "ais-account-access-basic" ∨
          requestStep.requiredTokenId = some "ais-account-access-detail") ∨
      ∀ requestStep ∈ plan.requestSteps, ¬ requestStep.IsAisTemplate) := by
  obtain ⟨hv1, hsteps, hoptional⟩ := compiledPlanToManifest_ok hmanifest
  have hall : (manifest.steps.filter fun step =>
      step.id ∈ (TestPlan.defaultPlanFromManifest manifest).selectedStepIds) = manifest.steps := by
    rw [selectedStepIds_defaultPlan hv1 hoptional, List.filter_eq_self]
    exact fun step hmem => decide_eq_true (List.mem_map_of_mem hmem)
  obtain ⟨horders, hkeys⟩ := compiledPlanStepsSnapshot_keys requests hplan
  -- the plan has a permission profile when a request asks for one of the two AIS tokens
  have hprofiles : compiledPlanAisPermissionProfiles plan = [] ↔
      ¬ ∃ requestStep ∈ plan.requestSteps,
        requestStep.requiredTokenId = some "ais-account-access-basic" ∨
          requestStep.requiredTokenId = some "ais-account-access-detail" := by
    rw [compiledPlanAisPermissionProfiles, List.map_eq_nil_iff, List.filter_eq_nil_iff]
    simp only [aisPermissionProfileTokenIds, CompiledTestPlan.requiresToken, List.mem_cons,
      List.not_mem_nil, or_false, forall_eq_or_imp, forall_eq, List.any_eq_true,
      decide_eq_true_eq, not_exists, not_and, not_or]
    exact forall₂_and.symm
  rw [hall, hsteps, hkeys, and_iff_left horders, planKeys, List.append_cancel_left_eq,
    List.flatMap_eq_flatMap_iff fun testCase _ => List.flatMap_eq_or_length_lt fun requestStep _ =>
      snapshotKeys_eq_or_lt plan testCase requestStep]
  -- the rows are equal case by case, since none is longer than the manifest's
  have hcase : ∀ testCase ∈ plan.testCases,
      (testCase.requestSteps.flatMap (snapshotKeys plan testCase) =
          testCase.requestSteps.flatMap (manifestKeys plan testCase) ↔
        ∀ requestStep ∈ testCase.requestSteps,
          ¬ (requestStep.IsAisTemplate ∧ compiledPlanAisPermissionProfiles plan = [])) := by
    intro testCase _
    rw [List.flatMap_eq_flatMap_iff fun requestStep _ =>
      snapshotKeys_eq_or_lt plan testCase requestStep]
    exact forall₂_congr fun requestStep _ => snapshotKeys_eq_iff plan testCase requestStep
  rw [forall₂_congr hcase, hprofiles]
  constructor
  · intro h
    by_cases hrequired : ∃ requestStep ∈ plan.requestSteps,
        requestStep.requiredTokenId = some "ais-account-access-basic" ∨
          requestStep.requiredTokenId = some "ais-account-access-detail"
    · exact .inl hrequired
    · right
      intro requestStep hstep htemplate
      obtain ⟨testCase, hmem, hstep⟩ := List.mem_flatMap.mp hstep
      exact h testCase hmem requestStep hstep ⟨htemplate, hrequired⟩
  · rintro (hrequired | hnone) testCase hmem requestStep hstep ⟨htemplate, hnot⟩
    · exact hnot hrequired
    · exact hnone requestStep (List.mem_flatMap.mpr ⟨testCase, hmem, hstep⟩) htemplate

/-- Requests kept as the method and the path of their step. -/
def verbatimRequests : CatalogueRequests verbatimParsers where
  formRequest method url fields :=
    [("method", .str method.text), ("url", .str url),
      ("form", .obj (fields.map fun field => (field.1, .str field.2)))]
  httpStatusAssertion status := [("expected", .int status)]
  fapiSigningPolicy := [("source", .str "fapi-signing")]
  generatedRequestObject audience intentId :=
    [("audience", .str audience), ("openbankingIntentId", .str intentId)]
  aisProfileConsentRequest _ requestStep profile :=
    .ok [("method", .str requestStep.method.text), ("url", .str requestStep.path),
      ("permissions", .str profile)]
  catalogueRequest _ requestStep :=
    .ok [("method", .str requestStep.method.text), ("url", .str requestStep.path)]
  catalogueAssertions _ _ := .ok [[("expected", .int 200)]]

/-- A catalogue whose setup case holds the AIS consent template, and whose accounts case
    reads the accounts with the given token. -/
def consentTemplateCatalogue (accountsTokenId : Option String) : TestCatalogue where
  key := ⟨"open-banking", "v4.0", "ais"⟩
  catalogueVersion := "1.0"
  testCases := [
    { testCaseId := "ais-at-setup-consent"
      name := "Account access consent"
      role := .setup
      mandatory := true
      applicability := { securityProfiles := ⟨[.all]⟩ }
      requestSteps := [
        { stepId := "ais-at-setup-consent-request"
          name := "Create an account access consent"
          method := .post
          path := "/open-banking/v4.0/aisp/account-access-consents"
          requiredTokenId := some "ais-client-credentials" }] },
    { testCaseId := "ais-accounts"
      name := "Accounts"
      role := .resource
      mandatory := true
      dependencies := ["ais-at-setup-consent"]
      applicability := {
        securityProfiles := ⟨[.all]⟩
        endpointRefs := [⟨.get, "/open-banking/v4.0/aisp/accounts"⟩] }
      requestSteps := [
        { stepId := "ais-accounts-request"
          name := "Read the accounts"
          method := .get
          path := "/open-banking/v4.0/aisp/accounts"
          requiredTokenId := accountsTokenId }] }]

/-- A specification that implements the accounts endpoint. -/
def consentTemplateSpec : TestPlanSpec where
  catalogueKey := ⟨"open-banking", "v4.0", "ais"⟩
  securityProfile := .fapi1Advanced
  implementedEndpoints := [
    { method := .get, path := "/open-banking/v4.0/aisp/accounts", resourceGroup := "AIS" }]
  runtimeInputs := .empty

/-- The plan compiled from the catalogue. -/
def consentTemplatePlan (accountsTokenId : Option String) : Except PyError CompiledTestPlan :=
  compileTestPlan (fun _ _ => .ok ()) (consentTemplateCatalogue accountsTokenId)
    consentTemplateSpec

/-- With an accounts case that needs the basic permissions, the two expansions agree. -/
theorem compiledPlanStepsSnapshot_basic :
    ∃ plan manifest, consentTemplatePlan (some "ais-account-access-basic") = .ok plan ∧
      compiledPlanToManifest verbatimRequests plan = .ok manifest ∧
      (compiledPlanStepsSnapshot verbatimRequests plan).map RunPlanStep.stepKey =
        (manifest.steps.filter fun step =>
          step.id ∈ (TestPlan.defaultPlanFromManifest manifest).selectedStepIds).map
            V1Step.stepKey := by
  obtain ⟨plan, hplan, hcheck⟩ := exists_ok_of_any
    (x := consentTemplatePlan (some "ais-account-access-basic"))
    (p := fun plan => (compiledPlanToManifest verbatimRequests plan).toOption.isSome &&
      (plan.testCases.all fun testCase => testCase.executionSteps = []) &&
      plan.requiresToken "ais-account-access-basic") (by decide +kernel)
  rw [Bool.and_eq_true, Bool.and_eq_true] at hcheck
  obtain ⟨⟨hmanifest, hcases⟩, htoken⟩ := hcheck
  obtain ⟨manifest, hmanifest, -⟩ := exists_ok_of_any (p := fun _ => true)
    (x := compiledPlanToManifest verbatimRequests plan) (by simpa [Option.any_true] using hmanifest)
  refine ⟨plan, manifest, hplan, hmanifest, ((compiledPlanStepsSnapshot_iff verbatimRequests plan
    manifest (by simpa using hcases) hmanifest).mpr (.inl ?_)).1⟩
  obtain ⟨requestStep, hmem, hrequired⟩ := List.any_eq_true.mp htoken
  exact ⟨requestStep, hmem, .inl (of_decide_eq_true hrequired)⟩

/-- When the accounts case needs no account access token, the snapshot lists the consent
    template, which is never executed. -/
theorem compiledPlanStepsSnapshot_template_fails :
    ¬ ∀ (p : FieldParsers) (requests : CatalogueRequests p)
      (validateHttpsUrl : String → String → Except PyError Unit) (catalogue : TestCatalogue)
      (spec : TestPlanSpec) (plan : CompiledTestPlan) (manifest : Manifest p),
      compileTestPlan validateHttpsUrl catalogue spec = .ok plan →
      (∀ testCase ∈ plan.testCases, testCase.executionSteps = []) →
      compiledPlanToManifest requests plan = .ok manifest →
      (compiledPlanStepsSnapshot requests plan).map RunPlanStep.stepKey =
        (manifest.steps.filter fun step =>
          step.id ∈ (TestPlan.defaultPlanFromManifest manifest).selectedStepIds).map
            V1Step.stepKey := by
  intro hall
  obtain ⟨plan, hplan, hcheck⟩ := exists_ok_of_any (x := consentTemplatePlan none)
    (p := fun plan => (plan.testCases.all fun testCase => testCase.executionSteps = []) &&
      (compiledPlanToManifest verbatimRequests plan).toOption.any fun manifest =>
        (compiledPlanStepsSnapshot verbatimRequests plan).map RunPlanStep.stepKey ≠
          (manifest.steps.filter fun step =>
            step.id ∈ (TestPlan.defaultPlanFromManifest manifest).selectedStepIds).map
              V1Step.stepKey) (by decide +kernel)
  rw [Bool.and_eq_true] at hcheck
  obtain ⟨manifest, hmanifest, hne⟩ := exists_ok_of_any hcheck.2
  exact of_decide_eq_true hne (hall verbatimParsers verbatimRequests _ _ _ plan manifest hplan
    (by simpa using hcheck.1) hmanifest)

end Conformance
