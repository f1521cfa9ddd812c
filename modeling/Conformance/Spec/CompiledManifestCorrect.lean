import Conformance.Native.PlannedSteps
import Conformance.Native.TestPlan

/-!
# The steps of the synthetic manifest

What `_compiled_plan_to_manifest` emits, as a list of keys (id, kind, `mandatory`
flag) that no longer mentions how requests are built. All of its steps are in the
default plan, so the executor runs every one of them.

## Key results

- `compiledPlanToManifest_ok`: the emitted steps, in order
- `selectedStepIds_defaultPlan`: the default plan of the manifest selects them all
-/

namespace Conformance

open Except PlannedSteps

variable {p : FieldParsers} {requests : CatalogueRequests p}

/-- What a planned row and a manifest step are compared by. -/
abbrev StepKey := String × String × Bool

/-- The id, the kind and the `mandatory` flag of a manifest step. -/
def V1Step.stepKey (step : V1Step p) : StepKey := (step.id, manifestStepKind step, step.mandatory)

/-- The keys of the authorisation and token exchange steps of one consent. -/
def authorizationKeys (authorizationStepId tokenStepId : String) : List StepKey :=
  [(authorizationStepId, "psu-authorization", true), (tokenStepId, "http", true)]

/-- The keys of the steps inserted after a request step. -/
def inlineKeys (plan : CompiledTestPlan) (requestStep : CatalogueRequestStep) : List StepKey :=
  if requestStep.stepId = cbpiiConsentCreateStepId then
    if compiledPlanRequiresCbpiiConsentAuthorization plan then
      authorizationKeys cbpiiAuthorizationStepId cbpiiAuthorizationTokenStepId
    else []
  else
    match requestStep.psuAuthorization with
    | some metadata =>
      if compiledPlanRequiresPisConsentAuthorization plan requestStep then
        authorizationKeys metadata.authorizationStepId metadata.tokenStepId
      else vrpKeys
    | none => vrpKeys
where
  /-- The keys of the steps inserted after a VRP consent request. -/
  vrpKeys : List StepKey :=
    if requestStep.stepId ∈ vrpConsentAuthorizationStepIds ∧
        compiledPlanRequiresVrpConsentAuthorization plan requestStep.stepId = true then
      authorizationKeys (vrpAuthorizationStepId requestStep.stepId)
        (vrpAuthorizationTokenStepId requestStep.stepId)
    else []

/-- The keys of the consent steps of one AIS permission profile. -/
def profileConsentKeys (profile : String) : List StepKey :=
  [(aisProfileConsentStepId profile, "http", true),
    (aisProfileAuthorizationStepId profile, "psu-authorization", true)]

/-- The key of the token step of one AIS permission profile. -/
def profileTokenKey (profile : String) : StepKey := (aisProfileTokenStepId profile, "http", true)

/-- Whether a request step is one of the two AIS templates. -/
def CatalogueRequestStep.IsAisTemplate (requestStep : CatalogueRequestStep) : Prop :=
  requestStep.stepId = aisConsentCreateStepId ∨ requestStep.stepId = aisAccountAccessTokenStepId

instance (requestStep : CatalogueRequestStep) : Decidable requestStep.IsAisTemplate :=
  inferInstanceAs (Decidable (_ ∨ _))

/-- The keys of the steps that a request step expands to. -/
def manifestKeys (plan : CompiledTestPlan) (testCase : CatalogueTestCase)
    (requestStep : CatalogueRequestStep) : List StepKey :=
  if requestStep.stepId = aisConsentCreateStepId then
    (compiledPlanAisPermissionProfiles plan).flatMap profileConsentKeys
  else if requestStep.stepId = aisAccountAccessTokenStepId then
    (compiledPlanAisPermissionProfiles plan).map profileTokenKey
  else (requestStep.stepId, "http", testCase.mandatory) :: inlineKeys plan requestStep

/-- The tokens that a setup step acquires: required, produced by no step, with a known scope. -/
def setupTokenIds (plan : CompiledTestPlan) : List String :=
  (requiredTokenIds plan).filter fun tokenId =>
    tokenId ∉ producedTokenIds plan && (catalogueTokenScopes.lookup tokenId).isSome

/-- The key of the setup step of a token. -/
def tokenSetupKey (tokenId : String) : StepKey := (tokenSetupStepId tokenId, "http", true)

/-! ## Synthetic steps -/

/-- The keys of the token steps of a plan. -/
theorem catalogueSyntheticTokenSteps_keys (requests : CatalogueRequests p)
    (plan : CompiledTestPlan) :
    (catalogueSyntheticTokenSteps requests plan).map (fun step => (V1Step.http step).stepKey) =
      (setupTokenIds plan).map tokenSetupKey := by
  unfold catalogueSyntheticTokenSteps setupTokenIds
  induction requiredTokenIds plan with
  | nil => rfl
  | cons tokenId rest ih =>
    rw [List.filterMap_cons, List.filter_cons]
    by_cases hproduced : tokenId ∈ producedTokenIds plan
    · simpa [hproduced] using ih
    · cases hscope : catalogueTokenScopes.lookup tokenId with
      | none => simpa [hproduced, hscope] using ih
      | some scope =>
        simp only [hproduced, if_false, Option.map_some, not_false_eq_true,
          decide_true, Option.isSome_some, Bool.and_self, if_true, List.map_cons, ih]
        rfl

/-- The keys of the authorization steps before a VRP request. -/
private theorem vrpInlineAuthorizationSteps_keys (requests : CatalogueRequests p)
    (plan : CompiledTestPlan) (requestStep : CatalogueRequestStep) :
    (vrpInlineAuthorizationSteps requests plan requestStep).map V1Step.stepKey =
      inlineKeys.vrpKeys plan requestStep := by
  unfold vrpInlineAuthorizationSteps inlineKeys.vrpKeys
  by_cases hid : requestStep.stepId ∈ vrpConsentAuthorizationStepIds
  · by_cases hrequires : compiledPlanRequiresVrpConsentAuthorization plan requestStep.stepId = true
    · simp only [hid, hrequires, not_true, if_false, if_true, and_self]
      rfl
    · simp [hid, hrequires]
  · simp [hid]

/-- The keys of the inline steps before a request. -/
theorem compiledPlanSyntheticInlineSteps_keys (requests : CatalogueRequests p)
    (plan : CompiledTestPlan) (requestStep : CatalogueRequestStep) :
    (compiledPlanSyntheticInlineSteps requests plan requestStep).map V1Step.stepKey =
      inlineKeys plan requestStep := by
  unfold compiledPlanSyntheticInlineSteps catalogueInlineAuthorizationSteps inlineKeys
  have hvrp := vrpInlineAuthorizationSteps_keys requests plan requestStep
  by_cases hcbpii : requestStep.stepId = cbpiiConsentCreateStepId
  · rw [if_neg (not_not_intro hcbpii), if_pos hcbpii]
    split
    · rfl
    · rfl
  · rw [if_pos hcbpii, if_neg hcbpii]
    cases hpsu : requestStep.psuAuthorization with
    | none => simpa [pisInlineAuthorizationSteps, hpsu] using hvrp
    | some metadata =>
      by_cases hrequires : compiledPlanRequiresPisConsentAuthorization plan requestStep = true
      · simp only [pisInlineAuthorizationSteps, hpsu, hrequires, if_true]
        rfl
      · simpa [pisInlineAuthorizationSteps, hpsu, hrequires] using hvrp

/-- Synthetic inline steps are not optional. -/
private theorem inline_not_optional {plan : CompiledTestPlan}
    {requestStep : CatalogueRequestStep} {step : V1Step p}
    (hmem : step ∈ compiledPlanSyntheticInlineSteps requests plan requestStep) :
    step.optional = false := by
  unfold compiledPlanSyntheticInlineSteps catalogueInlineAuthorizationSteps
    pisInlineAuthorizationSteps vrpInlineAuthorizationSteps at hmem
  grind [V1Step.optional, cbpiiPsuAuthorizationStep, cbpiiAuthorizationCodeTokenStep,
    pisPsuAuthorizationStep, pisAuthorizationCodeTokenStep, vrpPsuAuthorizationStep,
    vrpAuthorizationCodeTokenStep, psuAuthorizationStep, tokenStep]

/-! ## Request steps -/

/-- What the AIS consent template expands to. -/
private theorem consentFlows_ok {testCase : CatalogueTestCase}
    {requestStep : CatalogueRequestStep} {profiles : List String}
    {flows : List (List (V1Step p))}
    (h : (profiles.mapM fun profile => do
      let consentStep ← aisProfileConsentStep requests testCase requestStep profile
      return [V1Step.http consentStep,
        .psuAuthorization (aisPsuAuthorizationStep requests profile)]) = .ok flows) :
    flows.flatten.map V1Step.stepKey = profiles.flatMap profileConsentKeys ∧
      ∀ step ∈ flows.flatten, step.optional = false := by
  rw [List.mapM_eq_ok] at h
  induction h with
  | nil => exact ⟨rfl, by simp⟩
  | cons hflow _ ih =>
    obtain ⟨consentStep, hstep, hflow⟩ := bind_eq_ok.mp hflow
    obtain ⟨request, -, hstep⟩ := bind_eq_ok.mp hstep
    obtain rfl := Except.ok.inj hstep
    obtain rfl := Except.ok.inj hflow
    refine ⟨?_, ?_⟩
    · rw [List.flatten_cons, List.map_append, ih.1, List.flatMap_cons]
      rfl
    · intro step hmem
      rw [List.flatten_cons, List.mem_append] at hmem
      rcases hmem with hmem | hmem
      · simp only [List.mem_cons, List.not_mem_nil, or_false] at hmem
        rcases hmem with rfl | rfl <;> rfl
      · exact ih.2 step hmem

/-- What one request step expands to: the keys, and that no step is optional. -/
theorem manifestStepsOfRequestStep_ok {plan : CompiledTestPlan} {testCase : CatalogueTestCase}
    {requestStep : CatalogueRequestStep} {steps : List (V1Step p)}
    (h : manifestStepsOfRequestStep requests plan testCase requestStep = .ok steps) :
    steps.map V1Step.stepKey = manifestKeys plan testCase requestStep ∧
      ∀ step ∈ steps, step.optional = false := by
  unfold manifestStepsOfRequestStep at h
  unfold manifestKeys
  split at h
  · rename_i hconsent
    rw [if_pos hconsent]
    obtain ⟨flows, hflows, hsteps⟩ := bind_eq_ok.mp h
    obtain rfl := Except.ok.inj hsteps
    -- a consent becomes one flow for each permission profile
    exact consentFlows_ok hflows
  · rename_i hconsent
    rw [if_neg hconsent]
    split at h
    · rename_i htoken
      rw [if_pos htoken]
      obtain rfl := Except.ok.inj h
      refine ⟨by rw [List.map_map]; rfl, ?_⟩
      intro step hmem
      obtain ⟨profile, -, rfl⟩ := List.mem_map.mp hmem
      rfl
    · rename_i htoken
      rw [if_neg htoken]
      obtain ⟨manifestStep, hstep, hsteps⟩ := bind_eq_ok.mp h
      obtain rfl := Except.ok.inj hsteps
      obtain ⟨request, -, hstep⟩ := bind_eq_ok.mp hstep
      obtain ⟨assertions, -, hstep⟩ := bind_eq_ok.mp hstep
      obtain rfl := Except.ok.inj hstep
      refine ⟨?_, ?_⟩
      · rw [List.map_cons, compiledPlanSyntheticInlineSteps_keys]
        rfl
      · intro step hmem
        rcases List.mem_cons.mp hmem with rfl | hmem
        · rfl
        · exact inline_not_optional hmem

/-! ## The manifest -/

/-- The keys of all steps of the synthetic manifest, in order. -/
def planKeys (plan : CompiledTestPlan) : List StepKey :=
  (setupTokenIds plan).map tokenSetupKey ++
    plan.testCases.flatMap fun testCase =>
      testCase.requestSteps.flatMap (manifestKeys plan testCase)

/-- The steps that the cases of a plan expand to. -/
private theorem expanded_ok {plan : CompiledTestPlan} {testCases : List CatalogueTestCase}
    {expanded : List (List (V1Step p))}
    (h : (testCases.mapM fun testCase => do
      let steps ← testCase.requestSteps.mapM (manifestStepsOfRequestStep requests plan testCase)
      return steps.flatten) = .ok expanded) :
    expanded.flatten.map V1Step.stepKey = (testCases.flatMap fun testCase =>
      testCase.requestSteps.flatMap (manifestKeys plan testCase)) ∧
    ∀ step ∈ expanded.flatten, step.optional = false := by
  rw [List.mapM_eq_ok] at h
  induction h with
  | nil => exact ⟨rfl, by simp⟩
  | @cons testCase steps _ _ hcase _ ih =>
    obtain ⟨flows, hflows, hsteps⟩ := bind_eq_ok.mp hcase
    obtain rfl := Except.ok.inj hsteps
    rw [List.mapM_eq_ok] at hflows
    have hkeys : flows.flatten.map V1Step.stepKey =
        testCase.requestSteps.flatMap (manifestKeys plan testCase) := by
      rw [List.map_flatten, List.flatMap_def]
      exact congrArg List.flatten
        (hflows.flip.map_eq fun _ _ hok => (manifestStepsOfRequestStep_ok hok).1)
    refine ⟨?_, ?_⟩
    · rw [List.flatten_cons, List.map_append, ih.1, hkeys, List.flatMap_cons]
    · intro step hmem
      rw [List.flatten_cons, List.mem_append] at hmem
      rcases hmem with hmem | hmem
      · obtain ⟨flow, hflow, hstep⟩ := List.mem_flatten.mp hmem
        obtain ⟨requestStep, -, hok⟩ := List.Forall₂.exists_of_mem_right hflows hflow
        exact (manifestStepsOfRequestStep_ok hok).2 step hstep
      · exact ih.2 step hmem

/-- The steps of the synthetic manifest, and that none of them is optional. -/
theorem compiledPlanToManifest_ok {plan : CompiledTestPlan} {manifest : Manifest p}
    (h : compiledPlanToManifest requests plan = .ok manifest) :
    manifest.schemaVersion = .v1 ∧ manifest.steps.map V1Step.stepKey = planKeys plan ∧
      ∀ step ∈ manifest.steps, step.optional = false := by
  obtain ⟨expanded, hexpanded, hmanifest⟩ := bind_eq_ok.mp h
  obtain rfl := Except.ok.inj hmanifest
  obtain ⟨hkeys, hoptional⟩ := expanded_ok hexpanded
  refine ⟨rfl, ?_, ?_⟩
  · rw [List.map_append, hkeys, List.map_map]
    exact congrArg (· ++ _) (catalogueSyntheticTokenSteps_keys requests plan)
  · intro step hmem
    rcases List.mem_append.mp hmem with hmem | hmem
    · obtain ⟨tokenStep, htoken, rfl⟩ := List.mem_map.mp hmem
      obtain ⟨tokenId, -, hstep⟩ := List.mem_filterMap.mp htoken
      rw [Option.ite_none_left_eq_some, Option.map_eq_some_iff] at hstep
      obtain ⟨-, scope, -, rfl⟩ := hstep
      rfl
    · exact hoptional step hmem

/-- The default plan of a manifest without optional steps selects every step. -/
theorem selectedStepIds_defaultPlan {manifest : Manifest p} (hv1 : manifest.schemaVersion = .v1)
    (hoptional : ∀ step ∈ manifest.steps, step.optional = false) :
    (TestPlan.defaultPlanFromManifest manifest).selectedStepIds = manifest.steps.map V1Step.id := by
  unfold TestPlan.defaultPlanFromManifest TestPlan.selectedStepIds
  rw [if_neg (not_not_intro hv1), List.filter_map, List.map_map, List.filter_eq_self.mpr]
  · rfl
  · intro step hstep
    simp [hoptional step hstep]

end Conformance
