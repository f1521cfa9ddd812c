import Conformance.Native.CompiledRun
import Conformance.Native.PlanDocument
import Conformance.Spec.CertificationAgreement
import Conformance.Spec.PlannedStepsAgree
import Mathlib.Data.List.Pairwise
import Mathlib.Data.List.Perm.Basic

/-!
# Submitting the report of a compiled plan

A report is accepted for certification only if its step names are distinct and not
blank once stripped. The compiler makes test-case ids unique, not the ids of request
steps, and the synthetic manifest is built without the uniqueness check that
`parse_manifest` makes, so acceptance is a property of the ids that a plan declares.

## Key results

- `planIds_iff`: the ids of the synthetic manifest, in terms of the declared ids
- `parseSubmittedReport_iff`: which reports are accepted
- `runCompiledTestPlan_submittable_iff`: which compiled plans give such reports
-/

namespace Conformance

open Except PlannedSteps CertificationValidator

/-! ## Where the step ids come from -/

/-- Whether the PSU metadata of a step become steps of the manifest. -/
def usesPsuMetadata (plan : CompiledTestPlan) (requestStep : CatalogueRequestStep) : Bool :=
  requestStep.stepId ≠ cbpiiConsentCreateStepId && requestStep.psuAuthorization.isSome &&
    compiledPlanRequiresPisConsentAuthorization plan requestStep

/-- The ids that the catalogue gives for a request step: its own, and those of its PSU
    authorisation flow when that is needed. A template has none. -/
def declaredIds (plan : CompiledTestPlan) (requestStep : CatalogueRequestStep) : List String :=
  if requestStep.IsAisTemplate then []
  else requestStep.stepId ::
    if usesPsuMetadata plan requestStep then
      requestStep.psuAuthorization.toList.flatMap fun metadata =>
        [metadata.authorizationStepId, metadata.tokenStepId]
    else []

/-- The ids that an AIS template stands for. -/
def templateIds (plan : CompiledTestPlan) (stepId : String) : List String :=
  if stepId = aisConsentCreateStepId then
    (compiledPlanAisPermissionProfiles plan).flatMap fun profile =>
      [aisProfileConsentStepId profile, aisProfileAuthorizationStepId profile]
  else if stepId = aisAccountAccessTokenStepId then
    (compiledPlanAisPermissionProfiles plan).map aisProfileTokenStepId
  else []

/-- The ids reserved for the flow after a CBPII or VRP consent request. -/
def consentFlowIds (stepId : String) : List String :=
  if stepId = cbpiiConsentCreateStepId then
    [cbpiiAuthorizationStepId, cbpiiAuthorizationTokenStepId]
  else if stepId ∈ vrpConsentAuthorizationStepIds then
    [vrpAuthorizationStepId stepId, vrpAuthorizationTokenStepId stepId]
  else []

/-- Whether the flow after a CBPII or VRP consent request is inserted. -/
def needsConsentFlow (plan : CompiledTestPlan) (requestStep : CatalogueRequestStep) : Bool :=
  if requestStep.stepId = cbpiiConsentCreateStepId then
    compiledPlanRequiresCbpiiConsentAuthorization plan
  else !usesPsuMetadata plan requestStep &&
    compiledPlanRequiresVrpConsentAuthorization plan requestStep.stepId

/-- The reserved ids of the flow that is inserted after a request step. -/
def insertedIds (plan : CompiledTestPlan) (requestStep : CatalogueRequestStep) : List String :=
  if requestStep.IsAisTemplate then []
  else if needsConsentFlow plan requestStep then consentFlowIds requestStep.stepId
  else []

/-- The ids of the steps that a request step expands to, by origin. -/
theorem manifestKeys_ids (plan : CompiledTestPlan) (testCase : CatalogueTestCase)
    (requestStep : CatalogueRequestStep) :
    (manifestKeys plan testCase requestStep).map Prod.fst =
      templateIds plan requestStep.stepId ++
        (declaredIds plan requestStep ++ insertedIds plan requestStep) := by
  unfold manifestKeys templateIds declaredIds insertedIds
  by_cases hconsent : requestStep.stepId = aisConsentCreateStepId
  · have htemplate : requestStep.IsAisTemplate := .inl hconsent
    simp only [if_pos hconsent, if_pos htemplate, List.map_flatMap, List.append_nil]
    rfl
  · by_cases htoken : requestStep.stepId = aisAccountAccessTokenStepId
    · have htemplate : requestStep.IsAisTemplate := .inr htoken
      simp only [if_neg hconsent, if_pos htoken, if_pos htemplate, List.map_map, List.append_nil]
      rfl
    · have htemplate : ¬ requestStep.IsAisTemplate := fun h => h.elim hconsent htoken
      simp only [if_neg hconsent, if_neg htoken, if_neg htemplate, List.nil_append, List.map_cons,
        List.cons_append]
      refine congrArg _ ?_
      unfold inlineKeys inlineKeys.vrpKeys needsConsentFlow consentFlowIds usesPsuMetadata
      by_cases hcbpii : requestStep.stepId = cbpiiConsentCreateStepId
      · by_cases hrequires : compiledPlanRequiresCbpiiConsentAuthorization plan = true <;>
          simp [hcbpii, hrequires, authorizationKeys]
      · cases hpsu : requestStep.psuAuthorization with
        | none =>
          by_cases hvrp : requestStep.stepId ∈ vrpConsentAuthorizationStepIds <;>
            by_cases hrequires : compiledPlanRequiresVrpConsentAuthorization plan
              requestStep.stepId = true <;>
            simp [hcbpii, hvrp, hrequires, authorizationKeys]
        | some metadata =>
          by_cases hpis : compiledPlanRequiresPisConsentAuthorization plan requestStep = true
          · simp [hcbpii, hpis, authorizationKeys]
          · by_cases hvrp : requestStep.stepId ∈ vrpConsentAuthorizationStepIds <;>
              by_cases hrequires : compiledPlanRequiresVrpConsentAuthorization plan
                requestStep.stepId = true <;>
              simp [hcbpii, hpis, hvrp, hrequires, authorizationKeys]

/-- The reserved ids that a plan uses: setup tokens, AIS profiles, CBPII and VRP flows. -/
def reservedIds (plan : CompiledTestPlan) : List String :=
  (setupTokenIds plan).map tokenSetupStepId ++
    (plan.requestSteps.flatMap (fun requestStep => templateIds plan requestStep.stepId) ++
      plan.requestSteps.flatMap (insertedIds plan))

/-- When the step ids of the synthetic manifest are distinct and not blank: so are the
    declared ids, none of them is a reserved id that the plan uses, and no AIS template
    that a permission profile needs is selected twice. -/
structure SubmittableIds (plan : CompiledTestPlan) : Prop where
  nodup : ((plan.requestSteps.flatMap (declaredIds plan)).map strip).Nodup
  not_blank : ∀ id ∈ plan.requestSteps.flatMap (declaredIds plan), strip id ≠ ""
  not_reserved : ∀ id ∈ plan.requestSteps.flatMap (declaredIds plan), strip id ∉ reservedIds plan
  templates : compiledPlanAisPermissionProfiles plan ≠ [] →
    ((plan.requestSteps.filter fun requestStep => requestStep.IsAisTemplate).map
      (·.stepId)).Nodup

instance (plan : CompiledTestPlan) : Decidable (SubmittableIds plan) :=
  decidable_of_iff
    (((plan.requestSteps.flatMap (declaredIds plan)).map strip).Nodup ∧
      (∀ id ∈ plan.requestSteps.flatMap (declaredIds plan), strip id ≠ "") ∧
      (∀ id ∈ plan.requestSteps.flatMap (declaredIds plan), strip id ∉ reservedIds plan) ∧
      (compiledPlanAisPermissionProfiles plan ≠ [] →
        ((plan.requestSteps.filter fun requestStep => requestStep.IsAisTemplate).map
          (·.stepId)).Nodup))
    ⟨fun h => ⟨h.1, h.2.1, h.2.2.1, h.2.2.2⟩,
      fun h => ⟨h.nodup, h.not_blank, h.not_reserved, h.templates⟩⟩

/-- The ids of the synthetic manifest, grouped by origin. -/
private theorem planIds_perm (plan : CompiledTestPlan) :
    ((planKeys plan).map Prod.fst).Perm
      (reservedIds plan ++ plan.requestSteps.flatMap (declaredIds plan)) := by
  have hkeys : (planKeys plan).map Prod.fst = (setupTokenIds plan).map tokenSetupStepId ++
      plan.requestSteps.flatMap fun requestStep => templateIds plan requestStep.stepId ++
        (declaredIds plan requestStep ++ insertedIds plan requestStep) := by
    rw [planKeys, List.map_append, List.map_map, CompiledTestPlan.requestSteps,
      List.flatMap_assoc, List.map_flatMap]
    simp only [List.map_flatMap, manifestKeys_ids]
    rfl
  rw [hkeys, reservedIds, List.append_assoc, List.append_assoc]
  refine List.Perm.append_left _ ?_
  refine (List.flatMap_append_perm plan.requestSteps _ _).symm.trans ?_
  refine List.Perm.append_left _ ?_
  exact (List.flatMap_append_perm plan.requestSteps _ _).symm.trans List.perm_append_comm

/-! ## Reserved ids -/

/-- The requests that a reserved flow may follow. -/
def consentFlowStepIds : List String := cbpiiConsentCreateStepId :: vrpConsentAuthorizationStepIds

/-- The ids that the executor reserves: token setup, AIS profiles, CBPII and VRP flows. -/
def reservedIdTable : List (List String) :=
  [["setup-token-ais-client-credentials", "setup-token-cbpii-client-credentials",
      "setup-token-pis-payment-access", "setup-token-vrp-payment-access"],
    ["ais-at-setup-basic-consent-request", "setup-ais-basic-consent-authorisation",
      "ais-at-setup-basic-token-request", "ais-at-setup-detail-consent-request",
      "setup-ais-detail-consent-authorisation", "ais-at-setup-detail-token-request"],
    ["setup-cbpii-consent-authorisation", "setup-token-cbpii-funds-confirmation",
      "vrp-consent-create-awaiting-authorisation-v31-pre-3111-authorisation",
      "vrp-consent-create-awaiting-authorisation-v31-pre-3111-psu-payment-token",
      "vrp-consent-create-awaiting-authorisation-v31-3111-authorisation",
      "vrp-consent-create-awaiting-authorisation-v31-3111-psu-payment-token",
      "vrp-consent-create-awaiting-authorisation-v4-authorisation",
      "vrp-consent-create-awaiting-authorisation-v4-psu-payment-token",
      "cvrp-consent-create-awaiting-authorisation-v4-authorisation",
      "cvrp-consent-create-awaiting-authorisation-v4-psu-payment-token"]]

/-- Where the reserved ids come from. -/
private theorem reservedIdTable_eq : reservedIdTable =
    [catalogueTokenScopes.map fun entry => tokenSetupStepId entry.1,
      aisPermissionProfileTokenIds.flatMap fun entry =>
        [aisProfileConsentStepId entry.1, aisProfileAuthorizationStepId entry.1,
          aisProfileTokenStepId entry.1],
      consentFlowStepIds.flatMap consentFlowIds] := by
  decide +kernel

private theorem reservedIdTable_nodup : reservedIdTable.flatten.Nodup := by
  decide +kernel

/-- The reserved ids have no blank at either end. -/
private theorem reservedIdTable_stripped : ∀ id ∈ reservedIdTable.flatten, Stripped id := by
  simp only [reservedIdTable, List.flatten_cons, List.flatten_nil, List.append_nil,
    List.cons_append, List.nil_append, List.forall_mem_cons]
  repeat' apply And.intro
  all_goals first
    | exact ⟨strip_ofList_eq_self (by decide) (by decide) (by decide), by decide⟩
    | exact fun _ h => absurd h List.not_mem_nil

/-- The permission profiles that a plan can need. -/
private theorem aisPermissionProfiles_mem (plan : CompiledTestPlan) :
    compiledPlanAisPermissionProfiles plan ∈ [[], ["basic"], ["detail"], ["basic", "detail"]] := by
  unfold compiledPlanAisPermissionProfiles aisPermissionProfileTokenIds
  simp only [List.filter_cons, List.filter_nil]
  split <;> split <;> decide

/-- The three parts of the reserved ids that a plan uses are ids of the table. -/
private theorem reservedIds_mem (plan : CompiledTestPlan) :
    (∀ id ∈ (setupTokenIds plan).map tokenSetupStepId, id ∈ reservedIdTable[0]) ∧
    (∀ stepId, ∀ id ∈ templateIds plan stepId, id ∈ reservedIdTable[1]) ∧
    (∀ stepId, ∀ id ∈ consentFlowIds stepId, id ∈ reservedIdTable[2]) := by
  simp only [reservedIdTable_eq, List.getElem_cons_zero, List.getElem_cons_succ]
  refine ⟨?_, ?_, ?_⟩
  · intro id hid
    obtain ⟨tokenId, htoken, rfl⟩ := List.mem_map.mp hid
    have hscope := (Bool.and_eq_true _ _ ▸ (List.mem_filter.mp htoken).2).2
    obtain ⟨scope, hscope⟩ := Option.isSome_iff_exists.mp hscope
    obtain ⟨before, after, htable, -⟩ := List.lookup_eq_some_iff.mp hscope
    exact List.mem_map.mpr ⟨(tokenId, scope), htable ▸ by simp, rfl⟩
  · intro stepId id hid
    have hprofiles : ∀ profile ∈ compiledPlanAisPermissionProfiles plan,
        ∃ entry ∈ aisPermissionProfileTokenIds, entry.1 = profile := by
      intro profile hprofile
      obtain ⟨entry, hentry, rfl⟩ := List.mem_map.mp hprofile
      exact ⟨entry, List.mem_of_mem_filter hentry, rfl⟩
    unfold templateIds at hid
    split at hid
    · obtain ⟨profile, hprofile, hid⟩ := List.mem_flatMap.mp hid
      obtain ⟨entry, hentry, rfl⟩ := hprofiles profile hprofile
      refine List.mem_flatMap.mpr ⟨entry, hentry, ?_⟩
      simp only [List.mem_cons, List.not_mem_nil, or_false] at hid ⊢
      exact hid.imp_right .inl
    · split at hid
      · obtain ⟨profile, hprofile, rfl⟩ := List.mem_map.mp hid
        obtain ⟨entry, hentry, rfl⟩ := hprofiles profile hprofile
        exact List.mem_flatMap.mpr ⟨entry, hentry, by simp⟩
      · exact absurd hid List.not_mem_nil
  · intro stepId id hid
    refine List.mem_flatMap.mpr ⟨stepId, ?_, hid⟩
    unfold consentFlowIds at hid
    split at hid
    · rename_i hcbpii
      exact hcbpii ▸ List.mem_cons_self
    · split at hid
      · rename_i hvrp
        exact List.mem_cons_of_mem _ hvrp
      · exact absurd hid List.not_mem_nil

/-- The reserved ids that a plan uses are stripped. -/
private theorem reservedIds_stripped {plan : CompiledTestPlan} {id : String}
    (hid : id ∈ reservedIds plan) : Stripped id := by
  obtain ⟨hsetup, htemplate, hflow⟩ := reservedIds_mem plan
  refine reservedIdTable_stripped id ?_
  rw [reservedIds, List.mem_append, List.mem_append, List.mem_flatMap, List.mem_flatMap] at hid
  rcases hid with hid | ⟨requestStep, -, hid⟩ | ⟨requestStep, -, hid⟩
  · exact List.mem_flatten_of_mem (List.getElem_mem _) (hsetup id hid)
  · exact List.mem_flatten_of_mem (List.getElem_mem _) (htemplate _ id hid)
  · unfold insertedIds at hid
    split at hid
    · exact absurd hid List.not_mem_nil
    · split at hid
      · exact List.mem_flatten_of_mem (List.getElem_mem _) (hflow _ id hid)
      · exact absurd hid List.not_mem_nil

/-! ## When the ids are distinct -/

/-- No setup step is planned twice. -/
private theorem setupIds_nodup (plan : CompiledTestPlan) :
    ((setupTokenIds plan).map tokenSetupStepId).Nodup := by
  have hrequired : (requiredTokenIds plan).Nodup := by
    refine List.foldlRecOn plan.requestSteps _ List.nodup_nil ?_
    intro tokenIds hnodup requestStep _
    split
    · split
      · exact hnodup
      · rename_i hfresh
        exact List.nodup_append.mpr ⟨hnodup, List.nodup_singleton _, by grind⟩
    · exact hnodup
  refine (hrequired.filter _).map ?_
  intro a b hab
  simpa [tokenSetupStepId] using hab

/-- What the two templates stand for, by the profiles that are needed. -/
private theorem templateIds_spec (plan : CompiledTestPlan) :
    (∀ stepId ∈ [aisConsentCreateStepId, aisAccountAccessTokenStepId],
      (templateIds plan stepId).Nodup ∧
      (templateIds plan stepId = [] ↔ compiledPlanAisPermissionProfiles plan = [])) ∧
    ∀ id ∈ templateIds plan aisConsentCreateStepId,
      id ∉ templateIds plan aisAccountAccessTokenStepId := by
  have hmem := aisPermissionProfiles_mem plan
  unfold templateIds
  generalize compiledPlanAisPermissionProfiles plan = profiles at hmem
  simp only [List.mem_cons, List.not_mem_nil, or_false] at hmem
  rcases hmem with rfl | rfl | rfl | rfl <;> decide +kernel

/-- The template part repeats no id exactly when no needed template is selected twice. -/
private theorem templatePart_nodup_iff (plan : CompiledTestPlan) :
    (plan.requestSteps.flatMap fun requestStep => templateIds plan requestStep.stepId).Nodup ↔
      (compiledPlanAisPermissionProfiles plan ≠ [] →
        ((plan.requestSteps.filter fun requestStep => requestStep.IsAisTemplate).map
          (·.stepId)).Nodup) := by
  have hfilter : (plan.requestSteps.flatMap fun requestStep =>
      templateIds plan requestStep.stepId) =
      ((plan.requestSteps.filter fun requestStep => requestStep.IsAisTemplate).map
        (·.stepId)).flatMap (templateIds plan) := by
    rw [List.flatMap_map]
    induction plan.requestSteps with
    | nil => rfl
    | cons requestStep rest ih =>
      by_cases htemplate : requestStep.IsAisTemplate
      · rw [List.flatMap_cons, List.filter_cons_of_pos (by simpa using htemplate),
          List.flatMap_cons, ih]
      · have hnil : templateIds plan requestStep.stepId = [] := by
          rw [templateIds, if_neg fun h => htemplate (.inl h), if_neg fun h => htemplate (.inr h)]
        rw [List.flatMap_cons, List.filter_cons_of_neg (by simpa using htemplate), ih, hnil,
          List.nil_append]
  obtain ⟨hspec, hdisjoint⟩ := templateIds_spec plan
  have hids : ∀ stepId ∈ (plan.requestSteps.filter fun requestStep =>
      requestStep.IsAisTemplate).map (·.stepId),
      stepId = aisConsentCreateStepId ∨ stepId = aisAccountAccessTokenStepId := by
    intro stepId hstepId
    obtain ⟨requestStep, hmem, rfl⟩ := List.mem_map.mp hstepId
    exact of_decide_eq_true (List.mem_filter.mp hmem).2
  rw [hfilter]
  generalize (plan.requestSteps.filter fun requestStep => requestStep.IsAisTemplate).map
    (·.stepId) = stepIds at hids
  have hspec' : ∀ stepId ∈ stepIds, (templateIds plan stepId).Nodup ∧
      (templateIds plan stepId = [] ↔ compiledPlanAisPermissionProfiles plan = []) := by
    intro stepId hstepId
    exact hspec stepId (by simpa using hids stepId hstepId)
  constructor
  · intro hnodup hprofiles
    exact List.nodup_of_nodup_flatMap hnodup fun stepId hstepId hnil =>
      hprofiles ((hspec' stepId hstepId).2.mp hnil)
  · intro hnodup
    by_cases hprofiles : compiledPlanAisPermissionProfiles plan = []
    · rw [List.flatMap_eq_nil_iff.mpr fun stepId hstepId => (hspec' stepId hstepId).2.mpr hprofiles]
      exact List.nodup_nil
    · refine List.nodup_flatMap_of_disjoint (hnodup hprofiles)
        (fun stepId hstepId => (hspec' stepId hstepId).1) ?_
      intro a ha b hb hab
      rcases hids a ha with rfl | rfl <;> rcases hids b hb with rfl | rfl
      · exact absurd rfl hab
      · exact fun id hid hid' => hdisjoint id hid hid'
      · exact fun id hid hid' => hdisjoint id hid' hid
      · exact absurd rfl hab

/-- The flows of two consent requests have different ids. -/
private theorem consentFlowIds_spec : (∀ stepId, (consentFlowIds stepId).Nodup) ∧
    ∀ a b, a ≠ b → List.Disjoint (consentFlowIds a) (consentFlowIds b) := by
  have hmem : ∀ stepId, stepId ∉ consentFlowStepIds → consentFlowIds stepId = [] := by
    intro stepId hstepId
    rw [consentFlowStepIds, List.mem_cons, not_or] at hstepId
    rw [consentFlowIds, if_neg hstepId.1, if_neg hstepId.2]
  have htable : (consentFlowStepIds.flatMap consentFlowIds).Nodup := by
    have htable := reservedIdTable_nodup
    rw [reservedIdTable_eq, List.flatten_cons, List.flatten_cons, List.flatten_cons,
      List.flatten_nil, List.append_nil] at htable
    exact (List.nodup_append.mp (List.nodup_append.mp htable).2.1).2.1
  obtain ⟨hnodup, hpairwise⟩ := List.nodup_flatMap.mp htable
  refine ⟨fun stepId => ?_, fun a b hab => ?_⟩
  · by_cases hstepId : stepId ∈ consentFlowStepIds
    · exact hnodup stepId hstepId
    · rw [hmem stepId hstepId]
      exact List.nodup_nil
  · by_cases ha : a ∈ consentFlowStepIds
    · by_cases hb : b ∈ consentFlowStepIds
      · have : Std.Symm (Function.onFun List.Disjoint consentFlowIds) :=
          ⟨fun _ _ h => List.Disjoint.symm h⟩
        exact hpairwise.forall ha hb hab
      · rw [hmem b hb]
        exact List.disjoint_nil_right _
    · rw [hmem a ha]
      exact List.disjoint_nil_left _

/-- The flow part repeats no id when the declared ids are distinct. -/
private theorem flowPart_nodup {plan : CompiledTestPlan}
    (hdeclared : (plan.requestSteps.flatMap (declaredIds plan)).Nodup) :
    (plan.requestSteps.flatMap (insertedIds plan)).Nodup := by
  obtain ⟨hnodup, hdisjoint⟩ := consentFlowIds_spec
  obtain ⟨-, hpairwise⟩ := List.nodup_flatMap.mp hdeclared
  refine List.nodup_flatMap.mpr ⟨fun requestStep _ => ?_, hpairwise.imp ?_⟩
  · unfold insertedIds
    split
    · exact List.nodup_nil
    · split
      · exact hnodup _
      · exact List.nodup_nil
  · intro a b hab
    -- a step with a flow declares its own id, so the ids of two such steps differ
    have hmem : ∀ (requestStep : CatalogueRequestStep), ∀ id ∈ insertedIds plan requestStep,
        requestStep.stepId ∈ declaredIds plan requestStep ∧ id ∈ consentFlowIds requestStep.stepId := by
      intro requestStep id hid
      unfold insertedIds at hid
      split at hid
      · exact absurd hid List.not_mem_nil
      · rename_i htemplate
        split at hid
        · exact ⟨by rw [declaredIds, if_neg htemplate]; exact List.mem_cons_self, hid⟩
        · exact absurd hid List.not_mem_nil
    intro id hid hid'
    obtain ⟨ha, hida⟩ := hmem a id hid
    obtain ⟨hb, hidb⟩ := hmem b id hid'
    have hne : a.stepId ≠ b.stepId := by
      intro heq
      rw [← heq] at hb
      exact hab ha hb
    exact hdisjoint _ _ hne hida hidb

/-- The reserved part repeats no id exactly when no needed template is selected twice,
    provided the declared ids are distinct. -/
private theorem reservedIds_nodup_iff {plan : CompiledTestPlan}
    (hdeclared : (plan.requestSteps.flatMap (declaredIds plan)).Nodup) :
    (reservedIds plan).Nodup ↔ (compiledPlanAisPermissionProfiles plan ≠ [] →
      ((plan.requestSteps.filter fun requestStep => requestStep.IsAisTemplate).map
        (·.stepId)).Nodup) := by
  obtain ⟨hsetup, htemplate, hflow⟩ := reservedIds_mem plan
  have hflow' : ∀ id ∈ plan.requestSteps.flatMap (insertedIds plan), id ∈ reservedIdTable[2] := by
    intro id hid
    obtain ⟨requestStep, -, hid⟩ := List.mem_flatMap.mp hid
    unfold insertedIds at hid
    split at hid
    · exact absurd hid List.not_mem_nil
    · split at hid
      · exact hflow _ id hid
      · exact absurd hid List.not_mem_nil
  have htemplate' : ∀ id ∈ plan.requestSteps.flatMap fun requestStep =>
      templateIds plan requestStep.stepId, id ∈ reservedIdTable[1] := by
    intro id hid
    obtain ⟨requestStep, -, hid⟩ := List.mem_flatMap.mp hid
    exact htemplate _ id hid
  have htable : (reservedIdTable[0] ++ (reservedIdTable[1] ++ reservedIdTable[2])).Nodup :=
    reservedIdTable_nodup
  rw [List.nodup_append, List.nodup_append] at htable
  rw [reservedIds, List.nodup_append, List.nodup_append, ← templatePart_nodup_iff]
  constructor
  · exact fun h => h.2.1.1
  · intro htemplates
    refine ⟨setupIds_nodup plan, ⟨htemplates, flowPart_nodup hdeclared, ?_⟩, ?_⟩
    · intro a ha b hb
      exact htable.2.1.2.2 a (htemplate' a ha) b (hflow' b hb)
    · intro a ha b hb
      refine htable.2.2 a (hsetup a ha) b ?_
      rw [List.mem_append] at hb ⊢
      exact hb.imp (htemplate' b) (hflow' b)

/-- The ids of the synthetic manifest are distinct and not blank, once stripped, exactly
    when the declared ids leave room for the reserved ones. -/
theorem planIds_iff (plan : CompiledTestPlan) :
    ((∀ id ∈ (planKeys plan).map Prod.fst, strip id ≠ "") ∧
      (((planKeys plan).map Prod.fst).map strip).Nodup) ↔ SubmittableIds plan := by
  have hperm := planIds_perm plan
  have hreserved : (reservedIds plan).map strip = reservedIds plan := by
    rw [List.map_congr_left fun id hid => (reservedIds_stripped hid).strip_eq, List.map_id']
  rw [(hperm.map strip).nodup_iff, List.map_append, hreserved, List.nodup_append]
  constructor
  · rintro ⟨hblank, hnodup, hdeclared, hdistinct⟩
    exact {
      nodup := hdeclared
      not_blank := fun id hid => hblank id (hperm.mem_iff.mpr (List.mem_append_right _ hid))
      not_reserved := fun id hid hmem => hdistinct _ hmem _ (List.mem_map_of_mem hid) rfl
      templates := (reservedIds_nodup_iff hdeclared.of_map).mp hnodup }
  · intro hids
    refine ⟨fun id hid => ?_, (reservedIds_nodup_iff hids.nodup.of_map).mpr hids.templates,
      hids.nodup, ?_⟩
    · rcases List.mem_append.mp (hperm.mem_iff.mp hid) with hid | hid
      · rw [(reservedIds_stripped hid).strip_eq]
        exact (reservedIds_stripped hid).ne_empty
      · exact hids.not_blank id hid
    · rintro a ha b hb rfl
      obtain ⟨id, hid, rfl⟩ := List.mem_map.mp hb
      exact hids.not_reserved id hid ha

/-! ## Which reports are accepted -/

/-- A serialised step result is parsed when its stripped name is new and not empty. -/
private theorem parseReportStep_eq_ok_iff {repr : Json → String} {steps out : List ReportStep}
    {result : StepResult} {index : Nat} :
    parseReportStep repr steps (.obj result.toJsonObject, index) = .ok out ↔
      strip result.name ≠ "" ∧ strip result.name ∉ steps.map ReportStep.stepId ∧
        out = steps ++ [⟨strip result.name, result.status⟩] := by
  have hlookupName : result.toJsonObject.lookup "name" = some (.str result.name) := rfl
  have hlookupStatus : result.toJsonObject.lookup "status" = some (.str result.status.text) := rfl
  simp only [parseReportStep, asObject, requiredNonEmptyString, requiredField, hlookupName,
    requiredReportStepStatus_eq_ok hlookupStatus, bind, Except.bind, raiseIf]
  by_cases hblank : strip result.name = ""
  · simp [hblank, throw, throwThe, MonadExceptOf.throw]
  · by_cases hknown : strip result.name ∈ steps.map ReportStep.stepId
    · simp [hblank, hknown, pure, Except.pure]
    · simp only [hblank, hknown, if_false, pure, Except.pure, ne_eq, not_false_eq_true, true_and,
        Except.ok.injEq, eq_comm (a := out)]

/-- The serialised steps are parsed when their stripped names are distinct and not empty. -/
private theorem parseReportSteps_isOk_iff (repr : Json → String) (results : List StepResult) :
    (∃ steps, parseReportSteps repr (results.map fun result => .obj result.toJsonObject) =
        .ok steps) ↔
      (∀ result ∈ results, strip result.name ≠ "") ∧
        (results.map fun result => strip result.name).Nodup := by
  -- the loop has already parsed `done` when it reaches position `index`
  suffices ∀ (rest : List StepResult) (done : List ReportStep) (index : Nat),
      (done.map ReportStep.stepId).Nodup →
      ((∃ steps, ((rest.map fun result => Json.obj result.toJsonObject).zipIdx index).foldlM
        (parseReportStep repr) done = .ok steps) ↔
        (∀ result ∈ rest, strip result.name ≠ "") ∧
          (done.map ReportStep.stepId ++ rest.map fun result => strip result.name).Nodup) from
    this results [] 0 List.nodup_nil
  intro rest
  induction rest with
  | nil =>
    intro done index hdone
    simp [pure, Except.pure, hdone]
  | cons result rest ih =>
    intro done index hdone
    rw [List.map_cons, List.zipIdx_cons, List.foldlM_cons, List.map_cons, List.forall_mem_cons]
    cases hround : parseReportStep repr done (.obj result.toJsonObject, index) with
    | error e =>
      have hno : ¬ (strip result.name ≠ "" ∧
          strip result.name ∉ done.map ReportStep.stepId) := by
        rintro ⟨hblank, hfresh⟩
        rw [parseReportStep_eq_ok_iff.mpr ⟨hblank, hfresh, rfl⟩] at hround
        cases hround
      constructor
      · rintro ⟨steps, hsteps⟩
        cases hsteps
      · rintro ⟨⟨hblank, -⟩, hnodup⟩
        refine absurd ⟨hblank, fun hmem => ?_⟩ hno
        exact (List.nodup_append.mp hnodup).2.2 _ hmem _ List.mem_cons_self rfl
    | ok parsed =>
      obtain ⟨hblank, hfresh, rfl⟩ := parseReportStep_eq_ok_iff.mp hround
      have hdone' : ((done ++ [(⟨strip result.name, result.status⟩ : ReportStep)]).map
          ReportStep.stepId).Nodup := by
        rw [List.map_append]
        exact List.nodup_append.mpr ⟨hdone, List.nodup_singleton _, by grind⟩
      refine (ih _ (index + 1) hdone').trans ?_
      rw [List.map_append, List.append_assoc]
      simp [hblank]

/-- A report is accepted exactly when the stripped names of its steps are distinct and
    not empty. -/
theorem parseSubmittedReport_iff (render : CompiledTestPlan → List StepResult → JsonObject)
    (sources : VersionSources) (repr : Json → String) (result : SmokeCheckResult) :
    (∃ report, parseSubmittedReport repr (.obj (result.toJsonObject render sources)) =
        .ok report) ↔
      (∀ step ∈ result.steps, strip step.name ≠ "") ∧
        (result.steps.map fun step => strip step.name).Nodup := by
  rw [parseSubmittedReport_eq_map, ← parseReportSteps_isOk_iff repr]
  cases parseReportSteps repr (result.steps.map fun step => .obj step.toJsonObject) <;>
    simp [Except.map]

/-! ## Runs of a compiled plan -/

/-- A run of a compiled plan reports every step of its manifest. -/
private theorem runCompiledTestPlan_names {p : FieldParsers} {requests : CatalogueRequests p}
    {executor : StepExecutor p} {operations : DcrOperations} {plan : CompiledTestPlan}
    {approvedReleasePolicy : Option ApprovedReleasePolicy} {startedAt finishedAt : String}
    {manifest : Manifest p} {result : SmokeCheckResult} (hdcr : ¬ plan.catalogueKey.IsDcr)
    (hmanifest : compiledPlanToManifest requests plan = .ok manifest)
    (hrun : runCompiledTestPlan requests executor operations plan approvedReleasePolicy
      startedAt finishedAt = .ok result) :
    (result.steps.map StepResult.name).Perm (manifest.steps.map V1Step.id) := by
  obtain ⟨hv1, -, hoptional⟩ := compiledPlanToManifest_ok hmanifest
  rw [runCompiledTestPlan, hmanifest] at hrun
  simp only [bind, Except.bind, if_neg hdcr] at hrun
  obtain ⟨steps, hsteps, hresult⟩ := bind_eq_ok.mp hrun
  obtain rfl := Except.ok.inj hresult
  have hselected : (manifest.steps.filter fun step =>
      step.id ∈ (TestPlan.defaultPlanFromManifest manifest).selectedStepIds) = manifest.steps := by
    rw [selectedStepIds_defaultPlan hv1 hoptional, List.filter_eq_self]
    exact fun step hstep => decide_eq_true (List.mem_map_of_mem hstep)
  have hkeys := (executeSchedule_keys executor hsteps hv1).map Prod.fst
  rw [hselected, List.map_map, List.map_map] at hkeys
  have hnames : (attachCatalogueEvidenceToSteps steps plan).map StepResult.name =
      steps.map StepResult.name := by
    rw [attachCatalogueEvidenceToSteps, List.map_map]
    refine List.map_congr_left fun step _ => ?_
    rw [Function.comp_apply]
    split <;> rfl
  exact (List.Perm.of_eq hnames).trans hkeys

/-- The report of a compiled plan has distinct step names and is accepted for
    certification, and the manifest it was run from has distinct step ids, exactly when
    the ids that the plan declares are distinct, not blank and not reserved, and no AIS
    template that a permission profile needs is selected twice. -/
theorem runCompiledTestPlan_submittable_iff {p : FieldParsers} (requests : CatalogueRequests p)
    (executor : StepExecutor p) (operations : DcrOperations) (plan : CompiledTestPlan)
    (approvedReleasePolicy : Option ApprovedReleasePolicy) (startedAt finishedAt : String)
    (sources : VersionSources) (repr : Json → String) (manifest : Manifest p)
    (result : SmokeCheckResult) (hdcr : ¬ plan.catalogueKey.IsDcr)
    (hmanifest : compiledPlanToManifest requests plan = .ok manifest)
    (hrun : runCompiledTestPlan requests executor operations plan approvedReleasePolicy
      startedAt finishedAt = .ok result) :
    ((manifest.steps.map V1Step.id).Nodup ∧ (result.steps.map StepResult.name).Nodup ∧
      ∃ report, parseSubmittedReport repr
        (.obj (result.toJsonObject compiledPlanToJsonObject sources)) = .ok report) ↔
      SubmittableIds plan := by
  -- the results name the steps of the manifest, in some order
  have hperm := runCompiledTestPlan_names hdcr hmanifest hrun
  have hids : manifest.steps.map V1Step.id = (planKeys plan).map Prod.fst := by
    rw [← (compiledPlanToManifest_ok hmanifest).2.1, List.map_map]
    rfl
  have haccepted : (∃ report, parseSubmittedReport repr
      (.obj (result.toJsonObject compiledPlanToJsonObject sources)) = .ok report) ↔
      SubmittableIds plan := by
    rw [parseSubmittedReport_iff, ← planIds_iff, ← hids, ← (hperm.map strip).nodup_iff,
      List.map_map]
    refine and_congr ?_ Iff.rfl
    simp only [← hperm.mem_iff, List.forall_mem_map]
  rw [haccepted]
  refine ⟨fun h => h.2.2, fun h => ?_⟩
  have hnodup : (manifest.steps.map V1Step.id).Nodup := by
    rw [hids]
    exact (planIds_iff plan).mpr h |>.2.of_map
  exact ⟨hnodup, hperm.nodup_iff.mpr hnodup, h⟩

/-- Every operation of the adapter fails. -/
def failingOperations : DcrOperations where
  World := Unit
  ScenarioState := Unit
  newScenarioState := ()
  buildDcrMtlsClient := .ok ()
  executeStepInner _ _ state := (.ok ⟨false, "HTTP status 500", none, some 500, []⟩, state)
  bestEffortCleanup _ _ := ()

/-- A run of the plan in which every step fails. -/
def failingRun (plan : CompiledTestPlan) : Except PyError SmokeCheckResult :=
  runCompiledTestPlan verbatimRequests failingExecutor failingOperations plan none
    "2026-01-01T00:00:00+00:00" "2026-01-01T00:01:00+00:00"

/-- The report of the accounts plan is accepted, although all of its steps failed. -/
theorem runCompiledTestPlan_submittable_basic :
    ∃ plan manifest result, consentTemplatePlan (some "ais-account-access-basic") = .ok plan ∧
      compiledPlanToManifest verbatimRequests plan = .ok manifest ∧
      failingRun plan = .ok result ∧ (manifest.steps.map V1Step.id).Nodup ∧
      (result.steps.map StepResult.name).Nodup ∧
      ∃ report, parseSubmittedReport verbatimParsers.repr
        (.obj (result.toJsonObject compiledPlanToJsonObject ⟨some "2.0.0", none⟩)) =
          .ok report := by
  obtain ⟨plan, hplan, hcheck⟩ := exists_ok_of_any
    (x := consentTemplatePlan (some "ais-account-access-basic"))
    (p := fun plan => ¬ plan.catalogueKey.IsDcr && SubmittableIds plan &&
      (compiledPlanToManifest verbatimRequests plan).toOption.isSome &&
      (failingRun plan).toOption.isSome) (by decide +kernel)
  rw [Bool.and_eq_true, Bool.and_eq_true, Bool.and_eq_true] at hcheck
  obtain ⟨⟨⟨hdcr, hids⟩, hmanifest⟩, hrun⟩ := hcheck
  obtain ⟨manifest, hmanifest, -⟩ := exists_ok_of_any (p := fun _ => true)
    (x := compiledPlanToManifest verbatimRequests plan) (by simpa [Option.any_true] using hmanifest)
  obtain ⟨result, hrun, -⟩ := exists_ok_of_any (p := fun _ => true)
    (x := failingRun plan) (by simpa [Option.any_true] using hrun)
  exact ⟨plan, manifest, result, hplan, hmanifest, hrun,
    (runCompiledTestPlan_submittable_iff verbatimRequests failingExecutor failingOperations plan
      none _ _ _ _ manifest result (of_decide_eq_true hdcr) hmanifest hrun).mpr
      (of_decide_eq_true hids)⟩

/-- A catalogue with two cases, whose ids differ, over one request step id. -/
def sharedStepCatalogue : TestCatalogue where
  key := ⟨"open-banking", "v4.0", "ais"⟩
  catalogueVersion := "1.0"
  testCases := ["ais-accounts-json", "ais-accounts-headers"].map fun testCaseId =>
    { testCaseId := testCaseId
      mandatory := true
      applicability := {
        securityProfiles := ⟨[.all]⟩
        endpointRefs := [⟨.get, "/open-banking/v4.0/aisp/accounts"⟩] }
      requestSteps := [
        { stepId := "ais-accounts-request"
          name := "Read the accounts"
          method := .get
          path := "/open-banking/v4.0/aisp/accounts" }] }

/-- The report of two cases that share a request step id cannot be submitted. -/
theorem runCompiledTestPlan_sharedStep_fails :
    ¬ ∀ (p : FieldParsers) (requests : CatalogueRequests p) (executor : StepExecutor p)
      (operations : DcrOperations) (validateHttpsUrl : String → String → Except PyError Unit)
      (document : ParsedPlanDocument) (catalogues : List TestCatalogue) (plan : CompiledTestPlan)
      (approvedReleasePolicy : Option ApprovedReleasePolicy) (startedAt finishedAt : String)
      (sources : VersionSources) (repr : Json → String) (manifest : Manifest p)
      (result : SmokeCheckResult),
      compileTestPlanDocument validateHttpsUrl document catalogues = .ok plan →
      ¬ plan.catalogueKey.IsDcr →
      compiledPlanToManifest requests plan = .ok manifest →
      runCompiledTestPlan requests executor operations plan approvedReleasePolicy startedAt
        finishedAt = .ok result →
      (manifest.steps.map V1Step.id).Nodup ∧ (result.steps.map StepResult.name).Nodup ∧
        ∃ report, parseSubmittedReport repr
          (.obj (result.toJsonObject compiledPlanToJsonObject sources)) = .ok report := by
  intro hall
  obtain ⟨plan, hplan, hcheck⟩ := exists_ok_of_any
    (x := compileTestPlanDocument (fun _ _ => .ok ()) (.spec consentTemplateSpec)
      [sharedStepCatalogue])
    (p := fun plan => ¬ plan.catalogueKey.IsDcr &&
      ((compiledPlanToManifest verbatimRequests plan).toOption.any fun manifest =>
        ¬ (manifest.steps.map V1Step.id).Nodup) &&
      (failingRun plan).toOption.isSome) (by decide +kernel)
  rw [Bool.and_eq_true, Bool.and_eq_true] at hcheck
  obtain ⟨⟨hdcr, hmanifest⟩, hrun⟩ := hcheck
  obtain ⟨manifest, hmanifest, hnodup⟩ := exists_ok_of_any hmanifest
  obtain ⟨result, hrun, -⟩ := exists_ok_of_any (p := fun _ => true)
    (x := failingRun plan) (by simpa [Option.any_true] using hrun)
  exact of_decide_eq_true hnodup (hall verbatimParsers verbatimRequests failingExecutor
    failingOperations _ _ _ plan none _ _ ⟨some "2.0.0", none⟩ verbatimParsers.repr manifest result
    hplan (of_decide_eq_true hdcr) hmanifest hrun).1

end Conformance
