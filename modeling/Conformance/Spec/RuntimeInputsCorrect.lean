import Conformance.Spec.CompilePlanCorrect

/-!
# Runtime inputs of a compiled plan

What the requirement merge and the snapshot of `compile_test_plan` compute: one
entry for each input id the compiled cases ask for, required when one of them
requires it.

## Key results

- `combinedRuntimeRequirements_ok`: the merged requirement of an input id stands
  for all requirements with that id
- `runtimeInputSnapshot_ok`: the snapshot has an entry for each merged requirement
-/

namespace Conformance

open Except

/-- `merged` stands for the requirements of `all` with its id: they agree on type
    and source, and it is required or sensitive when one of them is. -/
structure Combines (all : List RuntimeInputRequirement) (merged : RuntimeInputRequirement) :
    Prop where
  used : ∃ requirement ∈ all, requirement.inputId = merged.inputId
  agree : ∀ requirement ∈ all, requirement.inputId = merged.inputId →
    requirement.inputType = merged.inputType ∧ requirement.source = merged.source
  required_iff : merged.required = true ↔
    ∃ requirement ∈ all, requirement.inputId = merged.inputId ∧ requirement.required = true
  sensitive_iff : merged.sensitive = true ↔
    ∃ requirement ∈ all, requirement.inputId = merged.inputId ∧ requirement.sensitive = true

/-- What holds of the merged requirements after the requirements `seen`. -/
private def Combined (seen : List RuntimeInputRequirement)
    (requirements : Dict String RuntimeInputRequirement) : Prop :=
  (∀ id merged, requirements.get? id = some merged → merged.inputId = id ∧ Combines seen merged) ∧
  ∀ requirement ∈ seen, requirements.contains requirement.inputId = true

/-- A requirement with another id does not affect a merged one. -/
private theorem Combines.append_other {seen : List RuntimeInputRequirement}
    {merged requirement : RuntimeInputRequirement} (h : Combines seen merged)
    (hne : requirement.inputId ≠ merged.inputId) : Combines (seen ++ [requirement]) merged := by
  obtain ⟨used, agree, hreq, hsens⟩ := h
  refine ⟨?_, ?_, ?_, ?_⟩
  · obtain ⟨r, hr, hid⟩ := used
    exact ⟨r, List.mem_append_left _ hr, hid⟩
  · intro r hr hid
    rcases List.mem_append.mp hr with hr | hr
    · exact agree r hr hid
    · exact absurd (List.mem_singleton.mp hr ▸ hid) hne
  · rw [hreq]
    simp [hne]
  · rw [hsens]
    simp [hne]

/-- The two ways a round of the merge loop succeeds. -/
private theorem addRequirement_cases {requirements requirements' : Dict String RuntimeInputRequirement}
    {requirement : RuntimeInputRequirement}
    (h : addRequirement requirements requirement = .ok requirements') :
    (requirements.get? requirement.inputId = none ∧
      requirements' = requirements.set requirement.inputId requirement) ∨
    ∃ existing, requirements.get? requirement.inputId = some existing ∧
      existing.inputType = requirement.inputType ∧ existing.source = requirement.source ∧
      requirements' = requirements.set requirement.inputId { existing with
        required := existing.required || requirement.required
        sensitive := existing.sensitive || requirement.sensitive
        description := stringOr existing.description requirement.description } := by
  unfold addRequirement at h
  split at h
  · cases h
  · split at h
    · rename_i hnone
      exact .inl ⟨hnone, (Except.ok.inj h).symm⟩
    · rename_i existing hsome
      simp only [mergeRequirement, bind_eq_ok, raiseIf_eq_ok, not_not] at h
      obtain ⟨_, ⟨_, htype, _, hsource, hmerged⟩, hset⟩ := h
      rw [← Except.ok.inj hmerged] at hset
      exact .inr ⟨existing, hsome, htype, hsource, (Except.ok.inj hset).symm⟩

/-- One round of the merge loop. -/
private theorem Combined.step {seen : List RuntimeInputRequirement}
    {requirements requirements' : Dict String RuntimeInputRequirement}
    {requirement : RuntimeInputRequirement} (hinv : Combined seen requirements)
    (h : addRequirement requirements requirement = .ok requirements') :
    Combined (seen ++ [requirement]) requirements' := by
  obtain ⟨hmerged, hkeys⟩ := hinv
  -- Both cases assign to the requirement's id and leave the other ids alone.
  have hother : ∀ value id merged, id ≠ requirement.inputId →
      (requirements.set requirement.inputId value).get? id = some merged →
      merged.inputId = id ∧ Combines (seen ++ [requirement]) merged := by
    intro value id merged hne hget
    rw [Dict.get?_set, if_neg hne] at hget
    obtain ⟨rfl, hcombines⟩ := hmerged id merged hget
    exact ⟨rfl, hcombines.append_other (Ne.symm hne)⟩
  have hcontains : ∀ value, ∀ r ∈ seen ++ [requirement],
      (requirements.set requirement.inputId value).contains r.inputId = true := by
    intro value r hr
    simp only [Dict.contains, Dict.get?_set]
    split
    · rfl
    · rename_i hne
      rcases List.mem_append.mp hr with hr | hr
      · exact hkeys r hr
      · exact absurd (by rw [List.mem_singleton.mp hr]) hne
  rcases addRequirement_cases h with ⟨hnone, rfl⟩ | ⟨existing, hsome, htype, hsource, rfl⟩
  · refine ⟨fun id merged hget => ?_, hcontains _⟩
    by_cases hid : id = requirement.inputId
    · subst hid
      rw [Dict.get?_set, if_pos rfl, Option.some.injEq] at hget
      subst hget
      have hfresh : ∀ r ∈ seen, r.inputId ≠ requirement.inputId := by
        intro r hr heq
        have := hkeys r hr
        simp [Dict.contains, heq, hnone] at this
      refine ⟨rfl, ⟨requirement, by simp, rfl⟩, ?_, ?_, ?_⟩
      · intro r hr hid
        rcases List.mem_append.mp hr with hr | hr
        · exact absurd hid (hfresh r hr)
        · rw [List.mem_singleton.mp hr]
          exact ⟨rfl, rfl⟩
      · constructor
        · exact fun hreq => ⟨requirement, by simp, rfl, hreq⟩
        · rintro ⟨r, hr, hid, hreq⟩
          rcases List.mem_append.mp hr with hr | hr
          · exact absurd hid (hfresh r hr)
          · exact List.mem_singleton.mp hr ▸ hreq
      · constructor
        · exact fun hsens => ⟨requirement, by simp, rfl, hsens⟩
        · rintro ⟨r, hr, hid, hsens⟩
          rcases List.mem_append.mp hr with hr | hr
          · exact absurd hid (hfresh r hr)
          · exact List.mem_singleton.mp hr ▸ hsens
    · exact hother _ id merged hid hget
  · refine ⟨fun id merged hget => ?_, hcontains _⟩
    by_cases hid : id = requirement.inputId
    · subst hid
      rw [Dict.get?_set, if_pos rfl, Option.some.injEq] at hget
      subst hget
      obtain ⟨hexisting, used, agree, hreq, hsens⟩ := hmerged _ existing hsome
      rw [hexisting] at used agree hreq hsens
      refine ⟨hexisting, ⟨requirement, by simp, hexisting.symm⟩, ?_, ?_, ?_⟩
      · intro r hr hid
        rcases List.mem_append.mp hr with hr | hr
        · exact agree r hr (hid.trans hexisting)
        · rw [List.mem_singleton.mp hr]
          exact ⟨htype.symm, hsource.symm⟩
      · simp only [Bool.or_eq_true, hreq, hexisting, List.mem_append, List.mem_singleton,
          or_and_right, exists_or, exists_eq_left, true_and]
      · simp only [Bool.or_eq_true, hsens, hexisting, List.mem_append, List.mem_singleton,
          or_and_right, exists_or, exists_eq_left, true_and]
    · exact hother _ id merged hid hget

/-- The merged requirements stand for all requirements of the compiled cases. -/
theorem combinedRuntimeRequirements_ok {testCases : List CatalogueTestCase}
    {requirements : Dict String RuntimeInputRequirement}
    (h : combinedRuntimeRequirements testCases = .ok requirements) :
    (∀ id merged, requirements.get? id = some merged →
      merged.inputId = id ∧ Combines (testCases.flatMap (·.runtimeInputRequirements)) merged) ∧
    ∀ requirement ∈ testCases.flatMap (·.runtimeInputRequirements),
      requirements.contains requirement.inputId = true :=
  List.foldlM_ok_induction (P := Combined) h ⟨by simp, by simp⟩
    fun _ _ _ _ _ hinv hstep => hinv.step hstep

/-- The snapshot entry of a requirement: only a plan-sourced input can be required. -/
theorem runtimeInputTrace_ok {validateHttpsUrl : String → String → Except PyError Unit}
    {runtimeInputs : Dict String Json} {requirement : RuntimeInputRequirement}
    {trace : RuntimeInputTrace}
    (h : runtimeInputTrace validateHttpsUrl runtimeInputs requirement = .ok trace) :
    trace.inputId = requirement.inputId ∧
      (trace.required = true ↔ requirement.source = .plan ∧ requirement.required = true) := by
  unfold runtimeInputTrace at h
  dsimp only at h
  split at h
  · rename_i hsource
    rw [bind_eq_ok] at h
    obtain ⟨_, _, htrace⟩ := h
    rw [← Except.ok.inj htrace]
    simp [hsource]
  · rename_i hsource
    rw [not_not] at hsource
    simp only [bind_eq_ok] at h
    obtain ⟨_, _, _, _, htrace⟩ := h
    rw [← Except.ok.inj htrace]
    simp [hsource]

/-- A snapshot entry comes from a requirement of a compiled case, and every
    requirement of a compiled case has its entry. -/
theorem runtimeInputSnapshot_ok {validateHttpsUrl : String → String → Except PyError Unit}
    {testCases : List CatalogueTestCase} {runtimeInputs : Dict String Json}
    {snapshot : List RuntimeInputTrace}
    (h : runtimeInputSnapshot validateHttpsUrl testCases runtimeInputs = .ok snapshot) :
    (∀ trace ∈ snapshot, ∃ merged, Combines (testCases.flatMap (·.runtimeInputRequirements)) merged ∧
      trace.inputId = merged.inputId ∧
      (trace.required = true ↔ merged.source = .plan ∧ merged.required = true)) ∧
    ∀ requirement ∈ testCases.flatMap (·.runtimeInputRequirements),
      ∃ trace ∈ snapshot, trace.inputId = requirement.inputId := by
  unfold runtimeInputSnapshot at h
  simp only [bind_eq_ok, List.mapM_eq_ok] at h
  obtain ⟨requirements, hcombined, _, -, hsnapshot⟩ := h
  obtain ⟨hmerged, hkeys⟩ := combinedRuntimeRequirements_ok hcombined
  constructor
  · intro trace htrace
    obtain ⟨merged, hvalue, hok⟩ := List.Forall₂.exists_of_mem_right hsnapshot htrace
    obtain ⟨id, hget⟩ := Dict.mem_values_iff.mp hvalue
    exact ⟨merged, (hmerged id merged hget).2, runtimeInputTrace_ok hok⟩
  · intro requirement hmem
    obtain ⟨merged, hget⟩ := Dict.mem_keys_iff.mp (Dict.contains_iff.mp (hkeys requirement hmem))
    obtain ⟨trace, htrace, hok⟩ := List.Forall₂.exists_of_mem_left hsnapshot
      (Dict.mem_values_iff.mpr ⟨_, hget⟩)
    exact ⟨trace, htrace, (runtimeInputTrace_ok hok).1.trans (hmerged _ merged hget).1⟩

end Conformance
