import Conformance.Native.Manifest

/-!
# Parsed manifests are well formed

The step ids of a manifest that `parse_manifest` returns are pairwise distinct,
non-empty and free of surrounding white space, and only a v1 manifest has steps.
-/

namespace Conformance

open Except

variable {p : FieldParsers}

/-- A string that survives `strip` unchanged and is not empty. -/
structure Stripped (s : String) : Prop where
  strip_eq : strip s = s
  ne_empty : s ≠ ""

/-- What `parse_manifest` promises of the step ids of a manifest. -/
structure Manifest.WellFormedIds (manifest : Manifest p) : Prop where
  nodup : (manifest.steps.map V1Step.id).Nodup
  stripped : ∀ step ∈ manifest.steps, Stripped step.id

/-! ## One step -/

/-- A required string comes back stripped. -/
theorem requiredString_stripped (raw : JsonObject) (key location : String) :
    Ensures Stripped (requiredString raw key location) := by
  unfold requiredString
  split
  · rename_i value _
    by_cases hempty : strip value = ""
    · rw [if_pos hempty]
      exact .error
    · rw [if_neg hempty]
      exact .ok ⟨strip_strip value, hempty⟩
  · exact .error

/-- The id of a step is stripped and no earlier step has it. -/
theorem parseStepId_fresh (rawStep : JsonObject) (location : String) (seenIds : List String) :
    Ensures (fun stepId => Stripped stepId ∧ stepId ∉ seenIds)
      (parseStepId rawStep location seenIds) := by
  refine .bind fun stepId hstepId => .bind fun _ _ => .bind fun _ hduplicate => .ok ⟨?_, ?_⟩
  · exact requiredString_stripped _ _ _ stepId hstepId
  · exact raiseIf_eq_ok.mp hduplicate

/-- An HTTP step carries the id that was checked. -/
theorem parseV1HttpStep_fresh (rawStep : JsonObject) (index : Nat) (seenIds : List String) :
    Ensures (fun step => Stripped step.id ∧ step.id ∉ seenIds)
      (parseV1HttpStep p rawStep index seenIds) := by
  refine .bind fun _ _ => .bind fun stepId hstepId => ?_
  have hfresh := parseStepId_fresh _ _ _ stepId hstepId
  -- the remaining fields are parsed one after the other and leave the id alone
  iterate 15 refine .bind fun _ _ => ?_
  exact .ok hfresh

/-- A PSU authorisation step carries the id that was checked. -/
theorem parseV1PsuAuthorizationStep_fresh (rawStep : JsonObject) (index : Nat)
    (seenIds : List String) :
    Ensures (fun step => Stripped step.id ∧ step.id ∉ seenIds)
      (parseV1PsuAuthorizationStep p rawStep index seenIds) := by
  refine .bind fun _ _ => .bind fun stepId hstepId => ?_
  have hfresh := parseStepId_fresh _ _ _ stepId hstepId
  iterate 20 refine .bind fun _ _ => ?_
  exact .ok hfresh

/-- Either kind of step has a stripped id that no earlier step has. -/
theorem parseV1Step_fresh (rawStep : JsonObject) (index : Nat) (seenIds : List String) :
    Ensures (fun step => Stripped step.id ∧ step.id ∉ seenIds)
      (parseV1Step p rawStep index seenIds) := by
  unfold parseV1Step
  split
  · split
    · refine .bind fun step hstep => .ok ?_
      exact parseV1HttpStep_fresh _ _ _ step hstep
    · split
      · refine .bind fun step hstep => .ok ?_
        exact parseV1PsuAuthorizationStep_fresh _ _ _ step hstep
      · exact .error
  · exact .error

/-! ## The loop over the steps -/

/-- What the loop of `_parse_v1_manifest` keeps: the ids seen are those of the steps
    parsed so far, distinct and stripped. -/
structure StepsParsed (acc : List String × List (V1Step p)) : Prop where
  seen_eq : acc.1 = acc.2.map V1Step.id
  nodup : (acc.2.map V1Step.id).Nodup
  stripped : ∀ step ∈ acc.2, Stripped step.id

/-- One round of the loop keeps the invariant. -/
theorem StepsParsed.snoc {acc : List String × List (V1Step p)} (hacc : StepsParsed acc)
    {step : V1Step p} (hstripped : Stripped step.id) (hfresh : step.id ∉ acc.1) :
    StepsParsed (acc.1 ++ [step.id], acc.2 ++ [step]) where
  seen_eq := by simp [hacc.seen_eq]
  nodup := by
    rw [List.map_append, List.nodup_append]
    refine ⟨hacc.nodup, List.nodup_singleton _, ?_⟩
    intro stepId hmem other hother heq
    rw [List.map_singleton, List.mem_singleton] at hother
    rw [← hacc.seen_eq, heq, hother] at hmem
    exact hfresh hmem
  stripped := by
    intro other hother
    rcases List.mem_append.mp hother with hold | hnew
    · exact hacc.stripped other hold
    · exact List.mem_singleton.mp hnew ▸ hstripped

/-- The loop over the raw steps ends with distinct, stripped ids. -/
theorem parseV1Steps_parsed {rawSteps : List JsonObject} {acc : List String × List (V1Step p)}
    (h : parseV1Steps p rawSteps = .ok acc) : StepsParsed acc := by
  refine List.foldlM_ok_induction (P := fun _ acc => StepsParsed acc) h ?_ ?_
  · exact ⟨rfl, List.nodup_nil, nofun⟩
  · intro _ entry acc acc' _ hacc hround
    obtain ⟨step, hstep, hnext⟩ := bind_eq_ok.mp hround
    obtain ⟨hstripped, hfresh⟩ := parseV1Step_fresh _ _ _ step hstep
    exact Except.ok.inj hnext ▸ hacc.snoc hstripped hfresh

/-! ## Whole manifests -/

/-- A parsed manifest is a v1 manifest with well-formed ids, or has no steps. -/
theorem parseManifest_cases {raw : JsonObject} {manifest : Manifest p}
    (h : parseManifest p raw = .ok manifest) :
    (manifest.schemaVersion = .v1 ∧ manifest.WellFormedIds) ∨
      (manifest.schemaVersion = .v0 ∧ manifest.steps = []) := by
  obtain ⟨schemaVersion, -, h⟩ := bind_eq_ok.mp h
  by_cases hv0 : schemaVersion = "v0"
  · rw [if_pos hv0] at h
    have hv0 : Ensures (fun m : Manifest p => m.schemaVersion = .v0 ∧ m.steps = [])
        (parseV0Manifest p raw) :=
      .bind fun _ _ => .bind fun _ _ => .bind fun _ _ => .bind fun _ _ => .ok ⟨rfl, rfl⟩
    exact .inr (hv0 manifest h)
  · rw [if_neg hv0] at h
    by_cases hv1 : schemaVersion = "v1"
    · rw [if_pos hv1] at h
      have hv1 : Ensures (fun m : Manifest p => m.schemaVersion = .v1 ∧ m.WellFormedIds)
          (parseV1Manifest p raw) := by
        refine .bind fun _ _ => .bind fun _ _ => .bind fun _ _ => .bind fun _ _ =>
          .bind fun parsed hparsed => .ok ⟨rfl, ?_⟩
        have hsteps := parseV1Steps_parsed hparsed
        exact ⟨hsteps.nodup, hsteps.stripped⟩
      exact .inl (hv1 manifest h)
    · rw [if_neg hv1] at h
      cases h

/-- A parsed v1 manifest has well-formed ids. -/
theorem parseManifest_wellFormedIds {raw : JsonObject} {manifest : Manifest p}
    (h : parseManifest p raw = .ok manifest) (hv1 : manifest.schemaVersion = .v1) :
    manifest.WellFormedIds := by
  rcases parseManifest_cases h with ⟨-, hids⟩ | ⟨hv0, -⟩
  · exact hids
  · rw [hv1] at hv0
    cases hv0

end Conformance
