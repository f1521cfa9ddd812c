import Conformance.Spec.RuntimeInputsCorrect
import Conformance.Spec.PlanDocumentOrder

/-!
# Sensitive runtime inputs

The snapshot of a compiled plan document says of a sensitive input that it was
provided, never what it was. Sensitivity is joined over the cases of an area and
then over the areas, so a value that one area copied is erased when another area
declares the input sensitive.

## Key results

- `runtimeInputSnapshot_sensitive`: the entries of one area
- `mergeRuntimeInputSnapshots_ok`: the entries of the merged areas
- `compileTestPlanDocument_hides_sensitive`: a compiled document has one entry for
  each input, hides the sensitive values, and does not depend on them
-/

namespace Conformance

open Except

/-- Some compiled case marks the input as sensitive. -/
def MarkedSensitive (testCases : List CatalogueTestCase) (inputId : String) : Prop :=
  ∃ testCase ∈ testCases, ∃ requirement ∈ testCase.runtimeInputRequirements,
    requirement.inputId = inputId ∧ requirement.sensitive = true

instance (testCases : List CatalogueTestCase) (inputId : String) :
    Decidable (MarkedSensitive testCases inputId) :=
  inferInstanceAs (Decidable (∃ testCase ∈ testCases,
    ∃ requirement ∈ testCase.runtimeInputRequirements,
      requirement.inputId = inputId ∧ requirement.sensitive = true))

/-- An input is provided when it has a value other than `null`. -/
def Provided (runtimeInputs : Dict String Json) (inputId : String) : Prop :=
  (providedValue runtimeInputs inputId).isSome = true

/-- The plan document with other runtime inputs. -/
def ParsedPlanDocument.withRuntimeInputs (document : ParsedPlanDocument)
    (runtimeInputs : Dict String Json) : ParsedPlanDocument :=
  match document with
  | .spec planSpec => .spec { planSpec with runtimeInputs := runtimeInputs }
  | .shared planDocument => .shared { planDocument with runtimeInputs := runtimeInputs }

/-! ## One catalogue area -/

/-- The entry of a requirement is sensitive when the requirement is, and then without
    a value. -/
private theorem runtimeInputTrace_sensitive
    {validateHttpsUrl : String → String → Except PyError Unit}
    {runtimeInputs : Dict String Json} {requirement : RuntimeInputRequirement}
    {trace : RuntimeInputTrace}
    (h : runtimeInputTrace validateHttpsUrl runtimeInputs requirement = .ok trace) :
    trace.sensitive = requirement.sensitive ∧
      (trace.sensitive = true → trace.value = none) := by
  unfold runtimeInputTrace at h
  dsimp only at h
  split at h
  · rw [bind_eq_ok] at h
    obtain ⟨_, _, htrace⟩ := h
    rw [← Except.ok.inj htrace]
    exact ⟨rfl, fun _ => rfl⟩
  · simp only [bind_eq_ok] at h
    obtain ⟨_, _, _, _, htrace⟩ := h
    rw [← Except.ok.inj htrace]
    exact ⟨rfl, fun hsensitive => if_pos hsensitive⟩

/-- The entries of an area: one for each input id, sensitive when a compiled case of the
    area says so, and then without a value. -/
theorem runtimeInputSnapshot_sensitive
    {validateHttpsUrl : String → String → Except PyError Unit}
    {testCases : List CatalogueTestCase} {runtimeInputs : Dict String Json}
    {snapshot : List RuntimeInputTrace}
    (h : runtimeInputSnapshot validateHttpsUrl testCases runtimeInputs = .ok snapshot) :
    (snapshot.map (·.inputId)).Nodup ∧
    ∀ trace ∈ snapshot,
      (trace.sensitive = true ↔ MarkedSensitive testCases trace.inputId) ∧
      (trace.sensitive = true → trace.value = none) := by
  unfold runtimeInputSnapshot at h
  simp only [bind_eq_ok, List.mapM_eq_ok] at h
  obtain ⟨requirements, hcombined, _, -, hsnapshot⟩ := h
  obtain ⟨hmerged, -⟩ := combinedRuntimeRequirements_ok hcombined
  constructor
  · have hvalues : requirements.values.map (·.inputId) = snapshot.map (·.inputId) :=
      hsnapshot.map_eq fun merged trace hok => (runtimeInputTrace_ok hok).1.symm
    have hkeys : requirements.values.map (·.inputId) = requirements.keys := by
      rw [Dict.values, Dict.keys, List.map_map]
      apply List.map_congr_left
      intro entry hentry
      exact (hmerged entry.1 entry.2 (Dict.mem_entries_iff.mp hentry)).1
    rw [← hvalues, hkeys]
    exact requirements.keys_nodup
  · intro trace htrace
    obtain ⟨merged, hvalue, hok⟩ := List.Forall₂.exists_of_mem_right hsnapshot htrace
    obtain ⟨id, hget⟩ := Dict.mem_values_iff.mp hvalue
    obtain ⟨hsensitive, hnone⟩ := runtimeInputTrace_sensitive hok
    refine ⟨?_, hnone⟩
    rw [hsensitive, (hmerged id merged hget).2.sensitive_iff, (runtimeInputTrace_ok hok).1]
    simp only [MarkedSensitive, List.mem_flatMap]
    constructor
    · rintro ⟨requirement, ⟨testCase, hcase, hmem⟩, hid⟩
      exact ⟨testCase, hcase, requirement, hmem, hid⟩
    · rintro ⟨testCase, hcase, requirement, hmem, hid⟩
      exact ⟨requirement, ⟨testCase, hcase, hmem⟩, hid⟩

/-! ## Two runs that differ in hidden values -/

/-- Two snapshot entries that differ at most in the value, and only if the input is
    hidden. -/
structure SameTrace (hidden : String → Prop) (trace trace' : RuntimeInputTrace) : Prop where
  inputId : trace.inputId = trace'.inputId
  inputType : trace.inputType = trace'.inputType
  required : trace.required = trace'.required
  sensitive : trace.sensitive = trace'.sensitive
  provided : trace.provided = trace'.provided
  value : ¬ hidden trace.inputId → trace.value = trace'.value

/-- Entries that differ at most in a value that neither shows are equal. -/
theorem SameTrace.eq {hidden : String → Prop} {trace trace' : RuntimeInputTrace}
    (h : SameTrace hidden trace trace')
    (hhidden : hidden trace.inputId → trace.sensitive = true)
    (hnone : trace.sensitive = true → trace.value = none)
    (hnone' : trace'.sensitive = true → trace'.value = none) : trace = trace' := by
  have hvalue : trace.value = trace'.value := by
    by_cases hid : hidden trace.inputId
    · have hsensitive := hhidden hid
      rw [hnone hsensitive, hnone' (h.sensitive ▸ hsensitive)]
    · exact h.value hid
  cases trace
  cases trace'
  obtain ⟨rfl, rfl, rfl, rfl, rfl, -⟩ := h
  cases hvalue
  rfl

section TwoRuns

variable {validateHttpsUrl : String → String → Except PyError Unit}
  {hidden : String → Prop} {runtimeInputs runtimeInputs' : Dict String Json}

/-- The entries of one requirement under two mappings that agree on the ids that are
    not hidden and provide the same ids. -/
private theorem sameTrace_of_requirement
    (hagree : ∀ id, ¬ hidden id → runtimeInputs.get? id = runtimeInputs'.get? id)
    (hprovided : ∀ id, Provided runtimeInputs id ↔ Provided runtimeInputs' id)
    {requirement : RuntimeInputRequirement} {trace trace' : RuntimeInputTrace}
    (h : runtimeInputTrace validateHttpsUrl runtimeInputs requirement = .ok trace)
    (h' : runtimeInputTrace validateHttpsUrl runtimeInputs' requirement = .ok trace') :
    SameTrace hidden trace trace' := by
  have hsome : (providedValue runtimeInputs requirement.inputId).isSome =
      (providedValue runtimeInputs' requirement.inputId).isSome :=
    Bool.eq_iff_iff.mpr (hprovided requirement.inputId)
  have hvalue : ¬ hidden requirement.inputId → providedValue runtimeInputs requirement.inputId =
      providedValue runtimeInputs' requirement.inputId := by
    intro hid
    rw [providedValue, providedValue, hagree _ hid]
  unfold runtimeInputTrace at h h'
  dsimp only at h h'
  split at h
  · rename_i hsource
    rw [if_pos hsource] at h'
    simp only [bind_eq_ok] at h h'
    obtain ⟨_, _, htrace⟩ := h
    obtain ⟨_, _, htrace'⟩ := h'
    rw [← Except.ok.inj htrace, ← Except.ok.inj htrace']
    exact ⟨rfl, rfl, rfl, rfl, rfl, fun _ => rfl⟩
  · rename_i hsource
    rw [if_neg hsource] at h'
    simp only [bind_eq_ok] at h h'
    obtain ⟨_, _, _, _, htrace⟩ := h
    obtain ⟨_, _, _, _, htrace'⟩ := h'
    rw [← Except.ok.inj htrace, ← Except.ok.inj htrace']
    refine ⟨rfl, rfl, rfl, rfl, hsome, fun hid => ?_⟩
    simp only [hvalue hid]

/-- The snapshots of one area under two such mappings. -/
private theorem sameTrace_of_snapshot
    (hagree : ∀ id, ¬ hidden id → runtimeInputs.get? id = runtimeInputs'.get? id)
    (hprovided : ∀ id, Provided runtimeInputs id ↔ Provided runtimeInputs' id)
    {testCases : List CatalogueTestCase} {snapshot snapshot' : List RuntimeInputTrace}
    (h : runtimeInputSnapshot validateHttpsUrl testCases runtimeInputs = .ok snapshot)
    (h' : runtimeInputSnapshot validateHttpsUrl testCases runtimeInputs' = .ok snapshot') :
    List.Forall₂ (SameTrace hidden) snapshot snapshot' := by
  unfold runtimeInputSnapshot at h h'
  simp only [bind_eq_ok] at h h'
  obtain ⟨requirements, hcombined, _, -, hsnapshot⟩ := h
  obtain ⟨requirements', hcombined', _, -, hsnapshot'⟩ := h'
  obtain rfl := Except.ok.inj (hcombined.symm.trans hcombined')
  exact List.forall₂_of_mapM_ok hsnapshot hsnapshot' fun _ _ _ _ hok hok' =>
    sameTrace_of_requirement hagree hprovided hok hok'

/-- Compiling one specification under two such mappings: the same cases, and entries
    that differ at most in hidden values. -/
private theorem compileTestPlan_twoRuns
    (hagree : ∀ id, ¬ hidden id → runtimeInputs.get? id = runtimeInputs'.get? id)
    (hprovided : ∀ id, Provided runtimeInputs id ↔ Provided runtimeInputs' id)
    {catalogue : TestCatalogue} (spec : TestPlanSpec) {plan plan' : CompiledTestPlan}
    (h : compileTestPlan validateHttpsUrl catalogue { spec with runtimeInputs := runtimeInputs } =
      .ok plan)
    (h' : compileTestPlan validateHttpsUrl catalogue
      { spec with runtimeInputs := runtimeInputs' } = .ok plan') :
    plan.testCases = plan'.testCases ∧ List.Forall₂ (SameTrace hidden)
      plan.traceability.runtimeInputSnapshot plan'.traceability.runtimeInputSnapshot := by
  obtain ⟨run, hrun, rfl⟩ := compileTestPlan_eq_ok.mp h
  obtain ⟨run', hrun', rfl⟩ := compileTestPlan_eq_ok.mp h'
  -- Nothing before the snapshot reads the runtime inputs.
  have hcases : run.casesById = run'.casesById :=
    Except.ok.inj (hrun.cases.symm.trans hrun'.cases)
  have hindexes : run.indexes = run'.indexes :=
    Except.ok.inj (hrun.indexes.symm.trans hrun'.indexes)
  have hselected : run.selected = run'.selected := by
    have hsel := hrun'.selected
    rw [← hindexes] at hsel
    exact Except.ok.inj (hrun.selected.symm.trans hsel)
  have hsearch : run.search = run'.search := by
    have hordered := hrun'.search
    rw [CompilerRun.direct, ← hcases, ← hselected] at hordered
    exact Except.ok.inj (hrun.search.symm.trans hordered)
  have hselectedCases : run.selectedCases = run'.selectedCases := by
    rw [CompilerRun.selectedCases, CompilerRun.selectedCases, hcases, hsearch]
  refine ⟨hselectedCases, ?_⟩
  have hsnapshot' := hrun'.snapshot
  rw [← hselectedCases] at hsnapshot'
  exact sameTrace_of_snapshot hagree hprovided hrun.snapshot hsnapshot'

end TwoRuns

/-! ## Merging the areas -/

/-- One round of the merge of the areas' snapshots. -/
private def mergeTrace (traces : Dict String RuntimeInputTrace) (trace : RuntimeInputTrace) :
    Except PyError (Dict String RuntimeInputTrace) :=
  match traces.get? trace.inputId with
  | none => .ok (traces.set trace.inputId trace)
  | some existing => do
    let merged ← mergeRuntimeInputTrace existing trace
    return traces.set trace.inputId merged

/-- What a merged entry holds. -/
private theorem mergeRuntimeInputTrace_ok {existing incoming merged : RuntimeInputTrace}
    (h : mergeRuntimeInputTrace existing incoming = .ok merged) :
    existing.inputType = incoming.inputType ∧
    ∃ value, mergedRuntimeInputTraceValue existing incoming
        (existing.sensitive || incoming.sensitive) = .ok value ∧
      merged = { existing with
        required := existing.required || incoming.required
        sensitive := existing.sensitive || incoming.sensitive
        provided := existing.provided || incoming.provided
        value := value } := by
  unfold mergeRuntimeInputTrace at h
  simp only [bind_eq_ok, raiseIf_eq_ok, not_not] at h
  obtain ⟨_, htype, value, hvalue, hmerged⟩ := h
  exact ⟨htype, value, hvalue, (Except.ok.inj hmerged).symm⟩

/-- The two ways a round of the merge succeeds. -/
private theorem mergeTrace_cases {traces traces' : Dict String RuntimeInputTrace}
    {trace : RuntimeInputTrace} (h : mergeTrace traces trace = .ok traces') :
    (traces.get? trace.inputId = none ∧ traces' = traces.set trace.inputId trace) ∨
    ∃ existing merged, traces.get? trace.inputId = some existing ∧
      mergeRuntimeInputTrace existing trace = .ok merged ∧
      traces' = traces.set trace.inputId merged := by
  unfold mergeTrace at h
  split at h
  · rename_i hnone
    exact .inl ⟨hnone, (Except.ok.inj h).symm⟩
  · rename_i existing hsome
    obtain ⟨merged, hmerged, hset⟩ := bind_eq_ok.mp h
    exact .inr ⟨existing, merged, hsome, hmerged, (Except.ok.inj hset).symm⟩

/-- What holds of the merged entries after the entries `seen`. -/
private def MergedTraces (seen : List RuntimeInputTrace)
    (traces : Dict String RuntimeInputTrace) : Prop :=
  (∀ id merged, traces.get? id = some merged →
    merged.inputId = id ∧
    (merged.sensitive = true ↔ ∃ trace ∈ seen, trace.inputId = id ∧ trace.sensitive = true) ∧
    (merged.sensitive = true → merged.value = none)) ∧
  ∀ trace ∈ seen, traces.contains trace.inputId = true

/-- One more trace keeps the invariant. -/
private theorem MergedTraces.step {seen : List RuntimeInputTrace}
    {traces traces' : Dict String RuntimeInputTrace} {trace : RuntimeInputTrace}
    (hnone : trace.sensitive = true → trace.value = none) (hinv : MergedTraces seen traces)
    (h : mergeTrace traces trace = .ok traces') : MergedTraces (seen ++ [trace]) traces' := by
  obtain ⟨hmerged, hkeys⟩ := hinv
  have hcontains : ∀ value, ∀ t ∈ seen ++ [trace],
      (traces.set trace.inputId value).contains t.inputId = true := by
    intro value t ht
    simp only [Dict.contains, Dict.get?_set]
    split
    · rfl
    · rename_i hne
      rcases List.mem_append.mp ht with ht | ht
      · exact hkeys t ht
      · exact absurd (by rw [List.mem_singleton.mp ht]) hne
  -- An entry under another id is the one that was there.
  have hother : ∀ value id merged, id ≠ trace.inputId →
      (traces.set trace.inputId value).get? id = some merged →
      merged.inputId = id ∧
      (merged.sensitive = true ↔
        ∃ t ∈ seen ++ [trace], t.inputId = id ∧ t.sensitive = true) ∧
      (merged.sensitive = true → merged.value = none) := by
    intro value id merged hne hget
    rw [Dict.get?_set, if_neg hne] at hget
    obtain ⟨hid, hsensitive, hval⟩ := hmerged id merged hget
    refine ⟨hid, ?_, hval⟩
    rw [hsensitive]
    simp [Ne.symm hne]
  rcases mergeTrace_cases h with ⟨hfresh, rfl⟩ | ⟨existing, merged, hsome, hok, rfl⟩
  · refine ⟨fun id merged hget => ?_, hcontains _⟩
    by_cases hid : id = trace.inputId
    · subst hid
      rw [Dict.get?_set, if_pos rfl, Option.some.injEq] at hget
      subst hget
      have hnotSeen : ∀ t ∈ seen, t.inputId ≠ trace.inputId := by
        intro t ht heq
        have hin := hkeys t ht
        rw [Dict.contains, heq, hfresh] at hin
        cases hin
      refine ⟨rfl, ?_, hnone⟩
      constructor
      · intro hsensitive
        exact ⟨trace, by simp, rfl, hsensitive⟩
      · rintro ⟨t, ht, hid, hsensitive⟩
        rcases List.mem_append.mp ht with ht | ht
        · exact absurd hid (hnotSeen t ht)
        · exact List.mem_singleton.mp ht ▸ hsensitive
    · exact hother _ id merged hid hget
  · refine ⟨fun id m hget => ?_, hcontains _⟩
    by_cases hid : id = trace.inputId
    · subst hid
      rw [Dict.get?_set, if_pos rfl, Option.some.injEq] at hget
      subst hget
      obtain ⟨hid, hsensitive, -⟩ := hmerged _ existing hsome
      obtain ⟨-, value, hvalue, rfl⟩ := mergeRuntimeInputTrace_ok hok
      refine ⟨hid, ?_, fun hmarked => ?_⟩
      · simp only [Bool.or_eq_true, hsensitive, List.mem_append, List.mem_singleton,
          or_and_right, exists_or, exists_eq_left, true_and]
      · rw [mergedRuntimeInputTraceValue, if_pos hmarked] at hvalue
        exact (Except.ok.inj hvalue).symm
    · exact hother _ id m hid hget

/-- The merged snapshot: one entry for each id of the areas' entries, sensitive when one
    of them is, and then without a value. -/
theorem mergeRuntimeInputSnapshots_ok {plans : List CompiledTestPlan}
    {traces : Dict String RuntimeInputTrace}
    (hnone : ∀ plan ∈ plans, ∀ trace ∈ plan.traceability.runtimeInputSnapshot,
      trace.sensitive = true → trace.value = none)
    (h : mergeRuntimeInputSnapshots plans = .ok traces) :
    (∀ id merged, traces.get? id = some merged →
      merged.inputId = id ∧
      (merged.sensitive = true ↔
        ∃ trace ∈ plans.flatMap (·.traceability.runtimeInputSnapshot),
          trace.inputId = id ∧ trace.sensitive = true) ∧
      (merged.sensitive = true → merged.value = none)) ∧
    ∀ trace ∈ plans.flatMap (·.traceability.runtimeInputSnapshot),
      traces.contains trace.inputId = true := by
  refine List.foldlM_ok_induction (P := MergedTraces) h ⟨by simp, by simp⟩ ?_
  intro seen trace _ _ hmem hinv hstep
  obtain ⟨plan, hplan, htrace⟩ := List.mem_flatMap.mp hmem
  exact hinv.step (hnone plan hplan trace htrace) hstep

/-- Merging entries that differ at most in hidden values gives such entries. -/
private theorem SameTrace.merge {hidden : String → Prop}
    {existing existing' incoming incoming' merged merged' : RuntimeInputTrace}
    (hid : existing.inputId = incoming.inputId)
    (hexisting : SameTrace hidden existing existing')
    (hincoming : SameTrace hidden incoming incoming')
    (h : mergeRuntimeInputTrace existing incoming = .ok merged)
    (h' : mergeRuntimeInputTrace existing' incoming' = .ok merged') :
    SameTrace hidden merged merged' := by
  obtain ⟨-, value, hvalue, rfl⟩ := mergeRuntimeInputTrace_ok h
  obtain ⟨-, value', hvalue', rfl⟩ := mergeRuntimeInputTrace_ok h'
  refine ⟨hexisting.inputId, hexisting.inputType, ?_, ?_, ?_, fun hshown => ?_⟩
  · rw [hexisting.required, hincoming.required]
  · rw [hexisting.sensitive, hincoming.sensitive]
  · rw [hexisting.provided, hincoming.provided]
  · simp only [mergedRuntimeInputTraceValue, ← hexisting.value hshown,
      ← hincoming.value (hid ▸ hshown), ← hexisting.sensitive, ← hincoming.sensitive,
      ← hexisting.inputId] at hvalue hvalue'
    exact Except.ok.inj (hvalue.symm.trans hvalue')

/-- Two dictionaries of entries with the same keys in the same order, whose entries
    carry their key and differ at most in hidden values. -/
private structure SameTraces (hidden : String → Prop) (traces traces' : Dict String RuntimeInputTrace) :
    Prop where
  keys : traces.keys = traces'.keys
  ids : ∀ id trace, traces.get? id = some trace → trace.inputId = id
  rel : ∀ id trace trace', traces.get? id = some trace → traces'.get? id = some trace' →
    SameTrace hidden trace trace'

/-- Setting traces that are the same keeps them the same. -/
private theorem SameTraces.set {hidden : String → Prop}
    {traces traces' : Dict String RuntimeInputTrace} {trace trace' : RuntimeInputTrace}
    {id : String} (h : SameTraces hidden traces traces') (hid : trace.inputId = id)
    (hrel : SameTrace hidden trace trace') :
    SameTraces hidden (traces.set id trace) (traces'.set id trace') where
  keys := Dict.keys_set_congr h.keys _ _ _
  ids := by
    intro k t hget
    rw [Dict.get?_set] at hget
    split at hget
    · rename_i hk
      rw [← Option.some.inj hget, hid, hk]
    · exact h.ids k t hget
  rel := by
    intro k t t' hget hget'
    rw [Dict.get?_set] at hget hget'
    split at hget
    · rename_i hk
      rw [if_pos hk] at hget'
      rw [← Option.some.inj hget, ← Option.some.inj hget']
      exact hrel
    · rename_i hk
      rw [if_neg hk] at hget'
      exact h.rel k t t' hget hget'

/-- A round of the merge keeps two runs alike. -/
private theorem SameTraces.step {hidden : String → Prop}
    {traces traces' next next' : Dict String RuntimeInputTrace} {trace trace' : RuntimeInputTrace}
    (hrel : SameTrace hidden trace trace') (hinv : SameTraces hidden traces traces')
    (h : mergeTrace traces trace = .ok next) (h' : mergeTrace traces' trace' = .ok next') :
    SameTraces hidden next next' := by
  have hmem : traces.get? trace.inputId = none ↔ traces'.get? trace'.inputId = none := by
    rw [Dict.get?_eq_none_iff, Dict.get?_eq_none_iff, hinv.keys, hrel.inputId]
  rcases mergeTrace_cases h with ⟨hfresh, rfl⟩ | ⟨existing, merged, hsome, hok, rfl⟩
  · rcases mergeTrace_cases h' with ⟨_, rfl⟩ | ⟨existing', merged', hsome', _, _⟩
    · rw [← hrel.inputId]
      exact hinv.set rfl hrel
    · rw [hmem.mp hfresh] at hsome'
      cases hsome'
  · rcases mergeTrace_cases h' with ⟨hfresh', _⟩ | ⟨existing', merged', hsome', hok', rfl⟩
    · rw [hmem.mpr hfresh'] at hsome
      cases hsome
    · rw [← hrel.inputId] at hsome' ⊢
      have hid := hinv.ids _ existing hsome
      have hmerged := (hinv.rel _ _ _ hsome hsome').merge hid hrel hok hok'
      obtain ⟨-, _, -, rfl⟩ := mergeRuntimeInputTrace_ok hok
      exact hinv.set hid hmerged

/-- The compiled cases of the areas become the cases of the merged plan, in order. -/
theorem mergeCompiledTestCases_ok {plans : List CompiledTestPlan}
    {testCases : List CatalogueTestCase} (h : mergeCompiledTestCases plans = .ok testCases) :
    testCases = plans.flatMap (·.testCases) ∧ (testCases.map (·.testCaseId)).Nodup := by
  refine List.foldlM_ok_induction
    (P := fun seen merged => merged = seen ∧ (merged.map (·.testCaseId)).Nodup) h
    ⟨rfl, List.nodup_nil⟩ ?_
  rintro seen testCase merged merged' - ⟨rfl, hnodup⟩ hstep
  obtain ⟨hfresh, hmerged⟩ := ite_error_eq_ok.mp hstep
  obtain rfl := Except.ok.inj hmerged
  refine ⟨rfl, ?_⟩
  rw [List.map_append, List.map_cons, List.map_nil, List.nodup_append]
  refine ⟨hnodup, List.nodup_singleton _, ?_⟩
  intro a ha b hb hab
  rw [List.mem_singleton] at hb
  exact hfresh (hb ▸ hab ▸ ha)

/-! ## Compiled documents -/

section Documents

variable {validateHttpsUrl : String → String → Except PyError Unit}
  {catalogues : List TestCatalogue}

/-- One compiled area: its cases mark exactly the sensitive entries. -/
private theorem compileTestPlan_sensitive {catalogue : TestCatalogue} {spec : TestPlanSpec}
    {plan : CompiledTestPlan} (h : compileTestPlan validateHttpsUrl catalogue spec = .ok plan) :
    (plan.traceability.runtimeInputSnapshot.map (·.inputId)).Nodup ∧
    (∀ trace ∈ plan.traceability.runtimeInputSnapshot,
      (trace.sensitive = true ↔ MarkedSensitive plan.testCases trace.inputId) ∧
      (trace.sensitive = true → trace.value = none)) ∧
    ∀ id, MarkedSensitive plan.testCases id →
      ∃ trace ∈ plan.traceability.runtimeInputSnapshot, trace.inputId = id := by
  obtain ⟨run, hrun, rfl⟩ := compileTestPlan_eq_ok.mp h
  obtain ⟨hnodup, htraces⟩ := runtimeInputSnapshot_sensitive hrun.snapshot
  refine ⟨hnodup, htraces, ?_⟩
  rintro id ⟨testCase, hcase, requirement, hmem, rfl, -⟩
  exact (runtimeInputSnapshot_ok hrun.snapshot).2 requirement
    (List.mem_flatMap.mpr ⟨testCase, hcase, hmem⟩)

/-- The merged snapshot of a shared document: its cases mark exactly the sensitive
    entries, whichever areas they come from. -/
private theorem compilePlanDocumentV2_sensitive {document : PlanDocumentV2}
    {plan : CompiledTestPlan}
    (h : compilePlanDocumentV2 validateHttpsUrl document catalogues = .ok plan) :
    (plan.traceability.runtimeInputSnapshot.map (·.inputId)).Nodup ∧
    (∀ trace ∈ plan.traceability.runtimeInputSnapshot,
      (trace.sensitive = true ↔ MarkedSensitive plan.testCases trace.inputId) ∧
      (trace.sensitive = true → trace.value = none)) ∧
    ∀ id, MarkedSensitive plan.testCases id →
      ∃ trace ∈ plan.traceability.runtimeInputSnapshot, trace.inputId = id := by
  obtain ⟨candidates, endpoints, parts, plans, -, -, -, -, hplans, hmerge⟩ :=
    compilePlanDocumentV2_eq_ok.mp h
  have harea : ∀ area ∈ plans, ∃ catalogue spec,
      compileTestPlan validateHttpsUrl catalogue spec = .ok area := by
    intro area hmem
    obtain ⟨part, -, hpart⟩ :=
      List.Forall₂.exists_of_mem_right (List.mapM_eq_ok.mp hplans) hmem
    exact ⟨_, _, hpart⟩
  unfold mergeCompiledPlanDocumentsV2 at hmerge
  simp only [bind_eq_ok] at hmerge
  obtain ⟨testCases, hcases, traces, htraces, _, _, hplan⟩ := hmerge
  obtain rfl := Except.ok.inj hplan
  obtain ⟨rfl, -⟩ := mergeCompiledTestCases_ok hcases
  obtain ⟨hmerged, hcontains⟩ := mergeRuntimeInputSnapshots_ok (fun area hmem trace htrace => by
    obtain ⟨_, _, hok⟩ := harea area hmem
    exact ((compileTestPlan_sensitive hok).2.1 trace htrace).2) htraces
  -- A merged entry is marked by a case of the area that its sensitive entry comes from.
  have hmarked : ∀ id, (∃ trace ∈ plans.flatMap (·.traceability.runtimeInputSnapshot),
        trace.inputId = id ∧ trace.sensitive = true) ↔
      MarkedSensitive (plans.flatMap (·.testCases)) id := by
    intro id
    constructor
    · rintro ⟨trace, hmem, rfl, hsensitive⟩
      obtain ⟨area, harea', htrace⟩ := List.mem_flatMap.mp hmem
      obtain ⟨_, _, hok⟩ := harea area harea'
      obtain ⟨testCase, hcase, hrest⟩ :=
        ((compileTestPlan_sensitive hok).2.1 trace htrace).1.mp hsensitive
      exact ⟨testCase, List.mem_flatMap.mpr ⟨area, harea', hcase⟩, hrest⟩
    · rintro ⟨testCase, hcase, hrest⟩
      obtain ⟨area, harea', hcase⟩ := List.mem_flatMap.mp hcase
      obtain ⟨_, _, hok⟩ := harea area harea'
      obtain ⟨-, hsens, hexists⟩ := compileTestPlan_sensitive hok
      obtain ⟨trace, htrace, rfl⟩ := hexists id ⟨testCase, hcase, hrest⟩
      exact ⟨trace, List.mem_flatMap.mpr ⟨area, harea', htrace⟩, rfl,
        (hsens trace htrace).1.mpr ⟨testCase, hcase, hrest⟩⟩
  refine ⟨?_, ?_, ?_⟩
  · have hkeys : traces.values.map (·.inputId) = traces.keys := by
      rw [Dict.values, Dict.keys, List.map_map]
      apply List.map_congr_left
      intro entry hentry
      exact (hmerged entry.1 entry.2 (Dict.mem_entries_iff.mp hentry)).1
    rw [hkeys]
    exact traces.keys_nodup
  · intro trace htrace
    obtain ⟨id, hget⟩ := Dict.mem_values_iff.mp htrace
    obtain ⟨rfl, hsensitive, hnone⟩ := hmerged id trace hget
    exact ⟨hsensitive.trans (hmarked _), hnone⟩
  · intro id hid
    obtain ⟨trace, hmem, rfl, -⟩ := (hmarked id).mpr hid
    obtain ⟨merged, hget⟩ := Dict.mem_keys_iff.mp (Dict.contains_iff.mp (hcontains trace hmem))
    exact ⟨merged, Dict.mem_values_iff.mpr ⟨_, hget⟩, (hmerged _ merged hget).1⟩

/-- What `compileTestPlan_sensitive` and `compilePlanDocumentV2_sensitive` say, for
    documents of both schemas. -/
private theorem compileTestPlanDocument_sensitive {document : ParsedPlanDocument}
    {plan : CompiledTestPlan}
    (h : compileTestPlanDocument validateHttpsUrl document catalogues = .ok plan) :
    (plan.traceability.runtimeInputSnapshot.map (·.inputId)).Nodup ∧
    (∀ trace ∈ plan.traceability.runtimeInputSnapshot,
      (trace.sensitive = true ↔ MarkedSensitive plan.testCases trace.inputId) ∧
      (trace.sensitive = true → trace.value = none)) ∧
    ∀ id, MarkedSensitive plan.testCases id →
      ∃ trace ∈ plan.traceability.runtimeInputSnapshot, trace.inputId = id := by
  cases document with
  | spec spec =>
    obtain ⟨catalogue, -, hplan⟩ := bind_eq_ok.mp h
    exact compileTestPlan_sensitive hplan
  | shared document => exact compilePlanDocumentV2_sensitive h

variable {hidden : String → Prop} {runtimeInputs runtimeInputs' : Dict String Json}

/-- Two runs of one document: the same cases, and entries that differ at most in hidden
    values. -/
private theorem compileTestPlanDocument_twoRuns
    (hagree : ∀ id, ¬ hidden id → runtimeInputs.get? id = runtimeInputs'.get? id)
    (hprovided : ∀ id, Provided runtimeInputs id ↔ Provided runtimeInputs' id)
    {document : ParsedPlanDocument} {plan plan' : CompiledTestPlan}
    (h : compileTestPlanDocument validateHttpsUrl (document.withRuntimeInputs runtimeInputs)
      catalogues = .ok plan)
    (h' : compileTestPlanDocument validateHttpsUrl (document.withRuntimeInputs runtimeInputs')
      catalogues = .ok plan') :
    plan.testCases = plan'.testCases ∧ List.Forall₂ (SameTrace hidden)
      plan.traceability.runtimeInputSnapshot plan'.traceability.runtimeInputSnapshot := by
  cases document with
  | spec spec =>
    obtain ⟨catalogue, hcatalogue, hplan⟩ := bind_eq_ok.mp h
    obtain ⟨catalogue', hcatalogue', hplan'⟩ := bind_eq_ok.mp h'
    obtain rfl := Except.ok.inj (hcatalogue.symm.trans hcatalogue')
    exact compileTestPlan_twoRuns hagree hprovided spec hplan hplan'
  | shared document =>
    obtain ⟨candidates, endpoints, parts, plans, hcandidates, hendpoints, -, hparts, hplans,
      hmerge⟩ := compilePlanDocumentV2_eq_ok.mp h
    obtain ⟨candidates', endpoints', parts', plans', hcandidates', hendpoints', -, hparts', hplans',
      hmerge'⟩ := compilePlanDocumentV2_eq_ok.mp h'
    obtain rfl := Except.ok.inj (hcandidates.symm.trans hcandidates')
    obtain rfl := Except.ok.inj (hendpoints.symm.trans hendpoints')
    obtain rfl := Except.ok.inj (hparts.symm.trans hparts')
    have hareas := List.forall₂_of_mapM_ok (S := fun area area' =>
      area.testCases = area'.testCases ∧ List.Forall₂ (SameTrace hidden)
        area.traceability.runtimeInputSnapshot area'.traceability.runtimeInputSnapshot)
      hplans hplans' fun part _ _ _ hok hok' => compileTestPlan_twoRuns hagree hprovided
        (areaSpec document part.1 part.2) hok hok'
    unfold mergeCompiledPlanDocumentsV2 at hmerge hmerge'
    simp only [bind_eq_ok] at hmerge hmerge'
    obtain ⟨testCases, hcases, traces, htraces, _, _, hplan⟩ := hmerge
    obtain ⟨testCases', hcases', traces', htraces', _, _, hplan'⟩ := hmerge'
    obtain rfl := Except.ok.inj hplan
    obtain rfl := Except.ok.inj hplan'
    constructor
    · rw [(mergeCompiledTestCases_ok hcases).1, (mergeCompiledTestCases_ok hcases').1,
        List.flatMap_def, List.flatMap_def]
      exact congrArg List.flatten (hareas.map_eq fun _ _ harea => harea.1)
    · have hflat := List.rel_flatMap hareas (P := SameTrace hidden) fun _ _ harea => harea.2
      have hsame := List.foldlM_ok_rel (S := SameTraces hidden) hflat htraces htraces'
        ⟨rfl, by simp, by simp⟩ fun _ _ _ _ _ _ hrel hinv hok hok' => hinv.step hrel hok hok'
      exact Dict.forall₂_values hsame.keys hsame.rel

end Documents

/-- The snapshot of a compiled plan document has one entry for each input. An input that
    a compiled case of any area marks sensitive has a sensitive entry without a value.
    Two mappings that agree on the other inputs and provide the same inputs have equal
    snapshots. -/
theorem compileTestPlanDocument_hides_sensitive
    (validateHttpsUrl : String → String → Except PyError Unit) (catalogues : List TestCatalogue)
    (document : ParsedPlanDocument) :
    (∀ plan, compileTestPlanDocument validateHttpsUrl document catalogues = .ok plan →
      (plan.traceability.runtimeInputSnapshot.map (·.inputId)).Nodup ∧
      ∀ id, MarkedSensitive plan.testCases id →
        ∃ trace ∈ plan.traceability.runtimeInputSnapshot,
          trace.inputId = id ∧ trace.sensitive = true ∧ trace.value = none) ∧
    ∀ runtimeInputs runtimeInputs' plan plan',
      compileTestPlanDocument validateHttpsUrl (document.withRuntimeInputs runtimeInputs)
        catalogues = .ok plan →
      compileTestPlanDocument validateHttpsUrl (document.withRuntimeInputs runtimeInputs')
        catalogues = .ok plan' →
      (∀ id, ¬ MarkedSensitive plan.testCases id →
        runtimeInputs.get? id = runtimeInputs'.get? id) →
      (∀ id, Provided runtimeInputs id ↔ Provided runtimeInputs' id) →
      plan.testCases = plan'.testCases ∧
        plan.traceability.runtimeInputSnapshot = plan'.traceability.runtimeInputSnapshot := by
  constructor
  · intro plan h
    obtain ⟨hnodup, hsensitive, hexists⟩ := compileTestPlanDocument_sensitive h
    refine ⟨hnodup, fun id hid => ?_⟩
    obtain ⟨trace, htrace, rfl⟩ := hexists id hid
    have hmarked := (hsensitive trace htrace).1.mpr hid
    exact ⟨trace, htrace, rfl, hmarked, (hsensitive trace htrace).2 hmarked⟩
  · intro runtimeInputs runtimeInputs' plan plan' h h' hagree hprovided
    -- the two runs compile the same cases, and their traces differ in hidden values only
    obtain ⟨hcases, hrel⟩ := compileTestPlanDocument_twoRuns hagree hprovided h h'
    obtain ⟨-, hsensitive, -⟩ := compileTestPlanDocument_sensitive h
    obtain ⟨-, hsensitive', -⟩ := compileTestPlanDocument_sensitive h'
    refine ⟨hcases, ?_⟩
    rw [← List.forall₂_eq_eq_eq]
    exact hrel.imp_of_mem fun trace trace' htrace htrace' hsame => hsame.eq
      (hsensitive trace htrace).1.mpr (hsensitive trace htrace).2 (hsensitive' trace' htrace').2

/-- The catalogue of one area with a single case that reads the debtor account, as a
    sensitive input or not. -/
def debtorCatalogue (api path : String) (sensitive : Bool) : TestCatalogue where
  key := ⟨"open-banking", "v4.0", api⟩
  catalogueVersion := "1.0"
  testCases := [
    { testCaseId := api ++ "-debtor"
      mandatory := true
      applicability := {
        securityProfiles := ⟨[.all]⟩
        endpointRefs := [⟨.get, path⟩] }
      runtimeInputRequirements := [
        { inputId := "debtorAccount"
          inputType := .string
          label := "Debtor account"
          sensitive := sensitive }] }]

/-- A document over an area that shows the debtor account and one that hides it. -/
def debtorDocument : ParsedPlanDocument :=
  .shared {
    scheme := "open-banking-uk"
    specification := "read-write"
    version := "4.0.1"
    securityProfile := .fapi1Advanced
    resourceGroups := [
      { resourceGroupId := "AIS", endpoints := [{ method := .get, path := "/accounts" }] },
      { resourceGroupId := "PIS", endpoints := [{ method := .get, path := "/payments" }] }]
    runtimeInputs := .empty }

/-- The two areas, of which only the payment area marks the account as sensitive. -/
def debtorCatalogues : List TestCatalogue :=
  [debtorCatalogue "ais" "/accounts" false, debtorCatalogue "pis" "/payments" true]

/-- Two debtor accounts give one merged snapshot, although the account area alone would
    copy them. -/
theorem compileTestPlanDocument_hides_debtorAccount :
    ∃ plan plan',
      compileTestPlanDocument (fun _ _ => .ok ())
        (debtorDocument.withRuntimeInputs (.set .empty "debtorAccount" (.str "10000109010102")))
        debtorCatalogues = .ok plan ∧
      compileTestPlanDocument (fun _ _ => .ok ())
        (debtorDocument.withRuntimeInputs (.set .empty "debtorAccount" (.str "20000109010103")))
        debtorCatalogues = .ok plan' ∧
      MarkedSensitive plan.testCases "debtorAccount" ∧
      plan.traceability.runtimeInputSnapshot = plan'.traceability.runtimeInputSnapshot := by
  obtain ⟨plan, hplan, hmarked⟩ := exists_ok_of_any
    (x := compileTestPlanDocument (fun _ _ => .ok ())
      (debtorDocument.withRuntimeInputs (.set .empty "debtorAccount" (.str "10000109010102")))
      debtorCatalogues)
    (p := fun plan => MarkedSensitive plan.testCases "debtorAccount") (by decide +kernel)
  obtain ⟨plan', hplan', -⟩ := exists_ok_of_any
    (x := compileTestPlanDocument (fun _ _ => .ok ())
      (debtorDocument.withRuntimeInputs (.set .empty "debtorAccount" (.str "20000109010103")))
      debtorCatalogues)
    (p := fun _ => true) (by decide +kernel)
  refine ⟨plan, plan', hplan, hplan', of_decide_eq_true hmarked,
    ((compileTestPlanDocument_hides_sensitive (fun _ _ => .ok ()) debtorCatalogues
      debtorDocument).2 _ _ plan plan' hplan hplan' ?_ ?_).2⟩
  · intro id hid
    have hne : id ≠ "debtorAccount" := by
      rintro rfl
      exact hid (of_decide_eq_true hmarked)
    rw [Dict.get?_set, Dict.get?_set, if_neg hne, if_neg hne]
  · intro id
    by_cases hid : id = "debtorAccount"
    · subst hid
      simp [Provided, providedValue]
    · simp [Provided, providedValue, hid]

end Conformance
