import Conformance.ForStd.List
import Conformance.Native.ConcurrentExecutor
import Conformance.Spec.CertificationAgreement

/-!
# Results under every interleaving

The execution groups of a manifest run on threads that interleave freely. Each
thread keeps what it has done and what it still has to do of its own group, so
whatever the order, the finished threads hold one result per scheduled step, and
sorting by manifest position puts them into one and the same list.

## Key results

- `buildExecutionSchedule_setupSteps`, `buildExecutionSchedule_groups`: the schedule
- `runThreads_of`: what the threads hold along every run
- `executeInterleaved_results`: the result list of every complete run
-/

namespace Conformance

open Except

variable {p : FieldParsers}

/-! ## The schedule -/

/-- A selected setup step. -/
def TestPlan.runsInSetup (plan : TestPlan) (step : V1Step p) : Bool :=
  step.id ∈ plan.selectedStepIds && step.phase = .setup

/-- A selected execution step. -/
def TestPlan.runsInExecution (plan : TestPlan) (step : V1Step p) : Bool :=
  step.id ∈ plan.selectedStepIds && step.phase ≠ .setup

/-- A step of the setup is selected. -/
theorem selected_of_runsInSetup {plan : TestPlan} {step : V1Step p}
    (h : plan.runsInSetup step = true) : step.id ∈ plan.selectedStepIds := by
  simp only [TestPlan.runsInSetup, Bool.and_eq_true, decide_eq_true_eq] at h
  exact h.1

/-- A step of the execution is selected. -/
theorem selected_of_runsInExecution {plan : TestPlan} {step : V1Step p}
    (h : plan.runsInExecution step = true) : step.id ∈ plan.selectedStepIds := by
  simp only [TestPlan.runsInExecution, Bool.and_eq_true, decide_eq_true_eq] at h
  exact h.1

/-- What one round of the schedule loop adds: to the setup sequence, to each group and to
    the groups as a whole. -/
theorem scheduleStep_adds (plan : TestPlan) (acc : ScheduleAccumulator p) (step : V1Step p) :
    (scheduleStep plan.selectedStepIds acc step).setupSteps =
      acc.setupSteps ++ [step].filter plan.runsInSetup ∧
    (∀ groupId, ((scheduleStep plan.selectedStepIds acc step).groupedSteps.get? groupId).getD [] =
      (acc.groupedSteps.get? groupId).getD [] ++
        [step].filter fun step => plan.runsInExecution step && step.group = groupId) ∧
    (scheduleStep plan.selectedStepIds acc step).groupedSteps.values.flatten.Perm
      (acc.groupedSteps.values.flatten ++ [step].filter plan.runsInExecution) := by
  unfold scheduleStep TestPlan.runsInSetup TestPlan.runsInExecution
  by_cases hselected : step.id ∈ plan.selectedStepIds
  · rw [if_neg (not_not_intro hselected)]
    by_cases hsetup : step.phase = .setup
    · rw [if_pos hsetup]
      simp [hselected, hsetup]
    · rw [if_neg hsetup]
      refine ⟨by simp [hselected, hsetup], fun groupId => ?_, ?_⟩
      · by_cases hid : step.group = groupId
        · simp [hselected, hsetup, hid]
        · simp [hselected, hsetup, hid, Ne.symm hid]
      · simp only [hselected, hsetup, decide_true, ne_eq, not_false_eq_true, Bool.and_self,
          List.filter_cons_of_pos, List.filter_nil]
        exact Dict.flatten_values_set_snoc _ _ _
  · rw [if_pos hselected]
    simp [hselected]

/-- What the schedule loop has gathered from a list of steps. -/
private theorem foldl_scheduleStep (plan : TestPlan) (steps : List (V1Step p)) :
    (steps.foldl (scheduleStep plan.selectedStepIds) {}).setupSteps =
      steps.filter plan.runsInSetup ∧
    (∀ groupId, ((steps.foldl (scheduleStep plan.selectedStepIds) {}).groupedSteps.get?
      groupId).getD [] =
        steps.filter fun step => plan.runsInExecution step && step.group = groupId) ∧
    (steps.foldl (scheduleStep plan.selectedStepIds) {}).groupedSteps.values.flatten.Perm
      (steps.filter plan.runsInExecution) := by
  induction steps using List.reverseRecOn with
  | nil => exact ⟨rfl, fun _ => rfl, .refl _⟩
  | append_singleton steps step ih =>
    obtain ⟨hsetup, hgroup, hgroups⟩ := ih
    rw [List.foldl_append, List.foldl_cons, List.foldl_nil]
    obtain ⟨hsetup', hgroup', hgroups'⟩ := scheduleStep_adds plan
      (steps.foldl (scheduleStep plan.selectedStepIds) {}) step
    refine ⟨?_, fun groupId => ?_, ?_⟩
    · rw [hsetup', hsetup, List.filter_append]
    · rw [hgroup', hgroup, List.filter_append]
    · rw [List.filter_append]
      exact hgroups'.trans (hgroups.append_right _)

/-- The setup sequence is the selected setup steps in manifest order. -/
theorem buildExecutionSchedule_setupSteps {manifest : Manifest p} (plan : TestPlan)
    (hv1 : manifest.schemaVersion = .v1) :
    (buildExecutionSchedule manifest plan).setupSteps = manifest.steps.filter plan.runsInSetup := by
  rw [buildExecutionSchedule, if_neg (not_not_intro hv1)]
  exact (foldl_scheduleStep plan manifest.steps).1

/-- An execution group holds the selected execution steps of its id in manifest order. -/
theorem mem_executionGroups {manifest : Manifest p} {plan : TestPlan}
    (hv1 : manifest.schemaVersion = .v1) {group : ExecutionGroup p}
    (hgroup : group ∈ (buildExecutionSchedule manifest plan).executionGroups) :
    group.steps = manifest.steps.filter fun step =>
      plan.runsInExecution step && step.group = group.groupId := by
  rw [buildExecutionSchedule, if_neg (not_not_intro hv1)] at hgroup
  obtain ⟨entry, hentry, rfl⟩ := List.mem_map.mp hgroup
  have hget := (foldl_scheduleStep plan manifest.steps).2.1 entry.1
  rw [Dict.mem_entries_iff.mp hentry, Option.getD_some] at hget
  exact hget

/-- The execution groups together hold the selected execution steps. -/
theorem buildExecutionSchedule_groups {manifest : Manifest p} (plan : TestPlan)
    (hv1 : manifest.schemaVersion = .v1) :
    ((buildExecutionSchedule manifest plan).executionGroups.map ExecutionGroup.steps).flatten.Perm
      (manifest.steps.filter plan.runsInExecution) := by
  rw [buildExecutionSchedule, if_neg (not_not_intro hv1)]
  simp only [List.map_map]
  exact (foldl_scheduleStep plan manifest.steps).2.2

/-! ## Threads -/

variable {executor : SharedExecutor p}

/-- A thread of a sequence of steps: either it has a result for each step it has executed
    and has the others left, or one of the steps has raised. -/
def StepThread.Of (steps : List (V1Step p)) (thread : StepThread executor) : Prop :=
  match thread.failure with
  | none => ∃ executed, steps = executed ++ thread.remaining ∧
      thread.results.map StepResult.key = executed.map V1Step.key
  | some raised => ∃ step ∈ steps, ∃ context world,
      (executeSharedStep executor step context world).1 = .error raised

/-- A step's result repeats its id and its `mandatory` flag. -/
theorem executeSharedStep_key {step : V1Step p} {context newContext : executor.Context}
    {world : executor.World} {result : StepResult}
    (h : (executeSharedStep executor step context world).1 = .ok (result, newContext)) :
    result.key = step.key := by
  unfold executeSharedStep at h
  cases hdispatch : (dispatchSharedStep executor step context world).1 with
  | error error =>
    simp only [hdispatch] at h
    cases h
  | ok outcome =>
    simp only [hdispatch] at h
    obtain ⟨rfl, -⟩ := Prod.mk.inj (Except.ok.inj h)
    by_cases hmandatory : step.mandatory = true <;>
      simp [StepResult.key, V1Step.key, StepOutcome.toStepResult, hmandatory]

/-- What one step of a thread does. -/
theorem StepThread.advance_cases {thread thread' : StepThread executor}
    {world world' : executor.World} (h : thread.advance executor world = some (thread', world')) :
    ∃ step rest, thread.remaining = step :: rest ∧
      ((∃ result context,
          executeSharedStep executor step thread.context world = (.ok (result, context), world') ∧
          thread' = { thread with
            remaining := rest, context := context, results := thread.results ++ [result] }) ∨
        ∃ error, executeSharedStep executor step thread.context world = (.error error, world') ∧
          thread' = { thread with remaining := [], failure := some error }) := by
  unfold StepThread.advance at h
  split at h
  · cases h
  · rename_i step rest hremaining
    refine ⟨step, rest, hremaining, ?_⟩
    split at h
    · rename_i result context newWorld hexecute
      obtain ⟨rfl, rfl⟩ := Prod.mk.inj (Option.some.inj h)
      exact .inl ⟨result, context, hexecute, rfl⟩
    · rename_i error newWorld hexecute
      obtain ⟨rfl, rfl⟩ := Prod.mk.inj (Option.some.inj h)
      exact .inr ⟨error, hexecute, rfl⟩

/-- A failed thread has no steps left. -/
def StepThread.Ended (thread : StepThread executor) : Prop :=
  thread.failure ≠ none → thread.remaining = []

/-- What holds of every thread and is kept by each of its steps holds along every run. -/
theorem runThreads_forall₂ {α : Type} {Q : α → StepThread executor → Prop}
    {start final : ThreadsState executor} {order : List Nat} {starts : List α}
    (hstart : List.Forall₂ Q starts start.threads)
    (hstep : ∀ a thread thread' world world', Q a thread →
      thread.advance executor world = some (thread', world') → Q a thread')
    (h : runThreads executor start order = some final) :
    List.Forall₂ Q starts final.threads := by
  refine Machine.run_induction (P := fun _ state =>
    List.Forall₂ Q starts state.threads) hstart ?_ h
  intro _ state index state' _ hstate hadvanced
  unfold advanceThread at hadvanced
  split at hadvanced
  · cases hadvanced
  · rename_i thread hthread
    obtain ⟨⟨thread', world'⟩, hadvance, rfl⟩ := Option.map_eq_some_iff.mp hadvanced
    exact hstate.set hthread fun a hQ => hstep a thread thread' _ world' hQ hadvance

/-- One step of a thread keeps its account. -/
theorem StepThread.Of.advance {steps : List (V1Step p)} {thread thread' : StepThread executor}
    {world world' : executor.World} (hof : thread.Of steps) (hended : thread.Ended)
    (h : thread.advance executor world = some (thread', world')) :
    thread'.Of steps ∧ thread'.Ended := by
  obtain ⟨step, rest, hremaining, hcases⟩ := advance_cases h
  have hrunning : thread.failure = none := by
    by_contra hfailed
    rw [hended hfailed] at hremaining
    cases hremaining
  unfold StepThread.Of at hof
  rw [hrunning] at hof
  obtain ⟨executed, hsteps, hresults⟩ := hof
  rw [hremaining] at hsteps
  rcases hcases with ⟨result, context, hexecute, rfl⟩ | ⟨error, hexecute, rfl⟩
  · refine ⟨?_, fun hfailed => absurd hrunning hfailed⟩
    unfold StepThread.Of
    rw [hrunning]
    refine ⟨executed ++ [step], by simp [hsteps], ?_⟩
    simp [hresults, executeSharedStep_key (congrArg Prod.fst hexecute)]
  · refine ⟨⟨step, ?_, thread.context, world, congrArg Prod.fst hexecute⟩, fun _ => rfl⟩
    simp [hsteps]

/-- The threads of a phase keep their accounts along every run. -/
theorem runThreads_of {start final : ThreadsState executor} {order : List Nat}
    {sequences : List (List (V1Step p))}
    (hstart : List.Forall₂ (fun steps thread => thread.Of steps ∧ thread.Ended)
      sequences start.threads)
    (h : runThreads executor start order = some final) :
    List.Forall₂ StepThread.Of sequences final.threads :=
  (runThreads_forall₂ hstart
    (fun _ _ _ _ _ hQ hadvance => hQ.1.advance hQ.2 hadvance) h).imp fun _ _ hQ => hQ.1

/-- A fresh thread has its whole sequence left. -/
theorem StepThread.of_start (steps : List (V1Step p)) (context : executor.Context) :
    StepThread.Of steps ({ remaining := steps, context := context } : StepThread executor) ∧
      StepThread.Ended ({ remaining := steps, context := context } : StepThread executor) :=
  ⟨⟨[], rfl, rfl⟩, fun hfailed => absurd rfl hfailed⟩

/-- A finished thread returns one result per step of its sequence, or one of them raised. -/
theorem StepThread.Of.result {steps : List (V1Step p)} {thread : StepThread executor}
    (hof : thread.Of steps) (hremaining : thread.remaining = []) :
    (∀ results, thread.result executor = .ok results →
      results.map StepResult.key = steps.map V1Step.key) ∧
    ∀ error, thread.result executor = .error error → ∃ step ∈ steps, ∃ context world,
      (executeSharedStep executor step context world).1 = .error error := by
  unfold StepThread.Of at hof
  unfold StepThread.result
  cases hfailure : thread.failure with
  | none =>
    rw [hfailure] at hof
    obtain ⟨executed, hsteps, hresults⟩ := hof
    rw [hremaining, List.append_nil] at hsteps
    refine ⟨fun results h => ?_, fun _ h => (by cases h)⟩
    rw [← Except.ok.inj h, hresults, hsteps]
  | some raised =>
    rw [hfailure] at hof
    refine ⟨fun _ h => (by cases h), fun _ h => ?_⟩
    rw [← Except.error.inj h]
    exact hof

/-- The results of finished threads are those of their sequences. -/
theorem finished_results {threads : List (StepThread executor)}
    {sequences : List (List (V1Step p))} {results : List (List StepResult)}
    (hof : List.Forall₂ StepThread.Of sequences threads)
    (hfinished : ∀ thread ∈ threads, thread.remaining = [])
    (hresults : threads.mapM (StepThread.result executor) = .ok results) :
    results.map (List.map StepResult.key) = sequences.map (List.map V1Step.key) := by
  have hpairs := List.mapM_eq_ok.mp hresults
  clear hresults
  induction hof generalizing results with
  | nil => cases hpairs; rfl
  | cons hhead _ ih =>
    cases hpairs with
    | cons hresult hrest =>
      rw [List.map_cons, List.map_cons,
        ih (fun thread hmem => hfinished thread (List.mem_cons_of_mem _ hmem)) hrest,
        (hhead.result (hfinished _ List.mem_cons_self)).1 _ hresult]

/-- If reading the futures raises, a step of one of the sequences has. -/
theorem finished_error {threads : List (StepThread executor)}
    {sequences : List (List (V1Step p))} {raised : PyError}
    (hof : List.Forall₂ StepThread.Of sequences threads)
    (hfinished : ∀ thread ∈ threads, thread.remaining = [])
    (herror : threads.mapM (StepThread.result executor) = .error raised) :
    ∃ step ∈ sequences.flatten, ∃ context world,
      (executeSharedStep executor step context world).1 = .error raised := by
  -- the first thread that raised decides
  induction hof with
  | nil => cases herror
  | @cons steps thread sequences threads hhead _ ih =>
    rw [List.mapM_cons] at herror
    cases hresult : thread.result executor with
    | error first =>
      rw [hresult] at herror
      obtain ⟨step, hstep, hraises⟩ :=
        (hhead.result (hfinished _ List.mem_cons_self)).2 _ hresult
      rw [← Except.error.inj herror]
      exact ⟨step, by simp [hstep], hraises⟩
    | ok results =>
      rw [hresult] at herror
      cases hrest : threads.mapM (StepThread.result executor) with
      | ok others =>
        simp only [hrest] at herror
        cases herror
      | error later =>
        simp only [hrest] at herror
        obtain rfl := Except.error.inj herror
        obtain ⟨step, hstep, hraises⟩ :=
          ih (fun thread hmem => hfinished thread (List.mem_cons_of_mem _ hmem)) hrest
        exact ⟨step, by simp only [List.flatten_cons, List.mem_append, hstep, or_true], hraises⟩

/-! ## The merge -/

/-- The position a step id is sorted by. -/
private def idIndex (manifest : Manifest p) (stepId : String) : Nat :=
  ((manifestOrder manifest).get? stepId).getD (manifestOrder manifest).size

/-- Manifest positions increase along the manifest. -/
theorem pairwise_idIndex {manifest : Manifest p} (hids : manifest.WellFormedIds) :
    manifest.steps.Pairwise fun a b => idIndex manifest a.id < idIndex manifest b.id := by
  have hmap : manifest.steps.zipIdx.map (fun entry => entry.1.id) =
      manifest.steps.map V1Step.id := by
    have hcomp := congrArg (List.map V1Step.id) (List.zipIdx_map_fst 0 manifest.steps)
    rwa [List.map_map] at hcomp
  have hindex : ∀ entry ∈ manifest.steps.zipIdx, idIndex manifest entry.1.id = entry.2 := by
    intro entry hentry
    have hnodup : (manifest.steps.zipIdx.map fun entry => entry.1.id).Nodup := hmap ▸ hids.nodup
    rw [idIndex, manifestOrder, Dict.get?_foldl_set_of_mem Prod.snd hnodup hentry .empty,
      Option.getD_some]
  have hpairs : manifest.steps.zipIdx.Pairwise fun a b => a.2 < b.2 := by
    rw [← List.pairwise_map (f := Prod.snd) (R := (· < ·)), List.zipIdx_map_snd]
    exact List.pairwise_lt_range'
  rw [← List.zipIdx_map_fst 0 manifest.steps, List.pairwise_map]
  exact hpairs.imp_of_mem fun ha hb hlt => by rw [hindex _ ha, hindex _ hb]; exact hlt

/-- Results of some of the steps, sorted by manifest position, are in manifest order. -/
theorem insertionSort_manifestIndex {manifest : Manifest p} (hids : manifest.WellFormedIds)
    {results : List StepResult} {steps : List (V1Step p)} (hsub : steps.Sublist manifest.steps)
    (hperm : (results.map StepResult.key).Perm (steps.map V1Step.key)) :
    (results.insertionSort fun a b => manifestIndex manifest a ≤ manifestIndex manifest b).map
      StepResult.key = steps.map V1Step.key := by
  have hstrict : (steps.map V1Step.key).Pairwise fun a b =>
      idIndex manifest a.1 < idIndex manifest b.1 :=
    List.pairwise_map.mpr ((pairwise_idIndex hids).sublist hsub)
  have hsorted : ((results.insertionSort fun a b =>
      manifestIndex manifest a ≤ manifestIndex manifest b).map StepResult.key).Pairwise
      fun a b => idIndex manifest a.1 ≤ idIndex manifest b.1 := by
    refine List.pairwise_map.mpr ?_
    have : Std.Total fun a b : StepResult => manifestIndex manifest a ≤ manifestIndex manifest b :=
      ⟨fun a b => Nat.le_total _ _⟩
    have : IsTrans StepResult fun a b => manifestIndex manifest a ≤ manifestIndex manifest b :=
      ⟨fun a b c => Nat.le_trans⟩
    exact List.pairwise_insertionSort _ results
  refine List.Perm.eq_of_pairwise ?_ hsorted (hstrict.imp fun h => Nat.le_of_lt h)
    (((List.perm_insertionSort _ results).map _).trans hperm)
  -- positions increase strictly, so two keys of one position are one key
  intro a b ha hb hab hba
  have hmem := (((List.perm_insertionSort _ results).map _).trans hperm).mem_iff.mp ha
  have hnodup := List.pairwise_map.mpr (hstrict.imp fun h => Nat.ne_of_lt h)
  exact List.inj_on_of_nodup_map hnodup hmem hb (Nat.le_antisymm hab hba)

/-! ## Whole runs -/

/-- What a guard passes holds. -/
private theorem of_guard {P : Prop} [Decidable P] {u : Unit}
    (h : (guard P : Option Unit) = some u) : P := by
  by_contra hP
  simp [guard, hP] at h

/-- The phases of a complete run. -/
theorem executeInterleaved_cases {manifest : Manifest p} {plan : TestPlan}
    {world : executor.World} {setupOrder groupOrder : List Nat}
    {outcome : Except PyError (List StepResult)}
    (h : executeInterleaved executor manifest plan world setupOrder groupOrder = some outcome) :
    ∃ setup thread, runThreads executor (setupStart executor manifest plan world) setupOrder =
        some setup ∧ setup.finished executor = true ∧ setup.threads[0]? = some thread ∧
      ((∃ raised, thread.result executor = .error raised ∧ outcome = .error raised) ∨
        ∃ setupSteps groups, thread.result executor = .ok setupSteps ∧
          runThreads executor (groupsStart executor manifest plan thread.context setup.world)
            groupOrder = some groups ∧ groups.finished executor = true ∧
          outcome = (mergeGroups executor manifest groups.threads).map (setupSteps ++ ·)) := by
  unfold executeInterleaved at h
  obtain ⟨setup, hsetup, h⟩ := Option.bind_eq_some_iff.mp h
  obtain ⟨_, hguard, h⟩ := Option.bind_eq_some_iff.mp h
  obtain ⟨thread, hthread, h⟩ := Option.bind_eq_some_iff.mp h
  refine ⟨setup, thread, hsetup, of_guard hguard, hthread, ?_⟩
  cases hresult : thread.result executor with
  | error raised =>
    rw [hresult] at h
    exact .inl ⟨raised, rfl, (Option.some.inj h).symm⟩
  | ok setupSteps =>
    rw [hresult] at h
    obtain ⟨groups, hgroups, h⟩ := Option.bind_eq_some_iff.mp h
    obtain ⟨_, hguard, h⟩ := Option.bind_eq_some_iff.mp h
    refine .inr ⟨setupSteps, groups, rfl, hgroups, of_guard hguard, ?_⟩
    rw [← Option.some.inj h]
    cases mergeGroups executor manifest groups.threads <;> rfl

/-- A finished phase has no steps left. -/
theorem finished_iff {state : ThreadsState executor} :
    state.finished executor = true ↔ ∀ thread ∈ state.threads, thread.remaining = [] := by
  simp [ThreadsState.finished]

/-- The only thread of a finished setup. -/
theorem setup_of {manifest : Manifest p} {plan : TestPlan} {world : executor.World}
    {order : List Nat} {setup : ThreadsState executor} {thread : StepThread executor}
    (hv1 : manifest.schemaVersion = .v1)
    (hrun : runThreads executor (setupStart executor manifest plan world) order = some setup)
    (hfinished : setup.finished executor = true) (hthread : setup.threads[0]? = some thread) :
    thread.Of (manifest.steps.filter plan.runsInSetup) ∧ thread.remaining = [] := by
  refine ⟨?_, finished_iff.mp hfinished thread (List.mem_of_getElem? hthread)⟩
  have hof : List.Forall₂ StepThread.Of [(buildExecutionSchedule manifest plan).setupSteps]
      setup.threads := by
    refine runThreads_of ?_ hrun
    exact .cons (StepThread.of_start _ executor.initialContext) .nil
  rw [buildExecutionSchedule_setupSteps plan hv1] at hof
  generalize setup.threads = threads at hof hthread
  cases hof with
  | cons hhead hnil =>
    obtain rfl := Option.some.inj hthread
    exact hhead

/-- The threads of the execution groups along a run. -/
theorem groups_of {manifest : Manifest p} {plan : TestPlan} {context : executor.Context}
    {world : executor.World} {order : List Nat} {groups : ThreadsState executor}
    (hrun : runThreads executor (groupsStart executor manifest plan context world) order =
      some groups) :
    List.Forall₂ StepThread.Of
      ((buildExecutionSchedule manifest plan).executionGroups.map ExecutionGroup.steps)
      groups.threads := by
  refine runThreads_of ?_ hrun
  rw [groupsStart, List.forall₂_map_left_iff, List.forall₂_map_right_iff]
  exact List.forall₂_same.mpr fun group _ => StepThread.of_start group.steps context

/-- The merged results of a finished phase are those of the selected execution steps, in
    manifest order. -/
theorem mergeGroups_keys {manifest : Manifest p} {plan : TestPlan}
    {threads : List (StepThread executor)} {results : List StepResult}
    (hids : manifest.WellFormedIds) (hv1 : manifest.schemaVersion = .v1)
    (hof : List.Forall₂ StepThread.Of
      ((buildExecutionSchedule manifest plan).executionGroups.map ExecutionGroup.steps) threads)
    (hfinished : ∀ thread ∈ threads, thread.remaining = [])
    (h : mergeGroups executor manifest threads = .ok results) :
    results.map StepResult.key = (manifest.steps.filter plan.runsInExecution).map V1Step.key := by
  obtain ⟨completed, hcompleted, hsorted⟩ := Except.bind_eq_ok.mp h
  have hkeys := congrArg List.flatten (finished_results hof hfinished hcompleted)
  rw [← List.map_flatten, ← List.map_flatten] at hkeys
  rw [← Except.ok.inj hsorted]
  refine insertionSort_manifestIndex hids List.filter_sublist ?_
  rw [hkeys]
  exact (buildExecutionSchedule_groups plan hv1).map _

/-- If the merge raises, a selected execution step has. -/
theorem mergeGroups_error {manifest : Manifest p} {plan : TestPlan}
    {threads : List (StepThread executor)} {raised : PyError}
    (hv1 : manifest.schemaVersion = .v1)
    (hof : List.Forall₂ StepThread.Of
      ((buildExecutionSchedule manifest plan).executionGroups.map ExecutionGroup.steps) threads)
    (hfinished : ∀ thread ∈ threads, thread.remaining = [])
    (h : mergeGroups executor manifest threads = .error raised) :
    ∃ step ∈ manifest.steps, plan.runsInExecution step = true ∧ ∃ context world,
      (executeSharedStep executor step context world).1 = .error raised := by
  have herror : threads.mapM (StepThread.result executor) = .error raised := by
    unfold mergeGroups at h
    cases hcompleted : threads.mapM (StepThread.result executor) with
    | error first =>
      rw [hcompleted] at h
      exact congrArg Except.error (Except.error.inj h)
    | ok completed =>
      rw [hcompleted] at h
      cases h
  obtain ⟨step, hstep, hraises⟩ := finished_error hof hfinished herror
  have hmem := (buildExecutionSchedule_groups plan hv1).mem_iff.mp hstep
  exact ⟨step, (List.mem_filter.mp hmem).1, (List.mem_filter.mp hmem).2, hraises⟩

/-- Results under the keys of steps have their names. -/
private theorem map_name_of_map_key {results : List StepResult} {steps : List (V1Step p)}
    (h : results.map StepResult.key = steps.map V1Step.key) :
    results.map StepResult.name = steps.map V1Step.id := by
  have hfst := congrArg (List.map Prod.fst) h
  rwa [List.map_map, List.map_map] at hfst

/-- No step is named in both phases, or twice in one. -/
theorem nodup_phases {manifest : Manifest p} (plan : TestPlan) (hids : manifest.WellFormedIds) :
    ((manifest.steps.filter plan.runsInSetup).map V1Step.id ++
      (manifest.steps.filter plan.runsInExecution).map V1Step.id).Nodup := by
  refine List.nodup_append.mpr ⟨hids.nodup.sublist (List.filter_sublist.map _),
    hids.nodup.sublist (List.filter_sublist.map _), ?_⟩
  rintro _ hsetup _ hexecution rfl
  obtain ⟨first, hfirst, hid⟩ := List.mem_map.mp hsetup
  obtain ⟨second, hsecond, hid'⟩ := List.mem_map.mp hexecution
  rw [List.mem_filter] at hfirst hsecond
  obtain rfl := List.inj_on_of_nodup_map hids.nodup hfirst.1 hsecond.1 (hid.trans hid'.symm)
  simp only [TestPlan.runsInSetup, TestPlan.runsInExecution, Bool.and_eq_true,
    decide_eq_true_eq] at hfirst hsecond
  exact hsecond.2.2 hfirst.2.2

/-- The steps of both phases are the selected ones. -/
theorem mem_phases_iff {manifest : Manifest p} (plan : TestPlan) (hids : manifest.WellFormedIds)
    {step : V1Step p} (hstep : step ∈ manifest.steps) :
    step.id ∈ (manifest.steps.filter plan.runsInSetup).map V1Step.id ++
      (manifest.steps.filter plan.runsInExecution).map V1Step.id ↔
    step.id ∈ plan.selectedStepIds := by
  have hmem : ∀ q : V1Step p → Bool,
      step.id ∈ (manifest.steps.filter q).map V1Step.id ↔ q step = true := by
    intro q
    constructor
    · intro h
      obtain ⟨other, hother, hid⟩ := List.mem_map.mp h
      rw [List.mem_filter] at hother
      rw [← List.inj_on_of_nodup_map hids.nodup hother.1 hstep hid]
      exact hother.2
    · intro h
      exact List.mem_map_of_mem (List.mem_filter.mpr ⟨hstep, h⟩)
  rw [List.mem_append, hmem, hmem]
  by_cases hsetup : step.phase = .setup <;>
    simp [TestPlan.runsInSetup, TestPlan.runsInExecution, hsetup]

/-- Under every interleaving a complete run of an accepted manifest returns the selected
    setup steps' results and then one result per selected execution step, both in manifest
    order, unless a selected step raises. The names and their order are thus those of the
    manifest and the plan alone. -/
theorem executeInterleaved_results (executor : SharedExecutor p) {payload : JsonObject}
    {manifest : Manifest p} (hparse : parseManifest p payload = .ok manifest)
    (hv1 : manifest.schemaVersion = .v1) (plan : TestPlan) (world : executor.World)
    (setupOrder groupOrder : List Nat) (outcome : Except PyError (List StepResult))
    (h : executeInterleaved executor manifest plan world setupOrder groupOrder = some outcome) :
    (∀ results, outcome = .ok results →
      results.map StepResult.name =
        (manifest.steps.filter plan.runsInSetup).map V1Step.id ++
          (manifest.steps.filter plan.runsInExecution).map V1Step.id ∧
      (results.map StepResult.name).Nodup ∧
      ∀ step ∈ manifest.steps,
        step.id ∈ results.map StepResult.name ↔ step.id ∈ plan.selectedStepIds) ∧
    ∀ raised, outcome = .error raised →
      ∃ step ∈ manifest.steps, step.id ∈ plan.selectedStepIds ∧ ∃ context world,
        (executeSharedStep executor step context world).1 = .error raised := by
  have hids : manifest.WellFormedIds := parseManifest_wellFormedIds hparse hv1
  obtain ⟨setup, thread, hsetup, hsetupFinished, hthread, hcases⟩ := executeInterleaved_cases h
  obtain ⟨hof, hremaining⟩ := setup_of hv1 hsetup hsetupFinished hthread
  obtain ⟨hsetupOk, hsetupError⟩ := hof.result hremaining
  -- the setup raises, or the groups are run and merged
  rcases hcases with ⟨raised, hresult, rfl⟩ | ⟨setupSteps, groups, hresult, hgroups, hfinished, rfl⟩
  · refine ⟨fun _ heq => (by cases heq), fun _ heq => ?_⟩
    obtain ⟨step, hstep, hraises⟩ := hsetupError raised hresult
    obtain ⟨hmem, hselected⟩ := List.mem_filter.mp hstep
    rw [← Except.error.inj heq]
    exact ⟨step, hmem, selected_of_runsInSetup hselected, hraises⟩
  · have hgroupsOf := groups_of hgroups
    have hdone := finished_iff.mp hfinished
    cases hmerge : mergeGroups executor manifest groups.threads with
    | error raised =>
      refine ⟨fun _ heq => (by cases heq), fun _ heq => ?_⟩
      obtain ⟨step, hmem, hselected, hraises⟩ := mergeGroups_error hv1 hgroupsOf hdone hmerge
      rw [← Except.error.inj heq]
      exact ⟨step, hmem, selected_of_runsInExecution hselected, hraises⟩
    | ok executionSteps =>
      refine ⟨fun _ heq => ?_, fun _ heq => (by cases heq)⟩
      have hnames : (setupSteps ++ executionSteps).map StepResult.name =
          (manifest.steps.filter plan.runsInSetup).map V1Step.id ++
            (manifest.steps.filter plan.runsInExecution).map V1Step.id := by
        rw [List.map_append, map_name_of_map_key (hsetupOk setupSteps hresult),
          map_name_of_map_key (mergeGroups_keys hids hv1 hgroupsOf hdone hmerge)]
      rw [← Except.ok.inj heq]
      refine ⟨hnames, ?_, fun step hstep => ?_⟩
      · rw [hnames]
        exact nodup_phases plan hids
      · rw [hnames]
        exact mem_phases_iff plan hids hstep

/-- Every request succeeds and reports how many were sent before it. -/
def countingExecutor : SharedExecutor verbatimParsers where
  World := Nat
  Context := List String
  initialContext := []
  executeV1Step step context sent :=
    (.ok (⟨.passed, toString sent, none, some 200, []⟩, context ++ [step.id]), sent + 1)
  executeV1PsuStep step context sent :=
    (.ok (⟨.failed, "Authorisation timed out", none, none, []⟩, context ++ [step.id]), sent)

/-- The JSON of a manifest whose two groups alternate. -/
def groupedManifestJson : JsonObject :=
  [("schemaVersion", .str "v1"), ("name", .str "Groups"),
    ("steps", .arr [
      getStepJson "accounts" "https://bank.example.com/accounts" [("group", .str "ais")],
      getStepJson "consent" "https://bank.example.com/consent" [("group", .str "pis")],
      getStepJson "discovery" "https://bank.example.com/discovery" [("phase", .str "setup")],
      getStepJson "balances" "https://bank.example.com/balances" [("group", .str "ais")],
      getStepJson "payment" "https://bank.example.com/payment" [("group", .str "pis")]])]

/-- A step of that manifest, parsed. -/
def groupedStep (stepId url group : String) (phase : StepPhase) : V1Step verbatimParsers :=
  .http {
    id := stepId, name := stepId,
    request := [("method", .str "GET"), ("url", .str url)],
    assertions := [[("type", .str "http_status"), ("expected", .int 200)]],
    warning := none, mandatory := false, optional := false, group := group,
    phase := phase, tokenEndpointAuthPolicy := none, requiredTokenId := none,
    producesTokenId := none }

/-- That manifest, parsed. -/
def groupedManifest : Manifest verbatimParsers where
  schemaVersion := .v1
  name := "Groups"
  certificationCoverage := .partialCoverage
  steps := [
    groupedStep "accounts" "https://bank.example.com/accounts" "ais" .execution,
    groupedStep "consent" "https://bank.example.com/consent" "pis" .execution,
    groupedStep "discovery" "https://bank.example.com/discovery" "default" .setup,
    groupedStep "balances" "https://bank.example.com/balances" "ais" .execution,
    groupedStep "payment" "https://bank.example.com/payment" "pis" .execution]

/-- A plan that runs all of it but the `consent` step. -/
def groupedPlan : TestPlan where
  entries := (TestPlan.defaultPlanFromManifest groupedManifest).entries.map fun entry =>
    { entry with selected := entry.stepId ≠ "consent" }

/-- Two interleavings of that plan give different results under the same names in the
    same order. -/
theorem executeInterleaved_results_grouped :
    ∃ first second,
      parseManifest verbatimParsers groupedManifestJson = .ok groupedManifest ∧
      executeInterleaved countingExecutor groupedManifest groupedPlan (0 : Nat) [0] [0, 1, 0] =
        some (.ok first) ∧
      executeInterleaved countingExecutor groupedManifest groupedPlan (0 : Nat) [0] [1, 0, 0] =
        some (.ok second) ∧
      first.map StepResult.message ≠ second.map StepResult.message ∧
      first.map StepResult.name = ["discovery", "accounts", "balances", "payment"] ∧
      second.map StepResult.name = ["discovery", "accounts", "balances", "payment"] := by
  have hparse : parseManifest verbatimParsers groupedManifestJson = .ok groupedManifest := rfl
  refine ⟨_, _, hparse, rfl, rfl, by decide, ?_, ?_⟩
  · exact ((executeInterleaved_results countingExecutor hparse rfl groupedPlan
      (0 : Nat) [0] [0, 1, 0] _ rfl).1 _ rfl).1
  · exact ((executeInterleaved_results countingExecutor hparse rfl groupedPlan
      (0 : Nat) [0] [1, 0, 0] _ rfl).1 _ rfl).1

end Conformance
