import Conformance.ForStd.Except
import Conformance.Spec.DcrVerdicts

/-!
# Runs of the DCR adapter

The exchanges of a run are those of its scenarios, one after the other. In each of them every
request is permitted by the exchanges before it, so no credential of one scenario is used in
another, and every result that passed is shown by the exchanges of its scenario up to the moment
at which its step ended.

## Key results

- `runDcrCase_run`, `runDcrScenario_run`: what one case and one scenario do
- `checked_of_run`: the metadata that a run has cached
-/

namespace Conformance.DcrExecution

open PlanConfiguration PlanConfig

variable {environment : DcrEnvironment} {config : DcrPlanConfiguration}

/-! ## Results and the exchanges that show them -/

/-- What was shown stays shown when the metadata is cached later. -/
theorem Shown.cache {cached cached' : Option DcrDiscoveryMetadata} {during : List DcrExchange}
    {step : CatalogueExecutionStep} (h : Shown environment config cached during step)
    (hkept : ∀ discovery, cached = some discovery → cached' = some discovery) :
    Shown environment config cached' during step := by
  -- only the cached metadata is read differently
  cases h with
  | prepared discovery hstep hcached hchecked =>
    exact .prepared discovery hstep (hkept _ hcached) hchecked
  | posted discovery request response hstep hcached hlast hmethod hurl =>
    exact .posted discovery request response hstep (hkept _ hcached) hlast hmethod hurl
  | registered discovery request response clientId uri hstep hcached hlast haccepted =>
    exact .registered discovery request response clientId uri hstep (hkept _ hcached) hlast
      haccepted
  | token discovery clientId token request response hstep hcached hlast hissued htoken hstatus
      hgranted hvalue =>
    exact .token discovery clientId token request response hstep (hkept _ hcached) hlast hissued
      htoken hstatus hgranted hvalue
  | managed discovery method request response hstep hcached hlast hrequest =>
    exact .managed discovery method request response hstep (hkept _ hcached) hlast hrequest
  | deleted discovery request response hstep hcached hlast hrequest hstatus =>
    exact .deleted discovery request response hstep (hkept _ hcached) hlast hrequest hstatus
  | status request response hstep hlast hstatus =>
    exact .status request response hstep hlast hstatus
  | retrieved request response clientId method hstep hlast hissued hclient hmethod hregistered =>
    exact .retrieved request response clientId method hstep hlast hissued hclient hmethod
      hregistered
  | emptied hstep => exact .emptied hstep
  | refused request response error hstep hlast herror hvalue hclient =>
    exact .refused request response error hstep hlast herror hvalue hclient

/-- The steps of a compiled plan. -/
def planSteps (plan : CompiledTestPlan) : List CatalogueExecutionStep :=
  plan.testCases.flatMap (·.executionSteps)

/-- A step of a scenario that begins with `run` ended: the cases before its own and the steps of
    its case before it left the results `seen`, and it gave `result` and left `ended`. -/
def Ends (operations : DcrOperations) (run : DcrRun operations) (cases : List CatalogueTestCase)
    (seen : List StepResult) (step : CatalogueExecutionStep) (result : StepResult)
    (ended : DcrState operations) : Prop :=
  ∃ earlier testCase later steps rest acc caseRun,
    cases = earlier ++ testCase :: later ∧ testCase.executionSteps = steps ++ step :: rest ∧
      earlier.foldlM (runDcrScenarioCase operations) (run, operations.newScenarioState) = .ok acc ∧
      steps.foldlM (runDcrCaseStep operations testCase)
        { state := (acc.1.world, acc.2) } = .ok caseRun ∧
      acc.1.results ++ caseRun.results = run.results ++ seen ∧
      executeDcrStep operations testCase step caseRun.state = .ok (result, ended)

variable (environment config) (plan : CompiledTestPlan) (client : Except PyError environment.Outside)

/-- The operations of a run. -/
abbrev operations : DcrOperations := dcrOperations environment config plan client

variable {plan client} (run : DcrRun (operations environment config plan client))
  (cases : List CatalogueTestCase)

/-- A result that passed is one of a step of the plan, and is shown by the exchanges of its
    scenario at the moment at which the step ended. -/
def Evidenced (cached : Option DcrDiscoveryMetadata) (during : List DcrExchange)
    (seen : List StepResult) (result : StepResult) : Prop :=
  result.status = .passed → ∃ step ∈ planSteps plan,
    ∃ ended : DcrState (operations environment config plan client), ∃ upTo,
    Ends (operations environment config plan client) run cases seen step result ended ∧
      (ended.1 : DcrWorld environment).exchanges =
        (run.world : DcrWorld environment).exchanges ++ upTo ∧ upTo <+: during ∧
      step.stepId = result.name ∧ Shown environment config cached upTo step

/-- The results of a scenario so far, at a state of it. -/
def Shows (results : List StepResult) (s : DcrState (operations environment config plan client)) :
    Prop :=
  ∃ during, (s.1 : DcrWorld environment).exchanges =
      (run.world : DcrWorld environment).exchanges ++ during ∧
    ScenarioInv environment config ([], (run.world : DcrWorld environment).discovery) during
      (s.1 : DcrWorld environment).discovery s.2 ∧
      ∀ seen result rest, results = seen ++ result :: rest →
        Evidenced environment config run cases (s.1 : DcrWorld environment).discovery during seen
          result

variable {environment config run cases}

/-- What is evidenced stays so after more exchanges, while the discovery is kept. -/
theorem Evidenced.mono {cached cached' : Option DcrDiscoveryMetadata}
    {during later : List DcrExchange} {seen : List StepResult} {result : StepResult}
    (h : Evidenced environment config run cases cached during seen result) (hle : during <+: later)
    (hkept : ∀ discovery, cached = some discovery → cached' = some discovery) :
    Evidenced environment config run cases cached' later seen result := by
  intro hpassed
  obtain ⟨step, hstep, ended, upTo, hends, hexchanges, hprefix, hname, hshown⟩ := h hpassed
  exact ⟨step, hstep, ended, upTo, hends, hexchanges, hprefix.trans hle, hname,
    hshown.cache hkept⟩

/-- A result that did not pass needs no evidence. -/
theorem Evidenced.of_ne {cached : Option DcrDiscoveryMetadata} {during : List DcrExchange}
    {seen : List StepResult} {result : StepResult} (h : result.status ≠ .passed) :
    Evidenced environment config run cases cached during seen result :=
  fun hpassed => absurd hpassed h

/-- The invariant, counted from a later moment of the scenario. -/
theorem ScenarioInv.rebase {base : Moment} {during : List DcrExchange}
    {cached : Option DcrDiscoveryMetadata} {state : DcrScenarioState}
    (h : ScenarioInv environment config base during cached state) :
    ScenarioInv environment config (during, cached) during cached state where
  grown := List.prefix_refl _
  kept _ heq := heq
  disciplined := h.disciplined
  checked := h.checked
  token := h.token
  client := h.client
  management := h.management
  last := h.last
  deleted := h.deleted

/-- The invariant, counted from an earlier moment of the scenario. -/
theorem ScenarioInv.since {base : Moment} {during during' : List DcrExchange}
    {cached cached' : Option DcrDiscoveryMetadata} {state state' : DcrScenarioState}
    (h : ScenarioInv environment config base during cached state)
    (h' : ScenarioInv environment config (during, cached) during' cached' state') :
    ScenarioInv environment config base during' cached' state' where
  grown := h.grown.trans h'.grown
  kept _ heq := h'.kept _ (h.kept _ heq)
  disciplined := h'.disciplined
  checked := h'.checked
  token := h'.token
  client := h'.client
  management := h'.management
  last := h'.last
  deleted := h'.deleted

/-- One more result, shown by the exchanges up to it. -/
theorem Shows.snoc {during during' : List DcrExchange} {results : List StepResult}
    {result : StepResult} {s s' : DcrState (operations environment config plan client)}
    (hinv : ScenarioInv environment config ([], (run.world : DcrWorld environment).discovery) during
      (s.1 : DcrWorld environment).discovery s.2)
    (hresults : ∀ seen result rest, results = seen ++ result :: rest →
      Evidenced environment config run cases (s.1 : DcrWorld environment).discovery during seen
        result)
    (hexchanges : (s'.1 : DcrWorld environment).exchanges =
      (run.world : DcrWorld environment).exchanges ++ during')
    (hinv' : ScenarioInv environment config (during, (s.1 : DcrWorld environment).discovery) during'
      (s'.1 : DcrWorld environment).discovery s'.2)
    (hresult : Evidenced environment config run cases (s'.1 : DcrWorld environment).discovery
      during' results result) :
    Shows environment config run cases (results ++ [result]) s' := by
  refine ⟨during', hexchanges, hinv.since hinv', fun seen other rest heq => ?_⟩
  rcases List.eq_nil_or_concat rest with rfl | ⟨rest, last, rfl⟩
  · obtain ⟨rfl, hsingle⟩ := List.append_inj' heq rfl
    rw [← List.singleton_inj.mp hsingle]
    exact hresult
  · rw [List.concat_eq_append, ← List.cons_append, ← List.append_assoc] at heq
    exact (hresults seen other rest (List.append_inj' heq rfl).1).mono hinv'.grown hinv'.kept

/-- More results that did not pass. -/
theorem Shows.append_skipped {results skipped : List StepResult}
    {s : DcrState (operations environment config plan client)}
    (h : Shows environment config run cases results s)
    (hskipped : ∀ result ∈ skipped, result.status ≠ .passed) :
    Shows environment config run cases (results ++ skipped) s := by
  induction skipped generalizing results with
  | nil => simpa using h
  | cons result rest ih =>
    obtain ⟨during, hexchanges, hinv, hresults⟩ := h
    have hone : Shows environment config run cases (results ++ [result]) s :=
      .snoc hinv hresults hexchanges hinv.rebase (.of_ne (hskipped result List.mem_cons_self))
    simpa using ih hone fun other hother => hskipped other (List.mem_cons_of_mem _ hother)

/-! ## Steps and cases -/

/-- A step of the plan keeps what the results show. -/
theorem executeDcrStep_run {results : List StepResult} {testCase : CatalogueTestCase}
    {step : CatalogueExecutionStep} {s s' : DcrState (operations environment config plan client)}
    {result : StepResult} (hstep : step ∈ planSteps plan)
    (h : Shows environment config run cases results s)
    (hends : ∀ result s',
      executeDcrStep (operations environment config plan client) testCase step s =
        .ok (result, s') →
      Ends (operations environment config plan client) run cases results step result s')
    (hrun : executeDcrStep (operations environment config plan client) testCase step s =
      .ok (result, s')) :
    Shows environment config run cases (results ++ [result]) s' := by
  obtain ⟨during, hexchanges, hinv, hresults⟩ := h
  have hended := hends result s' hrun
  have hat : At environment (run.world : DcrWorld environment).exchanges during
      (s.1 : DcrWorld environment).discovery s.2 s := ⟨hexchanges, rfl, rfl⟩
  have hspec : Effect.Spec (At environment (run.world : DcrWorld environment).exchanges during
        (s.1 : DcrWorld environment).discovery s.2)
      (executeStepInner environment config step)
      (After environment config (run.world : DcrWorld environment).exchanges
        (during, (s.1 : DcrWorld environment).discovery) step)
      (Safe environment config (run.world : DcrWorld environment).exchanges
        (during, (s.1 : DcrWorld environment).discovery)) :=
    executeStepInner_spec hinv.rebase step
  unfold executeDcrStep at hrun
  split at hrun
  -- the handler returned, and the result is made from its outcome
  · rename_i outcome t hexec
    obtain ⟨rfl, rfl⟩ := Prod.mk.inj (Except.ok.inj hrun)
    obtain ⟨during', hexchanges', hinv', hshown⟩ := hspec.returns s outcome t hat hexec
    refine .snoc hinv hresults hexchanges' hinv' fun hpassed => ?_
    refine ⟨step, hstep, _, during', hended, hexchanges', List.prefix_refl _, rfl, hshown ?_⟩
    by_contra hfailed
    simp [dcrResult, hfailed] at hpassed
  -- a failure of the step is a result too, but not a passed one
  · rename_i error t hexec
    split at hrun
    · obtain ⟨rfl, rfl⟩ := Prod.mk.inj (Except.ok.inj hrun)
      obtain ⟨during', hexchanges', hinv'⟩ := hspec.raises s error t hat hexec
      exact .snoc hinv hresults hexchanges' hinv' (.of_ne (by simp [dcrResult]))
    · cases hrun

section Cases

variable {earlier later : List CatalogueTestCase} {testCase : CatalogueTestCase}
  {acc : DcrRun (operations environment config plan client) × DcrScenarioState}
  {results : List StepResult}

/-- The steps of one case, after the cases before it. -/
theorem runDcrCase_run {caseRun : DcrCaseRun (operations environment config plan client)}
    (hcase : testCase ∈ plan.testCases) (hcases : cases = earlier ++ testCase :: later)
    (hearlier : earlier.foldlM (runDcrScenarioCase (operations environment config plan client))
      (run, {}) = .ok acc) (hseen : acc.1.results = run.results ++ results)
    (h : Shows environment config run cases results (acc.1.world, acc.2))
    (hrun : runDcrCase (operations environment config plan client) testCase
      (acc.1.world, acc.2) = .ok caseRun) :
    Shows environment config run cases (results ++ caseRun.results) caseRun.state := by
  refine List.foldlM_ok_prefix_induction (P := fun _ caseRun =>
    Shows environment config run cases (results ++ caseRun.results) caseRun.state) hrun
    (by simpa using h) ?_
  intro steps step rest caseRun caseRun' hsteps hbefore hshows hstep
  unfold runDcrCaseStep at hstep
  split at hstep
  · obtain rfl := Except.ok.inj hstep
    rw [← List.append_assoc]
    exact hshows.append_skipped (by simp [dcrSkippedResult, dcrResult])
  · obtain ⟨⟨result, s'⟩, hexecuted, hnext⟩ := Except.bind_eq_ok.mp hstep
    obtain rfl := Except.ok.inj hnext
    rw [← List.append_assoc]
    refine executeDcrStep_run (List.mem_flatMap.mpr ⟨testCase, hcase, by simp [hsteps]⟩) hshows
      (fun result s' hresult => ?_) hexecuted
    refine ⟨earlier, testCase, later, steps, rest, acc, caseRun, hcases, hsteps, hearlier, hbefore,
      ?_, hresult⟩
    rw [hseen, List.append_assoc]

/-- So does a case of the plan. -/
theorem dcrCaseResults_run {caseResults : List StepResult}
    {s' : DcrState (operations environment config plan client)}
    (hcase : testCase ∈ plan.testCases) (hcases : cases = earlier ++ testCase :: later)
    (hearlier : earlier.foldlM (runDcrScenarioCase (operations environment config plan client))
      (run, {}) = .ok acc) (hseen : acc.1.results = run.results ++ results)
    (h : Shows environment config run cases results (acc.1.world, acc.2))
    (hrun : dcrCaseResults (operations environment config plan client) acc.1.caseStatuses testCase
      (acc.1.world, acc.2) = .ok (caseResults, s')) :
    Shows environment config run cases (results ++ caseResults) s' := by
  unfold dcrCaseResults at hrun
  split at hrun
  · obtain ⟨rfl, rfl⟩ := Prod.mk.inj (Except.ok.inj hrun)
    refine h.append_skipped fun result hresult => ?_
    obtain ⟨step, -, rfl⟩ := List.mem_map.mp hresult
    simp [dcrSkippedResult, dcrResult]
  · obtain ⟨caseRun, hcaseRun, hpair⟩ := Except.bind_eq_ok.mp hrun
    obtain ⟨rfl, rfl⟩ := Prod.mk.inj (Except.ok.inj hpair)
    exact runDcrCase_run hcase hcases hearlier hseen h hcaseRun

end Cases

/-! ## Scenarios -/

/-- The cases of a scenario, one after the other, from a fresh state. -/
theorem dcrScenarioCases_run
    {acc : DcrRun (operations environment config plan client) × DcrScenarioState}
    (hplan : ∀ testCase ∈ cases, testCase ∈ plan.testCases)
    (hchecked : ∀ discovery, (run.world : DcrWorld environment).discovery = some discovery →
      Checked environment config discovery)
    (hrun : cases.foldlM (runDcrScenarioCase (operations environment config plan client))
      (run, ({} : DcrScenarioState)) = .ok acc) :
    ∃ results, acc.1.results = run.results ++ results ∧
      Shows environment config run cases results (acc.1.world, acc.2) := by
  refine List.foldlM_ok_prefix_induction (P := fun _ acc => ∃ results,
    acc.1.results = run.results ++ results ∧
      Shows environment config run cases results (acc.1.world, acc.2)) hrun
    ⟨[], (List.append_nil _).symm, [], (List.append_nil _).symm, .start hchecked, by simp⟩ ?_
  rintro earlier testCase later acc acc' hcases hearlier ⟨results, hresults, hshows⟩ hstep
  unfold runDcrScenarioCase at hstep
  obtain ⟨⟨caseResults, s'⟩, hcaseResults, hpair⟩ := Except.bind_eq_ok.mp hstep
  obtain rfl := Except.ok.inj hpair
  have hcase : testCase ∈ plan.testCases := hplan testCase (by simp [hcases])
  refine ⟨results ++ caseResults, ?_,
    dcrCaseResults_run hcase hcases hearlier hresults hshows hcaseResults⟩
  rw [← List.append_assoc, ← hresults]

/-- The exchanges of a scenario after its cleanup are those before it, and the `DELETE` if the
    client of the scenario needs one. -/
theorem bestEffortCleanup_exchanges (deletes : Bool) (scenarioId : String)
    (s : DcrWorld environment × DcrScenarioState) :
    (bestEffortCleanup environment deletes scenarioId s).discovery = s.1.discovery ∧
      ∃ answered, (bestEffortCleanup environment deletes scenarioId s).exchanges =
        s.1.exchanges ++ if needsCleanup deletes s.2 = true
          then [⟨cleanupRequest s.2, answered⟩] else [] := by
  unfold bestEffortCleanup
  split
  · rename_i hneeds
    exact ⟨rfl, none, by simp [hneeds]⟩
  · rename_i hneeds
    have hneeds : needsCleanup deletes s.2 = true := by simpa using hneeds
    -- the two log events change neither the exchanges nor the metadata
    have hspec : ∀ s₀ : DcrWorld environment × DcrScenarioState, s₀.2 = s.2 →
        Effect.Spec (fun s' => s' = s₀) (cleanup environment scenarioId s.2)
          (fun _ s' => s'.1.discovery = s₀.1.discovery ∧
            ∃ answered, s'.1.exchanges = s₀.1.exchanges ++ [⟨cleanupRequest s.2, answered⟩])
          (fun s' => s'.1.discovery = s₀.1.discovery ∧
            ∃ answered, s'.1.exchanges = s₀.1.exchanges ++ [⟨cleanupRequest s.2, answered⟩]) := by
      intro s₀ _
      refine .bind (.update (Q := fun _ s' => s'.1.discovery = s₀.1.discovery ∧
        s'.1.exchanges = s₀.1.exchanges) ?_) fun _ => ?_
      · rintro s' rfl
        exact ⟨rfl, rfl⟩
      · refine .bind (Q := fun response s' => s'.1.discovery = s₀.1.discovery ∧
          ∃ answered, s'.1.exchanges = s₀.1.exchanges ++ [⟨cleanupRequest s.2, answered⟩])
          (.ofRun ?_ ?_) fun response => .update fun s' h => h
        · rintro s' a t ⟨hdiscovery, hexchanges⟩ hrun
          split at hrun
          · obtain ⟨-, rfl⟩ := Prod.mk.inj hrun
            exact ⟨hdiscovery, _, congrArg (· ++ _) hexchanges⟩
          · cases (Prod.mk.inj hrun).1
          · cases (Prod.mk.inj hrun).1
        · rintro s' e t ⟨hdiscovery, hexchanges⟩ hrun
          split at hrun
          · cases (Prod.mk.inj hrun).1
          · obtain ⟨-, rfl⟩ := Prod.mk.inj hrun
            exact ⟨hdiscovery, none, congrArg (· ++ _) hexchanges⟩
          · obtain ⟨-, rfl⟩ := Prod.mk.inj hrun
            exact ⟨hdiscovery, none, congrArg (· ++ _) hexchanges⟩
    simp only [hneeds, if_true]
    split
    · rename_i s' hexec
      exact (hspec s rfl).returns s _ s' rfl hexec
    · rename_i error s' hexec
      exact (hspec s rfl).raises s error s' rfl hexec

/-- The `DELETE` of a cleanup is a management request with a token that was granted. -/
theorem Permitted.cleanup {deletes : Bool} {base : Moment} {during : List DcrExchange}
    {cached : Option DcrDiscoveryMetadata} {state : DcrScenarioState}
    (hinv : ScenarioInv environment config base during cached state)
    (hneeds : needsCleanup deletes state = true) :
    Permitted environment config cached during (cleanupRequest state) := by
  simp only [needsCleanup, Bool.and_eq_true] at hneeds
  obtain ⟨⟨-, hurl⟩, htoken⟩ := hneeds
  obtain ⟨url, hurl⟩ := Option.isSome_iff_exists.mp hurl
  obtain ⟨token, htoken⟩ := Option.isSome_iff_exists.mp htoken
  obtain ⟨htoken, hvalue⟩ := Option.filter_eq_some_iff.mp htoken
  have hvalue : token ≠ "" := by simpa using hvalue
  obtain ⟨discovery, clientId, hcached, hissued, rfl⟩ := hinv.management url hurl
  obtain ⟨discovery', hcached', hgranted⟩ := (hinv.token token htoken).resolve_left hvalue
  obtain rfl := Option.some.inj (hcached.symm.trans hcached')
  have hrequest : cleanupRequest state =
      { method := .delete
        url := managementUrlOf discovery clientId
        headers := [("Accept", "application/json"), ("Authorization", bearer token)] ++
          ((none : Option String).map fun _ => ("Content-Type", "application/jose")).toList
        rawBody := none } := by
    simp [cleanupRequest, hurl, htoken, bearer, hvalue]
  rw [hrequest]
  exact .management discovery clientId token .delete none hcached hissued (.inr hgranted) (by simp)

/-- What one scenario adds to a run: its exchanges, each of them permitted, and its results,
    each shown by them when it passed. -/
theorem runDcrScenario_run {scenario : String × List CatalogueTestCase}
    {run run' : DcrRun (operations environment config plan client)}
    (hplan : ∀ testCase ∈ scenario.2, testCase ∈ plan.testCases)
    (hchecked : ∀ discovery, (run.world : DcrWorld environment).discovery = some discovery →
      Checked environment config discovery)
    (hrun : runDcrScenario (operations environment config plan client) run scenario = .ok run') :
    ∃ during results, (run'.world : DcrWorld environment).exchanges =
        (run.world : DcrWorld environment).exchanges ++ during ∧
      run'.results = run.results ++ results ∧
      (∀ discovery, (run.world : DcrWorld environment).discovery = some discovery →
        (run'.world : DcrWorld environment).discovery = some discovery) ∧
      (∀ discovery, (run'.world : DcrWorld environment).discovery = some discovery →
        Checked environment config discovery) ∧
      Disciplined environment config (run'.world : DcrWorld environment).discovery during ∧
      ∀ seen result rest, results = seen ++ result :: rest →
        Evidenced environment config run scenario.2 (run'.world : DcrWorld environment).discovery
          during seen result := by
  unfold runDcrScenario at hrun
  obtain ⟨⟨run₁, state⟩, hcases, hpair⟩ := Except.bind_eq_ok.mp hrun
  obtain rfl := Except.ok.inj hpair
  obtain ⟨results, hresults, during, hexchanges, hinv, hshown⟩ :=
    dcrScenarioCases_run hplan hchecked hcases
  obtain ⟨hdiscovery, answered, hcleanup⟩ :=
    bestEffortCleanup_exchanges (selectsDelete plan) scenario.1 (run₁.world, state)
  refine ⟨during ++ _, results, (hcleanup.trans (congrArg (· ++ _) hexchanges)).trans
    (List.append_assoc _ _ _), hresults, ?_, ?_, ?_, ?_⟩
  · intro discovery heq
    exact hdiscovery.trans (hinv.kept discovery heq)
  · intro discovery heq
    exact hinv.checked discovery (hdiscovery.symm.trans heq)
  -- the cleanup makes one more request at most
  · have hend : Disciplined environment config (run₁.world : DcrWorld environment).discovery
        (during ++ if needsCleanup (selectsDelete plan) state = true
          then [⟨cleanupRequest state, answered⟩] else []) := by
      split
      · exact hinv.disciplined.snoc (.cleanup hinv ‹_›)
      · rw [List.append_nil]
        exact hinv.disciplined
    exact (congrArg (Disciplined environment config · _) hdiscovery).mpr hend
  · intro seen result rest hsplit
    exact (hshown seen result rest hsplit).mono (List.prefix_append _ _)
      fun discovery heq => hdiscovery.trans heq

/-! ## Runs -/

/-- The cases of a scenario are cases of the plan. -/
theorem mem_testCases_of_dcrScenarios {scenarios : Dict String (List CatalogueTestCase)}
    (h : dcrScenarios plan = .ok scenarios) :
    ∀ scenario ∈ scenarios.entries, ∀ testCase ∈ scenario.2, testCase ∈ plan.testCases := by
  suffices hget : ∀ groupId cases, scenarios.get? groupId = some cases →
      ∀ testCase ∈ cases, testCase ∈ plan.testCases from
    fun scenario hmem => hget scenario.1 scenario.2 (Dict.mem_entries_iff.mp hmem)
  refine List.foldlM_ok_induction (P := fun _ grouped => ∀ groupId cases,
    Dict.get? grouped groupId = some cases → ∀ testCase ∈ cases, testCase ∈ plan.testCases) h
    (by simp) ?_
  intro seen testCase grouped grouped' hmem hgrouped hstep groupId cases hcases other hother
  split at hstep
  · cases hstep
  · obtain rfl := Except.ok.inj hstep
    rw [Dict.get?_set] at hcases
    split at hcases
    · obtain rfl := Option.some.inj hcases
      rcases List.mem_append.mp hother with hold | hnew
      · rename_i group _ _
        cases hget : grouped.get? group.groupId with
        | none => rw [hget] at hold; cases hold
        | some known =>
          rw [hget] at hold
          exact hgrouped _ known hget other hold
      · exact List.mem_singleton.mp hnew ▸ hmem
    · exact hgrouped groupId cases hcases other hother

variable (environment) in
/-- The world of a run that begins. -/
def startWorld (outside : environment.Outside) : DcrWorld environment := { outside := outside }

/-- Metadata that a run has cached passed the checks. -/
theorem checked_of_run {earlier : List (String × List CatalogueTestCase)}
    {outside : environment.Outside} {run : DcrRun (operations environment config plan client)}
    (hplan : ∀ scenario ∈ earlier, ∀ testCase ∈ scenario.2, testCase ∈ plan.testCases)
    (hrun : earlier.foldlM (runDcrScenario (operations environment config plan client))
      { world := startWorld environment outside } = .ok run) :
    ∀ discovery, (run.world : DcrWorld environment).discovery = some discovery →
      Checked environment config discovery := by
  refine List.foldlM_ok_induction (P := fun _ run => ∀ discovery,
    (DcrRun.world run : DcrWorld environment).discovery = some discovery →
      Checked environment config discovery) hrun nofun ?_
  intro seen scenario run run' hmem hchecked hstep
  obtain ⟨_, _, -, -, -, hchecked', -⟩ := runDcrScenario_run (hplan scenario hmem) hchecked hstep
  exact hchecked'

end Conformance.DcrExecution
