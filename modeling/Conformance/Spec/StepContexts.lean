import Conformance.Native.StepExecution
import Conformance.Spec.Interleaving
import Conformance.Spec.PlaceholderReferences

/-!
# The contexts of a run

Which steps the context of a step has, in every run of an accepted manifest. Setup
steps are executed one after the other; an execution group starts from what setup
has left and sees nothing of the other groups.

## Key results

- `runThreads_takes`, `executes_context_induction`: invariants of the contexts of a run
- `executeSharedStep_records`: what a step leaves in its context
- `executes_scope`: the context of a step, and what its templates can miss there
-/

namespace Conformance

open Except

/-! ## Steps of a run -/

section Runs

variable {p : FieldParsers} {executor : SharedExecutor p}

/-- In a phase that runs in an order, a step is executed from a context and a world. -/
def Takes (start : ThreadsState executor) (order : List Nat) (step : V1Step p)
    (context : executor.Context) (world : executor.World) : Prop :=
  ∃ before index after state thread rest, order = before ++ index :: after ∧
    runThreads executor start before = some state ∧ state.threads[index]? = some thread ∧
    thread.remaining = step :: rest ∧ thread.context = context ∧ state.world = world

/-- A finished setup that raised nothing, with the context it leaves. -/
def SetupLeaves (executor : SharedExecutor p) (manifest : Manifest p) (plan : TestPlan)
    (world : executor.World) (setupOrder : List Nat) (context : executor.Context)
    (world' : executor.World) : Prop :=
  ∃ setup thread,
    runThreads executor (setupStart executor manifest plan world) setupOrder = some setup ∧
    setup.finished executor = true ∧ setup.threads[0]? = some thread ∧
    thread.failure = none ∧ thread.context = context ∧ setup.world = world'

/-- In a run, complete or not, a step is executed from a context and a world. -/
inductive Executes (executor : SharedExecutor p) (manifest : Manifest p) (plan : TestPlan)
    (world : executor.World) (setupOrder groupOrder : List Nat) :
    V1Step p → executor.Context → executor.World → Prop where
  | setup {step : V1Step p} {context : executor.Context} {stepWorld : executor.World} :
      Takes (setupStart executor manifest plan world) setupOrder step context stepWorld →
      Executes executor manifest plan world setupOrder groupOrder step context stepWorld
  | execution {base : executor.Context} {world' : executor.World} {step : V1Step p}
      {context : executor.Context} {stepWorld : executor.World} :
      SetupLeaves executor manifest plan world setupOrder base world' →
      Takes (groupsStart executor manifest plan base world') groupOrder step context stepWorld →
      Executes executor manifest plan world setupOrder groupOrder step context stepWorld

/-- The phase of an executed step. -/
theorem Executes.phase {manifest : Manifest p} {plan : TestPlan} {world : executor.World}
    {setupOrder groupOrder : List Nat} {step : V1Step p} {context : executor.Context}
    {stepWorld : executor.World}
    (h : Executes executor manifest plan world setupOrder groupOrder step context stepWorld) :
    Takes (setupStart executor manifest plan world) setupOrder step context stepWorld ∨
      ∃ base world', SetupLeaves executor manifest plan world setupOrder base world' ∧
        Takes (groupsStart executor manifest plan base world') groupOrder step context stepWorld := by
  cases h with
  | setup htakes => exact .inl htakes
  | execution hleaves htakes => exact .inr ⟨_, _, hleaves, htakes⟩

/-- What holds of every thread and is kept by the steps that a phase takes holds along the
    phase. -/
theorem runThreads_takes {α : Type} {Q : α → StepThread executor → Prop}
    {start : ThreadsState executor} {order : List Nat} {starts : List α}
    (hstart : List.Forall₂ Q starts start.threads)
    (hstep : ∀ a thread thread' world world' step rest, Q a thread →
      thread.remaining = step :: rest → Takes start order step thread.context world →
      thread.advance executor world = some (thread', world') → Q a thread')
    {before : List Nat} (hbefore : before <+: order) {state : ThreadsState executor}
    (h : runThreads executor start before = some state) :
    List.Forall₂ Q starts state.threads := by
  refine Machine.run_induction (P := fun before state => before <+: order →
    List.Forall₂ Q starts state.threads) (fun _ => hstart) ?_ h hbefore
  intro before state index state' hrun hstate hadvanced hprefixes
  obtain ⟨after, horder⟩ := hprefixes
  rw [List.append_assoc, List.singleton_append] at horder
  unfold advanceThread at hadvanced
  split at hadvanced
  · cases hadvanced
  · rename_i thread hthread
    obtain ⟨⟨thread', world'⟩, hadvance, rfl⟩ := Option.map_eq_some_iff.mp hadvanced
    obtain ⟨step, rest, hremaining, -⟩ := StepThread.advance_cases hadvance
    refine (hstate ⟨_, horder⟩).set hthread fun a hQ => ?_
    exact hstep a thread thread' _ world' step rest hQ hremaining
      ⟨before, index, after, state, thread, rest, horder.symm, hrun, hthread, hremaining, rfl, rfl⟩
      hadvance

/-- What a fresh context has and every executed step keeps holds of every context that a
    phase leaves or a step is given. -/
private theorem runThreads_context {P : executor.Context → Prop} {start : ThreadsState executor}
    {order : List Nat} (hstart : ∀ thread ∈ start.threads, P thread.context)
    (hstep : ∀ step context world result context' world', Takes start order step context world →
      P context → executeSharedStep executor step context world = (.ok (result, context'), world') →
      P context')
    {before : List Nat} (hbefore : before <+: order) {state : ThreadsState executor}
    (h : runThreads executor start before = some state) :
    ∀ thread ∈ state.threads, P thread.context := by
  have hall : List.Forall₂ (fun (_ : StepThread executor) thread => P thread.context)
      start.threads state.threads := by
    refine runThreads_takes (List.forall₂_same.mpr hstart) ?_ hbefore h
    intro _ thread thread' world world' step rest hP hremaining htakes hadvance
    obtain ⟨step', rest', hremaining', hcases⟩ := StepThread.advance_cases hadvance
    rw [hremaining] at hremaining'
    obtain ⟨rfl, rfl⟩ := List.cons.inj hremaining'
    rcases hcases with ⟨result, context, hexecute, rfl⟩ | ⟨_, _, rfl⟩
    · exact hstep step _ world result context world' htakes hP hexecute
    · exact hP
  intro thread hthread
  obtain ⟨_, -, hP⟩ := hall.exists_of_mem_right hthread
  exact hP

/-- An invariant of the contexts of a run. -/
theorem executes_context_induction {manifest : Manifest p} {plan : TestPlan}
    {world : executor.World} {setupOrder groupOrder : List Nat} {P : executor.Context → Prop}
    (hinit : P executor.initialContext)
    (hstep : ∀ step context stepWorld result context' world',
      Executes executor manifest plan world setupOrder groupOrder step context stepWorld →
      P context →
      executeSharedStep executor step context stepWorld = (.ok (result, context'), world') →
      P context')
    {step : V1Step p} {context : executor.Context} {stepWorld : executor.World}
    (h : Executes executor manifest plan world setupOrder groupOrder step context stepWorld) :
    P context := by
  have hsetupStart : ∀ thread ∈ (setupStart executor manifest plan world).threads,
      P thread.context := by
    intro thread hthread
    obtain rfl := List.mem_singleton.mp hthread
    exact hinit
  have hsetupStep := fun step context stepWorld result context' world' htakes =>
    hstep step context stepWorld result context' world' (.setup htakes)
  cases h with
  | setup htakes =>
    obtain ⟨before, index, after, state, thread, rest, rfl, hrun, hthread, -, rfl, -⟩ := htakes
    exact runThreads_context hsetupStart hsetupStep (List.prefix_append _ _) hrun thread
      (List.mem_of_getElem? hthread)
  | @execution base world' _ _ _ hleaves htakes =>
    have hgroupStep := fun step context stepWorld result context' newWorld htakes =>
      hstep step context stepWorld result context' newWorld (.execution hleaves htakes)
    obtain ⟨setup, setupThread, hsetup, -, hsetupThread, -, rfl, rfl⟩ := hleaves
    have hbase := runThreads_context hsetupStart hsetupStep (List.prefix_refl _) hsetup setupThread
      (List.mem_of_getElem? hsetupThread)
    obtain ⟨before, index, after, state, thread, rest, rfl, hrun, hthread, -, rfl, -⟩ := htakes
    refine runThreads_context ?_ hgroupStep (List.prefix_append _ _) hrun thread
      (List.mem_of_getElem? hthread)
    intro thread hthread
    obtain ⟨group, -, rfl⟩ := List.mem_map.mp hthread
    exact hbase

/-- The next step of an execution group, after an order of the setup steps and one of the
    steps of the groups. -/
def nextStep (executor : SharedExecutor p) (manifest : Manifest p) (plan : TestPlan)
    (world : executor.World) (setupOrder before : List Nat) (index : Nat) :
    Option (V1Step p × executor.Context × executor.World) := do
  let setup ← runThreads executor (setupStart executor manifest plan world) setupOrder
  guard (setup.finished executor)
  let setupThread ← setup.threads[0]?
  guard setupThread.failure.isNone
  let state ← runThreads executor
    (groupsStart executor manifest plan setupThread.context setup.world) before
  let thread ← state.threads[index]?
  let step ← thread.remaining.head?
  return (step, thread.context, state.world)

/-- It is executed from where the run has led. -/
theorem executes_of_nextStep {manifest : Manifest p} {plan : TestPlan} {world : executor.World}
    {setupOrder before : List Nat} {index : Nat} {step : V1Step p} {context : executor.Context}
    {stepWorld : executor.World}
    (h : nextStep executor manifest plan world setupOrder before index =
      some (step, context, stepWorld)) :
    Executes executor manifest plan world setupOrder (before ++ [index]) step context stepWorld := by
  obtain ⟨setup, hsetup, h⟩ := Option.bind_eq_some_iff.mp h
  obtain ⟨_, hfinished, h⟩ := Option.bind_eq_some_iff.mp h
  obtain ⟨setupThread, hsetupThread, h⟩ := Option.bind_eq_some_iff.mp h
  obtain ⟨_, hrunning, h⟩ := Option.bind_eq_some_iff.mp h
  obtain ⟨state, hstate, h⟩ := Option.bind_eq_some_iff.mp h
  obtain ⟨thread, hthread, h⟩ := Option.bind_eq_some_iff.mp h
  obtain ⟨next, hnext, h⟩ := Option.bind_eq_some_iff.mp h
  obtain ⟨rfl, hpair⟩ := Prod.mk.inj (Option.some.inj h)
  obtain ⟨rfl, rfl⟩ := Prod.mk.inj hpair
  obtain ⟨rest, hremaining⟩ := List.head?_eq_some_iff.mp hnext
  have hnone : setupThread.failure = none :=
    Option.isNone_iff_eq_none.mp ((Option.guard_eq_some' _).mp hrunning)
  exact .execution ⟨setup, setupThread, hsetup, (Option.guard_eq_some' _).mp hfinished, hsetupThread,
    hnone, rfl, rfl⟩ ⟨before, index, [], state, thread, rest, rfl, hstate, hthread, hremaining, rfl,
    rfl⟩

end Runs

/-! ## What a step records -/

section Records

variable {external : ExternalParsers} {transport : StepTransport external}

/-- The token that a step produces. -/
def V1Step.producesTokenId : V1Step (requestParsers external) → Option String
  | .http step => step.producesTokenId
  | .psuAuthorization _ => none

/-- What a step leaves in the context: a record under its own id, and a token only with a
    response. -/
structure Records (step : V1Step (requestParsers external)) (context context' : ExecutionContext)
    (record : StepRecord) : Prop where
  steps : context'.steps = context.steps.set step.id record
  tokens : context'.tokens = context.tokens ∨ ∃ tokenId accessToken,
    step.producesTokenId = some tokenId ∧ record.response ≠ none ∧
      context'.tokens = context.tokens.set tokenId accessToken

/-- A recorded step has its request and its response. -/
theorem records_recordStep (step : V1Step (requestParsers external)) (context : ExecutionContext)
    (request : RequestRecord) (response : Option ResponseRecord) :
    Records step context (recordStep context step.id request response) ⟨request, response⟩ :=
  ⟨rfl, .inl rfl⟩

/-- A step that returns `.ok` has recorded itself. -/
def StepReturn.RecordsOk (step : V1Step (requestParsers external)) (context : ExecutionContext)
    (returned : StepReturn) : Prop :=
  ∀ outcome context', returned = .ok (outcome, context') →
    ∃ record, Records step context context' record

/-- A step without a response records its request. -/
theorem returnWithoutResponse_records (step : V1Step (requestParsers external))
    (status : CheckStatus) (message : String) (context : ExecutionContext) (method url : String)
    (evidence : JsonObject) :
    StepReturn.RecordsOk step context
      (returnWithoutResponse status message context step.id method url evidence) := by
  intro outcome context' h
  obtain ⟨-, rfl⟩ := Prod.mk.inj (Except.ok.inj h)
  exact ⟨_, records_recordStep step context _ none⟩

/-- So does a step with an unresolved placeholder. -/
theorem returnUnresolved_records (step : V1Step (requestParsers external))
    (context : ExecutionContext) (method url : String) (evidence : JsonObject)
    (error : PlaceholderError) :
    StepReturn.RecordsOk step context
      (returnUnresolved context step.id method url evidence error) := by
  cases error <;> exact returnWithoutResponse_records step _ _ context _ _ _

/-- A step goes on with the value that was resolved. -/
theorem orReturn_eq_ok {α : Type} {resolved : Except PlaceholderError α}
    {onError : PlaceholderError → StepReturn} {value : α} :
    orReturn resolved onError = .ok value ↔ resolved = .ok value := by
  cases resolved with
  | error e => simp [orReturn]
  | ok resolved => simp [orReturn]

/-- A URL check that does not end the step. -/
theorem checkUrlOrReturn_eq_ok {check : Except PyError Unit} {onError : String → StepReturn} :
    checkUrlOrReturn check onError = .ok () ↔ check = .ok () := by
  unfold checkUrlOrReturn
  split <;> simp

/-- A header check that does not end the step. -/
theorem checkResolvedHeader_eq_ok {context : ExecutionContext} {stepId method url : String}
    {evidence : JsonObject} {header : String × String} :
    checkResolvedHeader context stepId method url evidence header = .ok () ↔
      validateHeaderValue header.2 s!"step '{stepId}' resolved header {header.1}" = .ok () := by
  unfold checkResolvedHeader
  split <;> simp_all

/-- A request is ready exactly if its texts are resolved, the header values are valid and its URL
    is an accepted one. -/
theorem exists_prepareRequest_iff {manifestStep : ManifestStep (requestParsers external)}
    {context : ExecutionContext} {url : String} {headers : Option (List (String × String))}
    {body : Option ManifestBody} :
    let request : ManifestRequest := manifestStep.request
    (∃ evidence, prepareRequest transport manifestStep context =
        .ok { url := url, headers := headers, body := body, evidence := evidence }) ↔
      resolvePlaceholders transport.pyStr request.url context = .ok url ∧
        resolveHeaders transport request.headers context = .ok headers ∧
        (∀ header ∈ headers.getD [], validateHeaderValue header.2
          s!"step '{manifestStep.id}' resolved header {header.1}" = .ok ()) ∧
        resolveBody transport request.body context = .ok body ∧
        external.validateHttpsUrl url s!"Step '{manifestStep.id}' request URL" = .ok () := by
  dsimp only
  unfold prepareRequest
  constructor
  · rintro ⟨evidence, h⟩
    obtain ⟨url', hurl, h⟩ := bind_eq_ok.mp h
    obtain ⟨headers', hheaders, h⟩ := bind_eq_ok.mp h
    obtain ⟨⟨⟩, hvalid, h⟩ := bind_eq_ok.mp h
    obtain ⟨body', hbody, h⟩ := bind_eq_ok.mp h
    obtain ⟨⟨⟩, haccepted, h⟩ := bind_eq_ok.mp h
    obtain ⟨rfl, rfl, rfl, rfl⟩ := PreparedRequest.mk.inj (Except.ok.inj h)
    have hvalid := List.forM_eq_ok.mp hvalid
    exact ⟨orReturn_eq_ok.mp hurl, orReturn_eq_ok.mp hheaders,
      fun header hheader => checkResolvedHeader_eq_ok.mp (hvalid header hheader),
      orReturn_eq_ok.mp hbody, checkUrlOrReturn_eq_ok.mp haccepted⟩
  · rintro ⟨hurl, hheaders, hvalid, hbody, haccepted⟩
    refine ⟨_, bind_eq_ok.mpr ⟨url, orReturn_eq_ok.mpr hurl, bind_eq_ok.mpr ⟨headers,
      orReturn_eq_ok.mpr hheaders, bind_eq_ok.mpr ⟨(), ?_, bind_eq_ok.mpr ⟨body,
        orReturn_eq_ok.mpr hbody, bind_eq_ok.mpr ⟨(), checkUrlOrReturn_eq_ok.mpr haccepted,
          rfl⟩⟩⟩⟩⟩⟩
    exact List.forM_eq_ok.mpr fun header hheader =>
      checkResolvedHeader_eq_ok.mpr (hvalid header hheader)

/-- A request is ready once its texts are resolved. -/
theorem prepareRequest_resolves {manifestStep : ManifestStep (requestParsers external)}
    {context : ExecutionContext} {prepared : PreparedRequest}
    (h : prepareRequest transport manifestStep context = .ok prepared) :
    let request : ManifestRequest := manifestStep.request
    resolvePlaceholders transport.pyStr request.url context = .ok prepared.url ∧
      resolveHeaders transport request.headers context = .ok prepared.headers ∧
      resolveBody transport request.body context = .ok prepared.body := by
  obtain ⟨hurl, hheaders, -, hbody, -⟩ := exists_prepareRequest_iff.mp ⟨prepared.evidence, h⟩
  exact ⟨hurl, hheaders, hbody⟩

/-- An early return of a resolution records the step. -/
private theorem orReturn_records {α : Type} {step : V1Step (requestParsers external)}
    {context : ExecutionContext} (resolved : Except PlaceholderError α)
    (method url : String) (evidence : JsonObject) :
    RaisesOnly (StepReturn.RecordsOk step context)
      (orReturn resolved (returnUnresolved context step.id method url evidence)) := by
  cases resolved with
  | ok value => exact .ok value
  | error _ => exact .error (returnUnresolved_records step context _ _ _ _)

/-- A step that raises records nothing. -/
private theorem recordsOk_error (step : V1Step (requestParsers external))
    (context : ExecutionContext) (raised : PyError) :
    StepReturn.RecordsOk step context (.error raised) := by
  intro _ _ h
  cases h

/-- An early return of a URL check records the step. -/
private theorem checkUrlOrReturn_records {step : V1Step (requestParsers external)}
    {context : ExecutionContext} (check : Except PyError Unit) (method url : String)
    (evidence : JsonObject) :
    RaisesOnly (StepReturn.RecordsOk step context) (checkUrlOrReturn check fun message =>
      returnWithoutResponse .failed message context step.id method url evidence) := by
  unfold checkUrlOrReturn
  split
  · exact .ok ()
  · exact .error (returnWithoutResponse_records step _ _ context _ _ _)
  · exact .error (recordsOk_error step context _)

/-- Every early return of an HTTP step records the step. -/
theorem prepareRequest_records (manifestStep : ManifestStep (requestParsers external))
    (context : ExecutionContext) :
    RaisesOnly (StepReturn.RecordsOk (.http manifestStep) context)
      (prepareRequest transport manifestStep context) := by
  refine .bind (orReturn_records _ _ _ _) fun url _ => .bind (orReturn_records _ _ _ _) fun headers _ =>
    .bind (List.raisesOnly_forM fun header _ => ?_) fun _ _ => .bind (orReturn_records _ _ _ _)
      fun body _ => .bind (checkUrlOrReturn_records _ _ _ _) fun _ _ => .ok _
  unfold checkResolvedHeader
  split
  · exact .ok ()
  · exact .error (returnWithoutResponse_records (.http manifestStep) _ _ context _ _ _)
  · exact .error (recordsOk_error _ context _)

/-- A token is recorded beside the step. -/
private theorem recordRuntimeToken_records (manifestStep : ManifestStep (requestParsers external))
    (context : ExecutionContext) (request : RequestRecord) (response : ResponseRecord) :
    Records (.http manifestStep) context
      (recordRuntimeTokenIfPresent (recordStep context manifestStep.id request (some response))
        manifestStep response) ⟨request, some response⟩ := by
  unfold recordRuntimeTokenIfPresent
  split
  · rename_i tokenId accessToken htoken _
    split
    · exact records_recordStep (.http manifestStep) context request (some response)
    · exact ⟨rfl, .inr ⟨tokenId, accessToken, htoken, by simp, rfl⟩⟩
  · exact records_recordStep (.http manifestStep) context request (some response)

/-- An HTTP step leaves a record of itself. -/
theorem executeV1Step_records (manifestStep : ManifestStep (requestParsers external))
    (context : ExecutionContext) (world : transport.World) :
    StepReturn.RecordsOk (.http manifestStep) context
      (executeV1Step transport manifestStep context world).1 := by
  unfold executeV1Step
  split
  · exact prepareRequest_records manifestStep context _ ‹_›
  · simp only
    split
    · exact recordsOk_error _ context _
    · intro _ _ h
      obtain ⟨-, rfl⟩ := Prod.mk.inj (Except.ok.inj h)
      exact ⟨_, records_recordStep (.http manifestStep) context _ none⟩
    · intro _ _ h
      obtain ⟨-, rfl⟩ := Prod.mk.inj (Except.ok.inj h)
      exact ⟨_, recordRuntimeToken_records manifestStep context _ _⟩

/-- A PSU step leaves a record of itself once its request is resolved. -/
private theorem authorizePsu_records (manifestStep : PsuAuthorizationStep (requestParsers external))
    (context : ExecutionContext) (request : PsuRequest) (world : transport.World) :
    StepReturn.RecordsOk (.psuAuthorization manifestStep) context
      (authorizePsu transport manifestStep context request world).1 := by
  unfold authorizePsu
  simp only
  split
  · exact returnWithoutResponse_records (.psuAuthorization manifestStep) _ _ context _ _ _
  · split
    · exact returnUnresolved_records (.psuAuthorization manifestStep) context _ _ _ _
    · split
      · exact returnWithoutResponse_records (.psuAuthorization manifestStep) _ _ context _ _ _
      · split
        · exact recordsOk_error _ context _
        all_goals
          intro _ _ h
          obtain ⟨-, rfl⟩ := Prod.mk.inj (Except.ok.inj h)
          exact ⟨_, records_recordStep (.psuAuthorization manifestStep) context _ _⟩

/-- A PSU step leaves a record of itself. -/
theorem executeV1PsuStep_records (manifestStep : PsuAuthorizationStep (requestParsers external))
    (context : ExecutionContext) (world : transport.World) :
    StepReturn.RecordsOk (.psuAuthorization manifestStep) context
      (executeV1PsuStep transport manifestStep context world).1 := by
  unfold executeV1PsuStep
  simp only
  split
  · exact returnUnresolved_records (.psuAuthorization manifestStep) context _ _ _ _
  · split
    · rename_i hcheck
      refine RaisesOnly.bind (P := StepReturn.RecordsOk (.psuAuthorization manifestStep) context)
        ?_ (fun _ _ => ?_) _ hcheck
      · exact checkUrlOrReturn_records _ _ _ _
      · exact checkUrlOrReturn_records _ _ _ _
    · exact authorizePsu_records manifestStep context _ world

/-- A step leaves a record of itself. -/
theorem executeSharedStep_records {config : Option RuntimeConfig}
    {step : V1Step (requestParsers external)} {context context' : ExecutionContext}
    {world world' : transport.World} {result : StepResult}
    (h : executeSharedStep (manifestExecutor transport config) step context world =
      (.ok (result, context'), world')) :
    ∃ record, Records step context context' record := by
  have hrecords : StepReturn.RecordsOk step context
      (dispatchSharedStep (manifestExecutor transport config) step context world).1 := by
    cases step with
    | http step => exact executeV1Step_records step context world
    | psuAuthorization step => exact executeV1PsuStep_records step context world
  have hreturned := congrArg Prod.fst h
  unfold executeSharedStep at hreturned
  cases hdispatch : (dispatchSharedStep (manifestExecutor transport config) step context world).1 with
  | error raised =>
    simp only [hdispatch] at hreturned
    cases hreturned
  | ok returned =>
    simp only [hdispatch] at hreturned
    obtain ⟨-, rfl⟩ := Prod.mk.inj (Except.ok.inj hreturned)
    exact hrecords _ _ hdispatch

end Records

/-! ## What a context has -/

section Scope

variable {p : FieldParsers}

/-- The steps of a list before a step. -/
def stepsBefore (steps : List (V1Step p)) (step : V1Step p) : List (V1Step p) :=
  steps.takeWhile fun other => other.id ≠ step.id

/-- The steps that are recorded when a step is executed: for a setup step the setup steps
    before it; for an execution step all setup steps, and those of its own group before it. -/
def stepScope (manifest : Manifest p) (plan : TestPlan) (step : V1Step p) : List (V1Step p) :=
  if step.phase = .setup then (stepsBefore manifest.steps step).filter plan.runsInSetup
  else manifest.steps.filter plan.runsInSetup ++
    (stepsBefore manifest.steps step).filter fun other =>
      plan.runsInExecution other && other.group = step.group

/-- Where the ids are distinct, the steps before a step are what stands before it. -/
theorem stepsBefore_eq {before after : List (V1Step p)} {step : V1Step p}
    (hnodup : ((before ++ step :: after).map V1Step.id).Nodup) :
    stepsBefore (before ++ step :: after) step = before := by
  unfold stepsBefore
  rw [List.takeWhile_append_of_pos, List.takeWhile_cons_of_neg (by simp), List.append_nil]
  intro other hother
  rw [decide_eq_true_eq]
  intro heq
  rw [List.map_append, List.nodup_append] at hnodup
  exact hnodup.2.2 _ (List.mem_map_of_mem hother) _ (List.mem_cons_self) heq

/-- Where a filtered list stops at a step, its first part is that of the steps before. -/
theorem filter_stepsBefore {steps executed rest : List (V1Step p)} {step : V1Step p}
    {q : V1Step p → Bool} (hnodup : (steps.map V1Step.id).Nodup)
    (h : steps.filter q = executed ++ step :: rest) :
    executed = (stepsBefore steps step).filter q ∧ q step = true := by
  obtain ⟨first, second, rfl, rfl, hsecond⟩ := List.filter_eq_append_iff.mp h
  obtain ⟨between, after, rfl, hbetween, hstep, -⟩ := List.filter_eq_cons_iff.mp hsecond
  rw [← List.append_assoc] at hnodup
  rw [← List.append_assoc, stepsBefore_eq hnodup, List.filter_append,
    List.filter_eq_nil_iff.mpr hbetween, List.append_nil]
  exact ⟨rfl, hstep⟩

end Scope

section Contexts

variable {external : ExternalParsers} {transport : StepTransport external}
  {config : Option RuntimeConfig}

/-- The context of a thread has the base steps and those that the thread has executed. -/
def Accounts (base : List String) (steps : List (V1Step (requestParsers external)))
    (thread : StepThread (manifestExecutor transport config)) : Prop :=
  thread.Ended ∧ (thread.failure = none → ∃ executed, steps = executed ++ thread.remaining ∧
    ∀ stepId, stepId ∈ (thread.context : ExecutionContext).steps.keys ↔
      stepId ∈ base ∨ stepId ∈ executed.map V1Step.id)

/-- A step of a thread adds itself. -/
theorem Accounts.advance {base : List String} {steps : List (V1Step (requestParsers external))}
    {thread thread' : StepThread (manifestExecutor transport config)}
    {world world' : transport.World} (h : Accounts base steps thread)
    (hadvance : thread.advance (manifestExecutor transport config) world = some (thread', world')) :
    Accounts base steps thread' := by
  obtain ⟨step, rest, hremaining, hcases⟩ := StepThread.advance_cases hadvance
  have hrunning : thread.failure = none := by
    by_contra hfailed
    rw [h.1 hfailed] at hremaining
    cases hremaining
  obtain ⟨executed, hsteps, hkeys⟩ := h.2 hrunning
  rcases hcases with ⟨result, context, hexecute, rfl⟩ | ⟨_, _, rfl⟩
  · refine ⟨fun hfailed => absurd hrunning hfailed, fun _ => ⟨executed ++ [step], ?_, ?_⟩⟩
    · rw [hsteps, hremaining, List.append_assoc, List.singleton_append]
    · obtain ⟨record, hrecords⟩ := executeSharedStep_records hexecute
      intro stepId
      rw [hrecords.steps, Dict.mem_keys_set, hkeys stepId, List.map_append, List.mem_append, or_assoc,
        List.map_singleton, List.mem_singleton]
  · exact ⟨fun _ => rfl, fun hnone => (by cases hnone)⟩

/-- A fresh thread has executed nothing. -/
theorem accounts_start {base : List String} (steps : List (V1Step (requestParsers external)))
    {context : ExecutionContext} (hkeys : ∀ stepId, stepId ∈ context.steps.keys ↔ stepId ∈ base) :
    Accounts base steps ({ remaining := steps, context := context } :
      StepThread (manifestExecutor transport config)) := by
  refine ⟨fun hfailed => absurd rfl hfailed, fun _ => ⟨[], rfl, fun stepId => ?_⟩⟩
  rw [List.map_nil, hkeys]
  simp

/-- Setup starts with nothing recorded. -/
private theorem accounts_setupStart (manifest : Manifest (requestParsers external)) (plan : TestPlan)
    (world : transport.World) :
    List.Forall₂ (Accounts []) [(buildExecutionSchedule manifest plan).setupSteps]
      (setupStart (manifestExecutor transport config) manifest plan world).threads :=
  .cons (accounts_start _ fun _ => .rfl) .nil

/-- The account of the thread that takes a step. -/
private theorem takes_accounts {base : List String}
    {sequences : List (List (V1Step (requestParsers external)))}
    {start : ThreadsState (manifestExecutor transport config)} {order : List Nat}
    (hstart : List.Forall₂ (Accounts base) sequences start.threads)
    {step : V1Step (requestParsers external)} {context : ExecutionContext}
    {world : transport.World} (h : Takes start order step context world) :
    ∃ steps ∈ sequences, ∃ executed rest, steps = executed ++ step :: rest ∧
      ∀ stepId, stepId ∈ context.steps.keys ↔ stepId ∈ base ∨ stepId ∈ executed.map V1Step.id := by
  obtain ⟨before, index, after, state, thread, rest, rfl, hrun, hthread, hremaining, rfl, -⟩ := h
  have hall : List.Forall₂ (Accounts base) sequences state.threads :=
    runThreads_forall₂ hstart (fun _ _ _ _ _ hQ hadvance => hQ.advance hadvance) hrun
  obtain ⟨steps, hsteps, haccounts⟩ := hall.exists_of_mem_right (List.mem_of_getElem? hthread)
  have hrunning : thread.failure = none := by
    by_contra hfailed
    rw [haccounts.1 hfailed] at hremaining
    cases hremaining
  obtain ⟨executed, heq, hkeys⟩ := haccounts.2 hrunning
  rw [hremaining] at heq
  exact ⟨steps, hsteps, executed, rest, heq, hkeys⟩

/-- The setup context has the selected setup steps. -/
private theorem setupLeaves_keys {manifest : Manifest (requestParsers external)} {plan : TestPlan}
    {world world' : transport.World} {setupOrder : List Nat} {context : ExecutionContext}
    (hv1 : manifest.schemaVersion = .v1)
    (h : SetupLeaves (manifestExecutor transport config) manifest plan world setupOrder context
      world') (stepId : String) :
    stepId ∈ context.steps.keys ↔
      stepId ∈ (manifest.steps.filter plan.runsInSetup).map V1Step.id := by
  obtain ⟨setup, thread, hrun, hfinished, hthread, hrunning, rfl, -⟩ := h
  have hmem := List.mem_of_getElem? hthread
  have hall : List.Forall₂ (Accounts []) [(buildExecutionSchedule manifest plan).setupSteps]
      setup.threads :=
    runThreads_forall₂ (accounts_setupStart manifest plan world)
      (fun _ _ _ _ _ hQ hadvance => hQ.advance hadvance) hrun
  obtain ⟨steps, hsteps, haccounts⟩ := hall.exists_of_mem_right hmem
  obtain ⟨executed, heq, hkeys⟩ := haccounts.2 hrunning
  rw [finished_iff.mp hfinished thread hmem, List.append_nil] at heq
  rw [hkeys stepId, ← heq, List.mem_singleton.mp hsteps, buildExecutionSchedule_setupSteps plan hv1]
  simp

/-- Only a v1 manifest has steps to execute. -/
theorem executes_v1 {manifest : Manifest (requestParsers external)} {plan : TestPlan}
    {world stepWorld : transport.World} {setupOrder groupOrder : List Nat}
    {step : V1Step (requestParsers external)} {context : ExecutionContext}
    (h : Executes (manifestExecutor transport config) manifest plan world setupOrder groupOrder step
      context stepWorld) : manifest.schemaVersion = .v1 := by
  by_contra hv0
  have hempty : buildExecutionSchedule manifest plan = ⟨[], []⟩ := by
    rw [buildExecutionSchedule, if_pos hv0]
  rcases h.phase with htakes | ⟨base, world', -, htakes⟩
  · obtain ⟨steps, hsteps, executed, rest, heq, -⟩ :=
      takes_accounts (accounts_setupStart manifest plan world) htakes
    rw [hempty, List.mem_singleton] at hsteps
    simp [hsteps] at heq
  · have hstart : List.Forall₂ (Accounts [])
        [] (groupsStart (manifestExecutor transport config) manifest plan base world').threads := by
      rw [groupsStart, hempty]
      exact .nil
    obtain ⟨steps, hsteps, -⟩ := takes_accounts hstart htakes
    cases hsteps

/-- The context that a step is given has the steps of its scope and no others. -/
theorem executes_keys {manifest : Manifest (requestParsers external)} {plan : TestPlan}
    {world stepWorld : transport.World} {setupOrder groupOrder : List Nat}
    {step : V1Step (requestParsers external)} {context : ExecutionContext}
    (hids : manifest.WellFormedIds)
    (h : Executes (manifestExecutor transport config) manifest plan world setupOrder groupOrder step
      context stepWorld) :
    step ∈ manifest.steps ∧ ∀ stepId, stepId ∈ context.steps.keys ↔
      stepId ∈ (stepScope manifest plan step).map V1Step.id := by
  have hv1 := executes_v1 h
  rcases h.phase with htakes | ⟨base, world', hleaves, htakes⟩
  · obtain ⟨steps, hsteps, executed, rest, heq, hkeys⟩ :=
      takes_accounts (accounts_setupStart manifest plan world) htakes
    rw [List.mem_singleton.mp hsteps, buildExecutionSchedule_setupSteps plan hv1] at heq
    have hmem : step ∈ manifest.steps.filter plan.runsInSetup := by simp [heq]
    obtain ⟨hexecuted, hsetup⟩ := filter_stepsBefore hids.nodup heq
    refine ⟨(List.mem_filter.mp hmem).1, fun stepId => ?_⟩
    have hphase : step.phase = .setup := by
      simp only [TestPlan.runsInSetup, Bool.and_eq_true, decide_eq_true_eq] at hsetup
      exact hsetup.2
    rw [hkeys, stepScope, if_pos hphase, hexecuted]
    simp
  · have hstart : List.Forall₂ (Accounts ((manifest.steps.filter plan.runsInSetup).map V1Step.id))
        ((buildExecutionSchedule manifest plan).executionGroups.map ExecutionGroup.steps)
        (groupsStart (manifestExecutor transport config) manifest plan base world').threads := by
      rw [groupsStart, List.forall₂_map_left_iff, List.forall₂_map_right_iff]
      exact List.forall₂_same.mpr fun group _ =>
        accounts_start group.steps (setupLeaves_keys hv1 hleaves)
    obtain ⟨steps, hsteps, executed, rest, heq, hkeys⟩ := takes_accounts hstart htakes
    obtain ⟨group, hgroup, rfl⟩ := List.mem_map.mp hsteps
    rw [mem_executionGroups hv1 hgroup] at heq
    have hmem : step ∈ manifest.steps.filter fun step =>
        plan.runsInExecution step && step.group = group.groupId := by simp [heq]
    obtain ⟨hexecuted, hexecution⟩ := filter_stepsBefore hids.nodup heq
    simp only [TestPlan.runsInExecution, Bool.and_eq_true, decide_eq_true_eq] at hexecution
    refine ⟨(List.mem_filter.mp hmem).1, fun stepId => ?_⟩
    rw [hkeys, stepScope, if_neg hexecution.1.2, hexecuted, hexecution.2, List.map_append,
      List.mem_append]

/-- In every run of an accepted manifest, the context that a step is given has exactly the
    steps of its scope. The templates of the step refer to steps before it in the manifest,
    and resolving one blames a step for being unknown only if that step is out of scope. -/
theorem executes_scope (transport : StepTransport external) (config : Option RuntimeConfig)
    {payload : JsonObject} {manifest : Manifest (requestParsers external)}
    (hparse : parseManifest (requestParsers external) payload = .ok manifest)
    (world : transport.World) (setupOrder groupOrder : List Nat)
    (step : V1Step (requestParsers external)) (context : ExecutionContext)
    (stepWorld : transport.World)
    (h : Executes (manifestExecutor transport config) manifest
      (TestPlan.defaultPlanFromManifest manifest) world setupOrder groupOrder step context
      stepWorld) :
    (∀ stepId, stepId ∈ context.steps.keys ↔ stepId ∈
      (stepScope manifest (TestPlan.defaultPlanFromManifest manifest) step).map V1Step.id) ∧
    ∀ template ∈ step.templates,
      (∀ stepId ∈ stepReferences template,
        stepId ∈ (stepsBefore manifest.steps step).map V1Step.id) ∧
      ∀ stepId, resolvePlaceholders transport.pyStr template context = .error (.unknownStep stepId) →
        stepId ∈ stepReferences template ∧ stepId ∉
          (stepScope manifest (TestPlan.defaultPlanFromManifest manifest) step).map V1Step.id := by
  have hids := parseManifest_wellFormedIds hparse (executes_v1 h)
  obtain ⟨hstep, hkeys⟩ := executes_keys hids h
  refine ⟨hkeys, fun template htemplate => ⟨?_, fun stepId hunknown => ?_⟩⟩
  -- the parser has seen the steps before this one only
  · obtain ⟨before, after, hsplit⟩ := List.append_of_mem hstep
    have hbefore : stepsBefore manifest.steps step = before := by
      have hnodup := hids.nodup
      rw [hsplit] at hnodup ⊢
      exact stepsBefore_eq hnodup
    rw [hbefore]
    exact references_of_parseManifest hparse before step after hsplit template htemplate
  · obtain ⟨hreference, hmissing⟩ := resolvePlaceholders_unknownStep hunknown
    rw [Dict.get?_eq_none_iff, hkeys] at hmissing
    exact ⟨hreference, hmissing⟩

end Contexts

/-! ## A reference across groups -/

/-- The parsers with the URL checks of literal HTTPS URLs. -/
def literalParsers : ExternalParsers where
  Assertion := JsonObject
  Test := JsonObject
  repr
    | .str text => "'" ++ text ++ "'"
    | _ => ""
  parseAssertion raw _ := .ok raw
  parseTest raw _ := .ok raw
  validateHttpsUrl url label :=
    if "https://".toList.isPrefixOf url.toList then .ok ()
    else .error (.httpsUrlValidationError s!"{label} must be an absolute HTTPS URL")
  validateOauthRedirectUri _ _ := .ok ()

/-- A bank that answers every request with the URL to follow. -/
def followUpTransport : StepTransport literalParsers where
  World := Unit
  pyStr
    | .str text => text
    | _ => ""
  maskHeaders headers := headers.map fun header => (header.1, .str header.2)
  maskJson := id
  maskForm fields := fields.map fun field => (field.1, .str field.2)
  maskUrlQuery := id
  exchange _ _ _ _ _ _ world :=
    (.ok (.answered ⟨200, [], [("next_url", .str "https://example.com/follow-up")]⟩
      ⟨.passed, "passed", none, some 200, []⟩), world)
  registerSession _ world := (.error "no session store", world)
  generateRequestObject _ _ _ _ world := (.error "no signing credentials", world)
  authorize _ _ _ _ world := (.ok ("", .failed ⟨.failed, "timed out", none, none, []⟩), world)

/-- The JSON of a manifest in which one group follows a link that another receives. -/
def crossGroupManifestJson : JsonObject :=
  [("schemaVersion", .str "v1"), ("name", .str "cross-group-placeholder"),
    ("steps", .arr [
      getStepJson "alpha-source" "https://example.com/alpha" [("group", .str "alpha")],
      getStepJson "beta-dependent" "$\x7bsteps.alpha-source.response.body.next_url\x7d"
        [("group", .str "beta")]])]

/-- A step of that manifest, parsed. -/
def crossGroupStep (stepId url group : String) : V1Step (requestParsers literalParsers) :=
  .http {
    id := stepId, name := stepId, request := ({ method := .get, url := url } : ManifestRequest),
    assertions := [([("type", .str "http_status"), ("expected", .int 200)] : JsonObject)],
    warning := none, mandatory := false, optional := false, group := group,
    phase := .execution, tokenEndpointAuthPolicy := none, requiredTokenId := none,
    producesTokenId := none }

/-- The step that the other group depends on. -/
def alphaSource : V1Step (requestParsers literalParsers) :=
  crossGroupStep "alpha-source" "https://example.com/alpha" "alpha"

/-- The step that refers to it. -/
def betaDependent : V1Step (requestParsers literalParsers) :=
  crossGroupStep "beta-dependent" "$\x7bsteps.alpha-source.response.body.next_url\x7d" "beta"

/-- That manifest, parsed. -/
def crossGroupManifest : Manifest (requestParsers literalParsers) where
  schemaVersion := .v1
  name := "cross-group-placeholder"
  certificationCoverage := .partialCoverage
  steps := [alphaSource, betaDependent]

/-- A GET request whose URL is a literal or a checked placeholder. -/
private theorem parseV1Request_get {url location : String} {seenIds : List String}
    (hstrip : strip url = url ∧ url ≠ "")
    (hsyntaxOk : ∀ location, validatePlaceholderSyntax url location seenIds = .ok ())
    (hurl : containsPlaceholder url.toList = true ∨ "https://".toList.isPrefixOf url.toList = true) :
    parseV1Request literalParsers [("method", .str "GET"), ("url", .str url)] location seenIds =
      .ok { method := .get, url := url } := by
  have hrequired : requiredString [("method", .str "GET"), ("url", .str url)] "url" location =
      .ok url := by
    simp [requiredString, List.lookup_cons, hstrip]
  refine bind_eq_ok.mpr ⟨(), rfl, bind_eq_ok.mpr ⟨.get, rfl, bind_eq_ok.mpr ⟨url, hrequired,
    bind_eq_ok.mpr ⟨(), hsyntaxOk _, ?_⟩⟩⟩⟩
  rcases hurl with hplaceholder | hhttps
  · rw [if_neg (by simp [hplaceholder])]
    rfl
  · have hcheck : literalParsers.validateHttpsUrl url s!"{location}.url" = .ok () := if_pos hhttps
    split
    · rw [hcheck]
      rfl
    · rfl

/-- The JSON members of a step with such a request. -/
def crossGroupFields (stepId url group : String) : JsonObject :=
  [("id", .str stepId), ("name", .str stepId),
    ("request", .obj [("method", .str "GET"), ("url", .str url)]),
    ("assertions", .arr [.obj [("type", .str "http_status"), ("expected", .int 200)]]),
    ("group", .str group)]

/-- A text that stays as it is and names a step or a group. -/
structure Identifier (text : String) : Prop where
  strip_eq : strip text = text
  ne_empty : text ≠ ""
  matches_class : stepIdPatternMatch text = true

/-- A step with such a request. -/
theorem parseV1Step_get (stepId url group : String) {seenIds : List String} (index : Nat)
    (hid : Identifier stepId) (hfresh : stepId ∉ seenIds) (hgroup : Identifier group)
    (hstrip : strip url = url ∧ url ≠ "")
    (hsyntaxOk : ∀ location, validatePlaceholderSyntax url location seenIds = .ok ())
    (hurl : containsPlaceholder url.toList = true ∨ "https://".toList.isPrefixOf url.toList = true) :
    parseV1Step (requestParsers literalParsers) (crossGroupFields stepId url group) index seenIds =
      .ok (crossGroupStep stepId url group) := by
  have hstepId : ∀ location, parseStepId (crossGroupFields stepId url group) location seenIds =
      .ok stepId := by
    intro location
    refine bind_eq_ok.mpr ⟨stepId, ?_, bind_eq_ok.mpr ⟨(), ?_, bind_eq_ok.mpr ⟨(), ?_, rfl⟩⟩⟩
    · simp [crossGroupFields, requiredString, hid.strip_eq, hid.ne_empty]
    · exact raiseIf_eq_ok.mpr (by simp [hid.matches_class])
    · exact raiseIf_eq_ok.mpr hfresh
  have hname : ∀ location, requiredString (crossGroupFields stepId url group) "name" location =
      .ok stepId := by
    intro location
    simp [crossGroupFields, requiredString, List.lookup_cons, hid.strip_eq, hid.ne_empty]
  have hgroupId : ∀ location, parseOptionalGroup (crossGroupFields stepId url group) location =
      .ok group := by
    intro location
    refine bind_eq_ok.mpr ⟨group, ?_, bind_eq_ok.mpr ⟨(), ?_, rfl⟩⟩
    · simp [crossGroupFields, requiredString, List.lookup_cons, hgroup.strip_eq, hgroup.ne_empty]
    · exact raiseIf_eq_ok.mpr (by simp [hgroup.matches_class])
  refine bind_eq_ok.mpr ⟨_, ?_, rfl⟩
  refine bind_eq_ok.mpr ⟨(), rfl, bind_eq_ok.mpr ⟨stepId, hstepId _, bind_eq_ok.mpr ⟨stepId, hname _,
    bind_eq_ok.mpr ⟨_, rfl, bind_eq_ok.mpr ⟨_, parseV1Request_get hstrip hsyntaxOk hurl, ?_⟩⟩⟩⟩⟩
  refine bind_eq_ok.mpr ⟨_, rfl, bind_eq_ok.mpr ⟨none, rfl, bind_eq_ok.mpr ⟨false, rfl,
    bind_eq_ok.mpr ⟨false, rfl, bind_eq_ok.mpr ⟨group, hgroupId _, ?_⟩⟩⟩⟩⟩
  exact bind_eq_ok.mpr ⟨.execution, rfl, bind_eq_ok.mpr ⟨none, rfl, bind_eq_ok.mpr ⟨none, rfl,
    bind_eq_ok.mpr ⟨none, rfl, bind_eq_ok.mpr ⟨none, rfl, bind_eq_ok.mpr ⟨(), rfl,
    bind_eq_ok.mpr ⟨_, rfl, rfl⟩⟩⟩⟩⟩⟩⟩

/-- A template whose tokens all name known steps is accepted, wherever it stands. -/
theorem validatePlaceholderSyntax_of {template : String} {seenIds : List String}
    (hcount : countOpenings template.toList ≤ (placeholderTokens template).length)
    (htokens : ∀ token ∈ placeholderTokens template,
      (stepPlaceholder? token).any (fun stepId => String.ofList stepId ∈ seenIds) = true)
    (location : String) : validatePlaceholderSyntax template location seenIds = .ok () := by
  refine bind_eq_ok.mpr ⟨(), raiseIf_eq_ok.mpr (Nat.not_lt.mpr hcount), ?_⟩
  refine List.forM_eq_ok.mpr fun token htoken => ?_
  have hany := htokens token htoken
  unfold validateToken
  split
  · rfl
  · cases hstep : stepPlaceholder? token with
    | none =>
      rw [hstep] at hany
      cases hany
    | some stepId =>
      rw [hstep, Option.any_some, decide_eq_true_eq] at hany
      exact raiseIf_eq_ok.mpr (not_not_intro hany)

/-- The sample manifest parses. -/
private theorem crossGroupManifest_parses :
    parseManifest (requestParsers literalParsers) crossGroupManifestJson =
      .ok crossGroupManifest := by
  have halpha : parseV1Step (requestParsers literalParsers) _ 0 [] = .ok alphaSource :=
    parseV1Step_get "alpha-source" "https://example.com/alpha" "alpha" 0
      ⟨by decide +kernel, by decide, by decide +kernel⟩ (by simp)
      ⟨by decide +kernel, by decide, by decide +kernel⟩ ⟨by decide +kernel, by decide⟩
      (validatePlaceholderSyntax_of (by decide +kernel) (by decide +kernel))
      (.inr (by decide +kernel))
  have hbeta : parseV1Step (requestParsers literalParsers) _ 1 ["alpha-source"] =
      .ok betaDependent :=
    parseV1Step_get "beta-dependent" "$\x7bsteps.alpha-source.response.body.next_url\x7d" "beta" 1
      ⟨by decide +kernel, by decide, by decide +kernel⟩ (by simp)
      ⟨by decide +kernel, by decide, by decide +kernel⟩ ⟨by decide +kernel, by decide⟩
      (validatePlaceholderSyntax_of (by decide +kernel) (by decide +kernel))
      (.inl (by decide +kernel))
  refine bind_eq_ok.mpr ⟨"v1", rfl, ?_⟩
  refine bind_eq_ok.mpr ⟨(), rfl, bind_eq_ok.mpr ⟨_, rfl, bind_eq_ok.mpr ⟨_, rfl,
    bind_eq_ok.mpr ⟨_, rfl, bind_eq_ok.mpr
      ⟨(["alpha-source", "beta-dependent"], [alphaSource, betaDependent]), ?_, rfl⟩⟩⟩⟩⟩
  refine bind_eq_ok.mpr ⟨(["alpha-source"], [alphaSource]), bind_eq_ok.mpr ⟨_, halpha, rfl⟩, ?_⟩
  exact bind_eq_ok.mpr ⟨_, bind_eq_ok.mpr ⟨_, hbeta, rfl⟩, rfl⟩

/-- The second step of that manifest is executed after the first, from a context without it. -/
private theorem betaDependent_executes :
    Executes (manifestExecutor followUpTransport none) crossGroupManifest
      (TestPlan.defaultPlanFromManifest crossGroupManifest) () [] [0, 1] betaDependent
      ({} : ExecutionContext) () := by
  have hleaves : SetupLeaves (manifestExecutor followUpTransport none) crossGroupManifest
      (TestPlan.defaultPlanFromManifest crossGroupManifest) () [] ({} : ExecutionContext) () :=
    ⟨_, _, rfl, rfl, rfl, rfl, rfl, rfl⟩
  refine .execution hleaves ?_
  exact ⟨[0], 1, [], _, _, [], rfl, rfl, rfl, rfl, rfl, rfl⟩

/-- The reference of the second step is accepted when the manifest is parsed and unknown
    when the step is executed, though the step it names has been executed. -/
theorem executes_crossGroup_unknown :
    parseManifest (requestParsers literalParsers) crossGroupManifestJson =
      .ok crossGroupManifest ∧
    Executes (manifestExecutor followUpTransport none) crossGroupManifest
      (TestPlan.defaultPlanFromManifest crossGroupManifest) () [] [0, 1] betaDependent
      ({} : ExecutionContext) () ∧
    ∃ template ∈ betaDependent.templates, "alpha-source" ∈ stepReferences template ∧
      "alpha-source" ∉ ({} : ExecutionContext).steps.keys ∧
      resolvePlaceholders followUpTransport.pyStr template {} =
        .error (.unknownStep "alpha-source") := by
  refine ⟨crossGroupManifest_parses, betaDependent_executes, _, List.mem_cons_self, ?_⟩
  exact ⟨by decide +kernel, by decide +kernel, by decide +kernel⟩

/-- The context of that step has its scope, in which nothing is. Its URL refers to the step of
    the other group, which stands before it in the manifest, is unknown when the URL is resolved
    and is out of scope. -/
theorem executes_scope_crossGroup :
    parseManifest (requestParsers literalParsers) crossGroupManifestJson =
      .ok crossGroupManifest ∧
    Executes (manifestExecutor followUpTransport none) crossGroupManifest
      (TestPlan.defaultPlanFromManifest crossGroupManifest) () [] [0, 1] betaDependent
      ({} : ExecutionContext) () ∧
    (∀ stepId, stepId ∈ ({} : ExecutionContext).steps.keys ↔ stepId ∈ (stepScope crossGroupManifest
      (TestPlan.defaultPlanFromManifest crossGroupManifest) betaDependent).map V1Step.id) ∧
    ∃ template ∈ betaDependent.templates, "alpha-source" ∈ stepReferences template ∧
      "alpha-source" ∈ (stepsBefore crossGroupManifest.steps betaDependent).map V1Step.id ∧
      resolvePlaceholders followUpTransport.pyStr template {} =
        .error (.unknownStep "alpha-source") ∧
      "alpha-source" ∉ (stepScope crossGroupManifest
        (TestPlan.defaultPlanFromManifest crossGroupManifest) betaDependent).map V1Step.id := by
  obtain ⟨hkeys, htemplates⟩ := executes_scope followUpTransport none crossGroupManifest_parses ()
    [] [0, 1] betaDependent ({} : ExecutionContext) () betaDependent_executes
  refine ⟨crossGroupManifest_parses, betaDependent_executes, hkeys, _, List.mem_cons_self, ?_⟩
  obtain ⟨hreferences, hunknown⟩ := htemplates _ List.mem_cons_self
  have herror : resolvePlaceholders followUpTransport.pyStr
      "$\x7bsteps.alpha-source.response.body.next_url\x7d" {} =
        .error (.unknownStep "alpha-source") := by
    decide +kernel
  obtain ⟨hreference, hmissing⟩ := hunknown "alpha-source" herror
  exact ⟨hreference, hreferences _ hreference, herror, hmissing⟩

end Conformance
