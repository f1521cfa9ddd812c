import Conformance.Native.RunLifecycle
import Conformance.Spec.RunStoreInvariant
import Conformance.Spec.AuthSessionInvariant

/-!
# The invariant of the run lifecycle

For any number of `start_run` calls, `_execute_run` threads, registration
requests and callbacks, in any interleaving of their atomic steps: the thread of
a run works exactly while the run is the active one, and a session outlives the
sweep of its run only in the hands of a request that has yet to re-read the run.

`launchStep_cases`, `threadStep_cases` and `requestStep_cases` say once what a
step of each party can do; the invariant is derived from them.
-/

namespace Conformance

/-! ## What one step of a party does -/

/-- The run a `start_run` call has created. -/
def LaunchPc.runId? : LaunchPc → Option String
  | .created _ runId => some runId
  | .returned runId => some runId
  | .raised _ runId => runId
  | _ => none

/-- The run of a call that has created it and not started its thread. -/
def LaunchPc.unstarted? : LaunchPc → Option String
  | .created _ runId => some runId
  | .raised _ runId => runId
  | _ => none

/-- Whether the thread still has to mark its run terminal. -/
def ThreadPc.working : ThreadPc → Bool
  | .absent => false
  | .sweeping => false
  | .finished => false
  | _ => true

/-- The session a request has registered and not yet accounted for, by run and
    state. -/
def RequestPc.inHand? : RequestPc → Option (String × String)
  | .registered runId session => some (runId, session.state)
  | .rollback runId session _ => some (runId, session.state)
  | _ => none

/-- The run of a request that has seen the run active. -/
def RequestPc.admittedTo? : RequestPc → Option String
  | .admitted runId _ => some runId
  | .registered runId _ => some runId
  | .rollback runId _ _ => some runId
  | _ => none

/-- A call without a thread holds the run it created. -/
theorem LaunchPc.runId?_of_unstarted? {pc : LaunchPc} {runId : String}
    (h : pc.unstarted? = some runId) : pc.runId? = some runId := by
  cases pc <;> simp_all [LaunchPc.unstarted?, LaunchPc.runId?]

/-- The steps of a `start_run` call. -/
theorem launchStep_cases {stores stores' : Stores} {pc pc' : LaunchPc} {event : LaunchEvent}
    (h : launchStep stores pc event = some (stores', pc')) :
    (∃ arguments, pc = .idle ∧ event = .validate arguments ∧ stores' = stores ∧
      pc'.runId? = none) ∨
    (∃ arguments plannedSteps uuid now, pc = .validated arguments plannedSteps ∧
      event = .create uuid now ∧
      ((stores.runs.activeRunId = none ∧ pc' = .created arguments uuid ∧
          stores' = stores.callRuns (.createRun uuid now plannedSteps arguments.planSnapshot
            arguments.validationResult)) ∨
        (stores.runs.activeRunId ≠ none ∧ stores' = stores ∧ ∃ error, pc' = .raised error none))) ∨
    (∃ arguments runId started, pc = .created arguments runId ∧ event = .startThread started ∧
      stores' = stores ∧
      pc' = if started then .returned runId else .raised .threadStartError (some runId)) := by
  unfold launchStep at h
  split at h
  · rename_i arguments
    obtain ⟨rfl, rfl⟩ := Prod.mk.inj (Option.some.inj h)
    refine .inl ⟨arguments, rfl, rfl, rfl, ?_⟩
    unfold validateLaunch
    split
    · rfl
    · split <;> rfl
  · rename_i arguments plannedSteps uuid now
    refine .inr (.inl ⟨arguments, plannedSteps, uuid, now, rfl, rfl, ?_⟩)
    -- `create_run` raises exactly when the slot is taken
    cases hactive : stores.runs.activeRunId with
    | none =>
      refine .inl ⟨rfl, ?_⟩
      simp only [RunStore.createRun, EStateM.run_bind, EStateM.run_get, hactive, EStateM.run_set,
        EStateM.run_modify, EStateM.run_pure] at h
      obtain ⟨rfl, rfl⟩ := Prod.mk.inj (Option.some.inj h)
      refine ⟨rfl, ?_⟩
      simp only [Stores.callRuns, RunStore.after, RunStore.Op.call, RunStore.createRun,
        EStateM.run_bind, EStateM.run_get, hactive, EStateM.run_set, EStateM.run_modify,
        EStateM.run_pure]
    | some activeRunId =>
      have hraise : (RunStore.createRun uuid now plannedSteps arguments.planSnapshot
          arguments.validationResult).run stores.runs =
          .error (.runConflictError activeRunId) stores.runs := by
        simp only [RunStore.createRun, EStateM.run_bind, EStateM.run_get, hactive]
        rfl
      rw [hraise] at h
      obtain ⟨rfl, rfl⟩ := Prod.mk.inj (Option.some.inj h)
      exact .inr ⟨by simp, rfl, _, rfl⟩
  · rename_i arguments runId started
    obtain ⟨rfl, rfl⟩ := Prod.mk.inj (Option.some.inj h)
    exact .inr (.inr ⟨arguments, runId, started, rfl, rfl, rfl, rfl⟩)
  · cases h

/-- What a thread asks of the stores while it works: nothing, a mark of its run as
    running, or an engine request. -/
inductive WorkCall (runId : String) (stores : Stores) : Stores → Prop
  | none : WorkCall runId stores stores
  | markRunning (now : Timestamp) :
      WorkCall runId stores (stores.callRuns (.markRunning runId now))
  | engine (op : EngineOp) : WorkCall runId stores (engineCall runId stores op)

/-- The two ways a thread marks its run terminal. -/
inductive MarkCall (runId : String) (stores : Stores) : Stores → Prop
  | completed (now : Timestamp) (result : Json) :
      MarkCall runId stores (stores.callRuns (.markCompleted runId now result))
  | failed (now : Timestamp) (error : String) :
      MarkCall runId stores (stores.callRuns (.markFailed runId now error))

/-- The steps of an `_execute_run` thread: it works, it ends its work by marking
    the run terminal (or by finding it gone), and it sweeps. -/
theorem threadStep_cases {runId : String} {stores stores' : Stores} {pc pc' : ThreadPc}
    {event : ThreadEvent} (h : threadStep runId stores pc event = some (stores', pc')) :
    (pc.working = true ∧ pc'.working = true ∧ WorkCall runId stores stores') ∨
    (pc.working = true ∧ pc' = .sweeping ∧
      (MarkCall runId stores stores' ∨ (stores' = stores ∧ stores.getRun runId = none))) ∨
    (pc = .sweeping ∧ pc' = .finished ∧ stores' = stores.callSessions (.discardForRun runId)) := by
  unfold threadStep at h
  split at h
  · obtain ⟨rfl, rfl⟩ := Prod.mk.inj (Option.some.inj h)
    exact .inl ⟨rfl, rfl, .markRunning _⟩
  -- `run_store.get_run(run_id)`, and the early return when the run has disappeared
  · split at h
    · rename_i hnone
      obtain ⟨rfl, rfl⟩ := Prod.mk.inj (Option.some.inj h)
      exact .inr (.inl ⟨rfl, rfl, .inr ⟨rfl, hnone⟩⟩)
    · obtain ⟨rfl, rfl⟩ := Prod.mk.inj (Option.some.inj h)
      refine .inl ⟨rfl, ?_, .none⟩
      split <;> rfl
  · split at h <;> obtain ⟨rfl, rfl⟩ := Prod.mk.inj (Option.some.inj h) <;>
      exact .inl ⟨rfl, rfl, .none⟩
  · obtain ⟨rfl, rfl⟩ := Prod.mk.inj (Option.some.inj h)
    exact .inl ⟨rfl, rfl, .engine _⟩
  · obtain ⟨rfl, rfl⟩ := Prod.mk.inj (Option.some.inj h)
    exact .inl ⟨rfl, rfl, .none⟩
  · obtain ⟨rfl, rfl⟩ := Prod.mk.inj (Option.some.inj h)
    exact .inl ⟨rfl, rfl, .none⟩
  · split at h <;> obtain ⟨rfl, rfl⟩ := Prod.mk.inj (Option.some.inj h) <;>
      exact .inl ⟨rfl, rfl, .none⟩
  · split at h <;> obtain ⟨rfl, rfl⟩ := Prod.mk.inj (Option.some.inj h) <;>
      exact .inl ⟨rfl, rfl, .none⟩
  -- the two marks, and the sweep of the `finally` block
  · obtain ⟨rfl, rfl⟩ := Prod.mk.inj (Option.some.inj h)
    exact .inr (.inl ⟨rfl, rfl, .inl (.completed _ _)⟩)
  · obtain ⟨rfl, rfl⟩ := Prod.mk.inj (Option.some.inj h)
    exact .inr (.inl ⟨rfl, rfl, .inl (.failed _ _)⟩)
  · obtain ⟨rfl, rfl⟩ := Prod.mk.inj (Option.some.inj h)
    exact .inr (.inr ⟨rfl, rfl, rfl⟩)
  · cases h

/-- Whether an answer is the one of a successful registration. -/
def RegisterAnswer.isCreated : RegisterAnswer → Bool
  | .created _ => true
  | _ => false

/-- Refusals are not successful registrations. -/
theorem isCreated_of_refusal {record : Option RunRecord} {answer : RegisterAnswer}
    (h : refusal record = some answer) : answer.isCreated = false := by
  unfold refusal at h
  split at h
  · obtain rfl := Option.some.inj h
    rfl
  · split at h
    · obtain rfl := Option.some.inj h
      rfl
    · cases h

/-- The steps of a registration request. -/
theorem requestStep_cases {stores stores' : Stores} {pc pc' : RequestPc} {event : RequestEvent}
    (h : requestStep stores pc event = some (stores', pc')) :
    (stores' = stores ∧ pc.inHand? = none ∧
      (∃ runId rawState, pc' = .received runId rawState ∨ ∃ answer, pc' = .answered runId answer ∧
        answer.isCreated = false)) ∨
    (∃ runId rawState, stores' = stores ∧ pc = .received runId rawState ∧
      pc' = .admitted runId rawState ∧ refusal (stores.getRun runId) = none) ∨
    (∃ runId rawState token now, pc = .admitted runId rawState ∧
      stores.sessions.sessions.get? (rawState.getD token) = none ∧
      stores' = stores.callSessions (.register runId rawState token now) ∧
      stores'.sessions.sessions.get? (rawState.getD token) =
        some (AuthSessionStore.registered runId rawState token now) ∧
      pc' = .registered runId (AuthSessionStore.registered runId rawState token now)) ∨
    (∃ runId session, stores' = stores ∧ pc = .registered runId session ∧
      ((refusal (stores.getRun runId) = none ∧ pc' = .answered runId (.created session)) ∨
        ∃ answer, pc' = .rollback runId session answer ∧ answer.isCreated = false)) ∨
    (∃ runId session answer, pc = .rollback runId session answer ∧ event = .discard ∧
      stores' = stores.callSessions (.discard runId session.state) ∧
      pc' = .answered runId answer) := by
  unfold requestStep at h
  split at h
  · split at h <;> obtain ⟨rfl, rfl⟩ := Prod.mk.inj (Option.some.inj h)
    · exact .inl ⟨rfl, rfl, _, none, .inr ⟨_, rfl, rfl⟩⟩
    · exact .inl ⟨rfl, rfl, _, _, .inl rfl⟩
  · rename_i runId rawState
    split at h
    · rename_i answer hrefused
      obtain ⟨rfl, rfl⟩ := Prod.mk.inj (Option.some.inj h)
      exact .inl ⟨rfl, rfl, runId, none, .inr ⟨answer, rfl, isCreated_of_refusal hrefused⟩⟩
    · rename_i hadmitted
      obtain ⟨rfl, rfl⟩ := Prod.mk.inj (Option.some.inj h)
      exact .inr (.inl ⟨runId, rawState, rfl, rfl, rfl, hadmitted⟩)
  · rename_i runId rawState token now
    -- the registration either raises and writes nothing or adds the session
    rw [AuthSessionStore.register_run] at h
    by_cases hshort : rawState.any (fun s => s.length < MIN_CALLER_SUPPLIED_STATE_LENGTH) = true
    · rw [if_pos hshort] at h
      obtain ⟨rfl, rfl⟩ := Prod.mk.inj (Option.some.inj h)
      exact .inl ⟨rfl, rfl, runId, none, .inr ⟨_, rfl, rfl⟩⟩
    by_cases hdup : stores.sessions.sessions.contains (rawState.getD token) = true
    · rw [if_neg hshort, if_pos hdup] at h
      obtain ⟨rfl, rfl⟩ := Prod.mk.inj (Option.some.inj h)
      exact .inl ⟨rfl, rfl, runId, none, .inr ⟨_, rfl, rfl⟩⟩
    by_cases hcap : MAX_SESSIONS_PER_RUN ≤ (stores.sessions.ownedBy runId).length
    · rw [if_neg hshort, if_neg hdup, if_pos hcap] at h
      obtain ⟨rfl, rfl⟩ := Prod.mk.inj (Option.some.inj h)
      exact .inl ⟨rfl, rfl, runId, none, .inr ⟨_, rfl, rfl⟩⟩
    have hrun := AuthSessionStore.register_run stores.sessions runId rawState token now
    rw [if_neg hshort, if_neg hdup, if_neg hcap] at h hrun
    obtain ⟨rfl, rfl⟩ := Prod.mk.inj (Option.some.inj h)
    refine .inr (.inr (.inl ⟨runId, rawState, token, now, rfl, ?_, ?_, ?_, rfl⟩))
    · simpa [Dict.contains] using hdup
    · simp only [Stores.callSessions, AuthSessionStore.after, AuthSessionStore.Op.call,
        EStateM.run_bind, hrun, EStateM.run_pure]
    · simp
  · rename_i runId session
    split at h
    · rename_i answer hrefused
      obtain ⟨rfl, rfl⟩ := Prod.mk.inj (Option.some.inj h)
      exact .inr (.inr (.inr (.inl ⟨runId, session, rfl, rfl,
        .inr ⟨answer, rfl, isCreated_of_refusal hrefused⟩⟩)))
    · rename_i hlive
      obtain ⟨rfl, rfl⟩ := Prod.mk.inj (Option.some.inj h)
      exact .inr (.inr (.inr (.inl ⟨runId, session, rfl, rfl, .inl ⟨hlive, rfl⟩⟩)))
  · rename_i runId session answer
    obtain ⟨rfl, rfl⟩ := Prod.mk.inj (Option.some.inj h)
    exact .inr (.inr (.inr (.inr ⟨runId, session, answer, rfl, rfl, rfl, rfl⟩)))
  · cases h

/-! ## What the store calls of a thread do -/

/-- A store call that keeps the active run, adds no record, and adds sessions of
    `runId` only. -/
structure KeepsSlot (runId : String) (stores stores' : Stores) : Prop where
  runs : RunStore.Inv stores'.runs
  active : stores'.runs.activeRunId = stores.runs.activeRunId
  records : ∀ r record, stores'.runs.runs.get? r = some record →
    ∃ record', stores.runs.runs.get? r = some record'
  sessions : ∀ state session', stores'.sessions.sessions.get? state = some session' →
    (∃ session, stores.sessions.sessions.get? state = some session ∧
        session.runId = session'.runId) ∨
      (stores.sessions.sessions.get? state = none ∧ session'.runId = runId)

/-- The active run's record can be marked. -/
private theorem active_guarded {store : RunStore} (hinv : RunStore.Inv store) {runId : String}
    (hactive : store.activeRunId = some runId) : ∀ record, store.runs.get? runId = some record →
      record.status.isTerminal = false := by
  intro record hget
  obtain ⟨r, hr, hlive⟩ := hinv.active_live runId hactive
  obtain rfl := Option.some.inj (hget.symm.trans hr)
  exact hlive

/-- A call that creates no run adds no record. -/
private theorem records_of_after {store : RunStore} {op : RunStore.Op} (hop : op.uuid? = none)
    (r : String) (record : RunRecord) (hget : (store.after op).runs.get? r = some record) :
    ∃ record', store.runs.get? r = some record' := by
  cases hold : store.runs.get? r with
  | some record' => exact ⟨record', rfl⟩
  | none =>
    have huuid := RunStore.get?_after_of_none hold hget
    rw [hop] at huuid
    exact absurd huuid (by simp)

/-- What a call on the auth-session store does to the owners of sessions. -/
private theorem sessions_of_after {store : AuthSessionStore} {op : AuthSessionStore.Op}
    {runId : String} (hop : ∀ r state token now, op = .register r state token now → r = runId)
    (state : String) (session' : AuthSession)
    (hget : (store.after op).sessions.get? state = some session') :
    (∃ session, store.sessions.get? state = some session ∧ session.runId = session'.runId) ∨
      (store.sessions.get? state = none ∧ session'.runId = runId) := by
  rcases AuthSessionStore.lookup_after hget with hsame | ⟨hnone, r, supplied, token, now, hreg, _, rfl⟩ |
    ⟨session, hsession, hresolves, _, _⟩
  · exact .inl ⟨session', hsame, rfl⟩
  · exact .inr ⟨hnone, hop r supplied token now hreg⟩
  · exact .inl ⟨session, hsession, hresolves.runId.symm⟩

/-- A call on the sessions that registers for the run only keeps its slot. -/
private theorem KeepsSlot.callSessions {stores : Stores} (hruns : RunStore.Inv stores.runs)
    {runId : String} {op : AuthSessionStore.Op}
    (hop : ∀ r state token now, op = .register r state token now → r = runId) :
    KeepsSlot runId stores (stores.callSessions op) where
  runs := hruns
  active := rfl
  records := fun _ record hget => ⟨record, hget⟩
  sessions := sessions_of_after hop

/-- A call on the runs that keeps the active one, and adds none, keeps the slot. -/
private theorem KeepsSlot.callRuns {stores : Stores} (hruns : RunStore.Inv stores.runs)
    {runId : String} {op : RunStore.Op} (hguard : RunStore.Guarded stores.runs op)
    (hop : op.uuid? = none) (hactive : (stores.runs.after op).activeRunId = stores.runs.activeRunId) :
    KeepsSlot runId stores (stores.callRuns op) where
  runs := hruns.after hguard
  active := hactive
  records := records_of_after hop
  sessions := fun _ session' hget => .inl ⟨session', hget, rfl⟩

/-- While a thread works it keeps its run in the slot. -/
theorem WorkCall.keepsSlot {runId : String} {stores stores' : Stores}
    (h : WorkCall runId stores stores') (hruns : RunStore.Inv stores.runs)
    (hactive : stores.runs.activeRunId = some runId) : KeepsSlot runId stores stores' := by
  cases h with
  | none => exact ⟨hruns, rfl, fun _ record hget => ⟨record, hget⟩,
      fun _ session' hget => .inl ⟨session', hget, rfl⟩⟩
  | markRunning now =>
    exact .callRuns hruns (active_guarded hruns hactive) rfl
      (RunStore.activeRunId_markRunning _ _ _)
  | engine op =>
    cases op with
    | register state token now =>
      refine .callSessions hruns ?_
      rintro r _ _ _ ⟨⟩
      rfl
    | captureCode state code now => exact .callSessions hruns nofun
    | captureError state error description now => exact .callSessions hruns nofun
    | getSession state => exact .callSessions hruns nofun
    | setParticipantAction stepId url now =>
      exact .callRuns hruns trivial rfl (RunStore.activeRunId_setParticipantAction _ _ _ _ _)
    | clearParticipantAction stepId now =>
      exact .callRuns hruns trivial rfl (RunStore.activeRunId_clearParticipantAction _ _ _ _)

/-- Marking the run terminal frees the slot and touches no session. -/
theorem MarkCall.freesSlot {runId : String} {stores stores' : Stores}
    (h : MarkCall runId stores stores') (hruns : RunStore.Inv stores.runs)
    (hactive : stores.runs.activeRunId = some runId) :
    RunStore.Inv stores'.runs ∧ stores'.runs.activeRunId = none ∧
      (∀ r record, stores'.runs.runs.get? r = some record →
        ∃ record', stores.runs.runs.get? r = some record') ∧
      stores'.sessions = stores.sessions := by
  obtain ⟨record, hget, hlive⟩ := hruns.active_live runId hactive
  have hguard := active_guarded hruns hactive
  cases h with
  | completed now result =>
    refine ⟨hruns.after ?_, RunStore.activeRunId_markCompleted hactive hget now result,
      records_of_after rfl, rfl⟩
    intro r hr hterm
    exact absurd (hguard r hr) (by simp [hterm])
  | failed now error =>
    refine ⟨hruns.after ?_, RunStore.activeRunId_markFailed hactive hget now error,
      records_of_after rfl, rfl⟩
    intro r hr hterm
    exact absurd (hguard r hr) (by simp [hterm])

/-! ## The invariant -/

/-- The id an event draws from `uuid.uuid4()`. -/
def Event.uuid? : Event → Option String
  | .launch _ (.create uuid _) => some uuid
  | _ => none

/-- `uuid.uuid4()` never returns an id twice. -/
def FreshIds (events : List Event) : Prop := (events.filterMap Event.uuid?).Nodup

instance (events : List Event) : Decidable (FreshIds events) :=
  inferInstanceAs (Decidable (events.filterMap Event.uuid?).Nodup)

/-- A request that is not refused has seen its run active. -/
theorem active_of_admitted {stores : Stores} (hruns : RunStore.Inv stores.runs) {runId : String}
    (h : refusal (stores.getRun runId) = none) : stores.runs.activeRunId = some runId := by
  have hgetRun : stores.getRun runId =
      (stores.runs.runs.get? runId).map RunRecord.snapshotLocked := rfl
  rw [hgetRun] at h
  cases hget : stores.runs.runs.get? runId with
  | none => simp [hget, refusal] at h
  | some record =>
    have hlive : record.status.isTerminal = false := by
      simpa [hget, refusal, RunRecord.snapshotLocked] using h
    exact hruns.live_active runId record hget hlive

namespace System

/-- A launch steps its own state and the stores. -/
theorem step_launch {s s' : System} {call : Nat} {event : LaunchEvent}
    (h : s.step (.launch call event) = some s') :
    ∃ stores' pc', launchStep s.stores (s.launches call) event = some (stores', pc') ∧
      s' = { s with
        stores := stores'
        launches := Function.update s.launches call pc'
        threads := startedThreads s.threads (s.launches call) pc' } := by
  simp only [step, bind, Option.bind_eq_some_iff, Prod.exists] at h
  obtain ⟨stores', pc', hlaunch, hs'⟩ := h
  exact ⟨stores', pc', hlaunch, (Option.some.inj hs').symm⟩

/-- So does a thread. -/
theorem step_thread {s s' : System} {runId : String} {event : ThreadEvent}
    (h : s.step (.thread runId event) = some s') :
    ∃ stores' pc', threadStep runId s.stores (s.threads runId) event = some (stores', pc') ∧
      s' = { s with
        stores := stores'
        threads := Function.update s.threads runId pc'
        engineRegistered := noteRegistration s.engineRegistered s.stores stores' true } := by
  simp only [step, bind, Option.bind_eq_some_iff, Prod.exists] at h
  obtain ⟨stores', pc', hthread, hs'⟩ := h
  exact ⟨stores', pc', hthread, (Option.some.inj hs').symm⟩

/-- So does a request. -/
theorem step_request {s s' : System} {request : Nat} {event : RequestEvent}
    (h : s.step (.request request event) = some s') :
    ∃ stores' pc', requestStep s.stores (s.requests request) event = some (stores', pc') ∧
      s' = { s with
        stores := stores'
        requests := Function.update s.requests request pc'
        engineRegistered := noteRegistration s.engineRegistered s.stores stores' false } := by
  simp only [step, bind, Option.bind_eq_some_iff, Prod.exists] at h
  obtain ⟨stores', pc', hrequest, hs'⟩ := h
  exact ⟨stores', pc', hrequest, (Option.some.inj hs').symm⟩

/-- What holds in every state of a run of the process; `issued` are the ids drawn
    so far. -/
structure Inv (issued : List String) (s : System) : Prop where
  runs : RunStore.Inv s.stores.runs
  records_issued : ∀ runId record, s.stores.runs.runs.get? runId = some record → runId ∈ issued
  launches_issued : ∀ call runId, (s.launches call).runId? = some runId → runId ∈ issued
  launches_distinct : ∀ call call' runId, (s.launches call).runId? = some runId →
    (s.launches call').runId? = some runId → call = call'
  unstarted : ∀ call runId, (s.launches call).unstarted? = some runId →
    s.threads runId = .absent ∧ s.stores.runs.activeRunId = some runId
  returned : ∀ call runId, s.launches call = .returned runId → s.threads runId ≠ .absent
  threads_launched : ∀ runId, s.threads runId ≠ .absent → ∃ call, s.launches call = .returned runId
  working_active : ∀ runId, (s.threads runId).working = true →
    s.stores.runs.activeRunId = some runId
  ended_inactive : ∀ runId, s.threads runId = .sweeping ∨ s.threads runId = .finished →
    s.stores.runs.activeRunId ≠ some runId
  sessions_held : ∀ state session, s.stores.sessions.sessions.get? state = some session →
    s.threads session.runId = .finished →
    ∃ request, (s.requests request).inHand? = some (session.runId, state)
  engine_swept : ∀ state session, s.stores.sessions.sessions.get? state = some session →
    s.engineRegistered state = true → s.threads session.runId ≠ .finished
  admitted_issued : ∀ request runId, (s.requests request).admittedTo? = some runId →
    runId ∈ issued

/-- The invariant holds at first. -/
theorem inv_init : Inv [] init where
  runs := RunStore.inv_init
  records_issued := by simp [init, RunStore.init]
  launches_issued := by simp [init, LaunchPc.runId?]
  launches_distinct := by simp [init, LaunchPc.runId?]
  unstarted := by simp [init, LaunchPc.unstarted?]
  returned := by simp [init]
  threads_launched := by simp [init]
  working_active := by simp [init, ThreadPc.working]
  ended_inactive := by simp [init]
  sessions_held := by simp [init]
  engine_swept := by simp [init]
  admitted_issued := by simp [init, RequestPc.admittedTo?]

/-! ### Steps of `start_run` -/

/-- A step that gives a call no run it did not hold gives no run to any call. -/
private theorem runId?_of_update {launches : Nat → LaunchPc} {call : Nat} {pc' : LaunchPc}
    (hpc' : ∀ runId, pc'.runId? = some runId → (launches call).runId? = some runId) {c : Nat}
    {runId : String} (h : (Function.update launches call pc' c).runId? = some runId) :
    (launches c).runId? = some runId := by
  rw [Function.update_apply] at h
  split at h
  · rename_i hcall
    rw [hcall]
    exact hpc' runId h
  · exact h

/-- The call that started a thread has returned, so another call's step leaves it. -/
private theorem Inv.threads_launched_update {issued : List String} {s : System}
    (hinv : Inv issued s) {call : Nat} (pc' : LaunchPc)
    (hpc : ∀ runId, s.launches call ≠ .returned runId) {runId : String}
    (h : s.threads runId ≠ .absent) :
    ∃ c, Function.update s.launches call pc' c = .returned runId := by
  obtain ⟨c, hc⟩ := hinv.threads_launched runId h
  have hne : c ≠ call := by
    rintro rfl
    exact hpc runId hc
  exact ⟨c, (Function.update_of_ne hne _ _).trans hc⟩

/-- A call that holds no run has not returned one. -/
private theorem not_returned {pc : LaunchPc} (hpc : pc.runId? = none) (runId : String) :
    pc ≠ .returned runId := by
  rintro rfl
  cases hpc

/-- A step that holds no run before or after changes nothing the invariant sees. -/
private theorem Inv.launch_without_run {issued : List String} {s : System} (hinv : Inv issued s)
    {call : Nat} {pc' : LaunchPc} (hpc : (s.launches call).runId? = none)
    (hpc' : pc'.runId? = none) :
    Inv issued { s with launches := Function.update s.launches call pc' } := by
  have hold : ∀ c runId, (Function.update s.launches call pc' c).runId? = some runId →
      (s.launches c).runId? = some runId := by
    intro c runId
    refine runId?_of_update ?_
    intro r h
    rw [hpc'] at h
    cases h
  refine { hinv with launches_issued := ?_, launches_distinct := ?_, unstarted := ?_,
                     returned := ?_, threads_launched := ?_ }
  · intro c runId h
    exact hinv.launches_issued c runId (hold c runId h)
  · intro c c' runId h h'
    exact hinv.launches_distinct c c' runId (hold c runId h) (hold c' runId h')
  · intro c runId h
    -- `call` holds no run, so the call with a run to start is another one
    have hc := hold c runId (LaunchPc.runId?_of_unstarted? h)
    simp only [Function.update_apply] at h
    split at h
    · rename_i hcall
      rw [hcall, hpc] at hc
      exact absurd hc (by simp)
    · exact hinv.unstarted c runId h
  · intro c runId h
    have hc := hold c runId (congrArg LaunchPc.runId? h)
    simp only [Function.update_apply] at h
    split at h
    · rename_i hcall
      rw [hcall, hpc] at hc
      exact absurd hc (by simp)
    · exact hinv.returned c runId h
  · intro runId h
    exact hinv.threads_launched_update _ (not_returned hpc) h

/-- Creating a run on an idle store. -/
private theorem Inv.launch_create {issued : List String} {s : System} (hinv : Inv issued s)
    {call : Nat} {arguments : LaunchArguments} {uuid : String} {op : RunStore.Op}
    (hpc : (s.launches call).runId? = none) (hop : op.uuid? = some uuid) (hfresh : uuid ∉ issued)
    (hguard : RunStore.Guarded s.stores.runs op) (hidle : s.stores.runs.activeRunId = none)
    (hactive : (s.stores.runs.after op).activeRunId = some uuid) :
    Inv (issued ++ [uuid]) { s with
      stores := s.stores.callRuns op
      launches := Function.update s.launches call (.created arguments uuid) } := by
  -- an idle store has no call between `create_run` and `Thread.start()`
  have hunstarted : ∀ c runId, (s.launches c).unstarted? ≠ some runId := by
    intro c runId h
    have hactive' := (hinv.unstarted c runId h).2
    rw [hidle] at hactive'
    exact absurd hactive' (by simp)
  -- a thread under the new id would have been launched under it before
  have habsent : s.threads uuid = .absent := by
    by_contra hthread
    obtain ⟨c, hc⟩ := hinv.threads_launched uuid hthread
    exact hfresh (hinv.launches_issued c uuid (by rw [hc]; rfl))
  have hlaunch : ∀ c runId, (Function.update s.launches call (.created arguments uuid) c).runId? =
      some runId → (c = call ∧ runId = uuid) ∨ (s.launches c).runId? = some runId := by
    intro c runId h
    rw [Function.update_apply] at h
    split at h
    · rename_i hcall
      exact .inl ⟨hcall, (Option.some.inj h).symm⟩
    · exact .inr h
  refine { hinv with runs := hinv.runs.after hguard, records_issued := ?_, launches_issued := ?_,
                     launches_distinct := ?_, unstarted := ?_, returned := ?_,
                     threads_launched := ?_, working_active := ?_, ended_inactive := ?_,
                     admitted_issued := ?_ }
  · intro runId record hget
    rw [List.mem_append, List.mem_singleton]
    cases hold : s.stores.runs.runs.get? runId with
    | some r => exact .inl (hinv.records_issued runId r hold)
    | none =>
      have huuid := RunStore.get?_after_of_none hold hget
      rw [hop] at huuid
      exact .inr (Option.some.inj huuid).symm
  · intro c runId h
    rw [List.mem_append, List.mem_singleton]
    rcases hlaunch c runId h with ⟨_, hid⟩ | hold
    · exact .inr hid
    · exact .inl (hinv.launches_issued c runId hold)
  · intro c c' runId h h'
    -- two calls on one run: both are `call`, or an older call holds the fresh id
    rcases hlaunch c runId h with ⟨hc, hid⟩ | hold <;>
      rcases hlaunch c' runId h' with ⟨hc', hid'⟩ | hold'
    · rw [hc, hc']
    · exact absurd (hid ▸ hinv.launches_issued c' runId hold') hfresh
    · exact absurd (hid' ▸ hinv.launches_issued c runId hold) hfresh
    · exact hinv.launches_distinct c c' runId hold hold'
  · intro c runId h
    simp only [Function.update_apply] at h
    split at h
    · obtain rfl := Option.some.inj h
      exact ⟨habsent, hactive⟩
    · exact absurd h (hunstarted c runId)
  · intro c runId h
    simp only [Function.update_apply] at h
    split at h
    · cases h
    · exact hinv.returned c runId h
  · intro runId h
    exact hinv.threads_launched_update _ (not_returned hpc) h
  · intro runId h
    have hactive' := hinv.working_active runId h
    rw [hidle] at hactive'
    exact absurd hactive' (by simp)
  · intro runId h hactive'
    have hid : uuid = runId := Option.some.inj (hactive.symm.trans hactive')
    rw [← hid, habsent] at h
    rcases h with h | h <;> cases h
  · intro request runId h
    exact List.mem_append_left _ (hinv.admitted_issued request runId h)

/-- Starting the thread, or failing to. -/
private theorem Inv.launch_start {issued : List String} {s : System} (hinv : Inv issued s)
    {call : Nat} {arguments : LaunchArguments} {runId : String}
    (hpc : s.launches call = .created arguments runId) (smokeCheck : Bool) :
    Inv issued { s with
      launches := Function.update s.launches call (.returned runId)
      threads := Function.update s.threads runId (.starting smokeCheck) } := by
  obtain ⟨habsent, hactive⟩ := hinv.unstarted call runId (by rw [hpc]; rfl)
  have hlaunch : ∀ c r, (Function.update s.launches call (.returned runId) c).runId? = some r →
      (s.launches c).runId? = some r := by
    intro c r
    refine runId?_of_update ?_
    intro r' h
    rw [hpc]
    exact h
  -- no other call holds this run, so only its own thread moves
  have hother : ∀ c r, c ≠ call → (s.launches c).runId? = some r → r ≠ runId := by
    rintro c r hc h rfl
    exact hc (hinv.launches_distinct c call r h (by rw [hpc]; rfl))
  have hfinished : ∀ r, Function.update s.threads runId (.starting smokeCheck) r = .finished →
      s.threads r = .finished := by
    intro r h
    rw [Function.update_apply] at h
    split at h
    · cases h
    · exact h
  refine { hinv with launches_issued := ?_, launches_distinct := ?_, unstarted := ?_,
                     returned := ?_, threads_launched := ?_, working_active := ?_,
                     ended_inactive := ?_, sessions_held := ?_, engine_swept := ?_ }
  · intro c r h
    exact hinv.launches_issued c r (hlaunch c r h)
  · intro c c' r h h'
    exact hinv.launches_distinct c c' r (hlaunch c r h) (hlaunch c' r h')
  · intro c r h
    simp only [Function.update_apply] at h ⊢
    split at h
    · cases h
    · rename_i hc
      rw [if_neg (hother c r hc (LaunchPc.runId?_of_unstarted? h))]
      exact hinv.unstarted c r h
  · intro c r h
    simp only [Function.update_apply] at h ⊢
    split at h
    · obtain rfl : runId = r := by simpa using h
      simp
    · rename_i hc
      rw [if_neg (hother c r hc (by rw [h]; rfl))]
      exact hinv.returned c r h
  · intro r h
    by_cases hr : r = runId
    · exact ⟨call, by simp [hr]⟩
    · simp only [Function.update_of_ne hr] at h
      exact hinv.threads_launched_update _ (by rw [hpc]; nofun) h
  · intro r h
    -- the run was reserved by `create_run`, before its thread existed
    by_cases hr : r = runId
    · rw [hr]
      exact hactive
    · simp only [Function.update_of_ne hr] at h
      exact hinv.working_active r h
  · intro r h
    by_cases hr : r = runId
    · simp only [hr, Function.update_self] at h
      rcases h with h | h <;> cases h
    · simp only [Function.update_of_ne hr] at h
      exact hinv.ended_inactive r h
  · intro state session hget h
    exact hinv.sessions_held state session hget (hfinished _ h)
  · intro state session hget hengine h
    exact hinv.engine_swept state session hget hengine (hfinished _ h)

/-- A failed `Thread.start()` leaves the run reserved and without a thread. -/
private theorem Inv.launch_start_fails {issued : List String} {s : System} (hinv : Inv issued s)
    {call : Nat} {arguments : LaunchArguments} {runId : String} (error : LaunchError)
    (hpc : s.launches call = .created arguments runId) :
    Inv issued { s with
      launches := Function.update s.launches call (.raised error (some runId)) } := by
  have hlaunch : ∀ c r, (Function.update s.launches call (.raised error (some runId)) c).runId? =
      some r → (s.launches c).runId? = some r := by
    intro c r
    refine runId?_of_update ?_
    intro r' h
    rw [hpc]
    exact h
  refine { hinv with launches_issued := ?_, launches_distinct := ?_, unstarted := ?_,
                     returned := ?_, threads_launched := ?_ }
  · intro c r h
    exact hinv.launches_issued c r (hlaunch c r h)
  · intro c c' r h h'
    exact hinv.launches_distinct c c' r (hlaunch c r h) (hlaunch c' r h')
  · intro c r h
    simp only [Function.update_apply] at h
    split at h
    -- the call still counts as one that has not started its thread
    · obtain rfl := Option.some.inj h
      exact hinv.unstarted call runId (by rw [hpc]; rfl)
    · exact hinv.unstarted c r h
  · intro c r h
    simp only [Function.update_apply] at h
    split at h
    · cases h
    · exact hinv.returned c r h
  · intro r h
    exact hinv.threads_launched_update _ (by rw [hpc]; nofun) h

/-- Every step of a `start_run` call keeps the invariant. -/
theorem Inv.launch_step {issued : List String} {s s' : System} (hinv : Inv issued s) {call : Nat}
    {event : LaunchEvent} (hstep : s.step (.launch call event) = some s')
    (hfresh : ∀ uuid, (Event.launch call event).uuid? = some uuid → uuid ∉ issued) :
    Inv (issued ++ (Event.launch call event).uuid?.toList) s' := by
  obtain ⟨stores', pc', hlaunch, rfl⟩ := step_launch hstep
  rcases launchStep_cases hlaunch with ⟨arguments, hpc, rfl, rfl, hpc'⟩ |
    ⟨arguments, plannedSteps, uuid, now, hpc, rfl, hcreate⟩ |
    ⟨arguments, runId, started, hpc, rfl, rfl, rfl⟩
  -- the validation blocks before `create_run`: no store is read or written
  · have hnone : (Event.launch call (.validate arguments)).uuid? = none := rfl
    have hthreads : startedThreads s.threads (s.launches call) pc' = s.threads := by
      rw [hpc]
      rfl
    rw [hnone, hthreads, Option.toList_none, List.append_nil]
    exact hinv.launch_without_run (by rw [hpc]; rfl) hpc'
  · have hholds : (s.launches call).runId? = none := by rw [hpc]; rfl
    have hthreads : ∀ pc', startedThreads s.threads (s.launches call) pc' = s.threads := by
      intro pc'
      rw [hpc]
      rfl
    rw [hthreads]
    rcases hcreate with ⟨hidle, rfl, rfl⟩ | ⟨_, rfl, error, rfl⟩
    · refine hinv.launch_create hholds rfl (hfresh uuid rfl) trivial hidle ?_
      simp [RunStore.after, RunStore.Op.call, RunStore.createRun, hidle]
    -- `RunConflictError`: the id is drawn and thrown away
    · have hraised : Inv issued
          { s with launches := Function.update s.launches call (.raised error none) } :=
        hinv.launch_without_run hholds rfl
      exact { hraised with
        records_issued := fun runId record hget =>
          List.mem_append_left _ (hraised.records_issued runId record hget)
        launches_issued := fun c runId h =>
          List.mem_append_left _ (hraised.launches_issued c runId h)
        admitted_issued := fun request runId h =>
          List.mem_append_left _ (hraised.admitted_issued request runId h) }
  · have hnone : (Event.launch call (.startThread started)).uuid? = none := rfl
    rw [hnone, Option.toList_none, List.append_nil]
    cases started with
    | true =>
      have hstarted := hinv.launch_start hpc (!arguments.compiledPlan && !arguments.manifest)
      simpa [startedThreads, hpc] using hstarted
    | false =>
      have hfailed := hinv.launch_start_fails .threadStartError hpc
      simpa [startedThreads, hpc] using hfailed

/-! ### The history variable -/

/-- A session that was there keeps its registrant. -/
private theorem noteRegistration_of_some {engineRegistered : String → Bool} {before after : Stores}
    {byEngine : Bool} {state : String} {session : AuthSession}
    (hget : before.sessions.sessions.get? state = some session) :
    noteRegistration engineRegistered before after byEngine state = engineRegistered state := by
  simp [noteRegistration, hget]

/-- A session that was there and is the engine's now was the engine's before. -/
private theorem engineRegistered_of_note {engineRegistered : String → Bool}
    {before after : Stores} {byEngine : Bool} {state : String} {session : AuthSession}
    (hget : before.sessions.sessions.get? state = some session)
    (h : noteRegistration engineRegistered before after byEngine state = true) :
    engineRegistered state = true :=
  (noteRegistration_of_some hget).symm.trans h

/-- A new session has the caller as its registrant. -/
private theorem noteRegistration_of_none {engineRegistered : String → Bool} {before after : Stores}
    {byEngine : Bool} {state : String} {session : AuthSession}
    (hnone : before.sessions.sessions.get? state = none)
    (hget : after.sessions.sessions.get? state = some session) :
    noteRegistration engineRegistered before after byEngine state = byEngine := by
  simp [noteRegistration, hnone, hget]

/-- The history variable does not move when the sessions do not. -/
private theorem noteRegistration_same {engineRegistered : String → Bool} {before after : Stores}
    {byEngine : Bool} (h : after.sessions = before.sessions) :
    noteRegistration engineRegistered before after byEngine = engineRegistered := by
  funext state
  unfold noteRegistration
  rw [h]
  cases before.sessions.sessions.get? state <;> rfl

/-! ### Steps of `_execute_run` -/

/-- The invariant through a step of the thread of `runId` that leaves it started. -/
private theorem Inv.thread_update {issued : List String} {s : System} (hinv : Inv issued s)
    {runId : String} {pc' : ThreadPc} {stores' : Stores} {engineRegistered' : String → Bool}
    (hpc : s.threads runId ≠ .absent) (hpc' : pc' ≠ .absent)
    (hruns : RunStore.Inv stores'.runs)
    (hrecords : ∀ r record, stores'.runs.runs.get? r = some record →
      ∃ record', s.stores.runs.runs.get? r = some record')
    (hactive : ∀ r, r ≠ runId →
      (stores'.runs.activeRunId = some r ↔ s.stores.runs.activeRunId = some r))
    (hworking : pc'.working = true → stores'.runs.activeRunId = some runId)
    (hended : pc' = .sweeping ∨ pc' = .finished → stores'.runs.activeRunId ≠ some runId)
    (hheld : ∀ state session, stores'.sessions.sessions.get? state = some session →
      (Function.update s.threads runId pc') session.runId = .finished →
      ∃ request, (s.requests request).inHand? = some (session.runId, state))
    (hswept : ∀ state session, stores'.sessions.sessions.get? state = some session →
      engineRegistered' state = true →
      (Function.update s.threads runId pc') session.runId ≠ .finished) :
    Inv issued { s with
      stores := stores'
      threads := Function.update s.threads runId pc'
      engineRegistered := engineRegistered' } := by
  refine { hinv with runs := hruns, records_issued := ?_, unstarted := ?_, returned := ?_,
                     threads_launched := ?_, working_active := ?_, ended_inactive := ?_,
                     sessions_held := hheld, engine_swept := hswept }
  · intro r record hget
    obtain ⟨record', hget'⟩ := hrecords r record hget
    exact hinv.records_issued r record' hget'
  · intro call r h
    -- a run that waits for its thread is not the one whose thread moved
    obtain ⟨habsent, hact⟩ := hinv.unstarted call r h
    have hne : r ≠ runId := by
      rintro rfl
      exact hpc habsent
    exact ⟨(Function.update_of_ne hne _ _).trans habsent, (hactive r hne).mpr hact⟩
  · intro call r h
    by_cases hr : r = runId
    · simp [hr, hpc']
    · simp only [Function.update_of_ne hr]
      exact hinv.returned call r h
  · intro r h
    by_cases hr : r = runId
    · exact hinv.threads_launched r (hr ▸ hpc)
    · simp only [Function.update_of_ne hr] at h
      exact hinv.threads_launched r h
  · intro r h
    by_cases hr : r = runId
    · simp only [hr, Function.update_self] at h
      rw [hr]
      exact hworking h
    · simp only [Function.update_of_ne hr] at h
      exact (hactive r hr).mpr (hinv.working_active r h)
  · intro r h
    by_cases hr : r = runId
    · simp only [hr, Function.update_self] at h
      rw [hr]
      exact hended h
    · simp only [Function.update_of_ne hr] at h
      intro hact
      exact hinv.ended_inactive r h ((hactive r hr).mp hact)

/-- Every step of an `_execute_run` thread keeps the invariant. -/
theorem Inv.thread_step {issued : List String} {s s' : System} (hinv : Inv issued s)
    {runId : String} {event : ThreadEvent} (hstep : s.step (.thread runId event) = some s') :
    Inv issued s' := by
  obtain ⟨stores', pc', hthread, rfl⟩ := step_thread hstep
  -- a thread that has not been swept is not finished, whatever it is about to become
  have hother : ∀ (r : String), Function.update s.threads runId pc' r = .finished →
      pc' ≠ .finished → s.threads r = .finished := by
    intro r h hpc'
    rw [Function.update_apply] at h
    split at h
    · exact absurd h hpc'
    · exact h
  rcases threadStep_cases hthread with ⟨hpc, hpc', hwork⟩ | ⟨hpc, rfl, hmark⟩ | ⟨hpc, rfl, rfl⟩
  -- work: the run stays in the slot and new sessions are its own
  · have hact := hinv.working_active runId hpc
    have hkeeps := hwork.keepsSlot hinv.runs hact
    have hnotFinished : pc' ≠ .finished := by
      rintro rfl
      cases hpc'
    have hnew : ∀ (session : AuthSession), session.runId = runId →
        Function.update s.threads runId pc' session.runId ≠ .finished := by
      intro session howner
      rw [howner, Function.update_self]
      exact hnotFinished
    refine hinv.thread_update (by intro h; rw [h] at hpc; cases hpc)
      (by rintro rfl; cases hpc') hkeeps.runs hkeeps.records
      (fun r _ => by rw [hkeeps.active]) (fun _ => by rw [hkeeps.active, hact])
      (by rintro (rfl | rfl) <;> cases hpc') ?_ ?_
    · intro state session' hget' hfin
      rcases hkeeps.sessions state session' hget' with ⟨session, hget, howner⟩ | ⟨_, howner⟩
      · have hold := hother _ hfin hnotFinished
        rw [← howner] at hold ⊢
        exact hinv.sessions_held state session hget hold
      · exact absurd hfin (hnew session' howner)
    · intro state session' hget' hengine hfin
      rcases hkeeps.sessions state session' hget' with ⟨session, hget, howner⟩ | ⟨_, howner⟩
      · have hold := hother _ hfin hnotFinished
        rw [← howner] at hold
        exact hinv.engine_swept state session hget (engineRegistered_of_note hget hengine) hold
      · exact hnew session' howner hfin
  -- the terminal mark frees the slot; the sessions wait for the sweep in `finally`
  · have hact := hinv.working_active runId hpc
    rcases hmark with hmark | ⟨rfl, hgone⟩
    · obtain ⟨hruns', hact', hrecords', hsessions⟩ := hmark.freesSlot hinv.runs hact
      rw [noteRegistration_same hsessions]
      refine hinv.thread_update (by intro h; rw [h] at hpc; cases hpc) nofun hruns'
        hrecords' (fun r hr => ?_) nofun (fun _ => by rw [hact']; simp) ?_ ?_
      · rw [hact', hact]
        simp [Ne.symm hr]
      · intro state session hget hfin
        rw [hsessions] at hget
        exact hinv.sessions_held state session hget (hother _ hfin nofun)
      · intro state session hget heng hfin
        rw [hsessions] at hget
        exact hinv.engine_swept state session hget heng (hother _ hfin nofun)
    · -- the record of a working thread's run is there
      obtain ⟨record, hget, _⟩ := hinv.runs.active_live runId hact
      have hgetRun : s.stores.getRun runId =
          (s.stores.runs.runs.get? runId).map RunRecord.snapshotLocked := rfl
      rw [hgetRun, hget] at hgone
      exact absurd hgone (by simp)
  -- the sweep: what is left belongs to other runs, whose threads did not move
  · have hlookup : ∀ state session,
        (s.stores.callSessions (.discardForRun runId)).sessions.sessions.get? state = some session →
        s.stores.sessions.sessions.get? state = some session ∧ session.runId ≠ runId :=
      fun state session hget => AuthSessionStore.lookup_after_discardForRun hget
    refine hinv.thread_update (by rw [hpc]; nofun) nofun hinv.runs
      (fun _ record hget => ⟨record, hget⟩) (fun _ _ => Iff.rfl) nofun
      (fun _ => hinv.ended_inactive runId (.inl hpc)) ?_ ?_
    · intro state session hget hfin
      obtain ⟨hold, hne⟩ := hlookup state session hget
      rw [Function.update_of_ne hne] at hfin
      exact hinv.sessions_held state session hold hfin
    · intro state session hget hengine hfin
      obtain ⟨hold, hne⟩ := hlookup state session hget
      rw [Function.update_of_ne hne] at hfin
      exact hinv.engine_swept state session hold (engineRegistered_of_note hold hengine) hfin

/-! ### Steps of `register_auth_session` and callbacks -/

/-- The invariant through a step of a request: only sessions and requests move. -/
private theorem Inv.request_update {issued : List String} {s : System} (hinv : Inv issued s)
    {request : Nat} {pc' : RequestPc} {sessions' : AuthSessionStore}
    {engineRegistered' : String → Bool}
    (hheld : ∀ state session, sessions'.sessions.get? state = some session →
      s.threads session.runId = .finished →
      ∃ r, (Function.update s.requests request pc' r).inHand? = some (session.runId, state))
    (hswept : ∀ state session, sessions'.sessions.get? state = some session →
      engineRegistered' state = true → s.threads session.runId ≠ .finished)
    (hadmitted : ∀ runId, pc'.admittedTo? = some runId → runId ∈ issued) :
    Inv issued { s with
      stores := ⟨s.stores.runs, sessions'⟩
      requests := Function.update s.requests request pc'
      engineRegistered := engineRegistered' } := by
  refine { hinv with sessions_held := hheld, engine_swept := hswept, admitted_issued := ?_ }
  intro r runId h
  simp only [Function.update_apply] at h
  split at h
  · exact hadmitted runId h
  · exact hinv.admitted_issued r runId h

/-- A request that has nothing in hand is not a witness for any session. -/
private theorem Inv.held_by_other {issued : List String} {s : System} (hinv : Inv issued s)
    {request : Nat} (pc' : RequestPc) {state : String} {session : AuthSession}
    (hget : s.stores.sessions.sessions.get? state = some session)
    (hfin : s.threads session.runId = .finished)
    (hnot : (s.requests request).inHand? ≠ some (session.runId, state)) :
    ∃ r, (Function.update s.requests request pc' r).inHand? = some (session.runId, state) := by
  obtain ⟨r, hr⟩ := hinv.sessions_held state session hget hfin
  have hne : r ≠ request := by
    rintro rfl
    exact hnot hr
  exact ⟨r, by rw [Function.update_of_ne hne]; exact hr⟩

/-- Every step of a registration request keeps the invariant. -/
theorem Inv.request_step {issued : List String} {s s' : System} (hinv : Inv issued s)
    {request : Nat} {event : RequestEvent} (hstep : s.step (.request request event) = some s') :
    Inv issued s' := by
  obtain ⟨stores', pc', hrequest, rfl⟩ := step_request hstep
  rcases requestStep_cases hrequest with ⟨rfl, hpc, hpc'⟩ | ⟨runId, rawState, rfl, hpc, rfl, hlive⟩ |
    ⟨runId, rawState, token, now, hpc, hnone, rfl, hnew, rfl⟩ | ⟨runId, session, rfl, hpc, hpc'⟩ |
    ⟨runId, session, answer, hpc, rfl, rfl, rfl⟩
  -- the request arrives, or is answered with nothing registered
  · rw [noteRegistration_same rfl]
    refine hinv.request_update ?_ hinv.engine_swept ?_
    · intro state session hget hfin
      exact hinv.held_by_other pc' hget hfin (by rw [hpc]; simp)
    · intro runId h
      obtain ⟨_, _, rfl | ⟨_, rfl, _⟩⟩ := hpc' <;> cases h
  -- the first look at the run finds it active
  · rw [noteRegistration_same rfl]
    refine hinv.request_update ?_ hinv.engine_swept ?_
    · intro state session hget hfin
      exact hinv.held_by_other _ hget hfin (by rw [hpc]; simp [RequestPc.inHand?])
    · intro r h
      obtain rfl := Option.some.inj h
      obtain ⟨record, hget, _⟩ := hinv.runs.active_live runId (active_of_admitted hinv.runs hlive)
      exact hinv.records_issued runId record hget
  -- `register`: if the run was swept meanwhile, the new session is in this request's hands
  · refine hinv.request_update ?_ ?_ ?_
    · intro state session' hget' hfin
      by_cases hstate : state = rawState.getD token
      · subst hstate
        obtain rfl := Option.some.inj (hnew.symm.trans hget')
        exact ⟨request, by rw [Function.update_self]; rfl⟩
      · rcases AuthSessionStore.lookup_after hget' with
          hget | ⟨_, _, _, _, _, ⟨⟩, hkey, _⟩ | ⟨x, hx, hresolves, _, hop⟩
        · exact hinv.held_by_other _ hget hfin (by rw [hpc]; simp [RequestPc.inHand?])
        · exact absurd hkey hstate
        · rw [hresolves.runId] at hfin ⊢
          exact hinv.held_by_other _ hx hfin (by rw [hpc]; simp [RequestPc.inHand?])
    · intro state session' hget' hengine
      rcases AuthSessionStore.lookup_after hget' with
        hget | ⟨hbefore, _⟩ | ⟨x, hx, hresolves, _, _⟩
      · exact hinv.engine_swept state session' hget (engineRegistered_of_note hget hengine)
      · have hrequest := (noteRegistration_of_none hbefore hget').symm.trans hengine
        exact absurd hrequest (by simp)
      · rw [hresolves.runId]
        exact hinv.engine_swept state x hx (engineRegistered_of_note hx hengine)
    · intro r h
      exact hinv.admitted_issued request r (by rw [hpc]; exact h)
  -- the second look: the answer is 201 only on an active run
  · rw [noteRegistration_same rfl]
    refine hinv.request_update ?_ hinv.engine_swept ?_
    · intro state x hget hfin
      rcases hpc' with ⟨hlive, rfl⟩ | ⟨answer, rfl, _⟩
      · refine hinv.held_by_other _ hget hfin ?_
        -- the run is active, so its thread has not been swept
        rw [hpc]
        rintro ⟨⟩
        exact hinv.ended_inactive x.runId (.inr hfin) (active_of_admitted hinv.runs hlive)
      · by_cases hmine : (s.requests request).inHand? = some (x.runId, state)
        · refine ⟨request, ?_⟩
          rw [hpc] at hmine
          rw [Function.update_self]
          exact hmine
        · exact hinv.held_by_other _ hget hfin hmine
    · intro r h
      refine hinv.admitted_issued request r ?_
      rcases hpc' with ⟨_, rfl⟩ | ⟨_, rfl, _⟩
      · cases h
      · rw [hpc]
        exact h
  -- the roll-back drops the session before the request lets go of it
  · have hlookup : ∀ state x,
        (s.stores.callSessions (.discard runId session.state)).sessions.sessions.get? state =
          some x → s.stores.sessions.sessions.get? state = some x ∧
            (state = session.state → x.runId ≠ runId) :=
      fun state x hget => AuthSessionStore.lookup_after_discard hget
    refine hinv.request_update ?_ ?_ nofun
    · intro state x hget hfin
      obtain ⟨hold, hdropped⟩ := hlookup state x hget
      refine hinv.held_by_other _ hold hfin ?_
      rw [hpc]
      intro hmine
      obtain ⟨howner, hstate⟩ := Prod.mk.inj (Option.some.inj hmine)
      exact hdropped hstate.symm howner.symm
    · intro state x hget hengine
      obtain ⟨hold, _⟩ := hlookup state x hget
      exact hinv.engine_swept state x hold (engineRegistered_of_note hold hengine)

/-- A callback resolves a session and keeps its owner. -/
theorem Inv.callback_step {issued : List String} {s s' : System} (hinv : Inv issued s)
    {state : String} {redirect : Redirect} {now : Timestamp}
    (hstep : s.step (.callback state redirect now) = some s') : Inv issued s' := by
  have hcapture : ∀ op : AuthSessionStore.Op, (∀ r raw token now, op ≠ .register r raw token now) →
      Inv issued { s with stores := s.stores.callSessions op } := by
    intro op hop
    -- captures keep the owner of the session they resolve
    have hlookup : ∀ k x', (s.stores.sessions.after op).sessions.get? k = some x' →
        ∃ x, s.stores.sessions.sessions.get? k = some x ∧ x'.runId = x.runId := by
      intro k x' hget'
      rcases AuthSessionStore.lookup_after hget' with
        hget | ⟨_, r, raw, token, now, hreg, _⟩ | ⟨x, hx, hresolves, _, _⟩
      · exact ⟨x', hget, rfl⟩
      · exact absurd hreg (hop r raw token now)
      · exact ⟨x, hx, hresolves.runId⟩
    refine { hinv with sessions_held := ?_, engine_swept := ?_ }
    · intro k x' hget' hfin
      obtain ⟨x, hx, howner⟩ := hlookup k x' hget'
      rw [howner] at hfin ⊢
      exact hinv.sessions_held k x hx hfin
    · intro k x' hget' hengine
      obtain ⟨x, hx, howner⟩ := hlookup k x' hget'
      rw [howner]
      exact hinv.engine_swept k x hx hengine
  cases redirect with
  | code code =>
    obtain rfl := Option.some.inj hstep
    exact hcapture _ nofun
  | error error description =>
    obtain rfl := Option.some.inj hstep
    exact hcapture _ nofun

/-! ## Whole runs -/

/-- Every event keeps the invariant. -/
theorem Inv.step {issued : List String} {s s' : System} (hinv : Inv issued s) {event : Event}
    (hstep : s.step event = some s')
    (hfresh : ∀ uuid, event.uuid? = some uuid → uuid ∉ issued) :
    Inv (issued ++ event.uuid?.toList) s' := by
  cases event with
  | launch call event => exact hinv.launch_step hstep hfresh
  | thread runId event =>
    simpa [Event.uuid?] using hinv.thread_step hstep
  | request request event =>
    simpa [Event.uuid?] using hinv.request_step hstep
  | callback state redirect now =>
    simpa [Event.uuid?] using hinv.callback_step hstep

/-- The ids of a run that has grown by one event stay distinct. -/
theorem fresh_of_snoc {events : List Event} {event : Event}
    (hfresh : FreshIds (events ++ [event])) :
    FreshIds events ∧ ∀ uuid, event.uuid? = some uuid → uuid ∉ events.filterMap Event.uuid? := by
  rw [FreshIds, List.filterMap_append] at hfresh
  refine ⟨(List.nodup_append.mp hfresh).1, ?_⟩
  intro uuid huuid hmem
  have hnew : uuid ∈ [event].filterMap Event.uuid? :=
    List.mem_filterMap.mpr ⟨event, List.mem_singleton_self event, huuid⟩
  exact absurd hnew (List.disjoint_of_nodup_append hfresh hmem)

/-- The invariant holds in every state of every run. -/
theorem exec_inv {events : List Event} {s : System} (hfresh : FreshIds events)
    (h : exec events = some s) : Inv (events.filterMap Event.uuid?) s := by
  revert hfresh
  refine Machine.run_induction
    (P := fun events s => FreshIds events → Inv (events.filterMap Event.uuid?) s) ?_ ?_ h
  · intro _
    exact inv_init
  · intro events s event s' _ ih hstep hfresh
    obtain ⟨hbefore, hnew⟩ := fresh_of_snoc hfresh
    have hids : (events ++ [event]).filterMap Event.uuid? =
        events.filterMap Event.uuid? ++ event.uuid?.toList := by
      rw [List.filterMap_append]
      cases huuid : event.uuid? <;> simp [huuid]
    rw [hids]
    exact (ih hbefore).step hstep hnew

/-- A smoke-check launch without planned steps. -/
def smokeLaunch : LaunchArguments where
  compiledPlan := false
  runtimeInputs := false
  runtimeInputBaseDir := false
  manifest := false
  plannedSteps := some []
  planSnapshot := none
  validationResult := none

end System

end Conformance
