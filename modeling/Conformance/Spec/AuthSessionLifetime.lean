import Conformance.Spec.RunLifecycleInvariant

/-!
# No auth session outlives its run

A registration request checks the run, registers, and checks again; the run's
thread marks the run terminal and then sweeps its sessions. The request's second
read comes after its write and the thread's sweep comes after its mark, so
whichever way the two interleave, one of them removes the session. The history
part (an accepted session was there while the run was active) is an induction
over the run that remembers the instant of the registration.
-/

namespace Conformance

/-- The run a request is about. -/
def RequestPc.runId? : RequestPc → Option String
  | .unseen => none
  | .received runId _ => some runId
  | .admitted runId _ => some runId
  | .registered runId _ => some runId
  | .rollback runId _ _ => some runId
  | .answered runId _ => some runId

namespace System

/-- A step makes a known run active only if it was active before. -/
private theorem active_of_step {issued : List String} {s s' : System} (hinv : Inv issued s)
    {event : Event} (hstep : s.step event = some s')
    (hfresh : ∀ uuid, event.uuid? = some uuid → uuid ∉ issued) {runId : String}
    (hknown : runId ∈ issued) (hactive : s'.stores.runs.activeRunId = some runId) :
    s.stores.runs.activeRunId = some runId := by
  cases event with
  | launch call event =>
    obtain ⟨stores', pc', hlaunch, rfl⟩ := step_launch hstep
    rcases launchStep_cases hlaunch with ⟨_, _, _, rfl, _⟩ |
      ⟨arguments, plannedSteps, uuid, now, _, rfl, ⟨hidle, _, rfl⟩ | ⟨_, rfl, _⟩⟩ |
      ⟨_, _, _, _, _, rfl, _⟩
    · exact hactive
    -- a new run takes the slot under an id that nobody has seen
    · have hnew : (s.stores.runs.after (.createRun uuid now plannedSteps arguments.planSnapshot
          arguments.validationResult)).activeRunId = some uuid := by
        simp [RunStore.after, RunStore.Op.call, RunStore.createRun, hidle]
      obtain rfl : uuid = runId := Option.some.inj (hnew.symm.trans hactive)
      exact absurd hknown (hfresh uuid rfl)
    · exact hactive
    · exact hactive
  | thread r event =>
    obtain ⟨stores', pc', hthread, rfl⟩ := step_thread hstep
    rcases threadStep_cases hthread with ⟨hpc, _, hwork⟩ | ⟨hpc, _, hmark | ⟨rfl, _⟩⟩ | ⟨_, _, rfl⟩
    · have hkeeps := hwork.keepsSlot hinv.runs (hinv.working_active r hpc)
      exact hkeeps.active.symm.trans hactive
    · have hfrees := hmark.freesSlot hinv.runs (hinv.working_active r hpc)
      exact absurd (hfrees.2.1.symm.trans hactive) (by simp)
    · exact hactive
    · exact hactive
  | request request event =>
    obtain ⟨stores', pc', hrequest, rfl⟩ := step_request hstep
    rcases requestStep_cases hrequest with ⟨rfl, _⟩ | ⟨_, _, rfl, _⟩ |
      ⟨_, _, _, _, _, _, rfl, _⟩ | ⟨_, _, rfl, _⟩ | ⟨_, _, _, _, _, rfl, _⟩
    all_goals exact hactive
  | callback state redirect now =>
    cases redirect <;> obtain rfl := Option.some.inj hstep <;> exact hactive

/-- At some instant of the run the session was stored and awaiting, and `active`
    held of the store. -/
def RegisteredWhen (events : List Event) (runId : String) (session : AuthSession)
    (active : RunStore → Prop) : Prop :=
  ∃ pre s₁, pre <+: events ∧ exec pre = some s₁ ∧
    s₁.stores.sessions.sessions.get? session.state = some session ∧
    session.status = .awaiting ∧ session.runId = runId ∧ active s₁.stores.runs

/-- A session stays registered after one more event. -/
private theorem RegisteredWhen.snoc {events : List Event} {runId : String} {session : AuthSession}
    {active active' : RunStore → Prop} (h : RegisteredWhen events runId session active)
    (himp : ∀ store, active store → active' store) (event : Event) :
    RegisteredWhen (events ++ [event]) runId session active' := by
  obtain ⟨pre, s₁, hpre, hs₁, hget, hawaiting, howner, hactive⟩ := h
  exact ⟨pre, s₁, hpre.trans (List.prefix_append _ _), hs₁, hget, hawaiting, howner,
    himp _ hactive⟩

/-- What the requests of a run remember: the instant of the registration, and that
    the run was active then if it is still active. -/
structure History (events : List Event) (s : System) : Prop where
  registered : ∀ request runId session, s.requests request = .registered runId session →
    RegisteredWhen events runId session fun store =>
      s.stores.runs.activeRunId = some runId → store.activeRunId = some runId
  rollback : ∀ request runId session answer,
    s.requests request = .rollback runId session answer → answer.isCreated = false
  accepted : ∀ request runId session, s.requests request = .answered runId (.created session) →
    RegisteredWhen events runId session fun store => store.activeRunId = some runId

/-- A step that moves no request keeps the history. -/
private theorem History.of_requests_eq {events : List Event} {s s' : System}
    (hhist : History events s) {issued : List String} (hinv : Inv issued s) {event : Event}
    (hstep : s.step event = some s')
    (hfresh : ∀ uuid, event.uuid? = some uuid → uuid ∉ issued)
    (hrequests : s'.requests = s.requests) : History (events ++ [event]) s' := by
  refine ⟨?_, ?_, ?_⟩
  · intro request runId session hreq
    rw [hrequests] at hreq
    have hknown := hinv.admitted_issued request runId (by rw [hreq]; rfl)
    refine (hhist.registered request runId session hreq).snoc ?_ event
    intro store hstore hactive
    exact hstore (active_of_step hinv hstep hfresh hknown hactive)
  · intro request runId session answer hreq
    rw [hrequests] at hreq
    exact hhist.rollback request runId session answer hreq
  · intro request runId session hreq
    rw [hrequests] at hreq
    exact (hhist.accepted request runId session hreq).snoc (fun _ h => h) event

/-- The history through a step of a request. -/
private theorem History.request_step {events : List Event} {s s' : System}
    (hhist : History events s) {issued : List String} (hinv : Inv issued s)
    (hs : exec events = some s) {request : Nat} {event : RequestEvent}
    (hstep : s.step (.request request event) = some s') :
    History (events ++ [.request request event]) s' := by
  have hs' : exec (events ++ [.request request event]) = some s' :=
    Machine.run_snoc.mpr ⟨s, hs, hstep⟩
  obtain ⟨stores', pc', hrequest, rfl⟩ := step_request hstep
  -- the store of runs is not touched, and the other requests stand where they stood
  have hruns : stores'.runs = s.stores.runs := by
    rcases requestStep_cases hrequest with ⟨rfl, _⟩ | ⟨_, _, rfl, _⟩ |
      ⟨_, _, _, _, _, _, rfl, _⟩ | ⟨_, _, rfl, _⟩ | ⟨_, _, _, _, _, rfl, _⟩
    all_goals rfl
  have hothers : ∀ r pc, r ≠ request → Function.update s.requests request pc' r = pc →
      s.requests r = pc := by
    intro r pc hne h
    rwa [Function.update_of_ne hne] at h
  refine ⟨?_, ?_, ?_⟩
  -- a session in hand is the one `register` has just stored
  · intro r runId session hreq
    by_cases hr : r = request
    · subst hr
      have hpc' : pc' = .registered runId session := by simpa using hreq
      rcases requestStep_cases hrequest with
        ⟨_, _, _, _, rfl | ⟨_, rfl, _⟩⟩ | ⟨_, _, _, _, rfl, _⟩ |
        ⟨r', rawState, token, now, _, _, _, hnew, rfl⟩ |
        ⟨_, _, _, _, ⟨_, rfl⟩ | ⟨_, rfl, _⟩⟩ | ⟨_, _, _, _, _, _, rfl⟩
      · cases hpc'
      · cases hpc'
      · cases hpc'
      · obtain ⟨rfl, rfl⟩ := RequestPc.registered.inj hpc'
        exact ⟨_, _, List.prefix_rfl, hs', hnew, rfl, rfl, fun h => h⟩
      · cases hpc'
      · cases hpc'
      · cases hpc'
    · refine (hhist.registered r runId session (hothers r _ hr hreq)).snoc ?_ _
      intro store hstore hactive
      exact hstore (hruns ▸ hactive)
  -- only a refusal starts a roll-back
  · intro r runId session answer hreq
    by_cases hr : r = request
    · subst hr
      have hpc' : pc' = .rollback runId session answer := by simpa using hreq
      rcases requestStep_cases hrequest with
        ⟨_, _, _, _, rfl | ⟨_, rfl, _⟩⟩ | ⟨_, _, _, _, rfl, _⟩ |
        ⟨_, _, _, _, _, _, _, _, rfl⟩ |
        ⟨_, _, _, _, ⟨_, rfl⟩ | ⟨answer', rfl, hrefused⟩⟩ | ⟨_, _, _, _, _, _, rfl⟩
      · cases hpc'
      · cases hpc'
      · cases hpc'
      · cases hpc'
      · cases hpc'
      · obtain ⟨_, _, rfl⟩ := RequestPc.rollback.inj hpc'
        exact hrefused
      · cases hpc'
    · exact hhist.rollback r runId session answer (hothers r _ hr hreq)
  -- a 201 comes from the second look alone, which found the run active
  · intro r runId session hreq
    by_cases hr : r = request
    · subst hr
      have hpc' : pc' = .answered runId (.created session) := by simpa using hreq
      rcases requestStep_cases hrequest with
        ⟨_, _, _, _, rfl | ⟨answer, rfl, hrefused⟩⟩ | ⟨_, _, _, _, rfl, _⟩ |
        ⟨_, _, _, _, _, _, _, _, rfl⟩ |
        ⟨r', session', _, hpc, ⟨hlive, rfl⟩ | ⟨_, rfl, _⟩⟩ |
        ⟨r', session', answer, hpc, _, _, rfl⟩
      · cases hpc'
      · obtain ⟨_, rfl⟩ := RequestPc.answered.inj hpc'
        cases hrefused
      · cases hpc'
      · cases hpc'
      · obtain ⟨rfl, hcreated⟩ := RequestPc.answered.inj hpc'
        obtain rfl := RegisterAnswer.created.inj hcreated
        have hactive := active_of_admitted hinv.runs hlive
        exact (hhist.registered r r' session' hpc).snoc (fun _ h => h hactive) _
      · cases hpc'
      · obtain ⟨_, rfl⟩ := RequestPc.answered.inj hpc'
        cases hhist.rollback r r' session' _ hpc
    · exact (hhist.accepted r runId session (hothers r _ hr hreq)).snoc (fun _ h => h) _

/-- Every run has a history. -/
theorem exec_history {events : List Event} {s : System} (hfresh : FreshIds events)
    (h : exec events = some s) : History events s := by
  revert hfresh
  refine Machine.run_induction (P := fun events s => FreshIds events → History events s) ?_ ?_ h
  · intro _
    exact ⟨by simp [init], by simp [init], by simp [init]⟩
  · intro events s event s' hs ih hstep hfresh
    obtain ⟨hbefore, hnew⟩ := fresh_of_snoc hfresh
    have hinv := exec_inv hbefore hs
    have hhist := ih hbefore
    cases event with
    | request request event => exact hhist.request_step hinv hs hstep
    | launch call event =>
      refine hhist.of_requests_eq hinv hstep hnew ?_
      obtain ⟨_, _, _, rfl⟩ := step_launch hstep
      rfl
    | thread runId event =>
      refine hhist.of_requests_eq hinv hstep hnew ?_
      obtain ⟨_, _, _, rfl⟩ := step_thread hstep
      rfl
    | callback state redirect now =>
      refine hhist.of_requests_eq hinv hstep hnew ?_
      cases redirect <;> obtain rfl := Option.some.inj hstep <;> rfl

/-- Only an accepted registration is answered 201. -/
private theorem created_of_httpStatus {answer : RegisterAnswer} (h : answer.httpStatus = 201) :
    ∃ session, answer = .created session := by
  cases answer with
  | created session => exact ⟨session, rfl⟩
  | rejected error => cases error <;> simp [RegisterAnswer.httpStatus] at h
  | _ => simp [RegisterAnswer.httpStatus] at h

/-- For any number of registration requests and any interleaving with the ending
    of the run and with later runs: once the run's thread and its requests have
    finished no session of the run is left; an accepted session was stored and
    awaiting while the run was pending or running; and a rollback leaves the
    sessions of other runs alone. -/
theorem sessions_end_with_run {events : List Event} {s : System} (h : exec events = some s)
    (hfresh : FreshIds events) :
    (∀ runId, s.threads runId = .finished →
      (∀ request, (s.requests request).runId? = some runId →
        ∃ answer, s.requests request = .answered runId answer) →
      ∀ state session, s.stores.sessions.sessions.get? state = some session →
        session.runId ≠ runId) ∧
    (∀ request runId answer, s.requests request = .answered runId answer →
      answer.httpStatus = 201 → ∃ session pre s₁ record,
        answer = .created session ∧ pre <+: events ∧ exec pre = some s₁ ∧
        s₁.stores.sessions.sessions.get? session.state = some session ∧
        session.status = .awaiting ∧ session.runId = runId ∧
        s₁.stores.runs.runs.get? runId = some record ∧
        (record.status = .pending ∨ record.status = .running)) ∧
    (∀ pre request s₁ s₂ runId session answer, pre ++ [.request request .discard] <+: events →
      exec pre = some s₁ → exec (pre ++ [.request request .discard]) = some s₂ →
      s₁.requests request = .rollback runId session answer →
      ∀ state other, other.runId ≠ runId →
        (s₂.stores.sessions.sessions.get? state = some other ↔
          s₁.stores.sessions.sessions.get? state = some other)) := by
  have hinv := exec_inv hfresh h
  refine ⟨?_, ?_, ?_⟩
  · rintro runId hfin hanswered state session hget rfl
    -- a session that outlived the sweep is in the hands of a request without an answer
    obtain ⟨request, hheld⟩ := hinv.sessions_held state session hget hfin
    have hmine : (s.requests request).runId? = some session.runId := by
      cases hpc : s.requests request <;> simp_all [RequestPc.inHand?, RequestPc.runId?]
    obtain ⟨answer, hanswer⟩ := hanswered request hmine
    rw [hanswer] at hheld
    cases hheld
  · intro request runId answer hreq hcreated
    obtain ⟨session, rfl⟩ := created_of_httpStatus hcreated
    obtain ⟨pre, s₁, hpre, hs₁, hget, hawaiting, howner, hactive⟩ :=
      (exec_history hfresh h).accepted request runId session hreq
    -- the run was active then, so its record was live
    have hinv₁ := exec_inv (hfresh.sublist (hpre.sublist.filterMap _)) hs₁
    obtain ⟨record, hrecord, hlive⟩ := hinv₁.runs.active_live runId hactive
    refine ⟨session, pre, s₁, record, rfl, hpre, hs₁, hget, hawaiting, howner, hrecord, ?_⟩
    cases hstatus : record.status with
    | pending => exact .inl rfl
    | running => exact .inr rfl
    | completed => rw [hstatus] at hlive; cases hlive
    | failed => rw [hstatus] at hlive; cases hlive
  · intro pre request s₁ s₂ runId session answer _ hs₁ hs₂ hreq state other howner
    -- the discard is one call on the sessions, and it concerns its own run
    obtain ⟨m, hm, hstep⟩ := Machine.run_snoc.mp hs₂
    obtain rfl := Option.some.inj (hs₁.symm.trans hm)
    have hsessions : s₂.stores.sessions =
        s₁.stores.sessions.after (.discard runId session.state) := by
      simp only [step, hreq, requestStep, bind, Option.bind_some] at hstep
      obtain rfl := Option.some.inj hstep
      rfl
    rw [hsessions]
    constructor
    · intro hget'
      exact (AuthSessionStore.lookup_after_discard hget').1
    · intro hget
      refine AuthSessionStore.lookup_before hget ?_
      simp [AuthSessionStore.Op.concerns, Ne.symm howner]

/-- A run with two racing requests: one is accepted before the run ends, the other
    registers after the sweep and rolls back. -/
def racingRequests : List Event :=
  [.launch 0 (.validate smokeLaunch), .launch 0 (.create "a" 1), .launch 0 (.startThread true),
    .thread "a" (.markRunning 2), .thread "a" .readRecord,
    .request 0 (.receive "a" (some none)), .request 0 .readRun,
    .request 1 (.receive "a" (some none)), .request 1 .readRun,
    .request 0 (.register "token-0" 3), .request 0 .rereadRun,
    .thread "a" .engineRaises, .thread "a" (.mark 4), .thread "a" .sweep,
    .request 1 (.register "token-1" 5), .request 1 .rereadRun, .request 1 .discard]

/-- The theorem at the racing requests. -/
theorem sessions_end_with_run_race :
    ∃ s, exec racingRequests = some s ∧
      (∃ pre s₁ record, exec pre = some s₁ ∧
        s₁.stores.sessions.sessions.get? "token-0" =
          some { state := "token-0", runId := "a", status := .awaiting, createdAt := 3 } ∧
        s₁.stores.runs.runs.get? "a" = some record ∧
        (record.status = .pending ∨ record.status = .running)) := by
  obtain ⟨s, hrun⟩ : ∃ s, exec racingRequests = some s := ⟨_, rfl⟩
  refine ⟨s, hrun, ?_⟩
  have hfresh : FreshIds racingRequests := by decide
  have hanswer : s.requests 0 = .answered "a" (.created
      { state := "token-0", runId := "a", status := .awaiting, createdAt := 3 }) := by
    obtain rfl := Option.some.inj hrun
    rfl
  obtain ⟨session, pre, s₁, record, hcreated, _, hs₁, hget, _, _, hrecord, hlive⟩ :=
    (sessions_end_with_run hrun hfresh).2.1 0 "a" _ hanswer rfl
  obtain rfl := RegisterAnswer.created.inj hcreated
  exact ⟨pre, s₁, record, hs₁, hget, hrecord, hlive⟩

end System

end Conformance
