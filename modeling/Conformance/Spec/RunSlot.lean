import Conformance.Spec.RunLifecycleInvariant

/-!
# The run slot is released

`start_run` reserves the slot and the thread it starts releases it, on every exit
of `_execute_run`. Between the two stands `Thread.start()`: when it raises,
nothing undoes the reservation. Over every interleaving, the slot is released as
it should be exactly when no `Thread.start()` of the run fails.
-/

namespace Conformance

/-- The `start_run` call an event is a step of. -/
def Event.call? : Event → Option Nat
  | .launch call _ => some call
  | _ => none

namespace System

/-- The run is terminal or gone, the slot is not its own, and no session the
    engine registered for it is left. -/
structure Released (s : System) (runId : String) : Prop where
  terminal : ∀ record, s.stores.runs.runs.get? runId = some record →
    record.status.isTerminal = true
  inactive : s.stores.runs.activeRunId ≠ some runId
  swept : ∀ state session, s.stores.sessions.sessions.get? state = some session →
    session.runId = runId → s.engineRegistered state = false

/-- In every state of the run: the steps of a `start_run` call that has raised
    left the run store as they found it, and a run whose call has returned or
    raised and whose thread is not alive is released. -/
structure SlotReleased (events : List Event) : Prop where
  raise_unchanged : ∀ pre s, pre <+: events → exec pre = some s → ∀ call error runId,
    s.launches call = .raised error runId → ∀ before event s₁ s₂, before ++ [event] <+: pre →
    event.call? = some call → exec before = some s₁ → exec (before ++ [event]) = some s₂ →
    s₂.stores.runs = s₁.stores.runs
  released : ∀ pre s, pre <+: events → exec pre = some s → ∀ call runId,
    (s.launches call = .returned runId ∨ ∃ error, s.launches call = .raised error (some runId)) →
    (s.threads runId).alive = false → Released s runId

/-- A step of another party leaves a call where it stands. -/
private theorem launches_of_ne {s s' : System} {event : Event} (hstep : s.step event = some s')
    {call : Nat} (hne : event.call? ≠ some call) : s'.launches call = s.launches call := by
  cases event with
  | launch call' event =>
    obtain ⟨stores', pc', _, rfl⟩ := step_launch hstep
    have hcall : call ≠ call' := fun h => hne (congrArg some h.symm)
    exact Function.update_of_ne hcall _ _
  | thread runId event =>
    obtain ⟨stores', pc', _, rfl⟩ := step_thread hstep
    rfl
  | request request event =>
    obtain ⟨stores', pc', _, rfl⟩ := step_request hstep
    rfl
  | callback state redirect now =>
    cases redirect <;> obtain rfl := Option.some.inj hstep <;> rfl

/-- The step of a call, taken apart. -/
private theorem launchStep_of_step {s s' : System} {event : Event} {call : Nat}
    (hstep : s.step event = some s') (hcall : event.call? = some call) :
    ∃ launchEvent, event = .launch call launchEvent ∧
      launchStep s.stores (s.launches call) launchEvent = some (s'.stores, s'.launches call) := by
  cases event with
  | launch call' event =>
    obtain rfl := Option.some.inj hcall
    obtain ⟨stores', pc', hlaunch, rfl⟩ := step_launch hstep
    exact ⟨event, rfl, by simpa using hlaunch⟩
  | _ => cases hcall

/-- A call that holds no run has left the run store as it found it. -/
private theorem unchanged_of_no_run {events : List Event} {s : System} (h : exec events = some s)
    {call : Nat} (hnone : (s.launches call).runId? = none) {before : List Event} {event : Event}
    {s₁ s₂ : System} (hpre : before ++ [event] <+: events) (hcall : event.call? = some call)
    (hs₁ : exec before = some s₁) (hs₂ : exec (before ++ [event]) = some s₂) :
    s₂.stores.runs = s₁.stores.runs := by
  revert call before event s₁ s₂
  -- a call never lets go of a run, so one without a run had none at any earlier step
  refine Machine.run_induction (P := fun events s => ∀ {call : Nat},
    (s.launches call).runId? = none → ∀ {before event s₁ s₂}, before ++ [event] <+: events →
    event.call? = some call → exec before = some s₁ → exec (before ++ [event]) = some s₂ →
    s₂.stores.runs = s₁.stores.runs) ?_ ?_ h
  · intro call _ before event s₁ s₂ hpre
    exact absurd (List.prefix_nil.mp hpre) (by simp)
  · intro events s last s' hs ih hstep call hnone before event s₁ s₂ hpre hcall hs₁ hs₂
    by_cases hlast : last.call? = some call
    · obtain ⟨launchEvent, rfl, hlaunch⟩ := launchStep_of_step hstep hlast
      have hkept : (s.launches call).runId? = none ∧ s'.stores = s.stores := by
        rcases launchStep_cases hlaunch with ⟨_, hpc, _, hstores, _⟩ |
          ⟨arguments, plannedSteps, uuid, now, hpc, _, ⟨_, hpc', _⟩ | ⟨_, hstores, _⟩⟩ |
          ⟨arguments, runId, started, _, _, _, hpc'⟩
        · exact ⟨by rw [hpc]; rfl, hstores⟩
        · rw [hpc'] at hnone
          cases hnone
        · exact ⟨by rw [hpc]; rfl, hstores⟩
        · rw [hpc'] at hnone
          cases started <;> cases hnone
      rcases Machine.prefix_snoc hpre with hearlier | ⟨rfl, rfl⟩
      · exact ih hkept.1 hearlier hcall hs₁ hs₂
      · obtain rfl := Option.some.inj (hs.symm.trans hs₁)
        obtain ⟨m, hm, hmstep⟩ := Machine.run_snoc.mp hs₂
        obtain rfl := Option.some.inj (hs.symm.trans hm)
        obtain rfl := Option.some.inj (hstep.symm.trans hmstep)
        rw [hkept.2]
    · rcases Machine.prefix_snoc hpre with hearlier | ⟨rfl, rfl⟩
      · rw [launches_of_ne hstep hlast] at hnone
        exact ih hnone hearlier hcall hs₁ hs₂
      · exact absurd hcall hlast

/-- A call that has raised over a run of its own failed to start the thread. -/
private theorem startThread_of_raised {events : List Event} {s : System}
    (h : exec events = some s) {call : Nat} {error : LaunchError} {runId : String}
    (hraised : s.launches call = .raised error (some runId)) :
    Event.launch call (.startThread false) ∈ events := by
  revert call error runId
  refine Machine.run_induction (P := fun events s => ∀ {call error runId},
    s.launches call = .raised error (some runId) →
    Event.launch call (.startThread false) ∈ events) ?_ ?_ h
  · intro call error runId hraised
    cases hraised
  · intro events s last s' _ ih hstep call error runId hraised
    rw [List.mem_append, List.mem_singleton]
    by_cases hlast : last.call? = some call
    · obtain ⟨launchEvent, rfl, hlaunch⟩ := launchStep_of_step hstep hlast
      rw [hraised] at hlaunch
      rcases launchStep_cases hlaunch with ⟨_, _, _, _, hpc'⟩ |
        ⟨arguments, plannedSteps, uuid, now, _, _, ⟨_, hpc', _⟩ | ⟨_, _, _, hpc'⟩⟩ |
        ⟨arguments, r, started, _, rfl, _, hpc'⟩
      -- validation and `create_run` raise before there is a run
      · cases hpc'
      · cases hpc'
      · cases hpc'
      · cases started with
        | true => cases hpc'
        | false => exact .inr rfl
    · rw [launches_of_ne hstep hlast] at hraised
      exact .inl (ih hraised)

/-- A run whose thread has ended is released. -/
private theorem Inv.released {issued : List String} {s : System} (hinv : Inv issued s)
    {runId : String} (hfin : s.threads runId = .finished) : Released s runId := by
  have hinactive := hinv.ended_inactive runId (.inr hfin)
  refine ⟨?_, hinactive, ?_⟩
  · intro record hget
    by_contra hlive
    exact hinactive (hinv.runs.live_active runId record hget (by simpa using hlive))
  · intro state session hget howner
    by_contra hengine
    refine hinv.engine_swept state session hget (by simpa using hengine) ?_
    rw [howner, hfin]

/-- Over any number of `start_run` calls and any interleaving of their steps with
    those of the threads, the requests and the callbacks, the slot is released
    exactly when no `Thread.start()` fails. -/
theorem slotReleased_iff {events : List Event} {s : System} (h : exec events = some s)
    (hfresh : FreshIds events) :
    SlotReleased events ↔ ∀ call, Event.launch call (.startThread false) ∉ events := by
  constructor
  · intro hreleased call hmem
    -- right after the failed start the run is pending, active and without a thread
    obtain ⟨before, after, rfl⟩ := List.append_of_mem hmem
    have hpre : before ++ [Event.launch call (.startThread false)] <+:
        before ++ Event.launch call (.startThread false) :: after := ⟨after, by simp⟩
    obtain ⟨s₂, hs₂⟩ := Machine.run_of_prefix h hpre
    obtain ⟨s₁, hs₁, hstep⟩ := Machine.run_snoc.mp hs₂
    obtain ⟨launchEvent, hevent, hlaunch⟩ := launchStep_of_step hstep rfl
    obtain rfl : LaunchEvent.startThread false = launchEvent := by simpa using hevent
    have hfresh₂ : FreshIds (before ++ [Event.launch call (.startThread false)]) :=
      hfresh.sublist (hpre.sublist.filterMap _)
    have hinv := exec_inv hfresh₂ hs₂
    rcases launchStep_cases hlaunch with ⟨_, _, hvalidate, _⟩ | ⟨_, _, _, _, _, hcreate, _⟩ |
      ⟨arguments, runId, started, hpc, hstarted, _, hpc'⟩
    · cases hvalidate
    · cases hcreate
    · obtain rfl : false = started := by simpa using hstarted
      have hraised : s₂.launches call = .raised .threadStartError (some runId) := hpc'
      obtain ⟨habsent, hactive⟩ := hinv.unstarted call runId (by rw [hraised]; rfl)
      have hrel := hreleased.released _ s₂ hpre hs₂ call runId (.inr ⟨_, hraised⟩)
        (by rw [habsent]; rfl)
      exact hrel.inactive hactive
  · intro hstarts
    refine ⟨?_, ?_⟩
    · intro pre s hpre hs call error runId hraised before event s₁ s₂ hbefore hcall hs₁ hs₂
      refine unchanged_of_no_run hs ?_ hbefore hcall hs₁ hs₂
      cases runId with
      | none => rw [hraised]; rfl
      | some runId =>
        exact absurd (hpre.subset (startThread_of_raised hs hraised)) (hstarts call)
    · intro pre s hpre hs call runId hdone hdead
      have hinv := exec_inv (hfresh.sublist (hpre.sublist.filterMap _)) hs
      rcases hdone with hreturned | ⟨error, hraised⟩
      -- the thread was started and is not alive: it has been through its `finally` block
      · have hthread := hinv.returned call runId hreturned
        refine hinv.released ?_
        cases hpc : s.threads runId with
        | absent => exact absurd hpc hthread
        | finished => rfl
        | _ => rw [hpc] at hdead; cases hdead
      · exact absurd (hpre.subset (startThread_of_raised hs hraised)) (hstarts call)

/-- The theorem at a smoke check that runs to completion. -/
theorem slotReleased_iff_smoke_check :
    (∃ s, exec [.launch 0 (.validate smokeLaunch), .launch 0 (.create "a" 1),
        .launch 0 (.startThread true), .thread "a" (.markRunning 2), .thread "a" .readRecord,
        .thread "a" .engineReturns, .thread "a" (.serialise (some (.obj []))),
        .thread "a" (.persist .ok), .thread "a" (.mark 3), .thread "a" .sweep] = some s) ∧
      SlotReleased [.launch 0 (.validate smokeLaunch), .launch 0 (.create "a" 1),
        .launch 0 (.startThread true), .thread "a" (.markRunning 2), .thread "a" .readRecord,
        .thread "a" .engineReturns, .thread "a" (.serialise (some (.obj []))),
        .thread "a" (.persist .ok), .thread "a" (.mark 3), .thread "a" .sweep] :=
  ⟨⟨_, rfl⟩, (slotReleased_iff rfl (by decide)).mpr (by simp)⟩

/-- When `Thread.start()` raises, the call leaves a new pending record in the
    slot, and no thread will ever release it. -/
theorem slotReleased_fails :
    FreshIds [.launch 0 (.validate smokeLaunch), .launch 0 (.create "a" 1),
        .launch 0 (.startThread false)] ∧
      (∃ s, exec [.launch 0 (.validate smokeLaunch), .launch 0 (.create "a" 1),
          .launch 0 (.startThread false)] = some s ∧
        s.launches 0 = .raised .threadStartError (some "a") ∧ s.threads "a" = .absent ∧
        s.stores.runs.activeRunId = some "a" ∧
        (s.stores.runs.runs.get? "a").map RunRecord.status = some .pending) ∧
      ¬ SlotReleased [.launch 0 (.validate smokeLaunch), .launch 0 (.create "a" 1),
        .launch 0 (.startThread false)] := by
  refine ⟨by decide, ⟨_, rfl, rfl, rfl, rfl, rfl⟩, ?_⟩
  intro hreleased
  have hrel := hreleased.released _ _ List.prefix_rfl rfl 0 "a" (.inr ⟨_, rfl⟩) rfl
  exact hrel.inactive rfl

end System

end Conformance
