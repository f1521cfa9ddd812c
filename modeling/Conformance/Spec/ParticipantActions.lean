import Conformance.Spec.RunStoreInvariant
import Conformance.Spec.RunStoreObjectsRefine
import Mathlib.Data.Prod.Lex
import Mathlib.Data.String.Basic

/-!
# Participant actions follow the run

Along every sequence of calls on the run store the legacy alias is the oldest
pending action, a completed action becomes pending only when it is set again, and
the copies `get_run` and `get_participant_actions` hand out are never written.

That an ended run holds no action is another matter: the terminal marks discard
the actions, but `set_participant_action` does not look at the status of the
record. It holds exactly along the sequences in which no action is set on a record
that is already completed or failed (`NoLateAction`).

The first two and the last are facts about values and are proved of `RunStore`;
`view_exec` carries them to the objects. The third is a fact about objects.
-/

namespace Conformance

/-! ## The oldest pending action -/

namespace ParticipantAction

variable {x y : ParticipantAction}

/-- The sort key `(created_at, step_id)`. -/
def key (x : ParticipantAction) : Lex (Nat × String) := toLex (x.createdAt, x.stepId)

theorem before_iff : x.before y = true ↔ x.key < y.key := by
  simp [before, key, Prod.Lex.toLex_lt_toLex]

theorem before_eq_false_iff : x.before y = false ↔ y.key ≤ x.key := by
  rw [← Bool.not_eq_true, before_iff, not_lt]

theorem stepId_eq_of_key_eq (h : x.key = y.key) : x.stepId = y.stepId :=
  congrArg (fun pair => (ofLex pair).2) h

/-- `min` picks an element of the list. -/
theorem foldl_min_mem (actions : List ParticipantAction) (x : ParticipantAction) :
    actions.foldl (fun best next => if next.before best then next else best) x ∈ x :: actions := by
  induction actions generalizing x with
  | nil => simp
  | cons next rest ih =>
    rw [List.foldl_cons]
    rcases List.mem_cons.mp (ih (if next.before x then next else x)) with heq | hmem
    · rw [heq]
      split <;> simp
    · exact List.mem_cons_of_mem _ (List.mem_cons_of_mem _ hmem)

/-- The element `min` picks has the least key. -/
theorem key_foldl_min_le (actions : List ParticipantAction) (x : ParticipantAction) :
    ∀ y ∈ x :: actions,
      (actions.foldl (fun best next => if next.before best then next else best) x).key ≤ y.key := by
  induction actions generalizing x with
  | nil =>
    intro y hy
    obtain rfl := List.mem_singleton.mp hy
    exact le_refl _
  | cons next rest ih =>
    intro y hy
    rw [List.foldl_cons]
    -- the smaller of the first two stands for both
    have hbest := ih (if next.before x then next else x) _ List.mem_cons_self
    rcases List.mem_cons.mp hy with rfl | hy
    · refine le_trans hbest ?_
      split
      · rename_i hlt
        exact le_of_lt (before_iff.mp hlt)
      · exact le_refl _
    · rcases List.mem_cons.mp hy with rfl | hy
      · refine le_trans hbest ?_
        split
        · exact le_refl _
        · rename_i hnot
          exact before_eq_false_iff.mp (Bool.eq_false_iff.mpr hnot)
      · exact ih _ y (List.mem_cons_of_mem _ hy)

end ParticipantAction

namespace RunRecord

variable {record : RunRecord} {action : ParticipantAction}

/-- `record.participant_actions[step_id] = action`. -/
def withAction (record : RunRecord) (stepId : String) (action : ParticipantAction) : RunRecord :=
  { record with participantActions := record.participantActions.set stepId action }

/-- A pending action of the record. -/
def Pending (record : RunRecord) (action : ParticipantAction) : Prop :=
  action.status = .pending ∧ ∃ stepId, record.participantActions.get? stepId = some action

/-- The pending action least by `(created_at, step_id)`. -/
def LeastPending (record : RunRecord) (action : ParticipantAction) : Prop :=
  record.Pending action ∧ ∀ other, record.Pending other → other = action ∨ action.key < other.key

/-- Every action is stored under its own step id. -/
def Keyed (record : RunRecord) : Prop :=
  ∀ stepId action, record.participantActions.get? stepId = some action → action.stepId = stepId

/-- The pending actions are those of the record that are pending. -/
theorem mem_filter_pending :
    action ∈ record.participantActions.values.filter (fun action => action.status = .pending) ↔
      record.Pending action := by
  rw [List.mem_filter, Dict.mem_values_iff, Pending, decide_eq_true_eq, and_comm]

/-- None is first exactly when none is pending. -/
theorem firstPendingActionLocked_eq_none :
    record.firstPendingActionLocked = none ↔ ∀ action, ¬ record.Pending action := by
  unfold firstPendingActionLocked
  split
  · rename_i hnil
    refine ⟨fun _ action hpending => ?_, fun _ => rfl⟩
    rw [← mem_filter_pending, hnil] at hpending
    exact absurd hpending List.not_mem_nil
  · rename_i action actions hcons
    constructor
    · intro h
      cases h
    · intro h
      have hpending : record.Pending action := by
        rw [← mem_filter_pending, hcons]
        exact List.mem_cons_self
      exact absurd hpending (h action)

/-- The first pending action is the least. -/
theorem leastPending_of_firstPendingActionLocked (hkeyed : record.Keyed)
    (h : record.firstPendingActionLocked = some action) : record.LeastPending action := by
  unfold firstPendingActionLocked at h
  split at h
  · cases h
  · rename_i first rest hcons
    rw [Option.some.injEq] at h
    subst h
    have hmem := ParticipantAction.foldl_min_mem rest first
    rw [← hcons, mem_filter_pending] at hmem
    refine ⟨hmem, fun other hother => ?_⟩
    have hle := ParticipantAction.key_foldl_min_le rest first other
      (by rw [← hcons, mem_filter_pending]; exact hother)
    obtain ⟨-, stepId, hget⟩ := hmem
    obtain ⟨-, stepId', hget'⟩ := hother
    -- two actions with one key are the same entry
    by_cases hid : stepId' = stepId
    · subst hid
      exact .inl (Option.some.inj (hget'.symm.trans hget))
    · refine .inr (lt_of_le_of_ne hle fun heq => hid ?_)
      rw [← hkeyed _ _ hget, ← hkeyed _ _ hget', ParticipantAction.stepId_eq_of_key_eq heq]

/-- There is one least pending action at most. -/
theorem leastPending_unique {action' : ParticipantAction} (h : record.LeastPending action)
    (h' : record.LeastPending action') : action' = action := by
  rcases h.2 action' h'.1 with heq | hlt
  · exact heq
  · rcases h'.2 action h.1 with heq | hlt'
    · exact heq.symm
    · exact absurd hlt' (lt_asymm hlt)

/-- The oldest pending action, as `(created_at, step_id)` orders them. -/
theorem firstPendingActionLocked_eq_some_iff (hkeyed : record.Keyed) :
    record.firstPendingActionLocked = some action ↔ record.LeastPending action := by
  constructor
  · exact leastPending_of_firstPendingActionLocked hkeyed
  · intro h
    cases hfirst : record.firstPendingActionLocked with
    | none => exact absurd h.1 (firstPendingActionLocked_eq_none.mp hfirst action)
    | some other =>
      rw [leastPending_unique h (leastPending_of_firstPendingActionLocked hkeyed hfirst)]

end RunRecord

namespace ObjectStore

/-! ## What one call does to a record -/

/-- How the record under `runId` comes out of a call. -/
inductive Touched (store : RunStore) (call : Call) (runId : String) : RunRecord → Prop
  | kept {record : RunRecord} (hget : store.runs.get? runId = some record) :
      Touched store call runId record
  | created {record : RunRecord} (hstatus : record.status = .pending)
      (hactions : record.participantActions = Dict.empty)
      (halias : record.participantAction = none) : Touched store call runId record
  | running {record : RunRecord} (now : Timestamp) (hget : store.runs.get? runId = some record) :
      Touched store call runId { record with status := .running, startedAt := some now }
  | cleared {record record' : RunRecord} (hget : store.runs.get? runId = some record)
      (hactions : record'.participantActions = Dict.empty)
      (halias : record'.participantAction = none) : Touched store call runId record'
  | set {record : RunRecord} {stepId url : String} {now : Timestamp}
      (hcall : call = .op (.setParticipantAction runId stepId url now))
      (hget : store.runs.get? runId = some record) :
      Touched store call runId (record.withAction stepId
        { type := .psuAuthorizationUrl, stepId := stepId, url := url, status := .pending,
          createdAt := now }).syncLegacyParticipantActionLocked
  | completed {record : RunRecord} {stepId : String} {action : ParticipantAction} (now : Timestamp)
      (hget : store.runs.get? runId = some record)
      (haction : record.participantActions.get? stepId = some action) :
      Touched store call runId (record.withAction stepId
        { action with status := .completed, completedAt := some now
          }).syncLegacyParticipantActionLocked

/-- Writing one record touches that record and keeps the others. -/
theorem touched_set {store : RunStore} {call : Call} {k runId : String} {record record' : RunRecord}
    (h : Touched store call k record)
    (hget : (store.runs.set k record).get? runId = some record') :
    Touched store call runId record' := by
  rw [Dict.get?_set] at hget
  split at hget
  · rename_i hk
    obtain rfl := Option.some.inj hget
    rw [hk]
    exact h
  · exact .kept hget

/-- Releasing the slot does not matter for how a record was touched. -/
theorem touched_releaseActive {store : RunStore} {call : Call} {k runId : String}
    {record record' : RunRecord} (h : Touched store call k record)
    (hget : (RunStore.releaseActive { store with runs := store.runs.set k record } k).runs.get?
      runId = some record') : Touched store call runId record' := by
  unfold RunStore.releaseActive at hget
  split at hget <;> exact touched_set h hget

/-- A record after a call was touched by it. -/
theorem touched_on {store : RunStore} {call : Call} {runId : String} {record' : RunRecord}
    (hget' : (call.on store).runs.get? runId = some record') :
    Touched store call runId record' := by
  cases call with
  | getParticipantActions k => exact .kept hget'
  | reset => simp [Call.on, RunStore.init] at hget'
  | op method =>
    cases method with
    | getRun k => exact .kept hget'
    | getParticipantAction k => exact .kept hget'
    | createRun uuid now plannedSteps planSnapshot validationResult =>
      cases hactive : store.activeRunId with
      | some activeRunId =>
        have hsame : store.after
            (.createRun uuid now plannedSteps planSnapshot validationResult) = store := by
          simp only [RunStore.after, RunStore.Op.call, RunStore.createRun, EStateM.run_bind,
            EStateM.run_get, hactive]
          rfl
        rw [Call.on, hsame] at hget'
        exact .kept hget'
      | none =>
        simp only [Call.on, RunStore.after, RunStore.Op.call, RunStore.createRun, EStateM.run_bind,
          EStateM.run_get, hactive, EStateM.run_set, EStateM.run_modify, EStateM.run_pure,
          RunStore.prune_get?] at hget'
        split at hget'
        · cases hget'
        · exact touched_set (.created rfl rfl rfl) hget'
    | markRunning k now =>
      cases hget : store.runs.get? k with
      | none =>
        simp [Call.on, RunStore.after, RunStore.Op.call, RunStore.markRunning, hget] at hget'
        exact .kept hget'
      | some record =>
        simp only [Call.on, RunStore.after, RunStore.Op.call, RunStore.markRunning,
          EStateM.run_bind, EStateM.run_get, hget, EStateM.run_set] at hget'
        exact touched_set (.running now hget) hget'
    | markCompleted k now result =>
      cases hget : store.runs.get? k with
      | none =>
        simp [Call.on, RunStore.after, RunStore.Op.call, RunStore.markCompleted, hget] at hget'
        exact .kept hget'
      | some record =>
        simp only [Call.on, RunStore.after, RunStore.Op.call, RunStore.markCompleted,
          EStateM.run_bind, EStateM.run_get, hget, EStateM.run_set] at hget'
        exact touched_releaseActive (.cleared hget rfl rfl) hget'
    | markFailed k now message =>
      cases hget : store.runs.get? k with
      | none =>
        simp [Call.on, RunStore.after, RunStore.Op.call, RunStore.markFailed, hget] at hget'
        exact .kept hget'
      | some record =>
        simp only [Call.on, RunStore.after, RunStore.Op.call, RunStore.markFailed,
          EStateM.run_bind, EStateM.run_get, hget, EStateM.run_set] at hget'
        exact touched_releaseActive (.cleared hget rfl rfl) hget'
    | setParticipantAction k stepId url now =>
      cases hget : store.runs.get? k with
      | none =>
        simp [Call.on, RunStore.after, RunStore.Op.call, RunStore.setParticipantAction, hget]
          at hget'
        exact .kept hget'
      | some record =>
        simp only [Call.on, RunStore.after, RunStore.Op.call, RunStore.setParticipantAction,
          EStateM.run_bind, EStateM.run_get, hget, EStateM.run_set] at hget'
        rw [Dict.get?_set] at hget'
        split at hget'
        · rename_i hk
          obtain rfl := Option.some.inj hget'
          subst hk
          exact .set rfl hget
        · exact .kept hget'
    | clearParticipantAction k stepId now =>
      cases hget : store.runs.get? k with
      | none =>
        simp [Call.on, RunStore.after, RunStore.Op.call, RunStore.clearParticipantAction, hget]
          at hget'
        exact .kept hget'
      | some record =>
        cases stepId with
        | none =>
          simp only [Call.on, RunStore.after, RunStore.Op.call, RunStore.clearParticipantAction,
            EStateM.run_bind, EStateM.run_get, hget, EStateM.run_set] at hget'
          exact touched_set (.cleared hget rfl rfl) hget'
        | some stepId =>
          cases haction : record.participantActions.get? stepId with
          | none =>
            simp [Call.on, RunStore.after, RunStore.Op.call, RunStore.clearParticipantAction, hget,
              haction] at hget'
            exact .kept hget'
          | some action =>
            simp only [Call.on, RunStore.after, RunStore.Op.call, RunStore.clearParticipantAction,
              EStateM.run_bind, EStateM.run_get, hget, haction, EStateM.run_set] at hget'
            exact touched_set (.completed now hget haction) hget'

/-! ### The alias, completion and the end of a run -/

/-- The actions stand under their step ids and the alias is up to date. -/
structure Aliased (record : RunRecord) : Prop where
  keyed : record.Keyed
  alias_eq : record.participantAction = record.firstPendingActionLocked

/-- The record of an ended run holds no participant action. -/
def Ended (record : RunRecord) : Prop :=
  record.status.isTerminal = true →
    record.participantActions = Dict.empty ∧ record.participantAction = none

/-- A record without actions has no alias to keep. -/
theorem aliased_of_empty {record : RunRecord} (hactions : record.participantActions = Dict.empty)
    (halias : record.participantAction = none) : Aliased record where
  keyed := by
    intro stepId action hget
    rw [hactions, Dict.get?_empty] at hget
    cases hget
  alias_eq := by
    rw [halias, eq_comm, RunRecord.firstPendingActionLocked_eq_none]
    rintro action ⟨-, stepId, hget⟩
    rw [hactions, Dict.get?_empty] at hget
    cases hget

/-- Choosing the legacy action after adding one keeps the alias. -/
theorem aliased_withAction {record : RunRecord} (h : Aliased record) {stepId : String}
    {action : ParticipantAction} (hid : action.stepId = stepId) :
    Aliased (record.withAction stepId action).syncLegacyParticipantActionLocked where
  keyed := by
    intro stepId' action' hget
    rw [RunRecord.syncLegacyParticipantActionLocked, RunRecord.withAction, Dict.get?_set] at hget
    split at hget
    · rename_i hk
      obtain rfl := Option.some.inj hget
      rw [hk, hid]
    · exact h.keyed _ _ hget
  alias_eq := rfl

section Touched

variable {store : RunStore} {call : Call} {runId : String} {record' : RunRecord}
  (h : Touched store call runId record')

include h

/-- A record that is touched keeps its alias. -/
theorem Touched.aliased
    (hstore : ∀ record, store.runs.get? runId = some record → Aliased record) :
    Aliased record' := by
  cases h with
  | kept hget => exact hstore _ hget
  | created _ hactions halias => exact aliased_of_empty hactions halias
  | running now hget => exact ⟨(hstore _ hget).keyed, (hstore _ hget).alias_eq⟩
  | cleared _ hactions halias => exact aliased_of_empty hactions halias
  | set _ hget => exact aliased_withAction (hstore _ hget) rfl
  | completed now hget haction =>
    have hid := (hstore _ hget).keyed _ _ haction
    exact aliased_withAction (hstore _ hget) hid

/-- An action is pending because it was before or because it has just been set. -/
theorem Touched.pending {stepId : String} {action' : ParticipantAction}
    (hget' : record'.participantActions.get? stepId = some action')
    (hpending : action'.status = .pending) :
    (∃ record, store.runs.get? runId = some record ∧
      record.participantActions.get? stepId = some action') ∨
    ∃ url now, call = .op (.setParticipantAction runId stepId url now) := by
  cases h with
  | kept hget => exact .inl ⟨_, hget, hget'⟩
  | created _ hactions _ =>
    rw [hactions, Dict.get?_empty] at hget'
    cases hget'
  | running now hget => exact .inl ⟨_, hget, hget'⟩
  | cleared _ hactions _ =>
    rw [hactions, Dict.get?_empty] at hget'
    cases hget'
  | @set record stepId₀ url now hcall hget =>
    rw [RunRecord.syncLegacyParticipantActionLocked, RunRecord.withAction, Dict.get?_set] at hget'
    split at hget'
    · rename_i hk
      exact .inr ⟨url, now, hk ▸ hcall⟩
    · exact .inl ⟨_, hget, hget'⟩
  | completed now hget haction =>
    rw [RunRecord.syncLegacyParticipantActionLocked, RunRecord.withAction, Dict.get?_set] at hget'
    split at hget'
    · obtain rfl := Option.some.inj hget'
      cases hpending
    · exact .inl ⟨_, hget, hget'⟩

/-- A record that is touched after its end has no pending action, without late actions. -/
theorem Touched.ended
    (hlate : ∀ stepId url now, call = .op (.setParticipantAction runId stepId url now) →
      ∀ record, store.runs.get? runId = some record → record.status.isTerminal = false)
    (hstore : ∀ record, store.runs.get? runId = some record → Ended record) : Ended record' := by
  intro hterm
  cases h with
  | kept hget => exact hstore _ hget hterm
  | created hstatus _ _ =>
    rw [hstatus] at hterm
    cases hterm
  | running now hget => cases hterm
  | cleared _ hactions halias => exact ⟨hactions, halias⟩
  | set hcall hget =>
    rw [RunRecord.syncLegacyParticipantActionLocked, RunRecord.withAction,
      hlate _ _ _ hcall _ hget] at hterm
    cases hterm
  | completed now hget haction =>
    -- an ended run has no action that could be completed
    rw [(hstore _ hget hterm).1, Dict.get?_empty] at haction
    cases haction

end Touched

/-! ## Copies -/

/-- The object exists and the store does not hold it. -/
def Apart (store : ObjectStore) (a : Address) : Prop := a < store.next ∧ ¬ store.Live a

/-- The record and everything it leads to is apart from the store. -/
structure Detached (store : ObjectStore) (a : Address) : Prop where
  record : store.Apart a
  actions : store.Apart (store.record a).participantActions
  action : ∀ stepId b, (store.items a).get? stepId = some b → store.Apart b
  legacy : ∀ b, (store.record a).participantAction = some b → store.Apart b

variable {store store' : ObjectStore} {a b : Address}

/-- A call does not join what was apart. -/
theorem Frame.apart (h : Frame store store') (ha : store.Apart a) : store'.Apart a := by
  refine ⟨Nat.lt_of_lt_of_le ha.1 h.next_le, fun hlive => ?_⟩
  rcases h.live hlive with hlive | hle
  · exact ha.2 hlive
  · exact absurd ha.1 (Nat.not_lt.mpr hle)

theorem Frame.items_eq (h : Frame store store') (ha : store.Detached a) :
    store'.items a = store.items a := by
  rw [items, h.record ha.record.1 ha.record.2, h.actions ha.actions.1 ha.actions.2, items]

/-- A call leaves a copy detached. -/
theorem Frame.detached (h : Frame store store') (ha : store.Detached a) : store'.Detached a where
  record := h.apart ha.record
  actions := by
    rw [h.record ha.record.1 ha.record.2]
    exact h.apart ha.actions
  action := by
    intro stepId b hitem
    rw [h.items_eq ha] at hitem
    exact h.apart (ha.action stepId b hitem)
  legacy := by
    intro b halias
    rw [h.record ha.record.1 ha.record.2] at halias
    exact h.apart (ha.legacy b halias)

/-- A detached record reads the same after any call. -/
theorem Frame.readRecord_eq (h : Frame store store') (ha : store.Detached a) :
    store'.readRecord a = store.readRecord a := by
  apply readRecord_congr (h.record ha.record.1 ha.record.2) (h.items_eq ha)
  · intro stepId b hitem
    exact h.action (ha.action stepId b hitem).1 (ha.action stepId b hitem).2
  · intro b halias
    exact h.action (ha.legacy b halias).1 (ha.legacy b halias).2

/-- An object made by a call that only makes objects is apart. -/
theorem Grows.apart (h : Grows store store') (hsep : Separated store) (hle : store.next ≤ a)
    (hlt : a < store'.next) : store'.Apart a := by
  refine ⟨hlt, fun hlive => ?_⟩
  exact absurd (hsep.live_lt (h.live hsep hlive)) (Nat.not_lt.mpr hle)

/-- The copies of the items are new objects. -/
theorem foldl_snapshotItem_fresh {n : Address} (items : List (String × Address))
    (copied : ObjectStore × Dict String Address) (hn : n ≤ copied.1.next)
    (hcopied : ∀ stepId b, copied.2.get? stepId = some b → n ≤ b ∧ b < copied.1.next) :
    ∀ stepId b, (items.foldl snapshotItem copied).2.get? stepId = some b →
      n ≤ b ∧ b < (items.foldl snapshotItem copied).1.next := by
  induction items generalizing copied with
  | nil => exact hcopied
  | cons item items ih =>
    rw [List.foldl_cons]
    have hnext : (snapshotItem copied item).1.next = copied.1.next + 1 := rfl
    apply ih (snapshotItem copied item) (Nat.le_trans hn (Nat.le_succ _))
    intro stepId b hget
    rw [hnext]
    rw [snapshotItem, Dict.get?_set] at hget
    split at hget
    · obtain rfl := Option.some.inj hget
      exact ⟨hn, Nat.lt_succ_self _⟩
    · exact ⟨(hcopied _ _ hget).1, Nat.lt_succ_of_lt (hcopied _ _ hget).2⟩

/-- The copies hold what the items hold. -/
theorem mapValues_foldl_snapshotItem (items : List (String × Address))
    (copied : ObjectStore × Dict String Address) (hitems : ∀ item ∈ items, item.2 < copied.1.next)
    (hcopied : ∀ stepId b, copied.2.get? stepId = some b → b < copied.1.next) :
    (items.foldl snapshotItem copied).2.mapValues (items.foldl snapshotItem copied).1.action =
      items.foldl (fun d item => d.set item.1 (copied.1.action item.2))
        (copied.2.mapValues copied.1.action) := by
  induction items generalizing copied with
  | nil => rfl
  | cons item items ih =>
    have hnext : (snapshotItem copied item).1.next = copied.1.next + 1 := rfl
    have haction : ∀ b, b < copied.1.next →
        (snapshotItem copied item).1.action b = copied.1.action b :=
      fun b hb => Function.update_of_ne (Nat.ne_of_lt hb) _ _
    have hnew : (snapshotItem copied item).1.action copied.1.next = copied.1.action item.2 :=
      Function.update_self _ _ _
    have hset : (snapshotItem copied item).2.mapValues (snapshotItem copied item).1.action =
        (copied.2.mapValues copied.1.action).set item.1 (copied.1.action item.2) := by
      rw [← hnew, snapshotItem, Dict.mapValues_set]
      congr 1
      exact Dict.mapValues_congr fun stepId b hget => haction b (hcopied stepId b hget)
    rw [List.foldl_cons, List.foldl_cons, ih (snapshotItem copied item), hset]
    · apply List.foldl_ext
      intro d item' hitem'
      rw [haction item'.2 (hitems item' (List.mem_cons_of_mem _ hitem'))]
    · intro item' hitem'
      rw [hnext]
      exact Nat.lt_succ_of_lt (hitems item' (List.mem_cons_of_mem _ hitem'))
    · intro stepId b hget
      rw [hnext]
      rw [snapshotItem, Dict.get?_set] at hget
      split at hget
      · obtain rfl := Option.some.inj hget
        exact Nat.lt_succ_self _
      · exact Nat.lt_succ_of_lt (hcopied _ _ hget)

/-- `_snapshot_participant_actions` makes a new dictionary of new actions that
    reads as the old one. -/
theorem snapshotParticipantActions_spec (store : ObjectStore) (actions : Dict String Address)
    (hactions : ∀ stepId b, actions.get? stepId = some b → b < store.next) :
    let copy := (store.snapshotParticipantActions actions).1
    let store' := (store.snapshotParticipantActions actions).2
    store.next ≤ copy ∧ copy < store'.next ∧
      (∀ stepId b, (store'.actions copy).get? stepId = some b →
        store.next ≤ b ∧ b < store'.next) ∧
      (store'.actions copy).mapValues store'.action = actions.mapValues store.action := by
  intro copy store'
  have hgrows := grows_foldl_snapshotItem actions.entries (store, Dict.empty)
  have hcopies : store'.actions copy = (actions.entries.foldl snapshotItem (store, Dict.empty)).2 :=
    Function.update_self _ _ _
  refine ⟨hgrows.next_le, Nat.lt_succ_self _, ?_, ?_⟩
  · intro stepId b hget
    rw [hcopies] at hget
    have hfresh := foldl_snapshotItem_fresh actions.entries (store, Dict.empty) (Nat.le_refl _)
      (fun _ _ hempty => by cases hempty) stepId b hget
    exact ⟨hfresh.1, Nat.lt_succ_of_lt hfresh.2⟩
  · rw [hcopies]
    refine (mapValues_foldl_snapshotItem actions.entries (store, Dict.empty) ?_
      (fun _ _ hempty => by cases hempty)).trans ?_
    · intro item hitem
      exact hactions item.1 item.2 (Dict.mem_entries_iff.mp hitem)
    · exact Dict.foldl_set_entries actions store.action

/-- A copied action is new and reads as its source. -/
theorem snapshotParticipantAction_spec (store : ObjectStore) (source : Option Address) :
    let store' := (store.snapshotParticipantAction source).2
    (∀ b, (store.snapshotParticipantAction source).1 = some b →
      store.next ≤ b ∧ b < store'.next) ∧
    (store.snapshotParticipantAction source).1.map store'.action = source.map store.action := by
  intro store'
  cases source with
  | none =>
    refine ⟨fun b h => ?_, rfl⟩
    cases h
  | some a =>
    refine ⟨fun b h => ?_, ?_⟩
    · obtain rfl := Option.some.inj h
      exact ⟨Nat.le_refl _, Nat.lt_succ_self _⟩
    · exact congrArg some (Function.update_self _ _ _)

/-- `_snapshot_record_locked` hands out a record the store does not hold, which
    reads as the live one. -/
theorem snapshotRecordLocked_spec {runId : String} (hsep : Separated store)
    (hget : store.runs.get? runId = some a) :
    (store.snapshotRecordLocked a).2.Detached (store.snapshotRecordLocked a).1 ∧
      (store.snapshotRecordLocked a).2.readRecord (store.snapshotRecordLocked a).1 =
        (store.readRecord a).snapshotLocked := by
  -- the copies of the items, of the alias and of the record, one after the other
  let items := store.snapshotParticipantActions (store.items a)
  let legacy := items.2.snapshotParticipantAction (items.2.firstPendingActionLocked a)
  let record : RecordObject :=
    { store.record a with participantActions := items.1, participantAction := legacy.1 }
  have hsnapshot : store.snapshotRecordLocked a = legacy.2.newRecord record := rfl
  have hitems := snapshotParticipantActions_spec store (store.items a)
    fun _ _ hitem => hsep.live_lt (.action hget hitem)
  have hlegacy := snapshotParticipantAction_spec items.2 (items.2.firstPendingActionLocked a)
  have hgrows₁ : Grows store items.2 := grows_snapshotParticipantActions store _
  have hgrows₂ : Grows items.2 legacy.2 := grows_snapshotParticipantAction _ _
  have hgrows₃ : Grows legacy.2 (legacy.2.newRecord record).2 := grows_newRecord _ _
  have hgrows : Grows store (legacy.2.newRecord record).2 := (hgrows₁.trans hgrows₂).trans hgrows₃
  have hrecord : (legacy.2.newRecord record).2.record (legacy.2.newRecord record).1 = record :=
    Function.update_self _ _ _
  have hcopies : (legacy.2.newRecord record).2.actions items.1 = items.2.actions items.1 := by
    rw [hgrows₃.actions (Nat.lt_of_lt_of_le hitems.2.1 hgrows₂.next_le),
      hgrows₂.actions hitems.2.1]
  have hold : ∀ b, b < items.2.next →
      (legacy.2.newRecord record).2.action b = items.2.action b := fun b hb => by
    rw [hgrows₃.action (Nat.lt_of_lt_of_le hb hgrows₂.next_le), hgrows₂.action hb]
  rw [hsnapshot]
  constructor
  · refine ⟨?_, ?_, ?_, ?_⟩
    · exact hgrows.apart hsep (Nat.le_trans hgrows₁.next_le hgrows₂.next_le) (Nat.lt_succ_self _)
    · rw [hrecord]
      exact hgrows.apart hsep hitems.1 (Nat.lt_of_lt_of_le hitems.2.1
        (Nat.le_trans hgrows₂.next_le hgrows₃.next_le))
    · intro stepId b hget'
      rw [ObjectStore.items, hrecord, hcopies] at hget'
      have hfresh := hitems.2.2.1 stepId b hget'
      exact hgrows.apart hsep hfresh.1 (Nat.lt_of_lt_of_le hfresh.2
        (Nat.le_trans hgrows₂.next_le hgrows₃.next_le))
    · intro b halias
      rw [hrecord] at halias
      have hfresh := hlegacy.1 b halias
      exact hgrows.apart hsep (Nat.le_trans hgrows₁.next_le hfresh.1)
        (Nat.lt_of_lt_of_le hfresh.2 hgrows₃.next_le)
  · have hactions : ((legacy.2.newRecord record).2.actions items.1).mapValues
        (legacy.2.newRecord record).2.action = (store.items a).mapValues store.action := by
      rw [hcopies, ← hitems.2.2.2]
      exact Dict.mapValues_congr fun stepId b hget' => hold b (hitems.2.2.1 stepId b hget').2
    have halias : legacy.1.map (legacy.2.newRecord record).2.action =
        (store.readRecord a).firstPendingActionLocked := by
      have hsame : (legacy.2.newRecord record).2.action = legacy.2.action := rfl
      rw [hsame, hlegacy.2, map_firstPendingActionLocked, hgrows₁.readRecord_eq hsep hget]
    simp only [RunRecord.snapshotLocked, ← halias]
    simp only [readRecord, hrecord, record]
    rw [hactions]
    rfl

/-- A run that is read is a detached copy of its record. -/
theorem getRun_spec {runId : String} (hsep : Separated store)
    (h : (store.getRun runId).1 = some b) :
    (store.getRun runId).2.Detached b ∧ ∃ record, store.view.runs.get? runId = some record ∧
      (store.getRun runId).2.readRecord b = record.snapshotLocked := by
  cases hget : store.runs.get? runId with
  | none =>
    simp only [getRun, hget] at h
    cases h
  | some a =>
    have hrun : store.getRun runId =
        (some (store.snapshotRecordLocked a).1, (store.snapshotRecordLocked a).2) := by
      simp only [getRun, hget]
    rw [hrun] at h ⊢
    obtain rfl := Option.some.inj h
    have hspec := snapshotRecordLocked_spec hsep hget
    exact ⟨hspec.1, store.readRecord a, by rw [get?_view, hget]; rfl, hspec.2⟩

/-- The actions that are read are apart from the store. -/
theorem getParticipantActions_apart {runId : String} (hsep : Separated store)
    (h : b ∈ (store.getParticipantActions runId).1) :
    (store.getParticipantActions runId).2.Apart b := by
  cases hget : store.runs.get? runId with
  | none =>
    simp only [getParticipantActions, hget] at h
    cases h
  | some a =>
    have hspec := snapshotParticipantActions_spec store (store.items a)
      fun _ _ hitem => hsep.live_lt (.action hget hitem)
    have hgrows := grows_getParticipantActions store runId
    simp only [getParticipantActions, hget, List.mem_insertionSort, Dict.mem_values_iff]
      at h hgrows ⊢
    obtain ⟨stepId, hcopy⟩ := h
    have hfresh := hspec.2.2.1 stepId b hcopy
    exact hgrows.apart hsep hfresh.1 hfresh.2

/-! ## Whole runs -/

/-- One more call is made after the others. -/
@[simp] theorem exec_snoc (calls : List Call) (call : Call) :
    exec (calls ++ [call]) = (exec calls).after call := by
  simp [exec]

/-- So it is on the view. -/
theorem view_exec_snoc (calls : List Call) (call : Call) :
    (exec (calls ++ [call])).view = call.on (exec calls).view := by
  rw [view_exec, view_exec, List.foldl_append]
  rfl

/-- Every record of a reached store has its alias up to date. -/
theorem aliased_exec (calls : List Call) {runId : String} {record : RunRecord}
    (hget : (exec calls).view.runs.get? runId = some record) : Aliased record := by
  induction calls using List.reverseRecOn generalizing record with
  | nil => cases hget
  | append_singleton calls call ih =>
    rw [view_exec_snoc] at hget
    exact (touched_on hget).aliased fun _ hget => ih hget

/-- Between a state in which the action is not pending and one in which it is, it
    has been set. -/
theorem set_of_pending (pre post : List Call) {runId stepId : String} {record' : RunRecord}
    {action' : ParticipantAction}
    (hbefore : ∀ record action, (exec pre).view.runs.get? runId = some record →
      record.participantActions.get? stepId = some action → action.status ≠ .pending)
    (hget' : (exec (pre ++ post)).view.runs.get? runId = some record')
    (haction' : record'.participantActions.get? stepId = some action')
    (hpending : action'.status = .pending) :
    ∃ url now, .op (.setParticipantAction runId stepId url now) ∈ post := by
  -- induction on the later calls, from the last one backwards
  induction post using List.reverseRecOn generalizing record' with
  | nil =>
    rw [List.append_nil] at hget'
    exact absurd hpending (hbefore record' action' hget' haction')
  | append_singleton post call ih =>
    rw [← List.append_assoc, view_exec_snoc] at hget'
    rcases (touched_on hget').pending haction' hpending with ⟨record, hget, haction⟩ | ⟨url, now, hcall⟩
    · obtain ⟨url, now, hmem⟩ := ih hget haction
      exact ⟨url, now, List.mem_append_left _ hmem⟩
    · exact ⟨url, now, List.mem_append_right _ (by rw [hcall]; exact List.mem_singleton_self _)⟩

/-- A detached record reads the same after any further calls. -/
theorem readRecord_of_detached (pre post : List Call) (h : (exec pre).Detached a) :
    (exec (pre ++ post)).Detached a ∧
      (exec (pre ++ post)).readRecord a = (exec pre).readRecord a := by
  induction post using List.reverseRecOn with
  | nil =>
    rw [List.append_nil]
    exact ⟨h, rfl⟩
  | append_singleton post call ih =>
    have hframe := (refines_after (separated_exec (pre ++ post)) call).frame
    rw [← List.append_assoc, exec_snoc]
    exact ⟨hframe.detached ih.1, (hframe.readRecord_eq ih.1).trans ih.2⟩

/-- An action apart from the store is the same after any further calls. -/
theorem action_of_apart (pre post : List Call) (h : (exec pre).Apart b) :
    (exec (pre ++ post)).Apart b ∧ (exec (pre ++ post)).action b = (exec pre).action b := by
  induction post using List.reverseRecOn with
  | nil =>
    rw [List.append_nil]
    exact ⟨h, rfl⟩
  | append_singleton post call ih =>
    have hframe := (refines_after (separated_exec (pre ++ post)) call).frame
    rw [← List.append_assoc, exec_snoc]
    exact ⟨hframe.apart ih.1, (hframe.action ih.1.1 ih.1.2).trans ih.2⟩

/-- Participant actions follow the run along a sequence of calls. -/
structure ActionsFollow (calls : List Call) : Prop where
  /-- The alias is the least pending action, or `None` when no action is pending. -/
  least : ∀ pre, pre <+: calls → ∀ runId record,
    (exec pre).view.runs.get? runId = some record →
      (∀ action, record.participantAction = some action ↔ record.LeastPending action) ∧
      (record.participantAction = none ↔ ∀ action, ¬ record.Pending action)
  /-- A completed action is pending again only after it has been set again. -/
  completed : ∀ pre post, pre ++ post <+: calls → ∀ runId stepId record action record' action',
    (exec pre).view.runs.get? runId = some record →
    record.participantActions.get? stepId = some action → action.status = .completed →
    (exec (pre ++ post)).view.runs.get? runId = some record' →
    record'.participantActions.get? stepId = some action' → action'.status = .pending →
    ∃ url now, .op (.setParticipantAction runId stepId url now) ∈ post
  /-- The record `get_run` hands out is not changed by later calls. -/
  run_copy : ∀ pre post runId copy, pre ++ [.op (.getRun runId)] ++ post <+: calls →
    ((exec pre).getRun runId).1 = some copy →
    (exec (pre ++ [.op (.getRun runId)] ++ post)).readRecord copy =
      ((exec pre).getRun runId).2.readRecord copy
  /-- Nor are the actions `get_participant_actions` hands out. -/
  actions_copy : ∀ pre post runId, pre ++ [.getParticipantActions runId] ++ post <+: calls →
    ∀ copy ∈ ((exec pre).getParticipantActions runId).1,
      (exec (pre ++ [.getParticipantActions runId] ++ post)).action copy =
        ((exec pre).getParticipantActions runId).2.action copy
  /-- The record of a completed or failed run holds no action. -/
  ended : ∀ pre, pre <+: calls → ∀ runId record,
    (exec pre).view.runs.get? runId = some record → record.status.isTerminal = true →
      record.participantActions = Dict.empty ∧ record.participantAction = none

/-- No action is set on a record that is already completed or failed. -/
def NoLateAction (calls : List Call) : Prop :=
  ∀ pre runId stepId url now, pre ++ [.op (.setParticipantAction runId stepId url now)] <+: calls →
    ∀ record, (exec pre).view.runs.get? runId = some record → record.status.isTerminal = false

/-- Without late actions, a run that has ended has no pending one. -/
theorem NoLateAction.ended {calls : List Call} (h : NoLateAction calls) {runId : String}
    {record : RunRecord} (hget : (exec calls).view.runs.get? runId = some record) :
    Ended record := by
  induction calls using List.reverseRecOn generalizing record with
  | nil => cases hget
  | append_singleton calls call ih =>
    rw [view_exec_snoc] at hget
    have hcalls : NoLateAction calls := fun pre runId stepId url now hpre =>
      h pre runId stepId url now (hpre.trans (List.prefix_append calls [call]))
    refine (touched_on hget).ended ?_ fun _ hget => ih hcalls hget
    rintro stepId url now rfl record hold
    exact h calls runId stepId url now List.prefix_rfl record hold

/-- Setting an action leaves it on the record, whatever its status. -/
theorem get?_setParticipantAction {store : RunStore} {runId : String} {record : RunRecord}
    (hget : store.runs.get? runId = some record) (stepId url : String) (now : Timestamp) :
    ∃ record', (store.after (.setParticipantAction runId stepId url now)).runs.get? runId =
        some record' ∧ record'.status = record.status ∧
      (record'.participantActions.get? stepId).isSome = true := by
  simp only [RunStore.after, RunStore.Op.call, RunStore.setParticipantAction, EStateM.run_bind,
    EStateM.run_get, hget, EStateM.run_set, Dict.get?_set, if_pos]
  exact ⟨_, rfl, rfl, by simp [RunRecord.syncLegacyParticipantActionLocked]⟩

/-- Participant actions follow the run exactly along the sequences of calls that set
    no action on a record that is already completed or failed. -/
theorem actionsFollow_iff_noLateAction (calls : List Call) :
    ActionsFollow calls ↔ NoLateAction calls := by
  constructor
  · intro h pre runId stepId url now hpre record hget
    -- the late action would stay on the ended record
    by_contra hterm
    rw [Bool.not_eq_false] at hterm
    obtain ⟨record', hget', hstatus, hsome⟩ := get?_setParticipantAction hget stepId url now
    have hview := view_exec_snoc pre (.op (.setParticipantAction runId stepId url now))
    have hended := h.ended _ hpre runId record' (by rw [hview]; exact hget')
      (by rw [hstatus]; exact hterm)
    rw [hended.1, Dict.get?_empty] at hsome
    cases hsome
  · intro h
    have hprefixes : ∀ pre, pre <+: calls → NoLateAction pre :=
      fun pre hpre pre' runId stepId url now hpre' =>
        h pre' runId stepId url now (hpre'.trans hpre)
    refine ⟨?_, ?_, ?_, ?_, ?_⟩
    · intro pre _ runId record hget
      -- the alias is the first pending action
      have haliased := aliased_exec pre hget
      rw [haliased.alias_eq]
      exact ⟨fun _ => RunRecord.firstPendingActionLocked_eq_some_iff haliased.keyed,
        RunRecord.firstPendingActionLocked_eq_none⟩
    · intro pre post _ runId stepId record action record' action' hget haction hcompleted hget'
        haction' hpending
      refine set_of_pending pre post ?_ hget' haction' hpending
      intro r x hr hx
      obtain rfl := Option.some.inj (hget.symm.trans hr)
      obtain rfl := Option.some.inj (haction.symm.trans hx)
      rw [hcompleted]
      decide
    · intro pre post runId copy _ hcopy
      -- a copy shares no object with the store
      have hspec := (getRun_spec (separated_exec pre) hcopy).1
      have hexec : exec (pre ++ [.op (.getRun runId)]) = ((exec pre).getRun runId).2 :=
        exec_snoc pre _
      rw [← hexec] at hspec ⊢
      exact (readRecord_of_detached _ post hspec).2
    · intro pre post runId _ copy hcopy
      have hspec := getParticipantActions_apart (separated_exec pre) hcopy
      have hexec : exec (pre ++ [.getParticipantActions runId]) =
          ((exec pre).getParticipantActions runId).2 :=
        exec_snoc pre _
      rw [← hexec] at hspec ⊢
      exact (action_of_apart _ post hspec).2
    · intro pre hpre runId record hget hterm
      exact (hprefixes pre hpre).ended hget hterm

/-- A run is created, started and completed; the PSU step of a thread that is still
    running then emits its authorisation URL. -/
theorem actionsFollow_fails : ¬ ActionsFollow
    [.op (.createRun "run" 0 [] none none), .op (.markRunning "run" 1),
     .op (.markCompleted "run" 2 (.obj [])),
     .op (.setParticipantAction "run" "psu" "https://aspsp.example/authorize?request=raw" 3)] := by
  intro h
  have hended := h.ended _ List.prefix_rfl "run"
  -- the action is stored on the completed run
  have hstored : ((exec
      [.op (.createRun "run" 0 [] none none), .op (.markRunning "run" 1),
       .op (.markCompleted "run" 2 (.obj [])),
       .op (.setParticipantAction "run" "psu" "https://aspsp.example/authorize?request=raw" 3)]
        ).view.runs.get? "run").any (fun record => record.status.isTerminal &&
          (record.participantActions.get? "psu").isSome) = true := by
    decide +kernel
  obtain ⟨record, hget, hrecord⟩ := (Option.any_eq_true _ _).mp hstored
  rw [Bool.and_eq_true] at hrecord
  have hempty := (hended record hget hrecord.1).1
  rw [hempty, Dict.get?_empty] at hrecord
  cases hrecord.2

end ObjectStore

end Conformance
