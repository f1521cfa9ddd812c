import Conformance.Native.RunStore

/-!
# One active run, and terminal records that stay as they are

`RunStore` documents that `_active_run_id` names the pending or running record
and that a completed or failed record does not transition again. The `mark_*`
methods write without reading the record's status, so both hold exactly along
the call sequences in which no mark is addressed to a record that already
carries a terminal status, a repetition of the same outcome excepted
(`Guarded`).

What one call can do to the store is said once, by `Effect`; the invariant of a
whole sequence is derived from it.
-/

namespace Conformance

namespace RunStore

/-- `_active_run_id` names the pending or running record, or is `None` when
    there is none. -/
structure SingleActive (store : RunStore) : Prop where
  active_live : ∀ runId, store.activeRunId = some runId →
    ∃ record, store.runs.get? runId = some record ∧ record.status.isTerminal = false
  live_active : ∀ runId record, store.runs.get? runId = some record →
    record.status.isTerminal = false → store.activeRunId = some runId

/-- Status, result and error agree. -/
structure SameOutcome (record record' : RunRecord) : Prop where
  status : record'.status = record.status
  result : record'.result = record.result
  error : record'.error = record.error

/-- The call is not a mark addressed to a record that already carries a
    terminal status, unless it repeats that record's outcome. -/
def Guarded (store : RunStore) : Op → Prop
  | .markRunning runId _ => ∀ record, store.runs.get? runId = some record →
      record.status.isTerminal = false
  | .markCompleted runId _ result => ∀ record, store.runs.get? runId = some record →
      record.status.isTerminal = true → record.status = .completed ∧ record.result = some result
  | .markFailed runId _ error => ∀ record, store.runs.get? runId = some record →
      record.status.isTerminal = true → record.status = .failed ∧ record.error = some error
  | _ => True

/-- The id a call draws from `uuid.uuid4()`. -/
def Op.uuid? : Op → Option String
  | .createRun uuid .. => some uuid
  | _ => none

/-- `uuid.uuid4()` never returns an id twice. -/
def FreshIds (ops : List Op) : Prop := (ops.filterMap Op.uuid?).Nodup

instance (ops : List Op) : Decidable (FreshIds ops) :=
  inferInstanceAs (Decidable (ops.filterMap Op.uuid?).Nodup)

/-! ## What one call does -/

/-- The ways a call changes the store. -/
inductive Effect (store : RunStore) : Op → RunStore → Prop
  | same {op : Op} (hcreate : op.uuid? ≠ none → store.activeRunId ≠ none) : Effect store op store
  | touch {op : Op} {runId : String} {record record' : RunRecord} (hop : op.uuid? = none)
      (hget : store.runs.get? runId = some record) (hsame : SameOutcome record record')
      (hfin : record'.finishedAt = record.finishedAt) :
      Effect store op { store with runs := store.runs.set runId record' }
  | run {runId : String} {now : Timestamp} {record : RunRecord}
      (hget : store.runs.get? runId = some record) :
      Effect store (.markRunning runId now) { store with
        runs := store.runs.set runId { record with status := .running, startedAt := some now } }
  | finish {op : Op} {runId : String} {record record' : RunRecord} (hop : op.uuid? = none)
      (hget : store.runs.get? runId = some record) (hterm : record'.status.isTerminal = true)
      (hfin : record'.finishedAt.isSome = true)
      (hguard : Guarded store op → record.status.isTerminal = true → SameOutcome record record') :
      Effect store op
        (({ store with runs := store.runs.set runId record' } : RunStore).releaseActive runId)
  | create {op : Op} {uuid : String} {record : RunRecord} (hop : op.uuid? = some uuid)
      (hidle : store.activeRunId = none) (hpending : record.status = .pending) :
      Effect store op (pruneTerminalRecordsLocked
        { store with runs := store.runs.set uuid record, activeRunId := some uuid })

/-- Every call has one of these effects. -/
theorem effect_after (store : RunStore) (op : Op) : Effect store op (store.after op) := by
  cases op with
  | createRun uuid now plannedSteps planSnapshot validationResult =>
    -- `RunConflictError` is raised before anything is written
    cases hactive : store.activeRunId with
    | some activeRunId =>
      have hafter : store.after (.createRun uuid now plannedSteps planSnapshot validationResult) =
          store := by
        simp only [after, Op.call, RunStore.createRun, EStateM.run_bind, EStateM.run_get, hactive]
        rfl
      rw [hafter]
      exact .same fun _ => by simp [hactive]
    | none =>
      simp only [after, Op.call, RunStore.createRun, EStateM.run_bind, EStateM.run_get, hactive,
        EStateM.run_set, EStateM.run_modify, EStateM.run_pure]
      exact .create rfl hactive rfl
  -- the marks and the participant actions raise `KeyError` on an unknown run, or write one record
  | markRunning runId now =>
    cases hget : store.runs.get? runId with
    | none =>
      have hafter : store.after (.markRunning runId now) = store := by
        simp [after, Op.call, RunStore.markRunning, hget]
      rw [hafter]
      exact .same fun h => absurd rfl h
    | some record =>
      simp only [after, Op.call, RunStore.markRunning, EStateM.run_bind, EStateM.run_get, hget,
        EStateM.run_set]
      exact .run hget
  | markCompleted runId now result =>
    cases hget : store.runs.get? runId with
    | none =>
      have hafter : store.after (.markCompleted runId now result) = store := by
        simp [after, Op.call, RunStore.markCompleted, hget]
      rw [hafter]
      exact .same fun h => absurd rfl h
    | some record =>
      simp only [after, Op.call, RunStore.markCompleted, EStateM.run_bind, EStateM.run_get, hget,
        EStateM.run_set]
      refine .finish rfl hget rfl rfl fun hguard hterm => ?_
      obtain ⟨hstatus, hresult⟩ := hguard record hget hterm
      exact ⟨hstatus.symm, hresult.symm, rfl⟩
  | markFailed runId now error =>
    cases hget : store.runs.get? runId with
    | none =>
      have hafter : store.after (.markFailed runId now error) = store := by
        simp [after, Op.call, RunStore.markFailed, hget]
      rw [hafter]
      exact .same fun h => absurd rfl h
    | some record =>
      simp only [after, Op.call, RunStore.markFailed, EStateM.run_bind, EStateM.run_get, hget,
        EStateM.run_set]
      refine .finish rfl hget rfl rfl fun hguard hterm => ?_
      obtain ⟨hstatus, herror⟩ := hguard record hget hterm
      exact ⟨hstatus.symm, rfl, herror.symm⟩
  | setParticipantAction runId stepId url now =>
    cases hget : store.runs.get? runId with
    | none =>
      have hafter : store.after (.setParticipantAction runId stepId url now) = store := by
        simp [after, Op.call, RunStore.setParticipantAction, hget]
      rw [hafter]
      exact .same fun h => absurd rfl h
    | some record =>
      simp only [after, Op.call, RunStore.setParticipantAction, EStateM.run_bind, EStateM.run_get,
        hget, EStateM.run_set]
      exact .touch rfl hget ⟨rfl, rfl, rfl⟩ rfl
  | clearParticipantAction runId stepId now =>
    cases hget : store.runs.get? runId with
    | none =>
      have hafter : store.after (.clearParticipantAction runId stepId now) = store := by
        simp [after, Op.call, RunStore.clearParticipantAction, hget]
      rw [hafter]
      exact .same fun h => absurd rfl h
    | some record =>
      cases stepId with
      | none =>
        simp only [after, Op.call, RunStore.clearParticipantAction, EStateM.run_bind,
          EStateM.run_get, hget, EStateM.run_set]
        exact .touch rfl hget ⟨rfl, rfl, rfl⟩ rfl
      | some stepId =>
        -- clearing an action that is not there writes nothing
        cases haction : record.participantActions.get? stepId with
        | none =>
          have hafter : store.after (.clearParticipantAction runId (some stepId) now) = store := by
            simp [after, Op.call, RunStore.clearParticipantAction, hget, haction]
          rw [hafter]
          exact .same fun h => absurd rfl h
        | some action =>
          simp only [after, Op.call, RunStore.clearParticipantAction, EStateM.run_bind,
            EStateM.run_get, hget, haction, EStateM.run_set]
          exact .touch rfl hget ⟨rfl, rfl, rfl⟩ rfl
  | getRun runId => exact .same fun h => absurd rfl h
  | getParticipantAction runId => exact .same fun h => absurd rfl h

/-! ## Pruning -/

/-- A record is terminal exactly when its id is listed. -/
theorem mem_terminalIds {store : RunStore} {runId : String} :
    runId ∈ store.terminalIds ↔
      ∃ record, store.runs.get? runId = some record ∧ record.status.isTerminal = true := by
  simp only [terminalIds, List.mem_map, List.mem_filter, Prod.exists, Dict.mem_entries_iff]
  constructor
  · rintro ⟨k, record, ⟨hget, hterm⟩, rfl⟩
    exact ⟨record, hget, hterm⟩
  · rintro ⟨record, hget, hterm⟩
    exact ⟨runId, record, ⟨hget, hterm⟩, rfl⟩

private theorem terminalIds_eq (store : RunStore) : store.terminalIds =
    store.runs.keys.filter fun k => (store.runs.get? k).any fun r => r.status.isTerminal :=
  Dict.map_fst_filter_entries store.runs fun r => r.status.isTerminal

/-- Rewriting a record without crossing the terminal line keeps the list. -/
theorem terminalIds_set {store : RunStore} {runId : String} {record record' : RunRecord}
    (hget : store.runs.get? runId = some record)
    (hterm : record'.status.isTerminal = record.status.isTerminal) (active : Option String) :
    terminalIds ⟨store.runs.set runId record', active⟩ = store.terminalIds := by
  have hmem : runId ∈ store.runs.keys := Dict.mem_keys_iff.mpr ⟨record, hget⟩
  simp only [terminalIds_eq, Dict.keys_set_of_mem _ hmem, Dict.get?_set]
  apply List.filter_congr
  intro k _
  by_cases hk : k = runId
  · simp [hk, hget, hterm]
  · simp [hk]

/-- The ids pruning drops. -/
def evictedIds (store : RunStore) : List String :=
  (store.terminalIds.insertionSort fun a b => store.finishedKey a ≤ store.finishedKey b).take
    (store.terminalIds.length - MAX_TERMINAL_RECORDS)

/-- Pruning drops the evicted ids and nothing else; under the cap there are none. -/
theorem prune_eq (store : RunStore) : store.pruneTerminalRecordsLocked =
    { store with runs := store.evictedIds.foldl Dict.erase store.runs } := by
  simp only [pruneTerminalRecordsLocked]
  split
  · rename_i hle
    have hzero : store.terminalIds.length - MAX_TERMINAL_RECORDS = 0 := Nat.sub_eq_zero_of_le hle
    simp [evictedIds, hzero]
  · rfl

@[simp] theorem prune_activeRunId (store : RunStore) :
    store.pruneTerminalRecordsLocked.activeRunId = store.activeRunId := by
  rw [prune_eq]

/-- Pruning removes those evicted only. -/
@[simp] theorem prune_get? (store : RunStore) (runId : String) :
    store.pruneTerminalRecordsLocked.runs.get? runId =
      if runId ∈ store.evictedIds then none else store.runs.get? runId := by
  rw [prune_eq, Dict.get?_foldl_erase]

/-- Only completed and failed records are evicted. -/
theorem evictedIds_terminal {store : RunStore} {runId : String} (h : runId ∈ store.evictedIds) :
    ∃ record, store.runs.get? runId = some record ∧ record.status.isTerminal = true := by
  apply mem_terminalIds.mp
  exact (List.mem_insertionSort _).mp (List.mem_of_mem_take h)

/-- An evicted record finished no later than a terminal record that stays. -/
theorem evictedIds_oldest {store : RunStore} {runId kept : String} (h : runId ∈ store.evictedIds)
    (hkept : kept ∈ store.terminalIds) (hstays : kept ∉ store.evictedIds) :
    store.finishedKey runId ≤ store.finishedKey kept := by
  set oldestFirst := store.terminalIds.insertionSort
    fun a b => store.finishedKey a ≤ store.finishedKey b with hsort
  have hpair : oldestFirst.Pairwise fun a b => store.finishedKey a ≤ store.finishedKey b := by
    have : Std.Total fun a b : String => store.finishedKey a ≤ store.finishedKey b :=
      ⟨fun a b => Nat.le_total _ _⟩
    have : IsTrans String fun a b => store.finishedKey a ≤ store.finishedKey b :=
      ⟨fun _ _ _ => Nat.le_trans⟩
    exact List.pairwise_insertionSort _ _
  have hmem : kept ∈ oldestFirst := (List.mem_insertionSort _).mpr hkept
  set n := store.terminalIds.length - MAX_TERMINAL_RECORDS with hn
  rw [← List.take_append_drop n oldestFirst] at hpair hmem
  have hdrop : kept ∈ oldestFirst.drop n := by
    rcases List.mem_append.mp hmem with htake | hdrop
    · exact absurd htake hstays
    · exact hdrop
  exact (List.pairwise_append.mp hpair).2.2 runId h kept hdrop

/-- At most `MAX_TERMINAL_RECORDS` terminal records survive pruning. -/
theorem prune_terminalIds_length (store : RunStore) :
    store.pruneTerminalRecordsLocked.terminalIds.length ≤ MAX_TERMINAL_RECORDS := by
  set oldestFirst := store.terminalIds.insertionSort
    fun a b => store.finishedKey a ≤ store.finishedKey b with hsort
  set n := store.terminalIds.length - MAX_TERMINAL_RECORDS with hn
  have hperm : oldestFirst.Perm store.terminalIds := List.perm_insertionSort _ _
  -- pruning filters the terminal ids, in the order they are stored
  have hterm : store.pruneTerminalRecordsLocked.terminalIds =
      store.terminalIds.filter fun k => k ∉ store.evictedIds := by
    simp only [terminalIds_eq, prune_get?]
    rw [prune_eq, Dict.keys_foldl_erase, List.filter_filter, List.filter_filter]
    apply List.filter_congr
    intro k _
    by_cases hk : k ∈ store.evictedIds <;> simp [hk]
  -- the first `n` of the sorted ids are the evicted ones
  have hsplit : (oldestFirst.filter fun k => k ∉ store.evictedIds) =
      (oldestFirst.drop n).filter fun k => k ∉ store.evictedIds := by
    have htake : (oldestFirst.take n).filter (fun k => k ∉ store.evictedIds) = [] := by
      rw [List.filter_eq_nil_iff]
      intro k hk
      have hevicted : k ∈ store.evictedIds := hk
      simp [hevicted]
    conv_lhs => rw [← List.take_append_drop n oldestFirst, List.filter_append, htake, List.nil_append]
  calc store.pruneTerminalRecordsLocked.terminalIds.length
      = (oldestFirst.filter fun k => k ∉ store.evictedIds).length := by
        rw [hterm, (hperm.filter _).length_eq]
    _ ≤ (oldestFirst.drop n).length := by
        rw [hsplit]
        exact List.length_filter_le _ _
    _ ≤ MAX_TERMINAL_RECORDS := by
        rw [List.length_drop, hperm.length_eq]
        omega

/-! ## The invariant of a guarded sequence -/

/-- What holds after every guarded sequence of calls. While a run is active the
    terminal records are within the cap: the call that made it active pruned
    them, and none has been added since. -/
structure Inv (store : RunStore) : Prop extends SingleActive store where
  bounded : store.activeRunId ≠ none → store.terminalIds.length ≤ MAX_TERMINAL_RECORDS
  finished : ∀ runId record, store.runs.get? runId = some record →
    record.status.isTerminal = true → record.finishedAt.isSome = true

/-- The invariant holds of the empty store. -/
theorem inv_init : Inv init where
  active_live := by simp [init]
  live_active := by simp [init]
  bounded := by simp [init]
  finished := by simp [init]

/-- Rewriting a record keeps the invariant when its terminality is kept. -/
private theorem Inv.set_record {store : RunStore} (hinv : Inv store) {runId : String}
    {record record' : RunRecord} (hget : store.runs.get? runId = some record)
    (hterm : record'.status.isTerminal = record.status.isTerminal)
    (hfin : record'.status.isTerminal = true → record'.finishedAt.isSome = true) :
    Inv { store with runs := store.runs.set runId record' } where
  active_live := by
    intro k hk
    obtain ⟨r, hr, hlive⟩ := hinv.active_live k hk
    by_cases hkid : k = runId
    · subst hkid
      obtain rfl : record = r := Option.some.inj (hget.symm.trans hr)
      exact ⟨record', by simp, by rw [hterm, hlive]⟩
    · exact ⟨r, by simp [hkid, hr], hlive⟩
  live_active := by
    intro k r hr hlive
    rw [Dict.get?_set] at hr
    split at hr
    · rename_i hkid
      obtain rfl := Option.some.inj hr
      exact hkid ▸ hinv.live_active runId record hget (hterm ▸ hlive)
    · exact hinv.live_active k r hr hlive
  bounded := by
    intro hactive
    rw [terminalIds_set hget hterm]
    exact hinv.bounded hactive
  finished := by
    intro k r hr hrterm
    rw [Dict.get?_set] at hr
    split at hr
    · obtain rfl := Option.some.inj hr
      exact hfin hrterm
    · exact hinv.finished k r hr hrterm

/-- Finishing the active run clears the slot. -/
private theorem Inv.finish_active {store : RunStore} (hinv : Inv store) {runId : String}
    {record' : RunRecord} (hactive : store.activeRunId = some runId)
    (hterm : record'.status.isTerminal = true) (hfin : record'.finishedAt.isSome = true) :
    Inv { store with runs := store.runs.set runId record', activeRunId := none } where
  active_live := by simp
  live_active := by
    intro k r hr hlive
    rw [Dict.get?_set] at hr
    split at hr
    · obtain rfl := Option.some.inj hr
      rw [hterm] at hlive
      exact absurd hlive (by simp)
    -- the finished run was the only live one
    · rename_i hne
      have hk := hinv.live_active k r hr hlive
      rw [hactive] at hk
      exact absurd (Option.some.inj hk).symm hne
  bounded := by simp
  finished := by
    intro k r hr hrterm
    rw [Dict.get?_set] at hr
    split at hr
    · obtain rfl := Option.some.inj hr
      exact hfin
    · exact hinv.finished k r hr hrterm

/-- Creating a run on an idle store makes it the active one. -/
private theorem Inv.create_run {store : RunStore} (hinv : Inv store) {uuid : String}
    {record : RunRecord} (hidle : store.activeRunId = none) (hpending : record.status = .pending) :
    Inv (pruneTerminalRecordsLocked
      { store with runs := store.runs.set uuid record, activeRunId := some uuid }) := by
  set store₁ : RunStore :=
    { store with runs := store.runs.set uuid record, activeRunId := some uuid } with hstore₁
  have hget₁ : ∀ k, store₁.runs.get? k = if k = uuid then some record else store.runs.get? k :=
    fun k => Dict.get?_set _ _ _ _
  -- the new record is pending, so pruning passes it over
  have hkept : uuid ∉ store₁.evictedIds := by
    intro hmem
    obtain ⟨r, hr, hterm⟩ := evictedIds_terminal hmem
    rw [hget₁, if_pos rfl] at hr
    obtain rfl := Option.some.inj hr
    rw [hpending] at hterm
    exact absurd hterm (by decide)
  refine ⟨⟨?_, ?_⟩, ?_, ?_⟩
  · intro k hk
    obtain rfl : uuid = k := Option.some.inj (by simpa [hstore₁] using hk)
    exact ⟨record, by rw [prune_get?, if_neg hkept, hget₁, if_pos rfl], by rw [hpending]; rfl⟩
  · intro k r hr hlive
    rw [prune_get?] at hr
    split at hr
    · exact absurd hr (by simp)
    · rw [hget₁] at hr
      split at hr
      · rename_i hk
        rw [hk, prune_activeRunId]
      -- the store was idle: every older record is terminal
      · have hk := hinv.live_active k r hr hlive
        rw [hidle] at hk
        exact absurd hk (by simp)
  · intro _
    exact prune_terminalIds_length store₁
  · intro k r hr hterm
    rw [prune_get?] at hr
    split at hr
    · exact absurd hr (by simp)
    · rw [hget₁] at hr
      split at hr
      · obtain rfl := Option.some.inj hr
        rw [hpending] at hterm
        exact absurd hterm (by decide)
      · exact hinv.finished k r hr hterm

/-- A guarded call keeps the invariant. -/
theorem Inv.after {store : RunStore} {op : Op} (hinv : Inv store) (hguard : Guarded store op) :
    Inv (store.after op) := by
  have heffect := effect_after store op
  revert heffect
  generalize store.after op = store'
  intro heffect
  cases heffect with
  | same _ => exact hinv
  | touch _ hget hsame hfin =>
    refine hinv.set_record hget (by rw [hsame.status]) fun hterm => ?_
    rw [hfin]
    exact hinv.finished _ _ hget (hsame.status ▸ hterm)
  | run hget =>
    have hlive := hguard _ hget
    exact hinv.set_record hget hlive.symm fun h => absurd h Bool.false_ne_true
  | @finish _ runId record record' _ hget hterm hfin _ =>
    rw [releaseActive]
    split
    · rename_i hactive
      exact hinv.finish_active hactive hterm hfin
    · rename_i hactive
      -- a record that is not active is terminal already
      have hold : record.status.isTerminal = true := by
        by_contra hlive
        exact hactive (hinv.live_active runId record hget (by simpa using hlive))
      exact hinv.set_record hget (by rw [hterm, hold]) fun _ => hfin
  | create _ hidle hpending => exact hinv.create_run hidle hpending

/-- A record that a call finds is the one it leaves, unless the call drops it;
    a guarded call keeps the outcome of a terminal one. -/
theorem frozen_after {store : RunStore} {op : Op} (hguard : Guarded store op)
    (hfresh : ∀ uuid, op.uuid? = some uuid → store.runs.get? uuid = none) {runId : String}
    {record record' : RunRecord} (hget : store.runs.get? runId = some record)
    (hterm : record.status.isTerminal = true)
    (hget' : (store.after op).runs.get? runId = some record') : SameOutcome record record' := by
  have heffect := effect_after store op
  revert heffect hget'
  generalize store.after op = store'
  intro hget' heffect
  have hrefl : ∀ {r : RunRecord}, store.runs.get? runId = some r → SameOutcome record r := by
    intro r hr
    obtain rfl := Option.some.inj (hget.symm.trans hr)
    exact ⟨rfl, rfl, rfl⟩
  cases heffect with
  | same _ => exact hrefl hget'
  | @touch _ k r r' _ hk hsame _ =>
    rw [Dict.get?_set] at hget'
    split at hget'
    · rename_i hid
      obtain rfl : r = record := Option.some.inj (hk.symm.trans (hid ▸ hget))
      obtain rfl := Option.some.inj hget'
      exact hsame
    · exact hrefl hget'
  | @run k now r hk =>
    rw [Dict.get?_set] at hget'
    split at hget'
    -- a guarded `mark_running` is not addressed to a terminal record
    · rename_i hid
      have hlive := hguard record (hid ▸ hget)
      rw [hterm] at hlive
      exact absurd hlive (by simp)
    · exact hrefl hget'
  | @finish _ k r r' _ hk _ _ hg =>
    have hruns : ∀ store₁ : RunStore, (store₁.releaseActive k).runs = store₁.runs := by
      intro store₁
      rw [releaseActive]
      split <;> rfl
    rw [hruns, Dict.get?_set] at hget'
    split at hget'
    · rename_i hid
      obtain rfl : r = record := Option.some.inj (hk.symm.trans (hid ▸ hget))
      obtain rfl := Option.some.inj hget'
      exact hg hguard hterm
    · exact hrefl hget'
  | @create _ uuid r hop _ _ =>
    rw [prune_get?] at hget'
    split at hget'
    · exact absurd hget' (by simp)
    · rw [Dict.get?_set] at hget'
      split at hget'
      -- a fresh id writes over no record
      · rename_i hid
        have hnone := hfresh uuid hop
        rw [← hid, hget] at hnone
        exact absurd hnone (by simp)
      · exact hrefl hget'

/-- Only `mark_completed`, `mark_failed` and `create_run` move the active run. -/
theorem activeRunId_markRunning (store : RunStore) (runId : String) (now : Timestamp) :
    (store.after (.markRunning runId now)).activeRunId = store.activeRunId := by
  cases hget : store.runs.get? runId <;> simp [after, Op.call, RunStore.markRunning, hget]

/-- Setting an action keeps the active run. -/
theorem activeRunId_setParticipantAction (store : RunStore) (runId stepId url : String)
    (now : Timestamp) :
    (store.after (.setParticipantAction runId stepId url now)).activeRunId = store.activeRunId := by
  cases hget : store.runs.get? runId <;> simp [after, Op.call, RunStore.setParticipantAction, hget]

/-- So does clearing one. -/
theorem activeRunId_clearParticipantAction (store : RunStore) (runId : String)
    (stepId : Option String) (now : Timestamp) :
    (store.after (.clearParticipantAction runId stepId now)).activeRunId = store.activeRunId := by
  cases hget : store.runs.get? runId with
  | none => simp [after, Op.call, RunStore.clearParticipantAction, hget]
  | some record =>
    cases stepId with
    | none => simp [after, Op.call, RunStore.clearParticipantAction, hget]
    | some stepId =>
      cases haction : record.participantActions.get? stepId <;>
        simp [after, Op.call, RunStore.clearParticipantAction, hget, haction]

/-- Marking the active run completed frees the slot. -/
theorem activeRunId_markCompleted {store : RunStore} {runId : String} {record : RunRecord}
    (hactive : store.activeRunId = some runId) (hget : store.runs.get? runId = some record)
    (now : Timestamp) (result : Json) :
    (store.after (.markCompleted runId now result)).activeRunId = none := by
  simp [after, Op.call, RunStore.markCompleted, hget, releaseActive, hactive]

/-- Marking the active run failed frees the slot. -/
theorem activeRunId_markFailed {store : RunStore} {runId : String} {record : RunRecord}
    (hactive : store.activeRunId = some runId) (hget : store.runs.get? runId = some record)
    (now : Timestamp) (error : String) :
    (store.after (.markFailed runId now error)).activeRunId = none := by
  simp [after, Op.call, RunStore.markFailed, hget, releaseActive, hactive]

/-- A record appears only by being created. -/
theorem get?_after_of_none {store : RunStore} {op : Op} {runId : String} {record' : RunRecord}
    (hget : store.runs.get? runId = none)
    (hget' : (store.after op).runs.get? runId = some record') : op.uuid? = some runId := by
  have heffect := effect_after store op
  revert heffect hget'
  generalize store.after op = store'
  intro hget' heffect
  -- writing over a stored record adds none
  have habsent : ∀ {k : String} {r r' : RunRecord}, store.runs.get? k = some r →
      (store.runs.set k r').get? runId = some record' → False := by
    intro k r r' hk hset
    rw [Dict.get?_set] at hset
    split at hset
    · rename_i hid
      rw [← hid, hget] at hk
      exact absurd hk (by simp)
    · rw [hget] at hset
      exact absurd hset (by simp)
  cases heffect with
  | same _ =>
    rw [hget] at hget'
    exact absurd hget' (by simp)
  | touch _ hk _ _ => exact (habsent hk hget').elim
  | run hk => exact (habsent hk hget').elim
  | finish _ hk _ _ _ =>
    rw [releaseActive] at hget'
    split at hget' <;> exact (habsent hk hget').elim
  | @create _ uuid r hop _ _ =>
    rw [prune_get?] at hget'
    split at hget'
    · exact absurd hget' (by simp)
    · rw [Dict.get?_set] at hget'
      split at hget'
      · rename_i hid
        rw [hop, hid]
      · rw [hget] at hget'
        exact absurd hget' (by simp)

/-! ## Whole sequences -/

@[simp] theorem exec_nil : exec [] = init := rfl

@[simp] theorem exec_snoc (ops : List Op) (op : Op) : exec (ops ++ [op]) = (exec ops).after op := by
  simp [exec]

/-- Every record in the store was created by a call of the sequence. -/
theorem created_of_get? {ops : List Op} {runId : String} {record : RunRecord}
    (hget : (exec ops).runs.get? runId = some record) : runId ∈ ops.filterMap Op.uuid? := by
  induction ops using List.reverseRecOn generalizing record with
  | nil => simp [init] at hget
  | append_singleton ops op ih =>
    rw [exec_snoc] at hget
    rw [List.filterMap_append, List.mem_append]
    cases hold : (exec ops).runs.get? runId with
    | some r => exact .inl (ih hold)
    | none =>
      refine .inr ?_
      rw [List.mem_filterMap]
      exact ⟨op, List.mem_singleton_self op, get?_after_of_none hold hget⟩

/-- Every call of the sequence is guarded in the store it finds. -/
def AllGuarded (ops : List Op) : Prop :=
  ∀ pre op, pre ++ [op] <+: ops → Guarded (exec pre) op

/-- The documented behaviour along a sequence of calls: one active run, terminal
    records that keep their outcome, and pruning of the oldest terminal records. -/
structure WellBehaved (ops : List Op) : Prop where
  single_active : ∀ pre, pre <+: ops → SingleActive (exec pre)
  terminal_frozen : ∀ pre post, pre ++ post <+: ops → ∀ runId record record',
    (exec pre).runs.get? runId = some record → record.status.isTerminal = true →
    (exec (pre ++ post)).runs.get? runId = some record' → SameOutcome record record'
  bounded : ∀ pre op, pre ++ [op] <+: ops → op.uuid? ≠ none →
    (exec (pre ++ [op])).terminalIds.length ≤ MAX_TERMINAL_RECORDS
  oldest_evicted : ∀ pre op, pre ++ [op] <+: ops → op.uuid? ≠ none → ∀ runId record,
    (exec pre).runs.get? runId = some record → (exec (pre ++ [op])).runs.get? runId = none →
    record.status.isTerminal = true ∧ ∃ finishedAt, record.finishedAt = some finishedAt ∧
      ∀ kept ∈ (exec (pre ++ [op])).terminalIds, ∃ record' finishedAt',
        (exec pre).runs.get? kept = some record' ∧ record'.finishedAt = some finishedAt' ∧
          finishedAt ≤ finishedAt'

/-- An id is drawn once. -/
private theorem FreshIds.notMem {ops pre : List Op} {op : Op} (hfresh : FreshIds ops)
    (hpre : pre ++ [op] <+: ops) {uuid : String} (huuid : op.uuid? = some uuid) :
    uuid ∉ pre.filterMap Op.uuid? := by
  have hnodup : (pre.filterMap Op.uuid? ++ [op].filterMap Op.uuid?).Nodup := by
    rw [← List.filterMap_append]
    exact hfresh.sublist (hpre.sublist.filterMap _)
  have hnew : uuid ∈ [op].filterMap Op.uuid? :=
    List.mem_filterMap.mpr ⟨op, List.mem_singleton_self op, huuid⟩
  intro hold
  exact List.disjoint_of_nodup_append hnodup hold hnew

/-- A drawn id names no record yet. -/
private theorem FreshIds.get?_eq_none {ops pre : List Op} {op : Op} (hfresh : FreshIds ops)
    (hpre : pre ++ [op] <+: ops) {uuid : String} (huuid : op.uuid? = some uuid) :
    (exec pre).runs.get? uuid = none := by
  cases hget : (exec pre).runs.get? uuid with
  | none => rfl
  | some record => exact absurd (created_of_get? hget) (hfresh.notMem hpre huuid)

/-- A guarded sequence reaches only states that satisfy the invariant. -/
theorem AllGuarded.inv {ops : List Op} (hguard : AllGuarded ops) : Inv (exec ops) := by
  induction ops using List.reverseRecOn with
  | nil => exact inv_init
  | append_singleton ops op ih =>
    rw [exec_snoc]
    have hops : AllGuarded ops := fun pre op' hpre =>
      hguard pre op' (hpre.trans (List.prefix_append ops [op]))
    exact (ih hops).after (hguard ops op List.prefix_rfl)

private theorem AllGuarded.of_prefix {ops pre : List Op} (hguard : AllGuarded ops)
    (hpre : pre <+: ops) : AllGuarded pre :=
  fun pre' op hpre' => hguard pre' op (hpre'.trans hpre)

/-- Along a guarded sequence a terminal record keeps its outcome for as long as
    it is stored. -/
private theorem AllGuarded.frozen {ops : List Op} (hguard : AllGuarded ops) (hfresh : FreshIds ops)
    (pre post : List Op) (hpre : pre ++ post <+: ops) {runId : String} {record record' : RunRecord}
    (hget : (exec pre).runs.get? runId = some record) (hterm : record.status.isTerminal = true)
    (hget' : (exec (pre ++ post)).runs.get? runId = some record') :
    SameOutcome record record' := by
  -- induction on the later calls, from the last one backwards
  induction post using List.reverseRecOn generalizing record' with
  | nil =>
    rw [List.append_nil] at hget'
    obtain rfl := Option.some.inj (hget.symm.trans hget')
    exact ⟨rfl, rfl, rfl⟩
  | append_singleton post op ih =>
    rw [← List.append_assoc] at hpre hget'
    rw [exec_snoc] at hget'
    cases hmid : (exec (pre ++ post)).runs.get? runId with
    | some r =>
      have hr := ih ((List.prefix_append _ _).trans hpre) hmid
      have hrterm : r.status.isTerminal = true := by rw [hr.status, hterm]
      have hstep := frozen_after (hguard _ _ hpre) (fun uuid => hfresh.get?_eq_none hpre) hmid
        hrterm hget'
      exact ⟨hstep.status.trans hr.status, hstep.result.trans hr.result,
        hstep.error.trans hr.error⟩
    | none =>
      -- the id would have to be drawn a second time
      have huuid := get?_after_of_none hmid hget'
      have hold : runId ∈ (pre ++ post).filterMap Op.uuid? := by
        rw [List.filterMap_append]
        exact List.mem_append_left _ (created_of_get? hget)
      exact absurd hold (hfresh.notMem hpre huuid)

/-- After `create_run`, whether it returns or raises, the cap holds. -/
private theorem Inv.bounded_after {store : RunStore} (hinv : Inv store) {op : Op}
    (hop : op.uuid? ≠ none) : (store.after op).terminalIds.length ≤ MAX_TERMINAL_RECORDS := by
  have heffect := effect_after store op
  revert heffect
  generalize store.after op = store'
  intro heffect
  cases heffect with
  | same hcreate => exact hinv.bounded (hcreate hop)
  | touch hnone _ _ _ => exact absurd hnone hop
  | run _ => exact absurd rfl hop
  | finish hnone _ _ _ _ => exact absurd hnone hop
  | create _ _ _ => exact prune_terminalIds_length _

/-- The records `create_run` drops are terminal and finished no later than the
    terminal records it keeps. -/
private theorem Inv.evicted_after {store : RunStore} (hinv : Inv store) {op : Op}
    (hop : op.uuid? ≠ none) {runId : String} {record : RunRecord}
    (hget : store.runs.get? runId = some record)
    (hgone : (store.after op).runs.get? runId = none) :
    record.status.isTerminal = true ∧ ∃ finishedAt, record.finishedAt = some finishedAt ∧
      ∀ kept ∈ (store.after op).terminalIds, ∃ record' finishedAt',
        store.runs.get? kept = some record' ∧ record'.finishedAt = some finishedAt' ∧
          finishedAt ≤ finishedAt' := by
  have heffect := effect_after store op
  revert heffect hgone
  generalize store.after op = store'
  intro hgone heffect
  cases heffect with
  | same _ =>
    rw [hget] at hgone
    exact absurd hgone (by simp)
  | touch hnone _ _ _ => exact absurd hnone hop
  | run _ => exact absurd rfl hop
  | finish hnone _ _ _ _ => exact absurd hnone hop
  | @create _ uuid pending _ _ hpending =>
    set store₁ : RunStore :=
      { store with runs := store.runs.set uuid pending, activeRunId := some uuid } with hstore₁
    -- the terminal records that pruning sees were there before the call
    have hget₁ : ∀ k r, store₁.runs.get? k = some r → r.status.isTerminal = true →
        store.runs.get? k = some r := by
      intro k r hk hterm
      simp only [hstore₁, Dict.get?_set] at hk
      split at hk
      · obtain rfl := Option.some.inj hk
        rw [hpending] at hterm
        exact absurd hterm (by decide)
      · exact hk
    have hevicted : runId ∈ store₁.evictedIds := by
      rw [prune_get?] at hgone
      by_contra hkept
      rw [if_neg hkept] at hgone
      simp only [hstore₁, Dict.get?_set] at hgone
      split at hgone
      · exact absurd hgone (by simp)
      · rw [hget] at hgone
        exact absurd hgone (by simp)
    obtain ⟨r, hr, hterm⟩ := evictedIds_terminal hevicted
    obtain rfl := Option.some.inj (hget.symm.trans (hget₁ _ _ hr hterm))
    -- both times are set, so the default of the sort key is not used
    obtain ⟨finishedAt, hfin⟩ := Option.isSome_iff_exists.mp (hinv.finished _ _ hget hterm)
    refine ⟨hterm, finishedAt, hfin, ?_⟩
    intro kept hkept
    obtain ⟨r', hr', hterm'⟩ := mem_terminalIds.mp hkept
    rw [prune_get?] at hr'
    split at hr'
    · exact absurd hr' (by simp)
    · rename_i hstays
      have hold := hget₁ _ _ hr' hterm'
      obtain ⟨finishedAt', hfin'⟩ := Option.isSome_iff_exists.mp (hinv.finished _ _ hold hterm')
      refine ⟨r', finishedAt', hold, hfin', ?_⟩
      have hle := evictedIds_oldest hevicted (mem_terminalIds.mpr ⟨r', hr', hterm'⟩) hstays
      simpa [finishedKey, hr, hr', hfin, hfin'] using hle

/-- A call that is not guarded rewrites the outcome of a terminal record. -/
private theorem guarded_of_frozen {store : RunStore} {op : Op}
    (hfrozen : ∀ runId record record', store.runs.get? runId = some record →
      record.status.isTerminal = true → (store.after op).runs.get? runId = some record' →
      SameOutcome record record') : Guarded store op := by
  cases op with
  | markRunning runId now =>
    intro record hget
    by_contra hterm
    have hsame := hfrozen runId record _ hget (by simpa using hterm)
      (by simp [after, Op.call, RunStore.markRunning, hget]; rfl)
    rw [← hsame.status] at hterm
    exact hterm rfl
  | markCompleted runId now result =>
    intro record hget hterm
    have hsame := hfrozen runId record
      { record with status := .completed, finishedAt := some now, result := some result
                    participantActions := Dict.empty, participantAction := none } hget hterm (by
      simp only [after, Op.call, RunStore.markCompleted, EStateM.run_bind, EStateM.run_get, hget,
        EStateM.run_set, releaseActive]
      split <;> simp [RunRecord.clearParticipantActions])
    exact ⟨hsame.status.symm, hsame.result.symm⟩
  | markFailed runId now error =>
    intro record hget hterm
    have hsame := hfrozen runId record
      { record with status := .failed, finishedAt := some now, error := some error
                    participantActions := Dict.empty, participantAction := none } hget hterm (by
      simp only [after, Op.call, RunStore.markFailed, EStateM.run_bind, EStateM.run_get, hget,
        EStateM.run_set, releaseActive]
      split <;> simp [RunRecord.clearParticipantActions])
    exact ⟨hsame.status.symm, hsame.error.symm⟩
  | _ => trivial

/-- Along a sequence of calls, in any order and with any run ids, the store
    behaves as documented exactly when no mark is addressed to a record that
    already carries a terminal status, other than to repeat its outcome. -/
theorem wellBehaved_iff_allGuarded (ops : List Op) (hfresh : FreshIds ops) :
    WellBehaved ops ↔ AllGuarded ops := by
  constructor
  -- one call is enough: an unguarded mark breaks `terminal_frozen` at once
  · intro hwell pre op hpre
    refine guarded_of_frozen fun runId record record' hget hterm hget' => ?_
    rw [← exec_snoc] at hget'
    exact hwell.terminal_frozen pre [op] hpre runId record record' hget hterm hget'
  · intro hguard
    refine ⟨?_, ?_, ?_, ?_⟩
    · intro pre hpre
      exact (hguard.of_prefix hpre).inv.toSingleActive
    · intro pre post hpre runId record record' hget hterm hget'
      exact hguard.frozen hfresh pre post hpre hget hterm hget'
    · intro pre op hpre hop
      have hinv := (hguard.of_prefix ((List.prefix_append pre [op]).trans hpre)).inv
      rw [exec_snoc]
      exact hinv.bounded_after hop
    · intro pre op hpre hop runId record hget hgone
      have hinv := (hguard.of_prefix ((List.prefix_append pre [op]).trans hpre)).inv
      rw [exec_snoc] at hgone ⊢
      exact hinv.evicted_after hop hget hgone

/-- The theorem at a run that completes before the next one is created. -/
theorem wellBehaved_iff_allGuarded_two_runs :
    FreshIds [.createRun "a" 1 [] none none, .markRunning "a" 2, .markCompleted "a" 3 (.obj []),
        .createRun "b" 4 [] none none] ∧
      (WellBehaved [.createRun "a" 1 [] none none, .markRunning "a" 2, .markCompleted "a" 3 (.obj []),
          .createRun "b" 4 [] none none] ↔
        AllGuarded [.createRun "a" 1 [] none none, .markRunning "a" 2, .markCompleted "a" 3 (.obj []),
          .createRun "b" 4 [] none none]) :=
  ⟨by decide, wellBehaved_iff_allGuarded _ (by decide)⟩

/-- `mark_running` after `mark_failed` leaves a running record that is not the
    active run, and `mark_failed` after `mark_completed` turns a completed
    record into a failed one. -/
theorem wellBehaved_fails :
    (FreshIds [.createRun "a" 1 [] none none, .markFailed "a" 2 "boom", .markRunning "a" 3] ∧
      ¬ SingleActive
        (exec [.createRun "a" 1 [] none none, .markFailed "a" 2 "boom", .markRunning "a" 3])) ∧
    (FreshIds [.createRun "a" 1 [] none none, .markCompleted "a" 2 (.obj []),
        .markFailed "a" 3 "boom"] ∧
      ¬ WellBehaved [.createRun "a" 1 [] none none, .markCompleted "a" 2 (.obj []),
        .markFailed "a" 3 "boom"]) := by
  refine ⟨⟨by decide, ?_⟩, by decide, ?_⟩
  · intro hsingle
    have hactive := hsingle.live_active "a" _ rfl rfl
    exact absurd hactive (by decide)
  · intro hwell
    have hsame := hwell.terminal_frozen
      [.createRun "a" 1 [] none none, .markCompleted "a" 2 (.obj [])] [.markFailed "a" 3 "boom"]
      List.prefix_rfl "a" _ _ rfl rfl rfl
    exact absurd hsame.status (by decide)

end RunStore

end Conformance
