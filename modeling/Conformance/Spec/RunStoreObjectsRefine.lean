import Conformance.Native.RunStoreObjects

/-!
# The objects refine the values

The methods of `ObjectStore` write objects in place, those of `RunStore` replace
values. Both agree as long as no two names of the store lead to one object
(`Separated`), an invariant of every call: a write through one run is then never
seen through another.

What a call does to the objects is said once. `Grows` is a call that only makes
objects (the readers, which copy). `Writes` is a call that writes the record of
one run, its dictionary and its actions, and puts into the dictionary no object
that existed elsewhere. From these two follow the invariant, the agreement of the
views and, in `Spec.ParticipantActions`, that a copy handed out is never written.
-/

namespace Conformance

namespace ObjectStore

variable {store store' store'' : ObjectStore} {runId : String} {a b : Address}

/-- The dictionary of the participant actions of the record at `a`. -/
def items (store : ObjectStore) (a : Address) : Dict String Address :=
  store.actions (store.record a).participantActions

/-- The addresses of objects the store holds. -/
inductive Live (store : ObjectStore) : Address → Prop
  | record {runId : String} {a : Address} (hget : store.runs.get? runId = some a) : Live store a
  | actions {runId : String} {a : Address} (hget : store.runs.get? runId = some a) :
      Live store (store.record a).participantActions
  | action {runId stepId : String} {a b : Address} (hget : store.runs.get? runId = some a)
      (hitem : (store.items a).get? stepId = some b) : Live store b

/-- No two names of the store lead to one object, and every alias is an item. -/
structure Separated (store : ObjectStore) : Prop where
  live_lt : ∀ {a}, store.Live a → a < store.next
  record_inj : ∀ {k k' a}, store.runs.get? k = some a → store.runs.get? k' = some a → k = k'
  actions_inj : ∀ {k k' a a'}, store.runs.get? k = some a → store.runs.get? k' = some a' →
    (store.record a).participantActions = (store.record a').participantActions → k = k'
  action_inj : ∀ {k k' a a' stepId stepId' b}, store.runs.get? k = some a →
    store.runs.get? k' = some a' → (store.items a).get? stepId = some b →
    (store.items a').get? stepId' = some b → k = k' ∧ stepId = stepId'
  alias_mem : ∀ {k a b}, store.runs.get? k = some a → (store.record a).participantAction = some b →
    ∃ stepId, (store.items a).get? stepId = some b

/-- The empty store shares nothing. -/
theorem separated_init : Separated init where
  live_lt := by
    rintro a (⟨hget⟩ | ⟨hget⟩ | ⟨hget, _⟩) <;> cases hget
  record_inj := fun hget => by cases hget
  actions_inj := fun hget => by cases hget
  action_inj := fun hget => by cases hget
  alias_mem := fun hget => by cases hget

/-! ## Calls that only make objects -/

/-- The objects that were there are as they were, and the store holds the same ones. -/
structure Grows (store store' : ObjectStore) : Prop where
  next_le : store.next ≤ store'.next
  action : ∀ {a}, a < store.next → store'.action a = store.action a
  actions : ∀ {a}, a < store.next → store'.actions a = store.actions a
  record : ∀ {a}, a < store.next → store'.record a = store.record a
  runs : store'.runs = store.runs
  activeRunId : store'.activeRunId = store.activeRunId

theorem Grows.refl (store : ObjectStore) : Grows store store :=
  ⟨Nat.le_refl _, fun _ => rfl, fun _ => rfl, fun _ => rfl, rfl, rfl⟩

/-- Growing twice is growing. -/
theorem Grows.trans (h : Grows store store') (h' : Grows store' store'') : Grows store store'' where
  next_le := Nat.le_trans h.next_le h'.next_le
  action := fun ha => (h'.action (Nat.lt_of_lt_of_le ha h.next_le)).trans (h.action ha)
  actions := fun ha => (h'.actions (Nat.lt_of_lt_of_le ha h.next_le)).trans (h.actions ha)
  record := fun ha => (h'.record (Nat.lt_of_lt_of_le ha h.next_le)).trans (h.record ha)
  runs := h'.runs.trans h.runs
  activeRunId := h'.activeRunId.trans h.activeRunId

/-- Allocating an action grows the store. -/
theorem grows_newAction (store : ObjectStore) (action : ParticipantAction) :
    Grows store (store.newAction action).2 where
  next_le := Nat.le_succ _
  action := fun ha => Function.update_of_ne (Nat.ne_of_lt ha) _ _
  actions := fun _ => rfl
  record := fun _ => rfl
  runs := rfl
  activeRunId := rfl

/-- Allocating a dictionary of actions grows the store. -/
theorem grows_newActions (store : ObjectStore) (actions : Dict String Address) :
    Grows store (store.newActions actions).2 where
  next_le := Nat.le_succ _
  action := fun _ => rfl
  actions := fun ha => Function.update_of_ne (Nat.ne_of_lt ha) _ _
  record := fun _ => rfl
  runs := rfl
  activeRunId := rfl

/-- Allocating a record grows the store. -/
theorem grows_newRecord (store : ObjectStore) (record : RecordObject) :
    Grows store (store.newRecord record).2 where
  next_le := Nat.le_succ _
  action := fun _ => rfl
  actions := fun _ => rfl
  record := fun ha => Function.update_of_ne (Nat.ne_of_lt ha) _ _
  runs := rfl
  activeRunId := rfl

/-- Copying an action grows the store. -/
theorem grows_snapshotParticipantAction (store : ObjectStore) (source : Option Address) :
    Grows store (store.snapshotParticipantAction source).2 := by
  cases source with
  | none => exact .refl store
  | some a => exact grows_newAction store _

/-- Copying some items grows the store. -/
theorem grows_foldl_snapshotItem (items : List (String × Address))
    (copied : ObjectStore × Dict String Address) :
    Grows copied.1 (items.foldl snapshotItem copied).1 := by
  induction items generalizing copied with
  | nil => exact .refl _
  | cons item items ih => exact (grows_newAction copied.1 _).trans (ih (snapshotItem copied item))

theorem grows_snapshotParticipantActions (store : ObjectStore) (actions : Dict String Address) :
    Grows store (store.snapshotParticipantActions actions).2 :=
  (grows_foldl_snapshotItem actions.entries (store, Dict.empty)).trans (grows_newActions _ _)

/-- Copying a record grows the store. -/
theorem grows_snapshotRecordLocked (store : ObjectStore) (a : Address) :
    Grows store (store.snapshotRecordLocked a).2 :=
  ((grows_snapshotParticipantActions store _).trans
    (grows_snapshotParticipantAction _ _)).trans (grows_newRecord _ _)

/-- Reading a run grows the store. -/
theorem grows_getRun (store : ObjectStore) (runId : String) :
    Grows store (store.getRun runId).2 := by
  unfold getRun
  split
  · exact .refl store
  · exact grows_snapshotRecordLocked store _

/-- Reading the action of a run grows the store. -/
theorem grows_getParticipantAction (store : ObjectStore) (runId : String) :
    Grows store (store.getParticipantAction runId).2 := by
  unfold getParticipantAction
  split
  · exact .refl store
  · exact grows_snapshotParticipantAction store _

/-- Reading the actions of a run grows the store. -/
theorem grows_getParticipantActions (store : ObjectStore) (runId : String) :
    Grows store (store.getParticipantActions runId).2 := by
  unfold getParticipantActions
  split
  · exact .refl store
  · exact grows_snapshotParticipantActions store _

/-! ### What follows for the store -/

theorem Separated.record_lt (hsep : Separated store) (hget : store.runs.get? runId = some a) :
    a < store.next :=
  hsep.live_lt (.record hget)

theorem Separated.actions_lt (hsep : Separated store) (hget : store.runs.get? runId = some a) :
    (store.record a).participantActions < store.next :=
  hsep.live_lt (.actions hget)

theorem Grows.items_eq (h : Grows store store') (hsep : Separated store)
    (hget : store.runs.get? runId = some a) : store'.items a = store.items a := by
  rw [items, h.record (hsep.record_lt hget), h.actions (hsep.actions_lt hget), items]

/-- Growing makes nothing live. -/
theorem Grows.live (h : Grows store store') (hsep : Separated store) (hlive : store'.Live a) :
    store.Live a := by
  cases hlive with
  | record hget =>
    rw [h.runs] at hget
    exact .record hget
  | actions hget =>
    rw [h.runs] at hget
    rw [h.record (hsep.record_lt hget)]
    exact .actions hget
  | action hget hitem =>
    rw [h.runs] at hget
    rw [h.items_eq hsep hget] at hitem
    exact .action hget hitem

/-- Growing keeps the objects of runs apart. -/
theorem Grows.separated (h : Grows store store') (hsep : Separated store) : Separated store' where
  live_lt := fun hlive => Nat.lt_of_lt_of_le (hsep.live_lt (h.live hsep hlive)) h.next_le
  record_inj := by
    rw [h.runs]
    exact hsep.record_inj
  actions_inj := by
    intro k k' a a' hget hget' heq
    rw [h.runs] at hget hget'
    rw [h.record (hsep.record_lt hget), h.record (hsep.record_lt hget')] at heq
    exact hsep.actions_inj hget hget' heq
  action_inj := by
    intro k k' a a' stepId stepId' b hget hget' hitem hitem'
    rw [h.runs] at hget hget'
    rw [h.items_eq hsep hget] at hitem
    rw [h.items_eq hsep hget'] at hitem'
    exact hsep.action_inj hget hget' hitem hitem'
  alias_mem := by
    intro k a b hget halias
    rw [h.runs] at hget
    rw [h.record (hsep.record_lt hget)] at halias
    rw [h.items_eq hsep hget]
    exact hsep.alias_mem hget halias

/-- A record reads the same when its own attributes, its items and the actions it
    leads to are the same. -/
theorem readRecord_congr (hrecord : store'.record a = store.record a)
    (hitems : store'.items a = store.items a)
    (haction : ∀ stepId b, (store.items a).get? stepId = some b →
      store'.action b = store.action b)
    (halias : ∀ b, (store.record a).participantAction = some b →
      store'.action b = store.action b) :
    store'.readRecord a = store.readRecord a := by
  have hdict : (store'.actions (store.record a).participantActions).mapValues store'.action =
      (store.actions (store.record a).participantActions).mapValues store.action := by
    rw [items, items, hrecord] at hitems
    rw [hitems]
    exact Dict.mapValues_congr haction
  have hopt : (store.record a).participantAction.map store'.action =
      (store.record a).participantAction.map store.action := by
    cases h : (store.record a).participantAction with
    | none => rfl
    | some b => rw [Option.map_some, Option.map_some, halias b h]
  simp only [readRecord, hrecord, hdict, hopt]

/-- Growing leaves what is read of a run as it is. -/
theorem Grows.readRecord_eq (h : Grows store store') (hsep : Separated store)
    (hget : store.runs.get? runId = some a) : store'.readRecord a = store.readRecord a := by
  apply readRecord_congr (h.record (hsep.record_lt hget)) (h.items_eq hsep hget)
  · intro stepId b hitem
    exact h.action (hsep.live_lt (.action hget hitem))
  · intro b halias
    obtain ⟨stepId, hitem⟩ := hsep.alias_mem hget halias
    exact h.action (hsep.live_lt (.action hget hitem))

/-- Growing leaves the view as it is. -/
theorem Grows.view_eq (h : Grows store store') (hsep : Separated store) :
    store'.view = store.view := by
  simp only [view, h.runs, h.activeRunId, RunStore.mk.injEq, and_true]
  exact Dict.mapValues_congr fun _ _ hget => h.readRecord_eq hsep hget

/-! ## Calls that write the objects of one run -/

/-- Distinct step ids have distinct actions. -/
def ItemsDistinct (store : ObjectStore) (a : Address) : Prop :=
  ∀ {stepId stepId' b}, (store.items a).get? stepId = some b →
    (store.items a).get? stepId' = some b → stepId = stepId'

/-- Only the record at `a`, its dictionary and the actions in it are written, and
    an action that enters the dictionary is a new one. -/
structure Writes (store : ObjectStore) (a : Address) (store' : ObjectStore) : Prop where
  next_le : store.next ≤ store'.next
  runs : store'.runs = store.runs
  record : ∀ {b}, b < store.next → b ≠ a → store'.record b = store.record b
  participantActions : (store'.record a).participantActions = (store.record a).participantActions
  actions : ∀ {d}, d < store.next → d ≠ (store.record a).participantActions →
    store'.actions d = store.actions d
  action : ∀ {b}, b < store.next → (∀ stepId, (store.items a).get? stepId ≠ some b) →
    store'.action b = store.action b
  item : ∀ {stepId b}, (store'.items a).get? stepId = some b →
    (store.items a).get? stepId = some b ∨ (store.next ≤ b ∧ b < store'.next)
  distinct : store.ItemsDistinct a → store'.ItemsDistinct a

/-- Writing twice to a run is writing to it. -/
theorem Writes.trans (h : Writes store a store') (h' : Writes store' a store'') :
    Writes store a store'' where
  next_le := Nat.le_trans h.next_le h'.next_le
  runs := h'.runs.trans h.runs
  record := fun hb hne => (h'.record (Nat.lt_of_lt_of_le hb h.next_le) hne).trans (h.record hb hne)
  participantActions := h'.participantActions.trans h.participantActions
  actions := fun hd hne => by
    rw [h'.actions (Nat.lt_of_lt_of_le hd h.next_le) (by rwa [h.participantActions]),
      h.actions hd hne]
  action := fun hb hitem => by
    rw [h'.action (Nat.lt_of_lt_of_le hb h.next_le), h.action hb hitem]
    intro stepId hget
    rcases h.item hget with hget | hfresh
    · exact hitem stepId hget
    · exact absurd hb (Nat.not_lt.mpr hfresh.1)
  item := fun hget => by
    rcases h'.item hget with hget | hfresh
    · rcases h.item hget with hget | hfresh
      · exact .inl hget
      · exact .inr ⟨hfresh.1, Nat.lt_of_lt_of_le hfresh.2 h'.next_le⟩
    · exact .inr ⟨Nat.le_trans h.next_le hfresh.1, hfresh.2⟩
  distinct := fun hdistinct => h'.distinct (h.distinct hdistinct)

/-- Writing the fields of a record writes to its run. -/
theorem writes_writeRecord (store : ObjectStore) (a : Address) {record : RecordObject}
    (hrecord : record.participantActions = (store.record a).participantActions) :
    Writes store a (store.writeRecord a record) := by
  have hsame : ((store.writeRecord a record).record a).participantActions =
      (store.record a).participantActions := by
    simp [writeRecord, hrecord]
  have hitems : (store.writeRecord a record).items a = store.items a := by
    rw [items, hsame]
    rfl
  exact
    { next_le := Nat.le_refl _
      runs := rfl
      record := fun _ hne => Function.update_of_ne hne _ _
      participantActions := hsame
      actions := fun _ _ => rfl
      action := fun _ _ => rfl
      item := fun hget => by
        rw [hitems] at hget
        exact .inl hget
      distinct := fun hdistinct => by
        unfold ItemsDistinct
        rw [hitems]
        exact hdistinct }

/-- Items of the run's dictionary may be dropped. -/
theorem writes_writeActions (store : ObjectStore) (a : Address) {actions : Dict String Address}
    (hactions : ∀ stepId b, actions.get? stepId = some b → (store.items a).get? stepId = some b) :
    Writes store a (store.writeActions (store.record a).participantActions actions) := by
  have hitems : (store.writeActions (store.record a).participantActions actions).items a =
      actions := by
    simp [items, writeActions]
  exact
    { next_le := Nat.le_refl _
      runs := rfl
      record := fun _ _ => rfl
      participantActions := rfl
      actions := fun _ hne => Function.update_of_ne hne _ _
      action := fun _ _ => rfl
      item := fun hget => by
        rw [hitems] at hget
        exact .inl (hactions _ _ hget)
      distinct := fun hdistinct => by
        unfold ItemsDistinct
        rw [hitems]
        intro stepId stepId' b hget hget'
        exact hdistinct (hactions _ _ hget) (hactions _ _ hget') }

/-- Writing an action of a run writes to the run. -/
theorem writes_writeAction (store : ObjectStore) (a : Address) {stepId : String}
    (hitem : (store.items a).get? stepId = some b) (action : ParticipantAction) :
    Writes store a (store.writeAction b action) where
  next_le := Nat.le_refl _
  runs := rfl
  record := fun _ _ => rfl
  participantActions := rfl
  actions := fun _ _ => rfl
  action := fun _ hne => Function.update_of_ne (by
    rintro rfl
    exact hne stepId hitem) _ _
  item := fun hget => .inl hget
  distinct := fun hdistinct => hdistinct

/-- A new action is put under `stepId`. -/
def insertAction (store : ObjectStore) (a : Address) (stepId : String)
    (action : ParticipantAction) : ObjectStore :=
  (store.newAction action).2.writeActions (store.record a).participantActions
    ((store.items a).set stepId store.next)

/-- An inserted action is the item of its step. -/
theorem items_insertAction (store : ObjectStore) (a : Address) (stepId : String)
    (action : ParticipantAction) :
    (store.insertAction a stepId action).items a = (store.items a).set stepId store.next := by
  simp [items, insertAction, writeActions, newAction]

/-- Inserting an action of a run writes to the run. -/
theorem writes_insertAction (store : ObjectStore) (a : Address) (stepId : String)
    (action : ParticipantAction)
    (hlt : ∀ stepId b, (store.items a).get? stepId = some b → b < store.next) :
    Writes store a (store.insertAction a stepId action) where
  next_le := Nat.le_succ _
  runs := rfl
  record := fun _ _ => rfl
  participantActions := rfl
  actions := fun _ hne => Function.update_of_ne hne _ _
  action := fun hb _ => Function.update_of_ne (Nat.ne_of_lt hb) _ _
  item := fun {stepId' b} hget => by
    rw [items_insertAction, Dict.get?_set] at hget
    split at hget
    · obtain rfl := Option.some.inj hget
      exact .inr ⟨Nat.le_refl _, Nat.lt_succ_self _⟩
    · exact .inl hget
  distinct := fun hdistinct => by
    unfold ItemsDistinct
    rw [items_insertAction]
    intro stepId₁ stepId₂ b hget₁ hget₂
    rw [Dict.get?_set] at hget₁ hget₂
    split at hget₁ <;> split at hget₂
    · simp_all
    · obtain rfl := Option.some.inj hget₁
      exact absurd (hlt _ _ hget₂) (Nat.lt_irrefl _)
    · obtain rfl := Option.some.inj hget₂
      exact absurd (hlt _ _ hget₁) (Nat.lt_irrefl _)
    · exact hdistinct hget₁ hget₂

theorem writes_syncLegacyParticipantActionLocked (store : ObjectStore) (a : Address) :
    Writes store a (store.syncLegacyParticipantActionLocked a) :=
  writes_writeRecord store a rfl

/-- Clearing the actions of a run writes to the run. -/
theorem writes_clearParticipantActions (store : ObjectStore) (a : Address) :
    Writes store a (store.clearParticipantActions a) :=
  (writes_writeActions store a fun _ _ hget => by simp at hget).trans
    (writes_writeRecord _ a rfl)

/-! ### What follows for the store -/

section Writes

variable (h : Writes store a store') (hsep : Separated store)
  (hget : store.runs.get? runId = some a)

include h hsep hget

/-- Writing to a run leaves the records of other runs as they are. -/
theorem Writes.record_other {k : String} {a' : Address} (hget' : store.runs.get? k = some a')
    (hne : k ≠ runId) : store'.record a' = store.record a' := by
  apply h.record (hsep.record_lt hget')
  rintro rfl
  exact hne (hsep.record_inj hget' hget)

/-- Writing to a run leaves the items of other runs as they are. -/
theorem Writes.items_other {k : String} {a' : Address} (hget' : store.runs.get? k = some a')
    (hne : k ≠ runId) : store'.items a' = store.items a' := by
  rw [items, h.record_other hsep hget hget' hne, h.actions (hsep.actions_lt hget'), items]
  intro heq
  exact hne (hsep.actions_inj hget' hget heq)

/-- Writing makes only new objects live. -/
theorem Writes.live {b : Address} (hlive : store'.Live b) :
    store.Live b ∨ (store.next ≤ b ∧ b < store'.next) := by
  cases hlive with
  | record hget' =>
    rw [h.runs] at hget'
    exact .inl (.record hget')
  | @actions k a' hget' =>
    rw [h.runs] at hget'
    left
    by_cases hk : k = runId
    · subst hk
      obtain rfl := Option.some.inj (hget.symm.trans hget')
      rw [h.participantActions]
      exact .actions hget
    · rw [h.record_other hsep hget hget' hk]
      exact .actions hget'
  | @action k stepId a' _ hget' hitem =>
    rw [h.runs] at hget'
    by_cases hk : k = runId
    · subst hk
      obtain rfl := Option.some.inj (hget.symm.trans hget')
      rcases h.item hitem with hitem | hfresh
      · exact .inl (.action hget hitem)
      · exact .inr hfresh
    · rw [h.items_other hsep hget hget' hk] at hitem
      exact .inl (.action hget' hitem)

/-- Writing keeps the objects of runs apart if the legacy action is one of the run's. -/
theorem Writes.separated
    (halias : ∀ {b}, (store'.record a).participantAction = some b →
      ∃ stepId, (store'.items a).get? stepId = some b) : Separated store' where
  live_lt := fun hlive => by
    rcases h.live hsep hget hlive with hlive | hfresh
    · exact Nat.lt_of_lt_of_le (hsep.live_lt hlive) h.next_le
    · exact hfresh.2
  record_inj := by
    rw [h.runs]
    exact hsep.record_inj
  actions_inj := by
    intro k k' a₁ a₂ hget₁ hget₂ heq
    have hsame : ∀ {k a'}, store.runs.get? k = some a' →
        (store'.record a').participantActions = (store.record a').participantActions := by
      intro k a' hget'
      by_cases hk : k = runId
      · subst hk
        obtain rfl := Option.some.inj (hget.symm.trans hget')
        exact h.participantActions
      · rw [h.record_other hsep hget hget' hk]
    rw [h.runs] at hget₁ hget₂
    rw [hsame hget₁, hsame hget₂] at heq
    exact hsep.actions_inj hget₁ hget₂ heq
  action_inj := by
    intro k k' a₁ a₂ stepId stepId' b hget₁ hget₂ hitem₁ hitem₂
    rw [h.runs] at hget₁ hget₂
    -- an item of another run is an old action, one of this run an old or a new one
    have hcross : ∀ {k a' stepId stepId' b}, store.runs.get? k = some a' → k ≠ runId →
        (store'.items a').get? stepId = some b → (store'.items a).get? stepId' ≠ some b := by
      intro k a' stepId stepId' b hget' hk hitem hitem'
      rw [h.items_other hsep hget hget' hk] at hitem
      rcases h.item hitem' with hitem' | hfresh
      · exact hk (hsep.action_inj hget' hget hitem hitem').1
      · exact absurd (hsep.live_lt (.action hget' hitem)) (Nat.not_lt.mpr hfresh.1)
    by_cases hk : k = runId <;> by_cases hk' : k' = runId
    · subst hk hk'
      obtain rfl := Option.some.inj (hget.symm.trans hget₁)
      obtain rfl := Option.some.inj (hget.symm.trans hget₂)
      exact ⟨rfl, h.distinct (fun h₁ h₂ => (hsep.action_inj hget hget h₁ h₂).2) hitem₁ hitem₂⟩
    · subst hk
      obtain rfl := Option.some.inj (hget.symm.trans hget₁)
      exact absurd hitem₁ (hcross hget₂ hk' hitem₂)
    · subst hk'
      obtain rfl := Option.some.inj (hget.symm.trans hget₂)
      exact absurd hitem₂ (hcross hget₁ hk hitem₁)
    · rw [h.items_other hsep hget hget₁ hk] at hitem₁
      rw [h.items_other hsep hget hget₂ hk'] at hitem₂
      exact hsep.action_inj hget₁ hget₂ hitem₁ hitem₂
  alias_mem := by
    intro k a' b hget' hb
    rw [h.runs] at hget'
    by_cases hk : k = runId
    · subst hk
      obtain rfl := Option.some.inj (hget.symm.trans hget')
      exact halias hb
    · rw [h.record_other hsep hget hget' hk] at hb
      rw [h.items_other hsep hget hget' hk]
      exact hsep.alias_mem hget' hb

/-- The other runs read as before. -/
theorem Writes.readRecord_other {k : String} {a' : Address} (hget' : store.runs.get? k = some a')
    (hne : k ≠ runId) : store'.readRecord a' = store.readRecord a' := by
  have haction : ∀ stepId b, (store.items a').get? stepId = some b →
      store'.action b = store.action b := by
    intro stepId b hitem
    apply h.action (hsep.live_lt (.action hget' hitem))
    intro stepId' hitem'
    exact hne (hsep.action_inj hget' hget hitem hitem').1
  apply readRecord_congr (h.record_other hsep hget hget' hne) (h.items_other hsep hget hget' hne)
    haction
  intro b halias
  obtain ⟨stepId, hitem⟩ := hsep.alias_mem hget' halias
  exact haction stepId b hitem

/-- Writing to a run changes the view at that run. -/
theorem Writes.view_runs :
    store'.view.runs = store.view.runs.set runId (store'.readRecord a) := by
  simp only [view, h.runs]
  exact Dict.mapValues_eq_set hget fun k a' hget' hne => h.readRecord_other hsep hget hget' hne

end Writes

/-! ## What the writes do to the value read -/

/-- The oldest pending action is the same one by address and by value. -/
theorem map_firstPendingActionLocked (store : ObjectStore) (a : Address) :
    (store.firstPendingActionLocked a).map store.action =
      (store.readRecord a).firstPendingActionLocked := by
  unfold firstPendingActionLocked RunRecord.firstPendingActionLocked
  simp only [readRecord, Dict.values_mapValues, List.filter_map, Function.comp_def]
  split
  · rename_i hnil
    rw [hnil]
    rfl
  · rename_i action actions hcons
    rw [hcons]
    simp only [List.map_cons, Option.map_some, List.foldl_map, Option.some.injEq]
    refine (List.foldl_hom store.action fun best next => ?_).symm
    split <;> rfl

/-- The oldest pending action is an item. -/
theorem firstPendingActionLocked_mem (h : store.firstPendingActionLocked a = some b) :
    ∃ stepId, (store.items a).get? stepId = some b := by
  have hfold : ∀ (actions : List Address) (action : Address),
      actions.foldl (fun best next =>
        if (store.action next).before (store.action best) then next else best) action ∈
          action :: actions := by
    intro actions
    induction actions with
    | nil => simp
    | cons next rest ih =>
      intro action
      rw [List.foldl_cons]
      rcases List.mem_cons.mp (ih (if (store.action next).before (store.action action) then next
        else action)) with heq | hmem
      · rw [heq]
        split <;> simp
      · exact List.mem_cons_of_mem _ (List.mem_cons_of_mem _ hmem)
  unfold firstPendingActionLocked at h
  split at h
  · cases h
  · rename_i action actions hcons
    rw [Option.some.injEq] at h
    subst h
    have hmem := hfold actions action
    rw [← hcons, List.mem_filter] at hmem
    exact Dict.mem_values_iff.mp hmem.1

/-- What is read after choosing the legacy action is the record with it chosen. -/
theorem readRecord_syncLegacyParticipantActionLocked (store : ObjectStore) (a : Address) :
    (store.syncLegacyParticipantActionLocked a).readRecord a =
      (store.readRecord a).syncLegacyParticipantActionLocked := by
  rw [RunRecord.syncLegacyParticipantActionLocked, ← map_firstPendingActionLocked]
  simp [syncLegacyParticipantActionLocked, readRecord, writeRecord]

/-- What is read after clearing the actions is the record with none. -/
theorem readRecord_clearParticipantActions (store : ObjectStore) (a : Address) :
    (store.clearParticipantActions a).readRecord a =
      (store.readRecord a).clearParticipantActions := by
  simp [clearParticipantActions, RunRecord.clearParticipantActions, readRecord, writeRecord,
    writeActions]

/-- The legacy action that is chosen is one of the run's actions. -/
theorem alias_syncLegacyParticipantActionLocked (store : ObjectStore) (a : Address)
    (h : ((store.syncLegacyParticipantActionLocked a).record a).participantAction = some b) :
    ∃ stepId, ((store.syncLegacyParticipantActionLocked a).items a).get? stepId = some b := by
  have hfirst : store.firstPendingActionLocked a = some b := by
    simpa [syncLegacyParticipantActionLocked, writeRecord] using h
  have hitems : (store.syncLegacyParticipantActionLocked a).items a = store.items a := by
    simp [items, syncLegacyParticipantActionLocked, writeRecord]
  rw [hitems]
  exact firstPendingActionLocked_mem hfirst

theorem alias_clearParticipantActions (store : ObjectStore) (a : Address) :
    ((store.clearParticipantActions a).record a).participantAction = none := by
  simp [clearParticipantActions, writeRecord]

/-- What is read after inserting an action is the record with the action. -/
theorem readRecord_insertAction (store : ObjectStore) (a : Address) (stepId : String)
    (action : ParticipantAction)
    (hlt : ∀ stepId b, (store.items a).get? stepId = some b → b < store.next) :
    ((store.insertAction a stepId action).readRecord a).syncLegacyParticipantActionLocked =
      { store.readRecord a with participantActions :=
          (store.readRecord a).participantActions.set stepId action
        }.syncLegacyParticipantActionLocked := by
  have hdict : ((store.items a).set stepId store.next).mapValues
      (Function.update store.action store.next action) =
        ((store.items a).mapValues store.action).set stepId action := by
    rw [Dict.mapValues_set, Function.update_self]
    congr 1
    exact Dict.mapValues_congr fun stepId' b hget =>
      Function.update_of_ne (Nat.ne_of_lt (hlt stepId' b hget)) _ _
  simp only [items] at hdict
  simp [RunRecord.syncLegacyParticipantActionLocked, RunRecord.firstPendingActionLocked,
    readRecord, insertAction, newAction, writeActions, items, hdict]

/-- What is read after writing an action is the record with the action written. -/
theorem readRecord_writeAction (store : ObjectStore) (a : Address) {stepId : String}
    (hdistinct : store.ItemsDistinct a) (hitem : (store.items a).get? stepId = some b)
    (action : ParticipantAction) :
    ((store.writeAction b action).readRecord a).syncLegacyParticipantActionLocked =
      { store.readRecord a with participantActions :=
          (store.readRecord a).participantActions.set stepId action
        }.syncLegacyParticipantActionLocked := by
  have hdict : (store.items a).mapValues (Function.update store.action b action) =
      ((store.items a).mapValues store.action).set stepId action := by
    rw [Dict.mapValues_eq_set hitem, Function.update_self]
    intro stepId' b' hitem' hne
    apply Function.update_of_ne
    rintro rfl
    exact hne (hdistinct hitem' hitem)
  simp only [items] at hdict
  simp [RunRecord.syncLegacyParticipantActionLocked, RunRecord.firstPendingActionLocked,
    readRecord, writeAction, hdict]

/-! ## One call -/

/-- What a call does to the value-level store. -/
def Call.on (store : RunStore) : Call → RunStore
  | .op method => store.after method
  | .getParticipantActions _ => store
  | .reset => RunStore.init

/-- Objects the store does not hold are not written and not picked up. -/
structure Frame (store store' : ObjectStore) : Prop where
  next_le : store.next ≤ store'.next
  action : ∀ {a}, a < store.next → ¬ store.Live a → store'.action a = store.action a
  actions : ∀ {a}, a < store.next → ¬ store.Live a → store'.actions a = store.actions a
  record : ∀ {a}, a < store.next → ¬ store.Live a → store'.record a = store.record a
  live : ∀ {a}, store'.Live a → store.Live a ∨ store.next ≤ a

/-- The call keeps the invariant, writes the store's own objects only and does to
    the values what the value-level method does. -/
structure Refines (store : ObjectStore) (call : Call) (store' : ObjectStore) : Prop where
  separated : Separated store'
  frame : Frame store store'
  view : store'.view = call.on store.view

/-- A call that only grows the store refines one that leaves the view alone. -/
theorem Grows.refines {call : Call} (h : Grows store store') (hsep : Separated store)
    (hon : call.on store.view = store.view) : Refines store call store' where
  separated := h.separated hsep
  frame := ⟨h.next_le, fun ha _ => h.action ha, fun ha _ => h.actions ha, fun ha _ => h.record ha,
    fun hlive => .inl (h.live hsep hlive)⟩
  view := (h.view_eq hsep).trans hon.symm

/-- Writing to a run is framed: other runs and the bookkeeping stay. -/
theorem Writes.frame (h : Writes store a store') (hsep : Separated store)
    (hget : store.runs.get? runId = some a) : Frame store store' where
  next_le := h.next_le
  action := fun hb hdead => h.action hb fun _ hitem => hdead (.action hget hitem)
  actions := fun hd hdead => h.actions hd fun heq => hdead (heq ▸ .actions hget)
  record := fun hb hdead => h.record hb fun heq => hdead (heq ▸ .record hget)
  live := fun hlive => (h.live hsep hget hlive).imp_right And.left

theorem get?_view (store : ObjectStore) (runId : String) :
    store.view.runs.get? runId = (store.runs.get? runId).map store.readRecord :=
  Dict.get?_mapValues _ _ _

/-- A write of the run's objects refines the call that assigns what is then read. -/
theorem Writes.refines {call : Call} (h : Writes store a store') (hsep : Separated store)
    (hget : store.runs.get? runId = some a)
    (halias : ∀ {b}, (store'.record a).participantAction = some b →
      ∃ stepId, (store'.items a).get? stepId = some b)
    (hon : call.on store.view =
      ⟨store.view.runs.set runId (store'.readRecord a), store'.activeRunId⟩) :
    Refines store call store' where
  separated := h.separated hsep hget halias
  frame := h.frame hsep hget
  view := by
    rw [hon, ← h.view_runs hsep hget]
    rfl

/-- `mark_running` refines its operation on records. -/
theorem refines_markRunning (hsep : Separated store) (runId : String) (now : Timestamp) :
    Refines store (.op (.markRunning runId now)) (store.markRunning runId now) := by
  unfold markRunning
  cases hget : store.runs.get? runId with
  | none =>
    refine (Grows.refl store).refines hsep ?_
    simp [Call.on, RunStore.after, RunStore.Op.call, RunStore.markRunning, get?_view, hget]
  | some a =>
    have hwrites : Writes store a (store.writeRecord a
        { store.record a with status := .running, startedAt := some now }) :=
      writes_writeRecord store a rfl
    refine hwrites.refines hsep hget ?_ ?_
    · intro b hb
      have hitems : (store.writeRecord a
          { store.record a with status := .running, startedAt := some now }).items a =
            store.items a := by
        simp [items, writeRecord]
      rw [hitems]
      exact hsep.alias_mem hget (by simpa [writeRecord] using hb)
    · simp [Call.on, RunStore.after, RunStore.Op.call, RunStore.markRunning, hget, writeRecord,
        readRecord, view]

/-- Releasing the slot is no write to a record. -/
theorem Writes.releaseActive (h : Writes store a store') (runId : String) :
    Writes store a (store'.releaseActive runId) := by
  unfold ObjectStore.releaseActive
  split
  · exact ⟨h.next_le, h.runs, h.record, h.participantActions, h.actions, h.action, h.item,
      h.distinct⟩
  · exact h

/-- Releasing the slot leaves the records as they are. -/
@[simp] theorem record_releaseActive (store : ObjectStore) (runId : String) :
    (store.releaseActive runId).record = store.record := by
  unfold ObjectStore.releaseActive
  split <;> rfl

/-- Releasing the slot leaves what is read of a run as it is. -/
@[simp] theorem readRecord_releaseActive (store : ObjectStore) (runId : String) (a : Address) :
    (store.releaseActive runId).readRecord a = store.readRecord a := by
  unfold ObjectStore.releaseActive
  split <;> rfl

/-- The two terminal marks write a record, discard its actions and release the slot. -/
theorem refines_mark {call : Call} (hsep : Separated store)
    (hget : store.runs.get? runId = some a) {record : RecordObject}
    (hrecord : record.participantActions = (store.record a).participantActions)
    (hon : call.on store.view = RunStore.releaseActive ⟨store.view.runs.set runId
      ((store.writeRecord a record).readRecord a).clearParticipantActions, store.activeRunId⟩
        runId) :
    Refines store call
      (((store.writeRecord a record).clearParticipantActions a).releaseActive runId) := by
  have hwrites := ((writes_writeRecord store a hrecord).trans
    (writes_clearParticipantActions _ a)).releaseActive runId
  refine hwrites.refines hsep hget ?_ ?_
  · intro b hb
    rw [record_releaseActive, alias_clearParticipantActions] at hb
    cases hb
  · rw [hon, readRecord_releaseActive, readRecord_clearParticipantActions]
    by_cases hactive : store.activeRunId = some runId
    · simp [RunStore.releaseActive, ObjectStore.releaseActive, clearParticipantActions, writeRecord,
        writeActions, hactive]
    · simp [RunStore.releaseActive, ObjectStore.releaseActive, clearParticipantActions, writeRecord,
        writeActions, hactive]

/-- `mark_completed` refines its operation on records. -/
theorem refines_markCompleted (hsep : Separated store) (runId : String) (now : Timestamp)
    (result : Json) :
    Refines store (.op (.markCompleted runId now result))
      (store.markCompleted runId now result) := by
  unfold markCompleted
  cases hget : store.runs.get? runId with
  | none =>
    refine (Grows.refl store).refines hsep ?_
    simp [Call.on, RunStore.after, RunStore.Op.call, RunStore.markCompleted, get?_view, hget]
  | some a =>
    refine refines_mark hsep hget rfl ?_
    simp [Call.on, RunStore.after, RunStore.Op.call, RunStore.markCompleted, hget, writeRecord,
      readRecord, view]

/-- `mark_failed` refines its operation on records. -/
theorem refines_markFailed (hsep : Separated store) (runId : String) (now : Timestamp)
    (message : String) :
    Refines store (.op (.markFailed runId now message)) (store.markFailed runId now message) := by
  unfold markFailed
  cases hget : store.runs.get? runId with
  | none =>
    refine (Grows.refl store).refines hsep ?_
    simp [Call.on, RunStore.after, RunStore.Op.call, RunStore.markFailed, get?_view, hget]
  | some a =>
    refine refines_mark hsep hget rfl ?_
    simp [Call.on, RunStore.after, RunStore.Op.call, RunStore.markFailed, hget, writeRecord,
      readRecord, view]

/-- `set_participant_action` refines its operation on records. -/
theorem refines_setParticipantAction (hsep : Separated store) (runId stepId url : String)
    (now : Timestamp) :
    Refines store (.op (.setParticipantAction runId stepId url now))
      (store.setParticipantAction runId stepId url now) := by
  unfold setParticipantAction
  cases hget : store.runs.get? runId with
  | none =>
    refine (Grows.refl store).refines hsep ?_
    simp [Call.on, RunStore.after, RunStore.Op.call, RunStore.setParticipantAction, get?_view,
      hget]
  | some a =>
    have hlt : ∀ stepId b, (store.items a).get? stepId = some b → b < store.next :=
      fun _ _ hitem => hsep.live_lt (.action hget hitem)
    have hwrites := (writes_insertAction store a stepId
      { type := .psuAuthorizationUrl, stepId := stepId, url := url, status := .pending,
        createdAt := now } hlt).trans (writes_syncLegacyParticipantActionLocked _ a)
    refine hwrites.refines hsep hget (alias_syncLegacyParticipantActionLocked _ a) ?_
    rw [readRecord_syncLegacyParticipantActionLocked, readRecord_insertAction _ _ _ _ hlt]
    simp only [Call.on, RunStore.after, RunStore.Op.call, RunStore.setParticipantAction,
      EStateM.run_bind, EStateM.run_get, get?_view, hget, Option.map_some, EStateM.run_set]
    rfl

/-- `clear_participant_action` refines its operation on records. -/
theorem refines_clearParticipantAction (hsep : Separated store) (runId : String)
    (stepId : Option String) (now : Timestamp) :
    Refines store (.op (.clearParticipantAction runId stepId now))
      (store.clearParticipantAction runId stepId now) := by
  unfold clearParticipantAction
  cases hget : store.runs.get? runId with
  | none =>
    refine (Grows.refl store).refines hsep ?_
    simp [Call.on, RunStore.after, RunStore.Op.call, RunStore.clearParticipantAction, get?_view,
      hget]
  | some a =>
    cases stepId with
    | none =>
      refine (writes_clearParticipantActions store a).refines hsep hget ?_ ?_
      · intro b hb
        rw [alias_clearParticipantActions] at hb
        cases hb
      · rw [readRecord_clearParticipantActions]
        simp only [Call.on, RunStore.after, RunStore.Op.call, RunStore.clearParticipantAction,
          EStateM.run_bind, EStateM.run_get, get?_view, hget, Option.map_some, EStateM.run_set]
        rfl
    | some stepId =>
      have hread : (store.readRecord a).participantActions.get? stepId =
          ((store.items a).get? stepId).map store.action :=
        Dict.get?_mapValues _ _ _
      cases hitem : (store.items a).get? stepId with
      | none =>
        simp only [items] at hitem
        rw [items, hitem] at hread
        simp only [hitem]
        refine (Grows.refl store).refines hsep ?_
        simp [Call.on, RunStore.after, RunStore.Op.call, RunStore.clearParticipantAction, get?_view,
          hget, hread]
      | some b =>
        rw [hitem] at hread
        have hdistinct : store.ItemsDistinct a := fun h₁ h₂ => (hsep.action_inj hget hget h₁ h₂).2
        have hwrites := (writes_writeAction store a hitem
          { store.action b with status := .completed, completedAt := some now }).trans
            (writes_syncLegacyParticipantActionLocked _ a)
        simp only [items] at hitem
        simp only [hitem]
        refine hwrites.refines hsep hget (alias_syncLegacyParticipantActionLocked _ a) ?_
        rw [readRecord_syncLegacyParticipantActionLocked,
          readRecord_writeAction _ _ hdistinct hitem]
        simp only [Call.on, RunStore.after, RunStore.Op.call, RunStore.clearParticipantAction,
          EStateM.run_bind, EStateM.run_get, get?_view, hget, hread, Option.map_some,
          EStateM.run_set]
        rfl

/-! ### Forgetting runs -/

/-- The store forgets some of its runs; nothing is made or written. -/
structure Forgets (store store' : ObjectStore) : Prop where
  next : store'.next = store.next
  action : store'.action = store.action
  actions : store'.actions = store.actions
  record : store'.record = store.record
  runs : ∀ {k a}, store'.runs.get? k = some a → store.runs.get? k = some a

theorem Forgets.items_eq (h : Forgets store store') (a : Address) :
    store'.items a = store.items a := by
  rw [items, h.record, h.actions, items]

/-- Forgetting runs makes nothing live. -/
theorem Forgets.live (h : Forgets store store') (hlive : store'.Live a) : store.Live a := by
  cases hlive with
  | record hget => exact .record (h.runs hget)
  | actions hget =>
    rw [h.record]
    exact .actions (h.runs hget)
  | action hget hitem =>
    rw [h.items_eq] at hitem
    exact .action (h.runs hget) hitem

/-- Forgetting runs keeps the objects of the others apart. -/
theorem Forgets.separated (h : Forgets store store') (hsep : Separated store) :
    Separated store' where
  live_lt := fun hlive => by
    rw [h.next]
    exact hsep.live_lt (h.live hlive)
  record_inj := fun hget hget' => hsep.record_inj (h.runs hget) (h.runs hget')
  actions_inj := fun hget hget' heq => by
    rw [h.record] at heq
    exact hsep.actions_inj (h.runs hget) (h.runs hget') heq
  action_inj := fun hget hget' hitem hitem' => by
    rw [h.items_eq] at hitem hitem'
    exact hsep.action_inj (h.runs hget) (h.runs hget') hitem hitem'
  alias_mem := fun hget halias => by
    rw [h.record] at halias
    rw [h.items_eq]
    exact hsep.alias_mem (h.runs hget) halias

/-- Pruning forgets runs. -/
theorem forgets_pruneTerminalRecordsLocked (store : ObjectStore) :
    Forgets store store.pruneTerminalRecordsLocked := by
  simp only [pruneTerminalRecordsLocked]
  split
  · exact ⟨rfl, rfl, rfl, rfl, id⟩
  · refine ⟨rfl, rfl, rfl, rfl, fun hget => ?_⟩
    rw [Dict.get?_foldl_erase] at hget
    split at hget
    · cases hget
    · exact hget

theorem terminalIds_view (store : ObjectStore) : store.view.terminalIds = store.terminalIds := by
  simp [RunStore.terminalIds, terminalIds, view, Dict.mapValues, List.filter_map,
    Function.comp_def, readRecord]

/-- The view orders the terminal runs alike. -/
theorem finishedKey_view (store : ObjectStore) (runId : String) :
    store.view.finishedKey runId = store.finishedKey runId := by
  simp only [RunStore.finishedKey, finishedKey, get?_view, Option.bind_map]
  rfl

/-- Erasing ids and reading the records can be swapped. -/
theorem mapValues_foldl_erase (f : Address → RunRecord) (ids : List String)
    (runs : Dict String Address) :
    (ids.foldl Dict.erase runs).mapValues f = ids.foldl Dict.erase (runs.mapValues f) := by
  induction ids generalizing runs with
  | nil => rfl
  | cons runId ids ih => rw [List.foldl_cons, ih, Dict.mapValues_erase, List.foldl_cons]

/-- Pruning is pruning the view. -/
theorem view_pruneTerminalRecordsLocked (store : ObjectStore) :
    store.pruneTerminalRecordsLocked.view = store.view.pruneTerminalRecordsLocked := by
  simp only [RunStore.pruneTerminalRecordsLocked, pruneTerminalRecordsLocked, terminalIds_view,
    finishedKey_view]
  split
  · rfl
  · rw [view, mapValues_foldl_erase]
    rfl

/-! ### Creating a run -/

/-- The store with a new record in the active slot. -/
def insertRun (store : ObjectStore) (uuid : String) (record : RecordObject) : ObjectStore :=
  let (actions, store) := store.newActions Dict.empty
  let (a, store) := store.newRecord { record with participantActions := actions }
  { store with runs := store.runs.set uuid a, activeRunId := some uuid }

section InsertRun

variable (store) (uuid : String) {record : RecordObject} (hrecord : record.participantAction = none)

include hrecord

/-- A name of the new store leads to the new record or to an object it led to before. -/
theorem get?_insertRun (hsep : Separated store) {k : String}
    (hget : (store.insertRun uuid record).runs.get? k = some a) :
    (k = uuid ∧ a = store.next + 1 ∧
        ((store.insertRun uuid record).record a).participantActions = store.next ∧
        ((store.insertRun uuid record).record a).participantAction = none ∧
        (store.insertRun uuid record).items a = Dict.empty) ∨
      (store.runs.get? k = some a ∧ a < store.next ∧
        (store.insertRun uuid record).record a = store.record a ∧
        (store.insertRun uuid record).items a = store.items a) := by
  have hruns : (store.insertRun uuid record).runs = store.runs.set uuid (store.next + 1) := rfl
  rw [hruns, Dict.get?_set] at hget
  split at hget
  · rename_i hk
    obtain rfl := Option.some.inj hget
    exact .inl ⟨hk, rfl, by simp [insertRun, newRecord, newActions],
      by simp [insertRun, newRecord, newActions, hrecord],
      by simp [items, insertRun, newRecord, newActions]⟩
  · have ha := hsep.record_lt hget
    have hsame : (store.insertRun uuid record).record a = store.record a :=
      Function.update_of_ne (Nat.ne_of_lt (Nat.lt_succ_of_lt ha)) _ _
    refine .inr ⟨hget, ha, hsame, ?_⟩
    rw [items, hsame]
    exact Function.update_of_ne (Nat.ne_of_lt (hsep.actions_lt hget)) _ _

/-- Inserting a run makes only new objects live. -/
theorem live_insertRun (hsep : Separated store) (hlive : (store.insertRun uuid record).Live a) :
    store.Live a ∨ (store.next ≤ a ∧ a < (store.insertRun uuid record).next) := by
  have hnext : (store.insertRun uuid record).next = store.next + 2 := rfl
  cases hlive with
  | record hget =>
    rcases get?_insertRun store uuid hrecord hsep hget with ⟨-, rfl, -⟩ | ⟨hget, -⟩
    · exact .inr ⟨Nat.le_succ _, hnext ▸ Nat.lt_succ_self _⟩
    · exact .inl (.record hget)
  | actions hget =>
    rcases get?_insertRun store uuid hrecord hsep hget with ⟨-, -, hactions, -⟩ | ⟨hget, -, hsame, -⟩
    · rw [hactions, hnext]
      exact .inr ⟨Nat.le_refl _, Nat.lt_add_of_pos_right (by decide)⟩
    · rw [hsame]
      exact .inl (.actions hget)
  | action hget hitem =>
    rcases get?_insertRun store uuid hrecord hsep hget with ⟨-, -, -, -, hitems⟩ | ⟨hget, -, -, hitems⟩
    · rw [hitems, Dict.get?_empty] at hitem
      cases hitem
    · rw [hitems] at hitem
      exact .inl (.action hget hitem)

/-- Inserting a run keeps the objects of runs apart. -/
theorem separated_insertRun (hsep : Separated store) :
    Separated (store.insertRun uuid record) where
  live_lt := fun hlive => by
    rcases live_insertRun store uuid hrecord hsep hlive with hlive | hfresh
    · exact Nat.lt_of_lt_of_le (hsep.live_lt hlive) (Nat.le_add_right _ 2)
    · exact hfresh.2
  record_inj := fun hget hget' => by
    rcases get?_insertRun store uuid hrecord hsep hget with ⟨hk, heq, -⟩ | ⟨hget, hlt, -⟩ <;>
      rcases get?_insertRun store uuid hrecord hsep hget' with ⟨hk', heq', -⟩ | ⟨hget', hlt', -⟩
    · exact hk.trans hk'.symm
    · exact absurd hlt' (by rw [heq]; exact Nat.not_lt.mpr (Nat.le_succ _))
    · exact absurd hlt (by rw [heq']; exact Nat.not_lt.mpr (Nat.le_succ _))
    · exact hsep.record_inj hget hget'
  actions_inj := fun hget hget' heq => by
    rcases get?_insertRun store uuid hrecord hsep hget with
        ⟨hk, -, hactions, -⟩ | ⟨hget, -, hsame, -⟩ <;>
      rcases get?_insertRun store uuid hrecord hsep hget' with
        ⟨hk', -, hactions', -⟩ | ⟨hget', -, hsame', -⟩
    · exact hk.trans hk'.symm
    · rw [hactions, hsame'] at heq
      exact absurd heq.symm (Nat.ne_of_lt (hsep.actions_lt hget'))
    · rw [hsame, hactions'] at heq
      exact absurd heq (Nat.ne_of_lt (hsep.actions_lt hget))
    · rw [hsame, hsame'] at heq
      exact hsep.actions_inj hget hget' heq
  action_inj := fun hget hget' hitem hitem' => by
    rcases get?_insertRun store uuid hrecord hsep hget with
      ⟨-, -, -, -, hitems⟩ | ⟨hget, -, -, hitems⟩
    · rw [hitems, Dict.get?_empty] at hitem
      cases hitem
    · rcases get?_insertRun store uuid hrecord hsep hget' with
        ⟨-, -, -, -, hitems'⟩ | ⟨hget', -, -, hitems'⟩
      · rw [hitems', Dict.get?_empty] at hitem'
        cases hitem'
      · rw [hitems] at hitem
        rw [hitems'] at hitem'
        exact hsep.action_inj hget hget' hitem hitem'
  alias_mem := fun hget halias => by
    rcases get?_insertRun store uuid hrecord hsep hget with
      ⟨-, -, -, hnone, -⟩ | ⟨hget, -, hsame, hitems⟩
    · rw [hnone] at halias
      cases halias
    · rw [hsame] at halias
      rw [hitems]
      exact hsep.alias_mem hget halias

omit hrecord in
/-- Inserting a run adds it to the view. -/
theorem view_runs_insertRun (hsep : Separated store) :
    (store.insertRun uuid record).view.runs = store.view.runs.set uuid
      ((store.insertRun uuid record).readRecord (store.next + 1)) := by
  have hruns : (store.insertRun uuid record).runs = store.runs.set uuid (store.next + 1) := rfl
  have hothers : store.runs.mapValues (store.insertRun uuid record).readRecord =
      store.view.runs := by
    apply Dict.mapValues_congr
    intro k a hget
    have ha := hsep.record_lt hget
    have hsame : (store.insertRun uuid record).record a = store.record a :=
      Function.update_of_ne (Nat.ne_of_lt (Nat.lt_succ_of_lt ha)) _ _
    refine readRecord_congr hsame ?_ (fun _ _ _ => rfl) fun _ _ => rfl
    rw [items, hsame]
    exact Function.update_of_ne (Nat.ne_of_lt (hsep.actions_lt hget)) _ _
  rw [← hothers, ← Dict.mapValues_set, ← hruns]
  rfl

end InsertRun

/-- `create_run` refines its operation on records. -/
theorem refines_createRun (hsep : Separated store) (uuid : String) (now : Timestamp)
    (plannedSteps : List RunPlanStep) (planSnapshot validationResult : Option Json) :
    Refines store (.op (.createRun uuid now plannedSteps planSnapshot validationResult))
      (store.createRun uuid now plannedSteps planSnapshot validationResult) := by
  cases hactive : store.activeRunId with
  | some activeRunId =>
    have hsame : store.createRun uuid now plannedSteps planSnapshot validationResult = store := by
      simp only [createRun, hactive]
    rw [hsame]
    refine (Grows.refl store).refines hsep ?_
    have hview : store.view.activeRunId = some activeRunId := hactive
    simp only [Call.on, RunStore.after, RunStore.Op.call, RunStore.createRun, EStateM.run_bind,
      EStateM.run_get, hview]
    rfl
  | none =>
    let record : RecordObject :=
      { runId := uuid, status := .pending, createdAt := now, participantActions := store.next,
        plannedSteps := plannedSteps, planSnapshot := planSnapshot,
        validationResult := validationResult }
    have hcreate : store.createRun uuid now plannedSteps planSnapshot validationResult =
        (store.insertRun uuid record).pruneTerminalRecordsLocked := by
      simp only [createRun, hactive]
      rfl
    have hforgets := forgets_pruneTerminalRecordsLocked (store.insertRun uuid record)
    rw [hcreate]
    refine ⟨hforgets.separated (separated_insertRun store uuid rfl hsep), ?_, ?_⟩
    · -- objects from before are written by neither half
      refine ⟨?_, ?_, ?_, ?_, ?_⟩
      · rw [hforgets.next]
        exact Nat.le_add_right _ 2
      · intro a ha _
        rw [hforgets.action]
        rfl
      · intro a ha _
        rw [hforgets.actions]
        exact Function.update_of_ne (Nat.ne_of_lt ha) _ _
      · intro a ha _
        rw [hforgets.record]
        exact Function.update_of_ne (Nat.ne_of_lt (Nat.lt_succ_of_lt ha)) _ _
      · intro a hlive
        exact (live_insertRun store uuid rfl hsep (hforgets.live hlive)).imp_right And.left
    · have hview : store.view.activeRunId = none := hactive
      have hread : (store.insertRun uuid record).readRecord (store.next + 1) =
          { runId := uuid, status := .pending, createdAt := now, plannedSteps := plannedSteps,
            planSnapshot := planSnapshot, validationResult := validationResult } := by
        simp [readRecord, insertRun, newActions, newRecord, record]
      have hinsert : (store.insertRun uuid record).view = ⟨store.view.runs.set uuid
          { runId := uuid, status := .pending, createdAt := now, plannedSteps := plannedSteps,
            planSnapshot := planSnapshot, validationResult := validationResult }, some uuid⟩ := by
        rw [← hread, ← view_runs_insertRun store uuid hsep]
        rfl
      rw [view_pruneTerminalRecordsLocked, hinsert]
      simp only [Call.on, RunStore.after, RunStore.Op.call, RunStore.createRun, EStateM.run_bind,
        EStateM.run_get, hview, EStateM.run_set, EStateM.run_modify, EStateM.run_pure]

/-- `reset` refines its operation on records. -/
theorem refines_reset (hsep : Separated store) : Refines store .reset store.reset := by
  have hforgets : Forgets store store.reset :=
    ⟨rfl, rfl, rfl, rfl, fun hget => by cases hget⟩
  exact ⟨hforgets.separated hsep, ⟨Nat.le_refl _, fun _ _ => rfl, fun _ _ => rfl, fun _ _ => rfl,
    fun hlive => .inl (hforgets.live hlive)⟩, rfl⟩

/-- Every call refines its value-level method. -/
theorem refines_after (hsep : Separated store) (call : Call) :
    Refines store call (store.after call) := by
  cases call with
  | op method =>
    cases method with
    | createRun uuid now plannedSteps planSnapshot validationResult =>
      exact refines_createRun hsep uuid now plannedSteps planSnapshot validationResult
    | markRunning runId now => exact refines_markRunning hsep runId now
    | markCompleted runId now result => exact refines_markCompleted hsep runId now result
    | markFailed runId now message => exact refines_markFailed hsep runId now message
    | setParticipantAction runId stepId url now =>
      exact refines_setParticipantAction hsep runId stepId url now
    | clearParticipantAction runId stepId now =>
      exact refines_clearParticipantAction hsep runId stepId now
    | getRun runId => exact (grows_getRun store runId).refines hsep rfl
    | getParticipantAction runId => exact (grows_getParticipantAction store runId).refines hsep rfl
  | getParticipantActions runId => exact (grows_getParticipantActions store runId).refines hsep rfl
  | reset => exact refines_reset hsep

/-! ## Whole runs -/

/-- The objects of runs are apart after all calls. -/
theorem separated_exec (calls : List Call) : Separated (exec calls) := by
  induction calls using List.reverseRecOn with
  | nil => exact separated_init
  | append_singleton calls call ih =>
    rw [exec, List.foldl_append, List.foldl_cons, List.foldl_nil]
    exact (refines_after ih call).separated

/-- The objects and the values run in step. -/
theorem view_exec (calls : List Call) :
    (exec calls).view = calls.foldl Call.on RunStore.init := by
  induction calls using List.reverseRecOn with
  | nil => rfl
  | append_singleton calls call ih =>
    rw [List.foldl_append, ← ih, exec, List.foldl_append, List.foldl_cons, List.foldl_nil]
    exact (refines_after (separated_exec calls) call).view

end ObjectStore

end Conformance
