import Conformance.Native.PlanSnapshot
import Conformance.Spec.JsonAgreement

/-!
# What redaction removes

The redaction of a snapshot empties strings under sensitive keys, also in lists, and
the `value` member of objects there. It leaves every other scalar below a sensitive
key as it is, and changes nothing elsewhere.

## Key results

- `agreeOutside_safeJsonValue`: redaction changes nothing outside the sensitive keys
- `guardedScalars_safeJsonValue`: what it leaves under them
- `Neutral.safeJsonValue_editObject`: edits that it does not see
-/

namespace Conformance.PlanSnapshot

open PlanConfig PlanJson

section Values

variable (sensitive : String → Bool)

/-! ## What is under the sensitive keys -/

mutual

/-- The scalars that are held under a sensitive key, at any depth; `guarded` says that
    the value itself is. -/
def guardedScalars (guarded : Bool) : Json → List Json
  | .obj fields => guardedFields guarded fields
  | .arr items => guardedItems guarded items
  | value => if guarded then [value] else []

/-- The members of an object. -/
def guardedFields (guarded : Bool) : List (String × Json) → List Json
  | [] => []
  | (key, value) :: fields =>
    guardedScalars (guarded || sensitive key) value ++ guardedFields guarded fields

/-- The items of a list. -/
def guardedItems (guarded : Bool) : List Json → List Json
  | [] => []
  | item :: items => guardedScalars guarded item ++ guardedItems guarded items

end

mutual

/-- Whether everything that is held under a sensitive key in a value is something that
    redaction removes: a string right under a sensitive key, also in lists, or the `value`
    member of an object there. -/
def redactable (guarded : Bool) (key : String) : Json → Bool
  | .obj fields => redactableFields guarded (sensitive key) fields
  | .arr items => redactableItems guarded key items
  | .str text => !guarded || sensitive key || text = ""
  | _ => !guarded

/-- The members of an object. -/
def redactableFields (guarded hidesValue : Bool) : List (String × Json) → Bool
  | [] => true
  | (key, value) :: fields =>
    (hidesValue && key = "value" || redactable (guarded || sensitive key) key value) &&
      redactableFields guarded hidesValue fields

/-- The items of a list. -/
def redactableItems (guarded : Bool) (key : String) : List Json → Bool
  | [] => true
  | item :: items => redactable guarded key item && redactableItems guarded key items

end

/-! ## The functions on lists -/

/-- The members of an object are redacted one by one. -/
theorem safeJsonObject_eq (fields : JsonObject) :
    safeJsonObject sensitive fields =
      fields.map fun field => (field.1, safeJsonValue sensitive field.1 field.2) := by
  induction fields with
  | nil => rfl
  | cons field fields ih => rw [safeJsonObject, ih, List.map_cons]

/-- Redaction keeps the keys. -/
theorem keys_safeJsonObject (fields : JsonObject) :
    (safeJsonObject sensitive fields).map Prod.fst = fields.map Prod.fst := by
  rw [safeJsonObject_eq, List.map_map]
  rfl

/-- The items of a list are redacted one by one. -/
theorem safeJsonItems_eq (key : String) (items : List Json) :
    safeJsonItems sensitive key items = items.map (safeJsonValue sensitive key) := by
  induction items with
  | nil => rfl
  | cons item items ih => rw [safeJsonItems, ih, List.map_cons]

/-- The guarded scalars of members are those of each. -/
theorem guardedFields_eq (guarded : Bool) (fields : JsonObject) :
    guardedFields sensitive guarded fields = fields.flatMap fun field =>
      guardedScalars sensitive (guarded || sensitive field.1) field.2 := by
  induction fields with
  | nil => rfl
  | cons field fields ih => rw [guardedFields, ih, List.flatMap_cons]

/-- The guarded scalars of items are those of each. -/
theorem guardedItems_eq (guarded : Bool) (items : List Json) :
    guardedItems sensitive guarded items = items.flatMap (guardedScalars sensitive guarded) := by
  induction items with
  | nil => rfl
  | cons item items ih => rw [guardedItems, ih, List.flatMap_cons]

/-- Members are redactable when each is, or is a hidden value. -/
theorem redactableFields_iff {guarded hidesValue : Bool} {fields : JsonObject} :
    redactableFields sensitive guarded hidesValue fields = true ↔ ∀ field ∈ fields,
      (hidesValue = true ∧ field.1 = "value") ∨
        redactable sensitive (guarded || sensitive field.1) field.1 field.2 = true := by
  induction fields with
  | nil => simp [redactableFields]
  | cons field fields ih => simp [redactableFields, ih]

/-- Items are redactable when each is. -/
theorem redactableItems_iff {guarded : Bool} {key : String} {items : List Json} :
    redactableItems sensitive guarded key items = true ↔
      ∀ item ∈ items, redactable sensitive guarded key item = true := by
  induction items with
  | nil => simp [redactableItems]
  | cons item items ih => simp [redactableItems, ih]

/-! ## Redaction -/

variable {sensitive}

/-- Redaction changes nothing but what is held under sensitive keys. -/
theorem agreeOutside_safeJsonValue {key : String} (value : Json) (hkey : sensitive key = false) :
    Json.AgreeOutside sensitive value (safeJsonValue sensitive key value) := by
  induction value using Json.induction generalizing key with
  | null | bool _ | int _ | float _ => exact .refl _
  | str text =>
    rw [safeJsonValue, hkey]
    exact .refl _
  | arr items ih =>
    rw [safeJsonValue, safeJsonItems_eq]
    exact Json.agreeOutside_map _ fun item hitem => ih item hitem hkey
  | obj fields ih =>
    rw [safeJsonValue, hkey, Bool.false_and, if_neg Bool.false_ne_true, safeJsonObject_eq]
    exact Json.agreeOutside_mapFields (safeJsonValue sensitive) fun field hfield hname =>
      ih field hfield hname

/-- Redaction of an object changes nothing but what is held under sensitive keys. -/
theorem agreeOutside_safeJsonObject (fields : JsonObject) :
    Json.AgreeOutside sensitive (.obj fields) (.obj (safeJsonObject sensitive fields)) := by
  rw [safeJsonObject_eq]
  exact Json.agreeOutside_mapFields (safeJsonValue sensitive) fun field _ hname =>
    agreeOutside_safeJsonValue field.2 hname

/-- Every scalar under a sensitive key of a list of members is empty. -/
theorem forall_guardedFields_iff {guarded : Bool} {fields : JsonObject} :
    (∀ scalar ∈ guardedFields sensitive guarded fields, scalar = .str "") ↔
      ∀ field ∈ fields, ∀ scalar ∈ guardedScalars sensitive (guarded || sensitive field.1) field.2,
        scalar = .str "" := by
  rw [guardedFields_eq]
  simp only [List.mem_flatMap, forall_exists_index, and_imp]
  exact ⟨fun h field hfield scalar hscalar => h scalar field hfield hscalar,
    fun h scalar field hfield hscalar => h field hfield scalar hscalar⟩

private theorem guardedScalars_empty {guarded : Bool} :
    ∀ scalar ∈ guardedScalars sensitive guarded (.str ""), scalar = .str "" := by
  cases guarded <;> simp [guardedScalars]

/-- An object that is no sensitive one with a `value` is redacted member by member. -/
theorem safeJsonValue_obj {key : String} {fields : JsonObject}
    (h : ¬(sensitive key = true ∧ "value" ∈ fields.map Prod.fst)) :
    safeJsonValue sensitive key (.obj fields) = .obj (safeJsonObject sensitive fields) := by
  rw [safeJsonValue, if_neg]
  rw [Bool.and_eq_true, lookup_isSome_iff_mem_keys]
  exact h

/-- Under a sensitive key the `value` of an object is emptied. -/
theorem safeJsonValue_obj_value {key : String} {fields : JsonObject}
    (h : sensitive key = true ∧ "value" ∈ fields.map Prod.fst) :
    safeJsonValue sensitive key (.obj fields) =
      .obj (fields.map fun field => (field.1,
        if field.1 = "value" then .str "" else safeJsonValue sensitive field.1 field.2)) := by
  have hmem : "value" ∈ (safeJsonObject sensitive fields).map Prod.fst := by
    rw [keys_safeJsonObject]
    exact h.2
  rw [safeJsonValue, if_pos, setField_of_mem _ hmem, safeJsonObject_eq, List.map_map]
  · rfl
  · rw [Bool.and_eq_true, lookup_isSome_iff_mem_keys]
    exact h

/-- A text under a sensitive key is the only scalar that redaction empties. -/
theorem guardedScalars_safeJsonValue {key : String} {guarded : Bool} (value : Json)
    (hkey : sensitive key = true → guarded = true) :
    (∀ scalar ∈ guardedScalars sensitive guarded (safeJsonValue sensitive key value),
      scalar = .str "") ↔ redactable sensitive guarded key value = true := by
  induction value using Json.induction generalizing key guarded with
  | null | bool _ | int _ | float _ =>
    cases guarded <;> simp [safeJsonValue, guardedScalars, redactable]
  | str text =>
    cases hsensitive : sensitive key <;> cases guarded <;>
      simp [safeJsonValue, guardedScalars, redactable, hsensitive]
  | arr items ih =>
    simp only [safeJsonValue, guardedScalars, redactable, guardedItems_eq, safeJsonItems_eq,
      redactableItems_iff, List.mem_flatMap, List.mem_map]
    constructor
    · intro h item hitem
      exact (ih item hitem hkey).mp fun scalar hscalar =>
        h scalar ⟨_, ⟨item, hitem, rfl⟩, hscalar⟩
    · rintro h scalar ⟨_, ⟨item, hitem, rfl⟩, hscalar⟩
      exact (ih item hitem hkey).mpr (h item hitem) scalar hscalar
  | obj fields ih =>
    have hfield : ∀ field ∈ fields,
        (∀ scalar ∈ guardedScalars sensitive (guarded || sensitive field.1)
          (safeJsonValue sensitive field.1 field.2), scalar = .str "") ↔
        redactable sensitive (guarded || sensitive field.1) field.1 field.2 = true :=
      fun field hmem => ih field hmem fun hsensitive => by simp [hsensitive]
    unfold redactable
    rw [redactableFields_iff]
    by_cases hhides : sensitive key = true ∧ "value" ∈ fields.map Prod.fst
    · simp only [safeJsonValue_obj_value hhides, guardedScalars, forall_guardedFields_iff,
        List.forall_mem_map]
      refine forall₂_congr fun field hfieldMem => ?_
      by_cases hvalue : field.1 = "value"
      · simp only [hvalue, hhides.1, if_true, and_self, true_or, iff_true]
        exact guardedScalars_empty
      · simp only [hvalue, if_false, and_false, false_or]
        exact hfield field hfieldMem
    · simp only [safeJsonValue_obj hhides, guardedScalars, safeJsonObject_eq,
        forall_guardedFields_iff, List.forall_mem_map]
      refine forall₂_congr fun field hfieldMem => ?_
      rw [hfield field hfieldMem, or_iff_right]
      rintro ⟨hsensitive, hkeyValue⟩
      exact hhides ⟨hsensitive, hkeyValue ▸ List.mem_map_of_mem hfieldMem⟩

/-! ## Edits that redaction does not see -/

variable (sensitive)

/-- An edit of an object that keeps its `value` member and commutes with redaction. -/
structure Neutral (edit : JsonObject → JsonObject) : Prop where
  safe : ∀ fields, safeJsonObject sensitive (edit fields) = edit (safeJsonObject sensitive fields)
  value_mem : ∀ fields, "value" ∈ (edit fields).map Prod.fst ↔ "value" ∈ fields.map Prod.fst
  setValue : ∀ fields value, "value" ∈ fields.map Prod.fst →
    edit (setField fields "value" value) = setField (edit fields) "value" value

variable {sensitive}

/-- Erasing a key commutes with a change of the values. -/
theorem eraseField_map (f : String → Json → Json) (fields : JsonObject) (key : String) :
    eraseField (fields.map fun field => (field.1, f field.1 field.2)) key =
      (eraseField fields key).map fun field => (field.1, f field.1 field.2) := by
  rw [eraseField, List.filter_map]
  rfl

/-- Leaving a key out is neutral. -/
theorem Neutral.eraseField {key : String} (hkey : key ≠ "value") :
    Neutral sensitive fun fields => eraseField fields key where
  safe fields := by
    simp only [safeJsonObject_eq]
    exact (eraseField_map (safeJsonValue sensitive) fields key).symm
  value_mem fields := by
    rw [← lookup_isSome_iff_mem_keys, ← lookup_isSome_iff_mem_keys, lookup_eraseField,
      if_neg (Ne.symm hkey)]
  setValue fields value hmem := by
    have hmem' : "value" ∈ (PlanConfig.eraseField fields key).map Prod.fst := by
      rw [← lookup_isSome_iff_mem_keys, lookup_eraseField, if_neg (Ne.symm hkey)]
      exact lookup_isSome_iff_mem_keys.mpr hmem
    simp only [setField_of_mem _ hmem, setField_of_mem _ hmem']
    exact eraseField_map (fun other old => if other = "value" then value else old) fields key

/-- Two neutral edits are one. -/
theorem Neutral.comp {edit edit' : JsonObject → JsonObject} (h : Neutral sensitive edit)
    (h' : Neutral sensitive edit') : Neutral sensitive fun fields => edit (edit' fields) where
  safe fields := by rw [h.safe, h'.safe]
  value_mem fields := by rw [h.value_mem, h'.value_mem]
  setValue fields value hmem := by
    rw [h'.setValue fields value hmem, h.setValue _ value ((h'.value_mem fields).mpr hmem)]

/-- A neutral edit of an object commutes with its redaction. -/
theorem Neutral.safeJsonValue_editObject {edit : JsonObject → JsonObject}
    (h : Neutral sensitive edit) (key : String) (value : Json) :
    safeJsonValue sensitive key (editObject edit value) =
      editObject edit (safeJsonValue sensitive key value) := by
  cases value with
  | null | bool _ | int _ | float _ | arr _ => rfl
  | str text => cases hkey : sensitive key <;> simp [editObject, safeJsonValue, hkey]
  | obj fields =>
    have hiff := h.value_mem fields
    rw [← lookup_isSome_iff_mem_keys, ← lookup_isSome_iff_mem_keys] at hiff
    simp only [editObject, safeJsonValue, Bool.and_eq_true, hiff, h.safe]
    by_cases hhides : sensitive key = true ∧ (fields.lookup "value").isSome = true
    · rw [if_pos hhides, if_pos hhides]
      have hmem : "value" ∈ (safeJsonObject sensitive fields).map Prod.fst := by
        rw [keys_safeJsonObject]
        exact lookup_isSome_iff_mem_keys.mp hhides.2
      rw [← h.setValue _ _ hmem]
    · rw [if_neg hhides, if_neg hhides]

/-- An edit under a key keeps the keys. -/
theorem keys_modifyObject (fields : JsonObject) (key : String) (edit : JsonObject → JsonObject) :
    (modifyObject fields key edit).map Prod.fst = fields.map Prod.fst := by
  rw [modifyObject, List.map_map]
  rfl

/-- A neutral edit under a key is neutral. -/
theorem Neutral.modifyObject {key : String} (hkey : key ≠ "value")
    {edit : JsonObject → JsonObject} (h : Neutral sensitive edit) :
    Neutral sensitive fun fields => modifyObject fields key edit where
  safe fields := by
    simp only [safeJsonObject_eq, PlanSnapshot.modifyObject, List.map_map]
    refine List.map_congr_left fun field _ => ?_
    by_cases hfield : field.1 = key
    · simp [hfield, h.safeJsonValue_editObject]
    · simp [hfield]
  value_mem fields := by rw [keys_modifyObject]
  setValue fields value hmem := by
    have hmem' : "value" ∈ (PlanSnapshot.modifyObject fields key edit).map Prod.fst := by
      rwa [keys_modifyObject]
    rw [setField_of_mem _ hmem, setField_of_mem _ hmem']
    simp only [PlanSnapshot.modifyObject, List.map_map]
    refine List.map_congr_left fun field _ => ?_
    by_cases hfield : field.1 = key
    · simp [hfield, hkey]
    · by_cases hvalue : field.1 = "value"
      · simp [hvalue, hkey.symm]
      · simp [hfield, hvalue]

end Values

end Conformance.PlanSnapshot
