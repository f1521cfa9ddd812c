import Conformance.Native.PlanConfig

/-!
# Reading and writing the fields of an object

What `getField`, `lookup` and the keys of an object are after a field was set or
erased.
-/

namespace Conformance

open PlanConfig

/-- A key has a value exactly when it is there. -/
theorem lookup_isSome_iff_mem_keys {fields : JsonObject} {key : String} :
    (fields.lookup key).isSome = true ↔ key ∈ fields.map Prod.fst := by
  rw [List.lookup_isSome_iff]
  simp

/-- A key has none exactly when it is not there. -/
theorem lookup_eq_none_iff_notMem_keys {fields : JsonObject} {key : String} :
    fields.lookup key = none ↔ key ∉ fields.map Prod.fst := by
  rw [← lookup_isSome_iff_mem_keys, Bool.not_eq_true, Option.isSome_eq_false_iff,
    Option.isNone_iff_eq_none]

/-- The value of a key is a member's. -/
theorem mem_of_lookup {fields : JsonObject} {key : String} {value : Json}
    (h : fields.lookup key = some value) : (key, value) ∈ fields := by
  obtain ⟨before, after, rfl, -⟩ := List.lookup_eq_some_iff.mp h
  simp

/-- A field of an object without repeated keys can be looked up. -/
theorem lookup_of_mem {fields : JsonObject} (hnodup : (fields.map Prod.fst).Nodup)
    {field : String × Json} (h : field ∈ fields) : fields.lookup field.1 = some field.2 := by
  induction fields with
  | nil => cases h
  | cons head rest ih =>
    rw [List.map_cons, List.nodup_cons] at hnodup
    rcases List.mem_cons.mp h with rfl | h
    · exact List.lookup_cons_self
    · have hne : field.1 ≠ head.1 := by
        intro heq
        exact hnodup.1 (heq ▸ List.mem_map_of_mem h)
      rw [List.lookup_cons, beq_eq_false_iff_ne.mpr hne]
      exact ih hnodup.2 h

/-- Replacing every value by one that depends on its key and itself. -/
theorem lookup_map_value (f : String → Json → Json) (fields : JsonObject) (key : String) :
    (fields.map fun field => (field.1, f field.1 field.2)).lookup key =
      (fields.lookup key).map (f key) := by
  induction fields with
  | nil => rfl
  | cons field rest ih =>
    rw [List.map_cons, List.lookup_cons, List.lookup_cons, ih]
    by_cases hkey : key = field.1
    · simp [hkey]
    · simp [beq_eq_false_iff_ne.mpr hkey]

/-! ## `setField` -/

/-- Setting a key that is there replaces its value. -/
theorem setField_of_mem {fields : JsonObject} {key : String} (value : Json)
    (h : key ∈ fields.map Prod.fst) :
    setField fields key value = fields.map fun field =>
      (field.1, if field.1 = key then value else field.2) := by
  rw [setField, if_pos h]
  refine List.map_congr_left fun field _ => ?_
  by_cases hkey : field.1 = key
  · simp [hkey]
  · simp [hkey]

theorem setField_of_notMem {fields : JsonObject} {key : String} (value : Json)
    (h : key ∉ fields.map Prod.fst) : setField fields key value = fields ++ [(key, value)] := by
  rw [setField, if_neg h]

/-- A key that is set has the new value, and the others keep theirs. -/
@[simp] theorem lookup_setField (fields : JsonObject) (key other : String) (value : Json) :
    (setField fields key value).lookup other =
      if other = key then some value else fields.lookup other := by
  by_cases hmem : key ∈ fields.map Prod.fst
  · rw [setField_of_mem value hmem,
      lookup_map_value (fun other old => if other = key then value else old)]
    by_cases hkey : other = key
    · obtain ⟨old, hold⟩ := Option.isSome_iff_exists.mp (lookup_isSome_iff_mem_keys.mpr hmem)
      simp [hkey, hold]
    · simp [hkey]
  · rw [setField_of_notMem value hmem, List.lookup_append]
    by_cases hkey : other = key
    · simp [hkey, lookup_eq_none_iff_notMem_keys.mpr hmem]
    · simp [hkey, List.lookup_cons, beq_eq_false_iff_ne.mpr hkey]

/-- Setting a key that is there keeps the keys. -/
theorem keys_setField_of_mem {fields : JsonObject} {key : String} (value : Json)
    (h : key ∈ fields.map Prod.fst) :
    (setField fields key value).map Prod.fst = fields.map Prod.fst := by
  rw [setField_of_mem value h, List.map_map]
  rfl

/-- Setting a key adds it to the keys. -/
theorem mem_keys_setField {fields : JsonObject} {key other : String} {value : Json} :
    other ∈ (setField fields key value).map Prod.fst ↔
      other = key ∨ other ∈ fields.map Prod.fst := by
  rw [← lookup_isSome_iff_mem_keys, ← lookup_isSome_iff_mem_keys, lookup_setField]
  by_cases hkey : other = key <;> simp [hkey]

/-- Setting a key keeps the keys distinct. -/
theorem nodup_keys_setField {fields : JsonObject} (key : String) (value : Json)
    (h : (fields.map Prod.fst).Nodup) : ((setField fields key value).map Prod.fst).Nodup := by
  by_cases hmem : key ∈ fields.map Prod.fst
  · rwa [keys_setField_of_mem value hmem]
  · rw [setField_of_notMem value hmem, List.map_append]
    exact List.nodup_append.mpr ⟨h, List.nodup_singleton _, by
      rintro other hother _ hsingle rfl
      obtain rfl := List.mem_singleton.mp hsingle
      exact hmem hother⟩

/-- A key that is set has the new value, and the others keep theirs. -/
@[simp] theorem getField_setField (fields : JsonObject) (key other : String) (value : Json) :
    getField (setField fields key value) other =
      if other = key then value else getField fields other := by
  unfold getField
  rw [lookup_setField]
  by_cases hkey : other = key <;> simp [hkey]

/-- Setting a field to the value it has changes nothing. -/
theorem setField_self {fields : JsonObject} (hnodup : (fields.map Prod.fst).Nodup) {key : String}
    {value : Json} (h : fields.lookup key = some value) : setField fields key value = fields := by
  have hmem : key ∈ fields.map Prod.fst := lookup_isSome_iff_mem_keys.mp (by rw [h]; rfl)
  rw [setField_of_mem value hmem]
  nth_rewrite 2 [← List.map_id fields]
  refine List.map_congr_left fun field hfield => ?_
  by_cases hkey : field.1 = key
  · have hvalue := lookup_of_mem hnodup hfield
    rw [hkey, h] at hvalue
    rw [if_pos hkey, Option.some.inj hvalue, id]
  · rw [if_neg hkey, id]

/-! ## `eraseField` -/

/-- Leaving out a key that is not there changes nothing. -/
theorem eraseField_of_notMem {fields : JsonObject} {key : String}
    (h : key ∉ fields.map Prod.fst) : eraseField fields key = fields := by
  refine List.filter_eq_self.mpr fun field hfield => ?_
  simp only [ne_eq, decide_eq_true_eq]
  rintro rfl
  exact h (List.mem_map_of_mem hfield)

/-- A key that is left out has no value, and the others keep theirs. -/
@[simp] theorem lookup_eraseField (fields : JsonObject) (key other : String) :
    (eraseField fields key).lookup other =
      if other = key then none else fields.lookup other := by
  induction fields with
  | nil => by_cases hkey : other = key <;> simp [eraseField, hkey]
  | cons field rest ih =>
    unfold eraseField at ih ⊢
    by_cases hfield : field.1 = key
    · rw [List.filter_cons_of_neg (by simp [hfield]), ih, List.lookup_cons]
      by_cases hkey : other = key
      · simp [hkey]
      · rw [if_neg hkey, if_neg hkey, beq_eq_false_iff_ne.mpr (hfield ▸ hkey)]
    · rw [List.filter_cons_of_pos (by simp [hfield]), List.lookup_cons, List.lookup_cons, ih]
      by_cases hkey : other = key
      · simp [hkey, beq_eq_false_iff_ne.mpr (Ne.symm hfield)]
      · simp [hkey]

/-- Erasing a field undoes setting it. -/
theorem eraseField_setField (fields : JsonObject) (key : String) (value : Json) :
    eraseField (setField fields key value) key = eraseField fields key := by
  by_cases hmem : key ∈ fields.map Prod.fst
  · rw [setField_of_mem value hmem, eraseField, eraseField, List.filter_map]
    rw [List.map_congr_left (g := id), List.map_id]
    · rfl
    · intro field hfield
      have hne : field.1 ≠ key := by simpa using (List.mem_filter.mp hfield).2
      simp [hne]
  · rw [setField_of_notMem value hmem, eraseField, eraseField, List.filter_append]
    simp

/-! ## `updateFields` -/

/-- A field that an update does not name. -/
theorem lookup_updateFields_of_notMem (fields : JsonObject) {others : JsonObject} {key : String}
    (h : key ∉ others.map Prod.fst) : (updateFields fields others).lookup key = fields.lookup key := by
  unfold updateFields
  induction others generalizing fields with
  | nil => rfl
  | cons field rest ih =>
    rw [List.map_cons, List.mem_cons, not_or] at h
    rw [List.foldl_cons, ih _ h.2, lookup_setField, if_neg h.1]

end Conformance
