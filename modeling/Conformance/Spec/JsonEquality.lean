import Conformance.Spec.JsonObjects

/-!
# Equality of decoded JSON

A decoded JSON object has no repeated key. On such values Python's `==` is
reflexive, and two objects are equal when the same keys have equal values,
whatever their order.
-/

namespace Conformance.Json

/-- A value that a JSON decoder returns: no object in it repeats a key. -/
inductive Decoded : Json → Prop where
  | null : Decoded .null
  | bool (b : Bool) : Decoded (.bool b)
  | int (n : Int) : Decoded (.int n)
  | float (q : Rat) : Decoded (.float q)
  | str (s : String) : Decoded (.str s)
  | arr {items : List Json} (hitems : ∀ item ∈ items, Decoded item) : Decoded (.arr items)
  | obj {fields : JsonObject} (hnodup : (fields.map Prod.fst).Nodup)
      (hfields : ∀ field ∈ fields, Decoded field.2) : Decoded (.obj fields)

/-- A decoded object names no member twice. -/
theorem Decoded.nodup {fields : JsonObject} (h : Decoded (.obj fields)) :
    (fields.map Prod.fst).Nodup := by
  cases h with
  | obj hnodup _ => exact hnodup

/-- The members of a decoded object are decoded. -/
theorem Decoded.of_mem {fields : JsonObject} (h : Decoded (.obj fields)) {field : String × Json}
    (hmem : field ∈ fields) : Decoded field.2 := by
  cases h with
  | obj _ hfields => exact hfields field hmem

theorem Decoded.of_lookup {fields : JsonObject} (h : Decoded (.obj fields)) {key : String}
    {value : Json} (hlookup : fields.lookup key = some value) : Decoded value :=
  h.of_mem (mem_of_lookup hlookup)

/-- Setting a decoded member keeps an object decoded. -/
theorem Decoded.setField {fields : JsonObject} (h : Decoded (.obj fields)) (key : String)
    {value : Json} (hvalue : Decoded value) : Decoded (.obj (setField fields key value)) := by
  refine .obj (nodup_keys_setField key value h.nodup) fun field hfield => ?_
  have hlookup := lookup_of_mem (nodup_keys_setField key value h.nodup) hfield
  rw [lookup_setField] at hlookup
  split at hlookup
  · exact Option.some.inj hlookup ▸ hvalue
  · exact h.of_lookup hlookup

mutual

/-- Whether no object in a value repeats a key. -/
def isDecoded : Json → Bool
  | .arr items => itemsDecoded items
  | .obj fields => decide (fields.map Prod.fst).Nodup && fieldsDecoded fields
  | _ => true

/-- `isDecoded` for every item. -/
def itemsDecoded : List Json → Bool
  | [] => true
  | item :: rest => isDecoded item && itemsDecoded rest

/-- `isDecoded` for every member. -/
def fieldsDecoded : List (String × Json) → Bool
  | [] => true
  | (_, value) :: rest => isDecoded value && fieldsDecoded rest

end

/-- What the check accepts is decoded. -/
theorem decoded_of_isDecoded {value : Json} (h : isDecoded value = true) : Decoded value := by
  -- the check follows the value, list by list
  induction value using Json.induction with
  | null => exact .null
  | bool b => exact .bool b
  | int n => exact .int n
  | float q => exact .float q
  | str s => exact .str s
  | arr items ih =>
    refine .arr fun item hitem => ih item hitem ?_
    rw [isDecoded] at h
    clear ih
    induction items with
    | nil => cases hitem
    | cons head rest ihrest =>
      rw [itemsDecoded, Bool.and_eq_true] at h
      rcases List.mem_cons.mp hitem with rfl | hitem
      · exact h.1
      · exact ihrest h.2 hitem
  | obj fields ih =>
    rw [isDecoded, Bool.and_eq_true, decide_eq_true_eq] at h
    refine .obj h.1 fun field hfield => ih field hfield ?_
    have hfields := h.2
    clear ih h
    induction fields with
    | nil => cases hfield
    | cons head rest ihrest =>
      rw [fieldsDecoded, Bool.and_eq_true] at hfields
      rcases List.mem_cons.mp hfield with rfl | hfield
      · exact hfields.1
      · exact ihrest hfield hfields.2

/-- Lists are equal item by item. -/
theorem pyEqItems_iff {xs ys : List Json} :
    pyEqItems xs ys = true ↔ List.Forall₂ (fun x y => pyEq x y = true) xs ys := by
  induction xs generalizing ys with
  | nil => cases ys <;> simp [pyEqItems]
  | cons x xs ih => cases ys <;> simp [pyEqItems, ih]

/-- The members of one object equal those of the other. -/
theorem pyEqFields_iff {xs ys : JsonObject} :
    pyEqFields xs ys = true ↔
      ∀ field ∈ xs, ∃ value, ys.lookup field.1 = some value ∧ pyEq field.2 value = true := by
  induction xs with
  | nil => simp [pyEqFields]
  | cons x xs ih =>
    rw [pyEqFields, Bool.and_eq_true, ih, List.forall_mem_cons]
    refine and_congr_left fun _ => ?_
    cases ys.lookup x.1 <;> simp

/-- Two objects without repeated keys are equal when they agree on every key. -/
theorem pyEq_obj_iff {xs ys : JsonObject} (hxs : (xs.map Prod.fst).Nodup)
    (hys : (ys.map Prod.fst).Nodup) :
    pyEq (.obj xs) (.obj ys) = true ↔
      ∀ key, Option.Rel (fun x y => pyEq x y = true) (xs.lookup key) (ys.lookup key) := by
  rw [pyEq, Bool.and_eq_true, beq_iff_eq, pyEqFields_iff]
  constructor
  · rintro ⟨hlength, hfields⟩ key
    have hsub : xs.map Prod.fst ⊆ ys.map Prod.fst := by
      intro k hk
      obtain ⟨field, hfield, rfl⟩ := List.mem_map.mp hk
      obtain ⟨value, hvalue, -⟩ := hfields field hfield
      exact lookup_isSome_iff_mem_keys.mp (by simp [hvalue])
    -- as many keys, and all of the first among the second: the same keys
    have hperm : (xs.map Prod.fst).Perm (ys.map Prod.fst) :=
      (List.subperm_of_subset hxs hsub).perm_of_length_le (by simp [hlength])
    cases hx : xs.lookup key with
    | some x =>
      obtain ⟨y, hy, heq⟩ := hfields (key, x) (mem_of_lookup hx)
      rw [hy]
      exact .some heq
    | none =>
      have hkey : key ∉ ys.map Prod.fst := by
        rw [← hperm.mem_iff]
        exact lookup_eq_none_iff_notMem_keys.mp hx
      rw [lookup_eq_none_iff_notMem_keys.mpr hkey]
      exact .none
  · intro h
    have hmem : ∀ key, key ∈ xs.map Prod.fst ↔ key ∈ ys.map Prod.fst := by
      intro key
      rw [← lookup_isSome_iff_mem_keys, ← lookup_isSome_iff_mem_keys]
      have hkey := h key
      generalize xs.lookup key = x at hkey
      generalize ys.lookup key = y at hkey
      cases hkey <;> simp
    have hperm : (xs.map Prod.fst).Perm (ys.map Prod.fst) :=
      (List.perm_ext_iff_of_nodup hxs hys).mpr hmem
    refine ⟨by simpa using hperm.length_eq, fun field hfield => ?_⟩
    have hkey := h field.1
    rw [lookup_of_mem hxs hfield] at hkey
    cases hy : ys.lookup field.1 with
    | none =>
      rw [hy] at hkey
      cases hkey
    | some y =>
      rw [hy] at hkey
      cases hkey with
      | some heq => exact ⟨y, rfl, heq⟩

/-- A decoded value equals itself. -/
theorem Decoded.pyEq_self {value : Json} (h : Decoded value) : pyEq value value = true := by
  induction h with
  | null => rfl
  | bool b => simp [pyEq, number?]
  | int n => simp [pyEq, number?]
  | float q => simp [pyEq, number?]
  | str s => simp [pyEq]
  | arr _ ih =>
    rw [pyEq, pyEqItems_iff]
    exact List.forall₂_same.mpr ih
  | obj hnodup _ ih =>
    rw [pyEq_obj_iff hnodup hnodup]
    intro key
    cases hvalue : List.lookup key _ with
    | none => exact .none
    | some value => exact .some (ih _ (mem_of_lookup hvalue))

/-- The fields of a decoded object equal themselves. -/
theorem Decoded.rel_lookup {fields : JsonObject} (h : Decoded (.obj fields)) (key : String) :
    Option.Rel (fun x y => pyEq x y = true) (fields.lookup key) (fields.lookup key) := by
  cases hvalue : fields.lookup key with
  | none => exact .none
  | some value => exact .some (h.of_lookup hvalue).pyEq_self

theorem pyEq_bool_bool {a b : Bool} : pyEq (.bool a) (.bool b) = true ↔ a = b := by
  cases a <;> cases b <;> simp [pyEq, number?]

end Conformance.Json
