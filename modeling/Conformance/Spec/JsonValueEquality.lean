import Conformance.Native.Assertions
import Conformance.Spec.JsonEquality

/-!
# Type-aware equality of JSON values

`_json_values_equal` is an equivalence that looks into arrays and objects and never
equates a boolean with a number. The `Value` match of a legacy bundle compares with
Python's `==`, which accepts the same values except where a boolean of one value faces an
equal number of the other.

## Key results

- `jsonValuesEqual_refl`, `jsonValuesEqual_symm`, `jsonValuesEqual_trans`
- `jsonValuesEqual_iff_pyEq`: the equality is `==` without a boolean that faces a number
- `jsonValuesEqual_legacy_iff`: where the two comparison sites agree
-/

namespace Conformance

open Except Json

/-! ## The cases of the equality -/

/-- One step of the equality. -/
theorem jsonValuesEqual_eq (left right : Json) :
    jsonValuesEqual left right = match left, right with
      | .bool left, .bool right => left == right
      | .bool _, _ => false
      | .arr left, .arr right => itemsEqual left right
      | .obj left, .obj right =>
        (left.all fun field => (right.lookup field.1).isSome) &&
          (right.all fun field => (left.lookup field.1).isSome) && fieldsEqual left right
      | left, right => if right matches .bool _ then false else left.pyEq right := by
  cases left <;> cases right <;> rfl

/-- The number a value that is no boolean compares as. -/
def Json.strictNumber? : Json → Option Rat
  | .int n => some n
  | .float q => some q
  | _ => none

/-- Lists are equal item by item. -/
theorem itemsEqual_iff {xs ys : List Json} :
    itemsEqual xs ys = true ↔ List.Forall₂ (fun x y => jsonValuesEqual x y = true) xs ys := by
  induction xs generalizing ys with
  | nil => cases ys <;> simp [itemsEqual]
  | cons x xs ih => cases ys <;> simp [itemsEqual, ih]

/-- The members of one object equal those of the other. -/
theorem fieldsEqual_iff {xs ys : JsonObject} :
    fieldsEqual xs ys = true ↔
      ∀ field ∈ xs, ∃ value, ys.lookup field.1 = some value ∧
        jsonValuesEqual field.2 value = true := by
  induction xs with
  | nil => simp [fieldsEqual]
  | cons x xs ih =>
    rw [fieldsEqual, Bool.and_eq_true, ih, List.forall_mem_cons]
    refine and_congr_left fun _ => ?_
    cases ys.lookup x.1 <;> simp

@[simp] theorem jsonValuesEqual_null_iff {b : Json} : jsonValuesEqual .null b = true ↔ b = .null := by
  cases b <;> simp [jsonValuesEqual_eq, pyEq, number?]

/-- A boolean equals only itself. -/
@[simp] theorem jsonValuesEqual_bool_iff {x : Bool} {b : Json} :
    jsonValuesEqual (.bool x) b = true ↔ b = .bool x := by
  cases b with
  | bool y =>
    rw [jsonValuesEqual_eq, beq_iff_eq, Json.bool.injEq]
    exact eq_comm
  | null | int | float | str | arr | obj => simp [jsonValuesEqual_eq]

/-- A text equals only itself. -/
@[simp] theorem jsonValuesEqual_str_iff {s : String} {b : Json} :
    jsonValuesEqual (.str s) b = true ↔ b = .str s := by
  cases b with
  | str t =>
    rw [Json.str.injEq]
    simpa [jsonValuesEqual_eq, pyEq] using eq_comm
  | null | bool | int | float | arr | obj => simp [jsonValuesEqual_eq, pyEq, number?]

/-- A number equals the numbers with its value, and no boolean. -/
theorem jsonValuesEqual_number_iff {a b : Json} {p : Rat} (ha : a.strictNumber? = some p) :
    jsonValuesEqual a b = true ↔ b.strictNumber? = some p := by
  have hnumber : ∀ q : Rat, ((p == q) = true ↔ q = p) := fun q => by
    rw [beq_iff_eq]
    exact eq_comm
  cases a with
  | int n =>
    obtain rfl := Option.some.inj ha
    cases b <;> simp [jsonValuesEqual_eq, pyEq, number?, strictNumber?, hnumber]
  | float q =>
    obtain rfl := Option.some.inj ha
    cases b <;> simp [jsonValuesEqual_eq, pyEq, number?, strictNumber?, hnumber]
  | null | bool | str | arr | obj => cases ha

/-- Arrays are equal when they have one length and equal items. -/
theorem jsonValuesEqual_arr_iff {xs : List Json} {b : Json} :
    jsonValuesEqual (.arr xs) b = true ↔
      ∃ ys, b = .arr ys ∧ List.Forall₂ (fun x y => jsonValuesEqual x y = true) xs ys := by
  cases b with
  | arr ys => simp [jsonValuesEqual_eq, itemsEqual_iff]
  | null | bool | int | float | str | obj => simp [jsonValuesEqual_eq, pyEq, number?]

/-- Only objects equal an object. -/
theorem jsonValuesEqual_obj_exists {xs : JsonObject} {b : Json}
    (h : jsonValuesEqual (.obj xs) b = true) : ∃ ys, b = .obj ys := by
  cases b with
  | obj ys => exact ⟨ys, rfl⟩
  | null | bool | int | float | str | arr => simp [jsonValuesEqual_eq, pyEq, number?] at h

/-- Objects without repeated keys are equal when they have the same keys and are equal under
    each. -/
theorem jsonValuesEqual_obj_iff {xs ys : JsonObject} (hxs : (xs.map Prod.fst).Nodup) :
    jsonValuesEqual (.obj xs) (.obj ys) = true ↔
      ∀ key, Option.Rel (fun x y => jsonValuesEqual x y = true) (xs.lookup key)
        (ys.lookup key) := by
  rw [jsonValuesEqual_eq, Bool.and_eq_true, Bool.and_eq_true, fieldsEqual_iff]
  constructor
  · rintro ⟨⟨-, hright⟩, hfields⟩ key
    cases hx : xs.lookup key with
    | some x =>
      obtain ⟨y, hy, heq⟩ := hfields (key, x) (mem_of_lookup hx)
      rw [hy]
      exact .some heq
    | none =>
      cases hy : ys.lookup key with
      | none => exact .none
      | some y =>
        have hsome := List.all_eq_true.mp hright (key, y) (mem_of_lookup hy)
        rw [hx] at hsome
        cases hsome
  · intro h
    have hsame : ∀ key, (xs.lookup key).isSome = (ys.lookup key).isSome := by
      intro key
      have hkey := h key
      generalize xs.lookup key = x at hkey
      generalize ys.lookup key = y at hkey
      cases hkey <;> rfl
    have hkeys : ∀ {fields : JsonObject}, ∀ field ∈ fields,
        (List.lookup field.1 fields).isSome = true := fun field hfield =>
      lookup_isSome_iff_mem_keys.mpr (List.mem_map_of_mem hfield)
    refine ⟨⟨List.all_eq_true.mpr fun field hfield => ?_,
      List.all_eq_true.mpr fun field hfield => ?_⟩, fun field hfield => ?_⟩
    · rw [← hsame]
      exact hkeys field hfield
    · rw [hsame]
      exact hkeys field hfield
    · have hkey := h field.1
      rw [lookup_of_mem hxs hfield] at hkey
      cases hy : ys.lookup field.1 with
      | none =>
        rw [hy] at hkey
        cases hkey
      | some y =>
        rw [hy] at hkey
        cases hkey with
        | some heq => exact ⟨y, rfl, heq⟩

/-! ## An equivalence -/

/-- A decoded value equals itself. -/
theorem jsonValuesEqual_refl {a : Json} (ha : Decoded a) : jsonValuesEqual a a = true := by
  induction ha with
  | null | bool | str => simp
  | int n => exact (jsonValuesEqual_number_iff rfl).mpr rfl
  | float q => exact (jsonValuesEqual_number_iff rfl).mpr rfl
  | arr _ ih => exact jsonValuesEqual_arr_iff.mpr ⟨_, rfl, List.forall₂_same.mpr ih⟩
  | obj hnodup _ ih =>
    rw [jsonValuesEqual_obj_iff hnodup]
    intro key
    cases hvalue : List.lookup key _ with
    | none => exact .none
    | some value => exact .some (ih _ (mem_of_lookup hvalue))

/-- Decoded values are equal either way. -/
theorem jsonValuesEqual_symm {a b : Json} (ha : Decoded a) (hb : Decoded b)
    (h : jsonValuesEqual a b = true) : jsonValuesEqual b a = true := by
  induction ha generalizing b with
  | null => simp_all
  | bool x => simp_all
  | str s => simp_all
  | int n => exact (jsonValuesEqual_number_iff ((jsonValuesEqual_number_iff rfl).mp h)).mpr rfl
  | float q => exact (jsonValuesEqual_number_iff ((jsonValuesEqual_number_iff rfl).mp h)).mpr rfl
  | arr _ ih =>
    obtain ⟨ys, rfl, hitems⟩ := jsonValuesEqual_arr_iff.mp h
    refine jsonValuesEqual_arr_iff.mpr ⟨_, rfl, ?_⟩
    cases hb with
    | arr hys =>
      clear h
      induction hitems with
      | nil => exact .nil
      | cons hxy _ ihrest =>
        refine .cons (ih _ List.mem_cons_self (hys _ List.mem_cons_self) hxy) (ihrest ?_ ?_ ?_)
        · exact fun item hitem => ‹∀ item ∈ _, Decoded item› item (List.mem_cons_of_mem _ hitem)
        · exact fun item hitem => ih item (List.mem_cons_of_mem _ hitem)
        · exact fun item hitem => hys item (List.mem_cons_of_mem _ hitem)
  | @obj fields hnodup _ ih =>
    obtain ⟨ys, rfl⟩ := jsonValuesEqual_obj_exists h
    rw [jsonValuesEqual_obj_iff hnodup] at h
    rw [jsonValuesEqual_obj_iff hb.nodup]
    intro key
    have hkey := h key
    cases hx : fields.lookup key with
    | none =>
      cases hy : ys.lookup key with
      | none => exact .none
      | some y =>
        rw [hx, hy] at hkey
        cases hkey
    | some x =>
      cases hy : ys.lookup key with
      | none =>
        rw [hx, hy] at hkey
        cases hkey
      | some y =>
        rw [hx, hy] at hkey
        cases hkey with
        | some heq => exact .some (ih _ (mem_of_lookup hx) (hb.of_lookup hy) heq)

/-- Decoded values that equal one are equal. -/
theorem jsonValuesEqual_trans {a b c : Json} (ha : Decoded a) (hb : Decoded b)
    (hab : jsonValuesEqual a b = true) (hbc : jsonValuesEqual b c = true) :
    jsonValuesEqual a c = true := by
  induction ha generalizing b c with
  | null => simp_all
  | bool x => simp_all
  | str s => simp_all
  | int n =>
    have hb' := (jsonValuesEqual_number_iff rfl).mp hab
    exact (jsonValuesEqual_number_iff rfl).mpr ((jsonValuesEqual_number_iff hb').mp hbc)
  | float q =>
    have hb' := (jsonValuesEqual_number_iff rfl).mp hab
    exact (jsonValuesEqual_number_iff rfl).mpr ((jsonValuesEqual_number_iff hb').mp hbc)
  | arr _ ih =>
    obtain ⟨ys, rfl, hys⟩ := jsonValuesEqual_arr_iff.mp hab
    obtain ⟨zs, rfl, hzs⟩ := jsonValuesEqual_arr_iff.mp hbc
    refine jsonValuesEqual_arr_iff.mpr ⟨zs, rfl, ?_⟩
    cases hb with
    | arr hdecoded =>
      clear hab hbc
      induction hys generalizing zs with
      | nil =>
        cases hzs
        exact .nil
      | cons hxy _ ihrest =>
        cases hzs with
        | cons hyz hzs =>
          refine .cons (ih _ List.mem_cons_self (hdecoded _ List.mem_cons_self) hxy hyz)
            (ihrest ?_ ?_ _ hzs ?_)
          · exact fun item hitem => ‹∀ item ∈ _, Decoded item› item (List.mem_cons_of_mem _ hitem)
          · exact fun item hitem => ih item (List.mem_cons_of_mem _ hitem)
          · exact fun item hitem => hdecoded item (List.mem_cons_of_mem _ hitem)
  | @obj fields hnodup _ ih =>
    obtain ⟨ys, rfl⟩ := jsonValuesEqual_obj_exists hab
    obtain ⟨zs, rfl⟩ := jsonValuesEqual_obj_exists hbc
    rw [jsonValuesEqual_obj_iff hnodup] at hab ⊢
    rw [jsonValuesEqual_obj_iff hb.nodup] at hbc
    intro key
    have hxy := hab key
    have hyz := hbc key
    cases hy : ys.lookup key with
    | none =>
      cases hx : fields.lookup key with
      | none => rwa [hy] at hyz
      | some x =>
        rw [hx, hy] at hxy
        cases hxy
    | some y =>
      cases hx : fields.lookup key with
      | none =>
        rw [hx, hy] at hxy
        cases hxy
      | some x =>
        cases hz : zs.lookup key with
        | none =>
          rw [hy, hz] at hyz
          cases hyz
        | some z =>
          rw [hx, hy] at hxy
          rw [hy, hz] at hyz
          cases hxy with
          | some hxy =>
            cases hyz with
            | some hyz => exact .some (ih _ (mem_of_lookup hx) (hb.of_lookup hy) hxy hyz)

/-! ## Booleans and numbers -/

/-- At some place that both values have, one holds a boolean and the other a number. -/
inductive BoolFacesNumber : Json → Json → Prop where
  | left {x : Bool} {b : Json} {p : Rat} (hb : b.strictNumber? = some p) :
    BoolFacesNumber (.bool x) b
  | right {a : Json} {x : Bool} {p : Rat} (ha : a.strictNumber? = some p) :
    BoolFacesNumber a (.bool x)
  | item {xs ys : List Json} {i : Nat} {x y : Json} (hx : xs[i]? = some x) (hy : ys[i]? = some y)
    (h : BoolFacesNumber x y) : BoolFacesNumber (.arr xs) (.arr ys)
  | member {xs ys : JsonObject} {key : String} {x y : Json} (hx : xs.lookup key = some x)
    (hy : ys.lookup key = some y) (h : BoolFacesNumber x y) :
    BoolFacesNumber (.obj xs) (.obj ys)

/-- Equal values hold no boolean where the other holds a number. -/
theorem not_boolFacesNumber_of_equal {a b : Json} (h : jsonValuesEqual a b = true) :
    ¬BoolFacesNumber a b := by
  intro hfaces
  induction hfaces with
  | left hb =>
    rw [jsonValuesEqual_bool_iff] at h
    rw [h] at hb
    cases hb
  | right ha => cases (jsonValuesEqual_number_iff ha).mp h
  | item hx hy _ ih =>
    obtain ⟨ys, heq, hitems⟩ := jsonValuesEqual_arr_iff.mp h
    obtain rfl := Json.arr.inj heq
    obtain ⟨hi, rfl⟩ := List.getElem?_eq_some_iff.mp hx
    obtain ⟨hj, rfl⟩ := List.getElem?_eq_some_iff.mp hy
    exact ih (hitems.get hi hj)
  | @member xs ys key x y hx hy _ ih =>
    rw [jsonValuesEqual_eq, Bool.and_eq_true, fieldsEqual_iff] at h
    obtain ⟨value, hvalue, heq⟩ := h.2 (key, x) (mem_of_lookup hx)
    rw [hy] at hvalue
    exact ih (Option.some.inj hvalue ▸ heq)

/-- Under `==` a number equals what compares as the same number. -/
theorem pyEq_number_iff {a b : Json} {p : Rat} (ha : a.strictNumber? = some p) :
    a.pyEq b = true ↔ b.number? = some p := by
  have hnumber : ∀ q : Rat, ((p == q) = true ↔ q = p) := fun q => by
    rw [beq_iff_eq]
    exact eq_comm
  cases a with
  | int n =>
    obtain rfl := Option.some.inj ha
    cases b <;> simp [pyEq, number?, hnumber]
  | float q =>
    obtain rfl := Option.some.inj ha
    cases b <;> simp [pyEq, number?, hnumber]
  | null | bool | str | arr | obj => cases ha

/-- A number that is no boolean is a number. -/
theorem Json.number_of_strictNumber {a : Json} {p : Rat} (ha : a.strictNumber? = some p) :
    a.number? = some p := by
  cases a with
  | int | float => exact ha
  | null | bool | str | arr | obj => cases ha

/-- What compares as a number is one, or a boolean. -/
theorem Json.strictNumber_of_number {a : Json} {p : Rat} (ha : a.number? = some p) :
    a.strictNumber? = some p ∨ ∃ x, a = .bool x := by
  cases a with
  | bool x => exact .inr ⟨x, rfl⟩
  | int | float => exact .inl ha
  | null | str | arr | obj => cases ha

/-- Equal values are equal under `==`. -/
theorem pyEq_of_jsonValuesEqual {a b : Json} (ha : Decoded a) (hb : Decoded b)
    (h : jsonValuesEqual a b = true) : a.pyEq b = true := by
  induction ha generalizing b with
  | null =>
    rw [jsonValuesEqual_null_iff.mp h]
    exact Decoded.null.pyEq_self
  | bool x =>
    rw [jsonValuesEqual_bool_iff.mp h]
    exact (Decoded.bool x).pyEq_self
  | str s =>
    rw [jsonValuesEqual_str_iff.mp h]
    exact (Decoded.str s).pyEq_self
  | int n =>
    exact (pyEq_number_iff rfl).mpr
      (number_of_strictNumber ((jsonValuesEqual_number_iff rfl).mp h))
  | float q =>
    exact (pyEq_number_iff rfl).mpr
      (number_of_strictNumber ((jsonValuesEqual_number_iff rfl).mp h))
  | @arr items _ ih =>
    obtain ⟨ys, rfl, hitems⟩ := jsonValuesEqual_arr_iff.mp h
    rw [pyEq, pyEqItems_iff]
    cases hb with
    | arr hys =>
      rw [List.forall₂_iff_get] at hitems ⊢
      exact ⟨hitems.1, fun i hi hi' => ih _ (List.getElem_mem _) (hys _ (List.getElem_mem _))
        (hitems.2 i hi hi')⟩
  | @obj fields hnodup _ ih =>
    obtain ⟨ys, rfl⟩ := jsonValuesEqual_obj_exists h
    rw [jsonValuesEqual_obj_iff hnodup] at h
    rw [pyEq_obj_iff hnodup hb.nodup]
    intro key
    have hkey := h key
    cases hx : fields.lookup key with
    | none =>
      cases hy : ys.lookup key with
      | none => exact .none
      | some y =>
        rw [hx, hy] at hkey
        cases hkey
    | some x =>
      cases hy : ys.lookup key with
      | none =>
        rw [hx, hy] at hkey
        cases hkey
      | some y =>
        rw [hx, hy] at hkey
        cases hkey with
        | some heq => exact .some (ih _ (mem_of_lookup hx) (hb.of_lookup hy) heq)

/-- Values that are equal under `==` are equal, unless a boolean faces a number. -/
theorem jsonValuesEqual_of_pyEq {a b : Json} (ha : Decoded a) (hb : Decoded b)
    (h : a.pyEq b = true) (hfaces : ¬BoolFacesNumber a b) : jsonValuesEqual a b = true := by
  induction ha generalizing b with
  | null => cases b <;> simp_all [pyEq, number?]
  | str s => cases b <;> simp_all [pyEq, number?]
  | bool x =>
    cases b with
    | bool y => rw [pyEq_bool_bool.mp h, jsonValuesEqual_bool_iff]
    | int | float => exact absurd (.left rfl) hfaces
    | null | str | arr | obj => simp [pyEq, number?] at h
  | int n =>
    rcases strictNumber_of_number ((pyEq_number_iff rfl).mp h) with hnumber | ⟨x, rfl⟩
    · exact (jsonValuesEqual_number_iff rfl).mpr hnumber
    · exact absurd (.right rfl) hfaces
  | float q =>
    rcases strictNumber_of_number ((pyEq_number_iff rfl).mp h) with hnumber | ⟨x, rfl⟩
    · exact (jsonValuesEqual_number_iff rfl).mpr hnumber
    · exact absurd (.right rfl) hfaces
  | @arr items _ ih =>
    cases hb with
    | @arr ys hys =>
      rw [pyEq, pyEqItems_iff, List.forall₂_iff_get] at h
      refine jsonValuesEqual_arr_iff.mpr ⟨ys, rfl, List.forall₂_iff_get.mpr ⟨h.1, ?_⟩⟩
      intro i hi hi'
      refine ih _ (List.getElem_mem _) (hys _ (List.getElem_mem _)) (h.2 i hi hi') fun hitem => ?_
      exact hfaces (.item (List.getElem?_eq_getElem hi) (List.getElem?_eq_getElem hi') hitem)
    | null | bool | int | float | str | obj => simp [pyEq, number?] at h
  | @obj fields hnodup _ ih =>
    cases hb with
    | @obj ys hnodup' hys =>
      rw [pyEq_obj_iff hnodup hnodup'] at h
      rw [jsonValuesEqual_obj_iff hnodup]
      intro key
      have hkey := h key
      cases hx : fields.lookup key with
      | none =>
        cases hy : ys.lookup key with
        | none => exact .none
        | some y =>
          rw [hx, hy] at hkey
          cases hkey
      | some x =>
        cases hy : ys.lookup key with
        | none =>
          rw [hx, hy] at hkey
          cases hkey
        | some y =>
          rw [hx, hy] at hkey
          cases hkey with
          | some heq =>
            refine .some (ih _ (mem_of_lookup hx) (hys _ (mem_of_lookup hy)) heq fun hmember => ?_)
            exact hfaces (.member hx hy hmember)
    | null | bool | int | float | str | arr => simp [pyEq, number?] at h

/-- The equality is `==` without a boolean that faces a number. -/
theorem jsonValuesEqual_iff_pyEq {a b : Json} (ha : Decoded a) (hb : Decoded b) :
    jsonValuesEqual a b = true ↔ a.pyEq b = true ∧ ¬BoolFacesNumber a b :=
  ⟨fun h => ⟨pyEq_of_jsonValuesEqual ha hb h, not_boolFacesNumber_of_equal h⟩,
    fun h => jsonValuesEqual_of_pyEq ha hb h.1 h.2⟩

/-! ## The second comparison site -/

/-- A match of a legacy bundle that compares the value at a path with an expected value that
    is no text. -/
structure ComparesValue (legacyMatch : JsonObject) (path : String) (expected : Json) : Prop where
  headerPresent : textField? legacyMatch "header-present" = none
  header : textField? legacyMatch "header" = none
  json : textField? legacyMatch "JSON" = some path
  value : legacyMatch.lookup "Value" = some expected
  notText : isString expected = false

/-- A match accepts a response. -/
def AcceptsMatch (library : AssertionLibrary) (legacyMatch : JsonObject)
    (headers : Dict String String) (body : JsonObject) : Prop :=
  ∃ message, evaluateLegacyMatch library legacyMatch headers body = .ok (true, message)

/-- Such a match accepts the values that equal the expected one under `==`. -/
theorem acceptsMatch_iff_pyEq {library : AssertionLibrary} {legacyMatch : JsonObject}
    {path : String} {expected value : Json} {headers : Dict String String} {body : JsonObject}
    (h : ComparesValue legacyMatch path expected)
    (hvalue : resolveLegacyJsonPath body path = some value) :
    AcceptsMatch library legacyMatch headers body ↔ value.pyEq expected = true := by
  have haccepts : legacyValueAccepts library expected value = .ok (value.pyEq expected) := by
    unfold legacyValueAccepts
    split
    · cases h.notText
    · rfl
  unfold AcceptsMatch evaluateLegacyMatch
  simp only [h.headerPresent, h.header, h.json, evaluateLegacyJson, hvalue, h.value, haccepts]
  cases value.pyEq expected with
  | true => exact iff_of_true ⟨_, rfl⟩ rfl
  | false => exact iff_of_false (fun ⟨_, hmessage⟩ => by cases hmessage) Bool.false_ne_true

/-- The equality is an equivalence, looks into arrays and objects and separates booleans from
    numbers. A legacy match agrees with it on a value unless the two are equal under `==` and
    a boolean of one faces a number of the other. -/
theorem jsonValuesEqual_legacy_iff (library : AssertionLibrary) :
    (∀ a, Decoded a → jsonValuesEqual a a = true) ∧
    (∀ a b, Decoded a → Decoded b → jsonValuesEqual a b = true → jsonValuesEqual b a = true) ∧
    (∀ a b c, Decoded a → Decoded b → jsonValuesEqual a b = true → jsonValuesEqual b c = true →
      jsonValuesEqual a c = true) ∧
    (∀ xs ys, jsonValuesEqual (.arr xs) (.arr ys) = true ↔
      List.Forall₂ (fun x y => jsonValuesEqual x y = true) xs ys) ∧
    (∀ xs ys, Decoded (.obj xs) → (jsonValuesEqual (.obj xs) (.obj ys) = true ↔
      ∀ key, Option.Rel (fun x y => jsonValuesEqual x y = true) (xs.lookup key)
        (ys.lookup key))) ∧
    (∀ a b, jsonValuesEqual a b = true → ¬BoolFacesNumber a b) ∧
    ∀ legacyMatch path expected headers body value, ComparesValue legacyMatch path expected →
      resolveLegacyJsonPath body path = some value → Decoded value → Decoded expected →
      ((AcceptsMatch library legacyMatch headers body ↔ jsonValuesEqual value expected = true) ↔
        ¬(value.pyEq expected = true ∧ BoolFacesNumber value expected)) := by
  refine ⟨fun a => jsonValuesEqual_refl, fun a b => jsonValuesEqual_symm,
    fun a b c => jsonValuesEqual_trans, fun xs ys => ?_,
    fun xs ys hxs => jsonValuesEqual_obj_iff hxs.nodup, fun a b => not_boolFacesNumber_of_equal, ?_⟩
  · rw [jsonValuesEqual_arr_iff]
    exact ⟨fun ⟨zs, heq, h⟩ => Json.arr.inj heq ▸ h, fun h => ⟨ys, rfl, h⟩⟩
  · intro legacyMatch path expected headers body value hmatch hvalue hdecoded hexpected
    -- the legacy match is Python's equality, which takes a boolean for a number
    rw [acceptsMatch_iff_pyEq hmatch hvalue, jsonValuesEqual_iff_pyEq hdecoded hexpected]
    exact ⟨fun h hboth => (h.mp hboth.1).2 hboth.2,
      fun h => ⟨fun heq => ⟨heq, fun hfaces => h ⟨heq, hfaces⟩⟩, And.left⟩⟩

/-- A legacy match on the value of a field. -/
def valueMatch (expected : Json) : JsonObject := [("JSON", .str "Data.Flag"), ("Value", expected)]

/-- A body with a value in that field. -/
def flagBody (value : Json) : JsonObject := [("Data", .obj [("Flag", value)])]

/-- A match with a value compares it. -/
theorem comparesValue_valueMatch {expected : Json} (h : isString expected = false) :
    ComparesValue (valueMatch expected) "Data.Flag" expected where
  headerPresent := rfl
  header := rfl
  json := rfl
  value := rfl
  notText := h

/-- The texts of ASCII strings without quotes, of booleans and of integers; no schema is
    there. -/
def plainLibrary : AssertionLibrary where
  lower s := String.ofList (s.toList.map Char.toLower)
  repr
    | .str s => "'" ++ s ++ "'"
    | _ => ""
  pyStr
    | .str s => s
    | .int n => toString n
    | .bool b => if b then "True" else "False"
    | _ => ""
  floats := ⟨fun _ => [], fun _ => .nan⟩
  urls := ⟨fun cs => cs.map Char.toLower, id, String.ofList⟩
  schemas := ⟨fun _ => none, fun _ _ => .ok []⟩

/-- An expected `1` accepts `true`, which is not equal to it. -/
theorem legacy_accepts_bool_for_number :
    ComparesValue (valueMatch (.int 1)) "Data.Flag" (.int 1) ∧
      AcceptsMatch plainLibrary (valueMatch (.int 1)) .empty (flagBody (.bool true)) ∧
      jsonValuesEqual (.bool true) (.int 1) = false :=
  ⟨comparesValue_valueMatch rfl, ⟨_, rfl⟩, rfl⟩

end Conformance
