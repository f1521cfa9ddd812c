import Conformance.Spec.JsonObjects

/-!
# Values that agree outside hidden keys

Two JSON values agree outside a set of keys when what can be reached without passing
through one of these keys is the same in both: the scalars, the lengths of the lists
and the keys of the objects, the hidden ones included. The order of the members of an
object does not count, as in a text that is written with sorted keys.

## Key results

- `agreeOutside_obj_iff`: two objects agree member by member
- `AgreeOutside.trans`: agreement is an equivalence
-/

namespace Conformance.Json

/-- Two values that are the same but for what stands under hidden keys. -/
inductive AgreeOutside (hidden : String → Bool) : Json → Json → Prop where
  | refl (value : Json) : AgreeOutside hidden value value
  | arr {items items' : List Json} (hlength : items.length = items'.length)
      (hitems : ∀ (i : Nat) item item', items[i]? = some item → items'[i]? = some item' →
        AgreeOutside hidden item item') :
      AgreeOutside hidden (.arr items) (.arr items')
  | obj {fields fields' : JsonObject}
      (hkeys : ∀ name, (fields.lookup name).isSome = (fields'.lookup name).isSome)
      (hmembers : ∀ name value value', hidden name = false → fields.lookup name = some value →
        fields'.lookup name = some value' → AgreeOutside hidden value value') :
      AgreeOutside hidden (.obj fields) (.obj fields')

/-- Two members called `name`: both are there or neither is, and they agree unless the name
    is hidden. -/
def MemberAgrees (hidden : String → Bool) (name : String) (value value' : Option Json) : Prop :=
  value.isSome = value'.isSome ∧
    (hidden name = false → ∀ v ∈ value, ∀ v' ∈ value', AgreeOutside hidden v v')

variable {hidden : String → Bool}

/-! ## Members -/

/-- A member agrees with itself. -/
theorem MemberAgrees.refl (name : String) (value : Option Json) :
    MemberAgrees hidden name value value := by
  refine ⟨rfl, fun _ v hv v' hv' => ?_⟩
  obtain rfl := Option.some.inj (hv.symm.trans hv')
  exact .refl v

/-- Members that are there agree when they are hidden or their values agree. -/
theorem memberAgrees_some {name : String} {value value' : Json} :
    MemberAgrees hidden name (some value) (some value') ↔
      (hidden name = false → AgreeOutside hidden value value') := by
  simp [MemberAgrees]

/-- Objects agree when their members do. -/
theorem agreeOutside_obj_iff {fields fields' : JsonObject} :
    AgreeOutside hidden (.obj fields) (.obj fields') ↔
      ∀ name, MemberAgrees hidden name (fields.lookup name) (fields'.lookup name) := by
  constructor
  · intro h name
    cases h with
    | refl => exact .refl name _
    | obj hkeys hmembers =>
      exact ⟨hkeys name, fun hname v hv v' hv' => hmembers name v v' hname hv hv'⟩
  · intro h
    exact .obj (fun name => (h name).1) fun name v v' hname hv hv' => (h name).2 hname v hv v' hv'

/-- Objects agree when their first members do and the others do. -/
theorem AgreeOutside.cons {name : String} {value value' : Json} {fields fields' : JsonObject}
    (hvalue : hidden name = false → AgreeOutside hidden value value')
    (hfields : AgreeOutside hidden (.obj fields) (.obj fields')) :
    AgreeOutside hidden (.obj ((name, value) :: fields)) (.obj ((name, value') :: fields')) := by
  rw [agreeOutside_obj_iff]
  intro other
  by_cases hother : other = name
  · rw [hother, List.lookup_cons_self, List.lookup_cons_self]
    exact memberAgrees_some.mpr hvalue
  · rw [List.lookup_cons, List.lookup_cons, beq_eq_false_iff_ne.mpr hother]
    exact agreeOutside_obj_iff.mp hfields other

/-- Objects agree when they differ in the value of a hidden first member only. -/
theorem AgreeOutside.cons_hidden {name : String} (value value' : Json) {fields fields' : JsonObject}
    (hname : hidden name = true) (hfields : AgreeOutside hidden (.obj fields) (.obj fields')) :
    AgreeOutside hidden (.obj ((name, value) :: fields)) (.obj ((name, value') :: fields')) :=
  .cons (fun hvisible => by rw [hname] at hvisible; cases hvisible) hfields

/-! ## An equivalence -/

/-- Values agree either way. -/
theorem AgreeOutside.symm {value value' : Json} (h : AgreeOutside hidden value value') :
    AgreeOutside hidden value' value := by
  induction h with
  | refl value => exact .refl value
  | arr hlength _ ih =>
    exact .arr hlength.symm fun i item item' hitem hitem' => ih i item' item hitem' hitem
  | obj hkeys _ ih =>
    exact .obj (fun name => (hkeys name).symm) fun name v v' hname hv hv' =>
      ih name v' v hname hv' hv

/-- Values that agree with one agree. -/
theorem AgreeOutside.trans {value value' value'' : Json} (h : AgreeOutside hidden value value')
    (h' : AgreeOutside hidden value' value'') : AgreeOutside hidden value value'' := by
  induction h generalizing value'' with
  | refl => exact h'
  | arr hlength hitems ih =>
    cases h' with
    | refl => exact .arr hlength hitems
    | arr hlength' hitems' =>
      refine .arr (hlength.trans hlength') fun i item item'' hitem hitem'' => ?_
      obtain ⟨hi, -⟩ := List.getElem?_eq_some_iff.mp hitem
      have hmiddle := List.getElem?_eq_getElem (hlength ▸ hi)
      exact ih i _ _ hitem hmiddle (hitems' i _ _ hmiddle hitem'')
  | obj hkeys hmembers ih =>
    cases h' with
    | refl => exact .obj hkeys hmembers
    | obj hkeys' hmembers' =>
      refine .obj (fun name => (hkeys name).trans (hkeys' name)) fun name v v'' hname hv hv'' => ?_
      obtain ⟨v', hv'⟩ := Option.isSome_iff_exists.mp ((hkeys name).symm.trans (by rw [hv]; rfl))
      exact ih name v v' hname hv hv' (hmembers' name v' v'' hname hv' hv'')

/-- Agreement of two values is agreement of two that agree with them. -/
theorem AgreeOutside.congr {value value' other other' : Json}
    (h : AgreeOutside hidden value other) (h' : AgreeOutside hidden value' other') :
    AgreeOutside hidden other other' ↔ AgreeOutside hidden value value' :=
  ⟨fun hagree => (h.trans hagree).trans h'.symm, fun hagree => (h.symm.trans hagree).trans h'⟩

/-- Lists of the same length agree item by item. -/
theorem agreeOutside_map (f : Json → Json) {items : List Json}
    (h : ∀ item ∈ items, AgreeOutside hidden item (f item)) :
    AgreeOutside hidden (.arr items) (.arr (items.map f)) := by
  refine .arr (List.length_map f).symm fun i item item' hitem hitem' => ?_
  rw [List.getElem?_map, hitem] at hitem'
  obtain rfl := Option.some.inj hitem'
  exact h item (List.mem_of_getElem? hitem)

/-- An object agrees with one that has other values under hidden keys only. -/
theorem agreeOutside_mapFields (f : String → Json → Json) {fields : JsonObject}
    (h : ∀ field ∈ fields, hidden field.1 = false →
      AgreeOutside hidden field.2 (f field.1 field.2)) :
    AgreeOutside hidden (.obj fields)
      (.obj (fields.map fun field => (field.1, f field.1 field.2))) := by
  rw [agreeOutside_obj_iff]
  intro name
  rw [lookup_map_value]
  cases hvalue : fields.lookup name with
  | none => exact .refl name none
  | some value => exact memberAgrees_some.mpr fun hname => h _ (mem_of_lookup hvalue) hname

end Conformance.Json
