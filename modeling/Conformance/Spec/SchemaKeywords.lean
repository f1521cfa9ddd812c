import Conformance.ForStd.Except
import Conformance.Native.SchemaValidation
import Conformance.Spec.JsonObjects

/-!
# Keywords of prepared schemas

A schema without references is prepared by translating the keywords of every object in it,
also of those that are no schemas. That keeps the properties, the types and the enums of
every schema in it, unless a property has the name of a keyword that is taken out.

## Key results

- `lookup_normalizeOpenapiSchemaKeywords`: the fields of a translated object
- `allObjects_normalized`, `normalized_of_isPrepared`: what is prepared stays as it is
- `prepareValue_of_referenceFree`: preparing without references
- `keepsConstraints_iff`: when nothing of a schema is lost
-/

namespace Conformance

open Except PlanConfig

/-! ## Objects in a value -/

/-- Every object in a value satisfies `P`. -/
inductive Json.AllObjects (P : JsonObject → Prop) : Json → Prop where
  | null : AllObjects P .null
  | bool (b : Bool) : AllObjects P (.bool b)
  | int (n : Int) : AllObjects P (.int n)
  | float (q : Rat) : AllObjects P (.float q)
  | str (s : String) : AllObjects P (.str s)
  | arr {items : List Json} : (∀ item ∈ items, AllObjects P item) → AllObjects P (.arr items)
  | obj {fields : JsonObject} : P fields → (∀ field ∈ fields, AllObjects P field.2) →
    AllObjects P (.obj fields)

namespace Json.AllObjects

variable {P : JsonObject → Prop}

/-- What holds of all objects holds of the object itself. -/
theorem of_fields {fields : JsonObject} (h : AllObjects P (.obj fields)) : P fields := by
  cases h with
  | obj hfields => exact hfields

/-- It holds of all objects in a member. -/
theorem of_member {fields : JsonObject} (h : AllObjects P (.obj fields)) {field : String × Json}
    (hfield : field ∈ fields) : AllObjects P field.2 := by
  cases h with
  | obj _ hmembers => exact hmembers field hfield

/-- It holds of all objects in an item. -/
theorem of_item {items : List Json} (h : AllObjects P (.arr items)) {item : Json}
    (hitem : item ∈ items) : AllObjects P item := by
  cases h with
  | arr hitems => exact hitems item hitem

theorem of_lookup {fields : JsonObject} (h : AllObjects P (.obj fields)) {key : String}
    {value : Json} (hlookup : fields.lookup key = some value) : AllObjects P value :=
  h.of_member (mem_of_lookup hlookup)

/-- A list of strings has no object. -/
theorem of_isString {items : List Json} (h : items.all isString = true) :
    AllObjects P (.arr items) := by
  refine .arr fun item hitem => ?_
  have hstring := List.all_eq_true.mp h item hitem
  cases item with
  | str s => exact .str s
  | null | bool | int | float | arr | obj => cases hstring

end Json.AllObjects

/-! ## The keywords of one object -/

theorem lookup_popField (schema : JsonObject) (key other : String) :
    (popField schema key).lookup other = if other = key then none else schema.lookup other :=
  lookup_eraseField schema key other

theorem popField_of_notMem {schema : JsonObject} {key : String}
    (h : ∀ field ∈ schema, field.1 ≠ key) : popField schema key = schema :=
  List.filter_eq_self.mpr fun field hfield => decide_eq_true (h field hfield)

theorem mem_popField {schema : JsonObject} {key : String} {field : String × Json} :
    field ∈ popField schema key ↔ field ∈ schema ∧ field.1 ≠ key := by
  simp [popField]

/-- A key that no member has is missing. -/
theorem lookup_of_forall_ne {schema : JsonObject} {key : String}
    (h : ∀ field ∈ schema, field.1 ≠ key) : schema.lookup key = none := by
  rw [lookup_eq_none_iff_notMem_keys, List.mem_map]
  rintro ⟨field, hfield, heq⟩
  exact h field hfield heq

/-- A member of an updated object is the new one or an old one. -/
theorem mem_setField {fields : JsonObject} {key : String} {value : Json} {field : String × Json}
    (h : field ∈ setField fields key value) : field = (key, value) ∨ field ∈ fields := by
  unfold setField at h
  split at h
  · obtain ⟨old, hold, heq⟩ := List.mem_map.mp h
    split at heq
    · exact .inl heq.symm
    · exact .inr (heq ▸ hold)
  · rw [List.mem_append, List.mem_singleton] at h
    exact h.symm

/-- The strings under `x-namespaced-enum`. -/
def namespacedEnum? (schema : JsonObject) : Option Json :=
  match schema.lookup "x-namespaced-enum" with
  | some (.arr items) => if items.all isString then some (.arr items) else none
  | _ => none

/-- `schema.get("nullable") is True`. -/
def isNullable (schema : JsonObject) : Bool :=
  match schema.lookup "nullable" with
  | some (.bool nullable) => nullable
  | _ => false

/-- A `type` that admits null besides. -/
def withNull : Json → Json
  | .str schemaType => .arr [.str schemaType, .str "null"]
  | .arr schemaTypes =>
    if schemaTypes.any (isTextValue "null") = false ∧ schemaTypes.all isString then
      .arr (schemaTypes ++ [.str "null"])
    else .arr schemaTypes
  | value => value

/-- The members after the namespaced enumeration is translated. -/
theorem lookup_normalizeNamespacedEnum (schema : JsonObject) (key : String) :
    (normalizeNamespacedEnum schema).lookup key =
      if key = "x-namespaced-enum" then none
      else if key = "enum" then (schema.lookup "enum").or (namespacedEnum? schema)
      else schema.lookup key := by
  have henum : (popField schema "x-namespaced-enum").lookup "enum" = schema.lookup "enum" := by
    rw [lookup_popField, if_neg (by decide)]
  have hrest : (popField schema "x-namespaced-enum").lookup key =
      if key = "x-namespaced-enum" then none
      else if key = "enum" then (schema.lookup "enum").or none else schema.lookup key := by
    rw [lookup_popField]
    split_ifs with hnamespaced henumKey
    · rfl
    · rw [Option.or_none, henumKey]
    · rfl
  unfold normalizeNamespacedEnum namespacedEnum?
  cases hvalue : schema.lookup "x-namespaced-enum" with
  | none => exact hrest
  | some value =>
    cases value with
    | arr items =>
      dsimp only
      rw [henum]
      by_cases hstrings : items.all isString = true
      · cases hold : schema.lookup "enum" with
        | some old =>
          rw [if_neg (by simp), hrest, hold]
          rfl
        | none =>
          rw [if_pos ⟨rfl, hstrings⟩, List.lookup_append, hrest, hold, if_pos hstrings]
          split_ifs with hnamespaced henumKey
          · subst hnamespaced
            rfl
          · subst henumKey
            rfl
          · rw [List.lookup_cons, beq_eq_false_iff_ne.mpr henumKey]
            exact Option.or_none
      · rw [if_neg fun h => hstrings h.2, if_neg hstrings, hrest]
    | null | bool | int | float | str | obj => exact hrest

/-- The members after `nullable` is translated. -/
theorem lookup_normalizeNullable (schema : JsonObject) (key : String) :
    (normalizeNullable schema).lookup key =
      if key = "nullable" then none
      else if key = "type" ∧ isNullable schema then (schema.lookup "type").map withNull
      else schema.lookup key := by
  have htype : (popField schema "nullable").lookup "type" = schema.lookup "type" := by
    rw [lookup_popField, if_neg (by decide)]
  have hset : ∀ value, (setField (popField schema "nullable") "type" value).lookup key =
      if key = "nullable" then none else if key = "type" then some value else schema.lookup key := by
    intro value
    rw [lookup_setField, lookup_popField]
    by_cases hkey : key = "type"
    · subst hkey
      rfl
    · rw [if_neg hkey, if_neg hkey]
  have hrest := lookup_popField schema "nullable" key
  unfold normalizeNullable isNullable
  cases hnullable : schema.lookup "nullable" with
  | none => simpa using hrest
  | some value =>
    cases value with
    | bool nullable =>
      cases nullable with
      | false => simpa using hrest
      | true =>
        have hkeep : (schema.lookup "type").map withNull = schema.lookup "type" →
            (popField schema "nullable").lookup key =
              if key = "nullable" then none
              else if key = "type" ∧ true = true then (schema.lookup "type").map withNull
              else schema.lookup key := by
          intro hsame
          rw [hrest, hsame]
          by_cases hkey : key = "type"
          · simp [hkey]
          · simp [hkey]
        have hwrite : ∀ value, (schema.lookup "type").map withNull = some value →
            (setField (popField schema "nullable") "type" value).lookup key =
              if key = "nullable" then none
              else if key = "type" ∧ true = true then (schema.lookup "type").map withNull
              else schema.lookup key := by
          intro value hvalue
          rw [hset, hvalue]
          simp only [and_true]
        dsimp only
        rw [htype]
        generalize schema.lookup "type" = old at hkeep hwrite ⊢
        cases old with
        | none => exact hkeep rfl
        | some old =>
          cases old with
          | str schemaType => exact hwrite _ rfl
          | arr schemaTypes =>
            dsimp only
            by_cases hplain : schemaTypes.any (isTextValue "null") = false ∧
                schemaTypes.all isString = true
            · rw [if_pos hplain]
              exact hwrite _ (by rw [Option.map_some, withNull, if_pos hplain])
            · rw [if_neg hplain]
              exact hkeep (by rw [Option.map_some, withNull, if_neg hplain])
          | null | bool | int | float | obj => exact hkeep rfl
    | null | int | float | str | arr | obj => simpa using hrest

/-- The fields of a translated object. -/
theorem lookup_normalizeOpenapiSchemaKeywords (schema : JsonObject) (key : String) :
    (normalizeOpenapiSchemaKeywords schema).lookup key =
      if key = "x-namespaced-enum" ∨ key = "nullable" then none
      else if key = "enum" then (schema.lookup "enum").or (namespacedEnum? schema)
      else if key = "type" ∧ isNullable schema then (schema.lookup "type").map withNull
      else schema.lookup key := by
  have hnullable : isNullable (normalizeNamespacedEnum schema) = isNullable schema := by
    unfold isNullable
    rw [lookup_normalizeNamespacedEnum, if_neg (by decide), if_neg (by decide)]
  rw [normalizeOpenapiSchemaKeywords, lookup_normalizeNullable, hnullable,
    lookup_normalizeNamespacedEnum, lookup_normalizeNamespacedEnum]
  by_cases hnamespaced : key = "x-namespaced-enum"
  · subst hnamespaced
    simp
  · by_cases hnullableKey : key = "nullable"
    · simp [hnullableKey]
    · by_cases henum : key = "enum"
      · subst henum
        simp
      · simp [hnamespaced, hnullableKey, henum]

/-- The keywords that are taken out. -/
def removedKeywords : List String := ["x-namespaced-enum", "nullable"]

/-- An object without keywords to translate stays as it is. -/
theorem normalizeOpenapiSchemaKeywords_of_plain {schema : JsonObject}
    (h : ∀ field ∈ schema, field.1 ∉ removedKeywords) :
    normalizeOpenapiSchemaKeywords schema = schema := by
  have hnamespaced : ∀ field ∈ schema, field.1 ≠ "x-namespaced-enum" :=
    fun field hfield heq => h field hfield (by simp [heq, removedKeywords])
  have hnullable : ∀ field ∈ schema, field.1 ≠ "nullable" :=
    fun field hfield heq => h field hfield (by simp [heq, removedKeywords])
  simp only [normalizeOpenapiSchemaKeywords, normalizeNamespacedEnum,
    lookup_of_forall_ne hnamespaced, popField_of_notMem hnamespaced, normalizeNullable,
    lookup_of_forall_ne hnullable, popField_of_notMem hnullable]

/-- A field of a translated object is one that the object had, and else an `enum` or a
    `type` that is an array of strings. -/
theorem mem_normalizeOpenapiSchemaKeywords {schema : JsonObject} {field : String × Json}
    (h : field ∈ normalizeOpenapiSchemaKeywords schema) :
    field.1 ∉ removedKeywords ∧ (field ∈ schema ∨ (field.1 = "enum" ∨ field.1 = "type") ∧
      ∃ items, field.2 = .arr items ∧ items.all isString = true) := by
  have hfirst : ∀ field ∈ normalizeNamespacedEnum schema, field.1 ≠ "x-namespaced-enum" ∧
      (field ∈ schema ∨ field.1 = "enum" ∧
        ∃ items, field.2 = .arr items ∧ items.all isString = true) := by
    intro field hfield
    have hrest : field ∈ popField schema "x-namespaced-enum" → field.1 ≠ "x-namespaced-enum" ∧
        (field ∈ schema ∨ field.1 = "enum" ∧
          ∃ items, field.2 = .arr items ∧ items.all isString = true) :=
      fun hmem => ⟨(mem_popField.mp hmem).2, .inl (mem_popField.mp hmem).1⟩
    unfold normalizeNamespacedEnum at hfield
    split at hfield
    · dsimp only at hfield
      split at hfield
      · rename_i items _ hcond
        rcases List.mem_append.mp hfield with hmem | hmem
        · exact hrest hmem
        · obtain rfl := List.mem_singleton.mp hmem
          exact ⟨by simp, .inr ⟨rfl, items, rfl, hcond.2⟩⟩
      · exact hrest hfield
    · exact hrest hfield
  have hrest : field ∈ popField (normalizeNamespacedEnum schema) "nullable" →
      field.1 ∉ removedKeywords ∧ (field ∈ schema ∨ (field.1 = "enum" ∨ field.1 = "type") ∧
        ∃ items, field.2 = .arr items ∧ items.all isString = true) := by
    intro hmem
    obtain ⟨hmem, hnullable⟩ := mem_popField.mp hmem
    obtain ⟨hnamespaced, hfrom⟩ := hfirst field hmem
    exact ⟨by simp [removedKeywords, hnamespaced, hnullable],
      hfrom.imp_right fun h => ⟨.inl h.1, h.2⟩⟩
  have hset : ∀ items : List Json, items.all isString = true →
      field ∈ setField (popField (normalizeNamespacedEnum schema) "nullable") "type" (.arr items) →
      field.1 ∉ removedKeywords ∧ (field ∈ schema ∨ (field.1 = "enum" ∨ field.1 = "type") ∧
        ∃ items, field.2 = .arr items ∧ items.all isString = true) := by
    intro items hitems hmem
    rcases mem_setField hmem with rfl | hmem
    · exact ⟨by simp [removedKeywords], .inr ⟨.inr rfl, items, rfl, hitems⟩⟩
    · exact hrest hmem
  unfold normalizeOpenapiSchemaKeywords normalizeNullable at h
  split at h
  · dsimp only at h
    split at h
    · exact hset _ (by simp [isString]) h
    · split at h
      · rename_i hcond
        exact hset _ (by simp [isString, hcond.2]) h
      · exact hrest h
    · exact hrest h
  · exact hrest h

/-! ## Prepared values -/

/-- An object without a reference. -/
def IsReferenceFree (fields : JsonObject) : Prop := ∀ field ∈ fields, field.1 ≠ "$ref"

/-- An object without a reference and without a keyword that is taken out. -/
structure IsPrepared (fields : JsonObject) : Prop where
  referenceFree : IsReferenceFree fields
  plain : ∀ field ∈ fields, field.1 ∉ removedKeywords

/-- Translating an object with prepared members gives a prepared one. -/
theorem allObjects_normalize {schema : JsonObject} (hfree : IsReferenceFree schema)
    (hmembers : ∀ field ∈ schema, field.2.AllObjects IsPrepared) :
    (Json.obj (normalizeOpenapiSchemaKeywords schema)).AllObjects IsPrepared := by
  refine .obj ⟨fun field hfield => ?_, fun field hfield =>
    (mem_normalizeOpenapiSchemaKeywords hfield).1⟩ fun field hfield => ?_
  · rcases (mem_normalizeOpenapiSchemaKeywords hfield).2 with hmem | ⟨hkey, -⟩
    · exact hfree field hmem
    · rcases hkey with hkey | hkey <;> simp [hkey]
  · rcases (mem_normalizeOpenapiSchemaKeywords hfield).2 with hmem | ⟨-, items, hvalue, hstrings⟩
    · exact hmembers field hmem
    · exact hvalue ▸ .of_isString hstrings

mutual

/-- A value with the keywords of every object in it translated. -/
def Json.normalized : Json → Json
  | .obj fields => .obj (normalizeOpenapiSchemaKeywords (normalizedFields fields))
  | .arr items => .arr (normalizedItems items)
  | value => value

/-- `Json.normalized` of every member. -/
def normalizedFields : List (String × Json) → JsonObject
  | [] => []
  | (key, member) :: rest => (key, member.normalized) :: normalizedFields rest

/-- `Json.normalized` of every item. -/
def normalizedItems : List Json → List Json
  | [] => []
  | item :: rest => item.normalized :: normalizedItems rest

end

/-- The members of an object are translated one by one. -/
theorem normalizedFields_eq (fields : List (String × Json)) :
    normalizedFields fields = fields.map fun field => (field.1, field.2.normalized) := by
  induction fields with
  | nil => rfl
  | cons field rest ih => rw [normalizedFields, ih, List.map_cons]

/-- The items of a list are translated one by one. -/
theorem normalizedItems_eq (items : List Json) :
    normalizedItems items = items.map Json.normalized := by
  induction items with
  | nil => rfl
  | cons item rest ih => rw [normalizedItems, ih, List.map_cons]

section Preparing

variable (resolve : String → Except PyError Json)

/-- The items of a list are prepared one by one. -/
theorem prepareItems_eq (items : List Json) :
    prepareItems resolve items = items.mapM (prepareValue resolve) := by
  induction items with
  | nil => rfl
  | cons item rest ih => rw [prepareItems, ih, List.mapM_cons]

/-- The members besides a reference, prepared. -/
theorem prepareFields_eq (fields : List (String × Json)) :
    prepareFields resolve fields = (fields.filter fun field => field.1 ≠ "$ref").mapM fun field => do
      let prepared ← prepareValue resolve field.2
      return (field.1, prepared) := by
  induction fields with
  | nil => rfl
  | cons field rest ih =>
    rw [prepareFields]
    by_cases hkey : field.1 = "$ref"
    · rw [if_pos hkey, List.filter_cons_of_neg (by simp [hkey]), ih]
    · rw [if_neg hkey, List.filter_cons_of_pos (by simp [hkey]), List.mapM_cons, ih]
      cases prepareValue resolve field.2 with
      | error e => rfl
      | ok prepared => rfl

theorem filter_of_isReferenceFree {fields : JsonObject} (h : IsReferenceFree fields) :
    fields.filter (fun field => field.1 ≠ "$ref") = fields :=
  List.filter_eq_self.mpr fun field hfield => decide_eq_true (h field hfield)

/-- Without references a value is prepared by translating its objects. -/
theorem prepareValue_of_referenceFree {value : Json} (h : value.AllObjects IsReferenceFree) :
    prepareValue resolve value = .ok value.normalized := by
  induction value using Json.induction with
  | obj fields ih =>
    have hfields : prepareFields resolve fields = .ok (normalizedFields fields) := by
      rw [prepareFields_eq, filter_of_isReferenceFree h.of_fields, normalizedFields_eq,
        List.mapM_eq_ok, List.forall₂_map_right_iff, List.forall₂_same]
      intro field hfield
      rw [ih field hfield (h.of_member hfield)]
      rfl
    rw [prepareValue, lookup_of_forall_ne h.of_fields]
    dsimp only
    rw [hfields]
    rfl
  | arr items ih =>
    have hitems : prepareItems resolve items = .ok (normalizedItems items) := by
      rw [prepareItems_eq, normalizedItems_eq, List.mapM_eq_ok, List.forall₂_map_right_iff,
        List.forall₂_same]
      exact fun item hitem => ih item hitem (h.of_item hitem)
    rw [prepareValue, hitems]
    rfl
  | null | bool | int | float | str => rfl

end Preparing

/-- What follows from what holds of all objects does. -/
theorem Json.AllObjects.imp {P Q : JsonObject → Prop} (himp : ∀ fields, P fields → Q fields)
    {value : Json} (h : value.AllObjects P) : value.AllObjects Q := by
  induction h with
  | null => exact .null
  | bool b => exact .bool b
  | int n => exact .int n
  | float q => exact .float q
  | str s => exact .str s
  | arr _ ih => exact .arr ih
  | obj hfields _ ih => exact .obj (himp _ hfields) ih

/-- What is prepared stays as it is. -/
theorem normalized_of_isPrepared {value : Json} (h : value.AllObjects IsPrepared) :
    value.normalized = value := by
  induction value using Json.induction with
  | obj fields ih =>
    have hfields : normalizedFields fields = fields := by
      rw [normalizedFields_eq]
      nth_rewrite 2 [← List.map_id fields]
      refine List.map_congr_left fun field hfield => ?_
      rw [ih field hfield (h.of_member hfield)]
      rfl
    rw [Json.normalized, hfields, normalizeOpenapiSchemaKeywords_of_plain h.of_fields.plain]
  | arr items ih =>
    rw [Json.normalized, normalizedItems_eq]
    nth_rewrite 2 [← List.map_id items]
    exact congrArg Json.arr (List.map_congr_left fun item hitem => ih item hitem (h.of_item hitem))
  | null | bool | int | float | str => rfl

/-- Without references, what is prepared is prepared for good. -/
theorem allObjects_normalized {value : Json} (h : value.AllObjects IsReferenceFree) :
    value.normalized.AllObjects IsPrepared := by
  induction value using Json.induction with
  | obj fields ih =>
    rw [Json.normalized, normalizedFields_eq]
    refine allObjects_normalize ?_ ?_
    · intro field hfield
      obtain ⟨old, hold, rfl⟩ := List.mem_map.mp hfield
      exact h.of_fields old hold
    · intro field hfield
      obtain ⟨old, hold, rfl⟩ := List.mem_map.mp hfield
      exact ih old hold (h.of_member hold)
  | arr items ih =>
    rw [Json.normalized, normalizedItems_eq]
    refine .arr fun item hitem => ?_
    obtain ⟨old, hold, rfl⟩ := List.mem_map.mp hitem
    exact ih old hold (h.of_item hold)
  | null => exact .null
  | bool b => exact .bool b
  | int n => exact .int n
  | float q => exact .float q
  | str s => exact .str s

/-! ## Schemas in a schema -/

/-- The keywords whose value is a schema. -/
inductive SubschemaKeyword where
  | items
  | additionalProperties
  | not

/-- The text of the keyword. -/
def SubschemaKeyword.text : SubschemaKeyword → String
  | .items => "items"
  | .additionalProperties => "additionalProperties"
  | .not => "not"

/-- The keywords whose value is an array of schemas. -/
inductive CombinatorKeyword where
  | allOf
  | anyOf
  | oneOf

/-- The text of the keyword. -/
def CombinatorKeyword.text : CombinatorKeyword → String
  | .allOf => "allOf"
  | .anyOf => "anyOf"
  | .oneOf => "oneOf"

/-- A step from a schema to a schema in it. -/
inductive SchemaStep where
  | property (name : String)
  | member (keyword : SubschemaKeyword)
  | branch (keyword : CombinatorKeyword) (index : Nat)

/-- The properties that a schema declares. -/
def propertiesOf? (fields : JsonObject) : Option JsonObject :=
  match fields.lookup "properties" with
  | some (.obj properties) => some properties
  | _ => none

/-- The schema that a step leads to. -/
def Json.subschema? : Json → SchemaStep → Option Json
  | .obj fields, .property name =>
    (propertiesOf? fields).bind fun properties => properties.lookup name
  | .obj fields, .member keyword => fields.lookup keyword.text
  | .obj fields, .branch keyword index =>
    match fields.lookup keyword.text with
    | some (.arr branches) => branches[index]?
    | _ => none
  | _, _ => none

/-- The schema that some steps lead to. -/
def Json.schemaAt? (schema : Json) (path : List SchemaStep) : Option Json :=
  path.foldlM Json.subschema? schema

/-- No property has the name of a keyword that is taken out. -/
def PlainProperties (fields : JsonObject) : Prop :=
  ∀ properties, propertiesOf? fields = some properties →
    ∀ property ∈ properties, property.1 ∉ removedKeywords

/-- A translated member is found under its key. -/
theorem lookup_normalizedFields (fields : JsonObject) (key : String) :
    (normalizedFields fields).lookup key = (fields.lookup key).map Json.normalized := by
  rw [normalizedFields_eq]
  exact lookup_map_value (fun _ => Json.normalized) fields key

/-- The fields that translating leaves alone. -/
theorem lookup_normalized_of_ne (fields : JsonObject) {key : String}
    (h : key ∉ ["x-namespaced-enum", "nullable", "enum", "type"]) :
    (normalizeOpenapiSchemaKeywords (normalizedFields fields)).lookup key =
      (fields.lookup key).map Json.normalized := by
  simp only [List.mem_cons, List.not_mem_nil, or_false, not_or] at h
  rw [lookup_normalizeOpenapiSchemaKeywords, if_neg (by simp [h.1, h.2.1]), if_neg h.2.2.1,
    if_neg (by simp [h.2.2.2]), lookup_normalizedFields]

/-- The properties of a prepared schema are its properties, prepared. -/
theorem propertiesOf?_normalized {fields properties : JsonObject} (hplain : PlainProperties fields)
    (h : propertiesOf? fields = some properties) :
    propertiesOf? (normalizeOpenapiSchemaKeywords (normalizedFields fields)) =
      some (normalizedFields properties) := by
  have hnames := hplain properties h
  have hsame : normalizeOpenapiSchemaKeywords (normalizedFields properties) =
      normalizedFields properties := by
    refine normalizeOpenapiSchemaKeywords_of_plain fun field hfield => ?_
    rw [normalizedFields_eq] at hfield
    obtain ⟨property, hproperty, rfl⟩ := List.mem_map.mp hfield
    exact hnames property hproperty
  unfold propertiesOf? at h ⊢
  rw [lookup_normalized_of_ne fields (by decide)]
  cases hvalue : fields.lookup "properties" with
  | none =>
    rw [hvalue] at h
    cases h
  | some value =>
    rw [hvalue] at h
    cases value with
    | obj found =>
      obtain rfl := Option.some.inj h
      rw [Option.map_some, Json.normalized, hsame]
    | null | bool | int | float | str | arr => cases h

/-- A step of a schema is one of the prepared schema. -/
theorem subschema?_normalized {schema sub : Json} {step : SchemaStep}
    (hplain : ∀ fields, schema = .obj fields → PlainProperties fields)
    (h : schema.subschema? step = some sub) :
    schema.normalized.subschema? step = some sub.normalized := by
  cases schema with
  | obj fields =>
    have hplain := hplain fields rfl
    cases step with
    | property name =>
      obtain ⟨properties, hproperties, hname⟩ := Option.bind_eq_some_iff.mp h
      refine Option.bind_eq_some_iff.mpr ⟨_, propertiesOf?_normalized hplain hproperties, ?_⟩
      rw [lookup_normalizedFields, hname]
      rfl
    | member keyword =>
      have hlookup : fields.lookup keyword.text = some sub := h
      change (normalizeOpenapiSchemaKeywords (normalizedFields fields)).lookup keyword.text = _
      rw [lookup_normalized_of_ne fields (by cases keyword <;> decide), hlookup]
      rfl
    | branch keyword index =>
      simp only [Json.subschema?, Json.normalized] at h ⊢
      rw [lookup_normalized_of_ne fields (by cases keyword <;> decide)]
      cases hvalue : fields.lookup keyword.text with
      | none => simp [hvalue] at h
      | some value =>
        rw [hvalue] at h
        cases value with
        | arr branches =>
          simp only [Option.map_some, Json.normalized, normalizedItems_eq, List.getElem?_map] at h ⊢
          rw [h]
          rfl
        | null | bool | int | float | str | obj => cases h
  | null | bool | int | float | str | arr => cases step <;> cases h

/-- A schema of a prepared schema is prepared. -/
theorem allObjects_schemaAt? {P : JsonObject → Prop} {schema sub : Json} {path : List SchemaStep}
    (hall : schema.AllObjects P) (h : schema.schemaAt? path = some sub) : sub.AllObjects P := by
  induction path generalizing schema with
  | nil =>
    obtain rfl := Option.some.inj (h : some schema = some sub)
    exact hall
  | cons step rest ih =>
    obtain ⟨next, hnext, hrest⟩ := Option.bind_eq_some_iff.mp
      (h : (schema.subschema? step).bind (fun next => next.schemaAt? rest) = some sub)
    refine ih ?_ hrest
    cases schema with
    | obj fields =>
      cases step with
      | property name =>
        obtain ⟨properties, hproperties, hname⟩ := Option.bind_eq_some_iff.mp hnext
        unfold propertiesOf? at hproperties
        cases hvalue : fields.lookup "properties" with
        | none => simp [hvalue] at hproperties
        | some value =>
          rw [hvalue] at hproperties
          cases value with
          | obj found =>
            obtain rfl := Option.some.inj hproperties
            exact (hall.of_lookup hvalue).of_lookup hname
          | null | bool | int | float | str | arr => cases hproperties
      | member keyword => exact hall.of_lookup hnext
      | branch keyword index =>
        simp only [Json.subschema?] at hnext
        cases hvalue : fields.lookup keyword.text with
        | none => simp [hvalue] at hnext
        | some value =>
          rw [hvalue] at hnext
          cases value with
          | arr branches => exact (hall.of_lookup hvalue).of_item (List.mem_of_getElem? hnext)
          | null | bool | int | float | str | obj => cases hnext
    | null | bool | int | float | str | arr => cases step <;> cases hnext

/-- Where no property has the name of a keyword, the schemas of a prepared schema are its
    schemas, prepared. -/
theorem schemaAt?_normalized {schema sub : Json} {path : List SchemaStep}
    (hplain : ∀ path fields, schema.schemaAt? path = some (.obj fields) → PlainProperties fields)
    (h : schema.schemaAt? path = some sub) :
    schema.normalized.schemaAt? path = some sub.normalized := by
  induction path generalizing schema with
  | nil =>
    obtain rfl := Option.some.inj (h : some schema = some sub)
    rfl
  | cons step rest ih =>
    obtain ⟨next, hnext, hrest⟩ := Option.bind_eq_some_iff.mp
      (h : (schema.subschema? step).bind (fun next => next.schemaAt? rest) = some sub)
    have hstep := subschema?_normalized (fun fields heq => hplain [] fields (heq ▸ rfl)) hnext
    have htail := ih (fun path fields hpath => hplain (step :: path) fields
      (Option.bind_eq_some_iff.mpr ⟨next, hnext, hpath⟩)) hrest
    exact Option.bind_eq_some_iff.mpr ⟨_, hstep, htail⟩

/-! ## Constraints -/

/-- A `type` that is a string or an array of strings. -/
def IsTypeKeyword : Json → Prop
  | .str _ => True
  | .arr schemaTypes => schemaTypes.all isString = true
  | _ => False

/-- A `type` that admits null. -/
def AdmitsNull : Json → Prop
  | .str schemaType => schemaType = "null"
  | .arr schemaTypes => Json.str "null" ∈ schemaTypes
  | _ => False

/-- The properties, types and enums of the schemas in a schema are those of a prepared one. -/
structure KeepsConstraints (schema prepared : Json) : Prop where
  properties : ∀ path fields properties, schema.schemaAt? path = some (.obj fields) →
    propertiesOf? fields = some properties →
    ∃ fields' properties', prepared.schemaAt? path = some (.obj fields') ∧
      propertiesOf? fields' = some properties' ∧
      ∀ name, name ∈ properties'.map Prod.fst ↔ name ∈ properties.map Prod.fst
  types : ∀ path fields schemaType, schema.schemaAt? path = some (.obj fields) →
    fields.lookup "type" = some schemaType → IsTypeKeyword schemaType →
    ∃ fields' schemaType', prepared.schemaAt? path = some (.obj fields') ∧
      fields'.lookup "type" = some schemaType' ∧
      (AdmitsNull schemaType' ↔
        fields.lookup "nullable" = some (.bool true) ∨ AdmitsNull schemaType)
  enums : ∀ path fields items, schema.schemaAt? path = some (.obj fields) →
    fields.lookup "x-namespaced-enum" = some (.arr items) → items.all isString = true →
    ∃ fields', prepared.schemaAt? path = some (.obj fields') ∧
      (fields.lookup "enum" = none → fields'.lookup "enum" = some (.arr items)) ∧
      ∀ values, fields.lookup "enum" = some (.arr values) → values.all isString = true →
        fields'.lookup "enum" = some (.arr values)

theorem normalized_of_isString {items : List Json} (h : items.all isString = true) :
    (Json.arr items).normalized = .arr items :=
  normalized_of_isPrepared (.of_isString h)

/-- A list of types has `null` exactly when it is in it. -/
theorem any_isTextValue_null_iff {schemaTypes : List Json} :
    schemaTypes.any (isTextValue "null") = true ↔ Json.str "null" ∈ schemaTypes := by
  rw [List.any_eq_true]
  constructor
  · rintro ⟨value, hvalue, hnull⟩
    cases value with
    | str text => exact (eq_of_beq hnull) ▸ hvalue
    | null | bool | int | float | arr | obj => cases hnull
  · exact fun h => ⟨_, h, by decide⟩

/-- A type with `null` added admits it. -/
theorem admitsNull_withNull {schemaType : Json} (h : IsTypeKeyword schemaType) :
    AdmitsNull (withNull schemaType) := by
  cases schemaType with
  | str text => simp [withNull, AdmitsNull]
  | arr schemaTypes =>
    have hstrings : schemaTypes.all isString = true := h
    by_cases hnull : schemaTypes.any (isTextValue "null") = true
    · rw [withNull, if_neg (by simp [hnull])]
      exact any_isTextValue_null_iff.mp hnull
    · rw [withNull, if_pos ⟨Bool.not_eq_true _ ▸ hnull, hstrings⟩]
      exact List.mem_append_right _ (List.mem_singleton.mpr rfl)
  | null | bool | int | float | obj => cases h

/-- A type is translated to itself. -/
theorem normalized_of_isTypeKeyword {schemaType : Json} (h : IsTypeKeyword schemaType) :
    schemaType.normalized = schemaType := by
  cases schemaType with
  | str text => rfl
  | arr schemaTypes => exact normalized_of_isString h
  | null | bool | int | float | obj => cases h

/-- Whether a schema is nullable does not depend on what is in it. -/
theorem isNullable_normalizedFields (fields : JsonObject) :
    isNullable (normalizedFields fields) = true ↔ fields.lookup "nullable" = some (.bool true) := by
  unfold isNullable
  rw [lookup_normalizedFields]
  cases hvalue : fields.lookup "nullable" with
  | none => simp
  | some value => cases value <;> simp [Json.normalized]

/-- The type of a prepared schema admits null if the schema is nullable, or if its type does. -/
theorem admitsNull_normalized {fields : JsonObject} {schemaType : Json}
    (hvalue : fields.lookup "type" = some schemaType) (h : IsTypeKeyword schemaType) :
    ∃ schemaType', (normalizeOpenapiSchemaKeywords (normalizedFields fields)).lookup "type" =
        some schemaType' ∧
      (AdmitsNull schemaType' ↔
        fields.lookup "nullable" = some (.bool true) ∨ AdmitsNull schemaType) := by
  rw [lookup_normalizeOpenapiSchemaKeywords, if_neg (by decide), if_neg (by decide),
    lookup_normalizedFields, hvalue, Option.map_some, normalized_of_isTypeKeyword h,
    ← isNullable_normalizedFields]
  by_cases hnullable : isNullable (normalizedFields fields) = true
  · rw [if_pos ⟨rfl, hnullable⟩]
    exact ⟨_, rfl, iff_of_true (admitsNull_withNull h) (.inl hnullable)⟩
  · rw [if_neg fun hcond => hnullable hcond.2]
    exact ⟨_, rfl, (or_iff_right hnullable).symm⟩

/-- The strings under `x-namespaced-enum` are the enum of a prepared schema that has none. -/
theorem enum_normalized {fields : JsonObject} {items : List Json}
    (hvalue : fields.lookup "x-namespaced-enum" = some (.arr items))
    (hstrings : items.all isString = true) :
    let prepared := normalizeOpenapiSchemaKeywords (normalizedFields fields)
    (fields.lookup "enum" = none → prepared.lookup "enum" = some (.arr items)) ∧
      ∀ values, fields.lookup "enum" = some (.arr values) → values.all isString = true →
        prepared.lookup "enum" = some (.arr values) := by
  have henum : (normalizeOpenapiSchemaKeywords (normalizedFields fields)).lookup "enum" =
      ((fields.lookup "enum").map Json.normalized).or (some (.arr items)) := by
    rw [lookup_normalizeOpenapiSchemaKeywords, if_neg (by decide), if_pos rfl,
      lookup_normalizedFields, namespacedEnum?, lookup_normalizedFields, hvalue, Option.map_some,
      normalized_of_isString hstrings]
    simp only [if_pos hstrings]
  refine ⟨fun hnone => ?_, fun values hold hvalues => ?_⟩
  · rw [henum, hnone]
    rfl
  · rw [henum, hold, Option.map_some, normalized_of_isString hvalues]
    rfl

/-- Preparing keeps the constraints of a schema without references exactly if no property in
    it is named after a keyword that is taken out. -/
theorem keepsConstraints_iff {repr : Json → String} {document schema : Json}
    (hfree : schema.AllObjects IsReferenceFree) :
    ∃ prepared, prepareOpenapiSchema repr document schema = .ok prepared ∧
      (KeepsConstraints schema prepared ↔
        ∀ path fields, schema.schemaAt? path = some (.obj fields) → PlainProperties fields) := by
  refine ⟨schema.normalized, prepareValue_of_referenceFree _ hfree, ?_, fun hplain => ?_⟩
  · intro hkeeps path fields hpath properties hproperties property hproperty
    obtain ⟨fields', properties', hpath', hproperties', hnames⟩ :=
      hkeeps.properties path fields properties hpath hproperties
    -- a kept property is plain, because prepared objects have plain properties only
    have hmem := (hnames property.1).mpr (List.mem_map_of_mem hproperty)
    obtain ⟨property', hproperty', heq⟩ := List.mem_map.mp hmem
    have hprepared : (Json.obj fields').AllObjects IsPrepared :=
      allObjects_schemaAt? (allObjects_normalized hfree) hpath'
    have hdeclared : fields'.lookup "properties" = some (.obj properties') := by
      unfold propertiesOf? at hproperties'
      split at hproperties'
      · rename_i found hfound
        rw [hfound, Option.some.inj hproperties']
      · cases hproperties'
    exact heq ▸ (hprepared.of_lookup hdeclared).of_fields.plain property' hproperty'
  -- plain properties stay where they are, so each keyword is found at its path
  · have hschema := fun {path : List SchemaStep} {fields : JsonObject}
        (hpath : schema.schemaAt? path = some (.obj fields)) =>
      schemaAt?_normalized hplain hpath
    exact {
      properties := fun path fields properties hpath hproperties =>
        ⟨_, _, hschema hpath, propertiesOf?_normalized (hplain path fields hpath) hproperties,
          fun name => by
            rw [normalizedFields_eq, List.map_map]
            rfl⟩
      types := fun path fields schemaType hpath hvalue hkeyword => by
        obtain ⟨schemaType', hvalue', hnull⟩ := admitsNull_normalized hvalue hkeyword
        exact ⟨_, schemaType', hschema hpath, hvalue', hnull⟩
      enums := fun path fields items hpath hvalue hstrings =>
        ⟨_, hschema hpath, enum_normalized hvalue hstrings⟩ }

/-- A schema with a property of a given name. -/
def schemaWithProperty (name : String) : Json :=
  .obj [("type", .str "object"), ("properties", .obj [(name, .obj [("type", .str "boolean")])])]

/-- The sample schema has no reference. -/
theorem schemaWithProperty_referenceFree {name : String} (h : name ≠ "$ref") :
    (schemaWithProperty name).AllObjects IsReferenceFree := by
  have hproperty : (Json.obj [("type", .str "boolean")]).AllObjects IsReferenceFree :=
    .obj (by simp [IsReferenceFree]) (by simp [Json.AllObjects.str])
  have hproperties : (Json.obj [(name, .obj [("type", .str "boolean")])]).AllObjects
      IsReferenceFree :=
    .obj (by simpa [IsReferenceFree] using h) (by simpa using hproperty)
  exact .obj (by simp [IsReferenceFree]) (by simpa [Json.AllObjects.str] using hproperties)

/-- A property with a plain name keeps its constraints. -/
theorem keepsConstraints_iff_accountId :
    ∃ prepared, prepareOpenapiSchema (fun _ => "") (.obj []) (schemaWithProperty "AccountId") =
        .ok prepared ∧
      (KeepsConstraints (schemaWithProperty "AccountId") prepared ↔
        ∀ path fields, (schemaWithProperty "AccountId").schemaAt? path = some (.obj fields) →
          PlainProperties fields) :=
  keepsConstraints_iff (schemaWithProperty_referenceFree (by decide))

/-- A property named `nullable` is lost. -/
theorem nullableProperty_lost :
    prepareOpenapiSchema (fun _ => "") (.obj []) (schemaWithProperty "nullable") =
        .ok (.obj [("type", .str "object"), ("properties", .obj [])]) ∧
      ¬KeepsConstraints (schemaWithProperty "nullable")
        (.obj [("type", .str "object"), ("properties", .obj [])]) := by
  refine ⟨rfl, fun h => ?_⟩
  obtain ⟨fields', properties', hpath, hproperties, hnames⟩ := h.properties [] _ _ rfl rfl
  obtain rfl := Json.obj.inj (Option.some.inj hpath)
  obtain rfl := Option.some.inj hproperties
  exact absurd ((hnames "nullable").mpr (by simp)) (by simp)

end Conformance
