import Conformance.Spec.SchemaPreparation

/-!
# Problems of response schemas

`validate_json_instance_against_response_schema` reports what is wrong with a schema as a
message, unless a pointer meets a bad index on the way, before any fault that is reported,
or the validator of the library raises.

## Key results

- `prepareUnder_raises_iff`: when preparing raises a foreign exception
- `preparedSchema_raises_iff`: when the schema of an assertion does
- `reportsProblems_iff`: schemas, pointers and paths
-/

namespace Conformance

open Except

/-! ## Bad indexes behind references -/

section BadReferences

variable (document : Json)

/-- The members of an object are prepared: it has no reference, or one that comes to an
    object. -/
def ReachesMembers (seenRefs : List String) (fields : JsonObject) : Prop :=
  fields.lookup "$ref" = none ∨
    ∃ ref target, fields.lookup "$ref" = some (.str ref) ∧ ref ∉ seenRefs ∧
      PointsTo document ref target ∧ ¬MeetsFault document (seenRefs ++ [ref]) target ∧
      LeadsToObject document target

/-- The first fault that following the references of a value meets is a bad index. -/
inductive MeetsBadReference : List String → Json → Prop where
  | item {seenRefs : List String} {before after : List Json} {item : Json} :
    (∀ other ∈ before, ¬MeetsFault document seenRefs other) → MeetsBadReference seenRefs item →
    MeetsBadReference seenRefs (.arr (before ++ item :: after))
  | member {seenRefs : List String} {before after : JsonObject} {field : String × Json} :
    ReachesMembers document seenRefs (before ++ field :: after) → field.1 ≠ "$ref" →
    (∀ other ∈ before, other.1 ≠ "$ref" → ¬MeetsFault document seenRefs other.2) →
    MeetsBadReference seenRefs field.2 →
    MeetsBadReference seenRefs (.obj (before ++ field :: after))
  | pointer {seenRefs : List String} {fields : JsonObject} {ref : String} :
    fields.lookup "$ref" = some (.str ref) → ref ∉ seenRefs → MeetsBadIndex document ref →
    MeetsBadReference seenRefs (.obj fields)
  | target {seenRefs : List String} {fields : JsonObject} {ref : String} {target : Json} :
    fields.lookup "$ref" = some (.str ref) → ref ∉ seenRefs → PointsTo document ref target →
    MeetsBadReference (seenRefs ++ [ref]) target → MeetsBadReference seenRefs (.obj fields)

end BadReferences

/-- A `ValueError`. -/
def IsValueError (e : PyError) : Prop := ∃ message, e = .valueError message

/-- A `ValueError` is no configuration error. -/
theorem IsValueError.not_isSchemaError {e : PyError} (h : IsValueError e) : ¬IsSchemaError e := by
  rintro ⟨_, rfl⟩
  obtain ⟨_, heq⟩ := h
  cases heq

/-- `x` raises a `ValueError`. -/
def RaisesValueError {α : Type} (x : Except PyError α) : Prop :=
  ∃ e, x = .error e ∧ IsValueError e

/-- A computation raises a `ValueError` when one of its parts does. -/
theorem raisesValueError_bind {α β : Type} {x : Except PyError α} {f : α → Except PyError β} :
    RaisesValueError (x >>= f) ↔
      RaisesValueError x ∨ ∃ a, x = .ok a ∧ RaisesValueError (f a) := by
  constructor
  · rintro ⟨e, herror, hvalue⟩
    rcases bind_eq_error.mp herror with hx | ⟨a, ha, hfa⟩
    · exact .inl ⟨e, hx, hvalue⟩
    · exact .inr ⟨a, ha, e, hfa, hvalue⟩
  · rintro (⟨e, hx, hvalue⟩ | ⟨a, ha, e, hfa, hvalue⟩)
    · exact ⟨e, bind_eq_error.mpr (.inl hx), hvalue⟩
    · exact ⟨e, bind_eq_error.mpr (.inr ⟨a, ha, hfa⟩), hvalue⟩

/-- A result is no `ValueError`. -/
theorem not_raisesValueError_ok {α : Type} (a : α) :
    ¬RaisesValueError (.ok a : Except PyError α) := by
  rintro ⟨e, herror, -⟩
  cases herror

/-- Mapping a result raises none. -/
theorem raisesValueError_bind_ok {α β : Type} {x : Except PyError α} {f : α → β} :
    RaisesValueError (x >>= fun a => .ok (f a)) ↔ RaisesValueError x := by
  rw [raisesValueError_bind]
  refine or_iff_left ?_
  rintro ⟨a, -, hraises⟩
  exact not_raisesValueError_ok _ hraises

/-- Nor does a configuration error. -/
theorem not_raisesValueError_schemaError {α : Type} (message : String) :
    ¬RaisesValueError (schemaError message : Except PyError α) := by
  rintro ⟨e, herror, hvalue⟩
  exact hvalue.not_isSchemaError ⟨message, (Except.error.inj herror).symm⟩

/-- Nor does a check. -/
theorem not_raisesValueError_raiseIf {p : Prop} [Decidable p] {message : String} :
    ¬RaisesValueError (raiseIf p (.schemaValidationConfigurationError message)) := by
  rintro ⟨e, herror, hvalue⟩
  exact hvalue.not_isSchemaError ⟨message, (raiseIf_eq_error.mp herror).2.symm⟩

section Objects

variable {resolve : String → Except PyError Json} {fields : JsonObject}

/-- The first member that cannot be prepared is the one that raises. -/
theorem prepareFields_raises_iff :
    RaisesValueError (prepareFields resolve fields) ↔
      ∃ before field after, fields = before ++ field :: after ∧ field.1 ≠ "$ref" ∧
        (∀ other ∈ before, other.1 ≠ "$ref" → ∃ value, prepareValue resolve other.2 = .ok value) ∧
        RaisesValueError (prepareValue resolve field.2) := by
  induction fields with
  | nil =>
    refine iff_of_false (not_raisesValueError_ok []) ?_
    rintro ⟨before, field, after, hsplit, -⟩
    cases before <;> cases hsplit
  | cons head rest ih =>
    rw [prepareFields]
    by_cases hkey : head.1 = "$ref"
    · rw [if_pos hkey, ih]
      constructor
      · rintro ⟨before, field, after, rfl, hfield, hbefore, hraises⟩
        refine ⟨head :: before, field, after, rfl, hfield, fun other hother hne => ?_, hraises⟩
        rcases List.mem_cons.mp hother with rfl | hother
        · exact absurd hkey hne
        · exact hbefore other hother hne
      · rintro ⟨before, field, after, hsplit, hfield, hbefore, hraises⟩
        cases before with
        | nil =>
          obtain ⟨rfl, -⟩ := List.cons.inj hsplit
          exact absurd hkey hfield
        | cons first before =>
          obtain ⟨rfl, rfl⟩ := List.cons.inj hsplit
          exact ⟨before, field, after, rfl, hfield,
            fun other hother => hbefore other (List.mem_cons_of_mem _ hother), hraises⟩
    · rw [if_neg hkey, raisesValueError_bind]
      constructor
      · rintro (hraises | ⟨prepared, hprepared, hrest⟩)
        · exact ⟨[], head, rest, rfl, hkey, by simp, hraises⟩
        · rcases raisesValueError_bind.mp hrest with hrest | ⟨_, _, hpure⟩
          · obtain ⟨before, field, after, rfl, hfield, hbefore, hraises⟩ := ih.mp hrest
            refine ⟨head :: before, field, after, rfl, hfield, fun other hother hne => ?_, hraises⟩
            rcases List.mem_cons.mp hother with rfl | hother
            · exact ⟨prepared, hprepared⟩
            · exact hbefore other hother hne
          · exact absurd hpure (not_raisesValueError_ok _)
      · rintro ⟨before, field, after, hsplit, hfield, hbefore, hraises⟩
        cases before with
        | nil =>
          obtain ⟨rfl, -⟩ := List.cons.inj hsplit
          exact .inl hraises
        | cons first before =>
          obtain ⟨rfl, rfl⟩ := List.cons.inj hsplit
          obtain ⟨prepared, hprepared⟩ := hbefore head List.mem_cons_self hkey
          exact .inr ⟨prepared, hprepared, raisesValueError_bind.mpr (.inl (ih.mpr
            ⟨before, field, after, rfl, hfield,
              fun other hother => hbefore other (List.mem_cons_of_mem _ hother), hraises⟩))⟩

/-- Only members beside a reference raise in preparing them. -/
theorem hasSiblings_of_raises (h : RaisesValueError (prepareFields resolve fields)) :
    HasSiblings fields := by
  obtain ⟨before, field, after, rfl, hfield, -⟩ := prepareFields_raises_iff.mp h
  exact ⟨field, by simp, hfield⟩

/-- Merging a reference raises what its siblings do. -/
theorem mergeReference_raises_iff {resolved : Json} {siblings : Except PyError JsonObject}
    {hasSiblings : Bool} :
    RaisesValueError (mergeReference resolved siblings hasSiblings) ↔
      hasSiblings = true ∧ ∃ target, resolved = .obj target ∧ RaisesValueError siblings := by
  unfold mergeReference
  cases hasSiblings with
  | false => simpa using not_raisesValueError_ok resolved
  | true =>
    rw [if_neg (by simp)]
    cases resolved with
    | obj target =>
      refine raisesValueError_bind_ok.trans ?_
      simp
    | null | bool | int | float | str | arr =>
      exact iff_of_false (not_raisesValueError_schemaError _) (by simp)

/-- An object raises where its reference does, or where its members are prepared and one of
    them does. -/
theorem prepareValue_obj_raises_iff :
    RaisesValueError (prepareValue resolve (.obj fields)) ↔
      (fields.lookup "$ref" = none ∧ RaisesValueError (prepareFields resolve fields)) ∨
      ∃ ref, fields.lookup "$ref" = some (.str ref) ∧ ref ≠ "" ∧
        (RaisesValueError (resolve ref) ∨
          ∃ target, resolve ref = .ok (.obj target) ∧
            RaisesValueError (prepareFields resolve fields)) := by
  rw [prepareValue]
  cases hlookup : fields.lookup "$ref" with
  | none =>
    refine raisesValueError_bind_ok.trans ?_
    simp
  | some reference =>
    simp only [reduceCtorEq, false_and, false_or, Option.some.injEq]
    cases reference with
    | str ref =>
      rw [raisesValueError_bind, or_iff_right not_raisesValueError_raiseIf]
      simp only [raiseIf_eq_ok, raisesValueError_bind, mergeReference_raises_iff, Json.str.injEq]
      constructor
      · rintro ⟨_, hne, hraises | ⟨_, hresolved, -, target, rfl, hmembers⟩⟩
        · exact ⟨ref, rfl, hne, .inl hraises⟩
        · exact ⟨ref, rfl, hne, .inr ⟨target, hresolved, hmembers⟩⟩
      · rintro ⟨_, rfl, hne, hraises | ⟨target, hresolved, hmembers⟩⟩
        · exact ⟨(), hne, .inl hraises⟩
        · exact ⟨(), hne, .inr ⟨_, hresolved, any_ne_ref_iff.mpr (hasSiblings_of_raises hmembers),
            target, rfl, hmembers⟩⟩
    | null | bool | int | float | arr | obj =>
      exact iff_of_false (not_raisesValueError_schemaError _) (by simp)

end Objects

section Following

variable {repr : Json → String} {document : Json}

/-- A pointer raises a `ValueError` exactly when it meets a bad index. -/
theorem resolveJsonPointer_raises_iff {pointer : String} :
    RaisesValueError (resolveJsonPointer repr document pointer) ↔
      MeetsBadIndex document pointer := by
  constructor
  · rintro ⟨e, herror, hvalue⟩
    exact (resolveJsonPointer_error herror).resolve_left hvalue.not_isSchemaError
  · intro h
    obtain ⟨message, herror⟩ := resolveJsonPointer_of_badIndex repr h
    exact ⟨_, herror, message, rfl⟩

/-- A reference raises one when its pointer or its target does. -/
theorem resolveReference_raises_iff {budget : Nat} {seenRefs : List String} {ref : String} :
    RaisesValueError (resolveReference repr document budget seenRefs ref) ↔
      ref ∉ seenRefs ∧ (MeetsBadIndex document ref ∨ ∃ target, PointsTo document ref target ∧
        RaisesValueError (prepareUnder repr document budget (seenRefs ++ [ref]) target)) := by
  unfold resolveReference
  simp only [raisesValueError_bind, not_raisesValueError_raiseIf, raiseIf_eq_ok, exists_const,
    false_or, resolveJsonPointer_raises_iff, resolveJsonPointer_eq_ok]

/-- A pointer with segments is not empty. -/
theorem ne_empty_of_pointerSegments? {pointer : String} {segments : List String}
    (h : pointerSegments? pointer = some segments) : pointer ≠ "" := by
  rintro rfl
  cases h

variable {known : List String}

/-- What can be prepared is what meets no fault. -/
theorem exists_prepared_iff (hdocument : references document ⊆ known) {budget : Nat}
    {seenRefs : List String} (hfollows : Follows known seenRefs budget) {value : Json}
    (hvalue : references value ⊆ known) :
    (∃ prepared, prepareUnder repr document budget seenRefs value = .ok prepared) ↔
      ¬MeetsFault document seenRefs value :=
  ⟨fun ⟨_, hprepared⟩ hfault => not_prepared_of_meetsFault hfault _ _ hprepared,
    exists_prepared _ hdocument hfollows hvalue⟩

/-- The members of an object are reached without a reference, or after one that comes to an
    object. -/
theorem reachesMembers_iff (repr : Json → String) (hdocument : references document ⊆ known) {budget : Nat}
    {seenRefs : List String} (hfollows : Follows known seenRefs (budget + 1))
    {fields : JsonObject} (hvalue : references (.obj fields) ⊆ known) :
    ReachesMembers document seenRefs fields ↔ fields.lookup "$ref" = none ∨
      ∃ ref, fields.lookup "$ref" = some (.str ref) ∧ ref ≠ "" ∧
        ∃ target, resolveReference repr document budget seenRefs ref = .ok (.obj target) := by
  refine or_congr_right ?_
  constructor
  · rintro ⟨ref, target, href, hnew, hpoints, hfault, hleads⟩
    obtain ⟨prepared, hprepared⟩ := exists_prepared repr hdocument
      (hfollows.follow hnew (hvalue (mem_references_of_lookup href)))
      (List.Subset.trans (references_subset_of_pointsTo hpoints) hdocument) hfault
    obtain ⟨object, rfl⟩ := (isObject_prepared_iff hprepared).mpr hleads
    obtain ⟨segments, hsegments, -⟩ := id hpoints
    exact ⟨ref, href, ne_empty_of_pointerSegments? hsegments, object,
      resolveReference_eq_ok.mpr ⟨hnew, target, hpoints, hprepared⟩⟩
  · rintro ⟨ref, href, -, object, hresolved⟩
    obtain ⟨hnew, target, hpoints, hprepared⟩ := resolveReference_eq_ok.mp hresolved
    exact ⟨ref, target, href, hnew, hpoints,
      fun hfault => not_prepared_of_meetsFault hfault _ _ hprepared,
      (isObject_prepared_iff hprepared).mp ⟨object, rfl⟩⟩

/-- Preparing raises a `ValueError` exactly if the first fault that it meets is a bad index. -/
theorem prepareUnder_raises_iff (hdocument : references document ⊆ known) {budget : Nat}
    {seenRefs : List String} {value : Json} (hfollows : Follows known seenRefs budget)
    (hvalue : references value ⊆ known) :
    RaisesValueError (prepareUnder repr document budget seenRefs value) ↔
      MeetsBadReference document seenRefs value := by
  induction budget generalizing seenRefs value with
  | zero => exact absurd rfl hfollows.pos
  | succ budget ihBudget =>
    rw [prepareUnder_succ]
    induction value using Json.induction with
    | obj fields ih =>
      have hfine : ∀ field ∈ fields, (∃ prepared, prepareValue
          (resolveReference repr document budget seenRefs) field.2 = .ok prepared) ↔
            ¬MeetsFault document seenRefs field.2 := fun field hfield =>
        exists_prepared_iff hdocument hfollows
          (List.Subset.trans (references_subset_of_member hfield) hvalue)
      have hraises : ∀ field ∈ fields, RaisesValueError (prepareValue
          (resolveReference repr document budget seenRefs) field.2) ↔
            MeetsBadReference document seenRefs field.2 := fun field hfield =>
        ih field hfield (List.Subset.trans (references_subset_of_member hfield) hvalue)
      rw [prepareValue_obj_raises_iff]
      constructor
      · intro h
        have hmembers : ReachesMembers document seenRefs fields →
            RaisesValueError (prepareFields (resolveReference repr document budget seenRefs)
              fields) → MeetsBadReference document seenRefs (.obj fields) := by
          intro hreached hprepared
          obtain ⟨before, field, after, rfl, hkey, hbefore, hfield⟩ :=
            prepareFields_raises_iff.mp hprepared
          exact .member hreached hkey (fun other hother hne =>
            (hfine other (List.mem_append_left _ hother)).mp (hbefore other hother hne))
            ((hraises field (by simp)).mp hfield)
        rcases h with ⟨hnone, hprepared⟩ |
          ⟨ref, href, hne, hreference | ⟨target, htarget, hprepared⟩⟩
        · exact hmembers (.inl hnone) hprepared
        · obtain ⟨hnew, hbad | ⟨target, hpoints, htarget⟩⟩ :=
            resolveReference_raises_iff.mp hreference
          · exact .pointer href hnew hbad
          · exact .target href hnew hpoints ((ihBudget
              (hfollows.follow hnew (hvalue (mem_references_of_lookup href)))
              (List.Subset.trans (references_subset_of_pointsTo hpoints) hdocument)).mp htarget)
        · exact hmembers ((reachesMembers_iff repr hdocument hfollows hvalue).mpr
            (.inr ⟨ref, href, hne, target, htarget⟩)) hprepared
      · intro h
        cases h with
        | @member _ before after field hreached hkey hbefore hfield =>
          have hprepared : RaisesValueError (prepareFields
              (resolveReference repr document budget seenRefs) (before ++ field :: after)) :=
            prepareFields_raises_iff.mpr ⟨before, field, after, rfl, hkey, fun other hother hne =>
              (hfine other (List.mem_append_left _ hother)).mpr (hbefore other hother hne),
              (hraises field (by simp)).mpr hfield⟩
          rcases (reachesMembers_iff repr hdocument hfollows hvalue).mp hreached with
            hnone | ⟨ref, href, hne, target, htarget⟩
          · exact .inl ⟨hnone, hprepared⟩
          · exact .inr ⟨ref, href, hne, .inr ⟨target, htarget, hprepared⟩⟩
        | @pointer _ _ ref href hnew hbad =>
          obtain ⟨_, _, _, _, hsegments, -, -⟩ := id hbad
          exact .inr ⟨ref, href, ne_empty_of_pointerSegments? hsegments,
            .inl (resolveReference_raises_iff.mpr ⟨hnew, .inl hbad⟩)⟩
        | @target _ _ ref target href hnew hpoints htarget =>
          obtain ⟨segments, hsegments, -⟩ := id hpoints
          exact .inr ⟨ref, href, ne_empty_of_pointerSegments? hsegments,
            .inl (resolveReference_raises_iff.mpr ⟨hnew, .inr ⟨target, hpoints, (ihBudget
              (hfollows.follow hnew (hvalue (mem_references_of_lookup href)))
              (List.Subset.trans (references_subset_of_pointsTo hpoints) hdocument)).mpr
                htarget⟩⟩)⟩
    | arr items ih =>
      have hfine : ∀ item ∈ items, (∃ prepared, prepareValue
          (resolveReference repr document budget seenRefs) item = .ok prepared) ↔
            ¬MeetsFault document seenRefs item := fun item hitem =>
        exists_prepared_iff hdocument hfollows
          (List.Subset.trans (references_subset_of_item hitem) hvalue)
      have hraises : ∀ item ∈ items, RaisesValueError (prepareValue
          (resolveReference repr document budget seenRefs) item) ↔
            MeetsBadReference document seenRefs item := fun item hitem =>
        ih item hitem (List.Subset.trans (references_subset_of_item hitem) hvalue)
      rw [prepareValue, prepareItems_eq]
      refine raisesValueError_bind_ok.trans ?_
      constructor
      · rintro ⟨e, herror, hvalueError⟩
        obtain ⟨before, item, after, rfl, hbefore, hitem⟩ := List.mapM_eq_error.mp herror
        exact .item (fun other hother =>
          (hfine other (List.mem_append_left _ hother)).mp (hbefore other hother))
          ((hraises item (by simp)).mp ⟨e, hitem, hvalueError⟩)
      · intro h
        cases h with
        | @item _ before after item hbefore hitem =>
          obtain ⟨e, herror, hvalueError⟩ := (hraises item (by simp)).mpr hitem
          exact ⟨e, List.mapM_eq_error.mpr ⟨before, item, after, rfl, fun other hother =>
            (hfine other (List.mem_append_left _ hother)).mpr (hbefore other hother), herror⟩,
            hvalueError⟩
    | null | bool | int | float | str =>
      refine iff_of_false (not_raisesValueError_ok _) fun h => ?_
      cases h

end Following

section Schemas

variable {library : SchemaLibrary} {repr : Json → String}

/-- Preparing a schema raises one exactly when it meets a bad reference. -/
theorem prepareOpenapiSchema_raises_iff {document value : Json} :
    RaisesValueError (prepareOpenapiSchema repr document value) ↔
      MeetsBadReference document [] value :=
  prepareUnder_raises_iff references_document_subset follows_nil references_value_subset

/-- Preparing a schema raises errors of schemas, and `ValueError`s. -/
theorem raisesOnly_prepareOpenapiSchema {document value : Json} :
    RaisesOnly (fun e => IsSchemaError e ∨ IsValueError e)
      (prepareOpenapiSchema repr document value) := by
  refine raisesOnly_prepareUnder (fun _ => .inl) (fun ref _ e herror => ?_)
    references_document_subset follows_nil references_value_subset
  by_cases hbad : MeetsBadIndex document ref
  · obtain ⟨message, hraised⟩ := resolveJsonPointer_of_badIndex repr hbad
    exact .inr ⟨message, Except.error.inj (herror.symm.trans hraised)⟩
  · exact .inl (raisesOnly_resolveJsonPointer_iff.mpr hbad e herror)

/-- A bundled document is loaded when it is listed and an object. -/
theorem loadBundledDocument_eq_ok {document : String} {root : JsonObject} :
    loadBundledDocument library repr document = .ok root ↔
      document ∈ bundledOpenapiDocuments ∧ library.document document = some (.obj root) := by
  unfold loadBundledDocument
  by_cases hmem : document ∈ bundledOpenapiDocuments
  · rw [if_neg (not_not_intro hmem), and_iff_right hmem]
    cases hdocument : library.document document with
    | none => exact iff_of_false (fun h => (by cases h)) (fun h => (by cases h))
    | some value =>
      cases value with
      | obj fields => simp
      | null | bool | int | float | str | arr =>
        exact iff_of_false (fun h => (by cases h)) (fun h => (by cases h))
  · rw [if_pos hmem]
    exact iff_of_false (fun h => (by cases h)) fun h => hmem h.1

theorem raisesOnly_schemaError {α : Type} (message : String) :
    RaisesOnly IsSchemaError (schemaError message : Except PyError α) :=
  .error ⟨message, rfl⟩

/-- Loading a document raises configuration errors only. -/
theorem raisesOnly_loadBundledDocument {document : String} :
    RaisesOnly IsSchemaError (loadBundledDocument library repr document) := by
  unfold loadBundledDocument
  dsimp only
  split
  · exact raisesOnly_schemaError _
  · split
    · exact raisesOnly_schemaError _
    · exact .ok _
    · exact raisesOnly_schemaError _

/-- So does requiring an object. -/
theorem raisesOnly_requirePreparedObject {value : Json} :
    RaisesOnly IsSchemaError (requirePreparedObject value) := by
  cases value with
  | obj fields => exact .ok fields
  | null | bool | int | float | str | arr => exact raisesOnly_schemaError _

/-- What raises errors of schemas raises no `ValueError`. -/
theorem not_raisesValueError {α : Type} {x : Except PyError α} (h : RaisesOnly IsSchemaError x) :
    ¬RaisesValueError x := by
  rintro ⟨e, herror, hvalue⟩
  exact hvalue.not_isSchemaError (h e herror)

/-- The pointer of an assertion, or what it leads to, meets a bad index first. -/
def MeetsBadSchemaRef (root : Json) (schemaRef : String) : Prop :=
  MeetsBadIndex root schemaRef ∨
    ∃ target, PointsTo root schemaRef target ∧ MeetsBadReference root [] target

/-- The schema of an assertion meets a bad index before anything that is reported. -/
def MeetsBadSchema (library : SchemaLibrary) (source document : String)
    (schemaRef : Option String) (inlineSchema : Option JsonObject) : Prop :=
  source = "bundled_openapi" ∧ document ∈ bundledOpenapiDocuments ∧
    ∃ root, library.document document = some (.obj root) ∧
      match schemaRef, inlineSchema with
      | some schemaRef, _ => MeetsBadSchemaRef (.obj root) schemaRef
      | none, some schema => MeetsBadReference (.obj root) [] (.obj schema)
      | none, none => False

/-- A bundled schema raises a `ValueError` exactly when its reference is bad. -/
theorem preparedSchemaRef_raises_iff {document schemaRef : String} :
    RaisesValueError (preparedSchemaRef library repr document schemaRef) ↔
      document ∈ bundledOpenapiDocuments ∧ ∃ root, library.document document = some (.obj root) ∧
        MeetsBadSchemaRef (.obj root) schemaRef := by
  simp only [preparedSchemaRef, raisesValueError_bind, resolveJsonPointer_raises_iff,
    resolveJsonPointer_eq_ok, prepareOpenapiSchema_raises_iff, loadBundledDocument_eq_ok,
    or_iff_right (not_raisesValueError raisesOnly_loadBundledDocument)]
  constructor
  · rintro ⟨root, ⟨hmem, hroot⟩, hbad | ⟨target, hpoints, hbad | ⟨_, -, hobject⟩⟩⟩
    · exact ⟨hmem, root, hroot, .inl hbad⟩
    · exact ⟨hmem, root, hroot, .inr ⟨target, hpoints, hbad⟩⟩
    · exact absurd hobject (not_raisesValueError raisesOnly_requirePreparedObject)
  · rintro ⟨hmem, root, hroot, hbad | ⟨target, hpoints, hbad⟩⟩
    · exact ⟨root, ⟨hmem, hroot⟩, .inl hbad⟩
    · exact ⟨root, ⟨hmem, hroot⟩, .inr ⟨target, hpoints, .inl hbad⟩⟩

/-- The schema of an assertion raises a `ValueError` exactly if it meets a bad index. -/
theorem preparedSchema_raises_iff (repr : Json → String) {source document : String} {schemaRef : Option String}
    {inlineSchema : Option JsonObject} :
    RaisesValueError (preparedSchema library repr source document schemaRef inlineSchema) ↔
      MeetsBadSchema library source document schemaRef inlineSchema := by
  unfold preparedSchema MeetsBadSchema
  by_cases hsource : source = "bundled_openapi"
  · rw [if_neg (not_not_intro hsource), and_iff_right hsource]
    cases schemaRef with
    | some schemaRef => exact preparedSchemaRef_raises_iff
    | none =>
      cases inlineSchema with
      | none =>
        refine iff_of_false (not_raisesValueError_schemaError _) ?_
        rintro ⟨-, root, -, hfalse⟩
        exact hfalse
      | some schema =>
        simp only [raisesValueError_bind, prepareOpenapiSchema_raises_iff,
          loadBundledDocument_eq_ok,
          or_iff_right (not_raisesValueError raisesOnly_loadBundledDocument)]
        constructor
        · rintro ⟨root, ⟨hmem, hroot⟩, hbad | ⟨_, -, hobject⟩⟩
          · exact ⟨hmem, root, hroot, hbad⟩
          · exact absurd hobject (not_raisesValueError raisesOnly_requirePreparedObject)
        · rintro ⟨hmem, root, hroot, hbad⟩
          exact ⟨root, ⟨hmem, hroot⟩, .inl hbad⟩
  · rw [if_pos hsource]
    exact iff_of_false (not_raisesValueError_schemaError _) fun h => hsource h.1

/-- Preparing a schema raises configuration errors and `ValueError`s only. -/
theorem raisesOnly_preparedSchema {source document : String} {schemaRef : Option String}
    {inlineSchema : Option JsonObject} :
    RaisesOnly (fun e => IsSchemaError e ∨ IsValueError e)
      (preparedSchema library repr source document schemaRef inlineSchema) := by
  have hschema : ∀ {α : Type} {x : Except PyError α}, RaisesOnly IsSchemaError x →
      RaisesOnly (fun e => IsSchemaError e ∨ IsValueError e) x := fun h e he => .inl (h e he)
  have hprepare : ∀ root value, RaisesOnly (fun e => IsSchemaError e ∨ IsValueError e)
      (prepareOpenapiSchema repr root value >>= requirePreparedObject) := fun root value =>
    .bind raisesOnly_prepareOpenapiSchema fun _ _ => hschema raisesOnly_requirePreparedObject
  unfold preparedSchema
  dsimp only
  split
  · exact hschema (raisesOnly_schemaError _)
  · split
    · refine .bind (hschema raisesOnly_loadBundledDocument) fun root _ =>
        .bind (fun e herror => ?_) fun target _ => hprepare _ target
      rcases resolveJsonPointer_error herror with hreported | hbad
      · exact .inl hreported
      · exact .inr ((resolveJsonPointer_raises_iff.mpr hbad).elim fun e' h =>
          Except.error.inj (herror.symm.trans h.1) ▸ h.2)
    · exact hschema (raisesOnly_schemaError _)
    · exact .bind (hschema raisesOnly_loadBundledDocument) fun root _ => hprepare _ _

/-- The validator raises nothing on the schema of an assertion and a value. -/
def ValidatorAnswers (library : SchemaLibrary) (repr : Json → String) (source document : String)
    (schemaRef : Option String) (inlineSchema : Option JsonObject) (value : Json) : Prop :=
  ∀ schema, preparedSchema library repr source document schemaRef inlineSchema = .ok schema →
    ∃ errors, library.iterErrors schema value = .ok errors

/-- A message or none is returned, unless the schema meets a bad index or the validator
    raises. -/
theorem validateInstance_eq_ok_iff {source document : String} {schemaRef : Option String}
    {inlineSchema : Option JsonObject} {value : Json} :
    (∃ message, validateJsonInstanceAgainstResponseSchema library repr source document schemaRef
        inlineSchema value = .ok message) ↔
      ¬MeetsBadSchema library source document schemaRef inlineSchema ∧
        ValidatorAnswers library repr source document schemaRef inlineSchema value := by
  rw [← preparedSchema_raises_iff repr]
  unfold validateJsonInstanceAgainstResponseSchema ValidatorAnswers
  cases hprepared : preparedSchema library repr source document schemaRef inlineSchema with
  | ok schema =>
    refine Iff.trans ?_ (and_iff_right (not_raisesValueError_ok schema)).symm
    constructor
    · rintro ⟨message, h⟩ _ hok
      obtain rfl := Except.ok.inj hok
      obtain ⟨errors, herrors, -⟩ := bind_eq_ok.mp h
      exact ⟨errors, herrors⟩
    · intro h
      obtain ⟨errors, herrors⟩ := h schema rfl
      exact ⟨_, bind_eq_ok.mpr ⟨errors, herrors, rfl⟩⟩
  | error e =>
    rcases raisesOnly_preparedSchema e hprepared with ⟨message, rfl⟩ | hvalue
    · refine iff_of_true ⟨_, rfl⟩ ⟨?_, fun _ h => (by cases h)⟩
      exact not_raisesValueError_schemaError message
    · refine iff_of_false ?_ fun h => h.1 ⟨e, rfl, hvalue⟩
      obtain ⟨message, rfl⟩ := hvalue
      rintro ⟨_, h⟩
      cases h

/-- What is said of the errors of schemas, of pointers and of paths. -/
structure ReportsProblems (library : SchemaLibrary) (repr : Json → String)
    (source document : String) (schemaRef : Option String) (inlineSchema : Option JsonObject)
    (value root : Json) (pointer : String) (path : List PathPart) : Prop where
  message : ∃ message, validateJsonInstanceAgainstResponseSchema library repr source document
    schemaRef inlineSchema value = .ok message
  pointer : RaisesOnly IsSchemaError (resolveJsonPointer repr root pointer)
  path : ∀ target, root.at? path = some target →
    resolveJsonPointer repr root (pointerTo path) = .ok target

/-- The pointer of the empty path is `#`, which is not a local pointer. -/
theorem resolveJsonPointer_pointerTo_nil {root target : Json} :
    resolveJsonPointer repr root (pointerTo []) ≠ .ok target := by
  intro h
  obtain ⟨segments, hsegments, -⟩ := resolveJsonPointer_eq_ok.mp h
  have hnone : pointerSegments? (pointerTo []) = none := by
    simp [pointerSegments?, pointerTo]
  rw [hnone] at hsegments
  cases hsegments

/-- The pointer of a path is resolved as the path is, unless an index is too long. -/
theorem pointer_resolves_iff (repr : Json → String) {root : Json} {path : List PathPart} :
    (∀ target, root.at? path = some target →
        resolveJsonPointer repr root (pointerTo path) = .ok target) ↔
      root.at? path = none ∨ (path ≠ [] ∧ ∀ part ∈ path, ¬part.IsLong) := by
  cases hvalue : root.at? path with
  | none => simp
  | some target =>
    have honly : (∀ target', some target = some target' →
        resolveJsonPointer repr root (pointerTo path) = .ok target') ↔
        resolveJsonPointer repr root (pointerTo path) = .ok target :=
      ⟨fun h => h target rfl, fun h target' heq => by cases heq; exact h⟩
    rw [honly, or_iff_right (fun h => (by cases h))]
    by_cases hne : path = []
    · subst hne
      exact iff_of_false resolveJsonPointer_pointerTo_nil fun h => h.1 rfl
    · rw [resolveJsonPointer_pointerTo_iff hne hvalue, and_iff_right hne]

/-- Problems are reported exactly if no bad index is met, the validator answers, and the path
    has a part, and no index with more digits than `int` reads. -/
theorem reportsProblems_iff (source document : String) (schemaRef : Option String)
    (inlineSchema : Option JsonObject) (value root : Json) (pointer : String)
    (path : List PathPart) :
    ReportsProblems library repr source document schemaRef inlineSchema value root pointer path ↔
      ¬MeetsBadSchema library source document schemaRef inlineSchema ∧
        ValidatorAnswers library repr source document schemaRef inlineSchema value ∧
        ¬MeetsBadIndex root pointer ∧
        (root.at? path = none ∨ (path ≠ [] ∧ ∀ part ∈ path, ¬part.IsLong)) := by
  rw [← pointer_resolves_iff repr, ← @raisesOnly_resolveJsonPointer_iff repr,
    ← and_assoc, ← validateInstance_eq_ok_iff]
  exact ⟨fun h => ⟨h.message, h.pointer, h.path⟩, fun h => ⟨h.1, h.2.1, h.2.2⟩⟩

/-- The parameters of a path of the bundled account information document. -/
def consentsDocument : JsonObject :=
  [("paths", .obj [("/account-access-consents", .obj [("post", .obj [("parameters",
    .arr [.obj [("$ref", .str "#/components/parameters/x-fapi-auth-date")]])])])])]

/-- A library where the validator finds nothing wrong. -/
def lenientLibrary : SchemaLibrary where
  document document := if document = "ob-read-write-v3.1.11-account-info-openapi" then
    some (.obj consentsDocument) else none
  iterErrors _ _ := .ok []

/-- An accepted assertion whose pointer ends in a superscript two raises. -/
theorem not_reportsProblems_superscript :
    let schemaRef := "#/paths/~1account-access-consents/post/parameters/²"
    parseResponseSchemaAssertion [("type", .str "response_schema"),
        ("source", .str "bundled_openapi"),
        ("document", .str "ob-read-write-v3.1.11-account-info-openapi"),
        ("schemaRef", .str schemaRef)] "assertions[0]" =
      .ok { document := "ob-read-write-v3.1.11-account-info-openapi",
            schemaRef := some schemaRef } ∧
    validateJsonInstanceAgainstResponseSchema lenientLibrary (fun _ => "'²'") "bundled_openapi"
        "ob-read-write-v3.1.11-account-info-openapi" (some schemaRef) none (.obj []) =
      .error (.valueError "invalid literal for int() with base 10: '²'") ∧
    ∀ root pointer path, ¬ReportsProblems lenientLibrary (fun _ => "'²'") "bundled_openapi"
      "ob-read-write-v3.1.11-account-info-openapi" (some schemaRef) none (.obj []) root pointer
      path := by
  refine ⟨rfl, rfl, fun root pointer path h => ?_⟩
  obtain ⟨message, hmessage⟩ := h.message
  cases hmessage

end Schemas

end Conformance
