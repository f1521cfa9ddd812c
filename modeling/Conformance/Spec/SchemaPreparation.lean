import Conformance.Spec.JsonPointers
import Conformance.Spec.SchemaKeywords

/-!
# Preparing schemas with references

`_prepare_openapi_schema` follows the references of a schema into the document, however
they lead back and forth. The references that are being followed are different ones and
all of them stand in the schema or in the document, so there is an end to it. It comes to
a schema without references, or to one of the faults that a reference can have.

## Key results

- `prepareValue_obj_eq_ok`: how a reference is prepared
- `not_prepared_of_meetsFault`, `exists_prepared`: what can be prepared
- `allObjects_prepared`: what is prepared
- `prepareOpenapiSchema_complete`: termination, faults and stability
-/

namespace Conformance

open Except

/-! ## One object -/

section Objects

variable {resolve : String → Except PyError Json} {fields : JsonObject} {prepared : Json}

/-- The siblings of a reference. -/
def HasSiblings (fields : JsonObject) : Prop := ∃ field ∈ fields, field.1 ≠ "$ref"

theorem any_ne_ref_iff : (fields.any fun field => field.1 ≠ "$ref") = true ↔ HasSiblings fields := by
  simp [HasSiblings, List.any_eq_true]

theorem ok_inj_comm {value other : Json} :
    (Except.ok value : Except PyError Json) = .ok other ↔ other = value :=
  ⟨fun h => (Except.ok.inj h).symm, fun h => h ▸ rfl⟩

/-- An object is prepared member by member, or its reference is, and its siblings over what
    the reference comes to. -/
theorem prepareValue_obj_eq_ok : prepareValue resolve (.obj fields) = .ok prepared ↔
    (fields.lookup "$ref" = none ∧ ∃ members, prepareFields resolve fields = .ok members ∧
      prepared = .obj (normalizeOpenapiSchemaKeywords members)) ∨
    ∃ ref resolved, fields.lookup "$ref" = some (.str ref) ∧ ref ≠ "" ∧
      resolve ref = .ok resolved ∧ ((¬HasSiblings fields ∧ prepared = resolved) ∨
        HasSiblings fields ∧ ∃ target siblings, resolved = .obj target ∧
          prepareFields resolve fields = .ok siblings ∧
          prepared = .obj (normalizeOpenapiSchemaKeywords (mergeSiblings target siblings))) := by
  unfold prepareValue
  cases hlookup : fields.lookup "$ref" with
  | none =>
    simp only [true_and, reduceCtorEq, false_and, exists_false, or_false]
    exact bind_eq_ok.trans (exists_congr fun members => and_congr_right fun _ => ok_inj_comm)
  | some value =>
    simp only [reduceCtorEq, false_and, false_or, Option.some.injEq]
    cases value with
    | str ref =>
      simp only [bind_eq_ok, raiseIf_eq_ok, exists_const, Json.str.injEq]
      constructor
      · rintro ⟨hne, resolved, hresolved, hmerged⟩
        refine ⟨ref, resolved, rfl, hne, hresolved, ?_⟩
        unfold mergeReference at hmerged
        by_cases hsiblings : HasSiblings fields
        · rw [if_neg (by rw [any_ne_ref_iff.mpr hsiblings]; simp)] at hmerged
          cases resolved with
          | obj target =>
            obtain ⟨siblings, hprepared, hmerged⟩ := bind_eq_ok.mp hmerged
            exact .inr ⟨hsiblings, target, siblings, rfl, hprepared, (Except.ok.inj hmerged).symm⟩
          | null | bool | int | float | str | arr => cases hmerged
        · rw [if_pos (Bool.eq_false_iff.mpr fun h => hsiblings (any_ne_ref_iff.mp h))] at hmerged
          exact .inl ⟨hsiblings, (Except.ok.inj hmerged).symm⟩
      · rintro ⟨_, resolved, rfl, hne, hresolved, hmerged⟩
        refine ⟨hne, resolved, hresolved, ?_⟩
        unfold mergeReference
        rcases hmerged with ⟨hsiblings, rfl⟩ | ⟨hsiblings, target, siblings, rfl, hprepared, rfl⟩
        · rw [if_pos (Bool.eq_false_iff.mpr fun h => hsiblings (any_ne_ref_iff.mp h))]
        · rw [if_neg (by rw [any_ne_ref_iff.mpr hsiblings]; simp), hprepared]
          rfl
    | null | bool | int | float | arr | obj => simp [schemaError]

/-- A list is prepared when its items are. -/
theorem prepareValue_arr_eq_ok {items : List Json} :
    prepareValue resolve (.arr items) = .ok prepared ↔
      ∃ members, items.mapM (prepareValue resolve) = .ok members ∧ prepared = .arr members := by
  rw [prepareValue, prepareItems_eq]
  exact bind_eq_ok.trans (exists_congr fun members => and_congr_right fun _ => ok_inj_comm)

/-- The members of an object can be prepared if each of them can. -/
theorem exists_prepareFields_eq_ok :
    (∃ members, prepareFields resolve fields = .ok members) ↔
      ∀ field ∈ fields, field.1 ≠ "$ref" → ∃ value, prepareValue resolve field.2 = .ok value := by
  rw [prepareFields_eq, List.exists_mapM_eq_ok]
  simp only [List.mem_filter, decide_eq_true_eq, and_imp]
  refine forall_congr' fun field => forall_congr' fun _ => forall_congr' fun _ => ?_
  constructor
  · rintro ⟨pair, hpair⟩
    obtain ⟨value, hvalue, -⟩ := bind_eq_ok.mp hpair
    exact ⟨value, hvalue⟩
  · rintro ⟨value, hvalue⟩
    exact ⟨(field.1, value), bind_eq_ok.mpr ⟨value, hvalue, rfl⟩⟩

/-- The prepared members of an object. -/
theorem mem_prepareFields {members : JsonObject} (h : prepareFields resolve fields = .ok members)
    {member : String × Json} (hmember : member ∈ members) :
    member.1 ≠ "$ref" ∧
      ∃ field ∈ fields, field.1 = member.1 ∧ prepareValue resolve field.2 = .ok member.2 := by
  rw [prepareFields_eq, List.mapM_eq_ok] at h
  obtain ⟨field, hfield, hpair⟩ := h.exists_of_mem_right hmember
  obtain ⟨value, hvalue, hpair⟩ := bind_eq_ok.mp hpair
  obtain rfl := Except.ok.inj hpair
  obtain ⟨hfield, hkey⟩ := List.mem_filter.mp hfield
  exact ⟨of_decide_eq_true hkey, field, hfield, rfl, hvalue⟩

/-- A merged member is one of the schema or a sibling. -/
theorem mem_mergeSiblings {schema siblings : JsonObject} {field : String × Json}
    (h : field ∈ mergeSiblings schema siblings) : field ∈ schema ∨ field ∈ siblings := by
  unfold mergeSiblings at h
  induction siblings generalizing schema with
  | nil => exact .inl h
  | cons sibling rest ih =>
    rcases ih h with hmem | hmem
    · rcases mem_setField hmem with rfl | hmem
      · exact .inr List.mem_cons_self
      · exact .inl hmem
    · exact .inr (List.mem_cons_of_mem _ hmem)

end Objects

/-! ## References -/

section References

variable (repr : Json → String) (document : Json)

/-- What a reference comes to under the references that are being resolved. -/
def resolveReference (budget : Nat) (seenRefs : List String) (rawRef : String) :
    Except PyError Json := do
  let joinedRefs := " -> ".intercalate (seenRefs ++ [rawRef])
  Except.raiseIf (rawRef ∈ seenRefs) (.schemaValidationConfigurationError
    s!"Circular schema reference is not supported: {joinedRefs}")
  let target ← resolveJsonPointer repr document rawRef
  prepareUnder repr document budget (seenRefs ++ [rawRef]) target

variable {repr document}

theorem prepareUnder_succ {budget : Nat} {seenRefs : List String} {value : Json} :
    prepareUnder repr document (budget + 1) seenRefs value =
      prepareValue (resolveReference repr document budget seenRefs) value := rfl

/-- A reference is resolved when it is new and its target is prepared. -/
theorem resolveReference_eq_ok {budget : Nat} {seenRefs : List String} {rawRef : String}
    {resolved : Json} : resolveReference repr document budget seenRefs rawRef = .ok resolved ↔
      rawRef ∉ seenRefs ∧ ∃ target, PointsTo document rawRef target ∧
        prepareUnder repr document budget (seenRefs ++ [rawRef]) target = .ok resolved := by
  unfold resolveReference
  simp only [bind_eq_ok, raiseIf_eq_ok, exists_const, resolveJsonPointer_eq_ok]

/-- An object with a reference is prepared from what the reference comes to, which is an
    object if there are siblings. -/
theorem reference_of_prepared {budget : Nat} {seenRefs : List String} {fields : JsonObject}
    {ref : String} {prepared : Json}
    (h : prepareUnder repr document (budget + 1) seenRefs (.obj fields) = .ok prepared)
    (href : fields.lookup "$ref" = some (.str ref)) :
    ∃ resolved, resolveReference repr document budget seenRefs ref = .ok resolved ∧
      (HasSiblings fields → ∃ target, resolved = .obj target) := by
  rcases prepareValue_obj_eq_ok.mp h with ⟨hnone, -⟩ | ⟨ref', resolved, href', -, hresolved, hmerged⟩
  · rw [href] at hnone
    cases hnone
  · obtain rfl := Json.str.inj (Option.some.inj (href.symm.trans href'))
    refine ⟨resolved, hresolved, fun hsiblings => ?_⟩
    rcases hmerged with ⟨hnone, -⟩ | ⟨-, target, -, htarget, -⟩
    · exact absurd hsiblings hnone
    · exact ⟨target, htarget⟩

end References

/-! ## What is prepared -/

/-- What is prepared has no reference and no keyword that is taken out. -/
theorem allObjects_prepared {repr : Json → String} {document value prepared : Json} {budget : Nat}
    {seenRefs : List String} (h : prepareUnder repr document budget seenRefs value = .ok prepared) :
    prepared.AllObjects IsPrepared := by
  induction budget generalizing seenRefs value prepared with
  | zero => cases h
  | succ budget ihBudget =>
    rw [prepareUnder_succ] at h
    induction value using Json.induction generalizing prepared with
    | obj fields ih =>
      have hmembers : ∀ members, prepareFields (resolveReference repr document budget seenRefs)
          fields = .ok members → ∀ member ∈ members, member.1 ≠ "$ref" ∧
            member.2.AllObjects IsPrepared := by
        intro members hprepared member hmember
        obtain ⟨hkey, field, hfield, -, hvalue⟩ := mem_prepareFields hprepared hmember
        exact ⟨hkey, ih field hfield hvalue⟩
      rcases prepareValue_obj_eq_ok.mp h with
        ⟨-, members, hprepared, rfl⟩ | ⟨ref, resolved, -, -, hresolved, hmerged⟩
      · have hall := hmembers members hprepared
        exact allObjects_normalize (fun member hmember => (hall member hmember).1)
          fun member hmember => (hall member hmember).2
      · obtain ⟨-, target, -, htarget⟩ := resolveReference_eq_ok.mp hresolved
        have hall := ihBudget htarget
        rcases hmerged with ⟨-, rfl⟩ | ⟨-, object, siblings, rfl, hprepared, rfl⟩
        · exact hall
        · have hsiblings := hmembers siblings hprepared
          refine allObjects_normalize (fun member hmember => ?_) fun member hmember => ?_
          · rcases mem_mergeSiblings hmember with hmember | hmember
            · exact hall.of_fields.referenceFree member hmember
            · exact (hsiblings member hmember).1
          · rcases mem_mergeSiblings hmember with hmember | hmember
            · exact hall.of_member hmember
            · exact (hsiblings member hmember).2
    | arr items ih =>
      obtain ⟨members, hprepared, rfl⟩ := prepareValue_arr_eq_ok.mp h
      refine .arr fun member hmember => ?_
      obtain ⟨item, hitem, hvalue⟩ := (List.mapM_eq_ok.mp hprepared).exists_of_mem_right hmember
      exact ih item hitem hvalue
    | null =>
      obtain rfl := Except.ok.inj h
      exact .null
    | bool b =>
      obtain rfl := Except.ok.inj h
      exact .bool b
    | int n =>
      obtain rfl := Except.ok.inj h
      exact .int n
    | float q =>
      obtain rfl := Except.ok.inj h
      exact .float q
    | str s =>
      obtain rfl := Except.ok.inj h
      exact .str s

/-! ## Faults -/

section Faults

variable (document : Json)

/-- A value that is an object, or a reference that leads to one. A reference with siblings
    is merged into an object. -/
inductive LeadsToObject : Json → Prop where
  | plain {fields : JsonObject} : fields.lookup "$ref" = none → LeadsToObject (.obj fields)
  | siblings {fields : JsonObject} : HasSiblings fields → LeadsToObject (.obj fields)
  | target {fields : JsonObject} {ref : String} {target : Json} :
    fields.lookup "$ref" = some (.str ref) → PointsTo document ref target →
    LeadsToObject target → LeadsToObject (.obj fields)

/-- Following the references of a value, under those that are being followed, meets a fault:
    a reference that is no text or an empty one, one that is being followed, one that points
    nowhere, or one with siblings that leads to no object. -/
inductive MeetsFault : List String → Json → Prop where
  | item {seenRefs : List String} {items : List Json} {item : Json} :
    item ∈ items → MeetsFault seenRefs item → MeetsFault seenRefs (.arr items)
  | member {seenRefs : List String} {fields : JsonObject} {field : String × Json} :
    field ∈ fields → field.1 ≠ "$ref" → MeetsFault seenRefs field.2 →
    MeetsFault seenRefs (.obj fields)
  | notText {seenRefs : List String} {fields : JsonObject} {value : Json} :
    fields.lookup "$ref" = some value → (∀ ref, value = .str ref → ref = "") →
    MeetsFault seenRefs (.obj fields)
  | cycle {seenRefs : List String} {fields : JsonObject} {ref : String} :
    fields.lookup "$ref" = some (.str ref) → ref ∈ seenRefs → MeetsFault seenRefs (.obj fields)
  | dangling {seenRefs : List String} {fields : JsonObject} {ref : String} :
    fields.lookup "$ref" = some (.str ref) → (∀ target, ¬PointsTo document ref target) →
    MeetsFault seenRefs (.obj fields)
  | target {seenRefs : List String} {fields : JsonObject} {ref : String} {target : Json} :
    fields.lookup "$ref" = some (.str ref) → PointsTo document ref target →
    MeetsFault (seenRefs ++ [ref]) target → MeetsFault seenRefs (.obj fields)
  | noObject {seenRefs : List String} {fields : JsonObject} {ref : String} {target : Json} :
    fields.lookup "$ref" = some (.str ref) → PointsTo document ref target → HasSiblings fields →
    ¬LeadsToObject document target → MeetsFault seenRefs (.obj fields)

variable {document} {repr : Json → String}

/-- What is prepared is an object if the value leads to one. -/
theorem isObject_prepared_iff {budget : Nat} {seenRefs : List String} {value prepared : Json}
    (h : prepareUnder repr document budget seenRefs value = .ok prepared) :
    (∃ fields, prepared = .obj fields) ↔ LeadsToObject document value := by
  induction budget generalizing seenRefs value prepared with
  | zero => cases h
  | succ budget ih =>
    rw [prepareUnder_succ] at h
    cases value with
    | obj fields =>
      rcases prepareValue_obj_eq_ok.mp h with
        ⟨hnone, members, -, rfl⟩ | ⟨ref, resolved, href, -, hresolved, hmerged⟩
      · exact iff_of_true ⟨_, rfl⟩ (.plain hnone)
      · obtain ⟨-, target, hpoints, htarget⟩ := resolveReference_eq_ok.mp hresolved
        rcases hmerged with ⟨hsiblings, rfl⟩ | ⟨hsiblings, -, -, -, -, rfl⟩
        · rw [ih htarget]
          refine ⟨.target href hpoints, fun hleads => ?_⟩
          cases hleads with
          | plain hnone =>
            rw [href] at hnone
            cases hnone
          | siblings hmem => exact absurd hmem hsiblings
          | target href' hpoints' hleads =>
            obtain rfl := Json.str.inj (Option.some.inj (href.symm.trans href'))
            exact hpoints.unique hpoints' ▸ hleads
        · exact iff_of_true ⟨_, rfl⟩ (.siblings hsiblings)
    | arr items =>
      obtain ⟨members, -, rfl⟩ := prepareValue_arr_eq_ok.mp h
      refine iff_of_false (by simp) fun hleads => ?_
      cases hleads
    | null | bool | int | float | str =>
      obtain rfl := Except.ok.inj h
      refine iff_of_false (by simp) fun hleads => ?_
      cases hleads

/-- A value that meets a fault cannot be prepared. -/
theorem not_prepared_of_meetsFault {seenRefs : List String} {value : Json}
    (h : MeetsFault document seenRefs value) (budget : Nat) (prepared : Json) :
    prepareUnder repr document budget seenRefs value ≠ .ok prepared := by
  induction h generalizing budget prepared with
  | item hitem _ ih =>
    intro hok
    cases budget with
    | zero => cases hok
    | succ budget =>
      obtain ⟨members, hprepared, -⟩ := prepareValue_arr_eq_ok.mp hok
      obtain ⟨member, -, hmember⟩ := (List.mapM_eq_ok.mp hprepared).exists_of_mem_left hitem
      exact ih (budget + 1) member hmember
  | @member seenRefs fields field hfield hkey _ ih =>
    intro hok
    cases budget with
    | zero => cases hok
    | succ budget =>
      have hmembers : ∃ members, prepareFields
          (resolveReference repr document budget seenRefs) fields = .ok members := by
        rcases prepareValue_obj_eq_ok.mp hok with
          ⟨-, members, hprepared, -⟩ | ⟨-, -, -, -, -, ⟨hsiblings, -⟩ | ⟨-, -, siblings, -, hprepared, -⟩⟩
        · exact ⟨members, hprepared⟩
        · exact absurd ⟨_, hfield, hkey⟩ hsiblings
        · exact ⟨siblings, hprepared⟩
      obtain ⟨value, hvalue⟩ := exists_prepareFields_eq_ok.mp hmembers _ hfield hkey
      exact ih (budget + 1) value hvalue
  | notText href hempty =>
    intro hok
    cases budget with
    | zero => cases hok
    | succ budget =>
      rcases prepareValue_obj_eq_ok.mp hok with ⟨hnone, -⟩ | ⟨ref, _, href', hne, -⟩
      · rw [href] at hnone
        cases hnone
      · exact hne (hempty ref (Option.some.inj (href.symm.trans href')))
  | cycle href hseen =>
    intro hok
    cases budget with
    | zero => cases hok
    | succ budget =>
      obtain ⟨_, hresolved, -⟩ := reference_of_prepared hok href
      exact (resolveReference_eq_ok.mp hresolved).1 hseen
  | dangling href hnowhere =>
    intro hok
    cases budget with
    | zero => cases hok
    | succ budget =>
      obtain ⟨_, hresolved, -⟩ := reference_of_prepared hok href
      obtain ⟨-, target, hpoints, -⟩ := resolveReference_eq_ok.mp hresolved
      exact hnowhere target hpoints
  | target href hpoints _ ih =>
    intro hok
    cases budget with
    | zero => cases hok
    | succ budget =>
      obtain ⟨resolved, hresolved, -⟩ := reference_of_prepared hok href
      obtain ⟨-, target, hpoints', htarget⟩ := resolveReference_eq_ok.mp hresolved
      obtain rfl := hpoints.unique hpoints'
      exact ih budget resolved htarget
  | noObject href hpoints hsiblings hleads =>
    intro hok
    cases budget with
    | zero => cases hok
    | succ budget =>
      obtain ⟨resolved, hresolved, hmerged⟩ := reference_of_prepared hok href
      obtain ⟨-, target, hpoints', htarget⟩ := resolveReference_eq_ok.mp hresolved
      obtain rfl := hpoints.unique hpoints'
      exact hleads ((isObject_prepared_iff htarget).mp (hmerged hsiblings))

end Faults

/-! ## The references there are -/

/-- The references of items are those of each. -/
theorem mem_itemReferences {items : List Json} {ref : String} :
    ref ∈ itemReferences items ↔ ∃ item ∈ items, ref ∈ references item := by
  induction items with
  | nil => simp [itemReferences]
  | cons item rest ih => simp [itemReferences, ih]

/-- The references of members are those of each, and the member's own. -/
theorem mem_fieldReferences {fields : List (String × Json)} {ref : String} :
    ref ∈ fieldReferences fields ↔
      ∃ field ∈ fields, (field.1 = "$ref" ∧ field.2 = .str ref) ∨ ref ∈ references field.2 := by
  induction fields with
  | nil => simp [fieldReferences]
  | cons field rest ih =>
    obtain ⟨key, member⟩ := field
    unfold fieldReferences
    simp only [List.mem_cons, exists_eq_or_imp]
    split
    · rename_i rawRef
      simp [references, ih, eq_comm]
    · rename_i hplain
      have hnot : ¬(key = "$ref" ∧ member = .str ref) := fun h => hplain ref h.1 h.2
      simp [hnot, ih]

/-- The reference of an object is one of its references. -/
theorem mem_references_of_lookup {fields : JsonObject} {ref : String}
    (h : fields.lookup "$ref" = some (.str ref)) : ref ∈ references (.obj fields) :=
  mem_fieldReferences.mpr ⟨_, mem_of_lookup h, .inl ⟨rfl, rfl⟩⟩

theorem references_subset_of_member {fields : JsonObject} {field : String × Json}
    (h : field ∈ fields) : references field.2 ⊆ references (.obj fields) :=
  fun _ href => mem_fieldReferences.mpr ⟨field, h, .inr href⟩

theorem references_subset_of_item {items : List Json} {item : Json} (h : item ∈ items) :
    references item ⊆ references (.arr items) :=
  fun _ href => mem_itemReferences.mpr ⟨item, h, href⟩

/-- What a pointer points to has no other references than the document. -/
theorem references_subset_of_descends {document target : Json} {segments : List String}
    (h : Descends document segments target) : references target ⊆ references document := by
  induction h with
  | nil => exact List.Subset.refl _
  | cons hchild _ ih =>
    refine List.Subset.trans ih ?_
    cases hchild with
    | member hlookup => exact references_subset_of_member (mem_of_lookup hlookup)
    | item _ hitem => exact references_subset_of_item (List.mem_of_getElem? hitem)

/-- The references of a target are references of the document. -/
theorem references_subset_of_pointsTo {document target : Json} {pointer : String}
    (h : PointsTo document pointer target) : references target ⊆ references document := by
  obtain ⟨segments, -, hdescends⟩ := h
  exact references_subset_of_descends hdescends

/-! ## Termination -/

/-- The references that are being followed: different ones, all of them among those that
    there are, and few enough for what is left of the budget. -/
structure Follows (known seenRefs : List String) (budget : Nat) : Prop where
  nodup : seenRefs.Nodup
  subset : seenRefs ⊆ known
  bound : known.length < budget + seenRefs.length

/-- The budget is not spent. -/
theorem Follows.pos {known seenRefs : List String} {budget : Nat}
    (h : Follows known seenRefs budget) : budget ≠ 0 := by
  rintro rfl
  have hlength := (List.subperm_of_subset h.nodup h.subset).length_le
  have := h.bound
  omega

/-- One more reference may be followed. -/
theorem Follows.follow {known seenRefs : List String} {budget : Nat} {ref : String}
    (h : Follows known seenRefs (budget + 1)) (hnew : ref ∉ seenRefs) (hmem : ref ∈ known) :
    Follows known (seenRefs ++ [ref]) budget where
  nodup := List.nodup_append.mpr ⟨h.nodup, List.nodup_singleton ref, by
    rintro other hother _ hsingle rfl
    exact hnew (List.mem_singleton.mp hsingle ▸ hother)⟩
  subset := List.append_subset.mpr ⟨h.subset, by simpa using hmem⟩
  bound := by
    have := h.bound
    rw [List.length_append, List.length_singleton]
    omega

section Termination

variable {repr : Json → String} {document : Json} {known : List String}

/-- A value that meets no fault can be prepared. -/
theorem exists_prepared (repr : Json → String) (hdocument : references document ⊆ known) {budget : Nat}
    {seenRefs : List String} {value : Json} (hfollows : Follows known seenRefs budget)
    (hvalue : references value ⊆ known) (hfault : ¬MeetsFault document seenRefs value) :
    ∃ prepared, prepareUnder repr document budget seenRefs value = .ok prepared := by
  induction budget generalizing seenRefs value with
  | zero => exact absurd rfl hfollows.pos
  | succ budget ihBudget =>
    induction value using Json.induction with
    | obj fields ih =>
      have hmembers : ∃ members, prepareFields (resolveReference repr document budget seenRefs)
          fields = .ok members :=
        exists_prepareFields_eq_ok.mpr fun field hfield hkey => ih field hfield
          (List.Subset.trans (references_subset_of_member hfield) hvalue)
          fun h => hfault (.member hfield hkey h)
      obtain ⟨members, hmembers⟩ := hmembers
      cases hlookup : fields.lookup "$ref" with
      | none => exact ⟨_, prepareValue_obj_eq_ok.mpr (.inl ⟨hlookup, members, hmembers, rfl⟩)⟩
      | some reference =>
        have htext : ∃ ref, reference = .str ref ∧ ref ≠ "" := by
          by_contra hnone
          exact hfault (.notText hlookup fun ref heq =>
            Classical.not_not.mp fun hne => hnone ⟨ref, heq, hne⟩)
        obtain ⟨ref, rfl, hne⟩ := htext
        have hnew : ref ∉ seenRefs := fun hseen => hfault (.cycle hlookup hseen)
        have hpoints : ∃ target, PointsTo document ref target := by
          by_contra hnone
          exact hfault (.dangling hlookup (not_exists.mp hnone))
        obtain ⟨target, hpoints⟩ := hpoints
        obtain ⟨resolved, hresolved⟩ := ihBudget
          (hfollows.follow hnew (hvalue (mem_references_of_lookup hlookup)))
          (List.Subset.trans (references_subset_of_pointsTo hpoints) hdocument)
          fun h => hfault (.target hlookup hpoints h)
        have hreference := resolveReference_eq_ok.mpr ⟨hnew, target, hpoints, hresolved⟩
        by_cases hsiblings : HasSiblings fields
        · have hleads : LeadsToObject document target := by
            by_contra hnone
            exact hfault (.noObject hlookup hpoints hsiblings hnone)
          obtain ⟨object, rfl⟩ := (isObject_prepared_iff hresolved).mpr hleads
          exact ⟨_, prepareValue_obj_eq_ok.mpr (.inr ⟨ref, _, hlookup, hne, hreference,
            .inr ⟨hsiblings, object, members, rfl, hmembers, rfl⟩⟩)⟩
        · exact ⟨_, prepareValue_obj_eq_ok.mpr (.inr ⟨ref, _, hlookup, hne, hreference,
            .inl ⟨hsiblings, rfl⟩⟩)⟩
    | arr items ih =>
      obtain ⟨members, hmembers⟩ := List.exists_mapM_eq_ok.mpr fun item hitem => ih item hitem
        (List.Subset.trans (references_subset_of_item hitem) hvalue)
        fun h => hfault (.item hitem h)
      exact ⟨_, prepareValue_arr_eq_ok.mpr ⟨members, hmembers, rfl⟩⟩
    | null | bool | int | float | str => exact ⟨_, rfl⟩

/-- The error of a schema that cannot be prepared. -/
def IsSchemaError (e : PyError) : Prop :=
  ∃ message, e = .schemaValidationConfigurationError message

/-- Preparing raises what resolving a reference raises, and errors of its own. -/
theorem raisesOnly_prepareValue {P : PyError → Prop} (hP : ∀ e, IsSchemaError e → P e)
    {resolve : String → Except PyError Json} {value : Json}
    (hresolve : ∀ ref ∈ references value, RaisesOnly P (resolve ref)) :
    RaisesOnly P (prepareValue resolve value) := by
  induction value using Json.induction with
  | obj fields ih =>
    have hmembers : RaisesOnly P (prepareFields resolve fields) := by
      rw [prepareFields_eq]
      refine List.raisesOnly_mapM fun field hfield => ?_
      have hmem := (List.mem_filter.mp hfield).1
      exact (ih field hmem fun ref href =>
        hresolve ref (references_subset_of_member hmem href)).bind fun _ _ => .ok _
    rw [prepareValue]
    cases hlookup : fields.lookup "$ref" with
    | none => exact hmembers.bind fun _ _ => .ok _
    | some reference =>
      cases reference with
      | str ref =>
        refine (RaisesOnly.raiseIf (hP _ ⟨_, rfl⟩)).bind fun _ _ =>
          (hresolve ref (mem_references_of_lookup hlookup)).bind fun resolved _ => ?_
        unfold mergeReference
        split
        · exact .ok _
        · cases resolved with
          | obj target => exact hmembers.bind fun _ _ => .ok _
          | null | bool | int | float | str | arr => exact .error (hP _ ⟨_, rfl⟩)
      | null | bool | int | float | arr | obj => exact .error (hP _ ⟨_, rfl⟩)
  | arr items ih =>
    rw [prepareValue, prepareItems_eq]
    exact (List.raisesOnly_mapM fun item hitem => ih item hitem fun ref href =>
      hresolve ref (references_subset_of_item hitem href)).bind fun _ _ => .ok _
  | null | bool | int | float | str => exact .ok _

/-- The budget is enough: preparing raises what the pointers of the references raise, and
    errors of its own. -/
theorem raisesOnly_prepareUnder {P : PyError → Prop} (hP : ∀ e, IsSchemaError e → P e)
    (hpointers : ∀ ref ∈ known, RaisesOnly P (resolveJsonPointer repr document ref))
    (hdocument : references document ⊆ known) {budget : Nat} {seenRefs : List String}
    {value : Json} (hfollows : Follows known seenRefs budget)
    (hvalue : references value ⊆ known) :
    RaisesOnly P (prepareUnder repr document budget seenRefs value) := by
  induction budget generalizing seenRefs value with
  | zero => exact absurd rfl hfollows.pos
  | succ budget ih =>
    rw [prepareUnder_succ]
    refine raisesOnly_prepareValue hP fun ref href => ?_
    refine (RaisesOnly.raiseIf (hP _ ⟨_, rfl⟩)).bind fun _ hnew =>
      (hpointers ref (hvalue href)).bind fun target htarget => ?_
    have hpoints := resolveJsonPointer_eq_ok.mp htarget
    exact ih (hfollows.follow (raiseIf_eq_ok.mp hnew) (hvalue href))
      (List.Subset.trans (references_subset_of_pointsTo hpoints) hdocument)

end Termination

/-! ## Whole schemas -/

section Schemas

variable {repr : Json → String} {document value : Json}

/-- The references of a schema and of its document. -/
def knownReferences (document value : Json) : List String :=
  (references document ++ references value).dedup

/-- All known references may be followed from the beginning. -/
theorem follows_nil : Follows (knownReferences document value) []
    ((references document ++ references value).dedup.length + 1) where
  nodup := List.nodup_nil
  subset := List.nil_subset _
  bound := Nat.lt_succ_self _

theorem references_document_subset : references document ⊆ knownReferences document value :=
  fun _ href => List.mem_dedup.mpr (List.mem_append_left _ href)

theorem references_value_subset : references value ⊆ knownReferences document value :=
  fun _ href => List.mem_dedup.mpr (List.mem_append_right _ href)

/-- A schema is prepared exactly if following its references meets no fault. -/
theorem prepareOpenapiSchema_error_iff :
    (∃ e, prepareOpenapiSchema repr document value = .error e) ↔ MeetsFault document [] value := by
  constructor
  · rintro ⟨e, herror⟩
    by_contra hfault
    obtain ⟨prepared, hprepared⟩ := exists_prepared repr references_document_subset
      follows_nil references_value_subset hfault
    cases herror.symm.trans hprepared
  · exact fun hfault => exists_error fun prepared => not_prepared_of_meetsFault hfault _ prepared

/-- What is prepared stays as it is when it is prepared again. -/
theorem prepareOpenapiSchema_prepared {prepared : Json}
    (h : prepareOpenapiSchema repr document value = .ok prepared) :
    prepareOpenapiSchema repr document prepared = .ok prepared := by
  have hprepared := allObjects_prepared h
  have hagain : prepareOpenapiSchema repr document prepared = .ok prepared.normalized :=
    prepareValue_of_referenceFree _ (hprepared.imp fun _ hfields => hfields.referenceFree)
  rw [hagain, normalized_of_isPrepared hprepared]

/-- Short ASCII references: preparing comes to an end with a schema without references, or
    with an error of its own, which it raises exactly at a fault, and what is prepared stays
    as it is. -/
theorem prepareOpenapiSchema_complete
    (hascii : ∀ ref ∈ references document ++ references value,
      (∀ c ∈ ref.toList, c.toNat < 128) ∧ ref.toList.length < 4300) :
    RaisesOnly IsSchemaError (prepareOpenapiSchema repr document value) ∧
      ((∃ e, prepareOpenapiSchema repr document value = .error e) ↔
        MeetsFault document [] value) ∧
      ∀ prepared, prepareOpenapiSchema repr document value = .ok prepared →
        prepared.AllObjects IsReferenceFree ∧
          prepareOpenapiSchema repr document prepared = .ok prepared := by
  refine ⟨?_, prepareOpenapiSchema_error_iff, fun prepared hprepared =>
    ⟨(allObjects_prepared hprepared).imp fun _ hfields => hfields.referenceFree,
      prepareOpenapiSchema_prepared hprepared⟩⟩
  refine raisesOnly_prepareUnder (fun _ h => h) (fun ref href => ?_) references_document_subset
    follows_nil references_value_subset
  obtain ⟨hchars, hlength⟩ := hascii ref (List.mem_dedup.mp href)
  exact raisesOnly_resolveJsonPointer_iff.mpr (not_meetsBadIndex_of_ascii hchars hlength)

/-- A document with a schema and two that refer to each other. -/
def accountsDocument : Json :=
  .obj [("Account", .obj [("type", .str "string"), ("nullable", .bool true)]),
    ("Parent", .obj [("items", .obj [("$ref", .str "#/Child")])]),
    ("Child", .obj [("items", .obj [("$ref", .str "#/Parent")])])]

/-- A schema with one reference is prepared. -/
theorem prepareOpenapiSchema_complete_account :
    let value : Json := .obj [("items", .obj [("$ref", .str "#/Account")])]
    RaisesOnly IsSchemaError (prepareOpenapiSchema (fun _ => "") accountsDocument value) ∧
      ((∃ e, prepareOpenapiSchema (fun _ => "") accountsDocument value = .error e) ↔
        MeetsFault accountsDocument [] value) ∧
      ∀ prepared, prepareOpenapiSchema (fun _ => "") accountsDocument value = .ok prepared →
        prepared.AllObjects IsReferenceFree ∧
          prepareOpenapiSchema (fun _ => "") accountsDocument prepared = .ok prepared :=
  prepareOpenapiSchema_complete (by decide)

end Schemas

end Conformance
