import Conformance.ForStd.List
import Conformance.Native.PlanDocumentJson
import Conformance.Spec.JsonObjects

/-!
# Reading plan documents

When the field readers of the plan-document parser succeed, and with what. None of
this depends on the location, which only the errors name.

## Key results

- `parseAbsolutePath_eq_ok`, `normalizePath_normalizePath`: what a path becomes
- `parsePlanDocumentV2Endpoint_eq_ok`: when an endpoint is accepted
-/

namespace Conformance.PlanJson

open Except PlanConfig

/-! ## Fields -/

theorem jsonObject_eq_ok {value : Json} {location : String} {fields : JsonObject} :
    jsonObject value location = .ok fields ↔ value = .obj fields := by
  cases value <;> simp [jsonObject]

/-- An object is accepted exactly when its keys are allowed. -/
theorem rejectUnknownKeys_eq_ok {raw : JsonObject} {allowedKeys : List String} {location : String}
    {u : Unit} :
    rejectUnknownKeys raw allowedKeys location = .ok u ↔
      ∀ key ∈ raw.map Prod.fst, key ∈ allowedKeys := by
  unfold rejectUnknownKeys
  rw [raiseIf_eq_ok, not_not, List.eq_nil_iff_forall_not_mem]
  simp only [mem_sorted, List.mem_filter, List.mem_dedup, decide_eq_true_eq, not_and, not_not]

/-- A required object is the object of its field. -/
theorem requiredObject_eq_ok {raw : JsonObject} {key location : String} {fields : JsonObject} :
    requiredObject raw key location = .ok fields ↔ raw.lookup key = some (.obj fields) := by
  unfold requiredObject
  cases raw.lookup key with
  | none => simp
  | some value => simp [jsonObject_eq_ok]

/-- A text that is not blank, with the white space around it. -/
def ReadsText (value : Json) (text : String) : Prop :=
  ∃ raw, value = .str raw ∧ strip raw ≠ "" ∧ text = strip raw

/-- A stripped text that is not empty reads as itself. -/
theorem readsText_self {text : String} (hstrip : strip text = text) (hne : text ≠ "") :
    ReadsText (.str text) text :=
  ⟨text, rfl, by rwa [hstrip], hstrip.symm⟩

/-- A text that is read is stripped. -/
theorem ReadsText.strip_eq {value : Json} {text : String} (h : ReadsText value text) :
    strip text = text := by
  obtain ⟨raw, -, -, rfl⟩ := h
  exact strip_strip raw

/-- A text that is read is not empty. -/
theorem ReadsText.ne_empty {value : Json} {text : String} (h : ReadsText value text) :
    text ≠ "" := by
  obtain ⟨raw, -, hne, rfl⟩ := h
  exact hne

/-- A text is read stripped, unless it is blank. -/
theorem readsText_str_iff {raw text : String} :
    ReadsText (.str raw) text ↔ strip raw ≠ "" ∧ text = strip raw := by
  constructor
  · rintro ⟨raw', heq, hne, rfl⟩
    obtain rfl := Json.str.inj heq
    exact ⟨hne, rfl⟩
  · rintro ⟨hne, rfl⟩
    exact ⟨raw, rfl, hne, rfl⟩

/-- When a text is read. -/
theorem nonEmptyString_eq_ok {value : Json} {problem : PyError} {text : String} :
    nonEmptyString value problem = .ok text ↔ ReadsText value text := by
  cases value with
  | str raw =>
    rw [nonEmptyString, ite_error_eq_ok, readsText_str_iff, Except.ok.injEq, eq_comm (a := text)]
  | null | bool _ | int _ | float _ | arr _ | obj _ => simp [nonEmptyString, ReadsText]

/-- When a required text is read. -/
theorem requiredString_eq_ok {raw : JsonObject} {key location text : String} :
    requiredString raw key location = .ok text ↔
      ∃ value, raw.lookup key = some value ∧ ReadsText value text := by
  unfold requiredString
  cases raw.lookup key with
  | none => simp
  | some value => simp [nonEmptyString_eq_ok]

/-- When an optional text is read. -/
theorem optionalString_eq_ok {raw : JsonObject} {key location : String} {text : Option String} :
    optionalString raw key location = .ok text ↔
      Option.Rel ReadsText (raw.lookup key) text := by
  unfold optionalString
  cases raw.lookup key with
  | none => cases text <;> simp
  | some value =>
    rw [bind_eq_ok]
    cases text with
    | none =>
      simp only [Option.not_rel_some_none, iff_false]
      rintro ⟨_, -, h⟩
      cases h
    | some text =>
      rw [Option.rel_some_some]
      constructor
      · rintro ⟨text', htext, h⟩
        obtain rfl := Option.some.inj (Except.ok.inj h)
        exact nonEmptyString_eq_ok.mp htext
      · intro h
        exact ⟨text, nonEmptyString_eq_ok.mpr h, rfl⟩

/-- A list of objects is the list of their values. -/
theorem forall₂_eq_obj {items : List Json} {objects : List JsonObject} :
    List.Forall₂ (fun item fields => item = .obj fields) items objects ↔
      items = objects.map Json.obj := by
  rw [← List.forall₂_map_right_iff (R := fun item value => item = value), List.forall₂_eq_eq_eq]

/-- When an optional list of objects is read. -/
theorem optionalObjectArray_eq_ok {raw : JsonObject} {key location : String}
    {objects : List JsonObject} :
    optionalObjectArray raw key location = .ok objects ↔
      (raw.lookup key = none ∧ objects = []) ∨
        raw.lookup key = some (.arr (objects.map Json.obj)) := by
  unfold optionalObjectArray
  cases raw.lookup key with
  | none => simp [eq_comm]
  | some value =>
    cases value with
    | arr items =>
      rw [List.zipIdx_mapM_eq_ok (R := fun item fields => item = .obj fields), forall₂_eq_obj]
      · simp
      · exact fun item _ fields => jsonObject_eq_ok
    | null | bool _ | int _ | float _ | str _ | obj _ => simp

/-- When a required list of objects is read. -/
theorem requiredObjectArray_eq_ok {raw : JsonObject} {key location : String}
    {objects : List JsonObject} :
    requiredObjectArray raw key location = .ok objects ↔
      raw.lookup key = some (.arr (objects.map Json.obj)) := by
  unfold requiredObjectArray
  cases hlookup : raw.lookup key with
  | none => simp
  | some value => simp [optionalObjectArray_eq_ok, hlookup]

/-- When an optional list of texts is read. -/
theorem parseOptionalStringArray_eq_ok {raw : JsonObject} {key location : String}
    {texts : List String} :
    parseOptionalStringArray raw key location = .ok texts ↔
      (raw.lookup key = none ∧ texts = []) ∨
        ∃ items, raw.lookup key = some (.arr items) ∧ List.Forall₂ ReadsText items texts := by
  unfold parseOptionalStringArray
  cases raw.lookup key with
  | none => simp [eq_comm]
  | some value =>
    cases value with
    | arr items =>
      rw [List.zipIdx_mapM_eq_ok (R := ReadsText)]
      · simp
      · exact fun item _ text => nonEmptyString_eq_ok
    | null | bool _ | int _ | float _ | str _ | obj _ => simp

/-! ## Paths -/

/-- Segments as `split` leaves them: none is empty and none has a slash. -/
def ProperSegments (segments : List (List Char)) : Prop :=
  ∀ segment ∈ segments, segment ≠ [] ∧ '/' ∉ segment

/-- The segments of a path are proper. -/
theorem properSegments_pathSegments (value : String) : ProperSegments (pathSegments value) := by
  intro segment hsegment
  obtain ⟨hmem, hne⟩ := List.mem_filter.mp hsegment
  exact ⟨by simpa using hne, List.notMem_of_mem_splitOn hmem⟩

/-- Joining segments and splitting again gives them back. -/
theorem pathSegments_joinSegments {segments : List (List Char)} (h : ProperSegments segments) :
    pathSegments (String.ofList (joinSegments segments)) = segments := by
  unfold pathSegments joinSegments
  rw [String.toList_ofList, List.splitOn_cons_eq_if_modifyHead, if_pos (by simp),
    List.filter_cons_of_neg (by simp)]
  cases segments with
  | nil => simp [List.intercalate_nil]
  | cons segment rest =>
    rw [List.splitOn_intercalate '/' (fun l hl => (h l hl).2) (List.cons_ne_nil _ _)]
    exact List.filter_eq_self.mpr fun l hl => by simpa using (h l hl).1

/-- A joined path ends with its last segment. -/
theorem exists_joinSegments_eq {segments : List (List Char)} (h : ProperSegments segments)
    (hne : segments ≠ []) :
    ∃ before last, last ≠ [] ∧ '/' ∉ last ∧ joinSegments segments = before ++ last := by
  induction segments with
  | nil => exact absurd rfl hne
  | cons segment rest ih =>
    obtain ⟨hsegment, hslash⟩ := h segment List.mem_cons_self
    cases rest with
    | nil => exact ⟨['/'], segment, hsegment, hslash, by simp [joinSegments]⟩
    | cons next rest =>
      obtain ⟨before, last, hlast, hlastSlash, heq⟩ :=
        ih (fun l hl => h l (List.mem_cons_of_mem _ hl)) (List.cons_ne_nil _ _)
      refine ⟨'/' :: segment ++ before, last, hlast, hlastSlash, ?_⟩
      rw [List.append_assoc, ← heq]
      simp [joinSegments, List.intercalate_cons_cons]

/-- The path a raw path is parsed to. -/
def normalizePath (value : String) : String :=
  String.ofList (joinSegments (pathSegments value))

/-- A path that begins with a slash is read as its normal form. -/
theorem parseAbsolutePath_eq_ok {value location path : String} :
    parseAbsolutePath value location = .ok path ↔
      value.toList.head? = some '/' ∧ path = normalizePath value := by
  unfold parseAbsolutePath normalizePath
  rw [ite_error_eq_ok, not_not]
  refine and_congr_right fun _ => ?_
  by_cases hroot : pathSegments value = []
  · rw [hroot]
    exact ⟨fun h => (Except.ok.inj h).symm, fun h => by rw [h]; rfl⟩
  · obtain ⟨before, last, hlast, hslash, heq⟩ :=
      exists_joinSegments_eq (properSegments_pathSegments value) hroot
    have hend : ∀ hjoin : before ++ last ≠ [], (before ++ last).getLast hjoin ≠ '/' := by
      intro hjoin hchar
      rw [List.getLast_append_of_ne_nil hjoin hlast] at hchar
      exact hslash (hchar ▸ List.getLast_mem hlast)
    have hnotRoot : before ++ last ≠ ['/'] := by
      intro hsingle
      have hjoin : before ++ last ≠ [] := by simp [hsingle]
      have hchar := hend hjoin
      simp only [hsingle, List.getLast_singleton] at hchar
      exact hchar rfl
    have htrim : (before ++ last).rdropWhile (· = '/') = before ++ last :=
      List.rdropWhile_eq_self_iff.mpr fun hjoin => by simpa using hend hjoin
    rw [heq, if_neg hnotRoot, htrim, Except.ok.injEq, eq_comm]

theorem head?_normalizePath (value : String) :
    (normalizePath value).toList.head? = some '/' := by
  simp [normalizePath, joinSegments]

/-- Parsing a parsed path changes nothing. -/
theorem normalizePath_normalizePath (value : String) :
    normalizePath (normalizePath value) = normalizePath value := by
  unfold normalizePath
  rw [pathSegments_joinSegments (properSegments_pathSegments value)]

/-- A joined path without its slashes has the characters of its segments. -/
theorem filter_joinSegments {segments : List (List Char)} (h : ProperSegments segments) :
    (joinSegments segments).filter (· ≠ '/') = segments.flatten := by
  induction segments with
  | nil => rfl
  | cons segment rest ih =>
    have hrest := ih fun l hl => h l (List.mem_cons_of_mem _ hl)
    have hsegment : segment.filter (· ≠ '/') = segment :=
      List.filter_eq_self.mpr fun c hc => by
        simp only [ne_eq, decide_eq_true_eq]
        rintro rfl
        exact (h segment List.mem_cons_self).2 hc
    cases rest with
    | nil =>
      rw [joinSegments, List.intercalate_singleton, List.filter_cons_of_neg (by simp), hsegment]
      simp
    | cons next rest =>
      have hjoin : joinSegments (segment :: next :: rest) =
          '/' :: segment ++ joinSegments (next :: rest) := by
        simp [joinSegments, List.intercalate_cons_cons]
      rw [hjoin, List.filter_append, hrest, List.filter_cons_of_neg (by simp), hsegment]
      rfl

/-- Parsing keeps the characters between the slashes. -/
theorem filter_normalizePath (value : String) :
    (normalizePath value).toList.filter (· ≠ '/') = value.toList.filter (· ≠ '/') := by
  unfold normalizePath
  rw [String.toList_ofList, filter_joinSegments (properSegments_pathSegments value),
    ← List.flatten_splitOn, pathSegments]
  exact List.flatten_filter_ne_nil

/-- A parsed path that is read again stays as it is exactly when it has no white space at
    its end. -/
theorem normalizePath_strip_iff {path : String} (hhead : path.toList.head? = some '/')
    (hnormal : normalizePath path = path) : normalizePath (strip path) = path ↔ strip path = path := by
  constructor
  · intro h
    have hchars := congrArg (fun text => text.toList.filter (· ≠ '/')) h
    simp only [filter_normalizePath] at hchars
    have hdrop : path.toList.dropWhile isSpace = path.toList := by
      cases hlist : path.toList with
      | nil => rfl
      | cons c rest =>
        rw [hlist, List.head?_cons] at hhead
        exact List.dropWhile_cons_of_neg (by rw [Option.some.inj hhead]; decide)
    have hstrip : (strip path).toList = path.toList.rdropWhile isSpace := by
      rw [strip, String.toList_ofList, hdrop]
    -- the white space at the end has no slash, so it would be missing from what is kept
    have hsplit := List.rdropWhile_append_rtakeWhile (p := isSpace) (l := path.toList)
    have hspace : (path.toList.rtakeWhile isSpace).filter (· ≠ '/') =
        path.toList.rtakeWhile isSpace := by
      refine List.filter_eq_self.mpr fun c hc => ?_
      have hc' := List.mem_rtakeWhile_imp hc
      simp only [ne_eq, decide_eq_true_eq]
      rintro rfl
      exact absurd hc' (by decide)
    have hnil : path.toList.rtakeWhile isSpace = [] := by
      rw [hstrip] at hchars
      nth_rewrite 2 [← hsplit] at hchars
      rw [List.filter_append, hspace] at hchars
      exact List.self_eq_append_right.mp hchars
    rw [hnil, List.append_nil] at hsplit
    rw [← String.toList_inj, hstrip, hsplit]
  · intro h
    rw [h, hnormal]

/-! ## Endpoints -/

/-- The location is used in messages only. -/
theorem parseHttpMethod_eq_ok {value location : String} {method : HttpMethod} :
    parseHttpMethod value location = .ok method ↔ parseHttpMethod value "" = .ok method := by
  unfold parseHttpMethod
  split <;> simp

/-- A method is written as its own name. -/
theorem parseHttpMethod_text (method : HttpMethod) :
    parseHttpMethod method.text "" = .ok method := by
  cases method <;> decide +kernel

/-- A raw endpoint names an operation. -/
def ReadsRef (raw : JsonObject) (ref : EndpointRef) : Prop :=
  ∃ method methodText path pathText, raw.lookup "method" = some method ∧
    ReadsText method methodText ∧ parseHttpMethod methodText "" = .ok ref.method ∧
    raw.lookup "path" = some path ∧ ReadsText path pathText ∧
    pathText.toList.head? = some '/' ∧ ref.path = normalizePath pathText

/-- What a reference that is parsed is read from. -/
theorem parseEndpointRef_eq_ok {raw : JsonObject} {location : String} {ref : EndpointRef} :
    parseEndpointRef raw location = .ok ref ↔ ReadsRef raw ref := by
  unfold parseEndpointRef
  simp only [bind_eq_ok, requiredString_eq_ok, parseAbsolutePath_eq_ok]
  constructor
  · rintro ⟨methodText, ⟨methodValue, hmethodLookup, hmethodText⟩, method, hmethod, pathText,
      ⟨pathValue, hpathLookup, hpathText⟩, path, ⟨hhead, rfl⟩, h⟩
    obtain rfl := Except.ok.inj h
    exact ⟨methodValue, methodText, pathValue, pathText, hmethodLookup, hmethodText,
      parseHttpMethod_eq_ok.mp hmethod, hpathLookup, hpathText, hhead, rfl⟩
  · rintro ⟨methodValue, methodText, pathValue, pathText, hmethodLookup, hmethodText, hmethod,
      hpathLookup, hpathText, hhead, hpath⟩
    refine ⟨methodText, ⟨methodValue, hmethodLookup, hmethodText⟩, ref.method,
      parseHttpMethod_eq_ok.mpr hmethod, pathText, ⟨pathValue, hpathLookup, hpathText⟩, _,
      ⟨hhead, rfl⟩, ?_⟩
    rw [← hpath]
    rfl

/-- The capability ids that a raw endpoint declares. -/
def ReadsCapabilityIds (raw : JsonObject) (capabilityIds : List String) : Prop :=
  ((raw.lookup "capabilities" = none ∧ capabilityIds = []) ∨
    ∃ items, raw.lookup "capabilities" = some (.arr items) ∧
      List.Forall₂ ReadsText items capabilityIds) ∧ capabilityIds.Nodup

/-- What capability ids that are parsed are read from. -/
theorem parseEndpointCapabilityIds_eq_ok {raw : JsonObject} {location : String}
    {capabilityIds : List String} :
    parseEndpointCapabilityIds raw location = .ok capabilityIds ↔
      ReadsCapabilityIds raw capabilityIds := by
  unfold parseEndpointCapabilityIds ReadsCapabilityIds
  rw [bind_eq_ok, ← @parseOptionalStringArray_eq_ok raw "capabilities" location]
  have hloop : ∀ texts : List String,
      texts.zipIdx.foldlM (addCapabilityId location) [] = .ok capabilityIds ↔
        texts = capabilityIds ∧ capabilityIds.Nodup := by
    intro texts
    rw [List.foldlM_snoc_eq_ok (P := fun entry text => entry.1 = text) id]
    · rw [List.forall₂_zipIdx_left_iff (R := fun text text' => text = text'),
        List.forall₂_eq_eq_eq, List.map_id]
    · rintro ⟨text, index⟩ - pre res
      by_cases hmem : text ∈ pre <;> simp [addCapabilityId, hmem, eq_comm]
  constructor
  · rintro ⟨texts, htexts, h⟩
    obtain ⟨rfl, hnodup⟩ := (hloop texts).mp h
    exact ⟨htexts, hnodup⟩
  · rintro ⟨htexts, hnodup⟩
    exact ⟨capabilityIds, htexts, (hloop capabilityIds).mpr ⟨rfl, hnodup⟩⟩

/-- A raw endpoint of a resource group. -/
structure ReadsEndpoint (raw : JsonObject) (endpoint : PlanDocumentEndpoint) : Prop where
  keys : ∀ key ∈ raw.map Prod.fst, key ∈ ["method", "path", "operationId", "capabilities"]
  ref : ReadsRef raw (endpointRef endpoint)
  operationId : Option.Rel ReadsText (raw.lookup "operationId") endpoint.operationId
  capabilityIds : ReadsCapabilityIds raw endpoint.capabilityIds
  required : endpoint.required = none
  locked : endpoint.locked = none

/-- An endpoint is parsed when it is read and new. -/
theorem parsePlanDocumentV2Endpoint_eq_ok {raw : JsonObject} {location : String}
    {seenRefs : List EndpointRef} {endpoint : PlanDocumentEndpoint} :
    parsePlanDocumentV2Endpoint raw location seenRefs = .ok endpoint ↔
      ReadsEndpoint raw endpoint ∧ endpointRef endpoint ∉ seenRefs := by
  unfold parsePlanDocumentV2Endpoint
  simp only [bind_eq_ok, rejectUnknownKeys_eq_ok, parseEndpointRef_eq_ok, raiseIf_eq_ok,
    optionalString_eq_ok, parseEndpointCapabilityIds_eq_ok]
  constructor
  · rintro ⟨-, hkeys, ref, href, -, hfresh, operationId, hoperationId, capabilityIds,
      hcapabilityIds, h⟩
    obtain rfl := Except.ok.inj h
    exact ⟨⟨hkeys, href, hoperationId, hcapabilityIds, rfl, rfl⟩, hfresh⟩
  · rintro ⟨hreads, hfresh⟩
    refine ⟨(), hreads.keys, endpointRef endpoint, hreads.ref, (), hfresh, endpoint.operationId,
      hreads.operationId, endpoint.capabilityIds, hreads.capabilityIds, ?_⟩
    refine congrArg Except.ok ?_
    obtain ⟨method, path, operationId, capabilityIds, required, locked⟩ := endpoint
    obtain rfl : required = none := hreads.required
    obtain rfl : locked = none := hreads.locked
    rfl

/-- The endpoints of a resource group are read one by one, without repetition. -/
theorem parsePlanDocumentV2Endpoints_eq_ok {rawEndpoints : List JsonObject} {location : String}
    {endpoints : List PlanDocumentEndpoint} :
    parsePlanDocumentV2Endpoints rawEndpoints location = .ok endpoints ↔
      List.Forall₂ ReadsEndpoint rawEndpoints endpoints ∧
        (endpoints.map endpointRef).Nodup := by
  unfold parsePlanDocumentV2Endpoints
  rw [List.foldlM_snoc_eq_ok (P := fun entry endpoint => ReadsEndpoint entry.1 endpoint) endpointRef,
    List.forall₂_zipIdx_left_iff]
  rintro ⟨raw, index⟩ - pre res
  simp only [bind_eq_ok, parsePlanDocumentV2Endpoint_eq_ok]
  constructor
  · rintro ⟨endpoint, ⟨hreads, hfresh⟩, h⟩
    exact ⟨endpoint, hreads, hfresh, (Except.ok.inj h).symm⟩
  · rintro ⟨endpoint, hreads, hfresh, rfl⟩
    exact ⟨endpoint, ⟨hreads, hfresh⟩, rfl⟩

end Conformance.PlanJson
