import Conformance.Spec.PlanReaders

/-!
# Reading an exported scope

The resource groups and direct endpoints of a parsed canonical plan, exported and
read again. An endpoint comes back as it is exactly when its path has no white
space at its end; a group that selects everything loses its own label.

## Key results

- `readsEndpoint_export`: an exported endpoint read again
- `ParsedGroup.readsGroup_export`, `ReadsDirect.export`: an exported resource group and an
  exported direct endpoint read again
-/

namespace Conformance.PlanJson

open Except PlanConfig

/-! ## Endpoints of resource groups -/

/-- A text that reads as itself. -/
def Stripped (text : String) : Prop := strip text = text ∧ text ≠ ""

/-- A parsed endpoint. -/
structure ParsedEndpoint (endpoint : PlanDocumentEndpoint) : Prop where
  head : endpoint.path.toList.head? = some '/'
  path : normalizePath endpoint.path = endpoint.path
  operationId : ∀ operationId ∈ endpoint.operationId, Stripped operationId
  capabilityIds : ∀ capabilityId ∈ endpoint.capabilityIds, Stripped capabilityId
  nodup : endpoint.capabilityIds.Nodup

theorem ReadsText.stripped {value : Json} {text : String} (h : ReadsText value text) :
    Stripped text :=
  ⟨h.strip_eq, h.ne_empty⟩

theorem Stripped.readsText {text : String} (h : Stripped text) : ReadsText (.str text) text :=
  readsText_self h.1 h.2

/-- The path of a reference that is read begins with a slash and is normal. -/
theorem ReadsRef.path {raw : JsonObject} {ref : EndpointRef} (h : ReadsRef raw ref) :
    ref.path.toList.head? = some '/' ∧ normalizePath ref.path = ref.path := by
  obtain ⟨_, _, _, pathText, -, -, -, -, -, -, hpath⟩ := h
  rw [hpath]
  exact ⟨head?_normalizePath pathText, normalizePath_normalizePath pathText⟩

/-- An optional text that is read is stripped. -/
theorem stripped_of_rel {value : Option Json} {text : Option String}
    (h : Option.Rel ReadsText value text) : ∀ t ∈ text, Stripped t := by
  cases h with
  | none => simp
  | some h =>
    intro t ht
    exact Option.some.inj ht ▸ h.stripped

/-- Texts that are read are stripped. -/
theorem stripped_of_forall₂ {items : List Json} {texts : List String}
    (h : List.Forall₂ ReadsText items texts) : ∀ text ∈ texts, Stripped text := by
  intro text htext
  obtain ⟨_, _, hreads⟩ := h.exists_of_mem_right htext
  exact hreads.stripped

/-- Capability ids that are read are stripped. -/
theorem ReadsCapabilityIds.stripped {raw : JsonObject} {capabilityIds : List String}
    (h : ReadsCapabilityIds raw capabilityIds) :
    ∀ capabilityId ∈ capabilityIds, Stripped capabilityId := by
  rcases h.1 with ⟨-, rfl⟩ | ⟨items, -, hitems⟩
  · simp
  · exact stripped_of_forall₂ hitems

/-- An endpoint that is read is one that parsing makes. -/
theorem ReadsEndpoint.parsed {raw : JsonObject} {endpoint : PlanDocumentEndpoint}
    (h : ReadsEndpoint raw endpoint) : ParsedEndpoint endpoint where
  head := h.ref.path.1
  path := h.ref.path.2
  operationId := stripped_of_rel h.operationId
  capabilityIds := h.capabilityIds.stripped
  nodup := h.capabilityIds.2

/-- Stripped texts are read back. -/
theorem forall₂_readsText_map {texts : List String} (h : ∀ text ∈ texts, Stripped text) :
    List.Forall₂ ReadsText (texts.map Json.str) texts := by
  rw [List.forall₂_map_left_iff]
  exact List.forall₂_same.mpr fun text htext => (h text htext).readsText

/-- The operation id of an exported endpoint is read again. -/
theorem rel_operationId {operationId : Option String} (h : ∀ text ∈ operationId, Stripped text) :
    Option.Rel ReadsText (operationId.map Json.str) operationId := by
  cases operationId with
  | none => exact .none
  | some text => exact .some (h text rfl).readsText

section Export

variable (endpoint : PlanDocumentEndpoint)

theorem lookup_method_export :
    (groupEndpointForExport endpoint).lookup "method" = some (.str endpoint.method.text) := rfl

theorem lookup_path_export :
    (groupEndpointForExport endpoint).lookup "path" = some (.str endpoint.path) := rfl

/-- The operation id is exported if there is one. -/
theorem lookup_operationIdField :
    (operationIdField endpoint).lookup "operationId" = endpoint.operationId.map Json.str := by
  unfold operationIdField
  cases endpoint.operationId <;> rfl

/-- So it is in an exported endpoint. -/
theorem lookup_operationId_export :
    (groupEndpointForExport endpoint).lookup "operationId" =
      endpoint.operationId.map Json.str := by
  unfold groupEndpointForExport
  rw [List.lookup_append, List.lookup_append, lookup_operationIdField]
  by_cases hcapabilities : endpoint.capabilityIds = []
  · rw [if_pos hcapabilities]
    cases endpoint.operationId <;> rfl
  · rw [if_neg hcapabilities]
    cases endpoint.operationId <;> rfl

/-- The capability ids are exported if there are some. -/
theorem lookup_capabilities_export :
    (groupEndpointForExport endpoint).lookup "capabilities" =
      if endpoint.capabilityIds = [] then none
      else some (.arr (endpoint.capabilityIds.map Json.str)) := by
  unfold groupEndpointForExport operationIdField
  by_cases hcapabilities : endpoint.capabilityIds = []
  · rw [if_pos hcapabilities, if_pos hcapabilities]
    cases endpoint.operationId <;> rfl
  · rw [if_neg hcapabilities, if_neg hcapabilities]
    cases endpoint.operationId <;> rfl

/-- The keys of an exported endpoint. -/
theorem keys_export :
    ∀ key ∈ (groupEndpointForExport endpoint).map Prod.fst,
      key ∈ ["method", "path", "operationId", "capabilities"] := by
  unfold groupEndpointForExport operationIdField
  by_cases hcapabilities : endpoint.capabilityIds = []
  · rw [if_pos hcapabilities]
    cases endpoint.operationId <;> simp
  · rw [if_neg hcapabilities]
    cases endpoint.operationId <;> simp

end Export

/-- An exported endpoint is read as the one whose path was stripped. -/
theorem ReadsEndpoint.path_export {endpoint endpoint' : PlanDocumentEndpoint}
    (h : ReadsEndpoint (groupEndpointForExport endpoint) endpoint') :
    endpoint'.path = normalizePath (strip endpoint.path) := by
  obtain ⟨_, _, path, pathText, -, -, -, hlookup, hreads, -, hpath⟩ := h.ref
  rw [lookup_path_export] at hlookup
  obtain rfl := Option.some.inj hlookup
  rw [← (readsText_str_iff.mp hreads).2]
  exact hpath

/-- A parsed endpoint without white space at the end of its path is read again as itself. -/
theorem readsEndpoint_export {endpoint : PlanDocumentEndpoint} (h : ParsedEndpoint endpoint)
    (hstrip : strip endpoint.path = endpoint.path) (hrequired : endpoint.required = none)
    (hlocked : endpoint.locked = none) :
    ReadsEndpoint (groupEndpointForExport endpoint) endpoint where
  keys := keys_export endpoint
  ref := by
    refine ⟨_, endpoint.method.text, _, endpoint.path, lookup_method_export endpoint, ?_,
      parseHttpMethod_text endpoint.method, lookup_path_export endpoint, ?_, h.head, h.path.symm⟩
    · refine readsText_self ?_ ?_ <;> cases endpoint.method <;> decide +kernel
    · refine readsText_self hstrip ?_
      intro hempty
      have hhead := h.head
      rw [hempty] at hhead
      cases hhead
  operationId := by
    rw [lookup_operationId_export]
    exact rel_operationId h.operationId
  capabilityIds := by
    refine ⟨?_, h.nodup⟩
    rw [lookup_capabilities_export]
    by_cases hcapabilities : endpoint.capabilityIds = []
    · exact .inl ⟨if_pos hcapabilities, hcapabilities⟩
    · exact .inr ⟨_, if_neg hcapabilities, forall₂_readsText_map h.capabilityIds⟩
  required := hrequired
  locked := hlocked

/-! ## Resource groups -/

/-- The location is used in messages only. -/
theorem canonicalGroupForId_eq_ok {groupId location : String} {selectAll : Bool}
    {group : PlanResourceGroup} :
    canonicalGroupForId groupId location selectAll = .ok group ↔
      canonicalGroupForId groupId "" selectAll = .ok group := by
  unfold canonicalGroupForId
  split <;> simp

/-- A raw resource group in the form of an object. -/
structure ReadsGroupObject (raw : JsonObject) (group : PlanResourceGroup) : Prop where
  keys : ∀ key ∈ raw.map Prod.fst, key ∈ ["id", "label", "endpoints"]
  id : ∃ value groupId label, raw.lookup "id" = some value ∧ ReadsText value groupId ∧
    canonicalGroupForId groupId "" false =
      .ok { resourceGroupId := group.resourceGroupId, endpoints := [], label := label } ∧
    ∃ ownLabel, Option.Rel ReadsText (raw.lookup "label") ownLabel ∧
      group.label = (ownLabel <|> label)
  endpoints : ∃ rawEndpoints,
    ((raw.lookup "endpoints" = none ∧ rawEndpoints = []) ∨
      raw.lookup "endpoints" = some (.arr (rawEndpoints.map Json.obj))) ∧
    List.Forall₂ ReadsEndpoint rawEndpoints group.endpoints
  nodup : (group.endpoints.map endpointRef).Nodup
  selectAll : group.selectAll = group.endpoints.isEmpty

/-- A group that is named by its id has no endpoints of its own. -/
theorem canonicalGroupForId_shape {groupId location : String} {selectAll : Bool}
    {group : PlanResourceGroup} (h : canonicalGroupForId groupId location selectAll = .ok group) :
    group = { resourceGroupId := group.resourceGroupId, endpoints := [], label := group.label,
              selectAll := selectAll } := by
  unfold canonicalGroupForId at h
  split at h
  · rw [← Except.ok.inj h]
  · cases h

/-- What a group object that is parsed is read from. -/
theorem parseCanonicalResourceGroupObject_eq_ok {raw : JsonObject} {location : String}
    {group : PlanResourceGroup} :
    parseCanonicalResourceGroupObject raw location = .ok group ↔ ReadsGroupObject raw group := by
  unfold parseCanonicalResourceGroupObject
  simp only [bind_eq_ok, rejectUnknownKeys_eq_ok, requiredString_eq_ok, optionalObjectArray_eq_ok,
    parsePlanDocumentV2Endpoints_eq_ok, optionalString_eq_ok]
  constructor
  · rintro ⟨-, hkeys, groupId, ⟨value, hlookup, hreads⟩, base, hbase, rawEndpoints, hraw, endpoints,
      ⟨hendpoints, hnodup⟩, ownLabel, hlabel, h⟩
    obtain rfl := Except.ok.inj h
    rw [canonicalGroupForId_eq_ok, canonicalGroupForId_shape hbase] at hbase
    exact ⟨hkeys, ⟨value, groupId, base.label, hlookup, hreads, hbase, ownLabel, hlabel, rfl⟩,
      ⟨rawEndpoints, hraw, hendpoints⟩, hnodup, rfl⟩
  · rintro ⟨hkeys, ⟨value, groupId, label, hlookup, hreads, hbase, ownLabel, hlabel, hgroupLabel⟩,
      ⟨rawEndpoints, hraw, hendpoints⟩, hnodup, hselectAll⟩
    refine ⟨(), hkeys, groupId, ⟨value, hlookup, hreads⟩, _, canonicalGroupForId_eq_ok.mpr hbase,
      rawEndpoints, hraw, group.endpoints, ⟨hendpoints, hnodup⟩, ownLabel, hlabel, ?_⟩
    refine congrArg Except.ok ?_
    rw [← hgroupLabel, ← hselectAll]

/-- A raw resource group in either form. -/
inductive ReadsGroup : Json → PlanResourceGroup → Prop where
  | shorthand {raw : Json} {groupId : String} {group : PlanResourceGroup}
      (hreads : ReadsText raw groupId) (hgroup : canonicalGroupForId groupId "" true = .ok group) :
      ReadsGroup raw group
  | object {raw : JsonObject} {group : PlanResourceGroup} (hreads : ReadsGroupObject raw group) :
      ReadsGroup (.obj raw) group

/-- What a group that is parsed is read from. -/
theorem parseCanonicalResourceGroup_eq_ok {raw : Json} {location : String}
    {group : PlanResourceGroup} :
    parseCanonicalResourceGroup raw location = .ok group ↔ ReadsGroup raw group := by
  have hstring : ∀ raw, parseCanonicalResourceGroupString raw location = .ok group ↔
      ∃ groupId, ReadsText raw groupId ∧ canonicalGroupForId groupId "" true = .ok group := by
    intro raw
    unfold parseCanonicalResourceGroupString
    simp only [bind_eq_ok, nonEmptyString_eq_ok]
    exact exists_congr fun groupId => and_congr_right fun _ => canonicalGroupForId_eq_ok
  cases raw with
  | obj fields =>
    rw [parseCanonicalResourceGroup, parseCanonicalResourceGroupObject_eq_ok]
    constructor
    · exact .object
    · intro h
      cases h with
      | object hreads => exact hreads
      | shorthand hreads _ =>
        obtain ⟨_, h, -⟩ := hreads
        cases h
  | null | bool _ | int _ | float _ | str _ | arr _ =>
    unfold parseCanonicalResourceGroup
    rw [hstring]
    constructor
    · rintro ⟨groupId, hreads, hgroup⟩
      exact .shorthand hreads hgroup
    · intro h
      cases h with
      | shorthand hreads hgroup => exact ⟨_, hreads, hgroup⟩

/-- The canonical resource groups of a plan are read one by one, without repetition. -/
theorem parseCanonicalResourceGroups_eq_ok {rawPlan : JsonObject} {groups : List PlanResourceGroup} :
    parseCanonicalResourceGroups rawPlan = .ok groups ↔
      ∃ rawGroups, getField rawPlan "resourceGroups" = .arr rawGroups ∧ rawGroups ≠ [] ∧
        List.Forall₂ ReadsGroup rawGroups groups ∧
        (groups.map PlanResourceGroup.resourceGroupId).Nodup := by
  have hloop : ∀ rawGroups : List Json, rawGroups.zipIdx.foldlM addCanonicalResourceGroup [] =
      .ok groups ↔ List.Forall₂ ReadsGroup rawGroups groups ∧
        (groups.map PlanResourceGroup.resourceGroupId).Nodup := by
    intro rawGroups
    rw [List.foldlM_snoc_eq_ok (P := fun entry group => ReadsGroup entry.1 group)
      PlanResourceGroup.resourceGroupId, List.forall₂_zipIdx_left_iff]
    rintro ⟨raw, index⟩ - pre res
    unfold addCanonicalResourceGroup
    simp only [bind_eq_ok, parseCanonicalResourceGroup_eq_ok, raiseIf_eq_ok]
    constructor
    · rintro ⟨group, hreads, -, hfresh, h⟩
      exact ⟨group, hreads, hfresh, (Except.ok.inj h).symm⟩
    · rintro ⟨group, hreads, hfresh, rfl⟩
      exact ⟨group, hreads, (), hfresh, rfl⟩
  unfold parseCanonicalResourceGroups
  cases hget : getField rawPlan "resourceGroups" with
  | arr rawGroups =>
    cases rawGroups with
    | nil => simp
    | cons raw rest =>
      simp only [hloop, Json.arr.injEq, exists_eq_left']
      simp
  | null | bool _ | int _ | float _ | str _ | obj _ => simp

/-- One of the four resource groups: its canonical id, its builder id and its label. -/
structure KnownGroup (canonicalId builderId label : String) : Prop where
  canonicalId_stripped : Stripped canonicalId
  label_stripped : Stripped label
  export_eq : canonicalResourceGroupId builderId = canonicalId
  import_eq : ∀ selectAll, canonicalGroupForId canonicalId "" selectAll =
    .ok { resourceGroupId := builderId, endpoints := [], label := some label,
          selectAll := selectAll }

/-- The groups of the table are known. -/
theorem knownGroup_of_mem {entry : String × String × String × String}
    (h : entry ∈ canonicalResourceGroups) : KnownGroup entry.2.1 entry.2.2.1 entry.2.2.2 := by
  simp only [canonicalResourceGroups, List.mem_cons, List.not_mem_nil, or_false] at h
  rcases h with rfl | rfl | rfl | rfl
  all_goals
    refine ⟨⟨by decide +kernel, by decide⟩, ⟨by decide +kernel, by decide⟩, by decide +kernel, ?_⟩
    intro selectAll
    rfl

/-- Every accepted group id names one of the four groups. -/
theorem canonicalGroupForId_known {groupId location : String} {selectAll : Bool}
    {group : PlanResourceGroup} (h : canonicalGroupForId groupId location selectAll = .ok group) :
    ∃ canonicalId label, KnownGroup canonicalId group.resourceGroupId label ∧
      group.label = some label := by
  unfold canonicalGroupForId at h
  split at h
  · rename_i canonicalId builderId label hlookup
    obtain ⟨api, -, hentry⟩ := Option.bind_eq_some_iff.mp hlookup
    obtain ⟨_, _, heq, -⟩ := List.lookup_eq_some_iff.mp hentry
    have hmem : (api, canonicalId, builderId, label) ∈ canonicalResourceGroups := by
      rw [heq]
      simp
    rw [← Except.ok.inj h]
    exact ⟨canonicalId, label, knownGroup_of_mem hmem, rfl⟩
  · cases h

/-- A parsed resource group. -/
structure ParsedGroup (group : PlanResourceGroup) : Prop where
  known : ∃ canonicalId label, KnownGroup canonicalId group.resourceGroupId label
  label : ∃ label, group.label = some label ∧ Stripped label
  endpoints : ∀ endpoint ∈ group.endpoints,
    ParsedEndpoint endpoint ∧ endpoint.required = none ∧ endpoint.locked = none
  nodup : (group.endpoints.map endpointRef).Nodup
  selectAll : group.selectAll = group.endpoints.isEmpty

/-- A group object that is read is a group that parsing makes. -/
theorem ReadsGroupObject.parsed {raw : JsonObject} {group : PlanResourceGroup}
    (h : ReadsGroupObject raw group) : ParsedGroup group where
  known := by
    obtain ⟨_, _, _, -, -, hbase, -⟩ := h.id
    obtain ⟨canonicalId, label, hknown, -⟩ := canonicalGroupForId_known hbase
    exact ⟨canonicalId, label, hknown⟩
  label := by
    obtain ⟨_, _, _, -, -, hbase, ownLabel, hown, hlabel⟩ := h.id
    obtain ⟨canonicalId, label, hknown, rfl⟩ := canonicalGroupForId_known hbase
    rw [hlabel]
    cases ownLabel with
    | none => exact ⟨label, rfl, hknown.label_stripped⟩
    | some own => exact ⟨own, rfl, stripped_of_rel hown own rfl⟩
  endpoints := by
    obtain ⟨rawEndpoints, -, hendpoints⟩ := h.endpoints
    intro endpoint hendpoint
    obtain ⟨_, _, hreads⟩ := hendpoints.exists_of_mem_right hendpoint
    exact ⟨hreads.parsed, hreads.required, hreads.locked⟩
  nodup := h.nodup
  selectAll := h.selectAll

/-- So is a group that is read. -/
theorem ReadsGroup.parsed {raw : Json} {group : PlanResourceGroup} (h : ReadsGroup raw group) :
    ParsedGroup group := by
  cases h with
  | object hreads => exact hreads.parsed
  | shorthand hreads hgroup =>
    obtain ⟨canonicalId, label, hknown, hlabel⟩ := canonicalGroupForId_known hgroup
    rw [canonicalGroupForId_shape hgroup]
    exact ⟨⟨canonicalId, label, hknown⟩, ⟨label, hlabel, hknown.label_stripped⟩,
      by simp, by simp, rfl⟩

/-- Two resource groups select the same; their labels may differ. -/
def SameGroup (group group' : PlanResourceGroup) : Prop :=
  { group with label := none } = { group' with label := none }

/-- A parsed group whose paths have no white space at their ends is exported and read again
    with the same selection. -/
theorem ParsedGroup.readsGroup_export {group : PlanResourceGroup} (h : ParsedGroup group)
    (hpaths : ∀ endpoint ∈ group.endpoints, strip endpoint.path = endpoint.path) :
    ∃ group', ReadsGroup (canonicalResourceGroupForExport group) group' ∧ SameGroup group group' ∧
      canonicalResourceGroupForExport group' = canonicalResourceGroupForExport group := by
  obtain ⟨canonicalId, label, hknown⟩ := h.known
  obtain ⟨ownLabel, hlabel, hownLabel⟩ := h.label
  have hselectAll := h.selectAll
  cases hendpoints : group.endpoints with
  | nil =>
    -- the shorthand form: the label is that of the table
    rw [hendpoints, List.isEmpty_nil] at hselectAll
    refine ⟨{ group with label := some label }, ?_, rfl, ?_⟩
    · rw [canonicalResourceGroupForExport, hselectAll, if_pos rfl, hknown.export_eq]
      refine .shorthand hknown.canonicalId_stripped.readsText ?_
      rw [hknown.import_eq]
      simp [← hendpoints]
    · simp [canonicalResourceGroupForExport, hselectAll]
  | cons endpoint rest =>
    rw [hendpoints, List.isEmpty_cons] at hselectAll
    refine ⟨group, ?_, rfl, rfl⟩
    rw [canonicalResourceGroupForExport, hselectAll, if_neg (by simp), hknown.export_eq, hlabel]
    refine .object ⟨by simp, ?_, ?_, h.nodup, h.selectAll⟩
    · exact ⟨_, canonicalId, some label, rfl, hknown.canonicalId_stripped.readsText,
        hknown.import_eq false, some ownLabel, .some hownLabel.readsText, by simp [hlabel]⟩
    · refine ⟨group.endpoints.map groupEndpointForExport, .inr ?_, ?_⟩
      · rw [List.map_map]
        rfl
      · rw [List.forall₂_map_left_iff]
        refine List.forall₂_same.mpr fun endpoint hmem => ?_
        obtain ⟨hparsed, hrequired, hlocked⟩ := h.endpoints endpoint hmem
        exact readsEndpoint_export hparsed (hpaths endpoint hmem) hrequired hlocked

/-- If an exported group is read again with the same selection, its paths have no white
    space at their ends. -/
theorem ParsedGroup.strip_path {group group' : PlanResourceGroup} (h : ParsedGroup group)
    (hreads : ReadsGroup (canonicalResourceGroupForExport group) group')
    (hsame : SameGroup group group') :
    ∀ endpoint ∈ group.endpoints, strip endpoint.path = endpoint.path := by
  have hendpoints : group'.endpoints = group.endpoints := by
    unfold SameGroup at hsame
    injection hsame with _ hendpoints
    exact hendpoints.symm
  intro endpoint hmem
  have hselectAll : group.selectAll = false := by
    rw [h.selectAll, List.isEmpty_eq_false_iff]
    exact List.ne_nil_of_mem hmem
  rw [canonicalResourceGroupForExport, hselectAll, if_neg (by simp)] at hreads
  cases hreads with
  | shorthand htext _ =>
    obtain ⟨_, htext, -⟩ := htext
    cases htext
  | object hobject =>
    obtain ⟨rawEndpoints, hraw, hforall⟩ := hobject.endpoints
    obtain ⟨label, hlabel, -⟩ := h.label
    have hrawEndpoints : rawEndpoints = group.endpoints.map groupEndpointForExport := by
      rw [hlabel] at hraw
      rcases hraw with ⟨hnone, -⟩ | hsome
      · cases hnone
      · have harr : (group.endpoints.map groupEndpointForExport).map Json.obj =
            rawEndpoints.map Json.obj := by
          rw [List.map_map]
          exact Json.arr.inj (Option.some.inj hsome)
        exact (List.map_injective_iff.mpr (fun _ _ => Json.obj.inj) harr).symm
    rw [hrawEndpoints, hendpoints, List.forall₂_map_left_iff] at hforall
    have hpath := (List.forall₂_same.mp hforall endpoint hmem).path_export
    obtain ⟨hparsed, -, -⟩ := h.endpoints endpoint hmem
    exact (normalizePath_strip_iff hparsed.head hparsed.path).mp hpath.symm

/-! ## Direct endpoints -/

/-- A raw direct endpoint. -/
structure ReadsDirect (raw : JsonObject) (endpoint : PlanDocumentEndpoint) : Prop where
  keys : ∀ key ∈ raw.map Prod.fst, key ∈ ["method", "path", "operationId", "required", "locked"]
  ref : ReadsRef raw (endpointRef endpoint)
  flags : ∃ required locked, endpointPolicy.lookup (endpointRef endpoint) = some (required, locked) ∧
    getField raw "required" = .bool required ∧ getField raw "locked" = .bool locked ∧
    endpoint.required = some required ∧ endpoint.locked = some locked
  operationId : Option.Rel ReadsText (raw.lookup "operationId") endpoint.operationId
  capabilityIds : endpoint.capabilityIds = []

/-- A required boolean is the boolean of its field. -/
theorem requiredBoolean_eq_ok {raw : JsonObject} {key location : String} {value : Bool} :
    requiredBoolean raw key location = .ok value ↔ getField raw key = .bool value := by
  unfold requiredBoolean
  cases getField raw key <;> simp

/-- A direct endpoint is parsed when it is read and new. -/
theorem parseCanonicalDirectEndpoint_eq_ok {raw : JsonObject} {location : String}
    {seenRefs : List EndpointRef} {endpoint : PlanDocumentEndpoint} :
    parseCanonicalDirectEndpoint raw location seenRefs = .ok endpoint ↔
      ReadsDirect raw endpoint ∧ endpointRef endpoint ∉ seenRefs := by
  unfold parseCanonicalDirectEndpoint
  simp only [bind_eq_ok, rejectUnknownKeys_eq_ok, parseEndpointRef_eq_ok]
  constructor
  · rintro ⟨-, hkeys, ref, href, h⟩
    cases hpolicy : endpointPolicy.lookup ref with
    | none =>
      rw [hpolicy] at h
      cases h
    | some flags =>
      rw [hpolicy] at h
      simp only [bind_eq_ok, raiseIf_eq_ok, requiredBoolean_eq_ok, optionalString_eq_ok] at h
      obtain ⟨-, hfresh, required, hrequired, locked, hlocked, -, hflags, operationId,
        hoperationId, h⟩ := h
      obtain rfl := Except.ok.inj h
      rw [not_not] at hflags
      exact ⟨⟨hkeys, href, ⟨required, locked, hflags ▸ hpolicy, hrequired, hlocked, rfl, rfl⟩,
        hoperationId, rfl⟩, hfresh⟩
  · rintro ⟨hreads, hfresh⟩
    obtain ⟨required, locked, hpolicy, hrequired, hlocked, hrequired', hlocked'⟩ := hreads.flags
    refine ⟨(), hreads.keys, endpointRef endpoint, hreads.ref, ?_⟩
    rw [hpolicy]
    simp only [bind_eq_ok, raiseIf_eq_ok, requiredBoolean_eq_ok, optionalString_eq_ok]
    refine ⟨(), hfresh, required, hrequired, locked, hlocked, (), by simp, endpoint.operationId,
      hreads.operationId, ?_⟩
    refine congrArg Except.ok ?_
    obtain ⟨method, path, operationId, capabilityIds, _, _⟩ := endpoint
    obtain rfl : capabilityIds = [] := hreads.capabilityIds
    rw [← hrequired', ← hlocked']
    rfl

/-- Direct endpoints are parsed when each is read, they are distinct and one registers. -/
theorem parseCanonicalDirectEndpoints_eq_ok {rawPlan : JsonObject}
    {endpoints : List PlanDocumentEndpoint} :
    parseCanonicalDirectEndpoints rawPlan = .ok endpoints ↔
      ∃ rawEndpoints, rawPlan.lookup "endpoints" = some (.arr (rawEndpoints.map Json.obj)) ∧
        List.Forall₂ ReadsDirect rawEndpoints endpoints ∧ (endpoints.map endpointRef).Nodup ∧
        ⟨.post, "/register"⟩ ∈ endpoints.map endpointRef := by
  have hloop : ∀ rawEndpoints : List JsonObject,
      rawEndpoints.zipIdx.foldlM addCanonicalDirectEndpoint [] = .ok endpoints ↔
        List.Forall₂ ReadsDirect rawEndpoints endpoints ∧ (endpoints.map endpointRef).Nodup := by
    intro rawEndpoints
    rw [List.foldlM_snoc_eq_ok (P := fun entry endpoint => ReadsDirect entry.1 endpoint) endpointRef,
      List.forall₂_zipIdx_left_iff]
    rintro ⟨raw, index⟩ - pre res
    unfold addCanonicalDirectEndpoint
    simp only [bind_eq_ok, parseCanonicalDirectEndpoint_eq_ok]
    constructor
    · rintro ⟨endpoint, ⟨hreads, hfresh⟩, h⟩
      exact ⟨endpoint, hreads, hfresh, (Except.ok.inj h).symm⟩
    · rintro ⟨endpoint, hreads, hfresh, rfl⟩
      exact ⟨endpoint, ⟨hreads, hfresh⟩, rfl⟩
  unfold parseCanonicalDirectEndpoints
  simp only [bind_eq_ok, requiredObjectArray_eq_ok, raiseIf_eq_ok, not_not]
  constructor
  · rintro ⟨rawEndpoints, hlookup, parsed, hparsed, -, hregister, h⟩
    obtain rfl := Except.ok.inj h
    obtain ⟨hforall, hnodup⟩ := (hloop rawEndpoints).mp hparsed
    exact ⟨rawEndpoints, hlookup, hforall, hnodup, hregister⟩
  · rintro ⟨rawEndpoints, hlookup, hforall, hnodup, hregister⟩
    exact ⟨rawEndpoints, hlookup, endpoints, (hloop rawEndpoints).mpr ⟨hforall, hnodup⟩, (),
      hregister, rfl⟩

/-- A direct endpoint is exported and read again as itself. -/
theorem ReadsDirect.export {raw : JsonObject} {endpoint : PlanDocumentEndpoint}
    (h : ReadsDirect raw endpoint) :
    ReadsDirect (canonicalDirectEndpointForExport endpoint) endpoint := by
  obtain ⟨required, locked, hpolicy, -, -, hrequired, hlocked⟩ := h.flags
  have hpath : strip endpoint.path = endpoint.path := by
    obtain ⟨_, _, heq, -⟩ := List.lookup_eq_some_iff.mp hpolicy
    have hmem : (endpointRef endpoint, required, locked) ∈ endpointPolicy := by
      rw [heq]
      simp
    have hall : ∀ entry ∈ endpointPolicy, strip entry.1.path = entry.1.path := by decide +kernel
    exact hall (endpointRef endpoint, required, locked) hmem
  have hlookup : ∀ key, (canonicalDirectEndpointForExport endpoint).lookup key =
      ([("method", Json.str endpoint.method.text), ("path", .str endpoint.path),
        ("required", .bool required), ("locked", .bool locked)].lookup key).or
        ((operationIdField endpoint).lookup key) := by
    intro key
    rw [canonicalDirectEndpointForExport, List.lookup_append, hrequired, hlocked]
    simp
  refine ⟨?_, ?_, ⟨required, locked, hpolicy, ?_, ?_, hrequired, hlocked⟩, ?_, h.capabilityIds⟩
  · unfold canonicalDirectEndpointForExport operationIdField
    cases endpoint.operationId <;> simp
  · refine ⟨_, endpoint.method.text, _, endpoint.path, rfl, ?_, parseHttpMethod_text endpoint.method,
      rfl, ?_, h.ref.path.1, h.ref.path.2.symm⟩
    · refine readsText_self ?_ ?_ <;> cases endpoint.method <;> decide +kernel
    · refine readsText_self hpath ?_
      intro hempty
      have hhead := h.ref.path.1
      simp only [endpointRef, hempty] at hhead
      cases hhead
  · rw [getField, hlookup]
    rfl
  · rw [getField, hlookup]
    rfl
  · rw [hlookup, lookup_operationIdField]
    exact rel_operationId (stripped_of_rel h.operationId)

end Conformance.PlanJson
