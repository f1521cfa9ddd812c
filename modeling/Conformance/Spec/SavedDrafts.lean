import Conformance.Native.BuilderDrafts
import Conformance.Spec.JsonTextRoundTrip

/-!
# Saved drafts

The session holds a list of drafts with distinct ids, at most five, each of which is read back as
it was written (`Holds`). Saving puts one more draft at the end and keeps the newest five, earlier
ones first where timestamps are equal: the draft that was just saved is lost when five others of
the same timestamp are kept.

## Key results

- `Storable.fromSessionObject_toSessionObject`, `Storable.throughText`: the round trips of a draft
- `storable_of_reachable`: every draft of the wizard makes them
- `Holds.save`: what `save` does to the drafts that are held
- `savedDrafts_iff`: over every run, a saved draft is kept when there is a place for it
-/

namespace Conformance

namespace BuilderDraft

/-- The drafts that the steps of the wizard make. -/
inductive Reachable : BuilderDraft → Prop where
  | create (draftId timestamp : String) : Reachable (create draftId timestamp)
  | withCatalogueBoundary {draft draft' : BuilderDraft} (h : Reachable draft)
      {scheme specification version timestamp : String}
      (hboundary : draft.withCatalogueBoundary scheme specification version timestamp =
        .ok draft') : Reachable draft'
  | withScopeSelection {draft : BuilderDraft} (h : Reachable draft)
      (resourceGroupIds endpointIds : List String)
      (endpointCapabilityIds : Dict String (List String)) (timestamp : String) :
      Reachable (draft.withScopeSelection resourceGroupIds endpointIds endpointCapabilityIds
        timestamp)
  | withConfig {draft : BuilderDraft} (h : Reachable draft) {config : JsonObject}
      (hconfig : Json.Decoded (.obj config)) (timestamp : String) :
      Reachable (draft.withConfig config timestamp)
  | withPlanContext {draft : BuilderDraft} (h : Reachable draft)
      {securityEnvironment businessTestData metadata : JsonObject}
      (hsecurity : Json.Decoded (.obj securityEnvironment))
      (hbusiness : Json.Decoded (.obj businessTestData))
      (hmetadata : Json.Decoded (.obj metadata)) (executionMode : PlanExecutionMode)
      {dynamicClientRegistration : Option JsonObject}
      (hregistration : ∀ registration, dynamicClientRegistration = some registration →
        Json.Decoded (.obj registration)) (timestamp : String) :
      Reachable (draft.withPlanContext securityEnvironment businessTestData metadata executionMode
        dynamicClientRegistration timestamp)
  | withDiscoveryMetadata {draft : BuilderDraft} (h : Reachable draft)
      {discoveryMetadata : JsonObject} (hmetadata : Json.Decoded (.obj discoveryMetadata))
      (timestamp : String) : Reachable (draft.withDiscoveryMetadata discoveryMetadata timestamp)

/-- A draft that a session can hold: no empty text where one may be missing, no obsolete key in
    its configuration, and objects without repeated keys. -/
structure Storable (draft : BuilderDraft) : Prop where
  scheme : draft.scheme ≠ some ""
  specification : draft.specification ≠ some ""
  version : draft.version ≠ some ""
  noEnvironment : ∀ field ∈ draft.config, field.1 ≠ "environment"
  config : Json.Decoded (.obj draft.config)
  securityEnvironment : Json.Decoded (.obj draft.securityEnvironment)
  businessTestData : Json.Decoded (.obj draft.businessTestData)
  dynamicClientRegistration : Json.Decoded (.obj draft.dynamicClientRegistration)
  metadata : Json.Decoded (.obj draft.metadata)
  discoveryMetadata : Json.Decoded (.obj draft.discoveryMetadata)

/-! ## Fields -/

/-- An optional text that is not empty is read back. -/
theorem optionalString_optionalJson {text : Option String} (h : text ≠ some "") :
    optionalString (optionalJson text) = text := by
  cases text with
  | none => rfl
  | some text => rw [optionalJson, optionalString, if_neg fun hempty => h (by rw [hempty])]

/-- A list of texts is read back. -/
theorem stringTuple_stringsJson (items : List String) : stringTuple (stringsJson items) = items := by
  have hitems : stringItems (items.map Json.str) = some items := by
    induction items with
    | nil => rfl
    | cons item rest ih => rw [List.map_cons, stringItems, ih, Option.map_some]
  rw [stringsJson, stringTuple, hitems, Option.getD_some]

theorem profileOf_text (profile : SecurityProfile) :
    profileOf (.str profile.text) = some profile := by
  cases profile <;> decide

theorem executionModeOf_text (mode : PlanExecutionMode) :
    executionModeOf (.str (executionModeText mode)) = mode := by
  cases mode <;> decide

theorem configObject_eq_self {config : JsonObject}
    (h : ∀ field ∈ config, field.1 ≠ "environment") : configObject (.obj config) = config :=
  List.filter_eq_self.mpr fun field hfield => decide_eq_true (h field hfield)

/-- An entry of a mapping of texts is read back. -/
theorem addStringTuple_stringsJson (decoded : Dict String (List String)) (key : String)
    (items : List String) :
    addStringTuple decoded (key, stringsJson items) = some (decoded.set key items) := by
  rw [addStringTuple, stringTuple_stringsJson]
  -- a list that reads as no strings and is not empty was no list of strings
  refine if_neg ?_
  rintro ⟨-, rfl, hne⟩
  cases hne

/-- A mapping of texts is read back. -/
theorem stringTupleMapping_entries (mapping : Dict String (List String)) :
    stringTupleMapping (.obj (mapping.entries.map fun entry => (entry.1, stringsJson entry.2))) =
      mapping := by
  have hfold (entries : List (String × List String)) (decoded : Dict String (List String)) :
      (entries.map fun entry => (entry.1, stringsJson entry.2)).foldlM addStringTuple decoded =
        some (entries.foldl (fun decoded entry => decoded.set entry.1 entry.2) decoded) := by
    induction entries generalizing decoded with
    | nil => rfl
    | cons entry rest ih =>
      rw [List.map_cons, List.foldlM_cons, addStringTuple_stringsJson, Option.bind_eq_bind,
        Option.bind_some, ih, List.foldl_cons]
  rw [stringTupleMapping, hfold, Option.getD_some]
  exact Dict.foldl_set_self mapping

/-! ## Round trips -/

/-- A draft is read back as it was written. -/
theorem Storable.fromSessionObject_toSessionObject {draft : BuilderDraft} (h : Storable draft) :
    fromSessionObject (.obj draft.toSessionObject) = some draft := by
  have hfield (key : String) (value : Json) (hvalue : draft.toSessionObject.lookup key =
      some value) : rawField draft.toSessionObject key = value := by
    rw [rawField, hvalue, Option.getD_some]
  simp only [fromSessionObject, hfield "draftId" _ rfl, hfield "securityProfile" _ rfl,
    hfield "createdAt" _ rfl, hfield "updatedAt" _ rfl, hfield "scheme" _ rfl,
    hfield "specification" _ rfl, hfield "version" _ rfl, hfield "resourceGroupIds" _ rfl,
    hfield "endpointIds" _ rfl, hfield "endpointCapabilityIds" _ rfl, hfield "config" _ rfl,
    hfield "securityEnvironment" _ rfl, hfield "businessTestData" _ rfl,
    hfield "dynamicClientRegistration" _ rfl, hfield "metadata" _ rfl,
    hfield "executionMode" _ rfl, hfield "discoveryMetadata" _ rfl, profileOf_text,
    executionModeOf_text, stringTuple_stringsJson, stringTupleMapping_entries,
    optionalString_optionalJson h.scheme, optionalString_optionalJson h.specification,
    optionalString_optionalJson h.version, configObject_eq_self h.noEnvironment]
  rfl

/-- A list of texts is decoded JSON. -/
theorem decoded_strings (items : List String) : Json.Decoded (stringsJson items) :=
  .arr fun item hitem => by
    obtain ⟨text, -, rfl⟩ := List.mem_map.mp hitem
    exact .str text

/-- An optional text is decoded JSON. -/
theorem decoded_optionalJson (text : Option String) : Json.Decoded (optionalJson text) := by
  cases text with
  | none => exact .null
  | some text => exact .str text

/-- The session object of a draft is decoded JSON. -/
theorem Storable.decoded {draft : BuilderDraft} (h : Storable draft) :
    Json.Decoded (.obj draft.toSessionObject) := by
  have hcapabilities : Json.Decoded (.obj (draft.endpointCapabilityIds.entries.map fun entry =>
      (entry.1, stringsJson entry.2))) := by
    refine .obj ?_ fun field hfield => ?_
    · rw [List.map_map]
      exact draft.endpointCapabilityIds.nodup
    · obtain ⟨entry, -, rfl⟩ := List.mem_map.mp hfield
      exact decoded_strings entry.2
  have hconfig : Json.Decoded (.obj (configObject (.obj draft.config))) := by
    rw [configObject_eq_self h.noEnvironment]
    exact h.config
  refine .obj (by simp [toSessionObject]) ?_
  simp only [toSessionObject, List.forall_mem_cons, List.not_mem_nil, false_imp_iff, implies_true,
    and_true]
  exact ⟨.str _, decoded_optionalJson _, decoded_optionalJson _, decoded_optionalJson _, .str _,
    decoded_strings _, decoded_strings _, hcapabilities, hconfig, h.securityEnvironment,
    h.businessTestData, h.dynamicClientRegistration, h.metadata, .str _, h.discoveryMetadata,
    .str _, .str _⟩

/-- A draft whose session object is written as JSON text is read back from it. -/
theorem Storable.throughText {floats : FloatText} {draft : BuilderDraft} (h : Storable draft)
    {text : List Char} (hfloats : Json.FloatsRead floats (.obj draft.toSessionObject))
    (htext : jsonDumps floats (.obj draft.toSessionObject) = .ok text) :
    ∃ value : Json, jsonLoads floats (String.ofList text) = some value.toPy ∧
      fromSessionObject value = some draft :=
  ⟨_, jsonLoads_jsonDumps h.decoded hfloats htext, h.fromSessionObject_toSessionObject⟩

/-! ## The drafts of the wizard -/

/-- A supported boundary is named by texts that are not empty. -/
theorem ne_empty_of_boundary {scheme specification version : String} {profile : SecurityProfile}
    (h : derivedSecurityProfileForBoundary scheme specification version = .ok profile) :
    scheme ≠ "" ∧ specification ≠ "" ∧ version ≠ "" := by
  have hbinding : ∃ binding, specificationBindingForPlanBoundary scheme specification version =
      .ok binding := by
    unfold derivedSecurityProfileForBoundary at h
    cases hresult : specificationBindingForPlanBoundary scheme specification version with
    | ok binding => exact ⟨binding, rfl⟩
    | error error => rw [hresult] at h; cases error <;> cases h
  obtain ⟨binding, hbinding⟩ := hbinding
  unfold specificationBindingForPlanBoundary at hbinding
  cases hfind : supportedSpecifications.find? fun definition =>
      definition.scheme = scheme ∧ definition.specification = specification with
  | none => rw [hfind] at hbinding; cases hbinding
  | some definition =>
    rw [hfind] at hbinding
    have hfound := List.find?_some hfind
    obtain ⟨hscheme, hspecification⟩ := of_decide_eq_true hfound
    have hdefinition : ∀ definition ∈ supportedSpecifications, definition.scheme ≠ "" ∧
        definition.specification ≠ "" ∧ ∀ item ∈ definition.versions, item.version ≠ "" := by
      decide
    obtain ⟨hs, hsp, hversions⟩ := hdefinition definition (List.mem_of_find?_eq_some hfind)
    refine ⟨hscheme ▸ hs, hspecification ▸ hsp, ?_⟩
    cases hitem : definition.versions.find? fun item => item.version = version with
    | none => simp only [hitem] at hbinding; cases hbinding
    | some item =>
      have hfound := List.find?_some hitem
      have hversion : item.version = version := of_decide_eq_true hfound
      exact hversion ▸ hversions item (List.mem_of_find?_eq_some hitem)

theorem decoded_nil : Json.Decoded (.obj []) := .obj List.nodup_nil (by simp)

/-- The configuration of a draft is decoded JSON. -/
theorem decoded_configObject {config : JsonObject} (h : Json.Decoded (.obj config)) :
    Json.Decoded (.obj (configObject (.obj config))) :=
  .obj (h.nodup.sublist (List.filter_sublist.map _)) fun _ hfield =>
    h.of_mem (List.mem_of_mem_filter hfield)

/-- Every draft of the wizard can be held by a session. -/
theorem storable_of_reachable {draft : BuilderDraft} (h : Reachable draft) : Storable draft := by
  induction h with
  | create draftId timestamp =>
    exact ⟨by simp [create], by simp [create], by simp [create], by simp [create], decoded_nil,
      decoded_nil, decoded_nil, decoded_nil, decoded_nil, decoded_nil⟩
  | withCatalogueBoundary _ hboundary ih =>
    obtain ⟨profile, hprofile, hdraft⟩ := Except.bind_eq_ok.mp hboundary
    cases hdraft
    obtain ⟨hscheme, hspecification, hversion⟩ := ne_empty_of_boundary hprofile
    exact { ih with
      scheme := fun h => hscheme (Option.some.inj h)
      specification := fun h => hspecification (Option.some.inj h)
      version := fun h => hversion (Option.some.inj h) }
  | withScopeSelection _ _ _ _ _ ih => exact { ih with }
  | withConfig _ hconfig _ ih =>
    exact { ih with
      noEnvironment := fun field hfield => of_decide_eq_true (List.mem_filter.mp hfield).2
      config := decoded_configObject hconfig }
  | @withPlanContext draft _ _ _ _ hsecurity hbusiness hmetadata mode registration hregistration
      timestamp ih =>
    have hkept : Json.Decoded (.obj (draft.withPlanContext [] [] [] mode registration
        timestamp).dynamicClientRegistration) := by
      cases registration with
      | none => exact ih.dynamicClientRegistration
      | some registration => exact hregistration registration rfl
    exact { ih with
      securityEnvironment := hsecurity
      businessTestData := hbusiness
      metadata := hmetadata
      dynamicClientRegistration := hkept }
  | withDiscoveryMetadata _ hmetadata _ ih => exact { ih with discoveryMetadata := hmetadata }

end BuilderDraft

namespace SessionBuilderDraftStore

open BuilderDraft

/-! ## What a session holds -/

/-- The session holds exactly the drafts, in this order. -/
structure Holds (session : Option Json) (held : List BuilderDraft) : Prop where
  nodup : (held.map BuilderDraft.draftId).Nodup
  storable : ∀ draft ∈ held, Storable draft
  length_le : held.length ≤ MAX_SESSION_DRAFTS
  drafts : (SessionBuilderDraftStore.drafts session).entries =
    held.map fun draft => (draft.draftId, draft)

theorem holds_none : Holds none [] := ⟨List.nodup_nil, by simp, by decide, rfl⟩

/-- What was stored is read back. -/
theorem holds_sessionState {held : List BuilderDraft} (hnodup : (held.map draftId).Nodup)
    (hstorable : ∀ draft ∈ held, Storable draft) (hlength : held.length ≤ MAX_SESSION_DRAFTS) :
    Holds (some (sessionState held)) held := by
  refine ⟨hnodup, hstorable, hlength, ?_⟩
  have hfold (rest : List BuilderDraft) (hrest : ∀ draft ∈ rest, Storable draft)
      (read : Dict String BuilderDraft) :
      (rest.map fun candidate => (candidate.draftId, Json.obj candidate.toSessionObject)).foldl
        addDraft read = rest.foldl (fun read draft => read.set draft.draftId draft) read := by
    induction rest generalizing read with
    | nil => rfl
    | cons draft rest ih =>
      obtain ⟨hdraft, hrest⟩ := List.forall_mem_cons.mp hrest
      have hadd : addDraft read (draft.draftId, .obj draft.toSessionObject) =
          read.set draft.draftId draft := by
        simp only [addDraft, hdraft.fromSessionObject_toSessionObject, if_true]
      rw [List.map_cons, List.foldl_cons, hadd, ih hrest, List.foldl_cons]
  change ((held.map fun candidate =>
    (candidate.draftId, Json.obj candidate.toSessionObject)).foldl addDraft Dict.empty).entries = _
  rw [hfold held hstorable]
  exact Dict.entries_foldl_set hnodup

/-- A draft is got when the session holds it. -/
theorem Holds.get {session : Option Json} {held : List BuilderDraft} (h : Holds session held)
    {id : String} {draft : BuilderDraft} :
    get session id = some draft ↔ draft ∈ held ∧ draft.draftId = id := by
  rw [SessionBuilderDraftStore.get, ← Dict.mem_entries_iff, h.drafts, List.mem_map]
  constructor
  · rintro ⟨other, hmem, heq⟩
    obtain ⟨rfl, rfl⟩ := Prod.mk.inj heq
    exact ⟨hmem, rfl⟩
  · rintro ⟨hmem, rfl⟩
    exact ⟨draft, hmem, rfl⟩

/-- Drafts that are held are told apart by their ids. -/
theorem Holds.eq_of_id {session : Option Json} {held : List BuilderDraft} (h : Holds session held)
    {draft other : BuilderDraft} (hdraft : draft ∈ held) (hother : other ∈ held)
    (hid : draft.draftId = other.draftId) : draft = other :=
  List.inj_on_of_nodup_map h.nodup hdraft hother hid

/-- The drafts before the cut: the new one replaces the one of its id, or comes last. -/
def withDraft (session : Option Json) (draft : BuilderDraft) : List BuilderDraft :=
  ((SessionBuilderDraftStore.drafts session).set draft.draftId draft).values

/-- The drafts that are held after a save. -/
def heldAfter (session : Option Json) (draft : BuilderDraft) : List BuilderDraft :=
  (withDraft session draft).newest BuilderDraft.updatedAt MAX_SESSION_DRAFTS

/-- The drafts with one more are that one and those with other ids. -/
theorem Holds.mem_withDraft {session : Option Json} {held : List BuilderDraft}
    (h : Holds session held) {draft other : BuilderDraft} :
    other ∈ withDraft session draft ↔
      other = draft ∨ (other ∈ held ∧ other.draftId ≠ draft.draftId) := by
  rw [withDraft, Dict.mem_values_iff]
  simp only [Dict.get?_set]
  constructor
  · rintro ⟨id, hid⟩
    split at hid
    · exact .inl (Option.some.inj hid).symm
    · rename_i hne
      obtain ⟨hmem, rfl⟩ := h.get.mp hid
      exact .inr ⟨hmem, hne⟩
  · rintro (rfl | ⟨hmem, hne⟩)
    · exact ⟨other.draftId, by rw [if_pos rfl]⟩
    · exact ⟨other.draftId, by rw [if_neg hne]; exact h.get.mpr ⟨hmem, rfl⟩⟩

/-- Their ids are distinct. -/
theorem Holds.nodup_withDraft {session : Option Json} {held : List BuilderDraft}
    (h : Holds session held) (draft : BuilderDraft) :
    ((withDraft session draft).map draftId).Nodup := by
  have hids : (withDraft session draft).map draftId =
      ((SessionBuilderDraftStore.drafts session).set draft.draftId draft).keys := by
    rw [withDraft, Dict.values, List.map_map, Dict.keys]
    refine List.map_congr_left fun entry hentry => ?_
    have hget := Dict.mem_entries_iff.mp hentry
    rw [Dict.get?_set] at hget
    split at hget
    · rename_i hid
      rw [Function.comp_apply, ← Option.some.inj hget, hid]
    · exact (h.get.mp hget).2
  rw [hids]
  exact Dict.keys_nodup _

/-- There is room for one draft more, and no more are needed for one that is saved over. -/
theorem Holds.length_withDraft {session : Option Json} {held : List BuilderDraft}
    (h : Holds session held) (draft : BuilderDraft) :
    (withDraft session draft).length ≤ held.length + 1 ∧
      (draft.draftId ∈ held.map draftId → (withDraft session draft).length ≤ held.length) := by
  have hnodup := h.nodup_withDraft draft
  have hlength (ids : List String) (hids : ∀ other ∈ withDraft session draft,
      other.draftId ∈ ids) : (withDraft session draft).length ≤ ids.length := by
    have hsubset : (withDraft session draft).map draftId ⊆ ids := fun id hid => by
      obtain ⟨other, hother, rfl⟩ := List.mem_map.mp hid
      exact hids other hother
    have hle := (List.subperm_of_subset hnodup hsubset).length_le
    rwa [List.length_map] at hle
  constructor
  · have hle := hlength (draft.draftId :: held.map draftId) fun other hother => by
      rcases h.mem_withDraft.mp hother with rfl | ⟨hmem, -⟩
      · exact List.mem_cons_self
      · exact List.mem_cons_of_mem _ (List.mem_map_of_mem hmem)
    rwa [List.length_cons, List.length_map] at hle
  · intro hsaved
    have hle := hlength (held.map draftId) fun other hother => by
      rcases h.mem_withDraft.mp hother with rfl | ⟨hmem, -⟩
      · exact hsaved
      · exact List.mem_map_of_mem hmem
    rwa [List.length_map] at hle

/-- What a session holds after a save. -/
theorem Holds.save {session : Option Json} {held : List BuilderDraft} (h : Holds session held)
    {draft : BuilderDraft} (hdraft : Storable draft) :
    Holds (SessionBuilderDraftStore.save session draft) (heldAfter session draft) := by
  refine holds_sessionState (List.nodup_map_newest (h.nodup_withDraft draft)) ?_
    List.length_newest_le
  intro other hother
  rcases h.mem_withDraft.mp (List.mem_of_mem_newest hother) with rfl | ⟨hmem, -⟩
  · exact hdraft
  · exact h.storable other hmem

/-! ## One save -/

/-- A saved draft is read back, at most five are kept, and one that was kept and is not any more
    has a least timestamp among those there were to keep. -/
structure SaveKeeps (session : Option Json) (draft : BuilderDraft) : Prop where
  readBack : get (save session draft) draft.draftId = some draft
  atMostFive : (drafts (save session draft)).size ≤ 5
  others : ∀ other ∈ (SessionBuilderDraftStore.drafts session).values,
    other.draftId ≠ draft.draftId →
    get (save session draft) other.draftId = some other ∨
      get (save session draft) other.draftId = none ∧
        ∀ candidate ∈ withDraft session draft, other.updatedAt ≤ candidate.updatedAt

/-- There is a place for the draft: it is saved over, fewer than five are kept, or an older one
    is. -/
def Fits (session : Option Json) (draft : BuilderDraft) : Prop :=
  draft.draftId ∈ (SessionBuilderDraftStore.drafts session).keys ∨
    (SessionBuilderDraftStore.drafts session).size < 5 ∨
    ∃ other ∈ (SessionBuilderDraftStore.drafts session).values, other.updatedAt < draft.updatedAt

/-- The drafts that are read are those that the session holds. -/
theorem Holds.values {session : Option Json} {held : List BuilderDraft} (h : Holds session held) :
    (SessionBuilderDraftStore.drafts session).values = held := by
  rw [Dict.values, h.drafts, List.map_map]
  exact List.map_id held

/-- They are read under their ids. -/
theorem Holds.keys {session : Option Json} {held : List BuilderDraft} (h : Holds session held) :
    (SessionBuilderDraftStore.drafts session).keys = held.map draftId := by
  rw [Dict.keys, h.drafts, List.map_map]
  rfl

theorem Holds.size {session : Option Json} {held : List BuilderDraft} (h : Holds session held) :
    (SessionBuilderDraftStore.drafts session).size = held.length := by
  rw [Dict.size, h.drafts, List.length_map]

/-- A draft with a place is among those that are held after it was saved. -/
theorem Holds.mem_heldAfter {session : Option Json} {held : List BuilderDraft}
    (h : Holds session held) {draft : BuilderDraft} (hfits : Fits session draft) :
    draft ∈ heldAfter session draft := by
  have hdraft : draft ∈ withDraft session draft := h.mem_withDraft.mpr (.inl rfl)
  obtain ⟨hlength, hsaved⟩ := h.length_withDraft draft
  have hheld : held.length ≤ 5 := h.length_le
  rcases hfits with hid | hroom | ⟨other, hother, hlt⟩
  · rw [h.keys] at hid
    exact List.mem_newest_of_length_le ((hsaved hid).trans hheld) hdraft
  · rw [h.size] at hroom
    exact List.mem_newest_of_length_le (hlength.trans hroom) hdraft
  · rw [h.values] at hother
    by_cases hsame : other.draftId = draft.draftId
    · have hid : draft.draftId ∈ held.map draftId := hsame ▸ List.mem_map_of_mem hother
      exact List.mem_newest_of_length_le ((hsaved hid).trans hheld) hdraft
    · exact List.mem_newest_of_lt (hlength.trans (Nat.succ_le_succ hheld)) hdraft
        (h.mem_withDraft.mpr (.inr ⟨hother, hsame⟩)) hlt

/-- Without a place, five others of the same timestamp stand before the draft. -/
theorem Holds.notMem_heldAfter {session : Option Json} {held : List BuilderDraft}
    (h : Holds session held) {draft : BuilderDraft}
    (hnewest : ∀ other ∈ held, other.updatedAt ≤ draft.updatedAt) (hfits : ¬Fits session draft) :
    draft ∉ heldAfter session draft := by
  rw [Fits, h.keys, h.size, h.values] at hfits
  push Not at hfits
  obtain ⟨hid, hfull, hold⟩ := hfits
  have hlast : withDraft session draft = held ++ [draft] := by
    have hkey : draft.draftId ∉ (SessionBuilderDraftStore.drafts session).keys := by rwa [h.keys]
    rw [withDraft, Dict.values, Dict.entries_set_of_notMem _ hkey, h.drafts, List.map_append,
      List.map_map]
    exact congrArg (· ++ [draft]) (List.map_id held)
  have hequal : ∀ other ∈ held, other.updatedAt = draft.updatedAt := fun other hother =>
    le_antisymm (hnewest other hother) (hold other hother)
  have hsorted : (held ++ [draft]).Pairwise fun a b => b.updatedAt ≤ a.updatedAt := by
    refine List.pairwise_iff_forall_sublist.mpr fun {a b} hsublist => ?_
    have htime : ∀ other ∈ held ++ [draft], other.updatedAt = draft.updatedAt := fun other hother =>
      (List.mem_append.mp hother).elim (hequal other) fun hother => by
        rw [List.mem_singleton.mp hother]
    rw [htime a (hsublist.subset (by simp)), htime b (hsublist.subset (by simp))]
  have hlength : held.length = MAX_SESSION_DRAFTS := le_antisymm h.length_le hfull
  rw [heldAfter, hlast, List.newest_of_pairwise hsorted, List.take_left' hlength]
  exact fun hmem => hid (List.mem_map_of_mem hmem)

/-- A draft that is as new as the others is kept, and the others as they should be, when there is
    a place for it. -/
theorem Holds.saveKeeps_iff {session : Option Json} {held : List BuilderDraft}
    (h : Holds session held) {draft : BuilderDraft} (hdraft : Storable draft)
    (hnewest : ∀ other ∈ held, other.updatedAt ≤ draft.updatedAt) :
    SaveKeeps session draft ↔ Fits session draft := by
  have hafter := h.save hdraft
  constructor
  · intro hkeeps
    by_contra hfits
    exact h.notMem_heldAfter hnewest hfits (hafter.get.mp hkeeps.readBack).1
  · intro hfits
    refine ⟨hafter.get.mpr ⟨h.mem_heldAfter hfits, rfl⟩, ?_, fun other hother hne => ?_⟩
    · rw [hafter.size]
      exact hafter.length_le
    · rw [h.values] at hother
      have hcandidate : other ∈ withDraft session draft := h.mem_withDraft.mpr (.inr ⟨hother, hne⟩)
      by_cases hkept : other ∈ heldAfter session draft
      · exact .inl (hafter.get.mpr ⟨hkept, rfl⟩)
      · refine .inr ⟨?_, fun candidate hmem => List.le_of_notMem_newest
          ((h.length_withDraft draft).1.trans (Nat.succ_le_succ h.length_le)) hcandidate hkept
          hmem⟩
        refine Option.eq_none_iff_forall_ne_some.mpr fun found hfound => ?_
        obtain ⟨hmem, hid⟩ := hafter.get.mp hfound
        rcases h.mem_withDraft.mp (List.mem_of_mem_newest hmem) with rfl | ⟨hheld, -⟩
        · exact hne hid.symm
        · exact hkept (h.eq_of_id hheld hother hid ▸ hmem)

/-! ## Runs -/

/-- The calls of a store. -/
inductive Call where
  | create (draftId timestamp : String)
  | save (draft : BuilderDraft)
  | get (draftId : String)

/-- The draft that a call saves. -/
def Call.saved : Call → Option BuilderDraft
  | .create draftId timestamp => some (BuilderDraft.create draftId timestamp)
  | .save draft => some draft
  | .get _ => none

/-- The session after a call. -/
def step (session : Option Json) : Call → Option Json
  | .create draftId timestamp => (create session draftId timestamp).1
  | .save draft => SessionBuilderDraftStore.save session draft
  | .get _ => session

/-- The session after calls, from one without drafts. -/
def run (calls : List Call) : Option Json := calls.foldl step none

/-- The drafts that are saved are the wizard's, and their timestamps do not decrease. -/
structure Timely (calls : List Call) : Prop where
  reachable : ∀ draft ∈ calls.filterMap Call.saved, Reachable draft
  ordered : (calls.filterMap Call.saved).Pairwise fun earlier later =>
    earlier.updatedAt ≤ later.updatedAt

/-- A call saves its draft, if it has one. -/
theorem step_eq (session : Option Json) (call : Call) :
    step session call = match call.saved with
      | some draft => SessionBuilderDraftStore.save session draft
      | none => session := by
  cases call <;> rfl

/-- After a run the session holds drafts that were saved. -/
theorem exists_holds_run {calls : List Call}
    (hreachable : ∀ draft ∈ calls.filterMap Call.saved, Reachable draft) :
    ∃ held, Holds (run calls) held ∧ ∀ draft ∈ held, draft ∈ calls.filterMap Call.saved := by
  induction calls using List.reverseRecOn with
  | nil => exact ⟨[], holds_none, by simp⟩
  | append_singleton calls call ih =>
    rw [List.filterMap_append] at hreachable ⊢
    obtain ⟨held, hholds, hheld⟩ := ih fun draft hdraft =>
      hreachable draft (List.mem_append_left _ hdraft)
    rw [run, List.foldl_append, List.foldl_cons, List.foldl_nil, step_eq]
    cases hsaved : call.saved with
    | none =>
      exact ⟨held, hholds, fun draft hdraft => List.mem_append_left _ (hheld draft hdraft)⟩
    | some saved =>
      have hmem : saved ∈ [call].filterMap Call.saved := by simp [hsaved]
      refine ⟨_, hholds.save (storable_of_reachable (hreachable saved
        (List.mem_append_right _ hmem))), fun draft hdraft => ?_⟩
      rcases hholds.mem_withDraft.mp (List.mem_of_mem_newest hdraft) with rfl | ⟨hdraft, -⟩
      · exact List.mem_append_right _ hmem
      · exact List.mem_append_left _ (hheld draft hdraft)

/-- Every draft that a run saves satisfies `P` in the session it is saved to. -/
def EachSave (P : Option Json → BuilderDraft → Prop) (calls : List Call) : Prop :=
  ∀ before call after draft, calls = before ++ call :: after → call.saved = some draft →
    P (run before) draft

/-- In a run whose timestamps do not decrease every save keeps the draft exactly when there is a
    place for each; and a draft of the wizard is read back from its session object, also through
    JSON text. -/
theorem savedDrafts_iff (calls : List Call) (hcalls : Timely calls) :
    (EachSave SaveKeeps calls ↔ EachSave Fits calls) ∧
      ∀ draft, Reachable draft →
        fromSessionObject (.obj draft.toSessionObject) = some draft ∧
          ∀ floats text, Json.FloatsRead floats (.obj draft.toSessionObject) →
            jsonDumps floats (.obj draft.toSessionObject) = .ok text →
            ∃ value : Json, jsonLoads floats (String.ofList text) = some value.toPy ∧
              fromSessionObject value = some draft := by
  constructor
  · refine forall₄_congr fun before call after draft => forall₂_congr fun hsplit hsaved => ?_
    obtain ⟨hreachable, hordered⟩ := hcalls
    rw [hsplit, List.filterMap_append, List.filterMap_cons_some hsaved] at hreachable hordered
    -- what the store holds before the save
    obtain ⟨held, hholds, hheld⟩ := exists_holds_run fun other hother =>
      hreachable other (List.mem_append_left _ hother)
    refine hholds.saveKeeps_iff (storable_of_reachable (hreachable draft (by simp))) ?_
    intro other hother
    exact (List.pairwise_append.mp hordered).2.2 other (hheld other hother) draft
      List.mem_cons_self
  · intro draft hdraft
    have hstorable := storable_of_reachable hdraft
    exact ⟨hstorable.fromSessionObject_toSessionObject,
      fun _ _ hfloats htext => hstorable.throughText hfloats htext⟩

/-- Drafts created at one time. -/
def createdTogether (ids : List String) : List Call := ids.map (Call.create · "t")

/-- Drafts created at one time are timely. -/
theorem timely_createdTogether (ids : List String) : Timely (createdTogether ids) := by
  have hsaved : (createdTogether ids).filterMap Call.saved =
      ids.map (BuilderDraft.create · "t") := by
    rw [createdTogether, List.filterMap_map]
    exact List.filterMap_eq_map_iff_forall_eq_some.mpr fun _ _ => rfl
  constructor
  · rw [hsaved]
    intro draft hdraft
    obtain ⟨id, -, rfl⟩ := List.mem_map.mp hdraft
    exact .create id "t"
  · rw [hsaved, List.pairwise_map]
    exact List.pairwise_of_forall fun _ _ => le_rfl

/-- Two drafts, and the first of them through its text. -/
theorem savedDrafts_iff_two :
    (EachSave SaveKeeps (createdTogether ["a", "b"]) ↔
      EachSave Fits (createdTogether ["a", "b"])) ∧
    ∃ text, jsonDumps ratioText (.obj (BuilderDraft.create "a" "t").toSessionObject) = .ok text ∧
      ∃ value : Json, jsonLoads ratioText (String.ofList text) = some value.toPy ∧
        fromSessionObject value = some (BuilderDraft.create "a" "t") := by
  obtain ⟨hkeeps, hread⟩ := savedDrafts_iff (createdTogether ["a", "b"])
    (timely_createdTogether ["a", "b"])
  obtain ⟨text, htext⟩ : ∃ text, jsonDumps ratioText
      (.obj (BuilderDraft.create "a" "t").toSessionObject) = .ok text := ⟨_, rfl⟩
  exact ⟨hkeeps, text, htext, (hread _ (.create "a" "t")).2 ratioText text
    (fun q _ => ratioText_reads q) htext⟩

/-- Of six drafts created at one time the last is lost. -/
theorem sixthDraft_lost : Timely (createdTogether ["a", "b", "c", "d", "e", "f"]) ∧
    ¬EachSave SaveKeeps (createdTogether ["a", "b", "c", "d", "e", "f"]) := by
  refine ⟨timely_createdTogether _, fun hkeeps => ?_⟩
  have hread := (hkeeps (createdTogether ["a", "b", "c", "d", "e"]) (.create "f" "t") []
    (BuilderDraft.create "f" "t") rfl rfl).readBack
  -- the sixth draft is the one that is cut
  have hlost : (SessionBuilderDraftStore.get (save (run (createdTogether ["a", "b", "c", "d", "e"]))
      (BuilderDraft.create "f" "t")) "f").isNone = true := by
    decide +kernel
  rw [show (BuilderDraft.create "f" "t").draftId = "f" from rfl] at hread
  rw [hread] at hlost
  cases hlost

end SessionBuilderDraftStore

end Conformance
