import Conformance.Native.Masking
import Conformance.Spec.JsonPointers
import Conformance.Spec.SchemaKeywords
import Conformance.Spec.UrlCredentials
import Conformance.Spec.UrlQueries

/-!
# Masking

What is masked does not depend on what it hides, keeps everything else, and is masked
already.

## Key results

- `maskJsonValue_alike`, `maskNamed_laws`: values and named texts
- `maskUrlQuery_alike`, `maskUrlQuery_masked`: URLs
- `masking_laws`: values, forms, headers and events
-/

namespace Conformance

open Except

/-! ## JSON values -/

section Values

variable (lower : String → String)

mutual

/-- Two values that differ under sensitive keys only. -/
inductive JsonAlike : Json → Json → Prop where
  | same (value : Json) : JsonAlike value value
  | arr {items items' : List Json} : ItemsAlike items items' → JsonAlike (.arr items) (.arr items')
  | obj {fields fields' : List (String × Json)} :
    FieldsAlike fields fields' → JsonAlike (.obj fields) (.obj fields')

/-- Item by item. -/
inductive ItemsAlike : List Json → List Json → Prop where
  | nil : ItemsAlike [] []
  | cons {item item' : Json} {rest rest' : List Json} :
    JsonAlike item item' → ItemsAlike rest rest' → ItemsAlike (item :: rest) (item' :: rest')

/-- Member by member. -/
inductive FieldsAlike : List (String × Json) → List (String × Json) → Prop where
  | nil : FieldsAlike [] []
  | hidden {key : String} {value value' : Json} {rest rest' : List (String × Json)} :
    lower key ∈ sensitiveJsonKeys → FieldsAlike rest rest' →
    FieldsAlike ((key, value) :: rest) ((key, value') :: rest')
  | shown {key : String} {value value' : Json} {rest rest' : List (String × Json)} :
    JsonAlike value value' → FieldsAlike rest rest' →
    FieldsAlike ((key, value) :: rest) ((key, value') :: rest')

end

variable {lower}

mutual

/-- Values that differ under sensitive keys only are masked to one value. -/
theorem maskJsonValue_alike {value value' : Json} (h : JsonAlike lower value value') :
    maskJsonValue lower value = maskJsonValue lower value' := by
  cases h with
  | same => rfl
  | arr hitems => rw [maskJsonValue, maskJsonValue, maskItems_alike hitems]
  | obj hfields => rw [maskJsonValue, maskJsonValue, maskObject_alike hfields]

/-- So are the items of lists that are alike. -/
theorem maskItems_alike {items items' : List Json} (h : ItemsAlike lower items items') :
    maskItems lower items = maskItems lower items' := by
  cases h with
  | nil => rfl
  | cons hitem hrest => rw [maskItems, maskItems, maskJsonValue_alike hitem, maskItems_alike hrest]

/-- So are the members of objects that are alike. -/
theorem maskObject_alike {fields fields' : List (String × Json)}
    (h : FieldsAlike lower fields fields') : maskObject lower fields = maskObject lower fields' := by
  cases h with
  | nil => rfl
  | hidden hkey hrest =>
    rw [maskObject, maskObject, if_pos hkey, if_pos hkey, maskObject_alike hrest]
  | shown hvalue hrest =>
    rw [maskObject, maskObject, maskJsonValue_alike hvalue, maskObject_alike hrest]

end

/-- The members of an object are masked one by one. -/
theorem maskObject_eq_map (fields : List (String × Json)) :
    maskObject lower fields = fields.map fun field => (field.1,
      if lower field.1 ∈ sensitiveJsonKeys then .str maskedValue
      else maskJsonValue lower field.2) := by
  induction fields with
  | nil => rfl
  | cons field rest ih => rw [maskObject, ih, List.map_cons]

/-- The items of a list are masked one by one. -/
theorem maskItems_eq_map (items : List Json) :
    maskItems lower items = items.map (maskJsonValue lower) := by
  induction items with
  | nil => rfl
  | cons item rest ih => rw [maskItems, ih, List.map_cons]

/-- A masked value is masked already. -/
theorem maskJsonValue_masked (value : Json) :
    maskJsonValue lower (maskJsonValue lower value) = maskJsonValue lower value := by
  induction value using Json.induction with
  | obj fields ih =>
    rw [maskJsonValue, maskJsonValue, maskObject_eq_map, maskObject_eq_map, List.map_map]
    refine congrArg Json.obj (List.map_congr_left fun field hfield => ?_)
    simp only [Function.comp_apply]
    split
    · rfl
    · rw [ih field hfield]
  | arr items ih =>
    rw [maskJsonValue, maskJsonValue, maskItems_eq_map, maskItems_eq_map, List.map_map]
    exact congrArg Json.arr (List.map_congr_left fun item hitem => ih item hitem)
  | null | bool | int | float | str => rfl

/-- A value without sensitive keys is kept. -/
theorem maskJsonValue_eq_self {value : Json}
    (h : value.AllObjects fun fields => ∀ field ∈ fields, lower field.1 ∉ sensitiveJsonKeys) :
    maskJsonValue lower value = value := by
  induction h with
  | null | bool | int | float | str => rfl
  | arr _ ih =>
    rw [maskJsonValue, maskItems_eq_map]
    exact congrArg Json.arr ((List.map_congr_left ih).trans (List.map_id _))
  | obj hkeys _ ih =>
    rw [maskJsonValue, maskObject_eq_map]
    refine congrArg Json.obj ((List.map_congr_left fun field hfield => ?_).trans (List.map_id _))
    rw [if_neg (hkeys field hfield), ih field hfield]
    rfl

/-- A masked member is found under its key. -/
theorem lookup_maskObject (fields : JsonObject) (key : String) :
    (maskObject lower fields).lookup key = (fields.lookup key).map fun value =>
      if lower key ∈ sensitiveJsonKeys then .str maskedValue else maskJsonValue lower value := by
  rw [maskObject_eq_map]
  exact lookup_map_value (fun key value =>
    if lower key ∈ sensitiveJsonKeys then .str maskedValue else maskJsonValue lower value) fields key

/-- No key of a path is sensitive. -/
def IsOpenPath (lower : String → String) (path : List PathPart) : Prop :=
  ∀ name, PathPart.key name ∈ path → lower name ∉ sensitiveJsonKeys

/-- What is at a path without sensitive keys is masked by itself. -/
theorem at?_maskJsonValue {value : Json} {path : List PathPart} (hpath : IsOpenPath lower path) :
    (maskJsonValue lower value).at? path = (value.at? path).map (maskJsonValue lower) := by
  induction path generalizing value with
  | nil => rw [Json.at?, Json.at?, Option.map_some]
  | cons part rest ih =>
    have hrest : IsOpenPath lower rest := fun name hname => hpath name (List.mem_cons_of_mem _ hname)
    cases value with
    | obj fields =>
      cases part with
      | key name =>
        have hkey := hpath name List.mem_cons_self
        rw [maskJsonValue, Json.at?, Json.at?, lookup_maskObject]
        cases fields.lookup name with
        | none => rfl
        | some child =>
          rw [Option.map_some, Option.bind_some, Option.bind_some, if_neg hkey]
          exact ih hrest
      | index => rfl
    | arr items =>
      cases part with
      | key => rfl
      | index n =>
        rw [maskJsonValue, Json.at?, Json.at?, maskItems_eq_map, List.getElem?_map]
        cases items[n]? with
        | none => rfl
        | some child => exact ih hrest
    | null | bool | int | float | str => cases part <;> rfl

/-- A path is followed part by part. -/
theorem Json.at?_append (value : Json) (path rest : List PathPart) :
    value.at? (path ++ rest) = (value.at? path).bind fun child => child.at? rest := by
  induction path generalizing value with
  | nil => rfl
  | cons part path ih =>
    rw [List.cons_append]
    cases value with
    | obj fields =>
      cases part with
      | key name =>
        rw [Json.at?, Json.at?]
        cases fields.lookup name with
        | none => rfl
        | some child => exact ih child
      | index => rfl
    | arr items =>
      cases part with
      | key => rfl
      | index n =>
        rw [Json.at?, Json.at?]
        cases items[n]? with
        | none => rfl
        | some child => exact ih child
    | null | bool | int | float | str => cases part <;> rfl

/-- What is under a sensitive key is replaced. -/
theorem at?_maskJsonValue_hidden {value : Json} {path : List PathPart} {name : String}
    (hpath : IsOpenPath lower path) (hname : lower name ∈ sensitiveJsonKeys) :
    (maskJsonValue lower value).at? (path ++ [.key name]) =
      (value.at? (path ++ [.key name])).map fun _ => .str maskedValue := by
  rw [Json.at?_append, Json.at?_append, at?_maskJsonValue hpath]
  cases value.at? path with
  | none => rfl
  | some child =>
    rw [Option.map_some, Option.bind_some, Option.bind_some]
    cases child with
    | obj fields =>
      rw [maskJsonValue, Json.at?, Json.at?, lookup_maskObject]
      simp only [if_pos hname]
      cases fields.lookup name with
      | none => rfl
      | some hidden => rfl
    | null | bool | int | float | str | arr => rfl

end Values

/-! ## Named texts -/

/-- Two mappings of texts that differ under some names only. -/
def NamedAlike (lower : String → String) (names : List String)
    (fields fields' : List (String × String)) : Prop :=
  List.Forall₂ (fun field field' => field.1 = field'.1 ∧
    (lower field.1 ∈ names ∨ field.2 = field'.2)) fields fields'

/-- Texts as JSON members. -/
def textFields (fields : List (String × String)) : JsonObject :=
  fields.map fun field => (field.1, .str field.2)

/-- What is said of `mask_headers` and `mask_form_fields`. -/
structure NamedLaws (lower : String → String) (names : List String)
    (mask : List (String × String) → JsonObject) : Prop where
  alike : ∀ fields fields', NamedAlike lower names fields fields' → mask fields = mask fields'
  kept : ∀ (fields : List (String × String)) (i : Nat) field, fields[i]? = some field →
    lower field.1 ∉ names → (mask fields)[i]? = some (field.1, .str field.2)
  hidden : ∀ (fields : List (String × String)) (i : Nat) field, fields[i]? = some field →
    lower field.1 ∈ names → (mask fields)[i]? = some (field.1, .str maskedValue)
  masked : ∀ fields, ∃ masked, mask fields = textFields masked ∧ mask masked = textFields masked

/-- Masking by names satisfies the laws of named values. -/
theorem maskNamed_laws (lower : String → String) (names : List String) :
    NamedLaws lower names (maskNamed lower names) where
  alike fields fields' h := by
    unfold maskNamed
    induction h with
    | nil => rfl
    | cons hfield _ ih =>
      obtain ⟨hname, hvalue⟩ := hfield
      rw [List.map_cons, List.map_cons, ih, ← hname]
      rcases hvalue with hsensitive | hvalue
      · rw [if_pos hsensitive, if_pos hsensitive]
      · rw [hvalue]
  kept fields i field hfield hname := by
    rw [maskNamed, List.getElem?_map, hfield, Option.map_some, if_neg hname]
  hidden fields i field hfield hname := by
    rw [maskNamed, List.getElem?_map, hfield, Option.map_some, if_pos hname]
  masked fields := by
    refine ⟨fields.map fun field =>
      (field.1, if lower field.1 ∈ names then maskedValue else field.2), ?_, ?_⟩
    · rw [maskNamed, textFields, List.map_map]
      rfl
    · rw [maskNamed, textFields, List.map_map, List.map_map]
      refine List.map_congr_left fun field _ => ?_
      simp only [Function.comp_apply]
      split <;> rfl

/-! ## URLs -/

section Urls

variable {text : UrlText} {sensitiveParams : List String}

/-- The name of a parameter, as it stands in a query, is sensitive. -/
def IsSensitiveName (text : UrlText) (sensitiveParams : List String) (name : List Char) : Prop :=
  text.lower (unquotePlus (withoutBreaks name)) ∈ sensitiveParams.map fun name =>
    text.lower name.toList

/-- Two parameters of a query that differ in a sensitive value only. -/
inductive ParameterAlike (text : UrlText) (sensitiveParams : List String) :
    List Char → List Char → Prop where
  | same (parameter : List Char) : ParameterAlike text sensitiveParams parameter parameter
  | value {name value value' : List Char} : '=' ∉ name → IsSensitiveName text sensitiveParams name →
    ParameterAlike text sensitiveParams (name ++ '=' :: value) (name ++ '=' :: value')

/-- Two URLs that differ in sensitive values of their queries only. -/
def UrlAlike (text : UrlText) (sensitiveParams : List String) (url url' : String) : Prop :=
  ∃ target query query' rest, url = String.ofList (target ++ '?' :: (query ++ rest)) ∧
    url' = String.ofList (target ++ '?' :: (query' ++ rest)) ∧
    '?' ∉ target ∧ '#' ∉ target ∧ '#' ∉ query ∧ '#' ∉ query' ∧ IsFragmentText rest ∧
    List.Forall₂ (ParameterAlike text sensitiveParams) (query.splitOn '&') (query'.splitOn '&')

/-- What `parse_qsl` reads of one part. -/
def parsedItem (nameValue : List Char) : List Char × List Char :=
  (unquotePlus (partitionAt '=' nameValue).1, unquotePlus (partitionAt '=' nameValue).2)

/-- The parts of a query as `urlsplit` leaves it, with those that are empty left out. -/
def parsedItems (parts : List (List Char)) : List (List Char × List Char) :=
  ((parts.map withoutBreaks).filter (· ≠ [])).map parsedItem

/-- The items of a query, without its line breaks. -/
theorem parseQsl_withoutBreaks (query : List Char) :
    parseQsl (withoutBreaks query) = parsedItems (query.splitOn '&') := by
  have hsplit : (withoutBreaks query).splitOn '&' = (query.splitOn '&').map withoutBreaks :=
    List.splitOn_filter rfl
  rw [parseQsl, hsplit]
  rfl

/-- The items of a query are parsed part by part. -/
theorem parsedItems_cons (part : List Char) (rest : List (List Char)) :
    parsedItems (part :: rest) = (if withoutBreaks part = [] then [] else
      [parsedItem (withoutBreaks part)]) ++ parsedItems rest := by
  unfold parsedItems
  rw [List.map_cons]
  by_cases hpart : withoutBreaks part = []
  · rw [if_pos hpart, List.filter_cons_of_neg (by simp [hpart]), List.nil_append]
  · rw [if_neg hpart, List.filter_cons_of_pos (by simp [hpart])]
    rfl

/-- The names that are masked. -/
def sensitiveNamesOf (text : UrlText) (sensitiveParams : List String) : List (List Char) :=
  sensitiveParams.map fun name => text.lower name.toList

/-- Whether a parameter is masked. -/
def anySensitive (text : UrlText) (sensitiveParams : List String)
    (items : List (List Char × List Char)) : Bool :=
  items.any fun item => text.lower item.1 ∈ sensitiveNamesOf text sensitiveParams

/-- The parsed parameters, masked. -/
def maskedItems (text : UrlText) (sensitiveParams : List String)
    (items : List (List Char × List Char)) : List (List Char × List Char) :=
  items.map (maskQueryItem text (sensitiveNamesOf text sensitiveParams))

/-- The name of an item is read before the equals sign. -/
theorem parsedItem_value {name : List Char} (value : List Char) (hname : '=' ∉ name) :
    withoutBreaks (name ++ '=' :: value) ≠ [] ∧
      (parsedItem (withoutBreaks (name ++ '=' :: value))).1 =
        unquotePlus (withoutBreaks name) := by
  have hsplit : withoutBreaks (name ++ '=' :: value) =
      withoutBreaks name ++ '=' :: withoutBreaks value := by
    rw [withoutBreaks, List.filter_append]
    rfl
  have hnot : '=' ∉ withoutBreaks name := fun h => hname (List.mem_of_mem_filter h)
  rw [hsplit]
  refine ⟨by simp, ?_⟩
  rw [parsedItem, partitionAt_append hnot]

/-- Parameters that are alike are the same, or each has a sensitive name, and they are
    masked to the same. -/
theorem parametersAlike_cases {parts parts' : List (List Char)}
    (h : List.Forall₂ (ParameterAlike text sensitiveParams) parts parts') :
    parts = parts' ∨ (anySensitive text sensitiveParams (parsedItems parts) = true ∧
      anySensitive text sensitiveParams (parsedItems parts') = true ∧
      maskedItems text sensitiveParams (parsedItems parts) =
        maskedItems text sensitiveParams (parsedItems parts')) := by
  induction h with
  | nil => exact .inl rfl
  | @cons part part' rest rest' hpart _ ih =>
    cases hpart with
    | same =>
      rcases ih with rfl | ⟨hany, hany', hmasked⟩
      · exact .inl rfl
      · refine .inr ?_
        unfold anySensitive maskedItems at *
        rw [parsedItems_cons, parsedItems_cons, List.any_append, List.any_append, List.map_append,
          List.map_append, hany, hany', hmasked]
        simp
    | @value name value value' hname hsensitive =>
      obtain ⟨hne, hparsed⟩ := parsedItem_value value hname
      obtain ⟨hne', hparsed'⟩ := parsedItem_value value' hname
      have hmasked : maskedItems text sensitiveParams (parsedItems rest) =
          maskedItems text sensitiveParams (parsedItems rest') := by
        rcases ih with rfl | ⟨-, -, hmasked⟩
        · rfl
        · exact hmasked
      refine .inr ?_
      have hmem : ∀ {item : List Char × List Char}, item.1 = unquotePlus (withoutBreaks name) →
          text.lower item.1 ∈ sensitiveNamesOf text sensitiveParams := fun h => h ▸ hsensitive
      have hitem : ∀ {item : List Char × List Char}, item.1 = unquotePlus (withoutBreaks name) →
          maskQueryItem text (sensitiveNamesOf text sensitiveParams) item =
            (unquotePlus (withoutBreaks name), maskedValue.toList) := fun h => by
        rw [maskQueryItem, if_pos (hmem h), h]
      unfold anySensitive maskedItems at *
      rw [parsedItems_cons, parsedItems_cons, if_neg hne, if_neg hne']
      refine ⟨?_, ?_, ?_⟩
      · simp [hmem hparsed]
      · simp [hmem hparsed']
      · simp only [List.map_append, List.map_cons, List.map_nil, hitem hparsed, hitem hparsed',
          hmasked]

/-- The masked URL, from the parts of a URL. -/
theorem maskUrlQuery_eq {url : String} : maskUrlQuery text url sensitiveParams =
    urlsplit text url >>= fun parts =>
      if parts.query = [] then .ok url
      else if anySensitive text sensitiveParams (parseQsl parts.query) = false then .ok url
      else .ok (String.ofList { parts with
        query := urlencode ['*'] (maskedItems text sensitiveParams (parseQsl parts.query)) }.unsplit) :=
  rfl

/-- URLs that differ in sensitive values of their queries only are masked to one URL. -/
theorem maskUrlQuery_alike {url url' : String} (h : UrlAlike text sensitiveParams url url') :
    maskUrlQuery text url sensitiveParams = maskUrlQuery text url' sensitiveParams := by
  obtain ⟨target, query, query', rest, rfl, rfl, hquestion, hhash, hquery, hquery', hrest, halike⟩ :=
    h
  rcases parametersAlike_cases halike with hsame | ⟨hany, hany', hmasked⟩
  · have hjoin : query = query' := by
      calc query = List.intercalate ['&'] (query.splitOn '&') := (List.intercalate_splitOn '&').symm
        _ = List.intercalate ['&'] (query'.splitOn '&') := by rw [hsame]
        _ = query' := List.intercalate_splitOn '&'
    rw [hjoin]
  · have hsplit : ∀ query, '#' ∉ query →
        urlsplit text (String.ofList (target ++ '?' :: (query ++ rest))) =
          (splitStripped text (strippedUrl target)).map fun parts =>
            { parts with query := withoutBreaks query, fragment := (withoutBreaks rest).tail } := by
      intro query hquery
      have hbreaks : withoutBreaks (query ++ rest) = withoutBreaks query ++ withoutBreaks rest :=
        List.filter_append _ _
      rw [urlsplit_eq, strippedUrl_query, hbreaks]
      refine splitStripped_query (fun h => hquestion (strippedUrl_subset target h))
        (fun h => hhash (strippedUrl_subset target h)) (fun h => hquery (List.mem_of_mem_filter h)) ?_
      rcases hrest with rfl | ⟨fragment, rfl⟩
      · exact .inl rfl
      · exact .inr ⟨withoutBreaks fragment, rfl⟩
    rw [← parseQsl_withoutBreaks] at hany hany' hmasked
    rw [← parseQsl_withoutBreaks] at hmasked
    have hne : ∀ {query : List Char}, anySensitive text sensitiveParams (parseQsl query) = true →
        query ≠ [] := by
      rintro query hany rfl
      cases hany
    rw [maskUrlQuery_eq, maskUrlQuery_eq, hsplit query hquery, hsplit query' hquery']
    cases splitStripped text (strippedUrl target) with
    | error e => rfl
    | ok parts =>
      simp only [Except.map, bind, Except.bind, if_neg (hne hany), if_neg (hne hany'), hany, hany',
        hmasked]
      rfl

/-- Masking a masked item changes nothing. -/
theorem maskQueryItem_masked {names : List (List Char)} (item : List Char × List Char) :
    maskQueryItem text names (maskQueryItem text names item) = maskQueryItem text names item := by
  by_cases hname : text.lower item.1 ∈ names
  · have hmasked : maskQueryItem text names item = (item.1, maskedValue.toList) := if_pos hname
    rw [hmasked]
    exact if_pos hname
  · have hkept : maskQueryItem text names item = item := if_neg hname
    rw [hkept, hkept]

/-- Masking leaves the names of the items. -/
theorem anySensitive_maskedItems (items : List (List Char × List Char)) :
    anySensitive text sensitiveParams (maskedItems text sensitiveParams items) =
      anySensitive text sensitiveParams items := by
  unfold anySensitive maskedItems
  rw [List.any_map]
  congr 1
  funext item
  have hname : (maskQueryItem text (sensitiveNamesOf text sensitiveParams) item).1 = item.1 := by
    unfold maskQueryItem
    split <;> rfl
  rw [Function.comp_apply, hname]

/-- A masked URL is masked already. -/
theorem maskUrlQuery_masked {url masked : String}
    (h : maskUrlQuery text url sensitiveParams = .ok masked) :
    maskUrlQuery text masked sensitiveParams = .ok masked := by
  obtain ⟨parts, hparts, hmasked⟩ := bind_eq_ok.mp (maskUrlQuery_eq.symm.trans h)
  split at hmasked
  · obtain rfl := Except.ok.inj hmasked
    exact h
  · split at hmasked
    · obtain rfl := Except.ok.inj hmasked
      exact h
    · rename_i hany
      rw [Bool.not_eq_false] at hany
      have hitems : parseQsl parts.query ≠ [] := by
        intro hnil
        rw [hnil] at hany
        cases hany
      have hne : urlencode ['*'] (maskedItems text sensitiveParams (parseQsl parts.query)) ≠ [] :=
        urlencode_ne_nil (by simpa [maskedItems] using hitems)
      generalize hquery : urlencode ['*']
        (maskedItems text sensitiveParams (parseQsl parts.query)) = query at hne hmasked
      have hparse : parseQsl query = maskedItems text sensitiveParams (parseQsl parts.query) :=
        hquery ▸ parseQsl_urlencode _
      have hsplit : urlsplit text (String.ofList { parts with query := query }.unsplit) =
          .ok { parts with query := query } :=
        urlsplit_unsplit ((isSplit_of_urlsplit hparts).withQuery query) hne
          fun c hc hsign => mem_urlencode (hquery ▸ hc) (by
            simp only [String.reduceToList, List.mem_cons, List.not_mem_nil, or_false] at hsign ⊢
            tauto)
      have htwice : maskedItems text sensitiveParams
          (maskedItems text sensitiveParams (parseQsl parts.query)) =
            maskedItems text sensitiveParams (parseQsl parts.query) := by
        rw [maskedItems, maskedItems, List.map_map]
        exact List.map_congr_left fun item _ => maskQueryItem_masked item
      obtain rfl := Except.ok.inj hmasked
      rw [maskUrlQuery_eq, hsplit]
      simp only [bind, Except.bind, if_neg hne, hparse, anySensitive_maskedItems, hany, htwice,
        hquery]
      rfl

end Urls

/-! ## Events -/

section Events

variable {text : UrlText} {pyStr : Json → String} {eventType : LogEventType}

/-- The keys of a PSU authorisation URL event that say whether they have a value. -/
def presenceKeys : List String := ["client_id", "request_object"]

/-- Two entries of a payload that differ in what is hidden only. No sensitive key is
    `headers` or `url`. -/
inductive EntryAlike (text : UrlText) (eventType : LogEventType) :
    String × Json → String × Json → Prop where
  | headers {fields fields' : JsonObject} :
    List.Forall₂ (fun field field' => field.1 = field'.1 ∧
      (text.lowered field.1 ∈ sensitiveHeaderNames ∨ field.2 = field'.2)) fields fields' →
    EntryAlike text eventType ("headers", .obj fields) ("headers", .obj fields')
  | url {url url' : String} : eventType = .psuAuthorizationUrl →
    UrlAlike text sensitiveJsonKeys url url' →
    EntryAlike text eventType ("url", .str url) ("url", .str url')
  | hidden {key : String} {value value' : Json} : text.lowered key ∈ sensitiveJsonKeys →
    key ≠ "headers" → key ≠ "url" →
    (eventType = .psuAuthorizationUrl → key ∈ presenceKeys → (value = .null ↔ value' = .null)) →
    EntryAlike text eventType (key, value) (key, value')
  | shown {key : String} {value value' : Json} :
    (key = "headers" → ∀ fields, value ≠ .obj fields) → JsonAlike text.lowered value value' →
    EntryAlike text eventType (key, value) (key, value')

/-- A field of which the presence is shown. -/
theorem maskEventEntry_present (hevent : eventType = .psuAuthorizationUrl) {key : String}
    (hkey : key ∈ presenceKeys) (value : Json) :
    maskEventEntry text pyStr eventType (key, value) = .ok (maskPresent value) := by
  subst hevent
  simp only [presenceKeys, List.mem_cons, List.not_mem_nil, or_false] at hkey
  rcases hkey with rfl | rfl <;> rfl

/-- The URL of an authorisation event is masked in its query. -/
theorem maskEventEntry_url (hevent : eventType = .psuAuthorizationUrl) (url : String) :
    maskEventEntry text pyStr eventType ("url", .str url) =
      maskUrlQuery text url sensitiveJsonKeys >>= fun masked => .ok (.str masked) := by
  subst hevent
  rfl

/-- Every other entry is masked by its key, or value by value. -/
theorem maskEventEntry_plain {key : String} {value : Json}
    (hheaders : key = "headers" → ∀ fields, value ≠ .obj fields)
    (hpsu : eventType = .psuAuthorizationUrl →
      key ∉ presenceKeys ∧ (key = "url" → ∀ url, value ≠ .str url)) :
    maskEventEntry text pyStr eventType (key, value) = .ok (maskPlainEntry text (key, value)) := by
  unfold maskEventEntry
  split
  · rename_i fields heq
    obtain ⟨rfl, rfl⟩ := Prod.mk.inj heq
    exact absurd rfl (hheaders rfl fields)
  · rename_i heq
    obtain ⟨rfl, rfl⟩ := Prod.mk.inj heq
    split
    · rename_i hevent
      obtain ⟨hpresence, hurl⟩ := hpsu hevent
      split
      · exact absurd rfl (hurl rfl _)
      · exact absurd (by simp [presenceKeys]) hpresence
      · exact absurd (by simp [presenceKeys]) hpresence
      · rfl
    · rfl

/-- Values that are alike are missing alike. -/
theorem JsonAlike.eq_null_iff {lower : String → String} {value value' : Json}
    (h : JsonAlike lower value value') : value = .null ↔ value' = .null := by
  cases h with
  | same => exact Iff.rfl
  | arr | obj => exact iff_of_false (fun h => (by cases h)) (fun h => (by cases h))

/-- Presence is shown alike. -/
theorem maskPresent_eq {value value' : Json} (h : value = .null ↔ value' = .null) :
    maskPresent value = maskPresent value' := by
  have hpresent : ∀ {value : Json}, value ≠ .null → maskPresent value = .str maskedValue := by
    intro value hne
    cases value with
    | null => exact absurd rfl hne
    | bool | int | float | str | arr | obj => rfl
  by_cases hnull : value = .null
  · rw [hnull, h.mp hnull]
  · rw [hpresent hnull, hpresent fun h' => hnull (h.mpr h')]

/-- Entries that differ in what is hidden only are masked to one value. -/
theorem maskEventEntry_alike (pyStr : Json → String) {entry entry' : String × Json}
    (h : EntryAlike text eventType entry entry') :
    entry.1 = entry'.1 ∧ maskEventEntry text pyStr eventType entry =
      maskEventEntry text pyStr eventType entry' := by
  cases h with
  | @headers fields fields' halike =>
    refine ⟨rfl, congrArg (fun masked => Except.ok (Json.obj masked)) ?_⟩
    refine (maskNamed_laws text.lowered sensitiveHeaderNames).alike _ _ ?_
    refine List.forall₂_map_left_iff.mpr (List.forall₂_map_right_iff.mpr (halike.imp ?_))
    rintro field field' ⟨hname, hvalue⟩
    exact ⟨hname, hvalue.imp id fun h => congrArg (strHeaderValue pyStr) h⟩
  | url hevent halike =>
    refine ⟨rfl, ?_⟩
    rw [maskEventEntry_url hevent, maskEventEntry_url hevent, maskUrlQuery_alike halike]
  | @hidden key value value' hkey hheaders hurl hpresent =>
    refine ⟨rfl, ?_⟩
    by_cases hpresence : eventType = .psuAuthorizationUrl ∧ key ∈ presenceKeys
    · rw [maskEventEntry_present hpresence.1 hpresence.2,
        maskEventEntry_present hpresence.1 hpresence.2,
        maskPresent_eq (hpresent hpresence.1 hpresence.2)]
    · have hplain : ∀ value, maskEventEntry text pyStr eventType (key, value) =
          .ok (maskPlainEntry text (key, value)) := fun value =>
        maskEventEntry_plain (fun h => absurd h hheaders) fun hevent =>
          ⟨fun hmem => hpresence ⟨hevent, hmem⟩, fun h => absurd h hurl⟩
      rw [hplain, hplain, maskPlainEntry, maskPlainEntry, if_pos hkey, if_pos hkey]
  | @shown key value value' hheaders halike =>
    refine ⟨rfl, ?_⟩
    have hheaders' : key = "headers" → ∀ fields, value' ≠ .obj fields := by
      rintro hkey fields rfl
      cases halike with
      | same => exact hheaders hkey _ rfl
      | obj => exact hheaders hkey _ rfl
    by_cases hpresence : eventType = .psuAuthorizationUrl ∧ key ∈ presenceKeys
    · rw [maskEventEntry_present hpresence.1 hpresence.2,
        maskEventEntry_present hpresence.1 hpresence.2, maskPresent_eq halike.eq_null_iff]
    · by_cases hurl : key = "url" ∧ ∃ url, value = .str url
      · obtain ⟨-, url, rfl⟩ := hurl
        cases halike with
        | same => rfl
      · have hurl' : key = "url" → ∀ url, value' ≠ .str url := by
          rintro hkey url rfl
          cases halike with
          | same => exact hurl ⟨hkey, url, rfl⟩
        rw [maskEventEntry_plain hheaders fun hevent =>
            ⟨fun hmem => hpresence ⟨hevent, hmem⟩, fun hkey url h => hurl ⟨hkey, url, h⟩⟩,
          maskEventEntry_plain hheaders' fun hevent =>
            ⟨fun hmem => hpresence ⟨hevent, hmem⟩, hurl'⟩, maskPlainEntry, maskPlainEntry,
          maskJsonValue_alike halike]

/-- Masking a masked entry changes nothing. -/
theorem maskPlainEntry_masked (entry : String × Json) :
    maskPlainEntry text (entry.1, maskPlainEntry text entry) = maskPlainEntry text entry := by
  by_cases hkey : text.lowered entry.1 ∈ sensitiveJsonKeys
  · have hmasked : ∀ value, maskPlainEntry text (entry.1, value) = .str maskedValue := fun value =>
      if_pos hkey
    exact (hmasked _).trans (hmasked entry.2).symm
  · have hmasked : ∀ value, maskPlainEntry text (entry.1, value) =
        maskJsonValue text.lowered value := fun value => if_neg hkey
    rw [hmasked]
    refine (congrArg _ (hmasked entry.2)).trans ((maskJsonValue_masked entry.2).trans ?_)
    exact (hmasked entry.2).symm

/-- What plain masking makes an object of was one, and likewise for a text. -/
theorem maskPlainEntry_shape (text : UrlText) (entry : String × Json) :
    (∀ fields, maskPlainEntry text entry = .obj fields → ∃ fields, entry.2 = .obj fields) ∧
      (∀ url, maskPlainEntry text entry = .str url →
        text.lowered entry.1 ∈ sensitiveJsonKeys ∨ entry.2 = .str url) := by
  obtain ⟨key, value⟩ := entry
  unfold maskPlainEntry
  split
  · rename_i hkey
    exact ⟨fun fields h => (by cases h), fun url h => .inl hkey⟩
  · cases value with
    | obj fields => exact ⟨fun _ _ => ⟨fields, rfl⟩, fun url h => (by cases h)⟩
    | null | bool | int | float | arr =>
      exact ⟨fun fields h => (by cases h), fun url h => (by cases h)⟩
    | str other => exact ⟨fun fields h => (by cases h), fun url h => .inr h⟩

/-- Masking masked headers changes nothing. -/
theorem maskHeaders_masked {fields : JsonObject} {masked : Json}
    (h : maskEventEntry text pyStr eventType ("headers", .obj fields) = .ok masked) :
    maskEventEntry text pyStr eventType ("headers", masked) = .ok masked := by
  obtain rfl := Except.ok.inj h
  obtain ⟨texts, htexts, hagain⟩ := (maskNamed_laws text.lowered sensitiveHeaderNames).masked
    (fields.map fun field => (field.1, strHeaderValue pyStr field.2))
  have hback : (textFields texts).map (fun field => (field.1, strHeaderValue pyStr field.2)) = texts := by
    rw [textFields, List.map_map]
    exact List.map_id texts
  refine congrArg (fun masked => Except.ok (Json.obj masked)) ?_
  unfold maskHeaders
  rw [htexts, hback, hagain]

theorem maskUrlQuery_maskedValue (sensitiveParams : List String) :
    maskUrlQuery text maskedValue sensitiveParams = .ok maskedValue := rfl

/-- A masked entry is masked already. -/
theorem maskEventEntry_masked {key : String} {value masked : Json}
    (h : maskEventEntry text pyStr eventType (key, value) = .ok masked) :
    maskEventEntry text pyStr eventType (key, masked) = .ok masked := by
  by_cases hheaders : key = "headers" ∧ ∃ fields, value = .obj fields
  · obtain ⟨rfl, fields, rfl⟩ := hheaders
    exact maskHeaders_masked h
  by_cases hpresence : eventType = .psuAuthorizationUrl ∧ key ∈ presenceKeys
  · rw [maskEventEntry_present hpresence.1 hpresence.2] at h ⊢
    obtain rfl := Except.ok.inj h
    cases value <;> rfl
  by_cases hurl : eventType = .psuAuthorizationUrl ∧ key = "url" ∧ ∃ url, value = .str url
  · obtain ⟨hevent, rfl, url, rfl⟩ := hurl
    rw [maskEventEntry_url hevent] at h
    obtain ⟨maskedUrl, hmasked, h⟩ := bind_eq_ok.mp h
    obtain rfl := Except.ok.inj h
    rw [maskEventEntry_url hevent, maskUrlQuery_masked hmasked]
    rfl
  rw [maskEventEntry_plain (fun hkey fields h => hheaders ⟨hkey, fields, h⟩) fun hevent =>
    ⟨fun hmem => hpresence ⟨hevent, hmem⟩, fun hkey url h => hurl ⟨hevent, hkey, url, h⟩⟩] at h
  obtain rfl := Except.ok.inj h
  obtain ⟨hobject, htext⟩ := maskPlainEntry_shape text (key, value)
  by_cases hreplaced : eventType = .psuAuthorizationUrl ∧ key = "url" ∧
      text.lowered key ∈ sensitiveJsonKeys
  · obtain ⟨hevent, rfl, hkey⟩ := hreplaced
    have hmasked : maskPlainEntry text ("url", value) = .str maskedValue := if_pos hkey
    rw [hmasked, maskEventEntry_url hevent, maskUrlQuery_maskedValue]
    rfl
  · rw [maskEventEntry_plain, maskPlainEntry_masked (key, value)]
    · intro hkey fields h
      obtain ⟨fields', hvalue⟩ := hobject fields h
      exact hheaders ⟨hkey, fields', hvalue⟩
    · refine fun hevent => ⟨fun hmem => hpresence ⟨hevent, hmem⟩, fun hkey url h => ?_⟩
      rcases htext url h with hsensitive | hvalue
      · exact hreplaced ⟨hevent, hkey, hsensitive⟩
      · exact hurl ⟨hevent, hkey, url, hvalue⟩

end Events

/-! ## The laws -/

/-- What is said of `mask_json_value`. -/
structure ValueLaws (lower : String → String) : Prop where
  alike : ∀ value value', JsonAlike lower value value' →
    maskJsonValue lower value = maskJsonValue lower value'
  shown : ∀ value path, IsOpenPath lower path →
    (maskJsonValue lower value).at? path = (value.at? path).map (maskJsonValue lower)
  kept : ∀ value : Json,
    (value.AllObjects fun fields => ∀ field ∈ fields, lower field.1 ∉ sensitiveJsonKeys) →
    maskJsonValue lower value = value
  hidden : ∀ value path name, IsOpenPath lower path → lower name ∈ sensitiveJsonKeys →
    (maskJsonValue lower value).at? (path ++ [.key name]) =
      (value.at? (path ++ [.key name])).map fun _ => .str maskedValue
  masked : ∀ value, maskJsonValue lower (maskJsonValue lower value) = maskJsonValue lower value

/-- What is said of `_mask_payload` outside developer mode. -/
structure PayloadLaws (text : UrlText) (pyStr : Json → String) (eventType : LogEventType) :
    Prop where
  alike : ∀ payload payload', List.Forall₂ (EntryAlike text eventType) payload payload' →
    maskEventPayload text pyStr false eventType payload =
      maskEventPayload text pyStr false eventType payload'
  masked : ∀ payload masked, maskEventPayload text pyStr false eventType payload = .ok masked →
    maskEventPayload text pyStr false eventType masked = .ok masked

/-- What is said of masking. -/
structure MaskingLaws (text : UrlText) (pyStr : Json → String) : Prop where
  values : ValueLaws text.lowered
  formFields : NamedLaws text.lowered sensitiveJsonKeys (maskFormFields text.lowered)
  headers : NamedLaws text.lowered sensitiveHeaderNames (maskHeaders text.lowered)
  payloads : ∀ eventType, PayloadLaws text pyStr eventType

/-- Masking event payloads satisfies the laws of payloads. -/
theorem payload_laws (text : UrlText) (pyStr : Json → String) (eventType : LogEventType) :
    PayloadLaws text pyStr eventType where
  alike payload payload' h := by
    simp only [maskEventPayload, Bool.false_eq_true, if_false]
    induction h with
    | nil => rfl
    | cons hentry _ ih =>
      obtain ⟨hkey, hmasked⟩ := maskEventEntry_alike pyStr hentry
      rw [List.mapM_cons, List.mapM_cons, ih, hkey, hmasked]
  masked payload masked h := by
    simp only [maskEventPayload, Bool.false_eq_true, if_false, List.mapM_eq_ok] at h ⊢
    refine List.forall₂_same.mpr fun entry hentry => ?_
    obtain ⟨original, -, hmasked⟩ := h.exists_of_mem_right hentry
    obtain ⟨value, hvalue, hpair⟩ := bind_eq_ok.mp hmasked
    obtain rfl := Except.ok.inj hpair
    exact bind_eq_ok.mpr ⟨value, maskEventEntry_masked hvalue, rfl⟩

/-- Masking hides what is sensitive and nothing else, but for the presence of a client and of
    a request object in a PSU authorisation URL event, and what is masked is masked already. -/
theorem masking_laws (text : UrlText) (pyStr : Json → String) : MaskingLaws text pyStr where
  values := ⟨fun _ _ => maskJsonValue_alike, fun _ _ => at?_maskJsonValue,
    fun _ => maskJsonValue_eq_self, fun _ _ _ => at?_maskJsonValue_hidden, maskJsonValue_masked⟩
  formFields := maskNamed_laws text.lowered sensitiveJsonKeys
  headers := maskNamed_laws text.lowered sensitiveHeaderNames
  payloads := payload_laws text pyStr

/-- Whether a request object is there shows, although its key is sensitive. -/
theorem requestObject_presence_shown :
    asciiUrlText.lowered "request_object" ∈ sensitiveJsonKeys ∧
      ¬∀ value value' : Json,
        maskEventPayload asciiUrlText (fun _ => "") false .psuAuthorizationUrl
            [("request_object", value)] =
          maskEventPayload asciiUrlText (fun _ => "") false .psuAuthorizationUrl
            [("request_object", value')] := by
  refine ⟨by decide, fun h => ?_⟩
  have habsent : maskEventPayload asciiUrlText (fun _ => "") false .psuAuthorizationUrl
      [("request_object", .null)] = .ok [("request_object", .null)] := rfl
  have hpresent : maskEventPayload asciiUrlText (fun _ => "") false .psuAuthorizationUrl
      [("request_object", .str "e30.e30.c2ln")] = .ok [("request_object", .str "***")] := rfl
  cases habsent.symm.trans ((h .null (.str "e30.e30.c2ln")).trans hpresent)

end Conformance
