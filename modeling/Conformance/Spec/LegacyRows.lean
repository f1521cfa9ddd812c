import Conformance.Spec.BodylessResponses
import Conformance.Spec.FrozenHeaderMap
import Conformance.Spec.LegacyPaths

/-!
# Legacy rows

The meaning of a bundle of the legacy suite: which expectations hold, which groups of them have to,
and which schema the body has to match. Where no integer has too many digits to be written, the
evaluation raises nothing before the schema, and its early exits are those of the groups.

## Key results

- `evaluateLegacyExpectation_passes_iff`: an expectation passes when it holds
- `passesLegacy_iff`: a bundle passes when its groups hold and its schema accepts the body
- `legacyRow_meaning`: the above, the case of header names, and paths
-/

namespace Conformance

open Except

section Meaning

variable (library : AssertionLibrary) (statusCode : Int) (headers : List (String × String))
  (body : JsonObject)

/-- The last header of a name, in any case, has the value. -/
def HeaderIs (name value : String) : Prop :=
  FrozenHeaders.IsLastValue library.lower headers (library.lower name) value

/-- The value of a field is the expected one: a text is compared with the text of the value. -/
def ValueAccepted : Json → Json → Prop
  | .str text, value => legacyScalarText library value = .ok text
  | expected, value => value.pyEq expected = true

/-- The first selector of a match holds. -/
def SelectorHolds (legacyMatch : JsonObject) : Prop :=
  match textField? legacyMatch "header-present", textField? legacyMatch "header",
      textField? legacyMatch "JSON", textField? legacyMatch "JSON-NOT-PRESENT" with
  | some name, _, _, _ => ∃ value, HeaderIs library headers name value
  | none, some name, _, _ => ∃ value, HeaderIs library headers name value ∧
      ∀ expected, textField? legacyMatch "value" = some expected → value = expected
  | none, none, some path, _ => ∃ value, resolveLegacyJsonPath body path = some value ∧
      ∀ expected, legacyMatch.lookup "Value" = some expected →
        ValueAccepted library expected value
  | none, none, none, some path => resolveLegacyJsonPath body path = none
  | none, none, none, none => False

/-- A match is an object whose selector holds. -/
def MatchHolds : Json → Prop
  | .obj legacyMatch => SelectorHolds library headers body legacyMatch
  | _ => False

/-- An expectation of this status whose matches hold. -/
structure ExpectationHolds (expectation : JsonObject) : Prop where
  status : ∀ expected, expectedStatus? ((expectation.lookup "status-code").getD .null) =
    some expected → expected = statusCode
  matchList : ∃ legacyMatches, (expectation.lookup "matches").getD (.arr []) = .arr legacyMatches ∧
    ∀ legacyMatch ∈ legacyMatches, MatchHolds library headers body legacyMatch

/-- The groups of a bundle hold, and the body matches the schema for the status. -/
structure BundleHolds (bundle : LegacyFcsAssertion) : Prop where
  allOf : ∀ expectation ∈ bundle.allOf, ExpectationHolds library statusCode headers body expectation
  oneOf : bundle.oneOf = [] ∨
    ∃ expectation ∈ bundle.oneOf, ExpectationHolds library statusCode headers body expectation
  lastIfAll : ∀ conditions last, bundle.lastIfAll = conditions ++ [last] → conditions ≠ [] →
    (∀ expectation ∈ conditions, ExpectationHolds library statusCode headers body expectation) →
      ExpectationHolds library statusCode headers body last
  responseSchema : ∀ document, bundle.schemaDocument = some document →
    match statusSchemaRef statusCode bundle with
    | none => statusCode = 204
    | some schemaRef => validateJsonInstanceAgainstResponseSchema library.schemas library.repr
        "bundled_openapi" document (some schemaRef) none (.obj body) = .ok none

/-- The evaluation of a bundle passes. -/
def PassesLegacy (bundle : LegacyFcsAssertion) : Prop :=
  ∃ result, evaluateLegacyFcsAssertion library bundle statusCode headers body = .ok result ∧
    result.passed = true

end Meaning

/-! ## Headers -/

section Headers

variable {library : AssertionLibrary} {headers : List (String × String)}

/-- A normalised header is the last of its name. -/
theorem get?_normalizedHeaders {name value : String} :
    (normalizedHeaders library headers).get? (library.lower name) = some value ↔
      HeaderIs library headers name value := by
  unfold HeaderIs
  generalize library.lower name = lowerName
  have hlast : ∀ found, (normalizedHeaders library headers).get? lowerName = some found →
      FrozenHeaders.IsLastValue library.lower headers lowerName found := by
    induction headers using List.reverseRecOn with
    | nil => intro found h; cases h
    | append_singleton headers header ih =>
      intro found h
      rw [normalizedHeaders, List.foldl_append, List.foldl_cons, List.foldl_nil,
        Dict.get?_set] at h
      split at h
      · rename_i heq
        rw [heq, ← Option.some.inj h]
        exact .of_snoc header
      · rename_i hne
        exact (ih found h).snoc (Ne.symm hne)
  have hsome (h : ∃ header ∈ headers, library.lower header.1 = lowerName) :
      ∃ found, (normalizedHeaders library headers).get? lowerName = some found := by
    obtain ⟨header, hmem, heq⟩ := h
    clear hlast
    induction headers using List.reverseRecOn with
    | nil => cases hmem
    | append_singleton headers other ih =>
      rw [normalizedHeaders, List.foldl_append, List.foldl_cons, List.foldl_nil, Dict.get?_set]
      split
      · exact ⟨_, rfl⟩
      · rename_i hne
        rcases List.mem_append.mp hmem with hmem | hmem
        · exact ih hmem
        · rw [List.mem_singleton.mp hmem] at heq
          exact absurd heq.symm hne
  constructor
  · exact hlast value
  · intro h
    obtain ⟨found, hfound⟩ := hsome h.mem
    rw [hfound, (hlast found hfound).unique h]

/-- A name is there exactly when a header has it. -/
theorem contains_normalizedHeaders {name : String} :
    (normalizedHeaders library headers).contains (library.lower name) = true ↔
      ∃ value, HeaderIs library headers name value := by
  rw [Dict.contains_iff, Dict.mem_keys_iff]
  exact exists_congr fun value => get?_normalizedHeaders

end Headers

/-! ## Values of a body without long integers -/

section Values

/-- A field of an item without long integers has none. -/
theorem hasLongInt_itemField? {fieldName : String} {item value : Json}
    (h : hasLongInt item = false) (hvalue : itemField? fieldName item = some value) :
    hasLongInt value = false := by
  cases item with
  | obj fields => exact hasLongInt_of_lookup h hvalue
  | _ => cases hvalue

/-- A list of values without long integers has none. -/
theorem hasLongInt_arr_of_forall {items : List Json}
    (h : ∀ item ∈ items, hasLongInt item = false) : hasLongInt (.arr items) = false := by
  rw [hasLongInt]
  induction items with
  | nil => rfl
  | cons item rest ih =>
    obtain ⟨hitem, hrest⟩ := List.forall_mem_cons.mp h
    rw [itemsHaveLongInt, hitem, ih hrest]
    rfl

/-- Neither has what a segment leads to. -/
theorem hasLongInt_resolveLegacySegment {current : Json} {segment : List Char} {value : Json}
    (h : hasLongInt current = false)
    (hvalue : resolveLegacySegment (some current) segment = some value) :
    hasLongInt value = false := by
  unfold resolveLegacySegment at hvalue
  cases current with
  | arr items =>
    cases hpresence : presenceMatch segment with
    | some fieldName =>
      simp only [hpresence] at hvalue
      cases hcollected : items.filterMap (itemField? fieldName) with
      | nil => rw [hcollected] at hvalue; cases hvalue
      | cons first rest =>
        rw [hcollected] at hvalue
        obtain rfl := Option.some.inj hvalue
        rw [← hcollected]
        refine hasLongInt_arr_of_forall fun found hfound => ?_
        obtain ⟨item, hitem, hfield⟩ := List.mem_filterMap.mp hfound
        exact hasLongInt_itemField? (hasLongInt_of_mem h hitem) hfield
    | none =>
      cases hfilter : filterMatch segment with
      | some pair =>
        simp only [hpresence, hfilter] at hvalue
        exact hasLongInt_of_mem h (List.mem_of_find?_eq_some hvalue)
      | none => simp [hpresence, hfilter] at hvalue
  | obj fields =>
    cases hpresence : presenceMatch segment with
    | some fieldName => simp [hpresence] at hvalue
    | none =>
      cases hfilter : filterMatch segment with
      | some pair => simp [hpresence, hfilter] at hvalue
      | none =>
        simp only [hpresence, hfilter] at hvalue
        exact hasLongInt_of_lookup h hvalue
  | _ => simp at hvalue

/-- Neither has what a path leads to. -/
theorem hasLongInt_resolveLegacyJsonPath {body : JsonObject} {path : String} {value : Json}
    (h : hasLongInt (.obj body) = false) (hvalue : resolveLegacyJsonPath body path = some value) :
    hasLongInt value = false := by
  rw [resolveLegacyJsonPath] at hvalue
  generalize Json.obj body = current at h hvalue
  generalize legacyJsonPathSegments path = segments at hvalue
  induction segments generalizing current with
  | nil =>
    obtain rfl := Option.some.inj hvalue
    exact h
  | cons segment rest ih =>
    rw [List.foldl_cons] at hvalue
    cases hstep : resolveLegacySegment (some current) segment with
    | some next =>
      rw [hstep] at hvalue
      exact ih next (hasLongInt_resolveLegacySegment h hstep) hvalue
    | none =>
      rw [hstep] at hvalue
      have hnone (segments : List (List Char)) :
          segments.foldl resolveLegacySegment none = none := by
        induction segments with
        | nil => rfl
        | cons segment rest ih => exact ih
      rw [hnone] at hvalue
      cases hvalue

/-- A value without long integers has a text. -/
theorem exists_legacyScalarText (library : AssertionLibrary) {value : Json}
    (h : hasLongInt value = false) : ∃ text, legacyScalarText library value = .ok text := by
  have hrepr : ∃ text, reprText library.pyStr value = .ok text := ⟨_, if_neg (by simp [h])⟩
  cases value with
  | bool b => cases b <;> exact ⟨_, rfl⟩
  | null => exact ⟨_, rfl⟩
  | _ => exact hrepr

end Values

/-! ## Matches -/

section Matches

variable (library : AssertionLibrary) (statusCode : Int) (headers : List (String × String))
  (body : JsonObject)

/-- When a value is accepted. -/
theorem legacyValueAccepts_iff {expected value : Json} (h : hasLongInt value = false) :
    ∃ accepted, legacyValueAccepts library expected value = .ok accepted ∧
      (accepted = true ↔ ValueAccepted library expected value) := by
  obtain ⟨actual, hactual⟩ := exists_legacyScalarText library h
  cases expected with
  | str text =>
    refine ⟨actual == text, ?_, ?_⟩
    · rw [legacyValueAccepts, hactual]
      rfl
    · rw [ValueAccepted, hactual, beq_iff_eq, Except.ok.injEq]
  | _ => exact ⟨_, rfl, Iff.rfl⟩

/-- When a header match passes. -/
theorem evaluateLegacyHeader_passes_iff (legacyMatch : JsonObject) (name : String) :
    (evaluateLegacyHeader library legacyMatch name (normalizedHeaders library headers)).1 = true ↔
      ∃ value, HeaderIs library headers name value ∧
        ∀ expected, textField? legacyMatch "value" = some expected → value = expected := by
  simp only [← get?_normalizedHeaders]
  unfold evaluateLegacyHeader
  cases (normalizedHeaders library headers).get? (library.lower name) with
  | none => simp
  | some actual =>
    cases textField? legacyMatch "value" with
    | none => simp
    | some expected => by_cases hsame : actual = expected <;> simp [hsame]

/-- When a JSON match passes. -/
theorem evaluateLegacyJson_passes_iff (hbody : hasLongInt (.obj body) = false)
    (legacyMatch : JsonObject) (path : String) :
    ∃ passed message, evaluateLegacyJson library legacyMatch path body = .ok (passed, message) ∧
      (passed = true ↔ ∃ value, resolveLegacyJsonPath body path = some value ∧
        ∀ expected, legacyMatch.lookup "Value" = some expected →
          ValueAccepted library expected value) := by
  unfold evaluateLegacyJson
  cases hresolved : resolveLegacyJsonPath body path with
  | none => exact ⟨false, _, rfl, by simp⟩
  | some value =>
    simp only
    cases legacyMatch.lookup "Value" with
    | none => exact ⟨true, _, rfl, by simp⟩
    | some expected =>
      obtain ⟨accepted, haccepts, hiff⟩ := @legacyValueAccepts_iff library expected _
        (hasLongInt_resolveLegacyJsonPath hbody hresolved)
      simp only
      cases accepted with
      | true => exact ⟨true, _, by rw [haccepts]; rfl, by simpa using hiff⟩
      | false => exact ⟨false, _, by rw [haccepts]; rfl, by simpa using hiff⟩

/-- A match passes when its selector holds. -/
theorem evaluateLegacyMatch_passes_iff (hbody : hasLongInt (.obj body) = false)
    (legacyMatch : JsonObject) :
    ∃ passed message, evaluateLegacyMatch library legacyMatch (normalizedHeaders library headers)
        body = .ok (passed, message) ∧
      (passed = true ↔ SelectorHolds library headers body legacyMatch) := by
  unfold evaluateLegacyMatch SelectorHolds
  cases textField? legacyMatch "header-present" with
  | some name =>
    simp only [← contains_normalizedHeaders]
    by_cases hcontains :
      (normalizedHeaders library headers).contains (library.lower name) = true <;> simp [hcontains]
  | none =>
    cases textField? legacyMatch "header" with
    | some name =>
      exact ⟨_, _, rfl, evaluateLegacyHeader_passes_iff library headers legacyMatch name⟩
    | none =>
      cases textField? legacyMatch "JSON" with
      | some path => exact evaluateLegacyJson_passes_iff library body hbody legacyMatch path
      | none =>
        cases textField? legacyMatch "JSON-NOT-PRESENT" with
        | none => simp
        | some path =>
          cases hresolved : resolveLegacyJsonPath body path <;> simp [hresolved]

/-- Matches pass exactly when each of them holds. -/
theorem evaluateLegacyMatches_passes_iff (hbody : hasLongInt (.obj body) = false)
    (legacyMatches : List Json) :
    ∃ passed message, evaluateLegacyMatches library (normalizedHeaders library headers) body
        legacyMatches = .ok (passed, message) ∧
      (passed = true ↔ ∀ legacyMatch ∈ legacyMatches,
        MatchHolds library headers body legacyMatch) := by
  induction legacyMatches with
  | nil => exact ⟨true, _, rfl, by simp⟩
  | cons legacyMatch rest ih =>
    rw [List.forall_mem_cons]
    cases legacyMatch with
    | obj legacyMatch =>
      obtain ⟨passed, message, hmatch, hholds⟩ :=
        evaluateLegacyMatch_passes_iff library headers body hbody legacyMatch
      rw [evaluateLegacyMatches, hmatch, MatchHolds, ← hholds]
      cases passed with
      | true =>
        obtain ⟨passed, message, hrest, hall⟩ := ih
        exact ⟨passed, message, hrest, by simpa using hall⟩
      | false => exact ⟨false, message, rfl, by simp⟩
    | null | bool | int | float | str | arr => exact ⟨false, _, rfl, by simp [MatchHolds]⟩

/-- An expectation without long integers passes when it holds, and raises nothing. -/
theorem evaluateLegacyExpectation_passes_iff (hbody : hasLongInt (.obj body) = false)
    {expectation : JsonObject} (hexpectation : hasLongInt (.obj expectation) = false) :
    ∃ passed message, evaluateLegacyExpectation library statusCode
        (normalizedHeaders library headers) body expectation = .ok (passed, message) ∧
      (passed = true ↔ ExpectationHolds library statusCode headers body expectation) := by
  unfold evaluateLegacyExpectation
  by_cases hdiffers : (expectedStatus? ((expectation.lookup "status-code").getD .null)).any
      (· ≠ statusCode) = true
  · simp only [if_pos hdiffers]
    have hnot : ¬ExpectationHolds library statusCode headers body expectation := fun h => by
      obtain ⟨expected, hexpected, hother⟩ : ∃ expected, expectedStatus?
          ((expectation.lookup "status-code").getD .null) = some expected ∧
            expected ≠ statusCode := by
        simpa [Option.any_eq_true] using hdiffers
      exact hother (h.status expected hexpected)
    have htext : ∃ text, expectedStatusText ((expectation.lookup "status-code").getD .null) =
        .ok text := by
      by_contra hraises
      obtain ⟨error, herror⟩ := exists_error fun text htext => hraises ⟨text, htext⟩
      obtain ⟨n, hn, hlong⟩ := expectedStatusText_raises_iff.mp ⟨error, herror⟩
      cases hlookup : expectation.lookup "status-code" with
      | none => rw [hlookup] at hn; cases hn
      | some value =>
        have hshort := hasLongInt_of_lookup hexpectation hlookup
        rw [hlookup, Option.getD_some] at hn
        rw [hn, hasLongInt, decide_eq_false_iff_not] at hshort
        exact hshort hlong
    obtain ⟨text, htext⟩ := htext
    exact ⟨false, _, by rw [htext]; rfl, by simpa using hnot⟩
  · simp only [if_neg hdiffers]
    have hstatus : ∀ expected, expectedStatus? ((expectation.lookup "status-code").getD .null) =
        some expected → expected = statusCode := by
      simpa [Option.any_eq_true] using hdiffers
    cases hlist : (expectation.lookup "matches").getD (.arr []) with
    | arr legacyMatches =>
      obtain ⟨passed, message, hresult, hall⟩ :=
        evaluateLegacyMatches_passes_iff library headers body hbody legacyMatches
      refine ⟨passed, message, hresult, hall.trans ⟨fun h => ⟨hstatus, legacyMatches, hlist, h⟩,
        fun h => ?_⟩⟩
      obtain ⟨_, hother, h⟩ := h.matchList
      obtain rfl := Json.arr.inj (hlist.symm.trans hother)
      exact h
    | null | bool | int | float | str | obj =>
      refine ⟨false, _, rfl, iff_of_false (by simp) fun h => ?_⟩
      obtain ⟨_, hother, -⟩ := h.matchList
      rw [hlist] at hother
      cases hother

end Matches

/-! ## Groups -/

section Groups

variable {evaluate : JsonObject → Except PyError (Bool × String)} {holds : JsonObject → Prop}

/-- The evaluation raises nothing over an expectation, and passes it when it holds. -/
def Decides (evaluate : JsonObject → Except PyError (Bool × String)) (holds : JsonObject → Prop)
    (expectation : JsonObject) : Prop :=
  ∃ passed message, evaluate expectation = .ok (passed, message) ∧
    (passed = true ↔ holds expectation)

/-- What an evaluation accepts and raises on, as it does. -/
theorem judges_self : Judges evaluate (fun expectation => ∃ message, evaluate expectation =
    .ok (true, message)) (fun expectation => ∃ error, evaluate expectation = .error error) :=
  ⟨fun _ => Iff.rfl, fun _ => Iff.rfl⟩

/-- What decides an expectation accepts it exactly when it holds. -/
theorem Decides.accepts_iff {expectation : JsonObject} (h : Decides evaluate holds expectation) :
    (∃ message, evaluate expectation = .ok (true, message)) ↔ holds expectation := by
  obtain ⟨passed, message, hresult, hiff⟩ := h
  rw [hresult, ← hiff]
  cases passed <;> simp

/-- What decides an expectation raises nothing. -/
theorem Decides.not_raises {expectation : JsonObject} (h : Decides evaluate holds expectation) :
    ¬∃ error, evaluate expectation = .error error := by
  obtain ⟨passed, message, hresult, -⟩ := h
  simp [hresult]

/-- The first rejection is found exactly when not all expectations hold. -/
theorem rejectsFirst_iff {expectations : List JsonObject}
    (h : ∀ expectation ∈ expectations, Decides evaluate holds expectation) :
    RejectsFirst (fun expectation => ∃ message, evaluate expectation = .ok (true, message))
        (fun expectation => ∃ error, evaluate expectation = .error error) expectations ↔
      ¬∀ expectation ∈ expectations, holds expectation := by
  induction expectations with
  | nil => simp [RejectsFirst]
  | cons expectation rest ih =>
    obtain ⟨hfirst, hrest⟩ := List.forall_mem_cons.mp h
    rw [RejectsFirst.cons_iff, ih hrest, List.forall_mem_cons, hfirst.accepts_iff]
    have hnot := hfirst.not_raises
    tauto

/-- Some expectation is accepted exactly when one holds. -/
theorem acceptsSome_iff {expectations : List JsonObject}
    (h : ∀ expectation ∈ expectations, Decides evaluate holds expectation) :
    AcceptsSome (fun expectation => ∃ message, evaluate expectation = .ok (true, message))
        (fun expectation => ∃ error, evaluate expectation = .error error) expectations ↔
      ∃ expectation ∈ expectations, holds expectation := by
  induction expectations with
  | nil => simp [AcceptsSome]
  | cons expectation rest ih =>
    obtain ⟨hfirst, hrest⟩ := List.forall_mem_cons.mp h
    rw [AcceptsSome.cons_iff, ih hrest, List.exists_mem_cons_iff, hfirst.accepts_iff]
    have hnot := hfirst.not_raises
    tauto

/-- The groups of a bundle, where the evaluation decides its expectations. -/
theorem groupsFailure_eq_none_iff {bundle : LegacyFcsAssertion}
    (h : ∀ expectation ∈ bundle.allOf ++ bundle.oneOf ++ bundle.lastIfAll,
      Decides evaluate holds expectation) :
    groupsFailure evaluate bundle = .ok none ↔
      (∀ expectation ∈ bundle.allOf, holds expectation) ∧
        (bundle.oneOf = [] ∨ ∃ expectation ∈ bundle.oneOf, holds expectation) ∧
          ∀ conditions last, bundle.lastIfAll = conditions ++ [last] → conditions ≠ [] →
            (∀ expectation ∈ conditions, holds expectation) → holds last := by
  have hallOf : ∀ expectation ∈ bundle.allOf, Decides evaluate holds expectation :=
    fun expectation hmem => h expectation (by simp [hmem])
  have honeOf : ∀ expectation ∈ bundle.oneOf, Decides evaluate holds expectation :=
    fun expectation hmem => h expectation (by simp [hmem])
  rw [judges_self.groupsFailure_eq_none, acceptsSome_iff honeOf]
  refine and_congr (forall₂_congr fun expectation hmem => (hallOf expectation hmem).accepts_iff)
    (and_congr_right fun _ => forall₂_congr fun conditions last => forall₂_congr
      fun hsplit _ => ?_)
  have hconditions : ∀ expectation ∈ conditions, Decides evaluate holds expectation :=
    fun expectation hmem => h expectation (by simp [hsplit, hmem])
  have hlast : Decides evaluate holds last := h last (by simp [hsplit])
  rw [rejectsFirst_iff hconditions]
  beta_reduce
  rw [hlast.accepts_iff,
    forall₂_congr fun expectation hmem => (hconditions expectation hmem).accepts_iff]
  tauto

end Groups

/-! ## Bundles -/

section Bundles

variable (library : AssertionLibrary) (statusCode : Int) (headers : List (String × String))
  (body : JsonObject)

/-- No expectation of the bundle holds an integer of more than 4300 digits. -/
def HasShortInts (bundle : LegacyFcsAssertion) : Prop :=
  ∀ expectation ∈ bundle.allOf ++ bundle.oneOf ++ bundle.lastIfAll,
    hasLongInt (.obj expectation) = false

instance (bundle : LegacyFcsAssertion) : Decidable (HasShortInts bundle) :=
  inferInstanceAs (Decidable (∀ expectation ∈ bundle.allOf ++ bundle.oneOf ++ bundle.lastIfAll,
    hasLongInt (.obj expectation) = false))

/-- When the schema of a bundle finds no fault. -/
theorem evaluateLegacySchema_eq_none_iff (bundle : LegacyFcsAssertion) :
    evaluateLegacySchema library bundle statusCode body = .ok none ↔
      ∀ document, bundle.schemaDocument = some document →
        match statusSchemaRef statusCode bundle with
        | none => statusCode = 204
        | some schemaRef => validateJsonInstanceAgainstResponseSchema library.schemas library.repr
            "bundled_openapi" document (some schemaRef) none (.obj body) = .ok none := by
  unfold evaluateLegacySchema
  cases bundle.schemaDocument with
  | none => simp
  | some document =>
    simp only [Option.some.injEq, forall_eq']
    have href : (if 0 ≤ statusCode then bundle.schemaRefs.get? statusCode.toNat else none) =
        statusSchemaRef statusCode bundle := rfl
    rw [href]
    cases statusSchemaRef statusCode bundle with
    | none => by_cases hcontent : statusCode = 204 <;> simp [hcontent]
    | some schemaRef =>
      simp only
      cases validateJsonInstanceAgainstResponseSchema library.schemas library.repr
        "bundled_openapi" document (some schemaRef) none (.obj body) with
      | error error => simp [bind, Except.bind]
      | ok problem => cases problem <;> simp [bind, Except.bind, pure, Except.pure]

/-- A bundle passes when neither its groups nor its schema fail. -/
theorem passesLegacy_iff_parts (bundle : LegacyFcsAssertion) :
    PassesLegacy library statusCode headers body bundle ↔
      evaluateLegacyGroups library bundle statusCode headers body = .ok none ∧
        evaluateLegacySchema library bundle statusCode body = .ok none := by
  unfold PassesLegacy evaluateLegacyFcsAssertion
  cases evaluateLegacyGroups library bundle statusCode headers body with
  | error error => simp [bind, Except.bind]
  | ok failed =>
    cases failed with
    | some message => simp [bind, Except.bind, pure, Except.pure]
    | none =>
      cases evaluateLegacySchema library bundle statusCode body with
      | error error => simp [bind, Except.bind]
      | ok failed => cases failed <;> simp [bind, Except.bind, pure, Except.pure]

/-- A bundle without long integers passes a body without them when it holds. -/
theorem passesLegacy_iff {bundle : LegacyFcsAssertion} (hbundle : HasShortInts bundle)
    (hbody : hasLongInt (.obj body) = false) :
    PassesLegacy library statusCode headers body bundle ↔
      BundleHolds library statusCode headers body bundle := by
  have hdecides : ∀ expectation ∈ bundle.allOf ++ bundle.oneOf ++ bundle.lastIfAll,
      Decides (evaluateLegacyExpectation library statusCode (normalizedHeaders library headers)
        body) (ExpectationHolds library statusCode headers body) expectation :=
    fun expectation hmem => evaluateLegacyExpectation_passes_iff library statusCode headers body
      hbody (hbundle expectation hmem)
  rw [passesLegacy_iff_parts, evaluateLegacyGroups_eq, groupsFailure_eq_none_iff hdecides,
    evaluateLegacySchema_eq_none_iff]
  exact ⟨fun ⟨⟨hallOf, honeOf, hlast⟩, hschema⟩ => ⟨hallOf, honeOf, hlast, hschema⟩,
    fun h => ⟨⟨h.allOf, h.oneOf, h.lastIfAll⟩, h.responseSchema⟩⟩

end Bundles

/-! ## The case of header names -/

section HeaderCase

variable {lower : String → String}

/-- Headers that differ in the case of their names. -/
def SameHeaders (lower : String → String) : List (String × String) → List (String × String) → Prop :=
  List.Forall₂ fun header header' => lower header'.1 = lower header.1 ∧ header'.2 = header.2

/-- Matches that differ in the case of the header names they select. -/
structure SameSelectors (lower : String → String) (legacyMatch legacyMatch' : JsonObject) :
    Prop where
  names : ∀ key ∈ ["header-present", "header"],
    (textField? legacyMatch' key).map lower = (textField? legacyMatch key).map lower
  others : ∀ key, key ∉ ["header-present", "header"] →
    legacyMatch'.lookup key = legacyMatch.lookup key

/-- Matches that are the same, up to the case of header names. -/
def SameMatch (lower : String → String) (legacyMatch legacyMatch' : Json) : Prop :=
  legacyMatch = legacyMatch' ∨ ∃ fields fields', legacyMatch = .obj fields ∧
    legacyMatch' = .obj fields' ∧ SameSelectors lower fields fields'

/-- Expectations that are the same, up to the case of header names. -/
structure SameExpectation (lower : String → String) (expectation expectation' : JsonObject) :
    Prop where
  status : expectation'.lookup "status-code" = expectation.lookup "status-code"
  matchList : expectation'.lookup "matches" = expectation.lookup "matches" ∨
    ∃ legacyMatches legacyMatches', expectation.lookup "matches" = some (.arr legacyMatches) ∧
      expectation'.lookup "matches" = some (.arr legacyMatches') ∧
      List.Forall₂ (SameMatch lower) legacyMatches legacyMatches'

/-- Bundles that are the same, up to the case of header names. -/
structure SameBundle (lower : String → String) (bundle bundle' : LegacyFcsAssertion) : Prop where
  allOf : List.Forall₂ (SameExpectation lower) bundle.allOf bundle'.allOf
  oneOf : List.Forall₂ (SameExpectation lower) bundle.oneOf bundle'.oneOf
  lastIfAll : List.Forall₂ (SameExpectation lower) bundle.lastIfAll bundle'.lastIfAll
  schemaDocument : bundle'.schemaDocument = bundle.schemaDocument
  schemaRefs : bundle'.schemaRefs = bundle.schemaRefs

/-- Related lists satisfy related predicates throughout alike. -/
theorem forall_mem_congr_of_forall₂ {α : Type} {R : α → α → Prop} {p q : α → Prop} {l l' : List α}
    (h : List.Forall₂ R l l') (hpq : ∀ a a', R a a' → (p a ↔ q a')) :
    (∀ a ∈ l, p a) ↔ ∀ a ∈ l', q a := by
  induction h with
  | nil => simp
  | cons hhead _ ih => rw [List.forall_mem_cons, List.forall_mem_cons, ih, hpq _ _ hhead]

/-- Related lists satisfy related predicates somewhere alike. -/
theorem exists_mem_congr_of_forall₂ {α : Type} {R : α → α → Prop} {p q : α → Prop} {l l' : List α}
    (h : List.Forall₂ R l l') (hpq : ∀ a a', R a a' → (p a ↔ q a')) :
    (∃ a ∈ l, p a) ↔ ∃ a ∈ l', q a := by
  induction h with
  | nil => simp
  | cons hhead _ ih =>
    rw [List.exists_mem_cons_iff, List.exists_mem_cons_iff, ih, hpq _ _ hhead]

variable {library : AssertionLibrary} {statusCode : Int} {headers headers' : List (String × String)}
  {body : JsonObject}

/-- The case of header names does not matter when they are normalised. -/
theorem normalizedHeaders_congr (h : SameHeaders library.lower headers headers') :
    normalizedHeaders library headers' = normalizedHeaders library headers := by
  unfold normalizedHeaders
  generalize (Dict.empty : Dict String String) = lowered
  induction h generalizing lowered with
  | nil => rfl
  | cons hhead _ ih =>
    rw [List.foldl_cons, List.foldl_cons, hhead.1, hhead.2, ih]

/-- Nor does it for what a header is. -/
theorem headerIs_congr (h : SameHeaders library.lower headers headers') {name name' value : String}
    (hname : library.lower name' = library.lower name) :
    HeaderIs library headers name value ↔ HeaderIs library headers' name' value := by
  rw [← get?_normalizedHeaders, ← get?_normalizedHeaders, normalizedHeaders_congr h, hname]

/-- Nor does it for selectors. -/
theorem selectorHolds_congr (h : SameHeaders library.lower headers headers')
    {legacyMatch legacyMatch' : JsonObject}
    (hsame : SameSelectors library.lower legacyMatch legacyMatch') :
    SelectorHolds library headers body legacyMatch ↔
      SelectorHolds library headers' body legacyMatch' := by
  have hother (key : String) (hkey : key ∉ ["header-present", "header"]) :
      textField? legacyMatch' key = textField? legacyMatch key := by
    rw [textField?, hsame.others key hkey, textField?]
  have hpresent := hsame.names "header-present" (by decide)
  have hheader := hsame.names "header" (by decide)
  unfold SelectorHolds
  rw [hother "JSON" (by decide), hother "JSON-NOT-PRESENT" (by decide),
    hother "value" (by decide), hsame.others "Value" (by decide)]
  cases htext : textField? legacyMatch "header-present" with
  | some name =>
    rw [htext] at hpresent
    obtain ⟨name', htext', hname⟩ := Option.map_eq_some_iff.mp hpresent
    rw [htext']
    exact exists_congr fun value => headerIs_congr h hname
  | none =>
    rw [htext] at hpresent
    rw [Option.map_eq_none_iff.mp hpresent]
    cases htext : textField? legacyMatch "header" with
    | some name =>
      rw [htext] at hheader
      obtain ⟨name', htext', hname⟩ := Option.map_eq_some_iff.mp hheader
      rw [htext']
      exact exists_congr fun value => and_congr_left fun _ => headerIs_congr h hname
    | none =>
      rw [htext] at hheader
      rw [Option.map_eq_none_iff.mp hheader]
      cases textField? legacyMatch "JSON" <;>
        cases textField? legacyMatch "JSON-NOT-PRESENT" <;> exact Iff.rfl

theorem sameSelectors_refl (legacyMatch : JsonObject) :
    SameSelectors lower legacyMatch legacyMatch :=
  ⟨fun _ _ => rfl, fun _ _ => rfl⟩

/-- Nor does it for matches. -/
theorem matchHolds_congr (h : SameHeaders library.lower headers headers')
    {legacyMatch legacyMatch' : Json} (hsame : SameMatch library.lower legacyMatch legacyMatch') :
    MatchHolds library headers body legacyMatch ↔
      MatchHolds library headers' body legacyMatch' := by
  rcases hsame with rfl | ⟨fields, fields', rfl, rfl, hsame⟩
  · cases legacyMatch with
    | obj fields => exact selectorHolds_congr h (sameSelectors_refl fields)
    | _ => exact Iff.rfl
  · exact selectorHolds_congr h hsame

/-- Nor does it for expectations. -/
theorem expectationHolds_congr (h : SameHeaders library.lower headers headers')
    {expectation expectation' : JsonObject}
    (hsame : SameExpectation library.lower expectation expectation') :
    ExpectationHolds library statusCode headers body expectation ↔
      ExpectationHolds library statusCode headers' body expectation' := by
  have hmatches : (∃ legacyMatches,
        (expectation.lookup "matches").getD (.arr []) = .arr legacyMatches ∧
          ∀ legacyMatch ∈ legacyMatches, MatchHolds library headers body legacyMatch) ↔
      ∃ legacyMatches, (expectation'.lookup "matches").getD (.arr []) = .arr legacyMatches ∧
        ∀ legacyMatch ∈ legacyMatches, MatchHolds library headers' body legacyMatch := by
    rcases hsame.matchList with heq | ⟨legacyMatches, legacyMatches', heq, heq', hall⟩
    · rw [heq]
      exact exists_congr fun _ => and_congr_right fun _ => forall₂_congr fun _ _ =>
        matchHolds_congr h (.inl rfl)
    · rw [heq, heq']
      simp only [Option.getD_some, Json.arr.injEq, exists_eq_left']
      exact forall_mem_congr_of_forall₂ hall fun _ _ => matchHolds_congr h
  constructor
  · rintro ⟨hstatus, hlist⟩
    exact ⟨by rwa [hsame.status], hmatches.mp hlist⟩
  · rintro ⟨hstatus, hlist⟩
    exact ⟨by rwa [hsame.status] at hstatus, hmatches.mpr hlist⟩

/-- What has to hold of the last conditional expectation, split at the end of the list. -/
theorem lastIfAll_congr {p q : JsonObject → Prop} {R : JsonObject → JsonObject → Prop}
    {l l' : List JsonObject} (h : List.Forall₂ R l l') (hpq : ∀ a a', R a a' → (p a ↔ q a'))
    (hlast : ∀ conditions last, l = conditions ++ [last] → conditions ≠ [] →
      (∀ a ∈ conditions, p a) → p last) :
    ∀ conditions last, l' = conditions ++ [last] → conditions ≠ [] →
      (∀ a ∈ conditions, q a) → q last := by
  rintro conditions' last' rfl hne hall
  have hconditions := List.forall₂_take_append l conditions' [last'] h
  have hend := List.forall₂_drop_append l conditions' [last'] h
  obtain ⟨last, rest, hsame, hrest, hdrop⟩ := List.forall₂_cons_right_iff.mp hend
  obtain rfl := List.forall₂_nil_right_iff.mp hrest
  have hsplit : l = l.take conditions'.length ++ [last] := by
    rw [← hdrop, List.take_append_drop]
  refine (hpq _ _ hsame).mp (hlast _ _ hsplit ?_ ?_)
  · intro hnil
    rw [hnil] at hconditions
    exact hne (List.forall₂_nil_left_iff.mp hconditions)
  · exact (forall_mem_congr_of_forall₂ hconditions hpq).mpr hall

/-- Nor does it for bundles. -/
theorem bundleHolds_congr (h : SameHeaders library.lower headers headers')
    {bundle bundle' : LegacyFcsAssertion} (hsame : SameBundle library.lower bundle bundle') :
    BundleHolds library statusCode headers body bundle ↔
      BundleHolds library statusCode headers' body bundle' := by
  have hexpectation (expectation expectation' : JsonObject)
      (h' : SameExpectation library.lower expectation expectation') :
      ExpectationHolds library statusCode headers body expectation ↔
        ExpectationHolds library statusCode headers' body expectation' :=
    expectationHolds_congr h h'
  have hnil : bundle.oneOf = [] ↔ bundle'.oneOf = [] := by
    rw [← List.length_eq_zero_iff, hsame.oneOf.length_eq, List.length_eq_zero_iff]
  have hschema : statusSchemaRef statusCode bundle' = statusSchemaRef statusCode bundle := by
    rw [statusSchemaRef, hsame.schemaRefs, statusSchemaRef]
  have hback := hsame.lastIfAll.flip
  constructor
  · rintro ⟨hallOf, honeOf, hlast, hresponse⟩
    refine ⟨(forall_mem_congr_of_forall₂ hsame.allOf hexpectation).mp hallOf, ?_,
      lastIfAll_congr hsame.lastIfAll hexpectation hlast, ?_⟩
    · exact honeOf.imp hnil.mp (exists_mem_congr_of_forall₂ hsame.oneOf hexpectation).mp
    · rwa [hsame.schemaDocument, hschema]
  · rintro ⟨hallOf, honeOf, hlast, hresponse⟩
    refine ⟨(forall_mem_congr_of_forall₂ hsame.allOf hexpectation).mpr hallOf, ?_,
      lastIfAll_congr hback (fun _ _ h' => (hexpectation _ _ h').symm) hlast, ?_⟩
    · exact honeOf.imp hnil.mpr (exists_mem_congr_of_forall₂ hsame.oneOf hexpectation).mpr
    · rwa [hsame.schemaDocument, hschema] at hresponse

end HeaderCase

/-- A bundle passes when it holds; the case of header names changes nothing, neither in the
    response nor in the bundle; and a path is split into its segments and resolved by the steps
    they denote. -/
theorem legacyRow_meaning (library : AssertionLibrary) (bundle : LegacyFcsAssertion)
    (statusCode : Int) (headers : List (String × String)) (body : JsonObject)
    (hbundle : HasShortInts bundle) (hbody : hasLongInt (.obj body) = false) :
    (PassesLegacy library statusCode headers body bundle ↔
        BundleHolds library statusCode headers body bundle) ∧
      (∀ headers', SameHeaders library.lower headers headers' →
        evaluateLegacyFcsAssertion library bundle statusCode headers' body =
            evaluateLegacyFcsAssertion library bundle statusCode headers body ∧
          ∀ bundle', SameBundle library.lower bundle bundle' → HasShortInts bundle' →
            (PassesLegacy library statusCode headers' body bundle' ↔
              PassesLegacy library statusCode headers body bundle)) ∧
      ∀ segments : List String, segments ≠ [] → (∀ segment ∈ segments, IsPathSegment segment) →
        legacyJsonPathSegments (".".intercalate segments) = segments.map String.toList ∧
          ∃ steps, List.Forall₂ Denotes segments steps ∧
            resolveLegacyJsonPath body (".".intercalate segments) =
              steps.foldl (fun current step => current.bind step.select) (some (.obj body)) := by
  refine ⟨passesLegacy_iff library statusCode headers body hbundle hbody,
    fun headers' hheaders => ⟨?_, fun bundle' hsame hbundle' => ?_⟩, fun segments hne hsegments => ?_⟩
  · simp only [evaluateLegacyFcsAssertion, evaluateLegacyGroups_eq,
      normalizedHeaders_congr hheaders]
  -- both rows come down to the meaning of the bundle
  · rw [passesLegacy_iff library statusCode headers' body hbundle' hbody,
      passesLegacy_iff library statusCode headers body hbundle hbody]
    exact (bundleHolds_congr hheaders hsame).symm
  · obtain ⟨steps, hsteps⟩ := List.exists_forall₂_of_forall fun segment (_ : segment ∈ segments) =>
      exists_denotes segment
    exact ⟨legacyJsonPathSegments_intercalate hne hsegments, steps, hsteps,
      resolveLegacyJsonPath_intercalate hne hsegments hsteps body⟩

/-- A path with a filter, whose value has a dot in it. -/
def accountPath : List String := ["Data", "Account", "#[Kind=\"a.b\"]", "Id"]

def accountBody : JsonObject :=
  [("Data", .obj [("Account", .arr [.obj [("Kind", .str "c"), ("Id", .int 6)],
    .obj [("Kind", .str "a.b"), ("Id", .int 7)]])])]

/-- A row with all three groups, of which one selects a header. -/
def accountRow (name : String) : LegacyFcsAssertion where
  rowKey := "row-2"
  allOf := [[("status-code", .int 200), ("matches", .arr [
    .obj [("JSON", .str (".".intercalate accountPath)), ("Value", .str "7")]])]]
  oneOf := [[("status-code", .int 400)],
    [("matches", .arr [.obj [("header-present", .str name)]])]]
  lastIfAll := [[("status-code", .int 200)],
    [("matches", .arr [.obj [("JSON-NOT-PRESENT", .str "Data.Errors")]])]]

/-- Two rows that write one header name in different cases. -/
theorem sameBundle_accountRow : SameBundle plainLibrary.lower (accountRow "X-Interaction-Id")
    (accountRow "x-interaction-id") := by
  have hsame (expectation : JsonObject) :
      SameExpectation plainLibrary.lower expectation expectation := ⟨rfl, .inl rfl⟩
  refine ⟨.cons (hsame _) .nil, .cons (hsame _) (.cons ⟨rfl, .inr ?_⟩ .nil),
    .cons (hsame _) (.cons (hsame _) .nil), rfl, rfl⟩
  refine ⟨_, _, rfl, rfl, .cons (.inr ⟨_, _, rfl, rfl, by decide +kernel, fun key hkey => ?_⟩)
    .nil⟩
  have hne : key ≠ "header-present" := fun heq => hkey (heq ▸ List.mem_cons_self)
  rw [List.lookup_cons, List.lookup_cons, beq_eq_false_iff_ne.mpr hne]

/-- The segments of the path of that row. -/
theorem isPathSegment_accountPath : ∀ segment ∈ accountPath, IsPathSegment segment := by
  have hfilter : "#[Kind=\"a.b\"]".toList = '#' :: '[' ::
      ((['K', 'i', 'n', 'd', '='] ++ '"' :: (['a', '.', 'b'] ++ ['"'])) ++ [']']) := by
    decide +kernel
  simp only [accountPath, List.forall_mem_cons, List.not_mem_nil, false_imp_iff, implies_true,
    and_true]
  refine ⟨.of_plain (by decide +kernel), .of_plain (by decide +kernel), ?_,
    .of_plain (by decide +kernel)⟩
  rw [IsPathSegment, hfilter]
  -- the dot stands in a quotation, and that in brackets
  have hcontent : PathText true (['K', 'i', 'n', 'd', '='] ++ '"' :: (['a', '.', 'b'] ++ ['"'])) :=
    .char (by decide) (by decide) (.char (by decide) (by decide) (.char (by decide) (by decide)
      (.char (by decide) (by decide) (.char (by decide) (by decide)
        (.quotation (by decide) .nil)))))
  exact .char (by decide) (by decide) (.brackets hcontent .nil)

/-- The row holds whatever the case of the header's name is in it and in the response. -/
theorem legacyRow_meaning_accountRow :
    BundleHolds plainLibrary 200 [("X-Interaction-Id", "1")] accountBody
        (accountRow "X-Interaction-Id") ∧
      evaluateLegacyFcsAssertion plainLibrary (accountRow "X-Interaction-Id") 200
          [("x-INTERACTION-id", "1")] accountBody =
        evaluateLegacyFcsAssertion plainLibrary (accountRow "X-Interaction-Id") 200
          [("X-Interaction-Id", "1")] accountBody ∧
      PassesLegacy plainLibrary 200 [("x-INTERACTION-id", "1")] accountBody
        (accountRow "x-interaction-id") ∧
      legacyJsonPathSegments (".".intercalate accountPath) = accountPath.map String.toList ∧
      resolveLegacyJsonPath accountBody (".".intercalate accountPath) = some (.int 7) ∧
      ∃ steps, List.Forall₂ Denotes accountPath steps ∧
        steps.foldl (fun current step => current.bind step.select) (some (.obj accountBody)) =
          some (.int 7) := by
  have hpasses : PassesLegacy plainLibrary 200 [("X-Interaction-Id", "1")] accountBody
      (accountRow "X-Interaction-Id") := ⟨_, rfl, rfl⟩
  have hresolve : resolveLegacyJsonPath accountBody (".".intercalate accountPath) =
      some (.int 7) := rfl
  have hheaders : SameHeaders plainLibrary.lower [("X-Interaction-Id", "1")]
      [("x-INTERACTION-id", "1")] := .cons ⟨by decide +kernel, rfl⟩ .nil
  obtain ⟨hmeaning, hcase, hpath⟩ := legacyRow_meaning plainLibrary (accountRow "X-Interaction-Id")
    200 [("X-Interaction-Id", "1")] accountBody (by decide +kernel) (by decide +kernel)
  obtain ⟨hsegments, steps, hsteps, heq⟩ := hpath accountPath (by decide)
    isPathSegment_accountPath
  obtain ⟨hsame, hbundles⟩ := hcase _ hheaders
  exact ⟨hmeaning.mp hpasses, hsame,
    (hbundles _ sameBundle_accountRow (by decide +kernel)).mpr hpasses, hsegments, hresolve, steps,
    hsteps, heq.symm.trans hresolve⟩

end Conformance
