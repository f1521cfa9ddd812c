import Conformance.Spec.JsonValueEquality
import Conformance.Native.HttpExchange

/-!
# Responses without a JSON body

`send_json` puts the empty object in place of a body that is not JSON, unless an assertion
of the step is a `json_field` or a `response_schema` assertion. The bundles of the legacy
suite also read the body, but do not count. Under the empty object their `JSON` matches
fail and their `JSON-NOT-PRESENT` matches hold, so that what is left of a bundle is a
condition on the status and the headers, and on what its schema says of the empty object.

## Key results

- `judges_evaluateLegacyExpectation`: an expectation under the empty object
- `evaluateLegacyFcsAssertion_empty_iff`: a bundle under the empty object
- `executeV1Step_accepts_iff`: when a step is passed or passed with a warning
- `missingBodyRejected_iff`: when a body that is not JSON fails a step that inspects it
-/

namespace Conformance

open Except

/-! ## Loops over expectations -/

section Loops

/-- The expectations that an evaluation accepts, and those that it raises on. -/
structure Judges (evaluate : JsonObject → Except PyError (Bool × String))
    (accepts raises : JsonObject → Prop) : Prop where
  accepts_iff : ∀ expectation, (∃ message, evaluate expectation = .ok (true, message)) ↔
    accepts expectation
  raises_iff : ∀ expectation, (∃ error, evaluate expectation = .error error) ↔
    raises expectation

/-- The first expectation that is not accepted is rejected without an exception. -/
def RejectsFirst (accepts raises : JsonObject → Prop) (expectations : List JsonObject) : Prop :=
  ∃ before rejected after, expectations = before ++ rejected :: after ∧
    (∀ expectation ∈ before, accepts expectation) ∧ ¬accepts rejected ∧ ¬raises rejected

/-- An expectation is accepted, and none before it raises. -/
def AcceptsSome (accepts raises : JsonObject → Prop) (expectations : List JsonObject) : Prop :=
  ∃ before accepted after, expectations = before ++ accepted :: after ∧
    (∀ expectation ∈ before, ¬raises expectation) ∧ accepts accepted

variable {evaluate : JsonObject → Except PyError (Bool × String)}
  {accepts raises : JsonObject → Prop}

/-- What is judged is not raised. -/
theorem Judges.not_raises (h : Judges evaluate accepts raises) {expectation : JsonObject}
    {result : Bool × String} (hresult : evaluate expectation = .ok result) :
    ¬raises expectation := fun hraises => by
  obtain ⟨error, herror⟩ := (h.raises_iff expectation).mpr hraises
  rw [hresult] at herror
  cases herror

theorem Judges.not_accepts (h : Judges evaluate accepts raises) {expectation : JsonObject}
    (hresult : ∀ message, evaluate expectation ≠ .ok (true, message)) : ¬accepts expectation :=
  fun haccepts => hresult _ ((h.accepts_iff expectation).mpr haccepts).choose_spec

/-- What an evaluation does with an expectation. -/
theorem Judges.cases (h : Judges evaluate accepts raises) (expectation : JsonObject) :
    (accepts expectation ∧ ¬raises expectation ∧
        ∃ message, evaluate expectation = .ok (true, message)) ∨
      (¬accepts expectation ∧ ¬raises expectation ∧
        ∃ message, evaluate expectation = .ok (false, message)) ∨
      (¬accepts expectation ∧ raises expectation ∧
        ∃ error, evaluate expectation = .error error) := by
  cases hresult : evaluate expectation with
  | ok result =>
    obtain ⟨passed, message⟩ := result
    cases passed with
    | true =>
      exact .inl ⟨(h.accepts_iff _).mp ⟨message, hresult⟩, h.not_raises hresult, message, rfl⟩
    | false =>
      refine .inr (.inl ⟨h.not_accepts fun other hother => ?_, h.not_raises hresult, message, rfl⟩)
      rw [hresult] at hother
      cases hother
  | error error =>
    refine .inr (.inr ⟨h.not_accepts fun other hother => ?_, (h.raises_iff _).mp ⟨error, hresult⟩,
      error, rfl⟩)
    rw [hresult] at hother
    cases hother

/-- The first rejection is the head's or one after a head that is accepted. -/
theorem RejectsFirst.cons_iff {expectation : JsonObject} {rest : List JsonObject} :
    RejectsFirst accepts raises (expectation :: rest) ↔
      (¬accepts expectation ∧ ¬raises expectation) ∨
        (accepts expectation ∧ RejectsFirst accepts raises rest) := by
  constructor
  · rintro ⟨before, rejected, after, hsplit, hbefore, hrejected⟩
    cases before with
    | nil =>
      obtain ⟨rfl, -⟩ := List.cons.inj hsplit
      exact .inl hrejected
    | cons head before =>
      obtain ⟨rfl, rfl⟩ := List.cons.inj hsplit
      obtain ⟨hhead, hbefore⟩ := List.forall_mem_cons.mp hbefore
      exact .inr ⟨hhead, before, rejected, after, rfl, hbefore, hrejected⟩
  · rintro (hrejected | ⟨haccepts, before, rejected, after, rfl, hbefore, hrejected⟩)
    · exact ⟨[], expectation, rest, rfl, by simp, hrejected⟩
    · exact ⟨expectation :: before, rejected, after, rfl,
        List.forall_mem_cons.mpr ⟨haccepts, hbefore⟩, hrejected⟩

/-- Some expectation is accepted: the head, or one after a head that does not raise. -/
theorem AcceptsSome.cons_iff {expectation : JsonObject} {rest : List JsonObject} :
    AcceptsSome accepts raises (expectation :: rest) ↔
      accepts expectation ∨ (¬raises expectation ∧ AcceptsSome accepts raises rest) := by
  constructor
  · rintro ⟨before, accepted, after, hsplit, hbefore, haccepted⟩
    cases before with
    | nil =>
      obtain ⟨rfl, -⟩ := List.cons.inj hsplit
      exact .inl haccepted
    | cons head before =>
      obtain ⟨rfl, rfl⟩ := List.cons.inj hsplit
      obtain ⟨hhead, hbefore⟩ := List.forall_mem_cons.mp hbefore
      exact .inr ⟨hhead, before, accepted, after, rfl, hbefore, haccepted⟩
  · rintro (haccepted | ⟨hraises, before, accepted, after, rfl, hbefore, haccepted⟩)
    · exact ⟨[], expectation, rest, rfl, by simp, haccepted⟩
    · exact ⟨expectation :: before, accepted, after, rfl,
        List.forall_mem_cons.mpr ⟨hraises, hbefore⟩, haccepted⟩

/-- The loop over `all_of` finds no failure. -/
theorem Judges.firstFailure_eq_none (h : Judges evaluate accepts raises)
    (expectations : List JsonObject) :
    firstFailure evaluate expectations = .ok none ↔
      ∀ expectation ∈ expectations, accepts expectation := by
  induction expectations with
  | nil => simp [firstFailure]
  | cons expectation rest ih =>
    rw [List.forall_mem_cons, ← ih]
    rcases h.cases expectation with ⟨haccepts, -, message, hresult⟩ |
      ⟨haccepts, -, message, hresult⟩ | ⟨haccepts, -, error, hresult⟩
    · simp [firstFailure, hresult, haccepts, bind, Except.bind]
    · simp [firstFailure, hresult, haccepts, bind, Except.bind, pure, Except.pure]
    · simp [firstFailure, hresult, haccepts, bind, Except.bind]

/-- The loop over `all_of` finds a failure. -/
theorem Judges.firstFailure_eq_some (h : Judges evaluate accepts raises)
    (expectations : List JsonObject) :
    (∃ message, firstFailure evaluate expectations = .ok (some message)) ↔
      RejectsFirst accepts raises expectations := by
  induction expectations with
  | nil => simp [firstFailure, RejectsFirst]
  | cons expectation rest ih =>
    rw [RejectsFirst.cons_iff, ← ih]
    rcases h.cases expectation with ⟨haccepts, hraises, message, hresult⟩ |
      ⟨haccepts, hraises, message, hresult⟩ | ⟨haccepts, hraises, error, hresult⟩
    · simp [firstFailure, hresult, haccepts, bind, Except.bind]
    · simp [firstFailure, hresult, haccepts, hraises, bind, Except.bind, pure, Except.pure]
    · simp [firstFailure, hresult, haccepts, hraises, bind, Except.bind]

/-- The loop over `one_of` finds an expectation that passes. -/
theorem Judges.anyPasses_eq_true (h : Judges evaluate accepts raises)
    (expectations : List JsonObject) :
    anyPasses evaluate expectations = .ok true ↔ AcceptsSome accepts raises expectations := by
  induction expectations with
  | nil => simp [anyPasses, AcceptsSome]
  | cons expectation rest ih =>
    rw [AcceptsSome.cons_iff, ← ih]
    rcases h.cases expectation with ⟨haccepts, hraises, message, hresult⟩ |
      ⟨haccepts, hraises, message, hresult⟩ | ⟨haccepts, hraises, error, hresult⟩
    · simp [anyPasses, hresult, haccepts, bind, Except.bind, pure, Except.pure]
    · simp [anyPasses, hresult, haccepts, hraises, bind, Except.bind]
    · simp [anyPasses, hresult, haccepts, hraises, bind, Except.bind]

/-- The final expectation of `last_if_all` does not fail. -/
def LastAccepted (accepts raises : JsonObject → Prop) (lastIfAll : List JsonObject) : Prop :=
  ∀ conditions last, lastIfAll = conditions ++ [last] → conditions ≠ [] →
    RejectsFirst accepts raises conditions ∨
      ((∀ expectation ∈ conditions, accepts expectation) ∧ accepts last)

/-- The last group has no failure when its last expectation is accepted. -/
theorem Judges.lastFailure_eq_none (h : Judges evaluate accepts raises)
    (lastIfAll : List JsonObject) :
    lastFailure evaluate lastIfAll = .ok none ↔ LastAccepted accepts raises lastIfAll := by
  rcases List.eq_nil_or_concat lastIfAll with rfl | ⟨conditions, last, rfl⟩
  · simp [lastFailure, LastAccepted]
  -- a list has one last element
  have hsplit (P : List JsonObject → JsonObject → Prop) :
      (∀ others other, conditions ++ [last] = others ++ [other] → P others other) ↔
        P conditions last := by
    constructor
    · exact fun hall => hall conditions last rfl
    · intro hP others other heq
      obtain ⟨rfl, hlast⟩ := List.append_inj' heq rfl
      obtain rfl := List.singleton_inj.mp hlast
      exact hP
  rw [List.concat_eq_append]
  unfold LastAccepted
  rw [hsplit fun conditions last => conditions ≠ [] → RejectsFirst accepts raises conditions ∨
    ((∀ expectation ∈ conditions, accepts expectation) ∧ accepts last)]
  unfold lastFailure
  rw [List.getLast?_concat, List.dropLast_concat]
  -- one condition alone is not looked at
  by_cases hnil : conditions = []
  · simp [hnil]
  have hlength : (conditions ++ [last]).length > 1 := by
    have := List.length_pos_iff.mpr hnil
    simp
    omega
  simp only [if_pos hlength, ne_eq, hnil, not_false_eq_true, forall_const]
  rw [← h.firstFailure_eq_some, ← h.firstFailure_eq_none conditions]
  have hlast := h.firstFailure_eq_none [last]
  rw [List.forall_mem_singleton] at hlast
  cases hfirst : firstFailure evaluate conditions with
  | error error => simp [bind, Except.bind]
  | ok failed =>
    cases failed with
    | some message => simp [bind, Except.bind, pure, Except.pure]
    | none => simp [bind, Except.bind, hlast]

/-- The three groups of a bundle, by an evaluation of expectations. -/
def groupsFailure (evaluate : JsonObject → Except PyError (Bool × String))
    (bundle : LegacyFcsAssertion) : Except PyError (Option String) := do
  let failed ← firstFailure evaluate bundle.allOf
  if failed.isSome then return failed
  else
    let matched ← if bundle.oneOf = [] then .ok true else anyPasses evaluate bundle.oneOf
    if matched = false then return some "no one-of expectation matched"
    else lastFailure evaluate bundle.lastIfAll

/-- A bundle has no failure when each of its groups is accepted. -/
theorem Judges.groupsFailure_eq_none (h : Judges evaluate accepts raises)
    (bundle : LegacyFcsAssertion) :
    groupsFailure evaluate bundle = .ok none ↔
      (∀ expectation ∈ bundle.allOf, accepts expectation) ∧
        (bundle.oneOf = [] ∨ AcceptsSome accepts raises bundle.oneOf) ∧
          LastAccepted accepts raises bundle.lastIfAll := by
  rw [← h.firstFailure_eq_none, ← h.anyPasses_eq_true, ← h.lastFailure_eq_none]
  unfold groupsFailure
  cases firstFailure evaluate bundle.allOf with
  | error error => simp [bind, Except.bind]
  | ok failed =>
    cases failed with
    | some message => simp [bind, Except.bind, pure, Except.pure]
    | none =>
      by_cases hnone : bundle.oneOf = []
      · simp [hnone, bind, Except.bind]
      · cases anyPasses evaluate bundle.oneOf with
        | error error => simp [hnone, bind, Except.bind]
        | ok matched => cases matched <;> simp [hnone, bind, Except.bind, pure, Except.pure]

end Loops

/-! ## The empty object -/

/-- No path leads anywhere from the empty object. -/
theorem resolveLegacyJsonPath_nil (path : String) : resolveLegacyJsonPath [] path = none := by
  have hnone (segments : List (List Char)) : segments.foldl resolveLegacySegment none = none := by
    induction segments with
    | nil => rfl
    | cons segment rest ih => exact ih
  have hfirst (segment : List Char) : resolveLegacySegment (some (.obj [])) segment = none := by
    unfold resolveLegacySegment
    split <;> simp_all
  unfold resolveLegacyJsonPath
  cases hsegments : legacyJsonPathSegments path with
  | nil => simp [legacyJsonPathSegments] at hsegments
  | cons segment rest => rw [List.foldl_cons, hfirst, hnone]

section Expectations

variable (library : AssertionLibrary) (statusCode : Int) (headers : Dict String String)

/-- A selector that does not need a body: its header is there, or a field has to be absent. -/
def SelectorHoldsBodyless (legacyMatch : JsonObject) : Prop :=
  match textField? legacyMatch "header-present", textField? legacyMatch "header" with
  | some name, _ => headers.contains (library.lower name) = true
  | none, some name => (evaluateLegacyHeader library legacyMatch name headers).1 = true
  | none, none => textField? legacyMatch "JSON" = none ∧
    (textField? legacyMatch "JSON-NOT-PRESENT").isSome

/-- A match with such a selector. -/
def MatchHoldsBodyless : Json → Prop
  | .obj legacyMatch => SelectorHoldsBodyless library headers legacyMatch
  | _ => False

/-- An expectation of this status whose matches do not need a body. -/
structure HoldsBodyless (expectation : JsonObject) : Prop where
  status : ∀ expected, expectedStatus? ((expectation.lookup "status-code").getD .null) =
    some expected → expected = statusCode
  matchList : ∃ legacyMatches, (expectation.lookup "matches").getD (.arr []) = .arr legacyMatches ∧
    ∀ legacyMatch ∈ legacyMatches, MatchHoldsBodyless library headers legacyMatch

/-- An expectation of another status, with too many digits for a message. -/
def HasLongStatus (expectation : JsonObject) : Prop :=
  ∃ expected, expectation.lookup "status-code" = some (.int expected) ∧ expected ≠ statusCode ∧
    (Nat.toDigits 10 expected.natAbs).length > maxIntDigits

/-- A match under the empty object; it raises nothing. -/
theorem evaluateLegacyMatch_nil (legacyMatch : JsonObject) :
    ∃ passed message, evaluateLegacyMatch library legacyMatch headers [] = .ok (passed, message) ∧
      (passed = true ↔ SelectorHoldsBodyless library headers legacyMatch) := by
  unfold evaluateLegacyMatch SelectorHoldsBodyless
  cases textField? legacyMatch "header-present" with
  | some name =>
    by_cases hcontains : headers.contains (library.lower name) = true <;> simp [hcontains]
  | none =>
    cases textField? legacyMatch "header" with
    | some name => exact ⟨_, _, rfl, Iff.rfl⟩
    | none =>
      cases textField? legacyMatch "JSON" with
      | some path => simp [evaluateLegacyJson, resolveLegacyJsonPath_nil]
      | none =>
        cases textField? legacyMatch "JSON-NOT-PRESENT" <;> simp [resolveLegacyJsonPath_nil]

/-- When matches pass without a body. -/
theorem evaluateLegacyMatches_nil (legacyMatches : List Json) :
    ∃ passed message, evaluateLegacyMatches library headers [] legacyMatches =
        .ok (passed, message) ∧
      (passed = true ↔ ∀ legacyMatch ∈ legacyMatches,
        MatchHoldsBodyless library headers legacyMatch) := by
  induction legacyMatches with
  | nil => exact ⟨true, _, rfl, by simp⟩
  | cons legacyMatch rest ih =>
    rw [List.forall_mem_cons]
    cases legacyMatch with
    | obj legacyMatch =>
      obtain ⟨passed, message, hmatch, hholds⟩ :=
        evaluateLegacyMatch_nil library headers legacyMatch
      rw [evaluateLegacyMatches, hmatch, MatchHoldsBodyless, ← hholds]
      cases passed with
      | true =>
        obtain ⟨passed, message, hrest, hall⟩ := ih
        exact ⟨passed, message, hrest, by simpa using hall⟩
      | false => exact ⟨false, message, rfl, by simp⟩
    | null | bool | int | float | str | arr =>
      exact ⟨false, _, rfl, by simp [MatchHoldsBodyless]⟩

/-- Writing an integer fails exactly when it has too many digits. -/
theorem intText_raises_iff {n : Int} :
    (∃ error, intText n = .error error) ↔ (Nat.toDigits 10 n.natAbs).length > maxIntDigits := by
  unfold intText dumpInt
  by_cases hlong : (Nat.toDigits 10 n.natAbs).length > maxIntDigits
  · simp [hlong, bind, Except.bind]
  · simp [hlong, bind, Except.bind, pure, Except.pure]

/-- So does writing an expected status. -/
theorem expectedStatusText_raises_iff {expected : Json} :
    (∃ error, expectedStatusText expected = .error error) ↔
      ∃ n, expected = .int n ∧ (Nat.toDigits 10 n.natAbs).length > maxIntDigits := by
  cases expected with
  | int n => simpa [expectedStatusText] using @intText_raises_iff n
  | null | bool | float | str | arr | obj => simp [expectedStatusText]

/-- An expectation of the status under the empty object. -/
theorem evaluateLegacyExpectation_nil {expectation : JsonObject}
    (hstatus : ∀ expected, expectedStatus? ((expectation.lookup "status-code").getD .null) =
      some expected → expected = statusCode) :
    ∃ passed message, evaluateLegacyExpectation library statusCode headers [] expectation =
        .ok (passed, message) ∧
      (passed = true ↔ HoldsBodyless library statusCode headers expectation) := by
  have hsame : ¬(expectedStatus? ((expectation.lookup "status-code").getD .null)).any
      (· ≠ statusCode) = true := by
    simpa [Option.any_eq_true] using hstatus
  unfold evaluateLegacyExpectation
  simp only [if_neg hsame]
  cases hlist : (expectation.lookup "matches").getD (.arr []) with
  | arr legacyMatches =>
    obtain ⟨passed, message, hresult, hall⟩ :=
      evaluateLegacyMatches_nil library headers legacyMatches
    refine ⟨passed, message, hresult, hall.trans ⟨fun h => ⟨hstatus, legacyMatches, hlist, h⟩,
      fun h => ?_⟩⟩
    obtain ⟨_, hother, h⟩ := h.matchList
    obtain rfl := Json.arr.inj (hlist.symm.trans hother)
    exact h
  | null | bool | int | float | str | obj =>
    refine ⟨false, _, rfl, iff_of_false (by simp) fun h => ?_⟩
    obtain ⟨_, hother, -⟩ := h.matchList
    rw [hlist] at hother
    cases hother

/-- An expectation of another status is rejected, or raises over its message. -/
theorem evaluateLegacyExpectation_other (body : JsonObject) {expectation : JsonObject}
    {expected : Int}
    (hexpected : expectedStatus? ((expectation.lookup "status-code").getD .null) = some expected)
    (hother : expected ≠ statusCode) :
    (∀ message, evaluateLegacyExpectation library statusCode headers body expectation ≠
        .ok (true, message)) ∧
      ((∃ error, evaluateLegacyExpectation library statusCode headers body expectation =
          .error error) ↔ HasLongStatus statusCode expectation) := by
  have hdiffers : (expectedStatus? ((expectation.lookup "status-code").getD .null)).any
      (· ≠ statusCode) = true := by
    simp [hexpected, hother]
  -- the message writes the expected status, which may have too many digits
  have hlong : HasLongStatus statusCode expectation ↔
      ∃ error, expectedStatusText ((expectation.lookup "status-code").getD .null) =
        .error error := by
    rw [expectedStatusText_raises_iff]
    constructor
    · rintro ⟨n, hlookup, -, hlong⟩
      exact ⟨n, by rw [hlookup, Option.getD_some], hlong⟩
    · rintro ⟨n, hn, hlong⟩
      rw [hn] at hexpected
      obtain rfl := Option.some.inj hexpected
      cases hlookup : expectation.lookup "status-code" with
      | none =>
        rw [hlookup] at hn
        cases hn
      | some value =>
        rw [hlookup, Option.getD_some] at hn
        exact ⟨n, by rw [hlookup, hn], hother, hlong⟩
  unfold evaluateLegacyExpectation
  simp only [if_pos hdiffers]
  rw [hlong]
  cases expectedStatusText ((expectation.lookup "status-code").getD .null) with
  | ok text => simp [bind, Except.bind, pure, Except.pure]
  | error error => simp [bind, Except.bind]

/-- An expectation under the empty object. -/
theorem judges_evaluateLegacyExpectation :
    Judges (evaluateLegacyExpectation library statusCode headers [])
      (HoldsBodyless library statusCode headers) (HasLongStatus statusCode) := by
  have hjudge (expectation : JsonObject) :
      ((∃ message, evaluateLegacyExpectation library statusCode headers [] expectation =
          .ok (true, message)) ↔ HoldsBodyless library statusCode headers expectation) ∧
        ((∃ error, evaluateLegacyExpectation library statusCode headers [] expectation =
          .error error) ↔ HasLongStatus statusCode expectation) := by
    by_cases hstatus : ∀ expected,
        expectedStatus? ((expectation.lookup "status-code").getD .null) = some expected →
          expected = statusCode
    · obtain ⟨passed, message, hresult, hholds⟩ :=
        evaluateLegacyExpectation_nil library statusCode headers hstatus
      rw [hresult]
      refine ⟨?_, iff_of_false (by simp) ?_⟩
      · cases passed <;> simpa using hholds
      · rintro ⟨expected, hlookup, hother, -⟩
        exact hother (hstatus expected (by rw [hlookup]; rfl))
    · push Not at hstatus
      obtain ⟨expected, hexpected, hother⟩ := hstatus
      obtain ⟨hfails, hraises⟩ := evaluateLegacyExpectation_other library statusCode headers []
        hexpected hother
      refine ⟨iff_of_false (fun h => hfails _ h.choose_spec) fun h => ?_, hraises⟩
      exact hother (h.status expected hexpected)
  exact ⟨fun expectation => (hjudge expectation).1, fun expectation => (hjudge expectation).2⟩

end Expectations

/-! ## Assertions -/

section Assertions

variable (library : AssertionLibrary) (statusCode : Int) (headers : List (String × String))

/-- The headers under their names in lower case, as a bundle reads them. -/
def normalizedHeaders : Dict String String :=
  headers.foldl (fun lowered header => lowered.set (library.lower header.1) header.2) Dict.empty

/-- The groups of a bundle are evaluated one by one. -/
theorem evaluateLegacyGroups_eq (bundle : LegacyFcsAssertion) (body : JsonObject) :
    evaluateLegacyGroups library bundle statusCode headers body =
      groupsFailure (evaluateLegacyExpectation library statusCode
        (normalizedHeaders library headers) body) bundle := rfl

/-- The expectations of a bundle hold without a body. -/
structure GroupsHoldBodyless (bundle : LegacyFcsAssertion) : Prop where
  allOf : ∀ expectation ∈ bundle.allOf,
    HoldsBodyless library statusCode (normalizedHeaders library headers) expectation
  oneOf : bundle.oneOf = [] ∨
    AcceptsSome (HoldsBodyless library statusCode (normalizedHeaders library headers))
      (HasLongStatus statusCode) bundle.oneOf
  lastIfAll : LastAccepted (HoldsBodyless library statusCode (normalizedHeaders library headers))
    (HasLongStatus statusCode) bundle.lastIfAll

/-- The schema reference of a bundle for a status. -/
def statusSchemaRef (bundle : LegacyFcsAssertion) : Option String :=
  if 0 ≤ statusCode then bundle.schemaRefs.get? statusCode.toNat else none

/-- The schema of a bundle accepts the empty object. -/
def SchemaAcceptsEmpty (bundle : LegacyFcsAssertion) : Prop :=
  ∀ document, bundle.schemaDocument = some document →
    ∃ schemaRef, statusSchemaRef statusCode bundle = some schemaRef ∧
      validateJsonInstanceAgainstResponseSchema library.schemas library.repr "bundled_openapi"
        document (some schemaRef) none (.obj []) = .ok none

/-- An assertion that a response without a JSON body satisfies. -/
def AcceptsBodyless : ManifestAssertion → Prop
  | .httpStatus assertion => (evaluateHttpStatus assertion statusCode).passed = true
  | .header assertion => (evaluateHeader library assertion headers).passed = true
  | .legacyFcs bundle =>
    GroupsHoldBodyless library statusCode headers bundle ∧
      SchemaAcceptsEmpty library statusCode bundle
  | .jsonField _ | .responseSchema _ => False

/-- When the groups of a bundle accept an empty body. -/
theorem evaluateLegacyGroups_empty_iff (bundle : LegacyFcsAssertion) :
    evaluateLegacyGroups library bundle statusCode headers [] = .ok none ↔
      GroupsHoldBodyless library statusCode headers bundle := by
  rw [evaluateLegacyGroups_eq]
  exact ((judges_evaluateLegacyExpectation library statusCode _).groupsFailure_eq_none bundle).trans
    ⟨fun h => ⟨h.1, h.2.1, h.2.2⟩, fun h => ⟨h.allOf, h.oneOf, h.lastIfAll⟩⟩

/-- When the schema of a bundle accepts an empty body. -/
theorem evaluateLegacySchema_empty_iff (hcontent : statusCode ≠ 204)
    (bundle : LegacyFcsAssertion) :
    evaluateLegacySchema library bundle statusCode [] = .ok none ↔
      SchemaAcceptsEmpty library statusCode bundle := by
  unfold evaluateLegacySchema SchemaAcceptsEmpty
  cases bundle.schemaDocument with
  | none => simp
  | some document =>
    simp only [Option.some.injEq, forall_eq']
    have href : (if 0 ≤ statusCode then bundle.schemaRefs.get? statusCode.toNat else none) =
        statusSchemaRef statusCode bundle := rfl
    rw [href]
    cases statusSchemaRef statusCode bundle with
    | none => simp [hcontent]
    | some schemaRef =>
      simp only [Option.some.injEq, exists_eq_left']
      cases validateJsonInstanceAgainstResponseSchema library.schemas library.repr
        "bundled_openapi" document (some schemaRef) none (.obj []) with
      | error error => simp [bind, Except.bind]
      | ok problem => cases problem <;> simp [bind, Except.bind, pure, Except.pure]

/-- A bundle under the empty object. -/
theorem evaluateLegacyFcsAssertion_empty_iff (hcontent : statusCode ≠ 204)
    (bundle : LegacyFcsAssertion) :
    (∃ message, evaluateLegacyFcsAssertion library bundle statusCode headers [] =
        .ok ⟨true, message⟩) ↔
      GroupsHoldBodyless library statusCode headers bundle ∧
        SchemaAcceptsEmpty library statusCode bundle := by
  rw [← evaluateLegacyGroups_empty_iff, ← evaluateLegacySchema_empty_iff _ _ hcontent]
  unfold evaluateLegacyFcsAssertion
  cases evaluateLegacyGroups library bundle statusCode headers [] with
  | error error => simp [bind, Except.bind]
  | ok failed =>
    cases failed with
    | some message => simp [bind, Except.bind, pure, Except.pure]
    | none =>
      cases evaluateLegacySchema library bundle statusCode [] with
      | error error => simp [bind, Except.bind]
      | ok problem => cases problem <;> simp [bind, Except.bind, pure, Except.pure]

/-- An assertion that does not make the step require JSON, under the empty object. -/
theorem evaluateAssertion_empty_iff (hcontent : statusCode ≠ 204) {assertion : ManifestAssertion}
    (hnone : assertionsRequireJsonBody [assertion] = false) :
    (∃ message, evaluateAssertion library assertion statusCode headers [] =
        .ok ⟨true, message⟩) ↔
      AcceptsBodyless library statusCode headers assertion := by
  have hresult (result : AssertionResult) :
      (∃ message, (.ok result : Except PyError AssertionResult) = .ok ⟨true, message⟩) ↔
        result.passed = true := by
    obtain ⟨passed, message⟩ := result
    simp
  cases assertion with
  | httpStatus assertion => exact hresult _
  | header assertion => exact hresult _
  | legacyFcs bundle => exact evaluateLegacyFcsAssertion_empty_iff _ _ _ hcontent bundle
  | jsonField | responseSchema => cases hnone

end Assertions

/-! ## Steps -/

section Step

variable {external : ExternalParsers} (services : HttpServices external)
  (manifestStep : ManifestStep (requestParsers external)) (context : ExecutionContext)

/-- An outcome that is passed, or passed with a warning. -/
def StepOutcome.Accepts (outcome : StepOutcome) : Prop :=
  outcome.status = .passed ∨ outcome.status = .warn

/-- An exchange with such an outcome. -/
def Exchange.Accepts : Except PyError Exchange → Prop
  | .ok (.failed outcome) | .ok (.answered _ outcome) => outcome.Accepts
  | .error _ => False

/-- A step with such an outcome. -/
def StepReturn.Accepts (result : StepReturn) : Prop :=
  ∃ outcome context', result = .ok (outcome, context') ∧ outcome.Accepts

/-- The body that is sent: JSON before a form. -/
def sentBody (body : Option ManifestBody) (form : Option (List (String × String))) :
    Option ManifestBody :=
  match jsonBody body, form with
  | some value, _ => some (.json value)
  | none, some fields => some (.form fields)
  | none, none => none

/-- The request of a step is resolved, signed and authenticated. -/
structure Requested (prepared : PreparedRequest) (headers form : Option (List (String × String))) :
    Prop where
  resolved : prepareRequest services.transport manifestStep context = .ok prepared
  signed : services.maybeApplyObDetachedJws manifestStep prepared.url prepared.headers
    (jsonBody prepared.body) = .value headers
  authenticated : services.applyTokenEndpointAuthPolicy manifestStep (formBody prepared.body)
    prepared.url = .value form

/-- The signature of a response is accepted, and all assertions pass on it. -/
structure Checked (response : JsonHttpResponse) : Prop where
  signature : ∃ signature,
    services.validateResponseSignature manifestStep response context = .value signature
  assertions : ∀ assertion ∈ manifestStep.assertions,
    ∃ message, services.evaluateAssertion assertion response = .ok ⟨true, message⟩

variable {services manifestStep context}

/-- A failed step accepts nothing. -/
theorem failedStep_not_accepts {message url : String} {statusCode : Option Int}
    {requestEvidence : JsonObject} {responseEvidence : Option JsonObject} :
    ¬(failedStep message url statusCode requestEvidence responseEvidence).Accepts := by
  simp [failedStep, StepOutcome.Accepts, attachEvidence]

/-- A step accepts exactly when all its assertions pass. -/
theorem buildAssertionStep_accepts_iff {name : String} {results : List AssertionResult}
    {warning : Option String} {response : JsonHttpResponse} :
    (buildAssertionStep name results warning response).Accepts ↔
      ∀ result ∈ results, result.passed = true := by
  rw [← List.all_eq_true]
  unfold buildAssertionStep StepOutcome.Accepts
  cases results.all (·.passed) <;> cases warning <;> simp

/-- The results of a list of evaluations all pass when each of them does. -/
theorem mapM_pass_iff {α : Type} {evaluate : α → Except PyError AssertionResult}
    {assertions : List α} :
    (∃ results, assertions.mapM evaluate = .ok results ∧
        ∀ result ∈ results, result.passed = true) ↔
      ∀ assertion ∈ assertions, ∃ message, evaluate assertion = .ok ⟨true, message⟩ := by
  simp only [List.mapM_eq_ok]
  constructor
  · rintro ⟨results, hresults, hpassed⟩ assertion hassertion
    obtain ⟨⟨passed, message⟩, hmem, hresult⟩ := hresults.exists_of_mem_left hassertion
    obtain rfl : passed = true := hpassed _ hmem
    exact ⟨message, hresult⟩
  · intro hall
    obtain ⟨results, hresults⟩ := List.exists_mapM_eq_ok.mpr fun assertion hassertion =>
      let ⟨message, hresult⟩ := hall assertion hassertion
      ⟨(⟨true, message⟩ : AssertionResult), hresult⟩
    rw [List.mapM_eq_ok] at hresults
    refine ⟨results, hresults, fun result hresult => ?_⟩
    obtain ⟨assertion, hassertion, heval⟩ := hresults.exists_of_mem_right hresult
    obtain ⟨message, hpass⟩ := hall assertion hassertion
    obtain rfl := Except.ok.inj (hpass.symm.trans heval)
    rfl

/-- The assertions pass exactly when each of them does. -/
theorem evaluateAssertions_pass_iff {response : JsonHttpResponse} :
    (∃ results, evaluateAssertions services manifestStep response = .ok results ∧
        ∀ result ∈ results, result.passed = true) ↔
      ∀ assertion ∈ manifestStep.assertions,
        ∃ message, services.evaluateAssertion assertion response = .ok ⟨true, message⟩ :=
  mapM_pass_iff

/-- A response is accepted exactly when it is checked. -/
theorem checkResponse_accepts_iff {url : String} {requestEvidence : JsonObject}
    {response : JsonHttpResponse} {log : List ExecutionEvent} :
    Exchange.Accepts (checkResponse services manifestStep url requestEvidence context response
        log).1 ↔ Checked services manifestStep context response := by
  have hchecked : Checked services manifestStep context response ↔ _ ∧ _ :=
    ⟨fun h => ⟨h.signature, h.assertions⟩, fun h => ⟨h.1, h.2⟩⟩
  rw [hchecked, ← evaluateAssertions_pass_iff]
  unfold checkResponse
  cases services.validateResponseSignature manifestStep response context with
  | raised error => exact iff_of_false id (by simp)
  | caught message => exact iff_of_false failedStep_not_accepts (by simp)
  | value signature =>
    cases hresults : evaluateAssertions services manifestStep response with
    | error error => exact iff_of_false id (by simp)
    | ok results =>
      refine buildAssertionStep_accepts_iff.trans ⟨fun h => ⟨⟨_, rfl⟩, results, rfl, h⟩, ?_⟩
      rintro ⟨-, others, hothers, h⟩
      obtain rfl := Except.ok.inj hothers
      exact h

/-- A request is accepted when its response is. -/
theorem sendRequest_accepts_iff {url : String} {headers : Option (List (String × String))}
    {body : Option ManifestBody} {requestEvidence : JsonObject} {log : List ExecutionEvent} :
    Exchange.Accepts (sendRequest services manifestStep url headers body requestEvidence context
        log).1 ↔
      ∃ response, sendJson url (!services.assertionsRequireJsonBody manifestStep.assertions)
          (services.request (manifestStep.request : ManifestRequest).method url headers body) =
            .response response ∧
        Checked services manifestStep context response := by
  unfold sendRequest
  simp only
  cases sendJson url (!services.assertionsRequireJsonBody manifestStep.assertions)
      (services.request (manifestStep.request : ManifestRequest).method url headers body) with
  | raised error => exact iff_of_false id (by simp)
  | clientError message statusCode => exact iff_of_false failedStep_not_accepts (by simp)
  | response response => simp [checkResponse_accepts_iff]

/-- An exchange is accepted when its request can be made and is accepted. -/
theorem exchangeHttp_accepts_iff {prepared : PreparedRequest} {log : List ExecutionEvent} :
    Exchange.Accepts (exchangeHttp services manifestStep prepared.url prepared.headers
        prepared.body prepared.evidence context log).1 ↔
      ∃ headers form response,
        services.maybeApplyObDetachedJws manifestStep prepared.url prepared.headers
            (jsonBody prepared.body) = .value headers ∧
          services.applyTokenEndpointAuthPolicy manifestStep (formBody prepared.body)
            prepared.url = .value form ∧
          sendJson prepared.url (!services.assertionsRequireJsonBody manifestStep.assertions)
            (services.request (manifestStep.request : ManifestRequest).method prepared.url headers
              (sentBody prepared.body form)) = .response response ∧
          Checked services manifestStep context response := by
  unfold exchangeHttp
  cases services.maybeApplyObDetachedJws manifestStep prepared.url prepared.headers
      (jsonBody prepared.body) with
  | raised error => exact iff_of_false id (by simp)
  | caught message => exact iff_of_false failedStep_not_accepts (by simp)
  | value headers =>
    simp only
    cases services.applyTokenEndpointAuthPolicy manifestStep (formBody prepared.body)
        prepared.url with
    | raised error => exact iff_of_false id (by simp)
    | caught message => exact iff_of_false failedStep_not_accepts (by simp)
    | value form =>
      unfold sentBody
      cases jsonBody prepared.body with
      | some value => simp [sendRequest_accepts_iff]
      | none => cases form <;> simp [sendRequest_accepts_iff]

/-- The returns of a step that sent nothing and is not skipped or failed: there are none. -/
theorem returnWithoutResponse_not_accepts (status : CheckStatus) (hstatus : status ≠ .passed)
    (hwarn : status ≠ .warn) (message : String) (context : ExecutionContext)
    (stepId method url : String) (evidence : JsonObject) :
    ¬StepReturn.Accepts
      (returnWithoutResponse status message context stepId method url evidence) := by
  rintro ⟨outcome, context', hreturn, haccepts⟩
  obtain ⟨rfl, -⟩ := Prod.mk.inj (Except.ok.inj hreturn)
  exact haccepts.elim hstatus hwarn

theorem raised_not_accepts (error : PyError) : ¬StepReturn.Accepts (.error error) := by
  rintro ⟨_, _, hreturn, -⟩
  cases hreturn

/-- A placeholder that is not resolved is not accepted. -/
theorem orReturn_not_accepts {α : Type} (resolved : Except PlaceholderError α)
    (context : ExecutionContext) (stepId method url : String) (evidence : JsonObject) :
    RaisesOnly (fun result => ¬StepReturn.Accepts result)
      (orReturn resolved (returnUnresolved context stepId method url evidence)) := by
  cases resolved with
  | ok value => exact .ok value
  | error error =>
    refine .error ?_
    unfold returnUnresolved
    split <;> exact returnWithoutResponse_not_accepts _ (by decide) (by decide) _ _ _ _ _ _

/-- A request that cannot be prepared does not end in such an outcome. -/
theorem prepareRequest_not_accepts (transport : StepTransport external) :
    RaisesOnly (fun result => ¬StepReturn.Accepts result)
      (prepareRequest transport manifestStep context) := by
  have hfailed := returnWithoutResponse_not_accepts .failed (by decide) (by decide)
  refine .bind (orReturn_not_accepts _ _ _ _ _ _) fun url _ =>
    .bind (orReturn_not_accepts _ _ _ _ _ _) fun headers _ =>
    .bind (List.raisesOnly_forM fun header _ => ?_) fun _ _ =>
    .bind (orReturn_not_accepts _ _ _ _ _ _) fun body _ =>
    .bind ?_ fun _ _ => .ok _
  · unfold checkResolvedHeader
    split
    · exact .ok ()
    · exact .error (hfailed _ _ _ _ _ _)
    · exact .error (raised_not_accepts _)
  · unfold checkUrlOrReturn
    split
    · exact .ok ()
    · exact .error (hfailed _ _ _ _ _ _)
    · exact .error (raised_not_accepts _)

/-- A step is passed, or passed with a warning, when its request goes out, a response is made
    of the answer, and the checks of the response hold. -/
theorem executeV1Step_accepts_iff {log : List ExecutionEvent} :
    StepReturn.Accepts (executeV1Step services.transport manifestStep context log).1 ↔
      ∃ prepared headers form response,
        Requested services manifestStep context prepared headers form ∧
          sendJson prepared.url (!services.assertionsRequireJsonBody manifestStep.assertions)
            (services.request (manifestStep.request : ManifestRequest).method prepared.url headers
              (sentBody prepared.body form)) = .response response ∧
          Checked services manifestStep context response := by
  -- past the preparation, the step is its exchange
  have hexchange (prepared : PreparedRequest)
      (hprepared : prepareRequest services.transport manifestStep context = .ok prepared) :
      StepReturn.Accepts (executeV1Step services.transport manifestStep context log).1 ↔
        Exchange.Accepts (exchangeHttp services manifestStep prepared.url prepared.headers
          prepared.body prepared.evidence context log).1 := by
    have hresult (outcome : StepOutcome) (context' : ExecutionContext) :
        StepReturn.Accepts (.ok (outcome, context')) ↔ outcome.Accepts := by
      simp [StepReturn.Accepts]
    unfold executeV1Step
    rw [hprepared]
    simp only
    split <;> rename_i hend <;> rw [show exchangeHttp services manifestStep prepared.url
      prepared.headers prepared.body prepared.evidence context log = _ from hend]
    · exact iff_of_false (raised_not_accepts _) id
    · exact hresult _ _
    · exact hresult _ _
  cases hprepared : prepareRequest services.transport manifestStep context with
  | error returned =>
    refine iff_of_false ?_ ?_
    · unfold executeV1Step
      rw [hprepared]
      exact prepareRequest_not_accepts _ _ hprepared
    · rintro ⟨prepared, _, _, _, hrequested, -⟩
      cases hprepared.symm.trans hrequested.resolved
  | ok prepared =>
    rw [hexchange prepared hprepared, exchangeHttp_accepts_iff]
    constructor
    · rintro ⟨headers, form, response, hsigned, hauth, hsent, hchecked⟩
      exact ⟨prepared, headers, form, response, ⟨hprepared, hsigned, hauth⟩, hsent, hchecked⟩
    · rintro ⟨other, headers, form, response, hrequested, hsent, hchecked⟩
      obtain rfl := Except.ok.inj (hprepared.symm.trans hrequested.resolved)
      exact ⟨headers, form, response, hrequested.signed, hrequested.authenticated, hsent, hchecked⟩

end Step

/-! ## Bodies that are not JSON -/

section MissingBody

/-- A match of the body. -/
def ReadsBody : Json → Prop
  | .obj legacyMatch =>
    (textField? legacyMatch "JSON").isSome ∨ (textField? legacyMatch "JSON-NOT-PRESENT").isSome
  | _ => False

/-- An expectation with a match of the body. -/
def ExpectsBody (expectation : JsonObject) : Prop :=
  ∃ legacyMatches, expectation.lookup "matches" = some (.arr legacyMatches) ∧
    ∃ legacyMatch ∈ legacyMatches, ReadsBody legacyMatch

/-- An assertion that inspects the body of a response with a status. -/
def InspectsBody (statusCode : Int) : ManifestAssertion → Prop
  | .jsonField _ | .responseSchema _ => True
  | .legacyFcs bundle =>
    (∃ expectation ∈ bundle.allOf ++ bundle.oneOf ++ bundle.lastIfAll, ExpectsBody expectation) ∨
      (statusSchemaRef statusCode bundle).isSome
  | .httpStatus _ | .header _ => False

/-- The services where the request of the step is answered, without a JSON body. -/
def HttpServices.answeringBodyless {external : ExternalParsers} (services : HttpServices external)
    (url : String) (statusCode : Int) (headers : List (String × String)) :
    HttpServices external :=
  { services with request := fun _ _ _ _ => .response url statusCode headers none }

/-- A step that inspects the body is neither passed nor passed with a warning on a response
    without a JSON body. -/
def RejectsMissingBody {urls : UrlText} {repr : Json → String}
    (services : HttpServices (manifestParsers urls repr)) (library : AssertionLibrary)
    (manifestStep : ManifestStep (requestParsers (manifestParsers urls repr)))
    (context : ExecutionContext) (url : String) (statusCode : Int)
    (headers : List (String × String)) : Prop :=
  statusCode ∉ [204, 205, 304] →
    (∃ assertion ∈ manifestStep.assertions, InspectsBody statusCode assertion) →
      ∀ log, ¬StepReturn.Accepts (executeV1Step
        ((services.evaluating library).answeringBodyless url statusCode headers).transport
        manifestStep context log).1

variable {urls : UrlText} {repr : Json → String}
  (services : HttpServices (manifestParsers urls repr)) (library : AssertionLibrary)
  (manifestStep : ManifestStep (requestParsers (manifestParsers urls repr)))
  (context : ExecutionContext)

/-- The step reaches its assertions: its request goes out, and no signature of the response
    is asked for, or a valid one is there. -/
def ReachesAssertions (response : JsonHttpResponse) : Prop :=
  (∃ prepared headers form, Requested services manifestStep context prepared headers form) ∧
    ∃ signature, services.validateResponseSignature manifestStep response context =
      .value signature

/-- Assertions need no body exactly when none of them does. -/
theorem assertionsRequireJsonBody_eq_false {assertions : List ManifestAssertion} :
    assertionsRequireJsonBody assertions = false ↔
      ∀ assertion ∈ assertions, assertionsRequireJsonBody [assertion] = false := by
  simp [assertionsRequireJsonBody]

/-- An assertion that accepts a response without a body needs none. -/
theorem AcceptsBodyless.not_requires {statusCode : Int} {headers : List (String × String)}
    {assertion : ManifestAssertion}
    (h : AcceptsBodyless library statusCode headers assertion) :
    assertionsRequireJsonBody [assertion] = false := by
  cases assertion with
  | httpStatus | header | legacyFcs => rfl
  | jsonField | responseSchema => exact absurd h id

/-- A step accepts a response without a JSON body when it reaches its assertions and each of
    them does. -/
theorem executeV1Step_bodyless_iff (url : String) {statusCode : Int}
    (headers : List (String × String)) (hstatus : statusCode ∉ [204, 205, 304])
    (log : List ExecutionEvent) :
    StepReturn.Accepts (executeV1Step
        ((services.evaluating library).answeringBodyless url statusCode headers).transport
        manifestStep context log).1 ↔
      ReachesAssertions ((services.evaluating library).answeringBodyless url statusCode headers)
          manifestStep context ⟨url, statusCode, headers, []⟩ ∧
        ∀ assertion ∈ manifestStep.assertions,
          AcceptsBodyless library statusCode headers assertion := by
  have hcontent : statusCode ≠ 204 := fun h => hstatus (by simp [h])
  rw [executeV1Step_accepts_iff]
  constructor
  · rintro ⟨prepared, sent, form, response, hrequested, hsend, hchecked⟩
    change sendJson prepared.url (!assertionsRequireJsonBody manifestStep.assertions)
      (.response url statusCode headers none) = _ at hsend
    -- a body that is asked for is missing, so the step fails
    cases hrequire : assertionsRequireJsonBody manifestStep.assertions with
    | true =>
      rw [hrequire] at hsend
      simp [sendJson, hstatus] at hsend
    | false =>
      rw [hrequire] at hsend
      simp only [sendJson, if_neg hstatus] at hsend
      obtain rfl := SendOutcome.response.inj hsend
      exact ⟨⟨⟨prepared, sent, form, hrequested⟩, hchecked.signature⟩, fun assertion hmem =>
        (evaluateAssertion_empty_iff library statusCode headers hcontent
          (assertionsRequireJsonBody_eq_false.mp hrequire assertion hmem)).mp
          (hchecked.assertions assertion hmem)⟩
  · rintro ⟨⟨⟨prepared, sent, form, hrequested⟩, hsignature⟩, haccepts⟩
    have hrequire : assertionsRequireJsonBody manifestStep.assertions = false :=
      assertionsRequireJsonBody_eq_false.mpr fun assertion hmem =>
        (haccepts assertion hmem).not_requires
    refine ⟨prepared, sent, form, ⟨url, statusCode, headers, []⟩, hrequested, ?_, hsignature,
      fun assertion hmem => (evaluateAssertion_empty_iff library statusCode headers hcontent
        (assertionsRequireJsonBody_eq_false.mp hrequire assertion hmem)).mpr
        (haccepts assertion hmem)⟩
    change sendJson prepared.url (!assertionsRequireJsonBody manifestStep.assertions)
      (.response url statusCode headers none) = _
    rw [hrequire]
    simp only [sendJson, if_neg hstatus]
    rfl

/-- A body that is not JSON fails a step that inspects the body, unless the step reaches its
    assertions and these are status and header assertions that pass and bundles that hold
    without a body. -/
theorem missingBodyRejected_iff (url : String) (statusCode : Int)
    (headers : List (String × String)) :
    RejectsMissingBody services library manifestStep context url statusCode headers ↔
      ¬(statusCode ∉ [204, 205, 304] ∧
        (∃ assertion ∈ manifestStep.assertions, InspectsBody statusCode assertion) ∧
        ReachesAssertions ((services.evaluating library).answeringBodyless url statusCode headers)
          manifestStep context ⟨url, statusCode, headers, []⟩ ∧
        ∀ assertion ∈ manifestStep.assertions,
          AcceptsBodyless library statusCode headers assertion) := by
  constructor
  · rintro h ⟨hstatus, hinspects, haccepts⟩
    exact h hstatus hinspects [] ((executeV1Step_bodyless_iff services library manifestStep
      context url headers hstatus []).mpr haccepts)
  · intro h hstatus hinspects log haccepts
    exact h ⟨hstatus, hinspects, (executeV1Step_bodyless_iff services library manifestStep
      context url headers hstatus log).mp haccepts⟩

/-! ## An absence check -/

/-- A bank that is asked without signing and without client authentication. -/
def plainServices : HttpServices (manifestParsers plainLibrary.urls plainLibrary.repr) where
  lower := plainLibrary.lower
  pyStr := plainLibrary.pyStr
  maskUrlQuery := id
  maybeApplyObDetachedJws _ _ headers _ := .value headers
  applyTokenEndpointAuthPolicy _ form _ := .value form
  request _ _ _ _ := .requestError ""
  assertionsRequireJsonBody := assertionsRequireJsonBody
  validateResponseSignature _ _ _ := .value none
  evaluateAssertion _ _ := .ok ⟨true, ""⟩

/-- A status 400 without a field `Data` in the body. -/
def absentDataBundle : LegacyFcsAssertion where
  rowKey := "row-1"
  allOf := [[("status-code", .int 400),
    ("matches", .arr [.obj [("JSON-NOT-PRESENT", .str "Data")]])]]

/-- A step that asks for a consent that is not there. -/
def missingConsentStep :
    ManifestStep (requestParsers (manifestParsers plainLibrary.urls plainLibrary.repr)) where
  id := "consent"
  name := "Consent"
  request := ({ method := .get, url := "https://bank.example/consents/1" } : ManifestRequest)
  assertions := ([.legacyFcs absentDataBundle] : List ManifestAssertion)
  warning := none
  mandatory := false
  optional := false
  group := "consents"
  phase := .execution
  tokenEndpointAuthPolicy := none
  requiredTokenId := none
  producesTokenId := none

/-- An error page passes the absence check of a bundle. -/
theorem errorPage_accepted :
    ¬RejectsMissingBody plainServices plainLibrary missingConsentStep {}
      "https://bank.example/consents/1" 400 [("content-type", "text/html")] := by
  intro h
  refine h (by decide) ⟨.legacyFcs absentDataBundle, List.mem_singleton.mpr rfl, .inl ?_⟩ [] ?_
  · exact ⟨_, List.mem_singleton.mpr rfl, _, rfl, _, List.mem_singleton.mpr rfl, .inr rfl⟩
  -- the bundle asks for a header only, so the step passes on the error page
  · have hpassed : ((executeV1Step ((plainServices.evaluating plainLibrary).answeringBodyless
        "https://bank.example/consents/1" 400 [("content-type", "text/html")]).transport
        missingConsentStep {} []).1.toOption.any fun result =>
          result.1.status = .passed) = true := by
      decide +kernel
    obtain ⟨⟨outcome, context⟩, hresult, hstatus⟩ := exists_ok_of_any hpassed
    exact ⟨outcome, context, hresult, .inl (of_decide_eq_true hstatus)⟩

end MissingBody

end Conformance
