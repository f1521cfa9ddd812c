import Conformance.Native.Assertions
import Conformance.Spec.AcceptedPlaceholders

/-!
# Assertions and placeholders read the same value

`_resolve_json_path` returns a value or the missing sentinel, `_resolve_body_path` a text
or an error. They walk a body segment by segment in the same way: a placeholder for a path
resolves to the text of the value that an assertion reads there.

## Key results

- `resolvePathSegment_eq`: one segment
- `resolveJsonPath_eq`: a whole path
- `resolvePlaceholders_bodyToken`: the placeholder of a path
- `resolveJsonPath_agrees`: what assertions and placeholders read
-/

namespace Conformance

open Except

/-! ## One segment -/

theorem isDecimal_iff {part : String} :
    isDecimal part = true ↔ part.toList ≠ [] ∧ ∀ c ∈ part.toList, (decimalDigit? c).isSome := by
  simp [isDecimal]

/-- A text of decimal digits that is not too long has a value, and no other text has. -/
theorem decimalValue?_isSome_iff {part : String} :
    (decimalValue? part).isSome = true ↔ isDecimal part = true ∧ part.toList.length ≤ 4300 := by
  unfold decimalValue?
  rw [isDecimal_iff]
  cases hdigits : part.toList.mapM decimalDigit? with
  | none =>
    refine iff_of_false (by simp) fun h => ?_
    have hsome : (part.toList.mapM decimalDigit?).isSome = true := by
      rw [List.mapM_isSome_iff]
      exact h.1.2
    rw [hdigits] at hsome
    cases hsome
  | some digits =>
    have hall : ∀ c ∈ part.toList, (decimalDigit? c).isSome := by
      rw [← List.mapM_isSome_iff, hdigits]
      rfl
    have hlength : part.toList.length = digits.length :=
      (List.mapM_eq_some_iff_forall₂.mp hdigits).length_eq
    have hne : digits ≠ [] ↔ part.toList ≠ [] := by
      rw [← List.length_pos_iff, ← List.length_pos_iff, hlength]
    simp only [Option.bind_eq_bind, Option.bind_some]
    -- `int` reads 4300 digits at most
    by_cases hcond : digits ≠ [] ∧ digits.length ≤ 4300
    · rw [if_pos hcond]
      exact iff_of_true rfl ⟨⟨hne.mp hcond.1, hall⟩, hlength ▸ hcond.2⟩
    · rw [if_neg hcond]
      exact iff_of_false (by simp) fun h => hcond ⟨hne.mpr h.1.1, hlength ▸ h.2⟩

/-- An assertion reads under a segment what a placeholder reads, and a missing value where the
    placeholder fails. -/
theorem resolvePathSegment_eq (repr : Json → String) (dotPath : String) (current : Json)
    {part : String} (hpart : part.toList.length ≤ 4300) :
    resolvePathSegment repr (some current) part =
      .ok (resolveBodySegment dotPath current part).toOption := by
  unfold resolvePathSegment resolveBodySegment
  cases current with
  | obj fields =>
    simp only
    cases fields.lookup part <;> rfl
  | arr items =>
    simp only [resolveListSegment, intOfDigits]
    cases hvalue : decimalValue? part with
    | some index =>
      have hdecimal : isDecimal part = true :=
        (decimalValue?_isSome_iff.mp (by rw [hvalue]; rfl)).1
      rw [if_pos hdecimal]
      -- an index past the end is missing on both sides
      change Except.ok items[index]? = _
      dsimp only
      cases items[index]? <;> rfl
    | none =>
      have hdecimal : ¬isDecimal part = true := fun h => by
        have hsome := decimalValue?_isSome_iff.mpr ⟨h, hpart⟩
        rw [hvalue] at hsome
        cases hsome
      rw [if_neg hdecimal]
      rfl
  | null | bool | int | float | str => rfl

/-! ## Whole paths -/

/-- The segments of a path. -/
def bodyPathSegments (path : String) : List String :=
  (path.toList.splitOn '.').map String.ofList

/-- A path that has left the body stays outside. -/
theorem foldlM_resolvePathSegment_none (repr : Json → String) (parts : List String) :
    parts.foldlM (resolvePathSegment repr) none = .ok none := by
  induction parts with
  | nil => rfl
  | cons part rest ih =>
    rw [List.foldlM_cons]
    exact ih

/-- The check reads what the placeholder reads, and nothing where that fails. -/
theorem foldlM_resolvePathSegment (repr : Json → String) (dotPath : String) (current : Json)
    {parts : List String} (hparts : ∀ part ∈ parts, part.toList.length ≤ 4300) :
    parts.foldlM (resolvePathSegment repr) (some current) =
      .ok (parts.foldlM (resolveBodySegment dotPath) current).toOption := by
  induction parts generalizing current with
  | nil => rfl
  | cons part rest ih =>
    rw [List.foldlM_cons, List.foldlM_cons,
      resolvePathSegment_eq repr dotPath current (hparts part List.mem_cons_self)]
    have hrest := fun next => ih next fun part hpart => hparts part (List.mem_cons_of_mem _ hpart)
    cases resolveBodySegment dotPath current part with
    | ok next => exact hrest next
    | error e => exact foldlM_resolvePathSegment_none repr rest

/-- An assertion reads what the walk of a placeholder ends at. -/
theorem resolveJsonPath_eq (repr : Json → String) (dotPath : String) (body : JsonObject)
    {path : String} (hpath : ∀ part ∈ bodyPathSegments path, part.toList.length ≤ 4300) :
    resolveJsonPath repr body path =
      .ok ((bodyPathSegments path).foldlM (resolveBodySegment dotPath) (.obj body)).toOption :=
  foldlM_resolvePathSegment repr dotPath (.obj body) hpath

/-! ## The placeholder of a path -/

/-- A template that is one token resolves to the value of the token. -/
theorem resolvePlaceholders_token {pyStr : Json → String} {context : ExecutionContext}
    {token : List Char} (hne : token ≠ []) (hbrace : '}' ∉ token) (hdollar : '$' ∉ token)
    (hline : '\n' ∉ token) :
    resolvePlaceholders pyStr (bracedToken token) context = resolveDotPath pyStr token context := by
  -- the text is one token and nothing else
  have htext : (bracedToken token).toList = (Pieces.token [] token (.literal [])).text := by
    simp [bracedToken, Pieces.text]
  have hwellFormed : (Pieces.token [] token (.literal [])).WellFormed :=
    ⟨noOpening_of_forall (by simp), hne, hbrace, noOpening_of_forall (by simp)⟩
  have hplain : (Pieces.token [] token (.literal [])).Plain := by
    intro path hpath
    obtain rfl := List.mem_singleton.mp hpath
    exact ⟨hline, hdollar⟩
  unfold resolvePlaceholders
  have hopens : countOpenings (bracedToken token).toList ≠ 0 := by
    rw [htext, Pieces.text, List.nil_append, countOpenings]
    simp
  rw [if_neg hopens, htext, validateTemplate, Pieces.hasEmptyPlaceholder_text hwellFormed hplain,
    Pieces.hasUnterminated_text hwellFormed hplain, substituteTokens_text hwellFormed,
    Pieces.result, Pieces.result]
  change (do
    let resolved ← (do
      let inserted ← resolveDotPath pyStr token context
      let tail ← Except.ok []
      return [] ++ (inserted.toList ++ tail))
    return String.ofList resolved) = _
  cases resolveDotPath pyStr token context with
  | ok value =>
    change Except.ok (String.ofList ([] ++ (value.toList ++ []))) = _
    simp
  | error e => rfl

/-- The token of a path into the response body of a step. -/
def bodyToken (stepId path : String) : List Char :=
  ("steps." ++ stepId ++ ".response.body." ++ path).toList

/-- The token of a path splits into the step and the segments of the path. -/
theorem tokenSegments_bodyToken {stepId path : String} (hstep : '.' ∉ stepId.toList) :
    (tokenSegments (bodyToken stepId path)).map String.ofList =
      "steps" :: stepId :: "response" :: "body" :: bodyPathSegments path := by
  have htoken : bodyToken stepId path = segment "steps" ++ '.' :: (stepId.toList ++
      '.' :: (segment "response" ++ '.' :: (segment "body" ++ '.' :: path.toList))) := by
    simp [bodyToken, segment]
  rw [htoken, tokenSegments, List.splitOn_append_cons_self_of_not_mem (by decide),
    List.splitOn_append_cons_self_of_not_mem hstep,
    List.splitOn_append_cons_self_of_not_mem (by decide),
    List.splitOn_append_cons_self_of_not_mem (by decide)]
  simp [segment, bodyPathSegments]

/-- The placeholder of a path into the body that a step recorded is the walk of its
    segments. -/
theorem resolvePlaceholders_bodyToken {pyStr : Json → String} {context : ExecutionContext}
    {stepId path : String} {record : StepRecord} {response : ResponseRecord}
    (hrecord : context.steps.get? stepId = some record)
    (hresponse : record.response = some response)
    (hstep : ∀ c ∈ stepId.toList, c ∉ ['.', '$', '}', '\n'])
    (hpath : ∀ c ∈ path.toList, c ∉ ['$', '}', '\n']) :
    resolvePlaceholders pyStr (bracedToken (bodyToken stepId path)) context =
      resolveBodyPath pyStr response.body (bodyPathSegments path)
        (String.ofList (bodyToken stepId path)) := by
  have hfixed : ∀ c ∈ ['$', '}', '\n'], ∀ text ∈ ["steps.", ".response.body."],
      c ∉ text.toList := by
    decide
  have hclear : ∀ c ∈ ['$', '}', '\n'], c ∉ bodyToken stepId path := by
    intro c hc hmem
    simp only [bodyToken, String.toList_append, List.mem_append] at hmem
    obtain ((h | h) | h) | h := hmem
    · exact hfixed c hc _ (by simp) h
    · exact hstep c h (List.mem_cons_of_mem _ hc)
    · exact hfixed c hc _ (by simp) h
    · exact hpath c h hc
  have hne : bodyToken stepId path ≠ [] := by simp [bodyToken]
  have hdot : '.' ∉ stepId.toList := fun h => hstep '.' h (by simp)
  rw [resolvePlaceholders_token hne (hclear '}' (by simp)) (hclear '$' (by simp))
    (hclear '\n' (by simp))]
  unfold resolveDotPath
  rw [tokenSegments_bodyToken hdot]
  simp [resolveStepPath, hrecord, hresponse, resolveResponsePath]

/-! ## Agreement -/

/-- The text of a value in a template; an object or an array has none. -/
def renderPrimitive? (pyStr : Json → String) : Json → Option String
  | .obj _ => none
  | .arr _ => none
  | .null => some "null"
  | value => some (pyStr value)

/-- The errors of a placeholder whose path ends at an object or an array. -/
def IsNonPrimitive (token : String) (e : PlaceholderError) : Prop :=
  ∃ kind ∈ ["object", "array"],
    e = .unresolved s!"Resolved value is not a primitive (got {kind}): {token}"

/-- The errors of a placeholder whose path leaves the body. -/
inductive LeavesBody (token : String) : PlaceholderError → Prop where
  | missingSegment (part : String) :
    LeavesBody token (.unresolved s!"Path segment '{part}' not found: {token}")
  | outOfRange (index : Nat) :
    LeavesBody token (.unresolved s!"Array index {index} out of bounds: {token}")
  | nonNumeric (part : String) : LeavesBody token
      (.unresolved s!"Cannot traverse array with non-numeric segment '{part}': {token}")
  | nonContainer (part : String) :
    LeavesBody token (.unresolved s!"Cannot traverse non-object at '{part}': {token}")

/-- The two kinds of errors have no message in common. -/
theorem LeavesBody.not_isNonPrimitive {token : String} {e : PlaceholderError}
    (h : LeavesBody token e) : ¬IsNonPrimitive token e := by
  rintro ⟨kind, -, rfl⟩
  generalize hmessage : s!"Resolved value is not a primitive (got {kind}): {token}" = message at h
  have hfirst : message.toList.head? = some 'R' := by
    rw [← hmessage]
    simp [toString]
  cases h <;> simp [toString] at hfirst

/-- A segment fails only when it leaves the body. -/
theorem resolveBodySegment_error {dotPath : String} {current : Json} {part : String}
    {e : PlaceholderError} (h : resolveBodySegment dotPath current part = .error e) :
    LeavesBody (bracedToken dotPath.toList) e := by
  unfold resolveBodySegment at h
  cases current with
  | obj fields =>
    cases hlookup : fields.lookup part with
    | some value => simp [hlookup] at h
    | none =>
      simp only [hlookup, Except.error.injEq] at h
      exact h ▸ .missingSegment part
  | arr items =>
    simp only [resolveListSegment] at h
    cases hvalue : decimalValue? part with
    | none =>
      simp only [hvalue, Except.error.injEq] at h
      exact h ▸ .nonNumeric part
    | some index =>
      cases hitem : items[index]? with
      | some item => simp [hvalue, hitem] at h
      | none =>
        simp only [hvalue, hitem, Except.error.injEq] at h
        exact h ▸ .outOfRange index
  | null | bool | int | float | str => exact (Except.error.inj h) ▸ .nonContainer part

/-- A path fails only when it leaves the body. -/
theorem foldlM_resolveBodySegment_error {dotPath : String} {current : Json} {parts : List String}
    {e : PlaceholderError} (h : parts.foldlM (resolveBodySegment dotPath) current = .error e) :
    LeavesBody (bracedToken dotPath.toList) e := by
  induction parts generalizing current with
  | nil => cases h
  | cons part rest ih =>
    rw [List.foldlM_cons] at h
    cases hpart : resolveBodySegment dotPath current part with
    | error e' =>
      rw [hpart] at h
      exact Except.error.inj h ▸ resolveBodySegment_error hpart
    | ok next =>
      rw [hpart] at h
      exact ih h

/-- What a placeholder makes of the value that its walk ends at. -/
theorem resolveBodyPath_of_ok (pyStr : Json → String) {body : JsonObject} {parts : List String}
    {dotPath : String} {value : Json}
    (h : parts.foldlM (resolveBodySegment dotPath) (.obj body) = .ok value) :
    match renderPrimitive? pyStr value with
    | some text => resolveBodyPath pyStr body parts dotPath = .ok text
    | none => ∃ e, resolveBodyPath pyStr body parts dotPath = .error e ∧
        IsNonPrimitive (bracedToken dotPath.toList) e := by
  unfold resolveBodyPath
  rw [h]
  cases value with
  | obj => exact ⟨_, rfl, "object", by simp, rfl⟩
  | arr => exact ⟨_, rfl, "array", by simp, rfl⟩
  | null | bool | int | float | str => rfl

/-- What an assertion found and what a placeholder came to are the same: a primitive value
    is the one whose text the placeholder resolves to, an object or an array is where it
    fails as non-primitive, and a missing value is where it leaves the body. -/
structure ReadsSame (pyStr : Json → String) (token : String) (found : Option Json)
    (placeholder : Except PlaceholderError String) : Prop where
  primitive : ∀ text, placeholder = .ok text ↔
    ∃ value, found = some value ∧ renderPrimitive? pyStr value = some text
  container : (∃ e, placeholder = .error e ∧ IsNonPrimitive token e) ↔
    ∃ value, found = some value ∧ renderPrimitive? pyStr value = none
  missing : (∃ e, placeholder = .error e ∧ LeavesBody token e) ↔ found = none

/-- Assertions and placeholders read the same value in every body and along every path. -/
theorem resolveJsonPath_agrees {repr pyStr : Json → String} {context : ExecutionContext}
    {stepId path : String} {record : StepRecord} {response : ResponseRecord}
    (hrecord : context.steps.get? stepId = some record)
    (hresponse : record.response = some response)
    (hstep : ∀ c ∈ stepId.toList, c ∉ ['.', '$', '}', '\n'])
    (hpath : ∀ c ∈ path.toList, c ∉ ['$', '}', '\n'])
    (hparts : ∀ part ∈ bodyPathSegments path, part.toList.length < 4300) :
    let token := bracedToken (bodyToken stepId path)
    ∃ found, resolveJsonPath repr response.body path = .ok found ∧
      ReadsSame pyStr token found (resolvePlaceholders pyStr token context) := by
  intro token
  have htoken : bracedToken (String.ofList (bodyToken stepId path)).toList = token := by
    rw [String.toList_ofList]
  refine ⟨_, resolveJsonPath_eq repr (String.ofList (bodyToken stepId path)) response.body
    fun part hpart => Nat.le_of_lt (hparts part hpart), ?_⟩
  rw [resolvePlaceholders_bodyToken hrecord hresponse hstep hpath]
  -- both readers make the same walk, so the cases are how it ends
  cases hwalk : (bodyPathSegments path).foldlM
      (resolveBodySegment (String.ofList (bodyToken stepId path))) (.obj response.body) with
  -- the walk leaves the body
  | error e =>
    have hleaves : LeavesBody token e := htoken ▸ foldlM_resolveBodySegment_error hwalk
    have herror : resolveBodyPath pyStr response.body (bodyPathSegments path)
        (String.ofList (bodyToken stepId path)) = .error e := by
      rw [resolveBodyPath, hwalk]
      rfl
    rw [herror]
    exact {
      primitive := by simp [Except.toOption]
      container := by simp [Except.toOption, hleaves.not_isNonPrimitive]
      missing := by simp [Except.toOption, hleaves] }
  | ok value =>
    have hvalue := resolveBodyPath_of_ok pyStr hwalk
    rw [htoken] at hvalue
    -- the check takes any value, the placeholder a primitive one only
    cases htext : renderPrimitive? pyStr value with
    | some text =>
      rw [htext] at hvalue
      rw [hvalue]
      exact {
        primitive := by simp [Except.toOption, htext]
        container := by simp [Except.toOption, htext]
        missing := by simp [Except.toOption] }
    | none =>
      rw [htext] at hvalue
      obtain ⟨e, herror, hprimitive⟩ := hvalue
      have hstays : ¬LeavesBody token e := fun hleaves => hleaves.not_isNonPrimitive hprimitive
      rw [herror]
      exact {
        primitive := by simp [Except.toOption, htext]
        container := by simp [Except.toOption, htext, hprimitive]
        missing := by simp [Except.toOption, hstays] }

/-- An Arabic digit is an index in both. -/
theorem resolveJsonPath_agrees_arabicDigit :
    let context := recordStep {} "s" ⟨"GET", "https://a/"⟩
      (some ⟨200, [], [("items", .arr [.str "a", .null])]⟩)
    let token := bracedToken (bodyToken "s" "items.٠")
    ∃ found, resolveJsonPath (fun _ => "") [("items", .arr [.str "a", .null])] "items.٠" =
        .ok found ∧
      ReadsSame (fun _ => "a") token found (resolvePlaceholders (fun _ => "a") token context) :=
  @resolveJsonPath_agrees _ _ _ _ _ ⟨⟨"GET", "https://a/"⟩, some ⟨200, [], [("items",
    .arr [.str "a", .null])]⟩⟩ _ rfl rfl (by decide) (by decide) (by decide)

end Conformance
