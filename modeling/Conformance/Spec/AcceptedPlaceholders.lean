import Conformance.Spec.ExactSubstitution

/-!
# Accepted placeholders

What `_validate_placeholder_syntax` of `conformance/manifest.py` accepts, the resolver
of `conformance/context.py` can read. The first matches four patterns and counts
openings, the second cuts a text with two other patterns and walks the segments of a
path; the pieces of a text are the common ground.

## Key results

- `exists_text_of_scan`: a text with a token for every opening is cut at these tokens
- `absentValue_resolveDotPath`: an accepted token fails only for want of a value
- `resolvePlaceholders_accepted`: so does an accepted text
-/

namespace Conformance

open Except

/-! ## Scanning -/

/-- A tail has no more openings than the text. -/
theorem countOpenings_append_ge (u v : List Char) : countOpenings v ≤ countOpenings (u ++ v) := by
  induction u with
  | nil => exact le_rfl
  | cons c u ih =>
    rw [List.cons_append, countOpenings]
    omega

/-- Outside a placeholder a character is passed over. -/
theorem scanTokens_other {c : Char} {rest : List Char} (hc : ¬(c = '$' ∧ rest.head? = some '{')) :
    scanTokens none (c :: rest) = scanTokens none rest := by
  rw [scanTokens.eq_def none (c :: rest)]
  exact if_neg hc

/-- A literal in front has no token. -/
theorem scanTokens_literal {before rest : List Char} (h : NoOpening before)
    (hapart : Apart before rest) :
    scanTokens none (before ++ rest) = scanTokens none rest := by
  induction before with
  | nil => rfl
  | cons c before ih =>
    have hc : ¬(c = '$' ∧ (before ++ rest).head? = some '{') := by
      rw [opens_append_iff hapart]
      exact fun hopens => h.rel_head? hopens.2 hopens.1 rfl
    rw [List.cons_append, scanTokens_other hc, ih h.tail hapart.of_cons]

/-- A placeholder is scanned up to its brace. -/
theorem scanTokens_token (inside : List Char) {path rest : List Char} (h : '}' ∉ path) :
    scanTokens (some inside) (path ++ '}' :: rest) =
      (inside.reverse ++ path) :: scanTokens none rest := by
  induction path generalizing inside with
  | nil => rw [List.nil_append, scanTokens, if_pos rfl, List.append_nil]
  | cons c path ih =>
    rw [List.mem_cons, not_or] at h
    rw [List.cons_append, scanTokens, if_neg (Ne.symm h.1), ih (c :: inside) h.2]
    simp

/-- A placeholder without a brace is no token. -/
theorem scanTokens_unclosed (inside : List Char) {cs : List Char} (h : '}' ∉ cs) :
    scanTokens (some inside) cs = [] := by
  induction cs generalizing inside with
  | nil => rfl
  | cons c cs ih =>
    rw [List.mem_cons, not_or] at h
    rw [scanTokens, if_neg (Ne.symm h.1), ih (c :: inside) h.2]

namespace Pieces

/-- A text with as many tokens as openings is cut at its tokens. -/
theorem exists_text_of_scan {cs : List Char} (hcount : countOpenings cs ≤ (scanTokens none cs).length)
    (hne : ∀ token ∈ scanTokens none cs, token ≠ []) :
    ∃ p : Pieces, p.WellFormed ∧ p.text = cs ∧ p.paths = scanTokens none cs := by
  induction hn : cs.length using Nat.strong_induction_on generalizing cs with
  | _ n ih =>
    subst hn
    by_cases hcs : NoOpening cs
    · refine ⟨.literal cs, hcs, rfl, ?_⟩
      have hscan : scanTokens none (cs ++ []) = scanTokens none [] :=
        scanTokens_literal hcs (by simp [Apart])
      rw [List.append_nil] at hscan
      exact hscan.symm
    · obtain ⟨before, tail, hbefore, rfl⟩ := exists_first_opening hcs
      have hopening : 1 + countOpenings tail ≤ countOpenings (before ++ '$' :: '{' :: tail) := by
        refine le_trans ?_ (countOpenings_append_ge before _)
        simp [countOpenings]
      have hscan : scanTokens none (before ++ '$' :: '{' :: tail) = scanTokens (some []) tail :=
        scanTokens_literal hbefore (apart_opening before tail)
      rw [hscan] at hcount hne ⊢
      by_cases hclosed : '}' ∈ tail
      · obtain ⟨path, rest, rfl, hpath⟩ := List.eq_append_cons_of_mem hclosed
        rw [scanTokens_token [] hpath] at hcount hne ⊢
        have hrest : countOpenings rest ≤ countOpenings (path ++ '}' :: rest) := by
          simpa using countOpenings_append_ge (path ++ ['}']) rest
        rw [List.length_cons] at hcount
        obtain ⟨p, hp, rfl, hpaths⟩ := ih rest.length (by simp; omega) (by omega)
          (fun token htoken => hne token (List.mem_cons_of_mem _ htoken)) rfl
        exact ⟨.token before path p, ⟨hbefore, hne path List.mem_cons_self, hpath, hp⟩, rfl,
          by rw [paths, hpaths]; rfl⟩
      -- an opening without a brace would be counted and have no token
      · rw [scanTokens_unclosed [] hclosed, List.length_nil] at hcount
        omega

/-! ## The checks of the resolver -/

/-- The tokens of a text stay on one line and have no opening. -/
def Plain (p : Pieces) : Prop := ∀ path ∈ p.paths, '\n' ∉ path ∧ '$' ∉ path

theorem Plain.rest {before path : List Char} {rest : Pieces} (h : (token before path rest).Plain) :
    rest.Plain :=
  fun path' hpath' => h path' (List.mem_cons_of_mem _ hpath')

/-- Plain pieces have nothing unterminated. -/
theorem hasUnterminated_text {p : Pieces} (hp : p.WellFormed) (hplain : p.Plain) :
    hasUnterminated p.text = false := by
  induction p with
  | literal cs => exact hasUnterminated_of_noOpening hp
  | token before path rest ih =>
    obtain ⟨hbefore, -, hpath, hrest⟩ := hp
    obtain ⟨hline, hdollar⟩ := hplain path List.mem_cons_self
    have htail : hasUnterminated (path ++ '}' :: rest.text) = false := by
      refine hasUnterminated_append (hasUnterminated_of_noOpening (noOpening_of_forall ?_))
        (hasUnterminated_cons.mpr ⟨by simp, ih hrest hplain.rest⟩) ?_
      · rintro c hc rfl
        exact hdollar hc
      · intro a ha b _ hdollar'
        exact absurd (hdollar' ▸ List.mem_of_getLast? ha) hdollar
    refine hasUnterminated_append (hasUnterminated_of_noOpening hbefore) ?_ (apart_opening _ _)
    refine hasUnterminated_cons.mpr ⟨fun _ => ⟨?_, by simp⟩,
      hasUnterminated_cons.mpr ⟨by simp, htail⟩⟩
    have hbrace : ∀ c ∈ path, c ≠ '}' := fun c hc hcbrace => hpath (hcbrace ▸ hc)
    rw [List.takeWhile_cons_of_pos (by decide), List.takeWhile_append_of_pos (by simpa using hbrace),
      List.takeWhile_cons_of_neg (by decide)]
    simpa using hline

/-- Plain pieces have no empty placeholder. -/
theorem hasEmptyPlaceholder_text {p : Pieces} (hp : p.WellFormed) (hplain : p.Plain) :
    hasEmptyPlaceholder p.text = false := by
  induction p with
  | literal cs => exact hasEmptyPlaceholder_of_noOpening hp
  | token before path rest ih =>
    obtain ⟨hbefore, hne, hpath, hrest⟩ := hp
    have hpathclear : NoOpening path := by
      refine noOpening_of_forall ?_
      rintro c hc rfl
      exact (hplain path List.mem_cons_self).2 hc
    have htail : hasEmptyPlaceholder (path ++ '}' :: rest.text) = false := by
      refine hasEmptyPlaceholder_append (hasEmptyPlaceholder_of_noOpening hpathclear)
        (hasUnterminated_of_noOpening hpathclear)
        (hasEmptyPlaceholder_cons.mpr ⟨by simp, ih hrest hplain.rest⟩) ?_
      intro a ha b _ hdollar
      exact absurd (hdollar ▸ List.mem_of_getLast? ha) (hplain path List.mem_cons_self).2
    refine hasEmptyPlaceholder_append (hasEmptyPlaceholder_of_noOpening hbefore)
      (hasUnterminated_of_noOpening hbefore) ?_ (apart_opening _ _)
    refine hasEmptyPlaceholder_cons.mpr ⟨?_, hasEmptyPlaceholder_cons.mpr ⟨by simp, htail⟩⟩
    -- the first character of a path is not its closing brace
    obtain ⟨c, path', rfl⟩ := List.exists_cons_of_ne_nil hne
    rintro ⟨-, htake⟩
    obtain rfl : c = '}' := by simpa using htake
    exact hpath List.mem_cons_self

end Pieces

/-! ## Errors -/

/-- The errors that say that a value is absent or not a primitive. -/
inductive AbsentValue : PlaceholderError → Prop
  | response (stepId : String) : AbsentValue (.missingPredecessor
      s!"Step '{stepId}' has no response (request may have failed)")
  | token (tokenId : String) : AbsentValue (.missingPredecessor
      s!"Token '{tokenId}' not found in execution context")
  | config (token : String) : AbsentValue (.unresolved
      s!"Runtime config is not available for placeholder: {token}")
  | oauthConfig (token : String) : AbsentValue (.unresolved
      s!"OAuth config is not available for placeholder: {token}")
  | discoveryUrl (token : String) : AbsentValue (.unresolved
      s!"config.discoveryUrl is not available for placeholder: {token}")
  | oauthValue (key token : String) : AbsentValue (.unresolved
      s!"oauth.{key} is not available for placeholder: {token}")
  | segment (part token : String) : AbsentValue (.unresolved
      s!"Path segment '{part}' not found: {token}")
  | index (index : Nat) (token : String) : AbsentValue (.unresolved
      s!"Array index {index} out of bounds: {token}")
  | numeric (part token : String) : AbsentValue (.unresolved
      s!"Cannot traverse array with non-numeric segment '{part}': {token}")
  | object (part token : String) : AbsentValue (.unresolved
      s!"Cannot traverse non-object at '{part}': {token}")
  | primitiveObject (token : String) : AbsentValue (.unresolved
      s!"Resolved value is not a primitive (got object): {token}")
  | primitiveArray (token : String) : AbsentValue (.unresolved
      s!"Resolved value is not a primitive (got array): {token}")

/-- How the messages begin that report the syntax of a template. -/
def syntaxErrors : List String :=
  ["Empty placeholder", "Unterminated placeholder", "Invalid placeholder path",
    "Unsupported config placeholder", "Unsupported token", "Cannot resolve request path",
    "Cannot resolve response path"]

/-- How the messages begin that report a value. -/
def valueErrors : List String :=
  ["Step '", "Token '", "Runtime config", "OAuth config", "config.discoveryUrl", "oauth.",
    "Path segment", "Array index", "Cannot traverse", "Resolved value"]

theorem AbsentValue.begins {e : PlaceholderError} (h : AbsentValue e) :
    ∃ text ∈ valueErrors, text.toList <+: e.message.toList := by
  cases h <;> simp [valueErrors, PlaceholderError.message, toString]

/-- No message on a value begins like one on the syntax. -/
theorem AbsentValue.not_syntaxError {e : PlaceholderError} (h : AbsentValue e) :
    ∀ text ∈ syntaxErrors, ¬text.toList <+: e.message.toList := by
  intro text htext hprefixes
  obtain ⟨text', htext', hprefixes'⟩ := h.begins
  have hapart : ∀ t ∈ syntaxErrors, ∀ t' ∈ valueErrors,
      ¬t.toList <+: t'.toList ∧ ¬t'.toList <+: t.toList := by decide +kernel
  rcases List.prefix_or_prefix_of_prefix hprefixes hprefixes' with h | h
  · exact (hapart text htext text' htext').1 h
  · exact (hapart text htext text' htext').2 h

/-! ## Tokens -/

/-- A token that passes `_validate_placeholder_syntax`. -/
def AcceptedToken (seenIds : List String) (token : List Char) : Prop :=
  isConfigPlaceholder token = true ∨ (tokenPlaceholder? token).isSome = true ∨
    ∃ stepId, stepPlaceholder? token = some stepId ∧ String.ofList stepId ∈ seenIds

/-- A token that passes is accepted. -/
theorem validateToken_eq_ok {location : String} {seenIds : List String} {token : List Char}
    {u : Unit} (h : validateToken location seenIds token = .ok u) : AcceptedToken seenIds token := by
  unfold validateToken at h
  split at h
  · rename_i hvalue
    exact hvalue.imp_right .inl
  · split at h
    · split at h
      · cases h
      · split at h <;> cases h
    · rename_i stepId hstep
      simp only [raiseIf_eq_ok, not_not] at h
      exact .inr (.inr ⟨stepId, hstep, h⟩)

/-- A character of an accepted token. -/
def isTokenChar (c : Char) : Bool := isAsciiAlphanumeric c || c == '_' || c == '-' || c == '.'

/-- The characters of a token are those of its segments and the dots between them. -/
theorem forall_isTokenChar {token : List Char}
    (h : ∀ part ∈ tokenSegments token, ∀ c ∈ part, isTokenChar c = true) :
    ∀ c ∈ token, isTokenChar c = true := by
  intro c hc
  by_cases hdot : c = '.'
  · subst hdot
    rfl
  · have hmem : c ∈ (tokenSegments token).flatten := by
      rw [tokenSegments, List.flatten_splitOn]
      exact List.mem_filter.mpr ⟨hc, by simpa using hdot⟩
    obtain ⟨part, hpart, hcpart⟩ := List.mem_flatten.mp hmem
    exact h part hpart c hcpart

/-- The characters of a step id may stand in a token. -/
theorem isTokenChar_of_stepId {stepId : List Char} (h : matchesStepIdCharClass stepId = true) :
    ∀ c ∈ stepId, isTokenChar c = true := by
  cases stepId with
  | nil => simp
  | cons d cs =>
    rw [matchesStepIdCharClass, Bool.and_eq_true, List.all_eq_true] at h
    intro c hc
    unfold isTokenChar
    rcases List.mem_cons.mp hc with rfl | hc
    · simp [h.1]
    · have hclass := h.2 c hc
      simp_all

/-- So may those of a body segment. -/
theorem isTokenChar_of_bodySegment {part : List Char} (h : isBodySegment part = true) :
    ∀ c ∈ part, isTokenChar c = true := by
  rw [isBodySegment, Bool.and_eq_true, List.all_eq_true] at h
  intro c hc
  have hclass := h.2 c hc
  unfold isTokenChar
  simp_all

/-- The segments of a token placeholder. -/
theorem tokenPlaceholder?_isSome {token : List Char} (h : (tokenPlaceholder? token).isSome = true) :
    ∃ tokenId, matchesStepIdCharClass tokenId = true ∧
      tokenSegments token = [segment "tokens", tokenId, segment "access_token"] := by
  unfold tokenPlaceholder? at h
  split at h
  · split at h
    · rename_i head tokenId field hsegments hmatch
      obtain ⟨rfl, hid, rfl⟩ := hmatch
      exact ⟨tokenId, hid, hsegments⟩
    · cases h
  · cases h

/-- The segments of a step placeholder. -/
theorem stepPlaceholder?_eq_some {token stepId : List Char}
    (h : stepPlaceholder? token = some stepId) :
    ∃ path, tokenSegments token = segment "steps" :: stepId :: path ∧
      matchesStepIdCharClass stepId = true ∧ isStepPath path = true := by
  unfold stepPlaceholder? at h
  split at h
  · split at h
    · rename_i head stepId' path hsegments hmatch
      obtain ⟨rfl, hid, hpath⟩ := hmatch
      obtain rfl := Option.some.inj h
      exact ⟨path, hsegments, hid, hpath⟩
    · cases h
  · cases h

/-- What may follow the step id: a field of the request, the status code or a path in
    the body. -/
theorem isStepPath_iff {path : List (List Char)} :
    isStepPath path = true ↔ path = [segment "request", segment "method"] ∨
      path = [segment "request", segment "url"] ∨
      path = [segment "response", segment "status_code"] ∨
      ∃ parts, path = segment "response" :: segment "body" :: parts ∧ parts ≠ [] ∧
        ∀ part ∈ parts, isBodySegment part = true := by
  unfold isStepPath
  rw [decide_eq_true_eq]
  refine or_congr_right (or_congr_right (or_congr_right ?_))
  constructor
  · rintro ⟨htake, hne, hall⟩
    refine ⟨path.drop 2, ?_, hne, List.all_eq_true.mp hall⟩
    rw [← List.take_append_drop 2 path, htake]
    rfl
  · rintro ⟨parts, rfl, hne, hall⟩
    exact ⟨rfl, hne, List.all_eq_true.mpr hall⟩

/-- An accepted token is not empty and has only characters of its classes. -/
theorem AcceptedToken.chars {seenIds : List String} {token : List Char}
    (h : AcceptedToken seenIds token) : token ≠ [] ∧ ∀ c ∈ token, isTokenChar c = true := by
  rcases h with hconfig | htoken | ⟨stepId, hstep, -⟩
  · obtain ⟨key, hkey, heq⟩ := List.any_eq_true.mp hconfig
    -- the keys of the configuration are a fixed list
    have hkeys : ∀ key ∈ configPlaceholderKeys, ("config." ++ key).toList ≠ [] ∧
        ∀ c ∈ ("config." ++ key).toList, isTokenChar c = true := by decide +kernel
    rw [of_decide_eq_true heq]
    exact hkeys key hkey
  · obtain ⟨tokenId, hid, hsegments⟩ := tokenPlaceholder?_isSome htoken
    refine ⟨?_, forall_isTokenChar ?_⟩
    · rintro rfl
      exact absurd (congrArg List.length hsegments) (by simp [tokenSegments])
    · rw [hsegments]
      simp only [List.forall_mem_cons]
      exact ⟨by decide, isTokenChar_of_stepId hid, by decide, by simp⟩
  · obtain ⟨path, hsegments, hid, hpath⟩ := stepPlaceholder?_eq_some hstep
    refine ⟨?_, forall_isTokenChar ?_⟩
    · rintro rfl
      exact absurd (congrArg List.length hsegments) (by simp [tokenSegments])
    · rw [hsegments]
      simp only [List.forall_mem_cons]
      refine ⟨by decide, isTokenChar_of_stepId hid, ?_⟩
      -- the step path is one of three fixed ones or a body path
      rcases isStepPath_iff.mp hpath with rfl | rfl | rfl | ⟨parts, rfl, -, hparts⟩
      · decide
      · decide
      · decide
      · simp only [List.forall_mem_cons]
        exact ⟨by decide, by decide, fun part hpart => isTokenChar_of_bodySegment (hparts part hpart)⟩

/-! ## Resolution -/

section Resolution

variable {pyStr : Json → String} {context : ExecutionContext}

/-- A configuration value fails for being absent only. -/
theorem absentValue_configValue (value : Option String) {unavailable : String}
    (h : AbsentValue (.unresolved unavailable)) :
    RaisesOnly AbsentValue (configValue value unavailable) := by
  cases value with
  | none => exact .error h
  | some value => exact .ok value

/-- So does an allowed path into the configuration. -/
theorem absentValue_resolveConfigPath {segments : List String} (dotPath : String)
    (h : isAllowedConfigPath segments = true) :
    RaisesOnly AbsentValue (resolveConfigPath segments context dotPath) := by
  have hsection (b : Prop) [Decidable b] (key token : String) :
      AbsentValue (.unresolved (if b then s!"oauth.{key} is not available for placeholder: {token}"
        else s!"OAuth config is not available for placeholder: {token}")) := by
    split
    · exact .oauthValue key token
    · exact .oauthConfig token
  unfold resolveConfigPath
  simp only [h, Bool.true_eq_false, if_false]
  split
  · exact .error (.config _)
  · split
    · exact absentValue_configValue _ (.discoveryUrl _)
    · exact absentValue_configValue _ (.oauthConfig _)
    · exact absentValue_configValue _ (hsection _ _ _)
    · exact absentValue_configValue _ (hsection _ _ _)
    · exact absentValue_configValue _ (.oauthValue "issuer" _)
    · exact absentValue_configValue _ (.oauthValue "tokenEndpoint" _)
    · exact absentValue_configValue _ (.oauthValue "responseType" _)
    · exact absentValue_configValue _ (.oauthValue "requestObjectSigningAlg" _)
    · exact absentValue_configValue _ (.oauthConfig _)

/-- So does a path into the tokens. -/
theorem absentValue_resolveTokenPath (head tokenId dotPath : String) :
    RaisesOnly AbsentValue (resolveTokenPath [head, tokenId, "access_token"] context dotPath) := by
  unfold resolveTokenPath
  simp only
  split
  · exact .error (.token tokenId)
  · exact .ok _

/-- So does a segment of a body path. -/
theorem absentValue_resolveBodySegment (dotPath : String) (current : Json) (part : String) :
    RaisesOnly AbsentValue (resolveBodySegment dotPath current part) := by
  unfold resolveBodySegment resolveListSegment
  simp only
  split
  · split
    · exact .ok _
    · exact .error (.segment part _)
  · split
    · split
      · exact .ok _
      · exact .error (.index _ _)
    · exact .error (.numeric part _)
  · exact .error (.object part _)

/-- So does a path into a body. -/
theorem absentValue_resolveBodyPath (body : JsonObject) (segments : List String)
    (dotPath : String) :
    RaisesOnly AbsentValue (resolveBodyPath pyStr body segments dotPath) := by
  unfold resolveBodyPath
  refine .bind (List.raisesOnly_foldlM (fun current part _ =>
    absentValue_resolveBodySegment dotPath current part) _) fun value _ => ?_
  split
  · exact .error (.primitiveObject _)
  · exact .error (.primitiveArray _)
  · exact .ok _
  · exact .ok _

/-- A path that the manifest parser accepts has a step, a direction and a field. -/
theorem absentValue_resolveStepPath {stepId : String} {path : List (List Char)} {dotPath : String}
    (hpath : isStepPath path = true) (hstep : (context.steps.get? stepId).isSome = true) :
    ∃ direction fieldName remaining,
      path.map String.ofList = direction :: fieldName :: remaining ∧
        RaisesOnly AbsentValue
          (resolveStepPath pyStr stepId direction fieldName remaining context dotPath) := by
  obtain ⟨record, hrecord⟩ := Option.isSome_iff_exists.mp hstep
  rcases isStepPath_iff.mp hpath with rfl | rfl | rfl | ⟨parts, rfl, -, -⟩
  · refine ⟨"request", "method", [], rfl, ?_⟩
    simp [resolveStepPath, hrecord, resolveRequestPath, RaisesOnly.ok]
  · refine ⟨"request", "url", [], rfl, ?_⟩
    simp [resolveStepPath, hrecord, resolveRequestPath, RaisesOnly.ok]
  · refine ⟨"response", "status_code", [], rfl, ?_⟩
    cases hresponse : record.response with
    | none =>
      simp only [resolveStepPath, hrecord, hresponse]
      exact .error (.response stepId)
    | some response =>
      simp [resolveStepPath, hrecord, hresponse, resolveResponsePath, RaisesOnly.ok]
  · refine ⟨"response", "body", parts.map String.ofList, rfl, ?_⟩
    cases hresponse : record.response with
    | none =>
      simp only [resolveStepPath, hrecord, hresponse]
      exact .error (.response stepId)
    | some response =>
      simpa [resolveStepPath, hrecord, hresponse, resolveResponsePath] using
        absentValue_resolveBodyPath response.body _ dotPath

/-- An accepted token whose step is recorded fails only for want of a value. -/
theorem absentValue_resolveDotPath {seenIds : List String} {token : List Char}
    (h : AcceptedToken seenIds token)
    (hrecorded : ∀ stepId ∈ seenIds, (context.steps.get? stepId).isSome = true) :
    RaisesOnly AbsentValue (resolveDotPath pyStr token context) := by
  unfold resolveDotPath
  simp only
  rcases h with hconfig | htoken | ⟨stepId, hstep, hseen⟩
  · obtain ⟨key, hkey, heq⟩ := List.any_eq_true.mp hconfig
    have hkeys : ∀ key ∈ configPlaceholderKeys, ∃ rest,
        (tokenSegments ("config." ++ key).toList).map String.ofList = "config" :: rest ∧
          isAllowedConfigPath ("config" :: rest) = true := by
      intro key hkey
      refine ⟨((tokenSegments ("config." ++ key).toList).map String.ofList).tail, ?_⟩
      revert key
      decide +kernel
    obtain ⟨rest, hsegments, hallowed⟩ := hkeys key hkey
    rw [of_decide_eq_true heq, hsegments]
    exact absentValue_resolveConfigPath _ hallowed
  · obtain ⟨tokenId, -, hsegments⟩ := tokenPlaceholder?_isSome htoken
    rw [hsegments]
    exact absentValue_resolveTokenPath "tokens" (String.ofList tokenId) _
  · obtain ⟨path, hsegments, -, hpath⟩ := stepPlaceholder?_eq_some hstep
    obtain ⟨direction, fieldName, remaining, hmap, hraises⟩ :=
      absentValue_resolveStepPath hpath
        (hrecorded _ hseen)
    rw [hsegments, List.map_cons, List.map_cons, hmap]
    exact hraises

/-- The value of a text fails only where one of its tokens does. -/
theorem Pieces.raisesOnly_result {P : PlaceholderError → Prop}
    {value : List Char → Except PlaceholderError String} {p : Pieces}
    (h : ∀ path ∈ p.paths, RaisesOnly P (value path)) : RaisesOnly P (p.result value) := by
  induction p with
  | literal cs => exact .ok cs
  | token before path rest ih =>
    rw [paths, List.forall_mem_cons] at h
    exact .bind h.1 fun inserted _ => .bind (ih h.2) fun tail _ => .ok _

/-- A text that passes the check of the manifest parser is cut into pieces that pass the
    check of the resolver, and all its tokens are accepted. -/
theorem exists_text_of_accepted {value location : String} {seenIds : List String}
    (h : validatePlaceholderSyntax value location seenIds = .ok ()) :
    ∃ p : Pieces, p.WellFormed ∧ p.text = value.toList ∧ p.Plain ∧
      ∀ path ∈ p.paths, AcceptedToken seenIds path := by
  simp only [validatePlaceholderSyntax, bind_eq_ok, raiseIf_eq_ok, not_lt] at h
  obtain ⟨_, hcount, htokens⟩ := h
  have haccepted : ∀ token ∈ placeholderTokens value, AcceptedToken seenIds token :=
    fun token htoken => validateToken_eq_ok (List.forM_eq_ok.mp htokens token htoken)
  obtain ⟨p, hp, htext, hpaths⟩ := Pieces.exists_text_of_scan hcount
    fun token htoken => (haccepted token htoken).chars.1
  rw [← placeholderTokens] at hpaths
  refine ⟨p, hp, htext, ?_, hpaths ▸ haccepted⟩
  intro path hpath
  have hchars := (haccepted path (hpaths ▸ hpath)).chars.2
  exact ⟨fun hline => absurd (hchars _ hline) (by decide),
    fun hdollar => absurd (hchars _ hdollar) (by decide)⟩

/-- A text that passes the check of the manifest parser, in a context that has all the
    steps the parser had seen, resolves, or a value is absent or not a primitive; it is
    never its syntax that is reported. -/
theorem resolvePlaceholders_accepted (value location : String) (seenIds : List String)
    (h : validatePlaceholderSyntax value location seenIds = .ok ())
    (hrecorded : ∀ stepId ∈ seenIds, (context.steps.get? stepId).isSome = true) :
    (∃ resolved, resolvePlaceholders pyStr value context = .ok resolved) ∨
      ∃ e, resolvePlaceholders pyStr value context = .error e ∧ AbsentValue e ∧
        ∀ text ∈ syntaxErrors, ¬text.toList <+: e.message.toList := by
  obtain ⟨p, hp, htext, hplain, haccepted⟩ := exists_text_of_accepted h
  -- an accepted template is cut into pieces, and each piece fails for an absent value only
  have hraises : RaisesOnly AbsentValue (resolvePlaceholders pyStr value context) := by
    unfold resolvePlaceholders
    split
    · exact .ok _
    · refine .bind ?_ fun _ _ => .bind ?_ fun _ _ => .ok _
      · rw [validateTemplate, ← htext, Pieces.hasEmptyPlaceholder_text hp hplain,
          Pieces.hasUnterminated_text hp hplain]
        exact .ok ()
      · rw [← htext, substituteTokens_text hp]
        exact Pieces.raisesOnly_result fun path hpath =>
          absentValue_resolveDotPath (haccepted path hpath) hrecorded
  cases hresolved : resolvePlaceholders pyStr value context with
  | ok resolved => exact .inl ⟨resolved, rfl⟩
  | error e =>
    have habsent := hraises e hresolved
    exact .inr ⟨e, rfl, habsent, habsent.not_syntaxError⟩

/-- An accepted template, after a step without a response. -/
theorem resolvePlaceholders_accepted_noResponse :
    (∃ resolved, resolvePlaceholders (fun _ => "") "/a/$\x7bsteps.s1.response.body.x\x7d"
      (recordStep {} "s1" ⟨"GET", "/"⟩ none) = .ok resolved) ∨
    ∃ e, resolvePlaceholders (fun _ => "") "/a/$\x7bsteps.s1.response.body.x\x7d"
        (recordStep {} "s1" ⟨"GET", "/"⟩ none) = .error e ∧ AbsentValue e ∧
      ∀ text ∈ syntaxErrors, ¬text.toList <+: e.message.toList := by
  refine resolvePlaceholders_accepted _ "url" ["s1"] ?_ ?_
  · decide +kernel
  · simp [recordStep, Dict.get?_set]

end Resolution

end Conformance
