import Conformance.ForStd.List
import Conformance.Native.Assertions

/-!
# Legacy paths

A path of the legacy suite is a list of segments with dots between them. The grammar `PathText`
says where quotation marks, brackets and dots may stand in a segment; the splitter comes back from
such a text with the depth and the quotation it started with. A segment is a key, a collection
`#(field)` or a filter `#[field="value"]`, and a path is resolved one segment after the other.

## Key results

- `PathText.foldl_legacySplitChar`: the splitter on a balanced text
- `legacyJsonPathSegments_intercalate`: the splitter undoes the join
- `presenceMatch_eq_some`, `filterMatch_eq_some`: what the two patterns match
- `resolveLegacyJsonPath_intercalate`: a path is the composition of its steps
-/

namespace Conformance

/-! ## The grammar of segments -/

/-- A text whose quotation marks come in pairs, whose brackets outside quotations are balanced,
    and whose dots stand inside quotations or brackets; the flag says whether the text itself
    stands inside brackets. -/
inductive PathText : Bool → List Char → Prop where
  | nil {inside : Bool} : PathText inside []
  | char {inside : Bool} {c : Char} {rest : List Char} (hc : c ≠ '"' ∧ c ≠ '[' ∧ c ≠ ']')
      (hdot : c = '.' → inside = true) (hrest : PathText inside rest) :
      PathText inside (c :: rest)
  | quotation {inside : Bool} {quoted rest : List Char} (hquoted : '"' ∉ quoted)
      (hrest : PathText inside rest) : PathText inside ('"' :: (quoted ++ '"' :: rest))
  | brackets {inside : Bool} {content rest : List Char} (hcontent : PathText true content)
      (hrest : PathText inside rest) : PathText inside ('[' :: (content ++ ']' :: rest))

/-- A text without quotes, brackets and dots is of one segment. -/
theorem PathText.of_plain {inside : Bool} {text : List Char}
    (h : ∀ c ∈ text, c ≠ '"' ∧ c ≠ '[' ∧ c ≠ ']' ∧ c ≠ '.') : PathText inside text := by
  induction text with
  | nil => exact .nil
  | cons c rest ih =>
    rw [List.forall_mem_cons] at h
    obtain ⟨⟨hquote, hopen, hclose, hdot⟩, hrest⟩ := h
    exact .char ⟨hquote, hopen, hclose⟩ (fun heq => absurd heq hdot) (ih hrest)

/-- A segment of a path. -/
def IsPathSegment (segment : String) : Prop := PathText false segment.toList

/-! ## The splitter -/

/-- A character that is no dot to split at. -/
theorem legacySplitChar_keep {state : LegacySplit} {c : Char}
    (h : c = '.' → state.bracketDepth ≠ 0 ∨ state.quoted = true) :
    legacySplitChar state c = { state with
      current := state.current ++ [c]
      bracketDepth :=
        if c = '[' ∧ state.quoted = false then state.bracketDepth + 1
        else if c = ']' ∧ state.quoted = false then state.bracketDepth - 1
        else state.bracketDepth
      quoted := if c = '"' then !state.quoted else state.quoted } := by
  have hkeep : ¬(c = '.' ∧
      (if c = '[' ∧ state.quoted = false then state.bracketDepth + 1
        else if c = ']' ∧ state.quoted = false then state.bracketDepth - 1
        else state.bracketDepth) = 0 ∧
      (if c = '"' then !state.quoted else state.quoted) = false) := by
    rintro ⟨rfl, hdepth, hquoted⟩
    simp at hdepth hquoted
    rcases h rfl with hne | hopen
    · exact hne hdepth
    · rw [hquoted] at hopen
      cases hopen
  simp only [legacySplitChar, if_neg hkeep]

/-- A state with more characters in its segment. -/
def LegacySplit.keeping (state : LegacySplit) (kept : List Char) : LegacySplit :=
  { state with current := state.current ++ kept }

@[simp] theorem LegacySplit.keeping_nil (state : LegacySplit) : state.keeping [] = state := by
  simp [keeping]

@[simp] theorem LegacySplit.keeping_keeping (state : LegacySplit) (kept more : List Char) :
    (state.keeping kept).keeping more = state.keeping (kept ++ more) := by
  simp [keeping]

/-- Inside a quotation every other character is kept. -/
theorem foldl_legacySplitChar_quoted {quoted : List Char} (h : '"' ∉ quoted) (state : LegacySplit)
    (hstate : state.quoted = true) :
    quoted.foldl legacySplitChar state = state.keeping quoted := by
  induction quoted generalizing state with
  | nil => simp
  | cons c rest ih =>
    obtain ⟨hc, hrest⟩ := not_or.mp (List.mem_cons.not.mp h)
    have hstep : legacySplitChar state c = state.keeping [c] := by
      rw [legacySplitChar_keep fun _ => .inr hstate]
      simp [hstate, Ne.symm hc, LegacySplit.keeping]
    rw [List.foldl_cons, hstep, ih hrest (state.keeping [c]) hstate, LegacySplit.keeping_keeping,
      List.singleton_append]

/-- A balanced text is kept whole, and leaves the depth and the quotation as they were. -/
theorem PathText.foldl_legacySplitChar {inside : Bool} {text : List Char}
    (h : PathText inside text) (state : LegacySplit) (hquoted : state.quoted = false)
    (hdepth : 0 ≤ state.bracketDepth) (hinside : inside = true → 0 < state.bracketDepth) :
    text.foldl legacySplitChar state = state.keeping text := by
  induction h generalizing state with
  | nil => simp
  | @char inside c rest hc hdot hrest ih =>
    have hstep : legacySplitChar state c = state.keeping [c] := by
      rw [legacySplitChar_keep fun heq => .inl (hinside (hdot heq)).ne']
      simp [hc, LegacySplit.keeping]
    rw [List.foldl_cons, hstep, ih (state.keeping [c]) hquoted hdepth hinside,
      LegacySplit.keeping_keeping, List.singleton_append]
  | @quotation inside quoted rest hbody hrest ih =>
    have hopen : legacySplitChar state '"' = { state.keeping ['"'] with quoted := true } := by
      rw [legacySplitChar_keep (by simp)]
      simp [hquoted, LegacySplit.keeping]
    have hclose : legacySplitChar
        (LegacySplit.keeping { state.keeping ['"'] with quoted := true } quoted) '"' =
        state.keeping ('"' :: (quoted ++ ['"'])) := by
      rw [legacySplitChar_keep (by simp)]
      simp [hquoted, LegacySplit.keeping]
    rw [List.foldl_cons, hopen, List.foldl_append, foldl_legacySplitChar_quoted hbody _ rfl,
      List.foldl_cons, hclose, ih (state.keeping _) hquoted hdepth hinside,
      LegacySplit.keeping_keeping]
    simp
  | @brackets inside content rest hcontent hrest ihcontent ihrest =>
    have hopen : legacySplitChar state '[' =
        { state.keeping ['['] with bracketDepth := state.bracketDepth + 1 } := by
      rw [legacySplitChar_keep (by simp)]
      simp [hquoted, LegacySplit.keeping]
    have hclose : legacySplitChar
        (LegacySplit.keeping { state.keeping ['['] with bracketDepth := state.bracketDepth + 1 }
          content) ']' = state.keeping ('[' :: (content ++ [']'])) := by
      rw [legacySplitChar_keep (by simp)]
      simp [hquoted, LegacySplit.keeping]
    have hdeeper : 0 < state.bracketDepth + 1 := by omega
    rw [List.foldl_cons, hopen, List.foldl_append,
      ihcontent { state.keeping ['['] with bracketDepth := state.bracketDepth + 1 } hquoted
        hdeeper.le fun _ => hdeeper,
      List.foldl_cons, hclose, ihrest (state.keeping _) hquoted hdepth hinside,
      LegacySplit.keeping_keeping]
    simp

/-- Segments with dots between them, read from a state outside quotations and brackets. -/
theorem foldl_legacySplitChar_intercalate {segment : List Char} {rest : List (List Char)}
    (hsegment : PathText false segment) (hrest : ∀ other ∈ rest, PathText false other)
    (segments : List (List Char)) :
    ∃ state, (['.'].intercalate (segment :: rest)).foldl legacySplitChar { segments } = state ∧
      state.segments ++ [state.current] = segments ++ segment :: rest := by
  have hkept : segment.foldl legacySplitChar { segments } = { segments, current := segment } :=
    hsegment.foldl_legacySplitChar { segments } rfl le_rfl (by simp)
  induction rest generalizing segment segments with
  | nil => exact ⟨_, by rw [List.intercalate_singleton, hkept], rfl⟩
  | cons next rest ih =>
    obtain ⟨hnext, hrest⟩ := List.forall_mem_cons.mp hrest
    have hdot : legacySplitChar { segments, current := segment } '.' =
        { segments := segments ++ [segment] } := by
      simp [legacySplitChar]
    obtain ⟨state, hstate, hsegments⟩ := ih hnext hrest (segments ++ [segment])
      (hnext.foldl_legacySplitChar { segments := segments ++ [segment] } rfl le_rfl (by simp))
    refine ⟨state, ?_, by rw [hsegments, List.append_assoc, List.singleton_append]⟩
    rw [List.intercalate_cons_cons, List.foldl_append, List.foldl_append, hkept, List.foldl_cons,
      List.foldl_nil, hdot, hstate]

/-- The splitter undoes the join of segments. -/
theorem legacyJsonPathSegments_intercalate {segments : List String} (hne : segments ≠ [])
    (h : ∀ segment ∈ segments, IsPathSegment segment) :
    legacyJsonPathSegments (".".intercalate segments) = segments.map String.toList := by
  cases segments with
  | nil => exact absurd rfl hne
  | cons segment rest =>
    obtain ⟨hsegment, hrest⟩ := List.forall_mem_cons.mp h
    have hrest : ∀ other ∈ rest.map String.toList, PathText false other :=
      List.forall_mem_map.mpr hrest
    obtain ⟨state, hstate, hsegments⟩ := foldl_legacySplitChar_intercalate hsegment hrest []
    rw [legacyJsonPathSegments, String.toList_intercalate, List.map_cons,
      show ".".toList = ['.'] from rfl, hstate]
    exact hsegments

/-! ## Steps -/

/-- What a segment asks for. -/
inductive PathStep where
  | key (name : String)
  | collect (fieldName : String)
  | filter (fieldName expected : String)

/-- The step as it stands in a path. -/
def PathStep.text : PathStep → String
  | .key name => name
  | .collect fieldName => "#(" ++ fieldName ++ ")"
  | .filter fieldName expected => "#[" ++ fieldName ++ "=\"" ++ expected ++ "\"]"

/-- A collection or a filter whose texts do not end it early. -/
def PathStep.IsQuery : PathStep → Prop
  | .key _ => False
  | .collect fieldName => fieldName ≠ "" ∧ ')' ∉ fieldName.toList
  | .filter fieldName expected =>
    fieldName ≠ "" ∧ '=' ∉ fieldName.toList ∧ '"' ∉ expected.toList

/-- The segment is a collection or a filter, or a key when it is neither. -/
def Denotes (segment : String) (step : PathStep) : Prop :=
  segment = step.text ∧
    (step.IsQuery ∨ ∃ name, step = .key name ∧ ∀ query : PathStep, query.IsQuery →
      segment ≠ query.text)

/-- The value of a step: a member of an object, the values of a field of the items of an array, or
    the first item whose field has a text. -/
def PathStep.select : PathStep → Json → Option Json
  | .key name, .obj fields => fields.lookup name
  | .collect fieldName, .arr items =>
    match items.filterMap (itemField? fieldName) with
    | [] => none
    | values => some (.arr values)
  | .filter fieldName expected, .arr items =>
    items.find? fun item => (itemField? fieldName item).any (isTextValue expected)
  | _, _ => none

/-! ## The patterns -/

/-- What a run of characters other than `close` matched, when `close` and `ending` follow. -/
theorem takeWhile_ne_and_drop {cs : List Char} {close : Char} {ending name : List Char}
    (hname : cs.takeWhile (· ≠ close) = name) :
    cs.drop name.length = close :: ending ↔ cs = name ++ close :: ending := by
  obtain ⟨rest, hrest⟩ : ∃ rest, cs = name ++ rest :=
    ⟨cs.dropWhile (· ≠ close), by rw [← hname, List.takeWhile_append_dropWhile]⟩
  rw [hrest, List.drop_left, List.append_cancel_left_eq]

/-- A name is read up to what closes it. -/
theorem takeWhile_ne_eq {name rest : List Char} {close : Char} (h : close ∉ name) :
    (name ++ close :: rest).takeWhile (· ≠ close) = name := by
  rw [List.takeWhile_append_of_pos, List.takeWhile_cons_of_neg (by simp), List.append_nil]
  intro c hc
  exact decide_eq_true fun heq => h (heq ▸ hc)

/-- What closes a name is not in it. -/
theorem notMem_takeWhile_ne (cs : List Char) (close : Char) :
    close ∉ cs.takeWhile (· ≠ close) := by
  intro hmem
  have hne := List.mem_takeWhile_imp hmem
  exact of_decide_eq_true hne rfl

/-- The segments that ask for presence. -/
theorem presenceMatch_eq_some {segment : String} {fieldName : String} :
    presenceMatch segment.toList = some fieldName ↔
      (PathStep.collect fieldName).IsQuery ∧ segment = (PathStep.collect fieldName).text := by
  have htext : segment = (PathStep.collect fieldName).text ↔
      segment.toList = '#' :: '(' :: (fieldName.toList ++ [')']) := by
    rw [← String.toList_inj]
    simp [PathStep.text, String.toList_append]
  rw [htext]
  generalize segment.toList = cs
  unfold presenceMatch PathStep.IsQuery
  constructor
  · intro h
    split at h
    · rename_i rest
      simp only [Option.ite_none_right_eq_some, Option.some.injEq] at h
      obtain ⟨⟨hne, hclosed⟩, rfl⟩ := h
      rw [takeWhile_ne_and_drop rfl] at hclosed
      refine ⟨⟨fun hempty => hne (by simpa using hempty), ?_⟩, ?_⟩
      · rw [String.toList_ofList]
        exact notMem_takeWhile_ne rest ')'
      · rw [String.toList_ofList, ← hclosed]
    · cases h
  · rintro ⟨⟨hne, hclose⟩, rfl⟩
    simp only [takeWhile_ne_eq hclose]
    rw [if_pos ⟨by simpa using hne, List.drop_left⟩, String.ofList_toList]

/-- The segments that filter by a value. -/
theorem filterMatch_eq_some {segment : String} {fieldName expected : String} :
    filterMatch segment.toList = some (fieldName, expected) ↔
      (PathStep.filter fieldName expected).IsQuery ∧
        segment = (PathStep.filter fieldName expected).text := by
  have htext : segment = (PathStep.filter fieldName expected).text ↔
      segment.toList = '#' :: '[' :: (fieldName.toList ++ '=' :: '"' ::
        (expected.toList ++ ['"', ']'])) := by
    rw [← String.toList_inj]
    simp [PathStep.text, String.toList_append]
  rw [htext]
  generalize segment.toList = cs
  unfold filterMatch PathStep.IsQuery
  constructor
  · intro h
    split at h
    · rename_i rest
      simp only at h
      split at h
      · rename_i tail hname
        simp only [Option.ite_none_right_eq_some, Option.some.injEq, Prod.mk.injEq] at h
        obtain ⟨⟨hne, hclosed⟩, rfl, rfl⟩ := h
        rw [takeWhile_ne_and_drop rfl] at hname hclosed
        refine ⟨⟨fun hempty => hne (by simpa using hempty), ?_, ?_⟩, ?_⟩
        · rw [String.toList_ofList]
          exact notMem_takeWhile_ne rest '='
        · rw [String.toList_ofList]
          exact notMem_takeWhile_ne tail '"'
        · rw [String.toList_ofList, String.toList_ofList, ← hclosed, ← hname]
      · cases h
    · cases h
  · rintro ⟨⟨hne, hequals, hquote⟩, rfl⟩
    simp only [takeWhile_ne_eq hequals, List.drop_left, takeWhile_ne_eq hquote]
    rw [if_pos ⟨by simpa using hne, trivial⟩, String.ofList_toList, String.ofList_toList]

/-! ## Resolution -/

/-- A round of the resolution is the step its segment denotes. -/
theorem resolveLegacySegment_eq {segment : String} {step : PathStep} (h : Denotes segment step)
    (current : Option Json) :
    resolveLegacySegment current segment.toList = current.bind step.select := by
  obtain ⟨htext, hquery⟩ := h
  have hpresence {fieldName : String} (hmatch : presenceMatch segment.toList = some fieldName) :
      (PathStep.collect fieldName).IsQuery ∧ segment = (PathStep.collect fieldName).text :=
    presenceMatch_eq_some.mp hmatch
  have hfilter {fieldName expected : String}
      (hmatch : filterMatch segment.toList = some (fieldName, expected)) :
      (PathStep.filter fieldName expected).IsQuery ∧
        segment = (PathStep.filter fieldName expected).text :=
    filterMatch_eq_some.mp hmatch
  cases step with
  | key name =>
    obtain hquery | ⟨_, -, hplain⟩ := hquery
    · cases hquery
    have hnoPresence : presenceMatch segment.toList = none :=
      Option.eq_none_iff_forall_ne_some.mpr fun fieldName hmatch =>
        hplain _ (hpresence hmatch).1 (hpresence hmatch).2
    have hnoFilter : filterMatch segment.toList = none :=
      Option.eq_none_iff_forall_ne_some.mpr fun pair hmatch =>
        hplain _ (hfilter hmatch).1 (hfilter hmatch).2
    subst htext
    unfold resolveLegacySegment
    rw [hnoPresence, hnoFilter]
    cases current with
    | none => rfl
    | some value => cases value <;> simp [PathStep.select]
  | collect fieldName =>
    have hquery : (PathStep.collect fieldName).IsQuery := hquery.resolve_right fun ⟨_, h, _⟩ =>
      (by cases h)
    unfold resolveLegacySegment
    rw [presenceMatch_eq_some.mpr ⟨hquery, htext⟩]
    cases current with
    | none => rfl
    | some value => cases value <;> rfl
  | filter fieldName expected =>
    have hquery : (PathStep.filter fieldName expected).IsQuery :=
      hquery.resolve_right fun ⟨_, h, _⟩ => (by cases h)
    have hnoPresence : presenceMatch segment.toList = none := by
      refine Option.eq_none_iff_forall_ne_some.mpr fun other hmatch => ?_
      have hbracket := congrArg String.toList ((hpresence hmatch).2.symm.trans htext)
      simp [PathStep.text, String.toList_append] at hbracket
    unfold resolveLegacySegment
    rw [hnoPresence, filterMatch_eq_some.mpr ⟨hquery, htext⟩]
    cases current with
    | none => rfl
    | some value => cases value <;> rfl

/-- Every segment denotes a step. -/
theorem exists_denotes (segment : String) : ∃ step, Denotes segment step := by
  by_cases hquery : ∃ query : PathStep, query.IsQuery ∧ segment = query.text
  · obtain ⟨query, hquery, htext⟩ := hquery
    exact ⟨query, htext, .inl hquery⟩
  · refine ⟨.key segment, rfl, .inr ⟨segment, rfl, fun query h htext => ?_⟩⟩
    exact hquery ⟨query, h, htext⟩

/-- A path is resolved by the steps its segments denote, from left to right. -/
theorem resolveLegacyJsonPath_intercalate {segments : List String} (hne : segments ≠ [])
    (h : ∀ segment ∈ segments, IsPathSegment segment) {steps : List PathStep}
    (hsteps : List.Forall₂ Denotes segments steps) (body : JsonObject) :
    resolveLegacyJsonPath body (".".intercalate segments) =
      steps.foldl (fun current step => current.bind step.select) (some (.obj body)) := by
  rw [resolveLegacyJsonPath, legacyJsonPathSegments_intercalate hne h]
  clear hne h
  generalize some (Json.obj body) = current
  induction hsteps generalizing current with
  | nil => rfl
  | cons hstep _ ih =>
    rw [List.map_cons, List.foldl_cons, List.foldl_cons, resolveLegacySegment_eq hstep, ih]

end Conformance
