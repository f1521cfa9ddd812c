import Conformance.Native.VulnerabilityIssues

/-!
# Issue synchronisation

Applying the planned actions leaves one open issue for each problem and none for any
other key, and planning again gives nothing to do. All of this rests on the comment
that holds the key: it is read back as it was written unless the key has a blank.

The issues of one key are a part of the list that the actions for other keys leave
alone; so each key is looked at on its own and the loops are put together from there.

## Key results

- `Issue.key_body`: the key of an issue with the body of a problem
- `applyActions_flatMap`: actions by key change the issues of that key only
- `converged_iff`, `synchronises_iff`: when one round of synchronisation is enough
-/

namespace Conformance.VulnerabilityIssues

/-! ## The marker -/

theorem toList_joinLines_cons (line : String) (lines : List String) :
    (joinLines (line :: lines)).toList = line.toList ++ '\n' :: (joinLines lines).toList := by
  simp [joinLines]

theorem toList_append_append (s t u : String) :
    (s ++ t ++ u).toList = s.toList ++ (t.toList ++ u.toList) := by
  rw [String.toList_append, String.toList_append, List.append_assoc]

theorem toList_markerLine (key : String) :
    (markerLine key).toList = markerPrefix ++ (key.toList ++ markerSuffix) :=
  toList_append_append _ _ _

/-- The body of a problem begins with its marker. -/
theorem Problem.toList_body (problem : Problem) : ∃ rest, problem.body.toList =
    markerPrefix ++ (problem.key.toList ++ (markerSuffix ++ '\n' :: rest)) := by
  obtain ⟨lines, hlines⟩ : ∃ lines, problem.body = joinLines (markerLine problem.key :: lines) := by
    rw [Problem.body, List.cons_append, List.cons_append]
    exact ⟨_, rfl⟩
  refine ⟨(joinLines lines).toList, ?_⟩
  rw [hlines, toList_joinLines_cons, toList_markerLine, List.append_assoc, List.append_assoc]

/-- What is left of the body without the white space around it begins with the marker's. -/
theorem Problem.strip_body (problem : Problem) :
    ∃ rest, (strip problem.body).toList = '<' :: rest := by
  obtain ⟨rest, hbody⟩ := problem.toList_body
  have hfirst : problem.body.toList = '<' :: (markerPrefix.tail ++ (problem.key.toList ++
      (markerSuffix ++ '\n' :: rest))) := hbody
  rw [strip, String.toList_ofList, hfirst, List.dropWhile_cons_of_neg (by decide)]
  -- what is dropped at the end is white space, so it does not reach the first character
  cases hleft : List.rdropWhile isSpace ('<' :: (markerPrefix.tail ++ (problem.key.toList ++
      (markerSuffix ++ '\n' :: rest)))) with
  | nil => exact absurd (List.rdropWhile_eq_nil_iff.mp hleft '<' List.mem_cons_self) (by decide)
  | cons c left =>
    have hstart := List.rdropWhile_prefix isSpace ('<' :: (markerPrefix.tail ++
      (problem.key.toList ++ (markerSuffix ++ '\n' :: rest))))
    rw [hleft, List.cons_prefix_cons] at hstart
    exact ⟨left, by rw [hstart.1]⟩

/-- A marker around a key without blanks is matched. -/
theorem matchMarker_marker {key rest : List Char} (hne : key ≠ []) (hblank : ' ' ∉ key) :
    matchMarker (markerPrefix ++ (key ++ (markerSuffix ++ rest))) = some key := by
  have hkey : ∀ c ∈ key, (c ≠ ' ' : Bool) = true := by
    intro c hc
    simpa using fun h : c = ' ' => hblank (h ▸ hc)
  have hsuffix : markerSuffix ++ rest = ' ' :: ("-->".toList ++ rest) := rfl
  unfold matchMarker
  rw [if_pos (List.prefix_append _ _), List.drop_left]
  simp only [hsuffix, List.takeWhile_append_of_pos hkey, List.dropWhile_append_of_pos hkey]
  rw [List.takeWhile_cons_of_neg (by simp), List.dropWhile_cons_of_neg (by simp), ← hsuffix,
    List.append_nil, if_pos ⟨hne, List.prefix_append _ _⟩]

/-- A marker at the beginning is found. -/
theorem searchMarker_of_matchMarker {text key : List Char} (h : matchMarker text = some key) :
    searchMarker text = some key := by
  cases text with
  | nil =>
    have hnil : matchMarker [] = none := by decide
    rw [hnil] at h
    cases h
  | cons c rest => rw [searchMarker, h, Option.some_or]

/-- A key without a blank is read back from the body. -/
theorem Issue.key_body {problem : Problem} (hne : problem.key ≠ "")
    (hblank : ' ' ∉ problem.key.toList) (number : Nat) (state : String) :
    (⟨number, state, problem.body⟩ : Issue).key = some problem.key := by
  obtain ⟨rest, hbody⟩ := problem.toList_body
  have hkey : problem.key.toList ≠ [] := by simpa using hne
  rw [Issue.key, hbody, searchMarker_of_matchMarker (matchMarker_marker hkey hblank),
    Option.map_some, String.ofList_toList]

/-- A key that is matched has no blank. -/
theorem blank_notMem_of_matchMarker {text key : List Char} (h : matchMarker text = some key) :
    ' ' ∉ key := by
  unfold matchMarker at h
  split at h
  · simp only at h
    split at h
    · obtain rfl := Option.some.inj h
      intro hmem
      simpa using List.mem_takeWhile_imp hmem
    · cases h
  · cases h

/-- Nor has a key that is found. -/
theorem blank_notMem_of_searchMarker {text key : List Char} (h : searchMarker text = some key) :
    ' ' ∉ key := by
  induction text with
  | nil => cases h
  | cons c rest ih =>
    rw [searchMarker, Option.or_eq_some_iff] at h
    rcases h with hmatch | ⟨-, hrest⟩
    · exact blank_notMem_of_matchMarker hmatch
    · exact ih hrest

/-- No key that is read has a blank. -/
theorem Issue.blank_notMem_key {issue : Issue} {key : String} (h : issue.key = some key) :
    ' ' ∉ key.toList := by
  obtain ⟨cs, hcs, rfl⟩ := Option.map_eq_some_iff.mp h
  rw [String.toList_ofList]
  exact blank_notMem_of_searchMarker hcs

/-! ## The issues by key -/

/-- The issue that stands for each key: one of those with the key, and an open one if
    there is any. -/
structure Indexes (byKey : Dict String Issue) (issues : List Issue) : Prop where
  sound : ∀ key issue, byKey.get? key = some issue → issue ∈ issues ∧ issue.key = some key
  complete : ∀ issue ∈ issues, ∀ key, issue.key = some key →
    ∃ chosen, byKey.get? key = some chosen ∧ (issue.isOpen = true → chosen.isOpen = true)

theorem Indexes.empty : Indexes .empty [] where
  sound := by simp
  complete := by simp

/-- Keeping one more issue indexes it. -/
theorem Indexes.keepIssue {byKey : Dict String Issue} {issues : List Issue}
    (h : Indexes byKey issues) (issue : Issue) :
    Indexes (keepIssue byKey issue) (issues ++ [issue]) := by
  unfold VulnerabilityIssues.keepIssue
  cases hkey : issue.key with
  | none =>
    refine ⟨fun key other hother => ?_, fun other hother key hotherkey => ?_⟩
    · exact ⟨List.mem_append_left _ (h.sound key other hother).1, (h.sound key other hother).2⟩
    · rcases List.mem_append.mp hother with hmem | hmem
      · exact h.complete other hmem key hotherkey
      · obtain rfl := List.mem_singleton.mp hmem
        rw [hkey] at hotherkey
        cases hotherkey
  | some key =>
    simp only
    split
    · rename_i hreplace
      refine ⟨fun key' other hother => ?_, fun other hother key' hotherkey => ?_⟩
      · rw [Dict.get?_set] at hother
        split at hother
        · rename_i heq
          obtain rfl := Option.some.inj hother
          exact ⟨by simp, heq ▸ hkey⟩
        · exact ⟨List.mem_append_left _ (h.sound key' other hother).1, (h.sound key' other hother).2⟩
      · rw [Dict.get?_set]
        split
        · rename_i heq
          refine ⟨issue, rfl, fun hopen => ?_⟩
          -- the issue that was there is replaced by an open one only
          rcases List.mem_append.mp hother with hmem | hmem
          · rcases hreplace with hnew | hissue
            · obtain ⟨chosen, hchosen, -⟩ := h.complete other hmem key' hotherkey
              rw [Dict.contains, ← heq, hchosen] at hnew
              cases hnew
            · exact hissue
          · exact List.mem_singleton.mp hmem ▸ hopen
        · rename_i hne
          rcases List.mem_append.mp hother with hmem | hmem
          · exact h.complete other hmem key' hotherkey
          · obtain rfl := List.mem_singleton.mp hmem
            exact absurd (Option.some.inj (hotherkey.symm.trans hkey)) hne
    · rename_i hkeep
      rw [not_or, Bool.not_eq_false, Bool.not_eq_true] at hkeep
      refine ⟨fun key' other hother => ?_, fun other hother key' hotherkey => ?_⟩
      · exact ⟨List.mem_append_left _ (h.sound key' other hother).1, (h.sound key' other hother).2⟩
      · rcases List.mem_append.mp hother with hmem | hmem
        · exact h.complete other hmem key' hotherkey
        · obtain rfl := List.mem_singleton.mp hmem
          obtain rfl := Option.some.inj (hotherkey.symm.trans hkey)
          obtain ⟨chosen, hchosen⟩ := Option.isSome_iff_exists.mp hkeep.1
          exact ⟨chosen, hchosen, fun hopen => absurd hopen (by simp [hkeep.2])⟩

/-- All issues are indexed by their keys. -/
theorem indexes_issuesByKey (issues : List Issue) : Indexes (issuesByKey issues) issues := by
  have hfold : ∀ l : List Issue, Indexes (l.foldl VulnerabilityIssues.keepIssue .empty) l := by
    intro l
    induction l using List.reverseRecOn with
    | nil => exact .empty
    | append_singleton l issue ih =>
      rw [List.foldl_append, List.foldl_cons, List.foldl_nil]
      exact ih.keepIssue issue
  have hsorted := hfold (issues.insertionSort fun a b => a.number ≤ b.number)
  exact ⟨fun key issue h => ⟨(List.mem_insertionSort _).mp (hsorted.sound key issue h).1,
      (hsorted.sound key issue h).2⟩,
    fun issue h => hsorted.complete issue ((List.mem_insertionSort _).mpr h)⟩

/-! ## Actions on the issues of one key -/

/-- The issues with a key. -/
def withKey (key : String) (issues : List Issue) : List Issue :=
  issues.filter fun issue => issue.key = some key

/-- The open issues among them. -/
def openWith (key : String) (issues : List Issue) : List Issue :=
  (withKey key issues).filter Issue.isOpen

theorem mem_withKey {key : String} {issues : List Issue} {issue : Issue} :
    issue ∈ withKey key issues ↔ issue ∈ issues ∧ issue.key = some key := by
  simp [withKey]

/-- No two issues have the same number. -/
def Numbered (issues : List Issue) : Prop := (issues.map Issue.number).Nodup

theorem Numbered.nodup {issues : List Issue} (h : Numbered issues) : issues.Nodup :=
  List.Nodup.of_map _ h

theorem Numbered.eq {issues : List Issue} (h : Numbered issues) {a b : Issue} (ha : a ∈ issues)
    (hb : b ∈ issues) (hnumber : a.number = b.number) : a = b :=
  List.inj_on_of_nodup_map h ha hb hnumber

/-- An open issue is open. -/
@[simp] theorem isOpen_open (number : Nat) (body : String) :
    (⟨number, "OPEN", body⟩ : Issue).isOpen = true := by
  have hupper : "OPEN".toUpper = "OPEN" := by decide +kernel
  simpa [Issue.isOpen] using hupper

/-- A closed issue is not. -/
@[simp] theorem isOpen_closed (number : Nat) (body : String) :
    (⟨number, "CLOSED", body⟩ : Issue).isOpen = false := by
  have hupper : "CLOSED".toUpper ≠ "OPEN" := by decide +kernel
  simpa [Issue.isOpen] using hupper

/-- The issues where the one with the number of another is written over. -/
def rewriteIssue (target : Issue) (f : Issue → Issue) (issues : List Issue) : List Issue :=
  issues.map fun issue => if issue.number = target.number then f issue else issue

section Rewriting

variable {issues : List Issue} {target : Issue} {f : Issue → Issue} {key : String}

/-- Among numbered issues one is rewritten. -/
theorem rewriteIssue_eq (h : Numbered issues) (hmem : target ∈ issues) :
    rewriteIssue target f issues =
      issues.map fun issue => if issue = target then f target else issue := by
  refine List.map_congr_left fun issue hissue => ?_
  by_cases hnumber : issue.number = target.number
  · obtain rfl := h.eq hissue hmem hnumber
    simp
  · rw [if_neg hnumber, if_neg fun heq => hnumber (congrArg Issue.number heq)]

/-- Issues stay numbered when one is rewritten. -/
theorem numbered_rewriteIssue (h : Numbered issues)
    (hf : ∀ issue, (f issue).number = issue.number) : Numbered (rewriteIssue target f issues) := by
  have hmap : (rewriteIssue target f issues).map Issue.number = issues.map Issue.number := by
    rw [rewriteIssue, List.map_map]
    refine List.map_congr_left fun issue _ => ?_
    simp only [Function.comp_apply]
    split
    · exact hf issue
    · rfl
  unfold Numbered
  rw [hmap]
  exact h

/-- An issue that keeps its key stays among the issues of its key. -/
theorem withKey_rewriteIssue (h : Numbered issues) (hmem : target ∈ issues)
    (hf : (f target).key = target.key) (k : String) :
    withKey k (rewriteIssue target f issues) =
      (withKey k issues).map fun issue => if issue = target then f target else issue := by
  rw [rewriteIssue_eq h hmem, withKey, List.filter_map, withKey]
  congr 1
  refine List.filter_congr fun issue _ => ?_
  simp only [Function.comp_apply]
  split
  · rename_i heq
    rw [hf, heq]
  · rfl

/-- The other keys have their issues as before. -/
theorem withKey_rewriteIssue_of_ne (h : Numbered issues) (hmem : target ∈ issues)
    (hkey : target.key = some key) (hf : (f target).key = target.key) {k : String} (hne : k ≠ key) :
    withKey k (rewriteIssue target f issues) = withKey k issues := by
  rw [withKey_rewriteIssue h hmem hf]
  refine (List.map_congr_left fun issue hissue => ?_).trans (List.map_id _)
  rw [if_neg, id]
  rintro rfl
  exact hne (Option.some.inj ((mem_withKey.mp hissue).2.symm.trans hkey))

/-- Where the other issues of the key are not open, what is open is the one that was
    written over, if it is. -/
theorem openWith_rewriteIssue (h : Numbered issues) (hmem : target ∈ issues)
    (hkey : target.key = some key) (hf : (f target).key = target.key)
    (hothers : ∀ issue ∈ withKey key issues, issue ≠ target → issue.isOpen = false) :
    openWith key (rewriteIssue target f issues) = [f target].filter Issue.isOpen := by
  rw [openWith, withKey_rewriteIssue h hmem hf]
  obtain ⟨s, t, hsplit⟩ := List.append_of_mem (mem_withKey.mpr ⟨hmem, hkey⟩)
  have hnodup : (s ++ target :: t).Nodup := hsplit ▸ h.nodup.filter _
  have htarget : target ∉ s ++ t := (List.nodup_cons.mp (List.nodup_middle.mp hnodup)).1
  have hclosed : ∀ l : List Issue, (∀ issue ∈ l, issue ∈ s ++ t) →
      (l.map fun issue => if issue = target then f target else issue).filter Issue.isOpen = [] := by
    intro l hl
    rw [List.filter_eq_nil_iff]
    intro issue hissue
    obtain ⟨before, hbefore, rfl⟩ := List.mem_map.mp hissue
    have hne : before ≠ target := fun heq => htarget (heq ▸ hl before hbefore)
    have hwith : before ∈ withKey key issues := by
      rw [hsplit, List.mem_append, List.mem_cons]
      rcases List.mem_append.mp (hl before hbefore) with hs | ht
      · exact .inl hs
      · exact .inr (.inr ht)
    rw [if_neg hne, hothers before hwith hne]
    simp
  rw [hsplit, List.map_append, List.filter_append, List.map_cons, if_pos rfl,
    hclosed s fun issue hissue => List.mem_append_left _ hissue, List.nil_append,
    ← List.singleton_append, List.filter_append,
    hclosed t fun issue hissue => List.mem_append_right _ hissue, List.append_nil]

end Rewriting

/-! ## Actions by key -/

section Steps

variable {newNumber : List Issue → Nat}

/-- Actions are applied one list after the other. -/
theorem applyActions_append (issues : List Issue) (first second : List Action) :
    applyActions newNumber issues (first ++ second) =
      applyActions newNumber (applyActions newNumber issues first) second :=
  List.foldl_append

/-- Rewriting an issue twice is rewriting it once. -/
theorem rewriteIssue_rewriteIssue {target : Issue} {f g : Issue → Issue}
    (hf : ∀ issue, (f issue).number = issue.number) (issues : List Issue) :
    rewriteIssue target g (rewriteIssue target f issues) = rewriteIssue target (g ∘ f) issues := by
  rw [rewriteIssue, rewriteIssue, rewriteIssue, List.map_map]
  refine List.map_congr_left fun issue _ => ?_
  by_cases hnumber : issue.number = target.number
  · simp [hnumber, hf]
  · simp [hnumber]

theorem rewriteIssue_id (target : Issue) (issues : List Issue) :
    rewriteIssue target id issues = issues := by
  simp [rewriteIssue]

/-- An action on an issue that is there. -/
theorem applyAction_rewriteIssue {action : Action} (target : Issue)
    (hkind : action.kind ≠ .create) (hnumber : action.number = some target.number)
    (issues : List Issue) :
    applyAction newNumber issues action = rewriteIssue target action.update issues := by
  have hmap : applyAction newNumber issues action = issues.map action.update := by
    unfold applyAction
    cases hk : action.kind <;> simp_all
  rw [hmap, rewriteIssue]
  refine List.map_congr_left fun issue _ => ?_
  split
  · rfl
  · rename_i hne
    rw [Action.update, hnumber, if_neg]
    exact fun heq => hne (Option.some.inj heq).symm

/-- What the actions for a problem do to the issue that stands for it. -/
def settle (existing : Issue) (problem : Problem) (issue : Issue) : Issue where
  number := issue.number
  state := if existing.isOpen = false then "OPEN" else issue.state
  body := if strip existing.body ≠ strip problem.body then problem.body else issue.body

/-- The actions for a problem with an issue settle that issue. -/
theorem applyActions_existing {byKey : Dict String Issue} {key : String} {existing : Issue}
    (h : byKey.get? key = some existing) (problem : Problem) (issues : List Issue) :
    applyActions newNumber issues (problemActions byKey key problem) =
      rewriteIssue existing (settle existing problem) issues := by
  -- each action is left out where it would change nothing
  have hreopen : applyActions newNumber issues (if existing.isOpen = false then
        [{ kind := .reopen, key := key, number := some existing.number }] else []) =
      rewriteIssue existing
        (fun issue => { issue with state := if existing.isOpen = false then "OPEN" else issue.state })
        issues := by
    split
    · rw [applyActions, List.foldl_cons, List.foldl_nil,
        applyAction_rewriteIssue existing (by simp) rfl]
      refine List.map_congr_left fun issue _ => ?_
      split
      · rename_i hnumber
        simp [Action.update, hnumber]
      · rfl
    · exact (rewriteIssue_id existing issues).symm
  have hedit : ∀ issues, applyActions newNumber issues (if strip existing.body ≠ strip problem.body then
        [{ kind := .edit, key := key, number := some existing.number, body := problem.body }]
        else []) =
      rewriteIssue existing
        (fun issue => { issue with
          body := if strip existing.body ≠ strip problem.body then problem.body else issue.body })
        issues := by
    intro issues
    split
    · rw [applyActions, List.foldl_cons, List.foldl_nil,
        applyAction_rewriteIssue existing (by simp) rfl]
      refine List.map_congr_left fun issue _ => ?_
      split
      · rename_i hnumber
        simp [Action.update, hnumber]
      · rfl
    · exact (rewriteIssue_id existing issues).symm
  rw [problemActions, h]
  simp only
  rw [applyActions_append, hreopen, hedit]
  refine rewriteIssue_rewriteIssue ?_ issues
  exact fun _ => rfl

/-- Actions for one key, whatever the list is that they meet: they keep the numbers apart
    and the other keys as they are, and lead to `P`. -/
def Achieves (newNumber : List Issue → Nat) (act : String → List Action) (before : List Issue)
    (P : List Issue → Prop) (key : String) : Prop :=
  ∀ issues, Numbered issues → withKey key issues = withKey key before →
    Numbered (applyActions newNumber issues (act key)) ∧
      (∀ k, k ≠ key → withKey k (applyActions newNumber issues (act key)) = withKey k issues) ∧
      P (withKey key (applyActions newNumber issues (act key)))

/-- Actions for one key after the other lead to `P` for each of them. -/
theorem applyActions_flatMap (newNumber : List Issue → Nat) {act : String → List Action} {P : String → List Issue → Prop}
    {keys : List String} (hkeys : keys.Nodup) {issues : List Issue} (hissues : Numbered issues)
    (hact : ∀ key ∈ keys, Achieves newNumber act issues (P key) key) :
    Numbered (applyActions newNumber issues (keys.flatMap act)) ∧
      (∀ key, key ∉ keys →
        withKey key (applyActions newNumber issues (keys.flatMap act)) = withKey key issues) ∧
      ∀ key ∈ keys, P key (withKey key (applyActions newNumber issues (keys.flatMap act))) := by
  induction keys generalizing issues with
  | nil => exact ⟨hissues, fun _ _ => rfl, by simp⟩
  | cons first rest ih =>
    obtain ⟨hfirst, hrest⟩ := List.nodup_cons.mp hkeys
    obtain ⟨hnumbered, hframe, hP⟩ := hact first List.mem_cons_self issues hissues rfl
    rw [List.flatMap_cons, applyActions_append]
    obtain ⟨hnumbered', hframe', hP'⟩ := ih hrest hnumbered fun key hkey => by
      have hne : key ≠ first := fun heq => hfirst (heq ▸ hkey)
      have hkey' := hact key (List.mem_cons_of_mem _ hkey)
      intro cur hcur hwith
      exact hkey' cur hcur (hwith.trans (hframe key hne))
    refine ⟨hnumbered', fun key hkey => ?_, fun key hkey => ?_⟩
    · rw [List.mem_cons, not_or] at hkey
      rw [hframe' key hkey.2, hframe key hkey.1]
    · rcases List.mem_cons.mp hkey with rfl | hkey
      · rw [hframe' key hfirst]
        exact hP
      · exact hP' key hkey

/-- No key has two open issues. -/
def OneOpen (issues : List Issue) : Prop :=
  ∀ a ∈ issues, ∀ b ∈ issues, ∀ key, a.isOpen = true → b.isOpen = true → a.key = some key →
    b.key = some key → a = b

/-- Beside the issue that stands for its key, none with the key is open. -/
theorem Indexes.others_closed {byKey : Dict String Issue} {before issues : List Issue}
    (hindexes : Indexes byKey before) (hone : OneOpen before) {key : String} {existing : Issue}
    (hexisting : byKey.get? key = some existing) (hwith : withKey key issues = withKey key before) :
    ∀ issue ∈ withKey key issues, issue ≠ existing → issue.isOpen = false := by
  intro issue hissue hne
  rw [hwith, mem_withKey] at hissue
  obtain ⟨chosen, hchosen, hopen⟩ := hindexes.complete issue hissue.1 key hissue.2
  obtain rfl := Option.some.inj (hexisting.symm.trans hchosen)
  by_contra hissueopen
  rw [Bool.not_eq_false] at hissueopen
  obtain ⟨hmem, hkey⟩ := hindexes.sound key existing hexisting
  exact hne (hone issue hissue.1 existing hmem key hissueopen (hopen hissueopen) hissue.2 hkey)

/-- The body that the actions for a problem lead to: white space around the text is not
    worth an edit. -/
def settledBody (byKey : Dict String Issue) (key : String) (problem : Problem) : String :=
  match byKey.get? key with
  | none => problem.body
  | some existing =>
    if strip existing.body ≠ strip problem.body then problem.body else existing.body

/-- A settled body is the problem's up to white space around it. -/
theorem strip_settledBody (byKey : Dict String Issue) (key : String) (problem : Problem) :
    strip (settledBody byKey key problem) = strip problem.body := by
  unfold settledBody
  split
  · rfl
  · split
    · rfl
    · rename_i hbody
      exact not_not.mp hbody

/-- What a problem should have: one open issue, with its body. -/
def Settled (byKey : Dict String Issue) (key : String) (problem : Problem) (issues : List Issue) :
    Prop :=
  ∃ issue, issues.filter Issue.isOpen = [issue] ∧ issue.body = settledBody byKey key problem

/-- The actions for a problem leave it one open issue. -/
theorem achieves_problem {byKey : Dict String Issue} {before : List Issue}
    (hfresh : ∀ issues : List Issue, ∀ issue ∈ issues, issue.number ≠ newNumber issues)
    (hindexes : Indexes byKey before) (hone : OneOpen before) {problem : Problem}
    {act : String → List Action} (hact : act problem.key = problemActions byKey problem.key problem)
    (hne : problem.key ≠ "") (hblank : ' ' ∉ problem.key.toList) :
    Achieves newNumber act before (Settled byKey problem.key problem) problem.key := by
  intro issues hissues hwith
  rw [hact]
  cases hexisting : byKey.get? problem.key with
  | none =>
    -- there is no issue with the key
    have hnone : withKey problem.key issues = [] := by
      rw [hwith, List.eq_nil_iff_forall_not_mem]
      intro issue hissue
      obtain ⟨chosen, hchosen, -⟩ := hindexes.complete issue (mem_withKey.mp hissue).1 _
        (mem_withKey.mp hissue).2
      rw [hexisting] at hchosen
      cases hchosen
    have hafter : applyActions newNumber issues (problemActions byKey problem.key problem) =
        issues ++ [⟨newNumber issues, "OPEN", problem.body⟩] := by
      rw [problemActions, hexisting]
      rfl
    have hkey := Issue.key_body hne hblank (newNumber issues) "OPEN"
    rw [hafter]
    refine ⟨?_, fun k hk => ?_, ?_⟩
    · unfold Numbered
      rw [List.map_append, List.map_singleton, List.nodup_append]
      refine ⟨hissues, List.nodup_singleton _, ?_⟩
      rintro n hn m hm rfl
      obtain ⟨issue, hissue, rfl⟩ := List.mem_map.mp hn
      exact hfresh issues issue hissue (List.mem_singleton.mp hm)
    · rw [withKey, List.filter_append, List.filter_cons_of_neg, List.filter_nil, List.append_nil]
      · rfl
      · simpa [hkey] using Ne.symm hk
    · refine ⟨⟨newNumber issues, "OPEN", problem.body⟩, ?_, by rw [settledBody, hexisting]⟩
      have hfilter : withKey problem.key (issues ++ [⟨newNumber issues, "OPEN", problem.body⟩]) =
          [⟨newNumber issues, "OPEN", problem.body⟩] := by
        rw [withKey, List.filter_append, ← withKey, hnone, List.nil_append,
          List.filter_cons_of_pos (by simpa using hkey), List.filter_nil]
      rw [hfilter, List.filter_cons_of_pos (isOpen_open _ _), List.filter_nil]
  | some existing =>
    obtain ⟨hmem, hkey⟩ := hindexes.sound _ _ hexisting
    have hmem' : existing ∈ issues :=
      (mem_withKey.mp (hwith ▸ mem_withKey.mpr ⟨hmem, hkey⟩)).1
    have hsettle : (settle existing problem existing).key = existing.key := by
      rw [hkey]
      by_cases hbody : strip existing.body = strip problem.body
      · rw [← hkey]
        simp [settle, hbody, Issue.key]
      · have := Issue.key_body hne hblank existing.number
          (if existing.isOpen = false then "OPEN" else existing.state)
        simpa [settle, hbody] using this
    rw [applyActions_existing hexisting]
    refine ⟨numbered_rewriteIssue hissues fun _ => rfl,
      fun k hk => withKey_rewriteIssue_of_ne hissues hmem' hkey hsettle hk, ?_⟩
    refine ⟨settle existing problem existing, ?_, by simp only [settledBody, hexisting, settle]⟩
    · have hopen : (settle existing problem existing).isOpen = true := by
        unfold settle
        cases hstate : existing.isOpen with
        | false => simp
        | true => simpa [Issue.isOpen] using hstate
      rw [← openWith, openWith_rewriteIssue hissues hmem' hkey hsettle
        (hindexes.others_closed hone hexisting hwith), List.filter_cons_of_pos hopen, List.filter_nil]

/-- Closing leaves no open issue of a key without a problem. -/
theorem achieves_close {byKey : Dict String Issue} {before : List Issue}
    (hindexes : Indexes byKey before) (hone : OneOpen before) {problems : Dict String Problem}
    {act : String → List Action} {key : String} {existing : Issue}
    (hexisting : byKey.get? key = some existing) (hproblem : problems.contains key = false)
    (hact : act key = closeActions problems key existing) :
    Achieves newNumber act before (fun issues => issues.filter Issue.isOpen = []) key := by
  intro issues hissues hwith
  obtain ⟨hmem, hkey⟩ := hindexes.sound _ _ hexisting
  have hmem' : existing ∈ issues := (mem_withKey.mp (hwith ▸ mem_withKey.mpr ⟨hmem, hkey⟩)).1
  have hothers := hindexes.others_closed hone hexisting hwith
  rw [hact, closeActions]
  -- an open issue without a problem is closed, a closed one is left alone
  by_cases hopen : existing.isOpen = true
  · rw [if_pos ⟨hproblem, hopen⟩, applyActions, List.foldl_cons, List.foldl_nil,
      applyAction_rewriteIssue existing (by simp) rfl]
    have hclosed : (Action.update { kind := .close, key := key, number := some existing.number }
        existing) = ⟨existing.number, "CLOSED", existing.body⟩ := by
      simp [Action.update]
    have hkeep : (Action.update { kind := .close, key := key, number := some existing.number }
        existing).key = existing.key := by
      rw [hclosed]
      rfl
    refine ⟨numbered_rewriteIssue hissues fun issue => ?_,
      fun k hk => withKey_rewriteIssue_of_ne hissues hmem' hkey hkeep hk, ?_⟩
    · unfold Action.update
      split <;> rfl
    · refine (openWith_rewriteIssue hissues hmem' hkey hkeep hothers).trans ?_
      rw [hclosed, List.filter_cons_of_neg (by simp), List.filter_nil]
  · rw [if_neg fun h => hopen h.2]
    refine ⟨hissues, fun _ _ => rfl, List.filter_eq_nil_iff.mpr fun issue hissue => ?_⟩
    by_cases heq : issue = existing
    · exact heq ▸ hopen
    · rw [hothers issue hissue heq]
      simp

end Steps

/-! ## The two loops -/

/-- The issues are those of the problems: one open issue each, with the problem's body as
    `same` has it, none for another key, and nothing left to do. -/
structure Converged (same : String → String → Prop) (problems : Dict String Problem)
    (issues : List Issue) : Prop where
  one : ∀ key problem, problems.get? key = some problem →
    ∃ issue, openWith key issues = [issue] ∧ same issue.body problem.body
  other : ∀ key, problems.contains key = false → openWith key issues = []
  stable : planActions problems issues true = []

/-- The problems are kept under their keys. -/
def Keyed (problems : Dict String Problem) : Prop :=
  ∀ key problem, problems.get? key = some problem → problem.key = key ∧ key ≠ ""

/-- One round of the first loop. -/
def planOf (problems : Dict String Problem) (byKey : Dict String Issue) (key : String) :
    List Action :=
  ((problems.get? key).map (problemActions byKey key)).getD []

/-- One round of the second loop. -/
def closingOf (problems : Dict String Problem) (byKey : Dict String Issue) (key : String) :
    List Action :=
  ((byKey.get? key).map (closeActions problems key)).getD []

section Planning

variable {newNumber : List Issue → Nat} {problems : Dict String Problem} {issues : List Issue}

/-- A complete plan is made of the plan of each key and the closing of each issue. -/
theorem planActions_complete (problems : Dict String Problem) (issues : List Issue) :
    planActions problems issues true =
      (sorted problems.keys).flatMap (planOf problems (issuesByKey issues)) ++
        (sorted (issuesByKey issues).keys).flatMap (closingOf problems (issuesByKey issues)) := rfl

theorem mem_sorted {keys : List String} {key : String} : key ∈ sorted keys ↔ key ∈ keys :=
  List.mem_insertionSort _

theorem nodup_sorted {keys : List String} (h : keys.Nodup) : (sorted keys).Nodup :=
  (List.perm_insertionSort _ _).nodup_iff.mpr h

/-- The plan of a key settles its problem. -/
theorem achieves_planOf
    (hfresh : ∀ issues : List Issue, ∀ issue ∈ issues, issue.number ≠ newNumber issues)
    (hkeyed : Keyed problems) (hblanks : ∀ key ∈ problems.keys, ' ' ∉ key.toList)
    (hone : OneOpen issues) {key : String} (hkey : key ∈ problems.keys) :
    Achieves newNumber (planOf problems (issuesByKey issues)) issues
      (fun after => ∀ problem, problems.get? key = some problem →
        Settled (issuesByKey issues) key problem after) key := by
  obtain ⟨problem, hproblem⟩ := Dict.mem_keys_iff.mp hkey
  obtain ⟨rfl, hne⟩ := hkeyed key problem hproblem
  have hplan : planOf problems (issuesByKey issues) problem.key =
      problemActions (issuesByKey issues) problem.key problem := by
    rw [planOf, hproblem, Option.map_some, Option.getD_some]
  intro cur hcur hwith
  obtain ⟨hnumbered, hframe, hsettled⟩ :=
    achieves_problem hfresh (indexes_issuesByKey issues) hone hplan hne (hblanks _ hkey) cur hcur
      hwith
  refine ⟨hnumbered, hframe, fun problem' hproblem' => ?_⟩
  obtain rfl := Option.some.inj (hproblem.symm.trans hproblem')
  exact hsettled

/-- The second loop passes over the keys of the problems. -/
theorem achieves_closingOf (hone : OneOpen issues) {mid : List Issue} {key : String}
    (hkey : key ∈ (issuesByKey issues).keys)
    (hmid : problems.contains key = false → withKey key mid = withKey key issues) :
    Achieves newNumber (closingOf problems (issuesByKey issues)) mid
      (fun after => (problems.contains key = true → after = withKey key mid) ∧
        (problems.contains key = false → after.filter Issue.isOpen = [])) key := by
  obtain ⟨existing, hexisting⟩ := Dict.mem_keys_iff.mp hkey
  have hclosing : closingOf problems (issuesByKey issues) key = closeActions problems key existing := by
    rw [closingOf, hexisting, Option.map_some, Option.getD_some]
  intro cur hcur hwith
  cases hproblem : problems.contains key with
  | true =>
    have hnone : closingOf problems (issuesByKey issues) key = [] := by
      rw [hclosing, closeActions, if_neg (by simp [hproblem])]
    rw [hnone]
    exact ⟨hcur, fun _ _ => rfl, fun _ => hwith, fun h => by cases h⟩
  | false =>
    obtain ⟨hnumbered, hframe, hclosed⟩ :=
      achieves_close (indexes_issuesByKey issues) hone hexisting hproblem hclosing cur hcur
        (hwith.trans (hmid hproblem))
    exact ⟨hnumbered, hframe, fun h => (by cases h), fun _ => hclosed⟩

/-- What the plan does to the issues of a key, where no problem's key has a blank. -/
theorem openWith_planned
    (hfresh : ∀ issues : List Issue, ∀ issue ∈ issues, issue.number ≠ newNumber issues)
    (hkeyed : Keyed problems) (hblanks : ∀ key ∈ problems.keys, ' ' ∉ key.toList)
    (hissues : Numbered issues) (hone : OneOpen issues) :
    (∀ key problem, problems.get? key = some problem →
      ∃ issue, openWith key (applyActions newNumber issues (planActions problems issues true)) =
          [issue] ∧ issue.body = settledBody (issuesByKey issues) key problem) ∧
    ∀ key, problems.contains key = false →
      openWith key (applyActions newNumber issues (planActions problems issues true)) = [] := by
  rw [planActions_complete, applyActions_append]
  obtain ⟨hmidnumbered, hmidframe, hmid⟩ :=
    applyActions_flatMap newNumber (nodup_sorted problems.keys_nodup) hissues fun key hkey =>
      achieves_planOf hfresh hkeyed hblanks hone (mem_sorted.mp hkey)
  generalize applyActions newNumber issues
    ((sorted problems.keys).flatMap (planOf problems (issuesByKey issues))) = mid at *
  have hmidnew : ∀ key, problems.contains key = false → withKey key mid = withKey key issues :=
    fun key hkey => hmidframe key fun hmem => by
      rw [Dict.contains_iff.mpr (mem_sorted.mp hmem)] at hkey
      cases hkey
  obtain ⟨-, hframe, hafter⟩ :=
    applyActions_flatMap newNumber (nodup_sorted (issuesByKey issues).keys_nodup) hmidnumbered
      fun key hkey =>
      achieves_closingOf hone (mem_sorted.mp hkey) (hmidnew key)
  generalize applyActions newNumber mid
    ((sorted (issuesByKey issues).keys).flatMap (closingOf problems (issuesByKey issues))) = after at *
  refine ⟨fun key problem hproblem => ?_, fun key hkey => ?_⟩
  · have hcontains : problems.contains key = true :=
      Dict.contains_iff.mpr (Dict.mem_keys_iff.mpr ⟨problem, hproblem⟩)
    have hwith : withKey key after = withKey key mid := by
      by_cases hmem : key ∈ sorted (issuesByKey issues).keys
      · exact (hafter key hmem).1 hcontains
      · exact hframe key hmem
    rw [openWith, hwith]
    exact hmid key (mem_sorted.mpr (Dict.contains_iff.mp hcontains)) problem hproblem
  · by_cases hmem : key ∈ sorted (issuesByKey issues).keys
    · exact (hafter key hmem).2 hkey
    -- a key that no issue has
    · rw [openWith, hframe key hmem, hmidnew key hkey, List.filter_eq_nil_iff]
      intro issue hissue
      obtain ⟨chosen, hchosen, -⟩ := (indexes_issuesByKey issues).complete issue
        (mem_withKey.mp hissue).1 key (mem_withKey.mp hissue).2
      exact absurd (mem_sorted.mpr (Dict.mem_keys_iff.mpr ⟨chosen, hchosen⟩)) hmem

/-- Where every problem has its open issue and no other key has one, there is nothing
    to do. -/
theorem planActions_eq_nil
    (hone : ∀ key problem, problems.get? key = some problem →
      ∃ issue, openWith key issues = [issue] ∧ strip issue.body = strip problem.body)
    (hother : ∀ key, problems.contains key = false → openWith key issues = []) :
    planActions problems issues true = [] := by
  have hindexes := indexes_issuesByKey issues
  have hopen : ∀ key existing, (issuesByKey issues).get? key = some existing →
      existing.isOpen = true → existing ∈ openWith key issues := by
    intro key existing hexisting hstate
    obtain ⟨hmem, hkey⟩ := hindexes.sound key existing hexisting
    exact List.mem_filter.mpr ⟨mem_withKey.mpr ⟨hmem, hkey⟩, hstate⟩
  rw [planActions_complete, List.append_eq_nil_iff, List.flatMap_eq_nil_iff,
    List.flatMap_eq_nil_iff]
  refine ⟨fun key hkey => ?_, fun key hkey => ?_⟩
  · obtain ⟨problem, hproblem⟩ := Dict.mem_keys_iff.mp (mem_sorted.mp hkey)
    obtain ⟨issue, hissue, hbody⟩ := hone key problem hproblem
    have hmem : issue ∈ openWith key issues := by rw [hissue]; exact List.mem_singleton_self _
    obtain ⟨hwith, hstate⟩ := List.mem_filter.mp hmem
    obtain ⟨chosen, hchosen, hchosenopen⟩ :=
      hindexes.complete issue (mem_withKey.mp hwith).1 key (mem_withKey.mp hwith).2
    -- the indexed issue is the open one
    have hsame : chosen = issue := by
      simpa [hissue] using hopen key chosen hchosen (hchosenopen hstate)
    rw [planOf, hproblem, Option.map_some, Option.getD_some, problemActions, hchosen]
    simp [hsame, hstate, hbody]
  · obtain ⟨existing, hexisting⟩ := Dict.mem_keys_iff.mp (mem_sorted.mp hkey)
    rw [closingOf, hexisting, Option.map_some, Option.getD_some, closeActions, if_neg]
    rintro ⟨hproblem, hstate⟩
    have hmem := hopen key existing hexisting hstate
    rw [hother key hproblem] at hmem
    cases hmem

/-- A problem whose key has a blank is never found again. -/
theorem planActions_ne_nil {key : String} (hkey : key ∈ problems.keys) (hblank : ' ' ∈ key.toList) :
    planActions problems issues true ≠ [] := by
  intro hnil
  rw [planActions_complete, List.append_eq_nil_iff, List.flatMap_eq_nil_iff] at hnil
  obtain ⟨problem, hproblem⟩ := Dict.mem_keys_iff.mp hkey
  have hplan := hnil.1 key (mem_sorted.mpr hkey)
  have hnone : (issuesByKey issues).get? key = none := by
    rw [Option.eq_none_iff_forall_ne_some]
    intro existing hexisting
    exact Issue.blank_notMem_key ((indexes_issuesByKey issues).sound key existing hexisting).2 hblank
  rw [planOf, hproblem, Option.map_some, Option.getD_some, problemActions, hnone] at hplan
  cases hplan

/-- One round is enough exactly when no problem's key has a blank and every issue that is
    taken for a problem has a body that is the same. -/
theorem converged_iff {same : String → String → Prop} (hrefl : ∀ body, same body body)
    (hfresh : ∀ issues : List Issue, ∀ issue ∈ issues, issue.number ≠ newNumber issues)
    (hkeyed : Keyed problems) (hissues : Numbered issues) (hone : OneOpen issues) :
    Converged same problems (applyActions newNumber issues (planActions problems issues true)) ↔
      (∀ key ∈ problems.keys, ' ' ∉ key.toList) ∧
      ∀ key problem existing, problems.get? key = some problem →
        (issuesByKey issues).get? key = some existing → strip existing.body = strip problem.body →
        same existing.body problem.body := by
  constructor
  · intro h
    -- a key with a blank is planned for again and again
    have hblanks : ∀ key ∈ problems.keys, ' ' ∉ key.toList :=
      fun key hkey hblank => planActions_ne_nil hkey hblank h.stable
    refine ⟨hblanks, fun key problem existing hproblem hexisting hbody => ?_⟩
    obtain ⟨issue, hissue, hsettled⟩ :=
      (openWith_planned hfresh hkeyed hblanks hissues hone).1 key problem hproblem
    obtain ⟨issue', hissue', hsame⟩ := h.one key problem hproblem
    obtain rfl : issue = issue' := by simpa using hissue.symm.trans hissue'
    simpa [hsettled, settledBody, hexisting, hbody] using hsame
  · rintro ⟨hblanks, hsame⟩
    obtain ⟨hopen, hother⟩ := openWith_planned hfresh hkeyed hblanks hissues hone
    refine ⟨fun key problem hproblem => ?_, hother,
      planActions_eq_nil (fun key problem hproblem => ?_) hother⟩
    · obtain ⟨issue, hissue, hbody⟩ := hopen key problem hproblem
      refine ⟨issue, hissue, ?_⟩
      rw [hbody, settledBody]
      cases hexisting : (issuesByKey issues).get? key with
      | none => exact hrefl _
      | some existing =>
        simp only
        split
        · exact hrefl _
        · rename_i hstrip
          exact hsame key problem existing hproblem hexisting (not_not.mp hstrip)
    · obtain ⟨issue, hissue, hbody⟩ := hopen key problem hproblem
      exact ⟨issue, hissue, by rw [hbody, strip_settledBody]⟩

end Planning

/-! ## Reports -/

section Reports

variable {pyStr : Json → String}

/-- The id and the package of a finding or an error have no blank. -/
def NamesWithoutBlank (pyStr : Json → String) (fields : JsonObject) : Prop :=
  ' ' ∉ (pyStr (getField fields "id")).toList ∧ ' ' ∉ (pyStr (getField fields "package")).toList

/-- Nor have those of what a report makes a problem. -/
def ReportWithoutBlank (pyStr : Json → String) (report : JsonObject) : Prop :=
  (∀ fields, .obj fields ∈ listField report "findings" →
    getField fields "blocking" = .bool true → NamesWithoutBlank pyStr fields) ∧
  ∀ fields, .obj fields ∈ listField report "exception_errors" → NamesWithoutBlank pyStr fields

/-- A key has no blank exactly when neither its id nor its package has one. -/
theorem blank_notMem_key {kind vulnId package : String} (hkind : ' ' ∉ kind.toList) :
    ' ' ∉ (kind ++ vulnId ++ ":" ++ package).toList ↔
      ' ' ∉ vulnId.toList ∧ ' ' ∉ package.toList := by
  rw [String.toList_append, String.toList_append, String.toList_append]
  simp [hkind]

/-- A key with a kind is not empty. -/
theorem key_ne_empty {kind rest : String} (hkind : kind ≠ "") : kind ++ rest ≠ "" := by
  intro h
  have hlength := congrArg String.length h
  rw [String.length_append, String.length_empty, Nat.add_eq_zero_iff] at hlength
  exact hkind (String.length_eq_zero_iff.mp hlength.1)

/-- The key of a finding is made of its id and package. -/
theorem findingEntry_eq_some {target : String} {item : Json} {entry : Entry} :
    findingEntry pyStr target item = some entry → ∃ fields, item = .obj fields ∧
      getField fields "blocking" = .bool true ∧
      entry.problem.key = "vuln:" ++ pyStr (getField fields "id") ++ ":" ++
        pyStr (getField fields "package") := by
  intro h
  unfold findingEntry at h
  split at h
  · rename_i fields
    split at h
    · rename_i hblocking
      obtain rfl := Option.some.inj h
      exact ⟨fields, rfl, hblocking, rfl⟩
    · cases h
  · cases h

/-- The key of an exception error is made of its id and package. -/
theorem exceptionEntry_eq_some {target : String} {item : Json} {entry : Entry} :
    exceptionEntry pyStr target item = some entry → ∃ fields, item = .obj fields ∧
      entry.problem.key = "exception:" ++ pyStr (getField fields "id") ++ ":" ++
        pyStr (getField fields "package") := by
  intro h
  unfold exceptionEntry at h
  split at h
  · rename_i fields
    obtain rfl := Option.some.inj h
    exact ⟨fields, rfl, rfl⟩
  · cases h

/-- The keys that a report gives are those of its findings and errors. -/
theorem reportWithoutBlank_iff (report : JsonObject) : ReportWithoutBlank pyStr report ↔
    ∀ entry ∈ reportEntries pyStr report, ' ' ∉ entry.problem.key.toList := by
  have hvuln : ' ' ∉ "vuln:".toList := by decide
  have hexception : ' ' ∉ "exception:".toList := by decide
  -- the prefixes have no blank, so the blanks of a key are those of its parts
  constructor
  · rintro ⟨hfindings, herrors⟩ entry hentry
    rcases List.mem_append.mp hentry with hmem | hmem
    · obtain ⟨item, hitem, heq⟩ := List.mem_filterMap.mp hmem
      obtain ⟨fields, rfl, hblocking, hkey⟩ := findingEntry_eq_some heq
      rw [hkey, blank_notMem_key hvuln]
      exact hfindings fields hitem hblocking
    · obtain ⟨item, hitem, heq⟩ := List.mem_filterMap.mp hmem
      obtain ⟨fields, rfl, hkey⟩ := exceptionEntry_eq_some heq
      rw [hkey, blank_notMem_key hexception]
      exact herrors fields hitem
  · intro h
    refine ⟨fun fields hmem hblocking => ?_, fun fields hmem => ?_⟩
    · obtain ⟨entry, hentry⟩ : ∃ entry, findingEntry pyStr
          (pyStr ((report.lookup "target").getD (.str "unknown target"))) (.obj fields) =
            some entry := by
        unfold findingEntry
        simp only [hblocking]
        exact ⟨_, rfl⟩
      obtain ⟨fields', heq, -, hkey⟩ := findingEntry_eq_some hentry
      obtain rfl := Json.obj.inj heq
      refine (blank_notMem_key hvuln).mp (hkey ▸ h entry ?_)
      exact List.mem_append_left _ (List.mem_filterMap.mpr ⟨_, hmem, hentry⟩)
    · obtain ⟨entry, hentry⟩ : ∃ entry, exceptionEntry pyStr
          (pyStr ((report.lookup "target").getD (.str "unknown target"))) (.obj fields) =
            some entry := ⟨_, rfl⟩
      obtain ⟨fields', heq, hkey⟩ := exceptionEntry_eq_some hentry
      obtain rfl := Json.obj.inj heq
      refine (blank_notMem_key hexception).mp (hkey ▸ h entry ?_)
      exact List.mem_append_right _ (List.mem_filterMap.mpr ⟨_, hmem, hentry⟩)

/-- The key of an entry is not empty. -/
theorem entry_key_ne_empty {report : JsonObject} {entry : Entry}
    (h : entry ∈ reportEntries pyStr report) : entry.problem.key ≠ "" := by
  rcases List.mem_append.mp h with hmem | hmem
  · obtain ⟨item, -, heq⟩ := List.mem_filterMap.mp hmem
    obtain ⟨fields, -, -, hkey⟩ := findingEntry_eq_some heq
    rw [hkey, String.append_assoc, String.append_assoc]
    exact key_ne_empty (by decide)
  · obtain ⟨item, -, heq⟩ := List.mem_filterMap.mp hmem
    obtain ⟨fields, -, hkey⟩ := exceptionEntry_eq_some heq
    rw [hkey, String.append_assoc, String.append_assoc]
    exact key_ne_empty (by decide)

/-- The problems have the keys of the entries. -/
theorem foldl_addEntry (entries : List Entry) :
    (∀ key problem, (entries.foldl addEntry .empty).get? key = some problem → problem.key = key) ∧
      ∀ key, key ∈ (entries.foldl addEntry .empty).keys ↔
        ∃ entry ∈ entries, entry.problem.key = key := by
  induction entries using List.reverseRecOn with
  | nil =>
    refine ⟨by simp, fun key => ?_⟩
    rw [Dict.mem_keys_iff]
    simp
  | append_singleton entries entry ih =>
    rw [List.foldl_append, List.foldl_cons, List.foldl_nil]
    generalize entries.foldl addEntry .empty = problems at ih
    obtain ⟨hkeyed, hkeys⟩ := ih
    refine ⟨fun key problem hproblem => ?_, fun key => ?_⟩
    · rw [addEntry, Dict.get?_set] at hproblem
      split at hproblem
      · rename_i hkey
        obtain rfl := Option.some.inj hproblem
        cases hbefore : problems.get? entry.problem.key with
        | none => simp [hkey]
        | some before => simpa [hkey] using hkeyed _ before hbefore
      · exact hkeyed key problem hproblem
    · rw [addEntry, Dict.mem_keys_set, hkeys]
      simp only [List.mem_append, List.mem_singleton]
      constructor
      · rintro (⟨other, hmem, hkey⟩ | rfl)
        · exact ⟨other, .inl hmem, hkey⟩
        · exact ⟨entry, .inr rfl, rfl⟩
      · rintro ⟨other, hmem | rfl, hkey⟩
        · exact .inl ⟨other, hmem, hkey⟩
        · exact .inr hkey.symm

/-- The collected problems are kept under their keys. -/
theorem keyed_collectProblems (pyStr : Json → String) (reports : List JsonObject) :
    Keyed (collectProblems pyStr reports) := by
  obtain ⟨hkeyed, hkeys⟩ := foldl_addEntry (reports.flatMap (reportEntries pyStr))
  intro key problem hproblem
  refine ⟨hkeyed key problem hproblem, ?_⟩
  obtain ⟨entry, hentry, rfl⟩ := (hkeys key).mp (Dict.mem_keys_iff.mpr ⟨problem, hproblem⟩)
  obtain ⟨report, -, hmem⟩ := List.mem_flatMap.mp hentry
  exact entry_key_ne_empty hmem

/-- The keys of the problems have no blank exactly when the reports have none in ids and packages.
    -/
theorem blanks_collectProblems (reports : List JsonObject) :
    (∀ key ∈ (collectProblems pyStr reports).keys, ' ' ∉ key.toList) ↔
      ∀ report ∈ reports, ReportWithoutBlank pyStr report := by
  have hkeys := (foldl_addEntry (reports.flatMap (reportEntries pyStr))).2
  simp only [reportWithoutBlank_iff]
  constructor
  · intro h report hreport entry hentry
    exact h _ ((hkeys _).mpr ⟨entry, List.mem_flatMap.mpr ⟨report, hreport, hentry⟩, rfl⟩)
  · intro h key hkey
    obtain ⟨entry, hentry, rfl⟩ := (hkeys key).mp hkey
    obtain ⟨report, hreport, hmem⟩ := List.mem_flatMap.mp hentry
    exact h report hreport entry hmem

end Reports

/-! ## Closing -/

section Closing

variable {newNumber : List Issue → Nat}

/-- A plan that is not complete closes nothing. -/
theorem planActions_leavesOpen (problems : Dict String Problem) (issues : List Issue) :
    ∀ action ∈ planActions problems issues false, action.kind ≠ .close := by
  intro action haction
  rw [planActions, if_neg (by decide), List.append_nil] at haction
  obtain ⟨key, -, hmem⟩ := List.mem_flatMap.mp haction
  cases hproblem : problems.get? key with
  | none => simp [hproblem] at hmem
  | some problem =>
    rw [hproblem, Option.map_some, Option.getD_some, problemActions] at hmem
    split at hmem
    · obtain rfl := List.mem_singleton.mp hmem
      simp
    · rcases List.mem_append.mp hmem with hmem | hmem <;> split at hmem
      · obtain rfl := List.mem_singleton.mp hmem
        simp
      · cases hmem
      · obtain rfl := List.mem_singleton.mp hmem
        simp
      · cases hmem

/-- Only a closing action closes an issue. -/
theorem stays_open {actions : List Action} (hactions : ∀ action ∈ actions, action.kind ≠ .close)
    {issues : List Issue} {issue : Issue} (hmem : issue ∈ issues) (hopen : issue.isOpen = true) :
    ∃ issue' ∈ applyActions newNumber issues actions,
      issue'.number = issue.number ∧ issue'.isOpen = true := by
  induction actions generalizing issues issue with
  | nil => exact ⟨issue, hmem, rfl, hopen⟩
  | cons action rest ih =>
    rw [List.forall_mem_cons] at hactions
    rw [applyActions, List.foldl_cons, ← applyActions]
    -- no action but a closing one makes an issue other than open
    have hupdate : (action.update issue).number = issue.number ∧
        (action.update issue).isOpen = true := by
      unfold Action.update
      split
      · cases hkind : action.kind with
        | create => exact ⟨rfl, hopen⟩
        | reopen => exact ⟨rfl, isOpen_open _ _⟩
        | edit => exact ⟨rfl, hopen⟩
        | close => exact absurd hkind hactions.1
      · exact ⟨rfl, hopen⟩
    by_cases hcreate : action.kind = .create
    · refine ih hactions.2 ?_ hopen
      rw [applyAction, hcreate]
      exact List.mem_append_left _ hmem
    · have hmem' : action.update issue ∈ applyAction newNumber issues action := by
        unfold applyAction
        cases hkind : action.kind with
        | create => exact absurd hkind hcreate
        | _ => exact List.mem_map_of_mem hmem
      obtain ⟨issue', hissue', hnumber, hissueopen⟩ := ih hactions.2 hmem' hupdate.2
      exact ⟨issue', hissue', hnumber.trans hupdate.1, hissueopen⟩

end Closing

/-! ## One round -/

/-- After a complete round the issues are those of the problems, and a round that is not
    complete closes none. -/
structure Synchronises (same : String → String → Prop) (pyStr : Json → String)
    (newNumber : List Issue → Nat) (reports : List JsonObject) (issues : List Issue) : Prop where
  converged : Converged same (collectProblems pyStr reports) (applyActions newNumber issues
    (planActions (collectProblems pyStr reports) issues true))
  keepsOpen : ∀ issue ∈ issues, issue.isOpen = true →
    ∃ issue' ∈ applyActions newNumber issues
        (planActions (collectProblems pyStr reports) issues false),
      issue'.number = issue.number ∧ issue'.isOpen = true

/-- A round of synchronisation does what it should exactly when no id and no package of a
    problem has a blank. Where white space around a body counts, an issue must not differ
    from its problem in that alone. -/
theorem synchronises_iff (pyStr : Json → String) (newNumber : List Issue → Nat)
    (reports : List JsonObject) (issues : List Issue)
    (hfresh : ∀ issues : List Issue, ∀ issue ∈ issues, issue.number ≠ newNumber issues)
    (hissues : Numbered issues) (hone : OneOpen issues) :
    (Synchronises (fun body body' => strip body = strip body') pyStr newNumber reports issues ↔
      ∀ report ∈ reports, ReportWithoutBlank pyStr report) ∧
    (Synchronises (· = ·) pyStr newNumber reports issues ↔
      (∀ report ∈ reports, ReportWithoutBlank pyStr report) ∧
        ∀ key problem existing, (collectProblems pyStr reports).get? key = some problem →
          (issuesByKey issues).get? key = some existing → strip existing.body = strip problem.body →
          existing.body = problem.body) := by
  have hkeeps : ∀ issue ∈ issues, issue.isOpen = true →
      ∃ issue' ∈ applyActions newNumber issues
          (planActions (collectProblems pyStr reports) issues false),
        issue'.number = issue.number ∧ issue'.isOpen = true :=
    fun issue hmem hopen => stays_open (planActions_leavesOpen _ _) hmem hopen
  -- both readings of an equal body are cases of one statement
  have hiff (same : String → String → Prop) (hrefl : ∀ body, same body body) :=
    converged_iff hrefl hfresh (keyed_collectProblems pyStr reports) hissues hone
  have hstrip := hiff (fun body body' => strip body = strip body') fun _ => rfl
  have heq := hiff (· = ·) fun _ => rfl
  rw [blanks_collectProblems] at hstrip heq
  refine ⟨⟨fun h => (hstrip.mp h.converged).1, fun h => ⟨hstrip.mpr ⟨h, ?_⟩, hkeeps⟩⟩,
    ⟨fun h => heq.mp h.converged, fun h => ⟨heq.mpr h, hkeeps⟩⟩⟩
  intro key problem existing _ _ hbody
  exact hbody

/-! ## A report -/

/-- `str` of a string, and of a field that is missing. -/
def samplePyStr : Json → String
  | .str text => text
  | _ => "None"

/-- The number after the largest. -/
def nextNumber (issues : List Issue) : Nat := (issues.map Issue.number).foldr max 0 + 1

/-- A report on a target with one problem of the exceptions file. -/
def sampleReport (target package : String) : JsonObject :=
  [("target", .str target), ("exception_errors", .arr [.obj
    [("id", .str "CVE-2026-1"), ("package", .str package), ("message", .str "expired.")]])]

/-- Two closed issues for that problem, and an open one for a problem that is gone. -/
def sampleIssues : List Issue :=
  [⟨3, "CLOSED", "Expired. <!-- vulnerability-key: exception:CVE-2026-1:openssl -->"⟩,
    ⟨5, "CLOSED", "<!-- vulnerability-key: exception:CVE-2026-1:openssl -->"⟩,
    ⟨7, "OPEN", "<!-- vulnerability-key: vuln:CVE-2020-1:old -->"⟩]

/-- The number after the largest is new. -/
theorem lt_nextNumber {issues : List Issue} {issue : Issue} (h : issue ∈ issues) :
    issue.number < nextNumber issues := by
  induction issues with
  | nil => cases h
  | cons first rest ih =>
    simp only [nextNumber, List.map_cons, List.foldr_cons] at ih ⊢
    rcases List.mem_cons.mp h with rfl | hrest
    · omega
    · have := ih hrest
      omega

/-- A report whose package has no blank. -/
private theorem sampleReport_withoutBlank (target : String) :
    ReportWithoutBlank samplePyStr (sampleReport target "openssl") := by
  have hfindings : listField (sampleReport target "openssl") "findings" = [] := by rfl
  have herrors : listField (sampleReport target "openssl") "exception_errors" = [.obj
      [("id", .str "CVE-2026-1"), ("package", .str "openssl"), ("message", .str "expired.")]] := by
    rfl
  refine ⟨fun fields hfields => ?_, fun fields hfields => ?_⟩
  · rw [hfindings] at hfields
    cases hfields
  · rw [herrors, List.mem_singleton] at hfields
    obtain rfl := Json.obj.inj hfields
    unfold NamesWithoutBlank
    decide

/-- The problems of two targets share a key, and so do two closed issues. -/
theorem synchronises_iff_sharedKey :
    (collectProblems samplePyStr [sampleReport "main" "openssl", sampleReport "beta" "openssl"]).keys =
      ["exception:CVE-2026-1:openssl"] ∧
    Synchronises (fun body body' => strip body = strip body') samplePyStr nextNumber
      [sampleReport "main" "openssl", sampleReport "beta" "openssl"] sampleIssues ∧
    Synchronises (· = ·) samplePyStr nextNumber
      [sampleReport "main" "openssl", sampleReport "beta" "openssl"] sampleIssues := by
  have hkeys : (collectProblems samplePyStr
      [sampleReport "main" "openssl", sampleReport "beta" "openssl"]).keys =
      ["exception:CVE-2026-1:openssl"] := by decide +kernel
  have hone : OneOpen sampleIssues := by
    have hopenOnly : ∀ issue ∈ sampleIssues, issue.isOpen = true → issue.number = 7 := by
      decide +kernel
    have hnumber : ∀ issue ∈ sampleIssues, issue.number = 7 → sampleIssues[2]? = some issue := by
      decide
    intro a ha b hb _ hopen hopen' _ _
    have hsame := (hnumber a ha (hopenOnly a ha hopen)).symm.trans
      (hnumber b hb (hopenOnly b hb hopen'))
    exact Option.some.inj hsame
  have hblanks : ∀ report ∈ [sampleReport "main" "openssl", sampleReport "beta" "openssl"],
      ReportWithoutBlank samplePyStr report := by
    intro report hreport
    rcases List.mem_cons.mp hreport with rfl | hreport
    · exact sampleReport_withoutBlank "main"
    · rw [List.mem_singleton.mp hreport]
      exact sampleReport_withoutBlank "beta"
  have hiff := synchronises_iff samplePyStr nextNumber
    [sampleReport "main" "openssl", sampleReport "beta" "openssl"] sampleIssues
    (fun issues issue h => (lt_nextNumber h).ne) (by simp [Numbered, sampleIssues]) hone
  refine ⟨hkeys, hiff.1.mpr hblanks, hiff.2.mpr ⟨hblanks, fun key problem existing hproblem hexisting
    hbody => ?_⟩⟩
  have hkey : key ∈ [("exception:CVE-2026-1:openssl" : String)] := by
    rw [← hkeys]
    exact Dict.mem_keys_iff.mpr ⟨problem, hproblem⟩
  obtain rfl := List.mem_singleton.mp hkey
  -- the issue that is indexed has another text before its marker
  have hchosen : ((issuesByKey sampleIssues).get? "exception:CVE-2026-1:openssl").map Issue.body =
      some "Expired. <!-- vulnerability-key: exception:CVE-2026-1:openssl -->" := by
    decide +kernel
  rw [hexisting, Option.map_some, Option.some.injEq] at hchosen
  rw [hchosen] at hbody
  obtain ⟨rest, hrest⟩ := problem.strip_body
  rw [← hbody] at hrest
  have hhead : (strip "Expired. <!-- vulnerability-key: exception:CVE-2026-1:openssl -->").toList.head? =
      some 'E' := by decide +kernel
  rw [hrest] at hhead
  simp at hhead

/-- A blank in a package: the issue is opened again in every round. -/
theorem not_synchronises_openSsl :
    ¬Synchronises (fun body body' => strip body = strip body') samplePyStr nextNumber
      [sampleReport "main" "open ssl"] [] := by
  intro h
  have hkey : "exception:CVE-2026-1:open ssl" ∈
      (collectProblems samplePyStr [sampleReport "main" "open ssl"]).keys := by decide +kernel
  exact planActions_ne_nil hkey (by decide) h.converged.stable

end Conformance.VulnerabilityIssues
