import Conformance.ForStd.List
import Conformance.Spec.VulnerabilityGateSound

/-!
# The order of the exceptions

What an exception does depends on the findings that are still open when its turn comes.
Findings with a fix are never accepted, so whether it is refused for a fix does not change, and
neither does what is accepted in the end (`unannotated_markedBy`). An exception is called stale when
earlier ones have accepted everything it matches: the verdict depends on the order exactly when some
exception can be made redundant by others.

## Key results

- `applyException_marked`, `applyExceptions_marked`: one round and the whole loop
- `sameVerdict_iff`: when the order does not matter
- `verdict_depends_on_order`: two exceptions for one vulnerability of two versions
-/

namespace Conformance.VulnerabilityGate

/-- The entry's key in `seen`. -/
def VulnerabilityException.seenKey (text : TextFunctions) (entry : VulnerabilityException) :
    String × String :=
  (text.upper entry.id, text.lower entry.package)

section Loop

variable (text : TextFunctions) (today : Date) (findings : List Finding)

/-! ## What an exception does -/

/-- The exception matches an open finding that has a fix. -/
def Refused (entry : VulnerabilityException) : Prop :=
  ∃ f ∈ findings, entry.matchesFinding text f = true ∧ f.status = .open ∧ f.fixAvailable = true

/-- The exception accepts the open findings it matches. -/
def Accepting (entry : VulnerabilityException) : Prop :=
  validateException text entry today = [] ∧ ¬Refused text findings entry

instance (entry : VulnerabilityException) : Decidable (Refused text findings entry) :=
  inferInstanceAs (Decidable (∃ f ∈ findings, _))

instance (entry : VulnerabilityException) : Decidable (Accepting text today findings entry) :=
  inferInstanceAs (Decidable (_ ∧ _))

/-- The first of the entries that accepts a finding, if there is one. -/
def acceptedBy (entries : List VulnerabilityException) (f : Finding) :
    Option VulnerabilityException :=
  entries.find? fun entry =>
    Accepting text today findings entry && entry.matchesFinding text f

/-- A finding as the entries leave it. -/
def markedBy (entries : List VulnerabilityException) (f : Finding) : Finding :=
  match acceptedBy text today findings entries f with
  | some entry => acceptFinding text entry f
  | none => f

/-- The entry matches a finding that is open when its turn comes after `earlier`. -/
def OpenLeft (earlier : List VulnerabilityException) (entry : VulnerabilityException) : Prop :=
  ∃ f ∈ findings, entry.matchesFinding text f = true ∧ f.status = .open ∧
    ∀ e ∈ earlier, Accepting text today findings e → e.matchesFinding text f = false

instance (earlier : List VulnerabilityException) (entry : VulnerabilityException) :
    Decidable (OpenLeft text today findings earlier entry) :=
  inferInstanceAs (Decidable (∃ f ∈ findings, _))

/-- The problem of an entry without open findings. -/
def staleProblem (entry : VulnerabilityException) : ExceptionProblem :=
  let reason := if (findings.filter fun f => entry.matchesFinding text f) ≠ [] then
    "is covered by OpenVEX" else "no longer matches any finding"
  ⟨entry.id, entry.package, "stale exception — the vulnerability " ++ reason ++
    "; remove the entry."⟩

/-- The problems of an entry whose turn comes after `earlier`. -/
def entryProblems (earlier : List VulnerabilityException) (entry : VulnerabilityException) :
    List ExceptionProblem :=
  validateException text entry today ++
    if ¬OpenLeft text today findings earlier entry then [staleProblem text findings entry]
    else if Refused text findings entry then [fixProblem text findings entry]
    else []

variable {text today findings}

/-! ## Marked findings -/

/-- Marking changes no vulnerability. -/
theorem same_markedBy (entries : List VulnerabilityException) (f : Finding) :
    SameVulnerability f (markedBy text today findings entries f) := by
  unfold markedBy
  split
  · exact same_acceptFinding _ f
  · exact ⟨rfl, rfl, rfl, rfl, rfl⟩

/-- An exception matches the same vulnerability alike. -/
theorem SameVulnerability.matchesFinding_eq {f f' : Finding} (h : SameVulnerability f f')
    (entry : VulnerabilityException) :
    entry.matchesFinding text f' = entry.matchesFinding text f := by
  have hproduct := h.product
  simp only [Finding.product, Prod.mk.injEq] at hproduct
  rw [VulnerabilityException.matchesFinding, VulnerabilityException.matchesFinding, h.ids,
    hproduct.1, hproduct.2.1]

theorem SameVulnerability.fixAvailable_eq {f f' : Finding} (h : SameVulnerability f f') :
    f'.fixAvailable = f.fixAvailable := by
  rw [Finding.fixAvailable, Finding.fixAvailable, h.fixedVersions]

/-- A finding is accepted by none exactly when no accepting exception matches it. -/
theorem acceptedBy_eq_none_iff {entries : List VulnerabilityException} {f : Finding} :
    acceptedBy text today findings entries f = none ↔
      ∀ e ∈ entries, Accepting text today findings e → e.matchesFinding text f = false := by
  simp [acceptedBy, List.find?_eq_none]

theorem acceptFinding_of_not_open {entry : VulnerabilityException} {f : Finding}
    (h : f.status ≠ .open) : acceptFinding text entry f = f := by
  simp [acceptFinding, h]

/-- A finding is left open when it was open and no accepting exception matches it. -/
theorem status_markedBy_iff {entries : List VulnerabilityException} {f : Finding} :
    (markedBy text today findings entries f).status = .open ↔
      f.status = .open ∧
        ∀ e ∈ entries, Accepting text today findings e → e.matchesFinding text f = false := by
  rw [← acceptedBy_eq_none_iff, markedBy]
  cases haccepted : acceptedBy text today findings entries f with
  | none => simp
  | some entry =>
    have hmatch : entry.matchesFinding text f = true := by
      have hfound := List.find?_some haccepted
      rw [Bool.and_eq_true] at hfound
      exact hfound.2
    by_cases hstatus : f.status = .open <;> simp [acceptFinding, hmatch, hstatus]

/-- One more entry that accepts. -/
theorem markedBy_append_of_accepting {entries : List VulnerabilityException}
    {entry : VulnerabilityException} (h : Accepting text today findings entry) (f : Finding) :
    markedBy text today findings (entries ++ [entry]) f =
      acceptFinding text entry (markedBy text today findings entries f) := by
  rw [markedBy, markedBy, acceptedBy, acceptedBy, List.find?_append]
  cases hfind : entries.find? fun entry =>
      Accepting text today findings entry && entry.matchesFinding text f with
  | some earlier =>
    have hmatch : earlier.matchesFinding text f = true := by
      have hfound := List.find?_some hfind
      rw [Bool.and_eq_true] at hfound
      exact hfound.2
    -- what an earlier entry has accepted is not open any more
    have hclosed : (acceptFinding text earlier f).status ≠ .open := by
      by_cases hstatus : f.status = .open <;> simp [acceptFinding, hmatch, hstatus]
    simp only [Option.some_or]
    rw [acceptFinding_of_not_open hclosed]
  | none =>
    cases hmatch : entry.matchesFinding text f with
    | true => simp [h, hmatch]
    | false => simp [hmatch, acceptFinding]

/-- An exception that is not accepting marks nothing. -/
theorem markedBy_append_of_not_accepting {entries : List VulnerabilityException}
    {entry : VulnerabilityException} (h : ¬Accepting text today findings entry) (f : Finding) :
    markedBy text today findings (entries ++ [entry]) f =
      markedBy text today findings entries f := by
  rw [markedBy, markedBy, acceptedBy, acceptedBy, List.find?_append]
  simp [h]

/-- Findings an upgrade would fix are left alone. -/
theorem markedBy_of_fixable {entries : List VulnerabilityException} {f : Finding}
    (hf : f ∈ findings) (hopen : f.status = .open) (hfix : f.fixAvailable = true) :
    markedBy text today findings entries f = f := by
  have hnone : acceptedBy text today findings entries f = none := by
    rw [acceptedBy_eq_none_iff]
    intro e _ haccepting
    by_contra hmatch
    exact haccepting.2 ⟨f, hf, Bool.not_eq_false _ ▸ hmatch, hopen, hfix⟩
  rw [markedBy, hnone]

/-- An upgrade would fix the finding. -/
def isFixable (text : TextFunctions) (entry : VulnerabilityException) (f : Finding) : Bool :=
  f.fixAvailable && (f.status == .open && entry.matchesFinding text f)

/-- Which findings an exception may not accept. -/
theorem isFixable_iff {entry : VulnerabilityException} {f : Finding} :
    isFixable text entry f = true ↔
      f.fixAvailable = true ∧ f.status = .open ∧ entry.matchesFinding text f = true := by
  simp [isFixable]

/-- The fixable findings are those among all. -/
theorem fixableFindings_eq (fs : List Finding) (entry : VulnerabilityException) :
    fixableFindings text fs entry = fs.filter (isFixable text entry) := by
  rw [fixableFindings, List.filter_filter, List.filter_filter]
  apply List.filter_congr
  intro f _
  rw [Bool.eq_iff_iff, isFixable_iff]
  simp [and_assoc]

/-- Marking leaves fixable findings fixable. -/
theorem isFixable_markedBy {entries : List VulnerabilityException} {f : Finding}
    (hf : f ∈ findings) (entry : VulnerabilityException) :
    isFixable text entry (markedBy text today findings entries f) = isFixable text entry f := by
  have hsame := @same_markedBy text today findings entries f
  rw [Bool.eq_iff_iff, isFixable_iff, isFixable_iff, hsame.fixAvailable_eq,
    hsame.matchesFinding_eq]
  refine and_congr_right fun hfix => and_congr_left fun _ => ?_
  constructor
  · exact fun hopen => (status_markedBy_iff.mp hopen).1
  · intro hopen
    rw [markedBy_of_fixable hf hopen hfix]
    exact hopen

/-- So the fixable findings are the same after marking. -/
theorem fixableFindings_markedBy (entries : List VulnerabilityException)
    (entry : VulnerabilityException) :
    fixableFindings text (findings.map (markedBy text today findings entries)) entry =
      fixableFindings text findings entry := by
  have hfilter : findings.filter (isFixable text entry ∘ markedBy text today findings entries) =
      findings.filter (isFixable text entry) :=
    List.filter_congr fun f hf => isFixable_markedBy hf entry
  rw [fixableFindings_eq, fixableFindings_eq, List.filter_map, hfilter]
  conv_rhs => rw [← List.map_id (findings.filter _)]
  apply List.map_congr_left
  intro f hf
  obtain ⟨hf, hfixable⟩ := List.mem_filter.mp hf
  rw [isFixable_iff] at hfixable
  exact markedBy_of_fixable hf hfixable.2.1 hfixable.1

/-- An exception is refused exactly when it matches a fixable finding. -/
theorem fixableFindings_ne_nil_iff {entry : VulnerabilityException} :
    fixableFindings text findings entry ≠ [] ↔ Refused text findings entry := by
  rw [fixableFindings_eq, ne_eq, List.eq_nil_iff_forall_not_mem, not_forall]
  simp only [not_not, List.mem_filter, isFixable_iff, Refused]
  constructor
  · rintro ⟨f, hf, hfix, hopen, hmatch⟩
    exact ⟨f, hf, hmatch, hopen, hfix⟩
  · rintro ⟨f, hf, hmatch, hopen, hfix⟩
    exact ⟨f, hf, hfix, hopen, hmatch⟩

/-! ## The loop -/

/-- An exception finds an open finding exactly when the earlier ones left one. -/
theorem openLeft_iff {earlier : List VulnerabilityException} {entry : VulnerabilityException} :
    ((findings.map (markedBy text today findings earlier)).filter fun f =>
        entry.matchesFinding text f).filter (fun f => f.status = .open) ≠ [] ↔
      OpenLeft text today findings earlier entry := by
  rw [ne_eq, List.eq_nil_iff_forall_not_mem, not_forall]
  simp only [not_not, List.mem_filter, List.mem_map, decide_eq_true_eq, OpenLeft]
  constructor
  · rintro ⟨_, ⟨⟨f, hf, rfl⟩, hmatch⟩, hopen⟩
    rw [(same_markedBy earlier f).matchesFinding_eq] at hmatch
    exact ⟨f, hf, hmatch, status_markedBy_iff.mp hopen⟩
  · rintro ⟨f, hf, hmatch, hopen⟩
    refine ⟨_, ⟨⟨f, hf, rfl⟩, ?_⟩, status_markedBy_iff.mpr hopen⟩
    rw [(same_markedBy earlier f).matchesFinding_eq]
    exact hmatch

/-- Marking leaves what an exception matches. -/
theorem matched_markedBy (earlier : List VulnerabilityException)
    (entry : VulnerabilityException) :
    ((findings.map (markedBy text today findings earlier)).filter fun f =>
        entry.matchesFinding text f) =
      (findings.filter fun f => entry.matchesFinding text f).map
        (markedBy text today findings earlier) := by
  rw [List.filter_map]
  congr 1
  apply List.filter_congr
  intro f _
  exact (same_markedBy earlier f).matchesFinding_eq entry

/-- One round, after the entries of `earlier`. -/
theorem applyException_marked {problems : List ExceptionProblem} {seen : List (String × String)}
    {earlier : List VulnerabilityException} {entry : VulnerabilityException}
    (hseen : entry.seenKey text ∉ seen) :
    applyException text today
        ⟨problems, seen, findings.map (markedBy text today findings earlier)⟩ entry =
      ⟨problems ++ entryProblems text today findings earlier entry, seen ++ [entry.seenKey text],
        findings.map (markedBy text today findings (earlier ++ [entry]))⟩ := by
  have hmatched : ((findings.map (markedBy text today findings earlier)).filter fun f =>
      entry.matchesFinding text f) ≠ [] ↔
      (findings.filter fun f => entry.matchesFinding text f) ≠ [] := by
    rw [matched_markedBy, ne_eq, List.map_eq_nil_iff]
  have hfixable := @fixableFindings_markedBy text today findings earlier entry
  have hkeep : ¬Accepting text today findings entry →
      findings.map (markedBy text today findings (earlier ++ [entry])) =
        findings.map (markedBy text today findings earlier) := fun hnot =>
    List.map_congr_left fun f _ => markedBy_append_of_not_accepting hnot f
  have haccept : Accepting text today findings entry →
      acceptFindings text entry (findings.map (markedBy text today findings earlier)) =
        findings.map (markedBy text today findings (earlier ++ [entry])) := by
    intro haccepting
    rw [acceptFindings, List.map_map]
    exact List.map_congr_left fun f _ => (markedBy_append_of_accepting haccepting f).symm
  rw [fixableFindings] at hfixable
  rw [VulnerabilityException.seenKey] at hseen ⊢
  simp only [applyException]
  rw [if_neg hseen]
  by_cases hopen : OpenLeft text today findings earlier entry
  · rw [if_neg (openLeft_iff.mpr hopen), hfixable]
    by_cases hrefused : Refused text findings entry
    · have hnot : ¬Accepting text today findings entry := fun h => h.2 hrefused
      rw [if_pos (fixableFindings_ne_nil_iff.mpr hrefused), hkeep hnot]
      simp [entryProblems, hopen, hrefused, fixProblem]
    · rw [if_neg (mt fixableFindings_ne_nil_iff.mp hrefused)]
      by_cases hvalid : validateException text entry today = []
      · rw [if_neg (not_not.mpr hvalid), haccept ⟨hvalid, hrefused⟩]
        simp [entryProblems, hopen, hrefused, hvalid]
      · rw [if_pos hvalid, hkeep fun h => hvalid h.1]
        simp [entryProblems, hopen, hrefused]
  · rw [if_pos (not_not.mp (mt openLeft_iff.mp hopen))]
    -- an entry that accepts has nothing left to accept
    have hsame : findings.map (markedBy text today findings (earlier ++ [entry])) =
        findings.map (markedBy text today findings earlier) := by
      by_cases haccepting : Accepting text today findings entry
      · apply List.map_congr_left
        intro f hf
        rw [markedBy_append_of_accepting haccepting]
        by_contra hne
        rw [acceptFinding] at hne
        split at hne
        · rename_i hmatch
          rw [Bool.and_eq_true, decide_eq_true_eq, (same_markedBy earlier f).matchesFinding_eq,
            status_markedBy_iff] at hmatch
          exact hopen ⟨f, hf, hmatch.1, hmatch.2⟩
        · exact hne rfl
      · exact hkeep haccepting
    rw [hsame]
    simp only [entryProblems, hopen, not_false_eq_true, if_true, staleProblem, hmatched,
      List.append_assoc]

/-- The whole loop, on entries with different keys. -/
theorem applyExceptions_marked {entries : List VulnerabilityException}
    (hdistinct : entries.Pairwise fun e e' => e.seenKey text ≠ e'.seenKey text) :
    (applyExceptions text entries today findings).findings =
        findings.map (markedBy text today findings entries) ∧
      (applyExceptions text entries today findings).seen = entries.map (·.seenKey text) ∧
      ∀ problem, problem ∈ (applyExceptions text entries today findings).problems ↔
        ∃ earlier entry later, entries = earlier ++ entry :: later ∧
          problem ∈ entryProblems text today findings earlier entry := by
  induction entries using List.reverseRecOn with
  | nil =>
    refine ⟨?_, rfl, ?_⟩
    · exact (List.map_id findings).symm
    · intro problem
      simp [applyExceptions]
  | append_singleton entries entry ih =>
    rw [List.pairwise_append] at hdistinct
    obtain ⟨hfindings, hseen, hproblems⟩ := ih hdistinct.1
    -- no entry is a duplicate, so each one is applied
    have hnew : entry.seenKey text ∉ (applyExceptions text entries today findings).seen := by
      rw [hseen, List.mem_map]
      rintro ⟨e, he, heq⟩
      exact hdistinct.2.2 e he entry (List.mem_singleton_self _) heq
    have hstep := @applyException_marked text today findings
      (applyExceptions text entries today findings).problems _ entries entry hnew
    rw [← hfindings] at hstep
    rw [applyExceptions, List.foldl_append]
    rw [applyExceptions] at hstep hseen hproblems
    simp only [List.foldl_cons, List.foldl_nil, hstep]
    refine ⟨trivial, ?_, ?_⟩
    · rw [hseen, List.map_append]
      rfl
    · intro problem
      rw [List.mem_append, hproblems]
      constructor
      · rintro (⟨earlier, e, later, rfl, hmem⟩ | hmem)
        · exact ⟨earlier, e, later ++ [entry], by simp, hmem⟩
        · exact ⟨entries, entry, [], rfl, hmem⟩
      · rintro ⟨earlier, e, later, heq, hmem⟩
        rcases List.eq_nil_or_concat later with rfl | ⟨later, last, rfl⟩
        · obtain ⟨rfl, hlast⟩ := List.append_inj' heq rfl
          obtain rfl := List.singleton_inj.mp hlast
          exact .inr hmem
        · rw [List.concat_eq_append, ← List.cons_append, ← List.append_assoc] at heq
          obtain ⟨rfl, -⟩ := List.append_inj' heq rfl
          exact .inl ⟨earlier, e, later, rfl, hmem⟩

end Loop

/-! ## What does not depend on the order -/

/-- A finding without its note. -/
def Finding.unannotated (finding : Finding) : Finding := { finding with note := "" }

section Order

variable {text : TextFunctions} {today : Date} {findings : List Finding}
  {entries entries' : List VulnerabilityException}

/-- A finding is accepted by some entry or left alone. -/
theorem unannotated_markedBy (f : Finding) :
    (markedBy text today findings entries f).unannotated =
      if f.status = .open ∧ ∃ e ∈ entries, Accepting text today findings e ∧
          e.matchesFinding text f = true then
        { f.unannotated with status := .accepted }
      else f.unannotated := by
  rw [markedBy]
  cases haccepted : acceptedBy text today findings entries f with
  | none =>
    rw [acceptedBy_eq_none_iff] at haccepted
    rw [if_neg]
    rintro ⟨-, e, he, haccepting, hmatch⟩
    rw [haccepted e he haccepting] at hmatch
    cases hmatch
  | some entry =>
    have hfound := List.find?_some haccepted
    rw [Bool.and_eq_true, decide_eq_true_eq] at hfound
    have hmem : entry ∈ entries := List.mem_of_find?_eq_some haccepted
    by_cases hstatus : f.status = .open
    · rw [if_pos ⟨hstatus, entry, hmem, hfound⟩]
      simp [acceptFinding, hfound.2, hstatus, Finding.unannotated]
    · rw [if_neg fun h => hstatus h.1]
      simp [acceptFinding_of_not_open hstatus]

/-- The order of the exceptions does not matter for the status of a finding. -/
theorem unannotated_markedBy_perm (hperm : entries.Perm entries') (f : Finding) :
    (markedBy text today findings entries f).unannotated =
      (markedBy text today findings entries' f).unannotated := by
  simp only [unannotated_markedBy, hperm.mem_iff]

/-! ## Stale exceptions -/

/-- No entry can be made redundant: one that matches an open finding, and none that has a
    fix, matches an open finding that no other entry accepts. -/
def NoneRedundant (text : TextFunctions) (today : Date) (findings : List Finding)
    (entries : List VulnerabilityException) : Prop :=
  ∀ entry ∈ entries, ¬Refused text findings entry →
    (∃ f ∈ findings, entry.matchesFinding text f = true ∧ f.status = .open) →
    ∃ f ∈ findings, entry.matchesFinding text f = true ∧ f.status = .open ∧
      ∀ e ∈ entries, e ≠ entry → Accepting text today findings e → e.matchesFinding text f = false

/-- Different entries have different keys. -/
theorem seenKey_ne_of_ne (h : entries.Pairwise fun e e' => e.seenKey text ≠ e'.seenKey text)
    {e e' : VulnerabilityException} (he : e ∈ entries) (he' : e' ∈ entries) (hne : e ≠ e') :
    e.seenKey text ≠ e'.seenKey text := by
  have : Std.Symm fun e e' : VulnerabilityException => e.seenKey text ≠ e'.seenKey text :=
    ⟨fun _ _ h => h.symm⟩
  exact h.forall he he' hne

/-- When no entry is redundant, each has the problems it has on its own. -/
theorem entryProblems_eq (h : NoneRedundant text today findings entries)
    {earlier later : List VulnerabilityException} {entry : VulnerabilityException}
    (hperm : (earlier ++ entry :: later).Perm entries) (hnodup : entries.Nodup) :
    entryProblems text today findings earlier entry =
      entryProblems text today findings [] entry := by
  have hmem : entry ∈ entries := hperm.subset (by simp)
  have hearlier : ∀ e ∈ earlier, e ∈ entries ∧ e ≠ entry := by
    intro e he
    refine ⟨hperm.subset (by simp [he]), ?_⟩
    rintro rfl
    have hsplit := hperm.nodup_iff.mpr hnodup
    rw [List.nodup_append] at hsplit
    exact hsplit.2.2 e he e List.mem_cons_self rfl
  -- what is left open for the entry does not depend on those before it
  have hleft : OpenLeft text today findings earlier entry ↔
      OpenLeft text today findings [] entry := by
    constructor
    · rintro ⟨f, hf, hmatch, hopen, -⟩
      exact ⟨f, hf, hmatch, hopen, fun e he => (by cases he)⟩
    · rintro ⟨f, hf, hmatch, hopen, -⟩
      by_cases hrefused : Refused text findings entry
      · -- a finding with a fix stays open
        obtain ⟨g, hg, hmatch, hopen, hfix⟩ := hrefused
        refine ⟨g, hg, hmatch, hopen, fun e _ haccepting => ?_⟩
        by_contra hmatch
        exact haccepting.2 ⟨g, hg, Bool.not_eq_false _ ▸ hmatch, hopen, hfix⟩
      · obtain ⟨g, hg, hmatch, hopen, hothers⟩ := h entry hmem hrefused ⟨f, hf, hmatch, hopen⟩
        exact ⟨g, hg, hmatch, hopen, fun e he => hothers e (hearlier e he).1 (hearlier e he).2⟩
  simp only [entryProblems, hleft]

/-- No validation message starts like the one of a stale exception. -/
theorem staleProblem_notMem (entry entry' : VulnerabilityException) :
    staleProblem text findings entry ∉ validateException text entry' today := by
  have hhead : (staleProblem text findings entry).message.toList.head? = some 's' := by
    simp [staleProblem]
  intro hmem
  obtain ⟨message, hmessage, heq⟩ := List.mem_map.mp hmem
  rw [← heq] at hhead
  simp only [handleMessages, List.mem_append, List.mem_ite_nil_left, List.mem_ite_nil_right,
    List.mem_singleton] at hmessage
  rcases hmessage with (((((((⟨-, rfl⟩ | ⟨-, rfl⟩) | ⟨-, rfl⟩) | ⟨-, rfl⟩) | ⟨-, rfl⟩) | ⟨-, rfl⟩) |
    ⟨-, rfl⟩)) <;> simp at hhead

/-! ## The verdict -/

/-- Two results pass alike, give every finding the same status and report the same problems. -/
def SameVerdict : Option GateResult → Option GateResult → Prop :=
  Option.Rel fun result result' => result.passed = result'.passed ∧
    result.findings.map Finding.unannotated = result'.findings.map Finding.unannotated ∧
    ∀ problem, problem ∈ result.exceptionErrors ↔ problem ∈ result'.exceptionErrors

/-- The verdict is made from the state after the exceptions. -/
theorem evaluate_eq (target : String) (raws : List RawFinding)
    (vexStatements : Option (List VexStatement)) :
    evaluate text target raws vexStatements entries today = (mergeFindings raws).map fun merged =>
      let state := applyExceptions text entries today (applyVexDocument vexStatements merged)
      ⟨target, decide state.findings, state.problems, vexStatements.isSome⟩ := by
  rw [evaluate]
  cases mergeFindings raws <;> cases vexStatements <;> rfl

/-- The verdict can be read off what the results have in common. -/
theorem passed_eq {result result' : GateResult}
    (hfindings : result.findings.map Finding.unannotated =
      result'.findings.map Finding.unannotated)
    (hproblems : ∀ problem, problem ∈ result.exceptionErrors ↔ problem ∈ result'.exceptionErrors) :
    result.passed = result'.passed := by
  have hblocking : result.findings.map Finding.blocking = result'.findings.map Finding.blocking := by
    simpa [List.map_map, Function.comp_def, Finding.unannotated] using
      congrArg (List.map Finding.blocking) hfindings
  have hnone : ∀ r : GateResult, r.blocking.isEmpty = true ↔
      ∀ blocking ∈ r.findings.map Finding.blocking, blocking = false := by
    intro r
    simp [GateResult.blocking, List.filter_eq_nil_iff]
  have herrors : ∀ r : GateResult, r.exceptionErrors.isEmpty = true ↔
      ∀ problem, problem ∉ r.exceptionErrors := fun r => by
    rw [List.isEmpty_iff, List.eq_nil_iff_forall_not_mem]
  rw [Bool.eq_iff_iff, GateResult.passed, GateResult.passed, Bool.and_eq_true, Bool.and_eq_true,
    hnone, hnone, herrors, herrors, hblocking]
  simp only [hproblems]

/-- Deciding findings does not look at their annotations. -/
theorem unannotated_decide (fs : List Finding) :
    (decide fs).map Finding.unannotated =
      (fs.map Finding.unannotated).map decideFinding := by
  rw [decide, List.map_map, List.map_map]
  rfl

/-- An entry that others make redundant is stale when it comes last, and not when it comes
    first. -/
theorem exists_staleProblem
    (hdistinct : entries.Pairwise fun e e' => e.seenKey text ≠ e'.seenKey text)
    {entry : VulnerabilityException} (hentry : entry ∈ entries)
    (hrefused : ¬Refused text findings entry)
    (hopen : ∃ f ∈ findings, entry.matchesFinding text f = true ∧ f.status = .open)
    (hredundant : ∀ f ∈ findings, entry.matchesFinding text f = true → f.status = .open →
      ∃ e ∈ entries, e ≠ entry ∧ Accepting text today findings e ∧
        e.matchesFinding text f = true) :
    ∃ first last, first.Perm entries ∧ last.Perm entries ∧
      staleProblem text findings entry ∉ (applyExceptions text first today findings).problems ∧
      staleProblem text findings entry ∈ (applyExceptions text last today findings).problems := by
  obtain ⟨before, after, hsplit⟩ := List.append_of_mem hentry
  have hfirst : (entry :: (before ++ after)).Perm entries := by
    rw [hsplit]
    exact List.perm_middle.symm
  have hlast : ((before ++ after) ++ [entry]).Perm entries :=
    (List.perm_append_singleton _ _).trans hfirst
  have hpairwise : ∀ es : List VulnerabilityException, es.Perm entries →
      es.Pairwise fun e e' => e.seenKey text ≠ e'.seenKey text := fun es hperm =>
    hperm.symm.pairwise hdistinct fun h => h.symm
  have hnodup : (entry :: (before ++ after)).Nodup :=
    (hpairwise _ hfirst).imp fun hne heq => hne (by rw [heq])
  refine ⟨_, _, hfirst, hlast, ?_, ?_⟩
  · rw [(applyExceptions_marked (hpairwise _ hfirst)).2.2]
    rintro ⟨earlier, e, later, heq, hmem⟩
    rw [entryProblems, List.mem_append] at hmem
    rcases hmem with hmem | hmem
    · exact staleProblem_notMem entry e hmem
    · -- the problem names the entry, which is the first and finds something open
      have hnames : e = entry := by
        by_contra hne
        have hmem' : e ∈ entry :: (before ++ after) := by
          rw [heq]
          simp
        have hkey := seenKey_ne_of_ne (hpairwise _ hfirst) hmem' List.mem_cons_self hne
        have hid : entry.id = e.id ∧ entry.package = e.package := by
          split at hmem
          · have hproblem := List.mem_singleton.mp hmem
            simp only [staleProblem, ExceptionProblem.mk.injEq] at hproblem
            exact ⟨hproblem.1, hproblem.2.1⟩
          · split at hmem
            · have hproblem := List.mem_singleton.mp hmem
              simp only [staleProblem, fixProblem, ExceptionProblem.mk.injEq] at hproblem
              exact ⟨hproblem.1, hproblem.2.1⟩
            · cases hmem
        exact hkey (by rw [VulnerabilityException.seenKey, VulnerabilityException.seenKey, hid.1,
          hid.2])
      subst hnames
      have hearlier : earlier = [] := by
        cases earlier with
        | nil => rfl
        | cons head rest =>
          obtain ⟨rfl, hrest⟩ := List.cons.inj heq
          rw [List.nodup_cons, hrest] at hnodup
          exact absurd (by simp) hnodup.1
      subst hearlier
      obtain ⟨f, hf, hmatch, hstatus⟩ := hopen
      have hleft : OpenLeft text today findings [] e :=
        ⟨f, hf, hmatch, hstatus, fun e he => (by cases he)⟩
      simp [hleft, hrefused] at hmem
  -- the last entry finds nothing open, since the others have accepted it all
  · rw [(applyExceptions_marked (hpairwise _ hlast)).2.2]
    refine ⟨before ++ after, entry, [], rfl, ?_⟩
    have hleft : ¬OpenLeft text today findings (before ++ after) entry := by
      rintro ⟨f, hf, hmatch, hstatus, hothers⟩
      obtain ⟨e, he, hne, haccepting, hmatch'⟩ := hredundant f hf hmatch hstatus
      have hmem : e ∈ before ++ after := by
        rcases List.mem_cons.mp (hfirst.symm.subset he) with heq | hmem
        · exact absurd heq hne
        · exact hmem
      rw [hothers e hmem haccepting] at hmatch'
      cases hmatch'
    simp [entryProblems, hleft]

/-- When no entry is redundant, the problems are those of the entries on their own. -/
theorem mem_problems_iff
    (hdistinct : entries.Pairwise fun e e' => e.seenKey text ≠ e'.seenKey text)
    (hnone : NoneRedundant text today findings entries) (hperm : entries'.Perm entries)
    {problem : ExceptionProblem} :
    problem ∈ (applyExceptions text entries' today findings).problems ↔
      ∃ entry ∈ entries, problem ∈ entryProblems text today findings [] entry := by
  have hnodup : entries.Nodup := hdistinct.imp fun hne heq => hne (by rw [heq])
  rw [(applyExceptions_marked (hperm.symm.pairwise hdistinct fun h => h.symm)).2.2]
  constructor
  · rintro ⟨earlier, entry, later, rfl, hmem⟩
    refine ⟨entry, hperm.subset (by simp), ?_⟩
    rwa [← entryProblems_eq hnone hperm hnodup]
  · rintro ⟨entry, hentry, hmem⟩
    obtain ⟨earlier, later, rfl⟩ := List.append_of_mem (hperm.symm.subset hentry)
    refine ⟨earlier, entry, later, rfl, ?_⟩
    rwa [entryProblems_eq hnone hperm hnodup]

end Order

/-- The verdict does not depend on the order of exceptions of different keys exactly when
    none of them can be made redundant by others. -/
theorem sameVerdict_iff (text : TextFunctions) (target : String) (raws : List RawFinding)
    (vexStatements : Option (List VexStatement)) (exceptions : List VulnerabilityException)
    (today : Date)
    (hdistinct : exceptions.Pairwise fun e e' => e.seenKey text ≠ e'.seenKey text) :
    (∀ first second : List VulnerabilityException, first.Perm exceptions →
        second.Perm exceptions →
        SameVerdict (evaluate text target raws vexStatements first today)
          (evaluate text target raws vexStatements second today)) ↔
      ∀ merged, mergeFindings raws = some merged →
        NoneRedundant text today (applyVexDocument vexStatements merged) exceptions := by
  simp only [evaluate_eq]
  cases mergeFindings raws with
  | none => simp [SameVerdict]
  | some merged =>
    simp only [Option.map_some, Option.some.injEq, forall_eq']
    generalize applyVexDocument vexStatements merged = findings
    constructor
    · intro hsame entry hentry hrefused hopen
      by_contra hredundant
      push Not at hredundant
      -- in one order the entry is stale, in another it is not
      obtain ⟨first, last, hfirst, hlast, hnot, hmem⟩ :=
        @exists_staleProblem text today findings exceptions hdistinct entry hentry hrefused hopen
          fun f hf hmatch hstatus => by simpa using hredundant f hf hmatch hstatus
      cases hsame first last hfirst hlast with
      | some hverdict => exact hnot ((hverdict.2.2 _).mpr hmem)
    · intro hnone first second hfirst hsecond
      -- without redundant entries neither the findings nor the problems see the order
      have hpairwise : ∀ es : List VulnerabilityException, es.Perm exceptions →
          es.Pairwise fun e e' => e.seenKey text ≠ e'.seenKey text := fun es hperm =>
        hperm.symm.pairwise hdistinct fun h => h.symm
      have hfindings : (decide (applyExceptions text first today findings).findings).map
          Finding.unannotated =
          (decide (applyExceptions text second today findings).findings).map
            Finding.unannotated := by
        have hmarked : (findings.map (markedBy text today findings first)).map
            Finding.unannotated =
            (findings.map (markedBy text today findings second)).map Finding.unannotated := by
          rw [List.map_map, List.map_map]
          apply List.map_congr_left
          intro f _
          exact unannotated_markedBy_perm (hfirst.trans hsecond.symm) f
        rw [unannotated_decide, unannotated_decide,
          (applyExceptions_marked (hpairwise _ hfirst)).1,
          (applyExceptions_marked (hpairwise _ hsecond)).1, hmarked]
      have hproblems : ∀ problem,
          problem ∈ (applyExceptions text first today findings).problems ↔
            problem ∈ (applyExceptions text second today findings).problems := fun problem => by
        rw [mem_problems_iff hdistinct hnone hfirst, mem_problems_iff hdistinct hnone hsecond]
      exact .some ⟨passed_eq hfindings hproblems, hfindings, hproblems⟩

/-- Two versions of a package with one vulnerability, of which one is known under an alias too. -/
def aliasedImage : List RawFinding :=
  [⟨"snyk", {"CVE-1", "GHSA-1"}, "pypi", "urllib3", "1.0", .high, ∅, true, ""⟩,
   ⟨"snyk", {"CVE-1"}, "pypi", "urllib3", "2.0", .high, ∅, true, ""⟩]

def byName : VulnerabilityException :=
  ⟨"CVE-1", "urllib3", "no fix yet", "@dev", "@lead", ⟨2026, 1, 10⟩, ⟨2026, 3, 1⟩⟩

def byAlias : VulnerabilityException :=
  ⟨"GHSA-1", "urllib3", "no fix yet", "@dev", "@lead", ⟨2026, 1, 10⟩, ⟨2026, 3, 1⟩⟩

/-- A third version that is known under the alias only. -/
def overlappingImage : List RawFinding :=
  aliasedImage ++ [⟨"snyk", {"GHSA-1"}, "pypi", "urllib3", "3.0", .high, ∅, true, ""⟩]

/-- Both exceptions match the first version, and each has a version of its own: the image passes
    in either order. -/
theorem sameVerdict_iff_overlapping :
    (evaluate asciiText "image" overlappingImage none [byName, byAlias] ⟨2026, 2, 1⟩).map
        GateResult.passed = some true ∧
      SameVerdict (evaluate asciiText "image" overlappingImage none [byName, byAlias] ⟨2026, 2, 1⟩)
        (evaluate asciiText "image" overlappingImage none [byAlias, byName] ⟨2026, 2, 1⟩) := by
  refine ⟨by decide +kernel, ?_⟩
  have hnone : ∀ merged ∈ mergeFindings overlappingImage,
      NoneRedundant asciiText ⟨2026, 2, 1⟩ (applyVexDocument none merged) [byName, byAlias] := by
    unfold NoneRedundant
    decide +kernel
  exact (sameVerdict_iff asciiText "image" overlappingImage none [byName, byAlias] ⟨2026, 2, 1⟩
    (by decide +kernel)).mpr hnone _ _ (.refl _) (.swap _ _ _)

/-- With the exception for the alias first the image passes, and with the other one first the
    exception for the alias is stale. -/
theorem verdict_depends_on_order :
    byName.seenKey asciiText ≠ byAlias.seenKey asciiText ∧
      (evaluate asciiText "image" aliasedImage none [byAlias, byName] ⟨2026, 2, 1⟩).map
        GateResult.passed = some true ∧
      (evaluate asciiText "image" aliasedImage none [byName, byAlias] ⟨2026, 2, 1⟩).map
        GateResult.passed = some false ∧
      ¬SameVerdict (evaluate asciiText "image" aliasedImage none [byAlias, byName] ⟨2026, 2, 1⟩)
        (evaluate asciiText "image" aliasedImage none [byName, byAlias] ⟨2026, 2, 1⟩) := by
  have hpasses : (evaluate asciiText "image" aliasedImage none [byAlias, byName]
      ⟨2026, 2, 1⟩).map GateResult.passed = some true := by decide +kernel
  have hstale : (evaluate asciiText "image" aliasedImage none [byName, byAlias]
      ⟨2026, 2, 1⟩).map GateResult.passed = some false := by decide +kernel
  refine ⟨by decide, hpasses, hstale, fun hsame => ?_⟩
  obtain ⟨result, hresult, hpassed⟩ := Option.map_eq_some_iff.mp hpasses
  obtain ⟨result', hresult', hpassed'⟩ := Option.map_eq_some_iff.mp hstale
  rw [hresult, hresult'] at hsame
  cases hsame with
  | some hverdict =>
    rw [hpassed, hpassed'] at hverdict
    exact absurd hverdict.1 (by decide)

end Conformance.VulnerabilityGate
