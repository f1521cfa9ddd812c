import Conformance.Spec.CertificationAgreement
import Conformance.Spec.JsonObjects

/-!
# Development evidence

A result that is marked as development evidence is not eligible, keeps its reasons and its
other blocks, and is marked once. The validator reads none of what is marked, so it judges
a report as it judged it before.

## Key results

- `timesListed_developmentReasons`: how often a reason is listed
- `markDevelopmentResultEvidence_marks`: what marking does to a result
-/

namespace Conformance

open CertificationValidator Except

/-! ## Reasons -/

/-- How often a text is listed. -/
def timesListed (items : List Json) (text : String) : Nat :=
  items.countP fun item => item.pyEq (.str text)

theorem containsText_iff {items : List Json} {text : String} :
    containsText items text = true ↔ 0 < timesListed items text := by
  rw [containsText, timesListed, List.countP_pos_iff, List.any_eq_true]

theorem pyEq_str_str {text other : String} :
    (Json.str other).pyEq (.str text) = true ↔ other = text := by
  rw [Json.pyEq_str_iff, Json.str.injEq]

/-- The count, from the first text. -/
theorem timesListed_cons (items : List Json) (other text : String) :
    timesListed (.str other :: items) text =
      timesListed items text + if other = text then 1 else 0 := by
  rw [timesListed, List.countP_cons]
  exact congrArg _ (if_congr pyEq_str_str rfl rfl)

/-- The count, from the last text. -/
theorem timesListed_concat (items : List Json) (other text : String) :
    timesListed (items ++ [.str other]) text =
      timesListed items text + if other = text then 1 else 0 := by
  rw [timesListed, List.countP_append, List.countP_singleton]
  exact congrArg _ (if_congr pyEq_str_str rfl rfl)

/-- What a text listed once more adds, if it is not listed. -/
theorem timesListed_added {items : List Json} {other : String}
    (h : ¬containsText items other = true) (text : String) :
    (timesListed items text + if other = text then 1 else 0) =
      if other = text then max 1 (timesListed items text) else timesListed items text := by
  split
  · rename_i heq
    subst heq
    rw [containsText_iff] at h
    omega
  · rfl

/-- A text that is listed is not listed again. -/
theorem timesListed_kept {items : List Json} {other : String}
    (h : containsText items other = true) (text : String) :
    timesListed items text =
      if other = text then max 1 (timesListed items text) else timesListed items text := by
  split
  · rename_i heq
    subst heq
    rw [containsText_iff] at h
    omega
  · rfl

/-- The message of a warning. -/
def warningMessage? (rawIssue : Json) : Option String :=
  match rawIssue with
  | .obj issue =>
    match issue.lookup "severity", issue.lookup "message" with
    | some (.str "warning"), some (.str message) => some message
    | _, _ => none
  | _ => none

/-- The messages of the warnings of a validation result. -/
def warningMessages (validationResult : JsonObject) : List String :=
  (listField validationResult "issues").filterMap warningMessage?

/-- A warning is added unless it is listed. -/
theorem addWarning_eq (reasons : List Json) (rawIssue : Json) :
    addWarning reasons rawIssue = match warningMessage? rawIssue with
      | some message =>
        if containsText reasons message then reasons else reasons ++ [.str message]
      | none => reasons := by
  cases rawIssue with
  | obj issue =>
    by_cases hwarning : ∃ message, issue.lookup "severity" = some (.str "warning") ∧
        issue.lookup "message" = some (.str message)
    · obtain ⟨message, hseverity, hmessage⟩ := hwarning
      simp only [addWarning, warningMessage?, hseverity, hmessage]
    · have hnone : warningMessage? (.obj issue) = none := by
        unfold warningMessage?
        dsimp only
        split
        · rename_i hseverity hmessage
          exact absurd ⟨_, hseverity, hmessage⟩ hwarning
        · rfl
      have hkept : addWarning reasons (.obj issue) = reasons := by
        unfold addWarning
        dsimp only
        split
        · rename_i hseverity hmessage
          exact absurd ⟨_, hseverity, hmessage⟩ hwarning
        · rfl
      rw [hnone, hkept]
  | null | bool | int | float | str | arr => rfl

/-- A warning is listed once added, and no other count changes. -/
theorem timesListed_addWarning (reasons : List Json) (rawIssue : Json) (text : String) :
    timesListed (addWarning reasons rawIssue) text =
      if warningMessage? rawIssue = some text then max 1 (timesListed reasons text)
      else timesListed reasons text := by
  rw [addWarning_eq]
  cases warningMessage? rawIssue with
  | none => rw [if_neg (fun h => (by cases h))]
  | some message =>
    simp only [Option.some.injEq]
    split
    · rename_i hlisted
      exact timesListed_kept hlisted text
    · rename_i hlisted
      rw [timesListed_concat]
      exact timesListed_added hlisted text

/-- Every warning is listed, and nothing is listed more often than it was. -/
theorem timesListed_foldl (issues reasons : List Json) (text : String) :
    timesListed (issues.foldl addWarning reasons) text =
      if text ∈ issues.filterMap warningMessage? then max 1 (timesListed reasons text)
      else timesListed reasons text := by
  induction issues generalizing reasons with
  | nil => rfl
  | cons issue rest ih =>
    rw [List.foldl_cons, ih, timesListed_addWarning, List.filterMap_cons]
    cases warningMessage? issue with
    | none => simp
    | some message =>
      by_cases hmessage : message = text
      · subst hmessage
        simp
      · simp [hmessage, Ne.symm hmessage]

/-- How often a text is among the reasons of a marked result. -/
theorem timesListed_developmentReasons (validationResult eligibility : JsonObject)
    (text : String) :
    timesListed (developmentReasons validationResult eligibility) text =
      if text ∈ developmentReason :: warningMessages validationResult then
        max 1 (timesListed (listField eligibility "reasons") text)
      else timesListed (listField eligibility "reasons") text := by
  have hfirst : timesListed
      (if containsText (listField eligibility "reasons") developmentReason then
        listField eligibility "reasons"
      else .str developmentReason :: listField eligibility "reasons") text =
        if developmentReason = text then max 1 (timesListed (listField eligibility "reasons") text)
        else timesListed (listField eligibility "reasons") text := by
    split
    · rename_i hlisted
      exact timesListed_kept hlisted text
    · rename_i hlisted
      rw [timesListed_cons]
      exact timesListed_added hlisted text
  rw [developmentReasons, timesListed_foldl, hfirst]
  simp only [List.mem_cons]
  by_cases hreason : developmentReason = text
  · simp [hreason]
  · simp [hreason, Ne.symm hreason, warningMessages]

/-- Reasons that list every warning get no more. -/
theorem foldl_addWarning_eq_self {issues reasons : List Json}
    (h : ∀ message ∈ issues.filterMap warningMessage?, containsText reasons message = true) :
    issues.foldl addWarning reasons = reasons := by
  induction issues with
  | nil => rfl
  | cons issue rest ih =>
    have hissue : addWarning reasons issue = reasons := by
      rw [addWarning_eq]
      cases hmessage : warningMessage? issue with
      | none => rfl
      | some message => exact if_pos (h message (by simp [hmessage]))
    rw [List.foldl_cons, hissue]
    refine ih fun message hmessage => h message ?_
    rw [List.filterMap_cons]
    split
    · exact hmessage
    · exact List.mem_cons_of_mem _ hmessage

/-- The reasons of a marked result are the reasons of one that is marked again. -/
theorem developmentReasons_again {validationResult eligibility marked : JsonObject}
    (h : marked.lookup "reasons" = some (.arr (developmentReasons validationResult eligibility))) :
    developmentReasons validationResult marked =
      developmentReasons validationResult eligibility := by
  have hlist : listField marked "reasons" = developmentReasons validationResult eligibility := by
    rw [listField, h]
  have hlisted : ∀ text ∈ developmentReason :: warningMessages validationResult,
      containsText (developmentReasons validationResult eligibility) text = true := by
    intro text htext
    rw [containsText_iff, timesListed_developmentReasons, if_pos htext]
    omega
  rw [developmentReasons, hlist, if_pos (hlisted _ List.mem_cons_self)]
  exact foldl_addWarning_eq_self fun message hmessage =>
    hlisted message (List.mem_cons_of_mem _ hmessage)

/-! ## Marking a result -/

/-- The reasons of a report. -/
def reportReasons (report : JsonObject) : List Json :=
  match report.lookup "certificationEligibility" with
  | some (.obj eligibility) => listField eligibility "reasons"
  | _ => []

/-- A report with its metadata and its eligibility, where no key is there twice. -/
structure IsReport (report metadata eligibility : JsonObject) : Prop where
  nodup : (report.map Prod.fst).Nodup
  hasMetadata : report.lookup "metadata" = some (.obj metadata)
  metadataNodup : (metadata.map Prod.fst).Nodup
  hasEligibility : report.lookup "certificationEligibility" = some (.obj eligibility)
  eligibilityNodup : (eligibility.map Prod.fst).Nodup

/-- The eligibility of a marked report. -/
def markedEligibility (validationResult eligibility : JsonObject) : JsonObject :=
  setField (setField (setField eligibility "eligible" (.bool false)) "reason"
    (.str developmentReason)) "reasons" (.arr (developmentReasons validationResult eligibility))

/-- The verdict of the validator on a submitted report. -/
def verdict (repr : Json → String) {p : FieldParsers} (manifest : Manifest p)
    (policy : ApprovedReleasePolicy) (report : JsonObject) :
    Except PyError CertificationValidationResult := do
  let submitted ← parseSubmittedReport repr (.obj report)
  validateReport submitted manifest policy

/-- What marking does to a report. -/
structure MarksDevelopment (validationResult report marked : JsonObject) : Prop where
  ineligible : eligibleFlag marked = some false
  /-- A reason that was there is listed as often as it was. -/
  kept : ∀ text, 0 < timesListed (reportReasons report) text →
    timesListed (reportReasons marked) text = timesListed (reportReasons report) text
  /-- A warning that is new is listed once. -/
  warned : ∀ text ∈ warningMessages validationResult,
    timesListed (reportReasons marked) text = max 1 (timesListed (reportReasons report) text)
  again : markDevelopmentResultEvidence validationResult marked = marked
  keys : marked.map Prod.fst = report.map Prod.fst
  blocks : ∀ key, key ≠ "metadata" → key ≠ "certificationEligibility" →
    marked.lookup key = report.lookup key
  metadata : ∃ fields, report.lookup "metadata" = some (.obj fields) ∧
    marked.lookup "metadata" = some (.obj (setField fields "executionMode" (.str "development")))
  /-- The validator judges the marked report as it judges the report. -/
  judged : ∀ (repr : Json → String) {p : FieldParsers} (manifest : Manifest p)
    (policy : ApprovedReleasePolicy),
    verdict repr manifest policy marked = verdict repr manifest policy report

section Marking

variable {validationResult report metadata eligibility : JsonObject}

/-- What marking makes of a report in development mode. -/
theorem markDevelopmentResultEvidence_eq
    (hmode : validationResult.lookup "executionMode" = some (.str "development"))
    (hmetadata : report.lookup "metadata" = some (.obj metadata))
    (heligibility : report.lookup "certificationEligibility" = some (.obj eligibility)) :
    markDevelopmentResultEvidence validationResult report =
      setField (setField report "metadata"
        (.obj (setField metadata "executionMode" (.str "development"))))
        "certificationEligibility" (.obj (markedEligibility validationResult eligibility)) := by
  unfold markDevelopmentResultEvidence
  rw [hmode]
  dsimp only
  rw [lookup_setField, if_neg (by decide), heligibility, hmetadata]
  rfl

/-- Marking an eligibility twice is marking it once. -/
theorem markedEligibility_again (hnodup : (eligibility.map Prod.fst).Nodup) :
    markedEligibility validationResult (markedEligibility validationResult eligibility) =
      markedEligibility validationResult eligibility := by
  have hreasons : developmentReasons validationResult
      (markedEligibility validationResult eligibility) =
        developmentReasons validationResult eligibility :=
    developmentReasons_again (by simp [markedEligibility])
  have hmarked : ((markedEligibility validationResult eligibility).map Prod.fst).Nodup :=
    nodup_keys_setField _ _ (nodup_keys_setField _ _ (nodup_keys_setField _ _ hnodup))
  rw [markedEligibility, hreasons]
  rw [setField_self hmarked (by simp [markedEligibility]),
    setField_self hmarked (by simp [markedEligibility]),
    setField_self hmarked (by simp [markedEligibility])]

/-- What the validator reads of a report. -/
theorem parseSubmittedReport_congr {report report' metadata metadata' : JsonObject}
    (repr : Json → String) (hmetadata : report.lookup "metadata" = some (.obj metadata))
    (hmetadata' : report'.lookup "metadata" = some (.obj metadata'))
    (hversion : metadata.lookup "reportVersion" = metadata'.lookup "reportVersion")
    (htool : report.lookup "tool" = report'.lookup "tool")
    (hsteps : report.lookup "steps" = report'.lookup "steps") :
    parseSubmittedReport repr (.obj report) = parseSubmittedReport repr (.obj report') := by
  have hfields : CertificationValidator.requiredObject report "metadata" "report" = .ok metadata := by
    rw [CertificationValidator.requiredObject, requiredField, hmetadata]
    rfl
  have hfields' :
      CertificationValidator.requiredObject report' "metadata" "report" = .ok metadata' := by
    rw [CertificationValidator.requiredObject, requiredField, hmetadata']
    rfl
  have htools : CertificationValidator.requiredObject report "tool" "report" =
      CertificationValidator.requiredObject report' "tool" "report" := by
    rw [CertificationValidator.requiredObject, CertificationValidator.requiredObject,
      requiredField, requiredField, htool]
  have harray : requiredArray report "steps" "report" = requiredArray report' "steps" "report" := by
    rw [requiredArray, requiredArray, requiredField, requiredField, hsteps]
  have hstring : requiredNonEmptyString metadata "reportVersion" "report.metadata" =
      requiredNonEmptyString metadata' "reportVersion" "report.metadata" := by
    rw [requiredNonEmptyString, requiredNonEmptyString, requiredField, requiredField, hversion]
  simp only [parseSubmittedReport, asObject, bind, Except.bind, hfields, hfields', htools, harray,
    hstring]

/-- Marking keeps what the validator reads. -/
theorem verdict_marked
    (hmode : validationResult.lookup "executionMode" = some (.str "development"))
    (h : IsReport report metadata eligibility) (repr : Json → String) {p : FieldParsers}
    (manifest : Manifest p) (policy : ApprovedReleasePolicy) :
    verdict repr manifest policy (markDevelopmentResultEvidence validationResult report) =
      verdict repr manifest policy report := by
  have hmark := markDevelopmentResultEvidence_eq hmode h.hasMetadata h.hasEligibility
  have hmetadata :
      (markDevelopmentResultEvidence validationResult report).lookup "metadata" =
        some (.obj (setField metadata "executionMode" (.str "development"))) := by
    rw [hmark]
    simp
  unfold verdict
  rw [parseSubmittedReport_congr repr hmetadata h.hasMetadata (by simp) (by simp [hmark])
    (by simp [hmark])]

/-- Marking a report. -/
theorem marksDevelopment_of_isReport
    (hmode : validationResult.lookup "executionMode" = some (.str "development"))
    (h : IsReport report metadata eligibility) :
    MarksDevelopment validationResult report
      (markDevelopmentResultEvidence validationResult report) := by
  have hjudged := @verdict_marked validationResult report metadata eligibility hmode h
  have hbefore : reportReasons report = listField eligibility "reasons" := by
    rw [reportReasons, h.hasEligibility]
  have hmark := markDevelopmentResultEvidence_eq hmode h.hasMetadata h.hasEligibility
  -- only the two fields that are set matter from here on
  generalize markDevelopmentResultEvidence validationResult report = marked at hmark hjudged
  have heligibility : marked.lookup "certificationEligibility" =
      some (.obj (markedEligibility validationResult eligibility)) := by
    rw [hmark]
    simp
  have hmetadata : marked.lookup "metadata" =
      some (.obj (setField metadata "executionMode" (.str "development"))) := by
    rw [hmark]
    simp
  have hafter : reportReasons marked = developmentReasons validationResult eligibility := by
    rw [reportReasons, heligibility]
    simp [listField, markedEligibility]
  have hnodup : (marked.map Prod.fst).Nodup := by
    rw [hmark]
    exact nodup_keys_setField _ _ (nodup_keys_setField _ _ h.nodup)
  refine ⟨?_, ?_, ?_, ?_, ?_, ?_, ⟨metadata, h.hasMetadata, hmetadata⟩, hjudged⟩
  · rw [eligibleFlag, heligibility]
    simp [markedEligibility]
  · intro text hlisted
    rw [hafter, hbefore, timesListed_developmentReasons] at *
    split
    · omega
    · rfl
  · intro text htext
    rw [hafter, hbefore, timesListed_developmentReasons,
      if_pos (List.mem_cons_of_mem _ htext)]
  · have hexecution : setField (setField metadata "executionMode" (.str "development"))
        "executionMode" (.str "development") =
          setField metadata "executionMode" (.str "development") :=
      setField_self (nodup_keys_setField _ _ h.metadataNodup) (by simp)
    rw [markDevelopmentResultEvidence_eq hmode hmetadata heligibility, hexecution,
      markedEligibility_again h.eligibilityNodup, setField_self hnodup hmetadata,
      setField_self hnodup heligibility]
  · have hfirst : "metadata" ∈ report.map Prod.fst :=
      lookup_isSome_iff_mem_keys.mp (by rw [h.hasMetadata]; rfl)
    have hsecond : "certificationEligibility" ∈ report.map Prod.fst :=
      lookup_isSome_iff_mem_keys.mp (by rw [h.hasEligibility]; rfl)
    rw [hmark, keys_setField_of_mem _ (by rwa [keys_setField_of_mem _ hfirst]),
      keys_setField_of_mem _ hfirst]
  · intro key hmetadataKey heligibilityKey
    rw [hmark, lookup_setField, lookup_setField, if_neg heligibilityKey, if_neg hmetadataKey]

end Marking

/-! ## The report of a run -/

/-- The report of a run has its metadata and its eligibility. -/
theorem isReport_toJsonObject (render : CompiledTestPlan → List StepResult → JsonObject)
    (sources : VersionSources) (result : SmokeCheckResult) :
    IsReport (result.toJsonObject render sources)
      [("reportVersion", .str REPORT_METADATA_VERSION)]
      (buildEligibility result.steps result.deselectedMandatoryStepIds
        result.approvedReleasePolicy (resolveConformanceToolVersion sources)
        result.certificationCoverage result.nonCertifyingReasons) where
  nodup := by
    unfold SmokeCheckResult.toJsonObject
    cases result.planSummary <;> cases result.compiledPlan <;>
      simp only [Option.map_none, Option.map_some, Option.toList_none, Option.toList_some,
        List.map_append, List.map_cons, List.map_nil] <;> decide
  hasMetadata := rfl
  metadataNodup := by decide
  hasEligibility := rfl
  eligibilityNodup := by
    unfold buildEligibility
    dsimp only
    split <;> simp only [List.map_append, List.map_cons, List.map_nil] <;> decide

/-- Marking the report of a run as development evidence. -/
theorem markDevelopmentResultEvidence_marks
    (render : CompiledTestPlan → List StepResult → JsonObject) (sources : VersionSources)
    (result : SmokeCheckResult) (validationResult : JsonObject)
    (hmode : validationResult.lookup "executionMode" = some (.str "development")) :
    MarksDevelopment validationResult (result.toJsonObject render sources)
      (markDevelopmentResultEvidence validationResult (result.toJsonObject render sources)) :=
  marksDevelopment_of_isReport hmode (isReport_toJsonObject render sources result)

/-- A validation result of a development run. -/
def developmentValidation : JsonObject :=
  [("schemaVersion", .str "1.0"), ("executionMode", .str "development"), ("valid", .bool true),
    ("issues", .arr [.obj [("category", .str "execution"), ("severity", .str "warning"),
      ("message", .str "Development-mode runs are marked as non-certification evidence.")]])]

/-- A complete run that passed. -/
def passedRun : SmokeCheckResult where
  status := .passed
  startedAt := "2026-01-01T00:00:00+00:00"
  finishedAt := "2026-01-01T00:01:00+00:00"
  steps := [⟨"discovery", .passed, "discovery passed", none, some 200, [], true⟩,
    ⟨"accounts", .passed, "accounts passed", none, some 200, [], true⟩]
  planSummary := none
  deselectedMandatoryStepIds := []
  approvedReleasePolicy := some ⟨"v1", ["2.0.0"]⟩
  certificationCoverage := .complete
  compiledPlan := none
  nonCertifyingReasons := []

/-- A passed run in development mode. -/
theorem markDevelopmentResultEvidence_marks_passed :
    MarksDevelopment developmentValidation
      (passedRun.toJsonObject (fun _ _ => []) ⟨some "2.0.0", none⟩)
      (markDevelopmentResultEvidence developmentValidation
        (passedRun.toJsonObject (fun _ _ => []) ⟨some "2.0.0", none⟩)) :=
  markDevelopmentResultEvidence_marks (fun _ _ => []) ⟨some "2.0.0", none⟩ passedRun
    developmentValidation rfl

/-- The validator accepts a marked report. -/
theorem developmentReport_accepted :
    ∃ outcome, verdict verbatimParsers.repr accountsManifest ⟨"v1", ["2.0.0"]⟩
        (markDevelopmentResultEvidence developmentValidation
          (passedRun.toJsonObject (fun _ _ => []) ⟨some "2.0.0", none⟩)) = .ok outcome ∧
      outcome.valid = true :=
  ⟨_, rfl, rfl⟩

end Conformance
