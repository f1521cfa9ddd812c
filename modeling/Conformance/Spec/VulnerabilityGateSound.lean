import Conformance.Native.VulnerabilityGate
import Mathlib.Data.List.Nodup

/-!
# The vulnerability gate is sound

An image that passes has a reason for every observation of every scanner. The
merge keeps a partition: findings of one package version have disjoint
identifiers (`MergedFrom.apart`), every observation is included in one of them,
and a finding joins the fixes, the application flag and the ratings of the
observations it includes. The stages after it touch neither, so the status a
finding ends with can be read against the observations merged into it.
-/

namespace Conformance.VulnerabilityGate

/-! ## Severities -/

/-- A rating `s` is accounted for by `t`. -/
def Severity.RatedBy (s t : Severity) : Prop :=
  s ≠ .unknown → t ≠ .unknown ∧ s.order ≤ t.order

/-- Ratings are transitive. -/
theorem Severity.RatedBy.trans {s t u : Severity} (h : s.RatedBy t) (h' : t.RatedBy u) :
    s.RatedBy u := by
  intro hs
  obtain ⟨ht, hst⟩ := h hs
  obtain ⟨hu, htu⟩ := h' ht
  exact ⟨hu, Nat.le_trans hst htu⟩

theorem ratedBy_maxSeverity_left (s t : Severity) : s.RatedBy (maxSeverity s t) := by
  unfold Severity.RatedBy
  cases s <;> cases t <;> decide

theorem ratedBy_maxSeverity_right (s t : Severity) : t.RatedBy (maxSeverity s t) := by
  unfold Severity.RatedBy
  cases s <;> cases t <;> decide

/-- A maximum that is known is the maximum of a known severity. -/
theorem rated_of_maxSeverity {s t : Severity} (h : maxSeverity s t ≠ .unknown) :
    s ≠ .unknown ∨ t ≠ .unknown := by
  revert h
  cases s <;> cases t <;> decide

/-! ## What a finding includes -/

/-- The package version a finding is about. -/
def Finding.product (finding : Finding) : String × String × String :=
  (finding.ecosystem, finding.package, finding.version)

/-- The package version an observation is about. -/
def RawFinding.product (raw : RawFinding) : String × String × String :=
  (raw.ecosystem, raw.package, raw.version)

/-- The observation is of the finding's package version and all its identifiers
    are the finding's. -/
def Finding.Includes (finding : Finding) (raw : RawFinding) : Prop :=
  finding.product = raw.product ∧ raw.ids ⊆ finding.ids

instance (finding : Finding) (raw : RawFinding) : Decidable (finding.Includes raw) :=
  inferInstanceAs (Decidable (_ ∧ _))

/-- A finding matches an observation of its product that shares an id with it. -/
theorem matchesRaw_iff {finding : Finding} {raw : RawFinding} :
    finding.matchesRaw raw = true ↔
      finding.product = raw.product ∧ ¬ Disjoint finding.ids raw.ids := by
  rw [Finding.matchesRaw, Bool.and_eq_true, decide_eq_true_eq, decide_eq_true_eq,
    Finset.disjoint_iff_inter_eq_empty]
  rfl

/-- Findings of one package version share no identifier. -/
def Apart (f g : Finding) : Prop := f.product = g.product → Disjoint f.ids g.ids

theorem Apart.symm {f g : Finding} (h : Apart f g) : Apart g f := fun heq => (h heq.symm).symm

instance : Std.Symm Apart := ⟨fun _ _ => Apart.symm⟩

/-- The finding joins what the observations it includes say. -/
structure Joins (raws : List RawFinding) (f : Finding) : Prop where
  ids_nonempty : f.ids.Nonempty
  fixed : ∀ r ∈ raws, f.Includes r → r.fixedVersions ⊆ f.fixedVersions
  application : ∀ r ∈ raws, f.Includes r → r.application = true → f.application = true
  severity : ∀ r ∈ raws, f.Includes r → r.severity.RatedBy f.severity
  rated : f.severity ≠ .unknown → ∃ r ∈ raws, f.Includes r ∧ r.severity ≠ .unknown

/-- The findings are a merge of the observations. -/
structure MergedFrom (raws : List RawFinding) (merged : List Finding) : Prop where
  apart : merged.Pairwise Apart
  covered : ∀ r ∈ raws, ∃ f ∈ merged, f.Includes r
  joins : ∀ f ∈ merged, Joins raws f

theorem mergedFrom_nil : MergedFrom [] [] :=
  ⟨.nil, fun _ h => absurd h List.not_mem_nil, fun _ h => absurd h List.not_mem_nil⟩

/-! ## Absorbing -/

/-- What a finding that has absorbed others holds. -/
structure Absorbs (target : Finding) (others : List Finding) (result : Finding) : Prop where
  product : result.product = target.product
  status : result.status = target.status
  mem_ids : ∀ x, x ∈ result.ids ↔ x ∈ target.ids ∨ ∃ f ∈ others, x ∈ f.ids
  fixed_target : target.fixedVersions ⊆ result.fixedVersions
  fixed : ∀ f ∈ others, f.fixedVersions ⊆ result.fixedVersions
  application_target : target.application = true → result.application = true
  application : ∀ f ∈ others, f.application = true → result.application = true
  severity_target : target.severity.RatedBy result.severity
  severity : ∀ f ∈ others, f.severity.RatedBy result.severity
  rated : result.severity ≠ .unknown →
    target.severity ≠ .unknown ∨ ∃ f ∈ others, f.severity ≠ .unknown

/-- A finding that absorbs none stays as it is. -/
theorem absorbs_nil (target : Finding) : Absorbs target [] target := by
  refine ⟨rfl, rfl, ?_, fun _ => id, ?_, id, ?_, ?_, ?_, .inl⟩
  · simp
  · simp
  · simp
  · exact fun h => ⟨h, Nat.le_refl _⟩
  · simp

/-- A finding absorbs one more. -/
theorem Absorbs.cons {target other result : Finding} {others : List Finding}
    (h : Absorbs (target.absorb other) others result) : Absorbs target (other :: others) result where
  product := h.product
  status := h.status
  mem_ids := by
    intro x
    rw [h.mem_ids]
    simp [Finding.absorb, or_assoc]
  fixed_target := Finset.subset_union_left.trans h.fixed_target
  fixed := by
    rw [List.forall_mem_cons]
    exact ⟨Finset.subset_union_right.trans h.fixed_target, h.fixed⟩
  application_target := fun ha => h.application_target (by simp [Finding.absorb, ha])
  application := by
    rw [List.forall_mem_cons]
    exact ⟨fun ha => h.application_target (by simp [Finding.absorb, ha]), h.application⟩
  severity_target := (ratedBy_maxSeverity_left _ _).trans h.severity_target
  severity := by
    rw [List.forall_mem_cons]
    exact ⟨(ratedBy_maxSeverity_right _ _).trans h.severity_target, h.severity⟩
  rated := fun hr => by
    rcases h.rated hr with htarget | ⟨f, hf, hrated⟩
    · rcases rated_of_maxSeverity htarget with hleft | hright
      · exact .inl hleft
      · exact .inr ⟨other, List.mem_cons_self, hright⟩
    · exact .inr ⟨f, List.mem_cons_of_mem _ hf, hrated⟩

/-- Absorbing findings in turn absorbs all of them. -/
theorem absorbs_foldl (others : List Finding) (target : Finding) :
    Absorbs target others (others.foldl Finding.absorb target) := by
  induction others generalizing target with
  | nil => exact absorbs_nil target
  | cons other others ih => exact (ih (target.absorb other)).cons

/-- Removing and absorbing findings in turn can be done one after the other. -/
theorem foldl_removeAndAbsorb (others : List Finding) (state : List Finding × Finding) :
    others.foldl removeAndAbsorb state =
      (state.1.diff others, others.foldl Finding.absorb state.2) := by
  induction others generalizing state with
  | nil => simp
  | cons other others ih =>
    rw [List.foldl_cons, ih, List.diff_cons]
    rfl

/-- Removing the findings an observation matches leaves the others. -/
theorem mergeRaw_eq {merged : List Finding} (hnodup : merged.Nodup) (raw : RawFinding) :
    mergeRaw merged raw = merged.filter (fun f => !f.matchesRaw raw) ++
      [(merged.filter fun f => f.matchesRaw raw).foldl Finding.absorb (.ofRaw raw)] := by
  have hrest : merged.diff (merged.filter fun f => f.matchesRaw raw) =
      merged.filter fun f => !f.matchesRaw raw := by
    rw [hnodup.sdiff_eq_filter]
    apply List.filter_congr
    intro f hf
    simp [List.mem_filter, hf]
  simp only [mergeRaw, foldl_removeAndAbsorb, hrest]

/-! ## Merging one observation -/

section Merge

variable {raws : List RawFinding} {merged : List Finding} {raw : RawFinding}

/-- The merged findings are distinct. -/
theorem MergedFrom.nodup (h : MergedFrom raws merged) : merged.Nodup := by
  rw [List.nodup_iff_pairwise_ne]
  refine h.apart.imp_of_mem ?_
  rintro f g hf - hapart rfl
  -- a finding that is apart from itself has no identifier
  have hempty := Finset.disjoint_self_iff_empty f.ids |>.mp (hapart rfl)
  exact absurd hempty (h.joins f hf).ids_nonempty.ne_empty

/-- The findings the observation leaves alone, and the one it is merged into. -/
theorem MergedFrom.mergeRaw_eq (h : MergedFrom raws merged) (raw : RawFinding) :
    ∃ target, mergeRaw merged raw = merged.filter (fun f => !f.matchesRaw raw) ++ [target] ∧
      Absorbs (.ofRaw raw) (merged.filter fun f => f.matchesRaw raw) target := by
  exact ⟨_, VulnerabilityGate.mergeRaw_eq h.nodup raw, absorbs_foldl _ _⟩

/-- A finding includes what a finding of the same product with fewer identifiers does. -/
theorem Finding.Includes.mono {f g : Finding} {r : RawFinding} (hproduct : g.product = f.product)
    (hids : f.ids ⊆ g.ids) (h : f.Includes r) : g.Includes r :=
  ⟨hproduct.trans h.1, h.2.trans hids⟩

/-- One more observation is merged. -/
theorem MergedFrom.mergeRaw (h : MergedFrom raws merged) (hraws : ∀ r ∈ raws, r.ids.Nonempty)
    (hraw : raw.ids.Nonempty) :
    MergedFrom (raws ++ [raw]) (VulnerabilityGate.mergeRaw merged raw) := by
  obtain ⟨target, hmerge, habsorbs⟩ := h.mergeRaw_eq raw
  rw [hmerge]
  have hproduct : target.product = raw.product := habsorbs.product
  -- the observation and the findings that match it are in the target
  have hraw_ids : raw.ids ⊆ target.ids := fun x hx => (habsorbs.mem_ids x).mpr (.inl hx)
  have hself : target.Includes raw := ⟨hproduct, hraw_ids⟩
  have hmatched : ∀ f ∈ merged, f.matchesRaw raw = true →
      target.product = f.product ∧ f.ids ⊆ target.ids := by
    intro f hf hmatch
    refine ⟨hproduct.trans (matchesRaw_iff.mp hmatch).1.symm, fun x hx => ?_⟩
    exact (habsorbs.mem_ids x).mpr (.inr ⟨f, List.mem_filter.mpr ⟨hf, hmatch⟩, hx⟩)
  -- a finding that does not match shares nothing with the target
  have hrest : ∀ f ∈ merged, f.matchesRaw raw = false → Apart f target := by
    intro f hf hmatch hsame
    rw [hproduct] at hsame
    rw [Finset.disjoint_left]
    intro x hx hx'
    rcases (habsorbs.mem_ids x).mp hx' with hx' | ⟨g, hg, hx'⟩
    · have hdisjoint : ¬ Disjoint f.ids raw.ids := Finset.not_disjoint_iff.mpr ⟨x, hx, hx'⟩
      rw [matchesRaw_iff.mpr ⟨hsame, hdisjoint⟩] at hmatch
      cases hmatch
    · obtain ⟨hg, hgmatch⟩ := List.mem_filter.mp hg
      have hne : f ≠ g := by
        rintro rfl
        rw [hgmatch] at hmatch
        cases hmatch
      have hapart : Apart f g := h.apart.forall hf hg hne
      have hdisjoint := hapart (hsame.trans (matchesRaw_iff.mp hgmatch).1.symm)
      exact Finset.disjoint_left.mp hdisjoint hx hx'
  -- an earlier observation in the target comes from a finding that matches
  have hsource : ∀ r ∈ raws, target.Includes r →
      ∃ f ∈ merged, f.matchesRaw raw = true ∧ f.Includes r := by
    intro r hr hin
    obtain ⟨f, hf, hfr⟩ := h.covered r hr
    refine ⟨f, hf, ?_, hfr⟩
    cases hmatch : f.matchesRaw raw with
    | true => rfl
    | false =>
      obtain ⟨x, hx⟩ := hraws r hr
      have hdisjoint := hrest f hf hmatch (hfr.1.trans hin.1.symm)
      exact absurd (hin.2 hx) (Finset.disjoint_left.mp hdisjoint (hfr.2 hx))
  refine ⟨?_, ?_, ?_⟩
  · rw [List.pairwise_append]
    refine ⟨h.apart.filter _, List.pairwise_singleton _ _, ?_⟩
    intro f hf g hg
    obtain rfl := List.mem_singleton.mp hg
    obtain ⟨hf, hmatch⟩ := List.mem_filter.mp hf
    exact hrest f hf (by simpa using hmatch)
  · intro r hr
    rcases List.mem_append.mp hr with hr | hr
    · obtain ⟨f, hf, hfr⟩ := h.covered r hr
      cases hmatch : f.matchesRaw raw with
      | true =>
        obtain ⟨hsame, hids⟩ := hmatched f hf hmatch
        exact ⟨target, by simp, hfr.mono hsame hids⟩
      | false => exact ⟨f, by simp [hf, hmatch], hfr⟩
    · obtain rfl := List.mem_singleton.mp hr
      exact ⟨target, by simp, hself⟩
  · intro f hf
    rcases List.mem_append.mp hf with hf | hf
    · -- a finding left alone does not include the new observation
      obtain ⟨hf, hmatch⟩ := List.mem_filter.mp hf
      have hnot : ¬ f.Includes raw := by
        rintro ⟨hsame, hids⟩
        obtain ⟨x, hx⟩ := hraw
        have hdisjoint : ¬ Disjoint f.ids raw.ids := Finset.not_disjoint_iff.mpr ⟨x, hids hx, hx⟩
        rw [matchesRaw_iff.mpr ⟨hsame, hdisjoint⟩] at hmatch
        cases hmatch
      have hold : ∀ {P : RawFinding → Prop}, (∀ r ∈ raws, f.Includes r → P r) →
          ∀ r ∈ raws ++ [raw], f.Includes r → P r := by
        intro P hP r hr hin
        rcases List.mem_append.mp hr with hr | hr
        · exact hP r hr hin
        · obtain rfl := List.mem_singleton.mp hr
          exact absurd hin hnot
      have hjoins := h.joins f hf
      refine ⟨hjoins.ids_nonempty, hold hjoins.fixed, hold hjoins.application, hold hjoins.severity,
        fun hrated => ?_⟩
      obtain ⟨r, hr, hin, hrated⟩ := hjoins.rated hrated
      exact ⟨r, List.mem_append_left _ hr, hin, hrated⟩
    · obtain rfl := List.mem_singleton.mp hf
      have hnew : ∀ {P : RawFinding → Prop}, P raw →
          (∀ g ∈ merged.filter fun g => g.matchesRaw raw, ∀ r ∈ raws, g.Includes r → P r) →
          ∀ r ∈ raws ++ [raw], f.Includes r → P r := by
        intro P hP hothers r hr hin
        rcases List.mem_append.mp hr with hr | hr
        · obtain ⟨g, hg, hmatch, hgr⟩ := hsource r hr hin
          exact hothers g (List.mem_filter.mpr ⟨hg, hmatch⟩) r hr hgr
        · obtain rfl := List.mem_singleton.mp hr
          exact hP
      have hjoins : ∀ g ∈ merged.filter fun g => g.matchesRaw raw, Joins raws g :=
        fun g hg => h.joins g (List.mem_filter.mp hg).1
      refine ⟨hraw.mono hraw_ids, ?_, ?_, ?_, fun hrated => ?_⟩
      · refine hnew habsorbs.fixed_target fun g hg r hr hin => ?_
        exact ((hjoins g hg).fixed r hr hin).trans (habsorbs.fixed g hg)
      · refine hnew habsorbs.application_target fun g hg r hr hin ha => ?_
        exact habsorbs.application g hg ((hjoins g hg).application r hr hin ha)
      · refine hnew habsorbs.severity_target fun g hg r hr hin => ?_
        exact ((hjoins g hg).severity r hr hin).trans (habsorbs.severity g hg)
      · rcases habsorbs.rated hrated with hrated | ⟨g, hg, hrated⟩
        · exact ⟨raw, by simp, hself, hrated⟩
        · obtain ⟨r, hr, hin, hrated⟩ := (hjoins g hg).rated hrated
          obtain ⟨hg, hmatch⟩ := List.mem_filter.mp hg
          obtain ⟨hsame, hids⟩ := hmatched g hg hmatch
          exact ⟨r, List.mem_append_left _ hr, hin.mono hsame hids, hrated⟩

/-- A merged finding has not been assessed yet. -/
theorem MergedFrom.mergeRaw_open (h : MergedFrom raws merged)
    (hopen : ∀ f ∈ merged, f.status = .open) (raw : RawFinding) :
    ∀ f ∈ VulnerabilityGate.mergeRaw merged raw, f.status = .open := by
  obtain ⟨target, hmerge, habsorbs⟩ := h.mergeRaw_eq raw
  rw [hmerge]
  intro f hf
  rcases List.mem_append.mp hf with hf | hf
  · exact hopen f (List.mem_filter.mp hf).1
  · obtain rfl := List.mem_singleton.mp hf
    exact habsorbs.status

end Merge

/-! ## Merging all observations -/

/-- The loop of `merge_findings` merges every observation. -/
theorem mergedFrom_foldl (raws : List RawFinding) (hraws : ∀ r ∈ raws, r.ids.Nonempty) :
    MergedFrom raws (raws.foldl mergeRaw []) ∧
      ∀ f ∈ raws.foldl mergeRaw [], f.status = .open := by
  induction raws using List.reverseRecOn with
  | nil => exact ⟨mergedFrom_nil, fun _ h => absurd h List.not_mem_nil⟩
  | append_singleton raws raw ih =>
    rw [List.foldl_append, List.foldl_cons, List.foldl_nil]
    have hbefore : ∀ r ∈ raws, r.ids.Nonempty := fun r hr => hraws r (List.mem_append_left _ hr)
    obtain ⟨hmerged, hopen⟩ := ih hbefore
    exact ⟨hmerged.mergeRaw hbefore (hraws raw (by simp)), hmerged.mergeRaw_open hopen raw⟩

/-- Their order does not matter. -/
theorem MergedFrom.perm {raws : List RawFinding} {merged merged' : List Finding}
    (h : MergedFrom raws merged) (hperm : merged'.Perm merged) : MergedFrom raws merged' where
  apart := hperm.symm.pairwise h.apart fun hapart => Apart.symm hapart
  covered := fun r hr => by
    obtain ⟨f, hf, hin⟩ := h.covered r hr
    exact ⟨f, hperm.mem_iff.mpr hf, hin⟩
  joins := fun f hf => h.joins f (hperm.mem_iff.mp hf)

/-- A finding with ids has a primary id. -/
theorem exists_primaryId {finding : Finding} (h : finding.ids.Nonempty) :
    ∃ identifier, finding.primaryId = some identifier := by
  have hlast : ∃ identifier, finding.ids.sort.head? = some identifier := by
    cases hsort : finding.ids.sort with
    | nil =>
      obtain ⟨x, hx⟩ := h
      rw [← Finset.mem_sort (· ≤ ·), hsort] at hx
      exact absurd hx List.not_mem_nil
    | cons x rest => exact ⟨x, rfl⟩
  obtain ⟨identifier, hlast⟩ := hlast
  rw [Finding.primaryId, hlast]
  exact ⟨_, Option.or_some⟩

/-- Sorting findings with identifiers does not raise and reorders them. -/
theorem exists_sortFindings {findings : List Finding}
    (h : ∀ f ∈ findings, f.ids.Nonempty) :
    ∃ sorted, sortFindings findings = some sorted ∧ sorted.Perm findings := by
  have hkeyed : ∃ keyed, (findings.mapM fun finding => do
      let key ← sortKey finding
      return (key, finding)) = some keyed ∧ keyed.map Prod.snd = findings := by
    induction findings with
    | nil => exact ⟨[], rfl, rfl⟩
    | cons f findings ih =>
      rw [List.forall_mem_cons] at h
      obtain ⟨keyed, hkeyed, hmap⟩ := ih h.2
      obtain ⟨identifier, hid⟩ := exists_primaryId h.1
      refine ⟨(toLex (f.package, toLex (f.version, identifier)), f) :: keyed, ?_, by simp [hmap]⟩
      rw [List.mapM_cons, hkeyed]
      simp [sortKey, hid]
  obtain ⟨keyed, hkeyed, hmap⟩ := hkeyed
  refine ⟨(keyed.insertionSort fun a b => a.1 ≤ b.1).map Prod.snd, ?_, ?_⟩
  · rw [sortFindings, hkeyed]
    rfl
  · rw [← hmap]
    exact (List.perm_insertionSort _ keyed).map Prod.snd

/-! ## The later stages -/

/-- Only the assessment of the finding may differ. -/
structure SameVulnerability (f f' : Finding) : Prop where
  ids : f'.ids = f.ids
  product : f'.product = f.product
  severity : f'.severity = f.severity
  fixedVersions : f'.fixedVersions = f.fixedVersions
  application : f'.application = f.application

theorem SameVulnerability.includes_iff {f f' : Finding} (h : SameVulnerability f f')
    (r : RawFinding) : f'.Includes r ↔ f.Includes r := by
  rw [Finding.Includes, h.product, h.ids, Finding.Includes]

/-- The same vulnerability joins the same observations. -/
theorem Joins.of_same {raws : List RawFinding} {f f' : Finding} (h : Joins raws f)
    (hsame : SameVulnerability f f') : Joins raws f' := by
  refine ⟨?_, ?_, ?_, ?_, ?_⟩
  · rw [hsame.ids]
    exact h.ids_nonempty
  · intro r hr hin
    rw [hsame.fixedVersions]
    exact h.fixed r hr ((hsame.includes_iff r).mp hin)
  · intro r hr hin
    rw [hsame.application]
    exact h.application r hr ((hsame.includes_iff r).mp hin)
  · intro r hr hin
    rw [hsame.severity]
    exact h.severity r hr ((hsame.includes_iff r).mp hin)
  · rw [hsame.severity]
    intro hrated
    obtain ⟨r, hr, hin, hrated⟩ := h.rated hrated
    exact ⟨r, hr, (hsame.includes_iff r).mpr hin, hrated⟩

/-- A stage that assesses each finding keeps the merge. -/
theorem MergedFrom.map {raws : List RawFinding} {findings : List Finding} {assess : Finding → Finding}
    (h : MergedFrom raws findings) (hsame : ∀ f, SameVulnerability f (assess f)) :
    MergedFrom raws (findings.map assess) where
  apart := by
    rw [List.pairwise_map]
    refine h.apart.imp fun {f g} hapart heq => ?_
    rw [(hsame f).product, (hsame g).product] at heq
    rw [(hsame f).ids, (hsame g).ids]
    exact hapart heq
  covered := fun r hr => by
    obtain ⟨f, hf, hin⟩ := h.covered r hr
    exact ⟨assess f, List.mem_map_of_mem hf, ((hsame f).includes_iff r).mpr hin⟩
  joins := fun f hf => by
    obtain ⟨g, hg, rfl⟩ := List.mem_map.mp hf
    exact (h.joins g hg).of_same (hsame g)

section Assessment

variable (text : TextFunctions) (vexStatements : Option (List VexStatement))
  (exceptions : List VulnerabilityException) (today : Date)

/-- A VEX statement shares an identifier with the finding and names its package version. -/
def Vexed (f : Finding) : Prop :=
  f.application = false ∧ ∃ statements, vexStatements = some statements ∧
    ∃ statement ∈ statements, ¬ Disjoint f.ids statement.ids ∧ f.product ∈ statement.products

/-- The exception is for the finding and is valid on `today`: two persons (whatever
    the case of their handles), not expired, not from the future, 90 days at most. -/
structure Excuses (entry : VulnerabilityException) (f : Finding) : Prop where
  id : ∃ identifier ∈ f.ids, text.upper identifier = text.upper entry.id
  package : normalisePackage text f.ecosystem entry.package = f.package
  distinct : entry.owner ≠ entry.approver ∧ text.lower entry.owner ≠ text.lower entry.approver
  unexpired : entry.expires.lt today = false
  created : today.lt entry.created = false
  duration : entry.expires.daysSince entry.created ≤ 90

/-- A status other than `open` is one the finding has earned. -/
structure Assessed (f : Finding) : Prop where
  vex : f.status = .vex → Vexed vexStatements f
  accepted : f.status = .accepted →
    f.fixedVersions = ∅ ∧ ∃ entry ∈ exceptions, Excuses text today entry f

variable {text vexStatements exceptions today}

/-- The same vulnerability is covered by the same statements. -/
theorem Vexed.of_same {f f' : Finding} (h : Vexed vexStatements f) (hsame : SameVulnerability f f') :
    Vexed vexStatements f' := by
  rw [Vexed, hsame.application, hsame.ids, hsame.product]
  exact h

/-- The same vulnerability is excused by the same exceptions. -/
theorem Excuses.of_same {entry : VulnerabilityException} {f f' : Finding}
    (h : Excuses text today entry f) (hsame : SameVulnerability f f') :
    Excuses text today entry f' := by
  have hproduct := hsame.product
  simp only [Finding.product, Prod.mk.injEq] at hproduct
  refine ⟨?_, ?_, h.distinct, h.unexpired, h.created, h.duration⟩
  · rw [hsame.ids]
    exact h.id
  · rw [hproduct.1, hproduct.2.1]
    exact h.package

/-- An assessment survives where the status does. -/
theorem Assessed.of_same {f f' : Finding} (h : Assessed text vexStatements exceptions today f)
    (hsame : SameVulnerability f f') (hstatus : f'.status = f.status) :
    Assessed text vexStatements exceptions today f' where
  vex := fun hvex => (h.vex (hstatus ▸ hvex)).of_same hsame
  accepted := fun haccepted => by
    obtain ⟨hfixed, entry, hentry, hexcuses⟩ := h.accepted (hstatus ▸ haccepted)
    exact ⟨hsame.fixedVersions.trans hfixed, entry, hentry, hexcuses.of_same hsame⟩

/-- An open finding is assessed. -/
theorem assessed_of_open {f : Finding} (h : f.status = .open) :
    Assessed text vexStatements exceptions today f where
  vex := fun hvex => by
    rw [h] at hvex
    cases hvex
  accepted := fun haccepted => by
    rw [h] at haccepted
    cases haccepted

/-- What `apply_vex` does to one finding. -/
def vexFinding (statements : List VexStatement) (finding : Finding) : Finding :=
  if finding.application then finding
  else match statements.find? fun statement => statement.covers finding with
    | none => finding
    | some statement =>
      { finding with
        status := .vex
        note := "OpenVEX " ++ statement.status ++ ": " ++ statement.justification }

/-- A VEX document changes no vulnerability. -/
theorem same_vexFinding (statements : List VexStatement) (f : Finding) :
    SameVulnerability f (vexFinding statements f) := by
  unfold vexFinding
  split
  · exact ⟨rfl, rfl, rfl, rfl, rfl⟩
  · split <;> exact ⟨rfl, rfl, rfl, rfl, rfl⟩

/-- A statement covers findings of its products that share an id with it. -/
theorem covers_iff {statement : VexStatement} {f : Finding} :
    statement.covers f = true ↔
      ¬ Disjoint f.ids statement.ids ∧ f.product ∈ statement.products := by
  rw [VexStatement.covers, Bool.and_eq_true, decide_eq_true_eq, decide_eq_true_eq,
    Finset.disjoint_iff_inter_eq_empty]
  rfl

/-- A finding is assessed after the VEX document. -/
theorem assessed_vexFinding {statements : List VexStatement} {f : Finding}
    (h : f.status = .open) :
    Assessed text (some statements) exceptions today (vexFinding statements f) := by
  unfold vexFinding
  split
  · exact assessed_of_open h
  · rename_i happlication
    split
    · exact assessed_of_open h
    · rename_i statement hfind
      have hcovers : statement.covers f = true := by simpa using List.find?_some hfind
      refine ⟨fun _ => ⟨by simpa using happlication, statements, rfl, statement,
        List.mem_of_find?_eq_some hfind, covers_iff.mp hcovers⟩, fun haccepted => ?_⟩
      cases haccepted

/-- `apply_vex`, when an OpenVEX document was given. -/
def applyVexDocument : Option (List VexStatement) → List Finding → List Finding
  | none, findings => findings
  | some statements, findings => applyVex statements findings

/-- So are all findings, and they are still those that were merged. -/
theorem assessed_applyVexDocument {raws : List RawFinding} {findings : List Finding}
    (hmerged : MergedFrom raws findings) (hopen : ∀ f ∈ findings, f.status = .open) :
    MergedFrom raws (applyVexDocument vexStatements findings) ∧
      ∀ f ∈ applyVexDocument vexStatements findings,
        Assessed text vexStatements exceptions today f := by
  cases vexStatements with
  | none => exact ⟨hmerged, fun f hf => assessed_of_open (hopen f hf)⟩
  | some statements =>
    refine ⟨hmerged.map (same_vexFinding statements), fun f hf => ?_⟩
    obtain ⟨g, hg, rfl⟩ := List.mem_map.mp hf
    exact assessed_vexFinding (hopen g hg)

/-- What `apply_exceptions` does to one finding when it accepts. -/
def acceptFinding (text : TextFunctions) (entry : VulnerabilityException) (finding : Finding) :
    Finding :=
  if entry.matchesFinding text finding && finding.status = .open then
    { finding with
      status := .accepted
      note := "exception until " ++ entry.expires.isoformat ++ " (owner " ++ entry.owner ++
        "): " ++ entry.reason }
  else finding

/-- Accepting a finding changes no vulnerability. -/
theorem same_acceptFinding (entry : VulnerabilityException) (f : Finding) :
    SameVulnerability f (acceptFinding text entry f) := by
  unfold acceptFinding
  split <;> exact ⟨rfl, rfl, rfl, rfl, rfl⟩

/-- An exception without problems is valid. -/
theorem excuses_of_validateException {entry : VulnerabilityException} {f : Finding}
    (hvalid : validateException text entry today = [])
    (hmatch : entry.matchesFinding text f = true) : Excuses text today entry f := by
  simp only [validateException, List.map_eq_nil_iff, List.append_eq_nil_iff, ite_eq_right_iff,
    ite_eq_left_iff, List.cons_ne_nil, imp_false, Bool.not_eq_true, not_lt] at hvalid
  obtain ⟨⟨⟨⟨⟨-, hdistinct⟩, hcreated⟩, -⟩, hduration⟩, hexpires⟩ := hvalid
  rw [VulnerabilityException.matchesFinding, Bool.and_eq_true, decide_eq_true_eq,
    decide_eq_true_eq, Finset.mem_image] at hmatch
  exact ⟨hmatch.1, hmatch.2, ⟨fun heq => hdistinct (by rw [heq]), hdistinct⟩, hexpires, hcreated,
    hduration⟩

/-- One round of the loop keeps the merge and the assessments. -/
theorem assessed_applyException {raws : List RawFinding} {state : ExceptionState}
    {entry : VulnerabilityException} (hentry : entry ∈ exceptions)
    (hmerged : MergedFrom raws state.findings)
    (hassessed : ∀ f ∈ state.findings, Assessed text vexStatements exceptions today f) :
    MergedFrom raws (applyException text today state entry).findings ∧
      ∀ f ∈ (applyException text today state entry).findings,
        Assessed text vexStatements exceptions today f := by
  simp only [applyException]
  split
  · exact ⟨hmerged, hassessed⟩
  split
  · exact ⟨hmerged, hassessed⟩
  split
  · exact ⟨hmerged, hassessed⟩
  rename_i hfixable
  split
  · exact ⟨hmerged, hassessed⟩
  -- no problems and nothing to upgrade: the open matches are accepted
  rename_i hvalid
  refine ⟨hmerged.map (same_acceptFinding entry), fun f hf => ?_⟩
  obtain ⟨g, hg, rfl⟩ := List.mem_map.mp hf
  split
  · rename_i haccept
    rw [Bool.and_eq_true, decide_eq_true_eq] at haccept
    have hexcuses : Excuses text today entry g :=
      excuses_of_validateException (not_not.mp hvalid) haccept.1
    have hunfixed : g.fixedVersions = ∅ := by
      by_contra hne
      have hmem : g ∈ ((state.findings.filter fun finding => entry.matchesFinding text finding).filter
          fun finding => finding.status = .open).filter Finding.fixAvailable := by
        simp [List.mem_filter, hg, haccept.1, haccept.2, Finding.fixAvailable, hne]
      rw [not_not.mp hfixable] at hmem
      exact List.not_mem_nil hmem
    refine ⟨fun hvex => ?_, fun _ => ⟨hunfixed, entry, hentry, ?_⟩⟩
    · cases hvex
    · exact hexcuses.of_same ⟨rfl, rfl, rfl, rfl, rfl⟩
  · exact hassessed g hg

/-- All findings are assessed after the exceptions, and they are still those that were merged. -/
theorem assessed_applyExceptions {raws : List RawFinding} {findings : List Finding}
    (hmerged : MergedFrom raws findings)
    (hassessed : ∀ f ∈ findings, Assessed text vexStatements exceptions today f) :
    MergedFrom raws (applyExceptions text exceptions today findings).findings ∧
      ∀ f ∈ (applyExceptions text exceptions today findings).findings,
        Assessed text vexStatements exceptions today f := by
  have hloop : ∀ (entries : List VulnerabilityException) (state : ExceptionState),
      (∀ entry ∈ entries, entry ∈ exceptions) → MergedFrom raws state.findings →
      (∀ f ∈ state.findings, Assessed text vexStatements exceptions today f) →
      MergedFrom raws (entries.foldl (applyException text today) state).findings ∧
        ∀ f ∈ (entries.foldl (applyException text today) state).findings,
          Assessed text vexStatements exceptions today f := by
    intro entries
    induction entries with
    | nil => exact fun _ _ hmerged hassessed => ⟨hmerged, hassessed⟩
    | cons entry entries ih =>
      intro state hentries hmerged hassessed
      rw [List.forall_mem_cons] at hentries
      obtain ⟨hmerged, hassessed⟩ := assessed_applyException hentries.1 hmerged hassessed
      exact ih _ hentries.2 hmerged hassessed
  exact hloop exceptions ⟨[], [], findings⟩ (fun _ h => h) hmerged hassessed

/-! ## The verdict -/

/-- What `decide` does to one finding. -/
def decideFinding (finding : Finding) : Finding :=
  { finding with
    blocking := finding.status = .open &&
      (finding.fixAvailable || finding.severity.blockingUnfixed) }

theorem same_decideFinding (f : Finding) : SameVulnerability f (decideFinding f) :=
  ⟨rfl, rfl, rfl, rfl, rfl⟩

/-- What may clear a finding: a VEX statement on a base-image package, a valid
    exception for a vulnerability without a fix, or ratings of medium at most. -/
inductive Cleared (text : TextFunctions) (raws : List RawFinding)
    (vexStatements : Option (List VexStatement)) (exceptions : List VulnerabilityException)
    (today : Date) (f : Finding) : Prop
  | vex (hvex : Vexed vexStatements f)
  | accepted (hunfixed : ∀ r ∈ raws, f.Includes r → r.fixedVersions = ∅)
      (hentry : ∃ entry ∈ exceptions, Excuses text today entry f)
  | tolerated (hunfixed : ∀ r ∈ raws, f.Includes r → r.fixedVersions = ∅)
      (hrated : ∃ r ∈ raws, f.Includes r ∧ r.severity ≠ .unknown)
      (hmedium : ∀ r ∈ raws, f.Includes r → r.severity ≠ .critical ∧ r.severity ≠ .high)

/-- An assessed finding that does not block is cleared. -/
theorem cleared_of_not_blocking {raws : List RawFinding} {f : Finding} (hjoins : Joins raws f)
    (hassessed : Assessed text vexStatements exceptions today f)
    (hblocking : (decideFinding f).blocking = false) :
    Cleared text raws vexStatements exceptions today f := by
  have hunfixed : f.fixedVersions = ∅ → ∀ r ∈ raws, f.Includes r → r.fixedVersions = ∅ := by
    intro hempty r hr hin
    rw [← Finset.subset_empty, ← hempty]
    exact hjoins.fixed r hr hin
  cases hstatus : f.status with
  | vex => exact .vex (hassessed.vex hstatus)
  | accepted =>
    obtain ⟨hempty, hentry⟩ := hassessed.accepted hstatus
    exact .accepted (hunfixed hempty) hentry
  | «open» =>
    simp only [decideFinding, hstatus, decide_true, Bool.true_and, Bool.or_eq_false_iff,
      Finding.fixAvailable, decide_eq_false_iff_not, not_not] at hblocking
    obtain ⟨hempty, hseverity⟩ := hblocking
    have hrated : f.severity ≠ .unknown := by
      intro heq
      rw [heq] at hseverity
      cases hseverity
    refine .tolerated (hunfixed hempty) (hjoins.rated hrated) fun r hr hin => ?_
    -- a critical or high rating would have made the finding one of the two
    have hle := hjoins.severity r hr hin
    revert hle hseverity
    unfold Severity.RatedBy
    cases r.severity <;> cases f.severity <;> simp [Severity.order, Severity.blockingUnfixed]

/-- Findings that are apart include an observation at most once. -/
theorem MergedFrom.filter_includes {raws : List RawFinding} {findings : List Finding}
    (h : MergedFrom raws findings) {r : RawFinding} (hr : r ∈ raws) (hids : r.ids.Nonempty) :
    ∃ f, findings.filter (fun f => f.Includes r) = [f] := by
  obtain ⟨f, hf, hin⟩ := h.covered r hr
  have hmem : f ∈ findings.filter fun f => f.Includes r := by simp [hf, hin]
  have hapart : (findings.filter fun f => f.Includes r).Pairwise Apart := h.apart.filter _
  cases hfilter : findings.filter fun f => f.Includes r with
  | nil =>
    rw [hfilter] at hmem
    exact absurd hmem List.not_mem_nil
  | cons g rest =>
    cases rest with
    | nil => exact ⟨g, rfl⟩
    | cons g' rest =>
      rw [hfilter, List.pairwise_cons] at hapart
      have hincludes : ∀ f ∈ g :: g' :: rest, f.Includes r := by
        intro f hf
        rw [← hfilter, List.mem_filter] at hf
        exact of_decide_eq_true hf.2
      have hg := hincludes g List.mem_cons_self
      have hg' := hincludes g' (List.mem_cons_of_mem _ List.mem_cons_self)
      obtain ⟨x, hx⟩ := hids
      have hdisjoint := hapart.1 g' List.mem_cons_self (hg.1.trans hg'.1.symm)
      exact absurd (hg'.2 hx) (Finset.disjoint_left.mp hdisjoint (hg.2 hx))

/-- The findings of the result are a merge of the observations, each assessed and decided. -/
theorem exists_evaluate (text : TextFunctions) (target : String) (raws : List RawFinding)
    (hraws : ∀ r ∈ raws, r.ids.Nonempty) (vexStatements : Option (List VexStatement))
    (exceptions : List VulnerabilityException) (today : Date) :
    ∃ result findings, evaluate text target raws vexStatements exceptions today = some result ∧
      result.findings = findings.map decideFinding ∧ MergedFrom raws findings ∧
      ∀ f ∈ findings, Assessed text vexStatements exceptions today f := by
  obtain ⟨hmerged, hopen⟩ := mergedFrom_foldl raws hraws
  obtain ⟨merged, hsort, hperm⟩ :=
    exists_sortFindings fun f hf => (hmerged.joins f hf).ids_nonempty
  have hmerge : mergeFindings raws = some merged := hsort
  replace hmerged := hmerged.perm hperm
  replace hopen : ∀ f ∈ merged, f.status = .open := fun f hf => hopen f (hperm.mem_iff.mp hf)
  have hvexed : MergedFrom raws (applyVexDocument vexStatements merged) ∧
      ∀ f ∈ applyVexDocument vexStatements merged,
        Assessed text vexStatements exceptions today f :=
    assessed_applyVexDocument hmerged hopen
  obtain ⟨hmerged, hassessed⟩ := assessed_applyExceptions hvexed.1 hvexed.2
  let state := applyExceptions text exceptions today (applyVexDocument vexStatements merged)
  refine ⟨⟨target, decide state.findings, state.problems, vexStatements.isSome⟩, state.findings, ?_,
    rfl, hmerged, hassessed⟩
  rw [evaluate, hmerge]
  cases vexStatements <;> rfl

/-- Observations with identifiers are always evaluated, and if the image passes,
    every one of them is included in exactly one merged finding, which is cleared. -/
theorem evaluate_sound (text : TextFunctions) (target : String) (raws : List RawFinding)
    (hraws : ∀ r ∈ raws, r.ids.Nonempty) (vexStatements : Option (List VexStatement))
    (exceptions : List VulnerabilityException) (today : Date) :
    ∃ result, evaluate text target raws vexStatements exceptions today = some result ∧
      (result.passed = true → ∀ r ∈ raws, ∃ f,
        result.findings.filter (fun f => f.Includes r) = [f] ∧
          Cleared text raws vexStatements exceptions today f) := by
  obtain ⟨result, findings, heval, hfindings, hmerged, hassessed⟩ :=
    exists_evaluate text target raws hraws vexStatements exceptions today
  refine ⟨result, heval, fun hpassed r hr => ?_⟩
  -- deciding changes no identity, so the observation is in exactly one finding
  have hdecided : MergedFrom raws result.findings := by
    rw [hfindings]
    exact hmerged.map same_decideFinding
  obtain ⟨f, hfilter⟩ := hdecided.filter_includes hr (hraws r hr)
  refine ⟨f, hfilter, ?_⟩
  have hf : f ∈ result.findings := by
    have hmem : f ∈ result.findings.filter fun f => f.Includes r := by
      rw [hfilter]
      exact List.mem_singleton_self f
    exact (List.mem_filter.mp hmem).1
  -- and in a result that passed that finding blocks nothing
  have hblocking : f.blocking = false := by
    rw [GateResult.passed, Bool.and_eq_true, List.isEmpty_iff, GateResult.blocking,
      List.filter_eq_nil_iff] at hpassed
    simpa using hpassed.1 f hf
  obtain ⟨g, hg, rfl⟩ := List.mem_map.mp (hfindings ▸ hf)
  exact cleared_of_not_blocking (hdecided.joins _ hf)
    ((hassessed g hg).of_same (same_decideFinding g) rfl) hblocking

end Assessment

/-- The case mappings and `repr`, on ASCII text without quotes. -/
def asciiText : TextFunctions where
  upper s := String.ofList (s.toList.map Char.toUpper)
  lower s := String.ofList (s.toList.map Char.toLower)
  repr s := "'" ++ s ++ "'"

/-- A base-image vulnerability that OpenVEX covers, one that pip-audit reports and
    Snyk rates low, and one of the application under an exception. -/
def scannedImage : List RawFinding :=
  [⟨"docker-scout", {"CVE-2026-1"}, "deb", "openssl", "3.0", .high, ∅, false, ""⟩,
   ⟨"pip-audit", {"PYSEC-2", "CVE-2026-2"}, "pypi", "requests", "2.0", .unknown, ∅, true, ""⟩,
   ⟨"snyk", {"SNYK-2", "CVE-2026-2"}, "pypi", "requests", "2.0", .low, ∅, true, ""⟩,
   ⟨"snyk", {"CVE-2026-3"}, "pypi", "urllib3", "1.0", .high, ∅, true, ""⟩]

/-- The statement on `openssl` and the exception for `urllib3`. -/
def imageVex : List VexStatement :=
  [⟨{"CVE-2026-1"}, {("deb", "openssl", "3.0")}, "not_affected", "component_not_present"⟩]

def imageExceptions : List VulnerabilityException :=
  [⟨"cve-2026-3", "urllib3", "no fix yet", "@dev", "@lead", ⟨2026, 1, 10⟩, ⟨2026, 3, 1⟩⟩]

/-- A gate that passes with four observations. -/
theorem evaluate_sound_scannedImage :
    (evaluate asciiText "image" scannedImage (some imageVex) imageExceptions ⟨2026, 2, 1⟩).any
        GateResult.passed = true ∧
      ∃ result, evaluate asciiText "image" scannedImage (some imageVex) imageExceptions
          ⟨2026, 2, 1⟩ = some result ∧
        (result.passed = true → ∀ r ∈ scannedImage, ∃ f,
          result.findings.filter (fun f => f.Includes r) = [f] ∧
            Cleared asciiText scannedImage (some imageVex) imageExceptions ⟨2026, 2, 1⟩ f) :=
  ⟨by decide +kernel,
    evaluate_sound asciiText "image" scannedImage (by decide) (some imageVex) imageExceptions
      ⟨2026, 2, 1⟩⟩

end Conformance.VulnerabilityGate
