import Conformance.ForStd.Components
import Conformance.ForStd.Except
import Conformance.Spec.VulnerabilityGateSound

/-!
# Merging findings computes connected components

The merge is the one-pass grouping of `ForStd.Components` in which every group is kept
as the join of its observations (`IsJoin`, `forall₂_foldl_mergeRaw`). Absorbing is associative, so
a finding that absorbs others holds the join of all their observations, and what the join says
does not depend on their order up to the title (`JoinOf.untitled_eq`).

## Key results

- `isJoin_mergeRaw`, `forall₂_foldl_mergeRaw`: the merge refines the grouping
- `mergesComponents_foldl`: every finding is the join of a component, and every component has one
- `mergeFindings_components`: one finding for each component, in any order of the observations
-/

namespace Conformance.VulnerabilityGate

/-- The observations are of one package version and share an identifier. -/
def RawFinding.linked (first second : RawFinding) : Bool :=
  first.product = second.product && first.ids ∩ second.ids ≠ ∅

/-- Observations are linked when they are of one product and share an id. -/
theorem linked_iff {first second : RawFinding} :
    first.linked second = true ↔
      first.product = second.product ∧ ¬Disjoint first.ids second.ids := by
  rw [RawFinding.linked, Bool.and_eq_true, decide_eq_true_eq, decide_eq_true_eq,
    Finset.disjoint_iff_inter_eq_empty]

theorem linked_comm (first second : RawFinding) : first.linked second = second.linked first := by
  rw [Bool.eq_iff_iff, linked_iff, linked_iff, disjoint_comm, eq_comm]

/-! ## Joining observations -/

theorem maxSeverity_assoc (s t u : Severity) :
    maxSeverity (maxSeverity s t) u = maxSeverity s (maxSeverity t u) := by
  cases s <;> cases t <;> cases u <;> rfl

theorem maxSeverity_eq_or (s t : Severity) : maxSeverity s t = s ∨ maxSeverity s t = t := by
  cases s <;> cases t <;> decide

/-- Findings can be absorbed in any grouping. -/
theorem absorb_assoc (f g h : Finding) : (f.absorb g).absorb h = f.absorb (g.absorb h) := by
  simp only [Finding.absorb, Finset.union_assoc, Bool.or_assoc, maxSeverity_assoc, Finding.mk.injEq,
    true_and, and_true]
  by_cases htitle : f.title = ""
  · simp [htitle]
  · simp [htitle]

/-- The join of the findings of several observations. -/
def joinAll (raw : RawFinding) (rest : List RawFinding) : Finding :=
  rest.foldl (fun finding next => finding.absorb (.ofRaw next)) (.ofRaw raw)

/-- The finding is the join of the group, whose observations are of its package version. -/
structure IsJoin (group : List RawFinding) (finding : Finding) : Prop where
  eq_join : ∃ raw rest, group = raw :: rest ∧ finding = joinAll raw rest
  product : ∀ raw ∈ group, raw.product = finding.product

/-- Absorbing a join is absorbing the observations one by one. -/
theorem absorb_joinAll (f : Finding) (raw : RawFinding) (rest : List RawFinding) :
    f.absorb (joinAll raw rest) =
      (raw :: rest).foldl (fun finding next => finding.absorb (.ofRaw next)) f := by
  induction rest using List.reverseRecOn with
  | nil => rfl
  | append_singleton rest next ih =>
    rw [← List.cons_append, List.foldl_append, ← ih, joinAll, List.foldl_append]
    exact (absorb_assoc f (joinAll raw rest) (.ofRaw next)).symm

/-- Absorbing joins is absorbing what they join. -/
theorem foldl_absorb_joins {groups : List (List RawFinding)} {findings : List Finding}
    (h : List.Forall₂ IsJoin groups findings) (f : Finding) :
    findings.foldl Finding.absorb f =
      groups.flatten.foldl (fun finding next => finding.absorb (.ofRaw next)) f := by
  induction h generalizing f with
  | nil => rfl
  | cons hjoin _ ih =>
    obtain ⟨raw, rest, rfl, rfl⟩ := hjoin.eq_join
    rw [List.foldl_cons, ih, absorb_joinAll, List.flatten_cons, List.foldl_append]

/-! ## What a join holds -/

/-- The finding joins exactly what the observations say. -/
structure JoinOf (observations : Set RawFinding) (finding : Finding) : Prop where
  product : ∀ raw ∈ observations, raw.product = finding.product
  ids : ∀ x, x ∈ finding.ids ↔ ∃ raw ∈ observations, x ∈ raw.ids
  sources : ∀ x, x ∈ finding.sources ↔ ∃ raw ∈ observations, raw.source = x
  fixedVersions : ∀ x, x ∈ finding.fixedVersions ↔ ∃ raw ∈ observations, x ∈ raw.fixedVersions
  application : finding.application = true ↔ ∃ raw ∈ observations, raw.application = true
  unknown : finding.severity = .unknown ↔ ∀ raw ∈ observations, raw.severity = .unknown
  attained : ∃ raw ∈ observations, raw.severity = finding.severity
  greatest : ∀ raw ∈ observations, raw.severity ≠ .unknown →
    raw.severity.order ≤ finding.severity.order
  fresh : finding.status = .open ∧ finding.blocking = false ∧ finding.note = ""

/-- An observation is its own join. -/
theorem joinOf_ofRaw (raw : RawFinding) : JoinOf {r | r ∈ [raw]} (.ofRaw raw) := by
  constructor
  · simp [Finding.ofRaw, RawFinding.product, Finding.product]
  · simp [Finding.ofRaw]
  · simp [Finding.ofRaw, eq_comm (a := raw.source)]
  · simp [Finding.ofRaw]
  · simp [Finding.ofRaw]
  · simp [Finding.ofRaw]
  · simp [Finding.ofRaw]
  · simp [Finding.ofRaw]
  · simp [Finding.ofRaw]

/-- One more observation of the package version. -/
theorem JoinOf.absorb {group : List RawFinding} {f : Finding} {raw : RawFinding}
    (h : JoinOf {r | r ∈ group} f) (hproduct : raw.product = f.product) :
    JoinOf {r | r ∈ group ++ [raw]} (f.absorb (.ofRaw raw)) := by
  have hrated := ratedBy_maxSeverity_left f.severity raw.severity
  have hrated' := ratedBy_maxSeverity_right f.severity raw.severity
  -- a fact about the longer group is one about the group and the new observation
  have hor : ∀ {P : RawFinding → Prop}, (∃ r ∈ {r | r ∈ group ++ [raw]}, P r) ↔
      (∃ r ∈ {r | r ∈ group}, P r) ∨ P raw := by
    intro P
    simp only [Set.mem_ofPred_eq, List.mem_append, List.mem_singleton, or_and_right, exists_or,
      exists_eq_left]
  have hand : ∀ {P : RawFinding → Prop}, (∀ r ∈ {r | r ∈ group ++ [raw]}, P r) ↔
      (∀ r ∈ {r | r ∈ group}, P r) ∧ P raw := by
    intro P
    simp only [Set.mem_ofPred_eq, List.mem_append, List.mem_singleton, or_imp, forall_and,
      forall_eq]
  refine ⟨?_, ?_, ?_, ?_, ?_, ?_, ?_, ?_, h.fresh⟩
  · exact hand.mpr ⟨h.product, hproduct⟩
  · intro x
    rw [hor, ← h.ids]
    simp [Finding.absorb, Finding.ofRaw]
  · intro x
    rw [hor, ← h.sources, eq_comm (a := raw.source)]
    simp [Finding.absorb, Finding.ofRaw, or_comm]
  · intro x
    rw [hor, ← h.fixedVersions]
    simp [Finding.absorb, Finding.ofRaw]
  · rw [hor, ← h.application]
    simp [Finding.absorb, Finding.ofRaw]
  · rw [hand, ← h.unknown]
    simp only [Finding.absorb, Finding.ofRaw]
    cases f.severity <;> cases raw.severity <;> decide
  · rw [hor]
    simp only [Finding.absorb, Finding.ofRaw]
    rcases maxSeverity_eq_or f.severity raw.severity with heq | heq
    · rw [heq]
      exact .inl h.attained
    · rw [heq]
      exact .inr rfl
  · refine hand.mpr ⟨fun r hr hknown => ?_, fun hknown => (hrated' hknown).2⟩
    have hf : f.severity ≠ .unknown := fun heq => hknown (h.unknown.mp heq r hr)
    exact Nat.le_trans (h.greatest r hr hknown) (hrated hf).2

/-- Joining the observations of a product makes their join. -/
theorem joinOf_joinAll {raw : RawFinding} {rest : List RawFinding}
    (h : ∀ r ∈ raw :: rest, r.product = raw.product) :
    JoinOf {r | r ∈ raw :: rest} (joinAll raw rest) := by
  induction rest using List.reverseRecOn with
  | nil => exact joinOf_ofRaw raw
  | append_singleton rest next ih =>
    have hbefore := ih fun r hr => h r (by
      rw [← List.cons_append]
      exact List.mem_append_left _ hr)
    have hproduct : next.product = (joinAll raw rest).product :=
      (h next (by simp)).trans (hbefore.product raw List.mem_cons_self)
    rw [joinAll, List.foldl_append, ← List.cons_append]
    exact hbefore.absorb hproduct

/-- What joins a group is the join of its members. -/
theorem IsJoin.joinOf {group : List RawFinding} {f : Finding} (h : IsJoin group f) :
    JoinOf {r | r ∈ group} f := by
  obtain ⟨raw, rest, rfl, rfl⟩ := h.eq_join
  refine joinOf_joinAll fun r hr => ?_
  rw [h.product r hr, h.product raw List.mem_cons_self]

/-- A finding without its title. -/
def Finding.untitled (finding : Finding) : Finding := { finding with title := "" }

/-- The order tells known severities apart. -/
theorem order_injective {s t : Severity} (hs : s ≠ .unknown) (ht : t ≠ .unknown)
    (h : s.order = t.order) : s = t := by
  revert hs ht h
  cases s <;> cases t <;> decide

/-- A join has one severity. -/
theorem JoinOf.severity_eq {observations : Set RawFinding} {f f' : Finding}
    (h : JoinOf observations f) (h' : JoinOf observations f') : f.severity = f'.severity := by
  by_cases hunknown : ∀ raw ∈ observations, raw.severity = .unknown
  · rw [h.unknown.mpr hunknown, h'.unknown.mpr hunknown]
  · have hknown : f.severity ≠ .unknown := fun heq => hunknown (h.unknown.mp heq)
    have hknown' : f'.severity ≠ .unknown := fun heq => hunknown (h'.unknown.mp heq)
    obtain ⟨raw, hraw, heq⟩ := h.attained
    obtain ⟨raw', hraw', heq'⟩ := h'.attained
    refine order_injective hknown hknown' (Nat.le_antisymm ?_ ?_)
    · exact heq ▸ h'.greatest raw hraw (heq ▸ hknown)
    · exact heq' ▸ h.greatest raw' hraw' (heq' ▸ hknown')

/-- The observations decide the finding up to its title. -/
theorem JoinOf.untitled_eq {observations : Set RawFinding} {f f' : Finding}
    (h : JoinOf observations f) (h' : JoinOf observations f') : f.untitled = f'.untitled := by
  obtain ⟨raw, hraw, -⟩ := h.attained
  have hproduct : f.product = f'.product := (h.product raw hraw).symm.trans (h'.product raw hraw)
  have hids : f.ids = f'.ids := Finset.ext fun x => (h.ids x).trans (h'.ids x).symm
  have hsources : f.sources = f'.sources :=
    Finset.ext fun x => (h.sources x).trans (h'.sources x).symm
  have hfixed : f.fixedVersions = f'.fixedVersions :=
    Finset.ext fun x => (h.fixedVersions x).trans (h'.fixedVersions x).symm
  have happlication : f.application = f'.application :=
    Bool.eq_iff_iff.mpr (h.application.trans h'.application.symm)
  simp only [Finding.product, Prod.mk.injEq] at hproduct
  simp [Finding.untitled, hproduct, hids, hsources, hfixed, happlication, h.severity_eq h',
    h.fresh, h'.fresh]

/-! ## The merge refines the grouping -/

/-- A finding matches an observation when one of its own observations is linked to it. -/
theorem IsJoin.matchesRaw_eq {group : List RawFinding} {f : Finding} (h : IsJoin group f)
    (raw : RawFinding) : f.matchesRaw raw = group.any fun r => r.linked raw := by
  rw [Bool.eq_iff_iff, matchesRaw_iff, List.any_eq_true]
  simp only [linked_iff, Finset.not_disjoint_iff]
  constructor
  · rintro ⟨hproduct, x, hx, hraw⟩
    obtain ⟨r, hr, hx⟩ := (h.joinOf.ids x).mp hx
    exact ⟨r, hr, (h.product r hr).trans hproduct, x, hx, hraw⟩
  · rintro ⟨r, hr, hproduct, x, hx, hraw⟩
    exact ⟨(h.product r hr).symm.trans hproduct, x, (h.joinOf.ids x).mpr ⟨r, hr, hx⟩, hraw⟩

/-- One more observation. -/
theorem isJoin_mergeRaw {groups : List (List RawFinding)} {merged : List Finding}
    (h : List.Forall₂ IsJoin groups merged) (hnodup : merged.Nodup) (raw : RawFinding) :
    List.Forall₂ IsJoin (List.addToGroups RawFinding.linked groups raw) (mergeRaw merged raw) := by
  rw [mergeRaw_eq hnodup, List.addToGroups]
  have hrest : List.Forall₂ IsJoin
      (groups.filter fun group => !group.any fun r => r.linked raw)
      (merged.filter fun f => !f.matchesRaw raw) := by
    refine List.rel_filter (fun group f hjoin => ?_) h
    simp only [hjoin.matchesRaw_eq]
  have hmatched : List.Forall₂ IsJoin (groups.filter fun group => group.any fun r => r.linked raw)
      (merged.filter fun f => f.matchesRaw raw) := by
    refine List.rel_filter (fun group f hjoin => ?_) h
    simp only [hjoin.matchesRaw_eq]
  refine List.rel_append hrest (.cons ⟨⟨raw, _, rfl, foldl_absorb_joins hmatched _⟩, ?_⟩ .nil)
  have hproduct := (absorbs_foldl (merged.filter fun f => f.matchesRaw raw) (.ofRaw raw)).product
  intro r hr
  rw [hproduct]
  rcases List.mem_cons.mp hr with rfl | hr
  · rfl
  · obtain ⟨group, hgroup, hr⟩ := List.mem_flatten.mp hr
    obtain ⟨f, hf, hjoin⟩ := hmatched.exists_of_mem_left hgroup
    exact (hjoin.product r hr).trans (matchesRaw_iff.mp (List.mem_filter.mp hf).2).1

/-- Merging all observations joins the groups that they are added to. -/
theorem forall₂_foldl_mergeRaw (raws : List RawFinding) (hraws : ∀ raw ∈ raws, raw.ids.Nonempty) :
    List.Forall₂ IsJoin (raws.foldl (List.addToGroups RawFinding.linked) [])
      (raws.foldl mergeRaw []) := by
  induction raws using List.reverseRecOn with
  | nil => exact .nil
  | append_singleton raws raw ih =>
    have hbefore : ∀ r ∈ raws, r.ids.Nonempty := fun r hr => hraws r (List.mem_append_left _ hr)
    rw [List.foldl_append, List.foldl_append]
    exact isJoin_mergeRaw (ih hbefore) (mergedFrom_foldl raws hbefore).1.nodup raw

/-! ## Components -/

/-- The components of the observations. -/
abbrev components (raws : List RawFinding) : Set (Set RawFinding) :=
  raws.components RawFinding.linked

/-- The observations of a finding. -/
def Finding.observations (raws : List RawFinding) (finding : Finding) : Set RawFinding :=
  {raw | raw ∈ raws ∧ finding.Includes raw}

section Grouped

variable {raws : List RawFinding} {groups : List (List RawFinding)} {merged : List Finding}

/-- The observations a finding includes are those of its group. -/
theorem observations_eq (hgroups : raws.IsComponents RawFinding.linked groups)
    (hraws : ∀ raw ∈ raws, raw.ids.Nonempty) {group : List RawFinding} {f : Finding}
    (hgroup : group ∈ groups) (hjoin : IsJoin group f) :
    f.observations raws = {raw | raw ∈ group} := by
  ext raw
  constructor
  · rintro ⟨hraw, hproduct, hids⟩
    -- an identifier of the observation is one of an observation of the group
    obtain ⟨x, hx⟩ := hraws raw hraw
    obtain ⟨r, hr, hxr⟩ := (hjoin.joinOf.ids x).mp (hids hx)
    refine hgroups.mem_of_connected linked_comm hgroup hr ?_
    refine .of_linked (hgroups.subset hgroup hr) hraw (linked_iff.mpr ⟨?_, ?_⟩)
    · exact (hjoin.product r hr).trans hproduct
    · exact Finset.not_disjoint_iff.mpr ⟨x, hxr, hx⟩
  · intro hraw
    refine ⟨hgroups.subset hgroup hraw, (hjoin.product raw hraw).symm, fun x hx => ?_⟩
    exact (hjoin.joinOf.ids x).mpr ⟨raw, hraw, hx⟩

/-- The findings and the components stand for each other. -/
theorem bijOn_observations (hgroups : raws.IsComponents RawFinding.linked groups)
    (hjoins : List.Forall₂ IsJoin groups merged) (hraws : ∀ raw ∈ raws, raw.ids.Nonempty)
    (hmerged : MergedFrom raws merged) :
    Set.BijOn (Finding.observations raws) {f | f ∈ merged} (components raws) := by
  have hcomponents := hgroups.components_eq linked_comm
  refine ⟨?_, ?_, ?_⟩
  · intro f hf
    obtain ⟨group, hgroup, hjoin⟩ := hjoins.exists_of_mem_right hf
    rw [components, hcomponents]
    exact ⟨group, hgroup, observations_eq hgroups hraws hgroup hjoin⟩
  · intro f hf g hg heq
    by_contra hne
    -- both include an observation of the first, so they share an identifier of it
    obtain ⟨group, hgroup, hjoin⟩ := hjoins.exists_of_mem_right hf
    obtain ⟨raw, hraw⟩ := List.exists_mem_of_ne_nil _ (hgroups.ne_nil group hgroup)
    have hin : raw ∈ f.observations raws := by
      rw [observations_eq hgroups hraws hgroup hjoin]
      exact hraw
    have hin' : raw ∈ g.observations raws := heq ▸ hin
    obtain ⟨x, hx⟩ := hraws raw hin.1
    have hapart : Apart f g := hmerged.apart.forall hf hg hne
    have hdisjoint := hapart (hin.2.1.trans hin'.2.1.symm)
    exact Finset.disjoint_left.mp hdisjoint (hin.2.2 hx) (hin'.2.2 hx)
  · intro c hc
    rw [components, hcomponents] at hc
    obtain ⟨group, hgroup, rfl⟩ := hc
    obtain ⟨f, hf, hjoin⟩ := hjoins.exists_of_mem_left hgroup
    exact ⟨f, hf, observations_eq hgroups hraws hgroup hjoin⟩

end Grouped

/-- Every finding is the join of its observations, which are a component. -/
structure MergesComponents (raws : List RawFinding) (findings : List Finding) : Prop where
  bijOn : Set.BijOn (Finding.observations raws) {f | f ∈ findings} (components raws)
  joins : ∀ f ∈ findings, JoinOf (f.observations raws) f
  nodup : findings.Nodup
  apart : findings.Pairwise Apart

/-- Merging makes one finding for each component. -/
theorem mergesComponents_foldl (raws : List RawFinding)
    (hraws : ∀ raw ∈ raws, raw.ids.Nonempty) :
    MergesComponents raws (raws.foldl mergeRaw []) := by
  have hgroups := List.isComponents_foldl linked_comm raws
  have hjoins := forall₂_foldl_mergeRaw raws hraws
  have hmerged := (mergedFrom_foldl raws hraws).1
  refine ⟨bijOn_observations hgroups hjoins hraws hmerged, ?_, hmerged.nodup, hmerged.apart⟩
  intro f hf
  obtain ⟨group, hgroup, hjoin⟩ := hjoins.exists_of_mem_right hf
  rw [observations_eq hgroups hraws hgroup hjoin]
  exact hjoin.joinOf

/-- The order of the findings does not matter. -/
theorem MergesComponents.perm {raws : List RawFinding} {findings findings' : List Finding}
    (h : MergesComponents raws findings) (hperm : findings'.Perm findings) :
    MergesComponents raws findings' where
  bijOn := by
    have hset : {f | f ∈ findings'} = {f | f ∈ findings} := Set.ext fun f => hperm.mem_iff
    rw [hset]
    exact h.bijOn
  joins := fun f hf => h.joins f (hperm.mem_iff.mp hf)
  nodup := hperm.nodup_iff.mpr h.nodup
  apart := hperm.symm.pairwise h.apart fun hapart => Apart.symm hapart

/-- Merges of the same observations agree up to titles. -/
theorem MergesComponents.mem_untitled {raws raws' : List RawFinding}
    {findings findings' : List Finding} (h : MergesComponents raws findings)
    (h' : MergesComponents raws' findings') (hmem : ∀ raw, raw ∈ raws ↔ raw ∈ raws') {f : Finding}
    (hf : f ∈ findings.map Finding.untitled) : f ∈ findings'.map Finding.untitled := by
  obtain ⟨f, hfinding, rfl⟩ := List.mem_map.mp hf
  have hcomponent : f.observations raws ∈ components raws' := by
    rw [components, ← List.components_congr hmem]
    exact h.bijOn.mapsTo hfinding
  obtain ⟨f', hf', heq⟩ := h'.bijOn.surjOn hcomponent
  have hjoin' := h'.joins f' hf'
  rw [heq] at hjoin'
  exact List.mem_map.mpr ⟨f', hf', hjoin'.untitled_eq (h.joins f hfinding)⟩

/-- The findings are distinct, also without their titles. -/
theorem MergesComponents.nodup_untitled {raws : List RawFinding} {findings : List Finding}
    (h : MergesComponents raws findings) (hraws : ∀ raw ∈ raws, raw.ids.Nonempty) :
    (findings.map Finding.untitled).Nodup := by
  refine List.Nodup.map_on ?_ h.nodup
  intro f hf g hg heq
  by_contra hne
  obtain ⟨raw, hraw, -⟩ := (h.joins f hf).attained
  obtain ⟨x, hx⟩ := hraws raw hraw.1
  simp only [Finding.untitled, Finding.mk.injEq] at heq
  have hids : f.ids = g.ids := heq.1
  have hproduct : f.product = g.product := by
    simp only [Finding.product, Prod.mk.injEq]
    exact ⟨heq.2.1, heq.2.2.1, heq.2.2.2.1⟩
  have hapart : Apart f g := h.apart.forall hf hg hne
  have hxf : x ∈ f.ids := hraw.2.2 hx
  exact Finset.disjoint_left.mp (hapart hproduct) hxf (hids ▸ hxf)

/-! ## Sorting -/

@[simp] theorem sortKey_untitled (f : Finding) : sortKey f.untitled = sortKey f := rfl

/-- The result is sorted by key. -/
theorem sortFindings_sorted {findings sorted : List Finding}
    (h : sortFindings findings = some sorted) :
    ∃ keys : List (Lex (String × Lex (String × String))),
      sorted.map sortKey = keys.map some ∧ keys.Pairwise (· ≤ ·) := by
  rw [sortFindings, Option.bind_eq_bind, Option.bind_eq_some_iff] at h
  obtain ⟨keyed, hkeyed, hsorted⟩ := h
  obtain rfl := Option.some.inj hsorted
  have hkey : ∀ pair ∈ keyed, sortKey pair.2 = some pair.1 := by
    intro pair hpair
    obtain ⟨f, -, heq⟩ := (List.mapM_eq_some_iff_forall₂.mp hkeyed).exists_of_mem_right hpair
    simp only [Option.bind_eq_bind, Option.bind_eq_some_iff, Option.pure_def,
      Option.some.injEq] at heq
    obtain ⟨key, hkey, rfl⟩ := heq
    exact hkey
  refine ⟨(keyed.insertionSort fun a b => a.1 ≤ b.1).map Prod.fst, ?_, ?_⟩
  · rw [List.map_map, List.map_map]
    apply List.map_congr_left
    intro pair hpair
    exact hkey pair ((List.mem_insertionSort _).mp hpair)
  · rw [List.pairwise_map]
    exact List.pairwise_insertionSort (fun a b => a.1 ≤ b.1) keyed

/-- Two sorted lists of the same findings up to titles have the same keys. -/
theorem map_sortKey_eq {findings findings' sorted sorted' : List Finding}
    (h : sortFindings findings = some sorted) (h' : sortFindings findings' = some sorted')
    (hperm : (sorted'.map Finding.untitled).Perm (sorted.map Finding.untitled)) :
    sorted'.map sortKey = sorted.map sortKey := by
  obtain ⟨keys, hkeys, hpairwise⟩ := sortFindings_sorted h
  obtain ⟨keys', hkeys', hpairwise'⟩ := sortFindings_sorted h'
  have hsome : (keys'.map some).Perm (keys.map some) := by
    rw [← hkeys, ← hkeys']
    simpa [List.map_map, Function.comp_def] using hperm.map sortKey
  have hsame : keys' = keys :=
    ((List.map_perm_map_iff (Option.some_injective _)).mp hsome).eq_of_pairwise'
      hpairwise' hpairwise
  rw [hkeys, hkeys', hsame]

/-- `merge_findings` computes one finding for each connected component, whatever the order
    of the observations. -/
theorem mergeFindings_components (raws : List RawFinding)
    (hraws : ∀ raw ∈ raws, raw.ids.Nonempty) :
    ∃ findings, mergeFindings raws = some findings ∧
      Set.BijOn (Finding.observations raws) {f | f ∈ findings} (components raws) ∧
      (∀ f ∈ findings, JoinOf (f.observations raws) f) ∧ findings.Nodup ∧
      findings.Pairwise Apart ∧
      ∀ raws' : List RawFinding, raws'.Perm raws → ∃ findings',
        mergeFindings raws' = some findings' ∧
          (findings'.map Finding.untitled).Perm (findings.map Finding.untitled) ∧
          findings'.map sortKey = findings.map sortKey := by
  -- sorting permutes what the merge has found
  have hsort : ∀ rs : List RawFinding, (∀ raw ∈ rs, raw.ids.Nonempty) →
      ∃ findings, mergeFindings rs = some findings ∧ MergesComponents rs findings := by
    intro rs hrs
    obtain ⟨sorted, hsorted, hperm⟩ := exists_sortFindings fun f hf =>
      ((mergedFrom_foldl rs hrs).1.joins f hf).ids_nonempty
    exact ⟨sorted, hsorted, (mergesComponents_foldl rs hrs).perm hperm⟩
  obtain ⟨findings, hfindings, hmerges⟩ := hsort raws hraws
  refine ⟨findings, hfindings, hmerges.bijOn, hmerges.joins, hmerges.nodup, hmerges.apart, ?_⟩
  intro raws' hperm
  have hraws' : ∀ raw ∈ raws', raw.ids.Nonempty := fun raw hraw =>
    hraws raw (hperm.mem_iff.mp hraw)
  obtain ⟨findings', hfindings', hmerges'⟩ := hsort raws' hraws'
  -- the components are the same, and a component determines all but the title
  have huntitled : (findings'.map Finding.untitled).Perm (findings.map Finding.untitled) := by
    refine (List.perm_ext_iff_of_nodup (hmerges'.nodup_untitled hraws')
      (hmerges.nodup_untitled hraws)).mpr fun f => ⟨?_, ?_⟩
    · exact hmerges'.mem_untitled hmerges fun raw => hperm.mem_iff
    · exact hmerges.mem_untitled hmerges' fun raw => hperm.mem_iff.symm
  exact ⟨findings', hfindings', huntitled, map_sortKey_eq hfindings hfindings' huntitled⟩

/-- The four observations of the image, of which two are of one vulnerability. -/
theorem mergeFindings_components_scannedImage :
    ∃ findings, mergeFindings scannedImage = some findings ∧
      Set.BijOn (Finding.observations scannedImage) {f | f ∈ findings} (components scannedImage) ∧
      (∀ f ∈ findings, JoinOf (f.observations scannedImage) f) ∧ findings.Nodup ∧
      findings.Pairwise Apart ∧
      ∀ raws' : List RawFinding, raws'.Perm scannedImage → ∃ findings',
        mergeFindings raws' = some findings' ∧
          (findings'.map Finding.untitled).Perm (findings.map Finding.untitled) ∧
          findings'.map sortKey = findings.map sortKey :=
  mergeFindings_components scannedImage (by decide)

end Conformance.VulnerabilityGate
