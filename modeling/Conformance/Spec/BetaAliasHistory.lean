import Conformance.Native.BetaAlias
import Conformance.Spec.PromotedReleases

/-!
# The history of the beta alias

Promotions run one after the other, so what a publication or an update of the alias finds in the
registry is what the ones before it left. Exact tags are never pushed a second time, and an update
compares its version with every beta of the series that is there. Together: the alias names a beta
that still is what was pushed under its own tag, it does not move to a lower version, and it stays
where it is once the release is there.

## Key results

- `promotionStep_cases`: what one event does to the registry
- `kept_of_run`: what later events leave unchanged
- `betaAlias_history`: the history of the alias over every run of promotions
-/

namespace Conformance.ReleaseMetadata

open Except

section Alias

variable {V : Type} {library : ReleaseLibrary V}

/-! ## Versions -/

/-- A beta of the series the alias is for, with the version it is compared by. -/
structure IsMvpBeta (library : ReleaseLibrary V) (tag : String) (version : V) : Prop where
  fullmatch : (betaFullmatch tag).isSome
  classified : ∃ metadata, classifyRawVersion library tag = .ok metadata ∧
    metadata.channel = .beta ∧ metadata.baseRelease = MVP_RELEASE ∧
    metadata.comparisonVersion = version

/-- A text without a line feed that matches with one allowed at its end matches as a whole. -/
theorem betaFullmatch_of_betaMatch {raw : String} {parts : ReleaseParts}
    (h : betaMatch raw = some parts) (hend : '\n' ∉ raw.toList) :
    betaFullmatch raw = some parts := by
  simp only [betaMatch, betaFullmatch, suffixMatch, Option.bind_eq_bind, Option.bind_eq_some_iff,
    Option.ite_none_right_eq_some, Prod.exists] at h ⊢
  obtain ⟨found, rest, hparts, numberOn, hliteral, n, ending, hn, hending, h⟩ := h
  have hempty : ending = [] := by
    rcases atEnd_eq_true.mp hending with hempty | hlf
    · exact hempty
    · refine absurd ?_ hend
      rw [(releaseParts_eq_some hparts).1, literalPart_eq_some.mp hliteral,
        (positivePart_eq_some hn).1, hlf]
      simp
  exact ⟨found, rest, hparts, numberOn, hliteral, n, ending, hn, by rw [hempty]; rfl, h⟩

/-- A line feed may not stand in a branch name. -/
theorem isFeatureChar_lf : isFeatureChar '\n' = false := by decide

/-- Nor in a tag. -/
theorem lf_notMem_of_isTagName {tag : String} (h : isTagName tag = true) : '\n' ∉ tag.toList := by
  rw [isTagName, Bool.and_eq_true, List.all_eq_true] at h
  intro hmem
  have := h.2 '\n' hmem
  rw [isFeatureChar_lf] at this
  cases this

/-- Neither moving tag has the form of a version. -/
theorem ne_movingTag_of_classify {raw : String} {metadata : Metadata V}
    (h : classifyRawVersion library raw = .ok metadata) : raw ≠ MVP_BETA_TAG ∧ raw ≠ "latest" := by
  obtain ⟨-, ⟨parts, hmatch, -⟩, -⟩ := classifyRawVersion_eq_ok h
  have hmoving : classifyMatch MVP_BETA_TAG = none ∧ classifyMatch "latest" = none := by
    decide +kernel
  constructor
  · rintro rfl
    rw [hmoving.1] at hmatch
    cases hmatch
  · rintro rfl
    rw [hmoving.2] at hmatch
    cases hmatch

/-! ## One event -/

/-- The `all` of `should_update_beta_latest`. -/
theorem noneHigher_eq_ok_true {metadata : Metadata V} {tags : List String}
    (h : noneHigher library metadata tags = .ok true) {tag : String} (htag : tag ∈ tags)
    {version : V} (hbeta : IsMvpBeta library tag version) :
    library.ge metadata.comparisonVersion version = true := by
  induction tags with
  | nil => cases htag
  | cons other rest ih =>
    unfold noneHigher at h
    rcases List.mem_cons.mp htag with rfl | hrest
    · obtain ⟨published, hclassify, -, hbase, rfl⟩ := hbeta.classified
      rw [if_pos hbeta.fullmatch, hclassify] at h
      by_contra hge
      rw [Bool.not_eq_true] at hge
      simp only [bind, Except.bind, hbase, hge, and_self, if_true] at h
      cases h
    · split at h
      · obtain ⟨published, -, h⟩ := bind_eq_ok.mp h
        split at h
        · cases h
        · exact ih h hrest
      · exact ih h hrest

/-- The alias is moved to an image that was pushed under its exact tag, when no beta of the series
    is higher and the release is not there. -/
structure MovesTo (library : ReleaseLibrary V) (registry : Registry) (tag : String)
    (version : V) (digest : String) : Prop where
  beta : ∃ metadata, classifyRawVersion library tag = .ok metadata ∧ metadata.channel = .beta ∧
    metadata.baseRelease = MVP_RELEASE ∧ metadata.comparisonVersion = version
  pushed : registry.get? tag = some digest
  unreleased : MVP_RELEASE ∉ registry.keys
  highest : ∀ other ∈ registry.keys, ∀ version', IsMvpBeta library other version' →
    library.ge version version' = true

theorem mapError_eq_ok {ε ε' α : Type} {f : ε → ε'} {x : Except ε α} {a : α} :
    x.mapError f = .ok a ↔ x = .ok a := by
  cases x <;> simp [Except.mapError]

/-- An inspected digest is the one of its tag. -/
theorem inspectDigest_eq_ok {registry : Registry} {fails : Bool} {tag digest : String}
    (h : inspectDigest registry fails tag = .ok digest) : registry.get? tag = some digest := by
  unfold inspectDigest at h
  split at h
  · rename_i hget
    rw [hget, Except.ok.inj h]
  · cases h

/-- The alias is moved when the checks allow it. -/
theorem checkBetaLatest_eq_ok_true
    (hset : ∀ (tags : List String) (tag : String), tag ∈ tags → tag ∈ library.setOrder tags)
    {registry : Registry} {faults : DockerFaults} {tag digest : String}
    (h : checkBetaLatest library registry faults tag digest = .ok true) :
    ∃ version, MovesTo library registry tag version digest := by
  unfold checkBetaLatest at h
  obtain ⟨metadata, hclassify, h⟩ := bind_eq_ok.mp h
  obtain ⟨_, hchannel, h⟩ := bind_eq_ok.mp h
  obtain ⟨_, -, h⟩ := bind_eq_ok.mp h
  obtain ⟨_, -, h⟩ := bind_eq_ok.mp h
  obtain ⟨eligible, heligible, h⟩ := bind_eq_ok.mp h
  split at h
  · rename_i htrue
    obtain ⟨found, hfound, h⟩ := bind_eq_ok.mp h
    obtain ⟨_, hdigest, -⟩ := bind_eq_ok.mp h
    rw [htrue, mapError_eq_ok, shouldUpdateBetaLatest] at heligible
    split at heligible
    · cases heligible
    · rename_i hseries
      push Not at hseries
      obtain ⟨-, hbase, hunreleased⟩ := hseries
      have hpushed := inspectDigest_eq_ok hfound
      -- the digest that is pushed is the one the alias gets
      rw [not_not.mp (raiseIf_eq_ok.mp hdigest)] at hpushed
      exact ⟨metadata.comparisonVersion, ⟨metadata, mapError_eq_ok.mp hclassify,
        not_not.mp (raiseIf_eq_ok.mp hchannel), hbase, rfl⟩, hpushed, hunreleased,
        fun other hother version' hbeta =>
          noneHigher_eq_ok_true heligible (hset _ other hother) hbeta⟩
  · cases h

/-- The alias stays, or moves to the digest. -/
theorem updateBetaLatest_cases (registry : Registry) (faults : DockerFaults)
    (tag digest : String) :
    (updateBetaLatest library registry faults tag digest).2 = registry ∨
      checkBetaLatest library registry faults tag digest = .ok true ∧
        (updateBetaLatest library registry faults tag digest).2 =
          registry.set MVP_BETA_TAG digest := by
  unfold updateBetaLatest
  split
  · exact .inl rfl
  · exact .inl rfl
  · rename_i hmoves
    exact .inr ⟨hmoves, rfl⟩

/-- What one event does to the registry. -/
theorem promotionStep_cases {registry registry' : Registry} {event : PromotionEvent}
    (h : promotionStep library registry event = some registry') :
    (∃ args digest raw tags, event = .publish args digest ∧ raw ∉ registry.keys ∧
      raw ≠ MVP_BETA_TAG ∧ raw ≠ "latest" ∧ (tags = [raw] ∨ tags = [raw, "latest"]) ∧
      (∀ tag ∈ tags, isTagName tag = true) ∧
      registry' = tags.foldl (fun registry tag => registry.set tag digest) registry) ∨
    (∃ faults tag digest, event = .updateBetaLatest faults tag digest ∧
      (registry' = registry ∨ checkBetaLatest library registry faults tag digest = .ok true ∧
        registry' = registry.set MVP_BETA_TAG digest)) := by
  cases event with
  | publish args digest =>
    simp only [promotionStep] at h
    split at h
    · rename_i output houtput
      split at h
      · rename_i hguard
        obtain ⟨hpublished, htags⟩ := hguard
        obtain ⟨metadata, hclassify, -, -, -, hnew, hexpected⟩ := validatePromotion_eq_ok houtput
        obtain ⟨raw, hraw⟩ := classifyManifest_eq_ok hclassify
        have hname : metadata.rawVersion = raw := (classifyRawVersion_eq_ok hraw.2).1
        obtain ⟨halias, hlatest⟩ := ne_movingTag_of_classify hraw.2
        refine .inl ⟨args, digest, raw, output.expectedTags, rfl, ?_, halias, hlatest, ?_,
          List.all_eq_true.mp htags, (Option.some.inj h).symm⟩
        -- what the registry has is among the tags that were listed
        · intro hmem
          exact hnew (hname ▸ hpublished.2 raw hmem)
        · rw [hexpected, publicationTags, hname]
          split
          · exact .inr rfl
          · exact .inl rfl
      · cases h
    · cases h
  | updateBetaLatest faults tag digest =>
    obtain rfl := Option.some.inj h
    exact .inr ⟨faults, tag, digest, rfl, updateBetaLatest_cases registry faults tag digest⟩

/-- Other tags are not pushed. -/
theorem get?_pushed {registry : Registry} {tags : List String} {digest tag : String}
    (h : tag ∉ tags) :
    (tags.foldl (fun registry tag => registry.set tag digest) registry).get? tag =
      registry.get? tag := by
  have hkeys : tag ∉ tags.map id := by rwa [List.map_id]
  exact Dict.get?_foldl_set_of_notMem (fun _ => digest) hkeys registry

/-- The alias is moved, or stays where it is. -/
theorem alias_of_step {registry registry' : Registry} {event : PromotionEvent}
    (h : promotionStep library registry event = some registry') :
    registry'.get? MVP_BETA_TAG = registry.get? MVP_BETA_TAG ∨
      ∃ faults tag digest, event = .updateBetaLatest faults tag digest ∧
        checkBetaLatest library registry faults tag digest = .ok true ∧
        registry'.get? MVP_BETA_TAG = some digest := by
  have hlatest : "latest" ≠ MVP_BETA_TAG := by decide
  rcases promotionStep_cases h with ⟨_, digest, raw, tags, -, -, halias, -, htags, -, rfl⟩ |
    ⟨faults, tag, digest, rfl, rfl | ⟨hcheck, rfl⟩⟩
  · refine .inl (get?_pushed fun hmem => ?_)
    rcases htags with rfl | rfl
    · exact halias (List.mem_singleton.mp hmem).symm
    · rcases List.mem_pair.mp hmem with heq | heq
      · exact halias heq.symm
      · exact hlatest heq.symm
  · exact .inl rfl
  · exact .inr ⟨faults, tag, digest, rfl, hcheck, by rw [Dict.get?_set, if_pos rfl]⟩

/-- A tag that is no moving tag, once pushed, is not changed. -/
theorem kept_of_step {registry registry' : Registry} {event : PromotionEvent}
    (h : promotionStep library registry event = some registry') {tag digest : String}
    (hget : registry.get? tag = some digest) (halias : tag ≠ MVP_BETA_TAG)
    (hlatest : tag ≠ "latest") : registry'.get? tag = some digest := by
  rcases promotionStep_cases h with ⟨_, _, raw, tags, -, hnew, -, -, htags, -, rfl⟩ |
    ⟨_, _, _, -, rfl | ⟨-, rfl⟩⟩
  · have hraw : tag ≠ raw := fun heq => hnew (heq ▸ Dict.mem_keys_iff.mpr ⟨digest, hget⟩)
    rw [get?_pushed, hget]
    intro hmem
    rcases htags with rfl | rfl
    · exact hraw (List.mem_singleton.mp hmem)
    · rcases List.mem_pair.mp hmem with heq | heq
      · exact hraw heq
      · exact hlatest heq
  · exact hget
  · rw [Dict.get?_set, if_neg halias, hget]

/-- Every tag is one the registry takes. -/
theorem isTagName_of_step {registry registry' : Registry} {event : PromotionEvent}
    (h : promotionStep library registry event = some registry')
    (hnames : ∀ tag ∈ registry.keys, isTagName tag = true) :
    ∀ tag ∈ registry'.keys, isTagName tag = true := by
  have hset (registry : Registry) (hnames : ∀ tag ∈ registry.keys, isTagName tag = true)
      {new : String} (hnew : isTagName new = true) (digest : String) :
      ∀ tag ∈ (registry.set new digest).keys, isTagName tag = true := by
    intro tag htag
    rcases Dict.mem_keys_set.mp htag with htag | rfl
    · exact hnames tag htag
    · exact hnew
  rcases promotionStep_cases h with ⟨_, digest, raw, tags, -, -, -, -, -, htags, rfl⟩ |
    ⟨_, _, _, -, rfl | ⟨-, rfl⟩⟩
  · clear h
    induction tags generalizing registry with
    | nil => exact hnames
    | cons new rest ih =>
      obtain ⟨hnew, hrest⟩ := List.forall_mem_cons.mp htags
      exact ih (hset registry hnames hnew digest) hrest
  · exact hnames
  · exact hset registry hnames (by decide) _

/-! ## Runs -/

/-- The registry after promotions, from an empty one. -/
def promotions (library : ReleaseLibrary V) (events : List PromotionEvent) : Option Registry :=
  Machine.run (promotionStep library) Dict.empty events

/-- Exact tags keep their digests. -/
theorem kept_of_run {registry registry' : Registry} {events : List PromotionEvent}
    (h : Machine.run (promotionStep library) registry events = some registry')
    {tag digest : String} (hget : registry.get? tag = some digest) (halias : tag ≠ MVP_BETA_TAG)
    (hlatest : tag ≠ "latest") : registry'.get? tag = some digest :=
  Machine.run_induction (P := fun _ registry => registry.get? tag = some digest) hget
    (fun _ _ _ _ _ hkept hstep => kept_of_step hstep hkept halias hlatest) h

/-- Once the release is there the alias stays where it is. -/
theorem frozen_of_run
    (hset : ∀ (tags : List String) (tag : String), tag ∈ tags → tag ∈ library.setOrder tags)
    {registry registry' : Registry} {events : List PromotionEvent}
    (h : Machine.run (promotionStep library) registry events = some registry')
    (hreleased : MVP_RELEASE ∈ registry.keys) :
    registry'.get? MVP_BETA_TAG = registry.get? MVP_BETA_TAG := by
  obtain ⟨digest, hget⟩ := Dict.mem_keys_iff.mp hreleased
  refine Machine.run_induction (P := fun _ later => later.get? MVP_BETA_TAG =
    registry.get? MVP_BETA_TAG) rfl (fun earlier before event after hrun hsame hstep => ?_) h
  have hthere : MVP_RELEASE ∈ before.keys := Dict.mem_keys_iff.mpr ⟨digest,
    kept_of_run hrun hget (by decide) (by decide)⟩
  rcases alias_of_step hstep with halias | ⟨_, _, _, rfl, hcheck, -⟩
  · exact halias.trans hsame
  · obtain ⟨_, hmoves⟩ := checkBetaLatest_eq_ok_true hset hcheck
    exact absurd hthere hmoves.unreleased

/-- The tags of a registry are tag names. -/
theorem isTagName_of_run {registry : Registry} {events : List PromotionEvent}
    (h : promotions library events = some registry) :
    ∀ tag ∈ registry.keys, isTagName tag = true :=
  Machine.run_induction (P := fun _ registry => ∀ tag ∈ registry.keys, isTagName tag = true)
    (by simp [Dict.keys, Dict.empty]) (fun _ _ _ _ _ hnames hstep => isTagName_of_step hstep hnames)
    h

/-- A move is to a beta of the series. -/
theorem MovesTo.isMvpBeta {registry : Registry} {tag digest : String} {version : V}
    (h : MovesTo library registry tag version digest)
    (hnames : ∀ tag ∈ registry.keys, isTagName tag = true) : IsMvpBeta library tag version := by
  obtain ⟨metadata, hclassify, hchannel, -⟩ := h.beta
  obtain ⟨-, ⟨parts, hmatch, -⟩, -⟩ := classifyRawVersion_eq_ok hclassify
  have hbeta := classifyMatch_eq_some hmatch
  rw [hchannel] at hbeta
  have hname := hnames tag (Dict.mem_keys_iff.mpr ⟨digest, h.pushed⟩)
  refine ⟨?_, h.beta⟩
  rw [betaFullmatch_of_betaMatch hbeta (lf_notMem_of_isTagName hname)]
  rfl

/-- What holds of the alias over a run of promotions. -/
structure BetaAliasHistory (library : ReleaseLibrary V) (events : List PromotionEvent)
    (registry : Registry) : Prop where
  /-- The alias names a beta of the series that is still what was pushed under its exact tag. -/
  designates : ∀ digest, registry.get? MVP_BETA_TAG = some digest →
    ∃ tag version, IsMvpBeta library tag version ∧ registry.get? tag = some digest
  /-- Every move is to a beta that no other there is higher than, and a later one is to no lower
      one. -/
  notBackwards : ∀ before later after faults faults' tag tag' digest digest' earlier registry',
    events = before ++ .updateBetaLatest faults tag digest ::
      (later ++ .updateBetaLatest faults' tag' digest' :: after) →
    promotions library before = some earlier →
    checkBetaLatest library earlier faults tag digest = .ok true →
    promotions library (before ++ .updateBetaLatest faults tag digest :: later) = some registry' →
    checkBetaLatest library registry' faults' tag' digest' = .ok true →
    ∃ version version', IsMvpBeta library tag version ∧ IsMvpBeta library tag' version' ∧
      library.ge version' version = true
  /-- Once the release is there, nothing moves the alias. -/
  frozen : ∀ before after earlier, events = before ++ after →
    promotions library before = some earlier → MVP_RELEASE ∈ earlier.keys →
    registry.get? MVP_BETA_TAG = earlier.get? MVP_BETA_TAG

/-- A longer run continues a shorter one. -/
theorem run_of_append {registry registry' : Registry} {before after : List PromotionEvent}
    (h : promotions library before = some registry)
    (h' : promotions library (before ++ after) = some registry') :
    Machine.run (promotionStep library) registry after = some registry' := by
  rw [promotions, Machine.run, List.foldlM_append] at h'
  obtain ⟨found, hfound, hafter⟩ := Option.bind_eq_some_iff.mp h'
  rw [promotions, Machine.run, hfound] at h
  cases h
  exact hafter

/-- The alias names a published MVP beta. -/
theorem designates_of_run
    (hset : ∀ (tags : List String) (tag : String), tag ∈ tags → tag ∈ library.setOrder tags)
    {events : List PromotionEvent} {registry : Registry}
    (h : promotions library events = some registry) {digest : String}
    (hget : registry.get? MVP_BETA_TAG = some digest) :
    ∃ tag version, IsMvpBeta library tag version ∧ registry.get? tag = some digest := by
  refine Machine.run_induction (P := fun _ registry => ∀ digest,
    registry.get? MVP_BETA_TAG = some digest →
      ∃ tag version, IsMvpBeta library tag version ∧ registry.get? tag = some digest)
    (fun digest hget => ?_) (fun earlier before event after hrun hinv hstep digest hget => ?_) h
    digest hget
  · cases hget
  · have hkept {tag digest : String} {version : V} (hbeta : IsMvpBeta library tag version)
        (hget : before.get? tag = some digest) : after.get? tag = some digest := by
      obtain ⟨metadata, hclassify, -⟩ := hbeta.classified
      obtain ⟨halias, hlatest⟩ := ne_movingTag_of_classify hclassify
      exact kept_of_step hstep hget halias hlatest
    rcases alias_of_step hstep with halias | ⟨_, tag, moved, rfl, hcheck, hmoved⟩
    · obtain ⟨tag, version, hbeta, hpushed⟩ := hinv digest (halias ▸ hget)
      exact ⟨tag, version, hbeta, hkept hbeta hpushed⟩
    · obtain ⟨version, hmoves⟩ := checkBetaLatest_eq_ok_true hset hcheck
      have hbeta := hmoves.isMvpBeta (isTagName_of_run hrun)
      rw [hmoved] at hget
      obtain rfl := Option.some.inj hget
      exact ⟨tag, version, hbeta, hkept hbeta hmoves.pushed⟩

/-- Over every run of promotions the alias names an image that was pushed for a beta of the
    series, never goes back to a lower version, and is frozen by the release. -/
theorem betaAlias_history (library : ReleaseLibrary V)
    (hset : ∀ (tags : List String) (tag : String), tag ∈ tags → tag ∈ library.setOrder tags)
    (events : List PromotionEvent) (registry : Registry)
    (h : promotions library events = some registry) :
    BetaAliasHistory library events registry := by
  refine ⟨fun digest hget => designates_of_run hset h hget, ?_, ?_⟩
  · intro before later after faults faults' tag tag' digest digest' earlier registry' _ hearlier
      hcheck hlater hcheck'
    obtain ⟨version, hmoves⟩ := checkBetaLatest_eq_ok_true hset hcheck
    obtain ⟨version', hmoves'⟩ := checkBetaLatest_eq_ok_true hset hcheck'
    have hbeta := hmoves.isMvpBeta (isTagName_of_run hearlier)
    have hbeta' := hmoves'.isMvpBeta (isTagName_of_run hlater)
    obtain ⟨metadata, hclassify, -⟩ := hbeta.classified
    obtain ⟨halias, hlatest⟩ := ne_movingTag_of_classify hclassify
    -- the tag that the alias was moved to is still there for the later update to compare with
    have hthere := kept_of_run (run_of_append hearlier hlater) hmoves.pushed halias hlatest
    exact ⟨version, version', hbeta, hbeta', hmoves'.highest tag
      (Dict.mem_keys_iff.mpr ⟨digest, hthere⟩) version hbeta⟩
  -- no move after the release passes the check
  · rintro before after earlier rfl hearlier hreleased
    exact frozen_of_run hset (run_of_append hearlier h) hreleased

end Alias

/-- A beta promotion of the version, which has both its platforms. -/
def exampleBeta (raw published : String) : PromotionArgs :=
  { examplePromotion raw with
    branch := "release/2.0.0"
    channel := "beta"
    tag := none
    publishedVersionsFile := some published }

/-- The digest of the manifest of the examples. -/
def exampleDigest : String := "sha256:" ++ String.ofList (List.replicate 64 'a')

/-- Two betas are pushed, the higher one first, and each then asks for the alias. -/
def examplePromotions : List PromotionEvent := [
  .publish (exampleBeta "2.0.0-beta.2" "") exampleDigest,
  .updateBetaLatest ⟨false, false, false⟩ "2.0.0-beta.2" exampleDigest,
  .publish (exampleBeta "2.0.0-beta.1" (MVP_BETA_TAG ++ "\n2.0.0-beta.2")) "sha256:b",
  .updateBetaLatest ⟨false, false, false⟩ "2.0.0-beta.1" "sha256:b"]

/-- Two betas, of which the alias names the later one. -/
theorem betaAlias_history_two : ∃ registry,
    promotions exampleLibrary examplePromotions = some registry ∧
      registry.get? MVP_BETA_TAG = some exampleDigest ∧
      BetaAliasHistory exampleLibrary examplePromotions registry := by
  have halias : (promotions exampleLibrary examplePromotions).bind
      (fun registry => registry.get? MVP_BETA_TAG) = some exampleDigest := by decide +kernel
  obtain ⟨registry, hrun, hget⟩ := Option.bind_eq_some_iff.mp halias
  exact ⟨registry, hrun, hget,
    betaAlias_history exampleLibrary (fun _ _ h => h) examplePromotions registry hrun⟩

end Conformance.ReleaseMetadata
