import Conformance.Native.ReleaseMetadata

/-!
# Promoted releases

What holds of a promotion that `main` of `scripts/validate_promotion.py` lets through. Each pattern
is inverted to the text it matched and the end it was matched at; the number parts hold ASCII
digits because `Version` read the same text. What is left of the intended grammar is the line feed
that `$` lets follow.

## Key results

- `gaMatch_eq_some`, `suffixMatch_eq_some`, `previewBranchMatch_eq_true`: what a pattern matched
- `classifyRawVersion_eq_ok`: the shape of a version that was classified
- `promoted_iff`: when the release that is promoted is the one that was asked for
-/

namespace Conformance.ReleaseMetadata

open Except

/-! ## The grammar -/

/-- An ASCII digit. -/
def IsAsciiDigit (c : Char) : Prop := '0' ≤ c ∧ c ≤ '9'

instance (c : Char) : Decidable (IsAsciiDigit c) := inferInstanceAs (Decidable ('0' ≤ c ∧ c ≤ '9'))

/-- A number from 1 on without leading zeros, in ASCII digits. -/
def IsPositive (cs : List Char) : Prop :=
  ∃ c rest, cs = c :: rest ∧ '1' ≤ c ∧ c ≤ '9' ∧ ∀ d ∈ rest, IsAsciiDigit d

/-- A number without leading zeros, in ASCII digits. -/
def IsNumber (cs : List Char) : Prop := cs = ['0'] ∨ IsPositive cs

/-- `X.Y.Z`. -/
def IsBase (base : String) : Prop :=
  ∃ major minor patch, IsNumber major ∧ IsNumber minor ∧ IsNumber patch ∧
    base.toList = major ++ '.' :: (minor ++ '.' :: patch)

/-- `X.Y.Z`, `X.Y.Z-beta.N` or `X.Y.Z-dev.N`, by the channel. -/
def IsRawVersion (channel : ReleaseChannel) (base raw : String) : Prop :=
  IsBase base ∧
    match channel with
    | .ga => raw = base
    | .beta => ∃ n, IsPositive n ∧ raw = base ++ "-beta." ++ String.ofList n
    | .preview => ∃ n, IsPositive n ∧ raw = base ++ "-dev." ++ String.ofList n

/-- The branch and the tag a release is promoted from. -/
def BelongsTo (channel : ReleaseChannel) (base raw branch : String) (tag : Option String) : Prop :=
  match channel with
  | .ga => branch = "main" ∧ tag = some ("v" ++ raw)
  | .beta => branch = "release/" ++ base
  | .preview => ∃ name, name ≠ [] ∧ (∀ c ∈ name, isFeatureChar c) ∧
      branch = "preview/" ++ String.ofList name

/-- The text ends in a line feed. -/
def EndsInLineFeed (text : String) : Prop := text.toList.getLast? = some '\n'

instance (text : String) : Decidable (EndsInLineFeed text) :=
  inferInstanceAs (Decidable (text.toList.getLast? = some '\n'))

section Release

variable {V : Type} (library : ReleaseLibrary V)

/-- The release that is promoted is well formed, belongs to the requested channel and branch, was
    not published before, and is tagged with its own version, or `latest` when it is a GA one. -/
def Promoted (args : PromotionArgs) : Prop :=
  ∃ raw channel base output, args.manifest.lookup "raw_version" = some (.str raw) ∧
    IsRawVersion channel base raw ∧ channel.value = args.channel ∧
    BelongsTo channel base raw args.branch args.tag ∧ raw ∉ args.publishedVersions ∧
    validatePromotion library args = .ok output ∧
    ∀ tag ∈ output.expectedTags, tag = raw ∨ (channel = .ga ∧ tag = "latest")

end Release

/-! ## What a pattern matched -/

/-- A positive number begins with a digit other than zero. -/
theorem positivePart_eq_some {cs digits rest : List Char}
    (h : positivePart cs = some (digits, rest)) :
    cs = digits ++ rest ∧
      ∃ c more, digits = c :: more ∧ '1' ≤ c ∧ c ≤ '9' ∧ ∀ d ∈ more, isDecimalChar d := by
  cases cs with
  | nil => cases h
  | cons c tail =>
    rw [positivePart, Option.ite_none_right_eq_some] at h
    obtain ⟨⟨hlow, hhigh⟩, h⟩ := h
    cases h
    refine ⟨by simp [List.takeWhile_append_dropWhile], c, _, rfl, hlow, hhigh, fun d hd => ?_⟩
    exact List.mem_takeWhile_imp hd

/-- A number is zero or positive. -/
theorem numericPart_eq_some {cs digits rest : List Char}
    (h : numericPart cs = some (digits, rest)) :
    cs = digits ++ rest ∧ (digits = ['0'] ∨ positivePart cs = some (digits, rest)) := by
  by_cases hzero : ∃ tail, cs = '0' :: tail
  · obtain ⟨tail, rfl⟩ := hzero
    rw [numericPart] at h
    cases h
    exact ⟨rfl, .inl rfl⟩
  · have h : positivePart cs = some (digits, rest) := by
      rw [numericPart] at h
      · exact h
      · exact fun tail htail => hzero ⟨tail, htail⟩
    exact ⟨(positivePart_eq_some h).1, .inr h⟩

/-- A literal is matched exactly when the text begins with it. -/
theorem literalPart_eq_some {text cs rest : List Char} :
    literalPart text cs = some rest ↔ cs = text ++ rest := by
  rw [literalPart, Option.ite_none_right_eq_some, List.isPrefixOf_iff_prefix]
  constructor
  · rintro ⟨⟨tail, rfl⟩, h⟩
    rw [List.drop_left] at h
    rw [Option.some.inj h]
  · rintro rfl
    exact ⟨List.prefix_append text rest, by rw [List.drop_left]⟩

theorem atEnd_eq_true {cs : List Char} : atEnd cs = true ↔ cs = [] ∨ cs = ['\n'] := by
  simp [atEnd]

/-- `\d+` in the numbers of `Version`, which are ASCII digits. -/
def AsciiIn (cs : List Char) : Prop := ∀ c ∈ cs, isDecimalChar c → IsAsciiDigit c

theorem AsciiIn.of_append_left {cs ds : List Char} (h : AsciiIn (cs ++ ds)) : AsciiIn cs :=
  fun c hc => h c (List.mem_append_left ds hc)

theorem AsciiIn.of_append_right {cs ds : List Char} (h : AsciiIn (cs ++ ds)) : AsciiIn ds :=
  fun c hc => h c (List.mem_append_right cs hc)

/-- What is matched as a positive number is one, if its digits are ASCII. -/
theorem isPositive_of_positivePart {cs digits rest : List Char}
    (h : positivePart cs = some (digits, rest)) (hascii : AsciiIn cs) : IsPositive digits := by
  obtain ⟨rfl, c, more, rfl, hlow, hhigh, hmore⟩ := positivePart_eq_some h
  refine ⟨c, more, rfl, hlow, hhigh, fun d hd => ?_⟩
  exact hascii.of_append_left d (List.mem_cons_of_mem c hd) (hmore d hd)

/-- What is matched as a number is one, if its digits are ASCII. -/
theorem isNumber_of_numericPart {cs digits rest : List Char}
    (h : numericPart cs = some (digits, rest)) (hascii : AsciiIn cs) : IsNumber digits := by
  obtain ⟨-, hzero | hpositive⟩ := numericPart_eq_some h
  · exact .inl hzero
  · exact .inr (isPositive_of_positivePart hpositive hascii)

/-- What is matched as a release begins with its base. -/
theorem releaseParts_eq_some {cs rest : List Char} {parts : ReleaseParts}
    (h : releaseParts cs = some (parts, rest)) :
    cs = parts.base.toList ++ rest ∧ (AsciiIn cs → IsBase parts.base) := by
  simp only [releaseParts, Option.bind_eq_bind, Option.bind_eq_some_iff, Option.pure_def,
    literalPart_eq_some, Option.some.injEq, Prod.exists] at h
  obtain ⟨major, afterMajor, hmajor, minorOn, rfl, minor, afterMinor, hminor, patchOn, rfl,
    patch, afterPatch, hpatch, h⟩ := h
  cases h
  have hbase : (ReleaseParts.base ⟨major, minor, patch⟩).toList =
      major ++ '.' :: (minor ++ '.' :: patch) := by
    simp [ReleaseParts.base]
  obtain ⟨hcs, -⟩ := numericPart_eq_some hmajor
  obtain ⟨hminorOn, -⟩ := numericPart_eq_some hminor
  obtain ⟨hpatchOn, -⟩ := numericPart_eq_some hpatch
  constructor
  · rw [hbase, hcs, hminorOn, hpatchOn]
    simp
  · intro hascii
    have hafterMajor : AsciiIn minorOn := by
      rw [hcs] at hascii
      exact hascii.of_append_right.of_append_right
    have hafterMinor : AsciiIn patchOn := by
      rw [hminorOn] at hafterMajor
      exact hafterMajor.of_append_right.of_append_right
    exact ⟨major, minor, patch, isNumber_of_numericPart hmajor hascii,
      isNumber_of_numericPart hminor hafterMajor, isNumber_of_numericPart hpatch hafterMinor,
      hbase⟩

/-- What is matched as a general release is its base and the end. -/
theorem gaMatch_eq_some {raw : String} {parts : ReleaseParts} (h : gaMatch raw = some parts) :
    ∃ ending, raw.toList = parts.base.toList ++ ending ∧ atEnd ending ∧
      (AsciiIn raw.toList → IsBase parts.base) := by
  simp only [gaMatch, Option.bind_eq_bind, Option.bind_eq_some_iff,
    Option.ite_none_right_eq_some, Prod.exists] at h
  obtain ⟨found, ending, hparts, hending, h⟩ := h
  cases h
  obtain ⟨hraw, hbase⟩ := releaseParts_eq_some hparts
  exact ⟨ending, hraw, hending, hbase⟩

/-- What is matched with a suffix is the base, the suffix, a number and the end. -/
theorem suffixMatch_eq_some {finished : List Char → Bool} {suffix : List Char} {raw : String}
    {parts : ReleaseParts} (h : suffixMatch finished suffix raw = some parts) :
    ∃ n ending, raw.toList = parts.base.toList ++ (suffix ++ (n ++ ending)) ∧ finished ending ∧
      (AsciiIn raw.toList → IsBase parts.base ∧ IsPositive n) := by
  simp only [suffixMatch, Option.bind_eq_bind, Option.bind_eq_some_iff,
    Option.ite_none_right_eq_some, literalPart_eq_some, Prod.exists] at h
  obtain ⟨found, rest, hparts, numberOn, rfl, n, ending, hn, hending, h⟩ := h
  cases h
  obtain ⟨hraw, hbase⟩ := releaseParts_eq_some hparts
  obtain ⟨rfl, -⟩ := positivePart_eq_some hn
  refine ⟨n, ending, hraw, hending, fun hascii => ⟨hbase hascii, ?_⟩⟩
  rw [hraw] at hascii
  exact isPositive_of_positivePart hn hascii.of_append_right.of_append_right

/-- What is matched as a preview branch. -/
theorem previewBranchMatch_eq_true {branch : String} (h : previewBranchMatch branch = true) :
    ∃ name ending, name ≠ [] ∧ (∀ c ∈ name, isFeatureChar c) ∧ atEnd ending ∧
      branch.toList = "preview/".toList ++ (name ++ ending) := by
  unfold previewBranchMatch at h
  cases hname : literalPart "preview/".toList branch.toList with
  | none => rw [hname] at h; cases h
  | some rest =>
    rw [hname] at h
    simp only [Bool.and_eq_true, Bool.not_eq_true', List.isEmpty_eq_false_iff] at h
    refine ⟨rest.takeWhile isFeatureChar, rest.dropWhile isFeatureChar, h.1,
      fun c hc => List.mem_takeWhile_imp hc, h.2, ?_⟩
    rw [List.takeWhile_append_dropWhile]
    exact literalPart_eq_some.mp hname

/-! ## The end of a text -/

theorem IsPositive.isNumber {cs : List Char} (h : IsPositive cs) : IsNumber cs := .inr h

/-- A number ends with a digit. -/
theorem IsNumber.getLast? {cs : List Char} (h : IsNumber cs) :
    ∃ c, cs.getLast? = some c ∧ IsAsciiDigit c := by
  rcases h with rfl | ⟨c, rest, rfl, hlow, hhigh, hrest⟩
  · exact ⟨'0', rfl, by decide⟩
  · rcases List.eq_nil_or_concat rest with rfl | ⟨start, last, rfl⟩
    · exact ⟨c, rfl, le_trans (by decide) hlow, hhigh⟩
    · have hlast : IsAsciiDigit last := hrest last (by simp)
      exact ⟨last, by simp [List.getLast?_cons], hlast⟩

/-- A text that ends with a number ends with no line feed. -/
theorem not_endsInLineFeed_of_number {text : String} (start : List Char) {number : List Char}
    (htext : text.toList = start ++ number) (hnumber : IsNumber number) :
    ¬EndsInLineFeed text := by
  obtain ⟨c, hc, hdigit⟩ := hnumber.getLast?
  have hne : number ≠ [] := by
    rintro rfl
    cases hc
  intro h
  rw [EndsInLineFeed, htext, List.getLast?_append_of_ne_nil _ hne, hc, Option.some.injEq] at h
  subst h
  exact absurd hdigit (by decide)

/-- Nor does one that ends with a base. -/
theorem IsBase.not_endsInLineFeed {base text : String} {start : List Char} (h : IsBase base)
    (htext : text.toList = start ++ base.toList) : ¬EndsInLineFeed text := by
  obtain ⟨major, minor, patch, -, -, hpatch, hbase⟩ := h
  refine not_endsInLineFeed_of_number (start ++ (major ++ '.' :: (minor ++ ['.'])))
    (htext.trans ?_) hpatch
  rw [hbase]
  simp

/-- Nor does a raw version. -/
theorem IsRawVersion.not_endsInLineFeed {channel : ReleaseChannel} {base raw : String}
    (h : IsRawVersion channel base raw) : ¬EndsInLineFeed raw := by
  obtain ⟨hbase, h⟩ := h
  cases channel with
  | ga =>
    subst h
    exact hbase.not_endsInLineFeed (List.nil_append _).symm
  | beta =>
    obtain ⟨n, hn, rfl⟩ := h
    exact not_endsInLineFeed_of_number _ (by rw [String.toList_append, String.toList_ofList])
      hn.isNumber
  | preview =>
    obtain ⟨n, hn, rfl⟩ := h
    exact not_endsInLineFeed_of_number _ (by rw [String.toList_append, String.toList_ofList])
      hn.isNumber

/-- Nor does the branch that a version belongs to. -/
theorem BelongsTo.not_endsInLineFeed {channel : ReleaseChannel} {base raw branch : String}
    {tag : Option String} (h : BelongsTo channel base raw branch tag) (hbase : IsBase base) :
    ¬EndsInLineFeed branch := by
  cases channel with
  | ga =>
    obtain ⟨rfl, -⟩ := h
    decide
  | beta =>
    subst h
    exact hbase.not_endsInLineFeed String.toList_append
  | preview =>
    obtain ⟨name, hne, hname, rfl⟩ := h
    intro h
    rw [EndsInLineFeed, String.toList_append, String.toList_ofList (l := name),
      List.getLast?_append_of_ne_nil _ hne] at h
    exact absurd (hname '\n' (List.mem_of_getLast? h)) (by decide)

/-- Without a line feed at its end, nothing is left after a match. -/
theorem eq_nil_of_not_endsInLineFeed {text : String} (start : List Char) {ending : List Char}
    (htext : text.toList = start ++ ending) (hending : atEnd ending)
    (h : ¬EndsInLineFeed text) : ending = [] := by
  rcases atEnd_eq_true.mp hending with rfl | rfl
  · rfl
  · exact absurd (by rw [EndsInLineFeed, htext, List.getLast?_concat]) h

/-! ## Classification -/

/-- The match of the pattern of a channel. -/
def channelMatch : ReleaseChannel → String → Option ReleaseParts
  | .ga => gaMatch
  | .preview => previewMatch
  | .beta => betaMatch

/-- A version is matched in the channel that it is classified as. -/
theorem classifyMatch_eq_some {raw : String} {channel : ReleaseChannel} {parts : ReleaseParts}
    (h : classifyMatch raw = some (channel, parts)) : channelMatch channel raw = some parts := by
  rw [classifyMatch, Option.or_eq_some_iff, Option.or_eq_some_iff] at h
  simp only [Option.map_eq_some_iff, Prod.mk.injEq] at h
  obtain ⟨found, hfound, rfl, rfl⟩ | ⟨-, ⟨found, hfound, rfl, rfl⟩ |
    ⟨-, found, hfound, rfl, rfl⟩⟩ := h <;> exact hfound

section Release

variable {V : Type} {library : ReleaseLibrary V}

/-- What a version that is classified went through. -/
theorem classifyRawVersion_eq_ok {raw : String} {metadata : Metadata V}
    (h : classifyRawVersion library raw = .ok metadata) :
    metadata.rawVersion = raw ∧ (∃ parts, classifyMatch raw = some (metadata.channel, parts) ∧
      metadata.baseRelease = parts.base) ∧
      library.version raw = .ok metadata.comparisonVersion := by
  unfold classifyRawVersion at h
  cases hmatch : classifyMatch raw with
  | none => rw [hmatch] at h; cases h
  | some found =>
    obtain ⟨channel, parts⟩ := found
    rw [hmatch] at h
    obtain ⟨version, hversion, h⟩ := bind_eq_ok.mp h
    cases h
    refine ⟨rfl, ⟨parts, rfl, rfl⟩, ?_⟩
    unfold parseComparable at hversion
    cases hread : library.version raw with
    | ok read => rw [hread] at hversion; cases hversion; rfl
    | error error => rw [hread] at hversion; cases error <;> cases hversion

/-- A version that was classified has the shape of its channel, unless a line feed follows. -/
theorem isRawVersion_of_classifyRawVersion {raw : String} {metadata : Metadata V}
    (h : classifyRawVersion library raw = .ok metadata) (hascii : AsciiIn raw.toList)
    (hend : ¬EndsInLineFeed raw) : IsRawVersion metadata.channel metadata.baseRelease raw := by
  obtain ⟨-, ⟨parts, hmatch, hbaseRelease⟩, -⟩ := classifyRawVersion_eq_ok h
  have hshape := classifyMatch_eq_some hmatch
  rw [hbaseRelease]
  cases hchannel : metadata.channel with
  | ga =>
    rw [hchannel] at hshape
    obtain ⟨ending, hraw, hending, hbase⟩ := gaMatch_eq_some hshape
    obtain rfl := eq_nil_of_not_endsInLineFeed _ hraw hending hend
    rw [List.append_nil] at hraw
    exact ⟨hbase hascii, String.toList_inj.mp hraw⟩
  | beta =>
    rw [hchannel] at hshape
    obtain ⟨n, ending, hraw, hending, hbase⟩ := suffixMatch_eq_some hshape
    obtain rfl := eq_nil_of_not_endsInLineFeed (parts.base.toList ++ ("-beta.".toList ++ n))
      (hraw.trans (by simp)) hending hend
    refine ⟨(hbase hascii).1, n, (hbase hascii).2, String.toList_inj.mp (hraw.trans ?_)⟩
    simp [String.toList_append]
  | preview =>
    rw [hchannel] at hshape
    obtain ⟨n, ending, hraw, hending, hbase⟩ := suffixMatch_eq_some hshape
    obtain rfl := eq_nil_of_not_endsInLineFeed (parts.base.toList ++ ("-dev.".toList ++ n))
      (hraw.trans (by simp)) hending hend
    refine ⟨(hbase hascii).1, n, (hbase hascii).2, String.toList_inj.mp (hraw.trans ?_)⟩
    simp [String.toList_append]

/-! ## The checks of a promotion -/

/-- A manifest is classified by its raw version. -/
theorem classifyManifest_eq_ok {args : PromotionArgs} {metadata : Metadata V}
    (h : classifyManifest library args = .ok metadata) :
    ∃ raw, args.manifest.lookup "raw_version" = some (.str raw) ∧
      classifyRawVersion library raw = .ok metadata := by
  obtain ⟨value, hvalue, h⟩ := bind_eq_ok.mp h
  unfold subscript at hvalue
  cases hlookup : args.manifest.lookup "raw_version" with
  | none => rw [hlookup] at hvalue; cases hvalue
  | some found =>
    rw [hlookup] at hvalue
    cases hvalue
    cases value with
    | str raw => exact ⟨raw, rfl, h⟩
    | _ => cases h

/-- The branch and the tag that passed their checks are those of the channel, unless a line feed
    follows the branch. -/
theorem belongsTo_of_checks {args : PromotionArgs} {metadata : Metadata V}
    (hbranch : validateBranchCompatibility library metadata args.branch = .ok ())
    (htag : checkTag library args metadata = .ok ()) (hend : ¬EndsInLineFeed args.branch) :
    BelongsTo metadata.channel metadata.baseRelease metadata.rawVersion args.branch args.tag := by
  unfold validateBranchCompatibility at hbranch
  unfold checkTag at htag
  cases hchannel : metadata.channel with
  | ga =>
    rw [hchannel] at hbranch htag
    refine ⟨not_not.mp (raiseIf_eq_ok.mp hbranch), ?_⟩
    rw [if_pos rfl] at htag
    cases hrequested : args.tag with
    | none => rw [hrequested] at htag; cases htag
    | some tag =>
      rw [hrequested] at htag
      obtain ⟨_, -, htag⟩ := bind_eq_ok.mp htag
      exact congrArg some (not_not.mp (raiseIf_eq_ok.mp htag))
  | beta =>
    rw [hchannel] at hbranch
    show args.branch = "release/" ++ metadata.baseRelease
    exact not_not.mp (raiseIf_eq_ok.mp hbranch)
  | preview =>
    rw [hchannel] at hbranch
    have hmatch := Bool.eq_true_of_not_eq_false (raiseIf_eq_ok.mp hbranch)
    obtain ⟨name, ending, hne, hname, hending, hchars⟩ := previewBranchMatch_eq_true hmatch
    obtain rfl := eq_nil_of_not_endsInLineFeed ("preview/".toList ++ name)
      (hchars.trans (by simp)) hending hend
    refine ⟨name, hne, hname, String.toList_inj.mp (hchars.trans ?_)⟩
    simp [String.toList_append]

/-- What a promotion that goes through has passed. -/
theorem validatePromotion_eq_ok {args : PromotionArgs} {output : PromotionOutput}
    (h : validatePromotion library args = .ok output) :
    ∃ metadata : Metadata V, classifyManifest library args = .ok metadata ∧
      validateBranchCompatibility library metadata args.branch = .ok () ∧
      metadata.channel.value = args.channel ∧ checkTag library args metadata = .ok () ∧
      metadata.rawVersion ∉ args.publishedVersions ∧
      output.expectedTags = publicationTags metadata := by
  unfold validatePromotion at h
  obtain ⟨_, -, h⟩ := bind_eq_ok.mp h
  obtain ⟨_, -, h⟩ := bind_eq_ok.mp h
  obtain ⟨metadata, hclassify, h⟩ := bind_eq_ok.mp h
  obtain ⟨_, hbranch, h⟩ := bind_eq_ok.mp h
  obtain ⟨_, hchannel, h⟩ := bind_eq_ok.mp h
  obtain ⟨_, -, h⟩ := bind_eq_ok.mp h
  obtain ⟨_, -, h⟩ := bind_eq_ok.mp h
  obtain ⟨_, -, h⟩ := bind_eq_ok.mp h
  obtain ⟨_, -, h⟩ := bind_eq_ok.mp h
  obtain ⟨_, -, h⟩ := bind_eq_ok.mp h
  obtain ⟨_, htag, h⟩ := bind_eq_ok.mp h
  obtain ⟨_, hpublished, h⟩ := bind_eq_ok.mp h
  obtain ⟨_, -, h⟩ := bind_eq_ok.mp h
  obtain ⟨_, -, h⟩ := bind_eq_ok.mp h
  obtain ⟨_, -, h⟩ := bind_eq_ok.mp h
  obtain ⟨_, -, h⟩ := bind_eq_ok.mp h
  cases h
  exact ⟨metadata, hclassify, hbranch, not_not.mp (raiseIf_eq_ok.mp hchannel), htag,
    raiseIf_eq_ok.mp hpublished, rfl⟩

/-- The tags of a release are its version, and `latest` for a general one. -/
theorem mem_publicationTags {metadata : Metadata V} {tag : String}
    (h : tag ∈ publicationTags metadata) :
    tag = metadata.rawVersion ∨ (metadata.channel = .ga ∧ tag = "latest") := by
  unfold publicationTags at h
  split at h
  · rename_i hga
    rcases List.mem_cons.mp h with rfl | h
    · exact .inl rfl
    · exact .inr ⟨hga, List.mem_singleton.mp h⟩
  · exact .inl (List.mem_singleton.mp h)

/-- An exit code of zero is a promotion that was validated. -/
theorem main_eq_zero {args : PromotionArgs} (h : main library args = .ok 0) :
    ∃ output, validatePromotion library args = .ok output := by
  unfold main at h
  cases hvalidate : validatePromotion library args with
  | ok output => exact ⟨output, rfl⟩
  | error error =>
    rw [hvalidate] at h
    simp only at h
    split at h <;> cases h

end Release

section Main

variable {V : Type} (library : ReleaseLibrary V)

/-- A promotion that goes through is the one that was asked for when neither the raw version nor
    the branch ends in a line feed. -/
theorem promoted_iff
    (hascii : ∀ text version, library.version text = .ok version → AsciiIn text.toList)
    (args : PromotionArgs) (hmain : main library args = .ok 0) :
    Promoted library args ↔
      (∀ raw, args.manifest.lookup "raw_version" = some (.str raw) → ¬EndsInLineFeed raw) ∧
        ¬EndsInLineFeed args.branch := by
  obtain ⟨output, houtput⟩ := main_eq_zero hmain
  obtain ⟨metadata, hclassify, hbranch, hchannel, htag, hpublished, htags⟩ :=
    validatePromotion_eq_ok houtput
  obtain ⟨raw, hraw, hclassify⟩ := classifyManifest_eq_ok hclassify
  obtain ⟨hrawVersion, -, hversion⟩ := classifyRawVersion_eq_ok hclassify
  constructor
  · rintro ⟨raw', channel, base, _, hraw', hshape, -, hbelongs, -, -, -⟩
    refine ⟨fun raw'' hraw'' => ?_, hbelongs.not_endsInLineFeed hshape.1⟩
    rw [hraw'] at hraw''
    cases hraw''
    exact hshape.not_endsInLineFeed
  · rintro ⟨hrawEnd, hbranchEnd⟩
    -- without a final line feed the patterns match whole texts
    have hshape := isRawVersion_of_classifyRawVersion hclassify (hascii raw _ hversion)
      (hrawEnd raw hraw)
    have hbelongs := belongsTo_of_checks hbranch htag hbranchEnd
    rw [hrawVersion] at hbelongs hpublished
    refine ⟨raw, metadata.channel, metadata.baseRelease, output, hraw, hshape, hchannel, hbelongs,
      hpublished, houtput, fun tag htag => ?_⟩
    rw [htags] at htag
    exact hrawVersion ▸ mem_publicationTags htag

end Main

/-- `Version` on the texts of the examples below, which it reads without the whitespace around
    them. -/
def exampleLibrary : ReleaseLibrary String where
  version text :=
    if text.toList.all (fun c => !isDecimalChar c || decide (IsAsciiDigit c)) ∧
        (classifyMatch (strip text)).isSome then .ok (strip text)
    else .error (.invalidVersion ("Invalid version: " ++ text))
  ge a b := b ≤ a
  repr _ := "'...'"
  sortedText _ := none
  setOrder := id

/-- The sample library reads ASCII digits only. -/
theorem exampleLibrary_ascii (text version : String)
    (h : exampleLibrary.version text = .ok version) : AsciiIn text.toList := by
  simp only [exampleLibrary] at h
  split at h
  · rename_i hall
    intro c hc hdigit
    have := List.all_eq_true.mp hall.1 c hc
    rw [hdigit] at this
    exact of_decide_eq_true this
  · cases h

/-- A GA promotion of the version, which has both its platforms. -/
def examplePromotion (raw : String) : PromotionArgs where
  manifest := [
    ("source_sha", .str "c0ffee"),
    ("raw_version", .str raw),
    ("image_name", .str IMAGE_NAME),
    ("platform_digests", .obj [
      ("linux/amd64", .str ("sha256:" ++ String.ofList (List.replicate 64 'a'))),
      ("linux/arm64", .str ("sha256:" ++ String.ofList (List.replicate 64 'b')))]),
    ("oci_labels", .obj [
      ("org.opencontainers.image.revision", .str "c0ffee"),
      ("org.opencontainers.image.version", .str raw)])]
  sourceSha := "c0ffee"
  branch := "main"
  channel := "ga"
  tag := some ("v" ++ raw)
  publishedVersionsFile := some "2.0.0\n"
  summaryFile := false
  environmentName := none

theorem promoted_iff_ga : Promoted exampleLibrary (examplePromotion "2.0.1") :=
  (promoted_iff exampleLibrary exampleLibrary_ascii _ (by decide +kernel)).mpr
    ⟨fun raw hraw => (by cases hraw; decide), by decide⟩

/-- A version with a line feed at its end is accepted. -/
theorem lineFeed_promoted : main exampleLibrary (examplePromotion "2.0.0\n") = .ok 0 ∧
    ¬Promoted exampleLibrary (examplePromotion "2.0.0\n") := by
  refine ⟨by decide +kernel, ?_⟩
  rintro ⟨raw, channel, base, output, hraw, hshape, -⟩
  cases hraw
  exact hshape.not_endsInLineFeed (by decide)

end Conformance.ReleaseMetadata
