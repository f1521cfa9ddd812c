import Conformance.ForStd.List
import Conformance.Spec.PlaceholderReferences
import Mathlib.Data.List.Chain

/-!
# Placeholders in parts of a text

`resolve_placeholders` reads a text from left to right. Where a text is cut in two
and no placeholder crosses the cut, the parts are resolved on their own. In a
context whose values are all plain, a resolved text has no opening left.

## Key results

- `ResolvesTo.append`: two texts that are apart resolve to the two results
- `ResolvesTo.noOpening`: in a blank context, a resolved text has no opening
- `ResolvesTo.blank`: a text that resolves does so in the blank context too
-/

namespace Conformance

open Except

/-! ## Openings -/

/-- Two neighbours that are not `$` and `\x7b`. -/
def NotOpening (a b : Char) : Prop := a = '$' → b ≠ '{'

/-- No two neighbours of a text are `$` and `\x7b`. -/
def NoOpening (cs : List Char) : Prop := cs.IsChain NotOpening

/-- Two texts that make no opening where they meet. -/
def Apart (u v : List Char) : Prop := ∀ a ∈ u.getLast?, ∀ b ∈ v.head?, NotOpening a b

theorem noOpening_append {u v : List Char} :
    NoOpening (u ++ v) ↔ NoOpening u ∧ NoOpening v ∧ Apart u v :=
  List.isChain_append

/-- A text without a dollar sign has no opening. -/
theorem noOpening_of_forall {cs : List Char} (h : ∀ c ∈ cs, c ≠ '$') : NoOpening cs := by
  induction cs with
  | nil => exact .nil
  | cons c rest ih =>
    refine List.isChain_cons.mpr ⟨fun b _ hc => ?_, ih fun d hd => h d (List.mem_cons_of_mem c hd)⟩
    exact absurd hc (h c List.mem_cons_self)

/-- What is left of a text is apart from what the text is apart from. -/
theorem Apart.of_cons {c : Char} {u v : List Char} (h : Apart (c :: u) v) : Apart u v := by
  cases u with
  | nil =>
    intro a ha
    simp at ha
  | cons d u => simpa [Apart] using h

/-- So is any tail of it. -/
theorem Apart.of_append {p u v : List Char} (h : Apart (p ++ u) v) : Apart u v := by
  induction p with
  | nil => exact h
  | cons c p ih => exact ih h.of_cons

/-- A character is apart from what does not complete an opening with it. -/
theorem apart_singleton {c : Char} {v : List Char} :
    Apart [c] v ↔ ¬(c = '$' ∧ v.head? = some '{') := by
  simp [Apart, NotOpening]
  grind

/-- The head of a text decides whether its first character opens a placeholder, also
    with more text behind it. -/
theorem opens_append_iff {c : Char} {u v : List Char} (h : Apart (c :: u) v) :
    (c = '$' ∧ (u ++ v).head? = some '{') ↔ (c = '$' ∧ u.head? = some '{') := by
  cases u with
  | nil => simpa using apart_singleton.mp h
  | cons d u => simp

/-- No opening is counted exactly when there is none. -/
theorem countOpenings_eq_zero_iff (cs : List Char) : countOpenings cs = 0 ↔ NoOpening cs := by
  induction cs with
  | nil => simp [countOpenings, NoOpening]
  | cons c rest ih =>
    cases rest with
    | nil => simp [countOpenings, NoOpening]
    | cons d rest =>
      rw [countOpenings, Nat.add_eq_zero_iff, ih]
      simp [NoOpening, NotOpening]

/-! ## The checks on a text -/

/-- Every opening of a text is closed in it. -/
def Closed (cs : List Char) : Prop := ∀ p s, cs = p ++ '$' :: '{' :: s → '}' ∈ s

theorem Closed.of_append {u v : List Char} (h : Closed (u ++ v)) : Closed v :=
  fun p s hv => h (u ++ p) s (by rw [hv, List.append_assoc])

theorem closed_of_not_mem {cs : List Char} (h : '$' ∉ cs) : Closed cs :=
  fun p s hcs => absurd (by simp [hcs]) h

/-- Text in front that has no dollar sign opens nothing. -/
theorem Closed.append {u v : List Char} (hv : Closed v) (hu : '$' ∉ u) : Closed (u ++ v) := by
  intro p s hps
  rcases List.append_eq_append_iff.mp hps with ⟨a, rfl, hv'⟩ | ⟨a, rfl, hs⟩
  · exact hv a s hv'
  · cases a with
    | nil => exact hv [] s hs.symm
    | cons c a =>
      obtain rfl := (List.cons.inj hs).1
      exact absurd (by simp) hu

/-- Nothing is unterminated in a text exactly when an opening at its head is closed on its line and
    nothing is in the rest. -/
theorem hasUnterminated_cons {c : Char} {rest : List Char} :
    hasUnterminated (c :: rest) = false ↔
      ((c = '$' ∧ rest.head? = some '{') →
        '\n' ∉ rest.takeWhile (· ≠ '}') ∧ '}' ∈ rest) ∧ hasUnterminated rest = false := by
  simp only [hasUnterminated, Bool.or_eq_false_iff, decide_eq_false_iff_not]
  grind

/-- A text with nothing unterminated is closed. -/
theorem closed_of_hasUnterminated {cs : List Char} (h : hasUnterminated cs = false) :
    Closed cs := by
  intro p s hcs
  induction p generalizing cs with
  | nil =>
    subst hcs
    simpa using ((hasUnterminated_cons.mp h).1 ⟨rfl, rfl⟩).2
  | cons c p ih =>
    subst hcs
    exact ih (hasUnterminated_cons.mp h).2 rfl

/-- Two texts that are apart have nothing unterminated if neither has. -/
theorem hasUnterminated_append {u v : List Char} (hu : hasUnterminated u = false)
    (hv : hasUnterminated v = false) (h : Apart u v) : hasUnterminated (u ++ v) = false := by
  induction u with
  | nil => exact hv
  | cons c u ih =>
    obtain ⟨hc, hu⟩ := hasUnterminated_cons.mp hu
    rw [List.cons_append]
    refine hasUnterminated_cons.mpr ⟨fun hopens => ?_, ih hu h.of_cons⟩
    obtain ⟨hline, hclosed⟩ := hc ((opens_append_iff h).mp hopens)
    refine ⟨?_, List.mem_append_left _ hclosed⟩
    rw [List.takeWhile_append_of_exists ⟨'}', hclosed, by simp⟩]
    exact hline

/-- Without an opening nothing is unterminated. -/
theorem hasUnterminated_of_noOpening {cs : List Char} (h : NoOpening cs) :
    hasUnterminated cs = false := by
  induction cs with
  | nil => rfl
  | cons c rest ih =>
    refine hasUnterminated_cons.mpr ⟨fun hopens => ?_, ih h.tail⟩
    exact absurd hopens.2 fun hhead => h.rel_head? hhead hopens.1 rfl

/-- There is no empty placeholder in a text exactly when none is at its head and none in the rest.
    -/
theorem hasEmptyPlaceholder_cons {c : Char} {rest : List Char} :
    hasEmptyPlaceholder (c :: rest) = false ↔
      ¬(c = '$' ∧ rest.take 2 = ['{', '}']) ∧ hasEmptyPlaceholder rest = false := by
  simp only [hasEmptyPlaceholder, Bool.or_eq_false_iff, decide_eq_false_iff_not]

/-- Two texts that are apart have no empty placeholder if neither has. -/
theorem hasEmptyPlaceholder_append {u v : List Char} (hu : hasEmptyPlaceholder u = false)
    (hclosed : hasUnterminated u = false) (hv : hasEmptyPlaceholder v = false)
    (h : Apart u v) : hasEmptyPlaceholder (u ++ v) = false := by
  induction u with
  | nil => exact hv
  | cons c u ih =>
    obtain ⟨hc, hu⟩ := hasEmptyPlaceholder_cons.mp hu
    obtain ⟨hcclosed, hclosed⟩ := hasUnterminated_cons.mp hclosed
    rw [List.cons_append]
    refine hasEmptyPlaceholder_cons.mpr ⟨?_, ih hu hclosed h.of_cons⟩
    rintro ⟨rfl, htake⟩
    -- an empty placeholder has its three characters in the first text
    rcases u with _ | ⟨d, _ | ⟨e, u⟩⟩
    · refine apart_singleton.mp h ⟨rfl, ?_⟩
      cases v with
      | nil => simp at htake
      | cons d v =>
        rw [List.nil_append, List.take_succ_cons] at htake
        rw [(List.cons.inj htake).1, List.head?_cons]
    · rw [List.cons_append, List.take_succ_cons] at htake
      obtain rfl := (List.cons.inj htake).1
      simpa using (hcclosed ⟨rfl, rfl⟩).2
    · exact hc ⟨rfl, by simpa using htake⟩

/-- Without an opening there is no empty placeholder. -/
theorem hasEmptyPlaceholder_of_noOpening {cs : List Char} (h : NoOpening cs) :
    hasEmptyPlaceholder cs = false := by
  induction cs with
  | nil => rfl
  | cons c rest ih =>
    refine hasEmptyPlaceholder_cons.mpr ⟨fun ⟨hc, htake⟩ => ?_, ih h.tail⟩
    cases rest with
    | nil => simp at htake
    | cons d rest =>
      simp only [List.take_succ_cons, List.cons.injEq] at htake
      exact h.rel_head? (by simp) hc htake.1

/-! ## Substitution -/

section Resolution

variable {pyStr : Json → String} {context : ExecutionContext}

/-- The closing brace resolves the token. -/
theorem substituteTokens_close (token rest : List Char) :
    substituteTokens pyStr context (some token) ('}' :: rest) = (do
      let value ← resolveDotPath pyStr token.reverse context
      let tail ← substituteTokens pyStr context none rest
      return value.toList ++ tail) := rfl

theorem substituteTokens_inside {c : Char} (hc : c ≠ '}') (token rest : List Char) :
    substituteTokens pyStr context (some token) (c :: rest) =
      substituteTokens pyStr context (some (c :: token)) rest := if_neg hc

/-- An opening begins a token. -/
theorem substituteTokens_open (rest : List Char) :
    substituteTokens pyStr context none ('$' :: '{' :: rest) =
      substituteTokens pyStr context (some []) rest := rfl

/-- Any other character is kept. -/
theorem substituteTokens_other {c : Char} {rest : List Char}
    (hc : ¬(c = '$' ∧ rest.head? = some '{')) :
    substituteTokens pyStr context none (c :: rest) =
      (do let tail ← substituteTokens pyStr context none rest; return c :: tail) := by
  rw [substituteTokens.eq_def pyStr context none (c :: rest)]
  exact if_neg hc

/-- The rounds of a substitution that succeeds. -/
inductive Substitutes (pyStr : Json → String) (context : ExecutionContext) :
    Option (List Char) → List Char → List Char → Prop
  | nil (inside : Option (List Char)) :
      Substitutes pyStr context inside [] (inside.elim [] fun token => '$' :: '{' :: token.reverse)
  | close {token rest tail : List Char} {value : String}
      (hvalue : resolveDotPath pyStr token.reverse context = .ok value)
      (htail : Substitutes pyStr context none rest tail) :
      Substitutes pyStr context (some token) ('}' :: rest) (value.toList ++ tail)
  | inside {c : Char} {token rest resolved : List Char} (hc : c ≠ '}')
      (h : Substitutes pyStr context (some (c :: token)) rest resolved) :
      Substitutes pyStr context (some token) (c :: rest) resolved
  | opening {rest resolved : List Char} (h : Substitutes pyStr context (some []) rest resolved) :
      Substitutes pyStr context none ('$' :: '{' :: rest) resolved
  | other {c : Char} {rest tail : List Char} (hc : ¬(c = '$' ∧ rest.head? = some '{'))
      (htail : Substitutes pyStr context none rest tail) :
      Substitutes pyStr context none (c :: rest) (c :: tail)

/-- What the substitution returns is derived by its rules. -/
theorem Substitutes.of_eq_ok {inside : Option (List Char)} {cs resolved : List Char}
    (h : substituteTokens pyStr context inside cs = .ok resolved) :
    Substitutes pyStr context inside cs resolved := by
  induction inside, cs using substituteTokens.induct generalizing resolved with
  | case1 inside =>
    obtain rfl := Except.ok.inj h
    exact .nil inside
  | case2 rest token ih =>
    obtain ⟨value, hvalue, h⟩ := bind_eq_ok.mp h
    obtain ⟨tail, htail, h⟩ := bind_eq_ok.mp h
    obtain rfl := Except.ok.inj h
    exact .close hvalue (ih htail)
  | case3 c rest token hc ih =>
    rw [substituteTokens_inside hc] at h
    exact .inside hc (ih h)
  | case4 c hc => exact absurd hc.2 (by simp)
  | case5 c opening rest hc ih =>
    obtain rfl : opening = '{' := by simpa using hc.2
    obtain rfl := hc.1
    exact .opening (ih h)
  | case6 c rest hc ih =>
    rw [substituteTokens_other hc] at h
    obtain ⟨tail, htail, h⟩ := bind_eq_ok.mp h
    obtain rfl := Except.ok.inj h
    exact .other hc (ih htail)

/-- Two texts that are apart are substituted one by one. -/
theorem substituteTokens_append {inside : Option (List Char)} {u v a b : List Char}
    (hinside : inside.isSome → '}' ∈ u) (hu : hasUnterminated u = false) (h : Apart u v)
    (ha : substituteTokens pyStr context inside u = .ok a)
    (hb : substituteTokens pyStr context none v = .ok b) :
    substituteTokens pyStr context inside (u ++ v) = .ok (a ++ b) := by
  have hsubstitutes := Substitutes.of_eq_ok ha
  clear ha
  induction hsubstitutes with
  | nil inside =>
    cases inside with
    | some token => simp at hinside
    | none => exact hb
  | close hvalue _ ih =>
    have hrest := ih (by simp) (hasUnterminated_cons.mp hu).2 h.of_cons
    rw [List.cons_append, substituteTokens_close, List.append_assoc]
    exact bind_eq_ok.mpr ⟨_, hvalue, bind_eq_ok.mpr ⟨_, hrest, rfl⟩⟩
  | inside hc _ ih =>
    rw [List.cons_append, substituteTokens_inside hc]
    refine ih (fun _ => ?_) (hasUnterminated_cons.mp hu).2 h.of_cons
    simpa [Ne.symm hc] using hinside rfl
  | opening _ ih =>
    obtain ⟨hclosed, hrest⟩ := hasUnterminated_cons.mp hu
    rw [List.cons_append, List.cons_append, substituteTokens_open]
    refine ih (fun _ => ?_) (hasUnterminated_cons.mp hrest).2 h.of_cons.of_cons
    simpa using (hclosed ⟨rfl, rfl⟩).2
  | other hc _ ih =>
    have hrest := ih (by simp) (hasUnterminated_cons.mp hu).2 h.of_cons
    rw [List.cons_append, substituteTokens_other ((opens_append_iff h).not.mpr hc)]
    exact bind_eq_ok.mpr ⟨_, hrest, rfl⟩

/-- A text without an opening is kept. -/
theorem substituteTokens_of_noOpening {cs : List Char} (h : NoOpening cs) :
    substituteTokens pyStr context none cs = .ok cs := by
  induction cs with
  | nil => rfl
  | cons c rest ih =>
    rw [substituteTokens_other fun hc => h.rel_head? hc.2 hc.1 rfl]
    exact bind_eq_ok.mpr ⟨rest, ih h.tail, rfl⟩

/-! ## Resolved texts -/

/-- A text passes the checks and resolves to another. -/
structure ResolvesTo (pyStr : Json → String) (context : ExecutionContext)
    (cs resolved : List Char) : Prop where
  notEmpty : hasEmptyPlaceholder cs = false
  terminated : hasUnterminated cs = false
  substituted : substituteTokens pyStr context none cs = .ok resolved

/-- A text without an opening resolves to itself. -/
theorem ResolvesTo.of_noOpening {cs : List Char} (h : NoOpening cs) :
    ResolvesTo pyStr context cs cs :=
  ⟨hasEmptyPlaceholder_of_noOpening h, hasUnterminated_of_noOpening h,
    substituteTokens_of_noOpening h⟩

/-- Two texts that are apart resolve to the two results. -/
theorem ResolvesTo.append {u v a b : List Char} (hu : ResolvesTo pyStr context u a)
    (hv : ResolvesTo pyStr context v b) (h : Apart u v) :
    ResolvesTo pyStr context (u ++ v) (a ++ b) :=
  ⟨hasEmptyPlaceholder_append hu.notEmpty hu.terminated hv.notEmpty h,
    hasUnterminated_append hu.terminated hv.terminated h,
    substituteTokens_append (by simp) hu.terminated h hu.substituted hv.substituted⟩

/-- Resolving returns exactly what the template resolves to. -/
theorem resolvePlaceholders_eq_ok_iff {template resolved : String} :
    resolvePlaceholders pyStr template context = .ok resolved ↔
      ResolvesTo pyStr context template.toList resolved.toList := by
  unfold resolvePlaceholders
  split
  · rename_i hcount
    have hplain : ResolvesTo pyStr context template.toList template.toList :=
      .of_noOpening ((countOpenings_eq_zero_iff _).mp hcount)
    constructor
    · rintro ⟨⟩
      exact hplain
    · intro h
      have heq := h.substituted.symm.trans hplain.substituted
      rw [Except.ok.injEq, String.toList_inj] at heq
      rw [heq]
  · simp only [validateTemplate, bind_eq_ok, raiseIf_eq_ok, Bool.not_eq_true]
    constructor
    · rintro ⟨_, ⟨_, hempty, hterminated⟩, cs, hcs, hresolved⟩
      obtain rfl := Except.ok.inj hresolved
      exact ⟨hempty, hterminated, by rw [String.toList_ofList]; exact hcs⟩
    · rintro ⟨hempty, hterminated, hsub⟩
      exact ⟨(), ⟨(), hempty, hterminated⟩, _, hsub, by rw [String.ofList_toList]; rfl⟩

/-- A brace at the beginning stays there. -/
theorem ResolvesTo.head? {cs resolved : List Char} (h : ResolvesTo pyStr context ('{' :: cs) resolved) :
    resolved.head? = some '{' := by
  have hsub := h.substituted
  rw [substituteTokens_other (by simp)] at hsub
  obtain ⟨tail, -, htail⟩ := bind_eq_ok.mp hsub
  obtain rfl := Except.ok.inj htail
  rfl

/-- A dollar sign at the end stays at the end. -/
theorem substituteTokens_getLast? {inside : Option (List Char)} {cs resolved : List Char}
    (hinside : inside.isSome → '}' ∈ cs) (hcs : hasUnterminated cs = false)
    (h : substituteTokens pyStr context inside cs = .ok resolved)
    (hlast : cs.getLast? = some '$') : resolved.getLast? = some '$' := by
  have hsubstitutes := Substitutes.of_eq_ok h
  clear h
  induction hsubstitutes with
  | nil inside => simp at hlast
  | @close token rest tail value _ _ ih =>
    have hrest : rest.getLast? = some '$' := by
      cases rest with
      | nil => simp at hlast
      | cons d rest => simpa using hlast
    rw [List.getLast?_append, ih (by simp) (hasUnterminated_cons.mp hcs).2 hrest, Option.some_or]
  | @inside c token rest resolved hc _ ih =>
    have hmem : '}' ∈ rest := by simpa [Ne.symm hc] using hinside rfl
    refine ih (fun _ => hmem) (hasUnterminated_cons.mp hcs).2 ?_
    cases rest with
    | nil => simp at hmem
    | cons d rest => simpa using hlast
  | @opening rest resolved _ ih =>
    obtain ⟨hclosed, hrest⟩ := hasUnterminated_cons.mp hcs
    have hmem : '}' ∈ rest := by simpa using (hclosed ⟨rfl, rfl⟩).2
    refine ih (fun _ => hmem) (hasUnterminated_cons.mp hrest).2 ?_
    cases rest with
    | nil => simp at hmem
    | cons d rest => simpa using hlast
  | @other c rest tail hc htail ih =>
    cases rest with
    | nil =>
      cases htail
      exact hlast
    | cons d rest =>
      have hrest := ih (by simp) (hasUnterminated_cons.mp hcs).2 (by simpa using hlast)
      rw [List.getLast?_cons, hrest]
      rfl

/-- A dollar sign at the end stays there. -/
theorem ResolvesTo.getLast? {cs resolved : List Char} (h : ResolvesTo pyStr context cs resolved)
    (hlast : cs.getLast? = some '$') : resolved.getLast? = some '$' :=
  substituteTokens_getLast? (by simp) h.terminated h.substituted hlast

/-! ## Plain values -/

/-- A value that is not empty and has no character of an opening. -/
def PlainValue (value : String) : Prop :=
  value.toList ≠ [] ∧ ∀ c ∈ value.toList, c ≠ '$' ∧ c ≠ '{'

/-- Every placeholder with a value has a plain one. -/
def PlainContext (pyStr : Json → String) (context : ExecutionContext) : Prop :=
  ∀ token, Ensures PlainValue (resolveDotPath pyStr token context)

/-- The first character of a substituted text is a brace only if it was one. -/
theorem substituteTokens_noOpening (hplain : PlainContext pyStr context)
    {inside : Option (List Char)} {cs resolved : List Char}
    (hinside : inside.isSome → '}' ∈ cs) (hcs : hasUnterminated cs = false)
    (h : substituteTokens pyStr context inside cs = .ok resolved) :
    NoOpening resolved ∧
      (resolved.head? = some '{' → inside = none ∧ cs.head? = some '{') := by
  have hsubstitutes := Substitutes.of_eq_ok h
  clear h
  induction hsubstitutes with
  | nil inside =>
    cases inside with
    | some token => simp at hinside
    | none => exact ⟨.nil, by simp⟩
  | close hvalue _ ih =>
    obtain ⟨hne, hchars⟩ := hplain _ _ hvalue
    have hrest := (ih (by simp) (hasUnterminated_cons.mp hcs).2).1
    refine ⟨noOpening_append.mpr ⟨noOpening_of_forall fun c hc => (hchars c hc).1, hrest, ?_⟩, ?_⟩
    · intro a ha b hb hdollar
      exact absurd hdollar (hchars a (List.mem_of_getLast? ha)).1
    · intro hhead
      obtain ⟨c, rest', hcons⟩ := List.exists_cons_of_ne_nil hne
      rw [hcons, List.cons_append, List.head?_cons, Option.some_inj] at hhead
      exact absurd hhead (hchars c (by simp [hcons])).2
  | @inside c token rest resolved hc _ ih =>
    have hmem : '}' ∈ rest := by simpa [Ne.symm hc] using hinside rfl
    obtain ⟨hchain, hhead⟩ := ih (fun _ => hmem) (hasUnterminated_cons.mp hcs).2
    exact ⟨hchain, fun hbrace => absurd (hhead hbrace).1 (by simp)⟩
  | @opening rest resolved _ ih =>
    obtain ⟨hclosed, hrest⟩ := hasUnterminated_cons.mp hcs
    have hmem : '}' ∈ rest := by simpa using (hclosed ⟨rfl, rfl⟩).2
    obtain ⟨hchain, hhead⟩ := ih (fun _ => hmem) (hasUnterminated_cons.mp hrest).2
    exact ⟨hchain, fun hbrace => absurd (hhead hbrace).1 (by simp)⟩
  | @other c rest tail hc _ ih =>
    obtain ⟨htailchain, htailhead⟩ := ih (by simp) (hasUnterminated_cons.mp hcs).2
    refine ⟨noOpening_append.mpr ⟨List.isChain_singleton c, htailchain, apart_singleton.mpr ?_⟩,
      fun hhead => ⟨rfl, hhead⟩⟩
    exact fun ⟨hdollar, hhead⟩ => hc ⟨hdollar, (htailhead hhead).2⟩

/-- With plain values, no opening is left in a resolved text. -/
theorem ResolvesTo.noOpening (hplain : PlainContext pyStr context) {cs resolved : List Char}
    (h : ResolvesTo pyStr context cs resolved) : NoOpening resolved :=
  (substituteTokens_noOpening hplain (by simp) h.terminated h.substituted).1

end Resolution

/-! ## Blank contexts -/

mutual

/-- A JSON value with `null` for every primitive. -/
def blankJson : Json → Json
  | .obj fields => .obj (blankFields fields)
  | .arr items => .arr (blankItems items)
  | _ => .null

def blankFields : List (String × Json) → List (String × Json)
  | [] => []
  | (key, child) :: rest => (key, blankJson child) :: blankFields rest

def blankItems : List Json → List Json
  | [] => []
  | child :: rest => blankJson child :: blankItems rest

end

/-- A record with the shape of another and plain values. -/
def StepRecord.blank (record : StepRecord) : StepRecord :=
  ⟨⟨"_", "_"⟩, record.response.map fun response => ⟨200, [], blankFields response.body⟩⟩

/-- A config with the values of another replaced. -/
def RuntimeConfig.blank (config : RuntimeConfig) : RuntimeConfig where
  discoveryUrl := config.discoveryUrl.map fun _ => "_"
  oauthClientId := config.oauthClientId.map fun _ => "_"
  oauthRedirectUri := config.oauthRedirectUri.map fun _ => "_"
  oauthAuthorizationEndpoint := config.oauthAuthorizationEndpoint.map fun _ => "_"
  oauthIssuer := config.oauthIssuer.map fun _ => "_"
  oauthTokenEndpoint := config.oauthTokenEndpoint.map fun _ => "_"
  oauthResourceBaseUrl := config.oauthResourceBaseUrl.map fun _ => "_"
  oauthResponseType := config.oauthResponseType.map fun _ => "_"
  oauthRequestObjectSigningAlg := config.oauthRequestObjectSigningAlg.map fun _ => "_"

/-- A context in which the same placeholders have a value, and plain ones. -/
def ExecutionContext.blank (context : ExecutionContext) : ExecutionContext where
  steps := context.steps.mapValues StepRecord.blank
  tokens := context.tokens.mapValues fun _ => "_"
  config := context.config.map RuntimeConfig.blank

/-- The members of a blank object are blank. -/
theorem lookup_blankFields (fields : List (String × Json)) (key : String) :
    (blankFields fields).lookup key = (fields.lookup key).map blankJson := by
  induction fields with
  | nil => rfl
  | cons field rest ih =>
    obtain ⟨name, child⟩ := field
    rw [blankFields, List.lookup_cons, List.lookup_cons]
    cases key == name with
    | true => rfl
    | false => exact ih

/-- The items of a blank list are blank. -/
theorem getElem?_blankItems (items : List Json) (index : Nat) :
    (blankItems items)[index]? = items[index]?.map blankJson := by
  induction items generalizing index with
  | nil => rfl
  | cons child rest ih =>
    cases index with
    | zero => rfl
    | succ index => simpa [blankItems] using ih index

/-- One segment leads to the blank of what it led to. -/
theorem resolveBodySegment_blankJson (dotPath : String) (current : Json) (part : String) :
    resolveBodySegment dotPath (blankJson current) part =
      (resolveBodySegment dotPath current part).map blankJson := by
  cases current with
  | obj fields =>
    simp only [blankJson, resolveBodySegment, lookup_blankFields]
    cases fields.lookup part <;> rfl
  | arr items =>
    simp only [blankJson, resolveBodySegment, resolveListSegment, getElem?_blankItems]
    cases decimalValue? part with
    | none => rfl
    | some index =>
      simp only
      cases items[index]? <;> rfl
  | _ => rfl

/-- So does a path. -/
theorem foldlM_resolveBodySegment_blankJson (dotPath : String) (segments : List String)
    (current : Json) :
    segments.foldlM (resolveBodySegment dotPath) (blankJson current) =
      (segments.foldlM (resolveBodySegment dotPath) current).map blankJson := by
  induction segments generalizing current with
  | nil => rfl
  | cons part rest ih =>
    rw [List.foldlM_cons, List.foldlM_cons, resolveBodySegment_blankJson]
    cases resolveBodySegment dotPath current part with
    | error e => rfl
    | ok value => exact ih value

section Blank

variable {pyStr : Json → String} {context : ExecutionContext}

/-- The second resolution succeeds where the first does, and its values are plain. -/
structure Blanks (x y : Except PlaceholderError String) : Prop where
  resolves : ∀ value, x = .ok value → ∃ blank, y = .ok blank
  plain : Ensures PlainValue y

theorem Blanks.error {x : Except PlaceholderError String} {e e' : PlaceholderError}
    (h : x = .error e) : Blanks x (.error e') :=
  ⟨fun value hvalue => (by cases h.symm.trans hvalue), .error⟩

theorem Blanks.ok {x : Except PlaceholderError String} {value : String} (h : PlainValue value) :
    Blanks x (.ok value) :=
  ⟨fun _ _ => ⟨value, rfl⟩, .ok h⟩

theorem plainValue_underscore : PlainValue "_" := by
  unfold PlainValue
  decide

theorem plainValue_toString : PlainValue (toString (200 : Int)) := by
  unfold PlainValue
  decide

/-- A value of the configuration is blank in the blank context. -/
theorem blanks_configValue (value : Option String) (unavailable unavailable' : String) :
    Blanks (configValue value unavailable) (configValue (value.map fun _ => "_") unavailable') := by
  cases value with
  | none => exact .error rfl
  | some value => exact .ok plainValue_underscore

/-- So is a path into the configuration. -/
theorem blanks_resolveConfigPath (segments : List String) (dotPath : String) :
    Blanks (resolveConfigPath segments context dotPath)
      (resolveConfigPath segments context.blank dotPath) := by
  unfold resolveConfigPath
  simp only
  split
  · exact .error rfl
  cases hconfig : context.config with
  | none =>
    simp only [ExecutionContext.blank, hconfig, Option.map_none]
    exact .error rfl
  | some config =>
    simp only [ExecutionContext.blank, hconfig, Option.map_some]
    split <;> exact blanks_configValue _ _ _

/-- So is a path into the tokens. -/
theorem blanks_resolveTokenPath (segments : List String) (dotPath : String) :
    Blanks (resolveTokenPath segments context dotPath)
      (resolveTokenPath segments context.blank dotPath) := by
  unfold resolveTokenPath
  simp only [ExecutionContext.blank, Dict.get?_mapValues]
  split
  · rename_i tokenId fieldName
    cases context.tokens.get? tokenId with
    | none => exact .error rfl
    | some accessToken =>
      simp only [Option.map_some]
      split
      · exact .error rfl
      · exact .ok plainValue_underscore
  · exact .error rfl

/-- So is a path into the request of a step. -/
theorem blanks_resolveRequestPath (record : StepRecord) (fieldName : String)
    (remaining : List String) (dotPath : String) :
    Blanks (resolveRequestPath record.request fieldName remaining dotPath)
      (resolveRequestPath record.blank.request fieldName remaining dotPath) := by
  unfold resolveRequestPath
  split
  · exact .ok plainValue_underscore
  split
  · exact .ok plainValue_underscore
  · exact .error rfl

/-- So is a path into a response body. -/
theorem blanks_resolveBodyPath (body : JsonObject) (segments : List String) (dotPath : String) :
    Blanks (resolveBodyPath pyStr body segments dotPath)
      (resolveBodyPath pyStr (blankFields body) segments dotPath) := by
  have hfold := foldlM_resolveBodySegment_blankJson dotPath segments (.obj body)
  rw [blankJson] at hfold
  unfold resolveBodyPath
  simp only [hfold]
  cases segments.foldlM (resolveBodySegment dotPath) (.obj body) with
  | error e => exact .error rfl
  | ok value =>
    have hnull : PlainValue "null" := by
      unfold PlainValue
      decide
    cases value with
    | obj fields => exact .error rfl
    | arr items => exact .error rfl
    | _ => exact .ok hnull

/-- So is a path into the response of a step. -/
theorem blanks_resolveResponsePath (hpyStr : ∀ n : Int, pyStr (.int n) = toString n)
    (response : ResponseRecord) (fieldName : String) (remaining : List String) (dotPath : String) :
    Blanks (resolveResponsePath pyStr response fieldName remaining dotPath)
      (resolveResponsePath pyStr ⟨200, [], blankFields response.body⟩ fieldName remaining
        dotPath) := by
  unfold resolveResponsePath
  split
  · refine .ok ?_
    rw [hpyStr]
    exact plainValue_toString
  split
  · exact blanks_resolveBodyPath _ _ _
  · exact .error rfl

/-- So is a path into a step. -/
theorem blanks_resolveStepPath (hpyStr : ∀ n : Int, pyStr (.int n) = toString n)
    (stepId direction fieldName : String) (remaining : List String) (dotPath : String) :
    Blanks (resolveStepPath pyStr stepId direction fieldName remaining context dotPath)
      (resolveStepPath pyStr stepId direction fieldName remaining context.blank dotPath) := by
  unfold resolveStepPath
  simp only [ExecutionContext.blank, Dict.get?_mapValues]
  cases context.steps.get? stepId with
  | none => exact .error rfl
  | some record =>
    simp only [Option.map_some]
    split
    · exact blanks_resolveRequestPath _ _ _ _
    split
    · cases hresponse : record.response with
      | none =>
        simp only [StepRecord.blank, hresponse, Option.map_none]
        exact .error rfl
      | some response =>
        simp only [StepRecord.blank, hresponse, Option.map_some]
        exact blanks_resolveResponsePath hpyStr _ _ _ _
    · exact .error rfl

/-- So is every dot path. -/
theorem blanks_resolveDotPath (hpyStr : ∀ n : Int, pyStr (.int n) = toString n)
    (token : List Char) :
    Blanks (resolveDotPath pyStr token context) (resolveDotPath pyStr token context.blank) := by
  unfold resolveDotPath
  simp only
  split
  · exact blanks_resolveConfigPath _ _
  · exact blanks_resolveTokenPath _ _
  · exact blanks_resolveStepPath hpyStr _ _ _ _ _
  · exact .error rfl

theorem plainContext_blank (hpyStr : ∀ n : Int, pyStr (.int n) = toString n) :
    PlainContext pyStr context.blank :=
  fun token => (blanks_resolveDotPath hpyStr token).plain

/-- What is substituted in a context is substituted in the blank context too. -/
theorem substituteTokens_blank (hpyStr : ∀ n : Int, pyStr (.int n) = toString n)
    {inside : Option (List Char)} {cs resolved : List Char}
    (h : substituteTokens pyStr context inside cs = .ok resolved) :
    ∃ blank, substituteTokens pyStr context.blank inside cs = .ok blank := by
  have hsubstitutes := Substitutes.of_eq_ok h
  clear h
  induction hsubstitutes with
  | nil inside => exact ⟨_, rfl⟩
  | close hvalue _ ih =>
    obtain ⟨value', hvalue'⟩ := (blanks_resolveDotPath hpyStr _).resolves _ hvalue
    obtain ⟨tail', htail'⟩ := ih
    rw [substituteTokens_close]
    exact ⟨_, bind_eq_ok.mpr ⟨value', hvalue', bind_eq_ok.mpr ⟨tail', htail', rfl⟩⟩⟩
  | inside hc _ ih =>
    rw [substituteTokens_inside hc]
    exact ih
  | opening _ ih => exact ih
  | other hc _ ih =>
    obtain ⟨tail', htail'⟩ := ih
    rw [substituteTokens_other hc]
    exact ⟨_, bind_eq_ok.mpr ⟨tail', htail', rfl⟩⟩

/-- What resolves does so in the blank context too. -/
theorem ResolvesTo.blank (hpyStr : ∀ n : Int, pyStr (.int n) = toString n)
    {cs resolved : List Char} (h : ResolvesTo pyStr context cs resolved) :
    ∃ blank, ResolvesTo pyStr context.blank cs blank := by
  obtain ⟨blank, hblank⟩ := substituteTokens_blank hpyStr h.substituted
  exact ⟨blank, h.notEmpty, h.terminated, hblank⟩

end Blank

end Conformance
