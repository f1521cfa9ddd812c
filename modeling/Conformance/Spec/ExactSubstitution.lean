import Conformance.Spec.PlaceholderText

/-!
# Exact substitution

A template that resolves is a sequence of literal pieces and tokens in exactly one
way, and its value is the same sequence with each token replaced by its value. The
tests of `resolve_placeholders` are two regular expressions and a substring search;
here they are compared with that one grammar.

## Key results

- `Pieces.text_injective`: a text is cut into pieces in at most one way
- `substituteTokens_text`: the substitution replaces the tokens of the pieces
- `resolvePlaceholders_exact`: what is returned, and when an error is raised
-/

namespace Conformance

open Except

/-! ## Pieces -/

/-- A template, cut into literal pieces and the tokens between them. -/
inductive Pieces where
  | literal (cs : List Char)
  | token (before path : List Char) (rest : Pieces)

namespace Pieces

/-- The template. -/
def text : Pieces → List Char
  | .literal cs => cs
  | .token before path rest => before ++ '$' :: '{' :: (path ++ '}' :: rest.text)

/-- Literal pieces have no opening; tokens are not empty and end at their first brace. -/
def WellFormed : Pieces → Prop
  | .literal cs => NoOpening cs
  | .token before path rest =>
    NoOpening before ∧ path ≠ [] ∧ '}' ∉ path ∧ rest.WellFormed

/-- The paths of the tokens. -/
def paths : Pieces → List (List Char)
  | .literal _ => []
  | .token _ path rest => path :: rest.paths

/-- The pieces with every token replaced by its value. -/
def result (value : List Char → Except PlaceholderError String) :
    Pieces → Except PlaceholderError (List Char)
  | .literal cs => .ok cs
  | .token before path rest => do
    let inserted ← value path
    let tail ← rest.result value
    return before ++ (inserted.toList ++ tail)

end Pieces

/-! ## One way to cut a text -/

/-- What stands before an opening makes none with it. -/
theorem apart_opening (before rest : List Char) : Apart before ('$' :: '{' :: rest) := by
  rintro a - b hb -
  obtain rfl : '$' = b := by simpa using hb
  decide

namespace Pieces

/-- The first opening of a text is where its first literal ends. -/
theorem first_opening {before before' rest rest' : List Char} (h : NoOpening before)
    (h' : NoOpening before')
    (heq : before ++ '$' :: '{' :: rest = before' ++ '$' :: '{' :: rest') :
    before = before' ∧ rest = rest' := by
  -- a longer literal would contain the opening after the shorter one
  have hprefixes {u u' a : List Char} (hu : u' = u ++ a) (hu' : NoOpening u') {r r' : List Char}
      (hrest : '$' :: '{' :: r = a ++ '$' :: '{' :: r') : a = [] := by
    rcases a with _ | ⟨c, _ | ⟨d, a⟩⟩
    · rfl
    · simp at hrest
    · simp only [List.cons_append, List.cons.injEq] at hrest
      obtain ⟨rfl, rfl, -⟩ := hrest
      rw [hu, noOpening_append] at hu'
      exact absurd rfl ((List.isChain_cons_cons.mp hu'.2.1).1 rfl)
  rcases List.append_eq_append_iff.mp heq with ⟨a, hu, hrest⟩ | ⟨a, hu, hrest⟩
  · obtain rfl := hprefixes hu h' hrest
    simpa [hu] using hrest
  · obtain rfl := hprefixes hu h hrest
    simpa [hu, eq_comm] using hrest

/-- A text is cut in one way at its first closing brace. -/
theorem first_brace {path path' rest rest' : List Char} (h : '}' ∉ path) (h' : '}' ∉ path')
    (heq : path ++ '}' :: rest = path' ++ '}' :: rest') : path = path' ∧ rest = rest' := by
  induction path generalizing path' with
  | nil =>
    cases path' with
    | nil => simpa using heq
    | cons d path' =>
      obtain rfl := (List.cons.inj heq).1
      exact absurd List.mem_cons_self h'
  | cons c path ih =>
    cases path' with
    | nil =>
      obtain rfl := (List.cons.inj heq).1
      exact absurd List.mem_cons_self h
    | cons d path' =>
      simp only [List.cons_append, List.cons.injEq] at heq
      obtain ⟨rfl, heq⟩ := heq
      obtain ⟨rfl, hrest⟩ := ih (fun hmem => h (.tail _ hmem)) (fun hmem => h' (.tail _ hmem)) heq
      exact ⟨rfl, hrest⟩

/-- The text of a token has an opening. -/
theorem not_noOpening_text {before path : List Char} {rest : Pieces} :
    ¬NoOpening (Pieces.token before path rest).text := by
  intro h
  rw [text, noOpening_append] at h
  exact (List.isChain_cons_cons.mp h.2.1).1 rfl rfl

/-- A text is cut into pieces in at most one way. -/
theorem text_injective {p q : Pieces} (hp : p.WellFormed) (hq : q.WellFormed)
    (heq : p.text = q.text) : p = q := by
  induction p generalizing q with
  | literal cs =>
    cases q with
    | literal cs' => exact congrArg _ heq
    | token before path rest =>
      replace hp : NoOpening (literal cs).text := hp
      rw [heq] at hp
      exact absurd hp not_noOpening_text
  | token before path rest ih =>
    cases q with
    | literal cs' =>
      replace hq : NoOpening (literal cs').text := hq
      rw [← heq] at hq
      exact absurd hq not_noOpening_text
    | token before' path' rest' =>
      obtain ⟨hbefore, -, hpath, hrest⟩ := hp
      obtain ⟨hbefore', -, hpath', hrest'⟩ := hq
      obtain ⟨rfl, htail⟩ := first_opening hbefore hbefore' heq
      obtain ⟨rfl, htext⟩ := first_brace hpath hpath' htail
      rw [ih hrest hrest' htext]

/-! ## Every checked text is cut -/

/-- A text with an opening is cut at the first. -/
theorem exists_first_opening {cs : List Char} (h : ¬NoOpening cs) :
    ∃ before rest, NoOpening before ∧ cs = before ++ '$' :: '{' :: rest := by
  induction cs with
  | nil => exact absurd .nil h
  | cons c cs ih =>
    by_cases hopens : c = '$' ∧ cs.head? = some '{'
    · obtain ⟨rfl, hhead⟩ := hopens
      obtain ⟨rest, rfl⟩ := List.head?_eq_some_iff.mp hhead
      exact ⟨[], rest, .nil, rfl⟩
    · have hcs : ¬NoOpening cs := fun hcs =>
        h (List.isChain_cons.mpr ⟨fun d hd hc hbrace => hopens ⟨hc, hbrace ▸ hd⟩, hcs⟩)
      obtain ⟨before, rest, hbefore, rfl⟩ := ih hcs
      refine ⟨c :: before, rest, List.isChain_cons.mpr ⟨?_, hbefore⟩, rfl⟩
      intro d hd hc hbrace
      refine hopens ⟨hc, ?_⟩
      rw [List.head?_append, hd, hbrace, Option.some_or]

/-- A text whose openings are closed and not empty is cut into pieces. -/
theorem exists_text {cs : List Char} (hclosed : Closed cs)
    (hempty : ∀ p s, cs ≠ p ++ '$' :: '{' :: '}' :: s) : ∃ p : Pieces, p.WellFormed ∧ p.text = cs := by
  induction hn : cs.length using Nat.strong_induction_on generalizing cs with
  | _ n ih =>
    subst hn
    by_cases hcs : NoOpening cs
    · exact ⟨.literal cs, hcs, rfl⟩
    · obtain ⟨before, tail, hbefore, rfl⟩ := exists_first_opening hcs
      obtain ⟨path, rest, rfl, hpath⟩ := List.eq_append_cons_of_mem (hclosed before tail rfl)
      have hrest : before ++ '$' :: '{' :: (path ++ '}' :: rest) =
          (before ++ '$' :: '{' :: path ++ ['}']) ++ rest := by simp
      obtain ⟨p, hp, rfl⟩ := ih rest.length (by simp; omega)
        (Closed.of_append (hrest ▸ hclosed))
        (fun q s hq => hempty (before ++ '$' :: '{' :: path ++ ['}'] ++ q) s (by simp [hq])) rfl
      refine ⟨.token before path p, ⟨hbefore, ?_, hpath, hp⟩, rfl⟩
      rintro rfl
      exact hempty before p.text rfl

/-! ## Results -/

/-- All tokens of a text with a result have a value. -/
theorem result_paths {value : List Char → Except PlaceholderError String} {p : Pieces}
    {resolved : List Char} (h : p.result value = .ok resolved) :
    ∀ path ∈ p.paths, ∃ inserted, value path = .ok inserted := by
  induction p generalizing resolved with
  | literal cs => simp [paths]
  | token before path rest ih =>
    obtain ⟨inserted, hinserted, h⟩ := bind_eq_ok.mp h
    obtain ⟨tail, htail, -⟩ := bind_eq_ok.mp h
    intro path' hpath'
    rcases List.mem_cons.mp hpath' with rfl | hmem
    · exact ⟨inserted, hinserted⟩
    · exact ih htail path' hmem

end Pieces

/-! ## Substitution -/

section Resolution

variable {pyStr : Json → String} {context : ExecutionContext}

/-- A literal in front is kept. -/
theorem substituteTokens_literal {before rest : List Char} (h : NoOpening before)
    (hapart : Apart before rest) :
    substituteTokens pyStr context none (before ++ rest) = do
      let tail ← substituteTokens pyStr context none rest
      return before ++ tail := by
  induction before with
  | nil => exact (bind_pure _).symm
  | cons c before ih =>
    have hc : ¬(c = '$' ∧ (before ++ rest).head? = some '{') := by
      rw [opens_append_iff hapart]
      exact fun hopens => h.rel_head? hopens.2 hopens.1 rfl
    rw [List.cons_append, substituteTokens_other hc, ih h.tail hapart.of_cons]
    simp only [bind_assoc, pure_bind, List.cons_append]

/-- A token is resolved as a whole. -/
theorem substituteTokens_token (inside : List Char) {path rest : List Char} (h : '}' ∉ path) :
    substituteTokens pyStr context (some inside) (path ++ '}' :: rest) = do
      let value ← resolveDotPath pyStr (inside.reverse ++ path) context
      let tail ← substituteTokens pyStr context none rest
      return value.toList ++ tail := by
  induction path generalizing inside with
  | nil => rw [List.nil_append, substituteTokens, if_pos rfl, List.append_nil]
  | cons c path ih =>
    rw [List.mem_cons, not_or] at h
    rw [List.cons_append, substituteTokens, if_neg (Ne.symm h.1), ih (c :: inside) h.2]
    simp

/-- The substitution replaces the tokens of the pieces and nothing else. -/
theorem substituteTokens_text {p : Pieces} (hp : p.WellFormed) :
    substituteTokens pyStr context none p.text =
      p.result fun path => resolveDotPath pyStr path context := by
  induction p with
  | literal cs => exact substituteTokens_of_noOpening hp
  | token before path rest ih =>
    obtain ⟨hbefore, -, hpath, hrest⟩ := hp
    rw [Pieces.text, substituteTokens_literal hbefore (apart_opening _ _), substituteTokens_open,
      substituteTokens_token [] hpath, ih hrest, Pieces.result]
    simp only [List.reverse_nil, List.nil_append, bind_assoc, pure_bind]

/-! ## Resolution -/

/-- A text without the empty placeholder. -/
theorem hasEmptyPlaceholder_eq_false_iff {cs : List Char} :
    hasEmptyPlaceholder cs = false ↔ ∀ p s, cs ≠ p ++ '$' :: '{' :: '}' :: s := by
  induction cs with
  | nil => simp [hasEmptyPlaceholder]
  | cons c rest ih =>
    rw [hasEmptyPlaceholder_cons, ih]
    constructor
    · rintro ⟨hc, hrest⟩ p s heq
      rcases p with _ | ⟨d, p⟩
      · obtain ⟨rfl, rfl⟩ := List.cons.inj heq
        exact hc ⟨rfl, rfl⟩
      · exact hrest p s (List.cons.inj heq).2
    · intro h
      refine ⟨?_, fun p s heq => h (c :: p) s (by rw [heq, List.cons_append])⟩
      rintro ⟨rfl, htake⟩
      refine h [] (rest.drop 2) ?_
      rw [List.nil_append, ← List.take_append_drop 2 rest, htake]
      rfl

/-- The pieces of a template that resolves. -/
theorem ResolvesTo.pieces {cs resolved : List Char} (h : ResolvesTo pyStr context cs resolved) :
    ∃ p : Pieces, p.WellFormed ∧ p.text = cs ∧
      p.result (fun path => resolveDotPath pyStr path context) = .ok resolved := by
  obtain ⟨p, hp, rfl⟩ := Pieces.exists_text (closed_of_hasUnterminated h.terminated)
    (hasEmptyPlaceholder_eq_false_iff.mp h.notEmpty)
  exact ⟨p, hp, rfl, (substituteTokens_text hp).symm.trans h.substituted⟩

/-- A template that resolves is cut into pieces in exactly one way, and its value is
    the pieces with each token replaced by its value. It is an error if the template has
    an empty token, an opening without a later brace or a token without a value. -/
theorem resolvePlaceholders_exact (template : String) :
    (∀ resolved, resolvePlaceholders pyStr template context = .ok resolved →
      ∃ p : Pieces, (p.WellFormed ∧ p.text = template.toList ∧
          p.result (fun path => resolveDotPath pyStr path context) = .ok resolved.toList) ∧
        ∀ q : Pieces, q.WellFormed → q.text = template.toList → q = p) ∧
    (∀ before after, template.toList = before ++ '$' :: '{' :: '}' :: after →
      ∃ e, resolvePlaceholders pyStr template context = .error e) ∧
    (∀ before after, template.toList = before ++ '$' :: '{' :: after → '}' ∉ after →
      ∃ e, resolvePlaceholders pyStr template context = .error e) ∧
    ∀ p : Pieces, p.WellFormed → p.text = template.toList →
      (∃ path ∈ p.paths, ∃ e, resolveDotPath pyStr path context = .error e) →
      ∃ e, resolvePlaceholders pyStr template context = .error e := by
  refine ⟨fun resolved h => ?_, fun before after htext => ?_, fun before after htext hafter => ?_,
    fun p hp htext ⟨path, hpath, e, he⟩ => ?_⟩
  -- the pieces are determined by the text
  · obtain ⟨p, hp, htext, hresult⟩ := (resolvePlaceholders_eq_ok_iff.mp h).pieces
    exact ⟨p, ⟨hp, htext, hresult⟩,
      fun q hq hqtext => Pieces.text_injective hq hp (hqtext.trans htext.symm)⟩
  · refine exists_error fun resolved h => ?_
    exact hasEmptyPlaceholder_eq_false_iff.mp (resolvePlaceholders_eq_ok_iff.mp h).notEmpty
      before after htext
  · refine exists_error fun resolved h => hafter ?_
    exact closed_of_hasUnterminated (resolvePlaceholders_eq_ok_iff.mp h).terminated
      before after htext
  · refine exists_error fun resolved h => ?_
    -- a template that resolves resolves each of its paths
    have hsub := (resolvePlaceholders_eq_ok_iff.mp h).substituted
    rw [← htext, substituteTokens_text hp] at hsub
    obtain ⟨inserted, hinserted⟩ := Pieces.result_paths hsub path hpath
    exact absurd (he.symm.trans hinserted) (by simp)

end Resolution

-- a value that looks like a placeholder is not read again
example : resolvePlaceholders (fun _ => "") "a$\x7bconfig.discoveryUrl\x7d$"
    { config := some { discoveryUrl := some "$\x7b\x7d" } } = .ok "a$\x7b\x7d$" := by
  decide +kernel

end Conformance
