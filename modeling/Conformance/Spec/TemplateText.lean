import Conformance.Native.CatalogueRequest
import Conformance.Spec.PlaceholderText

/-!
# Templates in parts of a text

The substitutions of a catalogue template (`substitute`) read a text from left to
right too, so that the parts of a text are substituted on their own where no
placeholder crosses the cut. What follows the last closing brace stays as it is.

## Key results

- `substitute_append_of_not_mem`: a tail without a closing brace is kept
- `substitute_append`: two texts that are apart are substituted one by one
- `substitute_around`: and so they are around a character between them
-/

namespace Conformance.CatalogueRequest

open Except

/-! ## Matches -/

/-- A group is read up to its closing brace. -/
theorem takeWhile_until_brace {group : List Char} (h : '}' ∉ group) (rest : List Char) :
    (group ++ '}' :: rest).takeWhile (· ≠ '}') = group := by
  rw [List.takeWhile_append_of_pos]
  · simp
  · intro c hc
    simpa using ne_of_mem_of_not_mem hc h

/-- What a match at the head is. -/
theorem matchAt_eq_some_iff {start text group : List Char} :
    matchAt start text = some group ↔
      ∃ rest, text = start ++ group ++ '}' :: rest ∧ group ≠ [] ∧ '}' ∉ group := by
  unfold matchAt
  simp only [Option.ite_none_right_eq_some, List.isPrefixOf_iff_prefix, Option.some.injEq]
  constructor
  · rintro ⟨⟨⟨text, rfl⟩, hne, hmem⟩, rfl⟩
    rw [List.drop_left] at hne hmem ⊢
    obtain ⟨group, rest, rfl, hnot⟩ := List.eq_append_cons_of_mem hmem
    rw [takeWhile_until_brace hnot] at hne ⊢
    exact ⟨rest, by simp, hne, hnot⟩
  · rintro ⟨rest, rfl, hne, hnot⟩
    rw [List.append_assoc, List.drop_left, takeWhile_until_brace hnot]
    exact ⟨⟨⟨group ++ '}' :: rest, rfl⟩, hne, by simp⟩, rfl⟩

/-- A match is found in the first of two texts if it must be closed there. -/
theorem matchAt_append {start u v : List Char}
    (h : ∀ group a, start ++ group ++ ['}'] = u ++ a → '}' ∉ group →
      (∃ rest, v = a ++ rest) → a = []) : matchAt start (u ++ v) = matchAt start u := by
  refine Option.ext fun group => ?_
  rw [matchAt_eq_some_iff, matchAt_eq_some_iff]
  constructor
  · rintro ⟨rest, htext, hne, hnot⟩
    have htext' : u ++ v = (start ++ group ++ ['}']) ++ rest := by simp [htext]
    rcases List.append_eq_append_iff.mp htext' with ⟨a, hu, hv⟩ | ⟨a, hu, -⟩
    · obtain rfl := h group a hu hnot ⟨rest, hv⟩
      exact ⟨[], by simpa using hu.symm, hne, hnot⟩
    · exact ⟨a, by simp [hu], hne, hnot⟩
  · rintro ⟨rest, rfl, hne, hnot⟩
    exact ⟨rest ++ v, by simp, hne, hnot⟩

/-- A text without a closing brace completes no match. -/
theorem matchAt_append_of_not_mem {start u v : List Char} (hv : '}' ∉ v) :
    matchAt start (u ++ v) = matchAt start u := by
  refine matchAt_append fun group a htext _ ⟨rest, hrest⟩ => ?_
  rcases List.eq_nil_or_concat a with rfl | ⟨a, last, rfl⟩
  · rfl
  -- the closing brace is the last character, so it is in the second text
  · have hlast := congrArg List.getLast? htext
    simp only [List.concat_eq_append, ← List.append_assoc, List.getLast?_append,
      List.getLast?_singleton, Option.some_or, Option.some_inj] at hlast
    subst hlast
    exact absurd (hrest ▸ by simp) hv

/-- The shape of the two patterns: they begin with an opening and end before the group. -/
structure OpensWith (start : List Char) : Prop where
  opens : ∃ more, start = '$' :: '{' :: more
  notMem : '}' ∉ start

theorem opensWith_generatedStart : OpensWith generatedStart :=
  ⟨⟨"generated.".toList, by decide⟩, by decide⟩

theorem opensWith_runtimeStart : OpensWith runtimeStart :=
  ⟨⟨"runtime.".toList, by decide⟩, by decide⟩

/-- No match starts away from an opening. -/
theorem matchAt_eq_none {start : List Char} (hstart : OpensWith start) {c : Char}
    {rest : List Char} (h : ¬(c = '$' ∧ rest.head? = some '{')) :
    matchAt start (c :: rest) = none := by
  refine Option.eq_none_iff_forall_ne_some.mpr fun group hgroup => h ?_
  obtain ⟨tail, htext, -, -⟩ := matchAt_eq_some_iff.mp hgroup
  obtain ⟨more, rfl⟩ := hstart.opens
  simp only [List.cons_append, List.cons.injEq] at htext
  exact ⟨htext.1, by rw [htext.2]; rfl⟩

/-- What follows a closed text changes no match in it. -/
theorem matchAt_append_of_closed {start : List Char} (hstart : OpensWith start) {c : Char}
    {u v : List Char} (hu : Closed (c :: u)) (h : Apart (c :: u) v) :
    matchAt start (c :: u ++ v) = matchAt start (c :: u) := by
  by_cases hopens : c = '$' ∧ u.head? = some '{'
  · refine matchAt_append fun group a htext hgroup _ => ?_
    have hmem : '}' ∈ u := by
      obtain ⟨rfl, hhead⟩ := hopens
      obtain ⟨u, rfl⟩ := List.head?_eq_some_iff.mp hhead
      exact List.mem_cons_of_mem _ (hu [] u rfl)
    rcases List.eq_nil_or_concat a with rfl | ⟨a, last, rfl⟩
    · rfl
    -- the match has no closing brace but its last character
    · have hinit := congrArg List.dropLast htext
      simp only [List.concat_eq_append, ← List.append_assoc, List.dropLast_concat] at hinit
      have hbrace : '}' ∈ start ++ group := by
        rw [hinit]
        exact List.mem_append_left _ (List.mem_cons_of_mem c hmem)
      rcases List.mem_append.mp hbrace with hbrace | hbrace
      · exact absurd hbrace hstart.notMem
      · exact absurd hbrace hgroup
  · rw [List.cons_append, matchAt_eq_none hstart hopens,
      matchAt_eq_none hstart ((opens_append_iff h).not.mpr hopens)]

/-- A match is no longer than the text. -/
theorem matchAt_length {start text group : List Char} (h : matchAt start text = some group) :
    start.length + group.length + 1 ≤ text.length := by
  obtain ⟨rest, rfl, -, -⟩ := matchAt_eq_some_iff.mp h
  simp only [List.length_append, List.length_cons]
  omega

/-! ## Substitution -/

section Substitute

variable {β : Type} {marks : Marks β} {start : List Char}
  {replace : String → Except PyError (List β)}

/-- A text without a closing brace has nothing to substitute. -/
theorem substitute_of_not_mem {cs : List Char} (h : '}' ∉ cs) :
    substitute marks start replace 0 cs = .ok (cs.map marks.own) := by
  induction cs with
  | nil => rfl
  | cons c rest ih =>
    have hnone : matchAt start (c :: rest) = none := by
      refine Option.eq_none_iff_forall_ne_some.mpr fun group hgroup => h ?_
      obtain ⟨tail, htext, -, -⟩ := matchAt_eq_some_iff.mp hgroup
      simp [htext]
    rw [substitute, hnone]
    exact bind_eq_ok.mpr ⟨_, ih fun hmem => h (List.mem_cons_of_mem c hmem), rfl⟩

/-- Where no match of the first text changes with the second behind it, the two are
    substituted one by one. -/
theorem substitute_append_of_matchAt {skip : Nat} {u v : List Char}
    (hmatch : ∀ p c s, u = p ++ c :: s → matchAt start (c :: s ++ v) = matchAt start (c :: s))
    (hskip : skip ≤ u.length) :
    substitute marks start replace skip (u ++ v) = do
      let a ← substitute marks start replace skip u
      let b ← substitute marks start replace 0 v
      return a ++ b := by
  induction u generalizing skip with
  | nil =>
    obtain rfl : skip = 0 := by simpa using hskip
    exact (bind_pure (substitute marks start replace 0 v)).symm
  | cons c u ih =>
    have hmatch' : ∀ p d s, u = p ++ d :: s →
        matchAt start (d :: s ++ v) = matchAt start (d :: s) :=
      fun p d s hu => hmatch (c :: p) d s (by rw [hu, List.cons_append])
    cases skip with
    | succ skip => exact ih hmatch' (by simpa using hskip)
    | zero =>
      rw [List.cons_append, substitute, substitute, ← List.cons_append, hmatch [] c u rfl]
      cases hfound : matchAt start (c :: u) with
      | none =>
        simp only [ih hmatch' (Nat.zero_le _), bind_assoc, pure_bind, List.cons_append]
      | some group =>
        simp only [ih hmatch' (Nat.le_of_succ_le_succ (matchAt_length hfound)), bind_assoc,
          pure_bind, List.append_assoc]

/-- What follows the last closing brace is kept. -/
theorem substitute_append_of_not_mem {u v : List Char} {r : List β} (hv : '}' ∉ v)
    (h : substitute marks start replace 0 (u ++ v) = .ok r) :
    ∃ a, r = a ++ v.map marks.own := by
  rw [substitute_append_of_matchAt (fun _ _ _ _ => matchAt_append_of_not_mem hv) (by simp),
    substitute_of_not_mem hv] at h
  obtain ⟨a, -, h⟩ := bind_eq_ok.mp h
  exact ⟨a, (Except.ok.inj h).symm⟩

/-- Two texts that are apart are substituted one by one. -/
theorem substitute_append (hstart : OpensWith start) {u v : List Char} {a b : List β}
    (hu : Closed u) (h : Apart u v) (ha : substitute marks start replace 0 u = .ok a)
    (hb : substitute marks start replace 0 v = .ok b) :
    substitute marks start replace 0 (u ++ v) = .ok (a ++ b) := by
  rw [substitute_append_of_matchAt _ (by simp)]
  · exact bind_eq_ok.mpr ⟨a, ha, bind_eq_ok.mpr ⟨b, hb, rfl⟩⟩
  · rintro p c s rfl
    exact matchAt_append_of_closed hstart hu.of_append h.of_append

/-- A character that opens nothing is kept. -/
theorem substitute_cons (hstart : OpensWith start) {c : Char} {rest : List Char} {b : List β}
    (hc : ¬(c = '$' ∧ rest.head? = some '{'))
    (hb : substitute marks start replace 0 rest = .ok b) :
    substitute marks start replace 0 (c :: rest) = .ok (marks.own c :: b) := by
  rw [substitute, matchAt_eq_none hstart hc]
  exact bind_eq_ok.mpr ⟨b, hb, rfl⟩

/-- A brace at the beginning stays there. -/
theorem substitute_brace (hstart : OpensWith start) {rest : List Char} {r : List β}
    (h : substitute marks start replace 0 ('{' :: rest) = .ok r) :
    ∃ b, r = marks.own '{' :: b := by
  rw [substitute, matchAt_eq_none hstart (by simp)] at h
  obtain ⟨b, -, hb⟩ := bind_eq_ok.mp h
  exact ⟨b, (Except.ok.inj hb).symm⟩

/-- A text is closed when what is substituted in it is. -/
theorem closed_of_substitute {u : List Char} {a : List β}
    (ha : ∀ x y, a = x ++ y.map marks.own → Closed y)
    (h : substitute marks start replace 0 u = .ok a) : Closed u := by
  rintro p s rfl
  by_contra hs
  have htail : '}' ∉ '$' :: '{' :: s := by simpa using hs
  obtain ⟨x, hx⟩ := substitute_append_of_not_mem htail h
  exact hs (ha x _ hx [] s rfl)

/-- A dollar at the end stays at the end. -/
theorem getLast?_substitute {u : List Char} {a : List β}
    (h : substitute marks start replace 0 u = .ok a) (hlast : u.getLast? = some '$') :
    a.getLast? = some (marks.own '$') := by
  obtain ⟨u, rfl⟩ := List.getLast?_eq_some_iff.mp hlast
  obtain ⟨x, rfl⟩ := substitute_append_of_not_mem (v := ['$']) (by simp) h
  simp

/-- A text with a character between its parts that neither of them meets. -/
theorem substitute_around (hstart : OpensWith start) {u v : List Char} {c : Char} {a b : List β}
    (hu : Closed u) (hleft : u.getLast? = some '$' → c ≠ '{')
    (hright : c = '$' → v.head? ≠ some '{')
    (ha : substitute marks start replace 0 u = .ok a)
    (hb : substitute marks start replace 0 v = .ok b) :
    substitute marks start replace 0 (u ++ c :: v) = .ok (a ++ marks.own c :: b) := by
  refine substitute_append hstart hu ?_ ha
    (substitute_cons hstart (fun ⟨hc, hhead⟩ => hright hc hhead) hb)
  rintro x hx y hy rfl
  rw [List.head?_cons, Option.mem_def, Option.some_inj] at hy
  exact hy ▸ hleft hx

end Substitute

end Conformance.CatalogueRequest
