import Conformance.ForStd.List
import Conformance.Native.UrlQuery
import Conformance.Spec.DnsTargets

/-!
# Queries of URLs

A query that `urlencode` writes is the one that `parse_qsl` reads, and a URL that was split
and has a query is split in the same way after `urlunsplit`.

## Key results

- `parseQsl_urlencode`: what is encoded is what is parsed
- `splitStripped_query`: a query does not change how the rest of a URL is split
- `urlsplit_unsplit`: what is joined is what is split
-/

namespace Conformance

open Except

/-! ## Round trip of a text -/

/-- One character of `quote_plus(text, safe="*")`. -/
def quotedChar (c : Char) : List Char := if c ∈ ['*'] then [c] else CatalogueRequest.quotePlus c

/-- A character that is not escaped. -/
def IsPlainChar (c : Char) : Prop :=
  c = '*' ∨ CatalogueRequest.isUnreserved c = true

theorem quotePlusText_eq (cs : List Char) : quotePlusText ['*'] cs = cs.flatMap quotedChar := rfl

/-- A character is kept, or a plus for a space, or the escapes of its bytes. -/
theorem quotedChar_cases (c : Char) :
    (IsPlainChar c ∧ quotedChar c = [c]) ∨ (c = ' ' ∧ quotedChar c = ['+']) ∨
      quotedChar c = (String.utf8EncodeChar c).flatMap fun byte =>
        ['%', CatalogueRequest.hexDigit (byte.toNat / 16),
          CatalogueRequest.hexDigit (byte.toNat % 16)] := by
  unfold quotedChar CatalogueRequest.quotePlus
  by_cases hstar : c = '*'
  · exact .inl ⟨.inl hstar, if_pos (by simp [hstar])⟩
  · rw [if_neg (by simpa using hstar)]
    by_cases hplain : CatalogueRequest.isUnreserved c = true
    · exact .inl ⟨.inr hplain, if_pos hplain⟩
    · rw [if_neg hplain]
      by_cases hspace : c = ' '
      · exact .inr (.inl ⟨hspace, if_pos hspace⟩)
      · exact .inr (.inr (if_neg hspace))

/-- A character that is not escaped is ASCII and stands for nothing else. -/
theorem IsPlainChar.ascii {c : Char} (h : IsPlainChar c) :
    c.toNat < 128 ∧ c ∉ "%+&=#?\t\r\n".toList := by
  have hmark : ∀ d ∈ "%+&=#?\t\r\n".toList,
      d ≠ '*' ∧ CatalogueRequest.isUnreserved d = false := by decide
  constructor
  · rcases h with rfl | h
    · decide
    · simp only [CatalogueRequest.isUnreserved, isAsciiAlphanumeric, Bool.or_eq_true,
        Bool.and_eq_true, decide_eq_true_eq, beq_iff_eq] at h
      rcases h with (((((h | h) | h) | rfl) | rfl) | rfl) | rfl
      · exact Nat.lt_of_le_of_lt h.2 (by decide)
      · exact Nat.lt_of_le_of_lt h.2 (by decide)
      · exact Nat.lt_of_le_of_lt h.2 (by decide)
      all_goals decide
  · intro hmem
    obtain ⟨hstar, hreserved⟩ := hmark c hmem
    rcases h with h | h
    · exact hstar h
    · rw [hreserved] at h
      cases h

/-- A hexadecimal digit is read as it was written, and is plain. -/
theorem hexDigit_facts : ∀ n, n < 16 → hexValue? (CatalogueRequest.hexDigit n) = some n ∧
    IsPlainChar (CatalogueRequest.hexDigit n) := by
  intro n hn
  have hvalue : ∀ n, n < 16 → hexValue? (CatalogueRequest.hexDigit n) = some n ∧
      CatalogueRequest.isUnreserved (CatalogueRequest.hexDigit n) = true := by decide
  exact ⟨(hvalue n hn).1, .inr (hvalue n hn).2⟩

/-- A byte that was read from its escape. -/
theorem unquoteBytes_escape (byte : UInt8) (rest : List Char) :
    unquoteBytes ('%' :: CatalogueRequest.hexDigit (byte.toNat / 16) ::
      CatalogueRequest.hexDigit (byte.toNat % 16) :: rest) = byte :: unquoteBytes rest := by
  have hlt := byte.toNat_lt
  rw [unquoteBytes]
  simp only [(hexDigit_facts _ (show byte.toNat / 16 < 16 by omega)).1,
    (hexDigit_facts _ (show byte.toNat % 16 < 16 by omega)).1, Nat.div_add_mod,
    UInt8.ofNat_toNat]

/-- A character that is no percent sign is kept. -/
theorem unquoteBytes_plain {c : Char} (hc : c ≠ '%') (rest : List Char) :
    unquoteBytes (c :: rest) = c.toUInt8 :: unquoteBytes rest := by
  rw [unquoteBytes]
  intro high low tail hpercent
  exact absurd hpercent hc

/-- `+` for a space, before the escapes are read. -/
def plusToSpace (c : Char) : Char := if c = '+' then ' ' else c

theorem plusToSpace_eq {c : Char} (h : IsPlainChar c) : plusToSpace c = c :=
  if_neg fun hplus => h.ascii.2 (by simp [hplus])

theorem plusToSpace_percent : plusToSpace '%' = '%' := rfl

/-- An ASCII character is encoded as itself. -/
theorem utf8EncodeChar_of_ascii {c : Char} (h : c.toNat < 128) :
    String.utf8EncodeChar c = [c.toUInt8] := by
  refine String.utf8EncodeChar_eq_singleton ?_
  rw [Char.utf8Size_eq_one_iff, UInt32.le_iff_toNat_le]
  exact Nat.le_of_lt_succ h

/-- Reading a quoted character gives its bytes. -/
theorem unquoteBytes_quotedChar (c : Char) (rest : List Char) :
    unquoteBytes ((quotedChar c).map plusToSpace ++ rest) =
      String.utf8EncodeChar c ++ unquoteBytes rest := by
  rcases quotedChar_cases c with ⟨hplain, hquoted⟩ | ⟨rfl, hquoted⟩ | hquoted
  · have hpercent : c ≠ '%' := fun h => hplain.ascii.2 (by simp [h])
    rw [hquoted, utf8EncodeChar_of_ascii hplain.ascii.1, List.map_cons, List.map_nil,
      plusToSpace_eq hplain]
    exact unquoteBytes_plain hpercent rest
  · rw [hquoted]
    exact unquoteBytes_plain (by decide) rest
  · rw [hquoted]
    generalize String.utf8EncodeChar c = bytes
    induction bytes with
    | nil => rfl
    | cons byte bytes ih =>
      have hlt := byte.toNat_lt
      rw [List.flatMap_cons, List.map_append, List.append_assoc, List.map_cons, List.map_cons,
        List.map_cons, List.map_nil, plusToSpace_percent,
        plusToSpace_eq (hexDigit_facts _ (by omega)).2,
        plusToSpace_eq (hexDigit_facts _ (by omega)).2]
      exact (unquoteBytes_escape byte _).trans (congrArg _ ih)

/-- A quoted character is made of characters that are not escaped, and of signs. -/
theorem mem_quotedChar {c d : Char} (h : d ∈ quotedChar c) :
    IsPlainChar d ∨ d = '+' ∨ d = '%' := by
  rcases quotedChar_cases c with ⟨hplain, hquoted⟩ | ⟨-, hquoted⟩ | hquoted
  · rw [hquoted, List.mem_singleton] at h
    exact .inl (h ▸ hplain)
  · rw [hquoted, List.mem_singleton] at h
    exact .inr (.inl h)
  · rw [hquoted] at h
    obtain ⟨byte, -, hd⟩ := List.mem_flatMap.mp h
    have hlt := byte.toNat_lt
    simp only [List.mem_cons, List.not_mem_nil, or_false] at hd
    rcases hd with rfl | rfl | rfl
    · exact .inr (.inr rfl)
    · exact .inl (hexDigit_facts _ (by omega)).2
    · exact .inl (hexDigit_facts _ (by omega)).2

/-- Quoted text is ASCII without the separators of a query. -/
theorem mem_quotePlusText {cs : List Char} {d : Char} (h : d ∈ quotePlusText ['*'] cs) :
    d.toNat < 128 ∧ d ∉ "&=#?\t\r\n".toList := by
  rw [quotePlusText_eq] at h
  obtain ⟨c, -, hd⟩ := List.mem_flatMap.mp h
  rcases mem_quotedChar hd with hplain | rfl | rfl
  · refine ⟨hplain.ascii.1, fun hmem => hplain.ascii.2 ?_⟩
    revert hmem
    simp only [String.reduceToList, List.mem_cons]
    tauto
  · decide
  · decide

/-- A run of ASCII is decoded as a whole. -/
theorem unquote_of_ascii {cs : List Char} (h : ∀ c ∈ cs, c.toNat < 128) :
    unquote cs = Utf8.decodeReplace (unquoteBytes cs) := by
  have hall : ∀ c ∈ cs, isAsciiChar c = true := fun c hc => decide_eq_true (h c hc)
  unfold unquote
  by_cases hne : cs = []
  · subst hne
    rfl
  · rw [List.splitBy_of_isChain hne, List.flatMap_singleton, if_pos (List.all_eq_true.mpr hall)]
    refine List.Pairwise.isChain (List.Pairwise.imp_of_mem (R := fun _ _ => True) ?_ ?_)
    · intro c d hc hd _
      simp [hall c hc, hall d hd]
    · exact List.pairwise_of_forall fun _ _ => trivial

/-- What is quoted is what is unquoted. -/
theorem unquotePlus_quotePlusText (cs : List Char) :
    unquotePlus (quotePlusText ['*'] cs) = cs := by
  have hbytes : unquoteBytes ((cs.flatMap quotedChar).map plusToSpace) =
      cs.flatMap String.utf8EncodeChar := by
    induction cs with
    | nil => rfl
    | cons c rest ih =>
      rw [List.flatMap_cons, List.map_append, unquoteBytes_quotedChar, ih, List.flatMap_cons]
  have hascii : ∀ d ∈ (quotePlusText ['*'] cs).map plusToSpace, d.toNat < 128 := by
    intro d hd
    obtain ⟨c, hc, rfl⟩ := List.mem_map.mp hd
    unfold plusToSpace
    split
    · decide
    · exact (mem_quotePlusText hc).1
  have hunquote := unquote_of_ascii hascii
  rw [quotePlusText_eq, hbytes, Utf8.decodeReplace_encode] at hunquote
  exact hunquote

/-! ## Round trip of a query -/

/-- One item of `urlencode`. -/
def queryItemText (item : List Char × List Char) : List Char :=
  quotePlusText ['*'] item.1 ++ '=' :: quotePlusText ['*'] item.2

/-- So is an item of a query, but for its equals sign. -/
theorem mem_queryItemText {item : List Char × List Char} {d : Char}
    (h : d ∈ queryItemText item) : d ∉ "&#?\t\r\n".toList := by
  rw [queryItemText, List.mem_append, List.mem_cons] at h
  have hquoted : ∀ {cs : List Char}, d ∈ quotePlusText ['*'] cs → d ∉ "&#?\t\r\n".toList := by
    intro cs hd hmem
    refine (mem_quotePlusText hd).2 ?_
    revert hmem
    simp only [String.reduceToList, List.mem_cons]
    tauto
  rcases h with hd | rfl | hd
  · exact hquoted hd
  · decide
  · exact hquoted hd

/-- The items are the parts of the query. -/
theorem splitOn_urlencode (items : List (List Char × List Char)) :
    (urlencode ['*'] items).splitOn '&' =
      if items = [] then [[]] else items.map queryItemText := by
  by_cases hne : items = []
  · subst hne
    rfl
  · rw [if_neg hne]
    refine List.splitOn_intercalate '&' ?_ (by simpa using hne)
    intro text htext
    obtain ⟨item, -, rfl⟩ := List.mem_map.mp htext
    exact fun h => mem_queryItemText h (by simp)

/-- What is encoded is what is parsed. -/
theorem parseQsl_urlencode (items : List (List Char × List Char)) :
    parseQsl (urlencode ['*'] items) = items := by
  have hitem : ∀ item : List Char × List Char, partitionAt '=' (queryItemText item) =
      (quotePlusText ['*'] item.1, quotePlusText ['*'] item.2) := fun item =>
    partitionAt_append fun h => (mem_quotePlusText h).2 (by simp)
  unfold parseQsl
  rw [splitOn_urlencode]
  by_cases hne : items = []
  · subst hne
    rfl
  · rw [if_neg hne]
    have hkeep : (items.map queryItemText).filter (· ≠ []) = items.map queryItemText := by
      refine List.filter_eq_self.mpr fun text htext => ?_
      obtain ⟨item, -, rfl⟩ := List.mem_map.mp htext
      simp [queryItemText]
    rw [hkeep, List.map_map]
    refine (List.map_congr_left fun item _ => ?_).trans (List.map_id items)
    simp only [Function.comp_apply, hitem, unquotePlus_quotePlusText, id_eq]

/-- So is a query, but for the separators of its items. -/
theorem mem_urlencode {items : List (List Char × List Char)} {d : Char}
    (h : d ∈ urlencode ['*'] items) : d ∉ "#?\t\r\n".toList := by
  by_cases hamp : d = '&'
  · subst hamp
    decide
  · have hpart : d ∈ ((urlencode ['*'] items).splitOn '&').flatten := by
      rw [List.flatten_splitOn]
      exact List.mem_filter.mpr ⟨h, decide_eq_true hamp⟩
    rw [splitOn_urlencode] at hpart
    split at hpart
    · simp at hpart
    · obtain ⟨text, htext, hd⟩ := List.mem_flatten.mp hpart
      obtain ⟨item, -, rfl⟩ := List.mem_map.mp htext
      intro hmem
      refine mem_queryItemText hd ?_
      revert hmem
      simp only [String.reduceToList, List.mem_cons]
      tauto

/-- A query with items is not empty. -/
theorem urlencode_ne_nil {items : List (List Char × List Char)} (hne : items ≠ []) :
    urlencode ['*'] items ≠ [] := by
  intro hnil
  have := parseQsl_urlencode items
  rw [hnil] at this
  exact hne this.symm

/-! ## URLs with a query -/

/-- The text without the characters that `urlsplit` removes. -/
def withoutBreaks (cs : List Char) : List Char := cs.filter fun c => !"\t\r\n".toList.contains c

/-- What `urlsplit` splits. -/
def strippedUrl (cs : List Char) : List Char :=
  withoutBreaks (cs.dropWhile fun c => c.toNat ≤ 0x20)

/-- Stripping a URL with a query strips its target and drops the line breaks of the query. -/
theorem strippedUrl_query (target rest : List Char) :
    strippedUrl (target ++ '?' :: rest) = strippedUrl target ++ '?' :: withoutBreaks rest := by
  have hdrop : (target ++ '?' :: rest).dropWhile (fun c => decide (c.toNat ≤ 0x20)) =
      target.dropWhile (fun c => decide (c.toNat ≤ 0x20)) ++ '?' :: rest := by
    induction target with
    | nil => rfl
    | cons c target ih =>
      by_cases hc : c.toNat ≤ 0x20
      · simpa [hc] using ih
      · simp [hc]
  rw [strippedUrl, hdrop, withoutBreaks, List.filter_append]
  rfl

/-- A text without the separator is not split. -/
theorem partitionAt_of_notMem {c : Char} {cs : List Char} (h : c ∉ cs) :
    partitionAt c cs = (cs, []) := by
  have htake : cs.takeWhile (· ≠ c) = cs := by
    refine List.takeWhile_eq_self_iff.mpr fun d hd => decide_eq_true ?_
    rintro rfl
    exact h hd
  simp only [partitionAt, htake]
  simp

/-- A text is split at a sign that is in no scheme and in no authority. -/
def EndsPath (d : Char) : Prop := d = '?' ∨ d = '#'

theorem splitScheme_of_not {cs : List Char}
    (h : ¬(':' ∈ cs ∧ (partitionAt ':' cs).1.head?.any isAsciiLetter = true ∧
      (partitionAt ':' cs).1.all isSchemeChar = true)) : splitScheme cs = ([], cs) := if_neg h

/-- What follows the path does not change the scheme. -/
theorem splitScheme_append {d : Char} (hd : EndsPath d) (target rest : List Char) :
    splitScheme (target ++ d :: rest) =
      ((splitScheme target).1, (splitScheme target).2 ++ d :: rest) := by
  have hsign : isSchemeChar d = false ∧ d ≠ ':' := by
    rcases hd with rfl | rfl <;> decide
  by_cases hcolon : ':' ∈ target
  · obtain ⟨before, after, rfl, hbefore⟩ := List.eq_append_cons_of_mem hcolon
    rw [List.append_assoc, List.cons_append]
    simp only [splitScheme, partitionAt_append hbefore, List.mem_append, List.mem_cons, true_or,
      or_true, true_and]
    split
    · rfl
    · simp
  · rw [splitScheme_of_not fun h => hcolon h.1, splitScheme_of_not]
    rintro ⟨hmem, -, hall⟩
    have hrest : ':' ∈ rest := by
      simpa [hcolon, hsign.2.symm] using hmem
    obtain ⟨before, after, rfl, hbefore⟩ := List.eq_append_cons_of_mem hrest
    have hnot : ':' ∉ target ++ d :: before := by
      simp [hcolon, hsign.2.symm, hbefore]
    have hsplit : partitionAt ':' (target ++ d :: (before ++ ':' :: after)) =
        (target ++ d :: before, after) := by
      rw [← partitionAt_append hnot, List.append_assoc, List.cons_append]
    rw [hsplit, List.all_append, List.all_cons, hsign.1] at hall
    simp at hall

/-- A prefix is taken up to a character that ends it. -/
theorem takeWhile_append_stop {p : Char → Bool} {d : Char} (hd : p d = false)
    (cs rest : List Char) : (cs ++ d :: rest).takeWhile p = cs.takeWhile p := by
  rw [List.takeWhile_append]
  split
  · rename_i hlength
    rw [List.takeWhile_cons_of_neg (by simp [hd]), List.append_nil]
    exact (List.takeWhile_prefix p).eq_of_length hlength |>.symm
  · rfl

/-- A text that does not begin with two slashes has no authority. -/
theorem splitNetloc_of_not {cs : List Char} (h : ∀ rest, cs ≠ '/' :: '/' :: rest) :
    splitNetloc cs = ([], cs) := by
  unfold splitNetloc
  split
  · rename_i rest
    exact absurd rfl (h rest)
  · rfl

/-- What follows the path does not change the authority. -/
theorem splitNetloc_append {d : Char} (hd : EndsPath d) (target rest : List Char) :
    splitNetloc (target ++ d :: rest) =
      ((splitNetloc target).1, (splitNetloc target).2 ++ d :: rest) := by
  have hstop : (!"/?#".toList.contains d) = false := by
    rcases hd with rfl | rfl <;> decide
  have hslash : d ≠ '/' := by
    rcases hd with rfl | rfl <;> decide
  have htake : ∀ cs, (cs ++ d :: rest).takeWhile (fun c => !"/?#".toList.contains c) =
      cs.takeWhile fun c => !"/?#".toList.contains c := fun cs =>
    takeWhile_append_stop (p := fun c => !"/?#".toList.contains c) hstop cs rest
  by_cases hslashes : ∃ after, target = '/' :: '/' :: after
  · obtain ⟨after, rfl⟩ := hslashes
    simp only [splitNetloc, List.cons_append, htake]
    rw [List.drop_append_of_le_length (List.takeWhile_prefix _).length_le]
  · rw [splitNetloc_of_not fun after h => hslashes ⟨after, h⟩, splitNetloc_of_not]
    intro after h
    cases target with
    | nil => exact hslash (List.cons.inj h).1
    | cons c target =>
      have hfirst : c = '/' := (List.cons.inj h).1
      have htail : target ++ d :: rest = '/' :: after := (List.cons.inj h).2
      cases target with
      | nil => exact hslash (List.cons.inj htail).1
      | cons e target =>
        have hsecond : e = '/' := (List.cons.inj htail).1
        exact hslashes ⟨target, by rw [hfirst, hsecond]⟩

/-- What follows the scheme is part of the text. -/
theorem splitScheme_snd_subset (cs : List Char) : (splitScheme cs).2 ⊆ cs := by
  unfold splitScheme
  dsimp only
  split
  · exact List.drop_subset _ _
  · exact List.Subset.refl _

/-- What follows the authority is part of the text. -/
theorem splitNetloc_snd_subset (cs : List Char) : (splitNetloc cs).2 ⊆ cs := by
  by_cases hslashes : ∃ after, cs = '/' :: '/' :: after
  · obtain ⟨after, rfl⟩ := hslashes
    exact List.Subset.trans (List.drop_subset _ _)
      (List.subset_cons_of_subset _ (List.subset_cons_of_subset _ (List.Subset.refl _)))
  · rw [splitNetloc_of_not fun after h => hslashes ⟨after, h⟩]
    exact List.Subset.refl _

theorem strippedUrl_subset (cs : List Char) : strippedUrl cs ⊆ cs :=
  List.Subset.trans (List.filter_subset_self _) (List.dropWhile_suffix _).subset

variable {text : UrlText}

/-- `urlsplit`, of a text that was stripped. -/
def splitStripped (text : UrlText) (url : List Char) : Except PyError SplitResult := do
  let scheme := splitScheme url
  let netloc := splitNetloc scheme.2
  checkBrackets text netloc.1
  let fragment := partitionAt '#' netloc.2
  let query := partitionAt '?' fragment.1
  checkNetloc text netloc.1
  return { scheme := scheme.1, netloc := netloc.1, path := query.1, query := query.2,
           fragment := fragment.2 }

/-- A URL is stripped before it is split. -/
theorem urlsplit_eq (cs : List Char) :
    urlsplit text (String.ofList cs) = splitStripped text (strippedUrl cs) := by
  unfold urlsplit
  rw [String.toList_ofList (l := cs)]
  rfl

/-- What may follow a query. -/
def IsFragmentText (rest : List Char) : Prop := rest = [] ∨ ∃ fragment, rest = '#' :: fragment

/-- The fragment begins at the first number sign. -/
theorem partitionAt_fragment {before rest : List Char} (hbefore : '#' ∉ before)
    (hrest : IsFragmentText rest) : partitionAt '#' (before ++ rest) = (before, rest.tail) := by
  rcases hrest with rfl | ⟨fragment, rfl⟩
  · rw [List.append_nil, partitionAt_of_notMem hbefore]
    rfl
  · exact partitionAt_append hbefore

/-- A query and a fragment do not change how the rest is split. -/
theorem splitStripped_query {target query rest : List Char} (hquestion : '?' ∉ target)
    (hhash : '#' ∉ target) (hquery : '#' ∉ query) (hrest : IsFragmentText rest) :
    splitStripped text (target ++ '?' :: (query ++ rest)) =
      (splitStripped text target).map fun parts =>
        { parts with query := query, fragment := rest.tail } := by
  have hpath : (splitNetloc (splitScheme target).2).2 ⊆ target :=
    List.Subset.trans (splitNetloc_snd_subset _) (splitScheme_snd_subset _)
  generalize hscheme : splitScheme target = scheme at hpath
  generalize hnetloc : splitNetloc scheme.2 = netloc at hpath
  have hplain : partitionAt '#' netloc.2 = (netloc.2, []) :=
    partitionAt_of_notMem fun h => hhash (hpath h)
  have hfragment : partitionAt '#' (netloc.2 ++ '?' :: (query ++ rest)) =
      (netloc.2 ++ '?' :: query, rest.tail) := by
    have hbefore : '#' ∉ netloc.2 ++ '?' :: query := by
      have hnot : '#' ∉ netloc.2 := fun h => hhash (hpath h)
      simp [hquery, hnot]
    simpa using partitionAt_fragment hbefore hrest
  have hsplit : partitionAt '?' (netloc.2 ++ '?' :: query) = (netloc.2, query) :=
    partitionAt_append fun h => hquestion (hpath h)
  have hnone : partitionAt '?' netloc.2 = (netloc.2, []) :=
    partitionAt_of_notMem fun h => hquestion (hpath h)
  simp only [splitStripped, splitScheme_append (.inl rfl), splitNetloc_append (.inl rfl), hscheme,
    hnetloc, hplain, hfragment, hsplit, hnone]
  cases checkBrackets text netloc.1 with
  | error e => rfl
  | ok _ =>
    cases checkNetloc text netloc.1 with
    | error e => rfl
    | ok _ => rfl

/-! ## Joining the parts again -/

/-- A scheme as `urlsplit` leaves it. -/
structure IsScheme (scheme : List Char) : Prop where
  letter : scheme.head?.any isAsciiLetter = true
  chars : ∀ c ∈ scheme, isSchemeChar c = true
  lower : scheme.map Char.toLower = scheme

/-- The parts of a URL as `urlsplit` leaves them, its query apart. -/
structure IsSplit (text : UrlText) (url : SplitResult) : Prop where
  brackets : checkBrackets text url.netloc = .ok ()
  authority : checkNetloc text url.netloc = .ok ()
  scheme : url.scheme = [] ∨ IsScheme url.scheme
  netloc : ∀ c ∈ url.netloc, c ∉ "/?#\t\r\n".toList
  path : ∀ c ∈ url.path, c ∉ "?#\t\r\n".toList
  fragment : ∀ c ∈ url.fragment, c ∉ "\t\r\n".toList
  rooted : url.netloc ≠ [] → url.path = [] ∨ url.path.head? = some '/'
  /-- Without a scheme and an authority the path is not taken for one. -/
  relative : url.scheme = [] → url.netloc = [] →
    splitScheme url.path = ([], url.path) ∧ ∀ c, url.path.head? = some c → 0x20 < c.toNat

theorem IsSplit.withQuery {text : UrlText} {url : SplitResult} (h : IsSplit text url)
    (query : List Char) : IsSplit text { url with query := query } :=
  ⟨h.brackets, h.authority, h.scheme, h.netloc, h.path, h.fragment, h.rooted, h.relative⟩

/-- What is before the query of `urlunsplit`. -/
def SplitResult.target (url : SplitResult) : List Char :=
  (if url.scheme = [] then [] else url.scheme ++ [':']) ++ url.hierarchy

/-- Lowering a scheme keeps it a scheme. -/
theorem toLower_schemeChar {c : Char} (h : isSchemeChar c = true) :
    isSchemeChar c.toLower = true ∧ c.toLower.toLower = c.toLower ∧
      (isAsciiLetter c = true → isAsciiLetter c.toLower = true) := by
  have hascii : ∀ n < 128, isSchemeChar (Char.ofNat n) = true →
      isSchemeChar (Char.ofNat n).toLower = true ∧
      (Char.ofNat n).toLower.toLower = (Char.ofNat n).toLower ∧
      (isAsciiLetter (Char.ofNat n) = true → isAsciiLetter (Char.ofNat n).toLower = true) := by
    decide +kernel
  have hlt : c.toNat < 128 := by
    simp only [isSchemeChar, isAsciiAlphanumeric, Bool.or_eq_true, Bool.and_eq_true,
      decide_eq_true_eq, List.contains_iff_mem] at h
    rcases h with ((h | h) | h) | h
    · exact Nat.lt_of_le_of_lt h.2 (by decide)
    · exact Nat.lt_of_le_of_lt h.2 (by decide)
    · exact Nat.lt_of_le_of_lt h.2 (by decide)
    · revert h
      simp only [String.reduceToList, List.mem_cons, List.not_mem_nil, or_false]
      rintro (rfl | rfl | rfl) <;> decide
  have := hascii c.toNat hlt
  rw [Char.ofNat_toNat] at this
  exact this h

/-- The scheme of a text is lowered, and its colon is left out. -/
theorem splitScheme_cases (cs : List Char) :
    splitScheme cs = ([], cs) ∨ IsScheme (splitScheme cs).1 := by
  unfold splitScheme
  dsimp only
  split
  · rename_i h
    obtain ⟨-, hletter, hchars⟩ := h
    rw [List.all_eq_true] at hchars
    refine .inr ⟨?_, ?_, ?_⟩
    · cases hscheme : (partitionAt ':' cs).1 with
      | nil => simp [hscheme] at hletter
      | cons c rest =>
        rw [hscheme] at hletter hchars
        simp only [List.head?_cons, Option.any_some] at hletter
        simpa using (toLower_schemeChar (hchars c List.mem_cons_self)).2.2 hletter
    · intro d hd
      obtain ⟨c, hc, rfl⟩ := List.mem_map.mp hd
      exact (toLower_schemeChar (hchars c hc)).1
    · rw [List.map_map]
      exact List.map_congr_left fun c hc => (toLower_schemeChar (hchars c hc)).2.1
  · exact .inl rfl

theorem IsScheme.ne_nil {scheme : List Char} (h : IsScheme scheme) : scheme ≠ [] := by
  rintro rfl
  exact absurd h.letter (by decide)

/-- A text is split at the first separator, or not at all. -/
theorem partitionAt_cases (c : Char) (cs : List Char) :
    (c ∉ cs ∧ partitionAt c cs = (cs, [])) ∨
      ∃ before after, cs = before ++ c :: after ∧ c ∉ before ∧
        partitionAt c cs = (before, after) := by
  by_cases h : c ∈ cs
  · obtain ⟨before, after, rfl, hbefore⟩ := List.eq_append_cons_of_mem h
    exact .inr ⟨before, after, rfl, hbefore, partitionAt_append hbefore⟩
  · exact .inl ⟨h, partitionAt_of_notMem h⟩

/-- The path is followed by a query, a fragment or nothing. -/
theorem path_cases (cs : List Char) :
    ∃ tail, cs = (partitionAt '?' (partitionAt '#' cs).1).1 ++ tail ∧
      (tail = [] ∨ ∃ d rest, tail = d :: rest ∧ EndsPath d) ∧
      '?' ∉ (partitionAt '?' (partitionAt '#' cs).1).1 ∧
      '#' ∉ (partitionAt '?' (partitionAt '#' cs).1).1 := by
  have hpath : ∀ before, '#' ∉ before → ∃ tail, before = (partitionAt '?' before).1 ++ tail ∧
      (tail = [] ∨ ∃ rest, tail = '?' :: rest) ∧ '?' ∉ (partitionAt '?' before).1 ∧
      '#' ∉ (partitionAt '?' before).1 := by
    intro before hhash
    rcases partitionAt_cases '?' before with ⟨hnot, hsplit⟩ | ⟨path, query, rfl, hnot, hsplit⟩
    · rw [hsplit]
      exact ⟨[], by simp, .inl rfl, hnot, hhash⟩
    · rw [hsplit]
      exact ⟨'?' :: query, rfl, .inr ⟨query, rfl⟩, hnot, fun h => hhash (by simp [h])⟩
  rcases partitionAt_cases '#' cs with ⟨hnot, hsplit⟩ | ⟨before, fragment, rfl, hnot, hsplit⟩
  · obtain ⟨tail, hbefore, htail, hquestion, hhash⟩ := hpath cs hnot
    rw [hsplit]
    refine ⟨tail, hbefore, ?_, hquestion, hhash⟩
    rcases htail with rfl | ⟨rest, rfl⟩
    · exact .inl rfl
    · exact .inr ⟨_, rest, rfl, .inl rfl⟩
  · obtain ⟨tail, hbefore, htail, hquestion, hhash⟩ := hpath before hnot
    rw [hsplit]
    refine ⟨tail ++ '#' :: fragment, ?_, ?_, hquestion, hhash⟩
    · rw [← List.append_assoc, ← hbefore]
    · rcases htail with rfl | ⟨rest, rfl⟩
      · exact .inr ⟨_, fragment, rfl, .inr rfl⟩
      · exact .inr ⟨_, rest ++ '#' :: fragment, rfl, .inl rfl⟩

theorem mem_strippedUrl {cs : List Char} {c : Char} (h : c ∈ strippedUrl cs) :
    c ∉ "\t\r\n".toList := by
  simpa [strippedUrl, withoutBreaks] using (List.mem_filter.mp h).2

/-- The first character of a stripped text is no space. -/
theorem head_strippedUrl {cs : List Char} {c : Char} (h : (strippedUrl cs).head? = some c) :
    0x20 < c.toNat := by
  unfold strippedUrl withoutBreaks at h
  cases hdrop : cs.dropWhile fun c => decide (c.toNat ≤ 0x20) with
  | nil =>
    rw [hdrop] at h
    cases h
  | cons first rest =>
    have hfirst : ¬first.toNat ≤ 0x20 := by
      have := List.head?_dropWhile_not (fun c : Char => decide (c.toNat ≤ 0x20)) cs
      rw [hdrop] at this
      simpa using this
    have hkeep : (!"\t\r\n".toList.contains first) = true := by
      simp only [String.reduceToList, List.contains_cons, List.contains_nil, Bool.or_false,
        Bool.not_eq_true', Bool.or_eq_false_iff, beq_eq_false_iff_ne]
      refine ⟨?_, ?_, ?_⟩ <;> rintro rfl <;> exact hfirst (by decide)
    rw [hdrop, List.filter_cons_of_pos (p := fun c => !"\t\r\n".toList.contains c) hkeep,
      List.head?_cons] at h
    obtain rfl := Option.some.inj h
    omega

/-- A path has no scheme. -/
theorem splitScheme_rooted {path : List Char} (h : path = [] ∨ path.head? = some '/') :
    splitScheme path = ([], path) := by
  refine splitScheme_of_not ?_
  rintro ⟨hcolon, hletter, -⟩
  rcases h with rfl | h
  · cases hcolon
  · cases path with
    | nil => cases h
    | cons c rest =>
      obtain rfl := Option.some.inj h
      rw [partitionAt, List.takeWhile_cons_of_pos (by decide)] at hletter
      simp only [List.head?_cons, Option.any_some] at hletter
      exact absurd hletter (by decide)

/-- What follows a prefix of characters is what is left without it. -/
theorem drop_takeWhile_length (p : Char → Bool) (cs : List Char) :
    cs.drop (cs.takeWhile p).length = cs.dropWhile p := by
  induction cs with
  | nil => rfl
  | cons c rest ih =>
    cases hp : p c with
    | true => simp [hp, ih]
    | false => simp [hp]

/-- After two slashes the path is empty or begins with a slash. -/
theorem rooted_of_slashes (rest : List Char) :
    let path := (partitionAt '?' (partitionAt '#' (splitNetloc ('/' :: '/' :: rest)).2).1).1
    path = [] ∨ path.head? = some '/' := by
  obtain ⟨tail, hsplit, -, hquestion, hhash⟩ := path_cases (splitNetloc ('/' :: '/' :: rest)).2
  generalize (partitionAt '?' (partitionAt '#' (splitNetloc ('/' :: '/' :: rest)).2).1).1 = path
    at hsplit hquestion hhash
  simp only [splitNetloc, drop_takeWhile_length] at hsplit
  cases path with
  | nil => exact .inl rfl
  | cons c path =>
    have hstop := List.head?_dropWhile_not (fun c : Char => !"/?#".toList.contains c) rest
    rw [hsplit] at hstop
    have hsign : c ≠ '/' → c ≠ '?' → c = '#' := by simpa using hstop
    have hcases : c = '/' ∨ c = '?' ∨ c = '#' := by tauto
    rcases hcases with rfl | rfl | rfl
    · exact .inr rfl
    · exact absurd List.mem_cons_self hquestion
    · exact absurd List.mem_cons_self hhash

/-- The authority ends before the path. -/
theorem mem_splitNetloc_fst {cs : List Char} {c : Char} (h : c ∈ (splitNetloc cs).1) :
    c ∈ cs ∧ c ∉ "/?#".toList := by
  by_cases hslashes : ∃ rest, cs = '/' :: '/' :: rest
  · obtain ⟨rest, rfl⟩ := hslashes
    have htake : c ∈ rest.takeWhile fun c => !"/?#".toList.contains c := h
    refine ⟨List.mem_cons_of_mem _ (List.mem_cons_of_mem _ ((List.takeWhile_prefix _).mem htake)), ?_⟩
    simpa using List.mem_takeWhile_imp htake
  · rw [splitNetloc_of_not fun rest h => hslashes ⟨rest, h⟩] at h
    cases h

theorem splitScheme_of_fst {cs : List Char} (h : (splitScheme cs).1 = []) :
    splitScheme cs = ([], cs) :=
  (splitScheme_cases cs).resolve_right fun hscheme => hscheme.ne_nil h

/-- What `urlsplit` returns can be joined and split again. -/
theorem isSplit_of_urlsplit {value : String} {url : SplitResult}
    (h : urlsplit text value = .ok url) : IsSplit text url := by
  rw [← String.ofList_toList (s := value), urlsplit_eq] at h
  generalize hstripped : strippedUrl value.toList = stripped at h
  have hclean : ∀ c ∈ stripped, c ∉ "\t\r\n".toList := fun c hc =>
    mem_strippedUrl (hstripped ▸ hc)
  have hhead : ∀ c, stripped.head? = some c → 0x20 < c.toNat := fun c hc =>
    head_strippedUrl (hstripped ▸ hc)
  obtain ⟨_, hbrackets, h⟩ := bind_eq_ok.mp h
  obtain ⟨_, hauthority, h⟩ := bind_eq_ok.mp h
  obtain rfl := Except.ok.inj h
  obtain ⟨tail, hpath, htail, hquestion, hhash⟩ :=
    path_cases (splitNetloc (splitScheme stripped).2).2
  have hrest : (splitNetloc (splitScheme stripped).2).2 ⊆ stripped :=
    List.Subset.trans (splitNetloc_snd_subset _) (splitScheme_snd_subset _)
  have hbefore : (partitionAt '?' (partitionAt '#'
      (splitNetloc (splitScheme stripped).2).2).1).1 ⊆ stripped := fun c hc =>
    hrest (hpath ▸ List.mem_append_left tail hc)
  refine ⟨hbrackets, hauthority, ?_, ?_, ?_, ?_, ?_, ?_⟩
  · rcases splitScheme_cases stripped with hnone | hscheme
    · exact .inl (by rw [hnone])
    · exact .inr hscheme
  · intro c hc
    obtain ⟨hmem, hsign⟩ := mem_splitNetloc_fst hc
    have hbreak := hclean c (splitScheme_snd_subset stripped hmem)
    simp only [String.reduceToList, List.mem_cons, List.not_mem_nil, or_false] at hsign hbreak ⊢
    tauto
  · intro c hc
    have hbreak := hclean c (hbefore hc)
    have hsigns : c ≠ '?' ∧ c ≠ '#' :=
      ⟨fun h => hquestion (h ▸ hc), fun h => hhash (h ▸ hc)⟩
    simp only [String.reduceToList, List.mem_cons, List.not_mem_nil, or_false] at hbreak ⊢
    tauto
  · exact fun c hc => hclean c (hrest (List.drop_subset _ _ hc))
  · intro hne
    by_cases hslashes : ∃ rest, (splitScheme stripped).2 = '/' :: '/' :: rest
    · obtain ⟨rest, hrest⟩ := hslashes
      rw [hrest]
      exact rooted_of_slashes rest
    · rw [splitNetloc_of_not fun rest h => hslashes ⟨rest, h⟩] at hne
      exact absurd rfl hne
  · intro hnone _
    have hunchanged : (splitScheme stripped).2 = stripped := by
      rw [splitScheme_of_fst hnone]
    by_cases hslashes : ∃ rest, (splitScheme stripped).2 = '/' :: '/' :: rest
    · obtain ⟨rest, hrest⟩ := hslashes
      rw [hrest]
      refine ⟨splitScheme_rooted (rooted_of_slashes rest), fun c hc => ?_⟩
      rcases rooted_of_slashes rest with hnil | hroot
      · rw [hnil] at hc
        cases hc
      · rw [hroot] at hc
        obtain rfl := Option.some.inj hc
        decide
    · rw [splitNetloc_of_not fun rest h => hslashes ⟨rest, h⟩, hunchanged] at hpath ⊢
      generalize (partitionAt '?' (partitionAt '#' stripped).1).1 = path at hpath
      constructor
      · rcases htail with rfl | ⟨d, rest, rfl, hd⟩
        · rw [List.append_nil] at hpath
          exact splitScheme_of_fst (hpath ▸ hnone)
        · rw [hpath, splitScheme_append hd] at hnone
          exact splitScheme_of_fst hnone
      · intro c hc
        refine hhead c ?_
        cases path with
        | nil => cases hc
        | cons first path => rw [hpath]; exact hc

section Unsplit

variable {url : SplitResult}

/-- Two slashes go before an authority, and before a path that is not taken for one. -/
theorem hierarchy_cases (h : IsSplit text url) :
    (url.hierarchy = '/' :: '/' :: (url.netloc ++ url.path) ∧
        (url.path = [] ∨ url.path.head? = some '/')) ∨
      (url.netloc = [] ∧ url.hierarchy = url.path ∧ ∀ rest, url.path ≠ '/' :: '/' :: rest) := by
  unfold SplitResult.hierarchy
  by_cases hnetloc : url.netloc = []
  · rw [if_neg (not_not_intro hnetloc), hnetloc]
    by_cases hslashes : "//".toList.isPrefixOf url.path = true
    · obtain ⟨rest, hrest⟩ := List.isPrefixOf_iff_prefix.mp hslashes
      rw [if_pos hslashes]
      exact .inl ⟨rfl, .inr (by rw [← hrest]; rfl)⟩
    · rw [if_neg hslashes]
      split
      · rename_i hscheme
        exact .inl ⟨rfl, hscheme.2.2⟩
      · refine .inr ⟨rfl, rfl, fun rest hrest => hslashes ?_⟩
        rw [hrest]
        exact List.isPrefixOf_iff_prefix.mpr ⟨rest, rfl⟩
  · have hroot := h.rooted hnetloc
    rw [if_pos hnetloc, if_neg]
    · exact .inl ⟨rfl, hroot⟩
    · rintro ⟨hne, hhead⟩
      exact hroot.elim hne hhead

/-- The authority of a URL is split from its path again. -/
theorem splitNetloc_hierarchy (h : IsSplit text url) :
    splitNetloc url.hierarchy = (url.netloc, url.path) := by
  rcases hierarchy_cases h with ⟨hjoined, hroot⟩ | ⟨hnetloc, hjoined, hnot⟩
  · have hkeep : ∀ c ∈ url.netloc, (!"/?#".toList.contains c) = true := by
      intro c hc
      have hsign := h.netloc c hc
      simp only [String.reduceToList, List.mem_cons, List.not_mem_nil, or_false] at hsign
      simp only [String.reduceToList, List.contains_cons, List.contains_nil, Bool.or_false,
        Bool.not_eq_true', Bool.or_eq_false_iff, beq_eq_false_iff_ne]
      tauto
    have htake : (url.netloc ++ url.path).takeWhile (fun c => !"/?#".toList.contains c) =
        url.netloc := by
      rw [List.takeWhile_append_of_pos hkeep]
      cases hpath : url.path with
      | nil => simp
      | cons c rest =>
        obtain rfl : c = '/' := by simpa [hpath] using hroot
        rw [List.takeWhile_cons_of_neg (by decide), List.append_nil]
    rw [hjoined]
    simp only [splitNetloc, htake, List.drop_left]
  · rw [hjoined, hnetloc]
    exact splitNetloc_of_not hnot

/-- The scheme of a URL is split from the rest again. -/
theorem splitScheme_target (h : IsSplit text url) :
    splitScheme url.target = (url.scheme, url.hierarchy) := by
  unfold SplitResult.target
  rcases h.scheme with hnone | hscheme
  · rw [if_pos hnone, List.nil_append, hnone]
    rcases hierarchy_cases h with ⟨hjoined, -⟩ | ⟨hnetloc, hjoined, -⟩
    · rw [hjoined]
      exact splitScheme_rooted (.inr rfl)
    · rw [hjoined]
      exact (h.relative hnone hnetloc).1
  · have hcolon : ':' ∉ url.scheme := fun hmem => by
      have := hscheme.chars ':' hmem
      exact absurd this (by decide)
    rw [if_neg hscheme.ne_nil, List.append_assoc, List.singleton_append]
    simp only [splitScheme, partitionAt_append hcolon]
    rw [if_pos ⟨by simp, hscheme.letter, List.all_eq_true.mpr hscheme.chars⟩, hscheme.lower]

/-- What is before the query has no sign that ends it, and no break. -/
theorem mem_target (h : IsSplit text url) {c : Char} (hc : c ∈ url.target) :
    c ∉ "?#\t\r\n".toList := by
  have hhierarchy : c ∈ url.hierarchy → c ∉ "?#\t\r\n".toList := by
    intro hmem
    have hcases : c = '/' ∨ c ∈ url.netloc ∨ c ∈ url.path := by
      rcases hierarchy_cases h with ⟨hjoined, -⟩ | ⟨-, hjoined, -⟩
      · simpa [hjoined] using hmem
      · exact .inr (.inr (hjoined ▸ hmem))
    rcases hcases with rfl | hnetloc | hpath
    · decide
    · have := h.netloc c hnetloc
      simp only [String.reduceToList, List.mem_cons, List.not_mem_nil, or_false] at this ⊢
      tauto
    · exact h.path c hpath
  rw [SplitResult.target, List.mem_append] at hc
  rcases hc with hc | hc
  · split at hc
    · cases hc
    · rename_i hne
      rw [List.mem_append, List.mem_singleton] at hc
      rcases hc with hc | rfl
      · have hchar := (h.scheme.resolve_left hne).chars c hc
        have hsigns : ∀ d ∈ "?#\t\r\n".toList, isSchemeChar d = false := by decide
        intro hmem
        rw [hsigns c hmem] at hchar
        cases hchar
      · decide
  · exact hhierarchy hc

/-- A URL begins with no control character or blank. -/
theorem head_target (h : IsSplit text url) {c : Char} (hc : url.target.head? = some c) :
    0x20 < c.toNat := by
  unfold SplitResult.target at hc
  rcases h.scheme with hnone | hscheme
  · rw [if_pos hnone, List.nil_append] at hc
    rcases hierarchy_cases h with ⟨hjoined, -⟩ | ⟨hnetloc, hjoined, -⟩
    · rw [hjoined] at hc
      obtain rfl := Option.some.inj hc
      decide
    · exact (h.relative hnone hnetloc).2 c (hjoined ▸ hc)
  · have hletter := hscheme.letter
    cases hlist : url.scheme with
    | nil => exact absurd hlist hscheme.ne_nil
    | cons d rest =>
      rw [hlist] at hletter hc
      obtain rfl := Option.some.inj hc
      simp only [List.head?_cons, Option.any_some, isAsciiLetter, Bool.or_eq_true, Bool.and_eq_true,
        decide_eq_true_eq] at hletter
      rcases hletter with hle | hle
      · exact Nat.lt_of_lt_of_le (by decide) hle.1
      · exact Nat.lt_of_lt_of_le (by decide) hle.1

theorem withoutBreaks_eq_self {cs : List Char} (h : ∀ c ∈ cs, c ∉ "\t\r\n".toList) :
    withoutBreaks cs = cs :=
  List.filter_eq_self.mpr fun c hc => by simpa using h c hc

/-- The target of a URL is stripped already. -/
theorem strippedUrl_target (h : IsSplit text url) : strippedUrl url.target = url.target := by
  have hdrop : (url.target.dropWhile fun c => decide (c.toNat ≤ 0x20)) = url.target := by
    cases htarget : url.target with
    | nil => rfl
    | cons c rest =>
      have hhead := head_target h (by rw [htarget]; rfl : url.target.head? = some c)
      exact List.dropWhile_cons_of_neg (by simpa using hhead)
  rw [strippedUrl, hdrop]
  refine withoutBreaks_eq_self fun c hc hbreak => mem_target h hc ?_
  simp only [String.reduceToList, List.mem_cons, List.not_mem_nil, or_false] at hbreak ⊢
  tauto

/-- The target of a URL splits into its parts. -/
theorem splitStripped_target (h : IsSplit text url) :
    splitStripped text url.target = .ok { url with query := [], fragment := [] } := by
  have hhash : '#' ∉ url.path := fun hc => h.path _ hc (by simp)
  have hquestion : '?' ∉ url.path := fun hc => h.path _ hc (by simp)
  simp only [splitStripped, splitScheme_target h, splitNetloc_hierarchy h, h.brackets,
    h.authority, partitionAt_of_notMem hhash, partitionAt_of_notMem hquestion]
  rfl

/-- The fragment of `urlunsplit`. -/
def SplitResult.fragmentText (url : SplitResult) : List Char :=
  if url.fragment = [] then [] else '#' :: url.fragment

/-- The fragment of a URL is read back, and has no line breaks. -/
theorem fragmentText_facts (h : IsSplit text url) : IsFragmentText url.fragmentText ∧
    url.fragmentText.tail = url.fragment ∧ ∀ c ∈ url.fragmentText, c ∉ "\t\r\n".toList := by
  unfold SplitResult.fragmentText
  split
  · rename_i hnil
    exact ⟨.inl rfl, hnil.symm, fun c hc => absurd hc List.not_mem_nil⟩
  · refine ⟨.inr ⟨_, rfl⟩, rfl, fun c hc => ?_⟩
    rcases List.mem_cons.mp hc with rfl | hc
    · decide
    · exact h.fragment c hc

/-- What is joined is what is split. -/
theorem urlsplit_unsplit (h : IsSplit text url) (hne : url.query ≠ [])
    (hquery : ∀ c ∈ url.query, c ∉ "#\t\r\n".toList) :
    urlsplit text (String.ofList url.unsplit) = .ok url := by
  obtain ⟨hfragment, htail, hbreaks⟩ := fragmentText_facts h
  have hunsplit : url.unsplit = url.target ++ '?' :: (url.query ++ url.fragmentText) := by
    rw [SplitResult.unsplit, if_neg hne, ← SplitResult.target, List.append_assoc]
    rfl
  have hclean : withoutBreaks (url.query ++ url.fragmentText) = url.query ++ url.fragmentText := by
    refine withoutBreaks_eq_self fun c hc hbreak => ?_
    rcases List.mem_append.mp hc with hc | hc
    · refine hquery c hc ?_
      simp only [String.reduceToList, List.mem_cons, List.not_mem_nil, or_false] at hbreak ⊢
      tauto
    · exact hbreaks c hc hbreak
  have hquestion : '?' ∉ url.target := fun hc => mem_target h hc (by simp)
  have hhash : '#' ∉ url.target := fun hc => mem_target h hc (by simp)
  have hplain : '#' ∉ url.query := fun hc => hquery _ hc (by simp)
  rw [hunsplit, urlsplit_eq, strippedUrl_query, strippedUrl_target h, hclean,
    splitStripped_query hquestion hhash hplain hfragment, splitStripped_target h, htail]
  rfl

end Unsplit

end Conformance
