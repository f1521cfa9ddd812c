import Conformance.Native.SchemaValidation
import Conformance.Spec.BodyPathAgreement

/-!
# JSON pointers

`_resolve_json_pointer` returns what a pointer points to: it walks the unescaped segments
through members and items. It fails with an error of its own, except where a segment under
an array holds digits that are no decimal number, or too many of them.

## Key results

- `resolveJsonPointer_eq_ok`: what a pointer resolves to
- `raisesOnly_resolveJsonPointer_iff`: which pointers raise a foreign exception
- `resolveJsonPointer_pointerTo_iff`: the pointer of a path
-/

namespace Conformance

open Except

/-! ## What a pointer points to -/

/-- The member or the item that a segment names. -/
inductive Child : Json → String → Json → Prop where
  | member {fields : JsonObject} {key : String} {value : Json} :
    fields.lookup key = some value → Child (.obj fields) key value
  | item {items : List Json} {segment : String} {index : Nat} {value : Json} :
    decimalValue? segment = some index → items[index]? = some value →
    Child (.arr items) segment value

/-- The value at the end of some segments. -/
inductive Descends : Json → List String → Json → Prop where
  | nil (value : Json) : Descends value [] value
  | cons {value child target : Json} {segment : String} {rest : List String} :
    Child value segment child → Descends child rest target →
    Descends value (segment :: rest) target

/-- The segments of a local pointer. -/
def pointerSegments? (pointer : String) : Option (List String) :=
  match pointer.toList with
  | '#' :: '/' :: path => some ((path.splitOn '/').map unescapeSegment)
  | _ => none

/-- A local pointer points to a value. -/
def PointsTo (document : Json) (pointer : String) (target : Json) : Prop :=
  ∃ segments, pointerSegments? pointer = some segments ∧ Descends document segments target

/-- The segments of a pointer, unescaped. -/
theorem pointerSegments?_eq_some {pointer : String} {segments : List String}
    (h : pointerSegments? pointer = some segments) :
    ∃ path, pointer.toList = '#' :: '/' :: path ∧
      (path.splitOn '/').map unescapeSegment = segments := by
  unfold pointerSegments? at h
  split at h
  · rename_i path hpath
    exact ⟨path, hpath, Option.some.inj h⟩
  · cases h

/-- A segment leads to one child at most. -/
theorem Child.unique {value child child' : Json} {segment : String} (h : Child value segment child)
    (h' : Child value segment child') : child = child' := by
  cases h with
  | member hlookup =>
    cases h' with
    | member hlookup' => exact Option.some.inj (hlookup.symm.trans hlookup')
  | item hindex hitem =>
    cases h' with
    | item hindex' hitem' =>
      obtain rfl := Option.some.inj (hindex.symm.trans hindex')
      exact Option.some.inj (hitem.symm.trans hitem')

/-- A path leads to one target at most. -/
theorem Descends.unique {value target target' : Json} {segments : List String}
    (h : Descends value segments target) (h' : Descends value segments target') :
    target = target' := by
  induction h with
  | nil =>
    cases h'
    rfl
  | cons hchild _ ih =>
    cases h' with
    | cons hchild' hrest' =>
      obtain rfl := hchild.unique hchild'
      exact ih hrest'

/-- A pointer has one target at most. -/
theorem PointsTo.unique {document target target' : Json} {pointer : String}
    (h : PointsTo document pointer target) (h' : PointsTo document pointer target') :
    target = target' := by
  obtain ⟨segments, hsegments, hdescends⟩ := h
  obtain ⟨segments', hsegments', hdescends'⟩ := h'
  obtain rfl := Option.some.inj (hsegments.symm.trans hsegments')
  exact hdescends.unique hdescends'

/-- Digits that `int` refuses: some are no decimal digits, or they are too many. -/
def IsBadIndex (segment : String) : Prop := isDigit segment = true ∧ decimalValue? segment = none

/-- What has a decimal value consists of digits. -/
theorem isDigit_of_decimalValue? {segment : String} {index : Nat}
    (h : decimalValue? segment = some index) : isDigit segment = true := by
  have hdecimal := (decimalValue?_isSome_iff.mp (Option.isSome_iff_exists.mpr ⟨index, h⟩)).1
  rw [isDecimal_iff] at hdecimal
  simp only [isDigit, isDigitChar, Bool.and_eq_true, Bool.not_eq_true', List.isEmpty_eq_false_iff,
    List.all_eq_true, Bool.or_eq_true]
  exact ⟨hdecimal.1, fun c hc => .inl (hdecimal.2 c hc)⟩

section Resolution

variable {repr : Json → String} {pointer : String}

/-- A segment is resolved to the child that it leads to. -/
theorem resolvePointerSegment_eq_ok {current value : Json} {rawSegment : List Char} :
    resolvePointerSegment repr pointer current rawSegment = .ok value ↔
      Child current (unescapeSegment rawSegment) value := by
  unfold resolvePointerSegment
  constructor
  · intro h
    cases current with
    | obj fields =>
      cases hlookup : fields.lookup (unescapeSegment rawSegment) with
      | none => simp [hlookup, schemaError] at h
      | some found =>
        simp only [hlookup, Except.ok.injEq] at h
        exact .member (h ▸ hlookup)
    | arr items =>
      obtain ⟨_, -, h⟩ := bind_eq_ok.mp h
      obtain ⟨index, hindex, h⟩ := bind_eq_ok.mp h
      cases hvalue : decimalValue? (unescapeSegment rawSegment) with
      | none => simp [intOfDigits, hvalue] at hindex
      | some n =>
        simp only [intOfDigits, hvalue, Except.ok.injEq] at hindex
        cases hitem : items[index]? with
        | none => simp [hitem, schemaError] at h
        | some item =>
          simp only [hitem, pure, Except.pure, Except.ok.injEq] at h
          exact .item (hindex ▸ hvalue) (h ▸ hitem)
    | null | bool | int | float | str => cases h
  · intro h
    cases h with
    | member hlookup => simp only [hlookup]
    | item hindex hitem =>
      have hdigit := isDigit_of_decimalValue? hindex
      simp [hdigit, raiseIf, intOfDigits, hindex, hitem, bind, Except.bind, pure, Except.pure]

/-- What raises what. -/
theorem resolvePointerSegment_error {current : Json} {rawSegment : List Char} {e : PyError}
    (h : resolvePointerSegment repr pointer current rawSegment = .error e) :
    (∃ message, e = .schemaValidationConfigurationError message) ∨
      ∃ items, current = .arr items ∧ IsBadIndex (unescapeSegment rawSegment) := by
  unfold resolvePointerSegment at h
  cases current with
  | obj fields =>
    cases hlookup : fields.lookup (unescapeSegment rawSegment) with
    | none =>
      simp only [hlookup, schemaError, Except.error.injEq] at h
      exact .inl ⟨_, h.symm⟩
    | some found => simp [hlookup] at h
  | arr items =>
    rcases bind_eq_error.mp h with hdigit | ⟨_, hdigit, h⟩
    · exact .inl ⟨_, (raiseIf_eq_error.mp hdigit).2.symm⟩
    · rw [raiseIf_eq_ok, Bool.not_eq_false] at hdigit
      cases hvalue : decimalValue? (unescapeSegment rawSegment) with
      | none => exact .inr ⟨items, rfl, hdigit, hvalue⟩
      | some index =>
        simp only [intOfDigits, hvalue, bind, Except.bind] at h
        cases hitem : items[index]? with
        | none =>
          simp only [hitem, schemaError, Except.error.injEq] at h
          exact .inl ⟨_, h.symm⟩
        | some item => simp [hitem, pure, Except.pure] at h
  | null | bool | int | float | str => exact .inl ⟨_, (Except.error.inj h).symm⟩

/-- A bad index raises a `ValueError`. -/
theorem resolvePointerSegment_badIndex (repr : Json → String) (pointer : String)
    (items : List Json) {rawSegment : List Char}
    (h : IsBadIndex (unescapeSegment rawSegment)) :
    ∃ message, resolvePointerSegment repr pointer (.arr items) rawSegment =
      .error (.valueError message) := by
  simp only [resolvePointerSegment, h.1, intOfDigits, h.2]
  exact ⟨_, rfl⟩

/-- A path is resolved to the target that it leads to. -/
theorem foldlM_resolvePointerSegment_eq_ok {current value : Json} {path : List (List Char)} :
    path.foldlM (resolvePointerSegment repr pointer) current = .ok value ↔
      Descends current (path.map unescapeSegment) value := by
  induction path generalizing current with
  | nil =>
    constructor
    · intro h
      cases h
      exact .nil _
    · intro h
      cases h
      rfl
  | cons raw rest ih =>
    rw [List.foldlM_cons, bind_eq_ok, List.map_cons]
    constructor
    · rintro ⟨child, hchild, hrest⟩
      exact .cons (resolvePointerSegment_eq_ok.mp hchild) (ih.mp hrest)
    · intro h
      cases h with
      | cons hchild hrest => exact ⟨_, resolvePointerSegment_eq_ok.mpr hchild, ih.mpr hrest⟩

/-- A pointer is walked along its segments. -/
theorem resolveJsonPointer_of_segments (repr : Json → String) {path : List Char}
    (h : pointer.toList = '#' :: '/' :: path) (document : Json) :
    resolveJsonPointer repr document pointer =
        (path.splitOn '/').foldlM (resolvePointerSegment repr pointer) document ∧
      pointerSegments? pointer = some ((path.splitOn '/').map unescapeSegment) := by
  simp only [resolveJsonPointer, pointerSegments?, h, and_self]

/-- A pointer that is not local is refused. -/
theorem resolveJsonPointer_of_not_local (repr : Json → String)
    (h : ∀ path, pointer.toList ≠ '#' :: '/' :: path)
    (document : Json) :
    (∃ message, resolveJsonPointer repr document pointer =
        .error (.schemaValidationConfigurationError message)) ∧
      pointerSegments? pointer = none := by
  constructor
  · unfold resolveJsonPointer
    split
    · rename_i path hpath
      exact absurd hpath (h path)
    · exact ⟨_, rfl⟩
  · unfold pointerSegments?
    split
    · rename_i path hpath
      exact absurd hpath (h path)
    · rfl

/-- A pointer resolves to what it points to. -/
theorem resolveJsonPointer_eq_ok {document target : Json} :
    resolveJsonPointer repr document pointer = .ok target ↔ PointsTo document pointer target := by
  by_cases hlocal : ∃ path, pointer.toList = '#' :: '/' :: path
  · obtain ⟨path, hpath⟩ := hlocal
    obtain ⟨hwalk, hsegments⟩ := resolveJsonPointer_of_segments repr hpath document
    rw [hwalk, foldlM_resolvePointerSegment_eq_ok, PointsTo, hsegments]
    simp
  · obtain ⟨⟨message, herror⟩, hsegments⟩ :=
      resolveJsonPointer_of_not_local repr (not_exists.mp hlocal) document
    rw [herror, PointsTo, hsegments]
    simp

/-! ## What a pointer raises -/

/-- A segment of a pointer is a bad index of the array that the segments before it lead to. -/
def MeetsBadIndex (document : Json) (pointer : String) : Prop :=
  ∃ before bad after items, pointerSegments? pointer = some (before ++ bad :: after) ∧
    Descends document before (.arr items) ∧ IsBadIndex bad

/-- A path fails with a configuration error, or at a bad index. -/
theorem foldlM_resolvePointerSegment_error {current : Json} {path : List (List Char)}
    {e : PyError} (h : path.foldlM (resolvePointerSegment repr pointer) current = .error e) :
    (∃ message, e = .schemaValidationConfigurationError message) ∨
      ∃ before bad after items, path.map unescapeSegment = before ++ bad :: after ∧
        Descends current before (.arr items) ∧ IsBadIndex bad := by
  induction path generalizing current with
  | nil => cases h
  | cons raw rest ih =>
    rw [List.foldlM_cons] at h
    rcases bind_eq_error.mp h with hraw | ⟨child, hchild, hrest⟩
    · refine (resolvePointerSegment_error hraw).imp_right ?_
      rintro ⟨items, rfl, hbad⟩
      exact ⟨[], _, rest.map unescapeSegment, items, rfl, .nil _, hbad⟩
    · refine (ih hrest).imp_right ?_
      rintro ⟨before, bad, after, items, hpath, hdescends, hbad⟩
      refine ⟨unescapeSegment raw :: before, bad, after, items, ?_,
        .cons (resolvePointerSegment_eq_ok.mp hchild) hdescends, hbad⟩
      rw [List.map_cons, hpath]
      rfl

/-- A pointer raises an error of its own, or it meets a bad index. -/
theorem resolveJsonPointer_error {document : Json} {e : PyError}
    (h : resolveJsonPointer repr document pointer = .error e) :
    (∃ message, e = .schemaValidationConfigurationError message) ∨
      MeetsBadIndex document pointer := by
  by_cases hlocal : ∃ path, pointer.toList = '#' :: '/' :: path
  · obtain ⟨path, hpath⟩ := hlocal
    obtain ⟨hwalk, hsegments⟩ := resolveJsonPointer_of_segments repr hpath document
    rw [hwalk] at h
    refine (foldlM_resolvePointerSegment_error h).imp_right ?_
    rintro ⟨before, bad, after, items, heq, hdescends, hbad⟩
    exact ⟨before, bad, after, items, heq ▸ hsegments, hdescends, hbad⟩
  · obtain ⟨⟨message, herror⟩, -⟩ :=
      resolveJsonPointer_of_not_local repr (not_exists.mp hlocal) document
    rw [herror] at h
    exact .inl ⟨message, (Except.error.inj h).symm⟩

/-- A bad index raises a `ValueError`. -/
theorem resolveJsonPointer_of_badIndex (repr : Json → String) {document : Json}
    (h : MeetsBadIndex document pointer) :
    ∃ message, resolveJsonPointer repr document pointer = .error (.valueError message) := by
  obtain ⟨before, bad, after, items, hsegments, hdescends, hbad⟩ := h
  by_cases hlocal : ∃ path, pointer.toList = '#' :: '/' :: path
  · obtain ⟨path, hpath⟩ := hlocal
    obtain ⟨hwalk, hsome⟩ := resolveJsonPointer_of_segments repr hpath document
    obtain ⟨rawBefore, rawRest, hsplit, rfl, hrest⟩ :=
      List.map_eq_append_iff.mp (Option.some.inj (hsome.symm.trans hsegments))
    obtain ⟨rawBad, rawAfter, rfl, rfl, rfl⟩ := List.map_eq_cons_iff.mp hrest
    obtain ⟨message, herror⟩ := resolvePointerSegment_badIndex repr pointer items hbad
    refine ⟨message, ?_⟩
    rw [hwalk, hsplit, List.foldlM_append, foldlM_resolvePointerSegment_eq_ok.mpr hdescends]
    change (rawBad :: rawAfter).foldlM (resolvePointerSegment repr pointer) (.arr items) = _
    rw [List.foldlM_cons, herror]
    rfl
  · obtain ⟨-, hnone⟩ :=
      resolveJsonPointer_of_not_local repr (not_exists.mp hlocal) document
    rw [hnone] at hsegments
    cases hsegments

/-- A pointer raises nothing but its own error exactly if it meets no bad index. -/
theorem raisesOnly_resolveJsonPointer_iff {document : Json} :
    RaisesOnly (fun e => ∃ message, e = .schemaValidationConfigurationError message)
        (resolveJsonPointer repr document pointer) ↔ ¬MeetsBadIndex document pointer := by
  constructor
  · intro h hbad
    obtain ⟨message, herror⟩ := resolveJsonPointer_of_badIndex repr hbad
    obtain ⟨_, heq⟩ := h _ herror
    cases heq
  · exact fun h e herror => (resolveJsonPointer_error herror).resolve_right h

end Resolution

/-! ## Pointers of ASCII characters -/

/-- Unescaping adds no character but the replacement. -/
theorem replaceEscape_chars (digit replacement : Char) (cs : List Char) :
    (∀ c ∈ replaceEscape digit replacement cs, c = replacement ∨ c ∈ cs) ∧
      (replaceEscape digit replacement cs).length ≤ cs.length := by
  induction cs using replaceEscape.induct digit with
  | case1 => simp [replaceEscape]
  | case2 c => simp [replaceEscape]
  | case3 c d rest hescape ih =>
    rw [replaceEscape, if_pos hescape]
    simp only [List.mem_cons, List.length_cons]
    refine ⟨?_, by omega⟩
    rintro x (rfl | hx)
    · exact .inl rfl
    · exact (ih.1 x hx).imp_right fun h => .inr (.inr h)
  | case4 c d rest hplain ih =>
    rw [replaceEscape, if_neg hplain]
    simp only [List.mem_cons, List.length_cons] at ih ⊢
    refine ⟨?_, by omega⟩
    rintro x (rfl | hx)
    · exact .inr (.inl rfl)
    · exact (ih.1 x hx).imp_right .inr

/-- An ASCII digit has a decimal value. -/
theorem isSome_decimalDigit?_of_ascii {c : Char} (hascii : c.toNat < 128)
    (h : isDigitChar c = true) : (decimalDigit? c).isSome = true := by
  rw [isDigitChar, Bool.or_eq_true] at h
  refine h.resolve_right fun hother => ?_
  obtain ⟨range, hrange, hmem⟩ := List.any_eq_true.mp hother
  have hlow : ∀ range ∈ otherDigits, 128 ≤ range.1 := by decide
  have := hlow range hrange
  simp only [Bool.and_eq_true, decide_eq_true_eq] at hmem
  omega

/-- A short ASCII pointer meets no bad index. -/
theorem not_meetsBadIndex_of_ascii {document : Json} {pointer : String}
    (hascii : ∀ c ∈ pointer.toList, c.toNat < 128) (hlength : pointer.toList.length < 4300) :
    ¬MeetsBadIndex document pointer := by
  rintro ⟨before, bad, after, items, hsegments, -, hdigit, hnone⟩
  obtain ⟨path, hpath, hmap⟩ := pointerSegments?_eq_some hsegments
  have hbad : bad ∈ (path.splitOn '/').map unescapeSegment := by
    rw [hmap]
    simp
  obtain ⟨raw, hraw, rfl⟩ := List.mem_map.mp hbad
  -- a segment is made of characters of the pointer
  have hjoin : (path.splitOn '/').flatten = path.filter (· ≠ '/') := List.flatten_splitOn
  have hparts : (path.splitOn '/').flatten.Sublist path := hjoin ▸ List.filter_sublist
  have hsublist : raw.Sublist path := (List.sublist_flatten_of_mem hraw).trans hparts
  obtain ⟨hchars, hshort⟩ := replaceEscape_chars '1' '/' raw
  obtain ⟨hchars', hshort'⟩ := replaceEscape_chars '0' '~'
    (replaceEscape '1' '/' raw)
  have hlist : (unescapeSegment raw).toList = replaceEscape '0' '~' (replaceEscape '1' '/' raw) :=
    String.toList_ofList
  have hclear : ∀ c ∈ (unescapeSegment raw).toList, c.toNat < 128 := by
    intro c hc
    rw [hlist] at hc
    rcases hchars' c hc with rfl | hc
    · decide
    · rcases hchars c hc with rfl | hc
      · decide
      · refine hascii c ?_
        rw [hpath]
        exact List.mem_cons_of_mem _ (List.mem_cons_of_mem _ (hsublist.subset hc))
  have hbound : (unescapeSegment raw).toList.length ≤ 4300 := by
    have hraw := hsublist.length_le
    rw [hpath, List.length_cons, List.length_cons] at hlength
    rw [hlist]
    omega
  simp only [isDigit, Bool.and_eq_true, Bool.not_eq_true', List.isEmpty_eq_false_iff,
    List.all_eq_true] at hdigit
  have hsome := decimalValue?_isSome_iff.mpr ⟨isDecimal_iff.mpr ⟨hdigit.1, fun c hc =>
    isSome_decimalDigit?_of_ascii (hclear c hc) (hdigit.2 c hc)⟩, hbound⟩
  rw [hnone] at hsome
  cases hsome

/-! ## Pointers of paths -/

/-- A character of a key in a pointer. -/
def escapePointerChar (c : Char) : List Char :=
  if c = '~' then ['~', '0'] else if c = '/' then ['~', '1'] else [c]

/-- A key in a pointer. -/
def escapePointerSegment (key : List Char) : List Char := key.flatMap escapePointerChar

/-- The text of a part of a path. -/
def PathPart.text : PathPart → List Char
  | .key name => name.toList
  | .index n => Nat.toDigits 10 n

/-- The pointer of a path of keys and indexes. -/
def pointerTo (path : List PathPart) : String :=
  String.ofList ('#' :: path.flatMap fun part => '/' :: escapePointerSegment part.text)

/-- The value at a path of keys and indexes. -/
def Json.at? : Json → List PathPart → Option Json
  | value, [] => some value
  | .obj fields, .key name :: rest => (fields.lookup name).bind fun child => child.at? rest
  | .arr items, .index n :: rest => items[n]?.bind fun child => child.at? rest
  | _, _ => none

/-- A character that is no tilde is kept. -/
theorem replaceEscape_cons_of_ne {digit replacement c : Char} (hc : c ≠ '~') (rest : List Char) :
    replaceEscape digit replacement (c :: rest) = c :: replaceEscape digit replacement rest := by
  cases rest with
  | nil => rfl
  | cons d rest => rw [replaceEscape, if_neg fun h => hc h.1]

/-- Taking back `~1` leaves the tildes escaped. -/
theorem replaceEscape_slash (key : List Char) :
    replaceEscape '1' '/' (escapePointerSegment key) =
      key.flatMap fun c => if c = '~' then ['~', '0'] else [c] := by
  induction key with
  | nil => rfl
  | cons c rest ih =>
    rw [escapePointerSegment, List.flatMap_cons, List.flatMap_cons, ← escapePointerSegment, ← ih]
    by_cases htilde : c = '~'
    · subst htilde
      exact congrArg ('~' :: ·) (replaceEscape_cons_of_ne (by decide) _)
    · by_cases hslash : c = '/'
      · subst hslash
        rfl
      · rw [escapePointerChar, if_neg htilde, if_neg hslash, if_neg htilde]
        exact replaceEscape_cons_of_ne htilde _

/-- A key comes back from its text in a pointer. -/
theorem unescapeSegment_escapePointerSegment (key : List Char) :
    unescapeSegment (escapePointerSegment key) = String.ofList key := by
  rw [unescapeSegment, replaceEscape_slash]
  congr 1
  induction key with
  | nil => rfl
  | cons c rest ih =>
    rw [List.flatMap_cons]
    by_cases htilde : c = '~'
    · subst htilde
      exact congrArg ('~' :: ·) ih
    · rw [if_neg htilde]
      exact (replaceEscape_cons_of_ne htilde _).trans (congrArg (c :: ·) ih)

/-- An escaped segment has no slash. -/
theorem slash_notMem_escapePointerSegment (key : List Char) :
    '/' ∉ escapePointerSegment key := by
  intro h
  obtain ⟨c, -, hc⟩ := List.mem_flatMap.mp h
  unfold escapePointerChar at hc
  split at hc
  · revert hc
    decide
  · split at hc
    · revert hc
      decide
    · rename_i hslash
      exact hslash (List.mem_singleton.mp hc).symm

/-- The segments of the pointer of a path are the texts of its parts. -/
theorem pointerSegments?_pointerTo {path : List PathPart} (hne : path ≠ []) :
    pointerSegments? (pointerTo path) = some (path.map fun part => String.ofList part.text) := by
  have hjoin : ∀ path : List PathPart, path ≠ [] →
      path.flatMap (fun part => '/' :: escapePointerSegment part.text) =
        '/' :: List.intercalate ['/'] (path.map fun part => escapePointerSegment part.text) := by
    intro path hne
    induction path with
    | nil => exact absurd rfl hne
    | cons part rest ih =>
      cases rest with
      | nil => simp
      | cons next rest =>
        rw [List.flatMap_cons, ih (List.cons_ne_nil _ _)]
        simp [List.intercalate]
  have hpointer : (pointerTo path).toList = '#' :: '/' ::
      List.intercalate ['/'] (path.map fun part => escapePointerSegment part.text) := by
    rw [pointerTo, String.toList_ofList, hjoin path hne]
  simp only [pointerSegments?, hpointer]
  rw [List.splitOn_intercalate '/' (by
    intro segment hsegment
    obtain ⟨part, -, rfl⟩ := List.mem_map.mp hsegment
    exact slash_notMem_escapePointerSegment part.text) (by simpa using hne)]
  simp [unescapeSegment_escapePointerSegment, Function.comp_def]

/-- The digits of a number are a decimal number unless they are too many. -/
theorem decimalValue?_toDigits (n : Nat) :
    decimalValue? (String.ofList (Nat.toDigits 10 n)) =
      if (Nat.toDigits 10 n).length ≤ 4300 then some n else none := by
  have hdigit : ∀ c ∈ Nat.toDigits 10 n, decimalDigit? c = some (c.toNat - '0'.toNat) := by
    intro c hc
    have hrange : 48 ≤ c.toNat ∧ c.toNat ≤ 57 := by
      have hdigit := Nat.isDigit_of_mem_toDigits (by decide) (by decide) hc
      simp only [Char.isDigit, Bool.and_eq_true, decide_eq_true_eq] at hdigit
      exact hdigit
    unfold decimalDigit? decimalZeros
    rw [List.find?_cons_of_pos (by simp; omega)]
    rfl
  have hdigits : (Nat.toDigits 10 n).mapM decimalDigit? =
      some ((Nat.toDigits 10 n).map fun c => c.toNat - '0'.toNat) := by
    rw [List.mapM_eq_some_iff_forall₂, List.forall₂_map_right_iff, List.forall₂_same]
    exact hdigit
  have hvalue : ((Nat.toDigits 10 n).map fun c => c.toNat - '0'.toNat).foldl
      (fun n digit => 10 * n + digit) 0 = n := by
    rw [List.foldl_map]
    exact Nat.ofDigitChars_ten_toDigits
  unfold decimalValue?
  rw [String.toList_ofList, hdigits]
  simp only [Option.bind_eq_bind, Option.bind_some, List.length_map, hvalue, ne_eq,
    List.map_eq_nil_iff, Nat.toDigits_ne_nil, not_false_eq_true, true_and]

/-- An index whose text is too long for `int`. -/
def PathPart.IsLong : PathPart → Prop
  | .key _ => False
  | .index n => 4300 < (Nat.toDigits 10 n).length

/-- The pointer of a path descends to the value at it, unless an index is too long. -/
theorem descends_text {document value : Json} {path : List PathPart}
    (hvalue : document.at? path = some value) :
    Descends document (path.map fun part => String.ofList part.text) value ↔
      ∀ part ∈ path, ¬part.IsLong := by
  induction path generalizing document with
  | nil =>
    obtain rfl := Option.some.inj (hvalue : some document = some value)
    simpa using Descends.nil document
  | cons part rest ih =>
    rw [List.map_cons, List.forall_mem_cons]
    cases document with
    | obj fields =>
      cases part with
      | index n => cases hvalue
      | key name =>
        obtain ⟨child, hchild, hrest⟩ := Option.bind_eq_some_iff.mp hvalue
        rw [← ih hrest]
        have hname : String.ofList (PathPart.key name).text = name := String.ofList_toList
        constructor
        · intro h
          cases h with
          | cons hmember hrest' =>
            cases hmember with
            | member hlookup =>
              rw [hname, hchild] at hlookup
              exact ⟨id, Option.some.inj hlookup ▸ hrest'⟩
        · exact fun h => .cons (.member (hname.symm ▸ hchild)) h.2
    | arr items =>
      cases part with
      | key name => cases hvalue
      | index n =>
        obtain ⟨child, hchild, hrest⟩ := Option.bind_eq_some_iff.mp hvalue
        rw [← ih hrest]
        have hindex := decimalValue?_toDigits n
        constructor
        · intro h
          cases h with
          | cons hitem hrest' =>
            cases hitem with
            | item hsegment hlookup =>
              rw [PathPart.text, hindex] at hsegment
              split_ifs at hsegment with hshort
              obtain rfl := Option.some.inj hsegment
              rw [hchild] at hlookup
              exact ⟨Nat.not_lt.mpr hshort, Option.some.inj hlookup ▸ hrest'⟩
        · rintro ⟨hshort, hrest'⟩
          rw [if_pos (Nat.not_lt.mp hshort)] at hindex
          exact .cons (.item hindex hchild) hrest'
    | null | bool | int | float | str => cases part <;> cases hvalue

/-- The pointer of a path resolves to the value at it, unless an index is too long. -/
theorem resolveJsonPointer_pointerTo_iff {repr : Json → String} {document value : Json}
    {path : List PathPart} (hne : path ≠ []) (hvalue : document.at? path = some value) :
    resolveJsonPointer repr document (pointerTo path) = .ok value ↔
      ∀ part ∈ path, ¬part.IsLong := by
  rw [resolveJsonPointer_eq_ok, PointsTo, pointerSegments?_pointerTo hne]
  simp only [Option.some.injEq, exists_eq_left', descends_text hvalue]

end Conformance
