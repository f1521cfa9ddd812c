import Conformance.Native.DcrConfiguration

/-!
# Texts of paths

A path that was read keeps its text: its parts come back from `str(path)`. No path is longer than
the text it was read from, so a text with white space around it is the text of another path.

## Key results

- `canonical_ofText`: what a path that was read looks like
- `ofText_text`: the round trip
- `strip_text_of_ofText`: a path that is read from its stripped text
-/

namespace Conformance

/-! ## White space -/

/-- A text that white space surrounds is longer than what is between. -/
theorem strip_eq_of_length_le {text : String} (h : text.length ≤ (strip text).length) :
    strip text = text := by
  unfold strip at h ⊢
  rw [String.length_ofList, ← String.length_toList] at h
  have hprefix := List.rdropWhile_prefix isSpace (text.toList.dropWhile isSpace)
  have hsuffix := List.dropWhile_suffix (l := text.toList) isSpace
  have hinner := hprefix.eq_of_length_le (hsuffix.length_le.trans h)
  have houter := hsuffix.eq_of_length_le (h.trans hprefix.length_le)
  rw [hinner, houter, String.ofList_toList]

namespace PosixPath

/-! ## Parts -/

/-- Joining fewer parts is no longer. -/
theorem length_intercalate_le {sep : List Char} {kept parts : List (List Char)}
    (h : kept.Sublist parts) :
    (sep.intercalate kept).length ≤ (sep.intercalate parts).length := by
  induction h with
  | slnil => exact le_rfl
  | @cons kept parts part hsub ih =>
    cases parts with
    | nil => simp [List.sublist_nil.mp hsub]
    | cons next rest =>
      rw [List.intercalate_cons_cons, List.length_append, List.length_append]
      omega
  | @cons_cons kept parts part hsub ih =>
    cases parts with
    | nil => simp [List.sublist_nil.mp hsub]
    | cons next rest =>
      cases kept with
      | nil =>
        rw [List.intercalate_cons_cons, List.intercalate_singleton, List.length_append,
          List.length_append]
        omega
      | cons first others =>
        rw [List.intercalate_cons_cons, List.intercalate_cons_cons, List.length_append,
          List.length_append, List.length_append, List.length_append]
        omega

/-- A part of a path that was read. -/
def IsPart (part : List Char) : Prop := part ≠ [] ∧ part ≠ ['.'] ∧ '/' ∉ part

/-- What a path that was read looks like. -/
structure Canonical (path : PosixPath) : Prop where
  root : path.root = [] ∨ path.root = ['/'] ∨ path.root = ['/', '/']
  parts : ∀ part ∈ path.parts, IsPart part

/-- No part has a slash. -/
theorem notMem_of_mem_splitOn {text part : List Char} (h : part ∈ text.splitOn '/') :
    '/' ∉ part := by
  induction text generalizing part with
  | nil =>
    rw [List.splitOn_nil, List.mem_singleton] at h
    simp [h]
  | cons c rest ih =>
    rw [List.splitOn_cons_eq_if_modifyHead] at h
    split at h
    · rcases List.mem_cons.mp h with rfl | h
      · simp
      · exact ih h
    · rename_i hc
      cases hsplit : rest.splitOn '/' with
      | nil => exact absurd hsplit (List.splitOn_ne_nil _ _)
      | cons first others =>
        rw [hsplit, List.modifyHead_cons] at h
        rcases List.mem_cons.mp h with rfl | h
        · have hfirst : '/' ∉ first := ih (by simp [hsplit])
          simp only [List.mem_cons, not_or]
          exact ⟨fun heq => hc (by simp [← heq]), hfirst⟩
        · exact ih (by simp [hsplit, h])

/-- A root has two slashes at most. -/
theorem root_splitroot (text : List Char) :
    (splitroot text).1 = [] ∨ (splitroot text).1 = ['/'] ∨ (splitroot text).1 = ['/', '/'] := by
  unfold splitroot
  split <;> simp

/-- A path that is read is canonical. -/
theorem canonical_ofText (text : String) : Canonical (ofText text) where
  root := root_splitroot text.toList
  parts part hmem := by
    unfold ofText at hmem
    obtain ⟨hsplit, hpart⟩ := List.mem_filter.mp hmem
    have hpart : part ≠ [] ∧ part ≠ ['.'] := by simpa using hpart
    exact ⟨hpart.1, hpart.2, notMem_of_mem_splitOn hsplit⟩

/-- The text behind the root of a path does not begin with a slash. -/
theorem head_intercalate_ne {parts : List (List Char)} (h : ∀ part ∈ parts, IsPart part)
    {rest : List Char} : ['/'].intercalate parts ≠ '/' :: rest := by
  intro heq
  cases parts with
  | nil => cases heq
  | cons first others =>
    obtain ⟨hne, -, hslash⟩ := h first List.mem_cons_self
    obtain ⟨c, cs, rfl⟩ := List.exists_cons_of_ne_nil hne
    have hhead : (['/'].intercalate ((c :: cs) :: others)).head? = some c := by
      cases others with
      | nil => simp [List.intercalate_singleton]
      | cons next rest => simp [List.intercalate_cons_cons]
    rw [heq] at hhead
    exact hslash (Option.some.inj hhead ▸ List.mem_cons_self)

/-- A root is cut from what follows it. -/
theorem splitroot_append {root rest : List Char} (hroot : root = ['/'] ∨ root = ['/', '/'])
    (hrest : ∀ more, rest ≠ '/' :: more) : splitroot (root ++ rest) = (root, rest) := by
  rcases hroot with rfl | rfl
  · cases rest with
    | nil => rfl
    | cons c more =>
      have hc : c ≠ '/' := fun heq => hrest more (by rw [heq])
      simp [splitroot, hc]
  · cases rest with
    | nil => rfl
    | cons c more =>
      simp [splitroot]

/-- Parts that are joined are read back. -/
theorem filter_splitOn_intercalate {parts : List (List Char)} (h : ∀ part ∈ parts, IsPart part) :
    ((['/'].intercalate parts).splitOn '/').filter (fun part => part ≠ [] ∧ part ≠ ['.']) =
      parts := by
  cases parts with
  | nil => rfl
  | cons first others =>
    rw [List.splitOn_intercalate '/' (fun part hmem => (h part hmem).2.2) (List.cons_ne_nil _ _)]
    exact List.filter_eq_self.mpr fun part hmem =>
      decide_eq_true ⟨(h part hmem).1, (h part hmem).2.1⟩

/-- The text of an absolute path. -/
theorem text_of_absolute {path : PosixPath} (habsolute : path.isAbsolute = true) :
    path.text = String.ofList (path.root ++ ['/'].intercalate path.parts) := by
  unfold text
  rw [if_neg]
  rintro ⟨hroot, -⟩
  simp [isAbsolute, hroot] at habsolute

/-- A path comes back from its text. -/
theorem ofText_text {path : PosixPath} (h : Canonical path) (habsolute : path.isAbsolute = true) :
    ofText path.text = path := by
  have hroot : path.root = ['/'] ∨ path.root = ['/', '/'] :=
    h.root.resolve_left (of_decide_eq_true habsolute)
  rw [text_of_absolute habsolute, ofText, String.toList_ofList,
    splitroot_append hroot (fun more => head_intercalate_ne h.parts)]
  simp only [filter_splitOn_intercalate h.parts]

/-- No path is longer than the text it was read from. -/
theorem length_text_ofText_le {text : String} (habsolute : (ofText text).isAbsolute = true) :
    (ofText text).text.length ≤ text.length := by
  rw [text_of_absolute habsolute, String.length_ofList, ← String.length_toList]
  have hparts : (['/'].intercalate (ofText text).parts).length ≤
      (splitroot text.toList).2.length :=
    (length_intercalate_le List.filter_sublist).trans
      (le_of_eq (congrArg List.length (List.intercalate_splitOn '/')))
  have hsplit : (splitroot text.toList).1.length + (splitroot text.toList).2.length ≤
      text.toList.length := by
    unfold splitroot
    split <;> rename_i heq <;> simp only [heq, List.length_cons, List.length_nil] <;> omega
  rw [List.length_append]
  exact (Nat.add_le_add_left hparts _).trans hsplit

/-- A path that is read from its stripped text has no white space around its text. -/
theorem strip_text_of_ofText {path : PosixPath} (habsolute : path.isAbsolute = true)
    (h : ofText (strip path.text) = path) : strip path.text = path.text := by
  refine strip_eq_of_length_le ?_
  have hle : (ofText (strip path.text)).text.length ≤ (strip path.text).length :=
    length_text_ofText_le (by rw [h]; exact habsolute)
  rwa [h] at hle

end PosixPath

end Conformance
