import Mathlib.Data.List.Forall2
import Mathlib.Data.List.Nodup

/-!
# Insertion-ordered dictionaries

`Dict κ ν` is a finite map that iterates in insertion order: assigning to a key
that is present keeps its position, assigning to a new key appends. (`AList`
moves a reassigned key to the front, so its iteration order is a different one.)

The `nodup` field carries the invariant that no key occurs twice, so it is never
re-proved by a client. Every operation is characterised by what it does to
`get?`; the bridge to iteration is `mem_entries_iff`.
-/

universe u v

/-- A dictionary whose iteration order is its insertion order. -/
structure Dict (κ : Type u) (ν : Type v) where
  entries : List (κ × ν)
  nodup : (entries.map Prod.fst).Nodup
  deriving DecidableEq

namespace Dict

variable {κ : Type u} {ν : Type v}

/-- The empty dictionary. -/
def empty : Dict κ ν := ⟨[], List.nodup_nil⟩

/-- The keys, in insertion order. -/
def keys (d : Dict κ ν) : List κ := d.entries.map Prod.fst

/-- The values, in insertion order of their keys. -/
def values (d : Dict κ ν) : List ν := d.entries.map Prod.snd

/-- Number of entries. -/
def size (d : Dict κ ν) : Nat := d.entries.length

/-- Keep the entries that satisfy `p`. -/
def filter (d : Dict κ ν) (p : κ → ν → Bool) : Dict κ ν :=
  ⟨d.entries.filter fun e => p e.1 e.2, d.nodup.sublist (List.filter_sublist.map _)⟩

/-- Replace every value by `f` of it. -/
def mapValues {ν' : Type*} (d : Dict κ ν) (f : ν → ν') : Dict κ ν' :=
  ⟨d.entries.map fun e => (e.1, f e.2), by
    rw [List.map_map]
    exact d.nodup⟩

@[simp] theorem mapValues_empty {ν' : Type*} (f : ν → ν') :
    (empty : Dict κ ν).mapValues f = empty := rfl

@[simp] theorem keys_mapValues {ν' : Type*} (d : Dict κ ν) (f : ν → ν') :
    (d.mapValues f).keys = d.keys := by
  simp [keys, mapValues]

@[simp] theorem values_mapValues {ν' : Type*} (d : Dict κ ν) (f : ν → ν') :
    (d.mapValues f).values = d.values.map f := by
  simp [values, mapValues]

variable [DecidableEq κ]

/-- The value stored under `k`. -/
def get? (d : Dict κ ν) (k : κ) : Option ν := d.entries.lookup k

/-- Whether `k` has a value. -/
def contains (d : Dict κ ν) (k : κ) : Bool := (d.get? k).isSome

/-- Remove `k`. -/
def erase (d : Dict κ ν) (k : κ) : Dict κ ν := d.filter fun k' _ => k' ≠ k

/-- Replace the value of `k`, if it has one, by `f` of it. -/
def modify (d : Dict κ ν) (k : κ) (f : ν → ν) : Dict κ ν :=
  ⟨d.entries.map fun e => if e.1 = k then (e.1, f e.2) else e, by
    have hkeys : (d.entries.map fun e => if e.1 = k then (e.1, f e.2) else e).map Prod.fst =
        d.entries.map Prod.fst := by
      rw [List.map_map]
      apply List.map_congr_left
      intro e _
      simp only [Function.comp_apply]
      split <;> rfl
    rw [hkeys]
    exact d.nodup⟩

/-- Assign `v` to `k`: in place when `k` is present, at the end otherwise. -/
def set (d : Dict κ ν) (k : κ) (v : ν) : Dict κ ν :=
  if h : k ∈ d.keys then d.modify k fun _ => v
  else ⟨d.entries ++ [(k, v)], by
    rw [List.map_append, List.map_cons, List.map_nil, List.nodup_append]
    refine ⟨d.nodup, List.nodup_singleton _, ?_⟩
    intro a ha b hb hab
    rw [List.mem_singleton] at hb
    subst hab hb
    exact h ha⟩

/-! ## Lookup -/

/-- Iterating and looking up agree. -/
theorem mem_entries_iff {d : Dict κ ν} {k : κ} {v : ν} :
    (k, v) ∈ d.entries ↔ d.get? k = some v := by
  obtain ⟨es, hnd⟩ := d
  simp only [get?]
  induction es with
  | nil => simp
  | cons e es ih =>
    obtain ⟨k', v'⟩ := e
    simp only [List.map_cons, List.nodup_cons] at hnd
    rw [List.mem_cons, List.lookup_cons, ih hnd.2]
    by_cases hk : k = k'
    · subst hk
      simp only [Prod.mk.injEq, true_and, beq_self_eq_true, Option.some.injEq]
      constructor
      · rintro (rfl | hlook)
        · rfl
        · have hmem : (k, v) ∈ es := (ih hnd.2).mpr hlook
          exact absurd (List.mem_map_of_mem hmem) hnd.1
      · intro h
        exact .inl h.symm
    · have hne : (k == k') = false := beq_eq_false_iff_ne.mpr hk
      simp [hk, hne]

/-- A key is there exactly when it has a value. -/
theorem mem_keys_iff {d : Dict κ ν} {k : κ} : k ∈ d.keys ↔ ∃ v, d.get? k = some v := by
  simp only [keys, List.mem_map, ← mem_entries_iff]
  constructor
  · rintro ⟨⟨k', v⟩, hmem, rfl⟩
    exact ⟨v, hmem⟩
  · rintro ⟨v, hmem⟩
    exact ⟨(k, v), hmem, rfl⟩

theorem get?_eq_none_iff {d : Dict κ ν} {k : κ} : d.get? k = none ↔ k ∉ d.keys := by
  rw [mem_keys_iff]
  cases d.get? k <;> simp

theorem contains_iff {d : Dict κ ν} {k : κ} : d.contains k = true ↔ k ∈ d.keys := by
  rw [contains, Option.isSome_iff_exists, mem_keys_iff]

/-- A value is there exactly when some key has it. -/
theorem mem_values_iff {d : Dict κ ν} {v : ν} : v ∈ d.values ↔ ∃ k, d.get? k = some v := by
  simp only [values, List.mem_map, ← mem_entries_iff]
  constructor
  · rintro ⟨⟨k, v'⟩, hmem, rfl⟩
    exact ⟨k, hmem⟩
  · rintro ⟨k, hmem⟩
    exact ⟨(k, v), hmem, rfl⟩

@[simp] theorem get?_empty (k : κ) : (empty : Dict κ ν).get? k = none := rfl

/-- A filtered dictionary has the values that satisfy the test. -/
@[simp] theorem get?_filter (d : Dict κ ν) (p : κ → ν → Bool) (k : κ) :
    (d.filter p).get? k = (d.get? k).filter (p k) := by
  apply Option.ext
  intro v
  rw [← mem_entries_iff]
  simp [filter, mem_entries_iff, Option.filter_eq_some_iff]

/-- An erased key has no value, and the others keep theirs. -/
@[simp] theorem get?_erase (d : Dict κ ν) (k k' : κ) :
    (d.erase k).get? k' = if k' = k then none else d.get? k' := by
  rw [erase, get?_filter]
  by_cases h : k' = k
  · cases hget : d.get? k' <;> simp [h, Option.filter]
  · cases hget : d.get? k' <;> simp [h, Option.filter]

/-- A modified key has the changed value, and the others keep theirs. -/
@[simp] theorem get?_modify (d : Dict κ ν) (k k' : κ) (f : ν → ν) :
    (d.modify k f).get? k' = if k' = k then (d.get? k').map f else d.get? k' := by
  apply Option.ext
  intro v
  rw [← mem_entries_iff]
  simp only [modify, List.mem_map, Prod.exists]
  constructor
  · rintro ⟨a, w, hmem, he⟩
    rw [mem_entries_iff] at hmem
    split at he
    · obtain ⟨rfl, rfl⟩ := Prod.mk.inj he
      simp_all
    · obtain ⟨rfl, rfl⟩ := Prod.mk.inj he
      simp_all
  · intro h
    split at h
    · rename_i hk
      obtain ⟨w, hw, rfl⟩ := Option.map_eq_some_iff.mp h
      exact ⟨k', w, mem_entries_iff.mpr hw, by simp [hk]⟩
    · rename_i hk
      exact ⟨k', v, mem_entries_iff.mpr h, by simp [hk]⟩

/-- A key that is set has the new value, and the others keep theirs. -/
@[simp] theorem get?_set (d : Dict κ ν) (k k' : κ) (v : ν) :
    (d.set k v).get? k' = if k' = k then some v else d.get? k' := by
  unfold set
  split
  · rename_i hk
    obtain ⟨w, hw⟩ := mem_keys_iff.mp hk
    rw [get?_modify]
    by_cases h : k' = k
    · simp [h, hw]
    · simp [h]
  · rename_i hk
    rw [← get?_eq_none_iff] at hk
    simp only [get?] at hk ⊢
    rw [List.lookup_append, List.lookup_cons, List.lookup_nil]
    by_cases h : k' = k
    · simp [h, hk]
    · have hne : (k' == k) = false := beq_eq_false_iff_ne.mpr h
      simp [h, hne]

/-- An assignment adds its key. -/
theorem mem_keys_set {d : Dict κ ν} {k k' : κ} {v : ν} :
    k' ∈ (d.set k v).keys ↔ k' ∈ d.keys ∨ k' = k := by
  rw [mem_keys_iff, mem_keys_iff, get?_set]
  by_cases h : k' = k <;> simp [h]

/-- Assignments leave the other keys alone. -/
theorem get?_foldl_set_of_notMem {α : Type*} {key : α → κ} (val : α → ν) {l : List α} {k : κ}
    (hk : k ∉ l.map key) (d : Dict κ ν) :
    (l.foldl (fun d a => d.set (key a) (val a)) d).get? k = d.get? k := by
  induction l generalizing d with
  | nil => rfl
  | cons a rest ih =>
    rw [List.map_cons, List.mem_cons, not_or] at hk
    rw [List.foldl_cons, ih hk.2, get?_set, if_neg hk.1]

/-- Assignments under distinct keys can all be looked up again. -/
theorem get?_foldl_set_of_mem {α : Type*} {key : α → κ} (val : α → ν) {l : List α}
    (hnodup : (l.map key).Nodup) {a : α} (ha : a ∈ l) (d : Dict κ ν) :
    (l.foldl (fun d a => d.set (key a) (val a)) d).get? (key a) = some (val a) := by
  induction l generalizing d with
  | nil => exact absurd ha List.not_mem_nil
  | cons b rest ih =>
    rw [List.map_cons, List.nodup_cons] at hnodup
    rw [List.foldl_cons]
    rcases List.mem_cons.mp ha with rfl | ha
    · rw [get?_foldl_set_of_notMem val hnodup.1, get?_set, if_pos rfl]
    · exact ih hnodup.2 ha _

/-! ## Iteration order -/

@[simp] theorem keys_modify (d : Dict κ ν) (k : κ) (f : ν → ν) : (d.modify k f).keys = d.keys := by
  simp only [keys, modify, List.map_map]
  apply List.map_congr_left
  intro e _
  simp only [Function.comp_apply]
  split <;> rfl

/-- A key without a value is appended. -/
theorem entries_set_of_notMem {d : Dict κ ν} {k : κ} (v : ν) (h : k ∉ d.keys) :
    (d.set k v).entries = d.entries ++ [(k, v)] := by
  simp [set, h]

/-- A key with a value keeps its place. -/
theorem keys_set_of_mem {d : Dict κ ν} {k : κ} (v : ν) (h : k ∈ d.keys) :
    (d.set k v).keys = d.keys := by
  simp [set, h]

omit [DecidableEq κ] in
theorem keys_nodup (d : Dict κ ν) : d.keys.Nodup := d.nodup

/-- Two dictionaries with the same keys in the same order have pairwise related values
    when the values under each key are related. -/
theorem forall₂_values {ν' : Type*} {R : ν → ν' → Prop} {d : Dict κ ν} {d' : Dict κ ν'}
    (hkeys : d.keys = d'.keys)
    (hrel : ∀ k v v', d.get? k = some v → d'.get? k = some v' → R v v') :
    List.Forall₂ R d.values d'.values := by
  have hsame : List.Forall₂ (fun e e' => e.1 = e'.1) d.entries d'.entries := by
    have hmap : List.Forall₂ (· = ·) (d.entries.map Prod.fst) (d'.entries.map Prod.fst) := by
      rw [List.forall₂_eq_eq_eq]
      exact hkeys
    rw [List.forall₂_map_left_iff, List.forall₂_map_right_iff] at hmap
    exact hmap
  rw [values, values, List.forall₂_map_left_iff, List.forall₂_map_right_iff,
    List.forall₂_iff_zip]
  refine ⟨hsame.length_eq, fun {e e'} hmem => ?_⟩
  obtain ⟨he, he'⟩ := List.of_mem_zip hmem
  have hkey : e.1 = e'.1 := List.forall₂_zip hsame hmem
  exact hrel e.1 e.2 e'.2 (mem_entries_iff.mp he) (hkey ▸ mem_entries_iff.mp he')

/-- Assigning under one key changes the key order of two dictionaries alike. -/
theorem keys_set_congr {ν' : Type*} {d : Dict κ ν} {d' : Dict κ ν'} (hkeys : d.keys = d'.keys)
    (k : κ) (v : ν) (v' : ν') : (d.set k v).keys = (d'.set k v').keys := by
  by_cases hk : k ∈ d.keys
  · rw [keys_set_of_mem v hk, keys_set_of_mem v' (hkeys ▸ hk), hkeys]
  · have hk' : k ∉ d'.keys := hkeys ▸ hk
    simp only [keys] at hkeys
    simp [keys, entries_set_of_notMem _ hk, entries_set_of_notMem _ hk', hkeys]

/-- Selecting entries by value is selecting keys by what they look up to. -/
theorem map_fst_filter_entries (d : Dict κ ν) (p : ν → Bool) :
    (d.entries.filter fun e => p e.2).map Prod.fst = d.keys.filter fun k => (d.get? k).any p := by
  rw [keys, List.filter_map]
  congr 1
  apply List.filter_congr
  intro e he
  have hget : d.get? e.1 = some e.2 := mem_entries_iff.mp he
  simp [hget]

/-! ## Erasing several keys -/

/-- Erased keys have no value, and the others keep theirs. -/
theorem get?_foldl_erase (ks : List κ) (d : Dict κ ν) (k : κ) :
    (ks.foldl erase d).get? k = if k ∈ ks then none else d.get? k := by
  induction ks generalizing d with
  | nil => simp
  | cons k' ks ih =>
    rw [List.foldl_cons, ih, get?_erase]
    by_cases hks : k ∈ ks <;> by_cases hk : k = k' <;> simp [hks, hk]

theorem keys_erase (d : Dict κ ν) (k : κ) : (d.erase k).keys = d.keys.filter fun k' => k' ≠ k := by
  simp only [erase, filter, keys, List.filter_map]
  rfl

/-- Erasing keys takes them from the keys. -/
theorem keys_foldl_erase (ks : List κ) (d : Dict κ ν) :
    (ks.foldl erase d).keys = d.keys.filter fun k => k ∉ ks := by
  induction ks generalizing d with
  | nil => simp
  | cons k' ks ih =>
    rw [List.foldl_cons, ih, keys_erase, List.filter_filter]
    apply List.filter_congr
    intro k _
    by_cases hks : k ∈ ks <;> by_cases hk : k = k' <;> simp [hks, hk]

/-! ## Dictionaries of lists -/

/-- Replacing the list under one key by a longer one adds the new element to the
    concatenation of all lists. -/
private theorem flatten_modify_perm {l : List (κ × List ν)} {k : κ} {xs : List ν} (x : ν)
    (hnodup : (l.map Prod.fst).Nodup) (hxs : l.lookup k = some xs) :
    ((l.map fun e => if e.1 = k then (e.1, xs ++ [x]) else e).map Prod.snd).flatten.Perm
      ((l.map Prod.snd).flatten ++ [x]) := by
  induction l with
  | nil => exact nomatch hxs
  | cons e rest ih =>
    obtain ⟨k', ys⟩ := e
    rw [List.map_cons, List.nodup_cons] at hnodup
    by_cases hk : k' = k
    -- Keys are distinct, so the tail stays as it is.
    · have hrest : (rest.map fun e => if e.1 = k then (e.1, xs ++ [x]) else e) = rest := by
        nth_rewrite 2 [← List.map_id rest]
        apply List.map_congr_left
        intro e' he'
        have hne : e'.1 ≠ k := fun h => hnodup.1 (List.mem_map.mpr ⟨e', he', h.trans hk.symm⟩)
        simp [hne]
      have hys : ys = xs := by simpa [List.lookup_cons, hk] using hxs
      rw [List.map_cons, if_pos hk, hrest]
      simp only [List.map_cons, List.flatten_cons, hys, List.append_assoc]
      exact List.Perm.append_left xs (List.perm_append_comm)
    · have hne : (k == k') = false := beq_eq_false_iff_ne.mpr (Ne.symm hk)
      have hlookup : rest.lookup k = some xs := by simpa [List.lookup_cons, hne] using hxs
      rw [List.map_cons, if_neg hk]
      simp only [List.map_cons, List.flatten_cons, List.append_assoc]
      exact List.Perm.append_left ys (ih hnodup.2 hlookup)

/-- Appending to the list under a key, or starting one, adds the new element to the
    concatenation of all lists. -/
theorem flatten_values_set_snoc (d : Dict κ (List ν)) (k : κ) (x : ν) :
    (d.set k ((d.get? k).getD [] ++ [x])).values.flatten.Perm (d.values.flatten ++ [x]) := by
  by_cases hk : k ∈ d.keys
  · obtain ⟨xs, hxs⟩ := mem_keys_iff.mp hk
    have hset : (d.set k ((d.get? k).getD [] ++ [x])).entries =
        d.entries.map fun e => if e.1 = k then (e.1, xs ++ [x]) else e := by
      simp [set, hk, modify, hxs]
    rw [values, hset]
    exact flatten_modify_perm x d.nodup hxs
  · have hnone : d.get? k = none := get?_eq_none_iff.mpr hk
    rw [values, entries_set_of_notMem _ hk, hnone]
    simp [values]

/-! ## Mapping the values -/

/-- A key has the image of its value. -/
@[simp] theorem get?_mapValues {ν' : Type*} (d : Dict κ ν) (f : ν → ν') (k : κ) :
    (d.mapValues f).get? k = (d.get? k).map f := by
  apply Option.ext
  intro w
  rw [← mem_entries_iff, Option.map_eq_some_iff]
  simp only [mapValues, List.mem_map, Prod.mk.injEq, Prod.exists]
  constructor
  · rintro ⟨k', v, hmem, rfl, rfl⟩
    exact ⟨v, mem_entries_iff.mp hmem, rfl⟩
  · rintro ⟨v, hget, rfl⟩
    exact ⟨k, v, mem_entries_iff.mpr hget, rfl, rfl⟩

/-- Two maps that agree on the values give the same dictionary. -/
theorem mapValues_congr {ν' : Type*} {d : Dict κ ν} {f g : ν → ν'}
    (h : ∀ k v, d.get? k = some v → f v = g v) : d.mapValues f = d.mapValues g := by
  simp only [mapValues, mk.injEq]
  apply List.map_congr_left
  intro e he
  rw [h e.1 e.2 (mem_entries_iff.mp he)]

/-- Mapping and setting can be swapped. -/
theorem mapValues_set {ν' : Type*} (d : Dict κ ν) (f : ν → ν') (k : κ) (v : ν) :
    (d.set k v).mapValues f = (d.mapValues f).set k (f v) := by
  by_cases hk : k ∈ d.keys
  · have hk' : k ∈ (d.mapValues f).keys := by rwa [keys_mapValues]
    rw [set, set, dif_pos hk, dif_pos hk']
    simp only [mapValues, modify, List.map_map, mk.injEq]
    apply List.map_congr_left
    intro e _
    simp only [Function.comp_apply]
    split <;> rfl
  · have hk' : k ∉ (d.mapValues f).keys := by rwa [keys_mapValues]
    rw [set, set, dif_neg hk, dif_neg hk']
    simp [mapValues]

theorem mapValues_erase {ν' : Type*} (d : Dict κ ν) (f : ν → ν') (k : κ) :
    (d.erase k).mapValues f = (d.mapValues f).erase k := by
  simp [erase, filter, mapValues, List.filter_map, Function.comp_def]

/-- Assignments under distinct new keys are appended in their order. -/
theorem entries_foldl_set_append {α : Type*} {key : α → κ} {val : α → ν} {l : List α}
    (d : Dict κ ν) (hnodup : (d.keys ++ l.map key).Nodup) :
    (l.foldl (fun d a => d.set (key a) (val a)) d).entries =
      d.entries ++ l.map fun a => (key a, val a) := by
  induction l generalizing d with
  | nil => simp
  | cons a rest ih =>
    have hnew : key a ∉ d.keys := fun hmem => List.disjoint_of_nodup_append hnodup hmem (by simp)
    have hkeys : (d.set (key a) (val a)).keys = d.keys ++ [key a] := by
      rw [keys, entries_set_of_notMem _ hnew, List.map_append]
      rfl
    rw [List.foldl_cons, ih, entries_set_of_notMem _ hnew]
    · simp
    · rw [hkeys]
      simpa using hnodup

/-- Assignments under distinct keys are the entries, in their order. -/
theorem entries_foldl_set {α : Type*} {key : α → κ} {val : α → ν} {l : List α}
    (hnodup : (l.map key).Nodup) :
    (l.foldl (fun d a => d.set (key a) (val a)) (empty : Dict κ ν)).entries =
      l.map fun a => (key a, val a) :=
  entries_foldl_set_append empty (by simpa [empty, keys] using hnodup)

/-- Assigning the mapped entries one after the other maps the values. -/
theorem foldl_set_entries {ν' : Type*} (d : Dict κ ν) (f : ν → ν') :
    d.entries.foldl (fun d e => d.set e.1 (f e.2)) empty = d.mapValues f := by
  have hentries := @entries_foldl_set κ ν' _ (κ × ν) Prod.fst (fun e => f e.2) d.entries d.nodup
  cases hfold : d.entries.foldl (fun d e => d.set e.1 (f e.2)) (empty : Dict κ ν') with
  | mk entries nodup =>
    rw [hfold] at hentries
    simpa [mapValues] using hentries

/-- Assigning the entries one after the other gives the dictionary back. -/
theorem foldl_set_self (d : Dict κ ν) :
    d.entries.foldl (fun d e => d.set e.1 e.2) empty = d := by
  refine (foldl_set_entries d id).trans ?_
  cases d
  simp [mapValues]

/-- A map that changes at one key only is an assignment to that key. -/
theorem mapValues_eq_set {ν' : Type*} {d : Dict κ ν} {f g : ν → ν'} {k : κ} {v : ν}
    (hget : d.get? k = some v) (h : ∀ k' v', d.get? k' = some v' → k' ≠ k → g v' = f v') :
    d.mapValues g = (d.mapValues f).set k (g v) := by
  have hk : k ∈ (d.mapValues f).keys := by
    rw [keys_mapValues]
    exact mem_keys_iff.mpr ⟨v, hget⟩
  rw [set, dif_pos hk]
  simp only [modify, mapValues, List.map_map, mk.injEq]
  apply List.map_congr_left
  rintro ⟨k', v'⟩ he
  have hget' := mem_entries_iff.mp he
  simp only [Function.comp_apply]
  split
  · rename_i hkey
    obtain rfl : k' = k := hkey
    rw [hget, Option.some.injEq] at hget'
    rw [hget']
  · rename_i hkey
    rw [h k' v' hget' hkey]

end Dict
