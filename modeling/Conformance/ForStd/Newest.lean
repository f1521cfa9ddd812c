import Mathlib.Data.List.Sort

/-!
# The newest entries of a list

`newest key n l` keeps the `n` entries of `l` with the greatest keys, the earlier of two entries
with one key first: a stable sort in descending order, cut at `n`. Where one entry at most is
dropped, it is one with the least key.
-/

namespace List

variable {α κ : Type*} [LinearOrder κ] (key : α → κ)

/-- The `n` entries with the greatest keys; among equal keys, the earlier ones. -/
def newest (n : Nat) (l : List α) : List α :=
  (l.insertionSort fun a b => key b ≤ key a).take n

variable {key} {n : Nat} {l : List α}

instance total_newerFirst : Std.Total fun a b : α => key b ≤ key a :=
  ⟨fun a b => le_total (key b) (key a)⟩

instance isTrans_newerFirst : IsTrans α fun a b => key b ≤ key a :=
  ⟨fun _ _ _ hab hbc => hbc.trans hab⟩

theorem length_newest_le : (l.newest key n).length ≤ n := by
  rw [newest, length_take]
  exact Nat.min_le_left _ _

theorem mem_of_mem_newest {a : α} (h : a ∈ l.newest key n) : a ∈ l :=
  (mem_insertionSort _).mp (mem_of_mem_take h)

theorem nodup_map_newest {β : Type*} {f : α → β} (h : (l.map f).Nodup) :
    ((l.newest key n).map f).Nodup :=
  (((perm_insertionSort _ l).map f).nodup_iff.mpr h).sublist ((take_sublist n _).map f)

/-- Nothing is dropped from a list that is short enough. -/
theorem mem_newest_of_length_le (hlength : l.length ≤ n) {a : α} (h : a ∈ l) :
    a ∈ l.newest key n := by
  rw [newest, take_of_length_le (by rw [length_insertionSort]; exact hlength)]
  exact (mem_insertionSort _).mpr h

/-- An entry that is dropped, when it is the only one, has a least key. -/
theorem le_of_notMem_newest (hlength : l.length ≤ n + 1) {a : α} (h : a ∈ l)
    (hdropped : a ∉ l.newest key n) {b : α} (hb : b ∈ l) : key a ≤ key b := by
  have hsorted := pairwise_insertionSort (fun a b => key b ≤ key a) l
  rw [← take_append_drop n (l.insertionSort fun a b => key b ≤ key a)] at hsorted
  have hmem : ∀ c ∈ l, c ∈ l.newest key n ∨
      c ∈ (l.insertionSort fun a b => key b ≤ key a).drop n := by
    intro c hc
    rw [← mem_append, newest, take_append_drop]
    exact (mem_insertionSort _).mpr hc
  have hdrop := (hmem a h).resolve_left hdropped
  have hone : ((l.insertionSort fun a b => key b ≤ key a).drop n).length ≤ 1 := by
    rw [length_drop, length_insertionSort]
    omega
  rcases hmem b hb with hkept | hkept
  · exact (pairwise_append.mp hsorted).2.2 b hkept a hdrop
  · obtain ⟨c, hc⟩ := length_eq_one_iff.mp
      (le_antisymm hone (length_pos_of_mem hdrop))
    rw [hc, mem_singleton] at hdrop hkept
    rw [hdrop, hkept]

/-- An entry that is newer than another is not the one that is dropped. -/
theorem mem_newest_of_lt (hlength : l.length ≤ n + 1) {a b : α} (h : a ∈ l) (hb : b ∈ l)
    (hlt : key b < key a) : a ∈ l.newest key n := by
  by_contra hdropped
  exact absurd (le_of_notMem_newest hlength h hdropped hb) (not_le.mpr hlt)

/-- A list in descending order is cut where it stands. -/
theorem newest_of_pairwise (h : l.Pairwise fun a b => key b ≤ key a) :
    l.newest key n = l.take n := by
  rw [newest, h.insertionSort_eq]

end List
