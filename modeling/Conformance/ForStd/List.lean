import Mathlib.Data.List.Forall2
import Mathlib.Data.List.Nodup

/-!
# Lists

Facts about `flatMap`, comparing two expansions of one list and when an expansion
repeats no element, and about lists related element by element.
-/

namespace List

variable {α β : Type*}

/-! ## Quantifiers over a list -/

-- decided along the list, also where the type has a decision of its own for all its elements
instance (priority := high) decidableForallMem {p : α → Prop} [DecidablePred p] (l : List α) :
    Decidable (∀ a ∈ l, p a) := decidableBAll p l

instance (priority := high) decidableExistsMem {p : α → Prop} [DecidablePred p] (l : List α) :
    Decidable (∃ a ∈ l, p a) := decidableBEx p l

/-! ## Expansions -/

/-- When one expansion is element by element the other or longer than it, so is it on
    the whole list. -/
theorem flatMap_eq_or_length_lt {f g : α → List β} {l : List α}
    (h : ∀ a ∈ l, f a = g a ∨ (g a).length < (f a).length) :
    l.flatMap f = l.flatMap g ∨ (l.flatMap g).length < (l.flatMap f).length := by
  induction l with
  | nil => exact .inl rfl
  | cons a rest ih =>
    simp only [flatMap_cons, length_append]
    rcases h a mem_cons_self with ha | ha
    · rcases ih fun b hb => h b (mem_cons_of_mem _ hb) with hrest | hrest
      · exact .inl (by rw [ha, hrest])
      · exact .inr (by rw [ha]; omega)
    · rcases ih fun b hb => h b (mem_cons_of_mem _ hb) with hrest | hrest
      · exact .inr (by rw [hrest]; omega)
      · exact .inr (by omega)

/-- A `flatMap` is no longer when each part is the same or shorter. -/
private theorem length_flatMap_le {f g : α → List β} {l : List α}
    (h : ∀ a ∈ l, f a = g a ∨ (g a).length < (f a).length) :
    (l.flatMap g).length ≤ (l.flatMap f).length := by
  rcases flatMap_eq_or_length_lt h with heq | hlt
  · exact Nat.le_of_eq (by rw [heq])
  · exact Nat.le_of_lt hlt

/-- Two such expansions agree exactly when they agree on every element. -/
theorem flatMap_eq_flatMap_iff {f g : α → List β} {l : List α}
    (h : ∀ a ∈ l, f a = g a ∨ (g a).length < (f a).length) :
    l.flatMap f = l.flatMap g ↔ ∀ a ∈ l, f a = g a := by
  constructor
  · intro heq a ha
    by_contra hne
    obtain ⟨l₁, l₂, rfl⟩ := append_of_mem ha
    have hlen := congrArg length heq
    simp only [flatMap_append, flatMap_cons, length_append] at hlen
    have hlt : (g a).length < (f a).length := (h a ha).resolve_left hne
    have h₁ : (l₁.flatMap g).length ≤ (l₁.flatMap f).length :=
      length_flatMap_le fun b hb => h b (mem_append_left _ hb)
    have h₂ : (l₂.flatMap g).length ≤ (l₂.flatMap f).length :=
      length_flatMap_le fun b hb => h b (mem_append_right _ (mem_cons_of_mem _ hb))
    omega
  · intro hall
    exact flatMap_congr hall

/-- What follows the first element that fails the test is not looked at. -/
theorem takeWhile_append_of_exists {p : α → Bool} {u v : List α} (h : ∃ a ∈ u, p a = false) :
    (u ++ v).takeWhile p = u.takeWhile p := by
  induction u with
  | nil => simp at h
  | cons b u ih =>
    rw [cons_append, takeWhile_cons, takeWhile_cons]
    cases hb : p b with
    | false => rfl
    | true =>
      have hu : ∃ a ∈ u, p a = false := by
        obtain ⟨a, ha, hfalse⟩ := h
        rcases mem_cons.mp ha with rfl | ha
        · exact absurd hfalse (by simp [hb])
        · exact ⟨a, ha, hfalse⟩
      simp [ih hu]

/-- An expansion into disjoint lists repeats nothing when the list does not. -/
theorem nodup_flatMap_of_disjoint {f : α → List β} {l : List α} (hl : l.Nodup)
    (hnodup : ∀ a ∈ l, (f a).Nodup)
    (hdisjoint : ∀ a ∈ l, ∀ b ∈ l, a ≠ b → Disjoint (f a) (f b)) : (l.flatMap f).Nodup :=
  nodup_flatMap.mpr ⟨hnodup, hl.pairwise_of_forall_ne hdisjoint⟩

/-- An expansion that leaves out no element repeats something when the list does. -/
theorem nodup_of_nodup_flatMap {f : α → List β} {l : List α} (h : (l.flatMap f).Nodup)
    (hne : ∀ a ∈ l, f a ≠ []) : l.Nodup := by
  refine (nodup_flatMap.mp h).2.imp_of_mem ?_
  rintro a b ha - hdisjoint rfl
  obtain ⟨x, hx⟩ := exists_mem_of_ne_nil _ (hne a ha)
  exact hdisjoint hx hx

/-- An element may be replaced by one that is related to whatever the old one is. -/
theorem Forall₂.set {R : α → β → Prop} {l : List α} {l' : List β} (h : Forall₂ R l l') {i : Nat}
    {y y' : β} (hy : l'[i]? = some y) (hR : ∀ x, R x y → R x y') : Forall₂ R l (l'.set i y') := by
  induction h generalizing i with
  | nil => cases hy
  | cons hab hrest ih =>
    cases i with
    | zero =>
      obtain rfl := Option.some.inj hy
      exact .cons (hR _ hab) hrest
    | succ i => exact .cons hab (ih hy)

/-- Choosing a partner for every element. -/
theorem exists_forall₂_of_forall {R : α → β → Prop} {l : List α} (h : ∀ a ∈ l, ∃ b, R a b) :
    ∃ ys, Forall₂ R l ys := by
  induction l with
  | nil => exact ⟨[], .nil⟩
  | cons a rest ih =>
    rw [forall_mem_cons] at h
    obtain ⟨b, hb⟩ := h.1
    obtain ⟨ys, hys⟩ := ih h.2
    exact ⟨b :: ys, .cons hb hys⟩

/-! ## Splitting -/

section Splitting

variable [BEq α] [LawfulBEq α] {separator : α} {l part : List α}

/-- The separator is in none of the parts. -/
theorem notMem_of_mem_splitOn (h : part ∈ l.splitOn separator) : separator ∉ part := by
  induction l generalizing part with
  | nil =>
    rw [splitOn_nil, mem_singleton] at h
    simp [h]
  | cons a rest ih =>
    rw [splitOn_cons_eq_if_modifyHead] at h
    by_cases ha : a = separator
    · rw [if_pos (by simp [ha]), mem_cons] at h
      rcases h with rfl | h
      · simp
      · exact ih h
    · rw [if_neg (by simp [ha])] at h
      cases hsplit : rest.splitOn separator with
      | nil => exact absurd hsplit (splitOn_ne_nil _ _)
      | cons head tail =>
        rw [hsplit, modifyHead_cons, mem_cons] at h
        rcases h with rfl | h
        · have hhead := ih (hsplit ▸ mem_cons_self)
          simp [Ne.symm ha, hhead]
        · exact ih (hsplit ▸ mem_cons_of_mem _ h)

/-- The parts hold everything but the separators. -/
theorem flatten_splitOn [DecidableEq α] :
    (l.splitOn separator).flatten = l.filter (· ≠ separator) := by
  induction l with
  | nil => rfl
  | cons a rest ih =>
    rw [splitOn_cons_eq_if_modifyHead]
    by_cases ha : a = separator
    · simp [ha, ih]
    · rw [if_neg (by simp [ha])]
      cases hsplit : rest.splitOn separator with
      | nil => exact absurd hsplit (splitOn_ne_nil _ _)
      | cons head tail =>
        rw [hsplit] at ih
        simp only [modifyHead_cons, flatten_cons, cons_append] at ih ⊢
        rw [ih, filter_cons_of_pos (by simp [ha])]

/-- Filtering that keeps the separators filters the parts. -/
theorem splitOn_filter {p : α → Bool} (hp : p separator = true) :
    (l.filter p).splitOn separator = (l.splitOn separator).map (filter p) := by
  induction l with
  | nil => rfl
  | cons a rest ih =>
    by_cases ha : a = separator
    · subst ha
      rw [filter_cons_of_pos hp, splitOn_cons_eq_if_modifyHead, splitOn_cons_eq_if_modifyHead,
        if_pos (by simp), if_pos (by simp), ih]
      rfl
    · rw [splitOn_cons_eq_if_modifyHead a rest, if_neg (by simp [ha])]
      cases hsplit : rest.splitOn separator with
      | nil => exact absurd hsplit (splitOn_ne_nil _ _)
      | cons head tail =>
        rw [hsplit, map_cons] at ih
        by_cases hkeep : p a = true
        · rw [filter_cons_of_pos hkeep, splitOn_cons_eq_if_modifyHead, if_neg (by simp [ha]), ih]
          simp [hkeep]
        · rw [filter_cons_of_neg hkeep, ih]
          simp [hkeep]

end Splitting

/-- A map to options that succeeds pairs every element with the value computed from it. -/
theorem mapM_eq_some_iff_forall₂ {β : Type} {f : α → Option β} {l : List α} {ys : List β} :
    l.mapM f = some ys ↔ Forall₂ (fun a y => f a = some y) l ys := by
  induction l generalizing ys with
  | nil => simp [eq_comm]
  | cons a rest ih =>
    rw [mapM_cons, forall₂_cons_left_iff]
    simp only [Option.bind_eq_bind, Option.bind_eq_some_iff, Option.pure_def, Option.some.injEq, ih]
    constructor
    · rintro ⟨y, hy, zs, hzs, rfl⟩
      exact ⟨y, zs, hy, hzs, rfl⟩
    · rintro ⟨y, zs, hy, hzs, rfl⟩
      exact ⟨y, hy, zs, hzs, rfl⟩

/-- Such a map succeeds exactly when every element has a value. -/
theorem mapM_isSome_iff {β : Type} {f : α → Option β} {l : List α} :
    (l.mapM f).isSome = true ↔ ∀ a ∈ l, (f a).isSome = true := by
  simp only [Option.isSome_iff_exists, mapM_eq_some_iff_forall₂]
  induction l with
  | nil => simp
  | cons a rest ih => simp [forall₂_cons_left_iff, ← ih]

end List
