import Mathlib.Data.List.Induction
import Mathlib.Data.List.Pairwise
import Mathlib.Data.List.Perm.Basic
import Mathlib.Data.Set.Function
import Mathlib.Logic.Relation

/-!
# Connected components, one element at a time

Elements arrive in a list and are put into groups: an element joins all the groups that hold
an element it is linked to, and starts one of its own when there is none. The groups are the
connected components of the links among the elements (`isComponents_foldl`).
-/

namespace List

variable {α : Type*}

/-- Two elements of the list are connected by links among its elements. -/
def Connected (linked : α → α → Bool) (l : List α) : α → α → Prop :=
  Relation.ReflTransGen fun a b => a ∈ l ∧ b ∈ l ∧ linked a b = true

/-- The elements of the list that are connected to `a`. -/
def component (linked : α → α → Bool) (l : List α) (a : α) : Set α :=
  {b | b ∈ l ∧ Connected linked l a b}

/-- The connected components of the list. -/
def components (linked : α → α → Bool) (l : List α) : Set (Set α) :=
  {c | ∃ a ∈ l, c = component linked l a}

/-- One more element: the groups it is linked to become one with it. -/
def addToGroups (linked : α → α → Bool) (groups : List (List α)) (a : α) : List (List α) :=
  groups.filter (fun group => !group.any fun b => linked b a) ++
    [a :: (groups.filter fun group => group.any fun b => linked b a).flatten]

/-- No element of one group is linked to one of the other. -/
def Separate (linked : α → α → Bool) (group group' : List α) : Prop :=
  ∀ a ∈ group, ∀ b ∈ group', linked a b = false

/-- The groups are the components of the list. -/
structure IsComponents (linked : α → α → Bool) (l : List α) (groups : List (List α)) : Prop where
  perm : groups.flatten.Perm l
  ne_nil : ∀ group ∈ groups, group ≠ []
  connected : ∀ group ∈ groups, ∀ a ∈ group, ∀ b ∈ group, Connected linked l a b
  closed : groups.Pairwise (Separate linked)

section Components

variable {linked : α → α → Bool} {l l' : List α} {groups : List (List α)} {a b : α}

/-! ## Connections -/

theorem Connected.mono (hsubset : l ⊆ l') (h : Connected linked l a b) :
    Connected linked l' a b :=
  h.lift id fun _ _ hlink => ⟨hsubset hlink.1, hsubset hlink.2.1, hlink.2.2⟩

theorem Connected.of_linked (ha : a ∈ l) (hb : b ∈ l) (h : linked a b = true) :
    Connected linked l a b := Relation.ReflTransGen.single ⟨ha, hb, h⟩

/-- The component depends on the members only. -/
theorem component_congr (hmem : ∀ x, x ∈ l ↔ x ∈ l') (a : α) :
    component linked l a = component linked l' a := by
  ext b
  simp only [component, Set.mem_ofPred_eq, hmem]
  refine and_congr_right fun _ => ?_
  exact ⟨Connected.mono fun x hx => (hmem x).mp hx, Connected.mono fun x hx => (hmem x).mpr hx⟩

/-- The components depend on which elements there are only. -/
theorem components_congr (hmem : ∀ x, x ∈ l ↔ x ∈ l') :
    components linked l = components linked l' := by
  ext c
  simp only [components, Set.mem_ofPred_eq, hmem, component_congr hmem]

/-! ## Adding an element -/

theorem separate_symm (hsymm : ∀ a b, linked a b = linked b a) : Std.Symm (Separate linked) :=
  ⟨fun _ _ h b hb a ha => hsymm b a ▸ h a ha b hb⟩

theorem isComponents_nil : IsComponents linked ([] : List α) [] :=
  ⟨.refl _, fun _ h => absurd h not_mem_nil, fun _ h => absurd h not_mem_nil, .nil⟩

theorem IsComponents.subset (h : IsComponents linked l groups) {group : List α}
    (hgroup : group ∈ groups) (ha : a ∈ group) : a ∈ l :=
  h.perm.subset (mem_flatten_of_mem hgroup ha)

/-- One more element, when links go both ways. -/
theorem IsComponents.addToGroups (h : IsComponents linked l groups)
    (hsymm : ∀ a b, linked a b = linked b a) (a : α) :
    IsComponents linked (l ++ [a]) (addToGroups linked groups a) := by
  have := separate_symm hsymm
  have hsub : l ⊆ l ++ [a] := subset_append_left _ _
  have hlast : a ∈ l ++ [a] := by simp
  -- an element of a group the new one joins is connected to it, through the link of the group
  have hjoined : ∀ group ∈ groups.filter (fun group => group.any fun b => linked b a),
      ∀ b ∈ group, Connected linked (l ++ [a]) b a ∧ Connected linked (l ++ [a]) a b := by
    intro group hgroup b hb
    obtain ⟨hgroup, hany⟩ := mem_filter.mp hgroup
    obtain ⟨x, hx, hlink⟩ := any_eq_true.mp hany
    have hxl : x ∈ l ++ [a] := hsub (h.subset hgroup hx)
    have hto : Connected linked (l ++ [a]) b x := (h.connected group hgroup b hb x hx).mono hsub
    have hfrom : Connected linked (l ++ [a]) x b := (h.connected group hgroup x hx b hb).mono hsub
    exact ⟨hto.trans (Connected.of_linked hxl hlast hlink),
      (Connected.of_linked hlast hxl (hsymm a x ▸ hlink)).trans hfrom⟩
  have hcentre : ∀ b ∈ a :: (groups.filter fun group => group.any fun b => linked b a).flatten,
      Connected linked (l ++ [a]) b a ∧ Connected linked (l ++ [a]) a b := by
    intro b hb
    rcases mem_cons.mp hb with rfl | hb
    · exact ⟨.refl, .refl⟩
    · obtain ⟨group, hgroup, hb⟩ := mem_flatten.mp hb
      exact hjoined group hgroup b hb
  refine ⟨?_, ?_, ?_, ?_⟩
  · rw [List.addToGroups, flatten_append, flatten_singleton]
    have hsplit : ((groups.filter fun group => !group.any fun b => linked b a).flatten ++
        (groups.filter fun group => group.any fun b => linked b a).flatten).Perm l := by
      rw [← flatten_append]
      refine Perm.trans (Perm.flatten ?_) h.perm
      exact perm_append_comm.trans (filter_append_perm _ groups)
    exact perm_middle.trans ((hsplit.cons a).trans (perm_append_singleton a l).symm)
  · intro group hgroup
    rcases mem_append.mp hgroup with hgroup | hgroup
    · exact h.ne_nil group (mem_filter.mp hgroup).1
    · rw [mem_singleton.mp hgroup]
      exact cons_ne_nil _ _
  · intro group hgroup b hb c hc
    rcases mem_append.mp hgroup with hgroup | hgroup
    · exact (h.connected group (mem_filter.mp hgroup).1 b hb c hc).mono hsub
    · rw [mem_singleton.mp hgroup] at hb hc
      exact (hcentre b hb).1.trans (hcentre c hc).2
  · rw [List.addToGroups, pairwise_append]
    refine ⟨h.closed.filter _, pairwise_singleton _ _, ?_⟩
    intro group hgroup joined hjoined b hb c hc
    rw [mem_singleton.mp hjoined] at hc
    obtain ⟨hgroup, hapart⟩ := mem_filter.mp hgroup
    rw [Bool.not_eq_true', any_eq_false] at hapart
    rcases mem_cons.mp hc with rfl | hc
    · simpa using hapart b hb
    · obtain ⟨other, hother, hc⟩ := mem_flatten.mp hc
      obtain ⟨hother, hany⟩ := mem_filter.mp hother
      have hne : group ≠ other := by
        rintro rfl
        obtain ⟨x, hx, hlink⟩ := any_eq_true.mp hany
        exact hapart x hx hlink
      exact h.closed.forall hgroup hother hne b hb c hc

/-- The groups the elements of a list are put into are its components. -/
theorem isComponents_foldl (hsymm : ∀ a b, linked a b = linked b a) (l : List α) :
    IsComponents linked l (l.foldl (addToGroups linked) []) := by
  induction l using List.reverseRecOn with
  | nil => exact isComponents_nil
  | append_singleton l a ih =>
    rw [foldl_append]
    exact ih.addToGroups hsymm a

/-! ## Groups and components -/

/-- Nothing outside a group is linked to it, so connections stay in the group. -/
theorem IsComponents.mem_of_connected (h : IsComponents linked l groups)
    (hsymm : ∀ a b, linked a b = linked b a) {group : List α} (hgroup : group ∈ groups)
    (ha : a ∈ group) (hconnected : Connected linked l a b) : b ∈ group := by
  have := separate_symm hsymm
  induction hconnected with
  | refl => exact ha
  | tail _ hlink ih =>
    obtain ⟨-, hmem, hlink⟩ := hlink
    obtain ⟨other, hother, hmem⟩ := mem_flatten.mp (h.perm.symm.subset hmem)
    by_cases hne : group = other
    · exact hne ▸ hmem
    · rw [h.closed.forall hgroup hother hne _ ih _ hmem] at hlink
      cases hlink

/-- A group is the component of each of its elements. -/
theorem IsComponents.component_eq (h : IsComponents linked l groups)
    (hsymm : ∀ a b, linked a b = linked b a) {group : List α} (hgroup : group ∈ groups)
    (ha : a ∈ group) : component linked l a = {b | b ∈ group} := by
  ext b
  constructor
  · rintro ⟨-, hconnected⟩
    exact h.mem_of_connected hsymm hgroup ha hconnected
  · intro hb
    exact ⟨h.subset hgroup hb, h.connected group hgroup a ha b hb⟩

/-- Different places in the list of groups hold different components, when every element is
    linked to itself. -/
theorem IsComponents.nodup (h : IsComponents linked l groups)
    (hrefl : ∀ a ∈ l, linked a a = true) : groups.Pairwise fun g g' => {a | a ∈ g} ≠ {a | a ∈ g'} := by
  refine h.closed.imp_of_mem fun {group group'} hgroup _ hseparate heq => ?_
  obtain ⟨a, ha⟩ := exists_mem_of_ne_nil _ (h.ne_nil group hgroup)
  have ha' : a ∈ group' := by
    have hmem : a ∈ {a | a ∈ group'} := heq ▸ ha
    exact hmem
  have hself := hseparate a ha a ha'
  rw [hrefl a (h.subset hgroup ha)] at hself
  cases hself

/-- The groups are the components, each of them once. -/
theorem IsComponents.components_eq (h : IsComponents linked l groups)
    (hsymm : ∀ a b, linked a b = linked b a) :
    components linked l = {c | ∃ group ∈ groups, c = {a | a ∈ group}} := by
  ext c
  constructor
  · rintro ⟨a, ha, rfl⟩
    obtain ⟨group, hgroup, ha⟩ := mem_flatten.mp (h.perm.symm.subset ha)
    exact ⟨group, hgroup, h.component_eq hsymm hgroup ha⟩
  · rintro ⟨group, hgroup, rfl⟩
    obtain ⟨a, ha⟩ := exists_mem_of_ne_nil _ (h.ne_nil group hgroup)
    exact ⟨a, h.subset hgroup ha, (h.component_eq hsymm hgroup ha).symm⟩

end Components

end List
