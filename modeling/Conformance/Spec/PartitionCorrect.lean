import Conformance.Native.PlanDocument

/-!
# Partition of endpoint declarations

What `_partition_implemented_endpoints_by_catalogue` computes, stated for each
catalogue area and operation on the list of its declarations in document order:
the first declaration counts, later ones are skipped when an alias is involved
and rejected otherwise.

## Key results

- `placeEndpoints_ok_iff`: the partition returns exactly when every declaration
  has an owner and the declarations of every operation are acceptable
- `placeEndpoints_placed`: each area then holds the first declarations
-/

namespace Conformance

open Except

/-- The canonical products operation. -/
def productsRef : EndpointRef := ⟨.get, "/open-banking/v4.0/aisp/products"⟩

/-! ## Aliases -/

/-- An alias is a declaration of the legacy products path. -/
theorem isAlias_iff {raw : ImplementedEndpoint} :
    raw.IsAlias ↔ raw.method = .get ∧ raw.path = "/open-banking/v4.0/aisp/product" := by
  unfold ImplementedEndpoint.IsAlias canonicalImplementedEndpoint
  split
  · rename_i halias
    simp only [halias, ne_eq, and_self, iff_true]
    decide
  · rename_i halias
    simp [halias]

/-- A declaration that is not an alias is canonical. -/
theorem canonical_of_not_isAlias {raw : ImplementedEndpoint} (h : ¬ raw.IsAlias) :
    canonicalImplementedEndpoint raw = raw := by
  rw [isAlias_iff] at h
  exact if_neg h

/-- An alias declares the products operation, without capabilities. -/
theorem canonical_of_isAlias {raw : ImplementedEndpoint} (h : raw.IsAlias) :
    (canonicalImplementedEndpoint raw).ref = productsRef ∧
      (canonicalImplementedEndpoint raw).capabilityIds = [] := by
  rw [isAlias_iff] at h
  unfold canonicalImplementedEndpoint
  rw [if_pos h]
  exact ⟨by rw [h.1]; rfl, rfl⟩

/-- The canonical endpoint is canonical. -/
@[simp] theorem canonical_canonical (raw : ImplementedEndpoint) :
    canonicalImplementedEndpoint (canonicalImplementedEndpoint raw) =
      canonicalImplementedEndpoint raw := by
  by_cases halias : raw.IsAlias
  · refine canonical_of_not_isAlias ?_
    obtain ⟨href, -⟩ := canonical_of_isAlias halias
    rw [isAlias_iff]
    intro h
    have hpath := congrArg EndpointRef.path href
    rw [show (canonicalImplementedEndpoint raw).ref.path =
      (canonicalImplementedEndpoint raw).path from rfl, h.2] at hpath
    exact absurd hpath (by decide)
  · rw [canonical_of_not_isAlias halias, canonical_of_not_isAlias halias]

/-! ## Declarations of one operation -/

/-- The area a raw declaration belongs to. -/
def ownerOf (catalogues : List TestCatalogue) (raw : ImplementedEndpoint) : Except PyError Nat :=
  owningCatalogueIndex catalogues (canonicalImplementedEndpoint raw)

/-- The declarations of `ref` that belong to the area at `index`, in document order. -/
def declared (catalogues : List TestCatalogue) (endpoints : List ImplementedEndpoint)
    (index : Nat) (ref : EndpointRef) : List ImplementedEndpoint :=
  endpoints.filter fun raw =>
    ownerOf catalogues raw = .ok index ∧ (canonicalImplementedEndpoint raw).ref = ref

/-- The declarations of one operation are accepted when the first is an alias, or
    all others are. -/
def Acceptable : List ImplementedEndpoint → Prop
  | [] => True
  | first :: rest => first.IsAlias ∨ ∀ raw ∈ rest, raw.IsAlias

/-- What is acceptable was so before the last declaration. -/
theorem Acceptable.of_append {l : List ImplementedEndpoint} {raw : ImplementedEndpoint}
    (h : Acceptable (l ++ [raw])) : Acceptable l := by
  cases l with
  | nil => trivial
  | cons first rest =>
    exact h.imp id fun hall raw' hraw' => hall raw' (List.mem_append_left _ hraw')

/-- One more declaration is acceptable when it or the first is an alias. -/
theorem acceptable_append_iff {first raw : ImplementedEndpoint} {rest : List ImplementedEndpoint}
    (h : Acceptable (first :: rest)) :
    Acceptable (first :: rest ++ [raw]) ↔ raw.IsAlias ∨ first.IsAlias := by
  simp only [Acceptable, List.cons_append, List.mem_append, List.mem_singleton] at h ⊢
  constructor
  · rintro (hfirst | hall)
    · exact .inr hfirst
    · exact .inl (hall raw (.inr rfl))
  · rintro (hraw | hfirst)
    · rcases h with hfirst | hrest
      · exact .inl hfirst
      · refine .inr ?_
        rintro raw' (hraw' | rfl)
        · exact hrest raw' hraw'
        · exact hraw
    · exact .inl hfirst

/-- What one more endpoint declares. -/
theorem declared_append (catalogues : List TestCatalogue) (endpoints : List ImplementedEndpoint)
    (raw : ImplementedEndpoint) (index : Nat) (ref : EndpointRef) :
    declared catalogues (endpoints ++ [raw]) index ref =
      declared catalogues endpoints index ref ++
        if ownerOf catalogues raw = .ok index ∧ (canonicalImplementedEndpoint raw).ref = ref
        then [raw] else [] := by
  simp only [declared, List.filter_append, List.filter_cons, List.filter_nil, decide_eq_true_eq]

/-! ## The loop -/

/-- What the accumulators hold after the declarations `seen`. -/
structure Placed (catalogues : List TestCatalogue) (seen : List ImplementedEndpoint)
    (areas : Dict Nat Area) : Prop where
  isSome : ∀ index, (areas.get? index).isSome = true ↔
    ∃ raw ∈ seen, ownerOf catalogues raw = .ok index
  nodup : ∀ index, (implementedEndpointRefs (areaAt areas index).endpoints).Nodup
  mem : ∀ index endpoint, endpoint ∈ (areaAt areas index).endpoints ↔
    ∃ raw, (declared catalogues seen index endpoint.ref).head? = some raw ∧
      endpoint = canonicalImplementedEndpoint raw
  isAlias : ∀ index ref, ref ∈ (areaAt areas index).aliasRefs ↔
    ∃ raw, (declared catalogues seen index ref).head? = some raw ∧ raw.IsAlias

/-- An operation was seen in an area exactly when it was declared there. -/
theorem Placed.seen_iff {catalogues : List TestCatalogue} {seen : List ImplementedEndpoint}
    {areas : Dict Nat Area} (h : Placed catalogues seen areas) (index : Nat) (ref : EndpointRef) :
    (areaAt areas index).seen ref ↔ declared catalogues seen index ref ≠ [] := by
  simp only [Area.seen, List.mem_map]
  constructor
  · rintro ⟨endpoint, hmem, rfl⟩
    obtain ⟨raw, hhead, -⟩ := (h.mem index endpoint).mp hmem
    intro hnil
    rw [hnil] at hhead
    cases hhead
  · intro hne
    obtain ⟨raw, rest, hcons⟩ := List.exists_cons_of_ne_nil hne
    have hraw : raw ∈ declared catalogues seen index ref := by rw [hcons]; simp
    have href : (canonicalImplementedEndpoint raw).ref = ref := by
      simp only [declared, List.mem_filter, decide_eq_true_eq] at hraw
      exact hraw.2.2
    refine ⟨canonicalImplementedEndpoint raw, (h.mem index _).mpr ⟨raw, ?_, rfl⟩, href⟩
    rw [href, hcons]
    rfl

/-- An area with one more declaration. -/
def Area.push (area : Area) (raw : ImplementedEndpoint) : Area where
  endpoints := area.endpoints ++ [canonicalImplementedEndpoint raw]
  aliasRefs :=
    if raw.IsAlias then area.aliasRefs.insert (canonicalImplementedEndpoint raw).ref
    else area.aliasRefs

/-- The endpoints of an area after one more. -/
@[simp] theorem Area.mem_push_endpoints {area : Area} {raw endpoint : ImplementedEndpoint} :
    endpoint ∈ (area.push raw).endpoints ↔
      endpoint ∈ area.endpoints ∨ endpoint = canonicalImplementedEndpoint raw := by
  rw [push, List.mem_append, List.mem_singleton]

/-- The aliases of an area after one more endpoint. -/
@[simp] theorem Area.mem_push_aliasRefs {area : Area} {raw : ImplementedEndpoint}
    {ref : EndpointRef} :
    ref ∈ (area.push raw).aliasRefs ↔
      ref ∈ area.aliasRefs ∨ (raw.IsAlias ∧ ref = (canonicalImplementedEndpoint raw).ref) := by
  by_cases halias : raw.IsAlias
  · simp [push, halias, or_comm]
  · simp [push, halias]

/-- The two ways a declaration is accepted: it is skipped or appended. -/
theorem addToArea_eq_ok {catalogues : List TestCatalogue} {areas areas' : Dict Nat Area}
    {index : Nat} {raw : ImplementedEndpoint} :
    addToArea catalogues areas index raw = .ok areas' ↔
      ((areaAt areas index).seen (canonicalImplementedEndpoint raw).ref ∧
        (raw.IsAlias ∨
          (canonicalImplementedEndpoint raw).ref ∈ (areaAt areas index).aliasRefs) ∧
        areas' = areas) ∨
      (¬ (areaAt areas index).seen (canonicalImplementedEndpoint raw).ref ∧
        areas' = areas.set index ((areaAt areas index).push raw)) := by
  unfold addToArea Area.push
  dsimp only
  by_cases hseen : (areaAt areas index).seen (canonicalImplementedEndpoint raw).ref
  · by_cases halias : raw.IsAlias ∨
      (canonicalImplementedEndpoint raw).ref ∈ (areaAt areas index).aliasRefs
    · rw [if_pos ⟨hseen, halias⟩]
      simp only [Except.ok.injEq, hseen, halias, true_and, not_true_eq_false, false_and, or_false,
        eq_comm]
    · rw [if_neg (fun h => halias h.2), if_pos hseen]
      simp only [reduceCtorEq, hseen, halias, false_and, and_false, not_true_eq_false, or_false]
  · rw [if_neg (fun h => hseen h.1), if_neg hseen]
    simp only [Except.ok.injEq, hseen, false_and, not_false_eq_true, true_and, false_or, eq_comm]

/-- Setting an area changes that area only. -/
@[simp] theorem areaAt_set (areas : Dict Nat Area) (index index' : Nat) (area : Area) :
    areaAt (areas.set index area) index' = if index' = index then area else areaAt areas index' := by
  unfold areaAt
  rw [Dict.get?_set]
  split <;> rfl

section

variable {catalogues : List TestCatalogue} {seen : List ImplementedEndpoint}
  {areas areas' : Dict Nat Area} {index : Nat} {raw : ImplementedEndpoint}

/-- No endpoint is placed at first. -/
theorem Placed.init (catalogues : List TestCatalogue) : Placed catalogues [] .empty where
  isSome := by simp
  nodup := by simp [areaAt, implementedEndpointRefs]
  mem := by simp [areaAt, declared]
  isAlias := by simp [areaAt, declared]

/-- A declaration of an operation that has one already does not become the first. -/
private theorem Placed.skip (h : Placed catalogues seen areas)
    (howner : ownerOf catalogues raw = .ok index)
    (hseen : (areaAt areas index).seen (canonicalImplementedEndpoint raw).ref) :
    Placed catalogues (seen ++ [raw]) areas := by
  rw [h.seen_iff] at hseen
  -- the loop invariant looks at first declarations only
  have hhead : ∀ i r, (declared catalogues (seen ++ [raw]) i r).head? =
      (declared catalogues seen i r).head? := by
    intro i r
    rw [declared_append]
    split
    · rename_i hmatch
      obtain ⟨hi, rfl⟩ := hmatch
      rw [howner] at hi
      obtain rfl := Except.ok.inj hi
      obtain ⟨first, rest, hcons⟩ := List.exists_cons_of_ne_nil hseen
      rw [hcons]
      rfl
    · rw [List.append_nil]
  refine ⟨?_, h.nodup, ?_, ?_⟩
  · intro i
    rw [h.isSome]
    constructor
    · rintro ⟨raw', hmem, hraw'⟩
      exact ⟨raw', List.mem_append_left _ hmem, hraw'⟩
    · rintro ⟨raw', hmem, hraw'⟩
      rcases List.mem_append.mp hmem with hmem | hmem
      · exact ⟨raw', hmem, hraw'⟩
      · rw [List.mem_singleton.mp hmem, howner] at hraw'
        obtain ⟨first, hfirst⟩ := List.exists_mem_of_ne_nil _ hseen
        simp only [declared, List.mem_filter, decide_eq_true_eq] at hfirst
        exact ⟨first, hfirst.1, hfirst.2.1.trans hraw'⟩
  · intro i endpoint
    rw [hhead]
    exact h.mem i endpoint
  · intro i r
    rw [hhead]
    exact h.isAlias i r

/-- The first declaration of an operation is its only one so far. -/
private theorem Placed.declared_new (h : Placed catalogues seen areas)
    (howner : ownerOf catalogues raw = .ok index)
    (hnew : ¬ (areaAt areas index).seen (canonicalImplementedEndpoint raw).ref) :
    declared catalogues (seen ++ [raw]) index (canonicalImplementedEndpoint raw).ref = [raw] := by
  rw [h.seen_iff, not_not] at hnew
  rw [declared_append, hnew, if_pos ⟨howner, rfl⟩, List.nil_append]

/-- A declaration counts for its own operation in its own area only. -/
private theorem declared_append_of_ne (howner : ownerOf catalogues raw = .ok index) {i : Nat}
    {r : EndpointRef} (hne : ¬ (i = index ∧ r = (canonicalImplementedEndpoint raw).ref)) :
    declared catalogues (seen ++ [raw]) i r = declared catalogues seen i r := by
  rw [declared_append, if_neg, List.append_nil]
  rintro ⟨hi, rfl⟩
  rw [howner] at hi
  exact hne ⟨(Except.ok.inj hi).symm, rfl⟩

/-- The endpoints of the area after a declaration of a new operation. -/
private theorem Placed.append_mem (h : Placed catalogues seen areas)
    (howner : ownerOf catalogues raw = .ok index)
    (hnew : ¬ (areaAt areas index).seen (canonicalImplementedEndpoint raw).ref)
    (endpoint : ImplementedEndpoint) :
    endpoint ∈ ((areaAt areas index).push raw).endpoints ↔
      ∃ raw', (declared catalogues (seen ++ [raw]) index endpoint.ref).head? = some raw' ∧
        endpoint = canonicalImplementedEndpoint raw' := by
  rw [Area.mem_push_endpoints]
  by_cases href : endpoint.ref = (canonicalImplementedEndpoint raw).ref
  · rw [href, h.declared_new howner hnew]
    simp only [List.head?_cons, Option.some.injEq, exists_eq_left']
    constructor
    · rintro (hmem | heq)
      -- an endpoint that was there would make the operation a seen one
      · exact absurd (href ▸ List.mem_map_of_mem hmem) hnew
      · exact heq
    · exact .inr
  · rw [declared_append_of_ne howner (fun h => href h.2), ← h.mem]
    constructor
    · rintro (hmem | rfl)
      · exact hmem
      · exact absurd rfl href
    · exact .inl

/-- The alias operations of the area after a declaration of a new operation. -/
private theorem Placed.append_isAlias (h : Placed catalogues seen areas)
    (howner : ownerOf catalogues raw = .ok index)
    (hnew : ¬ (areaAt areas index).seen (canonicalImplementedEndpoint raw).ref) (r : EndpointRef) :
    r ∈ ((areaAt areas index).push raw).aliasRefs ↔
      ∃ raw', (declared catalogues (seen ++ [raw]) index r).head? = some raw' ∧ raw'.IsAlias := by
  rw [Area.mem_push_aliasRefs]
  by_cases hr : r = (canonicalImplementedEndpoint raw).ref
  · subst hr
    have hold : (canonicalImplementedEndpoint raw).ref ∉ (areaAt areas index).aliasRefs := by
      rw [h.seen_iff, not_not] at hnew
      rw [h.isAlias, hnew]
      rintro ⟨_, hhead, -⟩
      cases hhead
    rw [h.declared_new howner hnew]
    simp [hold]
  · rw [declared_append_of_ne howner (fun h => hr h.2), ← h.isAlias]
    simp [hr]

/-- A declaration of a new operation becomes the first one. -/
private theorem Placed.append (h : Placed catalogues seen areas)
    (howner : ownerOf catalogues raw = .ok index)
    (hnew : ¬ (areaAt areas index).seen (canonicalImplementedEndpoint raw).ref) :
    Placed catalogues (seen ++ [raw]) (areas.set index ((areaAt areas index).push raw)) := by
  refine ⟨?_, ?_, ?_, ?_⟩
  · intro i
    rw [Dict.get?_set]
    simp only [List.mem_append, List.mem_singleton, or_and_right, exists_or, exists_eq_left, howner,
      Except.ok.injEq, ← h.isSome i]
    by_cases hi : i = index
    · simp [hi]
    · simp [hi, Ne.symm hi]
  · intro i
    rw [areaAt_set]
    split
    · simp only [implementedEndpointRefs, Area.push, List.map_append, List.map_cons, List.map_nil]
      refine List.nodup_append.mpr ⟨h.nodup index, List.nodup_singleton _, ?_⟩
      intro a ha b hb hab
      rw [List.mem_singleton.mp hb] at hab
      exact hnew (hab ▸ ha)
    · exact h.nodup i
  · intro i endpoint
    rw [areaAt_set]
    by_cases hi : i = index
    · subst hi
      rw [if_pos rfl]
      exact h.append_mem howner hnew endpoint
    · rw [if_neg hi, declared_append_of_ne howner (fun h => hi h.1)]
      exact h.mem i endpoint
  · intro i r
    rw [areaAt_set]
    by_cases hi : i = index
    · subst hi
      rw [if_pos rfl]
      exact h.append_isAlias howner hnew r
    · rw [if_neg hi, declared_append_of_ne howner (fun h => hi h.1)]
      exact h.isAlias i r

/-- One round of the loop keeps the invariant, and it returns exactly when the
    declarations of the operation stay acceptable. -/
theorem Placed.step (h : Placed catalogues seen areas)
    (howner : ownerOf catalogues raw = .ok index)
    (hadd : addToArea catalogues areas index raw = .ok areas') :
    Placed catalogues (seen ++ [raw]) areas' := by
  rcases addToArea_eq_ok.mp hadd with ⟨hseen, -, rfl⟩ | ⟨hnew, rfl⟩
  · exact h.skip howner hseen
  · exact h.append howner hnew

/-- An endpoint is added exactly when it is acceptable beside those declared. -/
theorem Placed.addToArea_ok_iff (h : Placed catalogues seen areas)
    (howner : ownerOf catalogues raw = .ok index)
    (hok : Acceptable (declared catalogues seen index (canonicalImplementedEndpoint raw).ref)) :
    (∃ areas', addToArea catalogues areas index raw = .ok areas') ↔
      Acceptable (declared catalogues (seen ++ [raw]) index
        (canonicalImplementedEndpoint raw).ref) := by
  rw [declared_append, if_pos ⟨howner, rfl⟩]
  simp only [addToArea_eq_ok, h.seen_iff, h.isAlias]
  cases hdecl : declared catalogues seen index (canonicalImplementedEndpoint raw).ref with
  | nil => simp [Acceptable]
  | cons first rest =>
    rw [hdecl] at hok
    rw [acceptable_append_iff hok]
    simp

end

/-- A partition that returned has placed every declaration, and the declarations of
    every operation were acceptable. -/
theorem placeEndpoints_placed {catalogues : List TestCatalogue}
    {endpoints : List ImplementedEndpoint} {areas : Dict Nat Area}
    (h : endpoints.foldlM (placeEndpoint catalogues) .empty = .ok areas) :
    Placed catalogues endpoints areas ∧
      (∀ raw ∈ endpoints, ∃ index, ownerOf catalogues raw = .ok index) ∧
      ∀ index ref, Acceptable (declared catalogues endpoints index ref) := by
  refine List.foldlM_ok_induction (P := fun seen areas => Placed catalogues seen areas ∧
      (∀ raw ∈ seen, ∃ index, ownerOf catalogues raw = .ok index) ∧
      ∀ index ref, Acceptable (declared catalogues seen index ref)) h
    ⟨.init catalogues, by simp, fun _ _ => trivial⟩ ?_
  rintro seen raw areas areas' - ⟨hplaced, howners, hok⟩ hstep
  rw [placeEndpoint, bind_eq_ok] at hstep
  obtain ⟨index, howner, hadd⟩ := hstep
  refine ⟨hplaced.step howner hadd, ?_, ?_⟩
  · intro raw' hraw'
    rcases List.mem_append.mp hraw' with hraw' | hraw'
    · exact howners raw' hraw'
    · exact ⟨index, List.mem_singleton.mp hraw' ▸ howner⟩
  · intro i r
    by_cases hmatch : ownerOf catalogues raw = .ok i ∧ (canonicalImplementedEndpoint raw).ref = r
    · obtain ⟨hi, rfl⟩ := hmatch
      obtain rfl := Except.ok.inj (howner.symm.trans hi)
      exact (hplaced.addToArea_ok_iff howner (hok _ _)).mp ⟨areas', hadd⟩
    · rw [declared_append, if_neg hmatch, List.append_nil]
      exact hok i r

/-- The partition returns exactly when every declaration has an owner and the
    declarations of every operation are acceptable. -/
theorem placeEndpoints_ok_iff {catalogues : List TestCatalogue}
    {endpoints : List ImplementedEndpoint} :
    (∃ areas, endpoints.foldlM (placeEndpoint catalogues) .empty = .ok areas) ↔
      (∀ raw ∈ endpoints, ∃ index, ownerOf catalogues raw = .ok index) ∧
      ∀ index ref, Acceptable (declared catalogues endpoints index ref) := by
  constructor
  · rintro ⟨areas, h⟩
    exact (placeEndpoints_placed h).2
  · -- Every proper part of an acceptable list is acceptable, so each round returns.
    induction endpoints using List.reverseRecOn with
    | nil => exact fun _ => ⟨_, rfl⟩
    | append_singleton seen raw ih =>
      rintro ⟨howners, hok⟩
      have hok' : ∀ index ref, Acceptable (declared catalogues seen index ref) := by
        intro index ref
        have hall := hok index ref
        rw [declared_append] at hall
        split at hall
        · exact hall.of_append
        · rwa [List.append_nil] at hall
      obtain ⟨areas, hareas⟩ :=
        ih ⟨fun raw' hraw' => howners raw' (List.mem_append_left _ hraw'), hok'⟩
      obtain ⟨index, howner⟩ := howners raw (by simp)
      obtain ⟨areas', hadd⟩ := ((placeEndpoints_placed hareas).1.addToArea_ok_iff howner
        (hok' _ _)).mpr (hok _ _)
      refine ⟨areas', ?_⟩
      rw [List.foldlM_append, bind_eq_ok]
      refine ⟨areas, hareas, ?_⟩
      simp only [List.foldlM_cons, List.foldlM_nil, bind_eq_ok]
      exact ⟨areas', bind_eq_ok.mpr ⟨index, howner, hadd⟩, rfl⟩

end Conformance
