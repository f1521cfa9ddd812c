import Conformance.Native.Headers

/-!
# Frozen headers are a case-insensitive map

The loop of `__init__` keeps one entry for each lower-cased name: in the place and in the
casing of the first pair of that name, and with the value of the last (`Freezes`). Both
fields of the mapping are read off those entries, so lookup, membership, iteration and length
agree, and freezing the items of the mapping gives the mapping back.

## Key results

- `freezes_normalize`: the invariant of the loop
- `getitem_ofPairs`, `contains_ofPairs`, `iter_ofPairs`: what each operation says of the pairs
- `ofPairs_items`: the items of a mapping are frozen to the mapping
-/

namespace Conformance

namespace FrozenHeaders

variable {lower : String → String} {headers : List (String × String)}

/-! ## First and last pairs -/

/-- The casing of the first pair whose name is `name` up to case is `name` itself. -/
def IsFirstCasing (lower : String → String) (headers : List (String × String)) (name : String) :
    Prop :=
  ∃ before value after, headers = before ++ (name, value) :: after ∧
    ∀ header ∈ before, lower header.1 ≠ lower name

/-- The last pair of a name that lower-cases to `lowerName` has the value. -/
def IsLastValue (lower : String → String) (headers : List (String × String))
    (lowerName value : String) : Prop :=
  ∃ before name after, headers = before ++ (name, value) :: after ∧ lower name = lowerName ∧
    ∀ header ∈ after, lower header.1 ≠ lowerName

/-- The first casing stays the first. -/
theorem IsFirstCasing.snoc {name : String} (h : IsFirstCasing lower headers name)
    (header : String × String) : IsFirstCasing lower (headers ++ [header]) name := by
  obtain ⟨before, value, after, rfl, hbefore⟩ := h
  exact ⟨before, value, after ++ [header], by simp, hbefore⟩

/-- A new name is its own first casing. -/
theorem IsFirstCasing.of_new {header : String × String}
    (h : ∀ earlier ∈ headers, lower earlier.1 ≠ lower header.1) :
    IsFirstCasing lower (headers ++ [header]) header.1 :=
  ⟨headers, header.2, [], rfl, h⟩

/-- The last value stays the last before a header of another name. -/
theorem IsLastValue.snoc {lowerName value : String} {header : String × String}
    (h : IsLastValue lower headers lowerName value) (hne : lower header.1 ≠ lowerName) :
    IsLastValue lower (headers ++ [header]) lowerName value := by
  obtain ⟨before, name, after, rfl, hname, hafter⟩ := h
  refine ⟨before, name, after ++ [header], by simp, hname, ?_⟩
  intro later hlater
  rcases List.mem_append.mp hlater with hlater | hlater
  · exact hafter later hlater
  · rw [List.mem_singleton.mp hlater]
    exact hne

theorem IsLastValue.of_snoc (header : String × String) :
    IsLastValue lower (headers ++ [header]) (lower header.1) header.2 :=
  ⟨headers, header.1, [], rfl, rfl, fun _ h => (by cases h)⟩

/-- A last value is the value of a header. -/
theorem IsLastValue.mem {lowerName value : String} (h : IsLastValue lower headers lowerName value) :
    ∃ header ∈ headers, lower header.1 = lowerName := by
  obtain ⟨before, name, after, rfl, hname, -⟩ := h
  exact ⟨(name, value), by simp, hname⟩

/-- A name has one last value. -/
theorem IsLastValue.unique {lowerName value value' : String}
    (h : IsLastValue lower headers lowerName value)
    (h' : IsLastValue lower headers lowerName value') : value = value' := by
  induction headers using List.reverseRecOn with
  | nil =>
    obtain ⟨header, hmem, -⟩ := h.mem
    cases hmem
  | append_singleton headers header ih =>
    -- the last pair decides both when it has the name, and neither when it has not
    have hlast : ∀ {w}, IsLastValue lower (headers ++ [header]) lowerName w →
        (lower header.1 = lowerName ∧ w = header.2) ∨
          (lower header.1 ≠ lowerName ∧ IsLastValue lower headers lowerName w) := by
      rintro w ⟨before, name, after, heq, hname, hafter⟩
      rcases List.eq_nil_or_concat after with rfl | ⟨after, last, rfl⟩
      · obtain ⟨-, hpair⟩ := List.append_inj' heq rfl
        obtain rfl := List.singleton_inj.mp hpair
        exact .inl ⟨hname, rfl⟩
      · rw [List.concat_eq_append, ← List.cons_append, ← List.append_assoc] at heq
        obtain ⟨rfl, hpair⟩ := List.append_inj' heq rfl
        obtain rfl := List.singleton_inj.mp hpair
        exact .inr ⟨hafter _ (by simp), before, name, after, rfl, hname,
          fun later hlater => hafter later (by simp [hlater])⟩
    rcases hlast h with ⟨heq, hvalue⟩ | ⟨hne, hbefore⟩
    · rcases hlast h' with ⟨-, hvalue'⟩ | ⟨hne, -⟩
      · rw [hvalue, hvalue']
      · exact absurd heq hne
    · rcases hlast h' with ⟨heq, -⟩ | ⟨-, hbefore'⟩
      · exact absurd heq hne
      · exact ih hbefore hbefore'

/-! ## The loop -/

/-- The entries stand for the pairs: one for each lower-cased name, in order of first
    occurrence, with the first casing and the last value. -/
structure Freezes (lower : String → String) (headers : List (String × String))
    (normalized : Dict String (String × String)) : Prop where
  keys : normalized.keys = (headers.map fun header => lower header.1).eraseDups
  lower_name : ∀ lowerName entry, normalized.get? lowerName = some entry →
    lower entry.1 = lowerName
  first : ∀ lowerName entry, normalized.get? lowerName = some entry →
    IsFirstCasing lower headers entry.1
  last : ∀ lowerName entry, normalized.get? lowerName = some entry →
    IsLastValue lower headers lowerName entry.2

/-- The names that are kept are those of the headers. -/
theorem Freezes.mem_keys {normalized : Dict String (String × String)}
    (h : Freezes lower headers normalized) {lowerName : String} :
    lowerName ∈ normalized.keys ↔ ∃ header ∈ headers, lower header.1 = lowerName := by
  rw [h.keys, List.mem_eraseDups, List.mem_map]

/-- The casing a pair is stored under: that of the entry there is, or its own. -/
def casing (lower : String → String) (normalized : Dict String (String × String))
    (header : String × String) : String :=
  ((normalized.get? (lower header.1)).map Prod.fst).getD header.1

/-- A header is kept under its lower-case name, with the first casing. -/
theorem addHeader_eq (normalized : Dict String (String × String)) (header : String × String) :
    addHeader lower normalized header =
      normalized.set (lower header.1) (casing lower normalized header, header.2) := by
  rw [addHeader, casing]
  cases normalized.get? (lower header.1) <;> rfl

/-- The casing that is kept is the first. -/
theorem Freezes.first_casing {normalized : Dict String (String × String)}
    (h : Freezes lower headers normalized) (header : String × String) :
    lower (casing lower normalized header) = lower header.1 ∧
      IsFirstCasing lower (headers ++ [header]) (casing lower normalized header) := by
  rw [casing]
  cases hget : normalized.get? (lower header.1) with
  | some entry => exact ⟨h.lower_name _ _ hget, (h.first _ _ hget).snoc header⟩
  | none =>
    refine ⟨rfl, .of_new fun earlier hearlier heq => ?_⟩
    exact Dict.get?_eq_none_iff.mp hget (h.mem_keys.mpr ⟨earlier, hearlier, heq⟩)

/-- One more pair. -/
theorem Freezes.addHeader {normalized : Dict String (String × String)}
    (h : Freezes lower headers normalized) (header : String × String) :
    Freezes lower (headers ++ [header]) (addHeader lower normalized header) := by
  obtain ⟨hlower, hfirst⟩ := h.first_casing header
  rw [addHeader_eq]
  generalize casing lower normalized header = name at hlower hfirst
  -- an entry is the one just stored or an older one of another name
  have hentry : ∀ {lowerName entry},
      (normalized.set (lower header.1) (name, header.2)).get? lowerName = some entry →
        (lowerName = lower header.1 ∧ entry = (name, header.2)) ∨
          (lowerName ≠ lower header.1 ∧ normalized.get? lowerName = some entry) := by
    intro lowerName entry hget
    rw [Dict.get?_set] at hget
    split at hget
    · exact .inl ⟨‹_›, (Option.some.inj hget).symm⟩
    · exact .inr ⟨‹_›, hget⟩
  refine ⟨?_, ?_, ?_, ?_⟩
  · rw [List.map_append, List.eraseDups_append, ← h.keys]
    by_cases hkey : lower header.1 ∈ normalized.keys
    · have hdup : lower header.1 ∈ headers.map fun header => lower header.1 :=
        List.mem_map.mpr (h.mem_keys.mp hkey)
      simp [Dict.keys_set_of_mem _ hkey, List.removeAll, hdup]
    · have hnew : lower header.1 ∉ headers.map fun header => lower header.1 := fun hmem =>
        hkey (h.mem_keys.mpr (List.mem_map.mp hmem))
      rw [Dict.keys, Dict.entries_set_of_notMem _ hkey, List.map_append]
      simp [List.removeAll, hnew, Dict.keys, List.eraseDups_cons]
  · intro lowerName entry hget
    rcases hentry hget with ⟨rfl, rfl⟩ | ⟨-, hget⟩
    · exact hlower
    · exact h.lower_name _ _ hget
  · intro lowerName entry hget
    rcases hentry hget with ⟨rfl, rfl⟩ | ⟨-, hget⟩
    · exact hfirst
    · exact (h.first _ _ hget).snoc header
  · intro lowerName entry hget
    rcases hentry hget with ⟨rfl, rfl⟩ | ⟨hne, hget⟩
    · exact .of_snoc header
    · exact (h.last _ _ hget).snoc hne.symm

/-- The loop of `__init__`. -/
theorem freezes_normalize (lower : String → String) (headers : List (String × String)) :
    Freezes lower headers (normalize lower headers) := by
  induction headers using List.reverseRecOn with
  | nil =>
    refine ⟨rfl, ?_, ?_, ?_⟩ <;> intro lowerName entry hentry <;> cases hentry
  | append_singleton headers header ih =>
    rw [normalize, List.foldl_append]
    exact ih.addHeader header

/-! ## What the operations say of the pairs -/

/-- A name is looked up to the last value of it. -/
theorem getitem_ofPairs {key value : String} :
    (ofPairs lower headers).getitem lower key = .ok value ↔
      IsLastValue lower headers (lower key) value := by
  have hfreezes := freezes_normalize lower headers
  simp only [getitem, ofPairs, Dict.get?_mapValues]
  cases hget : (normalize lower headers).get? (lower key) with
  | some entry =>
    have hlast := hfreezes.last _ _ hget
    simp only [Option.map_some, Except.ok.injEq]
    exact ⟨fun h => h ▸ hlast, hlast.unique⟩
  | none =>
    simp only [Option.map_none, reduceCtorEq, false_iff]
    intro hlast
    exact Dict.get?_eq_none_iff.mp hget (hfreezes.mem_keys.mpr hlast.mem)

/-- A name is contained when a header has it in some casing. -/
theorem contains_ofPairs {key : String} :
    (ofPairs lower headers).contains lower key = true ↔
      ∃ header ∈ headers, lower header.1 = lower key := by
  rw [contains, Dict.contains_iff, ofPairs, Dict.keys_mapValues]
  exact (freezes_normalize lower headers).mem_keys

/-- An entry of the mapping is one of the dictionary it is made from. -/
theorem mem_items_ofPairs {entry : String × String} :
    entry ∈ (ofPairs lower headers).items ↔
      (normalize lower headers).get? (lower entry.1) = some entry := by
  rw [ofPairs, Dict.mem_values_iff]
  constructor
  · rintro ⟨lowerName, hget⟩
    rwa [(freezes_normalize lower headers).lower_name _ _ hget]
  · exact fun hget => ⟨_, hget⟩

/-- The lower-cased names of the items are the keys of the dictionary. -/
theorem map_lower_items_ofPairs :
    (ofPairs lower headers).items.map (fun entry => lower entry.1) =
      (normalize lower headers).keys := by
  rw [ofPairs, Dict.values, Dict.keys, List.map_map]
  apply List.map_congr_left
  rintro ⟨lowerName, entry⟩ hentry
  exact (freezes_normalize lower headers).lower_name _ _ (Dict.mem_entries_iff.mp hentry)

/-- The names are iterated once each, in their first casing. -/
theorem iter_ofPairs :
    (ofPairs lower headers).iter.map lower =
        (headers.map fun header => lower header.1).eraseDups ∧
      ∀ name ∈ (ofPairs lower headers).iter, IsFirstCasing lower headers name := by
  have hfreezes := freezes_normalize lower headers
  constructor
  · rw [iter, List.map_map, ← hfreezes.keys, ← map_lower_items_ofPairs]
    rfl
  · intro name hname
    obtain ⟨entry, hentry, rfl⟩ := List.mem_map.mp hname
    exact hfreezes.first _ _ (mem_items_ofPairs.mp hentry)

/-! ## Freezing again -/

/-- Pairs whose names differ up to case are kept as they are. -/
theorem entries_foldl_addHeader {normalized : Dict String (String × String)}
    (hnodup : (headers.map fun header => lower header.1).Nodup)
    (hnew : ∀ header ∈ headers, lower header.1 ∉ normalized.keys) :
    (headers.foldl (FrozenHeaders.addHeader lower) normalized).entries =
      normalized.entries ++ headers.map fun header => (lower header.1, header) := by
  induction headers generalizing normalized with
  | nil => simp
  | cons header rest ih =>
    rw [List.map_cons, List.nodup_cons] at hnodup
    have hkey : lower header.1 ∉ normalized.keys := hnew header List.mem_cons_self
    have hadd : FrozenHeaders.addHeader lower normalized header =
        normalized.set (lower header.1) header := by
      simp only [FrozenHeaders.addHeader, Dict.get?_eq_none_iff.mpr hkey]
    rw [List.foldl_cons, hadd, ih hnodup.2, Dict.entries_set_of_notMem _ hkey]
    · simp
    · intro later hlater
      rw [Dict.mem_keys_set, not_or]
      refine ⟨hnew later (List.mem_cons_of_mem _ hlater), fun heq => hnodup.1 ?_⟩
      exact List.mem_map.mpr ⟨later, hlater, heq⟩

/-- The items of a mapping are frozen to the mapping. -/
theorem ofPairs_items (lower : String → String) (headers : List (String × String)) :
    ofPairs lower (ofPairs lower headers).items = ofPairs lower headers := by
  have hentries : normalize lower (ofPairs lower headers).items = normalize lower headers := by
    have hnodup : ((ofPairs lower headers).items.map fun entry => lower entry.1).Nodup := by
      rw [map_lower_items_ofPairs]
      exact Dict.keys_nodup _
    have hfold := @entries_foldl_addHeader lower _ .empty hnodup fun _ _ h => (by cases h)
    have hsame : (ofPairs lower headers).items.map (fun entry => (lower entry.1, entry)) =
        (normalize lower headers).entries := by
      rw [ofPairs, Dict.values, List.map_map]
      conv_rhs => rw [← List.map_id (normalize lower headers).entries]
      apply List.map_congr_left
      rintro ⟨lowerName, entry⟩ hentry
      have hname := (freezes_normalize lower headers).lower_name _ _ (Dict.mem_entries_iff.mp hentry)
      exact Prod.ext hname rfl
    rw [hsame] at hfold
    exact (Dict.mk.injEq _ _ _ _).mpr hfold
  simp only [ofPairs] at hentries ⊢
  rw [hentries]

/-- Looking the names of a mapping up again gives its items. -/
theorem mappingItems_ofPairs :
    (ofPairs lower headers).mappingItems lower = .ok (ofPairs lower headers).items := by
  have hlookup : ∀ entry ∈ (ofPairs lower headers).items,
      (ofPairs lower headers).getitem lower entry.1 = .ok entry.2 := by
    intro entry hentry
    exact getitem_ofPairs.mpr
      ((freezes_normalize lower headers).last _ _ (mem_items_ofPairs.mp hentry))
  rw [mappingItems, iter]
  generalize (ofPairs lower headers).items = items at hlookup ⊢
  induction items with
  | nil => rfl
  | cons entry rest ih =>
    rw [List.forall_mem_cons] at hlookup
    rw [List.map_cons, List.mapM_cons, hlookup.1, ih hlookup.2]
    rfl

end FrozenHeaders

open FrozenHeaders

/-- `FrozenHeaders` is a case-insensitive map in which the last pair of a name decides. -/
theorem frozenHeaders_lastWins (lower : String → String) (headers : List (String × String)) :
    ∃ frozen, freezeHeaders lower (.pairs headers) = .ok frozen ∧
      (∀ name name', lower name = lower name' →
        frozen.getitem lower name = frozen.getitem lower name') ∧
      (∀ name value, frozen.getitem lower name = .ok value ↔
        IsLastValue lower headers (lower name) value) ∧
      (∀ name, frozen.contains lower name = true ↔
        ∃ header ∈ headers, lower header.1 = lower name) ∧
      frozen.iter.map lower = (headers.map fun header => lower header.1).eraseDups ∧
      (∀ name ∈ frozen.iter, IsFirstCasing lower headers name) ∧
      frozen.len = (headers.map fun header => lower header.1).eraseDups.length ∧
      (∃ items, frozen.mappingItems lower = .ok items ∧
        freezeHeaders lower (.pairs items) = .ok frozen) ∧
      freezeHeaders lower (.frozen frozen) = .ok frozen := by
  obtain ⟨hiter, hfirst⟩ := @iter_ofPairs lower headers
  refine ⟨ofPairs lower headers, rfl, ?_, fun _ _ => getitem_ofPairs, fun _ => contains_ofPairs,
    hiter, hfirst, ?_, ⟨_, mappingItems_ofPairs, ?_⟩, ?_⟩
  · intro name name' heq
    simp only [getitem, heq]
  · rw [← hiter, List.length_map, iter, List.length_map, len]
  · exact congrArg Except.ok (ofPairs_items lower headers)
  · rw [freezeHeaders, iterHeaderItems, mappingItems_ofPairs]
    exact congrArg Except.ok (ofPairs_items lower headers)

end Conformance
