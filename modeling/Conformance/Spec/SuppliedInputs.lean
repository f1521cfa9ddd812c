import Conformance.Native.PlanConfig
import Conformance.Spec.JsonValueEquality

/-!
# Supplied runtime inputs

The scalars, the structured sections, `runtimeInputs` and `inputs` of a config are merged into one
mapping, and a value that is supplied twice is compared with Python's `==`. While they are merged
the mapping keeps, for every id, the last value supplied, which all others are equal to
(`Tracks`). As JSON values they are the same unless a boolean was compared with a number. The
order of keys decides nothing: two configs that are equal as JSON have one outcome (`Agree`).

## Key results

- `pyEq_symm`, `pyEq_trans`: `==` on decoded values
- `tracks_of_runtimeInputs`: the mapping keeps what was supplied, up to `==`
- `agree_runtimeInputs`: configs that are equal as JSON have one outcome
- `suppliedInputs_iff`: when no two values for one id were merged that differ as JSON
-/

namespace Conformance

open Except Json

/-! ## `==` is an equivalence -/

/-- What compares as a number equals what compares as the same number. -/
theorem pyEq_iff_of_number {a b : Json} {p : Rat} (ha : a.number? = some p) :
    a.pyEq b = true ↔ b.number? = some p := by
  have hnumber : ∀ q : Rat, ((p == q) = true ↔ q = p) := fun q => by
    rw [beq_iff_eq]
    exact eq_comm
  cases a with
  | bool x =>
    obtain rfl := Option.some.inj ha
    cases b <;> simp [pyEq, number?, hnumber]
  | int | float => exact pyEq_number_iff ha
  | null | str | arr | obj => cases ha

theorem pyEq_null_iff {b : Json} : Json.null.pyEq b = true ↔ b = .null := by
  cases b <;> simp [pyEq, number?]

/-- A text is equal to itself only. -/
theorem pyEq_str_left_iff {s : String} {b : Json} : (Json.str s).pyEq b = true ↔ b = .str s := by
  cases b with
  | str t =>
    rw [pyEq, beq_iff_eq, Json.str.injEq]
    exact eq_comm
  | null | bool | int | float | arr | obj => simp [pyEq, number?]

/-- A list is equal to the lists of equal elements. -/
theorem pyEq_arr_iff {xs : List Json} {b : Json} :
    (Json.arr xs).pyEq b = true ↔ ∃ ys, b = .arr ys ∧ List.Forall₂ (fun x y => x.pyEq y = true)
      xs ys := by
  cases b with
  | arr ys => simp [pyEq, pyEqItems_iff]
  | null | bool | int | float | str | obj => simp [pyEq, number?]

/-- An object is equal to objects only. -/
theorem pyEq_obj_exists {xs : JsonObject} {b : Json} (h : (Json.obj xs).pyEq b = true) :
    ∃ ys, b = .obj ys := by
  cases b with
  | obj ys => exact ⟨ys, rfl⟩
  | null | bool | int | float | str | arr => simp [pyEq, number?] at h

/-- `==` is symmetric on decoded values. -/
theorem pyEq_symm {a b : Json} (ha : Decoded a) (hb : Decoded b) (h : a.pyEq b = true) :
    b.pyEq a = true := by
  have hsymm {p : Rat} {a : Json} (hp : a.number? = some p) (h : a.pyEq b = true) :
      b.pyEq a = true := (pyEq_iff_of_number ((pyEq_iff_of_number hp).mp h)).mpr hp
  induction ha generalizing b with
  | null =>
    rw [pyEq_null_iff.mp h]
    exact Decoded.null.pyEq_self
  | bool x => exact hsymm rfl h
  | int n => exact hsymm rfl h
  | float q => exact hsymm rfl h
  | str s =>
    rw [pyEq_str_left_iff.mp h]
    exact (Decoded.str s).pyEq_self
  | @arr items hitems ih =>
    obtain ⟨ys, rfl, hys⟩ := pyEq_arr_iff.mp h
    refine pyEq_arr_iff.mpr ⟨items, rfl, ?_⟩
    cases hb with
    | arr hdecoded =>
      rw [List.forall₂_iff_get] at hys ⊢
      exact ⟨hys.1.symm, fun i hi hi' => ih _ (List.getElem_mem _) (hdecoded _ (List.getElem_mem _))
        (hys.2 i hi' hi) (fun hp h => (pyEq_iff_of_number ((pyEq_iff_of_number hp).mp h)).mpr hp)⟩
  | @obj fields hnodup hfields ih =>
    obtain ⟨ys, rfl⟩ := pyEq_obj_exists h
    rw [pyEq_obj_iff hnodup hb.nodup] at h
    rw [pyEq_obj_iff hb.nodup hnodup]
    intro key
    have hkey := h key
    cases hx : fields.lookup key with
    | none =>
      cases hy : ys.lookup key with
      | none => exact .none
      | some y =>
        rw [hx, hy] at hkey
        cases hkey
    | some x =>
      cases hy : ys.lookup key with
      | none =>
        rw [hx, hy] at hkey
        cases hkey
      | some y =>
        rw [hx, hy] at hkey
        cases hkey with
        | some heq => exact .some (ih _ (mem_of_lookup hx) (hb.of_lookup hy) heq
            (fun hp h => (pyEq_iff_of_number ((pyEq_iff_of_number hp).mp h)).mpr hp))

/-- `==` is transitive on decoded values. -/
theorem pyEq_trans {a b c : Json} (ha : Decoded a) (hb : Decoded b) (hc : Decoded c)
    (hab : a.pyEq b = true) (hbc : b.pyEq c = true) : a.pyEq c = true := by
  induction ha generalizing b c with
  | null => rwa [pyEq_null_iff.mp hab] at hbc
  | bool x =>
    exact (pyEq_iff_of_number rfl).mpr
      ((pyEq_iff_of_number ((pyEq_iff_of_number rfl).mp hab)).mp hbc)
  | int n =>
    exact (pyEq_iff_of_number rfl).mpr
      ((pyEq_iff_of_number ((pyEq_iff_of_number rfl).mp hab)).mp hbc)
  | float q =>
    exact (pyEq_iff_of_number rfl).mpr
      ((pyEq_iff_of_number ((pyEq_iff_of_number rfl).mp hab)).mp hbc)
  | str s => rwa [pyEq_str_left_iff.mp hab] at hbc
  | @arr items hitems ih =>
    obtain ⟨ys, rfl, hys⟩ := pyEq_arr_iff.mp hab
    obtain ⟨zs, rfl, hzs⟩ := pyEq_arr_iff.mp hbc
    refine pyEq_arr_iff.mpr ⟨zs, rfl, ?_⟩
    cases hb with
    | arr hb =>
      cases hc with
      | arr hc =>
        rw [List.forall₂_iff_get] at hys hzs ⊢
        exact ⟨hys.1.trans hzs.1, fun i hi hi' => ih _ (List.getElem_mem _)
          (hb _ (List.getElem_mem (hys.1 ▸ hi))) (hc _ (List.getElem_mem _))
          (hys.2 i hi (hys.1 ▸ hi)) (hzs.2 i (hys.1 ▸ hi) hi')⟩
  | @obj fields hnodup hfields ih =>
    obtain ⟨ys, rfl⟩ := pyEq_obj_exists hab
    obtain ⟨zs, rfl⟩ := pyEq_obj_exists hbc
    rw [pyEq_obj_iff hnodup hb.nodup] at hab
    rw [pyEq_obj_iff hb.nodup hc.nodup] at hbc
    rw [pyEq_obj_iff hnodup hc.nodup]
    intro key
    have hxy := hab key
    have hyz := hbc key
    cases hy : ys.lookup key with
    | none =>
      cases hx : fields.lookup key with
      | none => rwa [hy] at hyz
      | some x =>
        rw [hx, hy] at hxy
        cases hxy
    | some y =>
      cases hx : fields.lookup key with
      | none =>
        rw [hx, hy] at hxy
        cases hxy
      | some x =>
        cases hz : zs.lookup key with
        | none =>
          rw [hy, hz] at hyz
          cases hyz
        | some z =>
          rw [hx, hy] at hxy
          rw [hy, hz] at hyz
          cases hxy with
          | some hxy =>
            cases hyz with
            | some hyz =>
              exact .some (ih _ (mem_of_lookup hx) (hb.of_lookup hy) (hc.of_lookup hz) hxy hyz)

namespace PlanConfig

/-! ## What a config supplies -/

/-- The value at a path of keys; what is missing is `null`. -/
def valueAt (value : Json) : List String → Json
  | [] => value
  | key :: path => valueAt (getField (fieldsOf value) key) path

/-- The paths of a section, from outside the section. -/
def under (key : String) (fields : List (List String × String)) : List (List String × String) :=
  fields.map fun field => (key :: field.1, field.2)

/-- The fields of an account, and the ids of their runtime inputs. -/
def accountFields (scheme identification name : String) : List (List String × String) :=
  [(["schemeName"], scheme), (["identification"], identification), (["name"], name)]

/-- The fields of an amount, and the ids of their runtime inputs. -/
def amountFields (amount currency : String) : List (List String × String) :=
  [(["amount"], amount), (["currency"], currency)]

def aisFields : List (List String × String) := [
  (["transactionFromDate"], "fromBookingDateTime"),
  (["transactionToDate"], "toBookingDateTime")]

def pisFields : List (List String × String) :=
  under "creditorAccount" (accountFields "pisCreditorAccountSchemeName"
    "pisCreditorAccountIdentification" "pisCreditorAccountName") ++
  under "internationalCreditorAccount" (accountFields "pisInternationalCreditorAccountSchemeName"
    "pisInternationalCreditorAccountIdentification" "pisInternationalCreditorAccountName") ++
  under "instructedAmount" (amountFields "pisInstructedAmountAmount"
    "pisInstructedAmountCurrency") ++
  under "standingOrderFrequency" [
    (["type"], "pisStandingOrderFrequencyType"),
    (["pointInTime"], "pisStandingOrderFrequencyPointInTime")] ++
  [(["standingOrderFrequencyV31"], "pisStandingOrderFrequencyV31"),
    (["currencyOfTransfer"], "pisCurrencyOfTransfer"),
    (["requestedExecutionDateTime"], "pisRequestedExecutionDateTime"),
    (["firstPaymentDateTime"], "pisFirstPaymentDateTime")]

def vrpFields : List (List String × String) :=
  under "creditorAccount" (accountFields "vrpCreditorAccountSchemeName"
    "vrpCreditorAccountIdentification" "vrpCreditorAccountName") ++
  under "instructedAmount" (amountFields "vrpInstructedAmountAmount"
    "vrpInstructedAmountCurrency") ++
  [(["validFromDateTime"], "vrpValidFromDateTime"), (["validToDateTime"], "vrpValidToDateTime")]

/-- The fields of the structured sections, and the ids of their runtime inputs. -/
def structuredFields : List (List String × String) :=
  under "resourceServer" [(["baseUrl"], "resourceBaseUrl")] ++
  under "oauth" [(["resourceBaseUrl"], "resourceBaseUrl")] ++
  under "cbpii" (under "debtorAccount" (accountFields "debtorAccountSchemeName"
    "debtorAccountIdentification" "debtorAccountName")) ++
  under "ais" aisFields ++ under "pis" pisFields ++ under "vrp" vrpFields

/-- A field of a value that is not blank supplies the id. -/
def SuppliedAt (value : Json) (fields : List (List String × String)) (id : String)
    (supplied : Json) : Prop :=
  ∃ field ∈ fields, field.2 = id ∧ supplied = valueAt value field.1 ∧ isBlank supplied = false

/-- The first account id of the `ais` section. -/
def FirstAccount (ais : Json) (text : String) : Prop :=
  ∃ first rest, valueAt ais ["resourceIds", "accountIds"] = .arr (.obj first :: rest) ∧
    getField first "accountId" = .str text ∧ strip text ≠ ""

/-- A location of a config supplies a value for a runtime input. -/
inductive Supplies (config : JsonObject) : String → Json → Prop where
  | scalar {id : String} {value : Json} (h : (id, value) ∈ config)
    (hid : id ∉ ["inputs", "runtimeInputs"]) (hvalue : isContainer value = false) :
    Supplies config id value
  | structured {id : String} {value : Json}
    (h : SuppliedAt (.obj config) structuredFields id value) : Supplies config id value
  | account {text : String} (h : FirstAccount (getField config "ais") text) :
    Supplies config "consentedAccountId" (.str text)
  | runtimeInput {entries : JsonObject} {id : String} {value : Json}
    (hentries : config.lookup "runtimeInputs" = some (.obj entries)) (h : (id, value) ∈ entries) :
    Supplies config id value
  | input {entries : JsonObject} {id : String} {value : Json}
    (hentries : config.lookup "inputs" = some (.obj entries)) (h : (id, value) ∈ entries) :
    Supplies config id (runtimeValueFromPlanConfigInput value)

/-- A path below a key is read in the object under the key. -/
theorem suppliedAt_under {value : Json} {key : String} {fields : List (List String × String)}
    {id : String} {supplied : Json} :
    SuppliedAt value (under key fields) id supplied ↔
      SuppliedAt (getField (fieldsOf value) key) fields id supplied := by
  simp [SuppliedAt, under, valueAt]

/-- Two lists of paths supply what either of them does. -/
theorem suppliedAt_append {value : Json} {fields fields' : List (List String × String)}
    {id : String} {supplied : Json} :
    SuppliedAt value (fields ++ fields') id supplied ↔
      SuppliedAt value fields id supplied ∨ SuppliedAt value fields' id supplied := by
  simp only [SuppliedAt, List.mem_append, or_and_right, exists_or]

/-- A field of a decoded object is decoded. -/
theorem decoded_getField {fields : JsonObject} (h : Decoded (.obj fields)) (key : String) :
    Decoded (getField fields key) := by
  unfold getField
  cases hlookup : fields.lookup key with
  | none => exact .null
  | some value => exact h.of_lookup hlookup

/-- The fields of a decoded value are decoded. -/
theorem decoded_fieldsOf {value : Json} (h : Decoded value) : Decoded (.obj (fieldsOf value)) := by
  cases value with
  | obj fields => exact h
  | null | bool | int | float | str | arr => exact .obj List.nodup_nil (by simp [fieldsOf])

/-! ## What the mapping keeps -/

/-- The mapping keeps, for every id, one of the values supplied so far, and all of them are equal
    to it under `==`. -/
structure Tracks (S : String → Json → Prop) (runtimeInputs : Dict String Json) : Prop where
  agrees : ∀ id value, S id value →
    ∃ kept, runtimeInputs.get? id = some kept ∧ kept.pyEq value = true
  supplied : ∀ id kept, runtimeInputs.get? id = some kept → S id kept
  decoded : ∀ id value, S id value → Decoded value

variable {S : String → Json → Prop} {runtimeInputs r : Dict String Json} {location : String}

/-- The same values are tracked when they are supplied by other words. -/
theorem Tracks.congr {S' : String → Json → Prop} (h : Tracks S runtimeInputs)
    (hsame : ∀ id value, S' id value ↔ S id value) : Tracks S' runtimeInputs :=
  ⟨fun id value hvalue => h.agrees id value ((hsame id value).mp hvalue),
    fun id kept hkept => (hsame id kept).mpr (h.supplied id kept hkept),
    fun id value hvalue => h.decoded id value ((hsame id value).mp hvalue)⟩

/-- When a value is merged, and what the mapping is then. -/
theorem mergePlanConfigRuntimeInput_eq_ok {id : String} {value : Json} :
    mergePlanConfigRuntimeInput runtimeInputs id value location = .ok r ↔
      strip id ≠ "" ∧ (∀ existing, runtimeInputs.get? id = some existing →
        existing.pyEq value = true) ∧ runtimeInputs.set id value = r := by
  unfold mergePlanConfigRuntimeInput
  by_cases hblank : strip id = ""
  · simp [hblank]
  · cases hget : runtimeInputs.get? id with
    | none => simp [hblank]
    | some existing => by_cases heq : existing.pyEq value = true <;> simp [hblank, heq]

/-- Merging a value adds it to what is tracked. -/
theorem Tracks.merge (h : Tracks S runtimeInputs) {id : String} {value : Json}
    (hvalue : Decoded value)
    (hmerge : mergePlanConfigRuntimeInput runtimeInputs id value location = .ok r) :
    Tracks (fun id' value' => S id' value' ∨ id = id' ∧ value' = value) r := by
  obtain ⟨-, hequal, rfl⟩ := mergePlanConfigRuntimeInput_eq_ok.mp hmerge
  refine ⟨?_, ?_, ?_⟩
  · rintro id' value' (hsupplied | ⟨rfl, rfl⟩)
    · obtain ⟨kept, hget, hkept⟩ := h.agrees id' value' hsupplied
      rw [Dict.get?_set]
      split
      · rename_i heq
        subst heq
        have hdecoded := h.decoded _ kept (h.supplied _ kept hget)
        exact ⟨value, rfl, pyEq_trans hvalue hdecoded (h.decoded _ value' hsupplied)
          (pyEq_symm hdecoded hvalue (hequal kept hget)) hkept⟩
      · exact ⟨kept, hget, hkept⟩
    · exact ⟨value', by rw [Dict.get?_set, if_pos rfl], hvalue.pyEq_self⟩
  · intro id' kept hkept
    rw [Dict.get?_set] at hkept
    split at hkept
    · rename_i heq
      exact .inr ⟨heq.symm, (Option.some.inj hkept).symm⟩
    · exact .inl (h.supplied id' kept hkept)
  · rintro id' value' (hsupplied | ⟨-, rfl⟩)
    · exact h.decoded id' value' hsupplied
    · exact hvalue

/-- Merging an optional value adds it unless it is blank. -/
theorem Tracks.mergeOptional (h : Tracks S runtimeInputs) {id : String} {value : Json}
    (hvalue : Decoded value)
    (hmerge : mergeOptionalStructuredRuntimeInput runtimeInputs id value location = .ok r) :
    Tracks (fun id' value' => S id' value' ∨ id = id' ∧ value' = value ∧ isBlank value' = false)
      r := by
  unfold mergeOptionalStructuredRuntimeInput at hmerge
  split at hmerge
  · rename_i hblank
    obtain rfl := Except.ok.inj hmerge
    refine h.congr fun id' value' => or_iff_left ?_
    rintro ⟨-, rfl, hnot⟩
    rw [hblank] at hnot
    cases hnot
  · rename_i hblank
    refine (h.merge hvalue hmerge).congr fun id' value' => or_congr_right ?_
    refine and_congr_right fun _ => and_iff_left_of_imp fun heq => ?_
    rw [heq]
    exact Bool.not_eq_true _ ▸ hblank

/-- A loop of merges, each of which adds what its item supplies. -/
theorem Tracks.foldlM {α : Type} {A : α → String → Json → Prop}
    {f : Dict String Json → α → Except PyError (Dict String Json)} {items : List α}
    (hstep : ∀ item ∈ items, ∀ S runtimeInputs r, Tracks S runtimeInputs →
      f runtimeInputs item = .ok r → Tracks (fun id value => S id value ∨ A item id value) r)
    (h : Tracks S runtimeInputs) (hfold : items.foldlM f runtimeInputs = .ok r) :
    Tracks (fun id value => S id value ∨ ∃ item ∈ items, A item id value) r := by
  induction items generalizing S runtimeInputs with
  | nil =>
    obtain rfl := Except.ok.inj hfold
    exact h.congr fun id value => by simp
  | cons item rest ih =>
    rw [List.foldlM_cons] at hfold
    obtain ⟨after, hafter, hrest⟩ := bind_eq_ok.mp hfold
    have hfirst := hstep item List.mem_cons_self S runtimeInputs after h hafter
    refine (ih (fun other hother => hstep other (List.mem_cons_of_mem item hother)) hfirst
      hrest).congr fun id value => ?_
    rw [List.exists_mem_cons_iff, or_assoc]

/-- Merging the fields of a section adds those that the section supplies. -/
theorem Tracks.mergeFields (h : Tracks S runtimeInputs) {value : Json} (hvalue : Decoded value)
    {inputs : List (String × String)}
    (hmerge : PlanConfig.mergeFields runtimeInputs (fieldsOf value) location inputs = .ok r) :
    Tracks (fun id supplied => S id supplied ∨
      SuppliedAt value (inputs.map fun input => ([input.2], input.1)) id supplied) r := by
  refine (h.foldlM (A := fun input id supplied => input.1 = id ∧
    supplied = getField (fieldsOf value) input.2 ∧ isBlank supplied = false)
    (fun input _ S runtimeInputs r h hmerge => ?_) hmerge).congr fun id supplied => ?_
  · exact h.mergeOptional (decoded_getField (decoded_fieldsOf hvalue) input.2) hmerge
  · simp [SuppliedAt, valueAt]

/-- What both readers of a section do: an object is its fields, what is absent has none. -/
def sectionOf (message : String) : Json → Except PyError JsonObject
  | .null => .ok []
  | .obj fields => .ok fields
  | _ => .error (.catalogueError message)

/-- A section of the configuration is read as sections are. -/
theorem optionalRuntimeConfigObject_eq (config : JsonObject) (key : String) :
    optionalRuntimeConfigObject config key =
      sectionOf s!"planSpec.config.{key} must be a JSON object" (getField config key) := by
  unfold optionalRuntimeConfigObject
  cases getField config key <;> rfl

/-- So is a section of a section. -/
theorem optionalNestedRuntimeConfigObject_eq (fields : JsonObject) (key : String) :
    optionalNestedRuntimeConfigObject fields key =
      sectionOf s!"Structured config field '{key}' must be a JSON object" (getField fields key) := by
  unfold optionalNestedRuntimeConfigObject
  cases getField fields key <;> rfl

/-- A section that is read has the fields of its value. -/
theorem sectionOf_eq_ok {message : String} {value : Json} {fields : JsonObject}
    (h : sectionOf message value = .ok fields) : fields = fieldsOf value := by
  cases value with
  | null | obj => exact (Except.ok.inj h).symm
  | bool | int | float | str | arr => cases h

/-- A nested section that is read has the fields of its value. -/
theorem optionalNestedRuntimeConfigObject_eq_ok {fields nested : JsonObject} {key : String}
    (h : optionalNestedRuntimeConfigObject fields key = .ok nested) :
    nested = fieldsOf (getField fields key) :=
  sectionOf_eq_ok (optionalNestedRuntimeConfigObject_eq fields key ▸ h)

/-- A section of the configuration that is read has the fields of its value. -/
theorem optionalRuntimeConfigObject_eq_ok {config fields : JsonObject} {key : String}
    (h : optionalRuntimeConfigObject config key = .ok fields) :
    fields = fieldsOf (getField config key) :=
  sectionOf_eq_ok (optionalRuntimeConfigObject_eq config key ▸ h)

/-- Merging a nested section adds what is supplied below its key. -/
theorem Tracks.mergeNestedFields (h : Tracks S runtimeInputs) {value : Json}
    (hvalue : Decoded value) {key : String} {inputs : List (String × String)}
    (hmerge : PlanConfig.mergeNestedFields runtimeInputs (fieldsOf value) key location inputs =
      .ok r) :
    Tracks (fun id supplied => S id supplied ∨ SuppliedAt value
      (under key (inputs.map fun input => ([input.2], input.1))) id supplied) r := by
  obtain ⟨nested, hnested, hmerge⟩ := bind_eq_ok.mp hmerge
  rw [optionalNestedRuntimeConfigObject_eq_ok hnested] at hmerge
  refine (h.mergeFields (decoded_getField (decoded_fieldsOf hvalue) key) hmerge).congr
    fun id supplied => ?_
  rw [suppliedAt_under]

/-- `_first_object_string` reads nothing, or the text of the first object. -/
theorem firstObjectString_eq_ok {value result : Json} {key : String}
    (h : firstObjectString value key = .ok result) :
    ((∀ first rest text, value = .arr (.obj first :: rest) → getField first key ≠ .str text) ∧
        result = .null) ∨
      ∃ first rest text, value = .arr (.obj first :: rest) ∧ getField first key = .str text ∧
        result = .str text := by
  unfold firstObjectString at h
  split at h
  · exact .inl ⟨nofun, (Except.ok.inj h).symm⟩
  · exact .inl ⟨nofun, (Except.ok.inj h).symm⟩
  · rename_i first rest
    split at h
    · rename_i hnull
      refine .inl ⟨fun first' rest' text heq => ?_, (Except.ok.inj h).symm⟩
      cases heq
      rw [hnull]
      nofun
    · rename_i text htext
      exact .inr ⟨first, rest, text, rfl, htext, (Except.ok.inj h).symm⟩
    · cases h
  · cases h
  · cases h

/-- Merging the AIS section adds its fields and the first of its account ids. -/
theorem Tracks.mergeAis (h : Tracks S runtimeInputs) {value : Json} (hvalue : Decoded value)
    (hmerge : mergeAisRuntimeInputs runtimeInputs (fieldsOf value) = .ok r) :
    Tracks (fun id supplied => (S id supplied ∨ SuppliedAt value aisFields id supplied) ∨
      ∃ text, "consentedAccountId" = id ∧ supplied = .str text ∧ FirstAccount value text) r := by
  obtain ⟨resourceIds, hresourceIds, hmerge⟩ := bind_eq_ok.mp hmerge
  obtain ⟨accountId, haccountId, hmerge⟩ := bind_eq_ok.mp hmerge
  obtain ⟨after, hafter, hmerge⟩ := bind_eq_ok.mp hmerge
  rw [optionalNestedRuntimeConfigObject_eq_ok hresourceIds] at haccountId
  have hread := firstObjectString_eq_ok haccountId
  have hdecoded : Decoded accountId := by
    rcases hread with ⟨-, rfl⟩ | ⟨-, -, text, -, -, rfl⟩
    · exact .null
    · exact .str text
  have haccount (supplied : Json) : supplied = accountId ∧ isBlank supplied = false ↔
      ∃ text, supplied = .str text ∧ FirstAccount value text := by
    constructor
    · rintro ⟨rfl, hblank⟩
      rcases hread with ⟨-, rfl⟩ | ⟨first, rest, text, haccounts, htext, rfl⟩
      · cases hblank
      · exact ⟨text, rfl, first, rest, haccounts, htext, of_decide_eq_false hblank⟩
    · rintro ⟨text, rfl, first, rest, haccounts, htext, hblank⟩
      rcases hread with ⟨hnone, -⟩ | ⟨first', rest', text', haccounts', htext', rfl⟩
      · exact absurd htext (hnone first rest text haccounts)
      · have haccounts : getField (fieldsOf (getField (fieldsOf value) "resourceIds"))
            "accountIds" = .arr (.obj first :: rest) := haccounts
        rw [haccounts] at haccounts'
        cases haccounts'
        rw [htext] at htext'
        exact ⟨htext', decide_eq_false hblank⟩
  refine ((h.mergeOptional hdecoded hafter).mergeFields hvalue hmerge).congr fun id supplied => ?_
  rw [or_right_comm]
  refine or_congr (or_congr_right ?_) Iff.rfl
  rw [haccount, exists_and_left]

/-- Merging the PIS section adds its fields. -/
theorem Tracks.mergePis (h : Tracks S runtimeInputs) {value : Json} (hvalue : Decoded value)
    (hmerge : mergePisRuntimeInputs runtimeInputs (fieldsOf value) = .ok r) :
    Tracks (fun id supplied => S id supplied ∨ SuppliedAt value pisFields id supplied) r := by
  obtain ⟨creditor, hcreditor, hmerge⟩ := bind_eq_ok.mp hmerge
  obtain ⟨international, hinternational, hmerge⟩ := bind_eq_ok.mp hmerge
  obtain ⟨amount, hamount, hmerge⟩ := bind_eq_ok.mp hmerge
  obtain ⟨frequency, hfrequency, hmerge⟩ := bind_eq_ok.mp hmerge
  refine (((((h.mergeNestedFields hvalue hcreditor).mergeNestedFields hvalue
    hinternational).mergeNestedFields hvalue hamount).mergeNestedFields hvalue
    hfrequency).mergeFields hvalue hmerge).congr fun id supplied => ?_
  rw [pisFields]
  simp only [suppliedAt_append, or_assoc]
  rfl

/-- Merging the VRP section adds its fields. -/
theorem Tracks.mergeVrp (h : Tracks S runtimeInputs) {value : Json} (hvalue : Decoded value)
    (hmerge : mergeVrpRuntimeInputs runtimeInputs (fieldsOf value) = .ok r) :
    Tracks (fun id supplied => S id supplied ∨ SuppliedAt value vrpFields id supplied) r := by
  obtain ⟨creditor, hcreditor, hmerge⟩ := bind_eq_ok.mp hmerge
  obtain ⟨amount, hamount, hmerge⟩ := bind_eq_ok.mp hmerge
  refine (((h.mergeNestedFields hvalue hcreditor).mergeNestedFields hvalue hamount).mergeFields
    hvalue hmerge).congr fun id supplied => ?_
  rw [vrpFields]
  simp only [suppliedAt_append, or_assoc]
  rfl

/-- Merging the structured sections adds the fields of all of them. -/
theorem Tracks.mergeStructured (h : Tracks S runtimeInputs) {config : JsonObject}
    (hconfig : Decoded (.obj config))
    (hmerge : mergeStructuredRuntimeInputs runtimeInputs config = .ok r) :
    Tracks (fun id supplied => (S id supplied ∨
      SuppliedAt (.obj config) structuredFields id supplied) ∨
      ∃ text, "consentedAccountId" = id ∧ supplied = .str text ∧
        FirstAccount (getField config "ais") text) r := by
  have hdecoded := decoded_getField hconfig
  obtain ⟨_, hsection, hmerge⟩ := bind_eq_ok.mp hmerge
  obtain rfl := optionalRuntimeConfigObject_eq_ok hsection
  obtain ⟨_, hresourceServer, hmerge⟩ := bind_eq_ok.mp hmerge
  obtain ⟨_, hsection, hmerge⟩ := bind_eq_ok.mp hmerge
  obtain rfl := optionalRuntimeConfigObject_eq_ok hsection
  obtain ⟨_, hoauth, hmerge⟩ := bind_eq_ok.mp hmerge
  obtain ⟨_, hsection, hmerge⟩ := bind_eq_ok.mp hmerge
  obtain rfl := optionalRuntimeConfigObject_eq_ok hsection
  obtain ⟨_, hcbpii, hmerge⟩ := bind_eq_ok.mp hmerge
  obtain ⟨_, hsection, hmerge⟩ := bind_eq_ok.mp hmerge
  obtain rfl := optionalRuntimeConfigObject_eq_ok hsection
  obtain ⟨_, hais, hmerge⟩ := bind_eq_ok.mp hmerge
  obtain ⟨_, hsection, hmerge⟩ := bind_eq_ok.mp hmerge
  obtain rfl := optionalRuntimeConfigObject_eq_ok hsection
  obtain ⟨_, hpis, hmerge⟩ := bind_eq_ok.mp hmerge
  obtain ⟨_, hsection, hvrp⟩ := bind_eq_ok.mp hmerge
  obtain rfl := optionalRuntimeConfigObject_eq_ok hsection
  refine ((((((h.mergeFields (hdecoded _) hresourceServer).mergeFields (hdecoded _)
    hoauth).mergeNestedFields (hdecoded _) hcbpii).mergeAis (hdecoded _) hais).mergePis
    (hdecoded _) hpis).mergeVrp (hdecoded _) hvrp).congr fun id supplied => ?_
  rw [structuredFields]
  simp only [suppliedAt_append, suppliedAt_under]
  have hshape {s a b c d e f g : Prop} : (s ∨ ((((a ∨ b) ∨ c) ∨ d) ∨ e) ∨ f) ∨ g ↔
      ((((((s ∨ a) ∨ b) ∨ c) ∨ d) ∨ g) ∨ e) ∨ f := by tauto
  exact hshape

/-- The scalar inputs are the scalars at the top of the configuration. -/
theorem mem_scalarRuntimeInputs {config : JsonObject} (hconfig : Decoded (.obj config))
    {id : String} {value : Json} :
    (scalarRuntimeInputs config).get? id = some value ↔
      (id, value) ∈ config ∧ id ∉ ["inputs", "runtimeInputs"] ∧ isContainer value = false := by
  have hscalars : (scalarRuntimeInputs config).entries = config.filter fun field =>
      ¬(field.1 ∈ ["inputs", "runtimeInputs"] ∨ isContainer field.2 = true) := by
    have hfold : scalarRuntimeInputs config = (config.filter fun field =>
        ¬(field.1 ∈ ["inputs", "runtimeInputs"] ∨ isContainer field.2 = true)).foldl
          (fun runtimeInputs field => runtimeInputs.set field.1 field.2) .empty := by
      rw [List.foldl_filter, scalarRuntimeInputs]
      congr 1
      funext runtimeInputs field
      simp only [decide_not, Bool.not_eq_true', decide_eq_false_iff_not, ite_not]
    rw [hfold, Dict.entries_foldl_set (hconfig.nodup.sublist (List.filter_sublist.map _))]
    exact List.map_id _
  rw [← Dict.mem_entries_iff, hscalars, List.mem_filter, decide_eq_true_eq, not_or,
    Bool.not_eq_true]

/-- The mapping starts with the scalar inputs. -/
theorem tracks_scalars {config : JsonObject} (hconfig : Decoded (.obj config)) :
    Tracks (fun id value => (id, value) ∈ config ∧ id ∉ ["inputs", "runtimeInputs"] ∧
      isContainer value = false) (scalarRuntimeInputs config) :=
  ⟨fun _ value hvalue => ⟨value, (mem_scalarRuntimeInputs hconfig).mpr hvalue,
      (hconfig.of_mem hvalue.1).pyEq_self⟩,
    fun _ _ hkept => (mem_scalarRuntimeInputs hconfig).mp hkept,
    fun _ _ hvalue => hconfig.of_mem hvalue.1⟩

/-- The value of a decoded input is decoded. -/
theorem decoded_runtimeValue {value : Json} (h : Decoded value) :
    Decoded (runtimeValueFromPlanConfigInput value) := by
  cases value with
  | obj fields =>
    rw [runtimeValueFromPlanConfigInput]
    cases hlookup : fields.lookup "value" with
    | none => exact h
    | some found => exact h.of_lookup hlookup
  | null | bool | int | float | str | arr => exact h

/-- Merging a section of inputs adds each of its entries. -/
theorem Tracks.mergeInputSection (h : Tracks S runtimeInputs) {config : JsonObject}
    (hconfig : Decoded (.obj config)) {key : String} {valueOf : Json → Json}
    (hvalueOf : ∀ value, Decoded value → Decoded (valueOf value))
    (hmerge : PlanConfig.mergeInputSection runtimeInputs config key valueOf = .ok r) :
    Tracks (fun id supplied => S id supplied ∨ ∃ entries, config.lookup key = some (.obj entries) ∧
      ∃ entry ∈ entries, entry.1 = id ∧ supplied = valueOf entry.2) r := by
  unfold PlanConfig.mergeInputSection at hmerge
  split at hmerge
  · rename_i hnone
    obtain rfl := Except.ok.inj hmerge
    exact h.congr fun id supplied => by simp [hnone]
  · rename_i entries hentries
    have hdecoded := hconfig.of_lookup hentries
    refine (h.foldlM (A := fun entry id supplied => entry.1 = id ∧ supplied = valueOf entry.2)
      (fun entry hentry S runtimeInputs r h hmerge => ?_) hmerge).congr fun id supplied => ?_
    · exact h.merge (hvalueOf _ (hdecoded.of_mem hentry)) hmerge
    · refine or_congr_right ⟨?_, fun hentry => ⟨entries, hentries, hentry⟩⟩
      rintro ⟨entries', hentries', hentry⟩
      rw [hentries] at hentries'
      cases hentries'
      exact hentry
  · cases hmerge

/-- The mapping keeps for every id one of the values supplied, and the others are equal to it
    under `==`. -/
theorem tracks_of_runtimeInputs {config : JsonObject} (hconfig : Decoded (.obj config))
    (h : runtimeInputsFromPlanConfig config = .ok r) : Tracks (Supplies config) r := by
  obtain ⟨structured, hstructured, h⟩ := bind_eq_ok.mp h
  obtain ⟨merged, hmerged, h⟩ := bind_eq_ok.mp h
  refine ((((tracks_scalars hconfig).mergeStructured hconfig hstructured).mergeInputSection hconfig
    (fun _ hvalue => hvalue) hmerged).mergeInputSection hconfig
    (fun _ hvalue => decoded_runtimeValue hvalue) h).congr fun id value => ⟨fun hvalue => ?_, ?_⟩
  · cases hvalue with
    | scalar h hid hvalue => exact .inl (.inl (.inl (.inl ⟨h, hid, hvalue⟩)))
    | structured h => exact .inl (.inl (.inl (.inr h)))
    | @account text h => exact .inl (.inl (.inr ⟨text, rfl, rfl, h⟩))
    | runtimeInput hentries h => exact .inl (.inr ⟨_, hentries, _, h, rfl, rfl⟩)
    | input hentries h => exact .inr ⟨_, hentries, _, h, rfl, rfl⟩
  · rintro ((((⟨h, hid, hvalue⟩ | h) | ⟨text, rfl, rfl, h⟩) | ⟨_, hentries, entry, h, rfl, rfl⟩) |
      ⟨_, hentries, entry, h, rfl, rfl⟩)
    · exact .scalar h hid hvalue
    · exact .structured h
    · exact .account h
    · exact .runtimeInput hentries h
    · exact .input hentries h

/-! ## Configs that are equal as JSON -/

/-- Two values that are equal as JSON. -/
structure Same (a b : Json) : Prop where
  left : Decoded a
  right : Decoded b
  equal : jsonValuesEqual a b = true

theorem Same.refl {a : Json} (h : Decoded a) : Same a a := ⟨h, h, jsonValuesEqual_refl h⟩

theorem Same.pyEq {a b : Json} (h : Same a b) : a.pyEq b = true :=
  pyEq_of_jsonValuesEqual h.left h.right h.equal

/-- Values that are equal as JSON are equal under `==` to the same values. -/
theorem Same.pyEq_iff {a a' b b' : Json} (ha : Same a a') (hb : Same b b') :
    a.pyEq b = true ↔ a'.pyEq b' = true := by
  constructor
  · intro h
    exact pyEq_trans ha.right ha.left hb.right (pyEq_symm ha.left ha.right ha.pyEq)
      (pyEq_trans ha.left hb.left hb.right h hb.pyEq)
  · intro h
    exact pyEq_trans ha.left ha.right hb.left ha.pyEq
      (pyEq_trans ha.right hb.right hb.left h (pyEq_symm hb.left hb.right hb.pyEq))

/-- Objects that are the same have the same members. -/
theorem Same.rel_lookup {fields fields' : JsonObject} (h : Same (.obj fields) (.obj fields'))
    (key : String) : Option.Rel Same (fields.lookup key) (fields'.lookup key) := by
  have hkey := (jsonValuesEqual_obj_iff h.left.nodup).mp h.equal key
  cases hx : fields.lookup key with
  | none =>
    cases hy : fields'.lookup key with
    | none => exact .none
    | some y =>
      rw [hx, hy] at hkey
      cases hkey
  | some x =>
    cases hy : fields'.lookup key with
    | none =>
      rw [hx, hy] at hkey
      cases hkey
    | some y =>
      rw [hx, hy] at hkey
      cases hkey with
      | some heq => exact .some ⟨h.left.of_lookup hx, h.right.of_lookup hy, heq⟩

/-- Objects that are the same have the same fields. -/
theorem Same.getField {fields fields' : JsonObject} (h : Same (.obj fields) (.obj fields'))
    (key : String) : Same (Conformance.getField fields key) (Conformance.getField fields' key) := by
  have hkey := h.rel_lookup key
  unfold Conformance.getField
  generalize fields.lookup key = x at hkey
  generalize fields'.lookup key = y at hkey
  cases hkey with
  | none => exact .refl .null
  | some hsame => exact hsame

/-- How two values that are equal as JSON look. -/
inductive Shape : Json → Json → Prop where
  | null : Shape .null .null
  | bool (x : Bool) : Shape (.bool x) (.bool x)
  | int (n m : Int) : Shape (.int n) (.int m)
  | intFloat (n : Int) (q : Rat) : Shape (.int n) (.float q)
  | floatInt (q : Rat) (n : Int) : Shape (.float q) (.int n)
  | float (q q' : Rat) : Shape (.float q) (.float q')
  | str (s : String) : Shape (.str s) (.str s)
  | arr {xs ys : List Json} (h : List.Forall₂ Same xs ys) : Shape (.arr xs) (.arr ys)
  | obj {xs ys : JsonObject} (h : Same (.obj xs) (.obj ys)) : Shape (.obj xs) (.obj ys)

/-- Values that are the same have the same shape. -/
theorem Same.shape {a b : Json} (h : Same a b) : Shape a b := by
  obtain ⟨hleft, hright, heq⟩ := h
  cases a with
  | null =>
    rw [jsonValuesEqual_null_iff.mp heq]
    exact .null
  | bool x =>
    rw [jsonValuesEqual_bool_iff.mp heq]
    exact .bool x
  | str s =>
    rw [jsonValuesEqual_str_iff.mp heq]
    exact .str s
  | int n =>
    have hnumber := (jsonValuesEqual_number_iff rfl).mp heq
    cases b with
    | int m => exact .int n m
    | float q => exact .intFloat n q
    | null | bool | str | arr | obj => cases hnumber
  | float q =>
    have hnumber := (jsonValuesEqual_number_iff rfl).mp heq
    cases b with
    | int m => exact .floatInt q m
    | float q' => exact .float q q'
    | null | bool | str | arr | obj => cases hnumber
  | arr xs =>
    obtain ⟨ys, rfl, hitems⟩ := jsonValuesEqual_arr_iff.mp heq
    cases hleft with
    | arr hleft =>
      cases hright with
      | arr hright =>
        exact .arr (hitems.imp_of_mem fun x y hx hy hxy => ⟨hleft x hx, hright y hy, hxy⟩)
  | obj xs =>
    obtain ⟨ys, rfl⟩ := jsonValuesEqual_obj_exists heq
    exact .obj ⟨hleft, hright, heq⟩

theorem Same.isBlank {a b : Json} (h : Same a b) :
    PlanConfig.isBlank a = PlanConfig.isBlank b := by
  cases h.shape <;> rfl

theorem Same.isContainer {a b : Json} (h : Same a b) :
    PlanConfig.isContainer a = PlanConfig.isContainer b := by
  cases h.shape <;> rfl

/-- Both return, with related values, or both raise a `CatalogueError`. -/
inductive Agree {α : Type} (R : α → α → Prop) : Except PyError α → Except PyError α → Prop where
  | ok {a b : α} (h : R a b) : Agree R (.ok a) (.ok b)
  | catalogueError (message message' : String) :
    Agree R (.error (.catalogueError message)) (.error (.catalogueError message'))

/-- Computations agree when their parts do. -/
theorem Agree.bind {α β : Type} {R : α → α → Prop} {Q : β → β → Prop} {x y : Except PyError α}
    {f g : α → Except PyError β} (h : Agree R x y) (hf : ∀ a b, R a b → Agree Q (f a) (g b)) :
    Agree Q (x >>= f) (y >>= g) := by
  cases h with
  | ok hab => exact hf _ _ hab
  | catalogueError message message' => exact .catalogueError message message'

/-- Loops agree when their steps do. -/
theorem Agree.foldlM {α β : Type} {Q : β → β → Prop} {f g : β → α → Except PyError β}
    {items : List α} (hstep : ∀ item ∈ items, ∀ b b', Q b b' → Agree Q (f b item) (g b' item))
    {b b' : β} (h : Q b b') : Agree Q (items.foldlM f b) (items.foldlM g b') := by
  induction items generalizing b b' with
  | nil => exact .ok h
  | cons item rest ih =>
    rw [List.foldlM_cons, List.foldlM_cons]
    exact (hstep item List.mem_cons_self b b' h).bind fun _ _ hnext =>
      ih (fun other hother => hstep other (List.mem_cons_of_mem item hother)) hnext

/-- The same ids with values that are equal as JSON. -/
def SameInputs (runtimeInputs runtimeInputs' : Dict String Json) : Prop :=
  ∀ id, Option.Rel Same (runtimeInputs.get? id) (runtimeInputs'.get? id)

variable {runtimeInputs' : Dict String Json}

/-- Setting the same value keeps mappings the same. -/
theorem SameInputs.set (h : SameInputs runtimeInputs runtimeInputs') (id : String)
    {value value' : Json} (hvalue : Same value value') :
    SameInputs (runtimeInputs.set id value) (runtimeInputs'.set id value') := by
  intro other
  rw [Dict.get?_set, Dict.get?_set]
  split
  · exact .some hvalue
  · exact h other

/-- A value can be merged. -/
def Fits (runtimeInputs : Dict String Json) (id : String) (value : Json) : Prop :=
  strip id ≠ "" ∧ ∀ existing, runtimeInputs.get? id = some existing → existing.pyEq value = true

/-- Merging sets a value that fits and raises a `CatalogueError` otherwise. -/
theorem merge_cases (runtimeInputs : Dict String Json) (id : String) (value : Json)
    (location : String) :
    (Fits runtimeInputs id value ∧ mergePlanConfigRuntimeInput runtimeInputs id value location =
      .ok (runtimeInputs.set id value)) ∨
    (¬Fits runtimeInputs id value ∧ ∃ message, mergePlanConfigRuntimeInput runtimeInputs id value
      location = .error (.catalogueError message)) := by
  unfold mergePlanConfigRuntimeInput Fits
  by_cases hblank : strip id = ""
  · exact .inr ⟨fun h => h.1 hblank, by simp [hblank]⟩
  · cases hget : runtimeInputs.get? id with
    | none => exact .inl ⟨⟨hblank, nofun⟩, by simp [hblank]⟩
    | some existing =>
      by_cases heq : existing.pyEq value = true
      · exact .inl ⟨⟨hblank, fun other hother => Option.some.inj hother ▸ heq⟩,
          by simp [hblank, heq]⟩
      · exact .inr ⟨fun h => heq (h.2 existing rfl), by simp [hblank, heq]⟩

/-- The same values fit the same mappings. -/
theorem SameInputs.fits_iff (h : SameInputs runtimeInputs runtimeInputs') (id : String)
    {value value' : Json} (hvalue : Same value value') :
    Fits runtimeInputs id value ↔ Fits runtimeInputs' id value' := by
  refine and_congr_right fun _ => ?_
  have hid := h id
  cases hx : runtimeInputs.get? id with
  | none =>
    cases hy : runtimeInputs'.get? id with
    | none => exact ⟨fun _ => nofun, fun _ => nofun⟩
    | some y =>
      rw [hx, hy] at hid
      cases hid
  | some x =>
    cases hy : runtimeInputs'.get? id with
    | none =>
      rw [hx, hy] at hid
      cases hid
    | some y =>
      rw [hx, hy] at hid
      cases hid with
      | some hsame =>
        simp only [Option.some.injEq, forall_eq']
        exact hsame.pyEq_iff hvalue

/-- Merging agrees on the same mappings and values. -/
theorem agree_merge (h : SameInputs runtimeInputs runtimeInputs') (id location location' : String)
    {value value' : Json} (hvalue : Same value value') :
    Agree SameInputs (mergePlanConfigRuntimeInput runtimeInputs id value location)
      (mergePlanConfigRuntimeInput runtimeInputs' id value' location') := by
  have hfits := h.fits_iff id hvalue
  rcases merge_cases runtimeInputs id value location with ⟨hfit, hok⟩ | ⟨hfit, message, herror⟩ <;>
    rcases merge_cases runtimeInputs' id value' location' with ⟨hfit', hok'⟩ |
      ⟨hfit', message', herror'⟩
  · rw [hok, hok']
    exact .ok (h.set id hvalue)
  · exact absurd (hfits.mp hfit) hfit'
  · exact absurd (hfits.mpr hfit') hfit
  · rw [herror, herror']
    exact .catalogueError message message'

/-- So does merging an optional value. -/
theorem agree_mergeOptional (h : SameInputs runtimeInputs runtimeInputs') (id location : String)
    {value value' : Json} (hvalue : Same value value') :
    Agree SameInputs (mergeOptionalStructuredRuntimeInput runtimeInputs id value location)
      (mergeOptionalStructuredRuntimeInput runtimeInputs' id value' location) := by
  unfold mergeOptionalStructuredRuntimeInput
  rw [hvalue.isBlank]
  split
  · exact .ok h
  · exact agree_merge h id location location hvalue

/-- Two objects that are equal as JSON. -/
def SameFields (fields fields' : JsonObject) : Prop := Same (.obj fields) (.obj fields')

/-- So does merging the fields of a section. -/
theorem agree_mergeFields (h : SameInputs runtimeInputs runtimeInputs') {fields fields' : JsonObject}
    (hfields : SameFields fields fields') (location : String) (inputs : List (String × String)) :
    Agree SameInputs (mergeFields runtimeInputs fields location inputs)
      (mergeFields runtimeInputs' fields' location inputs) :=
  Agree.foldlM (fun input _ _ _ h => agree_mergeOptional h input.1 _ (hfields.getField input.2)) h

theorem sameFields_nil : SameFields [] [] := .refl (.obj List.nodup_nil (by simp))

/-- The same values are read as the same section. -/
theorem agree_sectionOf {value value' : Json} (h : Same value value') (message : String) :
    Agree SameFields (sectionOf message value) (sectionOf message value') := by
  cases h.shape with
  | null => exact .ok sameFields_nil
  | obj hfields => exact .ok hfields
  | _ => exact .catalogueError _ _

/-- A section of configurations that are the same is the same. -/
theorem agree_optionalRuntimeConfigObject {config config' : JsonObject}
    (h : SameFields config config') (key : String) :
    Agree SameFields (optionalRuntimeConfigObject config key)
      (optionalRuntimeConfigObject config' key) := by
  rw [optionalRuntimeConfigObject_eq, optionalRuntimeConfigObject_eq]
  exact agree_sectionOf (h.getField key) _

/-- A section of sections that are the same is the same. -/
theorem agree_optionalNestedRuntimeConfigObject {fields fields' : JsonObject}
    (h : SameFields fields fields') (key : String) :
    Agree SameFields (optionalNestedRuntimeConfigObject fields key)
      (optionalNestedRuntimeConfigObject fields' key) := by
  rw [optionalNestedRuntimeConfigObject_eq, optionalNestedRuntimeConfigObject_eq]
  exact agree_sectionOf (h.getField key) _

/-- Merging a nested section agrees. -/
theorem agree_mergeNestedFields (h : SameInputs runtimeInputs runtimeInputs')
    {fields fields' : JsonObject} (hfields : SameFields fields fields') (key location : String)
    (inputs : List (String × String)) :
    Agree SameInputs (mergeNestedFields runtimeInputs fields key location inputs)
      (mergeNestedFields runtimeInputs' fields' key location inputs) :=
  (agree_optionalNestedRuntimeConfigObject hfields key).bind fun _ _ hnested =>
    agree_mergeFields h hnested _ inputs

/-- The first text of lists that are the same is the same. -/
theorem agree_firstObjectString {value value' : Json} (h : Same value value') (key : String) :
    Agree Same (firstObjectString value key) (firstObjectString value' key) := by
  cases h.shape with
  | null => exact .ok (.refl .null)
  | arr hitems =>
    cases hitems with
    | nil => exact .ok (.refl .null)
    | @cons first first' _ _ hfirst _ =>
      cases hfirst.shape with
      | @obj fields fields' hfields =>
        have hkey := (hfields.getField key).shape
        simp only [firstObjectString]
        generalize getField fields key = text at hkey
        generalize getField fields' key = text' at hkey
        cases hkey with
        | null => exact .ok (.refl .null)
        | str s => exact .ok (.refl (.str s))
        | _ => exact .catalogueError _ _
      | _ => exact .catalogueError _ _
  | _ => exact .catalogueError _ _

/-- Merging the AIS section agrees. -/
theorem agree_mergeAis (h : SameInputs runtimeInputs runtimeInputs') {ais ais' : JsonObject}
    (hais : SameFields ais ais') :
    Agree SameInputs (mergeAisRuntimeInputs runtimeInputs ais)
      (mergeAisRuntimeInputs runtimeInputs' ais') :=
  (agree_optionalNestedRuntimeConfigObject hais "resourceIds").bind fun _ _ hids =>
    (agree_firstObjectString (hids.getField "accountIds") "accountId").bind fun _ _ haccount =>
      (agree_mergeOptional h _ _ haccount).bind fun _ _ h => agree_mergeFields h hais _ _

/-- Merging the PIS section agrees. -/
theorem agree_mergePis (h : SameInputs runtimeInputs runtimeInputs') {pis pis' : JsonObject}
    (hpis : SameFields pis pis') :
    Agree SameInputs (mergePisRuntimeInputs runtimeInputs pis)
      (mergePisRuntimeInputs runtimeInputs' pis') :=
  (agree_mergeNestedFields h hpis _ _ _).bind fun _ _ h =>
    (agree_mergeNestedFields h hpis _ _ _).bind fun _ _ h =>
      (agree_mergeNestedFields h hpis _ _ _).bind fun _ _ h =>
        (agree_mergeNestedFields h hpis _ _ _).bind fun _ _ h => agree_mergeFields h hpis _ _

/-- Merging the VRP section agrees. -/
theorem agree_mergeVrp (h : SameInputs runtimeInputs runtimeInputs') {vrp vrp' : JsonObject}
    (hvrp : SameFields vrp vrp') :
    Agree SameInputs (mergeVrpRuntimeInputs runtimeInputs vrp)
      (mergeVrpRuntimeInputs runtimeInputs' vrp') :=
  (agree_mergeNestedFields h hvrp _ _ _).bind fun _ _ h =>
    (agree_mergeNestedFields h hvrp _ _ _).bind fun _ _ h => agree_mergeFields h hvrp _ _

/-- Merging the structured sections agrees. -/
theorem agree_mergeStructured (h : SameInputs runtimeInputs runtimeInputs')
    {config config' : JsonObject} (hconfig : SameFields config config') :
    Agree SameInputs (mergeStructuredRuntimeInputs runtimeInputs config)
      (mergeStructuredRuntimeInputs runtimeInputs' config') := by
  have hsection := agree_optionalRuntimeConfigObject hconfig
  exact (hsection "resourceServer").bind fun _ _ hfields =>
    (agree_mergeFields h hfields _ _).bind fun _ _ h =>
      (hsection "oauth").bind fun _ _ hfields =>
        (agree_mergeFields h hfields _ _).bind fun _ _ h =>
          (hsection "cbpii").bind fun _ _ hfields =>
            (agree_mergeNestedFields h hfields _ _ _).bind fun _ _ h =>
              (hsection "ais").bind fun _ _ hfields =>
                (agree_mergeAis h hfields).bind fun _ _ h =>
                  (hsection "pis").bind fun _ _ hfields =>
                    (agree_mergePis h hfields).bind fun _ _ h =>
                      (hsection "vrp").bind fun _ _ hfields => agree_mergeVrp h hfields

/-- Configurations that are the same have the same scalar inputs. -/
theorem sameInputs_scalars {config config' : JsonObject} (hconfig : SameFields config config') :
    SameInputs (scalarRuntimeInputs config) (scalarRuntimeInputs config') := by
  have hmem {fields : JsonObject} (hdecoded : Decoded (.obj fields)) (id : String) :
      (scalarRuntimeInputs fields).get? id = (fields.lookup id).filter fun value =>
        id ∉ ["inputs", "runtimeInputs"] ∧ isContainer value = false := by
    refine Option.ext fun value => ?_
    rw [mem_scalarRuntimeInputs hdecoded, Option.filter_eq_some_iff, decide_eq_true_eq]
    refine and_congr_left fun _ => ⟨lookup_of_mem hdecoded.nodup, mem_of_lookup⟩
  intro id
  rw [hmem hconfig.left, hmem hconfig.right]
  have hid := hconfig.rel_lookup id
  generalize config.lookup id = value at hid
  generalize config'.lookup id = value' at hid
  cases hid with
  | none => exact .none
  | some hsame =>
    rw [Option.filter_some, Option.filter_some, hsame.isContainer]
    split
    · exact .some hsame
    · exact .none

theorem lookup_cons_self (id : String) (value : Json) (rest : JsonObject) :
    ((id, value) :: rest).lookup id = some value := by
  rw [List.lookup_cons, beq_self_eq_true]

theorem lookup_cons_ne {id other : String} (h : other ≠ id) (value : Json) (rest : JsonObject) :
    ((id, value) :: rest).lookup other = rest.lookup other := by
  rw [List.lookup_cons, beq_eq_false_iff_ne.mpr h]

/-- The entries of an object are merged when each of them can be, whatever their order. -/
theorem mergeEntries_cases (valueOf : Json → Json) (location : String) {entries : JsonObject}
    (hnodup : (entries.map Prod.fst).Nodup) (runtimeInputs : Dict String Json) :
    ((∀ entry ∈ entries, Fits runtimeInputs entry.1 (valueOf entry.2)) ∧
      ∃ r, entries.foldlM (fun runtimeInputs entry => mergePlanConfigRuntimeInput
          runtimeInputs entry.1 (valueOf entry.2) location) runtimeInputs = .ok r ∧
        ∀ id, r.get? id = ((entries.lookup id).map valueOf).or (runtimeInputs.get? id)) ∨
    ((¬∀ entry ∈ entries, Fits runtimeInputs entry.1 (valueOf entry.2)) ∧
      ∃ message, entries.foldlM (fun runtimeInputs entry => mergePlanConfigRuntimeInput
          runtimeInputs entry.1 (valueOf entry.2) location) runtimeInputs =
        .error (.catalogueError message)) := by
  induction entries generalizing runtimeInputs with
  | nil => exact .inl ⟨nofun, runtimeInputs, rfl, fun id => rfl⟩
  | cons entry rest ih =>
    rw [List.map_cons, List.nodup_cons] at hnodup
    obtain ⟨hnew, hrest⟩ := hnodup
    rw [List.foldlM_cons, List.forall_mem_cons]
    rcases merge_cases runtimeInputs entry.1 (valueOf entry.2) location with ⟨hfit, hok⟩ |
      ⟨hfit, message, herror⟩
    · rw [hok]
      -- the first entry says nothing about the ids of the others
      have hlater : (∀ other ∈ rest, Fits (runtimeInputs.set entry.1 (valueOf entry.2)) other.1
          (valueOf other.2)) ↔ ∀ other ∈ rest, Fits runtimeInputs other.1 (valueOf other.2) := by
        refine forall₂_congr fun other hother => ?_
        have hne : other.1 ≠ entry.1 := fun heq => hnew (heq ▸ List.mem_map_of_mem hother)
        rw [Fits, Fits, Dict.get?_set, if_neg hne]
      rcases ih hrest (runtimeInputs.set entry.1 (valueOf entry.2)) with ⟨hfits, r, hr, hget⟩ |
        ⟨hfits, message, herror⟩
      · refine .inl ⟨⟨hfit, hlater.mp hfits⟩, r, hr, fun id => ?_⟩
        rw [hget, Dict.get?_set]
        by_cases hid : id = entry.1
        · subst hid
          rw [lookup_eq_none_iff_notMem_keys.mpr hnew, lookup_cons_self, if_pos rfl]
          rfl
        · rw [if_neg hid, lookup_cons_ne hid]
      · exact .inr ⟨fun h => hfits (hlater.mpr h.2), message, herror⟩
    · rw [herror]
      exact .inr ⟨fun h => hfit h.1, message, rfl⟩

/-- Merging the entries of a section agrees. -/
theorem agree_mergeEntries (h : SameInputs runtimeInputs runtimeInputs')
    {entries entries' : JsonObject} (hentries : SameFields entries entries')
    {valueOf : Json → Json} (hvalueOf : ∀ value value', Same value value' →
      Same (valueOf value) (valueOf value')) (location : String) :
    Agree SameInputs
      (entries.foldlM (fun runtimeInputs entry => mergePlanConfigRuntimeInput runtimeInputs
        entry.1 (valueOf entry.2) location) runtimeInputs)
      (entries'.foldlM (fun runtimeInputs entry => mergePlanConfigRuntimeInput runtimeInputs
        entry.1 (valueOf entry.2) location) runtimeInputs') := by
  have hrel {entries entries' : JsonObject} (hentries : SameFields entries entries')
      {runtimeInputs runtimeInputs' : Dict String Json}
      (h : SameInputs runtimeInputs runtimeInputs')
      (hfits : ∀ entry ∈ entries, Fits runtimeInputs entry.1 (valueOf entry.2)) :
      ∀ entry ∈ entries', Fits runtimeInputs' entry.1 (valueOf entry.2) := by
    intro entry hentry
    have hid := hentries.rel_lookup entry.1
    rw [lookup_of_mem hentries.right.nodup hentry] at hid
    cases hx : entries.lookup entry.1 with
    | none =>
      rw [hx] at hid
      cases hid
    | some x =>
      rw [hx] at hid
      cases hid with
      | some hsame =>
        exact (h.fits_iff entry.1 (hvalueOf _ _ hsame)).mp (hfits (entry.1, x) (mem_of_lookup hx))
  have hsymm {a b : Json} (h : Same a b) : Same b a :=
    ⟨h.right, h.left, jsonValuesEqual_symm h.left h.right h.equal⟩
  have hinputs : SameInputs runtimeInputs' runtimeInputs := fun id => by
    have hid := h id
    generalize runtimeInputs.get? id = value at hid
    generalize runtimeInputs'.get? id = value' at hid
    cases hid with
    | none => exact .none
    | some hsame => exact .some (hsymm hsame)
  rcases mergeEntries_cases valueOf location hentries.left.nodup runtimeInputs with
    ⟨hfits, r, hr, hget⟩ | ⟨hfits, message, herror⟩ <;>
    rcases mergeEntries_cases valueOf location hentries.right.nodup runtimeInputs' with
      ⟨hfits', r', hr', hget'⟩ | ⟨hfits', message', herror'⟩
  · rw [hr, hr']
    refine .ok fun id => ?_
    rw [hget, hget']
    have hid := hentries.rel_lookup id
    generalize entries.lookup id = value at hid
    generalize entries'.lookup id = value' at hid
    cases hid with
    | none => exact h id
    | some hsame => exact .some (hvalueOf _ _ hsame)
  · exact absurd (hrel hentries h hfits) hfits'
  · exact absurd (hrel (hsymm hentries) hinputs hfits') hfits
  · rw [herror, herror']
    exact .catalogueError message message'

/-- Inputs that are the same have the same values. -/
theorem same_runtimeValue {value value' : Json} (h : Same value value') :
    Same (runtimeValueFromPlanConfigInput value) (runtimeValueFromPlanConfigInput value') := by
  cases h.shape with
  | @obj fields fields' hfields =>
    have hvalue := hfields.rel_lookup "value"
    simp only [runtimeValueFromPlanConfigInput]
    generalize fields.lookup "value" = found at hvalue
    generalize fields'.lookup "value" = found' at hvalue
    cases hvalue with
    | none => exact h
    | some hsame => exact hsame
  | _ => exact h

/-- Merging a section of inputs agrees. -/
theorem agree_mergeInputSection (h : SameInputs runtimeInputs runtimeInputs')
    {config config' : JsonObject} (hconfig : SameFields config config') (key : String)
    {valueOf : Json → Json} (hvalueOf : ∀ value value', Same value value' →
      Same (valueOf value) (valueOf value')) :
    Agree SameInputs (mergeInputSection runtimeInputs config key valueOf)
      (mergeInputSection runtimeInputs' config' key valueOf) := by
  have hkey := hconfig.rel_lookup key
  unfold mergeInputSection
  generalize config.lookup key = found at hkey
  generalize config'.lookup key = found' at hkey
  cases hkey with
  | none => exact .ok h
  | some hsame =>
    cases hsame.shape with
    | obj hentries => exact agree_mergeEntries h hentries hvalueOf _
    | _ => exact .catalogueError _ _

/-- Configs that are equal as JSON have one outcome. -/
theorem agree_runtimeInputs {config config' : JsonObject} (hconfig : SameFields config config') :
    Agree SameInputs (runtimeInputsFromPlanConfig config) (runtimeInputsFromPlanConfig config') :=
  (agree_mergeStructured (sameInputs_scalars hconfig) hconfig).bind fun _ _ h =>
    (agree_mergeInputSection h hconfig "runtimeInputs" fun _ _ hsame => hsame).bind fun _ _ h =>
      agree_mergeInputSection h hconfig "inputs" fun _ _ hsame => same_runtimeValue hsame

/-! ## No silent conflict -/

/-- Every value that is supplied is the one that is kept, and nothing else is kept. -/
structure Derived (config : JsonObject) (r : Dict String Json) : Prop where
  agrees : ∀ id value, Supplies config id value →
    ∃ kept, r.get? id = some kept ∧ jsonValuesEqual value kept = true
  supplied : ∀ id kept, r.get? id = some kept → Supplies config id kept

/-- Of the values supplied for one id none has a boolean where another has a number. -/
def NoBoolFacesNumber (config : JsonObject) : Prop :=
  ∀ id value value', Supplies config id value → Supplies config id value' →
    ¬BoolFacesNumber value value'

/-- Runtime inputs that are derived from a config keep every value supplied exactly when no boolean
    was supplied where another location supplied a number; and configs that are equal as JSON,
    whatever the order of their keys, have one outcome. -/
theorem suppliedInputs_iff (config : JsonObject) (hconfig : Decoded (.obj config)) :
    (∀ r, runtimeInputsFromPlanConfig config = .ok r →
      (Derived config r ↔ NoBoolFacesNumber config)) ∧
    ∀ config', Decoded (.obj config') → jsonValuesEqual (.obj config) (.obj config') = true →
      Agree SameInputs (runtimeInputsFromPlanConfig config)
        (runtimeInputsFromPlanConfig config') := by
  refine ⟨fun r hr => ?_, fun config' hconfig' heq => agree_runtimeInputs ⟨hconfig, hconfig', heq⟩⟩
  have htracks := tracks_of_runtimeInputs hconfig hr
  constructor
  · intro hderived id value value' hvalue hvalue'
    obtain ⟨kept, hkept, heq⟩ := hderived.agrees id value hvalue
    obtain ⟨kept', hkept', heq'⟩ := hderived.agrees id value' hvalue'
    rw [hkept] at hkept'
    obtain rfl := Option.some.inj hkept'
    have hdecoded := htracks.decoded id
    -- two values equal to the one kept are equal, so no boolean faces a number
    have hkeptDecoded := hdecoded kept (htracks.supplied id kept hkept)
    exact not_boolFacesNumber_of_equal (jsonValuesEqual_trans (hdecoded value hvalue) hkeptDecoded
      heq (jsonValuesEqual_symm (hdecoded value' hvalue') hkeptDecoded heq'))
  · intro hfaces
    refine ⟨fun id value hvalue => ?_, htracks.supplied⟩
    -- Python's equality, which is strict where no boolean faces a number
    obtain ⟨kept, hkept, heq⟩ := htracks.agrees id value hvalue
    have hsupplied := htracks.supplied id kept hkept
    have hdecoded := htracks.decoded id
    exact ⟨kept, hkept, jsonValuesEqual_of_pyEq (hdecoded value hvalue) (hdecoded kept hsupplied)
      (pyEq_symm (hdecoded kept hsupplied) (hdecoded value hvalue) heq)
      (hfaces id value kept hvalue hsupplied)⟩

/-- A config that supplies the resource base URL as a scalar and in `runtimeInputs`. -/
def urlTwice : JsonObject :=
  [("resourceBaseUrl", .str "https://bank.example"),
    ("runtimeInputs", .obj [("resourceBaseUrl", .str "https://bank.example"),
      ("pageSize", .int 50)])]

/-- All it supplies is the URL, twice, and a number. -/
theorem supplies_urlTwice {id : String} {value : Json} (h : Supplies urlTwice id value) :
    id = "resourceBaseUrl" ∧ value = .str "https://bank.example" ∨
      id = "pageSize" ∧ value = .int 50 := by
  cases h with
  | scalar h hid hvalue =>
    rcases List.mem_pair.mp h with heq | heq <;> obtain ⟨rfl, rfl⟩ := Prod.mk.inj heq
    · exact .inl ⟨rfl, rfl⟩
    · cases hvalue
  | structured h =>
    obtain ⟨field, hfield, -, rfl, hvalue⟩ := h
    have hblank : ∀ field ∈ structuredFields, isBlank (valueAt (.obj urlTwice) field.1) = true := by
      decide
    rw [hblank field hfield] at hvalue
    cases hvalue
  | account h =>
    obtain ⟨first, rest, hfirst, -⟩ := h
    have hnull : valueAt (getField urlTwice "ais") ["resourceIds", "accountIds"] = .null := rfl
    rw [hnull] at hfirst
    cases hfirst
  | runtimeInput hentries h =>
    cases hentries
    rcases List.mem_pair.mp h with heq | heq <;> obtain ⟨rfl, rfl⟩ := Prod.mk.inj heq
    · exact .inl ⟨rfl, rfl⟩
    · exact .inr ⟨rfl, rfl⟩
  | input hentries _ => cases hentries

/-- An id that is supplied twice, with equal values. -/
theorem suppliedInputs_iff_url :
    ∃ r, runtimeInputsFromPlanConfig urlTwice = .ok r ∧ Derived urlTwice r ∧
      Agree SameInputs (runtimeInputsFromPlanConfig urlTwice)
        (runtimeInputsFromPlanConfig urlTwice.reverse) := by
  have hdecoded : Decoded (.obj urlTwice) := decoded_of_isDecoded (by decide)
  have hreversed : Decoded (.obj urlTwice.reverse) := decoded_of_isDecoded (by decide)
  have hfaces : NoBoolFacesNumber urlTwice := by
    intro id value value' hvalue hvalue' hface
    rcases supplies_urlTwice hvalue with ⟨rfl, rfl⟩ | ⟨rfl, rfl⟩ <;>
      rcases supplies_urlTwice hvalue' with ⟨hid, rfl⟩ | ⟨hid, rfl⟩ <;> cases hface
  exact ⟨_, rfl, ((suppliedInputs_iff urlTwice hdecoded).1 _ rfl).mpr hfaces,
    (suppliedInputs_iff urlTwice hdecoded).2 _ hreversed (by decide)⟩

/-- A config that supplies `true` for an id and the number 1 for the same id in `runtimeInputs`. -/
def trueAndOne : JsonObject :=
  [("sandbox", .bool true), ("runtimeInputs", .obj [("sandbox", .int 1)])]

/-- `true` and 1 are merged, and `true` is lost. -/
theorem trueAndOne_merged : (∃ r, runtimeInputsFromPlanConfig trueAndOne = .ok r) ∧
    ¬∃ r, runtimeInputsFromPlanConfig trueAndOne = .ok r ∧ Derived trueAndOne r := by
  refine ⟨⟨_, rfl⟩, ?_⟩
  rintro ⟨r, hr, hderived⟩
  obtain ⟨kept, hkept, heq⟩ := hderived.agrees "sandbox" (.bool true)
    (.scalar (by simp [trueAndOne]) (by decide) rfl)
  cases hr
  rw [jsonValuesEqual_bool_iff.mp heq] at hkept
  cases hkept

end PlanConfig

end Conformance
