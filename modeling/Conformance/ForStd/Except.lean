import Mathlib.Data.List.Forall2

/-!
# Exceptions and exception-raising loops

Inversion lemmas for `Except` computations: what a successful `bind` did, and
an induction rule for a `foldlM` that ran to its end. Every modelled function
that can raise is peeled apart with these two, so that later proofs never
unfold the monad.
-/

universe u v

namespace Except

variable {ε : Type u} {α β : Type v}

/-- A `bind` that succeeds ran its first computation to a value and then its
    continuation on that value. -/
theorem bind_eq_ok {x : Except ε α} {f : α → Except ε β} {b : β} :
    (x >>= f) = .ok b ↔ ∃ a, x = .ok a ∧ f a = .ok b := by
  constructor
  · intro h
    cases x with
    | error e => cases h
    | ok a => exact ⟨a, rfl, h⟩
  · rintro ⟨a, rfl, h⟩
    exact h

/-- A `bind` that raises did so in its first computation or in its continuation. -/
theorem bind_eq_error {x : Except ε α} {f : α → Except ε β} {e : ε} :
    (x >>= f) = .error e ↔ x = .error e ∨ ∃ a, x = .ok a ∧ f a = .error e := by
  cases x with
  | error e' => simp [bind, Except.bind]
  | ok a => simp [bind, Except.bind]

/-- What is no success is an error. -/
theorem exists_error {x : Except ε α} (h : ∀ a, x ≠ .ok a) : ∃ e, x = .error e := by
  cases x with
  | error e => exact ⟨e, rfl⟩
  | ok a => exact absurd rfl (h a)

/-- A computation whose result passes a test returned a value that passes it. -/
theorem exists_ok_of_any {x : Except ε α} {p : α → Bool} (h : x.toOption.any p = true) :
    ∃ a, x = .ok a ∧ p a = true := by
  cases x with
  | error e => cases h
  | ok a => exact ⟨a, rfl, h⟩

/-- A guard that raises when its test holds succeeds exactly when the test fails. -/
theorem ite_error_eq_ok {p : Prop} [Decidable p] {e : ε} {x : Except ε α} {a : α} :
    (if p then .error e else x) = .ok a ↔ ¬p ∧ x = .ok a := by
  by_cases hp : p <;> simp [hp]

/-- Raise `e` when `p` holds. -/
def raiseIf (p : Prop) [Decidable p] (e : ε) : Except ε Unit :=
  if p then .error e else .ok ()

/-- A check passes exactly when its condition does not hold. -/
@[simp] theorem raiseIf_eq_ok {p : Prop} [Decidable p] {e : ε} {u : Unit} :
    raiseIf p e = .ok u ↔ ¬p := by
  unfold raiseIf
  split <;> simp_all

/-- It raises exactly when the condition holds. -/
@[simp] theorem raiseIf_eq_error {p : Prop} [Decidable p] {e e' : ε} :
    raiseIf p e = .error e' ↔ p ∧ e = e' := by
  unfold raiseIf
  split <;> simp_all

/-! ## Which exceptions can be raised -/

/-- Every exception `x` can raise satisfies `P`. -/
def RaisesOnly (P : ε → Prop) (x : Except ε α) : Prop := ∀ e, x = .error e → P e

variable {P : ε → Prop}

theorem RaisesOnly.ok (a : α) : RaisesOnly P (.ok a : Except ε α) := nofun

theorem RaisesOnly.error {e : ε} (he : P e) : RaisesOnly P (.error e : Except ε α) :=
  fun _ h => Except.error.inj h ▸ he

theorem RaisesOnly.raiseIf {p : Prop} [Decidable p] {e : ε} (he : P e) :
    RaisesOnly P (raiseIf p e) :=
  fun _ h => (raiseIf_eq_error.mp h).2 ▸ he

/-- One computation after another. -/
theorem RaisesOnly.bind {x : Except ε α} {f : α → Except ε β} (hx : RaisesOnly P x)
    (hf : ∀ a, x = .ok a → RaisesOnly P (f a)) : RaisesOnly P (x >>= f) := by
  intro e h
  rcases bind_eq_error.mp h with hx' | ⟨a, ha, hfa⟩
  · exact hx e hx'
  · exact hf a ha e hfa

/-- A computation raises what its parts do. -/
theorem raisesOnly_bind_iff {x : Except ε α} {f : α → Except ε β} :
    RaisesOnly P (x >>= f) ↔ RaisesOnly P x ∧ ∀ a, x = .ok a → RaisesOnly P (f a) := by
  constructor
  · intro h
    exact ⟨fun e hx => h e (bind_eq_error.mpr (.inl hx)),
      fun a ha e hf => h e (bind_eq_error.mpr (.inr ⟨a, ha, hf⟩))⟩
  · exact fun h => h.1.bind h.2

/-! ## What a successful computation returns -/

/-- Every value `x` can return satisfies `Q`. -/
def Ensures (Q : α → Prop) (x : Except ε α) : Prop := ∀ a, x = .ok a → Q a

theorem Ensures.ok {Q : α → Prop} {a : α} (ha : Q a) : Ensures Q (.ok a : Except ε α) :=
  fun _ h => Except.ok.inj h ▸ ha

theorem Ensures.error {Q : α → Prop} {e : ε} : Ensures Q (.error e : Except ε α) := nofun

/-- What a continuation ensures is ensured. -/
theorem Ensures.bind {Q : β → Prop} {x : Except ε α} {f : α → Except ε β}
    (hf : ∀ a, x = .ok a → Ensures Q (f a)) : Ensures Q (x >>= f) := by
  intro b h
  obtain ⟨a, ha, hfa⟩ := bind_eq_ok.mp h
  exact hf a ha b hfa

/-! ## Computations that follow one another -/

/-- Where `x` returns a value, `y` returns its image under `f`. -/
def Maps {ε' : Type*} (f : α → β) (x : Except ε α) (y : Except ε' β) : Prop :=
  ∀ a, x = .ok a → y = .ok (f a)

theorem Maps.ok {f : α → β} {a : α} {b : β} (h : f a = b) :
    Maps f (.ok a : Except ε α) (.ok b : Except ε β) :=
  fun _ ha => Except.ok.inj ha ▸ congrArg Except.ok h.symm

theorem Maps.error {f : α → β} {e : ε} {y : Except ε β} : Maps f (.error e) y := nofun

/-- One computation after another. -/
theorem Maps.bind {γ δ : Type v} {f : α → β} {g : γ → δ} {x : Except ε α} {y : Except ε β}
    {k : α → Except ε γ} {k' : β → Except ε δ} (hx : Maps f x y)
    (hk : ∀ a, x = .ok a → Maps g (k a) (k' (f a))) : Maps g (x >>= k) (y >>= k') := by
  intro c h
  obtain ⟨a, ha, hc⟩ := bind_eq_ok.mp h
  exact bind_eq_ok.mpr ⟨f a, hx a ha, hk a ha c hc⟩

end Except

namespace List

variable {ε : Type u} {α : Type*} {β : Type v}

/-- Induction along a `foldlM` that succeeds: what holds of the initial value
    and survives each successful step holds of the result, together with the
    part of the list consumed so far. A step knows what led to it. -/
theorem foldlM_ok_prefix_induction {f : β → α → Except ε β} {P : List α → β → Prop}
    {l : List α} {b b' : β} (h : l.foldlM f b = .ok b') (hnil : P [] b)
    (hstep : ∀ seen a rest c c', l = seen ++ a :: rest → seen.foldlM f b = .ok c → P seen c →
      f c a = .ok c' → P (seen ++ [a]) c') :
    P l b' := by
  suffices ∀ seen rest c, l = seen ++ rest → seen.foldlM f b = .ok c → P seen c →
      rest.foldlM f c = .ok b' → P l b' from this [] l b rfl rfl hnil h
  intro seen rest
  induction rest generalizing seen with
  | nil =>
    intro c hl hseen hP hc
    simp only [foldlM_nil, pure, Except.pure, Except.ok.injEq] at hc
    rw [hl, append_nil, ← hc]
    exact hP
  | cons a rest ih =>
    intro c hl hseen hP hc
    rw [foldlM_cons, Except.bind_eq_ok] at hc
    obtain ⟨c', hfc, hrest⟩ := hc
    have hnext : (seen ++ [a]).foldlM f b = .ok c' := by
      rw [foldlM_append, hseen]
      show foldlM f c [a] = .ok c'
      rw [foldlM_cons, hfc]
      rfl
    exact ih (seen ++ [a]) c' (by rw [hl]; simp) hnext (hstep seen a rest c c' hl hseen hP hfc)
      hrest

/-- Induction along a `foldlM` that succeeds, where a step need not know what led to it. -/
theorem foldlM_ok_induction {f : β → α → Except ε β} {P : List α → β → Prop}
    {l : List α} {b b' : β} (h : l.foldlM f b = .ok b') (hnil : P [] b)
    (hstep : ∀ seen a c c', a ∈ l → P seen c → f c a = .ok c' → P (seen ++ [a]) c') :
    P l b' :=
  foldlM_ok_prefix_induction h hnil fun seen a _ c c' hl _ hP hfc =>
    hstep seen a c c' (by rw [hl]; simp) hP hfc

/-- Two loops over related lists that both ran to their end: what relates the initial
    values and survives each pair of successful steps relates the results. -/
theorem foldlM_ok_rel {α' : Type*} {β' : Type v} {R : α → α' → Prop} {S : β → β' → Prop}
    {f : β → α → Except ε β} {g : β' → α' → Except ε β'} {l : List α} {l' : List α'}
    (hR : Forall₂ R l l') {b c : β} {b' c' : β'} (hf : l.foldlM f b = .ok c)
    (hg : l'.foldlM g b' = .ok c') (hinit : S b b')
    (hstep : ∀ a a' b b' c c', R a a' → S b b' → f b a = .ok c → g b' a' = .ok c' → S c c') :
    S c c' := by
  induction hR generalizing b b' with
  | nil =>
    obtain rfl := Except.ok.inj hf
    obtain rfl := Except.ok.inj hg
    exact hinit
  | cons hab _ ih =>
    rw [foldlM_cons, Except.bind_eq_ok] at hf hg
    obtain ⟨d, hfd, hf⟩ := hf
    obtain ⟨d', hgd, hg⟩ := hg
    exact ih hf hg (hstep _ _ _ _ _ _ hab hinit hfd hgd)

/-- A `foldlM` that raises did so in one of its steps: an invariant of the
    loop holds of the value that step started from. -/
theorem foldlM_error_induction {f : β → α → Except ε β} {P : β → Prop}
    {l : List α} {b : β} {e : ε} (h : l.foldlM f b = .error e) (hinit : P b)
    (hstep : ∀ a c c', a ∈ l → P c → f c a = .ok c' → P c') :
    ∃ a c, a ∈ l ∧ P c ∧ f c a = .error e := by
  induction l generalizing b with
  | nil => simp [pure, Except.pure] at h
  | cons a rest ih =>
    rw [foldlM_cons] at h
    rcases Except.bind_eq_error.mp h with hfa | ⟨c, hfa, hrest⟩
    · exact ⟨a, b, mem_cons_self, hinit, hfa⟩
    · have hc : P c := hstep a b c mem_cons_self hinit hfa
      obtain ⟨a', c', hmem, hP, hf⟩ :=
        ih hrest hc fun a c c' hm => hstep a c c' (mem_cons_of_mem _ hm)
      exact ⟨a', c', mem_cons_of_mem _ hmem, hP, hf⟩

/-- A loop raises only what its rounds raise. -/
theorem raisesOnly_foldlM {f : β → α → Except ε β} {P : ε → Prop} {l : List α}
    (hf : ∀ b, ∀ a ∈ l, Except.RaisesOnly P (f b a)) (b : β) :
    Except.RaisesOnly P (l.foldlM f b) := by
  intro e h
  obtain ⟨a, c, ha, -, hfa⟩ := foldlM_error_induction (P := fun _ => True) h trivial
    (fun _ _ _ _ _ _ => trivial)
  exact hf c a ha e hfa

/-- A loop that only checks succeeds exactly when every element passes. -/
theorem forM_eq_ok {f : α → Except ε Unit} {l : List α} :
    forM l f = .ok () ↔ ∀ a ∈ l, f a = .ok () := by
  induction l with
  | nil => simp [pure, Except.pure]
  | cons a rest ih =>
    simp only [forM_cons, Except.bind_eq_ok, ih, mem_cons, forall_eq_or_imp]
    constructor
    · rintro ⟨⟨⟩, ha, hrest⟩
      exact ⟨ha, hrest⟩
    · rintro ⟨ha, hrest⟩
      exact ⟨(), ha, hrest⟩

/-- A loop that checks each element before a pure update succeeds exactly when every
    check does, and then with the result of the updates alone. -/
theorem foldlM_check_eq_ok {γ : Type} {check : α → Except ε Unit} {g : γ → α → γ} {l : List α}
    {b b' : γ} :
    l.foldlM (fun b a => (do check a; return g b a : Except ε γ)) b = .ok b' ↔
      (∀ a ∈ l, check a = .ok ()) ∧ l.foldl g b = b' := by
  induction l generalizing b with
  | nil => simp [pure, Except.pure]
  | cons a rest ih =>
    rw [foldlM_cons, Except.bind_eq_ok, foldl_cons]
    simp only [Except.bind_eq_ok, mem_cons, forall_eq_or_imp]
    constructor
    · rintro ⟨c, ⟨⟨⟩, ha, hc⟩, hrest⟩
      obtain rfl := Except.ok.inj hc
      obtain ⟨hall, hres⟩ := ih.mp hrest
      exact ⟨⟨ha, hall⟩, hres⟩
    · rintro ⟨⟨ha, hall⟩, hres⟩
      exact ⟨_, ⟨(), ha, rfl⟩, ih.mpr ⟨hall, hres⟩⟩

/-- A loop that appends one element a round, each under a key that is not there yet,
    returns the elements of its rounds, and their keys are distinct. -/
theorem foldlM_snoc_eq_ok {κ : Type*} {γ : Type v} {f : List γ → α → Except ε (List γ)}
    {P : α → γ → Prop} (key : γ → κ) {l : List α}
    (hf : ∀ a ∈ l, ∀ pre res, f pre a = .ok res ↔
      ∃ y, P a y ∧ key y ∉ pre.map key ∧ res = pre ++ [y]) {ys : List γ} :
    l.foldlM f [] = .ok ys ↔ Forall₂ P l ys ∧ (ys.map key).Nodup := by
  -- from any list that has been built so far
  suffices ∀ pre : List γ, (pre.map key).Nodup →
      (l.foldlM f pre = .ok ys ↔
        ∃ zs, Forall₂ P l zs ∧ ((pre ++ zs).map key).Nodup ∧ ys = pre ++ zs) by
    rw [this [] nodup_nil]
    simp
  induction l with
  | nil =>
    intro pre hpre
    simp only [foldlM_nil, forall₂_nil_left_iff, exists_eq_left, append_nil]
    constructor
    · intro h
      exact ⟨hpre, (Except.ok.inj h).symm⟩
    · rintro ⟨-, rfl⟩
      rfl
  | cons a rest ih =>
    intro pre hpre
    have hrest := ih fun b hb => hf b (mem_cons_of_mem _ hb)
    rw [foldlM_cons, Except.bind_eq_ok]
    constructor
    · rintro ⟨res, hres, h⟩
      obtain ⟨y, hy, hfresh, rfl⟩ := (hf a mem_cons_self pre res).mp hres
      have hnodup : ((pre ++ [y]).map key).Nodup := by
        rw [map_append, map_singleton]
        exact nodup_append.mpr ⟨hpre, by simp, by
          rintro k hk _ hsingle rfl
          exact hfresh (mem_singleton.mp hsingle ▸ hk)⟩
      obtain ⟨zs, hzs, hkeys, rfl⟩ := (hrest _ hnodup).mp h
      exact ⟨y :: zs, .cons hy hzs, by simpa using hkeys, by simp⟩
    · rintro ⟨zs, hzs, hkeys, rfl⟩
      obtain ⟨y, zs, hy, hrestZs, rfl⟩ := forall₂_cons_left_iff.mp hzs
      have hfresh : key y ∉ pre.map key := by
        intro hmem
        rw [map_append] at hkeys
        exact (nodup_append.mp hkeys).2.2 _ hmem _ (by simp) rfl
      refine ⟨pre ++ [y], (hf a mem_cons_self pre _).mpr ⟨y, hy, hfresh, rfl⟩, ?_⟩
      have hnodup : ((pre ++ [y]).map key).Nodup := by
        refine hkeys.sublist (Sublist.map key ?_)
        exact (Sublist.refl pre).append (by simp)
      exact (hrest _ hnodup).mpr ⟨zs, hrestZs, by simpa using hkeys, by simp⟩

/-- A loop that only checks raises only what its rounds raise. -/
theorem raisesOnly_forM {f : α → Except ε Unit} {P : ε → Prop} {l : List α}
    (hf : ∀ a ∈ l, Except.RaisesOnly P (f a)) : Except.RaisesOnly P (forM l f) := by
  induction l with
  | nil => exact .ok ()
  | cons a rest ih =>
    rw [forM_cons]
    exact .bind (hf a mem_cons_self) fun _ _ => ih fun a' ha' => hf a' (mem_cons_of_mem _ ha')

/-- A map that succeeds pairs every element with the value computed from it. -/
theorem mapM_eq_ok {γ : Type v} {f : α → Except ε γ} {l : List α} {ys : List γ} :
    l.mapM f = .ok ys ↔ Forall₂ (fun a y => f a = .ok y) l ys := by
  induction l generalizing ys with
  | nil => simp [pure, Except.pure, eq_comm]
  | cons a rest ih =>
    rw [mapM_cons, Except.bind_eq_ok, forall₂_cons_left_iff]
    constructor
    · rintro ⟨y, hy, hrest⟩
      obtain ⟨zs, hzs, hcons⟩ := Except.bind_eq_ok.mp hrest
      exact ⟨y, zs, hy, ih.mp hzs, (Except.ok.inj hcons).symm⟩
    · rintro ⟨y, zs, hy, hzs, rfl⟩
      exact ⟨y, hy, Except.bind_eq_ok.mpr ⟨zs, ih.mpr hzs, rfl⟩⟩

/-- Pairing elements with their positions does not change what they relate to. -/
theorem forall₂_zipIdx_left_iff {γ : Type*} {R : α → γ → Prop} {l : List α} {ys : List γ} :
    Forall₂ (fun entry y => R entry.1 y) l.zipIdx ys ↔ Forall₂ R l ys := by
  rw [← forall₂_map_left_iff (f := Prod.fst), zipIdx_map_fst]

/-- A map over positions that only its errors depend on. -/
theorem zipIdx_mapM_eq_ok {γ : Type v} {R : α → γ → Prop} {f : α × Nat → Except ε γ} {l : List α}
    {ys : List γ} (hf : ∀ a i y, f (a, i) = .ok y ↔ R a y) :
    l.zipIdx.mapM f = .ok ys ↔ Forall₂ R l ys := by
  have hpair : (fun (entry : α × Nat) y => f entry = .ok y) = fun entry y => R entry.1 y :=
    funext fun entry => funext fun y => propext (hf entry.1 entry.2 y)
  rw [mapM_eq_ok, hpair, forall₂_zipIdx_left_iff]

/-- A map succeeds exactly when it does so on every element. -/
theorem exists_mapM_eq_ok {γ : Type v} {f : α → Except ε γ} {l : List α} :
    (∃ ys, l.mapM f = .ok ys) ↔ ∀ a ∈ l, ∃ y, f a = .ok y := by
  simp only [mapM_eq_ok]
  induction l with
  | nil => simp
  | cons a rest ih => simp [forall₂_cons_left_iff, ← ih]

/-- A map raises what its first round that fails raises. -/
theorem mapM_eq_error {γ : Type v} {f : α → Except ε γ} {l : List α} {e : ε} :
    l.mapM f = .error e ↔ ∃ before a after, l = before ++ a :: after ∧
      (∀ b ∈ before, ∃ y, f b = .ok y) ∧ f a = .error e := by
  induction l with
  | nil => simp [pure, Except.pure]
  | cons a rest ih =>
    rw [mapM_cons, Except.bind_eq_error]
    constructor
    -- the head fails, or it succeeds and the rest fails
    · rintro (hhead | ⟨y, hy, hrest⟩)
      · exact ⟨[], a, rest, rfl, by simp, hhead⟩
      · rcases Except.bind_eq_error.mp hrest with htail | ⟨_, _, hpure⟩
        · obtain ⟨before, b, after, rfl, hbefore, hb⟩ := ih.mp htail
          refine ⟨a :: before, b, after, rfl, fun x hx => ?_, hb⟩
          rcases mem_cons.mp hx with rfl | hx
          · exact ⟨y, hy⟩
          · exact hbefore x hx
        · cases hpure
    · rintro ⟨before, b, after, hsplit, hbefore, hb⟩
      cases before with
      | nil =>
        obtain ⟨rfl, -⟩ := cons.inj hsplit
        exact .inl hb
      | cons head before =>
        obtain ⟨rfl, rfl⟩ := cons.inj hsplit
        obtain ⟨y, hy⟩ := hbefore a mem_cons_self
        exact .inr ⟨y, hy, Except.bind_eq_error.mpr (.inl (ih.mpr
          ⟨before, b, after, rfl, fun x hx => hbefore x (mem_cons_of_mem _ hx), hb⟩))⟩

/-- A map raises only what its rounds raise. -/
theorem raisesOnly_mapM {γ : Type v} {f : α → Except ε γ} {P : ε → Prop} {l : List α}
    (hf : ∀ a ∈ l, Except.RaisesOnly P (f a)) : Except.RaisesOnly P (l.mapM f) := by
  induction l with
  | nil => exact .ok []
  | cons a rest ih =>
    rw [mapM_cons]
    refine .bind (hf a mem_cons_self) fun y _ => ?_
    exact .bind (ih fun a' ha' => hf a' (mem_cons_of_mem _ ha')) fun ys _ => .ok (y :: ys)

/-- A related list has a partner for every element of the first list. -/
theorem Forall₂.exists_of_mem_left {γ : Type*} {R : α → γ → Prop} {l : List α} {ys : List γ}
    (h : Forall₂ R l ys) {a : α} (ha : a ∈ l) : ∃ y ∈ ys, R a y := by
  induction h with
  | nil => exact absurd ha not_mem_nil
  | cons hR _ ih =>
    rcases mem_cons.mp ha with rfl | ha
    · exact ⟨_, mem_cons_self, hR⟩
    · obtain ⟨y, hy, hRy⟩ := ih ha
      exact ⟨y, mem_cons_of_mem _ hy, hRy⟩

/-- A related list has a partner for every element of the second list. -/
theorem Forall₂.exists_of_mem_right {γ : Type*} {R : α → γ → Prop} {l : List α} {ys : List γ}
    (h : Forall₂ R l ys) {y : γ} (hy : y ∈ ys) : ∃ a ∈ l, R a y :=
  h.flip.exists_of_mem_left hy

/-- Weakening the relation of two lists, with the members at hand. -/
theorem Forall₂.imp_of_mem {γ : Type*} {R S : α → γ → Prop} {l : List α} {ys : List γ}
    (h : Forall₂ R l ys) (himp : ∀ a y, a ∈ l → y ∈ ys → R a y → S a y) : Forall₂ S l ys := by
  rw [forall₂_iff_zip] at h ⊢
  refine ⟨h.1, fun hmem => ?_⟩
  obtain ⟨ha, hy⟩ := of_mem_zip hmem
  exact himp _ _ ha hy (h.2 hmem)

/-- Element-wise related maps of one list are related, dropped elements alike. -/
theorem forall₂_filterMap {γ δ : Type*} {R : γ → δ → Prop} {f : α → Option γ} {g : α → Option δ}
    {l : List α} (h : ∀ a ∈ l, Option.Rel R (f a) (g a)) :
    Forall₂ R (l.filterMap f) (l.filterMap g) := by
  induction l with
  | nil => exact .nil
  | cons a rest ih =>
    have hrest := ih fun a' ha' => h a' (mem_cons_of_mem _ ha')
    rw [filterMap_cons, filterMap_cons]
    have ha := h a mem_cons_self
    revert ha
    cases f a <;> cases g a <;> intro ha
    · exact hrest
    · exact nomatch ha
    · exact nomatch ha
    · cases ha with
      | some hR => exact .cons hR hrest

/-- A map over a related list succeeds with related values when each element does. -/
theorem mapM_ok_of_forall₂ {δ : Type*} {γ : Type v} {R : α → δ → Prop} {S : γ → γ → Prop}
    {f : α → Except ε γ} {g : δ → Except ε γ} {l : List α} {l' : List δ} {ys : List γ}
    (hR : Forall₂ R l l')
    (hfg : ∀ a a' y, R a a' → f a = .ok y → ∃ y', g a' = .ok y' ∧ S y y')
    (h : l.mapM f = .ok ys) : ∃ ys', l'.mapM g = .ok ys' ∧ Forall₂ S ys ys' := by
  simp only [mapM_eq_ok] at h ⊢
  induction hR generalizing ys with
  | nil =>
    cases h
    exact ⟨[], .nil, .nil⟩
  | cons hab _ ih =>
    cases h with
    | cons hy hys =>
      obtain ⟨y', hy', hS⟩ := hfg _ _ _ hab hy
      obtain ⟨ys', hys', hSs⟩ := ih hys
      exact ⟨y' :: ys', .cons hy' hys', .cons hS hSs⟩

/-- Two maps of one list that both succeed have related values when each element does. -/
theorem forall₂_of_mapM_ok {γ : Type v} {S : γ → γ → Prop} {f g : α → Except ε γ} {l : List α}
    {ys ys' : List γ} (hf : l.mapM f = .ok ys) (hg : l.mapM g = .ok ys')
    (hfg : ∀ a y y', a ∈ l → f a = .ok y → g a = .ok y' → S y y') : Forall₂ S ys ys' := by
  rw [mapM_eq_ok] at hf hg
  induction hf generalizing ys' with
  | nil =>
    cases hg
    exact .nil
  | cons hy _ ih =>
    cases hg with
    | cons hy' hys' =>
      exact .cons (hfg _ _ _ mem_cons_self hy hy')
        (ih hys' fun a y y' ha => hfg a y y' (mem_cons_of_mem _ ha))

/-- A function that does not tell related elements apart maps related lists alike. -/
theorem Forall₂.map_eq {γ δ : Type*} {R : α → δ → Prop} {f : α → γ} {g : δ → γ} {l : List α}
    {l' : List δ} (h : Forall₂ R l l') (hfg : ∀ a a', R a a' → f a = g a') :
    l.map f = l'.map g := by
  induction h with
  | nil => rfl
  | cons hab _ ih => rw [map_cons, map_cons, hfg _ _ hab, ih]

/-- Two maps whose rounds follow one another do so as a whole. -/
theorem maps_mapM {γ γ' : Type v} {f : γ → γ'} {k : α → Except ε γ} {k' : α → Except ε γ'}
    {l : List α} (hk : ∀ a ∈ l, Except.Maps f (k a) (k' a)) :
    Except.Maps (map f) (l.mapM k) (l.mapM k') := by
  induction l with
  | nil => exact .ok rfl
  | cons a rest ih =>
    rw [mapM_cons, mapM_cons]
    exact .bind (hk a mem_cons_self) fun _ _ =>
      .bind (ih fun a' ha' => hk a' (mem_cons_of_mem _ ha')) fun _ _ => .ok rfl

/-- Two loops whose rounds follow one another do so as a whole. -/
theorem maps_foldlM {β' : Type v} {f : β → β'} {k : β → α → Except ε β}
    {k' : β' → α → Except ε β'} (hk : ∀ b a, Except.Maps f (k b a) (k' (f b) a)) (l : List α)
    (b : β) : Except.Maps f (l.foldlM k b) (l.foldlM k' (f b)) := by
  induction l generalizing b with
  | nil => exact .ok rfl
  | cons a rest ih =>
    rw [foldlM_cons, foldlM_cons]
    exact .bind (hk b a) fun b' _ => ih b'

end List
