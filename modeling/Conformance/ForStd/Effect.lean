import Mathlib.Init

/-!
# Computations with state and exceptions

`ExceptT ε (StateM σ)` keeps its state when it raises. `Spec P m Q E` says what a computation
does from the states of `P`: where it returns, `Q` holds of the value and the state, and where
it raises, `E` holds of the state.

## Key results

- `Spec.bind`, `Spec.of`, `Spec.update`: one rule for each way to build a computation
- `Spec.conseq`: weakening
-/

universe u

/-- A computation that reads and writes a `σ` and may raise an `ε`. -/
abbrev Effect (ε σ : Type u) (α : Type u) : Type u := ExceptT ε (StateM σ) α

namespace Effect

variable {ε σ α β : Type u}

/-- Run a computation: its result and the state that it leaves. -/
def exec (m : Effect ε σ α) (s : σ) : Except ε α × σ := StateT.run (ExceptT.run m) s

/-- A computation without state. -/
def of (x : Except ε α) : Effect ε σ α := ExceptT.mk (fun s => (x, s))

/-- A computation given by what it does to every state. -/
def ofRun (f : σ → Except ε α × σ) : Effect ε σ α := ExceptT.mk f

/-- What `f` reads of the state. -/
def reads (f : σ → α) : Effect ε σ α := ofRun fun s => (.ok (f s), s)

/-- Change the state. -/
def update (f : σ → σ) : Effect ε σ PUnit := ofRun fun s => (.ok ⟨⟩, f s)

/-- Change the exception of a computation that raises. -/
def mapError (f : ε → ε) (m : Effect ε σ α) : Effect ε σ α :=
  ofRun fun s => ((exec m s).1.mapError f, (exec m s).2)

@[simp] theorem exec_ofRun (f : σ → Except ε α × σ) (s : σ) : exec (ofRun f) s = f s := rfl

@[simp] theorem exec_of (x : Except ε α) (s : σ) : exec (of x) s = (x, s) := rfl

@[simp] theorem exec_reads (f : σ → α) (s : σ) :
    exec (reads f : Effect ε σ α) s = (.ok (f s), s) := rfl

@[simp] theorem exec_update (f : σ → σ) (s : σ) :
    exec (update f : Effect ε σ PUnit) s = (.ok ⟨⟩, f s) := rfl

@[simp] theorem exec_pure (a : α) (s : σ) :
    exec (pure a : Effect ε σ α) s = (.ok a, s) := rfl

/-- What follows a result runs from where it was left. -/
theorem exec_bind_ok {m : Effect ε σ α} {f : α → Effect ε σ β} {s s' : σ} {a : α}
    (h : exec m s = (.ok a, s')) : exec (m >>= f) s = exec (f a) s' := by
  have hrun : exec (m >>= f) s = exec (ExceptT.mk (ExceptT.bindCont f (exec m s).1)) (exec m s).2 :=
    rfl
  rw [hrun, h]
  rfl

/-- Nothing follows an exception. -/
theorem exec_bind_error {m : Effect ε σ α} {f : α → Effect ε σ β} {s s' : σ} {e : ε}
    (h : exec m s = (.error e, s')) : exec (m >>= f) s = (.error e, s') := by
  have hrun : exec (m >>= f) s = exec (ExceptT.mk (ExceptT.bindCont f (exec m s).1)) (exec m s).2 :=
    rfl
  rw [hrun, h]
  rfl

/-- A computation that returns, taken apart. -/
theorem exec_bind_eq_ok {m : Effect ε σ α} {f : α → Effect ε σ β} {s s' : σ} {b : β} :
    exec (m >>= f) s = (.ok b, s') ↔
      ∃ a t, exec m s = (.ok a, t) ∧ exec (f a) t = (.ok b, s') := by
  constructor
  · intro h
    rcases hx : exec m s with ⟨result, t⟩
    cases result with
    | error e => rw [exec_bind_error hx] at h; exact absurd (Prod.mk.inj h).1 nofun
    | ok a => exact ⟨a, t, rfl, (exec_bind_ok hx).symm.trans h⟩
  · rintro ⟨a, t, hm, hf⟩
    rw [exec_bind_ok hm, hf]

/-- From every state of `P`, the computation returns into `Q` or raises into `E`. -/
structure Spec (P : σ → Prop) (m : Effect ε σ α) (Q : α → σ → Prop) (E : σ → Prop) : Prop where
  returns : ∀ s a s', P s → exec m s = (.ok a, s') → Q a s'
  raises : ∀ s e s', P s → exec m s = (.error e, s') → E s'

variable {P P' : σ → Prop} {Q Q' : α → σ → Prop} {E E' : σ → Prop}

/-- Weakening: less is assumed, or more is asked. -/
theorem Spec.conseq {m : Effect ε σ α} (h : Spec P m Q E) (hP : ∀ s, P' s → P s)
    (hQ : ∀ a s, Q a s → Q' a s) (hE : ∀ s, E s → E' s) : Spec P' m Q' E' where
  returns s a s' hs hrun := hQ a s' (h.returns s a s' (hP s hs) hrun)
  raises s e s' hs hrun := hE s' (h.raises s e s' (hP s hs) hrun)

/-- Weakening what holds where the computation returns. -/
theorem Spec.post {m : Effect ε σ α} (h : Spec P m Q E) (hQ : ∀ a s, Q a s → Q' a s) :
    Spec P m Q' E := h.conseq (fun _ hs => hs) hQ fun _ hs => hs

/-- A fact that does not mention the state can be assumed. -/
theorem Spec.of_fact {p : Prop} {m : Effect ε σ α} (h : p → Spec P m Q E) :
    Spec (fun s => p ∧ P s) m Q E where
  returns s a s' hs hrun := (h hs.1).returns s a s' hs.2 hrun
  raises s e s' hs hrun := (h hs.1).raises s e s' hs.2 hrun

/-- A value that exists in the state before the computation can be named. -/
theorem Spec.of_exists {ι : Sort*} {P : ι → σ → Prop} {m : Effect ε σ α}
    (h : ∀ i, Spec (P i) m Q E) : Spec (fun s => ∃ i, P i s) m Q E where
  returns s a s' := fun ⟨i, hs⟩ hrun => (h i).returns s a s' hs hrun
  raises s e s' := fun ⟨i, hs⟩ hrun => (h i).raises s e s' hs hrun

/-- Returning a value. -/
theorem Spec.pure {a : α} (h : ∀ s, P s → Q a s) : Spec P (pure a : Effect ε σ α) Q E where
  returns s b s' hs hrun := by
    rw [exec_pure] at hrun
    obtain ⟨hb, rfl⟩ := Prod.mk.inj hrun
    exact Except.ok.inj hb ▸ h s hs
  raises s e s' _ hrun := by
    rw [exec_pure] at hrun
    exact absurd (Prod.mk.inj hrun).1 nofun

/-- Returning or raising an outcome. -/
theorem Spec.of {x : Except ε α} (hok : ∀ a s, x = .ok a → P s → Q a s)
    (herror : ∀ s, P s → E s) : Spec P (Effect.of x) Q E where
  returns s a s' hs hrun := by
    rw [exec_of] at hrun
    obtain ⟨hx, rfl⟩ := Prod.mk.inj hrun
    exact hok a s hx hs
  raises s e s' hs hrun := by
    rw [exec_of] at hrun
    obtain ⟨-, rfl⟩ := Prod.mk.inj hrun
    exact herror s hs

/-- Reading the state. -/
theorem Spec.reads {f : σ → α} (h : ∀ s, P s → Q (f s) s) :
    Spec P (Effect.reads f : Effect ε σ α) Q E where
  returns s b s' hs hrun := by
    rw [exec_reads] at hrun
    obtain ⟨hb, rfl⟩ := Prod.mk.inj hrun
    exact Except.ok.inj hb ▸ h s hs
  raises s e s' _ hrun := by
    rw [exec_reads] at hrun
    exact absurd (Prod.mk.inj hrun).1 nofun

/-- Changing the state. -/
theorem Spec.update {f : σ → σ} {Q : PUnit → σ → Prop} (h : ∀ s, P s → Q ⟨⟩ (f s)) :
    Spec P (Effect.update f : Effect ε σ PUnit) Q E where
  returns s b s' hs hrun := by
    rw [exec_update] at hrun
    obtain ⟨-, rfl⟩ := Prod.mk.inj hrun
    exact h s hs
  raises s e s' _ hrun := by
    rw [exec_update] at hrun
    exact absurd (Prod.mk.inj hrun).1 nofun

theorem Spec.ofRun {f : σ → Except ε α × σ} (hok : ∀ s a s', P s → f s = (.ok a, s') → Q a s')
    (herror : ∀ s e s', P s → f s = (.error e, s') → E s') : Spec P (Effect.ofRun f) Q E :=
  ⟨hok, herror⟩

/-- Mapping the exception. -/
theorem Spec.mapError {m : Effect ε σ α} (h : Spec P m Q E) (f : ε → ε) :
    Spec P (Effect.mapError f m) Q E where
  returns s a s' hs hrun := by
    rcases hx : exec m s with ⟨result, t⟩
    simp only [Effect.mapError, exec_ofRun, hx] at hrun
    obtain ⟨hresult, rfl⟩ := Prod.mk.inj hrun
    cases result with
    | error e => cases hresult
    | ok b => exact Except.ok.inj hresult ▸ h.returns s b t hs hx
  raises s e s' hs hrun := by
    rcases hx : exec m s with ⟨result, t⟩
    simp only [Effect.mapError, exec_ofRun, hx] at hrun
    obtain ⟨hresult, rfl⟩ := Prod.mk.inj hrun
    cases result with
    | error e' => exact h.raises s e' t hs hx
    | ok b => cases hresult

/-- One computation after another. -/
theorem Spec.bind {m : Effect ε σ α} {f : α → Effect ε σ β} {R : β → σ → Prop}
    (hm : Spec P m Q E) (hf : ∀ a, Spec (Q a) (f a) R E) : Spec P (m >>= f) R E where
  returns s b s' hs hrun := by
    rcases hx : exec m s with ⟨result, t⟩
    cases result with
    | error e => rw [exec_bind_error hx] at hrun; exact absurd (Prod.mk.inj hrun).1 nofun
    | ok a =>
      rw [exec_bind_ok hx] at hrun
      exact (hf a).returns t b s' (hm.returns s a t hs hx) hrun
  raises s e s' hs hrun := by
    rcases hx : exec m s with ⟨result, t⟩
    cases result with
    | error e' =>
      rw [exec_bind_error hx] at hrun
      obtain ⟨-, rfl⟩ := Prod.mk.inj hrun
      exact hm.raises s e' t hs hx
    | ok a =>
      rw [exec_bind_ok hx] at hrun
      exact (hf a).raises t e s' (hm.returns s a t hs hx) hrun

end Effect
