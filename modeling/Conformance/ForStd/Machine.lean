import Mathlib.Data.List.Induction

/-!
# Runs of a partial machine

`Machine.run step s₀ es` takes the events `es` one after the other from `s₀`; it
is `none` when some event is not enabled in the state it finds. A property of all
runs is proved by `Machine.run_induction`, from the empty run and by one event at
a time.
-/

universe u v

namespace Machine

variable {σ : Type u} {ε : Type v} {step : σ → ε → Option σ} {s₀ : σ}

/-- The state after a sequence of events, if each was enabled. -/
def run (step : σ → ε → Option σ) (s₀ : σ) (es : List ε) : Option σ := es.foldlM step s₀

/-- The last event is taken in the state the others lead to. -/
theorem run_snoc {es : List ε} {e : ε} {s' : σ} :
    run step s₀ (es ++ [e]) = some s' ↔ ∃ s, run step s₀ es = some s ∧ step s e = some s' := by
  simp only [run, List.foldlM_append, List.foldlM_cons, List.foldlM_nil, bind_pure]
  exact Option.bind_eq_some_iff

/-- Every prefix of a run is a run. -/
theorem run_of_prefix {pre es : List ε} {s' : σ} (h : run step s₀ es = some s') (hpre : pre <+: es) :
    ∃ s, run step s₀ pre = some s := by
  obtain ⟨post, rfl⟩ := hpre
  simp only [run, List.foldlM_append] at h
  obtain ⟨s, hs, _⟩ := Option.bind_eq_some_iff.mp h
  exact ⟨s, hs⟩

/-- Induction on runs, from the end: the property may speak about the whole
    history. -/
theorem run_induction {P : List ε → σ → Prop} (hinit : P [] s₀)
    (hstep : ∀ es s e s', run step s₀ es = some s → P es s → step s e = some s' →
      P (es ++ [e]) s') {es : List ε} {s : σ} (h : run step s₀ es = some s) : P es s := by
  induction es using List.reverseRecOn generalizing s with
  | nil =>
    obtain rfl := Option.some.inj h
    exact hinit
  | append_singleton es e ih =>
    obtain ⟨m, hm, he⟩ := run_snoc.mp h
    exact hstep es m e s hm (ih hm) he

/-- A prefix of a run that has grown by one event is the whole of it or a prefix
    of the earlier run. -/
theorem prefix_snoc {pre es : List ε} {e e' : ε} (h : pre ++ [e] <+: es ++ [e']) :
    pre ++ [e] <+: es ∨ (pre = es ∧ e = e') := by
  rcases List.prefix_concat_iff.mp h with heq | hpre
  · obtain ⟨rfl, he⟩ := List.append_inj' heq rfl
    exact .inr ⟨rfl, List.singleton_inj.mp he⟩
  · exact .inl hpre

end Machine
