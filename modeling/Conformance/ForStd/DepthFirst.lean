import Conformance.ForStd.Except
import Mathlib.Data.List.Nodup
import Mathlib.Data.List.Perm.Subperm
import Mathlib.Logic.Relation

/-!
# Depth-first dependency ordering

A recursive depth-first search over a dependency graph that may be malformed:
nodes can be missing, refused by a check, or part of a cycle, and each of these
raises. The search keeps the usual `visiting`/`visited` sets, the post-order it
has emitted so far, and the reverse edges it met.

## Key results

- `order_ok`: a search that returns has emitted exactly the nodes reachable from
  its roots, once each, every node after all of its dependencies, and recorded
  exactly the dependency edges between them
- `order_raises`: a search from which a bad node is reachable does not return
- `order_ne_tooDeep`: a recursion budget above the number of nodes is never spent
-/

namespace DepthFirst

/-- A dependency graph as a search sees it: the dependencies of a node (`none`
    for a node that does not exist), the check a node must pass before it is
    expanded, and what to raise when a node is missing, met again on its own
    path, or refused. `tooDeep` is raised when the recursion budget is spent. -/
structure Graph (α ε : Type) where
  deps : α → Option (List α)
  admits : α → Bool
  missing : α → ε
  cyclic : α → ε
  refused : α → ε
  tooDeep : ε

/-- The variables of a search. An element `(v, u)` of `edges` records that `u`
    depends on `v`. -/
structure State (α : Type) where
  ordered : List α := []
  edges : List (α × α) := []
  visiting : List α := []
  visited : List α := []

variable {α ε : Type} [DecidableEq α]

/-- Record that `dependent` pulled in `node`. -/
def State.recordEdge (s : State α) (node : α) : Option α → State α
  | none => s
  | some dependent =>
    if (node, dependent) ∈ s.edges then s
    else { s with edges := s.edges ++ [(node, dependent)] }

/-- Put `node` on the search path. -/
def State.enter (s : State α) (node : α) : State α :=
  { s with visiting := node :: s.visiting }

/-- Take `node` off the search path and emit it. -/
def State.emit (s : State α) (node : α) : State α :=
  { s with
    visiting := s.visiting.erase node
    visited := node :: s.visited
    ordered := s.ordered ++ [node] }

/-- Visit `node`, pulled in by `dependent` (`none` for a root). -/
def Graph.visit (g : Graph α ε) : Nat → α → Option α → State α → Except ε (State α)
  | 0, _, _, _ => .error g.tooDeep
  | fuel + 1, node, dependent, s =>
    match g.deps node with
    | none => .error (g.missing node)
    | some ds =>
      let s := s.recordEdge node dependent
      if node ∈ s.visited then .ok s
      else if node ∈ s.visiting then .error (g.cyclic node)
      else if g.admits node = false then .error (g.refused node)
      else do
        let s ← ds.foldlM (fun s d => g.visit fuel d (some node) s) (s.enter node)
        return s.emit node

/-- Visit every root in turn. -/
def Graph.order (g : Graph α ε) (fuel : Nat) (roots : List α) : Except ε (State α) :=
  roots.foldlM (fun s r => g.visit fuel r none s) {}

/-- `u` names `v` as a dependency. -/
def Graph.Dep (g : Graph α ε) (u v : α) : Prop := ∃ ds, g.deps u = some ds ∧ v ∈ ds

/-- `v` is `u` or is reached from `u` through dependencies. -/
def Graph.Reaches (g : Graph α ε) : α → α → Prop := Relation.ReflTransGen g.Dep

/-- `v` is reached from one of the roots. -/
def Graph.ReachedFrom (g : Graph α ε) (roots : List α) (v : α) : Prop :=
  ∃ r ∈ roots, g.Reaches r v

/-! ## One visit -/

@[simp] theorem recordEdge_visiting (s : State α) (node : α) (dependent : Option α) :
    (s.recordEdge node dependent).visiting = s.visiting := by
  cases dependent with
  | none => rfl
  | some d => simp only [State.recordEdge]; split <;> rfl

@[simp] theorem recordEdge_visited (s : State α) (node : α) (dependent : Option α) :
    (s.recordEdge node dependent).visited = s.visited := by
  cases dependent with
  | none => rfl
  | some d => simp only [State.recordEdge]; split <;> rfl

@[simp] theorem recordEdge_ordered (s : State α) (node : α) (dependent : Option α) :
    (s.recordEdge node dependent).ordered = s.ordered := by
  cases dependent with
  | none => rfl
  | some d => simp only [State.recordEdge]; split <;> rfl

/-- The edges after one is recorded. -/
theorem mem_recordEdge_edges {s : State α} {node : α} {dependent : Option α} {e : α × α} :
    e ∈ (s.recordEdge node dependent).edges ↔
      e ∈ s.edges ∨ ∃ d, dependent = some d ∧ e = (node, d) := by
  cases dependent with
  | none => simp [State.recordEdge]
  | some d =>
    simp only [State.recordEdge]
    split
    · rename_i hmem
      simp only [Option.some.injEq, exists_eq_left']
      constructor
      · exact .inl
      · rintro (h | rfl)
        · exact h
        · exact hmem
    · simp

/-- No edge is recorded twice. -/
theorem recordEdge_edges_nodup {s : State α} (h : s.edges.Nodup) (node : α)
    (dependent : Option α) : (s.recordEdge node dependent).edges.Nodup := by
  cases dependent with
  | none => exact h
  | some d =>
    simp only [State.recordEdge]
    split
    · exact h
    · rename_i hnew
      exact List.nodup_append.mpr ⟨h, List.nodup_singleton _, fun a ha b hb hab =>
        hnew (List.mem_singleton.mp hb ▸ hab ▸ ha)⟩

@[simp] theorem emit_visiting (s : State α) (node : α) :
    (s.emit node).visiting = s.visiting.erase node := rfl

@[simp] theorem emit_visited (s : State α) (node : α) :
    (s.emit node).visited = node :: s.visited := rfl

@[simp] theorem emit_ordered (s : State α) (node : α) :
    (s.emit node).ordered = s.ordered ++ [node] := rfl

/-- The two ways a visit succeeds: the node had been visited, or its
    dependencies were visited in turn and the node was then emitted. -/
theorem visit_cases {g : Graph α ε} {fuel : Nat} {node : α} {dependent : Option α}
    {s s' : State α} (h : g.visit (fuel + 1) node dependent s = .ok s') :
    ∃ ds, g.deps node = some ds ∧
      ((node ∈ s.visited ∧ s' = s.recordEdge node dependent) ∨
       (node ∉ s.visited ∧ node ∉ s.visiting ∧ g.admits node = true ∧
        ∃ c, ds.foldlM (fun s d => g.visit fuel d (some node) s)
            ((s.recordEdge node dependent).enter node) = .ok c ∧ s' = c.emit node)) := by
  unfold Graph.visit at h
  split at h
  · exact nomatch h
  · rename_i ds hds
    refine ⟨ds, hds, ?_⟩
    simp only [recordEdge_visited, recordEdge_visiting] at h
    by_cases hmem : node ∈ s.visited
    · rw [if_pos hmem] at h
      exact .inl ⟨hmem, (Except.ok.inj h).symm⟩
    · rw [if_neg hmem, Except.ite_error_eq_ok, Except.ite_error_eq_ok] at h
      obtain ⟨hvisiting, hadmits, h⟩ := h
      rw [Except.bind_eq_ok] at h
      obtain ⟨c, hc, hs'⟩ := h
      exact .inr ⟨hmem, hvisiting, by simpa using hadmits, c, hc, (Except.ok.inj hs').symm⟩

/-- A successful visit leaves the search path as it found it. -/
theorem visit_visiting {g : Graph α ε} {fuel : Nat} {node : α} {dependent : Option α}
    {s s' : State α} (h : g.visit fuel node dependent s = .ok s') :
    s'.visiting = s.visiting := by
  induction fuel generalizing node dependent s s' with
  | zero => exact nomatch h
  | succ fuel ih =>
    obtain ⟨ds, -, ⟨-, rfl⟩ | ⟨-, -, -, c, hc, rfl⟩⟩ := visit_cases h
    · simp
    · have hpath : c.visiting = node :: s.visiting :=
        List.foldlM_ok_induction (P := fun _ c => c.visiting = node :: s.visiting) hc
          (by simp [State.enter]) fun _ _ c c' _ hP hv => (ih hv).trans hP
      simp [hpath]

/-! ## The search invariant -/

/-- What holds of the variables of a search between two visits. -/
structure Inv (g : Graph α ε) (s : State α) : Prop where
  visited_iff : ∀ v, v ∈ s.visited ↔ v ∈ s.ordered
  nodup : s.ordered.Nodup
  disjoint : ∀ v ∈ s.visiting, v ∉ s.visited
  topological : ∀ l₁ u l₂, s.ordered = l₁ ++ u :: l₂ → ∀ v, g.Dep u v → v ∈ l₁
  good : ∀ v ∈ s.ordered, g.deps v ≠ none ∧ g.admits v = true
  edges_sound : ∀ v u, (v, u) ∈ s.edges → g.Dep u v ∧ (u ∈ s.visited ∨ u ∈ s.visiting)
  edges_complete : ∀ u ∈ s.visited, ∀ v, g.Dep u v → (v, u) ∈ s.edges
  edges_nodup : s.edges.Nodup

omit [DecidableEq α] in
/-- The invariant holds before the search. -/
theorem Inv.init (g : Graph α ε) : Inv g {} where
  visited_iff := by simp
  nodup := List.nodup_nil
  disjoint := by simp
  topological := by simp
  good := by simp
  edges_sound := by simp
  edges_complete := by simp
  edges_nodup := List.nodup_nil

/-- Recording an edge to a node of the search path keeps the invariant. -/
theorem Inv.recordEdge {g : Graph α ε} {s : State α} (hinv : Inv g s) {node : α}
    {dependent : Option α} (hdep : ∀ d, dependent = some d → d ∈ s.visiting ∧ g.Dep d node) :
    Inv g (s.recordEdge node dependent) where
  visited_iff := by simpa using hinv.visited_iff
  nodup := by simpa using hinv.nodup
  disjoint := by simpa using hinv.disjoint
  topological := by simpa using hinv.topological
  good := by simpa using hinv.good
  edges_sound v u huv := by
    rw [mem_recordEdge_edges] at huv
    rw [recordEdge_visited, recordEdge_visiting]
    obtain huv | ⟨d, hd, he⟩ := huv
    · exact hinv.edges_sound v u huv
    · obtain ⟨rfl, rfl⟩ := Prod.mk.inj he
      exact ⟨(hdep u hd).2, .inr (hdep u hd).1⟩
  edges_complete u hu v huv := by
    rw [recordEdge_visited] at hu
    exact mem_recordEdge_edges.mpr (.inl (hinv.edges_complete u hu v huv))
  edges_nodup := recordEdge_edges_nodup hinv.edges_nodup node dependent

omit [DecidableEq α] in
/-- Entering a node that is neither visited nor on the path keeps the invariant. -/
theorem Inv.enter {g : Graph α ε} {s : State α} (hinv : Inv g s) {node : α}
    (hvisited : node ∉ s.visited) : Inv g (s.enter node) where
  visited_iff := hinv.visited_iff
  nodup := hinv.nodup
  disjoint v hv := by
    rcases List.mem_cons.mp hv with rfl | hv
    · exact hvisited
    · exact hinv.disjoint v hv
  topological := hinv.topological
  good := hinv.good
  edges_sound v u huv := by
    obtain ⟨hd, hu⟩ := hinv.edges_sound v u huv
    exact ⟨hd, hu.imp id (List.mem_cons_of_mem _)⟩
  edges_complete := hinv.edges_complete
  edges_nodup := hinv.edges_nodup

/-- Emitting a node whose dependencies have all been visited keeps the invariant. -/
theorem Inv.emit {g : Graph α ε} {c : State α} (hinv : Inv g c) {node : α} {ds path : List α}
    (hds : g.deps node = some ds) (hadmits : g.admits node = true)
    (hpath : c.visiting = node :: path)
    (hdone : ∀ d ∈ ds, d ∈ c.visited ∧ (d, node) ∈ c.edges) (hnode : node ∉ path) :
    Inv g (c.emit node) := by
  have herase : c.visiting.erase node = path := by rw [hpath]; simp
  have hfresh : node ∉ c.visited := hinv.disjoint node (by rw [hpath]; simp)
  have hdeps : ∀ v, g.Dep node v → v ∈ ds := by
    rintro v ⟨ds', hds', hv⟩
    rw [hds, Option.some.injEq] at hds'
    exact hds' ▸ hv
  refine ⟨?_, ?_, ?_, ?_, ?_, ?_, ?_, hinv.edges_nodup⟩
  · intro v
    simp only [emit_visited, emit_ordered, List.mem_cons, List.mem_append, List.not_mem_nil,
      or_false, hinv.visited_iff v]
    exact or_comm
  · rw [emit_ordered, List.nodup_append]
    refine ⟨hinv.nodup, List.nodup_singleton _, ?_⟩
    intro a ha b hb hab
    rw [List.mem_singleton] at hb
    subst hab hb
    exact hfresh ((hinv.visited_iff a).mpr ha)
  · intro v hv
    rw [emit_visiting, herase] at hv
    have hne : v ≠ node := fun h => hnode (h ▸ hv)
    have hold : v ∉ c.visited := hinv.disjoint v (by rw [hpath]; exact List.mem_cons_of_mem _ hv)
    simp [hne, hold]
  · intro l₁ u l₂ hsplit v huv
    -- The split point is either the node just emitted or lies in the old order.
    rcases List.eq_nil_or_concat l₂ with rfl | ⟨l₃, w, rfl⟩
    · obtain ⟨rfl, hu⟩ := List.append_inj' hsplit rfl
      obtain rfl : node = u := List.cons.inj hu |>.1
      exact (hinv.visited_iff v).mp (hdone v (hdeps v huv)).1
    · rw [List.concat_eq_append, ← List.cons_append, ← List.append_assoc] at hsplit
      obtain ⟨hold, -⟩ := List.append_inj' hsplit rfl
      exact hinv.topological l₁ u l₃ hold v huv
  · intro v hv
    rcases List.mem_append.mp hv with hv | hv
    · exact hinv.good v hv
    · obtain rfl := List.mem_singleton.mp hv
      exact ⟨by rw [hds]; exact Option.some_ne_none ds, hadmits⟩
  · intro v u huv
    obtain ⟨hd, hu⟩ := hinv.edges_sound v u huv
    refine ⟨hd, ?_⟩
    rw [hpath, List.mem_cons] at hu
    rcases hu with hu | rfl | hu
    · exact .inl (List.mem_cons_of_mem _ hu)
    · exact .inl List.mem_cons_self
    · exact .inr (by rw [emit_visiting, herase]; exact hu)
  · intro u hu v huv
    rcases List.mem_cons.mp hu with rfl | hu
    · exact (hdone v (hdeps v huv)).2
    · exact hinv.edges_complete u hu v huv

/-- What a successful visit of `node` did: it kept the invariant and the path,
    visited `node`, forgot nothing, and only visited nodes reached from `node`. -/
structure Visited (g : Graph α ε) (node : α) (s s' : State α) : Prop where
  inv : Inv g s'
  visiting_eq : s'.visiting = s.visiting
  mem : node ∈ s'.visited
  visited_mono : ∀ v ∈ s.visited, v ∈ s'.visited
  edges_mono : ∀ e ∈ s.edges, e ∈ s'.edges
  reached : ∀ v ∈ s'.visited, v ∈ s.visited ∨ g.Reaches node v

/-- A successful visit does what `Visited` says and records its edge. -/
theorem visit_ok {g : Graph α ε} {fuel : Nat} {node : α} {dependent : Option α}
    {s s' : State α} (h : g.visit fuel node dependent s = .ok s') (hinv : Inv g s)
    (hdep : ∀ d, dependent = some d → d ∈ s.visiting ∧ g.Dep d node) :
    Visited g node s s' ∧ ∀ d, dependent = some d → (node, d) ∈ s'.edges := by
  induction fuel generalizing node dependent s s' with
  | zero => exact nomatch h
  | succ fuel ih =>
    have hedge : ∀ d, dependent = some d → (node, d) ∈ (s.recordEdge node dependent).edges :=
      fun d hd => mem_recordEdge_edges.mpr (.inr ⟨d, hd, rfl⟩)
    have hkeep : ∀ e ∈ s.edges, e ∈ (s.recordEdge node dependent).edges :=
      fun e he => mem_recordEdge_edges.mpr (.inl he)
    have hinv₀ := hinv.recordEdge hdep
    obtain ⟨ds, hds, ⟨hmem, rfl⟩ | ⟨hmem, hpath, hadmits, c, hc, rfl⟩⟩ := visit_cases h
    -- An early return: only the edge is new.
    · refine ⟨⟨hinv₀, by simp, by simpa using hmem, ?_, hkeep, ?_⟩, hedge⟩
      · intro v hv
        simpa using hv
      · intro v hv
        exact .inl (by simpa using hv)
    · -- The loop over the dependencies: those already passed are visited and recorded.
      have hloop := List.foldlM_ok_induction (P := fun seen c =>
          Inv g c ∧ c.visiting = node :: s.visiting ∧
          (∀ v ∈ s.visited, v ∈ c.visited) ∧
          (∀ e ∈ (s.recordEdge node dependent).edges, e ∈ c.edges) ∧
          (∀ d ∈ seen, d ∈ c.visited ∧ (d, node) ∈ c.edges) ∧
          ∀ v ∈ c.visited, v ∈ s.visited ∨ g.Reaches node v) hc
        ⟨hinv₀.enter (by simpa using hmem), by simp [State.enter], by simp [State.enter],
          by simp [State.enter], by simp, by simp +contextual [State.enter]⟩ (by
        rintro seen d c c' hd ⟨hI, hp, hv, he, hseen, hr⟩ hvisit
        have hdepd : g.Dep node d := ⟨ds, hds, hd⟩
        obtain ⟨hV, hrec⟩ := ih hvisit hI (by
          rintro d' hd'
          obtain rfl := Option.some.inj hd'
          exact ⟨by rw [hp]; exact List.mem_cons_self, hdepd⟩)
        refine ⟨hV.inv, hV.visiting_eq.trans hp, fun v h => hV.visited_mono v (hv v h),
          fun e h => hV.edges_mono e (he e h), ?_, ?_⟩
        · intro d' hd'
          rcases List.mem_append.mp hd' with hd' | hd'
          · exact ⟨hV.visited_mono d' (hseen d' hd').1, hV.edges_mono _ (hseen d' hd').2⟩
          · obtain rfl := List.mem_singleton.mp hd'
            exact ⟨hV.mem, hrec node rfl⟩
        · intro v hv'
          rcases hV.reached v hv' with hold | hnew
          · exact hr v hold
          · exact .inr (Relation.ReflTransGen.head hdepd hnew))
      obtain ⟨hI, hp, hv, he, hseen, hr⟩ := hloop
      -- After the loop every dependency is visited, so `node` may be emitted.
      refine ⟨⟨hI.emit hds hadmits hp hseen hpath, by simp [hp],
        List.mem_cons_self, ?_, ?_, ?_⟩, ?_⟩
      · exact fun v h => List.mem_cons_of_mem _ (hv v h)
      · exact fun e h => he e (hkeep e h)
      · intro v hv'
        rcases List.mem_cons.mp hv' with rfl | hv'
        · exact .inr Relation.ReflTransGen.refl
        · exact hr v hv'
      · exact fun d hd => he _ (hedge d hd)

/-! ## A whole search -/

/-- The outcome of a search that returned. -/
structure Ordered (g : Graph α ε) (roots : List α) (s : State α) : Prop where
  nodup : s.ordered.Nodup
  mem_iff : ∀ v, v ∈ s.ordered ↔ g.ReachedFrom roots v
  topological : ∀ l₁ u l₂, s.ordered = l₁ ++ u :: l₂ → ∀ v, g.Dep u v → v ∈ l₁
  good : ∀ v ∈ s.ordered, g.deps v ≠ none ∧ g.admits v = true
  edges_iff : ∀ v u, (v, u) ∈ s.edges ↔ u ∈ s.ordered ∧ g.Dep u v
  edges_nodup : s.edges.Nodup

omit [DecidableEq α] in
/-- Whatever is reached from an emitted node is emitted. -/
theorem Inv.closed {g : Graph α ε} {s : State α} (hinv : Inv g s) {u v : α}
    (hu : u ∈ s.ordered) (huv : g.Reaches u v) : v ∈ s.ordered := by
  induction huv with
  | refl => exact hu
  | tail _ hdep ih =>
    obtain ⟨l₁, l₂, hsplit⟩ := List.append_of_mem ih
    rw [hsplit]
    exact List.mem_append_left _ (hinv.topological l₁ _ l₂ hsplit _ hdep)

/-- A search that returns has emitted exactly what its roots reach, once each,
    every node after its dependencies. -/
theorem order_ok {g : Graph α ε} {fuel : Nat} {roots : List α} {s : State α}
    (h : g.order fuel roots = .ok s) : Ordered g roots s := by
  -- Between two roots the path is empty.
  have hloop := List.foldlM_ok_induction (P := fun seen c =>
      Inv g c ∧ c.visiting = [] ∧ (∀ r ∈ seen, r ∈ c.visited) ∧
      ∀ v ∈ c.visited, g.ReachedFrom roots v) h
    ⟨Inv.init g, rfl, by simp, by simp⟩ (by
    rintro seen r c c' hr ⟨hI, hp, hseen, hreach⟩ hvisit
    obtain ⟨hV, -⟩ := visit_ok hvisit hI (by simp)
    refine ⟨hV.inv, hV.visiting_eq.trans hp, ?_, ?_⟩
    · intro r' hr'
      rcases List.mem_append.mp hr' with hr' | hr'
      · exact hV.visited_mono r' (hseen r' hr')
      · exact List.mem_singleton.mp hr' ▸ hV.mem
    · intro v hv
      rcases hV.reached v hv with hold | hnew
      · exact hreach v hold
      · exact ⟨r, hr, hnew⟩)
  obtain ⟨hI, hp, hseen, hreach⟩ := hloop
  refine ⟨hI.nodup, ?_, hI.topological, hI.good, ?_, hI.edges_nodup⟩
  · intro v
    rw [← hI.visited_iff]
    constructor
    · exact hreach v
    · rintro ⟨r, hr, hrv⟩
      exact (hI.visited_iff v).mpr (hI.closed ((hI.visited_iff r).mp (hseen r hr)) hrv)
  · intro v u
    constructor
    · intro huv
      obtain ⟨hdep, hu⟩ := hI.edges_sound v u huv
      -- The source of an edge is visited or on the path, and the path is empty.
      rw [hp] at hu
      exact ⟨(hI.visited_iff u).mp (hu.resolve_right (by simp)), hdep⟩
    · rintro ⟨hu, hdep⟩
      exact hI.edges_complete u ((hI.visited_iff u).mpr hu) v hdep

omit [DecidableEq α] in
/-- In a topological order no node reaches itself through a dependency. -/
theorem Ordered.acyclic {g : Graph α ε} {roots : List α} {s : State α} (ho : Ordered g roots s)
    {v : α} (hv : v ∈ s.ordered) : ¬ Relation.TransGen g.Dep v v := by
  intro hcycle
  -- A dependency chain only ever moves to the left in the order.
  have hleft : ∀ w, Relation.TransGen g.Dep v w →
      ∀ l₁ l₂, s.ordered = l₁ ++ v :: l₂ → w ∈ l₁ := by
    intro w hvw l₁ l₂ hsplit
    induction hvw with
    | single hdep => exact ho.topological l₁ v l₂ hsplit _ hdep
    | tail _ hdep ih =>
      obtain ⟨a, b, hab⟩ := List.append_of_mem ih
      have hsplit' := hsplit
      rw [hab, List.append_assoc, List.cons_append] at hsplit'
      rw [hab]
      exact List.mem_append_left _ (ho.topological a _ _ hsplit' _ hdep)
  obtain ⟨l₁, l₂, hsplit⟩ := List.append_of_mem hv
  have hmem := hleft v hcycle l₁ l₂ hsplit
  have hnd := ho.nodup
  rw [hsplit, List.nodup_append] at hnd
  exact hnd.2.2 v hmem v List.mem_cons_self rfl

/-- A node no search may return with: missing, refused, or on a cycle. -/
def Graph.Bad (g : Graph α ε) (v : α) : Prop :=
  g.deps v = none ∨ g.admits v = false ∨ Relation.TransGen g.Dep v v

/-- A search does not return when a bad node is reachable from its roots. -/
theorem order_raises {g : Graph α ε} (fuel : Nat) {roots : List α} {v : α}
    (hreach : g.ReachedFrom roots v) (hbad : g.Bad v) :
    ∃ e, g.order fuel roots = .error e := by
  cases hres : g.order fuel roots with
  | error e => exact ⟨e, rfl⟩
  | ok s =>
    have ho := order_ok hres
    have hv : v ∈ s.ordered := (ho.mem_iff v).mpr hreach
    rcases hbad with hnone | hrefused | hcycle
    · exact absurd hnone (ho.good v hv).1
    · exact absurd (ho.good v hv).2 (by simp [hrefused])
    · exact absurd hcycle (ho.acyclic hv)

/-! ## The recursion budget -/

/-- What a visit can raise. -/
theorem visit_error {g : Graph α ε} {fuel : Nat} {node : α} {dependent : Option α} {s : State α}
    {e : ε} (h : g.visit fuel node dependent s = .error e) :
    (∃ v, e = g.missing v ∨ e = g.cyclic v ∨ e = g.refused v) ∨ e = g.tooDeep := by
  induction fuel generalizing node dependent s with
  | zero => exact .inr (Except.error.inj h).symm
  | succ fuel ih =>
    unfold Graph.visit at h
    split at h
    · exact .inl ⟨node, .inl (Except.error.inj h).symm⟩
    · simp only [recordEdge_visited, recordEdge_visiting] at h
      split at h
      · exact nomatch h
      · split at h
        · exact .inl ⟨node, .inr (.inl (Except.error.inj h).symm)⟩
        · split at h
          · exact .inl ⟨node, .inr (.inr (Except.error.inj h).symm)⟩
          · rcases Except.bind_eq_error.mp h with hloop | ⟨c, -, hc⟩
            · obtain ⟨d, c, -, -, hd⟩ := List.foldlM_error_induction (P := fun _ => True) hloop
                trivial (fun _ _ _ _ _ _ => trivial)
              exact ih hd
            · exact nomatch hc

/-- What a search can raise. -/
theorem order_error {g : Graph α ε} {fuel : Nat} {roots : List α} {e : ε}
    (h : g.order fuel roots = .error e) :
    (∃ v, e = g.missing v ∨ e = g.cyclic v ∨ e = g.refused v) ∨ e = g.tooDeep := by
  obtain ⟨r, c, -, -, hr⟩ := List.foldlM_error_induction (P := fun _ => True) h trivial
    (fun _ _ _ _ _ _ => trivial)
  exact visit_error hr

/-- A visit is not cut short while the budget exceeds the number of nodes that
    are not yet on the path. -/
theorem visit_ne_tooDeep {g : Graph α ε} {nodes : List α}
    (hnodes : ∀ v, g.deps v ≠ none → v ∈ nodes)
    (hraise : ∀ v, g.missing v ≠ g.tooDeep ∧ g.cyclic v ≠ g.tooDeep ∧ g.refused v ≠ g.tooDeep)
    {fuel : Nat} {node : α} {dependent : Option α} {s : State α}
    (hnodup : s.visiting.Nodup) (hsub : ∀ v ∈ s.visiting, v ∈ nodes)
    (hfuel : nodes.length < fuel + s.visiting.length) :
    g.visit fuel node dependent s ≠ .error g.tooDeep := by
  induction fuel generalizing node dependent s with
  | zero =>
    -- A path without repetition is no longer than the list of nodes.
    have hle := (hnodup.subperm hsub).length_le
    omega
  | succ fuel ih =>
    unfold Graph.visit
    split
    · exact fun h => (hraise node).1 (Except.error.inj h)
    · rename_i ds hds
      simp only [recordEdge_visited, recordEdge_visiting]
      split
      · exact nofun
      · split
        · exact fun h => (hraise node).2.1 (Except.error.inj h)
        · rename_i hpath
          split
          · exact fun h => (hraise node).2.2 (Except.error.inj h)
          · -- The budget drops by one and the path grows by one.
            intro herr
            rcases Except.bind_eq_error.mp herr with hloop | ⟨c, -, hc⟩
            · obtain ⟨d, c, -, hc, hd⟩ := List.foldlM_error_induction
                (P := fun c : State α => c.visiting = node :: s.visiting) hloop
                (by simp [State.enter]) (fun _ _ _ _ hP hv => (visit_visiting hv).trans hP)
              refine ih (s := c) ?_ ?_ ?_ hd
              · rw [hc]
                exact List.nodup_cons.mpr ⟨hpath, hnodup⟩
              · intro v hv
                rw [hc] at hv
                rcases List.mem_cons.mp hv with rfl | hv
                · exact hnodes v (by simp [hds])
                · exact hsub v hv
              · rw [hc, List.length_cons]
                omega
            · exact nomatch hc

/-- A budget above the number of nodes is never spent. -/
theorem order_ne_tooDeep {g : Graph α ε} (nodes : List α) {roots : List α} {fuel : Nat}
    (hnodes : ∀ v, g.deps v ≠ none → v ∈ nodes)
    (hraise : ∀ v, g.missing v ≠ g.tooDeep ∧ g.cyclic v ≠ g.tooDeep ∧ g.refused v ≠ g.tooDeep)
    (hfuel : nodes.length < fuel) : g.order fuel roots ≠ .error g.tooDeep := by
  intro herr
  obtain ⟨r, c, -, hc, hr⟩ := List.foldlM_error_induction
    (P := fun c : State α => c.visiting = []) herr rfl
    (fun _ _ _ _ hP hv => (visit_visiting hv).trans hP)
  exact visit_ne_tooDeep hnodes hraise (by simp [hc]) (by simp [hc]) (by omega) hr

end DepthFirst
