import Conformance.Native.AuthSessionStore

/-!
# Auth sessions resolve once

The public callback endpoint has no other replay protection than the store: a
session leaves `awaiting` at most once. Here that is an invariant over arbitrary
sequences of method calls, together with what surrounds it: the optional fields
follow the status, no run exceeds its cap, a call that raises writes nothing, and
a call concerning one run leaves the sessions of the others alone.

`Effect` says once what a call that returns can do to the store.
-/

namespace Conformance

/-- The optional fields of a session follow its status. -/
structure AuthSession.Consistent (session : AuthSession) : Prop where
  code : session.code.isSome = true ↔ session.status = .captured
  error : session.error.isSome = true ↔ session.status = .error
  capturedAt : session.capturedAt.isSome = true ↔ session.status ≠ .awaiting

/-- The one transition of a session: from `awaiting` to `captured` or `error`. -/
structure AuthSession.Resolves (session session' : AuthSession) : Prop where
  awaiting : session.status = .awaiting
  resolved : session'.status = .captured ∨ session'.status = .error
  state : session'.state = session.state
  runId : session'.runId = session.runId
  createdAt : session'.createdAt = session.createdAt

namespace AuthSessionStore

/-- The run a call is about: the one it names, or the owner of the state it
    names. -/
def Op.concerns (store : AuthSessionStore) : Op → Option String
  | .register runId .. => some runId
  | .captureCode state .. => (store.sessions.get? state).map AuthSession.runId
  | .captureError state .. => (store.sessions.get? state).map AuthSession.runId
  | .get runId _ => some runId
  | .forRun runId => some runId
  | .discard runId _ => some runId
  | .discardForRun runId => some runId

/-! ## What one method does -/

/-- The session a successful registration adds. -/
def registered (runId : String) (state : Option String) (token : String) (now : Timestamp) :
    AuthSession :=
  { state := state.getD token, runId := runId, status := .awaiting, createdAt := now }

/-- `register` checks the supplied state, then uniqueness, then the cap. -/
theorem register_run (store : AuthSessionStore) (runId : String) (state : Option String)
    (token : String) (now : Timestamp) :
    (register runId state token now).run store =
      if state.any fun s => s.length < MIN_CALLER_SUPPLIED_STATE_LENGTH then
        .error (.invalidAuthSessionStateError (state.getD token)) store
      else if store.sessions.contains (state.getD token) then
        .error (.duplicateAuthSessionError (state.getD token)) store
      else if MAX_SESSIONS_PER_RUN ≤ (store.ownedBy runId).length then
        .error (.authSessionLimitError runId) store
      else
        .ok (registered runId state token now)
          ⟨store.sessions.set (state.getD token) (registered runId state token now)⟩ := by
  by_cases hdup : store.sessions.contains (state.getD token) = true <;>
    by_cases hcap : MAX_SESSIONS_PER_RUN ≤ (store.ownedBy runId).length
  -- the length check is made on supplied states only
  all_goals
    cases state with
    | none =>
      simp only [Option.getD_none] at hdup
      simp [-bind_pure_comp, register, registered, hdup, hcap]
    | some s =>
      by_cases hlen : s.length < MIN_CALLER_SUPPLIED_STATE_LENGTH
      · simp [register, hlen]
      · simp only [Option.getD_some] at hdup
        simp [-bind_pure_comp, register, registered, hlen, hdup, hcap]

/-- A capture needs a registered session that is still awaiting. -/
theorem awaitingSession_run (store : AuthSessionStore) (state : String) :
    (awaitingSession state).run store =
      match store.sessions.get? state with
      | none => .error (.unknownAuthSessionError state) store
      | some session =>
        if session.status = .awaiting then .ok session store
        else .error (.authSessionAlreadyResolvedError state session.status) store := by
  cases hget : store.sessions.get? state with
  | none =>
    simp only [awaitingSession, EStateM.run_bind, EStateM.run_get, hget]
    rfl
  | some session =>
    by_cases hst : session.status = .awaiting <;>
      simp [-bind_pure_comp, awaitingSession, hget, hst]

/-- The ways a call that returns changes the store. -/
inductive Effect (store : AuthSessionStore) : Op → AuthSessionStore → Prop
  | same {op : Op} : Effect store op store
  | register {runId : String} {state : Option String} {token : String} {now : Timestamp}
      (hnew : store.sessions.get? (state.getD token) = none)
      (hcap : (store.ownedBy runId).length < MAX_SESSIONS_PER_RUN) :
      Effect store (.register runId state token now)
        ⟨store.sessions.set (state.getD token) (registered runId state token now)⟩
  | capture {op : Op} {state : String} {session session' : AuthSession}
      (hget : store.sessions.get? state = some session) (hresolves : session.Resolves session')
      (hconsistent : session.Consistent → session'.Consistent)
      (hop : op.concerns store = some session.runId) :
      Effect store op ⟨store.sessions.set state session'⟩
  | discard {runId state : String} {session : AuthSession}
      (hget : store.sessions.get? state = some session) (howner : session.runId = runId) :
      Effect store (.discard runId state) ⟨store.sessions.erase state⟩
  | discardForRun {runId : String} : Effect store (.discardForRun runId)
      ⟨((store.sessions.entries.filter fun e => e.2.runId = runId).map Prod.fst).foldl Dict.erase
        store.sessions⟩

/-- The outcome of a call whose value is not used. -/
def withoutValue {α : Type} : EStateM.Result AuthSessionError AuthSessionStore α →
    EStateM.Result AuthSessionError AuthSessionStore Unit
  | .ok _ store => .ok () store
  | .error error store => .error error store

/-- A call raises and writes nothing, or returns with one of these effects. -/
theorem call_cases (store : AuthSessionStore) (op : Op) :
    (∃ error, op.call.run store = .error error store) ∨
      ∃ store', op.call.run store = .ok () store' ∧ Effect store op store' := by
  cases op with
  | register runId state token now =>
    have hcall : (Op.register runId state token now).call.run store =
        withoutValue ((AuthSessionStore.register runId state token now).run store) := by
      simp only [Op.call, EStateM.run_bind, EStateM.run_pure]
      cases (AuthSessionStore.register runId state token now).run store <;> rfl
    rw [hcall, register_run]
    -- the three checks, in the order of the source
    by_cases hshort : state.any (fun s => s.length < MIN_CALLER_SUPPLIED_STATE_LENGTH) = true
    · exact .inl ⟨_, by rw [if_pos hshort]; rfl⟩
    by_cases hdup : store.sessions.contains (state.getD token) = true
    · exact .inl ⟨_, by rw [if_neg hshort, if_pos hdup]; rfl⟩
    by_cases hcap : MAX_SESSIONS_PER_RUN ≤ (store.ownedBy runId).length
    · exact .inl ⟨_, by rw [if_neg hshort, if_neg hdup, if_pos hcap]; rfl⟩
    refine .inr ⟨_, by rw [if_neg hshort, if_neg hdup, if_neg hcap]; rfl, ?_⟩
    exact .register (by simpa [Dict.contains] using hdup) (Nat.lt_of_not_le hcap)
  | captureCode state code now =>
    simp only [Op.call, captureCode, EStateM.run_bind, awaitingSession_run]
    cases hget : store.sessions.get? state with
    | none => exact .inl ⟨_, rfl⟩
    | some session =>
      by_cases hst : session.status = .awaiting
      · simp only [hst, if_true]
        refine .inr ⟨_, rfl, .capture hget ⟨hst, .inl rfl, rfl, rfl, rfl⟩ ?_ (by simp [Op.concerns, hget])⟩
        -- an awaiting session has no error to lose
        intro hcons
        have herror := hcons.error
        exact ⟨by simp, by simpa [hst] using herror, by simp⟩
      · simp only [hst, if_false]
        exact .inl ⟨_, rfl⟩
  | captureError state error description now =>
    simp only [Op.call, captureError, EStateM.run_bind, awaitingSession_run]
    cases hget : store.sessions.get? state with
    | none => exact .inl ⟨_, rfl⟩
    | some session =>
      by_cases hst : session.status = .awaiting
      · simp only [hst, if_true]
        refine .inr ⟨_, rfl, .capture hget ⟨hst, .inr rfl, rfl, rfl, rfl⟩ ?_ (by simp [Op.concerns, hget])⟩
        -- and no code
        intro hcons
        have hcode := hcons.code
        exact ⟨by simpa [hst] using hcode, by simp, by simp⟩
      · simp only [hst, if_false]
        exact .inl ⟨_, rfl⟩
  | get runId state => exact .inr ⟨store, rfl, .same⟩
  | forRun runId => exact .inr ⟨store, rfl, .same⟩
  | discard runId state =>
    cases hget : store.sessions.get? state with
    | none => exact .inr ⟨store, by simp [Op.call, AuthSessionStore.discard, hget], .same⟩
    | some session =>
      by_cases howner : session.runId = runId
      · refine .inr ⟨_, ?_, .discard hget howner⟩
        simp [-bind_pure_comp, Op.call, AuthSessionStore.discard, hget, howner]
      -- another run's session is left alone, silently
      · exact .inr ⟨store, by simp [Op.call, AuthSessionStore.discard, hget, howner], .same⟩
  | discardForRun runId => exact .inr ⟨_, rfl, .discardForRun⟩

/-- Seen from the store, a call has one of these effects or none. -/
theorem effect_after (store : AuthSessionStore) (op : Op) : Effect store op (store.after op) := by
  rcases call_cases store op with ⟨error, hrun⟩ | ⟨store', hrun, heffect⟩
  · rw [after, hrun]
    exact .same
  · rw [after, hrun]
    exact heffect

/-- The keys `discard_for_run` drops are those of the run's sessions. -/
private theorem mem_toDrop {store : AuthSessionStore} {runId state : String} :
    state ∈ (store.sessions.entries.filter fun e => e.2.runId = runId).map Prod.fst ↔
      ∃ session, store.sessions.get? state = some session ∧ session.runId = runId := by
  simp only [List.mem_map, List.mem_filter, Prod.exists, Dict.mem_entries_iff, decide_eq_true_eq]
  constructor
  · rintro ⟨k, session, ⟨hget, howner⟩, rfl⟩
    exact ⟨session, hget, howner⟩
  · rintro ⟨session, hget, howner⟩
    exact ⟨state, session, ⟨hget, howner⟩, rfl⟩

/-- A session found after a call was there before, or is the one the call
    registered, or is the one the call resolved. -/
theorem lookup_after {store : AuthSessionStore} {op : Op} {state : String} {session' : AuthSession}
    (hget' : (store.after op).sessions.get? state = some session') :
    store.sessions.get? state = some session' ∨
      (store.sessions.get? state = none ∧ ∃ runId supplied token now,
        op = .register runId supplied token now ∧ state = supplied.getD token ∧
          session' = registered runId supplied token now) ∨
      ∃ session, store.sessions.get? state = some session ∧ session.Resolves session' ∧
        (session.Consistent → session'.Consistent) ∧ op.concerns store = some session.runId := by
  have heffect := effect_after store op
  revert heffect hget'
  generalize store.after op = store'
  intro hget' heffect
  cases heffect with
  | same => exact .inl hget'
  | @register runId supplied token now hnew _ =>
    rw [Dict.get?_set] at hget'
    split at hget'
    · rename_i hkey
      refine .inr (.inl ⟨hkey ▸ hnew, runId, supplied, token, now, rfl, hkey, ?_⟩)
      exact (Option.some.inj hget').symm
    · exact .inl hget'
  | @capture _ k session x hget hresolves hconsistent hop =>
    rw [Dict.get?_set] at hget'
    split at hget'
    · rename_i hkey
      obtain rfl := Option.some.inj hget'
      exact .inr (.inr ⟨session, hkey ▸ hget, hresolves, hconsistent, hop⟩)
    · exact .inl hget'
  | discard _ _ =>
    rw [Dict.get?_erase] at hget'
    split at hget'
    · exact absurd hget' (by simp)
    · exact .inl hget'
  | discardForRun =>
    rw [Dict.get?_foldl_erase] at hget'
    split at hget'
    · exact absurd hget' (by simp)
    · exact .inl hget'

/-- A call that does not concern the owner of a session leaves it as it is. -/
theorem lookup_before {store : AuthSessionStore} {op : Op} {state : String} {session : AuthSession}
    (hget : store.sessions.get? state = some session)
    (hother : op.concerns store ≠ some session.runId) :
    (store.after op).sessions.get? state = some session := by
  have heffect := effect_after store op
  revert heffect
  generalize store.after op = store'
  intro heffect
  cases heffect with
  | same => exact hget
  -- states are unique, so no registration writes over a session
  | @register runId supplied token now hnew _ =>
    rw [Dict.get?_set, if_neg]
    · exact hget
    · rintro rfl
      rw [hget] at hnew
      exact absurd hnew (by simp)
  -- the other writers act on the owner's behalf
  | @capture _ k x _ hk _ _ hop =>
    rw [Dict.get?_set, if_neg]
    · exact hget
    · rintro rfl
      obtain rfl := Option.some.inj (hget.symm.trans hk)
      exact hother hop
  | @discard runId k x hk howner =>
    rw [Dict.get?_erase, if_neg]
    · exact hget
    · rintro rfl
      obtain rfl := Option.some.inj (hget.symm.trans hk)
      exact hother (by simp [Op.concerns, howner])
  | @discardForRun runId =>
    rw [Dict.get?_foldl_erase, if_neg]
    · exact hget
    · intro hdrop
      obtain ⟨x, hx, howner⟩ := mem_toDrop.mp hdrop
      obtain rfl := Option.some.inj (hget.symm.trans hx)
      exact hother (by simp [Op.concerns, howner])

/-- `discard_for_run` leaves no session of the run. -/
theorem lookup_after_discardForRun {store : AuthSessionStore} {runId state : String}
    {session : AuthSession}
    (hget' : (store.after (.discardForRun runId)).sessions.get? state = some session) :
    store.sessions.get? state = some session ∧ session.runId ≠ runId := by
  have hafter : (store.after (.discardForRun runId)).sessions =
      ((store.sessions.entries.filter fun e => e.2.runId = runId).map Prod.fst).foldl Dict.erase
        store.sessions := rfl
  rw [hafter, Dict.get?_foldl_erase] at hget'
  split at hget'
  · exact absurd hget' (by simp)
  · rename_i hkept
    exact ⟨hget', fun howner => hkept (mem_toDrop.mpr ⟨session, hget', howner⟩)⟩

/-- `discard` leaves no session of the run under the state. -/
theorem lookup_after_discard {store : AuthSessionStore} {runId dropped state : String}
    {session : AuthSession}
    (hget' : (store.after (.discard runId dropped)).sessions.get? state = some session) :
    store.sessions.get? state = some session ∧ (state = dropped → session.runId ≠ runId) := by
  cases hget : store.sessions.get? dropped with
  | none =>
    have hafter : store.after (.discard runId dropped) = store := by
      simp [after, Op.call, AuthSessionStore.discard, hget]
    rw [hafter] at hget'
    refine ⟨hget', ?_⟩
    rintro rfl
    rw [hget] at hget'
    exact absurd hget' (by simp)
  | some x =>
    -- the session is erased only for the run that owns it
    by_cases howner : x.runId = runId
    · have hafter : store.after (.discard runId dropped) = ⟨store.sessions.erase dropped⟩ := by
        simp [-bind_pure_comp, after, Op.call, AuthSessionStore.discard, hget, howner]
      rw [hafter, Dict.get?_erase] at hget'
      split at hget'
      · exact absurd hget' (by simp)
      · rename_i hne
        exact ⟨hget', fun heq => absurd heq hne⟩
    · have hafter : store.after (.discard runId dropped) = store := by
        simp [after, Op.call, AuthSessionStore.discard, hget, howner]
      rw [hafter] at hget'
      refine ⟨hget', ?_⟩
      rintro rfl
      obtain rfl := Option.some.inj (hget.symm.trans hget')
      exact howner

/-! ## The invariant -/

/-- What holds after every sequence of calls. -/
structure Inv (store : AuthSessionStore) : Prop where
  keyed : ∀ state session, store.sessions.get? state = some session → session.state = state
  consistent : ∀ state session, store.sessions.get? state = some session → session.Consistent
  capped : ∀ runId, (store.ownedBy runId).length ≤ MAX_SESSIONS_PER_RUN

/-- The invariant holds of the empty store. -/
theorem inv_init : Inv init where
  keyed := by simp [init]
  consistent := by simp [init]
  capped := by simp [init, ownedBy, Dict.values, Dict.empty]

/-- The sessions of a run, counted by their keys. -/
private theorem ownedBy_length (store : AuthSessionStore) (runId : String) :
    (store.ownedBy runId).length = (store.sessions.keys.filter fun k =>
      (store.sessions.get? k).any fun session => session.runId = runId).length := by
  rw [← Dict.map_fst_filter_entries, List.length_map, ownedBy, Dict.values, List.filter_map,
    List.length_map]
  rfl

/-- Dropping keys does not add sessions to a run. -/
private theorem ownedBy_foldl_erase_le (store : AuthSessionStore) (states : List String)
    (runId : String) :
    (ownedBy ⟨states.foldl Dict.erase store.sessions⟩ runId).length ≤
      (store.ownedBy runId).length := by
  rw [ownedBy_length, ownedBy_length, Dict.keys_foldl_erase, List.filter_filter]
  apply List.Sublist.length_le
  apply List.monotone_filter_right
  intro k hk
  simp only [Dict.get?_foldl_erase, Bool.and_eq_true, decide_eq_true_eq] at hk
  obtain ⟨hany, hkeep⟩ := hk
  rwa [if_neg hkeep] at hany

/-- A capture keeps the number of sessions of every run. -/
private theorem ownedBy_set_length {store : AuthSessionStore} {state : String}
    {session session' : AuthSession} (hget : store.sessions.get? state = some session)
    (howner : session'.runId = session.runId) (runId : String) :
    (ownedBy ⟨store.sessions.set state session'⟩ runId).length = (store.ownedBy runId).length := by
  have hmem : state ∈ store.sessions.keys := Dict.mem_keys_iff.mpr ⟨session, hget⟩
  rw [ownedBy_length, ownedBy_length, Dict.keys_set_of_mem _ hmem]
  congr 1
  apply List.filter_congr
  intro k _
  rw [Dict.get?_set]
  by_cases hk : k = state
  · simp [hk, hget, howner]
  · simp [hk]

/-- Registering adds one session to one run. -/
theorem ownedBy_set_new {store : AuthSessionStore} {state : String} {session : AuthSession}
    (hnew : store.sessions.get? state = none) (runId : String) :
    (ownedBy ⟨store.sessions.set state session⟩ runId).length =
      (store.ownedBy runId).length + if session.runId = runId then 1 else 0 := by
  have hentries := Dict.entries_set_of_notMem session (Dict.get?_eq_none_iff.mp hnew)
  simp only [ownedBy, Dict.values, hentries, List.map_append, List.map_cons, List.map_nil,
    List.filter_append, List.length_append]
  by_cases howner : session.runId = runId <;> simp [howner]

/-- A new session is consistent: it awaits, and its optional fields are unset. -/
private theorem registered_consistent (runId : String) (state : Option String) (token : String)
    (now : Timestamp) : (registered runId state token now).Consistent :=
  ⟨by simp [registered], by simp [registered], by simp [registered]⟩

/-- A call that registers a session for the run. -/
def Op.registersFor (runId : String) : Op → Bool
  | .register owner .. => owner = runId
  | _ => false

/-- Other calls add no session to a run. -/
theorem ownedBy_after_le {store : AuthSessionStore} {op : Op} {runId : String}
    (h : op.registersFor runId = false) :
    ((store.after op).ownedBy runId).length ≤ (store.ownedBy runId).length := by
  have heffect := effect_after store op
  revert heffect
  generalize store.after op = store'
  intro heffect
  cases heffect with
  | same => exact Nat.le_refl _
  | @register owner supplied token now hnew hcap =>
    have hother : (registered owner supplied token now).runId ≠ runId := by
      simpa [Op.registersFor, registered] using h
    rw [ownedBy_set_new hnew, if_neg hother]
    exact Nat.le_refl _
  | capture hget hresolves _ _ => exact (ownedBy_set_length hget hresolves.runId runId).le
  | @discard _ state _ _ _ => exact ownedBy_foldl_erase_le store [state] runId
  | discardForRun => exact ownedBy_foldl_erase_le store _ runId

/-- Every call keeps the cap. -/
private theorem Inv.capped_after {store : AuthSessionStore} (hinv : Inv store) (op : Op)
    (runId : String) : ((store.after op).ownedBy runId).length ≤ MAX_SESSIONS_PER_RUN := by
  have hcapped := hinv.capped runId
  have heffect := effect_after store op
  cases op with
  | register owner supplied token now =>
    revert heffect
    generalize store.after (.register owner supplied token now) = store'
    intro heffect
    cases heffect with
    | same => exact hcapped
    | register hnew hcap =>
      rw [ownedBy_set_new hnew]
      split
      · rename_i howner
        obtain rfl : owner = runId := howner
        exact hcap
      · exact hcapped
    | capture hget hresolves _ _ =>
      rw [ownedBy_set_length hget hresolves.runId]
      exact hcapped
  | _ => exact (ownedBy_after_le rfl).trans hcapped

/-- Every call keeps the invariant. -/
theorem Inv.after {store : AuthSessionStore} (hinv : Inv store) (op : Op) :
    Inv (store.after op) := by
  refine ⟨?_, ?_, hinv.capped_after op⟩
  · intro state session' hget'
    rcases lookup_after hget' with hget | ⟨_, _, _, _, _, _, hkey, rfl⟩ | ⟨x, hx, hresolves, _, _⟩
    · exact hinv.keyed state session' hget
    · exact hkey.symm
    · rw [hresolves.state, hinv.keyed state x hx]
  · intro state session' hget'
    rcases lookup_after hget' with hget | ⟨_, _, _, _, _, _, _, rfl⟩ | ⟨x, hx, _, hcons, _⟩
    · exact hinv.consistent state session' hget
    · exact registered_consistent _ _ _ _
    · exact hcons (hinv.consistent state x hx)

/-! ## Whole sequences -/

@[simp] theorem exec_nil : exec [] = init := rfl

@[simp] theorem exec_snoc (ops : List Op) (op : Op) : exec (ops ++ [op]) = (exec ops).after op := by
  simp [exec]

/-- The invariant holds after all calls. -/
theorem exec_inv (ops : List Op) : Inv (exec ops) := by
  induction ops using List.reverseRecOn with
  | nil => exact inv_init
  | append_singleton ops op ih =>
    rw [exec_snoc]
    exact ih.after op

/-- While a state stays registered its session is unchanged or has made its one
    transition. -/
theorem resolves_once {ops later : List Op} {state : String} {session session' : AuthSession}
    (hget : (exec ops).sessions.get? state = some session)
    (hstays : ∀ pre, pre <+: later → (exec (ops ++ pre)).sessions.contains state = true)
    (hget' : (exec (ops ++ later)).sessions.get? state = some session') :
    session' = session ∨ session.Resolves session' := by
  induction later using List.reverseRecOn generalizing session' with
  | nil =>
    rw [List.append_nil] at hget'
    exact .inl (Option.some.inj (hget'.symm.trans hget))
  | append_singleton later op ih =>
    have hbefore := fun pre (hpre : pre <+: later) =>
      hstays pre (hpre.trans (List.prefix_append later [op]))
    obtain ⟨x, hx⟩ := Option.isSome_iff_exists.mp (hbefore later List.prefix_rfl)
    have hmid := ih hbefore hx
    rw [← List.append_assoc, exec_snoc] at hget'
    rcases lookup_after hget' with hsame | ⟨hnone, _⟩ | ⟨y, hy, hresolves, _, _⟩
    · obtain rfl := Option.some.inj (hsame.symm.trans hx)
      exact hmid
    -- the state never left the store, so the session was not registered anew
    · rw [hx] at hnone
      exact absurd hnone (by simp)
    · obtain rfl := Option.some.inj (hx.symm.trans hy)
      rcases hmid with rfl | hearlier
      · exact .inr hresolves
      · -- a resolved session no longer awaits, so it cannot resolve again
        rcases hearlier.resolved with h | h
        · exact absurd (hresolves.awaiting.symm.trans h) (by decide)
        · exact absurd (hresolves.awaiting.symm.trans h) (by decide)

/-- The one-shot state machine, after any sequence of calls on any runs and
    states: fields follow the status, no run exceeds its cap, states are unique,
    a session resolves at most once while it is registered, a call that raises
    leaves the store as it was, and a call leaves the sessions of every run it
    does not concern as they were. -/
theorem exec_oneShot (ops : List Op) :
    (∀ state session, (exec ops).sessions.get? state = some session → session.Consistent) ∧
    (∀ runId, ((exec ops).ownedBy runId).length ≤ MAX_SESSIONS_PER_RUN) ∧
    ((exec ops).sessions.values.map AuthSession.state).Nodup ∧
    (∀ later state session session', (exec ops).sessions.get? state = some session →
      (∀ pre, pre <+: later → (exec (ops ++ pre)).sessions.contains state = true) →
      (exec (ops ++ later)).sessions.get? state = some session' →
      session' = session ∨ session.Resolves session') ∧
    (∀ (op : Op) error store', op.call.run (exec ops) = .error error store' → store' = exec ops) ∧
    (∀ op state session, op.concerns (exec ops) ≠ some session.runId →
      ((exec (ops ++ [op])).sessions.get? state = some session ↔
        (exec ops).sessions.get? state = some session)) := by
  have hinv := exec_inv ops
  refine ⟨hinv.consistent, hinv.capped, ?_, ?_, ?_, ?_⟩
  -- every session sits under its own state
  · have hstates : (exec ops).sessions.values.map AuthSession.state = (exec ops).sessions.keys := by
      rw [Dict.values, Dict.keys, List.map_map]
      apply List.map_congr_left
      intro e he
      exact hinv.keyed e.1 e.2 (Dict.mem_entries_iff.mp he)
    rw [hstates]
    exact Dict.keys_nodup _
  · intro later state session session' hget hstays hget'
    exact resolves_once hget hstays hget'
  · intro op error store' hraise
    -- a call that raises is refused before it writes
    rcases call_cases (exec ops) op with ⟨error', hrun⟩ | ⟨_, hrun, _⟩
    · rw [hrun] at hraise
      injection hraise with _ hstore
      exact hstore.symm
    · rw [hrun] at hraise
      cases hraise
  · intro op state session hother
    rw [exec_snoc]
    constructor
    · intro hget'
      rcases lookup_after hget' with hget | ⟨_, _, _, _, _, rfl, _, rfl⟩ | ⟨x, _, hresolves, _, hop⟩
      · exact hget
      · exact absurd rfl hother
      · rw [hresolves.runId] at hother
        exact absurd hop hother
    · intro hget
      exact lookup_before hget hother

end AuthSessionStore

end Conformance
