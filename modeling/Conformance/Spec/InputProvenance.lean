import Conformance.Native.StepExecution
import Conformance.Spec.TemplateText

/-!
# Where the text of a request comes from

A runtime input is data: the text it adds to a request is to reach the bank as it
is. Requests are built with a note, for every character, of whether the catalogue or
an input wrote it (`Marks.tracked`). `mapOwn` reads placeholders in what the
catalogue wrote and in nothing else; the code reads a text as a whole. The two agree
on a text in which no opening has a character of an input.

## Key results

- `resolveAgain_plain`: on the second pass over a path
- `resolvesTo_of_mapOwn`: on the placeholders that are resolved when a step runs
- `clear_of_mapOwn`: a text that leaves no opening on the wire is such a text
-/

namespace Conformance.CatalogueRequest

open Except

/-! ## Reading what the catalogue wrote -/

section MapOwn

variable {ε γ : Type}

/-- Resolve the runs of the catalogue's characters and keep the characters of inputs.
    `run` holds the catalogue's characters read last, in reverse. -/
def mapOwn (resolve : List Char → Except ε (List γ)) (keep : Char → γ) (run : List Char) :
    List (Char × Origin) → Except ε (List γ)
  | [] => resolve run.reverse
  | (c, .own) :: rest => mapOwn resolve keep (c :: run) rest
  | (c, .input) :: rest => do
    let before ← resolve run.reverse
    let after ← mapOwn resolve keep [] rest
    return before ++ keep c :: after

/-- No opening of a placeholder has a character of an input. -/
def Clear (cs : List (Char × Origin)) : Prop :=
  cs.IsChain fun a b => a.1 = '$' → b.1 = '{' → a.2 = .own ∧ b.2 = .own

/-- Every opening before a character of an input is closed before it. -/
def RunsClosed (run : List Char) : List (Char × Origin) → Prop
  | [] => True
  | (c, .own) :: rest => RunsClosed (c :: run) rest
  | (_, .input) :: rest => Closed run.reverse ∧ RunsClosed [] rest

/-- The characters of the catalogue. -/
def ownChars (cs : List Char) : List (Char × Origin) := cs.map Marks.tracked.own

/-- A text without its origins. -/
def plainText (cs : List (Char × Origin)) : List Char := cs.map Prod.fst

/-- Own characters extend the run before them. -/
theorem runsClosed_ownChars_append (run cs : List Char) (rest : List (Char × Origin)) :
    RunsClosed run (ownChars cs ++ rest) ↔ RunsClosed (cs.reverse ++ run) rest := by
  induction cs generalizing run with
  | nil => rfl
  | cons c cs ih =>
    rw [List.reverse_cons, List.append_assoc]
    exact ih (c :: run)

/-- A shorter run before a text is closed if a longer one is. -/
theorem RunsClosed.of_run_append (run : List Char) {before : List Char}
    {cs : List (Char × Origin)} (h : RunsClosed (run ++ before) cs) : RunsClosed run cs := by
  induction cs generalizing run with
  | nil => trivial
  | cons c rest ih =>
    obtain ⟨c, origin⟩ := c
    cases origin with
    | own => exact ih (c :: run) h
    | input =>
      obtain ⟨hclosed, hrest⟩ := h
      rw [List.reverse_append] at hclosed
      exact ⟨hclosed.of_append, hrest⟩

/-- The end of a text of closed runs has closed runs. -/
theorem RunsClosed.of_append {run : List Char} (cs : List (Char × Origin))
    {rest : List (Char × Origin)} (h : RunsClosed run (cs ++ rest)) : RunsClosed [] rest := by
  induction cs generalizing run with
  | nil => exact h.of_run_append []
  | cons c cs ih =>
    obtain ⟨c, origin⟩ := c
    cases origin with
    | own => exact ih h
    | input => exact ih h.2

/-- So has its start. -/
theorem RunsClosed.of_append_left (run : List Char) {cs rest : List (Char × Origin)}
    (h : RunsClosed run (cs ++ rest)) : RunsClosed run cs := by
  induction cs generalizing run with
  | nil => trivial
  | cons c cs ih =>
    obtain ⟨c, origin⟩ := c
    cases origin with
    | own => exact ih (c :: run) h
    | input => exact ⟨h.1, ih [] h.2⟩

/-- Runs that are resolved are closed, if only closed texts are. -/
theorem runsClosed_of_mapOwn {resolve : List Char → Except ε (List γ)} {keep : Char → γ}
    (hresolve : ∀ cs resolved, resolve cs = .ok resolved → Closed cs) (run : List Char)
    {cs : List (Char × Origin)} {resolved : List γ}
    (h : mapOwn resolve keep run cs = .ok resolved) : RunsClosed run cs := by
  induction cs generalizing run resolved with
  | nil => trivial
  | cons c rest ih =>
    obtain ⟨c, origin⟩ := c
    cases origin with
    | own => exact ih (c :: run) h
    | input =>
      obtain ⟨before, hbefore, h⟩ := bind_eq_ok.mp h
      obtain ⟨after, hafter, -⟩ := bind_eq_ok.mp h
      exact ⟨hresolve _ _ hbefore, ih [] hafter⟩

end MapOwn

/-! ## The second pass over a path -/

/-- Forgetting the origins after a substitution is substituting plainly. -/
theorem maps_substitute {start : List Char}
    {replace : String → Except PyError (List (Char × Origin))}
    {replace' : String → Except PyError (List Char)}
    (hreplace : ∀ name, Maps plainText (replace name) (replace' name)) (skip : Nat)
    (cs : List Char) :
    Maps plainText (substitute .tracked start replace skip cs)
      (substitute .plain start replace' skip cs) := by
  induction cs generalizing skip with
  | nil => exact .ok rfl
  | cons c rest ih =>
    cases skip with
    | succ skip => exact ih skip
    | zero =>
      rw [substitute, substitute]
      cases matchAt start (c :: rest) with
      | none => exact .bind (ih 0) fun tail _ => .ok rfl
      | some group =>
        exact .bind (hreplace _) fun value _ => .bind (ih _) fun tail _ => .ok List.map_append

theorem plainText_inputText (text : String) :
    plainText (inputText .tracked text) = inputText .plain text := by
  simp [plainText, inputText, Marks.tracked, Marks.plain, Function.comp_def]

/-- Forgetting the origins of a replacement gives the plain one. -/
theorem maps_replaceRuntime (inputs : RequestInputs) (inputId : String) :
    Maps plainText (replaceRuntime .tracked inputs inputId)
      (replaceRuntime .plain inputs inputId) := by
  unfold replaceRuntime
  split
  · exact .error
  · exact .error
  · split
    · exact .error
    · exact .ok (plainText_inputText _)
  · exact .error

/-- Forgetting the origins of a resolved template gives the plain one. -/
theorem maps_resolveCatalogueTemplateString (inputs : RequestInputs) (cs : List Char) :
    Maps plainText (resolveCatalogueTemplateString .tracked inputs cs)
      (resolveCatalogueTemplateString .plain inputs cs) := by
  intro resolved h
  obtain ⟨generated, hgenerated, h⟩ := bind_eq_ok.mp h
  exact bind_eq_ok.mpr ⟨generated, hgenerated,
    maps_substitute (maps_replaceRuntime inputs) 0 generated resolved h⟩

/-- Reading a path as a whole is reading what the catalogue wrote of it, when the result
    is clear and its runs are closed. -/
theorem resolveAgain_plain {inputs : RequestInputs} (run : List Char)
    {cs final : List (Char × Origin)}
    (h : mapOwn (resolveCatalogueTemplateString .tracked inputs) Marks.tracked.input run cs =
      .ok final)
    (hclear : Clear final) (hclosed : RunsClosed [] final) :
    resolveCatalogueTemplateString .plain inputs (run.reverse ++ plainText cs) =
      .ok (plainText final) := by
  induction cs generalizing run final with
  | nil =>
    rw [plainText, List.map_nil, List.append_nil]
    exact maps_resolveCatalogueTemplateString inputs _ final h
  | cons c rest ih =>
    obtain ⟨c, origin⟩ := c
    cases origin with
    | own =>
      have hrest := ih (c :: run) h hclear hclosed
      rwa [List.reverse_cons, List.append_assoc] at hrest
    | input =>
      obtain ⟨before, hbefore, h⟩ := bind_eq_ok.mp h
      obtain ⟨after, hafter, h⟩ := bind_eq_ok.mp h
      obtain rfl := Except.ok.inj h
      obtain ⟨-, hclearAfter, hclearJoin⟩ := List.isChain_append.mp hclear
      have hcafter := List.isChain_cons.mp hclearAfter
      -- both passes over the run and over the rest
      obtain ⟨generated, hgenerated, hbefore⟩ := bind_eq_ok.mp hbefore
      have hrest := ih [] hafter hcafter.2 (hclosed.of_append before).2
      obtain ⟨generated', hgenerated', hafter'⟩ := bind_eq_ok.mp hrest
      have hbefore' := maps_substitute (maps_replaceRuntime inputs) 0 generated before hbefore
      have hclosedGenerated : Closed generated := by
        refine closed_of_substitute (fun x y hxy => ?_) hbefore
        rw [hxy, List.append_assoc] at hclosed
        have hrun := (runsClosed_ownChars_append [] y _).mp (hclosed.of_append x)
        simpa using hrun.1
      have hclosedRun : Closed run.reverse := by
        refine closed_of_substitute (fun x y hxy => ?_) hgenerated
        rw [Marks.plain, List.map_id] at hxy
        exact (hxy ▸ hclosedGenerated).of_append
      have hleft : generated.getLast? = some '$' → c ≠ '{' := by
        rintro hlast rfl
        have hlast' := getLast?_substitute hbefore hlast
        exact absurd (hclearJoin _ hlast' _ rfl rfl rfl).2 (by simp [Marks.tracked])
      have hright : c = '$' → generated'.head? ≠ some '{' := by
        rintro rfl hhead
        obtain ⟨tail, rfl⟩ := List.head?_eq_some_iff.mp hhead
        obtain ⟨b, hb⟩ := substitute_brace opensWith_runtimeStart hafter'
        obtain ⟨d, after, rfl, hd, -⟩ := List.map_eq_cons_iff.mp hb
        exact absurd (hcafter.1 d rfl rfl hd).1 (by simp [Marks.tracked])
      have hright' : c = '$' → (plainText rest).head? ≠ some '{' := by
        intro hc hhead
        obtain ⟨tail, htail⟩ := List.head?_eq_some_iff.mp hhead
        rw [htail] at hgenerated'
        obtain ⟨b, rfl⟩ := substitute_brace opensWith_generatedStart hgenerated'
        exact hright hc rfl
      have hfirst := substitute_around opensWith_generatedStart hclosedRun
        (fun hlast => hleft (getLast?_substitute hgenerated hlast)) hright' hgenerated hgenerated'
      have hsecond := substitute_around opensWith_runtimeStart hclosedGenerated hleft hright
        hbefore' hafter'
      refine bind_eq_ok.mpr ⟨_, hfirst, hsecond.trans ?_⟩
      simp [plainText, Marks.plain, Marks.tracked]

/-! ## Texts on the wire -/

section Wire

variable (pyStr : Json → String) (context : ExecutionContext)

/-- `resolve_placeholders` on a list of characters. -/
def resolveText (cs : List Char) : Except PlaceholderError (List Char) := do
  let resolved ← resolvePlaceholders pyStr (String.ofList cs) context
  return resolved.toList

/-- A text with the placeholders of the catalogue resolved. -/
def intendedText (cs : List (Char × Origin)) : Except PlaceholderError String := do
  let resolved ← mapOwn (resolveText pyStr context) id [] cs
  return String.ofList resolved

variable {pyStr context}

/-- A text resolves to the parts of its tokens. -/
theorem resolveText_eq_ok_iff {cs resolved : List Char} :
    resolveText pyStr context cs = .ok resolved ↔ ResolvesTo pyStr context cs resolved := by
  unfold resolveText
  rw [bind_eq_ok]
  constructor
  · rintro ⟨text, htext, h⟩
    obtain rfl := Except.ok.inj h
    simpa using resolvePlaceholders_eq_ok_iff.mp htext
  · intro h
    refine ⟨String.ofList resolved, resolvePlaceholders_eq_ok_iff.mpr ?_, ?_⟩
    · simpa using h
    · simp [pure, Except.pure]

/-- A text without inputs is clear. -/
theorem clear_ownChars (cs : List Char) : Clear (ownChars cs) := by
  induction cs with
  | nil => exact .nil
  | cons c rest ih =>
    refine List.isChain_cons.mpr ⟨fun b hb _ _ => ⟨rfl, ?_⟩, ih⟩
    obtain ⟨d, -, rfl⟩ := List.mem_map.mp (List.mem_of_head? hb)
    rfl

/-- A character of an input between the catalogue's text and the rest. -/
theorem clear_cons_input {c : Char} {run : List Char} {rest : List (Char × Origin)} :
    Clear (ownChars run ++ (c, .input) :: rest) ↔
      (run.getLast? = some '$' → c ≠ '{') ∧
        (c = '$' → (plainText rest).head? ≠ some '{') ∧ Clear rest := by
  unfold Clear
  rw [List.isChain_append, List.isChain_cons]
  have hrun : (ownChars run).getLast? = run.getLast?.map fun d => (d, .own) := by
    rw [ownChars, List.getLast?_map]
    rfl
  have hhead : (plainText rest).head? = rest.head?.map Prod.fst := by
    rw [plainText, List.head?_map]
  rw [hrun, hhead]
  constructor
  · rintro ⟨-, ⟨hright, hrest⟩, hleft⟩
    refine ⟨fun hlast hc => ?_, fun hc hnext => ?_, hrest⟩
    · exact absurd (hleft ('$', .own) (by simp [hlast]) _ rfl rfl hc).2 (by simp)
    · obtain ⟨d, hd, hbrace⟩ := Option.map_eq_some_iff.mp hnext
      exact absurd (hright d hd hc hbrace).1 (by simp)
  · rintro ⟨hleft, hright, hrest⟩
    refine ⟨clear_ownChars run, ⟨fun d hd hc hbrace => ?_, hrest⟩, fun a ha b hb hdollar hbrace => ?_⟩
    · rw [Option.mem_def] at hd
      exact absurd (by rw [hd, Option.map_some, hbrace]) (hright hc)
    · obtain ⟨d, hd, rfl⟩ := Option.map_eq_some_iff.mp ha
      rw [List.head?_cons, Option.mem_def, Option.some_inj] at hb
      subst hb
      exact absurd hbrace (hleft (by rw [hd]; exact congrArg some hdollar))

/-- A clear text resolves as a whole to what its parts resolve to. -/
theorem resolvesTo_of_mapOwn (run : List Char) {cs : List (Char × Origin)} {resolved : List Char}
    (h : mapOwn (resolveText pyStr context) id run cs = .ok resolved)
    (hclear : Clear (ownChars run.reverse ++ cs)) :
    ResolvesTo pyStr context (run.reverse ++ plainText cs) resolved := by
  -- along the text, with the run of own characters that is not resolved yet
  induction cs generalizing run resolved with
  | nil =>
    rw [plainText, List.map_nil, List.append_nil]
    exact resolveText_eq_ok_iff.mp h
  | cons c rest ih =>
    obtain ⟨c, origin⟩ := c
    cases origin with
    | own =>
      have hrest := ih (c :: run) h (by simpa [ownChars, Marks.tracked] using hclear)
      rwa [List.reverse_cons, List.append_assoc] at hrest
    | input =>
      obtain ⟨before, hbefore, h⟩ := bind_eq_ok.mp h
      obtain ⟨after, hafter, h⟩ := bind_eq_ok.mp h
      obtain rfl := Except.ok.inj h
      obtain ⟨hleft, hright, hrest⟩ := clear_cons_input.mp hclear
      have hafter' := ih [] hafter hrest
      -- the input's character opens nothing with what follows
      have hc : ResolvesTo pyStr context (c :: plainText rest) (c :: after) :=
        .append (u := [c]) (.of_noOpening (List.isChain_singleton c)) hafter'
          (apart_singleton.mpr fun hopens => hright hopens.1 hopens.2)
      refine (resolveText_eq_ok_iff.mp hbefore).append hc ?_
      rintro a ha b hb rfl
      rw [plainText, List.map_cons, List.head?_cons, Option.mem_def, Option.some_inj] at hb
      exact hb ▸ hleft ha

/-- An opening brace at the head stays at the head. -/
theorem head?_mapOwn (run : List Char) {cs : List (Char × Origin)} {resolved : List Char}
    (h : mapOwn (resolveText pyStr context) id run cs = .ok resolved)
    (hhead : (run.reverse ++ plainText cs).head? = some '{') : resolved.head? = some '{' := by
  induction cs generalizing run resolved with
  | nil =>
    rw [plainText, List.map_nil, List.append_nil] at hhead
    obtain ⟨tail, htail⟩ := List.head?_eq_some_iff.mp hhead
    have hresolved := resolveText_eq_ok_iff.mp h
    rw [htail] at hresolved
    exact hresolved.head?
  | cons c rest ih =>
    obtain ⟨c, origin⟩ := c
    cases origin with
    | own => exact ih (c :: run) h (by simpa [plainText] using hhead)
    | input =>
      obtain ⟨before, hbefore, h⟩ := bind_eq_ok.mp h
      obtain ⟨after, hafter, h⟩ := bind_eq_ok.mp h
      obtain rfl := Except.ok.inj h
      have hresolved := resolveText_eq_ok_iff.mp hbefore
      -- the head is the input's own character, or it begins the run before it
      cases hrun : run.reverse with
      | nil =>
        rw [hrun] at hresolved hhead
        obtain rfl := Except.ok.inj hresolved.substituted
        simpa [plainText] using hhead
      | cons d run' =>
        rw [hrun] at hresolved hhead
        obtain rfl : d = '{' := by simpa using hhead
        rw [List.head?_append, hresolved.head?, Option.some_or]

/-- If no opening is left on the wire, no opening of the text has a character of an
    input. -/
theorem clear_of_mapOwn (run : List Char) {cs : List (Char × Origin)} {resolved : List Char}
    (h : mapOwn (resolveText pyStr context) id run cs = .ok resolved)
    (hresolved : NoOpening resolved) : Clear (ownChars run.reverse ++ cs) := by
  induction cs generalizing run resolved with
  | nil =>
    rw [List.append_nil]
    exact clear_ownChars _
  | cons c rest ih =>
    obtain ⟨c, origin⟩ := c
    cases origin with
    | own => simpa [ownChars, Marks.tracked] using ih (c :: run) h hresolved
    | input =>
      obtain ⟨before, hbefore, h⟩ := bind_eq_ok.mp h
      obtain ⟨after, hafter, h⟩ := bind_eq_ok.mp h
      obtain rfl := Except.ok.inj h
      obtain ⟨-, hchain, hjoin⟩ := noOpening_append.mp hresolved
      obtain ⟨hcafter, hchain⟩ := List.isChain_cons.mp hchain
      refine clear_cons_input.mpr ⟨fun hlast => ?_, fun hc hhead => ?_, ih [] hafter hchain⟩
      · exact hjoin _ ((resolveText_eq_ok_iff.mp hbefore).getLast? hlast) c rfl rfl
      · exact hcafter _ (head?_mapOwn [] hafter hhead) hc rfl

/-- The own text resolves in the blank context, when it resolves. -/
theorem mapOwn_blank (hpyStr : ∀ n : Int, pyStr (.int n) = toString n) (run : List Char)
    {cs : List (Char × Origin)} {resolved : List Char}
    (h : mapOwn (resolveText pyStr context) id run cs = .ok resolved) :
    ∃ blank, mapOwn (resolveText pyStr context.blank) id run cs = .ok blank := by
  induction cs generalizing run resolved with
  | nil =>
    obtain ⟨blank, hblank⟩ := (resolveText_eq_ok_iff.mp h).blank hpyStr
    exact ⟨blank, resolveText_eq_ok_iff.mpr hblank⟩
  | cons c rest ih =>
    obtain ⟨c, origin⟩ := c
    cases origin with
    | own => exact ih (c :: run) h
    | input =>
      obtain ⟨before, hbefore, h⟩ := bind_eq_ok.mp h
      obtain ⟨after, hafter, -⟩ := bind_eq_ok.mp h
      obtain ⟨before', hbefore'⟩ := (resolveText_eq_ok_iff.mp hbefore).blank hpyStr
      obtain ⟨after', hafter'⟩ := ih [] hafter
      exact ⟨_, bind_eq_ok.mpr ⟨before', resolveText_eq_ok_iff.mpr hbefore',
        bind_eq_ok.mpr ⟨after', hafter', rfl⟩⟩⟩

end Wire

end Conformance.CatalogueRequest
