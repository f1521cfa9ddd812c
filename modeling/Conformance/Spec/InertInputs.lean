import Conformance.Spec.InputProvenance
import Conformance.Spec.StepContexts

/-!
# Intended and sent requests

The request of a catalogue step as it is intended (`intendedRequest`, `intendedWire`:
placeholders are read in what the catalogue wrote) against the request that is sent
(`catalogueRequestText`, `sentWire`).

## Key results

- `sentWire_of_clear`: the two agree when no opening has a character of an input
- `clear_of_intendedWire`: no opening has one when none is left on the wire
- `intendedWire_blank`: a request that can be sent can be sent in the blank context
-/

namespace Conformance.CatalogueRequest

open Except

/-! ## Requests without origins -/

/-- Named texts without their origins. -/
def plainTexts (fields : List (String × List (Char × Origin))) : List (String × List Char) :=
  fields.map fun field => (field.1, plainText field.2)

mutual

/-- A tree without its origins. -/
def TextTree.plain : TextTree (Char × Origin) → TextTree Char
  | .text cs => .text (plainText cs)
  | .arr items => .arr (TextTree.plainItems items)
  | .obj fields => .obj (TextTree.plainFields fields)
  | .value v => .value v

def TextTree.plainItems : List (TextTree (Char × Origin)) → List (TextTree Char)
  | [] => []
  | item :: rest => item.plain :: TextTree.plainItems rest

def TextTree.plainFields :
    List (String × TextTree (Char × Origin)) → List (String × TextTree Char)
  | [] => []
  | (key, item) :: rest => (key, item.plain) :: TextTree.plainFields rest

end

/-- A body without its origins. -/
def BodyText.plain : BodyText (Char × Origin) → BodyText Char
  | .json tree => .json tree.plain
  | .form fields => .form (plainTexts fields)

section Building

variable (inputs : RequestInputs)

theorem plainText_append (u v : List (Char × Origin)) :
    plainText (u ++ v) = plainText u ++ plainText v :=
  List.map_append

theorem plainText_ownText (text : String) :
    plainText (ownText .tracked text) = ownText .plain text := by
  simp [plainText, ownText, Marks.tracked, Marks.plain, Function.comp_def]

/-! ## URL -/

/-- Substitution on tracked characters is substitution on their characters. -/
theorem maps_substituteVariables
    {replace : String → Except PyError (List (Char × Origin))}
    {replace' : String → Except PyError (List Char)}
    (hreplace : ∀ name, Maps plainText (replace name) (replace' name)) (before : Option Char)
    (skip : Nat) (cs : List Char) :
    Maps plainText (substituteVariables .tracked replace before skip cs)
      (substituteVariables .plain replace' before skip cs) := by
  induction cs generalizing before skip with
  | nil => exact .ok rfl
  | cons c rest ih =>
    cases skip with
    | succ skip => exact ih (some c) skip
    | zero =>
      rw [substituteVariables, substituteVariables]
      cases if before = some '$' then none else matchAt ['{'] (c :: rest) with
      | none => exact .bind (ih _ _) fun tail _ => .ok rfl
      | some group =>
        exact .bind (hreplace _) fun value _ => .bind (ih _ _) fun tail _ => .ok List.map_append

/-- The value of a variable has its characters, wherever they come from. -/
theorem maps_replaceVariable (runtimeInputRefs : List String) (name : String) :
    Maps plainText (replaceVariable .tracked inputs runtimeInputRefs name)
      (replaceVariable .plain inputs runtimeInputRefs name) := by
  unfold replaceVariable
  split
  · exact .ok (plainText_inputText _)
  · exact .error

/-- Encoding keeps track of the characters. -/
theorem plainText_flatMap_encode (cs : List (Char × Origin)) (encoding : Char → List Char) :
    plainText (cs.flatMap (Marks.tracked.encode encoding)) =
      (plainText cs).flatMap (Marks.plain.encode encoding) := by
  induction cs with
  | nil => rfl
  | cons c rest ih =>
    rw [List.flatMap_cons, plainText_append, ih]
    simp [plainText, Marks.tracked, Marks.plain, Function.comp_def]

/-- A tracked query parameter has the characters of the parameter. -/
theorem plainText_queryPair (parameter : String × List (Char × Origin)) :
    plainText (queryPair .tracked parameter) =
      queryPair .plain (parameter.1, plainText parameter.2) := by
  have hname : plainText (parameter.1.toList.flatMap
      (Marks.tracked.encode quotePlus ∘ Marks.tracked.own)) =
      parameter.1.toList.flatMap (Marks.plain.encode quotePlus ∘ Marks.plain.own) := by
    have h := plainText_flatMap_encode (ownText .tracked parameter.1) quotePlus
    rw [plainText_ownText] at h
    simpa [ownText, List.flatMap_map, Function.comp_def] using h
  rw [queryPair, queryPair, plainText_append, hname, ← plainText_flatMap_encode]
  rfl

/-- The tracked query has the characters of the query. -/
theorem maps_queryText (step : RequestTemplate) :
    Maps plainText (queryText .tracked inputs step) (queryText .plain inputs step) := by
  have hparameters : Maps plainTexts
      (step.queryParameters.mapM fun parameter => do
        let value ← resolveCatalogueTemplateString .tracked inputs parameter.2.toList
        return (parameter.1, value))
      (step.queryParameters.mapM fun parameter => do
        let value ← resolveCatalogueTemplateString .plain inputs parameter.2.toList
        return (parameter.1, value)) := by
    exact List.maps_mapM fun parameter _ =>
      .bind (maps_resolveCatalogueTemplateString inputs _) fun value _ => .ok rfl
  refine .bind hparameters fun parameters _ => ?_
  -- the first parameter follows a question mark, the others an ampersand
  cases parameters with
  | nil => exact .ok rfl
  | cons first rest =>
    refine .ok ?_
    have hrest : plainText (rest.flatMap fun parameter =>
        Marks.tracked.own '&' :: queryPair .tracked parameter) =
        (plainTexts rest).flatMap fun parameter =>
          Marks.plain.own '&' :: queryPair .plain parameter := by
      rw [plainText, List.map_flatMap, plainTexts, List.flatMap_map]
      exact List.flatMap_congr fun parameter _ =>
        congrArg (List.cons '&') (plainText_queryPair parameter)
    have hfirst : plainText (Marks.tracked.own '?' :: queryPair .tracked first) =
        Marks.plain.own '?' :: queryPair .plain (first.1, plainText first.2) :=
      congrArg (List.cons '?') (plainText_queryPair first)
    rw [plainText_append, hrest, hfirst]
    rfl

/-- The tracked URL has the characters of the URL. -/
theorem plainText_joinUrl (baseUrl : String) (resolvedPath : List (Char × Origin)) :
    plainText (joinUrl .tracked baseUrl resolvedPath) =
      joinUrl .plain baseUrl (plainText resolvedPath) := by
  rw [joinUrl, joinUrl, plainText_append]
  simp [plainText, Marks.tracked, Marks.plain, List.dropWhile_map, Function.comp_def]
  rfl

/-- The slashes in front of a path are part of no opening. -/
theorem clear_of_dropWhile {cs : List (Char × Origin)}
    (h : Clear (cs.dropWhile fun c => c.1 = '/')) : Clear cs := by
  induction cs with
  | nil => exact .nil
  | cons c rest ih =>
    rw [List.dropWhile_cons] at h
    split at h
    · rename_i hc
      refine List.isChain_cons.mpr ⟨fun b _ hdollar => ?_, ih h⟩
      rw [of_decide_eq_true hc] at hdollar
      exact absurd hdollar (by decide)
    · exact h

/-- A run may be extended by characters that open nothing. -/
theorem RunsClosed.append_run (run : List Char) {before : List Char}
    {cs : List (Char × Origin)} (hbefore : '$' ∉ before) (h : RunsClosed run cs) : RunsClosed (run ++ before) cs := by
  induction cs generalizing run with
  | nil => trivial
  | cons c rest ih =>
    obtain ⟨c, origin⟩ := c
    cases origin with
    | own => exact ih (c :: run) h
    | input =>
      refine ⟨?_, h.2⟩
      rw [List.reverse_append]
      exact h.1.append (by simpa using hbefore)

/-- Leading slashes open nothing. -/
theorem runsClosed_of_dropWhile (run : List Char) {cs : List (Char × Origin)} (hrun : '$' ∉ run)
    (h : RunsClosed [] (cs.dropWhile fun c => c.1 = '/')) : RunsClosed run cs := by
  induction cs generalizing run with
  | nil => trivial
  | cons c rest ih =>
    rw [List.dropWhile_cons] at h
    split at h
    · rename_i hc
      obtain ⟨c, origin⟩ := c
      obtain rfl : c = '/' := of_decide_eq_true hc
      cases origin with
      | own => exact ih ('/' :: run) (by simpa using hrun) h
      | input => exact ⟨closed_of_not_mem (by simpa using hrun), ih [] (by simp) h⟩
    · exact RunsClosed.append_run [] hrun h

/-- A clear URL with closed runs is the one that the code builds. -/
theorem catalogueRequestUrl_of_clear {step : RequestTemplate} {url : List (Char × Origin)}
    (h : requestUrlWith .tracked inputs
      (mapOwn (resolveCatalogueTemplateString .tracked inputs) Marks.tracked.input []) step = .ok url)
    (hclear : Clear url) (hclosed : RunsClosed [] url) :
    catalogueRequestUrl inputs step = .ok (plainText url) := by
  unfold requestUrlWith at h
  unfold catalogueRequestUrl requestUrlWith
  split at h
  · rename_i hpath
    rw [if_pos hpath]
    cases hdiscovery : inputs.discoveryUrl with
    | none =>
      rw [hdiscovery] at h
      cases h
    | some discoveryUrl =>
      rw [hdiscovery] at h
      obtain rfl := Except.ok.inj h
      rw [plainText_ownText]
  rename_i hpath
  rw [if_neg hpath]
  split at h
  · rename_i htoken
    rw [if_pos htoken]
    obtain rfl := Except.ok.inj h
    rw [plainText_ownText]
  rename_i htoken
  rw [if_neg htoken]
  obtain ⟨baseUrl, hbaseUrl, h⟩ := bind_eq_ok.mp h
  obtain ⟨path, hpath, h⟩ := bind_eq_ok.mp h
  obtain ⟨final, hfinal, h⟩ := bind_eq_ok.mp h
  obtain ⟨query, hquery, h⟩ := bind_eq_ok.mp h
  obtain rfl := Except.ok.inj h
  -- the path is a part of the URL, and a part of a clear text is clear
  have hclearPath : Clear final := by
    have hpathClear := (List.isChain_cons.mp (List.isChain_append.mp hclear).2.1).2
    exact (List.isChain_append.mp (clear_of_dropWhile hpathClear)).1
  have hclosedPath : RunsClosed [] final := by
    have hpathClosed := (hclosed.of_append _).of_append [Marks.tracked.own '/']
    exact (runsClosed_of_dropWhile [] (by simp) hpathClosed).of_append_left
  have hplainPath := maps_substituteVariables
    (maps_replaceVariable inputs step.runtimeInputRefs) none 0 _ path hpath
  refine bind_eq_ok.mpr ⟨baseUrl, hbaseUrl, bind_eq_ok.mpr ⟨_, hplainPath,
    bind_eq_ok.mpr ⟨_, resolveAgain_plain [] hfinal hclearPath hclosedPath,
      bind_eq_ok.mpr ⟨_, maps_queryText inputs step query hquery, ?_⟩⟩⟩⟩
  rw [plainText_joinUrl, plainText_append]
  rfl

/-! ## Headers -/

/-- Setting a tracked header sets the header. -/
theorem plainTexts_setHeader (headers : List (String × List (Char × Origin))) (name : String)
    (value : List (Char × Origin)) :
    plainTexts (setHeader headers name value) =
      setHeader (plainTexts headers) name (plainText value) := by
  have hnames : (plainTexts headers).map Prod.fst = headers.map Prod.fst := by
    simp [plainTexts, Function.comp_def]
  unfold setHeader
  rw [hnames]
  split
  · simp only [plainTexts, List.map_map]
    refine List.map_congr_left fun header _ => ?_
    simp only [Function.comp_apply]
    split <;> rfl
  · simp [plainTexts]

/-- The value of a declared header has its characters. -/
theorem maps_declaredHeaderValue (header : CatalogueRequestHeader) :
    Maps (Option.map plainText) (declaredHeaderValue .tracked inputs header)
      (declaredHeaderValue .plain inputs header) := by
  unfold declaredHeaderValue
  split
  · exact .ok (congrArg some (plainText_ownText _))
  · exact .error
  · intro value h
    obtain ⟨text, htext, h⟩ := bind_eq_ok.mp h
    obtain rfl := Except.ok.inj h
    refine bind_eq_ok.mpr ⟨text, htext, ?_⟩
    cases text with
    | none => rfl
    | some text => exact congrArg (fun cs => Except.ok (some cs)) (plainText_inputText text).symm

/-- Adding a declared header adds it to the tracked headers. -/
theorem maps_addDeclaredHeader (headers : List (String × List (Char × Origin)))
    (header : CatalogueRequestHeader) :
    Maps plainTexts (addDeclaredHeader .tracked inputs headers header)
      (addDeclaredHeader .plain inputs (plainTexts headers) header) := by
  refine .bind (maps_declaredHeaderValue inputs header) fun value _ => ?_
  cases value with
  | none => exact .ok rfl
  | some value => exact .ok (plainTexts_setHeader headers header.name value)

/-- The authorisation headers are the template's own. -/
theorem plainTexts_authorizationHeaders (step : RequestTemplate) (accessToken : Option String) :
    plainTexts (authorizationHeaders .tracked inputs step accessToken) =
      authorizationHeaders .plain inputs step accessToken := by
  have hfield (name : String) (cs : List (Char × Origin)) :
      plainTexts [(name, cs)] = [(name, plainText cs)] := rfl
  have hheaders : plainTexts (accessToken.elim [] fun accessToken =>
      [("Authorization", ownText .tracked "Bearer " ++ inputText .tracked accessToken)]) =
      accessToken.elim [] fun accessToken =>
        [("Authorization", ownText .plain "Bearer " ++ inputText .plain accessToken)] := by
    cases accessToken with
    | none => rfl
    | some accessToken =>
      simp only [Option.elim_some, hfield, plainText_append, plainText_ownText,
        plainText_inputText]
  unfold authorizationHeaders
  split
  · rw [hfield, plainText_ownText]
  · simp only
    split
    · exact hheaders
    · rw [plainTexts_setHeader, hheaders, plainText_ownText]

/-- The tracked headers have the characters of the headers. -/
theorem maps_catalogueRequestHeaders (step : RequestTemplate) :
    Maps plainTexts (catalogueRequestHeaders .tracked inputs step)
      (catalogueRequestHeaders .plain inputs step) := by
  intro headers h
  obtain ⟨accessToken, htoken, h⟩ := bind_eq_ok.mp h
  refine bind_eq_ok.mpr ⟨accessToken, htoken, ?_⟩
  rw [← plainTexts_authorizationHeaders]
  exact List.maps_foldlM (maps_addDeclaredHeader inputs) _ _ headers h

/-! ## Body -/

mutual

/-- A tracked body template resolves to the characters of the body. -/
theorem maps_resolveCatalogueTemplateValues :
    ∀ template : Json, Maps TextTree.plain (resolveCatalogueTemplateValues .tracked inputs template)
      (resolveCatalogueTemplateValues .plain inputs template)
  | .str template => by
    rw [resolveCatalogueTemplateValues, resolveCatalogueTemplateValues]
    exact .bind (maps_resolveCatalogueTemplateString inputs _) fun _ _ => .ok rfl
  | .arr items => by
    rw [resolveCatalogueTemplateValues, resolveCatalogueTemplateValues]
    exact .bind (maps_resolveTemplateItems items) fun _ _ => .ok rfl
  | .obj fields => by
    rw [resolveCatalogueTemplateValues, resolveCatalogueTemplateValues]
    exact .bind (maps_resolveTemplateFields fields) fun _ _ => .ok rfl
  | .null => .ok rfl
  | .bool _ => .ok rfl
  | .int _ => .ok rfl
  | .float _ => .ok rfl

/-- So do the items of a list. -/
theorem maps_resolveTemplateItems :
    ∀ items : List Json, Maps TextTree.plainItems (resolveTemplateItems .tracked inputs items)
      (resolveTemplateItems .plain inputs items)
  | [] => .ok rfl
  | item :: rest => by
    rw [resolveTemplateItems, resolveTemplateItems]
    exact .bind (maps_resolveCatalogueTemplateValues item) fun _ _ =>
      .bind (maps_resolveTemplateItems rest) fun _ _ => .ok rfl

/-- So do the members of an object. -/
theorem maps_resolveTemplateFields :
    ∀ fields : List (String × Json),
      Maps TextTree.plainFields (resolveTemplateFields .tracked inputs fields)
        (resolveTemplateFields .plain inputs fields)
  | [] => .ok rfl
  | (key, item) :: rest => by
    rw [resolveTemplateFields, resolveTemplateFields]
    exact .bind (maps_resolveCatalogueTemplateValues item) fun _ _ =>
      .bind (maps_resolveTemplateFields rest) fun _ _ => .ok rfl

end

mutual

/-- The template's own JSON has its texts. -/
theorem plain_ownTree : ∀ value : Json, (ownTree .tracked value).plain = ownTree .plain value
  | .str text => congrArg TextTree.text (plainText_ownText text)
  | .arr items => congrArg TextTree.arr (plainItems_ownItems items)
  | .obj fields => congrArg TextTree.obj (plainFields_ownFields fields)
  | .null => rfl
  | .bool _ => rfl
  | .int _ => rfl
  | .float _ => rfl

/-- So have the items of a list. -/
theorem plainItems_ownItems :
    ∀ items : List Json, TextTree.plainItems (ownItems .tracked items) = ownItems .plain items
  | [] => rfl
  | item :: rest => by
    rw [ownItems, ownItems, TextTree.plainItems, plain_ownTree item, plainItems_ownItems rest]

/-- So have the members of an object. -/
theorem plainFields_ownFields :
    ∀ fields : List (String × Json),
      TextTree.plainFields (ownFields .tracked fields) = ownFields .plain fields
  | [] => rfl
  | (key, item) :: rest => by
    rw [ownFields, ownFields, TextTree.plainFields, plain_ownTree item, plainFields_ownFields rest]

end

/-- The tracked body has the characters of the body. -/
theorem maps_catalogueRequestBody (step : RequestTemplate) :
    Maps (Option.map BodyText.plain) (catalogueRequestBody .tracked inputs step)
      (catalogueRequestBody .plain inputs step) := by
  unfold catalogueRequestBody
  split
  · exact .ok rfl
  split
  · exact .ok (congrArg (fun tree => some (BodyText.json tree)) (plain_ownTree _))
  split
  · refine .ok (congrArg (fun fields => some (BodyText.form fields)) ?_)
    simp [plainTexts, plainText_ownText]
  split
  · exact .bind (maps_resolveCatalogueTemplateValues inputs _) fun _ _ => .ok rfl
  split
  · exact .ok rfl
  · intro body h
    obtain ⟨value, hvalue, h⟩ := bind_eq_ok.mp h
    obtain rfl := Except.ok.inj h
    refine bind_eq_ok.mpr ⟨value, hvalue, ?_⟩
    rw [← plain_ownTree]
    rfl

end Building

/-! ## What is intended and what is sent -/

/-- The parts of a request as they are sent. -/
structure Wire where
  url : String
  headers : Option (List (String × String))
  body : Option ManifestBody

section Intended

variable (pyStr : Json → String) (context : ExecutionContext)

/-- Named texts with the placeholders of the catalogue resolved. -/
def intendedMapping (fields : List (String × List (Char × Origin))) :
    Except PlaceholderError (List (String × String)) :=
  fields.mapM fun field => do
    let value ← intendedText pyStr context field.2
    return (field.1, value)

mutual

/-- A tree with the placeholders of the catalogue resolved. -/
def intendedTree : TextTree (Char × Origin) → Except PlaceholderError Json
  | .text cs => do
    let text ← intendedText pyStr context cs
    return .str text
  | .obj fields => do
    let resolved ← intendedFields fields
    return .obj resolved
  | .arr items => do
    let resolved ← intendedItems items
    return .arr resolved
  | .value v => resolveInStructure pyStr context v

def intendedFields :
    List (String × TextTree (Char × Origin)) → Except PlaceholderError (List (String × Json))
  | [] => .ok []
  | (key, child) :: rest => do
    let resolved ← intendedTree child
    let tail ← intendedFields rest
    return (key, resolved) :: tail

def intendedItems : List (TextTree (Char × Origin)) → Except PlaceholderError (List Json)
  | [] => .ok []
  | child :: rest => do
    let resolved ← intendedTree child
    let tail ← intendedItems rest
    return resolved :: tail

end

/-- A body with the placeholders of the catalogue resolved. -/
def intendedBody :
    Option (BodyText (Char × Origin)) → Except PlaceholderError (Option ManifestBody)
  | none => .ok none
  | some (.json tree) => do
    let resolved ← intendedTree pyStr context tree
    return some (.json resolved)
  | some (.form fields) => do
    let resolved ← intendedMapping pyStr context fields
    return some (.form resolved)

/-- The request with the placeholders of the catalogue resolved and every character of an
    input kept. -/
def intendedWire (request : RequestText (Char × Origin)) : Except PlaceholderError Wire := do
  let url ← intendedText pyStr context request.url
  let headers ← intendedMapping pyStr context request.headers
  let body ← intendedBody pyStr context request.body
  return ⟨url, headersOrNone headers, body⟩

end Intended

/-- The request of a step that reads templates in what the catalogue wrote only. -/
def intendedRequest (inputs : RequestInputs) (step : RequestTemplate) :
    Except PyError (RequestText (Char × Origin)) :=
  requestTextWith .tracked inputs
    (mapOwn (resolveCatalogueTemplateString .tracked inputs) Marks.tracked.input []) step

mutual

/-- The texts of a tree. -/
def TextTree.texts : TextTree (Char × Origin) → List (List (Char × Origin))
  | .text cs => [cs]
  | .obj fields => TextTree.fieldTexts fields
  | .arr items => TextTree.itemTexts items
  | .value _ => []

def TextTree.fieldTexts : List (String × TextTree (Char × Origin)) → List (List (Char × Origin))
  | [] => []
  | (_, child) :: rest => child.texts ++ TextTree.fieldTexts rest

def TextTree.itemTexts : List (TextTree (Char × Origin)) → List (List (Char × Origin))
  | [] => []
  | child :: rest => child.texts ++ TextTree.itemTexts rest

end

/-- The texts of a body. -/
def BodyText.texts : BodyText (Char × Origin) → List (List (Char × Origin))
  | .json tree => tree.texts
  | .form fields => fields.map Prod.snd

/-- No opening in the request has a character of an input. -/
structure RequestText.Clear (request : RequestText (Char × Origin)) : Prop where
  url : CatalogueRequest.Clear request.url
  headers : ∀ header ∈ request.headers, CatalogueRequest.Clear header.2
  body : ∀ body ∈ request.body, ∀ cs ∈ body.texts, CatalogueRequest.Clear cs

instance (cs : List (Char × Origin)) : Decidable (Clear cs) :=
  inferInstanceAs (Decidable (cs.IsChain _))

instance (request : RequestText (Char × Origin)) : Decidable request.Clear :=
  decidable_of_iff (Clear request.url ∧ (∀ header ∈ request.headers, Clear header.2) ∧
      ∀ body ∈ request.body, ∀ cs ∈ body.texts, Clear cs)
    ⟨fun h => ⟨h.1, h.2.1, h.2.2⟩, fun h => ⟨h.url, h.headers, h.body⟩⟩

section Sent

variable {external : ExternalParsers} (transport : StepTransport external)

/-- The texts of a manifest step, resolved: what the executor sends. -/
def sentWire (context : ExecutionContext) (request : RequestText Char) :
    Except PlaceholderError Wire := do
  let url ← resolvePlaceholders transport.pyStr (String.ofList request.url) context
  let headers ← resolveHeaders transport (headersOrNone (plainFields request.headers)) context
  let body ← resolveBody transport (request.body.map BodyText.manifestBody) context
  return ⟨url, headers, body⟩

/-! ## Clear requests -/

variable {transport} {context : ExecutionContext}

/-- A text that is clear of input openings resolves to what the template intends. -/
theorem resolvePlaceholders_of_clear {cs : List (Char × Origin)} (hclear : Clear cs) :
    ∀ text, intendedText transport.pyStr context cs = .ok text →
      resolvePlaceholders transport.pyStr (String.ofList (plainText cs)) context = .ok text := by
  intro text h
  obtain ⟨resolved, hresolved, h⟩ := bind_eq_ok.mp h
  obtain rfl := Except.ok.inj h
  refine resolvePlaceholders_eq_ok_iff.mpr ?_
  simpa using resolvesTo_of_mapOwn [] hresolved hclear

/-- So does a mapping of such texts. -/
theorem resolveMapping_of_clear {fields : List (String × List (Char × Origin))}
    (hclear : ∀ field ∈ fields, Clear field.2) {resolved : List (String × String)}
    (h : intendedMapping transport.pyStr context fields = .ok resolved) :
    resolveMapping transport (plainFields (plainTexts fields)) context = .ok resolved := by
  unfold resolveMapping plainFields plainTexts
  rw [List.map_map, List.mapM_map, List.mapM_eq_ok]
  refine (List.mapM_eq_ok.mp h).imp_of_mem fun field _ hfield _ hvalue => ?_
  obtain ⟨value, hvalue, hpair⟩ := bind_eq_ok.mp hvalue
  exact bind_eq_ok.mpr
    ⟨value, resolvePlaceholders_of_clear (hclear field hfield) value hvalue, hpair⟩

mutual

/-- So does a JSON value of such texts. -/
theorem resolveInStructure_of_clear : ∀ {tree : TextTree (Char × Origin)},
    (∀ cs ∈ tree.texts, Clear cs) → ∀ {value : Json},
      intendedTree transport.pyStr context tree = .ok value →
      resolveInStructure transport.pyStr context tree.plain.toJson = .ok value
  | .text cs, hclear, _, h => by
    rw [intendedTree] at h
    obtain ⟨text, htext, h⟩ := bind_eq_ok.mp h
    rw [TextTree.plain, TextTree.toJson, resolveInStructure]
    exact bind_eq_ok.mpr ⟨text,
      resolvePlaceholders_of_clear (hclear cs (List.mem_singleton_self cs)) text htext, h⟩
  | .obj fields, hclear, _, h => by
    rw [intendedTree] at h
    obtain ⟨resolved, hresolved, h⟩ := bind_eq_ok.mp h
    rw [TextTree.plain, TextTree.toJson, resolveInStructure]
    exact bind_eq_ok.mpr ⟨resolved, resolveInFields_of_clear hclear hresolved, h⟩
  | .arr items, hclear, _, h => by
    rw [intendedTree] at h
    obtain ⟨resolved, hresolved, h⟩ := bind_eq_ok.mp h
    rw [TextTree.plain, TextTree.toJson, resolveInStructure]
    exact bind_eq_ok.mpr ⟨resolved, resolveInItems_of_clear hclear hresolved, h⟩
  | .value _, _, _, h => h

/-- So do the members of an object. -/
theorem resolveInFields_of_clear : ∀ {fields : List (String × TextTree (Char × Origin))},
    (∀ cs ∈ TextTree.fieldTexts fields, Clear cs) → ∀ {resolved : List (String × Json)},
      intendedFields transport.pyStr context fields = .ok resolved →
      resolveInFields transport.pyStr context
        (TextTree.fieldsToJson (TextTree.plainFields fields)) = .ok resolved
  | [], _, _, h => h
  | (_, child) :: rest, hclear, _, h => by
    rw [TextTree.fieldTexts, List.forall_mem_append] at hclear
    rw [intendedFields] at h
    obtain ⟨value, hvalue, h⟩ := bind_eq_ok.mp h
    obtain ⟨tail, htail, h⟩ := bind_eq_ok.mp h
    rw [TextTree.plainFields, TextTree.fieldsToJson, resolveInFields]
    exact bind_eq_ok.mpr ⟨value, resolveInStructure_of_clear hclear.1 hvalue,
      bind_eq_ok.mpr ⟨tail, resolveInFields_of_clear hclear.2 htail, h⟩⟩

/-- So do the items of a list. -/
theorem resolveInItems_of_clear : ∀ {items : List (TextTree (Char × Origin))},
    (∀ cs ∈ TextTree.itemTexts items, Clear cs) → ∀ {resolved : List Json},
      intendedItems transport.pyStr context items = .ok resolved →
      resolveInItems transport.pyStr context
        (TextTree.itemsToJson (TextTree.plainItems items)) = .ok resolved
  | [], _, _, h => h
  | child :: rest, hclear, _, h => by
    rw [TextTree.itemTexts, List.forall_mem_append] at hclear
    rw [intendedItems] at h
    obtain ⟨value, hvalue, h⟩ := bind_eq_ok.mp h
    obtain ⟨tail, htail, h⟩ := bind_eq_ok.mp h
    rw [TextTree.plainItems, TextTree.itemsToJson, resolveInItems]
    exact bind_eq_ok.mpr ⟨value, resolveInStructure_of_clear hclear.1 hvalue,
      bind_eq_ok.mpr ⟨tail, resolveInItems_of_clear hclear.2 htail, h⟩⟩

end

/-- So do the headers. -/
theorem resolveHeaders_of_clear {headers : List (String × List (Char × Origin))}
    (hclear : ∀ header ∈ headers, Clear header.2) {resolved : List (String × String)}
    (h : intendedMapping transport.pyStr context headers = .ok resolved) :
    resolveHeaders transport (headersOrNone (plainFields (plainTexts headers))) context =
      .ok (headersOrNone resolved) := by
  have hresolved := resolveMapping_of_clear hclear h
  cases headers with
  | nil =>
    obtain rfl := Except.ok.inj h
    rfl
  | cons header rest =>
    obtain ⟨value, values, -, -, rfl⟩ := List.forall₂_cons_left_iff.mp (List.mapM_eq_ok.mp h)
    exact bind_eq_ok.mpr ⟨_, hresolved, rfl⟩

/-- So does the body. -/
theorem resolveBody_of_clear {body : Option (BodyText (Char × Origin))}
    (hclear : ∀ b ∈ body, ∀ cs ∈ b.texts, Clear cs) {resolved : Option ManifestBody}
    (h : intendedBody transport.pyStr context body = .ok resolved) :
    resolveBody transport ((body.map BodyText.plain).map BodyText.manifestBody) context =
      .ok resolved := by
  rcases body with _ | (tree | fields)
  · exact h
  · obtain ⟨value, hvalue, h⟩ := bind_eq_ok.mp h
    exact bind_eq_ok.mpr ⟨value, resolveInStructure_of_clear (hclear _ rfl) hvalue, h⟩
  · obtain ⟨value, hvalue, h⟩ := bind_eq_ok.mp h
    refine bind_eq_ok.mpr ⟨value, resolveMapping_of_clear (fun field hfield => ?_) hvalue, h⟩
    exact hclear _ rfl _ (List.mem_map_of_mem hfield)

/-- A clear request is sent as it is intended. -/
theorem sentWire_of_clear {inputs : RequestInputs} {step : RequestTemplate}
    {tracked : RequestText (Char × Origin)} (htracked : intendedRequest inputs step = .ok tracked)
    (hclear : tracked.Clear) {wire : Wire}
    (hwire : intendedWire transport.pyStr context tracked = .ok wire) :
    ∃ request, catalogueRequestText inputs step = .ok request ∧
      sentWire transport context request = .ok wire := by
  obtain ⟨trackedUrl, hurl, htracked⟩ := bind_eq_ok.mp htracked
  obtain ⟨trackedHeaders, hheaders, htracked⟩ := bind_eq_ok.mp htracked
  obtain ⟨trackedBody, hbody, htracked⟩ := bind_eq_ok.mp htracked
  obtain rfl := Except.ok.inj htracked
  obtain ⟨url, hwireUrl, hwire⟩ := bind_eq_ok.mp hwire
  obtain ⟨headers, hwireHeaders, hwire⟩ := bind_eq_ok.mp hwire
  obtain ⟨body, hwireBody, hwire⟩ := bind_eq_ok.mp hwire
  obtain rfl := Except.ok.inj hwire
  have hclosed : RunsClosed [] trackedUrl := by
    obtain ⟨resolved, hresolved, -⟩ := bind_eq_ok.mp hwireUrl
    refine runsClosed_of_mapOwn (fun cs resolved h => ?_) [] hresolved
    exact closed_of_hasUnterminated (resolveText_eq_ok_iff.mp h).terminated
  refine ⟨⟨plainText trackedUrl, plainTexts trackedHeaders, trackedBody.map BodyText.plain⟩,
    ?_, ?_⟩
  · exact bind_eq_ok.mpr ⟨_, catalogueRequestUrl_of_clear inputs hurl hclear.url hclosed,
      bind_eq_ok.mpr ⟨_, maps_catalogueRequestHeaders inputs step _ hheaders,
        bind_eq_ok.mpr ⟨_, maps_catalogueRequestBody inputs step _ hbody, rfl⟩⟩⟩
  · exact bind_eq_ok.mpr ⟨url, resolvePlaceholders_of_clear hclear.url url hwireUrl,
      bind_eq_ok.mpr ⟨_, resolveHeaders_of_clear hclear.headers hwireHeaders,
        bind_eq_ok.mpr ⟨body, resolveBody_of_clear hclear.body hwireBody, rfl⟩⟩⟩

/-! ## Openings on the wire -/

/-- A text without an opening. -/
def NoOpeningText (text : String) : Prop := NoOpening text.toList

/-- In a plain context, what resolves has no opening left. -/
theorem noOpeningText_resolvePlaceholders (hplain : PlainContext transport.pyStr context)
    {template text : String}
    (h : resolvePlaceholders transport.pyStr template context = .ok text) : NoOpeningText text :=
  (resolvePlaceholders_eq_ok_iff.mp h).noOpening hplain

/-- Nor has any text of a mapping. -/
theorem noOpeningText_resolveMapping (hplain : PlainContext transport.pyStr context)
    {fields resolved : List (String × String)}
    (h : resolveMapping transport fields context = .ok resolved) :
    ∀ field ∈ resolved, NoOpeningText field.2 := by
  intro field hfield
  obtain ⟨_, -, hresolved⟩ := (List.mapM_eq_ok.mp h).exists_of_mem_right hfield
  obtain ⟨value, hvalue, hpair⟩ := bind_eq_ok.mp hresolved
  obtain rfl := Except.ok.inj hpair
  exact noOpeningText_resolvePlaceholders hplain hvalue

mutual

/-- Nor has any text of a JSON value. -/
theorem noOpeningText_resolveInStructure (hplain : PlainContext transport.pyStr context) :
    ∀ {value resolved : Json}, resolveInStructure transport.pyStr context value = .ok resolved →
      ∀ text ∈ jsonTexts resolved, NoOpeningText text
  | .str _, _, h => by
    rw [resolveInStructure] at h
    obtain ⟨text, htext, h⟩ := bind_eq_ok.mp h
    obtain rfl := Except.ok.inj h
    rw [jsonTexts, List.forall_mem_singleton]
    exact noOpeningText_resolvePlaceholders hplain htext
  | .obj _, _, h => by
    rw [resolveInStructure] at h
    obtain ⟨resolved, hresolved, h⟩ := bind_eq_ok.mp h
    obtain rfl := Except.ok.inj h
    exact noOpeningText_resolveInFields hplain hresolved
  | .arr _, _, h => by
    rw [resolveInStructure] at h
    obtain ⟨resolved, hresolved, h⟩ := bind_eq_ok.mp h
    obtain rfl := Except.ok.inj h
    exact noOpeningText_resolveInItems hplain hresolved
  | .null, _, h => by
    obtain rfl := Except.ok.inj h
    simp [jsonTexts]
  | .bool _, _, h => by
    obtain rfl := Except.ok.inj h
    simp [jsonTexts]
  | .int _, _, h => by
    obtain rfl := Except.ok.inj h
    simp [jsonTexts]
  | .float _, _, h => by
    obtain rfl := Except.ok.inj h
    simp [jsonTexts]

/-- Nor has any member of an object. -/
theorem noOpeningText_resolveInFields (hplain : PlainContext transport.pyStr context) :
    ∀ {fields resolved : List (String × Json)},
      resolveInFields transport.pyStr context fields = .ok resolved →
      ∀ text ∈ fieldTexts resolved, NoOpeningText text
  | [], _, h => by
    obtain rfl := Except.ok.inj h
    simp [fieldTexts]
  | (_, _) :: _, _, h => by
    rw [resolveInFields] at h
    obtain ⟨value, hvalue, h⟩ := bind_eq_ok.mp h
    obtain ⟨tail, htail, h⟩ := bind_eq_ok.mp h
    obtain rfl := Except.ok.inj h
    rw [fieldTexts, List.forall_mem_append]
    exact ⟨noOpeningText_resolveInStructure hplain hvalue,
      noOpeningText_resolveInFields hplain htail⟩

/-- Nor has any item of a list. -/
theorem noOpeningText_resolveInItems (hplain : PlainContext transport.pyStr context) :
    ∀ {items resolved : List Json}, resolveInItems transport.pyStr context items = .ok resolved →
      ∀ text ∈ itemTexts resolved, NoOpeningText text
  | [], _, h => by
    obtain rfl := Except.ok.inj h
    simp [itemTexts]
  | _ :: _, _, h => by
    rw [resolveInItems] at h
    obtain ⟨value, hvalue, h⟩ := bind_eq_ok.mp h
    obtain ⟨tail, htail, h⟩ := bind_eq_ok.mp h
    obtain rfl := Except.ok.inj h
    rw [itemTexts, List.forall_mem_append]
    exact ⟨noOpeningText_resolveInStructure hplain hvalue,
      noOpeningText_resolveInItems hplain htail⟩

end

/-- Nor has any header. -/
theorem noOpeningText_resolveHeaders (hplain : PlainContext transport.pyStr context)
    {headers resolved : Option (List (String × String))}
    (h : resolveHeaders transport headers context = .ok resolved) :
    ∀ headers ∈ resolved, ∀ header ∈ headers, NoOpeningText header.2 := by
  cases headers with
  | none =>
    obtain rfl := Except.ok.inj h
    simp
  | some headers =>
    obtain ⟨values, hvalues, h⟩ := bind_eq_ok.mp h
    obtain rfl := Except.ok.inj h
    rintro _ ⟨⟩
    exact noOpeningText_resolveMapping hplain hvalues

/-- Nor has any text of the body. -/
theorem noOpeningText_resolveBody (hplain : PlainContext transport.pyStr context)
    {body resolved : Option ManifestBody}
    (h : resolveBody transport body context = .ok resolved) :
    ∀ body ∈ resolved, ∀ text ∈ body.texts, NoOpeningText text := by
  rcases body with _ | (value | fields)
  · obtain rfl := Except.ok.inj h
    simp
  · obtain ⟨value, hvalue, h⟩ := bind_eq_ok.mp h
    obtain rfl := Except.ok.inj h
    rintro _ ⟨⟩
    exact noOpeningText_resolveInStructure hplain hvalue
  · obtain ⟨values, hvalues, h⟩ := bind_eq_ok.mp h
    obtain rfl := Except.ok.inj h
    rintro _ ⟨⟩ text htext
    obtain ⟨field, hfield, rfl⟩ := List.mem_map.mp htext
    exact noOpeningText_resolveMapping hplain hvalues field hfield

/-- No opening is left in a request that is sent. -/
structure Wire.NoOpening (wire : Wire) : Prop where
  url : NoOpeningText wire.url
  headers : ∀ headers ∈ wire.headers, ∀ header ∈ headers, NoOpeningText header.2
  body : ∀ body ∈ wire.body, ∀ text ∈ body.texts, NoOpeningText text

/-- Nothing that is sent in a plain context has an opening left. -/
theorem noOpening_of_sentWire (hplain : PlainContext transport.pyStr context)
    {request : RequestText Char} {wire : Wire}
    (h : sentWire transport context request = .ok wire) : wire.NoOpening := by
  obtain ⟨url, hurl, h⟩ := bind_eq_ok.mp h
  obtain ⟨headers, hheaders, h⟩ := bind_eq_ok.mp h
  obtain ⟨body, hbody, h⟩ := bind_eq_ok.mp h
  obtain rfl := Except.ok.inj h
  exact ⟨noOpeningText_resolvePlaceholders hplain hurl,
    noOpeningText_resolveHeaders hplain hheaders, noOpeningText_resolveBody hplain hbody⟩

/-- A text whose intended value has no opening is clear. -/
theorem clear_of_intendedText {cs : List (Char × Origin)} {text : String}
    (h : intendedText transport.pyStr context cs = .ok text) (hopen : NoOpeningText text) :
    Clear cs := by
  obtain ⟨resolved, hresolved, h⟩ := bind_eq_ok.mp h
  obtain rfl := Except.ok.inj h
  rw [NoOpeningText, String.toList_ofList] at hopen
  exact clear_of_mapOwn [] hresolved hopen

/-- So are the texts of a mapping. -/
theorem clear_of_intendedMapping {fields : List (String × List (Char × Origin))}
    {resolved : List (String × String)}
    (h : intendedMapping transport.pyStr context fields = .ok resolved)
    (hopen : ∀ field ∈ resolved, NoOpeningText field.2) : ∀ field ∈ fields, Clear field.2 := by
  intro field hfield
  obtain ⟨value, hmem, hvalue⟩ := (List.mapM_eq_ok.mp h).exists_of_mem_left hfield
  obtain ⟨text, htext, hpair⟩ := bind_eq_ok.mp hvalue
  obtain rfl := Except.ok.inj hpair
  exact clear_of_intendedText htext (hopen _ hmem)

mutual

/-- So are the texts of a JSON value. -/
theorem clear_of_intendedTree : ∀ {tree : TextTree (Char × Origin)} {value : Json},
    intendedTree transport.pyStr context tree = .ok value →
      (∀ text ∈ jsonTexts value, NoOpeningText text) → ∀ cs ∈ tree.texts, Clear cs
  | .text cs, _, h, hopen => by
    rw [intendedTree] at h
    obtain ⟨text, htext, h⟩ := bind_eq_ok.mp h
    obtain rfl := Except.ok.inj h
    rw [TextTree.texts, List.forall_mem_singleton]
    exact clear_of_intendedText htext (hopen text (List.mem_singleton_self text))
  | .obj _, _, h, hopen => by
    rw [intendedTree] at h
    obtain ⟨resolved, hresolved, h⟩ := bind_eq_ok.mp h
    obtain rfl := Except.ok.inj h
    exact clear_of_intendedFields hresolved hopen
  | .arr _, _, h, hopen => by
    rw [intendedTree] at h
    obtain ⟨resolved, hresolved, h⟩ := bind_eq_ok.mp h
    obtain rfl := Except.ok.inj h
    exact clear_of_intendedItems hresolved hopen
  | .value _, _, _, _ => by simp [TextTree.texts]

/-- So are those of the members of an object. -/
theorem clear_of_intendedFields : ∀ {fields : List (String × TextTree (Char × Origin))}
    {resolved : List (String × Json)},
    intendedFields transport.pyStr context fields = .ok resolved →
      (∀ text ∈ fieldTexts resolved, NoOpeningText text) →
      ∀ cs ∈ TextTree.fieldTexts fields, Clear cs
  | [], _, _, _ => by simp [TextTree.fieldTexts]
  | (_, _) :: _, _, h, hopen => by
    rw [intendedFields] at h
    obtain ⟨value, hvalue, h⟩ := bind_eq_ok.mp h
    obtain ⟨tail, htail, h⟩ := bind_eq_ok.mp h
    obtain rfl := Except.ok.inj h
    rw [fieldTexts, List.forall_mem_append] at hopen
    rw [TextTree.fieldTexts, List.forall_mem_append]
    exact ⟨clear_of_intendedTree hvalue hopen.1, clear_of_intendedFields htail hopen.2⟩

/-- So are those of the items of a list. -/
theorem clear_of_intendedItems : ∀ {items : List (TextTree (Char × Origin))}
    {resolved : List Json}, intendedItems transport.pyStr context items = .ok resolved →
      (∀ text ∈ itemTexts resolved, NoOpeningText text) →
      ∀ cs ∈ TextTree.itemTexts items, Clear cs
  | [], _, _, _ => by simp [TextTree.itemTexts]
  | _ :: _, _, h, hopen => by
    rw [intendedItems] at h
    obtain ⟨value, hvalue, h⟩ := bind_eq_ok.mp h
    obtain ⟨tail, htail, h⟩ := bind_eq_ok.mp h
    obtain rfl := Except.ok.inj h
    rw [itemTexts, List.forall_mem_append] at hopen
    rw [TextTree.itemTexts, List.forall_mem_append]
    exact ⟨clear_of_intendedTree hvalue hopen.1, clear_of_intendedItems htail hopen.2⟩

end

/-- A request that is intended to be sent without an opening is clear. -/
theorem clear_of_intendedWire {tracked : RequestText (Char × Origin)} {wire : Wire}
    (h : intendedWire transport.pyStr context tracked = .ok wire) (hopen : wire.NoOpening) :
    tracked.Clear := by
  obtain ⟨url, hurl, h⟩ := bind_eq_ok.mp h
  obtain ⟨headers, hheaders, h⟩ := bind_eq_ok.mp h
  obtain ⟨body, hbody, h⟩ := bind_eq_ok.mp h
  obtain rfl := Except.ok.inj h
  refine ⟨clear_of_intendedText hurl hopen.url, clear_of_intendedMapping hheaders ?_, ?_⟩
  · intro header hheader
    have hne : headers ≠ [] := List.ne_nil_of_mem hheader
    exact hopen.headers headers (if_neg hne) header hheader
  · rintro b hb
    rw [Option.mem_def] at hb
    rw [hb] at hbody
    rcases b with tree | fields
    · obtain ⟨value, hvalue, hbody⟩ := bind_eq_ok.mp hbody
      obtain rfl := Except.ok.inj hbody
      exact clear_of_intendedTree hvalue (hopen.body _ rfl)
    · obtain ⟨values, hvalues, hbody⟩ := bind_eq_ok.mp hbody
      obtain rfl := Except.ok.inj hbody
      intro cs hcs
      obtain ⟨field, hfield, rfl⟩ := List.mem_map.mp hcs
      refine clear_of_intendedMapping hvalues (fun value hvalue => ?_) field hfield
      exact hopen.body _ rfl _ (List.mem_map_of_mem hvalue)

/-! ## Blank contexts -/

/-- `str` writes an integer in decimal digits. -/
def WritesDigits (pyStr : Json → String) : Prop := ∀ n : Int, pyStr (.int n) = toString n

/-- What the template intends resolves in the blank context too. -/
theorem intendedText_blank (hpyStr : WritesDigits transport.pyStr)
    {cs : List (Char × Origin)} {text : String}
    (h : intendedText transport.pyStr context cs = .ok text) :
    ∃ blank, intendedText transport.pyStr context.blank cs = .ok blank := by
  obtain ⟨resolved, hresolved, -⟩ := bind_eq_ok.mp h
  obtain ⟨blank, hblank⟩ := mapOwn_blank hpyStr [] hresolved
  exact ⟨_, bind_eq_ok.mpr ⟨blank, hblank, rfl⟩⟩

/-- So does a mapping. -/
theorem intendedMapping_blank (hpyStr : WritesDigits transport.pyStr)
    {fields : List (String × List (Char × Origin))}
    {resolved : List (String × String)}
    (h : intendedMapping transport.pyStr context fields = .ok resolved) :
    ∃ blank, intendedMapping transport.pyStr context.blank fields = .ok blank := by
  refine List.exists_mapM_eq_ok.mpr fun field hfield => ?_
  obtain ⟨_, -, hvalue⟩ := (List.mapM_eq_ok.mp h).exists_of_mem_left hfield
  obtain ⟨text, htext, -⟩ := bind_eq_ok.mp hvalue
  obtain ⟨blank, hblank⟩ := intendedText_blank hpyStr htext
  exact ⟨_, bind_eq_ok.mpr ⟨blank, hblank, rfl⟩⟩

mutual

/-- A JSON value that resolves does so in the blank context too. -/
theorem resolveInStructure_blank (hpyStr : WritesDigits transport.pyStr) :
    ∀ {value resolved : Json},
    resolveInStructure transport.pyStr context value = .ok resolved →
      ∃ blank, resolveInStructure transport.pyStr context.blank value = .ok blank
  | .str template, _, h => by
    rw [resolveInStructure] at h ⊢
    obtain ⟨text, htext, -⟩ := bind_eq_ok.mp h
    obtain ⟨blank, hblank⟩ := (resolvePlaceholders_eq_ok_iff.mp htext).blank hpyStr
    refine ⟨_, bind_eq_ok.mpr ⟨String.ofList blank, resolvePlaceholders_eq_ok_iff.mpr ?_, rfl⟩⟩
    rwa [String.toList_ofList]
  | .obj _, _, h => by
    rw [resolveInStructure] at h ⊢
    obtain ⟨resolved, hresolved, -⟩ := bind_eq_ok.mp h
    obtain ⟨blank, hblank⟩ := resolveInFields_blank hpyStr hresolved
    exact ⟨_, bind_eq_ok.mpr ⟨blank, hblank, rfl⟩⟩
  | .arr _, _, h => by
    rw [resolveInStructure] at h ⊢
    obtain ⟨resolved, hresolved, -⟩ := bind_eq_ok.mp h
    obtain ⟨blank, hblank⟩ := resolveInItems_blank hpyStr hresolved
    exact ⟨_, bind_eq_ok.mpr ⟨blank, hblank, rfl⟩⟩
  | .null, _, _ => ⟨_, rfl⟩
  | .bool _, _, _ => ⟨_, rfl⟩
  | .int _, _, _ => ⟨_, rfl⟩
  | .float _, _, _ => ⟨_, rfl⟩

/-- So do the members of an object. -/
theorem resolveInFields_blank (hpyStr : WritesDigits transport.pyStr) :
    ∀ {fields resolved : List (String × Json)},
    resolveInFields transport.pyStr context fields = .ok resolved →
      ∃ blank, resolveInFields transport.pyStr context.blank fields = .ok blank
  | [], _, _ => ⟨_, rfl⟩
  | (_, _) :: _, _, h => by
    rw [resolveInFields] at h ⊢
    obtain ⟨value, hvalue, h⟩ := bind_eq_ok.mp h
    obtain ⟨tail, htail, -⟩ := bind_eq_ok.mp h
    obtain ⟨value', hvalue'⟩ := resolveInStructure_blank hpyStr hvalue
    obtain ⟨tail', htail'⟩ := resolveInFields_blank hpyStr htail
    exact ⟨_, bind_eq_ok.mpr ⟨value', hvalue', bind_eq_ok.mpr ⟨tail', htail', rfl⟩⟩⟩

/-- So do the items of a list. -/
theorem resolveInItems_blank (hpyStr : WritesDigits transport.pyStr) :
    ∀ {items resolved : List Json},
    resolveInItems transport.pyStr context items = .ok resolved →
      ∃ blank, resolveInItems transport.pyStr context.blank items = .ok blank
  | [], _, _ => ⟨_, rfl⟩
  | _ :: _, _, h => by
    rw [resolveInItems] at h ⊢
    obtain ⟨value, hvalue, h⟩ := bind_eq_ok.mp h
    obtain ⟨tail, htail, -⟩ := bind_eq_ok.mp h
    obtain ⟨value', hvalue'⟩ := resolveInStructure_blank hpyStr hvalue
    obtain ⟨tail', htail'⟩ := resolveInItems_blank hpyStr htail
    exact ⟨_, bind_eq_ok.mpr ⟨value', hvalue', bind_eq_ok.mpr ⟨tail', htail', rfl⟩⟩⟩

end

mutual

/-- What is intended for a JSON value resolves in the blank context too. -/
theorem intendedTree_blank (hpyStr : WritesDigits transport.pyStr) :
    ∀ {tree : TextTree (Char × Origin)} {value : Json},
    intendedTree transport.pyStr context tree = .ok value →
      ∃ blank, intendedTree transport.pyStr context.blank tree = .ok blank
  | .text _, _, h => by
    rw [intendedTree] at h ⊢
    obtain ⟨text, htext, -⟩ := bind_eq_ok.mp h
    obtain ⟨blank, hblank⟩ := intendedText_blank hpyStr htext
    exact ⟨_, bind_eq_ok.mpr ⟨blank, hblank, rfl⟩⟩
  | .obj _, _, h => by
    rw [intendedTree] at h ⊢
    obtain ⟨resolved, hresolved, -⟩ := bind_eq_ok.mp h
    obtain ⟨blank, hblank⟩ := intendedFields_blank hpyStr hresolved
    exact ⟨_, bind_eq_ok.mpr ⟨blank, hblank, rfl⟩⟩
  | .arr _, _, h => by
    rw [intendedTree] at h ⊢
    obtain ⟨resolved, hresolved, -⟩ := bind_eq_ok.mp h
    obtain ⟨blank, hblank⟩ := intendedItems_blank hpyStr hresolved
    exact ⟨_, bind_eq_ok.mpr ⟨blank, hblank, rfl⟩⟩
  | .value _, _, h => by
    rw [intendedTree] at h ⊢
    exact resolveInStructure_blank hpyStr h

/-- So does what is intended for the members of an object. -/
theorem intendedFields_blank (hpyStr : WritesDigits transport.pyStr) :
    ∀ {fields : List (String × TextTree (Char × Origin))}
    {resolved : List (String × Json)},
    intendedFields transport.pyStr context fields = .ok resolved →
      ∃ blank, intendedFields transport.pyStr context.blank fields = .ok blank
  | [], _, _ => ⟨_, rfl⟩
  | (_, _) :: _, _, h => by
    rw [intendedFields] at h ⊢
    obtain ⟨value, hvalue, h⟩ := bind_eq_ok.mp h
    obtain ⟨tail, htail, -⟩ := bind_eq_ok.mp h
    obtain ⟨value', hvalue'⟩ := intendedTree_blank hpyStr hvalue
    obtain ⟨tail', htail'⟩ := intendedFields_blank hpyStr htail
    exact ⟨_, bind_eq_ok.mpr ⟨value', hvalue', bind_eq_ok.mpr ⟨tail', htail', rfl⟩⟩⟩

/-- So does what is intended for the items of a list. -/
theorem intendedItems_blank (hpyStr : WritesDigits transport.pyStr) :
    ∀ {items : List (TextTree (Char × Origin))} {resolved : List Json},
    intendedItems transport.pyStr context items = .ok resolved →
      ∃ blank, intendedItems transport.pyStr context.blank items = .ok blank
  | [], _, _ => ⟨_, rfl⟩
  | _ :: _, _, h => by
    rw [intendedItems] at h ⊢
    obtain ⟨value, hvalue, h⟩ := bind_eq_ok.mp h
    obtain ⟨tail, htail, -⟩ := bind_eq_ok.mp h
    obtain ⟨value', hvalue'⟩ := intendedTree_blank hpyStr hvalue
    obtain ⟨tail', htail'⟩ := intendedItems_blank hpyStr htail
    exact ⟨_, bind_eq_ok.mpr ⟨value', hvalue', bind_eq_ok.mpr ⟨tail', htail', rfl⟩⟩⟩

end

/-- So does what is intended for the body. -/
theorem intendedBody_blank (hpyStr : WritesDigits transport.pyStr)
    {body : Option (BodyText (Char × Origin))}
    {resolved : Option ManifestBody}
    (h : intendedBody transport.pyStr context body = .ok resolved) :
    ∃ blank, intendedBody transport.pyStr context.blank body = .ok blank := by
  rcases body with _ | (tree | fields)
  · exact ⟨_, rfl⟩
  · obtain ⟨value, hvalue, -⟩ := bind_eq_ok.mp h
    obtain ⟨blank, hblank⟩ := intendedTree_blank hpyStr hvalue
    exact ⟨_, bind_eq_ok.mpr ⟨blank, hblank, rfl⟩⟩
  · obtain ⟨values, hvalues, -⟩ := bind_eq_ok.mp h
    obtain ⟨blank, hblank⟩ := intendedMapping_blank hpyStr hvalues
    exact ⟨_, bind_eq_ok.mpr ⟨blank, hblank, rfl⟩⟩

/-- A request that can be sent in some context can be sent in the blank one. -/
theorem intendedWire_blank (hpyStr : WritesDigits transport.pyStr)
    {tracked : RequestText (Char × Origin)} {wire : Wire}
    (h : intendedWire transport.pyStr context tracked = .ok wire) :
    ∃ blank, intendedWire transport.pyStr context.blank tracked = .ok blank := by
  obtain ⟨url, hurl, h⟩ := bind_eq_ok.mp h
  obtain ⟨headers, hheaders, h⟩ := bind_eq_ok.mp h
  obtain ⟨body, hbody, -⟩ := bind_eq_ok.mp h
  obtain ⟨url', hurl'⟩ := intendedText_blank hpyStr hurl
  obtain ⟨headers', hheaders'⟩ := intendedMapping_blank hpyStr hheaders
  obtain ⟨body', hbody'⟩ := intendedBody_blank hpyStr hbody
  exact ⟨_, bind_eq_ok.mpr ⟨url', hurl', bind_eq_ok.mpr ⟨headers', hheaders',
    bind_eq_ok.mpr ⟨body', hbody', rfl⟩⟩⟩⟩

end Sent

end Conformance.CatalogueRequest
