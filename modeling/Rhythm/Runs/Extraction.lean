import Rhythm.Runs.Evaluation
import Rhythm.Runs.Names
import Rhythm.Runs.ScriptRuns

/-!
# Rhythm.Runs.Extraction

Do JSON values survive?  An assertion compares the printed value with a text, and a variable that
is extracted is published as the printed value: under its own name, among the variables, and
among the outputs of its step.  `survives_iff`: a string, a truth value or an integer below
`2^53` stands for its own text exactly when it is printed so.
-/

namespace Rhythm.Runs.Evaluation

open Text Printed

/-! ## What a run reads under a name -/

def publishedNames (stepID variableName : String) : List String :=
  [variableName, "variables." ++ variableName, "steps." ++ stepID ++ ".outputs." ++ variableName]

/-- The published names give the text: in templates, as operands of conditions, and in the
variables of every script. -/
structure RendersAs (values : Values) (stepID variableName text : String) : Prop where
  template : ∀ name ∈ publishedNames stepID variableName, name ∉ generatedNames →
    ∀ generate following, resolveTemplateValue generate values following name = some text
  operand : ∀ name ∈ publishedNames stepID variableName, trimSpace name = name →
    ∀ floats requireVariable, conditionOperand floats name values requireVariable = some text
  script : (values.map Prod.fst).Nodup → ∀ (event : ScriptEvent) (order : Scope → Values),
    (∀ scope, (order scope).Perm values) →
      (event.stores order .variableStore).lookup variableName = some text ∧
        (Bare variableName → (event.stores order).get variableName = some text)

section Reading

variable {values : Values} {stepID variableName text : String}

theorem lookup_variableStore_of_published (event : ScriptEvent) {order : Scope → Values}
    (hnodup : (values.map Prod.fst).Nodup) (horder : ∀ scope, (order scope).Perm values)
    (hbare : values.lookup variableName = some text)
    (hqualified : values.lookup (Scope.variableStore.qualify variableName) = some text) :
    (event.stores order .variableStore).lookup variableName = some text := by
  have hgiven : event.given .variableStore := fun _ => ⟨by decide, by decide⟩
  have hmem := (horder .variableStore).mem_iff.mpr (Values.mem_of_lookup hqualified)
  have hread : ∀ key value, (key, value) ∈ order .variableStore → values.lookup key = some value :=
    fun key value h => Values.lookup_of_mem hnodup ((horder .variableStore).mem_iff.mp h)
  rw [ScriptEvent.stores, if_pos hgiven, lookup_scopeValues]
  refine Values.lookup_reverse_of_forall (mem_flatMap_scopeWrites.mpr (.inl hmem)) ?_
  rintro ⟨name, other⟩ hother rfl
  rcases mem_flatMap_scopeWrites.mp hother with h | ⟨-, -, h⟩
  · have heq := hread _ _ h
    rw [hqualified, Option.some.injEq] at heq
    exact heq.symm
  · have heq := hread _ _ h
    rw [hbare, Option.some.injEq] at heq
    exact heq.symm

theorem rendersAs_of_lookup
    (h : ∀ name ∈ publishedNames stepID variableName, values.lookup name = some text) :
    RendersAs values stepID variableName text := by
  have hbare := h variableName (by simp [publishedNames])
  have hqualified : values.lookup (Scope.variableStore.qualify variableName) = some text :=
    h ("variables." ++ variableName) (by simp [publishedNames])
  refine ⟨fun name hname hplain generate following => ?_,
    fun name hname htrim floats requireVariable => ?_, fun hnodup event order horder => ?_⟩
  · rw [resolveTemplateValue_eq_resolves generate following hplain]
    by_cases hdot : Bare name
    · rw [resolves_of_bare hdot hplain]
      -- only the name of the variable itself has no dot
      have heq : name = variableName := by
        simp only [publishedNames, List.mem_cons, List.not_mem_nil, or_false] at hname
        obtain rfl | rfl | rfl := hname
        · rfl
        · exact absurd hdot (not_bare_qualify .variableStore variableName)
        · rw [bare_iff] at hdot
          exact absurd (by simp) hdot
      rw [heq, hqualified, Option.some_or]
    · rw [resolves_of_not_bare hdot hplain, h name hname]
  · simp only [conditionOperand, htrim, h name hname]
  · have hstore := lookup_variableStore_of_published event hnodup horder hbare hqualified
    refine ⟨hstore, fun hdot => ?_⟩
    rw [get_of_bare _ hdot, hstore, Option.some_or]

end Reading

/-! ## What a run publishes -/

def phaseWrites (rlib : RequestLibrary) (s : StepState) : StepPhase → Values
  | .actions actions outputs => actionWrites actions outputs
  | .preRequestScript script _ => script.result.preRequestWrites
  | .request | .extractors _ => []
  | .testScript script => script.result.testWrites
  | .publish stepID statusCode => s.publishWrites rlib stepID statusCode
  | .produce stepID produced => produced.flatMap (publish stepID)

def OnlyWrites (rlib : RequestLibrary) (names : List String) (text : String) (s : StepState)
    (phase : StepPhase) (_ : StepState) : Prop :=
  ∀ entry ∈ phaseWrites rlib s phase, entry.1 ∈ names → entry.2 = text

/-- The state of a step when its extractors, and its Tests script, have run. -/
def extractedState (rlib : RequestLibrary) (s : StepState)
    (extracted : List (ExtractorConfig × String)) (testScript : Option ScriptEnd) : StepState :=
  (StepPhase.extractors extracted :: testScript.toList.map StepPhase.testScript).foldl
    (StepState.after rlib) s

section Run

variable {rlib : RequestLibrary} {s : StepState} {stepID variableName text : String}

theorem values_after (rlib : RequestLibrary) (s : StepState) (phase : StepPhase) :
    (s.after rlib phase).values = s.values.writeAll (phaseWrites rlib s phase) := by
  cases phase <;> rfl

theorem isSome_lookup_writeAll {values writes : Values} {key : String}
    (h : (values.lookup key).isSome) : ((values.writeAll writes).lookup key).isSome := by
  rw [Values.lookup_writeAll, Option.isSome_or, h, Bool.or_true]

theorem isSome_lookup_of_mem {values writes : Values} {key value : String}
    (h : (key, value) ∈ writes) : ((values.writeAll writes).lookup key).isSome := by
  rw [Values.lookup_writeAll, Option.isSome_or, Bool.or_eq_true]
  refine Or.inl (Option.isSome_iff_ne_none.mpr fun hnone => ?_)
  exact Values.lookup_reverse_eq_none.mp hnone _ h rfl

theorem exists_published {extracted : List (ExtractorConfig × String)} {config : ExtractorConfig}
    (h : (config, text) ∈ extracted) (testScript : Option ScriptEnd) :
    let t := extractedState rlib s extracted testScript
    ∃ value, (config.variableName, value) ∈ t.publicValues ++ rlib.walk "" t.privateOutputs := by
  intro t
  have hextracted : t.extracted = extracted := by cases testScript <;> rfl
  cases hsensitive : config.sensitive with
  | false =>
    refine ⟨text, List.mem_append_left _ (List.mem_map.mpr ⟨(config, text), ?_, rfl⟩)⟩
    rw [List.mem_filter, hextracted]
    exact ⟨h, by simp [hsensitive]⟩
  | true =>
    have hvalues : (config.variableName, text) ∈ StepState.sensitiveValues extracted :=
      List.mem_map.mpr ⟨(config, text), List.mem_filter.mpr ⟨h, hsensitive⟩, rfl⟩
    have hlookup : (t.privateOutputs.lookup config.variableName).isSome := by
      cases testScript with
      | none => exact isSome_lookup_of_mem hvalues
      | some script => exact isSome_lookup_writeAll (isSome_lookup_of_mem hvalues)
    obtain ⟨value, hvalue⟩ := Option.isSome_iff_exists.mp hlookup
    refine ⟨value, List.mem_append_right _ ?_⟩
    exact (rlib.walk_perm "" _).mem_iff.mpr (Values.mem_of_lookup hvalue)

theorem lookup_after {names : List String} {name : String} {phase : StepPhase}
    (hwrites : OnlyWrites rlib names text s phase (s.after rlib phase)) (hname : name ∈ names)
    (h : s.values.lookup name = some text ∨
      ∃ value, (name, value) ∈ phaseWrites rlib s phase) :
    (s.after rlib phase).values.lookup name = some text := by
  rw [values_after, Values.lookup_writeAll]
  cases hlookup : (phaseWrites rlib s phase).reverse.lookup name with
  | some value =>
    have hmem := List.mem_reverse.mp (Values.mem_of_lookup hlookup)
    rw [Option.some_or, ← hwrites _ hmem hname]
  | none =>
    obtain h | ⟨value, hmem⟩ := h
    · rw [Option.none_or, h]
    · exact absurd rfl (Values.lookup_reverse_eq_none.mp hlookup _ hmem)

/-- **From its publication on**, a variable renders as its text, as long as nothing else is written
under its names. -/
theorem rendersAs_along {statusCode : Option String} {later : List StepPhase}
    (hpublished : ∃ value, (variableName, value) ∈ s.publicValues ++ rlib.walk "" s.privateOutputs)
    (h : Along (stepPhase rlib) (OnlyWrites rlib (publishedNames stepID variableName) text) s
      (.publish stepID statusCode :: later)) :
    Along (stepPhase rlib) (fun _ _ s' => RendersAs s'.values stepID variableName text) s
      (.publish stepID statusCode :: later) := by
  intro s' hs'
  cases hs'
  obtain ⟨hwrites, hlater⟩ := h _ rfl
  have hstands : ∀ name ∈ publishedNames stepID variableName,
      (s.after rlib (.publish stepID statusCode)).values.lookup name = some text := by
    intro name hname
    refine lookup_after hwrites hname (Or.inr ?_)
    obtain ⟨value, hvalue⟩ := hpublished
    have hwrite : (name, value) ∈ publish stepID (variableName, value) := by
      simp only [publishedNames, List.mem_cons, List.not_mem_nil, or_false] at hname
      obtain rfl | rfl | rfl := hname <;> simp [publish]
    exact ⟨value, List.mem_append_left _ (List.mem_flatMap.mpr ⟨_, hvalue, hwrite⟩)⟩
  refine ⟨rendersAs_of_lookup hstands, ?_⟩
  refine Along.of_guard
    (I := fun s => ∀ name ∈ publishedNames stepID variableName, s.values.lookup name = some text)
    (fun s phase s' hs hstep hwrites => ?_) hstands hlater
  cases hstep
  have hkept : ∀ name ∈ publishedNames stepID variableName,
      (s.after rlib phase).values.lookup name = some text :=
    fun name hname => lookup_after hwrites hname (Or.inl (hs name hname))
  exact ⟨hkept, rendersAs_of_lookup hkept⟩

end Run

def AssertsEqual (config : Decoding.AssertionConfig) : Prop :=
  toLower config.operator ∈ ["", "equals", "equal", "eq"]

/-- **JSON values survive**: the value at a path stands for its text.  An assertion that it equals
the text passes; and a variable that is extracted from there renders as the text from the end of
its step on, while only what was extracted is written under its names. -/
structure Survives (lib : Library) (rlib : RequestLibrary) (document : Option JsonText)
    (expression : String) (value : Value) (text : String) : Prop where
  asserts : ∀ response duration (config : Decoding.AssertionConfig),
    response.document = document → config.type = "jsonpath" → config.expression = expression →
      AssertsEqual config → config.expected = text →
        ∀ result ∈ evaluateAssertions lib response duration [config], result.passed = true
  renders : ∀ response duration configs (config : Decoding.ExtractorConfig) s testScript stepID
    statusCode later, response.document = document → config ∈ configs → config.enabled = true →
      config.source = "jsonpath" → config.expression = expression →
        let t := extractedState rlib s
          (extractedTexts lib (evaluateExtractors lib response duration configs)) testScript
        Along (stepPhase rlib)
            (OnlyWrites rlib (publishedNames stepID config.variableName) (value.sprint lib.other)) t
            (.publish stepID statusCode :: later) →
          Along (stepPhase rlib)
            (fun _ _ s' => RendersAs s'.values stepID config.variableName text) t
            (.publish stepID statusCode :: later)

section Law

variable {lib : Library} {rlib : RequestLibrary} {document : Option JsonText} {expression : String}
  {value : Value} {text : String}

variable {config : Decoding.AssertionConfig}

theorem compareAssertion_of_equal (observed : Observed)
    (htype : config.type = "jsonpath") (hequal : AssertsEqual config) :
    compareAssertion lib config observed =
      decide (observed.sprint lib.other = config.expected) := by
  have hoperator : (if toLower config.operator = "" then "equals" else toLower config.operator) ∈
      ["equals", "equal", "eq"] := by
    rw [AssertsEqual, List.mem_cons] at hequal
    obtain h | h := hequal
    · simp [h]
    · split
      · simp
      · exact h
  have hcontains : ¬ (config.type = "body-contains" ∧ config.operator = "") := by simp [htype]
  have htime : ¬ (config.type = "response-time" ∧ config.operator = "") := by simp [htype]
  have hschema : ¬ config.type = "json-schema" := by simp [htype]
  unfold compareAssertion
  rw [if_neg hcontains, if_neg htime, if_neg hschema, if_pos hoperator]

theorem extractValue_jsonpath (response : Response) (duration : Int) :
    extractValue lib response duration "jsonpath" expression =
      (simpleJSONPath lib response.document expression).map .value := rfl

theorem asserts_iff (hfound : simpleJSONPath lib document expression = .ok value)
    {response : Response} {duration : Int}
    (hdocument : response.document = document) (htype : config.type = "jsonpath")
    (hexpression : config.expression = expression) (hequal : AssertsEqual config)
    (henabled : config.enabled = true) :
    (∀ result ∈ evaluateAssertions lib response duration [config], result.passed = true) ↔
      value.sprint lib.other = config.expected := by
  have hobserved : extractValue lib response duration config.type config.expression =
      .ok (.value value) := by
    rw [htype, hexpression, extractValue_jsonpath, hdocument, hfound]
    rfl
  have hcompare := @compareAssertion_of_equal lib config (.value value) htype hequal
  simp only [evaluateAssertions, List.filter_cons, henabled, if_true, List.filter_nil,
    List.map_cons, List.map_nil, List.mem_singleton, forall_eq, hobserved, hcompare,
    Observed.sprint]
  exact decide_eq_true_iff

theorem mem_extractedTexts (hfound : simpleJSONPath lib document expression = .ok value)
    {response : Response} {duration : Int} {configs : List Decoding.ExtractorConfig}
    {config : Decoding.ExtractorConfig} (hdocument : response.document = document)
    (hconfig : config ∈ configs) (henabled : config.enabled = true)
    (hsource : config.source = "jsonpath") (hexpression : config.expression = expression) :
    (⟨config.enabled, config.variableName, config.sensitive⟩, value.sprint lib.other) ∈
      extractedTexts lib (evaluateExtractors lib response duration configs) := by
  refine List.mem_filterMap.mpr ⟨⟨config, .ok (.value value)⟩, ?_, rfl⟩
  refine List.mem_map.mpr ⟨config, List.mem_filter.mpr ⟨hconfig, henabled⟩, ?_⟩
  rw [hsource, hexpression, extractValue_jsonpath, hdocument, hfound]
  rfl

theorem survives_iff_sprint (hfound : simpleJSONPath lib document expression = .ok value) :
    Survives lib rlib document expression value text ↔ value.sprint lib.other = text := by
  constructor
  · intro h
    let config : Decoding.AssertionConfig :=
      { enabled := true, type := "jsonpath", expression := expression, expected := text }
    have hequal : AssertsEqual config :=
      (by decide : toLower "" ∈ ["", "equals", "equal", "eq"])
    have hpassed := h.asserts (okResponse document) 0 config rfl rfl rfl hequal rfl
    exact (asserts_iff hfound rfl rfl rfl hequal rfl).mp hpassed
  · rintro rfl
    constructor
    · intro response duration config hdocument htype hexpression hequal hexpected
      cases henabled : config.enabled with
      | false => simp [evaluateAssertions, henabled]
      | true =>
        exact (asserts_iff hfound hdocument htype hexpression hequal henabled).mpr hexpected.symm
    · intro response duration configs config s testScript stepID statusCode later hdocument hconfig
        henabled hsource hexpression t halong
      exact rendersAs_along (exists_published
        (mem_extractedTexts hfound hdocument hconfig henabled hsource hexpression)
        testScript) halong

end Law

/-- **JSON values survive extraction and assertion** exactly when they are plain: a whole number
of more than six digits is printed with an exponent, and the negative zero with its sign. -/
theorem survives_iff (lib : Library) (rlib : RequestLibrary) (document : Option JsonText)
    (expression : String) (value : Value) (text : String)
    (hfound : simpleJSONPath lib document expression = .ok value) (hdenotes : value.Denotes text) :
    Survives lib rlib document expression value text ↔ value.Plain :=
  (survives_iff_sprint hfound).trans (Value.sprint_eq_iff lib.other hdenotes)

def idDocument (literal : String) : Option JsonText := some (.obj [("id", .num literal)])

theorem simpleJSONPath_id {literal : String} {v : Float64}
    (h : sampleNumbers.parseFloat literal = some v) :
    simpleJSONPath sampleNumbers (idDocument literal) "$.id" = .ok (.num v) := by
  have hpath : trimPrefix (trimPrefix (trimSpace "$.id") "$") "." = "id" := by decide
  have hsplit : split "id" '.' = ["id"] := by decide
  have hdecode : (idDocument literal).bind (Value.decode sampleNumbers.parseFloat) =
      some (.obj [("id", .num v)]) := by
    simp [idDocument, Value.decode, Value.decodeMembers, h, Unmarshal.setKey]
  rw [simpleJSONPath, hdecode]
  simp [hpath, hsplit, walkPath]

theorem survives_iff_twelve :
    Survives sampleNumbers sampleLibrary (idDocument "12") "$.id" (.num ⟨false, 12⟩) "12" :=
  (survives_iff sampleNumbers sampleLibrary (idDocument "12") "$.id" (.num ⟨false, 12⟩) "12"
    (simpleJSONPath_id rfl) (.integer (n := 12) (by rfl) (by decide))).mpr ⟨by decide, by decide⟩

/-- An id of seven digits becomes another text. -/
theorem long_id_printed_with_exponent :
    ¬ ∀ lib rlib document expression value text,
      simpleJSONPath lib document expression = .ok value → value.Denotes text →
        Survives lib rlib document expression value text := by
  intro h
  have hsurvives := h sampleNumbers sampleLibrary (idDocument "1234567") "$.id"
    (.num ⟨false, 1234567⟩) "1234567" (simpleJSONPath_id rfl)
    (.integer (n := 1234567) (by rfl) (by decide))
  have hplain := (Value.sprint_eq_iff _ (.integer (n := 1234567) (by rfl) (by decide))).mp
    ((survives_iff_sprint (simpleJSONPath_id rfl)).mp hsurvives)
  exact absurd hplain.1 (by decide)

end Rhythm.Runs.Evaluation
