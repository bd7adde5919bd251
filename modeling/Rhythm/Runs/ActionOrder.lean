import Mathlib.Data.List.Dedup
import Rhythm.Loops
import Rhythm.Runs.Actions
import Rhythm.Runs.RecoverySafe
import Rhythm.Runs.ScriptWrites

/-!
# Rhythm.Runs.ActionOrder

Are the actions of a step a sequential program?  They are executed on a copy of the variables, and
what they leave is merged back: for the request of the step the copy gets what it lacks, and after
an `ACTION` step the outputs are published.  Neither takes anything away, and a variable may stand
under `variables.` as well.

`seesLeft_iff` says when whoever comes after the actions sees what they have left.
-/

namespace Rhythm.Runs.Actions

open Text

/-! ## Who sees the values -/

/-- The request of the step, or the steps after an `ACTION` step. -/
inductive Observer where
  | request
  | laterSteps (stepID : String)

/-- The actions that `ExecuteActions` takes an output of. -/
def isProduced (action : Decoding.ActionConfig) : Bool := action.enabled && action.output ≠ ""

def isPrivate (action : Decoding.ActionConfig) : Bool := isProduced action && action.sensitive

def Observer.publishes : Observer → Decoding.ActionConfig → Bool
  | .request => fun action => action.enabled && trimSpace action.output ≠ ""
  | .laterSteps _ => isProduced

def outputEntries (p : Decoding.ActionConfig → Bool) (actions : List Decoding.ActionConfig)
    (final : Values) : Values :=
  ((actions.filter p).filterMap fun action =>
    (final.lookup action.output).map fun value => (action.output, value)).dedup

/-- `produced`. -/
def produced (actions : List Decoding.ActionConfig) (final : Values) : Values :=
  outputEntries isProduced actions final

/-- `PrivateOutputs`. -/
def privateOutputs (actions : List Decoding.ActionConfig) (final : Values) : Values :=
  outputEntries isPrivate actions final

def Observer.published (observer : Observer) (actions : List Decoding.ActionConfig)
    (final : Values) : List String :=
  (outputEntries observer.publishes actions final).map Prod.fst

def Observer.aliases (observer : Observer) (outputs : List String) : List String :=
  outputs.flatMap fun output =>
    ("variables." ++ output) ::
      match observer with
      | .request => []
      | .laterSteps stepID => ["steps." ++ stepID ++ ".outputs." ++ output]

/-- The variables after an `ACTION` step: its outputs and the private ones among them, each in the
order of the map. -/
def laterValues (stepID : String) (values outputs hidden : Values) : Values :=
  (values.writeAll (outputs.flatMap (publish stepID))).writeAll (hidden.flatMap (publish stepID))

/-- What the observer may be given, when the actions leave these values. -/
def Observer.Sees (observer : Observer) (actions : List Decoding.ActionConfig)
    (seed final view : Values) : Prop :=
  match observer with
  | .request => view = Building.requestVariables { preRequest := actions } final seed
  | .laterSteps stepID => ∃ outputs hidden, outputs.Perm (produced actions final) ∧
      hidden.Perm (privateOutputs actions final) ∧ view = laterValues stepID seed outputs hidden

/-- What the actions leave of a variable: its value, or nothing, if there is an action on it. -/
def left (actions : List Decoding.ActionConfig) (final : Values) (name : String) :
    Option String :=
  if (lastAction? actions name).isSome then final.lookup name else resolves final name

/-- Every variable is as the actions have left it, when they are executed one after the other. -/
def SeesLeft (libs : Nat → ActionLibrary) (observer : Observer)
    (actions : List Decoding.ActionConfig) (seed : Values) : Prop :=
  ∀ final, executeStepActions libs 0 actions seed = some final →
    ∀ view, observer.Sees actions seed final view →
      ∀ name, name ∉ generatedNames →
        name ∉ observer.aliases (observer.published actions final) →
          resolves view name = left actions final name

def LastUnset (actions : List Decoding.ActionConfig) (key : String) : Prop :=
  ∃ action, lastAction? actions key = some action ∧ unsets action = true

def stands (actions : List Decoding.ActionConfig) (seed : Values) (key : String) : Bool :=
  match lastAction? actions key with
  | some action => !unsets action
  | none => (seed.lookup key).isSome

/-- The names of the outputs of some actions, as the actions and the values before them say. -/
def outputNames (p : Decoding.ActionConfig → Bool) (actions : List Decoding.ActionConfig)
    (seed : Values) : List String :=
  ((actions.filter p).map Decoding.ActionConfig.output).filter (stands actions seed)

def Observer.outputs (observer : Observer) (actions : List Decoding.ActionConfig)
    (seed : Values) : List String :=
  outputNames observer.publishes actions seed

/-- The outputs that may be written last under `variables.` and this key: the private ones, if
there are any. -/
def contenders (hidden outputs : List String) (key : String) : List String :=
  let names := [key, "variables." ++ key]
  if ∃ name ∈ names, name ∈ hidden then names.filter (· ∈ hidden) else names.filter (· ∈ outputs)

def Observer.Absent (observer : Observer) (actions : List Decoding.ActionConfig)
    (seed : Values) : Prop :=
  ∀ key, LastUnset actions key → key ∉ generatedNames →
    key ∉ observer.aliases (observer.outputs actions seed) → seed.lookup key = none

def Unscoped (actions : List Decoding.ActionConfig) (seed : Values) : Prop :=
  ∀ key, LastUnset actions key → key ∉ generatedNames → Bare key →
    ∀ scope : Scope, stands actions seed (scope.qualify key) = false

/-- What stands under `variables.` and the key is what the actions leave of it. -/
def Observer.Unshadowed (observer : Observer) (actions : List Decoding.ActionConfig)
    (seed final : Values) (key : String) : Prop :=
  match observer with
  | .request =>
    stands actions seed ("variables." ++ key) = true →
      final.lookup ("variables." ++ key) = left actions final key
  | .laterSteps _ =>
    ∀ name ∈ contenders (outputNames isPrivate actions seed) (outputNames isProduced actions seed)
        key,
      final.lookup name = left actions final key

/-- Nothing that the actions take away comes back, and no other value stands under `variables.` and
the name of an output. -/
structure Mergeable (observer : Observer) (actions : List Decoding.ActionConfig)
    (seed final : Values) : Prop where
  absent : observer.Absent actions seed
  unscoped : Unscoped actions seed
  unshadowed : ∀ key ∈ observer.outputs actions seed, key ∉ generatedNames → Bare key →
    observer.Unshadowed actions seed final key

/-! ## Names -/

section Names

variable {observer : Observer} {actions : List Decoding.ActionConfig} {final : Values}
  {p : Decoding.ActionConfig → Bool} {outputs : List String} {key value : String}

theorem mem_outputEntries :
    (key, value) ∈ outputEntries p actions final ↔
      (∃ action ∈ actions, p action = true ∧ action.output = key) ∧
        final.lookup key = some value := by
  rw [outputEntries, List.mem_dedup, List.mem_filterMap]
  constructor
  · rintro ⟨action, haction, hentry⟩
    obtain ⟨other, hlookup, heq⟩ := Option.map_eq_some_iff.mp hentry
    obtain ⟨rfl, rfl⟩ := Prod.mk.inj heq
    obtain ⟨hmem, hp⟩ := List.mem_filter.mp haction
    exact ⟨⟨action, hmem, hp, rfl⟩, hlookup⟩
  · rintro ⟨⟨action, hmem, hp, rfl⟩, hlookup⟩
    exact ⟨action, List.mem_filter.mpr ⟨hmem, hp⟩, by rw [hlookup]; rfl⟩

theorem mem_published :
    key ∈ observer.published actions final ↔
      (∃ action ∈ actions, observer.publishes action = true ∧ action.output = key) ∧
        (final.lookup key).isSome := by
  rw [Observer.published, List.mem_map]
  constructor
  · rintro ⟨⟨name, value⟩, hentry, rfl⟩
    obtain ⟨haction, hlookup⟩ := mem_outputEntries.mp hentry
    exact ⟨haction, by rw [hlookup]; rfl⟩
  · rintro ⟨haction, hsome⟩
    obtain ⟨value, hvalue⟩ := Option.isSome_iff_exists.mp hsome
    exact ⟨(key, value), mem_outputEntries.mpr ⟨haction, hvalue⟩, rfl⟩

theorem mem_aliases : key ∈ observer.aliases outputs ↔
    ∃ output ∈ outputs, key = "variables." ++ output ∨
      ∃ stepID, observer = .laterSteps stepID ∧
        key = "steps." ++ stepID ++ ".outputs." ++ output := by
  cases observer <;> simp [Observer.aliases]

theorem variables_ne_steps {first second : String} :
    "variables." ++ first ≠ "steps." ++ second := by
  grind [String.toList_append]

theorem qualify_ne_steps {scope : Scope} {rest : String} :
    scope.qualify key ≠ "steps." ++ rest := by
  intro h
  have hsecond := congrArg (fun text : String => text.toList.take 2) h
  simp only [Scope.qualify, String.toList_append] at hsecond
  revert hsecond
  cases scope <;> simp [Scope.start]

theorem qualify_mem_aliases {scope : Scope} :
    scope.qualify key ∈ observer.aliases outputs ↔ scope = .variableStore ∧ key ∈ outputs := by
  rw [mem_aliases]
  constructor
  · rintro ⟨output, houtput, hname | ⟨stepID, -, hname⟩⟩
    · have hsame : scope.qualify key = Scope.variableStore.qualify output := hname
      obtain ⟨rfl, rfl⟩ := Scope.qualify_inj.mp hsame
      exact ⟨rfl, houtput⟩
    · rw [String.append_assoc, String.append_assoc] at hname
      exact absurd hname qualify_ne_steps
  · rintro ⟨rfl, houtput⟩
    exact ⟨key, houtput, .inl rfl⟩

theorem not_mem_aliases_of_bare (hbare : Bare key) : key ∉ observer.aliases outputs := by
  rw [mem_aliases]
  rintro ⟨output, -, rfl | ⟨stepID, -, rfl⟩⟩
  · exact not_bare_qualify .variableStore output hbare
  · rw [bare_iff] at hbare
    exact absurd (by simp) hbare

end Names

/-! ## Merged values -/

section Merging

variable {actions : List Decoding.ActionConfig} {seed final outputs hidden : Values}
  {stepID key value : String}

/-- The writes of `publishActions`. -/
def requestWrites (actions : List Decoding.ActionConfig) (final : Values) : Values :=
  actions.flatMap fun action =>
    if action.enabled = false ∨ trimSpace action.output = "" then []
    else
      match final.lookup action.output with
      | some value => [(action.output, value), ("variables." ++ action.output, value)]
      | none => []

theorem publishActions_eq : Building.publishActions actions final seed =
    seed.writeAll (requestWrites actions final) := by
  unfold Building.publishActions requestWrites
  induction actions generalizing seed with
  | nil => rfl
  | cons action actions ih =>
    rw [List.foldl_cons, ih, List.flatMap_cons, Values.writeAll, Values.writeAll, List.foldl_append]
    congr 1
    split
    · rfl
    · cases final.lookup action.output <;> rfl

theorem mem_requestWrites :
    (key, value) ∈ requestWrites actions final ↔
      ∃ output ∈ Observer.request.published actions final, final.lookup output = some value ∧
        (key = output ∨ key = "variables." ++ output) := by
  rw [requestWrites, List.mem_flatMap]
  constructor
  · rintro ⟨action, haction, hwrite⟩
    split at hwrite
    · cases hwrite
    · rename_i hused
      obtain ⟨henabled, houtput⟩ := not_or.mp hused
      cases hlookup : final.lookup action.output with
      | none => simp [hlookup] at hwrite
      | some found =>
        simp only [hlookup, List.mem_cons, Prod.mk.injEq, List.not_mem_nil, or_false] at hwrite
        refine ⟨action.output, mem_published.mpr ⟨⟨action, haction, ?_, rfl⟩, ?_⟩, ?_⟩
        · simpa [Observer.publishes] using And.intro henabled houtput
        · simp [hlookup]
        · grind
  · rintro ⟨output, houtput, hlookup, hkey⟩
    obtain ⟨⟨action, haction, hpublishes, rfl⟩, -⟩ := mem_published.mp houtput
    have hused : action.enabled = true ∧ trimSpace action.output ≠ "" := by
      simpa [Observer.publishes] using hpublishes
    refine ⟨action, haction, ?_⟩
    rw [if_neg (by simp [hused]), hlookup]
    grind

theorem lookup_addMissing : (Building.addMissing outputs seed).lookup key =
    (outputs.lookup key).or (seed.lookup key) := by
  unfold Building.addMissing
  induction seed generalizing outputs with
  | nil => simp
  | cons entry seed ih =>
    obtain ⟨name, value⟩ := entry
    rw [List.foldl_cons, ih]
    by_cases hname : key = name
    · subst hname
      cases hlookup : outputs.lookup key with
      | none => simp [Values.write, Unmarshal.lookup_setKey]
      | some found => simp [hlookup]
    · rw [List.lookup_cons, beq_false_of_ne hname]
      split
      · rfl
      · rw [Values.write, Unmarshal.lookup_setKey, if_neg hname]

theorem lookup_requestVariables : (Building.requestVariables { preRequest := actions } final
      seed).lookup key =
    (final.lookup key).or (((requestWrites actions final).reverse.lookup key).or
      (seed.lookup key)) := by
  unfold Building.requestVariables
  rw [lookup_addMissing, publishActions_eq, Values.lookup_writeAll]

theorem lookup_laterValues : (laterValues stepID seed outputs hidden).lookup key =
    ((hidden.flatMap (publish stepID)).reverse.lookup key).or
      (((outputs.flatMap (publish stepID)).reverse.lookup key).or (seed.lookup key)) := by
  unfold laterValues
  rw [Values.lookup_writeAll, Values.lookup_writeAll]

variable {entries : Values}

theorem mem_flatMap_publish :
    (key, value) ∈ entries.flatMap (publish stepID) ↔
      ∃ output, (output, value) ∈ entries ∧ (key = output ∨ key = "variables." ++ output ∨
        key = "steps." ++ stepID ++ ".outputs." ++ output) := by
  simp only [List.mem_flatMap, publish, List.mem_cons, Prod.mk.injEq, List.not_mem_nil, or_false,
    Prod.exists]
  grind

/-- **The request, under a name of its own.** -/
theorem lookup_requestVariables_of_not_mem
    (hkey : key ∉ Observer.request.aliases (Observer.request.published actions final)) :
    (Building.requestVariables { preRequest := actions } final seed).lookup key =
      (final.lookup key).or (seed.lookup key) := by
  rw [lookup_requestVariables]
  cases hfinal : final.lookup key with
  | some value => rfl
  | none =>
    have hnone : (requestWrites actions final).reverse.lookup key = none := by
      refine Values.lookup_reverse_eq_none.mpr ?_
      rintro ⟨name, value⟩ hwrite rfl
      obtain ⟨output, houtput, hlookup, rfl | rfl⟩ := mem_requestWrites.mp hwrite
      · rw [hlookup] at hfinal
        cases hfinal
      · exact hkey (mem_aliases.mpr ⟨output, houtput, .inl rfl⟩)
    rw [hnone, Option.none_or]

/-- **The request, under `variables.`.** -/
theorem lookup_requestVariables_of_published
    (hkey : key ∈ Observer.request.published actions final) :
    (Building.requestVariables { preRequest := actions } final seed).lookup ("variables." ++ key) =
      (final.lookup ("variables." ++ key)).or (final.lookup key) := by
  rw [lookup_requestVariables]
  cases hfinal : final.lookup ("variables." ++ key) with
  | some value => rfl
  | none =>
    obtain ⟨-, hsome⟩ := mem_published.mp hkey
    obtain ⟨value, hvalue⟩ := Option.isSome_iff_exists.mp hsome
    have hwritten : (requestWrites actions final).reverse.lookup ("variables." ++ key) =
        some value := by
      refine Values.lookup_reverse_of_forall
        (mem_requestWrites.mpr ⟨key, hkey, hvalue, .inr rfl⟩) ?_
      rintro ⟨name, other⟩ hwrite rfl
      obtain ⟨output, -, hlookup, rfl | hsame⟩ := mem_requestWrites.mp hwrite
      · rw [hlookup] at hfinal
        cases hfinal
      · obtain ⟨-, rfl⟩ := Scope.qualify_inj.mp
          (show Scope.variableStore.qualify key = Scope.variableStore.qualify output from hsame)
        rw [hvalue] at hlookup
        exact (Option.some.inj hlookup).symm
    rw [hwritten, hvalue]
    rfl

def FromFinal (entries final : Values) : Prop :=
  ∀ output value, (output, value) ∈ entries → final.lookup output = some value

theorem lookup_publish_of_not_mem (hentries : FromFinal entries final)
    (hkey : ∀ output value, (output, value) ∈ entries → key ≠ "variables." ++ output ∧
      key ≠ "steps." ++ stepID ++ ".outputs." ++ output) :
    (entries.flatMap (publish stepID)).reverse.lookup key =
      if key ∈ entries.map Prod.fst then final.lookup key else none := by
  have hwrites : ∀ value, (key, value) ∈ entries.flatMap (publish stepID) ↔
      (key, value) ∈ entries := by
    intro value
    rw [mem_flatMap_publish]
    constructor
    · grind
    · exact fun h => ⟨key, h, .inl rfl⟩
  by_cases hmem : key ∈ entries.map Prod.fst
  · obtain ⟨⟨name, value⟩, hentry, rfl⟩ := List.mem_map.mp hmem
    rw [if_pos hmem]
    have hlookup := hentries name value hentry
    rw [hlookup]
    refine Values.lookup_reverse_of_forall ((hwrites value).mpr hentry) ?_
    rintro ⟨_, other⟩ hother rfl
    have hsame := hentries _ other ((hwrites other).mp hother)
    rw [hlookup] at hsame
    exact (Option.some.inj hsame).symm
  · grind

theorem lookup_publish_variables (stepID key : String) (hentries : FromFinal entries final) :
    (∃ name ∈ [key, "variables." ++ key], name ∈ entries.map Prod.fst ∧
      (entries.flatMap (publish stepID)).reverse.lookup ("variables." ++ key) =
        final.lookup name) ∨
    ((∀ name ∈ [key, "variables." ++ key], name ∉ entries.map Prod.fst) ∧
      (entries.flatMap (publish stepID)).reverse.lookup ("variables." ++ key) = none) := by
  have hwrites : ∀ value, ("variables." ++ key, value) ∈ entries.flatMap (publish stepID) ↔
      ∃ name ∈ [key, "variables." ++ key], (name, value) ∈ entries := by
    intro value
    rw [mem_flatMap_publish]
    constructor
    · rintro ⟨output, houtput, rfl | hname | hname⟩
      · exact ⟨_, by simp, houtput⟩
      · obtain ⟨-, rfl⟩ := Scope.qualify_inj.mp
          (show Scope.variableStore.qualify key = Scope.variableStore.qualify output from hname)
        exact ⟨key, by simp, houtput⟩
      · rw [String.append_assoc, String.append_assoc] at hname
        exact absurd hname variables_ne_steps
    · grind
  cases hlookup : (entries.flatMap (publish stepID)).reverse.lookup ("variables." ++ key) with
  | some value =>
    have hmem := List.mem_reverse.mp (Values.mem_of_lookup hlookup)
    obtain ⟨name, hname, hentry⟩ := (hwrites value).mp hmem
    exact .inl ⟨name, hname, List.mem_map.mpr ⟨_, hentry, rfl⟩, (hentries name value hentry).symm⟩
  | none =>
    refine .inr ⟨fun name hname hmem => ?_, rfl⟩
    obtain ⟨⟨_, value⟩, hentry, rfl⟩ := List.mem_map.mp hmem
    exact Values.lookup_reverse_eq_none.mp hlookup _
      ((hwrites value).mpr ⟨_, hname, hentry⟩) rfl

variable {name : String}

theorem exists_perm_publish (stepID : String) (hentries : FromFinal entries final)
    (hname : name ∈ [key, "variables." ++ key]) (hmem : name ∈ entries.map Prod.fst) :
    ∃ order : Values, order.Perm entries ∧
      (order.flatMap (publish stepID)).reverse.lookup ("variables." ++ key) =
        final.lookup name := by
  obtain ⟨⟨output, value⟩, hentry, rfl⟩ := List.mem_map.mp hmem
  rw [hentries output value hentry]
  refine Loops.exists_perm_last hentry ?_ fun other hother => ?_
  · simp only [List.mem_cons, List.not_mem_nil, or_false] at hname
    obtain rfl | rfl := hname
    · exact List.mem_cons_of_mem _ List.mem_cons_self
    · exact List.mem_cons_self
  · grind [publish, Prod.mk.injEq]

theorem mem_contenders {first second : List String} :
    name ∈ contenders first second key ↔ name ∈ [key, "variables." ++ key] ∧
      if ∃ other ∈ [key, "variables." ++ key], other ∈ first then name ∈ first
      else name ∈ second := by
  unfold contenders
  dsimp only
  split <;> rw [List.mem_filter, decide_eq_true_eq]

theorem mem_contenders_congr {first second first' second' : List String}
    (hfirst : ∀ name, name ∈ first ↔ name ∈ first')
    (hsecond : ∀ name, name ∈ second ↔ name ∈ second') :
    name ∈ contenders first second key ↔ name ∈ contenders first' second' key := by
  simp only [mem_contenders, hfirst, hsecond]

variable {p : Decoding.ActionConfig → Bool}

theorem fromFinal_of_perm
    (h : outputs.Perm (outputEntries p actions final)) : FromFinal outputs final :=
  fun _ _ hentry => (mem_outputEntries.mp (h.mem_iff.mp hentry)).2

theorem mem_names_of_perm (h : outputs.Perm (outputEntries p actions final)) :
    key ∈ outputs.map Prod.fst ↔ key ∈ (outputEntries p actions final).map Prod.fst :=
  (h.map Prod.fst).mem_iff

theorem mem_produced_of_private (h : key ∈ (privateOutputs actions final).map Prod.fst) :
    key ∈ (produced actions final).map Prod.fst := by
  obtain ⟨⟨output, value⟩, hentry, rfl⟩ := List.mem_map.mp h
  obtain ⟨⟨action, haction, hprivate, houtput⟩, hlookup⟩ := mem_outputEntries.mp hentry
  rw [isPrivate, Bool.and_eq_true] at hprivate
  exact List.mem_map.mpr ⟨(output, value),
    mem_outputEntries.mpr ⟨⟨action, haction, hprivate.1, houtput⟩, hlookup⟩, rfl⟩

theorem isSome_of_mem_produced (h : key ∈ (produced actions final).map Prod.fst) :
    (final.lookup key).isSome := by
  obtain ⟨⟨output, value⟩, hentry, rfl⟩ := List.mem_map.mp h
  rw [(mem_outputEntries.mp hentry).2]
  rfl

/-- **The steps after, under a name of its own.** -/
theorem lookup_laterValues_of_not_mem (houtputs : outputs.Perm (produced actions final))
    (hhidden : hidden.Perm (privateOutputs actions final))
    (hkept : ∀ value, final.lookup key = some value → key ∉ (produced actions final).map Prod.fst →
      seed.lookup key = some value)
    (hkey : key ∉ (Observer.laterSteps stepID).aliases
      ((Observer.laterSteps stepID).published actions final)) :
    (laterValues stepID seed outputs hidden).lookup key =
      (final.lookup key).or (seed.lookup key) := by
  have hown : ∀ output ∈ (produced actions final).map Prod.fst, key ≠ "variables." ++ output ∧
      key ≠ "steps." ++ stepID ++ ".outputs." ++ output := by
    intro output houtput
    refine ⟨fun hname => hkey ?_, fun hname => hkey ?_⟩
    · exact mem_aliases.mpr ⟨output, houtput, .inl hname⟩
    · exact mem_aliases.mpr ⟨output, houtput, .inr ⟨stepID, rfl, hname⟩⟩
  rw [lookup_laterValues, lookup_publish_of_not_mem (fromFinal_of_perm hhidden),
    lookup_publish_of_not_mem (fromFinal_of_perm houtputs)]
  · by_cases hmem : key ∈ (produced actions final).map Prod.fst
    · grind
    · have hpublic : key ∉ hidden.map Prod.fst := fun h =>
        hmem (mem_produced_of_private ((mem_names_of_perm hhidden).mp h))
      rw [if_neg hpublic, if_neg (fun h => hmem ((mem_names_of_perm houtputs).mp h)),
        Option.none_or, Option.none_or]
      cases hfinal : final.lookup key with
      | none => rfl
      | some value => exact hkept value hfinal hmem
  · intro output value hentry
    exact hown output ((mem_names_of_perm houtputs).mp (List.mem_map.mpr ⟨_, hentry, rfl⟩))
  · grind [mem_produced_of_private, mem_names_of_perm]

/-- **The steps after, under `variables.`**: an output that is written last. -/
theorem lookup_laterValues_of_published (stepID : String) (seed : Values)
    (houtputs : outputs.Perm (produced actions final))
    (hhidden : hidden.Perm (privateOutputs actions final))
    (hkey : key ∈ (produced actions final).map Prod.fst) :
    ∃ name ∈ contenders (hidden.map Prod.fst) (outputs.map Prod.fst) key,
      (final.lookup name).isSome ∧
      (laterValues stepID seed outputs hidden).lookup ("variables." ++ key) =
        final.lookup name := by
  rw [lookup_laterValues]
  obtain ⟨name, hname, hmem, hlookup⟩ | ⟨hpublic, hlookup⟩ :=
    lookup_publish_variables stepID key (fromFinal_of_perm hhidden)
  · have hvalue := isSome_of_mem_produced
      (mem_produced_of_private ((mem_names_of_perm hhidden).mp hmem))
    refine ⟨name, mem_contenders.mpr ⟨hname, ?_⟩, hvalue, ?_⟩
    · rwa [if_pos ⟨name, hname, hmem⟩]
    · rw [hlookup, Option.or_of_isSome hvalue]
  · have hnone : ¬ ∃ other ∈ [key, "variables." ++ key], other ∈ hidden.map Prod.fst := by
      rintro ⟨other, hother, hmem⟩
      exact hpublic other hother hmem
    rw [hlookup, Option.none_or]
    obtain ⟨name, hname, hmem, hlast⟩ | ⟨habsent, -⟩ :=
      lookup_publish_variables stepID key (fromFinal_of_perm houtputs)
    · have hvalue := isSome_of_mem_produced ((mem_names_of_perm houtputs).mp hmem)
      refine ⟨name, mem_contenders.mpr ⟨hname, by rwa [if_neg hnone]⟩, hvalue, ?_⟩
      rw [hlast, Option.or_of_isSome hvalue]
    · exact absurd ((mem_names_of_perm houtputs).mpr hkey) (habsent key List.mem_cons_self)

theorem exists_laterValues (stepID : String) (seed : Values)
    (hname : name ∈ contenders ((privateOutputs actions final).map Prod.fst)
      ((produced actions final).map Prod.fst) key) :
    ∃ outputs hidden : Values, outputs.Perm (produced actions final) ∧
      hidden.Perm (privateOutputs actions final) ∧
      (laterValues stepID seed outputs hidden).lookup ("variables." ++ key) =
        final.lookup name := by
  obtain ⟨hcandidate, hlast⟩ := mem_contenders.mp hname
  split at hlast
  · obtain ⟨hidden, hperm, hlookup⟩ := exists_perm_publish stepID
      (fromFinal_of_perm (List.Perm.refl _)) hcandidate hlast
    refine ⟨_, hidden, .refl _, hperm, ?_⟩
    rw [lookup_laterValues, hlookup,
      Option.or_of_isSome (isSome_of_mem_produced (mem_produced_of_private hlast))]
  · rename_i hnone
    obtain ⟨outputs, hperm, hlookup⟩ := exists_perm_publish stepID
      (fromFinal_of_perm (List.Perm.refl _)) hcandidate hlast
    refine ⟨outputs, _, hperm, .refl _, ?_⟩
    obtain ⟨other, hother, hmem, -⟩ | ⟨-, habsent⟩ := lookup_publish_variables stepID key
      (fromFinal_of_perm (List.Perm.refl (privateOutputs actions final)))
    · exact absurd ⟨other, hother, hmem⟩ hnone
    · rw [lookup_laterValues, habsent, hlookup, Option.none_or,
        Option.or_of_isSome (isSome_of_mem_produced hlast)]

end Merging

/-! ## When it is what the actions leave -/

section Law

variable {libs : Nat → ActionLibrary} {observer : Observer} {actions : List Decoding.ActionConfig}
  {seed final view : Values} {key : String}

theorem mem_of_lastAction? {action : Decoding.ActionConfig}
    (h : lastAction? actions key = some action) :
    action ∈ actions ∧ action.enabled = true ∧ assignedKey action = key := by
  have hmem := List.mem_reverse.mp (List.mem_of_find?_eq_some h)
  obtain ⟨haction, henabled⟩ := List.mem_filter.mp hmem
  exact ⟨haction, henabled, by simpa using List.find?_some h⟩

theorem cases_executeStepActions (h : executeStepActions libs 0 actions seed = some final)
    (observer : Observer) (key : String) :
    (lastAction? actions key = none ∧ final.lookup key = seed.lookup key) ∨
    (LastUnset actions key ∧ (lastAction? actions key).isSome ∧ final.lookup key = none) ∨
    ((lastAction? actions key).isSome ∧ key ∈ observer.published actions final) := by
  have hspec := executeStepActions_spec h key
  cases hlast : lastAction? actions key with
  | none =>
    rw [hlast] at hspec
    exact .inl ⟨rfl, hspec⟩
  | some action =>
    rw [hlast] at hspec
    obtain ⟨hunsets, hnone⟩ | ⟨hsets, houtput, hsome⟩ := hspec
    · exact .inr (.inl ⟨⟨action, hlast, hunsets⟩, rfl, hnone⟩)
    · refine .inr (.inr ⟨rfl, mem_published.mpr ⟨⟨action, ?_⟩, hsome⟩⟩)
      obtain ⟨haction, henabled, hkey⟩ := mem_of_lastAction? hlast
      rw [assignedKey, if_neg (by simp [hsets])] at hkey
      refine ⟨haction, ?_, hkey⟩
      have hnonempty : action.output ≠ "" := fun hempty => houtput (by rw [hempty]; rfl)
      cases observer <;> simp [Observer.publishes, isProduced, henabled, houtput, hnonempty]

theorem isSome_iff_stands (h : executeStepActions libs 0 actions seed = some final) (key : String) :
    (final.lookup key).isSome ↔ stands actions seed key = true := by
  have hspec := executeStepActions_spec h key
  rw [stands]
  cases hlast : lastAction? actions key with
  | none =>
    rw [hlast] at hspec
    rw [hspec]
  | some action =>
    rw [hlast] at hspec
    obtain ⟨hunsets, hnone⟩ | ⟨hsets, -, hsome⟩ := hspec
    · simp [hunsets, hnone]
    · simp [hsets, hsome]

theorem lookup_eq_none_iff (h : executeStepActions libs 0 actions seed = some final)
    (key : String) : final.lookup key = none ↔ stands actions seed key = false := by
  rw [← Bool.not_eq_true, ← isSome_iff_stands h, Option.not_isSome_iff_eq_none]

theorem mem_outputNames (h : executeStepActions libs 0 actions seed = some final)
    (p : Decoding.ActionConfig → Bool) (key : String) :
    key ∈ outputNames p actions seed ↔ key ∈ (outputEntries p actions final).map Prod.fst := by
  rw [outputNames, List.mem_filter, ← isSome_iff_stands h, List.mem_map, List.mem_map]
  constructor
  · rintro ⟨⟨action, haction, rfl⟩, hsome⟩
    obtain ⟨value, hvalue⟩ := Option.isSome_iff_exists.mp hsome
    obtain ⟨hmem, hp⟩ := List.mem_filter.mp haction
    exact ⟨(action.output, value), mem_outputEntries.mpr ⟨⟨action, hmem, hp, rfl⟩, hvalue⟩, rfl⟩
  · rintro ⟨⟨output, value⟩, hentry, rfl⟩
    obtain ⟨⟨action, hmem, hp, houtput⟩, hvalue⟩ := mem_outputEntries.mp hentry
    exact ⟨⟨action, List.mem_filter.mpr ⟨hmem, hp⟩, houtput⟩, by rw [hvalue]; rfl⟩

theorem mem_outputs (h : executeStepActions libs 0 actions seed = some final) :
    key ∈ observer.outputs actions seed ↔ key ∈ observer.published actions final :=
  mem_outputNames h observer.publishes key

theorem mem_aliases_outputs (h : executeStepActions libs 0 actions seed = some final) :
    key ∈ observer.aliases (observer.outputs actions seed) ↔
      key ∈ observer.aliases (observer.published actions final) := by
  simp only [mem_aliases, mem_outputs h]

theorem left_of_none (h : lastAction? actions key = none) :
    left actions final key = resolves final key := by
  rw [left, if_neg (by simp [h])]

theorem left_of_isSome (h : (lastAction? actions key).isSome) :
    left actions final key = final.lookup key := by
  rw [left, if_pos h]

/-- What is merged is what the actions leave, or else what was there. -/
structure Merged (observer : Observer) (actions : List Decoding.ActionConfig)
    (seed final view : Values) : Prop where
  own : ∀ key ∉ observer.aliases (observer.published actions final),
    view.lookup key = (final.lookup key).or (seed.lookup key)
  output : ∀ key ∈ observer.published actions final, (view.lookup ("variables." ++ key)).isSome

theorem Merged.resolves_published (h : Merged observer actions seed final view)
    (hkey : key ∈ observer.published actions final) (hbare : Bare key)
    (hplain : key ∉ generatedNames) : resolves view key = view.lookup ("variables." ++ key) := by
  rw [resolves_of_bare hbare hplain]
  exact Option.or_of_isSome (h.output key hkey)

theorem Merged.lookup_eq (h : Merged observer actions seed final view)
    (hexecute : executeStepActions libs 0 actions seed = some final)
    (habsent : observer.Absent actions seed) (hplain : key ∉ generatedNames)
    (hkey : key ∉ observer.aliases (observer.published actions final)) :
    view.lookup key = final.lookup key := by
  rw [h.own key hkey]
  obtain ⟨-, hsame⟩ | ⟨hunset, -, -⟩ | ⟨-, hpublished⟩ :=
    cases_executeStepActions hexecute observer key
  · rw [hsame, Option.or_self]
  · rw [habsent key hunset hplain fun hmem => hkey ((mem_aliases_outputs hexecute).mp hmem),
      Option.or_none]
  · exact Option.or_of_isSome (mem_published.mp hpublished).2

theorem Merged.resolves_eq (h : Merged observer actions seed final view)
    (hexecute : executeStepActions libs 0 actions seed = some final)
    (habsent : observer.Absent actions seed) (hplain : key ∉ generatedNames)
    (hkey : key ∉ observer.aliases (observer.published actions final))
    (hpublished : Bare key → key ∉ observer.published actions final) :
    resolves view key = resolves final key := by
  refine resolves_congr fun name hname => ?_
  rw [readKeys] at hname
  split at hname
  · rename_i hbare
    have hscope : ∀ scope : Scope,
        view.lookup (scope.qualify key) = final.lookup (scope.qualify key) := fun scope =>
      h.lookup_eq hexecute habsent qualify_not_generated fun hmem =>
        hpublished hbare (qualify_mem_aliases.mp hmem).2
    obtain rfl | hname := List.mem_cons.mp hname
    · exact hscope _
    obtain rfl | hname := List.mem_cons.mp hname
    · exact h.lookup_eq hexecute habsent hplain hkey
    obtain ⟨scope, -, rfl⟩ := List.mem_map.mp hname
    exact hscope scope
  · obtain rfl := List.mem_singleton.mp hname
    exact h.lookup_eq hexecute habsent hplain hkey

theorem resolves_eq_none_iff {values : Values} (hbare : Bare key) (hplain : key ∉ generatedNames) :
    resolves values key = none ↔ values.lookup key = none ∧
      ∀ scope : Scope, values.lookup (scope.qualify key) = none := by
  rw [resolves_of_bare hbare hplain, Option.or_eq_none_iff, Option.or_eq_none_iff,
    List.findSome?_eq_none_iff]
  constructor
  · rintro ⟨hvariables, hown, hscopes⟩
    refine ⟨hown, fun scope => ?_⟩
    cases scope with
    | variableStore => exact hvariables
    | service | application | environment | collection | globals =>
      exact hscopes _ (by decide)
  · rintro ⟨hown, hscopes⟩
    exact ⟨hscopes _, hown, fun scope _ => hscopes scope⟩

/-- **One view**: when it shows what the actions have left. -/
theorem Merged.resolves_left_iff (h : Merged observer actions seed final view)
    (hexecute : executeStepActions libs 0 actions seed = some final) :
    (∀ name, name ∉ generatedNames →
      name ∉ observer.aliases (observer.published actions final) →
        resolves view name = left actions final name) ↔
    observer.Absent actions seed ∧ Unscoped actions seed ∧
      ∀ key ∈ observer.published actions final, key ∉ generatedNames → Bare key →
        view.lookup ("variables." ++ key) = left actions final key := by
  have hunset : ∀ key, LastUnset actions key →
      left actions final key = none ∧ key ∉ observer.published actions final := by
    rintro key ⟨action, hlast, hunsets⟩
    have hspec := executeStepActions_spec hexecute key
    rw [hlast] at hspec
    obtain ⟨-, hnone⟩ | ⟨hsets, -⟩ := hspec
    · refine ⟨by rw [left_of_isSome (by rw [hlast]; rfl), hnone], fun hmem => ?_⟩
      have hsome := (mem_published.mp hmem).2
      rw [hnone] at hsome
      cases hsome
    · rw [hunsets] at hsets
      cases hsets
  constructor
  · intro hall
    have hnone : ∀ key, LastUnset actions key → key ∉ generatedNames →
        key ∉ observer.aliases (observer.published actions final) → resolves view key = none :=
      fun key hkey hplain halias => (hall key hplain halias).trans (hunset key hkey).1
    refine ⟨fun key hkey hplain hmem => ?_, fun key hkey hplain hbare scope => ?_,
      fun key hkey hplain hbare => ?_⟩
    · have halias := fun hname => hmem ((mem_aliases_outputs hexecute).mpr hname)
      have hview : view.lookup key = none := by
        have hresolved := hnone key hkey hplain halias
        by_cases hbare : Bare key
        · exact ((resolves_eq_none_iff hbare hplain).mp hresolved).1
        · rwa [resolves_of_not_bare hbare hplain] at hresolved
      rw [h.own key halias, Option.or_eq_none_iff] at hview
      exact hview.2
    · have hresolved := hnone key hkey hplain (not_mem_aliases_of_bare hbare)
      have hview := ((resolves_eq_none_iff hbare hplain).mp hresolved).2 scope
      rw [h.own _ fun hmem => (hunset key hkey).2 (qualify_mem_aliases.mp hmem).2,
        Option.or_eq_none_iff] at hview
      exact (lookup_eq_none_iff hexecute _).mp hview.1
    · rw [← h.resolves_published hkey hbare hplain]
      exact hall key hplain (not_mem_aliases_of_bare hbare)
  · rintro ⟨habsent, hunscoped, hshadow⟩ name hplain halias
    by_cases hpublished : Bare name ∧ name ∈ observer.published actions final
    · obtain ⟨hbare, hmem⟩ := hpublished
      rw [h.resolves_published hmem hbare hplain]
      exact hshadow name hmem hplain hbare
    have hname : Bare name → name ∉ observer.published actions final :=
      fun hbare hmem => hpublished ⟨hbare, hmem⟩
    rw [h.resolves_eq hexecute habsent hplain halias hname]
    obtain ⟨hlast, -⟩ | ⟨hkey, hlast, hnone⟩ | ⟨hlast, hmem⟩ :=
      cases_executeStepActions hexecute observer name
    · exact (left_of_none hlast).symm
    · rw [left_of_isSome hlast, hnone]
      by_cases hbare : Bare name
      · exact (resolves_eq_none_iff hbare hplain).mpr ⟨hnone, fun scope =>
          (lookup_eq_none_iff hexecute _).mpr (hunscoped name hkey hplain hbare scope)⟩
      · rw [resolves_of_not_bare hbare hplain, hnone]
    · rw [left_of_isSome hlast, resolves_of_not_bare (fun hbare => hname hbare hmem) hplain]

theorem merged_request : Merged .request actions seed final
    (Building.requestVariables { preRequest := actions } final seed) where
  own _ hkey := lookup_requestVariables_of_not_mem hkey
  output key hkey := by
    rw [lookup_requestVariables_of_published hkey, Option.isSome_or, (mem_published.mp hkey).2,
      Bool.or_true]

theorem merged_laterSteps (stepID : String) {outputs hidden : Values}
    (hexecute : executeStepActions libs 0 actions seed = some final)
    (houtputs : outputs.Perm (produced actions final))
    (hhidden : hidden.Perm (privateOutputs actions final)) :
    Merged (.laterSteps stepID) actions seed final (laterValues stepID seed outputs hidden) where
  own key hkey := by
    refine lookup_laterValues_of_not_mem houtputs hhidden (fun value hvalue hmem => ?_) hkey
    obtain ⟨-, hsame⟩ | ⟨-, -, hnone⟩ | ⟨-, hpublished⟩ :=
      cases_executeStepActions hexecute (.laterSteps stepID) key
    · rw [← hsame, hvalue]
    · rw [hnone] at hvalue
      cases hvalue
    · exact absurd hpublished hmem
  output key hkey := by
    obtain ⟨name, -, hsome, hlookup⟩ := lookup_laterValues_of_published stepID seed
      houtputs hhidden hkey
    rwa [hlookup]

theorem unshadowed_request_iff (hexecute : executeStepActions libs 0 actions seed = some final)
    (hkey : key ∈ Observer.request.published actions final) (hbare : Bare key)
    (hplain : key ∉ generatedNames) :
    (final.lookup ("variables." ++ key)).or (final.lookup key) = left actions final key ↔
      Observer.request.Unshadowed actions seed final key := by
  rw [Observer.Unshadowed, ← isSome_iff_stands hexecute]
  cases hvariable : final.lookup ("variables." ++ key) with
  | some value => simp
  | none =>
    simp only [Option.none_or, Option.isSome_none, Bool.false_eq_true, false_implies, iff_true]
    cases hlast : lastAction? actions key with
    | some action => rw [left_of_isSome (by rw [hlast]; rfl)]
    | none =>
      rw [left_of_none hlast, resolves_of_bare hbare hplain]
      have hnone : final.lookup (Scope.variableStore.qualify key) = none := hvariable
      rw [hnone, Option.none_or, Option.or_of_isSome (mem_published.mp hkey).2]

end Law

def plainLibrary : ActionLibrary where
  toRuntime := RecoverySafe.openRuntime
  now := ""
  uuid := none
  nonce := none
  randomText _ := none
  atoi _ := 0
  sha256 _ := ""
  sha512 _ := ""
  base64Hex _ := none
  base64URLHex _ := none
  base64Encode _ := ""
  base64Decode _ := none
  queryUnescape _ := none
  jsonStringify _ := none

/-- One action, which takes `token` away. -/
def forgetToken : List Decoding.ActionConfig :=
  [{ enabled := true, type := "unset-variable", expression := "token" }]

end Rhythm.Runs.Actions
