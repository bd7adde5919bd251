import Rhythm.Runs.Conditions

/-!
# Rhythm.Runs.Names

Is a name the same variable wherever it is written?  A template looks a bare name up in the
variables of the run, then bare, then in the other scopes; a script reads what
`scopeValues` makes of them; the operand of a condition is read bare only.  They agree on a
name exactly when it is there bare, and under the variables not otherwise, or nowhere at all.
-/

namespace Rhythm.Runs

open Text

/-- `{{key}}`. -/
def placeholder (key : String) : String := "\x7b\x7b" ++ key ++ "\x7d\x7d"

/-- The name is a truth value or a number, which a right operand may be as it is. -/
def Literal (floats : FloatLibrary) (key : String) : Prop :=
  equalFold key "true" = true ∨ equalFold key "false" = true ∨ (floats.parse key).isSome = true

/-- The name has one value, or none, in a template, as each operand of a condition and in every
script that is started from the variables, in whatever order their map is met. -/
def ResolvesAlike (floats : FloatLibrary) (values : ValueMap) (key : String) : Prop :=
  ∀ (generate : Generator) (event : ScriptEvent) (order : Scope → Values),
    (∀ scope, (order scope).Perm values.entries) →
    let value := (render generate (placeholder key) values.entries).toOption
    values.entries.lookup key = value ∧
      conditionOperand floats key values.entries true = value ∧
      (¬ Literal floats key → conditionOperand floats key values.entries false = value) ∧
      (event.stores order).get key = value

/-- The name stands bare, and under the variables with the same value or not at all; or it stands
nowhere. -/
def StandsBare (values : ValueMap) (key : String) : Prop :=
  (∃ value ∈ values.entries.lookup key,
    ∀ other ∈ values.entries.lookup (Scope.variableStore.qualify key), other = value) ∨
  (values.entries.lookup key = none ∧
    ∀ scope ∈ Scope.all, values.entries.lookup (scope.qualify key) = none)

instance (values : ValueMap) (key : String) : Decidable (StandsBare values key) :=
  inferInstanceAs (Decidable (_ ∨ _))

/-! ## Templates -/

section Template

variable {key : String}

theorem Identifier.betweenBraces (h : Identifier key) : BetweenBraces key.toList := by
  refine ⟨h.ne_nil, fun c hc => ?_⟩
  have hname := (h.2 c hc).1
  have hopen := ne_of_isNameChar (show isNameChar '{' = false by decide) hname
  have hclose := ne_of_isNameChar (show isNameChar '}' = false by decide) hname
  simp [isBrace, hopen, hclose]

theorem Identifier.plain (h : Identifier key) :
    key ∉ ["$guid", "$uuid", "$timestamp", "$isoTimestamp", "$randomInt"] := by
  intro hmem
  have hdollar : '$' ∈ key.toList := by
    simp only [List.mem_cons, List.not_mem_nil, or_false] at hmem
    rcases hmem with rfl | rfl | rfl | rfl | rfl <;> decide
  have hname := (h.2 _ hdollar).1
  revert hname
  decide

theorem renderFrom_placeholder (h : Identifier key) (resolve : List Char → String → Option String) :
    ∃ following, renderFrom resolve 0 (placeholder key).toList =
      match resolve following key with
      | some value => (value.toList, none)
      | none => ((placeholder key).toList, some key) := by
  have htext : (placeholder key).toList = braced key.toList := by
    simp [placeholder, braced]
  have hbraced := renderFrom_braced h.betweenBraces resolve
  rwa [String.ofList_toList, h.trimSpace_eq, ← htext] at hbraced

/-- **A template that is a name.** -/
theorem render_placeholder (h : Identifier key) (generate : Generator) (values : Values) :
    (render generate (placeholder key) values).toOption =
      (values.lookup (Scope.variableStore.qualify key)).or ((values.lookup key).or
        (Scope.all.tail.findSome? fun scope => values.lookup (scope.qualify key))) := by
  obtain ⟨following, hrender⟩ := renderFrom_placeholder h (resolveTemplateValue generate values)
  rw [render, hrender, resolveTemplateValue_of_bare h.bare h.plain]
  cases (values.lookup (Scope.variableStore.qualify key)).or ((values.lookup key).or
      (Scope.all.tail.findSome? fun scope => values.lookup (scope.qualify key))) with
  | some value => simp [Except.toOption]
  | none => rfl

end Template

/-! ## Operands -/

section Operand

variable {floats : FloatLibrary} {values : Values} {key : String}

theorem conditionOperand_of_some {value : String} (h : Identifier key)
    (hvalue : values.lookup key = some value) (requireVariable : Bool) :
    conditionOperand floats key values requireVariable = some value := by
  simp only [conditionOperand, h.trimSpace_eq, hvalue]

theorem conditionOperand_of_none (h : Identifier key) (hnone : values.lookup key = none)
    {requireVariable : Bool} (hliteral : requireVariable = true ∨ ¬ Literal floats key) :
    conditionOperand floats key values requireVariable = none := by
  simp only [conditionOperand, h.trimSpace_eq, hnone]
  split
  · rfl
  · rename_i hright
    have hliteral := hliteral.resolve_left hright
    have hquoted : isQuoted key = false := by
      have hne : ∀ d, isNameChar d = false → key.toList.head? ≠ some d := fun d hd hhead =>
        ne_of_isNameChar hd (h.2 d (List.mem_of_mem_head? hhead)).1 rfl
      simp [isQuoted, hne '"' (by decide), hne '\'' (by decide)]
    rw [Literal, not_or, not_or] at hliteral
    simp [hquoted, hliteral]

end Operand

/-! ## Scripts -/

section Script

variable {values : ValueMap} {order : Scope → Values} {event : ScriptEvent} {key : String}

theorem lookup_order (h : ∀ scope, (order scope).Perm values.entries) (scope : Scope)
    (key : String) : (order scope).lookup key = values.entries.lookup key := by
  cases hlookup : values.entries.lookup key with
  | none =>
    rw [Values.lookup_eq_none] at hlookup ⊢
    exact fun value hmem => hlookup value ((h scope).mem_iff.mp hmem)
  | some value =>
    have hnodup : ((order scope).map Prod.fst).Nodup :=
      ((h scope).map Prod.fst).nodup_iff.mpr values.nodup
    exact Values.lookup_of_mem hnodup ((h scope).mem_iff.mpr (Values.mem_of_lookup hlookup))

theorem lookup_variableStore {value : String} (horder : ∀ scope, (order scope).Perm values.entries)
    (hbare : Bare key) (hvalue : values.entries.lookup key = some value)
    (hsame : ∀ other ∈ values.entries.lookup (Scope.variableStore.qualify key), other = value) :
    (event.stores order .variableStore).lookup key = some value := by
  have hgiven : event.given .variableStore := fun _ => ⟨by decide, by decide⟩
  have hmem := (horder .variableStore).mem_iff.mpr (Values.mem_of_lookup hvalue)
  rw [ScriptEvent.stores, if_pos hgiven, lookup_scopeValues]
  refine Values.lookup_reverse_of_forall
    (mem_flatMap_scopeWrites.mpr (.inr ⟨rfl, hbare, hmem⟩)) ?_
  rintro ⟨name, other⟩ hother rfl
  rcases mem_flatMap_scopeWrites.mp hother with hqualified | ⟨-, -, hplain⟩
  · refine hsame other ?_
    exact Values.lookup_of_mem values.nodup ((horder .variableStore).mem_iff.mp hqualified)
  · have hread := Values.lookup_of_mem values.nodup ((horder .variableStore).mem_iff.mp hplain)
    rw [hvalue, Option.some.injEq] at hread
    exact hread.symm

theorem lookup_stores_eq_none (horder : ∀ scope, (order scope).Perm values.entries)
    (hnone : values.entries.lookup key = none) {scope : Scope}
    (hscope : values.entries.lookup (scope.qualify key) = none) :
    (event.stores order scope).lookup key = none := by
  rw [ScriptEvent.stores]
  split
  · rw [lookup_scopeValues_eq_none, lookup_order horder, lookup_order horder]
    exact ⟨hscope, fun _ _ => hnone⟩
  · rfl

/-- **A name that stands bare, in a script.** -/
theorem get_stores_of_standsBare (horder : ∀ scope, (order scope).Perm values.entries)
    (hbare : Bare key) (h : StandsBare values key) :
    (event.stores order).get key = values.entries.lookup key := by
  rw [get_of_bare _ hbare]
  rcases h with ⟨value, hvalue, hsame⟩ | ⟨hnone, hscopes⟩
  · rw [lookup_variableStore horder hbare hvalue hsame, hvalue, Option.some_or]
  · have hall : ∀ scope ∈ Scope.all, (event.stores order scope).lookup key = none :=
      fun scope hscope => lookup_stores_eq_none horder hnone (hscopes scope hscope)
    rw [hall _ (Scope.mem_all _), Option.none_or, hnone, List.findSome?_eq_none_iff]
    exact fun scope hscope => hall scope (List.mem_of_mem_tail hscope)

end Script

/-! ## Agreement -/

theorem template_of_standsBare {values : ValueMap} {key : String} (h : StandsBare values key) :
    (values.entries.lookup (Scope.variableStore.qualify key)).or ((values.entries.lookup key).or
      (Scope.all.tail.findSome? fun scope => values.entries.lookup (scope.qualify key))) =
      values.entries.lookup key := by
  rcases h with ⟨value, hvalue, hsame⟩ | ⟨hnone, hscopes⟩
  · rw [hvalue, Option.some_or]
    cases hother : values.entries.lookup (Scope.variableStore.qualify key) with
    | none => rfl
    | some other => rw [hsame other hother, Option.some_or]
  · grind [Scope.mem_all, List.findSome?_eq_none_iff, List.mem_of_mem_tail]

theorem standsBare_of_template {values : ValueMap} {key : String}
    (h : values.entries.lookup key =
      (values.entries.lookup (Scope.variableStore.qualify key)).or ((values.entries.lookup key).or
        (Scope.all.tail.findSome? fun scope => values.entries.lookup (scope.qualify key)))) :
    StandsBare values key := by
  cases hvalue : values.entries.lookup key with
  | some value =>
    refine .inl ⟨value, hvalue, fun other hother => ?_⟩
    rw [Option.mem_def] at hother
    rw [hvalue, hother, Option.some_or, Option.some.injEq] at h
    exact h.symm
  | none =>
    rw [hvalue, Option.none_or, eq_comm, Option.or_eq_none_iff, List.findSome?_eq_none_iff] at h
    refine .inr ⟨hvalue, fun scope hscope => ?_⟩
    rcases List.mem_cons.mp hscope with rfl | hscope
    · exact h.1
    · exact h.2 scope hscope

/-- **Names.**  A name resolves alike everywhere exactly when it stands bare. -/
theorem resolvesAlike_iff (floats : FloatLibrary) (values : ValueMap) (key : String)
    (hkey : Identifier key) : ResolvesAlike floats values key ↔ StandsBare values key := by
  constructor
  · intro h
    have hfirst := (h (fun _ _ => none) .setup (fun _ => values.entries) fun _ => .refl _).1
    rw [render_placeholder hkey] at hfirst
    exact standsBare_of_template hfirst
  · intro h generate event order horder
    dsimp only
    rw [render_placeholder hkey, template_of_standsBare h]
    refine ⟨rfl, ?_, fun hliteral => ?_, get_stores_of_standsBare horder hkey.bare h⟩
    · cases hvalue : values.entries.lookup key with
      | some value => exact conditionOperand_of_some hkey hvalue true
      | none => exact conditionOperand_of_none hkey hvalue (.inl rfl)
    · cases hvalue : values.entries.lookup key with
      | some value => exact conditionOperand_of_some hkey hvalue false
      | none => exact conditionOperand_of_none hkey hvalue (.inr hliteral)

/-- A run with one variable, as `scopeValues` and the steps of a run leave it. -/
def sampleVariables : ValueMap where
  entries := [("region", "eu"), ("variables.region", "eu")]
  nodup := by decide

def noFloats : FloatLibrary where
  Value := Unit
  parse _ := none
  compare _ _ _ := false

theorem resolvesAlike_region : ResolvesAlike noFloats sampleVariables "region" :=
  (resolvesAlike_iff noFloats sampleVariables "region" (by decide)).mpr (by decide)

/-- A variable of the service is unresolved in a condition. -/
theorem service_variable_unresolved :
    ¬ ∀ floats values key, Identifier key → ResolvesAlike floats values key := by
  intro h
  have hregion := h noFloats ⟨[("service.region", "eu")], by decide⟩ "region" (by decide)
    (fun _ _ => none) .preRequest (fun _ => [("service.region", "eu")]) (fun _ => .refl _)
  have hfirst := hregion.1
  revert hfirst
  decide +kernel

end Rhythm.Runs
