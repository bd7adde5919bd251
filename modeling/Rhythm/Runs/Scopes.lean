import Rhythm.Runs.Templates

/-!
# Rhythm.Runs.Scopes

The variable scopes of a script.  The variables of a run are one flat map, in which a name stands
bare or behind the name of its scope; a script is given one store for each scope, which
`scopeValues` collects from the map, and `pm.variables` looks a name up in all of them.

A loop over a Go map meets the entries in any order: a map is a list of entries without
repeated keys, and an order of it is a permutation.
-/

namespace Rhythm.Runs

open Text

/-! ## Maps -/

/-- A `map[string]string`. -/
structure ValueMap where
  entries : Values
  nodup : (entries.map Prod.fst).Nodup

namespace Values

variable {values writes : Values} {key value : String}

/-- **Writes, read under one key**: the last one, or what was there. -/
theorem lookup_writeAll (values writes : Values) (key : String) :
    (values.writeAll writes).lookup key =
      (writes.reverse.lookup key).or (values.lookup key) := by
  induction writes generalizing values with
  | nil => rfl
  | cons entry writes ih =>
    have hlater : (values.writeAll (entry :: writes)).lookup key =
        ((values.write entry.1 entry.2).writeAll writes).lookup key := rfl
    rw [hlater, ih, write, Unmarshal.lookup_setKey, List.reverse_cons, List.lookup_append,
      Option.or_assoc]
    congr 1
    obtain ⟨name, value⟩ := entry
    by_cases hkey : key = name <;> simp [hkey]

theorem lookup_reverse_of_forall (hmem : (key, value) ∈ writes)
    (hall : ∀ entry ∈ writes, entry.1 = key → entry.2 = value) :
    writes.reverse.lookup key = some value := by
  cases hlookup : writes.reverse.lookup key with
  | none =>
    have hnone := List.lookup_eq_none_iff.mp hlookup (key, value) (List.mem_reverse.mpr hmem)
    simp at hnone
  | some other =>
    obtain ⟨before, after, hsplit, -⟩ := List.lookup_eq_some_iff.mp hlookup
    have hwritten : (key, other) ∈ writes := by
      rw [← List.mem_reverse, hsplit]
      simp
    rw [← hall (key, other) hwritten rfl]

theorem lookup_reverse_eq_none :
    writes.reverse.lookup key = none ↔ ∀ entry ∈ writes, entry.1 ≠ key := by
  rw [List.lookup_eq_none_iff]
  constructor
  · intro h entry hentry hkey
    simpa [hkey] using h entry (List.mem_reverse.mpr hentry)
  · intro h entry hentry
    simpa using Ne.symm (h entry (List.mem_reverse.mp hentry))

theorem lookup_eq_none :
    values.lookup key = none ↔ ∀ value, (key, value) ∉ values := by
  grind

theorem lookup_of_mem (hnodup : (values.map Prod.fst).Nodup) (hmem : (key, value) ∈ values) :
    values.lookup key = some value := by
  rw [← List.reverse_reverse values]
  refine lookup_reverse_of_forall (List.mem_reverse.mpr hmem) fun entry hentry hkey => ?_
  have hsame := List.inj_on_of_nodup_map hnodup (List.mem_reverse.mp hentry) hmem hkey
  rw [hsame]

theorem mem_of_lookup (h : values.lookup key = some value) : (key, value) ∈ values := by
  obtain ⟨before, after, rfl, -⟩ := List.lookup_eq_some_iff.mp h
  simp

end Values

/-! ## Scopes -/

inductive Scope where
  /-- `variables` -/
  | variableStore
  | service | application | environment | collection | globals
  deriving DecidableEq

namespace Scope

/-- What stands before a name of the scope in the map of the run. -/
def start : Scope → String
  | variableStore => "variables."
  | service => "service."
  | application => "application."
  | environment => "environment."
  | collection => "collection."
  | globals => "globals."

/-- The scopes, in the order in which a bare name is looked up. -/
def all : List Scope := [variableStore, service, application, environment, collection, globals]

theorem mem_all (scope : Scope) : scope ∈ all := by
  cases scope <;> decide

/-- The name of a variable of the scope in the map of the run. -/
def qualify (scope : Scope) (key : String) : String := scope.start ++ key

theorem head_start_inj {scope scope' : Scope}
    (h : scope.start.toList.head? = scope'.start.toList.head?) : scope = scope' := by
  revert h
  cases scope <;> cases scope' <;> decide

theorem head_qualify (scope : Scope) (key : String) :
    (scope.qualify key).toList.head? = scope.start.toList.head? := by
  rw [qualify, String.toList_append, List.head?_append]
  cases scope <;> rfl

theorem qualify_inj {scope scope' : Scope} {key key' : String} :
    scope.qualify key = scope'.qualify key' ↔ scope = scope' ∧ key = key' := by
  constructor
  · intro h
    have hhead := congrArg (fun name => name.toList.head?) h
    simp only [head_qualify] at hhead
    obtain rfl := head_start_inj hhead
    have hlist := congrArg String.toList h
    rw [qualify, qualify, String.toList_append, String.toList_append] at hlist
    exact ⟨rfl, String.toList_injective (List.append_cancel_left hlist)⟩
  · rintro ⟨rfl, rfl⟩
    rfl

end Scope

theorem hasPrefix_iff {key start : String} :
    hasPrefix key start = true ↔ ∃ rest, key = start ++ rest := by
  rw [hasPrefix, List.isPrefixOf_iff_prefix]
  constructor
  · rintro ⟨rest, hrest⟩
    refine ⟨String.ofList rest, String.toList_injective ?_⟩
    rw [String.toList_append, String.toList_ofList, hrest]
  · rintro ⟨rest, rfl⟩
    exact ⟨rest.toList, (String.toList_append).symm⟩

theorem trimPrefix_append (start rest : String) : trimPrefix (start ++ rest) start = rest := by
  rw [trimPrefix, if_pos (hasPrefix_iff.mpr ⟨rest, rfl⟩), String.toList_append, List.drop_left,
    String.ofList_toList]

def Bare (key : String) : Prop := contains key "." = false

instance : DecidablePred Bare := fun _ => inferInstanceAs (Decidable (_ = _))

variable {key : String}

theorem bare_iff : Bare key ↔ '.' ∉ key.toList := by
  rw [Bare, ← Bool.not_eq_true, contains_iff]
  exact not_congr (List.singleton_infix_iff '.' key.toList)

theorem not_bare_qualify (scope : Scope) (key : String) : ¬ Bare (scope.qualify key) := by
  rw [bare_iff, Scope.qualify, String.toList_append]
  cases scope <;> simp [Scope.start]

/-! ## The stores of a script -/

/-- The writes of the loop of `scopeValues`. -/
def scopeWrites (scope : Scope) (entry : String × String) : List (String × String) :=
  (if hasPrefix entry.1 scope.start then [(trimPrefix entry.1 scope.start, entry.2)] else []) ++
    if scope = .variableStore ∧ Bare entry.1 then [entry] else []

/-- `scopeValues`, over the map in some order. -/
def scopeValues (order : Values) (scope : Scope) : Values :=
  Values.writeAll [] (order.flatMap (scopeWrites scope))

/-- What a script is given, or leaves: a store for each scope. -/
abbrev Stores := Scope → Values

/-- The scripts of a monitor. -/
inductive ScriptEvent where
  /-- The setup script of the monitor. -/
  | setup
  | preRequest
  | test
  deriving DecidableEq

/-- The scopes that a script is given; a Tests script has no service and no application. -/
def ScriptEvent.given (event : ScriptEvent) (scope : Scope) : Prop :=
  event = .test → scope ≠ .service ∧ scope ≠ .application

instance (event : ScriptEvent) : DecidablePred event.given :=
  fun _ => inferInstanceAs (Decidable (_ → _))

/-- The stores at the start of a script, each collected in an order of its own. -/
def ScriptEvent.stores (event : ScriptEvent) (order : Scope → Values) : Stores := fun scope =>
  if event.given scope then scopeValues (order scope) scope else []

/-- What the pattern of `__explicitScope` keeps out of a key. -/
def isLineEnd (c : Char) : Bool :=
  c = '\n' || c = '\r' || c = Char.ofNat 0x2028 || c = Char.ofNat 0x2029

/-- `__explicitScope`. -/
def explicitScope (key : String) : Option (Scope × String) :=
  Scope.all.findSome? fun scope =>
    if hasPrefix key scope.start then
      let rest := trimPrefix key scope.start
      if rest = "" ∨ rest.toList.any isLineEnd then none else some (scope, rest)
    else none

/-- `pm.variables.get`; there is no iteration data. -/
def Stores.get (stores : Stores) (key : String) : Option String :=
  match explicitScope key with
  | some (scope, key) => (stores scope).lookup key
  | none => Scope.all.findSome? fun scope => (stores scope).lookup key

section Lookup

variable {order : Values} {scope : Scope} {key value : String}

theorem mem_scopeWrites {entry : String × String} :
    (key, value) ∈ scopeWrites scope entry ↔
      entry = (scope.qualify key, value) ∨
        scope = .variableStore ∧ Bare key ∧ entry = (key, value) := by
  obtain ⟨name, held⟩ := entry
  rw [scopeWrites, List.mem_append]
  refine or_congr ?_ ?_
  · by_cases hstart : hasPrefix name scope.start = true
    · obtain ⟨rest, rfl⟩ := hasPrefix_iff.mp hstart
      rw [if_pos hstart, trimPrefix_append, List.mem_singleton, Prod.mk.injEq, Prod.mk.injEq]
      constructor
      · rintro ⟨rfl, rfl⟩
        exact ⟨rfl, rfl⟩
      · rintro ⟨hname, rfl⟩
        have hinj : scope.qualify key = scope.qualify rest := hname.symm
        exact ⟨(Scope.qualify_inj.mp hinj).2, rfl⟩
    · rw [if_neg hstart]
      refine iff_of_false List.not_mem_nil fun h => hstart (hasPrefix_iff.mpr ⟨key, ?_⟩)
      exact congrArg Prod.fst h
  · grind

theorem mem_flatMap_scopeWrites :
    (key, value) ∈ order.flatMap (scopeWrites scope) ↔
      (scope.qualify key, value) ∈ order ∨
        scope = .variableStore ∧ Bare key ∧ (key, value) ∈ order := by
  rw [List.mem_flatMap]
  constructor
  · rintro ⟨entry, hentry, hwrite⟩
    obtain rfl | ⟨hscope, hbare, rfl⟩ := mem_scopeWrites.mp hwrite
    · exact .inl hentry
    · exact .inr ⟨hscope, hbare, hentry⟩
  · rintro (hentry | ⟨hscope, hbare, hentry⟩)
    · exact ⟨_, hentry, mem_scopeWrites.mpr (.inl rfl)⟩
    · exact ⟨_, hentry, mem_scopeWrites.mpr (.inr ⟨hscope, hbare, rfl⟩)⟩

theorem lookup_scopeValues (order : Values) (scope : Scope) (key : String) :
    (scopeValues order scope).lookup key =
      (order.flatMap (scopeWrites scope)).reverse.lookup key := by
  rw [scopeValues, Values.lookup_writeAll, List.lookup_nil, Option.or_none]

theorem lookup_scopeValues_eq_none :
    (scopeValues order scope).lookup key = none ↔
      order.lookup (scope.qualify key) = none ∧
        (scope = .variableStore → Bare key → order.lookup key = none) := by
  rw [lookup_scopeValues, Values.lookup_reverse_eq_none, Values.lookup_eq_none,
    Values.lookup_eq_none]
  constructor
  · intro h
    refine ⟨fun value hmem => ?_, fun hscope hbare value hmem => ?_⟩
    · exact h (key, value) (mem_flatMap_scopeWrites.mpr (.inl hmem)) rfl
    · exact h (key, value) (mem_flatMap_scopeWrites.mpr (.inr ⟨hscope, hbare, hmem⟩)) rfl
  · rintro ⟨hqualified, hbare⟩ ⟨name, value⟩ hmem rfl
    obtain hmem | ⟨hscope, hname, hmem⟩ := mem_flatMap_scopeWrites.mp hmem
    · exact hqualified value hmem
    · exact hbare hscope hname value hmem

end Lookup

/-! ## Names -/

theorem explicitScope_of_bare (h : Bare key) : explicitScope key = none := by
  rw [explicitScope, List.findSome?_eq_none_iff]
  intro scope _
  refine if_neg fun hstart => ?_
  obtain ⟨rest, rfl⟩ := hasPrefix_iff.mp hstart
  exact not_bare_qualify scope rest h

theorem get_of_bare (stores : Stores) (h : Bare key) :
    stores.get key = ((stores .variableStore).lookup key).or
      (Scope.all.tail.findSome? fun scope => (stores scope).lookup key) := by
  rw [Stores.get, explicitScope_of_bare h]
  dsimp only
  rw [Scope.all, List.findSome?_cons, List.tail_cons]
  cases (stores .variableStore).lookup key <;> rfl

theorem resolveTemplateValue_of_bare {generate : Generator} {values : Values}
    {following : List Char} (hbare : Bare key)
    (hplain : key ∉ ["$guid", "$uuid", "$timestamp", "$isoTimestamp", "$randomInt"]) :
    resolveTemplateValue generate values following key =
      (values.lookup (Scope.variableStore.qualify key)).or ((values.lookup key).or
        (Scope.all.tail.findSome? fun scope => values.lookup (scope.qualify key))) := by
  have hdot : ¬ contains key "." = true := by
    rw [show contains key "." = false from hbare]
    decide
  rw [resolveTemplateValue, if_neg hplain, if_neg hdot]
  rfl

end Rhythm.Runs
