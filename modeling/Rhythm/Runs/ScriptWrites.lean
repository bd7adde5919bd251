import Rhythm.Runs.Scopes
import Rhythm.Runs.Workflow
import Rhythm.Transition

/-!
# Rhythm.Runs.ScriptWrites

What a script leaves in its stores should be what `{{…}}` gives from then on.  The stores are
written back into the one flat map of the run, key by key: nothing is removed from it, some
stores also write their keys bare, and the request of the step itself is rendered from
a copy that only gets the bare keys of the variables.

What a script promises are the names of its keys, each with the value that the script left.
`Takes` says when a write-back keeps the promises, and `Takes.kept` that it then does.
-/

namespace Rhythm.Runs

open Text

/-! ## Names -/

/-- The names that a template generates a value for. -/
abbrev generatedNames : List String :=
  ["$guid", "$uuid", "$timestamp", "$isoTimestamp", "$randomInt"]

/-- What `{{name}}` gives, generated values aside. -/
def resolves (values : Values) (name : String) : Option String :=
  resolveTemplateValue (fun _ _ => none) values [] name

/-- The keys of the map that `{{name}}` looks at. -/
def readKeys (name : String) : List String :=
  if Bare name then
    Scope.variableStore.qualify name :: name :: Scope.all.tail.map fun scope => scope.qualify name
  else [name]

section Names

variable {values values' : Values} {scope : Scope} {key name : String}

theorem resolveTemplateValue_eq_resolves (generate : Generator) (following : List Char)
    (h : name ∉ generatedNames) :
    resolveTemplateValue generate values following name = resolves values name := by
  rw [resolves, resolveTemplateValue, resolveTemplateValue, if_neg h, if_neg h]

theorem resolves_of_not_bare (h : ¬ Bare name) (hplain : name ∉ generatedNames) :
    resolves values name = values.lookup name := by
  have hdot : contains name "." = true := by
    simpa [Bare] using h
  rw [resolves, resolveTemplateValue, if_neg hplain, if_pos hdot]

theorem resolves_of_bare (h : Bare name) (hplain : name ∉ generatedNames) :
    resolves values name =
      (values.lookup (Scope.variableStore.qualify name)).or ((values.lookup name).or
        (Scope.all.tail.findSome? fun scope => values.lookup (scope.qualify name))) :=
  resolveTemplateValue_of_bare h hplain

theorem bare_of_generated (h : name ∈ generatedNames) : Bare name := by
  simp only [generatedNames, List.mem_cons, List.not_mem_nil, or_false] at h
  rcases h with rfl | rfl | rfl | rfl | rfl <;> decide

theorem qualify_not_generated : scope.qualify key ∉ generatedNames := fun h =>
  not_bare_qualify scope key (bare_of_generated h)

theorem resolves_qualify :
    resolves values (scope.qualify key) = values.lookup (scope.qualify key) :=
  resolves_of_not_bare (not_bare_qualify scope key) qualify_not_generated

theorem findSome?_congr {α β : Type} {l : List α} {f g : α → Option β}
    (h : ∀ x ∈ l, f x = g x) : l.findSome? f = l.findSome? g := by
  induction l with
  | nil => rfl
  | cons x xs ih =>
    rw [List.findSome?_cons, List.findSome?_cons, h x List.mem_cons_self,
      ih fun y hy => h y (List.mem_cons_of_mem _ hy)]

theorem resolves_congr (h : ∀ key ∈ readKeys name, values.lookup key = values'.lookup key) :
    resolves values name = resolves values' name := by
  by_cases hgenerated : name ∈ generatedNames
  · grind [resolves, resolveTemplateValue]
  · by_cases hbare : Bare name
    · rw [readKeys, if_pos hbare] at h
      rw [resolves_of_bare hbare hgenerated, resolves_of_bare hbare hgenerated,
        h _ List.mem_cons_self, h _ (List.mem_cons_of_mem _ List.mem_cons_self)]
      have hscopes : ∀ scope ∈ Scope.all.tail,
          values.lookup (scope.qualify name) = values'.lookup (scope.qualify name) :=
        fun scope hscope =>
          h _ (List.mem_cons_of_mem _ (List.mem_cons_of_mem _ (List.mem_map_of_mem hscope)))
      rw [findSome?_congr hscopes]
    · grind [readKeys, resolves_of_not_bare, List.mem_singleton_self]

end Names

/-! ## What a script promises -/

def ScriptResult.stores (result : ScriptResult) : Stores
  | .variableStore => result.variableStore
  | .service => result.service
  | .application => result.application
  | .environment => result.environment
  | .collection => result.collection
  | .globals => result.globals

/-- The keys that a store has, or had when the script started. -/
def storeKeys (first last : Stores) (scope : Scope) : List String :=
  ((first scope).map Prod.fst) ++ (last scope).map Prod.fst

/-- A name and what `{{name}}` is to give. -/
abbrev Promise := String × Option String

/-- For every key of a store: its value under the name of the scope, and what `pm.variables` reads
under the key itself. -/
def promises (first last : Stores) : List Promise :=
  Scope.all.flatMap fun scope => (storeKeys first last scope).flatMap fun key =>
    (scope.qualify key, (last scope).lookup key) ::
      if key ∈ generatedNames then [] else [(key, last.get key)]

def Kept (values : Values) (promise : Promise) : Prop := resolves values promise.1 = promise.2

instance (values : Values) : DecidablePred (Kept values) :=
  fun _ => inferInstanceAs (Decidable (_ = _))

/-! ## When a write-back keeps it -/

/-- No key of a store spells a name that the write-back uses. -/
def Unspelled (first last : Stores) : Prop :=
  ∀ scope ∈ Scope.all, ∀ key ∈ storeKeys first last scope,
    (∀ other ∈ Scope.all, hasPrefix key other.start = false) ∧
      hasPrefix key "secrets.__tainted." = false

instance (first last : Stores) : Decidable (Unspelled first last) :=
  inferInstanceAs (Decidable (∀ scope ∈ Scope.all, _))

/-- How stores are written back: the scopes whose keys are written under the name of the scope, and
those whose keys are written bare, the last one first. -/
structure WriteBack where
  qualified : List Scope
  bare : List Scope
  deriving DecidableEq

def WriteBack.request : WriteBack := ⟨[], [.variableStore]⟩

def WriteBack.preRequest : WriteBack :=
  ⟨Scope.all, [.collection, .environment, .variableStore]⟩

def WriteBack.test : WriteBack :=
  ⟨[.variableStore, .environment, .collection, .globals],
    [.collection, .environment, .variableStore]⟩

namespace WriteBack

variable (back : WriteBack)

/-- What the map has under the name of a scope afterwards. -/
def leaves (values : Values) (last : Stores) (key : String) (scope : Scope) : Option String :=
  (if scope ∈ back.qualified then (last scope).lookup key else none).or
    (values.lookup (scope.qualify key))

/-- What is written bare under the key, or the map's own; the last scope written bare comes
first. -/
def bareValue (values : Values) (last : Stores) (key : String) : Option String :=
  (back.bare.findSome? fun scope => (last scope).lookup key).or (values.lookup key)

/-- A key that its scope is not written with has no value in the map; a scope that is not written
at all is as the map has it. -/
def Qualifies (values : Values) (last : Stores) (scope : Scope) (key : String) : Prop :=
  if scope ∈ back.qualified then
    (last scope).lookup key = none → values.lookup (scope.qualify key) = none
  else values.lookup (scope.qualify key) = (last scope).lookup key

/-- A bare key that is no variable in the end has, if one is written, the value that the script
reads first; if none is, every scope qualifies with it.  A key with a dot is just what is
written. -/
def Reads (values : Values) (last : Stores) (key : String) : Prop :=
  if Bare key then
    (last .variableStore).lookup key = none →
      back.Qualifies values last .variableStore key ∧
      (∀ value ∈ back.bareValue values last key, last.get key = some value) ∧
      (back.bareValue values last key = none →
        ∀ scope ∈ Scope.all.tail, back.Qualifies values last scope key)
  else back.bareValue values last key = last.get key

def Takes (values : Values) (first last : Stores) : Prop :=
  ∀ scope ∈ Scope.all, ∀ key ∈ storeKeys first last scope,
    back.Qualifies values last scope key ∧ (key ∉ generatedNames → back.Reads values last key)

instance (values : Values) (last : Stores) (scope : Scope) (key : String) :
    Decidable (back.Qualifies values last scope key) :=
  inferInstanceAs (Decidable (ite _ _ _))

instance (values : Values) (last : Stores) (key : String) :
    Decidable (back.Reads values last key) :=
  inferInstanceAs (Decidable (ite _ _ _))

instance (values : Values) (first last : Stores) : Decidable (back.Takes values first last) :=
  inferInstanceAs (Decidable (∀ scope ∈ Scope.all, _))

/-- The write-back leaves what it says. -/
structure Writes (values after : Values) (first last : Stores) : Prop where
  leaves : ∀ scope key, after.lookup (scope.qualify key) = back.leaves values last key scope
  bareValue : ∀ scope, ∀ key ∈ storeKeys first last scope,
    after.lookup key = back.bareValue values last key

variable {back} {values after : Values} {first last : Stores} {scope : Scope} {key : String}

theorem Qualifies.leaves_eq (h : back.Qualifies values last scope key) :
    back.leaves values last key scope = (last scope).lookup key := by
  rw [Qualifies] at h
  rw [leaves]
  split at h
  · rename_i hwritten
    rw [if_pos hwritten]
    cases hlast : (last scope).lookup key with
    | some value => rfl
    | none => rw [h hlast, Option.none_or]
  · rename_i hunwritten
    rw [if_neg hunwritten, Option.none_or, h]

theorem mem_storeKeys_of_lookup {value : String} (h : (last scope).lookup key = some value) :
    key ∈ storeKeys first last scope :=
  List.mem_append_right _ (List.mem_map_of_mem (f := Prod.fst) (Values.mem_of_lookup h))

theorem Takes.resolves_bare (h : back.Takes values first last)
    (hwrites : back.Writes values after first last) (hkey : key ∈ storeKeys first last scope)
    (hbare : Bare key) (hplain : key ∉ generatedNames) : resolves after key = last.get key := by
  have hreads := (h scope (Scope.mem_all scope) key hkey).2 hplain
  rw [Reads, if_pos hbare] at hreads
  rw [resolves_of_bare hbare hplain, hwrites.bareValue scope key hkey, hwrites.leaves]
  cases hlast : (last .variableStore).lookup key with
  | some value =>
    -- the variables come first, for the script too
    have hvariable : key ∈ storeKeys first last .variableStore := mem_storeKeys_of_lookup hlast
    have hqualifies := (h .variableStore (Scope.mem_all _) key hvariable).1
    rw [hqualifies.leaves_eq, hlast, get_of_bare _ hbare, hlast]
    rfl
  | none =>
    obtain ⟨hqualifies, hvalue, hnone⟩ := hreads hlast
    rw [hqualifies.leaves_eq, hlast, Option.none_or]
    cases hwritten : back.bareValue values last key with
    | some value =>
      rw [hvalue value hwritten]
      rfl
    | none =>
      have hscopes : ∀ other ∈ Scope.all.tail,
          after.lookup (other.qualify key) = (last other).lookup key := by
        intro other hother
        rw [hwrites.leaves, (hnone hwritten other hother).leaves_eq]
      rw [Option.none_or, findSome?_congr hscopes, get_of_bare _ hbare, hlast, Option.none_or]

/-- **The promises are kept.** -/
theorem Takes.kept (h : back.Takes values first last)
    (hwrites : back.Writes values after first last) {promise : Promise}
    (hpromise : promise ∈ promises first last) : Kept after promise := by
  obtain ⟨scope, hscope, hpromise⟩ := List.mem_flatMap.mp hpromise
  obtain ⟨key, hkey, hpromise⟩ := List.mem_flatMap.mp hpromise
  obtain rfl | hpromise := List.mem_cons.mp hpromise
  · show resolves after (scope.qualify key) = (last scope).lookup key
    rw [resolves_qualify, hwrites.leaves, (h scope hscope key hkey).1.leaves_eq]
  · split at hpromise
    · contradiction
    · rename_i hplain
      obtain rfl := List.mem_singleton.mp hpromise
      show resolves after key = last.get key
      by_cases hbare : Bare key
      · exact h.resolves_bare hwrites hkey hbare hplain
      · have hreads := (h scope hscope key hkey).2 hplain
        rw [Reads, if_neg hbare] at hreads
        rw [resolves_of_not_bare hbare hplain, hwrites.bareValue scope key hkey, hreads]

end WriteBack

/-! ## The writes -/

section Writes

variable {values store : Values} {scope other : Scope} {first last : Stores}
  {key name value : String}

theorem lookup_reverse_eq {writes : Values} {written : Option String}
    (hsome : ∀ value, written = some value → (name, value) ∈ writes)
    (hall : ∀ value, (name, value) ∈ writes → written = some value) :
    writes.reverse.lookup name = written := by
  cases written with
  | none =>
    rw [Values.lookup_reverse_eq_none]
    rintro ⟨name', value⟩ hmem rfl
    exact Option.some_ne_none value (hall value hmem).symm
  | some value =>
    grind [Values.lookup_reverse_of_forall, Option.some.inj]

theorem lookup_reverse_of_nodup (hnodup : (store.map Prod.fst).Nodup) :
    store.reverse.lookup key = store.lookup key :=
  lookup_reverse_eq (fun _ => Values.mem_of_lookup) fun _ => Values.lookup_of_mem hnodup

theorem mem_scopedWrites :
    (name, value) ∈ ScriptResult.scopedWrites scope.start store ↔
      ∃ key, name = scope.qualify key ∧ (key, value) ∈ store := by
  rw [ScriptResult.scopedWrites, List.mem_map]
  constructor
  · rintro ⟨⟨key, value'⟩, hmem, hentry⟩
    cases hentry
    exact ⟨key, rfl, hmem⟩
  · rintro ⟨key, rfl, hmem⟩
    exact ⟨_, hmem, rfl⟩

theorem mem_bareWrites :
    (name, value) ∈ ScriptResult.bareWrites scope.start store ↔
      (name, value) ∈ store ∨ ∃ key, name = scope.qualify key ∧ (key, value) ∈ store := by
  rw [ScriptResult.bareWrites, List.mem_flatMap]
  constructor
  · rintro ⟨⟨key, value'⟩, hmem, hentry⟩
    obtain hentry | hentry : (name, value) = (key, value') ∨
        (name, value) = (scope.start ++ key, value') := by simpa using hentry
    · cases hentry
      exact .inl hmem
    · cases hentry
      exact .inr ⟨key, rfl, hmem⟩
  · rintro (hmem | ⟨key, rfl, hmem⟩)
    · exact ⟨_, hmem, List.mem_cons_self⟩
    · exact ⟨_, hmem, List.mem_cons_of_mem _ (List.mem_singleton_self _)⟩

theorem mem_variableWrites {result : ScriptResult} :
    (name, value) ∈ result.variableWrites ↔
      (name, value) ∈ result.variableStore ∨
      (∃ key, name = Scope.variableStore.qualify key ∧ (key, value) ∈ result.variableStore) ∨
      ∃ key, name = "secrets.__tainted." ++ key ∧ result.taints key = true ∧
        (key, value) ∈ result.variableStore := by
  rw [ScriptResult.variableWrites, List.mem_flatMap]
  constructor
  · rintro ⟨⟨key, value'⟩, hmem, hentry⟩
    rw [List.mem_append] at hentry
    obtain hentry | hentry := hentry
    · obtain hentry | hentry : (name, value) = (key, value') ∨
          (name, value) = ("variables." ++ key, value') := by simpa using hentry
      · cases hentry
        exact .inl hmem
      · cases hentry
        exact .inr (.inl ⟨key, rfl, hmem⟩)
    · grind
  · rintro (hmem | ⟨key, rfl, hmem⟩ | ⟨key, rfl, htaints, hmem⟩)
    · exact ⟨_, hmem, List.mem_append_left _ List.mem_cons_self⟩
    · exact ⟨_, hmem, List.mem_append_left _
        (List.mem_cons_of_mem _ (List.mem_singleton_self _))⟩
    · refine ⟨_, hmem, List.mem_append_right _ ?_⟩
      rw [if_pos htaints]
      exact List.mem_singleton_self _

theorem qualify_ne_tainted : scope.qualify key ≠ "secrets.__tainted." ++ name := by
  intro h
  have hprefix := hasPrefix_iff.mpr ⟨name, h⟩
  rw [hasPrefix, Scope.qualify, String.toList_append] at hprefix
  revert hprefix
  cases scope <;> simp [Scope.start, List.isPrefixOf]

theorem mem_storeKeys (h : (key, value) ∈ last scope) : key ∈ storeKeys first last scope :=
  List.mem_append_right _ (List.mem_map_of_mem (f := Prod.fst) h)

theorem Unspelled.ne_qualify (h : Unspelled first last) (hkey : key ∈ storeKeys first last scope) :
    key ≠ other.qualify name := by
  intro heq
  have hplain := (h scope (Scope.mem_all scope) key hkey).1 other (Scope.mem_all other)
  rw [hasPrefix_iff.mpr ⟨name, heq⟩] at hplain
  contradiction

theorem Unspelled.ne_tainted (h : Unspelled first last) (hkey : key ∈ storeKeys first last scope) :
    key ≠ "secrets.__tainted." ++ name := by
  intro heq
  have hplain := (h scope (Scope.mem_all scope) key hkey).2
  rw [hasPrefix_iff.mpr ⟨name, heq⟩] at hplain
  contradiction

section Result

variable {result : ScriptResult}

theorem preRequestWrites_eq : result.preRequestWrites =
    result.variableWrites ++
      ScriptResult.bareWrites Scope.environment.start (result.stores .environment) ++
      ScriptResult.scopedWrites Scope.service.start (result.stores .service) ++
      ScriptResult.scopedWrites Scope.application.start (result.stores .application) ++
      ScriptResult.bareWrites Scope.collection.start (result.stores .collection) ++
      ScriptResult.scopedWrites Scope.globals.start (result.stores .globals) := rfl

theorem testWrites_eq : result.testWrites =
    result.variableWrites ++
      ScriptResult.bareWrites Scope.environment.start (result.stores .environment) ++
      ScriptResult.bareWrites Scope.collection.start (result.stores .collection) ++
      ScriptResult.scopedWrites Scope.globals.start (result.stores .globals) := rfl

theorem mem_variableWrites_qualify (hun : Unspelled first result.stores) :
    (scope.qualify key, value) ∈ result.variableWrites ↔
      scope = .variableStore ∧ (key, value) ∈ result.stores scope := by
  rw [mem_variableWrites]
  constructor
  · rintro (hmem | ⟨key', hname, hmem⟩ | ⟨key', hname, -⟩)
    · have hkey : scope.qualify key ∈ storeKeys first result.stores .variableStore :=
        mem_storeKeys hmem
      exact absurd rfl (hun.ne_qualify hkey)
    · obtain ⟨rfl, rfl⟩ := Scope.qualify_inj.mp hname
      exact ⟨rfl, hmem⟩
    · exact absurd hname qualify_ne_tainted
  · rintro ⟨rfl, hmem⟩
    exact .inr (.inl ⟨key, rfl, hmem⟩)

theorem mem_bareWrites_qualify (hun : Unspelled first result.stores) :
    (scope.qualify key, value) ∈ ScriptResult.bareWrites other.start (result.stores other) ↔
      scope = other ∧ (key, value) ∈ result.stores scope := by
  rw [mem_bareWrites]
  constructor
  · rintro (hmem | ⟨key', hname, hmem⟩)
    · exact absurd rfl (hun.ne_qualify (mem_storeKeys hmem))
    · obtain ⟨rfl, rfl⟩ := Scope.qualify_inj.mp hname
      exact ⟨rfl, hmem⟩
  · rintro ⟨rfl, hmem⟩
    exact .inr ⟨key, rfl, hmem⟩

theorem mem_scopedWrites_qualify :
    (scope.qualify key, value) ∈ ScriptResult.scopedWrites other.start (result.stores other) ↔
      scope = other ∧ (key, value) ∈ result.stores scope := by
  rw [mem_scopedWrites]
  constructor
  · rintro ⟨key', hname, hmem⟩
    obtain ⟨rfl, rfl⟩ := Scope.qualify_inj.mp hname
    exact ⟨rfl, hmem⟩
  · rintro ⟨rfl, hmem⟩
    exact ⟨key, rfl, hmem⟩

theorem mem_preRequestWrites_qualify (hun : Unspelled first result.stores) :
    (scope.qualify key, value) ∈ result.preRequestWrites ↔ (key, value) ∈ result.stores scope := by
  simp only [preRequestWrites_eq, List.mem_append, mem_variableWrites_qualify hun,
    mem_bareWrites_qualify hun, mem_scopedWrites_qualify]
  cases scope <;> simp

theorem mem_testWrites_qualify (hun : Unspelled first result.stores) :
    (scope.qualify key, value) ∈ result.testWrites ↔
      scope ∈ WriteBack.test.qualified ∧ (key, value) ∈ result.stores scope := by
  simp only [testWrites_eq, List.mem_append, mem_variableWrites_qualify hun,
    mem_bareWrites_qualify hun, mem_scopedWrites_qualify]
  cases scope <;> simp [WriteBack.test]

theorem lookup_variableWrites_bare (hnodup : ((result.stores .variableStore).map Prod.fst).Nodup)
    (hscope : ∀ other : Scope, ∀ key, name ≠ other.qualify key)
    (htainted : ∀ key, name ≠ "secrets.__tainted." ++ key) :
    result.variableWrites.reverse.lookup name = (result.stores .variableStore).lookup name := by
  refine lookup_reverse_eq (fun value hvalue => ?_) fun value hmem => ?_
  · exact mem_variableWrites.mpr (.inl (Values.mem_of_lookup hvalue))
  · rcases mem_variableWrites.mp hmem with hmem | ⟨key, hname, -⟩ | ⟨key, hname, -⟩
    · exact Values.lookup_of_mem hnodup hmem
    · exact absurd hname (hscope _ key)
    · exact absurd hname (htainted key)

theorem lookup_bareWrites_bare (hnodup : (store.map Prod.fst).Nodup)
    (hscope : ∀ other : Scope, ∀ key, name ≠ other.qualify key) :
    (ScriptResult.bareWrites scope.start store).reverse.lookup name = store.lookup name := by
  refine lookup_reverse_eq (fun value hvalue => ?_) fun value hmem => ?_
  · exact mem_bareWrites.mpr (.inl (Values.mem_of_lookup hvalue))
  · rcases mem_bareWrites.mp hmem with hmem | ⟨key, hname, -⟩
    · exact Values.lookup_of_mem hnodup hmem
    · exact absurd hname (hscope _ key)

theorem lookup_scopedWrites_bare (hscope : ∀ other : Scope, ∀ key, name ≠ other.qualify key) :
    (ScriptResult.scopedWrites scope.start store).reverse.lookup name = none := by
  rw [Values.lookup_reverse_eq_none]
  rintro ⟨name', value⟩ hmem rfl
  obtain ⟨key, hname, -⟩ := mem_scopedWrites.mp hmem
  exact hscope scope key hname

theorem findSome?_bareScopes (stores : Stores) (key : String) :
    ([Scope.collection, .environment, .variableStore].findSome? fun scope =>
      (stores scope).lookup key) =
      ((stores .collection).lookup key).or
        (((stores .environment).lookup key).or ((stores .variableStore).lookup key)) := by
  rw [List.findSome?_cons, List.findSome?_cons, List.findSome?_cons, List.findSome?_nil]
  cases (stores .collection).lookup key <;> cases (stores .environment).lookup key <;>
    cases (stores .variableStore).lookup key <;> rfl

/-- **The writes after a pre-request script.** -/
theorem writes_preRequest (hmaps : ∀ scope, ((result.stores scope).map Prod.fst).Nodup)
    (hun : Unspelled first result.stores) :
    WriteBack.preRequest.Writes values (values.writeAll result.preRequestWrites) first
      result.stores where
  leaves := fun scope key => by
    rw [Values.lookup_writeAll, WriteBack.leaves,
      if_pos (show scope ∈ WriteBack.preRequest.qualified from Scope.mem_all scope)]
    congr 1
    refine lookup_reverse_eq (fun value hvalue => ?_) fun value hmem => ?_
    · exact (mem_preRequestWrites_qualify hun).mpr (Values.mem_of_lookup hvalue)
    · exact Values.lookup_of_mem (hmaps scope) ((mem_preRequestWrites_qualify hun).mp hmem)
  bareValue := fun scope key hkey => by
    have hscope : ∀ other : Scope, ∀ name, key ≠ other.qualify name := fun other name =>
      hun.ne_qualify hkey
    have htainted : ∀ name, key ≠ "secrets.__tainted." ++ name := fun name => hun.ne_tainted hkey
    rw [Values.lookup_writeAll, WriteBack.bareValue]
    congr 1
    simp only [preRequestWrites_eq, List.reverse_append, List.lookup_append,
      lookup_variableWrites_bare (hmaps _) hscope htainted,
      lookup_bareWrites_bare (hmaps _) hscope, lookup_scopedWrites_bare hscope, Option.none_or]
    exact (findSome?_bareScopes result.stores key).symm

/-- **The writes after a Tests script.** -/
theorem writes_test (hmaps : ∀ scope, ((result.stores scope).map Prod.fst).Nodup)
    (hun : Unspelled first result.stores) :
    WriteBack.test.Writes values (values.writeAll result.testWrites) first result.stores where
  leaves := fun scope key => by
    rw [Values.lookup_writeAll, WriteBack.leaves]
    congr 1
    refine lookup_reverse_eq (fun value hvalue => ?_) fun value hmem => ?_
    · split at hvalue
      · rename_i hwritten
        exact (mem_testWrites_qualify hun).mpr ⟨hwritten, Values.mem_of_lookup hvalue⟩
      · contradiction
    · obtain ⟨hwritten, hmem⟩ := (mem_testWrites_qualify hun).mp hmem
      rw [if_pos hwritten]
      exact Values.lookup_of_mem (hmaps scope) hmem
  bareValue := fun scope key hkey => by
    have hscope : ∀ other : Scope, ∀ name, key ≠ other.qualify name := fun other name =>
      hun.ne_qualify hkey
    have htainted : ∀ name, key ≠ "secrets.__tainted." ++ name := fun name => hun.ne_tainted hkey
    rw [Values.lookup_writeAll, WriteBack.bareValue]
    congr 1
    simp only [testWrites_eq, List.reverse_append, List.lookup_append,
      lookup_variableWrites_bare (hmaps _) hscope htainted,
      lookup_bareWrites_bare (hmaps _) hscope, lookup_scopedWrites_bare hscope, Option.none_or]
    exact (findSome?_bareScopes result.stores key).symm

/-- **The writes to the variables of the request.** -/
theorem writes_request (hmaps : ∀ scope, ((result.stores scope).map Prod.fst).Nodup)
    (hun : Unspelled first result.stores) :
    WriteBack.request.Writes values (values.writeAll result.variableStore) first result.stores where
  leaves := fun scope key => by
    have hnone : result.variableStore.reverse.lookup (scope.qualify key) = none := by
      rw [Values.lookup_reverse_eq_none]
      rintro ⟨name, value⟩ hmem
      exact hun.ne_qualify (mem_storeKeys (show _ ∈ result.stores .variableStore from hmem))
    rw [Values.lookup_writeAll, WriteBack.leaves, hnone, if_neg (by simp [WriteBack.request])]
  bareValue := fun scope key _ => by
    have hstore : result.variableStore.reverse.lookup key =
        (result.stores .variableStore).lookup key := lookup_reverse_of_nodup (hmaps .variableStore)
    rw [Values.lookup_writeAll, hstore]
    show _ = ([Scope.variableStore].findSome? fun scope => (result.stores scope).lookup key).or _
    rw [List.findSome?_cons, List.findSome?_nil]
    cases (result.stores .variableStore).lookup key <;> rfl

end Result

end Writes

/-! ## What is not promised -/

section Frame

variable {values writes : Values} {first last : Stores} {result : ScriptResult}
  {name key value : String} {promise : Promise}

/-- The names that a write-back of the stores writes at most. -/
def WrittenBy (last : Stores) (key : String) : Prop :=
  (∃ scope value, (key, value) ∈ last scope) ∨
    (∃ scope name value, key = Scope.qualify scope name ∧ (name, value) ∈ last scope) ∨
      ∃ name, key = "secrets.__tainted." ++ name

theorem writtenBy_variableWrites (h : (key, value) ∈ result.variableWrites) :
    WrittenBy result.stores key := by
  rcases mem_variableWrites.mp h with hmem | ⟨name, rfl, hmem⟩ | ⟨name, rfl, -⟩
  · exact .inl ⟨.variableStore, value, hmem⟩
  · exact .inr (.inl ⟨.variableStore, name, value, rfl, hmem⟩)
  · exact .inr (.inr ⟨name, rfl⟩)

variable {scope : Scope}

theorem writtenBy_bareWrites
    (h : (key, value) ∈ ScriptResult.bareWrites scope.start (result.stores scope)) :
    WrittenBy result.stores key := by
  rcases mem_bareWrites.mp h with hmem | ⟨name, rfl, hmem⟩
  · exact .inl ⟨scope, value, hmem⟩
  · exact .inr (.inl ⟨scope, name, value, rfl, hmem⟩)

theorem writtenBy_scopedWrites
    (h : (key, value) ∈ ScriptResult.scopedWrites scope.start (result.stores scope)) :
    WrittenBy result.stores key := by
  obtain ⟨name, rfl, hmem⟩ := mem_scopedWrites.mp h
  exact .inr (.inl ⟨scope, name, value, rfl, hmem⟩)

theorem writtenBy_preRequestWrites (h : (key, value) ∈ result.preRequestWrites) :
    WrittenBy result.stores key := by
  simp only [preRequestWrites_eq, List.mem_append] at h
  rcases h with ((((h | h) | h) | h) | h) | h
  · exact writtenBy_variableWrites h
  · exact writtenBy_bareWrites h
  · exact writtenBy_scopedWrites h
  · exact writtenBy_scopedWrites h
  · exact writtenBy_bareWrites h
  · exact writtenBy_scopedWrites h

theorem writtenBy_testWrites (h : (key, value) ∈ result.testWrites) :
    WrittenBy result.stores key := by
  simp only [testWrites_eq, List.mem_append] at h
  rcases h with ((h | h) | h) | h
  · exact writtenBy_variableWrites h
  · exact writtenBy_bareWrites h
  · exact writtenBy_bareWrites h
  · exact writtenBy_scopedWrites h

/-- A name that can be promised: no generated one, and none of the tainted variables. -/
def Promisable (name : String) : Prop :=
  name ∉ generatedNames ∧ ∀ rest, name ≠ "secrets.__tainted." ++ rest

theorem promisable_of_mem (h : promise ∈ promises first last) (hun : Unspelled first last) :
    Promisable promise.1 := by
  obtain ⟨scope, -, h⟩ := List.mem_flatMap.mp h
  obtain ⟨key, hkey, h⟩ := List.mem_flatMap.mp h
  obtain rfl | h := List.mem_cons.mp h
  · exact ⟨qualify_not_generated, fun rest => qualify_ne_tainted⟩
  · split at h
    · contradiction
    · rename_i hplain
      obtain rfl := List.mem_singleton.mp h
      exact ⟨hplain, fun rest => hun.ne_tainted hkey⟩

theorem mem_promises_qualify (h : (key, value) ∈ last scope) :
    scope.qualify key ∈ (promises first last).map Prod.fst :=
  List.mem_map.mpr ⟨_, List.mem_flatMap.mpr ⟨scope, Scope.mem_all scope, List.mem_flatMap.mpr
    ⟨key, mem_storeKeys h, List.mem_cons_self⟩⟩, rfl⟩

theorem mem_promises_bare (h : (key, value) ∈ last scope)
    (hplain : key ∉ generatedNames) : key ∈ (promises first last).map Prod.fst := by
  refine List.mem_map.mpr ⟨(key, last.get key), List.mem_flatMap.mpr ⟨scope, Scope.mem_all scope,
    List.mem_flatMap.mpr ⟨key, mem_storeKeys h, List.mem_cons_of_mem _ ?_⟩⟩, rfl⟩
  rw [if_neg hplain]
  exact List.mem_singleton_self _

theorem mem_readKeys (h : key ∈ readKeys name) :
    key = name ∨ Bare name ∧ ∃ scope : Scope, key = scope.qualify name := by
  grind [readKeys]

/-- **What the stores do not promise is not written.** -/
theorem not_writtenBy (hun : Unspelled first last) (hname : Promisable name)
    (hnamed : name ∉ (promises first last).map Prod.fst) (hkey : key ∈ readKeys name) :
    ¬ WrittenBy last key := by
  rintro (⟨scope, value, hmem⟩ | ⟨scope, own, value, rfl, hmem⟩ | ⟨own, rfl⟩)
  · rcases mem_readKeys hkey with rfl | ⟨-, other, rfl⟩
    · exact hnamed (mem_promises_bare hmem hname.1)
    · exact hun.ne_qualify (mem_storeKeys hmem) rfl
  · rcases mem_readKeys hkey with rfl | ⟨-, other, hsame⟩
    · exact hnamed (mem_promises_qualify hmem)
    · obtain ⟨rfl, rfl⟩ := Scope.qualify_inj.mp hsame
      exact hnamed (mem_promises_bare hmem hname.1)
  · rcases mem_readKeys hkey with rfl | ⟨-, other, hsame⟩
    · exact hname.2 own rfl
    · exact qualify_ne_tainted hsame.symm

/-- The writes repeat what the map has under the names that the promise is read from. -/
def Repeats (values writes : Values) (promise : Promise) : Prop :=
  ∀ entry ∈ writes, entry.1 ∈ readKeys promise.1 → values.lookup entry.1 = some entry.2

instance (values writes : Values) : DecidablePred (Repeats values writes) :=
  fun _ => inferInstanceAs (Decidable (∀ entry ∈ writes, _))

theorem Kept.of_repeats (hkept : Kept values promise) (h : Repeats values writes promise) :
    Kept (values.writeAll writes) promise := by
  have hsame : ∀ key ∈ readKeys promise.1,
      (values.writeAll writes).lookup key = values.lookup key := by
    intro key hkey
    rw [Values.lookup_writeAll]
    cases hwritten : writes.reverse.lookup key with
    | none => rfl
    | some value =>
      have hmem := List.mem_reverse.mp (Values.mem_of_lookup hwritten)
      rw [h _ hmem hkey]
      rfl
  rw [Kept, resolves_congr hsame, hkept]

theorem Kept.of_not_written (hkept : Kept values promise)
    (h : ∀ entry ∈ writes, entry.1 ∉ readKeys promise.1) : Kept (values.writeAll writes) promise :=
  hkept.of_repeats fun entry hentry hread => absurd hread (h entry hentry)

end Frame

end Rhythm.Runs
