import Rhythm.Loops
import Rhythm.Runs.Names
import Rhythm.Runs.ScriptRequest
import Rhythm.Runs.ScriptRuns

/-!
# Rhythm.Runs.Unchanged

What a pre-request script that changes nothing writes.  It is given the variables of the run in six
stores; what it leaves there is written back, store by store, each in the order of a map.  A
variable that was given to it bare is written under `variables.` as well, the variables of the
environment and the collection are written bare, and those whose names are sensitive, or that the
public result masks, are noted as tainted.

`settles_saves_iff` says when a key keeps its value.
-/

namespace Rhythm.Runs.Unchanged

open Text

/-! ## What is written back -/

/-- The stores in the order in which they are written back. -/
def saveOrder : List Scope :=
  [.variableStore, .environment, .service, .application, .collection, .globals]

def taints (masked : List String) (name : String) : Bool := name ∈ masked || sensitiveKey name

def savedKeys (masked : List String) (scope : Scope) (name : String) : List String :=
  match scope with
  | .variableStore =>
    [name, scope.qualify name] ++ if taints masked name then ["secrets.__tainted." ++ name] else []
  | .environment | .collection => [name, scope.qualify name]
  | .service | .application | .globals => [scope.qualify name]

def savedEntry (masked : List String) (scope : Scope) (entry : String × String) : Values :=
  (savedKeys masked scope entry.1).map fun key => (key, entry.2)

/-- The stores that a script may be given from the variables of the run, in the order in which they
are met when they come back. -/
def Stored (values : Values) (scope : Scope) : Set (List (String × String)) :=
  {store | ∃ order : Values, order.Perm values ∧ store.Perm (scopeValues order scope)}

def saveLoop (values : Values) (masked : List String) (scope : Scope) :
    Loops.Loop String String :=
  {writes | ∃ store ∈ Stored values scope, writes = store.flatMap (savedEntry masked scope)}

/-- A script that leaves its stores as it got them. -/
structure LeavesStores (values : Values) (masked : List String) (result : ScriptResult) : Prop where
  stores : ∀ scope, result.stores scope ∈ Stored values scope
  masked : result.masked = masked

/-! ## What it is given -/

def Given (values : Values) (scope : Scope) (name value : String) : Prop :=
  values.lookup (scope.qualify name) = some value ∨
    scope = .variableStore ∧ Bare name ∧ values.lookup name = some value

section Stores

variable {values order store : Values} {scope : Scope} {masked : List String}
  {key name value : String}

theorem lookup_of_perm (hnodup : (values.map Prod.fst).Nodup) (horder : order.Perm values) :
    order.lookup key = values.lookup key := by
  have hother : (order.map Prod.fst).Nodup := (horder.map Prod.fst).nodup_iff.mpr hnodup
  cases hlookup : values.lookup key with
  | some value =>
    exact Values.lookup_of_mem hother (horder.mem_iff.mpr (Values.mem_of_lookup hlookup))
  | none =>
    rw [Values.lookup_eq_none] at hlookup ⊢
    exact fun value hmem => hlookup value (horder.mem_iff.mp hmem)

theorem nodup_scopeValues : ((scopeValues order scope).map Prod.fst).Nodup :=
  Preview.nodup_writeAll List.nodup_nil

theorem nodup_of_stored (h : store ∈ Stored values scope) : (store.map Prod.fst).Nodup := by
  obtain ⟨order, -, hstore⟩ := h
  exact (hstore.map Prod.fst).nodup_iff.mpr nodup_scopeValues

theorem given_of_lookup (hnodup : (values.map Prod.fst).Nodup) (h : store ∈ Stored values scope)
    (hlookup : store.lookup name = some value) : Given values scope name value := by
  obtain ⟨order, horder, hstore⟩ := h
  rw [lookup_of_perm nodup_scopeValues hstore, lookup_scopeValues] at hlookup
  have hwrite := Loops.mem_of_lookup_reverse hlookup
  obtain hmem | ⟨hscope, hbare, hmem⟩ := mem_flatMap_scopeWrites.mp hwrite
  · exact .inl (Values.lookup_of_mem hnodup (horder.mem_iff.mp hmem))
  · exact .inr ⟨hscope, hbare, Values.lookup_of_mem hnodup (horder.mem_iff.mp hmem)⟩

theorem isSome_of_given (hnodup : (values.map Prod.fst).Nodup) (h : store ∈ Stored values scope)
    (hgiven : Given values scope name value) : (store.lookup name).isSome := by
  obtain ⟨order, horder, hstore⟩ := h
  rw [lookup_of_perm nodup_scopeValues hstore, ← Option.ne_none_iff_isSome, Ne,
    lookup_scopeValues_eq_none]
  rintro ⟨hqualified, hbare⟩
  rw [lookup_of_perm hnodup horder] at hqualified hbare
  obtain hvalue | ⟨hscope, hname, hvalue⟩ := hgiven
  · rw [hqualified] at hvalue
    cases hvalue
  · rw [hbare hscope hname] at hvalue
    cases hvalue

theorem exists_stored (hgiven : Given values scope name value) :
    ∃ store ∈ Stored values scope, store.lookup name = some value := by
  obtain ⟨entry, hentry, hwrite⟩ :
      ∃ entry ∈ values, (name, value) ∈ scopeWrites scope entry := by
    obtain hvalue | ⟨hscope, hbare, hvalue⟩ := hgiven
    · exact ⟨_, Values.mem_of_lookup hvalue, mem_scopeWrites.mpr (.inl rfl)⟩
    · exact ⟨_, Values.mem_of_lookup hvalue, mem_scopeWrites.mpr (.inr ⟨hscope, hbare, rfl⟩)⟩
  have hone : ∀ other, (name, other) ∈ scopeWrites scope entry → other = value := by
    have hvalue : ∀ other, (name, other) ∈ scopeWrites scope entry → other = entry.2 := by
      intro other hother
      obtain rfl | ⟨-, -, rfl⟩ := mem_scopeWrites.mp hother <;> rfl
    exact fun other hother => (hvalue other hother).trans (hvalue value hwrite).symm
  obtain ⟨order, horder, hlast⟩ := Loops.exists_perm_last hentry hwrite hone
  exact ⟨_, ⟨order, horder, .refl _⟩, by rw [lookup_scopeValues, hlast]⟩

theorem stored_self (values : Values) (scope : Scope) :
    scopeValues values scope ∈ Stored values scope := ⟨values, .refl _, .refl _⟩

/-! ## The loops -/

def Saves (values : Values) (masked : List String) (scope : Scope) (key value : String) : Prop :=
  ∃ name, Given values scope name value ∧ key ∈ savedKeys masked scope name

theorem mem_savedEntry {entry : String × String} :
    (key, value) ∈ savedEntry masked scope entry ↔
      key ∈ savedKeys masked scope entry.1 ∧ value = entry.2 := by
  grind [savedEntry, Prod.mk.inj]

theorem writes_saveLoop_iff (hnodup : (values.map Prod.fst).Nodup) :
    Loops.Writes (saveLoop values masked scope) key value ↔
      Saves values masked scope key value := by
  constructor
  · rintro ⟨_, ⟨store, hstore, rfl⟩, hmem⟩
    obtain ⟨⟨name, held⟩, hentry, hwrite⟩ := List.mem_flatMap.mp hmem
    obtain ⟨hkey, rfl⟩ := mem_savedEntry.mp hwrite
    exact ⟨name, given_of_lookup hnodup hstore
      (Values.lookup_of_mem (nodup_of_stored hstore) hentry), hkey⟩
  · rintro ⟨name, hgiven, hkey⟩
    obtain ⟨store, hstore, hlookup⟩ := exists_stored hgiven
    exact ⟨_, ⟨store, hstore, rfl⟩, List.mem_flatMap.mpr
      ⟨(name, value), Values.mem_of_lookup hlookup, mem_savedEntry.mpr ⟨hkey, rfl⟩⟩⟩

theorem fair_saveLoop (hnodup : (values.map Prod.fst).Nodup) :
    Loops.Fair (saveLoop values masked scope) := by
  refine Loops.fair_of_entries ⟨_, stored_self values scope⟩ ?_ ?_ ?_
  · rintro store ⟨order, horder, hstore⟩ other hother
    exact ⟨order, horder, hother.trans hstore⟩
  · intro entry key value other hvalue hother
    rw [(mem_savedEntry.mp hvalue).2, (mem_savedEntry.mp hother).2]
  · rintro store hstore other hother ⟨name, held⟩ hentry key value hwrite
    have hgiven := given_of_lookup hnodup hother
      (Values.lookup_of_mem (nodup_of_stored hother) hentry)
    obtain ⟨own, hown⟩ := Option.isSome_iff_exists.mp (isSome_of_given hnodup hstore hgiven)
    exact ⟨(name, own), Values.mem_of_lookup hown, own,
      mem_savedEntry.mpr ⟨(mem_savedEntry.mp hwrite).1, rfl⟩⟩

/-- **The writes of a pre-request script**, loop by loop. -/
theorem preRequestWrites_eq_saves {result : ScriptResult} : result.preRequestWrites =
    saveOrder.flatMap fun scope =>
      (result.stores scope).flatMap (savedEntry result.masked scope) := by
  have hvariables : result.variableWrites =
      (result.stores .variableStore).flatMap (savedEntry result.masked .variableStore) := by
    refine List.flatMap_congr fun entry _ => ?_
    rw [savedEntry, savedKeys, taints, ScriptResult.taints]
    split <;> rfl
  have hscoped : ∀ scope (store : Values),
      savedKeys result.masked scope = (fun name => [scope.qualify name]) →
        ScriptResult.scopedWrites scope.start store =
          store.flatMap (savedEntry result.masked scope) := by
    intro scope store hkeys
    rw [ScriptResult.scopedWrites, List.map_eq_flatMap]
    refine List.flatMap_congr fun entry _ => ?_
    rw [savedEntry, hkeys]
    rfl
  rw [preRequestWrites_eq, hvariables, hscoped .service _ rfl, hscoped .application _ rfl,
    hscoped .globals _ rfl]
  simp only [saveOrder, List.flatMap_cons, List.flatMap_nil, List.append_nil, List.append_assoc]
  rfl

/-- A key ends up with the value that it has: each store that writes it writes this, or a later one
writes it again. -/
def KeepsKey (values : Values) (masked : List String) (key : String) : Prop :=
  ∀ before scope after, saveOrder = before ++ scope :: after → ∀ value,
    Saves values masked scope key value →
      values.lookup key = some value ∨ ∃ later ∈ after, ∃ other, Saves values masked later key other

/-- **One key**, whatever the orders. -/
theorem settles_saves_iff (hnodup : (values.map Prod.fst).Nodup) :
    Loops.Settles saveOrder (saveLoop values masked) (values.lookup key) key (values.lookup key) ↔
      KeepsKey values masked key := by
  rw [Loops.settles_self_iff fun _ => fair_saveLoop hnodup]
  simp only [Loops.Agrees, KeepsKey, writes_saveLoop_iff hnodup]

def leaving (masked : List String) (stores : Stores) : ScriptResult where
  variableStore := stores .variableStore
  environment := stores .environment
  service := stores .service
  application := stores .application
  collection := stores .collection
  globals := stores .globals
  masked := masked
  request := none
  requestSkipped := false
  secrets := []

@[simp]
theorem stores_leaving (stores : Stores) : (leaving masked stores).stores = stores := by
  funext scope
  cases scope <;> rfl

theorem leavesStores_leaving {stores : Stores} (h : ∀ scope, stores scope ∈ Stored values scope) :
    LeavesStores values masked (leaving masked stores) where
  stores := by rwa [stores_leaving]
  masked := rfl

theorem LeavesStores.maps {result : ScriptResult} (h : LeavesStores values masked result)
    (scope : Scope) : ((result.stores scope).map Prod.fst).Nodup :=
  nodup_of_stored (h.stores scope)

theorem exists_leavesStores (masked : List String)
    (hstore : store ∈ Stored values .variableStore) :
    ∃ result, LeavesStores values masked result ∧ result.variableStore = store := by
  let stores : Stores := fun scope =>
    if scope = .variableStore then store else scopeValues values scope
  refine ⟨leaving masked stores, leavesStores_leaving fun scope => ?_, rfl⟩
  by_cases hscope : scope = .variableStore
  · subst hscope
    exact hstore
  · rw [show stores scope = scopeValues values scope from if_neg hscope]
    exact stored_self values scope

/-- **The variables** are as they were after every such script, exactly if each key keeps its
value. -/
theorem lookup_saves_iff (hnodup : (values.map Prod.fst).Nodup) :
    (∀ result, LeavesStores values masked result →
      (values.writeAll result.preRequestWrites).lookup key = values.lookup key) ↔
      KeepsKey values masked key := by
  rw [← settles_saves_iff hnodup, Loops.Settles]
  constructor
  · intro h run hrun
    choose stores hstores hwrites using hrun
    have hkept := h _ (leavesStores_leaving hstores)
    rw [Values.lookup_writeAll, preRequestWrites_eq_saves, stores_leaving] at hkept
    have hrun : run = fun scope => (stores scope).flatMap (savedEntry masked scope) :=
      funext hwrites
    rw [hrun]
    exact hkept
  · intro h result hresult
    rw [Values.lookup_writeAll, preRequestWrites_eq_saves, hresult.masked]
    exact h _ fun scope => ⟨_, hresult.stores scope, rfl⟩

end Stores

end Rhythm.Runs.Unchanged
