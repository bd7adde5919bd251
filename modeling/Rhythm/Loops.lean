import Mathlib.Data.List.Induction
import Mathlib.Data.Set.Basic

/-!
# Rhythm.Loops

Loops over maps.  Each writes entries of another map, in an order that is not said, and they run
one after the other.  `settles_iff` says what a key must end up as, whatever the orders: what the
last loop that writes it writes.  This module names nothing of the component.
-/

namespace Rhythm.Loops

variable {ι κ α β : Type} [BEq κ] [LawfulBEq κ]

/-- The writes that a loop may make, from first to last. -/
abbrev Loop (κ α : Type) := Set (List (κ × α))

def Writes (loop : Loop κ α) (key : κ) (value : α) : Prop :=
  ∃ writes ∈ loop, (key, value) ∈ writes

/-- The loop always writes the same keys, and each value that it may write to a key may be the last
one. -/
structure Fair (loop : Loop κ α) : Prop where
  nonempty : ∃ writes, writes ∈ loop
  keys : ∀ writes ∈ loop, ∀ key value, Writes loop key value → ∃ other, (key, other) ∈ writes
  last : ∀ key value, Writes loop key value →
    ∃ writes ∈ loop, writes.reverse.lookup key = some value

section Lookup

variable {writes : List (κ × α)} {key : κ} {value : α}

theorem mem_of_lookup_reverse (h : writes.reverse.lookup key = some value) :
    (key, value) ∈ writes := by
  obtain ⟨before, after, hsplit, -⟩ := List.lookup_eq_some_iff.mp h
  rw [← List.mem_reverse, hsplit]
  exact List.mem_append_right _ List.mem_cons_self

theorem lookup_reverse_eq_none_iff :
    writes.reverse.lookup key = none ↔ ∀ value, (key, value) ∉ writes := by
  rw [List.lookup_eq_none_iff]
  constructor
  · intro h value hmem
    simpa using h (key, value) (List.mem_reverse.mpr hmem)
  · rintro h ⟨name, value⟩ hmem
    rw [bne_iff_ne]
    rintro rfl
    exact h value (List.mem_reverse.mp hmem)

theorem lookup_reverse_of_forall (hmem : (key, value) ∈ writes)
    (hall : ∀ other, (key, other) ∈ writes → other = value) :
    writes.reverse.lookup key = some value := by
  cases hlookup : writes.reverse.lookup key with
  | none => exact absurd hmem (lookup_reverse_eq_none_iff.mp hlookup value)
  | some other => rw [hall other (mem_of_lookup_reverse hlookup)]

end Lookup

/-! ## One loop -/

section Entries

variable {f : β → List (κ × α)} {entries : List β} {entry : β} {key : κ} {value : α}

theorem exists_perm_last (hentry : entry ∈ entries) (hwrite : (key, value) ∈ f entry)
    (hone : ∀ other, (key, other) ∈ f entry → other = value) :
    ∃ order : List β, order.Perm entries ∧
      (order.flatMap f).reverse.lookup key = some value := by
  obtain ⟨before, after, rfl⟩ := List.append_of_mem hentry
  refine ⟨before ++ after ++ [entry], ?_, ?_⟩
  · exact (List.perm_append_singleton _ _).trans List.perm_middle.symm
  · rw [List.flatMap_append, List.reverse_append, List.lookup_append, List.flatMap_singleton,
      lookup_reverse_of_forall hwrite hone, Option.some_or]

/-- **A loop over a map** whose entries each write one value, if all its runs meet the same
keys. -/
theorem fair_of_entries {maps : Set (List β)} (hnonempty : ∃ entries, entries ∈ maps)
    (hperm : ∀ entries ∈ maps, ∀ order : List β, order.Perm entries → order ∈ maps)
    (hone : ∀ entry key value other, (key, value) ∈ f entry → (key, other) ∈ f entry →
      other = value)
    (hkeys : ∀ entries ∈ maps, ∀ other ∈ maps, ∀ entry ∈ other, ∀ key value,
      (key, value) ∈ f entry → ∃ own ∈ entries, ∃ written, (key, written) ∈ f own) :
    Fair {writes | ∃ entries ∈ maps, writes = entries.flatMap f} where
  nonempty := hnonempty.imp' (List.flatMap f) fun entries hentries => ⟨entries, hentries, rfl⟩
  keys := by
    rintro _ ⟨entries, hentries, rfl⟩ key value ⟨_, ⟨other, hother, rfl⟩, hmem⟩
    obtain ⟨entry, hentry, hwrite⟩ := List.mem_flatMap.mp hmem
    obtain ⟨own, hown, written, hwritten⟩ :=
      hkeys entries hentries other hother entry hentry key value hwrite
    exact ⟨written, List.mem_flatMap.mpr ⟨own, hown, hwritten⟩⟩
  last := by
    rintro key value ⟨_, ⟨entries, hentries, rfl⟩, hmem⟩
    obtain ⟨entry, hentry, hwrite⟩ := List.mem_flatMap.mp hmem
    obtain ⟨order, horder, hlookup⟩ :=
      exists_perm_last hentry hwrite fun other => hone entry key value other hwrite
    exact ⟨_, ⟨order, hperm entries hentries order horder, rfl⟩, hlookup⟩

end Entries

/-! ## Loops one after the other -/

section Sequence

variable {order : List ι} {loop : ι → Loop κ α} {base target : Option α} {key : κ}

def Settles (order : List ι) (loop : ι → Loop κ α) (base : Option α) (key : κ)
    (target : Option α) : Prop :=
  ∀ run : ι → List (κ × α), (∀ i, run i ∈ loop i) →
    ((order.flatMap run).reverse.lookup key).or base = target

/-- What is written to the key is what it ends up as, or a later loop writes it again. -/
def Agrees (order : List ι) (loop : ι → Loop κ α) (key : κ) (target : Option α) : Prop :=
  ∀ before i after, order = before ++ i :: after → ∀ value, Writes (loop i) key value →
    target = some value ∨ ∃ j ∈ after, ∃ other, Writes (loop j) key other

theorem agrees_of_settles (hfair : ∀ i, Fair (loop i)) (h : Settles order loop base key target) :
    Agrees order loop key target := by
  rintro before i after rfl value hwrites
  by_cases hlater : ∃ j ∈ after, ∃ other, Writes (loop j) key other
  · exact .inr hlater
  · refine .inl ?_
    classical
    choose run hrun using fun j => (hfair j).nonempty
    obtain ⟨writes, hwrites, hlast⟩ := (hfair i).last key value hwrites
    have hself : i ∉ after := fun hmem => hlater ⟨i, hmem, value, writes, hwrites,
      mem_of_lookup_reverse hlast⟩
    have hchosen : ∀ j, Function.update run i writes j ∈ loop j := by
      intro j
      by_cases hj : j = i
      · subst hj
        rwa [Function.update_self]
      · rw [Function.update_of_ne hj]
        exact hrun j
    have hnone : (after.flatMap (Function.update run i writes)).reverse.lookup key = none := by
      rw [lookup_reverse_eq_none_iff]
      intro other hmem
      obtain ⟨j, hj, hwrite⟩ := List.mem_flatMap.mp hmem
      exact hlater ⟨j, hj, other, _, hchosen j, hwrite⟩
    have hfinal := h _ hchosen
    rwa [List.flatMap_append, List.flatMap_cons, List.reverse_append, List.reverse_append,
      List.lookup_append, List.lookup_append, hnone, Function.update_self, hlast, Option.none_or,
      Option.some_or, Option.some_or, eq_comm] at hfinal

theorem settles_of_agrees (hfair : ∀ i, Fair (loop i)) (h : Agrees order loop key target)
    (hbase : (∀ i ∈ order, ∀ value, ¬ Writes (loop i) key value) → base = target) :
    Settles order loop base key target := by
  intro run hrun
  induction order using List.reverseRecOn with
  | nil => exact hbase fun i hi => absurd hi List.not_mem_nil
  | append_singleton order i ih =>
    rw [List.flatMap_append, List.flatMap_singleton, List.reverse_append, List.lookup_append]
    cases hlast : (run i).reverse.lookup key with
    | some value =>
      obtain htarget | ⟨j, hj, -⟩ := h order i [] rfl value
        ⟨run i, hrun i, mem_of_lookup_reverse hlast⟩
      · rw [htarget, Option.some_or, Option.some_or]
      · exact absurd hj List.not_mem_nil
    | none =>
      have hsilent : ∀ value, ¬ Writes (loop i) key value := by
        intro value hwrites
        obtain ⟨other, hother⟩ := (hfair i).keys (run i) (hrun i) key value hwrites
        exact lookup_reverse_eq_none_iff.mp hlast other hother
      rw [Option.none_or]
      refine ih ?_ fun hnone => hbase fun j hj => ?_
      · rintro before j after rfl value hwrites
        obtain htarget | ⟨later, hlater, other, hother⟩ :=
          h before j (after ++ [i]) (by rw [List.append_assoc, List.cons_append]) value hwrites
        · exact .inl htarget
        · obtain hlater | hlater := List.mem_append.mp hlater
          · exact .inr ⟨later, hlater, other, hother⟩
          · obtain rfl := List.mem_singleton.mp hlater
            exact absurd hother (hsilent other)
      · obtain hj | hj := List.mem_append.mp hj
        · exact hnone j hj
        · obtain rfl := List.mem_singleton.mp hj
          exact hsilent

/-- **A key keeps its value** through the loops. -/
theorem settles_self_iff (hfair : ∀ i, Fair (loop i)) :
    Settles order loop base key base ↔ Agrees order loop key base :=
  ⟨agrees_of_settles hfair, fun h => settles_of_agrees hfair h fun _ => rfl⟩

end Sequence

end Rhythm.Loops
