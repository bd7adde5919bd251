import Rhythm.Unmarshal

/-!
# Rhythm.Assignments

Programs that set and unset the entries of a map, one after the other.  A key ends up as its last
assignment leaves it; what no assignment names stays as it was.  This module names nothing of the
component.
-/

namespace Rhythm.Assignments

open Unmarshal (setKey lookup_setKey lookup_filter_key)

variable {α : Type}

/-- One assignment; `none` takes the entry away. -/
structure Assignment (α : Type) where
  key : String
  value : Option α

/-- `delete(values, key)`. -/
def erase (values : List (String × α)) (key : String) : List (String × α) :=
  values.filter fun entry => entry.1 ≠ key

def Assignment.apply (values : List (String × α)) (a : Assignment α) : List (String × α) :=
  match a.value with
  | some value => setKey values a.key value
  | none => erase values a.key

def run (values : List (String × α)) (program : List (Assignment α)) : List (String × α) :=
  program.foldl Assignment.apply values

theorem lookup_erase (values : List (String × α)) (key key' : String) :
    (erase values key).lookup key' = if key' = key then none else values.lookup key' := by
  rw [erase, lookup_filter_key values (fun name => decide (name ≠ key))]
  by_cases hkey : key' = key
  · rw [if_pos hkey, if_neg (by simpa using hkey)]
  · rw [if_neg hkey, if_pos (decide_eq_true hkey)]

/-- **One assignment.** -/
theorem lookup_apply (values : List (String × α)) (a : Assignment α) (key : String) :
    (a.apply values).lookup key = if key = a.key then a.value else values.lookup key := by
  obtain ⟨name, value⟩ := a
  cases value with
  | none => exact lookup_erase values name key
  | some value => exact lookup_setKey values name key value

def last? (program : List (Assignment α)) (key : String) : Option (Assignment α) :=
  program.reverse.find? fun a => a.key = key

/-- **A program**: each key is as its last assignment leaves it. -/
theorem lookup_run (values : List (String × α)) (program : List (Assignment α)) (key : String) :
    (run values program).lookup key =
      match last? program key with
      | some a => a.value
      | none => values.lookup key := by
  unfold run last?
  induction program using List.reverseRecOn with
  | nil => rfl
  | append_singleton program a ih =>
    rw [List.foldl_append, List.foldl_cons, List.foldl_nil, lookup_apply, List.reverse_append,
      List.reverse_singleton, List.singleton_append, List.find?_cons]
    by_cases hkey : a.key = key
    · rw [if_pos hkey.symm, decide_eq_true hkey]
    · rw [if_neg (Ne.symm hkey), decide_eq_false hkey, ih]

end Rhythm.Assignments
