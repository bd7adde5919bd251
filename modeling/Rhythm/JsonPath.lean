import Rhythm.Json

/-!
# Rhythm.JsonPath

Positions in a JSON value: the steps from the value to a part of it, a key for a
member of an object and an index for an item of an array.  This module names
nothing of the component.

`Json.get?` follows the steps; `Json.get?_append` composes two ways.
-/

namespace Rhythm.Json

/-- One step into a value. -/
inductive Step where
  | key (name : String)
  | index (i : Nat)
  deriving DecidableEq

def child : Json → Step → Option Json
  | .obj fields, .key name => fields.lookup name
  | .arr items, .index i => items[i]?
  | _, _ => none

def get? : Json → List Step → Option Json
  | v, [] => some v
  | v, step :: steps => (v.child step).bind fun w => w.get? steps

def keysOf : List Step → List String
  | [] => []
  | .key name :: steps => name :: keysOf steps
  | .index _ :: steps => keysOf steps

def isLeaf : Json → Bool
  | .arr items => items.isEmpty
  | .obj fields => fields.isEmpty
  | _ => true

variable {v w : Json} {fields : List (String × Json)} {items : List Json} {name : String}
  {i : Nat} {step : Step} {steps steps' : List Step}

@[simp] theorem get?_nil : v.get? [] = some v := by
  cases v <;> rfl

theorem get?_cons : v.get? (step :: steps) = (v.child step).bind fun w => w.get? steps := by
  cases v <;> rfl

@[simp] theorem get?_key :
    (obj fields).get? (.key name :: steps) = (fields.lookup name).bind fun w => w.get? steps :=
  rfl

@[simp] theorem get?_index :
    (arr items).get? (.index i :: steps) = items[i]?.bind fun w => w.get? steps :=
  rfl

/-- **Two ways, one after the other.** -/
theorem get?_append : v.get? (steps ++ steps') = (v.get? steps).bind fun w => w.get? steps' := by
  induction steps generalizing v with
  | nil => simp
  | cons step steps ih =>
    rw [List.cons_append, get?_cons, get?_cons]
    cases v.child step with
    | none => rfl
    | some w => exact ih

/-! ## Where a way can go -/

theorem child_of_isLeaf (h : v.isLeaf = true) : v.child step = none := by
  cases v with
  | arr items | obj fields =>
    rw [List.isEmpty_iff.mp h]
    cases step <;> simp [child]
  | _ => rfl

theorem get?_of_isLeaf (h : v.isLeaf = true) (hstep : steps ≠ []) : v.get? steps = none := by
  cases steps with
  | nil => exact absurd rfl hstep
  | cons step steps => rw [get?_cons, child_of_isLeaf h, Option.bind_none]

@[simp] theorem get?_str {s : String} : (str s).get? (step :: steps) = none :=
  get?_of_isLeaf rfl (List.cons_ne_nil _ _)

theorem exists_leaf (v : Json) : ∃ steps w, v.get? steps = some w ∧ w.isLeaf = true := by
  induction v using Json.induction with
  | leaf v harr hobj =>
    refine ⟨[], v, get?_nil, ?_⟩
    cases v with
    | arr items => exact absurd rfl (harr items)
    | obj fields => exact absurd rfl (hobj fields)
    | _ => rfl
  | arr items ih =>
    cases items with
    | nil => exact ⟨[], _, get?_nil, rfl⟩
    | cons item items =>
      obtain ⟨steps, w, hget, hleaf⟩ := ih item List.mem_cons_self
      exact ⟨.index 0 :: steps, w, hget, hleaf⟩
  | obj fields ih =>
    cases fields with
    | nil => exact ⟨[], _, get?_nil, rfl⟩
    | cons field fields =>
      obtain ⟨name, inner⟩ := field
      obtain ⟨steps, w, hget, hleaf⟩ := ih (name, inner) List.mem_cons_self
      refine ⟨.key name :: steps, w, ?_, hleaf⟩
      rw [get?_key, List.lookup_cons_self]
      exact hget

end Rhythm.Json
