import Rhythm.Elf.Masking
import Rhythm.JsonPath

/-!
# Rhythm.Elf.MaskedDepth

How deep does `maskDocument` reach?  It walks objects and the objects that are
items of an array; an array that is itself an item of an array is copied as it
is.  So a document is masked at every depth exactly when no such inner array holds
a member to mask.
-/

namespace Rhythm.Elf

open Text Json

/-! ## Positions to mask -/

section Positions

variable (matchString : String → String → Bool) (patterns : List String)

/-- A member below `start` is to be masked: for its name, or by a rule for its path. -/
def hides (start name : String) : Bool :=
  sensitiveKey name || ruleMatches matchString patterns (joinPath start name)

/-- The way from `start` passes a member that is to be masked. -/
def coveredWay : String → List Step → Bool
  | _, [] => false
  | start, .key name :: steps =>
    hides matchString patterns start name || coveredWay (joinPath start name) steps
  | start, .index _ :: steps => coveredWay start steps

/-- The way passes an array that is an item of an array; `inArray` when it starts at an item. -/
def nested : Bool → List Step → Bool
  | _, [] => false
  | _, .key _ :: steps => nested false steps
  | inArray, .index _ :: steps => inArray || nested true steps

/-- Every position that is to be masked is masked, and no other leaf has changed. -/
structure MaskedEverywhere (document result : List (String × Json)) : Prop where
  hidden : ∀ steps value, (obj result).get? steps = some value →
    coveredWay matchString patterns "" steps = true → value = .str "MASKED"
  kept : ∀ steps leaf, leaf.isLeaf = true → coveredWay matchString patterns "" steps = false →
    ((obj result).get? steps = some leaf ↔ (obj document).get? steps = some leaf)

/-- No array inside an array holds a member that is to be masked, unless its value is the mask
already or a member above it is masked. -/
def InnerArraysClear (document : List (String × Json)) : Prop :=
  ∀ steps name value, (obj document).get? (steps ++ [.key name]) = some value →
    coveredWay matchString patterns "" steps = false → nested false steps = true →
    hides matchString patterns (pathOf "" (keysOf steps)) name = true → value = .str "MASKED"

def maskItem (path : String) : Json → Json
  | .obj fields => .obj (maskDocumentAt matchString patterns path fields)
  | item => item

/-- What becomes of a value: of an item of an array, or of the value of a member. -/
def walked (inArray : Bool) (path : String) (value : Json) : Json :=
  if inArray then maskItem matchString patterns path value
  else maskValue matchString patterns path value

end Positions

variable {matchString : String → String → Bool} {patterns : List String} {path name : String}
  {fields document : List (String × Json)} {items : List Json} {value w leaf : Json}
  {inArray : Bool} {i : Nat} {steps rest : List Step}

theorem exists_of_covered (h : coveredWay matchString patterns path steps = true) :
    ∃ before name rest, steps = before ++ .key name :: rest ∧
      coveredWay matchString patterns path before = false ∧
      hides matchString patterns (pathOf path (keysOf before)) name = true := by
  induction steps generalizing path with
  | nil => cases h
  | cons step steps ih =>
    cases step with
    | index i =>
      obtain ⟨before, name, rest, rfl, hclear, hhides⟩ := ih h
      exact ⟨.index i :: before, name, rest, rfl, hclear, hhides⟩
    | key first =>
      cases hfirst : hides matchString patterns path first with
      | true => exact ⟨[], first, steps, rfl, rfl, hfirst⟩
      | false =>
        rw [coveredWay, hfirst, Bool.false_or] at h
        obtain ⟨before, name, rest, rfl, hclear, hhides⟩ := ih h
        refine ⟨.key first :: before, name, rest, rfl, ?_, hhides⟩
        rw [coveredWay, hfirst, Bool.false_or]
        exact hclear

theorem covered_of_hides
    (h : hides matchString patterns (pathOf path (keysOf steps)) name = true) :
    coveredWay matchString patterns path (steps ++ .key name :: rest) = true := by
  induction steps generalizing path with
  | nil =>
    rw [List.nil_append, coveredWay, Bool.or_eq_true]
    exact .inl h
  | cons step steps ih =>
    cases step with
    | index i => exact ih h
    | key first =>
      rw [List.cons_append, coveredWay, Bool.or_eq_true]
      exact .inr (ih h)

/-! ## The walk at a position -/

theorem maskItems_eq_map : maskItems matchString patterns path items =
    items.map (maskItem matchString patterns path) := by
  induction items with
  | nil => rfl
  | cons item items ih => cases item <;> simp [maskItems, maskItem, ih]

theorem walked_obj : walked matchString patterns inArray path (.obj fields) =
    .obj (maskDocumentAt matchString patterns path fields) := by
  cases inArray <;> simp [walked, maskItem, maskValue]

theorem walked_arr : walked matchString patterns false path (.arr items) =
    .arr (items.map (walked matchString patterns true path)) := by
  simp [walked, maskValue, maskItems_eq_map]

theorem walked_of_isLeaf (h : leaf.isLeaf = true) :
    walked matchString patterns inArray path leaf = leaf := by
  cases leaf with
  | arr items | obj fields =>
    rw [List.isEmpty_iff.mp h]
    cases inArray <;> rfl
  | _ => cases inArray <;> rfl

theorem walked_eq_leaf_iff (h : leaf.isLeaf = true) :
    walked matchString patterns inArray path value = leaf ↔ value = leaf := by
  constructor
  · rintro rfl
    cases value with
    | obj fields =>
      rw [walked_obj] at h ⊢
      cases fields with
      | nil => rfl
      | cons field fields => cases h
    | arr items =>
      cases inArray with
      | true => rfl
      | false =>
        rw [walked_arr] at h ⊢
        cases items with
        | nil => rfl
        | cons item items => cases h
    | _ => cases inArray <;> rfl
  · rintro rfl
    exact walked_of_isLeaf h

theorem get?_walked_key (hpath : sensitiveKey path = false) :
    (walked matchString patterns inArray path (.obj fields)).get? (.key name :: steps) =
      (fields.lookup name).bind fun value =>
        (if hides matchString patterns path name then .str "MASKED"
          else walked matchString patterns false (joinPath path name) value).get? steps := by
  rw [walked_obj, get?_key, lookup_maskDocumentAt, Option.bind_map, masked_joinPath hpath]
  rfl

theorem sensitiveKey_below (hpath : sensitiveKey path = false)
    (hclear : hides matchString patterns path name = false) :
    sensitiveKey (joinPath path name) = false := by
  rw [hides, Bool.or_eq_false_iff] at hclear
  rw [sensitiveKey_joinPath, hpath, hclear.1, Bool.or_false]

theorem sensitiveKey_pathOf (hpath : sensitiveKey path = false)
    (hclear : coveredWay matchString patterns path steps = false) :
    sensitiveKey (pathOf path (keysOf steps)) = false := by
  induction steps generalizing path with
  | nil => exact hpath
  | cons step steps ih =>
    cases step with
    | key first =>
      rw [coveredWay, Bool.or_eq_false_iff] at hclear
      exact ih (sensitiveKey_below hpath hclear.1) hclear.2
    | index i => exact ih hpath hclear

/-- The way ends at an item of an array; `inArray` when it starts at one. -/
def endsInArray : Bool → List Step → Bool
  | inArray, [] => inArray
  | _, .key _ :: steps => endsInArray false steps
  | _, .index _ :: steps => endsInArray true steps

/-- **The walk down a way that passes no member to be masked**: it goes on below, or has stopped
at an inner array. -/
theorem get?_walked (hpath : sensitiveKey path = false)
    (hclear : coveredWay matchString patterns path steps = false) :
    (walked matchString patterns inArray path value).get? steps =
      (value.get? steps).map fun inner =>
        if nested inArray steps then inner
        else walked matchString patterns (endsInArray inArray steps)
          (pathOf path (keysOf steps)) inner := by
  induction steps generalizing path inArray value with
  | nil => rfl
  | cons step steps ih =>
    cases step with
    | key name =>
      rw [coveredWay, Bool.or_eq_false_iff] at hclear
      cases value with
      | obj fields =>
        rw [get?_walked_key hpath, get?_key, hclear.1]
        cases fields.lookup name with
        | none => rfl
        | some inner =>
          simp only [Option.bind_some, Bool.false_eq_true, if_false]
          exact ih (sensitiveKey_below hpath hclear.1) hclear.2
      | _ => cases inArray <;> rfl
    | index i =>
      cases value with
      | arr items =>
        cases inArray with
        | true => exact Option.map_id'.symm
        | false =>
          rw [walked_arr, get?_index, get?_index, List.getElem?_map]
          cases items[i]? with
          | none => rfl
          | some item => exact ih hpath hclear
      | obj fields => rw [walked_obj]; rfl
      | _ => cases inArray <;> rfl

theorem get?_walked_leaf (hleaf : leaf.isLeaf = true) (hpath : sensitiveKey path = false)
    (hclear : coveredWay matchString patterns path steps = false) :
    (walked matchString patterns inArray path value).get? steps = some leaf ↔
      value.get? steps = some leaf := by
  rw [get?_walked hpath hclear]
  cases nested inArray steps with
  | true => simp
  | false => simp [walked_eq_leaf_iff hleaf]

theorem get?_walked_nested (hpath : sensitiveKey path = false)
    (hclear : coveredWay matchString patterns path steps = false)
    (hnested : nested inArray steps = true) :
    (walked matchString patterns inArray path value).get? (steps ++ rest) =
      value.get? (steps ++ rest) := by
  rw [get?_append, get?_walked hpath hclear, hnested, get?_append]
  simp

theorem get?_walked_masked (hpath : sensitiveKey path = false)
    (hclear : coveredWay matchString patterns path steps = false)
    (hnested : nested inArray steps = false)
    (hhides : hides matchString patterns (pathOf path (keysOf steps)) name = true)
    (hget : (walked matchString patterns inArray path value).get? (steps ++ .key name :: rest) =
      some w) : w = .str "MASKED" := by
  rw [get?_append, get?_walked hpath hclear, hnested, Option.bind_map] at hget
  obtain ⟨inner, -, hinner⟩ := Option.bind_eq_some_iff.mp hget
  simp only [Function.comp, Bool.false_eq_true, if_false] at hinner
  generalize endsInArray inArray steps = ends at hinner
  cases inner with
  | obj fields =>
    rw [get?_walked_key (sensitiveKey_pathOf hpath hclear), hhides] at hinner
    obtain ⟨inner, -, hmask⟩ := Option.bind_eq_some_iff.mp hinner
    cases rest with
    | nil => exact (Option.some.inj hmask).symm
    | cons step rest => cases hmask
  | _ => cases ends <;> cases hinner

/-! ## Every depth -/

/-- **A document is masked at every depth exactly when its inner arrays are clear.** -/
theorem maskedEverywhere_iff (matchString : String → String → Bool) (patterns : List String)
    (document : List (String × Json)) :
    MaskedEverywhere matchString patterns document
        (maskDocument matchString patterns document) ↔
      InnerArraysClear matchString patterns document := by
  have hroot : sensitiveKey "" = false := by decide
  have hresult : Json.obj (maskDocument matchString patterns document) =
      walked matchString patterns false "" (.obj document) := walked_obj.symm
  constructor
  · intro h steps name value hget hclear hnested hhides
    apply h.hidden (steps ++ [.key name]) value
    · rw [hresult, get?_walked_nested hroot hclear hnested]
      exact hget
    · exact covered_of_hides hhides
  · intro hinner
    constructor
    · intro steps value hget hcovered
      rw [hresult] at hget
      obtain ⟨before, name, rest, rfl, hclear, hhides⟩ := exists_of_covered hcovered
      cases hnested : nested false before with
      | false => exact get?_walked_masked hroot hclear hnested hhides hget
      | true =>
        rw [get?_walked_nested hroot hclear hnested, List.append_cons, get?_append] at hget
        obtain ⟨inner, hbefore, hrest⟩ := Option.bind_eq_some_iff.mp hget
        have hmask := hinner before name inner hbefore hclear hnested hhides
        rw [hmask] at hrest
        cases rest with
        | nil => exact (Option.some.inj hrest).symm
        | cons step rest => cases hrest
    · intro steps leaf hleaf hclear
      rw [hresult]
      exact get?_walked_leaf hleaf hroot hclear

/-- A password in an array inside an array is shown. -/
theorem inner_password_shown : ¬ MaskedEverywhere (fun _ _ => false) []
    [("rows", .arr [.arr [.obj [("password", .str "hunter2")]]])]
    (maskDocument (fun _ _ => false) []
      [("rows", .arr [.arr [.obj [("password", .str "hunter2")]]])]) := by
  intro h
  have hshown := h.hidden [.key "rows", .index 0, .index 0, .key "password"] (.str "hunter2")
    (by decide) (by decide)
  exact absurd hshown (by decide)

end Rhythm.Elf
