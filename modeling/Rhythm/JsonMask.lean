import Rhythm.JsonPath

/-!
# Rhythm.JsonMask

A walk over a decoded value that replaces some members of its objects by a mark and cuts its arrays.
Whether a member is replaced depends on its key and on the path of its object, which grows with the
keys on the way and not with the indices.  This module names nothing of the component.

* `exactly_value` — what is masked, and that the rest is kept, position by position;
* `value_eq_of_agree` — what lies below a masked member does not show in the result.
-/

namespace Rhythm.Json

/-- Which members are masked, by what, and how many items of an array stay. -/
structure Mask where
  /-- The member with this key, in an object at this path. -/
  hides : String → String → Bool
  /-- The path of the member with this key, in an object at this path. -/
  below : String → String → String
  mark : Json
  limit : Nat

namespace Mask

variable (m : Mask)

/-! ## The walk -/

mutual
def value : String → Json → Json
  | path, .obj fields => .obj (valueFields path fields)
  | path, .arr items => .arr (valueItems path m.limit items)
  | _, v => v

/-- The first `n` items. -/
def valueItems : String → Nat → List Json → List Json
  | _, _, [] => []
  | _, 0, _ :: _ => []
  | path, n + 1, item :: items => value path item :: valueItems path n items

def valueFields : String → List (String × Json) → List (String × Json)
  | _, [] => []
  | path, (key, item) :: fields =>
    (key, if m.hides path key then m.mark else value (m.below path key) item) ::
      valueFields path fields
end

/-! ## Ways -/

/-- The way from `path` passes no masked member and no item that is cut. -/
def clear : String → List Step → Bool
  | _, [] => true
  | path, .key name :: steps => !m.hides path name && clear (m.below path name) steps
  | path, .index i :: steps => i < m.limit && clear path steps

def along : String → List Step → String
  | path, [] => path
  | path, .key name :: steps => along (m.below path name) steps
  | path, .index _ :: steps => along path steps

/-- What becomes of a value that is not masked itself: the keys of an object stay, the items of an
array up to the limit, and a leaf as it is. -/
def Keeps : Json → Json → Prop
  | .obj fields, w => ∃ fields', w = .obj fields' ∧ fields'.map Prod.fst = fields.map Prod.fst
  | .arr items, w => ∃ items', w = .arr items' ∧ items'.length = min m.limit items.length
  | v, w => w = v

/-- Exactly the members that are to be masked are masked. -/
structure Exactly (path : String) (v result : Json) : Prop where
  masked : ∀ before name, m.clear path before = true →
    m.hides (m.along path before) name = true →
      result.get? (before ++ [.key name]) =
        (v.get? (before ++ [.key name])).map fun _ => m.mark
  kept : ∀ steps part, m.clear path steps = true → v.get? steps = some part →
    ∃ part', result.get? steps = some part' ∧ m.Keeps part part'

/-! ## Two values -/

mutual
def Agree : String → Json → Json → Prop
  | path, .obj fields, w => ∃ fields', w = .obj fields' ∧ AgreeFields path fields fields'
  | path, .arr items, w => ∃ items', w = .arr items' ∧ AgreeItems path items items'
  | _, v, w => w = v

def AgreeItems : String → List Json → List Json → Prop
  | _, [], items' => items' = []
  | path, item :: items, items' =>
    ∃ item' rest, items' = item' :: rest ∧ Agree path item item' ∧ AgreeItems path items rest

def AgreeFields : String → List (String × Json) → List (String × Json) → Prop
  | _, [], fields' => fields' = []
  | path, (key, item) :: fields, fields' =>
    ∃ item' rest, fields' = (key, item') :: rest ∧
      (m.hides path key = true ∨ Agree (m.below path key) item item') ∧
      AgreeFields path fields rest
end

variable {m} {path name : String} {fields fields' : List (String × Json)} {items items' : List Json}
  {v w part : Json} {steps before : List Step} {n i : Nat}

/-! ## The walk at a position -/

theorem valueFields_eq_map : m.valueFields path fields =
    fields.map fun field => (field.1, if m.hides path field.1 then m.mark
      else m.value (m.below path field.1) field.2) := by
  induction fields with
  | nil => rfl
  | cons field fields ih =>
    obtain ⟨key, item⟩ := field
    rw [valueFields, ih, List.map_cons]

theorem valueItems_eq_map : m.valueItems path n items = (items.take n).map (m.value path) := by
  induction items generalizing n with
  | nil => simp [valueItems]
  | cons item items ih =>
    cases n with
    | zero => rfl
    | succ n => rw [valueItems, ih, List.take_succ_cons, List.map_cons]

theorem value_obj : m.value path (.obj fields) = .obj (m.valueFields path fields) := by
  rw [value]

theorem value_arr : m.value path (.arr items) =
    .arr ((items.take m.limit).map (m.value path)) := by
  rw [value, valueItems_eq_map]

theorem lookup_valueFields : (m.valueFields path fields).lookup name =
    (fields.lookup name).map fun item =>
      if m.hides path name then m.mark else m.value (m.below path name) item := by
  rw [valueFields_eq_map]
  exact lookup_map (fun _ _ => rfl) fun _ => rfl

theorem get?_value_key : (m.value path v).get? (.key name :: steps) =
    (v.child (.key name)).bind fun item =>
      (if m.hides path name then m.mark else m.value (m.below path name) item).get? steps := by
  cases v with
  | obj fields => rw [value_obj, get?_key, lookup_valueFields, Option.bind_map]; rfl
  | arr items => rw [value_arr]; rfl
  | _ => simp [value, get?, child]

theorem get?_value_index (h : i < m.limit) : (m.value path v).get? (.index i :: steps) =
    (v.child (.index i)).bind fun item => (m.value path item).get? steps := by
  cases v with
  | obj fields => rw [value_obj]; rfl
  | arr items =>
    rw [value_arr, get?_index, List.getElem?_map, List.getElem?_take_of_lt h, Option.bind_map]
    rfl
  | _ => simp [value, get?, child]

/-- **On a clear way**, what is found is the masked value of what was there. -/
theorem get?_value (h : m.clear path steps = true) :
    (m.value path v).get? steps = (v.get? steps).map (m.value (m.along path steps)) := by
  induction steps generalizing path v with
  | nil => rw [get?_nil, get?_nil]; rfl
  | cons step steps ih =>
    cases step with
    | key name =>
      rw [clear, Bool.and_eq_true, Bool.not_eq_true'] at h
      rw [get?_value_key, get?_cons, h.1, Option.map_bind]
      simp only [Bool.false_eq_true, if_false]
      exact congrArg _ (funext fun item => ih h.2)
    | index i =>
      rw [clear, Bool.and_eq_true, decide_eq_true_eq] at h
      rw [get?_value_index h.1, get?_cons, Option.map_bind]
      exact congrArg _ (funext fun item => ih h.2)

theorem get?_value_hidden (h : m.clear path before = true)
    (hhides : m.hides (m.along path before) name = true) :
    (m.value path v).get? (before ++ [.key name]) =
      (v.get? (before ++ [.key name])).map fun _ => m.mark := by
  rw [get?_append, get?_append, get?_value h, Option.bind_map, Option.map_bind]
  refine congrArg _ (funext fun item => ?_)
  dsimp only [Function.comp_apply]
  rw [get?_value_key, hhides, get?_cons]
  cases item.child (.key name) <;> simp

theorem keeps_value : m.Keeps v (m.value path v) := by
  cases v with
  | obj fields =>
    refine ⟨_, value_obj, ?_⟩
    rw [valueFields_eq_map, List.map_map]
    rfl
  | arr items => exact ⟨_, value_arr, by rw [List.length_map, List.length_take]⟩
  | _ => simp [Keeps, value]

/-- **What is masked, and that the rest is kept.** -/
theorem exactly_value : m.Exactly path v (m.value path v) where
  masked _ _ hclear hhides := get?_value_hidden hclear hhides
  kept steps part hclear hpart :=
    ⟨m.value (m.along path steps) part, by rw [get?_value hclear, hpart]; rfl, keeps_value⟩

/-! ## Secrecy -/

theorem agreeFields_cons_iff {item item' : Json} {key key' : String} :
    m.AgreeFields path ((key, item) :: fields) ((key', item') :: fields') ↔
      key' = key ∧ (m.hides path key = true ∨ m.Agree (m.below path key) item item') ∧
        m.AgreeFields path fields fields' := by
  constructor
  · rintro ⟨_, _, heq, hitem, hrest⟩
    cases heq
    exact ⟨rfl, hitem, hrest⟩
  · rintro ⟨rfl, hitem, hrest⟩
    exact ⟨item', fields', rfl, hitem, hrest⟩

theorem eq_of_agreeItems_str : ∀ {texts texts' : List String},
    m.AgreeItems path (texts.map .str) (texts'.map .str) → texts' = texts
  | [], _, h => List.map_eq_nil_iff.mp h
  | text :: texts, texts', h => by
    obtain ⟨item', rest, heq, hitem, hrest⟩ := h
    cases texts' with
    | nil => cases heq
    | cons text' texts' =>
      cases heq
      obtain rfl := Json.str.inj hitem
      rw [eq_of_agreeItems_str hrest]

mutual
/-- **What lies below a masked member does not show.** -/
theorem value_eq_of_agree : ∀ (path : String) (v w : Json), m.Agree path v w →
    m.value path v = m.value path w
  | path, .obj fields, w, h => by
    obtain ⟨fields', rfl, hfields⟩ := h
    rw [value, value, valueFields_eq_of_agree path fields fields' hfields]
  | path, .arr items, w, h => by
    obtain ⟨items', rfl, hitems⟩ := h
    rw [value, value, valueItems_eq_of_agree path m.limit items items' hitems]
  | _, .null, w, h | _, .bool _, w, h | _, .num _, w, h | _, .str _, w, h => by
    obtain rfl : w = _ := h
    rfl

theorem valueItems_eq_of_agree : ∀ (path : String) (n : Nat) (items items' : List Json),
    m.AgreeItems path items items' → m.valueItems path n items = m.valueItems path n items'
  | _, _, [], items', h => by
    obtain rfl : items' = [] := h
    rfl
  | path, n, item :: items, _, h => by
    obtain ⟨item', rest, rfl, hitem, hrest⟩ := h
    cases n with
    | zero => rfl
    | succ n =>
      rw [valueItems, valueItems, value_eq_of_agree path item item' hitem,
        valueItems_eq_of_agree path n items rest hrest]

theorem valueFields_eq_of_agree : ∀ (path : String) (fields fields' : List (String × Json)),
    m.AgreeFields path fields fields' → m.valueFields path fields = m.valueFields path fields'
  | _, [], fields', h => by
    obtain rfl : fields' = [] := h
    rfl
  | path, (key, item) :: fields, _, h => by
    obtain ⟨item', rest, rfl, hitem, hrest⟩ := h
    rw [valueFields, valueFields, valueFields_eq_of_agree path fields rest hrest]
    obtain hhides | hagree := hitem
    · rw [if_pos hhides, if_pos hhides]
    · rw [value_eq_of_agree (m.below path key) item item' hagree]
end

end Mask

end Rhythm.Json
