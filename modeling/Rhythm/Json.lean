import Mathlib.Data.Bool.Basic
import Mathlib.Data.List.Basic

/-!
# Rhythm.Json

JSON values as a decoder hands them to a program, and the question whether some
object inside a value, at any depth, has a key with a given property.  This
module names nothing of the component.

`Json.Inside` says what "at any depth" means; `Json.mentions` decides it, one
equation for each kind of value, and `Json.mentions_iff` connects the two.
-/

namespace Rhythm

/-- A decoded value.  An object lists its members in the order in which they are
visited. -/
inductive Json where
  | null
  | bool (value : Bool)
  | num (value : Rat)
  | str (value : String)
  | arr (items : List Json)
  | obj (fields : List (String × Json))

/-! ## Members of an object -/

section Members

variable {α β : Type} {key key' : String} {fields fields' : List (String × α)}

theorem lookup_append : (fields ++ fields').lookup key =
    (fields.lookup key).or (fields'.lookup key) := by
  grind

theorem lookup_filter {p : String → Bool} :
    (fields.filter fun field => p field.1).lookup key =
      if p key then fields.lookup key else none := by
  induction fields with
  | nil => simp
  | cons field fields ih =>
    grind

theorem lookup_map {f : String × α → String × β} {g : α → β}
    (hkeys : ∀ field ∈ fields, (f field).1 = field.1)
    (hvalue : ∀ value, (f (key, value)).2 = g value) :
    (fields.map f).lookup key = (fields.lookup key).map g := by
  induction fields with
  | nil => rfl
  | cons field fields ih =>
    grind

end Members

namespace Json

/-- **Induction on a value**, through the items of its arrays and the members of its objects. -/
theorem induction {motive : Json → Prop}
    (leaf : ∀ v : Json, (∀ items, v ≠ .arr items) → (∀ fields, v ≠ .obj fields) → motive v)
    (arr : ∀ items, (∀ item ∈ items, motive item) → motive (.arr items))
    (obj : ∀ fields, (∀ field ∈ fields, motive field.2) → motive (.obj fields)) (v : Json) :
    motive v := by
  refine @Json.rec motive (fun items => ∀ item ∈ items, motive item)
    (fun fields => ∀ field ∈ fields, motive field.2) (fun field => motive field.2)
    (leaf _ ?_ ?_) (fun b => leaf _ ?_ ?_) (fun n => leaf _ ?_ ?_) (fun s => leaf _ ?_ ?_)
    arr obj ?_ ?_ ?_ ?_ (fun _ _ h => h) v
  case refine_9 | refine_11 => exact List.forall_mem_nil _
  case refine_10 | refine_12 =>
    intro head tail hhead htail
    exact List.forall_mem_cons.mpr ⟨hhead, htail⟩
  all_goals
    intro _ h
    cases h

/-! ## Parts of a value -/

def fields? : Json → Option (List (String × Json))
  | .obj fields => some fields
  | _ => none

def items? : Json → Option (List Json)
  | .arr items => some items
  | _ => none

/-- `w` is `v`, or lies inside it. -/
inductive Inside (w : Json) : Json → Prop
  | refl : Inside w w
  | item {items : List Json} {v : Json} (hmem : v ∈ items) (h : Inside w v) :
      Inside w (.arr items)
  | field {fields : List (String × Json)} {key : String} {v : Json}
      (hmem : (key, v) ∈ fields) (h : Inside w v) : Inside w (.obj fields)

/-! ## Equality -/

mutual
def beq : Json → Json → Bool
  | .null, .null => true
  | .bool b, .bool b' => b = b'
  | .num n, .num n' => n = n'
  | .str s, .str s' => s = s'
  | .arr items, .arr items' => beqItems items items'
  | .obj fields, .obj fields' => beqFields fields fields'
  | _, _ => false

def beqItems : List Json → List Json → Bool
  | [], [] => true
  | v :: items, w :: items' => beq v w && beqItems items items'
  | _, _ => false

def beqFields : List (String × Json) → List (String × Json) → Bool
  | [], [] => true
  | (key, v) :: fields, (key', w) :: fields' => key = key' && (beq v w && beqFields fields fields')
  | _, _ => false
end

mutual
theorem beq_iff : ∀ v w : Json, v.beq w = true ↔ v = w
  | .null, w | .bool _, w | .num _, w | .str _, w => by cases w <;> simp [beq]
  | .arr items, w => by
    cases w with
    | arr items' => simp [beq, beqItems_iff items items']
    | _ => simp [beq]
  | .obj fields, w => by
    cases w with
    | obj fields' => simp [beq, beqFields_iff fields fields']
    | _ => simp [beq]

theorem beqItems_iff : ∀ items items' : List Json, beqItems items items' = true ↔ items = items'
  | [], items' => by cases items' <;> simp [beqItems]
  | v :: items, items' => by
    cases items' with
    | nil => simp [beqItems]
    | cons w items' => simp [beqItems, beq_iff v w, beqItems_iff items items']

theorem beqFields_iff : ∀ fields fields' : List (String × Json),
    beqFields fields fields' = true ↔ fields = fields'
  | [], fields' => by cases fields' <;> simp [beqFields]
  | (key, v) :: fields, fields' => by
    cases fields' with
    | nil => simp [beqFields]
    | cons field fields' =>
      obtain ⟨key', w⟩ := field
      simp [beqFields, beq_iff v w, beqFields_iff fields fields', and_assoc]
end

instance : DecidableEq Json := fun v w => decidable_of_iff _ (beq_iff v w)

/-! ## Keys at any depth -/

variable (p : String → Bool)

mutual
/-- Some object inside the value has a key with `p`. -/
def mentions : Json → Bool
  | .arr items => mentionsItems items
  | .obj fields => mentionsFields fields
  | _ => false

def mentionsItems : List Json → Bool
  | [] => false
  | v :: items => mentions v || mentionsItems items

def mentionsFields : List (String × Json) → Bool
  | [] => false
  | (key, v) :: fields => p key || mentions v || mentionsFields fields
end

variable {p}

mutual
theorem exists_of_mentions : ∀ v : Json, v.mentions p = true →
    ∃ fields, Inside (.obj fields) v ∧ ∃ field ∈ fields, p field.1 = true
  | .null, h | .bool _, h | .num _, h | .str _, h => by simp [mentions] at h
  | .arr items, h => by
    obtain ⟨v, hv, fields, hinside, hfield⟩ := exists_of_mentionsItems items h
    exact ⟨fields, .item hv hinside, hfield⟩
  | .obj fields, h => by
    cases exists_of_mentionsFields fields h with
    | inl hfield => exact ⟨fields, .refl, hfield⟩
    | inr hchild =>
      obtain ⟨key, v, hv, inner, hinside, hfield⟩ := hchild
      exact ⟨inner, .field hv hinside, hfield⟩

theorem exists_of_mentionsItems : ∀ items : List Json, mentionsItems p items = true →
    ∃ v ∈ items, ∃ fields, Inside (.obj fields) v ∧ ∃ field ∈ fields, p field.1 = true
  | [], h => by simp [mentionsItems] at h
  | v :: items, h => by
    rw [mentionsItems, Bool.or_eq_true] at h
    cases h with
    | inl h => exact ⟨v, List.mem_cons_self, exists_of_mentions v h⟩
    | inr h =>
      obtain ⟨w, hw, hinside⟩ := exists_of_mentionsItems items h
      exact ⟨w, List.mem_cons_of_mem v hw, hinside⟩

theorem exists_of_mentionsFields : ∀ fields : List (String × Json),
    mentionsFields p fields = true →
      (∃ field ∈ fields, p field.1 = true) ∨
        ∃ key v, (key, v) ∈ fields ∧
          ∃ inner, Inside (.obj inner) v ∧ ∃ field ∈ inner, p field.1 = true
  | [], h => by simp [mentionsFields] at h
  | (key, v) :: fields, h => by
    rw [mentionsFields, Bool.or_eq_true, Bool.or_eq_true] at h
    obtain (hkey | hv) | hrest := h
    · exact .inl ⟨(key, v), List.mem_cons_self, hkey⟩
    · exact .inr ⟨key, v, List.mem_cons_self, exists_of_mentions v hv⟩
    · cases exists_of_mentionsFields fields hrest with
      | inl hfield =>
        obtain ⟨field, hmem, hp⟩ := hfield
        exact .inl ⟨field, List.mem_cons_of_mem _ hmem, hp⟩
      | inr hchild =>
        obtain ⟨key', v', hmem, hinside⟩ := hchild
        exact .inr ⟨key', v', List.mem_cons_of_mem _ hmem, hinside⟩
end

theorem mentionsItems_of_mem {items : List Json} {v : Json} (hmem : v ∈ items)
    (h : v.mentions p = true) : mentionsItems p items = true := by
  induction items with
  | nil => simp at hmem
  | cons w items ih =>
    rw [mentionsItems, Bool.or_eq_true]
    obtain rfl | hmem := List.mem_cons.mp hmem
    · exact .inl h
    · exact .inr (ih hmem)

theorem mentionsFields_of_mem {fields : List (String × Json)} {key : String} {v : Json}
    (hmem : (key, v) ∈ fields) (h : p key = true ∨ v.mentions p = true) :
    mentionsFields p fields = true := by
  induction fields with
  | nil => simp at hmem
  | cons field fields ih =>
    grind [mentionsFields]

/-- **Keys at any depth.**  `mentions` finds a key with `p` exactly when some object inside
the value has one. -/
theorem mentions_iff {v : Json} : v.mentions p = true ↔
    ∃ fields, Inside (.obj fields) v ∧ ∃ field ∈ fields, p field.1 = true := by
  constructor
  · exact exists_of_mentions v
  · rintro ⟨fields, hinside, ⟨key, child⟩, hmem, hp⟩
    induction hinside with
    | refl => exact mentionsFields_of_mem hmem (.inl hp)
    | item hv _ ih => exact mentionsItems_of_mem hv ih
    | field hv _ ih => exact mentionsFields_of_mem hv (.inr ih)

end Json

end Rhythm
