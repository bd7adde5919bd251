import Mathlib.Data.List.Sort
import Rhythm.Json
import Rhythm.Text

/-!
# Rhythm.Unmarshal

`json.Unmarshal`, from the syntax tree of a text on.  A decoder reads a value into a
variable that has a value already: `null` leaves numbers, texts, flags and records
alone, and a member that an object repeats is decoded into what the first one left.
A member belongs to the field of its name, or else to one whose name differs by
letter case alone.

A decoder fails when it meets a value of another type; Go goes on to the end then, but
reports the error.  `strconv.ParseFloat` is a parameter.  This module names nothing
of the component.
-/

namespace Rhythm

/-- A JSON text: number literals as they are written, members in order, repeated ones included. -/
inductive JsonText where
  | null
  | bool (value : Bool)
  | num (literal : String)
  | str (value : String)
  | arr (items : List JsonText)
  | obj (members : List (String × JsonText))

/-- Reads a text into a variable; `none` is a type error. -/
abbrev Decoder (σ : Type) := JsonText → σ → Option σ

namespace Unmarshal

/-! ## Maps and interfaces -/

def setKey {α : Type} (fields : List (String × α)) (key : String) (value : α) :
    List (String × α) :=
  if (fields.lookup key).isSome then
    fields.map fun field => if field.1 = key then (key, value) else field
  else fields ++ [(key, value)]

variable {α : Type} {key : String}

theorem mem_setKey {fields : List (String × α)} {value : α}
    {field : String × α} (h : field ∈ setKey fields key value) :
    field = (key, value) ∨ field ∈ fields := by
  grind [setKey, List.mem_singleton]

theorem lookup_filter_key (entries : List (String × α)) (p : String → Bool)
    (key : String) : (entries.filter fun entry => p entry.1).lookup key =
      if p key = true then entries.lookup key else none := by
  induction entries with
  | nil => simp
  | cons entry entries ih =>
    grind

variable {entries : List (String × α)}

theorem mem_of_lookup {value : α}
    (h : entries.lookup key = some value) : (key, value) ∈ entries := by
  obtain ⟨before, after, rfl, -⟩ := List.lookup_eq_some_iff.mp h
  simp

theorem lookup_of_mem {value : α}
    (hnodup : (entries.map Prod.fst).Nodup) (hmem : (key, value) ∈ entries) :
    entries.lookup key = some value := by
  induction entries with
  | nil => cases hmem
  | cons entry entries ih =>
    grind

theorem lookup_setKey (fields : List (String × α)) (key key' : String) (value : α) :
    (setKey fields key value).lookup key' =
      if key' = key then some value else fields.lookup key' := by
  have hkeys : ∀ field ∈ fields, (if field.1 = key then (key, value) else field).1 = field.1 := by
    intro field _
    split
    · rename_i h
      exact h.symm
    · rfl
  unfold setKey
  by_cases hkey : key' = key
  · subst hkey
    rw [if_pos rfl]
    split
    · rename_i hold
      obtain ⟨old, hlookup⟩ := Option.isSome_iff_exists.mp hold
      rw [lookup_map (g := fun _ => value) hkeys fun _ => by rw [if_pos rfl], hlookup,
        Option.map_some]
    · rename_i hnew
      rw [lookup_append, Option.not_isSome_iff_eq_none.mp hnew]
      simp
  · rw [if_neg hkey]
    split
    · rw [lookup_map (g := id) hkeys fun _ => by rw [if_neg hkey]; rfl, Option.map_id_fun, id]
    · have hne : (key' == key) = false := by simp [hkey]
      rw [lookup_append, List.lookup_cons, hne, List.lookup_nil, Option.or_none]

section Any

variable (parseFloat : String → Option Rat)

mutual
/-- Into an `any`. -/
def decodeAny : JsonText → Option Json
  | .null => some .null
  | .bool value => some (.bool value)
  | .num literal => (parseFloat literal).map .num
  | .str value => some (.str value)
  | .arr items => (decodeItems items).map .arr
  | .obj members => (decodeMembers members []).map .obj

def decodeItems : List JsonText → Option (List Json)
  | [] => some []
  | item :: items => do return (← decodeAny item) :: (← decodeItems items)

def decodeMembers : List (String × JsonText) → List (String × Json) → Option (List (String × Json))
  | [], fields => some fields
  | (key, member) :: members, fields => do
    decodeMembers members (setKey fields key (← decodeAny member))
end

/-- Into a `map[string]any`; `none` is the nil map. -/
def map : Decoder (Option (List (String × Json)))
  | .null, _ => some none
  | .obj members, fields => (decodeMembers parseFloat members (fields.getD [])).map some
  | _, _ => none

/-- Into an `any`: the value that was there is dropped. -/
def any : Decoder Json := fun text _ => decodeAny parseFloat text

end Any

/-! ## Numbers, texts and flags -/

def digitsValue (digits : List Char) : Option Nat :=
  if digits ≠ [] ∧ digits.all Char.isDigit then some (Nat.ofDigitChars 10 digits 0) else none

/-- `strconv.ParseInt(literal, 10, 64)`. -/
def parseInt64 (literal : String) : Option Int := do
  let value : Int ←
    match literal.toList with
    | '-' :: digits => (digitsValue digits).map fun n => -(n : Int)
    | digits => (digitsValue digits).map fun n => (n : Int)
  if -9223372036854775808 ≤ value ∧ value ≤ 9223372036854775807 then some value else none

def int64 : Decoder Int
  | .null, value => some value
  | .num literal, _ => parseInt64 literal
  | _, _ => none

def bool : Decoder Bool
  | .null, value => some value
  | .bool value, _ => some value
  | _, _ => none

def string : Decoder String
  | .null, value => some value
  | .str value, _ => some value
  | _, _ => none

def pointer {α : Type} (decoder : Decoder α) (zero : α) : Decoder (Option α)
  | .null, _ => some none
  | text, value => (decoder text (value.getD zero)).map some

/-- Into a `json.RawMessage`; `none` is the empty one. -/
def rawMessage : Decoder (Option JsonText) := fun text _ => some (some text)

/-! ## Records and slices -/

/-- The items of an array, each into the element that is there, or else into a zero value. -/
def sliceItems {α : Type} (item : Decoder α) (zero : α) : List JsonText → List α →
    Option (List α)
  | [], _ => some []
  | text :: texts, values => do
    return (← item text (values.headD zero)) :: (← sliceItems item zero texts values.tail)

def slice {α : Type} (item : Decoder α) (zero : α) : Decoder (List α)
  | .null, _ => some []
  | .arr items, values => sliceItems item zero items values
  | _, _ => none

def field {σ α : Type} (name : String) (get : σ → α) (set : α → σ → σ) (decoder : Decoder α) :
    String × Decoder σ :=
  (name, fun text value => (decoder text (get value)).map fun new => set new value)

def unkept {σ α : Type} (name : String) (zero : α) (decoder : Decoder α) : String × Decoder σ :=
  (name, fun text value => (decoder text zero).map fun _ => value)

def fieldOf {σ : Type} (fields : List (String × Decoder σ)) (key : String) :
    Option (String × Decoder σ) :=
  (fields.find? fun field => field.1 = key).or
    (fields.find? fun field => Text.equalFold field.1 key)

/-- The members of an object, into a record; members without a field are skipped. -/
def structMembers {σ : Type} (fields : List (String × Decoder σ)) :
    List (String × JsonText) → σ → Option σ
  | [], value => some value
  | (key, member) :: members, value => do
    structMembers fields members
      (← match fieldOf fields key with
        | none => some value
        | some field => field.2 member value)

def struct {σ : Type} (fields : List (String × Decoder σ)) : Decoder σ
  | .null, value => some value
  | .obj members, value => structMembers fields members value
  | _, _ => none

/-! ## Reading decoded values -/

/-- `fields[key]`: a member that is missing is `nil`. -/
def member (fields : List (String × Json)) (key : String) : Json :=
  (fields.lookup key).getD .null

section Sprint

variable (formatFloat : Rat → String)

mutual
/-- `fmt.Sprint`. -/
def sprint : Json → String
  | .null => "<nil>"
  | .bool true => "true"
  | .bool false => "false"
  | .num value => formatFloat value
  | .str value => value
  | .arr items => "[" ++ Text.join ' ' (sprintItems items) ++ "]"
  | .obj fields =>
    let sorted := (sprintFields fields).insertionSort fun a b => a.1 ≤ b.1
    "map[" ++ Text.join ' ' (sorted.map fun field => field.1 ++ ":" ++ field.2) ++ "]"

def sprintItems : List Json → List String
  | [] => []
  | item :: items => sprint item :: sprintItems items

def sprintFields : List (String × Json) → List (String × String)
  | [] => []
  | (key, value) :: fields => (key, sprint value) :: sprintFields fields
end

end Sprint

end Unmarshal

end Rhythm
