import Mathlib.Data.List.Forall2
import Rhythm.Unmarshal

/-!
# Rhythm.Shape

Which values does a decoder take?  The decoders of `Rhythm.Unmarshal` are typed, and whether one
takes a value depends on the value alone, not on what its variable holds.  A `Shape` says which
values these are, and `Takes` that a decoder takes just the values of a shape; there is one rule
for each way of building a decoder.

Values are written out before they are read again: `Json.encode` prints them, `NumberFormat` their
numbers.  This module names nothing of the component.
-/

namespace Rhythm

open Unmarshal

/-! ## Printing values -/

/-- How numbers are printed, and read again: a number is read as an integer when it is one and has
64 bits. -/
structure NumberFormat where
  format : Rat → String
  /-- `strconv.ParseFloat`. -/
  parseFloat : String → Option Rat
  parseInt64_format : ∀ x, parseInt64 (format x) =
    if x.den = 1 ∧ -9223372036854775808 ≤ x.num ∧ x.num ≤ 9223372036854775807 then some x.num
    else none
  parseFloat_format : ∀ x, (parseFloat (format x)).isSome = true

/-! ### Decimal integers -/

theorem digitsValue_toDigits (n : Nat) : digitsValue (Nat.toDigits 10 n) = some n := by
  have hall : (Nat.toDigits 10 n).all Char.isDigit = true :=
    List.all_eq_true.mpr fun c hc => Nat.isDigit_of_mem_toDigits (by decide) (by decide) hc
  rw [digitsValue, if_pos ⟨Nat.toDigits_ne_nil, hall⟩,
    Nat.ofDigitChars_toDigits (by decide) (by decide)]

def signedValue (literal : String) : Option Int :=
  match literal.toList with
  | '-' :: digits => (digitsValue digits).map fun n => -(n : Int)
  | digits => (digitsValue digits).map fun n => (n : Int)

theorem parseInt64_eq (literal : String) :
    parseInt64 literal = (signedValue literal).bind fun value =>
      if -9223372036854775808 ≤ value ∧ value ≤ 9223372036854775807 then some value else none := by
  unfold parseInt64 signedValue
  cases literal.toList with
  | nil => rfl
  | cons c digits => by_cases hc : c = '-' <;> simp [hc]

theorem signedValue_toString (x : Int) : signedValue (toString x) = some x := by
  cases x with
  | ofNat n =>
    have hlist : (toString (Int.ofNat n)).toList = Nat.toDigits 10 n := Nat.toList_repr
    unfold signedValue
    rw [hlist]
    split
    · rename_i digits h
      have hdigit : '-'.isDigit = true :=
        Nat.isDigit_of_mem_toDigits (b := 10) (n := n) (by decide) (by decide) (by simp [h])
      contradiction
    · rw [digitsValue_toDigits]
      rfl
  | negSucc n =>
    have hlist : (toString (Int.negSucc n)).toList = '-' :: Nat.toDigits 10 (n + 1) := by
      change ("-" ++ Nat.repr (n + 1)).toList = _
      rw [String.toList_append, Nat.toList_repr]
      rfl
    have hsplit : signedValue (toString (Int.negSucc n)) =
        (digitsValue (Nat.toDigits 10 (n + 1))).map fun n => -(n : Int) := by
      unfold signedValue
      rw [hlist]
      rfl
    rw [hsplit, digitsValue_toDigits]
    rfl

theorem parseInt64_toString (x : Int) : parseInt64 (toString x) =
    if -9223372036854775808 ≤ x ∧ x ≤ 9223372036854775807 then some x else none := by
  rw [parseInt64_eq, signedValue_toString, Option.bind_some]

theorem digitsValue_eq_none {digits : List Char} {c : Char} (hmem : c ∈ digits)
    (hc : c.isDigit = false) : digitsValue digits = none := by
  refine if_neg fun h => ?_
  rw [List.all_eq_true.mp h.2 c hmem] at hc
  contradiction

theorem parseInt64_eq_none {literal : String} (h : '/' ∈ literal.toList) :
    parseInt64 literal = none := by
  have hsigned : signedValue literal = none := by
    grind [signedValue, digitsValue_eq_none]
  rw [parseInt64_eq, hsigned, Option.bind_none]

def NumberFormat.decimal : NumberFormat where
  format x := if x.den = 1 then toString x.num else toString x.num ++ "/" ++ toString x.den
  parseFloat literal := some ((parseInt64 literal).getD 0 : Int)
  parseInt64_format x := by
    split
    · rename_i hden
      rw [parseInt64_toString]
      simp [hden]
    · rename_i hden
      rw [parseInt64_eq_none (by simp)]
      simp [hden]
  parseFloat_format x := rfl

section Encode

variable (numbers : NumberFormat)

mutual
/-- `json.Marshal` of a decoded value; an object has its members in the order of the value. -/
def Json.encode : Json → JsonText
  | .null => .null
  | .bool value => .bool value
  | .num value => .num (numbers.format value)
  | .str value => .str value
  | .arr items => .arr (Json.encodeItems items)
  | .obj members => .obj (Json.encodeMembers members)

def Json.encodeItems : List Json → List JsonText
  | [] => []
  | item :: items => Json.encode item :: Json.encodeItems items

def Json.encodeMembers : List (String × Json) → List (String × JsonText)
  | [] => []
  | (key, member) :: members => (key, Json.encode member) :: Json.encodeMembers members
end

end Encode

/-! ## More decoders -/

namespace Unmarshal

/-- Into a `float64`. -/
def float64 (parseFloat : String → Option Rat) : Decoder Rat
  | .null, value => some value
  | .num literal, _ => parseFloat literal
  | _, _ => none

def stringMembers : List (String × JsonText) → List (String × String) →
    Option (List (String × String))
  | [], fields => some fields
  | (key, member) :: members, fields => do
    stringMembers members (setKey fields key (← string member ""))

/-- Into a `map[string]string`; the nil map has no members. -/
def strings : Decoder (List (String × String))
  | .null, _ => some []
  | .obj members, fields => stringMembers members fields
  | _, _ => none

/-- The entry under a name, or else under one that differs from it by letter case alone. -/
def named {α : Type} (entries : List (String × α)) (key : String) : Option (String × α) :=
  (entries.find? fun entry => entry.1 = key).or
    (entries.find? fun entry => Text.equalFold entry.1 key)

theorem fieldOf_eq_named {σ : Type} (fields : List (String × Decoder σ)) (key : String) :
    fieldOf fields key = named fields key := rfl

end Unmarshal

/-! ## Shapes -/

/-- The values that a variable of some type is decoded from, besides `null`. -/
inductive Shape where
  | string | bool | int64 | float64
  /-- An object of texts. -/
  | strings
  | slice (item : Shape)
  | record (fields : List (String × Shape))

def Shape.fitsText : Json → Bool
  | .null | .str _ => true
  | _ => false

mutual
def Shape.fits : Shape → Json → Bool
  | _, .null => true
  | .string, .str _ => true
  | .bool, .bool _ => true
  | .int64, .num x =>
    x.den = 1 ∧ -9223372036854775808 ≤ x.num ∧ x.num ≤ 9223372036854775807
  | .float64, .num _ => true
  | .strings, .obj members => members.all fun member => Shape.fitsText member.2
  | .slice item, .arr items => Shape.fitsItems item items
  | .record fields, .obj members => Shape.fitsMembers fields members
  | _, _ => false

def Shape.fitsItems (shape : Shape) : List Json → Bool
  | [] => true
  | item :: items => shape.fits item && Shape.fitsItems shape items

/-- Every member that belongs to a field has the shape of that field. -/
def Shape.fitsMembers (fields : List (String × Shape)) : List (String × Json) → Bool
  | [] => true
  | (key, member) :: members =>
    (match named fields key with
    | none => true
    | some field => field.2.fits member) && Shape.fitsMembers fields members
end

/-! ## What decoders take -/

section Takes

variable {numbers : NumberFormat} {σ α : Type}

/-- The decoder takes the values of a shape, whatever the variable holds. -/
def Takes (numbers : NumberFormat) (decoder : Decoder σ) (shape : Shape) : Prop :=
  ∀ (v : Json) (value : σ), (decoder (v.encode numbers) value).isSome = shape.fits v

@[simp] theorem takes_string : Takes numbers string .string := by
  intro v value
  cases v <;> rfl

@[simp] theorem takes_bool : Takes numbers bool .bool := by
  intro v value
  cases v <;> rfl

@[simp] theorem takes_int64 : Takes numbers int64 .int64 := by
  intro v value
  cases v with
  | num x =>
    rw [Json.encode, int64, numbers.parseInt64_format, Shape.fits]
    split
    · rename_i h
      simp [h]
    · rename_i h
      simp [h]
  | _ => rfl

@[simp] theorem takes_float64 : Takes numbers (float64 numbers.parseFloat) .float64 := by
  intro v value
  cases v with
  | num x => exact numbers.parseFloat_format x
  | _ => rfl

theorem isSome_stringMembers (members : List (String × Json)) (fields : List (String × String)) :
    (stringMembers (Json.encodeMembers numbers members) fields).isSome =
      members.all fun member => Shape.fitsText member.2 := by
  induction members generalizing fields with
  | nil => rfl
  | cons member members ih =>
    obtain ⟨key, v⟩ := member
    rw [Json.encodeMembers, stringMembers, List.all_cons]
    cases v <;> simp [Json.encode, string, Shape.fitsText, ih]

@[simp] theorem takes_strings : Takes numbers strings .strings := by
  intro v value
  cases v with
  | obj members => exact isSome_stringMembers members value
  | _ => rfl

variable {shape : Shape} {decoder : Decoder α}

@[simp] theorem takes_pointer {zero : α}
    (h : Takes numbers decoder shape) : Takes numbers (pointer decoder zero) shape := by
  intro v value
  cases v with
  | null => rfl
  | _ => exact (Option.isSome_map ..).trans (h _ _)

theorem isSome_sliceItems {item : Decoder α} {zero : α}
    (h : Takes numbers item shape) (items : List Json) (values : List α) :
    (sliceItems item zero (Json.encodeItems numbers items) values).isSome =
      Shape.fitsItems shape items := by
  induction items generalizing values with
  | nil => rfl
  | cons v items ih =>
    rw [Json.encodeItems, sliceItems, Shape.fitsItems, ← h v (values.headD zero),
      ← ih values.tail]
    cases item (v.encode numbers) (values.headD zero) with
    | none => rfl
    | some first =>
      cases sliceItems item zero (Json.encodeItems numbers items) values.tail <;> rfl

@[simp] theorem takes_slice {item : Decoder α} {zero : α}
    (h : Takes numbers item shape) : Takes numbers (slice item zero) (.slice shape) := by
  intro v value
  cases v with
  | arr items => exact isSome_sliceItems h items value
  | null => rfl
  | _ => rfl

@[simp] theorem field_fst {name : String} {get : σ → α} {set : α → σ → σ} :
    (field name get set decoder).1 = name := rfl

@[simp] theorem takes_field {name : String} {get : σ → α} {set : α → σ → σ}
    (h : Takes numbers decoder shape) :
    Takes numbers (field name get set decoder).2 shape := by
  intro v value
  exact (Option.isSome_map ..).trans (h v (get value))

def FieldsTake (numbers : NumberFormat) (fields : List (String × Decoder σ))
    (shapes : List (String × Shape)) : Prop :=
  List.Forall₂ (fun field shape => field.1 = shape.1 ∧ Takes numbers field.2 shape.2) fields shapes

variable {fields : List (String × Decoder σ)} {shapes : List (String × Shape)}

theorem find?_forall₂ (h : FieldsTake numbers fields shapes) (p : String → Bool) :
    Option.Rel (fun field shape => field.1 = shape.1 ∧ Takes numbers field.2 shape.2)
      (fields.find? fun field => p field.1) (shapes.find? fun shape => p shape.1) := by
  induction h with
  | nil => exact .none
  | cons hhead _ ih =>
    rw [List.find?_cons, List.find?_cons, hhead.1]
    split
    · exact .some hhead
    · exact ih

theorem FieldsTake.named (h : FieldsTake numbers fields shapes) (key : String) :
    Option.Rel (fun field shape => field.1 = shape.1 ∧ Takes numbers field.2 shape.2)
      (Unmarshal.named fields key) (Unmarshal.named shapes key) := by
  have hexact := find?_forall₂ h fun name => name = key
  have hfold := find?_forall₂ h fun name => Text.equalFold name key
  rw [Unmarshal.named, Unmarshal.named]
  revert hexact
  generalize (fields.find? fun field => decide (field.1 = key)) = field
  generalize (shapes.find? fun shape => decide (shape.1 = key)) = shape
  intro hexact
  cases hexact with
  | none => exact hfold
  | some hsame => exact .some hsame

theorem isSome_structMembers
    (h : FieldsTake numbers fields shapes) (members : List (String × Json)) (value : σ) :
    (structMembers fields (Json.encodeMembers numbers members) value).isSome =
      Shape.fitsMembers shapes members := by
  induction members generalizing value with
  | nil => rfl
  | cons member members ih =>
    obtain ⟨key, v⟩ := member
    have hnamed := h.named key
    rw [Json.encodeMembers, structMembers, Shape.fitsMembers, fieldOf_eq_named]
    revert hnamed
    generalize Unmarshal.named fields key = field
    generalize Unmarshal.named shapes key = shape
    intro hnamed
    cases hnamed with
    | none => exact ih value
    | some hsame =>
      rename_i field shape
      dsimp only
      rw [← hsame.2 v value]
      cases field.2 (v.encode numbers) value with
      | none => rfl
      | some value' => exact ih value'

/-- **Records.**  A record is decoded when every member that belongs to a field has its shape. -/
theorem takes_struct (h : FieldsTake numbers fields shapes) :
    Takes numbers (Unmarshal.struct fields) (.record shapes) := by
  intro v value
  cases v with
  | obj members => exact isSome_structMembers h members value
  | _ => rfl

end Takes

/-! ## What decoders read -/

def readString : Json → String → String
  | .str value, _ => value
  | _, value => value

/-- The items of an array, each read over the element that is there. -/
def readItems {α : Type} (read : Json → α → α) (zero : α) : List Json → List α → List α
  | [], _ => []
  | item :: items, values => read item (values.headD zero) :: readItems read zero items values.tail

def readSlice {α : Type} (read : Json → α → α) (zero : α) : Json → List α → List α
  | .arr items, values => readItems read zero items values
  | _, _ => []

/-- The values of the members with a name, in any letter case. -/
def membersNamed {α : Type} (name : String) (members : List (String × α)) : List α :=
  (members.filter fun member => Text.equalFold name member.1).map Prod.snd

/-- One field of a record: each member of its name is read over what the one before has left. -/
def readField {α : Type} (name : String) (read : Json → α → α) : Json → α → α
  | .obj members, value => (membersNamed name members).foldl (fun value v => read v value) value
  | _, value => value

def FoldDistinct (names : List String) : Prop :=
  (names.map fun name => name.toList.map Text.foldRune).Nodup

instance : DecidablePred FoldDistinct := fun names =>
  inferInstanceAs (Decidable (names.map fun name => name.toList.map Text.foldRune).Nodup)

section Named

variable {α : Type} {entries : List (String × α)} {entry : String × α} {name key : String}

theorem equalFold_iff {s t : String} :
    Text.equalFold s t = true ↔ s.toList.map Text.foldRune = t.toList.map Text.foldRune := by
  rw [Text.equalFold, decide_eq_true_iff]

theorem of_named (h : named entries key = some entry) :
    entry ∈ entries ∧ Text.equalFold entry.1 key = true := by
  obtain hexact | ⟨-, hfold⟩ := Option.or_eq_some_iff.mp h
  · grind [List.mem_of_find?_eq_some, equalFold_iff]
  · exact ⟨List.mem_of_find?_eq_some hfold,
      List.find?_some (p := fun entry : String × α => Text.equalFold entry.1 key) hfold⟩

theorem eq_of_equalFold {names : List String} (h : FoldDistinct names) {name' : String}
    (hname : name ∈ names) (hname' : name' ∈ names) (hfold : Text.equalFold name name' = true) :
    name = name' :=
  List.inj_on_of_nodup_map h hname hname' (equalFold_iff.mp hfold)

theorem named_eq_iff (hdistinct : FoldDistinct (entries.map Prod.fst))
    (hname : name ∈ entries.map Prod.fst) (key : String) :
    (∃ entry, named entries key = some entry ∧ entry.1 = name) ↔
      Text.equalFold name key = true := by
  constructor
  · rintro ⟨entry, hentry, rfl⟩
    exact (of_named hentry).2
  · intro hfold
    obtain ⟨own, hown, rfl⟩ := List.mem_map.mp hname
    obtain ⟨entry, hentry⟩ : ∃ entry, named entries key = some entry := by
      rw [← Option.isSome_iff_exists, named, Option.isSome_or, Bool.or_eq_true]
      exact .inr (List.find?_isSome.mpr ⟨own, hown, hfold⟩)
    refine ⟨entry, hentry, ?_⟩
    obtain ⟨hmem, hkey⟩ := of_named hentry
    refine eq_of_equalFold hdistinct (List.mem_map_of_mem hmem) hname ?_
    rw [equalFold_iff] at hkey hfold ⊢
    rw [hkey, hfold]

end Named

section Reads

variable {numbers : NumberFormat} {σ α β : Type}

/-- What a decoder leaves in a part of its variable is read from the value and from what that part
held. -/
def Reads (numbers : NumberFormat) (decoder : Decoder σ) (get : σ → α) (read : Json → α → α) :
    Prop :=
  ∀ (v : Json) (value value' : σ), decoder (v.encode numbers) value = some value' →
    get value' = read v (get value)

theorem reads_string : Reads numbers string id readString := by
  intro v value value' h
  cases v <;> simp_all [Json.encode, string, readString]

variable {read : Json → α → α} {get : σ → α}

theorem Reads.prod {decoder : Decoder σ} {get' : σ → β}
    {read' : Json → β → β} (h : Reads numbers decoder get read)
    (h' : Reads numbers decoder get' read') :
    Reads numbers decoder (fun value => (get value, get' value))
      (fun v part => (read v part.1, read' v part.2)) := by
  intro v value value' hdecode
  exact Prod.ext (h v value value' hdecode) (h' v value value' hdecode)

theorem map_sliceItems {item : Decoder σ} {zero : σ}
    (h : Reads numbers item get read) {items : List Json} {values values' : List σ}
    (hdecode : sliceItems item zero (Json.encodeItems numbers items) values = some values') :
    values'.map get = readItems read (get zero) items (values.map get) := by
  induction items generalizing values values' with
  | nil =>
    obtain rfl : [] = values' := Option.some.inj hdecode
    rfl
  | cons v items ih =>
    rw [Json.encodeItems, sliceItems] at hdecode
    obtain ⟨first, hfirst, hdecode⟩ := Option.bind_eq_some_iff.mp hdecode
    obtain ⟨rest, hrest, hdecode⟩ := Option.bind_eq_some_iff.mp hdecode
    obtain rfl : first :: rest = values' := Option.some.inj hdecode
    rw [List.map_cons, readItems, h v _ first hfirst, ih hrest, List.map_tail]
    cases values <;> rfl

theorem reads_slice {item : Decoder σ} {zero : σ} (h : Reads numbers item get read) :
    Reads numbers (slice item zero) (List.map get) (readSlice read (get zero)) := by
  intro v value value' hdecode
  cases v with
  | arr items => exact map_sliceItems h hdecode
  | null =>
    obtain rfl : [] = value' := Option.some.inj hdecode
    rfl
  | _ => exact nomatch hdecode

def Keeps (field : String × Decoder σ) (get : σ → α) : Prop :=
  ∀ text value value', field.2 text value = some value' → get value' = get value

variable {name : String} {decoder : Decoder β}

@[simp] theorem keeps_field {get : σ → β} {set : β → σ → σ}
    {get' : σ → α} (hset : ∀ new value, get' (set new value) = get' value) :
    Keeps (field name get set decoder) get' := by
  intro text value value' h
  obtain ⟨new, -, rfl⟩ := Option.map_eq_some_iff.mp h
  exact hset new value

/-- A part of a record that one field writes, through a decoder of its own. -/
structure Owns (fields : List (String × Decoder σ)) (name : String) (get : σ → α)
    (decoder : Decoder α) : Prop where
  mem : name ∈ fields.map Prod.fst
  own : ∀ field ∈ fields, field.1 = name → ∀ text value value',
    field.2 text value = some value' → decoder text (get value) = some (get value')
  other : ∀ field ∈ fields, field.1 ≠ name → Keeps field get

theorem owns_field (before : List (String × Decoder σ)) {after : List (String × Decoder σ)}
    {set : α → σ → σ} {decoder : Decoder α} (hset : ∀ new value, get (set new value) = new)
    (hother : ∀ field ∈ before ++ after, field.1 ≠ name ∧ Keeps field get) :
    Owns (before ++ field name get set decoder :: after) name get decoder := by
  have hcases : ∀ f ∈ before ++ field name get set decoder :: after,
      f = field name get set decoder ∨ f ∈ before ++ after := by
    intro f hf
    simp only [List.mem_append, List.mem_cons] at hf ⊢
    tauto
  refine ⟨by simp, fun f hf hname => ?_, fun f hf hname => ?_⟩
  · obtain rfl | hmem := hcases f hf
    · intro text value value' h
      obtain ⟨new, hnew, rfl⟩ := Option.map_eq_some_iff.mp h
      rw [hset, hnew]
    · exact absurd hname (hother f hmem).1
  · obtain rfl | hmem := hcases f hf
    · exact absurd rfl hname
    · exact (hother f hmem).2

variable {fields : List (String × Decoder σ)}

theorem structMembers_cons {key : String}
    {member : JsonText} {members : List (String × JsonText)} {value : σ} :
    structMembers fields ((key, member) :: members) value =
      ((named fields key).elim (some value) fun field => field.2 member value).bind
        (structMembers fields members) := by
  rw [structMembers, fieldOf_eq_named]
  cases named fields key <;> rfl

theorem foldl_structMembers {get : σ → β} {part : β → α}
    (hdistinct : FoldDistinct (fields.map Prod.fst)) (howns : Owns fields name get decoder)
    (h : Reads numbers decoder part read) {members : List (String × Json)} {value value' : σ}
    (hdecode : structMembers fields (Json.encodeMembers numbers members) value = some value') :
    part (get value') =
      (membersNamed name members).foldl (fun part v => read v part) (part (get value)) := by
  induction members generalizing value with
  | nil =>
    obtain rfl : value = value' := Option.some.inj hdecode
    rfl
  | cons member members ih =>
    obtain ⟨key, v⟩ := member
    rw [Json.encodeMembers, structMembers_cons] at hdecode
    obtain ⟨middle, hmiddle, hrest⟩ := Option.bind_eq_some_iff.mp hdecode
    rw [ih hrest]
    have hiff := named_eq_iff hdistinct howns.mem key
    by_cases hfold : Text.equalFold name key = true
    · obtain ⟨entry, hentry, hname⟩ := hiff.mpr hfold
      rw [hentry] at hmiddle
      have hown := howns.own entry (of_named hentry).1 hname _ _ _ hmiddle
      have hread : part (get middle) = read v (part (get value)) := h v _ _ hown
      simp [membersNamed, hfold, hread]
    · have hsame : get middle = get value := by
        cases hentry : named fields key with
        | none =>
          rw [hentry] at hmiddle
          obtain rfl : value = middle := Option.some.inj hmiddle
          rfl
        | some entry =>
          rw [hentry] at hmiddle
          have hother : entry.1 ≠ name := fun hname => hfold (hiff.mp ⟨entry, hentry, hname⟩)
          exact howns.other entry (of_named hentry).1 hother _ _ _ hmiddle
      simp [membersNamed, hfold, hsame]

/-- **A field of a record** is read from the members of its name, in any letter case. -/
theorem reads_struct {get : σ → β} {part : β → α}
    (hdistinct : FoldDistinct (fields.map Prod.fst)) (howns : Owns fields name get decoder)
    (h : Reads numbers decoder part read) :
    Reads numbers (struct fields) (part ∘ get) (readField name read) := by
  intro v value value' hdecode
  cases v with
  | obj members => exact foldl_structMembers hdistinct howns h hdecode
  | null =>
    obtain rfl : value = value' := Option.some.inj hdecode
    rfl
  | _ => exact nomatch hdecode

end Reads

end Rhythm
