import Rhythm.JsonPath
import Rhythm.Runs.RequestSummary

/-!
# Rhythm.Runs.Redaction

`redactJSON`: the redaction of a decoded response body, by the keys of its objects and
by the values that are known to be sensitive.

An empty sensitive value redacts nothing; the laws of redaction hold for the others,
none of which is the mask.
-/

namespace Rhythm.Runs

open Text Json

/-! ## Redaction -/

/-- The text is one of the sensitive values; an empty one counts for nothing. -/
def sensitiveText (sensitiveValues : Values) (text : String) : Bool :=
  sensitiveValues.any fun entry => entry.2 ≠ "" && text = entry.2

mutual
/-- `redactJSON`. -/
def redactJSON (sensitiveValues : Values) : Json → Json
  | .obj fields => .obj (redactFields sensitiveValues fields)
  | .arr items => .arr (redactItems sensitiveValues items)
  | .str text => if sensitiveText sensitiveValues text then .str mask else .str text
  | value => value

def redactFields (sensitiveValues : Values) : List (String × Json) → List (String × Json)
  | [] => []
  | (key, nested) :: fields =>
    (key, if sensitiveKey key then .str mask else redactJSON sensitiveValues nested) ::
      redactFields sensitiveValues fields

def redactItems (sensitiveValues : Values) : List Json → List Json
  | [] => []
  | nested :: items => redactJSON sensitiveValues nested :: redactItems sensitiveValues items
end

/-! ## What redaction is for -/

def underSensitiveKey (steps : List Step) : Bool := (keysOf steps).any sensitiveKey

/-- Objects with the same keys, arrays of the same length, two strings, or the same value. -/
def SameShape : Json → Json → Prop
  | .obj fields, .obj fields' => fields.map Prod.fst = fields'.map Prod.fst
  | .arr items, .arr items' => items.length = items'.length
  | .str _, .str _ => True
  | v, w => v = w

section Agree

variable (texts : List String)

mutual
/-- The values differ at most below sensitive keys and between two sensitive strings. -/
def agree : Json → Json → Bool
  | .obj fields, .obj fields' => agreeFields fields fields'
  | .arr items, .arr items' => agreeItems items items'
  | .str text, .str text' => text = text' || (text ∈ texts && text' ∈ texts)
  | v, w => v = w

def agreeFields : List (String × Json) → List (String × Json) → Bool
  | [], [] => true
  | (key, v) :: fields, (key', w) :: fields' =>
    key = key' && (sensitiveKey key || agree v w) && agreeFields fields fields'
  | _, _ => false

def agreeItems : List Json → List Json → Bool
  | [], [] => true
  | v :: items, w :: items' => agree v w && agreeItems items items'
  | _, _ => false
end

end Agree

/-- `redact` hides what is below sensitive keys and the strings among `texts`, shows everything
else as it is, and depends on nothing that it hides. -/
structure Redacts (redact : Json → Json) (texts : List String) : Prop where
  shape : ∀ value steps, underSensitiveKey steps = false →
    Option.Rel SameShape (value.get? steps) ((redact value).get? steps)
  leaves : ∀ value steps leaf, underSensitiveKey steps = false → value.get? steps = some leaf →
    leaf.isLeaf = true → (∀ text ∈ texts, leaf ≠ .str text) → (redact value).get? steps = some leaf
  hidden : ∀ value steps w, underSensitiveKey steps = true →
    (redact value).get? steps = some w → w = .str mask
  clean : ∀ value steps, ∀ text ∈ texts, (redact value).get? steps ≠ some (.str text)
  idempotent : ∀ value, redact (redact value) = redact value
  noninterference : ∀ value value', agree texts value value' = true → redact value = redact value'

/-! ## Redaction at a position -/

section Walk

variable {sensitiveValues : Values} {fields fields' : List (String × Json)} {items : List Json}
  {value value' w leaf : Json} {name text text' : String} {steps : List Step}

def sensitiveTexts (sensitiveValues : Values) : List String :=
  (sensitiveValues.map Prod.snd).filter fun text => text ≠ ""

theorem sensitiveText_iff :
    sensitiveText sensitiveValues text = true ↔ text ∈ sensitiveTexts sensitiveValues := by
  grind [sensitiveText, sensitiveTexts]

def redactMember (sensitiveValues : Values) (key : String) (nested : Json) : Json :=
  if sensitiveKey key then .str mask else redactJSON sensitiveValues nested

theorem redactMember_of_sensitive (h : sensitiveKey name = true) :
    redactMember sensitiveValues name value = .str mask := if_pos h

theorem redactMember_of_plain (h : sensitiveKey name = false) :
    redactMember sensitiveValues name value = redactJSON sensitiveValues value :=
  if_neg (Bool.eq_false_iff.mp h)

theorem redactFields_eq_map : redactFields sensitiveValues fields =
    fields.map fun field => (field.1, redactMember sensitiveValues field.1 field.2) := by
  induction fields with
  | nil => rfl
  | cons field fields ih =>
    rw [redactFields, ih, List.map_cons]
    rfl

theorem redactItems_eq_map : redactItems sensitiveValues items =
    items.map (redactJSON sensitiveValues) := by
  induction items with
  | nil => rfl
  | cons item items ih => rw [redactItems, ih, List.map_cons]

theorem redactJSON_str : redactJSON sensitiveValues (.str text) =
    .str (if sensitiveText sensitiveValues text then mask else text) := by
  rw [redactJSON, apply_ite Json.str]

theorem lookup_redactFields : (redactFields sensitiveValues fields).lookup name =
    (fields.lookup name).map (redactMember sensitiveValues name) := by
  rw [redactFields_eq_map]
  refine lookup_map ?_ ?_
  · exact fun _ _ => rfl
  · intro value
    dsimp only

theorem get?_redact_key : (redactJSON sensitiveValues (.obj fields)).get? (.key name :: steps) =
    (fields.lookup name).bind fun nested =>
      (redactMember sensitiveValues name nested).get? steps := by
  rw [redactJSON, get?_key, lookup_redactFields, Option.bind_map, Function.comp_def]

theorem get?_redact_index {i : Nat} :
    (redactJSON sensitiveValues (.arr items)).get? (.index i :: steps) =
      items[i]?.bind fun nested => (redactJSON sensitiveValues nested).get? steps := by
  rw [redactJSON, get?_index, redactItems_eq_map, List.getElem?_map, Option.bind_map]
  rfl

theorem get?_redact (h : underSensitiveKey steps = false) :
    (redactJSON sensitiveValues value).get? steps =
      (value.get? steps).map (redactJSON sensitiveValues) := by
  induction steps generalizing value with
  | nil => simp
  | cons step steps ih =>
    cases step with
    | key name =>
      rw [underSensitiveKey, keysOf, List.any_cons, Bool.or_eq_false_iff] at h
      cases value with
      | obj fields =>
        rw [get?_redact_key, get?_key]
        cases fields.lookup name with
        | none => rfl
        | some nested =>
          rw [Option.bind_some, Option.bind_some, redactMember_of_plain h.1]
          exact ih h.2
      | str text => simp [redactJSON_str]
      | _ => rfl
    | index i =>
      cases value with
      | arr items =>
        rw [get?_redact_index, get?_index]
        cases items[i]? with
        | none => rfl
        | some nested => exact ih h
      | str text => simp [redactJSON_str]
      | _ => rfl

theorem get?_redact_hidden (h : underSensitiveKey steps = true)
    (hget : (redactJSON sensitiveValues value).get? steps = some w) : w = .str mask := by
  induction steps generalizing value with
  | nil => cases h
  | cons step steps ih =>
    cases step with
    | key name =>
      cases value with
      | obj fields =>
        rw [get?_redact_key] at hget
        obtain ⟨nested, -, hnested⟩ := Option.bind_eq_some_iff.mp hget
        cases hname : sensitiveKey name with
        | true =>
          rw [redactMember_of_sensitive hname] at hnested
          cases steps with
          | nil => exact (Option.some.inj hnested).symm
          | cons step steps => cases hnested
        | false =>
          rw [underSensitiveKey, keysOf, List.any_cons, hname, Bool.false_or] at h
          rw [redactMember_of_plain hname] at hnested
          exact ih h hnested
      | str text => simp [redactJSON_str] at hget
      | _ => cases hget
    | index i =>
      cases value with
      | arr items =>
        rw [get?_redact_index] at hget
        obtain ⟨nested, -, hnested⟩ := Option.bind_eq_some_iff.mp hget
        exact ih h hnested
      | str text => simp [redactJSON_str] at hget
      | _ => cases hget

theorem sameShape_redact (value : Json) :
    SameShape value (redactJSON sensitiveValues value) := by
  cases value with
  | obj fields =>
    show fields.map Prod.fst = (redactFields sensitiveValues fields).map Prod.fst
    rw [redactFields_eq_map, List.map_map]
    rfl
  | arr items =>
    show items.length = (redactItems sensitiveValues items).length
    rw [redactItems_eq_map, List.length_map]
  | str text =>
    rw [redactJSON_str]
    trivial
  | _ => rfl

theorem redact_leaf (hleaf : leaf.isLeaf = true)
    (hplain : ∀ text ∈ sensitiveTexts sensitiveValues, leaf ≠ .str text) :
    redactJSON sensitiveValues leaf = leaf := by
  cases leaf with
  | obj fields | arr items =>
    rw [List.isEmpty_iff.mp hleaf]
    rfl
  | str text =>
    rw [redactJSON_str, if_neg]
    intro htext
    exact hplain text (sensitiveText_iff.mp htext) rfl
  | _ => rfl

/-! ## No sensitive value is left -/

theorem redact_mask : redactJSON sensitiveValues (.str mask) = .str mask := by
  rw [redactJSON_str, ite_self]

theorem redactMember_redactMember
    (h : redactJSON sensitiveValues (redactJSON sensitiveValues value) =
      redactJSON sensitiveValues value) :
    redactMember sensitiveValues name (redactMember sensitiveValues name value) =
      redactMember sensitiveValues name value := by
  cases hname : sensitiveKey name with
  | true => rw [redactMember_of_sensitive hname, redactMember_of_sensitive hname]
  | false => rw [redactMember_of_plain hname, redactMember_of_plain hname, h]

theorem redact_redact (value : Json) :
    redactJSON sensitiveValues (redactJSON sensitiveValues value) =
      redactJSON sensitiveValues value := by
  induction value using Json.induction with
  | leaf value harr hobj =>
    cases value with
    | arr items => exact absurd rfl (harr items)
    | obj fields => exact absurd rfl (hobj fields)
    | str text =>
      rw [redactJSON_str]
      split
      · exact redact_mask
      · next hplain => rw [redactJSON_str, if_neg hplain]
    | _ => rfl
  | arr items ih =>
    rw [redactJSON, redactJSON, redactItems_eq_map, redactItems_eq_map, List.map_map]
    exact congrArg Json.arr (List.map_congr_left fun item hitem => ih item hitem)
  | obj fields ih =>
    rw [redactJSON, redactJSON, redactFields_eq_map, redactFields_eq_map, List.map_map]
    refine congrArg Json.obj (List.map_congr_left fun field hfield => ?_)
    simp only [Function.comp_apply, redactMember_redactMember (ih field hfield)]

section NoMask

variable (hmask : ∀ entry ∈ sensitiveValues, entry.2 ≠ mask)

include hmask

theorem mask_not_sensitive : mask ∉ sensitiveTexts sensitiveValues := by
  intro hmem
  obtain ⟨entry, hentry, heq⟩ := List.mem_map.mp (List.mem_filter.mp hmem).1
  exact hmask entry hentry heq

theorem redact_ne_sensitive (htext : text ∈ sensitiveTexts sensitiveValues) :
    redactJSON sensitiveValues value ≠ .str text := by
  intro h
  cases value with
  | str shown =>
    rw [redactJSON_str, Json.str.injEq] at h
    split at h
    · subst h
      exact mask_not_sensitive hmask htext
    · next hplain =>
      subst h
      exact hplain (sensitiveText_iff.mpr htext)
  | _ => cases h

end NoMask

/-! ## Two runs -/

mutual
theorem redact_eq_of_agree : ∀ value value' : Json,
    agree (sensitiveTexts sensitiveValues) value value' = true →
      redactJSON sensitiveValues value = redactJSON sensitiveValues value'
  | .null, w, h | .bool _, w, h | .num _, w, h => by
    simp only [agree, decide_eq_true_eq] at h
    rw [h]
  | .str text, w, h => by
    cases w with
    | str text' =>
      simp only [agree, Bool.or_eq_true, Bool.and_eq_true, decide_eq_true_eq] at h
      obtain rfl | ⟨htext, htext'⟩ := h
      · rfl
      · rw [redactJSON_str, redactJSON_str, if_pos (sensitiveText_iff.mpr htext),
          if_pos (sensitiveText_iff.mpr htext')]
    | _ => simp [agree] at h
  | .arr items, w, h => by
    cases w with
    | arr items' => rw [redactJSON, redactJSON, redactItems_eq_of_agree items items' h]
    | _ => simp [agree] at h
  | .obj fields, w, h => by
    cases w with
    | obj fields' => rw [redactJSON, redactJSON, redactFields_eq_of_agree fields fields' h]
    | _ => simp [agree] at h

theorem redactFields_eq_of_agree : ∀ fields fields' : List (String × Json),
    agreeFields (sensitiveTexts sensitiveValues) fields fields' = true →
      redactFields sensitiveValues fields = redactFields sensitiveValues fields'
  | [], fields', h => by
    cases fields' with
    | nil => rfl
    | cons field fields' => simp [agreeFields] at h
  | (key, v) :: fields, fields', h => by
    cases fields' with
    | nil => simp [agreeFields] at h
    | cons field fields' =>
      obtain ⟨key', w⟩ := field
      simp only [agreeFields, Bool.and_eq_true, Bool.or_eq_true, decide_eq_true_eq] at h
      obtain ⟨⟨rfl, hvalue⟩, hrest⟩ := h
      rw [redactFields, redactFields, redactFields_eq_of_agree fields fields' hrest]
      obtain hkey | hagree := hvalue
      · rw [if_pos hkey, if_pos hkey]
      · rw [redact_eq_of_agree v w hagree]

theorem redactItems_eq_of_agree : ∀ items items' : List Json,
    agreeItems (sensitiveTexts sensitiveValues) items items' = true →
      redactItems sensitiveValues items = redactItems sensitiveValues items'
  | [], items', h => by
    cases items' with
    | nil => rfl
    | cons item items' => simp [agreeItems] at h
  | v :: items, items', h => by
    cases items' with
    | nil => simp [agreeItems] at h
    | cons w items' =>
      rw [agreeItems, Bool.and_eq_true] at h
      rw [redactItems, redactItems, redact_eq_of_agree v w h.1,
        redactItems_eq_of_agree items items' h.2]
end

end Walk

/-! ## The laws of redaction -/

/-- **Redaction hides the sensitive positions and nothing else, and depends on nothing that it
hides.** -/
theorem redactJSON_redacts (sensitiveValues : Values)
    (hmask : ∀ entry ∈ sensitiveValues, entry.2 ≠ mask) :
    Redacts (redactJSON sensitiveValues) (sensitiveTexts sensitiveValues) where
  shape value steps h := by
    rw [get?_redact h]
    cases value.get? steps with
    | none => exact .none
    | some w => exact .some (sameShape_redact w)
  leaves value steps leaf h hget hleaf hplain := by
    rw [get?_redact h, hget, Option.map_some, redact_leaf hleaf hplain]
  hidden value steps w h hget := get?_redact_hidden h hget
  clean value steps text htext hget := by
    cases hunder : underSensitiveKey steps with
    | true =>
      have heq := Json.str.inj (get?_redact_hidden hunder hget)
      exact mask_not_sensitive hmask (heq ▸ htext)
    | false =>
      rw [get?_redact hunder] at hget
      obtain ⟨w, -, hw⟩ := Option.map_eq_some_iff.mp hget
      exact redact_ne_sensitive hmask htext hw
  idempotent := redact_redact
  noninterference := redact_eq_of_agree

/-- One sensitive value, two bodies that differ in the redacted positions. -/
theorem redactJSON_redacts_key :
    redactJSON [("secrets.key", "k-123")]
        (.obj [("token", .num 1), ("echo", .str "k-123"), ("n", .num 7)]) =
      redactJSON [("secrets.key", "k-123")]
        (.obj [("token", .arr []), ("echo", .str "k-123"), ("n", .num 7)]) :=
  (redactJSON_redacts [("secrets.key", "k-123")] (by decide)).noninterference _ _ (by decide)

/-- An empty sensitive value is not redacted. -/
theorem empty_value_shown : (∀ entry ∈ [("secrets.key", "")], entry.2 ≠ mask) ∧
    ¬ Redacts (redactJSON [("secrets.key", "")]) [""] := by
  refine ⟨by decide, fun h => ?_⟩
  exact h.clean (.str "") [] "" (List.mem_singleton.mpr rfl) (by decide)

end Rhythm.Runs
