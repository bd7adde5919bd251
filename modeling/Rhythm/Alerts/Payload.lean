import Rhythm.Elf.Masking
import Rhythm.JsonMask

/-!
# Rhythm.Alerts.Payload

The evidence of an alert event and `maskValue`, which masks it before it is stored.  A value of
the evidence is one of the Go types that `maskValue` tells apart; inside decoded objects only
objects, arrays and leaves are left.  `strings.EqualFold` is an input.

`masksExactly_iff`: exactly the entries that are to be masked are masked and the rest is kept, with
every list cut at its twentieth element, unless one of the two lists of texts is longer: `maskValue`
has no case for `[]string`.
-/

namespace Rhythm.Alerts.OpenSearch

open Text Json
open Elf (foldText joinPath)

/-! ## Masked paths -/

/-- The alternatives of `sensitiveKey`, `[-_]?` written out. -/
def sensitiveParts : List String :=
  ["authorization", "cookie", "password", "passwd", "secret", "token", "apikey", "api-key",
    "api_key", "privatekey", "private-key", "private_key", "session"]

/-- `sensitiveKey.MatchString`. -/
def sensitiveKey (text : String) : Bool := sensitiveParts.any (contains (foldText text))

/-- How many elements of a list `maskValue` keeps. -/
def maskLimit : Nat := 20

section Walk

variable (equalFold : String → String → Bool) (patterns : List String)

/-- The entry under this key, in an object at this path, is to be masked. -/
def hidesEntry (path key : String) : Bool :=
  sensitiveKey (joinPath path key) ||
    patterns.any fun p => equalFold p (joinPath path key) || equalFold p key

/-- The walk of `maskValue` over what `json.Unmarshal` leaves in an `any`. -/
def payloadMask : Mask where
  hides := hidesEntry equalFold patterns
  below := joinPath
  mark := .str "MASKED"
  limit := maskLimit

/-! ## Evidence -/

/-- A value of the evidence. -/
inductive Member where
  /-- `string` -/
  | text (value : String)
  /-- `[]string` -/
  | texts (items : List String)
  /-- `[]map[string]any` -/
  | records (items : List (List (String × Json)))
  /-- `map[string]any` -/
  | object (fields : List (String × Json))

def Member.json : Member → Json
  | .text value => .str value
  | .texts items => .arr (items.map .str)
  | .records items => .arr (items.map .obj)
  | .object fields => .obj fields

def evidenceJson (evidence : List (String × Member)) : Json :=
  .obj (evidence.map fun entry => (entry.1, entry.2.json))

/-- `maskValue`, for a value below the root. -/
def maskMember (path : String) : Member → Member
  | .object fields => .object ((payloadMask equalFold patterns).valueFields path fields)
  | .records items => .records ((items.take maskLimit).map
      ((payloadMask equalFold patterns).valueFields path))
  | value => value

/-- `maskValue`, for the evidence. -/
def maskValue (evidence : List (String × Member)) : List (String × Member) :=
  evidence.map fun entry =>
    (entry.1, if hidesEntry equalFold patterns "" entry.1 then .text "MASKED"
      else maskMember equalFold patterns entry.1 entry.2)

end Walk

/-- What the evidence takes from a decoded event. -/
structure Payload where
  periodStart : String
  periodEnd : String
  findingIDs : List String
  documentIDs : List String
  samples : List (List (String × Json))
  resultSummary : List (String × Json)
  error : String

/-- The evidence that `applyEvent` builds. -/
def Payload.evidence (payload : Payload) : List (String × Member) :=
  [("periodStart", .text payload.periodStart), ("periodEnd", .text payload.periodEnd),
    ("findingIds", .texts payload.findingIDs), ("documentIds", .texts payload.documentIDs),
    ("samples", .records payload.samples), ("resultSummary", .object payload.resultSummary),
    ("error", .text payload.error)]

section Masked

variable (equalFold : String → String → Bool) (patterns : List String)

/-- The masking of an event: exactly the entries that are to be masked are masked, and two events
that differ below masked entries only leave the same. -/
structure MasksExactly (payload : Payload) : Prop where
  exactly : (payloadMask equalFold patterns).Exactly "" (evidenceJson payload.evidence)
    (evidenceJson (maskValue equalFold patterns payload.evidence))
  secret : ∀ payload' : Payload, (payloadMask equalFold patterns).Agree ""
      (evidenceJson payload.evidence) (evidenceJson payload'.evidence) →
    maskValue equalFold patterns payload.evidence = maskValue equalFold patterns payload'.evidence

def FitsList (key : String) (items : List String) : Prop :=
  hidesEntry equalFold patterns "" key = true ∨ items.length ≤ maskLimit

variable {equalFold patterns} {payload : Payload} {key : String}

/-! ## One value -/

/-- The values that `maskValue` cuts. -/
def Member.Fits : Member → Prop
  | .texts items => items.length ≤ maskLimit
  | _ => True

theorem json_maskMember {value : Member} (h : value.Fits) :
    (maskMember equalFold patterns key value).json =
      (payloadMask equalFold patterns).value key value.json := by
  cases value with
  | text value => rfl
  | texts items =>
    have hcut : items.take maskLimit = items := List.take_of_length_le h
    have hstr : (payloadMask equalFold patterns).value key ∘ Json.str = Json.str := rfl
    change Json.arr (items.map .str) = _
    rw [Member.json, Mask.value_arr, ← List.map_take, List.map_map, hstr]
    exact congrArg (fun kept => Json.arr (kept.map .str)) hcut.symm
  | records items =>
    have hobj : (payloadMask equalFold patterns).value key ∘ Json.obj =
        Json.obj ∘ (payloadMask equalFold patterns).valueFields key :=
      funext fun fields => Mask.value_obj
    rw [maskMember, Member.json, Member.json, Mask.value_arr, ← List.map_take, List.map_map,
      List.map_map, hobj]
    rfl
  | object fields => rw [maskMember, Member.json, Member.json, Mask.value_obj]

def Member.SameKind : Member → Member → Prop
  | .text _, .text _ | .texts _, .texts _ | .records _, .records _ | .object _, .object _ => True
  | _, _ => False

theorem maskMember_eq_of_agree {value value' : Member} (hkind : value.SameKind value')
    (h : (payloadMask equalFold patterns).Agree key value.json value'.json) :
    maskMember equalFold patterns key value = maskMember equalFold patterns key value' := by
  have hvalue := Mask.value_eq_of_agree key _ _ h
  cases value with
  | text value =>
    cases value' with
    | text value' => rw [Json.str.inj h]
    | _ => exact hkind.elim
  | texts items =>
    cases value' with
    | texts items' =>
      obtain ⟨_, heq, hitems⟩ := h
      cases heq
      rw [Mask.eq_of_agreeItems_str hitems]
    | _ => exact hkind.elim
  | records items =>
    cases value' with
    | records items' =>
      have hleft := @json_maskMember equalFold patterns key (.records items) trivial
      have hright := @json_maskMember equalFold patterns key (.records items') trivial
      rw [hvalue, ← hright] at hleft
      have hobj : Function.Injective Json.obj := fun _ _ => Json.obj.inj
      rw [maskMember, maskMember, (List.map_injective_iff.mpr hobj) (Json.arr.inj hleft)]
    | _ => exact hkind.elim
  | object fields =>
    cases value' with
    | object fields' =>
      rw [Member.json, Member.json, Mask.value_obj, Mask.value_obj] at hvalue
      rw [maskMember, maskMember, Json.obj.inj hvalue]
    | _ => exact hkind.elim

/-! ## The evidence of an event -/

theorem evidenceJson_maskValue {evidence : List (String × Member)}
    (h : ∀ entry ∈ evidence, hidesEntry equalFold patterns "" entry.1 = true ∨ entry.2.Fits) :
    evidenceJson (maskValue equalFold patterns evidence) =
      (payloadMask equalFold patterns).value "" (evidenceJson evidence) := by
  rw [evidenceJson, evidenceJson, Mask.value_obj, Mask.valueFields_eq_map, maskValue, List.map_map,
    List.map_map]
  refine congrArg Json.obj (List.map_congr_left fun entry hentry => ?_)
  cases hhides : hidesEntry equalFold patterns "" entry.1 with
  | true => simp [payloadMask, hhides, Member.json]
  | false =>
    have hfits := (h entry hentry).resolve_left (by simp [hhides])
    simpa [payloadMask, hhides, joinPath] using json_maskMember hfits

/-- **What lies below masked entries does not show.** -/
theorem maskValue_eq_of_agree {evidence evidence' : List (String × Member)}
    (hkinds : List.Forall₂ (fun entry entry' => entry.2.SameKind entry'.2) evidence evidence')
    (h : (payloadMask equalFold patterns).Agree "" (evidenceJson evidence)
      (evidenceJson evidence')) :
    maskValue equalFold patterns evidence = maskValue equalFold patterns evidence' := by
  obtain ⟨fields, hfields, hagree⟩ := h
  obtain rfl := (Json.obj.inj hfields).symm
  clear hfields
  induction hkinds with
  | nil => rfl
  | @cons entry entry' rest rest' hkind _ ih =>
    obtain ⟨key, value⟩ := entry
    obtain ⟨key', value'⟩ := entry'
    rw [List.map_cons, List.map_cons, Mask.agreeFields_cons_iff] at hagree
    obtain ⟨hkey, hentry, hrest⟩ := hagree
    dsimp only at hkey hentry
    subst hkey
    rw [maskValue, maskValue, List.map_cons, List.map_cons]
    refine congrArg₂ List.cons ?_ (ih hrest)
    dsimp only
    obtain hhides | hvalue := hentry
    · have hentryHides : hidesEntry equalFold patterns "" key' = true := hhides
      rw [if_pos hentryHides, if_pos hentryHides]
    · have hmember : maskMember equalFold patterns key' value =
          maskMember equalFold patterns key' value' := maskMember_eq_of_agree hkind hvalue
      rw [hmember]

theorem sameKind_evidence (payload payload' : Payload) :
    List.Forall₂ (fun entry entry' => entry.2.SameKind entry'.2) payload.evidence
      payload'.evidence := by
  simp [Payload.evidence, Member.SameKind]

theorem fitsList_of_exactly {items : List String}
    (hexactly : (payloadMask equalFold patterns).Exactly "" (evidenceJson payload.evidence)
      (evidenceJson (maskValue equalFold patterns payload.evidence)))
    (hget : (evidenceJson payload.evidence).get? [.key key] = some (.arr (items.map .str)))
    (hresult : (evidenceJson (maskValue equalFold patterns payload.evidence)).get? [.key key] =
      some (if hidesEntry equalFold patterns "" key then Member.text "MASKED"
        else .texts items).json) : FitsList equalFold patterns key items := by
  cases hhides : hidesEntry equalFold patterns "" key with
  | true => exact .inl hhides
  | false =>
    have hclear : (payloadMask equalFold patterns).clear "" [.key key] = true := by
      simp [Mask.clear, payloadMask, hhides]
    obtain ⟨part, hpart, items', rfl, hlength⟩ := hexactly.kept [.key key] _ hclear hget
    rw [hresult, hhides] at hpart
    have hitems := Json.arr.inj (Option.some.inj hpart)
    rw [← hitems, List.length_map] at hlength
    refine .inr ?_
    rw [hlength]
    exact Nat.min_le_left _ _

/-- **Alert payload masking**, exactly for events whose two lists of texts are short or masked. -/
theorem masksExactly_iff (equalFold : String → String → Bool) (patterns : List String)
    (payload : Payload) : MasksExactly equalFold patterns payload ↔
      FitsList equalFold patterns "findingIds" payload.findingIDs ∧
        FitsList equalFold patterns "documentIds" payload.documentIDs := by
  constructor
  · intro h
    exact ⟨fitsList_of_exactly h.exactly rfl rfl, fitsList_of_exactly h.exactly rfl rfl⟩
  · rintro ⟨hfindings, hdocuments⟩
    refine ⟨?_, fun payload' => maskValue_eq_of_agree (sameKind_evidence payload payload')⟩
    have hfits : ∀ entry ∈ payload.evidence,
        hidesEntry equalFold patterns "" entry.1 = true ∨ entry.2.Fits := by
      simp only [Payload.evidence, List.forall_mem_cons, List.not_mem_nil, false_implies,
        implies_true, and_true]
      exact ⟨.inr trivial, .inr trivial, hfindings, hdocuments, .inr trivial, .inr trivial,
        .inr trivial⟩
    rw [evidenceJson_maskValue hfits]
    exact Mask.exactly_value

end Masked

def findingsPayload (n : Nat) : Payload where
  periodStart := ""
  periodEnd := ""
  findingIDs := List.replicate n "f"
  documentIDs := []
  samples := []
  resultSummary := []
  error := ""

/-- All of twenty-one findings are stored. -/
theorem findings_not_cut :
    ¬ ∀ (equalFold : String → String → Bool) (patterns : List String) (payload : Payload),
      MasksExactly equalFold patterns payload := by
  intro h
  have hexactly := (h equalFold [] (findingsPayload 21)).exactly
  obtain hhides | hlength := @fitsList_of_exactly _ _ _ "findingIds" _ hexactly rfl rfl
  · exact absurd hhides (by decide)
  · exact absurd hlength (by decide)

end Rhythm.Alerts.OpenSearch
