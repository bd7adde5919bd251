import Mathlib.Data.List.Sort
import Rhythm.Json
import Rhythm.Text

/-!
# Rhythm.Scripts.Masking

How the script runtime masks secrets: in place (`mask`), as a whole text (`maskWhole`), and in the
requests whose JSON a change records.

A request is written as `Piece`s, so that its JSON after masking is the JSON before with some pieces
masked (`requestPieces_maskedRequest`).  `Piece.hides` is the result: a value that
stands only in texts that its own mask covers is gone.
-/

namespace Rhythm.Scripts.Evidence

open Text

/-! ## Texts -/

def masked : String := "MASKED"

/-- `mask`, with the secrets in the order in which they are visited. -/
def mask (secrets : List String) (value : String) : String :=
  secrets.foldl
    (fun value secret => if secret = "" then value else replaceAll value secret masked) value

def maskWhole (secrets : List String) (value : String) : String :=
  if mask secrets value = value then value else masked

def sensitiveFragments : List String :=
  ["authorization", "cookie", "token", "secret", "password", "credential", "apikey", "signature"]

/-- `sensitiveRequestKey`. -/
def sensitiveRequestKey (key : String) : Bool :=
  sensitiveFragments.any fun fragment =>
    contains (toLower (replaceAll (replaceAll key "-" "") "_" "")) fragment

/-- The entries of a map with texts. -/
abbrev Values := List (String × String)

/-- `maskedMap`. -/
def maskedMap (secrets : List String) (input : Values) : Values :=
  input.map fun entry =>
    (entry.1, if sensitiveRequestKey entry.1 then masked else maskWhole secrets entry.2)

/-! ## Values -/

/-- The members of an object. -/
abbrev Members := List (String × Json)

mutual
/-- `maskedValue`. -/
def maskedValue (secrets : List String) : Json → Json
  | .str value => .str (maskWhole secrets value)
  | .obj fields => .obj (maskedObject secrets false fields)
  | .arr items => .arr (maskedItems secrets items)
  | value => value

def maskedItems (secrets : List String) : List Json → List Json
  | [] => []
  | item :: items => maskedValue secrets item :: maskedItems secrets items

/-- `maskedObject`. -/
def maskedObject (secrets : List String) (maskValues : Bool) : Members → Members
  | [] => []
  | (key, value) :: fields =>
    (key,
      if maskValues && key != "type" || sensitiveRequestKey key then .str masked
      else maskedValue secrets value) :: maskedObject secrets maskValues fields
end

/-! ## Requests -/

/-- A header or a parameter. -/
structure Entry where
  key : String
  value : String
  sensitive : Bool

/-- A slice or a map may be nil. -/
structure Request where
  method : String
  url : String
  headers : Option (List Entry)
  query : Option (List Entry)
  body : Option Members
  auth : Option Members

def maskedEntry (secrets : List String) (entry : Entry) : Entry :=
  if entry.sensitive || sensitiveRequestKey entry.key ||
      mask secrets entry.value != entry.value then
    { entry with value := masked }
  else entry

/-- `maskedRequest`. -/
def maskedRequest (secrets : List String) (input : Request) : Request where
  method := input.method
  url := mask secrets input.url
  headers := some ((input.headers.getD []).map (maskedEntry secrets))
  query := some ((input.query.getD []).map (maskedEntry secrets))
  body := some (maskedObject secrets false (input.body.getD []))
  auth := some (maskedObject secrets true (input.auth.getD []))

/-! ## JSON -/

/-- A letter of a JSON text, and whether it is one of a text that is masked. -/
abbrev Letter := Char × Bool

/-- What `encoding/json` writes instead of a character. -/
def escape (c : Char) : Option String :=
  match c.toNat with
  | 0x22 => some "\\\""
  | 0x5C => some "\\\\"
  | 0x08 => some "\\b"
  | 0x0C => some "\\f"
  | 0x0A => some "\\n"
  | 0x0D => some "\\r"
  | 0x09 => some "\\t"
  | 0x26 => some "\\u0026"
  | 0x3C => some "\\u003c"
  | 0x3E => some "\\u003e"
  | 0x2028 => some "\\u2028"
  | 0x2029 => some "\\u2029"
  | code =>
    if code < 0x20 then
      some ("\\u00" ++ String.ofList [Nat.digitChar (code / 16), Nat.digitChar (code % 16)])
    else none

def spell (c : Char) : List Letter :=
  match escape c with
  | some letters => letters.toList.map fun letter => (letter, false)
  | none => [(c, true)]

def quoted (text : String) : List Letter :=
  ('"', false) :: (text.toList.flatMap spell ++ [('"', false)])

/-- A part of a JSON text: as it is, or a string that is masked in place or as a whole. -/
inductive Piece where
  | fixed (text : String)
  | inPlace (text : String)
  | whole (text : String)
  deriving DecidableEq

namespace Piece

def letters : Piece → List Letter
  | fixed text => text.toList.map fun letter => (letter, false)
  | inPlace text => quoted text
  | whole text => quoted text

def mask (secrets : List String) : Piece → Piece
  | fixed text => fixed text
  | inPlace text => inPlace (Evidence.mask secrets text)
  | whole text => whole (maskWhole secrets text)

def key (text : String) : Piece :=
  fixed (String.ofList ((quoted text).map Prod.fst))

end Piece

def letters (pieces : List Piece) : List Letter := pieces.flatMap Piece.letters

def written (pieces : List Piece) : String := String.ofList ((letters pieces).map Prod.fst)

def separated : List (List Piece) → List Piece
  | [] => []
  | [item] => item
  | item :: next :: items => item ++ .fixed "," :: separated (next :: items)

/-- An object, whose keys `encoding/json` sorts. -/
def objectPieces (members : List (String × List Piece)) : List Piece :=
  .fixed "\x7b" ::
    (separated ((members.insertionSort fun one other => one.1 ≤ other.1).map fun member =>
      .key member.1 :: .fixed ":" :: member.2) ++ [.fixed "\x7d"])

section Pieces

variable (number : Rat → String)

mutual
/-- The pieces of a value; `number` is how a number is written. -/
def jsonPieces : Json → List Piece
  | .null => [.fixed "null"]
  | .bool true => [.fixed "true"]
  | .bool false => [.fixed "false"]
  | .num value => [.fixed (number value)]
  | .str value => [.whole value]
  | .arr items => .fixed "[" :: (separated (itemPieces items) ++ [.fixed "]"])
  | .obj fields => objectPieces (memberPieces fields)

def itemPieces : List Json → List (List Piece)
  | [] => []
  | item :: items => jsonPieces item :: itemPieces items

def memberPieces : Members → List (String × List Piece)
  | [] => []
  | (key, value) :: fields => (key, jsonPieces value) :: memberPieces fields
end

def entryPieces (entry : Entry) : List Piece :=
  [.fixed "\x7b\"key\":", .key entry.key, .fixed ",\"value\":", .whole entry.value,
    .fixed (if entry.sensitive then ",\"sensitive\":true\x7d" else "\x7d")]

def entriesPieces : Option (List Entry) → List Piece
  | none => [.fixed "null"]
  | some entries => .fixed "[" :: (separated (entries.map entryPieces) ++ [.fixed "]"])

def membersPieces : Option Members → List Piece
  | none => [.fixed "null"]
  | some members => objectPieces (memberPieces number members)

def requestPieces (request : Request) : List Piece :=
  .fixed "\x7b\"method\":" :: .key request.method :: .fixed ",\"url\":" :: .inPlace request.url ::
    .fixed ",\"headers\":" :: (entriesPieces request.headers ++
      .fixed ",\"query\":" :: (entriesPieces request.query ++
        .fixed ",\"body\":" :: (membersPieces number request.body ++
          .fixed ",\"auth\":" :: (membersPieces number request.auth ++ [.fixed "\x7d"]))))

/-- `json.Marshal` of a request. -/
def marshal (request : Request) : String := written (requestPieces number request)

end Pieces

/-! ## What a mask hides -/

section Hiding

variable {secrets : List String} {text value : String}

theorem mask_nil (text : String) : mask [] text = text := rfl

theorem mask_append (first last : List String) (text : String) :
    mask (first ++ last) text = mask last (mask first text) :=
  List.foldl_append

theorem contains_of_contains_mask (hdetached : Detached value.toList masked.toList)
    (h : contains (mask secrets text) value = true) : contains text value = true := by
  induction secrets generalizing text with
  | nil => exact h
  | cons secret secrets ih =>
    by_cases hempty : secret = ""
    · rw [mask, List.foldl_cons, if_pos hempty] at h
      exact ih h
    · rw [mask, List.foldl_cons, if_neg hempty] at h
      exact contains_of_contains_replaceAll_of_detached hempty hdetached (ih h)

/-- **Masking is complete** for a secret that does not overlap the mask. -/
theorem not_contains_mask (hdetached : Detached value.toList masked.toList)
    (h : contains text value = true → value ∈ secrets) :
    contains (mask secrets text) value = false := by
  rw [Bool.eq_false_iff]
  intro hcontains
  obtain ⟨first, last, rfl⟩ :=
    List.append_of_mem (h (contains_of_contains_mask hdetached hcontains))
  have hne : value ≠ "" := by
    rintro rfl
    exact hdetached.1 List.nil_infix
  rw [mask_append, mask, List.foldl_cons, if_neg hne] at hcontains
  have hreplaced : contains (replaceAll (mask first text) value masked) value = true :=
    contains_of_contains_mask hdetached hcontains
  rw [not_contains_replaceAll_of_detached hdetached] at hreplaced
  contradiction

theorem not_contains_maskWhole (hmasked : contains masked value = false)
    (h : contains text value = true → mask secrets text ≠ text) :
    contains (maskWhole secrets text) value = false := by
  rw [maskWhole]
  split
  · rename_i hkept
    rw [Bool.eq_false_iff]
    exact fun hcontains => h hcontains hkept
  · exact hmasked

end Hiding

/-! ## Letters of masked texts -/

def struckBy : List Letter := masked.toList.map fun letter => (letter, true)

section Letters

variable {secrets : List String} {value : String} {pieces : List Piece}

theorem map_fst_struckBy : struckBy.map Prod.fst = masked.toList := by decide

theorem flatMap_spell_masked : masked.toList.flatMap spell = struckBy := by decide

theorem struckAll_mask (secrets : List String) (text : String) :
    StruckAll struckBy (text.toList.flatMap spell) ((mask secrets text).toList.flatMap spell) := by
  induction secrets generalizing text with
  | nil => exact Relation.ReflTransGen.refl
  | cons secret secrets ih =>
    by_cases hempty : secret = ""
    · rw [mask, List.foldl_cons, if_pos hempty]
      exact ih text
    · rw [mask, List.foldl_cons, if_neg hempty]
      refine Relation.ReflTransGen.head ?_ (ih (replaceAll text secret masked))
      rw [replaceAll, if_neg hempty, String.toList_ofList, ← flatMap_spell_masked]
      exact struck_replaceFrom spell _ _ _

theorem struckAll_maskWhole (secrets : List String) (text : String) :
    StruckAll struckBy (text.toList.flatMap spell)
      ((maskWhole secrets text).toList.flatMap spell) := by
  rw [maskWhole]
  split
  · exact Relation.ReflTransGen.refl
  · rw [flatMap_spell_masked]
    exact Relation.ReflTransGen.single (Struck.whole _)

theorem struckAll_quoted {text text' : String}
    (h : StruckAll struckBy (text.toList.flatMap spell) (text'.toList.flatMap spell)) :
    StruckAll struckBy (quoted text) (quoted text') := by
  have hopened : StruckAll struckBy [('"', false)] [('"', false)] := Relation.ReflTransGen.refl
  exact hopened.append (h.append hopened)

theorem Piece.struckAll_mask (secrets : List String) :
    ∀ piece : Piece, StruckAll struckBy piece.letters (piece.mask secrets).letters
  | .fixed _ => Relation.ReflTransGen.refl
  | .inPlace text => struckAll_quoted (Evidence.struckAll_mask secrets text)
  | .whole text => struckAll_quoted (struckAll_maskWhole secrets text)

theorem struckAll_letters (secrets : List String) (pieces : List Piece) :
    StruckAll struckBy (letters pieces) (letters (pieces.map (Piece.mask secrets))) := by
  induction pieces with
  | nil => exact Relation.ReflTransGen.refl
  | cons piece pieces ih => exact (piece.struckAll_mask secrets).append ih

end Letters

/-! ## Letters that stand in texts -/

section Open

variable {u l l' : List Letter} {c : Letter}

def Open (u : List Letter) : Prop := u ≠ [] ∧ ∀ letter ∈ u, letter.2 = true

theorem Open.prefix_of_append (h : ∀ letter ∈ u, letter.2 = true) (hc : c.2 = false)
    (hstarts : u <+: l ++ c :: l') : u <+: l := by
  induction l generalizing u with
  | nil | cons e l ih =>
    cases u with
    | nil => exact List.nil_prefix
    | cons d u =>
      grind

theorem Open.infix_of_append (h : Open u) (hc : c.2 = false) (hfound : u <:+: l ++ c :: l') :
    u <:+: l ∨ u <:+: l' := by
  induction l with
  | nil =>
    rw [List.nil_append, List.infix_cons_iff] at hfound
    obtain hhere | hlater := hfound
    · have hnil : u <+: [] := Open.prefix_of_append h.2 hc hhere
      exact absurd (List.prefix_nil.mp hnil) h.1
    · exact .inr hlater
  | cons d l ih =>
    rw [List.cons_append, List.infix_cons_iff, ← List.cons_append] at hfound
    obtain hhere | hlater := hfound
    · exact .inl (Open.prefix_of_append h.2 hc hhere).isInfix
    · exact (ih hlater).imp_left fun hleft => hleft.trans (List.suffix_cons d l).isInfix

theorem Open.infix_of_closed (h : Open u) (hl : ∀ letter ∈ l, letter.2 = false)
    (hfound : u <:+: l ++ l') : u <:+: l' := by
  induction l with
  | nil => exact hfound
  | cons c l ih =>
    obtain hnil | hrest :=
      h.infix_of_append (l := []) (hl c List.mem_cons_self) (by simpa using hfound)
    · exact absurd (List.infix_nil.mp hnil) h.1
    · exact ih (fun letter hletter => hl letter (List.mem_cons_of_mem c hletter)) hrest

theorem escape_ne_empty {c : Char} {letters : String} (h : escape c = some letters) :
    letters.toList ≠ [] := by
  rw [escape] at h
  split at h
  case h_13 =>
    split at h
    · rw [← Option.some.inj h]
      simp
    · contradiction
  all_goals
    rw [← Option.some.inj h]
    decide

theorem spell_cases (c : Char) : spell c = [(c, true)] ∨
    ∃ d letters, spell c = d :: letters ∧ ∀ letter ∈ d :: letters, letter.2 = false := by
  rw [spell]
  split
  · rename_i letters hescape
    obtain ⟨d, rest, hletters⟩ := List.exists_cons_of_ne_nil (escape_ne_empty hescape)
    refine .inr ⟨(d, false), rest.map fun letter => (letter, false), by rw [hletters]; rfl, ?_⟩
    rw [← List.map_cons (f := fun letter => (letter, false))]
    intro letter hletter
    obtain ⟨c, -, rfl⟩ := List.mem_map.mp hletter
    rfl
  · exact .inl rfl

theorem Open.prefix_of_spelled (h : ∀ letter ∈ u, letter.2 = true) {text : List Char}
    (hstarts : u <+: text.flatMap spell) : u.map Prod.fst <+: text := by
  induction text generalizing u with
  | nil =>
    rw [List.prefix_nil.mp hstarts]
    exact List.nil_prefix
  | cons c text ih =>
    cases u with
    | nil => exact List.nil_prefix
    | cons d u =>
      rw [List.flatMap_cons] at hstarts
      obtain hplain | ⟨e, letters, hspell, hclosed⟩ := spell_cases c
      · rw [hplain, List.singleton_append, List.cons_prefix_cons] at hstarts
        rw [List.map_cons, List.cons_prefix_cons, hstarts.1]
        exact ⟨rfl, ih (fun letter hletter => h letter (List.mem_cons_of_mem d hletter)) hstarts.2⟩
      · grind

theorem Open.infix_of_spelled (h : Open u) {text : List Char} (hfound : u <:+: text.flatMap spell) :
    u.map Prod.fst <:+: text := by
  induction text with
  | nil =>
    rw [List.infix_nil.mp hfound]
    exact List.nil_infix
  | cons c text ih =>
    obtain hplain | ⟨d, letters, hspell, hclosed⟩ := spell_cases c
    · rw [List.flatMap_cons, hplain, List.singleton_append, List.infix_cons_iff] at hfound
      obtain hhere | hlater := hfound
      · have hstarts : u <+: (c :: text).flatMap spell := by
          rw [List.flatMap_cons, hplain]
          exact hhere
        exact (Open.prefix_of_spelled h.2 hstarts).isInfix
      · exact (ih hlater).trans (List.suffix_cons c text).isInfix
    · rw [List.flatMap_cons, hspell] at hfound
      exact (ih (h.infix_of_closed hclosed hfound)).trans (List.suffix_cons c text).isInfix

theorem Open.infix_of_quoted (h : Open u) {text : String} (hfound : u <:+: quoted text ++ l) :
    u.map Prod.fst <:+: text.toList ∨ u <:+: l := by
  rw [quoted, List.cons_append, List.append_assoc] at hfound
  have hinside : u <:+: text.toList.flatMap spell ++ ('"', false) :: l :=
    (h.infix_of_append (l := []) rfl hfound).resolve_left
      fun hnil => h.1 (List.infix_nil.mp hnil)
  exact (h.infix_of_append rfl hinside).imp_left h.infix_of_spelled

def Piece.text? : Piece → Option String
  | fixed _ => none
  | inPlace text => some text
  | whole text => some text

/-- **Open letters of a JSON text stand in one of its texts.** -/
theorem Open.exists_of_infix (h : Open u) {pieces : List Piece} (hfound : u <:+: letters pieces) :
    ∃ piece ∈ pieces, ∃ text ∈ piece.text?, u.map Prod.fst <:+: text.toList := by
  induction pieces with
  | nil => exact absurd (List.infix_nil.mp hfound) h.1
  | cons piece pieces ih =>
    have hrest (hlater : u <:+: letters pieces) : ∃ other ∈ piece :: pieces,
        ∃ text ∈ other.text?, u.map Prod.fst <:+: text.toList := by
      obtain ⟨other, hother, hstands⟩ := ih hlater
      exact ⟨other, List.mem_cons_of_mem piece hother, hstands⟩
    rw [letters, List.flatMap_cons] at hfound
    cases piece with
    | fixed text =>
      refine hrest (h.infix_of_closed ?_ hfound)
      intro letter hletter
      obtain ⟨c, -, rfl⟩ := List.mem_map.mp hletter
      rfl
    | inPlace text | whole text =>
      obtain hhere | hlater := h.infix_of_quoted hfound
      · exact ⟨_, List.mem_cons_self, text, rfl, hhere⟩
      · exact hrest hlater

end Open

/-! ## What masking hides in a JSON text -/

section Written

variable {secrets : List String} {value : String} {pieces : List Piece}

/-- The mask of a piece covers the value; `known` says that the value is a secret. -/
def Piece.Covers (secrets : List String) (value : String) (known : Prop) : Piece → Prop
  | fixed _ => True
  | inPlace text => contains text value = true → known
  | whole text => contains text value = true → Evidence.mask secrets text ≠ text

instance {known : Prop} [Decidable known] (piece : Piece) :
    Decidable (piece.Covers secrets value known) :=
  match piece with
  | .fixed _ => isTrue trivial
  | .inPlace _ | .whole _ => inferInstanceAs (Decidable (_ → _))

/-- Wherever the value stands in the JSON text, it stands in texts that are masked. -/
def StandsInTexts (value : String) (pieces : List Piece) : Prop :=
  ∀ rest ∈ (letters pieces).tails, value.toList <+: rest.map Prod.fst →
    ∀ letter ∈ rest.take value.toList.length, letter.2 = true

instance : Decidable (StandsInTexts value pieces) :=
  inferInstanceAs (Decidable (∀ rest ∈ (letters pieces).tails, _))

theorem StandsInTexts.open {u : List Letter} (h : StandsInTexts value pieces) (hne : value ≠ "")
    (hu : u.map Prod.fst = value.toList) (hfound : u <:+: letters pieces) : Open u := by
  obtain ⟨rest, hstarts, hsuffix⟩ := List.infix_iff_prefix_suffix.mp hfound
  have hlength : u = rest.take value.toList.length := by
    rw [← hu, List.length_map]
    exact List.prefix_iff_eq_take.mp hstarts
  refine ⟨?_, ?_⟩
  · rintro rfl
    exact hne (by simpa using hu.symm)
  · have hopen := h rest ((List.mem_tails _ _).mpr hsuffix) (hu ▸ hstarts.map Prod.fst)
    rwa [← hlength] at hopen

/-- **What a masked JSON text hides.**  A value that stands only in texts whose masks cover it. -/
theorem not_contains_written {known : Prop} (hdetached : Detached value.toList masked.toList)
    (hknown : known → value ∈ secrets) (hstands : StandsInTexts value pieces)
    (hcovers : ∀ piece ∈ pieces, piece.Covers secrets value known) :
    contains (written (pieces.map (Piece.mask secrets))) value = false := by
  have hne : value ≠ "" := by
    rintro rfl
    exact hdetached.1 List.nil_infix
  have hmasked : contains masked value = false := by
    rw [Bool.eq_false_iff, Ne, contains_iff]
    exact hdetached.1
  rw [Bool.eq_false_iff, Ne, contains_iff, written, String.toList_ofList]
  intro hfound
  obtain ⟨u, hmaskedInfix, hu⟩ := List.infix_map_iff.mp hfound
  have hstruck : Detached value.toList (struckBy.map Prod.fst) := by
    rwa [map_fst_struckBy]
  have hbefore : u <:+: letters pieces :=
    (struckAll_letters secrets pieces).isInfix hstruck hu.symm hmaskedInfix
  have hopen := hstands.open hne hu.symm hbefore
  obtain ⟨piece, hpiece, text, htext, hinside⟩ := hopen.exists_of_infix hmaskedInfix
  rw [← hu, ← contains_iff] at hinside
  obtain ⟨original, horiginal, rfl⟩ := List.mem_map.mp hpiece
  have hcover := hcovers original horiginal
  cases original with
  | fixed _ => exact Option.not_mem_none _ htext
  | inPlace original =>
    obtain rfl := Option.some.inj htext
    rw [not_contains_mask hdetached fun hcontains => hknown (hcover hcontains)] at hinside
    contradiction
  | whole original =>
    obtain rfl := Option.some.inj htext
    rw [not_contains_maskWhole hmasked hcover] at hinside
    contradiction

end Written

/-! ## The pieces of a masked request -/

section Pieces

variable {secrets : List String} {number : Rat → String}

theorem maskWhole_nil (text : String) : maskWhole [] text = text := by
  rw [maskWhole, mask_nil, if_pos rfl]

theorem maskWhole_masked : maskWhole secrets masked = masked := by
  rw [maskWhole, ite_self]

theorem maskedItems_eq (items : List Json) :
    maskedItems secrets items = items.map (maskedValue secrets) := by
  induction items with
  | nil => rw [maskedItems, List.map_nil]
  | cons item items ih => rw [maskedItems, List.map_cons, ih]

theorem maskedObject_eq (maskValues : Bool) (fields : Members) :
    maskedObject secrets maskValues fields = fields.map fun field =>
      (field.1,
        if maskValues && field.1 != "type" || sensitiveRequestKey field.1 then .str masked
        else maskedValue secrets field.2) := by
  induction fields with
  | nil => rw [maskedObject, List.map_nil]
  | cons field fields ih => rw [maskedObject, List.map_cons, ih]

theorem itemPieces_eq (items : List Json) :
    itemPieces number items = items.map (jsonPieces number) := by
  induction items with
  | nil => rw [itemPieces, List.map_nil]
  | cons item items ih => rw [itemPieces, List.map_cons, ih]

theorem memberPieces_eq (fields : Members) :
    memberPieces number fields = fields.map fun field => (field.1, jsonPieces number field.2) := by
  induction fields with
  | nil => rw [memberPieces, List.map_nil]
  | cons field fields ih => rw [memberPieces, List.map_cons, ih]

theorem map_mask_separated (items : List (List Piece)) :
    (separated items).map (Piece.mask secrets) =
      separated (items.map fun item => item.map (Piece.mask secrets)) := by
  induction items with
  | nil => rfl
  | cons item items ih =>
    cases items with
    | nil => rfl
    | cons next items =>
      rw [separated, List.map_append, List.map_cons, ih]
      rfl

theorem map_mask_objectPieces (members : List (String × List Piece)) :
    (objectPieces members).map (Piece.mask secrets) =
      objectPieces (members.map fun member => (member.1, member.2.map (Piece.mask secrets))) := by
  have hsorted := List.map_insertionSort (r := fun one other => one.1 ≤ other.1)
    (s := fun one other => one.1 ≤ other.1)
    (fun member : String × List Piece => (member.1, member.2.map (Piece.mask secrets)))
    members fun _ _ _ _ => Iff.rfl
  rw [objectPieces, objectPieces, ← hsorted, List.map_cons, List.map_append, map_mask_separated,
    List.map_map, List.map_map]
  rfl

/-- The pieces of a masked value are those of the value, masked; its keys alone mask in both. -/
def MasksPieces (number : Rat → String) (secrets : List String) (value : Json) : Prop :=
  jsonPieces number (maskedValue secrets value) =
    (jsonPieces number (maskedValue [] value)).map (Piece.mask secrets)

theorem memberPieces_maskedObject (maskValues : Bool) {fields : Members}
    (h : ∀ field ∈ fields, MasksPieces number secrets field.2) :
    memberPieces number (maskedObject secrets maskValues fields) =
      (memberPieces number (maskedObject [] maskValues fields)).map fun member =>
        (member.1, member.2.map (Piece.mask secrets)) := by
  rw [memberPieces_eq, memberPieces_eq, maskedObject_eq, maskedObject_eq, List.map_map,
    List.map_map, List.map_map]
  refine List.map_congr_left fun field hfield => ?_
  rw [Function.comp_apply, Function.comp_apply, Function.comp_apply]
  split
  · rw [jsonPieces, List.map_singleton, Piece.mask, maskWhole_masked]
  · rw [h field hfield]

theorem masksPieces (value : Json) : MasksPieces number secrets value := by
  induction value using Json.induction with
  | leaf value harr hobj =>
    cases value with
    | null | num _ => rfl
    | bool value => cases value <;> rfl
    | str text =>
      rw [MasksPieces, maskedValue, maskedValue, jsonPieces, jsonPieces, List.map_singleton,
        Piece.mask, maskWhole_nil]
    | arr items => exact absurd rfl (harr items)
    | obj fields => exact absurd rfl (hobj fields)
  | arr items ih =>
    have hitems : itemPieces number (maskedItems secrets items) =
        (itemPieces number (maskedItems [] items)).map fun item =>
          item.map (Piece.mask secrets) := by
      rw [itemPieces_eq, itemPieces_eq, maskedItems_eq, maskedItems_eq, List.map_map,
        List.map_map, List.map_map]
      exact List.map_congr_left ih
    rw [MasksPieces, maskedValue, maskedValue, jsonPieces, jsonPieces, hitems,
      ← map_mask_separated, List.map_cons, List.map_append]
    rfl
  | obj fields ih =>
    rw [MasksPieces, maskedValue, maskedValue, jsonPieces, jsonPieces,
      memberPieces_maskedObject false ih, map_mask_objectPieces]

theorem maskedEntry_eq (entry : Entry) :
    maskedEntry secrets entry =
      { entry with
        value :=
          if entry.sensitive || sensitiveRequestKey entry.key then masked
          else maskWhole secrets entry.value } := by
  cases hkey : entry.sensitive || sensitiveRequestKey entry.key with
  | true => simp [maskedEntry, hkey]
  | false =>
    by_cases hkept : mask secrets entry.value = entry.value
    · simp [maskedEntry, hkey, maskWhole, hkept]
    · simp [maskedEntry, hkey, maskWhole, hkept]

theorem entryPieces_maskedEntry (entry : Entry) :
    entryPieces (maskedEntry secrets entry) =
      (entryPieces (maskedEntry [] entry)).map (Piece.mask secrets) := by
  rw [maskedEntry_eq, maskedEntry_eq]
  cases entry.sensitive || sensitiveRequestKey entry.key with
  | true =>
    have hmasked : Piece.whole masked = Piece.mask secrets (.whole masked) := by
      rw [Piece.mask, maskWhole_masked]
    rw [if_pos rfl, if_pos rfl, entryPieces]
    nth_rewrite 1 [hmasked]
    rfl
  | false =>
    rw [if_neg Bool.false_ne_true, if_neg Bool.false_ne_true, maskWhole_nil]
    rfl

theorem membersPieces_maskedObject (maskValues : Bool) (members : Members) :
    membersPieces number (some (maskedObject secrets maskValues members)) =
      (membersPieces number (some (maskedObject [] maskValues members))).map
        (Piece.mask secrets) := by
  rw [membersPieces, membersPieces, memberPieces_maskedObject maskValues
    fun field _ => masksPieces field.2, map_mask_objectPieces]

theorem entriesPieces_maskedEntry (entries : List Entry) :
    entriesPieces (some (entries.map (maskedEntry secrets))) =
      (entriesPieces (some (entries.map (maskedEntry [])))).map (Piece.mask secrets) := by
  rw [entriesPieces, entriesPieces, List.map_cons, List.map_append, map_mask_separated,
    List.map_map, List.map_map, List.map_map]
  have hentries : ∀ entry ∈ entries, (entryPieces ∘ maskedEntry secrets) entry =
      ((List.map (Piece.mask secrets)) ∘ entryPieces ∘ maskedEntry []) entry :=
    fun entry _ => entryPieces_maskedEntry entry
  rw [List.map_congr_left hentries]
  rfl

/-- **The JSON of a masked request** is that of the request as its keys alone mask it, with its
texts masked. -/
theorem requestPieces_maskedRequest (request : Request) :
    requestPieces number (maskedRequest secrets request) =
      (requestPieces number (maskedRequest [] request)).map (Piece.mask secrets) := by
  simp only [requestPieces, maskedRequest, @entriesPieces_maskedEntry secrets,
    @membersPieces_maskedObject secrets number, List.map_cons, List.map_append, List.map_nil,
    Piece.mask, mask_nil]
  rfl

end Pieces

end Rhythm.Scripts.Evidence
