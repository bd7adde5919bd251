import Rhythm.Json
import Rhythm.Text

/-!
# Rhythm.Elf.Masking

`maskDocument`: the masking of a document by the names of its members and by the
masking rules of an application, which are matched against whole paths.

`regexp.MatchString` is a parameter; a rule that is no regular expression
matches nothing.
-/

namespace Rhythm.Elf

open Text

/-! ## Masked paths -/

/-- The words of `sensitiveKey`, its optional separators written out. -/
def sensitiveWords : List String :=
  ["authorization", "cookie", "password", "passwd", "secret", "token", "apikey", "api-key",
    "api_key", "privatekey", "private-key", "private_key", "session"]

def foldText (s : String) : String := String.ofList (s.toList.map foldRune)

/-- `sensitiveKey.MatchString`. -/
def sensitiveKey (text : String) : Bool :=
  sensitiveWords.any fun word => contains (foldText text) word

/-- `strings.ReplaceAll` of one character. -/
def replaceChar (old : Char) (new : String) (s : String) : String :=
  String.ofList (s.toList.flatMap fun c => if c = old then new.toList else [c])

/-- `filepathMatch`. -/
def filepathMatch (matchString : String → String → Bool) (pattern value : String) : Bool :=
  matchString ("(?i)^" ++ replaceChar '*' ".*" (replaceChar '.' "\\." pattern) ++ "$") value

/-- The path of a member below `start`. -/
def joinPath (start key : String) : String := if start = "" then key else start ++ "." ++ key

section Walk

variable (matchString : String → String → Bool) (patterns : List String)

def ruleMatches (path : String) : Bool :=
  patterns.any fun pattern => filepathMatch matchString pattern path

def masked (key path : String) : Bool :=
  sensitiveKey key || sensitiveKey path || ruleMatches matchString patterns path

/-! ## The walk -/

mutual
/-- `maskDocumentAt`. -/
def maskDocumentAt : String → List (String × Json) → List (String × Json)
  | _, [] => []
  | start, (key, value) :: fields =>
    (key, if masked matchString patterns key (joinPath start key) then .str "MASKED"
      else maskValue (joinPath start key) value) :: maskDocumentAt start fields

def maskValue : String → Json → Json
  | path, .obj fields => .obj (maskDocumentAt path fields)
  | path, .arr items => .arr (maskItems path items)
  | _, value => value

/-- The items of an array: objects are masked at the path of the array, other items stay. -/
def maskItems : String → List Json → List Json
  | _, [] => []
  | path, .obj fields :: items => .obj (maskDocumentAt path fields) :: maskItems path items
  | path, item :: items => item :: maskItems path items
end

/-- `maskDocument`. -/
def maskDocument (document : List (String × Json)) : List (String × Json) :=
  maskDocumentAt matchString patterns "" document

end Walk

/-! ## Sensitive paths -/

theorem sensitiveKey_joined {start key : String} :
    sensitiveKey (start ++ "." ++ key) = (sensitiveKey start || sensitiveKey key) := by
  have hwords : ∀ word ∈ sensitiveWords, '.' ∉ word.toList := by decide
  have hfold : (foldText (start ++ "." ++ key)).toList =
      (foldText start).toList ++ '.' :: (foldText key).toList := by
    simp only [foldText, String.toList_ofList, String.toList_append, List.map_append]
    have hdot : ".".toList.map foldRune = ['.'] := by decide
    rw [hdot, List.append_assoc]
    rfl
  rw [Bool.eq_iff_iff]
  simp only [sensitiveKey, Bool.or_eq_true, List.any_eq_true, contains_iff, hfold]
  constructor <;> grind [infix_append_cons_iff]

theorem sensitiveKey_joinPath {start key : String} :
    sensitiveKey (joinPath start key) = (sensitiveKey start || sensitiveKey key) := by
  unfold joinPath
  split
  · rename_i hstart
    have hempty : sensitiveKey "" = false := by decide
    rw [hstart, hempty, Bool.false_or]
  · exact sensitiveKey_joined

/-! ## Reading a masked document -/

section Walk

variable {matchString : String → String → Bool} {patterns : List String} {start key : String}
  {fields : List (String × Json)}

theorem lookup_maskDocumentAt :
    (maskDocumentAt matchString patterns start fields).lookup key =
      (fields.lookup key).map fun value =>
        if masked matchString patterns key (joinPath start key) then .str "MASKED"
        else maskValue matchString patterns (joinPath start key) value := by
  induction fields with
  | nil => rfl
  | cons field fields ih =>
    grind [maskDocumentAt]

/-! ## The members that the walk reaches -/

/-- The path of a member with these keys, the last its own, below `start`. -/
def pathOf (start : String) (keys : List String) : String := keys.foldl joinPath start

variable (matchString patterns) in
/-- From `start`, the walk over a value comes to a member with these keys and this value. -/
inductive Reaches : String → Json → List String → Json → Prop
  | member {start key : String} {fields : List (String × Json)} {value : Json}
      (hmem : (key, value) ∈ fields) : Reaches start (.obj fields) [key] value
  | child {start key : String} {fields : List (String × Json)} {inner value : Json}
      {keys : List String} (hmem : (key, inner) ∈ fields)
      (hclear : masked matchString patterns key (joinPath start key) = false)
      (h : Reaches (joinPath start key) inner keys value) :
      Reaches start (.obj fields) (key :: keys) value
  | item {start : String} {items : List Json} {fields : List (String × Json)}
      {keys : List String} {value : Json} (hmem : .obj fields ∈ items)
      (h : Reaches start (.obj fields) keys value) : Reaches start (.arr items) keys value

/-! ## Two roots -/

variable (matchString patterns) in
/-- The rules treat a member alike under two roots, or need not: its name is sensitive, or its value
looks masked already. -/
def SameMask (root root' : String) (keys : List String) (value : Json) : Prop :=
  sensitiveKey (pathOf root' keys) = true ∨
    ruleMatches matchString patterns (pathOf root keys) =
      ruleMatches matchString patterns (pathOf root' keys) ∨
    value = .str "MASKED"

variable (matchString patterns) in
/-- The rules treat every member alike that the walk over the value reaches. -/
def SameMasks (root root' : String) (value : Json) : Prop :=
  ∀ keys w, Reaches matchString patterns root' value keys w →
    SameMask matchString patterns root root' keys w

theorem masked_joinPath (hstart : sensitiveKey start = false) :
    masked matchString patterns key (joinPath start key) =
      (sensitiveKey key || ruleMatches matchString patterns (joinPath start key)) := by
  rw [masked, sensitiveKey_joinPath, hstart, Bool.false_or, Bool.or_self]

/-- The members of an object that the walk reaches: the first one, those below it, and those that
it reaches from the rest. -/
theorem reaches_cons_iff {name : String} {child value : Json} {keys : List String} :
    Reaches matchString patterns start (.obj ((name, child) :: fields)) keys value ↔
      (keys = [name] ∧ value = child) ∨
        (masked matchString patterns name (joinPath start name) = false ∧
          ∃ keys', keys = name :: keys' ∧
            Reaches matchString patterns (joinPath start name) child keys' value) ∨
        Reaches matchString patterns start (.obj fields) keys value := by
  constructor
  · intro h
    cases h with
    | member hmem =>
      obtain heq | hmem := List.mem_cons.mp hmem
      · cases heq
        exact .inl ⟨rfl, rfl⟩
      · exact .inr (.inr (.member hmem))
    | child hmem hclear h =>
      obtain heq | hmem := List.mem_cons.mp hmem
      · cases heq
        exact .inr (.inl ⟨hclear, _, rfl, h⟩)
      · exact .inr (.inr (.child hmem hclear h))
  · rintro (⟨rfl, rfl⟩ | ⟨hclear, keys', rfl, h⟩ | h)
    · exact .member List.mem_cons_self
    · exact .child List.mem_cons_self hclear h
    · cases h with
      | member hmem => exact .member (List.mem_cons_of_mem _ hmem)
      | child hmem hclear h => exact .child (List.mem_cons_of_mem _ hmem) hclear h

theorem reaches_items_iff {item value : Json} {items : List Json} {keys : List String} :
    Reaches matchString patterns start (.arr (item :: items)) keys value ↔
      (∃ fields, item = .obj fields ∧
        Reaches matchString patterns start (.obj fields) keys value) ∨
        Reaches matchString patterns start (.arr items) keys value := by
  constructor
  · intro h
    cases h with
    | item hmem h =>
      obtain heq | hmem := List.mem_cons.mp hmem
      · exact .inl ⟨_, heq.symm, h⟩
      · exact .inr (.item hmem h)
  · rintro (⟨fields, rfl, h⟩ | h)
    · exact .item List.mem_cons_self h
    · cases h with
      | item hmem h => exact .item (List.mem_cons_of_mem _ hmem) h

theorem maskValue_eq_masked_iff {path : String} {value : Json} :
    maskValue matchString patterns path value = .str "MASKED" ↔ value = .str "MASKED" := by
  cases value <;> simp [maskValue]

variable {root root' : String}

theorem member_eq_iff {value : Json} (hroot : sensitiveKey root = false)
    (hroot' : sensitiveKey root' = false)
    (hvalue : sensitiveKey (joinPath root key) = false → sensitiveKey (joinPath root' key) = false →
      (maskValue matchString patterns (joinPath root key) value =
          maskValue matchString patterns (joinPath root' key) value ↔
        SameMasks matchString patterns (joinPath root key) (joinPath root' key) value)) :
    ((if masked matchString patterns key (joinPath root key) then Json.str "MASKED"
        else maskValue matchString patterns (joinPath root key) value) =
      if masked matchString patterns key (joinPath root' key) then Json.str "MASKED"
        else maskValue matchString patterns (joinPath root' key) value) ↔
      SameMask matchString patterns root root' [key] value ∧
        (masked matchString patterns key (joinPath root' key) = false →
          ∀ keys w, Reaches matchString patterns (joinPath root' key) value keys w →
            SameMask matchString patterns root root' (key :: keys) w) := by
  rw [masked_joinPath hroot, masked_joinPath hroot']
  cases hsensitive : sensitiveKey key with
  | true =>
    have hpath : sensitiveKey (pathOf root' [key]) = true := by
      show sensitiveKey (joinPath root' key) = true
      rw [sensitiveKey_joinPath, hsensitive, Bool.or_true]
    simp [SameMask, hpath]
  | false =>
    have hpath : sensitiveKey (joinPath root key) = false := by
      rw [sensitiveKey_joinPath, hroot, hsensitive, Bool.or_false]
    have hpath' : sensitiveKey (joinPath root' key) = false := by
      rw [sensitiveKey_joinPath, hroot', hsensitive, Bool.or_false]
    have hself : SameMask matchString patterns root root' [key] value ↔
        ruleMatches matchString patterns (joinPath root key) =
          ruleMatches matchString patterns (joinPath root' key) ∨ value = .str "MASKED" := by
      show sensitiveKey (joinPath root' key) = true ∨ _ ↔ _
      rw [hpath', Bool.false_eq_true, false_or]
      exact Iff.rfl
    rw [hself, Bool.false_or, Bool.false_or]
    cases hrule : ruleMatches matchString patterns (joinPath root key) with
    | true =>
      cases hrule' : ruleMatches matchString patterns (joinPath root' key) with
      | true => simp
      | false =>
        rw [if_pos rfl, if_neg Bool.false_ne_true, eq_comm, maskValue_eq_masked_iff]
        simp only [Bool.true_eq_false, false_or, iff_self_and]
        rintro rfl - keys w h
        cases h
    | false =>
      cases hrule' : ruleMatches matchString patterns (joinPath root' key) with
      | true => simp [maskValue_eq_masked_iff]
      | false =>
        rw [if_neg Bool.false_ne_true, if_neg Bool.false_ne_true, hvalue hpath hpath']
        simp only [true_or, true_and, forall_const]
        exact Iff.rfl

theorem maskItems_eq_iff {items : List Json} (hitems : ∀ item ∈ items,
      (maskValue matchString patterns root item = maskValue matchString patterns root' item ↔
        SameMasks matchString patterns root root' item)) :
    maskItems matchString patterns root items = maskItems matchString patterns root' items ↔
      SameMasks matchString patterns root root' (.arr items) := by
  induction items with
  | nil =>
    refine iff_of_true rfl ?_
    intro keys w h
    cases h with
    | item hmem => cases hmem
  | cons item items ih =>
    rw [List.forall_mem_cons] at hitems
    have hrest := ih hitems.2
    cases item with
    | obj fields =>
      have hfields := hitems.1
      rw [maskValue, maskValue, Json.obj.injEq] at hfields
      rw [maskItems, maskItems, List.cons.injEq, Json.obj.injEq, hfields, hrest]
      simp only [SameMasks, reaches_items_iff, Json.obj.injEq, exists_eq_left']
      constructor
      · rintro ⟨hhead, hlater⟩ keys w (h | h)
        · exact hhead keys w h
        · exact hlater keys w h
      · intro h
        exact ⟨fun keys w hw => h keys w (.inl hw), fun keys w hw => h keys w (.inr hw)⟩
    | _ =>
      simp only [maskItems, List.cons.injEq, true_and, hrest, SameMasks, reaches_items_iff,
        reduceCtorEq, false_and, exists_false, false_or]

theorem maskDocumentAt_eq_iff (hroot : sensitiveKey root = false)
    (hroot' : sensitiveKey root' = false)
    (hfields : ∀ field ∈ fields, sensitiveKey (joinPath root field.1) = false →
      sensitiveKey (joinPath root' field.1) = false →
      (maskValue matchString patterns (joinPath root field.1) field.2 =
          maskValue matchString patterns (joinPath root' field.1) field.2 ↔
        SameMasks matchString patterns (joinPath root field.1) (joinPath root' field.1) field.2)) :
    maskDocumentAt matchString patterns root fields =
        maskDocumentAt matchString patterns root' fields ↔
      SameMasks matchString patterns root root' (.obj fields) := by
  induction fields with
  | nil =>
    refine iff_of_true rfl ?_
    intro keys w h
    cases h with
    | member hmem | child hmem => cases hmem
  | cons field fields ih =>
    obtain ⟨key, value⟩ := field
    rw [List.forall_mem_cons] at hfields
    have hmember := member_eq_iff hroot hroot' hfields.1
    rw [maskDocumentAt, maskDocumentAt, List.cons.injEq, Prod.mk.injEq, hmember, ih hfields.2]
    simp only [SameMasks, reaches_cons_iff, true_and]
    constructor
    · rintro ⟨⟨hself, hbelow⟩, hrest⟩ keys w (⟨rfl, rfl⟩ | ⟨hclear, keys', rfl, h⟩ | h)
      · exact hself
      · exact hbelow hclear keys' w h
      · exact hrest keys w h
    · intro h
      exact ⟨⟨h _ _ (.inl ⟨rfl, rfl⟩), fun hclear keys w hw =>
        h _ w (.inr (.inl ⟨hclear, keys, rfl, hw⟩))⟩, fun keys w hw => h keys w (.inr (.inr hw))⟩

/-- A value is masked alike under two roots exactly when the rules treat every member that the walk
reaches alike. -/
theorem maskValue_eq_iff (value : Json) : ∀ root root' : String, sensitiveKey root = false →
    sensitiveKey root' = false →
    (maskValue matchString patterns root value = maskValue matchString patterns root' value ↔
      SameMasks matchString patterns root root' value) := by
  induction value using Json.induction with
  | leaf value harr hobj =>
    intro root root' _ _
    refine iff_of_true ?_ ?_
    · cases value with
      | arr items => exact absurd rfl (harr items)
      | obj fields => exact absurd rfl (hobj fields)
      | _ => rfl
    · intro keys w h
      cases h with
      | member | child => exact absurd rfl (hobj _)
      | item => exact absurd rfl (harr _)
  | arr items ih =>
    intro root root' hroot hroot'
    rw [maskValue, maskValue, Json.arr.injEq]
    exact maskItems_eq_iff fun item hitem => ih item hitem root root' hroot hroot'
  | obj fields ih =>
    intro root root' hroot hroot'
    rw [maskValue, maskValue, Json.obj.injEq]
    exact maskDocumentAt_eq_iff hroot hroot' fun field hfield => ih field hfield _ _

end Walk

end Rhythm.Elf
