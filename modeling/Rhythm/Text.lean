import Mathlib.Data.List.DropRight
import Rhythm.Striking

/-!
# Rhythm.Text

The functions of Go's `strings` package that the component relies on, over Lean
strings, and two helpers built from them.  This module names nothing of the
component.
-/

namespace Rhythm.Text

/-- `unicode.IsSpace`: the Unicode property White_Space. -/
def isSpace (c : Char) : Bool :=
  c.val ∈ [0x09, 0x0A, 0x0B, 0x0C, 0x0D, 0x20, 0x85, 0xA0, 0x1680, 0x2000, 0x2001, 0x2002, 0x2003,
    0x2004, 0x2005, 0x2006, 0x2007, 0x2008, 0x2009, 0x200A, 0x2028, 0x2029, 0x202F, 0x205F, 0x3000]

/-- `strings.TrimSpace`. -/
def trimSpace (s : String) : String :=
  String.ofList ((s.toList.dropWhile isSpace).rdropWhile isSpace)

/-- `unicode.ToLower` on the letters whose lower case is ASCII: `A` to `Z`, the dotted capital
`I` and the Kelvin sign.  Other letters stay, which no comparison with an ASCII
text can tell. -/
def lowerRune (c : Char) : Char :=
  if c.val = 0x130 then 'i' else if c.val = 0x212A then 'k' else c.toLower

/-- `strings.ToLower`, for comparisons with ASCII texts. -/
def toLower (s : String) : String := String.ofList (s.toList.map lowerRune)

/-- `unicode.ToUpper` on the letters whose upper case is ASCII: `a` to `z`, the dotless `i` and the
long `s`. -/
def upperRune (c : Char) : Char :=
  if c.val = 0x131 then 'I' else if c.val = 0x17F then 'S' else c.toUpper

/-- `strings.ToUpper`, for comparisons with ASCII texts. -/
def toUpper (s : String) : String := String.ofList (s.toList.map upperRune)

/-- A letter under simple folding, which joins the long `s` and the Kelvin sign with ASCII. -/
def foldRune (c : Char) : Char :=
  if c.val = 0x17F then 's' else if c.val = 0x212A then 'k' else c.toLower

/-- `strings.EqualFold`, for comparisons with ASCII texts. -/
def equalFold (s t : String) : Bool := s.toList.map foldRune = t.toList.map foldRune

/-- `defaultString`: the trimmed text, or the fallback when nothing is left. -/
def defaultString (value fallback : String) : String :=
  if trimSpace value = "" then fallback else trimSpace value

/-- `safeError`: a message on one line. -/
def safeError (message : String) : String :=
  String.ofList (message.toList.map fun c => if c = '\n' then ' ' else c)

/-- `strings.HasPrefix`. -/
def hasPrefix (s start : String) : Bool := start.toList.isPrefixOf s.toList

/-- `strings.Contains`. -/
def contains (s part : String) : Bool := s.toList.tails.any part.toList.isPrefixOf

/-- `strings.HasSuffix`. -/
def hasSuffix (s suffix : String) : Bool := suffix.toList.isSuffixOf s.toList

/-- `strings.Split` at one character. -/
def split (s : String) (separator : Char) : List String :=
  (s.toList.splitOn separator).map String.ofList

/-- `strings.TrimPrefix`. -/
def trimPrefix (s start : String) : String :=
  if hasPrefix s start then String.ofList (s.toList.drop start.toList.length) else s

/-- `strings.TrimSuffix`. -/
def trimSuffix (s suffix : String) : String :=
  if hasSuffix s suffix then String.ofList (s.toList.take (s.toList.length - suffix.toList.length))
  else s

theorem trimSpace_of_ends {s : String} (hhead : ∀ c ∈ s.toList.head?, isSpace c = false)
    (hlast : ∀ c ∈ s.toList.getLast?, isSpace c = false) : trimSpace s = s := by
  have hdrop : s.toList.dropWhile isSpace = s.toList := by
    rw [List.dropWhile_eq_self_iff]
    intro hpos
    rw [hhead _ (by rw [List.head?_eq_getElem?, List.getElem?_eq_getElem hpos]; rfl)]
    simp
  have hrdrop : s.toList.rdropWhile isSpace = s.toList := by
    rw [List.rdropWhile_eq_self_iff]
    intro hne
    rw [hlast _ (by rw [List.getLast?_eq_some_getLast hne]; rfl)]
    simp
  rw [trimSpace, hdrop, hrdrop, String.ofList_toList]

theorem trimSpace_of_forall {s : String} (h : ∀ c ∈ s.toList, isSpace c = false) :
    trimSpace s = s :=
  trimSpace_of_ends (fun c hc => h c (List.mem_of_mem_head? hc))
    fun c hc => h c (List.mem_of_mem_getLast? hc)

theorem trimSpace_trimSpace (s : String) : trimSpace (trimSpace s) = trimSpace s := by
  have hstart : ((s.toList.dropWhile isSpace).rdropWhile isSpace).dropWhile isSpace =
      (s.toList.dropWhile isSpace).rdropWhile isSpace := by
    cases hkept : (s.toList.dropWhile isSpace).rdropWhile isSpace with
    | nil => rfl
    | cons c rest =>
      obtain ⟨tail, htail⟩ := List.rdropWhile_prefix isSpace (s.toList.dropWhile isSpace)
      rw [hkept, List.cons_append] at htail
      have hself := List.dropWhile_idempotent isSpace s.toList
      rw [← htail, List.dropWhile_eq_self_iff] at hself
      have hc : ¬ isSpace c = true := hself (Nat.succ_pos _)
      rw [List.dropWhile_cons, if_neg hc]
  rw [trimSpace, trimSpace, String.toList_ofList, hstart, List.rdropWhile_idempotent]

theorem contains_iff {s part : String} : contains s part = true ↔ part.toList <:+: s.toList := by
  rw [contains, List.any_eq_true, List.infix_iff_prefix_suffix]
  simp [List.mem_tails, and_comm]

theorem prefix_append_cons_iff {part l l' : List Char} {c : Char} (hc : c ∉ part) :
    part <+: l ++ c :: l' ↔ part <+: l := by
  constructor
  · rintro ⟨rest, h⟩
    rw [List.append_eq_append_iff] at h
    obtain ⟨m, hl, -⟩ | ⟨m, hpart, hm⟩ := h
    · exact ⟨m, hl.symm⟩
    · cases m with
      | nil => exact ⟨[], by rw [hpart, List.append_nil, List.append_nil]⟩
      | cons d m =>
        rw [List.cons_append, List.cons.injEq] at hm
        rw [hpart, hm.1] at hc
        simp at hc
  · intro h
    exact h.trans (List.prefix_append l (c :: l'))

theorem infix_append_cons_iff {part l l' : List Char} {c : Char} (hc : c ∉ part) :
    part <:+: l ++ c :: l' ↔ part <:+: l ∨ part <:+: l' := by
  induction l with
  | nil =>
    grind [prefix_append_cons_iff, List.infix_cons_iff]
  | cons d l ih =>
    rw [List.cons_append, List.infix_cons_iff, List.infix_cons_iff, ih, ← List.cons_append,
      prefix_append_cons_iff hc, or_assoc]

/-! ## Replacing -/

/-- `strings.ReplaceAll` on letters, after a match that still covers `skip` of them. -/
def replaceFrom (old new : List Char) : Nat → List Char → List Char
  | _, [] => []
  | skip + 1, _ :: cs => replaceFrom old new skip cs
  | 0, c :: cs =>
    if old.isPrefixOf (c :: cs) then new ++ replaceFrom old new (old.length - 1) cs
    else c :: replaceFrom old new 0 cs

/-- `strings.ReplaceAll`. -/
def replaceAll (s old new : String) : String :=
  if old = "" then String.ofList (new.toList ++ s.toList.flatMap fun c => c :: new.toList)
  else String.ofList (replaceFrom old.toList new.toList 0 s.toList)

/-- `strings.Join` at one character. -/
def join (separator : Char) : List String → String
  | [] => ""
  | [s] => s
  | s :: t :: rest => s ++ String.singleton separator ++ join separator (t :: rest)

section Replace

variable {part old new l : List Char}

theorem replaceFrom_eq_drop (skip : Nat) (l : List Char) :
    replaceFrom old new skip l = replaceFrom old new 0 (l.drop skip) := by
  induction skip generalizing l with
  | zero => rfl
  | succ skip ih =>
    cases l with
    | nil => rfl
    | cons c cs => exact ih cs

theorem detached_of_disjoint (hpart : part ≠ []) (hnew : new ≠ [])
    (hdisjoint : ∀ c ∈ part, c ∉ new) : Detached part new := by
  have hshared : ∀ t, t ≠ [] → t ⊆ part → t ⊆ new → False := by
    intro t hempty hleft hright
    obtain ⟨c, hc⟩ := List.exists_mem_of_ne_nil t hempty
    exact hdisjoint c (hleft hc) (hright hc)
  refine ⟨fun h => ?_, fun h => ?_, fun t ht hempty h => ?_, fun t ht hempty h => ?_⟩
  · exact hshared part hpart (List.Subset.refl part) h.subset
  · exact hshared new hnew h.subset (List.Subset.refl new)
  · exact hshared t hempty h.subset ((List.mem_tails _ _).mp ht).subset
  · exact hshared t hempty h.subset ((List.mem_inits _ _).mp ht).subset

theorem struck_replaceFrom {α : Type} (g : Char → List α) (old new l : List Char) :
    Struck (new.flatMap g) (l.flatMap g) ((replaceFrom old new 0 l).flatMap g) := by
  induction hlength : l.length using Nat.strongRecOn generalizing l with
  | ind n ih =>
    cases l with
    | nil => exact .nil
    | cons c cs =>
      rw [replaceFrom]
      split
      · have hshorter : (cs.drop (old.length - 1)).length < n := by
          rw [← hlength, List.length_drop, List.length_cons]
          omega
        have hrest := ih _ hshorter (cs.drop (old.length - 1)) rfl
        have hsplit : c :: cs = (c :: cs.take (old.length - 1)) ++ cs.drop (old.length - 1) := by
          rw [List.cons_append, List.take_append_drop]
        rw [replaceFrom_eq_drop, hsplit, List.flatMap_append, List.flatMap_append]
        exact .strike _ hrest
      · have hshorter : cs.length < n := by
          rw [← hlength, List.length_cons]
          omega
        rw [List.flatMap_cons, List.flatMap_cons]
        exact (Struck.refl (g c)).append (ih _ hshorter cs rfl)

theorem struck_self (old new l : List Char) : Struck new l (replaceFrom old new 0 l) := by
  have h := struck_replaceFrom (fun c => [c]) old new l
  rwa [List.flatMap_singleton', List.flatMap_singleton', List.flatMap_singleton'] at h

theorem Detached.infix_of_append (hdetached : Detached part new) (h : part <:+: new ++ l) :
    part <:+: l :=
  Struck.infix_of_append (f := id) (by rwa [List.map_id]) (List.map_id part) List.suffix_rfl h

theorem Detached.prefix_of_replaceFrom (hdetached : Detached part new)
    (h : part <+: replaceFrom old new 0 l) : part <+: l :=
  Struck.isPrefix (f := id) (by rwa [List.map_id]) (struck_self old new l)
    (by rw [List.map_id]) h

/-- **Replacing uncovers nothing.**  A detached part was there before. -/
theorem Detached.infix_of_replaceFrom (hdetached : Detached part new)
    (h : part <:+: replaceFrom old new 0 l) : part <:+: l :=
  (struck_self old new l).isInfix (f := id) (by rwa [List.map_id]) (List.map_id part) h

/-- **Replacing is complete.**  What is replaced is gone, when it is detached from what replaces
it. -/
theorem Detached.not_infix_replaceFrom (hdetached : Detached old new) :
    ¬ old <:+: replaceFrom old new 0 l := by
  have hold : old ≠ [] := fun hempty => hdetached.1 (hempty ▸ List.nil_infix)
  induction hlength : l.length using Nat.strongRecOn generalizing l with
  | ind n ih =>
    intro h
    cases l with
    | nil => exact hold (List.infix_nil.mp h)
    | cons c cs =>
      rw [replaceFrom] at h
      split at h
      · have hrest := hdetached.infix_of_append h
        rw [replaceFrom_eq_drop] at hrest
        have hshorter : (cs.drop (old.length - 1)).length < n := by
          rw [← hlength, List.length_drop, List.length_cons]
          omega
        exact ih _ hshorter rfl hrest
      · next hmatch =>
        obtain hhere | hrest := List.infix_cons_iff.mp h
        · have hunchanged : old <+: replaceFrom old new 0 (c :: cs) := by
            rw [replaceFrom, if_neg hmatch]
            exact hhere
          have hbefore := hdetached.prefix_of_replaceFrom hunchanged
          exact hmatch (List.isPrefixOf_iff_prefix.mpr hbefore)
        · have hshorter : cs.length < n := by
            rw [← hlength, List.length_cons]
            omega
          exact ih _ hshorter rfl hrest

end Replace

def Apart (part new : String) : Prop := ∀ c ∈ part.toList, c ∉ new.toList

instance (part new : String) : Decidable (Apart part new) :=
  List.decidableBAll (fun c => c ∉ new.toList) part.toList

theorem contains_of_contains_replaceAll_of_detached {s old new part : String} (hold : old ≠ "")
    (hdetached : Detached part.toList new.toList)
    (h : contains (replaceAll s old new) part = true) : contains s part = true := by
  rw [contains_iff] at h ⊢
  rw [replaceAll, if_neg hold, String.toList_ofList] at h
  exact hdetached.infix_of_replaceFrom h

theorem not_contains_replaceAll_of_detached {s old new : String}
    (hdetached : Detached old.toList new.toList) :
    contains (replaceAll s old new) old = false := by
  have hold : old ≠ "" := by
    rintro rfl
    exact hdetached.1 List.nil_infix
  rw [Bool.eq_false_iff]
  intro h
  rw [contains_iff, replaceAll, if_neg hold, String.toList_ofList] at h
  exact hdetached.not_infix_replaceFrom h

theorem contains_of_contains_replaceAll {s old new part : String} (hold : old ≠ "")
    (hnew : new ≠ "") (hdisjoint : Apart part new)
    (h : contains (replaceAll s old new) part = true) : contains s part = true := by
  by_cases hpart : part = ""
  · rw [contains_iff, hpart]
    exact List.nil_infix
  · refine contains_of_contains_replaceAll_of_detached hold ?_ h
    exact detached_of_disjoint (by simpa using hpart) (by simpa using hnew) hdisjoint

theorem not_contains_replaceAll {s old new : String} (hold : old ≠ "") (hnew : new ≠ "")
    (hdisjoint : Apart old new) : contains (replaceAll s old new) old = false :=
  not_contains_replaceAll_of_detached
    (detached_of_disjoint (by simpa using hold) (by simpa using hnew) hdisjoint)

theorem contains_join {separator : Char} {part : String} {items : List String} (hpart : part ≠ "")
    (hseparator : separator ∉ part.toList) (h : contains (join separator items) part = true) :
    ∃ item ∈ items, contains item part = true := by
  induction items with
  | nil =>
    rw [contains_iff] at h
    exact absurd (List.infix_nil.mp h) (by simpa using hpart)
  | cons s rest ih =>
    cases rest with
    | nil => exact ⟨s, List.mem_cons_self, h⟩
    | cons t rest =>
      rw [contains_iff, join, String.toList_append, String.toList_append, String.toList_singleton,
        List.append_assoc, List.singleton_append, infix_append_cons_iff hseparator,
        ← contains_iff, ← contains_iff] at h
      obtain hhere | hlater := h
      · exact ⟨s, List.mem_cons_self, hhere⟩
      · obtain ⟨item, hitem, hcontains⟩ := ih hlater
        exact ⟨item, List.mem_cons_of_mem s hitem, hcontains⟩

end Rhythm.Text
