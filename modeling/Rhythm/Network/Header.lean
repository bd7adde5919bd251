import Rhythm.Text
import Rhythm.Unmarshal

/-!
# Rhythm.Network.Header

`http.Header`: the values of a field, under the canonical spelling of its name.  A name that is no
token has no canonical spelling and stays as it is.

`Header.get` reads the first value of a field; the lemmas say what it reads after `Add`, `Set` and
`AddCookie`.  This module names nothing of the component.
-/

namespace Rhythm.Network

open Unmarshal (setKey lookup_setKey)

/-! ## Names -/

def isTokenChar (c : Char) : Bool := c.isAlphanum || c ∈ "!#$%&'*+-.^_`|~".toList

/-- A capital at the start and after each hyphen, small letters elsewhere. -/
def canonicalChars : Bool → List Char → List Char
  | _, [] => []
  | capital, c :: cs =>
    (if capital then c.toUpper else c.toLower) :: canonicalChars (c = '-') cs

/-- `textproto.CanonicalMIMEHeaderKey`. -/
def canonicalKey (name : String) : String :=
  if name.toList.all isTokenChar then String.ofList (canonicalChars true name.toList) else name

section Names

variable {name canonical : String} {c : Char}

theorem toNat_of_isTokenChar (hc : isTokenChar c = true) : c.toNat < 128 := by
  rcases Bool.or_eq_true_iff.mp hc with halphanum | hother
  · have hbound : c.val ≤ 'z'.val := by
      rcases Bool.or_eq_true_iff.mp halphanum with halpha | hdigit
      · rcases Bool.or_eq_true_iff.mp halpha with hupper | hlower
        · exact UInt32.le_trans (of_decide_eq_true hupper).2 (by decide)
        · exact of_decide_eq_true (Bool.and_eq_true_iff.mp hlower).2
      · exact UInt32.le_trans (of_decide_eq_true (Bool.and_eq_true_iff.mp hdigit).2) (by decide)
    exact lt_of_le_of_lt (UInt32.le_iff_toNat_le.mp hbound) (by decide)
  · have hall : ("!#$%&'*+-.^_`|~".toList.all fun d => d.toNat < 128) = true := by decide
    exact of_decide_eq_true (List.all_eq_true.mp hall c (of_decide_eq_true hother))

theorem forall_isTokenChar {p : Char → Prop} (h : ∀ n < 128, isTokenChar (Char.ofNat n) = true →
    p (Char.ofNat n)) (hc : isTokenChar c = true) : p c := by
  have hself := h c.toNat (toNat_of_isTokenChar hc)
  rw [Char.ofNat_toNat] at hself
  exact hself hc

theorem isSpace_of_isTokenChar (hc : isTokenChar c = true) : Text.isSpace c = false :=
  forall_isTokenChar (p := fun c => Text.isSpace c = false) (by decide) hc

theorem foldRune_toUpper (hc : isTokenChar c = true) :
    Text.foldRune c.toUpper = Text.foldRune c :=
  forall_isTokenChar (p := fun c => Text.foldRune c.toUpper = Text.foldRune c) (by decide) hc

theorem foldRune_toLower (hc : isTokenChar c = true) :
    Text.foldRune c.toLower = Text.foldRune c :=
  forall_isTokenChar (p := fun c => Text.foldRune c.toLower = Text.foldRune c) (by decide) hc

theorem foldRune_canonicalChars (capital : Bool) {cs : List Char}
    (hcs : ∀ c ∈ cs, isTokenChar c = true) :
    (canonicalChars capital cs).map Text.foldRune = cs.map Text.foldRune := by
  induction cs generalizing capital with
  | nil => rfl
  | cons c cs ih =>
    have hc := hcs c List.mem_cons_self
    rw [canonicalChars, List.map_cons, List.map_cons,
      ih _ fun d hd => hcs d (List.mem_cons_of_mem c hd)]
    cases capital
    · rw [if_neg (by simp), foldRune_toLower hc]
    · rw [if_pos rfl, foldRune_toUpper hc]

theorem equalFold_canonicalKey (name : String) :
    Text.equalFold name (canonicalKey name) = true := by
  grind [canonicalKey, Text.equalFold, String.toList_ofList, foldRune_canonicalChars]

theorem trimSpace_of_canonicalKey (hname : canonicalKey name = canonical)
    (hcanonical : canonical.toList.all isTokenChar = true) : Text.trimSpace name = name := by
  refine Text.trimSpace_of_forall fun c hc => isSpace_of_isTokenChar ?_
  unfold canonicalKey at hname
  split at hname
  · rename_i htoken
    exact List.all_eq_true.mp htoken c hc
  · rw [hname] at hc
    exact List.all_eq_true.mp hcanonical c hc

end Names

/-! ## Fields -/

structure Header where
  entries : List (String × List String)
  deriving DecidableEq

namespace Header

variable {h : Header} {name name' value : String}

/-- `Header.Values`. -/
def values (h : Header) (name : String) : List String :=
  (h.entries.lookup (canonicalKey name)).getD []

/-- `Header.Get`: the first value, or nothing. -/
def get (h : Header) (name : String) : String := (h.values name).headD ""

/-- `Header.Set`. -/
def set (h : Header) (name value : String) : Header :=
  ⟨setKey h.entries (canonicalKey name) [value]⟩

/-- `Header.Add`. -/
def add (h : Header) (name value : String) : Header :=
  ⟨setKey h.entries (canonicalKey name) (h.values name ++ [value])⟩

theorem values_set : (h.set name value).values name' =
    if canonicalKey name' = canonicalKey name then [value] else h.values name' := by
  rw [values, set, lookup_setKey]
  split <;> rfl

theorem values_add : (h.add name value).values name' =
    if canonicalKey name' = canonicalKey name then h.values name ++ [value]
    else h.values name' := by
  rw [values, add, lookup_setKey]
  split <;> rfl

theorem get_set : (h.set name value).get name' =
    if canonicalKey name' = canonicalKey name then value else h.get name' := by
  rw [get, values_set]
  split <;> rfl

theorem values_set_ne_nil (hthere : h.values name' ≠ []) :
    (h.set name value).values name' ≠ [] := by
  rw [values_set]
  split
  · exact List.cons_ne_nil value []
  · exact hthere

/-- **Added values**: those that are there, then those of the fields with the name. -/
theorem values_addAll (fields : List (String × String)) :
    (fields.foldl (fun h field => h.add field.1 field.2) h).values name = h.values name ++
      (fields.filter fun field => canonicalKey field.1 = canonicalKey name).map Prod.snd := by
  induction fields generalizing h with
  | nil => simp
  | cons field fields ih =>
    rw [List.foldl_cons, ih, values_add, List.filter_cons]
    by_cases hname : canonicalKey field.1 = canonicalKey name
    · grind [values, decide_eq_true]
    · rw [if_neg (Ne.symm hname), if_neg (by simpa using hname)]

/-! ## Cookies -/

/-- A cookie as a request sends it. -/
structure Cookie where
  name : String
  value : String

def Cookie.text (cookie : Cookie) : String := cookie.name ++ "=" ++ cookie.value

/-- `Request.AddCookie`: all cookies are in one field. -/
def addCookie (h : Header) (cookie : Cookie) : Header :=
  if h.get "Cookie" = "" then h.set "Cookie" cookie.text
  else h.set "Cookie" (h.get "Cookie" ++ "; " ++ cookie.text)

def addCookies (h : Header) (cookies : List Cookie) : Header := cookies.foldl addCookie h

theorem get_addCookies (hname : canonicalKey name ≠ canonicalKey "Cookie")
    (cookies : List Cookie) : (h.addCookies cookies).get name = h.get name := by
  induction cookies generalizing h with
  | nil => rfl
  | cons cookie cookies ih =>
    have hone : (h.addCookie cookie).get name = h.get name := by
      unfold addCookie
      split <;> rw [get_set, if_neg hname]
    exact ih.trans hone

theorem values_addCookies_ne_nil (hthere : h.values name ≠ []) (cookies : List Cookie) :
    (h.addCookies cookies).values name ≠ [] := by
  induction cookies generalizing h with
  | nil => exact hthere
  | cons cookie cookies ih =>
    refine ih (h := h.addCookie cookie) ?_
    unfold addCookie
    split <;> exact values_set_ne_nil hthere

theorem length_addCookie (cookie : Cookie) :
    (h.get "Cookie").length < ((h.addCookie cookie).get "Cookie").length := by
  have htext : 0 < cookie.text.length := by
    rw [Cookie.text, String.length_append, String.length_append]
    have hequals : "=".length = 1 := rfl
    omega
  unfold addCookie
  split
  · rename_i hempty
    rw [get_set, if_pos rfl, hempty]
    exact htext
  · rw [get_set, if_pos rfl, String.length_append, String.length_append]
    omega

theorem length_addCookies (cookies : List Cookie) :
    (h.get "Cookie").length ≤ ((h.addCookies cookies).get "Cookie").length := by
  induction cookies generalizing h with
  | nil => exact le_rfl
  | cons cookie cookies ih => exact (length_addCookie cookie).le.trans ih

/-- **Cookies are never added for nothing.** -/
theorem addCookies_eq_self_iff {cookies : List Cookie} :
    h.addCookies cookies = h ↔ cookies = [] := by
  constructor
  · intro hsame
    cases cookies with
    | nil => rfl
    | cons cookie cookies =>
      have hlonger := (length_addCookie (h := h) cookie).trans_le (length_addCookies cookies)
      have hfold : (h.addCookie cookie).addCookies cookies = h := hsame
      rw [hfold] at hlonger
      exact absurd hlonger (Nat.lt_irrefl _)
  · rintro rfl
    rfl

end Header

end Rhythm.Network
