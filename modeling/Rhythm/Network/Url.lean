import Mathlib.Data.List.Sort
import Rhythm.Text

/-!
# Rhythm.Network.Url

The parts of `net/url` between a parsed URL and its text: percent-encoding, queries and
`String`.  A part of the text that has none of the separators lies in one component of
the URL.  This module names nothing of the component.
-/

namespace Rhythm.Network

open Text

/-! ## Percent-encoding -/

/-- The letters that `url.QueryEscape` leaves alone. -/
def unreserved (c : Char) : Bool := c.isAlphanum || c ∈ ['-', '_', '.', '~']

def hexDigit (n : Nat) : Char :=
  ['0', '1', '2', '3', '4', '5', '6', '7', '8', '9', 'A', 'B', 'C', 'D', 'E', 'F'].getD n '0'

def escapeChar (c : Char) : List Char :=
  if unreserved c then [c]
  else if c = ' ' then ['+']
  else (String.utf8EncodeChar c).flatMap fun b =>
    ['%', hexDigit (b.toNat / 16), hexDigit (b.toNat % 16)]

/-- `url.QueryEscape`. -/
def queryEscape (s : String) : String := String.ofList (s.toList.flatMap escapeChar)

/-! ## Queries -/

/-- `url.Values`, in the order of the additions. -/
abbrev Query := List (String × String)

namespace Query

/-- `Add`. -/
def add (query : Query) (key value : String) : Query := query ++ [(key, value)]

/-- `Set`. -/
def set (query : Query) (key value : String) : Query :=
  query.filter (fun parameter => parameter.1 ≠ key) ++ [(key, value)]

/-- `Encode`. -/
def encode (query : Query) : String :=
  join '&' ((query.insertionSort fun a b => a.1 ≤ b.1).map fun parameter =>
    queryEscape parameter.1 ++ "=" ++ queryEscape parameter.2)

theorem mem_foldl_set {keys : List String} {value : String} {query : Query}
    {parameter : String × String}
    (h : parameter ∈ keys.foldl (fun (query : Query) key => query.set key value) query) :
    parameter.1 ∈ keys ∧ parameter.2 = value ∨ parameter ∈ query ∧ parameter.1 ∉ keys := by
  induction keys generalizing query with
  | nil => exact .inr ⟨h, List.not_mem_nil⟩
  | cons key keys ih =>
    obtain ⟨hkey, hvalue⟩ | ⟨hset, hlater⟩ := ih h
    · exact .inl ⟨List.mem_cons_of_mem key hkey, hvalue⟩
    · simp only [Query.set, List.mem_append, List.mem_singleton] at hset
      obtain hkept | rfl := hset
      · obtain ⟨hquery, hne⟩ := List.mem_filter.mp hkept
        exact .inr ⟨hquery, by simpa [hlater] using hne⟩
      · exact .inl ⟨List.mem_cons_self, rfl⟩

end Query

/-- The text has none of the letters that separate the components of a URL. -/
def Unseparated (s : String) : Prop :=
  '?' ∉ s.toList ∧ '#' ∉ s.toList ∧ '&' ∉ s.toList ∧ '=' ∉ s.toList

theorem contains_append_cons {s t part : String} {c : Char} (hc : c ∉ part.toList)
    (h : contains (s ++ String.singleton c ++ t) part = true) :
    contains s part = true ∨ contains t part = true := by
  rw [contains_iff, String.toList_append, String.toList_append, String.toList_singleton,
    List.append_assoc, List.singleton_append, infix_append_cons_iff hc] at h
  rw [contains_iff, contains_iff]
  exact h

theorem contains_encode {query : Query} {part : String} (hpart : part ≠ "")
    (hseparated : Unseparated part) (h : contains query.encode part = true) :
    ∃ parameter ∈ query, contains (queryEscape parameter.1) part = true ∨
      contains (queryEscape parameter.2) part = true := by
  obtain ⟨-, -, hand, hequals⟩ := hseparated
  obtain ⟨item, hitem, hcontains⟩ := contains_join hpart hand h
  obtain ⟨parameter, hparameter, rfl⟩ := List.mem_map.mp hitem
  rw [List.mem_insertionSort] at hparameter
  exact ⟨parameter, hparameter, contains_append_cons hequals hcontains⟩

/-! ## URLs -/

/-- `url.URL` with a host.  The path and the fragment are spelled as `String` prints them; the query
is decoded, `Query` and `Encode` undoing each other. -/
structure URL where
  scheme : String
  /-- There is user information. -/
  user : Bool
  host : String
  /-- The host without its port. -/
  hostname : String
  path : String
  forceQuery : Bool
  query : Query
  fragment : String

namespace URL

def base (url : URL) : String := url.scheme ++ "://" ++ url.host ++ url.path

/-- `String`, without user information. -/
def string (url : URL) : String :=
  let query := url.query.encode
  let beforeFragment :=
    if url.forceQuery = true ∨ query ≠ "" then url.base ++ "?" ++ query else url.base
  if url.fragment ≠ "" then beforeFragment ++ "#" ++ url.fragment else beforeFragment

def components (url : URL) : List String :=
  url.base :: url.fragment :: url.query.flatMap fun parameter =>
    [queryEscape parameter.1, queryEscape parameter.2]

/-- **Components.**  A part of the text that is not empty and has no separators is part of one
component. -/
theorem contains_string {url : URL} {part : String} (hpart : part ≠ "")
    (hseparated : Unseparated part) (h : contains url.string part = true) :
    ∃ component ∈ url.components, contains component part = true := by
  have hbefore : contains (if url.forceQuery = true ∨ url.query.encode ≠ "" then
      url.base ++ "?" ++ url.query.encode else url.base) part = true →
      ∃ component ∈ url.components, contains component part = true := by
    intro hcontains
    split at hcontains
    · obtain hbase | hquery := contains_append_cons hseparated.1 hcontains
      · exact ⟨url.base, List.mem_cons_self, hbase⟩
      · obtain ⟨parameter, hparameter, hkey | hvalue⟩ := contains_encode hpart hseparated hquery
        · refine ⟨queryEscape parameter.1, ?_, hkey⟩
          exact List.mem_cons_of_mem _ (List.mem_cons_of_mem _
            (List.mem_flatMap.mpr ⟨parameter, hparameter, by simp⟩))
        · refine ⟨queryEscape parameter.2, ?_, hvalue⟩
          exact List.mem_cons_of_mem _ (List.mem_cons_of_mem _
            (List.mem_flatMap.mpr ⟨parameter, hparameter, by simp⟩))
    · exact ⟨url.base, List.mem_cons_self, hcontains⟩
  simp only [string] at h
  split at h
  · obtain hfront | hfragment := contains_append_cons hseparated.2.1 h
    · exact hbefore hfront
    · exact ⟨url.fragment, by simp [components], hfragment⟩
  · exact hbefore h

end URL

end Rhythm.Network
