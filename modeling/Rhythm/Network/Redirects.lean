import Rhythm.Network.Header
import Rhythm.Network.Url

/-!
# Rhythm.Network.Redirects

The requests that `net/http` makes when it follows redirects.  Each has the headers of the first
one, but without `Authorization`, `Cookie` and `Www-Authenticate` from the first redirect on that
leaves the domain; a `Referer` names the URL that came before.

`keeps_iff` says when a header or a parameter of the first request reaches no other origin.  This
module names nothing of the component.
-/

namespace Rhythm.Network

/-! ## Origins -/

def afterColon (host : String) : List Char :=
  (host.toList.reverse.takeWhile (· ≠ ':')).reverse

/-- `URL.Port`. -/
def URL.port (url : URL) : List Char :=
  if ':' ∈ url.host.toList ∧ (afterColon url.host).all Char.isDigit = true then afterColon url.host
  else []

def URL.dialledPort (url : URL) : Nat :=
  match url.port with
  | [] => if url.scheme = "https" then 443 else 80
  | digits => digits.foldl (fun n c => 10 * n + (c.toNat - '0'.toNat)) 0

/-- A scheme, a host and a port. -/
structure Origin where
  scheme : String
  host : String
  port : Nat
  deriving DecidableEq

/-- The origin of a URL; `ascii` is the ASCII form of a host name. -/
def URL.origin (ascii : String → String) (url : URL) : Origin :=
  ⟨url.scheme, Text.toLower (ascii url.hostname), url.dialledPort⟩

/-- `isDomainOrSubdomain`. -/
def isDomainOrSubdomain (sub parent : String) : Bool :=
  sub = parent ||
    (!(sub.toList.any fun c => c = ':' || c = '%') && Text.hasSuffix sub ("." ++ parent))

/-! ## Requests -/

def guardedHeaders : List String := ["Authorization", "Cookie", "Www-Authenticate"]

def Header.unguarded (h : Header) : Header :=
  ⟨h.entries.filter fun entry => entry.1 ∉ guardedHeaders⟩

theorem Header.values_unguarded (h : Header) (name : String) :
    h.unguarded.values name =
      if canonicalKey name ∈ guardedHeaders then [] else h.values name := by
  have hlookup := Unmarshal.lookup_filter_key h.entries (fun key => decide (key ∉ guardedHeaders))
    (canonicalKey name)
  rw [Header.values, Header.unguarded, hlookup]
  by_cases hguarded : canonicalKey name ∈ guardedHeaders
  · rw [if_pos hguarded, if_neg (by simpa using hguarded)]
    rfl
  · rw [if_neg hguarded, if_pos (decide_eq_true hguarded), Header.values]

/-- A request of a chain. -/
structure Chained where
  url : URL
  header : Header
  /-- The URL that the client names in `Referer`. -/
  referer : Option URL

/-- A request before any redirect. -/
structure Original where
  url : URL
  header : Header

/-- `refererForURL`: nothing when the request has a `Referer`, or when the chain leaves `https`. -/
def refererFor (first : Original) (previous url : URL) : Option URL :=
  if previous.scheme = "https" ∧ url.scheme = "http" then none
  else if first.header.get "Referer" ≠ "" then none
  else some previous

section Chains

variable (ascii : String → String) (first : Original)

def leavesDomain (url : URL) : Bool :=
  !isDomainOrSubdomain (ascii url.hostname) (ascii first.url.hostname)

def redirected (stripped : Bool) (previous url : URL) : Chained :=
  ⟨url, if stripped then first.header.unguarded else first.header, refererFor first previous url⟩

/-- The requests of the redirects: what is stripped once stays stripped. -/
def follow : Bool → URL → List URL → List Chained
  | _, _, [] => []
  | stripped, previous, url :: urls =>
    let stripped := stripped || leavesDomain ascii first url
    redirected first stripped previous url :: follow stripped url urls

def chain (urls : List URL) : List Chained :=
  ⟨first.url, first.header, none⟩ :: follow ascii first false first.url urls

end Chains

/-! ## What a chain carries -/

/-- What is not for everyone: a header field, or a parameter with its value. -/
inductive Credential where
  | header (name : String)
  | parameter (name value : String)
  deriving DecidableEq

/-- The request has the field, or the parameter is in its URL or in the URL that it names. -/
def Chained.Carries (request : Chained) : Credential → Prop
  | .header name => request.header.values name ≠ []
  | .parameter name value =>
    (name, value) ∈ request.url.query ∨ ∃ referer ∈ request.referer, (name, value) ∈ referer.query

section Keeping

variable {ascii : String → String} {first : Original} {stripped : Bool} {previous : URL}
  {urls : List URL}

def lastUrl : URL → List URL → URL
  | first, [] => first
  | _, url :: before => lastUrl url before

/-- **The requests of a chain**, each by the redirects before it. -/
theorem mem_follow {request : Chained} :
    request ∈ follow ascii first stripped previous urls ↔
      ∃ before url after, urls = before ++ url :: after ∧
        request = redirected first (stripped || (before ++ [url]).any (leavesDomain ascii first))
          (lastUrl previous before) url := by
  induction urls generalizing stripped previous with
  | nil => simp [follow]
  | cons head urls ih =>
    rw [follow, List.mem_cons, ih]
    constructor
    · rintro (rfl | ⟨before, url, after, rfl, rfl⟩)
      · exact ⟨[], head, urls, rfl, by simp [lastUrl]⟩
      · exact ⟨head :: before, url, after, rfl, by
          rw [List.cons_append, List.any_cons, Bool.or_assoc, lastUrl]⟩
    · rintro ⟨before, url, after, hsplit, rfl⟩
      cases before with
      | nil =>
        obtain ⟨rfl, rfl⟩ := List.cons.inj hsplit
        exact .inl (by simp [lastUrl])
      | cons next before =>
        grind [List.cons.inj, Bool.or_assoc, lastUrl]

/-- A request of another origin that comes after these redirects does not carry the credential. -/
def Withheld (ascii : String → String) (first : Original) (before : List URL) (url : URL) :
    Credential → Prop
  | .header name => canonicalKey name ∈ guardedHeaders ∧
      ∃ left ∈ before ++ [url], leavesDomain ascii first left = true
  | .parameter name value => (name, value) ∉ url.query ∧
      ∀ referer ∈ refererFor first (lastUrl first.url before) url, (name, value) ∉ referer.query

theorem not_carries_redirected {before : List URL} {url : URL} {credential : Credential}
    (hfirst : ∀ name, credential = .header name → first.header.values name ≠ []) :
    ¬(redirected first ((before ++ [url]).any (leavesDomain ascii first))
        (lastUrl first.url before) url).Carries credential ↔
      Withheld ascii first before url credential := by
  cases credential with
  | parameter name value =>
    simp only [Chained.Carries, redirected, Withheld, not_or, not_exists, not_and]
  | header name =>
    have hname := hfirst name rfl
    simp only [Chained.Carries, redirected, Withheld, not_not, ← List.any_eq_true]
    cases (before ++ [url]).any (leavesDomain ascii first) with
    | false => simp [hname]
    | true =>
      rw [if_pos rfl, Header.values_unguarded]
      split <;> simp_all

/-- The credential is carried to the origin of the first request only. -/
def Keeps (ascii : String → String) (first : Original) (urls : List URL)
    (credential : Credential) : Prop :=
  ∀ request ∈ chain ascii first urls, request.Carries credential →
    request.url.origin ascii = first.url.origin ascii

/-- **Keeping.**  Wherever the chain comes to another origin, the credential is withheld. -/
theorem keeps_iff {credential : Credential}
    (hfirst : ∀ name, credential = .header name → first.header.values name ≠ []) :
    Keeps ascii first urls credential ↔
      ∀ before url after, urls = before ++ url :: after →
        url.origin ascii ≠ first.url.origin ascii →
          Withheld ascii first before url credential := by
  constructor
  · intro hkeeps before url after hsplit horigin
    rw [← not_carries_redirected hfirst]
    intro hcarries
    have hmem : redirected first ((before ++ [url]).any (leavesDomain ascii first))
        (lastUrl first.url before) url ∈ follow ascii first false first.url urls :=
      mem_follow.mpr ⟨before, url, after, hsplit, by rw [Bool.false_or]⟩
    exact horigin (hkeeps _ (List.mem_cons_of_mem _ hmem) hcarries)
  · intro hwithheld request hrequest hcarries
    obtain rfl | hrequest := List.mem_cons.mp hrequest
    · rfl
    · obtain ⟨before, url, after, hsplit, rfl⟩ := mem_follow.mp hrequest
      by_contra horigin
      rw [Bool.false_or] at hcarries
      exact (not_carries_redirected hfirst).mpr (hwithheld before url after hsplit horigin) hcarries

end Keeping

end Rhythm.Network
