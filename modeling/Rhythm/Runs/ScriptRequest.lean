import Mathlib.Data.List.Sort
import Mathlib.Data.String.Basic
import Rhythm.Fallible
import Rhythm.Json
import Rhythm.Runs.Building
import Rhythm.Runs.Preview

/-!
# Rhythm.Runs.ScriptRequest

The request and the cookies that a pre-request script is given, and what is made of those that it
leaves.  The cookies are those of the configuration and those of the jar for its URL, all in one
map; they are written back in the order of their names.

`renderedCookies_applyScriptCookies_iff` says when this leaves the cookies of the request as they
were.
-/

namespace Rhythm.Runs.Unchanged

open Text
open Network (URL)

/-! ## The request of a script -/

/-- `scripts.Entry`. -/
structure Entry where
  key : String
  value : String
  sensitive : Bool

/-- `scripts.Request`. -/
structure ScriptRequest where
  method : String
  url : String
  headers : List Entry
  query : List Entry
  body : List (String × Json)
  auth : List (String × Json)

def entries (items : List Decoding.KeyValue) : List Entry :=
  (items.filter Decoding.KeyValue.enabled).map fun item => ⟨item.key, item.value, item.sensitive⟩

/-- `scriptRequest`. -/
def scriptRequest (config : Decoding.RequestConfig) : ScriptRequest where
  method := config.method
  url := config.url
  headers := entries config.headers
  query := entries config.params
  body := [("type", .str config.body.type), ("content", .str config.body.content)]
  auth := [("type", .str config.auth.type),
    ("fields", .obj (config.auth.fields.map fun field => (field.1, .str field.2)))]

/-- `fmt.Sprint`, which leaves a text as it is. -/
def sprint (other : Json → String) : Json → String
  | .str text => text
  | value => other value

@[simp]
theorem sprint_str (other : Json → String) (text : String) : sprint other (.str text) = text := rfl

def items (entries : List Entry) : List Decoding.KeyValue :=
  entries.map fun item => ⟨true, item.key, item.value, item.sensitive⟩

/-- `applyScriptRequest`. -/
def applyScriptRequest (other : Json → String) (config : Decoding.RequestConfig)
    (request : ScriptRequest) : Decoding.RequestConfig :=
  let text (fields : List (String × Json)) (name default : String) : String :=
    ((fields.lookup name).map (sprint other)).getD default
  { config with
    method := request.method
    url := request.url
    headers := items request.headers
    params := items request.query
    body :=
      { type := text request.body "type" config.body.type
        content := text request.body "content" config.body.content }
    auth :=
      { type := text request.auth "type" config.auth.type
        fields :=
          match request.auth.lookup "fields" with
          | some (.obj fields) => fields.map fun field => (field.1, sprint other field.2)
          | _ => config.auth.fields } }

theorem items_entries (list : List Decoding.KeyValue) :
    items (entries list) = list.filter Decoding.KeyValue.enabled := by
  rw [items, entries, List.map_map]
  conv_rhs => rw [← List.map_id (list.filter Decoding.KeyValue.enabled)]
  refine List.map_congr_left fun item hitem => ?_
  have henabled := (List.mem_filter.mp hitem).2
  obtain ⟨enabled, key, value, sensitive⟩ := item
  obtain rfl : enabled = true := henabled
  rfl

/-- **The request comes back** without the items that are not enabled. -/
theorem applyScriptRequest_scriptRequest (other : Json → String) (config : Decoding.RequestConfig) :
    applyScriptRequest other config (scriptRequest config) =
      { config with
        headers := config.headers.filter Decoding.KeyValue.enabled
        params := config.params.filter Decoding.KeyValue.enabled } := by
  have hfields : (config.auth.fields.map fun field => (field.1, Json.str field.2)).map
      (fun field => (field.1, sprint other field.2)) = config.auth.fields := by
    rw [List.map_map]
    exact List.map_id config.auth.fields
  unfold applyScriptRequest
  dsimp only [scriptRequest]
  rw [items_entries, items_entries]
  simp only [List.lookup_cons_self, Option.map_some, Option.getD_some, sprint_str,
    show ("content" == "type") = false from rfl, show ("fields" == "type") = false from rfl,
    List.lookup_cons, hfields]

/-! ## The cookies of a script -/

/-- `jar.Cookies`: the names and the values. -/
abbrev Jar := URL → List (String × String)

def used (cookie : Decoding.CookieConfig) : Bool := cookie.enabled && trimSpace cookie.key ≠ ""

/-- `scriptCookies`. -/
def scriptCookies (parseURL : String → Option URL) (config : Decoding.RequestConfig)
    (jar : Option Jar) : Values :=
  let values := Values.writeAll []
    ((config.cookies.filter used).map fun cookie => (cookie.key, cookie.value))
  match jar, parseURL config.url with
  | some jar, some target =>
    if target.scheme = "" ∨ target.host = "" then values else values.writeAll (jar target)
  | _, _ => values

/-- The cookie of the configuration with this name; the last one counts. -/
def existing (config : Decoding.RequestConfig) (name : String) : Decoding.CookieConfig :=
  (config.cookies.reverse.find? fun cookie => cookie.key = name).getD {}

def sortedNames (values : Values) : List String :=
  (values.map Prod.fst).insertionSort fun a b => a ≤ b

/-- `applyScriptCookies`: the configuration. -/
def applyScriptCookies (config : Decoding.RequestConfig) (values : Values) :
    Decoding.RequestConfig :=
  { config with
    cookies := (sortedNames values).map fun name =>
      let cookie := existing config name
      { cookie with
        enabled := true
        key := name
        value := (values.lookup name).getD ""
        path := if cookie.path = "" then "/" else cookie.path } }

/-- The cookies that `buildRequest` adds: their names and their values. -/
def renderedCookies (generate : Generator) (values : Values) (config : Decoding.RequestConfig) :
    Option (List (String × String)) :=
  (renderItems generate values (Building.requestText config).cookies).toOption.map fun cookies =>
    cookies.map fun cookie => (cookie.1.key, cookie.2)

def rendered (generate : Generator) (values : Values) (text : String) : Option String :=
  (render generate text values).toOption

/-- The cookies are sorted, and those of the jar are among them with the same values; or one cannot
be rendered, whichever of the two it is. -/
def CookiesKept (generate : Generator) (values : Values) (config : Decoding.RequestConfig)
    (given : Values) : Prop :=
  if ∃ cookie ∈ config.cookies.filter used, rendered generate values cookie.value = none then
    ∃ name value, given.lookup name = some value ∧ trimSpace name ≠ "" ∧
      rendered generate values value = none
  else
    ((config.cookies.filter used).map Decoding.CookieConfig.key).Pairwise (· < ·) ∧
      ∀ name value, given.lookup name = some value → trimSpace name ≠ "" →
        ∃ cookie ∈ config.cookies.filter used, cookie.key = name ∧
          rendered generate values value = rendered generate values cookie.value

section Cookies

variable {generate : Generator} {values given : Values} {config : Decoding.RequestConfig}
  {parseURL : String → Option URL} {jar : Option Jar} {name value : String}

def Rendered (generate : Generator) (values : Values) (cookie : Decoding.CookieConfig)
    (pair : String × String) : Prop :=
  pair.1 = cookie.key ∧ rendered generate values cookie.value = some pair.2

variable {pairs : List (String × String)}

theorem renderedCookies_eq_some_iff :
    renderedCookies generate values config = some pairs ↔
      List.Forall₂ (Rendered generate values) (config.cookies.filter used) pairs := by
  have hfilter : (Building.requestText config).cookies.filter KeyValue.used =
      (config.cookies.filter used).map fun item =>
        ⟨item.enabled, item.key, item.value, item.sensitive⟩ := List.filter_map
  rw [renderedCookies, Option.map_eq_some_iff, renderItems, hfilter]
  simp only [Building.toOption_eq_some_iff, Fallible.mapM_eq_ok_iff, List.forall₂_map_left_iff]
  rw [Fallible.exists_forall₂_map_iff]
  have hone : ∀ cookie pair, (∃ item : KeyValue × String,
      (render generate cookie.value values).map (fun value =>
        ((⟨cookie.enabled, cookie.key, cookie.value, cookie.sensitive⟩ : KeyValue), value)) =
          .ok item ∧ (item.1.key, item.2) = pair) ↔ Rendered generate values cookie pair := by
    rintro cookie ⟨name, value⟩
    rw [Rendered, rendered]
    cases render generate cookie.value values with
    | error e => simp [Except.map, Except.toOption]
    | ok text => simp [Except.map, Except.toOption, eq_comm]
  simp only [hone]

theorem renderedCookies_eq_none_iff :
    renderedCookies generate values config = none ↔
      ∃ cookie ∈ config.cookies.filter used, rendered generate values cookie.value = none := by
  rw [← not_iff_not, ← Ne, Option.ne_none_iff_exists']
  simp only [renderedCookies_eq_some_iff]
  rw [Fallible.exists_forall₂_iff]
  push Not
  refine forall₂_congr fun cookie _ => ?_
  rw [Option.ne_none_iff_exists']
  constructor
  · rintro ⟨pair, -, hvalue⟩
    exact ⟨_, hvalue⟩
  · rintro ⟨value, hvalue⟩
    exact ⟨(cookie.key, value), rfl, hvalue⟩

/-! ### The cookies that are written back -/

def sentNames (values : Values) : List String :=
  (sortedNames values).filter fun name => trimSpace name ≠ ""

theorem mem_sentNames :
    name ∈ sentNames given ↔ (given.lookup name).isSome ∧ trimSpace name ≠ "" := by
  rw [sentNames, List.mem_filter, sortedNames, List.mem_insertionSort, decide_eq_true_eq,
    and_congr_left_iff]
  intro _
  rw [← not_iff_not, Option.not_isSome_iff_eq_none, Values.lookup_eq_none, List.mem_map]
  push Not
  constructor
  · exact fun h value hmem => h (name, value) hmem rfl
  · rintro h ⟨_, value⟩ hmem rfl
    exact h value hmem

theorem sentNames_pairwise (hnodup : (given.map Prod.fst).Nodup) :
    (sentNames given).Pairwise (· < ·) := by
  refine List.Pairwise.filter _ ?_
  have hsorted : (sortedNames given).Pairwise (· ≤ ·) := List.pairwise_insertionSort _ _
  have hdistinct : (sortedNames given).Nodup :=
    (List.perm_insertionSort _ _).nodup_iff.mpr hnodup
  exact (hsorted.and hdistinct).imp fun h => lt_of_le_of_ne h.1 h.2

/-- **The cookies that are written back**, rendered. -/
theorem renderedCookies_applyScriptCookies :
    renderedCookies generate values (applyScriptCookies config given) = some pairs ↔
      List.Forall₂ (fun name pair => pair.1 = name ∧
        rendered generate values ((given.lookup name).getD "") = some pair.2)
        (sentNames given) pairs := by
  rw [renderedCookies_eq_some_iff, applyScriptCookies, List.filter_map, List.forall₂_map_left_iff]
  have hfilter : (sortedNames given).filter (used ∘ fun name =>
      { existing config name with
        enabled := true
        key := name
        value := (given.lookup name).getD ""
        path := if (existing config name).path = "" then "/" else (existing config name).path }) =
      sentNames given := by
    refine List.filter_congr fun name _ => ?_
    rw [Function.comp_apply, used, Bool.true_and]
  rw [hfilter]
  rfl

theorem isSome_scriptCookies {cookie : Decoding.CookieConfig}
    (h : cookie ∈ config.cookies.filter used) :
    ((scriptCookies parseURL config jar).lookup cookie.key).isSome := by
  have hown : ∀ writes : Values, ((Values.writeAll (Values.writeAll []
      ((config.cookies.filter used).map fun cookie => (cookie.key, cookie.value)))
        writes).lookup cookie.key).isSome := by
    intro writes
    rw [Values.lookup_writeAll, Values.lookup_writeAll, Option.isSome_or, Option.isSome_or,
      Bool.or_eq_true, Bool.or_eq_true]
    refine .inr (.inl ?_)
    rw [← Option.ne_none_iff_isSome, Ne, Values.lookup_reverse_eq_none]
    exact fun hnone => hnone _ (List.mem_map_of_mem h) rfl
  unfold scriptCookies
  split
  · split
    · exact hown []
    · exact hown _
  · exact hown []

theorem nodup_scriptCookies : ((scriptCookies parseURL config jar).map Prod.fst).Nodup := by
  unfold scriptCookies
  have hempty : ((Values.writeAll []
      ((config.cookies.filter used).map fun cookie => (cookie.key, cookie.value))).map
        Prod.fst).Nodup := Preview.nodup_writeAll List.nodup_nil
  split
  · split
    · exact hempty
    · exact Preview.nodup_writeAll hempty
  · exact hempty

theorem forall₂_sentNames_iff (hnodup : (given.map Prod.fst).Nodup)
    (hgiven : ∀ cookie ∈ config.cookies.filter used, (given.lookup cookie.key).isSome)
    (hpairs : List.Forall₂ (Rendered generate values) (config.cookies.filter used) pairs) :
    List.Forall₂ (fun name pair => pair.1 = name ∧
        rendered generate values ((given.lookup name).getD "") = some pair.2)
        (sentNames given) pairs ↔
      ((config.cookies.filter used).map Decoding.CookieConfig.key).Pairwise (· < ·) ∧
        ∀ name value, given.lookup name = some value → trimSpace name ≠ "" →
          ∃ cookie ∈ config.cookies.filter used, cookie.key = name ∧
            rendered generate values value = rendered generate values cookie.value := by
  have hkeys : (config.cookies.filter used).map Decoding.CookieConfig.key = pairs.map Prod.fst :=
    Fallible.map_eq_map_of_forall₂ hpairs fun cookie pair hone => hone.1.symm
  constructor
  · intro hsent
    have hnames : (sentNames given).map id = pairs.map Prod.fst :=
      Fallible.map_eq_map_of_forall₂ hsent fun name pair hone => hone.1.symm
    rw [List.map_id] at hnames
    refine ⟨by rw [hkeys, ← hnames]; exact sentNames_pairwise hnodup, ?_⟩
    intro name value hvalue hname
    obtain ⟨pair, hpair, rfl, hrendered⟩ := (Fallible.exists_of_forall₂ hsent).2 name
      (mem_sentNames.mpr ⟨by rw [hvalue]; rfl, hname⟩)
    obtain ⟨cookie, hcookie, hkey, htext⟩ := (Fallible.exists_of_forall₂ hpairs).1 pair hpair
    rw [hvalue, Option.getD_some] at hrendered
    exact ⟨cookie, hcookie, hkey.symm, hrendered.trans htext.symm⟩
  · rintro ⟨hsorted, hall⟩
    have hnames : sentNames given = (config.cookies.filter used).map Decoding.CookieConfig.key := by
      have hstrict := sentNames_pairwise hnodup
      refine List.Perm.eq_of_pairwise' (hstrict.imp le_of_lt) (hsorted.imp le_of_lt) ?_
      refine (List.perm_ext_iff_of_nodup (hstrict.imp ne_of_lt) (hsorted.imp ne_of_lt)).mpr
        fun name => ?_
      rw [mem_sentNames, List.mem_map]
      constructor
      · rintro ⟨hsome, hname⟩
        obtain ⟨value, hvalue⟩ := Option.isSome_iff_exists.mp hsome
        obtain ⟨cookie, hcookie, hkey, -⟩ := hall name value hvalue hname
        exact ⟨cookie, hcookie, hkey⟩
      · grind [trimSpace, used]
    rw [hnames, List.forall₂_map_left_iff]
    have hboth := (List.forall₂_and_left (p := (· ∈ config.cookies.filter used)) _ _).mpr
      ⟨fun cookie hcookie => hcookie, hpairs⟩
    refine hboth.imp fun cookie pair hone => ?_
    obtain ⟨hcookie, hkey, hrendered⟩ := hone
    obtain ⟨value, hvalue⟩ := Option.isSome_iff_exists.mp (hgiven cookie hcookie)
    have hname : trimSpace cookie.key ≠ "" := by
      have hmem : cookie.key ∈ sentNames given := hnames ▸ List.mem_map_of_mem hcookie
      exact (mem_sentNames.mp hmem).2
    obtain ⟨other, hother, hsame, htext⟩ := hall cookie.key value hvalue hname
    obtain rfl := List.inj_on_of_nodup_map (hsorted.imp ne_of_lt) hother hcookie hsame
    exact ⟨hkey, by rw [hvalue, Option.getD_some, htext, hrendered]⟩

/-- **The cookies** are sent as without the script, exactly if they are kept. -/
theorem renderedCookies_applyScriptCookies_iff (hnodup : (given.map Prod.fst).Nodup)
    (hgiven : ∀ cookie ∈ config.cookies.filter used, (given.lookup cookie.key).isSome) :
    renderedCookies generate values (applyScriptCookies config given) =
        renderedCookies generate values config ↔
      CookiesKept generate values config given := by
  unfold CookiesKept
  split
  · -- without the script, nothing is sent
    rename_i hunrendered
    rw [renderedCookies_eq_none_iff.mpr hunrendered, ← not_iff_not, ← Ne,
      Option.ne_none_iff_exists']
    simp only [renderedCookies_applyScriptCookies]
    rw [Fallible.exists_forall₂_iff]
    push Not
    constructor
    · intro hall name value hvalue hname
      obtain ⟨pair, -, hrendered⟩ := hall name (mem_sentNames.mpr ⟨by rw [hvalue]; rfl, hname⟩)
      rw [hvalue, Option.getD_some] at hrendered
      rw [hrendered]
      exact Option.some_ne_none _
    · intro hall name hname
      obtain ⟨hsome, hname⟩ := mem_sentNames.mp hname
      obtain ⟨value, hvalue⟩ := Option.isSome_iff_exists.mp hsome
      obtain ⟨text, htext⟩ := Option.ne_none_iff_exists'.mp (hall name value hvalue hname)
      exact ⟨(name, text), rfl, by rw [hvalue, Option.getD_some, htext]⟩
  · rename_i hrendered
    obtain ⟨pairs, hpairs⟩ := Option.ne_none_iff_exists'.mp
      (mt renderedCookies_eq_none_iff.mp hrendered)
    rw [hpairs, renderedCookies_applyScriptCookies]
    exact forall₂_sentNames_iff hnodup hgiven (renderedCookies_eq_some_iff.mp hpairs)

end Cookies

end Rhythm.Runs.Unchanged
