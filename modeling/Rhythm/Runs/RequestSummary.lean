import Rhythm.Network.Url
import Rhythm.Runs.Templates
import Rhythm.Runs.Transport

/-!
# Rhythm.Runs.RequestSummary

`buildRequest`: the request of an HTTP step and the summary that is stored for it.  The
summary masks headers and parameters by their names, and what it knows to be secret by
the names of the variables that hold it.

The parser of `net/url`, the credentials of `applyAuth`, the encoding of bodies and the
order in which Go walks a map are inputs.
-/

namespace Rhythm.Runs

open Text Network

/-! ## Masking -/

/-- `sensitiveKey`. -/
def sensitiveKey (name : String) : Bool :=
  let lower := toLower (replaceAll (replaceAll name "-" "_") " " "_")
  ["password", "passwd", "secret", "client_secret", "api_key", "apikey", "token", "access_token",
    "refresh_token", "authorization", "proxy_authorization", "private_key", "privatekey",
    "assertion", "signature", "session", "cookie", "set_cookie"].any fun part => contains lower part

def mask : String := "••••••••"

def knownKey (key : String) : Bool := hasPrefix key "secrets." || sensitiveKey key

/-- `maskKnownValue`, with the variables in the order of the walk. -/
def maskKnownValue (value : String) (known : Values) : String :=
  known.foldl (fun masked entry =>
    if entry.2 = "" ∨ ¬ knownKey entry.1 then masked else replaceAll masked entry.2 mask) value

/-- The text is the value of a variable that is masked, and has no letter of the mask. -/
def Known (values : Values) (part : String) : Prop :=
  part ≠ "" ∧ Apart part mask ∧ ∃ entry ∈ values, knownKey entry.1 = true ∧ entry.2 = part

theorem mask_ne_empty : mask ≠ "" := by decide

theorem contains_of_contains_maskKnownValue {value part : String} {known : Values}
    (hapart : Apart part mask) (h : contains (maskKnownValue value known) part = true) :
    contains value part = true := by
  induction known generalizing value with
  | nil => exact h
  | cons entry known ih =>
    rw [maskKnownValue, List.foldl_cons] at h
    have hrest := ih h
    split at hrest
    · exact hrest
    · next hentry =>
      have hold : entry.2 ≠ "" := fun hempty => hentry (.inl hempty)
      exact contains_of_contains_replaceAll hold mask_ne_empty hapart hrest

/-- **Masking is complete.**  A known value does not occur in what is masked, whatever the order
of the walk. -/
theorem not_contains_maskKnownValue {value part : String} {known : Values}
    (h : Known known part) : contains (maskKnownValue value known) part = false := by
  obtain ⟨hempty, hapart, entry, hentry, hkey, rfl⟩ := h
  obtain ⟨before, after, rfl⟩ := List.append_of_mem hentry
  rw [Bool.eq_false_iff]
  intro hcontains
  rw [maskKnownValue, List.foldl_append, List.foldl_cons,
    if_neg (by simp [hempty, hkey])] at hcontains
  have hreplaced := contains_of_contains_maskKnownValue hapart hcontains
  rw [not_contains_replaceAll hempty mask_ne_empty hapart] at hreplaced
  contradiction

/-! ## Configurations -/

/-- `KeyValue`, also for a cookie without its domain and path. -/
structure KeyValue where
  enabled : Bool
  key : String
  value : String
  sensitive : Bool

structure AuthConfig where
  type : String
  fields : Values

/-- `auth.Fields[name]`. -/
def AuthConfig.field (auth : AuthConfig) (name : String) : String :=
  (auth.fields.lookup name).getD ""

/-- The part of `RequestConfig` that the text of a request is made of. -/
structure RequestText where
  method : String
  url : String
  params : List KeyValue
  headers : List KeyValue
  cookies : List KeyValue
  auth : AuthConfig
  bodyType : String
  bodyContent : String

def KeyValue.used (item : KeyValue) : Bool := item.enabled && trimSpace item.key ≠ ""

/-- What `buildRequest` works with. -/
structure RequestLibrary where
  /-- `url.Parse`. -/
  parseURL : String → Option URL
  generate : Generator
  /-- `encodeRequestBody`: the body. -/
  encodeBody : String → String → Option String
  /-- `resolveCredential`, for the value of an API key. -/
  credential : String → Values → Option String
  /-- The credentials of the other types are there. -/
  authorizes : AuthConfig → Values → Bool
  /-- The walk over the variables when a text is masked. -/
  walk : String → Values → Values
  walk_perm : ∀ value values, (walk value values).Perm values

/-! ## The request -/

/-- The values of the parameters or headers that are used, rendered. -/
def renderItems (generate : Generator) (values : Values) (items : List KeyValue) :
    Except String (List (KeyValue × String)) :=
  (items.filter KeyValue.used).mapM fun item =>
    (render generate item.value values).map fun value => (item, value)

/-- The URL of the request with its parameters, before the authentication. -/
def renderTarget (lib : RequestLibrary) (e : HTTPExecutor) (answer : Answer) (config : RequestText)
    (values : Values) : Except String URL := do
  let rendered ← render lib.generate config.url values
  match lib.parseURL rendered with
  | none => .error "invalid request URL"
  | some target => do
    e.validateTarget ⟨target.scheme, target.hostname, target.user⟩ answer
    let params ← renderItems lib.generate values config.params
    .ok { target with
      query := params.foldl (fun query param => query.add param.1.key param.2) target.query }

def isTokenRune (c : Char) : Bool :=
  c.isAlphanum || c ∈ "!#$%&'*+-.^_`|~".toList

/-- `http.NewRequest`: its method and its URL. -/
def newRequest (method : String) (target : URL) : Option (String × URL) :=
  let method := if method = "" then "GET" else method
  if method.toList.all isTokenRune then
    some (method, { target with host := trimSuffix target.host ":" })
  else none

/-- The URL that `applyAuth` leaves. -/
def applyAuth (lib : RequestLibrary) (auth : AuthConfig) (values : Values) (url : URL) :
    Option URL :=
  match auth.type with
  | "" | "none" => some url
  | "apiKey" =>
    (lib.credential (auth.field "value") values).map fun rendered =>
      if auth.field "location" = "query" then
        { url with query := url.query.set (auth.field "name") rendered }
      else url
  | "basic" | "bearer" | "oauth2" | "jwt" | "hmac" =>
    if lib.authorizes auth values then some url else none
  | _ => none

/-! ## The summary -/

/-- A parameter that `safeRequestURL` masks. -/
def maskedParameter (auth : AuthConfig) (key : String) : Bool :=
  sensitiveKey key ||
    (auth.type = "apiKey" && auth.field "location" = "query" && key = auth.field "name")

/-- The URL that `safeRequestURL` prints. -/
def safeURL (target : URL) (auth : AuthConfig) : URL :=
  { target with
    query := ((target.query.map Prod.fst).filter (maskedParameter auth)).foldl
      (fun query key => query.set key mask) target.query }

/-- `safeRequestURL`. -/
def safeRequestURL (lib : RequestLibrary) (target : URL) (auth : AuthConfig) (values : Values) :
    String :=
  maskKnownValue (safeURL target auth).string (lib.walk (safeURL target auth).string values)

/-- `sensitiveHeader`. -/
def sensitiveHeader (name : String) : Bool := sensitiveKey name

def safeHeader (lib : RequestLibrary) (values : Values) (header : KeyValue) (value : String) :
    String :=
  if header.sensitive ∨ sensitiveHeader header.key then mask
  else if maskKnownValue value (lib.walk value values) ≠ value then mask
  else value

/-- The header that `applyAuth` sets and the summary masks. -/
def authHeader (auth : AuthConfig) : Option String :=
  match auth.type with
  | "basic" | "bearer" | "oauth2" | "jwt" => some "Authorization"
  | "apiKey" =>
    if auth.field "location" ≠ "query" ∧ auth.field "name" ≠ "" then some (auth.field "name")
    else none
  | "hmac" => some (defaultString (auth.field "outputHeader") "X-Signature")
  | _ => none

/-- `safeHeaderSummary`. -/
def safeHeaderSummary (lib : RequestLibrary) (values : Values) (auth : AuthConfig)
    (headers : List (KeyValue × String)) : Values :=
  let shown : Values := headers.foldl (fun shown header =>
    shown.write header.1.key (safeHeader lib values header.1 header.2)) []
  match authHeader auth with
  | some name => shown.write name mask
  | none => shown

/-- `RequestSummary`, without the captured body. -/
structure RequestSummary where
  method : String
  url : String
  headers : Values
  bodyBytes : Nat
  deriving DecidableEq

/-- **`buildRequest`**: the summary of the request, when there is one. -/
def buildRequest (lib : RequestLibrary) (e : HTTPExecutor) (answer : Answer)
    (config : RequestText) (values : Values) : Option RequestSummary := do
  let target ← (renderTarget lib e answer config values).toOption
  let content ← (render lib.generate config.bodyContent values).toOption
  let body ← lib.encodeBody config.bodyType content
  let (method, url) ← newRequest (toUpper config.method) target
  let headers ← (renderItems lib.generate values config.headers).toOption
  let _ ← (renderItems lib.generate values config.cookies).toOption
  let url ← applyAuth lib config.auth values url
  return {
    method := method
    url := safeRequestURL lib url config.auth values
    headers := safeHeaderSummary lib values config.auth headers
    bodyBytes := body.utf8ByteSize }

end Rhythm.Runs
