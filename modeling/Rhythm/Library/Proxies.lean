import Mathlib.Data.List.Sort
import Rhythm.Fallible
import Rhythm.Library.Service

/-!
# Rhythm.Library.Proxies

`prepareProxyConfig`: the proxy profiles that the configuration library accepts, and the no-proxy
rules that it stores for them.  The parser of `net/url` is an input.
-/

namespace Rhythm.Library

open Text

/-! ## No-proxy rules -/

/-- `strings.FieldsFunc` at commas and line breaks. -/
def ruleFields (value : String) : List String :=
  ((value.toList.splitOnP fun c => c = ',' || c = '\n' || c = '\r').filter (· ≠ [])).map
    String.ofList

/-- One turn of the loop of `normalizeNoProxy`. -/
def addRule (rules : List String) (raw : String) : Except String (List String) :=
  let rule := toLower (trimSpace raw)
  if rule = "" ∨ rule ∈ rules then .ok rules
  else if rule.toList.any (fun c => c = ' ' || c = '/' || c = '@') || contains rule "://" then
    .error "no-proxy rule must be a hostname, IP address, wildcard domain, or *"
  else if rule = "*." then
    .error "wildcard no-proxy rules require a domain, for example *.internal"
  else .ok (rules ++ [rule])

/-- `normalizeNoProxy`. -/
def normalizeNoProxy (value : String) : Except String (List String) :=
  ((ruleFields value).foldlM addRule []).map fun rules => rules.insertionSort (· ≤ ·)

/-! ## Profiles -/

/-- `unicode.IsControl`. -/
def isControl (c : Char) : Bool := c.toNat < 0x20 || (0x7f ≤ c.toNat && c.toNat < 0xa0)

/-- `normalizeSecretAlias`. -/
def normalizeSecretAlias (value : String) : Except String String :=
  let name := trimSpace value
  if name = "" ∨ name.toList.any isControl = true then
    .error "must refer to a valid encrypted secret name or ID"
  else .ok name

theorem normalizeSecretAlias_ok {value name : String} (h : normalizeSecretAlias value = .ok name) :
    name = trimSpace value := by
  unfold normalizeSecretAlias at h
  dsimp only at h
  split at h
  · cases h
  · exact (Except.ok.inj h).symm

/-- `normalizeProxySecretReference`. -/
def normalizeProxySecretReference (reference : String) : Except String String :=
  let reference := trimSpace reference
  if reference = "" then .ok ""
  else do
    let name ← normalizeSecretAlias reference
    if name.toList.any fun c => c = ' ' || c = '\t' || c = '\r' || c = '\n' then
      .error "alias must not contain whitespace"
    else .ok name

/-- A proxy URL as `net/url` parses it; `bare` is its text without the path. -/
structure ParsedProxy where
  scheme : String
  host : String
  hostname : String
  port : String
  path : String
  query : String
  fragment : String
  user : Bool
  bare : String

/-- `net.LookupPort`, for the digits of a URL. -/
def portExists (port : String) : Bool :=
  port.toList.foldl (fun n c => 10 * n + (c.toNat - '0'.toNat)) 0 ≤ 65535

/-- The configuration of a proxy profile. -/
structure PreparedProxy where
  url : String
  scheme : String
  host : String
  port : String
  noProxy : String
  noProxyRules : List String
  authConfigured : Bool
  usernameSecretRef : String
  passwordSecretRef : String
  deriving DecidableEq

def schemePort (scheme : String) : String :=
  match scheme with
  | "https" => "443"
  | "socks5" | "socks5h" => "1080"
  | _ => "80"

/-- `prepareProxyConfig`. -/
def prepareProxyConfig (s : Service) (parse : String → Option ParsedProxy) (config : Config) :
    Except String PreparedProxy := do
  let rawURL := trimSpace (s.firstString config ["url"])
  if rawURL = "" then throw "proxy URL is required"
  match parse rawURL with
  | none => throw "proxy URL must include a scheme and host"
  | some parsed =>
    if parsed.host = "" then throw "proxy URL must include a scheme and host"
    let scheme := toLower parsed.scheme
    if scheme ∉ ["http", "https", "socks5", "socks5h"] then
      throw "proxy URL must use http, https, socks5, or socks5h"
    if parsed.user then
      throw "proxy URL must not contain credentials; select secret aliases instead"
    if parsed.query ≠ "" ∨ parsed.fragment ≠ "" then
      throw "proxy URL must not contain a query string or fragment"
    if parsed.path ≠ "" ∧ parsed.path ≠ "/" then throw "proxy URL must not contain a path"
    if parsed.port ≠ "" ∧ ¬ portExists parsed.port then throw "proxy URL contains an invalid port"
    let usernameRef ← (normalizeProxySecretReference
      (s.firstString config ["usernameSecretRef"])).mapError ("username secret: " ++ ·)
    let passwordRef ← (normalizeProxySecretReference
      (s.firstString config ["passwordSecretRef"])).mapError ("password secret: " ++ ·)
    if s.firstString config ["username", "password"] ≠ "" then
      throw "raw proxy credentials are not accepted; select secret aliases instead"
    let rules ← normalizeNoProxy (s.firstString config ["noProxy"])
    return {
      url := parsed.bare
      scheme := toUpper scheme
      host := toLower parsed.hostname
      port := if parsed.port = "" then schemePort scheme else parsed.port
      noProxy := String.intercalate ", " rules
      noProxyRules := rules
      authConfigured := usernameRef ≠ "" ∨ passwordRef ≠ ""
      usernameSecretRef := usernameRef
      passwordSecretRef := passwordRef }

end Rhythm.Library
