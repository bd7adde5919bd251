import Rhythm.Network.Address

/-!
# Rhythm.Runs.Transport

The executor's way from a URL to a connection: `validateTarget` before a request and
before each redirect, the proxy of the transport, and `safeDialContext`, which looks the
name up again and dials the first address that is allowed.

The answers of the two lookups are inputs of each hop, and so are the redirects that a
target sends.  A proxy URL is given as `url.Parse` reads it, and the proxy of the
environment by the hosts it serves.
-/

namespace Rhythm.Runs

open Text Network

/-! ## Allowed targets -/

/-- The allow-listed private targets: host patterns and networks. -/
structure AllowList where
  hosts : List String
  networks : List CIDR

/-- The allow-list names the host or contains the address: the loops of `privateTargetAllowed`
and of the script runtime's `allowed`. -/
def AllowList.lists (list : AllowList) (host : String) (ip : IP) : Bool :=
  let normalizedHost := toLower (trimSuffix (trimSpace host) ".")
  (list.hosts.any fun pattern =>
    pattern = normalizedHost ||
      (hasPrefix pattern "*." && hasSuffix normalizedHost (trimPrefix pattern "*") &&
        normalizedHost ≠ trimPrefix (trimPrefix pattern "*") ".")) ||
    list.networks.any fun network => network.contains ip

/-- `forbiddenIP`. -/
def forbiddenIP (ip : IP) : Bool :=
  ip.isLoopback || ip.isPrivate || ip.isUnspecified || ip.isMulticast || ip.isLinkLocalUnicast ||
    ip.isLinkLocalMulticast

/-- The part of `HTTPExecutor` that decides on targets. -/
structure HTTPExecutor where
  allowPrivate : Bool
  allowList : AllowList

/-- A URL, as far as targets are concerned. -/
structure Target where
  scheme : String
  host : String
  user : Bool

/-- What a lookup answers; `none` is an error. -/
abbrev Answer := Option (List IP)

namespace HTTPExecutor

variable (e : HTTPExecutor)

/-- `privateTargetAllowed`. -/
def privateTargetAllowed (host : String) (ip : IP) : Bool :=
  e.allowPrivate || e.allowList.lists host ip

/-- `validateTarget`, with the answer of its lookup. -/
def validateTarget (target : Target) (answer : Answer) : Except String Unit :=
  if target.scheme ≠ "http" ∧ target.scheme ≠ "https" then
    .error "only HTTP and HTTPS targets are allowed"
  else if target.host = "" ∨ target.user then
    .error "request URL must contain a host and cannot contain embedded credentials"
  else if e.allowPrivate then .ok ()
  else
    match answer with
    | none => .error "resolve target host"
    | some addresses =>
      if addresses.any fun ip => forbiddenIP ip && !e.privateTargetAllowed target.host ip then
        .error "target resolves to a private or reserved network address"
      else .ok ()

/-- `safeDialContext`: the address it dials. -/
def safeDialContext (host : String) (answer : Answer) : Option IP :=
  (answer.getD []).find? fun ip =>
    !(!e.allowPrivate && forbiddenIP ip && !e.privateTargetAllowed host ip)

end HTTPExecutor

/-! ## Proxies -/

/-- The URL and the no-proxy rules of a proxy profile. -/
structure ProxyMaterial where
  scheme : String
  host : String
  noProxy : String

/-- `ProxyConfig`; `profile` is what the runtime resolver gives for its profile. -/
structure ProxyConfig where
  mode : String
  url : ProxyMaterial
  profile : Option ProxyMaterial

/-- The bypass of `proxyWithBypass`. -/
def proxyBypassed (host noProxy : String) : Bool :=
  let host := toLower host
  (split noProxy ',').any fun raw =>
    let rule := toLower (trimSpace raw)
    rule ≠ "" && (rule = "*" || host = rule ||
      (hasPrefix rule "*." && hasSuffix host (trimPrefix rule "*")))

/-- The mode and the proxy that `transport` works with. -/
def effectiveProxy (config : ProxyConfig) : Except String (String × ProxyMaterial) :=
  if config.mode = "profile" then
    match config.profile with
    | none => .error "resolve proxy profile"
    | some material =>
      match toLower material.scheme with
      | "socks5" | "socks5h" => .ok ("socks5", material)
      | "http" => .ok ("http", material)
      | "https" => .ok ("https", material)
      | _ => .error "proxy profile URL must use http, https, or socks5"
  else .ok (config.mode, config.url)

/-- The proxy decision of `transport`: the hosts that are reached through a proxy. -/
def transport (environment : String → Bool) (config : ProxyConfig) :
    Except String (String → Bool) := do
  let (mode, material) ← effectiveProxy config
  match mode with
  | "" | "environment" => return environment
  | "none" => return fun _ => false
  | "socks5" => if material.host = "" then throw "proxy URL is invalid" else return fun _ => true
  | "http" | "https" =>
    if material.host = "" then throw "proxy URL is invalid"
    else return fun host => !proxyBypassed host material.noProxy
  | _ => throw "proxy mode is invalid"

/-! ## Hops -/

/-- A request to one target, the first one or a redirect: the answers of the lookup that checks it
and of the lookup that dials it. -/
structure Hop where
  target : Target
  checked : Answer
  dialled : Answer

section Hops

variable (valid : Hop → Bool) (proxied : String → Bool) (dial : Hop → List IP)

/-- The hops that a request comes to: it ends at a target that is refused or cannot be dialled. -/
def reached : List Hop → List Hop
  | [] => []
  | hop :: hops =>
    if valid hop then
      hop :: (if proxied hop.target.host ∨ dial hop ≠ [] then reached hops else [])
    else []

/-- The targets that a request may open a direct connection to, by host and address. -/
def opened (hops : List Hop) : List (String × IP) :=
  (reached valid proxied dial hops).flatMap fun hop =>
    if proxied hop.target.host then [] else (dial hop).map fun ip => (hop.target.host, ip)

end Hops

/-- `SettingsConfig`, as far as redirects are concerned. -/
structure SettingsConfig where
  followRedirects : Bool
  maxRedirects : Int

/-- `configureRedirects`: how many hops a request has at most. -/
def maxHops (settings : SettingsConfig) : Nat :=
  if ¬ settings.followRedirects then 1
  else if settings.maxRedirects ≤ 0 then 5 else settings.maxRedirects.toNat

/-- `RequestConfig`, as far as the transport is concerned. -/
structure RequestConfig where
  settings : SettingsConfig
  proxy : ProxyConfig

def RequestConfig.tokenAction : RequestConfig where
  settings := ⟨true, 3⟩
  proxy := ⟨"", ⟨"", "", ""⟩, none⟩

def HTTPExecutor.opened (e : HTTPExecutor) (environment : String → Bool) (config : RequestConfig)
    (hops : List Hop) : List (String × IP) :=
  match transport environment config.proxy with
  | .error _ => []
  | .ok proxied =>
    Runs.opened (fun hop => (e.validateTarget hop.target hop.checked).isOk) proxied
      (fun hop => (e.safeDialContext hop.target.host hop.dialled).toList)
      (hops.take (maxHops config.settings))

end Rhythm.Runs
