import Rhythm.Runs.Transport

/-!
# Rhythm.Scripts.Requests

`pm.sendRequest`: the script runtime checks a target before the request and before each
redirect, and dials through `policy.dialContext`, unless the script inherits an HTTP
or HTTPS proxy; then the transport keeps its own dialer, which looks the name up again
and may take any address of the answer.
-/

namespace Rhythm.Scripts

open Text Network Runs

/-! ## The policy -/

/-- `privateIP`. -/
def privateIP (ip : IP) : Bool :=
  ip.isPrivate || ip.isLoopback || ip.isLinkLocalUnicast || ip.isLinkLocalMulticast ||
    ip.isUnspecified

/-- `auxiliaryNetworkPolicy`. -/
structure AuxiliaryNetworkPolicy where
  allowPrivate : Bool
  allowList : AllowList

namespace AuxiliaryNetworkPolicy

variable (p : AuxiliaryNetworkPolicy)

/-- `allowed`. -/
def allowed (host : String) (ip : IP) : Bool :=
  p.allowPrivate || !privateIP ip || p.allowList.lists host ip

/-- `validate`, with the answer of its lookup. -/
def validate (target : Target) (answer : Answer) : Except String Unit :=
  if target.host = "" ∨ (target.scheme ≠ "http" ∧ target.scheme ≠ "https") then
    .error "pm.sendRequest target is invalid"
  else
    match answer with
    | none => .error "pm.sendRequest DNS resolution failed"
    | some addresses =>
      if addresses.all fun ip => p.allowed target.host ip then .ok ()
      else .error "pm.sendRequest target is blocked by network policy"

/-- `dialContext`: the address it dials. -/
def dialContext (host : String) (answer : Answer) : Option IP :=
  (answer.getD []).find? (p.allowed host)

end AuxiliaryNetworkPolicy

/-! ## The transport -/

/-- `TransportConfig`, as far as the route is concerned. -/
structure TransportConfig where
  proxyMode : String
  proxyHost : String
  proxyNoProxy : String

/-- `scriptTransport`: what a pre-request script inherits. -/
def scriptTransport (config : ProxyConfig) : Except String TransportConfig :=
  if config.mode = "profile" then
    match config.profile with
    | none => .error "resolve dependency-request proxy profile"
    | some material =>
      if material.host = "" then .error "dependency-request proxy profile URL is invalid"
      else .ok ⟨toLower material.scheme, material.host, material.noProxy⟩
  else .ok ⟨config.mode, config.url.host, config.url.noProxy⟩

/-- `auxiliaryProxyBypassed`. -/
def auxiliaryProxyBypassed (host rules : String) : Bool :=
  let host := toLower (trimSuffix (trimSpace host) ".")
  (split rules ',').any fun raw =>
    let rule := toLower (trimSuffix (trimSpace raw) ".")
    rule = "*" || rule = host || (hasPrefix rule "*." && hasSuffix host (trimPrefix rule "*"))

/-- The mode as `auxiliaryTransport` and `sendRequest` compare it. -/
def TransportConfig.mode (config : TransportConfig) : String :=
  toLower (trimSpace config.proxyMode)

/-- The proxy decision of `auxiliaryTransport`: the hosts that are reached through a proxy. -/
def auxiliaryTransport (environment : String → Bool) :
    Option TransportConfig → Except String (String → Bool)
  | none => .ok environment
  | some config =>
    match config.mode with
    | "" | "environment" => .ok environment
    | "none" => .ok fun _ => false
    | "http" | "https" =>
      if config.proxyHost = "" then .error "dependency request proxy URL is invalid"
      else .ok fun host => !auxiliaryProxyBypassed host config.proxyNoProxy
    | _ => .error "dependency request proxy mode is unsupported"

def keepsDialer : Option TransportConfig → Bool
  | none => false
  | some config => config.mode = "http" || config.mode = "https"

def dialled (policy : AuxiliaryNetworkPolicy) (inherited : Option TransportConfig) (hop : Hop) :
    List IP :=
  if keepsDialer inherited then hop.dialled.getD []
  else (policy.dialContext hop.target.host hop.dialled).toList

/-- The connections of `pm.sendRequest`. -/
def opened (policy : AuxiliaryNetworkPolicy) (environment : String → Bool)
    (inherited : Option TransportConfig) (hops : List Hop) : List (String × IP) :=
  match auxiliaryTransport environment inherited with
  | .error _ => []
  | .ok proxied =>
    Runs.opened (fun hop => (policy.validate hop.target hop.checked).isOk) proxied
      (dialled policy inherited) (hops.take 5)

end Rhythm.Scripts
