import Rhythm.Library.Proxies
import Rhythm.Network.Url
import Rhythm.Runs.Decoding
import Rhythm.Scripts.Requests

/-!
# Rhythm.Scripts.Routes

The transport of a step's own request and that of `pm.sendRequest` in its scripts: the proxy with
its credentials, the client certificate and the trust bundle.  Both are made from the configuration
of the step, but a Tests script is not given it, and the script runtime knows no SOCKS.

`takesSameRoute_iff` says for which configurations and targets the two agree.  The configuration
library, the parsers and `ProxyFromEnvironment` of the two processes are inputs.
-/

namespace Rhythm.Scripts.Routes

open Text
open Network (URL)
open Runs
open Rhythm.Library (ParsedProxy prepareProxyConfig)

/-! ## Proxies and material -/

/-- The URL of a proxy, with its user information. -/
structure ProxyURL where
  scheme : String
  host : String
  user : Option (String × Option String)
  deriving DecidableEq

/-- `url.UserPassword` replaces the user information when there are credentials. -/
def ProxyURL.authorize (proxy : ProxyURL) (credentials : String × String) : ProxyURL :=
  if credentials.1 ≠ "" ∨ credentials.2 ≠ "" then
    { proxy with user := some (credentials.1, some credentials.2) }
  else proxy

/-- `TLSMaterial`. -/
structure TLSMaterial where
  clientCertificatePEM : String := ""
  clientKeyPEM : String := ""
  caBundlePEM : String := ""

/-- `ProxyMaterial`. -/
structure ProxyMaterial where
  url : String
  noProxy : String
  username : String
  password : String

/-- The proxy of a request: what `http.Transport.Proxy` returns. -/
abbrev ProxyFunc := URL → Except String (Option ProxyURL)

/-- What a transport is made with. -/
structure Library where
  /-- There is a runtime resolver. -/
  resolver : Bool
  resolveTLSProfile : String → String → Option TLSMaterial
  resolveProxyProfile : String → Option ProxyMaterial
  /-- `resolveCredential`, without variables. -/
  resolveCredential : String → Option String
  /-- `url.Parse`. -/
  parseURL : String → Option ProxyURL
  /-- `AppendCertsFromPEM`. -/
  appendsCerts : String → Bool
  /-- `tls.X509KeyPair`. -/
  keyPair : String → String → Bool
  /-- `xproxy.FromURL`. -/
  socksDialer : ProxyURL → Bool

/-- `http.Transport`, as far as the route and its credentials are concerned. -/
structure Transport where
  proxy : ProxyFunc
  /-- The proxy of a SOCKS dialer. -/
  socks : Option ProxyURL
  /-- `tls.VersionTLS12` or `tls.VersionTLS13`. -/
  minimumVersion : Nat
  verifyHostname : Bool
  /-- The bundle that is added to the system's certificates. -/
  rootCAs : Option String
  certificate : Option (String × String)

/-- The proxy that a request goes through, if it goes through one: that of a SOCKS dialer, or else
what `Proxy` returns. -/
def chosenProxy (proxy : ProxyFunc) : Option ProxyURL → ProxyFunc
  | some socks => fun _ => .ok (some socks)
  | none => proxy

def Transport.route (t : Transport) : ProxyFunc := chosenProxy t.proxy t.socks

section Library

variable (lib : Library)

def tlsMaterial (tls : Decoding.TLSConfig) (failure : String) : Except String TLSMaterial :=
  if tls.certificateProfileID ≠ "" ∨ tls.caProfileID ≠ "" then
    if ¬ lib.resolver then .error "certificate and CA profiles require a runtime resolver"
    else
      match lib.resolveTLSProfile tls.certificateProfileID tls.caProfileID with
      | none => .error failure
      | some material => .ok material
  else .ok {}

def trustBundle (caBundlePEM failure : String) : Except String (Option String) :=
  if caBundlePEM = "" then .ok none
  else if lib.appendsCerts caBundlePEM then .ok (some caBundlePEM)
  else .error failure

def clientCertificate (certificate key failure : String) :
    Except String (Option (String × String)) :=
  if certificate ≠ "" ∨ key ≠ "" then
    if lib.keyPair certificate key then .ok (some (certificate, key)) else .error failure
  else .ok none

def minimumTLSVersion (configured : String) : Nat := if configured = "TLS 1.3" then 0x304 else 0x303

/-- The user name and the password that the configuration of a proxy refers to. -/
def referredCredentials (proxy : Decoding.ProxyConfig) : Except String (String × String) :=
  match lib.resolveCredential proxy.usernameSecretRef with
  | none => .error "resolve proxy username"
  | some username =>
    match lib.resolveCredential proxy.passwordSecretRef with
    | none => .error "resolve proxy password"
    | some password => .ok (username, password)

/-! ## The own request -/

/-- The mode, the URL, the rules and the credentials that a proxy configuration stands for. -/
structure ProxySettings where
  mode : String
  url : String
  noProxy : String
  credentials : String × String

/-- `transport`: a proxy profile is resolved. -/
def proxySettings (proxy : Decoding.ProxyConfig) : Except String ProxySettings :=
  if proxy.mode = "profile" then
    if ¬ lib.resolver then .error "proxy profiles require a runtime resolver"
    else
      match lib.resolveProxyProfile proxy.profileID with
      | none => .error "resolve proxy profile"
      | some material =>
        match lib.parseURL material.url with
        | none => .error "proxy profile URL is invalid"
        | some parsed =>
          let settings (mode : String) : ProxySettings :=
            ⟨mode, material.url, material.noProxy, (material.username, material.password)⟩
          match toLower parsed.scheme with
          | "socks5" | "socks5h" => .ok (settings "socks5")
          | "http" => .ok (settings "http")
          | "https" => .ok (settings "https")
          | _ => .error "proxy profile URL must use http, https, or socks5"
  else .ok ⟨proxy.mode, proxy.url, proxy.noProxy, ("", "")⟩

/-- The proxy of the settings: what is referred to counts when no profile is named. -/
def configuredProxy (proxy : Decoding.ProxyConfig) (settings : ProxySettings) :
    Except String ProxyURL := do
  match lib.parseURL settings.url with
  | none => .error "proxy URL is invalid"
  | some url =>
    if url.host = "" then .error "proxy URL is invalid"
    else if proxy.profileID = "" then (referredCredentials lib proxy).map url.authorize
    else .ok (url.authorize settings.credentials)

/-- `proxyWithBypass`. -/
def proxyWithBypass (proxy : ProxyURL) (noProxy : String) : ProxyFunc := fun url =>
  .ok (if proxyBypassed url.hostname noProxy then none else some proxy)

/-- The proxy of `transport`, and that of its dialer. -/
def transportProxy (environment : ProxyFunc) (proxy : Decoding.ProxyConfig)
    (settings : ProxySettings) : Except String (ProxyFunc × Option ProxyURL) :=
  match settings.mode with
  | "" | "environment" => .ok (environment, none)
  | "none" => .ok (fun _ => .ok none, none)
  | "socks5" => do
    let url ← configuredProxy lib proxy settings
    if lib.socksDialer url then .ok (fun _ => .ok none, some url)
    else .error "SOCKS5 proxy configuration is invalid"
  | "http" | "https" => do
    let url ← configuredProxy lib proxy settings
    .ok (proxyWithBypass url settings.noProxy, none)
  | _ => .error "proxy mode is invalid"

/-- `transport`. -/
def transport (environment : ProxyFunc) (config : Decoding.RequestConfig) :
    Except String Transport := do
  let material ← tlsMaterial lib config.tls "resolve TLS profile"
  let rootCAs ← trustBundle lib material.caBundlePEM "custom CA bundle is not valid PEM"
  let certificate ← clientCertificate lib material.clientCertificatePEM material.clientKeyPEM
    "client certificate profile is invalid"
  let settings ← proxySettings lib config.proxy
  let proxy ← transportProxy lib environment config.proxy settings
  .ok {
    proxy := proxy.1
    socks := proxy.2
    minimumVersion := minimumTLSVersion config.tls.minimumVersion
    verifyHostname := config.tls.verifyHostname.getD true
    rootCAs, certificate }

/-! ## The requests of scripts -/

/-- `TransportConfig`. -/
structure TransportConfig where
  caBundlePEM : String
  clientCertificate : String
  clientKey : String
  minimumTLSVersion : String
  verifyHostname : Bool
  proxyMode : String
  proxyURL : String
  proxyNoProxy : String
  proxyCredentials : String × String

/-- The proxy of `scriptTransport`. -/
def scriptProxy (proxy : Decoding.ProxyConfig) : Except String ProxySettings :=
  if proxy.mode = "profile" then
    if ¬ lib.resolver then .error "proxy profiles require a runtime resolver"
    else
      match lib.resolveProxyProfile proxy.profileID with
      | none => .error "resolve dependency-request proxy profile"
      | some material =>
        match lib.parseURL material.url with
        | none => .error "dependency-request proxy profile URL is invalid"
        | some parsed =>
          if parsed.host = "" then .error "dependency-request proxy profile URL is invalid"
          else .ok ⟨toLower parsed.scheme, material.url, material.noProxy,
            (material.username, material.password)⟩
  else if proxy.mode = "http" ∨ proxy.mode = "https" then
    (referredCredentials lib proxy).map fun credentials =>
      ⟨proxy.mode, proxy.url, proxy.noProxy, credentials⟩
  else .ok ⟨proxy.mode, proxy.url, proxy.noProxy, ("", "")⟩

/-- `scriptTransport`. -/
def scriptTransport (config : Decoding.RequestConfig) : Except String TransportConfig := do
  let material ← tlsMaterial lib config.tls "resolve dependency-request TLS profile"
  let proxy ← scriptProxy lib config.proxy
  .ok {
    caBundlePEM := material.caBundlePEM
    clientCertificate := material.clientCertificatePEM
    clientKey := material.clientKeyPEM
    minimumTLSVersion := config.tls.minimumVersion
    verifyHostname := config.tls.verifyHostname.getD true
    proxyMode := proxy.mode
    proxyURL := proxy.url
    proxyNoProxy := proxy.noProxy
    proxyCredentials := proxy.credentials }

/-- The proxy of `auxiliaryTransport`. -/
def auxiliaryProxy (environment : ProxyFunc) (config : TransportConfig) :
    Except String ProxyFunc :=
  match toLower (trimSpace config.proxyMode) with
  | "" | "environment" => .ok environment
  | "none" => .ok fun _ => .ok none
  | "http" | "https" =>
    match lib.parseURL config.proxyURL with
    | none => .error "dependency request proxy URL is invalid"
    | some parsed =>
      if parsed.host = "" then .error "dependency request proxy URL is invalid"
      else .ok fun url =>
        .ok (if auxiliaryProxyBypassed url.hostname config.proxyNoProxy then none
          else some (parsed.authorize config.proxyCredentials))
  | _ => .error "dependency request proxy mode is unsupported"

/-- `auxiliaryTransport`, in the process of the runner. -/
def auxiliaryTransport (environment : ProxyFunc) :
    Option TransportConfig → Except String Transport
  | none => .ok ⟨environment, none, 0x303, true, none, none⟩
  | some config => do
    let rootCAs ← trustBundle lib config.caBundlePEM "dependency request CA bundle is invalid"
    let certificate ← clientCertificate lib config.clientCertificate config.clientKey
      "dependency request client certificate is invalid"
    let proxy ← auxiliaryProxy lib environment config
    .ok {
      proxy
      socks := none
      minimumVersion := Routes.minimumTLSVersion config.minimumTLSVersion
      verifyHostname := config.verifyHostname
      rootCAs, certificate }

/-- The scripts of a step. -/
inductive ScriptKind where
  | preRequest
  | tests
  deriving DecidableEq

/-- The transport that a script is given: a Tests script is given none. -/
def passedTransport (config : Decoding.RequestConfig) :
    ScriptKind → Except String (Option TransportConfig)
  | .preRequest => (scriptTransport lib config).map some
  | .tests => .ok none

end Library

/-! ## The law of routes -/

section Law

variable {lib : Library} {environment runner : ProxyFunc} {config : Decoding.RequestConfig}
  {proxy : Decoding.ProxyConfig} {settings script : ProxySettings} {url : URL} {kind : ScriptKind}

/-- The same route with the same credentials, the same client certificate and the same trust
bundle. -/
structure SameRoute (own auxiliary : Transport) (url : URL) : Prop where
  route : own.route url = auxiliary.route url
  certificate : own.certificate = auxiliary.certificate
  rootCAs : own.rootCAs = auxiliary.rootCAs

/-- The own request has a transport, and the script is started. -/
def Sent (lib : Library) (environment : ProxyFunc) (config : Decoding.RequestConfig)
    (kind : ScriptKind) : Prop :=
  (∃ own, transport lib environment config = .ok own) ∧
    ∃ passed, passedTransport lib config kind = .ok passed

/-- A request of the script takes the route of the own request. -/
def TakesSameRoute (lib : Library) (environment runner : ProxyFunc)
    (config : Decoding.RequestConfig) (kind : ScriptKind) (url : URL) : Prop :=
  ∀ own passed, transport lib environment config = .ok own →
    passedTransport lib config kind = .ok passed →
      ∃ auxiliary, auxiliaryTransport lib runner passed = .ok auxiliary ∧
        SameRoute own auxiliary url

/-- The credentials that the own request uses are those that the script is given: a profile's where
a profile is named, and else those that are referred to; or they come to the same. -/
def CredentialsAgree (lib : Library) (proxy : Decoding.ProxyConfig) (settings : ProxySettings) :
    Prop :=
  (proxy.mode = "profile" ↔ proxy.profileID ≠ "") ∨
    ∀ parsed referred, lib.parseURL settings.url = some parsed →
      referredCredentials lib proxy = .ok referred →
        parsed.authorize referred = parsed.authorize settings.credentials

/-- A pre-request script takes the route: no SOCKS, and the rules and the credentials of an HTTP
proxy agree. -/
def PreRequestAgrees (lib : Library) (environment runner : ProxyFunc)
    (proxy : Decoding.ProxyConfig) (settings : ProxySettings) (url : URL) : Prop :=
  match settings.mode with
  | "" | "environment" => environment url = runner url
  | "none" => True
  | "http" | "https" =>
    proxyBypassed url.hostname settings.noProxy =
        auxiliaryProxyBypassed url.hostname settings.noProxy ∧
      (proxyBypassed url.hostname settings.noProxy = false → CredentialsAgree lib proxy settings)
  | _ => False

/-- A Tests script takes the route: there is no TLS material, and the environment of the runner has
the proxy. -/
def TestsAgrees (lib : Library) (environment runner : ProxyFunc)
    (config : Decoding.RequestConfig) (settings : ProxySettings) (url : URL) : Prop :=
  (∀ material, tlsMaterial lib config.tls "resolve TLS profile" = .ok material → material = {}) ∧
    match settings.mode with
    | "" | "environment" => environment url = runner url
    | "none" => runner url = .ok none
    | "socks5" => ∀ proxy, configuredProxy lib config.proxy settings = .ok proxy →
        runner url = .ok (some proxy)
    | _ => ∀ proxy, configuredProxy lib config.proxy settings = .ok proxy →
        runner url =
          .ok (if proxyBypassed url.hostname settings.noProxy then none else some proxy)

def Agrees (lib : Library) (environment runner : ProxyFunc) (config : Decoding.RequestConfig)
    (kind : ScriptKind) (url : URL) : Prop :=
  ∀ settings, proxySettings lib config.proxy = .ok settings →
    match kind with
    | .preRequest => PreRequestAgrees lib environment runner config.proxy settings url
    | .tests => TestsAgrees lib environment runner config settings url

/-! ### Certificates -/

theorem tlsMaterial_congr {tls : Decoding.TLSConfig} {failure : String} (failure' : String)
    {material : TLSMaterial} (h : tlsMaterial lib tls failure = .ok material) :
    tlsMaterial lib tls failure' = .ok material := by
  unfold tlsMaterial at h ⊢
  grind

theorem trustBundle_congr {caBundlePEM failure : String} (failure' : String)
    {rootCAs : Option String} (h : trustBundle lib caBundlePEM failure = .ok rootCAs) :
    trustBundle lib caBundlePEM failure' = .ok rootCAs := by
  unfold trustBundle at h ⊢
  grind

variable {pair : Option (String × String)}

theorem clientCertificate_congr {certificate key failure : String} (failure' : String)
    (h : clientCertificate lib certificate key failure = .ok pair) :
    clientCertificate lib certificate key failure' = .ok pair := by
  unfold clientCertificate at h ⊢
  grind

theorem no_material_iff {material : TLSMaterial} {failure failure' : String}
    {rootCAs : Option String} (hroot : trustBundle lib material.caBundlePEM failure = .ok rootCAs)
    (hpair : clientCertificate lib material.clientCertificatePEM material.clientKeyPEM failure' =
      .ok pair) :
    (pair = none ∧ rootCAs = none) ↔ material = {} := by
  cases material
  unfold trustBundle at hroot
  unfold clientCertificate at hpair
  grind

/-! ### Proxies -/

theorem mode_of_proxySettings (hsettings : proxySettings lib proxy = .ok settings) :
    if proxy.mode = "profile" then
      ∃ material parsed, lib.resolveProxyProfile proxy.profileID = some material ∧
        lib.parseURL material.url = some parsed ∧
        settings.url = material.url ∧ settings.noProxy = material.noProxy ∧
        settings.credentials = (material.username, material.password) ∧
        (settings.mode = toLower parsed.scheme ∧
            (settings.mode = "http" ∨ settings.mode = "https") ∨
          settings.mode = "socks5" ∧ (toLower parsed.scheme = "socks5" ∨
            toLower parsed.scheme = "socks5h"))
    else settings = ⟨proxy.mode, proxy.url, proxy.noProxy, ("", "")⟩ := by
  grind [proxySettings, Except.ok.inj]

/-- An HTTP proxy that a script is given: it has the credentials of the profile, or else those that
are referred to. -/
theorem scriptProxy_http (hsettings : proxySettings lib proxy = .ok settings)
    (hscript : scriptProxy lib proxy = .ok script)
    (hmode : settings.mode = "http" ∨ settings.mode = "https") :
    script.mode = settings.mode ∧ script.url = settings.url ∧ script.noProxy = settings.noProxy ∧
      (proxy.mode = "profile" → script.credentials = settings.credentials) ∧
      (proxy.mode ≠ "profile" → referredCredentials lib proxy = .ok script.credentials) := by
  have hcases := mode_of_proxySettings hsettings
  unfold scriptProxy at hscript
  by_cases hprofile : proxy.mode = "profile"
  · rw [if_pos hprofile] at hcases hscript
    grind
  · rw [if_neg hprofile] at hcases hscript
    subst hcases
    rw [if_pos hmode] at hscript
    cases hreferred : referredCredentials lib proxy with
    | error message =>
      rw [hreferred] at hscript
      cases hscript
    | ok credentials =>
      rw [hreferred] at hscript
      obtain rfl := Except.ok.inj hscript
      exact ⟨rfl, rfl, rfl, fun h => absurd h hprofile, fun _ => rfl⟩

theorem scriptProxy_other (hsettings : proxySettings lib proxy = .ok settings)
    (hscript : scriptProxy lib proxy = .ok script)
    (hmode : settings.mode ≠ "http" ∧ settings.mode ≠ "https") :
    script.mode = settings.mode ∨ settings.mode = "socks5" ∧ script.mode = "socks5h" := by
  grind [mode_of_proxySettings, scriptProxy]

theorem spelled_modes : ∀ mode ∈ ["", "environment", "none", "http", "https", "socks5", "socks5h"],
    toLower (trimSpace mode) = mode := by
  decide +kernel

theorem configuredProxy_eq_ok_iff {chosen : ProxyURL} :
    configuredProxy lib proxy settings = .ok chosen ↔
      ∃ parsed credentials, lib.parseURL settings.url = some parsed ∧ parsed.host ≠ "" ∧
        (if proxy.profileID = "" then referredCredentials lib proxy = .ok credentials
          else credentials = settings.credentials) ∧ chosen = parsed.authorize credentials := by
  unfold configuredProxy
  constructor
  · intro h
    cases hparse : lib.parseURL settings.url with
    | none => simp [hparse] at h
    | some parsed =>
      rw [hparse] at h
      dsimp only at h
      by_cases hhost : parsed.host = ""
      · rw [if_pos hhost] at h
        cases h
      · rw [if_neg hhost] at h
        by_cases hprofile : proxy.profileID = ""
        · rw [if_pos hprofile] at h
          cases hreferred : referredCredentials lib proxy with
          | error message =>
            rw [hreferred] at h
            cases h
          | ok credentials =>
            rw [hreferred] at h
            exact ⟨parsed, credentials, rfl, hhost, by rw [if_pos hprofile],
              (Except.ok.inj h).symm⟩
        · rw [if_neg hprofile] at h
          exact ⟨parsed, settings.credentials, rfl, hhost, by rw [if_neg hprofile],
            (Except.ok.inj h).symm⟩
  · rintro ⟨parsed, credentials, hparse, hhost, hcredentials, rfl⟩
    rw [hparse]
    dsimp only
    rw [if_neg hhost]
    by_cases hprofile : proxy.profileID = ""
    · rw [if_pos hprofile] at hcredentials ⊢
      rw [hcredentials]
      rfl
    · rw [if_neg hprofile] at hcredentials ⊢
      rw [hcredentials]

variable {passed : TransportConfig}

theorem auxiliaryProxy_http {parsed : ProxyURL}
    (hmode : passed.proxyMode = "http" ∨ passed.proxyMode = "https")
    (hparse : lib.parseURL passed.proxyURL = some parsed) (hhost : parsed.host ≠ "") :
    auxiliaryProxy lib runner passed = .ok fun url =>
      .ok (if auxiliaryProxyBypassed url.hostname passed.proxyNoProxy then none
        else some (parsed.authorize passed.proxyCredentials)) := by
  grind [auxiliaryProxy, spelled_modes]

/-- Two proxies behind rules choose the same for a host exactly when the rules agree on it and,
where it is not bypassed, the proxies are the same. -/
theorem bypass_eq_iff {bypassed bypassed' : Bool} {proxy proxy' : ProxyURL} :
    (Except.ok (if bypassed then none else some proxy) : Except String (Option ProxyURL)) =
        .ok (if bypassed' then none else some proxy') ↔
      bypassed = bypassed' ∧ (bypassed = false → proxy = proxy') := by
  cases bypassed <;> cases bypassed' <;> simp

def Given (passed : TransportConfig) (script : ProxySettings) : Prop :=
  passed.proxyMode = script.mode ∧ passed.proxyURL = script.url ∧
    passed.proxyNoProxy = script.noProxy ∧ passed.proxyCredentials = script.credentials

theorem credentialsAgree_iff {parsed : ProxyURL} {credentials : String × String}
    (hparse : lib.parseURL settings.url = some parsed)
    (hcredentials : if proxy.profileID = "" then referredCredentials lib proxy = .ok credentials
      else credentials = settings.credentials)
    (hprofile : proxy.mode = "profile" → script.credentials = settings.credentials)
    (hinline : proxy.mode ≠ "profile" →
      referredCredentials lib proxy = .ok script.credentials) :
    parsed.authorize credentials = parsed.authorize script.credentials ↔
      CredentialsAgree lib proxy settings := by
  grind [CredentialsAgree, Except.ok.inj]

theorem preRequest_http_iff {chosen : ProxyURL} (hsettings : proxySettings lib proxy = .ok settings)
    (hscript : scriptProxy lib proxy = .ok script) (hgiven : Given passed script)
    (hmode : settings.mode = "http" ∨ settings.mode = "https")
    (hchosen : configuredProxy lib proxy settings = .ok chosen) :
    (∃ func, auxiliaryProxy lib runner passed = .ok func ∧
        proxyWithBypass chosen settings.noProxy url = func url) ↔
      proxyBypassed url.hostname settings.noProxy =
          auxiliaryProxyBypassed url.hostname settings.noProxy ∧
        (proxyBypassed url.hostname settings.noProxy = false →
          CredentialsAgree lib proxy settings) := by
  obtain ⟨parsed, credentials, hparse, hhost, hcredentials, rfl⟩ :=
    configuredProxy_eq_ok_iff.mp hchosen
  obtain ⟨hscriptMode, hscriptURL, hscriptRules, hprofile, hinline⟩ :=
    scriptProxy_http hsettings hscript hmode
  obtain ⟨hpassedMode, hpassedURL, hpassedRules, hpassedCredentials⟩ := hgiven
  have hpassed : passed.proxyMode = "http" ∨ passed.proxyMode = "https" := by
    rwa [hpassedMode, hscriptMode]
  have hpassedParse : lib.parseURL passed.proxyURL = some parsed := by
    rw [hpassedURL, hscriptURL, hparse]
  rw [auxiliaryProxy_http hpassed hpassedParse hhost]
  simp only [Except.ok.injEq, exists_eq_left', proxyWithBypass]
  rw [hpassedRules, hscriptRules, hpassedCredentials, ← Except.ok.injEq, bypass_eq_iff,
    credentialsAgree_iff hparse hcredentials hprofile hinline]

variable {own : ProxyFunc × Option ProxyURL}

/-- **The proxy of a pre-request script.** -/
theorem preRequest_proxy_iff (hsettings : proxySettings lib proxy = .ok settings)
    (hscript : scriptProxy lib proxy = .ok script) (hgiven : Given passed script)
    (hown : transportProxy lib environment proxy settings = .ok own) :
    (∃ func, auxiliaryProxy lib runner passed = .ok func ∧
        chosenProxy own.1 own.2 url = func url) ↔
      PreRequestAgrees lib environment runner proxy settings url := by
  have hother : settings.mode ≠ "http" ∧ settings.mode ≠ "https" →
      passed.proxyMode = settings.mode ∨
        settings.mode = "socks5" ∧ passed.proxyMode = "socks5h" := fun hmode => by
    rw [hgiven.1]
    exact scriptProxy_other hsettings hscript hmode
  unfold transportProxy at hown
  unfold PreRequestAgrees
  split at hown
  case h_1 hmode | h_2 hmode =>
    obtain rfl := Except.ok.inj hown
    simp only [hmode]
    have hpassed := hother (by simp [hmode])
    simp [hmode] at hpassed
    simp [auxiliaryProxy, hpassed, spelled_modes, chosenProxy]
  case h_3 hmode =>
    grind [Except.ok.inj, auxiliaryProxy, spelled_modes, chosenProxy]
  case h_4 hmode =>
    have hpassed := hother (by simp [hmode])
    simp only [hmode, true_and] at hpassed
    rcases hpassed with hpassed | hpassed <;>
      simp [auxiliaryProxy, hpassed, hmode, spelled_modes]
  case h_5 hmode | h_6 hmode =>
    obtain ⟨chosen, hchosen, hown⟩ := Fallible.bind_eq_ok_iff.mp hown
    obtain rfl := Except.ok.inj hown
    simp only [hmode]
    exact preRequest_http_iff hsettings hscript hgiven (by simp [hmode]) hchosen
  case h_7 => cases hown

/-- **The proxy of a Tests script.** -/
theorem tests_proxy_iff (hown : transportProxy lib environment proxy settings = .ok own) :
    chosenProxy own.1 own.2 url = runner url ↔
      match settings.mode with
      | "" | "environment" => environment url = runner url
      | "none" => runner url = .ok none
      | "socks5" => ∀ chosen, configuredProxy lib proxy settings = .ok chosen →
          runner url = .ok (some chosen)
      | _ => ∀ chosen, configuredProxy lib proxy settings = .ok chosen →
          runner url =
            .ok (if proxyBypassed url.hostname settings.noProxy then none else some chosen) := by
  unfold transportProxy at hown
  split at hown
  case h_1 hmode | h_2 hmode =>
    obtain rfl := Except.ok.inj hown
    simp only [hmode]
    rfl
  case h_3 hmode =>
    obtain rfl := Except.ok.inj hown
    simp only [hmode]
    exact eq_comm
  case h_4 hmode =>
    obtain ⟨chosen, hchosen, hown⟩ := Fallible.bind_eq_ok_iff.mp hown
    simp only [hmode, hchosen, Except.ok.injEq, forall_eq']
    split at hown
    · obtain rfl := Except.ok.inj hown
      exact eq_comm
    · cases hown
  case h_5 hmode | h_6 hmode =>
    obtain ⟨chosen, hchosen, hown⟩ := Fallible.bind_eq_ok_iff.mp hown
    obtain rfl := Except.ok.inj hown
    simp only [hmode, hchosen, Except.ok.injEq, forall_eq']
    exact eq_comm
  case h_7 => cases hown

/-! ### Transports -/

theorem parts_of_transport {own : Transport} (hown : transport lib environment config = .ok own) :
    ∃ material settings proxy,
      tlsMaterial lib config.tls "resolve TLS profile" = .ok material ∧
      trustBundle lib material.caBundlePEM "custom CA bundle is not valid PEM" = .ok own.rootCAs ∧
      clientCertificate lib material.clientCertificatePEM material.clientKeyPEM
        "client certificate profile is invalid" = .ok own.certificate ∧
      proxySettings lib config.proxy = .ok settings ∧
      transportProxy lib environment config.proxy settings = .ok proxy ∧
      own.route = chosenProxy proxy.1 proxy.2 := by
  simp only [transport, Fallible.bind_eq_ok_iff] at hown
  obtain ⟨material, hmaterial, rootCAs, hroot, certificate, hcertificate, settings, hsettings,
    proxy, hproxy, hown⟩ := hown
  obtain rfl := Except.ok.inj hown
  exact ⟨material, settings, proxy, hmaterial, hroot, hcertificate, hsettings, hproxy, rfl⟩

theorem parts_of_scriptTransport (hpassed : scriptTransport lib config = .ok passed) :
    ∃ material script,
      tlsMaterial lib config.tls "resolve dependency-request TLS profile" = .ok material ∧
      scriptProxy lib config.proxy = .ok script ∧ Given passed script ∧
      passed.caBundlePEM = material.caBundlePEM ∧
      passed.clientCertificate = material.clientCertificatePEM ∧
      passed.clientKey = material.clientKeyPEM := by
  simp only [scriptTransport, Fallible.bind_eq_ok_iff] at hpassed
  obtain ⟨material, hmaterial, script, hscript, hpassed⟩ := hpassed
  obtain rfl := Except.ok.inj hpassed
  exact ⟨material, script, hmaterial, hscript, ⟨rfl, rfl, rfl, rfl⟩, rfl, rfl, rfl⟩

/-- **A pre-request script** has the certificates of the own request; the proxies decide. -/
theorem preRequest_sameRoute_iff {own : Transport}
    (hown : transport lib environment config = .ok own)
    (hpassed : scriptTransport lib config = .ok passed) :
    (∃ auxiliary, auxiliaryTransport lib runner (some passed) = .ok auxiliary ∧
        SameRoute own auxiliary url) ↔ Agrees lib environment runner config .preRequest url := by
  obtain ⟨material, settings, proxy, hmaterial, hroot, hcertificate, hsettings, hproxy, hroute⟩ :=
    parts_of_transport hown
  obtain ⟨material', script, hmaterial', hscript, hgiven, hbundle, hpem, hkey⟩ :=
    parts_of_scriptTransport hpassed
  obtain rfl : material = material' :=
    Except.ok.inj ((tlsMaterial_congr _ hmaterial).symm.trans hmaterial')
  have hroot' := trustBundle_congr "dependency request CA bundle is invalid" hroot
  have hcertificate' := clientCertificate_congr "dependency request client certificate is invalid"
    hcertificate
  have hproxies : (∃ func, auxiliaryProxy lib runner passed = .ok func ∧
      chosenProxy proxy.1 proxy.2 url = func url) ↔ _ :=
    preRequest_proxy_iff hsettings hscript hgiven hproxy
  simp only [Agrees, hsettings, Except.ok.injEq, forall_eq']
  rw [← hproxies, ← hroute]
  simp only [auxiliaryTransport, hbundle, hpem, hkey, hroot', hcertificate',
    Fallible.bind_eq_ok_iff, Except.ok.injEq, exists_eq_left']
  constructor
  · rintro ⟨_, ⟨func, hfunc, rfl⟩, hsame⟩
    exact ⟨func, hfunc, hsame.route⟩
  · rintro ⟨func, hfunc, hsame⟩
    exact ⟨_, ⟨func, hfunc, rfl⟩, hsame, rfl, rfl⟩

/-- **A Tests script** has no certificates, and the proxy of its process. -/
theorem tests_sameRoute_iff {own : Transport} (hown : transport lib environment config = .ok own) :
    (∃ auxiliary, auxiliaryTransport lib runner none = .ok auxiliary ∧
        SameRoute own auxiliary url) ↔ Agrees lib environment runner config .tests url := by
  obtain ⟨material, settings, proxy, hmaterial, hroot, hcertificate, hsettings, hproxy, hroute⟩ :=
    parts_of_transport hown
  have hproxies : chosenProxy proxy.1 proxy.2 url = runner url ↔ _ := tests_proxy_iff hproxy
  simp only [Agrees, TestsAgrees, hsettings, hmaterial, Except.ok.injEq, forall_eq']
  rw [← hproxies, ← hroute, ← no_material_iff hroot hcertificate]
  simp only [auxiliaryTransport, Except.ok.injEq, exists_eq_left']
  constructor
  · exact fun hsame => ⟨⟨hsame.certificate, hsame.rootCAs⟩, hsame.route⟩
  · exact fun ⟨⟨hnoCertificate, hnoRoot⟩, hsame⟩ => ⟨hsame, hnoCertificate, hnoRoot⟩

/-- **Routes.**  A request of a script takes the route of the own request exactly when the proxies
agree on the target and, for a Tests script, there is no TLS material. -/
theorem takesSameRoute_iff (lib : Library) (environment runner : ProxyFunc)
    (config : Decoding.RequestConfig) (kind : ScriptKind) (url : URL) :
    TakesSameRoute lib environment runner config kind url ↔
      (Sent lib environment config kind → Agrees lib environment runner config kind url) := by
  have hone : ∀ own passed, transport lib environment config = .ok own →
      passedTransport lib config kind = .ok passed →
        ((∃ auxiliary, auxiliaryTransport lib runner passed = .ok auxiliary ∧
          SameRoute own auxiliary url) ↔ Agrees lib environment runner config kind url) := by
    intro own passed hown hpassed
    cases kind with
    | preRequest =>
      cases hscript : scriptTransport lib config with
      | error message =>
        rw [passedTransport, hscript] at hpassed
        cases hpassed
      | ok given =>
        rw [passedTransport, hscript] at hpassed
        obtain rfl := Except.ok.inj hpassed
        exact preRequest_sameRoute_iff hown hscript
    | tests =>
      obtain rfl := Except.ok.inj hpassed
      exact tests_sameRoute_iff hown
  constructor
  · rintro hsame ⟨⟨own, hown⟩, passed, hpassed⟩
    exact (hone own passed hown hpassed).mp (hsame own passed hown hpassed)
  · exact fun hagrees own passed hown hpassed =>
      (hone own passed hown hpassed).mpr (hagrees ⟨⟨own, hown⟩, passed, hpassed⟩)

end Law

/-! ## A proxy of the library -/

/-- The material of a profile that the configuration library accepts. -/
def Accepted (s : Rhythm.Library.Service) (parse : String → Option ParsedProxy)
    (material : ProxyMaterial) : Prop :=
  ∃ config prepared, prepareProxyConfig s parse config = .ok prepared ∧
    material.url = prepared.url ∧ material.noProxy = prepared.noProxy

def textService : Rhythm.Library.Service where
  sprint
    | .str text => text
    | _ => ""
  secretsKey := false
  encrypt := .ok
  prepare _ _ _ _ := .error ""
  parseId := .ok

/-- The proxy `http://proxy.example:3128`. -/
def parseSample : String → Option ParsedProxy := fun _ =>
  some ⟨"http", "proxy.example:3128", "proxy.example", "3128", "", "", "", false,
    "http://proxy.example:3128"⟩

def sampleLibrary : Library where
  resolver := true
  resolveTLSProfile _ _ := none
  resolveProxyProfile _ := some ⟨"http://proxy.example:3128", "", "", ""⟩
  resolveCredential value := some value
  parseURL _ := some ⟨"http", "proxy.example:3128", none⟩
  appendsCerts _ := false
  keyPair _ _ := false
  socksDialer _ := true

def profileRequest : Decoding.RequestConfig where
  proxy := { mode := "profile", profileID := "egress" }

def sampleURL : URL where
  scheme := "https"
  user := false
  host := "shop.example"
  hostname := "shop.example"
  path := "/orders"
  forceQuery := false
  query := []
  fragment := ""

/-- **A Tests script goes directly** where the own request goes through a proxy that the library
accepts. -/
theorem tests_script_unproxied :
    ¬ ∀ s parse lib environment runner config kind url,
      (∀ id material, lib.resolveProxyProfile id = some material → Accepted s parse material) →
        TakesSameRoute lib environment runner config kind url := by
  intro h
  have haccepted : ∀ id material, sampleLibrary.resolveProxyProfile id = some material →
      Accepted textService parseSample material := by
    rintro id material ⟨⟩
    exact ⟨[("url", .str "http://proxy.example:3128")], _, rfl, rfl, rfl⟩
  have hown : transport sampleLibrary (fun _ => .ok none) profileRequest =
      .ok ⟨proxyWithBypass ⟨"http", "proxy.example:3128", none⟩ "", none, 0x303, true, none,
        none⟩ := rfl
  obtain ⟨auxiliary, hauxiliary, hsame⟩ := h textService parseSample sampleLibrary
    (fun _ => .ok none) (fun _ => .ok none) profileRequest .tests sampleURL haccepted _ none hown
    rfl
  obtain rfl := Except.ok.inj hauxiliary
  have hbypassed : proxyBypassed "shop.example" "" = false := by decide
  have hroute : Except.ok (if proxyBypassed "shop.example" "" then none
      else some (⟨"http", "proxy.example:3128", none⟩ : ProxyURL)) =
        (Except.ok none : Except String (Option ProxyURL)) := hsame.route
  rw [hbypassed] at hroute
  cases hroute

end Rhythm.Scripts.Routes
