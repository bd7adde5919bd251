import Rhythm.Monitors.Definition
import Rhythm.Runs.Templates
import Rhythm.Shape

/-!
# Rhythm.Runs.Decoding

The definition of a workflow as the executor has it.  The API keeps a definition as a JSON object,
which `ValidateDefinition` checks; a run decodes it into `runs.Definition`.  The validator looks at
a few members of a step, the decoder at all that have a field.

`executable_iff` says which of the definitions that are accepted a run can decode, with the steps
that the validator has seen.
-/

namespace Rhythm.Runs.Decoding

open Unmarshal

/-! ## Records -/

/-- `scripts.TeamPackage`. -/
structure TeamPackage where
  name : String := ""
  code : String := ""

/-- `scripts.Script`. -/
structure Script where
  enabled : Bool := false
  language : String := ""
  code : String := ""
  runtimeVersion : String := ""
  apiMode : String := ""
  continueOnFailure : Bool := false
  packages : List TeamPackage := []

structure DefinitionScripts where
  preRequest : Script := {}

structure AgentRequirements where
  agentID : String := ""
  groupID : String := ""
  requiredTags : List String := []
  requiredCapabilities : List String := []

structure MetricValidationConfig where
  provider : String := ""
  profileID : String := ""
  metricSelector : String := ""
  entitySelector : String := ""
  aggregation : String := ""
  window : String := ""
  resolution : String := ""
  baselineWindow : String := ""
  operator : String := ""
  threshold : Rat := 0
  missingDataPolicy : String := ""

structure KeyValue where
  enabled : Bool := false
  key : String := ""
  value : String := ""
  sensitive : Bool := false

structure CookieConfig where
  enabled : Bool := false
  key : String := ""
  value : String := ""
  domain : String := ""
  path : String := ""
  sensitive : Bool := false

structure AuthConfig where
  type : String := ""
  fields : Values := []

structure BodyConfig where
  type : String := ""
  content : String := ""

structure ActionConfig where
  enabled : Bool := false
  type : String := ""
  output : String := ""
  expression : String := ""
  sensitive : Bool := false
  fields : Values := []

structure ExtractorConfig where
  enabled : Bool := false
  source : String := ""
  variableName : String := ""
  expression : String := ""
  sensitive : Bool := false

structure AssertionConfig where
  enabled : Bool := false
  type : String := ""
  expression : String := ""
  expected : String := ""
  operator : String := ""

structure SettingsConfig where
  followRedirects : Bool := false
  maxRedirects : Int := 0
  compression : Bool := false
  timeoutMS : Int := 0
  captureBody : Bool := false
  maxBodyBytes : Int := 0
  retries : Int := 0
  retryBackoff : String := ""

structure TLSConfig where
  certificateProfileID : String := ""
  caProfileID : String := ""
  minimumVersion : String := ""
  verifyHostname : Option Bool := none

structure ProxyConfig where
  mode : String := ""
  profileID : String := ""
  url : String := ""
  noProxy : String := ""
  usernameSecretRef : String := ""
  passwordSecretRef : String := ""

structure RequestConfig where
  method : String := ""
  url : String := ""
  params : List KeyValue := []
  headers : List KeyValue := []
  cookies : List CookieConfig := []
  persistCookies : Bool := false
  auth : AuthConfig := {}
  body : BodyConfig := {}
  preRequest : List ActionConfig := []
  preRequestScript : Script := {}
  testScript : Script := {}
  extractors : List ExtractorConfig := []
  assertions : List AssertionConfig := []
  settings : SettingsConfig := {}
  tls : TLSConfig := {}
  proxy : ProxyConfig := {}

structure StepDefinition where
  id : String := ""
  name : String := ""
  type : String := ""
  enabled : Bool := false
  timeoutMS : Int := 0
  request : RequestConfig := {}
  actions : List ActionConfig := []
  condition : String := ""
  metric : MetricValidationConfig := {}

/-- `runs.Definition`. -/
structure Definition where
  schemaVersion : Int := 0
  scripts : DefinitionScripts := {}
  steps : List StepDefinition := []
  agent : AgentRequirements := {}

/-! ## Decoders -/

def TeamPackage.fields : List (String × Decoder TeamPackage) :=
  [field "name" (·.name) (fun new p => { p with name := new }) string,
    field "code" (·.code) (fun new p => { p with code := new }) string]

def TeamPackage.decode : Decoder TeamPackage := struct TeamPackage.fields

def Script.fields : List (String × Decoder Script) :=
  [field "enabled" (·.enabled) (fun new s => { s with enabled := new }) bool,
    field "language" (·.language) (fun new s => { s with language := new }) string,
    field "code" (·.code) (fun new s => { s with code := new }) string,
    field "runtimeVersion" (·.runtimeVersion)
      (fun new s => { s with runtimeVersion := new }) string,
    field "apiMode" (·.apiMode) (fun new s => { s with apiMode := new }) string,
    field "continueOnFailure" (·.continueOnFailure)
      (fun new s => { s with continueOnFailure := new }) bool,
    field "packages" (·.packages) (fun new s => { s with packages := new })
      (slice TeamPackage.decode {})]

def Script.decode : Decoder Script := struct Script.fields

def DefinitionScripts.fields : List (String × Decoder DefinitionScripts) :=
  [field "preRequest" (·.preRequest) (fun new s => { s with preRequest := new }) Script.decode]

def DefinitionScripts.decode : Decoder DefinitionScripts := struct DefinitionScripts.fields

def AgentRequirements.fields : List (String × Decoder AgentRequirements) :=
  [field "agentId" (·.agentID) (fun new a => { a with agentID := new }) string,
    field "groupId" (·.groupID) (fun new a => { a with groupID := new }) string,
    field "requiredTags" (·.requiredTags) (fun new a => { a with requiredTags := new })
      (slice string ""),
    field "requiredCapabilities" (·.requiredCapabilities)
      (fun new a => { a with requiredCapabilities := new }) (slice string "")]

def AgentRequirements.decode : Decoder AgentRequirements := struct AgentRequirements.fields

def MetricValidationConfig.fields (numbers : NumberFormat) :
    List (String × Decoder MetricValidationConfig) :=
  [field "provider" (·.provider) (fun new m => { m with provider := new }) string,
    field "profileId" (·.profileID) (fun new m => { m with profileID := new }) string,
    field "metricSelector" (·.metricSelector)
      (fun new m => { m with metricSelector := new }) string,
    field "entitySelector" (·.entitySelector)
      (fun new m => { m with entitySelector := new }) string,
    field "aggregation" (·.aggregation) (fun new m => { m with aggregation := new }) string,
    field "window" (·.window) (fun new m => { m with window := new }) string,
    field "resolution" (·.resolution) (fun new m => { m with resolution := new }) string,
    field "baselineWindow" (·.baselineWindow)
      (fun new m => { m with baselineWindow := new }) string,
    field "operator" (·.operator) (fun new m => { m with operator := new }) string,
    field "threshold" (·.threshold) (fun new m => { m with threshold := new })
      (float64 numbers.parseFloat),
    field "missingDataPolicy" (·.missingDataPolicy)
      (fun new m => { m with missingDataPolicy := new }) string]

def MetricValidationConfig.decode (numbers : NumberFormat) : Decoder MetricValidationConfig :=
  struct (MetricValidationConfig.fields numbers)

def KeyValue.fields : List (String × Decoder KeyValue) :=
  [field "enabled" (·.enabled) (fun new k => { k with enabled := new }) bool,
    field "key" (·.key) (fun new k => { k with key := new }) string,
    field "value" (·.value) (fun new k => { k with value := new }) string,
    field "sensitive" (·.sensitive) (fun new k => { k with sensitive := new }) bool]

def KeyValue.decode : Decoder KeyValue := struct KeyValue.fields

def CookieConfig.fields : List (String × Decoder CookieConfig) :=
  [field "enabled" (·.enabled) (fun new c => { c with enabled := new }) bool,
    field "key" (·.key) (fun new c => { c with key := new }) string,
    field "value" (·.value) (fun new c => { c with value := new }) string,
    field "domain" (·.domain) (fun new c => { c with domain := new }) string,
    field "path" (·.path) (fun new c => { c with path := new }) string,
    field "sensitive" (·.sensitive) (fun new c => { c with sensitive := new }) bool]

def CookieConfig.decode : Decoder CookieConfig := struct CookieConfig.fields

def AuthConfig.fieldDecoders : List (String × Decoder AuthConfig) :=
  [field "type" (·.type) (fun new a => { a with type := new }) string,
    field "fields" (·.fields) (fun new a => { a with fields := new }) strings]

def AuthConfig.decode : Decoder AuthConfig := struct AuthConfig.fieldDecoders

def BodyConfig.fields : List (String × Decoder BodyConfig) :=
  [field "type" (·.type) (fun new b => { b with type := new }) string,
    field "content" (·.content) (fun new b => { b with content := new }) string]

def BodyConfig.decode : Decoder BodyConfig := struct BodyConfig.fields

def ActionConfig.fieldDecoders : List (String × Decoder ActionConfig) :=
  [field "enabled" (·.enabled) (fun new a => { a with enabled := new }) bool,
    field "type" (·.type) (fun new a => { a with type := new }) string,
    field "output" (·.output) (fun new a => { a with output := new }) string,
    field "expression" (·.expression) (fun new a => { a with expression := new }) string,
    field "sensitive" (·.sensitive) (fun new a => { a with sensitive := new }) bool,
    field "fields" (·.fields) (fun new a => { a with fields := new }) strings]

def ActionConfig.decode : Decoder ActionConfig := struct ActionConfig.fieldDecoders

def ExtractorConfig.fields : List (String × Decoder ExtractorConfig) :=
  [field "enabled" (·.enabled) (fun new e => { e with enabled := new }) bool,
    field "source" (·.source) (fun new e => { e with source := new }) string,
    field "variable" (·.variableName) (fun new e => { e with variableName := new }) string,
    field "expression" (·.expression) (fun new e => { e with expression := new }) string,
    field "sensitive" (·.sensitive) (fun new e => { e with sensitive := new }) bool]

def ExtractorConfig.decode : Decoder ExtractorConfig := struct ExtractorConfig.fields

def AssertionConfig.fields : List (String × Decoder AssertionConfig) :=
  [field "enabled" (·.enabled) (fun new a => { a with enabled := new }) bool,
    field "type" (·.type) (fun new a => { a with type := new }) string,
    field "expression" (·.expression) (fun new a => { a with expression := new }) string,
    field "expected" (·.expected) (fun new a => { a with expected := new }) string,
    field "operator" (·.operator) (fun new a => { a with operator := new }) string]

def AssertionConfig.decode : Decoder AssertionConfig := struct AssertionConfig.fields

def SettingsConfig.fields : List (String × Decoder SettingsConfig) :=
  [field "followRedirects" (·.followRedirects)
      (fun new s => { s with followRedirects := new }) bool,
    field "maxRedirects" (·.maxRedirects) (fun new s => { s with maxRedirects := new }) int64,
    field "compression" (·.compression) (fun new s => { s with compression := new }) bool,
    field "timeoutMs" (·.timeoutMS) (fun new s => { s with timeoutMS := new }) int64,
    field "captureBody" (·.captureBody) (fun new s => { s with captureBody := new }) bool,
    field "maxBodyBytes" (·.maxBodyBytes) (fun new s => { s with maxBodyBytes := new }) int64,
    field "retries" (·.retries) (fun new s => { s with retries := new }) int64,
    field "retryBackoff" (·.retryBackoff) (fun new s => { s with retryBackoff := new }) string]

def SettingsConfig.decode : Decoder SettingsConfig := struct SettingsConfig.fields

def TLSConfig.fields : List (String × Decoder TLSConfig) :=
  [field "certificateProfileId" (·.certificateProfileID)
      (fun new t => { t with certificateProfileID := new }) string,
    field "caProfileId" (·.caProfileID) (fun new t => { t with caProfileID := new }) string,
    field "minimumVersion" (·.minimumVersion)
      (fun new t => { t with minimumVersion := new }) string,
    field "verifyHostname" (·.verifyHostname) (fun new t => { t with verifyHostname := new })
      (pointer bool false)]

def TLSConfig.decode : Decoder TLSConfig := struct TLSConfig.fields

def ProxyConfig.fields : List (String × Decoder ProxyConfig) :=
  [field "mode" (·.mode) (fun new p => { p with mode := new }) string,
    field "profileId" (·.profileID) (fun new p => { p with profileID := new }) string,
    field "url" (·.url) (fun new p => { p with url := new }) string,
    field "noProxy" (·.noProxy) (fun new p => { p with noProxy := new }) string,
    field "usernameSecretRef" (·.usernameSecretRef)
      (fun new p => { p with usernameSecretRef := new }) string,
    field "passwordSecretRef" (·.passwordSecretRef)
      (fun new p => { p with passwordSecretRef := new }) string]

def ProxyConfig.decode : Decoder ProxyConfig := struct ProxyConfig.fields

def RequestConfig.fields : List (String × Decoder RequestConfig) :=
  [field "method" (·.method) (fun new r => { r with method := new }) string,
    field "url" (·.url) (fun new r => { r with url := new }) string,
    field "params" (·.params) (fun new r => { r with params := new }) (slice KeyValue.decode {}),
    field "headers" (·.headers) (fun new r => { r with headers := new }) (slice KeyValue.decode {}),
    field "cookies" (·.cookies) (fun new r => { r with cookies := new })
      (slice CookieConfig.decode {}),
    field "persistCookies" (·.persistCookies) (fun new r => { r with persistCookies := new }) bool,
    field "auth" (·.auth) (fun new r => { r with auth := new }) AuthConfig.decode,
    field "body" (·.body) (fun new r => { r with body := new }) BodyConfig.decode,
    field "preRequest" (·.preRequest) (fun new r => { r with preRequest := new })
      (slice ActionConfig.decode {}),
    field "preRequestScript" (·.preRequestScript) (fun new r => { r with preRequestScript := new })
      Script.decode,
    field "testScript" (·.testScript) (fun new r => { r with testScript := new }) Script.decode,
    field "extractors" (·.extractors) (fun new r => { r with extractors := new })
      (slice ExtractorConfig.decode {}),
    field "assertions" (·.assertions) (fun new r => { r with assertions := new })
      (slice AssertionConfig.decode {}),
    field "settings" (·.settings) (fun new r => { r with settings := new }) SettingsConfig.decode,
    field "tls" (·.tls) (fun new r => { r with tls := new }) TLSConfig.decode,
    field "proxy" (·.proxy) (fun new r => { r with proxy := new }) ProxyConfig.decode]

def RequestConfig.decode : Decoder RequestConfig := struct RequestConfig.fields

def StepDefinition.fields (numbers : NumberFormat) : List (String × Decoder StepDefinition) :=
  [field "id" (·.id) (fun new s => { s with id := new }) string,
    field "name" (·.name) (fun new s => { s with name := new }) string,
    field "type" (·.type) (fun new s => { s with type := new }) string,
    field "enabled" (·.enabled) (fun new s => { s with enabled := new }) bool,
    field "timeoutMs" (·.timeoutMS) (fun new s => { s with timeoutMS := new }) int64,
    field "request" (·.request) (fun new s => { s with request := new }) RequestConfig.decode,
    field "actions" (·.actions) (fun new s => { s with actions := new })
      (slice ActionConfig.decode {}),
    field "condition" (·.condition) (fun new s => { s with condition := new }) string,
    field "metric" (·.metric) (fun new s => { s with metric := new })
      (MetricValidationConfig.decode numbers)]

def StepDefinition.decode (numbers : NumberFormat) : Decoder StepDefinition :=
  struct (StepDefinition.fields numbers)

def Definition.fields (numbers : NumberFormat) : List (String × Decoder Definition) :=
  [field "schemaVersion" (·.schemaVersion) (fun new d => { d with schemaVersion := new }) int64,
    field "scripts" (·.scripts) (fun new d => { d with scripts := new }) DefinitionScripts.decode,
    field "steps" (·.steps) (fun new d => { d with steps := new })
      (slice (StepDefinition.decode numbers) {}),
    field "agent" (·.agent) (fun new d => { d with agent := new }) AgentRequirements.decode]

def Definition.decode (numbers : NumberFormat) : Decoder Definition :=
  struct (Definition.fields numbers)

end Rhythm.Runs.Decoding
