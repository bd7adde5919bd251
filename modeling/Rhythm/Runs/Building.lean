import Rhythm.Emitting
import Rhythm.Runs.RequestSummary
import Rhythm.Runs.Retries
import Rhythm.Runs.StepLoop

/-!
# Rhythm.Runs.Building

The requests that the executor builds for a step: the one of an HTTP step, the query of a metric,
and the token requests of OAuth, which actions and the authentication of a request ask for.

The lemmas at the end say when all requests of a function can be sent again: none asks for a token,
and the request has a method, or an `Idempotency-Key`, that `retrySafe` accepts.
-/

namespace Rhythm.Runs.Building

open Decoding (StepDefinition)
open Network (Header URL)
open Retries (Request retrySafe)

/-! ## The runtime of a step -/

/-- What the executor works with while it executes a step. -/
structure Runtime extends RequestLibrary where
  executor : HTTPExecutor
  /-- The context is done when the step starts. -/
  expired : Bool
  /-- The lookup of the host of the request, and of another host. -/
  requestHost : Answer
  lookupHost : String → Answer
  /-- `transport` makes one for this configuration. -/
  transport : Decoding.RequestConfig → Bool
  /-- `prepareActions` and `executeActions`, for an action that is no OAuth token. -/
  executeAction : Decoding.ActionConfig → Values → Option Values
  /-- The token that the endpoint answers. -/
  token : Request → Option String
  /-- The pre-request script: the request and the variables that it leaves, if it lets the step go
  on. -/
  script : Decoding.RequestConfig → Values → Option (Decoding.RequestConfig × Values)
  /-- `encodeRequestBody`: the content type. -/
  automaticContentType : String → String → String
  /-- The header of `SetBasicAuth`. -/
  basicAuth : String → String → String
  generateJWT : Decoding.AuthConfig → Values → Option String
  hmacSignature : String → String → String → Option String
  timestamp : String
  /-- `ResolveTelemetryProfile`: the URL and the token of the provider. -/
  resolveTelemetryProfile : String → Option (String × String)

/-- `fields[name]`. -/
def field (fields : Values) (name : String) : String := (fields.lookup name).getD ""

/-! ## Tokens -/

/-- `acquireOAuthToken`, up to its request. -/
def tokenRequest (rt : Runtime) (fields values : Values) : Option Request := do
  let tokenURL ← (render rt.generate (field fields "tokenUrl") values).toOption
  let target ← rt.parseURL tokenURL
  let _ ← (rt.executor.validateTarget ⟨target.scheme, target.hostname, target.user⟩
    (rt.lookupHost target.hostname)).toOption
  let clientID ← (render rt.generate (field fields "clientId") values).toOption
  let clientSecret ← rt.credential (field fields "clientSecret") values
  let scope := Text.trimSpace (field fields "scope")
  let form : Network.Query := [("grant_type", "client_credentials")]
  let form := if scope ≠ "" then form.set "scope" scope else form
  let header : Header := ⟨[]⟩
  let header := header.set "Content-Type" "application/x-www-form-urlencoded"
  some (Retries.newRequest "POST" (header.set "Authorization" (rt.basicAuth clientID clientSecret))
    form.encode)

/-- `acquireOAuthToken`. -/
def acquireOAuthToken (rt : Runtime) (fields values : Values) : Emitting Request String := do
  let request ← .ofOption (tokenRequest rt fields values)
  .emit request
  .ofOption (rt.token request)

/-! ## Actions -/

/-- `normalizeActionType`. -/
def normalizeActionType (value : String) : String :=
  let value := Text.toLower (Text.replaceAll (Text.trimSpace value) "_" "-")
  match Text.trimPrefix value "generate-" with
  | "sha256" | "sha" => "sha"
  | "hmac-sha256" | "hmac-signature" => "hmac"
  | value => value

def asksForToken (action : Decoding.ActionConfig) : Bool :=
  action.enabled && normalizeActionType action.type = "oauth-token"

def tokenTransport : Decoding.RequestConfig := { settings := { compression := true } }

/-- One turn of the loop of `executeStepActions`. -/
def executeStepAction (rt : Runtime) (values : Values) (action : Decoding.ActionConfig) :
    Emitting Request Values :=
  if action.enabled = false then pure values
  else if asksForToken action then do
    .check (rt.transport tokenTransport)
    let token ← acquireOAuthToken rt action.fields values
    .check (Text.trimSpace action.output ≠ "")
    pure (values.write action.output token)
  else .ofOption (rt.executeAction action values)

/-- `executeStepActions`. -/
def executeStepActions (rt : Runtime) (actions : List Decoding.ActionConfig) (seed : Values) :
    Emitting Request Values :=
  actions.foldlM (executeStepAction rt) seed

/-! ## The request of an HTTP step -/

/-- A header or a parameter, as `RequestSummary` has it. -/
def keyValue (item : Decoding.KeyValue) : KeyValue :=
  ⟨item.enabled, item.key, item.value, item.sensitive⟩

/-- The configuration, as `RequestSummary` has it. -/
def requestText (config : Decoding.RequestConfig) : RequestText where
  method := config.method
  url := config.url
  params := config.params.map keyValue
  headers := config.headers.map keyValue
  cookies := config.cookies.map fun item => ⟨item.enabled, item.key, item.value, item.sensitive⟩
  auth := ⟨config.auth.type, config.auth.fields⟩
  bodyType := config.body.type
  bodyContent := config.body.content

/-- The parts of a request, before the authentication. -/
structure Parts where
  method : String
  path : String
  body : String
  contentType : String
  headers : List (KeyValue × String)
  cookies : List (KeyValue × String)

/-- `buildRequest`, up to the authentication. -/
def renderRequest (rt : Runtime) (config : Decoding.RequestConfig) (values : Values) :
    Option Parts := do
  let text := requestText config
  let target ← (renderTarget rt.toRequestLibrary rt.executor rt.requestHost text values).toOption
  let content ← (render rt.generate text.bodyContent values).toOption
  let body ← rt.encodeBody text.bodyType content
  let (method, url) ← newRequest (Text.toUpper text.method) target
  let headers ← (renderItems rt.generate values text.headers).toOption
  let cookies ← (renderItems rt.generate values text.cookies).toOption
  some ⟨method, url.path, body, rt.automaticContentType text.bodyType content, headers, cookies⟩

def Parts.header (parts : Parts) : Header :=
  let fields := parts.headers.map fun item => (item.1.key, item.2)
  let header : Header := fields.foldl (fun header field => header.add field.1 field.2) ⟨[]⟩
  header.addCookies (parts.cookies.map fun item => ⟨item.1.key, item.2⟩)

def Parts.values (parts : Parts) (rt : Runtime) (values : Values) : Values :=
  values.writeAll [("request.method", parts.method), ("request.path", parts.path),
    ("request.body", parts.body), ("request.timestamp", rt.timestamp)]

/-- The header that `applyAuth` sets, if it sets one. -/
def authentication (rt : Runtime) (auth : Decoding.AuthConfig) (values : Values) :
    Emitting Request (Option (String × String)) :=
  match auth.type with
  | "" | "none" => pure none
  | "basic" => do
    let username ← .ofOption (rt.credential (field auth.fields "username") values)
    let password ← .ofOption (rt.credential (field auth.fields "password") values)
    pure (some ("Authorization", rt.basicAuth username password))
  | "bearer" => do
    let token ← .ofOption (rt.credential (field auth.fields "token") values)
    pure (some ("Authorization", "Bearer " ++ token))
  | "apiKey" => do
    let rendered ← .ofOption (rt.credential (field auth.fields "value") values)
    if field auth.fields "location" = "query" then pure none
    else pure (some (field auth.fields "name", rendered))
  | "oauth2" => do
    let token ← acquireOAuthToken rt auth.fields values
    pure (some ("Authorization", "Bearer " ++ token))
  | "jwt" => do
    let key ← .ofOption (rt.credential (field auth.fields "keyRef") values)
    let token ← .ofOption
      (rt.generateJWT { auth with fields := auth.fields.write "keyRef" key } values)
    pure (some ("Authorization", "Bearer " ++ token))
  | "hmac" => do
    let canonical ← .ofOption (render rt.generate (field auth.fields "canonicalTemplate")
      values).toOption
    let secret ← .ofOption (rt.credential (field auth.fields "secretRef") values)
    let signature ← .ofOption (rt.hmacSignature (field auth.fields "algorithm") secret canonical)
    pure (some (Text.defaultString (field auth.fields "outputHeader") "X-Signature", signature))
  | _ => .ofOption none

def setAuthentication (header : Header) : Option (String × String) → Header
  | none => header
  | some (name, value) => header.set name value

/-- The content type of the body, when no header tells it. -/
def setContentType (header : Header) (contentType : String) : Header :=
  if contentType ≠ "" ∧ header.get "Content-Type" = "" then header.set "Content-Type" contentType
  else header

/-- **`buildRequest`**: the request itself; `Runs.buildRequest` is its summary. -/
def buildRequest (rt : Runtime) (config : Decoding.RequestConfig) (values : Values) :
    Emitting Request Unit := do
  let parts ← .ofOption (renderRequest rt config values)
  let set ← authentication rt config.auth (parts.values rt values)
  let header := setContentType (setAuthentication parts.header set) parts.contentType
  .emit (Retries.newRequest parts.method header parts.body)

/-- The variables of the run, with what the actions have put out. -/
def publishActions (actions : List Decoding.ActionConfig) (outputs values : Values) : Values :=
  actions.foldl (fun values action =>
    if action.enabled = false ∨ Text.trimSpace action.output = "" then values
    else
      match outputs.lookup action.output with
      | some value =>
        (values.write action.output value).write ("variables." ++ action.output) value
      | none => values) values

def addMissing (outputs values : Values) : Values :=
  values.foldl (fun outputs entry =>
    if (outputs.lookup entry.1).isSome then outputs else outputs.write entry.1 entry.2) outputs

/-- The variables of a request, when its actions are done. -/
def requestVariables (request : Decoding.RequestConfig) (outputs values : Values) : Values :=
  addMissing outputs (publishActions request.preRequest outputs values)

/-- `ExecuteWithScriptState`, up to the request. -/
def executeWithScriptState (rt : Runtime) (request : Decoding.RequestConfig) (values : Values) :
    Emitting Request Unit := do
  let outputs ← executeStepActions rt request.preRequest values
  let outputs := requestVariables request outputs values
  let (config, outputs) ←
    if Text.trimSpace request.preRequestScript.code ≠ "" then
      .ofOption (rt.script request outputs)
    else pure (request, outputs)
  .check (rt.transport config)
  buildRequest rt config outputs

/-- `ExecuteActions`. -/
def executeActions (rt : Runtime) (actions : List Decoding.ActionConfig) (values : Values) :
    Emitting Request Unit := do
  .check (!rt.expired)
  let _ ← executeStepActions rt actions values
  pure ()

/-- `ExecuteMetric`, up to the request. -/
def executeMetric (rt : Runtime) (config : Decoding.MetricValidationConfig) :
    Emitting Request Unit := do
  .check (Text.toUpper config.provider = "DYNATRACE" ∧ Text.trimSpace config.profileID ≠ "" ∧
    Text.trimSpace config.metricSelector ≠ "")
  let (baseURL, token) ← .ofOption (rt.resolveTelemetryProfile config.profileID)
  let base := String.ofList (baseURL.toList.rdropWhile (· = '/'))
  let target ← .ofOption (rt.parseURL (base ++ "/api/v2/metrics/query"))
  .check (target.host ≠ "")
  .check (rt.executor.validateTarget ⟨target.scheme, target.hostname, target.user⟩
    (rt.lookupHost target.hostname)).isOk
  let header : Header := ⟨[]⟩
  let header := (header.set "Authorization" ("Api-Token " ++ token)).set "Accept" "application/json"
  .emit ⟨"GET", header, "", none⟩

def executeStep (rt : Runtime) (step : StepDefinition) (values : Values) :
    Emitting Request Unit :=
  match (StepLoop.workflowStep step).type with
  | .action => executeActions rt step.actions values
  | .httpRequest => executeWithScriptState rt step.request values
  | .metricValidation => executeMetric rt step.metric
  | .other _ => pure ()

/-! ## Requests that can be sent again -/

/-- `retrySafe` accepts it. -/
def Repeatable (request : Request) : Prop := retrySafe request = true

def repeatableMethods : List String := ["GET", "HEAD", "OPTIONS", "PUT", "DELETE"]

theorem repeatable_newRequest {method body : String} {header : Header} :
    Repeatable (Retries.newRequest method header body) ↔
      method ∈ repeatableMethods ∨ Text.trimSpace (header.get "Idempotency-Key") ≠ "" := by
  unfold Repeatable retrySafe
  rw [Bool.or_eq_true, decide_eq_true_eq, decide_eq_true_eq]
  rfl

section Tokens

variable {rt : Runtime} {fields values seed : Values}

def TokenReady (rt : Runtime) (fields values : Values) : Prop :=
  ∃ tokenURL target clientID clientSecret,
    render rt.generate (field fields "tokenUrl") values = .ok tokenURL ∧
    rt.parseURL tokenURL = some target ∧
    rt.executor.validateTarget ⟨target.scheme, target.hostname, target.user⟩
      (rt.lookupHost target.hostname) = .ok () ∧
    render rt.generate (field fields "clientId") values = .ok clientID ∧
    rt.credential (field fields "clientSecret") values = some clientSecret

theorem toOption_eq_some_iff {ε α : Type} {x : Except ε α} {a : α} :
    x.toOption = some a ↔ x = .ok a := by
  cases x <;> simp [Except.toOption]

theorem tokenReady_iff :
    TokenReady rt fields values ↔ ∃ request, tokenRequest rt fields values = some request := by
  simp only [tokenRequest, Option.bind_eq_bind, Option.bind_eq_some_iff, toOption_eq_some_iff]
  constructor
  · rintro ⟨tokenURL, target, clientID, clientSecret, hurl, hparse, hvalid, hid, hsecret⟩
    exact ⟨_, tokenURL, hurl, target, hparse, (), hvalid, clientID, hid, clientSecret, hsecret, rfl⟩
  · rintro ⟨_, tokenURL, hurl, target, hparse, ⟨⟩, hvalid, clientID, hid, clientSecret, hsecret, -⟩
    exact ⟨tokenURL, target, clientID, clientSecret, hurl, hparse, hvalid, hid, hsecret⟩

theorem not_repeatable_tokenRequest {request : Request}
    (hrequest : tokenRequest rt fields values = some request) : ¬Repeatable request := by
  simp only [tokenRequest, Option.bind_eq_bind, Option.bind_eq_some_iff, toOption_eq_some_iff]
    at hrequest
  obtain ⟨tokenURL, -, target, -, ⟨⟩, -, clientID, -, clientSecret, -, hrequest⟩ := hrequest
  obtain rfl := Option.some.inj hrequest
  rw [repeatable_newRequest, Header.get_set, if_neg (by decide), Header.get_set,
    if_neg (by decide)]
  decide

/-- **A token is asked for, or nothing is sent.** -/
theorem all_acquireOAuthToken :
    (acquireOAuthToken rt fields values).All Repeatable ↔ ¬TokenReady rt fields values := by
  unfold acquireOAuthToken
  rw [tokenReady_iff, Emitting.all_bind]
  simp only [Emitting.all_ofOption, Emitting.result_ofOption, true_and, Emitting.all_bind,
    Emitting.all_emit, implies_true, and_true]
  constructor
  · rintro hall ⟨request, hrequest⟩
    exact not_repeatable_tokenRequest hrequest (hall request hrequest)
  · exact fun hnone request hrequest => absurd ⟨request, hrequest⟩ hnone

theorem all_executeStepAction {action : Decoding.ActionConfig} :
    (executeStepAction rt values action).All Repeatable ↔
      (asksForToken action = true → rt.transport tokenTransport = true →
        ¬TokenReady rt action.fields values) := by
  unfold executeStepAction
  split
  · rename_i hdisabled
    simp [asksForToken, hdisabled]
  · split
    · rename_i hasks
      simp only [Emitting.all_bind, Emitting.all_check, Emitting.all_pure,
        all_acquireOAuthToken, true_and, hasks, forall_true_left, implies_true, and_true,
        Emitting.result_check]
      exact ⟨fun h htransport => h () htransport, fun h _ htransport => h htransport⟩
    · rename_i hother
      simp [hother]

/-- No action asks for a token that is ready when its turn comes. -/
def NoTokens (rt : Runtime) (actions : List Decoding.ActionConfig) (seed : Values) : Prop :=
  ∀ before action after, actions = before ++ action :: after → asksForToken action = true →
    rt.transport tokenTransport = true →
      ∀ values, (executeStepActions rt before seed).result = some values →
        ¬TokenReady rt action.fields values

theorem all_executeStepActions {actions : List Decoding.ActionConfig} :
    (executeStepActions rt actions seed).All Repeatable ↔ NoTokens rt actions seed := by
  unfold NoTokens
  rw [executeStepActions, Emitting.all_foldlM]
  simp only [all_executeStepAction]
  constructor
  · exact fun h before action after hsplit hasks htransport values hvalues =>
      h before action after hsplit values hvalues hasks htransport
  · exact fun h before action after hsplit values hvalues hasks htransport =>
      h before action after hsplit hasks htransport values hvalues

theorem all_authentication {auth : Decoding.AuthConfig} :
    (authentication rt auth values).All Repeatable ↔
      (auth.type = "oauth2" → ¬TokenReady rt auth.fields values) := by
  by_cases hoauth : auth.type = "oauth2"
  · simp [authentication, hoauth, Emitting.all_bind, all_acquireOAuthToken]
  · refine iff_of_true ?_ fun h => absurd h hoauth
    unfold authentication
    split <;>
      simp_all [Emitting.all_bind, apply_ite (Emitting.All Repeatable)]

end Tokens

section Keys

variable {rt : Runtime} {config : Decoding.RequestConfig} {values : Values} {parts : Parts}
  {set : Option (String × String)}

/-- The name is `Idempotency-Key`, without regard to case. -/
def spelled (name : String) : Bool := Network.canonicalKey name = "Idempotency-Key"

def Parts.key? (parts : Parts) : Option (KeyValue × String) :=
  parts.headers.find? fun item => spelled item.1.key

theorem canonicalKey_key : Network.canonicalKey "Idempotency-Key" = "Idempotency-Key" := by decide

theorem Parts.get_header :
    parts.header.get "Idempotency-Key" = (parts.key?.map Prod.snd).getD "" := by
  unfold Parts.header
  rw [Header.get_addCookies (by decide), Header.get, Header.values_addAll, canonicalKey_key]
  simp only [List.filter_map, List.map_map, Function.comp_def]
  have hempty : (⟨[]⟩ : Header).values "Idempotency-Key" = [] := rfl
  rw [hempty, List.nil_append, List.headD_eq_head?_getD, List.head?_map, List.head?_filter]
  rfl

theorem get_setContentType (header : Header) (contentType : String) :
    (setContentType header contentType).get "Idempotency-Key" = header.get "Idempotency-Key" := by
  unfold setContentType
  split
  · rw [Header.get_set, if_neg (by decide)]
  · rfl

/-- A key arrives: the authentication sets one, or the configuration has one. -/
def KeyArrives (parts : Parts) (set : Option (String × String)) : Prop :=
  match set.filter fun field => spelled field.1 with
  | some (_, value) => Text.trimSpace value ≠ ""
  | none => ∃ item, parts.key? = some item ∧ Text.trimSpace item.2 ≠ ""

theorem keyArrives_iff :
    KeyArrives parts set ↔ Text.trimSpace
      ((setContentType (setAuthentication parts.header set) parts.contentType).get
        "Idempotency-Key") ≠ "" := by
  have hconfigured : (∃ item, parts.key? = some item ∧ Text.trimSpace item.2 ≠ "") ↔
      Text.trimSpace (parts.header.get "Idempotency-Key") ≠ "" := by
    rw [Parts.get_header]
    cases parts.key? with
    | none => simp [show Text.trimSpace "" = "" from rfl]
    | some item => simp
  rw [get_setContentType]
  unfold KeyArrives setAuthentication
  cases set with
  | none => exact hconfigured
  | some field =>
    obtain ⟨name, value⟩ := field
    by_cases hname : spelled name = true
    · have hcanonical : Network.canonicalKey name = "Idempotency-Key" := of_decide_eq_true hname
      simp only [Header.get_set, canonicalKey_key, if_pos hcanonical.symm]
      rw [Option.filter_some, if_pos hname]
    · have hcanonical : "Idempotency-Key" ≠ Network.canonicalKey name := fun h =>
        hname (decide_eq_true h.symm)
      simp only [Header.get_set, canonicalKey_key, if_neg hcanonical]
      rw [Option.filter_some, if_neg hname]
      exact hconfigured

/-- **`buildRequest` sends only what can be sent again** when the authentication asks for no token,
and the request has the method or the key. -/
theorem all_buildRequest :
    (buildRequest rt config values).All Repeatable ↔
      ∀ parts, renderRequest rt config values = some parts →
        (config.auth.type = "oauth2" →
          ¬TokenReady rt config.auth.fields (parts.values rt values)) ∧
        ∀ set, (authentication rt config.auth (parts.values rt values)).result = some set →
          parts.method ∈ repeatableMethods ∨ KeyArrives parts set := by
  unfold buildRequest
  simp only [Emitting.all_bind, Emitting.all_ofOption, Emitting.result_ofOption, true_and,
    all_authentication, Emitting.all_emit, repeatable_newRequest, keyArrives_iff]

end Keys

section Steps

variable {rt : Runtime} {values : Values}

theorem all_executeActions {actions : List Decoding.ActionConfig} :
    (executeActions rt actions values).All Repeatable ↔
      (rt.expired = false → NoTokens rt actions values) := by
  simp [executeActions, Emitting.all_bind, all_executeStepActions]

theorem all_executeWithScriptState {request : Decoding.RequestConfig}
    (hscript : Text.trimSpace request.preRequestScript.code = "") :
    (executeWithScriptState rt request values).All Repeatable ↔
      NoTokens rt request.preRequest values ∧
        ∀ outputs, (executeStepActions rt request.preRequest values).result = some outputs →
          rt.transport request = true →
            (buildRequest rt request (requestVariables request outputs values)).All Repeatable := by
  unfold executeWithScriptState
  simp [hscript, Emitting.all_bind, all_executeStepActions]

theorem all_executeMetric {config : Decoding.MetricValidationConfig} :
    (executeMetric rt config).All Repeatable := by
  have hget : ∀ header, Repeatable ⟨"GET", header, "", none⟩ := fun header => by
    simp [Repeatable, retrySafe]
  simp [executeMetric, Emitting.all_bind, hget]

end Steps

end Rhythm.Runs.Building
