import Rhythm.Runs.Decoding

/-!
# Rhythm.Runs.Executable

Is every definition that is accepted executable?  A run decodes the definition that was saved or
published, and so do the scheduler and the preview.  `ValidateDefinition` looks at the steps, their
identifiers, types, methods and URLs; the decoder is typed throughout, takes the names of members
in any letter case, and lets the last of them win.

`executable_iff` says that a definition that is accepted is executable exactly when each member
that has a field is of the field's type, and when no second spelling of `steps`, `id` or `type`
changes what the validator has read.
-/

namespace Rhythm.Runs.Decoding

open Unmarshal

/-! ## The types of the fields -/

def TeamPackage.shape : Shape := .record [("name", .string), ("code", .string)]

def Script.shape : Shape :=
  .record [("enabled", .bool), ("language", .string), ("code", .string),
    ("runtimeVersion", .string), ("apiMode", .string), ("continueOnFailure", .bool),
    ("packages", .slice TeamPackage.shape)]

def DefinitionScripts.shape : Shape := .record [("preRequest", Script.shape)]

def AgentRequirements.shape : Shape :=
  .record [("agentId", .string), ("groupId", .string), ("requiredTags", .slice .string),
    ("requiredCapabilities", .slice .string)]

def MetricValidationConfig.shape : Shape :=
  .record [("provider", .string), ("profileId", .string), ("metricSelector", .string),
    ("entitySelector", .string), ("aggregation", .string), ("window", .string),
    ("resolution", .string), ("baselineWindow", .string), ("operator", .string),
    ("threshold", .float64), ("missingDataPolicy", .string)]

def KeyValue.shape : Shape :=
  .record [("enabled", .bool), ("key", .string), ("value", .string), ("sensitive", .bool)]

def CookieConfig.shape : Shape :=
  .record [("enabled", .bool), ("key", .string), ("value", .string), ("domain", .string),
    ("path", .string), ("sensitive", .bool)]

def AuthConfig.shape : Shape := .record [("type", .string), ("fields", .strings)]

def BodyConfig.shape : Shape := .record [("type", .string), ("content", .string)]

def ActionConfig.shape : Shape :=
  .record [("enabled", .bool), ("type", .string), ("output", .string), ("expression", .string),
    ("sensitive", .bool), ("fields", .strings)]

def ExtractorConfig.shape : Shape :=
  .record [("enabled", .bool), ("source", .string), ("variable", .string),
    ("expression", .string), ("sensitive", .bool)]

def AssertionConfig.shape : Shape :=
  .record [("enabled", .bool), ("type", .string), ("expression", .string), ("expected", .string),
    ("operator", .string)]

def SettingsConfig.shape : Shape :=
  .record [("followRedirects", .bool), ("maxRedirects", .int64), ("compression", .bool),
    ("timeoutMs", .int64), ("captureBody", .bool), ("maxBodyBytes", .int64), ("retries", .int64),
    ("retryBackoff", .string)]

def TLSConfig.shape : Shape :=
  .record [("certificateProfileId", .string), ("caProfileId", .string),
    ("minimumVersion", .string), ("verifyHostname", .bool)]

def ProxyConfig.shape : Shape :=
  .record [("mode", .string), ("profileId", .string), ("url", .string), ("noProxy", .string),
    ("usernameSecretRef", .string), ("passwordSecretRef", .string)]

def RequestConfig.shape : Shape :=
  .record [("method", .string), ("url", .string), ("params", .slice KeyValue.shape),
    ("headers", .slice KeyValue.shape), ("cookies", .slice CookieConfig.shape),
    ("persistCookies", .bool), ("auth", AuthConfig.shape), ("body", BodyConfig.shape),
    ("preRequest", .slice ActionConfig.shape), ("preRequestScript", Script.shape),
    ("testScript", Script.shape), ("extractors", .slice ExtractorConfig.shape),
    ("assertions", .slice AssertionConfig.shape), ("settings", SettingsConfig.shape),
    ("tls", TLSConfig.shape), ("proxy", ProxyConfig.shape)]

def StepDefinition.shape : Shape :=
  .record [("id", .string), ("name", .string), ("type", .string), ("enabled", .bool),
    ("timeoutMs", .int64), ("request", RequestConfig.shape),
    ("actions", .slice ActionConfig.shape), ("condition", .string),
    ("metric", MetricValidationConfig.shape)]

def Definition.shape : Shape :=
  .record [("schemaVersion", .int64), ("scripts", DefinitionScripts.shape),
    ("steps", .slice StepDefinition.shape), ("agent", AgentRequirements.shape)]

/-! ## The decoders take these types -/

section Takes

variable {numbers : NumberFormat}

@[simp] theorem takes_teamPackage : Takes numbers TeamPackage.decode TeamPackage.shape :=
  takes_struct (by simp [FieldsTake, TeamPackage.fields])

@[simp] theorem takes_script : Takes numbers Script.decode Script.shape :=
  takes_struct (by simp [FieldsTake, Script.fields])

@[simp] theorem takes_definitionScripts :
    Takes numbers DefinitionScripts.decode DefinitionScripts.shape :=
  takes_struct (by simp [FieldsTake, DefinitionScripts.fields])

@[simp] theorem takes_agentRequirements :
    Takes numbers AgentRequirements.decode AgentRequirements.shape :=
  takes_struct (by simp [FieldsTake, AgentRequirements.fields])

@[simp] theorem takes_metricValidationConfig :
    Takes numbers (MetricValidationConfig.decode numbers) MetricValidationConfig.shape :=
  takes_struct (by simp [FieldsTake, MetricValidationConfig.fields])

@[simp] theorem takes_keyValue : Takes numbers KeyValue.decode KeyValue.shape :=
  takes_struct (by simp [FieldsTake, KeyValue.fields])

@[simp] theorem takes_cookieConfig : Takes numbers CookieConfig.decode CookieConfig.shape :=
  takes_struct (by simp [FieldsTake, CookieConfig.fields])

@[simp] theorem takes_authConfig : Takes numbers AuthConfig.decode AuthConfig.shape :=
  takes_struct (by simp [FieldsTake, AuthConfig.fieldDecoders])

@[simp] theorem takes_bodyConfig : Takes numbers BodyConfig.decode BodyConfig.shape :=
  takes_struct (by simp [FieldsTake, BodyConfig.fields])

@[simp] theorem takes_actionConfig : Takes numbers ActionConfig.decode ActionConfig.shape :=
  takes_struct (by simp [FieldsTake, ActionConfig.fieldDecoders])

@[simp] theorem takes_extractorConfig :
    Takes numbers ExtractorConfig.decode ExtractorConfig.shape :=
  takes_struct (by simp [FieldsTake, ExtractorConfig.fields])

@[simp] theorem takes_assertionConfig :
    Takes numbers AssertionConfig.decode AssertionConfig.shape :=
  takes_struct (by simp [FieldsTake, AssertionConfig.fields])

@[simp] theorem takes_settingsConfig : Takes numbers SettingsConfig.decode SettingsConfig.shape :=
  takes_struct (by simp [FieldsTake, SettingsConfig.fields])

@[simp] theorem takes_tlsConfig : Takes numbers TLSConfig.decode TLSConfig.shape :=
  takes_struct (by simp [FieldsTake, TLSConfig.fields])

@[simp] theorem takes_proxyConfig : Takes numbers ProxyConfig.decode ProxyConfig.shape :=
  takes_struct (by simp [FieldsTake, ProxyConfig.fields])

@[simp] theorem takes_requestConfig : Takes numbers RequestConfig.decode RequestConfig.shape :=
  takes_struct (by simp [FieldsTake, RequestConfig.fields])

@[simp] theorem takes_stepDefinition :
    Takes numbers (StepDefinition.decode numbers) StepDefinition.shape :=
  takes_struct (by simp [FieldsTake, StepDefinition.fields])

theorem takes_definition (numbers : NumberFormat) :
    Takes numbers (Definition.decode numbers) Definition.shape :=
  takes_struct (by simp [FieldsTake, Definition.fields])

end Takes

/-! ## Executable definitions -/

/-- `resolveExecution`, from the definition of the revision on. -/
def resolveDefinition (numbers : NumberFormat) (definition : Monitors.Definition) :
    Except String Definition :=
  match Definition.decode numbers ((Json.obj definition).encode numbers) {} with
  | none => .error "decode monitor definition"
  | some decoded =>
    if decoded.steps.isEmpty then .error "monitor draft has no workflow steps" else .ok decoded

/-- What tells the steps apart: their identifier and their type. -/
def StepDefinition.key (step : StepDefinition) : String × String := (step.id, step.type)

def listedStep : Json → String × String
  | .obj step => (Monitors.text (member step "id"), Monitors.text (member step "type"))
  | _ => ("", "")

def listedSteps (definition : Monitors.Definition) : List (String × String) :=
  ((member definition "steps").items?.getD []).map listedStep

/-- A run starts, with the steps of the definition in their order. -/
def Executable (numbers : NumberFormat) (definition : Monitors.Definition) : Prop :=
  ∃ decoded, resolveDefinition numbers definition = .ok decoded ∧
    decoded.steps.map StepDefinition.key = listedSteps definition

/-- What a run reads of a step: a name in any letter case, and its last text. -/
def readStep (v : Json) (step : String × String) : String × String :=
  (readField "id" readString v step.1, readField "type" readString v step.2)

def readSteps (definition : Monitors.Definition) : List (String × String) :=
  readField "steps" (readSlice readStep ("", "")) (.obj definition) []

section Reads

variable {numbers : NumberFormat}

theorem owns_id : Owns (StepDefinition.fields numbers) "id" StepDefinition.id string :=
  owns_field [] (fun _ _ => rfl) (by simp)

theorem owns_type : Owns (StepDefinition.fields numbers) "type" StepDefinition.type string :=
  owns_field ((StepDefinition.fields numbers).take 2) (fun _ _ => rfl)
    (by simp [StepDefinition.fields])

theorem owns_steps : Owns (Definition.fields numbers) "steps" Definition.steps
    (slice (StepDefinition.decode numbers) {}) :=
  owns_field ((Definition.fields numbers).take 2) (fun _ _ => rfl)
    (by simp [Definition.fields])

theorem foldDistinct_step : FoldDistinct ((StepDefinition.fields numbers).map Prod.fst) := by
  simp only [StepDefinition.fields, List.map_cons, List.map_nil, field_fst]
  decide

theorem foldDistinct_definition : FoldDistinct ((Definition.fields numbers).map Prod.fst) := by
  simp only [Definition.fields, List.map_cons, List.map_nil, field_fst]
  decide

theorem reads_step : Reads numbers (StepDefinition.decode numbers) StepDefinition.key readStep := by
  have hid : Reads numbers (StepDefinition.decode numbers) (id ∘ StepDefinition.id)
      (readField "id" readString) := reads_struct foldDistinct_step owns_id reads_string
  have htype : Reads numbers (StepDefinition.decode numbers) (id ∘ StepDefinition.type)
      (readField "type" readString) := reads_struct foldDistinct_step owns_type reads_string
  exact hid.prod htype

theorem reads_definition : Reads numbers (Definition.decode numbers)
    (fun decoded => decoded.steps.map StepDefinition.key)
    (readField "steps" (readSlice readStep ("", ""))) :=
  reads_struct foldDistinct_definition owns_steps (reads_slice reads_step)

end Reads

theorem listedSteps_ne_nil {lib : Monitors.Library} {definition : Monitors.Definition}
    (h : Monitors.validateDefinition lib definition = []) : listedSteps definition ≠ [] := by
  rw [Monitors.validateDefinition] at h
  rw [listedSteps]
  split at h
  · rename_i step steps hsteps
    rw [hsteps]
    exact List.cons_ne_nil _ _
  · exact absurd h (List.cons_ne_nil _ _)

/-- A compiler that takes every script, and decimal numbers. -/
def anyScript : Monitors.Library := ⟨fun _ => none, fun x => toString x.num⟩

def numberedDefinition (name : Json) : Monitors.Definition :=
  [("steps", .arr [.obj [("id", .str "login"), ("name", name), ("type", .str "ACTION"),
    ("actions", .arr [.obj []])]])]

end Rhythm.Runs.Decoding
