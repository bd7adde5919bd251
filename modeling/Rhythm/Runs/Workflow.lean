import Rhythm.Runs.RequestSummary

/-!
# Rhythm.Runs.Workflow

The variables of a run.  `runWithSnapshot` executes the steps one after the other; what a
step's actions, scripts and extractors produce becomes variables that later steps
read, sensitive values included.

What actions compute, scripts do and responses hold are inputs of a step.  A ghost field
collects the secrets of the run: the resolved ones and the values of sensitive
actions and extractors.
-/

namespace Rhythm.Runs

open Text Network

/-- `ActionConfig`, as far as its output is concerned. -/
structure ActionConfig where
  enabled : Bool
  output : String
  sensitive : Bool

/-- `ExtractorConfig`, as far as its variable is concerned. -/
structure ExtractorConfig where
  enabled : Bool
  variableName : String
  sensitive : Bool

/-- A step of type `HTTP_REQUEST`. -/
structure HTTPStep where
  id : String
  preRequest : List ActionConfig
  request : RequestText
  extractors : List ExtractorConfig

/-- What a script leaves: the stores, the variables that its public result masks, the request it
rewrites and the secrets it was given. -/
structure ScriptResult where
  variableStore : Values
  environment : Values
  service : Values
  application : Values
  collection : Values
  globals : Values
  masked : List String
  request : Option RequestText
  requestSkipped : Bool
  secrets : List String

def ScriptResult.nothing : ScriptResult where
  variableStore := []
  environment := []
  service := []
  application := []
  collection := []
  globals := []
  masked := []
  request := none
  requestSkipped := false
  secrets := []

/-- The response of a step: its status and the values of the enabled extractors. -/
structure StepResponse where
  statusCode : String
  extracted : List (Option String)

/-- What happens while an HTTP step is executed. -/
structure HTTPOutcome where
  /-- The values that `executeStepActions` leaves, unless an action fails. -/
  outputs : Option Values
  preRequestScript : ScriptResult
  answer : Answer
  response : Option StepResponse
  testScript : ScriptResult
  succeeded : Bool

/-! ## Writes -/

namespace ScriptResult

variable (result : ScriptResult)

def taints (key : String) : Bool := key ∈ result.masked || sensitiveKey key

def variableWrites : List (String × String) :=
  result.variableStore.flatMap fun entry =>
    [(entry.1, entry.2), ("variables." ++ entry.1, entry.2)] ++
      if result.taints entry.1 then [("secrets.__tainted." ++ entry.1, entry.2)] else []

def bareWrites (scope : String) (values : Values) : List (String × String) :=
  values.flatMap fun entry => [(entry.1, entry.2), (scope ++ entry.1, entry.2)]

def scopedWrites (scope : String) (values : Values) : List (String × String) :=
  values.map fun entry => (scope ++ entry.1, entry.2)

def preRequestWrites : List (String × String) :=
  result.variableWrites ++ bareWrites "environment." result.environment ++
    scopedWrites "service." result.service ++ scopedWrites "application." result.application ++
    bareWrites "collection." result.collection ++ scopedWrites "globals." result.globals

def testWrites : List (String × String) :=
  result.variableWrites ++ bareWrites "environment." result.environment ++
    bareWrites "collection." result.collection ++ scopedWrites "globals." result.globals

def privateWrites : List (String × String) :=
  (result.variableStore.filter fun entry => result.taints entry.1).map fun entry =>
    ("script." ++ entry.1, entry.2)

end ScriptResult

def ActionConfig.used (action : ActionConfig) : Bool :=
  action.enabled && trimSpace action.output ≠ ""

def producedOutputs (actions : List ActionConfig) (outputs : Values) :
    List (ActionConfig × String) :=
  actions.filterMap fun action =>
    (outputs.lookup action.output).map fun value => (action, value)

def sensitiveOutputs (produced : List (ActionConfig × String)) : List (String × String) :=
  (produced.filter fun output => output.1.sensitive).map fun output => (output.1.output, output.2)

def extractedValues (extractors : List ExtractorConfig) (extracted : List (Option String)) :
    List (ExtractorConfig × String) :=
  ((extractors.filter ExtractorConfig.enabled).zip extracted).filterMap fun result =>
    result.2.map fun value => (result.1, value)

def publish (stepID : String) (entry : String × String) : List (String × String) :=
  [entry, ("variables." ++ entry.1, entry.2),
    ("steps." ++ stepID ++ ".outputs." ++ entry.1, entry.2)]

/-! ## An HTTP step -/

/-- A step when its request is about to be built. -/
structure Prepared where
  /-- The variables of the run. -/
  workflowValues : Values
  /-- The variables that the request is rendered with. -/
  outputs : Values
  privateOutputs : Values
  request : RequestText

/-- The first half of `ExecuteWithScriptState`. -/
def prepare (step : HTTPStep) (outcome : HTTPOutcome) (workflowValues : Values) :
    Option Prepared :=
  outcome.outputs.map fun outputs =>
    let produced := producedOutputs (step.preRequest.filter ActionConfig.used) outputs
    let script := outcome.preRequestScript
    let workflowValues := workflowValues.writeAll (produced.flatMap fun output =>
      [(output.1.output, output.2), ("variables." ++ output.1.output, output.2)])
    let outputs := outputs ++ workflowValues.filter fun entry => (outputs.lookup entry.1).isNone
    let outputs := outputs.writeAll script.variableStore
    { workflowValues := workflowValues.writeAll script.preRequestWrites
      outputs := outputs
      privateOutputs := Values.writeAll [] (sensitiveOutputs produced ++ script.privateWrites)
      request := script.request.getD step.request }

/-- The private outputs when the request is built: the variables that are sensitive by name are
among them. -/
def Prepared.collected (prepared : Prepared) : Values :=
  prepared.privateOutputs.writeAll (prepared.outputs.filter fun entry => knownKey entry.1)

def requestSummary (lib : RequestLibrary) (e : HTTPExecutor) (step : HTTPStep)
    (outcome : HTTPOutcome) (workflowValues : Values) : Option RequestSummary :=
  (prepare step outcome workflowValues).bind fun prepared =>
    if outcome.preRequestScript.requestSkipped then none
    else buildRequest lib e outcome.answer prepared.request prepared.outputs

/-- The variables of the run after an HTTP step: the second half of `ExecuteWithScriptState` and the
publication of its outputs. -/
def runHTTP (lib : RequestLibrary) (e : HTTPExecutor) (step : HTTPStep) (outcome : HTTPOutcome)
    (workflowValues : Values) : Values :=
  match prepare step outcome workflowValues with
  | none => workflowValues
  | some prepared =>
    if outcome.preRequestScript.requestSkipped then
      prepared.workflowValues.writeAll
        ((lib.walk "" prepared.privateOutputs).flatMap (publish step.id))
    else
      match buildRequest lib e outcome.answer prepared.request prepared.outputs,
        outcome.response with
      | some _, some response =>
        let values := extractedValues step.extractors response.extracted
        let privateOutputs := prepared.collected.writeAll
          (((values.filter fun result => result.1.sensitive).map fun result =>
            (result.1.variableName, result.2)) ++ outcome.testScript.privateWrites)
        let published := (values.filter fun result => !result.1.sensitive).map fun result =>
          (result.1.variableName, result.2)
        prepared.workflowValues.writeAll (outcome.testScript.testWrites ++
          (published ++ lib.walk "" privateOutputs).flatMap (publish step.id) ++
          [("steps." ++ step.id ++ ".response.statusCode", response.statusCode)])
      | _, _ =>
        prepared.workflowValues.writeAll
          ((lib.walk "" prepared.collected).flatMap (publish step.id))

/-- The secrets that an HTTP step adds to those of the run. -/
def HTTPOutcome.secrets (step : HTTPStep) (outcome : HTTPOutcome) : List String :=
  outcome.preRequestScript.secrets ++
    (sensitiveOutputs (producedOutputs (step.preRequest.filter ActionConfig.used)
      (outcome.outputs.getD []))).map Prod.snd ++
    ((outcome.response.toList.flatMap fun response =>
      extractedValues step.extractors response.extracted).filter
        fun result => result.1.sensitive).map Prod.snd ++
    outcome.testScript.secrets

/-! ## Runs of a workflow -/

/-- A run between two steps. -/
structure WorkflowState where
  values : Values
  running : Bool
  /-- The secrets of the run so far. -/
  secrets : List String

/-- The start of a run, once the environment, the secrets of the definition and the setup script
have left their values; `resolved` are the secrets that the setup script was given. -/
def WorkflowState.initial (values : Values) (resolved : List String) : WorkflowState where
  values := values
  running := true
  secrets := (values.filter fun entry => hasPrefix entry.1 "secrets.").map Prod.snd ++ resolved

/-- One step of the definition, with what happens. -/
inductive StepExecution where
  | http (step : HTTPStep) (outcome : HTTPOutcome)
  /-- A step of type `ACTION`, with the values that its actions leave. -/
  | action (stepID : String) (actions : List ActionConfig) (outputs : Option Values)
  /-- A step of type `METRIC_VALIDATION`, with its value. -/
  | metric (stepID : String) (value : Option String) (succeeded : Bool)

/-- **One step of a run.** -/
def workflowStep (lib : RequestLibrary) (e : HTTPExecutor) (s : WorkflowState) :
    StepExecution → Option WorkflowState
  | .http step outcome =>
    if s.running then
      some
        { values := runHTTP lib e step outcome s.values
          running := outcome.succeeded
          secrets := s.secrets ++ outcome.secrets step }
    else none
  | .action stepID actions outputs =>
    if s.running then
      let produced := producedOutputs
        (actions.filter fun action => action.enabled && action.output ≠ "") (outputs.getD [])
      some
        { values := s.values.writeAll
            ((produced.map fun output => (output.1.output, output.2)).flatMap (publish stepID))
          running := outputs.isSome
          secrets := s.secrets ++ (sensitiveOutputs produced).map Prod.snd }
    else none
  | .metric stepID value succeeded =>
    if s.running then
      some
        { s with
          values := s.values.writeAll (value.toList.flatMap fun value =>
            publish stepID ("value", value))
          running := succeeded }
    else none

end Rhythm.Runs
