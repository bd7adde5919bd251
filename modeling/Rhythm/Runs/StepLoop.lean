import Rhythm.Runs.Decoding
import Rhythm.Runs.Preview

/-!
# Rhythm.Runs.StepLoop

`runWithSnapshot`, from the record of the run on: the environment, the secrets and the setup script,
the loop over the steps, and the events and the steps that the record collects on the way.  What a
step, the setup script and the repository answer is a parameter, turn by turn.

A turn of the loop looks at one step of the definition.  `turn` is what it does, `stepLoop` takes
turn after turn, with what is left of the limit.
-/

namespace Rhythm.Runs.StepLoop

open Decoding (StepDefinition Definition)

/-! ## Records -/

/-- A request of a script, as its event tells it. -/
structure AuxiliaryRequest where
  success : Bool
  error : String

/-- `scripts.Result`, as far as the loop reads it; its navigation is with the step. -/
structure ScriptResult where
  succeeded : Bool
  errorCategory : String
  errorMessage : String
  auxiliaryRequests : List AuxiliaryRequest

structure AttemptRun where
  attemptNumber : Nat
  status : Status
  failureCategory : String

/-- What executing a step leaves. -/
structure Executed extends Preview.StepRun where
  errorMessage : String
  attempts : List AttemptRun
  /-- Which of the assertions have passed. -/
  assertions : List Bool
  preRequestScript : Option ScriptResult
  testScript : Option ScriptResult

/-- `StepRun`; its identifier and those of the run are left out. -/
structure StepRun extends Executed where
  stepDefinitionID : String
  stepOrder : Nat
  stepName : String
  stepType : String

/-- `RunEvent`, without its details. -/
structure RunEvent where
  sequence : Nat
  type : String
  status : Status
  stepID : String := ""
  attemptNumber : Nat := 0
  category : String
  message : String

/-- `Run`, as far as an execution writes it. -/
structure Run where
  status : Status
  failureCategory : String
  failureReason : String
  failedStepID : String
  startedAt : Time
  endedAt : Option Time
  setupScript : Option ScriptResult
  steps : List StepRun
  events : List RunEvent

/-! ## Events -/

/-- `appendRunEvent`. -/
def appendRunEvent (run : Run) (type : String) (status : Status) (message category : String) :
    Run :=
  { run with events := run.events ++
    [{ sequence := run.events.length + 1, type, status, category, message }] }

/-- `appendStepEvent`. -/
def appendStepEvent (step : StepRun) (run : Run) (type : String) (status : Status)
    (message category : String) : Run :=
  { run with events := run.events ++
    [{ sequence := run.events.length + 1, type, status, stepID := step.stepDefinitionID,
       category, message }] }

/-- `appendAttemptEvent`. -/
def appendAttemptEvent (step : StepRun) (run : Run) (attempt : AttemptRun) : Run :=
  { run with events := run.events ++
    [{ sequence := run.events.length + 1, type := "ATTEMPT_COMPLETED", status := attempt.status,
       stepID := step.stepDefinitionID, attemptNumber := attempt.attemptNumber,
       category := attempt.failureCategory, message := "Request attempt completed." }] }

/-- Appends an event of a type, with a status, a message and a category. -/
abbrev Appender := Run → String → Status → String → String → Run

/-- `appendAuxiliaryRequestEvents`. -/
def appendAuxiliaryRequestEvents (append : Appender) (run : Run)
    (requests : List AuxiliaryRequest) : Run :=
  requests.zipIdx.foldl (fun run (request, index) =>
    if request.success = false ∨ request.error ≠ "" then
      append run "AUXILIARY_REQUEST_COMPLETED" .failed
        ("Pre-request pm.sendRequest #" ++ toString (index + 1) ++ " failed.")
        "AUXILIARY_REQUEST_FAILURE"
    else
      append run "AUXILIARY_REQUEST_COMPLETED" .success
        ("Pre-request pm.sendRequest #" ++ toString (index + 1) ++ " completed.") "") run

def appendScriptEvents (append : Appender) (type message : String) (status : Status) (run : Run)
    (script : ScriptResult) : Run :=
  let run :=
    if script.succeeded then
      append run (type ++ "_COMPLETED") status (message ++ " completed.") script.errorCategory
    else append run (type ++ "_FAILED") status (message ++ " failed.") script.errorCategory
  appendAuxiliaryRequestEvents append run script.auxiliaryRequests

def appendScriptsStarted (run : Run) (step : StepDefinition) : Run :=
  let run :=
    if Text.trimSpace step.request.preRequestScript.code ≠ "" then
      appendRunEvent run "PRE_REQUEST_SCRIPT_STARTED" .running "Request pre-request script started."
        ""
    else run
  if Text.trimSpace step.request.testScript.code ≠ "" then
    appendRunEvent run "TEST_SCRIPT_STARTED" .running "Response Tests script scheduled." ""
  else run

/-- The events before a step; its scripts are started when its condition holds. -/
def appendStarted (run : Run) (step : StepDefinition) (holds : Bool) : Run :=
  let run := appendRunEvent run "STEP_STARTED" .running "Step started." ""
  if holds ∧ step.type = "HTTP_REQUEST" then appendScriptsStarted run step else run

/-- Extractors or assertions, if there are any; which of them have passed. -/
def appendEvaluated (append : Appender) (type message category : String) (status : Status)
    (run : Run) (passed : List Bool) : Run :=
  if passed = [] then run
  else append run type status message (if false ∈ passed then category else "")

/-- The events after a step, up to `STEP_COMPLETED`. -/
def appendStepEvents (run : Run) (step : StepRun) : Run :=
  let append := appendStepEvent step
  let run := step.preRequestScript.toList.foldl (appendScriptEvents append "PRE_REQUEST_SCRIPT"
    "Request pre-request script" step.status) run
  let run := step.testScript.toList.foldl (appendScriptEvents append "TEST_SCRIPT"
    "Response Tests script" step.status) run
  let run :=
    if step.stepType = "HTTP_REQUEST" then
      append run "REQUEST_COMPLETED" step.status "HTTP request completed." step.failureCategory
    else run
  let run := step.attempts.foldl (appendAttemptEvent step) run
  let run := appendEvaluated append "EXTRACTORS_EVALUATED" "Response extractors evaluated."
    "EXTRACTOR_FAILURE" step.status run (step.extractors.map (·.success))
  let run := appendEvaluated append "ASSERTIONS_EVALUATED" "Success criteria evaluated."
    "ASSERTION_FAILURE" step.status run step.assertions
  appendRunEvent run "STEP_COMPLETED" step.status "Step completed." step.failureCategory

/-! ## The host of a run -/

/-- `finishStep` is called with these. -/
def finishStatuses : List Status := [.success, .failed, .timedOut, .skippedCondition]

/-- What the executor answers: the step, what its actions have produced, and the variables as it
leaves them. -/
structure Outcome where
  executed : Executed
  finished : executed.status ∈ finishStatuses
  produced : List (String × String)
  values : ValueMap

/-- Where a save is made whose error is not dropped. -/
inductive SavePoint where
  | start
  | turn (number : Nat)
  | finish

/-- What a run depends on; turns are numbered from 0. -/
structure Host where
  floats : FloatLibrary
  /-- `%q`. -/
  quote : String → String
  started : Time
  ended : Time
  queued : Bool
  /-- The error of a save. -/
  save : SavePoint → Option String
  /-- `loadEnvironmentValues`. -/
  environment : Option ValueMap
  /-- `ResolveDefinitionSecrets`, which adds to the variables. -/
  resolveSecrets : ValueMap → Option ValueMap
  executeSetupScript : ValueMap → ScriptResult × ValueMap
  /-- The context is cancelled when a turn starts, or while its step is executed. -/
  cancelledBefore : Nat → Bool
  cancelledDuring : Nat → Bool
  /-- `ExecuteActions`, `ExecuteWithScriptState` or `ExecuteMetric`. -/
  execute : Nat → StepDefinition → ValueMap → Outcome

/-- The step as `Rhythm.Runs.Preview` has it. -/
def workflowStep (step : StepDefinition) : Preview.Step where
  id := step.id
  name := step.name
  type :=
    match step.type with
    | "ACTION" => .action
    | "HTTP_REQUEST" => .httpRequest
    | "METRIC_VALIDATION" => .metricValidation
    | type => .other type
  enabled := step.enabled
  condition := step.condition

def unexecuted (status : Status) (failureCategory errorMessage : String) : Executed :=
  ⟨⟨status, failureCategory, [], [], none, none, none, none⟩, errorMessage, [], [], none, none⟩

/-- `conditionErr.Error()`. -/
def conditionMessage (quote : String → String) : ConditionError → String
  | .unresolved name => "condition variable " ++ quote name ++ " is unresolved"
  | .operandUnresolved => "condition operand is unresolved"

def Host.conditionHolds (h : Host) (step : StepDefinition) (values : ValueMap) : Bool :=
  match evaluateCondition h.floats step.condition values.entries with
  | .ok holds => holds
  | .error _ => false

/-- The condition and the `switch` over the types. -/
def Host.executeStep (h : Host) (number : Nat) (step : StepDefinition) (values : ValueMap) :
    Outcome :=
  match evaluateCondition h.floats step.condition values.entries with
  | .error e =>
    ⟨unexecuted .failed "CONDITION_EVALUATION_FAILURE" (conditionMessage h.quote e),
      (by decide : .failed ∈ finishStatuses), [], values⟩
  | .ok false => ⟨unexecuted .skippedCondition "" "", by decide, [], values⟩
  | .ok true =>
    match (workflowStep step).type with
    | .action => h.execute number step values
    | .httpRequest | .metricValidation => { h.execute number step values with produced := [] }
    | .other _ =>
      ⟨unexecuted .failed "CONFIGURATION_ERROR" "Unsupported workflow step type.", by decide, [],
        values⟩

/-- The context was cancelled while the step was executed. -/
def Executed.cancel (executed : Executed) : Executed :=
  { executed with
    status := .cancelled
    failureCategory := "RUN_CANCELLED"
    errorMessage := "Execution was cancelled." }

def Host.stepRun (h : Host) (number index : Nat) (step : StepDefinition) (outcome : Outcome) :
    StepRun :=
  { (if h.cancelledDuring number then outcome.executed.cancel else outcome.executed) with
    stepDefinitionID := step.id
    stepOrder := index + 1
    stepName := step.name
    stepType := step.type }

def publishedValues (step : StepDefinition) (outcome : Outcome) (result : StepRun) : ValueMap :=
  let published : Preview.Outcome := ⟨result.toStepRun, outcome.produced, outcome.values⟩
  Preview.writeAll (Preview.writeAll outcome.values (published.published step.id))
    (result.toStepRun.telemetry (workflowStep step))

def StepRun.passes (step : StepRun) : Bool :=
  step.status = .success || step.status = .skippedCondition

/-- The target of `setNextRequest`; the Tests script has the last word. -/
def StepRun.nextRequest (step : StepRun) : Option String := step.testNext.or step.preRequestNext

/-! ## The loop -/

def Run.fail (run : Run) (status : Status) (category reason stepID : String) : Run :=
  { run with
    status := status
    failureCategory := category
    failureReason := reason
    failedStepID := stepID }

def Run.afterStep (run : Run) (step : StepDefinition) (holds : Bool) (result : StepRun) : Run :=
  let run := appendStarted run step holds
  appendStepEvents { run with steps := run.steps ++ [result] } result

/-- What a turn comes to. -/
inductive Turn where
  | stops (run : Run)
  | fails (error : String)
  | goesOn (index : Nat) (values : ValueMap) (run : Run)

/-- `setNextRequest`, after a step that has passed. -/
def Host.navigate (h : Host) (d : Definition) (index : Nat) (step : StepDefinition)
    (result : StepRun) (values : ValueMap) (run : Run) : Turn :=
  match result.nextRequest with
  | none => .goesOn (index + 1) values run
  | some target =>
    let run := appendStepEvent result run "SCRIPT_WORKFLOW_NAVIGATION" result.status
      "JavaScript selected the next workflow step." ""
    if target = "" then .stops run
    else
      match d.steps.findIdx? fun candidate => candidate.id = target ∨ candidate.name = target with
      | some next => .goesOn next values run
      | none =>
        .stops (run.fail .failed "SCRIPT_POLICY_VIOLATION"
          ("pm.execution.setNextRequest target " ++ h.quote target ++ " was not found.") step.id)

def Host.visit (h : Host) (d : Definition) (number index : Nat) (step : StepDefinition)
    (values : ValueMap) (run : Run) : Turn :=
  let outcome := h.executeStep number step values
  let result := h.stepRun number index step outcome
  let run := run.afterStep step (h.conditionHolds step values) result
  if result.status = .cancelled then
    .stops (run.fail .cancelled "RUN_CANCELLED" "Execution was cancelled." step.id)
  else if result.passes = false then
    .stops (run.fail result.status result.failureCategory result.errorMessage step.id)
  else
    match h.save (.turn number) with
    | some error => .fails error
    | none => h.navigate d index step result (publishedValues step outcome result) run

/-- **One turn of the loop.** -/
def Host.turn (h : Host) (d : Definition) (number index : Nat) (step : StepDefinition)
    (values : ValueMap) (run : Run) : Turn :=
  if run.status ≠ .running then .stops run
  else if h.cancelledBefore number then
    .stops (run.fail .cancelled "RUN_CANCELLED"
      "Execution was cancelled before the next step started." run.failedStepID)
  else if step.enabled = false then .goesOn (index + 1) values run
  else h.visit d number index step values run

def Run.limitExceeded (run : Run) : Run :=
  run.fail .failed "SCRIPT_POLICY_VIOLATION"
    "Workflow navigation exceeded the 100-step execution limit." run.failedStepID

/-- **The loop over the steps**, with what is left of the limit. -/
def stepLoop (h : Host) (d : Definition) : Nat → Nat → Nat → ValueMap → Run → Except String Run
  | 0, _, index, _, run => .ok (if index < d.steps.length then run.limitExceeded else run)
  | remaining + 1, number, index, values, run =>
    match d.steps[index]? with
    | none => .ok run
    | some step =>
      match h.turn d number index step values run with
      | .stops run => .ok run
      | .fails error => .error error
      | .goesOn index values run => stepLoop h d remaining (number + 1) index values run

/-! ## The run -/

def Host.startRun (h : Host) : Run :=
  let run : Run := ⟨.running, "", "", "", h.started, none, none, [], []⟩
  let run :=
    if h.queued then
      appendRunEvent run "RUN_QUEUED" .queued "Run accepted and queued for execution." ""
    else run
  appendRunEvent run "RUN_STARTED" .running "Execution started." ""

/-- The record of a run whose environment or secrets are not there. -/
def Host.unprepared (h : Host) (run : Run) (category reason : String) : Run :=
  { appendRunEvent (run.fail .failed category reason run.failedStepID) "RUN_FAILED" .failed reason
      category with
    endedAt := some h.ended }

def Run.afterSetup (run : Run) (script : ScriptResult) : Run :=
  let run := appendRunEvent run "PRE_REQUEST_SCRIPT_STARTED" .running
    "Monitor setup script started." ""
  let run := { run with setupScript := some script }
  if script.succeeded then
    appendAuxiliaryRequestEvents appendRunEvent
      (appendRunEvent run "PRE_REQUEST_SCRIPT_COMPLETED" .success "Monitor setup script completed."
        "") script.auxiliaryRequests
  else
    appendAuxiliaryRequestEvents appendRunEvent
      (appendRunEvent (run.fail .failed script.errorCategory script.errorMessage run.failedStepID)
        "PRE_REQUEST_SCRIPT_FAILED" .failed "Monitor setup script failed." script.errorCategory)
      script.auxiliaryRequests

def Host.setUp (h : Host) (d : Definition) (values : ValueMap) (run : Run) : ValueMap × Run :=
  if Text.trimSpace d.scripts.preRequest.code = "" then (values, run)
  else
    let (script, values) := h.executeSetupScript values
    (values, run.afterSetup script)

def Run.settled (run : Run) : Run :=
  if run.status = .running then { run with status := .success } else run

def Host.completed (h : Host) (run : Run) : Run :=
  let run := { run.settled with endedAt := some h.ended }
  appendRunEvent run "RUN_COMPLETED" run.status "Execution reached a terminal state."
    run.failureCategory

def stepLimit : Nat := 100

def Host.executeSteps (h : Host) (d : Definition) (values : ValueMap) (run : Run) :
    Except String Run :=
  match stepLoop h d stepLimit 0 0 values run with
  | .error error => .error error
  | .ok run =>
    match h.save .finish with
    | some error => .error error
    | none => .ok (h.completed run)

/-- **`runWithSnapshot`**, once the record of the run is there. -/
def runWithSnapshot (h : Host) (d : Definition) : Except String Run :=
  match h.save .start with
  | some error => .error error
  | none =>
    match h.environment with
    | none =>
      .ok (h.unprepared h.startRun "ENVIRONMENT_RESOLUTION_FAILED"
        ("The selected environment could not be loaded. Check that it is active and its secret " ++
          "references are valid."))
    | some values =>
      match h.resolveSecrets values with
      | none =>
        .ok (h.unprepared h.startRun "SECRET_RESOLUTION_FAILED"
          "A referenced secret could not be resolved. Check the alias and secret profile state.")
      | some values =>
        let (values, run) := h.setUp d values h.startRun
        h.executeSteps d values run

end Rhythm.Runs.StepLoop
